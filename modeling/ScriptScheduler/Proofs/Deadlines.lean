import ScriptScheduler.Proofs.EngineScripts
import ScriptScheduler.Proofs.Waiting
import ScriptScheduler.Proofs.Resolution
import ScriptScheduler.Proofs.WakeCauses

/-!
# Requests that time out

The timeout of a request is kept as the wake clock of its owner and nowhere else. As long as the
owner does nothing but wait for this one request, it sleeps with that clock, or is parked for the
debugger (`Executor.Biding`), and the request ends at the clock and not before. An owner that the
engine manages, has a child or has other requests may lose the clock while the request is pending.
So a request times out, whatever else happens, just when at the time it is made its owner is not
managed by the engine and has neither a child nor another request (`Reachable.timesOut_iff`).
-/

namespace ScriptScheduler

open Scheduler

/-! ### Waiting for one request -/

namespace Thread

variable {t : Thread}

/-- A thread with a wake clock that is held gets a timer for it, unless it is parked for the
debugger. -/
theorem held_timed (seq : Nat) (mine : t.holdList ≠ .external) (ever : t.sleepUntil ≠ Clock.never) :
    (t.held seq).holdList = .timeout ∧ (t.held seq).timer = some ⟨t.sleepUntil, seq⟩ ∨
      (t.held seq).holdList = .debugger := by
  unfold held
  cases list : t.holdList with
  | external => exact absurd list mine
  | debugger => exact .inr (by simp [HoldList.isFixed, list])
  | none => exact .inl (by simp [HoldList.isFixed, ever])
  | timeout => exact .inl (by simp [HoldList.isFixed, ever])
  | noTimeout => exact .inl (by simp [HoldList.isFixed, ever])

/-- A thread that is freed is in no list of sleepers. -/
theorem freed_not_timed : t.freed.holdList ≠ .timeout := by
  unfold freed
  split
  · next fixed =>
    intro timed
    rw [timed] at fixed
    exact absurd fixed (by decide)
  · simp [detached]

end Thread

namespace Executor

variable {ex : Executor} {wake : Nat} {id : RequestId}

/-- The script sleeps until the clock `wake`, or is parked for the debugger until then, and waits
for nothing but the answer to the request `id`. -/
structure Biding (wake : Nat) (id : RequestId) (ex : Executor) : Prop where
  asleep : ex.thread.blocked = true
  clock : ex.thread.sleepUntil = wake
  waitType : ex.thread.waitType = .wait
  childless : ex.child = none
  sole : ∀ other ∈ ex.requests.ids, other = id
  place : ex.thread.holdList = .timeout ∧ (∃ seq, ex.thread.timer = some ⟨wake, seq⟩) ∨
    ex.thread.holdList = .debugger

namespace Biding

/-- Such a script is in a hold list and is not managed by the engine. -/
theorem held (h : ex.Biding wake id) :
    ex.thread.holdList ≠ .none ∧ ex.thread.holdList ≠ .external := by
  rcases h.place with ⟨list, -⟩ | list
  · rw [list]
    exact ⟨by decide, by decide⟩
  · rw [list]
    exact ⟨by decide, by decide⟩

/-- Such a script is blocked. -/
theorem isBlocked (h : ex.Biding wake id) : ex.isBlocked = true := by
  unfold Executor.isBlocked Thread.isBlocked
  rw [h.asleep]
  rfl

/-- Such a script is due from its wake clock on. -/
theorem isDue (h : ex.Biding wake id) (running : ex.thread.holdList ≠ .debugger) (now : Nat) :
    ex.isDue now = decide (wake ≤ now) := by
  obtain ⟨-, seq, timer⟩ := h.place.resolve_right running
  unfold Executor.isDue
  rw [timer]

/-- When another script is removed it goes on waiting. -/
theorem bereft (h : ex.Biding wake id) (gone : Executor) : (ex.bereft gone).Biding wake id := by
  have left : ex.bereft gone = ex ∨ ex.bereft gone = { ex with parent := none } := by
    unfold Executor.bereft
    rw [h.childless]
    simp only [reduceCtorEq, and_false, if_false]
    split
    · exact .inr rfl
    · exact .inl rfl
  rcases left with same | same
  · rw [same]
    exact h
  · rw [same]
    exact { h with }

/-- When it is halted it goes on waiting. -/
theorem halted (h : ex.Biding wake id) :
    ({ ex with halted := true }.mapThread fun t =>
      { t.detached with holdList := .debugger }).Biding wake id :=
  { h with place := .inr rfl }

/-- When it is released it sleeps on with its wake clock. -/
theorem released (h : ex.Biding wake id) (ever : wake ≠ Clock.never) (seq : Nat) :
    ({ ex with halted := false }.mapThread fun t => t.detached.held seq).Biding wake id := by
  obtain ⟨blocked, sleepUntil, waitType⟩ := ex.thread.detached.held_sleep seq
  refine ⟨blocked.trans h.asleep, sleepUntil.trans h.clock, waitType.trans h.waitType, h.childless,
    h.sole, ?_⟩
  have clock : ex.thread.detached.sleepUntil = wake := h.clock
  rcases ex.thread.detached.held_timed seq (by simp [Thread.detached]) (clock.symm ▸ ever) with
    ⟨list, timer⟩ | list
  · exact .inl ⟨list, seq, clock ▸ timer⟩
  · exact .inr list

/-- An event that is sent to it waits in its queue. -/
theorem posted (h : ex.Biding wake id) {event : Val} {thread : Thread}
    (posted : ex.thread.post event = .ok thread) : { ex with thread := thread }.Biding wake id := by
  obtain ⟨capacity, events, -, rfl⟩ := Thread.post_ok posted
  exact { h with }

/-- When it is edited it goes on waiting. -/
theorem edit (h : ex.Biding wake id) (edit : Edit) : (edit.apply ex).Biding wake id := by
  cases edit with
  | push | setCritical | setPriority | setWarnOnRunaway => exact { h with }
  | setEventQueueSize size =>
    change ({ ex with
      options := { ex.options with eventQueueSize := size }
      thread := ex.thread.setCapacity size } : Executor).Biding wake id
    unfold Thread.setCapacity
    split
    · exact { h with }
    · exact { h with }

end Biding

end Executor

/-! ### What an owner does on its own -/

/-- The script that, by an entry, has made a request or has launched a child. -/
def Entry.actor? : Entry → Option Pid
  | .asked pid _ => some pid
  | .effect (.notice (.childStarted parent _)) => some parent
  | _ => none

/-- By the record the script `pid` has neither made a request nor launched a child. -/
def Quiet (pid : Pid) (entries : List Entry) : Prop := ∀ entry ∈ entries, entry.actor? ≠ some pid

namespace Quiet

variable {pid : Pid} {entries more : List Entry}

/-- By an empty record nobody has done anything. -/
theorem nil (pid : Pid) : Quiet pid [] := List.forall_mem_nil _

/-- Records one after the other. -/
theorem append (h₁ : Quiet pid entries) (h₂ : Quiet pid more) : Quiet pid (entries ++ more) :=
  List.forall_mem_append.mpr ⟨h₁, h₂⟩

/-- The beginning of a record. -/
theorem left (h : Quiet pid (entries ++ more)) : Quiet pid entries :=
  fun entry mem => h entry (List.mem_append_left _ mem)

/-- The end of a record. -/
theorem right (h : Quiet pid (entries ++ more)) : Quiet pid more :=
  fun entry mem => h entry (List.mem_append_right _ mem)

end Quiet

namespace Scheduler

variable {s s' : Scheduler} {pid : Pid} {ex : Executor} {wake : Nat} {id : RequestId}

/-- When another script has a turn or is removed a script that waits for one request goes on
waiting. -/
theorem Departs.biding {gone : Executor} (departs : Departs s gone s') (apart : pid ≠ gone.pid)
    (found : s.get? pid = some ex) (h : ex.Biding wake id) :
    ∃ ex', s'.get? pid = some ex' ∧ ex'.Biding wake id := by
  refine ⟨ex.bereft gone, ?_, h.bereft gone⟩
  rw [departs.get?_of_ne apart, found]
  rfl

/-- A script that waits for a request and is sent an event goes on waiting. -/
theorem biding_signalEvent (found : s.get? pid = some ex) (h : ex.Biding wake id) (event : Val) :
    ∃ ex', (s.signalEvent pid event).value.2.get? pid = some ex' ∧ ex'.Biding wake id := by
  have busy : ¬ ex.awaitsEvent = true := by
    unfold Executor.awaitsEvent
    simp [h.waitType]
  unfold signalEvent Executor.signalEvent
  rw [found]
  dsimp only
  rw [if_neg busy]
  cases posted : ex.thread.post event with
  | error cause => exact ⟨ex, found, h⟩
  | ok thread =>
    have own : ex.pid = pid := pid_of_get? found
    exact ⟨{ ex with thread := thread }, get?_store found own, h.posted posted⟩

/-- The launch of a child changes no script but the parent, and is recorded. -/
theorem get?_runScript_of_quiet {parent : Pid} {program : Program}
    {ran : Logged (Pid × Scheduler)} (launched : s.runScript parent program = .ok ran)
    (numbers : s.Numbered) (found : s.get? pid = some ex) (quiet : Quiet pid ran.entries) :
    ran.value.2.get? pid = some ex := by
  obtain ⟨waiting, child, isParent, -, prepared, rfl⟩ := runScript_launched launched
  have apart : pid ≠ parent := by
    rintro rfl
    exact quiet.right _ List.mem_cons_self rfl
  exact ((get?_awaitChild numbers prepared isParent).2.2 pid
    (apart_of_prepare numbers prepared found) apart).trans found

/-- A request that is not recorded has been refused. -/
theorem register_of_quiet {entity : EntityId} {kind : RequestKind} {clock : Nat}
    {callback : Callback} (quiet : Quiet pid (s.register pid entity kind clock callback).entries) :
    (s.register pid entity kind clock callback).value.2 = s := by
  have idle : ∀ {ex : Executor}, s.get? pid = some ex → ex.mayAsk = true → False := by
    intro ex found able
    rw [Answers.register_entries found able] at quiet
    exact quiet _ List.mem_cons_self rfl
  have made := registered s pid entity kind clock callback
  generalize (s.register pid entity kind clock callback).value.1 = answer at made
  generalize (s.register pid entity kind clock callback).value.2 = s' at made ⊢
  cases made with
  | refused => rfl
  | takenBack found able => exact absurd able fun able => idle found able
  | asked found able => exact absurd able fun able => idle found able

/-- A script that waits for a request and is halted is parked. -/
theorem biding_halt (found : s.get? pid = some ex) (h : ex.Biding wake id)
    (halted : s.halt pid = .ok s') : ∃ ex', s'.get? pid = some ex' ∧ ex'.Biding wake id := by
  obtain ⟨own, isOwn, -, parked, -⟩ := Evolves.get?_halt halted
  obtain rfl := Option.some.inj (found.symm.trans isOwn)
  exact ⟨_, parked, h.halted⟩

/-- A script that waits for a request and is released sleeps on. -/
theorem biding_release {away : List Pid} (placed : Placed away s) (ever : wake ≠ Clock.never)
    (found : s.get? pid = some ex) (h : ex.Biding wake id) (released : s.release pid = .ok s') :
    ∃ ex', s'.get? pid = some ex' ∧ ex'.Biding wake id := by
  obtain ⟨own, isOwn, -, ⟨seq, sleeps⟩, -⟩ := Evolves.get?_release placed released
  obtain rfl := Option.some.inj (found.symm.trans isOwn)
  rw [h.isBlocked] at sleeps
  exact ⟨_, sleeps, h.released ever seq⟩

/-- A script that waits for one request has no other one, so it is this request that ends when one
of the script ends. -/
theorem ended_resolve {request other : Request} (h : ex.Biding wake request.id) (indexed : Indexed s)
    (found : s.get? request.pid = some ex) (pending : other ∈ s.requests.pending)
    (own : other.pid = request.pid) (value : Option Val) :
    request ∉ (s.resolve other value).value.requests.pending := by
  have held : other.id ∈ ex.requests.ids := (indexed.mem_ids found).mpr ⟨other, pending, rfl, own⟩
  rw [requests_resolve s other value]
  intro still
  exact of_decide_eq_true (List.mem_filter.mp still).2 (h.sole _ held).symm

/-- When a sleeper is woken its requests end. -/
theorem ended_wake {request : Request} (indexed : Indexed s)
    (pending : request ∈ s.requests.pending) (found : s.get? request.pid = some ex) :
    request ∉ (s.wake request.pid).value.requests.pending := by
  have held : request.id ∈ ex.requests.ids := (indexed.mem_ids found).mpr ⟨request, pending, rfl, rfl⟩
  rw [pending_wake indexed found]
  intro still
  exact of_decide_eq_true (List.mem_filter.mp still).2 held

end Scheduler

/-- A move in which a script neither makes a request nor launches a child leaves the script waiting
for a request that stays pending. -/
theorem Move.biding {m m' : Moment} {entries : List Entry} {request : Request} {wake : Nat}
    {ex : Executor} (move : Move m entries m') (sound : m.Sound) (ever : wake ≠ Clock.never)
    (quiet : Quiet request.pid entries) (before : request ∈ m.state.requests.pending)
    (after : request ∈ m'.state.requests.pending) (found : m.state.get? request.pid = some ex)
    (h : ex.Biding wake request.id) :
    ∃ ex', m'.state.get? request.pid = some ex' ∧ ex'.Biding wake request.id := by
  have indexed := sound.indexed
  have live := (move.sound sound).indexed.live after
  have stays : m'.state.get? request.pid = m.state.get? request.pid →
      ∃ ex', m'.state.get? request.pid = some ex' ∧ ex'.Biding wake request.id :=
    fun same => ⟨ex, same.trans found, h⟩
  -- whoever is removed in the move is another script
  have left : ∀ {gone : Executor}, Departs m.state gone m'.state →
      ∃ ex', m'.state.get? request.pid = some ex' ∧ ex'.Biding wake request.id := by
    intro gone departs
    refine departs.biding ?_ found h
    intro same
    rw [same, departs.get?_self] at live
    exact absurd live (by decide)
  cases move with
  | tell => exact stays rfl
  | tellEngine => exact stays rfl
  | start prepared =>
    exact stays (get?_enroll_of_ne (apart_of_prepare sound.numbers prepared found))
  | startChild launched => exact ⟨ex, get?_runScript_of_quiet launched sound.numbers found quiet, h⟩
  | startAway prepared =>
    exact stays (get?_enroll_of_ne (apart_of_prepare sound.numbers prepared found))
  | takeBatch => exact stays rfl
  | skip => exact stays rfl
  | @turn s _ _ pid other ran _ _ isOther free runs =>
    have apart : request.pid ≠ pid := by
      rintro rfl
      rw [isOther] at found
      -- a script that waits is on a hold list and has no turn
      obtain rfl := Option.some.inj found
      exact h.held.1 free
    obtain ⟨now, slice⟩ := runs.slice
    rcases Departs.turn isOther slice with alters | ⟨gone, -, departs⟩
    · exact stays (alters.others _ apart)
    · exact left departs
  | collect => exact stays rfl
  | @complete s _ done =>
    cases isDone : s.get? done.pid with
    | none => exact stays (by rw [completeExternal_of_not_live isDone])
    | some other => exact left (.completeExternal (.of_same (fun _ => rfl) rfl) rfl isDone _)
  | settleCall => exact stays rfl
  | @signal s _ _ pid event =>
    by_cases own : request.pid = pid
    · subst own
      exact biding_signalEvent found h event
    · exact stays (Alters.signalEvent.others _ own)
  | @halt s s' _ _ pid halted =>
    by_cases own : request.pid = pid
    · subst own
      exact biding_halt found h halted
    · exact stays ((Alters.halt halted).others _ own)
  | @release s s' _ _ pid released =>
    by_cases own : request.pid = pid
    · subst own
      exact biding_release sound.placed ever found h released
    · exact stays ((Alters.release released).others _ own)
  | retire isOther result reason => exact left (.retire isOther result reason)
  | @deschedule s _ _ pid =>
    dsimp only [Scheduler.deschedule] at left stays ⊢
    cases isOther : s.get? pid with
    | none =>
      rw [isOther] at stays
      exact stays rfl
    | some other =>
      rw [isOther] at left
      exact left (.handedBack (pid_of_get? isOther ▸ isOther))
  | @request s _ _ pid =>
    by_cases own : request.pid = pid
    · subst own
      refine stays ?_
      dsimp only
      rw [register_of_quiet quiet]
    · exact stays (Alters.register.others _ own)
  | @resolve s _ _ answered other pending value =>
    by_cases own : request.pid = other.pid
    · have isPending := (RequestTable.mem_of_get? (RequestTable.get?_of_unhandled? pending)).1
      exact absurd after (ended_resolve h indexed found isPending own.symm value)
    · exact stays ((Alters.resolve value).others _ own)
  | @wake s _ _ _ _ pid rest =>
    have taken : Indexed { s with timeouts := rest } := indexed.congr rfl fun _ => rfl
    by_cases own : request.pid = pid
    · subst own
      exact absurd after (ended_wake taken before found)
    · exact stays ((Alters.wake taken).others _ own)
  | takeExits => exact stays rfl

/-! ### Checks at and before the clock -/

namespace Scheduler

/-- A request has ended for want of an answer: it is resolved, and all that its owner has been given
in answer to it is the sentinel, once. -/
structure Expired (request : Request) (owner : Executor) (entries : List Entry) (t : Scheduler) :
    Prop where
  resolved : Resolved request owner entries t
  sentinel : answersTo request.id entries = [owner.receipt request.id .sentinel]

/-- From the state `s` on a request of the script `owner` times out at the clock `wake`: whatever
happens while the owner makes no other request and launches no child, as long as the request is
pending and the owner is not parked for the debugger the request ends when the sleepers are woken
at the clock or later, and the owner wakes; and when the sleepers are woken earlier the request
stays pending and is not answered. -/
def TimesOut (s : Scheduler) (request : Request) (owner : Executor) (wake : Nat) : Prop :=
  ∀ entries t ex, Run s entries t → Quiet request.pid entries → request ∈ t.requests.pending →
    t.get? request.pid = some ex → ex.thread.holdList ≠ .debugger →
    ∀ now left, let ran := t.checkBlocked now left
      (wake ≤ now → Expired request owner (entries ++ ran.entries) ran.value.2 ∧
        ran.value.2.get? request.pid = some ex.timedOut) ∧
      (now < wake → Awaits request (entries ++ ran.entries) ran.value.2)

end Scheduler

section Sufficiency

variable {config : SchedulerConfig} {engine : Option Engine} {s t : Scheduler}
  {entries : List Entry} {request : Request} {owner asker : Executor} {wake : Nat}

/-- Along a run in which a script neither makes another request nor launches a child, the script
waits for its request as long as that is pending, and nothing is given to it in answer. -/
theorem Run.biding (run : Run s entries t) (reached : Reachable config engine s)
    (ever : wake ≠ Clock.never) (found : s.get? request.pid = some asker)
    (kind : asker.isEngine = owner.isEngine) (start : asker.Biding wake request.id)
    (quiet : Quiet request.pid entries) (pending : request ∈ t.requests.pending) :
    answersTo request.id entries = [] ∧ ∃ ex, t.get? request.pid = some ex ∧
      ex.isEngine = owner.isEngine ∧ ex.Biding wake request.id := by
  refine run.keeps (P := fun before m => Quiet request.pid before →
    request ∈ m.state.requests.pending → answersTo request.id before = [] ∧
      ∃ ex, m.state.get? request.pid = some ex ∧ ex.isEngine = owner.isEngine ∧
        ex.Biding wake request.id) reached ?_ ?_ ?_ quiet pending
  · exact fun _ _ => ⟨rfl, asker, found, kind, start⟩
  · intro before m more m' sound equipped move held quiet after
    have later : Quiet request.pid more := quiet.right
    have answers := move.answers sound equipped
    have old : request ∈ m.state.requests.pending := by
      rcases answers.arrivals request after with old | ⟨asked, -⟩
      · exact old
      · exact absurd rfl (later _ asked)
    obtain ⟨unanswered, ex, live, kind, bides⟩ := held quiet.left old
    obtain ⟨ex', live', bides'⟩ := move.biding sound ever later old after live bides
    refine ⟨?_, ex', live', (move.kind sound live live').trans kind, bides'⟩
    rcases answers.each request old with ⟨-, none⟩ | ⟨gone, -⟩
    · rw [answersTo_append, unanswered, none, List.append_nil]
    · exact absurd rfl (gone request after)
  · intro before s pid edit ex _ edited held quiet pending
    obtain ⟨unanswered, ex', live, kind, bides⟩ := held quiet pending
    have number : (edit.apply ex).pid = pid := (edit.seat_apply ex).2.trans (pid_of_get? edited)
    refine ⟨unanswered, ?_⟩
    by_cases own : request.pid = pid
    · subst own
      obtain rfl := Option.some.inj (edited.symm.trans live)
      exact ⟨edit.apply ex, get?_store edited number, (edit.isEngine_apply ex).trans kind,
        bides.edit edit⟩
    · exact ⟨ex', (get?_store_of_ne (number.symm ▸ own)).trans live, kind, bides⟩

/-- A request for which alone its owner waits times out. -/
theorem Executor.Biding.timesOut (start : asker.Biding wake request.id)
    (reached : Reachable config engine s) (ever : wake ≠ Clock.never)
    (found : s.get? request.pid = some asker) (number : owner.pid = request.pid)
    (kind : asker.isEngine = owner.isEngine) : TimesOut s request owner wake := by
  intro entries t ex run quiet pending live running now left ran
  have later := run.reachable reached
  obtain ⟨unanswered, own, isOwn, kind, bides⟩ :=
    run.biding reached ever found kind start quiet pending
  obtain rfl := Option.some.inj (live.symm.trans isOwn)
  -- until then the script has kept the wake clock of its request
  have due := bides.isDue running now
  have given := answersTo_checkBlocked later.sound later.equipped now left pending live
  have woken := get?_checkBlocked later.sound now left request.pid
  have fate := pending_checkBlocked later.sound now left request
  have performed : t.perform 0 (.checkBlocked now left) = some (answering .clocksLeft ran) := rfl
  have next : Reachable config engine ran.value.2 := later.perform performed
  rw [live, Option.map_some] at woken
  constructor
  · intro reaches
    have isDue : ex.isDue now = true := due.trans (decide_eq_true reaches)
    rw [if_pos isDue] at given
    have receipt : ex.receipt request.id .sentinel = owner.receipt request.id .sentinel :=
      Executor.receipt_congr ((pid_of_get? live).trans number.symm) kind _ _
    have once : answersTo request.id (entries ++ ran.entries) =
        [owner.receipt request.id .sentinel] := by
      rw [answersTo_append, unanswered, given, receipt, List.nil_append]
    refine ⟨⟨.of_unlisted next.indexed next.numbered ⟨_, .sentinel, once⟩ ?_, once⟩, ?_⟩
    · intro r still same
      obtain ⟨old, -⟩ := (pending_checkBlocked later.sound now left r).mp still
      obtain rfl := Holder.eq_of_id later.indexed.table.nodup old pending same
      have early := (fate.mp still).2 ex live
      exact absurd (isDue.symm.trans early) (by decide)
    · rw [if_pos isDue] at woken
      exact woken
  · intro early
    have idle : ex.isDue now = false := due.trans (decide_eq_false (Nat.not_le_of_lt early))
    refine ⟨fate.mpr ⟨pending, ?_⟩, ?_, ?_⟩
    · intro other isOther
      obtain rfl := Option.some.inj (live.symm.trans isOther)
      exact idle
    · rw [woken]
      rfl
    · rw [answersTo_append, unanswered, given, idle]
      rfl

end Sufficiency

/-! ### Owners that lose the clock -/

namespace Scheduler

variable {s t : Scheduler} {pid : Pid} {ex : Executor}

/-- A script in no list of sleepers with a wake clock is not due. -/
theorem Placed.isDue_of_untimed {away : List Pid} (placed : Placed away s)
    (found : s.get? pid = some ex) (untimed : ex.thread.holdList ≠ .timeout) (now : Nat) :
    ex.isDue now = false := by
  have timer := placed.timer_iff pid
  rw [seat_of_get? found] at timer
  unfold Executor.isDue
  split
  · next key timed => exact absurd (timer.mp (by rw [Executor.seat, timed]; rfl)) untimed
  · rfl

/-- A script that is parked for the debugger can be released. -/
theorem release_of_parked {away : List Pid} (placed : Placed away s)
    (found : s.get? pid = some ex) (parked : ex.thread.holdList = .debugger) :
    ∃ s', s.release pid = .ok s' := by
  have listed : pid ∈ s.debugger := by
    rw [placed.debugger, seat_of_get? found]
    exact parked
  exact ⟨_, Evolves.release_eq found listed⟩

/-- An operation with an answer leads to the state and has the record of what it does. -/
theorem answering_eq {α : Type} (answer : α → Answer) (ran : Logged (α × Scheduler)) :
    answering answer ran = ⟨(answer ran.value.1, ran.value.2), ran.entries⟩ :=
  congrArg (Logged.mk (answer ran.value.1, ran.value.2)) (List.append_nil _)

/-- A pending request that is aborted is resolved without a value. -/
theorem abortRequest_eq {request : Request} (indexed : Indexed s)
    (pending : request ∈ s.requests.pending) : s.abortRequest request.id =
      ⟨(true, (s.resolve request none).value), (s.resolve request none).entries⟩ := by
  unfold abortRequest
  rw [indexed.table.unhandled?_of_mem pending]
  exact congrArg (Logged.mk (true, (s.resolve request none).value)) (List.append_nil _)

/-- Giving a script an answer is neither a request nor a launch. -/
theorem quiet_handleRequest (pid : Pid) (ex : Executor) (id : RequestId) (response : Option Val)
    (engine : Option Engine) : Quiet pid (ex.handleRequest id response engine).entries := by
  have single : ∀ {entry : Entry}, entry.actor? = none → Quiet pid [entry] := fun idle =>
    List.forall_mem_singleton.mpr (by simp [idle])
  unfold Executor.handleRequest
  dsimp only
  split
  · simp only [Logged.bind_entries, Logged.perform_entries]
    refine (single rfl).append ?_
    split
    · exact .nil pid
    · exact single rfl
  · exact single rfl
  · exact single rfl

/-- When requests are dropped nobody makes a request or launches a child. -/
theorem quiet_dropRequests (pid : Pid) (engine : Option Engine) (ids : List RequestId) :
    ∀ (ex : Executor) (table : RequestTable),
      Quiet pid (dropRequests engine ids ex table).entries := by
  induction ids with
  | nil => exact fun _ _ => .nil pid
  | cons id rest ih =>
    intro ex table
    unfold dropRequests
    split
    · exact ih ex table
    · exact (quiet_handleRequest pid ex id none engine).append (ih _ _)

end Scheduler

section Necessity

variable {config : SchedulerConfig} {engine : Option Engine} {s t : Scheduler}
  {entries : List Entry} {request : Request} {owner ex : Executor} {wake : Nat}

/-- A request does not time out if its owner has got out of the list of sleepers, without being
parked for the debugger. -/
theorem Run.not_timesOut (run : Run s entries t) (reached : Reachable config engine s)
    (quiet : Quiet request.pid entries) (pending : request ∈ t.requests.pending)
    (found : t.get? request.pid = some ex) (running : ex.thread.holdList ≠ .debugger)
    (untimed : ex.thread.holdList ≠ .timeout) : ¬ TimesOut s request owner wake := by
  intro times
  have later := run.reachable reached
  obtain ⟨expired, -⟩ :=
    (times entries t ex run quiet pending found running wake 0).1 (Nat.le_refl _)
  refine expired.resolved.unlisted request ?_ rfl
  refine (pending_checkBlocked later.sound wake 0 request).mpr ⟨pending, ?_⟩
  intro other isOwner
  obtain rfl := Option.some.inj (found.symm.trans isOwner)
  exact later.placed.isDue_of_untimed found untimed wake

/-- A request does not time out if its owner has been revived, because it does not sleep on when it
is released by the debugger. -/
theorem Run.not_timesOut_of_revived (run : Run s entries t) (reached : Reachable config engine s)
    (quiet : Quiet request.pid entries) (pending : request ∈ t.requests.pending)
    (found : t.get? request.pid = some ex) (free : ex.isBlocked = false)
    (untimed : ex.thread.holdList ≠ .timeout) : ¬ TimesOut s request owner wake := by
  by_cases parked : ex.thread.holdList = .debugger
  · have placed := (run.reachable reached).placed
    obtain ⟨t', released⟩ := release_of_parked placed found parked
    obtain ⟨ex', isOwner, -, ⟨seq, self⟩, -⟩ := Evolves.get?_release placed released
    obtain rfl := Option.some.inj (found.symm.trans isOwner)
    rw [free] at self
    have step := run.step (perform_release 0 released)
    rw [List.append_nil] at step
    have gone : ∀ list, list ≠ .none → (({ ex with halted := false } : Executor).mapThread
        Thread.detached).thread.holdList ≠ list := fun list ne same => ne same.symm
    refine step.not_timesOut reached quiet ?_ self (gone _ (by decide)) (gone _ (by decide))
    rw [requests_of_aside (aside_release released)]
    exact pending
  · exact run.not_timesOut reached quiet pending found parked untimed

/-- A revived script that is freed is neither blocked nor among the sleepers. -/
theorem Executor.revived_free {thread : Thread} (idle : thread.outstanding = none) :
    thread.revive.freed.isBlocked = false ∧ thread.revive.freed.holdList ≠ .timeout :=
  ⟨Thread.freed_isBlocked.trans (Thread.isBlocked_revive idle), Thread.freed_not_timed⟩

/-- A request does not time out if its owner has a child, because the end of the child wakes the
owner. -/
theorem Reachable.not_timesOut_of_child {child : Pid} (reached : Reachable config engine s)
    (pending : request ∈ s.requests.pending) (found : s.get? request.pid = some ex)
    (link : ex.child = some child) (mine : ex.thread.holdList ≠ .external) :
    ¬ TimesOut s request owner wake := by
  have linked := reached.linked
  have isChild : s.childOf? request.pid = some child := (childOf?_of_get? found).trans link
  have isParent := (linked.paired request.pid child).mp isChild
  have older := linked.older request.pid child isChild
  obtain ⟨gone, live⟩ : ∃ gone, s.get? child = some gone := by
    cases live : s.get? child with
    | some gone => exact ⟨gone, rfl⟩
    | none =>
      rw [(links_of_not_live live).2] at isParent
      exact absurd isParent (by simp)
  obtain rfl : gone.pid = child := pid_of_get? live
  have back : gone.parent = some ex.pid := by
    rw [pid_of_get? found]
    exact (parentOf?_of_get? live).symm.trans isParent
  have apart : request.pid ≠ gone.pid := fun same => Nat.lt_irrefl _ (same ▸ older)
  -- the run takes the child away, which revives the owner with the request still pending
  have performed : s.perform 0 (.deschedule gone.pid) =
      some ⟨(.removed (some (s.remove gone).value.1), (s.remove gone).value.2),
        (s.remove gone).entries⟩ := by
    change some (answering .removed (s.deschedule gone.pid)) = _
    rw [deschedule_eq live, answering_eq]
  have run := (Run.refl s).step performed
  have departs : Departs s gone (s.remove gone).value.2 := .handedBack live
  have self : (s.remove gone).value.2.get? request.pid = some (ex.bereft gone) := by
    rw [departs.get?_of_ne apart, found]
    rfl
  have thread : (ex.bereft gone).thread = ex.thread.revive.freed :=
    (ex.thread_bereft gone).trans (if_pos ⟨back, link⟩)
  have revived := Executor.revived_free ((reached.coherent found).outstanding mine)
  rw [← thread] at revived
  refine run.not_timesOut_of_revived reached ?_ ?_ self revived.1 revived.2
  · rw [List.nil_append, remove_entries]
    exact quiet_dropRequests _ _ _ _ _
  · rw [requests_remove, (reached.indexed.table.dropFromTable gone.requests.ids).2]
    refine List.mem_filter.mpr ⟨pending, decide_eq_true ?_⟩
    exact fun held => apart (reached.indexed.own live pending held)

/-- A request does not time out if its owner has another request, because the end of that one wakes
the owner. -/
theorem Reachable.not_timesOut_of_other {other : Request} (reached : Reachable config engine s)
    (pending : request ∈ s.requests.pending) (also : other ∈ s.requests.pending)
    (own : other.pid = request.pid) (apart : request.id ≠ other.id)
    (found : s.get? request.pid = some ex) (mine : ex.thread.holdList ≠ .external) :
    ¬ TimesOut s request owner wake := by
  have indexed := reached.indexed
  have isOther : s.get? other.pid = some ex := own.symm ▸ found
  obtain ⟨eq, self, -⟩ := Evolves.abortRequest_get? indexed also isOther
  have performed : s.perform 0 (.abort other.id) = some ⟨(.resolved true,
      (s.resolve other none).value), (s.resolve other none).entries⟩ := by
    change some (answering .resolved (s.abortRequest other.id)) = _
    rw [abortRequest_eq indexed also, answering_eq]
  have run := (Run.refl s).step performed
  rw [eq, own] at self
  have revived := Executor.revived_free ((reached.coherent found).outstanding mine)
  refine run.not_timesOut_of_revived reached ?_ ?_ self revived.1 revived.2
  · rw [List.nil_append]
    unfold Scheduler.resolve Scheduler.deliver
    dsimp only
    split
    · exact .nil _
    · simp only [Logged.bind_entries, Logged.pure_entries, List.append_nil]
      exact quiet_handleRequest _ _ _ _ _
  · change request ∈ (s.resolve other none).value.requests.pending
    rw [requests_resolve s other none]
    exact List.mem_filter.mpr ⟨pending, decide_eq_true apart⟩

end Necessity

/-! ### Requests with a timeout -/

/-- A script that may make a request waits for no event. -/
theorem Reachable.waitType_of_mayAsk {config : SchedulerConfig} {engine : Option Engine}
    {s : Scheduler} {pid : Pid} {ex : Executor} (reached : Reachable config engine s)
    (found : s.get? pid = some ex) (able : ex.mayAsk = true) : ex.thread.waitType = .wait := by
  cases isEngine : ex.isEngine with
  | true => exact (reached.reserved found isEngine).waitType
  | false =>
    have free : ex.thread.blocked = false := by
      unfold Executor.mayAsk at able
      rw [isEngine, Bool.false_or, Bool.and_eq_true, Bool.not_eq_true'] at able
      exact Thread.blocked_of_isBlocked (Bool.not_eq_true' _ ▸ able.2)
    cases waits : ex.thread.waitType with
    | wait => rfl
    | event =>
      exact absurd (free.symm.trans (reached.attentive found waits)) (by decide)

/-- A script that makes a request keeps its kind and its child, and the engine manages it as
before. -/
theorem Executor.asking_keeps (ex : Executor) (wake : Nat) (holder : Holder) (seq : Nat) :
    let sleeper := { (ex.suspend wake).openResultSlot with requests := holder }.mapThread
      (Thread.held seq)
    sleeper.isEngine = ex.isEngine ∧ sleeper.child = ex.child ∧
      (sleeper.thread.holdList = .external ↔ ex.thread.holdList = .external) := by
  have suspended := ex.carries_suspend wake
  have thread : (ex.suspend wake).openResultSlot.thread = (ex.suspend wake).thread := by
    unfold openResultSlot
    split <;> rfl
  refine ⟨?_, ?_, ?_⟩
  · unfold openResultSlot
    split <;> exact suspended.isEngine
  · unfold openResultSlot
    split <;> exact suspended.child
  · unfold mapThread
    dsimp only
    rw [thread, Thread.held_holdList rfl, suspended.holdList]

/-- A script that makes its only request, while it is not managed by the engine and has no child,
waits for that request from then on. -/
theorem Executor.biding_asking {ex : Executor} {holder : Holder} {kind : RequestKind}
    {id : RequestId} {wake : Nat} (able : ex.mayAsk = true)
    (added : ex.requests.add? kind id = some holder) (ever : wake ≠ Clock.never)
    (waitType : ex.thread.waitType = .wait) (mine : ex.thread.holdList ≠ .external)
    (childless : ex.child = none) (unasked : ex.requests.isEmpty = true) (seq : Nat) :
    ({ (ex.suspend wake).openResultSlot with requests := holder }.mapThread
      (Thread.held seq)).Biding wake id := by
  have suspended : (ex.suspend wake).openResultSlot.thread = ex.thread.suspend wake ∧
      (ex.suspend wake).openResultSlot.child = none := by
    have sleepy : ¬ ex.options.runToCompletion = true := by
      unfold mayAsk at able
      simp_all
    unfold openResultSlot suspend
    rw [if_neg sleepy]
    split <;> exact ⟨rfl, childless⟩
  obtain ⟨thread, child⟩ := suspended
  unfold mapThread
  dsimp only
  rw [thread]
  obtain ⟨blocked, sleepUntil, waits⟩ := (ex.thread.suspend wake).held_sleep seq
  refine ⟨blocked, sleepUntil, waits.trans waitType, child, ?_, ?_⟩
  · intro other held
    rcases (Holder.mem_ids_of_add? added).mp held with old | same
    · rw [List.isEmpty_iff.mp unasked] at old
      exact absurd old List.not_mem_nil
    · exact same
  · rcases (ex.thread.suspend wake).held_timed seq mine ever with ⟨list, timer⟩ | list
    · exact .inl ⟨list, seq, timer⟩
    · exact .inr list

/-- A request with a timeout times out at its clock, whatever happens while its owner makes no other
request and launches no child, just when the owner, at the time of the request, is not managed by
the engine, has no child and has no other request. -/
theorem Reachable.timesOut_iff {config : SchedulerConfig} {engine : Option Engine} {s : Scheduler}
    {pid : Pid} {owner : Executor} {entity : EntityId} {kind : RequestKind} {callback : Callback}
    {now timeout patience : Nat} {asked : Logged (Answer × Scheduler)} {id : RequestId}
    (reached : Reachable config engine s) (found : s.get? pid = some owner)
    (performed : s.perform patience
      (.requestWithTimeout now pid entity kind timeout callback) = some asked)
    (made : asked.value.1 = .requested (some id)) :
    asked.value.2.TimesOut { id, pid, entity, kind, callback } owner
        (Clock.wakeAfter now timeout) ↔
      owner.thread.holdList ≠ .external ∧ owner.child = none ∧ owner.requests.isEmpty = true := by
  have after := reached.perform performed
  obtain rfl := Option.some.inj performed
  have answer : (s.register pid entity kind (Clock.wakeAfter now timeout) callback).value.1 =
      some id := by
    simpa [answering, makeRequestWithTimeout] using made
  obtain ⟨table, new, ex, holder, isOwner, able, added, live⟩ :=
    register_made reached.indexed answer
  obtain rfl := Option.some.inj (found.symm.trans isOwner)
  let request : Request := { id, pid, entity, kind, callback }
  let sleeper : Executor := { (owner.suspend (Clock.wakeAfter now timeout)).openResultSlot with
    requests := holder }.mapThread (Thread.held s.nextTimerSeq)
  let s' := (s.register pid entity kind (Clock.wakeAfter now timeout) callback).value.2
  change TimesOut s' request owner _ ↔ _
  change Reachable config engine s' at after
  have asking : s'.get? request.pid = some sleeper := live
  have pending : request ∈ s'.requests.pending := by
    rw [table]
    exact List.mem_append_right _ List.mem_cons_self
  have kept := owner.asking_keeps (Clock.wakeAfter now timeout) holder s.nextTimerSeq
  obtain ⟨kind, child, external⟩ : sleeper.isEngine = owner.isEngine ∧
    sleeper.child = owner.child ∧
      (sleeper.thread.holdList = .external ↔ owner.thread.holdList = .external) := kept
  constructor
  -- each of the three conditions is needed: where one fails, some run lets the request wait on
  · intro times
    have mine : owner.thread.holdList ≠ .external := by
      intro managed
      have place : sleeper.thread.holdList = .external := external.mpr managed
      exact Run.not_timesOut (.refl s') after (.nil pid) pending asking (by simp [place])
        (by simp [place]) times
    have place : sleeper.thread.holdList ≠ .external := fun managed => mine (external.mp managed)
    refine ⟨mine, ?_, ?_⟩
    · cases link : owner.child with
      | none => rfl
      | some young =>
        exact absurd times
          (after.not_timesOut_of_child pending asking (child.trans link) place)
    · cases unasked : owner.requests.ids with
      | nil => exact List.isEmpty_iff.mpr unasked
      | cons first rest =>
        have held : first ∈ owner.requests.ids := unasked ▸ List.mem_cons_self
        obtain ⟨other, also, number, own⟩ := (reached.indexed.mem_ids found).mp held
        refine absurd times (after.not_timesOut_of_other pending ?_ own ?_ asking place)
        · rw [table]
          exact List.mem_append_left _ also
        · exact (new other also).symm
  -- a script that waits for this request alone keeps its wake clock until the request has ended
  · rintro ⟨mine, childless, unasked⟩
    have ever : Clock.wakeAfter now timeout ≠ Clock.never := Clock.wakeAfter_ne_never now timeout
    have bides : sleeper.Biding (Clock.wakeAfter now timeout) id :=
      Executor.biding_asking able added ever (reached.waitType_of_mayAsk found able) mine childless
        unasked s.nextTimerSeq
    exact bides.timesOut after ever asking (pid_of_get? found) kind

/-- A script asks an entity and gives it ten milliseconds: the request times out. -/
theorem timesOut_asking : ∃ s owner asked,
    performAll 1 (askingRun.take 1) (.empty {} none) = some s ∧ s.get? ⟨1⟩ = some owner ∧
    s.perform 1 (.requestWithTimeout 0 ⟨1⟩ ⟨7⟩ .textEntry 10 fun _ response => some response) =
      some asked ∧
    asked.value.1 = .requested (some ⟨1⟩) ∧
    asked.value.2.TimesOut ⟨⟨1⟩, ⟨1⟩, ⟨7⟩, .textEntry, fun _ response => some response, false⟩ owner
      10 := by
  have launched : performAll 1 (askingRun.take 1) (.empty {} none) = some _ := rfl
  have reached := Reachable.empty.performAll launched
  refine ⟨_, _, _, launched, rfl, rfl, rfl, ?_⟩
  exact (@Reachable.timesOut_iff _ _ _ _ _ _ _ _ 0 10 1 _ ⟨1⟩ reached rfl rfl rfl).mpr
    ⟨by decide, rfl, rfl⟩

/-- An engine script asks an entity and gives it ten milliseconds, and asks another one, which
answers. The script is ready then, and at its clock the first request stays pending. -/
theorem not_timesOut_asking_twice : ∃ s asked t ex request,
    performAll 1 [.start (.engine "keeper" "shop")] (.empty {} (some deferringEngine)) = some s ∧
    s.perform 1 (.requestWithTimeout 0 ⟨1⟩ ⟨7⟩ .targetObject 10 fun _ response => some response) =
      some asked ∧
    asked.value.1 = .requested (some request.id) ∧
    performAll 1 [.request ⟨1⟩ ⟨8⟩ .textEntry fun _ response => some response,
      .respond ⟨2⟩ (.long 5)] asked.value.2 = some t ∧
    request ∈ t.requests.pending ∧ t.get? ⟨1⟩ = some ex ∧ ex.thread.holdList = .none ∧
    request ∈ (t.checkBlocked 10 1000).value.2.requests.pending :=
  ⟨_, _, _, _, ⟨⟨1⟩, ⟨1⟩, ⟨7⟩, .targetObject, fun _ response => some response, false⟩, rfl, rfl, rfl,
    rfl, List.mem_cons_self, rfl, rfl, List.mem_cons_self⟩

end ScriptScheduler
