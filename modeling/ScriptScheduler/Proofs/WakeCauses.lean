import ScriptScheduler.Proofs.EngineCalls
import ScriptScheduler.Proofs.Recurrence

/-!
# What can still wake a sleeper

A script that sleeps without end waits for an event, for the answer to a request or for a child,
and every change that takes the last of these away wakes it (`Change.wakeable`). Requests and links
lead both ways, so in every reachable state what a sleeper waits for is there: no script is
stranded (`Reachable.noneStranded`).
-/

namespace ScriptScheduler

open Scheduler

/-! ### Sleeping without end -/

namespace Thread

variable {t : Thread}

/-- A thread that sleeps without end waits for an event. -/
def Expectant (t : Thread) : Prop :=
  t.blocked = true → t.sleepUntil = Clock.never → t.waitType = .event

/-- A thread that does not sleep need not wait for anything. -/
theorem expectant_of_free (free : t.blocked = false) : t.Expectant :=
  fun blocked => absurd (free.symm.trans blocked) (by decide)

/-- A held thread sleeps as before. -/
theorem held_sleep (t : Thread) (seq : Nat) : (t.held seq).blocked = t.blocked ∧
    (t.held seq).sleepUntil = t.sleepUntil ∧ (t.held seq).waitType = t.waitType := by
  unfold Thread.held
  split
  · exact ⟨rfl, rfl, rfl⟩
  · split <;> exact ⟨rfl, rfl, rfl⟩

/-- A freed thread sleeps as before. -/
theorem freed_blocked (t : Thread) : t.freed.blocked = t.blocked := by
  unfold Thread.freed
  split <;> rfl

/-- A held thread is in a hold list. -/
theorem held_place (t : Thread) (seq : Nat) : (t.held seq).holdList ≠ .none := by
  unfold Thread.held
  split
  · next fixed =>
    intro none
    rw [none] at fixed
    exact absurd fixed (by decide)
  · split <;> simp

/-- A thread that is not blocked does not sleep. -/
theorem blocked_of_isBlocked (free : t.isBlocked = false) : t.blocked = false :=
  (Bool.or_eq_false_iff.mp free).1

/-- A thread without an outstanding call is blocked if it sleeps. -/
theorem isBlocked_of_idle (idle : t.outstanding = none) : t.isBlocked = t.blocked := by
  unfold outstanding at idle
  unfold isBlocked
  split at idle
  · exact Bool.or_false _
  · rw [idle]
    exact Bool.or_false _

end Thread

namespace Executor

variable {ex a b : Executor} {gone : Pid → Prop} {wrapped : Prop}

/-- What an instruction asks for puts a script to sleep without end only until an event comes. -/
theorem expectant_applyStep (h : ex.thread.Expectant) (now : Nat) (step : Step) :
    (ex.applyStep now step).1.thread.Expectant := by
  cases step with
  | proceed => exact h
  | sleep ms =>
    unfold applyStep suspend
    dsimp only
    split
    · exact h
    · exact fun _ never => absurd never (Clock.wakeAfter_ne_never now _)
  | waitForEvent timeout =>
    unfold applyStep
    dsimp only
    split
    · next event thread next =>
      obtain ⟨capacity, rest, -, rfl⟩ := Thread.nextEvent_some next
      exact h
    · split
      · exact h
      · exact fun _ _ => rfl
  | halt =>
    unfold applyStep
    dsimp only
    split
    · exact h
    · exact h
  | exit value => exact h
  | fault cause => exact h

/-- After a slice a script sleeps without end only until an event comes. -/
theorem Slice.expectant {now : Nat} {limit : Option Nat} {outcome : SliceOutcome}
    (slice : Slice now limit a b outcome) (h : a.thread.Expectant) : b.thread.Expectant :=
  slice.keeps_thread (fun _ step h => expectant_applyStep h now step) h

/-! ### Reasons to sleep -/

/-- A script that is in no hold list does not sleep, and a script that sleeps without end waits for
an event, has pending requests or has a child. -/
structure Wakeable (ex : Executor) : Prop where
  awake : ex.thread.holdList = .none → ex.thread.blocked = false
  cause : ex.thread.blocked = true → ex.thread.sleepUntil = Clock.never →
    ex.thread.waitType = .event ∨ ex.requests.isEmpty = false ∨ ex.child.isSome = true

namespace Wakeable

/-- A script that does not sleep needs nothing to wake it. -/
theorem of_free (free : ex.thread.blocked = false) : ex.Wakeable where
  awake _ := free
  cause blocked := absurd (free.symm.trans blocked) (by decide)

/-- A script that is held sleeps for the reasons that it had. -/
theorem held {seq : Nat} (cause : ex.thread.blocked = true → ex.thread.sleepUntil = Clock.never →
    ex.thread.waitType = .event ∨ ex.requests.isEmpty = false ∨ ex.child.isSome = true) :
    (ex.mapThread (Thread.held seq)).Wakeable := by
  obtain ⟨blocked, sleepUntil, waitType⟩ := ex.thread.held_sleep seq
  refine ⟨fun none => absurd none (ex.thread.held_place seq), ?_⟩
  intro asleep never
  rw [show (ex.mapThread (Thread.held seq)).thread.waitType = ex.thread.waitType from waitType]
  exact cause (blocked.symm.trans asleep) (sleepUntil.symm.trans never)

end Wakeable

/-- A request that has been added to a holder is there. -/
theorem isEmpty_of_add? {holder added : Holder} {kind : RequestKind} {id : RequestId}
    (h : holder.add? kind id = some added) : added.isEmpty = false := by
  unfold Holder.add? at h
  split at h
  · exact absurd h (by simp)
  · obtain rfl := Option.some.inj h
    cases kind <;> simp [Holder.isEmpty, Holder.ids, Holder.setQueue, Holder.queue]

/-- Changes leave scripts a reason to sleep, or wake them. -/
theorem Change.wakeable (change : Change gone wrapped a b) (h : a.Wakeable) : b.Wakeable := by
  have revived : a.thread.revive.freed.blocked = false := Thread.freed_blocked _
  cases change with
  | preempted _ slice => exact .of_free (Thread.blocked_of_isBlocked slice.ended.2)
  -- a slice leaves a script asleep for an event or until a clock
  | slept free slice =>
    have expectant := slice.expectant (Thread.expectant_of_free (h.awake free))
    exact .held fun blocked never => .inl (expectant blocked never)
  | stopped free slice =>
    have expectant := slice.expectant (Thread.expectant_of_free (h.awake free))
    refine ⟨fun none => absurd none (by simp [mapThread]), ?_⟩
    exact fun blocked never => .inl (expectant blocked never)
  | called free _ id =>
    refine .of_free ?_
    unfold mapThread Thread.setOutstanding
    dsimp only
    split
    · exact h.awake free
    · exact h.awake free
  | @queued event thread _ posted =>
    obtain ⟨capacity, events, -, rfl⟩ := Thread.post_ok posted
    exact ⟨h.awake, h.cause⟩
  | woken => exact .of_free revived
  | answered =>
    refine .of_free ?_
    unfold Executor.answered
    split
    · exact revived
    · exact revived
  | timedOut => exact .of_free rfl
  | resumed => exact .of_free revived
  | orphaned => exact ⟨h.awake, h.cause⟩
  | halted => exact ⟨fun none => absurd none (by simp [mapThread]), h.cause⟩
  | releasedBlocked _ _ seq =>
    let free : Executor := { a with halted := false }.mapThread Thread.detached
    have cause : free.thread.blocked = true → free.thread.sleepUntil = Clock.never →
      free.thread.waitType = .event ∨ free.requests.isEmpty = false ∨ free.child.isSome = true :=
      h.cause
    exact Wakeable.held cause
  | released _ free => exact .of_free (Thread.blocked_of_isBlocked free)
  -- what sleeps for good after a request or a launch has this request or this child to wake it
  | @requested _ _ holder _ added => exact .held fun _ _ => .inr (.inl (isEmpty_of_add? added))
  | takenBack => exact .of_free rfl
  | awaited _ child =>
    refine .held fun _ _ => .inr (.inr ?_)
    rw [(carries_suspend _ _).child]
    rfl

/-- A launched script does not sleep. -/
theorem Launched.wakeable (launched : ex.Launched) : ex.Wakeable := by
  refine .of_free ?_
  obtain ⟨s, program, options, new, parent, prepared, rfl⟩ := launched
  obtain ⟨runtime, thread, bound, rfl⟩ := Scheduler.prepare_eq prepared
  rcases Scheduler.bindRuntime_cases bound with ⟨-, _, -, rfl⟩ | ⟨-, _, -, rfl⟩
  · rfl
  · rfl

/-- Edits leave scripts a reason to sleep. -/
theorem Wakeable.edit (h : ex.Wakeable) (edit : Edit) : (edit.apply ex).Wakeable := by
  cases edit with
  | push value => exact ⟨h.awake, h.cause⟩
  | setCritical critical => exact ⟨h.awake, h.cause⟩
  | setPriority priority => exact ⟨h.awake, h.cause⟩
  | setWarnOnRunaway warn => exact ⟨h.awake, h.cause⟩
  | setEventQueueSize size =>
    have same : (ex.thread.setCapacity size).blocked = ex.thread.blocked ∧
        (ex.thread.setCapacity size).sleepUntil = ex.thread.sleepUntil ∧
        (ex.thread.setCapacity size).waitType = ex.thread.waitType ∧
        (ex.thread.setCapacity size).holdList = ex.thread.holdList := by
      unfold Thread.setCapacity
      split <;> exact ⟨rfl, rfl, rfl, rfl⟩
    obtain ⟨blocked, sleepUntil, waitType, holdList⟩ := same
    constructor
    · change (ex.thread.setCapacity size).holdList = .none →
        (ex.thread.setCapacity size).blocked = false
      rw [blocked, holdList]
      exact h.awake
    · change (ex.thread.setCapacity size).blocked = true →
        (ex.thread.setCapacity size).sleepUntil = Clock.never →
        (ex.thread.setCapacity size).waitType = .event ∨ _
      rw [blocked, sleepUntil, waitType]
      exact h.cause

end Executor

/-! ### Causes that are there -/

/-- Something that can still wake the script `pid`: an event, the answer to a pending request of
it, or the end of a live child whose parent it is. -/
inductive Scheduler.Wakes (s : Scheduler) (pid : Pid) (ex : Executor) : Prop
  | event (waits : ex.thread.waitType = .event)
  | answer (request : Request) (pending : request ∈ s.requests.pending) (own : request.pid = pid)
  | child (child : Pid) (young : Executor) (link : ex.child = some child)
      (live : s.get? child = some young) (back : young.parent = some pid)

namespace Reachable

variable {config : SchedulerConfig} {engine : Option Engine} {s : Scheduler} {pid : Pid}
  {ex : Executor}

/-- In every reachable state all live scripts have a reason to sleep if they sleep without end. -/
theorem wakeable (reached : Reachable config engine s) (found : s.get? pid = some ex) :
    ex.Wakeable :=
  reached.scripts (P := Executor.Wakeable) (fun new => absurd trivial new)
    (fun _ launched => launched.wakeable) (fun _ _ _ change h => change.wakeable h)
    (fun _ edit h => h.edit edit) found

/-- What a script waits for is there: the requests that it holds are pending and its child is live
and has it as its parent. -/
theorem wakes_of_cause (reached : Reachable config engine s) (found : s.get? pid = some ex)
    (cause : ex.thread.waitType = .event ∨ ex.requests.isEmpty = false ∨ ex.child.isSome = true) :
    s.Wakes pid ex := by
  rcases cause with waits | asked | father
  · exact .event waits
  · have holder : ex.requests = .ofRequests (s.ownedBy pid) := by
      rw [← holderOf_of_get? found, reached.indexed.owners]
    rw [holder, Holder.isEmpty_ofRequests] at asked
    obtain ⟨request, owned⟩ := List.exists_mem_of_ne_nil _ (List.isEmpty_eq_false_iff.mp asked)
    obtain ⟨pending, own⟩ := List.mem_filter.mp owned
    exact .answer request pending (of_decide_eq_true own)
  · obtain ⟨child, link⟩ := Option.isSome_iff_exists.mp father
    have back : s.parentOf? child = some pid :=
      (reached.linked.paired pid child).mp ((childOf?_of_get? found).trans link)
    cases live : s.get? child with
    | none =>
      rw [(links_of_not_live live).2] at back
      exact absurd back (by simp)
    | some young => exact .child child young link live ((parentOf?_of_get? live).symm.trans back)

/-- In every reachable state something can still wake each blocked script that sleeps without end,
unless the engine manages it; and as long as numbers of calls are new, exactly one engine call is
pending for each script that the engine manages. -/
theorem noneStranded (reached : Reachable config engine s) :
    (∀ pid ex, s.get? pid = some ex → ex.isBlocked = true →
      ex.thread.sleepUntil = Clock.never → pid ∉ s.external → s.Wakes pid ex) ∧
    (s.Unwrapped → ∀ pid ∈ s.external, ∃ ex call, s.get? pid = some ex ∧
      s.calls.filter (fun other => other.pid = pid) = [call] ∧
      ex.thread.outstanding = some call.id) := by
  constructor
  · intro pid ex found blocked never mine
    have coherent := reached.coherent found
    have place : ex.thread.holdList ≠ .external := by
      intro held
      refine mine ((reached.placed.external pid).mpr ?_)
      rwa [seat_of_get? found]
    have asleep : ex.thread.blocked = true :=
      (Thread.isBlocked_of_idle (coherent.outstanding place)).symm.trans blocked
    exact reached.wakes_of_cause found ((reached.wakeable found).cause asleep never)
  · intro unwrapped pid held
    obtain ⟨call, manages⟩ := reached.manages unwrapped held
    obtain ⟨ex, found, outstanding⟩ := live_of_outstanding? manages.outstanding
    exact ⟨ex, call, found, manages.mine, outstanding⟩

end Reachable

/-- A script calls the engine and another one waits for an event. -/
def sleepyRun : List Operation :=
  [.start (.engine "keeper" "shop"), .start (.bytecode "listener" [.waitForEvent none, .ret]),
    .runReady 0]

/-- The script that waits for an event can be woken, and one call is pending for the script that
calls the engine. -/
theorem noneStranded_sleepy : ∃ s ex call,
    performAll 1 sleepyRun (.empty {} (some deferringEngine)) = some s ∧
      s.get? ⟨2⟩ = some ex ∧ ex.isBlocked = true ∧ ex.thread.sleepUntil = Clock.never ∧
      s.Wakes ⟨2⟩ ex ∧ s.external = [⟨1⟩] ∧
      s.calls.filter (fun other => other.pid = ⟨1⟩) = [call] := by
  have performed :
      performAll 1 sleepyRun (.empty {} (some deferringEngine)) = some _ := rfl
  obtain ⟨wakes, calls⟩ := (Reachable.empty.performAll performed).noneStranded
  obtain ⟨-, call, -, mine, -⟩ :=
    calls (by unfold Unwrapped; decide) ⟨1⟩ List.mem_cons_self
  exact ⟨_, _, call, performed, rfl, rfl, rfl,
    wakes ⟨2⟩ _ rfl rfl rfl (by decide), rfl, mine⟩

/-- Scripts can be stranded. When the numbers of calls come round again, the engine manages a script
of which no call is pending; and a ready script that is suspended from outside waits for nothing. -/
theorem not_noneStranded_crowded :
    (∃ s, performAll 1 crowdedRun (.empty {} (some deferringEngine)) = some s ∧
      ⟨1⟩ ∈ s.external ∧ s.calls.filter (fun call => call.pid = ⟨1⟩) = []) ∧
    ∃ s ex, performAll 1 [.start (.bytecode "dozer" [.ret])] (.empty {} none) = some s ∧
      s.get? ⟨1⟩ = some ex ∧
      let suspended := ex.suspend Clock.never
      let after := s.store suspended
      after.get? ⟨1⟩ = some suspended ∧ suspended.isBlocked = true ∧
        suspended.thread.sleepUntil = Clock.never ∧ ⟨1⟩ ∉ after.external ∧
        ¬ after.Wakes ⟨1⟩ suspended := by
  constructor
  · obtain ⟨s, -, -, performed, external, calls, -⟩ := performAll_crowdedRun
    refine ⟨s, performed, external ▸ List.mem_cons_self, ?_⟩
    rw [calls]
    rfl
  · refine ⟨_, _, rfl, rfl, rfl, rfl, rfl, List.not_mem_nil, ?_⟩
    rintro (waits | ⟨_, pending, -⟩ | ⟨_, _, link, -, -⟩)
    · exact absurd waits (by decide)
    · exact absurd pending List.not_mem_nil
    · exact absurd link.symm (Option.some_ne_none _)

end ScriptScheduler
