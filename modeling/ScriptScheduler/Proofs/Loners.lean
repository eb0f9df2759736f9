import ScriptScheduler.Proofs.History
import ScriptScheduler.Proofs.Passes
import ScriptScheduler.Proofs.Waiting
import ScriptScheduler.Proofs.WakeCauses
import ScriptScheduler.Proofs.Wakeups

/-!
# Scripts that launch no children

A bytecode script that never launches a child waits for one thing at a time: it makes a request only
while it is not blocked, and as long as the request is pending it is blocked and waits for nothing
else (`Executor.Lone`). Nobody else puts it into the ready queue, so it is queued once if it is in
no hold list and not at all otherwise (`Scheduler.Queues`).
-/

namespace ScriptScheduler

open Scheduler

namespace Executor

variable {ex a b : Executor} {gone : Pid → Prop} {wrapped : Prop} {may : Act → Prop}

/-! ### One wait at a time -/

/-- A bytecode script without a child. If it has pending requests it has one, is blocked and does
not wait for an event. -/
structure Lone (ex : Executor) : Prop where
  coherent : ex.Coherent
  timely : ex.thread.Timely
  attentive : ex.thread.Attentive
  bytecode : ex.isEngine = false
  childless : ex.child = none
  asks : ex.requests.ids = [] ∨
    ex.thread.blocked = true ∧ ex.thread.waitType = .wait ∧ ∃ id, ex.requests.ids = [id]

/-- A bytecode script is not managed by the engine. -/
theorem Coherent.mine (h : ex.Coherent) (bytecode : ex.isEngine = false) :
    ex.thread.holdList ≠ .external := by
  intro managed
  have engine := h.managed managed
  rw [bytecode] at engine
  exact absurd engine (by decide)

/-- When the only request of a holder is taken out none is left. -/
theorem ids_remove {h : Holder} {kind : RequestKind} {id only : RequestId} (sole : h.ids = [only])
    (asked : id ∈ h.queue kind) : (h.remove kind id).ids = [] := by
  unfold Holder.ids at sole
  unfold Holder.remove Holder.setQueue Holder.ids
  rcases List.append_eq_singleton_iff.mp sole with ⟨front, texts⟩ | ⟨front, texts⟩
  · obtain ⟨objects, cursors⟩ := List.append_eq_nil_iff.mp front
    cases kind <;> simp_all [Holder.queue]
  · rcases List.append_eq_singleton_iff.mp front with ⟨objects, cursors⟩ | ⟨objects, cursors⟩
    · cases kind <;> simp_all [Holder.queue]
    · cases kind <;> simp_all [Holder.queue]

/-- The first request that is added to a holder is the only one in it. -/
theorem ids_of_add? {h holder : Holder} {kind : RequestKind} {id : RequestId} (none : h.ids = [])
    (added : h.add? kind id = some holder) : holder.ids = [id] := by
  unfold Holder.add? at added
  split at added
  · exact absurd added (by simp)
  · obtain rfl := Option.some.inj added
    obtain ⟨front, texts⟩ := List.append_eq_nil_iff.mp none
    obtain ⟨objects, cursors⟩ := List.append_eq_nil_iff.mp front
    cases kind <;> simp_all [Holder.setQueue, Holder.queue, Holder.ids]

namespace Lone

/-- Such a script is blocked just when its thread is. -/
theorem isBlocked (h : ex.Lone) : ex.isBlocked = ex.thread.blocked :=
  Thread.isBlocked_of_idle (h.coherent.outstanding (h.coherent.mine h.bytecode))

/-- Such a script that is in no hold list is not blocked. -/
theorem free (h : ex.Lone) (free : ex.thread.holdList = .none) : ex.thread.blocked = false :=
  Thread.blocked_of_isBlocked (h.timely.free free)

/-- Such a script that is not blocked has no pending requests. -/
theorem idle (h : ex.Lone) (free : ex.thread.blocked = false) : ex.requests.ids = [] := by
  rcases h.asks with idle | ⟨blocked, -⟩
  · exact idle
  · rw [free] at blocked
    exact absurd blocked (by decide)

/-- Such a script that has a pending request is in a hold list. -/
theorem held (h : ex.Lone) {id : RequestId} (asked : id ∈ ex.requests.ids) :
    ex.thread.holdList ≠ .none := by
  intro free
  rw [h.idle (h.free free)] at asked
  exact absurd asked List.not_mem_nil

/-- Such a script that is not blocked is in no hold list, or it is halted. -/
theorem place (h : ex.Lone) (free : ex.thread.blocked = false) (running : ex.halted = false) :
    ex.thread.holdList = .none := by
  have mine := h.coherent.mine h.bytecode
  have parked : ex.thread.holdList ≠ .debugger := by
    intro parked
    rw [h.coherent.halted.mpr parked] at running
    exact absurd running (by decide)
  have awake : ex.thread.isBlocked = false := h.isBlocked.trans free
  have timely := h.timely
  unfold Thread.Timely at timely
  cases list : ex.thread.holdList <;> simp_all

/-- Such a script that makes a request was not blocked. -/
theorem of_mayAsk (h : ex.Lone) (able : ex.mayAsk = true) :
    ex.thread.blocked = false ∧ ex.options.runToCompletion = false := by
  have bytecode := h.bytecode
  have isBlocked := h.isBlocked
  unfold mayAsk at able
  simp_all

end Lone

/-- A bytecode script that makes a request is suspended with a slot for the answer. -/
theorem openResultSlot_suspend (bytecode : ex.isEngine = false)
    (sleepy : ex.options.runToCompletion = false) (wake : Nat) :
    (ex.suspend wake).openResultSlot = (ex.mapThread fun t => t.suspend wake).push .sentinel := by
  have same : (ex.mapThread fun t => t.suspend wake).isEngine = false := bytecode
  unfold openResultSlot suspend
  rw [sleepy, if_neg Bool.false_ne_true, same, if_neg Bool.false_ne_true]

/-- Whatever happens to a script that launches no child, it waits for one thing at a time. -/
theorem ChangeBy.lone (change : ChangeBy gone wrapped may a b) (alone : ¬ may (.adopt a.pid))
    (h : a.Lone) : b.Lone := by
  suffices rest : b.child = none ∧ (b.requests.ids = [] ∨
      b.thread.blocked = true ∧ b.thread.waitType = .wait ∧ ∃ id, b.requests.ids = [id]) from
    ⟨change.any.coherent h.coherent, change.any.timely h.coherent (fun _ => h.bytecode) h.timely,
      change.any.attentive h.attentive, change.any.kind.2.trans h.bytecode, rest.1, rest.2⟩
  -- a script that has a turn is on no hold list and so waits for nothing
  have turned : ∀ {now : Nat} {limit : Option Nat} {ran : Executor} {outcome : SliceOutcome},
      a.thread.holdList = .none → Slice now limit a ran outcome →
      ran.child = none ∧ ran.requests.ids = [] := by
    intro now limit ran outcome free slice
    exact ⟨slice.carries.child.trans h.childless,
      slice.carries.requests ▸ h.idle (h.free free)⟩
  cases change with
  | preempted free slice => exact ⟨(turned free slice).1, .inl (turned free slice).2⟩
  | slept free slice => exact ⟨(turned free slice).1, .inl (turned free slice).2⟩
  | stopped free slice => exact ⟨(turned free slice).1, .inl (turned free slice).2⟩
  | called _ engine =>
    rw [h.bytecode] at engine
    exact absurd engine (by decide)
  | queued _ posted =>
    obtain ⟨capacity, events, -, rfl⟩ := Thread.post_ok posted
    exact ⟨h.childless, h.asks⟩
  | woken awaits =>
    refine ⟨h.childless, .inl ?_⟩
    rcases h.asks with idle | ⟨-, waits, -⟩
    · exact idle
    · unfold awaitsEvent at awaits
      rw [waits] at awaits
      exact absurd awaits (by simp)
  | @answered kind id asked value =>
    have bytecode : { a with requests := a.requests.remove kind id }.isEngine = false := h.bytecode
    -- what is answered is the one request that there is
    have idle : (a.requests.remove kind id).ids = [] := by
      rcases h.asks with idle | ⟨-, -, only, sole⟩
      · have held : id ∈ a.requests.ids := by
          unfold Holder.ids
          cases kind <;> simp_all [Holder.queue]
        rw [idle] at held
        exact absurd held List.not_mem_nil
      · exact ids_remove sole asked
    unfold Executor.answered
    rw [bytecode]
    exact ⟨h.childless, .inl idle⟩
  | timedOut => exact ⟨h.childless, .inl rfl⟩
  | resumed link =>
    rw [h.childless] at link
    exact absurd link (by simp)
  | orphaned => exact ⟨h.childless, h.asks⟩
  | halted => exact ⟨h.childless, h.asks⟩
  | releasedBlocked _ _ seq =>
    obtain ⟨blocked, -, waitType⟩ := a.thread.detached.held_sleep seq
    refine ⟨h.childless, h.asks.imp_right ?_⟩
    rintro ⟨asleep, waits, sole⟩
    exact ⟨blocked.trans asleep, waitType.trans waits, sole⟩
  | released => exact ⟨h.childless, h.asks⟩
  | @requested kind id holder able added wake seq =>
    obtain ⟨free, sleepy⟩ := h.of_mayAsk able
    -- a script that waits for an event is blocked, and this one is free to ask
    have waits : a.thread.waitType = .wait := by
      cases waitType : a.thread.waitType with
      | wait => rfl
      | event => exact absurd (free.symm.trans (h.attentive waitType)) (by decide)
    obtain ⟨blocked, -, waitType⟩ := (a.thread.suspend wake).held_sleep seq
    rw [openResultSlot_suspend h.bytecode sleepy]
    exact ⟨h.childless,
      .inr ⟨blocked, waitType.trans waits, id, ids_of_add? (h.idle free) added⟩⟩
  | takenBack able => exact ⟨h.childless, .inl (h.idle (h.of_mayAsk able).1)⟩
  | awaited _ _ _ allowed => exact absurd allowed alone

/-- A launched bytecode script waits for nothing. -/
theorem Launched.lone (launched : ex.Launched) (bytecode : ex.isEngine = false) : ex.Lone := by
  refine ⟨launched.coherent, launched.timely, launched.attentive, bytecode, ?_, .inl ?_⟩
  · obtain ⟨s, program, options, new, parent, prepared, rfl⟩ := launched
    obtain ⟨runtime, thread, -, rfl⟩ := Scheduler.prepare_eq prepared
    rfl
  · obtain ⟨s, program, options, new, parent, prepared, rfl⟩ := launched
    obtain ⟨runtime, thread, -, rfl⟩ := Scheduler.prepare_eq prepared
    rfl

/-- Edits do not make a script wait for more. -/
theorem Lone.edit (h : ex.Lone) (edit : Edit) : (edit.apply ex).Lone := by
  have coherent := h.coherent.edit edit
  have timely := timely_edit h.timely edit
  have attentive := attentive_edit h.attentive edit
  cases edit with
  | push | setCritical | setPriority | setWarnOnRunaway =>
    exact ⟨coherent, timely, attentive, h.bytecode, h.childless, h.asks⟩
  | setEventQueueSize size =>
    refine ⟨coherent, timely, attentive, h.bytecode, h.childless, h.asks.imp_right ?_⟩
    rintro ⟨blocked, waits, sole⟩
    change (ex.thread.setCapacity size).blocked = true ∧
      (ex.thread.setCapacity size).waitType = .wait ∧ ∃ id, ex.requests.ids = [id]
    unfold Thread.setCapacity
    split
    · exact ⟨blocked, waits, sole⟩
    · exact ⟨blocked, waits, sole⟩

end Executor

/-! ### In the queue once -/

namespace Scheduler

variable {s s' : Scheduler} {pid other : Pid} {ex : Executor} {away away' : List Pid}

/-- Among the ready scripts and those that are away, the script `pid` is found once if it is in no
hold list and not at all otherwise, unless it is an engine script; and a script that is yet to be
launched is not found there. -/
structure Queues (away : List Pid) (s : Scheduler) (pid : Pid) : Prop where
  live : ∀ ex, s.get? pid = some ex → ex.isEngine = false →
    (s.ready ++ away).count pid = if ex.thread.holdList = .none then 1 else 0
  new : s.nextPid.number ≤ pid.number → (s.ready ++ away).count pid = 0

namespace Queues

/-- A script that is neither queued nor away. -/
theorem absent_iff : (s.ready ++ away).count pid = 0 ↔ pid ∉ s.ready ∧ pid ∉ away := by
  rw [List.count_eq_zero, List.mem_append, not_or]

/-- A live script is no longer new. -/
theorem of_count (old : pid.number < s.nextPid.number) (found : s.get? pid = some ex)
    (count : (s.ready ++ away).count pid = if ex.thread.holdList = .none then 1 else 0) :
    Queues away s pid := by
  refine ⟨?_, fun new => absurd old (Nat.not_lt_of_le new)⟩
  intro live isLive _
  obtain rfl := Option.some.inj (found.symm.trans isLive)
  exact count

/-- A script that is no longer live may be queued. -/
theorem of_dead (old : pid.number < s.nextPid.number) (dead : s.get? pid = none) :
    Queues away s pid := by
  refine ⟨?_, fun new => absurd old (Nat.not_lt_of_le new)⟩
  intro live isLive _
  rw [dead] at isLive
  exact absurd isLive (by simp)

/-- A script that stays as it is and is found as often as before. -/
theorem congr (h : Queues away s pid) (same : s'.get? pid = s.get? pid)
    (count : (s'.ready ++ away').count pid = (s.ready ++ away).count pid)
    (next : s.nextPid.number ≤ s'.nextPid.number) : Queues away' s' pid := by
  refine ⟨fun ex live bytecode => ?_, fun new => ?_⟩
  · rw [count]
    exact h.live ex (same ▸ live) bytecode
  · rw [count]
    exact h.new (Nat.le_trans next new)

/-- Another script comes next. -/
theorem cons_iff (ne : pid ≠ other) : Queues (other :: away) s pid ↔ Queues away s pid := by
  have count : (s.ready ++ other :: away).count pid = (s.ready ++ away).count pid := by
    rw [List.count_append, List.count_append, List.count_cons_of_ne (Ne.symm ne)]
  exact ⟨fun h => h.congr rfl count.symm (Nat.le_refl _),
    fun h => h.congr rfl count (Nat.le_refl _)⟩

/-- Another script is put at the end of the queue. -/
theorem enqueue (h : Queues away s pid) (ne : pid ≠ other) : Queues away (s.enqueue other) pid := by
  refine h.congr rfl ?_ (Nat.le_refl _)
  change (s.ready ++ [other] ++ away).count pid = (s.ready ++ away).count pid
  rw [List.count_append, List.count_append, List.count_append, List.count_singleton,
    if_neg (by simpa using Ne.symm ne), Nat.add_zero]

/-- Another script is changed. -/
theorem altered (h : Queues away s pid) (alters : Alters other s s') (ne : pid ≠ other)
    (next : s.nextPid.number ≤ s'.nextPid.number) : Queues away s' pid := by
  refine h.congr (alters.others pid ne) ?_ next
  have queue := congrArg (List.count pid) alters.ready
  rw [count_filter_ne ne, count_filter_ne ne] at queue
  rw [List.count_append, List.count_append, queue]

/-- Some script leaves for which this one does not wait. -/
theorem departed {gone : Executor} (h : Queues away s pid) (linked : Linked s)
    (departs : Departs s gone s') (childless : s.childOf? pid = none)
    (next : s.nextPid.number ≤ s'.nextPid.number)
    (old : s.get? pid ≠ none → pid.number < s.nextPid.number) : Queues away s' pid := by
  by_cases own : pid = gone.pid
  · refine of_dead (Nat.lt_of_lt_of_le (old ?_) next) (own ▸ departs.get?_self)
    intro dead
    have known := departs.live
    unfold kin? at known
    rw [← own, dead] at known
    exact absurd known (by simp)
  · have apart : s.childOf? pid ≠ some gone.pid := by
      rw [childless]
      simp
    -- who leaves takes its own entry away and adds that of a parent, and this script is neither
    have counts : (s'.ready ++ away).count pid = (s.ready ++ away).count pid := by
      rw [List.count_append, List.count_append, linked.count_ready_departed departs own apart]
    refine ⟨?_, ?_⟩
    · intro ex' live bytecode
      rw [departs.get?_of_ne own] at live
      obtain ⟨ex, found, rfl⟩ := Option.map_eq_some_iff.mp live
      have child : ex.child = none := (childOf?_of_get? found).symm.trans childless
      have kind : (ex.bereft gone).isEngine = ex.isEngine := by
        unfold Executor.bereft
        split <;> split <;> rfl
      have thread : (ex.bereft gone).thread = ex.thread := by
        rw [Executor.thread_bereft, if_neg]
        rintro ⟨-, link⟩
        rw [child] at link
        exact absurd link (by simp)
      rw [counts, thread]
      exact h.live ex found (kind ▸ bytecode)
    · intro new
      rw [counts]
      exact h.new (Nat.le_trans next new)

/-! ### What such a script does on its own -/

/-- A script that is made ready is queued once. -/
theorem schedule (old : pid.number < s.nextPid.number) (found : s.get? pid = some ex)
    (absent : pid ∉ away) (unqueued : ex.thread.holdList.isFixed = true → pid ∉ s.ready) :
    Queues away (s.schedule pid) pid := by
  have self := get?_schedule_self s pid
  rw [found] at self
  refine of_count (Nat.lt_of_lt_of_le old follows_schedule.counts.nextPid) self ?_
  rw [List.count_append, List.count_eq_zero.mpr absent, ready_schedule found]
  change _ = if ex.thread.freed.holdList = .none then 1 else 0
  unfold Thread.freed
  by_cases fixed : ex.thread.holdList.isFixed = true
  · have held : ex.thread.holdList ≠ .none := by
      intro none
      rw [none] at fixed
      exact absurd fixed (by decide)
    rw [if_pos fixed, if_pos fixed, if_neg held, List.count_eq_zero.mpr (unqueued fixed)]
  · have once : (s.ready.filter fun other => other ≠ pid).count pid = 0 :=
      List.count_eq_zero.mpr fun mem => of_decide_eq_true (List.mem_filter.mp mem).2 rfl
    rw [if_neg fixed, if_neg fixed, List.count_append, once, List.count_singleton_self]
    exact (if_pos rfl).symm

/-- A script that is put to sleep is not queued. -/
theorem hold (old : pid.number < s.nextPid.number) (found : s.get? pid = some ex)
    (absent : pid ∉ away) (unqueued : ex.thread.holdList.isFixed = true → pid ∉ s.ready) :
    Queues away (s.hold pid) pid := by
  have self := get?_hold_self s pid
  rw [found] at self
  refine of_count (Nat.lt_of_lt_of_le old follows_hold.counts.nextPid) self ?_
  have asleep : ¬ (ex.mapThread (Thread.held s.nextTimerSeq)).thread.holdList = .none :=
    Thread.held_place _ _
  rw [if_neg asleep, absent_iff, ready_hold found]
  refine ⟨?_, absent⟩
  split
  · next fixed => exact unqueued fixed
  · exact fun mem => of_decide_eq_true (List.mem_filter.mp mem).2 rfl

/-- A launched script is put at the end of the queue or is next to have its turn. -/
theorem launched {new : Executor} (h : Queues away s pid) (numbered : s'.Numbered)
    (next : pid = s.nextPid) (found : s'.get? pid = some new)
    (free : new.thread.holdList = .none)
    (count : (s'.ready ++ away').count pid = (s.ready ++ away).count pid + 1) :
    Queues away' s' pid := by
  refine of_count (numbered.lt_nextPid found) found ?_
  rw [count, h.new (Nat.le_of_eq (congrArg Pid.number next).symm), if_pos free]

/-- A script in a hold list is neither queued nor away. -/
theorem absent (h : Queues away s pid) (found : s.get? pid = some ex)
    (bytecode : ex.isEngine = false) (held : ex.thread.holdList ≠ .none) :
    pid ∉ s.ready ∧ pid ∉ away := by
  rw [← absent_iff, h.live ex found bytecode, if_neg held]

/-- A script that is sent an event. -/
theorem signalEvent (h : Queues away s pid) (numbers : s.Numbered)
    (lone : ∀ ex, s.get? pid = some ex → ex.Lone) (event : Val) :
    Queues away (s.signalEvent pid event).value.2 pid := by
  unfold Scheduler.signalEvent Executor.signalEvent
  split
  · exact h
  · next ex found =>
    have own : ex.pid = pid := pid_of_get? found
    have old : pid.number < s.nextPid.number := numbers.lt_nextPid found
    have lone : ex.Lone := lone ex found
    by_cases awaits : ex.awaitsEvent = true
    · rw [if_pos awaits]
      have blocked : ex.isBlocked = true := (Bool.and_eq_true_iff.mp awaits).1
      have held : ex.thread.holdList ≠ .none := by
        intro free
        rw [lone.isBlocked, lone.free free] at blocked
        exact absurd blocked (by decide)
      obtain ⟨unqueued, absent⟩ := h.absent found lone.bytecode held
      have stored : (s.store (ex.setResultSlot event).revive).get? pid =
          some (ex.setResultSlot event).revive := get?_store found own
      exact schedule old stored absent fun _ => unqueued
    · rw [if_neg awaits]
      cases posted : ex.thread.post event with
      | error cause => exact h
      | ok thread =>
        have list : thread.holdList = ex.thread.holdList := by
          obtain ⟨capacity, events, -, rfl⟩ := Thread.post_ok posted
          rfl
        have stored : (s.store { ex with thread := thread }).get? pid =
            some { ex with thread := thread } := get?_store found own
        refine of_count old stored ?_
        have counts := h.live ex found lone.bytecode
        rw [← list] at counts
        exact counts

/-- A script one of whose requests is resolved. -/
theorem resolve {request : Request} (h : Queues away s request.pid) (indexed : Indexed s)
    (old : request.pid.number < s.nextPid.number) (found : s.get? request.pid = some ex)
    (lone : ex.Lone) (pending : request ∈ s.requests.pending) (value : Option Val) :
    Queues away (s.resolve request value).value request.pid := by
  have asked : request.id ∈ ex.requests.ids :=
    (indexed.mem_ids found).mpr ⟨request, pending, rfl, rfl⟩
  obtain ⟨unqueued, absent⟩ := h.absent found lone.bytecode (lone.held asked)
  rw [resolve_eq found]
  let taken : Scheduler := { s with requests := s.requests.take request }
  have live : taken.get? request.pid = some ex := found
  have number : (Executor.answered { ex with
      requests := ex.requests.remove request.kind request.id } (value.getD .sentinel)).pid =
      request.pid := by
    have own : ex.pid = request.pid := pid_of_get? found
    rw [(Executor.kind_answered _ _).1]
    exact own
  exact schedule (s := taken.store _) old (get?_store live number) absent fun _ => unqueued

/-- A sleeper that is woken. -/
theorem wake (h : Queues away s pid) (old : pid.number < s.nextPid.number)
    (found : s.get? pid = some ex) (lone : ex.Lone) (indexed : Indexed s)
    (sleeps : ex.thread.holdList = .timeout) : Queues away (s.wake pid).value pid := by
  have own : ex.pid = pid := pid_of_get? found
  obtain ⟨-, absent⟩ := h.absent found lone.bytecode (by simp [sleeps])
  let up := { ex.mapThread Thread.detached with sleepCycles := ex.sleepCycles + 1 }
  have number : up.pid = pid := own
  unfold Scheduler.wake
  rw [found]
  dsimp only
  split
  · have stored : (s.store up.revive).get? pid = some up.revive := get?_store found number
    exact schedule old stored absent fun fixed => absurd fixed Bool.false_ne_true
  · next asked =>
    have live : s.get? ex.pid = some ex := own.symm ▸ found
    have stored : (s.store up).get? pid = some up := get?_store found number
    have indexed' : Indexed (s.store up) := indexed.congr rfl (holderOf_store live rfl rfl)
    have some : up.requests.isEmpty = false := by simpa [Holder.isEmpty] using asked
    obtain ⟨self, -⟩ := Evolves.abortOwn_get? indexed' stored some
    have counts : s.nextPid.number ≤
        (Scheduler.abortEach ex.requests.ids (s.store up)).value.2.nextPid.number :=
      (follows_abortEach ex.requests.ids (s.store up)).counts.nextPid
    simp only [Logged.bind_value, Logged.pure_value]
    exact schedule (Nat.lt_of_lt_of_le old counts) self absent
      fun fixed => absurd fixed Bool.false_ne_true

/-- A script that is halted while it is not away. -/
theorem halt (old : pid.number < s.nextPid.number) (absent : pid ∉ away)
    (halted : s.halt pid = .ok s') : Queues away s' pid := by
  obtain ⟨ex, found, -, parked, -⟩ := Evolves.get?_halt halted
  have counts := (follows_halt halted).counts.nextPid
  refine of_count (Nat.lt_of_lt_of_le old counts) parked ?_
  rw [if_neg (by simp [Executor.mapThread]), absent_iff]
  refine ⟨?_, absent⟩
  obtain ⟨-, -, -, rfl⟩ := halt_ok halted
  change pid ∉ (s.detach pid).ready
  rw [ready_detach found]
  exact fun mem => of_decide_eq_true (List.mem_filter.mp mem).2 rfl

/-- A script that is released. -/
theorem release (h : Queues away s pid) (old : pid.number < s.nextPid.number)
    (placed : Placed away s) (found : s.get? pid = some ex) (lone : ex.Lone)
    (released : s.release pid = .ok s') : Queues away s' pid := by
  obtain ⟨parked, isParked, list, -⟩ := Evolves.get?_release placed released
  obtain rfl := Option.some.inj (found.symm.trans isParked)
  obtain ⟨-, absent⟩ := h.absent found lone.bytecode (by simp [list])
  have live : (s.unhalted pid).get? pid =
      some ({ ex with halted := false }.mapThread Thread.detached) := by
    rw [Evolves.get?_unhalted_self, found]
    rfl
  have counts : pid.number < (s.unhalted pid).nextPid.number :=
    Nat.lt_of_lt_of_le old follows_detach.counts.nextPid
  obtain ⟨-, ex, -, rfl⟩ := release_ok released
  split
  · exact hold counts live absent fun fixed => absurd fixed Bool.false_ne_true
  · exact schedule counts live absent fun fixed => absurd fixed Bool.false_ne_true

/-- A script that makes a request while it is not away. -/
theorem register {entity : EntityId} {kind : RequestKind} {wake : Nat} {callback : Callback}
    (h : Queues away s pid) (numbers : s.Numbered) (absent : pid ∉ away)
    (lone : ∀ ex, s.get? pid = some ex → ex.Lone) :
    Queues away (s.register pid entity kind wake callback).value.2 pid := by
  have made := registered s pid entity kind wake callback
  generalize (s.register pid entity kind wake callback).value.1 = id at made
  generalize (s.register pid entity kind wake callback).value.2 = after at made ⊢
  cases made with
  | refused => exact h
  | @takenBack ex found =>
    have own : ex.pid = pid := pid_of_get? found
    have revived : (s.store ex.revive).get? pid = some ex.revive := get?_store found own
    exact of_count (s := { s.store ex.revive with issued := s.issued + 1 })
      (numbers.lt_nextPid found) revived (h.live ex found (lone ex found).bytecode)
  | @asked ex holder table found able =>
    have own : ex.pid = pid := pid_of_get? found
    have old : pid.number < s.nextPid.number := numbers.lt_nextPid found
    let counted : Scheduler := { s with issued := s.issued + 1, requests := table }
    let asking : Executor := { (ex.suspend wake).openResultSlot with requests := holder }
    have seat : asking.seat = ex.seat :=
      (Executor.seat_openResultSlot (ex.suspend wake)).trans (Executor.seat_suspend ex wake)
    have number : asking.pid = pid := by
      refine Eq.trans ?_ own
      unfold asking Executor.openResultSlot Executor.suspend
      split <;> split <;> rfl
    have live : counted.get? pid = some ex := found
    have list : asking.thread.holdList = ex.thread.holdList := congrArg Seat.list seat
    refine hold (s := counted.store asking) old (get?_store live number) absent ?_
    intro fixed
    rw [list] at fixed
    have held : ex.thread.holdList ≠ .none := by
      intro none
      rw [none] at fixed
      exact absurd fixed Bool.false_ne_true
    exact (h.absent found (lone ex found).bytecode held).1

/-- A script that has its turn. -/
theorem turn {ran : Executor} {now : Nat} {limit : Option Nat} {outcome : SliceOutcome}
    (h : Queues (pid :: away) s pid) (old : pid.number < s.nextPid.number)
    (found : s.get? pid = some ex) (lone : ex.Lone) (free : ex.thread.holdList = .none)
    (slice : Executor.Slice now limit ex ran outcome) :
    Queues away ((s.store ran).settle ran outcome).value.2 pid := by
  have number : ran.pid = pid := slice.carries.pid.trans (pid_of_get? found)
  have list : ran.thread.holdList = .none := slice.carries.holdList.trans free
  have live : (s.store ran).get? pid = some ran := get?_store found number
  have once := h.live ex found lone.bytecode
  rw [if_pos free, List.count_append, List.count_cons_self] at once
  -- the entry of the batch is the only one, so the script is not in the queue as well
  have unqueued : pid ∉ s.ready := List.count_eq_zero.mp (by omega)
  have absent : pid ∉ away := List.count_eq_zero.mp (by omega)
  have gone : ∀ last : Executor, last.pid = pid → ∀ reason,
      Queues away ((s.store ran).retire last reason).value.2 pid := by
    intro last same reason
    have dead := Evolves.get?_retire_self (s.store ran) last reason
    rw [same] at dead
    exact of_dead (Nat.lt_of_lt_of_le old (follows_store.trans follows_retire).counts.nextPid) dead
  have after := settle_state (s.store ran) ran outcome
  cases outcome with
  | preempted =>
    rw [after]
    refine of_count (s := (s.store ran).enqueue ran.pid) old live ?_
    change (s.ready ++ [ran.pid] ++ away).count pid = _
    rw [if_pos list, number, List.count_append, List.count_append, List.count_eq_zero.mpr unqueued,
      List.count_eq_zero.mpr absent, List.count_singleton_self]
  | blocked =>
    rw [after, number]
    exact hold old live absent fun _ => unqueued
  | halted =>
    rw [after, number]
    have parked := get?_parkDebugger_self (s.store ran) pid
    rw [live] at parked
    refine of_count (s := (s.store ran).parkDebugger pid) old parked ?_
    rw [if_neg (by simp [Executor.mapThread]), absent_iff]
    exact ⟨unqueued, absent⟩
  | external =>
    have engine := slice.isEngine
    rw [lone.bytecode] at engine
    exact absurd engine (by decide)
  | finished =>
    rw [after]
    exact gone ran number _
  | faulted cause =>
    obtain ⟨result, reason, eq⟩ := after
    rw [eq]
    exact gone { ran with result := some result } number reason
  | runaway =>
    obtain ⟨result, reason, eq⟩ := after
    rw [eq]
    exact gone { ran with result := some result } number reason

/-! ### What any script does -/

/-- A script is launched at the end of the queue. -/
theorem start {program : Program} {options : Options} (h : Queues away s pid)
    (numbers : s.Numbered) (prepared : s.prepare program options = .ok ex) :
    Queues away ((s.enroll ex).value.enqueue ex.pid) pid := by
  have move : Move ⟨s, away, []⟩ _ ⟨(s.enroll ex).value.enqueue ex.pid, away, []⟩ :=
    .start prepared
  by_cases own : pid = ex.pid
  · subst own
    refine h.launched (move.numbered numbers) (pid_of_prepare prepared)
      (get?_enroll_self (get?_of_prepare numbers prepared)) (unheld_of_prepare prepared).1 ?_
    change (s.ready ++ [ex.pid] ++ away).count ex.pid = _
    simp [List.count_append, Nat.add_assoc]
  · exact (h.congr (get?_enroll_of_ne own) rfl move.counts.nextPid).enqueue own

/-- A script is launched as the child of another one. -/
theorem startChild {parent : Pid} {program : Program} {ran : Logged (Pid × Scheduler)}
    (h : Queues away s pid) (numbers : s.Numbered)
    (launched : s.runScript parent program = .ok ran) (apart : pid ≠ parent) :
    Queues away ran.value.2 pid := by
  have move : Move ⟨s, away, []⟩ _ ⟨ran.value.2, away, []⟩ := .startChild launched
  have numbered := move.numbered numbers
  have next := move.counts.nextPid
  obtain ⟨waiting, child, found, -, prepared, eq⟩ := runScript_eq launched
  obtain ⟨self, -, others⟩ := get?_awaitChild numbers prepared found
  have kept : ((s.enroll child).value.awaitChild parent child.pid).ready.count pid =
      s.ready.count pid := by
    rw [← count_filter_ne apart]
    unfold awaitChild
    rw [Alters.hold.ready]
    exact count_filter_ne apart
  dsimp only at numbered next
  rw [eq] at numbered next ⊢
  by_cases own : pid = child.pid
  · subst own
    refine h.launched numbered (pid_of_prepare prepared) self (unheld_of_prepare prepared).1 ?_
    change (((s.enroll child).value.awaitChild parent child.pid).ready ++ [child.pid] ++
      away).count child.pid = _
    simp [List.count_append, kept, Nat.add_assoc]
  · refine (h.congr (others pid own apart) ?_ next).enqueue own
    rw [List.count_append, List.count_append, kept]

/-- A script is launched and is the next one to have its turn. -/
theorem startAway {program : Program} (h : Queues away s pid) (numbers : s.Numbered)
    (prepared : s.prepare program (completionOptions s.config) = .ok ex) :
    Queues (ex.pid :: away) (s.enroll ex).value pid := by
  have move : Move ⟨s, away, []⟩ _ ⟨(s.enroll ex).value, ex.pid :: away, []⟩ :=
    .startAway prepared
  by_cases own : pid = ex.pid
  · subst own
    refine h.launched (move.numbered numbers) (pid_of_prepare prepared)
      (get?_enroll_self (get?_of_prepare numbers prepared)) (unheld_of_prepare prepared).1 ?_
    change (s.ready ++ ex.pid :: away).count ex.pid = _
    simp [List.count_append, Nat.add_assoc]
  · exact (cons_iff own).mpr (h.congr (get?_enroll_of_ne own) rfl move.counts.nextPid)

/-- A script misses its turn, because it is not live or is in a hold list. A script that is queued
as it should be cannot be next then. -/
theorem skip {missing : Pid} (h : Queues (missing :: away) s pid)
    (idle : ∀ ex, s.get? missing = some ex → ex.thread.holdList ≠ .none) :
    Queues away s pid := by
  by_cases own : pid = missing
  · subst own
    refine ⟨?_, fun new => ?_⟩
    · intro ex found bytecode
      have absent := (h.absent found bytecode (idle ex found)).2
      exact absurd List.mem_cons_self absent
    · have absent := List.count_eq_zero.mp (h.new new)
      exact absurd (List.mem_append_right _ List.mem_cons_self) absent
  · exact (cons_iff own).mp h

/-- The first sleeper is woken. -/
theorem wakeFirst {key : TimerKey} {rest : List (TimerKey × Pid)} (h : Queues away s pid)
    (placed : Placed away s) (numbers : s.Numbered) (indexed : Indexed s)
    (lone : ∀ ex, s.get? pid = some ex → ex.Lone) (first : s.timeouts = (key, pid) :: rest) :
    Queues away ({ s with timeouts := rest }.wake pid).value pid := by
  obtain ⟨ex, found, timer⟩ := placed.sleeper_of_first first
  have list : (s.seat pid).list = .timeout := (placed.timer_iff pid).mp (by
    rw [seat_of_get? found]
    exact Option.isSome_of_eq_some timer)
  rw [seat_of_get? found] at list
  have taken : Indexed { s with timeouts := rest } := indexed.congr rfl fun _ => rfl
  have kept : Queues away { s with timeouts := rest } pid := { h with }
  exact kept.wake (numbers.lt_nextPid found) found (lone ex found) taken list

end Queues

end Scheduler

/-! ### Moves -/

section Moves

open Queues (cons_iff)

variable {may : Act → Prop} {m m' : Moment} {entries : List Entry} {pid : Pid}

/-- A script that launches no child remains in the queue as it should in a move, unless it is parked
or makes a request while it is away. -/
theorem MoveBy.queues (move : MoveBy may m entries m') (sound : m.Sound) (linked : Linked m.state)
    (alone : ¬ may (.adopt pid))
    (lone : ∀ ex, m.state.get? pid = some ex → ex.isEngine = false → ex.Lone)
    (stays : pid ∈ m.away → ¬ may (.park pid) ∧ ¬ may (.ask pid))
    (h : Queues m.away m.state pid) : Queues m'.away m'.state pid := by
  have next := move.any.counts.nextPid
  have old : m.state.get? pid ≠ none → pid.number < m.state.nextPid.number := by
    intro live
    obtain ⟨ex, found⟩ := Option.ne_none_iff_exists'.mp live
    exact sound.numbers.lt_nextPid found
  -- engine scripts remain engine scripts, and nothing is said of them
  by_cases engine : ∃ ex, m.state.get? pid = some ex ∧ ex.isEngine = true
  · obtain ⟨ex, found, isEngine⟩ := engine
    refine ⟨?_, fun new => absurd (sound.numbers.lt_nextPid found)
      (Nat.not_lt_of_le (Nat.le_trans next new))⟩
    intro ex' live bytecode
    rw [move.any.kind sound found live, isEngine] at bytecode
    exact absurd bytecode (by decide)
  have lone : ∀ ex, m.state.get? pid = some ex → ex.Lone := by
    intro ex found
    cases kind : ex.isEngine with
    | false => exact lone ex found kind
    | true => exact absurd ⟨ex, found, kind⟩ engine
  have childless : m.state.childOf? pid = none := by
    cases found : m.state.get? pid with
    | none => exact (links_of_not_live found).1
    | some ex => exact (childOf?_of_get? found).trans (lone ex found).childless
  have left : ∀ {gone : Executor}, Departs m.state gone m'.state →
      Queues m.away m'.state pid := fun departs => h.departed linked departs childless next old
  cases move with
  | tell | tellEngine | settleCall | takeExits | collect => exact { h with }
  | start prepared => exact h.start sound.numbers prepared
  | startChild launched allowed =>
    exact h.startChild sound.numbers launched fun own => alone (own ▸ allowed)
  | startAway prepared => exact h.startAway sound.numbers prepared
  | @takeBatch s => exact h.congr rfl (by simp) (Nat.le_refl _)
  | skip idle => exact h.skip idle
  | @turn s away _ other ex ran outcome _ found free runs =>
    obtain ⟨now, slice⟩ := runs.slice
    by_cases own : pid = other
    · subst own
      exact h.turn (sound.numbers.lt_nextPid found) found (lone ex found) free slice
    · have rest : Queues away s pid := (cons_iff own).mp h
      rcases Departs.turn found slice with alters | ⟨gone, -, departs⟩
      · exact rest.altered alters own next
      · exact rest.departed linked departs childless next old
  | @complete s away done _ =>
    cases found : s.get? done.pid with
    | none =>
      rw [completeExternal_of_not_live found]
      exact h
    | some ex =>
      have same : Alters done.pid s s := .of_same (fun _ => rfl) rfl
      exact left (Departs.completeExternal same rfl found _)
  | @signal s away _ other event =>
    by_cases own : pid = other
    · subst own
      exact h.signalEvent sound.numbers lone event
    · exact h.altered .signalEvent own next
  | @halt s s' away _ other halted allowed =>
    by_cases own : pid = other
    · subst own
      obtain ⟨ex, found, -⟩ := Evolves.get?_halt halted
      exact .halt (sound.numbers.lt_nextPid found) (fun mem => (stays mem).1 allowed) halted
    · exact h.altered (.halt halted) own next
  | @release s s' away _ other released =>
    by_cases own : pid = other
    · subst own
      obtain ⟨ex, found, -⟩ := Evolves.get?_release sound.placed released
      exact h.release (sound.numbers.lt_nextPid found) sound.placed found (lone ex found) released
    · exact h.altered (.release released) own next
  | retire found result reason => exact left (.retire found result reason)
  | @deschedule s away _ other =>
    dsimp only [Scheduler.deschedule] at left ⊢
    cases found : s.get? other with
    | none => exact h
    | some ex =>
      rw [found] at left
      exact left (.handedBack (pid_of_get? found ▸ found))
  | @request s away _ other entity kind wake callback allowed =>
    by_cases own : pid = other
    · subst own
      exact h.register sound.numbers (fun mem => (stays mem).2 allowed) lone
    · exact h.altered .register own next
  | @resolve s away _ id request pending value =>
    by_cases own : pid = request.pid
    · subst own
      have mem := (RequestTable.mem_of_get? (RequestTable.get?_of_unhandled? pending)).1
      obtain ⟨ex, found⟩ := Option.isSome_iff_exists.mp (sound.indexed.live mem)
      exact h.resolve sound.indexed (sound.numbers.lt_nextPid found) found (lone ex found) mem value
    · exact h.altered (.resolve value) own next
  | @wake s away _ _ key other rest first =>
    by_cases own : pid = other
    · subst own
      exact h.wakeFirst sound.placed sound.numbers sound.indexed lone first
    · have taken : Indexed { s with timeouts := rest } := sound.indexed.congr rfl fun _ => rfl
      have kept : Queues away { s with timeouts := rest } pid := { h with }
      exact kept.altered (.wake taken) own next

/-- Moves that launch no child of a script leave it waiting for one thing at a time. -/
theorem MovesBy.lone (moves : MovesBy may m entries m') (sound : m.Sound)
    (alone : ¬ may (.adopt pid))
    (before : ∀ ex, m.state.get? pid = some ex → ex.isEngine = false → ex.Lone) :
    ∀ ex, m'.state.get? pid = some ex → ex.isEngine = false → ex.Lone := by
  refine moves.scripts (P := fun ex => ex.isEngine = false → ex.Lone) sound
    (fun _ _ launched => launched.lone) ?_ before
  intro gone a b own change lone bytecode
  exact change.lone (own ▸ alone) (lone (change.any.kind.2.symm.trans bytecode))

/-- Moves that neither launch a child of a script nor park it nor make a request for it leave it in
the queue as it should be. -/
theorem MovesBy.queues (moves : MovesBy may m entries m') (sound : m.Sound)
    (linked : Linked m.state) (alone : ¬ may (.adopt pid))
    (lone : ∀ ex, m.state.get? pid = some ex → ex.isEngine = false → ex.Lone)
    (stays : ¬ may (.park pid) ∧ ¬ may (.ask pid)) (h : Queues m.away m.state pid) :
    Queues m'.away m'.state pid := by
  suffices both : Linked m'.state ∧ Queues m'.away m'.state pid from both.2
  induction moves with
  | refl => exact ⟨linked, h⟩
  | @step m₂ m₃ _ _ moves move ih =>
    have sound₂ := moves.sound sound
    exact ⟨ih.1.shift sound₂.numbers (move.any.shift sound₂.numbers sound₂.indexed),
      move.queues sound₂ ih.1 alone (moves.lone sound alone lone) (fun _ => stays) ih.2⟩

end Moves

/-! ### Histories -/

/-- A script that launches no child waits for one thing at a time, and is in the queue as it should
be. -/
structure Scheduler.Alone (s : Scheduler) (pid : Pid) : Prop where
  lone : ∀ ex, s.get? pid = some ex → ex.isEngine = false → ex.Lone
  queues : Queues [] s pid

/-- Only the launch of a child is an act of this kind. -/
theorem Operation.not_adopts {op : Operation} {pid : Pid}
    (alone : ∀ program, op ≠ .runScript pid program) : ¬ op.Does (.adopt pid) := by
  cases op with
  | runScript parent program =>
    rintro ⟨⟩
    exact alone program rfl
  | _ => simp [Operation.Does]

namespace Scheduler.Alone

variable {config : SchedulerConfig} {engine : Option Engine} {s : Scheduler} {pid : Pid}
  {patience : Nat} {op : Operation} {ran : Logged (Answer × Scheduler)}

/-- In a scheduler without scripts no script has launched a child. -/
theorem empty (config : SchedulerConfig) (engine : Option Engine) (pid : Pid) :
    (Scheduler.empty config engine).Alone pid :=
  ⟨fun ex found => absurd found (by simp [Scheduler.empty, get?]),
    fun ex found => absurd found (by simp [Scheduler.empty, get?]), fun _ => rfl⟩

/-- An edit leaves a script alone. -/
theorem edit {other : Pid} {ex : Executor} (h : s.Alone pid) (found : s.get? other = some ex)
    (edit : Edit) : (s.store (edit.apply ex)).Alone pid := by
  obtain ⟨seat, number⟩ := edit.seat_apply ex
  have own : (edit.apply ex).pid = other := number.trans (pid_of_get? found)
  have stored : (s.store (edit.apply ex)).get? other = some (edit.apply ex) :=
    get?_store found own
  by_cases same : pid = other
  · subst same
    constructor
    · intro ex' live bytecode
      obtain rfl := Option.some.inj (stored.symm.trans live)
      exact (h.lone ex found ((edit.isEngine_apply ex).symm.trans bytecode)).edit edit
    · refine ⟨?_, h.queues.new⟩
      intro ex' live bytecode
      obtain rfl := Option.some.inj (stored.symm.trans live)
      have list : (edit.apply ex).thread.holdList = ex.thread.holdList := congrArg Seat.list seat
      rw [list]
      exact h.queues.live ex found ((edit.isEngine_apply ex).symm.trans bytecode)
  · have kept : (s.store (edit.apply ex)).get? pid = s.get? pid := get?_store_of_ne (own ▸ same)
    exact ⟨fun ex' live => h.lone ex' (kept ▸ live), h.queues.congr kept rfl (Nat.le_refl _)⟩

/-- An operation that launches no child of a script leaves it alone. -/
theorem perform (h : s.Alone pid) (reached : Reachable config engine s)
    (alone : ∀ program, op ≠ .runScript pid program)
    (performed : s.perform patience op = some ran) : ran.value.2.Alone pid := by
  have apart := Operation.not_adopts alone
  have sound := reached.sound
  rcases Reachable.edit_or_moves_doing reached.numbered performed with
    ⟨_, edit, _, -, found, eq⟩ | moves
  · rw [eq]
    exact h.edit found edit
  · refine ⟨moves.lone sound apart h.lone, ?_⟩
    by_cases stays : ¬ op.Does (.park pid) ∧ ¬ op.Does (.ask pid)
    · exact moves.queues sound reached.linked apart h.lone stays h.queues
    -- whoever is parked or makes a request is not away, because the operation is a single move
    have single : ∀ {may : Act → Prop} {entries : List Entry} {s' : Scheduler},
        ¬ may (.adopt pid) → MoveBy may ⟨s, [], []⟩ entries ⟨s', [], []⟩ → Queues [] s' pid :=
      fun apart move => move.queues sound reached.linked apart h.lone
        (fun mem => absurd mem List.not_mem_nil) h.queues
    cases op with
    | halt other =>
      obtain rfl := Option.some.inj performed
      refine (undone_halt other).attemptQuietly (P := (Queues [] · pid)) h.queues fun s' halted => ?_
      have move : MoveBy (Operation.halt other).Does ⟨s, [], []⟩ [] ⟨s', [], []⟩ :=
        .halt halted rfl
      exact single apart move
    | request other entity kind callback =>
      obtain rfl := Option.some.inj performed
      have move : MoveBy (Operation.request other entity kind callback).Does ⟨s, [], []⟩ _
          ⟨_, [], []⟩ := .request other entity kind Clock.never callback rfl
      exact single apart move
    | requestWithTimeout now other entity kind timeout callback =>
      obtain rfl := Option.some.inj performed
      have move : MoveBy (Operation.requestWithTimeout now other entity kind timeout callback).Does
          ⟨s, [], []⟩ _ ⟨_, [], []⟩ :=
        .request other entity kind (Clock.wakeAfter now timeout) callback rfl
      exact single apart move
    | _ => exact absurd ⟨by simp [Operation.Does], by simp [Operation.Does]⟩ stays

end Scheduler.Alone

/-- Along a history a script is alone as long as it launches no child. -/
theorem History.alone {config : SchedulerConfig} {engine : Option Engine} {s t : Scheduler}
    {past : List Performed} {pid : Pid} (history : History s past t)
    (reached : Reachable config engine s) (start : s.Alone pid)
    (alone : ∀ step ∈ past, ∀ program, step.op ≠ .runScript pid program) : t.Alone pid := by
  induction history with
  | refl => exact start
  | step before performed ih =>
    obtain ⟨past, last⟩ := List.forall_mem_append.mp alone
    exact (ih past).perform (before.reachable reached) (last _ List.mem_cons_self) performed

end ScriptScheduler
