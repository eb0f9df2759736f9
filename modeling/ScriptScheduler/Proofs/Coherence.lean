import ScriptScheduler.Proofs.Changes

/-!
# Flags and hold lists

The flags of a script fit the hold list that its thread names: it is halted if it is parked for the
debugger, it has an outstanding call if the engine manages it (`Executor.Coherent`), and as long as
numbers of requests are new it is blocked just when it sleeps, with the wake clock of its timer if
it has one (`Thread.Timely`). With the order of the hold lists this says of every live script
where it is held.
-/

namespace ScriptScheduler

namespace Thread

variable {t : Thread}

/-! ### Threads that are freed and held -/

/-- A thread stays in a fixed hold list when it is freed, and it gets into none. -/
theorem freed_holdList {list : HoldList} (fixed : list.isFixed = true) :
    t.freed.holdList = list ↔ t.holdList = list := by
  unfold freed detached
  cases held : t.holdList <;> cases list <;> simp_all [HoldList.isFixed]

/-- A thread stays in a fixed hold list when it is held, and it gets into none. -/
theorem held_holdList {list : HoldList} {seq : Nat} (fixed : list.isFixed = true) :
    (t.held seq).holdList = list ↔ t.holdList = list := by
  unfold held
  split
  · rfl
  · next loose =>
    have ne : t.holdList ≠ list := fun same => loose (same ▸ fixed)
    split
    · cases list <;> simp_all [HoldList.isFixed]
    · cases list <;> simp_all [HoldList.isFixed]

@[simp] theorem freed_inbox : t.freed.inbox = t.inbox := by unfold freed; split <;> rfl

@[simp] theorem freed_outstanding : t.freed.outstanding = t.outstanding := by
  unfold freed; split <;> rfl

@[simp] theorem freed_isBlocked : t.freed.isBlocked = t.isBlocked := by
  unfold freed; split <;> rfl

@[simp] theorem freed_waitType : t.freed.waitType = t.waitType := by
  unfold freed; split <;> rfl

@[simp] theorem held_waitType {seq : Nat} : (t.held seq).waitType = t.waitType := by
  unfold held; split <;> [rfl; (split <;> rfl)]

@[simp] theorem held_inbox {seq : Nat} : (t.held seq).inbox = t.inbox := by
  unfold held; split <;> [rfl; (split <;> rfl)]

@[simp] theorem held_outstanding {seq : Nat} : (t.held seq).outstanding = t.outstanding := by
  unfold held; split <;> [rfl; (split <;> rfl)]

/-! ### Sleeping threads -/

/-- A thread is blocked if it is among the sleepers, with the wake clock of its timer if it has
one, and it is not blocked if it is in no hold list. -/
def Timely (t : Thread) : Prop :=
  match t.holdList with
  | .none => t.isBlocked = false
  | .timeout =>
    t.isBlocked = true ∧ t.sleepUntil ≠ Clock.never ∧ ∃ seq, t.timer = some ⟨t.sleepUntil, seq⟩
  | .noTimeout => t.isBlocked = true ∧ t.sleepUntil = Clock.never
  | .debugger | .external => True

/-- A fitting thread in no hold list is not blocked. -/
theorem Timely.free (h : t.Timely) (unheld : t.holdList = .none) : t.isBlocked = false := by
  unfold Timely at h
  rwa [unheld] at h

/-- A fitting thread among the sleepers with a wake clock is blocked. -/
theorem Timely.sleeps (h : t.Timely) (held : t.holdList = .timeout) : t.isBlocked = true := by
  unfold Timely at h
  rw [held] at h
  exact h.1

/-- A thread that is freed fits its hold list if it is not blocked. -/
theorem timely_freed (free : t.holdList ≠ .external → t.isBlocked = false) : t.freed.Timely := by
  unfold freed
  split
  · next fixed =>
    unfold Timely
    cases list : t.holdList <;> simp_all [HoldList.isFixed]
  · next loose =>
    have mine : t.holdList ≠ .external := fun eq => loose (by rw [eq]; rfl)
    exact free mine

/-- A blocked thread that is held fits its hold list. -/
theorem timely_held {seq : Nat} (blocked : t.isBlocked = true) : (t.held seq).Timely := by
  unfold held
  split
  · next fixed =>
    unfold Timely
    cases list : t.holdList <;> simp_all [HoldList.isFixed]
  · split
    · next never => exact ⟨blocked, never⟩
    · next ever => exact ⟨blocked, ever, seq, rfl⟩

/-- A suspended thread is blocked. -/
theorem isBlocked_suspend (wake : Nat) : (t.suspend wake).isBlocked = true := by
  simp [isBlocked, suspend]

/-- A revived thread without an outstanding call is not blocked. -/
theorem isBlocked_revive (idle : t.outstanding = none) : t.revive.isBlocked = false := by
  unfold isBlocked revive
  unfold outstanding at idle
  split <;> simp_all

end Thread

namespace Executor

variable {ex a b : Executor} {gone : Pid → Prop} {wrapped : Prop}

/-! ### Halted and engine-managed scripts -/

/-- A script is halted if it is parked for the debugger, it has an outstanding call if the engine
manages it, which is so for engine scripts only, and an engine script has an engine program and no
event queue. -/
structure Coherent (ex : Executor) : Prop where
  halted : ex.halted = true ↔ ex.thread.holdList = .debugger
  external : ex.thread.outstanding.isSome = true ↔ ex.thread.holdList = .external
  managed : ex.thread.holdList = .external → ex.isEngine = true
  call : ex.isEngine = true → ∃ outstanding, ex.thread.inbox = .call outstanding
  bound : ex.programType = some .engine ↔ ex.isEngine = true

/-- A script that stays in the hold list where it is fixed remains coherent. -/
theorem Coherent.congr (h : a.Coherent) (program : b.program = a.program)
    (isEngine : b.isEngine = a.isEngine) (halted : b.halted = a.halted)
    (outstanding : b.thread.outstanding = a.thread.outstanding)
    (inbox : b.isEngine = true → b.thread.inbox = a.thread.inbox)
    (fixed : ∀ list : HoldList, list.isFixed = true →
      (b.thread.holdList = list ↔ a.thread.holdList = list)) : b.Coherent where
  halted := by rw [halted, h.halted, fixed .debugger rfl]
  external := by rw [outstanding, h.external, fixed .external rfl]
  managed := by
    rw [fixed .external rfl, isEngine]
    exact h.managed
  call engine := by
    rw [inbox engine]
    exact h.call (isEngine ▸ engine)
  bound := by
    unfold programType
    rw [program, isEngine]
    exact h.bound

/-- A launched script is coherent. -/
theorem Launched.coherent (launched : ex.Launched) : ex.Coherent := by
  obtain ⟨s, program, options, new, parent, prepared, rfl⟩ := launched
  obtain ⟨runtime, thread, bound, rfl⟩ := Scheduler.prepare_eq prepared
  rcases Scheduler.bindRuntime_cases bound with
    ⟨type, machine, rfl, rfl⟩ | ⟨type, function, rfl, rfl⟩
  · constructor
    · simp [new, Thread.queued]
    · simp [Thread.queued, Thread.outstanding]
    · simp [Thread.queued]
    · simp [isEngine]
    · simp [programType, type, isEngine]
  · constructor
    · simp [new, Thread.bridged]
    · simp [Thread.bridged, Thread.outstanding]
    · exact fun _ => rfl
    · exact fun _ => ⟨none, rfl⟩
    · simp [programType, type, isEngine]

/-- After a slice a bytecode script is coherent but for its halt flag. -/
theorem Slice.coherent {now : Nat} {limit : Option Nat} {outcome : SliceOutcome}
    (slice : Slice now limit a b outcome) (bytecode : outcome ≠ .external) (h : a.Coherent) :
    { b with halted := a.halted }.Coherent := by
  have carried := slice.carries
  refine h.congr carried.program carried.isEngine rfl carried.outstanding ?_ ?_
  · intro engine
    have engine : b.isEngine = true := engine
    rw [carried.isEngine] at engine
    exact absurd (slice.of_isEngine engine).1 bytecode
  · intro list _
    change b.thread.holdList = list ↔ _
    rw [carried.holdList]

/-- A freed script remains coherent. -/
theorem Coherent.freed (h : ex.Coherent) : (ex.mapThread Thread.freed).Coherent :=
  h.congr rfl rfl rfl Thread.freed_outstanding (fun _ => Thread.freed_inbox) fun _ =>
    Thread.freed_holdList

/-- A held script remains coherent. -/
theorem Coherent.held (h : ex.Coherent) (seq : Nat) : (ex.mapThread (Thread.held seq)).Coherent :=
  h.congr rfl rfl rfl Thread.held_outstanding (fun _ => Thread.held_inbox) fun _ =>
    Thread.held_holdList

/-- A suspended script remains coherent. -/
theorem Coherent.suspend (h : ex.Coherent) (wake : Nat) : (ex.suspend wake).Coherent := by
  unfold Executor.suspend
  split
  · exact h
  · exact { h with }

/-- A script that is not managed by the engine has no outstanding call. -/
theorem Coherent.outstanding (h : ex.Coherent) (mine : ex.thread.holdList ≠ .external) :
    ex.thread.outstanding = none := by
  have := mt h.external.mp mine
  simpa using this

/-- A coherent script that is moved to another hold list together with its halt flag. -/
theorem Coherent.moved (h : ex.Coherent) (halted : Bool) (list : HoldList) {g : Thread → Thread}
    (mine : ex.thread.holdList ≠ .external) (inbox : (g ex.thread).inbox = ex.thread.inbox)
    (goes : (g ex.thread).holdList = list) (away : list ≠ .external)
    (flag : halted = true ↔ list = .debugger) :
    ({ ex with halted := halted }.mapThread g).Coherent where
  halted := flag.trans (goes ▸ Iff.rfl)
  external := by
    have none : (g ex.thread).outstanding = none := by
      unfold Thread.outstanding
      rw [inbox]
      exact h.outstanding mine
    change (g ex.thread).outstanding.isSome = true ↔ (g ex.thread).holdList = .external
    rw [none, goes]
    simp [away]
  managed held := absurd (goes.symm.trans held) away
  call engine := by
    obtain ⟨outstanding, eq⟩ := h.call engine
    exact ⟨outstanding, inbox.trans eq⟩
  bound := h.bound

/-- Changes keep scripts coherent. -/
theorem Change.coherent (change : Change gone wrapped a b) (h : a.Coherent) : b.Coherent := by
  cases change with
  | preempted _ slice =>
    have after := slice.coherent (by simp) h
    rw [← slice.ended.1] at after
    exact after
  | slept _ slice =>
    have after := slice.coherent (by simp) h
    rw [← slice.ended.1] at after
    exact after.held _
  | @stopped ran _ _ free slice =>
    have flag : ran.halted = true := slice.ended
    have after := slice.coherent (by simp) h
    have mine : ran.thread.holdList ≠ .external := by simp [slice.carries.holdList, free]
    have stopped := after.moved true .debugger
      (g := fun t => { t with holdList := .debugger }) mine rfl rfl (by decide) (by decide)
    rw [← flag] at stopped
    exact stopped
  | called free engine id =>
    obtain ⟨outstanding, inbox⟩ := h.call engine
    -- the script is on no list, so it is not parked either
    have running : a.halted = false := by
      have := mt h.halted.mp (by simp [free])
      simpa using this
    have thread : { a.thread.detached with holdList := .external }.setOutstanding (some id) =
        { a.thread.detached with holdList := .external, inbox := .call (some id) } := by
      unfold Thread.setOutstanding Thread.detached
      rw [inbox]
    unfold mapThread
    dsimp only
    rw [thread]
    constructor
    · simp [running]
    · simp [Thread.outstanding]
    · exact fun _ => engine
    · exact fun _ => ⟨some id, rfl⟩
    · exact h.bound
  | @queued event thread _ posted =>
    obtain ⟨capacity, events, inbox, rfl⟩ := Thread.post_ok posted
    refine h.congr rfl rfl rfl ?_ ?_ fun _ _ => Iff.rfl
    · simp [Thread.outstanding, inbox]
    · intro engine
      -- an engine script has no queue, so nothing was posted to it
      obtain ⟨outstanding, call⟩ := h.call engine
      rw [inbox] at call
      exact absurd call (by simp)
  | woken => exact Coherent.freed { h with }
  | answered =>
    refine Coherent.freed ?_
    unfold Executor.answered
    split <;> exact { h with }
  | timedOut sleeps =>
    have running : a.halted = true ↔ HoldList.none = .debugger := by
      rw [h.halted, sleeps]
      simp
    have moved := h.moved a.halted .none
      (g := fun t => t.detached.revive) (by simp [sleeps]) rfl rfl (by decide) running
    exact { moved with }
  | resumed => exact Coherent.freed { h with }
  | orphaned => exact { h with }
  | halted mine => exact h.moved true .debugger mine rfl rfl (by decide) (by decide)
  | releasedBlocked parked _ seq =>
    have detached := h.moved false .none (g := Thread.detached)
      (by simp [parked]) rfl rfl (by decide) (by decide)
    exact detached.held seq
  | released parked =>
    exact h.moved false .none (by simp [parked]) rfl rfl (by decide) (by decide)
  | @requested _ _ holder _ _ wake seq =>
    have asking : (a.suspend wake).openResultSlot.Coherent := by
      unfold Executor.openResultSlot
      split
      · exact h.suspend wake
      · exact { h.suspend wake with }
    have asked : { (a.suspend wake).openResultSlot with requests := holder }.Coherent :=
      { asking with }
    exact asked.held seq
  | takenBack => exact { h with }
  | awaited _ child seq =>
    have linked : ({ a with child := some child }.push .sentinel).Coherent := { h with }
    exact (linked.suspend _).held seq

/-- Edits keep scripts coherent. -/
theorem Coherent.edit (h : ex.Coherent) (edit : Edit) : (edit.apply ex).Coherent := by
  cases edit with
  | push value => exact { h with }
  | setCritical critical => exact { h with }
  | setPriority priority => exact { h with }
  | setWarnOnRunaway warn => exact { h with }
  | setEventQueueSize size =>
    have place : (ex.thread.setCapacity size).holdList = ex.thread.holdList := by
      unfold Thread.setCapacity
      split <;> rfl
    have call : (ex.thread.setCapacity size).outstanding = ex.thread.outstanding := by
      unfold Thread.setCapacity
      split
      · next inbox => simp [Thread.outstanding, inbox]
      · rfl
    refine h.congr rfl rfl rfl call ?_ fun list _ => by rw [← place]; rfl
    intro engine
    obtain ⟨outstanding, inbox⟩ := h.call engine
    change (ex.thread.setCapacity size).inbox = _
    unfold Thread.setCapacity
    simp [inbox]

/-! ### Blocked scripts -/

/-- A script that gets what it waited for fits its hold list. -/
theorem Coherent.timely_revive (h : ex.Coherent) : ex.thread.revive.freed.Timely :=
  Thread.timely_freed fun mine => Thread.isBlocked_revive (h.outstanding mine)

/-- A suspended script is blocked. -/
theorem isBlocked_suspend (sleepy : ex.options.runToCompletion = false) (wake : Nat) :
    (ex.suspend wake).isBlocked = true := by
  unfold suspend
  rw [sleepy]
  exact Thread.isBlocked_suspend wake

/-- Changes keep threads in fitting hold lists, as long as numbers of requests are new or the script
does not run on the engine. -/
theorem Change.timely (change : Change gone wrapped a b) (coherent : a.Coherent)
    (new : wrapped → a.isEngine = false) (h : a.thread.Timely) : b.thread.Timely := by
  have revived : a.thread.revive.freed.Timely := coherent.timely_revive
  cases change with
  | preempted free slice =>
    have free : b.thread.holdList = .none := slice.carries.holdList.trans free
    unfold Thread.Timely
    rw [free]
    exact slice.ended.2
  | slept _ slice => exact Thread.timely_held slice.ended.2
  | stopped => exact trivial
  | called _ engine id =>
    unfold Thread.Timely mapThread
    have list : ({ a.thread.detached with holdList := .external }.setOutstanding
        (some id)).holdList = .external := by
      unfold Thread.setOutstanding
      split <;> rfl
    dsimp only
    rw [list]
    exact trivial
  | @queued event thread _ posted =>
    obtain ⟨capacity, events, inbox, rfl⟩ := Thread.post_ok posted
    unfold Thread.Timely Thread.isBlocked at h ⊢
    rw [inbox] at h
    exact h
  | woken => exact revived
  | answered =>
    unfold Executor.answered
    split
    · exact revived
    · exact revived
  | timedOut sleeps =>
    have mine : a.thread.holdList ≠ .external := by simp [sleeps]
    exact Thread.isBlocked_revive (t := a.thread.detached) (coherent.outstanding mine)
  | resumed => exact revived
  | orphaned => exact h
  | halted => exact trivial
  | releasedBlocked _ blocked => exact Thread.timely_held blocked
  | released _ free => exact free
  | requested able _ wake =>
    -- a script that runs to completion is refused, so it does fall asleep
    have sleepy : a.options.runToCompletion = false := by
      unfold mayAsk at able
      simp_all
    have asleep := isBlocked_suspend sleepy wake
    have blocked : (a.suspend wake).openResultSlot.isBlocked = true := by
      unfold openResultSlot
      split
      · exact asleep
      · exact asleep
    exact Thread.timely_held blocked
  | takenBack able used =>
    have free : a.thread.isBlocked = false := by
      have idle : a.isBlocked = false := by
        unfold mayAsk at able
        simp_all
      exact idle
    -- only a script that was not asleep could ask, so waking it leaves it where it was
    change a.thread.revive.Timely
    unfold Thread.Timely at h ⊢
    cases list : a.thread.holdList <;> simp_all [Thread.revive, Thread.isBlocked]
  | awaited able child =>
    have sleepy : a.options.runToCompletion = false := by
      unfold Scheduler.childRefusal? at able
      split at able
      · exact absurd able (by simp)
      · split at able
        · exact absurd able (by simp)
        · split at able
          · exact absurd able (by simp)
          · next sleepy => simpa using sleepy
    let waiting : Executor := { a with child := some child }.push .sentinel
    have sleepy : waiting.options.runToCompletion = false := sleepy
    exact Thread.timely_held (isBlocked_suspend sleepy Clock.never)

/-- A launched script is in no hold list and not blocked. -/
theorem Launched.timely (launched : ex.Launched) : ex.thread.Timely := by
  obtain ⟨s, program, options, new, parent, prepared, rfl⟩ := launched
  obtain ⟨runtime, thread, bound, rfl⟩ := Scheduler.prepare_eq prepared
  rcases Scheduler.bindRuntime_cases bound with
    ⟨type, machine, rfl, rfl⟩ | ⟨type, function, rfl, rfl⟩
  · rfl
  · rfl

/-- Edits leave threads in fitting hold lists. -/
theorem timely_edit (h : ex.thread.Timely) (edit : Edit) : (edit.apply ex).thread.Timely := by
  cases edit with
  | push value => exact h
  | setCritical critical => exact h
  | setPriority priority => exact h
  | setWarnOnRunaway warn => exact h
  | setEventQueueSize size =>
    change (ex.thread.setCapacity size).Timely
    unfold Thread.setCapacity
    split
    · next capacity events inbox =>
      unfold Thread.Timely Thread.isBlocked at h ⊢
      rw [inbox] at h
      exact h
    · exact h

end Executor

/-! ### Where scripts are held -/

/-- The thread and the flags of a live script tell where the script is held: it is in the list that
its thread names and in no other one. -/
structure Scheduler.Holds (s : Scheduler) (pid : Pid) (ex : Executor) : Prop where
  timeout : ex.thread.holdList = .timeout ↔ ∃ key, (key, pid) ∈ s.timeouts
  timer : ∀ key, (key, pid) ∈ s.timeouts →
    s.timeouts.filter (fun entry => entry.2 = pid) = [(key, pid)] ∧
      ex.thread.timer = some key ∧ key.wake = ex.thread.sleepUntil ∧
      ex.thread.sleepUntil ≠ Clock.never
  untimed : ex.thread.holdList = .noTimeout ↔ pid ∈ s.untimed
  unending : pid ∈ s.untimed → ex.thread.sleepUntil = Clock.never
  debugger : ex.thread.holdList = .debugger ↔ pid ∈ s.debugger
  halted : ex.halted = true ↔ pid ∈ s.debugger
  external : ex.thread.holdList = .external ↔ pid ∈ s.external
  ready : ex.thread.holdList = .none → pid ∈ s.ready
  blocked : ex.thread.holdList = .timeout ∨ ex.thread.holdList = .noTimeout ∨
    ex.thread.holdList = .external → ex.isBlocked = true
  free : ex.thread.holdList = .none → ex.isBlocked = false

/-- In a list that is ordered by its timers, a script with one timer has one entry. -/
theorem Scheduler.Placed.filter_timeouts {s : Scheduler} {away : List Pid} {pid : Pid}
    {key : TimerKey} (h : Placed away s) (mem : (key, pid) ∈ s.timeouts) :
    s.timeouts.filter (fun entry => entry.2 = pid) = [(key, pid)] := by
  have timer := (h.timeouts pid key).mp mem
  have own : ∀ entry ∈ s.timeouts.filter (fun entry => entry.2 = pid), entry = (key, pid) := by
    rintro ⟨other, owner⟩ found
    obtain ⟨live, rfl⟩ : (other, owner) ∈ s.timeouts ∧ owner = pid := by simpa using found
    have same := (h.timeouts owner other).mp live
    rw [timer] at same
    rw [Option.some.inj same]
  have once : (s.timeouts.filter fun entry => entry.2 = pid).Nodup := by
    refine List.Nodup.filter _ (h.sortedTimers.imp ?_)
    intro a b before same
    rw [same] at before
    exact TimerKey.not_before_self _ before
  have some : (key, pid) ∈ s.timeouts.filter fun entry => entry.2 = pid :=
    List.mem_filter.mpr ⟨mem, by simp⟩
  cases list : s.timeouts.filter fun entry => entry.2 = pid with
  | nil =>
    rw [list] at some
    exact absurd some (by simp)
  | cons first rest =>
    rw [list] at own once
    cases rest with
    | nil => rw [own first (by simp)]
    | cons second rest =>
      rw [own first (by simp), own second (by simp)] at once
      exact absurd once (by simp)

namespace Reachable

variable {config : SchedulerConfig} {engine : Option Engine} {s : Scheduler} {pid : Pid}
  {ex : Executor}

/-- In every reachable state all live scripts are coherent. -/
theorem coherent (reached : Reachable config engine s) (found : s.get? pid = some ex) :
    ex.Coherent :=
  reached.scripts (P := Executor.Coherent) (fun new => absurd trivial new)
    (fun _ launched => launched.coherent) (fun _ _ _ change h => change.coherent h)
    (fun _ edit h => h.edit edit) found

/-- In every reachable state the threads of all live scripts fit their hold lists, as long as
numbers of requests are new. -/
theorem timely (reached : Reachable config engine s) (unwrapped : s.Unwrapped)
    (found : s.get? pid = some ex) : ex.thread.Timely :=
  (reached.scripts (P := fun ex => ex.Coherent ∧ ex.thread.Timely)
    (fun _ => unwrapped) (fun _ launched => ⟨launched.coherent, launched.timely⟩)
    (fun _ _ _ change h => ⟨change.coherent h.1, change.timely h.1 False.elim h.2⟩)
    (fun _ edit h => ⟨h.1.edit edit, Executor.timely_edit h.2 edit⟩) found).2

/-- In every reachable state whose request numbers have not started again, the thread and the flags
of every live script tell where the script is held. -/
theorem holds (reached : Reachable config engine s) (unwrapped : s.Unwrapped)
    (found : s.get? pid = some ex) : s.Holds pid ex := by
  have placed := reached.placed
  have coherent := reached.coherent found
  have timely := reached.timely unwrapped found
  have seat : s.seat pid = ex.seat := Scheduler.seat_of_get? found
  have listed : ∀ key, (key, pid) ∈ s.timeouts ↔ ex.thread.timer = some key := fun key => by
    rw [placed.timeouts, seat]
    rfl
  have untimed : ex.thread.holdList = .noTimeout ↔ pid ∈ s.untimed := by
    rw [placed.untimed, seat]
    rfl
  have debugger : ex.thread.holdList = .debugger ↔ pid ∈ s.debugger := by
    rw [placed.debugger, seat]
    rfl
  have timeout : ex.thread.holdList = .timeout ↔ ∃ key, (key, pid) ∈ s.timeouts := by
    have timed := placed.timer_iff pid
    rw [seat] at timed
    rw [← show _ ↔ ex.thread.holdList = .timeout from timed, Option.isSome_iff_exists]
    exact exists_congr fun key => (listed key).symm
  -- what the thread must say is read off its hold list
  unfold Thread.Timely at timely
  constructor
  case timeout => exact timeout
  case timer =>
    intro key mem
    have timer := (listed key).mp mem
    rw [timeout.mpr ⟨key, mem⟩] at timely
    obtain ⟨-, ends, seq, own⟩ := timely
    rw [timer] at own
    exact ⟨placed.filter_timeouts mem, timer, congrArg TimerKey.wake (Option.some.inj own), ends⟩
  case untimed => exact untimed
  case unending =>
    intro mem
    rw [untimed.mpr mem] at timely
    exact timely.2
  case debugger => exact debugger
  case halted => exact coherent.halted.trans debugger
  case external =>
    rw [placed.external, seat]
    rfl
  case ready =>
    intro free
    have live : (s.get? pid).isSome = true := by rw [found]; rfl
    exact (placed.ready pid live (seat ▸ free)).resolve_right (by simp)
  case blocked =>
    rintro (list | list | list)
    · rw [list] at timely
      exact timely.1
    · rw [list] at timely
      exact timely.1
    · have call := coherent.external.mpr list
      unfold Executor.isBlocked Thread.isBlocked
      unfold Thread.outstanding at call
      split at call
      · exact absurd call (by decide)
      · simp [call]
  case free =>
    intro free
    rw [free] at timely
    exact timely

end Reachable

/-- A script is launched and falls asleep. -/
def sleepingRun : List Operation :=
  [.start (.bytecode "sleeper" [.sleep 100, .ret]), .runReady 0]

/-- A script that has fallen asleep is held where its thread and its flags tell. -/
theorem holds_sleeping : ∃ s ex, Scheduler.performAll 1 sleepingRun (.empty {} none) = some s ∧
    s.Unwrapped ∧ s.get? ⟨1⟩ = some ex ∧ ex.thread.holdList = .timeout ∧ s.Holds ⟨1⟩ ex := by
  have performed : Scheduler.performAll 1 sleepingRun (.empty {} none) = some _ := rfl
  refine ⟨_, _, performed, by unfold Scheduler.Unwrapped; decide, rfl, rfl, ?_⟩
  exact Reachable.holds (Reachable.empty.performAll performed)
    (by unfold Scheduler.Unwrapped; decide) rfl

end ScriptScheduler
