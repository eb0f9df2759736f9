import ScriptScheduler.Proofs.CallRecords

/-!
# Engine scripts

An engine script has no child and waits for no event, and nothing that happens to it touches its
stack before it calls the engine (`Executor.Reserved`). So the arguments of its call are the stack
that it had before the operation in which it calls (`Moves.args`), and along a run no script calls
the engine twice (`Run.callsOnce`).
-/

namespace ScriptScheduler

open Scheduler

/-! ### What an engine script keeps -/

namespace Executor

variable {ex a b : Executor} {gone : Pid → Prop} {wrapped : Prop} {stack : List Val}

/-- An engine script has no child and waits for no event, and its stack is `stack` as long as it has
not called the engine. -/
structure Reserved (stack : List Val) (ex : Executor) : Prop where
  coherent : ex.Coherent
  isEngine : ex.isEngine = true
  childless : ex.child = none
  waitType : ex.thread.waitType = .wait
  stack : ex.thread.outstanding = none → ex.stack = stack

/-- Changes leave the stack of an engine script alone until it calls the engine. -/
theorem Change.reserved (change : Change gone wrapped a b) (h : a.Reserved stack) :
    b.Reserved stack := by
  have coherent := change.coherent h.coherent
  have isEngine := change.kind.2.trans h.isEngine
  cases change with
  -- an engine script has no instructions to run, so a slice of it only hands it over
  | preempted _ slice => exact absurd (slice.of_isEngine h.isEngine).1 (by simp)
  | slept _ slice => exact absurd (slice.of_isEngine h.isEngine).1 (by simp)
  | stopped _ slice => exact absurd (slice.of_isEngine h.isEngine).1 (by simp)
  | called free _ id =>
    obtain ⟨before, inbox⟩ := h.coherent.call h.isEngine
    refine ⟨coherent, isEngine, h.childless, ?_, ?_⟩
    · unfold mapThread Thread.setOutstanding
      dsimp only
      split
      · exact h.waitType
      · exact h.waitType
    · intro idle
      let parked : Thread := { a.thread.detached with holdList := .external }
      have waits : parked.inbox = .call before := inbox
      -- from now on its thread names a call, and nothing is said of its stack
      have named := Scheduler.outstanding_setOutstanding waits id
      exact absurd (named.symm.trans idle) (by simp)
  | queued _ posted =>
    obtain ⟨before, inbox⟩ := h.coherent.call h.isEngine
    unfold Thread.post at posted
    rw [inbox] at posted
    exact absurd posted (by simp)
  | woken awaits =>
    unfold awaitsEvent at awaits
    -- it never waits for an event
    rw [h.waitType] at awaits
    exact absurd awaits (by simp)
  | @answered kind id _ value =>
    have same : ({ a with requests := a.requests.remove kind id }.answered value) =
        { a with requests := a.requests.remove kind id }.revive :=
      congrArg Executor.revive (if_pos h.isEngine)
    rw [same] at coherent isEngine ⊢
    exact ⟨coherent, isEngine, h.childless, Thread.freed_waitType, fun idle =>
      h.stack ((Thread.freed_outstanding (t := a.thread.revive)).symm.trans idle)⟩
  | timedOut =>
    refine ⟨coherent, isEngine, h.childless, rfl, ?_⟩
    intro idle
    unfold Executor.timedOut
    dsimp only
    rw [h.isEngine, Bool.or_true, if_pos rfl]
    exact h.stack idle
  | resumed link => exact absurd (h.childless.symm.trans link) (by simp)
  | orphaned => exact { h with coherent := coherent }
  | halted => exact { h with coherent := coherent }
  | releasedBlocked =>
    exact ⟨coherent, isEngine, h.childless, Thread.held_waitType.trans h.waitType, fun idle =>
      h.stack ((Thread.held_outstanding (t := a.thread.detached)).symm.trans idle)⟩
  | released => exact { h with coherent := coherent }
  | @requested _ _ holder _ _ wake seq =>
    have suspended := a.carries_suspend wake
    have same : (a.suspend wake).openResultSlot = a.suspend wake :=
      if_pos (suspended.isEngine.trans h.isEngine)
    have waits : (a.suspend wake).thread.waitType = a.thread.waitType := by
      unfold suspend
      split <;> rfl
    have stack : (a.suspend wake).stack = a.stack := by
      unfold suspend
      split <;> rfl
    rw [same] at coherent isEngine ⊢
    refine ⟨coherent, isEngine, suspended.child.trans h.childless,
      (Thread.held_waitType.trans waits).trans h.waitType, ?_⟩
    intro idle
    refine stack.trans (h.stack ?_)
    rw [← suspended.outstanding]
    exact Thread.held_outstanding.symm.trans idle
  | takenBack => exact { h with coherent := coherent, waitType := rfl }
  | awaited able =>
    exact absurd (h.coherent.bound.mpr h.isEngine) (Scheduler.child_of_childRefusal? able).2.2

/-- A launched engine script has an empty stack. -/
theorem Launched.reserved (launched : ex.Launched) (isEngine : ex.isEngine = true) :
    ex.Reserved [] := by
  have coherent := launched.coherent
  obtain ⟨s, program, options, new, parent, prepared, rfl⟩ := launched
  obtain ⟨runtime, thread, bound, rfl⟩ := Scheduler.prepare_eq prepared
  rcases Scheduler.bindRuntime_cases bound with ⟨-, _, -, rfl⟩ | ⟨-, _, -, rfl⟩
  · exact ⟨coherent, isEngine, rfl, rfl, fun _ => rfl⟩
  · exact ⟨coherent, isEngine, rfl, rfl, fun _ => rfl⟩

/-- An edit of a script that has no call pending may change its stack. -/
theorem Reserved.edit (h : ex.Reserved stack) (edit : Edit) :
    (edit.apply ex).Reserved (edit.apply ex).stack := by
  have coherent := h.coherent.edit edit
  have waitType : (edit.apply ex).thread.waitType = ex.thread.waitType := by
    cases edit with
    | setEventQueueSize size =>
      change (ex.thread.setCapacity size).waitType = _
      unfold Thread.setCapacity
      split <;> rfl
    | push | setCritical | setPriority | setWarnOnRunaway => rfl
  have kin := congrArg Prod.snd (edit.kin_apply ex)
  exact ⟨coherent, (edit.isEngine_apply ex).trans h.isEngine, kin.trans h.childless,
    waitType.trans h.waitType, fun _ => rfl⟩

end Executor

/-- In every reachable state all live engine scripts are reserved. -/
theorem Reachable.reserved {config : SchedulerConfig} {engine : Option Engine} {s : Scheduler}
    {pid : Pid} {ex : Executor} (reached : Reachable config engine s)
    (found : s.get? pid = some ex) (isEngine : ex.isEngine = true) : ex.Reserved ex.stack := by
  refine reached.scripts (P := fun ex => ex.isEngine = true → ex.Reserved ex.stack)
    (fun new => absurd trivial new) ?_ ?_ ?_ found isEngine
  · intro ex launched isEngine
    have new := launched.reserved isEngine
    exact { new with stack := fun _ => rfl }
  · intro gone a b change h isEngine
    have kept := change.reserved (h (change.kind.2.symm.trans isEngine))
    exact { kept with stack := fun _ => rfl }
  · intro ex edit h isEngine
    exact (h ((edit.isEngine_apply ex).symm.trans isEngine)).edit edit

/-! ### Moments with engine calls -/

namespace Scheduler

variable {s s' : Scheduler} {pid other : Pid} {ex : Executor}

/-- The script `pid` has been launched and is not live any more. -/
def Departed (s : Scheduler) (pid : Pid) : Prop :=
  pid.number < s.nextPid.number ∧ s.get? pid = none

/-- The exit records of the script `pid`. -/
def recordsOf (s : Scheduler) (pid : Pid) : List ScriptExit :=
  s.exits.filter fun exit => exit.pid = pid

/-- The stack of the script `pid`, and an empty one if the script is not live. -/
def stackOf (s : Scheduler) (pid : Pid) : List Val := ((s.get? pid).map Executor.stack).getD []

/-- A live script has the stack that it has. -/
theorem stackOf_of_get? (found : s.get? pid = some ex) : s.stackOf pid = ex.stack := by
  unfold stackOf
  rw [found]
  rfl

/-- A live script has no exit record. -/
theorem recordsOf_of_live (recorded : ∀ exit ∈ s.exits, s.Departed exit.pid)
    (found : s.get? pid = some ex) : s.recordsOf pid = [] := by
  refine List.filter_eq_nil_iff.mpr ?_
  intro exit mem same
  have dead := (recorded exit mem).2
  rw [of_decide_eq_true same, found] at dead
  exact absurd dead (by simp)

/-- The exit records of a script that is not live stay as they are when another script has a
turn. -/
theorem Engages.recordsOf (engages : Engages other s s') (dead : s.get? pid = none) :
    s'.recordsOf pid = s.recordsOf pid := by
  unfold Scheduler.recordsOf
  rcases engages with calm | ⟨found, forgets⟩ | ⟨-, defers⟩
  · rw [calm.exits]
  · rcases forgets.exits with same | ⟨exit, own, added⟩
    · rw [same]
    · have ne : exit.pid ≠ pid := by
        intro same
        rw [← own, same, dead] at found
        exact absurd found (by simp)
      rw [added, List.filter_append, List.filter_cons_of_neg (by simpa using ne), List.filter_nil,
        List.append_nil]
  · rw [defers.exits]

end Scheduler

/-- What holds of every moment of a run with regard to engine calls: it is sound, engine scripts
are live only where there is an engine, the flags of scripts fit their hold lists, exit records
are about scripts that have departed, and calls and scripts belong together as long as numbers are
new. -/
structure Moment.Orderly (m : Moment) : Prop where
  sound : m.Sound
  equipped : Equipped m.state
  coherent : ∀ pid ex, m.state.get? pid = some ex → ex.Coherent
  recorded : ∀ exit ∈ m.state.exits, m.state.Departed exit.pid
  bridged : m.state.Unwrapped → m.Bridged

/-- A script that has departed does not come back. -/
theorem Move.departed {m m' : Moment} {entries : List Entry} (move : Move m entries m')
    (sound : m.Sound) {pid : Pid} (h : m.state.Departed pid) : m'.state.Departed pid :=
  ⟨Nat.lt_of_lt_of_le h.1 move.counts.nextPid, move.gone sound h.1 h.2⟩

/-- Moves keep exit records about scripts that have departed. -/
theorem Move.recorded {m m' : Moment} {entries : List Entry} (move : Move m entries m')
    (sound : m.Sound) (coherent : ∀ pid ex, m.state.get? pid = some ex → ex.Coherent)
    (h : ∀ exit ∈ m.state.exits, m.state.Departed exit.pid) :
    ∀ exit ∈ m'.state.exits, m'.state.Departed exit.pid := by
  have kept : ∀ exit ∈ m.state.exits, m'.state.Departed exit.pid :=
    fun exit mem => move.departed sound (h exit mem)
  have after : ∀ {pid : Pid} {ex : Executor}, m.state.get? pid = some ex →
      Forgets pid m.state m'.state → ∀ exit ∈ m'.state.exits, m'.state.Departed exit.pid := by
    intro pid ex found forgets exit mem
    have old : pid.number < m'.state.nextPid.number :=
      Nat.lt_of_lt_of_le (sound.numbers.lt_nextPid found) move.counts.nextPid
    rcases forgets.exits with same | ⟨record, own, added⟩
    · exact kept exit (same ▸ mem)
    · rw [added] at mem
      rcases List.mem_append.mp mem with mem | mem
      · exact kept exit mem
      · rw [List.mem_singleton.mp mem, own]
        exact ⟨old, forgets.dead⟩
  cases move.deals sound.numbers coherent with
  | engages _ engages =>
    rcases engages with calm | ⟨found, forgets⟩ | ⟨-, defers⟩
    · exact fun exit mem => kept exit (calm.exits ▸ mem)
    · exact after found forgets
    · exact fun exit mem => kept exit (defers.exits ▸ mem)
  | collect => exact kept
  | complete found forgets => exact after found forgets
  | pass => exact kept
  | settleCall => exact kept
  | takeExits => exact fun exit mem => absurd mem List.not_mem_nil

/-- Moves lead from orderly moments to orderly moments. -/
theorem Move.orderly {m m' : Moment} {entries : List Entry} (move : Move m entries m')
    (h : m.Orderly) : m'.Orderly where
  sound := move.sound h.sound
  equipped := move.equipped h.sound h.equipped
  coherent := move.coherent h.sound h.coherent
  recorded := move.recorded h.sound h.coherent h.recorded
  bridged unwrapped := by
    have before : m.state.Unwrapped := Nat.lt_of_le_of_lt move.counts.issued unwrapped
    exact move.bridged h.sound h.coherent before (h.bridged before)

/-- An edit of a single script leaves a moment orderly. -/
theorem Moment.Orderly.edit {s : Scheduler} {pid : Pid} {ex : Executor}
    (h : Moment.Orderly ⟨s, [], []⟩) (found : s.get? pid = some ex) (edit : Edit) :
    Moment.Orderly ⟨s.store (edit.apply ex), [], []⟩ := by
  have number : (edit.apply ex).pid = pid := (edit.seat_apply ex).2.trans (pid_of_get? found)
  have calm : Calm s (s.store (edit.apply ex)) := .store found number (edit.outstanding_apply ex)
  have gone : ∀ other, other.number < s.nextPid.number → s.get? other = none →
      (s.store (edit.apply ex)).get? other = none := fun _ _ gone => follows_store.gone gone
  refine ⟨h.sound.edit found edit, h.equipped.edit found edit, ?_, ?_, ?_⟩
  · intro other ex' live
    obtain ⟨old, was, rfl | rfl⟩ := get?_edit found live
    · exact h.coherent other ex' was
    · exact (h.coherent other old was).edit edit
  · intro exit mem
    obtain ⟨old, dead⟩ := h.recorded exit mem
    exact ⟨old, gone _ old dead⟩
  · exact fun unwrapped => (h.bridged unwrapped).calm calm gone follows_store.counts

/-- Every reachable state is an orderly moment. -/
theorem Reachable.orderly {config : SchedulerConfig} {engine : Option Engine} {s : Scheduler}
    (reached : Reachable config engine s) : Moment.Orderly ⟨s, [], []⟩ := by
  refine reached.keeps (P := Moment.Orderly) ?_ ?_ ?_
  · exact ⟨Reachable.empty.sound, Reachable.empty.equipped, fun _ _ => Reachable.empty.coherent,
      fun exit mem => absurd mem List.not_mem_nil, fun _ => .empty config engine⟩
  · exact fun m entries m' _ move h => move.orderly h
  · exact fun s pid edit ex found h => h.edit found edit

/-- What holds of a reachable state with an empty record and is preserved by every move between
orderly moments, which adds to the record, and by every edit of a single script holds at the end
of a run. -/
theorem Run.keeps_orderly {config : SchedulerConfig} {engine : Option Engine} {s t : Scheduler}
    {entries : List Entry} {P : List Entry → Moment → Prop} (run : Run s entries t)
    (reached : Reachable config engine s) (start : P [] ⟨s, [], []⟩)
    (step : ∀ before m more m', m.Orderly → Move m more m' → P before m → P (before ++ more) m')
    (edited : ∀ before s pid edit ex, Moment.Orderly ⟨s, [], []⟩ → s.get? pid = some ex →
      P before ⟨s, [], []⟩ → P before ⟨s.store (Edit.apply ex edit), [], []⟩) :
    P entries ⟨t, [], []⟩ := by
  refine (run.keeps (P := fun before m => m.Orderly ∧ P before m) reached
    ⟨reached.orderly, start⟩ ?_ ?_).2
  · exact fun before m more m' _ _ move h => ⟨move.orderly h.1, step before m more m' h.1 move h.2⟩
  · exact fun before s pid edit ex _ found h =>
      ⟨h.1.edit found edit, edited before s pid edit ex h.1 found h.2⟩

/-! ### The arguments of a call -/

/-- Moves do not touch the stack of an engine script before it calls the engine. -/
theorem Move.reserved {m m' : Moment} {entries : List Entry} (move : Move m entries m')
    (sound : m.Sound) {stack : Pid → List Val}
    (fresh : ∀ pid, m.state.nextPid.number ≤ pid.number → stack pid = [])
    (h : ∀ pid ex, m.state.get? pid = some ex → ex.isEngine = true → ex.Reserved (stack pid)) :
    ∀ pid ex, m'.state.get? pid = some ex → ex.isEngine = true → ex.Reserved (stack pid) := by
  intro pid ex' live isEngine
  obtain ⟨ex, was, changes⟩ | ⟨dead, launched⟩ := move.evolves sound.numbers
    sound.placed sound.indexed (fun unused : ¬ True => absurd trivial unused) live
  · exact changes.keeps (fun _ _ change h => change.reserved h)
      (h pid ex was (changes.kind.2.symm.trans isEngine))
  · have new : m.state.nextPid.number ≤ pid.number := by
      by_contra old
      have gone := move.gone sound (Nat.lt_of_not_le old) dead
      rw [gone] at live
      exact absurd live (by simp)
    rw [fresh pid new]
    exact launched.reserved isEngine

/-- The arguments of a call that is made in the course of moves are the stack that its script had at
their start, from the bottom. -/
theorem Moves.args {m m' : Moment} {entries : List Entry} (moves : Moves m entries m')
    (start : m.Orderly)
    (reserved : ∀ pid ex, m.state.get? pid = some ex → ex.isEngine = true → ex.Reserved ex.stack) :
    ∀ call ∈ callsIn entries,
      call.args = (m.state.stackOf call.pid).reverse.map fun value => value.toEngine call.id := by
  -- until it calls, an engine script keeps the stack that it had at the start
  have all := Run.keeps_moves []
    (P := fun before now => now.Orderly ∧ m.state.nextPid.number ≤ now.state.nextPid.number ∧
      (∀ pid ex, now.state.get? pid = some ex → ex.isEngine = true →
        ex.Reserved (m.state.stackOf pid)) ∧
      ∀ call ∈ callsIn before, call.args =
        (m.state.stackOf call.pid).reverse.map fun value => value.toEngine call.id)
    moves start.sound start.equipped ?_ ⟨start, Nat.le_refl _, ?_, ?_⟩
  · exact all.2.2.2.2.2
  · rintro before now more next - - move ⟨orderly, later, reserved, args⟩
    refine ⟨move.orderly orderly, Nat.le_trans later move.counts.nextPid,
      move.reserved orderly.sound ?_ reserved, ?_⟩
    · intro pid new
      cases found : m.state.get? pid with
      | none =>
        unfold stackOf
        rw [found]
        rfl
      | some ex =>
        have old := Nat.lt_of_lt_of_le (start.sound.numbers.lt_nextPid found) later
        exact absurd new (Nat.not_le_of_lt old)
    · intro call mem
      rw [callsIn_append] at mem
      rcases List.mem_append.mp mem with mem | mem
      · exact args call mem
      · rcases move.calls orderly.sound.numbers orderly.equipped orderly.coherent with
          none | ⟨made, eq, invokes⟩
        · exact absurd mem (by simp [none])
        · rw [eq] at mem
          obtain rfl := List.mem_singleton.mp mem
          obtain ⟨ex, function, found, isEngine, idle, made⟩ := invokes.caller
          have stack := (reserved call.pid ex found isEngine).stack idle
          rw [← stack, made]
          rfl
  · intro pid ex found isEngine
    rw [stackOf_of_get? found]
    exact reserved pid ex found isEngine
  · exact fun call mem => absurd mem List.not_mem_nil

/-! ### One call for each script -/

/-- A script that has called the engine does not become one that has not. -/
theorem Move.spent {m m' : Moment} {entries : List Entry} (move : Move m entries m')
    (sound : m.Sound) (coherent : ∀ pid ex, m.state.get? pid = some ex → ex.Coherent) {pid : Pid}
    (h : m.state.Spent pid) : m'.state.Spent pid := by
  have counts := move.counts
  have dead : ∀ pid, pid.number < m.state.nextPid.number → m.state.get? pid = none →
      m'.state.get? pid = none := fun _ => move.gone sound
  cases move.deals sound.numbers coherent with
  | engages _ engages =>
    rcases engages with calm | ⟨-, forgets⟩ | ⟨-, defers⟩
    · exact h.calm calm dead counts
    · exact h.forgets forgets dead counts
    · exact h.defers defers dead counts
  | collect => exact h
  | complete _ forgets => exact h.forgets forgets dead counts
  | pass => exact h
  | settleCall => exact h
  | takeExits => exact h

/-- After a script has called the engine, it is spent. -/
theorem Scheduler.Invokes.spent {call : EngineCall} {s s' : Scheduler} (h : Invokes call s s')
    (numbers : s.Numbered) (counts : Counts s s') : s'.Spent call.pid := by
  obtain ⟨ex, -, found, -⟩ := h.caller
  obtain ⟨engine, -, heeded⟩ := h.heeded
  refine ⟨Nat.lt_of_lt_of_le (numbers.lt_nextPid found) counts.nextPid, ?_⟩
  cases reply : engine.call call with
  | value json =>
    rw [reply] at heeded
    exact fun _ => Retires.dead heeded
  | failure message =>
    rw [reply] at heeded
    exact fun _ => Retires.dead heeded
  | deferred settlement =>
    rw [reply] at heeded
    intro idle
    rw [Defers.outstanding heeded, if_pos rfl] at idle
    exact absurd idle (by simp)

end ScriptScheduler
