import ScriptScheduler.Proofs.Course

/-!
# Moves

The operations of a scheduler are made of moves: a script is launched, has its turn in a pass, is
woken, is answered or is removed. Between the moves of a pass some scripts that were ready have
not had their turn yet; these are away, and so are the engine calls that have been found settled
but whose scripts have not been retired yet. A moment is a state together with both.

Every operation except the edit of a single script by its owner leads through moves from the state
before it to the state after it, so what all moves and all edits preserve holds in every reachable
state (`Reachable.keeps`). Some moves are acts: turns, signals, requests, answers and ends of
scripts. The moves of an operation do nothing but its own acts (`perform_moves_doing`).
-/

namespace ScriptScheduler

open Scheduler

/-- A state of a scheduler within an operation. -/
structure Moment where
  state : Scheduler
  /-- The scripts of the current pass that have not had their turn yet. -/
  away : List Pid := []
  /-- The settled engine calls whose scripts have not been retired yet. -/
  settled : List Completion := []

/-- A script runs a slice: `ran` is the script afterwards. -/
def Executor.Runs (ex : Executor) (limit : Option Nat) (entries : List Entry) (ran : Executor)
    (outcome : SliceOutcome) : Prop :=
  ∃ now patience left,
    Executor.runCycles now limit patience left #[] ex = some ⟨(ran, outcome), entries⟩

/-- What a move may do beyond placing scripts, launching them and removing them. -/
inductive Act where
  /-- A script has its turn. -/
  | turn (pid : Pid)
  /-- A script is sent an event. -/
  | signal (pid : Pid)
  /-- A script makes a request. -/
  | ask (pid : Pid)
  /-- A script gets a child. -/
  | adopt (parent : Pid)
  /-- A request is answered, or aborted and answered with the sentinel. -/
  | answer (value : Val)
  /-- A script is ended from outside. -/
  | retire (pid : Pid) (reason : ExitReason)
  /-- A script is removed and handed back. -/
  | handBack (pid : Pid)
  /-- A script is halted from outside. -/
  | park (pid : Pid)
  /-- A halted script is released. -/
  | release (pid : Pid)
  /-- A sleeper is woken by the clock. -/
  | expire

/-- One move from a moment to the next one and its record. The move is one of the acts that `may`
allows, or no act. -/
inductive MoveBy (may : Act → Prop) : Moment → List Entry → Moment → Prop
  /-- The log is told something. -/
  | tell {m : Moment} (notices : List Notice) : MoveBy may m (Logged.tellAll notices).entries m
  /-- The engine is told about the scripts that are torn down. -/
  | tellEngine {m : Moment} : MoveBy may m m.state.tellEngine.entries m
  /-- A script is launched at the end of the ready queue. -/
  | start {s : Scheduler} {away : List Pid} {settled : List Completion} {program : Program}
      {options : Options} {ex : Executor} (prepared : s.prepare program options = .ok ex) :
      MoveBy may ⟨s, away, settled⟩ (s.enroll ex).entries
        ⟨(s.enroll ex).value.enqueue ex.pid, away, settled⟩
  /-- A script is launched as the child of another one. -/
  | startChild {s : Scheduler} {away : List Pid} {settled : List Completion} {parent : Pid}
      {program : Program} {ran : Logged (Pid × Scheduler)}
      (launched : s.runScript parent program = .ok ran)
      (allowed : may (.adopt parent) := by trivial) :
      MoveBy may ⟨s, away, settled⟩ ran.entries ⟨ran.value.2, away, settled⟩
  /-- A script is launched and its turn comes next. -/
  | startAway {s : Scheduler} {away : List Pid} {settled : List Completion} {program : Program}
      {ex : Executor} (prepared : s.prepare program (completionOptions s.config) = .ok ex) :
      MoveBy may ⟨s, away, settled⟩ (s.enroll ex).entries
        ⟨(s.enroll ex).value, ex.pid :: away, settled⟩
  /-- A pass begins: all ready scripts wait for their turn. -/
  | takeBatch {s : Scheduler} {settled : List Completion} :
      MoveBy may ⟨s, [], settled⟩ [] ⟨{ s with ready := [] }, s.ready, settled⟩
  /-- A script that is no longer live or has been put into a hold list misses its turn. -/
  | skip {s : Scheduler} {away : List Pid} {settled : List Completion} {pid : Pid}
      (idle : ∀ ex, s.get? pid = some ex → ex.thread.holdList ≠ .none) :
      MoveBy may ⟨s, pid :: away, settled⟩ [] ⟨s, away, settled⟩
  /-- A script has its turn: it runs a slice and is placed afterwards. -/
  | turn {s : Scheduler} {away : List Pid} {settled : List Completion} {pid : Pid}
      {ex ran : Executor} {outcome : SliceOutcome} {entries : List Entry}
      (found : s.get? pid = some ex) (free : ex.thread.holdList = .none)
      (runs : ex.Runs s.config.maxRunawayCycles entries ran outcome)
      (allowed : may (.turn pid) := by trivial) :
      MoveBy may ⟨s, pid :: away, settled⟩ (entries ++ ((s.store ran).settle ran outcome).entries)
        ⟨((s.store ran).settle ran outcome).value.2, away, settled⟩
  /-- The engine calls that have been settled are taken out. -/
  | collect {s : Scheduler} {away : List Pid} :
      MoveBy may ⟨s, away, []⟩ (Logged.tellAll (s.calls.filterMap PendingCall.notice?)).entries
        ⟨{ s with calls := s.calls.filter fun call => call.settlement.isNone }, away,
          s.calls.filterMap PendingCall.completion?⟩
  /-- The script of a settled engine call is retired. -/
  | complete {s : Scheduler} {away : List Pid} {done : Completion} {settled : List Completion} :
      MoveBy may ⟨s, away, done :: settled⟩ (s.completeExternal done.pid done.value).entries
        ⟨(s.completeExternal done.pid done.value).value.2, away, settled⟩
  /-- A deferred engine call is settled. -/
  | settleCall {s : Scheduler} {away : List Pid} {settled : List Completion} (id : RequestId)
      (settlement : Settlement) :
      MoveBy may ⟨s, away, settled⟩ [] ⟨s.settleCall id settlement, away, settled⟩
  /-- An event is delivered or refused. -/
  | signal {s : Scheduler} {away : List Pid} {settled : List Completion} (pid : Pid)
      (event : Val) (allowed : may (.signal pid) := by trivial) :
      MoveBy may ⟨s, away, settled⟩ (s.signalEvent pid event).entries
        ⟨(s.signalEvent pid event).value.2, away, settled⟩
  /-- A script is parked for the debugger. -/
  | halt {s s' : Scheduler} {away : List Pid} {settled : List Completion} {pid : Pid}
      (halted : s.halt pid = .ok s') (allowed : may (.park pid) := by trivial) :
      MoveBy may ⟨s, away, settled⟩ [] ⟨s', away, settled⟩
  /-- A script is released by the debugger. -/
  | release {s s' : Scheduler} {away : List Pid} {settled : List Completion} {pid : Pid}
      (released : s.release pid = .ok s') (allowed : may (.release pid) := by trivial) :
      MoveBy may ⟨s, away, settled⟩ [] ⟨s', away, settled⟩
  /-- A script is ended with a result. -/
  | retire {s : Scheduler} {away : List Pid} {settled : List Completion} {pid : Pid}
      {ex : Executor} (found : s.get? pid = some ex) (result : Val) (reason : ExitReason)
      (allowed : may (.retire pid reason) := by trivial) :
      MoveBy may ⟨s, away, settled⟩ (s.retire { ex with result := some result } reason).entries
        ⟨(s.retire { ex with result := some result } reason).value.2, away, settled⟩
  /-- A script is removed and handed back. -/
  | deschedule {s : Scheduler} {away : List Pid} {settled : List Completion} (pid : Pid)
      (allowed : may (.handBack pid) := by trivial) :
      MoveBy may ⟨s, away, settled⟩ (s.deschedule pid).entries
        ⟨(s.deschedule pid).value.2, away, settled⟩
  /-- A request is made. -/
  | request {s : Scheduler} {away : List Pid} {settled : List Completion} (pid : Pid)
      (entity : EntityId) (kind : RequestKind) (wake : Nat) (callback : Callback)
      (allowed : may (.ask pid) := by trivial) :
      MoveBy may ⟨s, away, settled⟩ (s.register pid entity kind wake callback).entries
        ⟨(s.register pid entity kind wake callback).value.2, away, settled⟩
  /-- A pending request is answered, or aborted if there is no value. -/
  | resolve {s : Scheduler} {away : List Pid} {settled : List Completion} {id : RequestId}
      {request : Request} (pending : s.requests.unhandled? id = some request)
      (value : Option Val) (allowed : may (.answer (value.getD .sentinel)) := by trivial) :
      MoveBy may ⟨s, away, settled⟩ (s.resolve request value).entries
        ⟨(s.resolve request value).value, away, settled⟩
  /-- The first sleeper is woken, because its clock has come. -/
  | wake {s : Scheduler} {away : List Pid} {settled : List Completion} {now : Nat}
      {key : TimerKey} {pid : Pid} {rest : List (TimerKey × Pid)}
      (first : s.timeouts = (key, pid) :: rest) (due : key.wake ≤ now)
      (allowed : may .expire := by trivial) :
      MoveBy may ⟨s, away, settled⟩ ({ s with timeouts := rest }.wake pid).entries
        ⟨({ s with timeouts := rest }.wake pid).value, away, settled⟩
  /-- The exit records are taken out. -/
  | takeExits {s : Scheduler} {away : List Pid} {settled : List Completion} :
      MoveBy may ⟨s, away, settled⟩ [] ⟨s.takeExits.2, away, settled⟩

/-- A move of any kind. -/
abbrev Move : Moment → List Entry → Moment → Prop := MoveBy fun _ => True

/-- Moves one after the other and their record. -/
inductive MovesBy (may : Act → Prop) : Moment → List Entry → Moment → Prop
  | refl (m : Moment) : MovesBy may m [] m
  | step {m₁ m₂ m₃ : Moment} {entries more : List Entry} (moves : MovesBy may m₁ entries m₂)
      (move : MoveBy may m₂ more m₃) : MovesBy may m₁ (entries ++ more) m₃

/-- Moves of any kind, one after the other. -/
abbrev Moves : Moment → List Entry → Moment → Prop := MovesBy fun _ => True

/-- More may be allowed. -/
theorem MoveBy.mono {may more : Act → Prop} {m m' : Moment} {entries : List Entry}
    (move : MoveBy may m entries m') (weaker : ∀ act, may act → more act) :
    MoveBy more m entries m' := by
  cases move with
  | tell notices => exact .tell notices
  | tellEngine => exact .tellEngine
  | start prepared => exact .start prepared
  | startChild launched allowed => exact .startChild launched (weaker _ allowed)
  | startAway prepared => exact .startAway prepared
  | takeBatch => exact .takeBatch
  | skip idle => exact .skip idle
  | turn found free runs allowed => exact .turn found free runs (weaker _ allowed)
  | collect => exact .collect
  | complete => exact .complete
  | settleCall id settlement => exact .settleCall id settlement
  | signal pid event allowed => exact .signal pid event (weaker _ allowed)
  | halt halted allowed => exact .halt halted (weaker _ allowed)
  | release released allowed => exact .release released (weaker _ allowed)
  | retire found result reason allowed => exact .retire found result reason (weaker _ allowed)
  | deschedule pid allowed => exact .deschedule pid (weaker _ allowed)
  | request pid entity kind wake callback allowed =>
    exact .request pid entity kind wake callback (weaker _ allowed)
  | resolve pending value allowed => exact .resolve pending value (weaker _ allowed)
  | wake first due allowed => exact .wake first due (weaker _ allowed)
  | takeExits => exact .takeExits

/-- A move of a certain kind is a move. -/
theorem MoveBy.any {may : Act → Prop} {m m' : Moment} {entries : List Entry}
    (move : MoveBy may m entries m') : Move m entries m' := move.mono fun _ _ => trivial

namespace MovesBy

variable {may : Act → Prop} {m₁ m₂ m₃ : Moment} {entries more : List Entry}

/-- A single move. -/
theorem one (move : MoveBy may m₁ entries m₂) : MovesBy may m₁ entries m₂ := by
  have := (refl m₁).step move
  rwa [List.nil_append] at this

/-- Moves after moves. -/
theorem trans (before : MovesBy may m₁ entries m₂) (after : MovesBy may m₂ more m₃) :
    MovesBy may m₁ (entries ++ more) m₃ := by
  induction after with
  | refl => rwa [List.append_nil]
  | step _ move ih =>
    rw [← List.append_assoc]
    exact ih.step move

/-- What every move preserves is preserved by moves one after the other. -/
theorem keeps {P : Moment → Prop} (moves : MovesBy may m₁ entries m₂)
    (step : ∀ m entries m', MoveBy may m entries m' → P m → P m') (start : P m₁) : P m₂ := by
  induction moves with
  | refl => exact start
  | step _ move ih => exact step _ _ _ move ih

/-- More may be allowed in all moves. -/
theorem mono {more : Act → Prop} (moves : MovesBy may m₁ entries m₂)
    (weaker : ∀ act, may act → more act) : MovesBy more m₁ entries m₂ := by
  induction moves with
  | refl => exact .refl _
  | step _ move ih => exact ih.step (move.mono weaker)

/-- Moves of a certain kind are moves. -/
theorem any (moves : MovesBy may m₁ entries m₂) : Moves m₁ entries m₂ :=
  moves.mono fun _ _ => trivial

end MovesBy

/-- What every move of any kind preserves is preserved by moves one after the other. -/
theorem Moves.keeps {P : Moment → Prop} {m₁ m₂ : Moment} {entries : List Entry}
    (moves : Moves m₁ entries m₂) (step : ∀ m entries m', Move m entries m' → P m → P m')
    (start : P m₁) : P m₂ :=
  MovesBy.keeps moves step start

/-! ### Numbers along moves -/

/-- Moves keep the order in which scripts are numbered. -/
theorem Move.numbered {m m' : Moment} {entries : List Entry} (move : Move m entries m')
    (h : m.state.Numbered) : m'.state.Numbered := by
  cases move with
  | tell => exact h
  | tellEngine => exact h
  | start prepared => exact { h.enroll (pid_of_prepare prepared) with }
  | startChild launched =>
    obtain ⟨waiting, child, -, -, prepared, eq⟩ := runScript_eq launched
    dsimp only
    rw [eq]
    exact { follows_awaitChild.numbered (h.enroll (pid_of_prepare prepared)) with }
  | startAway prepared => exact h.enroll (pid_of_prepare prepared)
  | takeBatch => exact { h with }
  | skip => exact h
  | turn => exact (follows_store.trans follows_settle).numbered h
  | collect => exact { h with }
  | complete => exact follows_completeExternal.numbered h
  | settleCall => exact { h with }
  | signal => exact follows_signalEvent.numbered h
  | halt halted => exact (follows_halt halted).numbered h
  | release released => exact (follows_release released).numbered h
  | retire => exact follows_retire.numbered h
  | deschedule => exact follows_deschedule.numbered h
  | request => exact follows_register.numbered h
  | resolve => exact follows_resolve.numbered h
  | wake => exact follows_wake.numbered { h with }
  | takeExits => exact { h with }

/-- Numbers of requests and scripts are only ever handed out. -/
theorem Move.counts {m m' : Moment} {entries : List Entry} (move : Move m entries m') :
    Counts m.state m'.state := by
  cases move with
  | tell => exact .refl _
  | tellEngine => exact .refl _
  | @start s _ _ _ _ ex =>
    have enrolled : Counts s (s.enroll ex).value := counts_enroll
    exact { enrolled with }
  | @startChild s _ _ parent _ _ launched =>
    obtain ⟨waiting, child, -, -, -, eq⟩ := runScript_eq launched
    dsimp only
    rw [eq]
    have enrolled : Counts s (s.enroll child).value := counts_enroll
    have waits : Counts (s.enroll child).value
        ((s.enroll child).value.awaitChild parent child.pid) := follows_awaitChild.counts
    exact ⟨Nat.le_trans enrolled.issued waits.issued, Nat.le_trans enrolled.nextPid waits.nextPid⟩
  | startAway => exact counts_enroll
  | takeBatch => exact { Counts.refl _ with }
  | skip => exact .refl _
  | turn => exact (follows_store.trans follows_settle).counts
  | collect => exact { Counts.refl _ with }
  | complete => exact follows_completeExternal.counts
  | settleCall => exact { Counts.refl _ with }
  | signal => exact follows_signalEvent.counts
  | halt halted => exact (follows_halt halted).counts
  | release released => exact (follows_release released).counts
  | retire => exact follows_retire.counts
  | deschedule => exact follows_deschedule.counts
  | request => exact follows_register.counts
  | resolve => exact follows_resolve.counts
  | @wake s _ _ _ _ _ rest =>
    exact { (follows_wake (s := { s with timeouts := rest })).counts with }
  | takeExits => exact { Counts.refl _ with }

/-! ### Operations as moves -/

section Operations

variable {s : Scheduler} {away : List Pid} {settled : List Completion} {may : Act → Prop}

/-- The answer to a request is a move, or nothing happens. -/
theorem respond_moves (s : Scheduler) (away : List Pid) (settled : List Completion)
    (id : RequestId) (response : Val) (answers : ∀ value, may (.answer value)) :
    MovesBy may ⟨s, away, settled⟩ (s.respond id response).entries
      ⟨(s.respond id response).value.2, away, settled⟩ := by
  unfold respond
  split
  · exact .refl _
  · next request pending =>
    simp only [Logged.bind_value, Logged.bind_entries, Logged.pure_value, Logged.pure_entries,
      List.append_nil]
    exact .one (.resolve pending _ (answers _))

/-- The abort of a request is a move, or nothing happens. -/
theorem abortRequest_moves (s : Scheduler) (away : List Pid) (settled : List Completion)
    (id : RequestId) (aborts : may (.answer .sentinel)) :
    MovesBy may ⟨s, away, settled⟩ (s.abortRequest id).entries
      ⟨(s.abortRequest id).value.2, away, settled⟩ := by
  unfold abortRequest
  split
  · exact .refl _
  · next request pending =>
    simp only [Logged.bind_value, Logged.bind_entries, Logged.pure_value, Logged.pure_entries,
      List.append_nil]
    exact .one (.resolve pending none aborts)

/-- Each request that is aborted is a move. -/
theorem abortEach_moves (away : List Pid) (settled : List Completion)
    (aborts : may (.answer .sentinel)) (ids : List RequestId) :
    ∀ s : Scheduler, MovesBy may ⟨s, away, settled⟩ (abortEach ids s).entries
      ⟨(abortEach ids s).value.2, away, settled⟩ := by
  induction ids with
  | nil => exact fun s => .refl _
  | cons id rest ih =>
    intro s
    have first := abortRequest_moves s away settled id aborts
    have others := ih (s.abortRequest id).value.2
    unfold abortEach
    simp only [Logged.bind_value, Logged.bind_entries, Logged.pure_value, Logged.pure_entries,
      List.append_nil]
    exact first.trans others

/-- Each settled call whose script is retired is a move. -/
theorem completeEach_moves (away : List Pid) (settled : List Completion) :
    ∀ s : Scheduler, MovesBy may ⟨s, away, settled⟩ (completeEach settled s).entries
      ⟨(completeEach settled s).value, away, []⟩ := by
  induction settled with
  | nil => exact fun s => .refl _
  | cons done rest ih =>
    intro s
    have first : MovesBy may ⟨s, away, done :: rest⟩
        (s.completeExternal done.pid done.value).entries
        ⟨(s.completeExternal done.pid done.value).value.2, away, rest⟩ := .one .complete
    have others := ih (s.completeExternal done.pid done.value).value.2
    exact first.trans others

/-- The look for settled calls is made of moves. -/
theorem pumpExternal_moves (s : Scheduler) :
    MovesBy may ⟨s, [], []⟩ s.pumpExternal.entries ⟨s.pumpExternal.value.2, [], []⟩ := by
  have taken : MovesBy may ⟨s, [], []⟩ _ _ := .one .collect
  have others : MovesBy may _ _ _ :=
    completeEach_moves [] (s.calls.filterMap PendingCall.completion?)
      { s with calls := s.calls.filter fun call => call.settlement.isNone }
  unfold pumpExternal
  simp only [Logged.bind_value, Logged.bind_entries, Logged.pure_value, Logged.pure_entries,
    List.append_nil]
  exact taken.trans others

/-- What holds when a batch is empty, and is preserved when the first script misses its turn and
when it has its turn, holds of a pass over a batch. -/
theorem runBatch_induct {patience now : Nat} {P : List Pid → Scheduler → Logged Scheduler → Prop}
    (finished : ∀ s, P [] s (pure s))
    (skipped : ∀ pid rest s ran, (∀ ex, s.get? pid = some ex → ex.thread.holdList ≠ .none) →
      P rest s ran → P (pid :: rest) s ran)
    (turned : ∀ (pid : Pid) (rest : List Pid) (s : Scheduler) (ex ran : Executor)
      (outcome : SliceOutcome) (entries : List Entry) (after : Logged Scheduler),
      s.get? pid = some ex → ex.thread.holdList = .none →
      ex.Runs s.config.maxRunawayCycles entries ran outcome →
      P rest ((s.store ran).settle ran outcome).value.2 after →
      P (pid :: rest) s
        ⟨after.value, (entries ++ ((s.store ran).settle ran outcome).entries) ++ after.entries⟩)
    (batch : List Pid) : ∀ {s : Scheduler} {ran : Logged Scheduler},
      runBatch patience now batch s = some ran → P batch s ran := by
  -- the state differs from turn to turn, so the batch is the only thing to do induction on
  induction batch with
  | nil =>
    intro s ran runs
    obtain rfl := Option.some.inj runs
    exact finished s
  | cons pid rest ih =>
    intro s ran runs
    unfold runBatch at runs
    cases found : s.get? pid with
    | none =>
      rw [found] at runs
      exact skipped pid rest s ran (fun ex live => by rw [found] at live; exact absurd live (by simp))
        (ih runs)
    | some ex =>
      rw [found] at runs
      dsimp only at runs
      split at runs
      · next held =>
        refine skipped pid rest s ran ?_ (ih runs)
        intro other live
        rw [found] at live
        rwa [← Option.some.inj live]
      · next free =>
        split at runs
        · exact absurd runs (by simp)
        · next first turn =>
          obtain ⟨after, others, rfl⟩ := Option.map_eq_some_iff.mp runs
          unfold runOne at turn
          obtain ⟨slice, sliced, rfl⟩ := Option.map_eq_some_iff.mp turn
          have last := turned pid rest s ex slice.value.1 slice.value.2 slice.entries after found
            (Classical.not_not.mp free) ⟨_, _, _, sliced⟩ (ih others)
          simpa only [Logged.bind_entries, Logged.pure_entries, List.append_nil] using last

/-- A pass over a batch is made of turns and of turns that are missed. -/
theorem runBatch_moves {patience now : Nat} (turns : ∀ pid, may (.turn pid)) (batch : List Pid)
    {s : Scheduler} {ran : Logged Scheduler} (runs : runBatch patience now batch s = some ran) :
    MovesBy may ⟨s, batch, settled⟩ ran.entries ⟨ran.value, [], settled⟩ := by
  refine runBatch_induct
    (P := fun batch s ran => MovesBy may ⟨s, batch, settled⟩ ran.entries ⟨ran.value, [], settled⟩)
    (fun s => .refl _) ?_ ?_ batch runs
  · intro pid rest s ran idle others
    have skipped : MovesBy may ⟨s, pid :: rest, settled⟩ [] ⟨s, rest, settled⟩ := .one (.skip idle)
    exact skipped.trans others
  · intro pid rest s ex ran outcome entries after found free runs others
    have turned : MovesBy may ⟨s, pid :: rest, settled⟩ _ ⟨_, rest, settled⟩ :=
      .one (.turn found free runs (turns pid))
    exact turned.trans others

/-- A pass is made of moves. -/
theorem runReady_moves {patience now : Nat} {ran : Logged Scheduler}
    (turns : ∀ pid, may (.turn pid)) (runs : s.runReady patience now = some ran) :
    MovesBy may ⟨s, [], []⟩ ran.entries ⟨ran.value, [], []⟩ := by
  unfold runReady at runs
  obtain ⟨after, batch, rfl⟩ := Option.map_eq_some_iff.mp runs
  have pumped : MovesBy may _ _ _ := pumpExternal_moves s
  have begun := pumped.trans (.one .takeBatch)
  rw [List.append_nil] at begun
  exact begun.trans (runBatch_moves turns _ batch)

/-- Each sleeper that is woken is a move. -/
theorem wakeDue_moves (away : List Pid) (settled : List Completion) (expires : may .expire)
    (now count : Nat) :
    ∀ s : Scheduler, MovesBy may ⟨s, away, settled⟩ (wakeDue now count s).entries
      ⟨(wakeDue now count s).value, away, settled⟩ := by
  induction count with
  | zero => exact fun s => .refl _
  | succ count ih =>
    intro s
    unfold wakeDue
    split
    · exact .refl _
    · next key pid rest first =>
      split
      · exact .refl _
      · next due =>
        have woken : MovesBy may ⟨s, away, settled⟩ ({ s with timeouts := rest }.wake pid).entries
            ⟨({ s with timeouts := rest }.wake pid).value, away, settled⟩ :=
          .one (.wake first (Nat.le_of_not_lt due) expires)
        exact woken.trans (ih _)

/-- Waking the sleepers whose clock has come is made of moves. -/
theorem checkBlocked_moves (s : Scheduler) (expires : may .expire) (now left : Nat) :
    MovesBy may ⟨s, [], []⟩ (s.checkBlocked now left).entries
      ⟨(s.checkBlocked now left).value.2, [], []⟩ := by
  have woken : MovesBy may _ _ _ := wakeDue_moves [] [] expires now s.timeouts.length s
  unfold checkBlocked
  simp only [Logged.bind_value, Logged.bind_entries]
  split
  · simpa using woken
  · simpa using woken

/-- Each script that is shut down is a move. -/
theorem shutdownEach_moves (away : List Pid) (settled : List Completion)
    (ends : ∀ pid, may (.retire pid .shutdown)) (pids : List Pid) :
    ∀ s : Scheduler, MovesBy may ⟨s, away, settled⟩ (shutdownEach pids s).entries
      ⟨(shutdownEach pids s).value, away, settled⟩ := by
  induction pids with
  | nil => exact fun s => .refl _
  | cons pid rest ih =>
    intro s
    unfold shutdownEach
    split
    · exact ih s
    · next ex found =>
      have retired : MovesBy may ⟨s, away, settled⟩ _ _ :=
        .one (.retire found (.fail ErrorCode.aborted "scheduler shut down") .shutdown (ends pid))
      exact retired.trans (ih _)

/-- Shutting down is made of moves. -/
theorem shutdown_moves (s : Scheduler) (ends : ∀ pid, may (.retire pid .shutdown)) :
    MovesBy may ⟨s, [], []⟩ s.shutdown.entries ⟨s.shutdown.value, [], []⟩ := by
  unfold shutdown
  split
  · exact .refl _
  · have told : MovesBy may ⟨s, [], []⟩ _ _ := .one .tellEngine
    have noted := told.trans (.one (.tell [.shuttingDown s.size]))
    have down := noted.trans (shutdownEach_moves [] [] ends (s.executors.map Executor.pid) s)
    rw [List.append_assoc] at down
    exact down

/-- The launch of a script is a move. -/
theorem startScriptWith_moves {program : Program} {options : Options}
    {ran : Logged (Pid × Scheduler)} (started : s.startScriptWith program options = .ok ran) :
    MovesBy may ⟨s, away, settled⟩ ran.entries ⟨ran.value.2, away, settled⟩ := by
  obtain ⟨ex, prepared, rfl⟩ := startScriptWith_launched started
  exact .one (.start prepared)

/-- A program that is run to its end is launched and has one turn. -/
theorem runToCompletion_moves {patience now : Nat} {program : Program}
    {ran : Logged (Val × Scheduler)} (numbers : s.Numbered) (turns : ∀ pid, may (.turn pid))
    (runs : s.runToCompletion patience now program = .ok (some ran)) :
    MovesBy may ⟨s, away, settled⟩ ran.entries ⟨ran.value.2, away, settled⟩ := by
  unfold runToCompletion at runs
  split at runs
  · exact absurd runs (by simp)
  · next ex prepared =>
    obtain ⟨slice, sliced, rfl⟩ := Option.map_eq_some_iff.mp (Except.ok.inj runs)
    have new : s.get? ex.pid = none := pid_of_prepare prepared ▸ numbers.get?_nextPid
    have launched : MovesBy may ⟨s, away, settled⟩ _ _ := .one (.startAway prepared)
    have turned := launched.trans (.one (.turn (get?_enroll_self new)
      (unheld_of_prepare prepared).1 ⟨_, _, _, sliced⟩ (turns _)))
    simp only [Logged.bind_value, Logged.bind_entries, Logged.pure_value, Logged.pure_entries,
      List.append_nil]
    exact turned

/-- A script that is killed is retired. -/
theorem kill_moves {pid : Pid} {ran : Logged (ScriptExit × Scheduler)}
    (ends : may (.retire pid .killed)) (killed : s.kill pid = .ok ran) :
    MovesBy may ⟨s, away, settled⟩ ran.entries ⟨ran.value.2, away, settled⟩ := by
  obtain ⟨ex, found, rfl⟩ := kill_ok killed
  exact .one (.retire found _ _ ends)

/-- The answer of an entity is the answer to one of its requests, or nothing. -/
theorem respondToEntity_moves (entity : EntityId) (kind : RequestKind) (hint : Option RequestId)
    (response : Val) (answers : ∀ value, may (.answer value)) :
    MovesBy may ⟨s, away, settled⟩ (s.respondToEntity entity kind hint response).entries
      ⟨(s.respondToEntity entity kind hint response).value.2, away, settled⟩ := by
  unfold respondToEntity
  split
  · exact .refl _
  · next id _ =>
    simpa using respond_moves s away settled id response answers

/-- Each request of a script that is aborted is a move. -/
theorem abortAll_moves (pid : Pid) (aborts : may (.answer .sentinel)) :
    MovesBy may ⟨s, away, settled⟩ (s.abortAll pid).entries
      ⟨(s.abortAll pid).value.2, away, settled⟩ := by
  unfold abortAll
  split
  · exact .refl _
  · exact abortEach_moves away settled aborts _ s

/-- Each request to an entity that is aborted is a move. -/
theorem entityDisconnected_moves (entity : EntityId) (aborts : may (.answer .sentinel)) :
    MovesBy may ⟨s, away, settled⟩ (s.entityDisconnected entity).entries
      ⟨(s.entityDisconnected entity).value.2, away, settled⟩ := by
  unfold entityDisconnected
  split
  · exact .refl _
  · exact abortEach_moves away settled aborts _ s

/-- An answer does not change what an operation does. -/
theorem answering_moves {α : Type} {answer : α → Answer} {ran : Logged (α × Scheduler)}
    (moves : MovesBy may ⟨s, away, settled⟩ ran.entries ⟨ran.value.2, away, settled⟩) :
    MovesBy may ⟨s, away, settled⟩ (answering answer ran).entries
      ⟨(answering answer ran).value.2, away, settled⟩ := by
  unfold answering
  simpa using moves

/-- An operation without an answer does what its function does. -/
theorem quietly_moves {ran : Logged Scheduler}
    (moves : MovesBy may ⟨s, away, settled⟩ ran.entries ⟨ran.value, away, settled⟩) :
    MovesBy may ⟨s, away, settled⟩ (quietly ran).entries
      ⟨(quietly ran).value.2, away, settled⟩ := by
  unfold quietly
  simpa using moves

/-- A script is looked up before it is edited. -/
theorem undone_edit (pid : Pid) (edit : Edit) : Undone s (s.edit pid edit) := by
  unfold Scheduler.edit
  split
  · exact .refused _
  · exact .ok _

/-- Only a live script is edited. -/
theorem edit_ok {pid : Pid} {edit : Edit} (edited : s.edit pid edit = .ok s') :
    ∃ ex, s.get? pid = some ex ∧ s' = s.store (edit.apply ex) := by
  unfold Scheduler.edit at edited
  split at edited
  · exact absurd edited (by simp)
  · next ex found => exact ⟨ex, found, (Except.ok.inj edited).symm⟩

/-- An operation that may be refused does nothing or what it attempts. -/
theorem attempt_moves {α : Type} {answer : α → Answer}
    {tried : Except (Refusal Scheduler) (Logged (α × Scheduler))} (undone : Undone s tried)
    (moves : ∀ ran, tried = .ok ran →
      MovesBy may ⟨s, away, settled⟩ ran.entries ⟨ran.value.2, away, settled⟩) :
    MovesBy may ⟨s, away, settled⟩ (attempt answer tried).entries
      ⟨(attempt answer tried).value.2, away, settled⟩ := by
  cases tried with
  | error refusal =>
    obtain rfl := undone refusal rfl
    exact .refl _
  | ok ran => exact answering_moves (moves ran rfl)

/-- An operation that may be refused and answers nothing does nothing or what it attempts. -/
theorem attemptQuietly_moves {tried : Except (Refusal Scheduler) Scheduler}
    (undone : Undone s tried)
    (moves : ∀ s', tried = .ok s' → MovesBy may ⟨s, away, settled⟩ [] ⟨s', away, settled⟩) :
    MovesBy may ⟨s, away, settled⟩ (attemptQuietly tried).entries
      ⟨(attemptQuietly tried).value.2, away, settled⟩ := by
  cases tried with
  | error refusal =>
    obtain rfl := undone refusal rfl
    exact .refl _
  | ok s' => exact moves s' rfl

/-- A halt that is not refused is done. -/
theorem perform_halt {pid : Pid} (patience : Nat) (halted : s.halt pid = .ok s') :
    s.perform patience (.halt pid) = some ⟨(.done, s'), []⟩ := by
  change some (attemptQuietly (s.halt pid)) = _
  rw [halted]
  rfl

/-- A release that is not refused is done. -/
theorem perform_release {pid : Pid} (patience : Nat) (released : s.release pid = .ok s') :
    s.perform patience (.release pid) = some ⟨(.done, s'), []⟩ := by
  change some (attemptQuietly (s.release pid)) = _
  rw [released]
  rfl

/-- The acts of an operation. -/
def Operation.Does : Operation → Act → Prop
  | .runScript parent _, act => act = .adopt parent
  | .runToCompletion _ _, act | .runReady _, act => ∃ pid, act = .turn pid
  | .signal pid _, act => act = .signal pid
  | .checkBlocked _ _, act => act = .expire
  | .halt pid, act => act = .park pid
  | .release pid, act => act = .release pid
  | .kill pid, act => act = .retire pid .killed
  | .shutdown, act => ∃ pid, act = .retire pid .shutdown
  | .deschedule pid, act => act = .handBack pid
  | .request pid _ _ _, act | .requestWithTimeout _ pid _ _ _ _, act => act = .ask pid
  | .respond _ _, act | .respondToEntity _ _ _ _, act => ∃ value, act = .answer value
  | .abort _, act | .abortAll _, act | .entityDisconnected _, act => act = .answer .sentinel
  | _, _ => False

/-- Every operation except the edit of a single script is made of moves that do nothing but the acts
of the operation. -/
theorem perform_moves_doing {patience : Nat} {op : Operation} {ran : Logged (Answer × Scheduler)}
    (numbers : s.Numbered) (unedited : ∀ pid edit, op ≠ .edit pid edit)
    (performed : s.perform patience op = some ran) :
    MovesBy op.Does ⟨s, [], []⟩ ran.entries ⟨ran.value.2, [], []⟩ := by
  cases op with
  | start program =>
    obtain rfl := Option.some.inj performed
    exact attempt_moves (undone_startScriptWith _ _) fun _ => startScriptWith_moves
  | startWith program options =>
    obtain rfl := Option.some.inj performed
    exact attempt_moves (undone_startScriptWith _ _) fun _ => startScriptWith_moves
  | runScript parent program =>
    obtain rfl := Option.some.inj performed
    exact attempt_moves (undone_runScript _ _) fun _ launched => .one (.startChild launched rfl)
  | runToCompletion now program =>
    rcases perform_runToCompletion performed with ⟨cause, -, rfl⟩ | ⟨done, eq, rfl⟩
    · exact .refl _
    · exact answering_moves (runToCompletion_moves numbers (fun pid => ⟨pid, rfl⟩) eq)
  | runReady now =>
    obtain ⟨done, runs, rfl⟩ := Option.map_eq_some_iff.mp performed
    exact quietly_moves (runReady_moves (fun pid => ⟨pid, rfl⟩) runs)
  | checkBlocked now left =>
    obtain rfl := Option.some.inj performed
    have expires : (Operation.checkBlocked now left).Does .expire := rfl
    exact answering_moves (checkBlocked_moves s expires now left)
  | pumpExternal =>
    obtain rfl := Option.some.inj performed
    exact answering_moves (pumpExternal_moves s)
  | settleCall id settlement =>
    obtain rfl := Option.some.inj performed
    exact .one (.settleCall id settlement)
  | signal pid event =>
    obtain rfl := Option.some.inj performed
    exact answering_moves (.one (.signal pid event rfl))
  | halt pid =>
    obtain rfl := Option.some.inj performed
    exact attemptQuietly_moves (undone_halt pid) fun _ halted => .one (.halt halted rfl)
  | release pid =>
    obtain rfl := Option.some.inj performed
    exact attemptQuietly_moves (undone_release pid) fun _ released =>
      .one (.release released rfl)
  | kill pid =>
    obtain rfl := Option.some.inj performed
    exact attempt_moves (undone_kill pid) fun _ => kill_moves rfl
  | shutdown =>
    obtain rfl := Option.some.inj performed
    exact quietly_moves (shutdown_moves s fun pid => ⟨pid, rfl⟩)
  | deschedule pid =>
    obtain rfl := Option.some.inj performed
    exact answering_moves (.one (.deschedule pid rfl))
  | request pid entity kind callback =>
    obtain rfl := Option.some.inj performed
    exact answering_moves (.one (.request pid entity kind _ callback rfl))
  | requestWithTimeout now pid entity kind timeout callback =>
    obtain rfl := Option.some.inj performed
    exact answering_moves (.one (.request pid entity kind _ callback rfl))
  | respond id response =>
    obtain rfl := Option.some.inj performed
    exact answering_moves (respond_moves s [] [] id response fun value => ⟨value, rfl⟩)
  | respondToEntity entity kind hint response =>
    obtain rfl := Option.some.inj performed
    exact answering_moves
      (respondToEntity_moves entity kind hint response fun value => ⟨value, rfl⟩)
  | abort id =>
    obtain rfl := Option.some.inj performed
    exact answering_moves (abortRequest_moves s [] [] id rfl)
  | abortAll pid =>
    obtain rfl := Option.some.inj performed
    exact answering_moves (abortAll_moves pid rfl)
  | entityDisconnected entity =>
    obtain rfl := Option.some.inj performed
    exact answering_moves (entityDisconnected_moves entity rfl)
  | edit pid edit => exact absurd rfl (unedited pid edit)
  | takeExits =>
    obtain rfl := Option.some.inj performed
    exact .one .takeExits

end Operations

/-! ### Reachable states -/

/-- The states that operations lead to from a scheduler without scripts. Each operation may be
given another patience. -/
inductive Reachable (config : SchedulerConfig) (engine : Option Engine) : Scheduler → Prop
  | empty : Reachable config engine (.empty config engine)
  | perform {s : Scheduler} {patience : Nat} {op : Operation} {ran : Logged (Answer × Scheduler)}
      (before : Reachable config engine s) (performed : s.perform patience op = some ran) :
      Reachable config engine ran.value.2

namespace Reachable

variable {config : SchedulerConfig} {engine : Option Engine} {s : Scheduler}

/-- Operations one after the other lead to a reachable state. -/
theorem performAll {patience : Nat} {ops : List Operation} {s' : Scheduler}
    (reached : Reachable config engine s) (performed : performAll patience ops s = some s') :
    Reachable config engine s' := by
  induction ops generalizing s with
  | nil => exact Option.some.inj performed ▸ reached
  | cons op rest ih =>
    obtain ⟨ran, first, others⟩ := Option.bind_eq_some_iff.mp performed
    exact ih (reached.perform first) others

/-- An operation is an edit of a single script or made of moves that do nothing but its acts. -/
theorem edit_or_moves_doing {patience : Nat} {op : Operation} {ran : Logged (Answer × Scheduler)}
    (numbers : s.Numbered) (performed : s.perform patience op = some ran) :
    (∃ pid edit ex, op = .edit pid edit ∧ s.get? pid = some ex ∧
      ran.value.2 = s.store (edit.apply ex)) ∨
    MovesBy op.Does ⟨s, [], []⟩ ran.entries ⟨ran.value.2, [], []⟩ := by
  by_cases edits : ∃ pid edit, op = .edit pid edit
  · obtain ⟨pid, edit, rfl⟩ := edits
    obtain rfl := Option.some.inj performed
    unfold Scheduler.edit
    cases found : s.get? pid with
    | none => exact .inr (.refl _)
    | some ex => exact .inl ⟨pid, edit, ex, rfl, found, rfl⟩
  · exact .inr (perform_moves_doing numbers (fun pid edit eq => edits ⟨pid, edit, eq⟩) performed)

/-- An operation is an edit of a single script or made of moves. -/
theorem edit_or_moves {patience : Nat} {op : Operation} {ran : Logged (Answer × Scheduler)}
    (numbers : s.Numbered) (performed : s.perform patience op = some ran) :
    (∃ pid edit ex, op = .edit pid edit ∧ s.get? pid = some ex ∧
      ran.value.2 = s.store (edit.apply ex)) ∨
    Moves ⟨s, [], []⟩ ran.entries ⟨ran.value.2, [], []⟩ :=
  (edit_or_moves_doing numbers performed).imp_right MovesBy.any

/-- In every reachable state the scripts are numbered in order. -/
theorem numbered (reached : Reachable config engine s) : s.Numbered := by
  induction reached with
  | empty => exact ⟨List.Pairwise.nil, fun _ live => absurd live (by simp [Scheduler.empty])⟩
  | perform _ performed ih =>
    rcases edit_or_moves ih performed with ⟨pid, edit, ex, -, -, eq⟩ | moves
    · rw [eq]
      exact ih.store
    · exact moves.keeps (P := fun m => m.state.Numbered) (fun _ _ _ => Move.numbered) ih

/-- What holds of a scheduler without scripts and is preserved by every move and by every edit of
a single script holds in every reachable state. -/
theorem keeps {P : Moment → Prop} (reached : Reachable config engine s)
    (start : P ⟨.empty config engine, [], []⟩)
    (step : ∀ m entries m', m.state.Numbered → Move m entries m' → P m → P m')
    (edited : ∀ s pid edit ex, s.get? pid = some ex → P ⟨s, [], []⟩ →
      P ⟨s.store (Edit.apply ex edit), [], []⟩) : P ⟨s, [], []⟩ := by
  induction reached with
  | empty => exact start
  | perform before performed ih =>
    rcases edit_or_moves before.numbered performed with ⟨pid, edit, ex, -, found, eq⟩ | moves
    · rw [eq]
      exact edited _ pid edit ex found ih
    · refine (moves.keeps (P := fun m => m.state.Numbered ∧ P m) ?_ ⟨before.numbered, ih⟩).2
      intro m entries m' move held
      exact ⟨move.numbered held.1, step m entries m' held.1 move held.2⟩

end Reachable

end ScriptScheduler
