import ScriptScheduler.Proofs.Idling

/-!
# Runaway scripts

How many instructions a script runs between its rests, whatever happens to it and to others. The
window in which runaway cycles are counted begins anew when the script blocks in a slice. It does
not when the script is blocked between its slices, by a request or by the launch of a child, so a
script is terminated after the limit since it last blocked in a slice (`History.boundsRuns`), but
possibly at once after it was blocked in another way (`not_undisturbed_impatient`).
-/

namespace ScriptScheduler

open Scheduler

/-! ### Scenes -/

/-- What is seen of a history: states, and the turns between them. -/
inductive Scene where
  | moment (s : Scheduler)
  | given (turn : ScriptTurn)

/-- The scenes of a turn: the states before and after it, and the turn itself. -/
def ScriptTurn.scenes (turn : ScriptTurn) : List Scene :=
  [.moment turn.before, .given turn, .moment turn.after]

/-- The scenes of a step: the state in which it is performed and its turns. -/
def Performed.scenes (step : Performed) : List Scene :=
  .moment step.state :: step.turns.flatMap ScriptTurn.scenes

/-- The scenes of a history that ends in the state `s`. -/
def scenes (past : List Performed) (s : Scheduler) : List Scene :=
  past.flatMap Performed.scenes ++ [.moment s]

/-- A state is seen in a film after others: it is in the first part or in the second one. -/
theorem seen_append {film more before after : List Scene} {now : Scene}
    (seen : film ++ more = before ++ now :: after) :
    (∃ rest, film = before ++ now :: rest) ∨
      ∃ start, before = film ++ start ∧ more = start ++ now :: after := by
  rcases List.append_eq_append_iff.mp seen with ⟨start, eq, rest⟩ | ⟨rest, eq, start⟩
  · exact .inr ⟨start, eq, rest⟩
  · cases rest with
    | nil => exact .inr ⟨[], by simpa using eq.symm, start.symm⟩
    | cons first rest =>
      obtain ⟨rfl, -⟩ := List.cons.inj start
      exact .inl ⟨rest, eq⟩

/-- Whether a slice ends because the script blocks. -/
def SliceOutcome.isBlocked : SliceOutcome → Bool
  | .blocked => true
  | _ => false

/-- Whether a slice ends because the script blocks or halts. -/
def SliceOutcome.rests : SliceOutcome → Bool
  | .blocked | .halted => true
  | _ => false

/-- Whether a script is blocked or halted. -/
def Executor.rests (ex : Executor) : Bool := ex.isBlocked || ex.halted

section Counts

variable {pid : Pid} {stands : Executor → Bool} {ends : SliceOutcome → Bool} {past : List Scene}
  {s : Scheduler} {turn : ScriptTurn} {ex : Executor}

/-- How many instructions a script has run when it is seen in a certain condition or ends its slice
in a certain way. -/
def Scene.count? (pid : Pid) (stands : Executor → Bool) (ends : SliceOutcome → Bool) :
    Scene → Option Nat
  | .moment s => ((s.get? pid).filter stands).map Executor.instrCycles
  | .given turn =>
    if turn.pid = pid ∧ ends turn.outcome = true then some turn.ran.instrCycles else none

/-- How many instructions a script had run when this was last seen, and `0` if it never was. -/
def latest (pid : Pid) (stands : Executor → Bool) (ends : SliceOutcome → Bool)
    (past : List Scene) : Nat :=
  (past.filterMap (Scene.count? pid stands ends)).getLastD 0

/-- What is seen now is the last that is seen. -/
theorem latest_concat (past : List Scene) (now : Scene) : latest pid stands ends (past ++ [now]) =
    (now.count? pid stands ends).getD (latest pid stands ends past) := by
  unfold latest
  rw [List.filterMap_append]
  cases seen : now.count? pid stands ends with
  | none => simp [seen]
  | some number => simp [seen]

/-- A live script is seen. -/
theorem latest_moment (found : s.get? pid = some ex) :
    latest pid stands ends (past ++ [.moment s]) =
      if stands ex then ex.instrCycles else latest pid stands ends past := by
  rw [latest_concat]
  unfold Scene.count?
  dsimp only
  rw [found]
  cases stood : stands ex <;> simp [Option.filter, stood]

/-- A script that is not live is not seen. -/
theorem latest_absent (absent : s.get? pid = none) :
    latest pid stands ends (past ++ [.moment s]) = latest pid stands ends past := by
  rw [latest_concat]
  unfold Scene.count?
  dsimp only
  rw [absent]
  rfl

/-- A script is seen in its turn. -/
theorem latest_own (own : turn.pid = pid) :
    latest pid stands ends (past ++ [.given turn]) =
      if ends turn.outcome then turn.ran.instrCycles else latest pid stands ends past := by
  rw [latest_concat]
  unfold Scene.count?
  dsimp only
  cases ended : ends turn.outcome <;> simp [own]

/-- A script is not seen in the turn of another one. -/
theorem latest_other (ne : turn.pid ≠ pid) :
    latest pid stands ends (past ++ [.given turn]) = latest pid stands ends past := by
  rw [latest_concat]
  unfold Scene.count?
  dsimp only
  rw [if_neg fun own => ne own.1]
  rfl

end Counts

/-- How many instructions a script had run when it last blocked in a slice. -/
def sleptAt (pid : Pid) (past : List Scene) : Nat :=
  latest pid (fun _ => false) SliceOutcome.isBlocked past

/-- How many instructions a script had run when it was last blocked in any way. -/
def blockedAt (pid : Pid) (past : List Scene) : Nat :=
  latest pid Executor.isBlocked SliceOutcome.isBlocked past

/-- How many instructions a script had run when it was last blocked or halted. -/
def restedAt (pid : Pid) (past : List Scene) : Nat :=
  latest pid Executor.rests SliceOutcome.rests past

/-! ### After a slice -/

section Settled

variable {ex ran new : Executor} {outcome : SliceOutcome} {now limit slept rested seq : Nat}
  {before after : List ScriptExit} {exit : ScriptExit}

/-- A script that has been placed after its slice is accounted for. -/
theorem Executor.Settles.placed (h : ran.Settles limit slept rested outcome)
    (placed : outcome.placed seq ran = some new) :
    new.Accounted limit (if outcome.isBlocked then ran.instrCycles else slept)
      (if outcome.rests then ran.instrCycles else rested) := by
  cases outcome with
  | preempted =>
    obtain rfl := Option.some.inj placed
    exact h
  | blocked =>
    obtain rfl := Option.some.inj placed
    exact Accounted.congr h ⟨rfl, rfl, rfl, rfl⟩
  | halted =>
    obtain rfl := Option.some.inj placed
    exact Accounted.congr h ⟨rfl, rfl, rfl, rfl⟩
  | _ => exact absurd placed (by simp [SliceOutcome.placed])

/-- The exit record of a script that has left after its slice. -/
theorem Executor.Settles.recorded (h : ran.Settles limit slept rested outcome)
    (records : outcome.Records ran before after) (absent : ∀ exit ∈ before, exit.pid ≠ ran.pid)
    (mem : exit ∈ after) (own : exit.pid = ran.pid) :
    exit.instrCycles ≤ (if outcome.rests then ran.instrCycles else rested) +
        Executor.allowance ran.runawayStep limit ∧
      (exit.reason = .runaway →
        (if outcome.isBlocked then ran.instrCycles else slept) + limit ≤ exit.instrCycles) := by
  have last : ∀ new, after = before ++ [new] → exit = new := by
    rintro new rfl
    exact List.mem_singleton.mp
      ((List.mem_append.mp mem).resolve_left fun mem => absent exit mem own)
  cases outcome with
  | preempted | blocked | halted =>
    obtain rfl : after = before := records
    exact absurd own (absent exit mem)
  | finished | faulted =>
    obtain ⟨new, added, -, instrs, mild⟩ := records
    obtain rfl := last new added
    refine ⟨?_, fun cause => absurd cause mild⟩
    rw [instrs]
    exact h
  | runaway =>
    obtain ⟨new, added, -, instrs⟩ := records
    obtain rfl := last new added
    obtain ⟨beyond, allowed⟩ := h
    rw [instrs]
    exact ⟨allowed, fun _ => beyond⟩
  | external => exact h.elim

/-- A script that is blocked after its slice has blocked in it. -/
theorem Executor.Slice.blocked_placed {limit : Option Nat} (slice : Slice now limit ex ran outcome)
    (free : ex.isBlocked = false) (placed : outcome.placed seq ran = some new)
    (blocked : new.isBlocked = true) :
    outcome.isBlocked = true ∧ new.instrCycles = ran.instrCycles := by
  cases outcome with
  | preempted =>
    obtain rfl := Option.some.inj placed
    exact absurd (blocked.symm.trans slice.ended.2) (by decide)
  | blocked =>
    obtain rfl := Option.some.inj placed
    exact ⟨rfl, rfl⟩
  | halted =>
    obtain rfl := Option.some.inj placed
    have ranFree : ran.isBlocked = false := slice.free_of_halted free
    exact absurd (blocked.symm.trans ranFree) (by decide)
  | _ => exact absurd placed (by simp [SliceOutcome.placed])

end Settled

/-! ### Accounts of a history -/

/-- A bytecode script that is not critical and counts its cycles in certain steps. -/
structure Executor.Plain (step : Nat) (ex : Executor) : Prop where
  bytecode : ex.isEngine = false
  uncritical : ex.thread.critical = false
  runawayStep : ex.runawayStep = step

/-- The script `pid` is plain, if it is live. -/
def Scheduler.Plain (pid : Pid) (step : Nat) (s : Scheduler) : Prop :=
  ∀ ex, s.get? pid = some ex → ex.Plain step

/-- Whether a script is plain can be decided. -/
instance (step : Nat) (ex : Executor) : Decidable (ex.Plain step) :=
  decidable_of_iff (ex.isEngine = false ∧ ex.thread.critical = false ∧ ex.runawayStep = step)
    ⟨fun ⟨h₁, h₂, h₃⟩ => ⟨h₁, h₂, h₃⟩, fun ⟨h₁, h₂, h₃⟩ => ⟨h₁, h₂, h₃⟩⟩

/-- Whether the script `pid` is plain wherever it is seen. -/
def plainIn (pid : Pid) (step : Nat) (film : List Scene) : Bool :=
  film.all fun
    | .moment s => (s.get? pid).all fun ex => decide (ex.Plain step)
    | .given _ => true

/-- A script that is found plain is plain. -/
theorem plain_of_plainIn {pid : Pid} {step : Nat} {film : List Scene}
    (found : plainIn pid step film = true) : ∀ u, .moment u ∈ film → u.Plain pid step := by
  intro u mem ex live
  have here := List.all_eq_true.mp found _ mem
  dsimp only at here
  rw [live] at here
  exact of_decide_eq_true here

/-- The script `pid` has run so few instructions that the sums in which its runaway cycles are
counted, none of which exceeds the number of instructions by more than a step, fit into 64 bits. -/
def Scheduler.CountsFit (pid : Pid) (step : Nat) (s : Scheduler) : Prop :=
  (∀ ex, s.get? pid = some ex → ex.instrCycles + step < UInt64.size) ∧
    ∀ exit ∈ s.exits, exit.pid = pid → exit.instrCycles + step < UInt64.size

/-- Whether the counts of the script `pid` fit wherever it is seen. -/
def countsFitIn (pid : Pid) (step : Nat) (film : List Scene) : Bool :=
  film.all fun
    | .moment s =>
      (s.get? pid).all (fun ex => decide (ex.instrCycles + step < UInt64.size)) &&
        s.exits.all fun exit => exit.pid ≠ pid || decide (exit.instrCycles + step < UInt64.size)
    | .given _ => true

/-- Counts that are found to fit do so. -/
theorem countsFit_of_countsFitIn {pid : Pid} {step : Nat} {film : List Scene}
    (found : countsFitIn pid step film = true) :
    ∀ u, .moment u ∈ film → u.CountsFit pid step := by
  intro u mem
  have here := List.all_eq_true.mp found _ mem
  obtain ⟨live, gone⟩ := Bool.and_eq_true_iff.mp here
  constructor
  · intro ex isLive
    rw [isLive] at live
    exact of_decide_eq_true live
  · intro exit recorded own
    have fits := List.all_eq_true.mp gone exit recorded
    simpa [own] using fits

/-- The operation may suspend the script between its turns. -/
def Operation.Suspends (pid : Pid) : Operation → Prop
  | .runScript parent _ => parent = pid
  | .request asker _ _ _ | .requestWithTimeout _ asker _ _ _ _ => asker = pid
  | _ => False

/-- Requests and launches of children suspend scripts. -/
theorem Operation.suspends_of_does {op : Operation} {pid : Pid}
    (does : op.Does (.ask pid) ∨ op.Does (.adopt pid)) : op.Suspends pid := by
  cases op with
  | runScript => simpa [Operation.Does, Operation.Suspends, eq_comm] using does
  | request => simpa [Operation.Does, Operation.Suspends, eq_comm] using does
  | requestWithTimeout => simpa [Operation.Does, Operation.Suspends, eq_comm] using does
  | _ => simp [Operation.Does] at does

/-- No operation ends a script from outside as a runaway. -/
theorem Operation.mild (op : Operation) (pid : Pid) : ¬ op.Does (.retire pid .runaway) := by
  cases op <;> simp [Operation.Does]

/-- What is known in the state `s`, after what has been seen in the past, of the instructions of the
script `pid`. If the script is `calm` it is not suspended between its turns. -/
structure Accounts (pid : Pid) (limit step : Nat) (calm : Prop) (past : List Scene)
    (s : Scheduler) : Prop where
  limited : s.config.maxRunawayCycles = some limit
  live : ∀ ex, s.get? pid = some ex → ex.Accounted limit (sleptAt pid past) (restedAt pid past)
  new : s.nextPid.number ≤ pid.number →
    sleptAt pid past = 0 ∧ restedAt pid past = 0 ∧ blockedAt pid past = 0
  exited : ∀ exit ∈ s.exits, exit.pid = pid →
    exit.instrCycles ≤ restedAt pid past + Executor.allowance step limit
  terminated : ∀ exit ∈ s.exits, exit.pid = pid → exit.reason = .runaway →
    sleptAt pid past + limit ≤ exit.instrCycles
  /-- It is blocked only since it blocked in a slice. -/
  blocked : calm → blockedAt pid past ≤ sleptAt pid past ∧ ∀ ex, s.get? pid = some ex →
    ex.isEngine = false → ex.isBlocked = true → ex.instrCycles = sleptAt pid past

namespace Accounts

variable {pid : Pid} {limit step : Nat} {calm : Prop} {past : List Scene} {s s' : Scheduler}

/-- At first there are no scripts. -/
theorem empty {config : SchedulerConfig} {engine : Option Engine}
    (limited : config.maxRunawayCycles = some limit) :
    Accounts pid limit step calm [] (.empty config engine) where
  limited := limited
  live _ found := absurd found (by simp [Scheduler.empty, get?])
  new _ := ⟨rfl, rfl, rfl⟩
  exited _ mem := absurd mem List.not_mem_nil
  terminated _ mem := absurd mem List.not_mem_nil
  blocked _ := ⟨Nat.le_refl _, fun _ found => absurd found (by simp [Scheduler.empty, get?])⟩

/-- Accounts are about the last numbers that were seen. -/
theorem congr {later : List Scene} (h : Accounts pid limit step calm past s)
    (slept : sleptAt pid later = sleptAt pid past) (rested : restedAt pid later = restedAt pid past)
    (blocked : blockedAt pid later = blockedAt pid past) :
    Accounts pid limit step calm later s := by
  constructor
  · exact h.limited
  · rw [slept, rested]; exact h.live
  · rw [slept, rested, blocked]; exact h.new
  · rw [rested]; exact h.exited
  · rw [slept]; exact h.terminated
  · rw [slept, blocked]; exact h.blocked

/-- A script that is seen is accounted for as before. -/
theorem see (h : Accounts pid limit step calm past s) (plain : s.Plain pid step) (fit : s.Fit) :
    Accounts pid limit step calm (past ++ [.moment s]) s := by
  cases found : s.get? pid with
  | none => exact h.congr (latest_absent found) (latest_absent found) (latest_absent found)
  | some ex =>
    have only : ∀ other, s.get? pid = some other → other = ex := fun other live =>
      Option.some.inj (live.symm.trans found)
    have absent : ∀ exit ∈ s.exits, exit.pid ≠ pid := fit.unrecorded found
    have slept : sleptAt pid (past ++ [.moment s]) = sleptAt pid past := latest_moment found
    have rested : restedAt pid (past ++ [.moment s]) =
        if ex.rests then ex.instrCycles else restedAt pid past := latest_moment found
    have blocked : blockedAt pid (past ++ [.moment s]) =
        if ex.isBlocked then ex.instrCycles else blockedAt pid past := latest_moment found
    constructor
    · exact h.limited
    · intro other live
      obtain rfl := only other live
      rw [slept, rested]
      split
      · exact (h.live other live).rest
      · exact h.live other live
    · exact fun new => absurd (fit.numbers.lt_nextPid found) (Nat.not_lt_of_le new)
    · exact fun exit mem own => absurd own (absent exit mem)
    · exact fun exit mem own => absurd own (absent exit mem)
    · intro quiet
      obtain ⟨before, sleeps⟩ := h.blocked quiet
      rw [slept, blocked]
      refine ⟨?_, sleeps⟩
      split
      · next isBlocked => exact Nat.le_of_eq (sleeps ex found (plain ex found).bytecode isBlocked)
      · exact before

/-- Who has no turn is accounted for as before. -/
theorem keep (h : Accounts pid limit step calm past s) (plain : s.Plain pid step)
    (config : s'.config = s.config) (nextPid : s.nextPid.number ≤ s'.nextPid.number)
    (scripts : ∀ ex, s'.get? pid = some ex → ∃ old, s.Origin pid old ∧ Executor.Idles calm old ex)
    (exits : ∀ exit ∈ s'.exits, exit.pid = pid → exit ∈ s.exits ∨ exit.reason ≠ .runaway ∧
      ∃ old, s.Origin pid old ∧ exit.instrCycles = old.instrCycles) :
    Accounts pid limit step calm past s' := by
  constructor
  · rw [config]
    exact h.limited
  · intro ex live
    -- a script that is live was live before or has just been launched
    obtain ⟨old, found | ⟨new, launched⟩, idles⟩ := scripts ex live
    · exact (h.live old found).congr idles.tallies
    · obtain ⟨slept, rested, -⟩ := h.new new
      rw [slept, rested]
      exact (launched.accounted limit).congr idles.tallies
  · exact fun new => h.new (Nat.le_trans nextPid new)
  · intro exit mem own
    rcases exits exit mem own with mem | ⟨-, old, found | ⟨-, launched⟩, eq⟩
    · exact h.exited exit mem own
    · rw [eq, ← (plain old found).runawayStep]
      exact Nat.le_of_lt (h.live old found).lt_allowance
    · rw [eq, launched.fresh.1]
      exact Nat.zero_le _
  · intro exit mem own cause
    rcases exits exit mem own with mem | ⟨mild, -⟩
    · exact h.terminated exit mem own cause
    · exact absurd cause mild
  · intro quiet
    obtain ⟨before, only⟩ := h.blocked quiet
    refine ⟨before, fun ex live bytecode blocked => ?_⟩
    obtain ⟨old, origin, idles⟩ := scripts ex live
    have was := idles.blocked quiet bytecode blocked
    rcases origin with found | ⟨-, launched⟩
    · rw [idles.tallies.instrCycles]
      exact only old found (idles.isEngine.symm.trans bytecode) was
    · exact absurd (launched.fresh.2.symm.trans was) (by decide)

/-- Before the turns of an operation scripts are accounted for as before the operation. -/
theorem moves {op : Operation} {entries : List Entry} {m : Moment}
    (h : Accounts pid limit step calm past s) (plain : s.Plain pid step) (fit : s.Fit)
    (sound : Moment.Sound ⟨s, [], []⟩) (silent : calm → ¬ op.Suspends pid)
    (moves : MovesBy op.Prepares ⟨s, [], []⟩ entries m) :
    Accounts pid limit step calm past m.state := by
  have turnless : ∀ pid, ¬ op.Prepares (.turn pid) := fun pid prepares => prepares.2 pid rfl
  refine h.keep plain (moves.config sound) moves.nextPid ?_ ?_
  · intro ex live
    refine moves.idles sound fit (turnless pid) (fun quiet => ⟨?_, ?_⟩) live
    · exact fun asks => silent quiet (Operation.suspends_of_does (.inl asks.1))
    · exact fun adopts => silent quiet (Operation.suspends_of_does (.inr adopts.1))
  · rintro exit mem rfl
    exact moves.exits sound fit turnless (fun ends => op.mild _ ends.1) mem

/-- When a script is edited scripts are accounted for as before. -/
theorem edit {editee : Pid} {ex : Executor} (h : Accounts pid limit step calm past s)
    (plain : s.Plain pid step) (fit : s.Fit) (found : s.get? editee = some ex) (edit : Edit) :
    Accounts pid limit step calm past (s.store (edit.apply ex)) := by
  refine h.keep plain rfl (Nat.le_refl _) ?_ fun exit mem _ => .inl mem
  intro new live
  obtain ⟨old, was, rfl | rfl⟩ := get?_edit found live
  · exact ⟨new, .inl was, (fit.scripts pid new was).coherent.idles⟩
  · exact ⟨old, .inl was, (fit.scripts pid old was).coherent.idles_edit edit⟩

/-- In the turn of another script a script is accounted for as before. -/
theorem other {turn : ScriptTurn} (h : Accounts pid limit step calm past turn.before)
    (plain : turn.before.Plain pid step) (fit : turn.before.Fit) (valid : turn.Valid)
    (ne : turn.pid ≠ pid) : Accounts pid limit step calm (past ++ [.given turn]) turn.after := by
  have after : Accounts pid limit step calm past turn.after := by
    refine h.keep plain turn.follows.config (Nat.le_of_eq ?_) ?_ ?_
    · rw [turn.follows.nextPid]
    · intro ex live
      obtain ⟨old, found, idles⟩ := valid.idles calm fit ne live
      exact ⟨old, .inl found, idles⟩
    · rintro exit mem rfl
      rcases valid.exits fit mem with mem | ⟨own, -⟩
      · exact .inl mem
      · exact absurd own.symm ne
  exact after.congr (latest_other ne) (latest_other ne) (latest_other ne)

/-- A plain script is accounted for after its turn. -/
theorem own {turn : ScriptTurn} (h : Accounts turn.pid limit step calm past turn.before)
    (plain : turn.before.Plain turn.pid step) (fit : turn.before.Fit) (valid : turn.Valid) :
    Accounts turn.pid limit step calm (past ++ [.given turn]) turn.after := by
  obtain ⟨bytecode, uncritical, steps⟩ := plain _ valid.found
  obtain ⟨now, slice⟩ := valid.slice
  rw [h.limited] at slice
  have settles := slice.settles bytecode uncritical (h.live _ valid.found)
  have placed := valid.get?_own bytecode
  have records : turn.outcome.Records turn.ran turn.before.exits turn.after.exits :=
    Scheduler.records_settle (turn.before.store turn.ran) turn.ran turn.outcome
  have number : turn.ran.pid = turn.pid := valid.carries.pid
  -- a live script has no record, so that a record with its number is that of this turn
  have absent : ∀ exit ∈ turn.before.exits, exit.pid ≠ turn.ran.pid :=
    number.symm ▸ fit.unrecorded valid.found
  have recorded : ∀ exit ∈ turn.after.exits, exit.pid = turn.pid → _ := fun exit mem own =>
    settles.recorded records absent mem (own.trans number.symm)
  have slept : sleptAt turn.pid (past ++ [.given turn]) =
      if turn.outcome.isBlocked then turn.ran.instrCycles else sleptAt turn.pid past :=
    latest_own rfl
  have rested : restedAt turn.pid (past ++ [.given turn]) =
      if turn.outcome.rests then turn.ran.instrCycles else restedAt turn.pid past :=
    latest_own rfl
  have blocked : blockedAt turn.pid (past ++ [.given turn]) =
      if turn.outcome.isBlocked then turn.ran.instrCycles else blockedAt turn.pid past :=
    latest_own rfl
  constructor
  · rw [turn.follows.config]
    exact h.limited
  · intro ex live
    rw [slept, rested]
    exact settles.placed (placed.symm.trans live)
  · intro new
    rw [turn.follows.nextPid] at new
    exact absurd (fit.numbers.lt_nextPid valid.found) (Nat.not_lt_of_le new)
  · intro exit mem own
    rw [rested, ← steps, ← slice.continues.runawayStep]
    exact (recorded exit mem own).1
  · intro exit mem own
    rw [slept]
    exact (recorded exit mem own).2
  · intro quiet
    rw [slept, blocked]
    refine ⟨?_, fun ex live _ isBlocked => ?_⟩
    · split
      · exact Nat.le_refl _
      · exact (h.blocked quiet).1
    · have free : turn.script.isBlocked = false :=
        ((fit.scripts _ _ valid.found).timely bytecode).free valid.free
      obtain ⟨ended, same⟩ := slice.blocked_placed free (placed.symm.trans live) isBlocked
      rw [if_pos ended, same]

/-- A plain script is accounted for after a turn. -/
theorem turn {turn : ScriptTurn} (h : Accounts pid limit step calm past turn.before)
    (plain : turn.before.Plain pid step) (fit : turn.before.Fit) (valid : turn.Valid) :
    Accounts pid limit step calm (past ++ [.given turn]) turn.after := by
  by_cases own : turn.pid = pid
  · subst own
    exact h.own plain fit valid
  · exact h.other plain fit valid own

/-- In turns one after the other a plain script is accounted for in every state that is seen. -/
theorem turns {turns : List ScriptTurn} (taken : TakeTurns turns s s')
    (h : Accounts pid limit step calm past s) (fit : s.Fit)
    (plain : ∀ u, .moment u ∈ turns.flatMap ScriptTurn.scenes ++ [.moment s'] → u.Plain pid step)
    {before after : List Scene} {now : Scheduler}
    (seen : turns.flatMap ScriptTurn.scenes ++ [.moment s'] = before ++ .moment now :: after) :
    Accounts pid limit step calm (past ++ before) now := by
  induction taken generalizing past before with
  | nothing s =>
    rcases List.cons_eq_append_iff.mp seen with ⟨rfl, eq⟩ | ⟨rest, -, eq⟩
    · obtain ⟨eq, -⟩ := List.cons.inj eq
      obtain rfl := Scene.moment.inj eq
      rwa [List.append_nil]
    · exact absurd eq (by simp)
  | @turn turn turns s' valid rest ih =>
    have plainBefore : turn.before.Plain pid step := plain _ (by simp [ScriptTurn.scenes])
    have plainAfter : turn.after.Plain pid step := plain _ (by simp [ScriptTurn.scenes])
    have hBefore := h.see plainBefore fit
    have hAfter := hBefore.turn plainBefore fit valid
    -- The state is the one before this turn, the one after it, or it is seen in the later turns.
    change .moment turn.before :: .given turn :: .moment turn.after ::
      (turns.flatMap ScriptTurn.scenes ++ [.moment s']) = _ at seen
    rcases List.cons_eq_append_iff.mp seen with ⟨rfl, eq⟩ | ⟨rest₁, rfl, seen₁⟩
    · obtain rfl := Scene.moment.inj (List.cons.inj eq).1
      rwa [List.append_nil]
    rcases List.cons_eq_append_iff.mp seen₁ with ⟨rfl, eq⟩ | ⟨rest₂, rfl, seen₂⟩
    · exact absurd (List.cons.inj eq).1 (by simp)
    rcases List.cons_eq_append_iff.mp seen₂ with ⟨rfl, eq⟩ | ⟨rest₃, rfl, seen₃⟩
    · obtain rfl := Scene.moment.inj (List.cons.inj eq).1
      rwa [List.append_assoc] at hAfter
    have later := ih (hAfter.see plainAfter (valid.fit fit)) (valid.fit fit) ?_ seen₃
    · simpa using later
    · exact fun u mem => plain u (List.mem_append_right turn.scenes mem)

end Accounts

/-! ### How much a script runs -/

section Histories

variable {config : SchedulerConfig} {engine : Option Engine} {s : Scheduler}
  {past : List Performed} {pid : Pid} {limit step : Nat} {before after : List Scene}
  {now : Scheduler}

/-- A script that is plain in all states that are seen is accounted for in each of them. -/
theorem History.accounts {calm : Prop} (history : History (.empty config engine) past s)
    (limited : config.maxRunawayCycles = some limit)
    (plain : ∀ u, .moment u ∈ scenes past s → u.Plain pid step)
    (silent : calm → ∀ done ∈ past, ¬ done.op.Suspends pid)
    (seen : scenes past s = before ++ .moment now :: after) :
    Accounts pid limit step calm before now := by
  induction history generalizing before after now with
  | refl =>
    have start : Accounts pid limit step calm [] (.empty config engine) := .empty limited
    exact start.turns (.nothing _) Reachable.empty.fit plain seen
  | @step t past patience op ran history performed ih =>
    let done : Performed := ⟨t, patience, op⟩
    have reached := history.reachable .empty
    have film : scenes (past ++ [done]) ran.value.2 =
        scenes past t ++ (done.turns.flatMap ScriptTurn.scenes ++ [.moment ran.value.2]) := by
      simp [scenes, Performed.scenes, done]
    rw [film] at plain seen
    have plainPast : ∀ u, .moment u ∈ scenes past t → u.Plain pid step :=
      fun u mem => plain u (List.mem_append_left _ mem)
    have silentPast : calm → ∀ done ∈ past, ¬ done.op.Suspends pid :=
      fun quiet other mem => silent quiet other (List.mem_append_left _ mem)
    -- Only what is seen since the last step began is new.
    rcases seen_append seen with ⟨rest, earlier⟩ | ⟨start, rfl, later⟩
    · exact ih plainPast silentPast earlier
    have plainNow : t.Plain pid step := plainPast t (by simp [scenes])
    have known : Accounts pid limit step calm (scenes past t) t :=
      (ih plainPast silentPast rfl).see plainNow reached.fit
    have plainLater : ∀ u, .moment u ∈ done.turns.flatMap ScriptTurn.scenes ++
        [.moment ran.value.2] → u.Plain pid step :=
      fun u mem => plain u (List.mem_append_right _ mem)
    rcases edit_or_turns reached.numbered performed with
      ⟨editee, edit, ex, rfl, found, eq⟩ | ⟨m, entries, moves, taken⟩
    · have edited := known.edit plainNow reached.fit found edit
      rw [← eq] at edited
      exact edited.turns (.nothing _) (reached.perform performed).fit plainLater later
    · have unsuspended : calm → ¬ op.Suspends pid := fun quiet =>
        silent quiet done (List.mem_append_right _ (List.mem_singleton.mpr rfl))
      have moved := known.moves plainNow reached.fit reached.sound unsuspended moves
      exact moved.turns taken (moves.fit reached.orderly reached.fit) plainLater later

/-- What is known in the state `now`, which is seen in a history after others, of how many
instructions the script `pid` runs. -/
structure BoundsRuns (pid : Pid) (limit step : Nat) (past : List Performed) (before : List Scene)
    (now : Scheduler) : Prop where
  /-- The sums in which the runaway cycles of a live script are counted have not left 64 bits. -/
  fits : ∀ ex, now.get? pid = some ex →
    ex.warnOnCycle < UInt64.size ∧ ex.runawayCycles < UInt64.size
  /-- A live script has run no more than it is allowed since it was last blocked or halted. -/
  live : ∀ ex, now.get? pid = some ex →
    ex.instrCycles ≤ restedAt pid before + Executor.allowance step limit
  /-- The same holds of a script that has left, however it left. -/
  exited : ∀ exit ∈ now.exits, exit.pid = pid →
    exit.instrCycles ≤ restedAt pid before + Executor.allowance step limit
  /-- A script that has been terminated as a runaway has run as many instructions as the limit says
  since it last blocked in a slice. -/
  terminated : ∀ exit ∈ now.exits, exit.pid = pid → exit.reason = .runaway →
    sleptAt pid before + limit ≤ exit.instrCycles
  /-- If it was never suspended between its turns, it has run as many since it was last blocked in
  any way. -/
  undisturbed : (∀ done ∈ past, ¬ done.op.Suspends pid) → ∀ exit ∈ now.exits, exit.pid = pid →
    exit.reason = .runaway → blockedAt pid before + limit ≤ exit.instrCycles

/-- Where runaway cycles are limited, it is bounded from both sides how many instructions a bytecode
script that is never critical runs at a stretch, in whatever operations and next to whatever other
scripts, as long as its counts fit into 64 bits. -/
theorem History.boundsRuns (history : History (.empty config engine) past s)
    (limited : config.maxRunawayCycles = some limit)
    (plain : ∀ u, .moment u ∈ scenes past s → u.Plain pid step)
    (few : ∀ u, .moment u ∈ scenes past s → u.CountsFit pid step)
    (seen : scenes past s = before ++ .moment now :: after) :
    BoundsRuns pid limit step past before now := by
  have known : Accounts pid limit step (∀ done ∈ past, ¬ done.op.Suspends pid) before now :=
    history.accounts limited plain id seen
  have isPlain : now.Plain pid step := plain now (seen ▸ by simp)
  have isFew : now.CountsFit pid step := few now (seen ▸ by simp)
  refine ⟨?_, ?_, known.exited, known.terminated, ?_⟩
  · intro ex found
    have fits := isFew.1 ex found
    have accounts := known.live ex found
    have ahead := accounts.ahead
    have counted := accounts.counted
    rw [(isPlain ex found).runawayStep] at ahead
    exact ⟨by omega, by omega⟩
  · intro ex found
    rw [← (isPlain ex found).runawayStep]
    exact Nat.le_of_lt (known.live ex found).lt_allowance
  · intro quiet exit mem own cause
    exact Nat.le_trans (Nat.add_le_add_right (known.blocked quiet).1 limit)
      (known.terminated exit mem own cause)

end Histories

/-- Few runaway cycles are allowed. -/
def impatientConfig : SchedulerConfig := { runawayScriptThreshold := 5, maxRunawayCycles := some 5 }

/-- A script without an end is launched and has a number of turns. -/
def loopingRun (turns : Nat) : List Operation :=
  .start (.bytecode "loop" [.jump 0]) :: List.replicate turns (.runReady 0)

/-- A script runs on and on and is terminated as soon as it may be. -/
theorem boundsRuns_looping : ∃ past s before exit, History (.empty impatientConfig none) past s ∧
    scenes past s = before ++ [.moment s] ∧ BoundsRuns ⟨1⟩ 5 5 past before s ∧
    s.exits = [exit] ∧ exit.reason = .runaway ∧ exit.instrCycles = 5 := by
  have performed : Scheduler.performAll 1 (loopingRun 5) (.empty impatientConfig none) = some _ :=
    rfl
  have history := (History.refl (.empty impatientConfig none)).performAll performed
  have bounds : BoundsRuns ⟨1⟩ 5 5 _ _ _ := history.boundsRuns rfl (plain_of_plainIn rfl)
    (countsFit_of_countsFitIn rfl) rfl
  exact ⟨_, _, _, _, history, rfl, bounds, rfl, rfl, rfl⟩

/-- A script makes a request between two of its turns and is terminated in the turn after the
answer. -/
def impatientRun : List Operation :=
  loopingRun 4 ++ [.request ⟨1⟩ ⟨7⟩ .textEntry fun _ response => some response,
    .respond ⟨1⟩ (.long 5), .runReady 0]

/-- A script is terminated as a runaway after the first instruction that it runs since it was
blocked. -/
theorem not_undisturbed_impatient : ∃ past s before exit,
    History (.empty impatientConfig none) past s ∧
    (∀ u, .moment u ∈ scenes past s → u.Plain ⟨1⟩ 5) ∧
    (∀ u, .moment u ∈ scenes past s → u.CountsFit ⟨1⟩ 5) ∧ scenes past s = before ++ [.moment s] ∧
    s.exits = [exit] ∧ exit.reason = .runaway ∧ exit.instrCycles = 5 ∧
    blockedAt ⟨1⟩ before = 4 := by
  have performed : Scheduler.performAll 1 impatientRun (.empty impatientConfig none) = some _ := rfl
  have history := (History.refl (.empty impatientConfig none)).performAll performed
  exact ⟨_, _, _, _, history, plain_of_plainIn rfl, countsFit_of_countsFitIn rfl, rfl, rfl, rfl,
    rfl, rfl⟩

end ScriptScheduler
