import ScriptScheduler.Proofs.Changes

/-!
# Runs

A run is a sequence of operations together with the record of all of them. What holds of a
reachable state with an empty record and is preserved by every move, which adds to the record, and
by every edit of a single script holds at the end of a run (`Run.keeps`). Along a run the moments
are sound, and engine scripts are live only where there is an engine.
-/

namespace ScriptScheduler

open Scheduler

/-! ### Kinds of scripts -/

/-- An answer changes neither the number nor the kind of a script. -/
theorem Executor.kind_answered (ex : Executor) (value : Val) :
    (ex.answered value).pid = ex.pid ∧ (ex.answered value).isEngine = ex.isEngine := by
  unfold answered
  split <;> exact ⟨rfl, rfl⟩

/-- Changes keep the number and the kind of a script. -/
theorem Executor.Change.kind {gone : Pid → Prop} {wrapped : Prop} {a b : Executor}
    (change : Change gone wrapped a b) : b.pid = a.pid ∧ b.isEngine = a.isEngine := by
  have suspended : ∀ (ex : Executor) wake,
      (ex.suspend wake).pid = ex.pid ∧ (ex.suspend wake).isEngine = ex.isEngine := by
    intro ex wake
    unfold suspend
    split <;> exact ⟨rfl, rfl⟩
  cases change with
  | preempted _ slice => exact ⟨slice.carries.pid, slice.carries.isEngine⟩
  | slept _ slice => exact ⟨slice.carries.pid, slice.carries.isEngine⟩
  | stopped _ slice => exact ⟨slice.carries.pid, slice.carries.isEngine⟩
  | called => exact ⟨rfl, rfl⟩
  | queued => exact ⟨rfl, rfl⟩
  | woken => exact ⟨rfl, rfl⟩
  | answered => exact kind_answered _ _
  | timedOut => exact ⟨rfl, rfl⟩
  | resumed => exact ⟨rfl, rfl⟩
  | orphaned => exact ⟨rfl, rfl⟩
  | halted => exact ⟨rfl, rfl⟩
  | releasedBlocked => exact ⟨rfl, rfl⟩
  | released => exact ⟨rfl, rfl⟩
  | requested _ _ wake seq =>
    have kept := suspended a wake
    unfold openResultSlot
    split <;> exact kept
  | takenBack => exact ⟨rfl, rfl⟩
  | awaited => exact suspended _ _

/-- Changes one after the other keep the number and the kind of a script. -/
theorem Executor.ChangesBy.kind {gone : Pid → Prop} {wrapped : Prop} {may : Act → Prop}
    {a b : Executor} (changes : ChangesBy gone wrapped may a b) :
    b.pid = a.pid ∧ b.isEngine = a.isEngine :=
  changes.keeps (P := fun ex => ex.pid = a.pid ∧ ex.isEngine = a.isEngine)
    (fun _ _ change same => ⟨change.any.kind.1.trans same.1, change.any.kind.2.trans same.2⟩)
    ⟨rfl, rfl⟩

/-- A move launches one script, or it leads to a state without new scripts. -/
theorem Move.follows_or_launches {m m' : Moment} {entries : List Entry}
    (move : Move m entries m') (numbers : m.state.Numbered) :
    Follows m.state m'.state ∨
    ∃ program options ex parent, m.state.prepare program options = .ok ex ∧
      (m'.state.config = m.state.config ∧ m'.state.engine = m.state.engine) ∧
      m'.state.get? ex.pid = some { ex with parent := parent } ∧
      ∀ other, other ≠ ex.pid → (m'.state.get? other).isSome = (m.state.get? other).isSome := by
  cases move with
  | tell => exact .inl (.refl _)
  | tellEngine => exact .inl (.refl _)
  | @start s _ _ program options ex prepared =>
    refine .inr ⟨program, options, ex, ex.parent, prepared, ⟨rfl, rfl⟩,
      get?_enroll_self (get?_of_prepare numbers prepared), ?_⟩
    intro other ne
    exact congrArg Option.isSome (get?_enroll_of_ne ne)
  | @startChild s _ _ parent program ran launched =>
    obtain ⟨waiting, child, found, -, prepared, eq⟩ := runScript_eq launched
    obtain ⟨self, waits, others⟩ := get?_awaitChild numbers prepared found
    dsimp only
    rw [eq]
    have follows : Follows (s.enroll child).value
        ((s.enroll child).value.awaitChild parent child.pid) := follows_awaitChild
    refine .inr ⟨program, _, child, some parent, prepared, ⟨follows.config, follows.engine⟩, self,
      ?_⟩
    intro other ne
    change (((s.enroll child).value.awaitChild parent child.pid).get? other).isSome = _
    -- the parent was live before, so no other script has been launched
    by_cases isParent : other = parent
    · rw [isParent, waits, found]
      rfl
    · rw [others other ne isParent]
  | @startAway s _ _ program ex prepared =>
    refine .inr ⟨program, _, ex, ex.parent, prepared, ⟨rfl, rfl⟩,
      get?_enroll_self (get?_of_prepare numbers prepared), ?_⟩
    intro other ne
    exact congrArg Option.isSome (get?_enroll_of_ne ne)
  | takeBatch => exact .inl { Follows.refl _ with }
  | skip => exact .inl (.refl _)
  | turn => exact .inl (follows_store.trans follows_settle)
  | collect => exact .inl { Follows.refl _ with }
  | complete => exact .inl follows_completeExternal
  | settleCall => exact .inl { Follows.refl _ with }
  | signal => exact .inl follows_signalEvent
  | halt halted => exact .inl (follows_halt halted)
  | release released => exact .inl (follows_release released)
  | retire => exact .inl follows_retire
  | deschedule => exact .inl follows_deschedule
  | request => exact .inl follows_register
  | resolve => exact .inl follows_resolve
  | @wake s _ _ _ _ _ rest =>
    exact .inl { (follows_wake (s := { s with timeouts := rest })) with }
  | takeExits => exact .inl { Follows.refl _ with }

/-- A script that stays live keeps its kind. -/
theorem Move.kind {m m' : Moment} {entries : List Entry} (move : Move m entries m')
    (sound : m.Sound) {pid : Pid} {ex ex' : Executor} (found : m.state.get? pid = some ex)
    (live : m'.state.get? pid = some ex') : ex'.isEngine = ex.isEngine := by
  obtain ⟨old, was, changes⟩ | ⟨dead, -⟩ := move.evolves sound.numbers
    sound.placed sound.indexed (fun unused : ¬ True => absurd trivial unused) live
  · rw [found] at was
    obtain rfl := Option.some.inj was
    exact changes.kind.2
  · rw [found] at dead
    exact absurd dead (by simp)

/-! ### Engines -/

/-- Engine scripts are live only where there is an engine. -/
def Scheduler.Equipped (s : Scheduler) : Prop :=
  ∀ pid ex, s.get? pid = some ex → ex.isEngine = true → s.engine.isSome = true

/-- Only where there is an engine an engine script is prepared. -/
theorem Scheduler.engine_of_prepare {s : Scheduler} {program : Program} {options : Options}
    {ex : Executor} (prepared : s.prepare program options = .ok ex) (isEngine : ex.isEngine = true) :
    s.engine.isSome = true := by
  obtain ⟨runtime, thread, bound, eq⟩ := prepare_eq prepared
  have type : program.type = .engine := by
    rcases bindRuntime_cases bound with ⟨-, machine, rfl, -⟩ | ⟨type, -⟩
    · rw [eq] at isEngine
      exact absurd isEngine (by simp [Executor.isEngine])
    · exact type
  unfold prepare at prepared
  split at prepared
  · exact absurd prepared (by simp)
  · split at prepared
    · exact absurd prepared (by simp)
    · next absent =>
      cases engine : s.engine with
      | some _ => rfl
      | none => exact absurd (by simp [type, engine]) absent

/-- Moves keep the configuration. -/
theorem Move.config {m m' : Moment} {entries : List Entry} (move : Move m entries m')
    (numbers : m.state.Numbered) : m'.state.config = m.state.config := by
  rcases move.follows_or_launches numbers with follows | ⟨-, -, -, -, -, same, -⟩
  · exact follows.config
  · exact same.1

/-- Moves keep the engine. -/
theorem Move.engine {m m' : Moment} {entries : List Entry} (move : Move m entries m')
    (numbers : m.state.Numbered) : m'.state.engine = m.state.engine := by
  rcases move.follows_or_launches numbers with follows | ⟨-, -, -, -, -, same, -⟩
  · exact follows.engine
  · exact same.2

/-- In every reachable state the engine is that of the scheduler without scripts. -/
theorem Reachable.engine {config : SchedulerConfig} {engine : Option Engine} {s : Scheduler}
    (reached : Reachable config engine s) : s.engine = engine :=
  reached.keeps (P := fun m => m.state.engine = engine) rfl
    (fun _ _ _ numbers move same => (move.engine numbers).trans same) fun _ _ _ _ _ same => same

/-- Moves neither take the engine away nor launch engine scripts without one. -/
theorem Move.equipped {m m' : Moment} {entries : List Entry} (move : Move m entries m')
    (sound : m.Sound) (h : Equipped m.state) : Equipped m'.state := by
  intro pid ex' live isEngine
  rw [move.engine sound.numbers]
  cases found : m.state.get? pid with
  | some ex => exact h pid ex found ((move.kind sound found live).symm.trans isEngine)
  | none =>
    rcases move.follows_or_launches sound.numbers with
      follows | ⟨program, options, ex, parent, prepared, -, self, others⟩
    · rw [follows.gone found] at live
      exact absurd live (by simp)
    · have new : pid = ex.pid := by
        by_contra ne
        have also := others pid ne
        rw [live, found] at also
        exact absurd also (by simp)
      rw [new, self] at live
      obtain rfl := Option.some.inj live
      exact engine_of_prepare prepared isEngine

/-- An edit keeps the kind of a script. -/
theorem Edit.isEngine_apply (edit : Edit) (ex : Executor) :
    (edit.apply ex).isEngine = ex.isEngine := by
  cases edit <;> rfl

/-- An edit of a single script does not launch engine scripts. -/
theorem Scheduler.Equipped.edit {s : Scheduler} {pid : Pid} {ex : Executor} (h : Equipped s)
    (found : s.get? pid = some ex) (edit : Edit) : Equipped (s.store (edit.apply ex)) := by
  intro other ex' live isEngine
  obtain ⟨old, was, rfl | rfl⟩ := get?_edit found live
  · exact h other ex' was isEngine
  · exact h other old was ((edit.isEngine_apply old).symm.trans isEngine)

/-- In a reachable state engine scripts are live only where there is an engine. -/
theorem Reachable.equipped {config : SchedulerConfig} {engine : Option Engine} {s : Scheduler}
    (reached : Reachable config engine s) : Equipped s := by
  have both := reached.keeps (P := fun m => m.Sound ∧ Equipped m.state)
    ⟨Reachable.empty.sound, ?_⟩ ?_ ?_
  · exact both.2
  · intro pid ex found
    exact absurd found (by simp [Scheduler.empty, get?])
  · exact fun m entries m' _ move h => ⟨move.sound h.1, move.equipped h.1 h.2⟩
  · exact fun s pid edit ex found h => ⟨h.1.edit found edit, h.2.edit found edit⟩

/-! ### Runs of operations -/

/-- Operations that lead from one state to another and the record of them. Each operation may be
given another patience. -/
inductive Run : Scheduler → List Entry → Scheduler → Prop
  | refl (s : Scheduler) : Run s [] s
  | step {s t : Scheduler} {entries : List Entry} {patience : Nat} {op : Operation}
      {ran : Logged (Answer × Scheduler)} (before : Run s entries t)
      (performed : t.perform patience op = some ran) :
      Run s (entries ++ ran.entries) ran.value.2

namespace Run

variable {config : SchedulerConfig} {engine : Option Engine} {s t : Scheduler}
  {entries : List Entry}

/-- A run leads from a reachable state to a reachable state. -/
theorem reachable (run : Run s entries t) (reached : Reachable config engine s) :
    Reachable config engine t := by
  induction run with
  | refl => exact reached
  | step _ performed ih => exact ih.perform performed

/-- The edit of a single script is not recorded. -/
theorem entries_edit {patience : Nat} {pid : Pid} {edit : Edit} {ran : Logged (Answer × Scheduler)}
    (performed : s.perform patience (.edit pid edit) = some ran) : ran.entries = [] := by
  obtain rfl := Option.some.inj performed
  unfold Scheduler.edit
  split <;> rfl

/-- What is preserved by every move, which adds to the record, is preserved by moves one after the
other. -/
theorem keeps_moves {P : List Entry → Moment → Prop} {m m' : Moment} (before : List Entry)
    (moves : Moves m entries m') (sound : m.Sound) (equipped : Equipped m.state)
    (step : ∀ before m more m', m.Sound → Equipped m.state → Move m more m' → P before m →
      P (before ++ more) m') (start : P before m) :
    m'.Sound ∧ Equipped m'.state ∧ P (before ++ entries) m' := by
  induction moves with
  | refl => exact ⟨sound, equipped, by rwa [List.append_nil]⟩
  | step _ move ih =>
    have move : Move _ _ _ := move
    obtain ⟨sound, equipped, held⟩ := ih
    rw [← List.append_assoc]
    exact ⟨move.sound sound, move.equipped sound equipped, step _ _ _ _ sound equipped move held⟩

/-- What holds of a reachable state with an empty record and is preserved by every move, which adds
to the record, and by every edit of a single script holds at the end of a run. -/
theorem keeps {P : List Entry → Moment → Prop} (run : Run s entries t)
    (reached : Reachable config engine s) (start : P [] ⟨s, [], []⟩)
    (step : ∀ before m more m', m.Sound → Equipped m.state → Move m more m' → P before m →
      P (before ++ more) m')
    (edited : ∀ before s pid edit ex, Moment.Sound ⟨s, [], []⟩ → s.get? pid = some ex →
      P before ⟨s, [], []⟩ → P before ⟨s.store (Edit.apply ex edit), [], []⟩) :
    P entries ⟨t, [], []⟩ := by
  induction run with
  | refl => exact start
  | step before performed ih =>
    have reached := before.reachable reached
    rcases Reachable.edit_or_moves reached.numbered performed with
      ⟨pid, edit, ex, rfl, found, eq⟩ | moves
    · rw [entries_edit performed, List.append_nil, eq]
      exact edited _ _ pid edit ex reached.sound found ih
    · exact (keeps_moves _ moves reached.sound reached.equipped step ih).2.2

end Run

end ScriptScheduler
