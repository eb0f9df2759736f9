import ScriptScheduler.Proofs.Departures

/-!
# Links between scripts

A move launches one script, changes one script or removes one script (`Shift`). From this it
follows that links between parents and children are mutual and that a child is younger than its
parent (`Linked`).
-/

namespace ScriptScheduler

namespace Scheduler

variable {s s' : Scheduler} {pid : Pid} {ex gone : Executor}

/-! ### What a move can do to the scripts -/

/-- The ways in which a move changes the live scripts. -/
inductive Shift (s : Scheduler) : Scheduler → Prop
  /-- All scripts stay as they are. -/
  | same {s' : Scheduler} (scripts : ∀ pid, s'.get? pid = s.get? pid) : Shift s s'
  /-- A script changes and keeps its links. -/
  | altered {s' : Scheduler} {pid : Pid} (alters : Alters pid s s') : Shift s s'
  /-- A script without links is launched. -/
  | launched {s' : Scheduler} (new : s'.kin? s.nextPid = some (none, none))
      (others : ∀ pid, pid ≠ s.nextPid → s'.get? pid = s.get? pid) : Shift s s'
  /-- A script is launched as the child of another one. -/
  | fathered {s' : Scheduler} {parent : Pid} {waiting : Executor}
      (found : s.get? parent = some waiting) (childless : waiting.child = none)
      (new : s'.kin? s.nextPid = some (some parent, none))
      (waits : s'.kin? parent = some (waiting.parent, some s.nextPid))
      (others : ∀ pid, pid ≠ s.nextPid → pid ≠ parent → s'.get? pid = s.get? pid) : Shift s s'
  /-- A script is removed. -/
  | departed {s' : Scheduler} {gone : Executor} (departs : Departs s gone s') : Shift s s'

/-- A prepared script has no links. -/
theorem kin_of_prepare {program : Program} {options : Options}
    (prepared : s.prepare program options = .ok ex) : ex.kin = (none, none) := by
  obtain ⟨runtime, thread, -, rfl⟩ := prepare_eq prepared
  rfl

/-- A launched script has no links, and the others are as before. -/
theorem kin?_enroll {program : Program} {options : Options} (numbers : s.Numbered)
    (prepared : s.prepare program options = .ok ex) :
    (s.enroll ex).value.kin? s.nextPid = some (none, none) ∧
      ∀ pid, pid ≠ s.nextPid → (s.enroll ex).value.get? pid = s.get? pid := by
  have number := pid_of_prepare prepared
  refine ⟨?_, fun pid ne => get?_enroll_of_ne (number.symm ▸ ne)⟩
  unfold kin?
  rw [← number, get?_enroll_self (number.symm ▸ numbers.get?_nextPid)]
  exact congrArg some (kin_of_prepare prepared)

/-- A script that can wait for a child has none. -/
theorem child_of_childRefusal? (able : childRefusal? ex = none) :
    ex.child = none ∧ ex.options.runToCompletion = false ∧ ex.programType ≠ some .engine := by
  unfold childRefusal? at able
  split at able
  · exact absurd able (by simp)
  · next bytecode =>
    split at able
    · exact absurd able (by simp)
    · next childless =>
      split at able
      · exact absurd able (by simp)
      · next sleepy => exact ⟨childless, by simpa using sleepy, bytecode⟩

end Scheduler

open Scheduler

/-- A move launches one script, changes one script or removes one script. -/
theorem Move.shift {m m' : Moment} {entries : List Entry} (move : Move m entries m')
    (numbers : m.state.Numbered) (indexed : Indexed m.state) : Shift m.state m'.state := by
  cases move with
  | tell => exact .same fun _ => rfl
  | tellEngine => exact .same fun _ => rfl
  | start prepared =>
    obtain ⟨new, others⟩ := kin?_enroll numbers prepared
    exact .launched new others
  | @startChild s _ _ parent program ran launched =>
    obtain ⟨waiting, child, found, able, prepared, eq⟩ := runScript_eq launched
    obtain ⟨self, waits, others⟩ := get?_awaitChild numbers prepared found
    have number := pid_of_prepare prepared
    dsimp only
    rw [eq]
    rw [number] at self waits others ⊢
    -- a parent with a child is refused a second one
    refine .fathered found (child_of_childRefusal? able).1 ?_ ?_ others
    · refine (congrArg (Option.map Executor.kin) self).trans ?_
      exact congrArg (fun kin => some (some parent, kin.2)) (kin_of_prepare prepared)
    · refine (congrArg (Option.map Executor.kin) waits).trans ?_
      unfold Executor.suspend
      split <;> rfl
  | startAway prepared =>
    obtain ⟨new, others⟩ := kin?_enroll numbers prepared
    exact .launched new others
  | takeBatch => exact .same fun _ => rfl
  | skip => exact .same fun _ => rfl
  | turn found free runs =>
    obtain ⟨now, slice⟩ := runs.slice
    rcases Departs.turn found slice with alters | ⟨gone, -, departs⟩
    · exact .altered alters
    · exact .departed departs
  | collect => exact .same fun _ => rfl
  | @complete s _ done _ =>
    cases found : s.get? done.pid with
    | none =>
      rw [completeExternal_of_not_live found]
      exact .same fun _ => rfl
    | some ex =>
      have same : Alters done.pid s s := .of_same (fun _ => rfl) rfl
      exact .departed (Departs.completeExternal same rfl found _)
  | settleCall => exact .same fun _ => rfl
  | signal => exact .altered .signalEvent
  | halt halted => exact .altered (.halt halted)
  | release released => exact .altered (.release released)
  | retire found result reason => exact .departed (.retire found result reason)
  | @deschedule s _ _ pid =>
    dsimp only [Scheduler.deschedule]
    cases found : s.get? pid with
    | none => exact .same fun _ => rfl
    | some ex => exact .departed (.handedBack (pid_of_get? found ▸ found))
  | request => exact .altered .register
  | resolve => exact .altered (.resolve _)
  | @wake s _ _ _ _ pid rest =>
    have taken : Alters pid s { s with timeouts := rest } := .of_same (fun _ => rfl) rfl
    exact .altered (taken.trans (.wake (indexed.congr rfl fun _ => rfl)))
  | takeExits => exact .same fun _ => rfl

/-! ### Parents and children -/

namespace Scheduler

variable {s s' : Scheduler} {pid parent child : Pid} {ex gone : Executor}

/-- Whoever is live afterwards was live before, except for the next script to be launched. -/
theorem Shift.live (h : Shift s s') (old : pid ≠ s.nextPid) (live : (s'.get? pid).isSome = true) :
    (s.get? pid).isSome = true := by
  cases h with
  | same scripts => exact scripts pid ▸ live
  | altered alters => exact alters.isSome_get? pid ▸ live
  | launched _ others => exact others pid old ▸ live
  | @fathered parent waiting found _ _ _ others =>
    by_cases isParent : pid = parent
    · rw [isParent, found]
      rfl
    · exact others pid old isParent ▸ live
  | @departed gone departs =>
    by_cases isGone : pid = gone.pid
    · rw [isGone, departs.get?_self] at live
      exact absurd live (by decide)
    · exact departs.isSome_get? isGone ▸ live

/-- Whoever is live no more has left. -/
theorem Shift.departs (h : Shift s s') (live : (s.get? pid).isSome = true)
    (dead : s'.get? pid = none) : ∃ gone, gone.pid = pid ∧ Departs s gone s' := by
  have still : (s'.get? pid).isSome ≠ true := by rw [dead]; simp
  have known : ∀ kin, s'.kin? pid ≠ some kin := by
    intro kin
    unfold kin?
    rw [dead]
    simp
  cases h with
  | same scripts => exact absurd ((scripts pid).symm ▸ live) still
  | altered alters => exact absurd ((alters.isSome_get? pid).symm ▸ live) still
  | launched new others =>
    by_cases isNew : pid = s.nextPid
    · exact absurd new (isNew ▸ known _)
    · exact absurd ((others pid isNew).symm ▸ live) still
  | @fathered parent waiting _ _ new waits others =>
    by_cases isNew : pid = s.nextPid
    · exact absurd new (isNew ▸ known _)
    · by_cases isParent : pid = parent
      · exact absurd waits (isParent ▸ known _)
      · exact absurd ((others pid isNew isParent).symm ▸ live) still
  | @departed gone departs =>
    by_cases isGone : pid = gone.pid
    · exact ⟨gone, isGone.symm, departs⟩
    · exact absurd ((departs.isSome_get? isGone).symm ▸ live) still

/-- The child for which a live script waits. -/
def childOf? (s : Scheduler) (pid : Pid) : Option Pid := (s.kin? pid).bind Prod.snd

/-- The parent of a live script. -/
def parentOf? (s : Scheduler) (pid : Pid) : Option Pid := (s.kin? pid).bind Prod.fst

/-- A live script waits for the child that it names. -/
theorem childOf?_of_get? (found : s.get? pid = some ex) : s.childOf? pid = ex.child := by
  unfold childOf? kin?
  rw [found]
  rfl

/-- A live script has the parent that it names. -/
theorem parentOf?_of_get? (found : s.get? pid = some ex) : s.parentOf? pid = ex.parent := by
  unfold parentOf? kin?
  rw [found]
  rfl

/-- Who is not live has no links. -/
theorem links_of_not_live (dead : s.get? pid = none) :
    s.childOf? pid = none ∧ s.parentOf? pid = none := by
  unfold childOf? parentOf? kin?
  rw [dead]
  exact ⟨rfl, rfl⟩

/-- Links between parents and children are mutual, and a child is younger than its parent. -/
structure Linked (s : Scheduler) : Prop where
  paired : ∀ parent child, s.childOf? parent = some child ↔ s.parentOf? child = some parent
  older : ∀ parent child, s.childOf? parent = some child → parent.number < child.number

namespace Linked

/-- A scheduler without scripts has no links. -/
theorem empty (config : SchedulerConfig) (engine : Option Engine) :
    Linked (.empty config engine) := by
  constructor <;> simp [childOf?, parentOf?, kin?, get?, Scheduler.empty]

/-- Links that stay as they are. -/
theorem congr (h : Linked s) (children : ∀ pid, s'.childOf? pid = s.childOf? pid)
    (parents : ∀ pid, s'.parentOf? pid = s.parentOf? pid) : Linked s' where
  paired parent child := by rw [children, parents, h.paired]
  older parent child link := h.older parent child (children parent ▸ link)

/-- Scripts that keep their parents and children. -/
theorem of_kin? (h : Linked s) (same : ∀ pid, s'.kin? pid = s.kin? pid) : Linked s' :=
  h.congr (fun pid => by unfold childOf?; rw [same]) fun pid => by unfold parentOf?; rw [same]

/-- A script that keeps its links. -/
theorem altered (h : Linked s) (alters : Alters pid s s') : Linked s' := by
  refine h.of_kin? ?_
  intro other
  by_cases same : other = pid
  · rw [same, alters.kin]
  · unfold kin?
    rw [alters.others other same]

/-- A new script without links. -/
theorem launched (h : Linked s) (numbers : s.Numbered)
    (new : s'.kin? s.nextPid = some (none, none))
    (others : ∀ pid, pid ≠ s.nextPid → s'.get? pid = s.get? pid) : Linked s' := by
  obtain ⟨childless, fatherless⟩ := links_of_not_live numbers.get?_nextPid
  refine h.congr ?_ ?_
  · intro pid
    by_cases isNew : pid = s.nextPid
    · rw [isNew, childless]
      unfold childOf?
      rw [new]
      rfl
    · unfold childOf? kin?
      rw [others pid isNew]
  · intro pid
    by_cases isNew : pid = s.nextPid
    · rw [isNew, fatherless]
      unfold parentOf?
      rw [new]
      rfl
    · unfold parentOf? kin?
      rw [others pid isNew]

/-- After the launch of a child the parent waits for it, and nobody waits for anyone else than
before. -/
theorem childOf?_fathered {waiting : Executor} (numbers : s.Numbered)
    (new : s'.kin? s.nextPid = some (some parent, none))
    (waits : s'.kin? parent = some (waiting.parent, some s.nextPid))
    (others : ∀ pid, pid ≠ s.nextPid → pid ≠ parent → s'.get? pid = s.get? pid) (pid : Pid) :
    s'.childOf? pid = if pid = parent then some s.nextPid else s.childOf? pid := by
  by_cases isParent : pid = parent
  · rw [if_pos isParent, isParent]
    unfold childOf?
    rw [waits]
    rfl
  · rw [if_neg isParent]
    by_cases isNew : pid = s.nextPid
    · rw [isNew, (links_of_not_live numbers.get?_nextPid).1]
      unfold childOf?
      rw [new]
      rfl
    · unfold childOf? kin?
      rw [others pid isNew isParent]

/-- After the launch of a child it has its parent, and all others have the parents they had. -/
theorem parentOf?_fathered {waiting : Executor} (found : s.get? parent = some waiting)
    (new : s'.kin? s.nextPid = some (some parent, none))
    (waits : s'.kin? parent = some (waiting.parent, some s.nextPid))
    (others : ∀ pid, pid ≠ s.nextPid → pid ≠ parent → s'.get? pid = s.get? pid) (pid : Pid) :
    s'.parentOf? pid = if pid = s.nextPid then some parent else s.parentOf? pid := by
  by_cases isNew : pid = s.nextPid
  · rw [if_pos isNew, isNew]
    unfold parentOf?
    rw [new]
    rfl
  · rw [if_neg isNew]
    by_cases isParent : pid = parent
    · rw [isParent, parentOf?_of_get? found]
      unfold parentOf?
      rw [waits]
      rfl
    · unfold parentOf? kin?
      rw [others pid isNew isParent]

/-- A new child of a script that had none. -/
theorem fathered {waiting : Executor} (h : Linked s) (numbers : s.Numbered)
    (found : s.get? parent = some waiting) (childless : waiting.child = none)
    (new : s'.kin? s.nextPid = some (some parent, none))
    (waits : s'.kin? parent = some (waiting.parent, some s.nextPid))
    (others : ∀ pid, pid ≠ s.nextPid → pid ≠ parent → s'.get? pid = s.get? pid) :
    Linked s' := by
  have less : parent.number < s.nextPid.number := numbers.lt_nextPid found
  have noChild : s.childOf? parent = none := (childOf?_of_get? found).trans childless
  have noParent : s.parentOf? s.nextPid = none := (links_of_not_live numbers.get?_nextPid).2
  have children := childOf?_fathered numbers new waits others
  have parents := parentOf?_fathered found new waits others
  constructor
  case paired =>
    intro p c
    rw [children, parents]
    by_cases isParent : p = parent
    · rw [if_pos isParent, isParent]
      -- the new link is the only one of the parent and of the child
      by_cases isNew : c = s.nextPid
      · simp [isNew]
      · rw [if_neg isNew, ← h.paired, noChild]
        simpa using Ne.symm isNew
    · rw [if_neg isParent]
      by_cases isNew : c = s.nextPid
      · rw [if_pos isNew, isNew, h.paired, noParent]
        simpa using Ne.symm isParent
      · rw [if_neg isNew]
        exact h.paired p c
  case older =>
    intro p c link
    rw [children] at link
    by_cases isParent : p = parent
    · rw [if_pos isParent] at link
      rw [isParent, ← Option.some.inj link]
      exact less
    · rw [if_neg isParent] at link
      exact h.older p c link

/-- A script that leaves is not its own parent. -/
theorem fatherless (h : Linked s) (departs : Departs s gone s') : gone.parent ≠ some gone.pid := by
  intro own
  have isChild : s.childOf? gone.pid = some gone.pid := by
    rw [h.paired]
    unfold parentOf?
    rw [departs.live]
    exact own
  exact Nat.lt_irrefl _ (h.older _ _ isChild)

/-- Whoever waits for a script that leaves is its parent. -/
theorem parent_of_childOf? (h : Linked s) (departs : Departs s gone s')
    (link : s.childOf? parent = some gone.pid) : gone.parent = some parent := by
  rw [h.paired] at link
  unfold parentOf? at link
  rwa [departs.live] at link

/-- Whoever has as its parent a script that leaves is its child. -/
theorem child_of_parentOf? (h : Linked s) (departs : Departs s gone s')
    (link : s.parentOf? child = some gone.pid) : gone.child = some child := by
  rw [← h.paired] at link
  unfold childOf? at link
  rwa [departs.live] at link

/-- The child of a script that leaves has it as its parent. -/
theorem parentOf?_of_child (h : Linked s) (departs : Departs s gone s')
    (link : gone.child = some child) : s.parentOf? child = some gone.pid := by
  rw [← h.paired]
  unfold childOf?
  rw [departs.live]
  exact link

/-- After a script has been removed nobody waits for it. -/
theorem childOf?_departed (h : Linked s) (departs : Departs s gone s') (pid : Pid) :
    s'.childOf? pid =
      if pid = gone.pid then none else (s.childOf? pid).filter fun other => other ≠ gone.pid := by
  by_cases isGone : pid = gone.pid
  · rw [if_pos isGone, isGone, (links_of_not_live departs.get?_self).1]
  · rw [if_neg isGone]
    have left := departs.get?_of_ne isGone
    cases found : s.get? pid with
    | none =>
      rw [found] at left
      rw [(links_of_not_live left).1, (links_of_not_live found).1]
      rfl
    | some ex =>
      rw [found] at left
      have own : ex.pid = pid := pid_of_get? found
      have isParent : ex.child = some gone.pid → gone.parent = some ex.pid := by
        intro link
        rw [own]
        exact h.parent_of_childOf? departs ((childOf?_of_get? found).trans link)
      rw [childOf?_of_get? left, childOf?_of_get? found, Executor.child_bereft]
      cases link : ex.child with
      | none => simp
      | some child =>
        by_cases same : child = gone.pid
        · simp [isParent (same ▸ link), same, Option.filter]
        · simp [Option.filter, same]

/-- After a script has been removed it is nobody's parent. -/
theorem parentOf?_departed (h : Linked s) (departs : Departs s gone s') (pid : Pid) :
    s'.parentOf? pid =
      if pid = gone.pid then none else (s.parentOf? pid).filter fun other => other ≠ gone.pid := by
  by_cases isGone : pid = gone.pid
  · rw [if_pos isGone, isGone, (links_of_not_live departs.get?_self).2]
  · rw [if_neg isGone]
    have left := departs.get?_of_ne isGone
    cases found : s.get? pid with
    | none =>
      rw [found] at left
      rw [(links_of_not_live left).2, (links_of_not_live found).2]
      rfl
    | some ex =>
      rw [found] at left
      have own : ex.pid = pid := pid_of_get? found
      have parentOf : s.parentOf? pid = ex.parent := parentOf?_of_get? found
      rw [parentOf?_of_get? left, parentOf, Executor.parent_bereft, own]
      cases link : ex.parent with
      | none => simp
      | some parent =>
        rw [link] at parentOf
        by_cases same : parent = gone.pid
        · rw [same] at parentOf
          simp [h.child_of_parentOf? departs parentOf, same, Option.filter]
        · have other : gone.child ≠ some pid := by
            intro isChild
            have own := h.parentOf?_of_child departs isChild
            rw [parentOf] at own
            exact same (Option.some.inj own)
          simp [Option.filter, same, other]

/-- After a script has been removed nobody is linked to it. -/
theorem departed (h : Linked s) (departs : Departs s gone s') : Linked s' := by
  constructor
  case paired =>
    intro p c
    rw [h.childOf?_departed departs, h.parentOf?_departed departs]
    by_cases goneParent : p = gone.pid
    · by_cases goneChild : c = gone.pid
      · simp [goneParent, goneChild]
      · simp [goneParent, goneChild, Option.filter_eq_some_iff]
    · by_cases goneChild : c = gone.pid
      · simp [goneParent, goneChild, Option.filter_eq_some_iff]
      · simp [goneParent, goneChild, Option.filter_eq_some_iff, h.paired]
  case older =>
    intro p c link
    rw [h.childOf?_departed departs] at link
    by_cases goneParent : p = gone.pid
    · rw [if_pos goneParent] at link
      exact absurd link (by simp)
    · rw [if_neg goneParent] at link
      exact h.older p c (Option.filter_eq_some_iff.mp link).1

/-- However the scripts are changed in a move, links stay mutual. -/
theorem shift (h : Linked s) (numbers : s.Numbered) (shift : Shift s s') : Linked s' := by
  cases shift with
  | same scripts => exact h.of_kin? fun pid => by unfold kin?; rw [scripts]
  | altered alters => exact h.altered alters
  | launched new others => exact h.launched numbers new others
  | fathered found childless new waits others =>
    exact h.fathered numbers found childless new waits others
  | departed departs => exact h.departed departs

end Linked

end Scheduler

/-- A script that is not live and whose number has been handed out is not launched again. -/
theorem Move.gone {m m' : Moment} {entries : List Entry} (move : Move m entries m')
    (sound : m.Sound) {pid : Pid} (old : pid.number < m.state.nextPid.number)
    (dead : m.state.get? pid = none) : m'.state.get? pid = none := by
  have ne : pid ≠ m.state.nextPid := fun same => Nat.lt_irrefl _ (same ▸ old)
  have still := (move.shift sound.numbers sound.indexed).live ne
  rw [dead] at still
  simpa using still

/-- An edit of a script keeps its links. -/
theorem Edit.kin_apply (edit : Edit) (ex : Executor) : (edit.apply ex).kin = ex.kin := by
  cases edit <;> rfl

/-- In every reachable state links between parents and children are mutual, and a child is younger
than its parent. -/
theorem Reachable.linked {config : SchedulerConfig} {engine : Option Engine} {s : Scheduler}
    (reached : Reachable config engine s) : Linked s := by
  have all := reached.keeps (P := fun m => m.Sound ∧ Linked m.state)
    ⟨Reachable.empty.sound, .empty config engine⟩ ?_ ?_
  · exact all.2
  · rintro m entries m' numbers move ⟨sound, linked⟩
    exact ⟨move.sound sound, linked.shift numbers (move.shift numbers sound.indexed)⟩
  · rintro s pid edit ex found ⟨sound, linked⟩
    have number : (edit.apply ex).pid = pid := (edit.seat_apply ex).2.trans (pid_of_get? found)
    have alters : Alters pid s (s.store (edit.apply ex)) :=
      .store found number (edit.kin_apply ex)
    exact ⟨sound.edit found edit, linked.shift sound.numbers (.altered alters)⟩

end ScriptScheduler
