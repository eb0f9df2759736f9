import Mathlib.Tactic.Tauto
import ScriptScheduler.Scheduler.Operation

/-!
# Looking up scripts

What the changes of single scripts do to `Scheduler.get?`, and the order in which scripts are
numbered: the live scripts stand in increasing order of their numbers, all below the next one.
-/

namespace ScriptScheduler

namespace Scheduler

variable {s : Scheduler} {pid : Pid} {ex : Executor} {f : Executor → Executor}

/-! ### Changes of single scripts -/

/-- A script is found under its own number. -/
theorem pid_of_get? (found : s.get? pid = some ex) : ex.pid = pid := by
  have := List.find?_some found
  simpa using this

/-- A script that is found is live. -/
theorem mem_of_get? (found : s.get? pid = some ex) : ex ∈ s.executors :=
  List.mem_of_find?_eq_some found

/-- Nothing happens when the script of a settled call is not live. -/
theorem completeExternal_of_not_live (dead : s.get? pid = none) (value : Val) :
    (s.completeExternal pid value).value.2 = s := by
  unfold completeExternal
  rw [dead]
  rfl

/-- Looking a script up reads the live scripts alone. -/
theorem get?_congr {s' : Scheduler} (same : s'.executors = s.executors) (pid : Pid) :
    s'.get? pid = s.get? pid := by
  unfold get?
  rw [same]

/-- A change that keeps the number of the script shows under this number only. -/
theorem get?_modify (keeps : ∀ ex, ex.pid = pid → (f ex).pid = pid) (other : Pid) :
    (s.modify pid f).get? other =
      if other = pid then (s.get? pid).map f else s.get? other := by
  have same : ((fun ex : Executor => decide (ex.pid = other)) ∘
      fun ex => if ex.pid = pid then f ex else ex) = fun ex => decide (ex.pid = other) := by
    funext ex
    by_cases h : ex.pid = pid
    · simp [h, keeps ex h]
    · simp [h]
  have moved : (s.modify pid f).get? other =
      (s.get? other).map fun ex => if ex.pid = pid then f ex else ex := by
    unfold get? modify
    rw [List.find?_map, same]
  rw [moved]
  cases found : s.get? other with
  | none =>
    by_cases h : other = pid
    · subst h
      simp [found]
    · simp [h]
  | some ex =>
    have number := pid_of_get? found
    by_cases h : other = pid
    · subst h
      simp [found, number]
    · simp [h, number]

/-- A changed script under its own number. -/
theorem get?_modify_self (keeps : ∀ ex, ex.pid = pid → (f ex).pid = pid) :
    (s.modify pid f).get? pid = (s.get? pid).map f := by
  rw [get?_modify keeps, if_pos rfl]

/-- The other scripts do not change. -/
theorem get?_modify_of_ne (keeps : ∀ ex, ex.pid = pid → (f ex).pid = pid) {other : Pid}
    (ne : other ≠ pid) : (s.modify pid f).get? other = s.get? other := by
  rw [get?_modify keeps, if_neg ne]

/-- A change that keeps the number of the script keeps the set of live scripts. -/
theorem isSome_get?_modify (keeps : ∀ ex, ex.pid = pid → (f ex).pid = pid) (other : Pid) :
    ((s.modify pid f).get? other).isSome = (s.get? other).isSome := by
  rw [get?_modify keeps]
  split
  · next same => rw [same, Option.isSome_map]
  · rfl

/-- A script whose thread is changed. -/
theorem get?_mapThread_self (g : Thread → Thread) :
    (s.modify pid fun ex => ex.mapThread g).get? pid =
      (s.get? pid).map fun ex => ex.mapThread g :=
  get?_modify_self (f := fun ex => ex.mapThread g) fun _ same => same

/-- The change of a thread leaves the other scripts alone. -/
theorem get?_mapThread_of_ne (g : Thread → Thread) {other : Pid} (ne : other ≠ pid) :
    (s.modify pid fun ex => ex.mapThread g).get? other = s.get? other :=
  get?_modify_of_ne (f := fun ex => ex.mapThread g) (fun _ same => same) ne

/-- A stored version of a live script is found under its number. -/
theorem get?_store_self {old : Executor} (found : s.get? ex.pid = some old) :
    (s.store ex).get? ex.pid = some ex := by
  unfold store
  rw [get?_modify_self (fun _ _ => rfl), found]
  rfl

/-- Storing a script leaves the others alone. -/
theorem get?_store_of_ne {other : Pid} (ne : other ≠ ex.pid) :
    (s.store ex).get? other = s.get? other :=
  get?_modify_of_ne (fun _ _ => rfl) ne

/-- The new version of a live script is found under the script's number. -/
theorem get?_store {new : Executor} (found : s.get? pid = some ex) (number : new.pid = pid) :
    (s.store new).get? pid = some new := by
  subst number
  exact get?_store_self found

/-- A forgotten script is not found. -/
theorem get?_erase_self : (s.erase pid).get? pid = none := by
  simp [get?, erase]

/-- Forgetting a script leaves the others alone. -/
theorem get?_erase_of_ne {other : Pid} (ne : other ≠ pid) :
    (s.erase pid).get? other = s.get? other := by
  unfold get? erase
  rw [List.find?_filter]
  congr 1
  funext ex
  by_cases h : ex.pid = other
  · simp [h, ne]
  · simp [h]

/-- There is nothing to change in a script that is not live. -/
theorem modify_of_not_live (dead : s.get? pid = none) : s.modify pid f = s := by
  have same : s.executors.map (fun ex => if ex.pid = pid then f ex else ex) =
      s.executors.map id := by
    refine List.map_congr_left fun ex live => if_neg fun own => ?_
    exact absurd (decide_eq_true own) (List.find?_eq_none.mp dead ex live)
  unfold modify
  rw [same, List.map_id]

/-- It does not matter how a script has changed that is forgotten. -/
theorem erase_modify (keeps : ∀ ex, ex.pid = pid → (f ex).pid = pid) :
    (s.modify pid f).erase pid = s.erase pid := by
  have same : (s.executors.map fun ex => if ex.pid = pid then f ex else ex).filter
      (fun ex => ex.pid ≠ pid) = s.executors.filter fun ex => ex.pid ≠ pid := by
    induction s.executors with
    | nil => rfl
    | cons ex rest ih =>
      rw [List.map_cons]
      by_cases own : ex.pid = pid
      · rw [if_pos own, List.filter_cons_of_neg (by simp [keeps ex own]),
          List.filter_cons_of_neg (by simp [own]), ih]
      · rw [if_neg own, List.filter_cons_of_pos (by simp [own]),
          List.filter_cons_of_pos (by simp [own]), ih]
  exact congrArg (fun executors => { s with executors := executors }) same

/-! ### Numbers -/

/-- The live scripts stand in increasing order of their numbers, all below the next one. -/
structure Numbered (s : Scheduler) : Prop where
  increasing : s.executors.Pairwise fun a b => a.pid.number < b.pid.number
  below : ∀ ex ∈ s.executors, ex.pid.number < s.nextPid.number

/-- In a list of scripts with increasing numbers every script is found under its number. -/
theorem Numbered.get?_of_mem (h : s.Numbered) (live : ex ∈ s.executors) :
    s.get? ex.pid = some ex := by
  unfold get?
  obtain ⟨before, after, split⟩ := List.append_of_mem live
  have increasing := h.increasing
  rw [split, List.pairwise_append] at increasing
  rw [split, List.find?_append]
  have absent : before.find? (fun other => decide (other.pid = ex.pid)) = none := by
    rw [List.find?_eq_none]
    intro other mem same
    have less := increasing.2.2 other mem ex (by simp)
    rw [of_decide_eq_true same] at less
    exact Nat.lt_irrefl _ less
  rw [absent]
  simp

/-- The number of a live script is below the next one. -/
theorem Numbered.lt_nextPid (h : s.Numbered) (found : s.get? pid = some ex) :
    pid.number < s.nextPid.number :=
  pid_of_get? found ▸ h.below ex (mem_of_get? found)

/-- Nothing changes if a live script is stored as it is. -/
theorem Numbered.store_self (h : s.Numbered) (found : s.get? pid = some ex) : s.store ex = s := by
  have same : s.executors.map (fun old => if old.pid = ex.pid then ex else old) =
      s.executors.map id := by
    refine List.map_congr_left ?_
    intro old live
    split
    · next number =>
      have own := h.get?_of_mem live
      rw [number, pid_of_get? found, found] at own
      exact Option.some.inj own
    · rfl
  change { s with executors := s.executors.map _ } = s
  rw [same, List.map_id]

/-- The next number is not taken. -/
theorem Numbered.get?_nextPid (h : s.Numbered) : s.get? s.nextPid = none := by
  cases found : s.get? s.nextPid with
  | none => rfl
  | some ex => exact absurd (h.lt_nextPid found) (Nat.lt_irrefl _)

/-- A new script is found under its number. -/
theorem get?_enroll_self (free : s.get? ex.pid = none) :
    (s.enroll ex).value.get? ex.pid = some ex := by
  unfold get? at free
  simp [get?, enroll, free]

/-- The other scripts are found as before. -/
theorem get?_enroll_of_ne {other : Pid} (ne : other ≠ ex.pid) :
    (s.enroll ex).value.get? other = s.get? other := by
  have h : ¬ ex.pid = other := fun same => ne same.symm
  simp [get?, enroll, h]

/-- A change that keeps numbers keeps their order. -/
theorem Numbered.modify (h : s.Numbered) (keeps : ∀ ex, ex.pid = pid → (f ex).pid = pid) :
    (s.modify pid f).Numbered := by
  have same : ∀ ex : Executor, (if ex.pid = pid then f ex else ex).pid = ex.pid := by
    intro ex
    by_cases hp : ex.pid = pid
    · simp [hp, keeps ex hp]
    · simp [hp]
  constructor
  · refine List.pairwise_map.mpr (h.increasing.imp ?_)
    intro a b less
    rwa [same a, same b]
  · intro ex mem
    obtain ⟨old, live, rfl⟩ := List.mem_map.mp mem
    rw [same old]
    exact h.below old live

/-- Storing a script keeps the order of the numbers. -/
theorem Numbered.store (h : s.Numbered) : (s.store ex).Numbered :=
  h.modify fun _ _ => rfl

/-- A new script gets the next number. -/
theorem Numbered.enroll (h : s.Numbered) (number : ex.pid = s.nextPid) :
    (s.enroll ex).value.Numbered := by
  constructor
  · refine List.pairwise_append.mpr ⟨h.increasing, List.pairwise_singleton _ _, ?_⟩
    intro a live b new
    rw [List.mem_singleton.mp new, number]
    exact h.below a live
  · intro a mem
    rcases List.mem_append.mp mem with live | new
    · exact Nat.lt_succ_of_lt (h.below a live)
    · rw [List.mem_singleton.mp new, number]
      exact Nat.lt_succ_self _

end Scheduler

end ScriptScheduler
