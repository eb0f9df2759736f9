import ScriptScheduler.Proofs.EngineCalls
import ScriptScheduler.Proofs.Runs

/-!
# Who calls the engine

Only engine scripts have engine calls, so the end of a call removes no bytecode script
(`Reachable.staffed`). As long as it has no turn, a bytecode script stays live until it is ended
from outside (`MoveBy.stays`).
-/

namespace ScriptScheduler

open Scheduler

/-! ### The scripts of calls -/

/-- The scripts with engine calls that are pending or have been found settled. -/
def Moment.callers (m : Moment) : List Pid :=
  m.state.calls.map PendingCall.pid ++ m.settled.map Completion.pid

/-- A script that enters the list of callers has an outstanding call. -/
theorem Deals.callers {m m' : Moment} (deals : Deals m m') {pid : Pid} (calls : pid ∈ m'.callers) :
    pid ∈ m.callers ∨ ∃ id, m'.state.outstanding? pid = some id := by
  unfold Moment.callers at *
  cases deals with
  | @engages s s' _ _ settled own engages =>
    rcases List.mem_append.mp calls with pending | done
    · obtain ⟨call, mem, rfl⟩ := List.mem_map.mp pending
      cases engages with
      | calm calm =>
        exact .inl (List.mem_append_left _ (List.mem_map_of_mem (calm.calls ▸ mem)))
      | forgets _ forgets =>
        have old : call ∈ s.calls := (List.mem_filter.mp (forgets.calls ▸ mem)).1
        exact .inl (List.mem_append_left _ (List.mem_map_of_mem old))
      | defers _ defers =>
        rcases mem_of_mem_insertCall (defers.calls ▸ mem) with rfl | old
        · exact .inr ⟨_, (defers.outstanding _).trans (if_pos rfl)⟩
        · exact .inl (List.mem_append_left _ (List.mem_map_of_mem old))
    · exact .inl (List.mem_append_right _ done)
  | @collect s =>
    -- what is collected goes from the one half of the list to the other
    refine .inl ?_
    rw [Moment.Bridged.pids_completions] at calls
    rw [List.map_nil, List.append_nil]
    rcases List.mem_append.mp calls with kept | done
    · exact List.map_subset _ (List.filter_subset_self _) kept
    · exact List.map_subset _ (List.filter_subset_self _) done
  | @complete s s' _ done settled ex _ forgets =>
    refine .inl ?_
    rw [forgets.calls] at calls
    rcases List.mem_append.mp calls with kept | rest
    · exact List.mem_append_left _ (List.map_subset _ (List.filter_subset_self _) kept)
    · exact List.mem_append_right _ (List.mem_cons_of_mem _ rest)
  | pass =>
    refine .inl ?_
    rcases List.mem_append.mp calls with kept | rest
    · exact List.mem_append_left _ kept
    · exact List.mem_append_right _ (List.mem_cons_of_mem _ rest)
  | @settleCall s _ settled id settlement =>
    have same : (s.settleCall id settlement).calls.map PendingCall.pid =
        s.calls.map PendingCall.pid := by
      unfold Scheduler.settleCall
      rw [List.map_map]
      refine List.map_congr_left ?_
      intro call _
      simp only [Function.comp]
      split <;> rfl
    rw [same] at calls
    exact .inl calls
  | takeExits => exact .inl calls

/-- Scripts are coherent, and only engine scripts have engine calls. -/
structure Moment.Staffed (m : Moment) : Prop where
  coherent : ∀ pid ex, m.state.get? pid = some ex → ex.Coherent
  known : ∀ pid ∈ m.callers, pid.number < m.state.nextPid.number
  engines : ∀ pid ∈ m.callers, ∀ ex, m.state.get? pid = some ex → ex.isEngine = true

/-- In a move only engine scripts call the engine. -/
theorem Move.staffed {m m' : Moment} {entries : List Entry} (move : Move m entries m')
    (sound : m.Sound) (h : m.Staffed) : m'.Staffed := by
  have coherent := move.coherent sound h.coherent
  have deals := move.deals sound.numbers h.coherent
  have numbers := (move.sound sound).numbers
  refine ⟨coherent, ?_, ?_⟩
  · intro pid calls
    rcases deals.callers calls with old | ⟨id, outstanding⟩
    · exact Nat.lt_of_lt_of_le (h.known pid old) move.counts.nextPid
    · obtain ⟨ex, found, -⟩ := live_of_outstanding? outstanding
      exact numbers.lt_nextPid found
  · intro pid calls ex live
    rcases deals.callers calls with old | ⟨id, outstanding⟩
    · cases was : m.state.get? pid with
      | none =>
        rw [move.gone sound (h.known pid old) was] at live
        exact absurd live (by simp)
      | some before => exact (move.kind sound was live).trans (h.engines pid old before was)
    · obtain ⟨own, found, call⟩ := live_of_outstanding? outstanding
      obtain rfl := Option.some.inj (found.symm.trans live)
      have fits := coherent pid own live
      exact fits.managed (fits.external.mp (by rw [call]; rfl))

/-- In every reachable state only engine scripts have engine calls. -/
theorem Reachable.staffed {config : SchedulerConfig} {engine : Option Engine} {s : Scheduler}
    (reached : Reachable config engine s) : Moment.Staffed ⟨s, [], []⟩ := by
  refine (reached.keeps (P := fun m => m.Sound ∧ m.Staffed) ⟨Reachable.empty.sound, ?_⟩ ?_ ?_).2
  · constructor <;> simp [Scheduler.empty, Moment.callers, get?]
  · exact fun _ _ _ _ move h => ⟨move.sound h.1, move.staffed h.1 h.2⟩
  · rintro s pid edit ex found ⟨sound, staffed⟩
    refine ⟨sound.edit found edit, ?_, staffed.known, ?_⟩
    · intro other ex' live
      obtain ⟨old, was, rfl | rfl⟩ := get?_edit found live
      · exact staffed.coherent other ex' was
      · exact (staffed.coherent other old was).edit edit
    · intro other calls ex' live
      obtain ⟨old, was, rfl | rfl⟩ := get?_edit found live
      · exact staffed.engines other calls ex' was
      · exact (edit.isEngine_apply old).trans (staffed.engines other calls old was)

/-! ### Who stays -/

/-- A bytecode script that has no turn in a move is live afterwards, unless the move ends it from
outside. -/
theorem MoveBy.stays {may : Act → Prop} {m m' : Moment} {entries : List Entry} {pid : Pid}
    {ex : Executor} (move : MoveBy may m entries m') (sound : m.Sound) (staffed : m.Staffed)
    (found : m.state.get? pid = some ex) (bytecode : ex.isEngine = false)
    (idle : may (.turn pid) → ex.thread.holdList ≠ .none)
    (kept : ∀ reason, ¬ may (.retire pid reason)) (safe : ¬ may (.handBack pid)) :
    (m'.state.get? pid).isSome = true := by
  have live : (m.state.get? pid).isSome = true := found ▸ rfl
  have same : m'.state.get? pid = m.state.get? pid → (m'.state.get? pid).isSome = true :=
    fun same => same ▸ live
  have altered : ∀ {other : Pid}, Alters other m.state m'.state →
      (m'.state.get? pid).isSome = true := fun alters => alters.isSome_get? pid ▸ live
  have left : ∀ {gone : Executor}, Departs m.state gone m'.state → pid ≠ gone.pid →
      (m'.state.get? pid).isSome = true := fun departs ne => departs.isSome_get? ne ▸ live
  cases move with
  | tell | tellEngine | takeBatch | skip | collect | settleCall | takeExits => exact live
  | start prepared =>
    exact same (get?_enroll_of_ne (apart_of_prepare sound.numbers prepared found))
  | startAway prepared =>
    exact same (get?_enroll_of_ne (apart_of_prepare sound.numbers prepared found))
  | @startChild s _ _ parent program ran launched =>
    obtain ⟨waiting, child, isParent, -, prepared, rfl⟩ := runScript_launched launched
    obtain ⟨-, waits, others⟩ := get?_awaitChild sound.numbers prepared isParent
    by_cases own : pid = parent
    · subst own
      exact Option.isSome_of_eq_some waits
    · exact same (others pid (apart_of_prepare sound.numbers prepared found) own)
  | @turn s _ _ other before ran _ _ isOther free runs allowed =>
    have apart : pid ≠ other := by
      rintro rfl
      obtain rfl := Option.some.inj (found.symm.trans isOther)
      exact idle allowed free
    obtain ⟨now, slice⟩ := runs.slice
    rcases Departs.turn isOther slice with alters | ⟨gone, number, departs⟩
    · exact altered alters
    · exact left departs (number ▸ apart)
  | @complete s _ done settled =>
    cases isDone : s.get? done.pid with
    | none => exact same (by rw [completeExternal_of_not_live isDone])
    | some other =>
      have departs := Departs.completeExternal (.of_same (fun _ => rfl) rfl) rfl isDone done.value
      refine left departs ?_
      rintro own
      -- the script of a settled call runs on the engine and is not the one that we follow
      have calls : done.pid ∈ s.calls.map PendingCall.pid ++ (done :: settled).map Completion.pid :=
        List.mem_append_right _ List.mem_cons_self
      have engine := staffed.engines done.pid calls other isDone
      have number : pid = done.pid := own.trans (show other.pid = done.pid from pid_of_get? isDone)
      subst number
      obtain rfl := Option.some.inj (found.symm.trans isDone)
      exact absurd (bytecode.symm.trans engine) (by decide)
  | signal => exact altered .signalEvent
  | halt halted => exact altered (.halt halted)
  | release released => exact altered (.release released)
  | @retire s _ _ other ex' isOther result reason allowed =>
    refine left (.retire isOther result reason) ?_
    rintro own
    have number : pid = other := own.trans (show ex'.pid = other from pid_of_get? isOther)
    exact kept reason (number ▸ allowed)
  | @deschedule s _ _ other allowed =>
    dsimp only [Scheduler.deschedule] at left live ⊢
    cases isOther : s.get? other with
    | none => exact live
    | some gone =>
      rw [isOther] at left
      refine left (.handedBack (pid_of_get? isOther ▸ isOther)) ?_
      rintro own
      have number : pid = other := own.trans (pid_of_get? isOther)
      exact safe (number ▸ allowed)
  | request => exact altered .register
  | resolve => exact altered (.resolve _)
  | @wake s _ _ _ _ other rest =>
    have taken : Alters other s { s with timeouts := rest } := .of_same (fun _ => rfl) rfl
    exact altered (taken.trans (.wake (sound.indexed.congr rfl fun _ => rfl)))

end ScriptScheduler
