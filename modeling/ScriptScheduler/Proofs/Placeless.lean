import Mathlib.Data.List.Forall2
import ScriptScheduler.Proofs.Course
import ScriptScheduler.Scheduler.Operation

/-!
# States without places

Two scripts are akin if they are the same but for their places: where they are held, and whether
they are halted (`Executor.Akin`). Two states are akin if their scripts are, and if they are the
same aside from the scripts (`Scheduler.Akin`). To move a script from one place to another, to halt
it or to release it leads from a state to an akin state.
-/

namespace ScriptScheduler

/-! ### Scripts without places -/

namespace Executor

/-- A script without its place: it is neither held nor halted. -/
def placeless (ex : Executor) : Executor := { ex with halted := false }.mapThread Thread.detached

/-- Two scripts are akin if they are the same but for their places. -/
def Akin (a b : Executor) : Prop := a.placeless = b.placeless

/-- A script in another place. -/
def moved (ex : Executor) (halted : Bool) (timer : Option TimerKey) (list : HoldList) : Executor :=
  { ex with halted := halted, thread := { ex.thread with timer := timer, holdList := list } }

/-- A function of scripts that does not look at their places. -/
def Blind (f : Executor → Executor) : Prop :=
  ∀ ex halted timer list, (f ex).Akin (f (ex.moved halted timer list))

variable {a b : Executor} {f : Executor → Executor}

namespace Akin

/-- A script is akin to itself. -/
theorem refl (ex : Executor) : ex.Akin ex := rfl

/-- Of two akin scripts one is the other in another place. -/
theorem eq_moved (h : a.Akin b) : ∃ halted timer list, b = a.moved halted timer list := by
  refine ⟨b.halted, b.thread.timer, b.thread.holdList, ?_⟩
  change b.placeless.moved b.halted b.thread.timer b.thread.holdList = _
  rw [← show a.placeless = b.placeless from h]
  rfl

/-- What does not look at places leads from akin scripts to akin scripts. -/
theorem map (h : a.Akin b) (blind : Blind f) : (f a).Akin (f b) := by
  obtain ⟨halted, timer, list, rfl⟩ := h.eq_moved
  exact blind a halted timer list

/-- Akin scripts look the same to whoever does not look at places. -/
theorem view {α : Type} (h : a.Akin b) (view : Executor → α) :
    view a.placeless = view b.placeless :=
  congrArg view (show a.placeless = b.placeless from h)

/-- Akin scripts have the same number. -/
theorem pid (h : a.Akin b) : a.pid = b.pid := h.view Executor.pid

/-- Akin scripts have the same requests. -/
theorem requests (h : a.Akin b) : a.requests = b.requests := h.view Executor.requests

/-- The requests of akin scripts are replaced. -/
theorem withRequests (h : a.Akin b) (requests : Holder) :
    ({ a with requests := requests } : Executor).Akin { b with requests := requests } := by
  obtain ⟨halted, timer, list, rfl⟩ := h.eq_moved
  rfl

end Akin

/-- A script whose thread is changed beyond its place. -/
theorem blind_mapThread {g : Thread → Thread}
    (blind : ∀ t timer list,
      (g t).detached = (g { t with timer := timer, holdList := list }).detached) :
    Blind fun ex => ex.mapThread g := by
  intro ex halted timer list
  unfold Akin placeless mapThread
  dsimp only
  rw [blind ex.thread timer list]
  rfl

/-- A suspension does not look at places. -/
theorem blind_suspend (wake : Nat) : Blind fun ex => ex.suspend wake := by
  intro ex halted timer list
  have same : (ex.moved halted timer list).options = ex.options := rfl
  dsimp only [suspend]
  rw [same]
  split <;> rfl

/-- Room for an answer is made wherever the script is. -/
theorem blind_openResultSlot : Blind openResultSlot := by
  intro ex halted timer list
  have same : (ex.moved halted timer list).isEngine = ex.isEngine := rfl
  unfold openResultSlot
  rw [same]
  split <;> rfl

/-- A request is taken back wherever the script is. -/
theorem blind_takeBack : Blind fun ex => ex.closeResultSlot.revive := by
  intro ex halted timer list
  have same : (ex.moved halted timer list).isEngine = ex.isEngine := rfl
  dsimp only [closeResultSlot]
  rw [same]
  split <;> rfl

/-- A request is taken back from akin scripts, which leaves them the other requests. -/
theorem Akin.takenBack (h : a.Akin b) (requests : Holder) :
    ({ a with requests := requests } : Executor).closeResultSlot.revive.Akin
      ({ b with requests := requests } : Executor).closeResultSlot.revive :=
  Akin.map (f := fun ex => ex.closeResultSlot.revive) (h.withRequests requests) blind_takeBack

/-- The note of an outstanding call does not look at places. -/
theorem blind_setOutstanding (call : Option RequestId) :
    Blind fun ex => ex.mapThread fun t => t.setOutstanding call := by
  refine blind_mapThread ?_
  intro t timer list
  unfold Thread.setOutstanding
  dsimp only
  split <;> rfl

/-- The end of an engine call does not look at places. -/
theorem blind_finishEngine (value : Val) : Blind fun ex => ex.finishEngine value := by
  intro ex halted timer list
  let marked : Executor :=
    { ex with runtime := (ex.finishEngine value).runtime, result := some value }
  exact blind_setOutstanding none marked halted timer list

/-- The end of a script does not look at places. -/
theorem blind_clearEvents : Blind fun ex =>
    { ex.mapThread Thread.clearEvents with parent := none, child := none } := by
  intro ex halted timer list
  have cleared : Blind fun ex => ex.mapThread Thread.clearEvents := by
    refine blind_mapThread ?_
    intro t timer list
    unfold Thread.clearEvents
    dsimp only
    split <;> rfl
  exact cleared { ex with parent := none, child := none } halted timer list

/-- Edits do not look at places. -/
theorem blind_edit (edit : Edit) : Blind fun ex => edit.apply ex := by
  intro ex halted timer list
  cases edit with
  | setEventQueueSize size =>
    have resized : Blind fun ex => ex.mapThread fun t => t.setCapacity size := by
      refine blind_mapThread ?_
      intro t timer list
      unfold Thread.setCapacity
      dsimp only
      split <;> rfl
    exact resized { ex with options := { ex.options with eventQueueSize := size } } halted timer
      list
  | _ => rfl

end Executor

namespace Scheduler

/-! ### States without places -/

/-- A state without the places of its scripts. -/
def placeless (s : Scheduler) : Scheduler :=
  { s.aside with executors := s.executors.map Executor.placeless }

/-- Two states are akin if they are the same but for the places of the scripts. -/
def Akin (s t : Scheduler) : Prop := s.placeless = t.placeless

variable {s t u s' t' : Scheduler} {pid : Pid} {a b ex : Executor} {f g : Executor → Executor}

/-- Akin states have akin scripts and are the same aside from them. -/
theorem akin_iff :
    s.Akin t ↔ s.aside = t.aside ∧ List.Forall₂ Executor.Akin s.executors t.executors := by
  have scripts : List.Forall₂ Executor.Akin s.executors t.executors ↔
      s.executors.map Executor.placeless = t.executors.map Executor.placeless := by
    rw [← List.forall₂_eq_eq_eq, List.forall₂_map_left_iff, List.forall₂_map_right_iff]
    rfl
  rw [scripts]
  constructor
  · intro akin
    have same : s.placeless = t.placeless := akin
    have aside : s.placeless.aside = t.placeless.aside := congrArg aside same
    exact ⟨aside, congrArg executors same⟩
  · rintro ⟨aside, executors⟩
    unfold Akin placeless
    rw [aside, executors]

namespace Akin

/-- A state is akin to itself. -/
theorem refl (s : Scheduler) : s.Akin s := rfl

/-- Akin states are akin in both directions. -/
theorem symm (h : s.Akin t) : t.Akin s := Eq.symm h

/-- States that are akin to the same state are akin. -/
theorem trans (h : s.Akin t) (h' : t.Akin u) : s.Akin u := Eq.trans h h'

/-- States that are akin to akin states are akin. -/
theorem congr (h : s.Akin t) (left : s'.Akin s) (right : t'.Akin t) : s'.Akin t' :=
  left.trans (h.trans right.symm)

/-- Akin states look the same to whoever does not look at the scripts. -/
theorem view {α : Type} (h : s.Akin t) (view : Scheduler → α) : view s.aside = view t.aside :=
  congrArg view (akin_iff.mp h).1

/-- Akin states have the same configuration. -/
theorem config (h : s.Akin t) : s.config = t.config := h.view Scheduler.config

/-- Akin states have the same engine. -/
theorem engine (h : s.Akin t) : s.engine = t.engine := h.view Scheduler.engine

/-- Akin states have the same requests. -/
theorem requests (h : s.Akin t) : s.requests = t.requests := h.view Scheduler.requests

/-- Akin states that are changed aside from their scripts. -/
theorem besides (h : s.Akin t) (aside : s'.aside = t'.aside) (left : s'.executors = s.executors)
    (right : t'.executors = t.executors) : s'.Akin t' := by
  rw [akin_iff, left, right]
  exact ⟨aside, (akin_iff.mp h).2⟩

/-- The next number is handed out in akin states. -/
theorem issue (h : s.Akin t) : ({ s with issued := s.issued + 1 } : Scheduler).Akin
    { t with issued := t.issued + 1 } :=
  h.besides (h.view fun s => { s with issued := s.issued + 1 }) rfl rfl

/-- What is found in akin states under a number is akin. -/
theorem lookup (h : s.Akin t) (pid : Pid) : s.get? pid = none ∧ t.get? pid = none ∨
    ∃ a b, s.get? pid = some a ∧ t.get? pid = some b ∧ a.Akin b := by
  have scripts := (akin_iff.mp h).2
  unfold get?
  generalize s.executors = as, t.executors = bs at scripts
  induction scripts with
  | nil => exact .inl ⟨rfl, rfl⟩
  | @cons a b _ _ akin _ ih =>
    rw [List.find?_cons, List.find?_cons, akin.pid]
    by_cases same : b.pid = pid
    · simpa [same] using akin
    · simpa [same] using ih

/-- A script is changed in akin ways in akin states. -/
theorem modify (h : s.Akin t) (pid : Pid) (alike : ∀ a b, a.Akin b → (f a).Akin (g b)) :
    (s.modify pid f).Akin (t.modify pid g) := by
  obtain ⟨aside, scripts⟩ := akin_iff.mp h
  refine akin_iff.mpr ⟨aside, List.rel_map ?_ scripts⟩
  intro a b akin
  dsimp only
  rw [akin.pid]
  split
  · exact alike a b akin
  · exact akin

/-- Akin scripts are stored in akin states. -/
theorem store (h : s.Akin t) (akin : a.Akin b) : (s.store a).Akin (t.store b) := by
  unfold Scheduler.store
  rw [akin.pid]
  exact h.modify b.pid fun _ _ _ => akin

/-- A script is forgotten in akin states. -/
theorem erase (h : s.Akin t) (pid : Pid) : (s.erase pid).Akin (t.erase pid) := by
  obtain ⟨aside, scripts⟩ := akin_iff.mp h
  refine akin_iff.mpr ⟨aside, List.rel_filter ?_ scripts⟩
  intro a b akin
  simp only [akin.pid]

end Akin

/-! ### Places -/

/-- A script that changes its place only. -/
theorem akin_modify (f : Executor → Executor) (moves : ∀ ex, (f ex).Akin ex) :
    (s.modify pid f).Akin s := by
  refine akin_iff.mpr ⟨rfl, List.forall₂_map_left_iff.mpr (List.forall₂_same.mpr ?_)⟩
  intro ex _
  split
  · exact moves ex
  · exact .refl ex

/-- A script whose thread changes its place only. -/
theorem akin_mapThread (g : Thread → Thread) (moves : ∀ t, (g t).detached = t.detached) :
    (s.modify pid fun ex => ex.mapThread g).Akin s := by
  refine akin_modify _ fun ex => ?_
  unfold Executor.Akin Executor.placeless Executor.mapThread
  dsimp only
  rw [moves]

/-- A script that leaves its place. -/
theorem akin_detach (s : Scheduler) (pid : Pid) : (s.detach pid).Akin s := by
  unfold detach
  split
  · exact .refl s
  · have detached : (s.modify pid fun ex => ex.mapThread Thread.detached).Akin s :=
      akin_mapThread _ fun _ => rfl
    refine detached.besides aside_leaveHoldList ?_ rfl
    dsimp only [modify]
    rw [executors_leaveHoldList]

/-- A script that is made ready. -/
theorem akin_schedule (s : Scheduler) (pid : Pid) : (s.schedule pid).Akin s := by
  unfold schedule
  split
  · exact akin_detach s pid
  · exact .refl s

/-- A script that goes to sleep. -/
theorem akin_hold (s : Scheduler) (pid : Pid) : (s.hold pid).Akin s := by
  unfold hold
  split
  · exact .refl s
  · split
    · exact .refl s
    · split
      · exact (akin_mapThread (fun t => { t with holdList := .noTimeout }) fun _ => rfl).trans
          (akin_detach s pid)
      · next ex _ _ _ =>
        let key : TimerKey := ⟨ex.thread.sleepUntil, (s.detach pid).nextTimerSeq⟩
        exact (akin_mapThread (fun t => { t with timer := some key, holdList := .timeout })
          fun _ => rfl).trans (akin_detach s pid)

/-- A script that is parked for the debugger. -/
theorem akin_parkDebugger (s : Scheduler) (pid : Pid) : (s.parkDebugger pid).Akin s :=
  (akin_mapThread (fun t => { t with holdList := .debugger }) fun _ => rfl).trans (.refl s)

/-- A script that is handed to the engine. -/
theorem akin_parkExternal (s : Scheduler) (pid : Pid) : (s.parkExternal pid).Akin s :=
  (akin_mapThread (fun t => { t with holdList := .external }) fun _ => rfl).trans
    (akin_detach s pid)

/-- A halt changes the place of a script only. -/
theorem akin_halt (halted : s.halt pid = .ok s') : s'.Akin s := by
  obtain ⟨-, -, -, rfl⟩ := halt_ok halted
  refine (akin_parkDebugger _ pid).trans ?_
  exact (akin_modify (fun ex => { ex with halted := true }) fun _ => rfl).trans (akin_detach s pid)

/-- A release changes the place of a script only. -/
theorem akin_release (released : s.release pid = .ok s') : s'.Akin s := by
  have marked : (s.unhalted pid).Akin s :=
    (akin_modify (fun ex => { ex with halted := false }) fun _ => rfl).trans (akin_detach s pid)
  obtain ⟨-, ex, -, rfl⟩ := release_ok released
  split
  · exact (akin_hold _ pid).trans marked
  · exact (akin_schedule _ pid).trans marked

end Scheduler

end ScriptScheduler
