import Mathlib.Logic.Relation
import ScriptScheduler.Proofs.RequestNumbers

/-!
# What a move does to a single script

In one move a script changes in one of a few ways (`Executor.Change`): it has a turn, it is sent an
event, an answer or the result of its child, its clock has come, it is halted or released, it makes
a request or waits for a child, or its parent is removed. Every script that is live after a move
was live before and has changed in such ways, or it has just been launched (`Move.evolves`). What
holds of new scripts and is kept by all changes therefore holds of all scripts of every reachable
state.
-/

namespace ScriptScheduler

namespace Executor

/-- A script whose pending requests have been aborted and that has been made ready. -/
def dismissed (ex : Executor) (requests : Holder) : Executor :=
  { ex with
    requests := requests
    thread := ex.thread.revive.freed
    stack := if ex.isEngine then ex.stack else .sentinel :: ex.stack.tail }

/-- A sleeper whose clock has come: its pending requests are aborted and it becomes ready. -/
def timedOut (ex : Executor) : Executor :=
  { ex with
    requests := .empty
    thread := ex.thread.detached.revive
    sleepCycles := ex.sleepCycles + 1
    stack := if ex.requests.isEmpty || ex.isEngine then ex.stack else .sentinel :: ex.stack.tail }

/-- The ways in which a script changes in a move. After the move the scripts of which `gone` says
so are no longer live; `wrapped` says that numbers of requests may have been used again, and `may`
which acts the move may be. -/
inductive ChangeBy (gone : Pid → Prop) (wrapped : Prop) (may : Act → Prop) :
    Executor → Executor → Prop
  /-- It has a turn and is preempted. -/
  | preempted {ex ran : Executor} {now : Nat} {limit : Option Nat}
      (free : ex.thread.holdList = .none) (slice : Slice now limit ex ran .preempted)
      (allowed : may (.turn ex.pid)) :
      ChangeBy gone wrapped may ex ran
  /-- It has a turn and blocks. -/
  | slept {ex ran : Executor} {now : Nat} {limit : Option Nat}
      (free : ex.thread.holdList = .none) (slice : Slice now limit ex ran .blocked) (seq : Nat)
      (allowed : may (.turn ex.pid)) :
      ChangeBy gone wrapped may ex (ran.mapThread (Thread.held seq))
  /-- It has a turn and stops for the debugger. -/
  | stopped {ex ran : Executor} {now : Nat} {limit : Option Nat}
      (free : ex.thread.holdList = .none) (slice : Slice now limit ex ran .halted)
      (allowed : may (.turn ex.pid)) :
      ChangeBy gone wrapped may ex (ran.mapThread fun t => { t with holdList := .debugger })
  /-- It has its turn on the engine and its call is deferred. -/
  | called {ex : Executor} (free : ex.thread.holdList = .none) (engine : ex.isEngine = true)
      (id : RequestId) (allowed : may (.turn ex.pid)) :
      ChangeBy gone wrapped may ex ({ ex with stack := [] }.mapThread fun t =>
        { t.detached with holdList := .external }.setOutstanding (some id))
  /-- An event waits in its queue. -/
  | queued {ex : Executor} {event : Val} {thread : Thread} (busy : ex.awaitsEvent = false)
      (posted : ex.thread.post event = .ok thread) (allowed : may (.signal ex.pid)) :
      ChangeBy gone wrapped may ex { ex with thread := thread }
  /-- The event for which it waits comes. -/
  | woken {ex : Executor} (awaits : ex.awaitsEvent = true) (event : Val)
      (allowed : may (.signal ex.pid)) :
      ChangeBy gone wrapped may ex ((ex.setResultSlot event).revive.mapThread Thread.freed)
  /-- One of its requests is answered or aborted. -/
  | answered {ex : Executor} {kind : RequestKind} {id : RequestId}
      (asked : id ∈ ex.requests.queue kind) (value : Val) (allowed : may (.answer value)) :
      ChangeBy gone wrapped may ex
        (({ ex with requests := ex.requests.remove kind id }.answered value).mapThread Thread.freed)
  /-- Its clock has come. -/
  | timedOut {ex : Executor} (sleeps : ex.thread.holdList = .timeout)
      (allowed : may .expire) :
      ChangeBy gone wrapped may ex ex.timedOut
  /-- Its child is gone and it gets the child's result. -/
  | resumed {ex : Executor} {child : Pid} (link : ex.child = some child) (ended : gone child)
      (result : Val) :
      ChangeBy gone wrapped may ex
        (({ ex with child := none }.setResultSlot result).revive.mapThread Thread.freed)
  /-- Its parent is gone. -/
  | orphaned {ex : Executor} : ChangeBy gone wrapped may ex { ex with parent := none }
  /-- It is halted from outside. -/
  | halted {ex : Executor} (mine : ex.thread.holdList ≠ .external) :
      ChangeBy gone wrapped may ex ({ ex with halted := true }.mapThread fun t =>
        { t.detached with holdList := .debugger })
  /-- It is released and sleeps on. -/
  | releasedBlocked {ex : Executor} (parked : ex.thread.holdList = .debugger)
      (blocked : ex.isBlocked = true) (seq : Nat) (allowed : may (.release ex.pid)) :
      ChangeBy gone wrapped may ex
        ({ ex with halted := false }.mapThread fun t => t.detached.held seq)
  /-- It is released and becomes ready. -/
  | released {ex : Executor} (parked : ex.thread.holdList = .debugger)
      (free : ex.isBlocked = false) (allowed : may (.release ex.pid)) :
      ChangeBy gone wrapped may ex ({ ex with halted := false }.mapThread Thread.detached)
  /-- It makes a request. -/
  | requested {ex : Executor} {kind : RequestKind} {id : RequestId} {holder : Holder}
      (able : ex.mayAsk = true) (added : ex.requests.add? kind id = some holder)
      (wake seq : Nat) (allowed : may (.ask ex.pid)) :
      ChangeBy gone wrapped may ex
        ({ (ex.suspend wake).openResultSlot with requests := holder }.mapThread (Thread.held seq))
  /-- A request that it has made is taken back. -/
  | takenBack {ex : Executor} (able : ex.mayAsk = true) (used : wrapped)
      (allowed : may (.ask ex.pid)) :
      ChangeBy gone wrapped may ex ex.revive
  /-- It waits for a child. -/
  | awaited {ex : Executor} (able : Scheduler.childRefusal? ex = none) (child : Pid) (seq : Nat)
      (allowed : may (.adopt ex.pid)) :
      ChangeBy gone wrapped may ex
        ((({ ex with child := some child }.push .sentinel).suspend Clock.never).mapThread
          (Thread.held seq))

/-- The ways in which a script changes in a move of any kind. -/
abbrev Change (gone : Pid → Prop) (wrapped : Prop) : Executor → Executor → Prop :=
  ChangeBy gone wrapped fun _ => True

/-- A change of a certain kind is a change. -/
theorem ChangeBy.any {gone : Pid → Prop} {wrapped : Prop} {may : Act → Prop} {a b : Executor}
    (change : ChangeBy gone wrapped may a b) : Change gone wrapped a b := by
  cases change with
  | preempted free slice => exact .preempted free slice trivial
  | slept free slice seq => exact .slept free slice seq trivial
  | stopped free slice => exact .stopped free slice trivial
  | called free engine id => exact .called free engine id trivial
  | queued busy posted => exact .queued busy posted trivial
  | woken awaits event => exact .woken awaits event trivial
  | answered asked value => exact .answered asked value trivial
  | timedOut sleeps => exact .timedOut sleeps trivial
  | resumed link ended result => exact .resumed link ended result
  | orphaned => exact .orphaned
  | halted mine => exact .halted mine
  | releasedBlocked parked blocked seq => exact .releasedBlocked parked blocked seq trivial
  | released parked free => exact .released parked free trivial
  | requested able added wake seq => exact .requested able added wake seq trivial
  | takenBack able used => exact .takenBack able used trivial
  | awaited able child seq => exact .awaited able child seq trivial

/-- The answer to an aborted request dismisses the script. -/
theorem dismissed_eq (ex : Executor) (requests : Holder) :
    ({ ex with requests := requests }.answered .sentinel).mapThread Thread.freed =
      ex.dismissed requests := by
  have same : { ex with requests := requests }.isEngine = ex.isEngine := rfl
  unfold answered dismissed
  rw [same]
  split <;> rfl

/-- To be revived and freed twice is to be revived and freed. -/
theorem revive_freed_twice (t : Thread) : t.revive.freed.revive.freed = t.revive.freed := by
  unfold Thread.freed Thread.revive Thread.detached
  cases t.holdList <;> rfl

/-- To be dismissed twice is to be dismissed. -/
theorem dismissed_dismissed (ex : Executor) (first second : Holder) :
    (ex.dismissed first).dismissed second = ex.dismissed second := by
  have same : (ex.dismissed first).isEngine = ex.isEngine := rfl
  unfold dismissed at *
  rw [same]
  dsimp only
  rw [revive_freed_twice]
  split <;> rfl

/-- Changes one after the other. -/
abbrev ChangesBy (gone : Pid → Prop) (wrapped : Prop) (may : Act → Prop) :
    Executor → Executor → Prop :=
  Relation.ReflTransGen (ChangeBy gone wrapped may)

/-- Changes of any kind, one after the other. -/
abbrev Changes (gone : Pid → Prop) (wrapped : Prop) : Executor → Executor → Prop :=
  ChangesBy gone wrapped fun _ => True

/-- A script that has just been launched, by its parent if it has one. -/
def Launched (ex : Executor) : Prop :=
  ∃ s program options new parent, Scheduler.prepare s program options = .ok new ∧
    ex = { new with parent := parent }

/-- What all changes keep is kept by changes one after the other. -/
theorem ChangesBy.keeps {gone : Pid → Prop} {wrapped : Prop} {may : Act → Prop}
    {P : Executor → Prop} {ex ex' : Executor} (changes : ChangesBy gone wrapped may ex ex')
    (step : ∀ a b, ChangeBy gone wrapped may a b → P a → P b) (start : P ex) : P ex' := by
  induction changes with
  | refl => exact start
  | tail _ change ih => exact step _ _ change ih

/-- What all changes of any kind keep is kept by changes one after the other. -/
theorem Changes.keeps {gone : Pid → Prop} {wrapped : Prop} {P : Executor → Prop} {ex ex' : Executor}
    (changes : Changes gone wrapped ex ex')
    (step : ∀ a b, Change gone wrapped a b → P a → P b) (start : P ex) : P ex' :=
  ChangesBy.keeps changes step start

end Executor

namespace Scheduler

variable {s s₁ s₂ : Scheduler} {pid : Pid} {ex : Executor} {gone : Pid → Prop} {wrapped : Prop}
  {may : Act → Prop}

open Executor (ChangeBy ChangesBy Launched)

/-- Every script of `s'` was live in `s` and has changed in the ways of a move. -/
def Evolves (gone : Pid → Prop) (wrapped : Prop) (may : Act → Prop) (s s' : Scheduler) : Prop :=
  ∀ pid ex', s'.get? pid = some ex' →
    ∃ ex, s.get? pid = some ex ∧ ChangesBy gone wrapped may ex ex'

namespace Evolves

/-- Scripts that stay as they are. -/
theorem of_get? (same : ∀ pid ex, s₁.get? pid = some ex → s.get? pid = some ex) :
    Evolves gone wrapped may s s₁ :=
  fun pid ex found => ⟨ex, same pid ex found, .refl⟩

/-- Scripts that change twice. -/
theorem trans (h₁ : Evolves gone wrapped may s s₁) (h₂ : Evolves gone wrapped may s₁ s₂) :
    Evolves gone wrapped may s s₂ := by
  intro pid ex' found
  obtain ⟨mid, live, changes⟩ := h₂ pid ex' found
  obtain ⟨ex, was, before⟩ := h₁ pid mid live
  exact ⟨ex, was, before.trans changes⟩

/-- A single script that changes. -/
theorem of_change {ex' : Executor} (found : s.get? pid = some ex)
    (change : ChangeBy gone wrapped may ex ex') (self : s₁.get? pid = some ex')
    (others : ∀ other, other ≠ pid → s₁.get? other = s.get? other) :
    Evolves gone wrapped may s s₁ := by
  intro other ex₁ live
  by_cases same : other = pid
  · subst same
    rw [self] at live
    obtain rfl := Option.some.inj live
    exact ⟨ex, found, .single change⟩
  · exact ⟨ex₁, others other same ▸ live, .refl⟩

/-- A script that is stored anew and made ready. -/
theorem of_store_schedule {new : Executor} (found : s.get? pid = some ex) (number : new.pid = pid)
    (change : ChangeBy gone wrapped may ex (new.mapThread Thread.freed)) :
    Evolves gone wrapped may s ((s.store new).schedule pid) := by
  refine of_change found change ?_ ?_
  · rw [get?_schedule_self, get?_store found number]
    rfl
  · intro other ne
    rw [get?_schedule_of_ne _ ne, get?_store_of_ne (number ▸ ne)]

/-- A script that is stored anew and put to sleep. -/
theorem of_store_hold {new : Executor} (found : s.get? pid = some ex) (number : new.pid = pid)
    (change : ChangeBy gone wrapped may ex (new.mapThread (Thread.held s.nextTimerSeq))) :
    Evolves gone wrapped may s ((s.store new).hold pid) := by
  refine of_change found change ?_ ?_
  · rw [get?_hold_self, get?_store found number]
    rfl
  · intro other ne
    rw [get?_hold_of_ne _ ne, get?_store_of_ne (number ▸ ne)]

/-- A script that is stored anew. -/
theorem of_store {new : Executor} (found : s.get? pid = some ex) (number : new.pid = pid)
    (change : ChangeBy gone wrapped may ex new) : Evolves gone wrapped may s (s.store new) :=
  of_change found change (get?_store found number) fun _ ne => get?_store_of_ne (number ▸ ne)

/-- A script that is gone in the end may have changed before. -/
theorem of_gone (dead : s₂.get? pid = none)
    (others : ∀ other, other ≠ pid → s₁.get? other = s.get? other)
    (h : Evolves gone wrapped may s₁ s₂) : Evolves gone wrapped may s s₂ := by
  intro other ex' live
  have ne : other ≠ pid := by
    rintro rfl
    rw [dead] at live
    exact absurd live (by simp)
  obtain ⟨ex, was, changes⟩ := h other ex' live
  exact ⟨ex, others other ne ▸ was, changes⟩

/-! ### Removal -/

/-- A parent that gets the result of its child, which is gone. -/
theorem resumeParent {parent child : Pid} (ended : gone child) (result : Val) :
    Evolves gone wrapped may s (s.resumeParent parent child result) := by
  unfold Scheduler.resumeParent
  split
  · exact .of_get? fun _ _ live => live
  · next ex found =>
    split
    · next link =>
      have number : ex.pid = parent := pid_of_get? found
      exact .of_store_schedule found number (.resumed link ended result)
    · exact .of_get? fun _ _ live => live

/-- A child whose parent is gone. -/
theorem orphan {child : Option Pid} : Evolves gone wrapped may s (s.orphan child) := by
  unfold Scheduler.orphan
  split
  · exact .of_get? fun _ _ live => live
  · next child =>
    cases found : s.get? child with
    | none =>
      refine .of_get? ?_
      intro pid ex live
      rw [get?_modify (f := fun ex => { ex with parent := none }) fun _ same => same] at live
      split at live
      · rw [found] at live
        exact absurd live (by simp)
      · exact live
    | some ex =>
      refine .of_change found .orphaned ?_ ?_
      · rw [get?_modify_self (f := fun ex => { ex with parent := none }) fun _ same => same, found]
        rfl
      · intro other ne
        exact get?_modify_of_ne (f := fun ex => { ex with parent := none }) (fun _ same => same) ne

/-- A script that is removed: its child is orphaned and its parent gets its result. -/
theorem remove (ended : gone ex.pid) : Evolves gone wrapped may s (s.remove ex).value.2 := by
  rw [remove_state]
  have left : Evolves gone wrapped may s
      ({ (s.detach ex.pid).erase ex.pid with
        requests := dropFromTable ex.requests.ids s.requests }.forgetCalls ex.pid) := by
    refine .of_get? ?_
    intro other ex' live
    change ((s.detach ex.pid).erase ex.pid).get? other = some ex' at live
    by_cases same : other = ex.pid
    · rw [same, get?_erase_self] at live
      exact absurd live (by simp)
    · rwa [get?_erase_of_ne same, get?_detach_of_ne s same] at live
  have orphaned := left.trans (orphan : Evolves gone wrapped may _ (Scheduler.orphan _ ex.child))
  refine orphaned.trans ?_
  unfold Scheduler.notifyParent
  split
  · exact .of_get? fun _ _ live => live
  · exact resumeParent ended _

/-- A script that is retired. -/
theorem retire {reason : ExitReason} (ended : gone ex.pid) :
    Evolves gone wrapped may s (s.retire ex reason).value.2 := by
  rw [retire_state]
  exact remove ended

/-- A removed script is gone. -/
theorem get?_remove_self (s : Scheduler) (ex : Executor) :
    (s.remove ex).value.2.get? ex.pid = none := by
  rw [remove_state]
  refine (follows_orphan.trans follows_notifyParent).gone ?_
  exact get?_erase_self

/-- A retired script is gone. -/
theorem get?_retire_self (s : Scheduler) (ex : Executor) (reason : ExitReason) :
    (s.retire ex reason).value.2.get? ex.pid = none := by
  rw [retire_state]
  exact get?_remove_self s ex

/-! ### Engine calls -/

/-- An engine script whose call is done is gone. -/
theorem get?_completeExternal_self (s : Scheduler) (pid : Pid) (value : Val) :
    (s.completeExternal pid value).value.2.get? pid = none := by
  unfold Scheduler.completeExternal
  cases found : s.get? pid with
  | none => exact found
  | some ex =>
    have number : ex.pid = pid := pid_of_get? found
    have dead := get?_retire_self
      { s.store (ex.finishEngine value) with external := s.external.erase pid }
      (ex.finishEngine value) (if value.isError then .faulted else .finished)
    have same : (ex.finishEngine value).pid = pid := number
    rw [same] at dead
    exact dead

/-- An engine script whose call is done is retired. -/
theorem completeExternal (ended : gone pid) (value : Val) :
    Evolves gone wrapped may s (s.completeExternal pid value).value.2 := by
  have dead := get?_completeExternal_self s pid value
  unfold Scheduler.completeExternal at dead ⊢
  cases found : s.get? pid with
  | none => exact .of_get? fun _ _ live => live
  | some ex =>
    have number : ex.pid = pid := pid_of_get? found
    rw [found] at dead
    refine of_gone dead ?_ (retire (number.symm ▸ ended))
    intro other ne
    exact get?_store_of_ne (number.symm ▸ ne)

/-- A script that calls the engine is gone afterwards, or its call is pending. -/
theorem invoke {old : Executor} {function : FunctionRef} {id : RequestId}
    (was : s.get? ex.pid = some old) (found : s₁.get? ex.pid = some ex)
    (others : ∀ other, other ≠ ex.pid → s₁.get? other = s.get? other)
    (change : ChangeBy gone wrapped may old
      ({ ex with stack := [] }.mapThread fun t => t.setOutstanding (some id)))
    (ended : (s₁.invoke ex function id).value.2.get? ex.pid = none → gone ex.pid) :
    Evolves gone wrapped may s (s₁.invoke ex function id).value.2 := by
  have cleared : (s₁.store { ex with stack := [] }).get? ex.pid = some { ex with stack := [] } :=
    get?_store found rfl
  have clearedOthers : ∀ other, other ≠ ex.pid →
      (s₁.store { ex with stack := [] }).get? other = s.get? other := by
    intro other ne
    rw [← others other ne]
    exact get?_store_of_ne ne
  rcases invoke_state s₁ ex function id with ⟨value, eq⟩ | ⟨value, eq⟩ | ⟨settlement, eq⟩
  · rw [eq] at ended ⊢
    have dead := get?_completeExternal_self s₁ ex.pid value
    exact of_gone dead others (completeExternal (ended dead) value)
  · rw [eq] at ended ⊢
    have dead := get?_completeExternal_self (s₁.store { ex with stack := [] }) ex.pid value
    exact of_gone dead clearedOthers (completeExternal (ended dead) value)
  · rw [eq]
    refine of_change was change (get?_store cleared rfl) fun other ne => ?_
    rw [← clearedOthers other ne]
    exact get?_store_of_ne ne

/-- A script that goes to the engine. -/
theorem runExternal (found : s.get? pid = some ex) (free : ex.thread.holdList = .none)
    (engine : ex.isEngine = true) (turns : may (.turn pid))
    (ended : (s.runExternal pid).value.2.get? pid = none → gone pid) :
    Evolves gone wrapped may s (s.runExternal pid).value.2 := by
  obtain rfl : ex.pid = pid := pid_of_get? found
  have parked := get?_parkExternal_self s ex.pid
  rw [found] at parked
  obtain ⟨function, named⟩ := function?_of_isEngine engine
  rw [runExternal_eq parked named] at ended ⊢
  exact invoke found parked (fun other ne => get?_parkExternal_of_ne s ne)
    (.called free engine _ turns) ended

/-! ### Slices -/

/-- A script that has a turn. -/
theorem turn {ran : Executor} {now : Nat} {limit : Option Nat} {outcome : SliceOutcome}
    (found : s.get? pid = some ex) (free : ex.thread.holdList = .none)
    (slice : Executor.Slice now limit ex ran outcome) (turns : may (.turn pid))
    (ended : ((s.store ran).settle ran outcome).value.2.get? pid = none → gone pid) :
    Evolves gone wrapped may s ((s.store ran).settle ran outcome).value.2 := by
  have number : ran.pid = pid := slice.carries.pid.trans (pid_of_get? found)
  have own : may (.turn ex.pid) := (pid_of_get? found).symm ▸ turns
  have others : ∀ other, other ≠ pid → (s.store ran).get? other = s.get? other :=
    fun other ne => get?_store_of_ne (number.symm ▸ ne)
  have retired : ∀ last : Executor, last.pid = pid → ∀ reason,
      ((s.store ran).settle ran outcome).value.2 = ((s.store ran).retire last reason).value.2 →
      Evolves gone wrapped may s ((s.store ran).settle ran outcome).value.2 := by
    intro last same reason eq
    have dead := get?_retire_self (s.store ran) last reason
    rw [same, ← eq] at dead
    have gone := ended dead
    rw [eq] at dead ⊢
    exact of_gone dead others (retire (same.symm ▸ gone))
  have after := settle_state (s.store ran) ran outcome
  cases outcome with
  | preempted =>
    rw [after]
    exact of_change found (.preempted free slice own) (get?_store found number) others
  | blocked =>
    rw [after, number]
    exact of_store_hold found number (.slept free slice _ own)
  | halted =>
    rw [after, number]
    refine of_change found (.stopped free slice own) ?_ ?_
    · rw [get?_parkDebugger_self, get?_store found number]
      rfl
    · intro other ne
      rw [get?_parkDebugger_of_ne _ ne, others other ne]
  | external =>
    have engine := slice.isEngine
    obtain ⟨-, rfl⟩ := slice.of_isEngine engine
    rw [after, number] at ended ⊢
    have kept : ∀ other, (s.store ran).get? other = s.get? other := by
      intro other
      by_cases same : other = pid
      · rw [same, get?_store found number, found]
      · exact others other same
    have ran : Evolves gone wrapped may (s.store ran) _ :=
      runExternal (get?_store found number) free engine turns ended
    intro other ex' live
    obtain ⟨mid, was, changes⟩ := ran other ex' live
    exact ⟨mid, kept other ▸ was, changes⟩
  | finished => exact retired ran number _ after
  | faulted cause =>
    obtain ⟨result, reason, eq⟩ := after
    exact retired { ran with result := some result } number reason eq
  | runaway =>
    obtain ⟨result, reason, eq⟩ := after
    exact retired { ran with result := some result } number reason eq

/-! ### Requests -/

/-- A script one of whose requests is resolved. -/
theorem resolve {request : Request} (indexed : Indexed s)
    (pending : request ∈ s.requests.pending) (value : Option Val)
    (answers : may (.answer (value.getD .sentinel))) :
    Evolves gone wrapped may s (s.resolve request value).value := by
  obtain ⟨ex, found⟩ := Option.isSome_iff_exists.mp (indexed.live pending)
  have own : ex.pid = request.pid := pid_of_get? found
  obtain ⟨ex', found', asked⟩ := (indexed.mem_queue request.id request.pid request.kind).mp
    ⟨request, pending, rfl, rfl, rfl⟩
  obtain rfl := Option.some.inj (found.symm.trans found')
  rw [resolve_eq found]
  refine of_store_schedule (s := { s with requests := s.requests.take request }) found ?_
    (.answered asked _ answers)
  unfold Executor.answered
  split <;> exact own

/-- A script that makes a request. -/
theorem register {entity : EntityId} {kind : RequestKind} {wake : Nat} {callback : Callback}
    (indexed : Indexed s) (new : ¬ wrapped → Fresh s ∧ s.Unwrapped)
    (asks : may (.ask pid)) :
    Evolves gone wrapped may s (s.register pid entity kind wake callback).value.2 := by
  have made := registered s pid entity kind wake callback
  generalize (s.register pid entity kind wake callback).value.1 = id at made
  generalize (s.register pid entity kind wake callback).value.2 = after at made ⊢
  cases made with
  | refused => exact .of_get? fun _ _ live => live
  | @takenBack ex found able clash =>
    have own : ex.pid = pid := pid_of_get? found
    have used : wrapped := by
      by_contra unused
      obtain ⟨fresh, unwrapped⟩ := new unused
      obtain ⟨added, inserted⟩ := (fresh.numberUnused unwrapped).not_taken_back indexed found
      rcases clash with clash | clash
      · rw [clash] at added
        exact absurd added (by decide)
      · rw [clash] at inserted
        exact absurd inserted (by decide)
    exact of_store (s := { s with issued := s.issued + 1 }) found own
      (.takenBack able used (own.symm ▸ asks))
  | @asked ex holder table found able added =>
    have own : ex.pid = pid := pid_of_get? found
    refine of_store_hold (s := { s with issued := s.issued + 1, requests := table }) found ?_
      (.requested able added wake _ (own.symm ▸ asks))
    unfold Executor.openResultSlot Executor.suspend
    split <;> split <;> exact own

/-! ### Control -/

/-- A script that is sent an event. -/
theorem signalEvent {event : Val} (signals : may (.signal pid)) :
    Evolves gone wrapped may s (s.signalEvent pid event).value.2 := by
  unfold Scheduler.signalEvent
  split
  · exact .of_get? fun _ _ live => live
  · next ex found =>
    have own : ex.pid = pid := pid_of_get? found
    unfold Executor.signalEvent
    by_cases awaits : ex.awaitsEvent = true
    · rw [if_pos awaits]
      exact of_store_schedule found own (.woken awaits event (own.symm ▸ signals))
    · rw [if_neg awaits]
      cases posted : ex.thread.post event with
      | error cause => exact .of_get? fun _ _ live => live
      | ok thread =>
        have busy : ex.awaitsEvent = false := by simpa using awaits
        exact of_store found own (.queued busy posted (own.symm ▸ signals))

/-- A script that is halted is parked for the debugger, and no other script is changed. -/
theorem get?_halt (halted : s.halt pid = .ok s₁) :
    ∃ ex, s.get? pid = some ex ∧ ex.thread.holdList ≠ .external ∧
      s₁.get? pid = some ({ ex with halted := true }.mapThread fun t =>
        { t.detached with holdList := .debugger }) ∧
      ∀ other, other ≠ pid → s₁.get? other = s.get? other := by
  obtain ⟨ex, found, mine, rfl⟩ := halt_ok halted
  refine ⟨ex, found, mine, ?_, ?_⟩
  · rw [get?_parkDebugger_self, get?_modify_self (f := fun ex => { ex with halted := true })
      fun _ same => same, get?_detach_self, found]
    rfl
  · intro other ne
    rw [get?_parkDebugger_of_ne _ ne,
      get?_modify_of_ne (f := fun ex => { ex with halted := true }) (fun _ same => same) ne,
      get?_detach_of_ne _ ne]

/-- A script that is halted. -/
theorem halt (halted : s.halt pid = .ok s₁) : Evolves gone wrapped may s s₁ := by
  obtain ⟨ex, found, mine, self, others⟩ := get?_halt halted
  exact of_change found (.halted mine) self others

/-- A script that is no longer halted, and its place. -/
theorem get?_unhalted_self (s : Scheduler) (pid : Pid) : (s.unhalted pid).get? pid =
    (s.get? pid).map fun ex => { ex with halted := false }.mapThread Thread.detached := by
  have detached := get?_detach_self s pid
  unfold unhalted
  rw [get?_modify_self (f := fun ex => { ex with halted := false }) fun _ same => same, detached,
    Option.map_map]
  rfl

/-- The other scripts stay as they are when a script is no longer halted. -/
theorem get?_unhalted_of_ne (s : Scheduler) {other : Pid} (ne : other ≠ pid) :
    (s.unhalted pid).get? other = s.get? other :=
  (get?_modify_of_ne (f := fun ex => { ex with halted := false }) (fun _ same => same) ne).trans
    (get?_detach_of_ne s ne)

/-- A live script in the list of the debugger is released: it sleeps on if it is blocked, and
becomes ready if not. -/
theorem release_eq (found : s.get? pid = some ex) (listed : pid ∈ s.debugger) : s.release pid =
    .ok (if ex.isBlocked then (s.unhalted pid).hold pid else (s.unhalted pid).schedule pid) := by
  have freed := get?_unhalted_self s pid
  rw [found] at freed
  unfold unhalted at freed
  unfold Scheduler.release
  rw [if_pos (List.contains_iff_mem.mpr listed)]
  dsimp only
  rw [freed]
  rfl

/-- A script that is released was parked for the debugger; it sleeps on if it is blocked, and no
other script is changed. -/
theorem get?_release {away : List Pid} (placed : Placed away s)
    (released : s.release pid = .ok s₁) :
    ∃ ex, s.get? pid = some ex ∧ ex.thread.holdList = .debugger ∧
      (∃ seq, s₁.get? pid = some ({ ex with halted := false }.mapThread fun t =>
        if ex.isBlocked then t.detached.held seq else t.detached)) ∧
      ∀ other, other ≠ pid → s₁.get? other = s.get? other := by
  obtain ⟨listed, -⟩ := release_ok released
  have list := (placed.debugger pid).mp listed
  cases found : s.get? pid with
  | none =>
    rw [seat_of_not_live found] at list
    exact absurd list (by simp [Seat.free])
  | some ex =>
    rw [seat_of_get? found] at list
    have freed := get?_unhalted_self s pid
    rw [found] at freed
    obtain rfl := Except.ok.inj ((release_eq found listed).symm.trans released)
    refine ⟨ex, rfl, list, ?_, ?_⟩
    · cases blocked : ex.isBlocked with
      | true =>
        refine ⟨(s.unhalted pid).nextTimerSeq, ?_⟩
        rw [if_pos rfl, get?_hold_self, freed]
        rfl
      | false =>
        refine ⟨0, ?_⟩
        rw [if_neg (by decide), get?_schedule_self, freed]
        rfl
    · intro other ne
      split
      · rw [get?_hold_of_ne _ ne, get?_unhalted_of_ne s ne]
      · rw [get?_schedule_of_ne _ ne, get?_unhalted_of_ne s ne]

/-- A script that is released. -/
theorem release {away : List Pid} (placed : Placed away s) (released : s.release pid = .ok s₁)
    (releases : may (.release pid)) : Evolves gone wrapped may s s₁ := by
  obtain ⟨ex, found, parked, ⟨seq, self⟩, others⟩ := get?_release placed released
  have own : may (.release ex.pid) := (pid_of_get? found).symm ▸ releases
  cases blocked : ex.isBlocked with
  | true =>
    rw [blocked] at self
    exact of_change found (.releasedBlocked parked blocked seq own) self others
  | false =>
    rw [blocked] at self
    exact of_change found (.released parked blocked own) self others

/-! ### Waking -/

/-- An aborted request leaves its script dismissed and the other scripts as they are. -/
theorem abortRequest_get? {request : Request} (indexed : Indexed s)
    (pending : request ∈ s.requests.pending) (found : s.get? request.pid = some ex) :
    (s.abortRequest request.id).value.2 = (s.resolve request none).value ∧
      (s.abortRequest request.id).value.2.get? request.pid =
        some (ex.dismissed (ex.requests.remove request.kind request.id)) ∧
      ∀ other, other ≠ request.pid →
        (s.abortRequest request.id).value.2.get? other = s.get? other := by
  have number : ({ ex with requests := ex.requests.remove request.kind request.id }.answered
      .sentinel).pid = request.pid := by
    have own : ex.pid = request.pid := pid_of_get? found
    unfold Executor.answered
    split <;> exact own
  have eq : (s.abortRequest request.id).value.2 = (s.resolve request none).value := by
    unfold Scheduler.abortRequest
    rw [indexed.table.unhandled?_of_mem pending]
    rfl
  refine ⟨eq, ?_, ?_⟩
  · rw [eq, resolve_eq found, Option.getD_none, get?_schedule_self,
      get?_store (s := { s with requests := s.requests.take request }) found number]
    exact congrArg some (Executor.dismissed_eq ex _)
  · intro other ne
    rw [eq, resolve_eq found, get?_schedule_of_ne _ ne]
    exact get?_store_of_ne (number.symm ▸ ne)

/-- A pending request that is aborted is no longer pending, and the others remain in their order. -/
theorem pending_abortRequest {request : Request} (indexed : Indexed s)
    (pending : request ∈ s.requests.pending) :
    (s.abortRequest request.id).value.1 = true ∧
      (s.abortRequest request.id).value.2.requests.pending =
        s.requests.pending.filter fun r => r.id ≠ request.id := by
  obtain ⟨ex, found⟩ := Option.isSome_iff_exists.mp (indexed.live pending)
  unfold abortRequest
  rw [indexed.table.unhandled?_of_mem pending]
  refine ⟨rfl, ?_⟩
  change (s.resolve request none).value.requests.pending = _
  rw [resolve_eq found, requests_of_aside aside_schedule]
  rfl

/-- Requests with other numbers are pending after the abort of a request. -/
theorem mem_abortRequest {request r : Request} {ids : List RequestId} (indexed : Indexed s)
    (pending : request ∈ s.requests.pending) (new : request.id ∉ ids)
    (live : r ∈ s.requests.pending) (mem : r.id ∈ ids) :
    r ∈ (s.abortRequest request.id).value.2.requests.pending := by
  rw [(pending_abortRequest indexed pending).2, List.mem_filter]
  exact ⟨live, by simpa using fun same : r.id = request.id => new (same ▸ mem)⟩

/-- After requests have been aborted none of them is pending, their owners are dismissed, and no
other script is changed. -/
theorem abortEach_get? (ids : List RequestId) :
    ∀ {s : Scheduler}, Indexed s → (∀ id ∈ ids, ∃ r ∈ s.requests.pending, r.id = id) → ids.Nodup →
      (abortEach ids s).value.2.requests.pending =
          s.requests.pending.filter (fun r => r.id ∉ ids) ∧
        (∀ r ∈ s.requests.pending, r.id ∈ ids → ∀ ex, s.get? r.pid = some ex →
          ∃ requests, (abortEach ids s).value.2.get? r.pid = some (ex.dismissed requests)) ∧
        ∀ pid, (∀ r ∈ s.requests.pending, r.id ∈ ids → r.pid ≠ pid) →
          (abortEach ids s).value.2.get? pid = s.get? pid := by
  induction ids with
  | nil =>
    exact fun _ _ _ => ⟨by simp [abortEach], fun _ _ mem => absurd mem List.not_mem_nil,
      fun _ _ => rfl⟩
  | cons id rest ih =>
    intro s indexed asked nodup
    obtain ⟨request, pending, rfl⟩ := asked id List.mem_cons_self
    obtain ⟨new, nodup⟩ := List.nodup_cons.mp nodup
    obtain ⟨owner, found⟩ := Option.isSome_iff_exists.mp (indexed.live pending)
    obtain ⟨eq, self, others⟩ := abortRequest_get? indexed pending found
    obtain ⟨-, left⟩ := pending_abortRequest indexed pending
    have stays : ∀ r ∈ s.requests.pending, r.id ∈ rest →
        r ∈ (s.abortRequest request.id).value.2.requests.pending :=
      fun r live mem => mem_abortRequest indexed pending new live mem
    obtain ⟨pending', owners', others'⟩ := ih (eq ▸ indexed.resolve pending) (fun id mem => by
      obtain ⟨r, live, rfl⟩ := asked id (List.mem_cons_of_mem _ mem)
      exact ⟨r, stays r live mem, rfl⟩) nodup
    have wasPending : ∀ r ∈ (s.abortRequest request.id).value.2.requests.pending,
        r ∈ s.requests.pending := fun r live => (List.mem_filter.mp (left ▸ live)).1
    change (abortEach rest (s.abortRequest request.id).value.2).value.2.requests.pending = _ ∧
      (∀ r ∈ s.requests.pending, r.id ∈ request.id :: rest → ∀ ex, s.get? r.pid = some ex →
        ∃ requests, (abortEach rest (s.abortRequest request.id).value.2).value.2.get? r.pid =
          some (ex.dismissed requests)) ∧
      ∀ pid, (∀ r ∈ s.requests.pending, r.id ∈ request.id :: rest → r.pid ≠ pid) →
        (abortEach rest (s.abortRequest request.id).value.2).value.2.get? pid = s.get? pid
    refine ⟨?_, ?_, ?_⟩
    · rw [pending', left, List.filter_filter]
      refine List.filter_congr ?_
      intro r _
      by_cases same : r.id = request.id <;> simp [same]
    · intro r live mem ex owns
      by_cases again : ∃ later ∈ s.requests.pending, later.id ∈ rest ∧ later.pid = r.pid
      · obtain ⟨later, live, mem, same⟩ := again
        rw [← same] at owns ⊢
        by_cases own : later.pid = request.pid
        · rw [own] at owns ⊢
          obtain rfl := Option.some.inj (found.symm.trans owns)
          obtain ⟨requests, after⟩ := owners' later (stays later live mem) mem _ (own ▸ self)
          exact ⟨requests, own ▸ after.trans (congrArg some (Executor.dismissed_dismissed ..))⟩
        · exact owners' later (stays later live mem) mem ex ((others _ own).trans owns)
      · have isFirst : r.id = request.id := by
          rcases List.mem_cons.mp mem with same | mem
          · exact same
          · exact absurd ⟨r, live, mem, rfl⟩ again
        obtain rfl := Holder.eq_of_id indexed.table.nodup live pending isFirst
        obtain rfl := Option.some.inj (found.symm.trans owns)
        rw [others' r.pid fun later live mem same => again ⟨later, wasPending later live, mem, same⟩]
        exact ⟨_, self⟩
    · intro pid apart
      rw [others' pid fun r live mem => apart r (wasPending r live) (List.mem_cons_of_mem _ mem)]
      exact others pid (apart request pending List.mem_cons_self).symm

/-- A script with an empty holder has no requests. -/
theorem requests_eq_empty (indexed : Indexed s) (found : s.get? pid = some ex)
    (none : ex.requests.isEmpty = true) : ex.requests = .empty := by
  rw [← holderOf_of_get? found, indexed.owners] at none ⊢
  rw [Holder.isEmpty_ofRequests, List.isEmpty_iff] at none
  rw [none]
  rfl

/-- A script whose requests are all aborted is dismissed and has no pending requests any more; no
other script is changed. -/
theorem abortOwn_get? (indexed : Indexed s) (found : s.get? pid = some ex)
    (asked : ex.requests.isEmpty = false) :
    (abortEach ex.requests.ids s).value.2.get? pid = some (ex.dismissed .empty) ∧
      ∀ other, other ≠ pid →
        (abortEach ex.requests.ids s).value.2.get? other = s.get? other := by
  have holder : ex.requests = .ofRequests (s.ownedBy pid) := by
    rw [← holderOf_of_get? found, indexed.owners]
  have owned : ∀ id ∈ ex.requests.ids, ∃ r ∈ s.requests.pending, r.id = id ∧ r.pid = pid := by
    intro id mem
    rw [holder] at mem
    obtain ⟨r, owns, same⟩ := Holder.mem_ids_ofRequests.mp mem
    obtain ⟨pending, mine⟩ := List.mem_filter.mp owns
    exact ⟨r, pending, same, of_decide_eq_true mine⟩
  have nodup : ex.requests.ids.Nodup := by
    rw [holder]
    exact Holder.nodup_ids_ofRequests
      (indexed.table.nodup.sublist ((List.filter_sublist ..).map _))
  obtain ⟨pending, owners, others⟩ := abortEach_get? ex.requests.ids indexed
    (fun id mem => (owned id mem).imp fun r mine => ⟨mine.1, mine.2.1⟩) nodup
  obtain ⟨first, held⟩ := List.exists_mem_of_ne_nil _
    (mt List.isEmpty_iff.mpr (Bool.eq_false_iff.mp asked))
  obtain ⟨requests, self⟩ : ∃ requests,
      (abortEach ex.requests.ids s).value.2.get? pid = some (ex.dismissed requests) := by
    obtain ⟨r, live, rfl, rfl⟩ := owned first held
    exact owners r live held ex found
  -- nothing is pending for the script any more
  have rest : requests = .empty := by
    have left := (indexed.abortEach ex.requests.ids).owners pid
    rw [holderOf_of_get? self] at left
    have none : (abortEach ex.requests.ids s).value.2.ownedBy pid = [] := by
      unfold ownedBy
      rw [pending, List.filter_filter, List.filter_eq_nil_iff]
      intro r live
      rw [Bool.and_eq_true]
      rintro ⟨mine, kept⟩
      have dropped : r.id ∈ ex.requests.ids := by
        rw [holder]
        exact Holder.mem_ids_ofRequests.mpr ⟨r, List.mem_filter.mpr ⟨live, mine⟩, rfl⟩
      exact absurd dropped (of_decide_eq_true kept)
    rw [none] at left
    exact left
  refine ⟨rest ▸ self, fun other ne => others other ?_⟩
  intro r' live' held' same
  obtain ⟨mine, pending', eq, own⟩ := owned r'.id held'
  rw [Holder.eq_of_id indexed.table.nodup pending' live' eq] at own
  exact ne (same.symm.trans own)

/-- A sleeper that is woken, and no other script, is changed. -/
theorem wake_get? (indexed : Indexed s) (found : s.get? pid = some ex) :
    (s.wake pid).value.get? pid = some ex.timedOut ∧
      ∀ other, other ≠ pid → (s.wake pid).value.get? other = s.get? other := by
  have own : ex.pid = pid := pid_of_get? found
  let up := { ex.mapThread Thread.detached with sleepCycles := ex.sleepCycles + 1 }
  have number : up.pid = pid := own
  unfold Scheduler.wake
  rw [found]
  dsimp only
  split
  · next none =>
    have empty : ex.requests.isEmpty = true := none
    have stored : (s.store up.revive).get? pid = some up.revive := get?_store found number
    have woken : up.revive.mapThread Thread.freed = ex.timedOut := by
      unfold Executor.timedOut
      rw [empty, ← requests_eq_empty indexed found empty]
      rfl
    refine ⟨?_, ?_⟩
    · rw [← woken]
      exact (get?_schedule_self _ pid).trans (congrArg (Option.map _) stored)
    · intro other ne
      exact (get?_schedule_of_ne _ ne).trans (get?_store_of_ne (number.symm ▸ ne))
  · next asked =>
    have nonempty : up.requests.isEmpty = false := by
      simpa [Holder.isEmpty] using asked
    have live : s.get? ex.pid = some ex := own.symm ▸ found
    have stored : (s.store up).get? pid = some up := get?_store found number
    have indexed' : Indexed (s.store up) := indexed.congr rfl (holderOf_store live rfl rfl)
    obtain ⟨self, others⟩ := abortOwn_get? indexed' stored nonempty
    have woken : (up.dismissed .empty).mapThread Thread.freed = ex.timedOut := by
      have nonempty : ex.requests.isEmpty = false := nonempty
      unfold Executor.dismissed Executor.timedOut
      rw [nonempty]
      rfl
    refine ⟨?_, ?_⟩
    · rw [← woken]
      exact (get?_schedule_self _ pid).trans (congrArg (Option.map _) self)
    · intro other ne
      exact (get?_schedule_of_ne _ ne).trans
        ((others other ne).trans (get?_store_of_ne (number.symm ▸ ne)))

/-- The first sleeper whose clock has come. -/
theorem wake {away : List Pid} {key : TimerKey} {rest : List (TimerKey × Pid)}
    (placed : Placed away s) (indexed : Indexed s) (first : s.timeouts = (key, pid) :: rest)
    (expires : may .expire) :
    Evolves gone wrapped may s ({ s with timeouts := rest }.wake pid).value := by
  have timer : (s.seat pid).timer = some key :=
    (placed.timeouts pid key).mp (by rw [first]; exact List.mem_cons_self)
  have list : (s.seat pid).list = .timeout := (placed.timer_iff pid).mp (by rw [timer]; rfl)
  cases found : s.get? pid with
  | none =>
    rw [seat_of_not_live found] at timer
    exact absurd timer (by simp [Seat.free])
  | some ex =>
    rw [seat_of_get? found] at list
    have taken : Indexed { s with timeouts := rest } := indexed.congr rfl fun _ => rfl
    obtain ⟨self, others⟩ := wake_get? taken found
    exact of_change found (.timedOut list expires) self others

end Evolves

/-! ### Launching -/

/-- The number of a prepared script is not taken. -/
theorem get?_of_prepare {program : Program} {options : Options} (numbers : s.Numbered)
    (prepared : s.prepare program options = .ok ex) : s.get? ex.pid = none :=
  pid_of_prepare prepared ▸ numbers.get?_nextPid

/-- A script that is live is not the one that is prepared. -/
theorem apart_of_prepare {child : Executor} {program : Program} {options : Options}
    (numbers : s.Numbered) (prepared : s.prepare program options = .ok child)
    (found : s.get? pid = some ex) : pid ≠ child.pid := by
  rintro rfl
  rw [get?_of_prepare numbers prepared] at found
  exact absurd found (by simp)

/-- After a launch every script was live before or is the new one. -/
theorem get?_enroll_cases {program : Program} {options : Options} (numbers : s.Numbered)
    (prepared : s.prepare program options = .ok ex) {ex' : Executor}
    (live : (s.enroll ex).value.get? pid = some ex') :
    s.get? pid = some ex' ∨ s.get? pid = none ∧ Launched ex' := by
  have new := get?_of_prepare numbers prepared
  by_cases same : pid = ex.pid
  · rw [same, get?_enroll_self new] at live
    obtain rfl := Option.some.inj live
    exact .inr ⟨same ▸ new, s, program, options, ex, ex.parent, prepared, rfl⟩
  · rw [get?_enroll_of_ne same] at live
    exact .inl live

/-- After the launch of a child its parent waits for it and the other scripts are unchanged. -/
theorem get?_awaitChild {parent : Pid} {waiting : Executor} (numbers : s.Numbered)
    {program : Program} {options : Options} (prepared : s.prepare program options = .ok ex)
    (found : s.get? parent = some waiting) :
    ((s.enroll ex).value.awaitChild parent ex.pid).get? ex.pid =
        some { ex with parent := some parent } ∧
      ((s.enroll ex).value.awaitChild parent ex.pid).get? parent =
        some ((({ waiting with child := some ex.pid }.push .sentinel).suspend
          Clock.never).mapThread (Thread.held s.nextTimerSeq)) ∧
      ∀ other, other ≠ ex.pid → other ≠ parent →
        ((s.enroll ex).value.awaitChild parent ex.pid).get? other = s.get? other := by
  have new := get?_of_prepare numbers prepared
  have apart : parent ≠ ex.pid := apart_of_prepare numbers prepared found
  let linked := (s.enroll ex).value.modify ex.pid fun ex => { ex with parent := some parent }
  let wait : Executor → Executor := fun old =>
    ({ old with child := some ex.pid }.push .sentinel).suspend Clock.never
  have keeps : ∀ old : Executor, old.pid = parent → (wait old).pid = parent := by
    intro old same
    unfold wait Executor.suspend
    split <;> exact same
  have eq : (s.enroll ex).value.awaitChild parent ex.pid =
      (linked.modify parent wait).hold parent := rfl
  have linkedSelf : linked.get? ex.pid = some { ex with parent := some parent } := by
    refine (get?_modify_self (f := fun ex => { ex with parent := some parent })
      fun _ same => same).trans ?_
    rw [get?_enroll_self new]
    rfl
  have linkedOther : ∀ other, other ≠ ex.pid → linked.get? other = s.get? other := by
    intro other ne
    refine (get?_modify_of_ne (f := fun ex => { ex with parent := some parent })
      (fun _ same => same) ne).trans ?_
    rw [get?_enroll_of_ne ne]
  rw [eq]
  refine ⟨?_, ?_, ?_⟩
  · rw [get?_hold_of_ne _ apart.symm, get?_modify_of_ne keeps apart.symm, linkedSelf]
  · rw [get?_hold_self, get?_modify_self keeps, linkedOther parent apart, found]
    rfl
  · intro other ne ne'
    rw [get?_hold_of_ne _ ne', get?_modify_of_ne keeps ne', linkedOther other ne]

end Scheduler

open Scheduler

/-- Every script that is live after a move was live before and has changed in the ways of the move,
or it has just been launched. -/
theorem MoveBy.evolves {may : Act → Prop} {m m' : Moment} {entries : List Entry} {wrapped : Prop}
    (move : MoveBy may m entries m') (numbers : m.state.Numbered) (placed : Placed m.away m.state)
    (indexed : Indexed m.state) (new : ¬ wrapped → Fresh m.state ∧ m.state.Unwrapped)
    {pid : Pid} {ex' : Executor} (live : m'.state.get? pid = some ex') :
    (∃ ex, m.state.get? pid = some ex ∧
        Executor.ChangesBy (fun other => m'.state.get? other = none) wrapped may ex ex') ∨
      (m.state.get? pid = none ∧ Executor.Launched ex') := by
  have old : Evolves (fun other => m'.state.get? other = none) wrapped may m.state m'.state →
      (∃ ex, m.state.get? pid = some ex ∧
        Executor.ChangesBy (fun other => m'.state.get? other = none) wrapped may ex ex') ∨
      (m.state.get? pid = none ∧ Executor.Launched ex') :=
    fun evolves => .inl (evolves pid ex' live)
  cases move with
  | tell => exact old (.of_get? fun _ _ live => live)
  | tellEngine => exact old (.of_get? fun _ _ live => live)
  | start prepared =>
    rcases get?_enroll_cases numbers prepared live with was | new
    · exact .inl ⟨ex', was, .refl⟩
    · exact .inr new
  | @startChild s _ _ parent program ran launched allowed =>
    obtain ⟨waiting, child, found, able, prepared, eq⟩ := runScript_eq launched
    obtain ⟨self, waits, others⟩ := get?_awaitChild numbers prepared found
    dsimp only at live
    rw [eq] at live
    change ((s.enroll child).value.awaitChild parent child.pid).get? pid = some ex' at live
    -- the child is new, the parent has begun to wait, all others are as before
    by_cases isChild : pid = child.pid
    · rw [isChild, self] at live
      obtain rfl := Option.some.inj live
      exact .inr ⟨isChild ▸ get?_of_prepare numbers prepared, s, program, _, child, some parent,
        prepared, rfl⟩
    · by_cases isParent : pid = parent
      · rw [isParent, waits] at live
        obtain rfl := Option.some.inj live
        exact .inl ⟨waiting, isParent ▸ found, .single (.awaited able child.pid s.nextTimerSeq
          (pid_of_get? found ▸ allowed))⟩
      · rw [others pid isChild isParent] at live
        exact .inl ⟨ex', live, .refl⟩
  | startAway prepared =>
    rcases get?_enroll_cases numbers prepared live with was | new
    · exact .inl ⟨ex', was, .refl⟩
    · exact .inr new
  | takeBatch => exact old (.of_get? fun _ _ live => live)
  | skip => exact old (.of_get? fun _ _ live => live)
  | turn found free runs allowed =>
    obtain ⟨now, slice⟩ := runs.slice
    exact old (.turn found free slice allowed fun dead => dead)
  | collect => exact old (.of_get? fun _ _ live => live)
  | complete => exact old (.completeExternal (Evolves.get?_completeExternal_self _ _ _) _)
  | settleCall => exact old (.of_get? fun _ _ live => live)
  | signal _ _ allowed => exact old (.signalEvent allowed)
  | halt halted => exact old (.halt halted)
  | release released allowed => exact old (.release placed released allowed)
  | retire found result reason => exact old (.retire (Evolves.get?_retire_self _ _ _))
  | @deschedule s _ _ pid =>
    refine old ?_
    dsimp only [Scheduler.deschedule]
    cases found : s.get? pid with
    | none => exact .of_get? fun _ _ live => live
    | some ex => exact .remove (Evolves.get?_remove_self s ex)
  | request _ _ _ _ _ allowed => exact old (.register indexed new allowed)
  | resolve pending value allowed =>
    have found := RequestTable.get?_of_unhandled? pending
    exact old (.resolve indexed (RequestTable.mem_of_get? found).1 value allowed)
  | wake first _ allowed => exact old (.wake placed indexed first allowed)
  | takeExits => exact old (.of_get? fun _ _ live => live)

/-- Every script that is live after a move of any kind was live before and has changed in the ways of
a move, or it has just been launched. -/
theorem Move.evolves {m m' : Moment} {entries : List Entry} {wrapped : Prop}
    (move : Move m entries m') (numbers : m.state.Numbered) (placed : Placed m.away m.state)
    (indexed : Indexed m.state) (new : ¬ wrapped → Fresh m.state ∧ m.state.Unwrapped)
    {pid : Pid} {ex' : Executor} (live : m'.state.get? pid = some ex') :
    (∃ ex, m.state.get? pid = some ex ∧
        Executor.Changes (fun other => m'.state.get? other = none) wrapped ex ex') ∨
      (m.state.get? pid = none ∧ Executor.Launched ex') :=
  MoveBy.evolves move numbers placed indexed new live

/-! ### Sound moments -/

/-- What holds of every moment of a run: its scripts are numbered in order, its hold lists are in
order, the views of its pending requests agree, and numbers of requests are new until they start
again. -/
structure Moment.Sound (m : Moment) : Prop where
  numbers : m.state.Numbered
  placed : Placed m.away m.state
  indexed : Indexed m.state
  fresh : m.state.Unwrapped → Fresh m.state

/-- Moves lead from sound moments to sound moments. -/
theorem Move.sound {m m' : Moment} {entries : List Entry} (move : Move m entries m')
    (h : m.Sound) : m'.Sound where
  numbers := move.numbered h.numbers
  placed := move.placed h.numbers h.placed
  indexed := move.indexed h.numbers h.indexed
  fresh unwrapped := by
    have before : m.state.Unwrapped := Nat.lt_of_le_of_lt move.counts.issued unwrapped
    exact move.fresh h.indexed before (h.fresh before)

/-- An edit of a single script leaves a moment sound. -/
theorem Moment.Sound.edit {s : Scheduler} {pid : Pid} {ex : Executor} (h : Moment.Sound ⟨s, [], []⟩)
    (found : s.get? pid = some ex) (edit : Edit) :
    Moment.Sound ⟨s.store (edit.apply ex), [], []⟩ := by
  have live : s.get? ex.pid = some ex := pid_of_get? found ▸ found
  obtain ⟨seat, number⟩ := edit.seat_apply ex
  constructor
  · exact h.numbers.store
  · exact h.placed.store_of_get? live number seat
  · exact h.indexed.congr rfl (holderOf_store live number (edit.requests_apply ex))
  · exact fun unwrapped => thins_store.fresh (h.fresh unwrapped)

/-- Every reachable state is a sound moment. -/
theorem Reachable.sound {config : SchedulerConfig} {engine : Option Engine} {s : Scheduler}
    (reached : Reachable config engine s) : Moment.Sound ⟨s, [], []⟩ :=
  ⟨reached.numbered, reached.placed, reached.indexed, reached.fresh⟩

/-- What holds of launched scripts and is kept by all changes and by all edits holds of every live
script of a reachable state. -/
theorem Reachable.scripts {config : SchedulerConfig} {engine : Option Engine} {s : Scheduler}
    {wrapped : Prop} {P : Executor → Prop} (reached : Reachable config engine s)
    (new : ¬ wrapped → s.Unwrapped) (launched : ∀ ex, ex.Launched → P ex)
    (changed : ∀ gone a b, Executor.Change gone wrapped a b → P a → P b)
    (edited : ∀ ex edit, P ex → P (Edit.apply ex edit)) {pid : Pid} {ex : Executor}
    (found : s.get? pid = some ex) : P ex := by
  have all := reached.keeps
    (P := fun m => m.Sound ∧ ((¬ wrapped → m.state.Unwrapped) →
      ∀ pid ex, m.state.get? pid = some ex → P ex)) ⟨Reachable.empty.sound, ?_⟩ ?_ ?_
  · exact all.2 new pid ex found
  · intro _ pid ex found
    exact absurd found (by simp [Scheduler.empty, get?])
  · rintro m entries m' - move ⟨sound, scripts⟩
    refine ⟨move.sound sound, ?_⟩
    intro new pid ex' live
    have before : ¬ wrapped → m.state.Unwrapped := fun unwrapped =>
      Nat.lt_of_le_of_lt move.counts.issued (new unwrapped)
    obtain ⟨ex, was, changes⟩ | ⟨-, isNew⟩ := move.evolves sound.numbers sound.placed
      sound.indexed (fun unwrapped => ⟨sound.fresh (before unwrapped), before unwrapped⟩) live
    · exact changes.keeps (changed _) (scripts before pid ex was)
    · exact launched ex' isNew
  · rintro s pid edit ex found ⟨sound, scripts⟩
    refine ⟨sound.edit found edit, ?_⟩
    intro new other ex' live
    obtain ⟨old, was, rfl | rfl⟩ := get?_edit found live
    · exact scripts new other ex' was
    · exact edited old edit (scripts new other old was)

end ScriptScheduler
