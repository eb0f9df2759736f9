import ScriptScheduler.Proofs.Answers
import ScriptScheduler.Proofs.Links

/-!
# Handing a script back

A script that is handed back leaves no trace: it is in no list of the scheduler, no request, no
engine call and no link belongs to it, and it has got the sentinel for each of its requests
(`Traceless`, `Executor.discharged`). Nobody else is disturbed: its child loses the link to it, its
parent gets its result and becomes ready unless it is halted, and all other scripts, requests,
calls and timers stay as they are and in their order (`Removes`).
-/

namespace ScriptScheduler

namespace Executor

/-! ### The script that is handed back -/

/-- A script after its removal: it has no requests, no events and no links, and a bytecode script
that had requests finds the sentinel on its stack. -/
def discharged (ex : Executor) : Executor :=
  { ex with
    requests := .empty
    parent := none
    child := none
    thread := (if ex.requests.isEmpty then ex.thread.detached
      else ex.thread.detached.revive).clearEvents
    stack := if ex.requests.isEmpty || ex.isEngine then ex.stack else .sentinel :: ex.stack.tail }

/-- A script that gets the same answer twice is as after the first time. -/
theorem answered_twice (ex : Executor) (value : Val) :
    (ex.answered value).answered value = ex.answered value := by
  unfold answered
  cases kind : ex.isEngine with
  | true =>
    have same : ex.revive.isEngine = true := kind
    simp only [if_true, same]
    rfl
  | false =>
    have same : (ex.setResultSlot value).revive.isEngine = false := kind
    simp only [Bool.false_eq_true, if_false, same]
    rfl

/-- Who is neither the child nor the parent of a removed script stays as it is. -/
theorem bereft_of_apart {ex gone : Executor} (child : gone.child ≠ some ex.pid)
    (parent : gone.parent ≠ some ex.pid) : ex.bereft gone = ex := by
  unfold bereft
  simp [child, parent]

/-- A child loses its parent. -/
theorem bereft_of_child {ex gone : Executor} (child : gone.child = some ex.pid)
    (parent : gone.parent ≠ some ex.pid) : ex.bereft gone = { ex with parent := none } := by
  unfold bereft
  simp [child, parent]

/-- A parent gets the result of its child. -/
theorem bereft_of_parent {ex gone : Executor} (child : gone.child ≠ some ex.pid)
    (parent : gone.parent = some ex.pid) (waits : ex.child = some gone.pid) :
    ex.bereft gone = ex.resumed (gone.result.getD .sentinel) := by
  unfold bereft
  simp [child, parent, waits]

/-- A script that is handed back has no events. -/
theorem events_discharged (ex : Executor) : ex.discharged.thread.events = [] := by
  unfold discharged Thread.clearEvents
  dsimp only
  split
  · rfl
  · next call => simp [Thread.events, call]

/-! ### Parents -/

/-- A change gives a script a child only if the script can wait for one. -/
theorem Change.child {gone : Pid → Prop} {wrapped : Prop} {a b : Executor}
    (change : Change gone wrapped a b) :
    b.child = a.child ∨ b.child = none ∨ Scheduler.childRefusal? a = none := by
  have suspended : ∀ (ex : Executor) wake, (ex.suspend wake).child = ex.child := by
    intro ex wake
    unfold suspend
    split <;> rfl
  cases change with
  | preempted _ slice => exact .inl slice.carries.child
  | slept _ slice => exact .inl slice.carries.child
  | stopped _ slice => exact .inl slice.carries.child
  | called => exact .inl rfl
  | queued => exact .inl rfl
  | woken => exact .inl rfl
  | answered =>
    unfold Executor.answered
    split <;> exact .inl rfl
  | timedOut => exact .inl rfl
  | resumed => exact .inr (.inl rfl)
  | orphaned => exact .inl rfl
  | halted => exact .inl rfl
  | releasedBlocked => exact .inl rfl
  | released => exact .inl rfl
  | requested _ _ wake seq =>
    have kept := suspended a wake
    unfold openResultSlot
    split <;> exact .inl kept
  | takenBack => exact .inl rfl
  | awaited able => exact .inr (.inr able)

/-- A script that waits for a child is not an engine script. -/
def Guardian (ex : Executor) : Prop := ex.child.isSome = true → ex.isEngine = false

/-- Changes keep parents from being engine scripts. -/
theorem Change.guardian {gone : Pid → Prop} {wrapped : Prop} {a b : Executor}
    (change : Change gone wrapped a b) (coherent : a.Coherent) (h : a.Guardian) :
    b.Guardian := by
  intro waits
  rw [change.kind.2]
  rcases change.child with same | none | able
  · exact h (same ▸ waits)
  · rw [none] at waits
    exact absurd waits (by decide)
  · have bytecode := (Scheduler.child_of_childRefusal? able).2.2
    have := mt coherent.bound.mpr bytecode
    simpa using this

end Executor

/-- In every reachable state a script that waits for a child is not an engine script. -/
theorem Reachable.guardian {config : SchedulerConfig} {engine : Option Engine} {s : Scheduler}
    {pid : Pid} {ex : Executor} (reached : Reachable config engine s)
    (found : s.get? pid = some ex) : ex.Guardian := by
  have both := reached.scripts (P := fun ex => ex.Coherent ∧ ex.Guardian)
    (fun new => absurd trivial new) ?_
    (fun _ _ _ change h => ⟨change.coherent h.1, change.guardian h.1 h.2⟩) ?_ found
  · exact both.2
  · intro ex launched
    refine ⟨launched.coherent, ?_⟩
    obtain ⟨s, program, options, new, parent, prepared, rfl⟩ := launched
    obtain ⟨runtime, thread, -, rfl⟩ := Scheduler.prepare_eq prepared
    exact fun waits => absurd waits (by simp [Executor.new])
  · intro ex edit h
    refine ⟨h.1.edit edit, ?_⟩
    cases edit <;> exact h.2

namespace Scheduler

variable {s t : Scheduler} {pid : Pid} {ex gone : Executor} {away : List Pid}

/-- A script whose requests are dropped gets the sentinel, unless it has none. -/
theorem dropRequests_answered (engine : Option Engine) (ids : List RequestId) :
    ∀ (ex : Executor) (table : RequestTable), ids.Nodup →
      (∀ id ∈ ids, (table.get? id).isSome = true) →
      (dropRequests engine ids ex table).value.1 =
        if ids.isEmpty then ex else ex.answered .sentinel := by
  induction ids with
  | nil => exact fun _ _ _ _ => rfl
  | cons first rest ih =>
    intro ex table nodup pending
    obtain ⟨new, nodup⟩ := List.nodup_cons.mp nodup
    obtain ⟨request, found⟩ := Option.isSome_iff_exists.mp (pending first List.mem_cons_self)
    have number : request.id = first := (RequestTable.mem_of_get? found).2
    have others := ih (ex.answered .sentinel) (table.take request) nodup fun other mem =>
      isSome_get?_take (pending other (List.mem_cons_of_mem _ mem))
        (by rintro rfl; exact new (number ▸ mem))
    unfold dropRequests
    rw [found]
    simp only [Logged.bind_value]
    rw [Executor.handleRequest_value]
    change (dropRequests engine rest (ex.answered .sentinel) (table.take request)).value.1 = _
    rw [others, ex.answered_twice, ite_self]
    rfl

/-- The script that a removal hands back. -/
theorem remove_value (indexed : Indexed s) (found : s.get? ex.pid = some ex) :
    (s.remove ex).value.1 = ex.discharged := by
  have engine : ((s.detach ex.pid).erase ex.pid).engine = s.engine := engine_of_aside (by simp)
  have requests : ((s.detach ex.pid).erase ex.pid).requests = s.requests :=
    requests_of_aside (by simp)
  have dropped := dropRequests_answered s.engine ex.requests.ids
    { ex.mapThread Thread.detached with requests := .empty } s.requests
    (indexed.nodup_ids found) fun id held => by
      obtain ⟨r, pending, rfl, -⟩ := (indexed.mem_ids found).mp held
      rw [indexed.table.get?_of_mem pending]
      rfl
  unfold remove
  simp only [Logged.bind_value, Logged.pure_value, engine, requests, dropped]
  unfold Executor.discharged Executor.answered Holder.isEmpty
  cases ex.requests.ids.isEmpty with
  | true => rfl
  | false =>
    have same : { ex.mapThread Thread.detached with requests := .empty }.isEngine = ex.isEngine :=
      rfl
    rw [same]
    cases ex.isEngine <;> rfl

/-- Beside the scripts and their places a removal changes the requests and the calls only. -/
theorem aside_remove (s : Scheduler) (gone : Executor) : (s.remove gone).value.2.aside =
    { s with
      requests := dropFromTable gone.requests.ids s.requests
      calls := s.calls.filter fun call => call.pid ≠ gone.pid }.aside := by
  rw [remove_struck, aside_notifyParent]
  unfold struck
  rw [aside_orphan]
  change { (s.detach gone.pid).aside with
    requests := dropFromTable gone.requests.ids s.requests
    calls := (s.detach gone.pid).aside.calls.filter fun call => call.pid ≠ gone.pid } = _
  rw [aside_detach]
  rfl

/-- The engine calls of a removed script are forgotten. -/
theorem calls_remove (s : Scheduler) (gone : Executor) : (s.remove gone).value.2.calls =
    s.calls.filter fun call => call.pid ≠ gone.pid := by
  change (s.remove gone).value.2.aside.calls = _
  rw [aside_remove]
  rfl

/-! ### The lists -/

/-- The lists after a script has been made ready. -/
theorem Placed.listing_schedule (h : Placed away s) (found : s.get? pid = some ex) :
    (s.schedule pid).listing =
      if ex.thread.holdList.isFixed then s.listing else ((s.without pid).enqueue pid).listing := by
  unfold Scheduler.schedule isMovable
  rw [found]
  by_cases fixed : ex.thread.holdList.isFixed = true
  · simp [fixed]
  · have live : (s.get? pid).isSome = true := by rw [found]; rfl
    have moved := h.detach_eq live
    simp only [fixed, Bool.not_false, if_true]
    rw [moved]
    rfl

/-- The lists after a parent has got the result of its child. -/
theorem Placed.listing_resumeParent (h : Placed away s) (parent child : Pid) (result : Val) :
    (s.resumeParent parent child result).listing =
      if s.isHeir parent child then ((s.without parent).enqueue parent).listing
      else s.listing := by
  unfold Scheduler.resumeParent isHeir
  cases found : s.get? parent with
  | none => rfl
  | some ex =>
    have number : ex.pid = parent := pid_of_get? found
    let told := ({ ex with child := none }.setResultSlot result).revive
    have same : told.pid = parent := number
    dsimp only
    by_cases link : ex.child = some child
    · rw [if_pos link]
      have own : s.get? ex.pid = some ex := number.symm ▸ found
      have placed : Placed away (s.store told) := h.store_of_get? own rfl rfl
      change ((s.store told).schedule parent).listing = _
      rw [placed.listing_schedule (get?_store found same)]
      change (if ex.thread.holdList.isFixed = true then s.listing
        else ((s.without parent).enqueue parent).listing) = _
      by_cases fixed : ex.thread.holdList.isFixed = true
      · simp [fixed]
      · simp [fixed, link]
    · rw [if_neg link]
      simp [link]

/-- The lists after a live script has been struck out. -/
theorem Placed.listing_struck (h : Placed away s) (live : (s.get? gone.pid).isSome = true) :
    (s.struck gone).listing = (s.without gone.pid).listing := by
  refine Eq.trans ?_ (h.listing_detach live)
  unfold Scheduler.struck Scheduler.orphan
  split <;> rfl

/-- The lists after a live script has been removed. -/
theorem Placed.listing_remove (h : Placed away s) (live : (s.get? gone.pid).isSome = true)
    (apart : gone.parent ≠ some gone.pid) :
    (s.remove gone).value.2.listing =
      match s.heir? gone with
      | some parent => (((s.without gone.pid).without parent).enqueue parent).listing
      | none => (s.without gone.pid).listing := by
  have placed : Placed away (s.struck gone) := by
    refine Placed.orphan ?_
    exact (h.also gone.pid).forget.congr rfl (fun _ => rfl) fun _ live => live
  have struck := h.listing_struck live
  rw [remove_struck]
  unfold Scheduler.notifyParent heir?
  cases parent : gone.parent with
  | none => exact struck
  | some parent' =>
    have ne : parent' ≠ gone.pid := fun eq => apart (eq ▸ parent)
    dsimp only
    rw [placed.listing_resumeParent, isHeir_struck s gone ne]
    by_cases heir : s.isHeir parent' gone.pid = true
    · have lists : (((s.struck gone).without parent').enqueue parent').listing =
          (((s.without gone.pid).without parent').enqueue parent').listing := by
        simp only [Scheduler.listing, Prod.mk.injEq] at struck
        obtain ⟨timeouts, seq, untimed, debugger, external, ready⟩ := struck
        simp only [Scheduler.listing, Scheduler.without, Scheduler.enqueue, timeouts, seq, untimed,
          debugger, external, ready]
      simp [Option.filter, heir, lists]
    · simp [Option.filter, heir, struck]

/-! ### The requests -/

/-- The requests that are held under a kind for an entity. -/
def heldFor (s : Scheduler) (entity : EntityId) (kind : RequestKind) : List RequestId :=
  ((s.requests.holder? entity).getD .empty).queue kind

/-- The holder of an entity holds its pending requests in their order. -/
theorem Indexed.heldFor_eq (indexed : Indexed s) (entity : EntityId) (kind : RequestKind) :
    s.heldFor entity kind = (s.requests.pending.filter fun r =>
      r.entity = entity ∧ r.kind = kind).map Request.id := by
  unfold heldFor
  rw [indexed.table.holder entity, Holder.queue_ofRequests]
  unfold RequestTable.toEntity
  rw [List.filter_filter]
  congr 1
  refine List.filter_congr ?_
  intro r _
  simp [Bool.and_comm]

/-- When the requests of one script leave the table, they leave the holders of the entities, and
the other requests keep their order there. -/
theorem Indexed.heldFor_filter (indexed : Indexed s) (after : Indexed t) (ids : List RequestId)
    (left : t.requests.pending = s.requests.pending.filter fun r => r.id ∉ ids)
    (entity : EntityId) (kind : RequestKind) :
    t.heldFor entity kind = (s.heldFor entity kind).filter fun id => id ∉ ids := by
  rw [indexed.heldFor_eq, after.heldFor_eq, left, List.filter_map, List.filter_filter,
    List.filter_filter]
  congr 1
  refine List.filter_congr ?_
  intro r _
  simp [Bool.and_comm]

/-! ### The state that is left -/

/-- Nothing in a state belongs to a script. -/
structure Traceless (pid : Pid) (s : Scheduler) : Prop where
  dead : s.get? pid = none
  ready : pid ∉ s.ready
  timeouts : ∀ key, (key, pid) ∉ s.timeouts
  untimed : pid ∉ s.untimed
  debugger : pid ∉ s.debugger
  external : pid ∉ s.external
  requests : ∀ r ∈ s.requests.pending, r.pid ≠ pid
  /-- What the entities hold are pending requests of other scripts. -/
  holders : ∀ entity kind, ∀ id ∈ s.heldFor entity kind,
    ∃ r ∈ s.requests.pending, r.id = id ∧ r.pid ≠ pid
  calls : ∀ call ∈ s.calls, call.pid ≠ pid
  links : ∀ other ex, s.get? other = some ex → ex.parent ≠ some pid ∧ ex.child ≠ some pid

/-- Nobody has a link to a script that is not live. -/
theorem Linked.links_of_dead (linked : Linked s) (dead : s.get? pid = none) {other : Pid}
    (found : s.get? other = some ex) : ex.parent ≠ some pid ∧ ex.child ≠ some pid := by
  obtain ⟨childless, fatherless⟩ := links_of_not_live dead
  constructor
  · intro parent
    have link := (linked.paired pid other).mpr ((parentOf?_of_get? found).trans parent)
    rw [childless] at link
    exact absurd link (by simp)
  · intro child
    have link := (linked.paired other pid).mp ((childOf?_of_get? found).trans child)
    rw [fatherless] at link
    exact absurd link (by simp)

/-- The parent of a script, unless it is halted. -/
def risingParent? (s : Scheduler) (ex : Executor) : Option Pid :=
  ex.parent.filter fun parent => (s.get? parent).any fun waiting => !waiting.halted

/-- The scripts whose place changes when a script is removed: the script itself, and its parent
unless that is halted. -/
def displaced (s : Scheduler) (ex : Executor) : List Pid := ex.pid :: (s.risingParent? ex).toList

/-- In handing back the live script `ex` nothing else happens than that the script leaves, its
requests get the sentinel, its child loses its parent and its parent gets its result. -/
structure Removes (s : Scheduler) (ex : Executor) (ran : Logged (Option Executor × Scheduler)) :
    Prop where
  back : ran.value.1 = some ex.discharged
  emptied : ex.discharged.requests = .empty ∧ ex.discharged.thread.events = [] ∧
    ex.discharged.parent = none ∧ ex.discharged.child = none
  traceless : Traceless ex.pid ran.value.2
  /-- Each request of the script is answered with the sentinel, once, and no other is answered. -/
  answers : ∀ id, answersTo id ran.entries =
    if ∃ r ∈ s.requests.pending, r.id = id ∧ r.pid = ex.pid then [ex.receipt id .sentinel] else []
  pending : ran.value.2.requests.pending = s.requests.pending.filter fun r => r.pid ≠ ex.pid
  holders : ∀ entity kind, ran.value.2.heldFor entity kind =
    (s.heldFor entity kind).filter fun id => id ∉ ex.requests.ids
  calls : ran.value.2.calls = s.calls.filter fun call => call.pid ≠ ex.pid
  child : ∀ pid child, s.get? pid = some child → ex.child = some pid →
    ran.value.2.get? pid = some { child with parent := none }
  parent : ∀ pid waiting, s.get? pid = some waiting → ex.parent = some pid →
    waiting.child = some ex.pid ∧ ran.value.2.get? pid = some { waiting with
      child := none
      stack := ex.result.getD .sentinel :: waiting.stack.tail
      thread := if waiting.halted then waiting.thread.revive else waiting.thread.revive.detached }
  others : ∀ pid, pid ≠ ex.pid → ex.child ≠ some pid → ex.parent ≠ some pid →
    ran.value.2.get? pid = s.get? pid
  ready : ran.value.2.ready =
    (s.ready.filter fun pid => pid ∉ s.displaced ex) ++ (s.risingParent? ex).toList
  timeouts : ran.value.2.timeouts = s.timeouts.filter fun timer => timer.2 ∉ s.displaced ex
  untimed : ran.value.2.untimed = s.untimed.filter fun pid => pid ∉ s.displaced ex
  debugger : ran.value.2.debugger = s.debugger.filter fun pid => pid ≠ ex.pid
  external : ran.value.2.external = s.external.filter fun pid => pid ≠ ex.pid
  rest : ran.value.2.aside =
    { s with requests := ran.value.2.requests, calls := ran.value.2.calls }.aside
  timerSeq : ran.value.2.nextTimerSeq = s.nextTimerSeq

end Scheduler

open Scheduler

namespace Reachable

variable {config : SchedulerConfig} {engine : Option Engine} {s : Scheduler} {pid : Pid}
  {ex : Executor}

/-- In a reachable state a script with a parent is waited for by that parent. -/
theorem waiting (reached : Reachable config engine s) (found : s.get? pid = some ex)
    {parent : Pid} (link : ex.parent = some parent) :
    ∃ waiting, s.get? parent = some waiting ∧ waiting.child = some pid ∧
      (waiting.thread.holdList.isFixed = true ↔ waiting.halted = true) := by
  have isParent := (parentOf?_of_get? found).trans link
  have isChild := (reached.linked.paired parent pid).mpr isParent
  cases live : s.get? parent with
  | none =>
    rw [(links_of_not_live live).1] at isChild
    exact absurd isChild (by simp)
  | some waiting =>
    have child : waiting.child = some pid := (childOf?_of_get? live).symm.trans isChild
    refine ⟨waiting, rfl, child, ?_⟩
    have coherent := reached.coherent live
    have bytecode := reached.guardian live (by rw [child]; rfl)
    have mine : waiting.thread.holdList ≠ .external := by
      intro managed
      rw [coherent.managed managed] at bytecode
      exact absurd bytecode (by decide)
    rw [coherent.halted]
    cases list : waiting.thread.holdList <;> simp_all [HoldList.isFixed]

/-- In a reachable state the parent that becomes ready when a script is removed is its parent,
unless that is halted. -/
theorem heir?_eq (reached : Reachable config engine s) (found : s.get? ex.pid = some ex) :
    s.heir? ex = s.risingParent? ex := by
  unfold heir? risingParent?
  cases link : ex.parent with
  | none => rfl
  | some parent =>
    obtain ⟨waiting, live, child, fixed⟩ := reached.waiting found link
    have same : s.isHeir parent ex.pid = (s.get? parent).any fun waiting => !waiting.halted := by
      unfold isHeir
      rw [live]
      simp only [child, decide_true, Bool.true_and, Option.any_some]
      exact congrArg _ (Bool.eq_iff_iff.mpr fixed)
    simp only [Option.filter, same]

/-- A parent that becomes ready when its child is removed is not in a list in which it would be
fixed. -/
theorem loose_of_risingParent? (reached : Reachable config engine s)
    (found : s.get? ex.pid = some ex) {parent : Pid} (rises : s.risingParent? ex = some parent) :
    parent ∉ s.debugger ∧ parent ∉ s.external := by
  obtain ⟨link, awake⟩ := Option.filter_eq_some_iff.mp rises
  obtain ⟨waiting, live, -, fixed⟩ := reached.waiting found link
  rw [live] at awake
  have loose : ¬ waiting.thread.holdList.isFixed = true := by
    rw [fixed]
    simpa using awake
  have placed := reached.placed
  rw [placed.debugger, placed.external, seat_of_get? live]
  constructor
  · exact fun parked : waiting.thread.holdList = .debugger => loose (by rw [parked]; rfl)
  · exact fun managed : waiting.thread.holdList = .external => loose (by rw [managed]; rfl)

/-- In a reachable state the lists lose a script that is removed and its parent, unless that is
halted; the parent then becomes the last one in the ready queue. -/
theorem lists_remove (reached : Reachable config engine s) (found : s.get? ex.pid = some ex)
    (apart : ex.parent ≠ some ex.pid) :
    (s.remove ex).value.2.listing =
      (s.timeouts.filter fun timer => timer.2 ∉ s.displaced ex, s.nextTimerSeq,
        s.untimed.filter fun pid => pid ∉ s.displaced ex,
        s.debugger.filter fun pid => pid ≠ ex.pid, s.external.filter fun pid => pid ≠ ex.pid,
        (s.ready.filter fun pid => pid ∉ s.displaced ex) ++ (s.risingParent? ex).toList) := by
  have live : (s.get? ex.pid).isSome = true := by rw [found]; rfl
  rw [reached.placed.listing_remove live apart, reached.heir?_eq found]
  unfold displaced
  cases rises : s.risingParent? ex with
  | none => simp [listing, without]
  | some parent =>
    obtain ⟨unparked, unmanaged⟩ := reached.loose_of_risingParent? found rises
    have debugger : (s.debugger.filter fun pid => pid ≠ ex.pid).filter (fun pid => pid ≠ parent) =
        s.debugger.filter fun pid => pid ≠ ex.pid :=
      filter_ne_of_not_mem fun mem => unparked (List.mem_filter.mp mem).1
    have external : (s.external.filter fun pid => pid ≠ ex.pid).filter (fun pid => pid ≠ parent) =
        s.external.filter fun pid => pid ≠ ex.pid :=
      filter_ne_of_not_mem fun mem => unmanaged (List.mem_filter.mp mem).1
    simp only [listing, without, enqueue, debugger, external]
    simp [List.filter_filter, and_comm]

/-- After a live script has been removed from a reachable state nothing belongs to it. -/
theorem traceless_remove (reached : Reachable config engine s) (found : s.get? ex.pid = some ex)
    (apart : ex.parent ≠ some ex.pid)
    (pending : (s.remove ex).value.2.requests.pending =
      s.requests.pending.filter fun r => r.pid ≠ ex.pid) :
    Traceless ex.pid (s.remove ex).value.2 := by
  have indexed := reached.indexed.remove (holderOf_of_get? found)
  have departs : Departs s ex (s.remove ex).value.2 := .handedBack found
  have lists := reached.lists_remove found apart
  simp only [listing, Prod.mk.injEq] at lists
  obtain ⟨timeouts, -, untimed, debugger, external, ready⟩ := lists
  -- what is struck off the lists are the script and a parent that it wakes
  have displaced : ex.pid ∈ s.displaced ex := List.mem_cons_self
  have others : ∀ r ∈ (s.remove ex).value.2.requests.pending, r.pid ≠ ex.pid := by
    rw [pending]
    exact fun r mem => of_decide_eq_true (List.mem_filter.mp mem).2
  constructor
  case dead => exact departs.get?_self
  case ready =>
    have notParent : s.risingParent? ex ≠ some ex.pid := fun rises =>
      apart (Option.filter_eq_some_iff.mp rises).1
    rw [ready]
    simp [displaced, notParent]
  case timeouts =>
    rw [timeouts]
    simp [displaced]
  case untimed =>
    rw [untimed]
    simp [displaced]
  case debugger =>
    rw [debugger]
    simp
  case external =>
    rw [external]
    simp
  case requests => exact others
  case holders =>
    intro entity kind id held
    rw [indexed.heldFor_eq] at held
    obtain ⟨r, mem, same⟩ := List.mem_map.mp held
    have live := (List.mem_filter.mp mem).1
    exact ⟨r, live, same, others r live⟩
  case calls =>
    rw [calls_remove]
    exact fun call mem => of_decide_eq_true (List.mem_filter.mp mem).2
  case links =>
    intro other left live
    exact (reached.linked.departed departs).links_of_dead departs.get?_self live

/-- The requests that are pending under the numbers which a removed script holds are gone. -/
theorem pending_remove_ids (indexed : Indexed s) (ex : Executor) :
    (s.remove ex).value.2.requests.pending =
      s.requests.pending.filter fun r => r.id ∉ ex.requests.ids := by
  rw [requests_remove]
  exact (indexed.table.dropFromTable ex.requests.ids).2

/-- The requests of a removed script are gone, and only these. -/
theorem pending_remove (indexed : Indexed s) (found : s.get? ex.pid = some ex) :
    (s.remove ex).value.2.requests.pending =
      s.requests.pending.filter fun r => r.pid ≠ ex.pid := by
  rw [pending_remove_ids indexed]
  refine List.filter_congr fun r live => ?_
  have own : r.id ∈ ex.requests.ids ↔ r.pid = ex.pid :=
    ⟨indexed.own found live, fun own => (indexed.mem_ids found).mpr ⟨r, live, rfl, own⟩⟩
  simp [own]

/-- Each request of a removed script is answered with the sentinel, once, and no other is
answered. -/
theorem answersTo_remove (reached : Reachable config engine s) (found : s.get? ex.pid = some ex)
    (id : RequestId) : answersTo id (s.remove ex).entries =
      if ∃ r ∈ s.requests.pending, r.id = id ∧ r.pid = ex.pid then [ex.receipt id .sentinel]
      else [] := by
  have indexed := reached.indexed
  have listed : ∀ id ∈ ex.requests.ids, (s.requests.get? id).isSome = true := by
    intro id held
    obtain ⟨r, live, rfl, -⟩ := (indexed.mem_ids found).mp held
    rw [indexed.table.get?_of_mem live]
    rfl
  have dropped := answersTo_dropRequests s.engine id ex.requests.ids
    { ex.mapThread Thread.detached with requests := .empty } s.requests (indexed.nodup_ids found)
    listed (fun isEngine => reached.equipped _ ex found isEngine)
  rw [remove_entries, dropped]
  exact if_congr (indexed.mem_ids found) rfl rfl

/-- The child of a removed script loses its parent. It is younger than the script, and the parent of
the script is older, so it is not the parent as well. -/
theorem get?_remove_child (reached : Reachable config engine s) (found : s.get? ex.pid = some ex)
    {child : Executor} (live : s.get? pid = some child) (link : ex.child = some pid) :
    (s.remove ex).value.2.get? pid = some { child with parent := none } := by
  obtain rfl : child.pid = pid := pid_of_get? live
  have departs : Departs s ex (s.remove ex).value.2 := .handedBack found
  have younger : ex.pid.number < child.pid.number :=
    reached.linked.older ex.pid child.pid ((childOf?_of_get? found).trans link)
  have notParent : ex.parent ≠ some child.pid := by
    intro back
    have isParent := (parentOf?_of_get? found).trans back
    exact Nat.lt_asymm younger
      (reached.linked.older _ _ ((reached.linked.paired child.pid ex.pid).mpr isParent))
  have ne : child.pid ≠ ex.pid := fun same => Nat.lt_irrefl _ (same ▸ younger)
  rw [departs.get?_of_ne ne, live]
  exact congrArg some (Executor.bereft_of_child link notParent)

/-- The parent of a removed script waits for it, gets its result and goes on, unless it is halted. -/
theorem get?_remove_parent (reached : Reachable config engine s) (found : s.get? ex.pid = some ex)
    {waiting : Executor} (live : s.get? pid = some waiting) (link : ex.parent = some pid) :
    waiting.child = some ex.pid ∧ (s.remove ex).value.2.get? pid = some { waiting with
      child := none
      stack := ex.result.getD .sentinel :: waiting.stack.tail
      thread :=
        if waiting.halted then waiting.thread.revive else waiting.thread.revive.detached } := by
  obtain rfl : waiting.pid = pid := pid_of_get? live
  have departs : Departs s ex (s.remove ex).value.2 := .handedBack found
  have isParent := (parentOf?_of_get? found).trans link
  have older : waiting.pid.number < ex.pid.number :=
    reached.linked.older _ _ ((reached.linked.paired waiting.pid ex.pid).mpr isParent)
  have notChild : ex.child ≠ some waiting.pid := fun back =>
    Nat.lt_asymm older (reached.linked.older _ _ ((childOf?_of_get? found).trans back))
  have ne : waiting.pid ≠ ex.pid := fun same => Nat.lt_irrefl _ (same ▸ older)
  obtain ⟨parent, found', waits, fixed⟩ := reached.waiting found link
  obtain rfl : waiting = parent := Option.some.inj (live.symm.trans found')
  refine ⟨waits, ?_⟩
  rw [departs.get?_of_ne ne, live]
  refine congrArg some ((Executor.bereft_of_parent notChild link waits).trans ?_)
  -- What fixes a waiting parent where it is can only be the debugger.
  have freed : waiting.thread.revive.freed =
      if waiting.halted then waiting.thread.revive else waiting.thread.revive.detached :=
    if_congr fixed rfl rfl
  change { waiting with child := none, stack := _, thread := waiting.thread.revive.freed } = _
  rw [freed]
  rfl

/-- Scripts that are neither parent nor child of a removed script stay as they are. -/
theorem get?_remove_of_apart (found : s.get? ex.pid = some ex) (ne : pid ≠ ex.pid)
    (notChild : ex.child ≠ some pid) (notParent : ex.parent ≠ some pid) :
    (s.remove ex).value.2.get? pid = s.get? pid := by
  have departs : Departs s ex (s.remove ex).value.2 := .handedBack found
  rw [departs.get?_of_ne ne]
  cases live : s.get? pid with
  | none => rfl
  | some other =>
    obtain rfl : other.pid = pid := pid_of_get? live
    exact congrArg some (Executor.bereft_of_apart notChild notParent)

/-- In a reachable state a script that is handed back leaves no trace and disturbs nobody else. -/
theorem removes (reached : Reachable config engine s) (found : s.get? pid = some ex) :
    s.Removes ex (s.deschedule pid) := by
  obtain rfl : ex.pid = pid := pid_of_get? found
  have indexed := reached.indexed
  -- no script is its own parent, so what happens to the parent happens to another script
  have apart := reached.linked.fatherless (.handedBack found)
  have pending := pending_remove indexed found
  have lists := reached.lists_remove found apart
  simp only [listing, Prod.mk.injEq] at lists
  obtain ⟨timeouts, timerSeq, untimed, debugger, external, ready⟩ := lists
  rw [deschedule_eq found]
  constructor
  case back => exact congrArg some (remove_value indexed found)
  case emptied => exact ⟨rfl, ex.events_discharged, rfl, rfl⟩
  case traceless => exact reached.traceless_remove found apart pending
  case answers => exact reached.answersTo_remove found
  case pending => exact pending
  case holders =>
    exact indexed.heldFor_filter (indexed.remove (holderOf_of_get? found)) ex.requests.ids
      (pending_remove_ids indexed ex)
  case calls => exact calls_remove s ex
  case child => exact fun _ _ live link => reached.get?_remove_child found live link
  case parent => exact fun _ _ live link => reached.get?_remove_parent found live link
  case others => exact fun _ ne notChild notParent =>
    get?_remove_of_apart found ne notChild notParent
  case ready => exact ready
  case timeouts => exact timeouts
  case untimed => exact untimed
  case debugger => exact debugger
  case external => exact external
  case rest =>
    refine (aside_remove s ex).trans ?_
    dsimp only
    rw [requests_remove, calls_remove]
  case timerSeq => exact timerSeq

end Reachable

/-- A script launches another one, and that makes a request. -/
def familyRun : List Operation :=
  [.start (.bytecode "parent" [.sleep 100, .ret]), .runScript ⟨1⟩ (.bytecode "child" [.ret]),
    .request ⟨2⟩ ⟨7⟩ .textEntry fun _ value => some value]

/-- A child that has made a request is handed back without a trace. -/
theorem removes_child : ∃ s ex, Scheduler.performAll 1 familyRun (.empty {} none) = some s ∧
    s.get? ⟨2⟩ = some ex ∧ ex.parent = some ⟨1⟩ ∧ ex.requests.size = 1 ∧
    s.Removes ex (s.deschedule ⟨2⟩) := by
  have performed : Scheduler.performAll 1 familyRun (.empty {} none) = some _ := rfl
  refine ⟨_, _, performed, rfl, rfl, rfl, ?_⟩
  exact (Reachable.empty.performAll performed).removes rfl

end ScriptScheduler
