import ScriptScheduler.Proofs.Callers
import ScriptScheduler.Proofs.Loners
import ScriptScheduler.Proofs.Removal
import ScriptScheduler.Proofs.Resolution

/-!
# The slot of a request

A script that makes a request sleeps with a slot for the answer on top of its stack, and only this
one request can fill the slot. As long as the request is pending the script runs nothing, and
whatever ends the request puts its answer into the slot and wakes the script, unless the script is
removed (`History.fillsSlot`). This holds of bytecode scripts that launch no children.
-/

namespace ScriptScheduler

open Scheduler

/-! ### A script between its request and the answer -/

/-- A value with which a move ends a request of a script that stays live. -/
def Resolves (may : Act → Prop) (value : Val) : Prop :=
  may (.answer value) ∨ value = .sentinel ∧ may .expire

namespace Executor

variable {ex asker a b : Executor} {gone : Pid → Prop} {wrapped : Prop} {may : Act → Prop}
  {id : RequestId} {value : Val}

/-- A script that has run nothing since it was `asker` and has one more value on its stack. -/
structure Slotted (ex asker : Executor) (value : Val) : Prop where
  lone : ex.Lone
  runtime : ex.runtime = asker.runtime
  instrCycles : ex.instrCycles = asker.instrCycles
  stack : ex.stack = value :: asker.stack

/-- A script that waits with an empty slot for the answer to its only request. -/
structure Asking (ex asker : Executor) (id : RequestId) : Prop
    extends Slotted ex asker .sentinel where
  sole : ex.requests.ids = [id]

/-- A script that has got the answer to its only request. -/
structure Served (ex asker : Executor) (value : Val) : Prop
    extends Slotted ex asker value where
  idle : ex.requests.ids = []
  free : ex.thread.blocked = false

namespace Asking

/-- A script that waits for an answer is blocked, and not for an event. -/
theorem waits (h : ex.Asking asker id) :
    ex.thread.blocked = true ∧ ex.thread.waitType = .wait := by
  rcases h.lone.asks with idle | ⟨blocked, waits, -⟩
  · exact absurd (h.sole.symm.trans idle) (by simp)
  · exact ⟨blocked, waits⟩

/-- A script that waits for an answer is in a hold list. -/
theorem held (h : ex.Asking asker id) : ex.thread.holdList ≠ .none := by
  have asked : id ∈ ex.requests.ids := h.sole ▸ List.mem_cons_self
  exact h.lone.held asked

/-- A script that waits for an answer cannot make a request. -/
theorem mayAsk (h : ex.Asking asker id) : ex.mayAsk = false := by
  refine Bool.eq_false_iff.mpr ?_
  intro able
  exact absurd (h.waits.1.symm.trans (h.lone.of_mayAsk able).1) (by decide)

end Asking

/-- A change of a script that waits for an answer leaves it waiting or gives it an answer. -/
theorem ChangeBy.asking (change : ChangeBy gone wrapped may a b) (alone : ¬ may (.adopt a.pid))
    (h : a.Asking asker id) :
    b.Asking asker id ∨ ∃ value, b.Served asker value ∧ Resolves may value := by
  have lone := change.lone alone h.lone
  obtain ⟨blocked, waits⟩ := h.waits
  -- only an answer or the wake clock can reach a bytecode script that waits for a request
  have turnless : a.thread.holdList = .none → False := fun free => h.held free
  have bound : a.isEngine = true → False := by
    intro engine
    exact absurd (h.lone.bytecode.symm.trans engine) (by decide)
  have childless : ∀ {child : Pid}, a.child = some child → False := by
    intro child link
    exact absurd (h.lone.childless.symm.trans link) (by simp)
  have unable : a.mayAsk = true → False := by
    intro able
    exact absurd (h.mayAsk.symm.trans able) (by decide)
  cases change with
  | preempted free => exact (turnless free).elim
  | slept free => exact (turnless free).elim
  | stopped free => exact (turnless free).elim
  | called free => exact (turnless free).elim
  | queued _ posted =>
    exact .inl ⟨⟨lone, h.runtime, h.instrCycles, h.stack⟩, h.sole⟩
  | woken awaits =>
    unfold awaitsEvent at awaits
    rw [waits] at awaits
    exact absurd awaits (by simp)
  | @answered kind only asked value allowed =>
    have same : { a with requests := a.requests.remove kind only }.isEngine = false :=
      h.lone.bytecode
    unfold Executor.answered at lone ⊢
    rw [same] at lone ⊢
    refine .inr ⟨value, ⟨⟨lone, h.runtime, h.instrCycles, ?_⟩, ids_remove h.sole asked, ?_⟩,
      .inl allowed⟩
    · exact congrArg (fun stack => value :: stack.tail) h.stack
    · exact Thread.freed_blocked _
  | timedOut sleeps allowed =>
    refine .inr ⟨.sentinel, ⟨⟨lone, h.runtime, h.instrCycles, ?_⟩, rfl, rfl⟩, .inr ⟨rfl, allowed⟩⟩
    have asked : (a.requests.isEmpty || a.isEngine) = false := by
      rw [h.lone.bytecode, Bool.or_false]
      unfold Holder.isEmpty
      rw [h.sole]
      rfl
    unfold Executor.timedOut
    rw [asked, h.stack]
    rfl
  | resumed link => exact (childless link).elim
  | orphaned => exact .inl ⟨⟨lone, h.runtime, h.instrCycles, h.stack⟩, h.sole⟩
  | halted => exact .inl ⟨⟨lone, h.runtime, h.instrCycles, h.stack⟩, h.sole⟩
  | releasedBlocked => exact .inl ⟨⟨lone, h.runtime, h.instrCycles, h.stack⟩, h.sole⟩
  | released _ free =>
    exact absurd (blocked.symm.trans (h.lone.isBlocked.symm.trans free)) (by decide)
  | requested able => exact (unable able).elim
  | takenBack able => exact (unable able).elim
  | awaited _ _ _ allowed => exact absurd allowed alone

/-- A change of a script that has got its answer leaves it as it is, unless it has a turn or makes
another request. -/
theorem ChangeBy.served (change : ChangeBy gone wrapped may a b)
    (alone : ¬ may (.adopt a.pid)) (turnless : ¬ may (.turn a.pid)) (silent : ¬ may (.ask a.pid))
    (h : a.Served asker value) : b.Served asker value := by
  have lone := change.lone alone h.lone
  cases change with
  | preempted _ _ allowed => exact absurd allowed turnless
  | slept _ _ _ allowed => exact absurd allowed turnless
  | stopped _ _ allowed => exact absurd allowed turnless
  | called _ _ _ allowed => exact absurd allowed turnless
  | queued _ posted =>
    refine ⟨⟨lone, h.runtime, h.instrCycles, h.stack⟩, h.idle, ?_⟩
    obtain ⟨capacity, events, -, rfl⟩ := Thread.post_ok posted
    exact h.free
  | woken awaits =>
    unfold awaitsEvent at awaits
    rw [h.lone.isBlocked, h.free] at awaits
    exact absurd awaits (by simp)
  | @answered kind id asked =>
    have held : id ∈ a.requests.ids := Holder.mem_ids.mpr ⟨kind, asked⟩
    rw [h.idle] at held
    exact absurd held List.not_mem_nil
  | timedOut sleeps =>
    have blocked : a.isBlocked = true := h.lone.timely.sleeps sleeps
    exact absurd (h.free.symm.trans (h.lone.isBlocked.symm.trans blocked)) (by decide)
  | resumed link => exact absurd (h.lone.childless.symm.trans link) (by simp)
  | orphaned => exact ⟨⟨lone, h.runtime, h.instrCycles, h.stack⟩, h.idle, h.free⟩
  | halted => exact ⟨⟨lone, h.runtime, h.instrCycles, h.stack⟩, h.idle, h.free⟩
  | releasedBlocked _ blocked =>
    exact absurd (h.free.symm.trans (h.lone.isBlocked.symm.trans blocked)) (by decide)
  | released => exact ⟨⟨lone, h.runtime, h.instrCycles, h.stack⟩, h.idle, h.free⟩
  | requested _ _ _ _ allowed => exact absurd allowed silent
  | takenBack _ _ allowed => exact absurd allowed silent
  | awaited _ _ _ allowed => exact absurd allowed alone

end Executor

/-! ### Moves -/

section Moves

variable {may : Act → Prop} {m m' : Moment} {entries : List Entry} {request : Request}
  {ex asker : Executor}

/-- Moves that launch no child of a script that waits for an answer leave it waiting or give it an
answer, if there are no turns and requests among moves that may give answers. -/
theorem MovesBy.asking (moves : MovesBy may m entries m') (sound : m.Sound)
    (alone : ¬ may (.adopt request.pid))
    (calm : ∀ value, Resolves may value →
      ¬ may (.turn request.pid) ∧ ¬ may (.ask request.pid))
    (found : m.state.get? request.pid = some ex) (h : ex.Asking asker request.id) :
    ∀ ex', m'.state.get? request.pid = some ex' →
      ex'.Asking asker request.id ∨ ∃ value, ex'.Served asker value ∧ Resolves may value := by
  refine moves.scripts sound ?_ ?_ ?_
  · intro new
    exact absurd (sound.numbers.lt_nextPid found) (Nat.not_lt_of_le new)
  · rintro gone a b own change (asking | ⟨value, served, resolves⟩)
    · exact change.asking (own ▸ alone) asking
    · obtain ⟨turnless, silent⟩ := calm value resolves
      exact .inr ⟨value, change.served (own ▸ alone) (own ▸ turnless) (own ▸ silent) served,
        resolves⟩
  · intro ex' live
    obtain rfl := Option.some.inj (found.symm.trans live)
    exact .inl h

/-- A script that waits for an answer stays live in moves that do not end it from outside. -/
theorem MovesBy.stays (moves : MovesBy may m entries m') (sound : m.Sound) (staffed : m.Staffed)
    (alone : ¬ may (.adopt request.pid))
    (calm : ∀ value, Resolves may value →
      ¬ may (.turn request.pid) ∧ ¬ may (.ask request.pid))
    (kept : ∀ reason, ¬ may (.retire request.pid reason)) (safe : ¬ may (.handBack request.pid))
    (found : m.state.get? request.pid = some ex) (h : ex.Asking asker request.id) :
    (m'.state.get? request.pid).isSome = true := by
  suffices both : m'.Staffed ∧ (m'.state.get? request.pid).isSome = true from both.2
  induction moves with
  | refl => exact ⟨staffed, found ▸ rfl⟩
  | @step m₂ m₃ _ _ moves move ih =>
    obtain ⟨staffed₂, live⟩ := ih
    have sound₂ := moves.sound sound
    obtain ⟨ex₂, found₂⟩ := Option.isSome_iff_exists.mp live
    refine ⟨move.any.staffed sound₂ staffed₂, ?_⟩
    rcases moves.asking sound alone calm found h ex₂ found₂ with asking | ⟨value, served, resolves⟩
    · exact move.stays sound₂ staffed₂ found₂ asking.lone.bytecode (fun _ => asking.held) kept safe
    · exact move.stays sound₂ staffed₂ found₂ served.lone.bytecode
        (fun turned => absurd turned (calm value resolves).1) kept safe

/-- Moves that make no requests leave a request pending and unanswered, or it leaves the table and
is answered once, in the way of its owner. -/
theorem MovesBy.receipted (moves : MovesBy may m entries m') (sound : m.Sound)
    (equipped : Equipped m.state) (silent : ∀ pid, ¬ may (.ask pid))
    (pending : request ∈ m.state.requests.pending) (found : m.state.get? request.pid = some ex) :
    (request ∈ m'.state.requests.pending ∧ answersTo request.id entries = []) ∨
    (∀ r ∈ m'.state.requests.pending, r.id ≠ request.id) ∧ ∃ value, Given may value ∧
      answersTo request.id entries = [ex.receipt request.id value] := by
  suffices both : Equipped m'.state ∧ _ from both.2
  induction moves with
  | refl => exact ⟨equipped, .inl ⟨pending, rfl⟩⟩
  | @step m₂ m₃ before more moves move ih =>
    obtain ⟨equipped₂, fate⟩ := ih
    have sound₂ := moves.sound sound
    have answers := move.answers sound₂ equipped₂
    refine ⟨move.any.equipped sound₂ equipped₂, ?_⟩
    rcases fate with ⟨still, none⟩ | ⟨unlisted, value, given, once⟩
    · rcases answers.each request still with
        ⟨kept, unanswered⟩ | ⟨gone, own, value, live, given, once⟩
      · exact .inl ⟨kept, by rw [answersTo_append, none, unanswered, List.append_nil]⟩
      · have kind : own.isEngine = ex.isEngine :=
          moves.scripts (P := fun own => own.isEngine = ex.isEngine) sound
            (fun new => absurd (sound.numbers.lt_nextPid found) (Nat.not_lt_of_le new))
            (fun _ _ _ _ change before => change.any.kind.2.trans before)
            (fun ex' isEx => Option.some.inj (found.symm.trans isEx) ▸ rfl) own live
        have number : own.pid = ex.pid := (pid_of_get? live).trans (pid_of_get? found).symm
        refine .inr ⟨gone, value, given, ?_⟩
        rw [answersTo_append, none, once, List.nil_append, Executor.receipt_congr number kind]
    · refine .inr ⟨?_, value, given, ?_⟩
      · intro r kept
        rcases answers.arrivals r kept with old | ⟨-, -, allowed⟩
        · exact unlisted r old
        · exact absurd allowed (silent r.pid)
      · rw [answersTo_append, once, answers.others _ unlisted, List.append_nil]

/-- Moves that make no requests answer pending requests only. -/
theorem MovesBy.unanswered (moves : MovesBy may m entries m') (sound : m.Sound)
    (equipped : Equipped m.state) (silent : ∀ pid, ¬ may (.ask pid)) {id : RequestId}
    (absent : ∀ r ∈ m.state.requests.pending, r.id ≠ id) : answersTo id entries = [] := by
  suffices both : Equipped m'.state ∧ (∀ r ∈ m'.state.requests.pending, r.id ≠ id) ∧ _ from both.2.2
  induction moves with
  | refl => exact ⟨equipped, absent, rfl⟩
  | step moves move ih =>
    obtain ⟨equipped₂, unlisted, none⟩ := ih
    have sound₂ := moves.sound sound
    have answers := move.answers sound₂ equipped₂
    refine ⟨move.any.equipped sound₂ equipped₂, ?_, ?_⟩
    · intro r kept
      rcases answers.arrivals r kept with old | ⟨-, -, allowed⟩
      · exact unlisted r old
      · exact absurd allowed (silent r.pid)
    · rw [answersTo_append, none, answers.others _ unlisted, List.append_nil]

/-- Moves that make no requests leave a request of a bytecode script pending and unanswered, or it
leaves the table and is answered once. -/
theorem MovesBy.answered (moves : MovesBy may m entries m') (sound : m.Sound)
    (equipped : Equipped m.state) (silent : ∀ pid, ¬ may (.ask pid))
    (pending : request ∈ m.state.requests.pending)
    (found : m.state.get? request.pid = some ex) (bytecode : ex.isEngine = false) :
    (request ∈ m'.state.requests.pending ∧ answersTo request.id entries = []) ∨
    (∀ r ∈ m'.state.requests.pending, r.id ≠ request.id) ∧ ∃ value, Given may value ∧
      answersTo request.id entries = [.delivered request.pid request.id value] := by
  have receipt : ∀ value, ex.receipt request.id value = .delivered request.pid request.id value := by
    intro value
    unfold Executor.receipt
    rw [bytecode, if_neg Bool.false_ne_true, pid_of_get? found]
  simpa only [receipt] using moves.receipted sound equipped silent pending found

end Moves

/-! ### Operations -/

/-- The operations that remove the script `pid`. -/
def Operation.Removes (pid : Pid) : Operation → Prop
  | .kill other | .deschedule other => other = pid
  | .shutdown => True
  | _ => False

namespace Operation

variable {op : Operation} {pid : Pid} {value : Val}

/-- An operation that may end a request gives no turns and makes no requests. -/
theorem calm (resolves : Resolves op.Does value) (pid : Pid) :
    ¬ op.Does (.turn pid) ∧ ¬ op.Does (.ask pid) := by
  cases op <;> simp_all [Resolves, Does]

/-- An operation that removes a script gives no answers to scripts that stay live. -/
theorem not_resolves_of_removes (removes : op.Removes pid) : ¬ Resolves op.Does value := by
  cases op <;> simp_all [Resolves, Does, Removes]

/-- An operation that does not remove a script does not end it from outside. -/
theorem not_removes (kept : ¬ op.Removes pid) :
    (∀ reason, ¬ op.Does (.retire pid reason)) ∧ ¬ op.Does (.handBack pid) := by
  cases op <;> simp_all [Does, Removes, eq_comm]

end Operation

namespace Scheduler

/-- A request is pending and the script that has made it waits for the answer. -/
structure Unfilled (request : Request) (asker : Executor) (t : Scheduler) : Prop where
  pending : request ∈ t.requests.pending
  waiting : ∃ ex, t.get? request.pid = some ex ∧ ex.Asking asker request.id

/-- The script that has made a request has got the answer. -/
def Filled (request : Request) (asker : Executor) (value : Val) (t : Scheduler) : Prop :=
  ∃ ex, t.get? request.pid = some ex ∧ ex.Served asker value

/-- A script that has got its answer has no request that is pending. -/
theorem Indexed.not_pending_of_served {t : Scheduler} {request : Request} {ex asker : Executor}
    {value : Val} (indexed : Indexed t) (found : t.get? request.pid = some ex)
    (served : ex.Served asker value) : request ∉ t.requests.pending := by
  intro pending
  have held : request.id ∈ ex.requests.ids :=
    (indexed.mem_ids found).mpr ⟨request, pending, rfl, rfl⟩
  rw [served.idle] at held
  exact absurd held List.not_mem_nil

namespace Unfilled

variable {s s' : Scheduler} {request : Request} {asker : Executor} {may : Act → Prop}
  {entries : List Entry} {patience : Nat} {op : Operation} {ran : Logged (Answer × Scheduler)}

/-- After moves that leave the request pending the script waits for the answer. -/
theorem of_pending (h : Unfilled request asker s) (sound : Moment.Sound ⟨s, [], []⟩)
    (moves : MovesBy may ⟨s, [], []⟩ entries ⟨s', [], []⟩) (alone : ¬ may (.adopt request.pid))
    (calm : ∀ value, Resolves may value →
      ¬ may (.turn request.pid) ∧ ¬ may (.ask request.pid))
    (pending : request ∈ s'.requests.pending) : Unfilled request asker s' := by
  have indexed : Indexed s' := (moves.sound sound).indexed
  obtain ⟨ex, found, asking⟩ := h.waiting
  obtain ⟨ex', live⟩ := Option.isSome_iff_exists.mp (indexed.live pending)
  rcases moves.asking sound alone calm found asking ex' live with asking | ⟨value, served, -⟩
  · exact ⟨pending, ex', live, asking⟩
  · exact absurd pending (indexed.not_pending_of_served live served)

/-- After moves in which the request leaves the table the script has got an answer that the moves
may give, if it is live. -/
theorem of_resolved (h : Unfilled request asker s) (sound : Moment.Sound ⟨s, [], []⟩)
    (equipped : Equipped s) (moves : MovesBy may ⟨s, [], []⟩ entries ⟨s', [], []⟩)
    (alone : ¬ may (.adopt request.pid)) (silent : ∀ pid, ¬ may (.ask pid))
    (turnless : ∀ value, Resolves may value → ¬ may (.turn request.pid))
    (resolved : request ∉ s'.requests.pending) :
    (∀ ex, s'.get? request.pid = some ex → ∃ value, ex.Served asker value ∧ Resolves may value) ∧
      ∃ value, Given may value ∧
        answersTo request.id entries = [.delivered request.pid request.id value] := by
  obtain ⟨ex, found, asking⟩ := h.waiting
  obtain ⟨pending, -⟩ | ⟨unlisted, answered⟩ :=
    moves.answered sound equipped silent h.pending found asking.lone.bytecode
  · exact absurd pending resolved
  · refine ⟨?_, answered⟩
    intro ex' live
    rcases moves.asking sound alone (fun value resolves => ⟨turnless value resolves, silent _⟩)
      found asking ex' live with asking | served
    · have held : request.id ∈ ex'.requests.ids := asking.sole ▸ List.mem_cons_self
      obtain ⟨r, pending, same, -⟩ := ((moves.sound sound).indexed.mem_ids live).mp held
      exact absurd same (unlisted r pending)
    · exact served

/-- An answer to a request leaves another request as it is, or it fills the slot with what the
callback makes of it. -/
theorem respond (h : Unfilled request asker s) (sound : Moment.Sound ⟨s, [], []⟩)
    (equipped : Equipped s) (id : RequestId) (response : Val) :
    let s' := (s.respond id response).value.2
    (request ∈ s'.requests.pending → Unfilled request asker s') ∧
      (request ∉ s'.requests.pending →
        Filled request asker ((request.callback request.entity response).getD .sentinel) s') := by
  dsimp only
  unfold Scheduler.respond
  split
  · exact ⟨fun _ => h, fun resolved => absurd h.pending resolved⟩
  · next r unhandled =>
    have pending := (RequestTable.mem_of_get? (RequestTable.get?_of_unhandled? unhandled)).1
    let value := r.callback r.entity response
    let may : Act → Prop := fun act => act = .answer (value.getD .sentinel)
    have moves : MovesBy may ⟨s, [], []⟩ _ ⟨(s.resolve r value).value, [], []⟩ :=
      .one (.resolve unhandled value rfl)
    have alone : ¬ may (.adopt request.pid) := by simp [may]
    have silent : ∀ pid, ¬ may (.ask pid) := by simp [may]
    have turnless : ¬ may (.turn request.pid) := by simp [may]
    refine ⟨h.of_pending sound moves alone fun _ _ => ⟨turnless, silent _⟩, ?_⟩
    intro resolved
    obtain rfl := eq_of_resolve sound.indexed h.pending pending resolved
    obtain ⟨ex, found, -⟩ := h.waiting
    have live : ((s.resolve request value).value.get? request.pid).isSome = true :=
      ((Alters.resolve value).isSome_get? request.pid).trans (found ▸ rfl)
    obtain ⟨ex', isLive⟩ := Option.isSome_iff_exists.mp live
    obtain ⟨scripts, -⟩ :=
      h.of_resolved sound equipped moves alone silent (fun _ _ => turnless) resolved
    obtain ⟨given, served, answers | ⟨-, expires⟩⟩ := scripts ex' isLive
    · obtain rfl := Act.answer.inj answers
      exact ⟨ex', isLive, served⟩
    · exact absurd expires (by simp [may])

/-- When an operation ends a request without an answer its script is removed and given the sentinel,
or it finds the sentinel in its slot. -/
theorem ended {config : SchedulerConfig} {engine : Option Engine} (h : Unfilled request asker s)
    (reached : Reachable config engine s) (moves : MovesBy op.Does ⟨s, [], []⟩ entries ⟨s', [], []⟩)
    (alone : ¬ op.Does (.adopt request.pid)) (silent : ∀ pid, ¬ op.Does (.ask pid))
    (aborts : ∀ value, op.Does (.answer value) → value = .sentinel)
    (resolved : request ∉ s'.requests.pending) :
    (op.Removes request.pid → s'.get? request.pid = none ∧
      answersTo request.id entries = [.delivered request.pid request.id .sentinel]) ∧
    (¬ op.Removes request.pid → Filled request asker .sentinel s') := by
  have sound := reached.sound
  obtain ⟨scripts, value, given, once⟩ := h.of_resolved sound reached.equipped moves alone silent
    (fun _ resolves => (Operation.calm resolves _).1) resolved
  constructor
  · intro removes
    obtain rfl : value = .sentinel := given.elim id (aborts value)
    refine ⟨?_, once⟩
    cases live : s'.get? request.pid with
    | none => rfl
    | some ex =>
      obtain ⟨_, -, resolves⟩ := scripts ex live
      exact absurd resolves (Operation.not_resolves_of_removes removes)
  · intro kept
    obtain ⟨unended, safe⟩ := Operation.not_removes kept
    obtain ⟨ex, found, asking⟩ := h.waiting
    have live := moves.stays sound reached.staffed alone
      (fun _ resolves => Operation.calm resolves _) unended safe found asking
    obtain ⟨ex', isLive⟩ := Option.isSome_iff_exists.mp live
    obtain ⟨given, served, resolves⟩ := scripts ex' isLive
    obtain rfl : given = .sentinel := resolves.elim (aborts given) And.left
    exact ⟨ex', isLive, served⟩

/-- An operation that leaves the request pending leaves the script waiting. When it ends the
request, the script is removed and given the sentinel if the operation removes the script, and finds
what the operation replies in its slot otherwise. -/
theorem perform {config : SchedulerConfig} {engine : Option Engine} (h : Unfilled request asker s)
    (reached : Reachable config engine s)
    (childless : ∀ program, op ≠ .runScript request.pid program)
    (unedited : ∀ edit, op ≠ .edit request.pid edit)
    (performed : s.perform patience op = some ran) :
    (request ∈ ran.value.2.requests.pending → Unfilled request asker ran.value.2) ∧
      (request ∉ ran.value.2.requests.pending →
        (op.Removes request.pid → ran.value.2.get? request.pid = none ∧
          answersTo request.id ran.entries = [.delivered request.pid request.id .sentinel]) ∧
        (¬ op.Removes request.pid →
          Filled request asker (op.reply request) ran.value.2)) := by
  have sound := reached.sound
  have equipped := reached.equipped
  have alone := Operation.not_adopts childless
  rcases Reachable.edit_or_moves_doing reached.numbered performed with
    ⟨pid, edit, edited, rfl, isEdited, eq⟩ | moves
  · rw [eq]
    refine ⟨fun pending => ⟨pending, ?_⟩, fun resolved => absurd h.pending resolved⟩
    have apart : request.pid ≠ (edit.apply edited).pid := by
      rw [(edit.seat_apply edited).2, pid_of_get? isEdited]
      rintro rfl
      exact unedited edit rfl
    obtain ⟨ex, found, asking⟩ := h.waiting
    exact ⟨ex, (get?_store_of_ne apart).trans found, asking⟩
  have waits : request ∈ ran.value.2.requests.pending → Unfilled request asker ran.value.2 :=
    h.of_pending sound moves alone fun _ resolves => Operation.calm resolves _
  refine ⟨waits, ?_⟩
  cases op with
  | request other entity kind callback =>
    obtain rfl := Option.some.inj performed
    exact fun resolved => absurd (pending_register sound.indexed h.pending) resolved
  | requestWithTimeout now other entity kind timeout callback =>
    obtain rfl := Option.some.inj performed
    exact fun resolved => absurd (pending_register sound.indexed h.pending) resolved
  | respond id response =>
    obtain rfl := Option.some.inj performed
    exact fun resolved => ⟨False.elim, fun _ => (h.respond sound equipped id response).2 resolved⟩
  | respondToEntity entity kind hint response =>
    obtain rfl := Option.some.inj performed
    refine fun resolved => ⟨False.elim, fun _ => ?_⟩
    unfold Scheduler.respondToEntity at resolved ⊢
    split at resolved
    · exact absurd h.pending resolved
    · next id _ => exact (h.respond sound equipped id response).2 resolved
  -- all other operations remove the script or resolve with the sentinel
  | _ => exact h.ended reached moves alone (by simp [Operation.Does]) (by simp [Operation.Does])

end Unfilled

end Scheduler

/-! ### From the request to its end -/

namespace Scheduler

/-- The script of a request is suspended since it was `asker`: it is blocked and not in the ready
queue, the request is the only one that it has, it has run nothing, and its stack is as it was with
an empty slot on top. -/
structure Suspended (request : Request) (asker : Executor) (t : Scheduler) (ex : Executor) :
    Prop where
  found : t.get? request.pid = some ex
  blocked : ex.isBlocked = true
  held : ex.requests.ids = [request.id]
  only : ∀ r ∈ t.requests.pending, r.pid = request.pid → r = request
  unready : request.pid ∉ t.ready
  runtime : ex.runtime = asker.runtime
  instrCycles : ex.instrCycles = asker.instrCycles
  stack : ex.stack = .sentinel :: asker.stack

/-- The script of a request goes on as it was as `asker`, with a value on top of its stack: it is
not blocked, has no request and no timer, and is in the ready queue once unless it is halted. -/
structure Resumed (request : Request) (asker : Executor) (value : Val) (t : Scheduler)
    (ex : Executor) : Prop where
  found : t.get? request.pid = some ex
  free : ex.isBlocked = false
  idle : ∀ r ∈ t.requests.pending, r.pid ≠ request.pid
  untimed : ∀ key, (key, request.pid) ∉ t.timeouts
  ready : t.ready.count request.pid = if ex.halted then 0 else 1
  runtime : ex.runtime = asker.runtime
  instrCycles : ex.instrCycles = asker.instrCycles
  stack : ex.stack = value :: asker.stack

/-- The script of a request is removed by an operation: it has got the sentinel, once, and if it is
handed back its stack is as it was with the sentinel on top. -/
structure Dropped (request : Request) (asker : Executor) (op : Operation)
    (ran : Logged (Answer × Scheduler)) : Prop where
  gone : ran.value.2.get? request.pid = none
  sentinel : answersTo request.id ran.entries = [.delivered request.pid request.id .sentinel]
  handedBack : op = .deschedule request.pid →
    ∃ ex, ran.value.1 = .removed (some ex) ∧ ex.stack = .sentinel :: asker.stack

section Ends

variable {config : SchedulerConfig} {engine : Option Engine} {t : Scheduler} {request : Request}
  {asker : Executor} {value : Val}

/-- The script of an unfilled slot is suspended. -/
theorem Unfilled.suspended (h : Unfilled request asker t) (reached : Reachable config engine t)
    (alone : t.Alone request.pid) : ∃ ex, Suspended request asker t ex := by
  obtain ⟨ex, found, asking⟩ := h.waiting
  have indexed := reached.indexed
  refine ⟨ex, found, asking.lone.isBlocked.trans asking.waits.1, asking.sole, ?_, ?_,
    asking.runtime, asking.instrCycles, asking.stack⟩
  · intro r pending own
    have held : r.id ∈ ex.requests.ids := (indexed.mem_ids found).mpr ⟨r, pending, rfl, own⟩
    rw [asking.sole] at held
    exact Holder.eq_of_id indexed.table.nodup pending h.pending (List.mem_singleton.mp held)
  · exact (alone.queues.absent found asking.lone.bytecode asking.held).1

/-- The script of a filled slot goes on. -/
theorem Filled.resumed (h : Filled request asker value t) (reached : Reachable config engine t)
    (alone : t.Alone request.pid) : ∃ ex, Resumed request asker value t ex := by
  obtain ⟨ex, found, served⟩ := h
  have lone := served.lone
  have awake : ex.isBlocked = false := lone.isBlocked.trans served.free
  refine ⟨ex, found, awake, ?_, ?_, ?_, served.runtime, served.instrCycles, served.stack⟩
  · intro r pending own
    have held : r.id ∈ ex.requests.ids :=
      (reached.indexed.mem_ids found).mpr ⟨r, pending, rfl, own⟩
    rw [served.idle] at held
    exact absurd held List.not_mem_nil
  · intro key timed
    have timer := (reached.placed.timeouts request.pid key).mp timed
    have list := (reached.placed.timer_iff request.pid).mp (Option.isSome_of_eq_some timer)
    rw [seat_of_get? found] at list
    exact absurd (awake.symm.trans (lone.timely.sleeps list)) (by decide)
  · have count := alone.queues.live ex found lone.bytecode
    rw [List.append_nil] at count
    rw [count]
    cases halted : ex.halted with
    | true =>
      have parked := lone.coherent.halted.mp halted
      rw [parked]
      rfl
    | false => rw [if_pos (lone.place served.free halted), if_neg Bool.false_ne_true]

/-- A script that is removed while its slot is empty is handed back with the sentinel in the
slot. -/
theorem Unfilled.handedBack (h : Unfilled request asker t) (reached : Reachable config engine t)
    {patience : Nat} {ran : Logged (Answer × Scheduler)}
    (performed : t.perform patience (.deschedule request.pid) = some ran) :
    ∃ ex, ran.value.1 = .removed (some ex) ∧ ex.stack = .sentinel :: asker.stack := by
  obtain ⟨ex, found, asking⟩ := h.waiting
  obtain rfl := Option.some.inj performed
  refine ⟨ex.discharged, congrArg Answer.removed (reached.removes found).back, ?_⟩
  have asked : (ex.requests.isEmpty || ex.isEngine) = false := by
    rw [asking.lone.bytecode, Bool.or_false]
    unfold Holder.isEmpty
    rw [asking.sole]
    rfl
  unfold Executor.discharged
  rw [asked, asking.stack]
  rfl

end Ends

end Scheduler

/-- A script that has made a request waits for the answer. -/
theorem Operation.Asks.unfilled {config : SchedulerConfig} {engine : Option Engine} {s : Scheduler}
    {pid : Pid} {asker : Executor} {entity : EntityId} {kind : RequestKind} {callback : Callback}
    {op : Operation} {patience : Nat} {ran : Logged (Answer × Scheduler)} {id : RequestId}
    (asks : op.Asks pid entity kind callback) (reached : Reachable config engine s)
    (alone : s.Alone pid) (found : s.get? pid = some asker) (bytecode : asker.isEngine = false)
    (performed : s.perform patience op = some ran) (made : ran.value.1 = .requested (some id)) :
    ran.value.2.Alone pid ∧ Unfilled { id, pid, entity, kind, callback } asker ran.value.2 := by
  have childless : ∀ program, op ≠ .runScript pid program := by
    rintro program rfl
    cases asks
  have after := alone.perform reached childless performed
  refine ⟨after, ?_⟩
  obtain ⟨wake, rfl⟩ := asks.registers performed
  have answer : (s.register pid entity kind wake callback).value.1 = some id := by
    simpa [answering] using made
  obtain ⟨pending, -, ex, holder, isAsker, able, added, live⟩ :=
    register_made reached.indexed answer
  obtain rfl := Option.some.inj (found.symm.trans isAsker)
  obtain ⟨free, sleepy⟩ := (alone.lone asker found bytecode).of_mayAsk able
  have idle := (alone.lone asker found bytecode).idle free
  have same : ({ (asker.suspend wake).openResultSlot with requests := holder }.mapThread
      (Thread.held s.nextTimerSeq)).isEngine = false := by
    rw [Executor.openResultSlot_suspend bytecode sleepy]
    exact bytecode
  refine ⟨?_, _, live, ⟨after.lone _ live same, ?_, ?_, ?_⟩, Executor.ids_of_add? idle added⟩
  · change _ ∈ (s.register pid entity kind wake callback).value.2.requests.pending
    rw [pending]
    exact List.mem_append_right _ List.mem_cons_self
  · rw [Executor.openResultSlot_suspend bytecode sleepy]
    rfl
  · rw [Executor.openResultSlot_suspend bytecode sleepy]
    rfl
  · rw [Executor.openResultSlot_suspend bytecode sleepy]
    rfl

/-- As long as a request is pending its script waits for the answer, unless it launches a child or
is edited. -/
theorem History.unfilled {config : SchedulerConfig} {engine : Option Engine} {s t : Scheduler}
    {later : List Performed} {request : Request} {asker : Executor} (history : History s later t)
    (reached : Reachable config engine s) (start : Unfilled request asker s)
    (childless : ∀ step ∈ later, ∀ program, step.op ≠ .runScript request.pid program)
    (unedited : ∀ step ∈ later, ∀ edit, step.op ≠ .edit request.pid edit)
    (pending : ∀ step ∈ later, request ∈ step.state.requests.pending)
    (still : request ∈ t.requests.pending) : Unfilled request asker t := by
  induction history with
  | refl => exact start
  | step before performed ih =>
    obtain ⟨childless, noChild⟩ := List.forall_mem_append.mp childless
    obtain ⟨unedited, noEdit⟩ := List.forall_mem_append.mp unedited
    obtain ⟨pending, last⟩ := List.forall_mem_append.mp pending
    have waits := ih childless unedited pending (last _ List.mem_cons_self)
    exact (waits.perform (before.reachable reached) (noChild _ List.mem_cons_self)
      (noEdit _ List.mem_cons_self) performed).1 still

/-- A request suspends its script and fills exactly its own slot. Let a bytecode script that never
launches a child make a request, and let later operations neither launch a child of it nor edit it.
As long as the request is pending the script is suspended. The operation that ends the request
removes the script and gives it the sentinel, or fills the slot with its reply and lets the script
go on. -/
theorem History.fillsSlot {config : SchedulerConfig} {engine : Option Engine} {s t : Scheduler}
    {past later : List Performed} {pid : Pid} {asker : Executor} {entity : EntityId}
    {kind : RequestKind} {callback : Callback} {op : Operation} {patience : Nat}
    {asked : Logged (Answer × Scheduler)} {id : RequestId}
    (before : History (.empty config engine) past s)
    (found : s.get? pid = some asker) (bytecode : asker.isEngine = false)
    (asks : op.Asks pid entity kind callback) (performed : s.perform patience op = some asked)
    (made : asked.value.1 = .requested (some id)) (after : History asked.value.2 later t)
    (childless : ∀ step ∈ past ++ later, ∀ program, step.op ≠ .runScript pid program)
    (unedited : ∀ step ∈ later, ∀ edit, step.op ≠ .edit pid edit) :
    let request : Request := { id, pid, entity, kind, callback }
    (∀ step ∈ later, request ∈ step.state.requests.pending) → request ∈ t.requests.pending →
    (∃ ex, Suspended request asker t ex) ∧
      ∀ (patience : Nat) (last : Operation) (ran : Logged (Answer × Scheduler)),
        (∀ program, last ≠ .runScript pid program) → (∀ edit, last ≠ .edit pid edit) →
        t.perform patience last = some ran → request ∉ ran.value.2.requests.pending →
        (last.Removes pid → Dropped request asker last ran) ∧
          (¬ last.Removes pid →
            ∃ ex, Resumed request asker (last.reply request) ran.value.2 ex) := by
  intro request pending still
  obtain ⟨never, noChild⟩ := List.forall_mem_append.mp childless
  have reached : Reachable config engine s := before.reachable .empty
  -- with no child launched under it the script waits for nothing but the request
  have alone : s.Alone pid := before.alone .empty (.empty config engine pid) never
  obtain ⟨begun, unfilled⟩ := asks.unfilled reached alone found bytecode performed made
  have next : Reachable config engine asked.value.2 := reached.perform performed
  have later : Reachable config engine t := after.reachable next
  have waits : Unfilled request asker t :=
    after.unfilled next unfilled noChild unedited pending still
  have lonely : t.Alone pid := after.alone next begun noChild
  refine ⟨waits.suspended later lonely, ?_⟩
  intro patience last ran calm uncut ends resolved
  obtain ⟨dropped, filled⟩ := (waits.perform later calm uncut ends).2 resolved
  have final : ran.value.2.Alone pid := lonely.perform later calm ends
  refine ⟨?_, fun kept => (filled kept).resumed (later.perform ends) final⟩
  intro removes
  obtain ⟨gone, sentinel⟩ := dropped removes
  refine ⟨gone, sentinel, ?_⟩
  rintro rfl
  exact waits.handedBack later ends

/-- A script with a value on its stack asks an entity for a text. While it waits an event comes and
another script is launched and has its turn; then it is answered, the answer lies on its value, and
the script is in the ready queue. -/
theorem fillsSlot_answered : ∃ past s asker asked later t ran ex,
    History (.empty {} none) past s ∧ s.get? ⟨1⟩ = some asker ∧ asker.stack = [.long 3] ∧
    s.perform 1 (.request ⟨1⟩ ⟨7⟩ .textEntry fun _ response => some response) = some asked ∧
    History asked.value.2 later t ∧ later.map Performed.op =
      [.start (.bytecode "other" [.sleep 5, .ret]), .signal ⟨1⟩ (.long 9), .runReady 1] ∧
    t.perform 1 (.respond ⟨1⟩ (.long 7)) = some ran ∧
    Resumed ⟨⟨1⟩, ⟨1⟩, ⟨7⟩, .textEntry, fun _ response => some response, false⟩ asker (.long 7)
      ran.value.2 ex ∧ ex.stack = [.long 7, .long 3] := by
  have launched : History (.empty {} none) _ _ :=
    @History.step _ _ _ 1 (.edit ⟨1⟩ (.push (.long 3))) _
      (@History.step _ _ _ 1 (.start (.bytecode "asker" [.sleep 100, .ret])) _
        (.refl (.empty {} none)) rfl) rfl
  have asks : (Operation.request ⟨1⟩ ⟨7⟩ .textEntry fun _ response => some response).Asks ⟨1⟩ ⟨7⟩
      .textEntry fun _ response => some response := .request
  obtain ⟨-, ends⟩ := launched.fillsSlot rfl rfl asks
    (show Scheduler.perform _ 1 _ = some _ from rfl) rfl
    (@History.step _ _ _ 1 (.runReady 1) _ (@History.step _ _ _ 1 (.signal ⟨1⟩ (.long 9)) _
      (@History.step _ _ _ 1 (.start (.bytecode "other" [.sleep 5, .ret])) _ (.refl _) rfl) rfl) rfl)
    (by simp) (by simp) (by
      simp only [List.forall_mem_append, List.forall_mem_singleton]
      exact ⟨⟨⟨List.forall_mem_nil _, List.mem_cons_self⟩, List.mem_cons_self⟩, List.mem_cons_self⟩)
    List.mem_cons_self
  obtain ⟨ex, resumed⟩ :=
    (ends 1 (.respond ⟨1⟩ (.long 7)) _ (by simp) (by simp) rfl List.not_mem_nil).2 id
  exact ⟨_, _, _, _, _, _, _, ex, launched, rfl, rfl, rfl,
    @History.step _ _ _ 1 (.runReady 1) _ (@History.step _ _ _ 1 (.signal ⟨1⟩ (.long 9)) _
      (@History.step _ _ _ 1 (.start (.bytecode "other" [.sleep 5, .ret])) _ (.refl _) rfl) rfl) rfl,
    rfl, rfl, resumed, resumed.stack⟩

end ScriptScheduler
