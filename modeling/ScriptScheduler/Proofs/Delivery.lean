import ScriptScheduler.Proofs.Recurrence
import ScriptScheduler.Proofs.Routing
import ScriptScheduler.Proofs.Slots

/-!
# Requests are resolved once

A pending request ends in a single operation. In this operation its owner is given what the
operation replies: a bytecode script in the slot on top of its stack, an engine script through the
engine (`Reachable.delivers`). Before this operation the owner is given nothing in answer to the
request, and after it nothing more, so that along every run exactly one answer is given
(`Reachable.resolvedOnce`), as long as no later request is given the same number.
-/

namespace ScriptScheduler

open Scheduler

/-! ### Moves without answers -/

section Moves

variable {may : Act → Prop} {m m' : Moment} {entries : List Entry} {request : Request}
  {owner ex : Executor} {id : RequestId}

/-- A change that is neither a request nor the end of one leaves the requests of a script alone. -/
theorem Executor.ChangeBy.requests {gone : Pid → Prop} {wrapped : Prop} {a b : Executor}
    (change : ChangeBy gone wrapped may a b) (silent : ¬ may (.ask a.pid))
    (unanswered : ∀ value, ¬ Resolves may value) : b.requests = a.requests := by
  cases change with
  | preempted _ slice => exact slice.carries.requests
  | slept _ slice => exact slice.carries.requests
  | stopped _ slice => exact slice.carries.requests
  | answered _ value allowed => exact absurd (.inl allowed) (unanswered value)
  | timedOut _ allowed => exact absurd (.inr ⟨rfl, allowed⟩) (unanswered .sentinel)
  | requested _ _ _ _ allowed => exact absurd allowed silent
  | takenBack _ _ allowed => exact absurd allowed silent
  | awaited able =>
    unfold Executor.suspend
    split <;> rfl
  | _ => rfl

/-- As long as its owner is live a request is pending after moves that neither make requests nor end
any. -/
theorem MovesBy.pending_of_live (moves : MovesBy may m entries m') (sound : m.Sound)
    (silent : ∀ pid, ¬ may (.ask pid)) (unanswered : ∀ value, ¬ Resolves may value)
    (pending : request ∈ m.state.requests.pending) (found : m.state.get? request.pid = some owner)
    (live : m'.state.get? request.pid = some ex) :
    ∃ r ∈ m'.state.requests.pending, r.id = request.id := by
  have same : ex.requests = owner.requests := by
    refine moves.scripts (P := fun ex => ex.requests = owner.requests) sound ?_ ?_ ?_ ex live
    · exact fun new => absurd (sound.numbers.lt_nextPid found) (Nat.not_lt_of_le new)
    · exact fun gone a b _ change before => (change.requests (silent _) unanswered).trans before
    · exact fun ex found' => Option.some.inj (found.symm.trans found') ▸ rfl
  have held : request.id ∈ owner.requests.ids :=
    (sound.indexed.mem_ids found).mpr ⟨request, pending, rfl, rfl⟩
  rw [← same] at held
  obtain ⟨r, pending, number, -⟩ := ((moves.sound sound).indexed.mem_ids live).mp held
  exact ⟨r, pending, number⟩

/-- A number under which nothing is pending remains so, and nothing is given in answer to it, as long
as no request is given this number. -/
theorem MovesBy.unlisted (moves : MovesBy may m entries m') (sound : m.Sound)
    (equipped : Equipped m.state) (absent : ∀ r ∈ m.state.requests.pending, r.id ≠ id)
    (alone : ∀ asker, Entry.asked asker id ∉ entries) :
    (∀ r ∈ m'.state.requests.pending, r.id ≠ id) ∧ answersTo id entries = [] := by
  suffices both : Equipped m'.state ∧ _ from both.2
  induction moves with
  | refl => exact ⟨equipped, absent, rfl⟩
  | @step m₂ m₃ before more moves move ih =>
    obtain ⟨equipped₂, unlisted, none⟩ :=
      ih fun asker mem => alone asker (List.mem_append_left _ mem)
    have sound₂ := moves.sound sound
    have answers := move.answers sound₂ equipped₂
    refine ⟨move.any.equipped sound₂ equipped₂, ?_, ?_⟩
    · rintro r pending rfl
      rcases answers.arrivals r pending with old | ⟨asked, -⟩
      · exact unlisted r old rfl
      · exact alone r.pid (List.mem_append_right _ asked)
    · rw [answersTo_append, none, answers.others _ unlisted, List.append_nil]

end Moves

/-! ### The operation that ends a request -/

namespace Scheduler

/-- In what is recorded as `entries` the script `owner` is given the value in answer to its request,
once. If it is live afterwards, in the state `t`, the value is in the slot on top of the stack of a
bytecode script, and the stack of an engine script, which gets its answers through the engine, is
as it was. -/
structure Gives (request : Request) (owner : Executor) (value : Val) (entries : List Entry)
    (t : Scheduler) : Prop where
  once : answersTo request.id entries = [owner.receipt request.id value]
  slot : ∀ ex, t.get? request.pid = some ex →
    ex.stack = if owner.isEngine then owner.stack else value :: owner.stack.tail

/-- In the operation `op` the script `owner` is given what the operation replies to its request; a
script that is handed back has the sentinel in its slot. -/
structure Delivers (request : Request) (owner : Executor) (op : Operation)
    (ran : Logged (Answer × Scheduler)) : Prop
    extends Gives request owner (op.reply request) ran.entries ran.value.2 where
  handedBack : op = .deschedule request.pid → ∃ ex, ran.value.1 = .removed (some ex) ∧
    ex.stack = if owner.isEngine then owner.stack else .sentinel :: owner.stack.tail

section Ends

variable {s t : Scheduler} {request : Request} {owner : Executor} {value : Val}
  {entries : List Entry} {op : Operation}

/-- Nothing more is recorded. -/
theorem Gives.append_nil (gives : Gives request owner value entries t) :
    Gives request owner value (entries ++ []) t := by
  rwa [List.append_nil]

/-- An operation that does not hand scripts back delivers what it gives. -/
theorem Gives.delivers {ran : Logged (Answer × Scheduler)}
    (gives : Gives request owner (op.reply request) ran.entries ran.value.2)
    (kept : op ≠ .deschedule request.pid) : Delivers request owner op ran :=
  { gives with handedBack := fun same => absurd same kept }

/-- A request that is aborted together with others gets the sentinel. -/
theorem Aborts.gives {chosen : Request → Bool} {ran : Logged (Nat × Scheduler)}
    (aborts : Aborts s chosen ran) (pending : request ∈ s.requests.pending)
    (found : s.get? request.pid = some owner) (ended : request ∉ ran.value.2.requests.pending) :
    Gives request owner .sentinel ran.entries ran.value.2 := by
  have isChosen : chosen request = true := by
    by_contra spared
    rw [aborts.left] at ended
    exact ended (List.mem_filter.mpr ⟨pending, by simp [spared]⟩)
  obtain ⟨ex, live, once⟩ := aborts.given request pending isChosen
  obtain rfl := Option.some.inj (found.symm.trans live)
  refine ⟨once, ?_⟩
  intro ex after
  rw [aborts.owners request pending isChosen owner found] at after
  obtain rfl := Option.some.inj after
  rfl

end Ends

end Scheduler

namespace Reachable

variable {config : SchedulerConfig} {engine : Option Engine} {s : Scheduler} {request : Request}
  {owner : Executor} {patience : Nat} {op : Operation} {ran : Logged (Answer × Scheduler)}

/-- A request that is resolved is answered with the value, or the sentinel for want of one. -/
theorem gives_resolve (reached : Reachable config engine s)
    (found : s.get? request.pid = some owner) (answer : Option Val) :
    Gives request owner (answer.getD .sentinel) (s.resolve request answer).entries
      (s.resolve request answer).value := by
  constructor
  · rw [answersTo_resolve found (reached.equipped _ owner found), if_pos rfl]
  · intro ex live
    rw [get?_resolve found, if_pos rfl] at live
    obtain rfl := Option.some.inj live
    exact Executor.stack_closed owner request answer

/-- An answer that ends a request gives its owner what the callback makes of it. -/
theorem gives_respond (reached : Reachable config engine s)
    (pending : request ∈ s.requests.pending) (found : s.get? request.pid = some owner)
    (id : RequestId) (response : Val)
    (ended : request ∉ (s.respond id response).value.2.requests.pending) :
    Gives request owner ((request.callback request.entity response).getD .sentinel)
      (s.respond id response).entries (s.respond id response).value.2 := by
  unfold respond at ended ⊢
  split at ended
  · exact absurd pending ended
  · next r unhandled =>
    have also := (RequestTable.mem_of_get? (RequestTable.get?_of_unhandled? unhandled)).1
    obtain rfl := eq_of_resolve reached.indexed pending also ended
    exact (reached.gives_resolve found _).append_nil

/-- An answer by an entity that ends a request gives its owner what the callback makes of it. -/
theorem gives_respondToEntity (reached : Reachable config engine s)
    (pending : request ∈ s.requests.pending) (found : s.get? request.pid = some owner)
    (entity : EntityId) (kind : RequestKind) (hint : Option RequestId) (response : Val)
    (ended : request ∉ (s.respondToEntity entity kind hint response).value.2.requests.pending) :
    Gives request owner ((request.callback request.entity response).getD .sentinel)
      (s.respondToEntity entity kind hint response).entries
      (s.respondToEntity entity kind hint response).value.2 := by
  unfold respondToEntity at ended ⊢
  split at ended
  · exact absurd pending ended
  · next id _ => exact (reached.gives_respond pending found id response ended).append_nil

/-- An abort that ends a request gives its owner the sentinel. -/
theorem gives_abortRequest (reached : Reachable config engine s)
    (pending : request ∈ s.requests.pending) (found : s.get? request.pid = some owner)
    (id : RequestId) (ended : request ∉ (s.abortRequest id).value.2.requests.pending) :
    Gives request owner .sentinel (s.abortRequest id).entries (s.abortRequest id).value.2 := by
  unfold abortRequest at ended ⊢
  split at ended
  · exact absurd pending ended
  · next r unhandled =>
    have also := (RequestTable.mem_of_get? (RequestTable.get?_of_unhandled? unhandled)).1
    obtain rfl := eq_of_resolve reached.indexed pending also ended
    exact (reached.gives_resolve found none).append_nil

/-- The holder of a script with a pending request is not empty. -/
theorem isEmpty_requests (reached : Reachable config engine s)
    (pending : request ∈ s.requests.pending) (found : s.get? request.pid = some owner) :
    owner.requests.isEmpty = false := by
  have held : request.id ∈ owner.requests.ids :=
    (reached.indexed.mem_ids found).mpr ⟨request, pending, rfl, rfl⟩
  exact List.isEmpty_eq_false_iff.mpr (List.ne_nil_of_mem held)

/-- A request that ends when the sleepers are woken gets the sentinel. -/
theorem gives_checkBlocked (reached : Reachable config engine s)
    (pending : request ∈ s.requests.pending) (found : s.get? request.pid = some owner)
    (now left : Nat) (ended : request ∉ (s.checkBlocked now left).value.2.requests.pending) :
    Gives request owner .sentinel (s.checkBlocked now left).entries
      (s.checkBlocked now left).value.2 := by
  have due : owner.isDue now = true := by
    by_contra early
    refine ended ((pending_checkBlocked reached.sound now left request).mpr ⟨pending, ?_⟩)
    intro ex live
    obtain rfl := Option.some.inj (found.symm.trans live)
    exact Bool.eq_false_iff.mpr early
  constructor
  · rw [answersTo_checkBlocked reached.sound reached.equipped now left pending found, if_pos due]
  · intro ex live
    rw [get?_checkBlocked reached.sound, found, Option.map_some, if_pos due] at live
    obtain rfl := Option.some.inj live
    unfold Executor.timedOut
    rw [reached.isEmpty_requests pending found, Bool.false_or]

/-- An operation that neither answers nor aborts requests ends one only by removing its owner, which
is given the sentinel. -/
theorem gives_removal (reached : Reachable config engine s)
    (pending : request ∈ s.requests.pending) (found : s.get? request.pid = some owner)
    {entries : List Entry} {s' : Scheduler}
    (moves : MovesBy op.Does ⟨s, [], []⟩ entries ⟨s', [], []⟩)
    (silent : ∀ pid, ¬ op.Does (.ask pid)) (unanswered : ∀ value, ¬ Resolves op.Does value)
    (ended : request ∉ s'.requests.pending) : Gives request owner .sentinel entries s' := by
  rcases moves.receipted reached.sound reached.equipped silent pending found with
    ⟨still, -⟩ | ⟨unlisted, value, given, once⟩
  · exact absurd still ended
  · obtain rfl : value = .sentinel :=
      given.resolve_right fun allowed => unanswered value (.inl allowed)
    refine ⟨once, ?_⟩
    intro ex live
    obtain ⟨r, still, number⟩ :=
      moves.pending_of_live reached.sound silent unanswered pending found live
    exact absurd number (unlisted r still)

/-- An operation that ends a request delivers its reply to the owner. -/
theorem delivers (reached : Reachable config engine s)
    (pending : request ∈ s.requests.pending) (found : s.get? request.pid = some owner)
    (performed : s.perform patience op = some ran)
    (ended : request ∉ ran.value.2.requests.pending) : Delivers request owner op ran := by
  have indexed := reached.indexed
  have equipped := reached.equipped
  -- an edit ends no request; everything else is made of moves
  rcases edit_or_moves_doing reached.numbered performed with
    ⟨pid, edit, edited, rfl, -, eq⟩ | moves
  · rw [eq] at ended
    exact absurd pending ended
  have removal := reached.gives_removal pending found moves
  cases op with
  | request other entity kind callback =>
    obtain rfl := Option.some.inj performed
    exact absurd (pending_register indexed pending) ended
  | requestWithTimeout now other entity kind timeout callback =>
    obtain rfl := Option.some.inj performed
    exact absurd (pending_register indexed pending) ended
  | respond id response =>
    obtain rfl := Option.some.inj performed
    exact (reached.gives_respond pending found id response ended).append_nil.delivers (by simp)
  | respondToEntity entity kind hint response =>
    obtain rfl := Option.some.inj performed
    have gives := reached.gives_respondToEntity pending found entity kind hint response ended
    exact gives.append_nil.delivers (by simp)
  | abort id =>
    obtain rfl := Option.some.inj performed
    exact (reached.gives_abortRequest pending found id ended).append_nil.delivers (by simp)
  | abortAll pid =>
    obtain rfl := Option.some.inj performed
    have gives := (aborts_abortAll indexed equipped pid).gives pending found ended
    exact gives.append_nil.delivers (by simp)
  | entityDisconnected entity =>
    obtain rfl := Option.some.inj performed
    have gives := (aborts_entityDisconnected indexed equipped entity).gives pending found ended
    exact gives.append_nil.delivers (by simp)
  | checkBlocked now left =>
    obtain rfl := Option.some.inj performed
    have gives := reached.gives_checkBlocked pending found now left ended
    exact gives.append_nil.delivers (by simp)
  | deschedule pid =>
    have gives := removal (by simp [Operation.Does]) (by simp [Resolves, Operation.Does]) ended
    refine { gives with handedBack := ?_ }
    intro same
    obtain rfl := Operation.deschedule.inj same
    obtain rfl := Option.some.inj performed
    refine ⟨owner.discharged, congrArg Answer.removed (reached.removes found).back, ?_⟩
    unfold Executor.discharged
    rw [reached.isEmpty_requests pending found, Bool.false_or]
  | _ =>
    have gives := removal (by simp [Operation.Does]) (by simp [Resolves, Operation.Does]) ended
    exact gives.delivers (by simp)

end Reachable

/-! ### Along a run -/

namespace Scheduler

/-- In the run with the record `entries` that has led from the state `start` to another one exactly
one operation has given the owner of a request anything in answer to it: up to this operation the
request was pending, and it has delivered its reply. -/
inductive EndedOnce (request : Request) (start : Scheduler) : List Entry → Scheduler → Prop
  | intro {before after : List Entry} {mid t : Scheduler} {owner : Executor} {patience : Nat}
      {op : Operation} {ran : Logged (Answer × Scheduler)} (first : Run start before mid)
      (awaits : Awaits request before mid) (found : mid.get? request.pid = some owner)
      (performed : mid.perform patience op = some ran) (delivers : Delivers request owner op ran)
      (rest : Run ran.value.2 after t) (silent : answersTo request.id after = []) :
      EndedOnce request start (before ++ ran.entries ++ after) t

/-- A request is pending for an owner of the same kind, or one operation has ended it and it is
resolved. -/
def Pursued (request : Request) (owner : Executor) (start : Scheduler) (entries : List Entry)
    (t : Scheduler) : Prop :=
  (Awaits request entries t ∧
      ∃ ex, t.get? request.pid = some ex ∧ ex.isEngine = owner.isEngine) ∨
    Resolved request owner entries t ∧ EndedOnce request start entries t

end Scheduler

section Pursuit

variable {config : SchedulerConfig} {engine : Option Engine} {start s t : Scheduler}
  {entries : List Entry} {request : Request} {owner ex : Executor} {id : RequestId} {patience : Nat}
  {op : Operation} {ran : Logged (Answer × Scheduler)}

/-- An operation that may let a script make a request makes one. -/
theorem Operation.asks_of_does {pid : Pid} (does : op.Does (.ask pid)) :
    ∃ entity kind callback, op.Asks pid entity kind callback := by
  cases op with
  | request other entity kind callback =>
    obtain rfl := Act.ask.inj does
    exact ⟨entity, kind, callback, .request⟩
  | requestWithTimeout now other entity kind timeout callback =>
    obtain rfl := Act.ask.inj does
    exact ⟨entity, kind, callback, .requestWithTimeout now timeout⟩
  | _ => simp [Operation.Does] at does

/-- In an operation a request stays pending and is not answered, or nothing is pending under its
number afterwards. -/
theorem Reachable.stays_or_ends (reached : Reachable config engine s)
    (pending : request ∈ s.requests.pending) (performed : s.perform patience op = some ran) :
    (request ∈ ran.value.2.requests.pending ∧ answersTo request.id ran.entries = []) ∨
      ∀ r ∈ ran.value.2.requests.pending, r.id ≠ request.id := by
  obtain ⟨ex, found⟩ := Option.isSome_iff_exists.mp (reached.indexed.live pending)
  rcases edit_or_moves_doing reached.numbered performed with
    ⟨pid, edit, edited, rfl, -, eq⟩ | moves
  · rw [Run.entries_edit performed, eq]
    exact .inl ⟨pending, rfl⟩
  by_cases makes : ∃ pid, op.Does (.ask pid)
  · obtain ⟨pid, does⟩ := makes
    obtain ⟨entity, kind, callback, asks⟩ := Operation.asks_of_does does
    obtain ⟨wake, rfl⟩ := asks.registers performed
    have still : request ∈ (s.register pid entity kind wake callback).value.2.requests.pending :=
      pending_register reached.indexed pending
    have answers : Answers (fun _ => True) s (s.register pid entity kind wake callback).entries _ :=
      .register reached.indexed trivial
    rcases answers.each request pending with ⟨-, none⟩ | ⟨gone, -⟩
    · exact .inl ⟨still, (congrArg (answersTo request.id) (List.append_nil _)).trans none⟩
    · exact absurd rfl (gone request still)
  · have fate := moves.receipted reached.sound reached.equipped (not_exists.mp makes) pending found
    exact fate.imp_right And.left

/-- A number under which nothing is pending remains so in an operation, and nothing is given in
answer to it, unless a request is given this number. -/
theorem Reachable.unlisted (reached : Reachable config engine s)
    (absent : ∀ r ∈ s.requests.pending, r.id ≠ id) (performed : s.perform patience op = some ran)
    (alone : ∀ asker, Entry.asked asker id ∉ ran.entries) :
    (∀ r ∈ ran.value.2.requests.pending, r.id ≠ id) ∧ answersTo id ran.entries = [] := by
  rcases edit_or_moves_doing reached.numbered performed with
    ⟨pid, edit, edited, rfl, -, eq⟩ | moves
  · rw [Run.entries_edit performed, eq]
    exact ⟨absent, rfl⟩
  · exact moves.unlisted reached.sound reached.equipped absent alone

/-- An operation that ends a pending request resolves it. -/
theorem Scheduler.Awaits.resolved (awaits : Awaits request entries t)
    (reached : Reachable config engine t) (number : owner.pid = request.pid)
    (found : t.get? request.pid = some ex) (kind : ex.isEngine = owner.isEngine)
    (performed : t.perform patience op = some ran)
    (ended : request ∉ ran.value.2.requests.pending) :
    Resolved request owner (entries ++ ran.entries) ran.value.2 := by
  have delivers := reached.delivers awaits.pending found performed ended
  have after := reached.perform performed
  have receipt : ∀ value, ex.receipt request.id value = owner.receipt request.id value :=
    Executor.receipt_congr ((pid_of_get? found).trans number.symm) kind _
  refine .of_unlisted after.indexed after.numbered
    ⟨op.reply request, op.yields_reply request, ?_⟩ ?_
  · rw [answersTo_append, awaits.unanswered, delivers.once, receipt, List.nil_append]
  · exact (reached.stays_or_ends awaits.pending performed).resolve_left fun still =>
      ended still.1

/-- A resolved request remains so in an operation, and nothing is given in answer to it, unless
another request is given its number. -/
theorem Scheduler.Resolved.perform (resolved : Resolved request owner entries t)
    (reached : Reachable config engine t) (performed : t.perform patience op = some ran)
    (alone : ∀ asker, Entry.asked asker request.id ∉ ran.entries) :
    Resolved request owner (entries ++ ran.entries) ran.value.2 ∧
      answersTo request.id ran.entries = [] := by
  obtain ⟨unlisted, silent⟩ := reached.unlisted resolved.unlisted performed alone
  obtain ⟨value, yields, once⟩ := resolved.once
  have after := reached.perform performed
  refine ⟨.of_unlisted after.indexed after.numbered ⟨value, yields, ?_⟩ unlisted, silent⟩
  rw [answersTo_append, once, silent, List.append_nil]

/-- The operation that has ended a request remains the only one that has given anything in answer to
it. -/
theorem Scheduler.EndedOnce.perform (ended : EndedOnce request start entries t)
    (performed : t.perform patience op = some ran) (silent : answersTo request.id ran.entries = []) :
    EndedOnce request start (entries ++ ran.entries) ran.value.2 := by
  cases ended with
  | intro first awaits found ends delivers rest none =>
    rw [List.append_assoc]
    refine .intro first awaits found ends delivers (rest.step performed) ?_
    rw [answersTo_append, none, silent, List.append_nil]

/-- Along a run a request stays pending and unanswered until one operation ends it, as long as no
later request is given its number. -/
theorem Run.pursued (run : Run start entries t) (reached : Reachable config engine start)
    (number : owner.pid = request.pid) (begun : Pursued request owner start [] start)
    (alone : ∀ asker, Entry.asked asker request.id ∉ entries) :
    Pursued request owner start entries t := by
  induction run with
  | refl => exact begun
  | @step mid before patience op ran first performed ih =>
    have there := first.reachable reached
    rcases ih fun asker mem => alone asker (List.mem_append_left _ mem) with
      ⟨awaits, ex, found, kind⟩ | ⟨resolved, ended⟩
    · by_cases still : request ∈ ran.value.2.requests.pending
      · obtain ⟨ex', live⟩ :=
          Option.isSome_iff_exists.mp ((there.perform performed).indexed.live still)
        obtain ⟨-, none⟩ := (there.stays_or_ends awaits.pending performed).resolve_right
          fun unlisted => unlisted request still rfl
        obtain ⟨old, was, same⟩ := (there.origin performed live).resolve_left
          (Nat.not_le_of_lt (there.numbered.lt_nextPid found))
        obtain rfl := Option.some.inj (found.symm.trans was)
        refine .inl ⟨⟨still, live ▸ rfl, ?_⟩, ex', live, same.trans kind⟩
        rw [answersTo_append, awaits.unanswered, none, List.append_nil]
      · refine .inr ⟨awaits.resolved there number found kind performed still, ?_⟩
        have delivers := there.delivers awaits.pending found performed still
        rw [← List.append_nil (before ++ ran.entries)]
        exact .intro first awaits found performed delivers (.refl _) rfl
    · obtain ⟨resolved, silent⟩ := resolved.perform there performed fun asker mem =>
        alone asker (List.mem_append_right _ mem)
      exact .inr ⟨resolved, ended.perform performed silent⟩

/-- A request that has been made is pending under its number for its owner. -/
theorem Operation.Asks.pursued {pid : Pid} {entity : EntityId} {kind : RequestKind}
    {callback : Callback} (asks : op.Asks pid entity kind callback)
    (reached : Reachable config engine s) (found : s.get? pid = some owner)
    (performed : s.perform patience op = some ran) (made : ran.value.1 = .requested (some id)) :
    Pursued { id, pid, entity, kind, callback } owner ran.value.2 [] ran.value.2 := by
  obtain ⟨wake, rfl⟩ := asks.registers performed
  have answer : (s.register pid entity kind wake callback).value.1 = some id := by
    simpa [answering] using made
  change Pursued _ owner _ [] (s.register pid entity kind wake callback).value.2
  have move : Move ⟨s, [], []⟩ _ ⟨_, [], []⟩ := .request pid entity kind wake callback
  have after := (move.sound reached.sound).indexed
  have pending : ({ id, pid, entity, kind, callback } : Request) ∈
      (s.register pid entity kind wake callback).value.2.requests.pending := by
    rw [(register_made reached.indexed answer).1]
    exact List.mem_append_right _ List.mem_cons_self
  obtain ⟨ex, live⟩ := Option.isSome_iff_exists.mp (after.live pending)
  exact .inl ⟨⟨pending, live ▸ rfl, rfl⟩, ex, live, move.kind reached.sound found live⟩

/-- A response of which the callback makes nothing is an abort. -/
theorem Scheduler.respond_eq_abortRequest {response : Val}
    (silent : ∀ r, s.requests.unhandled? id = some r → r.callback r.entity response = none) :
    s.respond id response = s.abortRequest id := by
  unfold respond abortRequest
  cases listed : s.requests.unhandled? id with
  | none => rfl
  | some r =>
    dsimp only
    rw [silent r listed]

end Pursuit

/-- A request that has been made is resolved once. Along every run, as long as no later request is
given the same number, the request is pending, its owner live and nothing given to it in answer; or
it is resolved, and one operation has ended it and delivered its reply to the owner. Every operation
that hits the pending request does so, and an answer for which the callback yields nothing is an
abort. -/
theorem Reachable.resolvedOnce {config : SchedulerConfig} {engine : Option Engine}
    {s t : Scheduler} {pid : Pid} {owner : Executor} {entity : EntityId} {kind : RequestKind}
    {callback : Callback} {op : Operation} {patience : Nat} {asked : Logged (Answer × Scheduler)}
    {id : RequestId} {entries : List Entry} (reached : Reachable config engine s)
    (found : s.get? pid = some owner) (asks : op.Asks pid entity kind callback)
    (performed : s.perform patience op = some asked)
    (made : asked.value.1 = .requested (some id)) (run : Run asked.value.2 entries t)
    (alone : ∀ asker, Entry.asked asker id ∉ entries) :
    let request : Request := { id, pid, entity, kind, callback }
    (Awaits request entries t ∨
        Resolved request owner entries t ∧ EndedOnce request asked.value.2 entries t) ∧
      (Awaits request entries t → ∀ (patience : Nat) (op : Operation)
        (ran : Logged (Answer × Scheduler)), op.Hits t request →
          t.perform patience op = some ran →
            Resolved request owner (entries ++ ran.entries) ran.value.2 ∧
              ∃ asker, t.get? pid = some asker ∧ Delivers request asker op ran) ∧
      ∀ response, callback entity response = none → t.respond id response = t.abortRequest id := by
  intro request
  have number : owner.pid = request.pid := pid_of_get? found
  have after : Reachable config engine asked.value.2 := reached.perform performed
  have later : Reachable config engine t := run.reachable after
  have fate : Pursued request owner asked.value.2 entries t :=
    run.pursued after number (asks.pursued reached found performed made) alone
  refine ⟨fate.imp_left And.left, ?_, ?_⟩
  · intro awaits patience op ran hits performed
    have ended := hits.ends later.sound awaits.pending performed
    rcases fate with ⟨-, asker, live, kind⟩ | ⟨resolved, -⟩
    · exact ⟨awaits.resolved later number live kind performed ended, asker, live,
        later.delivers awaits.pending live performed ended⟩
    · exact absurd rfl (resolved.unlisted request awaits.pending)
  · intro response none
    refine respond_eq_abortRequest fun r listed => ?_
    obtain ⟨pending, same⟩ := RequestTable.mem_of_get? (RequestTable.get?_of_unhandled? listed)
    rcases fate with ⟨awaits, -⟩ | ⟨resolved, -⟩
    · obtain rfl := Holder.eq_of_id later.indexed.table.nodup pending awaits.pending same
      exact none
    · exact absurd same (resolved.unlisted r pending)

/-- A script with a value on its stack asks an entity for a text. While it waits an event comes and
another script is launched; then it is answered, and the answer lies on its value. -/
theorem resolvedOnce_answered : ∃ s owner asked entries t ran ex,
    performAll 1 [.start (.bytecode "asker" [.sleep 100, .ret]), .edit ⟨1⟩ (.push (.long 3))]
      (.empty {} none) = some s ∧ s.get? ⟨1⟩ = some owner ∧
    s.perform 1 (.request ⟨1⟩ ⟨7⟩ .textEntry fun _ response => some response) = some asked ∧
    Run asked.value.2 entries t ∧ t.perform 1 (.respond ⟨1⟩ (.long 7)) = some ran ∧
    Resolved ⟨⟨1⟩, ⟨1⟩, ⟨7⟩, .textEntry, fun _ response => some response, false⟩ owner
      (entries ++ ran.entries) ran.value.2 ∧
    ran.value.2.get? ⟨1⟩ = some ex ∧ ex.stack = [.long 7, .long 3] := by
  have launched : performAll 1 [.start (.bytecode "asker" [.sleep 100, .ret]),
    .edit ⟨1⟩ (.push (.long 3))] (.empty {} none) = some _ := rfl
  have reached := Reachable.empty.performAll launched
  obtain ⟨fate, hits, -⟩ := @Reachable.resolvedOnce _ _ _ _ _ _ _ _ _
    (.request ⟨1⟩ ⟨7⟩ .textEntry fun _ response => some response) 1 _ ⟨1⟩ _ reached rfl .request
    rfl rfl (@Run.step _ _ _ 1 (.start (.bytecode "other" [.ret])) _
      (@Run.step _ _ _ 1 (.signal ⟨1⟩ (.long 9)) _ (Run.refl _) rfl) rfl) (by
    intro asker mem
    exact absurd (List.mem_singleton.mp mem) (by simp))
  have awaits := fate.resolve_right fun ended => ended.1.unlisted _ List.mem_cons_self rfl
  obtain ⟨resolved, asker, live, delivers⟩ :=
    hits awaits 1 (.respond ⟨1⟩ (.long 7)) _ (.respond (.long 7)) rfl
  obtain rfl := Option.some.inj live
  exact ⟨_, _, _, _, _, _, _, launched, rfl, rfl,
    @Run.step _ _ _ 1 (.start (.bytecode "other" [.ret])) _
      (@Run.step _ _ _ 1 (.signal ⟨1⟩ (.long 9)) _ (Run.refl _) rfl) rfl,
    rfl, resolved, rfl, delivers.slot _ rfl⟩

/-- A number can be answered twice. When the numbers come round again, another request has the
number of one that has been aborted, and is answered under it; and a script that is given an answer
from outside is given a second one by the answer to its request, which is still pending. -/
theorem not_resolvedOnce_recurring :
    (∃ s asked aborted t, performAll 1 [.start (.engine "clerk" "desk")]
        (.empty {} (some deferringEngine)) = some s ∧
      s.perform 1 (.request ⟨1⟩ ⟨7⟩ .textEntry fun _ response => some response) = some asked ∧
      asked.value.1 = .requested (some ⟨1⟩) ∧
      asked.value.2.perform 1 (.abort ⟨1⟩) = some aborted ∧ aborted.value.1 = .resolved true ∧
      performAll 1 ([] ++ rounds (UInt32.size - 2) ⟨1⟩ ⟨7⟩ ++
        [.request ⟨1⟩ ⟨7⟩ .textEntry fun _ response => some response]) aborted.value.2 = some t ∧
      (t.respond ⟨1⟩ (.long 7)).value.1 = true ∧
      (answersTo ⟨1⟩ (t.respond ⟨1⟩ (.long 7)).entries).length = 1) ∧
    ∃ s ex, performAll 1 [.start (.bytecode "asker" [.ret]),
        .request ⟨1⟩ ⟨7⟩ .textEntry fun _ response => some response] (.empty {} none) = some s ∧
      s.get? ⟨1⟩ = some ex ∧
      let given := ex.handleRequest ⟨1⟩ (some (.long 3)) none
      let answered := (s.store given.value).respond ⟨1⟩ (.long 7)
      given.entries = [.delivered ⟨1⟩ ⟨1⟩ (.long 3)] ∧ given.value.stack = [.long 3] ∧
        answered.value.1 = true ∧ answered.entries = [.delivered ⟨1⟩ ⟨1⟩ (.long 7)] := by
  constructor
  · have launched : performAll 1 [.start (.engine "clerk" "desk")]
      (.empty {} (some deferringEngine)) = some _ := rfl
    have reached := Reachable.empty.performAll launched
    have asked := @Reachable.perform _ _ _ 1
      (.request ⟨1⟩ ⟨7⟩ .textEntry fun _ response => some response) _ reached rfl
    have aborted := @Reachable.perform _ _ _ 1 (.abort ⟨1⟩) _ asked rfl
    have spare : Spare _ ⟨1⟩ _ := {
      numbers := aborted.numbered
      live := rfl
      ready := rfl
      untimed := List.not_mem_nil
      engine := rfl
      suspends := rfl
      unasked := rfl
      idle := rfl }
    have run := @Spare.performAll_around _ _ _ _ _ 1 [] spare (UInt32.size - 2) ⟨7⟩
      [.request ⟨1⟩ ⟨7⟩ .textEntry fun _ response => some response] rfl
      (fun _ _ _ mem => absurd mem List.not_mem_nil) (fun _ mem => absurd mem List.not_mem_nil) rfl
    -- The elaborator counts numbers of 32 bits one by one; the kernel does not.
    exact ⟨_, _, _, _, launched, rfl, rfl, rfl, rfl, run, by decide +kernel, by decide +kernel⟩
  · exact ⟨_, _, rfl, rfl, rfl, rfl, rfl, rfl⟩

end ScriptScheduler
