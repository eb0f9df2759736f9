import ScriptScheduler.Proofs.Runs

/-!
# Answers in the record

The record of an operation says which requests were answered: an answer to a bytecode script as a
delivery into the slot on its stack, an answer to an engine script as a message to the engine. The
functions of the scheduler answer exactly those requests that they take out of the table, each of
them once (`Answers`), and so does every move (`Move.answers`).
-/

namespace ScriptScheduler

/-! ### The answers in a record -/

/-- The number of the request that an entry answers. -/
def Entry.answer? : Entry → Option RequestId
  | .effect (.answered id _) => some id
  | .delivered _ id _ => some id
  | _ => none

/-- The entries of a record that answer a request. -/
def answersTo (id : RequestId) (entries : List Entry) : List Entry :=
  entries.filter fun entry => entry.answer? = some id

/-- The entry of an answer to a script: an engine script gets it through the engine, a bytecode
script on its stack. -/
def Executor.receipt (ex : Executor) (id : RequestId) (value : Val) : Entry :=
  if ex.isEngine then .effect (.answered id (value.toEngine id)) else .delivered ex.pid id value

/-- Nothing in a record is an answer. -/
def Unanswering (entries : List Entry) : Prop := ∀ entry ∈ entries, entry.answer? = none

section Records

variable {id : RequestId} {entries more : List Entry}

@[simp] theorem answersTo_nil : answersTo id [] = [] := rfl

@[simp] theorem answersTo_append :
    answersTo id (entries ++ more) = answersTo id entries ++ answersTo id more :=
  List.filter_append ..

/-- An answer is a receipt of its own request only. -/
theorem answersTo_receipt (ex : Executor) (answered : RequestId) (value : Val) :
    answersTo id [ex.receipt answered value] =
      if answered = id then [ex.receipt answered value] else [] := by
  have answer : (ex.receipt answered value).answer? = some answered := by
    unfold Executor.receipt
    split <;> rfl
  unfold answersTo
  rw [List.filter_cons, answer]
  simp

/-- Scripts of one kind and number have the same receipts. -/
theorem Executor.receipt_congr {ex other : Executor} (number : other.pid = ex.pid)
    (kind : other.isEngine = ex.isEngine) (id : RequestId) (value : Val) :
    other.receipt id value = ex.receipt id value := by
  unfold receipt
  rw [number, kind]

namespace Unanswering

/-- A record without answers has no answer to any request. -/
theorem answersTo (h : Unanswering entries) (id : RequestId) : answersTo id entries = [] := by
  refine List.filter_eq_nil_iff.mpr ?_
  intro entry mem
  rw [h entry mem]
  simp

/-- An empty record has no answers. -/
theorem nil : Unanswering [] := List.forall_mem_nil _

/-- Records without answers one after the other. -/
theorem append (h₁ : Unanswering entries) (h₂ : Unanswering more) :
    Unanswering (entries ++ more) :=
  List.forall_mem_append.mpr ⟨h₁, h₂⟩

end Unanswering

/-- What the log is told is not an answer. -/
theorem Told.unanswering (h : Told entries) : Unanswering entries := by
  intro entry mem
  obtain ⟨notice, rfl⟩ := h entry mem
  rfl

namespace Unanswering

/-- Notices are not answers. -/
theorem tellAll (notices : List Notice) : Unanswering (Logged.tellAll notices).entries :=
  (Told.tellAll notices).unanswering

/-- A notice is not an answer. -/
theorem tell (notice : Notice) : Unanswering (Logged.tell notice).entries :=
  tellAll [notice]

end Unanswering

end Records

namespace Executor

/-- A script that runs answers no request. -/
theorem Runs.unanswering {limit : Option Nat} {entries : List Entry} {ex ran : Executor}
    {outcome : SliceOutcome} (runs : ex.Runs limit entries ran outcome) : Unanswering entries :=
  runs.told.unanswering

/-! ### An answer -/

/-- What a script is given is recorded as the answer to that request, and nothing else is an
answer. -/
theorem answersTo_handleRequest (ex : Executor) (id answered : RequestId) (response : Option Val)
    (engine : Option Engine) (equipped : ex.isEngine = true → engine.isSome = true) :
    answersTo id (ex.handleRequest answered response engine).entries =
      if answered = id then [ex.receipt answered (response.getD .sentinel)] else [] := by
  rw [← answersTo_receipt]
  unfold handleRequest receipt
  cases runtime : ex.runtime with
  | engine function finished =>
    have kind : ex.isEngine = true := by simp [isEngine, runtime]
    obtain ⟨engine, rfl⟩ := Option.isSome_iff_exists.mp (equipped kind)
    simp only [kind, if_true, Logged.bind_entries, Logged.perform_entries]
    split
    · rfl
    · have told : Unanswering (Logged.tell (.noDelayedObject ex.pid answered)).entries := .tell _
      rw [answersTo_append]
      exact (congrArg _ (told.answersTo id)).trans (List.append_nil _)
  | bytecode machine =>
    have kind : ex.isEngine = false := by simp [isEngine, runtime]
    simp [kind]
  | unbound =>
    have kind : ex.isEngine = false := by simp [isEngine, runtime]
    simp [kind]

end Executor

namespace Scheduler

variable {s s' s₁ : Scheduler} {pid : Pid} {ex : Executor} {entries more : List Entry}
  {may : Act → Prop}

/-- The value may be given in answer to a request: it is the sentinel, or the answer is allowed. -/
def Given (may : Act → Prop) (value : Val) : Prop := value = .sentinel ∨ may (.answer value)

/-- Between two states exactly those requests are answered that leave the table, each once and in
the way of its owner, with the sentinel or an answer that is allowed; a request that enters the
table was allowed and given its number. -/
structure Answers (may : Act → Prop) (s : Scheduler) (entries : List Entry) (s' : Scheduler) :
    Prop where
  /-- A pending request stays and is not answered, or it leaves and is answered once. -/
  each : ∀ r ∈ s.requests.pending,
    (r ∈ s'.requests.pending ∧ answersTo r.id entries = []) ∨
    ((∀ other ∈ s'.requests.pending, other.id ≠ r.id) ∧
      ∃ ex value, s.get? r.pid = some ex ∧ Given may value ∧
        answersTo r.id entries = [ex.receipt r.id value])
  others : ∀ id, (∀ r ∈ s.requests.pending, r.id ≠ id) → answersTo id entries = []
  arrivals : ∀ r ∈ s'.requests.pending, r ∈ s.requests.pending ∨
    Entry.asked r.pid r.id ∈ entries ∧ s.issued < s'.issued ∧ may (.ask r.pid)

namespace Answers

/-- Nothing is answered while the table stays as it is. -/
theorem of_unanswering (quiet : Unanswering entries)
    (same : s'.requests.pending = s.requests.pending) : Answers may s entries s' where
  each r pending := .inl ⟨same ▸ pending, quiet.answersTo r.id⟩
  others id _ := quiet.answersTo id
  arrivals _ pending := .inl (same ▸ pending)

/-- Requests of one script are answered with the same value. -/
theorem of_owner (ids : List RequestId) {value : Val} (allowed : Given may value)
    (found : s.get? pid = some ex)
    (asked : ∀ id ∈ ids, ∃ r ∈ s.requests.pending, r.id = id)
    (own : ∀ r ∈ s.requests.pending, r.id ∈ ids → r.pid = pid)
    (given : ∀ id, answersTo id entries = if id ∈ ids then [ex.receipt id value] else [])
    (left : s'.requests.pending = s.requests.pending.filter fun r => r.id ∉ ids) :
    Answers may s entries s' where
  each r pending := by
    by_cases ends : r.id ∈ ids
    · refine .inr ⟨?_, ex, value, own r pending ends ▸ found, allowed, by rw [given, if_pos ends]⟩
      intro other kept same
      rw [left] at kept
      have stays : other.id ∉ ids := of_decide_eq_true (List.mem_filter.mp kept).2
      exact stays (same ▸ ends)
    · refine .inl ⟨?_, by rw [given, if_neg ends]⟩
      rw [left]
      exact List.mem_filter.mpr ⟨pending, decide_eq_true ends⟩
  others id absent := by
    have unasked : id ∉ ids := by
      intro mem
      obtain ⟨r, pending, same⟩ := asked id mem
      exact absent r pending same
    rw [given, if_neg unasked]
  arrivals r kept := .inl (List.mem_filter.mp (left ▸ kept)).1

/-- More is recorded, but no answer. -/
theorem append (h : Answers may s entries s') (quiet : Unanswering more) :
    Answers may s (entries ++ more) s' := by
  have same : ∀ id, answersTo id (entries ++ more) = answersTo id entries := by
    intro id
    rw [answersTo_append, quiet.answersTo, List.append_nil]
  refine ⟨?_, ?_, fun r pending => (h.arrivals r pending).imp_right fun ⟨asked, rest⟩ =>
    ⟨List.mem_append_left _ asked, rest⟩⟩
  · intro r pending
    rw [same]
    exact h.each r pending
  · intro id absent
    rw [same]
    exact h.others id absent

/-- Something is recorded before, but no answer. -/
theorem prepend (quiet : Unanswering more) (h : Answers may s entries s') :
    Answers may s (more ++ entries) s' := by
  have same : ∀ id, answersTo id (more ++ entries) = answersTo id entries := by
    intro id
    rw [answersTo_append, quiet.answersTo, List.nil_append]
  refine ⟨?_, ?_, fun r pending => (h.arrivals r pending).imp_right fun ⟨asked, rest⟩ =>
    ⟨List.mem_append_right _ asked, rest⟩⟩
  · intro r pending
    rw [same]
    exact h.each r pending
  · intro id absent
    rw [same]
    exact h.others id absent

/-- What comes after the answers leaves the table as it is. -/
theorem congr (h : Answers may s entries s') (requests : s₁.requests = s'.requests)
    (issued : s'.issued ≤ s₁.issued) : Answers may s entries s₁ := by
  refine ⟨?_, h.others, ?_⟩
  · intro r pending
    rw [requests]
    exact h.each r pending
  · intro r pending
    rw [requests] at pending
    rcases h.arrivals r pending with old | ⟨next, less, allowed⟩
    · exact .inl old
    · exact .inr ⟨next, Nat.lt_of_lt_of_le less issued, allowed⟩

end Answers

/-! ### Removal -/

/-- A request of a table is still there when another one is taken out. -/
theorem isSome_get?_take {table : RequestTable} {request : Request} {id : RequestId}
    (found : (table.get? id).isSome = true) (ne : id ≠ request.id) :
    ((table.take request).get? id).isSome = true := by
  obtain ⟨r, live⟩ := Option.isSome_iff_exists.mp found
  obtain ⟨mem, same⟩ := RequestTable.mem_of_get? live
  unfold RequestTable.get?
  rw [List.find?_isSome]
  refine ⟨r, List.mem_filter.mpr ⟨mem, ?_⟩, by simp [same]⟩
  simpa [same] using ne

/-- The requests of a removed script are answered with the sentinel, each once. -/
theorem answersTo_dropRequests (engine : Option Engine) (id : RequestId) (ids : List RequestId) :
    ∀ (ex : Executor) (table : RequestTable), ids.Nodup →
      (∀ id ∈ ids, (table.get? id).isSome = true) →
      (ex.isEngine = true → engine.isSome = true) →
      answersTo id (dropRequests engine ids ex table).entries =
        if id ∈ ids then [ex.receipt id .sentinel] else [] := by
  induction ids with
  | nil => exact fun _ _ _ _ _ => rfl
  | cons first rest ih =>
    intro ex table nodup pending equipped
    obtain ⟨new, nodup⟩ := List.nodup_cons.mp nodup
    obtain ⟨request, found⟩ := Option.isSome_iff_exists.mp (pending first List.mem_cons_self)
    have number : request.id = first := (RequestTable.mem_of_get? found).2
    have answered : (ex.handleRequest first none engine).value = ex.answered .sentinel :=
      ex.handleRequest_value first none engine
    obtain ⟨pid, kind⟩ := ex.kind_answered .sentinel
    have others := ih (ex.answered .sentinel) (table.take request) nodup
      (fun other mem => isSome_get?_take (pending other (List.mem_cons_of_mem _ mem))
        (by rintro rfl; exact new (number ▸ mem)))
      (by rw [kind]; exact equipped)
    unfold dropRequests
    rw [found]
    simp only [Logged.bind_entries, answersTo_append]
    rw [answered, others, ex.answersTo_handleRequest id first none engine equipped,
      Executor.receipt_congr pid kind]
    by_cases same : first = id
    · subst same
      rw [if_pos rfl, if_neg new, if_pos List.mem_cons_self]
      rfl
    · have ne : id ≠ first := fun eq => same eq.symm
      rw [if_neg same]
      simp [ne]

/-- The requests of a removed script are dropped from the table. -/
theorem requests_remove (s : Scheduler) (ex : Executor) :
    (s.remove ex).value.2.requests = dropFromTable ex.requests.ids s.requests := by
  rw [remove_state]
  exact requests_of_aside (aside_notifyParent.trans aside_orphan)

/-- What the removal of a script records. -/
theorem remove_entries (s : Scheduler) (ex : Executor) :
    (s.remove ex).entries = (dropRequests s.engine ex.requests.ids
      { ex.mapThread Thread.detached with requests := .empty } s.requests).entries := by
  have engine : ((s.detach ex.pid).erase ex.pid).engine = s.engine := engine_of_aside (by simp)
  have requests : ((s.detach ex.pid).erase ex.pid).requests = s.requests :=
    requests_of_aside (by simp)
  unfold remove
  simp only [Logged.bind_entries, Logged.pure_entries, List.append_nil, engine, requests]

/-- What the retirement of a script records beside its removal. -/
theorem retire_entries (s : Scheduler) (ex : Executor) (reason : ExitReason) :
    ∃ more, Unanswering more ∧ (s.retire ex reason).entries = (s.remove ex).entries ++ more := by
  unfold retire
  simp only [Logged.bind_entries]
  refine ⟨_, ?_, rfl⟩
  split
  · exact .tell _
  · exact .nil

/-- The numbers that a live script holds are those of its pending requests. -/
theorem Indexed.mem_ids (h : Indexed s) (found : s.get? pid = some ex) {id : RequestId} :
    id ∈ ex.requests.ids ↔ ∃ r ∈ s.requests.pending, r.id = id ∧ r.pid = pid := by
  rw [← holderOf_of_get? found, h.owners, Holder.mem_ids_ofRequests]
  constructor
  · rintro ⟨r, owned, same⟩
    obtain ⟨pending, own⟩ := List.mem_filter.mp owned
    exact ⟨r, pending, same, of_decide_eq_true own⟩
  · rintro ⟨r, pending, same, own⟩
    exact ⟨r, List.mem_filter.mpr ⟨pending, decide_eq_true own⟩, same⟩

/-- A live script holds no number twice. -/
theorem Indexed.nodup_ids (h : Indexed s) (found : s.get? pid = some ex) :
    ex.requests.ids.Nodup := by
  rw [← holderOf_of_get? found, h.owners]
  exact Holder.nodup_ids_ofRequests (h.table.nodup.sublist ((List.filter_sublist ..).map _))

/-- A pending request that a live script holds is its own. -/
theorem Indexed.own (h : Indexed s) (found : s.get? pid = some ex) {r : Request}
    (pending : r ∈ s.requests.pending) (held : r.id ∈ ex.requests.ids) : r.pid = pid := by
  obtain ⟨other, also, same, own⟩ := (h.mem_ids found).mp held
  rw [← Holder.eq_of_id h.table.nodup also pending same]
  exact own

namespace Answers

section Leaving

variable {now : Scheduler} {old : Executor}

/-- A removed script is given an answer to each of its requests. The removal may begin in another
state `now` with the same requests and with a new version of the script. -/
theorem remove (indexed : Indexed s) (equipped : Equipped s) (found : s.get? ex.pid = some old)
    (kind : ex.isEngine = old.isEngine) (holder : ex.requests = old.requests)
    (engine : now.engine = s.engine) (requests : now.requests = s.requests) :
    Answers may s (now.remove ex).entries (now.remove ex).value.2 := by
  have number : old.pid = ex.pid := pid_of_get? found
  have pending : ∀ id ∈ ex.requests.ids, ∃ r ∈ s.requests.pending, r.id = id := by
    intro id held
    rw [holder] at held
    obtain ⟨r, pending, same, -⟩ := (indexed.mem_ids found).mp held
    exact ⟨r, pending, same⟩
  refine of_owner ex.requests.ids (.inl rfl) found pending ?_ ?_ ?_
  · intro r pending held
    rw [holder] at held
    exact indexed.own found pending held
  · intro id
    rw [remove_entries, engine, requests]
    have dropped := answersTo_dropRequests s.engine id ex.requests.ids
      { ex.mapThread Thread.detached with requests := .empty } s.requests
      (holder ▸ indexed.nodup_ids found) (fun id held => by
        obtain ⟨r, live, rfl⟩ := pending id held
        rw [indexed.table.get?_of_mem live]
        rfl)
      (fun isEngine => equipped _ old found (kind ▸ isEngine))
    have receipt : ex.receipt id .sentinel = old.receipt id .sentinel :=
      Executor.receipt_congr number.symm kind _ _
    rw [dropped, ← receipt]
    rfl
  · rw [requests_remove, requests]
    exact (indexed.table.dropFromTable ex.requests.ids).2

/-- A retired script is given an answer to each of its requests. -/
theorem retire {reason : ExitReason} (indexed : Indexed s) (equipped : Equipped s)
    (found : s.get? ex.pid = some old) (kind : ex.isEngine = old.isEngine)
    (holder : ex.requests = old.requests) (engine : now.engine = s.engine)
    (requests : now.requests = s.requests) :
    Answers may s (now.retire ex reason).entries (now.retire ex reason).value.2 := by
  obtain ⟨more, quiet, eq⟩ := retire_entries now ex reason
  rw [eq, retire_state]
  exact ((remove indexed equipped found kind holder engine requests).append quiet).congr rfl
    (Nat.le_refl _)

/-- An engine script whose call is done is given an answer to each of its requests. -/
theorem completeExternal {value : Val} (indexed : Indexed s) (equipped : Equipped s)
    (live : now.get? pid = some ex) (found : s.get? pid = some old)
    (kind : ex.isEngine = old.isEngine) (holder : ex.requests = old.requests)
    (engine : now.engine = s.engine) (requests : now.requests = s.requests) :
    Answers may s (now.completeExternal pid value).entries
      (now.completeExternal pid value).value.2 := by
  have number : ex.pid = pid := pid_of_get? live
  have finished : (ex.finishEngine value).isEngine = old.isEngine := by
    rw [← kind]
    unfold Executor.finishEngine Executor.isEngine
    cases ex.runtime <;> rfl
  unfold Scheduler.completeExternal
  rw [live]
  simp only [Logged.bind_entries, Logged.pure_entries, List.append_nil, Logged.bind_value,
    Logged.pure_value]
  have last : s.get? (ex.finishEngine value).pid = some old := number.symm ▸ found
  exact retire indexed equipped last finished holder engine requests

/-- A script that calls the engine is given an answer to each of its requests if it is done at
once. -/
theorem invoke {function : FunctionRef} {id : RequestId} (indexed : Indexed s)
    (equipped : Equipped s) (live : now.get? ex.pid = some ex) (found : s.get? ex.pid = some old)
    (kind : ex.isEngine = old.isEngine) (holder : ex.requests = old.requests)
    (engine : now.engine = s.engine) (requests : now.requests = s.requests) :
    Answers may s (now.invoke ex function id).entries (now.invoke ex function id).value.2 := by
  have cleared : (now.store { ex with stack := [] }).get? ex.pid = some { ex with stack := [] } :=
    get?_store live rfl
  have calls : ∀ call, Unanswering (Logged.perform (.called call)).entries := by
    intro call entry mem
    rw [List.mem_singleton.mp mem]
    rfl
  unfold Scheduler.invoke
  split
  · simp only [Logged.bind_entries, Logged.bind_value]
    exact prepend (.tell _)
      (completeExternal indexed equipped live found kind holder engine requests)
  · next engine' _ =>
    simp only [Logged.bind_entries, Logged.bind_value]
    refine prepend (calls _) ?_
    split
    · exact completeExternal indexed equipped cleared found kind holder engine requests
    · simp only [Logged.bind_entries, Logged.bind_value]
      exact prepend (.tell _)
        (completeExternal indexed equipped cleared found kind holder engine requests)
    · exact of_unanswering .nil (congrArg RequestTable.pending requests)

/-- A script that goes to the engine is given an answer to each of its requests if it is done at
once. -/
theorem runExternal (indexed : Indexed s) (equipped : Equipped s) (live : now.get? pid = some ex)
    (found : s.get? pid = some old) (kind : ex.isEngine = old.isEngine)
    (holder : ex.requests = old.requests) (isEngine : ex.isEngine = true)
    (engine : now.engine = s.engine) (requests : now.requests = s.requests) :
    Answers may s (now.runExternal pid).entries (now.runExternal pid).value.2 := by
  obtain rfl : ex.pid = pid := pid_of_get? live
  have parked := get?_parkExternal_self now ex.pid
  rw [live] at parked
  obtain ⟨function, named⟩ := function?_of_isEngine isEngine
  rw [runExternal_eq parked named]
  exact invoke indexed equipped parked found kind holder
    ((engine_of_aside aside_parkExternal).trans engine)
    ((requests_of_aside aside_parkExternal).trans requests)

/-- A script that has had its turn is given an answer to each of its requests if it is retired. -/
theorem settle {outcome : SliceOutcome} (indexed : Indexed s) (equipped : Equipped s)
    (live : now.get? ex.pid = some ex) (found : s.get? ex.pid = some old)
    (kind : ex.isEngine = old.isEngine) (holder : ex.requests = old.requests)
    (isEngine : outcome = .external → ex.isEngine = true)
    (engine : now.engine = s.engine) (requests : now.requests = s.requests) :
    Answers may s (now.settle ex outcome).entries (now.settle ex outcome).value.2 := by
  have left : ∀ (last : Executor) reason, last.pid = ex.pid → last.isEngine = ex.isEngine →
      last.requests = ex.requests →
      Answers may s (now.retire last reason).entries (now.retire last reason).value.2 := by
    intro last reason number same held
    exact retire indexed equipped (number.symm ▸ found) (same.trans kind) (held.trans holder) engine
      requests
  cases outcome with
  | preempted => exact of_unanswering .nil (congrArg RequestTable.pending requests)
  | blocked =>
    exact of_unanswering .nil
      (congrArg RequestTable.pending ((requests_of_aside aside_hold).trans requests))
  | halted => exact of_unanswering .nil (congrArg RequestTable.pending requests)
  | finished => exact (left ex .finished rfl rfl rfl).append .nil
  | faulted cause =>
    exact prepend (.tell _) ((left { ex with result := some _ } .faulted rfl rfl rfl).append .nil)
  | runaway =>
    exact prepend (.tell _) ((left { ex with result := some _ } .runaway rfl rfl rfl).append .nil)
  | external =>
    exact runExternal indexed equipped live found kind holder (isEngine rfl) engine requests

end Leaving

end Answers

/-! ### Requests -/

/-- A request that is resolved is answered, and no other one. -/
theorem answersTo_resolve {request : Request} (found : s.get? request.pid = some ex)
    (equipped : ex.isEngine = true → s.engine.isSome = true) (value : Option Val)
    (id : RequestId) :
    answersTo id (s.resolve request value).entries =
      if request.id = id then [ex.receipt request.id (value.getD .sentinel)] else [] := by
  have taken : { s with requests := s.requests.take request }.get? request.pid = some ex := found
  unfold Scheduler.resolve Scheduler.deliver
  dsimp only
  rw [taken]
  simp only [Logged.bind_entries, Logged.pure_entries, List.append_nil]
  exact Executor.answersTo_handleRequest
    { ex with requests := ex.requests.remove request.kind request.id } id request.id value
    s.engine equipped

/-- Requests that are aborted are answered with the sentinel, each once, and no other one is
answered. -/
theorem answersTo_abortEach (ids : List RequestId) :
    ∀ {s : Scheduler}, Indexed s → (∀ id ∈ ids, ∃ r ∈ s.requests.pending, r.id = id) → ids.Nodup →
      (∀ r ∈ s.requests.pending, r.id ∈ ids → ∀ ex, s.get? r.pid = some ex →
        ex.isEngine = true → s.engine.isSome = true) →
      (∀ r ∈ s.requests.pending, r.id ∈ ids → ∀ ex, s.get? r.pid = some ex →
        answersTo r.id (abortEach ids s).entries = [ex.receipt r.id .sentinel]) ∧
      ∀ id ∉ ids, answersTo id (abortEach ids s).entries = [] := by
  induction ids with
  | nil => exact fun _ _ _ _ => ⟨fun _ _ mem => absurd mem List.not_mem_nil, fun _ _ => rfl⟩
  | cons first rest ih =>
    intro s indexed asked nodup equipped
    obtain ⟨request, pending, rfl⟩ := asked first List.mem_cons_self
    obtain ⟨new, nodup⟩ := List.nodup_cons.mp nodup
    obtain ⟨owner, found⟩ := Option.isSome_iff_exists.mp (indexed.live pending)
    obtain ⟨eq, self, untouched⟩ := Evolves.abortRequest_get? indexed pending found
    obtain ⟨-, left⟩ := Evolves.pending_abortRequest indexed pending
    have stays : ∀ r ∈ s.requests.pending, r.id ∈ rest →
        r ∈ (s.abortRequest request.id).value.2.requests.pending :=
      fun r live mem => Evolves.mem_abortRequest indexed pending new live mem
    -- after the first abort every script is live still, as a script of the same kind
    have kinds : ∀ {pid ex}, s.get? pid = some ex →
        ∃ ex', (s.abortRequest request.id).value.2.get? pid = some ex' ∧ ex'.pid = ex.pid ∧
          ex'.isEngine = ex.isEngine := by
      intro pid ex live
      by_cases same : pid = request.pid
      · rw [same] at live ⊢
        obtain rfl := Option.some.inj (found.symm.trans live)
        exact ⟨_, self, rfl, rfl⟩
      · exact ⟨ex, (untouched pid same).trans live, rfl, rfl⟩
    obtain ⟨owners, others⟩ := ih (eq ▸ indexed.resolve pending) (fun id mem => by
        obtain ⟨r, live, rfl⟩ := asked id (List.mem_cons_of_mem _ mem)
        exact ⟨r, stays r live mem, rfl⟩) nodup (fun r live mem ex' found' engine => by
        have live := (List.mem_filter.mp (left ▸ live)).1
        obtain ⟨ex, was⟩ := Option.isSome_iff_exists.mp (indexed.live live)
        obtain ⟨same, found, -, kind⟩ := kinds was
        obtain rfl := Option.some.inj (found'.symm.trans found)
        rw [follows_abortRequest.engine]
        exact equipped r live (List.mem_cons_of_mem _ mem) ex was (kind.symm.trans engine))
    have given : ∀ id, answersTo id (s.abortRequest request.id).entries =
        if request.id = id then [owner.receipt request.id .sentinel] else [] := by
      intro id
      unfold Scheduler.abortRequest
      rw [indexed.table.unhandled?_of_mem pending]
      simp only [Logged.bind_entries, Logged.pure_entries, List.append_nil]
      exact answersTo_resolve found (equipped request pending List.mem_cons_self owner found) none
        id
    have first : ∀ id, answersTo id (abortEach (request.id :: rest) s).entries =
        answersTo id (s.abortRequest request.id).entries ++
          answersTo id (abortEach rest (s.abortRequest request.id).value.2).entries := by
      intro id
      rw [← answersTo_append, abortEach]
      simp only [Logged.bind_entries, Logged.pure_entries, List.append_nil]
    constructor
    · intro r live mem ex owns
      rw [first, given]
      by_cases isFirst : request.id = r.id
      · obtain rfl := Holder.eq_of_id indexed.table.nodup pending live isFirst
        obtain rfl := Option.some.inj (found.symm.trans owns)
        rw [if_pos rfl, others _ new, List.append_nil]
      · have later : r.id ∈ rest := (List.mem_cons.mp mem).resolve_left (Ne.symm isFirst)
        obtain ⟨ex', live', pid, kind⟩ := kinds owns
        rw [if_neg isFirst, List.nil_append, owners r (stays r live later) later ex' live',
          Executor.receipt_congr pid kind]
    · intro id absent
      have ne : request.id ≠ id := fun same => absent (same ▸ List.mem_cons_self)
      rw [first, given, if_neg ne, others id fun mem => absent (List.mem_cons_of_mem _ mem)]
      rfl

/-- The requests of a sleeper that is woken are answered with the sentinel, each once. -/
theorem answersTo_wake (indexed : Indexed s) (found : s.get? pid = some ex)
    (equipped : ex.isEngine = true → s.engine.isSome = true) (id : RequestId) :
    answersTo id (s.wake pid).entries =
      if id ∈ ex.requests.ids then [ex.receipt id .sentinel] else [] := by
  have own : ex.pid = pid := pid_of_get? found
  have live : s.get? ex.pid = some ex := own.symm ▸ found
  unfold Scheduler.wake
  rw [found]
  dsimp only
  split
  · next none =>
    have unasked : ex.requests.ids = [] := List.isEmpty_iff.mp none
    rw [unasked, if_neg List.not_mem_nil]
    rfl
  · let up := { ex.mapThread Thread.detached with sleepCycles := ex.sleepCycles + 1 }
    have stored : (s.store up).get? pid = some up := get?_store found own
    have indexed' : Indexed (s.store up) := indexed.congr rfl (holderOf_store live rfl rfl)
    simp only [Logged.bind_entries, Logged.pure_entries, List.append_nil]
    have own : ∀ r ∈ s.requests.pending, r.id ∈ ex.requests.ids → r.pid = pid :=
      fun r pending held => indexed.own found pending held
    obtain ⟨owners, others⟩ := answersTo_abortEach ex.requests.ids indexed'
      (fun id held => ((indexed.mem_ids found).mp held).imp fun r mine => ⟨mine.1, mine.2.1⟩)
      (indexed.nodup_ids found) (fun r pending held ex' live => by
        rw [own r pending held, stored] at live
        obtain rfl := Option.some.inj live
        exact equipped)
    split
    · next held =>
      obtain ⟨r, pending, rfl, mine⟩ := (indexed.mem_ids found).mp held
      exact owners r pending held up (mine ▸ stored)
    · next absent => exact others id absent

/-- The requests of a sleeper that is woken leave the table. -/
theorem pending_wake (indexed : Indexed s) (found : s.get? pid = some ex) :
    (s.wake pid).value.requests.pending =
      s.requests.pending.filter fun r => r.id ∉ ex.requests.ids := by
  have own : ex.pid = pid := pid_of_get? found
  have live : s.get? ex.pid = some ex := own.symm ▸ found
  unfold Scheduler.wake
  rw [found]
  dsimp only
  split
  · next none =>
    have unasked : ex.requests.ids = [] := List.isEmpty_iff.mp none
    simp only [Logged.pure_value, unasked, List.not_mem_nil, not_false_eq_true, decide_true,
      List.filter_true]
    exact congrArg RequestTable.pending (requests_of_aside (by simp))
  · let up := { ex.mapThread Thread.detached with sleepCycles := ex.sleepCycles + 1 }
    have stored : (s.store up).get? pid = some up := get?_store found own
    have indexed' : Indexed (s.store up) := indexed.congr rfl (holderOf_store live rfl rfl)
    simp only [Logged.bind_value, Logged.pure_value]
    rw [requests_of_aside aside_schedule]
    exact (Evolves.abortEach_get? ex.requests.ids indexed'
      (fun id held => ((indexed.mem_ids found).mp held).imp fun r mine => ⟨mine.1, mine.2.1⟩)
      (indexed.nodup_ids found)).1

namespace Answers

/-- A request that is resolved is answered and leaves the table. -/
theorem resolve {request : Request} (indexed : Indexed s) (equipped : Equipped s)
    (pending : request ∈ s.requests.pending) (value : Option Val)
    (allowed : may (.answer (value.getD .sentinel))) :
    Answers may s (s.resolve request value).entries (s.resolve request value).value := by
  obtain ⟨ex, found⟩ := Option.isSome_iff_exists.mp (indexed.live pending)
  refine of_owner [request.id] (.inr allowed) found ?_ ?_ ?_ ?_
  · intro id mem
    exact ⟨request, pending, (List.mem_singleton.mp mem).symm⟩
  · intro r live mem
    rw [Holder.eq_of_id indexed.table.nodup live pending (List.mem_singleton.mp mem)]
  · intro id
    rw [answersTo_resolve found (equipped _ ex found)]
    by_cases same : request.id = id
    · subst same
      rw [if_pos rfl, if_pos List.mem_cons_self]
    · have ne : id ∉ [request.id] := fun mem => same (List.mem_singleton.mp mem).symm
      rw [if_neg same, if_neg ne]
  · rw [resolve_eq found, requests_of_aside aside_schedule]
    change (s.requests.take request).pending = _
    rw [(indexed.table.take pending).2]
    simp

/-- The requests of a sleeper that is woken are aborted. -/
theorem wake (indexed : Indexed s) (equipped : Equipped s) :
    Answers may s (s.wake pid).entries (s.wake pid).value := by
  cases found : s.get? pid with
  | none =>
    unfold Scheduler.wake
    rw [found]
    exact of_unanswering .nil rfl
  | some ex =>
    refine of_owner ex.requests.ids (.inl rfl) found ?_ ?_
      (answersTo_wake indexed found (equipped _ ex found)) (pending_wake indexed found)
    · intro id held
      obtain ⟨r, pending, same, -⟩ := (indexed.mem_ids found).mp held
      exact ⟨r, pending, same⟩
    · exact fun r pending held => indexed.own found pending held

/-- When a script may make a request, the number of the request is recorded. -/
theorem register_entries {entity : EntityId} {kind : RequestKind} {wake : Nat}
    {callback : Callback} (found : s.get? pid = some ex) (able : ex.mayAsk = true) :
    (s.register pid entity kind wake callback).entries = [.asked pid s.nextRequestId] := by
  unfold Executor.mayAsk at able
  have suspendable : ¬ ex.options.runToCompletion = true := by
    intro runs
    simp [runs] at able
  have free : ¬ (!ex.isEngine && ex.isBlocked) = true := by
    intro blocked
    cases isEngine : ex.isEngine <;> simp_all
  unfold Scheduler.register
  rw [found]
  dsimp only
  rw [if_neg suspendable, if_neg free]
  dsimp only [Logged.bind_entries, Logged.ask_entries]
  split
  · rfl
  · split <;> rfl

/-- A request that is made is not answered, and no other one is. -/
theorem register {entity : EntityId} {kind : RequestKind} {wake : Nat} {callback : Callback}
    (indexed : Indexed s) (allowed : may (.ask pid)) :
    Answers may s (s.register pid entity kind wake callback).entries
      (s.register pid entity kind wake callback).value.2 := by
  have quiet : Unanswering (s.register pid entity kind wake callback).entries := by
    unfold Scheduler.register
    split
    · exact .tell _
    · split
      · exact .nil
      · split
        · exact .tell _
        · dsimp only [Logged.bind_entries]
          refine Unanswering.append ?_ ?_
          · intro entry mem
            rw [List.mem_singleton.mp mem]
            rfl
          · split
            · exact .nil
            · split
              · exact .nil
              · exact .nil
  have made := registered s pid entity kind wake callback
  generalize (s.register pid entity kind wake callback).value.1 = id at made
  generalize (s.register pid entity kind wake callback).value.2 = after at made ⊢
  cases made with
  | refused => exact of_unanswering quiet rfl
  | takenBack => exact of_unanswering quiet rfl
  | @asked ex holder table found able added inserted =>
    -- only here is the table another one: the new request stands at its end
    obtain ⟨-, pending, -⟩ := indexed.table.insert? inserted rfl
    have requests : (({ s with issued := s.issued + 1, requests := table }.store
        { (ex.suspend wake).openResultSlot with requests := holder }).hold pid).requests = table :=
      requests_of_aside aside_hold
    refine ⟨?_, fun id _ => quiet.answersTo id, ?_⟩
    · intro r old
      rw [requests, pending]
      exact .inl ⟨List.mem_append_left _ old, quiet.answersTo r.id⟩
    · intro r live
      rw [requests, pending] at live
      rcases List.mem_append.mp live with old | new
      · exact .inl old
      · refine .inr ⟨?_, ?_, ?_⟩
        · rw [List.mem_singleton.mp new, register_entries found able]
          exact List.mem_cons_self
        · have same : (({ s with issued := s.issued + 1, requests := table }.store
              { (ex.suspend wake).openResultSlot with requests := holder }).hold pid).aside =
              { s with issued := s.issued + 1, requests := table }.aside := aside_hold
          have issued : _ = s.issued + 1 := congrArg Scheduler.issued same
          exact Nat.lt_of_lt_of_eq (Nat.lt_succ_self _) issued.symm
        · rw [List.mem_singleton.mp new]
          exact allowed

end Answers

end Scheduler

open Scheduler

/-! ### Moves -/

/-- A move answers exactly the requests that leave the table. -/
theorem MoveBy.answers {may : Act → Prop} {m m' : Moment} {entries : List Entry}
    (move : MoveBy may m entries m') (sound : m.Sound) (equipped : Equipped m.state) :
    Answers may m.state entries m'.state := by
  have indexed := sound.indexed
  cases move with
  | tell notices => exact .of_unanswering (.tellAll notices) rfl
  | @tellEngine m =>
    refine .of_unanswering ?_ rfl
    intro entry mem
    unfold Scheduler.tellEngine at mem
    split at mem
    · exact absurd mem List.not_mem_nil
    · obtain ⟨pid, -, eq⟩ := List.mem_filterMap.mp mem
      obtain ⟨ex, -, rfl⟩ := Option.map_eq_some_iff.mp eq
      rfl
  | start => exact .of_unanswering (.tell _) rfl
  | @startChild s _ _ parent program ran launched =>
    obtain ⟨waiting, child, -, -, -, rfl⟩ := runScript_launched launched
    have kept : ((s.enroll child).value.awaitChild parent child.pid).requests =
        (s.enroll child).value.requests := requests_of_aside aside_awaitChild
    exact .of_unanswering (Unanswering.append (.tell _) (.tell _))
      (congrArg RequestTable.pending kept)
  | startAway => exact .of_unanswering (.tell _) rfl
  | takeBatch => exact .of_unanswering .nil rfl
  | skip => exact .of_unanswering .nil rfl
  | @turn s _ _ pid ex ran outcome _ found free runs =>
    obtain ⟨now, slice⟩ := runs.slice
    have carried := slice.carries
    have number : ran.pid = pid := carried.pid.trans (pid_of_get? found)
    refine .prepend runs.unanswering (.settle indexed equipped ?_ (number.symm ▸ found)
      carried.isEngine carried.requests ?_ rfl rfl)
    · exact number.symm ▸ get?_store found number
    · rintro rfl
      exact carried.isEngine.trans slice.isEngine
  | collect => exact .of_unanswering (.tellAll _) rfl
  | @complete s _ done =>
    cases found : s.get? done.pid with
    | none =>
      unfold completeExternal
      dsimp only
      rw [found]
      exact .of_unanswering .nil rfl
    | some ex => exact .completeExternal indexed equipped found found rfl rfl rfl rfl
  | settleCall => exact .of_unanswering .nil rfl
  | @signal s _ _ pid event =>
    refine .of_unanswering ?_ ?_
    · unfold signalEvent
      split
      · exact .nil
      · split
        · exact .nil
        · exact .nil
        · exact .tell _
    · unfold signalEvent
      split
      · rfl
      · split
        · exact congrArg RequestTable.pending (requests_of_aside aside_schedule)
        · rfl
        · rfl
  | halt halted =>
    exact .of_unanswering .nil (congrArg RequestTable.pending
      (requests_of_aside (aside_halt halted)))
  | release released =>
    exact .of_unanswering .nil (congrArg RequestTable.pending
      (requests_of_aside (aside_release released)))
  | @retire s _ _ pid ex found result reason =>
    have live : s.get? ex.pid = some ex := pid_of_get? found ▸ found
    exact .retire indexed equipped live rfl rfl rfl rfl
  | @deschedule s _ _ pid =>
    unfold Scheduler.deschedule
    cases found : s.get? pid with
    | none => exact .of_unanswering .nil rfl
    | some ex =>
      have live : s.get? ex.pid = some ex := pid_of_get? found ▸ found
      exact (Answers.remove indexed equipped live rfl rfl rfl rfl).append .nil
  | request pid entity kind wake callback allowed => exact .register indexed allowed
  | resolve pending value allowed =>
    have found := RequestTable.get?_of_unhandled? pending
    exact .resolve indexed equipped (RequestTable.mem_of_get? found).1 value allowed
  | @wake s _ _ _ _ pid rest =>
    -- the timer is struck off first, which the table does not notice
    have taken : Indexed { s with timeouts := rest } := indexed.congr rfl fun _ => rfl
    have woken : Answers may { s with timeouts := rest }
      ({ s with timeouts := rest }.wake pid).entries
      ({ s with timeouts := rest }.wake pid).value := .wake taken equipped
    exact ⟨woken.each, woken.others, woken.arrivals⟩
  | takeExits => exact .of_unanswering .nil rfl

/-- A move of any kind answers exactly the requests that leave the table. -/
theorem Move.answers {m m' : Moment} {entries : List Entry} (move : Move m entries m')
    (sound : m.Sound) (equipped : Equipped m.state) :
    Answers (fun _ => True) m.state entries m'.state :=
  MoveBy.answers move sound equipped

end ScriptScheduler
