import ScriptScheduler.Proofs.Departures

/-!
# Numbers that come round again

The numbers of requests and engine calls have 32 bits; after the last one they start again at `1`.
An engine script that asks an entity and gives up at once (`round`) uses up a number and leaves
nothing else behind (`Spare.performAll_round`). Such rounds bring every number round again while
the rest of the scheduler stays as it is (`Spare.performAll_rounds`), also a number that is still
in use.
-/

namespace ScriptScheduler

/-- A number is handed out again only after all others. -/
theorem RequestId.ofCount_ne {m n : Nat} (less : m < n) (soon : n < m + (UInt32.size - 1)) :
    ofCount m ≠ ofCount n := by
  intro same
  have again : m % 4294967295 + 1 = n % 4294967295 + 1 := congrArg RequestId.number same
  change n < m + 4294967295 at soon
  omega

/-- An engine that defers all calls. -/
def deferringEngine : Engine := ⟨fun _ => .deferred none, fun _ _ => true⟩

/-- A number that is inserted into a list and erased again leaves the list as it was. -/
theorem erase_insertPid {pid : Pid} {pids : List Pid} (absent : pid ∉ pids) :
    (insertPid pid pids).erase pid = pids := by
  induction pids with
  | nil => simp [insertPid]
  | cons other rest ih =>
    have ne : pid ≠ other := fun same => absent (same ▸ List.mem_cons_self)
    have later : pid ∉ rest := fun mem => absent (List.mem_cons_of_mem _ mem)
    unfold insertPid
    split
    · simp
    · rw [List.erase_cons_tail (by simpa using ne.symm), ih later]

namespace Scheduler

variable {s : Scheduler} {pid : Pid} {ex new : Executor}

/-! ### A script that changes and moves -/

/-- Of two versions of a script that are stored the second one stays. -/
theorem store_store (s : Scheduler) (ex new : Executor) (same : new.pid = ex.pid) :
    (s.store ex).store new = s.store new := by
  unfold store modify
  dsimp only
  rw [List.map_map]
  refine congrArg (fun executors => { s with executors := executors }) ?_
  refine List.map_congr_left fun old _ => ?_
  by_cases own : old.pid = ex.pid
  · simp [own, same]
  · simp [own, same]

/-- A version of a script that is changed after it has been stored. -/
theorem modify_store (f : Executor → Executor) (number : ex.pid = pid)
    (keeps : (f ex).pid = ex.pid) : (s.store ex).modify pid f = s.store (f ex) := by
  subst number
  unfold store modify
  dsimp only
  rw [List.map_map, keeps]
  refine congrArg (fun executors => { s with executors := executors }) ?_
  refine List.map_congr_left fun old _ => ?_
  by_cases own : old.pid = ex.pid
  · simp [own]
  · simp [own]

/-- A new version of a script is detached from where it says that it is. -/
theorem detach_store (found : s.get? pid = some ex) (number : new.pid = pid) :
    (s.store new).detach pid =
      { (s.leaveHoldList new).store (new.mapThread Thread.detached) with
        ready := s.ready.filter fun other => other ≠ pid } := by
  have left : (s.store new).leaveHoldList new = (s.leaveHoldList new).store new := by
    unfold leaveHoldList
    cases new.thread.holdList with
    | timeout => cases new.thread.timer <;> rfl
    | _ => rfl
  unfold detach
  rw [get?_store found number]
  dsimp only
  rw [left, modify_store _ number rfl]
  exact congrArg (fun ready : List Pid =>
    { (s.leaveHoldList new).store (new.mapThread Thread.detached) with
      ready := ready.filter fun other => other ≠ pid }) (ready_leaveHoldList s new)

/-- A script that has been suspended without a wake clock is held. -/
theorem hold_store (new : Executor) (found : s.get? pid = some ex) (number : new.pid = pid)
    (free : new.thread.holdList = .none) (never : new.thread.sleepUntil = Clock.never) :
    (s.store new).hold pid =
      { s.store (new.mapThread fun t => { t with timer := none, holdList := .noTimeout }) with
        ready := s.ready.filter fun other => other ≠ pid
        untimed := insertPid pid s.untimed } := by
  have stays : s.leaveHoldList new = s := by
    unfold leaveHoldList
    rw [free]
  have moved : (s.store (new.mapThread Thread.detached)).modify pid
      (fun ex => ex.mapThread fun t => { t with holdList := .noTimeout }) = _ :=
    modify_store _ number rfl
  unfold hold
  rw [get?_store found number]
  dsimp only
  rw [if_neg (by simp [free, HoldList.isFixed]), if_pos never, detach_store found number, stays]
  exact congrArg (fun t : Scheduler =>
    { t with
      ready := s.ready.filter fun other => other ≠ pid
      untimed := insertPid pid s.untimed }) moved

/-- A sleeper without a wake clock is made ready. -/
theorem schedule_store (new : Executor) (found : s.get? pid = some ex) (number : new.pid = pid)
    (held : new.thread.holdList = .noTimeout) :
    (s.store new).schedule pid =
      { s.store (new.mapThread Thread.detached) with
        ready := (s.ready.filter fun other => other ≠ pid) ++ [pid]
        untimed := s.untimed.erase pid } := by
  have leaves : s.leaveHoldList new = { s with untimed := s.untimed.erase pid } := by
    unfold leaveHoldList
    rw [held]
    exact number ▸ rfl
  have movable : (s.store new).isMovable pid = true := by
    unfold isMovable
    rw [get?_store found number]
    simp [held, HoldList.isFixed]
  unfold schedule
  rw [if_pos movable, detach_store found number, leaves]
  rfl

end Scheduler

/-! ### The last request of a table -/

/-- The holder of a single request. -/
def Holder.single (kind : RequestKind) (id : RequestId) : Holder := Holder.empty.setQueue kind [id]

/-- The first request that is registered with a holder. -/
theorem Holder.add?_empty (kind : RequestKind) (id : RequestId) :
    Holder.empty.add? kind id = some (.single kind id) := by
  cases kind <;> rfl

/-- A holder of a single request without this request. -/
theorem Holder.remove_single (kind : RequestKind) (id : RequestId) :
    (Holder.single kind id).remove kind id = .empty := by
  cases kind <;> simp [single, remove, setQueue, queue, empty]

/-- A holder of a single request has the number of this request. -/
theorem Holder.ids_single (kind : RequestKind) (id : RequestId) : (single kind id).ids = [id] := by
  cases kind <;> rfl

namespace RequestTable

variable {table : RequestTable} {request : Request}

/-- The table with one more request, to an entity that is not asked otherwise. -/
def extended (table : RequestTable) (request : Request) : RequestTable where
  pending := table.pending ++ [request]
  entities := table.entities ++ [(request.entity, .single request.kind request.id)]

section Extended

variable (new : ∀ r ∈ table.pending, r.id ≠ request.id)
  (strange : ∀ entry ∈ table.entities, entry.1 ≠ request.entity)

include strange in
/-- An entity that is not asked has no holder among those of the others. -/
theorem find?_of_strange :
    table.entities.find? (fun entry => decide (entry.1 = request.entity)) = none :=
  List.find?_eq_none.mpr fun entry mem same => strange entry mem (of_decide_eq_true same)

include new in
/-- A new number is not found. -/
theorem get?_of_new : table.get? request.id = none :=
  List.find?_eq_none.mpr fun r mem same => new r mem (of_decide_eq_true same)

include new strange in
/-- A request with a new number is inserted. -/
theorem insert?_of_strange : table.insert? request = some (table.extended request) := by
  have unheld : table.holder? request.entity = none := by
    unfold holder?
    rw [find?_of_strange strange]
    rfl
  have others : table.entities.filter (fun entry => entry.1 ≠ request.entity) = table.entities :=
    List.filter_eq_self.mpr fun entry mem => decide_eq_true (strange entry mem)
  have kept : (Holder.single request.kind request.id).isEmpty = false := by
    cases request.kind <;> rfl
  unfold insert?
  rw [get?_of_new new, unheld, if_neg (by simp), Option.getD_none, Holder.add?_empty]
  unfold setHolder
  simp only [others]
  change some (_ : RequestTable) = _
  rw [if_neg (by simp [kept])]
  rfl

include new in
/-- The last request is found under its number. -/
theorem unhandled?_extended (unhandled : request.handled = false) :
    (table.extended request).unhandled? request.id = some request := by
  have found : (table.extended request).get? request.id = some request := by
    unfold get? extended
    rw [List.find?_append, show table.pending.find? _ = none from get?_of_new new]
    simp
  unfold unhandled?
  rw [found]
  simp [unhandled]

include new strange in
/-- The table is as it was when the last request is taken out. -/
theorem take_extended : (table.extended request).take request = table := by
  have pending : (table.pending ++ [request]).filter (fun other => other.id ≠ request.id) =
      table.pending := by
    rw [List.filter_append, List.filter_eq_self.mpr fun r mem => decide_eq_true (new r mem)]
    simp
  have entities : (table.extended request).entities.filter
      (fun entry => entry.1 ≠ request.entity) = table.entities := by
    unfold extended
    rw [List.filter_append,
      List.filter_eq_self.mpr fun entry mem => decide_eq_true (strange entry mem)]
    simp
  have held : (table.extended request).holder? request.entity =
      some (.single request.kind request.id) := by
    unfold holder? extended
    rw [List.find?_append, find?_of_strange strange]
    simp
  unfold take
  rw [held, Option.getD_some]
  dsimp only
  rw [Holder.remove_single]
  unfold setHolder
  dsimp only
  rw [entities, if_pos (show Holder.empty.isEmpty = true from rfl)]
  exact congrArg (fun pending => { table with pending := pending }) pending

end Extended

end RequestTable

/-! ### Rounds -/

namespace Scheduler

/-- The engine script `ex` is the only one that is ready and waits for nothing. -/
structure Spare (s : Scheduler) (pid : Pid) (ex : Executor) : Prop where
  numbers : s.Numbered
  live : s.get? pid = some ex
  ready : s.ready = [pid]
  untimed : pid ∉ s.untimed
  engine : ex.isEngine = true
  suspends : ex.options.runToCompletion = false
  unasked : ex.requests = .empty
  idle : ex.thread = { Thread.bridged ex.thread.priority with
    critical := ex.thread.critical, warnOnRunaway := ex.thread.warnOnRunaway }

/-- A script asks an entity and gives up. -/
def round (pid : Pid) (entity : EntityId) : List Operation :=
  [.request pid entity .targetObject fun _ response => some response, .abortAll pid]

/-- A script asks an entity `n` times in vain. -/
def rounds (n : Nat) (pid : Pid) (entity : EntityId) : List Operation :=
  (List.replicate n (round pid entity)).flatten

namespace Spare

variable {s : Scheduler} {pid : Pid} {ex : Executor} {entity : EntityId} {request : Request}

/-- The script while its request is pending. -/
def asking (ex : Executor) (request : Request) : Executor :=
  { ex with
    thread := { ex.thread.suspend Clock.never with timer := none, holdList := .noTimeout }
    requests := .single request.kind request.id }

/-- The scheduler while the request is pending. -/
def awaiting (s : Scheduler) (ex : Executor) (request : Request) : Scheduler :=
  { s.store (asking ex request) with
    ready := []
    untimed := insertPid ex.pid s.untimed
    issued := s.issued + 1
    requests := s.requests.extended request }

/-- The script after the answer to its request, where it waited. -/
def answered (ex : Executor) : Executor :=
  { ex with
    thread :=
      { ex.thread.suspend Clock.never with timer := none, holdList := .noTimeout }.revive
    requests := .empty }

/-- The script makes a request. -/
theorem register_eq (spare : s.Spare pid ex) {kind : RequestKind} {callback : Callback}
    (new : ∀ r ∈ s.requests.pending, r.id ≠ s.nextRequestId)
    (strange : ∀ entry ∈ s.requests.entities, entry.1 ≠ entity) :
    (s.register pid entity kind Clock.never callback).value =
      (some s.nextRequestId,
        awaiting s ex { id := s.nextRequestId, pid, entity, kind, callback }) := by
  let request : Request := { id := s.nextRequestId, pid, entity, kind, callback }
  have number : ex.pid = pid := pid_of_get? spare.live
  have free : ex.thread.holdList = .none := by
    rw [spare.idle]
    rfl
  have inserted : s.requests.insert? request = some (s.requests.extended request) :=
    RequestTable.insert?_of_strange new strange
  have opened : (ex.suspend Clock.never).openResultSlot =
      ex.mapThread fun t => t.suspend Clock.never := by
    unfold Executor.suspend
    rw [if_neg (by simp [spare.suspends])]
    exact if_pos spare.engine
  have emptied : s.ready.filter (fun other => other ≠ pid) = [] := by simp [spare.ready]
  unfold register
  rw [spare.live]
  dsimp only
  rw [if_neg (by simp [spare.suspends]), if_neg (by simp [spare.engine]), opened]
  dsimp only [Executor.mapThread]
  rw [spare.unasked, Holder.add?_empty]
  dsimp only
  rw [inserted]
  -- The number and the request do not matter to where the script is held.
  let tabled : Scheduler := { s with
    issued := s.issued + 1
    requests := s.requests.extended request }
  let sleeper : Executor := { ex with
    thread := ex.thread.suspend Clock.never
    requests := .single kind s.nextRequestId }
  have live : tabled.get? pid = some ex := spare.live
  have held := hold_store sleeper live number free rfl
  rw [show tabled.ready = s.ready from rfl, emptied] at held
  refine congrArg (Prod.mk (some s.nextRequestId)) (held.trans ?_)
  subst number
  rfl

/-- An engine script that is answered is only revived. -/
theorem answered_eq (spare : s.Spare pid ex) (request : Request) (value : Val) :
    { asking ex request with requests := .empty }.answered value = answered ex :=
  congrArg Executor.revive (if_pos spare.engine)

/-- Away from where it waited the script is as it was. -/
theorem answered_detached (spare : s.Spare pid ex) :
    (answered ex).mapThread Thread.detached = ex := by
  have rested : (ex.thread.suspend Clock.never).revive.detached = ex.thread := by
    rw [spare.idle]
    rfl
  calc { ex with thread := (ex.thread.suspend Clock.never).revive.detached, requests := .empty }
    _ = { ex with requests := Holder.empty } := by rw [rested]
    _ = ex := by rw [← spare.unasked]

/-- The end of its request makes the script ready again, and all else is as it was. -/
theorem resolve_awaiting (spare : s.Spare pid ex) (own : request.pid = pid)
    (new : ∀ r ∈ s.requests.pending, r.id ≠ request.id)
    (strange : ∀ entry ∈ s.requests.entities, entry.1 ≠ request.entity) :
    ((awaiting s ex request).resolve request none).value = { s with issued := s.issued + 1 } := by
  have number : ex.pid = pid := pid_of_get? spare.live
  have live : (awaiting s ex request).get? request.pid = some (asking ex request) :=
    own.symm ▸ show (s.store (asking ex request)).get? pid = _ from get?_store spare.live number
  have taken : (awaiting s ex request).requests.take request = s.requests :=
    RequestTable.take_extended new strange
  have left : (asking ex request).requests.remove request.kind request.id = .empty :=
    Holder.remove_single request.kind request.id
  let waiting : Scheduler := { s with
    ready := [], untimed := insertPid ex.pid s.untimed, issued := s.issued + 1 }
  have stored : { awaiting s ex request with requests := s.requests }.store (answered ex) =
      waiting.store (answered ex) :=
    store_store waiting (asking ex request) (answered ex) rfl
  have ready : waiting.get? pid = some ex := spare.live
  have freed := schedule_store (answered ex) ready number rfl
  have kept : (insertPid ex.pid s.untimed).erase pid = s.untimed :=
    number ▸ erase_insertPid (number.symm ▸ spare.untimed)
  have same : s.store ex = s := spare.numbers.store_self spare.live
  rw [resolve_eq live, taken, left, spare.answered_eq, own, stored, freed,
    spare.answered_detached, kept]
  calc { s.store ex with ready := [pid], untimed := s.untimed, issued := s.issued + 1 }
    _ = { s with ready := [pid], issued := s.issued + 1 } := by rw [same]
    _ = { s with issued := s.issued + 1 } := by rw [← spare.ready]

/-- The script gives up. -/
theorem abortAll_awaiting (spare : s.Spare pid ex) (own : request.pid = pid)
    (unhandled : request.handled = false)
    (new : ∀ r ∈ s.requests.pending, r.id ≠ request.id)
    (strange : ∀ entry ∈ s.requests.entities, entry.1 ≠ request.entity) :
    ((awaiting s ex request).abortAll pid).value = (1, { s with issued := s.issued + 1 }) := by
  have number : ex.pid = pid := pid_of_get? spare.live
  have live : (awaiting s ex request).get? pid = some (asking ex request) :=
    show (s.store (asking ex request)).get? pid = _ from get?_store spare.live number
  have ids : (asking ex request).requests.ids = [request.id] :=
    Holder.ids_single request.kind request.id
  have listed : (awaiting s ex request).requests.unhandled? request.id = some request :=
    RequestTable.unhandled?_extended new unhandled
  unfold abortAll
  rw [live]
  dsimp only
  rw [ids]
  unfold abortEach abortRequest
  rw [listed]
  simp only [Logged.bind_value, spare.resolve_awaiting own new strange]
  rfl

/-- A request that is given up at once leaves nothing behind but that a number is used up. -/
theorem performAll_round (spare : s.Spare pid ex) (patience : Nat) (entity : EntityId)
    (new : ∀ r ∈ s.requests.pending, r.id ≠ s.nextRequestId)
    (strange : ∀ entry ∈ s.requests.entities, entry.1 ≠ entity) :
    performAll patience (round pid entity) s = some { s with issued := s.issued + 1 } := by
  let request : Request :=
    ⟨s.nextRequestId, pid, entity, .targetObject, fun _ response => some response, false⟩
  have asked : (s.register pid entity .targetObject Clock.never request.callback).value.2 =
      awaiting s ex request := congrArg Prod.snd (spare.register_eq new strange)
  have gaveUp : ((awaiting s ex request).abortAll pid).value.2 =
      { s with issued := s.issued + 1 } :=
    congrArg Prod.snd (spare.abortAll_awaiting rfl rfl new strange)
  unfold round performAll perform
  simp only [Option.bind_some, answering, makeRequest, Logged.bind_value, Logged.pure_value]
  rw [asked]
  unfold performAll perform
  simp only [Option.bind_some, answering, Logged.bind_value, Logged.pure_value]
  rw [gaveUp]
  rfl

/-- It does not matter how many numbers have been used up. -/
theorem counted (spare : s.Spare pid ex) (n : Nat) : Spare { s with issued := n } pid ex :=
  { spare with numbers := ⟨spare.numbers.increasing, spare.numbers.below⟩ }

end Spare

/-- Operations after other ones. -/
theorem performAll_append (patience : Nat) (ops more : List Operation) (s : Scheduler) :
    performAll patience (ops ++ more) s =
      (performAll patience ops s).bind (performAll patience more) := by
  induction ops generalizing s with
  | nil => rfl
  | cons op rest ih => simp only [List.cons_append, performAll, Option.bind_assoc, ih]

/-- Requests that are given up one after the other use up their numbers. None of the numbers may be
that of a request that is pending. -/
theorem Spare.performAll_rounds {s : Scheduler} {pid : Pid} {ex : Executor}
    (spare : s.Spare pid ex) (patience n : Nat) (entity : EntityId)
    (new : ∀ k < n, ∀ r ∈ s.requests.pending, r.id ≠ .ofCount (s.issued + k))
    (strange : ∀ entry ∈ s.requests.entities, entry.1 ≠ entity) :
    performAll patience (rounds n pid entity) s = some { s with issued := s.issued + n } := by
  unfold rounds
  induction n with
  | zero => rfl
  | succ n ih =>
    have before := ih fun k less => new k (Nat.lt_succ_of_lt less)
    have last := (spare.counted (s.issued + n)).performAll_round patience entity
      (new n (Nat.lt_succ_self n)) strange
    rw [List.replicate_succ', List.flatten_append, performAll_append, before,
      List.flatten_singleton, Option.bind_some]
    exact last

/-- Operations, rounds in between and further operations. -/
theorem Spare.performAll_around {s t start : Scheduler} {pid : Pid} {ex : Executor}
    {patience : Nat} {ops : List Operation} (spare : s.Spare pid ex) (n : Nat) (entity : EntityId)
    (more : List Operation) (before : performAll patience ops start = some s)
    (new : ∀ k < n, ∀ r ∈ s.requests.pending, r.id ≠ .ofCount (s.issued + k))
    (strange : ∀ entry ∈ s.requests.entities, entry.1 ≠ entity)
    (after : performAll patience more { s with issued := s.issued + n } = some t) :
    performAll patience (ops ++ rounds n pid entity ++ more) start = some t := by
  rw [performAll_append, performAll_append, before, Option.bind_some,
    spare.performAll_rounds patience n entity new strange, Option.bind_some, after]

/-- The engine has a call of the first script while the second one brings the numbers round again
and calls the engine. -/
def crowdedRun : List Operation :=
  [.start (.engine "keeper" "shop"), .runReady 0, .start (.engine "clerk" "desk")] ++
    rounds (UInt32.size - 2) ⟨2⟩ ⟨7⟩ ++ [.runReady 0]

/-- The call of the second script has the number of the first one's and takes its place. -/
theorem performAll_crowdedRun : ∃ s keeper clerk,
    performAll 1 crowdedRun (.empty {} (some deferringEngine)) = some s ∧
      s.external = [⟨1⟩, ⟨2⟩] ∧ s.calls = [⟨⟨1⟩, ⟨2⟩, "clerk", none⟩] ∧
      s.get? ⟨1⟩ = some keeper ∧ keeper.thread.outstanding = some ⟨1⟩ ∧
      s.get? ⟨2⟩ = some clerk ∧ clerk.thread.outstanding = some ⟨1⟩ := by
  have before : performAll 1
      [.start (.engine "keeper" "shop"), .runReady 0, .start (.engine "clerk" "desk")]
      (.empty {} (some deferringEngine)) = some _ := rfl
  have spare : Spare _ ⟨2⟩ _ := {
    numbers := (Reachable.empty.performAll before).numbered
    live := rfl
    ready := rfl
    untimed := List.not_mem_nil
    engine := rfl
    suspends := rfl
    unasked := rfl
    idle := rfl }
  have run := spare.performAll_around (UInt32.size - 2) ⟨7⟩ [.runReady 0] before
    (fun _ _ _ mem => absurd mem List.not_mem_nil) (fun _ mem => absurd mem List.not_mem_nil) rfl
  exact ⟨_, _, _, run, rfl, rfl, rfl, rfl, rfl, rfl⟩

end Scheduler

end ScriptScheduler
