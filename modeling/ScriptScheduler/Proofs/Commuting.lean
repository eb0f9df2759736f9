import ScriptScheduler.Proofs.Expiry
import ScriptScheduler.Proofs.Removal
import ScriptScheduler.Proofs.Resolution
import ScriptScheduler.Proofs.WakeCauses

/-!
# Answers to different scripts commute

Two pending requests of different scripts may be ended in either order, each of them by an answer
or by an abort. Both ends succeed in either order, each of them records the same as on its own, and
the two orders lead to the same state: only if both owners become ready do they stand at the end of
the ready queue in the order of the ends (`Reachable.endsCommute`).
-/

namespace ScriptScheduler

/-! ### Tables with the same requests -/

namespace RequestTable.Consistent

variable {table other : RequestTable}

/-- In a consistent table the holders that are listed are those that are found. -/
theorem mem_entities (h : table.Consistent) {entity : EntityId} {holder : Holder} :
    (entity, holder) ∈ table.entities ↔ table.holder? entity = some holder := by
  refine ⟨h.holder?_of_mem, fun found => ?_⟩
  obtain ⟨entry, listed, rfl⟩ := Option.map_eq_some_iff.mp found
  obtain rfl : entry.1 = entity := by simpa using List.find?_some listed
  exact List.mem_of_find?_eq_some listed

/-- Consistent tables with the same pending requests have the same holders. -/
theorem holder?_congr (h : table.Consistent) (also : other.Consistent)
    (same : table.pending = other.pending) (entity : EntityId) :
    table.holder? entity = other.holder? entity := by
  rw [h.holders, also.holders]
  unfold toEntity
  rw [same]

/-- Consistent tables with the same pending requests list the same holders. -/
theorem entities_perm (h : table.Consistent) (also : other.Consistent)
    (same : table.pending = other.pending) : table.entities.Perm other.entities := by
  refine (List.perm_ext_iff_of_nodup (h.keys.of_map _) (also.keys.of_map _)).mpr ?_
  rintro ⟨entity, holder⟩
  rw [h.mem_entities, also.mem_entities, h.holder?_congr also same]

end RequestTable.Consistent

/-! ### Ends of requests -/

/-- A way to end a pending request. -/
inductive Closing where
  | answer (response : Val)
  | abort

/-- What the end of a request has for its owner, if anything. -/
def Closing.outcome (request : Request) : Closing → Option Val
  | .answer response => request.callback request.entity response
  | .abort => none

namespace Scheduler

variable {s s' : Scheduler} {r q : Request} {ex other : Executor} {away : List Pid}

/-- Ends the pending request with a given number and says whether there was one. -/
def close (s : Scheduler) (id : RequestId) : Closing → Logged (Bool × Scheduler)
  | .answer response => s.respond id response
  | .abort => s.abortRequest id

/-- Ends two requests one after the other. -/
def closeBoth (s : Scheduler) (first second : RequestId × Closing) :
    Logged ((Bool × Bool) × Scheduler) := do
  let (ended, s) ← s.close first.1 first.2
  let (also, s) ← s.close second.1 second.2
  pure ((ended, also), s)

/-- A pending request is ended by resolving it. -/
theorem close_eq (indexed : Indexed s) (pending : r ∈ s.requests.pending) (how : Closing) :
    s.close r.id how = ⟨(true, (s.resolve r (how.outcome r)).value),
      (s.resolve r (how.outcome r)).entries⟩ := by
  cases how with
  | answer response =>
    unfold close respond
    dsimp only
    rw [indexed.table.unhandled?_of_mem pending]
    exact congrArg (Logged.mk _) (List.append_nil _)
  | abort =>
    unfold close abortRequest
    dsimp only
    rw [indexed.table.unhandled?_of_mem pending]
    exact congrArg (Logged.mk _) (List.append_nil _)

/-- What the end of a request records depends on its owner and the engine alone. -/
theorem resolve_entries (found : s.get? r.pid = some ex) (value : Option Val) :
    (s.resolve r value).entries = (ex.handleRequest r.id value s.engine).entries := by
  have taken : { s with requests := s.requests.take r }.get? r.pid = some ex := found
  unfold resolve deliver
  dsimp only
  rw [taken]
  simp only [Logged.bind_entries, Logged.pure_entries, List.append_nil]
  unfold Executor.handleRequest
  cases ex.runtime with
  | engine =>
    cases s.engine with
    | none => rfl
    | some engine =>
      simp only [Logged.bind_entries]
      split <;> rfl
  | bytecode => rfl
  | unbound => rfl

/-! ### The lists -/

/-- The scheduler with a revived script at the end of the ready queue, unless it is fixed where it
is. -/
def risen (s : Scheduler) (ex : Executor) : Scheduler :=
  if ex.thread.holdList.isFixed then s else (s.without ex.pid).enqueue ex.pid

/-- The lists with a script risen hang on the lists alone. -/
theorem listing_risen (same : s'.listing = s.listing) (ex : Executor) :
    (s'.risen ex).listing = (s.risen ex).listing := by
  simp only [listing, Prod.mk.injEq] at same
  obtain ⟨timeouts, seq, untimed, debugger, external, ready⟩ := same
  unfold risen
  split
  · simp only [listing, timeouts, seq, untimed, debugger, external, ready]
  · simp only [listing, without, enqueue, timeouts, seq, untimed, debugger, external, ready]

/-- The lists after the end of a request. -/
theorem Placed.listing_resolve (h : Placed away s) (found : s.get? r.pid = some ex)
    (value : Option Val) : (s.resolve r value).value.listing = (s.risen ex).listing := by
  let told := { ex with
    requests := ex.requests.remove r.kind r.id }.answered (value.getD .sentinel)
  have own : ex.pid = r.pid := pid_of_get? found
  have number : told.pid = r.pid := (Executor.kind_answered _ _).1.trans own
  have seat : told.seat = ex.seat := Executor.seat_answered _ _
  have list : told.thread.holdList = ex.thread.holdList := congrArg Seat.list seat
  have taken : Placed away { s with requests := s.requests.take r } :=
    h.congr rfl (fun _ => rfl) fun _ live => live
  have live : { s with requests := s.requests.take r }.get? ex.pid = some ex := own.symm ▸ found
  have placed : Placed away ({ s with requests := s.requests.take r }.store told) :=
    taken.store_of_get? live (number.trans own.symm) seat
  rw [resolve_eq found]
  refine (placed.listing_schedule (get?_store found number)).trans ?_
  rw [list, ← own]
  unfold risen
  split <;> rfl

/-- Two scripts may rise in either order; if both become ready, they stand in that order at the end
of the ready queue. -/
theorem risen_comm (s : Scheduler) (apart : ex.pid ≠ other.pid) :
    { (s.risen ex).risen other with ready := [] } = { (s.risen other).risen ex with ready := [] } ∧
      (((s.risen ex).risen other).ready = ((s.risen other).risen ex).ready ∨
        ∃ rest, ((s.risen ex).risen other).ready = rest ++ [ex.pid, other.pid] ∧
          ((s.risen other).risen ex).ready = rest ++ [other.pid, ex.pid]) := by
  unfold risen
  by_cases fixed : ex.thread.holdList.isFixed = true
  · simp [fixed]
  · by_cases also : other.thread.holdList.isFixed = true
    · simp [fixed, also]
    · refine ⟨?_, .inr ⟨(s.ready.filter fun pid => pid ≠ ex.pid).filter
        fun pid => pid ≠ other.pid, ?_, ?_⟩⟩
      · simp [fixed, also, without, enqueue, List.filter_filter, Bool.and_comm]
      · simp [fixed, also, without, enqueue, List.filter_filter, apart]
      · simp [fixed, also, without, enqueue, List.filter_filter, apart.symm, Bool.and_comm]

/-! ### The two orders -/

/-- Two states are the same but for the order of two scripts at the end of the ready queue. The
holders of the entities may be listed in another order. -/
structure SameBut (first second : Pid) (s t : Scheduler) : Prop where
  ready : s.ready = t.ready ∨
    ∃ rest, s.ready = rest ++ [first, second] ∧ t.ready = rest ++ [second, first]
  entities : s.requests.entities.Perm t.requests.entities
  holders : ∀ entity, s.requests.holder? entity = t.requests.holder? entity
  rest : { s with ready := [], requests := { pending := s.requests.pending } } =
    { t with ready := [], requests := { pending := t.requests.pending } }

/-- The state after two requests have been resolved one after the other. -/
def resolveBoth (s : Scheduler) (r : Request) (v : Option Val) (q : Request) (w : Option Val) :
    Scheduler :=
  ((s.resolve r v).value.resolve q w).value

section Orders

variable {v w : Option Val}

/-- The end of a request leaves another one pending. -/
theorem Indexed.pending_resolve (indexed : Indexed s) (pending : r ∈ s.requests.pending)
    (also : q ∈ s.requests.pending) (apart : r.pid ≠ q.pid) :
    q ∈ (s.resolve r v).value.requests.pending := by
  rw [requests_resolve s r v]
  refine List.mem_filter.mpr ⟨also, decide_eq_true fun same => apart ?_⟩
  rw [Holder.eq_of_id indexed.table.nodup also pending same]

/-- The three views of the requests agree after two requests have been resolved. -/
theorem Indexed.resolveBoth (indexed : Indexed s) (pending : r ∈ s.requests.pending)
    (also : q ∈ s.requests.pending) (apart : r.pid ≠ q.pid) : Indexed (s.resolveBoth r v q w) :=
  (indexed.resolve pending).resolve (indexed.pending_resolve pending also apart)

/-- When two requests of different scripts have been resolved, the two owners have changed. -/
theorem get?_resolveBoth (found : s.get? r.pid = some ex) (also : s.get? q.pid = some other)
    (apart : r.pid ≠ q.pid) (pid : Pid) :
    (s.resolveBoth r v q w).get? pid =
      if pid = q.pid then some (other.closed q w)
      else if pid = r.pid then some (ex.closed r v) else s.get? pid := by
  have still : (s.resolve r v).value.get? q.pid = some other := by
    rw [get?_resolve found, if_neg apart.symm, also]
  unfold resolveBoth
  rw [get?_resolve still, get?_resolve found]

/-- When two requests of different scripts have been resolved, the two owners have risen. -/
theorem Placed.listing_resolveBoth (placed : Placed away s) (found : s.get? r.pid = some ex)
    (also : s.get? q.pid = some other) (apart : r.pid ≠ q.pid) :
    (s.resolveBoth r v q w).listing = ((s.risen ex).risen other).listing := by
  have still : (s.resolve r v).value.get? q.pid = some other := by
    rw [get?_resolve found, if_neg apart.symm, also]
  have after : Placed away (s.resolve r v).value := placed.resolve
  exact (after.listing_resolve still w).trans
    (listing_risen (placed.listing_resolve found v) other)

/-- Two requests of different scripts may be resolved in either order. -/
theorem sameBut_resolveBoth (numbers : s.Numbered) (placed : Placed away s) (indexed : Indexed s)
    (pending : r ∈ s.requests.pending) (also : q ∈ s.requests.pending) (apart : r.pid ≠ q.pid)
    (v w : Option Val) :
    SameBut r.pid q.pid (s.resolveBoth r v q w) (s.resolveBoth q w r v) := by
  obtain ⟨ex, found⟩ := Option.isSome_iff_exists.mp (indexed.live pending)
  obtain ⟨other, found'⟩ := Option.isSome_iff_exists.mp (indexed.live also)
  have there : Indexed (s.resolveBoth r v q w) := indexed.resolveBoth pending also apart
  have back : Indexed (s.resolveBoth q w r v) := indexed.resolveBoth also pending apart.symm
  have requests : (s.resolveBoth r v q w).requests.pending =
      (s.resolveBoth q w r v).requests.pending := by
    unfold resolveBoth
    rw [requests_resolve _ q w, requests_resolve _ r v, requests_resolve _ r v,
      requests_resolve _ q w]
    change List.filter _ (List.filter _ _) = List.filter _ (List.filter _ _)
    rw [List.filter_filter, List.filter_filter]
    exact List.filter_congr fun _ _ => Bool.and_comm ..
  have scripts : (s.resolveBoth r v q w).executors = (s.resolveBoth q w r v).executors := by
    refine Numbered.executors_eq ((follows_resolve.trans follows_resolve).numbered numbers)
      ((follows_resolve.trans follows_resolve).numbered numbers) fun pid => ?_
    rw [get?_resolveBoth found found' apart, get?_resolveBoth found' found apart.symm]
    split
    · next same => rw [if_neg (same ▸ apart.symm)]
    · rfl
  have core : (s.resolveBoth r v q w).core = (s.resolveBoth q w r v).core :=
    ((core_resolve ..).trans (core_resolve ..)).trans
      ((core_resolve ..).trans (core_resolve ..)).symm
  have lists := placed.listing_resolveBoth (v := v) (w := w) found found' apart
  have lists' := placed.listing_resolveBoth (v := w) (w := v) found' found apart.symm
  have others : ex.pid ≠ other.pid := by rwa [pid_of_get? found, pid_of_get? found']
  -- on the hold lists it does not matter who rises first, in the ready queue it does
  obtain ⟨places, queue⟩ := risen_comm s others
  rw [pid_of_get? found, pid_of_get? found'] at queue
  have same := congrArg listing places
  simp only [listing, Prod.mk.injEq] at lists lists' same
  obtain ⟨timeouts, seq, untimed, debugger, external, ready⟩ := lists
  obtain ⟨timeouts', -, untimed', debugger', external', ready'⟩ := lists'
  refine ⟨?_, there.table.entities_perm back.table requests,
    there.table.holder?_congr back.table requests, ?_⟩
  · rwa [ready, ready']
  · have whole := eq_of_core core ((untimed.trans same.2.2.1).trans untimed'.symm)
      ((debugger.trans same.2.2.2.1).trans debugger'.symm)
      ((external.trans same.2.2.2.2.1).trans external'.symm)
    rw [scripts, (timeouts.trans same.1).trans timeouts'.symm] at whole
    rw [requests]
    exact congrArg (fun t : Scheduler => { t with
      ready := [], requests := { pending := (s.resolveBoth q w r v).requests.pending } }) whole

end Orders

/-- Two pending requests may be ended in either order: both ends succeed, each records the same as
on its own, and the states reached are the same but for the order of the owners at the end of the
ready queue. -/
structure EndsCommute (s : Scheduler) (r q : Request) (how other : Closing) : Prop where
  there : (s.closeBoth (r.id, how) (q.id, other)).value.1 = (true, true)
  back : (s.closeBoth (q.id, other) (r.id, how)).value.1 = (true, true)
  same : SameBut r.pid q.pid (s.closeBoth (r.id, how) (q.id, other)).value.2
    (s.closeBoth (q.id, other) (r.id, how)).value.2
  entries : (s.closeBoth (r.id, how) (q.id, other)).entries =
    (s.close r.id how).entries ++ (s.close q.id other).entries
  reversed : (s.closeBoth (q.id, other) (r.id, how)).entries =
    (s.close q.id other).entries ++ (s.close r.id how).entries

/-- Two requests of different scripts are ended one after the other, and the second end records what
it does on its own. -/
theorem closeBoth_eq (indexed : Indexed s) (pending : r ∈ s.requests.pending)
    (also : q ∈ s.requests.pending) (apart : r.pid ≠ q.pid) (how other : Closing) :
    s.closeBoth (r.id, how) (q.id, other) =
      ⟨((true, true), s.resolveBoth r (how.outcome r) q (other.outcome q)),
        (s.close r.id how).entries ++ (s.close q.id other).entries⟩ := by
  obtain ⟨ex, found⟩ := Option.isSome_iff_exists.mp (indexed.live pending)
  obtain ⟨ex', found'⟩ := Option.isSome_iff_exists.mp (indexed.live also)
  have after : Indexed (s.resolve r (how.outcome r)).value := indexed.resolve pending
  have still : (s.resolve r (how.outcome r)).value.get? q.pid = some ex' := by
    rw [get?_resolve found, if_neg apart.symm, found']
  have engine : (s.resolve r (how.outcome r)).value.core.engine = s.core.engine := by
    rw [core_resolve]
  change (s.resolve r (how.outcome r)).value.engine = s.engine at engine
  have told : ((s.resolve r (how.outcome r)).value.resolve q (other.outcome q)).entries =
      (s.resolve q (other.outcome q)).entries := by
    rw [resolve_entries still, resolve_entries found', engine]
  have first := close_eq indexed pending how
  have second := close_eq after (indexed.pending_resolve pending also apart) other
  have alone := close_eq indexed also other
  rw [Logged.mk.injEq]
  constructor
  · simp only [closeBoth, Logged.bind_value, first, second]
    rfl
  · simp only [closeBoth, Logged.bind_entries, Logged.pure_entries, first, second, alone, told,
      List.append_nil]

end Scheduler

open Scheduler

/-- Ends of requests of different scripts commute, whatever each of them is. -/
theorem Reachable.endsCommute {config : SchedulerConfig} {engine : Option Engine} {s : Scheduler}
    {r q : Request} (reached : Reachable config engine s) (pending : r ∈ s.requests.pending)
    (also : q ∈ s.requests.pending) (apart : r.pid ≠ q.pid) (how other : Closing) :
    s.EndsCommute r q how other := by
  have there := closeBoth_eq reached.indexed pending also apart how other
  have back := closeBoth_eq reached.indexed also pending apart.symm other how
  constructor
  case there => rw [there]
  case back => rw [back]
  case same =>
    rw [there, back]
    exact sameBut_resolveBoth reached.numbered reached.placed reached.indexed pending also apart ..
  case entries => rw [there]
  case reversed => rw [back]

/-- A bytecode script and an engine script ask one entity for a text. -/
def rivalRun : List Operation :=
  [.start (.bytecode "asker" [.waitForEvent none, .ret]), .start (.engine "keeper" "shop"),
    .request ⟨1⟩ ⟨7⟩ .textEntry fun _ response => some response,
    .request ⟨2⟩ ⟨7⟩ .textEntry fun _ response => some response]

/-- The entity answers the bytecode script and the request of the engine script is aborted: both
scripts are ready then, and the first to be ended is the first in the queue. -/
theorem endsCommute_rivals : ∃ s r q,
    performAll 1 rivalRun (.empty {} (some deferringEngine)) = some s ∧
      s.requests.pending = [r, q] ∧ r.entity = q.entity ∧ r.kind = q.kind ∧
      EndsCommute s r q (.answer (.long 5)) .abort ∧
      (s.closeBoth (r.id, .answer (.long 5)) (q.id, .abort)).value.2.ready = [⟨1⟩, ⟨2⟩] := by
  obtain ⟨s, performed, pending, ready⟩ : ∃ s,
      performAll 1 rivalRun (.empty {} (some deferringEngine)) = some s ∧
        s.requests.pending =
          [⟨⟨1⟩, ⟨1⟩, ⟨7⟩, .textEntry, fun _ response => some response, false⟩,
            ⟨⟨2⟩, ⟨2⟩, ⟨7⟩, .textEntry, fun _ response => some response, false⟩] ∧
        (s.closeBoth (⟨1⟩, .answer (.long 5)) (⟨2⟩, .abort)).value.2.ready = [⟨1⟩, ⟨2⟩] :=
    ⟨_, rfl, rfl, rfl⟩
  refine ⟨s, _, _, performed, pending, rfl, rfl, ?_, ready⟩
  have reached := Reachable.empty.performAll performed
  exact reached.endsCommute (pending ▸ List.mem_cons_self)
    (pending ▸ List.mem_cons_of_mem _ List.mem_cons_self) (by decide) _ _

end ScriptScheduler
