import ScriptScheduler.Proofs.EngineScripts
import ScriptScheduler.Proofs.Expiry
import ScriptScheduler.Proofs.Slots

/-!
# Shutdown

From every reachable state a shutdown leaves nothing: no script, no place in a list, no request, no
holder and no engine call. The engine is told of each script that it manages before anything else
happens, each pending request is answered with the sentinel, once, and each script that was live
leaves one exit record, in the order of the numbers. A second shutdown does nothing
(`Reachable.shutsDown`).
-/

namespace ScriptScheduler

/-! ### Scripts that the engine is told of -/

/-- The script that the engine is told of as torn down. -/
def Entry.teardown? : Entry → Option Pid
  | .effect (.tornDown pid _) => some pid
  | _ => none

/-- The scripts that the engine is told of as torn down, in order. -/
def teardownsIn (entries : List Entry) : List Pid := entries.filterMap Entry.teardown?

@[simp] theorem teardownsIn_append (entries more : List Entry) :
    teardownsIn (entries ++ more) = teardownsIn entries ++ teardownsIn more :=
  List.filterMap_append

/-- An answer to a script tears nothing down. -/
theorem Executor.teardownsIn_handleRequest (ex : Executor) (id : RequestId) (response : Option Val)
    (engine : Option Engine) : teardownsIn (ex.handleRequest id response engine).entries = [] := by
  unfold handleRequest
  split
  · simp only [Logged.bind_entries, teardownsIn_append]
    split
    · rfl
    · rfl
  · rfl
  · rfl

namespace Scheduler

variable {s : Scheduler}

/-- The answers to the requests of a removed script tear nothing down. -/
theorem teardownsIn_dropRequests (engine : Option Engine) (ids : List RequestId) :
    ∀ (ex : Executor) (table : RequestTable),
      teardownsIn (dropRequests engine ids ex table).entries = [] := by
  induction ids with
  | nil => exact fun _ _ => rfl
  | cons id rest ih =>
    intro ex table
    unfold dropRequests
    split
    · exact ih ex table
    · rw [Logged.bind_entries, teardownsIn_append, ih, ex.teardownsIn_handleRequest]
      rfl

/-- The retirement of a script tears nothing down. -/
theorem teardownsIn_retire (s : Scheduler) (ex : Executor) (reason : ExitReason) :
    teardownsIn (s.retire ex reason).entries = [] := by
  unfold retire
  rw [Logged.bind_entries, remove_entries, teardownsIn_append, teardownsIn_dropRequests]
  dsimp only
  split <;> rfl

/-- Scripts that are ended one after the other tear nothing down. -/
theorem teardownsIn_shutdownEach (pids : List Pid) :
    ∀ s : Scheduler, teardownsIn (shutdownEach pids s).entries = [] := by
  induction pids with
  | nil => exact fun _ => rfl
  | cons pid rest ih =>
    intro s
    unfold shutdownEach
    split
    · exact ih s
    · rw [Logged.bind_entries, teardownsIn_append, teardownsIn_retire, ih]
      rfl

/-- The live scripts that the engine manages. -/
def managed (s : Scheduler) : List Executor :=
  s.executors.filter fun ex => ex.thread.holdList = .external

/-- The list of the managed scripts names those that are managed. -/
theorem Placed.external_eq {away : List Pid} (placed : Placed away s) (numbers : s.Numbered) :
    s.external = s.managed.map Executor.pid := by
  have increasing : s.managed.Pairwise fun a b => a.pid.number < b.pid.number :=
    numbers.increasing.sublist List.filter_sublist
  refine pids_eq placed.sortedExternal (List.pairwise_map.mpr increasing) ?_
  intro pid
  rw [placed.external]
  constructor
  · intro held
    cases found : s.get? pid with
    | none =>
      unfold seat at held
      rw [found] at held
      exact absurd held (by decide)
    | some ex =>
      rw [seat_of_get? found] at held
      exact List.mem_map.mpr
        ⟨ex, List.mem_filter.mpr ⟨mem_of_get? found, decide_eq_true held⟩, pid_of_get? found⟩
  · intro mem
    obtain ⟨ex, live, rfl⟩ := List.mem_map.mp mem
    obtain ⟨live, held⟩ := List.mem_filter.mp live
    rw [seat_of_get? (numbers.get?_of_mem live)]
    exact of_decide_eq_true held

/-- The engine is told of each script that it manages. -/
theorem tellEngine_entries {away : List Pid} (placed : Placed away s) (numbers : s.Numbered)
    (equipped : ∀ ex ∈ s.managed, s.engine.isSome = true) :
    s.tellEngine.entries = s.managed.map fun ex => .effect (.tornDown ex.pid ex.scriptname) := by
  unfold tellEngine
  cases engine : s.engine with
  | none =>
    have nobody : s.managed = [] := by
      refine List.eq_nil_iff_forall_not_mem.mpr fun ex mem => ?_
      have there := equipped ex mem
      rw [engine] at there
      exact absurd there (by decide)
    rw [nobody]
    rfl
  | some engine =>
    change s.external.filterMap _ = _
    rw [placed.external_eq numbers, List.filterMap_map, ← List.filterMap_eq_map]
    refine List.filterMap_congr ?_
    intro ex mem
    have live : ex ∈ s.executors := (List.mem_filter.mp mem).1
    change (s.get? ex.pid).map _ = _
    rw [numbers.get?_of_mem live]
    rfl

/-! ### Engine calls -/

/-- Every pending engine call is outstanding for a live script. -/
def Calling (s : Scheduler) : Prop := ∀ call ∈ s.calls, (s.outstanding? call.pid).isSome = true

/-! ### Exit records -/

/-- The exit record of a script that is shut down. -/
def shutdownExit (ex : Executor) : ScriptExit where
  pid := ex.pid
  scriptname := ex.scriptname
  reason := .shutdown
  result := .error ⟨ErrorCode.aborted, "scheduler shut down"⟩
  instrCycles := ex.instrCycles
  sleepCycles := ex.sleepCycles

/-- The removal of another script makes no difference to the exit record. -/
theorem shutdownExit_bereft (ex gone : Executor) :
    shutdownExit (ex.bereft gone) = shutdownExit ex := by
  unfold Executor.bereft
  split <;> split <;> rfl

/-- Each of the scripts that are ended leaves its exit record, in order. -/
theorem exits_shutdownEach (pids : List Pid) :
    ∀ s : Scheduler, pids.Nodup →
      (shutdownEach pids s).value.exits =
        s.exits ++ (pids.filterMap s.get?).map shutdownExit := by
  induction pids with
  | nil => exact fun s _ => (List.append_nil s.exits).symm
  | cons pid rest ih =>
    intro s nodup
    obtain ⟨new, nodup⟩ := List.nodup_cons.mp nodup
    unfold shutdownEach
    cases found : s.get? pid with
    | none =>
      rw [List.filterMap_cons_none found]
      exact ih s nodup
    | some ex =>
      let last := { ex with result := some (.fail ErrorCode.aborted "scheduler shut down") }
      have own : ex.pid = pid := pid_of_get? found
      have left : (rest.filterMap (s.retire last .shutdown).value.2.get?).map shutdownExit =
          (rest.filterMap s.get?).map shutdownExit := by
        rw [List.map_filterMap, List.map_filterMap]
        refine List.filterMap_congr fun other mem => ?_
        have ne : other ≠ last.pid := by
          rintro rfl
          exact new (own ▸ mem)
        rw [get?_retire s last .shutdown ne, Option.map_map]
        exact congrArg (fun f => (s.get? other).map f)
          (funext fun ex => shutdownExit_bereft ex last)
      rw [List.filterMap_cons_some found]
      change (shutdownEach rest (s.retire last .shutdown).value.2).value.exits = _
      rw [ih _ nodup, left, exits_retire, List.append_assoc]
      rfl

/-- A script that is live is found under its number. -/
theorem Numbered.filterMap_get? (numbers : s.Numbered) :
    (s.executors.map Executor.pid).filterMap s.get? = s.executors := by
  rw [List.filterMap_map]
  refine (List.filterMap_congr fun ex live => ?_).trans List.filterMap_some
  exact numbers.get?_of_mem live

/-! ### What a shutdown leaves -/

/-- A shutdown without scripts does nothing. -/
theorem shutdown_of_none (none : s.executors = []) : s.shutdown = pure s :=
  if_pos (List.isEmpty_iff.mpr none)

/-- Nothing is left in a state but the settings, the counters and the exit records. -/
structure Vacant (s : Scheduler) : Prop where
  scripts : s.executors = []
  ready : s.ready = []
  timeouts : s.timeouts = []
  untimed : s.untimed = []
  debugger : s.debugger = []
  external : s.external = []
  requests : s.requests.pending = []
  entities : s.requests.entities = []
  calls : s.calls = []

/-- A shutdown tears everything down: nothing is left in the state, the engine and the scripts are
told of it, and a second one does nothing. -/
structure ShutsDown (s : Scheduler) (ran : Logged Scheduler) : Prop where
  vacant : ran.value.Vacant
  /-- Each script that was live leaves one record, and the numbers increase. -/
  exits : ran.value.exits = s.exits ++ s.executors.map shutdownExit
  increasing : (s.executors.map Executor.pid).Pairwise fun a b => a.number < b.number
  /-- The engine is told of the scripts in its list, before anything else and not again. -/
  managed : s.external = s.managed.map Executor.pid
  told : ∃ rest, teardownsIn rest = [] ∧
    ran.entries = (s.managed.map fun ex => .effect (.tornDown ex.pid ex.scriptname)) ++ rest
  /-- Each pending request is answered with the sentinel, once, in the way of its owner. -/
  answers : ∀ r ∈ s.requests.pending, ∃ owner, s.get? r.pid = some owner ∧
    answersTo r.id ran.entries = [owner.receipt r.id .sentinel]
  /-- Nothing else is answered. -/
  others : ∀ id, (∀ r ∈ s.requests.pending, r.id ≠ id) → answersTo id ran.entries = []
  again : ran.value.shutdown = pure ran.value

end Scheduler

open Scheduler

/-- No move leaves an engine call behind. -/
theorem Deals.calling {m m' : Moment} (deals : Deals m m') (h : m.state.Calling) :
    m'.state.Calling := by
  intro call mem
  -- a script and its calls are forgotten together
  have forgotten : ∀ {s s' : Scheduler} {pid : Pid}, Forgets pid s s' → s.Calling →
      call ∈ s'.calls → (s'.outstanding? call.pid).isSome = true := by
    intro s s' pid forgets h mem
    rw [forgets.calls] at mem
    obtain ⟨old, ne⟩ := List.mem_filter.mp mem
    rw [forgets.outstanding, if_neg (of_decide_eq_true ne)]
    exact h call old
  cases deals with
  | engages pid engages =>
    cases engages with
    | calm calm =>
      dsimp only at mem ⊢
      rw [calm.outstanding]
      exact h call (calm.calls ▸ mem)
    | forgets _ forgets => exact forgotten forgets h mem
    | defers _ defers =>
      dsimp only at mem ⊢
      rw [defers.outstanding]
      split
      · rfl
      · next ne =>
        rcases mem_of_mem_insertCall (defers.calls ▸ mem) with rfl | old
        · exact absurd rfl ne
        · exact h call old
  | collect => exact h call (List.mem_filter.mp mem).1
  | complete _ forgets => exact forgotten forgets h mem
  | pass => exact h call mem
  | settleCall id settlement =>
    obtain ⟨old, pending, rfl⟩ := List.mem_map.mp mem
    have own := h old pending
    split <;> exact own
  | takeExits => exact h call mem

namespace Reachable

variable {config : SchedulerConfig} {engine : Option Engine} {s : Scheduler}

/-- In every reachable state the pending engine calls belong to live scripts. -/
theorem calling (reached : Reachable config engine s) : s.Calling := by
  have all := reached.keeps (P := fun m => m.Orderly ∧ m.state.Calling)
    ⟨Reachable.empty.orderly, fun _ mem => absurd mem List.not_mem_nil⟩ ?_ ?_
  · exact all.2
  · rintro m entries m' numbers move ⟨orderly, calling⟩
    exact ⟨move.orderly orderly, (move.deals numbers orderly.coherent).calling calling⟩
  · rintro s pid edit ex found ⟨orderly, calling⟩
    have number : (edit.apply ex).pid = pid := (edit.seat_apply ex).2.trans (pid_of_get? found)
    have calm : Calm s (s.store (edit.apply ex)) :=
      .store found number (edit.outstanding_apply ex)
    refine ⟨orderly.edit found edit, fun call mem => ?_⟩
    rw [calm.outstanding]
    exact calling call mem

/-- A reachable state without scripts is vacant. -/
theorem vacant (reached : Reachable config engine s) (dead : ∀ pid, s.get? pid = none) :
    s.Vacant := by
  have placed := reached.placed
  have free : ∀ pid, s.seat pid = .free := by
    intro pid
    unfold seat
    rw [dead]
    rfl
  have pending : s.requests.pending = [] := by
    refine List.eq_nil_iff_forall_not_mem.mpr fun r mem => ?_
    have live := reached.indexed.live mem
    rw [dead] at live
    exact absurd live (by decide)
  constructor
  case requests => exact pending
  -- every entry of a list belongs to a live script, of which there is none
  all_goals refine List.eq_nil_iff_forall_not_mem.mpr fun entry mem => ?_
  case scripts =>
    have found := reached.numbered.get?_of_mem mem
    rw [dead] at found
    exact absurd found (by simp)
  case ready => exact reached.roused.not_mem_of_not_live (dead entry) mem
  case timeouts =>
    have timer := (placed.timeouts entry.2 entry.1).mp mem
    rw [free] at timer
    exact absurd timer (by simp [Seat.free])
  case untimed =>
    have list := (placed.untimed entry).mp mem
    rw [free] at list
    exact absurd list (by decide)
  case debugger =>
    have list := (placed.debugger entry).mp mem
    rw [free] at list
    exact absurd list (by decide)
  case external =>
    have list := (placed.external entry).mp mem
    rw [free] at list
    exact absurd list (by decide)
  case entities =>
    have held := reached.indexed.table.holder?_of_mem mem
    rw [reached.indexed.table.holders, if_pos (by simp [RequestTable.toEntity, pending])] at held
    exact absurd held (by simp)
  case calls =>
    have owner := reached.calling entry mem
    unfold outstanding? at owner
    rw [dead] at owner
    exact absurd owner (by decide)

/-- A shutdown leads to a reachable state. -/
theorem after_shutdown (reached : Reachable config engine s) :
    Reachable config engine s.shutdown.value := by
  have performed : s.perform 0 .shutdown = some (quietly s.shutdown) := rfl
  exact reached.perform performed

/-- A shutdown gives each pending request the sentinel, once, and answers nothing else. -/
theorem answers_shutdown (reached : Reachable config engine s) :
    (∀ r ∈ s.requests.pending, ∃ owner, s.get? r.pid = some owner ∧
      answersTo r.id s.shutdown.entries = [owner.receipt r.id .sentinel]) ∧
    ∀ id, (∀ r ∈ s.requests.pending, r.id ≠ id) → answersTo id s.shutdown.entries = [] := by
  let only : Act → Prop := fun act => ∃ pid, act = .retire pid .shutdown
  have moves : MovesBy only ⟨s, [], []⟩ _ _ := shutdown_moves s fun pid => ⟨pid, rfl⟩
  have silent : ∀ pid, ¬ only (.ask pid) := fun _ ⟨_, same⟩ => absurd same (by simp)
  have answered : ∀ value, Given only value → value = .sentinel := by
    rintro value (sentinel | ⟨_, same⟩)
    · exact sentinel
    · exact absurd same (by simp)
  constructor
  · intro r pending
    obtain ⟨owner, found⟩ := Option.isSome_iff_exists.mp (reached.indexed.live pending)
    refine ⟨owner, found, ?_⟩
    rcases moves.receipted reached.sound reached.equipped silent pending found with
      ⟨still, -⟩ | ⟨-, value, given, once⟩
    · have live := reached.after_shutdown.indexed.live still
      rw [shutdown_ends s] at live
      exact absurd live (by decide)
    · rw [once, answered value given]
  · intro id absent
    exact moves.unanswered reached.sound reached.equipped silent absent

/-- A shutdown tears everything down. -/
theorem shutsDown (reached : Reachable config engine s) : s.ShutsDown s.shutdown := by
  have numbers := reached.numbered
  have after := reached.after_shutdown
  have vacant := after.vacant (shutdown_ends s)
  obtain ⟨answers, others⟩ := reached.answers_shutdown
  have increasing : (s.executors.map Executor.pid).Pairwise fun a b => a.number < b.number :=
    List.pairwise_map.mpr numbers.increasing
  -- scripts stand in the order of their numbers, so none is torn down twice
  have nodup : (s.executors.map Executor.pid).Nodup := by
    refine increasing.imp ?_
    rintro a _ less rfl
    exact Nat.lt_irrefl _ less
  have equipped : ∀ ex ∈ s.managed, s.engine.isSome = true := by
    intro ex mem
    obtain ⟨live, held⟩ := List.mem_filter.mp mem
    have found := numbers.get?_of_mem live
    exact reached.equipped ex.pid ex found
      ((reached.coherent found).managed (of_decide_eq_true held))
  constructor
  case vacant => exact vacant
  case exits =>
    unfold shutdown
    split
    · next none =>
      rw [List.isEmpty_iff.mp none]
      exact (List.append_nil s.exits).symm
    · change (shutdownEach (s.executors.map Executor.pid) s).value.exits = _
      rw [exits_shutdownEach _ s nodup, numbers.filterMap_get?]
  case increasing => exact increasing
  case managed => exact reached.placed.external_eq numbers
  case told =>
    unfold shutdown
    split
    · next none =>
      refine ⟨[], rfl, ?_⟩
      unfold managed
      rw [List.isEmpty_iff.mp none]
      rfl
    · refine ⟨_, ?_, congrArg (· ++ _) (tellEngine_entries reached.placed numbers equipped)⟩
      rw [Logged.bind_entries, teardownsIn_append, teardownsIn_shutdownEach]
      rfl
  case answers => exact answers
  case others => exact others
  case again => exact shutdown_of_none vacant.scripts

end Reachable

/-- A script waits for its child, another one is managed by the engine, and the child and the managed
script ask an entity for a text. -/
def troupeRun : List Operation :=
  [.start (.bytecode "parent" [.sleep 100, .ret]), .start (.engine "keeper" "shop"), .runReady 0,
    .runScript ⟨1⟩ (.bytecode "child" [.ret]),
    .request ⟨2⟩ ⟨7⟩ .textEntry fun _ response => some response,
    .request ⟨3⟩ ⟨7⟩ .textEntry fun _ response => some response]

/-- A parent, its child and a managed script are torn down, two of them with a pending request. -/
theorem shutsDown_troupe : ∃ s,
    performAll 3 troupeRun (.empty {} (some deferringEngine)) = some s ∧
      s.external = [⟨2⟩] ∧ s.requests.pending.map Request.pid = [⟨2⟩, ⟨3⟩] ∧
      s.executors.map Executor.child = [some ⟨3⟩, none, none] ∧ s.calls.length = 1 ∧
      s.ShutsDown s.shutdown := by
  have performed : performAll 3 troupeRun (.empty {} (some deferringEngine)) = some _ := rfl
  exact ⟨_, performed, rfl, rfl, rfl, rfl,
    Reachable.shutsDown (Reachable.empty.performAll performed)⟩

end ScriptScheduler
