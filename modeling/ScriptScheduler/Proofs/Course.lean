import ScriptScheduler.Proofs.Lookup

/-!
# What operations leave alone

Moving scripts around and changing single scripts leaves everything aside from the scripts and
their places as it was. Apart from the launch of a script no operation adds a script or changes
the order of the live ones, and none changes the configuration or the engine; numbers for requests
are only ever handed out. `Follows s s'` says so of two states, and every function of the
scheduler leads to a state that follows the one that it began with.
-/

namespace ScriptScheduler

/-- A revived thread is in no hold list, unless it is fixed where it is. -/
def Thread.freed (t : Thread) : Thread := if t.holdList.isFixed then t else t.detached

/-- A suspended thread is in the hold list for its wake clock, unless it is fixed where it is. A
timer that is set gets the number `seq`. -/
def Thread.held (seq : Nat) (t : Thread) : Thread :=
  if t.holdList.isFixed then t
  else if t.sleepUntil = Clock.never then { t with timer := none, holdList := .noTimeout }
  else { t with timer := some ⟨t.sleepUntil, seq⟩, holdList := .timeout }

/-- A script after the answer to a request: a bytecode script finds it on its stack. -/
def Executor.answered (ex : Executor) (value : Val) : Executor :=
  (if ex.isEngine then ex else ex.setResultSlot value).revive

/-- Every answer to a request revives the script. -/
theorem Executor.handleRequest_value (ex : Executor) (id : RequestId) (response : Option Val)
    (engine : Option Engine) :
    (ex.handleRequest id response engine).value = ex.answered (response.getD .sentinel) := by
  unfold handleRequest answered isEngine
  cases ex.runtime with
  | engine function finished =>
    cases engine with
    | none => rfl
    | some engine =>
      simp only [Logged.bind_value, if_true]
      split <;> rfl
  | bytecode machine => rfl
  | unbound => rfl

/-- Whether a script may make a request: it can be suspended, and it is an engine script or not yet
blocked. -/
def Executor.mayAsk (ex : Executor) : Bool :=
  !ex.options.runToCompletion && (ex.isEngine || !ex.isBlocked)

/-- A request that is taken back leaves the script as if it had been revived. -/
theorem Executor.revive_asking (ex : Executor) (wake : Nat) :
    (ex.suspend wake).openResultSlot.closeResultSlot.revive = ex.revive := by
  unfold closeResultSlot openResultSlot suspend
  split <;> split <;> simp_all [revive, push, isEngine, mapThread, Thread.revive, Thread.suspend]

/-- A request that has just been added is removed again without a trace. -/
theorem Holder.remove_of_add? {holder added : Holder} {kind : RequestKind} {id : RequestId}
    (h : holder.add? kind id = some added) : added.remove kind id = holder := by
  unfold add? at h
  split at h
  · exact absurd h (by simp)
  · next absent =>
    have new : id ∉ holder.queue kind := by
      intro mem
      refine absent ?_
      unfold contains ids
      cases kind <;> simp_all [queue]
    obtain rfl := Option.some.inj h
    unfold remove
    rw [queue_setQueue_self, List.erase_append_right _ new]
    cases kind <;> simp [setQueue, queue]

namespace Scheduler

variable {s s₁ s₂ : Scheduler} {pid : Pid} {ex : Executor} {f : Executor → Executor}

/-! ### Aside from the scripts -/

/-- The scheduler without its scripts and their places. -/
def aside (s : Scheduler) : Scheduler :=
  { s with
    executors := []
    ready := []
    timeouts := []
    untimed := []
    debugger := []
    external := []
    nextTimerSeq := 0 }

@[simp] theorem aside_modify : (s.modify pid f).aside = s.aside := rfl

@[simp] theorem aside_store : (s.store ex).aside = s.aside := rfl

@[simp] theorem aside_erase : (s.erase pid).aside = s.aside := rfl

@[simp] theorem aside_enqueue : (s.enqueue pid).aside = s.aside := rfl

@[simp] theorem aside_parkDebugger : (s.parkDebugger pid).aside = s.aside := rfl

@[simp] theorem aside_leaveHoldList : (s.leaveHoldList ex).aside = s.aside := by
  unfold leaveHoldList
  split <;> try rfl
  split <;> rfl

@[simp] theorem aside_detach : (s.detach pid).aside = s.aside := by
  unfold detach
  split
  · rfl
  · exact aside_leaveHoldList

@[simp] theorem aside_schedule : (s.schedule pid).aside = s.aside := by
  unfold schedule
  split
  · exact aside_detach
  · rfl

@[simp] theorem aside_hold : (s.hold pid).aside = s.aside := by
  unfold hold
  split
  · rfl
  · split
    · rfl
    · split <;> exact aside_detach

@[simp] theorem aside_parkExternal : (s.parkExternal pid).aside = s.aside := aside_detach

@[simp] theorem aside_resumeParent {parent child : Pid} {result : Val} :
    (s.resumeParent parent child result).aside = s.aside := by
  unfold resumeParent
  split
  · rfl
  · split
    · exact aside_schedule
    · rfl

@[simp] theorem aside_orphan {child : Option Pid} : (s.orphan child).aside = s.aside := by
  unfold orphan
  split <;> rfl

@[simp] theorem aside_notifyParent : (s.notifyParent ex).aside = s.aside := by
  unfold notifyParent
  split
  · rfl
  · exact aside_resumeParent

/-- No timer is set when a script is detached. -/
theorem nextTimerSeq_detach : (s.detach pid).nextTimerSeq = s.nextTimerSeq := by
  unfold detach
  split
  · rfl
  · dsimp only [modify]
    unfold leaveHoldList
    split <;> try rfl
    split <;> rfl

/-- What is the same aside from the scripts has the same requests. -/
theorem requests_of_aside (same : s₁.aside = s.aside) : s₁.requests = s.requests :=
  show s₁.aside.requests = s.aside.requests by rw [same]

/-- What is the same aside from the scripts has the same engine. -/
theorem engine_of_aside (same : s₁.aside = s.aside) : s₁.engine = s.engine :=
  show s₁.aside.engine = s.aside.engine by rw [same]

/-! ### States that follow others -/

/-- In `s'` at least as many numbers of requests and scripts have been handed out as in `s`. -/
structure Counts (s s' : Scheduler) : Prop where
  issued : s.issued ≤ s'.issued
  nextPid : s.nextPid.number ≤ s'.nextPid.number

/-- In a state all its numbers have been handed out. -/
theorem Counts.refl (s : Scheduler) : Counts s s := ⟨Nat.le_refl _, Nat.le_refl _⟩

/-- A launch hands out the number of the new script. -/
theorem counts_enroll : Counts s (s.enroll ex).value := ⟨Nat.le_refl _, Nat.le_succ _⟩

/-- The state `s'` may come after `s` when no script is launched in between. -/
structure Follows (s s' : Scheduler) : Prop where
  config : s'.config = s.config
  engine : s'.engine = s.engine
  nextPid : s'.nextPid = s.nextPid
  issued : s.issued ≤ s'.issued
  pids : (s'.executors.map Executor.pid).Sublist (s.executors.map Executor.pid)

namespace Follows

/-- A state follows itself. -/
theorem refl (s : Scheduler) : Follows s s :=
  ⟨rfl, rfl, rfl, Nat.le_refl _, List.Sublist.refl _⟩

/-- What follows a state that follows another one follows that one, too. -/
theorem trans (h₁ : Follows s s₁) (h₂ : Follows s₁ s₂) : Follows s s₂ where
  config := h₂.config.trans h₁.config
  engine := h₂.engine.trans h₁.engine
  nextPid := h₂.nextPid.trans h₁.nextPid
  issued := Nat.le_trans h₁.issued h₂.issued
  pids := h₂.pids.trans h₁.pids

/-- A state that has changed in the scripts only. -/
theorem of_aside (same : s₁.aside = s.aside)
    (pids : (s₁.executors.map Executor.pid).Sublist (s.executors.map Executor.pid)) :
    Follows s s₁ where
  config := show s₁.aside.config = s.aside.config by rw [same]
  engine := show s₁.aside.engine = s.aside.engine by rw [same]
  nextPid := show s₁.aside.nextPid = s.aside.nextPid by rw [same]
  issued := Nat.le_of_eq (show s.aside.issued = s₁.aside.issued by rw [same])
  pids := pids

/-- The order of the numbers stays. -/
theorem numbered (h : Follows s s₁) (numbers : s.Numbered) : s₁.Numbered := by
  have sorted : (s.executors.map Executor.pid).Pairwise fun a b => a.number < b.number :=
    List.pairwise_map.mpr numbers.increasing
  have kept : (s₁.executors.map Executor.pid).Pairwise fun a b => a.number < b.number :=
    sorted.sublist h.pids
  refine ⟨(List.pairwise_map (R := fun a b : Pid => a.number < b.number)).mp kept, ?_⟩
  intro ex live
  have mem : ex.pid ∈ s.executors.map Executor.pid := h.pids.subset (List.mem_map_of_mem live)
  obtain ⟨old, live, same⟩ := List.mem_map.mp mem
  rw [h.nextPid, ← same]
  exact numbers.below old live

/-- No script is live that was not live. -/
theorem live (h : Follows s s₁) {pid : Pid} (live : (s₁.get? pid).isSome = true) :
    (s.get? pid).isSome = true := by
  obtain ⟨ex, found⟩ := Option.isSome_iff_exists.mp live
  have mem := h.pids.subset (List.mem_map_of_mem (mem_of_get? found))
  obtain ⟨old, isLive, same⟩ := List.mem_map.mp mem
  unfold get?
  rw [List.find?_isSome]
  exact ⟨old, isLive, by rw [same, pid_of_get? found]; simp⟩

/-- Who is gone stays gone. -/
theorem gone (h : Follows s s₁) {pid : Pid} (gone : s.get? pid = none) : s₁.get? pid = none := by
  cases found : s₁.get? pid with
  | none => rfl
  | some ex =>
    have := h.live (by rw [found]; rfl)
    rw [gone] at this
    exact absurd this (by decide)

/-- No number has been handed out twice in between. -/
theorem counts (h : Follows s s₁) : Counts s s₁ :=
  ⟨h.issued, Nat.le_of_eq (congrArg Pid.number h.nextPid.symm)⟩

end Follows

/-! ### Single scripts -/

/-- A change of a script that keeps its number. -/
theorem follows_modify (keeps : ∀ ex, ex.pid = pid → (f ex).pid = pid) :
    Follows s (s.modify pid f) := by
  have same : (s.modify pid f).executors.map Executor.pid = s.executors.map Executor.pid := by
    unfold modify
    rw [List.map_map]
    refine List.map_congr_left ?_
    intro ex _
    by_cases h : ex.pid = pid
    · simp [h, keeps ex h]
    · simp [h]
  exact .of_aside rfl (same ▸ List.Sublist.refl _)

/-- A new version of a script. -/
theorem follows_store : Follows s (s.store ex) :=
  follows_modify fun _ _ => rfl

/-- A script that is forgotten. -/
theorem follows_erase : Follows s (s.erase pid) :=
  .of_aside rfl ((List.filter_sublist ..).map _)

/-! ### Placement -/

/-- A script whose thread changes. -/
theorem follows_mapThread {g : Thread → Thread} :
    Follows s (s.modify pid fun ex => ex.mapThread g) :=
  follows_modify fun _ same => same

/-- A script that leaves its hold list. -/
theorem follows_leaveHoldList : Follows s (s.leaveHoldList ex) := by
  unfold leaveHoldList
  split <;> try exact { Follows.refl s with }
  split <;> exact { Follows.refl s with }

/-- A script that leaves its place. -/
theorem follows_detach : Follows s (s.detach pid) := by
  unfold detach
  split
  · exact .refl s
  · exact { follows_leaveHoldList.trans follows_mapThread with }

/-- A script that is made ready. -/
theorem follows_schedule : Follows s (s.schedule pid) := by
  unfold schedule
  split
  · exact { follows_detach (s := s) with }
  · exact .refl s

/-- A script that goes to sleep. -/
theorem follows_hold : Follows s (s.hold pid) := by
  unfold hold
  split
  · exact .refl s
  · split
    · exact .refl s
    · split
      · exact { follows_detach.trans follows_mapThread with }
      · exact { follows_detach.trans follows_mapThread with }

/-- A script that is parked for the debugger. -/
theorem follows_parkDebugger : Follows s (s.parkDebugger pid) :=
  { follows_mapThread (g := fun t => { t with holdList := .debugger }) (s := s) with }

/-- A script that is handed to the engine. -/
theorem follows_parkExternal : Follows s (s.parkExternal pid) :=
  { follows_detach.trans follows_mapThread with }

/-! ### The scripts after a placement -/

/-- Leaving a hold list changes no script. -/
theorem executors_leaveHoldList (s : Scheduler) (ex : Executor) :
    (s.leaveHoldList ex).executors = s.executors := by
  unfold Scheduler.leaveHoldList
  split <;> try rfl
  split <;> rfl

/-- Detaching a live script changes its seat and no other script. -/
theorem executors_detach (found : s.get? pid = some ex) :
    (s.detach pid).executors =
      (s.modify pid fun ex => ex.mapThread Thread.detached).executors := by
  unfold Scheduler.detach Scheduler.modify
  rw [found]
  simp only [executors_leaveHoldList]

/-- A detached script keeps everything but its seat. -/
theorem get?_detach_self (s : Scheduler) (pid : Pid) :
    (s.detach pid).get? pid = (s.get? pid).map fun ex => ex.mapThread Thread.detached := by
  cases found : s.get? pid with
  | none => simp [Scheduler.detach, found]
  | some ex =>
    rw [get?_congr (executors_detach found), get?_mapThread_self, found]

/-- Detaching a script leaves the others alone. -/
theorem get?_detach_of_ne (s : Scheduler) {other : Pid} (ne : other ≠ pid) :
    (s.detach pid).get? other = s.get? other := by
  cases found : s.get? pid with
  | none => simp [Scheduler.detach, found]
  | some ex =>
    rw [get?_congr (executors_detach found), get?_mapThread_of_ne _ ne]

/-- Detaching a script keeps the set of live scripts. -/
theorem isSome_get?_detach (s : Scheduler) (pid other : Pid) :
    ((s.detach pid).get? other).isSome = (s.get? other).isSome := by
  by_cases h : other = pid
  · subst h
    rw [get?_detach_self, Option.isSome_map]
  · rw [get?_detach_of_ne s h]

/-- A script that is made ready is in no hold list, unless it is fixed where it is. -/
theorem get?_schedule_self (s : Scheduler) (pid : Pid) :
    (s.schedule pid).get? pid = (s.get? pid).map fun ex => ex.mapThread Thread.freed := by
  unfold schedule isMovable
  cases found : s.get? pid with
  | none => simp [found]
  | some ex =>
    by_cases fixed : ex.thread.holdList.isFixed = true
    · simp [found, fixed, Executor.mapThread, Thread.freed]
    · have moved : ((s.detach pid).enqueue pid).get? pid = (s.detach pid).get? pid := rfl
      simp [fixed, moved, get?_detach_self, found, Executor.mapThread, Thread.freed]

/-- Making a script ready leaves the others alone. -/
theorem get?_schedule_of_ne (s : Scheduler) {other : Pid} (ne : other ≠ pid) :
    (s.schedule pid).get? other = s.get? other := by
  unfold schedule
  split
  · exact get?_detach_of_ne s ne
  · rfl

/-- A script that goes to sleep is in the hold list for its wake clock, unless it is fixed where it
is. -/
theorem get?_hold_self (s : Scheduler) (pid : Pid) :
    (s.hold pid).get? pid =
      (s.get? pid).map fun ex => ex.mapThread (Thread.held s.nextTimerSeq) := by
  have seq : (s.detach pid).nextTimerSeq = s.nextTimerSeq := nextTimerSeq_detach
  unfold hold
  cases found : s.get? pid with
  | none => simp [found]
  | some ex =>
    have detached := get?_detach_self s pid
    rw [found] at detached
    by_cases fixed : ex.thread.holdList.isFixed = true
    · simp [found, fixed, Executor.mapThread, Thread.held]
    · dsimp only
      rw [if_neg fixed]
      split
      · next untimed =>
        refine (get?_mapThread_self fun t => { t with holdList := .noTimeout }).trans ?_
        rw [detached]
        simp [Executor.mapThread, Thread.held, Thread.detached, fixed, untimed]
      · next untimed =>
        refine (get?_mapThread_self fun t =>
          { t with
            timer := some ⟨ex.thread.sleepUntil, (s.detach pid).nextTimerSeq⟩
            holdList := .timeout }).trans ?_
        rw [detached]
        simp [Executor.mapThread, Thread.held, Thread.detached, fixed, untimed, seq]

/-- Putting a script to sleep leaves the others alone. -/
theorem get?_hold_of_ne (s : Scheduler) {other : Pid} (ne : other ≠ pid) :
    (s.hold pid).get? other = s.get? other := by
  unfold hold
  split
  · rfl
  · split
    · rfl
    · split
      · exact (get?_mapThread_of_ne _ ne).trans (get?_detach_of_ne s ne)
      · exact (get?_mapThread_of_ne _ ne).trans (get?_detach_of_ne s ne)

/-- A script that is parked for the debugger. -/
theorem get?_parkDebugger_self (s : Scheduler) (pid : Pid) :
    (s.parkDebugger pid).get? pid = (s.get? pid).map fun ex =>
      ex.mapThread fun t => { t with holdList := .debugger } :=
  get?_mapThread_self _

/-- Parking a script for the debugger leaves the others alone. -/
theorem get?_parkDebugger_of_ne (s : Scheduler) {other : Pid} (ne : other ≠ pid) :
    (s.parkDebugger pid).get? other = s.get? other :=
  get?_mapThread_of_ne _ ne

/-- A script that is handed to the engine. -/
theorem get?_parkExternal_self (s : Scheduler) (pid : Pid) :
    (s.parkExternal pid).get? pid = (s.get? pid).map fun ex =>
      ex.mapThread fun t => { t.detached with holdList := .external } := by
  refine (get?_mapThread_self fun t => { t with holdList := .external }).trans ?_
  rw [get?_detach_self, Option.map_map]
  rfl

/-- Handing a script to the engine leaves the others alone. -/
theorem get?_parkExternal_of_ne (s : Scheduler) {other : Pid} (ne : other ≠ pid) :
    (s.parkExternal pid).get? other = s.get? other :=
  (get?_mapThread_of_ne _ ne).trans (get?_detach_of_ne s ne)

/-- The scripts of `s'` are those of `s` with other threads. -/
def Rethreads (s s' : Scheduler) : Prop :=
  ∀ pid, ∃ g : Thread → Thread, s'.get? pid = (s.get? pid).map fun ex => ex.mapThread g

/-- What does not look at threads stays the same. -/
theorem Rethreads.view {α : Type} {view : Executor → α} (h : Rethreads s s₁)
    (blind : ∀ (g : Thread → Thread) (ex : Executor), view (ex.mapThread g) = view ex)
    (pid : Pid) : (s₁.get? pid).map view = (s.get? pid).map view := by
  obtain ⟨g, eq⟩ := h pid
  rw [eq, Option.map_map]
  congr 1
  funext ex
  exact blind g ex

/-- A single thread that changes. -/
theorem rethreads_of_self {g : Thread → Thread}
    (self : s₁.get? pid = (s.get? pid).map fun ex => ex.mapThread g)
    (others : ∀ other, other ≠ pid → s₁.get? other = s.get? other) : Rethreads s s₁ := by
  intro other
  by_cases same : other = pid
  · exact ⟨g, same ▸ self⟩
  · refine ⟨id, ?_⟩
    rw [others other same]
    cases s.get? other <;> rfl

/-- Detaching a script changes threads only. -/
theorem rethreads_detach : Rethreads s (s.detach pid) :=
  rethreads_of_self (get?_detach_self s pid) fun _ => get?_detach_of_ne s

/-- Making a script ready changes threads only. -/
theorem rethreads_schedule : Rethreads s (s.schedule pid) :=
  rethreads_of_self (get?_schedule_self s pid) fun _ => get?_schedule_of_ne s

/-- Putting a script to sleep changes threads only. -/
theorem rethreads_hold : Rethreads s (s.hold pid) :=
  rethreads_of_self (get?_hold_self s pid) fun _ => get?_hold_of_ne s

/-- Parking a script for the debugger changes threads only. -/
theorem rethreads_parkDebugger : Rethreads s (s.parkDebugger pid) :=
  rethreads_of_self (get?_parkDebugger_self s pid) fun _ => get?_parkDebugger_of_ne s

/-- Handing a script to the engine changes threads only. -/
theorem rethreads_parkExternal : Rethreads s (s.parkExternal pid) :=
  rethreads_of_self (get?_parkExternal_self s pid) fun _ => get?_parkExternal_of_ne s

/-! ### Removal -/

/-- A parent that gets the result of its child. -/
theorem follows_resumeParent {parent child : Pid} {result : Val} :
    Follows s (s.resumeParent parent child result) := by
  unfold resumeParent
  split
  · exact .refl s
  · split
    · exact follows_store.trans follows_schedule
    · exact .refl s

/-- A child whose parent is removed. -/
theorem follows_orphan {child : Option Pid} : Follows s (s.orphan child) := by
  unfold orphan
  split
  · exact .refl s
  · exact follows_modify fun _ same => same

/-- A parent that is told about the end of its child. -/
theorem follows_notifyParent : Follows s (s.notifyParent ex) := by
  unfold notifyParent
  split
  · exact .refl s
  · exact follows_resumeParent

/-- The table without the pending requests among `ids`. -/
def dropFromTable : List RequestId → RequestTable → RequestTable
  | [], table => table
  | id :: rest, table =>
    match table.get? id with
    | none => dropFromTable rest table
    | some request => dropFromTable rest (table.take request)

/-- What dropping the requests of a removed script does to the script and to the table. -/
theorem dropRequests_value (engine : Option Engine) (ids : List RequestId) (table : RequestTable) :
    ∀ ex : Executor, ∃ thread stack,
      (dropRequests engine ids ex table).value =
        ({ ex with thread := thread, stack := stack }, dropFromTable ids table) := by
  induction ids generalizing table with
  | nil => exact fun ex => ⟨ex.thread, ex.stack, rfl⟩
  | cons id rest ih =>
    intro ex
    unfold dropRequests dropFromTable
    cases found : table.get? id with
    | none => exact ih table ex
    | some request =>
      obtain ⟨thread, stack, eq⟩ := ih (table.take request) (ex.handleRequest id none engine).value
      refine ⟨thread, stack, ?_⟩
      simp only [Logged.bind_value]
      rw [eq, Executor.handleRequest_value]
      unfold Executor.answered
      split <;> rfl

/-- A removed script is detached and forgotten, its requests and calls are dropped, its child is
orphaned and its parent is told. -/
theorem remove_state (s : Scheduler) (ex : Executor) :
    (s.remove ex).value.2 =
      (({ (s.detach ex.pid).erase ex.pid with
          requests := dropFromTable ex.requests.ids s.requests }.forgetCalls ex.pid).orphan
        ex.child).notifyParent ex := by
  have engine : ((s.detach ex.pid).erase ex.pid).engine = s.engine := engine_of_aside (by simp)
  have requests : ((s.detach ex.pid).erase ex.pid).requests = s.requests :=
    requests_of_aside (by simp)
  obtain ⟨thread, stack, eq⟩ := dropRequests_value s.engine ex.requests.ids s.requests
    { ex.mapThread Thread.detached with requests := .empty }
  unfold remove
  simp only [Logged.bind_value, Logged.pure_value, engine, requests, eq]
  rfl

/-- A script that is removed. -/
theorem follows_remove : Follows s (s.remove ex).value.2 := by
  have gone : Follows s ((s.detach ex.pid).erase ex.pid) := follows_detach.trans follows_erase
  have dropped : Follows s
      ({ (s.detach ex.pid).erase ex.pid with
        requests := dropFromTable ex.requests.ids s.requests }.forgetCalls ex.pid) :=
    { gone with }
  rw [remove_state]
  exact (dropped.trans follows_orphan).trans follows_notifyParent

/-- A removed script leaves a record of its exit. -/
theorem retire_state (s : Scheduler) (ex : Executor) (reason : ExitReason) :
    (s.retire ex reason).value.2 =
      { (s.remove ex).value.2 with
        exits := (s.remove ex).value.2.exits ++ [exitOf (s.remove ex).value.1 reason] } := by
  unfold retire
  simp only [Logged.bind_value]
  split <;> rfl

/-- Retiring a script begins with detaching and forgetting it. -/
theorem retire_congr (ex : Executor)
    (same : (s₁.detach ex.pid).erase ex.pid = (s.detach ex.pid).erase ex.pid)
    (reason : ExitReason) :
    s₁.retire ex reason = s.retire ex reason := by
  unfold retire remove
  rw [same]

/-- It does not matter how a script has changed that is detached and forgotten, if it is where it
was. -/
theorem erase_detach_store {new : Executor} (found : s.get? pid = some ex) (number : new.pid = pid)
    (same : new.thread = ex.thread) :
    ((s.store new).detach pid).erase pid = (s.detach pid).erase pid := by
  have left : (s.store new).leaveHoldList new = (s.leaveHoldList ex).store new := by
    unfold leaveHoldList
    rw [same, number, pid_of_get? found]
    cases ex.thread.holdList with
    | timeout => cases ex.thread.timer <;> rfl
    | _ => rfl
  have forgotten : ∀ (t : Scheduler) (ready : List Pid),
      { t.modify pid fun ex => ex.mapThread Thread.detached with ready := ready }.erase pid =
        { t.erase pid with ready := ready } := fun t ready =>
    congrArg (fun u : Scheduler => { u with ready := ready })
      (erase_modify (f := fun ex => ex.mapThread Thread.detached) fun _ same => same)
  have stored : ((s.leaveHoldList ex).store new).erase pid = (s.leaveHoldList ex).erase pid := by
    unfold store
    rw [number]
    exact erase_modify fun _ _ => number
  unfold detach
  rw [get?_store found number, found]
  dsimp only
  rw [left, forgotten, forgotten, stored]
  rfl

/-- A script that is retired. -/
theorem follows_retire {reason : ExitReason} : Follows s (s.retire ex reason).value.2 := by
  rw [retire_state]
  exact { follows_remove with }

/-- A script that is handed back. -/
theorem follows_deschedule : Follows s (s.deschedule pid).value.2 := by
  unfold deschedule
  split
  · exact .refl s
  · exact follows_remove

/-! ### Engine calls -/

/-- An engine script whose call is done. -/
theorem follows_completeExternal {value : Val} :
    Follows s (s.completeExternal pid value).value.2 := by
  unfold completeExternal
  split
  · exact .refl s
  · next ex _ =>
    have done : Follows s
        { s.store (ex.finishEngine value) with external := s.external.erase pid } :=
      { follows_store (s := s) with }
    exact done.trans follows_retire

/-- What a call of the engine leads to: its script is done at once, or its call is pending. -/
theorem invoke_state (s : Scheduler) (ex : Executor) (function : FunctionRef) (id : RequestId) :
    (∃ value, (s.invoke ex function id).value.2 = (s.completeExternal ex.pid value).value.2) ∨
    (∃ value, (s.invoke ex function id).value.2 =
      ((s.store { ex with stack := [] }).completeExternal ex.pid value).value.2) ∨
    (∃ settlement, (s.invoke ex function id).value.2 =
      (s.store { ex with stack := [] }).defer { ex with stack := [] } id settlement) := by
  unfold invoke
  split
  · exact .inl ⟨_, rfl⟩
  · next engine _ =>
    simp only [Logged.bind_value]
    split
    · exact .inr (.inl ⟨_, rfl⟩)
    · exact .inr (.inl ⟨_, rfl⟩)
    · exact .inr (.inr ⟨_, rfl⟩)

/-- A call that is deferred. -/
theorem follows_defer {id : RequestId} {settlement : Option Settlement} :
    Follows s (s.defer ex id settlement) :=
  { follows_store (s := s) with }

/-- A call of the engine. -/
theorem follows_invoke {function : FunctionRef} {id : RequestId} :
    Follows s (s.invoke ex function id).value.2 := by
  rcases invoke_state s ex function id with ⟨_, eq⟩ | ⟨_, eq⟩ | ⟨_, eq⟩
  · rw [eq]
    exact follows_completeExternal
  · rw [eq]
    exact follows_store.trans follows_completeExternal
  · rw [eq]
    exact follows_store.trans follows_defer

/-- An engine script names its function. -/
theorem function?_of_isEngine (engine : ex.isEngine = true) :
    ∃ function, ex.function? = some function := by
  unfold Executor.isEngine at engine
  unfold Executor.function?
  cases runtime : ex.runtime with
  | engine function finished => exact ⟨function, rfl⟩
  | bytecode => rw [runtime] at engine; exact absurd engine (by simp)
  | unbound => rw [runtime] at engine; exact absurd engine (by decide)

/-- A script that goes to the engine calls its function there. -/
theorem runExternal_eq {function : FunctionRef} (found : (s.parkExternal pid).get? pid = some ex)
    (named : ex.function? = some function) :
    s.runExternal pid = { s.parkExternal pid with issued := (s.parkExternal pid).issued + 1 }.invoke
      ex function (s.parkExternal pid).nextRequestId := by
  have live : { s.parkExternal pid with issued := (s.parkExternal pid).issued + 1 }.get? pid =
      some ex := found
  unfold runExternal
  dsimp only
  rw [live]
  dsimp only
  rw [named]

/-- A script that goes to the engine. -/
theorem follows_runExternal : Follows s (s.runExternal pid).value.2 := by
  have parked : Follows s { s.parkExternal pid with issued := (s.parkExternal pid).issued + 1 } :=
    { follows_parkExternal (s := s) with
      issued := Nat.le_succ_of_le follows_parkExternal.issued }
  unfold runExternal
  dsimp only
  split
  · exact parked
  · split
    · exact parked
    · exact parked.trans follows_invoke

/-! ### Slices -/

/-- What becomes of a script after a slice. -/
theorem settle_state (s : Scheduler) (ex : Executor) (outcome : SliceOutcome) :
    match outcome with
    | .preempted => (s.settle ex outcome).value.2 = s.enqueue ex.pid
    | .blocked => (s.settle ex outcome).value.2 = s.hold ex.pid
    | .halted => (s.settle ex outcome).value.2 = s.parkDebugger ex.pid
    | .external => (s.settle ex outcome).value.2 = (s.runExternal ex.pid).value.2
    | .finished => (s.settle ex outcome).value.2 = (s.retire ex .finished).value.2
    | .faulted _ | .runaway => ∃ result reason,
        (s.settle ex outcome).value.2 =
          (s.retire { ex with result := some result } reason).value.2 := by
  cases outcome with
  | preempted => rfl
  | blocked => rfl
  | halted => rfl
  | external => rfl
  | finished => rfl
  | faulted cause => exact ⟨_, _, rfl⟩
  | runaway => exact ⟨_, _, rfl⟩

/-- A script after a slice. -/
theorem follows_settle {outcome : SliceOutcome} : Follows s (s.settle ex outcome).value.2 := by
  have after := settle_state s ex outcome
  cases outcome with
  | preempted => rw [after]; exact { Follows.refl s with }
  | blocked => rw [after]; exact follows_hold
  | halted => rw [after]; exact follows_parkDebugger
  | external => rw [after]; exact follows_runExternal
  | finished => rw [after]; exact follows_retire
  | faulted cause => obtain ⟨_, _, eq⟩ := after; rw [eq]; exact follows_retire
  | runaway => obtain ⟨_, _, eq⟩ := after; rw [eq]; exact follows_retire

/-! ### Requests -/

/-- What an answer does to the script that asked. -/
theorem deliver_state (s : Scheduler) (request : Request) (value : Option Val) :
    (s.deliver request value).value =
      match s.get? request.pid with
      | none => s
      | some ex =>
        (s.store ({ ex with requests := ex.requests.remove request.kind request.id }.answered
          (value.getD .sentinel))).schedule request.pid := by
  unfold deliver
  cases s.get? request.pid with
  | none => rfl
  | some ex => simp only [Logged.bind_value, Logged.pure_value, Executor.handleRequest_value]

/-- An answer to a request. -/
theorem follows_deliver {request : Request} {value : Option Val} :
    Follows s (s.deliver request value).value := by
  rw [deliver_state]
  split
  · exact .refl s
  · exact follows_store.trans follows_schedule

/-- A request whose script is not live any more just leaves the table. -/
theorem resolve_of_not_live {request : Request} {value : Option Val}
    (dead : s.get? request.pid = none) :
    (s.resolve request value).value = { s with requests := s.requests.take request } := by
  have taken : { s with requests := s.requests.take request }.get? request.pid = none := dead
  unfold resolve
  rw [deliver_state]
  dsimp only
  rw [taken]

/-- A request that is resolved leaves the table, and its script gets the answer and is made
ready. -/
theorem resolve_eq {request : Request} {value : Option Val}
    (found : s.get? request.pid = some ex) :
    (s.resolve request value).value =
      ({ s with requests := s.requests.take request }.store
        ({ ex with requests := ex.requests.remove request.kind request.id }.answered
          (value.getD .sentinel))).schedule request.pid := by
  have live : { s with requests := s.requests.take request }.get? request.pid = some ex := found
  unfold resolve
  rw [deliver_state]
  dsimp only
  rw [live]

/-- The end of a request. -/
theorem follows_resolve {request : Request} {value : Option Val} :
    Follows s (s.resolve request value).value :=
  { follows_deliver (s := { s with requests := s.requests.take request }) with }

/-- A request that is aborted. -/
theorem follows_abortRequest {id : RequestId} : Follows s (s.abortRequest id).value.2 := by
  unfold abortRequest
  split
  · exact .refl s
  · exact follows_resolve

/-- Requests that are aborted. -/
theorem follows_abortEach (ids : List RequestId) :
    ∀ s : Scheduler, Follows s (abortEach ids s).value.2 := by
  induction ids with
  | nil => exact Follows.refl
  | cons id rest ih => exact fun s => follows_abortRequest.trans (ih _)

/-- A sleeper that is woken. -/
theorem follows_wake : Follows s (s.wake pid).value := by
  unfold wake
  split
  · exact .refl s
  · dsimp only
    split
    · exact follows_store.trans follows_schedule
    · exact (follows_store.trans (follows_abortEach _ _)).trans follows_schedule

/-- What making a request leads to: nothing, a request that is taken back, or a request for which
the script sleeps. -/
inductive Registered (s : Scheduler) (pid : Pid) (entity : EntityId) (kind : RequestKind)
    (wake : Nat) (callback : Callback) : Option RequestId → Scheduler → Prop
  | refused : Registered s pid entity kind wake callback none s
  | takenBack {ex : Executor} (found : s.get? pid = some ex) (able : ex.mayAsk = true)
      (clash : ex.requests.add? kind s.nextRequestId = none ∨
        s.requests.insert? { id := s.nextRequestId, pid, entity, kind, callback } = none) :
      Registered s pid entity kind wake callback none
        ({ s with issued := s.issued + 1 }.store ex.revive)
  | asked {ex : Executor} {holder : Holder} {table : RequestTable}
      (found : s.get? pid = some ex) (able : ex.mayAsk = true)
      (added : ex.requests.add? kind s.nextRequestId = some holder)
      (inserted : s.requests.insert?
        { id := s.nextRequestId, pid, entity, kind, callback } = some table) :
      Registered s pid entity kind wake callback (some s.nextRequestId)
        (({ s with issued := s.issued + 1, requests := table }.store
          { (ex.suspend wake).openResultSlot with requests := holder }).hold pid)

/-- The ways in which making a request can end. -/
theorem registered (s : Scheduler) (pid : Pid) (entity : EntityId) (kind : RequestKind)
    (wake : Nat) (callback : Callback) :
    Registered s pid entity kind wake callback
      (s.register pid entity kind wake callback).value.1
      (s.register pid entity kind wake callback).value.2 := by
  unfold register
  cases found : s.get? pid with
  | none => exact .refused
  | some ex =>
    dsimp only
    split
    · exact .refused
    · next suspendable =>
      split
      · exact .refused
      · next free =>
        have able : ex.mayAsk = true := by
          unfold Executor.mayAsk
          cases engine : ex.isEngine <;> simp_all
        have requests : (ex.suspend wake).openResultSlot.requests = ex.requests := by
          unfold Executor.openResultSlot Executor.suspend
          split <;> split <;> rfl
        rw [requests]
        split
        · next full =>
          rw [Executor.revive_asking]
          exact .takenBack found able (.inl full)
        · next holder added =>
          have backed : holder.remove kind s.nextRequestId = ex.requests :=
            Holder.remove_of_add? added
          split
          · next clash =>
            have same : ({ (ex.suspend wake).openResultSlot with
                requests := holder.remove kind s.nextRequestId } : Executor) =
                (ex.suspend wake).openResultSlot := by
              rw [backed, ← requests]
            rw [same, Executor.revive_asking]
            exact .takenBack found able (.inr clash)
          · next table inserted => exact .asked found able added inserted

/-- A request that is made. -/
theorem follows_register {entity : EntityId} {kind : RequestKind} {wake : Nat}
    {callback : Callback} : Follows s (s.register pid entity kind wake callback).value.2 := by
  have counted : Follows s { s with issued := s.issued + 1 } :=
    { Follows.refl s with issued := Nat.le_succ _ }
  have made := registered s pid entity kind wake callback
  generalize (s.register pid entity kind wake callback).value.1 = id at made
  generalize (s.register pid entity kind wake callback).value.2 = after at made ⊢
  cases made with
  | refused => exact .refl s
  | takenBack => exact counted.trans follows_store
  | @asked _ _ table =>
    have tabled : Follows s { s with issued := s.issued + 1, requests := table } :=
      { counted with }
    exact tabled.trans (follows_store.trans follows_hold)

/-! ### Control -/

/-- An event that is delivered or refused. -/
theorem follows_signalEvent {event : Val} : Follows s (s.signalEvent pid event).value.2 := by
  unfold signalEvent
  split
  · exact .refl s
  · split
    · exact follows_store.trans follows_schedule
    · exact follows_store
    · exact .refl s

/-- The state in which a script has left its place and is no longer halted. -/
def unhalted (s : Scheduler) (pid : Pid) : Scheduler :=
  (s.detach pid).modify pid fun ex => { ex with halted := false }

/-- Only a live script that the engine does not manage is halted, and it is parked. -/
theorem halt_ok (halted : s.halt pid = .ok s₁) :
    ∃ ex, s.get? pid = some ex ∧ ex.thread.holdList ≠ .external ∧
      s₁ = ((s.detach pid).modify pid fun ex => { ex with halted := true }).parkDebugger pid := by
  unfold halt at halted
  split at halted
  · exact absurd halted (by simp)
  · next ex found =>
    split at halted
    · exact absurd halted (by simp)
    · next mine => exact ⟨ex, found, mine, (Except.ok.inj halted).symm⟩

/-- Only a script in the list of the debugger is released. It sleeps on if it is blocked, and
becomes ready if not. -/
theorem release_ok (released : s.release pid = .ok s₁) :
    pid ∈ s.debugger ∧ ∃ ex, (s.unhalted pid).get? pid = some ex ∧
      s₁ = if ex.isBlocked then (s.unhalted pid).hold pid else (s.unhalted pid).schedule pid := by
  unfold release at released
  split at released
  · next listed =>
    dsimp only at released
    split at released
    · exact absurd released (by simp)
    · next ex found =>
      exact ⟨List.contains_iff_mem.mp listed, ex, found, (Except.ok.inj released).symm⟩
  · exact absurd released (by simp)

/-- A script that is halted. -/
theorem follows_halt (halted : s.halt pid = .ok s₁) : Follows s s₁ := by
  have marked : Follows s ((s.detach pid).modify pid fun ex => { ex with halted := true }) :=
    follows_detach.trans (follows_modify fun _ same => same)
  obtain ⟨-, -, -, rfl⟩ := halt_ok halted
  exact marked.trans follows_parkDebugger

/-- A script that is released. -/
theorem follows_release (released : s.release pid = .ok s₁) : Follows s s₁ := by
  have freed : Follows s (s.unhalted pid) :=
    follows_detach.trans (follows_modify fun _ same => same)
  obtain ⟨-, ex, -, rfl⟩ := release_ok released
  split
  · exact freed.trans follows_hold
  · exact freed.trans follows_schedule

/-- Halting a script leaves everything aside from the scripts as it was. -/
theorem aside_halt (halted : s.halt pid = .ok s₁) : s₁.aside = s.aside := by
  obtain ⟨-, -, -, rfl⟩ := halt_ok halted
  simp

/-- Releasing a script leaves everything aside from the scripts as it was. -/
theorem aside_release (released : s.release pid = .ok s₁) : s₁.aside = s.aside := by
  have freed : (s.unhalted pid).aside = s.aside := by simp [unhalted]
  obtain ⟨-, ex, -, rfl⟩ := release_ok released
  split <;> simp [freed]

/-- A live script that is killed is retired. -/
theorem kill_of_get? (found : s.get? pid = some ex) :
    s.kill pid =
      .ok (s.retire { ex with result := some (.fail ErrorCode.aborted "script killed") }
        .killed) := by
  have number := pid_of_get? found
  let ended : Executor := { ex with result := some (.fail ErrorCode.aborted "script killed") }
  have stored : (s.store ended).get? pid = some ended := get?_store found number
  have own : s.get? ended.pid = some ex := (congrArg s.get? number).trans found
  have retired : (s.store ended).retire ended .killed = s.retire ended .killed :=
    retire_congr ended (erase_detach_store own rfl rfl) .killed
  unfold kill
  rw [found]
  dsimp only
  rw [stored, ← retired]

/-- Only a live script is killed, and it is retired. -/
theorem kill_ok {ran : Logged (ScriptExit × Scheduler)} (killed : s.kill pid = .ok ran) :
    ∃ ex, s.get? pid = some ex ∧
      ran = s.retire { ex with result := some (.fail ErrorCode.aborted "script killed") }
        .killed := by
  cases found : s.get? pid with
  | none =>
    unfold kill at killed
    rw [found] at killed
    exact absurd killed (by simp)
  | some ex => exact ⟨ex, rfl, Except.ok.inj (killed.symm.trans (kill_of_get? found))⟩

/-! ### Launching -/

/-- A script that is given a program had none, and it has the runtime and the thread of the program
from then on. -/
theorem setProgram_eq {program : Program} {bound : Executor}
    (binds : ex.setProgram program = .ok bound) :
    ex.program = none ∧ ∃ runtime thread,
      Executor.bindRuntime ex.options program = .ok (runtime, thread) ∧
        bound = { ex with
          program := some program
          runtime := runtime
          thread := { thread with critical := ex.options.critical } } := by
  unfold Executor.setProgram at binds
  split at binds
  · exact absurd binds (by simp)
  · next free =>
    split at binds
    · exact absurd binds (by simp)
    · next runtime thread made => exact ⟨free, runtime, thread, made, (Except.ok.inj binds).symm⟩

/-- A prepared script has the next number and is new apart from its program. -/
theorem prepare_eq {program : Program} {options : Options}
    (prepared : s.prepare program options = .ok ex) :
    ∃ runtime thread, Executor.bindRuntime options program = .ok (runtime, thread) ∧
      ex = { Executor.new s.nextPid options with
        program := some program
        runtime := runtime
        thread := { thread with critical := options.critical } } := by
  unfold prepare at prepared
  split at prepared
  · exact absurd prepared (by simp)
  · split at prepared
    · exact absurd prepared (by simp)
    · split at prepared
      · next bound binds =>
        obtain rfl := Except.ok.inj prepared
        obtain ⟨-, runtime, thread, made, rfl⟩ := setProgram_eq binds
        exact ⟨runtime, thread, made, rfl⟩
      · exact absurd prepared (by simp)

/-- A prepared script has the next number. -/
theorem pid_of_prepare {program : Program} {options : Options}
    (prepared : s.prepare program options = .ok ex) : ex.pid = s.nextPid := by
  obtain ⟨_, _, _, rfl⟩ := prepare_eq prepared
  rfl

/-- A program is bound as bytecode with an empty event queue, or as an engine program without a
call. -/
theorem bindRuntime_cases {options : Options} {program : Program} {runtime : Runtime}
    {thread : Thread} (bound : Executor.bindRuntime options program = .ok (runtime, thread)) :
    (program.type = .bytecode ∧ ∃ machine, runtime = .bytecode machine ∧
      thread = .queued options.priority options.eventQueueSize) ∨
    (program.type = .engine ∧ ∃ function, runtime = .engine function false ∧
      thread = .bridged options.priority) := by
  unfold Executor.bindRuntime at bound
  split at bound
  · next type =>
    split at bound
    · next machine _ =>
      obtain ⟨rfl, rfl⟩ := Prod.mk.inj (Except.ok.inj bound)
      exact .inl ⟨type, machine, rfl, rfl⟩
    · exact absurd bound (by simp)
  · next type =>
    split at bound
    · next function _ =>
      obtain ⟨rfl, rfl⟩ := Prod.mk.inj (Except.ok.inj bound)
      exact .inr ⟨type, function, rfl, rfl⟩
    · exact absurd bound (by simp)
  · exact absurd bound (by simp)

/-- A prepared script is in no hold list. -/
theorem unheld_of_prepare {program : Program} {options : Options}
    (prepared : s.prepare program options = .ok ex) :
    ex.thread.holdList = .none ∧ ex.thread.timer = none := by
  obtain ⟨runtime, thread, bound, rfl⟩ := prepare_eq prepared
  rcases bindRuntime_cases bound with ⟨-, _, -, rfl⟩ | ⟨-, _, -, rfl⟩
  · exact ⟨rfl, rfl⟩
  · exact ⟨rfl, rfl⟩

/-- What the launch of a script did: the script is prepared and put at the end of the queue, and the
log is told of it. -/
theorem startScriptWith_launched {program : Program} {options : Options}
    {ran : Logged (Pid × Scheduler)} (started : s.startScriptWith program options = .ok ran) :
    ∃ ex, s.prepare program options = .ok ex ∧
      ran = ⟨(ex.pid, (s.enroll ex).value.enqueue ex.pid),
        (Logged.tell (.scriptStarted ex.pid ex.scriptname)).entries⟩ := by
  unfold startScriptWith at started
  split at started
  · exact absurd started (by simp)
  · next ex prepared => exact ⟨ex, prepared, (Except.ok.inj started).symm⟩

/-- What the launch of a child did: the parent could wait, and it waits for the new script, which
is ready; the log is told of the new script and of its parent. -/
theorem runScript_launched {parent : Pid} {program : Program} {ran : Logged (Pid × Scheduler)}
    (launched : s.runScript parent program = .ok ran) :
    ∃ waiting child, s.get? parent = some waiting ∧ childRefusal? waiting = none ∧
      s.prepare program (.ofConfig s.config) = .ok child ∧
      ran = ⟨(child.pid, ((s.enroll child).value.awaitChild parent child.pid).enqueue child.pid),
        (Logged.tell (.scriptStarted child.pid child.scriptname)).entries ++
          (Logged.tell (.childStarted parent child.pid)).entries⟩ := by
  unfold runScript at launched
  split at launched
  · exact absurd launched (by simp)
  · next waiting found =>
    split at launched
    · exact absurd launched (by simp)
    · next able =>
      split at launched
      · exact absurd launched (by simp)
      · next child prepared =>
        obtain rfl := Except.ok.inj launched
        exact ⟨waiting, child, found, able, prepared, rfl⟩

/-- The state after the launch of a child. -/
theorem runScript_eq {parent : Pid} {program : Program} {ran : Logged (Pid × Scheduler)}
    (launched : s.runScript parent program = .ok ran) :
    ∃ waiting child, s.get? parent = some waiting ∧ childRefusal? waiting = none ∧
      s.prepare program (.ofConfig s.config) = .ok child ∧
      ran.value = (child.pid,
        ((s.enroll child).value.awaitChild parent child.pid).enqueue child.pid) := by
  obtain ⟨waiting, child, found, able, prepared, rfl⟩ := runScript_launched launched
  exact ⟨waiting, child, found, able, prepared, rfl⟩

/-- A parent that waits for its child leaves everything aside from the scripts as it was. -/
theorem aside_awaitChild {parent child : Pid} : (s.awaitChild parent child).aside = s.aside := by
  unfold awaitChild
  simp

/-- A parent that waits for its child. -/
theorem follows_awaitChild {parent child : Pid} : Follows s (s.awaitChild parent child) := by
  have linked : Follows s (s.modify child fun ex => { ex with parent := some parent }) :=
    follows_modify fun _ same => same
  have waits : Follows (s.modify child fun ex => { ex with parent := some parent })
      ((s.modify child fun ex => { ex with parent := some parent }).modify parent fun ex =>
        ({ ex with child := some child }.push .sentinel).suspend Clock.never) :=
    follows_modify fun ex same => by unfold Executor.suspend; split <;> exact same
  exact (linked.trans waits).trans follows_hold

/-! ### Refusals -/

/-- If the attempt is refused, nothing has been changed. -/
def Undone {α : Type} (s : Scheduler) (tried : Except (Refusal Scheduler) α) : Prop :=
  ∀ refusal, tried = .error refusal → refusal.state = s

/-- A refusal of the state itself. -/
theorem Undone.refused {α : Type} (cause : SchedulerError) :
    Undone (α := α) s (.error ⟨cause, s⟩) := by
  rintro refusal ⟨⟩
  rfl

/-- What is not refused. -/
theorem Undone.ok {α : Type} (a : α) : Undone s (.ok a) := fun _ => by simp

/-- What holds of the state, and after the attempt unless it is refused, holds after an operation
that may be refused. -/
theorem Undone.attempt {α : Type} {answer : α → Answer} {P : Scheduler → Prop}
    {tried : Except (Refusal Scheduler) (Logged (α × Scheduler))} (undone : Undone s tried)
    (before : P s) (after : ∀ ran, tried = .ok ran → P ran.value.2) :
    P (Scheduler.attempt answer tried).value.2 := by
  cases tried with
  | error refusal =>
    obtain rfl := undone refusal rfl
    exact before
  | ok ran => exact after ran rfl

/-- The same holds of an operation that may be refused and answers nothing else. -/
theorem Undone.attemptQuietly {P : Scheduler → Prop} {tried : Except (Refusal Scheduler) Scheduler}
    (undone : Undone s tried) (before : P s) (after : ∀ s', tried = .ok s' → P s') :
    P (Scheduler.attemptQuietly tried).value.2 := by
  cases tried with
  | error refusal =>
    obtain rfl := undone refusal rfl
    exact before
  | ok s' => exact after s' rfl

/-- A script is prepared before it is launched. -/
theorem undone_startScriptWith (program : Program) (options : Options) :
    Undone s (s.startScriptWith program options) := by
  unfold startScriptWith
  split
  · exact .refused _
  · exact .ok _

/-- A child is prepared before it is launched, and its parent is asked first. -/
theorem undone_runScript (parent : Pid) (program : Program) :
    Undone s (s.runScript parent program) := by
  unfold runScript
  split
  · exact .refused _
  · split
    · exact .refused _
    · split
      · exact .refused _
      · exact .ok _

/-- A script is prepared before it is run to its end. -/
theorem undone_runToCompletion (patience now : Nat) (program : Program) :
    Undone s (s.runToCompletion patience now program) := by
  unfold runToCompletion
  split
  · exact .refused _
  · exact .ok _

/-- Running a program to its end is refused, and then nothing is done, or the program comes to its
end. -/
theorem perform_runToCompletion {patience now : Nat} {program : Program}
    {ran : Logged (Answer × Scheduler)}
    (performed : s.perform patience (.runToCompletion now program) = some ran) :
    (∃ cause, s.runToCompletion patience now program = .error ⟨cause, s⟩ ∧
        ran = refusing ⟨cause, s⟩) ∨
      ∃ done, s.runToCompletion patience now program = .ok (some done) ∧
        ran = answering .returned done := by
  unfold perform at performed
  dsimp only at performed
  split at performed
  · next refusal refused =>
    obtain rfl := undone_runToCompletion patience now program refusal refused
    exact .inl ⟨refusal.cause, refused, (Option.some.inj performed).symm⟩
  · next tried eq =>
    obtain ⟨done, rfl, same⟩ := Option.map_eq_some_iff.mp performed
    exact .inr ⟨done, eq, same.symm⟩

/-- A script is looked up before it is halted. -/
theorem undone_halt (pid : Pid) : Undone s (s.halt pid) := by
  unfold halt
  split
  · exact .refused _
  · split
    · exact .refused _
    · exact .ok _

/-- A script is detached before it is looked up to be released. If it is not live then, it was not
live before, and there was nothing to detach. -/
theorem undone_release (pid : Pid) : Undone s (s.release pid) := by
  unfold release
  split
  · dsimp only
    split
    · next gone =>
      have dead : s.get? pid = none := by
        have live := congrArg Option.isSome gone
        rw [isSome_get?_modify (f := fun ex => { ex with halted := false }) fun _ same => same,
          isSome_get?_detach] at live
        exact Option.not_isSome_iff_eq_none.mp (by rw [live]; decide)
      have still : s.detach pid = s := by
        unfold detach
        rw [dead]
      rw [still, modify_of_not_live dead]
      exact .refused _
    · exact .ok _
  · exact .refused _

/-- A script has its result before it is looked up to be removed. That never fails: it has been
found before. -/
theorem undone_kill (pid : Pid) : Undone s (s.kill pid) := by
  cases found : s.get? pid with
  | some ex => exact kill_of_get? found ▸ .ok _
  | none =>
    unfold kill
    rw [found]
    exact .refused _

end Scheduler

end ScriptScheduler
