import ScriptScheduler.Proofs.Callers
import ScriptScheduler.Proofs.Cycles
import ScriptScheduler.Proofs.Expiry
import ScriptScheduler.Server

/-!
# Progress of the server loop

A server that runs program files has no engine and launches no critical scripts, so each of its
passes comes to an end. After a pass it idles for a tick if a script is ready; otherwise it idles
until the next wake clock, but no longer than its configuration allows. Hence it never sleeps past a
wake clock, and its clock moves with every turn, unless the configuration allows no idle wait at all
and no script is ready: then the clock stands still for good (`Server.Runs.progress`).
-/

namespace ScriptScheduler

namespace Executor

variable {ex a b : Executor} {gone : Pid → Prop} {wrapped : Prop} {may : Act → Prop}
  {now slice : Nat} {limit : Option Nat}

/-! ### Scripts that are not critical -/

/-- A change leaves a script as critical as it was. -/
theorem Change.critical (change : Change gone wrapped a b) :
    b.thread.critical = a.thread.critical := by
  have freed : ∀ t : Thread, t.freed.critical = t.critical := by
    intro t
    unfold Thread.freed
    split <;> rfl
  have held : ∀ (seq : Nat) (t : Thread), (t.held seq).critical = t.critical := by
    intro seq t
    unfold Thread.held
    split
    · rfl
    · split <;> rfl
  have suspended : ∀ (ex : Executor) wake, (ex.suspend wake).thread.critical = ex.thread.critical :=
    fun ex wake => (ex.tallies_suspend wake).2
  cases change with
  | preempted _ slice => exact slice.continues.critical
  | slept _ slice seq => exact (held seq _).trans slice.continues.critical
  | stopped _ slice => exact slice.continues.critical
  | called =>
    change (Thread.setOutstanding _ _).critical = _
    unfold Thread.setOutstanding
    split <;> rfl
  | @queued event thread _ posted =>
    obtain ⟨capacity, events, -, rfl⟩ := Thread.post_ok posted
    rfl
  | woken => exact freed _
  | answered =>
    refine (freed _).trans ?_
    unfold answered
    split <;> rfl
  | timedOut => rfl
  | resumed => exact freed _
  | orphaned => rfl
  | halted => rfl
  | releasedBlocked _ _ seq => exact held seq _
  | released => rfl
  | requested _ _ wake seq =>
    refine (held seq _).trans ?_
    unfold openResultSlot
    split <;> exact suspended a wake
  | takenBack => rfl
  | awaited _ _ seq => exact (held seq _).trans (suspended _ _)

/-- A script that is not critical ends its slice within its length. -/
theorem runCycles_ends {patience left : Nat} {told : Array Entry}
    (uncritical : ex.thread.critical = false) (enough : left < patience) :
    ∃ ran, runCycles now limit patience left told ex = some ran := by
  induction patience generalizing left told ex with
  | zero => exact absurd enough (Nat.not_lt_zero _)
  | succ patience ih =>
    unfold runCycles
    cases ex.runtime with
    | unbound => exact ⟨_, rfl⟩
    | engine function finished => exact ⟨_, rfl⟩
    | bytecode machine =>
      dsimp only
      split
      · split
        · exact ⟨_, rfl⟩
        · next mid goesOn =>
          have free : mid.thread.critical = false :=
            (continues_cycle goesOn).critical.trans uncritical
          split
          · exact ⟨_, rfl⟩
          · next more =>
            have longer : 1 < left := by simpa [free] using more
            exact ih free (by omega)
      · exact ⟨_, rfl⟩

/-- A slice of a script that is not critical comes to an end, whatever the patience. -/
theorem runSlice_ends (now slice : Nat) (limit : Option Nat)
    (uncritical : ex.thread.critical = false) :
    ∃ ran, ∀ patience, ex.runSlice now slice limit patience = some ran := by
  unfold runSlice
  rw [uncritical]
  have ended : ∃ ran, runCycles now limit (slice + 1) slice #[] ex = some ran :=
    runCycles_ends uncritical (Nat.lt_succ_self slice)
  obtain ⟨ran, ends⟩ := ended
  exact ⟨ran, fun _ => ends⟩

end Executor

namespace Scheduler

variable {s s' : Scheduler} {pid : Pid} {ex : Executor} {now : Nat}

/-- No live script is critical. -/
def Uncritical (s : Scheduler) : Prop := ∀ pid ex, s.get? pid = some ex → ex.thread.critical = false

namespace Uncritical

/-- Scripts that change do not become critical. -/
theorem evolves {gone : Pid → Prop} {wrapped : Prop} {may : Act → Prop} (h : s.Uncritical)
    (evolves : Evolves gone wrapped may s s') : s'.Uncritical := by
  intro pid ex' live
  obtain ⟨ex, found, changes⟩ := evolves pid ex' live
  exact changes.keeps (P := fun ex => ex.thread.critical = false)
    (fun _ _ change same => change.any.critical.trans same) (h pid ex found)

/-- Sleepers that are woken do not become critical. -/
theorem checkBlocked (h : s.Uncritical) (sound : Moment.Sound ⟨s, [], []⟩) (now left : Nat) :
    (s.checkBlocked now left).value.2.Uncritical := by
  intro pid ex' live
  rw [get?_checkBlocked sound] at live
  obtain ⟨ex, found, rfl⟩ := Option.map_eq_some_iff.mp live
  split <;> exact h pid ex found

/-- A script launched with the configured options is not critical. -/
theorem enroll {program : Program} (h : s.Uncritical) (numbers : s.Numbered)
    (prepared : s.prepare program (.ofConfig s.config) = .ok ex) :
    (s.enroll ex).value.Uncritical := by
  intro pid ex' live
  by_cases same : pid = ex.pid
  · rw [same, get?_enroll_self (get?_of_prepare numbers prepared)] at live
    obtain rfl := Option.some.inj live
    obtain ⟨_, _, _, rfl⟩ := prepare_eq prepared
    rfl
  · rw [get?_enroll_of_ne same] at live
    exact h pid ex' live

/-- A pass over a batch comes to an end, whatever the patience, and makes no script critical. -/
theorem runBatch_ends (now : Nat) (batch : List Pid) : ∀ {s : Scheduler}, s.Uncritical →
    ∃ ran, (∀ patience, runBatch patience now batch s = some ran) ∧ ran.value.Uncritical := by
  -- uncritical scripts do not use up the patience, and turns leave scripts uncritical
  induction batch with
  | nil => exact fun {s} h => ⟨pure s, fun _ => rfl, h⟩
  | cons pid rest ih =>
    intro s h
    unfold runBatch
    cases found : s.get? pid with
    | none => exact ih h
    | some ex =>
      dsimp only
      by_cases held : ex.thread.holdList ≠ .none
      · obtain ⟨ran, ends, after⟩ := ih h
        exact ⟨ran, fun patience => (if_pos held).trans (ends patience), after⟩
      · obtain ⟨slice, sliced⟩ := Executor.runSlice_ends now
          (s.config.sliceFor ex.thread.priority) s.config.maxRunawayCycles (h pid ex found)
        have runs : ex.Runs s.config.maxRunawayCycles slice.entries slice.value.1 slice.value.2 :=
          ⟨_, _, _, sliced 0⟩
        obtain ⟨_, course⟩ := runs.slice
        have turned : Evolves (fun _ => True) True (fun _ => True) s
            ((s.store slice.value.1).settle slice.value.1 slice.value.2).value.2 :=
          .turn found (Classical.not_not.mp held) course trivial fun _ => trivial
        obtain ⟨after, ends, uncritical⟩ := ih (h.evolves turned)
        have turn : ∃ first : Logged Scheduler, (∀ patience, s.runOne patience now ex = some first) ∧
            first.value = ((s.store slice.value.1).settle slice.value.1 slice.value.2).value.2 := by
          unfold runOne
          exact ⟨_, fun patience => congrArg (Option.map _) (sliced patience), rfl⟩
        obtain ⟨first, ran, same⟩ := turn
        refine ⟨⟨after.value, first.entries ++ after.entries⟩, fun patience => ?_, uncritical⟩
        rw [if_neg held, ran patience]
        dsimp only
        rw [same, ends patience]
        rfl

end Uncritical

/-! ### Schedulers without an engine -/

variable {config : SchedulerConfig}

/-- Without an engine no script has an outstanding call. -/
theorem Equipped.outstanding? (equipped : Equipped s) (none : s.engine = none)
    (coherent : ∀ pid ex, s.get? pid = some ex → ex.Coherent) : s.outstanding? pid = Option.none := by
  refine Option.eq_none_iff_forall_ne_some.mpr fun id outstanding => ?_
  obtain ⟨ex, found, call⟩ := live_of_outstanding? outstanding
  have fits := coherent pid ex found
  have isEngine := fits.managed (fits.external.mp (by rw [call]; rfl))
  exact absurd (equipped pid ex found isEngine) (by rw [none]; decide)

/-- Without an engine there are no engine calls. -/
theorem calls_eq_nil (reached : Reachable config none s) : s.calls = [] := by
  have all := reached.keeps (P := fun m => (m.Sound ∧ Equipped m.state ∧
      ∀ pid ex, m.state.get? pid = some ex → ex.Coherent) ∧
    m.state.engine = Option.none ∧ m.callers = [])
    ⟨⟨Reachable.empty.sound, Reachable.empty.equipped, fun _ _ => Reachable.empty.coherent⟩,
      rfl, rfl⟩ ?_ ?_
  · have none : s.calls.map PendingCall.pid ++ [] = [] := all.2.2
    exact List.map_eq_nil_iff.mp (List.append_eq_nil_iff.mp none).1
  · rintro m entries m' numbers move ⟨⟨sound, equipped, coherent⟩, none, idle⟩
    have coherent' := move.coherent sound coherent
    have equipped' := move.equipped sound equipped
    have none' := (move.engine numbers).trans none
    refine ⟨⟨move.sound sound, equipped', coherent'⟩, none', ?_⟩
    refine List.eq_nil_iff_forall_not_mem.mpr fun pid calls => ?_
    rcases (move.deals numbers coherent).callers calls with old | ⟨id, outstanding⟩
    · exact List.not_mem_nil (idle ▸ old)
    · rw [equipped'.outstanding? none' coherent'] at outstanding
      exact absurd outstanding (by simp)
  · rintro s pid edit ex found ⟨⟨sound, equipped, coherent⟩, none, idle⟩
    refine ⟨⟨sound.edit found edit, equipped.edit found edit, ?_⟩, none, idle⟩
    intro other ex' live
    obtain ⟨old, was, rfl | rfl⟩ := get?_edit found live
    · exact coherent other ex' was
    · exact (coherent other old was).edit edit

/-- Without engine calls there are none to look for. -/
theorem pumpExternal_of_calls (none : s.calls = []) : s.pumpExternal = pure (0, s) := by
  cases s
  cases none
  rfl

/-- A scheduler that a server drives: it has no engine and no critical scripts. -/
structure Served (config : SchedulerConfig) (s : Scheduler) : Prop where
  reached : Reachable config none s
  uncritical : s.Uncritical

namespace Served

/-- At first there are no scripts. -/
theorem empty (config : SchedulerConfig) : Served config (.empty config none) where
  reached := .empty
  uncritical _ _ found := absurd found (by simp [Scheduler.empty, get?])

/-- Nothing is managed by an engine. -/
theorem external (h : Served config s) : s.external = [] := by
  refine List.eq_nil_iff_forall_not_mem.mpr fun pid held => ?_
  have place : (s.seat pid).list = .external := (h.reached.placed.external pid).mp held
  cases found : s.get? pid with
  | none =>
    rw [seat_of_not_live found] at place
    exact absurd place (by simp [Seat.free])
  | some ex =>
    rw [seat_of_get? found] at place
    have isEngine := (h.reached.coherent found).managed place
    exact absurd (h.reached.equipped pid ex found isEngine) (by rw [h.reached.engine]; decide)

/-- The program in a file is launched. -/
theorem launchFile {file : String} {text : Option String} {ran : Logged Scheduler}
    (h : Served config s) (launched : s.launchFile file text = .ok ran) :
    Served config ran.value := by
  unfold Scheduler.launchFile at launched
  split at launched
  · exact absurd launched (by simp)
  · next program _ =>
    split at launched
    · exact absurd launched (by simp)
    · next started eq =>
      obtain rfl := Except.ok.inj launched
      change Served config started.value.2
      have performed : s.perform 0 (.start program) =
          some (attempt .launched (s.startScript program)) := rfl
      rw [eq] at performed
      refine ⟨h.reached.perform performed, ?_⟩
      unfold startScript startScriptWith at eq
      split at eq
      · exact absurd eq (by simp)
      · next ex prepared =>
        obtain rfl := Except.ok.inj eq
        exact h.uncritical.enroll h.reached.numbered prepared

/-- The programs in files are launched. -/
theorem launchFiles (files : List (String × Option String)) : ∀ {s t : Scheduler},
    Served config s → (Scheduler.launchFiles files s).value = .ok t → Served config t := by
  induction files with
  | nil =>
    intro s t h launched
    exact Except.ok.inj launched ▸ h
  | cons first rest ih =>
    intro s t h launched
    unfold Scheduler.launchFiles at launched
    split at launched
    · next ran eq => exact ih (h.launchFile eq) launched
    · exact absurd launched (by simp)

/-- A pass comes to an end, whatever the patience. -/
theorem runReady_ends (h : Served config s) (now : Nat) :
    ∃ ran, (∀ patience, s.runReady patience now = some ran) ∧ Served config ran.value := by
  have taken : { s with ready := [] }.Uncritical := h.uncritical
  obtain ⟨ran, ends, uncritical⟩ := Uncritical.runBatch_ends now s.ready taken
  have passes : ∀ patience, s.runReady patience now = some ran := by
    intro patience
    unfold runReady
    rw [pumpExternal_of_calls (calls_eq_nil h.reached)]
    exact congrArg (Option.map _) (ends patience)
  refine ⟨ran, passes, ?_, uncritical⟩
  have performed : s.perform 0 (.runReady now) = some (quietly ran) :=
    congrArg (Option.map quietly) (passes 0)
  exact h.reached.perform performed

/-- A look at the sleepers. -/
theorem checkBlocked (h : Served config s) (now left : Nat) :
    Served config (s.checkBlocked now left).value.2 where
  reached :=
    have performed : s.perform 0 (.checkBlocked now left) =
        some (answering .clocksLeft (s.checkBlocked now left)) := rfl
    h.reached.perform performed
  uncritical := h.uncritical.checkBlocked h.reached.sound now left

end Served

/-- After a look at the sleepers no sleeper's clock has come. -/
theorem early_checkBlocked (sound : Moment.Sound ⟨s, [], []⟩) (now left : Nat) :
    ∀ entry ∈ (s.checkBlocked now left).value.2.timeouts, now < entry.1.wake := by
  intro entry listed
  have rounds := checkBlocked_rounds sound now left
  have kept := (rounds.lists sound.placed (sound_checkBlocked sound now left).placed).1
  dsimp only at kept
  rw [kept] at listed
  exact of_decide_eq_true (List.mem_filter.mp listed).2

end Scheduler

open Scheduler

/-! ### Turns of the server -/

namespace Server

variable {config : ServerConfig} {maxTicks : Option Nat} {server next : Server} {ms left : Nat}

/-- The server goes on after a turn in which it has come to the state `next`; it idles for `ms`. -/
structure Idles (config : ServerConfig) (maxTicks : Option Nat) (server : Server) (ms : Nat)
    (next : Server) : Prop where
  clock : next.now = server.now
  /-- While a script is ready the server idles for a tick. -/
  busy : next.scheduler.ready ≠ [] → ms = config.tickMs
  /-- Otherwise it idles until the next wake clock, but no longer than it may. -/
  quiet : next.scheduler.ready = [] → ∃ wake, next.scheduler.earliest? = some wake ∧
    server.now < wake ∧ ms = min (wake - server.now) config.idleClocks
  /-- It does not sleep past a wake clock. -/
  inTime : next.scheduler.ready = [] → ∀ entry ∈ next.scheduler.timeouts,
    (next.advance ms).now ≤ entry.1.wake
  /-- No sleeper's clock has come. -/
  early : ∀ entry ∈ next.scheduler.timeouts, server.now < entry.1.wake
  /-- The clock stands still just if no idle wait is allowed and no script is ready. -/
  still : ms = 0 ↔ config.idleClocks = 0 ∧ next.scheduler.ready = []
  /-- If idle waits are allowed, the clock moves. -/
  moves : 1 ≤ config.idleClocks → server.now + 1 ≤ (next.advance ms).now
  /-- If the clock stands still and nothing limits the ticks, the server never stops. -/
  spins : ms = 0 → maxTicks = none → ∀ patience turns told,
    runTurns config maxTicks patience turns told (next.advance ms) = none

/-- A server that goes on idles for a tick, or until the next wake clock if that is not too long. -/
theorem afterPass_idle {scheduler : SchedulerConfig} (served : next.scheduler.Served scheduler)
    (early : ∀ entry ∈ next.scheduler.timeouts, next.now < entry.1.wake)
    (bound : left = budget next.now config.idleClocks next.scheduler.earliest?)
    (goesOn : (afterPass config next left).value = .idle ms) :
    (next.scheduler.ready ≠ [] ∧ ms = config.tickMs) ∨
      next.scheduler.ready = [] ∧ ∃ wake, next.scheduler.earliest? = some wake ∧
        next.now < wake ∧ ms = min (wake - next.now) config.idleClocks := by
  unfold afterPass clocksLeft at goesOn
  by_cases ready : next.scheduler.ready = []
  · refine .inr ⟨ready, ?_⟩
    have first := served.reached.placed.earliest?_eq
    rw [ready, List.isEmpty_nil, if_pos rfl] at goesOn
    rw [first] at bound ⊢
    cases list : next.scheduler.timeouts with
    | nil =>
      rw [list] at goesOn
      simp only [List.head?_nil, Option.map_none, served.external, List.length_nil,
        Nat.lt_irrefl, if_false] at goesOn
      split at goesOn <;> exact absurd goesOn (by simp)
    | cons entry rest =>
      have later : next.now < entry.1.wake := early entry (list ▸ List.mem_cons_self)
      rw [list] at goesOn bound
      refine ⟨entry.1.wake, rfl, later, ?_⟩
      simp only [List.head?_cons, Option.map_some, budget] at goesOn bound
      split at goesOn
      · next zero =>
        have := Option.some.inj zero
        omega
      · next distance _ far =>
        have far := Option.some.inj far
        obtain rfl := Turn.idle.inj goesOn
        omega
      · next none => exact absurd none (by simp)
  · have some : next.scheduler.ready.isEmpty = false := by simpa using ready
    rw [some, if_neg Bool.false_ne_true] at goesOn
    exact .inl ⟨ready, (Turn.idle.inj goesOn).symm⟩

/-- In a turn after which the server goes on there is a pass and a look at the sleepers. -/
theorem turn_idle {patience : Nat} {ran : Logged (Turn × Server)}
    (turned : server.turn config maxTicks patience = some ran)
    (goesOn : ran.value = (.idle ms, next)) :
    ∃ pass, server.scheduler.runReady patience server.now = some pass ∧
      next = { server with
        scheduler := (pass.value.checkBlocked server.now config.idleClocks).value.2 } ∧
      (afterPass config next
        (pass.value.checkBlocked server.now config.idleClocks).value.1).value = .idle ms := by
  unfold turn at turned
  split at turned
  · obtain rfl := Option.some.inj turned
    exact absurd goesOn (by simp)
  · split at turned
    · obtain rfl := Option.some.inj turned
      exact absurd goesOn (by simp)
    · obtain ⟨pass, runs, rfl⟩ := Option.map_eq_some_iff.mp turned
      obtain ⟨idles, rfl⟩ := Prod.mk.inj goesOn
      exact ⟨pass, runs, rfl, idles⟩

/-- A turn comes to an end, whatever the patience. -/
theorem turn_ends {scheduler : SchedulerConfig} (config : ServerConfig) (maxTicks : Option Nat)
    (served : server.scheduler.Served scheduler) :
    ∃ ran, ∀ patience, server.turn config maxTicks patience = some ran := by
  obtain ⟨pass, ends, -⟩ := served.runReady_ends server.now
  unfold turn
  split
  · exact ⟨_, fun _ => rfl⟩
  · split
    · exact ⟨_, fun _ => rfl⟩
    · unfold tick
      exact ⟨_, fun patience => congrArg (Option.map _) (ends patience)⟩

/-- After a turn the scheduler is still one that a server drives. -/
theorem served_turn {scheduler : SchedulerConfig} {patience : Nat} {ran : Logged (Turn × Server)}
    (served : server.scheduler.Served scheduler)
    (turned : server.turn config maxTicks patience = some ran)
    (goesOn : ran.value = (.idle ms, next)) : next.scheduler.Served scheduler := by
  obtain ⟨pass, runs, rfl, -⟩ := turn_idle turned goesOn
  obtain ⟨other, ends, after⟩ := served.runReady_ends server.now
  obtain rfl := Option.some.inj ((ends patience).symm.trans runs)
  exact after.checkBlocked server.now config.idleClocks

/-! ### A clock that stands still -/

/-- No script is ready, and all sleepers have to wait for the clock. -/
structure Still (scheduler : SchedulerConfig) (server : Server) : Prop where
  served : server.scheduler.Served scheduler
  unready : server.scheduler.ready = []
  asleep : server.scheduler.timeouts ≠ []
  early : ∀ entry ∈ server.scheduler.timeouts, server.now < entry.1.wake

/-- Without idle waits nothing happens in a turn in which all scripts sleep. -/
theorem Still.turn {scheduler : SchedulerConfig} (h : Still scheduler server)
    (none : config.idleClocks = 0) (patience : Nat) :
    server.turn config Option.none patience = some ⟨(.idle 0, server), []⟩ := by
  have reached := h.served.reached
  obtain ⟨⟨key, pid⟩, rest, list⟩ := List.exists_cons_of_ne_nil h.asleep
  have live : server.scheduler.isEmpty = false := by
    obtain ⟨ex, found, -⟩ := reached.placed.live_of_mem_timeouts (list ▸ List.mem_cons_self)
    exact List.isEmpty_eq_false_iff.mpr (List.ne_nil_of_mem (mem_of_get? found))
  -- nobody is ready, nobody is due, and the budget for idling is zero
  have pass : server.scheduler.runReady patience server.now = some (pure server.scheduler) := by
    unfold runReady
    rw [pumpExternal_of_calls (calls_eq_nil reached)]
    have same : { server.scheduler with ready := [] } = server.scheduler := by rw [← h.unready]
    dsimp only [Logged.pure_value]
    rw [same, h.unready]
    rfl
  have early : server.scheduler.due server.now = [] := by
    refine List.filter_eq_nil_iff.mpr fun entry listed late => ?_
    exact absurd (of_decide_eq_true late) (Nat.not_le_of_lt (h.early entry listed))
  have first : server.scheduler.earliest? = some key.wake := by
    rw [reached.placed.earliest?_eq, list]
    rfl
  unfold Server.turn tick atLimit
  rw [live, if_neg Bool.false_ne_true, pass]
  have look := checkBlocked_idle reached.sound early config.idleClocks
  have idles : afterPass config server (budget server.now config.idleClocks (some key.wake)) =
      pure (.idle 0) := by
    have later : server.now < key.wake := h.early (key, pid) (list ▸ List.mem_cons_self)
    obtain ⟨distance, far⟩ : ∃ distance, key.wake - server.now = distance + 1 :=
      ⟨key.wake - server.now - 1, by omega⟩
    unfold afterPass clocksLeft
    simp [h.unready, list, far, budget, none]
  rw [first] at look
  rw [Option.map_some, if_neg Bool.false_ne_true]
  refine congrArg some ?_
  change (server.scheduler.checkBlocked server.now config.idleClocks >>= fun looked =>
    afterPass config { server with scheduler := looked.2 } looked.1 >>= fun turn =>
      pure (turn, { server with scheduler := looked.2 })) = _
  rw [look]
  change (afterPass config server (budget server.now config.idleClocks (some key.wake)) >>=
    fun turn => pure (turn, server)) = _
  rw [idles]
  rfl

/-- Without idle waits a server all of whose scripts sleep never stops, unless it has a limit of
ticks. -/
theorem Still.spins {scheduler : SchedulerConfig} (none : config.idleClocks = 0)
    (patience : Nat) (turns : Nat) : ∀ {server : Server} (told : Array Entry),
      Still scheduler server → runTurns config Option.none patience turns told server = Option.none := by
  induction turns with
  | zero => exact fun _ _ => rfl
  | succ turns ih =>
    intro server told h
    have after : Still scheduler (server.advance 0) := { h with }
    unfold runTurns
    rw [h.turn none]
    exact ih _ after

/-! ### The loop -/

/-- How a server goes on idling. -/
theorem idles_of_turn {scheduler : SchedulerConfig} {patience : Nat} {ran : Logged (Turn × Server)}
    (served : server.scheduler.Served scheduler) (ticks : config.tickMs ≠ 0)
    (turned : server.turn config maxTicks patience = some ran)
    (goesOn : ran.value = (.idle ms, next)) : Idles config maxTicks server ms next := by
  have after := served_turn served turned goesOn
  obtain ⟨pass, runs, eq, idles⟩ := turn_idle turned goesOn
  obtain ⟨other, ends, passed⟩ := served.runReady_ends server.now
  -- a pass that ends does not depend on the patience
  obtain rfl := Option.some.inj ((ends patience).symm.trans runs)
  have sound := passed.reached.sound
  have clock : next.now = server.now := by rw [eq]
  have early : ∀ entry ∈ next.scheduler.timeouts, server.now < entry.1.wake := by
    rw [eq]
    exact early_checkBlocked sound server.now config.idleClocks
  have bound := checkBlocked_budget other.value server.now config.idleClocks
    (sound_checkBlocked sound server.now config.idleClocks).placed
  have cases := afterPass_idle after (clock ▸ early) (by rw [bound, eq]) idles
  rw [clock] at cases
  have busy : next.scheduler.ready ≠ [] → ms = config.tickMs := fun ready =>
    (cases.resolve_right fun quiet => ready quiet.1).2
  have quiet : next.scheduler.ready = [] → ∃ wake, next.scheduler.earliest? = some wake ∧
      server.now < wake ∧ ms = min (wake - server.now) config.idleClocks := fun unready =>
    (cases.resolve_left fun busy => busy.1 unready).2
  constructor
  case clock => exact clock
  case busy => exact busy
  case quiet => exact quiet
  case inTime =>
    intro unready entry listed
    obtain ⟨wake, first, later, rfl⟩ := quiet unready
    have least : wake ≤ entry.1.wake :=
      (List.min?_eq_some_iff.mp first).2 _ (List.mem_map_of_mem listed)
    change next.now + min (wake - server.now) config.idleClocks ≤ entry.1.wake
    omega
  case early => exact early
  case still =>
    by_cases unready : next.scheduler.ready = []
    · obtain ⟨wake, -, later, rfl⟩ := quiet unready
      have waits : wake - server.now ≠ 0 := by omega
      constructor
      · exact fun none => ⟨by omega, unready⟩
      · exact fun none => by rw [none.1, Nat.min_zero]
    · rw [busy unready]
      exact iff_of_false ticks fun both => unready both.2
  case moves =>
    intro some
    change server.now + 1 ≤ next.now + ms
    by_cases unready : next.scheduler.ready = []
    · obtain ⟨wake, -, later, rfl⟩ := quiet unready
      omega
    · rw [busy unready]
      omega
  case spins =>
    rintro rfl rfl patience turns told
    by_cases unready : next.scheduler.ready = []
    · obtain ⟨wake, first, later, zero⟩ := quiet unready
      -- with no time for idling and nobody ready the server sees the same state again
      have still : Still scheduler (next.advance 0) := by
        refine ⟨after, unready, fun none => ?_, ?_⟩
        · have asleep : next.scheduler.timeouts = [] := none
          unfold earliest? at first
          rw [asleep] at first
          exact absurd first (by simp)
        · exact clock.symm ▸ early
      exact still.spins (by omega) patience turns told
    · exact absurd (busy unready).symm ticks

/-- A server that runs program files: the programs have been launched, and since then the server
has idled `turns` times. -/
inductive Runs (config : Config) (files : List (String × Option String)) (maxTicks : Option Nat) :
    Nat → Server → Prop
  | launched {s : Scheduler}
      (started : (launchFiles files (.empty config.scheduler none)).value = .ok s) :
      Runs config files maxTicks 0 { scheduler := s }
  | idled {turns patience ms : Nat} {server next : Server} {ran : Logged (Turn × Server)}
      (runs : Runs config files maxTicks turns server)
      (turned : server.turn config.server maxTicks patience = some ran)
      (goesOn : ran.value = (.idle ms, next)) :
      Runs config files maxTicks (turns + 1) (next.advance ms)

namespace Runs

variable {config : Config} {files : List (String × Option String)} {turns : Nat}

/-- The scheduler of a running server has neither an engine nor critical scripts. -/
theorem served (runs : Runs config files maxTicks turns server) :
    server.scheduler.Served config.scheduler := by
  induction runs with
  | launched started => exact (Served.empty config.scheduler).launchFiles files started
  | idled _ turned goesOn ih =>
    have after := served_turn ih turned goesOn
    exact after

/-- In a valid configuration a tick moves the clock. -/
theorem tickMs_of_valid (valid : config.invalid? = none) : config.server.tickMs ≠ 0 := by
  intro zero
  unfold Config.invalid? at valid
  rw [if_pos zero] at valid
  split_ifs at valid

/-- If idle waits are allowed, the clock moves with every turn, and no sleeper has slept for longer
than it should. -/
theorem clock (runs : Runs config files maxTicks turns server) (valid : config.invalid? = none)
    (waits : 1 ≤ config.server.idleClocks) :
    turns ≤ server.now ∧ ∀ entry ∈ server.scheduler.timeouts, turns ≤ entry.1.wake := by
  induction runs with
  | launched => exact ⟨Nat.zero_le _, fun _ _ => Nat.zero_le _⟩
  | idled before turned goesOn ih =>
    have idles := idles_of_turn before.served (tickMs_of_valid valid) turned goesOn
    refine ⟨Nat.le_trans (Nat.succ_le_succ ih.1) (idles.moves waits), fun entry listed => ?_⟩
    exact Nat.le_trans (Nat.succ_le_succ ih.1) (idles.early entry listed)

/-- A server that runs program files with a valid configuration never gets caught in a turn. If it
goes on after a turn, its clock does not move past the next wake clock, and it stands still only if
no idle wait is allowed. -/
theorem progress (runs : Runs config files maxTicks turns server) (valid : config.invalid? = none) :
    (∃ ran, (∀ patience, server.turn config.server maxTicks patience = some ran) ∧
      ∀ ms next, ran.value = (.idle ms, next) → Idles config.server maxTicks server ms next) ∧
    (1 ≤ config.server.idleClocks →
      turns ≤ server.now ∧ ∀ entry ∈ server.scheduler.timeouts, turns ≤ entry.1.wake) := by
  obtain ⟨ran, ends⟩ := turn_ends config.server maxTicks runs.served
  refine ⟨⟨ran, ends, fun ms next goesOn => ?_⟩, runs.clock valid⟩
  exact idles_of_turn runs.served (tickMs_of_valid valid) (ends 0) goesOn

/-- The file of a script that sleeps for a millisecond. -/
def napFiles : List (String × Option String) :=
  [("nap.json", some "[\"nap\",\"bytecode\",[\"Instructions\",[[\"Sleep\",1],[\"Return\"]]]]")]

/-- The wait after the first turn of a server that runs the file, and whether a script is ready then. -/
def napWait? (config : Config) : Option (Nat × Bool) :=
  match (launchFiles napFiles (.empty config.scheduler none)).value with
  | .error _ => none
  | .ok s =>
    match Server.turn config.server none 0 { scheduler := s } with
    | some ⟨(.idle ms, next), _⟩ => some (ms, next.scheduler.ready.isEmpty)
    | _ => none

/-- The first turn of a server that runs the file. -/
theorem turn_of_napWait? {ms : Nat} {unready : Bool} (wait : napWait? config = some (ms, unready)) :
    ∃ s ran next, Runs config napFiles none 0 { scheduler := s } ∧
      Server.turn config.server none 0 { scheduler := s } = some ran ∧
      ran.value = (.idle ms, next) ∧ next.scheduler.ready.isEmpty = unready := by
  unfold napWait? at wait
  split at wait
  · exact absurd wait (by simp)
  · next s started =>
    split at wait
    · next last next entries turned =>
      obtain ⟨rfl, rfl⟩ := Prod.mk.inj (Option.some.inj wait)
      exact ⟨s, _, next, .launched started, turned, rfl, rfl⟩
    · exact absurd wait (by simp)

/-- With the configured settings the server waits until the script wakes. -/
theorem progress_nap : Config.invalid? {} = none ∧ ∃ server, Runs {} napFiles none 1 server ∧
    server.now = 1 ∧ ∃ ran, (∀ patience, server.turn {} none patience = some ran) ∧
      ∀ ms next, ran.value = (.idle ms, next) → Idles {} none server ms next := by
  have waits : napWait? {} = some (1, true) := by decide +kernel
  obtain ⟨s, ran, next, runs, turned, goesOn, -⟩ := turn_of_napWait? waits
  have valid : Config.invalid? {} = none := rfl
  have clock : next.now = 0 := (idles_of_turn runs.served (tickMs_of_valid valid) turned goesOn).clock
  have after := runs.idled turned goesOn
  exact ⟨valid, _, after, by rw [Server.advance, clock], (after.progress valid).1⟩

/-- A configuration without idle waits. -/
def waitless : Config := { server := { tickMs := 1, idleClocks := 0 } }

/-- A configuration without idle waits is valid, but the clock stands still while the script sleeps,
and the server never stops. -/
theorem not_moving_nap : waitless.invalid? = none ∧
    ∃ s ran next, Runs waitless napFiles none 0 { scheduler := s } ∧
      (∀ patience, Server.turn waitless.server none patience { scheduler := s } = some ran) ∧
      ran.value = (.idle 0, next) ∧ next.scheduler.ready = [] ∧ (next.advance 0).now = 0 ∧
      ∀ patience, runFiles waitless napFiles none patience = none := by
  have waits : napWait? waitless = some (0, true) := by decide +kernel
  obtain ⟨s, ran, next, runs, turned, goesOn, unready⟩ := turn_of_napWait? waits
  have valid : waitless.invalid? = none := rfl
  have idles := idles_of_turn runs.served (tickMs_of_valid valid) turned goesOn
  obtain ⟨other, ends⟩ := turn_ends waitless.server none runs.served
  obtain rfl := Option.some.inj ((ends 0).symm.trans turned)
  refine ⟨valid, s, other, next, runs, ends, goesOn, List.isEmpty_iff.mp unready, idles.clock, ?_⟩
  intro patience
  cases runs with
  | launched started =>
    have caught : runTurns waitless.server none patience patience #[] { scheduler := s } = none := by
      cases patience with
      | zero => rfl
      | succ turns =>
        unfold runTurns
        rw [ends]
        dsimp only
        rw [goesOn]
        exact idles.spins rfl rfl _ _ _
    unfold runFiles
    dsimp only
    rw [started]
    exact congrArg (Option.map _) caught

end Runs

end Server

end ScriptScheduler
