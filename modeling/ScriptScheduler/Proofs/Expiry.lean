import ScriptScheduler.Proofs.Coherence
import ScriptScheduler.Proofs.Roused
import ScriptScheduler.Proofs.Wakeups

/-!
# What a check of the sleepers leaves

A check at a clock wakes exactly the sleepers whose clock has come, in the order of their timers,
and puts them behind the scripts that are ready already; nothing else changes, and the time for
idling is cut down to the next wake clock (`Reachable.wakesDue`). A later check makes up for an
earlier one: with or without the earlier one it leads to the same state.
-/

namespace ScriptScheduler

/-- A script that is due stays due. -/
theorem Executor.isDue_mono {ex : Executor} {now later : Nat} (le : now ≤ later)
    (due : ex.isDue now = true) : ex.isDue later = true := by
  unfold isDue at *
  split at due
  · exact decide_eq_true (Nat.le_trans (of_decide_eq_true due) le)
  · exact absurd due Bool.false_ne_true

namespace Scheduler

variable {s s' t : Scheduler} {pid : Pid} {ex : Executor} {now : Nat} {ran : Logged Scheduler}

/-! ### The sleepers that are due -/

/-- The scripts whose clock has come, in the order of their timers. -/
def dueScripts (s : Scheduler) (now : Nat) : List Pid := (s.due now).map Prod.snd

/-- The earliest wake clock of the sleepers. -/
def earliest? (s : Scheduler) : Option Nat := (s.timeouts.map fun entry => entry.1.wake).min?

/-- A live script is among the sleepers whose clock has come if it is due. -/
theorem Placed.mem_dueScripts {away : List Pid} (placed : Placed away s)
    (found : s.get? pid = some ex) : pid ∈ s.dueScripts now ↔ ex.isDue now = true := by
  have mine : ∀ key, (key, pid) ∈ s.due now ↔ ex.thread.timer = some key ∧ key.wake ≤ now := by
    intro key
    unfold due
    rw [List.mem_filter, placed.mem_timeouts found, decide_eq_true_iff]
  unfold dueScripts Executor.isDue
  constructor
  · intro mem
    obtain ⟨⟨key, _⟩, listed, rfl⟩ := List.mem_map.mp mem
    obtain ⟨timer, late⟩ := (mine key).mp listed
    rw [timer]
    exact decide_eq_true late
  · intro late
    cases timer : ex.thread.timer with
    | none =>
      rw [timer] at late
      exact absurd late Bool.false_ne_true
    | some key =>
      rw [timer] at late
      exact List.mem_map_of_mem ((mine key).mpr ⟨timer, of_decide_eq_true late⟩)

/-- Whoever is among the sleepers is live. -/
theorem Placed.live_of_mem_timeouts {away : List Pid} (placed : Placed away s) {key : TimerKey}
    (listed : (key, pid) ∈ s.timeouts) : ∃ ex, s.get? pid = some ex ∧ ex.thread.timer = some key := by
  have timer := (placed.timeouts pid key).mp listed
  cases found : s.get? pid with
  | none =>
    rw [seat_of_not_live found] at timer
    exact absurd timer (by simp [Seat.free])
  | some ex =>
    rw [seat_of_get? found] at timer
    exact ⟨ex, rfl, timer⟩

/-- If no script is due, no sleeper's clock has come. -/
theorem Placed.due_eq_nil {away : List Pid} (placed : Placed away s)
    (early : ∀ pid ex, s.get? pid = some ex → ex.isDue now = false) : s.due now = [] := by
  refine List.filter_eq_nil_iff.mpr ?_
  rintro ⟨key, pid⟩ listed late
  obtain ⟨ex, found, timer⟩ := placed.live_of_mem_timeouts listed
  have due := early pid ex found
  unfold Executor.isDue at due
  rw [timer] at due
  exact of_decide_eq_false due (of_decide_eq_true late)

/-- After the first sleeper has been woken the others that are due remain. -/
theorem dueScripts_round {key : TimerKey} {rest : List (TimerKey × Pid)}
    (first : s.timeouts = (key, pid) :: rest) (late : key.wake ≤ now) (left : t.timeouts = rest) :
    s.dueScripts now = pid :: t.dueScripts now := by
  unfold dueScripts due
  rw [first, left, List.filter_cons_of_pos (by simpa using late)]
  rfl

/-- The first of the sleepers has the earliest wake clock. -/
theorem Placed.earliest?_eq {away : List Pid} (placed : Placed away s) :
    s.earliest? = s.timeouts.head?.map fun entry => entry.1.wake := by
  have sorted := placed.sortedTimers
  unfold earliest?
  cases list : s.timeouts with
  | nil => rfl
  | cons first rest =>
    rw [list, List.pairwise_cons] at sorted
    refine List.min?_eq_some_iff.mpr ⟨List.mem_cons_self, ?_⟩
    intro wake mem
    rcases List.mem_cons.mp mem with rfl | mem
    · exact Nat.le_refl _
    · obtain ⟨entry, listed, rfl⟩ := List.mem_map.mp mem
      have order := TimerKey.before_iff.mp (sorted.1 entry listed)
      dsimp only
      omega

/-! ### Rounds -/

/-- The rounds from a state on lead to one result. -/
theorem WakeRounds.unique {last : Logged Scheduler} (rounds : WakeRounds now s ran)
    (others : WakeRounds now s last) : ran = last := by
  induction rounds generalizing last with
  | idle early =>
    cases others with
    | idle => rfl
    | round _ _ _ found isDue => exact absurd ((early _ _ found).symm.trans isDue) (by decide)
  | round _ first _ found isDue later ih =>
    cases others with
    | idle early => exact absurd ((early _ _ found).symm.trans isDue) (by decide)
    | round _ first' _ _ _ later' =>
      obtain ⟨eq, rfl⟩ := List.cons.inj (first.symm.trans first')
      obtain ⟨rfl, rfl⟩ := Prod.mk.inj eq
      rw [ih later']

/-- Rounds at a clock and then rounds at a later clock are rounds at the later clock. -/
theorem WakeRounds.trans {later : Nat} {last : Logged Scheduler} (le : now ≤ later)
    (rounds : WakeRounds now s ran) (more : WakeRounds later ran.value last) :
    WakeRounds later s ⟨last.value, ran.entries ++ last.entries⟩ := by
  induction rounds with
  | idle => exact more
  | round sound first late found isDue _ ih =>
    have whole := WakeRounds.round sound first (Nat.le_trans late le) found
      (Executor.isDue_mono le isDue) (ih more)
    dsimp only at whole ⊢
    rwa [← List.append_assoc] at whole

/-- With a round for each sleeper whose clock has come, more rounds change nothing. -/
theorem wakeDue_eq (sound : Moment.Sound ⟨s, [], []⟩) {count : Nat}
    (enough : (s.due now).length ≤ count) :
    wakeDue now count s = wakeDue now s.timeouts.length s :=
  (wakeDue_rounds now count sound enough).unique
    (wakeDue_rounds now _ sound (List.length_filter_le _ _))

/-- A sleeper that is woken becomes the last one in the ready queue. -/
theorem ready_wake (indexed : Indexed s) (found : s.get? pid = some ex) :
    (s.wake pid).value.ready = (s.ready.filter fun other => other ≠ pid) ++ [pid] := by
  obtain ⟨t, eq⟩ : ∃ t : Scheduler, (s.wake pid).value = t.schedule pid := by
    unfold wake
    rw [found]
    dsimp only
    split <;> exact ⟨_, rfl⟩
  have woken := (Evolves.wake_get? indexed found).1
  rw [eq, get?_schedule_self] at woken
  obtain ⟨last, live, freed⟩ := Option.map_eq_some_iff.mp woken
  have loose : ¬ last.thread.holdList.isFixed = true := by
    intro fixed
    have list := congrArg (fun ex => ex.thread.holdList) freed
    simp only [Executor.mapThread, Thread.freed, if_pos fixed] at list
    rw [list] at fixed
    exact Bool.false_ne_true fixed
  have queue := ready_schedule live
  rw [if_neg loose] at queue
  have alters : Alters pid s (s.wake pid).value := .wake indexed
  have others := alters.ready
  rw [eq, queue, List.filter_append, List.filter_filter] at others
  rw [eq, queue]
  simpa using others

/-- The scripts whose clock has come are put behind those that are ready already. -/
theorem WakeRounds.ready (rounds : WakeRounds now s ran) (placed : Placed [] s)
    (roused : s.Roused) : ran.value.ready = s.ready ++ s.dueScripts now := by
  induction rounds with
  | @idle s early =>
    unfold dueScripts
    rw [placed.due_eq_nil early]
    exact (List.append_nil _).symm
  | @round s key sleeper rest ex ran sound first late found isDue _ ih =>
    have taken : Indexed { s with timeouts := rest } := sound.indexed.congr rfl fun _ => rfl
    obtain ⟨after, left⟩ := timeouts_wake sound first late found
    obtain ⟨_, live, timer⟩ := placed.sleeper_of_first first
    have absent : sleeper ∉ s.ready := roused.not_mem_of_timer live (by rw [timer]; simp)
    have still : { s with timeouts := rest }.Roused := roused
    have queue : ({ s with timeouts := rest }.wake sleeper).value.ready = s.ready ++ [sleeper] := by
      rw [ready_wake taken found]
      exact congrArg (· ++ [sleeper]) (filter_ne_of_not_mem absent)
    refine (ih after.placed (still.wake sleeper)).trans ?_
    rw [queue, dueScripts_round first late left, List.append_assoc]
    rfl

/-- The requests of the scripts whose clock has come leave the table, and the others stay. -/
theorem WakeRounds.pending (rounds : WakeRounds now s ran) (placed : Placed [] s) :
    ran.value.requests.pending = s.requests.pending.filter fun r => r.pid ∉ s.dueScripts now := by
  induction rounds with
  | @idle s early =>
    unfold dueScripts
    rw [placed.due_eq_nil early]
    simp
  | @round s key sleeper rest ex ran sound first late found isDue _ ih =>
    have taken : Indexed { s with timeouts := rest } := sound.indexed.congr rfl fun _ => rfl
    obtain ⟨after, left⟩ := timeouts_wake sound first late found
    have mine : ({ s with timeouts := rest }.wake sleeper).value.requests.pending =
        s.requests.pending.filter fun r => r.pid ≠ sleeper := by
      rw [pending_wake taken found]
      refine List.filter_congr fun r live => ?_
      have own : r.id ∈ ex.requests.ids ↔ r.pid = sleeper :=
        ⟨sound.indexed.own found live,
          fun own => (sound.indexed.mem_ids found).mpr ⟨r, live, rfl, own⟩⟩
      simp [own]
    refine (ih after.placed).trans ?_
    rw [mine, dueScripts_round first late left, List.filter_filter]
    refine List.filter_congr fun r _ => ?_
    simp [Bool.and_comm]

/-! ### What stays as it is -/

/-- A scheduler without its scripts and requests and without the places of the scripts. -/
def core (s : Scheduler) : Scheduler :=
  { s.aside with requests := {}, nextTimerSeq := s.nextTimerSeq }

/-- A script that is made ready leaves the core alone. -/
theorem core_schedule (s : Scheduler) (pid : Pid) : (s.schedule pid).core = s.core := by
  have timers : (s.schedule pid).nextTimerSeq = s.nextTimerSeq := by
    unfold schedule
    split
    · exact nextTimerSeq_detach
    · rfl
  unfold core
  rw [aside_schedule, timers]

/-- A request that ends leaves the core alone. -/
theorem core_resolve (s : Scheduler) (request : Request) (value : Option Val) :
    (s.resolve request value).value.core = s.core := by
  cases found : s.get? request.pid with
  | none =>
    rw [resolve_of_not_live found]
    rfl
  | some ex =>
    rw [resolve_eq found, core_schedule]
    rfl

/-- Aborts leave the core alone. -/
theorem core_abortEach (ids : List RequestId) :
    ∀ s : Scheduler, (abortEach ids s).value.2.core = s.core := by
  induction ids with
  | nil => exact fun _ => rfl
  | cons id rest ih =>
    intro s
    refine (ih (s.abortRequest id).value.2).trans ?_
    unfold abortRequest
    split
    · rfl
    · exact core_resolve s _ none

/-- A sleeper that is woken leaves the core alone. -/
theorem core_wake (s : Scheduler) (pid : Pid) : (s.wake pid).value.core = s.core := by
  unfold wake
  split
  · rfl
  · dsimp only
    split
    · exact core_schedule _ pid
    · exact (core_schedule _ pid).trans (core_abortEach _ _)

/-- Rounds leave the core alone. -/
theorem WakeRounds.core (rounds : WakeRounds now s ran) : ran.value.core = s.core := by
  induction rounds with
  | idle => rfl
  | @round s _ sleeper rest _ _ _ _ _ _ _ _ ih =>
    exact ih.trans (core_wake { s with timeouts := rest } sleeper)

/-- The seats after rounds. -/
theorem WakeRounds.seat (rounds : WakeRounds now s ran) (placed : Placed [] s) (pid : Pid) :
    ran.value.seat pid = if pid ∈ s.dueScripts now then .free else s.seat pid := by
  have scripts := rounds.get? pid
  cases found : s.get? pid with
  | none =>
    have absent : pid ∉ s.dueScripts now := by
      intro mem
      obtain ⟨⟨key, _⟩, listed, rfl⟩ := List.mem_map.mp mem
      obtain ⟨ex, live, -⟩ := placed.live_of_mem_timeouts (List.mem_filter.mp listed).1
      rw [found] at live
      exact absurd live (by simp)
    rw [found] at scripts
    rw [if_neg absent, seat_of_not_live scripts, seat_of_not_live found]
  | some ex =>
    rw [found, Option.map_some] at scripts
    rw [seat_of_get? scripts, seat_of_get? found]
    by_cases late : ex.isDue now = true
    · rw [if_pos late, if_pos ((placed.mem_dueScripts found).mpr late)]
      rfl
    · rw [if_neg late, if_neg (mt (placed.mem_dueScripts found).mp late)]

/-! ### The state after a check -/

/-- Scripts that are found alike are the same scripts in the same order. -/
theorem Numbered.executors_eq (numbers : s.Numbered) (numbers' : s'.Numbered)
    (same : ∀ pid, s'.get? pid = s.get? pid) : s'.executors = s.executors := by
  refine eq_of_sorted numbers'.increasing numbers.increasing (fun _ => Nat.lt_irrefl _)
    Nat.lt_trans fun ex => ⟨fun mem => ?_, fun mem => ?_⟩
  · exact mem_of_get? ((same ex.pid).symm.trans (numbers'.get?_of_mem mem))
  · exact mem_of_get? ((same ex.pid).trans (numbers.get?_of_mem mem))

/-- The scripts with all those that are due woken. -/
def wokenScripts (s : Scheduler) (now : Nat) : List Executor :=
  s.executors.map fun ex => if ex.pid ∈ s.dueScripts now then ex.timedOut else ex

/-- Numbers in order are determined by which numbers there are. -/
theorem pids_eq {pids pids' : List Pid} (sorted : pids.Pairwise fun a b => a.number < b.number)
    (sorted' : pids'.Pairwise fun a b => a.number < b.number)
    (same : ∀ pid, pid ∈ pids ↔ pid ∈ pids') : pids = pids' :=
  eq_of_sorted sorted sorted' (fun _ => Nat.lt_irrefl _) Nat.lt_trans same

/-- The scripts after rounds. -/
theorem WakeRounds.executors (rounds : WakeRounds now s ran) (sound : Moment.Sound ⟨s, [], []⟩)
    (numbers : ran.value.Numbered) : ran.value.executors = s.wokenScripts now := by
  let woken : Scheduler := { s with executors := s.wokenScripts now }
  have kept : ∀ ex : Executor,
      (if ex.pid ∈ s.dueScripts now then ex.timedOut else ex).pid = ex.pid := by
    intro ex
    split <;> rfl
  have numbered : woken.Numbered := by
    refine ⟨List.pairwise_map.mpr (sound.numbers.increasing.imp fun {a b} less => ?_), ?_⟩
    · rwa [kept a, kept b]
    · intro ex mem
      obtain ⟨old, live, rfl⟩ := List.mem_map.mp mem
      rw [kept old]
      exact sound.numbers.below old live
  refine Numbered.executors_eq (s := woken) numbered numbers fun pid => ?_
  have found : woken.get? pid = (s.get? pid).map fun ex =>
      if ex.pid ∈ s.dueScripts now then ex.timedOut else ex := by
    unfold Scheduler.get? woken wokenScripts
    rw [List.find?_map]
    congr 2
    funext ex
    exact congrArg (fun number => decide (number = pid)) (kept ex)
  rw [rounds.get?, found]
  cases live : s.get? pid with
  | none => rfl
  | some ex =>
    have number := pid_of_get? live
    simp only [Option.map_some, number, sound.placed.mem_dueScripts live]

/-- The hold lists after rounds. -/
theorem WakeRounds.lists (rounds : WakeRounds now s ran) (placed : Placed [] s)
    (after : Placed [] ran.value) :
    ran.value.timeouts = (s.timeouts.filter fun entry => now < entry.1.wake) ∧
      ran.value.untimed = s.untimed ∧ ran.value.debugger = s.debugger ∧
      ran.value.external = s.external := by
  have timed : ∀ pid ∈ s.dueScripts now, (s.seat pid).list = .timeout := by
    intro pid mem
    obtain ⟨⟨key, _⟩, listed, rfl⟩ := List.mem_map.mp mem
    refine (placed.timer_iff _).mp ?_
    rw [(placed.timeouts _ key).mp (List.mem_filter.mp listed).1]
    rfl
  -- whoever is due was on the list of timers, so the other lists stay
  have elsewhere : ∀ list, list ≠ .none → list ≠ .timeout → ∀ pid,
      (ran.value.seat pid).list = list ↔ (s.seat pid).list = list := by
    intro list held untimed pid
    rw [rounds.seat placed pid]
    by_cases late : pid ∈ s.dueScripts now
    · rw [if_pos late, timed pid late]
      exact iff_of_false held.symm untimed.symm
    · rw [if_neg late]
  refine ⟨timers_eq after.sortedTimers (placed.sortedTimers.filter _) ?_,
    pids_eq after.sortedUntimed placed.sortedUntimed fun pid => ?_,
    pids_eq after.sortedDebugger placed.sortedDebugger fun pid => ?_,
    pids_eq after.sortedExternal placed.sortedExternal fun pid => ?_⟩
  · rintro ⟨key, pid⟩
    rw [after.timeouts, rounds.seat placed pid, List.mem_filter, decide_eq_true_iff]
    by_cases late : pid ∈ s.dueScripts now
    · rw [if_pos late]
      refine iff_of_false (by simp [Seat.free]) ?_
      rintro ⟨listed, early⟩
      obtain ⟨ex, found, timer⟩ := placed.live_of_mem_timeouts listed
      have due := (placed.mem_dueScripts found).mp late
      unfold Executor.isDue at due
      rw [timer] at due
      exact absurd (of_decide_eq_true due) (Nat.not_le_of_lt early)
    · rw [if_neg late, ← placed.timeouts]
      refine ⟨fun listed => ⟨listed, ?_⟩, And.left⟩
      refine Nat.lt_of_not_le fun due => late ?_
      exact List.mem_map_of_mem (List.mem_filter.mpr ⟨listed, decide_eq_true due⟩)
  · rw [after.untimed, placed.untimed, elsewhere _ (by decide) (by decide)]
  · rw [after.debugger, placed.debugger, elsewhere _ (by decide) (by decide)]
  · rw [after.external, placed.external, elsewhere _ (by decide) (by decide)]

/-! ### Checks -/

/-- The time for idling that a check leaves of `left`, if the next wake clock is `next?`. -/
def budget (now left : Nat) : Option Nat → Nat
  | none => left
  | some wake => min left (wake - now)

/-- What a check answers is told by the state after it. -/
theorem checkBlocked_budget (s : Scheduler) (now left : Nat)
    (placed : Placed [] (s.checkBlocked now left).value.2) :
    (s.checkBlocked now left).value.1 =
      budget now left (s.checkBlocked now left).value.2.earliest? := by
  rw [placed.earliest?_eq, checkBlocked_state]
  unfold checkBlocked
  simp only [Logged.bind_value]
  split
  · next none =>
    rw [none]
    rfl
  · next entry some =>
    rw [some]
    rfl

/-- A check at the clock `now` with the time `left` for idling, which ends in `ran`, wakes exactly
the sleepers whose clock has come. -/
structure WakesDue (s : Scheduler) (now left : Nat) (ran : Logged (Nat × Scheduler)) : Prop where
  /-- The check is over after a round for each sleeper whose clock has come. -/
  ends : ∀ count, (s.due now).length ≤ count → wakeDue now count s = ⟨ran.value.2, ran.entries⟩
  /-- These sleepers are woken in the order of their timers. -/
  inOrder : (s.due now).Pairwise fun a b => a.1.before b.1 = true
  /-- Apart from the scripts that are woken and the requests nothing changes. -/
  state : ran.value.2 = { s with
    executors := s.wokenScripts now
    ready := s.ready ++ s.dueScripts now
    timeouts := s.timeouts.filter fun entry => now < entry.1.wake
    requests := ran.value.2.requests }
  /-- Whoever is woken is no longer blocked and has slept once more and without success. -/
  woken : ∀ pid ∈ s.dueScripts now, ∃ ex, s.get? pid = some ex ∧
    ran.value.2.get? pid = some ex.timedOut ∧ ex.timedOut.isBlocked = false ∧
    ex.timedOut.sleepCycles = ex.sleepCycles + 1 ∧ ex.timedOut.requests = .empty
  others : ∀ pid ∉ s.dueScripts now, ran.value.2.get? pid = s.get? pid
  /-- The requests of these scripts, and no others, leave the table and the entities. -/
  pending : ran.value.2.requests.pending =
    s.requests.pending.filter fun r => r.pid ∉ s.dueScripts now
  consistent : ran.value.2.requests.Consistent
  /-- Each of them is answered with the sentinel, once, and no other is answered. -/
  answers : ∀ r ∈ s.requests.pending, ∀ ex, s.get? r.pid = some ex →
    answersTo r.id ran.entries =
      if r.pid ∈ s.dueScripts now then [ex.receipt r.id .sentinel] else []
  /-- The time for idling is cut down to the next wake clock. -/
  budget : ran.value.1 = budget now left ran.value.2.earliest?
  /-- The scheduler says the same of the time until the next wake clock. -/
  clocksLeft : ran.value.2.ready = [] →
    ran.value.2.clocksLeft now = ran.value.2.earliest?.map fun wake => wake - now
  /-- A later check makes up for this one. -/
  madeUp : ∀ later others, now ≤ later →
    (ran.value.2.checkBlocked later others).value = (s.checkBlocked later others).value
  /-- The same check once more changes nothing. -/
  again : ran.value.2.checkBlocked now ran.value.1 = pure ran.value

/-- A check when no sleeper's clock has come leaves the state alone. -/
theorem checkBlocked_idle (sound : Moment.Sound ⟨s, [], []⟩) (early : s.due now = [])
    (left : Nat) : s.checkBlocked now left = pure (budget now left s.earliest?, s) := by
  have none : (s.due now).length ≤ 0 := by rw [early]; exact Nat.le_refl 0
  have nobody : wakeDue now s.timeouts.length s = pure s := (wakeDue_eq sound none).symm
  have next : ∀ look : Scheduler → Logged (Nat × Scheduler), (pure s >>= look) = look s :=
    fun _ => rfl
  unfold checkBlocked
  rw [nobody, next, sound.placed.earliest?_eq]
  cases s.timeouts.head? <;> rfl

/-- The state after a check and its record are the result of rounds. -/
theorem checkBlocked_rounds (sound : Moment.Sound ⟨s, [], []⟩) (now left : Nat) :
    WakeRounds now s ⟨(s.checkBlocked now left).value.2, (s.checkBlocked now left).entries⟩ := by
  rw [checkBlocked_state, checkBlocked_entries]
  exact wakeDue_rounds now _ sound (List.length_filter_le _ _)

/-- A check leads from a sound moment to a sound moment. -/
theorem sound_checkBlocked (sound : Moment.Sound ⟨s, [], []⟩) (now left : Nat) :
    Moment.Sound ⟨(s.checkBlocked now left).value.2, [], []⟩ := by
  have moves : Moves _ _ _ := checkBlocked_moves s trivial now left
  exact moves.keeps (P := Moment.Sound) (fun _ _ _ move h => move.sound h) sound

/-- A state is made of its core, its scripts, its lists and its requests. -/
theorem eq_of_core (same : s'.core = s.core) (untimed : s'.untimed = s.untimed)
    (debugger : s'.debugger = s.debugger) (external : s'.external = s.external) :
    s' = { s with
      executors := s'.executors
      ready := s'.ready
      timeouts := s'.timeouts
      requests := s'.requests } := by
  cases s
  cases s'
  simp only [core, aside, Scheduler.mk.injEq] at same untimed debugger external ⊢
  simp [same, untimed, debugger, external]

/-- After a check and a later one the state is as after the later one alone, and the time for
idling, too. -/
theorem checkBlocked_twice (sound : Moment.Sound ⟨s, [], []⟩) {later : Nat} (le : now ≤ later)
    (left others : Nat) :
    ((s.checkBlocked now left).value.2.checkBlocked later others).value =
      (s.checkBlocked later others).value := by
  have sound' := sound_checkBlocked sound now left
  have both := (checkBlocked_rounds sound now left).trans le (checkBlocked_rounds sound' later others)
  have same := congrArg Logged.value (both.unique (checkBlocked_rounds sound later others))
  refine Prod.ext ?_ same
  have placed := (sound_checkBlocked sound later others).placed
  have placed' := (sound_checkBlocked sound' later others).placed
  rw [checkBlocked_budget _ later others placed', checkBlocked_budget _ later others placed]
  exact congrArg (fun t => budget later others (earliest? t)) same

end Scheduler

open Scheduler

/-- In every reachable state a check wakes exactly the sleepers whose clock has come, in order, and
leaves the time until the next wake clock for idling. -/
theorem Reachable.wakesDue {config : SchedulerConfig} {engine : Option Engine} {s : Scheduler}
    (reached : Reachable config engine s) (now left : Nat) :
    s.WakesDue now left (s.checkBlocked now left) := by
  have sound := reached.sound
  have after := sound_checkBlocked sound now left
  have rounds := checkBlocked_rounds sound now left
  obtain ⟨timeouts, untimed, debugger, external⟩ := rounds.lists sound.placed after.placed
  have budgeted := checkBlocked_budget s now left after.placed
  constructor
  case ends => exact fun count enough => (wakeDue_rounds now count sound enough).unique rounds
  case inOrder => exact sound.placed.sortedTimers.filter _
  case state =>
    refine (eq_of_core rounds.core untimed debugger external).trans ?_
    have executors := rounds.executors sound after.numbers
    have ready := rounds.ready sound.placed reached.roused
    dsimp only at timeouts executors ready
    rw [executors, ready, timeouts]
  case woken =>
    intro pid late
    obtain ⟨⟨key, sleeper⟩, listed, rfl⟩ := List.mem_map.mp late
    obtain ⟨ex, found, timer⟩ :=
      sound.placed.live_of_mem_timeouts (List.mem_filter.mp listed).1
    have due := (sound.placed.mem_dueScripts found).mp late
    -- who has a timer is on the list of timers, so not with the engine
    have mine : ex.thread.holdList ≠ .external := by
      have list := (sound.placed.timer_iff _).mp (by
        rw [seat_of_get? found]
        exact Option.isSome_of_eq_some timer)
      rw [seat_of_get? found] at list
      exact fun managed => absurd (managed.symm.trans list) (by decide)
    refine ⟨ex, found, ?_, ?_, rfl, rfl⟩
    · have woken := rounds.get? sleeper
      rw [found] at woken
      simpa [due] using woken
    · have idle : ex.thread.detached.outstanding = none := (reached.coherent found).outstanding mine
      exact Thread.isBlocked_revive idle
  case others =>
    intro pid early
    refine (rounds.get? pid).trans ?_
    cases found : s.get? pid with
    | none => rfl
    | some ex => rw [Option.map_some, if_neg (mt (sound.placed.mem_dueScripts found).mpr early)]
  case pending => exact rounds.pending sound.placed
  case consistent => exact after.indexed.table
  case answers =>
    intro r pending ex found
    rw [answersTo_checkBlocked sound reached.equipped now left pending found]
    exact if_congr (sound.placed.mem_dueScripts found).symm rfl rfl
  case budget => exact budgeted
  case clocksLeft =>
    intro none
    unfold Scheduler.clocksLeft
    rw [none, after.placed.earliest?_eq, Option.map_map]
    rfl
  case madeUp => exact fun later others le => checkBlocked_twice sound le left others
  case again =>
    -- after a check nobody is due, so that a second one changes nothing
    have early : (s.checkBlocked now left).value.2.due now = [] := by
      unfold due
      rw [timeouts, List.filter_filter]
      refine List.filter_eq_nil_iff.mpr fun entry _ both => ?_
      obtain ⟨late, early⟩ := Bool.and_eq_true_iff.mp both
      exact absurd (of_decide_eq_true early) (Nat.not_lt_of_le (of_decide_eq_true late))
    have once : budget now (budget now left (s.checkBlocked now left).value.2.earliest?)
          (s.checkBlocked now left).value.2.earliest? =
        budget now left (s.checkBlocked now left).value.2.earliest? := by
      cases (s.checkBlocked now left).value.2.earliest? with
      | none => rfl
      | some wake => exact Nat.min_eq_left (Nat.min_le_right _ _)
    rw [checkBlocked_idle after early, budgeted, once, ← budgeted]

/-- Two scripts that sleep until the same clock, one that sleeps longer, and a ready one. -/
def nappersRun : List Operation :=
  [.start (.bytecode "first" [.sleep 5, .ret]), .start (.bytecode "second" [.sleep 5, .ret]),
    .start (.bytecode "third" [.sleep 9, .ret]), .runReady 0, .start (.bytecode "fourth" [.ret])]

/-- Of three sleepers the two whose clock has come are woken and put behind the ready script. -/
theorem wakesDue_nappers : ∃ s, Scheduler.performAll 1 nappersRun (.empty {} none) = some s ∧
    s.ready = [⟨4⟩] ∧ s.dueScripts 6 = [⟨1⟩, ⟨2⟩] ∧ s.WakesDue 6 100 (s.checkBlocked 6 100) := by
  have performed : Scheduler.performAll 1 nappersRun (.empty {} none) = some _ := rfl
  exact ⟨_, performed, rfl, by decide, (Reachable.empty.performAll performed).wakesDue 6 100⟩

end ScriptScheduler
