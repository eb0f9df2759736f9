import Mathlib.Data.List.Nodup
import ScriptScheduler.Proofs.Course

/-!
# Hold lists

Every live script has a seat: the hold list that its thread names and its timer. The hold lists
are in order when they hold exactly what the seats say and every script without a hold list is
in the ready queue, or is away because its turn is still to come. Each way of moving a script
keeps the hold lists in order.
-/

namespace ScriptScheduler

/-! ### Ordered lists -/

/-- What an ordered list of numbers holds after an insertion. -/
theorem mem_insertPid {pid other : Pid} {pids : List Pid} :
    other ∈ insertPid pid pids ↔ other = pid ∨ other ∈ pids := by
  induction pids with
  | nil => simp [insertPid]
  | cons first rest ih =>
    unfold insertPid
    split
    · simp
    · split
      · next _ same =>
        subst same
        simp
      · simp only [List.mem_cons, ih]
        tauto

/-- An insertion keeps the order of the numbers. -/
theorem pairwise_insertPid {pid : Pid} {pids : List Pid}
    (sorted : pids.Pairwise fun a b => a.number < b.number) :
    (insertPid pid pids).Pairwise fun a b => a.number < b.number := by
  induction pids with
  | nil => simp [insertPid]
  | cons first rest ih =>
    rw [List.pairwise_cons] at sorted
    obtain ⟨least, sorted⟩ := sorted
    unfold insertPid
    split
    · next less =>
      refine List.pairwise_cons.mpr ⟨?_, List.pairwise_cons.mpr ⟨least, sorted⟩⟩
      intro other mem
      rcases List.mem_cons.mp mem with rfl | mem
      · exact less
      · exact Nat.lt_trans less (least other mem)
    · next notLess =>
      split
      · exact List.pairwise_cons.mpr ⟨least, sorted⟩
      · next different =>
        refine List.pairwise_cons.mpr ⟨?_, ih sorted⟩
        intro other mem
        rcases mem_insertPid.mp mem with rfl | mem
        · have : first.number ≠ other.number := by
            intro same
            exact different (congrArg Pid.mk same.symm)
          omega
        · exact least other mem

/-- The order of timer entries in words. -/
theorem TimerKey.before_iff {a b : TimerKey} :
    a.before b = true ↔ a.wake < b.wake ∨ a.wake = b.wake ∧ a.seq < b.seq := by
  simp [TimerKey.before]

/-- Of two different timer entries one comes first. -/
theorem TimerKey.before_of_not_before {a b : TimerKey} (ne : a ≠ b)
    (h : ¬ a.before b = true) : b.before a = true := by
  rw [before_iff] at h ⊢
  have : ¬ (a.wake = b.wake ∧ a.seq = b.seq) := fun ⟨hw, hs⟩ => ne (by cases a; cases b; simp_all)
  omega

/-- No timer entry comes before itself. -/
theorem TimerKey.not_before_self (a : TimerKey) : ¬ a.before a = true := by
  rw [before_iff]
  omega

/-- Timer entries are ordered transitively. -/
theorem TimerKey.before_trans {a b c : TimerKey} (hab : a.before b = true)
    (hbc : b.before c = true) : a.before c = true := by
  rw [before_iff] at *
  omega

/-- What a list of timers holds after an insertion. -/
theorem mem_insertTimer {key : TimerKey} {pid : Pid} {timers : List (TimerKey × Pid)}
    {entry : TimerKey × Pid} :
    entry ∈ insertTimer key pid timers ↔ entry = (key, pid) ∨ entry ∈ timers := by
  induction timers with
  | nil => simp [insertTimer]
  | cons first rest ih =>
    unfold insertTimer
    split
    · simp only [List.mem_cons, ih]
      tauto
    · simp

/-- The insertion of a new timer keeps the order of the timers. -/
theorem pairwise_insertTimer {key : TimerKey} {pid : Pid} {timers : List (TimerKey × Pid)}
    (sorted : timers.Pairwise fun a b => a.1.before b.1 = true)
    (new : ∀ entry ∈ timers, entry.1 ≠ key) :
    (insertTimer key pid timers).Pairwise fun a b => a.1.before b.1 = true := by
  induction timers with
  | nil => simp [insertTimer]
  | cons first rest ih =>
    rw [List.pairwise_cons] at sorted
    obtain ⟨least, sorted⟩ := sorted
    unfold insertTimer
    split
    · next before =>
      refine List.pairwise_cons.mpr
        ⟨fun entry mem => ?_, ih sorted fun entry mem => new entry (List.mem_cons_of_mem _ mem)⟩
      rcases mem_insertTimer.mp mem with rfl | mem
      · exact before
      · exact least entry mem
    · next notBefore =>
      have first_after : key.before first.1 = true :=
        TimerKey.before_of_not_before (new first List.mem_cons_self) notBefore
      refine List.pairwise_cons.mpr
        ⟨fun entry mem => ?_, List.pairwise_cons.mpr ⟨least, sorted⟩⟩
      rcases List.mem_cons.mp mem with rfl | mem
      · exact first_after
      · exact TimerKey.before_trans first_after (least entry mem)

/-! ### Seats -/

/-- Where the thread of a script says that the script is held. -/
structure Seat where
  list : HoldList
  timer : Option TimerKey

/-- The seat of a script in no hold list. -/
def Seat.free : Seat := ⟨.none, none⟩

/-- The seat that the thread of a script names. -/
def Executor.seat (ex : Executor) : Seat := ⟨ex.thread.holdList, ex.thread.timer⟩

/-- A script in no hold list gets the seat of the list that its thread is made to name. -/
theorem Executor.seat_hold_of_free {ex : Executor} {list : HoldList} (free : ex.seat = .free) :
    (ex.mapThread fun t => { t with holdList := list }).seat = ⟨list, none⟩ := by
  have timer : ex.thread.timer = none := congrArg Seat.timer free
  unfold seat mapThread
  rw [timer]

namespace Scheduler

variable {s : Scheduler} {away : List Pid} {pid : Pid} {ex : Executor} {f : Executor → Executor}

/-- The seat of the script with a given number; a script that is not live has no hold list. -/
def seat (s : Scheduler) (pid : Pid) : Seat := ((s.get? pid).map Executor.seat).getD .free

/-- The seat of a live script is the one that its thread names. -/
theorem seat_of_get? (found : s.get? pid = some ex) : s.seat pid = ex.seat := by
  simp [seat, found]

/-- A script that is not live has no hold list. -/
theorem seat_of_not_live (gone : s.get? pid = none) : s.seat pid = .free := by
  simp [seat, gone]

/-- A change of a live script moves it to the seat that the changed thread names. -/
theorem seat_modify_self (keeps : ∀ ex, ex.pid = pid → (f ex).pid = pid)
    (found : s.get? pid = some ex) : (s.modify pid f).seat pid = (f ex).seat := by
  simp [seat, get?_modify_self keeps, found]

/-- A change of a script leaves the seats of the others alone. -/
theorem seat_modify_of_ne (keeps : ∀ ex, ex.pid = pid → (f ex).pid = pid) {other : Pid}
    (ne : other ≠ pid) : (s.modify pid f).seat other = s.seat other := by
  simp [seat, get?_modify_of_ne keeps ne]

/-- A change that keeps the seat of the script keeps all seats. -/
theorem seat_modify (keeps : ∀ ex, ex.pid = pid → (f ex).pid = pid)
    (same : ∀ ex, s.get? pid = some ex → (f ex).seat = ex.seat) (other : Pid) :
    (s.modify pid f).seat other = s.seat other := by
  by_cases h : other = pid
  · subst h
    cases found : s.get? other with
    | none => simp [seat, get?_modify_self keeps, found]
    | some ex => rw [seat_modify_self keeps found, same ex found, seat_of_get? found]
  · exact seat_modify_of_ne keeps h

/-- A changed script takes another seat, the others keep theirs. -/
theorem seat_of_modify {seat : Seat} (keeps : ∀ ex, ex.pid = pid → (f ex).pid = pid)
    (live : (s.get? pid).isSome = true) {old : Seat} (sat : s.seat pid = old)
    (sits : ∀ ex : Executor, ex.seat = old → (f ex).seat = seat) (other : Pid) :
    (s.modify pid f).seat other = if other = pid then seat else s.seat other := by
  obtain ⟨ex, found⟩ := Option.isSome_iff_exists.mp live
  by_cases same : other = pid
  · rw [if_pos same, same, seat_modify_self keeps found]
    exact sits ex (seat_of_get? found ▸ sat)
  · rw [if_neg same, seat_modify_of_ne keeps same]

/-- All that a scheduler lists by name: the hold lists, the next timer number, the ready queue. -/
def listing (s : Scheduler) :=
  (s.timeouts, s.nextTimerSeq, s.untimed, s.debugger, s.external, s.ready)

/-- The hold lists hold exactly what the seats say, each in its order, and every live script in no
hold list is in the ready queue or among those that are away. -/
structure Placed (away : List Pid) (s : Scheduler) : Prop where
  sortedTimers : s.timeouts.Pairwise fun a b => a.1.before b.1 = true
  seqs : ∀ entry ∈ s.timeouts, entry.1.seq < s.nextTimerSeq
  sortedUntimed : s.untimed.Pairwise fun a b => a.number < b.number
  sortedDebugger : s.debugger.Pairwise fun a b => a.number < b.number
  sortedExternal : s.external.Pairwise fun a b => a.number < b.number
  timeouts : ∀ pid key, (key, pid) ∈ s.timeouts ↔ (s.seat pid).timer = some key
  untimed : ∀ pid, pid ∈ s.untimed ↔ (s.seat pid).list = .noTimeout
  debugger : ∀ pid, pid ∈ s.debugger ↔ (s.seat pid).list = .debugger
  external : ∀ pid, pid ∈ s.external ↔ (s.seat pid).list = .external
  timer_iff : ∀ pid, (s.seat pid).timer.isSome = true ↔ (s.seat pid).list = .timeout
  ready : ∀ pid, (s.get? pid).isSome = true → (s.seat pid).list = .none →
    pid ∈ s.ready ∨ pid ∈ away

namespace Placed

/-- A scheduler without scripts has its hold lists in order. -/
theorem empty (config : SchedulerConfig) (engine : Option Engine) :
    Placed [] (.empty config engine) := by
  constructor <;> simp [Scheduler.empty, seat, get?, Seat.free]

/-- Whoever is away may be more. -/
theorem mono {more : List Pid} (h : Placed away s) (sub : ∀ pid ∈ away, pid ∈ more) :
    Placed more s :=
  { h with ready := fun pid live none => (h.ready pid live none).imp_right (sub pid) }

/-- The order of the hold lists hangs on the lists and the seats alone. -/
theorem congr {s' : Scheduler} (h : Placed away s) (listing : s'.listing = s.listing)
    (seats : ∀ pid, s'.seat pid = s.seat pid)
    (live : ∀ pid, (s'.get? pid).isSome = true → (s.get? pid).isSome = true) :
    Placed away s' := by
  simp only [Scheduler.listing, Prod.mk.injEq] at listing
  obtain ⟨timeouts, nextTimerSeq, untimed, debugger, external, ready⟩ := listing
  constructor
  case sortedTimers => exact timeouts ▸ h.sortedTimers
  case seqs => exact timeouts ▸ nextTimerSeq ▸ h.seqs
  case sortedUntimed => exact untimed ▸ h.sortedUntimed
  case sortedDebugger => exact debugger ▸ h.sortedDebugger
  case sortedExternal => exact external ▸ h.sortedExternal
  case timeouts => intro pid key; rw [timeouts, seats, h.timeouts]
  case untimed => intro pid; rw [untimed, seats, h.untimed]
  case debugger => intro pid; rw [debugger, seats, h.debugger]
  case external => intro pid; rw [external, seats, h.external]
  case timer_iff => intro pid; rw [seats, h.timer_iff]
  case ready =>
    intro pid isLive none
    rw [seats] at none
    rw [ready]
    exact h.ready pid (live pid isLive) none

/-- A change that keeps the seat of a script keeps the hold lists in order. -/
theorem modify (h : Placed away s) (keeps : ∀ ex, ex.pid = pid → (f ex).pid = pid)
    (same : ∀ ex, s.get? pid = some ex → (f ex).seat = ex.seat) :
    Placed away (s.modify pid f) := by
  refine h.congr rfl (seat_modify keeps same) ?_
  intro other live
  rw [get?_modify keeps] at live
  split at live
  · next eq => simpa [eq] using live
  · exact live

/-- Storing a version of a script with the same seat keeps the hold lists in order. -/
theorem store (h : Placed away s) (same : ∀ old, s.get? ex.pid = some old → ex.seat = old.seat) :
    Placed away (s.store ex) :=
  h.modify (fun _ _ => rfl) same

end Placed

/-! ### Taking a script out of its place -/

/-- The scheduler with a script struck from all lists. -/
def without (s : Scheduler) (pid : Pid) : Scheduler :=
  { s with
    ready := s.ready.filter fun other => other ≠ pid
    timeouts := s.timeouts.filter fun entry => entry.2 ≠ pid
    untimed := s.untimed.filter fun other => other ≠ pid
    debugger := s.debugger.filter fun other => other ≠ pid
    external := s.external.filter fun other => other ≠ pid }

/-- A number that a list does not hold is not struck from it. -/
theorem filter_ne_of_not_mem {pids : List Pid} (absent : pid ∉ pids) :
    pids.filter (fun other => other ≠ pid) = pids := by
  refine List.filter_eq_self.mpr ?_
  intro other mem
  have : other ≠ pid := fun same => absent (same ▸ mem)
  simpa using this

/-- Increasing numbers are different. -/
theorem nodup_of_sorted {pids : List Pid}
    (sorted : pids.Pairwise fun a b => a.number < b.number) : pids.Nodup := by
  refine sorted.imp ?_
  rintro a b less rfl
  exact Nat.lt_irrefl _ less

/-- From a list of increasing numbers a number is removed by striking it. -/
theorem erase_eq_filter_of_sorted {pids : List Pid}
    (sorted : pids.Pairwise fun a b => a.number < b.number) :
    pids.erase pid = pids.filter fun other => other ≠ pid := by
  rw [(nodup_of_sorted sorted).erase_eq_filter]
  refine List.filter_congr ?_
  intro other _
  by_cases same : other = pid <;> simp [same]

/-- A script without a timer has no timer entry. -/
theorem Placed.filter_timeouts_of_free (h : Placed away s) (free : (s.seat pid).timer = none) :
    s.timeouts.filter (fun entry => entry.2 ≠ pid) = s.timeouts := by
  refine List.filter_eq_self.mpr ?_
  intro entry mem
  have : entry.2 ≠ pid := by
    rintro rfl
    have held := (h.timeouts entry.2 entry.1).mp mem
    rw [free] at held
    exact absurd held (by simp)
  simpa using this

/-- The keys of the timer entries are different. -/
theorem Placed.nodup_keys (h : Placed away s) : (s.timeouts.map Prod.fst).Nodup := by
  refine List.pairwise_map.mpr (h.sortedTimers.imp ?_)
  intro a b before same
  rw [same] at before
  exact TimerKey.not_before_self _ before

/-- A timer entry is struck by its key or by its script. -/
theorem Placed.filter_timeouts_of_timer (h : Placed away s) {key : TimerKey}
    (timer : (s.seat pid).timer = some key) :
    s.timeouts.filter (fun entry => entry.1 ≠ key) =
      s.timeouts.filter fun entry => entry.2 ≠ pid := by
  have own : (key, pid) ∈ s.timeouts := (h.timeouts pid key).mpr timer
  refine List.filter_congr ?_
  intro entry mem
  have same : entry.1 = key ↔ entry.2 = pid := by
    constructor
    · intro eq
      have := List.inj_on_of_nodup_map h.nodup_keys mem own eq
      rw [this]
    · intro eq
      have held := (h.timeouts pid entry.1).mp (eq ▸ mem)
      rw [timer] at held
      exact (Option.some.inj held).symm
  simp [same]

/-- A script leaves the hold list that its thread names by being struck from all lists. -/
theorem Placed.leaveHoldList (h : Placed away s) (found : s.get? pid = some ex) :
    s.leaveHoldList ex = { s.without pid with ready := s.ready } := by
  have list : ex.thread.holdList = (s.seat pid).list := by rw [seat_of_get? found]; rfl
  have timer : ex.thread.timer = (s.seat pid).timer := by rw [seat_of_get? found]; rfl
  have number := pid_of_get? found
  have untimed : (s.seat pid).list ≠ .noTimeout →
      s.untimed.filter (fun other => other ≠ pid) = s.untimed :=
    fun ne => filter_ne_of_not_mem (mt (h.untimed pid).mp ne)
  have debugger : (s.seat pid).list ≠ .debugger →
      s.debugger.filter (fun other => other ≠ pid) = s.debugger :=
    fun ne => filter_ne_of_not_mem (mt (h.debugger pid).mp ne)
  have external : (s.seat pid).list ≠ .external →
      s.external.filter (fun other => other ≠ pid) = s.external :=
    fun ne => filter_ne_of_not_mem (mt (h.external pid).mp ne)
  have timeouts : (s.seat pid).list ≠ .timeout →
      s.timeouts.filter (fun entry => entry.2 ≠ pid) = s.timeouts := by
    intro ne
    refine h.filter_timeouts_of_free ?_
    have := mt (h.timer_iff pid).mp ne
    simpa using this
  unfold Scheduler.leaveHoldList without
  cases held : (s.seat pid).list with
  | none =>
    rw [list, held, untimed (by simp [held]), debugger (by simp [held]),
      external (by simp [held]), timeouts (by simp [held])]
  | timeout =>
    obtain ⟨key, eq⟩ := Option.isSome_iff_exists.mp ((h.timer_iff pid).mpr held)
    rw [list, held, timer, eq, untimed (by simp [held]), debugger (by simp [held]),
      external (by simp [held]), ← h.filter_timeouts_of_timer eq]
  | noTimeout =>
    rw [list, held, number, erase_eq_filter_of_sorted h.sortedUntimed, debugger (by simp [held]),
      external (by simp [held]), timeouts (by simp [held])]
  | debugger =>
    rw [list, held, number, erase_eq_filter_of_sorted h.sortedDebugger, untimed (by simp [held]),
      external (by simp [held]), timeouts (by simp [held])]
  | external =>
    rw [list, held, number, erase_eq_filter_of_sorted h.sortedExternal, untimed (by simp [held]),
      debugger (by simp [held]), timeouts (by simp [held])]

/-- A live script is detached by being struck from all lists. -/
theorem Placed.detach_eq (h : Placed away s) (live : (s.get? pid).isSome = true) :
    s.detach pid = (s.without pid).modify pid fun ex => ex.mapThread Thread.detached := by
  obtain ⟨ex, found⟩ := Option.isSome_iff_exists.mp live
  unfold Scheduler.detach
  rw [found]
  simp only [h.leaveHoldList found]
  rfl

/-- A detached script is in no hold list. -/
theorem seat_detach_self (s : Scheduler) (pid : Pid) : (s.detach pid).seat pid = .free := by
  unfold seat
  rw [get?_detach_self]
  cases s.get? pid <;> rfl

/-- Detaching a script frees its seat and leaves the seats of the others alone. -/
theorem seat_detach (s : Scheduler) (pid other : Pid) :
    (s.detach pid).seat other = if other = pid then .free else s.seat other := by
  by_cases same : other = pid
  · rw [if_pos same, same, seat_detach_self]
  · rw [if_neg same]
    unfold seat
    rw [get?_detach_of_ne s same]

/-- Striking a detached script from a list keeps the list in agreement with the seats. -/
theorem mem_struck_iff {pids : List Pid} {list : HoldList} (some : list ≠ .none)
    (holds : ∀ other, other ∈ pids ↔ (s.seat other).list = list) (other : Pid) :
    other ∈ pids.filter (fun other => other ≠ pid) ↔
      ((s.detach pid).seat other).list = list := by
  rw [List.mem_filter, holds, seat_detach]
  by_cases same : other = pid
  · simp [same, Seat.free, some.symm]
  · simp [same]

namespace Placed

/-- The lists after a live script has been detached. -/
theorem listing_detach (h : Placed away s) (live : (s.get? pid).isSome = true) :
    (s.detach pid).listing = (s.without pid).listing := by
  rw [h.detach_eq live]
  rfl

/-- A script that has been detached is away; the hold lists stay in order. -/
theorem detach (h : Placed away s) (pid : Pid) : Placed (pid :: away) (s.detach pid) := by
  cases found : s.get? pid with
  | none =>
    have same : s.detach pid = s := by simp [Scheduler.detach, found]
    rw [same]
    exact h.mono fun other mem => List.mem_cons_of_mem _ mem
  | some ex =>
    have live : (s.get? pid).isSome = true := by rw [found]; rfl
    have listing := h.listing_detach live
    simp only [Scheduler.listing, without, Prod.mk.injEq] at listing
    obtain ⟨timeouts, seq, untimed, debugger, external, ready⟩ := listing
    constructor
    case sortedTimers =>
      rw [timeouts]
      exact h.sortedTimers.filter _
    case seqs =>
      intro entry mem
      rw [timeouts] at mem
      rw [seq]
      exact h.seqs entry (List.mem_filter.mp mem).1
    case sortedUntimed =>
      rw [untimed]
      exact h.sortedUntimed.filter _
    case sortedDebugger =>
      rw [debugger]
      exact h.sortedDebugger.filter _
    case sortedExternal =>
      rw [external]
      exact h.sortedExternal.filter _
    case timeouts =>
      intro other key
      rw [timeouts, List.mem_filter, h.timeouts, seat_detach]
      -- only the script itself leaves its seat
      by_cases same : other = pid
      · simp [same, Seat.free]
      · simp [same]
    case untimed =>
      rw [untimed]
      exact mem_struck_iff (by decide) h.untimed
    case debugger =>
      rw [debugger]
      exact mem_struck_iff (by decide) h.debugger
    case external =>
      rw [external]
      exact mem_struck_iff (by decide) h.external
    case timer_iff =>
      intro other
      rw [seat_detach]
      by_cases same : other = pid
      · simp [same, Seat.free]
      · simpa [same] using h.timer_iff other
    case ready =>
      intro other live free
      rw [isSome_get?_detach] at live
      rw [seat_detach] at free
      rw [ready, List.mem_filter]
      by_cases same : other = pid
      · exact .inr (List.mem_cons.mpr (.inl same))
      · rw [if_neg same] at free
        refine (h.ready other live free).imp (fun mem => ⟨mem, by simpa using same⟩) ?_
        exact fun mem => List.mem_cons_of_mem _ mem

/-- Whoever has a hold list or is not live needs no place in the ready queue. -/
theorem settled (h : Placed (pid :: away) s)
    (held : (s.get? pid).isSome = true → (s.seat pid).list ≠ .none) : Placed away s :=
  { h with
    ready := by
      intro other live free
      refine (h.ready other live free).imp_right ?_
      intro mem
      rcases List.mem_cons.mp mem with rfl | mem
      · exact absurd free (held live)
      · exact mem }

end Placed

/-! ### Giving a script a place -/

/-- A list with a script inserted if its seat names that list. -/
def seatIn (list : HoldList) (seat : Seat) (pid : Pid) (pids : List Pid) : List Pid :=
  if seat.list = list then insertPid pid pids else pids

/-- What a list holds after a script has taken a seat. -/
theorem mem_seatIn {list : HoldList} (seat : Seat) {pids : List Pid} {seats : Pid → Seat}
    (some : list ≠ .none) (free : seats pid = .free)
    (holds : ∀ other, other ∈ pids ↔ (seats other).list = list) (other : Pid) :
    other ∈ seatIn list seat pid pids ↔
      (if other = pid then seat else seats other).list = list := by
  unfold seatIn
  by_cases same : other = pid
  · subst same
    have absent : other ∉ pids := by
      rw [holds, free]
      exact some.symm
    by_cases named : seat.list = list
    · simp [named, mem_insertPid]
    · simp [named, absent]
  · rw [if_neg same, ← holds]
    split
    · rw [mem_insertPid]
      exact or_iff_right same
    · rfl

/-- A list stays in order when a script takes a seat. -/
theorem pairwise_seatIn {list : HoldList} {seat : Seat} {pids : List Pid}
    (sorted : pids.Pairwise fun a b => a.number < b.number) :
    (seatIn list seat pid pids).Pairwise fun a b => a.number < b.number := by
  unfold seatIn
  split
  · exact pairwise_insertPid sorted
  · exact sorted

namespace Placed

/-- The hold lists stay in order when a script in none of them takes a seat without a timer. -/
theorem sit {s' : Scheduler} (h : Placed (pid :: away) s) (free : s.seat pid = .free)
    (list : HoldList) (held : list ≠ .none) (untimer : list ≠ .timeout)
    (seats : ∀ other, s'.seat other = if other = pid then ⟨list, none⟩ else s.seat other)
    (live : ∀ other, (s'.get? other).isSome = true → (s.get? other).isSome = true)
    (untimed : s'.untimed = seatIn .noTimeout ⟨list, none⟩ pid s.untimed)
    (debugger : s'.debugger = seatIn .debugger ⟨list, none⟩ pid s.debugger)
    (external : s'.external = seatIn .external ⟨list, none⟩ pid s.external)
    (timeouts : s'.timeouts = s.timeouts) (nextTimerSeq : s'.nextTimerSeq = s.nextTimerSeq)
    (ready : s'.ready = s.ready) : Placed away s' where
  sortedTimers := timeouts ▸ h.sortedTimers
  seqs := timeouts ▸ nextTimerSeq ▸ h.seqs
  sortedUntimed := untimed ▸ pairwise_seatIn h.sortedUntimed
  sortedDebugger := debugger ▸ pairwise_seatIn h.sortedDebugger
  sortedExternal := external ▸ pairwise_seatIn h.sortedExternal
  timeouts other key := by
    rw [timeouts, seats, h.timeouts]
    by_cases same : other = pid
    · simp [same, free, Seat.free]
    · rw [if_neg same]
  untimed other := by rw [untimed, seats, mem_seatIn ⟨list, none⟩ (by decide) free h.untimed]
  debugger other := by rw [debugger, seats, mem_seatIn ⟨list, none⟩ (by decide) free h.debugger]
  external other := by rw [external, seats, mem_seatIn ⟨list, none⟩ (by decide) free h.external]
  timer_iff other := by
    rw [seats]
    by_cases same : other = pid
    · simp [same, untimer]
    · rw [if_neg same]
      exact h.timer_iff other
  ready other isLive none := by
    rw [seats] at none
    by_cases same : other = pid
    · rw [if_pos same] at none
      exact absurd none held
    · rw [if_neg same] at none
      rw [ready]
      -- whoever else is on no list is ready or still away
      refine (h.ready other (live other isLive) none).imp_right ?_
      intro mem
      exact (List.mem_cons.mp mem).resolve_left same

/-- A script that names no hold list has no timer either. -/
theorem free_of_list (h : Placed away s) (none : (s.seat pid).list = .none) :
    s.seat pid = .free := by
  have timer : (s.seat pid).timer = .none := by
    have := mt (h.timer_iff pid).mp (by simp [none])
    simpa using this
  cases seat : s.seat pid
  rw [seat] at none timer
  simp only at none timer
  rw [none, timer]
  rfl

/-- The hold lists stay in order when a script joins the sleepers without a wake clock. -/
theorem holdUntimed (h : Placed (pid :: away) s) (live : (s.get? pid).isSome = true)
    (free : s.seat pid = .free) : Placed away (s.holdUntimed pid) := by
  refine h.sit free .noTimeout (by decide) (by decide) ?_ ?_ rfl rfl rfl rfl rfl rfl
  · exact seat_of_modify (f := fun ex => ex.mapThread fun t => { t with holdList := .noTimeout })
      (fun _ same => same) live free fun _ => Executor.seat_hold_of_free
  · intro other isLive
    rwa [← isSome_get?_modify (f := fun ex => ex.mapThread fun t =>
      { t with holdList := .noTimeout }) fun _ same => same]

/-- The hold lists stay in order when a script is parked for the debugger. -/
theorem parkDebugger (h : Placed (pid :: away) s) (live : (s.get? pid).isSome = true)
    (free : s.seat pid = .free) : Placed away (s.parkDebugger pid) := by
  refine h.sit free .debugger (by decide) (by decide) ?_ ?_ rfl rfl rfl rfl rfl rfl
  · exact seat_of_modify (f := fun ex => ex.mapThread fun t => { t with holdList := .debugger })
      (fun _ same => same) live free fun _ => Executor.seat_hold_of_free
  · intro other isLive
    rwa [← isSome_get?_modify (f := fun ex => ex.mapThread fun t =>
      { t with holdList := .debugger }) fun _ same => same]

/-- The hold lists stay in order when a script is handed to the engine. -/
theorem parkExternal (h : Placed (pid :: away) s) (live : (s.get? pid).isSome = true) :
    Placed away (s.parkExternal pid) := by
  have detached : Placed (pid :: away) (s.detach pid) :=
    (h.detach pid).mono fun other mem => by simpa using mem
  have isLive : ((s.detach pid).get? pid).isSome = true := by rwa [isSome_get?_detach]
  refine detached.sit (seat_detach_self s pid) .external (by decide) (by decide)
    ?_ ?_ rfl rfl rfl rfl rfl rfl
  · exact seat_of_modify (f := fun ex => ex.mapThread fun t => { t with holdList := .external })
      (fun _ same => same) isLive (seat_detach_self s pid) fun _ => Executor.seat_hold_of_free
  · intro other isLive
    rwa [← isSome_get?_modify (f := fun ex => ex.mapThread fun t =>
      { t with holdList := .external }) fun _ same => same]

/-- The hold lists stay in order when a script gets a timer. -/
theorem holdTimed (h : Placed (pid :: away) s) (live : (s.get? pid).isSome = true)
    (free : s.seat pid = .free) (wake : Nat) : Placed away (s.holdTimed pid wake) := by
  have keeps : ∀ ex : Executor, ex.pid = pid → (ex.mapThread fun t =>
      { t with timer := some ⟨wake, s.nextTimerSeq⟩, holdList := .timeout }).pid = pid :=
    fun _ same => same
  have seats : ∀ other, (s.holdTimed pid wake).seat other =
      if other = pid then ⟨.timeout, some ⟨wake, s.nextTimerSeq⟩⟩ else s.seat other :=
    seat_of_modify keeps live free fun _ _ => rfl
  have same : ∀ other, ((s.holdTimed pid wake).get? other).isSome = (s.get? other).isSome :=
    isSome_get?_modify keeps
  have elsewhere : ∀ {pids : List Pid} {list : HoldList}, list ≠ .none → list ≠ .timeout →
      (∀ other, other ∈ pids ↔ (s.seat other).list = list) → ∀ other,
      other ∈ pids ↔ ((s.holdTimed pid wake).seat other).list = list := by
    intro pids list some untimed holds other
    have := mem_seatIn ⟨.timeout, .some ⟨wake, s.nextTimerSeq⟩⟩ some free holds other
    rwa [seatIn, if_neg (Ne.symm untimed), ← seats] at this
  constructor
  case sortedTimers =>
    -- the sequence number is new, so the key is not in the list yet
    refine pairwise_insertTimer h.sortedTimers ?_
    intro entry mem eq
    have old := h.seqs entry mem
    rw [eq] at old
    exact Nat.lt_irrefl _ old
  case seqs =>
    intro entry mem
    rcases mem_insertTimer.mp mem with rfl | mem
    · exact Nat.lt_succ_self _
    · exact Nat.lt_succ_of_lt (h.seqs entry mem)
  case sortedUntimed => exact h.sortedUntimed
  case sortedDebugger => exact h.sortedDebugger
  case sortedExternal => exact h.sortedExternal
  case timeouts =>
    intro other key
    have mem : (key, other) ∈ (s.holdTimed pid wake).timeouts ↔
        (key, other) = (⟨wake, s.nextTimerSeq⟩, pid) ∨ (key, other) ∈ s.timeouts := mem_insertTimer
    rw [mem, seats, h.timeouts, Prod.mk.injEq]
    by_cases eq : other = pid
    · simp [eq, free, Seat.free, eq_comm]
    · simp [eq]
  case untimed => exact elsewhere (by decide) (by decide) h.untimed
  case debugger => exact elsewhere (by decide) (by decide) h.debugger
  case external => exact elsewhere (by decide) (by decide) h.external
  case timer_iff =>
    intro other
    rw [seats]
    by_cases eq : other = pid
    · simp [eq]
    · rw [if_neg eq]
      exact h.timer_iff other
  case ready =>
    intro other isLive none
    rw [same] at isLive
    rw [seats] at none
    by_cases eq : other = pid
    · simp [eq] at none
    · rw [if_neg eq] at none
      refine (h.ready other isLive none).imp_right ?_
      intro mem
      exact (List.mem_cons.mp mem).resolve_left eq

/-- A script at the end of the ready queue is no longer away. -/
theorem enqueue {more : List Pid} (h : Placed more s)
    (back : ∀ other ∈ more, other = pid ∨ other ∈ away) : Placed away (s.enqueue pid) :=
  { h with
    ready := by
      intro other live none
      have queue : (s.enqueue pid).ready = s.ready ++ [pid] := rfl
      rw [queue, List.mem_append, List.mem_singleton]
      rcases h.ready other live none with mem | mem
      · exact .inl (.inl mem)
      · exact (back other mem).imp_left .inr }

/-- The hold lists stay in order when a revived script is made ready. -/
theorem schedule (h : Placed (pid :: away) s) : Placed away (s.schedule pid) := by
  unfold Scheduler.schedule
  split
  · exact (h.detach pid).enqueue (by simp)
  · next stuck =>
    refine h.settled fun live none => stuck ?_
    obtain ⟨ex, found⟩ := Option.isSome_iff_exists.mp live
    rw [seat_of_get? found] at none
    have list : ex.thread.holdList = .none := none
    simp [isMovable, found, list, HoldList.isFixed]

/-- The hold lists stay in order when a suspended script goes to the hold list for its wake
clock. -/
theorem hold (h : Placed (pid :: away) s) : Placed away (s.hold pid) := by
  unfold Scheduler.hold
  split
  · next gone =>
    refine h.settled ?_
    intro live
    rw [gone] at live
    exact absurd live (by decide)
  · next ex found =>
    have live : ((s.detach pid).get? pid).isSome = true := by
      rw [isSome_get?_detach, found]
      rfl
    have free := seat_detach_self s pid
    have detached : Placed (pid :: away) (s.detach pid) :=
      (h.detach pid).mono fun other mem => by simpa using mem
    split
    · next stuck =>
      refine h.settled ?_
      intro _ none
      rw [seat_of_get? found] at none
      have list : ex.thread.holdList = .none := none
      rw [list] at stuck
      exact absurd stuck (by simp [HoldList.isFixed])
    · split
      · exact detached.holdUntimed live free
      · exact detached.holdTimed live free _

/-- The hold lists stay in order when a script in none of them is forgotten. -/
theorem erase (h : Placed away s) (free : s.seat pid = .free) : Placed away (s.erase pid) := by
  refine h.congr rfl ?_ ?_
  · intro other
    by_cases same : other = pid
    · subst same
      rw [seat_of_not_live get?_erase_self, free]
    · unfold seat
      rw [get?_erase_of_ne same]
  · intro other live
    by_cases same : other = pid
    · subst same
      rw [get?_erase_self] at live
      exact absurd live (by decide)
    · rwa [get?_erase_of_ne same] at live

/-- A new script in no hold list is away until it gets a place. -/
theorem enroll (h : Placed away s) (new : s.get? ex.pid = none) (free : ex.seat = .free) :
    Placed (ex.pid :: away) (s.enroll ex).value := by
  have seats : ∀ other, (s.enroll ex).value.seat other = s.seat other := by
    intro other
    by_cases same : other = ex.pid
    · rw [same, seat_of_get? (get?_enroll_self new), seat_of_not_live new, free]
    · unfold seat
      rw [get?_enroll_of_ne same]
  refine
    { h with
      timeouts := fun other key => by rw [seats]; exact h.timeouts other key
      untimed := fun other => by rw [seats]; exact h.untimed other
      debugger := fun other => by rw [seats]; exact h.debugger other
      external := fun other => by rw [seats]; exact h.external other
      timer_iff := fun other => by rw [seats]; exact h.timer_iff other
      ready := ?_ }
  intro other live none
  by_cases same : other = ex.pid
  · exact .inr (List.mem_cons.mpr (.inl same))
  · rw [get?_enroll_of_ne same] at live
    rw [seats] at none
    exact (h.ready other live none).imp_right fun mem => List.mem_cons_of_mem _ mem

end Placed

end Scheduler

end ScriptScheduler
