import Mathlib.Data.List.Sort
import ScriptScheduler.Proofs.Answers

/-!
# Waking the sleepers whose clock has come

The scheduler wakes exactly those scripts that are among the sleepers with a wake clock and whose
clock has come (`Executor.isDue`); no other script is changed. So exactly their pending requests
end.
-/

namespace ScriptScheduler

/-- Whether a script is among the sleepers with a wake clock and its clock has come. -/
def Executor.isDue (ex : Executor) (now : Nat) : Bool :=
  match ex.thread.timer with
  | some key => key.wake ≤ now
  | none => false

/-- A script that has been woken is not due. -/
theorem Executor.isDue_timedOut (ex : Executor) (now : Nat) : ex.timedOut.isDue now = false := rfl

namespace Scheduler

variable {s : Scheduler} {pid : Pid} {ex : Executor} {now : Nat}

/-- The timer entry of a live script is its own. -/
theorem Placed.mem_timeouts {away : List Pid} (placed : Placed away s)
    (found : s.get? pid = some ex) {key : TimerKey} :
    (key, pid) ∈ s.timeouts ↔ ex.thread.timer = some key := by
  rw [placed.timeouts, seat_of_get? found]
  rfl

/-- When the first clock has not come, no script is due. -/
theorem Placed.isDue_of_first {away : List Pid} (placed : Placed away s)
    (early : ∀ entry ∈ s.timeouts.head?, now < entry.1.wake) (found : s.get? pid = some ex) :
    ex.isDue now = false := by
  unfold Executor.isDue
  cases timer : ex.thread.timer with
  | none => rfl
  | some key =>
    have listed : (key, pid) ∈ s.timeouts := (placed.mem_timeouts found).mpr timer
    have sorted := placed.sortedTimers
    cases list : s.timeouts with
    | nil =>
      rw [list] at listed
      exact absurd listed List.not_mem_nil
    | cons first rest =>
      rw [list] at listed sorted early
      have later : now < first.1.wake := early first rfl
      have late : now < key.wake := by
        rcases List.mem_cons.mp listed with eq | mem
        · rwa [← eq] at later
        · have order := TimerKey.before_iff.mp ((List.pairwise_cons.mp sorted).1 _ mem)
          dsimp only at order
          omega
      simpa using late

/-- The first sleeper is live, with the timer of its entry. -/
theorem Placed.sleeper_of_first {away : List Pid} {key : TimerKey}
    {rest : List (TimerKey × Pid)} (placed : Placed away s)
    (first : s.timeouts = (key, pid) :: rest) :
    ∃ ex, s.get? pid = some ex ∧ ex.thread.timer = some key := by
  have timer : (s.seat pid).timer = some key :=
    (placed.timeouts pid key).mp (by rw [first]; exact List.mem_cons_self)
  cases found : s.get? pid with
  | none =>
    rw [seat_of_not_live found] at timer
    exact absurd timer (by simp [Seat.free])
  | some ex =>
    rw [seat_of_get? found] at timer
    exact ⟨ex, rfl, timer⟩

/-- Two lists in the same order are equal if they have the same members. -/
theorem eq_of_sorted {α : Type} {before : α → α → Prop} {xs ys : List α}
    (sorted : xs.Pairwise before) (sorted' : ys.Pairwise before) (irrefl : ∀ a, ¬ before a a)
    (trans : ∀ {a b c}, before a b → before b c → before a c)
    (same : ∀ x, x ∈ xs ↔ x ∈ ys) : xs = ys := by
  have irreflexive : Std.Irrefl before := ⟨irrefl⟩
  have antisymmetric : Std.Antisymm before :=
    ⟨fun a _ first second => absurd (trans first second) (irrefl a)⟩
  exact sorted.eq_of_mem_iff sorted' same

/-- Timers in order are determined by which timers there are. -/
theorem timers_eq {timers timers' : List (TimerKey × Pid)}
    (sorted : timers.Pairwise fun a b => a.1.before b.1 = true)
    (sorted' : timers'.Pairwise fun a b => a.1.before b.1 = true)
    (same : ∀ entry, entry ∈ timers ↔ entry ∈ timers') : timers = timers' :=
  eq_of_sorted sorted sorted' (fun entry => TimerKey.not_before_self entry.1)
    TimerKey.before_trans same

/-- The first sleeper whose clock has come, and no other, leaves the list of sleepers when it is
woken. -/
theorem timeouts_wake {key : TimerKey} {rest : List (TimerKey × Pid)}
    (sound : Moment.Sound ⟨s, [], []⟩) (first : s.timeouts = (key, pid) :: rest)
    (due : key.wake ≤ now) (found : s.get? pid = some ex) :
    Moment.Sound ⟨({ s with timeouts := rest }.wake pid).value, [], []⟩ ∧
      ({ s with timeouts := rest }.wake pid).value.timeouts = rest := by
  have after : Moment.Sound ⟨({ s with timeouts := rest }.wake pid).value, [], []⟩ := by
    have woken : Move ⟨s, [], []⟩ _ _ := .wake first due
    exact woken.sound sound
  refine ⟨after, ?_⟩
  have taken : Indexed { s with timeouts := rest } := sound.indexed.congr rfl fun _ => rfl
  obtain ⟨self, others⟩ := Evolves.wake_get? taken found
  have sorted := sound.placed.sortedTimers
  rw [first, List.pairwise_cons] at sorted
  refine timers_eq after.placed.sortedTimers sorted.2 ?_
  rintro ⟨other, sleeper⟩
  rw [after.placed.timeouts]
  by_cases same : sleeper = pid
  · -- the script has one timer, and it was the first one
    rw [same, seat_of_get? self]
    refine iff_of_false (by simp [Executor.seat, Executor.timedOut, Thread.revive, Thread.detached])
      fun mem => ?_
    have timer := (sound.placed.timeouts pid key).mp (by rw [first]; exact List.mem_cons_self)
    have twice := (sound.placed.timeouts pid other).mp (by rw [first]; exact .tail _ mem)
    obtain rfl := Option.some.inj (timer.symm.trans twice)
    exact TimerKey.not_before_self _ (sorted.1 _ mem)
  · have kept : ({ s with timeouts := rest }.wake pid).value.seat sleeper = s.seat sleeper := by
      unfold seat
      rw [others sleeper same]
      rfl
    rw [kept, ← sound.placed.timeouts, first, List.mem_cons, Prod.mk.injEq]
    exact or_iff_right fun eq => same eq.2

/-- The rounds in which sleepers are woken, from the state `s` on: no script is due, or the first
sleeper is due and is woken, and further rounds follow. -/
inductive WakeRounds (now : Nat) : Scheduler → Logged Scheduler → Prop
  | idle {s : Scheduler}
      (early : ∀ pid ex, s.get? pid = some ex → ex.isDue now = false) : WakeRounds now s (pure s)
  | round {s : Scheduler} {key : TimerKey} {pid : Pid} {rest : List (TimerKey × Pid)}
      {ex : Executor} {ran : Logged Scheduler} (sound : Moment.Sound ⟨s, [], []⟩)
      (first : s.timeouts = (key, pid) :: rest) (due : key.wake ≤ now)
      (found : s.get? pid = some ex) (isDue : ex.isDue now = true)
      (later : WakeRounds now ({ s with timeouts := rest }.wake pid).value ran) :
      WakeRounds now s ⟨ran.value, ({ s with timeouts := rest }.wake pid).entries ++ ran.entries⟩

/-- The sleepers whose clock has come, in the order of their timers. -/
def due (s : Scheduler) (now : Nat) : List (TimerKey × Pid) :=
  s.timeouts.filter fun entry => entry.1.wake ≤ now

/-- With a round for each sleeper whose clock has come, rounds are played until no script is due. -/
theorem wakeDue_rounds (now count : Nat) :
    ∀ {s : Scheduler}, Moment.Sound ⟨s, [], []⟩ → (s.due now).length ≤ count →
      WakeRounds now s (wakeDue now count s) := by
  have idle : ∀ {s : Scheduler}, Moment.Sound ⟨s, [], []⟩ →
      (∀ entry ∈ s.timeouts.head?, now < entry.1.wake) → WakeRounds now s (pure s) :=
    fun sound early => .idle fun _ _ found => sound.placed.isDue_of_first early found
  induction count with
  | zero =>
    intro s sound short
    have none : s.due now = [] := List.length_eq_zero_iff.mp (Nat.le_zero.mp short)
    refine idle sound fun entry first => ?_
    have late := List.filter_eq_nil_iff.mp none entry (List.mem_of_mem_head? first)
    simpa using late
  | succ count ih =>
    intro s sound short
    unfold wakeDue
    split
    · next none => exact idle sound (by simp [none])
    · next key sleeper rest first =>
      split
      · next early => exact idle sound (by simpa [first] using early)
      · next late =>
        have due : key.wake ≤ now := Nat.le_of_not_lt late
        obtain ⟨ex, found, timer⟩ := sound.placed.sleeper_of_first first
        obtain ⟨after, left⟩ := timeouts_wake sound first due found
        refine .round sound first due found (by simp [Executor.isDue, timer, due]) (ih after ?_)
        unfold Scheduler.due at short ⊢
        rw [first, List.filter_cons_of_pos (by simpa using due)] at short
        rw [left]
        exact Nat.le_of_succ_le_succ short

/-- The scripts whose clock has come are woken, and no other script is changed. -/
theorem WakeRounds.get? {ran : Logged Scheduler} (rounds : WakeRounds now s ran) (pid : Pid) :
    ran.value.get? pid = (s.get? pid).map fun ex => if ex.isDue now then ex.timedOut else ex := by
  induction rounds with
  | @idle s early =>
    change s.get? pid = _
    cases found : s.get? pid with
    | none => rfl
    | some ex => simp [early pid ex found]
  | @round s key sleeper rest ex ran sound first due found isDue later ih =>
    have taken : Indexed { s with timeouts := rest } := sound.indexed.congr rfl fun _ => rfl
    obtain ⟨self, others⟩ := Evolves.wake_get? taken found
    refine ih.trans ?_
    by_cases same : pid = sleeper
    · rw [same, self, found]
      simp [Executor.isDue_timedOut, isDue]
    · rw [others pid same]
      rfl

/-- By the record the pending requests of the scripts whose clock has come are answered, each once
and with the sentinel, and nothing else is answered. -/
structure AnswersDue (now : Nat) (s : Scheduler) (entries : List Entry) : Prop where
  pending : ∀ r ∈ s.requests.pending, ∀ ex, s.get? r.pid = some ex →
    answersTo r.id entries = if ex.isDue now then [ex.receipt r.id .sentinel] else []
  absent : ∀ id, (∀ r ∈ s.requests.pending, r.id ≠ id) → answersTo id entries = []

namespace AnswersDue

/-- As long as no script is due nothing is answered. -/
theorem idle (early : ∀ pid ex, s.get? pid = some ex → ex.isDue now = false) :
    AnswersDue now s [] where
  pending r _ ex found := by
    rw [early r.pid ex found]
    rfl
  absent _ _ := rfl

/-- A round in which the first sleeper is woken answers the requests of that sleeper, which are
pending no more in the further rounds. -/
theorem round {rest : List (TimerKey × Pid)} {entries : List Entry}
    (sound : Moment.Sound ⟨s, [], []⟩) (equipped : Equipped s) (found : s.get? pid = some ex)
    (isDue : ex.isDue now = true)
    (later : AnswersDue now ({ s with timeouts := rest }.wake pid).value entries) :
    AnswersDue now s (({ s with timeouts := rest }.wake pid).entries ++ entries) := by
  have taken : Indexed { s with timeouts := rest } := sound.indexed.congr rfl fun _ => rfl
  have others := (Evolves.wake_get? taken found).2
  have given := answersTo_wake taken found (equipped pid ex found)
  have left := pending_wake taken found
  constructor
  · intro r pending owner live
    have held : r.id ∈ ex.requests.ids ↔ r.pid = pid :=
      ⟨sound.indexed.own found pending,
        fun own => (sound.indexed.mem_ids found).mpr ⟨r, pending, rfl, own⟩⟩
    rw [answersTo_append, given]
    by_cases own : r.pid = pid
    · -- the request ends now, and nothing is pending under its number afterwards
      have ended : answersTo r.id entries = [] := by
        refine later.absent r.id ?_
        rintro other still same
        rw [left] at still
        have kept := of_decide_eq_true (List.mem_filter.mp still).2
        exact kept (same ▸ held.mpr own)
      rw [own, found] at live
      obtain rfl := Option.some.inj live
      rw [if_pos (held.mpr own), if_pos isDue, ended, List.append_nil]
    · have unheld : r.id ∉ ex.requests.ids := fun mem => own (held.mp mem)
      have still : r ∈ ({ s with timeouts := rest }.wake pid).value.requests.pending := by
        rw [left]
        exact List.mem_filter.mpr ⟨pending, decide_eq_true unheld⟩
      rw [if_neg unheld, List.nil_append]
      exact later.pending r still owner ((others r.pid own).trans live)
  · intro id absent
    have unheld : id ∉ ex.requests.ids := by
      intro mem
      obtain ⟨r, pending, same, -⟩ := (sound.indexed.mem_ids found).mp mem
      exact absent r pending same
    rw [answersTo_append, given, if_neg unheld, List.nil_append]
    refine later.absent id ?_
    intro r still
    rw [left] at still
    exact absent r (List.mem_filter.mp still).1

end AnswersDue

/-- Exactly the requests of the scripts whose clock has come are answered. -/
theorem WakeRounds.answers {ran : Logged Scheduler} (rounds : WakeRounds now s ran)
    (equipped : Equipped s) : AnswersDue now s ran.entries := by
  induction rounds with
  | idle early => exact .idle early
  | @round s key sleeper rest ex ran sound first due found isDue later ih =>
    have woken : Move ⟨s, [], []⟩ ({ s with timeouts := rest }.wake sleeper).entries
      ⟨({ s with timeouts := rest }.wake sleeper).value, [], []⟩ := .wake first due
    exact .round sound equipped found isDue (ih (woken.equipped sound equipped))

/-- Requests and calls only become fewer when sleepers are woken. -/
theorem thins_wakeDue (now count : Nat) :
    ∀ s : Scheduler, Thins s (wakeDue now count s).value := by
  induction count with
  | zero => exact fun s => .of_aside rfl
  | succ count ih =>
    intro s
    unfold wakeDue
    split
    · exact .of_aside rfl
    · next key sleeper rest first =>
      split
      · exact .of_aside rfl
      · have taken : Thins s { s with timeouts := rest } := .of_aside rfl
        exact (taken.trans thins_wake).trans (ih _)

/-- What waking the sleepers does to the state. -/
theorem checkBlocked_state (s : Scheduler) (now left : Nat) :
    (s.checkBlocked now left).value.2 = (wakeDue now s.timeouts.length s).value := by
  unfold checkBlocked
  simp only [Logged.bind_value]
  split <;> rfl

/-- The scripts whose clock has come are woken, and no other script is changed. -/
theorem get?_checkBlocked (sound : Moment.Sound ⟨s, [], []⟩) (now left : Nat) (pid : Pid) :
    (s.checkBlocked now left).value.2.get? pid =
      (s.get? pid).map fun ex => if ex.isDue now then ex.timedOut else ex := by
  rw [checkBlocked_state]
  exact (wakeDue_rounds now _ sound (List.length_filter_le _ _)).get? pid

/-- What waking the sleepers records. -/
theorem checkBlocked_entries (s : Scheduler) (now left : Nat) :
    (s.checkBlocked now left).entries = (wakeDue now s.timeouts.length s).entries := by
  unfold checkBlocked
  simp only [Logged.bind_entries]
  split <;> exact List.append_nil _

/-- A pending request is answered with the sentinel, once, when sleepers are woken and the clock of
its owner has come; otherwise it is not answered. -/
theorem answersTo_checkBlocked (sound : Moment.Sound ⟨s, [], []⟩) (equipped : Equipped s)
    (now left : Nat) {r : Request} (pending : r ∈ s.requests.pending)
    (found : s.get? r.pid = some ex) :
    answersTo r.id (s.checkBlocked now left).entries =
      if ex.isDue now then [ex.receipt r.id .sentinel] else [] := by
  rw [checkBlocked_entries]
  have rounds := wakeDue_rounds now _ sound (List.length_filter_le _ _)
  exact (rounds.answers equipped).pending r pending ex found

/-- Exactly the requests of the scripts whose clock has come end when sleepers are woken. -/
theorem pending_checkBlocked (sound : Moment.Sound ⟨s, [], []⟩) (now left : Nat) (r : Request) :
    r ∈ (s.checkBlocked now left).value.2.requests.pending ↔
      r ∈ s.requests.pending ∧ ∀ ex, s.get? r.pid = some ex → ex.isDue now = false := by
  have moves : Moves _ _ _ := checkBlocked_moves s trivial now left
  have after : Indexed (s.checkBlocked now left).value.2 :=
    (moves.keeps (P := Moment.Sound) (fun _ _ _ move h => move.sound h) sound).indexed
  have fewer : Thins s (s.checkBlocked now left).value.2 := by
    rw [checkBlocked_state]
    exact thins_wakeDue _ _ _
  have scripts := get?_checkBlocked sound now left r.pid
  constructor
  · intro pending
    refine ⟨fewer.requests.subset pending, ?_⟩
    intro ex found
    cases due : ex.isDue now with
    | false => rfl
    | true =>
      rw [found] at scripts
      simp only [Option.map_some, due, if_true] at scripts
      have held := (after.mem_ids scripts).mpr ⟨r, pending, rfl, rfl⟩
      exact absurd held (by simp [Executor.timedOut, Holder.ids, Holder.empty])
  · rintro ⟨pending, early⟩
    obtain ⟨ex, found⟩ := Option.isSome_iff_exists.mp (sound.indexed.live pending)
    rw [found] at scripts
    simp only [Option.map_some, early ex found] at scripts
    have held : r.id ∈ ex.requests.ids :=
      (sound.indexed.mem_ids found).mpr ⟨r, pending, rfl, rfl⟩
    obtain ⟨other, kept, same, -⟩ := (after.mem_ids scripts).mp held
    rwa [← Holder.eq_of_id sound.indexed.table.nodup (fewer.requests.subset kept) pending same]

end Scheduler

end ScriptScheduler
