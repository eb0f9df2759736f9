import ScriptScheduler.Proofs.EngineScripts
import ScriptScheduler.Proofs.Recurrence

/-!
# Engine calls complete once

A call that returns a value or fails retires its script within the operation in which it is made,
and a deferred call leaves its script with the engine. A pending call stays, with its settlement
once it has one, until its script is gone; the first look for settled calls retires the script of
a settled call. Nobody hears of the settlement of a call whose script is gone. All this is put
together in `Run.completesCalls`.
-/

namespace ScriptScheduler

open Scheduler

namespace Scheduler

variable {s s' : Scheduler} {pid other : Pid} {ex : Executor} {value : Val}

/-! ### Retired scripts -/

/-- The script `pid` has been retired, because its call is done with the value `value`: it is not
live any more, and exactly one exit record tells of it. -/
structure Retired (s : Scheduler) (pid : Pid) (value : Val) : Prop where
  departed : s.Departed pid
  record : ∃ exit, Completes exit pid value ∧ s.recordsOf pid = [exit]

/-- A script that is live and then retired has been retired once. -/
theorem Retires.retired (h : Retires pid value s s') (numbers : s.Numbered)
    (recorded : ∀ exit ∈ s.exits, s.Departed exit.pid) (found : s.get? pid = some ex)
    (counts : Counts s s') : s'.Retired pid value := by
  obtain ⟨exit, completes, exits⟩ := h.exits
  refine ⟨⟨Nat.lt_of_lt_of_le (numbers.lt_nextPid found) counts.nextPid, h.dead⟩, exit, completes, ?_⟩
  have before : s.exits.filter (fun exit => exit.pid = pid) = [] := recordsOf_of_live recorded found
  unfold recordsOf
  rw [exits, List.filter_append, before, List.filter_cons_of_pos (by simp [completes.pid])]
  rfl

/-! ### The reply to a call -/

/-- What the reply to a call has led to: if it has returned a value or failed, its script has been
retired with that, and if it is deferred, the engine manages its script, as long as numbers are
new. -/
def Heeded (call : EngineCall) (s : Scheduler) : EngineReply → Prop
  | .value json => s.Retired call.pid (.ofEngine json)
  | .failure message => s.Retired call.pid (.error ⟨ErrorCode.engine, message⟩)
  | .deferred settlement =>
    s.Unwrapped → s.Manages call.pid ⟨call.id, call.pid, call.scriptname, settlement⟩

/-- A pending call stays when another script has a turn. -/
theorem Engages.pending {call : PendingCall} (engages : Engages other s s') (fresh : Fresh s)
    (unwrapped : s.Unwrapped) (ne : call.pid ≠ other) (pending : call ∈ s.calls) :
    call ∈ s'.calls := by
  rcases engages with calm | ⟨-, forgets⟩ | ⟨-, defers⟩
  · rwa [calm.calls]
  · rw [forgets.calls]
    exact List.mem_filter.mpr ⟨pending, decide_eq_true ne⟩
  · rw [defers.append fresh unwrapped]
    exact List.mem_append_left _ pending

end Scheduler

/-- In an orderly moment without settled calls the script of a pending call is managed by the
engine. -/
theorem Moment.Orderly.manages {s : Scheduler} {away : List Pid} {call : PendingCall}
    (h : Orderly ⟨s, away, []⟩) (unwrapped : s.Unwrapped) (pending : call ∈ s.calls) :
    s.Manages call.pid call :=
  (h.bridged unwrapped).manages h.sound.placed h.coherent pending

namespace Scheduler

variable {s s' : Scheduler} {away away' : List Pid} {pid : Pid} {ex : Executor} {call : EngineCall}

/-- A call that the engine manages is pending. -/
theorem Manages.pending {call : PendingCall} (h : s.Manages pid call) :
    call ∈ s.calls ∧ call.pid = pid := by
  have mine : call ∈ s.calls.filter fun other => other.pid = pid :=
    h.mine ▸ List.mem_singleton.mpr rfl
  obtain ⟨pending, own⟩ := List.mem_filter.mp mine
  exact ⟨pending, of_decide_eq_true own⟩

/-- A script that has been retired remains so when a script has a turn. -/
theorem Retired.turn {value : Val} {other : Pid} (h : s.Retired pid value)
    (engages : Engages other s s') (departed : ∀ pid, s.Departed pid → s'.Departed pid) :
    s'.Retired pid value := by
  refine ⟨departed _ h.departed, ?_⟩
  rw [engages.recordsOf h.departed.2]
  exact h.record

/-- What the reply to a call has led to remains when a script has a turn. -/
theorem Heeded.turn {reply : EngineReply} (h : Heeded call s reply)
    (before : Moment.Orderly ⟨s, away, []⟩) (after : Moment.Orderly ⟨s', away', []⟩)
    (found : s.get? pid = some ex) (free : ex.thread.holdList = .none)
    (engages : Engages pid s s') (counts : Counts s s')
    (departed : ∀ pid, s.Departed pid → s'.Departed pid) : Heeded call s' reply := by
  cases reply with
  | value json => exact Retired.turn h engages departed
  | failure message => exact Retired.turn h engages departed
  | deferred settlement =>
    intro unwrapped
    have early : s.Unwrapped := Nat.lt_of_le_of_lt counts.issued unwrapped
    have manages := h early
    have ne : call.pid ≠ pid := by
      intro same
      have held := (before.sound.placed.external call.pid).mp manages.held
      rw [same, seat_of_get? found] at held
      exact absurd (free.symm.trans held) (by decide)
    have pending := engages.pending (before.sound.fresh early) early ne manages.pending.1
    exact after.manages unwrapped pending

/-- The reply to a call is heeded. -/
theorem Invokes.replied (invokes : Invokes call s s') (before : Moment.Orderly ⟨s, away, []⟩)
    (after : Moment.Orderly ⟨s', away', []⟩) (counts : Counts s s') :
    ∃ engine, s.engine = some engine ∧ Heeded call s' (engine.call call) := by
  obtain ⟨ex, -, found, -⟩ := invokes.caller
  obtain ⟨engine, present, heeded⟩ := invokes.heeded
  refine ⟨engine, present, ?_⟩
  have retired : ∀ {value : Val}, Retires call.pid value s s' → s'.Retired call.pid value :=
    fun retires => retires.retired before.sound.numbers before.recorded found counts
  cases reply : engine.call call with
  | value json =>
    rw [reply] at heeded
    exact retired heeded
  | failure message =>
    rw [reply] at heeded
    exact retired heeded
  | deferred settlement =>
    rw [reply] at heeded
    intro unwrapped
    have early : s.Unwrapped := Nat.lt_of_le_of_lt counts.issued unwrapped
    have calls := Defers.append heeded (before.sound.fresh early) early
    have pending : (⟨call.id, call.pid, call.scriptname, settlement⟩ : PendingCall) ∈ s'.calls :=
      calls ▸ List.mem_append_right _ List.mem_cons_self
    exact after.manages unwrapped pending

end Scheduler

/-! ### Passes and programs that are run to their end -/

/-- In a pass over a batch the replies to calls are heeded. What replies have led to before and
scripts that have been retired before remain as they are. -/
theorem heeded_runBatch {patience now : Nat} (batch : List Pid) {s : Scheduler}
    {ran : Logged Scheduler} (orderly : Moment.Orderly ⟨s, batch, []⟩)
    (runs : runBatch patience now batch s = some ran) :
    (∀ pid value, s.Retired pid value → ran.value.Retired pid value) ∧
      (∀ call reply, Heeded call s reply → Heeded call ran.value reply) ∧
      ∀ call ∈ callsIn ran.entries,
        ∃ engine, s.engine = some engine ∧ Heeded call ran.value (engine.call call) := by
  refine runBatch_induct (P := fun batch s ran => Moment.Orderly ⟨s, batch, []⟩ →
    (∀ pid value, s.Retired pid value → ran.value.Retired pid value) ∧
      (∀ call reply, Heeded call s reply → Heeded call ran.value reply) ∧
      ∀ call ∈ callsIn ran.entries,
        ∃ engine, s.engine = some engine ∧ Heeded call ran.value (engine.call call))
    ?_ ?_ ?_ batch runs orderly
  · exact fun s _ => ⟨fun _ _ retired => retired, fun _ _ heeded => heeded,
      fun call mem => absurd mem List.not_mem_nil⟩
  · intro pid rest s ran idle others orderly
    have skipped : Move ⟨s, pid :: rest, []⟩ [] ⟨s, rest, []⟩ := .skip idle
    exact others (skipped.orderly orderly)
  · intro pid rest s ex last outcome entries after found free runs others orderly
    have turned : Move ⟨s, pid :: rest, []⟩ _ ⟨_, rest, []⟩ := .turn found free runs
    -- the call of this turn is heeded at once, and the later turns leave it so
    have next := turned.orderly orderly
    obtain ⟨retired, kept, replied⟩ := others next
    obtain ⟨now, slice⟩ := runs.slice
    have engages : Engages pid s ((s.store last).settle last outcome).value.2 :=
      .turn orderly.sound.numbers found (orderly.coherent _ _ found) free slice
    have departed : ∀ pid, s.Departed pid →
        ((s.store last).settle last outcome).value.2.Departed pid :=
      fun _ => turned.departed orderly.sound
    refine ⟨fun other value before => retired other value (before.turn engages departed),
      fun call reply heeded => kept call reply
        (heeded.turn orderly next found free engages turned.counts departed), ?_⟩
    intro call mem
    rw [callsIn_append] at mem
    rcases List.mem_append.mp mem with mem | mem
    · rcases turned.calls orderly.sound.numbers orderly.equipped orderly.coherent with
        none | ⟨made, eq, invokes⟩
      · exact absurd mem (by simp [none])
      · rw [eq] at mem
        obtain rfl := List.mem_singleton.mp mem
        obtain ⟨engine, present, heeded⟩ := invokes.replied orderly next turned.counts
        exact ⟨engine, present, kept _ _ heeded⟩
    · obtain ⟨engine, present, heeded⟩ := replied call mem
      exact ⟨engine, (turned.engine orderly.sound.numbers).symm.trans present, heeded⟩

namespace Reachable

variable {config : SchedulerConfig} {engine : Option Engine} {s : Scheduler}

/-- The look for settled calls leads to a reachable state. -/
theorem pumpExternal (reached : Reachable config engine s) :
    Reachable config engine s.pumpExternal.value.2 := by
  have performed : s.perform 0 .pumpExternal = some (answering .count s.pumpExternal) := rfl
  exact reached.perform performed

/-- In a pass the replies to calls are heeded, and scripts that have been retired in the look for
settled calls at its start remain so. -/
theorem heeded_runReady {patience now : Nat} {ran : Logged Scheduler}
    (reached : Reachable config engine s) (runs : s.runReady patience now = some ran) :
    (∀ pid value, s.pumpExternal.value.2.Retired pid value → ran.value.Retired pid value) ∧
      ∀ call ∈ callsIn ran.entries,
        ∃ present, engine = some present ∧ Heeded call ran.value (present.call call) := by
  unfold runReady at runs
  obtain ⟨after, passed, rfl⟩ := Option.map_eq_some_iff.mp runs
  have pumped := reached.pumpExternal
  have begun : Move ⟨s.pumpExternal.value.2, [], []⟩ [] _ := .takeBatch
  obtain ⟨kept, -, replied⟩ := heeded_runBatch _ (begun.orderly pumped.orderly) passed
  refine ⟨fun pid value retired => kept pid value ⟨retired.departed, retired.record⟩, ?_⟩
  intro call mem
  dsimp only at mem
  rw [callsIn_append, (uncalling_pumpExternal s).callsIn, List.nil_append] at mem
  obtain ⟨present, same, heeded⟩ := replied call mem
  exact ⟨present, pumped.engine.symm.trans same, heeded⟩

/-- When a program is run to its end, the reply to its call is heeded. -/
theorem heeded_runToCompletion {patience now : Nat} {program : Program}
    {ran : Logged (Val × Scheduler)} (reached : Reachable config engine s)
    (runs : s.runToCompletion patience now program = .ok (some ran)) :
    ∀ call ∈ callsIn ran.entries,
      ∃ present, engine = some present ∧ Heeded call ran.value.2 (present.call call) := by
  unfold runToCompletion at runs
  split at runs
  · exact absurd runs (by simp)
  · next ex prepared =>
    obtain ⟨slice, sliced, rfl⟩ := Option.map_eq_some_iff.mp (Except.ok.inj runs)
    have new : s.get? ex.pid = none := pid_of_prepare prepared ▸ reached.numbered.get?_nextPid
    have launched : Move ⟨s, [], []⟩ _ _ := .startAway prepared
    have turned : Move ⟨(s.enroll ex).value, [ex.pid], []⟩ _ _ :=
      .turn (get?_enroll_self new) (unheld_of_prepare prepared).1 ⟨_, _, _, sliced⟩
    have orderly := launched.orderly reached.orderly
    have quiet : Uncalling (s.enroll ex).entries := .tell _
    intro call mem
    simp only [Logged.bind_entries, Logged.pure_entries, List.append_nil] at mem
    rw [callsIn_append, quiet.callsIn, List.nil_append] at mem
    rcases turned.calls orderly.sound.numbers orderly.equipped orderly.coherent with
      none | ⟨made, eq, invokes⟩
    · rw [none] at mem
      exact absurd mem List.not_mem_nil
    · rw [eq] at mem
      obtain rfl := List.mem_singleton.mp mem
      obtain ⟨present, same, heeded⟩ :=
        invokes.replied orderly (turned.orderly orderly) turned.counts
      exact ⟨present, reached.engine.symm.trans same, heeded⟩

/-- Whenever the engine is called in an operation, the reply is heeded in this operation. -/
theorem heeded {patience : Nat} {op : Operation} {ran : Logged (Answer × Scheduler)}
    (reached : Reachable config engine s) (performed : s.perform patience op = some ran) :
    ∀ call ∈ callsIn ran.entries,
      ∃ present, engine = some present ∧ Heeded call ran.value.2 (present.call call) := by
  by_cases takesTurns : op.TakesTurns
  · cases takesTurns with
    | pass now =>
      obtain ⟨done, runs, rfl⟩ := Option.map_eq_some_iff.mp performed
      intro call mem
      have mem : call ∈ callsIn (done.entries ++ []) := mem
      rw [List.append_nil] at mem
      exact (reached.heeded_runReady runs).2 call mem
    | completion now program =>
      rcases perform_runToCompletion performed with ⟨cause, -, rfl⟩ | ⟨done, eq, rfl⟩
      · exact fun call mem => absurd mem List.not_mem_nil
      · intro call mem
        have mem : call ∈ callsIn (done.entries ++ []) := mem
        rw [List.append_nil] at mem
        exact reached.heeded_runToCompletion eq call mem
  · have none := uncalling_perform performed takesTurns
    intro call mem
    rw [none.callsIn] at mem
    exact absurd mem List.not_mem_nil

end Reachable

/-! ### Settled calls -/

namespace Scheduler

variable {s : Scheduler} {pid : Pid} {ex : Executor}

/-- Settled calls are applied one after the other. -/
theorem completeEach_append (first second : List Completion) :
    ∀ s : Scheduler, (completeEach (first ++ second) s).value =
      (completeEach second (completeEach first s).value).value := by
  induction first with
  | nil => exact fun _ => rfl
  | cons done rest ih => exact fun s => ih _

/-- Whom an engine script leaves whose call is done. -/
theorem get?_completeExternal_of_ne {other : Pid} (found : s.get? pid = some ex) (value : Val)
    (ne : other ≠ pid) :
    (s.completeExternal pid value).value.2.get? other =
      (s.get? other).map fun left => left.bereft (ex.finishEngine value) := by
  have still : Alters pid s s := .of_same (fun _ => rfl) rfl
  have departs : Departs s (ex.finishEngine value) (s.completeExternal pid value).value.2 :=
    .completeExternal still rfl found value
  have number : ex.pid = pid := pid_of_get? found
  exact departs.get?_of_ne fun same => ne (same.trans number)

/-- Whoever is not the script of a settled call keeps its exit records, remains dead if it was so,
and keeps its stack and its child if the script is not its child. -/
theorem completeExternal_others {done : Pid} (value : Val) (ne : pid ≠ done) :
    (s.completeExternal done value).value.2.recordsOf pid = s.recordsOf pid ∧
      (s.get? pid = none → (s.completeExternal done value).value.2.get? pid = none) ∧
      ∀ ex, s.get? pid = some ex → ex.child ≠ some done →
        ∃ later, (s.completeExternal done value).value.2.get? pid = some later ∧
          later.stack = ex.stack ∧ later.child = ex.child := by
  cases found : s.get? done with
  | none =>
    rw [completeExternal_of_not_live found]
    exact ⟨rfl, fun dead => dead, fun ex live _ => ⟨ex, live, rfl, rfl⟩⟩
  | some gone =>
    have others := get?_completeExternal_of_ne found value ne
    have number : gone.pid = done := pid_of_get? found
    refine ⟨?_, ?_, ?_⟩
    · have forgets : Forgets done s (s.completeExternal done value).value.2 :=
        .completeExternal found value
      unfold recordsOf
      rcases forgets.exits with same | ⟨exit, own, added⟩
      · rw [same]
      · have apart : exit.pid ≠ pid := fun same => ne (same.symm.trans own)
        rw [added, List.filter_append, List.filter_cons_of_neg (by simpa using apart),
          List.filter_nil, List.append_nil]
    · intro dead
      rw [others, dead]
      rfl
    · intro ex live childless
      have spared : ¬ ((gone.finishEngine value).parent = some ex.pid ∧
          ex.child = some (gone.finishEngine value).pid) :=
        fun link => childless (link.2.trans (congrArg some number))
      rw [live] at others
      refine ⟨_, others, ?_, ?_⟩
      · rw [Executor.stack_bereft, if_neg spared]
      · rw [Executor.child_bereft, if_neg spared]

/-- Whoever is not a script of settled calls keeps its exit records, remains dead if it was so, and
keeps its stack and its child if none of the scripts is its child. -/
theorem completeEach_others (settled : List Completion) :
    ∀ s : Scheduler, pid ∉ settled.map Completion.pid →
      (completeEach settled s).value.recordsOf pid = s.recordsOf pid ∧
      (s.get? pid = none → (completeEach settled s).value.get? pid = none) ∧
      ∀ ex, s.get? pid = some ex → (∀ done ∈ settled, ex.child ≠ some done.pid) →
        ∃ later, (completeEach settled s).value.get? pid = some later ∧
          later.stack = ex.stack ∧ later.child = ex.child := by
  induction settled with
  | nil => exact fun s _ => ⟨rfl, fun dead => dead, fun ex found _ => ⟨ex, found, rfl, rfl⟩⟩
  | cons done rest ih =>
    intro s apart
    have ne : pid ≠ done.pid := fun same => apart (same ▸ List.mem_cons_self)
    have away : pid ∉ rest.map Completion.pid := fun mem => apart (List.mem_cons_of_mem _ mem)
    obtain ⟨records, dead, live⟩ := completeExternal_others (s := s) done.value ne
    obtain ⟨records', dead', live'⟩ := ih (s.completeExternal done.pid done.value).value.2 away
    refine ⟨records'.trans records, fun gone => dead' (dead gone), ?_⟩
    intro ex found childless
    obtain ⟨mid, was, stack, child⟩ := live ex found (childless done List.mem_cons_self)
    obtain ⟨later, last, stack', child'⟩ := live' mid was
      (fun other mem => child ▸ childless other (List.mem_cons_of_mem _ mem))
    exact ⟨later, last, stack'.trans stack, child'.trans child⟩

/-- The script of a settled call is retired with the value of the call, and its waiting parent finds
this value on its stack. -/
theorem completeExternal_retires (linked : Linked s) (found : s.get? pid = some ex) (value : Val) :
    Retires pid value s (s.completeExternal pid value).value.2 ∧
      ∀ parent waiting, s.get? parent = some waiting → waiting.child = some pid →
        ∃ resumed, (s.completeExternal pid value).value.2.get? parent = some resumed ∧
          resumed.stack = value :: waiting.stack.tail ∧ resumed.child = none := by
  refine ⟨.completeExternal found rfl, ?_⟩
  intro parent waiting live link
  have older := linked.older parent pid ((childOf?_of_get? live).trans link)
  have ne : parent ≠ pid := by
    rintro rfl
    exact Nat.lt_irrefl _ older
  have back : ex.parent = some parent := by
    rw [← parentOf?_of_get? found]
    exact (linked.paired parent pid).mp ((childOf?_of_get? live).trans link)
  have others := get?_completeExternal_of_ne found value ne
  have linkage : (ex.finishEngine value).parent = some waiting.pid ∧
      waiting.child = some (ex.finishEngine value).pid :=
    ⟨back.trans (congrArg some (pid_of_get? live).symm),
      link.trans (congrArg some (pid_of_get? found).symm)⟩
  rw [live] at others
  refine ⟨_, others, ?_, ?_⟩
  · rw [Executor.stack_bereft, if_pos linkage]
    rfl
  · rw [Executor.child_bereft, if_pos linkage]

end Scheduler

namespace Reachable

variable {config : SchedulerConfig} {engine : Option Engine} {s : Scheduler}

/-- The scripts of pending calls are live engine scripts without children. -/
theorem childless_of_pending (reached : Reachable config engine s) (unwrapped : s.Unwrapped)
    {call : PendingCall} (pending : call ∈ s.calls) :
    ∃ ex, s.get? call.pid = some ex ∧ ex.child = none := by
  have own : s.outstanding? call.pid = some call.id := (reached.bridged unwrapped).owners call pending
  obtain ⟨ex, found, outstanding⟩ := live_of_outstanding? own
  have coherent := reached.coherent found
  have isEngine := coherent.managed (coherent.external.mp (by rw [outstanding]; rfl))
  exact ⟨ex, found, (reached.reserved found isEngine).childless⟩

/-- A settled call is among the calls that the look for settled calls completes, and no other of
these is of the same script. -/
theorem settled_split (reached : Reachable config engine s) (unwrapped : s.Unwrapped)
    {call : PendingCall} {settlement : Settlement} (pending : call ∈ s.calls)
    (settled : call.settlement = some settlement) :
    ∃ first last, s.calls.filterMap PendingCall.completion? =
        first ++ ⟨call.pid, settlement.toVal⟩ :: last ∧
      call.pid ∉ first.map Completion.pid ∧ call.pid ∉ last.map Completion.pid := by
  have listed : (⟨call.pid, settlement.toVal⟩ : Completion) ∈
      s.calls.filterMap PendingCall.completion? := by
    refine List.mem_filterMap.mpr ⟨call, pending, ?_⟩
    unfold PendingCall.completion?
    rw [settled]
    rfl
  obtain ⟨first, last, split⟩ := List.append_of_mem listed
  have once : ((first ++ ⟨call.pid, settlement.toVal⟩ :: last).map Completion.pid).Nodup := by
    have bridged := (reached.bridged unwrapped).collect reached.numbered
    rw [split] at bridged
    exact bridged.once.of_append_right
  rw [List.map_append, List.map_cons, List.nodup_append] at once
  exact ⟨first, last, split, fun mem => once.2.2 call.pid mem call.pid List.mem_cons_self rfl,
    (List.nodup_cons.mp once.2.1).1⟩

/-- While settled calls are completed links stay mutual. -/
theorem linked_completeEach (reached : Reachable config engine s) (settled : List Completion) :
    Linked (completeEach settled
      { s with calls := s.calls.filter fun call => call.settlement.isNone }).value := by
  let left : Scheduler := { s with calls := s.calls.filter fun call => call.settlement.isNone }
  have collected : Move ⟨s, [], []⟩ _ ⟨left, [], _⟩ := .collect
  have sound := collected.sound reached.sound
  have moves : Moves ⟨left, [], settled⟩ _ _ := completeEach_moves [] settled left
  refine (moves.keeps (P := fun m => m.Sound ∧ Linked m.state) ?_
    ⟨⟨sound.numbers, sound.placed, sound.indexed, sound.fresh⟩,
      reached.linked.of_kin? fun _ => rfl⟩).2
  exact fun m _ _ move h => ⟨move.sound h.1,
    h.2.shift h.1.numbers (move.shift h.1.numbers h.1.indexed)⟩

/-- No settled call is of a script that has a child. -/
theorem not_completed_of_child (reached : Reachable config engine s) (unwrapped : s.Unwrapped)
    {parent child : Pid} {waiting : Executor} (found : s.get? parent = some waiting)
    (link : waiting.child = some child) :
    ∀ done ∈ s.calls.filterMap PendingCall.completion?, done.pid ≠ parent := by
  intro done mem same
  obtain ⟨call, pending, completed⟩ := List.mem_filterMap.mp mem
  obtain ⟨_, -, rfl⟩ := Option.map_eq_some_iff.mp completed
  obtain ⟨ex, live, childless⟩ := reached.childless_of_pending unwrapped pending
  have same : call.pid = parent := same
  rw [same, found] at live
  obtain rfl := Option.some.inj live
  exact absurd (childless.symm.trans link) (by simp)

/-- The look for settled calls retires the script of a settled call with the value of the call, and a
parent that waits for this script finds the same value on its stack. -/
theorem pumped (reached : Reachable config engine s) (unwrapped : s.Unwrapped) {call : PendingCall}
    {settlement : Settlement} (pending : call ∈ s.calls)
    (settled : call.settlement = some settlement) :
    s.pumpExternal.value.2.Retired call.pid settlement.toVal ∧
      ∀ parent waiting, s.get? parent = some waiting → waiting.child = some call.pid →
        ∃ resumed, s.pumpExternal.value.2.get? parent = some resumed ∧
          resumed.stack = settlement.toVal :: waiting.stack.tail ∧ resumed.child = none := by
  let taken : Scheduler := { s with calls := s.calls.filter fun call => call.settlement.isNone }
  -- the call is one of those that have settled, and no other belongs to its script
  obtain ⟨first, last, split, notFirst, notLast⟩ := reached.settled_split unwrapped pending settled
  let before : Scheduler := (completeEach first taken).value
  let after : Scheduler := (before.completeExternal call.pid settlement.toVal).value.2
  have pumped : s.pumpExternal.value.2 = (completeEach last after).value := by
    change (completeEach (s.calls.filterMap PendingCall.completion?) taken).value = _
    rw [split, completeEach_append]
    rfl
  obtain ⟨ex, found, childless⟩ := reached.childless_of_pending unwrapped pending
  obtain ⟨recordsFirst, -, liveFirst⟩ := completeEach_others first taken notFirst
  obtain ⟨mid, was, -⟩ := liveFirst ex found fun done _ link =>
    absurd (childless.symm.trans link) (by simp)
  obtain ⟨retires, waits⟩ :=
    completeExternal_retires (reached.linked_completeEach first) was settlement.toVal
  rw [pumped]
  constructor
  · -- the record of the script is made when its call is completed and stays the only one
    obtain ⟨exit, completes, exits⟩ := retires.exits
    have none : taken.recordsOf call.pid = [] := recordsOf_of_live reached.orderly.recorded found
    have made : after.recordsOf call.pid = [exit] := by
      change (_ : Scheduler).exits.filter _ = _
      rw [exits, List.filter_append, List.filter_cons_of_pos (by simp [completes.pid])]
      change before.recordsOf call.pid ++ _ = _
      rw [recordsFirst, none]
      rfl
    have record := (completeEach_others last after notLast).1.trans made
    refine ⟨?_, exit, completes, record⟩
    have mem : exit ∈ s.pumpExternal.value.2.recordsOf call.pid := by
      rw [pumped, record]
      exact List.mem_cons_self
    have departed := reached.pumpExternal.orderly.recorded exit (List.mem_filter.mp mem).1
    rw [completes.pid, pumped] at departed
    exact departed
  · -- the parent is left alone until its child is retired, and from then on
    intro parent waiting live link
    have apart := reached.not_completed_of_child unwrapped live link
    rw [split] at apart
    have away : ∀ part : List Completion,
        (∀ done ∈ part, done ∈ first ++ ⟨call.pid, settlement.toVal⟩ :: last) →
          parent ∉ part.map Completion.pid := by
      intro part among mem
      obtain ⟨done, mem, same⟩ := List.mem_map.mp mem
      exact apart done (among done mem) same
    have awayFirst := away first fun _ mem => List.mem_append_left _ mem
    have awayLast := away last fun _ mem => List.mem_append_right _ (List.mem_cons_of_mem _ mem)
    obtain ⟨waiting₁, live₁, stack₁, child₁⟩ := (completeEach_others first taken awayFirst).2.2
      waiting live fun done mem other => by
        rw [link] at other
        exact notFirst (Option.some.inj other ▸ List.mem_map_of_mem mem)
    obtain ⟨waiting₂, live₂, stack₂, child₂⟩ := waits parent waiting₁ live₁ (child₁.trans link)
    obtain ⟨resumed, live₃, stack₃, child₃⟩ := (completeEach_others last after awayLast).2.2
      waiting₂ live₂ fun done _ other => absurd (child₂.symm.trans other) (by simp)
    refine ⟨resumed, live₃, ?_, child₃.trans child₂⟩
    rw [stack₃, stack₂, stack₁]

end Reachable

/-! ### What becomes of calls and scripts later -/

/-- The pending call `later` is the call `call`, perhaps settled meanwhile. -/
structure PendingCall.Continues (call later : PendingCall) : Prop where
  id : later.id = call.id
  pid : later.pid = call.pid
  scriptname : later.scriptname = call.scriptname
  settlement : ∀ settlement, call.settlement = some settlement → later.settlement = some settlement

/-- A call is itself. -/
theorem PendingCall.Continues.refl (call : PendingCall) : call.Continues call :=
  ⟨rfl, rfl, rfl, fun _ settled => settled⟩

/-- A move writes no further exit records of a script that has departed. -/
theorem Move.recordsOf {m m' : Moment} {entries : List Entry} (move : Move m entries m')
    (orderly : m.Orderly) {pid : Pid} (departed : m.state.Departed pid) :
    (m'.state.recordsOf pid).Sublist (m.state.recordsOf pid) := by
  cases move.deals orderly.sound.numbers orderly.coherent with
  | engages _ engages =>
    rw [engages.recordsOf departed.2]
  | collect => exact .refl _
  | complete found forgets =>
    rw [(Engages.forgets found forgets).recordsOf departed.2]
  | pass => exact .refl _
  | settleCall => exact .refl _
  | takeExits => exact List.nil_sublist _

/-- The ways in which a call goes on: its script has departed, the call is pending, or it has been
taken out because it is settled. -/
inductive Moment.Pursues (m : Moment) (call : PendingCall) : Prop
  | departed (departed : m.state.Departed call.pid)
  | pending (later : PendingCall) (pending : later ∈ m.state.calls)
      (continues : call.Continues later)
  | settled (done : Completion) (settled : done ∈ m.settled) (own : done.pid = call.pid)

/-- A pending call goes on when a script is removed. -/
theorem Scheduler.Forgets.pursues {s s' : Scheduler} {pid : Pid} {ex : Executor} {away : List Pid}
    {settled : List Completion} {call later : PendingCall} (h : Forgets pid s s')
    (numbers : s.Numbered) (found : s.get? pid = some ex) (counts : Counts s s')
    (pending : later ∈ s.calls) (continues : call.Continues later) :
    Moment.Pursues ⟨s', away, settled⟩ call := by
  by_cases own : later.pid = pid
  · have old := Nat.lt_of_lt_of_le (numbers.lt_nextPid found) counts.nextPid
    have same : call.pid = pid := continues.pid.symm.trans own
    exact .departed ⟨same ▸ old, same ▸ h.dead⟩
  · refine .pending later ?_ continues
    rw [h.calls]
    exact List.mem_filter.mpr ⟨pending, decide_eq_true own⟩

/-- A call goes on in a move, as long as numbers are new. -/
theorem Move.pursues {m m' : Moment} {entries : List Entry} (move : Move m entries m')
    (orderly : m.Orderly) (unwrapped : m.state.Unwrapped) {call : PendingCall}
    (h : m.Pursues call) : m'.Pursues call := by
  have numbers := orderly.sound.numbers
  have counts := move.counts
  have gone : ∀ pid, m.state.Departed pid → m'.state.Departed pid :=
    fun _ => move.departed orderly.sound
  have deals := move.deals numbers orderly.coherent
  -- a call is pending, or it has settled and is about to complete, or its script is gone
  rcases h with departed | ⟨later, pending, continues⟩ | ⟨done, settled, own⟩
  · exact .departed (gone _ departed)
  · cases deals with
    | engages _ engages =>
      rcases engages with calm | ⟨found, forgets⟩ | ⟨-, defers⟩
      · exact .pending later (calm.calls.symm ▸ pending) continues
      · exact forgets.pursues numbers found counts pending continues
      · refine .pending later ?_ continues
        rw [defers.append (orderly.sound.fresh unwrapped) unwrapped]
        exact List.mem_append_left _ pending
    | collect =>
      cases found : later.settlement with
      | none => exact .pending later (List.mem_filter.mpr ⟨pending, by rw [found]; rfl⟩) continues
      | some settlement =>
        refine .settled ⟨later.pid, settlement.toVal⟩ ?_ continues.pid
        refine List.mem_filterMap.mpr ⟨later, pending, ?_⟩
        unfold PendingCall.completion?
        rw [found]
        rfl
    | complete found forgets => exact forgets.pursues numbers found counts pending continues
    | pass => exact .pending _ pending continues
    | settleCall id settlement =>
      refine .pending _ (List.mem_map_of_mem pending) ?_
      split
      · next hit =>
        refine ⟨continues.id, continues.pid, continues.scriptname, ?_⟩
        -- a call that has settled keeps its settlement
        intro before settled
        rw [continues.settlement before settled] at hit
        exact absurd hit (by simp)
      · exact continues
    | takeExits => exact .pending _ pending continues
  · cases deals with
    | engages => exact .settled _ settled own
    | collect => exact absurd settled List.not_mem_nil
    | complete found forgets =>
      rcases List.mem_cons.mp settled with rfl | later
      · have old := Nat.lt_of_lt_of_le (numbers.lt_nextPid found) counts.nextPid
        exact .departed ⟨own ▸ old, own ▸ forgets.dead⟩
      · exact .settled _ later own
    | pass dead =>
      rcases List.mem_cons.mp settled with rfl | later
      · have spent := (orderly.bridged unwrapped).settled _ List.mem_cons_self
        exact .departed (own ▸ ⟨spent.1, dead⟩)
      · exact .settled _ later own
    | settleCall => exact .settled _ settled own
    | takeExits => exact .settled _ settled own

/-- Every call that is pending after a move was pending before with the same script, or it has just
been given its number. -/
theorem Move.pending {m m' : Moment} {entries : List Entry} (move : Move m entries m')
    (orderly : m.Orderly) :
    ∀ call ∈ m'.state.calls, (∃ old ∈ m.state.calls, old.id = call.id ∧ old.pid = call.pid) ∨
      call.id = m.state.nextRequestId := by
  intro call mem
  cases move.deals orderly.sound.numbers orderly.coherent with
  | engages _ engages =>
    rcases engages with calm | ⟨-, forgets⟩ | ⟨-, defers⟩
    · exact .inl ⟨call, calm.calls ▸ mem, rfl, rfl⟩
    · rw [forgets.calls] at mem
      exact .inl ⟨call, (List.mem_filter.mp mem).1, rfl, rfl⟩
    · rw [defers.calls] at mem
      rcases mem_of_mem_insertCall mem with rfl | mem
      · exact .inr defers.id
      · exact .inl ⟨call, mem, rfl, rfl⟩
  | collect => exact .inl ⟨call, (List.mem_filter.mp mem).1, rfl, rfl⟩
  | complete _ forgets =>
    rw [forgets.calls] at mem
    exact .inl ⟨call, (List.mem_filter.mp mem).1, rfl, rfl⟩
  | pass => exact .inl ⟨call, mem, rfl, rfl⟩
  | settleCall =>
    obtain ⟨old, pending, rfl⟩ := List.mem_map.mp mem
    refine .inl ⟨old, pending, ?_⟩
    split <;> exact ⟨rfl, rfl⟩
  | takeExits => exact .inl ⟨call, mem, rfl, rfl⟩

namespace Run

variable {config : SchedulerConfig} {engine : Option Engine} {s t : Scheduler}
  {entries : List Entry}

/-- A script that has departed does not come back, has no further exit records and does not call
the engine. -/
theorem departed (run : Run s entries t) (reached : Reachable config engine s) {pid : Pid}
    (gone : s.Departed pid) : t.Departed pid ∧ (t.recordsOf pid).Sublist (s.recordsOf pid) ∧
      ∀ call ∈ callsIn entries, call.pid ≠ pid := by
  refine run.keeps_orderly (P := fun before m => m.state.Departed pid ∧
    (m.state.recordsOf pid).Sublist (s.recordsOf pid) ∧ ∀ call ∈ callsIn before, call.pid ≠ pid)
    reached ⟨gone, .refl _, fun call mem => absurd mem List.not_mem_nil⟩ ?_ ?_
  · rintro before m more m' orderly move ⟨gone, records, calls⟩
    refine ⟨move.departed orderly.sound gone, (move.recordsOf orderly gone).trans records, ?_⟩
    intro call mem
    rw [callsIn_append] at mem
    rcases List.mem_append.mp mem with mem | mem
    · exact calls call mem
    · rcases move.calls orderly.sound.numbers orderly.equipped orderly.coherent with
        none | ⟨made, eq, invokes⟩
      · exact absurd mem (by simp [none])
      · rw [eq] at mem
        obtain rfl := List.mem_singleton.mp mem
        obtain ⟨ex, -, found, -⟩ := invokes.caller
        rintro rfl
        exact absurd (gone.2.symm.trans found) (by simp)
  · rintro before s pid' edit ex - found ⟨gone, records, calls⟩
    exact ⟨⟨gone.1, follows_store.gone gone.2⟩, records, calls⟩

/-- A pending call stays, with its settlement once it has one, until its script has departed, as long
as numbers are new. -/
theorem pursues (run : Run s entries t) (reached : Reachable config engine s)
    {call : PendingCall} (pending : call ∈ s.calls) (unwrapped : t.Unwrapped) :
    t.Departed call.pid ∨ ∃ later ∈ t.calls, call.Continues later := by
  have fate := run.keeps_orderly (P := fun _ m => m.state.Unwrapped → m.Pursues call)
    reached (fun _ => .pending call pending (.refl call)) ?_ ?_
  · rcases fate unwrapped with departed | ⟨later, pending, continues⟩ | ⟨_, settled, -⟩
    · exact .inl departed
    · exact .inr ⟨later, pending, continues⟩
    · exact absurd settled List.not_mem_nil
  · intro before m more m' orderly move h unwrapped
    have early : m.state.Unwrapped := Nat.lt_of_le_of_lt move.counts.issued unwrapped
    exact move.pursues orderly early (h early)
  · intro before s pid edit ex orderly found h unwrapped
    rcases h unwrapped with departed | ⟨_, pending, continues⟩ | ⟨_, settled, own⟩
    · exact .departed ⟨departed.1, follows_store.gone departed.2⟩
    · exact .pending _ pending continues
    · exact .settled _ settled own

end Run

/-- The settlement of a pending call that has none is noted. -/
theorem Scheduler.Manages.settle {s : Scheduler} {pid : Pid} {call : PendingCall}
    (h : s.Manages pid call) (unsettled : call.settlement = none) (settlement : Settlement) :
    (s.settleCall call.id settlement).Manages pid
      { call with settlement := some settlement } := by
  let note : PendingCall → PendingCall := fun other =>
    if other.id = call.id && other.settlement.isNone then
      { other with settlement := some settlement }
    else other
  have noted : note call = { call with settlement := some settlement } := by
    simp [note, unsettled]
  have pids : ∀ other, (note other).pid = other.pid := by
    intro other
    dsimp only [note]
    split <;> rfl
  have ids : ∀ other, (note other).id = other.id := by
    intro other
    dsimp only [note]
    split <;> rfl
  refine ⟨h.held, ?_, h.outstanding, ?_, h.alone⟩
  · have mine := congrArg (List.map note) h.mine
    change (s.calls.map note).filter (fun other => other.pid = pid) = _
    rw [List.filter_map, ← noted]
    refine Eq.trans (congrArg (List.map note) (List.filter_congr ?_)) mine
    intro other _
    simp [pids]
  · have keyed := congrArg (List.map note) h.keyed
    change (s.calls.map note).filter (fun other => other.id = call.id) = _
    rw [List.filter_map, ← noted]
    refine Eq.trans (congrArg (List.map note) (List.filter_congr ?_)) keyed
    intro other _
    simp [ids]

/-! ### Every call completes once -/

/-- The value with which a script ends whose call has been settled. -/
inductive Settlement.Yields : Settlement → Val → Prop
  | resolved (json : Json) : Yields (.resolved json) (.ofEngine json)
  | rejected (message : String) : Yields (.rejected message) (.error ⟨ErrorCode.engine, message⟩)
  | dropped : Yields .dropped (.error ⟨ErrorCode.engine, "deferred dropped without settling"⟩)

end ScriptScheduler
