/-
**What pruning leaves is enough.**

After a flush an aggregate item keeps one sample from before the next interval, and drops what
precedes it.

* `pushed`, `notifyDataValue_buffer` — what a notification adds to the buffer;
* `pruning_changes_nothing` — so every flush of a run emits what it would from the whole history.
-/

import AsyncOpcua.Aggregates.FlushedIntervals
import AsyncOpcua.Subscriptions.SkippedSamples

namespace AsyncOpcua.Aggregates

open Foundation List
open Types
open Subscriptions

variable {E : Externals}

/-! ### Notifications -/

/-- **The samples that a notification adds:** one that was parked and is passed on, and the new one,
each cut to the index range. -/
def pushed (item : MonitoredItem E) (value : E.DataValue) (now : ℤ) : List E.DataValue :=
  if item.monitoringMode = .disabled then []
  else
    (match item.sampleSkippedDataValue with
      | some skipped =>
        if MonitoredItem.usable skipped value now then [item.applyIndexRange skipped] else []
      | none => []) ++ [item.applyIndexRange value]

/-- What a notification does to an aggregate item, as far as its intervals are concerned. -/
structure Added (before : MonitoredItem E) (samples : List E.DataValue) (after : MonitoredItem E) :
    Prop where
  filter : after.filter = before.filter
  watches : after.itemToMonitor = before.itemToMonitor
  due : after.aggregateNextDeadline = before.aggregateNextDeadline
  buffer : after.aggregateBuffer = before.aggregateBuffer ++ samples

theorem Added.trans {before middle after : MonitoredItem E} {first second : List E.DataValue}
    (earlier : Added before first middle) (later : Added middle second after) :
    Added before (first ++ second) after where
  filter := later.filter.trans earlier.filter
  watches := later.watches.trans earlier.watches
  due := later.due.trans earlier.due
  buffer := by rw [later.buffer, earlier.buffer, append_assoc]

section Notifications

variable {item : MonitoredItem E} {agg : ParsedAggregateFilter E}
  (aggregates : item.filter = .aggregateFilter agg)
include aggregates

theorem acceptDataValue_added (value : E.DataValue) (now : ℤ)
    (fromSubscriptionTick extraEnqueued : Bool) :
    Added item [item.applyIndexRange value]
      (item.acceptDataValue value now fromSubscriptionTick extraEnqueued).2 := by
  have taken : item.filter.isAggregate = true := by
    rw [aggregates]
    rfl
  unfold MonitoredItem.acceptDataValue
  simp only [taken, if_true]
  exact ⟨rfl, rfl, rfl, rfl⟩

theorem passOn_added (skipped : E.DataValue) (now : ℤ) :
    Added item [item.applyIndexRange skipped] (item.passOn skipped now false).2 := by
  unfold MonitoredItem.passOn
  split_ifs
  · unfold MonitoredItem.withheldSemanticsChanged
    have accepted := @acceptDataValue_added E { item.unparked with semanticsChanged := false } agg
      aggregates skipped now false false
    exact ⟨accepted.filter, accepted.watches, accepted.due, accepted.buffer⟩
  · have accepted := @acceptDataValue_added E item.unparked agg aggregates skipped now false false
    exact ⟨accepted.filter, accepted.watches, accepted.due, accepted.buffer⟩

theorem reportSkipped_added (value : E.DataValue) (now : ℤ) :
    Added item
      (match item.sampleSkippedDataValue with
        | some skipped =>
          if MonitoredItem.usable skipped value now then [item.applyIndexRange skipped] else []
        | none => [])
      (item.reportSkipped value now).2 := by
  unfold MonitoredItem.reportSkipped
  cases item.sampleSkippedDataValue with
  | none => exact ⟨rfl, rfl, rfl, (append_nil _).symm⟩
  | some skipped =>
    dsimp only
    split_ifs
    · exact passOn_added aggregates skipped now
    · exact ⟨rfl, rfl, rfl, (append_nil _).symm⟩

/-- **A notification adds to the buffer** and leaves the deadline. -/
theorem notifyDataValue_added (value : E.DataValue) (now : ℤ) :
    Added item (pushed item value now) (item.notifyDataValue value now false).2 := by
  rw [MonitoredItem.notifyDataValue_eq, pushed]
  split_ifs with disabled
  · exact ⟨rfl, rfl, rfl, (append_nil _).symm⟩
  · have reported := reportSkipped_added aggregates value now
    have accepted := acceptDataValue_added (reported.filter.trans aggregates) value now false
      (item.reportSkipped value now).1
    have sameRange : (item.reportSkipped value now).2.applyIndexRange value =
        item.applyIndexRange value := by
      unfold MonitoredItem.applyIndexRange
      rw [reported.watches]
    rw [sameRange] at accepted
    exact reported.trans accepted

end Notifications

/-! ### Later intervals -/

/-- The interval before a deadline is as long as the one after it: `as i64` rounds towards zero, and
its least value is one further out than its greatest. -/
def Mirrored (agg : ParsedAggregateFilter E) : Prop :=
  E.micros (E.neg agg.processingInterval) = -E.micros agg.processingInterval ∨
    E.micros agg.processingInterval = 2 ^ 63 - 1 ∧
      E.micros (E.neg agg.processingInterval) = -2 ^ 63

section Later

variable {agg : ParsedAggregateFilter E} {previous later : ℤ}

theorem intervalStart_le (mirrored : Mirrored agg) (positive : 0 < intervalStep agg)
    (early : minUtc ≤ previous) (inside : later ≤ maxUtc)
    (reached : later = previous + intervalStep agg ∨
      previous + intervalStep agg + intervalStep agg ≤ later) :
    intervalStart agg (previous + intervalStep agg) ≤ intervalStart agg later := by
  rcases reached with rfl | beyond
  · exact le_refl _
  · unfold intervalStart addMillis checkedAddSigned
    unfold intervalStep at *
    unfold minUtc at *
    unfold maxUtc at *
    rcases mirrored with same | ⟨most, least⟩
    · rw [same]
      rw [if_pos (by omega), if_pos (by omega)]
      simp only [dateTimeFrom]
      omega
    · -- Two intervals of the greatest length are longer than all of chrono's time.
      rw [most] at beyond
      omega

theorem intervalStart_le_self (mirrored : Mirrored agg) (positive : 0 < intervalStep agg)
    (e : ℤ) : intervalStart agg e ≤ e := by
  unfold intervalStart addMillis checkedAddSigned
  unfold intervalStep at positive
  rcases mirrored with same | ⟨-, least⟩
  · rw [same]
    split_ifs <;> simp only [dateTimeFrom] <;> omega
  · rw [least]
    split_ifs <;> simp only [dateTimeFrom] <;> omega

theorem liveInput_append {dropped buffer : List E.DataValue} {bound e : ℤ}
    (timed : Timed (dropped ++ buffer)) (ordered : Nondecreasing sampleTime (dropped ++ buffer))
    (droppable : Droppable sampleTime bound dropped buffer) (later : bound ≤ intervalStart agg e)
    (forward : intervalStart agg e ≤ e) :
    liveInput agg (dropped ++ buffer) e = liveInput agg buffer e := by
  have droppable := droppable.mono later
  have timedBuffer : Timed buffer := fun value member =>
    timed value (mem_append_right _ member)
  rw [liveInput, liveInput, splitAt_eq timed forward, splitAt_eq timedBuffer forward,
    lastBefore_append droppable, firstAfter_append forward droppable ordered,
    filter_append_of_late droppable ordered fun value inside => (of_decide_eq_true inside).1]

end Later

/-! ### The invariant of an item -/

/-- A ghost account of a run: the samples so far, and the ends of the intervals emitted so far. -/
structure Account (E : Externals) where
  history : List E.DataValue
  ends : List ℤ

/-- What an operation adds to the account. -/
def accountOp (account : Account E) (item : MonitoredItem E) (op : AggregateOp E)
    (_after : MonitoredItem E) : Account E :=
  match op with
  | .notify value now => { account with history := account.history ++ pushed item value now }
  | .flush now =>
    { account with
      ends := account.ends ++
        ((emitted item now).elim [] fun (produced, _) => produced.map sampleTime) }

def endAt (agg : ParsedAggregateFilter E) (first : ℤ) (n : ℕ) : ℤ := first + n * intervalStep agg

/-- **The buffer is the history less what may be dropped,** and the intervals emitted so far end one
step apart. Nothing has been dropped before the first of them. -/
structure Pruned (agg : ParsedAggregateFilter E) (first : ℤ) (item : MonitoredItem E)
    (account : Account E) : Prop where
  filter : item.filter = .aggregateFilter agg
  due : item.aggregateNextDeadline = some (endAt agg first account.ends.length)
  ends : account.ends = (range account.ends.length).map (endAt agg first)
  forward : account.ends ≠ [] → 0 < intervalStep agg
  buffer : ∃ dropped, account.history = dropped ++ item.aggregateBuffer ∧
    (dropped ≠ [] → account.ends ≠ []) ∧
    Droppable sampleTime (intervalStart agg (endAt agg first account.ends.length)) dropped
      item.aggregateBuffer

section Runs

variable {agg : ParsedAggregateFilter E} {first : ℤ} {item : MonitoredItem E} {account : Account E}

theorem endAt_succ (n : ℕ) : endAt agg first (n + 1) = endAt agg first n + intervalStep agg := by
  unfold endAt
  push_cast
  ring

theorem endAt_add (n i : ℕ) :
    endAt agg first (n + i) = endAt agg first n + (i : ℤ) * intervalStep agg := by
  unfold endAt
  push_cast
  ring

theorem WholeTicks.endAt (whole : WholeTicks first) (n : ℕ) : WholeTicks (endAt agg first n) := by
  unfold WholeTicks dateTimeFrom at *
  unfold Aggregates.endAt intervalStep
  have steps : (n : ℤ) * (E.micros agg.processingInterval * 1000) =
      n * (E.micros agg.processingInterval * 10) * 100 := by ring
  rw [steps]
  omega

/-- **No interval starts before the next one,** once the first has been emitted. -/
theorem intervalStart_endAt_le (mirrored : Mirrored agg) (positive : 0 < intervalStep agg)
    (whole : WholeTicks first) (early : minUtc ≤ first) (n more : ℕ)
    (inside : endAt agg first (n + 1 + more) ≤ maxUtc) :
    intervalStart agg (endAt agg first (n + 1)) ≤
      intervalStart agg (endAt agg first (n + 1 + more)) := by
  have after : minUtc ≤ endAt agg first n := by
    have := mul_nonneg (Int.natCast_nonneg n) (le_of_lt positive)
    unfold endAt
    omega
  rw [endAt_add (n + 1) more, endAt_succ] at inside ⊢
  refine intervalStart_le mirrored positive after inside ?_
  cases more with
  | zero => exact .inl (by simp)
  | succ more =>
    have := mul_nonneg (Int.natCast_nonneg more) (le_of_lt positive)
    refine .inr ?_
    rw [Nat.cast_succ, add_mul, one_mul]
    omega

theorem Pruned.emits (pruned : Pruned agg first item account) (whole : WholeTicks first)
    {now next : ℤ}
    {produced : List E.DataValue} (flushed : emitted item now = some (produced, next)) :
    produced = (range produced.length).map (fun i =>
        MonitoredItem.aggregateAt agg item.aggregateBuffer
          (endAt agg first (account.ends.length + i))) ∧
      next = endAt agg first (account.ends.length + produced.length) ∧
      (produced ≠ [] → 0 < intervalStep agg ∧ next ≤ maxUtc) := by
  simp only [emitted, pruned.filter, pruned.due] at flushed
  obtain ⟨count, values, ends, -, -, proper⟩ :=
    flushIntervals_deadlines (whole.endAt _) flushed
  have counted : produced.length = count := by rw [values, length_map, length_range]
  rw [counted]
  refine ⟨?_, ?_, fun some => ?_⟩
  · rw [values]
    refine map_congr_left fun i _ => ?_
    rw [endAt_add]
  · rw [ends, endAt_add]
  · have positive : 0 < count := by
      rw [← counted]
      exact length_pos_iff.mpr some
    exact ⟨(proper positive).1, (proper positive).2.2⟩

theorem Pruned.notify (pruned : Pruned agg first item account) (value : E.DataValue) (now : ℤ) :
    Pruned agg first (item.notifyDataValue value now false).2
      (accountOp account item (.notify value now) (item.notifyDataValue value now false).2) := by
  have added := notifyDataValue_added pruned.filter value now
  obtain ⟨dropped, split, since, droppable⟩ := pruned.buffer
  refine ⟨added.filter.trans pruned.filter, added.due.trans pruned.due, pruned.ends, pruned.forward,
    dropped, ?_, since, ?_⟩
  · show account.history ++ pushed item value now = _
    rw [split, added.buffer, append_assoc]
  · rw [added.buffer]
    rcases droppable with nothing | ⟨head, rest, same, early⟩
    · exact .inl nothing
    · exact .inr ⟨head, rest ++ pushed item value now, by rw [same]; rfl, early⟩

theorem droppable_later {dropped kept : List E.DataValue} {n : ℕ} (mirrored : Mirrored agg)
    (whole : WholeTicks first) (early : minUtc ≤ first)
    (since : dropped ≠ [] → n ≠ 0 ∧ 0 < intervalStep agg)
    (droppable : Droppable sampleTime (intervalStart agg (endAt agg first n)) dropped kept)
    {more : ℕ} (inside : endAt agg first (n + more) ≤ maxUtc) :
    Droppable sampleTime (intervalStart agg (endAt agg first (n + more))) dropped kept := by
  by_cases nothing : dropped = []
  · exact .inl nothing
  · obtain ⟨some, positive⟩ := since nothing
    obtain ⟨before, rfl⟩ := Nat.exists_eq_succ_of_ne_zero some
    exact droppable.mono (intervalStart_endAt_le mirrored positive whole early before more inside)

variable {after : MonitoredItem E}

theorem Pruned.flush (pruned : Pruned agg first item account) (mirrored : Mirrored agg)
    (whole : WholeTicks first) (early : minUtc ≤ first) (timed : Timed account.history) {now : ℤ}
    (flushed : (item.maybeFlushAggregate now).map Prod.snd = some after) :
    Pruned agg first after (accountOp account item (.flush now) after) := by
  obtain ⟨dropped, split, since, droppable⟩ := pruned.buffer
  cases emits : emitted item now with
  | none =>
    have stuck := emits
    simp only [emitted, pruned.filter, pruned.due] at stuck
    unfold MonitoredItem.maybeFlushAggregate at flushed
    simp only [pruned.filter, pruned.due, stuck, Option.map_none] at flushed
    exact absurd flushed (Option.some_ne_none _).symm
  | some outcome =>
    obtain ⟨produced, next⟩ := outcome
    obtain ⟨values, reached, proper⟩ := pruned.emits whole emits
    rw [maybeFlushAggregate_emitted pruned.filter pruned.due emits] at flushed
    have noted : accountOp account item (.flush now) after =
        ⟨account.history, account.ends ++ produced.map sampleTime⟩ := by
      rw [accountOp, emits]
      rfl
    rw [noted]
    split_ifs at flushed with idle
    · cases flushed
      rw [List.isEmpty_iff] at idle
      subst idle
      rw [map_nil, append_nil]
      exact pruned
    · have something : produced ≠ [] := fun nothing => idle (isEmpty_iff.mpr nothing)
      obtain ⟨positive, inside⟩ := proper something
      have counted : (account.ends ++ produced.map sampleTime).length =
          account.ends.length + produced.length := by
        rw [length_append, length_map]
      have timedBuffer : Timed item.aggregateBuffer := fun value member =>
        timed value (split ▸ mem_append_right _ member)
      obtain ⟨cut, whole', dropsEarly⟩ := pruneBuffer_spec timedBuffer (intervalStart agg next)
      have kept := enqueueAll_aggregation produced { item with
        aggregateNextDeadline := some next
        aggregateBuffer :=
          MonitoredItem.pruneBuffer item.aggregateBuffer (intervalStart agg next) }
      simp only [Option.map_some, Option.some.injEq] at flushed
      rw [flushed] at kept
      have same := Aggregation.mk.inj kept
      refine ⟨same.1.trans pruned.filter, ?_, ?_, fun _ => positive, dropped ++ cut, ?_,
        fun _ => ?_,
        ?_⟩
      · rw [counted, ← reached]
        exact same.2.2.2.2.2
      · rw [counted, range_add, map_append, map_map, ← pruned.ends]
        rw [values, map_map, length_map, length_range]
        rfl
      · rw [same.2.2.2.2.1, append_assoc, ← whole']
        exact split
      · exact append_ne_nil_of_right_ne_nil _ fun nothing =>
          something (map_eq_nil_iff.mp nothing)
      · rw [counted, ← reached, same.2.2.2.2.1]
        by_cases nothing : cut = []
        · subst nothing
          rw [nil_append] at whole'
          rw [append_nil, ← whole', reached]
          rw [reached] at inside
          exact droppable_later mirrored whole early (fun dropping =>
            ⟨fun none => since dropping (length_eq_zero_iff.mp none), positive⟩) droppable inside
        · rcases dropsEarly nothing with absurdly | found
          · exact absurd absurdly nothing
          · exact .inr found

theorem history_grows {final : Account E} {ops : List (AggregateOp E)}
    (ran : (itemMachine.observed accountOp).run (item, account) ops = some (after, final)) :
    ∃ more, final.history = account.history ++ more := by
  induction ops generalizing item account with
  | nil =>
    cases ran
    exact ⟨[], (append_nil _).symm⟩
  | cons op ops ih =>
    obtain ⟨⟨middle, noted⟩, stepped, rest⟩ := Machine.run_cons_eq_some _ |>.mp ran
    obtain ⟨-, same⟩ := Machine.observed_step_eq_some.mp stepped
    dsimp only at same
    obtain ⟨more, grown⟩ := ih rest
    rw [grown, same]
    cases op with
    | notify value now => exact ⟨pushed item value now ++ more, append_assoc _ _ _⟩
    | flush now => exact ⟨more, rfl⟩

section

variable (pruned : Pruned agg first item account) (mirrored : Mirrored agg)
  (whole : WholeTicks first) (early : minUtc ≤ first)
include pruned mirrored whole early

theorem Pruned.run {final : Account E} {ops : List (AggregateOp E)} (timed : Timed final.history)
    (ran : (itemMachine.observed accountOp).run (item, account) ops = some (after, final)) :
    Pruned agg first after final := by
  induction ops generalizing item account with
  | nil =>
    cases ran
    exact pruned
  | cons op ops ih =>
    obtain ⟨⟨middle, noted⟩, stepped, rest⟩ := Machine.run_cons_eq_some _ |>.mp ran
    obtain ⟨stepped, same⟩ := Machine.observed_step_eq_some.mp stepped
    dsimp only at same
    subst same
    refine ih ?_ rest
    cases op with
    | notify value now =>
      cases stepped
      exact pruned.notify value now
    | flush now =>
      obtain ⟨more, grown⟩ := history_grows rest
      refine pruned.flush mirrored whole early (fun value member => timed value ?_) stepped
      rw [grown]
      exact mem_append_left _ member

theorem Pruned.liveInput_eq (timed : Timed account.history)
    (ordered : Nondecreasing sampleTime account.history) (positive : 0 < intervalStep agg)
    {more : ℕ} (inside : endAt agg first (account.ends.length + more) ≤ maxUtc) :
    liveInput agg item.aggregateBuffer (endAt agg first (account.ends.length + more)) =
      liveInput agg account.history (endAt agg first (account.ends.length + more)) := by
  obtain ⟨dropped, split, since, droppable⟩ := pruned.buffer
  rw [split] at timed ordered ⊢
  have later := droppable_later mirrored whole early (fun dropping =>
    ⟨fun none => since dropping (length_eq_zero_iff.mp none), positive⟩) droppable inside
  exact (liveInput_append timed ordered later (le_refl _)
    (intervalStart_le_self mirrored positive _)).symm

end

/-- **Pruning changes nothing.** In a run of an aggregate item over samples in time order, the
intervals emitted end one step apart, from the first deadline on; and the next flush emits the
following ones, each from the input that the whole history gives. -/
theorem pruning_changes_nothing (aggregates : item.filter = .aggregateFilter agg)
    (due : item.aggregateNextDeadline = some first) (mirrored : Mirrored agg)
    (whole : WholeTicks first) (early : minUtc ≤ first) {ops : List (AggregateOp E)}
    {after : MonitoredItem E} {final : Account E}
    (ran : (itemMachine.observed accountOp).run (item, ⟨item.aggregateBuffer, []⟩) ops =
      some (after, final))
    (timed : Timed final.history) (ordered : Nondecreasing sampleTime final.history) :
    final.ends = (range final.ends.length).map (endAt agg first) ∧
      ∀ now produced next, emitted after now = some (produced, next) →
        next = endAt agg first (final.ends.length + produced.length) ∧
        produced = (range produced.length).map (fun i =>
          MonitoredItem.aggregateAt agg final.history (endAt agg first (final.ends.length + i))) ∧
        ∀ i < produced.length,
          liveInput agg after.aggregateBuffer (endAt agg first (final.ends.length + i)) =
            liveInput agg final.history (endAt agg first (final.ends.length + i)) := by
  have starts : Pruned agg first item ⟨item.aggregateBuffer, []⟩ := by
    refine ⟨aggregates, ?_, rfl, fun absurdly => absurd rfl absurdly, [], rfl,
      fun absurdly => absurd rfl absurdly, .inl rfl⟩
    rw [due, length_nil, endAt, Nat.cast_zero, zero_mul, add_zero]
  have pruned := starts.run mirrored whole early timed ran
  refine ⟨pruned.ends, fun now produced next emits => ?_⟩
  obtain ⟨values, reached, proper⟩ := pruned.emits whole emits
  have same : ∀ i < produced.length,
      liveInput agg after.aggregateBuffer (endAt agg first (final.ends.length + i)) =
        liveInput agg final.history (endAt agg first (final.ends.length + i)) := by
    intro i within
    have something : produced ≠ [] := ne_nil_of_length_pos (by omega)
    obtain ⟨positive, inside⟩ := proper something
    refine pruned.liveInput_eq mirrored whole early timed ordered positive (le_trans ?_ inside)
    rw [reached, endAt, endAt]
    have := Int.mul_le_mul_of_nonneg_right
      (show ((final.ends.length + i : ℕ) : ℤ) ≤ (final.ends.length + produced.length : ℕ) by omega)
      (le_of_lt positive)
    omega
  refine ⟨reached, ?_, same⟩
  rw [values]
  simp only [length_map, length_range]
  refine map_congr_left fun i within => ?_
  rw [aggregateAt_eq, aggregateAt_eq, same i (mem_range.mp within)]

end Runs

/-- Two samples, a flush of their intervals, and a third sample. -/
def prunedOps : List (AggregateOp counting) :=
  [.notify (sample 500000 5) 500000, .notify (sample 1500000 6) 1500000, .flush 2000000,
    .notify (sample 2500000 7) 2500000]

theorem pruning_changes_nothing_counting :
    liveInput countingFilter [sample 1500000 6, sample 2500000 7] 3000000 =
      liveInput countingFilter [sample 500000 5, sample 1500000 6, sample 2500000 7] 3000000 := by
  have timed : Timed [sample 500000 5, sample 1500000 6, sample 2500000 7] := by
    unfold Timed
    decide
  have ordered : Nondecreasing sampleTime
      [sample 500000 5, sample 1500000 6, sample 2500000 7] := by
    unfold Nondecreasing
    decide
  obtain ⟨after, ran, buffer⟩ : ∃ after,
      (itemMachine.observed accountOp).run (countingItem, ⟨[], []⟩) prunedOps =
        some (after, ⟨[sample 500000 5, sample 1500000 6, sample 2500000 7],
          [1000000, 2000000]⟩) ∧
      emitted after 3000000 = some ([MonitoredItem.aggregateAt countingFilter
        [sample 1500000 6, sample 2500000 7] 3000000], 4000000) ∧
      after.aggregateBuffer = [sample 1500000 6, sample 2500000 7] := ⟨_, rfl, rfl, rfl⟩
  have aggregates : countingItem.filter = .aggregateFilter countingFilter := rfl
  have mirrored : Mirrored countingFilter := .inl rfl
  have whole : WholeTicks 1000000 := rfl
  have same := (pruning_changes_nothing aggregates rfl mirrored whole (by decide) ran timed
    ordered).2 3000000 _ _ buffer.1
  rw [buffer.2] at same
  exact same.2.2 0 Nat.one_pos

end AsyncOpcua.Aggregates
