/-
**Which intervals a flush emits, and when it returns.**

* `flush_returns_iff` — a flush returns exactly if it has nothing to emit, or the step is a
  microsecond at least and the next deadline after `now` is a time chrono represents.
-/

import AsyncOpcua.Aggregates.LiveIntervals
import Mathlib.Data.Rat.Floor
import Mathlib.Tactic.Positivity

namespace AsyncOpcua.Aggregates

open Types List
open Subscriptions
open MonitoredItem (flushIntervals aggregateAt flushIntervals_stuck flushIntervals_eq_none)

variable {E : Externals}

/-! ### Deadlines -/

/-- The nanoseconds from one deadline to the next. -/
def intervalStep (agg : ParsedAggregateFilter E) : ℤ := E.micros agg.processingInterval * 1000

def WholeTicks (time : ℤ) : Prop := dateTimeFrom time = time

section

variable {agg : ParsedAggregateFilter E} {deadline : ℤ} (whole : WholeTicks deadline)
include whole

theorem addMillis_wholeTicks :
    addMillis deadline agg.processingInterval =
      if minUtc ≤ deadline + intervalStep agg ∧ deadline + intervalStep agg ≤ maxUtc then
        deadline + intervalStep agg
      else deadline := by
  unfold WholeTicks dateTimeFrom at whole
  unfold addMillis checkedAddSigned intervalStep
  split_ifs
  · show dateTimeFrom _ = _
    unfold dateTimeFrom
    omega
  · rfl

theorem WholeTicks.addMillis : WholeTicks (addMillis deadline agg.processingInterval) := by
  rw [addMillis_wholeTicks whole]
  unfold WholeTicks dateTimeFrom intervalStep at *
  split_ifs <;> omega

theorem flushIntervals_deadlines {buffer produced : List E.DataValue} {now next : ℤ} {fuel : ℕ}
    (emits : flushIntervals agg buffer now fuel deadline = some (produced, next)) :
    ∃ count : ℕ, produced = (range count).map (fun i : ℕ =>
        aggregateAt agg buffer (deadline + (i : ℤ) * intervalStep agg)) ∧
      next = deadline + count * intervalStep agg ∧ now < next ∧ WholeTicks next ∧
      (0 < count →
        0 < intervalStep agg ∧ deadline + intervalStep agg ≤ maxUtc ∧ next ≤ maxUtc) := by
  induction fuel generalizing deadline produced with
  | zero =>
    rw [flushIntervals] at emits
    split_ifs at emits with passed
    cases emits
    refine ⟨0, rfl, by simp, by omega, whole, fun absurdly => absurd absurdly (by decide)⟩
  | succ fuel ih =>
    have started := emits
    rw [flushIntervals] at emits
    split_ifs at emits with passed
    · rw [Option.map_eq_some_iff] at emits
      obtain ⟨⟨rest, last⟩, later, same⟩ := emits
      cases same
      have onward : deadline < addMillis deadline agg.processingInterval := by
        by_contra stuck
        rw [flushIntervals_stuck agg buffer passed (not_lt.mp stuck)] at started
        exact Option.some_ne_none _ started.symm
      obtain ⟨count, values, ends, beyond, wholeNext, proper⟩ := ih whole.addMillis later
      have stepped := @addMillis_wholeTicks E agg deadline whole
      split_ifs at stepped with inside
      · rw [stepped] at values ends onward proper
        have positive : 0 < intervalStep agg := by omega
        refine ⟨count + 1, ?_, ?_, beyond, wholeNext, fun _ => ⟨positive, inside.2, ?_⟩⟩
        · rw [range_succ_eq_map, map_cons, map_map, values]
          congr 1
          · simp
          · refine map_congr_left fun i _ => ?_
            congr 1
            push_cast
            ring
        · rw [ends]
          push_cast
          ring
        · rcases Nat.eq_zero_or_pos count with rfl | more
          · rw [ends]
            simpa using inside.2
          · exact (proper more).2.2
      · rw [stepped] at onward
        exact absurd onward (lt_irrefl _)
    · cases emits
      refine ⟨0, rfl, by simp, by omega, whole, fun absurdly => absurd absurdly (by decide)⟩

end

section

variable {agg : ParsedAggregateFilter E} (buffer : List E.DataValue) {now deadline : ℤ}
  (whole : WholeTicks deadline) (early : minUtc ≤ deadline)
include whole early

/-- **A flush returns** if so many steps lead past `now`, and to a time chrono represents. -/
theorem flushIntervals_returns {rounds : ℕ} (positive : 0 < intervalStep agg)
    (beyond : now < deadline + rounds * intervalStep agg)
    (inside : deadline + rounds * intervalStep agg ≤ maxUtc) :
    flushIntervals agg buffer now rounds deadline ≠ none := by
  induction rounds generalizing deadline with
  | zero =>
    have done : ¬ deadline ≤ now := by
      rw [Nat.cast_zero, zero_mul, add_zero] at beyond
      exact not_le.mpr beyond
    rw [flushIntervals, if_neg done]
    exact Option.some_ne_none _
  | succ rounds ih =>
    rw [flushIntervals]
    split_ifs with passed
    · have expand : deadline + ((rounds + 1 : ℕ) : ℤ) * intervalStep agg =
          deadline + intervalStep agg + rounds * intervalStep agg := by
        push_cast
        ring
      rw [expand] at beyond inside
      have nonneg : 0 ≤ (rounds : ℤ) * intervalStep agg :=
        mul_nonneg (Int.natCast_nonneg _) (le_of_lt positive)
      have stepped : addMillis deadline agg.processingInterval = deadline + intervalStep agg := by
        rw [addMillis_wholeTicks whole, if_pos ⟨by omega, by omega⟩]
      have wholeNext := @WholeTicks.addMillis E agg deadline whole
      rw [stepped] at wholeNext
      rw [stepped, Ne, Option.map_eq_none_iff]
      exact ih wholeNext (by omega) beyond inside
    · exact Option.some_ne_none _

theorem flushIntervals_returns_iff :
    flushIntervals agg buffer now ((now - deadline).toNat + 1) deadline ≠ none ↔
      now < deadline ∨ 0 < intervalStep agg ∧
        deadline + ((now - deadline) / intervalStep agg + 1) * intervalStep agg ≤ maxUtc := by
  constructor
  · intro returns
    obtain ⟨⟨produced, next⟩, emits⟩ := Option.ne_none_iff_exists'.mp returns
    obtain ⟨count, -, ends, beyond, -, proper⟩ := flushIntervals_deadlines whole emits
    rcases Nat.eq_zero_or_pos count with rfl | some
    · rw [Nat.cast_zero, zero_mul, add_zero] at ends
      exact .inl (ends ▸ beyond)
    · obtain ⟨positive, -, inside⟩ := proper some
      refine .inr ⟨positive, le_trans ?_ inside⟩
      -- The first deadline past `now` is not later than the one the loop stopped at.
      have rounds : (now - deadline) / intervalStep agg + 1 ≤ count := by
        have past : (now - deadline) / intervalStep agg < count := by
          rw [Int.ediv_lt_iff_lt_mul positive]
          omega
        omega
      have := Int.mul_le_mul_of_nonneg_right rounds (le_of_lt positive)
      omega
  · rintro (ahead | ⟨positive, inside⟩)
    · rw [flushIntervals, if_neg (not_le.mpr ahead)]
      exact Option.some_ne_none _
    · by_cases ahead : now < deadline
      · rw [flushIntervals, if_neg (not_le.mpr ahead)]
        exact Option.some_ne_none _
      · have nonneg : 0 ≤ (now - deadline) / intervalStep agg :=
          Int.ediv_nonneg (by omega) (le_of_lt positive)
        obtain ⟨rounds, same⟩ := Int.eq_ofNat_of_zero_le
          (show 0 ≤ (now - deadline) / intervalStep agg + 1 by omega)
        rw [same] at inside
        have beyond : now < deadline + (rounds : ℤ) * intervalStep agg := by
          rw [← same]
          have := Int.lt_ediv_add_one_mul_self (now - deadline) positive
          omega
        intro stuck
        exact flushIntervals_returns buffer whole early positive beyond inside
          (flushIntervals_eq_none agg buffer (by omega) stuck rounds)

end

/-! ### The interval of a filter -/

/-- `(millis * 1000.0) as i64`, of an exact number: cut to whole microseconds and to 64 bits. -/
def truncatedMicros (millis : ℚ) : ℤ :=
  max (-2 ^ 63) (min (2 ^ 63 - 1) (if 0 ≤ millis then ⌊millis * 1000⌋ else ⌈millis * 1000⌉))

theorem truncatedMicros_pos_iff {millis : ℚ} (positive : 0 < millis) :
    0 < truncatedMicros millis ↔ 1 ≤ millis * 1000 := by
  unfold truncatedMicros
  rw [if_pos (le_of_lt positive), lt_max_iff, lt_min_iff]
  constructor
  · rintro (absurdly | ⟨-, whole⟩)
    · exact absurd absurdly (by norm_num)
    · exact_mod_cast Int.le_floor.mp (show (1 : ℤ) ≤ ⌊millis * 1000⌋ from whole)
  · intro long
    refine .inr ⟨by norm_num, ?_⟩
    have whole : (1 : ℤ) ≤ ⌊millis * 1000⌋ := Int.le_floor.mpr (by exact_mod_cast long)
    exact whole

section

variable {item : MonitoredItem E} {agg : ParsedAggregateFilter E}

theorem maybeFlushAggregate_isSome_iff {deadline : ℤ} (filter : item.filter = .aggregateFilter agg)
    (due : item.aggregateNextDeadline = some deadline) (now : ℤ) :
    (item.maybeFlushAggregate now).isSome = true ↔
      flushIntervals agg item.aggregateBuffer now ((now - deadline).toNat + 1)
        deadline ≠ none := by
  unfold MonitoredItem.maybeFlushAggregate
  simp only [filter, due]
  cases flushIntervals agg item.aggregateBuffer now ((now - deadline).toNat + 1)
    deadline with
  | none => simp
  | some outcome =>
    obtain ⟨produced, next⟩ := outcome
    cases produced <;> simp

/-- **When a flush returns.** For an interval that the parser accepts, which is positive, as an
exact number of milliseconds, the flush at `now` returns exactly if the deadline has not passed, or
the interval is a microsecond at least and the first deadline past `now` is a time chrono
represents. It returns if any number of rounds leaves its loop. -/
theorem flush_returns_iff {millis : ℚ}
    {deadline : ℤ} (filter : item.filter = .aggregateFilter agg)
    (due : item.aggregateNextDeadline = some deadline)
    (exact_ : E.micros agg.processingInterval = truncatedMicros millis) (positive : 0 < millis)
    (whole : WholeTicks deadline) (early : minUtc ≤ deadline) (now : ℤ) :
    ((item.maybeFlushAggregate now).isSome = true ↔ ∃ rounds,
        MonitoredItem.flushIntervals agg item.aggregateBuffer now rounds deadline ≠ none) ∧
      ((item.maybeFlushAggregate now).isSome = true ↔
        now < deadline ∨ 1 ≤ millis * 1000 ∧
          deadline + ((now - deadline) / (truncatedMicros millis * 1000) + 1) *
            (truncatedMicros millis * 1000) ≤ maxUtc) := by
  have loop := maybeFlushAggregate_isSome_iff filter due now
  have step : intervalStep agg = truncatedMicros millis * 1000 := by rw [intervalStep, exact_]
  have forward : 0 < intervalStep agg ↔ 1 ≤ millis * 1000 := by
    rw [← truncatedMicros_pos_iff positive, step]
    omega
  constructor
  · rw [loop]
    constructor
    · exact fun returns => ⟨_, returns⟩
    · rintro ⟨rounds, returns⟩ stuck
      exact returns (flushIntervals_eq_none agg _ (by omega) stuck rounds)
  · rw [loop, flushIntervals_returns_iff item.aggregateBuffer whole early, forward, step]

end

/-! ### Exact intervals -/

/-- **An instance to run the intervals on:** numbers are exact. -/
def rationals : Externals :=
  { Externals.integers with
    F64 := ℚ
    sub := (· - ·)
    div := (· / ·)
    neg := (- ·)
    abs := fun x => |x|
    gt := fun x y => decide (y < x)
    max := max
    micros := truncatedMicros
    microsUnsigned := fun millis => (truncatedMicros millis).toNat
    asF64 := fun (value : ℤ) => some (value : ℚ) }

/-- The filter with an interval of so many milliseconds. -/
def exactFilter (millis : ℚ) : ParsedAggregateFilter rationals := ⟨(2352 : ℕ), millis, ()⟩

def aggregatingItem (millis : ℚ) : MonitoredItem rationals where
  id := 1
  itemToMonitor := ⟨(0 : ℕ), 13, none⟩
  monitoringMode := .reporting
  triggeredItems := ∅
  clientHandle := 1
  samplingInterval := .zero
  filter := .aggregateFilter (exactFilter millis)
  discardOldest := true
  queueSize := 10
  notificationQueue := []
  overflowEvent := none
  timestampsToReturn := .both
  lastDataValue := none
  sampleSkippedDataValue := none
  sampleSkippedBeforeSemanticsChanged := false
  anyNewNotification := false
  euRange := none
  semanticsChanged := false
  aggregateBuffer := []
  aggregateNextDeadline := some 0

theorem millisecond_flush_returns :
    ((aggregatingItem 1).maybeFlushAggregate 5000000).isSome = true ∧
      ∃ rounds, MonitoredItem.flushIntervals (exactFilter 1) [] 5000000 rounds 0 ≠ none := by
  have whole : WholeTicks 0 := rfl
  have early : minUtc ≤ 0 := by decide
  have positive : (0 : ℚ) < 1 := by norm_num
  obtain ⟨rounds, inTime⟩ :=
    @flush_returns_iff _ (aggregatingItem 1) (exactFilter 1) 1 0 rfl rfl rfl
    positive whole early 5000000
  have micros : truncatedMicros 1 = 1000 := by
    norm_num [truncatedMicros]
  have returns := inTime.mpr (.inr ⟨by norm_num, by rw [micros]; decide⟩)
  exact ⟨returns, rounds.mp returns⟩

theorem not_returns_of_stuck {millis : ℚ}
    (stuck : addMillis 0 (exactFilter millis).processingInterval ≤ 0) :
    (aggregatingItem millis).maybeFlushAggregate 0 = none := by
  have passed : (0 : ℤ) ≤ 0 := le_refl _
  have loop := fun fuel =>
    flushIntervals_stuck (exactFilter millis) [] passed stuck fuel
  rw [← Option.not_isSome_iff_eq_none,
    @maybeFlushAggregate_isSome_iff _ (aggregatingItem millis) (exactFilter millis) 0 rfl rfl 0,
    not_not]
  exact loop _

/-- **A flush does not return:** with an interval of 2⁻¹¹ milliseconds, which is cut down to none,
and with one of 2¹⁰⁰ milliseconds, after which there is no time. -/
theorem flush_never_returns :
    (0 : ℚ) < 1 / 2 ^ 11 ∧ (aggregatingItem (1 / 2 ^ 11)).maybeFlushAggregate 0 = none ∧
      (0 : ℚ) < 2 ^ 100 ∧ (aggregatingItem (2 ^ 100)).maybeFlushAggregate 0 = none := by
  have whole : WholeTicks 0 := rfl
  have short : intervalStep (exactFilter (1 / 2 ^ 11)) = 0 := by
    show truncatedMicros (1 / 2 ^ 11) * 1000 = 0
    unfold truncatedMicros
    norm_num
  have long : intervalStep (exactFilter (2 ^ 100)) = (2 ^ 63 - 1) * 1000 := by
    show truncatedMicros (2 ^ 100) * 1000 = (2 ^ 63 - 1) * 1000
    have cut : ⌊(2 ^ 100 : ℚ) * 1000⌋ = 2 ^ 100 * 1000 := by
      rw [show (2 ^ 100 : ℚ) * 1000 = ((2 ^ 100 * 1000 : ℤ) : ℚ) by norm_num, Int.floor_intCast]
    unfold truncatedMicros
    rw [if_pos (by positivity), cut]
    decide
  refine ⟨by norm_num, not_returns_of_stuck ?_, by norm_num, not_returns_of_stuck ?_⟩
  · rw [addMillis_wholeTicks whole, short]
    decide
  · rw [addMillis_wholeTicks whole, long]
    decide

end AsyncOpcua.Aggregates
