/-
**How a range is partitioned.**

Both loops are walked in one direction, up or down. A processing interval is cut to whole
milliseconds, and chrono panics where a time is out of its range.
-/

import AsyncOpcua.Aggregates.FlushedIntervals

namespace AsyncOpcua.Aggregates

open Types

/-- **What an `f64` is.** -/
inductive FloatValue
  | nan
  | infinite (negative : Bool)
  | number (q : ℚ)

namespace FloatValue

def Positive : FloatValue → Prop
  | .nan => False
  | .infinite negative => negative = false
  | .number q => 0 < q

/-- `value <= 0.0`, which NaN is not. -/
def NotPositive : FloatValue → Prop
  | .nan => False
  | .infinite negative => negative = true
  | .number q => q ≤ 0

/-- `value as i64`. -/
def toInt : FloatValue → ℤ
  | .nan => 0
  | .infinite negative => if negative then -2 ^ 63 else 2 ^ 63 - 1
  | .number q => max (-2 ^ 63) (min (2 ^ 63 - 1) (if 0 ≤ q then ⌊q⌋ else ⌈q⌉))

theorem toInt_nonneg {value : FloatValue} (beyond : ¬ value.NotPositive) : 0 ≤ value.toInt := by
  cases value with
  | nan => exact le_refl _
  | infinite negative =>
    cases negative with
    | false => decide
    | true => exact absurd rfl beyond
  | number q =>
    have positive : 0 < q := not_le.mp beyond
    have whole : 0 ≤ ⌊q⌋ := Int.floor_nonneg.mpr (le_of_lt positive)
    rw [toInt, if_pos (le_of_lt positive)]
    omega

end FloatValue

/-- **The intervals tile a range** up (`direction` 1) or down (-1): each begins where the one before
it ended and none is empty; all but the last have a requested length, in nanoseconds. -/
def Tiles (direction : ℤ) (requested : ℤ → Prop) (stop : ℤ) : ℤ → List (ℤ × ℤ) → Prop
  | curr, [] => curr = stop
  | curr, interval :: rest =>
    interval.1 = curr ∧ 0 < direction * (interval.2 - interval.1) ∧
      (rest ≠ [] → requested (direction * (interval.2 - interval.1))) ∧
      Tiles direction requested stop interval.2 rest

def InChrono (time : ℤ) : Prop := minUtc ≤ time ∧ time ≤ maxUtc

instance (time : ℤ) : Decidable (InChrono time) := inferInstanceAs (Decidable (_ ∧ _))

variable {direction step stop curr : ℤ} {intervals : List (ℤ × ℤ)}

section

variable {requested : ℤ → Prop} (tiles : Tiles direction requested stop curr intervals)
include tiles

theorem Tiles.left_nonneg : 0 ≤ direction * (stop - curr) := by
  induction intervals generalizing curr with
  | nil =>
    rw [show stop - curr = 0 from sub_eq_zero.mpr tiles.symm, mul_zero]
  | cons interval rest ih =>
    obtain ⟨rfl, forward, -, later⟩ := tiles
    have split : direction * (stop - interval.1) =
        direction * (stop - interval.2) + direction * (interval.2 - interval.1) := by ring
    have := ih later
    omega

theorem Tiles.left_pos (some_ : intervals ≠ []) : 0 < direction * (stop - curr) := by
  cases intervals with
  | nil => exact absurd rfl some_
  | cons interval rest =>
    obtain ⟨rfl, forward, -, later⟩ := tiles
    have split : direction * (stop - interval.1) =
        direction * (stop - interval.2) + direction * (interval.2 - interval.1) := by ring
    have := later.left_nonneg
    omega

end

theorem Tiles.mono {requested requested' : ℤ → Prop}
    (implies : ∀ length, requested length → requested' length)
    (tiles : Tiles direction requested stop curr intervals) :
    Tiles direction requested' stop curr intervals := by
  induction intervals generalizing curr with
  | nil => exact tiles
  | cons interval rest ih =>
    exact ⟨tiles.1, tiles.2.1, fun more => implies _ (tiles.2.2.1 more), ih tiles.2.2.2⟩

/-- Which lengths tile a range that a step tiles: no other ones, if a step falls short. -/
theorem Tiles.requested_iff {requested : ℤ → Prop}
    (tiles : Tiles direction (· = step) stop curr intervals)
    (single : intervals.length ≤ 1 ↔ direction * (stop - curr) ≤ step) :
    Tiles direction requested stop curr intervals ↔
      direction * (stop - curr) ≤ step ∨ requested step := by
  rw [← single]
  constructor
  · intro meets
    match intervals with
    | [] => exact Or.inl (Nat.zero_le _)
    | [_] => exact Or.inl (le_refl _)
    | interval :: other :: rest =>
      have exact_ := tiles.2.2.1 (List.cons_ne_nil _ _)
      exact Or.inr (exact_ ▸ meets.2.2.1 (List.cons_ne_nil _ _))
  · rintro (alone | meets)
    · match intervals with
      | [] => exact tiles
      | [interval] => exact ⟨tiles.1, tiles.2.1, fun more => absurd rfl more, tiles.2.2.2⟩
    · exact tiles.mono fun length (same : length = step) => same ▸ meets

/-! ### The walk -/

/-- The loop of `partition_intervals` in one direction. -/
def partitionWalk (direction step stop : ℤ) : ℕ → ℤ → Option (List (ℤ × ℤ))
  | fuel, curr =>
    if 0 < direction * (stop - curr) then
      match fuel with
      | 0 => none
      | fuel + 1 =>
        (addDuration curr (direction * step)).bind fun next =>
          let actualNext := if direction * (stop - next) < 0 then stop else next
          (partitionWalk direction step stop fuel actualNext).map ((curr, actualNext) :: ·)
    else some []

theorem partitionForward_eq (step stop : ℤ) (fuel : ℕ) (curr : ℤ) :
    partitionForward step stop fuel curr = partitionWalk 1 step stop fuel curr := by
  induction fuel generalizing curr with
  | zero => simp [partitionForward, partitionWalk]
  | succ fuel ih => simp [partitionForward, partitionWalk, ih]

theorem partitionBackward_eq (step stop : ℤ) (fuel : ℕ) (curr : ℤ) :
    partitionBackward step stop fuel curr = partitionWalk (-1) step stop fuel curr := by
  induction fuel generalizing curr with
  | zero => simp [partitionBackward, partitionWalk]
  | succ fuel ih => simp [partitionBackward, partitionWalk, ih]

section Walk

variable (sign : direction = 1 ∨ direction = -1) (whole : WholeTicks curr)
include sign whole

theorem addDuration_wholeTicks (ticks : 100 ∣ step) :
    addDuration curr (direction * step) =
      if InChrono (curr + direction * step) then some (curr + direction * step) else none := by
  obtain ⟨n, rfl⟩ := ticks
  have checked (delta : ℤ) : checkedAddSigned curr delta =
      if InChrono (curr + delta) then some (curr + delta) else none := rfl
  rw [addDuration, checked]
  split_ifs
  · rw [Option.map_some, Option.some.injEq]
    unfold WholeTicks dateTimeFrom at *
    rcases sign with rfl | rfl <;> omega
  · rfl

/-- Without a step no number of rounds is enough. -/
theorem partitionWalk_zero (ahead : 0 < direction * (stop - curr)) (fuel : ℕ) :
    partitionWalk direction 0 stop fuel curr = none := by
  induction fuel with
  | zero => rw [partitionWalk, if_pos ahead]
  | succ fuel ih =>
    rw [partitionWalk, if_pos ahead, addDuration_wholeTicks sign whole (dvd_zero _)]
    split_ifs with inside
    · rw [Option.bind_some, mul_zero, add_zero, if_neg (not_lt.mpr ahead.le)]
      dsimp only
      rw [ih, Option.map_none]
    · rfl

variable (ticks : 100 ∣ step) (positive : 0 < step) (wholeStop : WholeTicks stop)
include ticks positive wholeStop

theorem partitionWalk_tiles {fuel : ℕ} (ahead : 0 ≤ direction * (stop - curr))
    (walked : partitionWalk direction step stop fuel curr = some intervals) :
    Tiles direction (· = step) stop curr intervals ∧
      (intervals.length ≤ 1 ↔ direction * (stop - curr) ≤ step) := by
  induction fuel generalizing curr intervals with
  | zero =>
    rw [partitionWalk] at walked
    split_ifs at walked with more
    cases walked
    have there : curr = stop := by rcases sign with rfl | rfl <;> omega
    refine ⟨there, iff_of_true (Nat.zero_le _) (by omega)⟩
  | succ fuel ih =>
    rw [partitionWalk] at walked
    split_ifs at walked with more
    · rw [addDuration_wholeTicks sign whole ticks] at walked
      by_cases inside : InChrono (curr + direction * step)
      swap
      · rw [if_neg inside] at walked
        cases walked
      rw [if_pos inside, Option.bind_some] at walked
      obtain ⟨rest, later, rfl⟩ := Option.map_eq_some_iff.mp walked
      split_ifs at later ⊢ with past
      · obtain ⟨tiles, -⟩ := ih wholeStop (by simp) later
        have ended : rest = [] := by
          by_contra some_
          have := tiles.left_pos some_
          simp at this
        subst ended
        refine ⟨⟨rfl, more, fun more => absurd rfl more, rfl⟩, iff_of_true (le_refl _) ?_⟩
        rcases sign with rfl | rfl <;> omega
      · have onTick : WholeTicks (curr + direction * step) := by
          obtain ⟨n, rfl⟩ := ticks
          unfold WholeTicks dateTimeFrom at whole ⊢
          rcases sign with rfl | rfl <;> omega
        obtain ⟨tiles, -⟩ := ih onTick (not_lt.mp past) later
        have advances : direction * (curr + direction * step - curr) = step := by
          rcases sign with rfl | rfl <;> omega
        refine ⟨⟨rfl, lt_of_lt_of_eq positive advances.symm, fun _ => advances, tiles⟩, ?_⟩
        cases rest with
        | nil =>
          have there : curr + direction * step = stop := tiles
          refine iff_of_true (le_refl _) ?_
          rcases sign with rfl | rfl <;> omega
        | cons =>
          have := tiles.left_pos (List.cons_ne_nil _ _)
          refine iff_of_false (by simp) ?_
          rcases sign with rfl | rfl <;> omega
    · cases walked
      have there : curr = stop := by rcases sign with rfl | rfl <;> omega
      exact ⟨there, iff_of_true (Nat.zero_le _) (by omega)⟩

/-- **When a walk returns:** every step that begins before the end stays within chrono's range. -/
theorem partitionWalk_isSome_iff {fuel : ℕ} (enough : direction * (stop - curr) ≤ fuel) :
    (∃ intervals, partitionWalk direction step stop fuel curr = some intervals) ↔
      ∀ k : ℕ, k * step < direction * (stop - curr) →
        InChrono (curr + direction * ((k + 1) * step)) := by
  have steps (k : ℕ) : ((k + 1 : ℕ) : ℤ) * step = k * step + step := by push_cast; ring
  have forward (k : ℕ) : 0 ≤ (k : ℤ) * step := by positivity
  induction fuel generalizing curr with
  | zero =>
    rw [partitionWalk, if_neg (by omega)]
    refine iff_of_true ⟨_, rfl⟩ fun k begins => ?_
    have := forward k
    omega
  | succ fuel ih =>
    rw [partitionWalk, addDuration_wholeTicks sign whole ticks]
    split_ifs with more inside
    · rw [Option.bind_some]
      have advances : direction * (stop - (curr + direction * step)) =
          direction * (stop - curr) - step := by
        rcases sign with rfl | rfl <;> omega
      have returns (next : ℤ) : (∃ intervals, (partitionWalk direction step stop fuel next).map
          ((curr, next) :: ·) = some intervals) ↔
          ∃ intervals, partitionWalk direction step stop fuel next = some intervals := by
        simp only [← Option.isSome_iff_exists, Option.isSome_map]
      have later (k : ℕ) : curr + direction * ((((k + 1 : ℕ) : ℤ) + 1) * step) =
          curr + direction * step + direction * ((k + 1) * step) := by
        push_cast
        ring
      split_ifs with past
      · have enough' : direction * (stop - stop) ≤ fuel := by simp
        refine (returns _).trans ((ih wholeStop enough').trans ?_)
        refine iff_of_true (fun k begins => ?_) fun k begins => ?_
        · have := forward k
          simp at begins
          omega
        · cases k with
          | zero => simpa using inside
          | succ k =>
            rw [steps] at begins
            have := forward k
            omega
      · have onTick : WholeTicks (curr + direction * step) := by
          obtain ⟨n, rfl⟩ := ticks
          unfold WholeTicks dateTimeFrom at whole ⊢
          rcases sign with rfl | rfl <;> omega
        have enough' : direction * (stop - (curr + direction * step)) ≤ fuel := by omega
        refine (returns _).trans ((ih onTick enough').trans ?_)
        constructor
        · intro all k begins
          cases k with
          | zero => simpa using inside
          | succ k =>
            rw [steps] at begins
            rw [later]
            exact all k (by omega)
        · intro all k begins
          rw [← later]
          exact all (k + 1) (by rw [steps]; omega)
    · refine iff_of_false (by simp) fun all => inside ?_
      simpa using all 0 (by simpa using more)
    · refine iff_of_true ⟨_, rfl⟩ fun k begins => ?_
      have := forward k
      omega

end Walk

/-! ### The partition of a range -/

def towards (startTime endTime : ℤ) : ℤ := if startTime ≤ endTime then 1 else -1

theorem towards_mul (startTime endTime : ℤ) :
    towards startTime endTime * (endTime - startTime) = |endTime - startTime| := by
  unfold towards
  split_ifs with forward
  · rw [abs_of_nonneg (by omega), one_mul]
  · rw [abs_of_nonpos (by omega), neg_one_mul]

variable {E : Externals} (X : EngineExternals E)

/-- **The range is partitioned as requested:** the call returns, and its intervals tile a range that
is not empty if the processing interval is positive. -/
def Partitions (startTime endTime : ℤ) (processingInterval : E.F64) (value : FloatValue) : Prop :=
  ∃ intervals, partitionIntervals X startTime endTime processingInterval = some intervals ∧
    (startTime ≠ endTime → value.Positive → Tiles (towards startTime endTime)
      (fun length => value = .number (length / 1000000)) endTime startTime intervals)

/-- Something is to be partitioned, by whole milliseconds or into one interval, and every step that
begins within the range leads to a time that chrono represents. -/
def Partitionable (startTime endTime : ℤ) (value : FloatValue) : Prop :=
  startTime = endTime ∨ value.NotPositive ∨
    0 < value.toInt ∧
      (|endTime - startTime| ≤ value.toInt * 1000000 ∨ value = .number value.toInt) ∧
      ∀ k : ℕ, k * (value.toInt * 1000000) < |endTime - startTime| →
        InChrono (startTime +
          towards startTime endTime * ((k + 1) * (value.toInt * 1000000)))

variable {X} {startTime endTime : ℤ} {processingInterval : E.F64} {value : FloatValue}

theorem partitionIntervals_eq
    (compares : X.le processingInterval (X.ofInt 0) = true ↔ value.NotPositive)
    (truncates : X.toInt processingInterval = value.toInt) (beyond : ¬ value.NotPositive) :
    partitionIntervals X startTime endTime processingInterval =
      partitionWalk (towards startTime endTime) (value.toInt * 1000000) endTime
        |endTime - startTime|.toNat startTime := by
  rw [partitionIntervals, if_neg (mt compares.mp beyond), truncates, towards]
  split_ifs with forward
  · rw [partitionForward_eq, abs_of_nonneg (by omega)]
  · rw [partitionBackward_eq, abs_of_nonpos (by omega), neg_sub]

/-- **When a range is partitioned as requested,** for the exact value of the processing interval. -/
theorem partitions_iff (wholeStart : WholeTicks startTime) (wholeEnd : WholeTicks endTime)
    (compares : X.le processingInterval (X.ofInt 0) = true ↔ value.NotPositive)
    (truncates : X.toInt processingInterval = value.toInt) :
    Partitions X startTime endTime processingInterval value ↔
      Partitionable startTime endTime value := by
  by_cases beyond : value.NotPositive
  · refine iff_of_true ⟨_, if_pos (compares.mpr beyond), fun _ positive => ?_⟩ (.inr (.inl beyond))
    cases value with
    | nan => exact absurd positive id
    | infinite => exact absurd (beyond.symm.trans positive) (by decide)
    | number => exact absurd beyond (not_le.mpr positive)
  have walks : partitionIntervals X startTime endTime processingInterval = _ :=
    partitionIntervals_eq compares truncates beyond
  have sign : towards startTime endTime = 1 ∨ towards startTime endTime = -1 := by
    unfold towards
    split_ifs <;> simp
  have left := towards_mul startTime endTime
  by_cases same : startTime = endTime
  · refine iff_of_true ⟨[], ?_, fun other => absurd same other⟩ (.inl same)
    rw [walks, same, sub_self, abs_zero, Int.toNat_zero, partitionWalk, if_neg (by simp)]
  have ahead : 0 < |endTime - startTime| := abs_pos.mpr (sub_ne_zero.mpr (Ne.symm same))
  unfold Partitions Partitionable
  rw [walks]
  rcases (FloatValue.toInt_nonneg beyond).eq_or_lt with none_ | some_
  · rw [← none_, zero_mul]
    refine iff_of_false (fun ⟨_, walked, _⟩ => ?_) ?_
    · rw [partitionWalk_zero sign wholeStart (by omega)] at walked
      cases walked
    · rintro (there | negative | ⟨absurdly, -⟩)
      · exact same there
      · exact beyond negative
      · exact absurd absurdly (lt_irrefl _)
  have ticks : 100 ∣ value.toInt * 1000000 := ⟨value.toInt * 10000, by ring⟩
  have stepPos : 0 < value.toInt * 1000000 := by omega
  have positive : value.Positive := by
    cases value with
    | nan => exact absurd some_ (lt_irrefl _)
    | infinite negative => cases negative <;> simp_all [FloatValue.NotPositive, FloatValue.Positive]
    | number => exact not_le.mp beyond
  have exactly : value = .number ((value.toInt * 1000000 : ℤ) / 1000000) ↔
      value = .number value.toInt := by
    push_cast
    rw [mul_div_cancel_right₀ _ (by norm_num)]
  have enough :
      towards startTime endTime * (endTime - startTime) ≤ |endTime - startTime|.toNat := by
    omega
  have returns := partitionWalk_isSome_iff sign wholeStart ticks stepPos wholeEnd enough
  have tiled {intervals : List (ℤ × ℤ)} (walked : partitionWalk (towards startTime endTime)
      (value.toInt * 1000000) endTime |endTime - startTime|.toNat startTime = some intervals) :
      Tiles (towards startTime endTime) (fun length => value = .number (length / 1000000)) endTime
        startTime intervals ↔
      |endTime - startTime| ≤ value.toInt * 1000000 ∨ value = .number value.toInt := by
    obtain ⟨tiles, single⟩ := partitionWalk_tiles sign wholeStart ticks stepPos wholeEnd
      (by omega) walked
    rw [tiles.requested_iff single, left, exactly]
  rw [left] at returns
  constructor
  · rintro ⟨intervals, walked, tiles⟩
    exact .inr (.inr ⟨some_, (tiled walked).mp (tiles same positive),
      returns.mp ⟨intervals, walked⟩⟩)
  · rintro (there | negative | ⟨-, lengths, inside⟩)
    · exact absurd there same
    · exact absurd negative beyond
    · obtain ⟨intervals, walked⟩ := returns.mpr inside
      exact ⟨intervals, walked, fun _ _ => (tiled walked).mpr lengths⟩

theorem partitions_iff_millisecond : Partitions integerEngine 0 3000000 (1 : ℤ) (.number 1) := by
  have value : FloatValue.toInt (.number 1) = 1 := by norm_num [FloatValue.toInt]
  have start : WholeTicks 0 := rfl
  have stop : WholeTicks 3000000 := rfl
  refine (partitions_iff start stop
    (iff_of_false (by decide) (by norm_num [FloatValue.NotPositive])) (by rw [value]; rfl)).mpr ?_
  refine .inr (.inr ⟨by rw [value]; decide, .inr (by rw [value]; rfl), fun k inside => ?_⟩)
  rw [value] at inside ⊢
  have few : (k : ℤ) * (1 * 1000000) < 3000000 := by simpa using inside
  rw [towards, if_pos (by decide)]
  unfold InChrono minUtc maxUtc
  omega

/-- **An interval of ten trillion seconds** ends after all times that chrono represents. -/
theorem partitions_too_long :
    ¬ Partitions integerEngine 0 1000000 ((10 ^ 16 : ℕ) : ℤ) (.number (10 ^ 16)) := by
  rintro ⟨intervals, returned, -⟩
  cases returned

end AsyncOpcua.Aggregates
