/-
**Date-times as numbers of ticks.**

* `codec_iff` — which date-times come back, and which numbers stay in order.
-/

import AsyncOpcua.Types.Ticks
import Mathlib.Tactic.Ring

namespace AsyncOpcua.Types

open Option

/-- **An instant:** the seconds since 1601 and the nanoseconds, of which a leap second has more. -/
@[ext] structure DateTime where
  seconds : ℤ
  nanos : ℕ
  bound : nanos < 2 * 10 ^ 9
  deriving DecidableEq

namespace DateTime

def Before (d e : DateTime) : Prop :=
  d.seconds < e.seconds ∨ d.seconds = e.seconds ∧ d.nanos < e.nanos

instance (d e : DateTime) : Decidable (d.Before e) := inferInstanceAs (Decidable (_ ∨ _))

def epoch : DateTime := ⟨0, 0, by decide⟩

/-- The last second of 9999. -/
def endtimes : DateTime := ⟨265046774399, 0, by decide⟩

/-- `DateTime::from`: the nanoseconds are rounded down to ticks. -/
def fromUtc (time : DateTime) : DateTime where
  seconds := time.seconds
  nanos := time.nanos / 100 * 100
  bound := by have := time.bound; omega

def clamp (d : DateTime) : DateTime :=
  if d.Before epoch then epoch else if endtimes.Before d then endtimes else d

/-- **What the constructors give.** Sums and differences are rounded, as the time of the clock is;
what is read as RFC 3339 is clipped instead. -/
inductive Produced : DateTime → Prop
  | from (time : DateTime) : Produced time.fromUtc
  | parseFromRfc3339 (time : DateTime) : Produced time.clamp

/-- `signed_duration_since` the epoch, in nanoseconds. -/
def sinceEpoch (d : DateTime) : ℤ := d.seconds * 10 ^ 9 + d.nanos

def checkedI64 (z : ℤ) : Option ℤ := if -2 ^ 63 ≤ z ∧ z < 2 ^ 63 then some z else none

def durationToTicks (duration : ℤ) : Option ℤ := do
  let seconds ← checkedI64 (duration.tdiv (10 ^ 9) * 10 ^ 7)
  checkedI64 (seconds + (duration.tmod (10 ^ 9)).tdiv 100)

/-- The number that is written, or an overflow. -/
def encode (d : DateTime) : Option ℤ := (durationToTicks d.sinceEpoch).map checkedTicks

def afterEpoch (duration : ℤ) : DateTime where
  seconds := duration / 10 ^ 9
  nanos := (duration % 10 ^ 9).toNat
  bound := by omega

/-- What is read, without a client offset. -/
def decode (value : ℤ) : DateTime :=
  if value = 2 ^ 63 - 1 then endtimes
  else
    let secs := value.tdiv (10 ^ 7)
    (afterEpoch (secs * 10 ^ 9 + (value - secs * 10 ^ 7) * 100)).fromUtc

/-- **The condition to come back.** A leap second is read as the second after it, and the ticks of
years from 30828 on overflow. -/
structure ComesBack (d : DateTime) : Prop where
  fits : -2 ^ 63 ≤ d.sinceEpoch.tdiv 100 ∧ d.sinceEpoch.tdiv 100 < 2 ^ 63
  whole : ¬ d.Before epoch → ¬ endtimes.Before d → d.nanos < 10 ^ 9 ∧ 100 ∣ d.nanos
  early : d.Before epoch → d.sinceEpoch < 100

theorem durationToTicks_eq (duration : ℤ) :
    durationToTicks duration = checkedI64 (duration.tdiv 100) := by
  have parts : duration.tdiv (10 ^ 9) * 10 ^ 7 + (duration.tmod (10 ^ 9)).tdiv 100 =
      duration.tdiv 100 ∧ (0 ≤ duration.tdiv (10 ^ 9) ∧ 0 ≤ (duration.tmod (10 ^ 9)).tdiv 100 ∨
        duration.tdiv (10 ^ 9) ≤ 0 ∧ (duration.tmod (10 ^ 9)).tdiv 100 ≤ 0) := by
    obtain ⟨size, rfl | rfl⟩ := Int.eq_nat_or_neg duration
    all_goals
      simp only [Int.neg_tdiv, Int.neg_tmod, ← Int.ofNat_tdiv, ← Int.ofNat_tmod,
        show (10 ^ 9 : ℤ) = (10 ^ 9 : ℕ) by rfl, show (100 : ℤ) = (100 : ℕ) by rfl]
      omega
  obtain ⟨sum, same⟩ := parts
  rw [durationToTicks, checkedI64]
  split
  · rw [bind_eq_bind, bind_some, sum]
  · rw [checkedI64, if_neg (by omega)]
    rfl

theorem tdiv_hundred (duration : ℤ) :
    duration.tdiv 100 = if 0 ≤ duration then duration / 100 else -(-duration / 100) := by
  split
  · next least => exact Int.tdiv_eq_ediv_of_nonneg least
  · rw [← Int.tdiv_eq_ediv_of_nonneg (by omega), Int.neg_tdiv, neg_neg]

theorem decode_of_ne {value : ℤ} (lower : value ≠ 2 ^ 63 - 1) :
    (decode value).seconds = value / 10 ^ 7 ∧
      ((decode value).nanos : ℤ) = value % 10 ^ 7 * 100 := by
  rw [decode, if_neg lower]
  have total : value.tdiv (10 ^ 7) * 10 ^ 9 + (value - value.tdiv (10 ^ 7) * 10 ^ 7) * 100 =
      value * 100 := by ring
  simp only [total, afterEpoch, fromUtc]
  omega

theorem decode_whole (value : ℤ) : (decode value).nanos < 10 ^ 9 ∧ 100 ∣ (decode value).nanos := by
  rw [decode]
  split
  · decide
  · simp only [afterEpoch, fromUtc]
    omega

variable {ticks : ℤ}

theorem decode_checkedTicks_of_nonpos (early : ticks ≤ 0) :
    decode (checkedTicks ticks) = epoch := by
  have sent : checkedTicks ticks = 0 := by
    rw [checkedTicks, endtimesTicks]
    split_ifs <;> omega
  rw [sent]
  decide

theorem decode_checkedTicks_of_late (late : endtimesTicks ≤ ticks) :
    decode (checkedTicks ticks) = endtimes := by
  rw [endtimesTicks] at late
  obtain rfl | later := late.eq_or_lt
  · decide
  · rw [checkedTicks, if_neg (by omega), if_pos (by exact later)]
    rfl

theorem roundTrip_iff (d : DateTime) : (encode d).map decode = some d.clamp ↔ d.ComesBack := by
  have bound := d.bound
  rw [encode, durationToTicks_eq, checkedI64]
  split
  · next fits =>
    have since : d.sinceEpoch = d.seconds * 10 ^ 9 + d.nanos := rfl
    have total := tdiv_hundred d.sinceEpoch
    rw [map_some, map_some, some_inj, clamp]
    by_cases early : d.Before epoch
    · rw [if_pos early]
      have negative : d.seconds < 0 := by simpa [Before, epoch] using early
      refine ⟨fun back => ⟨fits, fun after => absurd early after, fun _ => ?_⟩, fun back => ?_⟩
      · by_contra positive
        rw [checkedTicks_of_within (by omega) (by rw [endtimesTicks]; omega)] at back
        have read := decode_of_ne (show d.sinceEpoch.tdiv 100 ≠ _ by omega)
        simp only [back, epoch] at read
        omega
      · have := back.early early
        exact decode_checkedTicks_of_nonpos (by omega)
    rw [if_neg early]
    by_cases late : endtimes.Before d
    · rw [if_pos late]
      refine iff_of_true (decode_checkedTicks_of_late ?_)
        ⟨fits, fun _ before => absurd late before, fun before => absurd before early⟩
      simp only [Before, endtimes] at late
      rw [endtimesTicks]
      omega
    · rw [if_neg late]
      refine ⟨fun back =>
        ⟨fits, fun _ _ => back ▸ decode_whole _, fun before => absurd before early⟩,
        fun back => ?_⟩
      obtain ⟨unleaped, whole⟩ := back.whole early late
      simp only [Before, epoch, endtimes] at early late
      rw [checkedTicks_of_within (by omega) (by rw [endtimesTicks]; omega)]
      have read := decode_of_ne (show d.sinceEpoch.tdiv 100 ≠ _ by omega)
      ext <;> omega
  · next fits => exact iff_of_false nofun fun back => fits back.fits

theorem decode_mono_iff (low high : ℤ) :
    (low ≤ high → ¬ (decode high).Before (decode low)) ↔
      ¬ (high = 2 ^ 63 - 1 ∧ endtimesTicks < low ∧ low < high) := by
  have last : (decode (2 ^ 63 - 1)).seconds = 265046774399 ∧ (decode (2 ^ 63 - 1)).nanos = 0 :=
    ⟨rfl, rfl⟩
  rw [endtimesTicks, Before]
  by_cases lowest : low = 2 ^ 63 - 1 <;> by_cases highest : high = 2 ^ 63 - 1
  · rw [lowest, highest]
    omega
  · have read := decode_of_ne highest
    rw [lowest]
    omega
  · have read := decode_of_ne lowest
    rw [highest]
    omega
  · have read := decode_of_ne lowest
    have next := decode_of_ne highest
    omega

/-- **The codec** returns a date-time, clamped, just where it comes back, and keeps the order of two
numbers unless one is of a later year than 9999 and the other the highest. -/
theorem codec_iff (d : DateTime) (low high : ℤ) :
    ((encode d).map decode = some d.clamp ∧ (low ≤ high → ¬ (decode high).Before (decode low))) ↔
      d.ComesBack ∧ ¬ (high = 2 ^ 63 - 1 ∧ endtimesTicks < low ∧ low < high) :=
  and_congr (roundTrip_iff d) (decode_mono_iff low high)

/-- One nanosecond of 2000 is cut off. -/
theorem parsed_cut : ∃ d : DateTime, d.Produced ∧ (encode d).map decode ≠ some d.clamp :=
  ⟨clamp ⟨12591158400, 1, by decide⟩, .parseFromRfc3339 _, by decide⟩

end DateTime

end AsyncOpcua.Types
