/-
**Binary floats with some bits of precision, as rationals.**

* `represents_roundTo` — what is rounded is such a number.
-/

import AsyncOpcua.Foundation.Binary32
import Mathlib.Tactic.Positivity

namespace AsyncOpcua.Foundation

/-- A rational is a number of so many bits times a power of two. -/
def Represents (bits : ℕ) (q : ℚ) : Prop := ∃ m e : ℤ, |m| < 2 ^ bits ∧ q = m * 2 ^ e

/-- **The nearest multiple of a power of two.** -/
def roundAt (e : ℤ) (q : ℚ) : ℚ := roundHalfEven (q / 2 ^ e) * 2 ^ e

/-- The last of so many bits of a number. -/
def unitOf (bits : ℕ) (q : ℚ) : ℚ := 2 ^ (Int.log 2 |q| + 1 - bits)

/-- **The nearest number with so many bits.** -/
def roundTo (bits : ℕ) (q : ℚ) : ℚ := roundHalfEven (q / unitOf bits q) * unitOf bits q

/-! ### What is rounded is a float -/

variable {q : ℚ}

theorem abs_roundHalfEven_le {bound : ℤ} (below : |q| < bound) : |roundHalfEven q| ≤ bound := by
  obtain ⟨lower, upper⟩ := abs_lt.mp below
  have floor : -bound ≤ ⌊q⌋ := Int.le_floor.mpr (by push_cast; exact lower.le)
  have next : ⌊q⌋ < bound := Int.floor_lt.mpr upper
  rw [abs_le, roundHalfEven]
  constructor <;> split_ifs <;> omega

variable {bits : ℕ}

/-- **What is rounded** is a float, when no more than its last bits are lost. -/
theorem represents_roundAt (some : 0 < bits) {e : ℤ} (coarse : Int.log 2 |q| + 1 - bits ≤ e) :
    Represents bits (roundAt e q) := by
  have one : (1 : ℤ) < 2 ^ bits := one_lt_pow₀ (by norm_num) some.ne'
  have positive : (0 : ℚ) < 2 ^ e := zpow_pos (by norm_num) e
  have short : |q / 2 ^ e| < ((2 ^ bits : ℤ) : ℚ) := by
    have less := Int.lt_zpow_succ_log_self (b := 2) (by norm_num) |q|
    have more : (2 : ℚ) ^ (Int.log 2 |q| + 1) ≤ 2 ^ (bits + e : ℤ) :=
      zpow_le_zpow_right₀ (by norm_num) (by omega)
    rw [abs_div, abs_of_pos positive, div_lt_iff₀ positive]
    push_cast
    rw [← zpow_natCast, ← zpow_add₀ (by norm_num)]
    exact lt_of_lt_of_le (by exact_mod_cast less) more
  have bound := abs_roundHalfEven_le short
  rcases lt_or_eq_of_le bound with less | full
  · exact ⟨_, _, less, rfl⟩
  · -- all bits and one more: a power of two
    rcases abs_choice (roundHalfEven (q / 2 ^ e)) with same | same
    · refine ⟨1, bits + e, by rw [abs_one]; exact one, ?_⟩
      rw [roundAt, ← same, full, zpow_add₀ (by norm_num), zpow_natCast]
      push_cast
      ring
    · refine ⟨-1, bits + e, by rw [abs_neg, abs_one]; exact one, ?_⟩
      have value : roundHalfEven (q / 2 ^ e) = -2 ^ bits := by omega
      rw [roundAt, value, zpow_add₀ (by norm_num), zpow_natCast]
      push_cast
      ring

theorem represents_roundTo (some : 0 < bits) (q : ℚ) : Represents bits (roundTo bits q) :=
  represents_roundAt some (le_refl _)

theorem Represents.mono {more : ℕ} (float : Represents bits q) (le : bits ≤ more) :
    Represents more q := by
  obtain ⟨m, e, small, same⟩ := float
  exact ⟨m, e, small.trans_le (pow_le_pow_right₀ (by norm_num) le), same⟩

end AsyncOpcua.Foundation
