/-
**Non-negative numbers in the 32-bit floating-point format.**

The values that occur are rationals between 2 ^ -126 and 2 ^ 128, or zero: none is too small or too
large for the exponent. A quotient by zero is infinite.

* `roundHalfEven`, `nearest` — 24 bits of precision, ties to even;
* `nearest_pos` — what is positive stays so;
* `Binary64.nearest` — the same with 53 bits, for integers.
-/

import Mathlib.Data.Int.Log
import Mathlib.Data.Rat.Floor

namespace AsyncOpcua.Foundation

/-- The nearest integer, the even one of two. -/
def roundHalfEven (q : ℚ) : ℤ :=
  if q - ⌊q⌋ < 1 / 2 then ⌊q⌋
  else if 1 / 2 < q - ⌊q⌋ then ⌊q⌋ + 1
  else if ⌊q⌋ % 2 = 0 then ⌊q⌋ else ⌊q⌋ + 1

theorem floor_le_roundHalfEven (q : ℚ) : ⌊q⌋ ≤ roundHalfEven q := by
  unfold roundHalfEven
  split_ifs <;> omega

theorem roundHalfEven_intCast (z : ℤ) : roundHalfEven z = z := by
  rw [roundHalfEven, Int.floor_intCast, sub_self, if_pos (by norm_num)]

/-- **A float that is not negative.** -/
inductive Binary32
  | finite (value : ℚ)
  | infinite

namespace Binary32

/-- The last of the 24 bits of a number. -/
def unit (q : ℚ) : ℚ := 2 ^ (Int.log 2 q - 23)

def nearest (q : ℚ) : ℚ := roundHalfEven (q / unit q) * unit q

theorem nearest_pos {q : ℚ} (positive : 0 < q) : 0 < nearest q := by
  have unitPos : 0 < unit q := zpow_pos (by norm_num) _
  have bits : (2 : ℚ) ^ (23 : ℤ) ≤ q / unit q := by
    rw [le_div_iff₀ unitPos, unit, ← zpow_add₀ (by norm_num)]
    have lower := Int.zpow_log_le_self (b := 2) (by norm_num) positive
    simpa using lower
  have one : 1 ≤ ⌊q / unit q⌋ := by
    rw [Int.le_floor]
    exact le_trans (by norm_num) bits
  have rounded : 0 < roundHalfEven (q / unit q) :=
    lt_of_lt_of_le (by omega) (floor_le_roundHalfEven _)
  exact mul_pos (by exact_mod_cast rounded) unitPos

/-- The conversion of an integer. -/
def ofNat (n : ℕ) : Binary32 := .finite (nearest n)

def div : Binary32 → Binary32 → Binary32
  | .finite a, .finite b => if b = 0 then .infinite else .finite (nearest (a / b))
  | .finite _, .infinite => .finite 0
  | .infinite, _ => .infinite

theorem div_finite {a b : ℚ} (divides : b ≠ 0) :
    div (.finite a) (.finite b) = .finite (nearest (a / b)) :=
  if_neg divides

/-- Rounded up. Every float of 2 ^ 23 and more is an integer, so that this is exact. -/
def ceil : Binary32 → Binary32
  | .finite value => .finite ⌈value⌉
  | .infinite => .infinite

/-- The conversion to an integer, which stays below a bound. -/
def toNat (most : ℕ) : Binary32 → ℕ
  | .finite value => min ⌊value⌋.toNat most
  | .infinite => most

end Binary32

/-! ### Integers in the 64-bit format -/

namespace Binary64

/-- The last of the 53 bits of a number. -/
def unit (q : ℚ) : ℚ := 2 ^ (Int.log 2 q - 52)

def nearest (q : ℚ) : ℚ := roundHalfEven (q / unit q) * unit q

theorem nearest_natCast {n : ℕ} (small : n < 2 ^ 53) : nearest n = n := by
  have nonzero : unit n ≠ 0 := zpow_ne_zero _ (by norm_num)
  have short : Int.log 2 (n : ℚ) = (Nat.log 2 n : ℕ) := Int.log_natCast 2 n
  have bits : Nat.log 2 n ≤ 52 := Nat.lt_succ_iff.mp (Nat.log_lt_of_lt_pow' (by norm_num) small)
  have whole : (n : ℚ) / unit n = ((n * 2 ^ (52 - Nat.log 2 n) : ℕ) : ℤ) := by
    rw [unit, short, div_eq_mul_inv, ← zpow_neg]
    have exponent : -((Nat.log 2 n : ℕ) - 52 : ℤ) = ((52 - Nat.log 2 n : ℕ) : ℤ) := by omega
    rw [exponent, zpow_natCast]
    push_cast
    ring
  rw [nearest, whole, roundHalfEven_intCast, ← whole, div_mul_cancel₀ _ nonzero]

end Binary64

end AsyncOpcua.Foundation
