/-
**Reflected cyclic redundancy checks, and the error bursts that they find.**

The register takes one bit at a time, and of a byte the lowest bit first. Where the polynomial has
its highest bit set, the register can be run backwards, so that two registers that differ stay
different.
-/

import Mathlib.Data.List.GetD
import Mathlib.Logic.Function.Iterate
import Mathlib.Algebra.Group.Nat.Defs

namespace AsyncOpcua.Foundation

open List BitVec

def BurstError (width : ℕ) (sent received : List Bool) : Prop :=
  ∃ before window window' after : List Bool,
    sent = before ++ window ++ after ∧ received = before ++ window' ++ after ∧
      window.length = window'.length ∧ window.length ≤ width ∧ window ≠ window'

namespace ReflectedCrc

variable {w : ℕ}

/-- The number that bits write, the lowest first. -/
def number (w : ℕ) (bits : List Bool) : BitVec w := (BitVec.ofBoolListLE bits).setWidth w

theorem getLsbD_number (bits : List Bool) (i : ℕ) :
    (number w bits).getLsbD i = (decide (i < w) && bits.getD i false) := by
  rw [number, getLsbD_setWidth, getLsbD_ofBoolListLE]

theorem number_cons (bit : Bool) (bits : List Bool) :
    number w (bit :: bits) = number w [bit] ^^^ number w bits <<< 1 := by
  refine eq_of_getLsbD_eq fun i inside => ?_
  rw [getLsbD_xor, getLsbD_shiftLeft, getLsbD_number, getLsbD_number, getLsbD_number]
  cases i with
  | zero => simp
  | succ i =>
    have here : i < w := by omega
    simp [inside, here]

theorem number_injective {bits bits' : List Bool} (same : bits.length = bits'.length)
    (fits : bits.length ≤ w) (equal : number w bits = number w bits') : bits = bits' := by
  refine ext_getElem same fun i inside inside' => ?_
  have at_i := congrArg (fun x => x.getLsbD i) equal
  simp only [getLsbD_number] at at_i
  rw [decide_eq_true (Nat.lt_of_lt_of_le inside fits), Bool.true_and, Bool.true_and,
    getD_eq_getElem _ _ inside, getD_eq_getElem _ _ inside'] at at_i
  exact at_i

/-! ### The register -/

section Register

variable (poly : BitVec w)

/-- One step of the register: the polynomial is added where a one drops out. -/
def shift (crc : BitVec w) : BitVec w :=
  if crc.getLsbD 0 then (crc >>> 1) ^^^ poly else crc >>> 1

/-- The register takes a bit. -/
def feedBit (crc : BitVec w) (bit : Bool) : BitVec w := shift poly (crc ^^^ number w [bit])

def feed (crc : BitVec w) (bits : List Bool) : BitVec w := bits.foldl (feedBit poly) crc

theorem feed_append (crc : BitVec w) (first second : List Bool) :
    feed poly crc (first ++ second) = feed poly (feed poly crc first) second :=
  foldl_append

theorem shift_xor (x y : BitVec w) : shift poly (x ^^^ y) = shift poly x ^^^ shift poly y := by
  unfold shift
  rw [getLsbD_xor, ushiftRight_xor_distrib]
  cases x.getLsbD 0 with
  | false =>
    cases y.getLsbD 0 with
    | false => rfl
    | true => exact BitVec.xor_assoc _ _ _
  | true =>
    cases y.getLsbD 0 with
    | false =>
      show (x >>> 1 ^^^ y >>> 1) ^^^ poly = x >>> 1 ^^^ poly ^^^ y >>> 1
      rw [BitVec.xor_assoc, BitVec.xor_assoc, BitVec.xor_comm (y >>> 1)]
    | true =>
      show x >>> 1 ^^^ y >>> 1 = x >>> 1 ^^^ poly ^^^ (y >>> 1 ^^^ poly)
      rw [BitVec.xor_comm (y >>> 1) poly, BitVec.xor_assoc, ← BitVec.xor_assoc poly poly,
        BitVec.xor_self, BitVec.zero_xor]

theorem shift_shiftLeft (x : BitVec w) (room : x.getLsbD (w - 1) = false) :
    shift poly (x <<< 1) = x := by
  have even : (x <<< 1).getLsbD 0 = false := by simp
  rw [shift, even]
  refine eq_of_getLsbD_eq fun i inside => ?_
  show ((x <<< 1) >>> 1).getLsbD i = x.getLsbD i
  rw [getLsbD_ushiftRight, getLsbD_shiftLeft]
  by_cases last : 1 + i < w
  · simp [last]
  · have top : i = w - 1 := by omega
    rw [top, room]
    simp [show ¬ 1 + (w - 1) < w by omega]

theorem feed_eq_iterate (crc : BitVec w) (bits : List Bool) (fits : bits.length ≤ w) :
    feed poly crc bits = (shift poly)^[bits.length] (crc ^^^ number w bits) := by
  induction bits generalizing crc with
  | nil =>
    have nothing : number w [] = 0 := eq_of_getLsbD_eq fun i _ => by simp [getLsbD_number]
    exact (BitVec.xor_zero).symm
  | cons bit bits ih =>
    rw [length_cons] at fits
    have room : (number w bits).getLsbD (w - 1) = false := by
      rw [getLsbD_number, getD_eq_default _ _ (by omega), Bool.and_false]
    calc feed poly crc (bit :: bits)
        = (shift poly)^[bits.length] (shift poly (crc ^^^ number w [bit]) ^^^ number w bits) :=
          ih _ (by omega)
      _ = (shift poly)^[bits.length] (shift poly (crc ^^^ number w (bit :: bits))) := by
          rw [number_cons bit bits, ← BitVec.xor_assoc, shift_xor poly (crc ^^^ number w [bit]),
            shift_shiftLeft poly _ room]
      _ = (shift poly)^[(bit :: bits).length] (crc ^^^ number w (bit :: bits)) := rfl

end Register

/-! ### Polynomials with their highest bit set -/

section Reversible

variable {poly : BitVec w} (high : poly.getLsbD (w - 1) = true)

include high

theorem shift_high (x : BitVec w) : (shift poly x).getLsbD (w - 1) = x.getLsbD 0 := by
  have shifted : (x >>> 1).getLsbD (w - 1) = false := by
    rw [getLsbD_ushiftRight]
    exact getLsbD_of_ge x _ (by omega)
  cases dropped : x.getLsbD 0 <;> simp [shift, dropped, shifted, high]

theorem shift_injective : Function.Injective (shift poly) := by
  intro x y same
  have lowest : x.getLsbD 0 = y.getLsbD 0 := by rw [← shift_high high, same, shift_high high]
  have rest : x >>> 1 = y >>> 1 := by
    unfold shift at same
    rw [lowest] at same
    cases dropped : y.getLsbD 0 with
    | false => simpa [dropped] using same
    | true =>
      rw [dropped, if_pos rfl, if_pos rfl] at same
      exact (BitVec.xor_left_inj poly).mp same
  refine eq_of_getLsbD_eq fun i inside => ?_
  cases i with
  | zero => exact lowest
  | succ i =>
    have at_i := congrArg (fun z => z.getLsbD i) rest
    simpa [getLsbD_ushiftRight, Nat.add_comm] using at_i

/-- **The same bits keep two registers apart.** -/
theorem feed_injective (bits : List Bool) : Function.Injective fun crc => feed poly crc bits := by
  induction bits with
  | nil => exact Function.injective_id
  | cons bit bits ih =>
    intro x y same
    exact (BitVec.xor_left_inj _).mp (shift_injective high (ih same))

/-- **An error burst that fits into the register leaves another register.** -/
theorem feed_ne_of_burst {sent received : List Bool} (burst : BurstError w sent received)
    (crc : BitVec w) : feed poly crc sent ≠ feed poly crc received := by
  obtain ⟨before, window, window', after, rfl, rfl, same, fits, other⟩ := burst
  rw [feed_append, feed_append, feed_append, feed_append]
  intro equal
  have inside := feed_injective high after equal
  rw [feed_eq_iterate poly _ window fits, feed_eq_iterate poly _ window' (same ▸ fits),
    ← same] at inside
  have numbers := (shift_injective high).iterate window.length inside
  exact other (number_injective same fits ((BitVec.xor_right_inj _).mp numbers))

end Reversible

/-! ### Bytes -/

def byteBits (byte : BitVec 8) : List Bool := (range 8).map byte.getLsbD

theorem feed_byteBits (poly crc : BitVec w) (byte : BitVec 8) (wide : 8 ≤ w) :
    feed poly crc (byteBits byte) = (shift poly)^[8] (crc ^^^ byte.setWidth w) := by
  have written : number w (byteBits byte) = byte.setWidth w := by
    refine eq_of_getLsbD_eq fun i inside => ?_
    rw [getLsbD_number, getLsbD_setWidth]
    by_cases low : i < 8
    · rw [getD_eq_getElem _ _ (by simpa [byteBits] using low)]
      simp [byteBits]
    · rw [getD_eq_default _ _ (by simpa [byteBits] using Nat.le_of_not_lt low),
        getLsbD_of_ge _ _ (Nat.le_of_not_lt low)]
  rw [feed_eq_iterate poly crc _ (by simpa [byteBits] using wide), written]
  rfl

end ReflectedCrc

end AsyncOpcua.Foundation
