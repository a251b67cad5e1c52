/-
**The info bits of a status code.**

* `getBool_setBool`, `getBool_setBool_of_ne` — setting one bit leaves the others.
-/

import AsyncOpcua.Types.DataValue
import Mathlib.Data.BitVec

namespace AsyncOpcua.Types.StatusCode

def overflow (code : StatusCode) : Bool := code.getBool 7

variable {offset : ℕ}

open BitVec

section

variable (code : StatusCode)

theorem getBool_eq (inside : offset < 32) : code.getBool offset = code.getLsbD offset := by
  have bit : ∀ i,
    (code &&& (1#32 <<< offset)).getLsbD i = (code.getLsbD offset && decide (i = offset)) := by
    intro i
    by_cases same : i = offset
    · subst same
      simp [inside]
    · have apart : ¬ (offset ≤ i ∧ i - offset = 0) := by omega
      by_cases before : i < offset
      · simp [same, before]
      · have later : i - offset ≠ 0 := by omega
        simp [same, later]
  unfold getBool
  cases set : code.getLsbD offset with
  | false =>
    have zero : code &&& (1#32 <<< offset) = 0#32 :=
      eq_of_getLsbD_eq fun i _ => by rw [bit, set, getLsbD_zero, Bool.false_and]
    rw [zero]
    rfl
  | true =>
    refine bne_iff_ne.mpr fun zero => ?_
    have there := bit offset
    rw [zero, set] at there
    simp at there

theorem getLsbD_setBool (value : Bool) (inside : offset < 32) (i : ℕ) :
    (code.setBool value offset).getLsbD i = if i = offset then value else code.getLsbD i := by
  unfold setBool
  by_cases same : i = offset
  · subst same
    cases value <;> simp [inside]
  · by_cases before : i < offset
    · cases value <;> by_cases wide : i < 32 <;> simp [same, before, wide] <;>
        exact getLsbD_of_ge _ _ (not_lt.mp wide)
    · have later : i - offset ≠ 0 := by omega
      cases value <;> by_cases wide : i < 32 <;> simp [same, later, wide] <;>
        exact getLsbD_of_ge _ _ (not_lt.mp wide)

@[simp]
theorem getBool_setBool (value : Bool) (inside : offset < 32) :
    (code.setBool value offset).getBool offset = value := by
  rw [getBool_eq _ inside, getLsbD_setBool _ _ inside, if_pos rfl]

theorem getBool_setBool_of_ne (value : Bool) {other : ℕ} (inside : offset < 32)
    (otherInside : other < 32) (apart : other ≠ offset) :
    (code.setBool value offset).getBool other = code.getBool other := by
  rw [getBool_eq _ otherInside, getBool_eq _ otherInside, getLsbD_setBool _ _ inside, if_neg apart]

@[simp]
theorem overflow_setOverflow : (code.setOverflow true).overflow = true :=
  getBool_setBool code true (by decide)

@[simp]
theorem overflow_setSemanticsChanged : (code.setSemanticsChanged true).overflow = code.overflow :=
  getBool_setBool_of_ne code true (by decide) (by decide) (by decide)

@[simp]
theorem semanticsChanged_setSemanticsChanged :
    (code.setSemanticsChanged true).semanticsChanged = true :=
  getBool_setBool code true (by decide)

@[simp]
theorem semanticsChanged_setOverflow :
    (code.setOverflow true).semanticsChanged = code.semanticsChanged :=
  getBool_setBool_of_ne code true (by decide) (by decide) (by decide)

end

/-- **The code without the bits that a queue sets:** Overflow and SemanticsChanged. -/
def content (code : StatusCode) : StatusCode := (code.setBool false 7).setBool false 14

theorem content_eq_of_getLsbD {first second : StatusCode}
    (same : ∀ i, i ≠ 7 → i ≠ 14 → first.getLsbD i = second.getLsbD i) :
    first.content = second.content := by
  refine eq_of_getLsbD_eq fun i _ => ?_
  unfold content
  iterate 4 rw [getLsbD_setBool _ _ (by decide)]
  by_cases semantic : i = 14
  · rw [if_pos semantic, if_pos semantic]
  · by_cases marked : i = 7
    · rw [if_neg semantic, if_neg semantic, if_pos marked, if_pos marked]
    · rw [if_neg semantic, if_neg semantic, if_neg marked, if_neg marked, same i marked semantic]

@[simp]
theorem content_setOverflow (code : StatusCode) : (code.setOverflow true).content = code.content :=
  content_eq_of_getLsbD fun i notOverflow _ => by
    rw [setOverflow, getLsbD_setBool _ _ (by decide), if_neg notOverflow]

@[simp]
theorem content_setSemanticsChanged (code : StatusCode) :
    (code.setSemanticsChanged true).content = code.content :=
  content_eq_of_getLsbD fun i _ notSemantics => by
    rw [setSemanticsChanged, getLsbD_setBool _ _ (by decide), if_neg notSemantics]

end AsyncOpcua.Types.StatusCode
