/-
**Going through a list and swapping the last element in for each one taken out.**

* `swapSweep_out_perm`, `swapSweep_left_perm` — each element is looked at once.
-/

import Mathlib.Data.List.Perm.Basic

namespace AsyncOpcua.Foundation

open List

variable {α : Type*}

def swapSweepWith (goes : α → Bool) : ℕ → List α → List α × List α
  | 0, elements => ([], elements)
  | _ + 1, [] => ([], [])
  | fuel + 1, first :: rest =>
    if goes first then
      let (out, left) := swapSweepWith goes fuel (rest.getLast?.toList ++ rest.dropLast)
      (first :: out, left)
    else
      let (out, left) := swapSweepWith goes fuel rest
      (out, first :: left)

/-- **The elements that go,** in the order they are taken out, and the others. -/
def swapSweep (goes : α → Bool) (elements : List α) : List α × List α :=
  swapSweepWith goes elements.length elements

variable (goes : α → Bool)

theorem getLast_append_dropLast_perm (elements : List α) :
    (elements.getLast?.toList ++ elements.dropLast).Perm elements := by
  rcases eq_nil_or_concat elements with rfl | ⟨front, last, rfl⟩
  · exact List.Perm.refl _
  · rw [concat_eq_append, getLast?_concat, dropLast_concat]
    exact perm_append_comm

theorem swapSweepWith_perm {fuel : ℕ} {elements : List α} (enough : elements.length ≤ fuel) :
    (swapSweepWith goes fuel elements).1.Perm (elements.filter goes) ∧
      (swapSweepWith goes fuel elements).2.Perm (elements.filter (!goes ·)) := by
  induction fuel generalizing elements with
  | zero =>
    rw [eq_nil_of_length_eq_zero (Nat.le_zero.mp enough)]
    exact ⟨.refl _, .refl _⟩
  | succ fuel ih =>
    cases elements with
    | nil => exact ⟨.refl _, .refl _⟩
    | cons first rest =>
      have short : rest.length ≤ fuel := Nat.le_of_succ_le_succ enough
      unfold swapSweepWith
      by_cases go : goes first
      · have rotated := getLast_append_dropLast_perm rest
        have ⟨out, left⟩ := ih (Nat.le_trans (Nat.le_of_eq rotated.length_eq) short)
        rw [if_pos go, filter_cons_of_pos go, filter_cons_of_neg (by simp [go])]
        exact ⟨(out.trans (rotated.filter _)).cons first, left.trans (rotated.filter _)⟩
      · have ⟨out, left⟩ := ih short
        rw [if_neg go, filter_cons_of_neg go, filter_cons_of_pos (by simp [go])]
        exact ⟨out, left.cons first⟩

theorem swapSweep_out_perm (elements : List α) :
    (swapSweep goes elements).1.Perm (elements.filter goes) :=
  (swapSweepWith_perm goes (Nat.le_refl _)).1

theorem swapSweep_left_perm (elements : List α) :
    (swapSweep goes elements).2.Perm (elements.filter (!goes ·)) :=
  (swapSweepWith_perm goes (Nat.le_refl _)).2

end AsyncOpcua.Foundation
