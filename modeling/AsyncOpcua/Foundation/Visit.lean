/-
**Visiting orders of unordered collections.**

A hash set or hash map is walked in an order its user does not choose; `VisitOrder` is any such
order. An ordered set is walked upwards: `ascending`.

* `ascending_pairwise`, `mem_ascending` — the upward walk is one.
-/

import Mathlib.Data.List.Sort
import Mathlib.Data.Finset.Card

namespace AsyncOpcua.Foundation

open List

/-- **A visiting order:** for every finite set, its elements in some order, each once. -/
structure VisitOrder where
  order : Finset ℕ → List ℕ
  nodup : ∀ s, (order s).Nodup
  mem_order : ∀ s x, x ∈ order s ↔ x ∈ s

attribute [simp] VisitOrder.mem_order

/-- The elements of a set, upwards. -/
def ascending (s : Finset ℕ) : List ℕ :=
  Quotient.liftOn s.val (insertionSort (· ≤ ·)) fun a b same =>
    List.Perm.eq_of_pairwise' (pairwise_insertionSort _ a) (pairwise_insertionSort _ b)
      (((perm_insertionSort _ a).trans same).trans (perm_insertionSort _ b).symm)

section

variable (s : Finset ℕ)

theorem ascending_perm : (ascending s : Multiset ℕ) = s.val := by
  obtain ⟨val, nodup⟩ := s
  induction val using Quotient.inductionOn with
  | h l => exact Quotient.sound (perm_insertionSort _ l)

@[simp]
theorem mem_ascending (x : ℕ) : x ∈ ascending s ↔ x ∈ s := by
  rw [← Multiset.mem_coe, ascending_perm, Finset.mem_val]

theorem ascending_nodup : (ascending s).Nodup := by
  rw [← Multiset.coe_nodup, ascending_perm]
  exact s.nodup

theorem ascending_pairwise : (ascending s).Pairwise (· ≤ ·) := by
  obtain ⟨val, nodup⟩ := s
  induction val using Quotient.inductionOn with
  | h l => exact pairwise_insertionSort _ l

end

def VisitOrder.upward : VisitOrder where
  order := ascending
  nodup := ascending_nodup
  mem_order := mem_ascending

end AsyncOpcua.Foundation
