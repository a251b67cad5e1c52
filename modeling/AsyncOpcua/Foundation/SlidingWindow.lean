/-
**Sliding windows over numbers that must not be taken twice.**

A window remembers the highest number that was taken, and which numbers were. A number is admitted
if it is higher than all before it, or if it is at most a width below the highest and was not taken.
So it is enough to remember the numbers within the width.

* `Admits`, `record` — what is admitted, and the window after it.
-/

import Mathlib.Order.Lattice.Nat

namespace AsyncOpcua.Foundation

structure SlidingWindow where
  highest : ℕ
  taken : Finset ℕ
  highest_mem : highest ∈ taken
  le_highest : ∀ n ∈ taken, n ≤ highest

namespace SlidingWindow

/-- The first number. -/
def start (n : ℕ) : SlidingWindow where
  highest := n
  taken := {n}
  highest_mem := Finset.mem_singleton_self n
  le_highest _ mem := (Finset.mem_singleton.mp mem).le

def record (window : SlidingWindow) (n : ℕ) : SlidingWindow where
  highest := max window.highest n
  taken := insert n window.taken
  highest_mem := by
    obtain low | high := Nat.le_total n window.highest
    · rw [Nat.max_eq_left low]
      exact Finset.mem_insert_of_mem window.highest_mem
    · rw [Nat.max_eq_right high]
      exact Finset.mem_insert_self n _
  le_highest := by
    intro m mem
    obtain rfl | old := Finset.mem_insert.mp mem
    · exact Nat.le_max_right _ _
    · exact Nat.le_trans (window.le_highest m old) (Nat.le_max_left _ _)

def Admits (width : ℕ) (window : SlidingWindow) (n : ℕ) : Prop :=
  window.highest < n ∨ window.highest < n + width ∧ n ∉ window.taken

variable {width : ℕ} {window : SlidingWindow} {n : ℕ}

/-- **Nothing is taken twice.** -/
theorem not_mem_of_admits (admits : window.Admits width n) : n ∉ window.taken := by
  obtain above | ⟨-, new⟩ := admits
  · intro mem
    exact absurd (window.le_highest n mem) (Nat.not_le.mpr above)
  · exact new

/-- A number is closer than a distance to all that were taken. -/
def Near (reach : ℕ) (window : SlidingWindow) (n : ℕ) : Prop :=
  ∀ m ∈ window.taken, m < n + reach ∧ n < m + reach

end SlidingWindow

end AsyncOpcua.Foundation
