/-
**A list cut into consecutive parts, and a list read piece by piece.**
-/

import Mathlib.Order.Monotone.Basic
import Mathlib.Data.List.Basic

namespace AsyncOpcua.Foundation

variable {α : Type*}

/-! ### Parts -/

/-- The items from one place up to another. -/
def part (items : List α) (first last : ℕ) : List α := (items.drop first).take (last - first)

open List

theorem length_part {items : List α} {last : ℕ} (first : ℕ) (bounded : last ≤ items.length) :
    (part items first last).length = last - first := by
  rw [part, length_take, length_drop]
  omega

theorem part_self (items : List α) (place : ℕ) : part items place place = [] := by
  rw [part, Nat.sub_self, take_zero]

theorem part_append_part (items : List α) {first middle last : ℕ} (before : first ≤ middle)
    (after : middle ≤ last) : part items first middle ++ part items middle last =
      part items first last := by
  have sum : last - first = (middle - first) + (last - middle) := by omega
  have place : first + (middle - first) = middle := by omega
  unfold part
  rw [sum, take_add, drop_drop, place]

/-- **The parts between growing places, put together,** are the list up to the last place. -/
theorem flatten_parts (items : List α) {cut : ℕ → ℕ} (start : cut 0 = 0) (grows : Monotone cut)
    (count : ℕ) : ((List.range count).map fun index =>
      part items (cut index) (cut (index + 1))).flatten = items.take (cut count) := by
  induction count with
  | zero =>
    rw [start, take_zero]
    rfl
  | succ count ih =>
    have whole : items.take (cut count) = part items 0 (cut count) := by
      rw [part, drop_zero, Nat.sub_zero]
    rw [range_succ, map_append, flatten_append, ih, whole]
    show part items 0 (cut count) ++ (part items (cut count) (cut (count + 1)) ++ []) = _
    rw [append_nil, part_append_part items (Nat.zero_le _) (grows (Nat.le_succ count)), part,
      drop_zero, Nat.sub_zero]

/-! ### Reading piece by piece -/

inductive Deliveries : List α → List ℕ → List (List α) → Prop
  | nil (items : List α) : Deliveries items [] []
  | read (piece rest : List α) (size : ℕ) {sizes : List ℕ} {pieces : List (List α)} :
      piece.length ≤ size → (piece = [] → size = 0 ∨ rest = []) →
      Deliveries rest sizes pieces → Deliveries (piece ++ rest) (size :: sizes) (piece :: pieces)

namespace Deliveries

variable {items : List α} {sizes : List ℕ} {pieces : List (List α)}

theorem flatten_eq (reads : Deliveries items sizes pieces)
    (enough : items.length ≤ sizes.countP (0 < ·)) : pieces.flatten = items := by
  induction reads with
  | nil items => exact (eq_nil_of_length_eq_zero (Nat.le_zero.mp enough)).symm
  | read piece rest size fits ends _ ih =>
    rw [flatten_cons]
    congr 1
    by_cases beyond : rest = []
    · refine ih ?_
      rw [beyond]
      exact Nat.zero_le _
    · refine ih ?_
      rw [length_append, countP_cons] at enough
      by_cases empty : piece = []
      · have room : size = 0 := (ends empty).resolve_right beyond
        rw [empty, room] at enough
        simpa using enough
      · have some : 0 < piece.length := length_pos_of_ne_nil empty
        split_ifs at enough <;> omega

end Deliveries

/-! ### Chunks -/

/-- Parts of a given size, at most so many. The last one may be shorter, and none is empty. -/
def chunks (size : ℕ) : ℕ → List α → List (List α)
  | 0, _ => []
  | count + 1, items =>
    match items.take size with
    | [] => []
    | chunk => chunk :: chunks size count (items.drop size)

def inChunks (size : ℕ) (items : List α) : List (List α) := chunks size items.length items

@[simp]
theorem inChunks_zero (items : List α) : inChunks 0 items = [] := by
  cases items with
  | nil | cons => rfl

theorem ne_nil_of_mem_chunks {size count : ℕ} {items chunk : List α}
    (here : chunk ∈ chunks size count items) : chunk ≠ [] := by
  induction count generalizing items with
  | zero => cases here
  | succ count ih =>
    rw [chunks] at here
    split at here
    · cases here
    · rename_i some
      rcases mem_cons.mp here with rfl | later
      · exact some
      · exact ih later

theorem flatten_chunks {size : ℕ} (positive : 0 < size) {count : ℕ} {items : List α}
    (enough : items.length ≤ count) : (chunks size count items).flatten = items := by
  induction count generalizing items with
  | zero =>
    rw [length_eq_zero_iff.mp (Nat.le_zero.mp enough)]
    rfl
  | succ count ih =>
    cases items with
    | nil =>
      rw [chunks, take_nil]
      rfl
    | cons item items =>
      obtain ⟨size, rfl⟩ := Nat.exists_eq_succ_of_ne_zero positive.ne'
      have rest : (items.drop size).length ≤ count := by
        rw [length_cons] at enough
        rw [length_drop]
        omega
      show (item :: items.take size) ++ (chunks size.succ count (items.drop size)).flatten = _
      rw [ih rest, cons_append, take_append_drop]

theorem flatten_inChunks {size : ℕ} (positive : 0 < size) (items : List α) :
    (inChunks size items).flatten = items :=
  flatten_chunks positive le_rfl

end AsyncOpcua.Foundation
