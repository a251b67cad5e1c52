/-
**Collecting into batches of a limited size.**

Elements are collected one after the other; a full collection becomes a batch, and what is left at
the end becomes the last one. A limit of zero is none.

* `Batches.push`, `Batches.sealed` — one more element, and the end;
* `mem_collect` — none is empty, and none is longer than the limit.
-/

import Mathlib.Data.List.Basic

namespace AsyncOpcua.Foundation

open List

variable {α : Type*}

structure Batches (α : Type*) where
  closed : List (List α)
  collected : List α

namespace Batches

def empty : Batches α := ⟨[], []⟩

def close (batches : Batches α) : Batches α := ⟨batches.closed ++ [batches.collected], []⟩

/-- Collect one element; a full collection is closed. -/
def push (limit : ℕ) (batches : Batches α) (a : α) : Batches α :=
  if limit ≤ (batches.collected ++ [a]).length ∧ 0 < limit then
    close ⟨batches.closed, batches.collected ++ [a]⟩
  else ⟨batches.closed, batches.collected ++ [a]⟩

def sealed (batches : Batches α) : List (List α) :=
  if batches.collected.isEmpty then batches.closed else batches.close.closed

/-- **What all batches are like:** together they are the elements so far, and none is empty or
longer than the limit; nor is there more collected. -/
structure Holds (limit : ℕ) (batches : Batches α) (l : List α) : Prop where
  flatten : batches.closed.flatten ++ batches.collected = l
  closed : ∀ batch ∈ batches.closed, batch ≠ [] ∧ (0 < limit → batch.length ≤ limit)
  collected : 0 < limit → batches.collected.length < limit

theorem holds_empty (limit : ℕ) : (empty : Batches α).Holds limit [] :=
  ⟨rfl, fun _ there => absurd there not_mem_nil, fun positive => positive⟩

variable {limit : ℕ} {batches : Batches α} {l : List α}

theorem Holds.push (holds : batches.Holds limit l) (a : α) :
    (batches.push limit a).Holds limit (l ++ [a]) := by
  have together : batches.closed.flatten ++ (batches.collected ++ [a]) = l ++ [a] := by
    rw [← append_assoc, holds.flatten]
  unfold Batches.push
  split_ifs with full
  · refine ⟨?_, ?_, fun positive => positive⟩
    · simpa [close] using together
    · intro batch there
      rcases mem_append.mp there with before | last
      · exact holds.closed batch before
      · rw [mem_singleton.mp last]
        refine ⟨by simp, fun positive => ?_⟩
        have := holds.collected positive
        rw [length_append, length_singleton]
        omega
  · refine ⟨together, holds.closed, fun positive => ?_⟩
    by_contra long
    exact full ⟨Nat.not_lt.mp long, positive⟩

theorem Holds.foldl_push (holds : batches.Holds limit l) (more : List α) :
    (more.foldl (Batches.push limit) batches).Holds limit (l ++ more) := by
  induction more generalizing batches l with
  | nil => rwa [append_nil]
  | cons a rest ih =>
    rw [append_cons]
    exact ih (holds.push a)

theorem Holds.sealed (holds : batches.Holds limit l) :
    batches.sealed.flatten = l ∧
      ∀ batch ∈ batches.sealed, batch ≠ [] ∧ (0 < limit → batch.length ≤ limit) := by
  unfold Batches.sealed
  split_ifs with nothing
  · have rest := isEmpty_iff.mp nothing
    refine ⟨?_, holds.closed⟩
    rw [← holds.flatten, rest, append_nil]
  · refine ⟨?_, fun batch there => ?_⟩
    · rw [← holds.flatten]
      simp [close]
    · rcases mem_append.mp there with before | last
      · exact holds.closed batch before
      · rw [mem_singleton.mp last]
        exact ⟨fun none => nothing (isEmpty_iff.mpr none), fun positive =>
          Nat.le_of_lt (holds.collected positive)⟩

end Batches

def collect (limit : ℕ) (l : List α) : List (List α) :=
  (l.foldl (Batches.push limit) Batches.empty).sealed

/-- **No element is lost, taken twice or moved.** -/
theorem flatten_collect (limit : ℕ) (l : List α) : (collect limit l).flatten = l :=
  (((Batches.holds_empty limit).foldl_push l).sealed).1

theorem mem_collect {limit : ℕ} {l batch : List α} (there : batch ∈ collect limit l) :
    batch ≠ [] ∧ (0 < limit → batch.length ≤ limit) :=
  (((Batches.holds_empty limit).foldl_push l).sealed).2 batch there

end AsyncOpcua.Foundation
