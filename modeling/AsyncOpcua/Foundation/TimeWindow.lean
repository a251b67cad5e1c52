/-
**What lies before, within and after an interval of a list in time order.**

* `lastBefore`, `firstAfter` — how an interval cuts the list;
* `lastBefore_append`, `filter_append_of_late`, `firstAfter_append` — a part of the list that
  precedes one kept element before the interval does not matter to the cut.
-/

import Mathlib.Data.List.Basic
import Mathlib.Order.Lattice

namespace AsyncOpcua.Foundation

variable {α τ : Type*} [LinearOrder τ] (time : α → τ)

/-- **In strict time order.** -/
def Ascending (l : List α) : Prop := l.Pairwise fun a b => time a < time b

def Nondecreasing (l : List α) : Prop := l.Pairwise fun a b => time a ≤ time b

def lastBefore (s : τ) (l : List α) : Option α := (l.filter fun a => time a < s).getLast?

def firstAfter (e : τ) (l : List α) : Option α := l.find? fun a => e < time a

variable {time} {s e : τ} {l : List α}

open List Bool

theorem Ascending.filter (ascending : Ascending time l) (p : α → Bool) :
    Ascending time (l.filter p) :=
  List.Pairwise.filter p ascending

/-! ### Dropping what is long past -/

section Dropped

variable {dropped kept : List α}

/-- **What may be dropped before a time:** nothing, or what precedes a kept element before it. -/
def Droppable (time : α → τ) (s : τ) (dropped kept : List α) : Prop :=
  dropped = [] ∨ ∃ first rest, kept = first :: rest ∧ time first < s

section

variable (droppable : Droppable time s dropped kept)
include droppable

theorem Droppable.mono {t : τ} (later : s ≤ t) : Droppable time t dropped kept := by
  rcases droppable with nothing | ⟨first, rest, same, early⟩
  · exact .inl nothing
  · exact .inr ⟨first, rest, same, lt_of_lt_of_le early later⟩

theorem Droppable.early (ordered : Nondecreasing time (dropped ++ kept)) {a : α}
    (member : a ∈ dropped) : time a < s := by
  rcases droppable with rfl | ⟨first, rest, rfl, early⟩
  · exact absurd member not_mem_nil
  · exact lt_of_le_of_lt
      ((pairwise_append.mp ordered).2.2 a member first mem_cons_self) early

theorem lastBefore_append : lastBefore time s (dropped ++ kept) = lastBefore time s kept := by
  unfold lastBefore
  rw [filter_append, getLast?_append]
  rcases droppable with rfl | ⟨first, rest, rfl, early⟩
  · rw [filter_nil, getLast?_nil, Option.or_none]
  · rw [filter_cons_of_pos (p := fun a => decide (time a < s)) (decide_eq_true early),
      getLast?_cons]
    rfl

theorem filter_append_of_late (ordered : Nondecreasing time (dropped ++ kept)) {p : α → Bool}
    (late : ∀ a, p a = true → s ≤ time a) : (dropped ++ kept).filter p = kept.filter p := by
  rw [filter_append, filter_eq_nil_iff.mpr, nil_append]
  intro a member chosen
  exact absurd (droppable.early ordered member) (not_lt.mpr (late a chosen))

end

theorem firstAfter_append (forward : s ≤ e) (droppable : Droppable time s dropped kept)
    (ordered : Nondecreasing time (dropped ++ kept)) :
    firstAfter time e (dropped ++ kept) = firstAfter time e kept := by
  unfold firstAfter
  rw [← head?_filter, ← head?_filter,
    filter_append_of_late droppable ordered fun a late => ?_]
  exact le_trans forward (le_of_lt (of_decide_eq_true late))

end Dropped

end AsyncOpcua.Foundation
