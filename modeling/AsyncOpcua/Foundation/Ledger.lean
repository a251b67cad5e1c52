/-
**Ledgers: what has arrived is waiting or settled, and what is served is served in order.**

A ledger has a waiting line and the entries settled so far, in the order in which they were settled;
an entry is settled by being served or by being dismissed.
-/

import Mathlib.Data.List.Perm.Basic

namespace AsyncOpcua.Foundation

/-- **A ledger.** The flag of a settled entry says that it was served. -/
structure Ledger (α : Type*) where
  waiting : List α
  settled : List (α × Bool)

open List List.Sublist

namespace Ledger

variable {α : Type*}

/-- The entries served, in the order in which they were. -/
def served (ledger : Ledger α) : List α := (ledger.settled.filter (·.2)).map (·.1)

/-- **The ledger accounts for the arrivals:** each of them is waiting or settled, once, and those
served were served in the order of arrival, before any that still waits. -/
structure Balanced (ledger : Ledger α) (arrived : List α) : Prop where
  conserved : (ledger.waiting ++ ledger.settled.map (·.1)).Perm arrived
  inOrder : (ledger.served ++ ledger.waiting).Sublist arrived

theorem balanced_empty : (⟨[], []⟩ : Ledger α).Balanced [] := ⟨List.Perm.refl _, refl _⟩

variable {settled : List (α × Bool)} {arrived : List α}

/-- **Arrivals join the end of the line.** -/
theorem Balanced.arrive {waiting : List α} (balanced : Balanced ⟨waiting, settled⟩ arrived)
    (a : α) : Balanced ⟨waiting ++ [a], settled⟩ (arrived ++ [a]) := by
  refine ⟨?_, ?_⟩
  · have swapped : (waiting ++ [a] ++ settled.map (·.1)).Perm
        (waiting ++ settled.map (·.1) ++ [a]) := by
      rw [append_assoc, append_assoc]
      exact (perm_append_comm).append_left waiting
    exact swapped.trans (balanced.conserved.append_right [a])
  · show (served ⟨waiting, settled⟩ ++ (waiting ++ [a])).Sublist _
    rw [← append_assoc]
    exact balanced.inOrder.append (refl [a])

/-- **The front of the line is served.** -/
theorem Balanced.serve {front rest : List α}
    (balanced : Balanced ⟨front ++ rest, settled⟩ arrived) :
    Balanced ⟨rest, settled ++ front.map (·, true)⟩ arrived := by
  have flagged : (front.map (·, true)).map Prod.fst = front := by
    rw [map_map]
    exact map_id front
  refine ⟨?_, ?_⟩
  · refine List.Perm.trans ?_ balanced.conserved
    rw [map_append, flagged, ← append_assoc, append_assoc front]
    exact perm_append_comm
  · refine List.Sublist.trans ?_ balanced.inOrder
    show (((settled ++ front.map (·, true)).filter (·.2)).map Prod.fst ++ rest).Sublist
      ((settled.filter (·.2)).map Prod.fst ++ (front ++ rest))
    have all : (front.map (·, true)).filter (·.2) = front.map (·, true) :=
      filter_eq_self.mpr fun entry member => by
        obtain ⟨a, -, rfl⟩ := mem_map.mp member
        rfl
    rw [filter_append, map_append, all, flagged, append_assoc]

/-- **Any part of the line is dismissed.** -/
theorem Balanced.dismiss {waiting kept gone : List α}
    (balanced : Balanced ⟨waiting, settled⟩ arrived) (split : waiting.Perm (kept ++ gone))
    (order : kept.Sublist waiting) : Balanced ⟨kept, settled ++ gone.map (·, false)⟩ arrived := by
  have flagged : (gone.map (·, false)).map Prod.fst = gone := by
    rw [map_map]
    exact map_id gone
  refine ⟨?_, ?_⟩
  · refine List.Perm.trans ?_ balanced.conserved
    rw [map_append, flagged]
    refine ((perm_append_comm).append_left kept).trans ?_
    rw [← append_assoc]
    exact split.symm.append_right _
  · refine List.Sublist.trans ?_ balanced.inOrder
    show (((settled ++ gone.map (·, false)).filter (·.2)).map Prod.fst ++ kept).Sublist
      ((settled.filter (·.2)).map Prod.fst ++ waiting)
    have none : (gone.map (·, false)).filter (·.2) = [] :=
      filter_eq_nil_iff.mpr fun entry member => by
        obtain ⟨a, -, rfl⟩ := mem_map.mp member
        exact Bool.false_ne_true
    rw [filter_append, none, append_nil]
    exact (refl _).append order

end Ledger

end AsyncOpcua.Foundation
