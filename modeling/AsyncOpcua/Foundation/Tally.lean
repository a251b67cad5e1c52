/-
**Counters of the members that have a label.**

A counter is a machine word, which wraps, and may be missing as long as it is zero.

* `Counts.add`, `Counts.sub` — one member more or less, counted once.
-/

import Mathlib.Data.Finset.Card
import Mathlib.Algebra.Group.Nat.Defs

namespace AsyncOpcua.Foundation

open Function

variable {ι κ : Type*} [DecidableEq κ]

/-! ### Tallies -/

def tally (members : Finset ι) (label : ι → Option κ) (k : κ) : ℕ :=
  (members.filter fun i => label i = some k).card

variable {members others : Finset ι} {label label' : ι → Option κ} {i : ι} {k : κ}

theorem tally_le_card : tally members label k ≤ members.card := Finset.card_filter_le _ _

theorem tally_congr (same : ∀ j ∈ members, label j = label' j) :
    tally members label k = tally members label' k := by
  unfold tally
  congr 1
  exact Finset.filter_congr fun j member => by rw [same j member]

section Members

variable [DecidableEq ι]

theorem tally_insert (fresh : i ∉ members) :
    tally (insert i members) label k =
      tally members label k + if label i = some k then 1 else 0 := by
  unfold tally
  rw [Finset.filter_insert]
  split_ifs
  · exact Finset.card_insert_of_notMem fun member => fresh (Finset.mem_filter.mp member).1
  · rfl

theorem tally_erase (member : i ∈ members) :
    tally (members.erase i) label k + (if label i = some k then 1 else 0) =
      tally members label k := by
  rw [← tally_insert (Finset.notMem_erase i members), Finset.insert_erase member]

theorem tally_unlabel (member : i ∈ members) (gone : label' i = none)
    (same : ∀ j, j ≠ i → label' j = label j) :
    tally members label' k + (if label i = some k then 1 else 0) = tally members label k := by
  have before : _ = tally members label k := tally_erase member
  have after : _ = tally members label' k := tally_erase member
  rw [gone, if_neg nofun, Nat.add_zero] at after
  rw [← before, ← after, tally_congr fun j kept => same j (Finset.ne_of_mem_erase kept)]

end Members

/-! ### Counters -/

def fetchAdd (counters : κ → Option ℕ) (k : κ) : κ → Option ℕ :=
  update counters k (some (((counters k).getD 0 + 1) % 2 ^ 64))

def fetchSub (counters : κ → Option ℕ) (k : κ) : κ → Option ℕ :=
  match counters k with
  | none => counters
  | some 0 => update counters k (some (2 ^ 64 - 1))
  | some (n + 1) => update counters k (some n)

def Counts (counters : κ → Option ℕ) (members : Finset ι) (label : ι → Option κ) : Prop :=
  ∀ k, (counters k).getD 0 = tally members label k

variable {counters : κ → Option ℕ}

section

variable (exact : Counts counters members label)
include exact

theorem Counts.congr (same : ∀ j, tally others label' j = tally members label j) :
    Counts counters others label' :=
  fun j => (exact j).trans (same j).symm

theorem Counts.touched : Counts (update counters k (some ((counters k).getD 0))) members label := by
  intro j
  by_cases here : j = k
  · subst here
    rw [update_self]
    exact exact j
  · rw [update_of_ne here]
    exact exact j

theorem Counts.add
    (more : ∀ j, tally others label' j = tally members label j + if k = j then 1 else 0)
    (fits : tally members label k + 1 < 2 ^ 64) : Counts (fetchAdd counters k) others label' := by
  intro j
  unfold fetchAdd
  rw [more]
  by_cases here : j = k
  · subst here
    rw [update_self, Option.getD_some, exact, Nat.mod_eq_of_lt fits, if_pos rfl]
  · rw [update_of_ne here, exact, if_neg (Ne.symm here), Nat.add_zero]

theorem Counts.sub
    (less : ∀ j, tally others label' j + (if k = j then 1 else 0) = tally members label j) :
    Counts (fetchSub counters k) others label' ∧ counters k ≠ some 0 := by
  have counted := (exact k).trans (less k).symm
  rw [if_pos rfl] at counted
  cases value : counters k with
  | none =>
    rw [value] at counted
    exact absurd counted (Nat.succ_ne_zero _).symm
  | some n =>
    rw [value, Option.getD_some] at counted
    subst counted
    refine ⟨fun j => ?_, nofun⟩
    unfold fetchSub
    rw [value]
    dsimp only
    by_cases here : j = k
    · subst here
      rw [update_self, Option.getD_some]
    · rw [update_of_ne here, exact, ← less j, if_neg (Ne.symm here), Nat.add_zero]

end

end AsyncOpcua.Foundation
