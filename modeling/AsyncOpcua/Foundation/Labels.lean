/-
**Labels: distinct numbers other than 0, and those that a saturating counter gives.**

New labels are counted from the highest label that is in use, and the counter stops at a greatest
number.
-/

import Mathlib.Data.List.Nodup
import Mathlib.Data.List.Range
import Mathlib.Algebra.GroupWithZero.Nat

namespace AsyncOpcua.Foundation

/-! ### Labels -/

open List

section Labels

variable {ι : Type*} [Zero ι]

/-- **Distinct labels, none of which is 0.** -/
def AreLabels (labels : List ι) : Prop := labels.Nodup ∧ 0 ∉ labels

theorem AreLabels.nil : AreLabels ([] : List ι) := ⟨nodup_nil, not_mem_nil⟩

variable {labels : List ι}

theorem AreLabels.sublist {others : List ι} (are : AreLabels labels) (sub : others.Sublist labels) :
    AreLabels others :=
  ⟨are.1.sublist sub, fun member => are.2 (sub.subset member)⟩

theorem areLabels_perm {others : List ι} (perm : labels.Perm others) :
    AreLabels labels ↔ AreLabels others := by
  unfold AreLabels
  rw [perm.nodup_iff, perm.mem_iff]

theorem areLabels_append {more : List ι} :
    AreLabels (labels ++ more) ↔ AreLabels labels ∧ AreLabels more ∧ List.Disjoint labels more := by
  unfold AreLabels
  rw [nodup_append', mem_append]
  tauto

theorem areLabels_concat {label : ι} :
    AreLabels (labels ++ [label]) ↔ AreLabels labels ∧ label ≠ 0 ∧ label ∉ labels := by
  rw [areLabels_append, disjoint_singleton]
  simp [AreLabels, eq_comm]

theorem areLabels_map {κ : Type*} [Zero κ] {f : ι → κ} (injective : Function.Injective f)
    (zero : f 0 = 0) : AreLabels (labels.map f) ↔ AreLabels labels := by
  unfold AreLabels
  rw [nodup_map_iff injective, ← zero, mem_map_of_injective injective]

end Labels

/-! ### Counted labels -/

def highest (labels : List ℕ) : ℕ := labels.foldr max 0

@[simp]
theorem highest_cons (label : ℕ) (labels : List ℕ) :
    highest (label :: labels) = max label (highest labels) := rfl

variable {labels : List ℕ}

theorem le_highest {label : ℕ} (member : label ∈ labels) : label ≤ highest labels := by
  induction labels with
  | nil => cases member
  | cons first labels ih =>
    rcases mem_cons.mp member with rfl | member
    · exact le_max_left _ _
    · exact (ih member).trans (le_max_right _ _)

theorem highest_le {top : ℕ} (within : ∀ label ∈ labels, label ≤ top) : highest labels ≤ top := by
  induction labels with
  | nil => exact Nat.zero_le top
  | cons first labels ih =>
    rw [forall_mem_cons] at within
    exact max_le within.1 (ih within.2)

theorem highest_mem (positive : highest labels ≠ 0) : highest labels ∈ labels := by
  induction labels with
  | nil => exact absurd rfl positive
  | cons first labels ih =>
    rw [highest_cons] at positive ⊢
    rcases le_total first (highest labels) with le | le
    · rw [max_eq_right le] at positive ⊢
      exact mem_cons_of_mem first (ih positive)
    · rw [max_eq_left le]
      exact mem_cons_self

/-- **The numbers of a counter that stops at `top`.** -/
def counted (top start count : ℕ) : List ℕ := (List.range count).map fun i => min (start + i) top

theorem counted_succ (top start count : ℕ) :
    counted top start (count + 1) = min start top :: counted top (start + 1) count := by
  unfold counted
  rw [range_succ_eq_map, map_cons, map_map, Nat.add_zero]
  congr 1
  refine map_congr_left fun i _ => ?_
  rw [Function.comp_apply, Nat.succ_eq_add_one, Nat.add_assoc, Nat.add_comm 1 i]

variable {top start count : ℕ}

theorem nodup_counted (within : start + count ≤ top + 1) : (counted top start count).Nodup := by
  refine (nodup_map_iff_inj_on nodup_range).mpr fun i first j second same => ?_
  rw [mem_range] at first second
  omega

theorem mem_counted {label : ℕ} :
    label ∈ counted top start count ↔ ∃ i < count, min (start + i) top = label := by
  rw [counted, mem_map]
  simp

theorem areLabels_counted (positive : start ≠ 0) (starts : start ≤ top) :
    AreLabels (counted top start count) ↔ start + count ≤ top + 1 := by
  constructor
  · rintro ⟨distinct, -⟩
    by_contra beyond
    -- the last two numbers of the counter are both the greatest
    have same := inj_on_of_nodup_map distinct
      (mem_range.mpr (show top - start < count by omega))
      (mem_range.mpr (show top - start + 1 < count by omega)) (by omega)
    omega
  · intro within
    refine ⟨nodup_counted within, fun zero => ?_⟩
    obtain ⟨i, -, same⟩ := mem_counted.mp zero
    omega

/-- **A counter from the highest label gives new labels exactly where it ends within the range.** -/
theorem areLabels_append_counted (within : ∀ label ∈ labels, label ≤ top) (positive : 0 < top) :
    AreLabels (labels ++ counted top (highest labels + 1) count) ↔
      AreLabels labels ∧ (count = 0 ∨ highest labels + count ≤ top) := by
  have bounded := highest_le within
  rw [areLabels_append]
  refine and_congr_right fun are => ?_
  constructor
  · rintro ⟨new, disjoint⟩
    by_contra! beyond
    rcases Nat.lt_or_ge (highest labels) top with room | full
    · have ends := (areLabels_counted (by omega) room).mp new
      omega
    · -- no number is left: the counter gives the greatest, which is a label
      have greatest : top ∈ labels := by
        have same : highest labels = top := by omega
        exact same ▸ highest_mem (by omega)
      refine disjoint greatest (mem_counted.mpr ⟨0, by omega, ?_⟩)
      omega
  · rintro (rfl | room)
    · exact ⟨AreLabels.nil, disjoint_nil_right labels⟩
    · rcases Nat.eq_zero_or_pos count with rfl | some
      · exact ⟨AreLabels.nil, disjoint_nil_right labels⟩
      refine ⟨(areLabels_counted (by omega) (by omega)).mpr (by omega), fun label old new => ?_⟩
      obtain ⟨i, below, same⟩ := mem_counted.mp new
      have := le_highest old
      omega

/-- **Counters that all start from 1 give labels exactly where at most one of them is in use.** -/
theorem areLabels_flatMap_counted {counts : List ℕ} (positive : 0 < top) :
    AreLabels (counts.flatMap (counted top 1)) ↔
      (∀ count ∈ counts, count ≤ top) ∧ counts.Pairwise fun a b => a = 0 ∨ b = 0 := by
  induction counts with
  | nil => exact iff_of_true AreLabels.nil ⟨nofun, List.Pairwise.nil⟩
  | cons count counts ih =>
    have first : ∀ n, n ≠ 0 → 1 ∈ counted top 1 n := fun n some =>
      mem_counted.mpr ⟨0, Nat.pos_of_ne_zero some, by omega⟩
    have disjoint : List.Disjoint (counted top 1 count) (counts.flatMap (counted top 1)) ↔
        ∀ other ∈ counts, count = 0 ∨ other = 0 := by
      constructor
      · intro disjoint other member
        by_contra! both
        exact disjoint (first count both.1)
          (mem_flatMap.mpr ⟨other, member, first other both.2⟩)
      · intro oneIn label here there
        obtain ⟨other, member, there⟩ := mem_flatMap.mp there
        rcases oneIn other member with rfl | rfl
        · exact absurd here not_mem_nil
        · exact absurd there not_mem_nil
    rw [flatMap_cons, areLabels_append, areLabels_counted Nat.one_ne_zero positive, ih, disjoint,
      forall_mem_cons, pairwise_cons, Nat.add_comm 1 count, Nat.add_le_add_iff_right]
    tauto

end AsyncOpcua.Foundation
