/-
**Maps with ordered keys, as their entries in order.**

* `find?_insert`, `find?_erase`, `find?_filterKeys` — looking up after an update;
* `Ascending.ext` — two lists in strict order of their keys are equal if they have the same members,
  so the entries of a range are determined by the look-ups.
-/

import AsyncOpcua.Foundation.TimeWindow
import Mathlib.Data.Finset.Card

namespace AsyncOpcua.Foundation

open List

theorem Ascending.ext {α κ : Type*} [LinearOrder κ] {key : α → κ} {first second : List α}
    (ascending : Ascending key first) (ascending' : Ascending key second)
    (same : ∀ a, a ∈ first ↔ a ∈ second) : first = second := by
  have perm : first.Perm second :=
    (perm_ext_iff_of_nodup (ascending.imp fun lt same => absurd (same ▸ lt) (lt_irrefl _))
      (ascending'.imp fun lt same => absurd (same ▸ lt) (lt_irrefl _))).mpr same
  exact List.Perm.eq_of_pairwise (fun a b _ _ before after => absurd before (lt_asymm after))
    ascending ascending' perm

theorem Ascending.eq_of_key {α κ : Type*} [LinearOrder κ] {key : α → κ} {l : List α}
    (ascending : Ascending key l) {a b : α} (left : a ∈ l) (right : b ∈ l) (same : key a = key b) :
    a = b := by
  induction l with
  | nil => exact absurd left not_mem_nil
  | cons first rest ih =>
    obtain ⟨least, ordered⟩ := pairwise_cons.mp ascending
    rcases mem_cons.mp left with isFirst | left <;>
      rcases mem_cons.mp right with isFirst' | right
    · rw [isFirst, isFirst']
    · exact absurd (same ▸ isFirst ▸ least b right) (lt_irrefl _)
    · exact absurd (same ▸ isFirst' ▸ least a left) (lt_irrefl _)
    · exact ih ordered left right

structure OrderedMap (κ ν : Type*) [LinearOrder κ] where
  entries : List (κ × ν)
  ordered : Ascending Prod.fst entries

namespace OrderedMap

variable {κ ν : Type*} [LinearOrder κ]

def empty : OrderedMap κ ν := ⟨[], List.Pairwise.nil⟩

def size (m : OrderedMap κ ν) : ℕ := m.entries.length

def find? (m : OrderedMap κ ν) (k : κ) : Option ν :=
  (m.entries.find? fun entry => entry.1 = k).map Prod.snd

def range (m : OrderedMap κ ν) (lo hi : κ) : List (κ × ν) :=
  m.entries.filter fun entry => lo ≤ entry.1 ∧ entry.1 < hi

def filterKeys (m : OrderedMap κ ν) (p : κ → Bool) : OrderedMap κ ν :=
  ⟨m.entries.filter fun entry => p entry.1, m.ordered.filter _⟩

def erase (m : OrderedMap κ ν) (k : κ) : OrderedMap κ ν := m.filterKeys fun key => key ≠ k

/-- Remove the first `n` entries. -/
def drop (m : OrderedMap κ ν) (n : ℕ) : OrderedMap κ ν :=
  ⟨m.entries.drop n, List.Pairwise.sublist (drop_sublist n _) m.ordered⟩

/-- Set the value of a key. -/
def insert (m : OrderedMap κ ν) (k : κ) (v : ν) : OrderedMap κ ν where
  entries :=
    m.entries.filter (fun entry => entry.1 < k) ++
      (k, v) :: m.entries.filter fun entry => k < entry.1
  ordered := by
    refine pairwise_append.mpr ⟨m.ordered.filter _,
      pairwise_cons.mpr ⟨fun after member => ?_, m.ordered.filter _⟩,
      fun before member other there => ?_⟩
    · exact of_decide_eq_true (mem_filter.mp member).2
    · have early : before.1 < k := of_decide_eq_true (mem_filter.mp member).2
      rcases mem_cons.mp there with rfl | later
      · exact early
      · exact lt_trans early (of_decide_eq_true (mem_filter.mp later).2)

variable (m : OrderedMap κ ν) {k j : κ} {v : ν}

theorem mem_entries : (k, v) ∈ m.entries ↔ m.find? k = some v := by
  constructor
  · intro member
    rw [find?]
    cases found : m.entries.find? fun entry => entry.1 = k with
    | none =>
      have missed := find?_eq_none.mp found (k, v) member
      exact absurd (decide_eq_true rfl) missed
    | some entry =>
      have same : entry.1 = k := by simpa using find?_some found
      have there := mem_of_find?_eq_some found
      have unique : entry = (k, v) := m.ordered.eq_of_key there member same
      rw [unique]
      rfl
  · intro found
    rw [find?, Option.map_eq_some_iff] at found
    obtain ⟨entry, there, rfl⟩ := found
    have same : entry.1 = k := by simpa using find?_some there
    rw [← same]
    exact mem_of_find?_eq_some there

theorem find?_eq_none : m.find? k = none ↔ ∀ v, (k, v) ∉ m.entries := by
  rw [Option.eq_none_iff_forall_ne_some]
  simp [mem_entries]

theorem find?_congr {m' : OrderedMap κ ν} (same : ∀ v, (k, v) ∈ m.entries ↔ (j, v) ∈ m'.entries) :
    m.find? k = m'.find? j := by
  ext v
  rw [← mem_entries, same, mem_entries]

theorem find?_nonempty :
    ((if m.size = 0 then none else some m).bind fun m => m.find? k) = m.find? k := by
  split_ifs with isEmpty
  · refine ((find?_eq_none m).mpr fun v member => ?_).symm
    exact ne_nil_of_mem member (length_eq_zero_iff.mp isEmpty)
  · rfl

theorem find?_insert_self : (m.insert k v).find? k = some v := by
  rw [← mem_entries]
  exact mem_append_right _ mem_cons_self

theorem find?_insert_ne (other : j ≠ k) : (m.insert k v).find? j = m.find? j := by
  refine find?_congr _ fun w => ?_
  simp only [insert, mem_append, mem_cons, mem_filter, decide_eq_true_eq,
    Prod.mk.injEq, other, false_and, false_or]
  rw [← and_or_left]
  exact and_iff_left (lt_or_gt_of_ne other)

theorem find?_insert : (m.insert k v).find? j = if j = k then some v else m.find? j := by
  split_ifs with same
  · rw [same, find?_insert_self]
  · exact m.find?_insert_ne same

theorem find?_filterKeys (p : κ → Bool) :
    (m.filterKeys p).find? k = if p k then m.find? k else none := by
  split_ifs with passes
  · refine find?_congr _ fun v => ?_
    simp [filterKeys, passes]
  · rw [find?_eq_none]
    intro v member
    exact passes (mem_filter.mp member).2

theorem find?_erase : (m.erase k).find? j = if j = k then none else m.find? j := by
  rw [erase, find?_filterKeys]
  by_cases same : j = k
  · rw [if_pos same, same, decide_eq_false (not_not.mpr rfl), if_neg Bool.false_ne_true]
  · rw [if_neg same, decide_eq_true same, if_pos rfl]

theorem mem_range {lo hi : κ} : (k, v) ∈ m.range lo hi ↔ m.find? k = some v ∧ lo ≤ k ∧ k < hi := by
  rw [range, mem_filter, mem_entries, decide_eq_true_eq]

theorem range_ascending (lo hi : κ) : Ascending Prod.fst (m.range lo hi) := m.ordered.filter _

theorem range_eq_nil {lo hi : κ} :
    m.range lo hi = [] ↔ ∀ k, lo ≤ k → k < hi → m.find? k = none := by
  rw [eq_nil_iff_forall_not_mem]
  constructor
  · intro empty k after before
    refine Option.eq_none_iff_forall_ne_some.mpr fun v found => ?_
    exact empty (k, v) (m.mem_range.mpr ⟨found, after, before⟩)
  · rintro absent ⟨k, v⟩ member
    obtain ⟨found, after, before⟩ := m.mem_range.mp member
    exact Option.some_ne_none v (found.symm.trans (absent k after before))

theorem range_self (lo : κ) : m.range lo lo = [] :=
  m.range_eq_nil.mpr fun _ after before => absurd (lt_of_le_of_lt after before) (lt_irrefl _)

theorem filter_range_from {lo start hi : κ} (after : lo ≤ start) :
    (m.range lo hi).filter (fun entry => start ≤ entry.1) = m.range start hi := by
  unfold range
  rw [filter_filter]
  refine filter_congr fun entry _ => ?_
  rw [← Bool.decide_and, decide_eq_decide]
  exact ⟨fun inside => ⟨inside.1, inside.2.2⟩,
    fun inside => ⟨inside.1, le_trans after inside.1, inside.2⟩⟩

theorem filter_range (lo hi : κ) : (m.range lo hi).filter (fun entry => entry.1 = k) =
    if lo ≤ k ∧ k < hi then ((m.find? k).map fun v => (k, v)).toList else [] := by
  refine Ascending.ext ((m.range_ascending lo hi).filter _) ?_ fun entry => ?_
  · split_ifs
    · cases m.find? k <;> simp [Ascending]
    · exact List.Pairwise.nil
  · obtain ⟨key, value⟩ := entry
    rw [mem_filter, mem_range, decide_eq_true_eq]
    constructor
    · rintro ⟨⟨found, inside⟩, rfl⟩
      rw [if_pos inside, found]
      exact mem_singleton.mpr rfl
    · intro member
      split_ifs at member with inside
      · rw [Option.mem_toList, Option.map_eq_some_iff] at member
        obtain ⟨v, found, same⟩ := member
        cases same
        exact ⟨⟨found, inside⟩, rfl⟩
      · exact absurd member not_mem_nil

theorem size_insert_le : (m.insert k v).size ≤ m.size + 1 := by
  have split : ∀ entries : List (κ × ν), (entries.filter fun entry => entry.1 < k).length +
      (entries.filter fun entry => k < entry.1).length ≤ entries.length := by
    intro entries
    induction entries with
    | nil => exact Nat.le_refl 0
    | cons entry rest ih =>
      rw [filter_cons, filter_cons]
      split_ifs with before after after
      · exact absurd (of_decide_eq_true after) (lt_asymm (of_decide_eq_true before))
      · simp only [length_cons]
        omega
      · simp only [length_cons]
        omega
      · simp only [length_cons]
        omega
  have bound := split m.entries
  simp only [size, insert, length_append, length_cons]
  omega

/-! ### The keys -/

def keys : Finset κ := (m.entries.map Prod.fst).toFinset

theorem mem_keys : k ∈ m.keys ↔ m.find? k ≠ none := by
  simp [keys, Option.ne_none_iff_exists', ← mem_entries]

theorem nodup_keys : (m.entries.map Prod.fst).Nodup :=
  pairwise_map.mpr (m.ordered.imp fun lt => ne_of_lt lt)

theorem card_keys : m.keys.card = m.size := by
  rw [keys, toFinset_card_of_nodup m.nodup_keys, length_map, size]

theorem keys_insert : (m.insert k v).keys = Insert.insert k m.keys := by
  ext j
  rw [mem_keys, find?_insert, Finset.mem_insert, mem_keys]
  split_ifs with same <;> simp [same]

theorem size_insert_of_mem (there : k ∈ m.keys) : (m.insert k v).size = m.size := by
  rw [← card_keys, ← card_keys, keys_insert, Finset.insert_eq_of_mem there]

theorem size_filterKeys_le (p : κ → Bool) : (m.filterKeys p).size ≤ m.size := length_filter_le _ _

theorem size_drop_le (n : ℕ) : (m.drop (m.size - n)).size ≤ n := by
  simp only [size, drop, length_drop]
  omega

theorem mem_keys_of_drop {n : ℕ} (there : k ∈ (m.drop n).keys) : k ∈ m.keys := by
  simp only [keys, drop, map_drop, mem_toFinset] at there ⊢
  exact mem_of_mem_drop there

/-- **What is left of a map that is cut to its last entries:** a key with less keys after it. -/
theorem find?_drop {n : ℕ} {later : Finset κ} (few : later.card < n)
    (covers : ∀ j ∈ m.keys, k < j → j ∈ later) : (m.drop (m.size - n)).find? k = m.find? k := by
  refine find?_congr _ fun v => ⟨fun there => mem_of_mem_drop there, fun there => ?_⟩
  rw [← take_append_drop (m.size - n) m.entries, mem_append] at there
  refine there.resolve_left fun early => ?_
  have ordered := m.ordered
  rw [← take_append_drop (m.size - n) m.entries] at ordered
  have after : ∀ entry ∈ m.entries.drop (m.size - n), k < entry.1 :=
    fun entry member => (pairwise_append.mp ordered).2.2 _ early entry member
  have counted : (m.drop (m.size - n)).keys.card ≤ later.card := by
    refine Finset.card_le_card fun j member => covers j (m.mem_keys_of_drop member) ?_
    obtain ⟨entry, there, rfl⟩ := mem_map.mp (mem_toFinset.mp member)
    exact after entry there
  have long : 0 < m.size - n := by
    by_contra short
    rw [Nat.eq_zero_of_not_pos short, take_zero] at early
    exact not_mem_nil early
  rw [card_keys, size, drop, length_drop] at counted
  unfold size at *
  omega

end OrderedMap

end AsyncOpcua.Foundation
