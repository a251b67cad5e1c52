/-
**Finite maps read in the order of their numbers.**

A store that numbers what it is given keeps the order of insertion in the numbers. Reading the map
upwards gives the values as a list, in that order.

* `inOrder_insert` — the value under a new highest number comes last.
-/

import AsyncOpcua.Foundation.Visit
import Mathlib.Data.List.AList

namespace AsyncOpcua.Foundation

/-! ### Upward walks -/

theorem ascending_strict (s : Finset ℕ) : (ascending s).Pairwise (· < ·) := by
  have distinct : (ascending s).Pairwise (· ≠ ·) := ascending_nodup s
  refine (ascending_pairwise s).imp₂ (fun x y below differ => ?_) distinct
  exact lt_of_le_of_ne below differ

variable {s : Finset ℕ}

open List AList

theorem ascending_unique {walk : List ℕ} (strict : walk.Pairwise (· < ·))
    (same : ∀ x, x ∈ walk ↔ x ∈ s) : walk = ascending s := by
  have perm : walk.Perm (ascending s) := by
    refine (perm_ext_iff_of_nodup (strict.imp ne_of_lt) (ascending_nodup s)).mpr ?_
    intro x
    rw [same, mem_ascending]
  exact List.Perm.eq_of_pairwise' (strict.imp le_of_lt) (ascending_pairwise s) perm

theorem ascending_filter (s : Finset ℕ) (p : ℕ → Prop) [DecidablePred p] :
    ascending (s.filter p) = (ascending s).filter fun x => decide (p x) := by
  refine (ascending_unique ((ascending_strict s).filter _) fun x => ?_).symm
  simp

theorem ascending_singleton (x : ℕ) : ascending {x} = [x] := by
  refine (ascending_unique (pairwise_singleton _ x) fun y => ?_).symm
  simp

theorem ascending_insert_above {x : ℕ} (above : ∀ y ∈ s, y < x) :
    ascending (insert x s) = ascending s ++ [x] := by
  refine (ascending_unique ?_ fun y => ?_).symm
  · rw [pairwise_append]
    refine ⟨ascending_strict s, pairwise_singleton _ x, fun y there z last => ?_⟩
    rw [mem_singleton.mp last]
    exact above y ((mem_ascending s y).mp there)
  · simp [or_comm]

theorem ascending_tail {x : ℕ} {rest : List ℕ} (walk : ascending s = x :: rest) :
    ascending (s.erase x) = rest := by
  have strict := ascending_strict s
  rw [walk, pairwise_cons] at strict
  refine (ascending_unique strict.2 fun y => ?_).symm
  rw [Finset.mem_erase, ← mem_ascending s, walk, mem_cons]
  constructor
  · exact fun later => ⟨ne_of_gt (strict.1 y later), Or.inr later⟩
  · rintro ⟨differ, same | later⟩
    · exact absurd same differ
    · exact later

/-! ### Reading a map upwards -/

section Reading

variable {β : Type*} {entries smaller : AList fun _ : ℕ => β}

/-- The values under some numbers, in the order of the numbers. -/
def readUpward (entries : AList fun _ : ℕ => β) (ids : Finset ℕ) : List β :=
  (ascending ids).filterMap entries.lookup

/-- **All values, in the order of their numbers.** -/
def inOrder (entries : AList fun _ : ℕ => β) : List β :=
  readUpward entries entries.keys.toFinset

variable {id : ℕ} {value : β}

theorem mem_keys_of_lookup (found : entries.lookup id = some value) :
    id ∈ entries.keys.toFinset := by
  rw [mem_toFinset]
  exact lookup_isSome.mp (by rw [found]; rfl)

theorem lookup_of_mem_keys (there : id ∈ entries.keys.toFinset) :
    ∃ value, entries.lookup id = some value := by
  rw [mem_toFinset] at there
  exact Option.isSome_iff_exists.mp (lookup_isSome.mpr there)

theorem mem_inOrder : value ∈ inOrder entries ↔ ∃ id, entries.lookup id = some value := by
  rw [inOrder, readUpward, mem_filterMap]
  constructor
  · rintro ⟨id, -, found⟩
    exact ⟨id, found⟩
  · rintro ⟨id, found⟩
    exact ⟨id, (mem_ascending _ id).mpr (mem_keys_of_lookup found), found⟩

theorem readUpward_congr {ids : Finset ℕ}
    (same : ∀ id ∈ ids, smaller.lookup id = entries.lookup id) :
    readUpward smaller ids = readUpward entries ids :=
  filterMap_congr fun id there => same id ((mem_ascending ids id).mp there)

theorem readUpward_singleton (found : entries.lookup id = some value) :
    readUpward entries {id} = [value] := by
  simp [readUpward, ascending_singleton, found]

/-- **Reading the numbers of the values that meet a condition filters the whole list.** -/
theorem readUpward_eq_filter {ids : Finset ℕ} {p : β → Bool}
    (selected : ∀ id, id ∈ ids ↔ ∃ value, entries.lookup id = some value ∧ p value = true) :
    readUpward entries ids = (inOrder entries).filter p := by
  have chosen : ids = entries.keys.toFinset.filter (· ∈ ids) := by
    ext id
    rw [Finset.mem_filter]
    constructor
    · intro there
      obtain ⟨value, found, -⟩ := (selected id).mp there
      exact ⟨mem_keys_of_lookup found, there⟩
    · exact fun both => both.2
  have byCondition : ∀ id, (decide (id ∈ ids) : Bool) = (entries.lookup id).any p := by
    intro id
    rw [Bool.eq_iff_iff, decide_eq_true_iff, selected]
    cases entries.lookup id <;> simp
  rw [chosen, readUpward, ascending_filter, inOrder, readUpward, filterMap_filter,
    filter_filterMap]
  refine filterMap_congr fun id _ => ?_
  rw [byCondition]
  cases entries.lookup id with
  | none => rfl
  | some value => simp [Option.filter]

/-- **Fewer values, by a condition, are the filtered list.** -/
theorem inOrder_of_lookup {p : β → Bool}
    (kept : ∀ id value, smaller.lookup id = some value ↔
      entries.lookup id = some value ∧ p value = true) :
    inOrder smaller = (inOrder entries).filter p := by
  rw [inOrder]
  have same : ∀ id ∈ smaller.keys.toFinset, smaller.lookup id = entries.lookup id := by
    intro id there
    obtain ⟨value, found⟩ := lookup_of_mem_keys there
    rw [found, ((kept id value).mp found).1]
  rw [readUpward_congr same]
  refine readUpward_eq_filter fun id => ?_
  constructor
  · intro there
    obtain ⟨value, found⟩ := lookup_of_mem_keys there
    exact ⟨value, (kept id value).mp found⟩
  · rintro ⟨value, both⟩
    exact mem_keys_of_lookup ((kept id value).mpr both)

theorem inOrder_insert (value : β)
    (above : ∀ other old, entries.lookup other = some old → other < id) :
    inOrder (entries.insert id value) = inOrder entries ++ [value] := by
  have keys : (entries.insert id value).keys.toFinset = insert id entries.keys.toFinset := by
    ext other
    rw [mem_toFinset, ← AList.mem_keys, AList.mem_insert, Finset.mem_insert,
      mem_toFinset, ← AList.mem_keys]
  have below : ∀ other ∈ entries.keys.toFinset, other < id := by
    intro other there
    obtain ⟨old, found⟩ := lookup_of_mem_keys there
    exact above other old found
  have old : readUpward (entries.insert id value) entries.keys.toFinset = inOrder entries :=
    readUpward_congr fun other there => lookup_insert_ne (ne_of_lt (below other there))
  have last : readUpward (entries.insert id value) {id} = [value] :=
    readUpward_singleton (lookup_insert _)
  rw [readUpward, ascending_singleton] at last
  rw [← old, inOrder, keys, readUpward, ascending_insert_above below, filterMap_append, last,
    readUpward]

theorem inOrder_empty : inOrder (∅ : AList fun _ : ℕ => β) = [] := rfl

theorem length_inOrder : (inOrder entries).length = entries.keys.length := by
  have all : ∀ id ∈ ascending entries.keys.toFinset, (entries.lookup id).isSome = true := by
    intro id there
    obtain ⟨value, found⟩ := lookup_of_mem_keys ((mem_ascending _ id).mp there)
    rw [found]
    rfl
  rw [inOrder, readUpward, length_filterMap_eq_countP, countP_eq_length.mpr all,
    ← toFinset_card_of_nodup (ascending_nodup _), ← toFinset_card_of_nodup
    entries.keys_nodup]
  congr 1
  ext id
  simp

/-- **The value under the lowest number comes first.** -/
theorem inOrder_pop {rest : List ℕ} (walk : ascending entries.keys.toFinset = id :: rest) :
    ∃ value, entries.lookup id = some value ∧
      inOrder entries = value :: inOrder (entries.erase id) := by
  have there : id ∈ entries.keys.toFinset := by
    rw [← mem_ascending, walk]
    exact mem_cons_self
  obtain ⟨value, found⟩ := lookup_of_mem_keys there
  refine ⟨value, found, ?_⟩
  have keys : (entries.erase id).keys.toFinset = entries.keys.toFinset.erase id := by
    ext other
    rw [mem_toFinset, ← AList.mem_keys, AList.mem_erase, Finset.mem_erase,
      mem_toFinset, ← AList.mem_keys]
  have later :
      inOrder (entries.erase id) = readUpward entries (entries.keys.toFinset.erase id) := by
    rw [inOrder, keys]
    exact readUpward_congr fun other there => lookup_erase_ne (Finset.ne_of_mem_erase there)
  rw [later, inOrder, readUpward, walk, readUpward, ascending_tail walk]
  simp [found]

end Reading

end AsyncOpcua.Foundation
