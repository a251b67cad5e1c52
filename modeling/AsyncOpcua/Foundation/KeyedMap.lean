/-
**Maps with distinct keys, changed in place.**

A hash map is the list of its entries in any order, each key once. What is read of it does not
depend on that order.

* `lookup_modify`, `lookup_insert_eq`, `lookup_erase_eq` — what looking up finds after an update;
* `filter_entries_of_unique` — the entries with a property, if only one can have it;
* `values_modify` — what the values have in common with those before.
-/

import Mathlib.Data.List.AList

namespace AsyncOpcua.Foundation

abbrev KeyedMap (κ ν : Type*) := AList fun _ : κ => ν

open List

namespace KeyedMap

variable {κ ν μ : Type*}

def size (m : KeyedMap κ ν) : ℕ := m.entries.length

def values (m : KeyedMap κ ν) : List ν := m.entries.map Sigma.snd

theorem size_eq_keys (m : KeyedMap κ ν) : size m = m.keys.length := by
  rw [size, AList.keys, keys, length_map]

variable [DecidableEq κ]

/-- The entries after the value of one key was changed. -/
def modifyEntries (k : κ) (f : ν → ν) (entries : List (Σ _ : κ, ν)) : List (Σ _ : κ, ν) :=
  entries.map fun entry => ⟨entry.1, if entry.1 = k then f entry.2 else entry.2⟩

theorem keys_modifyEntries (k : κ) (f : ν → ν) (entries : List (Σ _ : κ, ν)) :
    (modifyEntries k f entries).keys = entries.keys := by
  unfold modifyEntries keys
  rw [map_map]
  rfl

/-- Change the value of one key, if it has one. -/
def modify (m : KeyedMap κ ν) (k : κ) (f : ν → ν) : KeyedMap κ ν where
  entries := modifyEntries k f m.entries
  nodupKeys := by
    rw [List.NodupKeys, keys_modifyEntries]
    exact m.nodupKeys

section

variable (m : KeyedMap κ ν)

@[simp]
theorem size_modify (k : κ) (f : ν → ν) : size (modify m k f) = size m :=
  length_map _

theorem lookup_modify (k a : κ) (f : ν → ν) :
    (modify m k f).lookup a = if a = k then (m.lookup a).map f else m.lookup a := by
  have mapped : (modify m k f).lookup a = (m.lookup a).map fun v => if a = k then f v else v :=
    dlookup_map₂ (f := fun a v => if a = k then f v else v) a
  rw [mapped]
  split_ifs
  · rfl
  · exact Option.map_id'

theorem lookup_insert_eq (k a : κ) (v : ν) :
    (m.insert k v).lookup a = if a = k then some v else m.lookup a := by
  split_ifs with same
  · rw [same, AList.lookup_insert]
  · exact AList.lookup_insert_ne same

theorem size_insert_le (k : κ) (v : ν) : size (m.insert k v) ≤ size m + 1 := by
  unfold size
  exact Nat.succ_le_succ (kerase_sublist k m.entries).length_le

theorem size_erase_le (k : κ) : size (m.erase k) ≤ size m :=
  (kerase_sublist k m.entries).length_le

end

variable {m : KeyedMap κ ν} {v : ν}

theorem size_erase_lt {k : κ} (there : m.lookup k = some v) : size (m.erase k) < size m := by
  have member : k ∈ m.entries.keys := AList.lookup_isSome.mp (by rw [there]; rfl)
  obtain ⟨value, before, after, -, split, erased⟩ := exists_of_kerase member
  show (kerase k m.entries).length < m.entries.length
  rw [erased, split, length_append, length_append, length_cons]
  omega

theorem lookup_erase_eq (m : KeyedMap κ ν) (k a : κ) :
    (m.erase k).lookup a = if a = k then none else m.lookup a := by
  split_ifs with same
  · rw [same, AList.lookup_erase]
  · exact AList.lookup_erase_ne same

theorem lookup_foldl_erase (m : KeyedMap κ ν) (l : List (Σ _ : κ, ν)) (a : κ) :
    (l.foldl (fun m entry => m.erase entry.1) m).lookup a =
      if a ∈ l.map Sigma.fst then none else m.lookup a := by
  induction l generalizing m with
  | nil => rfl
  | cons entry l ih =>
    rw [foldl_cons, ih, lookup_erase_eq, map_cons]
    by_cases same : a = entry.1
    · simp [same]
    · simp only [mem_cons, same, false_or, if_false]

theorem filter_entries_of_unique {p : (Σ _ : κ, ν) → Bool} {k : κ} (there : m.lookup k = some v)
    (only : ∀ a w, m.lookup a = some w → p ⟨a, w⟩ = true → a = k) :
    m.entries.filter p = if p ⟨k, v⟩ then [⟨k, v⟩] else [] := by
  have same : ∀ entry ∈ m.entries, p entry = true → entry = ⟨k, v⟩ := by
    rintro ⟨a, w⟩ listed has
    have found : m.lookup a = some w := AList.mem_lookup_iff.mpr listed
    obtain rfl := only a w found has
    obtain rfl := Option.some.inj (found.symm.trans there)
    rfl
  split_ifs with has
  · refine perm_singleton.mp ((perm_ext_iff_of_nodup ?_ (nodup_singleton _)).mpr ?_)
    · exact m.nodupKeys.nodup.filter _
    · intro entry
      rw [mem_filter, mem_singleton]
      constructor
      · exact fun both => same entry both.1 both.2
      · rintro rfl
        exact ⟨AList.mem_lookup_iff.mp there, has⟩
  · refine filter_eq_nil_iff.mpr fun entry listed has' => ?_
    exact has (same entry listed has' ▸ has')

theorem values_modify (m : KeyedMap κ ν) (k : κ) (f : ν → ν) {g : ν → μ}
    (same : ∀ v, g (f v) = g v) : (values (modify m k f)).map g = (values m).map g := by
  unfold values modify modifyEntries
  rw [map_map, map_map, map_map]
  refine map_congr_left fun entry _ => ?_
  show g (if entry.1 = k then f entry.2 else entry.2) = g entry.2
  split_ifs
  · exact same _
  · rfl

theorem mem_values : v ∈ values m ↔ ∃ k, m.lookup k = some v := by
  constructor
  · intro here
    obtain ⟨entry, listed, rfl⟩ := mem_map.mp here
    exact ⟨entry.1, AList.mem_lookup_iff.mpr listed⟩
  · rintro ⟨k, found⟩
    exact mem_map.mpr ⟨⟨k, v⟩, AList.mem_lookup_iff.mp found, rfl⟩

theorem values_perm_of_lookup {l : List (κ × ν)} (distinct : (l.map Prod.fst).Nodup)
    (same : ∀ k v, m.lookup k = some v ↔ (k, v) ∈ l) : (values m).Perm (l.map Prod.snd) := by
  have entries : (m.entries.map fun entry => (entry.1, entry.2)).Perm l := by
    refine (perm_ext_iff_of_nodup ?_ distinct.of_map).mpr fun entry => ?_
    · refine m.nodupKeys.nodup.map ?_
      rintro ⟨a, v⟩ ⟨b, w⟩ same
      cases same
      rfl
    · rw [← same entry.1 entry.2, ← Option.mem_def, AList.mem_lookup_iff, mem_map]
      constructor
      · rintro ⟨listed, here, rfl⟩
        exact here
      · exact fun here => ⟨_, here, rfl⟩
  have mapped := entries.map Prod.snd
  rwa [map_map] at mapped

end KeyedMap

end AsyncOpcua.Foundation
