/-
**Values grouped under keys.**

* `Groups.push` — one more value under a key;
* `Groups.get` — the values under a key, none if it has no entry;
* `group`, `mem_group` — the groups of a list of pairs: a value is under a key exactly if the pair
  is in the list.
-/

import AsyncOpcua.Foundation.KeyedMap

namespace AsyncOpcua.Foundation

open List

/-- **Lists of values under distinct keys.** -/
abbrev Groups (κ ν : Type*) := KeyedMap κ (List ν)

namespace Groups

variable {κ ν : Type*} [DecidableEq κ]

def push (groups : Groups κ ν) (pair : κ × ν) : Groups κ ν :=
  groups.insert pair.1 ((groups.lookup pair.1).getD [] ++ [pair.2])

def get (groups : Groups κ ν) (key : κ) : List ν := (groups.lookup key).getD []

theorem mem_get_push {groups : Groups κ ν} {pair : κ × ν} {key : κ} {value : ν} :
    value ∈ (groups.push pair).get key ↔ value ∈ groups.get key ∨ pair = (key, value) := by
  unfold get push
  rw [KeyedMap.lookup_insert_eq, Prod.mk.injEq]
  split_ifs with same
  · subst same
    rw [Option.getD_some, mem_append, mem_singleton]
    exact or_congr_right ⟨fun equal => ⟨rfl, equal.symm⟩, fun equal => equal.2.symm⟩
  · exact (or_iff_left fun equal => same equal.1.symm).symm

theorem mem_get_foldl_push {groups : Groups κ ν} {pairs : List (κ × ν)} {key : κ} {value : ν} :
    value ∈ (pairs.foldl push groups).get key ↔ value ∈ groups.get key ∨ (key, value) ∈ pairs := by
  induction pairs generalizing groups with
  | nil => simp
  | cons pair rest ih =>
    rw [foldl_cons, ih, mem_get_push, mem_cons, or_assoc, eq_comm]

end Groups

variable {κ ν : Type*} [DecidableEq κ]

def group (pairs : List (κ × ν)) : Groups κ ν := pairs.foldl Groups.push ∅

theorem mem_group {pairs : List (κ × ν)} {key : κ} {value : ν} :
    value ∈ (group pairs).get key ↔ (key, value) ∈ pairs := by
  rw [group, Groups.mem_get_foldl_push]
  exact or_iff_right not_mem_nil

end AsyncOpcua.Foundation
