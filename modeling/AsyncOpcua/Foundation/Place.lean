/-
**Places in a list, found by the first element in which something is found.**

* `locate_eq_some` — where it is;
* `locateKey` — the place of a key;
* `Place.filter_key_ne`, `Place.filter_flatMap_put` — what is left without the element there.
-/

import Mathlib.Data.List.Nodup

namespace AsyncOpcua.Foundation

variable {α β κ : Type*}

structure Place (α β : Type*) where
  before : List α
  here : α
  found : β
  after : List α

open List Or

namespace Place

def put (place : Place α β) (x : α) : List α := place.before ++ x :: place.after

def remove (place : Place α β) : List α := place.before ++ place.after

theorem mem_put {place : Place α β} {x y : α} : y ∈ place.put x ↔ y = x ∨ y ∈ place.remove := by
  rw [put, remove, mem_append, mem_cons, mem_append]
  tauto

section

variable (place : Place α β)

theorem here_mem (x : α) : x ∈ place.put x := mem_put.mpr (inl rfl)

theorem put_perm (x : α) : (place.put x).Perm (x :: place.remove) :=
  perm_middle

theorem remove_sublist (x : α) : place.remove.Sublist (place.put x) :=
  (List.Sublist.refl _).append (sublist_cons_self x place.after)

theorem map_put_congr {γ : Type*} {f : α → γ} {x y : α} (same : f y = f x) :
    (place.put y).map f = (place.put x).map f := by
  rw [put, put, map_append, map_append, map_cons, map_cons, same]

theorem map_put_sublist {γ : Type*} {f : α → γ} {x y : α} (same : f y = f x) :
    ((place.put y).map f).Sublist ((place.put x).map f) :=
  place.map_put_congr same ▸ List.Sublist.refl _

end

section Keys

variable {place : Place α β} {key : α → κ} {x : α}

theorem key_ne_of_mem_remove (distinct : ((place.put x).map key).Nodup) {y : α}
    (member : y ∈ place.remove) : key x ≠ key y := by
  rw [((place.put_perm x).map key).nodup_iff, map_cons, nodup_cons] at distinct
  exact fun same => distinct.1 (same ▸ mem_map_of_mem member)

theorem filter_key_ne [DecidableEq κ] (distinct : ((place.put x).map key).Nodup) :
    ((place.put x).map key).filter (fun other => other ≠ key x) = place.remove.map key := by
  have kept : ∀ ys : List α, (∀ y ∈ ys, y ∈ place.remove) →
      (ys.map key).filter (fun other => other ≠ key x) = ys.map key := by
    intro ys within
    refine filter_eq_self.mpr (forall_mem_map.mpr fun y member => ?_)
    exact decide_eq_true (key_ne_of_mem_remove distinct (within y member)).symm
  rw [put, remove, map_append, map_append, map_cons, filter_append,
    kept place.before fun y earlier => mem_append_left _ earlier,
    filter_cons_of_neg (by simp),
    kept place.after fun y later => mem_append_right _ later]

end Keys

section FlatMap

variable {γ : Type*} {f : α → List γ}

theorem flatMap_put (place : Place α β) (x : α) :
    (place.put x).flatMap f = place.before.flatMap f ++ (f x ++ place.after.flatMap f) := by
  rw [put, flatMap_append, flatMap_cons]

variable {x y : α}

section

variable (place : Place α β)

theorem flatMap_put_perm {z : γ} (more : f y = f x ++ [z]) :
    ((place.put y).flatMap f).Perm ((place.put x).flatMap f ++ [z]) := by
  rw [flatMap_put, flatMap_put, more, append_assoc, append_assoc, append_assoc]
  exact ((perm_append_singleton z _).symm.append_left (f x)).append_left _

theorem flatMap_put_sublist (less : (f y).Sublist (f x)) :
    ((place.put y).flatMap f).Sublist ((place.put x).flatMap f) := by
  rw [flatMap_put, flatMap_put]
  exact (List.Sublist.refl _).append (less.append (List.Sublist.refl _))

theorem flatMap_put_subset {missing : List γ} (covered : f x ⊆ missing ++ f y) :
    (place.put x).flatMap f ⊆ missing ++ (place.put y).flatMap f := by
  intro z member
  rw [flatMap_put] at member ⊢
  simp only [mem_append] at member ⊢
  rcases member with earlier | here | later
  · exact inr (inl earlier)
  · rcases mem_append.mp (covered here) with gone | kept
    · exact inl gone
    · exact inr (inr (inl kept))
  · exact inr (inr (inr later))

theorem flatMap_remove_subset {missing : List γ} (covered : f x ⊆ missing) :
    (place.put x).flatMap f ⊆ missing ++ place.remove.flatMap f := by
  intro z member
  rw [flatMap_put] at member
  rw [remove, flatMap_append]
  simp only [mem_append] at member ⊢
  rcases member with earlier | here | later
  · exact inr (inl earlier)
  · exact inl (covered here)
  · exact inr (inr later)

end

variable {keep : γ → Bool}

section

variable (place : Place α β) (others : ∀ y ∈ place.remove, ∀ z ∈ f y, keep z)
include others

theorem filter_flatMap_put :
    ((place.put x).flatMap f).filter keep =
      place.before.flatMap f ++ ((f x).filter keep ++ place.after.flatMap f) := by
  have kept : ∀ ys : List α, (∀ y ∈ ys, y ∈ place.remove) →
      (ys.flatMap f).filter keep = ys.flatMap f := by
    intro ys within
    refine filter_eq_self.mpr fun z member => ?_
    obtain ⟨y, there, member⟩ := mem_flatMap.mp member
    exact others y (within y there) z member
  rw [flatMap_put, filter_append, filter_append,
    kept place.before fun y earlier => mem_append_left _ earlier,
    kept place.after fun y later => mem_append_right _ later]

theorem filter_flatMap_put_eq (left : (f x).filter keep = f y) :
    ((place.put x).flatMap f).filter keep = (place.put y).flatMap f := by
  rw [place.filter_flatMap_put others, left, flatMap_put]

theorem filter_flatMap_put_remove (gone : (f x).filter keep = []) :
    ((place.put x).flatMap f).filter keep = place.remove.flatMap f := by
  rw [place.filter_flatMap_put others, gone, remove, flatMap_append, nil_append]

end

end FlatMap

end Place

/-- **The first place where something is found.** -/
def locate (find : α → Option β) : List α → Option (Place α β)
  | [] => none
  | x :: xs =>
    match find x with
    | some y => some ⟨[], x, y, xs⟩
    | none => (locate find xs).map fun place => { place with before := x :: place.before }

theorem locate_eq_some {find : α → Option β} {xs : List α} {place : Place α β}
    (located : locate find xs = some place) :
    xs = place.put place.here ∧ find place.here = some place.found ∧
      ∀ x ∈ place.before, find x = none := by
  induction xs generalizing place with
  | nil => cases located
  | cons x xs ih =>
    rw [locate] at located
    cases found : find x with
    | some y =>
      rw [found] at located
      cases located
      exact ⟨rfl, found, nofun⟩
    | none =>
      rw [found] at located
      obtain ⟨later, there, rfl⟩ := Option.map_eq_some_iff.mp located
      obtain ⟨split, here, earlier⟩ := ih there
      refine ⟨congrArg (x :: ·) split, here, fun z member => ?_⟩
      rcases mem_cons.mp member with rfl | member
      · exact found
      · exact earlier z member

/-! ### Places of keys -/

section Keys

variable [DecidableEq κ] (key : α → κ)

def locateKey (k : κ) (xs : List α) : Option (Place α Unit) :=
  locate (fun x => if key x = k then some () else none) xs

variable {key} {k : κ} {xs : List α} {place : Place α Unit}

theorem locateKey_eq_some (located : locateKey key k xs = some place) :
    xs = place.put place.here ∧ key place.here = k := by
  obtain ⟨split, found, -⟩ := locate_eq_some located
  refine ⟨split, ?_⟩
  by_contra other
  rw [if_neg other] at found
  cases found

end Keys

end AsyncOpcua.Foundation
