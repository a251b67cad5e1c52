/-
**Depth-first search for a path that comes back to itself.**

The search descends into the children of a node with the set of the nodes above it; it fails where
it comes to one of them again, and takes a node off the set when it is through with its children. A
search that is given too few levels has no result.

* `not_transGen_of_acc` — so that none of the nodes there is below itself;
* `search_ne_error` — and where none is, the search does not fail.
-/

import Mathlib.Data.Finset.Card

set_option linter.unusedSectionVars false

namespace AsyncOpcua.Foundation

variable {Node : Type*} [DecidableEq Node]

/-- Search one node after the other, until one fails. -/
def searchEach (visit : Node → Finset Node → Option (Except Unit (Finset Node))) :
    List Node → Finset Node → Option (Except Unit (Finset Node))
  | [], path => some (.ok path)
  | child :: rest, path =>
    match visit child path with
    | some (.ok path) => searchEach visit rest path
    | some (.error ()) => some (.error ())
    | none => none

def search (children : Node → Option (List Node)) :
    ℕ → Node → Finset Node → Option (Except Unit (Finset Node))
  | 0, _, _ => none
  | levels + 1, node, path =>
    match children node with
    | none => some (.ok path)
    | some below =>
      if node ∈ path then some (.error ())
      else
        match searchEach (search children levels) below (insert node path) with
        | some (.ok path) => some (.ok (path.erase node))
        | some (.error ()) => some (.error ())
        | none => none

def ChildOf (children : Node → Option (List Node)) (child node : Node) : Prop :=
  ∃ below, children node = some below ∧ child ∈ below

variable {children : Node → Option (List Node)}

variable {path after : Finset Node}
  {visit : Node → Finset Node → Option (Except Unit (Finset Node))}

theorem searchEach_ok
    (restores : ∀ node path after, visit node path = some (.ok after) → after = path)
    {nodes : List Node} (passed : searchEach visit nodes path = some (.ok after)) :
    after = path ∧ ∀ node ∈ nodes, visit node path = some (.ok path) := by
  induction nodes with
  | nil =>
    cases passed
    exact ⟨rfl, by simp⟩
  | cons node rest ih =>
    unfold searchEach at passed
    cases visited : visit node path with
    | none =>
      rw [visited] at passed
      cases passed
    | some result =>
      cases result with
      | error =>
        rw [visited] at passed
        cases passed
      | ok between =>
        obtain rfl := restores node path between visited
        rw [visited] at passed
        obtain ⟨same, others⟩ := ih passed
        exact ⟨same, List.forall_mem_cons.mpr ⟨visited, others⟩⟩

theorem search_succ_ok {levels : ℕ} {node : Node} {path after : Finset Node}
    (restores : ∀ node path after, search children levels node path = some (.ok after) →
      after = path)
    (passed : search children (levels + 1) node path = some (.ok after)) :
    after = path ∧ ∀ child, ChildOf children child node →
      search children levels child (insert node path) = some (.ok (insert node path)) := by
  unfold search at passed
  cases found : children node with
  | none =>
    rw [found] at passed
    cases passed
    refine ⟨rfl, ?_⟩
    rintro child ⟨below, listed, -⟩
    rw [found] at listed
    cases listed
  | some below =>
    simp only [found] at passed
    by_cases above : node ∈ path
    · rw [if_pos above] at passed
      cases passed
    rw [if_neg above] at passed
    cases searched : searchEach (search children levels) below (insert node path) with
    | none =>
      rw [searched] at passed
      cases passed
    | some result =>
      cases result with
      | error =>
        rw [searched] at passed
        cases passed
      | ok back =>
        rw [searched] at passed
        cases passed
        obtain ⟨rfl, all⟩ := searchEach_ok restores searched
        refine ⟨Finset.erase_insert above, ?_⟩
        rintro child ⟨listed, same, member⟩
        rw [found, Option.some.injEq] at same
        exact all child (same ▸ member)

variable {levels : ℕ}

/-- **The path is left as it was found.** -/
theorem search_restores : ∀ node path after,
    search children levels node path = some (.ok after) → after = path := by
  induction levels with
  | zero =>
    intro node path after passed
    cases passed
  | succ levels ih => exact fun node path after passed => (search_succ_ok ih passed).1

variable {node : Node}

/-- **Below a node whose search succeeds every descent ends.** -/
theorem acc_of_search (passed : search children levels node path = some (.ok after)) :
    Acc (ChildOf children) node := by
  induction levels generalizing node path after with
  | zero => cases passed
  | succ levels ih =>
    obtain ⟨-, below⟩ := search_succ_ok search_restores passed
    exact ⟨node, fun child isChild => ih (below child isChild)⟩

theorem not_transGen_of_acc {r : Node → Node → Prop} (ends : Acc r node) :
    ¬ Relation.TransGen r node node := by
  intro round
  induction ends with
  | intro node _ ih =>
    obtain ⟨last, steps, back⟩ := Relation.TransGen.tail'_iff.mp round
    exact ih last back (Relation.TransGen.head' back steps)

theorem searchEach_isSome {nodes : List Node}
    (restores : ∀ node path after, visit node path = some (.ok after) → after = path)
    (returns : ∀ node ∈ nodes, (visit node path).isSome) :
    (searchEach visit nodes path).isSome := by
  induction nodes with
  | nil => rfl
  | cons node rest ih =>
    obtain ⟨here, later⟩ := List.forall_mem_cons.mp returns
    unfold searchEach
    cases visited : visit node path with
    | none =>
      rw [visited] at here
      cases here
    | some result =>
      cases result with
      | error => rfl
      | ok between =>
        obtain rfl := restores node path between visited
        exact ih later

theorem search_isSome {parents : Finset Node}
    (known : ∀ node below, children node = some below → node ∈ parents) (above : path ⊆ parents)
    (enough : parents.card < levels + path.card) : (search children levels node path).isSome := by
  induction levels generalizing node path with
  | zero =>
    have fits := Finset.card_le_card above
    omega
  | succ levels ih =>
    unfold search
    cases found : children node with
    | none => rfl
    | some below =>
      by_cases again : node ∈ path
      · simp only [if_pos again]
        rfl
      · have more : (insert node path).card = path.card + 1 := Finset.card_insert_of_notMem again
        have each : (searchEach (search children levels) below (insert node path)).isSome := by
          refine searchEach_isSome search_restores fun child _ => ih ?_ (by omega)
          exact Finset.insert_subset (known node below found) above
        obtain ⟨result, searched⟩ := Option.isSome_iff_exists.mp each
        simp only [if_neg again, searched]
        cases result <;> rfl

theorem searchEach_ne_error {nodes : List Node}
    (restores : ∀ node path after, visit node path = some (.ok after) → after = path)
    (passes : ∀ node ∈ nodes, visit node path ≠ some (.error ())) :
    searchEach visit nodes path ≠ some (.error ()) := by
  induction nodes with
  | nil => nofun
  | cons node rest ih =>
    obtain ⟨here, later⟩ := List.forall_mem_cons.mp passes
    unfold searchEach
    rcases visited : visit node path with _ | (_ | between)
    · nofun
    · exact absurd visited here
    · obtain rfl := restores node path between visited
      exact ih later

/-- **A search below which nothing goes round does not fail,** with only nodes above it on the path.
-/
theorem search_ne_error (treelike : ∀ below, Relation.ReflTransGen (ChildOf children) below node →
      ¬ Relation.TransGen (ChildOf children) below below)
    (above : ∀ parent ∈ path, Relation.TransGen (ChildOf children) node parent) :
    search children levels node path ≠ some (.error ()) := by
  induction levels generalizing node path with
  | zero => nofun
  | succ levels ih =>
    unfold search
    cases found : children node with
    | none => nofun
    | some below =>
      have apart : node ∉ path := fun again => treelike node .refl (above node again)
      have each : searchEach (search children levels) below (insert node path) ≠
          some (.error ()) := by
        refine searchEach_ne_error search_restores fun child listed => ?_
        have step : ChildOf children child node := ⟨below, found, listed⟩
        refine ih (fun low under => treelike low (under.tail step)) fun parent there => ?_
        rcases Finset.mem_insert.mp there with rfl | higher
        · exact .single step
        · exact .head step (above parent higher)
      simp only [if_neg apart]
      split
      · nofun
      · exact absurd ‹_› each
      · nofun

end AsyncOpcua.Foundation
