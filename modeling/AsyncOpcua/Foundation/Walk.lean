/-
**Walks: at each node either an answer, or the next node.**

* `walk` — so many nodes of a walk: its answer, or `none` if it has not answered by then.
-/

import Mathlib.Data.Fintype.Card
import Mathlib.Data.List.AList

namespace AsyncOpcua.Foundation

open Option

inductive Move (Node Answer : Type*) where
  | answer (answer : Answer)
  | go (next : Node)

variable {Node Answer : Type*}

def walk (move : Node → Move Node Answer) : ℕ → Node → Option Answer
  | 0, _ => none
  | count + 1, node =>
    match move node with
    | .answer answer => some answer
    | .go next => walk move count next

def GoesTo (move : Node → Move Node Answer) (node next : Node) : Prop := move node = .go next

/-- **The nodes that a walk comes to.** -/
def Visits (move : Node → Move Node Answer) : Node → Node → Prop :=
  Relation.ReflTransGen (GoesTo move)

section

variable {move move' : Node → Move Node Answer} {node next : Node} {answer : Answer}

theorem walk_answer (answers : move node = .answer answer) (count : ℕ) :
    walk move (count + 1) node = some answer := by
  rw [walk, answers]

theorem walk_go (goes : move node = .go next) (count : ℕ) :
    walk move (count + 1) node = walk move count next := by
  rw [walk, goes]

theorem walk_congr {count : ℕ} (same : ∀ other, Visits move node other → move' other = move other) :
    walk move' count node = walk move count node := by
  induction count generalizing node with
  | zero => rfl
  | succ count ih =>
    have here := same node .refl
    cases moved : move node with
    | answer answer => rw [walk_answer moved, walk_answer (here.trans moved)]
    | go next =>
      rw [walk_go moved, walk_go (here.trans moved)]
      exact ih fun other visits => same other (.head moved visits)

theorem walk_mono {count more : ℕ} (enough : count ≤ more)
    (answered : walk move count node = some answer) : walk move more node = some answer := by
  induction count generalizing node more with
  | zero => cases answered
  | succ count ih =>
    obtain ⟨more, rfl⟩ : ∃ fewer, more = fewer + 1 := ⟨more - 1, by omega⟩
    cases moved : move node with
    | answer given =>
      rw [walk_answer moved] at answered ⊢
      exact answered
    | go next =>
      rw [walk_go moved] at answered ⊢
      exact ih (by omega) answered

end

/-! ### Walks that do not end -/

section

variable {move : Node → Move Node Answer}

/-- The node of a walk after a number of steps, if it goes on for so long. -/
def nodeAfter (move : Node → Move Node Answer) : ℕ → Node → Option Node
  | 0, node => some node
  | count + 1, node =>
    match move node with
    | .answer _ => none
    | .go next => nodeAfter move count next

theorem nodeAfter_add (first second : ℕ) (node : Node) :
    nodeAfter move (first + second) node =
      (nodeAfter move first node).bind (nodeAfter move second) := by
  induction first generalizing node with
  | zero =>
    rw [Nat.zero_add]
    rfl
  | succ first ih =>
    rw [Nat.add_right_comm]
    cases moved : move node with
    | answer => simp [nodeAfter, moved]
    | go next =>
      simp only [nodeAfter, moved]
      exact ih next

variable {node : Node}

theorem walk_eq_none_iff {count : ℕ} :
    walk move count node = none ↔ (nodeAfter move count node).isSome := by
  induction count generalizing node with
  | zero => simp [walk, nodeAfter]
  | succ count ih =>
    cases moved : move node with
    | answer => simp [walk, nodeAfter, moved]
    | go next => simpa [walk, nodeAfter, moved] using ih

theorem walk_eq_some {count : ℕ} {answer : Answer} (answered : walk move count node = some answer) :
    ∃ steps other, nodeAfter move steps node = some other ∧ move other = .answer answer := by
  induction count generalizing node with
  | zero => cases answered
  | succ count ih =>
    cases moved : move node with
    | answer given =>
      rw [walk_answer moved, some.injEq] at answered
      exact ⟨0, node, rfl, answered ▸ moved⟩
    | go next =>
      rw [walk_go moved] at answered
      obtain ⟨steps, other, there, answers⟩ := ih answered
      exact ⟨steps + 1, other, by simpa [nodeAfter, moved] using there, answers⟩

theorem nodeAfter_visits {count : ℕ} {other : Node}
    (there : nodeAfter move count node = some other) : Visits move node other := by
  induction count generalizing node with
  | zero =>
    cases there
    exact .refl
  | succ count ih =>
    cases moved : move node with
    | answer => simp [nodeAfter, moved] at there
    | go next =>
      simp only [nodeAfter, moved] at there
      exact .head moved (ih there)

theorem isSome_of_returns {first second : ℕ} {other : Node} (later : first < second)
    (once : nodeAfter move first node = some other)
    (again : nodeAfter move second node = some other) (count : ℕ) :
    (nodeAfter move count node).isSome := by
  induction count using Nat.strong_induction_on with
  | _ count ih =>
    by_cases early : count ≤ second
    · obtain ⟨rest, total⟩ := Nat.exists_eq_add_of_le early
      rw [total, nodeAfter_add] at again
      cases reached : nodeAfter move count node with
      | none =>
        rw [reached] at again
        cases again
      | some => rfl
    · -- The round between the two visits can be left out.
      have total : count = second + (count - second) := by omega
      have shorter := ih (first + (count - second)) (by omega)
      rw [total, nodeAfter_add, again]
      rwa [nodeAfter_add, once] at shorter

variable {nodes : Finset Node}

section

variable (finite : ∀ node next, move node = .go next → node ∈ nodes)
  (unanswered : walk move (nodes.card + 1) node = none)
include finite unanswered

theorem returns_of_long [DecidableEq Node] :
    ∃ first second other, first < second ∧ nodeAfter move first node = some other ∧
      nodeAfter move second node = some other := by
  rw [walk_eq_none_iff] at unanswered
  have going : ∀ step : Fin (nodes.card + 1),
      ∃ other ∈ nodes, nodeAfter move step node = some other := by
    intro step
    have total : nodes.card + 1 = step + 1 + (nodes.card - step) := by omega
    rw [total, nodeAfter_add, nodeAfter_add] at unanswered
    cases reached : nodeAfter move step node with
    | none => simp [reached] at unanswered
    | some other =>
      refine ⟨other, ?_, rfl⟩
      cases moved : move other with
      | answer => simp [reached, nodeAfter, moved] at unanswered
      | go next => exact finite other next moved
  choose visited inside reached using going
  obtain ⟨first, -, second, -, apart, same⟩ := Finset.exists_ne_map_eq_of_card_lt_of_maps_to
    (by simp : nodes.card < (Finset.univ : Finset (Fin (nodes.card + 1))).card) fun step _ =>
      inside step
  rcases Nat.lt_or_gt_of_ne (fun equal => apart (Fin.ext equal)) with earlier | earlier
  · exact ⟨first, second, visited first, earlier, reached first, same ▸ reached second⟩
  · exact ⟨second, first, visited first, earlier, same ▸ reached second, reached first⟩

/-- **A walk that goes on from finitely many nodes only** answers within that many steps and one, or
not at all. -/
theorem walk_eq_none [DecidableEq Node] (count : ℕ) : walk move count node = none := by
  obtain ⟨first, second, other, later, once, again⟩ := returns_of_long finite unanswered
  exact walk_eq_none_iff.mpr (isSome_of_returns later once again count)

end

/-- The walk comes back to no node. -/
def Acyclic (move : Node → Move Node Answer) : Prop :=
  ∀ node, ¬ Relation.TransGen (GoesTo move) node node

theorem walk_ends [DecidableEq Node] (finite : ∀ node next, move node = .go next → node ∈ nodes)
    (acyclic : Acyclic move) (node : Node) :
    ∃ answer, walk move (nodes.card + 1) node = some answer := by
  rw [← ne_none_iff_exists']
  intro unanswered
  obtain ⟨first, second, other, later, once, again⟩ := returns_of_long finite unanswered
  obtain ⟨steps, rfl⟩ : ∃ steps, second = first + (steps + 1) := ⟨second - first - 1, by omega⟩
  rw [nodeAfter_add, once, bind_some] at again
  cases moved : move other with
  | answer => simp [nodeAfter, moved] at again
  | go next =>
    simp only [nodeAfter, moved] at again
    exact acyclic other (.head' moved (nodeAfter_visits again))

end

/-! ### Remembered answers -/

section

variable {Query : Type*} [DecidableEq Query] {memory : AList fun _ : Query => Answer}
  {answers answers' : Query → Option Answer}

def Remembers (memory : AList fun _ : Query => Answer) (answers : Query → Option Answer) : Prop :=
  ∀ query answer, memory.lookup query = some answer → answers query = some answer

theorem Remembers.insert (remembers : Remembers memory answers) {query : Query} {answer : Answer}
    (present : answers query = some answer) : Remembers (memory.insert query answer) answers := by
  intro other given found
  by_cases same : other = query
  · subst same
    rw [AList.lookup_insert, some.injEq] at found
    rw [present, found]
  · rw [AList.lookup_insert_ne same] at found
    exact remembers other given found

theorem Remembers.erase (remembers : Remembers memory answers) (query : Query) :
    Remembers (memory.erase query) answers := by
  intro other given found
  by_cases same : other = query
  · subst same
    rw [AList.lookup_erase] at found
    cases found
  · rw [AList.lookup_erase_ne same] at found
    exact remembers other given found

end

end AsyncOpcua.Foundation
