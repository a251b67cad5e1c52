/-
**Reading page by page.**

A reader answers a page request with values and, if there are more, a token for the next page.
Following the tokens reads a list if every page is a first part of what its token stands for.

* `follow_sound` — a complete read returns what the first request stands for;
* `follow_completes` — and a reader that goes on answering completes the read;
* `Ascending.filter_from`, `Ascending.filter_after` — in a list in strict order of its keys, the key
  of an element is a token for the rest.
-/

import AsyncOpcua.Foundation.TimeWindow

namespace AsyncOpcua.Foundation

open List Option

/-- **A paged reader.** A page leaves a state; `none` is a failure. -/
structure PagedReader (State Request Token Value : Type*) where
  page : State → Option Token → Request → Option ((List Value × Option Token) × State)

namespace PagedReader

variable {State Request Token Value : Type*} (reader : PagedReader State Request Token Value)

/-- Follow the tokens, for at most so many pages. -/
def follow (requests : ℕ → Request) :
    ℕ → ℕ → State → Option Token → Option (List Value)
  | 0, _, _, _ => none
  | fuel + 1, i, s, token =>
    match reader.page s token (requests i) with
    | none => none
    | some ((values, none), _) => some values
    | some ((values, some next), t) =>
      (follow requests fuel (i + 1) t (some next)).map (values ++ ·)

/-- **A complete read,** following the tokens to the end. -/
def Reads (requests : ℕ → Request) (s : State) (values : List Value) : Prop :=
  ∃ fuel, reader.follow requests fuel 0 s none = some values

def Exact (remaining : State → Option Token → List Value → Prop) : Prop :=
  ∀ s token rest, remaining s token rest → ∀ request values next t,
    reader.page s token request = some ((values, next), t) →
      match next with
      | none => values = rest
      | some next => values ≠ [] ∧ ∃ later, rest = values ++ later ∧ remaining t (some next) later

variable {reader} {remaining : State → Option Token → List Value → Prop}
  {requests : ℕ → Request}

variable {s : State} {rest values : List Value}

section

variable (exact : reader.Exact remaining)
include exact

theorem follow_sound {fuel i : ℕ} {token : Option Token}
    (here : remaining s token rest)
    (followed : reader.follow requests fuel i s token = some values) : values = rest := by
  induction fuel generalizing i s token rest values with
  | zero => exact absurd followed (some_ne_none _).symm
  | succ fuel ih =>
    rw [follow] at followed
    split at followed
    · exact absurd followed (some_ne_none _).symm
    · next paged =>
      cases followed
      exact exact s token rest here _ _ _ _ paged
    · next paged =>
      obtain ⟨-, later, split, onward⟩ := exact s token rest here _ _ _ _ paged
      rw [map_eq_some_iff] at followed
      obtain ⟨tail, tailed, rfl⟩ := followed
      rw [split, ih onward tailed]

theorem follow_completes {live : ℕ → State → Option Token → Prop}
    (alive : ∀ i s token rest, remaining s token rest → live i s token →
      ∃ values next t, reader.page s token (requests i) = some ((values, next), t) ∧
        ∀ token, next = some token → live (i + 1) t (some token))
    {fuel i : ℕ} {s : State} {token : Option Token} {rest : List Value}
    (here : remaining s token rest) (lives : live i s token) (enough : rest.length < fuel) :
    reader.follow requests fuel i s token = some rest := by
  induction fuel generalizing i s token rest with
  | zero => exact absurd enough (Nat.not_lt_zero _)
  | succ fuel ih =>
    obtain ⟨values, next, t, paged, onward⟩ := alive i s token rest here lives
    have page := exact s token rest here _ _ _ _ paged
    rw [follow, paged]
    cases next with
    | none => exact congrArg some page
    | some next =>
      obtain ⟨some_, later, split, remains⟩ := page
      have shorter : later.length < fuel := by
        have positive := length_pos_iff.mpr some_
        rw [split, length_append] at enough
        omega
      dsimp only
      rw [ih remains (onward next rfl) shorter, split]
      rfl

/-- **A complete read returns what the first request stands for.** -/
theorem Reads.eq (here : remaining s none rest)
    (reads : reader.Reads requests s values) : values = rest := by
  obtain ⟨fuel, followed⟩ := reads
  exact follow_sound exact here followed

/-- **Reading completely** is returning what the first request stands for. -/
theorem reads_iff (live : ℕ → State → Option Token → Prop)
    (alive : ∀ i s token rest, remaining s token rest → live i s token →
      ∃ values next t, reader.page s token (requests i) = some ((values, next), t) ∧
        ∀ token, next = some token → live (i + 1) t (some token))
    {s : State} {rest values : List Value} (here : remaining s none rest) (lives : live 0 s none) :
    reader.Reads requests s values ↔ values = rest := by
  refine ⟨Reads.eq exact here, ?_⟩
  rintro rfl
  exact ⟨values.length + 1, follow_completes exact alive here lives (Nat.lt_succ_self _)⟩

end
end PagedReader

/-! ### Keys as tokens -/

section Keys

variable {α κ : Type*} [LinearOrder κ] {key : α → κ} {l front back : List α} {a : α}

section

variable (ascending : Ascending key l) (split : l = front ++ a :: back)
include ascending split

theorem Ascending.of_split : (∀ b ∈ front, key b < key a) ∧ ∀ b ∈ back, key a < key b := by
  subst split
  obtain ⟨-, rest, across⟩ := pairwise_append.mp ascending
  exact ⟨fun b member => across b member a mem_cons_self, (pairwise_cons.mp rest).1⟩

theorem Ascending.filter_from : (l.filter fun b => key a ≤ key b) = a :: back := by
  obtain ⟨before, after⟩ := ascending.of_split split
  rw [split, filter_append, filter_eq_nil_iff.mpr, nil_append,
    filter_eq_self.mpr]
  · intro b member
    rcases mem_cons.mp member with rfl | later
    · exact decide_eq_true (le_refl _)
    · exact decide_eq_true (le_of_lt (after b later))
  · intro b member
    rw [decide_eq_true_eq]
    exact not_le.mpr (before b member)

theorem Ascending.filter_after : (l.filter fun b => key a < key b) = back := by
  obtain ⟨before, after⟩ := ascending.of_split split
  rw [split, filter_append, filter_eq_nil_iff.mpr, nil_append,
    filter_cons_of_neg, filter_eq_self.mpr]
  · exact fun b member => decide_eq_true (after b member)
  · rw [decide_eq_true_eq]
    exact lt_irrefl _
  · intro b member
    rw [decide_eq_true_eq]
    exact not_lt.mpr (le_of_lt (before b member))

end

end Keys

end AsyncOpcua.Foundation
