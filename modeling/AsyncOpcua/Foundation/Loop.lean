/-
**Loops that run as long as a test holds.**

The body may fail, and is given the number of its round (what a round draws from its surroundings
depends on it).

* `ends_of_last` — a loop ends if the test fails after the next round.
-/

import Mathlib.Data.List.Basic

namespace AsyncOpcua.Foundation

structure Loop (State Error : Type*) where
  again : State → Bool
  body : ℕ → State → Except Error State

namespace Loop

variable {State Error : Type*} (loop : Loop State Error)

def rounds : ℕ → ℕ → State → Except Error (Option State)
  | 0, _, _ => .ok none
  | count + 1, next, s =>
    if loop.again s then (loop.body next s).bind fun t => rounds count (next + 1) t
    else .ok (some s)

/-- **The loop performs finitely many rounds.** A body that fails ends it too. -/
def Ends (s : State) : Prop := ∃ count, loop.rounds count 0 s ≠ .ok none

variable {s : State}

theorem ends_of_not_again (beyond : loop.again s = false) : loop.Ends s := by
  refine ⟨1, ?_⟩
  rw [rounds, beyond]
  exact fun impossible => by cases impossible

theorem ends_of_last (last : ∀ t, loop.body 0 s = .ok t → loop.again t = false) : loop.Ends s := by
  by_cases beyond : loop.again s
  · refine ⟨2, ?_⟩
    rw [rounds, if_pos beyond]
    cases returned : loop.body 0 s with
    | error fault => exact fun impossible => by cases impossible
    | ok t =>
      show loop.rounds 1 1 t ≠ _
      rw [rounds, last t returned]
      exact fun impossible => by cases impossible
  · exact loop.ends_of_not_again (by rwa [Bool.not_eq_true] at beyond)

section

variable {inv : State → Prop} (again : ∀ s, inv s → loop.again s)
  (keeps : ∀ next s, inv s → ∃ t, loop.body next s = .ok t ∧ inv t)
include again keeps

theorem rounds_of_invariant (count next : ℕ)
    (holds : inv s) : loop.rounds count next s = .ok none := by
  induction count generalizing next s with
  | zero => rfl
  | succ count ih =>
    obtain ⟨t, returned, later⟩ := keeps next s holds
    rw [rounds, if_pos (again s holds), returned]
    exact ih (next + 1) later

theorem not_ends_of_invariant (holds : inv s) : ¬ loop.Ends s := by
  rintro ⟨count, ended⟩
  exact ended (loop.rounds_of_invariant again keeps count 0 holds)

end
end Loop

end AsyncOpcua.Foundation
