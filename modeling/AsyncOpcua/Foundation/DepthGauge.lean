/-
**Recursive decoders with a depth gauge.**

A decoder reads from an input, counts the locks that are held around it, and is given so many levels
of recursion. A lock is refused once the most that may be held are; where it is granted, it is
released with the decoder it guards, whether that succeeds or not.
-/

import AsyncOpcua.Foundation.Settling
import Mathlib.Algebra.Group.Nat.Defs

namespace AsyncOpcua.Foundation

/-- What a decoder works on: its input, the locks that are held, and the most that ever were. -/
structure Gauged (σ : Type) where
  input : σ
  depth : ℕ
  peak : ℕ

/-- A decoder. `none` is a recursion of more levels than it was given. -/
def Metered (σ ε α : Type) : Type := Gauged σ → Option (Except ε α × Gauged σ)

namespace Metered

variable {σ ε α β : Type}

instance : Monad (Metered σ ε) where
  pure a := fun s => some (.ok a, s)
  bind first next := fun s =>
    match first s with
    | none => none
    | some (.error error, t) => some (.error error, t)
    | some (.ok a, t) => next a t

def fail (error : ε) : Metered σ ε α := fun s => some (.error error, s)

/-- No level is left. -/
def exhausted : Metered σ ε α := fun _ => none

/-- A step on the input that calls no other decoder. -/
def read (reader : StateT σ (Except ε) α) : Metered σ ε α := fun s =>
  match reader s.input with
  | .ok (a, rest) => some (.ok a, { s with input := rest })
  | .error error => some (.error error, s)

/-- **A lock around a decoder,** of which at most `most` are held at once. -/
def lock (most : ℕ) (tooDeep : ε) (body : Metered σ ε α) : Metered σ ε α := fun s =>
  if most ≤ s.depth then some (.error tooDeep, s)
  else
    match body { s with depth := s.depth + 1, peak := max s.peak (s.depth + 1) } with
    | none => none
    | some (result, t) => some (result, { t with depth := t.depth - 1 })

/-- A decoder with an input of its own. -/
def within (enter : σ → σ) (leave : σ → σ → σ) (body : Metered σ ε α) : Metered σ ε α := fun s =>
  match body { s with input := enter s.input } with
  | none => none
  | some (result, t) => some (result, { t with input := leave s.input t.input })

/-- A decoder a number of times. -/
def times : ℕ → Metered σ ε α → Metered σ ε (List α)
  | 0, _ => pure []
  | count + 1, element => do
    let a ← element
    let others ← times count element
    return a :: others

variable {first : Metered σ ε α} {next : α → Metered σ ε β} {s t : Gauged σ}

theorem bind_ok {a : α} (here : first s = some (.ok a, t)) : (first >>= next) s = next a t := by
  show (match first s with | none => none | some (.error error, t) => _ | some (.ok a, t) => _) = _
  rw [here]

theorem bind_error {error : ε} (here : first s = some (.error error, t)) :
    (first >>= next) s = some (.error error, t) := by
  show (match first s with | none => none | some (.error error, t) => _ | some (.ok a, t) => _) = _
  rw [here]

theorem bind_none (here : first s = none) : (first >>= next) s = none := by
  show (match first s with | none => none | some (.error error, t) => _ | some (.ok a, t) => _) = _
  rw [here]

/-- **What a run of two steps did:** the first step decides, or the second goes on after it. -/
theorem bind_eq_some {result : Except ε β} (run : (first >>= next) s = some (result, t)) :
    (∃ error, first s = some (.error error, t) ∧ result = .error error) ∨
      ∃ a u, first s = some (.ok a, u) ∧ next a u = some (result, t) := by
  cases here : first s with
  | none =>
    rw [bind_none here] at run
    cases run
  | some reached =>
    obtain ⟨outcome, u⟩ := reached
    cases outcome with
    | error error =>
      rw [bind_error here] at run
      cases run
      exact .inl ⟨error, rfl, rfl⟩
    | ok a =>
      rw [bind_ok here] at run
      exact .inr ⟨a, u, rfl, run⟩

theorem bind_eq_ok {b : β} (run : (first >>= next) s = some (.ok b, t)) :
    ∃ a u, first s = some (.ok a, u) ∧ next a u = some (.ok b, t) := by
  rcases bind_eq_some run with ⟨_, _, failed⟩ | later
  · cases failed
  · exact later

variable {result : Except ε α} {reader : StateT σ (Except ε) α}

theorem read_eq_some (run : read reader s = some (result, t)) :
    (∃ error, reader s.input = .error error ∧ result = .error error ∧ t = s) ∨
      ∃ a rest, reader s.input = .ok (a, rest) ∧ result = .ok a ∧
        t = { s with input := rest } := by
  unfold read at run
  cases here : reader s.input with
  | error error =>
    rw [here] at run
    cases run
    exact .inl ⟨error, rfl, rfl, rfl⟩
  | ok reached =>
    obtain ⟨a, rest⟩ := reached
    rw [here] at run
    cases run
    exact .inr ⟨a, rest, rfl, rfl, rfl⟩

variable {tooDeep : ε} {body : Metered σ ε α} {most : ℕ}

theorem lock_granted (room : s.depth < most) : lock most tooDeep body s = some (result, t) ↔ ∃ u,
      body { s with depth := s.depth + 1, peak := max s.peak (s.depth + 1) } =
        some (result, u) ∧ t = { u with depth := u.depth - 1 } := by
  constructor
  · intro run
    unfold lock at run
    rw [if_neg (by omega)] at run
    split at run
    · cases run
    · rename_i here
      cases run
      exact ⟨_, here, rfl⟩
  · rintro ⟨u, here, rfl⟩
    unfold lock
    rw [if_neg (by omega), here]

/-- **What a run with a lock did:** the lock was refused, or the decoder ran with one lock more. -/
theorem lock_eq_some (run : lock most tooDeep body s = some (result, t)) :
    (result = .error tooDeep ∧ t = s) ∨ s.depth < most ∧ ∃ u,
      body { s with depth := s.depth + 1, peak := max s.peak (s.depth + 1) } =
        some (result, u) ∧ t = { u with depth := u.depth - 1 } := by
  by_cases room : s.depth < most
  · exact .inr ⟨room, (lock_granted room).mp run⟩
  · unfold lock at run
    rw [if_pos (by omega)] at run
    cases run
    exact .inl ⟨rfl, rfl⟩

theorem lock_none (room : s.depth < most)
    (stuck : body { s with depth := s.depth + 1, peak := max s.peak (s.depth + 1) } = none) :
    lock most tooDeep body s = none := by
  unfold lock
  rw [if_neg (by omega), stuck]

variable {leave : σ → σ → σ} {enter : σ → σ}

theorem within_none
    (stuck : body { s with input := enter s.input } = none) : within enter leave body s = none := by
  unfold within
  rw [stuck]

theorem within_eq_some (run : within enter leave body s = some (result, t)) :
    ∃ u, body { s with input := enter s.input } = some (result, u) ∧
      t = { u with input := leave s.input u.input } := by
  unfold within at run
  cases here : body { s with input := enter s.input } with
  | none =>
    rw [here] at run
    cases run
  | some reached =>
    rw [here] at run
    cases run
    exact ⟨_, rfl, rfl⟩

/-! ### Locks are released -/

/-- **A tame decoder** leaves the gauge as it was, never holds more locks than allowed, and only
moves forward in its input. -/
structure Tame [Preorder σ] (most : ℕ) (m : Metered σ ε α) : Prop where
  released : ∀ {s t r}, m s = some (r, t) → t.depth = s.depth
  bounded : ∀ {s t r}, m s = some (r, t) → t.peak ≤ max s.peak most
  forward : ∀ {s t r}, m s = some (r, t) → t.input ≤ s.input

namespace Tame

variable [Preorder σ] {most : ℕ}

theorem pure (a : α) : Tame most (Pure.pure a : Metered σ ε α) where
  released run := by cases run; rfl
  bounded run := by cases run; exact le_max_left _ _
  forward run := by cases run; exact le_rfl

theorem fail (error : ε) : Tame most (Metered.fail error : Metered σ ε α) where
  released run := by cases run; rfl
  bounded run := by cases run; exact le_max_left _ _
  forward run := by cases run; exact le_rfl

theorem exhausted : Tame most (Metered.exhausted : Metered σ ε α) where
  released run := by cases run
  bounded run := by cases run
  forward run := by cases run

theorem read (moves : ∀ {input a rest}, reader input = .ok (a, rest) → rest ≤ input) :
    Tame most (Metered.read reader) where
  released run := by
    rcases read_eq_some run with ⟨_, _, _, rfl⟩ | ⟨_, _, _, _, rfl⟩ <;> rfl
  bounded run := by
    rcases read_eq_some run with ⟨_, _, _, rfl⟩ | ⟨_, _, _, _, rfl⟩ <;> exact le_max_left _ _
  forward run := by
    rcases read_eq_some run with ⟨_, _, _, rfl⟩ | ⟨_, _, here, _, rfl⟩
    · exact le_rfl
    · exact moves here

theorem bind {first : Metered σ ε α} {next : α → Metered σ ε β} (before : Tame most first)
    (after : ∀ a, Tame most (next a)) : Tame most (first >>= next) where
  released run := by
    rcases bind_eq_some run with ⟨_, here, _⟩ | ⟨a, u, here, later⟩
    · exact before.released here
    · exact ((after a).released later).trans (before.released here)
  bounded run := by
    rcases bind_eq_some run with ⟨_, here, _⟩ | ⟨a, u, here, later⟩
    · exact before.bounded here
    · exact ((after a).bounded later).trans (max_le (before.bounded here) (le_max_right _ _))
  forward run := by
    rcases bind_eq_some run with ⟨_, here, _⟩ | ⟨a, u, here, later⟩
    · exact before.forward here
    · exact ((after a).forward later).trans (before.forward here)

/-- **A lock is released with the decoder it guards,** and it is one of those allowed. -/
theorem lock {tooDeep : ε} {body : Metered σ ε α} (tame : Tame most body) :
    Tame most (Metered.lock most tooDeep body) := by
  constructor
  · intro s t r run
    rcases lock_eq_some run with ⟨-, rfl⟩ | ⟨_, u, here, rfl⟩
    · rfl
    · have kept : u.depth = s.depth + 1 := tame.released here
      show u.depth - 1 = s.depth
      omega
  · intro s t r run
    rcases lock_eq_some run with ⟨-, rfl⟩ | ⟨room, u, here, rfl⟩
    · exact le_max_left _ _
    · have kept : u.peak ≤ max (max s.peak (s.depth + 1)) most := tame.bounded here
      show u.peak ≤ max s.peak most
      omega
  · intro s t r run
    rcases lock_eq_some run with ⟨-, rfl⟩ | ⟨_, u, here, rfl⟩
    · exact le_rfl
    · have kept := tame.forward here
      exact kept

theorem within {body : Metered σ ε α} (tame : Tame most body)
    (moves : ∀ before after, leave before after ≤ before) :
    Tame most (Metered.within enter leave body) := by
  constructor
  · intro s t r run
    obtain ⟨u, here, rfl⟩ := within_eq_some run
    have kept := tame.released here
    exact kept
  · intro s t r run
    obtain ⟨u, here, rfl⟩ := within_eq_some run
    have kept := tame.bounded here
    exact kept
  · intro s t r run
    obtain ⟨u, here, rfl⟩ := within_eq_some run
    exact moves _ _

theorem times {element : Metered σ ε α} (tame : Tame most element) :
    ∀ count, Tame most (Metered.times count element)
  | 0 => pure []
  | count + 1 => tame.bind fun a => (tame.times count).bind fun others => pure (a :: others)

end Tame

/-! ### Decoders that agree -/

/-- **With room for so many locks a decoder does as another,** wherever the other has an answer. -/
def Agrees (most room : ℕ) (m other : Metered σ ε α) : Prop :=
  ∀ s : Gauged σ, most ≤ s.depth + room → other s ≠ none → m s = other s

namespace Agrees

variable {most room : ℕ}

theorem refl (m : Metered σ ε α) : Agrees most room m m := fun _ _ _ => rfl

theorem exhausted (m : Metered σ ε α) : Agrees most room m Metered.exhausted :=
  fun _ _ answered => absurd rfl answered

theorem bind [Preorder σ] {first other : Metered σ ε α} {next others : α → Metered σ ε β}
    (before : Agrees most room first other) (tame : Tame most first)
    (after : ∀ a, Agrees most room (next a) (others a)) :
    Agrees most room (first >>= next) (other >>= others) := by
  intro s enough answered
  have same : first s = other s := before s enough fun stuck => answered (bind_none stuck)
  cases run : other s with
  | none => exact absurd (bind_none run) answered
  | some reached =>
    obtain ⟨outcome, t⟩ := reached
    rw [run] at same
    cases outcome with
    | error error => rw [bind_error same, bind_error run]
    | ok a =>
      rw [bind_ok run] at answered ⊢
      rw [bind_ok same]
      exact after a t (by rw [tame.released same]; exact enough) answered

/-- A lock that is granted leaves room for one less. -/
theorem lock {tooDeep : ε} {body other : Metered σ ε α}
    (under : ∀ less, less + 1 = room → Agrees most less body other) :
    Agrees most room (Metered.lock most tooDeep body) (Metered.lock most tooDeep other) := by
  intro s enough answered
  by_cases free : s.depth < most
  · have same := under (room - 1) (by omega)
      { s with depth := s.depth + 1, peak := max s.peak (s.depth + 1) }
      (by show most ≤ s.depth + 1 + (room - 1); omega) fun stuck => answered (lock_none free stuck)
    unfold Metered.lock
    rw [same]
  · unfold Metered.lock
    rw [if_pos (by omega), if_pos (by omega)]

theorem within {body other : Metered σ ε α} (agrees : Agrees most room body other) :
    Agrees most room (Metered.within enter leave body) (Metered.within enter leave other) := by
  intro s enough answered
  have same := agrees { s with input := enter s.input } enough fun stuck =>
    answered (within_none stuck)
  unfold Metered.within
  rw [same]

theorem times [Preorder σ] {element other : Metered σ ε α} (tame : Tame most element)
    (agrees : Agrees most room element other) :
    ∀ count, Agrees most room (Metered.times count element) (Metered.times count other)
  | 0 => refl _
  | count + 1 => agrees.bind tame fun _ =>
    (agrees.times tame count).bind (tame.times count) fun _ => refl _

end Agrees

/-! ### What is given back -/

/-- **Where so many locks are held, a decoder gives back only such values.** -/
def Yields (depth : ℕ) (m : Metered σ ε α) (P : α → Prop) : Prop :=
  ∀ s t a, s.depth = depth → m s = some (.ok a, t) → P a

namespace Yields

variable {depth : ℕ} {P : α → Prop} {Q : β → Prop}

theorem any (m : Metered σ ε α) : Yields depth m fun _ => True :=
  fun _ _ _ _ _ => trivial

theorem pure {a : α} (here : P a) : Yields depth (Pure.pure a : Metered σ ε α) P := by
  intro s t b _ run
  cases run
  exact here

theorem fail (error : ε) : Yields depth (Metered.fail error : Metered σ ε α) P := by
  intro s t a _ run
  cases run

theorem read (gives : ∀ {input a rest}, reader input = .ok (a, rest) → P a) :
    Yields depth (Metered.read reader) P := by
  intro s t a _ run
  rcases read_eq_some run with ⟨_, _, failed, _⟩ | ⟨b, rest, here, same, _⟩
  · cases failed
  · cases same
    exact gives here

variable {most : ℕ}

theorem bind [Preorder σ] {first : Metered σ ε α} {next : α → Metered σ ε β}
    (before : Yields depth first P) (tame : Tame most first)
    (after : ∀ a, P a → Yields depth (next a) Q) : Yields depth (first >>= next) Q := by
  intro s t b held run
  obtain ⟨a, u, here, later⟩ := bind_eq_ok run
  exact after a (before s u a held here) u t b ((tame.released here).trans held) later

theorem lock {tooDeep : ε} {body : Metered σ ε α}
    (under : depth < most → Yields (depth + 1) body P) :
    Yields depth (Metered.lock most tooDeep body) P := by
  intro s t a held run
  rcases lock_eq_some run with ⟨failed, _⟩ | ⟨room, u, here, _⟩
  · cases failed
  · exact under (held ▸ room) _ u a (congrArg (· + 1) held) here

theorem times [Preorder σ] {element : Metered σ ε α} (yields : Yields depth element P)
    (tame : Tame most element) : ∀ count, Yields depth (Metered.times count element)
      fun values => values.length = count ∧ ∀ a ∈ values, P a
  | 0 => pure ⟨rfl, fun _ absurdly => nomatch absurdly⟩
  | count + 1 => yields.bind tame fun _ here =>
    (yields.times tame count).bind (tame.times count) fun _ others =>
      pure ⟨congrArg (· + 1) others.1, List.forall_mem_cons.mpr ⟨here, others.2⟩⟩

end Yields

/-! ### Values that are taken -/

def Takes (m : ℕ → Metered σ ε α) (depth : ℕ) (front : σ) (a : α) (back : σ) : Prop :=
  ∀ peak, ∃ reached, Settles (fun levels => m levels ⟨front, depth, peak⟩)
    (some (.ok a, ⟨back, depth, reached⟩))

namespace Takes

variable {depth : ℕ} {front middle back : σ} {a : α} {b : β}

theorem pure (a : α) : Takes (fun _ => (Pure.pure a : Metered σ ε α)) depth front a front :=
  fun peak => ⟨peak, .const _⟩

theorem read (here : reader front = .ok (a, back)) :
    Takes (fun _ => Metered.read reader) depth front a back := by
  refine fun peak => ⟨peak, .congr (.const _) fun _ => ?_⟩
  show (match reader front with | .ok (a, rest) => _ | .error error => _) = _
  rw [here]

theorem bind {first : ℕ → Metered σ ε α} {next : ℕ → α → Metered σ ε β}
    (before : Takes first depth front a middle)
    (after : Takes (fun levels => next levels a) depth middle b back) :
    Takes (fun levels => first levels >>= next levels) depth front b back := by
  intro peak
  obtain ⟨between, here⟩ := before peak
  obtain ⟨reached, later⟩ := after between
  refine ⟨reached, ?_⟩
  filter_upwards [here, later] with levels first second
  rw [bind_ok first, second]

theorem lock {tooDeep : ε} {body : ℕ → Metered σ ε α} (room : depth < most)
    (under : Takes body (depth + 1) front a back) :
    Takes (fun levels => Metered.lock most tooDeep (body levels)) depth front a back := by
  intro peak
  obtain ⟨reached, here⟩ := under (max peak (depth + 1))
  refine ⟨reached, here.mono fun levels settled => ?_⟩
  show (if most ≤ depth then _ else _) = _
  rw [if_neg (by omega)]
  simp only at settled ⊢
  rw [settled]
  rfl

theorem succ {m body : ℕ → Metered σ ε α} (here : Takes body depth front a back)
    (step : ∀ levels, m (levels + 1) = body levels) : Takes m depth front a back := by
  intro peak
  obtain ⟨reached, settles⟩ := here peak
  exact ⟨reached, settles.succ fun levels => by rw [step]⟩

theorem unique {m : ℕ → Metered σ ε α} (here : Takes m depth front a back) (peak : ℕ)
    {result : Except ε α} {left : σ}
    (always : ∀ levels, ∃ reached, m (levels + 1) ⟨front, depth, peak⟩ =
      some (result, ⟨left, depth, reached⟩)) : result = .ok a ∧ left = back := by
  obtain ⟨reached, settles⟩ := here peak
  unfold Settles at settles
  rw [Filter.eventually_atTop] at settles
  obtain ⟨enough, stays⟩ := settles
  obtain ⟨_, other⟩ := always enough
  have settled := stays (enough + 1) (by omega)
  simp only at settled
  rw [settled] at other
  cases other
  exact ⟨rfl, rfl⟩

end Takes

end Metered

end AsyncOpcua.Foundation
