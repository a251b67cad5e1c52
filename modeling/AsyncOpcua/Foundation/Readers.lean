/-
**Readers: pieces of what is left, and buffers filled to the end.**

A reader answers a call for at most so many items with a piece of what it has left, and with nothing
when it is at its end. Who wants a buffer filled calls it until the buffer is full.

* `serves_of_holds` — what each call keeps makes a reader serve all calls.
-/

import Mathlib.Data.List.Basic

namespace AsyncOpcua.Foundation

open List Or

variable {σ ε α : Type*}

/-- Why a buffer is not filled: a call failed, or brought nothing. -/
inductive FillError (ε : Type*) where
  | failed (error : ε)
  | unexpectedEof

/-- A call of a reader: for at most so many items, or for exactly so many. -/
inductive ReadCall where
  | read (size : ℕ)
  | readExact (size : ℕ)

section Calls

variable (read : σ → ℕ → Except ε (List α) × σ)

def fillExact (state : σ) (size : ℕ) : Except (FillError ε) (List α) × σ :=
  if size = 0 then (.ok [], state)
  else
    match read state size with
    | (.error error, after) => (.error (.failed error), after)
    | (.ok [], after) => (.error .unexpectedEof, after)
    | (.ok (item :: items), after) =>
      let rest := fillExact after (size - (items.length + 1))
      (rest.1.map (item :: items ++ ·), rest.2)
termination_by size
decreasing_by omega

def answer (state : σ) : ReadCall → Except (FillError ε) (List α) × σ
  | .read size => ((read state size).1.mapError .failed, (read state size).2)
  | .readExact size => fillExact read state size

/-- **Calls one after the other:** the pieces they bring, and why one failed. -/
def perform (state : σ) : List ReadCall → List (List α) × Option (FillError ε)
  | [] => ([], none)
  | call :: calls =>
    match answer read state call with
    | (.error error, _) => ([], some error)
    | (.ok piece, after) => (piece :: (perform after calls).1, (perform after calls).2)

/-- Calls up to one that brings nothing though it has room bring these items. -/
def Completes (state : σ) (calls : List ReadCall) (items : List α) : Prop :=
  ∃ pieces size, 0 < size ∧ perform read state (calls ++ [.read size]) = (pieces ++ [[]], none) ∧
    pieces.flatten = items

end Calls

/-- **What a reader with some items left answers:** a piece from the front, empty only without room
or at the end; exactly as many as asked for, where there are as many; and else a failure. -/
inductive Serves : List α → List ReadCall → List (List α) × Option (FillError ε) → Prop
  | done (rest : List α) : Serves rest [] ([], none)
  | read (piece later : List α) (size : ℕ) {calls : List ReadCall} {pieces : List (List α)}
      {failure : Option (FillError ε)} :
        piece.length ≤ size → (piece = [] → size = 0 ∨ later = []) →
      Serves later calls (pieces, failure) →
      Serves (piece ++ later) (.read size :: calls) (piece :: pieces, failure)
  | readExact (piece later : List α) {calls : List ReadCall} {pieces : List (List α)}
      {failure : Option (FillError ε)} : Serves later calls (pieces, failure) →
      Serves (piece ++ later) (.readExact piece.length :: calls) (piece :: pieces, failure)
  | unexpectedEof (rest : List α) (size : ℕ) (calls : List ReadCall) : rest.length < size →
      Serves rest (.readExact size :: calls) ([], some .unexpectedEof)

/-- **At the end all has been read.** -/
theorem Serves.complete {rest : List α} {calls : List ReadCall} {size : ℕ}
    {pieces : List (List α)} (room : 0 < size) (serves : Serves (ε := ε) rest
      (calls ++ [.read size]) (pieces ++ [[]], none)) : pieces.flatten = rest := by
  induction calls generalizing rest pieces with
  | nil =>
    generalize same : (pieces ++ [[]], none) = result at serves
    cases serves with
    | @read piece later _ _ pieces' failure _ ends serves =>
      cases serves
      cases pieces with
      | nil =>
        cases same
        rcases ends rfl with none | ended
        · omega
        · simp [ended]
      | cons first pieces => simp at same
  | cons call calls ih =>
    cases pieces with
    | nil =>
      generalize same : (([] : List (List α)) ++ [[]], none) = result at serves
      cases serves with
      | read piece later _ _ _ serves =>
        cases same
        cases calls <;> cases serves
      | readExact piece later serves =>
        cases same
        cases calls <;> cases serves
      | unexpectedEof => cases same
    | cons first pieces =>
      cases serves with
      | read _ later _ _ _ serves =>
        simp [ih serves]
      | readExact _ later serves =>
        simp [ih serves]

variable {read : σ → ℕ → Except ε (List α) × σ}

theorem completes_eq {state : σ} {rest : List α}
    (serves : ∀ calls, Serves rest calls (perform read state calls)) (calls : List ReadCall)
    (items : List α) (completes : Completes read state calls items) : items = rest := by
  obtain ⟨pieces, size, room, performed, rfl⟩ := completes
  have all := serves (calls ++ [.read size])
  rw [performed] at all
  exact all.complete room

theorem fillExact_of_read {state after : σ} {size : ℕ}
    {piece : List α} (some : 0 < size) (called : read state size = (.ok piece, after))
    (length : piece.length = size) : fillExact read state size = (.ok piece, after) := by
  cases piece with
  | nil => exact absurd length (Nat.ne_of_lt some)
  | cons item items =>
    have full : size - (items.length + 1) = 0 := by
      rw [← length, length_cons, Nat.sub_self]
    rw [fillExact, if_neg (Nat.ne_of_gt some), called]
    simp [full, fillExact, Except.map]

section Holding

variable {read : σ → ℕ → Except ε (List α) × σ} {Holds : σ → List α → Prop}

/-- A call takes a piece from the front of what is left, empty only without room or at the end. -/
def TakesFront (read : σ → ℕ → Except ε (List α) × σ) (Holds : σ → List α → Prop) : Prop :=
  ∀ state rest size, Holds state rest → ∃ piece after later, read state size = (.ok piece, after) ∧
    piece.length ≤ size ∧ rest = piece ++ later ∧ (piece = [] → size = 0 ∨ later = []) ∧
    Holds after later

section

variable (takes : TakesFront read Holds) {state : σ} {rest : List α} (holds : Holds state rest)
include takes holds

theorem TakesFront.fillExact (size : ℕ) :
    (∃ piece after later, fillExact read state size = (.ok piece, after) ∧ piece.length = size ∧
      rest = piece ++ later ∧ Holds after later) ∨
    rest.length < size ∧ ∃ after, fillExact read state size = (.error .unexpectedEof, after) := by
  induction size using Nat.strongRecOn generalizing state rest with
  | _ size ih =>
    rw [Foundation.fillExact]
    by_cases none : size = 0
    · exact inl ⟨[], state, rest, if_pos none, none.symm, rfl, holds⟩
    · rw [if_neg none]
      obtain ⟨piece, after, later, answered, fits, rfl, ends, kept⟩ := takes state rest size holds
      rw [answered]
      cases piece with
      | nil =>
        refine inr ⟨?_, after, rfl⟩
        rw [(ends rfl).resolve_left none]
        exact Nat.pos_of_ne_zero none
      | cons item items =>
        rw [length_cons] at fits
        rcases ih (size - (items.length + 1)) (by omega) kept with
          ⟨piece, last, beyond, filled, length, rfl, still⟩ | ⟨short, last, failed⟩
        · refine inl ⟨item :: items ++ piece, last, beyond, ?_, ?_, ?_, still⟩
          · simp [filled, Except.map]
          · rw [length_append, length_cons, length]
            omega
          · rw [append_assoc]
        · refine inr ⟨?_, last, ?_⟩
          · rw [length_append, length_cons]
            omega
          · simp [failed, Except.map]

theorem TakesFront.serves (calls : List ReadCall) :
    Serves rest calls (perform read state calls) := by
  induction calls generalizing state rest with
  | nil => exact .done rest
  | cons call calls ih =>
    rw [perform]
    cases call with
    | read size =>
      obtain ⟨piece, after, later, answered, fits, rfl, ends, kept⟩ := takes state rest size holds
      rw [answer, answered]
      exact .read piece later size fits ends (ih kept)
    | readExact size =>
      rw [answer]
      rcases takes.fillExact holds size with
        ⟨piece, after, later, filled, rfl, rfl, kept⟩ | ⟨short, after, failed⟩
      · rw [filled]
        exact .readExact piece later (ih kept)
      · rw [failed]
        exact .unexpectedEof rest size calls short

end

end Holding

theorem Completes.cons {state after : σ} {call : ReadCall}
    {piece : List α} (answered : answer read state call = (.ok piece, after))
    {calls : List ReadCall} {items : List α} (completes : Completes read after calls items) :
    Completes read state (call :: calls) (piece ++ items) := by
  obtain ⟨pieces, size, room, performed, rfl⟩ := completes
  refine ⟨piece :: pieces, size, room, ?_, flatten_cons⟩
  rw [cons_append, perform, answered]
  show (piece :: (perform read after (calls ++ [.read size])).1, _) = _
  rw [performed]
  rfl

end AsyncOpcua.Foundation
