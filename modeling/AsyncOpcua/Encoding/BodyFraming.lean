/-
**How much of a message an extension object takes.**

A body in bytes has its length before it. The length goes to the type loaders; how much is read of
the body is up to the loader that knows the type.

* `framed_iff` — header and body are consumed, and no more, exactly where the loader reads the
  length.
-/

import AsyncOpcua.Encoding.DepthLimit

namespace AsyncOpcua.Encoding

open Types hiding Variant DataValue
open Foundation
open Decoder
open Metered (bind_ok bind_eq_ok read_eq_some lock_granted)

variable {B : Builtins} {ctx : Context B} {answers : Answers B}

/-- An extension object with a body in bytes: a type id, the encoding byte and the length of the
body, which is not negative, and at least as many bytes. -/
structure BinaryHeader (B : Builtins) (bytes : List UInt8) where
  id : B.Value .nodeId
  tail : List UInt8
  length : ℕ
  rest : List UInt8
  typeId : B.decode .nodeId bytes = .ok (id, 1 :: tail)
  bodyLength : readI32 tail = .ok ((length : ℤ), rest)
  complete : length ≤ rest.length

/-- The state in which the body is decoded. -/
def BinaryHeader.entered {s : Gauged Input} (header : BinaryHeader B s.input.bytes) :
    Gauged Input :=
  ⟨⟨header.rest, s.input.xml⟩, s.depth + 1, max s.peak (s.depth + 1)⟩

variable {s t : Gauged Input}

/-- **The loaders go on with the message itself,** after the header. -/
theorem decodeExtensionObject_binary (header : BinaryHeader B s.input.bytes)
    (room : s.depth < ctx.maxDepth) {result : Except Error (ExtensionObject B)} :
    decodeExtensionObject ctx answers s = some (result, t) ↔
      ∃ u, (match validateBodySize header.length ctx.options with
        | .error error => fail error
        | .ok none => pure none
        | .ok (some size) => answers (.loadFromBinary header.id (some size))) header.entered =
          some (result, u) ∧ t = { u with depth := u.depth - 1 } := by
  unfold decodeExtensionObject depthLock
  rw [lock_granted room]
  refine exists_congr fun u => and_congr_left fun _ => Eq.congr_left ?_
  refine (bind_ok (by simp only [onBytes, Metered.read, header.typeId]; rfl)).trans ?_
  refine (bind_ok (a := 1) (by simp only [onBytes, Metered.read, readU8]; rfl)).trans ?_
  exact bind_ok (by simp only [onBytes, Metered.read, header.bodyLength]; rfl)

/-- **Exactly the header and the body are consumed** wherever decoding succeeds. -/
def Framed (ctx : Context B) {s : Gauged Input} (header : BinaryHeader B s.input.bytes) : Prop :=
  ∀ levels object t, decoders ctx levels .extensionObject s = some (.ok object, t) →
    t.input.bytes = header.rest.drop header.length

/-- A program takes so many bytes wherever it succeeds. -/
def Program.ReadsExactly (ctx : Context B) (program : Program B) (s : Gauged Input) (count : ℕ) :
    Prop :=
  ∀ levels body t, program.run ctx (decoders ctx levels) s = some (.ok body, t) →
    t.input.bytes = s.input.bytes.drop count

/-- **What becomes of a body:** nothing is left to decode, it is refused before it is, or the loader
that knows its type reads as much as its length says. -/
def BinaryHeader.Matches (ctx : Context B) {s : Gauged Input}
    (header : BinaryHeader B s.input.bytes) : Prop :=
  header.length = 0 ∨ ctx.maxDepth ≤ s.depth ∨ ctx.options.maxMessageSize < header.length ∨
    ∀ program, ctx.binaryProgram header.id (some header.length) = some program →
      program.ReadsExactly ctx header.entered header.length

variable {object : ExtensionObject B}

theorem loadFromBinary_eq_ok {id : B.Value .nodeId} {length : Option ℕ} :
    ctx.loadFromBinary answers id length s = some (.ok object, t) ↔
      ∃ program body, ctx.binaryProgram id length = some program ∧
        program.run ctx answers s = some (.ok body, t) ∧ object = some body := by
  unfold Context.loadFromBinary
  cases known : ctx.binaryProgram id length with
  | none =>
    constructor
    · intro run
      cases run
    · rintro ⟨_, _, absent, _⟩
      cases absent
  | some program =>
    constructor
    · intro run
      obtain ⟨body, u, here, later⟩ := bind_eq_ok run
      cases later
      exact ⟨program, body, rfl, here, rfl⟩
    · rintro ⟨_, body, same, run, rfl⟩
      cases same
      exact bind_ok run

theorem validateBodySize_natCast (length : ℕ) (options : DecodingOptions) :
    validateBodySize length options = if length = 0 then .ok none
      else if options.maxMessageSize < length then .error (tooLong options (length : ℤ))
      else .ok (some length) := by
  unfold validateBodySize
  rw [Int.toNat_natCast]
  by_cases empty : length = 0
  · rw [if_pos (by omega), if_pos empty]
  · rw [if_neg (by omega), if_neg empty]

section

variable (header : BinaryHeader B s.input.bytes)

/-- **A body that is decoded** is decoded by the program of the first loader that knows its type. -/
theorem decoders_body_iff (room : s.depth < ctx.maxDepth) (present : header.length ≠ 0)
    (short : ¬ ctx.options.maxMessageSize < header.length) {levels : ℕ} :
    decoders ctx (levels + 2) .extensionObject s = some (.ok object, t) ↔
      ∃ program body u, ctx.binaryProgram header.id (some header.length) = some program ∧
        program.run ctx (decoders ctx levels) header.entered = some (.ok body, u) ∧
        object = some body ∧ t = { u with depth := u.depth - 1 } := by
  rw [decoders_extensionObject, decodeExtensionObject_binary header room,
    validateBodySize_natCast, if_neg present, if_neg short]
  simp only [decoders_loadFromBinary, loadFromBinary_eq_ok]
  constructor
  · rintro ⟨u, ⟨program, body, known, run, made⟩, left⟩
    exact ⟨program, body, u, known, run, made, left⟩
  · rintro ⟨program, body, u, known, run, made, left⟩
    exact ⟨u, ⟨program, body, known, run, made⟩, left⟩

theorem decoders_one_body (room : s.depth < ctx.maxDepth) (present : header.length ≠ 0) :
    decoders ctx 1 .extensionObject s ≠ some (.ok object, t) := by
  intro run
  rw [decoders_extensionObject, decodeExtensionObject_binary header room,
    validateBodySize_natCast, if_neg present] at run
  obtain ⟨u, here, _⟩ := run
  split_ifs at here <;> cases here

theorem framed_of_full (full : ctx.maxDepth ≤ s.depth) : Framed ctx header := by
  intro levels object t run
  match levels with
  | levels + 1 =>
    rcases Metered.lock_eq_some run with ⟨refused, _⟩ | ⟨granted, _⟩
    · cases refused
    · omega

theorem framed_of_empty (room : s.depth < ctx.maxDepth) (empty : header.length = 0) :
    Framed ctx header := by
  intro levels object t run
  match levels with
  | levels + 1 =>
    rw [decoders_extensionObject, decodeExtensionObject_binary header room,
      validateBodySize_natCast, if_pos empty] at run
    obtain ⟨u, here, rfl⟩ := run
    cases here
    rw [empty]
    rfl

theorem framed_of_long (room : s.depth < ctx.maxDepth) (present : header.length ≠ 0)
    (long : ctx.options.maxMessageSize < header.length) : Framed ctx header := by
  intro levels object t run
  match levels with
  | levels + 1 =>
    rw [decoders_extensionObject, decodeExtensionObject_binary header room,
      validateBodySize_natCast, if_neg present, if_pos long] at run
    obtain ⟨u, here, rfl⟩ := run
    cases here

end

/-- **An extension object takes its header and its body,** no matter what follows, exactly where
nothing is left of the body to decode, where it is refused, or where the loader of its type reads
the length that stands before it. -/
theorem framed_iff (ctx : Context B) {s : Gauged Input} (header : BinaryHeader B s.input.bytes) :
    Framed ctx header ↔ header.Matches ctx := by
  by_cases full : ctx.maxDepth ≤ s.depth
  · exact iff_of_true (framed_of_full header full) (.inr (.inl full))
  have room : s.depth < ctx.maxDepth := by omega
  by_cases empty : header.length = 0
  · exact iff_of_true (framed_of_empty header room empty) (.inl empty)
  by_cases long : ctx.options.maxMessageSize < header.length
  · exact iff_of_true (framed_of_long header room empty long) (.inr (.inr (.inl long)))
  constructor
  · intro framed
    refine .inr (.inr (.inr fun program known levels body u run => ?_))
    exact framed (levels + 2) (some body) { u with depth := u.depth - 1 }
      ((decoders_body_iff header room empty long).mpr ⟨program, body, u, known, run, rfl, rfl⟩)
  · rintro (absent | filled | beyond | exact) levels object t run
    · exact absurd absent empty
    · exact absurd filled full
    · exact absurd beyond long
    · match levels with
      | 1 => exact absurd run (decoders_one_body header room empty)
      | levels + 2 =>
        obtain ⟨program, body, u, known, here, _, rfl⟩ :=
          (decoders_body_iff header room empty long).mp run
        exact exact program known levels body u here

/-! ### Bodies of another length -/

def elementOperand : Program rawBuiltins :=
  .leaf .uInt32 fun index => .done (⟨[1, 0, 82, 2], rfl⟩, index.1)

/-- A context with a type of the core namespace that is known in binary. -/
def operandContext : Context rawBuiltins where
  options := wideOptions
  maxArrayLength := 1000
  maxDepth := 10
  xmlFeature := true
  lex := fun _ => []
  loaders := [StaticTypeLoader (some 0)
      (fun number => if number = 592 ∨ number = 594 then some elementOperand else none)
      fun _ => none,
    FallbackTypeLoader wideOptions]

/-- An element operand said to have so many bytes, and the bytes that follow. -/
def operandBytes (length : UInt8) (rest : List UInt8) : List UInt8 :=
  [1, 0, 82, 2, 1, length, 0, 0, 0] ++ rest

/-- An operand of four bytes, and a message that goes on with two more. -/
def exactOperand : BinaryHeader rawBuiltins (operandBytes 4 [7, 0, 0, 0, 5, 6]) :=
  ⟨⟨[1, 0, 82, 2], rfl⟩, [4, 0, 0, 0, 7, 0, 0, 0, 5, 6], 4, [7, 0, 0, 0, 5, 6], rfl, rfl, by decide⟩

def longOperand : BinaryHeader rawBuiltins (operandBytes 6 [7, 0, 0, 0, 5, 6]) :=
  ⟨⟨[1, 0, 82, 2], rfl⟩, [6, 0, 0, 0, 7, 0, 0, 0, 5, 6], 6, [7, 0, 0, 0, 5, 6], rfl, rfl, by decide⟩

def shortOperand : BinaryHeader rawBuiltins (operandBytes 2 [7, 0, 0, 0, 5, 6]) :=
  ⟨⟨[1, 0, 82, 2], rfl⟩, [2, 0, 0, 0, 7, 0, 0, 0, 5, 6], 2, [7, 0, 0, 0, 5, 6], rfl, rfl, by decide⟩

theorem exactOperand_framed :
    Framed operandContext (s := ⟨⟨operandBytes 4 [7, 0, 0, 0, 5, 6], []⟩, 0, 0⟩) exactOperand := by
  refine (framed_iff _ _).mpr (.inr (.inr (.inr fun program known levels body t run => ?_)))
  obtain rfl : program = elementOperand := by cases known; rfl
  cases run
  rfl

/-- **The length that is declared is not what is consumed:** of six bytes two are left for the next
field, and of two bytes the next field loses two. -/
theorem operand_not_framed :
    ¬ Framed operandContext (s := ⟨⟨operandBytes 6 [7, 0, 0, 0, 5, 6], []⟩, 0, 0⟩) longOperand ∧
    ¬ Framed operandContext (s := ⟨⟨operandBytes 2 [7, 0, 0, 0, 5, 6], []⟩, 0, 0⟩)
      shortOperand := by
  constructor
  · intro framed
    have left := framed 3 _ _ rfl
    exact absurd left (by decide)
  · intro framed
    have left := framed 3 _ _ rfl
    exact absurd left (by decide)

end AsyncOpcua.Encoding
