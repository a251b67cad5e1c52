/-
**The binary encoding of numbers and strings, and the errors of decoding.**

Bytes are read from the front of a list; what is left is returned. A number is a `u32` or a `usize`;
writing one keeps the low 32 bits, as the casts of the source do.

* `readU32_writeU32`, `readI32_writeI32` — what is written is read back.
-/

import AsyncOpcua.Foundation.Transition
import AsyncOpcua.Types.DataValue
import Mathlib.Tactic.Ring

namespace AsyncOpcua.Types

open List

/-! ### Errors -/

/-- A general error: what happened, and as part of which request. -/
structure Error where
  status : StatusCode
  requestId : Option ℕ
  requestHandle : Option ℕ
  context : String

namespace Error

def new (status : StatusCode) (context : String) : Error := ⟨status, none, none, context⟩

def decoding (context : String) : Error := .new StatusCode.BadDecodingError context

def encoding (context : String) : Error := .new StatusCode.BadEncodingError context

def withContext (error : Error) (requestId requestHandle : Option ℕ) : Error :=
  { error with requestId := requestId, requestHandle := requestHandle }

/-- What `read_exact` fails with at the end of its input. -/
def unexpectedEof : Error := .decoding "failed to fill whole buffer"

end Error

structure DecodingOptions where
  maxMessageSize : ℕ
  maxStringLength : ℕ
  maxByteStringLength : ℕ

/-! ### Numbers -/

/-- How many values a `u32` has. -/
def u32Size : ℕ := 4294967296

/-- What reads a value from the front of the bytes. -/
abbrev Reader := StateT (List UInt8) (Except Error)

namespace Reader

def fail {α : Type} (error : Error) : Reader α := fun _ => .error error

variable {α β : Type} {bytes : List UInt8}

variable {first : Reader α} {next : α → Reader β} {a : α}

theorem bind_ok {rest : List UInt8} (read : first bytes = .ok (a, rest)) :
    (first >>= next) bytes = next a rest := by
  show (first bytes).bind _ = _
  rw [read]
  rfl

theorem bind_error {error : Error} (failed : first bytes = .error error) :
    (first >>= next) bytes = .error error := by
  show (first bytes).bind _ = _
  rw [failed]
  rfl

theorem bind_eq_ok {b : β} {rest : List UInt8} (read : (first >>= next) bytes = .ok (b, rest)) :
    ∃ a middle, first bytes = .ok (a, middle) ∧ next a middle = .ok (b, rest) := by
  obtain ⟨⟨a, middle⟩, head, after⟩ := Foundation.Machine.bind_eq_ok.mp read
  exact ⟨a, middle, head, after⟩

/-- **The bytes are read as the value,** whatever follows them. -/
def Reads {α : Type} (reader : Reader α) (a : α) (bytes : List UInt8) : Prop :=
  ∀ rest, reader (bytes ++ rest) = .ok (a, rest)

theorem Reads.pure (a : α) : Reads (Pure.pure a) a [] := fun _ => rfl

theorem Reads.bind {b : β} {front back : List UInt8} (before : Reads first a front)
    (after : Reads (next a) b back) : Reads (first >>= next) b (front ++ back) := by
  intro rest
  rw [append_assoc, bind_ok (before (back ++ rest))]
  exact after rest

theorem Reads.map {b : β} (before : Reads first a bytes) (after : Reads (next a) b []) :
    Reads (first >>= next) b bytes := by
  have both := before.bind after
  rwa [append_nil] at both

/-- **So many bytes at least** are read where a value is. -/
def Takes {α : Type} (reader : Reader α) (count : ℕ) : Prop :=
  ∀ bytes a rest, reader bytes = .ok (a, rest) → rest.length + count ≤ bytes.length

theorem Takes.bind {count more : ℕ} (before : Takes first count)
    (after : ∀ a, Takes (next a) more) : Takes (first >>= next) (count + more) := by
  intro bytes b rest read
  obtain ⟨a, middle, head, later⟩ := bind_eq_ok read
  have front := before bytes a middle head
  have back := after a middle b rest later
  omega

theorem takes_pure (a : α) : Takes (Pure.pure a) 0 := by
  rintro bytes a rest ⟨⟩
  exact le_refl _

theorem Takes.pure_bind {count : ℕ} (after : Takes (next a) count) :
    Takes (Pure.pure a >>= next) count := after

theorem takes_fail_bind (error : Error) (next : α → Reader β) (count : ℕ) :
    Takes (fail error >>= next) count := by
  rintro bytes a rest ⟨⟩

end Reader

def readExact (count : ℕ) : Reader (List UInt8) := fun bytes =>
  if bytes.length < count then .error .unexpectedEof
  else .ok (bytes.take count, bytes.drop count)

def readU8 : Reader UInt8
  | [] => .error .unexpectedEof
  | byte :: rest => .ok (byte, rest)

def writeU32 (value : ℕ) : List UInt8 :=
  [.ofNat value, .ofNat (value / 256), .ofNat (value / 65536), .ofNat (value / 16777216)]

def fromLeBytes (first second third fourth : UInt8) : ℕ :=
  first.toNat + 256 * second.toNat + 65536 * third.toNat + 16777216 * fourth.toNat

def readU32 : Reader ℕ
  | first :: second :: third :: fourth :: rest =>
    .ok (fromLeBytes first second third fourth, rest)
  | _ => .error .unexpectedEof

def toI32 (value : ℕ) : ℤ := if value < 2147483648 then value else (value : ℤ) - u32Size

def readI32 : Reader ℤ := do
  let value ← readU32
  return toI32 value

def writeI32 (value : ℤ) : List UInt8 := writeU32 (value % u32Size).toNat

theorem length_writeU32 (value : ℕ) : (writeU32 value).length = 4 := rfl

theorem fromLeBytes_lt (first second third fourth : UInt8) :
    fromLeBytes first second third fourth < u32Size := by
  have := first.toNat_lt
  have := second.toNat_lt
  have := third.toNat_lt
  have := fourth.toNat_lt
  unfold fromLeBytes u32Size
  omega

theorem readU32_writeU32 (value : ℕ) : readU32.Reads (value % u32Size) (writeU32 value) := by
  intro rest
  show Except.ok (fromLeBytes (.ofNat value) (.ofNat (value / 256)) (.ofNat (value / 65536))
    (.ofNat (value / 16777216)), rest) = _
  have same : fromLeBytes (.ofNat value) (.ofNat (value / 256)) (.ofNat (value / 65536))
      (.ofNat (value / 16777216)) = value % u32Size := by
    simp only [fromLeBytes, UInt8.toNat_ofNat', u32Size]
    omega
  rw [same]

theorem readI32_writeI32 {value : ℤ} (low : -2147483648 ≤ value) (high : value < 2147483648) :
    readI32.Reads value (writeI32 value) := by
  have same : toI32 ((value % u32Size).toNat % u32Size) = value := by
    unfold toI32 u32Size
    split_ifs <;> omega
  refine (readU32_writeU32 _).map fun rest => ?_
  show Except.ok (toI32 ((value % u32Size).toNat % u32Size), rest) = _
  rw [same]

theorem writeU32_eq_writeI32 {value : ℕ} (fits : value < 2147483648) :
    writeU32 value = writeI32 (value : ℤ) := by
  unfold writeI32
  rw [Int.emod_eq_of_lt (by omega) (by unfold u32Size; omega), Int.toNat_natCast]

theorem readExact_takes (count : ℕ) : (readExact count).Takes count := by
  intro bytes text rest read
  rw [readExact] at read
  split_ifs at read with short
  cases read
  rw [length_drop]
  omega

theorem readU8_takes : readU8.Takes 1 := by
  rintro (_ | ⟨byte, bytes⟩) read rest ⟨⟩
  exact le_refl _

theorem readU32_takes : readU32.Takes 4 := by
  intro bytes value rest read
  unfold readU32 at read
  split at read
  · cases read
    simp
  · cases read

theorem readExact_self {bytes : List UInt8} {count : ℕ} (size : bytes.length = count) :
    (readExact count).Reads bytes bytes := by
  intro rest
  rw [readExact, if_neg (by rw [length_append]; omega), take_left' size,
    drop_left' size]

theorem readU8_singleton (byte : UInt8) : readU8.Reads byte [byte] := fun _ => rfl

/-! ### Strings -/

def fromUtf8 (bytes : List UInt8) : Option String := String.fromUTF8? ⟨bytes.toArray⟩

def toUtf8 (text : String) : List UInt8 := text.toUTF8.toList

theorem toList_loop (bytes : ByteArray) (i : ℕ) (found : List UInt8) :
    ByteArray.toList.loop bytes i found = found.reverse ++ bytes.data.toList.drop i := by
  fun_induction ByteArray.toList.loop bytes i found with
  | case1 i found inside ih =>
    have here : i < bytes.data.toList.length := inside
    have byte : bytes.get! i = bytes.data.toList[i] := by
      show bytes.data[i]! = _
      rw [getElem!_pos bytes.data i inside, Array.getElem_toList]
    rw [ih, drop_eq_getElem_cons here, reverse_cons, append_assoc, byte]
    rfl
  | case2 i found outside =>
    rw [drop_eq_nil_of_le (Nat.le_of_not_lt outside), append_nil]

theorem length_toUtf8 (text : String) : (toUtf8 text).length = text.utf8ByteSize := by
  unfold toUtf8 ByteArray.toList
  rw [toList_loop]
  rfl

theorem fromUtf8_toUtf8 (text : String) : fromUtf8 (toUtf8 text) = some text := by
  have whole : (⟨(toUtf8 text).toArray⟩ : ByteArray) = text.toUTF8 := by
    unfold toUtf8 ByteArray.toList
    rw [toList_loop]
    rfl
  have valid : text.toUTF8.IsValidUTF8 := text.isValidUTF8
  unfold fromUtf8 String.fromUTF8?
  rw [whole, dif_pos valid]
  rfl

/-- A string that can be null. -/
abbrev UAString := Option String

/-- Bytes that can be null. -/
abbrev ByteString := Option (List UInt8)

instance : LawfulBEq ByteString := inferInstance

/-- A length and as many bytes; a length of -1 is null. -/
def writeBytes : Option (List UInt8) → List UInt8
  | none => writeI32 (-1)
  | some bytes => writeU32 bytes.length ++ bytes

/-- `UAString::decode`. Where the bytes are not UTF-8 the source adds the place to the error. -/
def UAString.decode (options : DecodingOptions) : Reader UAString := do
  let len ← readI32
  if len = -1 then return none
  else if len < -1 then .fail (.decoding s!"String buf length is a negative number {len}")
  else if options.maxStringLength < len.toNat then
    .fail (.decoding s!"String buf length {len} exceeds decoding limit {options.maxStringLength}")
  else
    let text ← readExact len.toNat
    match fromUtf8 text with
    | some value => return some value
    | none => .fail (.decoding "Decoded string was not valid UTF-8")

def UAString.encode (value : UAString) : List UInt8 := writeBytes (value.map toUtf8)

def ByteString.decode (options : DecodingOptions) : Reader ByteString := do
  let len ← readI32
  if len = -1 then return none
  else if len < -1 then .fail (.decoding s!"ByteString buf length is a negative number {len}")
  else if options.maxByteStringLength < len.toNat then
    .fail (.decoding
      s!"ByteString length {len} exceeds decoding limit {options.maxByteStringLength}")
  else fun bytes =>
    if bytes.length < len.toNat then
      .error (.decoding
        s!"ByteString length {len} exceeds available stream bytes {bytes.length}")
    else .ok (some (bytes.take len.toNat), bytes.drop len.toNat)

def ByteString.encode (value : ByteString) : List UInt8 := writeBytes value

theorem UAString.decode_encode_some {options : DecodingOptions} {text : String}
    (short : (toUtf8 text).length ≤ options.maxStringLength)
    (fits : (toUtf8 text).length < 2147483648) :
    (UAString.decode options).Reads (some text) (UAString.encode (some text)) := by
  show Reader.Reads _ _ (writeU32 (toUtf8 text).length ++ toUtf8 text)
  rw [writeU32_eq_writeI32 fits]
  refine (readI32_writeI32 (by omega) (by omega)).bind ?_
  rw [if_neg (by omega), if_neg (by omega), if_neg (by omega)]
  refine (readExact_self (by omega)).map ?_
  rw [fromUtf8_toUtf8]
  exact Reader.Reads.pure _

theorem ByteString.decode_encode_none (options : DecodingOptions) :
    (ByteString.decode options).Reads none (ByteString.encode none) :=
  (readI32_writeI32 (by decide) (by decide)).map (Reader.Reads.pure none)

end AsyncOpcua.Types
