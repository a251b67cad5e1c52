/-
**What is written is read back, for diagnostic infos and data values.**

A diagnostic info is read back with all that are nested in it. A data value is read back where its
variant is, if its picoseconds are below 10000, and with their timestamp only.

* `diagnosticInfo_reads`, `dataValue_reads` — what is written is read back.
-/

import AsyncOpcua.Encoding.Decoders

namespace AsyncOpcua.Encoding

open Types hiding Variant DataValue
open Foundation
open Decoder
open Metered (Takes)

variable {B : Builtins} {ctx : Context B}

/-! ### Reading back -/

/-- **From some number of levels on the bytes are read as the value,** whatever follows them. -/
def Reads {α : Type} (m : ℕ → Decoder α) (depth : ℕ) (bytes : List UInt8) (a : α) : Prop :=
  ∀ rest xml, Takes m depth ⟨bytes ++ rest, xml⟩ a ⟨rest, xml⟩

namespace Reads

variable {α β : Type} {depth : ℕ} {bytes front back : List UInt8} {a : α} {b : β}

theorem pure (a : α) : Reads (fun _ => (Pure.pure a : Decoder α)) depth [] a :=
  fun _ _ => Takes.pure a

theorem onBytes {reader : Reader α} (here : reader.Reads a bytes) :
    Reads (fun _ => onBytes reader) depth bytes a := by
  intro rest xml
  refine Takes.read ?_
  simp only [here rest]

section

variable {first : ℕ → Decoder α} {next : ℕ → α → Decoder β}

theorem bind
    (before : Reads first depth front a)
    (after : Reads (fun levels => next levels a) depth back b) :
    Reads (fun levels => first levels >>= next levels) depth (front ++ back) b := by
  intro rest xml
  have here := before (back ++ rest) xml
  rw [← List.append_assoc] at here
  exact here.bind (after rest xml)

theorem map (before : Reads first depth bytes a)
    (after : Reads (fun levels => next levels a) depth [] b) :
    Reads (fun levels => first levels >>= next levels) depth bytes b := by
  have both := before.bind after
  rwa [List.append_nil] at both

end

theorem lock {body : ℕ → Decoder α} (room : depth < ctx.maxDepth)
    (under : Reads body (depth + 1) bytes a) :
    Reads (fun levels => depthLock ctx (body levels)) depth bytes a :=
  fun rest xml => (under rest xml).lock room

theorem succ {m body : ℕ → Decoder α} (here : Reads body depth bytes a)
    (step : ∀ levels, m (levels + 1) = body levels) : Reads m depth bytes a :=
  fun rest xml => (here rest xml).succ step

theorem congr {m other : ℕ → Decoder α} (here : Reads other depth bytes a)
    (same : ∀ levels, m levels = other levels) : Reads m depth bytes a := by
  rwa [show m = other from funext same]

end Reads

/-! ### Parts that can be missing -/

variable {mask : UInt8} {depth : ℕ}

theorem whenBit_reads {α : Type} {bit : UInt8} {decoder : ℕ → Decoder α}
    {part : Option α} {encode : α → List UInt8} (present : mask &&& bit ≠ 0 ↔ part.isSome)
    (reads : ∀ a, part = some a → Reads decoder depth (encode a) a) :
    Reads (fun levels => whenBit mask bit (decoder levels)) depth (part.elim [] encode) part := by
  cases part with
  | none => exact (Reads.pure none).congr fun levels => if_neg (by simp [present])
  | some a =>
    have taken : ∀ levels, whenBit mask bit (decoder levels) =
        do return some (← decoder levels) := fun levels => if_pos (by simp [present])
    refine Reads.congr ?_ taken
    exact (reads a rfl).map (Reads.pure (some a))

theorem partReads (lawful : B.Lawful) {type : LeafType} {bit : UInt8}
    {part : Option (B.Value type)} (present : mask &&& bit ≠ 0 ↔ part.isSome) :
    Reads (fun _ => whenBit mask bit (onBytes (B.decode type))) depth (encodePart type part) part :=
  whenBit_reads present fun value _ => .onBytes (lawful.reads type value)

theorem length_encodePart (lawful : B.Lawful) (type : LeafType) (part : Option (B.Value type)) :
    (encodePart type part).length = partLen type part := by
  cases part with
  | none => rfl
  | some value => exact lawful.length_encode type value

/-! ### Diagnostic infos -/

/-- How many locks are held at once while a diagnostic info is decoded. -/
def DiagnosticInfo.nesting : DiagnosticInfo B → ℕ
  | .mk _ none => 1
  | .mk _ (some inner) => 1 + inner.nesting

def maskOf (first second third fourth fifth sixth : Bool) : UInt8 :=
  (if first then 0x01 else 0) ||| (if second then 0x02 else 0) ||| (if third then 0x04 else 0) |||
    (if fourth then 0x08 else 0) ||| (if fifth then 0x10 else 0) ||| (if sixth then 0x20 else 0)

theorem maskOf_bits (first second third fourth fifth sixth : Bool) :
    let mask := maskOf first second third fourth fifth sixth
    ((mask &&& 0x01 ≠ 0 ↔ first) ∧ (mask &&& 0x02 ≠ 0 ↔ second) ∧ (mask &&& 0x04 ≠ 0 ↔ third) ∧
      (mask &&& 0x08 ≠ 0 ↔ fourth) ∧ (mask &&& 0x10 ≠ 0 ↔ fifth) ∧ (mask &&& 0x20 ≠ 0 ↔ sixth) ∧
      mask &&& 0x40 = 0) := by
  cases first <;> cases second <;> cases third <;> cases fourth <;> cases fifth <;>
    cases sixth <;> decide

theorem maskOf_nested (first second third fourth fifth sixth : Bool) :
    let mask := maskOf first second third fourth fifth sixth ||| 0x40
    ((mask &&& 0x01 ≠ 0 ↔ first) ∧ (mask &&& 0x02 ≠ 0 ↔ second) ∧ (mask &&& 0x04 ≠ 0 ↔ third) ∧
      (mask &&& 0x08 ≠ 0 ↔ fourth) ∧ (mask &&& 0x10 ≠ 0 ↔ fifth) ∧ (mask &&& 0x20 ≠ 0 ↔ sixth) ∧
      mask &&& 0x40 ≠ 0) := by
  cases first <;> cases second <;> cases third <;> cases fourth <;> cases fifth <;>
    cases sixth <;> decide

theorem DiagnosticFields.length_encode (lawful : B.Lawful) (fields : DiagnosticFields B) :
    1 + fields.encode.length = fields.byteLen := by
  simp only [encode, byteLen, List.length_append, length_encodePart lawful]
  omega

theorem DiagnosticInfo.length_encode (lawful : B.Lawful) :
    ∀ info : DiagnosticInfo B, info.encode.length = info.byteLen
  | .mk fields none => by
    have here := fields.length_encode lawful
    simp only [encode, byteLen, List.length_cons]
    omega
  | .mk fields (some inner) => by
    have here := fields.length_encode lawful
    have later := inner.length_encode lawful
    simp only [encode, byteLen, List.length_cons, List.length_append]
    omega

theorem diagnosticFields_read (lawful : B.Lawful) {mask : UInt8}
    {fields : DiagnosticFields B} {inner : Option (DiagnosticInfo B)} {bytes : List UInt8}
    (bits : (mask &&& 0x01 ≠ 0 ↔ fields.symbolicId.isSome) ∧
      (mask &&& 0x02 ≠ 0 ↔ fields.namespaceUri.isSome) ∧
      (mask &&& 0x04 ≠ 0 ↔ fields.localizedText.isSome) ∧
      (mask &&& 0x08 ≠ 0 ↔ fields.locale.isSome) ∧
      (mask &&& 0x10 ≠ 0 ↔ fields.additionalInfo.isSome) ∧
      (mask &&& 0x20 ≠ 0 ↔ fields.innerStatusCode.isSome))
    (room : depth < ctx.maxDepth)
    (nested : Reads (fun levels => whenBit mask 0x40 (decoders ctx levels .diagnosticInfo))
      (depth + 1) bytes inner) :
    Reads (fun levels => decoders ctx levels .diagnosticInfo) depth
      (mask :: (fields.encode ++ bytes)) (.mk fields inner) := by
  obtain ⟨symbolic, uri, text, locale, info, status⟩ := bits
  refine Reads.succ ?_ decoders_diagnosticInfo
  refine Reads.lock room ?_
  simp only [DiagnosticFields.encode, List.append_assoc]
  refine (Reads.onBytes (readU8_singleton mask)).bind ?_
  refine (partReads lawful symbolic).bind ((partReads lawful uri).bind ?_)
  refine (partReads lawful locale).bind ((partReads lawful text).bind ?_)
  refine (partReads lawful info).bind ((partReads lawful status).bind ?_)
  exact nested.map (Reads.pure _)

theorem diagnosticInfo_reads (lawful : B.Lawful) : ∀ (info : DiagnosticInfo B) {depth : ℕ},
    depth + info.nesting ≤ ctx.maxDepth →
    Reads (fun levels => decoders ctx levels .diagnosticInfo) depth info.encode info
  | .mk fields none, depth, room => by
    obtain ⟨first, second, third, fourth, fifth, sixth, last⟩ := maskOf_bits
      fields.symbolicId.isSome fields.namespaceUri.isSome fields.localizedText.isSome
      fields.locale.isSome fields.additionalInfo.isSome fields.innerStatusCode.isSome
    have here : Reads (fun levels => decoders ctx levels .diagnosticInfo) depth
        (fields.encodingMask :: (fields.encode ++ [])) (.mk fields none) :=
      diagnosticFields_read lawful ⟨first, second, third, fourth, fifth, sixth⟩ room
        ((Reads.pure none).congr fun levels => if_neg (by rw [not_not]; exact last))
    rwa [List.append_nil] at here
  | .mk fields (some inner), depth, room => by
    have room : depth + (1 + inner.nesting) ≤ ctx.maxDepth := room
    obtain ⟨first, second, third, fourth, fifth, sixth, last⟩ := maskOf_nested
      fields.symbolicId.isSome fields.namespaceUri.isSome fields.localizedText.isSome
      fields.locale.isSome fields.additionalInfo.isSome fields.innerStatusCode.isSome
    refine diagnosticFields_read lawful ⟨first, second, third, fourth, fifth, sixth⟩ (by omega) ?_
    have nested : Reads (fun levels => decoders ctx levels .diagnosticInfo) (depth + 1) inner.encode
      inner := diagnosticInfo_reads lawful inner (by omega)
    exact (nested.map (Reads.pure (some inner))).congr fun levels => if_pos last

/-! ### Data values -/

/-- Picoseconds that are read back: below 10000, and with their timestamp. -/
def PicosecondsKept (timestamp : Option (B.Value .dateTime)) (picoseconds : Option UInt16) : Prop :=
  ∀ value, picoseconds = some value → timestamp.isSome ∧ value ≤ 9999

theorem readU16_writeU16 (value : UInt16) : readU16.Reads value (writeU16 value) := by
  intro rest
  have bound := value.toNat_lt
  show Except.ok (UInt16.ofNat ((UInt8.ofNat value.toNat).toNat +
    256 * (UInt8.ofNat (value.toNat / 256)).toNat), rest) = _
  have same : (UInt8.ofNat value.toNat).toNat + 256 * (UInt8.ofNat (value.toNat / 256)).toNat =
      value.toNat := by
    simp only [UInt8.toNat_ofNat']
    omega
  rw [same, UInt16.ofNat_toNat]

theorem readPicoseconds_writeU16 {value : UInt16} (small : value ≤ 9999) :
    readPicoseconds.Reads value (writeU16 value) := by
  have same : min value 9999 = value := if_pos small
  refine (readU16_writeU16 value).map fun rest => ?_
  show Except.ok (min value 9999, rest) = _
  rw [same]

theorem dataValue_bits (value status source sourcePico server serverPico : Bool) :
    let mask : UInt8 := (if value then 0x01 else 0) ||| (if status then 0x02 else 0) |||
      (if source then 0x04 ||| (if sourcePico then 0x10 else 0) else 0) |||
      (if server then 0x08 ||| (if serverPico then 0x20 else 0) else 0)
    ((mask &&& 0x01 ≠ 0 ↔ value) ∧ (mask &&& 0x02 ≠ 0 ↔ status) ∧ (mask &&& 0x04 ≠ 0 ↔ source) ∧
      (mask &&& 0x10 ≠ 0 ↔ source ∧ sourcePico) ∧ (mask &&& 0x08 ≠ 0 ↔ server) ∧
      (mask &&& 0x20 ≠ 0 ↔ server ∧ serverPico)) := by
  cases value <;> cases status <;> cases source <;> cases sourcePico <;> cases server <;>
    cases serverPico <;> decide

variable {timestamp : Option (B.Value .dateTime)} {picoseconds : Option UInt16}

theorem encodeTimestamp_eq (kept : PicosecondsKept timestamp picoseconds) :
    encodeTimestamp timestamp picoseconds =
      timestamp.elim [] (B.encode .dateTime) ++ picoseconds.elim [] writeU16 := by
  cases timestamp with
  | some timestamp => rfl
  | none =>
    cases picoseconds with
    | none => rfl
    | some value => exact absurd (kept value rfl).1 Bool.false_ne_true

theorem length_encodeTimestamp (lawful : B.Lawful) (timestamp : Option (B.Value .dateTime))
    (picoseconds : Option UInt16) :
    (encodeTimestamp timestamp picoseconds).length = timestampLen timestamp picoseconds := by
  cases timestamp with
  | none => rfl
  | some timestamp =>
    simp only [encodeTimestamp, timestampLen, Option.elim_some, List.length_append,
      lawful.length_encode]
    cases picoseconds <;> rfl

theorem DataValue.length_encodeRest {V : Type} (lawful : B.Lawful) (value : DataValue B V) :
    value.encodeRest.length = value.restLen := by
  simp only [encodeRest, restLen, List.length_append, length_encodePart lawful,
    length_encodeTimestamp lawful]

theorem PicosecondsKept.isSome_iff (kept : PicosecondsKept timestamp picoseconds) :
    (timestamp.isSome ∧ picoseconds.isSome) ↔ picoseconds.isSome := by
  refine and_iff_right_of_imp fun present => ?_
  obtain ⟨value, here⟩ := Option.isSome_iff_exists.mp present
  exact (kept value here).1

theorem PicosecondsKept.filtered (kept : PicosecondsKept timestamp picoseconds) :
    (if timestamp.isSome then picoseconds else none) = picoseconds := by
  split_ifs with present
  · rfl
  · cases picoseconds with
    | none => rfl
    | some value => exact absurd (kept value rfl).1 present

theorem dataValue_reads (lawful : B.Lawful) {value : DataValue B (Variant B)}
    {bytes : List UInt8} {read : Option (Variant B)} (room : depth < ctx.maxDepth)
    (source : PicosecondsKept value.sourceTimestamp value.sourcePicoseconds)
    (server : PicosecondsKept value.serverTimestamp value.serverPicoseconds)
    (nested : Reads (fun levels => whenBit value.encodingMask 0x01 (decoders ctx levels .variant))
      (depth + 1) bytes read) :
    Reads (fun levels => decoders ctx levels .dataValue) depth
      (value.encodingMask :: bytes ++ value.encodeRest) { value with value := read } := by
  obtain ⟨-, status, sourceBit, sourcePico, serverBit, serverPico⟩ := dataValue_bits
    value.value.isSome value.status.isSome value.sourceTimestamp.isSome
    value.sourcePicoseconds.isSome value.serverTimestamp.isSome value.serverPicoseconds.isSome
  refine Reads.succ ?_ decoders_dataValue
  refine Reads.lock room ?_
  simp only [DataValue.encodeRest, encodeTimestamp_eq source, encodeTimestamp_eq server,
    List.append_assoc, List.cons_append]
  refine (Reads.onBytes (readU8_singleton value.encodingMask)).bind (nested.bind ?_)
  refine (partReads lawful status).bind ?_
  refine (whenBit_reads sourceBit fun stamp _ => .onBytes (lawful.readsZeroOffset stamp)).bind ?_
  refine (whenBit_reads (sourcePico.trans source.isSome_iff) fun pico here =>
    .onBytes (readPicoseconds_writeU16 (source pico here).2)).bind ?_
  refine (whenBit_reads serverBit fun stamp _ => .onBytes (lawful.reads _ stamp)).bind ?_
  refine (whenBit_reads (serverPico.trans server.isSome_iff) fun pico here =>
    .onBytes (readPicoseconds_writeU16 (server pico here).2)).map ?_
  rw [source.filtered, server.filtered]
  exact Reads.pure _

end AsyncOpcua.Encoding
