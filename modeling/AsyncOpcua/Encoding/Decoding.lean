/-
**The binary decoders.**

A variant begins with a mask: its scalar type in the lower six bits, and whether it is an array and
has dimensions in the upper two. Where a lock is taken differs: a nested variant is guarded where it
is met, a data value, a diagnostic info and an extension object as a whole.
-/

import AsyncOpcua.Encoding.Context

namespace AsyncOpcua.Encoding

open Types hiding Variant DataValue
open Foundation
open Decoder

variable {B : Builtins}

/-! ### Readers -/

/-- A `u16` of two bytes. -/
def readU16 : Reader UInt16
  | first :: second :: rest => .ok (.ofNat (first.toNat + 256 * second.toNat), rest)
  | _ => .error .unexpectedEof

def readTimes {α : Type} (element : Reader α) : ℕ → Reader (List α)
  | 0 => pure []
  | count + 1 => do
    let a ← element
    let others ← readTimes element count
    return a :: others

/-- `<Option<Vec<_>>>::decode`: a length and as many elements; a length of -1 is null. -/
def decodeVec {α : Type} (ctx : Context B) (element : Reader α) : Reader (Option (List α)) := do
  let len ← readI32
  if len = -1 then return none
  else if len < -1 then .fail (.decoding "Array length is negative value and invalid")
  else if ctx.maxArrayLength < len.toNat then
    let most := ctx.maxArrayLength
    .fail (.decoding s!"Array length {len} exceeds decoding limit {most}")
  else return some (← readTimes element len.toNat)

def readDimension : Reader UInt32 := do return .ofNat (← readU32)

/-! ### Variants -/

def elementEncodingMask (encodingMask : UInt8) : UInt8 :=
  let mask := encodingMask &&& ~~~EncodingMask.ARRAY_MASK
  if 26 ≤ mask ∧ mask ≤ 31 then LeafType.byteString.encodingMask else mask

variable (ctx : Context B)

def decodeVariantValue (answers : Answers B) (encodingMask : UInt8) : Decoder (Variant B) :=
  if encodingMask = 0 then pure .empty
  else
    match VariantScalarTypeId.ofMask encodingMask with
    | some (.leaf type) => do return .scalar type (← onBytes (B.decode type))
    | some .extensionObject => do return .extensionObject (← answers .extensionObject)
    -- A nested variant is guarded here, and only here.
    | some .variant => depthLock ctx do return .variant (← answers .variant)
    | some .dataValue => do return .dataValue (← answers .dataValue)
    | some .diagnosticInfo => do return .diagnosticInfo (← answers .diagnosticInfo)
    | none => pure .empty

def ofArray : Except ArrayError (Array (Variant B)) → Decoder (Variant B)
  | .ok array => pure (.array array)
  | .error error => fail (.decoding error.text)

/-- The dimensions multiplied together, unless a `u32` overflows. -/
def checkedProduct (dimensions : List UInt32) : Option ℕ :=
  dimensions.foldlM (fun length dimension =>
    if length * dimension.toNat < u32Size then some (length * dimension.toNat) else none) 1

def unrecognized (mask : UInt8) : Error := .decoding s!"Unrecognized encoding mask: {mask}"

def decodeDimensions (valueType : VariantScalarTypeId)
    (values : List (Variant B)) (arrayLength : ℕ) : Decoder (Variant B) := do
  match ← onBytes (decodeVec ctx readDimension) with
  | none => fail (.decoding "No array dimensions despite the bit flag being set")
  | some dimensions =>
    if 0 ∈ dimensions then
      fail (.decoding "Invalid variant array dimensions, one or more dimensions are 0")
    else
      match checkedProduct dimensions with
      | none => fail (.decoding "Array dimension overflow")
      | some length =>
        if length ≠ arrayLength % u32Size then
          fail (.decoding s!"Array dimensions does not match array length {arrayLength}")
        else ofArray (Array.newMulti valueType values dimensions)

/-- The values of an array that is not empty, and its dimensions. -/
def decodeArray (answers : Answers B) (encodingMask elementMask : UInt8)
    (arrayLength : ℕ) : Decoder (Variant B) :=
  if ctx.maxArrayLength < arrayLength then
    let most := ctx.maxArrayLength
    fail (.new .BadEncodingLimitsExceeded (s!"Variant array has length {arrayLength} which " ++
      s!"exceeds configured array length limit {most}"))
  else do
    let values ← Metered.times arrayLength (decodeVariantValue ctx answers elementMask)
    match VariantScalarTypeId.fromEncodingMask elementMask with
    | none => fail (unrecognized elementMask)
    | some valueType =>
      if encodingMask &&& EncodingMask.ARRAY_DIMENSIONS_BIT ≠ 0 then
        decodeDimensions ctx valueType values arrayLength
      else ofArray (Array.new valueType values)

def decodeMasked (answers : Answers B) (encodingMask : UInt8) : Decoder (Variant B) :=
  let elementMask := elementEncodingMask encodingMask
  if encodingMask &&& EncodingMask.ARRAY_VALUES_BIT ≠ 0 then do
    let arrayLength ← onBytes readI32
    if arrayLength < -1 then fail (.decoding s!"Invalid array_length {arrayLength}")
    else if arrayLength ≤ 0 then
      -- An empty array and a null array: nothing after the length is read.
      match VariantScalarTypeId.fromEncodingMask elementMask with
      | none => fail (unrecognized elementMask)
      | some valueType => ofArray (Array.newMulti valueType [] [])
    else decodeArray ctx answers encodingMask elementMask arrayLength.toNat
  else if encodingMask &&& EncodingMask.ARRAY_DIMENSIONS_BIT ≠ 0 then
    fail (.decoding "Array dimensions bit specified without any values")
  else decodeVariantValue ctx answers elementMask

def decodeVariant (answers : Answers B) : Decoder (Variant B) := do
  decodeMasked ctx answers (← onBytes readU8)

/-! ### Data values and diagnostic infos -/

def whenBit {α : Type} (mask bit : UInt8) (part : Decoder α) : Decoder (Option α) :=
  if mask &&& bit ≠ 0 then do return some (← part) else pure none

/-- Picoseconds of 10000 and more are taken for 9999. -/
def readPicoseconds : Reader UInt16 := do return min (← readU16) 9999

def decodeDataValue (answers : Answers B) :
    Decoder (DataValue B (Variant B)) := depthLock ctx do
  let mask ← onBytes readU8
  let value ← whenBit mask 0x01 (answers .variant)
  let status ← whenBit mask 0x02 (onBytes (B.decode .statusCode))
  let sourceTimestamp ← whenBit mask 0x04 (onBytes B.decodeZeroOffset)
  let sourcePicoseconds ← whenBit mask 0x10 (onBytes readPicoseconds)
  let serverTimestamp ← whenBit mask 0x08 (onBytes (B.decode .dateTime))
  let serverPicoseconds ← whenBit mask 0x20 (onBytes readPicoseconds)
  -- Picoseconds without their timestamp are dropped.
  return {
    value, status, sourceTimestamp, serverTimestamp
    sourcePicoseconds := if sourceTimestamp.isSome then sourcePicoseconds else none
    serverPicoseconds := if serverTimestamp.isSome then serverPicoseconds else none }

def decodeDiagnosticInfo (answers : Answers B) :
    Decoder (DiagnosticInfo B) := depthLock ctx do
  let mask ← onBytes readU8
  let symbolicId ← whenBit mask 0x01 (onBytes (B.decode .int32))
  let namespaceUri ← whenBit mask 0x02 (onBytes (B.decode .int32))
  let locale ← whenBit mask 0x08 (onBytes (B.decode .int32))
  let localizedText ← whenBit mask 0x04 (onBytes (B.decode .int32))
  let additionalInfo ← whenBit mask 0x10 (onBytes (B.decode .string))
  let innerStatusCode ← whenBit mask 0x20 (onBytes (B.decode .statusCode))
  let innerDiagnosticInfo ← whenBit mask 0x40 (answers .diagnosticInfo)
  return .mk ⟨symbolicId, namespaceUri, locale, localizedText, additionalInfo, innerStatusCode⟩
    innerDiagnosticInfo

/-! ### Extension objects -/

def validateBodySize (size : ℤ) (options : DecodingOptions) : Except Error (Option ℕ) :=
  if size ≤ 0 then .ok none
  else if options.maxMessageSize < size.toNat then .error (tooLong options size)
  else .ok (some size.toNat)

def enterFirstTag : XmlReader (Option String)
  | [] => .ok (none, [])
  | .failed error :: _ => .error error
  | .start name :: rest => .ok (some name, rest)
  | .stop :: rest | .empty _ :: rest => .ok (none, rest)
  | _ :: rest => enterFirstTag rest

def decodeBinaryBody (answers : Answers B) (id : B.Value .nodeId) :
    Decoder (ExtensionObject B) := do
  match validateBodySize (← onBytes readI32) ctx.options with
  | .error error => fail error
  | .ok none => return none
  | .ok (some size) => answers (.loadFromBinary id (some size))

def decodeXmlBody (answers : Answers B) (id : B.Value .nodeId) : Decoder (ExtensionObject B) :=
  if ctx.xmlFeature then do
    match ← onBytes (UAString.decode ctx.options) with
    | none => return none
    | some body =>
      onOwnXml (ctx.lex body) do
        match ← onXml enterFirstTag with
        | some name => answers (.loadFromXml id name)
        | none => return none
  else do
    match validateBodySize (← onBytes readI32) ctx.options with
    | .error error => fail error
    | .ok none => return none
    | .ok (some size) =>
      return some (B.xmlBody (← onBytes (readExact size)) id "XmlElement")

def decodeExtensionObject (answers : Answers B) :
    Decoder (ExtensionObject B) := depthLock ctx do
  let id ← onBytes (B.decode .nodeId)
  let encodingType ← onBytes readU8
  if encodingType = 0 then return none
  else if encodingType = 1 then decodeBinaryBody ctx answers id
  else if encodingType = 2 then decodeXmlBody ctx answers id
  else fail (.decoding s!"Invalid encoding type {encodingType} in stream")

end AsyncOpcua.Encoding
