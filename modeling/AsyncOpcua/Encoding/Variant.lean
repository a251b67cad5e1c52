/-
**Variants, arrays, data values and diagnostic infos, and how they are written.**

The built-in types and the bodies of extension objects are parameters with their codecs. A variant
is a scalar of one of 25 types, an array of scalars, or nothing.

* `Variant.byteLen`, `Variant.encode` — the length of a variant, and its bytes.
-/

import AsyncOpcua.Types.Encoding

namespace AsyncOpcua.Encoding

open Types hiding Variant DataValue

/-! ### Types -/

/-- The scalar types with a codec of their own. -/
inductive LeafType
  | boolean | sByte | byte | int16 | uInt16 | int32 | uInt32 | int64 | uInt64 | float | double
  | string | dateTime | guid | byteString | xmlElement | nodeId | expandedNodeId | statusCode
  | qualifiedName | localizedText
  deriving DecidableEq

inductive VariantScalarTypeId
  | leaf (type : LeafType)
  | extensionObject
  | dataValue
  | variant
  | diagnosticInfo
  deriving DecidableEq

inductive VariantTypeId
  | empty
  | scalar (type : VariantScalarTypeId)
  | array (type : VariantScalarTypeId) (dimensions : Option (List UInt32))

namespace EncodingMask

def ARRAY_DIMENSIONS_BIT : UInt8 := 0x40

def ARRAY_VALUES_BIT : UInt8 := 0x80

def ARRAY_MASK : UInt8 := ARRAY_DIMENSIONS_BIT ||| ARRAY_VALUES_BIT

end EncodingMask

def LeafType.encodingMask : LeafType → UInt8
  | .boolean => 1 | .sByte => 2 | .byte => 3 | .int16 => 4 | .uInt16 => 5 | .int32 => 6
  | .uInt32 => 7 | .int64 => 8 | .uInt64 => 9 | .float => 10 | .double => 11 | .string => 12
  | .dateTime => 13 | .guid => 14 | .byteString => 15 | .xmlElement => 16 | .nodeId => 17
  | .expandedNodeId => 18 | .statusCode => 19 | .qualifiedName => 20 | .localizedText => 21

namespace VariantScalarTypeId

def encodingMask : VariantScalarTypeId → UInt8
  | .leaf type => type.encodingMask
  | .extensionObject => 22
  | .dataValue => 23
  | .variant => 24
  | .diagnosticInfo => 25

def all : List VariantScalarTypeId :=
  [.leaf .boolean, .leaf .sByte, .leaf .byte, .leaf .int16, .leaf .uInt16, .leaf .int32,
    .leaf .uInt32, .leaf .int64, .leaf .uInt64, .leaf .float, .leaf .double, .leaf .string,
    .leaf .dateTime, .leaf .guid, .leaf .byteString, .leaf .xmlElement, .leaf .nodeId,
    .leaf .expandedNodeId, .leaf .statusCode, .leaf .qualifiedName, .leaf .localizedText,
    .extensionObject, .dataValue, .variant, .diagnosticInfo]

def ofMask (mask : UInt8) : Option VariantScalarTypeId := all.find? (·.encodingMask = mask)

def fromEncodingMask (mask : UInt8) : Option VariantScalarTypeId :=
  ofMask (mask &&& ~~~EncodingMask.ARRAY_MASK)

/-- The size of a value, for the types with one size. -/
def fixedScalarValueByteLen : VariantScalarTypeId → Option ℕ
  | .leaf .boolean | .leaf .sByte | .leaf .byte => some 1
  | .leaf .int16 | .leaf .uInt16 => some 2
  | .leaf .int32 | .leaf .uInt32 | .leaf .float | .leaf .statusCode => some 4
  | .leaf .int64 | .leaf .uInt64 | .leaf .double | .leaf .dateTime => some 8
  | .leaf .guid => some 16
  | _ => none

end VariantScalarTypeId

/-! ### What is taken from elsewhere -/

/-- What an XML reader meets. The end of the document is the end of the list. -/
inductive XmlEvent
  | start (name : String)
  | empty (name : String)
  | stop
  | text (content : String)
  | other
  | failed (error : Error)

abbrev XmlReader := StateT (List XmlEvent) (Except Error)

/-- **The codecs of the built-in types, and of the bodies of extension objects.** -/
structure Builtins where
  Value : LeafType → Type
  byteLen : (type : LeafType) → Value type → ℕ
  encode : (type : LeafType) → Value type → List UInt8
  decode : (type : LeafType) → Reader (Value type)
  /-- A date and time that is not moved by the offset of the client. -/
  decodeZeroOffset : Reader (Value .dateTime)
  decodeXml : (type : LeafType) → XmlReader (Value type)
  default : (type : LeafType) → Value type
  int32 : Value .int32 → ℤ
  uInt16 : Value .uInt16 → UInt16
  bytes : Value .byteString → ByteString
  nodeIdText : Value .nodeId → String
  namespaceOf : Value .nodeId → ℕ
  asU32 : Value .nodeId → Option ℕ
  Body : Type
  /-- The binary type id in the namespaces of the context, or the text of an id that has none. -/
  binaryTypeId : Option Body → Except String (Value .nodeId)
  overridesXml : Body → Bool
  bodyByteLen : Body → ℕ
  encodeBody : Body → Except Error (List UInt8)
  byteStringBody : List UInt8 → Value .nodeId → Body
  xmlBody : List UInt8 → Value .nodeId → String → Body
  /-- The rest of an XML element, as it stands. -/
  consumeRaw : XmlReader (List UInt8)
  /-- A decoder takes bytes from the front. -/
  forward : ∀ {type input value rest}, decode type input = .ok (value, rest) → rest <:+ input
  forwardZeroOffset : ∀ {input value rest},
    decodeZeroOffset input = .ok (value, rest) → rest <:+ input

/-- **The codecs round trip,** and the types with one size have it. -/
structure Builtins.Lawful (B : Builtins) : Prop where
  length_encode : ∀ type (value : B.Value type), (B.encode type value).length = B.byteLen type value
  reads : ∀ type (value : B.Value type), (B.decode type).Reads value (B.encode type value)
  readsZeroOffset : ∀ value, B.decodeZeroOffset.Reads value (B.encode .dateTime value)
  fixed : ∀ type (value : B.Value type) size,
    (VariantScalarTypeId.leaf type).fixedScalarValueByteLen = some size →
    B.byteLen type value = size

/-- The size that a type has here; the types of several sizes have the one of their null. -/
def rawSize : LeafType → ℕ
  | .boolean | .sByte | .byte | .localizedText => 1
  | .int16 | .uInt16 | .expandedNodeId => 2
  | .int32 | .uInt32 | .float | .statusCode | .string | .byteString | .xmlElement | .nodeId => 4
  | .qualifiedName => 6
  | .int64 | .uInt64 | .double | .dateTime => 8
  | .guid => 16

abbrev RawValue (type : LeafType) := { bytes : List UInt8 // bytes.length = rawSize type }

def readRaw (type : LeafType) : Reader (RawValue type) := fun input =>
  if inside : rawSize type ≤ input.length then
    .ok (⟨input.take (rawSize type), List.length_take_of_le inside⟩, input.drop (rawSize type))
  else .error .unexpectedEof

theorem readRaw_forward {type : LeafType} {input rest : List UInt8} {value : RawValue type}
    (read : readRaw type input = .ok (value, rest)) : rest <:+ input := by
  unfold readRaw at read
  split_ifs at read
  cases read
  exact List.drop_suffix _ _

theorem readRaw_reads (type : LeafType) (value : RawValue type) :
    (readRaw type).Reads value value.1 := by
  intro rest
  have size := value.2
  have inside : rawSize type ≤ (value.1 ++ rest).length := by
    rw [List.length_append]
    omega
  simp only [readRaw, dif_pos inside, List.take_left' size, List.drop_left' size]

/-- **Built-in types of one size each:** a node id has its four-byte form, a body is its id and its
bytes. -/
def rawBuiltins : Builtins where
  Value := RawValue
  byteLen type _ := rawSize type
  encode _ value := value.1
  decode := readRaw
  decodeZeroOffset := readRaw .dateTime
  decodeXml _ := fun _ => .error (.decoding "Failed to parse value")
  default type := ⟨List.replicate (rawSize type) 0, List.length_replicate⟩
  int32 value := match readI32 value.1 with
    | .ok (number, _) => number
    | .error _ => 0
  uInt16 value := .ofNat ((value.1.getD 0 0).toNat + 256 * (value.1.getD 1 0).toNat)
  bytes _ := none
  nodeIdText id := toString id.1
  namespaceOf id := (id.1.getD 1 0).toNat
  asU32 id := some ((id.1.getD 2 0).toNat + 256 * (id.1.getD 3 0).toNat)
  Body := RawValue .nodeId × List UInt8
  binaryTypeId object := .ok (object.elim ⟨[1, 0, 0, 0], rfl⟩ Prod.fst)
  overridesXml _ := false
  bodyByteLen body := body.2.length
  encodeBody body := .ok body.2
  byteStringBody raw id := (id, raw)
  xmlBody raw id _ := (id, raw)
  consumeRaw := fun events => .ok ([], events)
  forward := readRaw_forward
  forwardZeroOffset := readRaw_forward

theorem rawBuiltins_lawful : rawBuiltins.Lawful where
  length_encode _ value := value.2
  reads := readRaw_reads
  readsZeroOffset := readRaw_reads .dateTime
  fixed type value size known := by
    cases type <;> first | cases known; rfl | cases known

/-! ### Values -/

structure Array (V : Type) where
  valueType : VariantScalarTypeId
  values : List V
  dimensions : Option (List UInt32)

structure DataValue (B : Builtins) (V : Type) where
  value : Option V
  status : Option (B.Value .statusCode)
  sourceTimestamp : Option (B.Value .dateTime)
  sourcePicoseconds : Option UInt16
  serverTimestamp : Option (B.Value .dateTime)
  serverPicoseconds : Option UInt16

structure DiagnosticFields (B : Builtins) where
  symbolicId : Option (B.Value .int32)
  namespaceUri : Option (B.Value .int32)
  locale : Option (B.Value .int32)
  localizedText : Option (B.Value .int32)
  additionalInfo : Option (B.Value .string)
  innerStatusCode : Option (B.Value .statusCode)

inductive DiagnosticInfo (B : Builtins)
  | mk (fields : DiagnosticFields B) (innerDiagnosticInfo : Option (DiagnosticInfo B))

abbrev ExtensionObject (B : Builtins) := Option B.Body

inductive Variant (B : Builtins)
  | empty
  | scalar (type : LeafType) (value : B.Value type)
  | extensionObject (object : ExtensionObject B)
  | variant (inner : Variant B)
  | dataValue (value : DataValue B (Variant B))
  | diagnosticInfo (info : DiagnosticInfo B)
  | array (array : Array (Variant B))

variable {B : Builtins}

namespace Variant

def typeId : Variant B → VariantTypeId
  | .empty => .empty
  | .scalar type _ => .scalar (.leaf type)
  | .extensionObject _ => .scalar .extensionObject
  | .variant _ => .scalar .variant
  | .dataValue _ => .scalar .dataValue
  | .diagnosticInfo _ => .scalar .diagnosticInfo
  | .array contents => .array contents.valueType contents.dimensions

end Variant

/-! ### Arrays -/

inductive ArrayError
  | contentMismatch
  | invalidDimensions

def ArrayError.text : ArrayError → String
  | .contentMismatch => "Variant array do not match outer type"
  | .invalidDimensions =>
    "Variant array dimensions multiplied together do not equal the actual array length"

def valuesAreOfType (values : List (Variant B)) (expectedType : VariantScalarTypeId) : Bool :=
  !values.any fun v =>
    match v.typeId with
    | .array _ _ => true
    | .scalar type => type ≠ expectedType
    | .empty => true

/-- How many values a `usize` has. -/
def usizeSize : ℕ := 18446744073709551616

/-- The dimensions multiplied together, as a `usize`. -/
def validateDimensions (valuesLen : ℕ) : List UInt32 → Bool
  | [] => valuesLen = 0
  | first :: others =>
    (others.foldl (fun len dimension => len * dimension.toNat % usizeSize) first.toNat) = valuesLen

namespace Array

def new (valueType : VariantScalarTypeId) (values : List (Variant B)) :
    Except ArrayError (Array (Variant B)) :=
  if valuesAreOfType values valueType then .ok ⟨valueType, values, none⟩
  else .error .contentMismatch

def newMulti (valueType : VariantScalarTypeId) (values : List (Variant B))
    (dimensions : List UInt32) : Except ArrayError (Array (Variant B)) :=
  if validateDimensions values.length dimensions then
    if valuesAreOfType values valueType then .ok ⟨valueType, values, some dimensions⟩
    else .error .contentMismatch
  else .error .invalidDimensions

def encodingMask (array : Array (Variant B)) : UInt8 :=
  let encodingMask := array.valueType.encodingMask ||| EncodingMask.ARRAY_VALUES_BIT
  if array.dimensions.isSome then encodingMask ||| EncodingMask.ARRAY_DIMENSIONS_BIT
  else encodingMask

end Array

namespace Variant

def encodingMask : Variant B → UInt8
  | .empty => 0
  | .scalar type _ => type.encodingMask
  | .extensionObject _ => VariantScalarTypeId.extensionObject.encodingMask
  | .variant _ => VariantScalarTypeId.variant.encodingMask
  | .dataValue _ => VariantScalarTypeId.dataValue.encodingMask
  | .diagnosticInfo _ => VariantScalarTypeId.diagnosticInfo.encodingMask
  | .array contents => contents.encodingMask

def isArray : Variant B → Bool
  | .array _ => true
  | _ => false

end Variant

/-! ### Lengths -/

/-- The length of a part that can be missing. -/
def partLen (type : LeafType) (part : Option (B.Value type)) : ℕ := part.elim 0 (B.byteLen type)

def ExtensionObject.byteLen (object : ExtensionObject B) : ℕ :=
  (match B.binaryTypeId object with
    | .ok id => B.byteLen .nodeId id
    | .error _ => 2) +
  match object with
  | some body => 5 + B.bodyByteLen body
  | none => 1

def DiagnosticFields.byteLen (fields : DiagnosticFields B) : ℕ :=
  1 + partLen .int32 fields.symbolicId + partLen .int32 fields.namespaceUri +
    partLen .int32 fields.locale + partLen .int32 fields.localizedText +
    partLen .string fields.additionalInfo + partLen .statusCode fields.innerStatusCode

def DiagnosticInfo.byteLen : DiagnosticInfo B → ℕ
  | .mk fields none => fields.byteLen
  | .mk fields (some inner) => fields.byteLen + inner.byteLen

def timestampLen (timestamp : Option (B.Value .dateTime)) (picoseconds : Option UInt16) : ℕ :=
  timestamp.elim 0 fun timestamp =>
    B.byteLen .dateTime timestamp + picoseconds.elim 0 fun _ => 2

/-- The length of what follows the value. -/
def DataValue.restLen {V : Type} (value : DataValue B V) : ℕ :=
  partLen .statusCode value.status +
    timestampLen value.sourceTimestamp value.sourcePicoseconds +
    timestampLen value.serverTimestamp value.serverPicoseconds

mutual

/-- The length without the encoding mask. -/
def Variant.valueByteLen : Variant B → ℕ
  | .empty => 0
  | .scalar type value => B.byteLen type value
  | .extensionObject object => object.byteLen
  | .variant inner => 1 + inner.valueByteLen
  | .dataValue ⟨none, status, source, sourcePico, server, serverPico⟩ =>
    1 + (⟨none, status, source, sourcePico, server, serverPico⟩ : DataValue B ℕ).restLen
  | .dataValue ⟨some value, status, source, sourcePico, server, serverPico⟩ =>
    1 + (1 + value.valueByteLen) +
      (⟨none, status, source, sourcePico, server, serverPico⟩ : DataValue B ℕ).restLen
  | .diagnosticInfo info => info.byteLen
  | .array ⟨valueType, values, dimensions⟩ =>
    4 + (match valueType.fixedScalarValueByteLen with
      | some valueLen => values.length * valueLen
      | none => elementsByteLen values) +
    dimensions.elim 0 fun dimensions => 4 + dimensions.length * 4
termination_by structural v => v

def elementsByteLen : List (Variant B) → ℕ
  | [] => 0
  | v :: values => (if v.isArray then 0 else v.valueByteLen) + elementsByteLen values
termination_by structural values => values

end

def Variant.byteLen (v : Variant B) : ℕ := 1 + v.valueByteLen

/-! ### Bytes -/

/-- A `u16` in two bytes. -/
def writeU16 (value : UInt16) : List UInt8 := [.ofNat value.toNat, .ofNat (value.toNat / 256)]

def encodePart (type : LeafType) (part : Option (B.Value type)) : List UInt8 :=
  part.elim [] (B.encode type)

def ExtensionObject.encode (object : ExtensionObject B) : Except Error (List UInt8) :=
  match B.binaryTypeId object with
  | .error typeId => .error (.encoding s!"Unknown encoding ID: {typeId}")
  | .ok id =>
    match object with
    | some body => do
      let content ← B.encodeBody body
      return B.encode .nodeId id ++ (if B.overridesXml body then 2 else 1) ::
        writeI32 (B.bodyByteLen body) ++ content
    | none => .ok (B.encode .nodeId id ++ [0])

def presenceBit {α : Type} (part : Option α) (bit : UInt8) : UInt8 := if part.isSome then bit else 0

def DiagnosticFields.encodingMask (fields : DiagnosticFields B) : UInt8 :=
  presenceBit fields.symbolicId 0x01 ||| presenceBit fields.namespaceUri 0x02 |||
    presenceBit fields.localizedText 0x04 ||| presenceBit fields.locale 0x08 |||
    presenceBit fields.additionalInfo 0x10 ||| presenceBit fields.innerStatusCode 0x20

/-- The fields, after the mask. -/
def DiagnosticFields.encode (fields : DiagnosticFields B) : List UInt8 :=
  encodePart .int32 fields.symbolicId ++ encodePart .int32 fields.namespaceUri ++
    encodePart .int32 fields.locale ++ encodePart .int32 fields.localizedText ++
    encodePart .string fields.additionalInfo ++ encodePart .statusCode fields.innerStatusCode

def DiagnosticInfo.encode : DiagnosticInfo B → List UInt8
  | .mk fields none => fields.encodingMask :: fields.encode
  | .mk fields (some inner) => (fields.encodingMask ||| 0x40) :: (fields.encode ++ inner.encode)

def encodeTimestamp (timestamp : Option (B.Value .dateTime)) (picoseconds : Option UInt16) :
    List UInt8 :=
  timestamp.elim [] fun timestamp =>
    B.encode .dateTime timestamp ++ picoseconds.elim [] writeU16

namespace DataValue

variable {V : Type}

def encodingMask (value : DataValue B V) : UInt8 :=
  presenceBit value.value 0x01 ||| presenceBit value.status 0x02 |||
    (if value.sourceTimestamp.isSome then 0x04 ||| presenceBit value.sourcePicoseconds 0x10
      else 0) |||
    (if value.serverTimestamp.isSome then 0x08 ||| presenceBit value.serverPicoseconds 0x20
      else 0)

def encodeRest (value : DataValue B V) : List UInt8 :=
  encodePart .statusCode value.status ++
    encodeTimestamp value.sourceTimestamp value.sourcePicoseconds ++
    encodeTimestamp value.serverTimestamp value.serverPicoseconds

end DataValue

def encodeDimensions (dimensions : List UInt32) : List UInt8 :=
  writeI32 (dimensions.length : ℤ) ++ dimensions.flatMap fun dimension => writeU32 dimension.toNat

mutual

def Variant.encodeValue : Variant B → Except Error (List UInt8)
  | .empty => .ok []
  | .scalar type value => .ok (B.encode type value)
  | .extensionObject object => object.encode
  | .variant inner => return inner.encodingMask :: (← inner.encodeValue)
  | .dataValue ⟨none, status, source, sourcePico, server, serverPico⟩ =>
    let value : DataValue B (Variant B) := ⟨none, status, source, sourcePico, server, serverPico⟩
    .ok (value.encodingMask :: value.encodeRest)
  | .dataValue ⟨some inner, status, source, sourcePico, server, serverPico⟩ => do
    let value : DataValue B (Variant B) :=
      ⟨some inner, status, source, sourcePico, server, serverPico⟩
    return value.encodingMask :: inner.encodingMask :: (← inner.encodeValue) ++ value.encodeRest
  | .diagnosticInfo info => .ok info.encode
  | .array ⟨_, values, dimensions⟩ => do
    let elements ← encodeElements values
    return writeI32 (values.length : ℤ) ++ elements ++ dimensions.elim [] encodeDimensions
termination_by structural v => v

def encodeElements : List (Variant B) → Except Error (List UInt8)
  | [] => .ok []
  | v :: values => do
    let here ←
      if v.isArray then
        .error (.encoding "Cannot encode this variant value type (probably nested array)")
      else v.encodeValue
    return here ++ (← encodeElements values)
termination_by structural values => values

end

def Variant.encode (v : Variant B) : Except Error (List UInt8) :=
  return v.encodingMask :: (← v.encodeValue)

/-! ### Empty arrays -/

mutual

/-- **Every empty array taken for the null array** of its element type, as a decoder gives it. -/
def Variant.nulled : Variant B → Variant B
  | .variant inner => .variant inner.nulled
  | .dataValue ⟨some inner, status, source, sourcePico, server, serverPico⟩ =>
    .dataValue ⟨some inner.nulled, status, source, sourcePico, server, serverPico⟩
  | .array ⟨valueType, [], _⟩ => .array ⟨valueType, [], some []⟩
  | .array ⟨valueType, v :: values, dimensions⟩ =>
    .array ⟨valueType, v.nulled :: nulledElements values, dimensions⟩
  | v => v
termination_by structural v => v

def nulledElements : List (Variant B) → List (Variant B)
  | [] => []
  | v :: values => v.nulled :: nulledElements values
termination_by structural values => values

end

theorem nulledElements_eq_map (values : List (Variant B)) :
    nulledElements values = values.map Variant.nulled := by
  induction values with
  | nil => rfl
  | cons v values ih => rw [nulledElements, ih, List.map_cons]

end AsyncOpcua.Encoding
