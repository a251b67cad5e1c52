/-
**What is written is read back, for variants.**

A variant within the decoding limits is read back from its bytes, whatever follows them, if its
arrays and data values are regular: an array with dimensions has values, as many as its dimensions
say, and a data value has picoseconds below 10000, and with their timestamp only.
-/

import AsyncOpcua.Encoding.RoundTrip
import Mathlib.Algebra.BigOperators.Ring.List

namespace AsyncOpcua.Encoding

open Types hiding Variant DataValue
open Foundation
open Decoder

variable {B : Builtins} {ctx : Context B}

/-! ### Masks -/

section

variable (type : VariantScalarTypeId)
include type

theorem encodingMask_ne_zero : type.encodingMask ≠ 0 := by
  cases type with
  | leaf type => cases type <;> decide
  | _ => decide

theorem ofMask_encodingMask : VariantScalarTypeId.ofMask type.encodingMask = some type := by
  cases type with
  | leaf type => cases type <;> decide
  | _ => decide

theorem encodingMask_bits :
    type.encodingMask &&& EncodingMask.ARRAY_VALUES_BIT = 0 ∧
      type.encodingMask &&& EncodingMask.ARRAY_DIMENSIONS_BIT = 0 ∧
      elementEncodingMask type.encodingMask = type.encodingMask ∧
      VariantScalarTypeId.fromEncodingMask type.encodingMask = some type := by
  cases type with
  | leaf type => cases type <;> decide
  | _ => decide

theorem arrayMask_bits (shaped : Bool) :
    let values := type.encodingMask ||| EncodingMask.ARRAY_VALUES_BIT
    let mask := if shaped then values ||| EncodingMask.ARRAY_DIMENSIONS_BIT else values
    mask &&& EncodingMask.ARRAY_VALUES_BIT ≠ 0 ∧
      (mask &&& EncodingMask.ARRAY_DIMENSIONS_BIT ≠ 0 ↔ shaped) ∧
      elementEncodingMask mask = type.encodingMask := by
  cases type with
  | leaf type => cases type <;> cases shaped <;> decide
  | _ => cases shaped <;> decide

end

theorem Array.encodingMask_bits (array : Array (Variant B)) :
    array.encodingMask &&& EncodingMask.ARRAY_VALUES_BIT ≠ 0 ∧
      (array.encodingMask &&& EncodingMask.ARRAY_DIMENSIONS_BIT ≠ 0 ↔ array.dimensions.isSome) ∧
      elementEncodingMask array.encodingMask = array.valueType.encodingMask :=
  arrayMask_bits array.valueType array.dimensions.isSome

theorem decodeVariantValue_encodingMask (answers : Answers B) (type : VariantScalarTypeId) :
    decodeVariantValue ctx answers type.encodingMask =
      match type with
      | .leaf type => do return .scalar type (← onBytes (B.decode type))
      | .extensionObject => do return .extensionObject (← answers .extensionObject)
      | .variant => depthLock ctx do return .variant (← answers .variant)
      | .dataValue => do return .dataValue (← answers .dataValue)
      | .diagnosticInfo => do return .diagnosticInfo (← answers .diagnosticInfo) := by
  unfold decodeVariantValue
  rw [if_neg (encodingMask_ne_zero type), ofMask_encodingMask]
  cases type <;> rfl

theorem decodeMasked_scalar (answers : Answers B) (type : VariantScalarTypeId) :
    decodeMasked ctx answers type.encodingMask =
      decodeVariantValue ctx answers type.encodingMask := by
  obtain ⟨values, dimensions, element, -⟩ := encodingMask_bits type
  unfold decodeMasked
  rw [element, if_neg (not_not.mpr values), if_neg (not_not.mpr dimensions)]

theorem decodeMasked_zero (answers : Answers B) : decodeMasked ctx answers 0 = pure .empty := by
  unfold decodeMasked decodeVariantValue
  rw [if_neg (by decide), if_neg (by decide), if_pos (by decide)]

/-! ### Variants within the limits -/

/-- **A variant within the decoding limits,** where so many locks are held around it. -/
inductive Fits (ctx : Context B) : ℕ → Variant B → Prop
  | empty (depth : ℕ) : Fits ctx depth .empty
  | scalar (depth : ℕ) (type : LeafType) (value : B.Value type) :
    Fits ctx depth (.scalar type value)
  | extensionObject (depth : ℕ) (object : ExtensionObject B) :
    Fits ctx depth (.extensionObject object)
  | variant {depth : ℕ} {inner : Variant B} (room : depth < ctx.maxDepth)
      (nested : Fits ctx (depth + 1) inner) : Fits ctx depth (.variant inner)
  | dataValue {depth : ℕ} {value : DataValue B (Variant B)} (room : depth < ctx.maxDepth)
      (nested : ∀ inner, value.value = some inner → Fits ctx (depth + 1) inner) :
      Fits ctx depth (.dataValue value)
  | diagnosticInfo {depth : ℕ} {info : DiagnosticInfo B}
      (room : depth + info.nesting ≤ ctx.maxDepth) : Fits ctx depth (.diagnosticInfo info)
  | array {depth : ℕ} {array : Array (Variant B)} (short : array.values.length ≤ ctx.maxArrayLength)
      (counted : array.values.length < 2147483648)
      (shape : ∀ dimensions, array.dimensions = some dimensions →
        dimensions.length ≤ ctx.maxArrayLength ∧ dimensions.length < 2147483648)
      (elements : ∀ u ∈ array.values, Fits ctx depth u) : Fits ctx depth (.array array)

/-- **Every array was made** by one of the two ways to make one. -/
inductive Built : Variant B → Prop
  | empty : Built .empty
  | scalar (type : LeafType) (value : B.Value type) : Built (.scalar type value)
  | extensionObject (object : ExtensionObject B) : Built (.extensionObject object)
  | variant {inner : Variant B} (nested : Built inner) : Built (.variant inner)
  | dataValue {value : DataValue B (Variant B)}
      (nested : ∀ inner, value.value = some inner → Built inner) : Built (.dataValue value)
  | diagnosticInfo (info : DiagnosticInfo B) : Built (.diagnosticInfo info)
  | array {type : VariantScalarTypeId} {values : List (Variant B)} {array : Array (Variant B)}
      (elements : ∀ u ∈ values, Built u)
      (made : Array.new type values = .ok array ∨
        ∃ dimensions, Array.newMulti type values dimensions = .ok array) : Built (.array array)

variable {values : List (Variant B)} {array : Array (Variant B)}

theorem made_eq {type : VariantScalarTypeId} (made : Array.new type values = .ok array ∨
      ∃ dimensions, Array.newMulti type values dimensions = .ok array) :
    array.valueType = type ∧ array.values = values ∧ valuesAreOfType values type = true ∧
      ∀ dimensions, array.dimensions = some dimensions →
        validateDimensions values.length dimensions = true := by
  rcases made with single | ⟨shape, several⟩
  · unfold Array.new at single
    split_ifs at single with typed
    cases single
    exact ⟨rfl, rfl, typed, fun _ absent => nomatch absent⟩
  · unfold Array.newMulti at several
    split_ifs at several with valid typed
    cases several
    refine ⟨rfl, rfl, typed, fun dimensions same => ?_⟩
    cases same
    exact valid

/-- **The variants that are met** while a variant is decoded, with the locks that are held there. -/
inductive Meets : ℕ → Variant B → ℕ → Variant B → Prop
  | self (depth : ℕ) (v : Variant B) : Meets depth v depth v
  | variant {depth under : ℕ} {inner u : Variant B} (later : Meets (depth + 1) inner under u) :
      Meets depth (.variant inner) under u
  | dataValue {depth under : ℕ} {value : DataValue B (Variant B)} {inner u : Variant B}
      (here : value.value = some inner) (later : Meets (depth + 1) inner under u) :
      Meets depth (.dataValue value) under u
  | array {depth under : ℕ} {array : Array (Variant B)} {element u : Variant B}
      (here : element ∈ array.values) (later : Meets depth element under u) :
      Meets depth (.array array) under u

variable {depth under : ℕ} {v u : Variant B}

theorem Meets.trans {deeper : ℕ} {w : Variant B} (first : Meets depth v under u)
    (later : Meets under u deeper w) : Meets depth v deeper w := by
  induction first with
  | self _ _ => exact later
  | variant _ ih => exact (ih later).variant
  | dataValue here _ ih => exact .dataValue here (ih later)
  | array here _ ih => exact .array here (ih later)

theorem Fits.meets (fits : Fits ctx depth v) (met : Meets depth v under u) : Fits ctx under u := by
  induction met with
  | self _ _ => exact fits
  | variant _ ih =>
    cases fits with
    | variant _ nested => exact ih nested
  | dataValue here _ ih =>
    cases fits with
    | dataValue _ nested => exact ih (nested _ here)
  | array here _ ih =>
    cases fits with
    | array _ _ _ elements => exact ih (elements _ here)

theorem Built.meets (built : Built v) (met : Meets depth v under u) : Built u := by
  induction met with
  | self _ _ => exact built
  | variant _ ih =>
    cases built with
    | variant nested => exact ih nested
  | dataValue here _ ih =>
    cases built with
    | dataValue nested => exact ih (nested _ here)
  | array here _ ih =>
    cases built with
    | array elements made =>
      obtain ⟨-, rfl, -, -⟩ := made_eq made
      exact ih (elements _ here)

/-- **What a decoder can give back:** dimensions are of an array that has values, and of as many as
it has; picoseconds are below 10000, and with their timestamp. -/
def Variant.Regular : Variant B → Prop
  | .dataValue value => PicosecondsKept value.sourceTimestamp value.sourcePicoseconds ∧
      PicosecondsKept value.serverTimestamp value.serverPicoseconds
  | .array contents => ∀ dimensions, contents.dimensions = some dimensions →
      contents.values ≠ [] ∧ (dimensions.map UInt32.toNat).prod = contents.values.length
  | _ => True

def ObjectReads (ctx : Context B) (depth : ℕ) (object : ExtensionObject B) : Prop :=
  ∃ bytes, object.encode = .ok bytes ∧ bytes.length = object.byteLen ∧
    Reads (fun levels => decoders ctx levels .extensionObject) depth bytes object

/-- **A variant round trips:** as many bytes are written as it is long, and whatever follows them,
they are read back and no more. -/
def RoundTrips (ctx : Context B) (depth : ℕ) (v : Variant B) : Prop :=
  ∃ bytes, v.encode = .ok bytes ∧ bytes.length = v.byteLen ∧
    Reads (fun levels => decoders ctx levels .variant) depth bytes v.nulled

def ValueReads (ctx : Context B) (depth : ℕ) (v : Variant B) : Prop :=
  ∃ bytes, v.encodeValue = .ok bytes ∧ bytes.length = v.valueByteLen ∧
    Reads (fun levels => decodeMasked ctx (decoders ctx levels) v.encodingMask) depth bytes v.nulled

open List

theorem ValueReads.roundTrips (reads : ValueReads ctx depth v) : RoundTrips ctx depth v := by
  obtain ⟨bytes, written, size, read⟩ := reads
  refine ⟨v.encodingMask :: bytes, ?_, ?_, ?_⟩
  · unfold Variant.encode
    rw [written]
    rfl
  · rw [length_cons, size, Variant.byteLen, Nat.add_comm]
  · refine Reads.succ ?_ decoders_variant
    exact (Reads.onBytes (readU8_singleton v.encodingMask)).bind read

/-! ### Elements -/

variable {type : VariantScalarTypeId}

theorem valuesAreOfType_iff :
    valuesAreOfType values type = true ↔ ∀ u ∈ values, u.typeId = .scalar type := by
  unfold valuesAreOfType
  rw [Bool.not_eq_true', any_eq_false]
  refine forall₂_congr fun u _ => ?_
  cases u.typeId <;> simp

section

variable (scalar : u.typeId = .scalar type)
include scalar

theorem encodingMask_of_typeId :
    u.encodingMask = type.encodingMask := by
  cases u <;> cases scalar <;> rfl

theorem isArray_of_typeId : u.isArray = false := by
  cases u <;> cases scalar <;> rfl

theorem typeId_nulled : u.nulled.typeId = .scalar type := by
  match u, scalar with
  | .scalar _ _, scalar => exact scalar
  | .extensionObject _, scalar => exact scalar
  | .variant _, scalar => exact scalar
  | .dataValue ⟨none, _, _, _, _, _⟩, scalar => exact scalar
  | .dataValue ⟨some _, _, _, _, _, _⟩, scalar => exact scalar
  | .diagnosticInfo _, scalar => exact scalar

end

theorem elements_read : ∀ {values : List (Variant B)},
    (∀ u ∈ values, u.typeId = .scalar type) → (∀ u ∈ values, ValueReads ctx depth u) →
    ∃ bytes, encodeElements values = .ok bytes ∧ bytes.length = elementsByteLen values ∧
      Reads (fun levels => Metered.times values.length
        (decodeVariantValue ctx (decoders ctx levels) type.encodingMask)) depth bytes
        (values.map Variant.nulled)
  | [], _, _ => ⟨[], rfl, rfl, Reads.pure []⟩
  | u :: values, typed, read => by
    obtain ⟨scalar, otherScalars⟩ := forall_mem_cons.mp typed
    obtain ⟨⟨front, written, size, here⟩, otherReads⟩ := forall_mem_cons.mp read
    obtain ⟨back, rest, length, later⟩ := elements_read otherScalars otherReads
    have single := isArray_of_typeId scalar
    rw [encodingMask_of_typeId scalar] at here
    refine ⟨front ++ back, ?_, ?_, ?_⟩
    · simp only [encodeElements, single, Bool.false_eq_true, if_false, written, rest]
      rfl
    · simp [elementsByteLen, single, Bool.false_eq_true, length_append, size, length]
    · simp only [decodeMasked_scalar] at here
      exact here.bind (later.map (Reads.pure _))

theorem elementsByteLen_fixed (lawful : B.Lawful) {size : ℕ}
    (fixed : type.fixedScalarValueByteLen = some size) : ∀ {values : List (Variant B)},
    (∀ u ∈ values, u.typeId = .scalar type) → elementsByteLen values = values.length * size
  | [], _ => (Nat.zero_mul size).symm
  | u :: values, typed => by
    obtain ⟨scalar, others⟩ := forall_mem_cons.mp typed
    have later := elementsByteLen_fixed lawful fixed others
    have here : u.valueByteLen = size := by
      cases u <;> cases scalar
      · exact lawful.fixed _ _ size fixed
      all_goals cases fixed
    simp only [elementsByteLen, isArray_of_typeId scalar, Bool.false_eq_true, if_false, later, here,
      length_cons]
    ring

/-! ### Dimensions -/

theorem length_encodeDimensions (dimensions : List UInt32) :
    (encodeDimensions dimensions).length = 4 + dimensions.length * 4 := by
  unfold encodeDimensions
  rw [length_append, length_flatMap]
  simp only [length_writeU32, map_const', sum_replicate_nat]
  rfl

theorem readDimension_writeU32 (dimension : UInt32) :
    readDimension.Reads dimension (writeU32 dimension.toNat) := by
  have bound : dimension.toNat < u32Size := dimension.toNat_lt
  refine (readU32_writeU32 dimension.toNat).map fun rest => ?_
  show Except.ok (UInt32.ofNat (dimension.toNat % u32Size), rest) = _
  rw [Nat.mod_eq_of_lt bound, UInt32.ofNat_toNat]

theorem readTimes_flatMap {α : Type} {element : Reader α} {encode : α → List UInt8}
    (each : ∀ a, element.Reads a (encode a)) :
    ∀ values : List α, (readTimes element values.length).Reads values (values.flatMap encode)
  | [] => Reader.Reads.pure []
  | a :: values => by
    exact (each a).bind ((readTimes_flatMap each values).map (Reader.Reads.pure _))

variable {dimensions : List UInt32}

theorem decodeVec_encodeDimensions (short : dimensions.length ≤ ctx.maxArrayLength)
    (counted : dimensions.length < 2147483648) :
    (decodeVec ctx readDimension).Reads (some dimensions) (encodeDimensions dimensions) := by
  refine (readI32_writeI32 (by omega) (by omega)).bind ?_
  rw [if_neg (by omega), if_neg (by omega), if_neg (by omega), Int.toNat_natCast]
  exact (readTimes_flatMap readDimension_writeU32 dimensions).map (Reader.Reads.pure _)

theorem foldlM_product : ∀ product : ℕ, 0 ∉ dimensions →
    product * (dimensions.map UInt32.toNat).prod < u32Size →
    dimensions.foldlM (fun length dimension =>
      if length * dimension.toNat < u32Size then some (length * dimension.toNat) else none)
        product =
        some (product * (dimensions.map UInt32.toNat).prod) := by
  induction dimensions with
  | nil =>
    intro product _ _
    rw [map_nil, prod_nil, Nat.mul_one]
    rfl
  | cons first others ih =>
    intro product positive small
    obtain ⟨_, others_positive⟩ := not_or.mp (mem_cons.not.mp positive)
    rw [map_cons, prod_cons, ← Nat.mul_assoc] at small ⊢
    have rest_positive : 0 < (others.map UInt32.toNat).prod := by
      refine Nat.pos_of_ne_zero fun zero => ?_
      obtain ⟨dimension, member, absent⟩ := mem_map.mp (prod_eq_zero_iff.mp zero)
      have is_zero : dimension = 0 := UInt32.toNat_inj.mp absent
      exact others_positive (is_zero ▸ member)
    have fits : product * first.toNat < u32Size :=
      lt_of_le_of_lt (Nat.le_mul_of_pos_right _ rest_positive) small
    rw [foldlM_cons, if_pos fits]
    exact ih _ others_positive small

theorem checkedProduct_eq {length : ℕ} (some_values : 0 < length) (counted : length < 2147483648)
    (product : (dimensions.map UInt32.toNat).prod = length) :
    0 ∉ dimensions ∧ checkedProduct dimensions = some length := by
  have positive : 0 ∉ dimensions := by
    intro member
    have zero : (dimensions.map UInt32.toNat).prod = 0 :=
      prod_eq_zero_iff.mpr (mem_map.mpr ⟨0, member, rfl⟩)
    omega
  refine ⟨positive, ?_⟩
  have reads := foldlM_product 1 positive (by rw [product]; unfold u32Size; omega)
  rwa [product, Nat.one_mul] at reads

/-! ### Arrays -/

variable {array : Array (Variant B)}

theorem valueByteLen_array (lawful : B.Lawful)
    (typed : ∀ u ∈ array.values, u.typeId = .scalar array.valueType) :
    (Variant.array array).valueByteLen = 4 + elementsByteLen array.values +
      array.dimensions.elim 0 fun dimensions => 4 + dimensions.length * 4 := by
  obtain ⟨type, values, dimensions⟩ := array
  cases fixed : type.fixedScalarValueByteLen with
  | none => simp [Variant.valueByteLen, fixed]
  | some size =>
    simp [Variant.valueByteLen, fixed, elementsByteLen_fixed lawful fixed typed]

theorem encodeValue_array {elements : List UInt8}
    (written : encodeElements array.values = .ok elements) :
    (Variant.array array).encodeValue = .ok (writeI32 (array.values.length : ℤ) ++ elements ++
      array.dimensions.elim [] encodeDimensions) := by
  obtain ⟨type, values, dimensions⟩ := array
  simp only [Variant.encodeValue, written]
  rfl

theorem nulled_array (present : array.values ≠ []) :
    (Variant.array array).nulled =
      .array ⟨array.valueType, array.values.map Variant.nulled, array.dimensions⟩ := by
  obtain ⟨type, values, dimensions⟩ := array
  cases values with
  | nil => exact absurd rfl present
  | cons v values => rw [Variant.nulled, nulledElements_eq_map, map_cons]

/-- **An empty array without dimensions** is a length of zero, and read as the null array. -/
theorem emptyArray_reads (type : VariantScalarTypeId) :
    Reads (fun levels => decodeMasked ctx (decoders ctx levels)
      (Array.encodingMask (⟨type, [], none⟩ : Array (Variant B)))) depth (writeI32 0)
      (.array ⟨type, [], some []⟩) := by
  obtain ⟨values, -, element⟩ := Array.encodingMask_bits (⟨type, [], none⟩ : Array (Variant B))
  obtain ⟨-, -, -, known⟩ := encodingMask_bits type
  unfold decodeMasked
  simp only [if_pos values, element]
  refine (Reads.onBytes (readI32_writeI32 (by decide) (by decide))).map ?_
  simp only [if_neg (show ¬ (0 : ℤ) < -1 by decide), le_refl, if_true, known]
  exact Reads.pure _

theorem ofArray_reads {made : Except ArrayError (Array (Variant B))} (same : made = .ok array) :
    Reads (fun _ => ofArray made) depth [] (.array array) := by
  rw [same]
  exact Reads.pure _

theorem arrayValues_read {elements : List UInt8} {depth : ℕ}
    (short : array.values.length ≤ ctx.maxArrayLength) (counted : array.values.length < 2147483648)
    (shape : ∀ dimensions, array.dimensions = some dimensions →
      dimensions.length ≤ ctx.maxArrayLength ∧ dimensions.length < 2147483648)
    (typed : ∀ u ∈ array.values, u.typeId = .scalar array.valueType)
    (valid : ∀ dimensions, array.dimensions = some dimensions →
      validateDimensions array.values.length dimensions = true)
    (present : array.values ≠ [])
    (product : ∀ dimensions, array.dimensions = some dimensions →
      (dimensions.map UInt32.toNat).prod = array.values.length)
    (read : Reads (fun levels => Metered.times array.values.length
      (decodeVariantValue ctx (decoders ctx levels) array.valueType.encodingMask)) depth elements
      (array.values.map Variant.nulled)) :
    Reads (fun levels => decodeMasked ctx (decoders ctx levels) array.encodingMask) depth
      (writeI32 (array.values.length : ℤ) ++ elements ++ array.dimensions.elim [] encodeDimensions)
      (Variant.array array).nulled := by
  have length_pos : 0 < array.values.length := length_pos_iff.mpr present
  have retyped : valuesAreOfType (array.values.map Variant.nulled) array.valueType = true := by
    refine valuesAreOfType_iff.mpr fun u member => ?_
    obtain ⟨v, here, rfl⟩ := mem_map.mp member
    exact typeId_nulled (typed v here)
  have not_negative : ¬ (array.values.length : ℤ) < -1 := by omega
  have not_empty : ¬ (array.values.length : ℤ) ≤ 0 := by omega
  obtain ⟨values, shaped, element⟩ := array.encodingMask_bits
  obtain ⟨-, -, -, known⟩ := encodingMask_bits array.valueType
  rw [nulled_array present]
  unfold decodeMasked
  simp only [if_pos values, element]
  refine (Reads.onBytes (readI32_writeI32 (by omega) (by omega))).bind ?_
  unfold decodeArray
  simp only [if_neg not_negative, if_neg not_empty, Int.toNat_natCast, if_neg short.not_gt]
  refine read.bind ?_
  simp only [known]
  cases dimensions : array.dimensions with
  | none =>
    rw [dimensions] at shaped
    simp only [shaped, Option.isSome_none, Bool.false_eq_true, if_false, Option.elim_none]
    refine ofArray_reads ?_
    unfold Array.new
    rw [if_pos retyped]
  | some shapes =>
    obtain ⟨positive, checked⟩ := checkedProduct_eq length_pos counted (product shapes dimensions)
    obtain ⟨few, fewer⟩ := shape shapes dimensions
    rw [dimensions] at shaped
    simp only [shaped, Option.isSome_some, if_true, Option.elim_some]
    refine (Reads.onBytes (decodeVec_encodeDimensions few fewer)).map ?_
    have small : array.values.length % u32Size = array.values.length :=
      Nat.mod_eq_of_lt (by unfold u32Size; omega)
    simp [if_neg positive, checked, small, not_true_eq_false]
    refine ofArray_reads ?_
    unfold Array.newMulti
    rw [length_map, if_pos (valid shapes dimensions), if_pos retyped]

/-! ### All variants -/

theorem scalar_reads (type : VariantScalarTypeId) {depth : ℕ} {bytes : List UInt8} {u v : Variant B}
    (scalar : u.typeId = .scalar type)
    (read : Reads
      (fun levels => decodeVariantValue ctx (decoders ctx levels) type.encodingMask) depth
      bytes v) :
    Reads (fun levels => decodeMasked ctx (decoders ctx levels) u.encodingMask) depth bytes v := by
  simp only [encodingMask_of_typeId scalar, decodeMasked_scalar]
  exact read

variable {value : DataValue B (Variant B)}

theorem dataValue_without (absent : value.value = none) :
    (Variant.dataValue value).encodeValue = .ok (value.encodingMask :: [] ++ value.encodeRest) ∧
      (Variant.dataValue value).valueByteLen = 1 + value.restLen ∧
      (Variant.dataValue value).nulled = .dataValue { value with value := none } := by
  obtain ⟨inner, status, source, sourcePico, server, serverPico⟩ := value
  cases absent
  exact ⟨rfl, rfl, rfl⟩

theorem dataValue_with {inner : Variant B} {bytes : List UInt8}
    (present : value.value = some inner) (written : inner.encodeValue = .ok bytes) :
    (Variant.dataValue value).encodeValue =
        .ok (value.encodingMask :: (inner.encodingMask :: bytes) ++ value.encodeRest) ∧
      (Variant.dataValue value).valueByteLen = 1 + (1 + inner.valueByteLen) + value.restLen ∧
      (Variant.dataValue value).nulled =
        .dataValue { value with value := some inner.nulled } := by
  obtain ⟨_, status, source, sourcePico, server, serverPico⟩ := value
  cases present
  refine ⟨?_, rfl, rfl⟩
  simp only [Variant.encodeValue, written]
  rfl

theorem dataValue_valueReads (lawful : B.Lawful) (room : depth < ctx.maxDepth)
    (regular : (Variant.dataValue value).Regular)
    (nested : ∀ inner, value.value = some inner → ValueReads ctx (depth + 1) inner) :
    ValueReads ctx depth (.dataValue value) := by
  obtain ⟨source, server⟩ := regular
  have rest : value.encodeRest.length = value.restLen := value.length_encodeRest lawful
  obtain ⟨bit, -⟩ := dataValue_bits value.value.isSome value.status.isSome
    value.sourceTimestamp.isSome value.sourcePicoseconds.isSome value.serverTimestamp.isSome
    value.serverPicoseconds.isSome
  have reads : ∀ (bytes : List UInt8) (read : Option (Variant B)),
      Reads (fun levels => whenBit value.encodingMask 0x01 (decoders ctx levels .variant))
        (depth + 1)
        bytes read →
      Reads (fun levels =>
          decodeMasked ctx (decoders ctx levels) (Variant.dataValue value).encodingMask)
        depth (value.encodingMask :: bytes ++ value.encodeRest)
        (.dataValue { value with value := read }) := by
    intro bytes read here
    refine scalar_reads .dataValue rfl ?_
    exact (dataValue_reads lawful room source server here).map (Reads.pure _)
  cases present : value.value with
  | none =>
    obtain ⟨written, length, kept⟩ := dataValue_without present
    refine ⟨_, written, ?_, ?_⟩
    · rw [length, length_append, rest]
      rfl
    · rw [kept]
      have unset : ¬ value.encodingMask &&& 0x01 ≠ 0 := by
        rw [show value.encodingMask &&& 0x01 ≠ 0 ↔ _ from bit, present]
        exact Bool.false_ne_true
      exact reads _ _ ((Reads.pure none).congr fun levels => if_neg unset)
  | some inner =>
    obtain ⟨bytes, here, size, read⟩ := nested inner present
    obtain ⟨written, length, kept⟩ := dataValue_with present here
    refine ⟨_, written, ?_, ?_⟩
    · rw [length, length_append, rest, length_cons, length_cons, size]
      ring
    · rw [kept]
      have set : value.encodingMask &&& 0x01 ≠ 0 := by
        rw [show value.encodingMask &&& 0x01 ≠ 0 ↔ _ from bit, present]
        rfl
      have whole : Reads (fun levels => decoders ctx levels .variant) (depth + 1)
          (inner.encodingMask :: bytes) inner.nulled :=
        ((Reads.onBytes (readU8_singleton inner.encodingMask)).bind read).succ decoders_variant
      exact reads _ _ ((whole.map (Reads.pure (some inner.nulled))).congr fun levels => if_pos set)

/-- **A variant is read back,** if all that are met in it are regular, and its extension objects are
read back: by induction on the limits, with the arrays as they were made. -/
theorem Fits.valueReads (lawful : B.Lawful) (fits : Fits ctx depth v) :
    Built v → (∀ under u, Meets depth v under u → u.Regular) →
    (∀ under object, Meets depth v under (.extensionObject object) → ObjectReads ctx under object) →
    ValueReads ctx depth v := by
  induction fits with
  | empty depth =>
    intro _ _ _
    exact ⟨[], rfl, rfl, (Reads.pure Variant.empty).congr fun levels => decodeMasked_zero _⟩
  | scalar depth type value =>
    intro _ _ _
    refine ⟨B.encode type value, rfl, lawful.length_encode type value, ?_⟩
    refine scalar_reads (.leaf type) rfl ?_
    simp only [decodeVariantValue_encodingMask]
    exact (Reads.onBytes (lawful.reads type value)).map (Reads.pure _)
  | extensionObject depth object =>
    intro _ _ objects
    obtain ⟨bytes, written, size, read⟩ := objects depth object (.self _ _)
    refine ⟨bytes, written, size, ?_⟩
    refine scalar_reads .extensionObject rfl ?_
    exact read.map (Reads.pure _)
  | @variant depth inner room nested ih =>
    intro built regular objects
    cases built with
    | variant built =>
      obtain ⟨bytes, written, size, read⟩ := ih built
        (fun under u later => regular under u later.variant)
        fun under object later => objects under object later.variant
      refine ⟨inner.encodingMask :: bytes, ?_, ?_, ?_⟩
      · simp only [Variant.encodeValue, written]
        rfl
      · rw [length_cons, size, Variant.valueByteLen, Nat.add_comm]
      · refine scalar_reads .variant rfl ?_
        have whole : Reads (fun levels => decoders ctx levels .variant) (depth + 1)
            (inner.encodingMask :: bytes) inner.nulled :=
          ((Reads.onBytes (readU8_singleton inner.encodingMask)).bind read).succ decoders_variant
        exact Reads.lock room (whole.map (Reads.pure _))
  | @dataValue depth value room nested ih =>
    intro built regular objects
    cases built with
    | dataValue built =>
      refine dataValue_valueReads lawful room (regular depth _ (.self _ _)) fun inner here => ?_
      exact ih inner here (built inner here)
        (fun under u later => regular under u (.dataValue here later))
        fun under object later => objects under object (.dataValue here later)
  | diagnosticInfo room =>
    intro _ _ _
    refine ⟨_, rfl, DiagnosticInfo.length_encode lawful _, ?_⟩
    refine scalar_reads .diagnosticInfo rfl ?_
    exact (diagnosticInfo_reads lawful _ room).map (Reads.pure _)
  | @array depth array short counted shape elements ih =>
    intro built regular objects
    cases built with
    | array each made =>
      obtain ⟨rfl, rfl, typed, valid⟩ := made_eq made
      rw [valuesAreOfType_iff] at typed
      have own : (Variant.array array).Regular := regular depth _ (.self _ _)
      obtain ⟨bytes, written, size, read⟩ := elements_read typed fun u here =>
        ih u here (each u here) (fun under w later => regular under w (.array here later))
          fun under object later => objects under object (.array here later)
      refine ⟨_, encodeValue_array written, ?_, ?_⟩
      · rw [valueByteLen_array lawful typed, length_append, length_append, size]
        congr 1
        cases array.dimensions with
        | none => rfl
        | some dimensions => exact length_encodeDimensions dimensions
      · by_cases present : array.values = []
        · obtain ⟨type, values, dimensions⟩ := array
          cases present
          cases dimensions with
          | some dimensions => exact absurd rfl (own dimensions rfl).1
          | none =>
            cases written
            exact emptyArray_reads type
        · exact arrayValues_read short counted shape typed valid present
            (fun dimensions here => (own dimensions here).2) read

end AsyncOpcua.Encoding
