/-
**Variants with their values: integers by type, floats, texts and arrays.**

* `IntegerType`, `Word` — the eight integer types, and values within their bounds;
* `Scalar`, `Variant` — a value of one type, or nothing, or an array of values.
-/

import AsyncOpcua.Encoding.Variant
import AsyncOpcua.Foundation.FloatRounding

namespace AsyncOpcua.Variants

open Types hiding Variant
open Foundation
open Encoding (LeafType VariantScalarTypeId VariantTypeId)

/-! ### Integers -/

inductive IntegerType
  | sByte | byte | int16 | uInt16 | int32 | uInt32 | int64 | uInt64
  deriving DecidableEq

namespace IntegerType

def leaf : IntegerType → LeafType
  | .sByte => .sByte | .byte => .byte | .int16 => .int16 | .uInt16 => .uInt16
  | .int32 => .int32 | .uInt32 => .uInt32 | .int64 => .int64 | .uInt64 => .uInt64

def bits : IntegerType → ℕ
  | .sByte | .byte => 8
  | .int16 | .uInt16 => 16
  | .int32 | .uInt32 => 32
  | .int64 | .uInt64 => 64

def signed : IntegerType → Bool
  | .sByte | .int16 | .int32 | .int64 => true
  | .byte | .uInt16 | .uInt32 | .uInt64 => false

def min (type : IntegerType) : ℤ := if type.signed then -2 ^ (type.bits - 1) else 0

def max (type : IntegerType) : ℤ :=
  if type.signed then 2 ^ (type.bits - 1) - 1 else 2 ^ type.bits - 1

theorem max_eq (type : IntegerType) : type.max = type.min + 2 ^ type.bits - 1 := by
  cases type <;> decide

def ofLeaf : LeafType → Option IntegerType
  | .sByte => some .sByte | .byte => some .byte | .int16 => some .int16 | .uInt16 => some .uInt16
  | .int32 => some .int32 | .uInt32 => some .uInt32 | .int64 => some .int64
  | .uInt64 => some .uInt64
  | _ => none

theorem leaf_injective {type other : IntegerType} (same : type.leaf = other.leaf) :
    type = other := by
  cases type <;> cases other <;> first | rfl | cases same

def Fits (type : IntegerType) (z : ℤ) : Prop := type.min ≤ z ∧ z ≤ type.max

instance (type : IntegerType) (z : ℤ) : Decidable (type.Fits z) :=
  inferInstanceAs (Decidable (_ ∧ _))

end IntegerType

structure Word (type : IntegerType) where
  value : ℤ
  fits : type.Fits value

namespace Word

variable {type : IntegerType}

/-- The value modulo a power of two. -/
def wrap (type : IntegerType) (z : ℤ) : Word type where
  value := type.min + (z - type.min) % 2 ^ type.bits
  fits := by
    have positive : (0 : ℤ) < 2 ^ type.bits := by positivity
    have top := type.max_eq
    constructor <;> omega

theorem wrap_value {z : ℤ} (fits : type.Fits z) : (wrap type z).value = z := by
  obtain ⟨least, most⟩ := fits
  have top := type.max_eq
  show type.min + (z - type.min) % 2 ^ type.bits = z
  rw [Int.emod_eq_of_lt (by omega) (by omega)]
  ring

end Word

/-! ### Floats -/

/-- **A float with some bits of precision.** Zero has one sign here: no conversion tells two. -/
inductive Floating (bits : ℕ)
  | nan
  | infinite (negative : Bool)
  | finite (value : ℚ) (float : Represents bits value)

namespace Floating

variable {bits : ℕ}

/-- The nearest float. Integers are far from the greatest. -/
def ofInt (some : 0 < bits) (z : ℤ) : Floating bits :=
  .finite (roundTo bits z) (represents_roundTo some z)

/-- `v as f64`. -/
def widen {more : ℕ} (le : bits ≤ more) : Floating bits → Floating more
  | .nan => .nan
  | .infinite negative => .infinite negative
  | .finite q float => .finite q (float.mono le)

end Floating

/-! ### Scalars -/

/-- **The contents of the other built-in types,** as far as they are converted, and what numbers are
as text. -/
structure OtherTypes where
  DateTime : Type
  Guid : Type
  XmlElement : Type
  QualifiedName : Type
  LocalizedText : Type
  NodeId : Type
  ExpandedNodeId : Type
  ExtensionObject : Type
  Nested : Type
  DataValue : Type
  DiagnosticInfo : Type
  parseInteger : (type : IntegerType) → String → Option (Word type)
  parseDouble : String → Option (Floating 53)
  parseFloat : String → Option (Floating 24)
  parseGuid : String → Option Guid
  parseNodeId : String → Option NodeId
  nodeIdText : NodeId → String
  expandedNodeIdText : ExpandedNodeId → String
  expandedNodeId : NodeId → ExpandedNodeId
  nullLocalizedText : LocalizedText
  /-- A text without a locale. -/
  newLocalizedText : String → LocalizedText
  text : LocalizedText → UAString
  name : QualifiedName → UAString
  isNullName : QualifiedName → Bool

def OtherTypes.bare : OtherTypes where
  DateTime := Unit
  Guid := Unit
  XmlElement := Unit
  QualifiedName := Unit
  LocalizedText := Unit
  NodeId := Unit
  ExpandedNodeId := Unit
  ExtensionObject := Unit
  Nested := Unit
  DataValue := Unit
  DiagnosticInfo := Unit
  parseInteger _ _ := none
  parseDouble _ := none
  parseFloat _ := none
  parseGuid _ := none
  parseNodeId _ := none
  nodeIdText _ := ""
  expandedNodeIdText _ := ""
  expandedNodeId _ := ()
  nullLocalizedText := ()
  newLocalizedText _ := ()
  text _ := none
  name _ := none
  isNullName _ := true

variable {O : OtherTypes}

inductive Scalar (O : OtherTypes)
  | boolean (v : Bool)
  | integer (type : IntegerType) (v : Word type)
  | float (v : Floating 24)
  | double (v : Floating 53)
  | string (v : UAString)
  | dateTime (v : O.DateTime)
  | guid (v : O.Guid)
  | byteString (v : ByteString)
  | xmlElement (v : O.XmlElement)
  | nodeId (v : O.NodeId)
  | expandedNodeId (v : O.ExpandedNodeId)
  | statusCode (v : StatusCode)
  | qualifiedName (v : O.QualifiedName)
  | localizedText (v : O.LocalizedText)
  | extensionObject (v : O.ExtensionObject)
  | dataValue (v : O.DataValue)
  | variant (v : O.Nested)
  | diagnosticInfo (v : O.DiagnosticInfo)

namespace Scalar

def typeId : Scalar O → VariantScalarTypeId
  | .boolean _ => .leaf .boolean
  | .integer type _ => .leaf type.leaf
  | .float _ => .leaf .float
  | .double _ => .leaf .double
  | .string _ => .leaf .string
  | .dateTime _ => .leaf .dateTime
  | .guid _ => .leaf .guid
  | .byteString _ => .leaf .byteString
  | .xmlElement _ => .leaf .xmlElement
  | .nodeId _ => .leaf .nodeId
  | .expandedNodeId _ => .leaf .expandedNodeId
  | .statusCode _ => .leaf .statusCode
  | .qualifiedName _ => .leaf .qualifiedName
  | .localizedText _ => .leaf .localizedText
  | .extensionObject _ => .extensionObject
  | .dataValue _ => .dataValue
  | .variant _ => .variant
  | .diagnosticInfo _ => .diagnosticInfo

end Scalar

/-! ### Arrays -/

structure Array (O : OtherTypes) where
  valueType : VariantScalarTypeId
  values : List (Scalar O)
  dimensions : Option (List UInt32)

/-- A value, nothing, or an array. The values of an array are neither nothing nor arrays. -/
inductive Variant (O : OtherTypes)
  | empty
  | scalar (v : Scalar O)
  | array (v : Array O)

namespace Variant

def typeId : Variant O → VariantTypeId
  | .empty => .empty
  | .scalar v => .scalar v.typeId
  | .array v => .array v.valueType v.dimensions

/-- What a conversion of a scalar gives. -/
def ofOption : Option (Scalar O) → Variant O
  | none => .empty
  | some v => .scalar v

end Variant

deriving instance DecidableEq for VariantTypeId

end AsyncOpcua.Variants
