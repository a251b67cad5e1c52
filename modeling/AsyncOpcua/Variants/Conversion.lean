/-
**Implicit conversions of variants.**

* `convert_exact_iff` — which implicit conversions of integers keep their value.
-/

import AsyncOpcua.Variants.Variant

namespace AsyncOpcua.Variants

open Types hiding Variant
open Encoding (LeafType VariantScalarTypeId VariantTypeId validateDimensions)

variable {O : OtherTypes}

/-! ### Integers -/

/-- How an integer is converted: as it is modulo a power of two, so unless it is negative, or not.
-/
inductive Implicit
  | always
  | notNegative
  | never
  deriving DecidableEq

def implicit : IntegerType → IntegerType → Implicit
  | .byte, .int16 | .byte, .int32 | .byte, .int64 | .byte, .sByte => .always
  | .byte, .uInt16 | .byte, .uInt32 | .byte, .uInt64 => .always
  | .int16, .int32 | .int16, .int64 => .always
  | .int16, .uInt32 | .int16, .uInt64 => .notNegative
  | .int32, .int64 => .always
  | .int32, .uInt64 => .notNegative
  | .sByte, .int16 | .sByte, .int32 | .sByte, .int64 => .always
  | .sByte, .uInt16 | .sByte, .uInt32 | .sByte, .uInt64 => .notNegative
  | .uInt16, .int16 | .uInt16, .int32 | .uInt16, .int64 => .always
  | .uInt16, .uInt32 | .uInt16, .uInt64 => .always
  | .uInt32, .int32 | .uInt32, .int64 | .uInt32, .uInt64 => .always
  | .uInt64, .int64 => .always
  | _, _ => .never

def convertInteger {source : IntegerType} (v : Word source) (target : IntegerType) :
    Option (Word target) :=
  match implicit source target with
  | .always => some (.wrap target v.value)
  | .notNegative => if v.value < 0 then none else some (.wrap target v.value)
  | .never => none

/-! ### Scalars -/

namespace Scalar

def convertScalar (v : Scalar O) (target : VariantScalarTypeId) : Option (Scalar O) :=
  match v, target with
  | .boolean v, .leaf type =>
    match IntegerType.ofLeaf type, type with
    | some integerType, _ => some (.integer integerType (.wrap integerType v.toNat))
    | none, .double => some (.double (.ofInt (by decide) v.toNat))
    | none, .float => some (.float (.ofInt (by decide) v.toNat))
    | none, _ => none
  | .integer source v, .leaf type =>
    match IntegerType.ofLeaf type, source, type with
    | some integerType, _, _ => (convertInteger v integerType).map (.integer integerType)
    | none, _, .double => some (.double (.ofInt (by decide) v.value))
    | none, _, .float => some (.float (.ofInt (by decide) v.value))
    | none, .uInt16, .statusCode => some (.statusCode (BitVec.ofInt 32 (v.value * 65536)))
    | none, _, _ => none
  | .expandedNodeId v, .leaf .string => some (.string (some (O.expandedNodeIdText v)))
  | .float v, .leaf .double => some (.double (v.widen (by decide)))
  | .nodeId v, .leaf .expandedNodeId => some (.expandedNodeId (O.expandedNodeId v))
  | .nodeId v, .leaf .string => some (.string (some (O.nodeIdText v)))
  | .statusCode v, .leaf .int32 => some (.integer .int32 (.wrap .int32 v.toNat))
  | .statusCode v, .leaf .int64 => some (.integer .int64 (.wrap .int64 v.toNat))
  | .statusCode v, .leaf .uInt32 => some (.integer .uInt32 (.wrap .uInt32 v.toNat))
  | .statusCode v, .leaf .uInt64 => some (.integer .uInt64 (.wrap .uInt64 v.toNat))
  | .string none, _ => none
  | .string (some v), .leaf type =>
    if v = "" then none
    else
      match IntegerType.ofLeaf type, type with
      | some integerType, _ => (O.parseInteger integerType v).map (.integer integerType)
      | none, .boolean =>
        if v = "true" ∨ v = "1" then some (.boolean true)
        else if v = "false" ∨ v = "0" then some (.boolean false)
        else none
      | none, .double => (O.parseDouble v).map .double
      | none, .float => (O.parseFloat v).map .float
      | none, .guid => (O.parseGuid v).map .guid
      | none, .nodeId => (O.parseNodeId v).map .nodeId
      | none, _ => none
  | .localizedText v, .leaf .string => some (.string (O.text v))
  | .qualifiedName v, .leaf .string =>
    if O.isNullName v then some (.string none) else some (.string (O.name v))
  | .qualifiedName v, .leaf .localizedText =>
    if O.isNullName v then some (.localizedText O.nullLocalizedText)
    else some (.localizedText (O.newLocalizedText ((O.name v).getD "")))
  | _, _ => none

theorem convertScalar_boolean (v : Bool) (target : IntegerType) :
    (Scalar.boolean v : Scalar O).convertScalar (.leaf target.leaf) =
      some (.integer target (.wrap target v.toNat)) := by
  cases target <;> rfl

theorem convertScalar_integer {source : IntegerType} (v : Word source) (target : IntegerType) :
    (Scalar.integer source v : Scalar O).convertScalar (.leaf target.leaf) =
      (convertInteger v target).map (.integer target) := by
  cases target <;> rfl

def convert (v : Scalar O) (target : VariantScalarTypeId) : Option (Scalar O) :=
  if v.typeId = target then some v else v.convertScalar target

end Scalar

/-! ### Variants -/

namespace Variant

def convertScalar (v : Variant O) (target : VariantScalarTypeId) : Variant O :=
  match v with
  | .empty => .empty
  | .scalar v => .ofOption (v.convertScalar target)
  | .array a =>
    match a.values with
    | [value] => .ofOption (value.convert target)
    | _ => .empty

def single (target : VariantScalarTypeId) (dims : Option (List UInt32))
    (converted : Option (Scalar O)) : Variant O :=
  if dims ≠ none ∧ dims ≠ some [1] then .empty
  else
    match converted with
    | none => .empty
    | some converted => .array ⟨target, [converted], dims⟩

def convertArray (v : Variant O) (target : VariantScalarTypeId) (dims : Option (List UInt32)) :
    Variant O :=
  match v with
  | .empty => single target dims none
  | .scalar v => single target dims (v.convert target)
  | .array a =>
    if dims ≠ none ∧ dims ≠ a.dimensions then .empty
    else
      match a.values.mapM (·.convert target) with
      | none => .empty
      | some values => .array ⟨target, values, a.dimensions⟩

/-- **`convert`: an implicit conversion.** -/
def convert (v : Variant O) (target : VariantTypeId) : Variant O :=
  if v.typeId = target then v
  else
    match target with
    | .empty => .empty
    | .scalar type => v.convertScalar type
    | .array type dims => v.convertArray type dims

end Variant

/-! ### Implicit conversions of integers -/

def Scalar.integerValue : Scalar O → Option ℤ
  | .boolean v => some v.toNat
  | .integer _ v => some v.value
  | _ => none

/-- The pairs of types where half of the values do not fit, and all are converted. -/
def unchecked : IntegerType → IntegerType → Bool
  | .byte, .sByte | .uInt16, .int16 | .uInt32, .int32 | .uInt64, .int64 => true
  | _, _ => false

variable {source target : IntegerType}

theorem bounds_of_always (always : implicit source target = .always)
    (checked : unchecked source target = false) :
    target.min ≤ source.min ∧ source.max ≤ target.max := by
  revert always checked
  cases source <;> cases target <;> decide

theorem bounds_of_notNegative (notNegative : implicit source target = .notNegative) :
    target.min ≤ 0 ∧ source.max ≤ target.max := by
  revert notNegative
  cases source <;> cases target <;> decide

theorem unchecked_always (pair : unchecked source target = true) :
    implicit source target = .always ∧ source ≠ target := by
  revert pair
  cases source <;> cases target <;> decide

/-- **An integer keeps its value** unless the conversion does not look and it is too large. -/
theorem convertInteger_exact_iff (v : Word source) (target : IntegerType) :
    (∀ w, convertInteger v target = some w → w.value = v.value) ↔
      ¬ (unchecked source target = true ∧ target.max < v.value) := by
  constructor
  · rintro exact ⟨pair, large⟩
    have converted : convertInteger v target = some (.wrap target v.value) := by
      rw [convertInteger, (unchecked_always pair).1]
    have same := exact _ converted
    have most := (Word.wrap target v.value).fits.2
    omega
  · rintro checked w converted
    have fits : target.Fits v.value := by
      have inside := v.fits
      unfold convertInteger at converted
      cases way : implicit source target with
      | always =>
        by_cases pair : unchecked source target = true
        · have small : ¬ target.max < v.value := fun large => checked ⟨pair, large⟩
          have least : target.min ≤ source.min := by
            revert pair
            cases source <;> cases target <;> decide
          exact ⟨least.trans inside.1, not_lt.mp small⟩
        · have bounds := bounds_of_always way (Bool.eq_false_of_not_eq_true pair)
          exact ⟨bounds.1.trans inside.1, inside.2.trans bounds.2⟩
      | notNegative =>
        have bounds := bounds_of_notNegative way
        rw [way] at converted
        split_ifs at converted with negative
        exact ⟨bounds.1.trans (not_lt.mp negative), inside.2.trans bounds.2⟩
      | never =>
        rw [way] at converted
        cases converted
    have wrapped : w = .wrap target v.value := by
      unfold convertInteger at converted
      split at converted
      · exact (Option.some.inj converted).symm
      · split_ifs at converted
        exact (Option.some.inj converted).symm
      · cases converted
    rw [wrapped, Word.wrap_value fits]

/-- **A conversion keeps the integer, or there is none;** there is none where it does not fit. -/
def ConvertsExactly (v : Variant O) (n : ℤ) (target : IntegerType) : Prop :=
  (v.convert (.scalar (.leaf target.leaf)) = .empty ∨
    ∃ w : Word target, v.convert (.scalar (.leaf target.leaf)) = .scalar (.integer target w) ∧
      w.value = n) ∧
  (¬ target.Fits n → v.convert (.scalar (.leaf target.leaf)) = .empty)

theorem convertsExactly_of_eq {v : Variant O} {n : ℤ} {target : IntegerType}
    {result : Option (Word target)} (converted : v.convert (.scalar (.leaf target.leaf)) =
      .ofOption (result.map (.integer target))) :
    ConvertsExactly v n target ↔ ∀ w, result = some w → w.value = n := by
  unfold ConvertsExactly
  rw [converted]
  cases result with
  | none => simp [Variant.ofOption]
  | some w =>
    constructor
    · rintro ⟨nothing | ⟨same, held, value⟩, -⟩ w' ⟨⟩
      · cases nothing
      · cases held
        exact value
    · intro exact
      have value := exact w rfl
      refine ⟨Or.inr ⟨w, rfl, value⟩, fun outside => absurd w.fits ?_⟩
      rw [value]
      exact outside

theorem convert_scalar_of_ne {v : Scalar O} {target : VariantScalarTypeId}
    (other : v.typeId ≠ target) :
    (Variant.scalar v).convert (.scalar target) = .ofOption (v.convertScalar target) := by
  have types : (Variant.scalar v).typeId ≠ .scalar target := fun same =>
    other (VariantTypeId.scalar.inj same)
  rw [Variant.convert, if_neg types]
  rfl

/-- **The implicit conversions that keep integers.** A Boolean or an integer is converted to an
integer type exactly, or not at all where it does not fit, except from an unsigned type to the
signed one of its size, for values above the greatest of that. -/
theorem convert_exact_iff {v : Scalar O} {n : ℤ} (held : v.integerValue = some n)
    (target : IntegerType) : ConvertsExactly (.scalar v) n target ↔
      ¬ ∃ source : IntegerType, v.typeId = .leaf source.leaf ∧ unchecked source target = true ∧
        target.max < n := by
  cases v with
  | boolean v =>
    have other : (Scalar.boolean v : Scalar O).typeId ≠ .leaf target.leaf := by
      cases target <;> exact fun same => by cases same
    have converted : (Variant.scalar (Scalar.boolean v : Scalar O)).convert
        (.scalar (.leaf target.leaf)) =
          .ofOption ((some (Word.wrap target v.toNat)).map (.integer target)) := by
      rw [convert_scalar_of_ne other, Scalar.convertScalar_boolean]
      rfl
    obtain rfl := Option.some.inj held
    rw [convertsExactly_of_eq converted]
    have fits : target.Fits v.toNat := by
      cases v <;> cases target <;> decide
    constructor
    · rintro - ⟨source, same, -⟩
      cases source <;> cases same
    · rintro - w same
      rw [← Option.some.inj same, Word.wrap_value fits]
  | integer source v =>
    obtain rfl := Option.some.inj held
    have only : (∃ other : IntegerType, (Scalar.integer source v : Scalar O).typeId =
        .leaf other.leaf ∧ unchecked other target = true ∧ target.max < v.value) ↔
          unchecked source target = true ∧ target.max < v.value := by
      constructor
      · rintro ⟨other, same, rest⟩
        obtain rfl := IntegerType.leaf_injective (VariantScalarTypeId.leaf.inj same)
        exact rest
      · exact fun rest => ⟨source, rfl, rest⟩
    rw [only]
    by_cases same : source = target
    · subst same
      have itself : (Variant.scalar (Scalar.integer source v : Scalar O)).convert
          (.scalar (.leaf source.leaf)) = .ofOption ((some v).map (.integer source)) := if_pos rfl
      rw [convertsExactly_of_eq itself]
      constructor
      · rintro - ⟨pair, -⟩
        exact (unchecked_always pair).2 rfl
      · rintro - w ⟨⟩
        rfl
    · have other : (Scalar.integer source v : Scalar O).typeId ≠ .leaf target.leaf := fun equal =>
        same (IntegerType.leaf_injective (VariantScalarTypeId.leaf.inj equal))
      have converted : (Variant.scalar (Scalar.integer source v : Scalar O)).convert
          (.scalar (.leaf target.leaf)) =
            .ofOption ((convertInteger v target).map (.integer target)) := by
        rw [convert_scalar_of_ne other, Scalar.convertScalar_integer]
      rw [convertsExactly_of_eq converted]
      exact convertInteger_exact_iff v target
  | _ => cases held

theorem convert_exact_iff_byte :
    ConvertsExactly (.scalar (.integer .byte (.wrap .byte 127)) : Variant .bare) 127 .sByte := by
  refine (convert_exact_iff rfl .sByte).mpr ?_
  rintro ⟨source, -, -, beyond⟩
  exact absurd beyond (by decide)

theorem byte_converted_to_negative :
    ¬ ∀ (O : OtherTypes) (v : Scalar O) (n : ℤ), v.integerValue = some n →
      ∀ target, ConvertsExactly (.scalar v) n target := by
  intro always
  have exact := always .bare (.integer .byte (.wrap .byte 200)) 200 rfl .sByte
  rcases exact.1 with nothing | ⟨w, converted, value⟩
  · cases nothing
  · have most := w.fits.2
    rw [value] at most
    exact absurd most (by decide)

end AsyncOpcua.Variants
