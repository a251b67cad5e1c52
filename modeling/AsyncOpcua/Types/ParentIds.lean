/-
**The parents of the data types of a server.**

`get_builtin_type` and `get_data_type_variant` call themselves on the parent of a type that they do
not know; a call that goes deeper than the calls it is given has no result.

* `resolves_iff` — both functions do what they are for, except on a cycle of unknown types.
-/

import AsyncOpcua.Encoding.Variant
import AsyncOpcua.Foundation.Walk
import AsyncOpcua.Types.NodeId

namespace AsyncOpcua.Types

open Encoding Foundation Option

/-- The standard data types, where the functions tell them apart. -/
inductive DataTypeId where
  | leaf (type : LeafType)
  | structure : DataTypeId
  | dataValue
  | baseDataType
  | diagnosticInfo
  | enumeration
  | decimal
  | other (value : UInt32)

inductive DataTypeVariant where
  | enumeration
  | structure : DataTypeVariant
  | primitive

namespace DataTypeId

/-- The data type of a number; a number without one is an `other` as well. -/
def ofNumber : UInt32 → DataTypeId
  | 1 => .leaf .boolean | 2 => .leaf .sByte | 3 => .leaf .byte | 4 => .leaf .int16
  | 5 => .leaf .uInt16 | 6 => .leaf .int32 | 7 => .leaf .uInt32 | 8 => .leaf .int64
  | 9 => .leaf .uInt64 | 10 => .leaf .float | 11 => .leaf .double | 12 => .leaf .string
  | 13 => .leaf .dateTime | 14 => .leaf .guid | 15 => .leaf .byteString | 16 => .leaf .xmlElement
  | 17 => .leaf .nodeId | 18 => .leaf .expandedNodeId | 19 => .leaf .statusCode
  | 20 => .leaf .qualifiedName | 21 => .leaf .localizedText | 22 => .structure | 23 => .dataValue
  | 24 => .baseDataType | 25 => .diagnosticInfo | 29 => .enumeration | 50 => .decimal
  | value => .other value

def variant : DataTypeId → Option DataTypeVariant
  | .leaf _ | .dataValue | .diagnosticInfo | .baseDataType => some .primitive
  | .structure | .decimal => some .structure
  | .enumeration => some .enumeration
  | .other _ => none

def builtinType : DataTypeId → Option VariantScalarTypeId
  | .leaf type => some (.leaf type)
  -- An extension object is a structure here.
  | .structure | .decimal => some .extensionObject
  | .dataValue => some .dataValue
  | .diagnosticInfo => some .diagnosticInfo
  | .enumeration => some (.leaf .int32)
  | .baseDataType => some .variant
  | .other _ => none

theorem variant_eq_none_iff (type : DataTypeId) : type.variant = none ↔
    type.builtinType = none := by
  cases type <;> simp [variant, builtinType]

end DataTypeId

def NodeId.asDataTypeId (id : NodeId) : Option DataTypeId :=
  match id.identifier with
  | .numeric value => if id.namespaceIndex = 0 then some (.ofNumber value) else none
  | _ => none

/-- **The map from children to parents.** -/
structure ParentIds where
  parentIds : AList fun _ : NodeId => NodeId

namespace ParentIds

def new : ParentIds := ⟨∅⟩

def addType (ids : ParentIds) (nodeId parentId : NodeId) : ParentIds :=
  ⟨ids.parentIds.insert nodeId parentId⟩

section

variable {Answer : Type} (known : DataTypeId → Option Answer) (ids : ParentIds)

def move (id : NodeId) : Move NodeId (Option Answer) :=
  match id.asDataTypeId.bind known with
  | some reply => .answer (some reply)
  | none =>
    match ids.parentIds.lookup id with
    | none => .answer none
    | some parent => .go parent

/-- The answer within so many nested calls. -/
def ascend (calls : ℕ) (id : NodeId) : Option (Option Answer) := walk (ids.move known) calls id

end

def getDataTypeVariant : ParentIds → ℕ → NodeId → Option (Option DataTypeVariant) :=
  ascend DataTypeId.variant

def getBuiltinType : ParentIds → ℕ → NodeId → Option (Option VariantScalarTypeId) :=
  ascend DataTypeId.builtinType

/-! ### The chain of parents -/

def ancestor (ids : ParentIds) : ℕ → NodeId → Option NodeId
  | 0, id => some id
  | generations + 1, id => (ids.parentIds.lookup id).bind (ids.ancestor generations)

section

variable {Answer : Type} (known : DataTypeId → Option Answer) (ids : ParentIds) (id : NodeId)

def UnknownBefore (generation : ℕ) : Prop :=
  ∀ earlier < generation, ∀ other, ids.ancestor earlier id = some other →
    other.asDataTypeId.bind known = none

/-- **The first type on the chain of parents for which there is an answer has this one.** -/
def Nearest (answer : Answer) : Prop :=
  ∃ generation node, ids.ancestor generation id = some node ∧
    node.asDataTypeId.bind known = some answer ∧ ids.UnknownBefore known id generation

def ComesRound : Prop :=
  ∃ first second node, first < second ∧ ids.ancestor first id = some node ∧
    ids.ancestor second id = some node ∧ ids.UnknownBefore known id second

variable {known ids id}

theorem nodeAfter_eq_some {generation : ℕ} {node : NodeId} :
    nodeAfter (ids.move known) generation id = some node ↔
      ids.ancestor generation id = some node ∧ ids.UnknownBefore known id generation := by
  induction generation generalizing id with
  | zero => simp [nodeAfter, ancestor, UnknownBefore]
  | succ generation ih =>
    have split : ∀ parent, ids.parentIds.lookup id = some parent →
        (ids.UnknownBefore known id (generation + 1) ↔
          id.asDataTypeId.bind known = none ∧ ids.UnknownBefore known parent generation) := by
      intro parent found
      constructor
      · intro unknown
        refine ⟨unknown 0 (by omega) id rfl, fun earlier lt other there => ?_⟩
        exact unknown (earlier + 1) (by omega) other (by rw [ancestor, found]; exact there)
      · rintro ⟨here, above⟩ earlier lt other there
        cases earlier with
        | zero => exact some.inj there ▸ here
        | succ earlier =>
          rw [ancestor, found] at there
          exact above earlier (by omega) other there
    cases answered : id.asDataTypeId.bind known with
    | some answer =>
      have unseen : ¬ ids.UnknownBefore known id (generation + 1) := fun unknown => by
        have here := unknown 0 (by omega) id rfl
        rw [answered] at here
        cases here
      simp [nodeAfter, move, answered, unseen]
    | none =>
      cases found : ids.parentIds.lookup id with
      | none => simp [nodeAfter, move, answered, found, ancestor]
      | some parent =>
        simp only [nodeAfter, move, answered, found, ancestor, bind_some, split parent found,
          true_and]
        exact ih

theorem move_go {node next : NodeId} (goes : ids.move known node = .go next) :
    node ∈ ids.parentIds.keys.toFinset := by
  rw [move] at goes
  split at goes
  · cases goes
  · split at goes
    · cases goes
    · next parent found =>
      rw [List.mem_toFinset, ← AList.mem_keys, ← AList.lookup_isSome, found]
      rfl

/-- **There is no answer, however many calls there are,** just where the chain comes round. -/
theorem ascend_eq_none_iff :
    (∀ calls, ids.ascend known calls id = none) ↔ ids.ComesRound known id := by
  constructor
  · intro unanswered
    have stays : ∀ node next, ids.move known node = .go next →
        node ∈ ids.parentIds.keys.toFinset := fun _ _ => move_go
    obtain ⟨first, second, node, later, once, again⟩ := returns_of_long stays (unanswered _)
    rw [nodeAfter_eq_some] at once again
    exact ⟨first, second, node, later, once.1, again.1, again.2⟩
  · rintro ⟨first, second, node, later, once, again, unknown⟩ calls
    have early : ids.UnknownBefore known id first :=
      fun earlier lt => unknown earlier (by omega)
    exact walk_eq_none_iff.mpr (isSome_of_returns later (nodeAfter_eq_some.mpr ⟨once, early⟩)
      (nodeAfter_eq_some.mpr ⟨again, unknown⟩) calls)

theorem ascend_nearest {calls : ℕ} {answer : Answer}
    (answered : ids.ascend known calls id = some (some answer)) : ids.Nearest known id answer := by
  obtain ⟨steps, node, reached, answers⟩ := walk_eq_some answered
  obtain ⟨there, unknown⟩ := nodeAfter_eq_some.mp reached
  refine ⟨steps, node, there, ?_, unknown⟩
  rw [move] at answers
  split at answers
  · next answer' found =>
    cases answers
    exact found
  · split at answers <;> cases answers

variable (known ids id)

/-- **A function that terminates, and returns only what the nearest known type says.** -/
def Resolves (get : ParentIds → ℕ → NodeId → Option (Option Answer)) : Prop :=
  (∃ calls, (get ids calls id).isSome) ∧
    ∀ calls answer, get ids calls id = some (some answer) → ids.Nearest known id answer

theorem resolves_ascend : ids.Resolves known id (ascend known) ↔ ¬ ids.ComesRound known id := by
  rw [← ascend_eq_none_iff, not_forall]
  simp only [Resolves, isSome_iff_ne_none]
  exact and_iff_left fun calls answer => ascend_nearest

end

variable (ids : ParentIds) (id : NodeId)

theorem comesRound_variant :
    ids.ComesRound DataTypeId.variant id ↔ ids.ComesRound DataTypeId.builtinType id := by
  have unknown : ∀ node : NodeId, node.asDataTypeId.bind DataTypeId.variant = none ↔
      node.asDataTypeId.bind DataTypeId.builtinType = none := by
    intro node
    cases node.asDataTypeId with
    | none => simp
    | some type => exact type.variant_eq_none_iff
  simp [ComesRound, UnknownBefore, unknown]

/-- **Both functions terminate with the nearest known type,** unless the chain of parents comes to
an id again before it comes to a type with a built-in one. -/
theorem resolves_iff :
    ids.Resolves DataTypeId.builtinType id getBuiltinType ∧
        ids.Resolves DataTypeId.variant id getDataTypeVariant ↔
      ¬ ids.ComesRound DataTypeId.builtinType id := by
  rw [getBuiltinType, getDataTypeVariant, resolves_ascend, resolves_ascend, comesRound_variant,
    and_self]

theorem not_resolves_selfParent :
    ¬ ∀ (ids : ParentIds) (id : NodeId), ids.Resolves DataTypeId.builtinType id getBuiltinType ∧
      ids.Resolves DataTypeId.variant id getDataTypeVariant := by
  intro all
  have fine := (all (new.addType ⟨1, .numeric 1⟩ ⟨1, .numeric 1⟩) ⟨1, .numeric 1⟩).1
  rw [getBuiltinType, resolves_ascend] at fine
  refine fine ⟨0, 1, ⟨1, .numeric 1⟩, by omega, rfl, by decide, ?_⟩
  intro earlier lt other there
  obtain rfl : earlier = 0 := by omega
  cases there
  decide

end ParentIds

end AsyncOpcua.Types
