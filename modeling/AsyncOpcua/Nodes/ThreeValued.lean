/-
**The logical operators of content filters, and three-valued logic.**

An operand that is not a Boolean is `NULL`. The operators of the code give `NULL` as soon as one
operand is; the truth tables give `NULL` only where the other operand does not decide.

* `evaluateElement_eq_truth_iff` — when the result is that of the truth tables.
-/

import AsyncOpcua.Nodes.FilterEvaluation
import AsyncOpcua.Variants.Conversion

namespace AsyncOpcua.Nodes

open Types hiding Variant
open Foundation Variants

/-! ### Filters on variants -/

structure VariantFilters (O : OtherTypes) where
  NumericRange : Type
  Item : Type
  asNodeId : Variant O → Option NodeId
  compareOp : Variant O → Variant O → Option Ordering
  like : Variant O → Variant O → Bool
  cast : Variant O → Variant O → Variant O
  bitwiseAnd : Variant O → Variant O → Variant O
  bitwiseOr : Variant O → Variant O → Variant O
  inView : Variant O → Bool
  getAttribute : Item → NodeId → List QualifiedName → AttributeId → NumericRange → Variant O
  getType : Item → NodeId

def VariantFilters.externals {O : OtherTypes} (V : VariantFilters O) : FilterExternals where
  __ := V
  Value := Variant O
  empty := .empty
  isEmpty := fun value => match value with | .empty => true | _ => false
  boolean := fun value => .scalar (.boolean value)
  isTrue := fun value => match value with | .scalar (.boolean true) => true | _ => false
  asBoolean := fun value =>
    match value.convert (.scalar (.leaf .boolean)) with
    | .scalar (.boolean value) => some value
    | _ => none

/-! ### Trees of logical operators -/

/-- **And, Or and Not over values.** -/
inductive Logic (Value : Type) where
  | leaf (value : Value)
  | not (rhs : Logic Value)
  | and (lhs rhs : Logic Value)
  | or (lhs rhs : Logic Value)

def andTable : Option Bool → Option Bool → Option Bool
  | some false, _ | _, some false => some false
  | some true, some true => some true
  | _, _ => none

def orTable : Option Bool → Option Bool → Option Bool
  | some true, _ | _, some true => some true
  | some false, some false => some false
  | _, _ => none

namespace Logic

variable {F : FilterExternals}

/-- What the operators of the code make of the values. -/
def run : Logic F.Value → F.Value
  | .leaf value => value
  | .not rhs => notValue rhs.run
  | .and lhs rhs => andValue lhs.run rhs.run
  | .or lhs rhs => orValue lhs.run rhs.run

/-- **What the truth tables make of the values.** -/
def truth : Logic F.Value → Option Bool
  | .leaf value => F.asBoolean value
  | .not rhs => rhs.truth.map (!·)
  | .and lhs rhs => andTable lhs.truth rhs.truth
  | .or lhs rhs => orTable lhs.truth rhs.truth

def Known : Logic F.Value → Prop
  | .leaf value => (F.asBoolean value).isSome
  | .not rhs => rhs.Known
  | .and lhs rhs | .or lhs rhs => lhs.Known ∧ rhs.Known

end Logic

section

variable {F : FilterExternals} (op : ParsedContentFilterElement F)
  (expand : ℕ → Evaluation (Logic F.Value)) (item : F.Item)

def expandOperand : ParsedOperand F → Evaluation (Logic F.Value)
  | .elementOperand index => expand index
  | operand => .leaf <$> evaluateOperand item (fun _ => pure F.empty) operand

def expandAt (place : ℕ) : Evaluation (Logic F.Value) :=
  match op.operands[place]? with
  | none => throw .indexOutOfRange
  | some operand => expandOperand expand item operand

end

/-- **The tree of logical operators at an element:** it ends at the results of other elements and at
the values of operands. -/
def ParsedContentFilter.expandElement {F : FilterExternals} (filter : ParsedContentFilter F)
    (types : TypeTree) (item : F.Item) : ℕ → ℕ → Evaluation (Logic F.Value)
  | 0, _ => (none : Option _)
  | levels + 1, index =>
    match filter.elements[index]? with
    | none => pure (.leaf F.empty)
    | some op =>
      let operand := expandAt op (filter.expandElement types item levels) item
      match op.operator with
      | .not => .not <$> operand 0
      | .and => do
        let lhs ← operand 0
        let rhs ← operand 1
        return .and lhs rhs
      | .or => do
        let lhs ← operand 0
        let rhs ← operand 1
        return .or lhs rhs
      | _ => .leaf <$> filter.evaluateElement types item (levels + 1) index

/-! ### One tree for one element -/

section

variable {F : FilterExternals} {filter : ParsedContentFilter F} {types : TypeTree} {item : F.Item}

theorem operandAt_eq {op : ParsedContentFilterElement F} {evaluate : ℕ → Evaluation F.Value}
    {expand : ℕ → Evaluation (Logic F.Value)}
    (same : ∀ index, evaluate index = Logic.run <$> expand index) (place : ℕ) :
    operandAt op (evaluateOperand item evaluate) place =
      Logic.run <$> expandAt op expand item place := by
  rw [operandAt, expandAt]
  cases op.operands[place]? with
  | none => rfl
  | some operand =>
    cases operand with
    | elementOperand index => exact same index
    | literalOperand value => simp [expandOperand, evaluateOperand, Logic.run]
    | attributeOperand o => rfl
    | simpleAttributeOperand o => simp [expandOperand, evaluateOperand, Logic.run]

/-- **An element evaluates to what its tree does.** -/
theorem evaluateElement_eq (levels index : ℕ) : filter.evaluateElement types item levels index =
    Logic.run <$> filter.expandElement types item levels index := by
  induction levels generalizing index with
  | zero => rfl
  | succ levels ih =>
    cases found : filter.elements[index]? with
    | none =>
      simp [ParsedContentFilter.evaluateElement, ParsedContentFilter.expandElement, found,
        Logic.run]
    | some op =>
      cases operator : op.operator
      case not | and | or =>
        simp only [ParsedContentFilter.evaluateElement, ParsedContentFilter.expandElement, found,
          evaluateOperator, operator, unary, binary, operandAt_eq ih, map_eq_pure_bind,
          bind_assoc, pure_bind, Logic.run]
      all_goals
        simp [ParsedContentFilter.expandElement, found, operator, Logic.run]

end

/-! ### The truth tables -/

section

variable {O : OtherTypes} {V : VariantFilters O}

theorem asBoolean_booleans (op : Bool → Bool → Bool) (lhs rhs : V.externals.Value) :
    V.externals.asBoolean (booleans op lhs rhs) =
      Option.map₂ op (V.externals.asBoolean lhs) (V.externals.asBoolean rhs) := by
  unfold booleans
  cases V.externals.asBoolean lhs <;> cases V.externals.asBoolean rhs <;> rfl

theorem asBoolean_not (rhs : V.externals.Value) :
    V.externals.asBoolean (notValue rhs) = (V.externals.asBoolean rhs).map (!·) := by
  unfold notValue
  cases V.externals.asBoolean rhs <;> rfl

def Logic.Sound (tree : Logic V.externals.Value) : Prop :=
  (tree.Known → ∃ b, V.externals.asBoolean tree.run = some b ∧ tree.truth = some b) ∧
    (¬ tree.Known → V.externals.asBoolean tree.run = none)

theorem sound_booleans {op : Bool → Bool → Bool} {table : Option Bool → Option Bool → Option Bool}
    (decides : ∀ a b, table (some a) (some b) = some (op a b))
    {lhs rhs : Logic V.externals.Value} (left : lhs.Sound) (right : rhs.Sound) :
    (lhs.Known ∧ rhs.Known → ∃ b, V.externals.asBoolean (booleans op lhs.run rhs.run) = some b ∧
        table lhs.truth rhs.truth = some b) ∧
      (¬ (lhs.Known ∧ rhs.Known) →
        V.externals.asBoolean (booleans op lhs.run rhs.run) = none) := by
  rw [asBoolean_booleans]
  constructor
  · rintro ⟨knownLeft, knownRight⟩
    obtain ⟨a, value, truth⟩ := left.1 knownLeft
    obtain ⟨b, value', truth'⟩ := right.1 knownRight
    rw [value, value', truth, truth']
    exact ⟨op a b, rfl, decides a b⟩
  · intro unknown
    rcases not_and_or.mp unknown with unknown | unknown
    · rw [left.2 unknown, Option.map₂_none_left]
    · rw [right.2 unknown, Option.map₂_none_right]

/-- **A tree of Booleans has the value of the truth tables,** and any other tree has none. -/
theorem sound (tree : Logic V.externals.Value) : tree.Sound := by
  induction tree with
  | leaf value =>
    simp [Logic.Sound, Logic.Known, Logic.run, Logic.truth, Option.isSome_iff_exists,
      Option.eq_none_iff_forall_ne_some]
  | not rhs ih =>
    simp only [Logic.Sound, Logic.run, asBoolean_not, Logic.truth, Logic.Known]
    refine ⟨fun known => ?_, fun unknown => ?_⟩
    · obtain ⟨b, value, truth⟩ := ih.1 known
      rw [value, truth]
      exact ⟨!b, rfl, rfl⟩
    · rw [ih.2 unknown]
      rfl
  | and lhs rhs left right | or lhs rhs left right => exact sound_booleans (by decide) left right

theorem asBoolean_run_eq_truth_iff (tree : Logic V.externals.Value) :
    V.externals.asBoolean tree.run = tree.truth ↔ tree.Known ∨ tree.truth = none := by
  obtain ⟨ofKnown, ofUnknown⟩ := sound tree
  by_cases known : tree.Known
  · obtain ⟨b, value, truth⟩ := ofKnown known
    exact iff_of_true (value.trans truth.symm) (.inl known)
  · rw [ofUnknown known, eq_comm]
    exact (or_iff_right known).symm

/-- **An element of an accepted filter evaluates to a value.** As true, false or `NULL` it is what
the truth tables make of the operands' values just where all of these are Booleans, or the truth
tables give `NULL`. -/
theorem evaluateElement_eq_truth_iff {raw : ContentFilter V.externals} {parsedTypes : TypeTree}
    {allow : Bool} {banned : List FilterOperator} {filter : ParsedContentFilter V.externals}
    (accepted : (ParsedContentFilter.parse raw parsedTypes allow banned).2 = .ok filter)
    (free : filter.FreeOfAttributes 0) {index : ℕ}
    (below : Relation.ReflTransGen filter.Asks 0 index) (types : TypeTree)
    (item : V.externals.Item) :
    ∃ value, Settles (fun levels => filter.evaluateElement types item levels index) (pure value) ∧
      ∀ᶠ levels in Filter.atTop, ∃ tree,
        filter.expandElement types item levels index = pure tree ∧
          (V.externals.asBoolean value = tree.truth ↔ tree.Known ∨ tree.truth = none) := by
  obtain ⟨known, descent⟩ := validateWhereClause_ok accepted
  have ends : Acc filter.Refers index := by
    clear free
    induction below with
    | refl => exact descent
    | tail _ asks ih =>
      obtain ⟨element, found, operand, listed, refers⟩ := asks
      exact ih.inv
        ⟨element, found, operand, ParsedContentFilter.mem_operands_of_evaluated listed, refers⟩
  obtain ⟨value, settles⟩ := (ParsedContentFilter.evaluateElement_ends types item
    (fun element listed => (known element listed).count) ends).resolve_right fun panics =>
      panics.2 fun other element further => free other element (below.trans further)
  refine ⟨value, settles, settles.mono fun levels here => ?_⟩
  simp only [evaluateElement_eq] at here
  cases expanded : filter.expandElement types item levels index with
  | none =>
    rw [expanded] at here
    cases here
  | some result =>
    rw [expanded] at here
    cases result with
    | error => cases here
    | ok tree =>
      obtain rfl : tree.run = value := by cases here; rfl
      exact ⟨tree, rfl, asBoolean_run_eq_truth_iff tree⟩

end

def VariantFilters.fieldless : VariantFilters .bare where
  NumericRange := Unit
  Item := Unit
  asNodeId _ := none
  compareOp _ _ := none
  like _ _ := false
  cast _ _ := .empty
  bitwiseAnd _ _ := .empty
  bitwiseOr _ _ := .empty
  inView _ := false
  getAttribute _ _ _ _ _ := .empty
  getType _ := BaseEventType

def trueOrField : ContentFilter VariantFilters.fieldless.externals :=
  ⟨some [⟨.or, some [some (.literalOperand (.scalar (.boolean true))),
    some (.simpleAttributeOperand ⟨BaseEventType, some [], 13, ()⟩)]⟩]⟩

theorem evaluateElement_eq_truth_iff_or :
    ∃ filter, (ParsedContentFilter.parse trueOrField .unknown false []).2 = .ok filter ∧
      ∃ value, Settles (fun levels => filter.evaluateElement .unknown () levels 0) (pure value) ∧
        ∀ᶠ levels in Filter.atTop, ∃ tree,
          filter.expandElement .unknown () levels 0 = pure tree ∧
            VariantFilters.fieldless.externals.asBoolean value ≠ tree.truth := by
  have accepted : (ParsedContentFilter.parse trueOrField .unknown false []).2 = .ok _ := rfl
  obtain ⟨value, settles, trees⟩ := evaluateElement_eq_truth_iff accepted
    ((ParsedContentFilter.evaluate_of_parse accepted).2.2.2 rfl) .refl .unknown ()
  refine ⟨_, accepted, value, settles, ?_⟩
  filter_upwards [trees, Filter.eventually_ge_atTop 1] with levels ⟨tree, expands, agrees⟩ deep
  refine ⟨tree, expands, fun same => ?_⟩
  obtain ⟨levels, rfl⟩ := Nat.exists_eq_add_of_le' deep
  obtain rfl : .or (.leaf (.scalar (.boolean true))) (.leaf .empty) = tree :=
    Except.ok.inj (Option.some.inj expands)
  obtain known | lost := agrees.mp same
  · exact absurd known.2 Bool.false_ne_true
  · cases lost

/-- **An accepted filter that an event does not pass:** true or `NULL`. -/
theorem decided_or_lost :
    ∃ filter, (ParsedContentFilter.parse trueOrField .unknown false []).2 = .ok filter ∧
      filter.evaluate .unknown () 1 = pure false ∧
      filter.evaluateElement .unknown () 1 0 = pure .empty ∧
      ∃ tree, filter.expandElement .unknown () 1 0 = pure tree ∧ tree.truth = some true :=
  ⟨_, rfl, rfl, rfl, _, rfl, rfl⟩

end AsyncOpcua.Nodes
