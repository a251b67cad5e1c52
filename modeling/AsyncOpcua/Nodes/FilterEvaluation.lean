/-
**Evaluating a content filter.**

Evaluation starts at the first element and follows the element operands. An operand that is not
there and an attribute operand panic. All operators take the values of all their operands, except
that a list is only searched until the value is found, and that related nodes are not looked for.

* `evaluate_of_parse` — the evaluation of an accepted filter.
-/

import AsyncOpcua.Foundation.Settling
import AsyncOpcua.Nodes.ContentFilter

namespace AsyncOpcua.Nodes

open Types Foundation ParsedContentFilterElement Settles

variable {F : FilterExternals}

inductive Panic where
  | indexOutOfRange
  | unreachable

/-- An evaluation; it is `none` where it takes more levels than it is given. -/
abbrev Evaluation := ExceptT Panic Option

def evaluateOperand (item : F.Item) (evaluateElement : ℕ → Evaluation F.Value) :
    ParsedOperand F → Evaluation F.Value
  | .elementOperand index => evaluateElement index
  | .literalOperand value => pure value
  | .attributeOperand _ => throw .unreachable
  | .simpleAttributeOperand o =>
    pure (F.getAttribute item o.typeDefinitionId o.browsePath o.attributeId o.indexRange)

/-! ### The operators -/

def cmpOp (outcomes : List Ordering) (lhs rhs : F.Value) : F.Value :=
  F.boolean ((F.compareOp lhs rhs).any (· ∈ outcomes))

def between (it gte lte : F.Value) : F.Value :=
  F.boolean ((F.compareOp it gte).any (· ∈ [.gt, .eq]) && (F.compareOp it lte).any (· ∈ [.lt, .eq]))

def notValue (rhs : F.Value) : F.Value :=
  match F.asBoolean rhs with
  | none => F.empty
  | some rhs => F.boolean !rhs

def booleans (op : Bool → Bool → Bool) (lhs rhs : F.Value) : F.Value :=
  match F.asBoolean lhs, F.asBoolean rhs with
  | some lhs, some rhs => F.boolean (op lhs rhs)
  | _, _ => F.empty

def andValue (lhs rhs : F.Value) : F.Value := booleans and lhs rhs

def orValue (lhs rhs : F.Value) : F.Value := booleans or lhs rhs

def ofType (types : TypeTree) (item : F.Item) (lhs : F.Value) : F.Value :=
  match F.asNodeId lhs with
  | none => F.boolean false
  | some typeId => F.boolean (types.isSubtypeOf (F.getType item) typeId)

/-- Whether the value is in a list, which is evaluated until it is found. -/
def inList (evaluate : ParsedOperand F → Evaluation F.Value) (lhs : F.Value) :
    List (ParsedOperand F) → Evaluation Bool
  | [] => pure false
  | it :: rest => do
    let rhs ← evaluate it
    if F.compareOp lhs rhs = some .eq then pure true else inList evaluate lhs rest

section

variable (op : ParsedContentFilterElement F) (evaluate : ParsedOperand F → Evaluation F.Value)

def operandAt (place : ℕ) : Evaluation F.Value :=
  match op.operands[place]? with
  | none => throw .indexOutOfRange
  | some operand => evaluate operand

def unary (f : F.Value → F.Value) : Evaluation F.Value := do
  let value ← operandAt op evaluate 0
  return f value

def binary (f : F.Value → F.Value → F.Value) : Evaluation F.Value := do
  let lhs ← operandAt op evaluate 0
  let rhs ← operandAt op evaluate 1
  return f lhs rhs

def ternary (f : F.Value → F.Value → F.Value → F.Value) : Evaluation F.Value := do
  let first ← operandAt op evaluate 0
  let second ← operandAt op evaluate 1
  let third ← operandAt op evaluate 2
  return f first second third

def evaluateOperator (types : TypeTree) (item : F.Item) : Evaluation F.Value :=
  match op.operator with
  | .equals => binary op evaluate (cmpOp [.eq])
  | .isNull => unary op evaluate fun value => F.boolean (F.isEmpty value)
  | .greaterThan => binary op evaluate (cmpOp [.gt])
  | .lessThan => binary op evaluate (cmpOp [.lt])
  | .greaterThanOrEqual => binary op evaluate (cmpOp [.eq, .gt])
  | .lessThanOrEqual => binary op evaluate (cmpOp [.eq, .lt])
  | .like => binary op evaluate fun lhs rhs => F.boolean (F.like lhs rhs)
  | .not => unary op evaluate notValue
  | .between => ternary op evaluate between
  | .inList => do
    let lhs ← operandAt op evaluate 0
    let found ← inList evaluate lhs (op.operands.drop 1)
    return F.boolean found
  | .and => binary op evaluate andValue
  | .or => binary op evaluate orValue
  | .cast => binary op evaluate F.cast
  | .bitwiseAnd => binary op evaluate F.bitwiseAnd
  | .bitwiseOr => binary op evaluate F.bitwiseOr
  | .ofType => unary op evaluate (ofType types item)
  | .inView => unary op evaluate fun value => F.boolean (F.inView value)
  | .relatedTo => return F.empty

end

namespace ParsedContentFilter

/-- `evulate_element`. -/
def evaluateElement (filter : ParsedContentFilter F) (types : TypeTree) (item : F.Item) :
    ℕ → ℕ → Evaluation F.Value
  | 0, _ => (none : Option _)
  | levels + 1, index =>
    match filter.elements[index]? with
    | none => pure F.empty
    | some op =>
      evaluateOperator op (evaluateOperand item (filter.evaluateElement types item levels)) types
        item

def evaluate (filter : ParsedContentFilter F) (types : TypeTree) (item : F.Item) (levels : ℕ) :
    Evaluation Bool :=
  if filter.elements.isEmpty then pure true
  else do
    let value ← filter.evaluateElement types item levels 0
    return F.isTrue value

end ParsedContentFilter

/-! ### One operator -/

open List

section

variable {op : ParsedContentFilterElement F} {evaluate : ParsedOperand F → Evaluation F.Value}

theorem unary_eq {f : F.Value → F.Value} (count : op.operands.length = 1) :
    unary op evaluate f = op.operands.mapM evaluate >>= fun values =>
      pure (f (values.getD 0 F.empty)) := by
  obtain ⟨a, only⟩ := length_eq_one_iff.mp count
  simp [unary, operandAt, only]

theorem binary_eq {f : F.Value → F.Value → F.Value} (count : op.operands.length = 2) :
    binary op evaluate f = op.operands.mapM evaluate >>= fun values =>
      pure (f (values.getD 0 F.empty) (values.getD 1 F.empty)) := by
  obtain ⟨a, b, both⟩ := length_eq_two.mp count
  simp [binary, operandAt, both]

theorem ternary_eq {f : F.Value → F.Value → F.Value → F.Value} (count : op.operands.length = 3) :
    ternary op evaluate f = op.operands.mapM evaluate >>= fun values =>
      pure (f (values.getD 0 F.empty) (values.getD 1 F.empty) (values.getD 2 F.empty)) := by
  obtain ⟨a, b, c, all⟩ := length_eq_three.mp count
  simp [ternary, operandAt, all]

theorem evaluateOperator_eq (types : TypeTree) (item : F.Item)
    (count : operandCountMismatch op.operator op.operands.length = false)
    (plain : op.operator ≠ .inList ∧ op.operator ≠ .relatedTo) :
    ∃ apply : List F.Value → F.Value, ∀ evaluate, evaluateOperator op evaluate types item =
      op.operands.mapM evaluate >>= fun values => pure (apply values) := by
  unfold evaluateOperator
  cases same : op.operator
  all_goals
    rw [same] at count plain
    simp only [operandCountMismatch, bne_eq_false_iff_eq] at count
  case inList => exact absurd rfl plain.1
  case relatedTo => exact absurd rfl plain.2
  case between => exact ⟨_, fun _ => ternary_eq count⟩
  case isNull | not | ofType | inView => exact ⟨_, fun _ => unary_eq count⟩
  all_goals exact ⟨_, fun _ => binary_eq count⟩

theorem evaluateOperator_inList (types : TypeTree) (item : F.Item)
    (count : operandCountMismatch op.operator op.operands.length = false)
    (list : op.operator = .inList) :
    ∃ first second rest, op.operands = first :: second :: rest ∧
      ∀ evaluate, evaluateOperator op evaluate types item = (do
        let lhs ← evaluate first
        let found ← inList evaluate lhs (second :: rest)
        return F.boolean found) := by
  rw [list, operandCountMismatch, decide_eq_false_iff_not, not_lt] at count
  rcases split : op.operands with _ | ⟨first, _ | ⟨second, rest⟩⟩
  · simp [split] at count
  · simp [split] at count
  · exact ⟨first, second, rest, rfl, fun _ => by simp [evaluateOperator, list, operandAt, split]⟩

/-- The operands that an evaluation of the element can come to. -/
def ParsedContentFilterElement.evaluatedOperands (op : ParsedContentFilterElement F) :
    List (ParsedOperand F) :=
  if op.operator = .relatedTo then [] else op.operands

/-- The operands that every evaluation of the element comes to, unless one before panics. -/
def ParsedContentFilterElement.eagerOperands (op : ParsedContentFilterElement F) :
    List (ParsedOperand F) :=
  match op.operator with
  | .relatedTo => []
  | .inList => op.operands.take 2
  | _ => op.operands

end

section

variable {op : ParsedContentFilterElement F} {evaluate : ℕ → ParsedOperand F → Evaluation F.Value}

def Evaluates (evaluate : ℕ → ParsedOperand F → Evaluation F.Value) (operand : ParsedOperand F) :
    Prop := ∃ value, Settles (fun levels => evaluate levels operand) (pure value)

def Panics (evaluate : ℕ → ParsedOperand F → Evaluation F.Value) (operand : ParsedOperand F) :
    Prop := Settles (fun levels => evaluate levels operand) (throw .unreachable)

variable {operands : List (ParsedOperand F)}

theorem inList_ends {why : Prop} (lhs : F.Value)
    (each : ∀ operand ∈ operands, Evaluates evaluate operand ∨ Panics evaluate operand ∧ why) :
    (∃ found, Settles (fun levels => inList (evaluate levels) lhs operands) (pure found)) ∨
      Settles (fun levels => inList (evaluate levels) lhs operands) (throw .unreachable) ∧ why := by
  induction operands with
  | nil => exact .inl ⟨false, .const _⟩
  | cons it rest ih =>
    obtain ⟨⟨rhs, here⟩ | ⟨panics, why⟩, later⟩ := forall_mem_cons.mp each
    · by_cases equal : F.compareOp lhs rhs = some .eq
      · refine .inl ⟨true, here.bind ?_⟩
        simp only [if_pos equal]
        exact .const _
      · rcases ih later with ⟨found, others⟩ | ⟨fails, why⟩
        · refine .inl ⟨found, here.bind ?_⟩
          simp only [if_neg equal]
          exact others
        · refine .inr ⟨here.bind ?_, why⟩
          simp only [if_neg equal]
          exact fails
    · exact .inr ⟨panics.throw_bind, why⟩

theorem eagerOperands_eq (plain : op.operator ≠ .inList ∧ op.operator ≠ .relatedTo) :
    op.eagerOperands = op.operands := by
  unfold eagerOperands
  split
  · exact absurd ‹_› plain.2
  · exact absurd ‹_› plain.1
  · rfl

section

variable (types : TypeTree) (item : F.Item)
  (count : operandCountMismatch op.operator op.operands.length = false)
include count

theorem evaluateOperator_panics
    (each : ∀ operand ∈ op.evaluatedOperands, Evaluates evaluate operand ∨ Panics evaluate operand)
    (eager : ∃ operand ∈ op.eagerOperands, Panics evaluate operand) :
    Settles (fun levels => evaluateOperator op (evaluate levels) types item)
      (throw .unreachable) := by
  by_cases related : op.operator = .relatedTo
  · obtain ⟨operand, listed, -⟩ := eager
    simp [eagerOperands, related] at listed
  rw [evaluatedOperands, if_neg related] at each
  by_cases list : op.operator = .inList
  · obtain ⟨first, second, rest, split, same⟩ := evaluateOperator_inList types item count list
    simp only [eagerOperands, list] at eager
    simp only [same]
    rw [split] at each eager
    obtain ⟨operand, listed, panics⟩ := eager
    simp only [take_succ_cons, take_zero, mem_cons, not_mem_nil,
      or_false] at listed
    rcases listed with rfl | rfl
    · exact panics.throw_bind
    · obtain ⟨⟨lhs, here⟩ | first, -⟩ := forall_mem_cons.mp each
      · exact here.bind (throw_bind panics.throw_bind)
      · exact first.throw_bind
  · rw [eagerOperands_eq ⟨list, related⟩] at eager
    obtain ⟨apply, same⟩ := evaluateOperator_eq types item count ⟨list, related⟩
    exact (throw_mapM each eager).throw_bind.congr fun levels => same (evaluate levels)

theorem evaluateOperator_ends {why : Prop} (each : ∀ operand ∈ op.evaluatedOperands,
      Evaluates evaluate operand ∨ Panics evaluate operand ∧ why) :
    (∃ value, Settles (fun levels => evaluateOperator op (evaluate levels) types item)
        (pure value)) ∨
      Settles (fun levels => evaluateOperator op (evaluate levels) types item)
        (throw .unreachable) ∧ why := by
  by_cases related : op.operator = .relatedTo
  · refine .inl ⟨F.empty, (const _).congr fun levels => ?_⟩
    simp [evaluateOperator, related]
  rw [evaluatedOperands, if_neg related] at each
  by_cases list : op.operator = .inList
  · obtain ⟨first, second, rest, split, same⟩ := evaluateOperator_inList types item count list
    simp only [same]
    rw [split] at each
    obtain ⟨⟨lhs, here⟩ | ⟨panics, why⟩, later⟩ := forall_mem_cons.mp each
    · rcases inList_ends lhs later with ⟨found, searched⟩ | ⟨fails, why⟩
      · exact .inl ⟨_, here.bind (searched.map (h := F.boolean))⟩
      · exact .inr ⟨here.bind fails.throw_bind, why⟩
    · exact .inr ⟨panics.throw_bind, why⟩
  · obtain ⟨apply, same⟩ := evaluateOperator_eq types item count ⟨list, related⟩
    by_cases all : ∀ operand ∈ op.operands, Evaluates evaluate operand
    · obtain ⟨values, evaluated⟩ := mapM all
      exact .inl ⟨apply values, evaluated.map.congr fun levels => same (evaluate levels)⟩
    · push Not at all
      obtain ⟨operand, listed, stuck⟩ := all
      obtain ⟨panics, why⟩ := (each operand listed).resolve_left stuck
      have fails := throw_mapM (fun a there => (each a there).imp_right And.left)
        ⟨operand, listed, panics⟩
      exact .inr ⟨fails.throw_bind.congr fun levels => same (evaluate levels), why⟩

end

end

/-! ### The elements of a filter -/

namespace ParsedContentFilter

variable {filter : ParsedContentFilter F} {types : TypeTree} {item : F.Item}

/-- The evaluation of one element can come to the other. -/
def Asks (filter : ParsedContentFilter F) (parent child : ℕ) : Prop :=
  ∃ element, filter.elements[parent]? = some element ∧
    ∃ operand ∈ element.evaluatedOperands, operand.elementIndex = some child

/-- Every evaluation of one element comes to the other, unless it panics before. -/
def AsksEagerly (filter : ParsedContentFilter F) (parent child : ℕ) : Prop :=
  ∃ element, filter.elements[parent]? = some element ∧
    ∃ operand ∈ element.eagerOperands, operand.elementIndex = some child

def Counted (filter : ParsedContentFilter F) : Prop :=
  ∀ element ∈ filter.elements, operandCountMismatch element.operator element.operands.length = false

/-- **No attribute operand** among those that the evaluation of an element can come to. -/
def FreeOfAttributes (filter : ParsedContentFilter F) (start : ℕ) : Prop :=
  ∀ index element, Relation.ReflTransGen filter.Asks start index →
    filter.elements[index]? = some element →
    ∀ operand ∈ element.evaluatedOperands, operand.isAttributeOperand = false

/-- **An attribute operand** among those that every evaluation of an element comes to. -/
def MeetsAttribute (filter : ParsedContentFilter F) (start : ℕ) : Prop :=
  ∃ index element, Relation.ReflTransGen filter.AsksEagerly start index ∧
    filter.elements[index]? = some element ∧
    ∃ operand ∈ element.eagerOperands, operand.isAttributeOperand = true

variable {element : ParsedContentFilterElement F} {operand : ParsedOperand F}

theorem mem_operands_of_evaluated
    (listed : operand ∈ element.evaluatedOperands) : operand ∈ element.operands := by
  unfold evaluatedOperands at listed
  split_ifs at listed
  · cases listed
  · exact listed

theorem mem_operands_of_eager
    (listed : operand ∈ element.eagerOperands) : operand ∈ element.operands := by
  unfold eagerOperands at listed
  split at listed
  · cases listed
  · exact mem_of_mem_take listed
  · exact listed

variable {index : ℕ}

/-- **An element evaluates to a value,** or it panics and there are attribute operands below it. -/
theorem evaluateElement_ends (types : TypeTree) (item : F.Item) (counted : filter.Counted)
    (descent : Acc filter.Refers index) :
    (∃ value, Settles (fun levels => filter.evaluateElement types item levels index)
        (pure value)) ∨
      Settles (fun levels => filter.evaluateElement types item levels index)
        (throw .unreachable) ∧ ¬ filter.FreeOfAttributes index := by
  induction descent with
  | intro index _ ih =>
    cases found : filter.elements[index]? with
    | none =>
      refine .inl ⟨F.empty, (const _).succ fun levels => ?_⟩
      rw [evaluateElement, found]
    | some element =>
      have each : ∀ operand ∈ element.evaluatedOperands,
          Evaluates (fun levels => evaluateOperand item (filter.evaluateElement types item levels))
              operand ∨
            Panics (fun levels => evaluateOperand item (filter.evaluateElement types item levels))
              operand ∧ ¬ filter.FreeOfAttributes index := by
        intro operand listed
        cases operand with
        | elementOperand child =>
          have asks : filter.Asks index child := ⟨element, found, _, listed, rfl⟩
          refine (ih child ⟨element, found, _, mem_operands_of_evaluated listed, rfl⟩).imp_right
            (And.imp_right (mt fun free => ?_))
          exact fun i element below => free i element (.head asks below)
        | literalOperand value => exact .inl ⟨value, .const _⟩
        | attributeOperand o =>
          refine .inr ⟨.const _, fun free => ?_⟩
          cases free index element .refl found _ listed
        | simpleAttributeOperand o => exact .inl ⟨_, .const _⟩
      have step : ∀ levels, filter.evaluateElement types item (levels + 1) index =
          evaluateOperator element
            (evaluateOperand item (filter.evaluateElement types item levels)) types item := by
        intro levels
        rw [evaluateElement, found]
      rcases evaluateOperator_ends types item (counted element (mem_of_getElem? found)) each
        with ⟨value, settled⟩ | ⟨panics, why⟩
      · exact .inl ⟨value, settled.succ step⟩
      · exact .inr ⟨panics.succ step, why⟩

def Ends (filter : ParsedContentFilter F) (types : TypeTree) (item : F.Item) (index : ℕ) : Prop :=
  (∃ value, Settles (fun levels => filter.evaluateElement types item levels index) (pure value)) ∨
    Settles (fun levels => filter.evaluateElement types item levels index) (throw .unreachable)

theorem operands_end (found : filter.elements[index]? = some element)
    (below : ∀ child, filter.Refers child index → filter.Ends types item child) :
    ∀ operand ∈ element.evaluatedOperands,
      Evaluates (fun levels => evaluateOperand item (filter.evaluateElement types item levels))
          operand ∨
        Panics (fun levels => evaluateOperand item (filter.evaluateElement types item levels))
          operand := by
  intro operand listed
  cases operand with
  | elementOperand child =>
    exact below child ⟨element, found, _, mem_operands_of_evaluated listed, rfl⟩
  | literalOperand value => exact .inl ⟨value, .const _⟩
  | attributeOperand o => exact .inr (.const _)
  | simpleAttributeOperand o => exact .inl ⟨_, .const _⟩

theorem evaluateElement_panics (types : TypeTree) (item : F.Item) (counted : filter.Counted)
    (descent : Acc filter.Refers index) (meets : filter.MeetsAttribute index) :
    Settles (fun levels => filter.evaluateElement types item levels index)
      (throw .unreachable) := by
  obtain ⟨last, element, below, found, operand, listed, isAttribute⟩ := meets
  -- An element whose eager operands panic panics, up along the way to the attribute operand.
  have panics : ∀ index element, Acc filter.Refers index → filter.elements[index]? = some element →
      (∃ operand ∈ element.eagerOperands,
        Panics (fun levels => evaluateOperand item (filter.evaluateElement types item levels))
          operand) →
      Settles (fun levels => filter.evaluateElement types item levels index)
        (throw .unreachable) := by
    intro index element descent found eager
    refine (evaluateOperator_panics types item (counted element (mem_of_getElem? found))
      (operands_end found fun child refers =>
        (evaluateElement_ends types item counted (descent.inv refers)).imp_right And.left)
      eager).succ fun levels => ?_
    rw [evaluateElement, found]
  revert descent
  induction below using Relation.ReflTransGen.head_induction_on with
  | refl =>
    intro descent
    refine panics last element descent found ⟨operand, listed, ?_⟩
    cases operand with
    | attributeOperand o => exact .const _
    | elementOperand => cases isAttribute
    | literalOperand => cases isAttribute
    | simpleAttributeOperand => cases isAttribute
  | @head parent child asks _ ih =>
    intro descent
    obtain ⟨element, there, operand, eager, refers⟩ := asks
    have childEnds : Acc filter.Refers child :=
      descent.inv ⟨element, there, operand, mem_operands_of_eager eager, refers⟩
    refine panics parent element descent there ⟨operand, eager, ?_⟩
    cases operand with
    | elementOperand index =>
      cases refers
      exact ih childEnds
    | literalOperand => cases refers
    | attributeOperand => cases refers
    | simpleAttributeOperand => cases refers

/-- **The evaluation of an accepted filter.** No chain of its element operands comes back to an
element. It ends with an answer on every item, unless it comes to an attribute operand; it panics
on every item if it comes to one in any case; and without leave for attribute operands there are
none. -/
theorem evaluate_of_parse {raw : ContentFilter F} {types : TypeTree} {allow : Bool}
    {banned : List FilterOperator} {filter : ParsedContentFilter F}
    (accepted : (ParsedContentFilter.parse raw types allow banned).2 = .ok filter) :
    (∀ index, Relation.ReflTransGen (fun parent child => filter.Refers child parent) 0 index →
        ¬ Relation.TransGen filter.Refers index index) ∧
      (filter.FreeOfAttributes 0 → ∀ types item,
        ∃ passes, Settles (filter.evaluate types item) (pure passes)) ∧
      (filter.MeetsAttribute 0 → ∀ types item,
        Settles (filter.evaluate types item) (throw .unreachable)) ∧
      (allow = false → filter.FreeOfAttributes 0) := by
  obtain ⟨known, descent⟩ := validateWhereClause_ok accepted
  have counted : filter.Counted := fun element listed => (known element listed).count
  refine ⟨fun index below => ?_, fun free types item => ?_, fun meets types item => ?_,
    fun closed index element _ found operand listed => ?_⟩
  · refine not_transGen_of_acc ?_
    induction below with
    | refl => exact descent
    | tail _ refers ih => exact ih.inv refers
  · by_cases none : filter.elements.isEmpty
    · refine ⟨true, (const _).congr fun levels => ?_⟩
      rw [evaluate, if_pos none]
    · obtain ⟨value, settled⟩ := (evaluateElement_ends types item counted descent).resolve_right
        fun panics => panics.2 free
      refine ⟨F.isTrue value, (settled.map (h := F.isTrue)).congr fun levels => ?_⟩
      rw [evaluate, if_neg none]
  · have some : ¬ filter.elements.isEmpty := by
      obtain ⟨index, element, -, found, -⟩ := meets
      intro none
      rw [List.isEmpty_iff.mp none] at found
      cases found
    have panics := evaluateElement_panics types item counted descent meets
    refine (panics.throw_bind (g := fun _ value => pure (F.isTrue value))).congr fun levels => ?_
    rw [evaluate, if_neg some]
  · exact (known element (List.mem_of_getElem? found)).attributes closed operand
      (mem_operands_of_evaluated listed)

theorem evaluate_of_parse_two :
    ∃ filter, (parse (F := .booleans) ⟨some
          [⟨.not, some [some (.elementOperand 1)]⟩,
            ⟨.inList, some [some (.literalOperand (some true)), some (.literalOperand none),
              some (.simpleAttributeOperand ⟨BaseEventType, some [], 13, ()⟩)]⟩]⟩
        .unknown false []).2 = .ok filter ∧
      ∀ types item, ∃ passes, Settles (filter.evaluate types item) (pure passes) :=
  have accepted : (parse (F := .booleans) ⟨some
          [⟨.not, some [some (.elementOperand 1)]⟩,
            ⟨.inList, some [some (.literalOperand (some true)), some (.literalOperand none),
              some (.simpleAttributeOperand ⟨BaseEventType, some [], 13, ()⟩)]⟩]⟩
        .unknown false []).2 = .ok _ := rfl
  have evaluation := evaluate_of_parse accepted
  ⟨_, accepted, evaluation.2.1 (evaluation.2.2.2 rfl)⟩

/-- **An accepted filter that panics:** with leave for attribute operands one is accepted, and its
evaluation takes it for unreachable. -/
theorem evaluate_attributeOperand :
    ∃ filter, (parse (F := .booleans) ⟨some [⟨.isNull, some [some (.attributeOperand
          ⟨BaseEventType, none, none, 13, ()⟩)]⟩]⟩ .unknown true []) =
        (⟨some [⟨StatusCode.Good, some [StatusCode.Good]⟩]⟩, .ok filter) ∧
      ∀ item, filter.evaluate .unknown item 1 = throw .unreachable :=
  ⟨_, rfl, fun _ => rfl⟩

end ParsedContentFilter

end AsyncOpcua.Nodes
