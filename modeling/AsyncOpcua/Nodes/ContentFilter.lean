/-
**Content filters: what a client sends, and what is accepted of it.**

The elements of a filter refer to each other by their place. A filter is accepted if every element
has the operands its operator takes and no descent from the first element comes back to an element
above it. Diagnostic infos are left out.

* `validateElement_some` — what is known of an element that is accepted;
* `validateWhereClause_ok_iff` — which clauses are accepted.
-/

import AsyncOpcua.Foundation.PathSearch
import AsyncOpcua.Nodes.TypeTree

namespace AsyncOpcua.Nodes

open Types Foundation List

/-! ### Filters -/

inductive AttributeId where
  | nodeId
  | nodeClass
  | browseName
  | displayName
  | description
  | writeMask
  | userWriteMask
  | isAbstract
  | symmetric
  | inverseName
  | containsNoLoops
  | eventNotifier
  | value
  | dataType
  | valueRank
  | arrayDimensions
  | accessLevel
  | userAccessLevel
  | minimumSamplingInterval
  | historizing
  | executable
  | userExecutable
  | dataTypeDefinition
  | rolePermissions
  | userRolePermissions
  | accessRestrictions
  | accessLevelEx
  deriving DecidableEq

/-- The attributes by their number, from one. -/
def AttributeId.fromU32 (attributeId : ℕ) : Option AttributeId :=
  match attributeId with
  | 0 => none
  | place + 1 =>
    [.nodeId, .nodeClass, .browseName, .displayName, .description, .writeMask, .userWriteMask,
      .isAbstract, .symmetric, .inverseName, .containsNoLoops, .eventNotifier, .value, .dataType,
      .valueRank, .arrayDimensions, .accessLevel, .userAccessLevel, .minimumSamplingInterval,
      .historizing, .executable, .userExecutable, .dataTypeDefinition, .rolePermissions,
      .userRolePermissions, .accessRestrictions, .accessLevelEx][place]?

inductive FilterOperator where
  | equals
  | isNull
  | greaterThan
  | lessThan
  | greaterThanOrEqual
  | lessThanOrEqual
  | like
  | not
  | between
  | inList
  | and
  | or
  | cast
  | inView
  | ofType
  | relatedTo
  | bitwiseAnd
  | bitwiseOr
  deriving DecidableEq

/-- **What filters take from elsewhere:** values with the operations on single values, index ranges,
and the items whose attributes are asked for. -/
structure FilterExternals where
  Value : Type
  NumericRange : Type
  Item : Type
  empty : Value
  /-- `value == Variant::Empty`. -/
  isEmpty : Value → Bool
  boolean : Bool → Value
  /-- `matches!(value, Variant::Boolean(true))`. -/
  isTrue : Value → Bool
  /-- `as_type!(value, Boolean, ..)`. -/
  asBoolean : Value → Option Bool
  /-- `as_type!(value, NodeId, ..)`. -/
  asNodeId : Value → Option NodeId
  compareOp : Value → Value → Option Ordering
  like : Value → Value → Bool
  cast : Value → Value → Value
  bitwiseAnd : Value → Value → Value
  bitwiseOr : Value → Value → Value
  inView : Value → Bool
  getAttribute : Item → NodeId → List QualifiedName → AttributeId → NumericRange → Value
  getType : Item → NodeId

structure TypeTree where
  isSubtypeOf : NodeId → NodeId → Bool
  findTypePropByBrowsePath : NodeId → List QualifiedName → Option TypeProperty

structure RelativePathElement where
  referenceTypeId : NodeId
  isInverse : Bool
  includeSubtypes : Bool
  targetName : QualifiedName

/-- **An instance to run the model on:** the values are booleans and the empty value, and all
attributes of an item are the item. -/
def FilterExternals.booleans : FilterExternals where
  Value := Option Bool
  NumericRange := Unit
  Item := Bool
  empty := none
  isEmpty := Option.isNone
  boolean := some
  isTrue := fun value => value == some true
  asBoolean := id
  asNodeId := fun _ => none
  compareOp := fun lhs rhs =>
    match lhs, rhs with
    | some lhs, some rhs => some (compare lhs rhs)
    | _, _ => none
  like := fun _ _ => false
  cast := fun _ _ => none
  bitwiseAnd := fun _ _ => none
  bitwiseOr := fun _ _ => none
  inView := fun _ => false
  getAttribute := fun item _ _ _ _ => some item
  getType := fun _ => .standard 2041

def TypeTree.unknown : TypeTree where
  isSubtypeOf := fun child ancestor => child = ancestor
  findTypePropByBrowsePath := fun _ _ => none

variable (F : FilterExternals)

structure AttributeOperand where
  nodeId : NodeId
  aliasName : UAString
  browsePath : Option (List RelativePathElement)
  attributeId : ℕ
  indexRange : F.NumericRange

structure SimpleAttributeOperand where
  typeDefinitionId : NodeId
  browsePath : Option (List QualifiedName)
  attributeId : ℕ
  indexRange : F.NumericRange

inductive Operand where
  | elementOperand (index : ℕ)
  | literalOperand (value : F.Value)
  | attributeOperand (operand : AttributeOperand F)
  | simpleAttributeOperand (operand : SimpleAttributeOperand F)

/-- An element; an extension object that is no operand is `none`. -/
structure ContentFilterElement where
  filterOperator : FilterOperator
  filterOperands : Option (List (Option (Operand F)))

structure ContentFilter where
  elements : Option (List (ContentFilterElement F))

/-! ### Parsed filters -/

structure ParsedAttributeOperand where
  nodeId : NodeId
  aliasName : UAString
  browsePath : Option (List RelativePathElement)
  attributeId : AttributeId
  indexRange : F.NumericRange

structure ParsedSimpleAttributeOperand where
  typeDefinitionId : NodeId
  browsePath : List QualifiedName
  attributeId : AttributeId
  indexRange : F.NumericRange

inductive ParsedOperand where
  | elementOperand (index : ℕ)
  | literalOperand (value : F.Value)
  | attributeOperand (operand : ParsedAttributeOperand F)
  | simpleAttributeOperand (operand : ParsedSimpleAttributeOperand F)

structure ParsedContentFilterElement where
  operator : FilterOperator
  operands : List (ParsedOperand F)

structure ParsedContentFilter where
  elements : List (ParsedContentFilterElement F)

variable {F}

def ParsedContentFilter.empty : ParsedContentFilter F := ⟨[]⟩

def ParsedOperand.elementIndex : ParsedOperand F → Option ℕ
  | .elementOperand index => some index
  | _ => none

def ParsedOperand.isAttributeOperand : ParsedOperand F → Bool
  | .attributeOperand _ => true
  | _ => false

/-! ### Validation -/

def BaseEventType : NodeId := .standard 2041

def validateSelectClause (types : TypeTree) (clause : SimpleAttributeOperand F) :
    Except StatusCode (ParsedSimpleAttributeOperand F) :=
  match clause.browsePath with
  | none => .error StatusCode.BadNodeIdUnknown
  | some path =>
    match AttributeId.fromU32 clause.attributeId with
    | none => .error StatusCode.BadAttributeIdInvalid
    | some attributeId =>
      if clause.typeDefinitionId = BaseEventType then
        if attributeId ≠ .nodeId ∧ attributeId ≠ .value then
          .error StatusCode.BadAttributeIdInvalid
        else .ok ⟨clause.typeDefinitionId, path, attributeId, clause.indexRange⟩
      else
        match types.findTypePropByBrowsePath clause.typeDefinitionId path with
        | none => .error StatusCode.BadNodeIdUnknown
        | some node =>
          let isValid : Bool :=
            match node.nodeClass with
            | .object => attributeId = .nodeId
            | .variable => attributeId = .value
            | _ => false
          if isValid then .ok ⟨clause.typeDefinitionId, path, attributeId, clause.indexRange⟩
          else .error StatusCode.BadAttributeIdInvalid

def ParsedOperand.parse (operand : Operand F) (numElements : ℕ) (types : TypeTree)
    (allowAttributeOperands : Bool) : Except StatusCode (ParsedOperand F) :=
  match operand with
  | .elementOperand index =>
    if numElements ≤ index then .error StatusCode.BadFilterOperandInvalid
    else .ok (.elementOperand index)
  | .literalOperand value => .ok (.literalOperand value)
  | .attributeOperand o =>
    if !allowAttributeOperands then .error StatusCode.BadFilterOperandInvalid
    else
      match AttributeId.fromU32 o.attributeId with
      | none => .error StatusCode.BadAttributeIdInvalid
      | some attributeId =>
        .ok (.attributeOperand ⟨o.nodeId, o.aliasName, o.browsePath, attributeId, o.indexRange⟩)
  | .simpleAttributeOperand o => (validateSelectClause types o).map .simpleAttributeOperand

structure ContentFilterElementResult where
  statusCode : StatusCode
  operandStatusCodes : Option (List StatusCode)

structure ContentFilterResult where
  elementResults : Option (List ContentFilterElementResult)

/-- Whether an operator does not take so many operands. -/
def operandCountMismatch (operator : FilterOperator) (count : ℕ) : Bool :=
  match operator with
  | .equals => count != 2
  | .isNull => count != 1
  | .greaterThan => count != 2
  | .lessThan => count != 2
  | .greaterThanOrEqual => count != 2
  | .lessThanOrEqual => count != 2
  | .like => count != 2
  | .not => count != 1
  | .between => count != 3
  | .inList => count < 2
  | .and => count != 2
  | .or => count != 2
  | .cast => count != 2
  | .bitwiseAnd => count != 2
  | .bitwiseOr => count != 2
  | .inView => count != 1
  | .ofType => count != 1
  | .relatedTo => count != 6

/-- What validation finds out about an element: its result, the element if it is accepted, and the
elements it refers to. -/
structure ValidatedElement (F : FilterExternals) where
  result : ContentFilterElementResult
  element : Option (ParsedContentFilterElement F)
  refs : List ℕ

def validateElement (types : TypeTree) (numElements : ℕ) (allowAttributeOperand : Bool)
    (bannedOperators : List FilterOperator) (e : ContentFilterElement F) : ValidatedElement F :=
  match e.filterOperands with
  | none => ⟨⟨StatusCode.BadFilterOperandCountMismatch, none⟩, none, []⟩
  | some filterOperands =>
    if e.filterOperator ∈ bannedOperators then
      ⟨⟨StatusCode.BadFilterOperatorUnsupported, none⟩, none, []⟩
    else
      let operandResults := filterOperands.map fun operand =>
        match operand with
        | none => .error StatusCode.BadFilterOperandInvalid
        | some operand => ParsedOperand.parse operand numElements types allowAttributeOperand
      let validOperands := operandResults.filterMap Except.toOption
      let operandStatusCodes := operandResults.map fun result =>
        match result with
        | .ok _ => StatusCode.Good
        | .error status => status
      let statusCode :=
        if operandCountMismatch e.filterOperator filterOperands.length then
          StatusCode.BadFilterOperandCountMismatch
        else if validOperands.length ≠ filterOperands.length then
          StatusCode.BadFilterOperandInvalid
        else StatusCode.Good
      { result := ⟨statusCode, some operandStatusCodes⟩
        element := if statusCode.isGood then some ⟨e.filterOperator, validOperands⟩ else none
        refs := validOperands.filterMap ParsedOperand.elementIndex }

/-- Whether a descent from an element comes back to an element above it. -/
def hasCycles (children : ℕ → Option (List ℕ)) (levels id : ℕ) (path : Finset ℕ) :
    Option (Except Unit (Finset ℕ)) := search children levels id path

def operandRefs (validated : List (ValidatedElement F)) (id : ℕ) : Option (List ℕ) :=
  match validated[id]? with
  | none => none
  | some element => if element.refs = [] then none else some element.refs

def validateWhereClause (whereClause : ContentFilter F) (types : TypeTree)
    (allowAttributeOperand : Bool) (bannedOperators : List FilterOperator) :
    ContentFilterResult × Except StatusCode (ParsedContentFilter F) :=
  match whereClause.elements with
  | none => (⟨none⟩, .ok .empty)
  | some elements =>
    let validated := elements.map
      (validateElement types elements.length allowAttributeOperand bannedOperators)
    let validElements := validated.filterMap ValidatedElement.element
    let cycles := hasCycles (operandRefs validated) (elements.length + 1) 0 ∅
    let isValid := validated.all (·.element.isSome) && cycles matches some (.ok _)
    (⟨some (validated.map ValidatedElement.result)⟩,
      if isValid then .ok ⟨validElements⟩ else .error StatusCode.BadEventFilterInvalid)

def ParsedContentFilter.parse (filter : ContentFilter F) (types : TypeTree)
    (allowAttributeOperands : Bool) (bannedOperators : List FilterOperator) :
    ContentFilterResult × Except StatusCode (ParsedContentFilter F) :=
  validateWhereClause filter types allowAttributeOperands bannedOperators

/-! ### What is accepted -/

/-- **An accepted element** has as many operands as its operator takes, refers to elements of the
filter, and has attribute operands only where they are allowed. -/
structure ParsedContentFilterElement.Accepted (numElements : ℕ) (allowAttributeOperand : Bool)
    (element : ParsedContentFilterElement F) : Prop where
  count : operandCountMismatch element.operator element.operands.length = false
  attributes : allowAttributeOperand = false →
    ∀ operand ∈ element.operands, operand.isAttributeOperand = false
  inside : ∀ operand ∈ element.operands, ∀ index, operand.elementIndex = some index →
    index < numElements

variable {types : TypeTree} {allow : Bool}

theorem parse_ok {operand : Operand F} {numElements : ℕ} {parsed : ParsedOperand F}
    (accepted : ParsedOperand.parse operand numElements types allow = .ok parsed) :
    (allow = false → parsed.isAttributeOperand = false) ∧
      ∀ index, parsed.elementIndex = some index → index < numElements := by
  cases operand with
  | elementOperand index =>
    unfold ParsedOperand.parse at accepted
    simp only at accepted
    split_ifs at accepted with inside
    cases accepted
    refine ⟨fun _ => rfl, fun other same => ?_⟩
    cases same
    omega
  | literalOperand value =>
    cases accepted
    exact ⟨fun _ => rfl, fun _ same => by cases same⟩
  | attributeOperand o =>
    unfold ParsedOperand.parse at accepted
    simp only at accepted
    split_ifs at accepted with allowed
    split at accepted
    · cases accepted
    · cases accepted
      exact ⟨fun banned => by simp [banned] at allowed, fun _ same => by cases same⟩
  | simpleAttributeOperand o =>
    obtain ⟨clause, -, rfl⟩ := Machine.map_eq_ok.mp accepted
    exact ⟨fun _ => rfl, fun _ same => by cases same⟩

theorem statusCode_isGood {mismatch : Bool} {valid total : ℕ}
    (good : (if mismatch then StatusCode.BadFilterOperandCountMismatch
      else if valid ≠ total then StatusCode.BadFilterOperandInvalid
      else StatusCode.Good).isGood = true) : mismatch = false ∧ valid = total := by
  cases mismatch with
  | true =>
    rw [if_pos rfl] at good
    exact absurd good (by decide)
  | false =>
    by_cases same : valid = total
    · exact ⟨rfl, same⟩
    · rw [if_neg Bool.false_ne_true, if_pos same] at good
      exact absurd good (by decide)

theorem validateElement_some {numElements : ℕ} {banned : List FilterOperator}
    {e : ContentFilterElement F} {element : ParsedContentFilterElement F}
    (valid : (validateElement types numElements allow banned e).element = some element) :
    element.Accepted numElements allow ∧
      (validateElement types numElements allow banned e).refs =
        element.operands.filterMap ParsedOperand.elementIndex := by
  unfold validateElement at valid ⊢
  cases given : e.filterOperands with
  | none =>
    rw [given] at valid
    cases valid
  | some filterOperands =>
    simp only [given] at valid ⊢
    by_cases isBanned : e.filterOperator ∈ banned
    · rw [if_pos isBanned] at valid
      cases valid
    simp only [if_neg isBanned] at valid ⊢
    rw [Option.ite_none_right_eq_some] at valid
    obtain ⟨good, same⟩ := valid
    obtain ⟨count, all⟩ := statusCode_isGood good
    cases same
    rw [← all] at count
    have parsed : ∀ operand ∈ (filterOperands.map fun operand =>
        match operand with
        | none => .error StatusCode.BadFilterOperandInvalid
        | some operand => ParsedOperand.parse operand numElements types allow).filterMap
          Except.toOption,
        ∃ raw, ParsedOperand.parse raw numElements types allow = .ok operand := by
      intro operand listed
      obtain ⟨result, found, isOk⟩ := mem_filterMap.mp listed
      obtain ⟨raw, -, rfl⟩ := mem_map.mp found
      cases raw with
      | none => cases isOk
      | some raw => exact ⟨raw, Machine.toOption_eq_some.mp isOk⟩
    refine ⟨⟨count, fun closed operand listed => ?_, fun operand listed => ?_⟩, rfl⟩
    · obtain ⟨raw, isOk⟩ := parsed operand listed
      exact (parse_ok isOk).1 closed
    · obtain ⟨raw, isOk⟩ := parsed operand listed
      exact (parse_ok isOk).2

/-- **The search for cycles returns.** -/
theorem hasCycles_isSome (validated : List (ValidatedElement F)) :
    (hasCycles (operandRefs validated) (validated.length + 1) 0 ∅).isSome := by
  have known : ∀ id below, operandRefs validated id = some below →
      id ∈ Finset.range validated.length := by
    intro id below found
    rw [Finset.mem_range]
    by_contra outside
    unfold operandRefs at found
    rw [getElem?_eq_none (by omega)] at found
    cases found
  exact search_isSome known (Finset.empty_subset _) (by simp)

def ParsedContentFilter.Refers (filter : ParsedContentFilter F) (child parent : ℕ) : Prop :=
  ∃ element, filter.elements[parent]? = some element ∧
    ∃ operand ∈ element.operands, operand.elementIndex = some child

theorem getElem?_filterMap {α β : Type} {f : α → Option β} {l : List α}
    (all : ∀ a ∈ l, (f a).isSome) (i : ℕ) : (l.filterMap f)[i]? = l[i]?.bind f := by
  induction l generalizing i with
  | nil => rfl
  | cons a rest ih =>
    obtain ⟨here, later⟩ := forall_mem_cons.mp all
    obtain ⟨b, found⟩ := Option.isSome_iff_exists.mp here
    rw [filterMap_cons_some found]
    cases i with
    | zero => simp [found]
    | succ i => simpa using ih later i

theorem validateWhereClause_ok {whereClause : ContentFilter F} {banned : List FilterOperator}
    {filter : ParsedContentFilter F}
    (accepted : (validateWhereClause whereClause types allow banned).2 = .ok filter) :
    (∀ element ∈ filter.elements, element.Accepted filter.elements.length allow) ∧
      Acc filter.Refers 0 := by
  unfold validateWhereClause at accepted
  cases given : whereClause.elements with
  | none =>
    rw [given] at accepted
    cases accepted
    refine ⟨fun element listed => absurd listed not_mem_nil, ⟨0, ?_⟩⟩
    rintro child ⟨element, found, -⟩
    cases found
  | some elements =>
    simp only [given] at accepted
    generalize same : elements.map (validateElement types elements.length allow banned) =
      validated at accepted
    split_ifs at accepted with isValid
    cases accepted
    rw [Bool.and_eq_true, all_eq_true] at isValid
    obtain ⟨all, ended⟩ := isValid
    have count : (validated.filterMap ValidatedElement.element).length = elements.length := by
      rw [filterMap_length_eq_length.mpr all, ← same, length_map]
    -- Each accepted element is what validation made of the raw element in its place.
    have place : ∀ (i : ℕ) (element : ParsedContentFilterElement F),
        (validated.filterMap ValidatedElement.element)[i]? = some element →
        ∃ v : ValidatedElement F, validated[i]? = some v ∧
          element.Accepted elements.length allow ∧
          v.refs = element.operands.filterMap ParsedOperand.elementIndex := by
      intro i element found
      rw [getElem?_filterMap all] at found
      obtain ⟨v, there, isElement⟩ := Option.bind_eq_some_iff.mp found
      have raw := there
      rw [← same, getElem?_map] at raw
      obtain ⟨e, -, rfl⟩ := Option.map_eq_some_iff.mp raw
      exact ⟨_, there, validateElement_some isElement⟩
    refine ⟨fun element listed => ?_, ?_⟩
    · obtain ⟨i, found⟩ := mem_iff_getElem?.mp listed
      obtain ⟨-, -, known, -⟩ := place i element found
      exact count ▸ known
    · have ends : Acc (ChildOf (operandRefs validated)) 0 := by
        cases searched : hasCycles (operandRefs validated) (elements.length + 1) 0 ∅ with
        | none => simp [searched] at ended
        | some result =>
          cases result with
          | error => simp [searched] at ended
          | ok path => exact acc_of_search searched
      refine Subrelation.accessible ?_ ends
      rintro child parent ⟨element, found, operand, listed, refers⟩
      obtain ⟨v, there, -, refs⟩ := place parent element found
      have member : child ∈ v.refs := by
        rw [refs]
        exact mem_filterMap.mpr ⟨operand, listed, refers⟩
      refine ⟨v.refs, ?_, member⟩
      rw [operandRefs, there]
      exact if_neg (ne_nil_of_mem member)

/-- **The search for cycles ends, and a clause is accepted exactly when each of its elements is** and
nothing that a descent from the first one meets refers back to itself. -/
theorem validateWhereClause_ok_iff (elements : List (ContentFilterElement F)) (types : TypeTree)
    (allow : Bool) (banned : List FilterOperator) :
    let validated := elements.map (validateElement types elements.length allow banned)
    (hasCycles (operandRefs validated) (elements.length + 1) 0 ∅).isSome ∧
      ((∃ filter, (validateWhereClause ⟨some elements⟩ types allow banned).2 = .ok filter) ↔
        (∀ v ∈ validated, v.element.isSome) ∧
        ∀ id, Relation.ReflTransGen (ChildOf (operandRefs validated)) id 0 →
          ¬ Relation.TransGen (ChildOf (operandRefs validated)) id id) := by
  intro validated
  have returns := hasCycles_isSome validated
  rw [length_map] at returns
  refine ⟨returns, ?_⟩
  obtain ⟨result, searched⟩ := Option.isSome_iff_exists.mp returns
  trans (∀ v ∈ validated, v.element.isSome) ∧ ∃ path, result = .ok path
  · dsimp only [validateWhereClause]
    rw [searched, ← List.all_eq_true]
    cases all : validated.all (·.element.isSome) <;> cases result <;> simp
  · refine and_congr_right fun _ => ⟨?_, fun treelike => ?_⟩
    · rintro ⟨path, rfl⟩ id below
      have ends := acc_of_search searched
      exact not_transGen_of_acc (below.head_induction_on ends fun step _ acc => acc.inv step)
    · cases result with
      | ok path => exact ⟨path, rfl⟩
      | error => exact absurd searched (search_ne_error treelike (by simp))

end AsyncOpcua.Nodes
