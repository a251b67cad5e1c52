/-
**Select clauses and the fields of an event.**

Validation reports a status for each select clause and collects the valid ones; an event is answered
with a field for each of those. The limits and the rights of the server are elsewhere.
-/

import AsyncOpcua.Nodes.FilterEvaluation

namespace AsyncOpcua.Nodes

open Types List

variable {F : FilterExternals}

structure EventFilter (F : FilterExternals) where
  selectClauses : Option (List (SimpleAttributeOperand F))
  whereClause : ContentFilter F

structure EventFilterResult where
  selectClauseResults : Option (List StatusCode)
  whereClauseResult : ContentFilterResult

structure ParsedEventFilter (F : FilterExternals) where
  contentFilter : ParsedContentFilter F
  selectClauses : List (ParsedSimpleAttributeOperand F)

structure EventFieldList (F : FilterExternals) where
  clientHandle : ℕ
  eventFields : Option (List F.Value)

def validate (eventFilter : EventFilter F) (types : TypeTree) :
    EventFilterResult × Except StatusCode (ParsedEventFilter F) :=
  let validated := (eventFilter.selectClauses.getD []).map (validateSelectClause types)
  let selectClauseResults := validated.map fun result =>
    match result with
    | .ok _ => StatusCode.Good
    | .error status => status
  let (whereClauseResult, parsedWhereClause) :=
    validateWhereClause eventFilter.whereClause types false [.relatedTo]
  (⟨if selectClauseResults.isEmpty then none else some selectClauseResults, whereClauseResult⟩,
    parsedWhereClause.map fun filter => ⟨filter, validated.filterMap Except.toOption⟩)

def getField (event : F.Item) (attr : ParsedSimpleAttributeOperand F) : F.Value :=
  F.getAttribute event attr.typeDefinitionId attr.browsePath attr.attributeId attr.indexRange

def ParsedEventFilter.evaluate (filter : ParsedEventFilter F) (event : F.Item)
    (clientHandle : ℕ) (types : TypeTree) (levels : ℕ) : Evaluation (Option (EventFieldList F)) :=
  do
    let passes ← filter.contentFilter.evaluate types event levels
    if passes then return some ⟨clientHandle, some (filter.selectClauses.map (getField event))⟩
    else return none

/-- **The fields that the client asks for:** one for each clause, which is null where the clause is
reported invalid. -/
def requestedFields (eventFilter : EventFilter F) (types : TypeTree) (event : F.Item) :
    List F.Value :=
  (eventFilter.selectClauses.getD []).map fun clause =>
    match validateSelectClause types clause with
    | .ok attr => getField event attr
    | .error _ => F.empty

theorem eventFields_of_evaluate {filter : ParsedEventFilter F} {event : F.Item}
    {clientHandle levels : ℕ} {types : TypeTree} {fields : EventFieldList F}
    (produced : filter.evaluate event clientHandle types levels = pure (some fields)) :
    fields.eventFields = some (filter.selectClauses.map (getField event)) := by
  unfold ParsedEventFilter.evaluate at produced
  rcases evaluated : filter.contentFilter.evaluate types event levels with - | (panic | passes)
  · rw [evaluated] at produced
    cases produced
  · rw [evaluated] at produced
    cases produced
  · rw [evaluated] at produced
    cases passes <;> cases produced
    rfl

theorem filterMap_toOption_eq_iff {types : TypeTree} {event : F.Item}
    (clauses : List (SimpleAttributeOperand F)) :
    ((clauses.map (validateSelectClause types)).filterMap Except.toOption).map (getField event) =
        clauses.map (fun clause =>
          match validateSelectClause types clause with
          | .ok attr => getField event attr
          | .error _ => F.empty) ↔
      ∀ clause ∈ clauses, (validateSelectClause types clause).isOk = true := by
  have fewer (clauses : List (SimpleAttributeOperand F)) :
      ((clauses.map (validateSelectClause types)).filterMap Except.toOption).length ≤
        clauses.length :=
    (length_filterMap_le _ _).trans_eq (length_map _)
  induction clauses with
  | nil => simp
  | cons clause clauses ih =>
    rw [forall_mem_cons, map_cons, map_cons]
    cases validateSelectClause types clause with
    | ok attr => simpa [Except.toOption, Except.isOk, Except.toBool] using ih
    | error status =>
      refine iff_of_false (fun same => ?_) (by simp [Except.isOk, Except.toBool])
      have := fewer clauses
      have skipped : filterMap Except.toOption
          (.error status :: clauses.map (validateSelectClause types)) =
          (clauses.map (validateSelectClause types)).filterMap Except.toOption := rfl
      have lengths := congrArg length same
      rw [skipped, length_map, length_cons, length_map] at lengths
      omega

/-- **When the fields line up with the select clauses.** -/
theorem fields_line_up_iff {eventFilter : EventFilter F} {types : TypeTree}
    {filter : ParsedEventFilter F} (accepted : (validate eventFilter types).2 = .ok filter)
    {event : F.Item} {clientHandle levels : ℕ} {fields : EventFieldList F}
    (produced : filter.evaluate event clientHandle types levels = pure (some fields)) :
    fields.eventFields = some (requestedFields eventFilter types event) ↔
      ∀ clause ∈ eventFilter.selectClauses.getD [],
        (validateSelectClause types clause).isOk = true := by
  have collected : filter.selectClauses =
      ((eventFilter.selectClauses.getD []).map (validateSelectClause types)).filterMap
        Except.toOption := by
    obtain ⟨content, -, rfl⟩ := Foundation.Machine.map_eq_ok.mp accepted
    rfl
  rw [eventFields_of_evaluate produced, Option.some.injEq, collected]
  exact filterMap_toOption_eq_iff _

def valueClause : SimpleAttributeOperand .booleans := ⟨BaseEventType, some [], 13, ()⟩

theorem fields_line_up_iff_value :
    ∃ fields : EventFieldList .booleans,
      fields.eventFields = some (requestedFields ⟨some [valueClause], ⟨none⟩⟩ .unknown true) :=
  ⟨⟨7, some [some true]⟩, (@fields_line_up_iff _ _ _ ⟨.empty, [⟨BaseEventType, [], .value, ()⟩]⟩
    rfl _ 7 1 _ rfl).mpr (by decide)⟩

/-- **A field moves up:** the field of the second clause comes in the place of the first one. -/
theorem fields_shift :
    ∃ filter fields, (validate ⟨some [⟨BaseEventType, none, 13, ()⟩, valueClause], ⟨none⟩⟩
        .unknown).2 = .ok filter ∧
      filter.evaluate true 7 .unknown 1 = pure (some fields) ∧
      fields.eventFields ≠ some (requestedFields
        ⟨some [⟨BaseEventType, none, 13, ()⟩, valueClause], ⟨none⟩⟩ .unknown true) :=
  ⟨_, ⟨7, some [some true]⟩, rfl, rfl,
    fun same => absurd (congrArg (Option.map length) same) (by decide)⟩

end AsyncOpcua.Nodes
