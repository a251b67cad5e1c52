/-
**One node of a browse.**

A node of a `Browse` or `BrowseNext` request passes the node managers one after the other and
collects references until it is full. What does not fit is left in a continuation point, whose
content is typed: a manager that takes out another manager's content drops it.

The result mask only blanks fields of what is returned; it is left out, with the fields that
nothing but the mask reads, as are diagnostics.
-/

import AsyncOpcua.Nodes.References

namespace AsyncOpcua.View

open Types Nodes List

/-- The answers of the type tree, and the identifiers that `ReferenceTypeId` enumerates. -/
structure TypeTree where
  get : NodeId → Option NodeClass
  isSubtypeOf : NodeId → NodeId → Bool
  isReferenceTypeId : UInt32 → Bool

/-- What a manager tells about a node. -/
structure NodeMetadata where
  nodeId : NodeId
  browseName : QualifiedName
  nodeClass : NodeClass

structure ReferenceDescription where
  referenceTypeId : NodeId
  isForward : Bool
  nodeId : NodeId
  browseName : QualifiedName
  nodeClass : NodeClass

def ReferenceDescription.reference (described : ReferenceDescription) : ReferenceRef :=
  ⟨described.referenceTypeId, described.nodeId, if described.isForward then .forward else .inverse⟩

def NodeMetadata.intoRefDesc (node : NodeMetadata) (isForward : Bool) (referenceTypeId : NodeId) :
    ReferenceDescription where
  referenceTypeId := referenceTypeId
  isForward := isForward
  nodeId := node.nodeId
  browseName := node.browseName
  nodeClass := node.nodeClass

structure ExternalReference where
  targetId : NodeId
  referenceTypeId : NodeId
  direction : ReferenceDirection

namespace ExternalReference

def intoReference (rf : ExternalReference) (node : NodeMetadata) : ReferenceDescription where
  referenceTypeId := rf.referenceTypeId
  isForward := rf.direction = .forward
  nodeId := rf.targetId
  browseName := node.browseName
  nodeClass := node.nodeClass

def reference (rf : ExternalReference) : ReferenceRef :=
  ⟨rf.referenceTypeId, rf.targetId, rf.direction⟩

@[simp] theorem reference_intoReference (rf : ExternalReference) (node : NodeMetadata) :
    (rf.intoReference node).reference = rf.reference := by
  obtain ⟨target, typ, direction⟩ := rf
  cases direction <;> rfl

end ExternalReference

structure BrowseDescription where
  nodeId : NodeId
  browseDirection : BrowseDirection
  referenceTypeId : NodeId
  includeSubtypes : Bool
  nodeClassMask : BitVec 32

namespace BrowseDescription

variable (description : BrowseDescription) (tree : TypeTree)

def allowsReferenceType (ty : NodeId) : Bool :=
  if description.referenceTypeId.isNull then true
  else if tree.get description.referenceTypeId ≠ some .referenceType then false
  else if description.includeSubtypes then tree.isSubtypeOf ty description.referenceTypeId
  else ty = description.referenceTypeId

def classes : BitVec 32 := description.nodeClassMask &&& 0xff

def allowsNodeClass (nodeClass : NodeClass) : Bool :=
  description.classes = 0 ∨ description.classes &&& nodeClass.value = nodeClass.value

/-- **Whether a reference is asked for.** -/
def matchesFilter (reference : ReferenceDescription) : Bool :=
  if reference.nodeId.isNull then false
  else if reference.nodeClass = .unspecified then false
  else if !reference.referenceTypeId.isNull ∧
      tree.get reference.referenceTypeId ≠ some .referenceType then false
  else if !description.allowsNodeClass reference.nodeClass then false
  else description.allowsReferenceType tree reference.referenceTypeId

theorem matchesFilter_intoReference (rf : ExternalReference) (node : NodeMetadata)
    (same : node.nodeId = rf.targetId) :
    description.matchesFilter tree (rf.intoReference node) =
      description.matchesFilter tree
        (node.intoRefDesc (rf.direction = .forward) rf.referenceTypeId) := by
  unfold ExternalReference.intoReference NodeMetadata.intoRefDesc matchesFilter
  rw [same]

end BrowseDescription

inductive ContinuationPoint where
  /-- The in-memory managers' own `BrowseContinuationPoint`, one type for all of them. -/
  | browse (nodes : List ReferenceDescription)
  | empty
  | externalReferences (items : List ReferenceDescription)

/-- A continuation point as the session keeps it. -/
structure BrowseContinuationPoint where
  nodeManagerIndex : ℕ
  continuationPoint : ContinuationPoint
  id : ByteString
  description : BrowseDescription
  maxReferencesPerNode : ℕ
  externalReferences : List ExternalReference

/-- **A node being browsed.** -/
structure BrowseNode where
  description : BrowseDescription
  references : List ReferenceDescription
  statusCode : StatusCode
  inputContinuationPoint : Option ContinuationPoint
  nextContinuationPoint : Option ContinuationPoint
  maxReferencesPerNode : ℕ
  inputIndex : ℕ
  startNodeManager : ℕ
  externalReferences : List ExternalReference

inductive AddReferenceResult where
  | added
  | rejected
  | full (reference : ReferenceDescription)

namespace BrowseNode

def new (description : BrowseDescription) (maxReferencesPerNode inputIndex : ℕ) : BrowseNode where
  description := description
  references := []
  statusCode := .BadNodeIdUnknown
  inputContinuationPoint := none
  nextContinuationPoint := none
  maxReferencesPerNode := maxReferencesPerNode
  inputIndex := inputIndex
  startNodeManager := 0
  externalReferences := []

def fromContinuationPoint (point : BrowseContinuationPoint) (inputIndex : ℕ) : BrowseNode where
  description := point.description
  references := []
  statusCode := .BadNodeIdUnknown
  inputContinuationPoint := some point.continuationPoint
  nextContinuationPoint := none
  maxReferencesPerNode := point.maxReferencesPerNode
  inputIndex := inputIndex
  startNodeManager := point.nodeManagerIndex
  externalReferences := point.externalReferences

variable (node : BrowseNode)

def setStatus (status : StatusCode) : BrowseNode := { node with statusCode := status }

def takeBrowse : Option (List ReferenceDescription) × BrowseNode :=
  let content :=
    match node.inputContinuationPoint with
    | some (.browse nodes) => some nodes
    | _ => none
  (content, { node with inputContinuationPoint := none })

def takeExternalReferences : Option (List ReferenceDescription) × BrowseNode :=
  let content :=
    match node.inputContinuationPoint with
    | some (.externalReferences items) => some items
    | _ => none
  (content, { node with inputContinuationPoint := none })

def setNextContinuationPoint (point : ContinuationPoint) : BrowseNode :=
  { node with nextContinuationPoint := some point }

def remaining : ℕ :=
  if node.maxReferencesPerNode ≤ node.references.length then 0
  else node.maxReferencesPerNode - node.references.length

theorem remaining_eq : node.remaining = node.maxReferencesPerNode - node.references.length := by
  unfold remaining
  split
  · next full => exact (Nat.sub_eq_zero_of_le full).symm
  · rfl

def addUnchecked (reference : ReferenceDescription) : BrowseNode :=
  { node with references := node.references ++ [reference] }

def add (tree : TypeTree) (reference : ReferenceDescription) : AddReferenceResult × BrowseNode :=
  if !node.description.matchesFilter tree reference then (.rejected, node)
  else if 0 < node.remaining then (.added, node.addUnchecked reference)
  else (.full reference, node)

def isCompleted : Bool := node.remaining = 0 ∨ node.nextContinuationPoint.isSome

def pushExternalReference (reference : ExternalReference) : BrowseNode :=
  { node with externalReferences := node.externalReferences ++ [reference] }

/-- Add from the front of a queue while there is room; what is left of the queue comes back. -/
def drain : BrowseNode → List ReferenceDescription → BrowseNode × List ReferenceDescription
  | node, [] => (node, [])
  | node, first :: rest =>
    if node.remaining = 0 then (node, first :: rest) else (node.addUnchecked first).drain rest

/-- One external reference, and the items that no longer fit. -/
def resolveReference (tree : TypeTree) (resolvedNodes : NodeId → Option NodeMetadata)
    (state : BrowseNode × List ReferenceDescription) (rf : ExternalReference) :
    BrowseNode × List ReferenceDescription :=
  match resolvedNodes rf.targetId with
  | none => state
  | some found =>
    let rf := rf.intoReference found
    if !state.1.description.matchesFilter tree rf then state
    else if 0 < state.1.remaining then (state.1.addUnchecked rf, state.2)
    else (state.1, state.2 ++ [rf])

/-- Add the external references whose targets were resolved; the rest goes into a point. -/
def resolveExternalReferences (tree : TypeTree) (resolvedNodes : NodeId → Option NodeMetadata) :
    BrowseNode :=
  let (node, items) :=
    node.externalReferences.foldl (resolveReference tree resolvedNodes)
      ({ node with externalReferences := [] }, [])
  if items.isEmpty then node else node.setNextContinuationPoint (.externalReferences items)

def continuation (nodeManagerIndex nodeManagerCount : ℕ) (id : ByteString) :
    Option BrowseContinuationPoint :=
  let inner :=
    match node.nextContinuationPoint with
    | some point => some (point, nodeManagerIndex)
    | none =>
      -- A node that is full without an overflow goes on at the next manager.
      if nodeManagerIndex < nodeManagerCount - 1 then some (.empty, nodeManagerIndex + 1) else none
  inner.map fun (point, nodeManagerIndex) =>
    { nodeManagerIndex
      continuationPoint := point
      id
      description := node.description
      maxReferencesPerNode := node.maxReferencesPerNode
      externalReferences := node.externalReferences }

theorem continuation_eq_none {node : BrowseNode} {nodeManagerIndex nodeManagerCount : ℕ}
    (nothing : node.nextContinuationPoint = none)
    (last : ¬ nodeManagerIndex < nodeManagerCount - 1) (id : ByteString) :
    node.continuation nodeManagerIndex nodeManagerCount id = none := by
  unfold continuation
  rw [nothing]
  rw [if_neg last]
  rfl

/-! ### What the operations do -/

def extend (more : List ReferenceDescription) : BrowseNode :=
  { node with references := node.references ++ more }

@[simp] theorem extend_nil : node.extend [] = node := by
  unfold extend
  rw [append_nil]

@[simp] theorem extend_extend (more further : List ReferenceDescription) :
    (node.extend more).extend further = node.extend (more ++ further) := by
  unfold extend
  rw [append_assoc]

@[simp] theorem remaining_extend (more : List ReferenceDescription) :
    (node.extend more).remaining = node.remaining - more.length := by
  rw [remaining_eq, remaining_eq]
  simp only [extend, length_append]
  omega

theorem addUnchecked_eq (reference : ReferenceDescription) :
    node.addUnchecked reference = node.extend [reference] := rfl

/-- **A node takes as much of a queue as it has room for.** -/
theorem drain_eq (queue : List ReferenceDescription) :
    node.drain queue = (node.extend (queue.take node.remaining), queue.drop node.remaining) := by
  induction queue generalizing node with
  | nil => simp [drain]
  | cons first rest ih =>
    unfold drain
    split
    · next full => rw [full, take_zero, drop_zero, extend_nil]
    · next room =>
      obtain ⟨more, more_eq⟩ := Nat.exists_eq_succ_of_ne_zero room
      rw [ih, addUnchecked_eq, remaining_extend, extend_extend, more_eq]
      rfl

@[simp] theorem inputIndex_add (tree : TypeTree) (reference : ReferenceDescription) :
    (node.add tree reference).2.inputIndex = node.inputIndex := by
  unfold add
  split
  · rfl
  · split
    · rfl
    · rfl

def referTo (more : List ExternalReference) : BrowseNode :=
  { node with externalReferences := node.externalReferences ++ more }

/-- One more thing found: it is added, left over, or the reference of another manager's node. -/
def settle (state : BrowseNode × List ReferenceDescription) :
    ReferenceDescription ⊕ ExternalReference → BrowseNode × List ReferenceDescription
  | .inl found =>
    if 0 < state.1.remaining then (state.1.addUnchecked found, state.2)
    else (state.1, state.2 ++ [found])
  | .inr rf => (state.1.pushExternalReference rf, state.2)

section

variable {state : BrowseNode × List ReferenceDescription} (found : ReferenceDescription)

theorem settle_room (room : 0 < state.1.remaining) :
    settle state (.inl found) = (state.1.extend [found], state.2) := if_pos room

theorem settle_full (full : state.1.remaining = 0) :
    settle state (.inl found) = (state.1, state.2 ++ [found]) :=
  if_neg (full ▸ Nat.lt_irrefl 0)

end

@[simp] theorem description_settle (state : BrowseNode × List ReferenceDescription)
    (item : ReferenceDescription ⊕ ExternalReference) :
    (settle state item).1.description = state.1.description := by
  cases item with
  | inl found =>
    rcases Nat.eq_zero_or_pos state.1.remaining with full | room
    · rw [settle_full found full]
    · rw [settle_room found room]
      rfl
  | inr rf => rfl

/-- **What is found fills the node, in order; the rest is left over.** -/
theorem foldl_settle (spilt : List ReferenceDescription)
    (items : List (ReferenceDescription ⊕ ExternalReference)) :
    items.foldl settle (node, spilt) =
      let found := items.filterMap Sum.getLeft?
      ((node.extend (found.take node.remaining)).referTo (items.filterMap Sum.getRight?),
        spilt ++ found.drop node.remaining) := by
  induction items generalizing node spilt with
  | nil => simp [referTo, extend]
  | cons item items ih =>
    rw [foldl_cons]
    cases item with
    | inr rf =>
      have room : (node.pushExternalReference rf).remaining = node.remaining := rfl
      rw [settle, ih, room]
      simp [pushExternalReference, referTo, extend, filterMap_cons]
    | inl found =>
      rcases Nat.eq_zero_or_pos node.remaining with full | room
      · rw [settle_full found full, ih]
        simp [full, filterMap_cons]
      · obtain ⟨more, more_eq⟩ := Nat.exists_eq_succ_of_ne_zero (Nat.pos_iff_ne_zero.mp room)
        rw [settle_room found room, ih]
        simp [more_eq, filterMap_cons]

theorem foldl_eq_settle {α : Type} {description : BrowseDescription}
    {step : BrowseNode × List ReferenceDescription → α → BrowseNode × List ReferenceDescription}
    {find : α → Option (ReferenceDescription ⊕ ExternalReference)}
    (settles : ∀ state a, state.1.description = description →
      step state a = ((find a).map (settle state)).getD state)
    (walk : List α) (state : BrowseNode × List ReferenceDescription)
    (here : state.1.description = description) :
    walk.foldl step state = (walk.filterMap find).foldl settle state := by
  induction walk generalizing state with
  | nil => rfl
  | cons a walk ih =>
    rw [foldl_cons, settles state a here, filterMap_cons]
    cases find a with
    | none => exact ih state here
    | some item => exact ih _ ((description_settle state item).trans here)

def resolve (description : BrowseDescription) (tree : TypeTree)
    (resolvedNodes : NodeId → Option NodeMetadata) (rf : ExternalReference) :
    Option ReferenceDescription :=
  ((resolvedNodes rf.targetId).map rf.intoReference).filter (description.matchesFilter tree)

section

variable (tree : TypeTree) (resolvedNodes : NodeId → Option NodeMetadata)

/-- **The resolved references fill the node; an overflow goes into a point.** -/
theorem resolveExternalReferences_eq :
    node.resolveExternalReferences tree resolvedNodes =
      let found := node.externalReferences.filterMap (resolve node.description tree resolvedNodes)
      let filled := { node with externalReferences := [] }.extend (found.take node.remaining)
      if (found.drop node.remaining).isEmpty then filled
      else filled.setNextContinuationPoint (.externalReferences (found.drop node.remaining)) := by
  have settles (state : BrowseNode × List ReferenceDescription) (rf : ExternalReference)
      (here : state.1.description = node.description) :
      resolveReference tree resolvedNodes state rf =
        (((resolve node.description tree resolvedNodes rf).map .inl).map (settle state)).getD
          state := by
    unfold resolveReference resolve
    cases resolvedNodes rf.targetId with
    | none => rfl
    | some found =>
      rw [here]
      cases asked : node.description.matchesFilter tree (rf.intoReference found) <;>
        simp [asked, Option.filter, settle]
  have lefts : ((node.externalReferences.filterMap fun rf =>
      (resolve node.description tree resolvedNodes rf).map
        (.inl : _ → ReferenceDescription ⊕ ExternalReference)).filterMap Sum.getLeft?) =
      node.externalReferences.filterMap (resolve node.description tree resolvedNodes) := by
    rw [filterMap_filterMap]
    congr 1
    funext rf
    cases resolve node.description tree resolvedNodes rf <;> rfl
  have rights : ((node.externalReferences.filterMap fun rf =>
      (resolve node.description tree resolvedNodes rf).map
        (.inl : _ → ReferenceDescription ⊕ ExternalReference)).filterMap Sum.getRight?) = [] := by
    rw [filterMap_filterMap, filterMap_eq_nil_iff]
    intro rf _
    cases resolve node.description tree resolvedNodes rf <;> rfl
  have room : ({ node with externalReferences := [] } : BrowseNode).remaining = node.remaining :=
    rfl
  unfold resolveExternalReferences
  rw [foldl_eq_settle settles _ _ rfl, foldl_settle, lefts, rights, room]
  simp [referTo, extend]

@[simp] theorem inputIndex_resolveExternalReferences :
    (node.resolveExternalReferences tree resolvedNodes).inputIndex = node.inputIndex := by
  rw [resolveExternalReferences_eq]
  dsimp only
  split <;> rfl

@[simp] theorem statusCode_resolveExternalReferences :
    (node.resolveExternalReferences tree resolvedNodes).statusCode = node.statusCode := by
  rw [resolveExternalReferences_eq]
  dsimp only
  split <;> rfl

end

theorem resolveExternalReferences_congr (tree : TypeTree)
    {resolvedNodes others : NodeId → Option NodeMetadata}
    (same : ∀ rf ∈ node.externalReferences, resolvedNodes rf.targetId = others rf.targetId) :
    node.resolveExternalReferences tree resolvedNodes =
      node.resolveExternalReferences tree others := by
  have found : node.externalReferences.filterMap (resolve node.description tree resolvedNodes) =
      node.externalReferences.filterMap (resolve node.description tree others) := by
    refine filterMap_congr fun rf member => ?_
    unfold resolve
    rw [same rf member]
  rw [resolveExternalReferences_eq, resolveExternalReferences_eq, found]

end BrowseNode

end AsyncOpcua.View
