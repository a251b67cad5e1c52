/-
**The browse of an in-memory node manager.**

A manager goes through the references that its address space has for a node. A target in the address
space is described, a target of a namespace that the manager does not serve is left to the other
managers, and one that is missing from a namespace it serves is skipped.
-/

import AsyncOpcua.View.BrowseNode

namespace AsyncOpcua.View

open Types Nodes List BrowseNode

/-- A node of an address space; `mayBrowse` is whether roles and access restrictions let the user of
the session browse it. -/
structure Node where
  nodeClass : NodeClass
  browseName : QualifiedName
  mayBrowse : Bool

/-- **An address space,** the references of a node in the order in which its hash sets are walked.
-/
structure AddressSpace where
  nodeMap : NodeId → Option Node
  bySource : NodeId → List Reference
  byTarget : NodeId → List Reference
  bySource_nodup : ∀ node, (bySource node).Nodup
  byTarget_nodup : ∀ node, (byTarget node).Nodup

namespace AddressSpace

variable (space : AddressSpace) (tree : TypeTree) (source : NodeId)
  (filter : Option (NodeId × Bool)) (direction : BrowseDirection)

def findNode (node : NodeId) : Option Node := space.nodeMap node

/-- The references as the two indexes. -/
def references : References :=
  ⟨fun node => some (space.bySource node).toFinset, fun node => some (space.byTarget node).toFinset⟩

def findReferences : List ReferenceRef :=
  let report (direction : ReferenceDirection) (rf : Reference) : ReferenceRef :=
    ⟨rf.referenceType, rf.targetNode, direction⟩
  let forward :=
    if direction = .both ∨ direction = .forward then space.bySource source else []
  let inverse :=
    if direction = .both ∨ direction = .inverse then space.byTarget source else []
  (forward.map (report .forward) ++ inverse.map (report .inverse)).filter fun rf =>
    References.passes tree.isSubtypeOf filter rf.referenceType

variable {space tree source filter direction}

/-- **A walk reports what the two indexes list,** in some order. -/
theorem toFinset_findReferences :
    (space.findReferences tree source filter direction).toFinset =
      space.references.findReferences tree.isSubtypeOf source filter direction := by
  ext rf
  unfold findReferences References.findReferences references ReferenceMap.of
  split_ifs <;> simp [and_comm, and_or_left]

end AddressSpace

structure InMemoryNodeManager where
  addressSpace : AddressSpace
  namespaces : List UInt16

namespace InMemoryNodeManager

variable (manager : InMemoryNodeManager) (tree : TypeTree)

def ownsNode (id : NodeId) : Bool := manager.namespaces.contains id.namespaceIndex

def getReference (targetNodeId : NodeId) (targetNode : Node) : NodeMetadata where
  nodeId := targetNodeId
  browseName := targetNode.browseName
  nodeClass := targetNode.nodeClass

def canBrowseTarget (targetNode : Node) : Bool := targetNode.mayBrowse

def browseReference (state : BrowseNode × List ReferenceDescription) (reference : ReferenceRef) :
    BrowseNode × List ReferenceDescription :=
  if reference.targetNode.isNull then state
  else
    match manager.addressSpace.findNode reference.targetNode with
    | none =>
      if manager.namespaces.contains reference.targetNode.namespaceIndex then state
      else
        (state.1.pushExternalReference
          ⟨reference.targetNode, reference.referenceType, reference.direction⟩, state.2)
    | some targetNode =>
      if !canBrowseTarget targetNode then state
      else
        let refDesc :=
          (getReference reference.targetNode targetNode).intoRefDesc
            (reference.direction = .forward) reference.referenceType
        match state.1.add tree refDesc with
        | (.full c, node) => (node, state.2 ++ [c])
        | (_, node) => (node, state.2)

/-- The types that the address space filters by. A type that is not in the enumeration of the
standard ones is left to the filter of the node. -/
def referenceFilter (description : BrowseDescription) : Option (NodeId × Bool) :=
  if description.referenceTypeId.isNull then none
  else
    match description.referenceTypeId with
    | ⟨0, .numeric id⟩ =>
      if tree.isReferenceTypeId id then
        some (description.referenceTypeId, description.includeSubtypes)
      else none
    | _ => none

def browseNode (node : BrowseNode) : BrowseNode :=
  let references :=
    manager.addressSpace.findReferences tree node.description.nodeId
      (referenceFilter tree node.description) node.description.browseDirection
  let (node, nodes) := references.foldl (manager.browseReference tree) (node, [])
  if nodes.isEmpty then node else node.setNextContinuationPoint (.browse nodes)

def browse (node : BrowseNode) : BrowseNode :=
  if node.description.nodeId.isNull then node
  else
    match (node.setStatus .Good).takeBrowse with
    | (some nodes, node) =>
      let (node, left) := node.drain nodes.reverse
      if left.isEmpty then node else node.setNextContinuationPoint (.browse left.reverse)
    | (none, node) => manager.browseNode tree node

/-- `resolve_external_references`, for one of the requests; an earlier result is kept if the manager
has none. -/
def resolveExternalReference (nodeId : NodeId) (item : Option NodeMetadata) : Option NodeMetadata :=
  match manager.addressSpace.findNode nodeId with
  | none => item
  | some targetNode =>
    if !canBrowseTarget targetNode then item else some (getReference nodeId targetNode)

/-! ### What a manager finds -/

/-- What is found of a reference: a description to return, or a reference to leave to others. -/
def find (description : BrowseDescription) (reference : ReferenceRef) :
    Option (ReferenceDescription ⊕ ExternalReference) :=
  if reference.targetNode.isNull then none
  else
    match manager.addressSpace.findNode reference.targetNode with
    | none =>
      if manager.namespaces.contains reference.targetNode.namespaceIndex then none
      else some (.inr ⟨reference.targetNode, reference.referenceType, reference.direction⟩)
    | some targetNode =>
      let refDesc :=
        (getReference reference.targetNode targetNode).intoRefDesc
          (reference.direction = .forward) reference.referenceType
      if canBrowseTarget targetNode && description.matchesFilter tree refDesc then
        some (.inl refDesc)
      else none

def walk (description : BrowseDescription) : List ReferenceRef :=
  manager.addressSpace.findReferences tree description.nodeId (referenceFilter tree description)
    description.browseDirection

/-- **The references to the manager's own nodes.** -/
def locals (description : BrowseDescription) : List ReferenceDescription :=
  ((manager.walk tree description).filterMap (manager.find tree description)).filterMap Sum.getLeft?

/-- **The references that the manager leaves to the others.** -/
def externals (description : BrowseDescription) : List ExternalReference :=
  ((manager.walk tree description).filterMap (manager.find tree description)).filterMap
    Sum.getRight?

variable {manager tree}

@[simp] theorem reference_refDesc (reference : ReferenceRef) (target : Node) :
    ((getReference reference.targetNode target).intoRefDesc (reference.direction = .forward)
      reference.referenceType).reference = reference := by
  obtain ⟨typ, target, direction⟩ := reference
  cases direction <;> rfl

variable {description : BrowseDescription} {reference : ReferenceRef}

theorem mem_walk (walked : reference ∈ manager.walk tree description) :
    reference ∈ manager.addressSpace.findReferences tree description.nodeId none
      description.browseDirection := by
  unfold walk AddressSpace.findReferences at walked
  unfold AddressSpace.findReferences
  rw [mem_filter] at walked ⊢
  exact ⟨walked.1, rfl⟩

theorem mem_locals {described : ReferenceDescription} :
    described ∈ manager.locals tree description ↔
      ∃ reference ∈ manager.walk tree description,
        manager.find tree description reference = some (.inl described) := by
  unfold locals
  rw [filterMap_filterMap, mem_filterMap]
  simp only [Option.bind_eq_some_iff, Sum.getLeft?_eq_some_iff, exists_eq_right]

theorem mem_externals {rf : ExternalReference} :
    rf ∈ manager.externals tree description ↔
      ∃ reference ∈ manager.walk tree description,
        manager.find tree description reference = some (.inr rf) := by
  unfold externals
  rw [filterMap_filterMap, mem_filterMap]
  simp only [Option.bind_eq_some_iff, Sum.getRight?_eq_some_iff, exists_eq_right]

/-- **What is described:** a reference to one of the manager's nodes that is asked for and that the
user may browse. -/
theorem find_eq_inl {described : ReferenceDescription}
    (found : manager.find tree description reference = some (.inl described)) :
    ∃ target, manager.addressSpace.findNode reference.targetNode = some target ∧
      canBrowseTarget target = true ∧ description.matchesFilter tree described = true ∧
      described = (getReference reference.targetNode target).intoRefDesc
        (reference.direction = .forward) reference.referenceType := by
  unfold find at found
  split at found
  · cases found
  · split at found
    · split at found
      all_goals cases found
    · next target there =>
      dsimp only at found
      split at found
      · next asked =>
        rw [Bool.and_eq_true] at asked
        cases found
        exact ⟨target, there, asked.1, asked.2, rfl⟩
      · cases found

/-- **What is left to the others:** a reference to a node of a namespace that the manager does not
serve. -/
theorem find_eq_inr {rf : ExternalReference}
    (found : manager.find tree description reference = some (.inr rf)) :
    manager.addressSpace.findNode reference.targetNode = none ∧
      manager.ownsNode reference.targetNode = false ∧
      rf = ⟨reference.targetNode, reference.referenceType, reference.direction⟩ := by
  unfold find at found
  split at found
  · cases found
  · split at found
    · next missing =>
      split at found
      · cases found
      · next foreign =>
        cases found
        exact ⟨missing, Bool.eq_false_of_not_eq_true foreign, rfl⟩
    · dsimp only at found
      split at found
      all_goals cases found

theorem browseReference_eq_settle (state : BrowseNode × List ReferenceDescription)
    (reference : ReferenceRef) (here : state.1.description = description) :
    manager.browseReference tree state reference =
      ((manager.find tree description reference).map (settle state)).getD state := by
  unfold browseReference find
  split
  · rfl
  cases manager.addressSpace.findNode reference.targetNode with
  | none =>
    dsimp only
    split <;> rfl
  | some targetNode =>
    dsimp only
    cases canBrowseTarget targetNode with
    | false => rfl
    | true =>
      rw [← here]
      unfold add
      cases asked : state.1.description.matchesFilter tree
          ((getReference reference.targetNode targetNode).intoRefDesc
            (reference.direction = .forward) reference.referenceType) with
      | false => rfl
      | true =>
        rcases Nat.eq_zero_or_pos state.1.remaining with full | room
        · simp [full, settle_full]
        · simp [room, settle]

theorem browseNode_eq (node : BrowseNode) :
    manager.browseNode tree node =
      let found := manager.locals tree node.description
      let filled :=
        (node.extend (found.take node.remaining)).referTo (manager.externals tree node.description)
      if (found.drop node.remaining).isEmpty then filled
      else filled.setNextContinuationPoint (.browse (found.drop node.remaining)) := by
  have walked := foldl_eq_settle (@browseReference_eq_settle manager tree _)
    (manager.walk tree node.description) (node, []) rfl
  rw [foldl_settle] at walked
  dsimp only at walked
  unfold browseNode
  dsimp only
  rw [show manager.addressSpace.findReferences tree node.description.nodeId
    (referenceFilter tree node.description) node.description.browseDirection =
      manager.walk tree node.description from rfl, walked]
  rfl

def queue (manager : InMemoryNodeManager) (tree : TypeTree) (description : BrowseDescription) :
    Option ContinuationPoint → List ReferenceDescription
  | some (.browse nodes) => nodes.reverse
  | _ => manager.locals tree description

/-- The references to other managers' nodes that the queue comes with. -/
def fresh (manager : InMemoryNodeManager) (tree : TypeTree) (description : BrowseDescription) :
    Option ContinuationPoint → List ExternalReference
  | some (.browse _) => []
  | _ => manager.externals tree description

/-- What is stored of the rest of the queue. -/
def leftOver : Option ContinuationPoint → List ReferenceDescription → List ReferenceDescription
  | some (.browse _), rest => rest.reverse
  | _, rest => rest

theorem leftOver_perm (input : Option ContinuationPoint) (rest : List ReferenceDescription) :
    (leftOver input rest).reverse.Perm rest := by
  unfold leftOver
  split
  · rw [reverse_reverse]
  · exact reverse_perm rest

theorem browse_eq (node : BrowseNode) (valid : node.description.nodeId.isNull = false) :
    manager.browse tree node =
      let queue := manager.queue tree node.description node.inputContinuationPoint
      let filled : BrowseNode :=
        { node with
          statusCode := .Good
          inputContinuationPoint := none
          references := node.references ++ queue.take node.remaining
          externalReferences :=
            node.externalReferences ++
              manager.fresh tree node.description node.inputContinuationPoint }
      if (queue.drop node.remaining).isEmpty then filled
      else
        filled.setNextContinuationPoint
          (.browse (leftOver node.inputContinuationPoint (queue.drop node.remaining))) := by
  unfold browse takeBrowse
  rw [valid, if_neg Bool.false_ne_true]
  rcases input : node.inputContinuationPoint with _ | nodes | _ | items
  case some.browse =>
    simp only [setStatus, input, drain_eq, queue, fresh, leftOver]
    rw [append_nil]
    rfl
  all_goals
    simp only [setStatus, input]
    exact browseNode_eq _

@[simp] theorem inputIndex_browse (node : BrowseNode) :
    (manager.browse tree node).inputIndex = node.inputIndex := by
  cases null : node.description.nodeId.isNull with
  | true =>
    unfold browse
    rw [null, if_pos rfl]
  | false =>
    rw [browse_eq node null]
    dsimp only
    split <;> rfl

theorem inputContinuationPoint_browse {node : BrowseNode}
    (nothing : node.inputContinuationPoint = none) :
    (manager.browse tree node).inputContinuationPoint = none := by
  cases null : node.description.nodeId.isNull with
  | true =>
    unfold browse
    rw [null, if_pos rfl]
    exact nothing
  | false =>
    rw [browse_eq node null]
    dsimp only
    split <;> rfl

end InMemoryNodeManager

end AsyncOpcua.View
