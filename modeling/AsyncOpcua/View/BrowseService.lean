/-
**The services `Browse` and `BrowseNext`.**

A request's nodes pass the node managers in order. A node that is full is answered on the spot and
leaves the others; its continuation point is kept by the session under an identifier drawn at
random. The nodes that passed all managers get the references to other managers' nodes, and are
answered last. An answer that is missing at the end is one that `Option::unwrap` panics on.

Sessions are taken as they are between two requests. The time after which a continuation point is
dropped is left out.
-/

import AsyncOpcua.Foundation.KeyedMap
import AsyncOpcua.Foundation.Sweep
import AsyncOpcua.View.InMemoryBrowse

namespace AsyncOpcua.View

open Types Foundation

structure Session where
  browseContinuationPoints : KeyedMap ByteString BrowseContinuationPoint
  maxBrowseContinuationPoints : ℕ

namespace Session

def addBrowseContinuationPoint (session : Session) (point : BrowseContinuationPoint) :
    Option Session :=
  if session.maxBrowseContinuationPoints ≤ KeyedMap.size session.browseContinuationPoints then none
  else
    some { session with
      browseContinuationPoints := session.browseContinuationPoints.insert point.id point }

def removeBrowseContinuationPoint (session : Session) (id : ByteString) :
    Option BrowseContinuationPoint × Session :=
  (session.browseContinuationPoints.lookup id,
    { session with browseContinuationPoints := session.browseContinuationPoints.erase id })

end Session

structure BrowseResult where
  statusCode : StatusCode
  continuationPoint : ByteString
  references : Option (List ReferenceDescription)

structure BrowseRequest where
  viewId : NodeId
  requestedMaxReferencesPerNode : UInt32
  nodesToBrowse : List BrowseDescription

structure BrowseNextRequest where
  releaseContinuationPoints : Bool
  continuationPoints : List ByteString

structure Server where
  nodeManagers : List InMemoryNodeManager
  typeTree : TypeTree
  maxNodesPerBrowse : ℕ
  maxReferencesPerBrowseNode : ℕ

/-- The answers so far, by the position in the request, and the session. -/
abbrev Answers := List (Option BrowseResult) × Session

/-- The nodes of a request while the managers are gone through. -/
structure Round where
  /-- Nodes whose continuation point is of a later manager. -/
  nodes : List BrowseNode
  batchNodes : List BrowseNode
  answers : Answers

namespace Server

variable (server : Server) (draws : ℕ → List UInt8)

def nodeManagerCount : ℕ := server.nodeManagers.length

/-- `into_result`, and the answer entered. `draws` are the random identifiers of the request. -/
def storeResult (nodeManagerIndex : ℕ) (answers : Answers) (node : BrowseNode) : Answers :=
  let result : BrowseResult := ⟨node.statusCode, none, some node.references⟩
  let (result, session) :=
    match node.continuation nodeManagerIndex server.nodeManagerCount
        (some (draws node.inputIndex)) with
    | none => (result, answers.2)
    | some point =>
      match answers.2.addBrowseContinuationPoint point with
      | some session => ({ result with continuationPoint := point.id }, session)
      | none => ({ result with statusCode := .BadNoContinuationPoints }, answers.2)
  (answers.1.set node.inputIndex (some result), session)

def turn (index : ℕ) (manager : InMemoryNodeManager) (round : Round) : Round :=
  let (started, nodes) := swapSweep (·.startNodeManager = index) round.nodes
  let batchNodes := (round.batchNodes ++ started).map (manager.browse server.typeTree)
  let (completed, batchNodes) := swapSweep BrowseNode.isCompleted batchNodes
  ⟨nodes, batchNodes, completed.foldl (server.storeResult draws index) round.answers⟩

def turns : ℕ → List InMemoryNodeManager → Round → Round
  | _, [], round => round
  | index, manager :: managers, round =>
    let round := server.turn draws index manager round
    if round.nodes.isEmpty && round.batchNodes.isEmpty then round
    else turns (index + 1) managers round

/-- `resolve_external_references` for one node: a later manager that serves its namespace takes
precedence. -/
def resolveNode (id : NodeId) : Option NodeMetadata :=
  server.nodeManagers.foldl
    (fun item manager =>
      if manager.ownsNode id then manager.resolveExternalReference id item else item) none

def nodeMap (nodes : List BrowseNode) (id : NodeId) : Option NodeMetadata :=
  let externalRefs := (nodes.flatMap fun node => node.externalReferences.map (·.targetId)).dedup
  (externalRefs.filterMap server.resolveNode).find? (·.nodeId = id)

def addExternalReferences (node : BrowseNode) : BrowseNode :=
  match node.takeExternalReferences with
  | (none, node) => node
  | (some items, node) =>
    let add (state : BrowseNode × List ReferenceDescription) (rf : ReferenceDescription) :=
      if 0 < state.1.remaining then ((state.1.add server.typeTree rf).2, state.2)
      else (state.1, state.2 ++ [rf])
    let (node, items) := items.foldl add (node, [])
    if items.isEmpty then node else node.setNextContinuationPoint (.externalReferences items)

def finish (nodes batchNodes : List BrowseNode) (answers : Answers) : Answers :=
  let nodes := nodes.map server.addExternalReferences ++ batchNodes
  let nodeMap := server.nodeMap nodes
  (nodes.map fun node => node.resolveExternalReferences server.typeTree nodeMap).foldl
    (server.storeResult draws (server.nodeManagerCount - 1)) answers

/-- The answer to a node that is not browsed. -/
def refusal (description : BrowseDescription) : Option BrowseResult :=
  if description.browseDirection = .invalid then some ⟨.BadBrowseDirectionInvalid, none, none⟩
  else if !description.referenceTypeId.isNull ∧
      server.typeTree.get description.referenceTypeId ≠ some .referenceType then
    some ⟨.BadReferenceTypeIdInvalid, none, none⟩
  else none

def maxReferencesPerNode (request : BrowseRequest) : ℕ :=
  if request.requestedMaxReferencesPerNode = 0 then server.maxReferencesPerBrowseNode
  else min server.maxReferencesPerBrowseNode request.requestedMaxReferencesPerNode.toNat

def startNodes (request : BrowseRequest) : List BrowseNode :=
  (request.nodesToBrowse.zipIdx.filter fun (description, _) =>
    (server.refusal description).isNone).map fun (description, index) =>
      .new description (server.maxReferencesPerNode request) index

/-- The service `Browse`: a fault, or the answers. -/
def browse (session : Session) (request : BrowseRequest) :
    Except StatusCode (List (Option BrowseResult)) × Session :=
  if request.nodesToBrowse.isEmpty then (.error .BadNothingToDo, session)
  else if server.maxNodesPerBrowse < request.nodesToBrowse.length then
    (.error .BadTooManyOperations, session)
  else if !request.viewId.isNull then (.error .BadViewIdUnknown, session)
  else
    let nodes := server.startNodes request
    let results := request.nodesToBrowse.map server.refusal
    let round := server.turns draws 0 server.nodeManagers ⟨[], nodes, (results, session)⟩
    let (results, session) := server.finish draws round.batchNodes [] round.answers
    (.ok results, session)

end Server

def takePoints : ℕ → List ByteString → Session → List BrowseNode × Answers
  | _, [], session => ([], [], session)
  | index, id :: ids, session =>
    match session.removeBrowseContinuationPoint id with
    | (none, session) =>
      let (nodes, results, session) := takePoints (index + 1) ids session
      (nodes, some ⟨.BadContinuationPointInvalid, none, none⟩ :: results, session)
    | (some point, session) =>
      let (nodes, results, session) := takePoints (index + 1) ids session
      (.fromContinuationPoint point index :: nodes, none :: results, session)

namespace Server

variable (server : Server) (draws : ℕ → List UInt8)

def browseNext (session : Session) (request : BrowseNextRequest) :
    Except StatusCode (List (Option BrowseResult)) × Session :=
  if request.continuationPoints.isEmpty then (.error .BadNothingToDo, session)
  else if server.maxNodesPerBrowse < request.continuationPoints.length then
    (.error .BadTooManyOperations, session)
  else
    let (nodes, answers) := takePoints 0 request.continuationPoints session
    if request.releaseContinuationPoints then (.ok [], answers.2)
    else
      let round := server.turns draws 0 server.nodeManagers ⟨nodes, [], answers⟩
      let (results, session) := server.finish draws round.nodes round.batchNodes round.answers
      (.ok results, session)

/-! ### One node on its own -/

/-- A node's way past the managers: where it is full, or what it is after the last. -/
def pass : ℕ → List InMemoryNodeManager → BrowseNode → (ℕ × BrowseNode) ⊕ BrowseNode
  | _, [], node => .inr node
  | index, manager :: managers, node =>
    let node := manager.browse server.typeTree node
    if node.isCompleted then .inl (index, node) else pass (index + 1) managers node

def serve (node : BrowseNode) : ℕ × BrowseNode :=
  match server.pass node.startNodeManager (server.nodeManagers.drop node.startNodeManager) node with
  | .inl completed => completed
  | .inr node =>
    (server.nodeManagerCount - 1,
      node.resolveExternalReferences server.typeTree server.resolveNode)

end Server

end AsyncOpcua.View
