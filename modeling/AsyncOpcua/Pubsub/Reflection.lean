/-
**Concurrent Methods, and the nodes that reflect the configuration.**

A Method changes the connections under the manager's lock. It then passes its snapshot of them to
the update callback, and after that it deletes and adds nodes under the address space's lock.
Between these sections other Methods have theirs.

* `ReflectionWorld`, `reflectionMachine` — the sections of any number of calls.
-/

import AsyncOpcua.Pubsub.ConfigRemovals

namespace AsyncOpcua.Pubsub

open Foundation Option ConfigCall List.Subset ReaderGroupConfig
open Types hiding Variant DataValue

/-! ### Nodes -/

def datasetReaderPropertyNodeId (name : String) (namespaceIndex : UInt16) (connectionId : String)
    (id : UInt16) : NodeId :=
  stringNodeId namespaceIndex
    ("DataSetReader:" ++ connectionId ++ ":" ++ id.toNat.repr ++ ":" ++ name)

def datasetReaderTargetCountPropertyNodeId := datasetReaderPropertyNodeId "TargetVariableCount"
def datasetReaderStatePropertyNodeId := datasetReaderPropertyNodeId "ReaderState"
def datasetReaderAcceptedCountPropertyNodeId := datasetReaderPropertyNodeId "AcceptedCount"
def datasetReaderFilteredCountPropertyNodeId := datasetReaderPropertyNodeId "FilteredCount"
def datasetReaderDroppedCountPropertyNodeId := datasetReaderPropertyNodeId "DroppedCount"

variable (namespaceIndex : UInt16)

def datasetReaderStatusNodes (connectionId : String) (id : UInt16) : List NodeId :=
  [datasetReaderTargetCountPropertyNodeId namespaceIndex connectionId id,
    datasetReaderStatePropertyNodeId namespaceIndex connectionId id,
    datasetReaderAcceptedCountPropertyNodeId namespaceIndex connectionId id,
    datasetReaderFilteredCountPropertyNodeId namespaceIndex connectionId id,
    datasetReaderDroppedCountPropertyNodeId namespaceIndex connectionId id]

def DataSetWriterConfig.nodes (connectionId : String)
    (writer : DataSetWriterConfig) : List NodeId :=
  [datasetWriterNodeId namespaceIndex connectionId writer.datasetWriterId,
    datasetWriterIdPropertyNodeId namespaceIndex connectionId writer.datasetWriterId]

def WriterGroupConfig.nodes (namespaceIndex : UInt16) (connectionId : String)
    (group : WriterGroupConfig) : List NodeId :=
  writerGroupNodeId namespaceIndex connectionId group.writerGroupId ::
    writerGroupIdPropertyNodeId namespaceIndex connectionId group.writerGroupId ::
    group.datasetWriters.flatMap (·.nodes namespaceIndex connectionId)

def DataSetReaderConfig.nodes (connectionId : String)
    (reader : DataSetReaderConfig) : List NodeId :=
  datasetReaderNodeId namespaceIndex connectionId reader.datasetReaderId ::
    datasetReaderIdPropertyNodeId namespaceIndex connectionId reader.datasetReaderId ::
    datasetReaderStatusNodes namespaceIndex connectionId reader.datasetReaderId

def ReaderGroupConfig.nodes (namespaceIndex : UInt16) (connectionId : String)
    (group : ReaderGroupConfig) : List NodeId :=
  readerGroupNodeId namespaceIndex connectionId group.readerGroupId ::
    readerGroupIdPropertyNodeId namespaceIndex connectionId group.readerGroupId ::
    group.datasetReaders.flatMap (·.nodes namespaceIndex connectionId)

def PubSubConnectionConfig.nodes (namespaceIndex : UInt16) (connection : PubSubConnectionConfig) :
    List NodeId :=
  connectionNodeId namespaceIndex connection.connectionId ::
    (connection.writerGroups.flatMap (·.nodes namespaceIndex connection.connectionId) ++
      connection.readerGroups.flatMap (·.nodes namespaceIndex connection.connectionId))

/-- **The nodes that reflect a configuration.** -/
def nodesOf (configs : List PubSubConnectionConfig) : List NodeId :=
  configs.flatMap (·.nodes namespaceIndex)

/-- `reflect_pubsub_config`: nodes that are missing are added. -/
def reflectNodes (configs : List PubSubConnectionConfig) (nodes : List NodeId) : List NodeId :=
  (nodesOf namespaceIndex configs).foldl ensureObject nodes

/-! ### What a Method deletes -/

namespace PubSubConfiguration

def groupDeletedBy (namespaceIndex : UInt16) (connection : PubSubConnectionConfig)
    (groupNode : NodeId) : List NodeId :=
  let connectionId := connection.connectionId
  match locateKey (fun group => writerGroupNodeId namespaceIndex connectionId group.writerGroupId)
    groupNode connection.writerGroups with
  | some group => deleteWriterGroupNodes namespaceIndex connectionId group.here
  | none =>
    match locateKey (fun group => readerGroupNodeId namespaceIndex connectionId group.readerGroupId)
      groupNode connection.readerGroups with
    | some group => deleteReaderGroupNodes namespaceIndex connectionId group.here
    | none => []

def deletedBy (s : PubSubConfiguration) (called : ConfigCall) : List NodeId :=
  let ns := s.namespaceIndex
  match called.method, called.removed with
  | .removeConnection, some node =>
    ((s.connectionForNode node).map fun place => deleteConnectionNodes ns place.here).getD []
  | .removeGroup, some node =>
    ((s.connectionForNode called.objectId).map
      fun place => groupDeletedBy ns place.here node).getD []
  | .removeDatasetWriter, some node =>
    ((s.writerGroupLocation called.objectId).bind fun place =>
      (locateKey
        (fun writer => datasetWriterNodeId ns place.here.connectionId writer.datasetWriterId) node
        place.found.here.datasetWriters).map fun writer =>
          deleteDatasetWriterNodes ns place.here.connectionId writer.here).getD []
  | .removeDatasetReader, some node =>
    ((s.readerGroupLocation called.objectId).bind fun place =>
      (locateKey
        (fun reader => datasetReaderNodeId ns place.here.connectionId reader.datasetReaderId) node
        place.found.here.datasetReaders).map fun reader =>
          deleteDatasetReaderNodes ns place.here.connectionId reader.here).getD []
  | _, _ => []

end PubSubConfiguration

/-! ### Dataset readers -/

def ReaderGroupConfig.readers (connectionId : String) (group : ReaderGroupConfig) :
    List (String × UInt16) :=
  group.datasetReaders.map fun reader => (connectionId, reader.datasetReaderId)

def PubSubConnectionConfig.readers (connection : PubSubConnectionConfig) : List (String × UInt16) :=
  connection.readerGroups.flatMap (·.readers connection.connectionId)

def datasetReadersOf (configs : List PubSubConnectionConfig) : List (String × UInt16) :=
  configs.flatMap (·.readers)

namespace PubSubConfiguration

def groupReadersRemoved (namespaceIndex : UInt16) (connection : PubSubConnectionConfig)
    (groupNode : NodeId) : List (String × UInt16) :=
  let connectionId := connection.connectionId
  match locateKey (fun group => writerGroupNodeId namespaceIndex connectionId group.writerGroupId)
    groupNode connection.writerGroups with
  | some _ => []
  | none =>
    ((locateKey (fun group => readerGroupNodeId namespaceIndex connectionId group.readerGroupId)
      groupNode connection.readerGroups).map fun group => group.here.readers connectionId).getD []

def readersRemoved (s : PubSubConfiguration) (called : ConfigCall) : List (String × UInt16) :=
  let ns := s.namespaceIndex
  match called.method, called.removed with
  | .removeConnection, some node =>
    ((s.connectionForNode node).map fun place => place.here.readers).getD []
  | .removeGroup, some node =>
    ((s.connectionForNode called.objectId).map fun place =>
      groupReadersRemoved ns place.here node).getD []
  | .removeDatasetReader, some node =>
    ((s.readerGroupLocation called.objectId).bind fun place =>
      (locateKey
        (fun reader => datasetReaderNodeId ns place.here.connectionId reader.datasetReaderId) node
        place.found.here.datasetReaders).map fun reader =>
          [(place.here.connectionId, reader.here.datasetReaderId)]).getD []
  | _, _ => []

end PubSubConfiguration

/-! ### What a removal leaves behind -/

open List

section Nodes

variable {ns : UInt16} {node : NodeId}

theorem mem_writerGroup_nodes {connectionId : String} {group : WriterGroupConfig} :
    node ∈ group.nodes ns connectionId ↔ node ∈ deleteWriterGroupNodes ns connectionId group := by
  simp only [WriterGroupConfig.nodes, DataSetWriterConfig.nodes, deleteWriterGroupNodes,
    deleteDatasetWriterNodes, mem_cons, mem_append, mem_flatMap, not_mem_nil,
    or_false]
  grind

theorem mem_readerGroup_nodes {connectionId : String} {group : ReaderGroupConfig} :
    node ∈ group.nodes ns connectionId ↔
      node ∈ deleteReaderGroupNodes ns connectionId group ∨
        ∃ reader ∈ group.readers connectionId,
          node ∈ datasetReaderStatusNodes ns reader.1 reader.2 := by
  have readers : (∃ reader ∈ group.readers connectionId,
      node ∈ datasetReaderStatusNodes ns reader.1 reader.2) ↔
        ∃ reader ∈ group.datasetReaders,
          node ∈ datasetReaderStatusNodes ns connectionId reader.datasetReaderId := by
    simp [readers]
  simp only [nodes, DataSetReaderConfig.nodes, deleteReaderGroupNodes,
    deleteDatasetReaderNodes, mem_cons, mem_append, mem_flatMap, not_mem_nil,
    or_false, and_or_left, exists_or]
  grind

theorem mem_nodes_iff {connection : PubSubConnectionConfig} :
    node ∈ connection.nodes ns ↔ node ∈ deleteConnectionNodes ns connection ∨
      ∃ reader ∈ connection.readers, node ∈ datasetReaderStatusNodes ns reader.1 reader.2 := by
  simp only [PubSubConnectionConfig.nodes, PubSubConnectionConfig.readers, deleteConnectionNodes,
    mem_cons, mem_append, mem_flatMap, not_mem_nil,
    or_false, mem_writerGroup_nodes, mem_readerGroup_nodes, and_or_left, exists_or]
  grind

theorem mem_nodesOf_iff {configs : List PubSubConnectionConfig} :
    node ∈ nodesOf ns configs ↔ node ∈ configs.flatMap (deleteConnectionNodes ns) ∨
      ∃ reader ∈ datasetReadersOf configs,
        node ∈ datasetReaderStatusNodes ns reader.1 reader.2 := by
  simp only [nodesOf, datasetReadersOf, mem_flatMap, mem_nodes_iff, and_or_left, exists_or]
  grind

end Nodes

namespace PubSubConfiguration

variable {s t : PubSubConfiguration} {objectId : NodeId} {args : List Argument}

/-- **Connections are stored and nodes deleted:** all nodes that go out of the configuration, but
for the status properties of the dataset readers that are removed. -/
structure Stores (s : PubSubConfiguration) (deleted : List NodeId)
    (readers : List (String × UInt16))
    (t : PubSubConfiguration) : Prop where
  stored : t = s.store t.connections deleted
  covered : s.connections.flatMap (deleteConnectionNodes s.namespaceIndex) ⊆
    deleted ++ t.connections.flatMap (deleteConnectionNodes s.namespaceIndex)
  remaining : datasetReadersOf s.connections ⊆ readers ++ datasetReadersOf t.connections

section Replaced

variable {γ : Type} {place : Place PubSubConnectionConfig γ} {deleted : List NodeId}
  {readers : List (String × UInt16)}

section

variable (split : s.connections = place.put place.here)
include split

theorem stores_replace {connection : PubSubConnectionConfig}
    (covered : deleteConnectionNodes s.namespaceIndex place.here ⊆
      deleted ++ deleteConnectionNodes s.namespaceIndex connection)
    (remaining : place.here.readers ⊆ readers ++ connection.readers) :
    s.Stores deleted readers (s.store (place.put connection) deleted) := by
  refine ⟨rfl, ?_, ?_⟩
  · rw [split]
    exact place.flatMap_put_subset covered
  · rw [split]
    exact place.flatMap_put_subset remaining

theorem stores_writerGroups {groups : List WriterGroupConfig}
    (covered : place.here.writerGroups.flatMap
        (deleteWriterGroupNodes s.namespaceIndex place.here.connectionId) ⊆
      deleted ++ groups.flatMap (deleteWriterGroupNodes s.namespaceIndex place.here.connectionId)) :
    s.Stores deleted readers
      (s.store (place.put { place.here with writerGroups := groups }) deleted) := by
  refine stores_replace split (fun node member => ?_) (subset_append_right _ _)
  have := @covered node
  simp only [deleteConnectionNodes, mem_append] at member this ⊢
  tauto

theorem stores_readerGroups {groups : List ReaderGroupConfig}
    (covered : place.here.readerGroups.flatMap
        (deleteReaderGroupNodes s.namespaceIndex place.here.connectionId) ⊆
      deleted ++ groups.flatMap (deleteReaderGroupNodes s.namespaceIndex place.here.connectionId))
    (remaining : place.here.readerGroups.flatMap (·.readers place.here.connectionId) ⊆
      readers ++ groups.flatMap (·.readers place.here.connectionId)) :
    s.Stores deleted readers
      (s.store (place.put { place.here with readerGroups := groups }) deleted) := by
  refine stores_replace split (fun node member => ?_) remaining
  have := @covered node
  simp only [deleteConnectionNodes, mem_append] at member this ⊢
  tauto

end
end Replaced

theorem flatMap_subset_concat {α β : Type} {xs : List α} (f : α → List β) (x : α) :
    xs.flatMap f ⊆ [] ++ (xs ++ [x]).flatMap f := by
  rw [nil_append, flatMap_append]
  exact subset_append_left _ _

theorem subset_of_members {β : Type} {before after deleted own : List β}
    (covered : before ⊆ deleted ++ after) : before ++ own ⊆ deleted ++ (after ++ own) := by
  intro node member
  rcases mem_append.mp member with within | same
  · rw [← append_assoc]
    exact mem_append_left _ (covered within)
  · exact mem_append_right _ (mem_append_right _ same)

theorem stores_removeConnection (gives : Gives (s.removeConnection args) t) :
    s.Stores (s.deletedBy ⟨.removeConnection, objectId, args⟩)
      (s.readersRemoved ⟨.removeConnection, objectId, args⟩) t := by
  obtain ⟨nodeId, place, decoded, located, rfl⟩ := gives_removeConnection.mp gives
  obtain ⟨split, -⟩ := connectionForNode_eq_some located
  have deleted : s.deletedBy ⟨.removeConnection, objectId, args⟩ =
      deleteConnectionNodes s.namespaceIndex place.here := by
    simp only [deletedBy, removed, decoded, Except.toOption, located]
    rfl
  have readers : s.readersRemoved ⟨.removeConnection, objectId, args⟩ = place.here.readers := by
    simp only [readersRemoved, removed, decoded, Except.toOption, located]
    rfl
  rw [deleted, readers]
  refine ⟨rfl, ?_, ?_⟩
  · rw [split]
    exact place.flatMap_remove_subset (refl _)
  · rw [split]
    exact place.flatMap_remove_subset (refl _)

theorem stores_removeGroup (gives : Gives (s.removeGroup objectId args) t) :
    s.Stores (s.deletedBy ⟨.removeGroup, objectId, args⟩)
      (s.readersRemoved ⟨.removeGroup, objectId, args⟩) t := by
  obtain ⟨nodeId, place, decoded, located, gives⟩ := gives_located.mp gives
  obtain ⟨split, -⟩ := connectionForNode_eq_some located
  have deleted : s.deletedBy ⟨.removeGroup, objectId, args⟩ =
      groupDeletedBy s.namespaceIndex place.here nodeId := by
    simp only [deletedBy, removed, decoded, Except.toOption, located]
    rfl
  have readers : s.readersRemoved ⟨.removeGroup, objectId, args⟩ =
      groupReadersRemoved s.namespaceIndex place.here nodeId := by
    simp only [readersRemoved, removed, decoded, Except.toOption, located]
    rfl
  rw [deleted, readers, groupDeletedBy, groupReadersRemoved]
  dsimp only at gives ⊢
  cases writing : locateKey (fun group => writerGroupNodeId s.namespaceIndex
      place.here.connectionId group.writerGroupId) nodeId place.here.writerGroups with
  | some group =>
    rw [writing] at gives
    cases gives_ok.mp gives
    refine stores_writerGroups split ?_
    rw [(locateKey_eq_some writing).1]
    exact group.flatMap_remove_subset (refl _)
  | none =>
    rw [writing] at gives
    obtain ⟨group, reading, gives⟩ := gives_bind.mp gives
    have found := okOrUnknown_eq_ok.mp reading
    rw [found]
    cases gives_ok.mp gives
    refine stores_readerGroups split ?_ ?_
    · rw [(locateKey_eq_some found).1]
      exact group.flatMap_remove_subset (refl _)
    · rw [(locateKey_eq_some found).1]
      exact group.flatMap_remove_subset (refl _)

theorem stores_removeDatasetWriter (gives : Gives (s.removeDatasetWriter objectId args) t)
    {readers : List (String × UInt16)} :
    s.Stores (s.deletedBy ⟨.removeDatasetWriter, objectId, args⟩) readers t := by
  obtain ⟨nodeId, place, writer, decoded, located, found, rfl⟩ := gives_removeDatasetWriter gives
  obtain ⟨split, groups⟩ := writerGroupLocation_eq_some located
  have deleted : s.deletedBy ⟨.removeDatasetWriter, objectId, args⟩ =
      deleteDatasetWriterNodes s.namespaceIndex place.here.connectionId writer.here := by
    simp only [deletedBy, removed, decoded, Except.toOption, located, bind_some,
      found]
    rfl
  rw [deleted]
  refine stores_writerGroups split ?_
  rw [groups]
  refine place.found.flatMap_put_subset (subset_of_members ?_)
  rw [(locateKey_eq_some found).1]
  exact writer.flatMap_remove_subset (refl _)

theorem stores_removeDatasetReader (gives : Gives (s.removeDatasetReader objectId args) t) :
    s.Stores (s.deletedBy ⟨.removeDatasetReader, objectId, args⟩)
      (s.readersRemoved ⟨.removeDatasetReader, objectId, args⟩) t := by
  obtain ⟨nodeId, place, reader, decoded, located, found, rfl⟩ := gives_removeDatasetReader gives
  obtain ⟨split, groups⟩ := readerGroupLocation_eq_some located
  have deleted : s.deletedBy ⟨.removeDatasetReader, objectId, args⟩ =
      deleteDatasetReaderNodes s.namespaceIndex place.here.connectionId reader.here := by
    simp only [deletedBy, removed, decoded, Except.toOption, located, bind_some,
      found]
    rfl
  have readers : s.readersRemoved ⟨.removeDatasetReader, objectId, args⟩ =
      [(place.here.connectionId, reader.here.datasetReaderId)] := by
    simp only [readersRemoved, removed, decoded, Except.toOption, located,
      bind_some, found]
    rfl
  rw [deleted, readers]
  refine stores_readerGroups split ?_ ?_
  · rw [groups]
    refine place.found.flatMap_put_subset (subset_of_members ?_)
    rw [(locateKey_eq_some found).1]
    exact reader.flatMap_remove_subset (refl _)
  · rw [groups]
    refine place.found.flatMap_put_subset ?_
    rw [ReaderGroupConfig.readers, (locateKey_eq_some found).1]
    exact ((reader.put_perm reader.here).map _).subset

theorem stores_call {called : ConfigCall} (gives : Gives (s.call called) t) :
    s.Stores (s.deletedBy called) (s.readersRemoved called) t := by
  obtain ⟨method, objectId, args⟩ := called
  cases method with
  | addConnection =>
    obtain ⟨configuration, -, rfl⟩ := gives_addConnection.mp gives
    exact ⟨rfl, flatMap_subset_concat _ _, flatMap_subset_concat _ _⟩
  | removeConnection => exact stores_removeConnection gives
  | addWriterGroup =>
    obtain ⟨configuration, place, -, located, rfl⟩ := gives_addWriterGroup.mp gives
    exact stores_writerGroups (connectionForNode_eq_some located).1 (flatMap_subset_concat _ _)
  | addReaderGroup =>
    obtain ⟨configuration, place, -, located, rfl⟩ := gives_addReaderGroup.mp gives
    exact stores_readerGroups (connectionForNode_eq_some located).1 (flatMap_subset_concat _ _)
      (flatMap_subset_concat _ _)
  | removeGroup => exact stores_removeGroup gives
  | addDatasetWriter =>
    obtain ⟨configuration, place, -, located, rfl⟩ := gives_addDatasetWriter.mp gives
    obtain ⟨split, groups⟩ := writerGroupLocation_eq_some located
    refine stores_writerGroups split ?_
    rw [groups]
    exact place.found.flatMap_put_subset (subset_of_members (flatMap_subset_concat _ _))
  | removeDatasetWriter => exact stores_removeDatasetWriter gives
  | addDatasetReader =>
    obtain ⟨configuration, place, -, located, rfl⟩ := gives_addDatasetReader.mp gives
    obtain ⟨split, groups⟩ := readerGroupLocation_eq_some located
    refine stores_readerGroups split ?_ ?_
    · rw [groups]
      exact place.found.flatMap_put_subset (subset_of_members (flatMap_subset_concat _ _))
    · rw [groups]
      refine place.found.flatMap_put_subset ?_
      rw [readers, readers, map_append]
      exact subset_append_left _ _
  | removeDatasetReader => exact stores_removeDatasetReader gives

/-- **Where no dataset reader goes, all nodes that go are deleted.** -/
theorem Stores.nodes_covered {deleted : List NodeId}
    (stores : s.Stores deleted [] t) {node : NodeId}
    (there : node ∈ nodesOf s.namespaceIndex s.connections) :
    node ∈ nodesOf s.namespaceIndex t.connections ∨ node ∈ deleted := by
  rw [mem_nodesOf_iff] at there ⊢
  rcases there with listed | ⟨reader, within, status⟩
  · rcases mem_append.mp (stores.covered listed) with gone | still
    · exact Or.inr gone
    · exact Or.inl (Or.inl still)
  · exact Or.inl (Or.inr ⟨reader, stores.remaining within, status⟩)

end PubSubConfiguration

/-! ### The sections of calls -/

/-- **A call between its sections.** -/
structure PendingCall where
  snapshot : List PubSubConnectionConfig
  deleted : List NodeId
  notified : Bool

/-- **The manager's connections, the nodes that reflect them,** the snapshot that was passed to the
callback last (at first the connections at the start), and the calls in progress. -/
structure ReflectionWorld where
  configuration : PubSubConfiguration
  nodes : List NodeId
  lastUpdate : List PubSubConnectionConfig
  pending : List PendingCall

inductive ReflectionOp
  /-- A call changes the connections, or fails. -/
  | lock (called : ConfigCall)
  | notify (index : ℕ)
  | reflect (index : ℕ)

namespace ReflectionWorld

/-- No call is in progress, and the connections are reflected. -/
def new (namespaceIndex : UInt16) (connections : List PubSubConnectionConfig) :
    ReflectionWorld where
  configuration := ⟨namespaceIndex, connections, []⟩
  nodes := nodesOf namespaceIndex connections
  lastUpdate := connections
  pending := []

/-- **One section.** -/
def applyReflectionOp (w : ReflectionWorld) : ReflectionOp → Option ReflectionWorld
  | .lock called =>
    match w.configuration.call called with
    | .error _ => some w
    | .ok (configuration, _) =>
      some { w with
        configuration := configuration
        pending := w.pending ++
          [⟨configuration.connections, w.configuration.deletedBy called, false⟩] }
  | .notify index =>
    match w.pending[index]? with
    | some ⟨snapshot, deleted, false⟩ =>
      some { w with
        lastUpdate := snapshot
        pending := w.pending.set index ⟨snapshot, deleted, true⟩ }
    | _ => none
  | .reflect index =>
    match w.pending[index]? with
    | some ⟨snapshot, deleted, true⟩ =>
      some { w with
        nodes := reflectNodes w.configuration.namespaceIndex snapshot
          (w.nodes.filter fun node => node ∉ deleted)
        pending := w.pending.eraseIdx index }
    | _ => none

def reflectionMachine : Machine ReflectionWorld ReflectionOp where
  step := applyReflectionOp

end ReflectionWorld

end AsyncOpcua.Pubsub
