/-
**Which calls keep the ids of the configuration unique.**

A connection is added with the ids that are requested for all that is nested in it, and its readers
are numbered from 1 in every group. The other Methods choose ids that are new within the connection,
but stop counting at the last one.

* `unambiguous_iff` — with unique ids each NodeId denotes one entity, which is what a removal
  removes;
* `unambiguous_iff_numbered` — when this holds after every call.
-/

import AsyncOpcua.Pubsub.ConfigNodes
import Mathlib.Data.List.Flatten

namespace AsyncOpcua.Pubsub

open Foundation Argument Or
open Types hiding Variant DataValue

/-! ### The ids of connections -/

open List

section ConnectionIds

variable {connections : List PubSubConnectionConfig} {base : String} {suffix more : ℕ}

theorem connectionIdExists_iff {connectionId : String} :
    connectionIdExists connections connectionId = true ↔
      connectionId ∈ connections.map (·.connectionId) := by
  simp [connectionIdExists]

theorem candidates_taken (taken : connectionIdExists connections
      (uniqueNumberedConnectionIdWithin connections base suffix more)) :
    ∀ i ≤ more, connectionIdExists connections (base ++ (suffix + i).repr) := by
  induction more generalizing suffix with
  | zero =>
    intro i le
    rw [Nat.le_zero.mp le]
    exact taken
  | succ more ih =>
    rw [uniqueNumberedConnectionIdWithin] at taken
    by_cases first : connectionIdExists connections (base ++ suffix.repr) = true
    · rw [if_pos first] at taken
      intro i le
      cases i with
      | zero => exact first
      | succ i =>
        have later := ih taken i (Nat.le_of_succ_le_succ le)
        rwa [Nat.add_assoc, Nat.add_comm 1 i] at later
    · rw [if_neg first] at taken
      exact absurd taken first

theorem uniqueNumberedConnectionId_fresh :
    uniqueNumberedConnectionId connections base suffix ∉ connections.map (·.connectionId) := by
  rw [← connectionIdExists_iff]
  intro taken
  have all := candidates_taken taken
  -- there are more candidates than connections
  let candidates := (List.range (connections.length + 1)).map fun i => base ++ (suffix + i).repr
  have distinct : candidates.Nodup := by
    refine nodup_range.map fun i j same => ?_
    have texts : (suffix + i).repr.toList = (suffix + j).repr.toList := by
      simpa using congrArg String.toList same
    exact Nat.add_left_cancel (toList_repr_inj.mp texts)
  have within : candidates ⊆ connections.map (·.connectionId) := by
    intro candidate member
    obtain ⟨i, below, rfl⟩ := mem_map.mp member
    exact connectionIdExists_iff.mp (all i (Nat.lt_succ_iff.mp (mem_range.mp below)))
  have fewer := (subperm_of_subset distinct within).length_le
  rw [length_map, length_map, length_range] at fewer
  omega

theorem uniqueConnectionId_fresh (name : String) :
    uniqueConnectionId connections name ∉ connections.map (·.connectionId) := by
  unfold uniqueConnectionId
  dsimp only
  split_ifs with empty taken
  · exact uniqueNumberedConnectionId_fresh
  · exact uniqueNumberedConnectionId_fresh
  · rwa [← connectionIdExists_iff]

end ConnectionIds

/-! ### What the Methods give -/

/-- The state after a Method that succeeds. -/
def Gives (answered : Answered) (t : PubSubConfiguration) : Prop :=
  ∃ answer, answered = .ok (t, answer)

section Gives

variable {α β : Type} {t u : PubSubConfiguration}

theorem gives_ok {answer : List NodeId} : Gives (.ok (u, answer)) t ↔ t = u := by
  constructor
  · rintro ⟨_, ⟨⟩⟩
    rfl
  · rintro rfl
    exact ⟨answer, rfl⟩

theorem gives_bind {first : Except StatusCode α} {next : α → Answered} :
    Gives (first >>= next) t ↔ ∃ a, first = .ok a ∧ Gives (next a) t := by
  cases first with
  | error error =>
    exact iff_of_false (fun ⟨_, failed⟩ => nomatch failed) (fun ⟨_, done, _⟩ => nomatch done)
  | ok a =>
    constructor
    · exact fun gives => ⟨a, rfl, gives⟩
    · rintro ⟨_, ⟨⟩, gives⟩
      exact gives

theorem okOrUnknown_eq_ok {found : Option α} {a : α} : okOrUnknown found = .ok a ↔
    found = some a := by
  cases found with
  | none | some => simp [okOrUnknown]

section

variable {decoded : Except StatusCode α} {find : α → Option β}

theorem gives_located {next : α → β → Answered} :
    Gives (decoded >>= fun a => okOrUnknown (find a) >>= next a) t ↔
      ∃ a b, decoded = .ok a ∧ find a = some b ∧ Gives (next a b) t := by
  rw [gives_bind]
  refine exists_congr fun a => ?_
  rw [gives_bind]
  simp only [okOrUnknown_eq_ok]
  exact exists_and_left.symm

theorem gives_stored {stored : α → β → PubSubConfiguration} {answer : α → β → List NodeId} :
    Gives (decoded >>= fun a => okOrUnknown (find a) >>= fun b => .ok (stored a b, answer a b)) t ↔
      ∃ a b, decoded = .ok a ∧ find a = some b ∧ t = stored a b := by
  rw [gives_located]
  simp [gives_ok]

end
end Gives

open PubSubConnectionConfig

namespace PubSubConfiguration

variable {s t : PubSubConfiguration} {objectId : NodeId} {args : List Argument}

theorem gives_addConnection :
    Gives (s.addConnection args) t ↔
      ∃ configuration, decodeArgument asConnection args = .ok configuration ∧
        t = s.store (s.connections ++ [fromDataType configuration
          (uniqueConnectionId s.connections (uaStringToString configuration.name))]) [] :=
  Iff.trans gives_bind (exists_congr fun _ => and_congr_right fun _ => gives_ok)

theorem gives_removeConnection :
    Gives (s.removeConnection args) t ↔
      ∃ nodeId place, decodeArgument asNodeId args = .ok nodeId ∧
        s.connectionForNode nodeId = some place ∧
        t = s.store place.remove (deleteConnectionNodes s.namespaceIndex place.here) :=
  gives_stored

theorem gives_addWriterGroup :
    Gives (s.addWriterGroup objectId args) t ↔
      ∃ configuration place, decodeArgument asWriterGroup args = .ok configuration ∧
        s.connectionForNode objectId = some place ∧
        t = s.store (place.put { place.here with
          writerGroups := place.here.writerGroups ++ [newWriterGroup place.here configuration] })
            [] :=
  gives_stored

theorem gives_addReaderGroup :
    Gives (s.addReaderGroup objectId args) t ↔
      ∃ configuration place, decodeArgument asReaderGroup args = .ok configuration ∧
        s.connectionForNode objectId = some place ∧
        t = s.store (place.put { place.here with
          readerGroups := place.here.readerGroups ++ [newReaderGroup place.here configuration] })
            [] :=
  gives_stored

theorem gives_addDatasetWriter :
    Gives (s.addDatasetWriter objectId args) t ↔
      ∃ configuration place, decodeArgument asDataSetWriter args = .ok configuration ∧
        s.writerGroupLocation objectId = some place ∧
        t = s.store (place.put { place.here with
          writerGroups := place.found.put { place.found.here with
            datasetWriters := place.found.here.datasetWriters ++
              [newDatasetWriter place.here configuration] } }) [] :=
  gives_stored

theorem gives_addDatasetReader :
    Gives (s.addDatasetReader objectId args) t ↔
      ∃ configuration place, decodeArgument asDataSetReader args = .ok configuration ∧
        s.readerGroupLocation objectId = some place ∧
        t = s.store (place.put { place.here with
          readerGroups := place.found.put { place.found.here with
            datasetReaders := place.found.here.datasetReaders ++
              [DataSetReaderConfig.fromDataType configuration
                (nextDatasetReaderId place.here)] } }) [] :=
  gives_stored

theorem gives_removeGroup (gives : Gives (s.removeGroup objectId args) t) :
    ∃ nodeId place, decodeArgument asNodeId args = .ok nodeId ∧
      s.connectionForNode objectId = some place ∧
      ((∃ group, locateKey (fun group => writerGroupNodeId s.namespaceIndex place.here.connectionId
            group.writerGroupId) nodeId place.here.writerGroups = some group ∧
          t = s.store (place.put { place.here with writerGroups := group.remove })
            (deleteWriterGroupNodes s.namespaceIndex place.here.connectionId group.here)) ∨
        ∃ group, locateKey (fun group => readerGroupNodeId s.namespaceIndex place.here.connectionId
            group.readerGroupId) nodeId place.here.readerGroups = some group ∧
          t = s.store (place.put { place.here with readerGroups := group.remove })
            (deleteReaderGroupNodes s.namespaceIndex place.here.connectionId group.here)) := by
  obtain ⟨nodeId, place, decoded, located, gives⟩ := gives_located.mp gives
  refine ⟨nodeId, place, decoded, located, ?_⟩
  dsimp only at gives
  cases writing : locateKey (fun group => writerGroupNodeId s.namespaceIndex
      place.here.connectionId group.writerGroupId) nodeId place.here.writerGroups with
  | some group =>
    rw [writing] at gives
    exact inl ⟨group, rfl, gives_ok.mp gives⟩
  | none =>
    rw [writing] at gives
    obtain ⟨group, reading, gives⟩ := gives_bind.mp gives
    exact inr ⟨group, okOrUnknown_eq_ok.mp reading, gives_ok.mp gives⟩

theorem gives_removeDatasetWriter (gives : Gives (s.removeDatasetWriter objectId args) t) :
    ∃ nodeId place writer, decodeArgument asNodeId args = .ok nodeId ∧
      s.writerGroupLocation objectId = some place ∧
      locateKey (fun writer => datasetWriterNodeId s.namespaceIndex place.here.connectionId
        writer.datasetWriterId) nodeId place.found.here.datasetWriters = some writer ∧
      t = s.store (place.put { place.here with
          writerGroups := place.found.put { place.found.here with
            datasetWriters := writer.remove } })
        (deleteDatasetWriterNodes s.namespaceIndex place.here.connectionId writer.here) := by
  obtain ⟨nodeId, place, decoded, located, gives⟩ := gives_located.mp gives
  obtain ⟨writer, found, gives⟩ := gives_bind.mp gives
  exact ⟨nodeId, place, writer, decoded, located, okOrUnknown_eq_ok.mp found, gives_ok.mp gives⟩

theorem gives_removeDatasetReader (gives : Gives (s.removeDatasetReader objectId args) t) :
    ∃ nodeId place reader, decodeArgument asNodeId args = .ok nodeId ∧
      s.readerGroupLocation objectId = some place ∧
      locateKey (fun reader => datasetReaderNodeId s.namespaceIndex place.here.connectionId
        reader.datasetReaderId) nodeId place.found.here.datasetReaders = some reader ∧
      t = s.store (place.put { place.here with
          readerGroups := place.found.put { place.found.here with
            datasetReaders := reader.remove } })
        (deleteDatasetReaderNodes s.namespaceIndex place.here.connectionId reader.here) := by
  obtain ⟨nodeId, place, decoded, located, gives⟩ := gives_located.mp gives
  obtain ⟨reader, found, gives⟩ := gives_bind.mp gives
  exact ⟨nodeId, place, reader, decoded, located, okOrUnknown_eq_ok.mp found, gives_ok.mp gives⟩

/-! ### The objects of the address space -/

theorem mem_foldl_ensureObject {nodeId : NodeId} {nodeIds objects : List NodeId} :
    nodeId ∈ nodeIds.foldl ensureObject objects ↔ nodeId ∈ objects ∨ nodeId ∈ nodeIds := by
  induction nodeIds generalizing objects with
  | nil => simp
  | cons first nodeIds ih =>
    have ensured : nodeId ∈ ensureObject objects first ↔ nodeId ∈ objects ∨ nodeId = first := by
      unfold ensureObject
      by_cases there : first ∈ objects
      · rw [if_pos there]
        exact (or_iff_left_of_imp fun same => same ▸ there).symm
      · rw [if_neg there, mem_append, mem_singleton]
    rw [foldl_cons, ih, ensured, mem_cons, or_assoc]

structure WellReflected (s : PubSubConfiguration) : Prop where
  distinct : (s.connections.map (·.connectionId)).Nodup
  objects : ∀ nodeId, nodeId ∈ s.objects ↔ nodeId ∈ s.reflected.map (·.nodeId)

theorem wellReflected_new (namespaceIndex : UInt16) : (new namespaceIndex).WellReflected :=
  ⟨nodup_nil, fun _ => iff_of_false not_mem_nil not_mem_nil⟩

def entitiesOf (connections : List PubSubConnectionConfig) : List Entity :=
  connections.flatMap (·.entities)

theorem reflected_nodeIds (s : PubSubConfiguration) :
    s.reflected.map (·.nodeId) = (entitiesOf s.connections).map (·.nodeId s.namespaceIndex) := by
  rw [reflected, entitiesOf, map_flatMap, map_flatMap]
  exact congrArg List.flatten (map_congr_left fun connection _ =>
    connection.reflected_nodeIds)

theorem WellReflected.store (well : s.WellReflected) {connections : List PubSubConnectionConfig}
    {deleted : List NodeId} (missing : List Entity)
    (distinct : (connections.map (·.connectionId)).Nodup)
    (covered : entitiesOf s.connections ⊆ missing ++ entitiesOf connections)
    (deletes : ∀ entity ∈ missing, entity.nodeId s.namespaceIndex ∈ deleted) :
    (s.store connections deleted).WellReflected := by
  refine ⟨distinct, fun nodeId => ?_⟩
  rw [reflected_nodeIds, PubSubConfiguration.store, reflectPubsubConfig, mem_foldl_ensureObject,
    mem_filter, well.objects, reflected_nodeIds]
  have same : (connections.flatMap (·.reflected s.namespaceIndex)).map (·.nodeId) =
      (entitiesOf connections).map (·.nodeId s.namespaceIndex) :=
    reflected_nodeIds { s with connections := connections }
  rw [same, or_iff_right_iff_imp]
  rintro ⟨old, kept⟩
  obtain ⟨entity, member, rfl⟩ := mem_map.mp old
  rcases mem_append.mp (covered member) with gone | still
  · exact absurd (deletes entity gone) (of_decide_eq_true kept)
  · exact mem_map_of_mem still

section Replaced

variable {γ : Type} {place : Place PubSubConnectionConfig γ} {deleted : List NodeId}

section

variable (well : s.WellReflected) (split : s.connections = place.put place.here)
include well split

theorem WellReflected.replace {connection : PubSubConnectionConfig}
    (same : connection.connectionId = place.here.connectionId) (missing : List Entity)
    (covered : place.here.entities ⊆ missing ++ connection.entities)
    (deletes : ∀ entity ∈ missing, entity.nodeId s.namespaceIndex ∈ deleted) :
    (s.store (place.put connection) deleted).WellReflected := by
  refine well.store missing ?_ ?_ deletes
  · rw [place.map_put_congr same, ← split]
    exact well.distinct
  · rw [split]
    exact place.flatMap_put_subset covered

theorem WellReflected.writerGroups {groups : List WriterGroupConfig}
    (missing : List Entity)
    (covered : sideEntities .writers place.here.connectionId (·.writerGroupId) writersOf
        place.here.writerGroups ⊆
      missing ++ sideEntities .writers place.here.connectionId (·.writerGroupId) writersOf groups)
    (deletes : ∀ entity ∈ missing, entity.nodeId s.namespaceIndex ∈ deleted) :
    (s.store (place.put { place.here with writerGroups := groups }) deleted).WellReflected :=
  well.replace split rfl missing (entities_writerGroups covered) deletes

theorem WellReflected.readerGroups {groups : List ReaderGroupConfig}
    (missing : List Entity)
    (covered : sideEntities .readers place.here.connectionId (·.readerGroupId) readersOf
        place.here.readerGroups ⊆
      missing ++ sideEntities .readers place.here.connectionId (·.readerGroupId) readersOf groups)
    (deletes : ∀ entity ∈ missing, entity.nodeId s.namespaceIndex ∈ deleted) :
    (s.store (place.put { place.here with readerGroups := groups }) deleted).WellReflected :=
  well.replace split rfl missing (entities_readerGroups covered) deletes

end
end Replaced

theorem connectionForNode_eq_some {nodeId : NodeId} {place : Place PubSubConnectionConfig Unit}
    (located : s.connectionForNode nodeId = some place) :
    s.connections = place.put place.here ∧
      (Entity.connection place.here.connectionId).nodeId s.namespaceIndex = nodeId :=
  locateKey_eq_some located

theorem writerGroupLocation_eq_some
    {place : Place PubSubConnectionConfig (Place WriterGroupConfig Unit)}
    (located : s.writerGroupLocation objectId = some place) :
    s.connections = place.put place.here ∧
      place.here.writerGroups = place.found.put place.found.here := by
  obtain ⟨split, found, -⟩ := locate_eq_some located
  exact ⟨split, (locateKey_eq_some found).1⟩

theorem readerGroupLocation_eq_some
    {place : Place PubSubConnectionConfig (Place ReaderGroupConfig Unit)}
    (located : s.readerGroupLocation objectId = some place) :
    s.connections = place.put place.here ∧
      place.here.readerGroups = place.found.put place.found.here := by
  obtain ⟨split, found, -⟩ := locate_eq_some located
  exact ⟨split, (locateKey_eq_some found).1⟩

section

variable (well : s.WellReflected)
include well

theorem wellReflected_addConnection (gives : Gives (s.addConnection args) t) : t.WellReflected := by
  obtain ⟨configuration, -, rfl⟩ := gives_addConnection.mp gives
  have fresh : uniqueConnectionId s.connections (uaStringToString configuration.name) ∉
      s.connections.map (·.connectionId) := uniqueConnectionId_fresh _
  refine well.store [] ?_ ?_ nofun
  · rw [map_append, nodup_append']
    exact ⟨well.distinct, nodup_singleton _, disjoint_singleton.mpr fresh⟩
  · rw [nil_append, entitiesOf, entitiesOf, flatMap_append]
    exact subset_append_left _ _

theorem wellReflected_removeConnection (gives : Gives (s.removeConnection args) t) :
    t.WellReflected := by
  obtain ⟨nodeId, place, -, located, rfl⟩ := gives_removeConnection.mp gives
  obtain ⟨split, -⟩ := connectionForNode_eq_some located
  refine well.store place.here.entities ?_ ?_ fun entity member => mem_deleteConnectionNodes member
  · have distinct := well.distinct
    rw [split] at distinct
    exact distinct.sublist ((place.remove_sublist place.here).map _)
  · rw [split]
    exact place.flatMap_remove_subset (List.Subset.refl _)

theorem wellReflected_addWriterGroup (gives : Gives (s.addWriterGroup objectId args) t) :
    t.WellReflected := by
  obtain ⟨configuration, place, -, located, rfl⟩ := gives_addWriterGroup.mp gives
  exact well.writerGroups (connectionForNode_eq_some located).1 [] (sideEntities_concat _) nofun

theorem wellReflected_addReaderGroup (gives : Gives (s.addReaderGroup objectId args) t) :
    t.WellReflected := by
  obtain ⟨configuration, place, -, located, rfl⟩ := gives_addReaderGroup.mp gives
  exact well.readerGroups (connectionForNode_eq_some located).1 [] (sideEntities_concat _) nofun

theorem wellReflected_removeGroup (gives : Gives (s.removeGroup objectId args) t) :
    t.WellReflected := by
  obtain ⟨nodeId, place, -, located, ⟨group, found, rfl⟩ | ⟨group, found, rfl⟩⟩ :=
    gives_removeGroup gives
  · refine well.writerGroups (connectionForNode_eq_some located).1 _ ?_
      fun entity member => mem_deleteWriterGroupNodes member
    rw [(locateKey_eq_some found).1]
    exact sideEntities_remove
  · refine well.readerGroups (connectionForNode_eq_some located).1 _ ?_
      fun entity member => mem_deleteReaderGroupNodes member
    rw [(locateKey_eq_some found).1]
    exact sideEntities_remove

theorem wellReflected_addDatasetWriter (gives : Gives (s.addDatasetWriter objectId args) t) :
    t.WellReflected := by
  obtain ⟨configuration, place, -, located, rfl⟩ := gives_addDatasetWriter.mp gives
  obtain ⟨split, groups⟩ := writerGroupLocation_eq_some located
  refine well.writerGroups split [] ?_ nofun
  rw [groups]
  refine sideEntities_put_more rfl ?_
  rw [writersOf, writersOf, map_append]
  exact subset_append_left _ _

theorem wellReflected_addDatasetReader (gives : Gives (s.addDatasetReader objectId args) t) :
    t.WellReflected := by
  obtain ⟨configuration, place, -, located, rfl⟩ := gives_addDatasetReader.mp gives
  obtain ⟨split, groups⟩ := readerGroupLocation_eq_some located
  refine well.readerGroups split [] ?_ nofun
  rw [groups]
  refine sideEntities_put_more rfl ?_
  rw [readersOf, readersOf, map_append]
  exact subset_append_left _ _

theorem wellReflected_removeDatasetWriter (gives : Gives (s.removeDatasetWriter objectId args) t) :
    t.WellReflected := by
  obtain ⟨nodeId, place, writer, -, located, found, rfl⟩ := gives_removeDatasetWriter gives
  obtain ⟨split, groups⟩ := writerGroupLocation_eq_some located
  refine well.writerGroups split
    [.member .writers place.here.connectionId writer.here.datasetWriterId] ?_ ?_
  · rw [groups]
    refine sideEntities_put_less rfl ?_
    rw [writersOf, (locateKey_eq_some found).1]
    exact ((writer.put_perm writer.here).map _).subset
  · rw [forall_mem_singleton]
    exact mem_deleteDatasetWriterNodes writer.here

theorem wellReflected_removeDatasetReader (gives : Gives (s.removeDatasetReader objectId args) t) :
    t.WellReflected := by
  obtain ⟨nodeId, place, reader, -, located, found, rfl⟩ := gives_removeDatasetReader gives
  obtain ⟨split, groups⟩ := readerGroupLocation_eq_some located
  refine well.readerGroups split
    [.member .readers place.here.connectionId reader.here.datasetReaderId] ?_ ?_
  · rw [groups]
    refine sideEntities_put_less rfl ?_
    rw [readersOf, (locateKey_eq_some found).1]
    exact ((reader.put_perm reader.here).map _).subset
  · rw [forall_mem_singleton]
    exact mem_deleteDatasetReaderNodes reader.here

/-- **A call keeps the objects those that reflect the configuration.** -/
theorem wellReflected_call {called : ConfigCall} (gives : Gives (s.call called) t) :
    t.WellReflected := by
  obtain ⟨method, objectId, args⟩ := called
  cases method with
  | addConnection => exact wellReflected_addConnection well gives
  | removeConnection => exact wellReflected_removeConnection well gives
  | addWriterGroup => exact wellReflected_addWriterGroup well gives
  | addReaderGroup => exact wellReflected_addReaderGroup well gives
  | removeGroup => exact wellReflected_removeGroup well gives
  | addDatasetWriter => exact wellReflected_addDatasetWriter well gives
  | removeDatasetWriter => exact wellReflected_removeDatasetWriter well gives
  | addDatasetReader => exact wellReflected_addDatasetReader well gives
  | removeDatasetReader => exact wellReflected_removeDatasetReader well gives

end

theorem after_cases (s : PubSubConfiguration) (called : ConfigCall) :
    Gives (s.call called) (s.after called) ∨
      (s.after called = s ∧ ∀ t, ¬ Gives (s.call called) t) := by
  unfold after Gives
  cases s.call called with
  | ok result => exact inl ⟨result.2, rfl⟩
  | error error => exact inr ⟨rfl, fun t ⟨_, done⟩ => nomatch done⟩

theorem wellReflected_after (well : s.WellReflected) (called : ConfigCall) :
    (s.after called).WellReflected := by
  rcases s.after_cases called with gives | ⟨same, -⟩
  · exact wellReflected_call well gives
  · rwa [same]

/-! ### Unique ids -/

def UniqueIds (s : PubSubConfiguration) : Prop :=
  ∀ connection ∈ s.connections, connection.UniqueIds

/-- **What a call can number.** The ids that are requested with a connection are unique, and only
one of its reader groups has readers. Other new entities get a requested id that is free, or there
is room above the highest id. -/
def Numbered (s : PubSubConfiguration) (called : ConfigCall) : Prop :=
  match called.method with
  | .addConnection => ∀ configuration,
      decodeArgument asConnection called.args = .ok configuration → configuration.Numbered
  | .addWriterGroup => ∀ configuration place,
      decodeArgument asWriterGroup called.args = .ok configuration →
      s.connectionForNode called.objectId = some place →
      Choosable place.here.writerGroupIds configuration.writerGroupId ∧
        Room place.here.datasetWriterIds (configuration.dataSetWriters.getD []).length
  | .addReaderGroup => ∀ configuration place,
      decodeArgument asReaderGroup called.args = .ok configuration →
      s.connectionForNode called.objectId = some place →
      Room place.here.readerGroupIds 1 ∧
        Room place.here.datasetReaderIds (configuration.dataSetReaders.getD []).length
  | .addDatasetWriter => ∀ configuration place,
      decodeArgument asDataSetWriter called.args = .ok configuration →
      s.writerGroupLocation called.objectId = some place →
      Choosable place.here.datasetWriterIds configuration.dataSetWriterId
  | .addDatasetReader => ∀ configuration place,
      decodeArgument asDataSetReader called.args = .ok configuration →
      s.readerGroupLocation called.objectId = some place →
      Room place.here.datasetReaderIds 1
  | _ => True

theorem uniqueIds_put {γ : Type} {place : Place PubSubConnectionConfig γ}
    (split : s.connections = place.put place.here) (unique : s.UniqueIds)
    {connection : PubSubConnectionConfig} {deleted : List NodeId} :
    (s.store (place.put connection) deleted).UniqueIds ↔ connection.UniqueIds := by
  constructor
  · exact fun all => all connection (Place.mem_put.mpr (inl rfl))
  · intro here other member
    rcases Place.mem_put.mp member with rfl | member
    · exact here
    · exact unique other (split ▸ Place.mem_put.mpr (inr member))

theorem UniqueIds.here {γ : Type} {place : Place PubSubConnectionConfig γ}
    (unique : s.UniqueIds) (split : s.connections = place.put place.here) :
    place.here.UniqueIds :=
  unique place.here (split ▸ Place.mem_put.mpr (inl rfl))

section Exact

variable {called : ConfigCall}

theorem uniqueIds_addConnection (unique : s.UniqueIds) {configuration : PubSubConnectionDataType}
    {connectionId : String} :
    (s.store (s.connections ++ [.fromDataType configuration connectionId]) []).UniqueIds ↔
      configuration.Numbered := by
  rw [← uniqueIds_fromDataType configuration connectionId]
  constructor
  · exact fun all => all _ (mem_append_right _ mem_cons_self)
  · intro new connection member
    rcases mem_append.mp member with old | added
    · exact unique connection old
    · exact mem_singleton.mp added ▸ new

/-- **A call keeps the ids unique exactly where it can number the new entities.** -/
theorem uniqueIds_call (unique : s.UniqueIds) (gives : Gives (s.call called) t) :
    t.UniqueIds ↔ s.Numbered called := by
  obtain ⟨method, objectId, args⟩ := called
  cases method with
  | addConnection =>
    obtain ⟨configuration, decoded, rfl⟩ := gives_addConnection.mp gives
    simp [uniqueIds_addConnection unique, Numbered, decoded]
  | addWriterGroup =>
    obtain ⟨configuration, place, decoded, located, rfl⟩ := gives_addWriterGroup.mp gives
    have split := (connectionForNode_eq_some located).1
    rw [uniqueIds_put split unique,
      uniqueIds_addWriterGroup (unique.here split)]
    simp [Numbered, decoded, located, forall_eq', forall_apply_eq_imp_iff]
  | addReaderGroup =>
    obtain ⟨configuration, place, decoded, located, rfl⟩ := gives_addReaderGroup.mp gives
    have split := (connectionForNode_eq_some located).1
    rw [uniqueIds_put split unique,
      uniqueIds_addReaderGroup (unique.here split)]
    simp [Numbered, decoded, located, forall_eq', forall_apply_eq_imp_iff]
  | addDatasetWriter =>
    obtain ⟨configuration, place, decoded, located, rfl⟩ := gives_addDatasetWriter.mp gives
    obtain ⟨split, groups⟩ := writerGroupLocation_eq_some located
    rw [uniqueIds_put split unique,
      uniqueIds_addDatasetWriter (unique.here split) groups]
    simp [Numbered, decoded, located, forall_eq', forall_apply_eq_imp_iff]
  | addDatasetReader =>
    obtain ⟨configuration, place, decoded, located, rfl⟩ := gives_addDatasetReader.mp gives
    obtain ⟨split, groups⟩ := readerGroupLocation_eq_some located
    rw [uniqueIds_put split unique,
      uniqueIds_addDatasetReader (unique.here split) groups]
    simp [Numbered, decoded, located, forall_eq', forall_apply_eq_imp_iff]
  | removeConnection =>
    obtain ⟨nodeId, place, -, located, rfl⟩ := gives_removeConnection.mp gives
    have split := (connectionForNode_eq_some located).1
    refine iff_of_true (fun connection member => unique connection ?_) trivial
    exact split ▸ Place.mem_put.mpr (inr member)
  | removeGroup =>
    refine iff_of_true ?_ trivial
    obtain ⟨nodeId, place, -, located, ⟨group, found, rfl⟩ | ⟨group, found, rfl⟩⟩ :=
      gives_removeGroup gives
    · have split := (connectionForNode_eq_some located).1
      have groups := (locateKey_eq_some found).1
      refine (uniqueIds_put split unique).mpr ((unique.here split).fewerWriters ?_ ?_)
      · rw [writerGroupIds, groups]
        exact (group.remove_sublist group.here).map _
      · rw [datasetWriterIds, groups]
        exact (group.remove_sublist group.here).flatMap _
    · have split := (connectionForNode_eq_some located).1
      have groups := (locateKey_eq_some found).1
      refine (uniqueIds_put split unique).mpr ((unique.here split).fewerReaders ?_ ?_)
      · rw [readerGroupIds, groups]
        exact (group.remove_sublist group.here).map _
      · rw [datasetReaderIds, groups]
        exact (group.remove_sublist group.here).flatMap _
  | removeDatasetWriter =>
    refine iff_of_true ?_ trivial
    obtain ⟨nodeId, place, writer, -, located, found, rfl⟩ := gives_removeDatasetWriter gives
    obtain ⟨split, groups⟩ := writerGroupLocation_eq_some located
    refine (uniqueIds_put split unique).mpr ((unique.here split).fewerWriters ?_ ?_)
    · rw [writerGroupIds, groups]
      exact place.found.map_put_sublist rfl
    · rw [datasetWriterIds, groups]
      refine place.found.flatMap_put_sublist ?_
      rw [(locateKey_eq_some found).1]
      exact (writer.remove_sublist writer.here).map _
  | removeDatasetReader =>
    refine iff_of_true ?_ trivial
    obtain ⟨nodeId, place, reader, -, located, found, rfl⟩ := gives_removeDatasetReader gives
    obtain ⟨split, groups⟩ := readerGroupLocation_eq_some located
    refine (uniqueIds_put split unique).mpr ((unique.here split).fewerReaders ?_ ?_)
    · rw [readerGroupIds, groups]
      exact place.found.map_put_sublist rfl
    · rw [datasetReaderIds, groups]
      refine place.found.flatMap_put_sublist ?_
      rw [(locateKey_eq_some found).1]
      exact (reader.remove_sublist reader.here).map _

theorem numbered_of_fails (fails : ∀ t, ¬ Gives (s.call called) t) : s.Numbered called := by
  obtain ⟨method, objectId, args⟩ := called
  cases method with
  | addConnection =>
    exact fun configuration decoded =>
      absurd (gives_addConnection.mpr ⟨configuration, decoded, rfl⟩) (fails _)
  | addWriterGroup =>
    exact fun configuration place decoded located =>
      absurd (gives_addWriterGroup.mpr ⟨configuration, place, decoded, located, rfl⟩) (fails _)
  | addReaderGroup =>
    exact fun configuration place decoded located =>
      absurd (gives_addReaderGroup.mpr ⟨configuration, place, decoded, located, rfl⟩) (fails _)
  | addDatasetWriter =>
    exact fun configuration place decoded located =>
      absurd (gives_addDatasetWriter.mpr ⟨configuration, place, decoded, located, rfl⟩) (fails _)
  | addDatasetReader =>
    exact fun configuration place decoded located =>
      absurd (gives_addDatasetReader.mpr ⟨configuration, place, decoded, located, rfl⟩) (fails _)
  | removeConnection | removeGroup | removeDatasetWriter | removeDatasetReader => trivial

theorem uniqueIds_after (unique : s.UniqueIds) (called : ConfigCall) :
    (s.after called).UniqueIds ↔ s.Numbered called := by
  rcases s.after_cases called with gives | ⟨same, fails⟩
  · exact uniqueIds_call unique gives
  · rw [same]
    exact iff_of_true unique (numbered_of_fails fails)

end Exact

end PubSubConfiguration

end AsyncOpcua.Pubsub
