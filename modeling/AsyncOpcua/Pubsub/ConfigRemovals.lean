/-
**What the removals remove, and when the configuration stays unambiguous.**

* `reflected_removeConnection`, … — with unique ids, a removal takes away the entity with the NodeId
  and what is within it, and nothing else;
* `unambiguous_iff_numbered` — the sequences of calls after each of which this holds.
-/

import AsyncOpcua.Pubsub.ConfigUnique

namespace AsyncOpcua.Pubsub

open Foundation List
open Types hiding Variant DataValue

def ConfigCall.removed (called : ConfigCall) : Option NodeId :=
  match called.method with
  | .removeConnection | .removeGroup | .removeDatasetWriter | .removeDatasetReader =>
    (decodeArgument Argument.asNodeId called.args).toOption
  | _ => none

open PubSubConnectionConfig

namespace PubSubConfiguration

variable {s t : PubSubConfiguration} {objectId nodeId : NodeId} {args : List Argument}

/-! ### Removals -/

structure Removes (s : PubSubConfiguration) (nodeId : NodeId) (t : PubSubConfiguration) : Prop where
  there : nodeId ∈ s.reflected.map (·.nodeId)
  left : t.reflected = s.reflected.filter fun object => object.Beside nodeId

section Split

variable {γ : Type} {place : Place PubSubConnectionConfig γ} {entity : Entity}

theorem reflected_split (split : s.connections = place.put place.here) :
    s.reflected = (place.put place.here).flatMap (·.reflected s.namespaceIndex) := by
  rw [← split]
  rfl

theorem mem_reflected (split : s.connections = place.put place.here)
    (member : entity ∈ place.here.entities) :
    entity.nodeId s.namespaceIndex ∈ s.reflected.map (·.nodeId) := by
  rw [reflected_nodeIds, split]
  exact mem_map_of_mem (mem_flatMap.mpr ⟨place.here, place.here_mem _, member⟩)

theorem WellReflected.others_beside (well : s.WellReflected)
    (split : s.connections = place.put place.here) (member : entity ∈ place.here.entities)
    {other : PubSubConnectionConfig} (within : other ∈ place.remove) {object : Reflected}
    (reflects : object ∈ other.reflected s.namespaceIndex) :
    object.Beside (entity.nodeId s.namespaceIndex) := by
  have distinct := well.distinct
  rw [split] at distinct
  refine reflected_beside ?_ reflects
  rw [connectionId_of_mem_entities member]
  exact Place.key_ne_of_mem_remove distinct within

theorem WellReflected.removes (well : s.WellReflected)
    (split : s.connections = place.put place.here) {connection : PubSubConnectionConfig}
    {deleted : List NodeId} (member : entity ∈ place.here.entities)
    (left : (place.here.reflected s.namespaceIndex).filter
        (fun object => object.Beside (entity.nodeId s.namespaceIndex)) =
      connection.reflected s.namespaceIndex) :
    s.Removes (entity.nodeId s.namespaceIndex) (s.store (place.put connection) deleted) := by
  refine ⟨mem_reflected split member, ?_⟩
  rw [reflected_split split]
  refine (place.filter_flatMap_put_eq (fun other within object reflects => ?_) left).symm
  exact decide_eq_true (well.others_beside split member within reflects)

end Split

theorem removes_removeConnection (well : s.WellReflected)
    (decoded : decodeArgument Argument.asNodeId args = .ok nodeId)
    (gives : Gives (s.removeConnection args) t) : s.Removes nodeId t := by
  obtain ⟨given, place, same, located, rfl⟩ := gives_removeConnection.mp gives
  rw [decoded, Except.ok.injEq] at same
  obtain ⟨split, rfl⟩ := connectionForNode_eq_some (same ▸ located)
  have member : Entity.connection place.here.connectionId ∈ place.here.entities :=
    mem_cons_self
  refine ⟨mem_reflected split member, ?_⟩
  rw [reflected_split split]
  refine (place.filter_flatMap_put_remove (fun other within object reflects => ?_)
    reflected_remove).symm
  exact decide_eq_true (well.others_beside split member within reflects)

section

variable (well : s.WellReflected) (unique : s.UniqueIds)
  (decoded : decodeArgument Argument.asNodeId args = .ok nodeId)
include well unique decoded

theorem removes_removeGroup (gives : Gives (s.removeGroup objectId args) t) :
    s.Removes nodeId t := by
  obtain ⟨given, place, same, located, ⟨group, found, rfl⟩ | ⟨group, found, rfl⟩⟩ :=
    gives_removeGroup gives
  · rw [decoded, Except.ok.injEq] at same
    have split := (connectionForNode_eq_some located).1
    obtain ⟨groups, denoted⟩ := locateKey_eq_some (same ▸ found)
    have here : group.here ∈ place.here.writerGroups := groups ▸ group.here_mem _
    subst denoted
    exact well.removes split
      (mem_entities_of_writerGroup here mem_cons_self)
      (reflected_removeWriterGroup (unique.here split) groups)
  · rw [decoded, Except.ok.injEq] at same
    have split := (connectionForNode_eq_some located).1
    obtain ⟨groups, denoted⟩ := locateKey_eq_some (same ▸ found)
    have here : group.here ∈ place.here.readerGroups := groups ▸ group.here_mem _
    subst denoted
    exact well.removes split
      (mem_entities_of_readerGroup here mem_cons_self)
      (reflected_removeReaderGroup (unique.here split) groups)

theorem removes_removeDatasetWriter (gives : Gives (s.removeDatasetWriter objectId args) t) :
    s.Removes nodeId t := by
  obtain ⟨given, place, writer, same, located, found, rfl⟩ := gives_removeDatasetWriter gives
  rw [decoded, Except.ok.injEq] at same
  obtain ⟨split, groups⟩ := writerGroupLocation_eq_some located
  obtain ⟨writers, denoted⟩ := locateKey_eq_some (same ▸ found)
  have group : place.found.here ∈ place.here.writerGroups := groups ▸ place.found.here_mem _
  have ids : (writersOf place.found.here).Nodup :=
    (nodup_flatMap.mp (unique.here split).datasetWriters.1).1 _ group
  have here : writer.here.datasetWriterId ∈ writersOf place.found.here :=
    mem_map_of_mem (writers ▸ writer.here_mem _)
  subst denoted
  refine well.removes split (mem_entities_of_writerGroup group
      (mem_cons_of_mem _ (mem_map_of_mem here)))
    (reflected_removeDatasetWriter (unique.here split) groups here rfl ?_)
  rw [writersOf, writers] at ids ⊢
  exact Place.filter_key_ne ids

theorem removes_removeDatasetReader (gives : Gives (s.removeDatasetReader objectId args) t) :
    s.Removes nodeId t := by
  obtain ⟨given, place, reader, same, located, found, rfl⟩ := gives_removeDatasetReader gives
  rw [decoded, Except.ok.injEq] at same
  obtain ⟨split, groups⟩ := readerGroupLocation_eq_some located
  obtain ⟨readers, denoted⟩ := locateKey_eq_some (same ▸ found)
  have group : place.found.here ∈ place.here.readerGroups := groups ▸ place.found.here_mem _
  have ids : (readersOf place.found.here).Nodup :=
    (nodup_flatMap.mp (unique.here split).datasetReaders.1).1 _ group
  have here : reader.here.datasetReaderId ∈ readersOf place.found.here :=
    mem_map_of_mem (readers ▸ reader.here_mem _)
  subst denoted
  refine well.removes split (mem_entities_of_readerGroup group
      (mem_cons_of_mem _ (mem_map_of_mem here)))
    (reflected_removeDatasetReader (unique.here split) groups here rfl ?_)
  rw [readersOf, readers] at ids ⊢
  exact Place.filter_key_ne ids

end

theorem removes_call (well : s.WellReflected) (unique : s.UniqueIds) {called : ConfigCall}
    (given : called.removed = some nodeId) (gives : Gives (s.call called) t) :
    s.Removes nodeId t := by
  obtain ⟨method, objectId, args⟩ := called
  cases method with
  | addConnection | addWriterGroup | addReaderGroup | addDatasetWriter | addDatasetReader =>
    cases given
  | removeConnection =>
    exact removes_removeConnection well (Machine.toOption_eq_some.mp given) gives
  | removeGroup =>
    exact removes_removeGroup well unique (Machine.toOption_eq_some.mp given) gives
  | removeDatasetWriter =>
    exact removes_removeDatasetWriter well unique (Machine.toOption_eq_some.mp given) gives
  | removeDatasetReader =>
    exact removes_removeDatasetReader well unique (Machine.toOption_eq_some.mp given) gives

/-! ### Unambiguous configurations -/

/-- **The configuration is unambiguous**: its ids are unique, each reflected NodeId denotes one
entity, and a removal removes exactly the entity whose NodeId it is given. -/
structure Unambiguous (s : PubSubConfiguration) : Prop where
  ids : s.UniqueIds
  denotes : ∀ nodeId ∈ s.objects, (s.reflected.map (·.nodeId)).count nodeId = 1
  removes : ∀ called nodeId t, called.removed = some nodeId → Gives (s.call called) t →
    s.Removes nodeId t

theorem nodup_entitiesOf (well : s.WellReflected) (unique : s.UniqueIds) :
    (entitiesOf s.connections).Nodup := by
  refine nodup_flatMap.mpr ⟨fun connection member =>
    nodup_entities (unique connection member), ?_⟩
  refine (pairwise_map.mp well.distinct).imp fun other entity here there => ?_
  exact other ((connectionId_of_mem_entities here).symm.trans
    (connectionId_of_mem_entities there))

theorem nodup_reflected (well : s.WellReflected) (unique : s.UniqueIds) :
    (s.reflected.map (·.nodeId)).Nodup := by
  rw [reflected_nodeIds]
  exact (nodup_entitiesOf well unique).map fun _ _ => Entity.nodeId_inj.mp

theorem unambiguous_iff (well : s.WellReflected) : s.Unambiguous ↔ s.UniqueIds := by
  refine ⟨Unambiguous.ids, fun unique => ⟨unique, fun nodeId member => ?_, fun _ _ _ given gives =>
    removes_call well unique given gives⟩⟩
  exact count_eq_one_of_mem (nodup_reflected well unique) ((well.objects nodeId).mp member)

/-- **The configuration is unambiguous after every call exactly where each call can number what it
adds.** -/
theorem unambiguous_iff_numbered (namespaceIndex : UInt16) (calls : List ConfigCall) :
    machine.Always Unambiguous (new namespaceIndex) calls ↔
      machine.Guarded Numbered (new namespaceIndex) calls := by
  refine machine.always_iff_guarded WellReflected (fun s called => ⟨s.after called, rfl⟩) ?_ ?_
    (wellReflected_new namespaceIndex)
    ((unambiguous_iff (wellReflected_new namespaceIndex)).mpr nofun)
  · rintro s called _ well ⟨⟩
    exact wellReflected_after well called
  · rintro s called _ well unambiguous ⟨⟩
    rw [unambiguous_iff (wellReflected_after well called)]
    exact uniqueIds_after unambiguous.ids called

def twoReaderGroups : PubSubConnectionDataType where
  name := some "press"
  writerGroups := none
  readerGroups := some [⟨some [⟨1⟩]⟩, ⟨some [⟨2⟩]⟩]

/-- **Both readers get the id 1.** -/
theorem twoReaderGroups_ambiguous :
    ¬ machine.Always Unambiguous (new 1)
      [⟨.addConnection, .standard 14443, [.connection twoReaderGroups]⟩] := by
  intro always
  have after := (always.2 _ rfl).ids _ mem_cons_self
  exact absurd after.datasetReaders.1 (by decide)

end PubSubConfiguration

end AsyncOpcua.Pubsub
