/-
**The NodeIds of the configuration.**

The text of a NodeId is the entity's kind, the connection's id and the entity's own id, between
colons. There is no colon in the first and the last of them, so that the NodeId tells the entity.

* `Entity.nodeId_inj` — entities with the same NodeId are the same;
* `nodup_reflected` — with unique ids, each NodeId is that of one object;
* `reflected_removeGroup`, `reflected_removeMember` — what is reflected without an entity.
-/

import AsyncOpcua.Pubsub.ConfigIds

namespace AsyncOpcua.Pubsub

open Foundation Or
open Types hiding Variant DataValue

/-! ### Texts with separators -/

open List

section Separator

variable {α : Type} {x : α} {a b c d : List α}

theorem append_cons_inj_left (first : x ∉ a) (second : x ∉ c) :
    a ++ x :: b = c ++ x :: d ↔ a = c ∧ b = d := by
  refine ⟨fun same => ?_, fun both => by rw [both.1, both.2]⟩
  induction a generalizing c with
  | nil =>
    cases c with
    | nil => exact ⟨rfl, (cons.inj same).2⟩
    | cons y c => exact absurd (cons.inj same).1 (ne_of_not_mem_cons second)
  | cons z a ih =>
    cases c with
    | nil => exact absurd (cons.inj same).1.symm (ne_of_not_mem_cons first)
    | cons y c =>
      obtain ⟨head, tail⟩ := cons.inj same
      obtain ⟨rfl, rest⟩ :=
        ih (not_mem_of_not_mem_cons first) (not_mem_of_not_mem_cons second) tail
      exact ⟨by rw [head], rest⟩

theorem append_cons_inj_right (first : x ∉ b) (second : x ∉ d) :
    a ++ x :: b = c ++ x :: d ↔ a = c ∧ b = d := by
  have reversed := append_cons_inj_left (b := a.reverse) (d := c.reverse)
    (mt mem_reverse.mp first) (mt mem_reverse.mp second)
  rw [reverse_inj, reverse_inj, and_comm] at reversed
  rw [← reversed, ← reverse_inj]
  simp

end Separator

theorem colon_notMem_repr (n : ℕ) : ':' ∉ n.repr.toList := by
  intro member
  rw [Nat.toList_repr] at member
  exact absurd (Nat.isDigit_of_mem_toDigits (by decide) (le_refl 10) member) (by decide)

theorem toList_repr_inj {m n : ℕ} : m.repr.toList = n.repr.toList ↔ m = n := by
  refine ⟨fun same => ?_, fun same => by rw [same]⟩
  rw [Nat.toList_repr, Nat.toList_repr] at same
  rw [← Nat.ofDigitChars_ten_toDigits (n := m), same, Nat.ofDigitChars_ten_toDigits]

/-! ### Entities -/

inductive Side
  | writers
  | readers
  deriving DecidableEq

inductive EntityKind
  | connection
  | group (side : Side)
  | member (side : Side)
  deriving DecidableEq

def EntityKind.text : EntityKind → String
  | connection => "PubSubConnection"
  | group .writers => "WriterGroup"
  | group .readers => "ReaderGroup"
  | member .writers => "DataSetWriter"
  | member .readers => "DataSetReader"

theorem EntityKind.text_inj {first second : EntityKind} :
    first.text = second.text ↔ first = second := by
  rcases first with _ | (_ | _) | (_ | _) <;> rcases second with _ | (_ | _) | (_ | _) <;> decide

theorem EntityKind.colon_notMem_text (kind : EntityKind) : ':' ∉ kind.text.toList := by
  rcases kind with _ | (_ | _) | (_ | _) <;> decide

inductive Entity
  | connection (connectionId : String)
  | group (side : Side) (connectionId : String) (id : UInt16)
  | member (side : Side) (connectionId : String) (id : UInt16)

namespace Entity

def connectionId : Entity → String
  | connection connectionId => connectionId
  | group _ connectionId _ => connectionId
  | member _ connectionId _ => connectionId

def nodeId (namespaceIndex : UInt16) : Entity → NodeId
  | connection connectionId => connectionNodeId namespaceIndex connectionId
  | group .writers connectionId id => writerGroupNodeId namespaceIndex connectionId id
  | group .readers connectionId id => readerGroupNodeId namespaceIndex connectionId id
  | member .writers connectionId id => datasetWriterNodeId namespaceIndex connectionId id
  | member .readers connectionId id => datasetReaderNodeId namespaceIndex connectionId id

def kind : Entity → EntityKind
  | connection _ => .connection
  | group side _ _ => .group side
  | member side _ _ => .member side

/-- What is behind the kind. -/
def path : Entity → String
  | connection connectionId => connectionId
  | group _ connectionId id => connectionId ++ ":" ++ id.toNat.repr
  | member _ connectionId id => connectionId ++ ":" ++ id.toNat.repr

theorem nodeId_eq (namespaceIndex : UInt16) (entity : Entity) :
    entity.nodeId namespaceIndex =
      stringNodeId namespaceIndex (entity.kind.text ++ ":" ++ entity.path) := by
  have assoc : ∀ kind connectionId (id : UInt16),
      entityNodeId kind namespaceIndex connectionId id =
        stringNodeId namespaceIndex (kind ++ ":" ++ (connectionId ++ ":" ++ id.toNat.repr)) := by
    intro kind connectionId id
    rw [entityNodeId]
    congr 1
    simp [String.append_assoc]
  cases entity with
  | connection connectionId => rfl
  | group side connectionId id =>
    cases side with
    | writers => exact assoc "WriterGroup" connectionId id
    | readers => exact assoc "ReaderGroup" connectionId id
  | member side connectionId id =>
    cases side with
    | writers => exact assoc "DataSetWriter" connectionId id
    | readers => exact assoc "DataSetReader" connectionId id

theorem path_inj {first second : String} {i j : UInt16}
    (same : first ++ ":" ++ i.toNat.repr = second ++ ":" ++ j.toNat.repr) :
    first = second ∧ i = j := by
  have split : first.toList ++ ':' :: i.toNat.repr.toList =
      second.toList ++ ':' :: j.toNat.repr.toList := by
    simpa using congrArg String.toList same
  obtain ⟨connections, ids⟩ :=
    (append_cons_inj_right (colon_notMem_repr _) (colon_notMem_repr _)).mp split
  exact ⟨String.toList_inj.mp connections, toNat_injective (toList_repr_inj.mp ids)⟩

@[simp]
theorem nodeId_inj {namespaceIndex : UInt16} {first second : Entity} :
    first.nodeId namespaceIndex = second.nodeId namespaceIndex ↔ first = second := by
  refine ⟨fun same => ?_, fun same => by rw [same]⟩
  rw [nodeId_eq, nodeId_eq, stringNodeId, stringNodeId, NodeId.mk.injEq, Identifier.string.injEq,
    Option.some.injEq] at same
  have split : first.kind.text.toList ++ ':' :: first.path.toList =
      second.kind.text.toList ++ ':' :: second.path.toList := by
    simpa using congrArg String.toList same.2
  obtain ⟨kinds, paths⟩ := (append_cons_inj_left (EntityKind.colon_notMem_text _)
    (EntityKind.colon_notMem_text _)).mp split
  rw [String.toList_inj] at kinds paths
  rw [EntityKind.text_inj] at kinds
  cases first with
  | connection c =>
    cases second <;> cases kinds
    exact congrArg connection paths
  | group | member =>
    cases second <;> cases kinds
    obtain ⟨rfl, rfl⟩ := path_inj paths
    rfl

end Entity

/-! ### What is reflected of groups -/

section Groups

variable {G : Type} (namespaceIndex : UInt16) (side : Side) (connectionId : String)
  (idOf : G → UInt16) (membersOf : G → List UInt16)

def groupReflected (group : G) : List Reflected :=
  let connection := (Entity.connection connectionId).nodeId namespaceIndex
  let groupId := (Entity.group side connectionId (idOf group)).nodeId namespaceIndex
  ⟨groupId, [connection]⟩ :: (membersOf group).map fun id =>
    ⟨(Entity.member side connectionId id).nodeId namespaceIndex, [groupId, connection]⟩

def groupEntities (group : G) : List Entity :=
  .group side connectionId (idOf group) :: (membersOf group).map (.member side connectionId)

variable {namespaceIndex side connectionId idOf membersOf}

theorem groupReflected_nodeIds (group : G) :
    (groupReflected namespaceIndex side connectionId idOf membersOf group).map (·.nodeId) =
      (groupEntities side connectionId idOf membersOf group).map (·.nodeId namespaceIndex) := by
  rw [groupReflected, groupEntities, map_cons, map_cons, map_map, map_map]
  rfl

def Reflected.Beside (nodeId : NodeId) (object : Reflected) : Prop :=
  object.nodeId ≠ nodeId ∧ nodeId ∉ object.within

instance (nodeId : NodeId) (object : Reflected) : Decidable (object.Beside nodeId) :=
  inferInstanceAs (Decidable (_ ∧ _))

theorem groupReflected_beside {group : G} (entity : Entity)
    (notConnection : entity ≠ .connection connectionId)
    (notGroup : entity ≠ .group side connectionId (idOf group))
    (notMember : ∀ id ∈ membersOf group, entity ≠ .member side connectionId id)
    {object : Reflected}
    (within : object ∈ groupReflected namespaceIndex side connectionId idOf membersOf group) :
    object.Beside (entity.nodeId namespaceIndex) := by
  rcases mem_cons.mp within with rfl | within
  · simp [Reflected.Beside, notConnection, notGroup.symm]
  · obtain ⟨id, member, rfl⟩ := mem_map.mp within
    simp [Reflected.Beside, notConnection, notGroup, (notMember id member).symm]

def sideReflected (namespaceIndex : UInt16) (side : Side) (connectionId : String)
    (idOf : G → UInt16)
    (membersOf : G → List UInt16) (groups : List G) : List Reflected :=
  groups.flatMap (groupReflected namespaceIndex side connectionId idOf membersOf)

def sideEntities (side : Side) (connectionId : String) (idOf : G → UInt16)
    (membersOf : G → List UInt16) (groups : List G) : List Entity :=
  groups.flatMap (groupEntities side connectionId idOf membersOf)

variable {groups : List G}

theorem mem_sideEntities {entity : Entity} :
    entity ∈ sideEntities side connectionId idOf membersOf groups ↔
      ∃ group ∈ groups, entity = .group side connectionId (idOf group) ∨
        ∃ id ∈ membersOf group, entity = .member side connectionId id := by
  simp [sideEntities, groupEntities, eq_comm (b := entity)]

theorem sideReflected_nodeIds :
    (sideReflected namespaceIndex side connectionId idOf membersOf groups).map (·.nodeId) =
      (sideEntities side connectionId idOf membersOf groups).map (·.nodeId namespaceIndex) := by
  rw [sideReflected, sideEntities, map_flatMap, map_flatMap]
  exact congrArg flatten (map_congr_left fun group _ => groupReflected_nodeIds group)

theorem nodup_sideEntities (ids : (groups.map idOf).Nodup)
    (members : (groups.flatMap membersOf).Nodup) :
    (sideEntities side connectionId idOf membersOf groups).Nodup := by
  have perm : (sideEntities side connectionId idOf membersOf groups).Perm
      ((groups.map idOf).map (.group side connectionId) ++
        (groups.flatMap membersOf).map (.member side connectionId)) := by
    rw [map_map, map_flatMap]
    exact (map_append_flatMap_perm groups _ _).symm
  have groupInj : Function.Injective (Entity.group side connectionId) := fun _ _ same => by
    cases same
    rfl
  have memberInj : Function.Injective (Entity.member side connectionId) := fun _ _ same => by
    cases same
    rfl
  rw [perm.nodup_iff, nodup_append']
  refine ⟨ids.map groupInj, members.map memberInj, fun entity group member => ?_⟩
  obtain ⟨_, -, rfl⟩ := mem_map.mp group
  obtain ⟨_, -, same⟩ := mem_map.mp member
  cases same

theorem sideReflected_beside {entity : Entity} (notConnection : entity ≠ .connection connectionId)
    (other : entity ∉ sideEntities side connectionId idOf membersOf groups) {object : Reflected}
    (within : object ∈ sideReflected namespaceIndex side connectionId idOf membersOf groups) :
    object.Beside (entity.nodeId namespaceIndex) := by
  rw [mem_sideEntities] at other
  push Not at other
  obtain ⟨group, member, within⟩ := mem_flatMap.mp within
  exact groupReflected_beside entity notConnection (other group member).1
    (other group member).2 within

theorem filter_sideReflected (entity : Entity)
    (notConnection : entity ≠ .connection connectionId)
    (other : entity ∉ sideEntities side connectionId idOf membersOf groups) :
    (sideReflected namespaceIndex side connectionId idOf membersOf groups).filter
        (fun object => object.Beside (entity.nodeId namespaceIndex)) =
      sideReflected namespaceIndex side connectionId idOf membersOf groups :=
  filter_eq_self.mpr fun _ within =>
    decide_eq_true (sideReflected_beside notConnection other within)

section Places

variable {γ : Type} {place : Place G γ}

theorem sideReflected_remove (ids : ((place.put place.here).map idOf).Nodup) :
    (sideReflected namespaceIndex side connectionId idOf membersOf (place.put place.here)).filter
        (fun object => object.Beside
          ((Entity.group side connectionId (idOf place.here)).nodeId namespaceIndex)) =
      sideReflected namespaceIndex side connectionId idOf membersOf place.remove := by
  refine place.filter_flatMap_put_remove (fun group member object within => ?_) ?_
  · have other := Place.key_ne_of_mem_remove ids member
    have beside : object.Beside
        ((Entity.group side connectionId (idOf place.here)).nodeId namespaceIndex) :=
      groupReflected_beside (.group side connectionId (idOf place.here)) nofun (by simp [other])
        (fun _ _ => nofun) within
    exact decide_eq_true beside
  · refine filter_eq_nil_iff.mpr fun object within => ?_
    rcases mem_cons.mp within with rfl | within
    · simp [Reflected.Beside]
    · obtain ⟨id, -, rfl⟩ := mem_map.mp within
      simp [Reflected.Beside]

theorem sideReflected_put {without : G} {id : UInt16} (same : idOf without = idOf place.here)
    (member : id ∈ membersOf place.here)
    (members : ((place.put place.here).flatMap membersOf).Nodup)
    (left : (membersOf place.here).filter (fun other => other ≠ id) = membersOf without) :
    (sideReflected namespaceIndex side connectionId idOf membersOf (place.put place.here)).filter
        (fun object => object.Beside ((Entity.member side connectionId id).nodeId namespaceIndex)) =
      sideReflected namespaceIndex side connectionId idOf membersOf (place.put without) := by
  refine place.filter_flatMap_put_eq (fun group there object within => ?_) ?_
  · rw [((place.put_perm place.here).flatMap_right membersOf).nodup_iff, flatMap_cons,
      nodup_append'] at members
    have other : id ∉ membersOf group :=
      fun found => members.2.2 member (mem_flatMap.mpr ⟨group, there, found⟩)
    have beside : object.Beside ((Entity.member side connectionId id).nodeId namespaceIndex) := by
      refine groupReflected_beside (.member side connectionId id) nofun nofun
        (fun there found same => ?_) within
      cases same
      exact other found
    exact decide_eq_true beside
  · rw [groupReflected, groupReflected, filter_cons_of_pos (by simp [Reflected.Beside]), same,
      ← left, filter_map]
    congr 2
    refine filter_congr fun other _ => ?_
    simp [Reflected.Beside]

theorem sideEntities_concat (group : G) :
    sideEntities side connectionId idOf membersOf groups ⊆
      [] ++ sideEntities side connectionId idOf membersOf (groups ++ [group]) := by
  rw [nil_append, sideEntities, sideEntities, flatMap_append]
  exact subset_append_left _ _

theorem sideEntities_put_more {more : G} (same : idOf more = idOf place.here)
    (members : membersOf place.here ⊆ membersOf more) :
    sideEntities side connectionId idOf membersOf (place.put place.here) ⊆
      [] ++ sideEntities side connectionId idOf membersOf (place.put more) := by
  refine place.flatMap_put_subset ?_
  rw [nil_append, groupEntities, groupEntities, same]
  exact cons_subset_cons _ (map_subset _ members)

theorem sideEntities_remove :
    sideEntities side connectionId idOf membersOf (place.put place.here) ⊆
      groupEntities side connectionId idOf membersOf place.here ++
        sideEntities side connectionId idOf membersOf place.remove :=
  place.flatMap_remove_subset (List.Subset.refl _)

theorem sideEntities_put_less {less : G} {id : UInt16} (same : idOf less = idOf place.here)
    (members : membersOf place.here ⊆ id :: membersOf less) :
    sideEntities side connectionId idOf membersOf (place.put place.here) ⊆
      [.member side connectionId id] ++
        sideEntities side connectionId idOf membersOf (place.put less) := by
  refine place.flatMap_put_subset ?_
  rw [groupEntities, groupEntities, same]
  refine cons_subset.mpr ⟨by simp, ?_⟩
  refine List.Subset.trans (map_subset _ members) ?_
  exact cons_subset.mpr ⟨by simp, fun entity member => by simp [member]⟩

end Places

end Groups

/-! ### What is reflected of a connection -/

def writersOf (group : WriterGroupConfig) : List UInt16 :=
  group.datasetWriters.map (·.datasetWriterId)

def readersOf (group : ReaderGroupConfig) : List UInt16 :=
  group.datasetReaders.map (·.datasetReaderId)

theorem WriterGroupConfig.reflected_eq (namespaceIndex : UInt16) (connectionId : String)
    (group : WriterGroupConfig) :
    group.reflected namespaceIndex connectionId =
      groupReflected namespaceIndex .writers connectionId (·.writerGroupId) writersOf group := by
  rw [groupReflected, writersOf, map_map]
  rfl

theorem ReaderGroupConfig.reflected_eq (namespaceIndex : UInt16) (connectionId : String)
    (group : ReaderGroupConfig) :
    group.reflected namespaceIndex connectionId =
      groupReflected namespaceIndex .readers connectionId (·.readerGroupId) readersOf group := by
  rw [groupReflected, readersOf, map_map]
  rfl

namespace PubSubConnectionConfig

variable {namespaceIndex : UInt16} {connection : PubSubConnectionConfig}

theorem reflected_eq (namespaceIndex : UInt16) (connection : PubSubConnectionConfig) :
    connection.reflected namespaceIndex =
      ⟨(Entity.connection connection.connectionId).nodeId namespaceIndex, []⟩ ::
        (sideReflected namespaceIndex .writers connection.connectionId (·.writerGroupId) writersOf
            connection.writerGroups ++
          sideReflected namespaceIndex .readers connection.connectionId (·.readerGroupId) readersOf
            connection.readerGroups) := by
  simp only [reflected, WriterGroupConfig.reflected_eq, ReaderGroupConfig.reflected_eq]
  rfl

def entities (connection : PubSubConnectionConfig) : List Entity :=
  .connection connection.connectionId ::
    (sideEntities .writers connection.connectionId (·.writerGroupId) writersOf
        connection.writerGroups ++
      sideEntities .readers connection.connectionId (·.readerGroupId) readersOf
        connection.readerGroups)

variable {entity : Entity}

theorem mem_entities_of_writerGroup {group : WriterGroupConfig}
    (there : group ∈ connection.writerGroups)
    (member : entity ∈
      groupEntities .writers connection.connectionId (·.writerGroupId) writersOf group) :
    entity ∈ connection.entities :=
  mem_cons_of_mem _ (mem_append_left _ (mem_flatMap.mpr ⟨group, there, member⟩))

theorem mem_entities_of_readerGroup {group : ReaderGroupConfig}
    (there : group ∈ connection.readerGroups)
    (member : entity ∈
      groupEntities .readers connection.connectionId (·.readerGroupId) readersOf group) :
    entity ∈ connection.entities :=
  mem_cons_of_mem _ (mem_append_right _ (mem_flatMap.mpr ⟨group, there, member⟩))

theorem cons_append_subset {first : Entity} {before after before' after' missing : List Entity}
    (covered : before ⊆ missing ++ before') (coveredAfter : after ⊆ missing ++ after') :
    first :: (before ++ after) ⊆ missing ++ first :: (before' ++ after') := by
  intro entity member
  rw [mem_cons, mem_append] at member
  rw [mem_append, mem_cons, mem_append]
  rcases member with same | member | member
  · exact inr (inl same)
  · rcases mem_append.mp (covered member) with gone | kept
    · exact inl gone
    · exact inr (inr (inl kept))
  · rcases mem_append.mp (coveredAfter member) with gone | kept
    · exact inl gone
    · exact inr (inr (inr kept))

theorem entities_writerGroups {groups : List WriterGroupConfig} {missing : List Entity}
    (covered : sideEntities .writers connection.connectionId (·.writerGroupId) writersOf
        connection.writerGroups ⊆
      missing ++ sideEntities .writers connection.connectionId (·.writerGroupId) writersOf groups) :
    connection.entities ⊆ missing ++ entities { connection with writerGroups := groups } :=
  cons_append_subset covered (subset_append_right _ _)

theorem entities_readerGroups {groups : List ReaderGroupConfig} {missing : List Entity}
    (covered : sideEntities .readers connection.connectionId (·.readerGroupId) readersOf
        connection.readerGroups ⊆
      missing ++ sideEntities .readers connection.connectionId (·.readerGroupId) readersOf groups) :
    connection.entities ⊆ missing ++ entities { connection with readerGroups := groups } :=
  cons_append_subset (subset_append_right _ _) covered

theorem reflected_nodeIds :
    (connection.reflected namespaceIndex).map (·.nodeId) =
      connection.entities.map (·.nodeId namespaceIndex) := by
  rw [reflected_eq, entities, map_cons, map_cons, map_append, map_append,
    sideReflected_nodeIds, sideReflected_nodeIds]

theorem nodup_entities (unique : connection.UniqueIds) : connection.entities.Nodup := by
  have writers : (sideEntities .writers connection.connectionId (·.writerGroupId) writersOf
      connection.writerGroups).Nodup :=
    nodup_sideEntities unique.writerGroups.1 unique.datasetWriters.1
  have readers : (sideEntities .readers connection.connectionId (·.readerGroupId) readersOf
      connection.readerGroups).Nodup :=
    nodup_sideEntities unique.readerGroups.1 unique.datasetReaders.1
  rw [entities, nodup_cons, mem_append, mem_sideEntities, mem_sideEntities,
    nodup_append']
  refine ⟨by simp, writers, readers, fun entity writing reading => ?_⟩
  rw [mem_sideEntities] at writing reading
  obtain ⟨_, -, rfl | ⟨_, -, rfl⟩⟩ := writing
  · simp at reading
  · simp at reading

theorem connectionId_of_mem_entities (member : entity ∈ connection.entities) :
    entity.connectionId = connection.connectionId := by
  rw [entities, mem_cons, mem_append, mem_sideEntities, mem_sideEntities] at member
  rcases member with rfl | ⟨_, -, rfl | ⟨_, -, rfl⟩⟩ | ⟨_, -, rfl | ⟨_, -, rfl⟩⟩ <;> rfl

theorem reflected_beside
    (other : entity.connectionId ≠ connection.connectionId) {object : Reflected}
    (within : object ∈ connection.reflected namespaceIndex) :
    object.Beside (entity.nodeId namespaceIndex) := by
  have notHere : entity ∉ connection.entities := mt connectionId_of_mem_entities other
  have notConnection : entity ≠ .connection connection.connectionId := by
    rintro rfl
    exact other rfl
  rw [entities, mem_cons, mem_append, not_or, not_or] at notHere
  rw [reflected_eq] at within
  rcases mem_cons.mp within with rfl | within
  · simp [Reflected.Beside, notConnection.symm]
  rcases mem_append.mp within with writing | reading
  · exact sideReflected_beside notConnection notHere.2.1 writing
  · exact sideReflected_beside notConnection notHere.2.2 reading

theorem reflected_remove :
    (connection.reflected namespaceIndex).filter (fun object =>
      object.Beside ((Entity.connection connection.connectionId).nodeId namespaceIndex)) = [] := by
  refine filter_eq_nil_iff.mpr fun object within => ?_
  rw [reflected_eq] at within
  simp only [sideReflected, groupReflected, mem_cons, mem_append, mem_flatMap,
    mem_map] at within
  rcases within with rfl | ⟨_, -, rfl | ⟨_, -, rfl⟩⟩ | ⟨_, -, rfl | ⟨_, -, rfl⟩⟩ <;>
    simp [Reflected.Beside]

theorem filter_reflected (entity : Entity)
    (notConnection : entity ≠ .connection connection.connectionId) :
    (connection.reflected namespaceIndex).filter
        (fun object => object.Beside (entity.nodeId namespaceIndex)) =
      ⟨(Entity.connection connection.connectionId).nodeId namespaceIndex, []⟩ ::
        ((sideReflected namespaceIndex .writers connection.connectionId (·.writerGroupId) writersOf
            connection.writerGroups).filter
              (fun object => object.Beside (entity.nodeId namespaceIndex)) ++
          (sideReflected namespaceIndex .readers connection.connectionId (·.readerGroupId) readersOf
            connection.readerGroups).filter
              (fun object => object.Beside (entity.nodeId namespaceIndex))) := by
  rw [reflected_eq, filter_cons_of_pos, filter_append]
  simp [Reflected.Beside, notConnection.symm]

section

variable (unique : connection.UniqueIds)
include unique

variable {place : Place WriterGroupConfig Unit}

theorem reflected_removeWriterGroup (split : connection.writerGroups = place.put place.here) :
    (connection.reflected namespaceIndex).filter (fun object =>
        object.Beside ((Entity.group .writers connection.connectionId
          place.here.writerGroupId).nodeId namespaceIndex)) =
      reflected namespaceIndex { connection with writerGroups := place.remove } := by
  have ids := unique.writerGroups.1
  rw [writerGroupIds, split] at ids
  rw [filter_reflected (.group .writers connection.connectionId place.here.writerGroupId) (by simp),
    reflected_eq, split, sideReflected_remove ids,
    filter_sideReflected (.group .writers connection.connectionId place.here.writerGroupId)
      (by simp)
      (by simp [mem_sideEntities])]

theorem reflected_removeReaderGroup {place : Place ReaderGroupConfig Unit}
    (split : connection.readerGroups = place.put place.here) :
    (connection.reflected namespaceIndex).filter (fun object =>
        object.Beside ((Entity.group .readers connection.connectionId
          place.here.readerGroupId).nodeId namespaceIndex)) =
      reflected namespaceIndex { connection with readerGroups := place.remove } := by
  have ids := unique.readerGroups.1
  rw [readerGroupIds, split] at ids
  rw [filter_reflected (.group .readers connection.connectionId place.here.readerGroupId) (by simp),
    reflected_eq, split, sideReflected_remove ids,
    filter_sideReflected (.group .readers connection.connectionId place.here.readerGroupId)
      (by simp)
      (by simp [mem_sideEntities])]

theorem reflected_removeDatasetWriter
    (split : connection.writerGroups = place.put place.here) {id : UInt16}
    (member : id ∈ writersOf place.here) {without : WriterGroupConfig}
    (same : without.writerGroupId = place.here.writerGroupId)
    (left : (writersOf place.here).filter (fun other => other ≠ id) = writersOf without) :
    (connection.reflected namespaceIndex).filter (fun object => object.Beside
        ((Entity.member .writers connection.connectionId id).nodeId namespaceIndex)) =
      reflected namespaceIndex { connection with writerGroups := place.put without } := by
  have members := unique.datasetWriters.1
  rw [datasetWriterIds, split] at members
  rw [filter_reflected (.member .writers connection.connectionId id) (by simp),
    reflected_eq, split, sideReflected_put same member members left,
    filter_sideReflected (.member .writers connection.connectionId id) (by simp)
      (by simp [mem_sideEntities])]

theorem reflected_removeDatasetReader {place : Place ReaderGroupConfig Unit}
    (split : connection.readerGroups = place.put place.here) {id : UInt16}
    (member : id ∈ readersOf place.here) {without : ReaderGroupConfig}
    (same : without.readerGroupId = place.here.readerGroupId)
    (left : (readersOf place.here).filter (fun other => other ≠ id) = readersOf without) :
    (connection.reflected namespaceIndex).filter (fun object => object.Beside
        ((Entity.member .readers connection.connectionId id).nodeId namespaceIndex)) =
      reflected namespaceIndex { connection with readerGroups := place.put without } := by
  have members := unique.datasetReaders.1
  rw [datasetReaderIds, split] at members
  rw [filter_reflected (.member .readers connection.connectionId id) (by simp),
    reflected_eq, split, sideReflected_put same member members left,
    filter_sideReflected (.member .readers connection.connectionId id) (by simp)
      (by simp [mem_sideEntities])]

end

end PubSubConnectionConfig

/-! ### What is deleted -/

section Deleted

variable {namespaceIndex : UInt16} {connectionId : String} {entity : Entity}

theorem mem_deleteDatasetWriterNodes (writer : DataSetWriterConfig) :
    (Entity.member .writers connectionId writer.datasetWriterId).nodeId namespaceIndex ∈
      deleteDatasetWriterNodes namespaceIndex connectionId writer :=
  mem_cons_of_mem _ mem_cons_self

theorem mem_deleteDatasetReaderNodes (reader : DataSetReaderConfig) :
    (Entity.member .readers connectionId reader.datasetReaderId).nodeId namespaceIndex ∈
      deleteDatasetReaderNodes namespaceIndex connectionId reader :=
  mem_cons_of_mem _ mem_cons_self

theorem mem_deleteWriterGroupNodes {group : WriterGroupConfig}
    (member : entity ∈ groupEntities .writers connectionId (·.writerGroupId) writersOf group) :
    entity.nodeId namespaceIndex ∈ deleteWriterGroupNodes namespaceIndex connectionId group := by
  rcases mem_cons.mp member with rfl | member
  · exact mem_append_right _ (mem_cons_of_mem _ mem_cons_self)
  · obtain ⟨id, within, rfl⟩ := mem_map.mp member
    obtain ⟨writer, there, rfl⟩ := mem_map.mp within
    exact mem_append_left _
      (mem_flatMap.mpr ⟨writer, there, mem_deleteDatasetWriterNodes writer⟩)

theorem mem_deleteReaderGroupNodes {group : ReaderGroupConfig}
    (member : entity ∈ groupEntities .readers connectionId (·.readerGroupId) readersOf group) :
    entity.nodeId namespaceIndex ∈ deleteReaderGroupNodes namespaceIndex connectionId group := by
  rcases mem_cons.mp member with rfl | member
  · exact mem_append_right _ (mem_cons_of_mem _ mem_cons_self)
  · obtain ⟨id, within, rfl⟩ := mem_map.mp member
    obtain ⟨reader, there, rfl⟩ := mem_map.mp within
    exact mem_append_left _
      (mem_flatMap.mpr ⟨reader, there, mem_deleteDatasetReaderNodes reader⟩)

theorem mem_deleteConnectionNodes {connection : PubSubConnectionConfig}
    (member : entity ∈ connection.entities) :
    entity.nodeId namespaceIndex ∈ deleteConnectionNodes namespaceIndex connection := by
  rw [PubSubConnectionConfig.entities, mem_cons, mem_append] at member
  dsimp only [deleteConnectionNodes]
  rw [mem_append, mem_append]
  rcases member with rfl | writing | reading
  · exact inr mem_cons_self
  · obtain ⟨group, there, member⟩ := mem_flatMap.mp writing
    exact inl (inl (mem_flatMap.mpr ⟨group, there, mem_deleteWriterGroupNodes member⟩))
  · obtain ⟨group, there, member⟩ := mem_flatMap.mp reading
    exact inl (inr (mem_flatMap.mpr ⟨group, there, mem_deleteReaderGroupNodes member⟩))

end Deleted

end AsyncOpcua.Pubsub
