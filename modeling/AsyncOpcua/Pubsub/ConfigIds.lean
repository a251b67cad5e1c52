/-
**The ids within a connection, and what each Method does to them.**

* `uniqueIds_addWriterGroup`, … — which entities can be added to it.
-/

import AsyncOpcua.Foundation.Labels
import AsyncOpcua.Pubsub.ConfigMethods
import Mathlib.Data.UInt

namespace AsyncOpcua.Pubsub

open Foundation UInt16 PubSubConfiguration
open Types hiding Variant DataValue

/-! ### Ids as numbers -/

theorem toNat_injective : Function.Injective UInt16.toNat := fun _ _ => UInt16.toNat_inj.mp

variable {ids : List UInt16}

theorem areLabels_toNat : AreLabels (ids.map toNat) ↔ AreLabels ids :=
  areLabels_map toNat_injective rfl

open List

theorem toNat_le_max : ∀ id ∈ ids.map toNat, id ≤ 65535 := by
  rw [forall_mem_map]
  intro id _
  have := id.toNat_lt
  omega

theorem toNat_saturatingSucc (id : UInt16) :
    (saturatingSucc id).toNat = min (id.toNat + 1) 65535 := by
  have below := id.toNat_lt
  unfold saturatingSucc
  by_cases last : id = 65535
  · rw [if_pos last, last]
    rfl
  · have less : id.toNat ≠ 65535 := fun same => last (toNat_injective same)
    rw [if_neg last, UInt16.toNat_add, UInt16.toNat_one]
    omega

theorem toNat_max (a b : UInt16) : (max a b).toNat = max a.toNat b.toNat := by
  rw [show max a b = if a ≤ b then b else a from rfl]
  by_cases le : a ≤ b
  · rw [if_pos le, max_eq_right (le_iff_toNat_le.mp le)]
  · rw [if_neg le, max_eq_left]
    rw [le_iff_toNat_le] at le
    omega

theorem toNat_foldl_max (ids : List UInt16) (first : UInt16) :
    (ids.foldl max first).toNat = max first.toNat (highest (ids.map toNat)) := by
  induction ids generalizing first with
  | nil => exact (Nat.max_zero _).symm
  | cons id ids ih =>
    rw [foldl_cons, ih, toNat_max, map_cons, highest_cons, max_assoc]

theorem toNat_nextId (existing : List UInt16) :
    (nextId existing).toNat = min (highest (existing.map toNat) + 1) 65535 := by
  unfold nextId
  cases existing with
  | nil => rfl
  | cons first others =>
    rw [show (first :: others).max? = some (others.foldl max first) from rfl]
    rw [toNat_saturatingSucc, toNat_foldl_max, map_cons, highest_cons]

/-- **There are this many ids after the highest one in use.** -/
def Room (ids : List UInt16) (count : ℕ) : Prop :=
  count = 0 ∨ highest (ids.map toNat) + count ≤ 65535

/-! ### New ids -/

theorem counted_min (top start count : ℕ) :
    counted top (min start top) count = counted top start count := by
  refine map_congr_left fun i _ => ?_
  omega

variable {α : Type}

theorem toNat_renumber {give : α → UInt16 → α} {idOf : α → UInt16}
    (given : ∀ x id, idOf (give x id) = id) (next : UInt16) (xs : List α) :
    ((renumber give next xs).map idOf).map toNat = counted 65535 next.toNat xs.length := by
  induction xs generalizing next with
  | nil => rfl
  | cons x xs ih =>
    have below := next.toNat_lt
    rw [renumber, map_cons, map_cons, ih, given, toNat_saturatingSucc, counted_min,
      length_cons, counted_succ, min_eq_left (by omega)]

theorem areLabels_renumbered (give : α → UInt16 → α) (idOf : α → UInt16)
    (given : ∀ x id, idOf (give x id) = id) (ids : List UInt16) (xs : List α) :
    AreLabels (ids ++ (renumber give (nextId ids) xs).map idOf) ↔
      AreLabels ids ∧ Room ids xs.length := by
  rw [← areLabels_toNat, map_append, toNat_renumber given, toNat_nextId, counted_min,
    areLabels_append_counted toNat_le_max (by decide), areLabels_toNat]
  rfl

theorem areLabels_nextId : AreLabels (ids ++ [nextId ids]) ↔ AreLabels ids ∧ Room ids 1 :=
  areLabels_renumbered (fun _ id => id) id (fun _ _ => rfl) ids [0]

/-- An id is kept if it is requested, or there is room for a new one. -/
def Choosable (ids : List UInt16) (requested : UInt16) : Prop :=
  (requested ≠ 0 ∧ requested ∉ ids) ∨ Room ids 1

/-- **A requested id that is 0 or taken is replaced by a new one.** -/
theorem areLabels_chosen {requested : UInt16} :
    AreLabels (ids ++
        [if requested = 0 ∨ ids.any (· == requested) then nextId ids else requested]) ↔
      AreLabels ids ∧ Choosable ids requested := by
  have taken : ids.any (· == requested) = true ↔ requested ∈ ids := by simp
  by_cases replaced : requested = 0 ∨ ids.any (· == requested)
  · rw [if_pos replaced, areLabels_nextId]
    refine and_congr_right fun _ => (or_iff_right ?_).symm
    tauto
  · rw [if_neg replaced, areLabels_concat]
    refine and_congr_right fun _ => (iff_true_right ?_).mpr ?_
    all_goals
      rw [taken, not_or] at replaced
    · exact Or.inl replaced
    · exact replaced

theorem toNat_oneBasedU16Id (index : ℕ) : (oneBasedU16Id index).toNat = min (1 + index) 65535 := by
  unfold oneBasedU16Id
  by_cases within : index + 1 ≤ 65535
  · rw [if_pos within, toNat_ofNat_of_lt' (Nat.lt_succ_of_le within)]
    omega
  · rw [if_neg within, min_eq_right (by omega)]
    rfl

theorem toNat_oneBased {β : Type} (give : UInt16 → α → β) (idOf : β → UInt16)
    (given : ∀ id x, idOf (give id x) = id) (xs : List α) :
    ((xs.mapIdx fun index x => give (oneBasedU16Id index) x).map idOf).map toNat =
      counted 65535 1 xs.length := by
  refine ext_getElem (by simp [counted]) fun i _ _ => ?_
  simp [counted, given, toNat_oneBasedU16Id]

theorem flatMap_mapIdx {β γ : Type} {give : ℕ → α → β} {f : β → List γ} {g : α → List γ}
    (same : ∀ index x, f (give index x) = g x) (xs : List α) :
    (xs.mapIdx give).flatMap f = xs.flatMap g := by
  induction xs generalizing give with
  | nil => rfl
  | cons x xs ih =>
    rw [mapIdx_cons, flatMap_cons, flatMap_cons, same,
      ih fun index => same (index + 1)]

/-! ### Unique ids -/

structure PubSubConnectionConfig.UniqueIds (connection : PubSubConnectionConfig) : Prop where
  writerGroups : AreLabels connection.writerGroupIds
  datasetWriters : AreLabels connection.datasetWriterIds
  readerGroups : AreLabels connection.readerGroupIds
  datasetReaders : AreLabels connection.datasetReaderIds

namespace PubSubConnectionDataType

def writerGroupIds (value : PubSubConnectionDataType) : List UInt16 :=
  (value.writerGroups.getD []).map (·.writerGroupId)

def datasetWriterIds (value : PubSubConnectionDataType) : List UInt16 :=
  (value.writerGroups.getD []).flatMap fun group =>
    (group.dataSetWriters.getD []).map (·.dataSetWriterId)

def readerCounts (value : PubSubConnectionDataType) : List ℕ :=
  (value.readerGroups.getD []).map fun group => (group.dataSetReaders.getD []).length

/-- **What can be numbered**: the requested ids are unique, and at most one group has readers, which
are numbered from 1 in each group. -/
structure Numbered (value : PubSubConnectionDataType) : Prop where
  writerGroups : AreLabels value.writerGroupIds
  datasetWriters : AreLabels value.datasetWriterIds
  readerGroups : value.readerCounts.length ≤ 65535
  datasetReaders : ∀ count ∈ value.readerCounts, count ≤ 65535
  oneOfThem : value.readerCounts.Pairwise fun a b => a = 0 ∨ b = 0

end PubSubConnectionDataType

namespace PubSubConnectionConfig

section FromDataType

variable (value : PubSubConnectionDataType) (connectionId : String)

theorem writerGroupIds_fromDataType :
    (fromDataType value connectionId).writerGroupIds = value.writerGroupIds := by
  rw [writerGroupIds, fromDataType, map_map]
  rfl

theorem datasetWriterIds_fromDataType :
    (fromDataType value connectionId).datasetWriterIds = value.datasetWriterIds := by
  rw [datasetWriterIds, fromDataType, flatMap_map]
  refine congrArg List.flatten (map_congr_left fun group _ => ?_)
  rw [WriterGroupConfig.fromDataType, map_map]
  rfl

theorem toNat_readerGroupIds_fromDataType :
    (fromDataType value connectionId).readerGroupIds.map toNat =
      counted 65535 1 value.readerCounts.length := by
  rw [PubSubConnectionDataType.readerCounts, length_map]
  exact toNat_oneBased (fun id group => ReaderGroupConfig.fromDataType group id) (·.readerGroupId)
    (fun _ _ => rfl) _

theorem toNat_datasetReaderIds_fromDataType :
    (fromDataType value connectionId).datasetReaderIds.map toNat =
      value.readerCounts.flatMap (counted 65535 1) := by
  rw [datasetReaderIds, map_flatMap, PubSubConnectionDataType.readerCounts, flatMap_map]
  refine flatMap_mapIdx (fun index group => ?_) _
  exact toNat_oneBased (fun id reader => DataSetReaderConfig.fromDataType reader id)
    (·.datasetReaderId) (fun _ _ => rfl) _

theorem uniqueIds_fromDataType : (fromDataType value connectionId).UniqueIds ↔ value.Numbered := by
  have groups : AreLabels (fromDataType value connectionId).readerGroupIds ↔
      value.readerCounts.length ≤ 65535 := by
    rw [← areLabels_toNat, toNat_readerGroupIds_fromDataType,
      areLabels_counted Nat.one_ne_zero (by decide)]
    omega
  have readers : AreLabels (fromDataType value connectionId).datasetReaderIds ↔
      (∀ count ∈ value.readerCounts, count ≤ 65535) ∧
        value.readerCounts.Pairwise fun a b => a = 0 ∨ b = 0 := by
    rw [← areLabels_toNat, toNat_datasetReaderIds_fromDataType,
      areLabels_flatMap_counted (by decide)]
  have requestedGroups := writerGroupIds_fromDataType value connectionId
  have requestedWriters := datasetWriterIds_fromDataType value connectionId
  constructor
  · intro unique
    obtain ⟨counts, oneOfThem⟩ := readers.mp unique.datasetReaders
    exact ⟨requestedGroups ▸ unique.writerGroups, requestedWriters ▸ unique.datasetWriters,
      groups.mp unique.readerGroups, counts, oneOfThem⟩
  · intro numbered
    exact ⟨requestedGroups ▸ numbered.writerGroups, requestedWriters ▸ numbered.datasetWriters,
      groups.mpr numbered.readerGroups,
      readers.mpr ⟨numbered.datasetReaders, numbered.oneOfThem⟩⟩

end FromDataType

section

variable {connection : PubSubConnectionConfig} (unique : connection.UniqueIds)
include unique

theorem UniqueIds.writers_iff {groups : List WriterGroupConfig} :
    UniqueIds { connection with writerGroups := groups } ↔
      AreLabels (groups.map (·.writerGroupId)) ∧
        AreLabels (groups.flatMap fun group => group.datasetWriters.map (·.datasetWriterId)) :=
  ⟨fun all => ⟨all.writerGroups, all.datasetWriters⟩,
    fun both => ⟨both.1, both.2, unique.readerGroups, unique.datasetReaders⟩⟩

theorem UniqueIds.readers_iff {groups : List ReaderGroupConfig} :
    UniqueIds { connection with readerGroups := groups } ↔
      AreLabels (groups.map (·.readerGroupId)) ∧
        AreLabels (groups.flatMap fun group => group.datasetReaders.map (·.datasetReaderId)) :=
  ⟨fun all => ⟨all.readerGroups, all.datasetReaders⟩,
    fun both => ⟨unique.writerGroups, unique.datasetWriters, both.1, both.2⟩⟩

theorem UniqueIds.fewerWriters {groups : List WriterGroupConfig}
    (ids : (groups.map (·.writerGroupId)).Sublist connection.writerGroupIds)
    (writers : (groups.flatMap fun group => group.datasetWriters.map (·.datasetWriterId)).Sublist
      connection.datasetWriterIds) :
    UniqueIds { connection with writerGroups := groups } :=
  unique.writers_iff.mpr ⟨unique.writerGroups.sublist ids, unique.datasetWriters.sublist writers⟩

theorem UniqueIds.fewerReaders {groups : List ReaderGroupConfig}
    (ids : (groups.map (·.readerGroupId)).Sublist connection.readerGroupIds)
    (readers : (groups.flatMap fun group => group.datasetReaders.map (·.datasetReaderId)).Sublist
      connection.datasetReaderIds) :
    UniqueIds { connection with readerGroups := groups } :=
  unique.readers_iff.mpr ⟨unique.readerGroups.sublist ids, unique.datasetReaders.sublist readers⟩

theorem uniqueIds_addWriterGroup (configuration : WriterGroupDataType) :
    UniqueIds { connection with
        writerGroups := connection.writerGroups ++
          [newWriterGroup connection configuration] } ↔
      Choosable connection.writerGroupIds configuration.writerGroupId ∧
        Room connection.datasetWriterIds (configuration.dataSetWriters.getD []).length := by
  have renumbered := areLabels_renumbered
    (fun (writer : DataSetWriterConfig) next => { writer with datasetWriterId := next })
    (·.datasetWriterId) (fun _ _ => rfl) connection.datasetWriterIds
    (WriterGroupConfig.fromDataType configuration).datasetWriters
  rw [and_iff_right unique.datasetWriters, WriterGroupConfig.fromDataType, length_map] at renumbered
  rw [unique.writers_iff, map_append, flatMap_append, flatMap_singleton]
  exact and_congr (areLabels_chosen.trans (and_iff_right unique.writerGroups)) renumbered

theorem uniqueIds_addReaderGroup (configuration : ReaderGroupDataType) :
    UniqueIds { connection with
        readerGroups := connection.readerGroups ++
          [newReaderGroup connection configuration] } ↔
      Room connection.readerGroupIds 1 ∧
        Room connection.datasetReaderIds (configuration.dataSetReaders.getD []).length := by
  have renumbered := areLabels_renumbered
    (fun (reader : DataSetReaderConfig) next => { reader with datasetReaderId := next })
    (·.datasetReaderId) (fun _ _ => rfl) connection.datasetReaderIds
    (ReaderGroupConfig.fromDataType configuration (nextReaderGroupId connection)).datasetReaders
  rw [and_iff_right unique.datasetReaders, ReaderGroupConfig.fromDataType,
    length_mapIdx] at renumbered
  rw [unique.readers_iff, map_append, flatMap_append, flatMap_singleton]
  exact and_congr (areLabels_nextId.trans (and_iff_right unique.readerGroups)) renumbered

theorem uniqueIds_addDatasetWriter {place : Place WriterGroupConfig Unit}
    (split : connection.writerGroups = place.put place.here)
    (configuration : DataSetWriterDataType) :
    UniqueIds { connection with
        writerGroups := place.put { place.here with
          datasetWriters := place.here.datasetWriters ++
            [newDatasetWriter connection configuration] } } ↔
      Choosable connection.datasetWriterIds configuration.dataSetWriterId := by
  have chosen : AreLabels (connection.datasetWriterIds ++
      [(newDatasetWriter connection configuration).datasetWriterId]) ↔
        Choosable connection.datasetWriterIds configuration.dataSetWriterId :=
    areLabels_chosen.trans (and_iff_right unique.datasetWriters)
  rw [unique.writers_iff, ← chosen]
  refine (and_iff_right (unique.writerGroups.sublist ?_)).trans (areLabels_perm ?_)
  · rw [writerGroupIds, split]
    exact place.map_put_sublist rfl
  · rw [datasetWriterIds, split]
    exact place.flatMap_put_perm (by rw [map_append]; rfl)

theorem uniqueIds_addDatasetReader {place : Place ReaderGroupConfig Unit}
    (split : connection.readerGroups = place.put place.here)
    (configuration : DataSetReaderDataType) :
    UniqueIds { connection with
        readerGroups := place.put { place.here with
          datasetReaders := place.here.datasetReaders ++
            [DataSetReaderConfig.fromDataType configuration (nextDatasetReaderId connection)] } } ↔
      Room connection.datasetReaderIds 1 := by
  have numbered := areLabels_nextId.trans (and_iff_right unique.datasetReaders)
  rw [unique.readers_iff, ← numbered]
  refine (and_iff_right (unique.readerGroups.sublist ?_)).trans (areLabels_perm ?_)
  · rw [readerGroupIds, split]
    exact place.map_put_sublist rfl
  · rw [nextDatasetReaderId, datasetReaderIds, split]
    exact place.flatMap_put_perm (by rw [map_append]; rfl)

end

end PubSubConnectionConfig

end AsyncOpcua.Pubsub
