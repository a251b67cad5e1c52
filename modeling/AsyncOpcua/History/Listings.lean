/-
**The rows of the tables are the entries of the memory.**
-/

import AsyncOpcua.History.MemoryReads
import AsyncOpcua.History.ModifiedPages
import AsyncOpcua.History.Updates

namespace AsyncOpcua.History

open Foundation HistoricalRow OrderedMap InMemoryDataHistory
open Types

open SqliteHistoryBackend

open List

namespace Represents

variable {NodeId Value : Type} {codec : Codec Value} {text : NodeId → String} {nodes : Set NodeId}
  {s : SqliteHistoryBackend NodeId} {history : InMemoryDataHistory NodeId Value} {clock : ℤ}
  {node : NodeId} {lo hi : ℤ}

/-! ### Raw values -/

theorem find?_of_mem {table : List HistoricalRow} (unique : SqliteHistoryBackend.Unique table)
    {row : HistoricalRow} (member : row ∈ table) :
    table.find? (isAt row.nodeId row.sourceTimestamp) = some row := by
  have only : table.filter (isAt row.nodeId row.sourceTimestamp) = _ :=
    unique.filter_isAt
  have kept : row ∈ table.filter (isAt row.nodeId row.sourceTimestamp) :=
    mem_filter.mpr ⟨member, isAt_iff.mpr ⟨rfl, rfl⟩⟩
  rw [only, Option.mem_toList] at kept
  exact kept

theorem mem_rawListing {tick : ℤ} {value : DataValue Value} :
    (tick, value) ∈ history.rawListing node lo hi ↔
      history.rawAt node tick = some value ∧ lo ≤ tick ∧ tick < hi := by
  rw [rawListing, OrderedMap.mem_range, find?_rawValues]

section

variable (represents : Represents codec text nodes s history clock) (there : node ∈ nodes)
include represents there

theorem rawRows_eq :
    rawRows s.historicalData (text node) lo hi =
      (history.rawListing node lo hi).map fun entry =>
        rowOf codec (text node) 0 entry.2 := by
  have timed {tick : ℤ} {value : DataValue Value}
      (present : history.rawAt node tick = some value) :=
    represents.rowOf_sourceTimestamp present (text node)
  refine Ascending.ext (rawRows_ascending represents.unique)
    (pairwise_map.mpr (List.Pairwise.imp_of_mem (fun {a b} left right before => ?_)
      (range_ascending _ lo hi))) fun row => ?_
  · rw [timed (mem_rawListing.mp left).1, timed (mem_rawListing.mp right).1]
    exact before
  · rw [rawRows, mem_orderBy, mem_filter, mem_map]
    constructor
    · rintro ⟨member, inside⟩
      obtain ⟨named, after, before⟩ := of_decide_eq_true inside
      have found := find?_of_mem represents.unique member
      rw [named] at found
      have stored := (represents.raw node there row.sourceTimestamp).symm.trans found
      obtain ⟨value, present, isRow⟩ := Option.map_eq_some_iff.mp stored
      exact ⟨(row.sourceTimestamp, value), mem_rawListing.mpr ⟨present, after, before⟩, isRow⟩
    · rintro ⟨⟨tick, value⟩, member, rfl⟩
      obtain ⟨present, after, before⟩ := mem_rawListing.mp member
      have stored := represents.raw node there tick
      rw [present] at stored
      refine ⟨mem_of_find?_eq_some stored, ?_⟩
      rw [isIn_eq rfl (timed present)]
      exact decide_eq_true ⟨rfl, after, before⟩

theorem rawReadable :
    ∀ row ∈ rawRows s.historicalData (text node) lo hi,
      Readable codec row := by
  rw [represents.rawRows_eq there]
  intro row member
  obtain ⟨⟨tick, value⟩, listed, rfl⟩ := mem_map.mp member
  have explicit := (represents.rawExplicit node tick value (mem_rawListing.mp listed).1).1
  refine ⟨?_, ?_⟩
  · rw [explicit.rowToDataValue_rowOf]
    rfl
  · obtain ⟨time, sourced, convertible⟩ := explicit.source
    rw [rowOf, sourced]
    exact congrArg ticks convertible

theorem rawValues_eq :
    (rawRows s.historicalData (text node) lo hi).filterMap
        (rowToDataValue codec) = (history.rawListing node lo hi).map Prod.snd := by
  rw [represents.rawRows_eq there, filterMap_map]
  refine filterMap_eq_map_iff_forall_eq_some.mpr fun entry listed => ?_
  exact (represents.rawExplicit node entry.1 entry.2
    (mem_rawListing.mp listed).1).1.rowToDataValue_rowOf _ _

end

/-! ### Modified values -/

/-- **The modified rows of an interval** are those of its ticks, one tick after the other. -/
theorem modifiedRows_eq (represents : Represents codec text nodes s history clock)
    (there : node ∈ nodes) :
    modifiedRows s.modifiedHistoricalData (text node) lo hi =
      (((history.modifiedValues node).getD .empty).range lo hi).flatMap
        fun entry => s.movedAt (text node) entry.1 := by
  have keyed {tick : ℤ} {row : ModifiedRow} (member : row ∈ s.movedAt (text node) tick) :=
    isAt_iff.mp (mem_filter.mp member).2
  refine Ascending.ext (modifiedRows_ascending represents.logged)
    (pairwise_flatMap.mpr ⟨fun entry _ => ?_,
      (range_ascending _ lo hi).imp fun {a b} before row left row' right => ?_⟩)
    fun row => ?_
  · refine List.Pairwise.imp_of_mem (fun {a b} left right before => ?_)
      (represents.logged.filter _).increasing
    refine Prod.Lex.toLex_lt_toLex.mpr
      (.inr ⟨(keyed left).2.trans (keyed right).2.symm, Prod.Lex.toLex_lt_toLex.mpr ?_⟩)
    rcases lt_or_eq_of_le before.1 with earlier | same
    · exact .inl earlier
    · exact .inr ⟨same, before.2⟩
  · refine Prod.Lex.toLex_lt_toLex.mpr (.inl ?_)
    rw [(keyed left).2, (keyed right).2]
    exact before
  · rw [modifiedRows, mem_orderBy, mem_filter, mem_flatMap]
    constructor
    · rintro ⟨member, inside⟩
      obtain ⟨named, after, before⟩ := of_decide_eq_true inside
      have moved : row ∈ s.movedAt (text node) row.sourceTimestamp :=
        mem_filter.mpr ⟨member, isAt_iff.mpr ⟨named, rfl⟩⟩
      have rows := represents.modified node there row.sourceTimestamp
      cases found : ((history.modifiedValues node).getD .empty).find? row.sourceTimestamp with
      | none =>
        rw [← history.find?_modifiedValues, found, Option.getD_none, map_nil,
          map_eq_nil_iff] at rows
        exact absurd moved (rows ▸ not_mem_nil)
      | some entries =>
        exact ⟨(row.sourceTimestamp, entries),
          (mem_range _).mpr ⟨found, after, before⟩, moved⟩
    · rintro ⟨⟨tick, entries⟩, inRange, moved⟩
      obtain ⟨-, after, before⟩ := (mem_range _).mp inRange
      obtain ⟨named, timed⟩ := keyed moved
      refine ⟨(mem_filter.mp moved).1, ?_⟩
      rw [isIn_eq named timed]
      exact decide_eq_true ⟨rfl, after, before⟩

theorem fromI64_updateTypeToI64 (updateType : HistoryUpdateType) :
    historyUpdateTypeFromI64 (updateTypeToI64 updateType) = some updateType := by
  cases updateType <;> rfl

def readPair (codec : Codec Value) (pair : HistoricalRow × ℤ) : Option (DataValue Value) :=
  (rowToDataValue codec pair.1).bind fun value =>
    (historyUpdateTypeFromI64 pair.2).map fun _ => value

theorem modifiedValue_eq (row : ModifiedRow) :
    modifiedValue codec row =
      readPair codec (row.toHistoricalRow, row.updateType) := by
  unfold readPair modifiedValue rowToModifiedPageRow
  cases rowToDataValue codec row.toHistoricalRow with
  | none => rfl
  | some value => cases historyUpdateTypeFromI64 row.updateType <;> rfl

section

variable (represents : Represents codec text nodes s history clock) (there : node ∈ nodes)
include represents there

theorem read_movedAt (tick : ℤ) :
    (∀ row ∈ s.movedAt (text node) tick, (rowToModifiedPageRow codec row).isSome) ∧
      (s.movedAt (text node) tick).filterMap (modifiedValue codec) =
        (history.modifiedAt node tick).map Prod.fst := by
  have rows := represents.modified node there tick
  have read : ∀ entry ∈ history.modifiedAt node tick,
      readPair codec (rowOf codec (text node) 0 entry.1,
        updateTypeToI64 entry.2.updateType) = some entry.1 := by
    intro entry listed
    have value := (represents.modifiedExplicit node tick entry listed).1.rowToDataValue_rowOf
      (text node) 0
    rw [readPair, value, Option.bind_some, fromI64_updateTypeToI64]
    rfl
  constructor
  · intro row member
    have pair : (row.toHistoricalRow, row.updateType) ∈ (s.movedAt (text node) tick).map
        fun row => (row.toHistoricalRow, row.updateType) := mem_map.mpr ⟨row, member, rfl⟩
    rw [rows, mem_map] at pair
    obtain ⟨entry, listed, same⟩ := pair
    have value : modifiedValue codec row = some entry.1 := by
      rw [modifiedValue_eq, ← same, read entry listed]
    rw [← Option.isSome_map (f := (·.1)), ← modifiedValue, value]
    rfl
  · have pairs : modifiedValue codec =
        readPair codec ∘ fun row => (row.toHistoricalRow, row.updateType) :=
      funext modifiedValue_eq
    rw [pairs, ← filterMap_map, rows, filterMap_map]
    exact filterMap_eq_map_iff_forall_eq_some.mpr read

theorem modifiedReadable :
    ∀ row ∈ modifiedRows s.modifiedHistoricalData (text node) lo hi,
      (rowToModifiedPageRow codec row).isSome := by
  rw [represents.modifiedRows_eq there]
  intro row member
  obtain ⟨entry, -, moved⟩ := mem_flatMap.mp member
  exact (represents.read_movedAt there entry.1).1 row moved

theorem modifiedValues_eq :
    (modifiedRows s.modifiedHistoricalData (text node) lo hi).filterMap
        (modifiedValue codec) =
      (history.modifiedListing node lo hi).map fun (_, _, entry) => entry.1 := by
  rw [represents.modifiedRows_eq there, filterMap_flatMap,
    modifiedListing, entriesFrom, map_flatMap]
  refine flatMap_congr fun ⟨tick, entries⟩ inRange => ?_
  obtain ⟨found, -⟩ := (mem_range _).mp inRange
  have here : history.modifiedAt node tick = entries := by
    rw [← history.find?_modifiedValues, found]
    rfl
  dsimp only
  rw [(represents.read_movedAt there tick).2, here, ite_self, drop_zero, map_map]
  nth_rewrite 1 [← zipIdx_map_fst 0 entries]
  rw [map_map]
  rfl

end

/-! ### Complete reads -/

/-- **A complete read of the tables returns the listing of the memory,** and there is one if every
continuation point is used before it is too old. -/
theorem reads_tables (represents : Represents codec text nodes s history clock)
    (there : node ∈ nodes) {startTime endTime : ℤ} (forward : startTime < endTime)
    (isReadModified : Bool) (requests : ℕ → ℕ × ℕ) :
    (∀ values, (pages codec text node startTime endTime isReadModified).Reads
        requests s values →
          values = history.listing node isReadModified (ticks startTime) (ticks endTime)) ∧
      ((∀ i, (requests (i + 1)).2 - (requests i).2 <
          SqliteHistoryBackend.CONTINUATION_POINT_MAX_AGE) →
        (pages codec text node startTime endTime isReadModified).Reads requests
          s (history.listing node isReadModified (ticks startTime) (ticks endTime))) := by
  cases isReadModified with
  | false =>
    have reads := (pagesOf_raw represents.unique forward
      (represents.rawReadable there)).reads requests
    rw [represents.rawValues_eq there] at reads
    exact reads
  | true =>
    have reads := (pagesOf_modified represents.logged startTime endTime
      (represents.modifiedReadable there)).reads requests
    rw [represents.modifiedValues_eq there] at reads
    exact reads

end Represents

end AsyncOpcua.History
