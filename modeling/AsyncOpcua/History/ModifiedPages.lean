/-
**The modified pages of the tables.**
-/

import AsyncOpcua.History.RawPages

namespace AsyncOpcua.History

open Foundation List ModifiedRow
open Types

namespace SqliteHistoryBackend

variable {NodeId Value : Type} {codec : Codec Value} {text : NodeId → String}

def modifiedRows (table : List ModifiedRow) (nodeId : String) (lo hi : ℤ) : List ModifiedRow :=
  orderBy key (table.filter fun row => row.toHistoricalRow.isIn nodeId lo hi)

variable {table : List ModifiedRow} {nodeId : String} {lo hi clock : ℤ}

theorem Logged.distinct (logged : Logged table clock) :
    (table.filter fun row => row.toHistoricalRow.isIn nodeId lo hi).Pairwise
      fun a b => a.key ≠ b.key := by
  refine (logged.filter _).increasing.imp fun {a b} before same => ?_
  have rowids : a.rowid = b.rowid := congrArg (fun key => (ofLex (ofLex key).2).2) same
  exact absurd rowids (ne_of_lt before.2)

theorem modifiedRows_ascending (logged : Logged table clock) :
    Ascending key (modifiedRows table nodeId lo hi) :=
  orderBy_ascending logged.distinct

def modifiedCursorAt (first : HistoryReadCursor NodeId) (row : ModifiedRow) :
    HistoryReadCursor NodeId :=
  { first with
    lastSourceTimestamp := row.sourceTimestamp
    lastModificationTime := row.modificationTime
    lastModifiedRowid := row.rowid }

theorem before_iff {row later : ModifiedRow} :
    row.continuationKey.before later = decide (row.key < later.key) := by
  unfold ModifiedContinuationKey.before continuationKey key
  rw [decide_eq_decide, Prod.Lex.toLex_lt_toLex, Prod.Lex.toLex_lt_toLex, and_or_left]

variable {first cursor : HistoryReadCursor NodeId} {resumeAfter : Option ℤ}
  {rest : List ModifiedRow}

def resumeKey (cursor : HistoryReadCursor NodeId) (resumeAfter : Option ℤ) :
    Option ModifiedContinuationKey :=
  resumeAfter.map fun sourceTicks =>
    ⟨sourceTicks, cursor.lastModificationTime, cursor.lastModifiedRowid⟩

theorem filter_modified_leaves (logged : Logged table clock)
    (leaves : Leaves (modifiedRows table nodeId lo hi) first (modifiedCursorAt first) cursor
      resumeAfter rest) :
    ((modifiedRows table nodeId lo hi).filter fun row =>
      (resumeKey cursor resumeAfter).all fun key => key.before row) = rest := by
  rcases leaves with ⟨-, rfl, rfl⟩ | ⟨front, row, split, rfl, rfl⟩
  · exact filter_eq_self.mpr fun _ _ => rfl
  · rw [← (modifiedRows_ascending logged).filter_after split]
    refine filter_congr fun later _ => ?_
    exact before_iff

theorem mem_of_modified_leaves (logged : Logged table clock)
    (leaves : Leaves (modifiedRows table nodeId lo hi) first (modifiedCursorAt first) cursor
      resumeAfter rest) {row : ModifiedRow} (member : row ∈ rest) :
    row ∈ modifiedRows table nodeId lo hi := by
  rw [← filter_modified_leaves logged leaves] at member
  exact (mem_filter.mp member).1

theorem cursor_of_modified_leaves {rows : List ModifiedRow}
    (leaves : Leaves rows first (modifiedCursorAt first) cursor resumeAfter rest) :
    ∃ last modification rowid, cursor = { first with
      lastSourceTimestamp := last, lastModificationTime := modification
      lastModifiedRowid := rowid } := by
  rcases leaves with ⟨rfl, -⟩ | ⟨-, row, -, rfl, -⟩
  · exact ⟨_, _, _, rfl⟩
  · exact ⟨_, _, _, rfl⟩

def modifiedPage (pageSize : ℕ)
    (rows : List (DataValue Value × ModificationInfo × ModifiedContinuationKey)) :
    List (DataValue Value) × List ModificationInfo × Option ModifiedContinuationKey :=
  if pageSize < rows.length then
    ((rows.take pageSize).map (·.1), (rows.take pageSize).map (·.2.1),
      (rows.take pageSize).getLast?.map (·.2.2))
  else (rows.map (·.1), rows.map (·.2.1), none)

theorem fetchModifiedValues_eq (logged : Logged table clock)
    (readable : ∀ row ∈ modifiedRows table nodeId lo hi, (rowToModifiedPageRow codec row).isSome)
    (leaves : Leaves (modifiedRows table nodeId lo hi) first (modifiedCursorAt first) cursor
      resumeAfter rest) (pageSize : ℕ) :
    fetchModifiedValues codec table nodeId lo hi (resumeKey cursor resumeAfter) pageSize =
      some (modifiedPage pageSize
        ((rest.take (pageSize + 1)).filterMap (rowToModifiedPageRow codec))) := by
  have rows : orderBy key (table.filter fun row =>
      row.toHistoricalRow.isIn nodeId lo hi &&
        (resumeKey cursor resumeAfter).all fun key => key.before row) = rest := by
    rw [← filter_modified_leaves logged leaves, modifiedRows, ← orderBy_filter logged.distinct,
      filter_filter]
    congr 2
    funext row
    exact Bool.and_comm _ _
  unfold fetchModifiedValues modifiedPage
  dsimp only
  rw [rows, mapM_eq_filterMap fun row member =>
    readable row (mem_of_modified_leaves logged leaves (mem_of_mem_take member))]
  simp only [Option.map_some, decide_eq_true_eq]
  split_ifs <;> rfl

theorem rowToModifiedPageRow_key {row : ModifiedRow}
    {read : DataValue Value × ModificationInfo × ModifiedContinuationKey}
    (isRead : rowToModifiedPageRow codec row = some read) : read.2.2 = row.continuationKey := by
  obtain ⟨value, -, mapped⟩ := Option.bind_eq_some_iff.mp isRead
  obtain ⟨updateType, -, rfl⟩ := Option.map_eq_some_iff.mp mapped
  rfl

def modifiedValue (codec : Codec Value) (row : ModifiedRow) : Option (DataValue Value) :=
  (rowToModifiedPageRow codec row).map (·.1)

theorem pagesOf_modified {s : SqliteHistoryBackend NodeId}
    (logged : Logged s.modifiedHistoricalData clock) {node : NodeId} (startTime endTime : ℤ)
    (readable : ∀ row ∈ modifiedRows s.modifiedHistoricalData (text node) (ticks startTime)
      (ticks endTime), (rowToModifiedPageRow codec row).isSome) :
    PagesOf codec text s
      (modifiedRows s.modifiedHistoricalData (text node) (ticks startTime) (ticks endTime))
      (modifiedValue codec) (firstCursor node startTime endTime true)
      (modifiedCursorAt (firstCursor node startTime endTime true)) := by
  have values (rows : List ModifiedRow) :
      (rows.filterMap (rowToModifiedPageRow codec)).map (·.1) =
        rows.filterMap (modifiedValue codec) :=
    map_filterMap
  refine ⟨fun row member => ?_, ?_, ?_⟩
  · rw [modifiedValue, Option.isSome_map]
    exact readable row member
  · intro t cursor resumeAfter rest pageSize instant same leaves fits
    have page := fetchModifiedValues_eq logged readable leaves pageSize
    have short : ¬ pageSize < (rest.filterMap (rowToModifiedPageRow codec)).length :=
      not_lt.mpr (le_trans (length_filterMap_le _ _) fits)
    rw [← same.2, take_of_length_le (Nat.le_succ_of_le fits), modifiedPage, if_neg short,
      values] at page
    obtain ⟨last, modification, rowid, rfl⟩ := cursor_of_modified_leaves leaves
    unfold readPage
    simp only [firstCursor, if_true]
    unfold resumeKey at page
    rw [page]
    rfl
  · rintro t cursor resumeAfter taken row later _ instant same leaves rfl more
    have page := fetchModifiedValues_eq logged readable leaves (taken.length + 1)
    have each : ∀ other ∈ taken ++ row :: later, (rowToModifiedPageRow codec other).isSome :=
      fun other member => readable other (mem_of_modified_leaves logged leaves member)
    have longer : taken.length + 1 < (((taken ++ row :: later).take
        (taken.length + 1 + 1)).filterMap (rowToModifiedPageRow codec)).length := by
      rw [length_filterMap fun other member => each other (mem_of_mem_take member),
        length_take, length_append, length_cons]
      have := length_pos_iff.mpr more
      omega
    obtain ⟨read, isRead⟩ := Option.isSome_iff_exists.mp
      (each row (mem_append_right _ mem_cons_self))
    have lastKey : ((taken ++ [row]).filterMap (rowToModifiedPageRow codec)).getLast?.map
        (·.2.2) = some row.continuationKey := by
      rw [filterMap_append, filterMap_cons_some isRead, filterMap_nil,
        getLast?_concat, Option.map_some, rowToModifiedPageRow_key isRead]
    rw [← same.2, modifiedPage, if_pos longer, filterMap_page each, lastKey, values] at page
    obtain ⟨last, modification, rowid, rfl⟩ := cursor_of_modified_leaves leaves
    unfold readPage
    simp only [firstCursor, if_true]
    unfold resumeKey at page
    rw [page]
    rfl

end SqliteHistoryBackend

end AsyncOpcua.History
