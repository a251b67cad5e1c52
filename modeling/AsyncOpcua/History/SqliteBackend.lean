/-
**History in SQLite.**

Two tables hold the raw and the modified values of all nodes, under the text of the node id. A
statement is read as what it says: `WHERE` filters the rows, `ORDER BY` sorts them, `LIMIT` takes
the first ones, a new row gets the highest rowid and one.

* `updateData`, `deleteRawModified`, `deleteAtTime` — the updates, each one transaction.
-/

import AsyncOpcua.History.DataHistory
import Mathlib.Data.Prod.Lex
import Mathlib.Data.List.Destutter

namespace AsyncOpcua.History

open Foundation
open Types

structure HistoricalRow where
  nodeId : String
  sourceTimestamp : ℤ
  serverTimestamp : ℤ
  valueBlob : List UInt8
  statusCode : ℤ

structure ModifiedRow extends HistoricalRow where
  updateType : ℤ
  modificationTime : ℤ
  userName : String
  rowid : ℕ

/-- The binary codec of data values; decoding fails on bytes that are none. -/
structure Codec (Value : Type) where
  encode : DataValue Value → List UInt8
  decode : List UInt8 → Option (DataValue Value)

structure HistoryReadCursor (NodeId : Type) where
  nodeId : NodeId
  startTime : ℤ
  endTime : ℤ
  readModified : Bool
  chronological : Bool
  returnBounds : Bool
  lastSourceTimestamp : ℤ
  lastModificationTime : ℤ
  lastModifiedRowid : ℕ

structure CachedContinuationPoint (NodeId : Type) where
  cursor : HistoryReadCursor NodeId
  createdAt : ℕ

structure SqliteHistoryBackend (NodeId : Type) where
  historicalData : List HistoricalRow
  modifiedHistoricalData : List ModifiedRow
  continuationPoints : ℕ → Option (CachedContinuationPoint NodeId)
  nextToken : ℕ

/-! ### Statements -/

def orderBy {Row κ : Type} [LinearOrder κ] (key : Row → κ) (rows : List Row) : List Row :=
  rows.mergeSort fun a b => decide (key a ≤ key b)

def ModifiedRow.key (row : ModifiedRow) : ℤ ×ₗ ℤ ×ₗ ℕ :=
  toLex (row.sourceTimestamp, toLex (row.modificationTime, row.rowid))

def nextRowid (rows : List ModifiedRow) : ℕ := (rows.map (·.rowid)).foldl max 0 + 1

def HistoricalRow.isAt (nodeId : String) (sourceTicks : ℤ) (row : HistoricalRow) : Bool :=
  decide (row.nodeId = nodeId ∧ row.sourceTimestamp = sourceTicks)

def HistoricalRow.isIn (nodeId : String) (startTicks endTicks : ℤ) (row : HistoricalRow) : Bool :=
  decide (row.nodeId = nodeId ∧ startTicks ≤ row.sourceTimestamp ∧ row.sourceTimestamp < endTicks)

def historyUpdateTypeFromI64 : ℤ → Option HistoryUpdateType
  | 1 => some .insert
  | 2 => some .replace
  | 3 => some .update
  | 4 => some .delete
  | _ => none

section Rows

variable {Value : Type} (codec : Codec Value)

def rowToDataValue (row : HistoricalRow) : Option (DataValue Value) :=
  (codec.decode row.valueBlob).map fun value =>
    { value with
      sourceTimestamp := some (fromTicks row.sourceTimestamp)
      serverTimestamp := some (fromTicks row.serverTimestamp)
      status := some (BitVec.ofInt 32 row.statusCode) }

/-- The nearest value at or before, or at or after, a time. -/
def fetchBounds (table : List HistoricalRow) (nodeId : String) (timestamp : ℤ) (findPrev : Bool) :
    Option (Option (DataValue Value)) :=
  let nearest :=
    if findPrev then
      (orderBy (·.sourceTimestamp) (table.filter fun row =>
        row.nodeId = nodeId ∧ row.sourceTimestamp ≤ timestamp)).reverse.head?
    else
      (orderBy (·.sourceTimestamp) (table.filter fun row =>
        row.nodeId = nodeId ∧ timestamp ≤ row.sourceTimestamp)).head?
  match nearest with
  | none => some none
  | some row => (rowToDataValue codec row).map some

/-- The values of a half-open interval, in time order or against it. -/
def fetchInterval (table : List HistoricalRow) (nodeId : String) (startTicks endTicks : ℤ)
    (chronological : Bool) (resumeAfter : Option ℤ) (rowLimit : ℕ) :
    Option (List (DataValue Value)) :=
  let rows :=
    if chronological then
      orderBy (·.sourceTimestamp) (table.filter fun row =>
        decide (row.nodeId = nodeId ∧ startTicks ≤ row.sourceTimestamp ∧
          row.sourceTimestamp < endTicks) &&
        resumeAfter.all fun last => decide (last < row.sourceTimestamp))
    else
      (orderBy (·.sourceTimestamp) (table.filter fun row =>
        decide (row.nodeId = nodeId ∧ row.sourceTimestamp ≤ startTicks ∧
          endTicks < row.sourceTimestamp) &&
        resumeAfter.all fun last => decide (row.sourceTimestamp < last))).reverse
  (rows.take rowLimit).mapM (rowToDataValue codec)

/-- The key after which a modified page goes on. -/
structure ModifiedContinuationKey where
  sourceTicks : ℤ
  modificationTicks : ℤ
  rowid : ℕ

def ModifiedContinuationKey.before (key : ModifiedContinuationKey) (row : ModifiedRow) : Bool :=
  decide (key.sourceTicks < row.sourceTimestamp ∨
    key.sourceTicks = row.sourceTimestamp ∧ key.modificationTicks < row.modificationTime ∨
    key.sourceTicks = row.sourceTimestamp ∧ key.modificationTicks = row.modificationTime ∧
      key.rowid < row.rowid)

def ModifiedRow.continuationKey (row : ModifiedRow) : ModifiedContinuationKey :=
  ⟨row.sourceTimestamp, row.modificationTime, row.rowid⟩

def rowToModifiedPageRow (row : ModifiedRow) :
    Option (DataValue Value × ModificationInfo × ModifiedContinuationKey) :=
  (rowToDataValue codec row.toHistoricalRow).bind fun value =>
    (historyUpdateTypeFromI64 row.updateType).map fun updateType =>
      (value, ⟨fromTicks row.modificationTime, updateType, some row.userName⟩, row.continuationKey)

def fetchModifiedValues (table : List ModifiedRow) (nodeId : String) (startTicks endTicks : ℤ)
    (resumeAfter : Option ModifiedContinuationKey) (pageSize : ℕ) :
    Option (List (DataValue Value) × List ModificationInfo × Option ModifiedContinuationKey) :=
  let rows := orderBy ModifiedRow.key (table.filter fun row =>
    row.toHistoricalRow.isIn nodeId startTicks endTicks &&
      resumeAfter.all fun key => key.before row)
  ((rows.take (pageSize + 1)).mapM (rowToModifiedPageRow codec)).map fun rows =>
    let hasMore := decide (pageSize < rows.length)
    let rows := if hasMore then rows.take pageSize else rows
    (rows.map fun row => row.1, rows.map fun row => row.2.1,
      if hasMore then rows.getLast?.map fun row => row.2.2 else none)

end Rows

/-! ### Pages -/

namespace SqliteHistoryBackend

def READ_RAW_MODIFIED_UNBOUNDED_HARD_LIMIT : ℕ := 100000

/-- Five minutes. -/
def CONTINUATION_POINT_MAX_AGE : ℕ := 300 * 1000000000

def pageSize (numValuesPerNode : ℕ) : ℕ :=
  if numValuesPerNode = 0 then READ_RAW_MODIFIED_UNBOUNDED_HARD_LIMIT else numValuesPerNode

/-- `Option<DateTime>` in its order: an absent time comes first. -/
def timeLe : Option ℤ → Option ℤ → Bool
  | none, _ => true
  | some _, none => false
  | some a, some b => decide (a ≤ b)

section Page

variable {NodeId Value : Type} (codec : Codec Value) (text : NodeId → String)

def sortHistoricalValues (startTime endTime : ℤ) (values : List (DataValue Value)) :
    List (DataValue Value) :=
  if startTime < endTime then
    values.mergeSort fun a b => timeLe a.sourceTimestamp b.sourceTimestamp
  else values.mergeSort fun a b => timeLe b.sourceTimestamp a.sourceTimestamp

/-- The page, and whether values were trimmed from it. -/
def sortDedupAndTrimPage (startTime endTime : ℤ) (pageSize : ℕ) (values : List (DataValue Value)) :
    List (DataValue Value) × Bool :=
  let values := (sortHistoricalValues startTime endTime values).destutter
    fun a b => a.sourceTimestamp ≠ b.sourceTimestamp
  if pageSize < values.length then (values.take pageSize, true) else (values, false)

def fetchRawModifiedValues (table : List HistoricalRow) (cursor : HistoryReadCursor NodeId)
    (pageSize : ℕ) (resumeAfter : Option ℤ) : Option (List (DataValue Value) × Bool) :=
  let nodeId := text cursor.nodeId
  let startTicks := ticks cursor.startTime
  let endTicks := ticks cursor.endTime
  let startBound :=
    if cursor.returnBounds && resumeAfter.isNone then
      fetchBounds codec table nodeId startTicks cursor.chronological
    else some none
  startBound.bind fun startBound =>
    (fetchInterval codec table nodeId startTicks endTicks cursor.chronological resumeAfter
        (pageSize + 1)).bind fun interval =>
      let intervalHasMore := decide (pageSize < interval.length)
      let endBound :=
        if cursor.returnBounds && !intervalHasMore then
          fetchBounds codec table nodeId endTicks (!cursor.chronological)
        else some none
      endBound.map fun endBound =>
        (startBound.toList ++ interval ++ endBound.toList, intervalHasMore)

def fetchRawModifiedPage (table : List HistoricalRow) (cursor : HistoryReadCursor NodeId)
    (pageSize : ℕ) (resumeAfter : Option ℤ) : Option (List (DataValue Value) × Bool) :=
  (fetchRawModifiedValues codec text table cursor pageSize resumeAfter).map
    fun (values, intervalHasMore) =>
      let (values, trimmed) :=
        sortDedupAndTrimPage cursor.startTime cursor.endTime pageSize values
      (values, intervalHasMore || trimmed)

variable (s : SqliteHistoryBackend NodeId)

/-- Forget the continuation points that are too old. -/
def pruneContinuationPoints (instant : ℕ) : SqliteHistoryBackend NodeId :=
  { s with
    continuationPoints := fun token => (s.continuationPoints token).filter fun cp =>
      decide (instant - cp.createdAt < CONTINUATION_POINT_MAX_AGE) }

def removeContinuationPoint (token : ℕ) : SqliteHistoryBackend NodeId :=
  { s with continuationPoints := Function.update s.continuationPoints token none }

def insertContinuationPoint (cursor : HistoryReadCursor NodeId) (instant : ℕ) :
    ℕ × SqliteHistoryBackend NodeId :=
  (s.nextToken,
    { s with
      continuationPoints := Function.update s.continuationPoints s.nextToken
        (some ⟨cursor, instant⟩)
      nextToken := s.nextToken + 1 })

def readPage (cursor : HistoryReadCursor NodeId) (resumeAfter : Option ℤ) (pageSize instant : ℕ) :
    Except StatusCode (HistoryRawModifiedResult Value ℕ) × SqliteHistoryBackend NodeId :=
  if cursor.readModified then
    let resumeAfter := resumeAfter.map fun sourceTicks =>
      ⟨sourceTicks, cursor.lastModificationTime, cursor.lastModifiedRowid⟩
    match fetchModifiedValues codec s.modifiedHistoricalData (text cursor.nodeId)
      (ticks cursor.startTime) (ticks cursor.endTime) resumeAfter pageSize with
    | none => (.error StatusCode.BadDataLost, s)
    | some (values, infos, none) => (.ok ⟨values, infos, none⟩, s)
    | some (values, infos, some key) =>
      let (token, s) := s.insertContinuationPoint
        { cursor with
          lastSourceTimestamp := key.sourceTicks
          lastModificationTime := key.modificationTicks
          lastModifiedRowid := key.rowid } instant
      (.ok ⟨values, infos, some token⟩, s)
  else
    match fetchRawModifiedPage codec text s.historicalData cursor pageSize resumeAfter with
    | none => (.error StatusCode.BadDataLost, s)
    | some (values, false) => (.ok ⟨values, [], none⟩, s)
    | some (values, true) =>
      match values.getLast?.bind (·.sourceTimestamp) with
      | none => (.ok ⟨values, [], none⟩, s)
      | some lastTime =>
        let (token, s) := s.insertContinuationPoint
          { cursor with lastSourceTimestamp := ticks lastTime } instant
        (.ok ⟨values, [], some token⟩, s)

def readRawModified (nodeId : NodeId) (startTime endTime : ℤ) (numValuesPerNode : ℕ)
    (returnBounds isReadModified : Bool) (continuationPoint : Option ℕ) (instant : ℕ) :
    Except StatusCode (HistoryRawModifiedResult Value ℕ) × SqliteHistoryBackend NodeId :=
  let s := s.pruneContinuationPoints instant
  let pageSize := pageSize numValuesPerNode
  match continuationPoint with
  | some token =>
    match s.continuationPoints token with
    | none => (.error StatusCode.BadContinuationPointInvalid, s)
    | some cp =>
      (s.removeContinuationPoint token).readPage codec text cp.cursor
        (some cp.cursor.lastSourceTimestamp) pageSize instant
  | none =>
    s.readPage codec text
      { nodeId := nodeId, startTime := startTime, endTime := endTime
        readModified := isReadModified
        chronological := decide (ticks startTime < ticks endTime)
        returnBounds := returnBounds, lastSourceTimestamp := ticks startTime
        lastModificationTime := 0, lastModifiedRowid := 0 } none pageSize instant

/-! ### Updates -/

def insertModified (row : HistoricalRow) (updateType now : ℤ) : SqliteHistoryBackend NodeId :=
  { s with
    modifiedHistoricalData := s.modifiedHistoricalData ++
      [{ row with
        updateType := updateType, modificationTime := ticks now, userName := ""
        rowid := nextRowid s.modifiedHistoricalData }] }

variable (nodeId : String)

def rowOf (now : ℤ) (value : DataValue Value) : HistoricalRow where
  nodeId := nodeId
  sourceTimestamp := ticks (value.sourceTimestamp.getD now)
  serverTimestamp := ticks (value.serverTimestamp.getD now)
  valueBlob := codec.encode value
  statusCode :=
    match value.status with
    | some status => status.toNat
    | none => 0

/-- `INSERT INTO historical_data`. -/
def insertRow (row : HistoricalRow) : SqliteHistoryBackend NodeId :=
  { s with historicalData := s.historicalData ++ [row] }

/-- `UPDATE historical_data SET .. WHERE` on the primary key. -/
def replaceRow (row : HistoricalRow) : SqliteHistoryBackend NodeId :=
  { s with
    historicalData := s.historicalData.map fun old =>
      if old.isAt row.nodeId row.sourceTimestamp then
        { old with
          serverTimestamp := row.serverTimestamp, valueBlob := row.valueBlob
          statusCode := row.statusCode }
      else old }

/-- `DELETE FROM historical_data WHERE` on the primary key. -/
def deleteRow (sourceTicks : ℤ) : SqliteHistoryBackend NodeId :=
  { s with
    historicalData := s.historicalData.filter fun row => !row.isAt nodeId sourceTicks }

def updateValue (perform : PerformUpdateType) (now : ℤ)
    (s : SqliteHistoryBackend NodeId) (value : DataValue Value) :
    StatusCode × SqliteHistoryBackend NodeId :=
  let row := rowOf codec nodeId now value
  match perform, s.historicalData.find? (HistoricalRow.isAt nodeId row.sourceTimestamp) with
  | .insert, some _ => (StatusCode.BadEntryExists, s)
  | .insert, none => (StatusCode.GoodEntryInserted, s.insertRow row)
  | .replace, some existing =>
    (StatusCode.GoodEntryReplaced, (s.insertModified existing 2 now).replaceRow row)
  | .replace, none => (StatusCode.BadNoEntryExists, s)
  | .update, some existing =>
    (StatusCode.GoodEntryReplaced, (s.insertModified existing 3 now).replaceRow row)
  | .update, none => (StatusCode.GoodEntryInserted, s.insertRow row)
  | .remove, some existing =>
    (StatusCode.Good, (s.insertModified existing 4 now).deleteRow nodeId row.sourceTimestamp)
  | .remove, none => (StatusCode.BadNoEntryExists, s)

def updateValues (perform : PerformUpdateType) (now : ℤ) :
    Component (SqliteHistoryBackend NodeId) (DataValue Value) StatusCode :=
  ⟨updateValue codec nodeId perform now⟩

def updateData (nodeId : NodeId) (perform : PerformUpdateType) (values : List (DataValue Value))
    (now : ℤ) (instant : ℕ) : List StatusCode × SqliteHistoryBackend NodeId :=
  (updateValues codec (text nodeId) perform now).run (s.pruneContinuationPoints instant) values

def deleteRawModified (nodeId : NodeId) (isDeleteModified : Bool) (startTime endTime now : ℤ)
    (instant : ℕ) : StatusCode × SqliteHistoryBackend NodeId :=
  let s := s.pruneContinuationPoints instant
  let isIn := HistoricalRow.isIn (text nodeId) (ticks startTime) (ticks endTime)
  let (deletedCount, s) :=
    if ticks endTime ≤ ticks startTime then (0, s)
    else if isDeleteModified then
      (s.modifiedHistoricalData.countP fun row => isIn row.toHistoricalRow,
        { s with
          modifiedHistoricalData := s.modifiedHistoricalData.filter fun row =>
            !isIn row.toHistoricalRow })
    else
      let rows := s.historicalData.filter isIn
      let moved := rows.foldl (fun s row => s.insertModified row 4 now) s
      (rows.length, { moved with
        historicalData := moved.historicalData.filter fun row => !isIn row })
  (if 0 < deletedCount then StatusCode.Good else StatusCode.BadNoData, s)

def deleteTime (now : ℤ) (s : SqliteHistoryBackend NodeId) (reqTime : ℤ) :
    StatusCode × SqliteHistoryBackend NodeId :=
  match s.historicalData.find? (HistoricalRow.isAt nodeId (ticks reqTime)) with
  | some existing =>
    (StatusCode.Good, (s.insertModified existing 4 now).deleteRow nodeId (ticks reqTime))
  | none => (StatusCode.BadNoEntryExists, s)

def deleteTimes (now : ℤ) : Component (SqliteHistoryBackend NodeId) ℤ StatusCode :=
  ⟨deleteTime nodeId now⟩

def deleteAtTime (nodeId : NodeId) (reqTimes : List ℤ) (now : ℤ) (instant : ℕ) :
    List StatusCode × SqliteHistoryBackend NodeId :=
  (deleteTimes (text nodeId) now).run (s.pruneContinuationPoints instant) reqTimes

end Page

end SqliteHistoryBackend

end AsyncOpcua.History
