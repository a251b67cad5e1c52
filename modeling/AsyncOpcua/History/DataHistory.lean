/-
**History in memory.**

Raw values are kept by node and tick; a value that is replaced, updated over or deleted moves to the
modified values of its tick. A read takes one page and hands out a continuation point for the next.

* `updateData`, `deleteRawModified`, `deleteAtTime` — the updates, with their status codes.
-/

import AsyncOpcua.Foundation.OrderedMap
import AsyncOpcua.Foundation.Refinement
import AsyncOpcua.Types.Encoding

namespace AsyncOpcua.History

open Foundation
open Types

inductive PerformUpdateType where
  | insert
  | replace
  | update
  | remove
  deriving DecidableEq

inductive HistoryUpdateType where
  | insert
  | replace
  | update
  | delete

/-- When and how a value was superseded. -/
structure ModificationInfo where
  modificationTime : ℤ
  updateType : HistoryUpdateType
  userName : UAString

abbrev ModifiedEntry (Value : Type) := DataValue Value × ModificationInfo

inductive ContinuationPoint where
  | tick (tick : ℤ)
  | entry (tick : ℤ) (index : ℕ)

structure HistoryRawModifiedResult (Value Token : Type) where
  values : List (DataValue Value)
  modificationInfos : List ModificationInfo
  nextToken : Option Token

structure InMemoryDataHistory (NodeId Value : Type) where
  rawValues : NodeId → Option (OrderedMap ℤ (DataValue Value))
  modifiedValues : NodeId → Option (OrderedMap ℤ (List (ModifiedEntry Value)))
  maxPerNode : ℕ

namespace InMemoryDataHistory

variable {NodeId Value : Type}

def withCapacity (maxPerNode : ℕ) : InMemoryDataHistory NodeId Value :=
  ⟨fun _ => none, fun _ => none, maxPerNode⟩

/-! ### Reading -/

def decodeContinuationTick : Option ContinuationPoint → Except StatusCode (Option ℤ)
  | none => .ok none
  | some (.tick tick) => .ok (some tick)
  | some (.entry _ _) => .error StatusCode.BadContinuationPointInvalid

def decodeModifiedContinuationPosition : Option ContinuationPoint → Option (ℤ × ℕ)
  | none => none
  | some (.tick tick) => some (tick, 0)
  | some (.entry tick index) => some (tick, index)

def encodeModifiedContinuationPosition (tick : ℤ) (entryIndex : ℕ) : ContinuationPoint :=
  if 0 < entryIndex then .entry tick entryIndex else .tick tick

def modifiedEffectiveStart (startTick : ℤ) (continuationPosition : Option (ℤ × ℕ)) : ℤ × ℕ :=
  match continuationPosition with
  | some (tick, entryIndex) => if startTick ≤ tick then (tick, entryIndex) else (startTick, 0)
  | none => (startTick, 0)

def limitOf (numValuesPerNode : ℕ) : Option ℕ :=
  if 0 < numValuesPerNode then some numValuesPerNode else none

def full (limit : Option ℕ) (count : ℕ) : Bool := limit.any fun limit => decide (limit ≤ count)

/-- The loop over what is in range: until the page is full it takes; then the next one is where the
next page starts. -/
def collect {α β : Type} (take : α → β) (token : α → ContinuationPoint) (limit : Option ℕ)
    (taken : List β) : List α → List β × Option ContinuationPoint
  | [] => (taken, none)
  | next :: rest =>
    if full limit taken.length then (taken, some (token next))
    else collect take token limit (taken ++ [take next]) rest

/-- The loop over the raw values in range. -/
def collectRaw (limit : Option ℕ) (inRange : List (ℤ × DataValue Value)) :
    List (DataValue Value) × Option ContinuationPoint :=
  collect (fun (_, value) => value) (fun (tick, _) => .tick tick) limit [] inRange

def entriesFrom (effectiveStart : ℤ) (skipAtStart : ℕ)
    (inRange : List (ℤ × List (ModifiedEntry Value))) :
    List (ℤ × ℕ × ModifiedEntry Value) :=
  inRange.flatMap fun (tick, entries) =>
    ((entries.zipIdx.drop (if tick = effectiveStart then skipAtStart else 0)).map
      fun (entry, entryIndex) => (tick, entryIndex, entry))

/-- The two loops over the modified entries in range. -/
def collectModified (limit : Option ℕ) (entries : List (ℤ × ℕ × ModifiedEntry Value)) :
    List (ModifiedEntry Value) × Option ContinuationPoint :=
  collect (fun (_, _, entry) => entry)
    (fun (tick, entryIndex, _) => encodeModifiedContinuationPosition tick entryIndex) limit []
    entries

/-- `BTreeMap::range`, which panics when its start lies behind its end. -/
def rangeOf {V : Type} (values : OrderedMap ℤ V) (lo hi : ℤ) : Option (List (ℤ × V)) :=
  if lo ≤ hi then some (values.range lo hi) else none

def noValues : HistoryRawModifiedResult Value ContinuationPoint := ⟨[], [], none⟩

def readModifiedValues (history : InMemoryDataHistory NodeId Value) (nodeId : NodeId)
    (startTick endTick : ℤ) (numValuesPerNode : ℕ) (continuationPoint : Option ContinuationPoint) :
    Option (HistoryRawModifiedResult Value ContinuationPoint) :=
  match history.modifiedValues nodeId with
  | none => some noValues
  | some nodeValues =>
    let (effectiveStart, skipAtStart) := modifiedEffectiveStart startTick
      (decodeModifiedContinuationPosition continuationPoint)
    (rangeOf nodeValues effectiveStart endTick).map fun inRange =>
      let (taken, nextToken) := collectModified (limitOf numValuesPerNode)
        (entriesFrom effectiveStart skipAtStart inRange)
      ⟨taken.map Prod.fst, taken.map Prod.snd, nextToken⟩

def readRawModified (history : InMemoryDataHistory NodeId Value) (nodeId : NodeId)
    (startTime endTime : ℤ) (numValuesPerNode : ℕ) (isReadModified : Bool)
    (continuationPoint : Option ContinuationPoint) :
    Option (Except StatusCode (HistoryRawModifiedResult Value ContinuationPoint)) :=
  let startTick := ticks startTime
  let endTick := ticks endTime
  if endTick < startTick then some (.ok noValues)
  else if isReadModified then
    if startTick = endTick then some (.ok noValues)
    else
      (history.readModifiedValues nodeId startTick endTick numValuesPerNode continuationPoint).map
        .ok
  else
    match history.rawValues nodeId, decodeContinuationTick continuationPoint with
    | none, _ => some (.ok noValues)
    | some _, .error status => some (.error status)
    | some nodeValues, .ok continuationTick =>
      let effectiveStart :=
        match continuationTick with
        | some tick => max tick startTick
        | none => startTick
      (rangeOf nodeValues effectiveStart endTick).map fun inRange =>
        let (values, nextToken) := collectRaw (limitOf numValuesPerNode) inRange
        .ok ⟨values, [], nextToken⟩

/-! ### Updating -/

variable [DecidableEq NodeId]

def sourceTicks (now : ℤ) (value : DataValue Value) : ℤ := ticks (value.sourceTimestamp.getD now)

/-- Drop the oldest values until the rest fits. -/
def enforceRawCapacity (maxPerNode : ℕ) (values : OrderedMap ℤ (DataValue Value)) :
    OrderedMap ℤ (DataValue Value) :=
  values.drop (values.size - maxPerNode)

variable (history : InMemoryDataHistory NodeId Value)

def setRaw (nodeId : NodeId)
    (values : OrderedMap ℤ (DataValue Value)) : InMemoryDataHistory NodeId Value :=
  { history with rawValues := Function.update history.rawValues nodeId (some values) }

def pushModified (nodeId : NodeId) (tick : ℤ)
    (value : DataValue Value) (updateType : HistoryUpdateType) (now : ℤ) :
    InMemoryDataHistory NodeId Value :=
  let nodeValues := (history.modifiedValues nodeId).getD .empty
  let entries := (nodeValues.find? tick).getD []
  { history with
    modifiedValues := Function.update history.modifiedValues nodeId
      (some (nodeValues.insert tick (entries ++ [(value, ⟨now, updateType, none⟩)]))) }

def updateValue (nodeId : NodeId) (perform : PerformUpdateType) (now : ℤ)
    (history : InMemoryDataHistory NodeId Value) (value : DataValue Value) :
    StatusCode × InMemoryDataHistory NodeId Value :=
  let nodeValues := (history.rawValues nodeId).getD .empty
  let tick := sourceTicks now value
  match perform, nodeValues.find? tick with
  | .insert, none =>
    (StatusCode.GoodEntryInserted,
      history.setRaw nodeId (enforceRawCapacity history.maxPerNode (nodeValues.insert tick value)))
  | .insert, some _ => (StatusCode.BadEntryExists, history)
  | .replace, some oldValue =>
    (StatusCode.GoodEntryReplaced,
      (history.pushModified nodeId tick oldValue .replace now).setRaw nodeId
        (nodeValues.insert tick value))
  | .replace, none => (StatusCode.BadNoEntryExists, history)
  | .update, some oldValue =>
    (StatusCode.GoodEntryReplaced,
      (history.pushModified nodeId tick oldValue .update now).setRaw nodeId
        (nodeValues.insert tick value))
  | .update, none =>
    (StatusCode.GoodEntryInserted,
      history.setRaw nodeId (enforceRawCapacity history.maxPerNode (nodeValues.insert tick value)))
  | .remove, some oldValue =>
    (StatusCode.Good,
      (history.pushModified nodeId tick oldValue .delete now).setRaw nodeId (nodeValues.erase tick))
  | .remove, none => (StatusCode.BadNoEntryExists, history)

def updateValues (nodeId : NodeId) (perform : PerformUpdateType) (now : ℤ) :
    Component (InMemoryDataHistory NodeId Value) (DataValue Value) StatusCode :=
  ⟨updateValue nodeId perform now⟩

def updateData (nodeId : NodeId)
    (perform : PerformUpdateType) (values : List (DataValue Value)) (now : ℤ) :
    List StatusCode × InMemoryDataHistory NodeId Value :=
  if values.isEmpty then ([], history)
  else
    (updateValues nodeId perform now).run
      (history.setRaw nodeId ((history.rawValues nodeId).getD .empty)) values

def deleteRawModified (nodeId : NodeId)
    (isDeleteModified : Bool) (startTime endTime : ℤ) (now : ℤ) :
    StatusCode × InMemoryDataHistory NodeId Value :=
  let startTicks := ticks startTime
  let endTicks := ticks endTime
  if endTicks ≤ startTicks then (StatusCode.BadNoData, history)
  else if isDeleteModified then
    match history.modifiedValues nodeId with
    | none => (StatusCode.BadNoData, history)
    | some nodeValues =>
      let removedCount := ((nodeValues.range startTicks endTicks).map fun entry =>
        entry.2.length).sum
      let left := nodeValues.filterKeys fun tick => decide ¬ (startTicks ≤ tick ∧ tick < endTicks)
      (if 0 < removedCount then StatusCode.Good else StatusCode.BadNoData,
        { history with
          modifiedValues := Function.update history.modifiedValues nodeId
            (if left.size = 0 then none else some left) })
  else
    match history.rawValues nodeId with
    | none => (StatusCode.BadNoData, history)
    | some nodeValues =>
      let valuesToDelete := nodeValues.range startTicks endTicks
      if valuesToDelete.isEmpty then (StatusCode.BadNoData, history)
      else
        let history := valuesToDelete.foldl
          (fun history (tick, value) => history.pushModified nodeId tick value .delete now) history
        (StatusCode.Good, history.setRaw nodeId
          (nodeValues.filterKeys fun tick => decide ¬ (startTicks ≤ tick ∧ tick < endTicks)))

def deleteTime (nodeId : NodeId) (now : ℤ) (history : InMemoryDataHistory NodeId Value)
    (reqTime : ℤ) : StatusCode × InMemoryDataHistory NodeId Value :=
  let nodeValues := (history.rawValues nodeId).getD .empty
  match nodeValues.find? (ticks reqTime) with
  | some value =>
    (StatusCode.Good, (history.pushModified nodeId (ticks reqTime) value .delete now).setRaw nodeId
      (nodeValues.erase (ticks reqTime)))
  | none => (StatusCode.BadNoEntryExists, history)

def deleteTimes (nodeId : NodeId) (now : ℤ) :
    Component (InMemoryDataHistory NodeId Value) ℤ StatusCode :=
  ⟨deleteTime nodeId now⟩

def deleteAtTime (nodeId : NodeId)
    (reqTimes : List ℤ) (now : ℤ) : List StatusCode × InMemoryDataHistory NodeId Value :=
  if reqTimes.isEmpty then ([], history)
  else if (history.rawValues nodeId).isNone then
    (reqTimes.map fun _ => StatusCode.BadNoEntryExists, history)
  else (deleteTimes nodeId now).run history reqTimes

end InMemoryDataHistory

end AsyncOpcua.History
