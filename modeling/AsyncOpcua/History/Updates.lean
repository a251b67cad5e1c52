/-
**Every update keeps the representation.**

* `updateValue_represents`, `deleteTime_represents`, `deleteRawModified_represents` — both backends
  answer an update with the same status codes, and the tables still represent the history.
-/

import AsyncOpcua.History.Tables

namespace AsyncOpcua.History

open Foundation List OrderedMap Function
open Types

variable {NodeId Value : Type} [DecidableEq NodeId]

open HistoricalRow

namespace SqliteHistoryBackend

variable {s : SqliteHistoryBackend NodeId} {row : HistoricalRow}

omit [DecidableEq NodeId]

theorem unique_insertRow (unique : Unique s.historicalData)
    (absent : s.rowAt row.nodeId row.sourceTimestamp = none) :
    Unique (s.insertRow row).historicalData := by
  refine pairwise_append.mpr ⟨unique, pairwise_singleton _ _, ?_⟩
  intro old member last isLast same
  rcases mem_singleton.mp isLast with rfl
  exact find?_eq_none.mp absent old member (isAt_iff.mpr same)

theorem unique_replaceRow (unique : Unique s.historicalData) :
    Unique (s.replaceRow row).historicalData := by
  refine pairwise_map.mpr (unique.imp ?_)
  intro a b apart
  split_ifs <;> exact apart

theorem unique_filter {table : List HistoricalRow} (unique : Unique table)
    (p : HistoricalRow → Bool) : Unique (table.filter p) :=
  List.Pairwise.filter p unique

end SqliteHistoryBackend

/-! ### The rows of an interval -/

namespace SqliteHistoryBackend

variable {s : SqliteHistoryBackend NodeId} {nodeId other : String} {lo hi tick at_ : ℤ}

theorem isIn_eq {row : HistoricalRow} (named : row.nodeId = other)
    (timed : row.sourceTimestamp = at_) :
    row.isIn nodeId lo hi = decide (other = nodeId ∧ lo ≤ at_ ∧ at_ < hi) := by
  rw [isIn, named, timed]

/-- No row is in the interval, if none is at a time of it. -/
theorem forall_not_isIn {Row : Type} {table : List Row} (old : Row → HistoricalRow) :
    (∀ row ∈ table, ¬ (old row).isIn nodeId lo hi = true) ↔
      ∀ tick, lo ≤ tick → tick < hi → ∀ row ∈ table, ¬ (old row).isAt nodeId tick = true := by
  constructor
  · intro outside tick after before row member here
    obtain ⟨named, timed⟩ := isAt_iff.mp here
    refine outside row member ?_
    rw [isIn_eq named timed]
    exact decide_eq_true ⟨rfl, after, before⟩
  · intro absent row member inside
    rw [isIn_eq rfl rfl, decide_eq_true_eq] at inside
    exact absent _ inside.2.1 inside.2.2 row member (isAt_iff.mpr ⟨inside.1, rfl⟩)

omit [DecidableEq NodeId]

theorem filter_isIn_eq_nil : s.historicalData.filter (isIn nodeId lo hi) = [] ↔
    ∀ tick, lo ≤ tick → tick < hi → s.rowAt nodeId tick = none := by
  simp only [SqliteHistoryBackend.rowAt, filter_eq_nil_iff, find?_eq_none]
  exact forall_not_isIn id

theorem countP_isIn_eq_zero :
    s.modifiedHistoricalData.countP
        (fun row => row.toHistoricalRow.isIn nodeId lo hi) = 0 ↔
      ∀ tick, lo ≤ tick → tick < hi → s.movedAt nodeId tick = [] := by
  simp only [SqliteHistoryBackend.movedAt, countP_eq_zero, filter_eq_nil_iff]
  exact forall_not_isIn ModifiedRow.toHistoricalRow

theorem Unique.filter_isAt {table : List HistoricalRow} (unique : Unique table) :
    table.filter (isAt nodeId tick) =
      (table.find? (isAt nodeId tick)).toList := by
  induction table with
  | nil => rfl
  | cons row rest ih =>
    obtain ⟨apart, unique⟩ := pairwise_cons.mp unique
    rw [filter_cons, find?_cons]
    cases here : row.isAt nodeId tick with
    | true =>
      rw [if_pos rfl, filter_eq_nil_iff.mpr]
      · rfl
      · intro old member also
        obtain ⟨named, timed⟩ := isAt_iff.mp here
        obtain ⟨named', timed'⟩ := isAt_iff.mp also
        exact apart old member ⟨named.trans named'.symm, timed.trans timed'.symm⟩
    | false =>
      exact ih unique

def insertAll (s : SqliteHistoryBackend NodeId) (rows : List HistoricalRow) (updateType now : ℤ) :
    SqliteHistoryBackend NodeId :=
  rows.foldl (fun s row => s.insertModified row updateType now) s

theorem historicalData_insertAll (s : SqliteHistoryBackend NodeId) (rows : List HistoricalRow)
    (updateType now : ℤ) :
    (s.insertAll rows updateType now).historicalData = s.historicalData := by
  induction rows generalizing s with
  | nil => rfl
  | cons row rest ih => exact ih (s.insertModified row updateType now)

theorem Logged.insertAll {now : ℤ} (logged : Logged s.modifiedHistoricalData now)
    (rows : List HistoricalRow) (updateType : ℤ) :
    Logged (s.insertAll rows updateType now).modifiedHistoricalData now := by
  induction rows generalizing s with
  | nil => exact logged
  | cons row rest ih => exact ih (logged.insertModified row updateType)

theorem movedAt_insertAll (rows : List HistoricalRow) (updateType now : ℤ) :
    ((s.insertAll rows updateType now).movedAt other at_).map
        (fun row => (row.toHistoricalRow, row.updateType)) =
      (s.movedAt other at_).map (fun row => (row.toHistoricalRow, row.updateType)) ++
        (rows.filter (isAt other at_)).map fun row => (row, updateType) := by
  induction rows generalizing s with
  | nil => exact (append_nil _).symm
  | cons row rest ih =>
    show (((s.insertModified row updateType now).insertAll rest updateType now).movedAt other
      at_).map _ = _
    rw [ih, movedAt_insertModified, map_append, append_assoc, filter_cons]
    split_ifs <;> rfl

end SqliteHistoryBackend

/-! ### The entries of an interval -/

namespace InMemoryDataHistory

variable {history : InMemoryDataHistory NodeId Value} {node other : NodeId} {lo hi tick at_ : ℤ}

def pushAll (history : InMemoryDataHistory NodeId Value) (node : NodeId)
    (entries : List (ℤ × DataValue Value)) (updateType : HistoryUpdateType) (now : ℤ) :
    InMemoryDataHistory NodeId Value :=
  entries.foldl (fun history (tick, value) => history.pushModified node tick value updateType now)
    history

section

variable (entries : List (ℤ × DataValue Value)) (updateType : HistoryUpdateType) (now : ℤ)

theorem rawValues_pushAll :
    (history.pushAll node entries updateType now).rawValues = history.rawValues := by
  induction entries generalizing history with
  | nil => rfl
  | cons entry rest ih => exact ih

theorem modifiedAt_pushAll :
    (history.pushAll node entries updateType now).modifiedAt other at_ =
      history.modifiedAt other at_ ++
        (entries.filter fun entry => other = node ∧ entry.1 = at_).map fun entry =>
          (entry.2, ⟨now, updateType, none⟩) := by
  induction entries generalizing history with
  | nil => exact (append_nil _).symm
  | cons entry rest ih =>
    show ((history.pushModified node entry.1 entry.2 updateType now).pushAll node rest updateType
      now).modifiedAt other at_ = _
    rw [ih, modifiedAt_pushModified, filter_cons]
    by_cases here : other = node ∧ entry.1 = at_
    · obtain ⟨rfl, rfl⟩ := here
      rw [if_pos ⟨rfl, rfl⟩, if_pos (decide_eq_true ⟨rfl, rfl⟩), append_assoc]
      rfl
    · rw [if_neg fun also => here ⟨also.1, also.2.symm⟩, if_neg (by rwa [decide_eq_true_eq])]

end

end InMemoryDataHistory

namespace InMemoryDataHistory

/-- **Room for a value:** if it comes in new, the node is below its capacity. -/
def RoomFor (nodeId : NodeId) (perform : PerformUpdateType) (now : ℤ)
    (history : InMemoryDataHistory NodeId Value) (value : DataValue Value) : Prop :=
  perform = .insert ∨ perform = .update →
    history.rawAt nodeId (sourceTicks now value) = none →
      ((history.rawValues nodeId).getD .empty).size < history.maxPerNode

def RoomForAll (nodeId : NodeId) (perform : PerformUpdateType) (now : ℤ)
    (history : InMemoryDataHistory NodeId Value) (values : List (DataValue Value)) : Prop :=
  (updateValues nodeId perform now).Allowed (RoomFor nodeId perform now)
    (history.setRaw nodeId ((history.rawValues nodeId).getD .empty)) values

theorem run_deleteTimes_of_none {history : InMemoryDataHistory NodeId Value} {nodeId : NodeId}
    (missing : history.rawValues nodeId = none) (now : ℤ) (reqTimes : List ℤ) :
    (deleteTimes nodeId now).run history reqTimes =
      (reqTimes.map fun _ => StatusCode.BadNoEntryExists, history) := by
  induction reqTimes with
  | nil => rfl
  | cons reqTime rest ih =>
    have unchanged : (deleteTimes nodeId now).step history reqTime =
        (StatusCode.BadNoEntryExists, history) := by
      show deleteTime nodeId now history reqTime = _
      rw [deleteTime, missing]
      rfl
    rw [Component.run, unchanged]
    dsimp only
    rw [ih]
    rfl

end InMemoryDataHistory

open SqliteHistoryBackend InMemoryDataHistory

namespace Represents

variable {codec : Codec Value} {text : NodeId → String} {nodes : Set NodeId}
  {s : SqliteHistoryBackend NodeId} {history : InMemoryDataHistory NodeId Value} {clock now : ℤ}
  {node : NodeId} {tick : ℤ} {value : DataValue Value}

section

variable (represents : Represents codec text nodes s history clock)
include represents

omit [DecidableEq NodeId] in
theorem mono (later : clock ≤ now) : Represents codec text nodes s history now :=
  ⟨represents.unique, represents.logged.mono later, represents.raw, represents.modified,
    represents.rawExplicit, represents.modifiedExplicit⟩

omit [DecidableEq NodeId] in
theorem prune (later : clock ≤ now) (instant : ℕ) :
    Represents codec text nodes (s.pruneContinuationPoints instant) history now :=
  (represents.of_tables (t := s.pruneContinuationPoints instant) rfl rfl).mono later

section

variable (apart : Set.InjOn text nodes) (there : node ∈ nodes) (explicit : Explicit codec value)
  (isTick : sourceTicks 0 value = tick)
include apart there explicit isTick

theorem insertRow (absent : history.rawAt node tick = none) :
    Represents codec text nodes
      (s.insertRow (rowOf codec (text node) 0 value))
      (history.setRaw node (((history.rawValues node).getD .empty).insert tick value)) clock := by
  have free : s.rowAt (rowOf codec (text node) 0 value).nodeId
      (rowOf codec (text node) 0 value).sourceTimestamp = none := by
    show s.rowAt (text node) (sourceTicks 0 value) = none
    rw [isTick, represents.raw node there, absent]
    rfl
  have changed : ∀ other at_,
      (s.insertRow (rowOf codec (text node) 0 value)).rowAt other at_ =
        if other = text node ∧ at_ = tick then
          (some value).map (rowOf codec (text node) 0)
        else s.rowAt other at_ := fun other at_ => by
    rw [s.rowAt_insertRow free, ← isTick]
    rfl
  refine represents.setRaw apart there rfl
    (unique_insertRow represents.unique free) changed (fun at_ => ?_) ?_
  · rw [find?_insert, find?_rawValues]
  · intro kept isKept
    cases isKept
    exact ⟨explicit, isTick⟩

theorem replaceRow {old : DataValue Value} (present : history.rawAt node tick = some old) :
    Represents codec text nodes
      (s.replaceRow (rowOf codec (text node) 0 value))
      (history.setRaw node (((history.rawValues node).getD .empty).insert tick value)) clock := by
  have changed : ∀ other at_,
      (s.replaceRow (rowOf codec (text node) 0 value)).rowAt other at_ =
        if other = text node ∧ at_ = tick then
          (some value).map (rowOf codec (text node) 0)
        else s.rowAt other at_ := fun other at_ => by
    rw [s.rowAt_replaceRow]
    show (if other = text node ∧ at_ = sourceTicks 0 value then _ else _) = _
    rw [isTick]
    by_cases same : other = text node ∧ at_ = tick
    · rw [if_pos same, if_pos same, same.1, same.2, represents.raw node there, present]
      rfl
    · rw [if_neg same, if_neg same]
  refine represents.setRaw apart there rfl
    (unique_replaceRow represents.unique) changed (fun at_ => ?_) ?_
  · rw [find?_insert, find?_rawValues]
  · intro kept isKept
    cases isKept
    exact ⟨explicit, isTick⟩

end

theorem deleteRow (apart : Set.InjOn text nodes) (there : node ∈ nodes) (tick : ℤ) :
    Represents codec text nodes (s.deleteRow (text node) tick)
      (history.setRaw node (((history.rawValues node).getD .empty).erase tick)) clock := by
  have changed : ∀ other at_, (s.deleteRow (text node) tick).rowAt other at_ =
      if other = text node ∧ at_ = tick then
        (none : Option (DataValue Value)).map (rowOf codec (text node) 0)
      else s.rowAt other at_ := fun other at_ => s.rowAt_deleteRow
  refine represents.setRaw apart there rfl
    (unique_filter represents.unique _) changed (fun at_ => ?_) ?_
  · rw [find?_erase, find?_rawValues]
  · intro absurdly impossible
    cases impossible

theorem setRaw_self :
    Represents codec text nodes s
      (history.setRaw node ((history.rawValues node).getD .empty)) clock := by
  refine represents.of_lookups (fun other at_ => ?_) fun _ _ => rfl
  rw [rawAt_setRaw, find?_rawValues]
  split_ifs with same
  · rw [same]
  · rfl

end

/-! ### One value -/

section

variable (represents : Represents codec text nodes s history clock) (apart : Set.InjOn text nodes)
  (there : node ∈ nodes) (later : clock ≤ now)
include represents apart there later

/-- **One value of `update_data`:** the same status code, and the tables still represent the
history. -/
theorem updateValue_represents (perform : PerformUpdateType) (explicit : Explicit codec value)
    (room : history.RoomFor node perform now value) :
    (updateValue codec (text node) perform now s value).1 =
        (history.updateValue node perform now value).1 ∧
      Represents codec text nodes
        (updateValue codec (text node) perform now s value).2
        (history.updateValue node perform now value).2 now := by
  generalize isTick : sourceTicks now value = tick at room
  have timed : sourceTicks 0 value = tick := by
    rw [explicit.sourceTicks_eq, ← explicit.sourceTicks_eq now, isTick]
  have found : s.historicalData.find? (isAt (text node) tick) =
      (history.rawAt node tick).map (rowOf codec (text node) 0) :=
    represents.raw node there tick
  have still := represents.mono later
  unfold SqliteHistoryBackend.updateValue InMemoryDataHistory.updateValue
  simp only [explicit.rowOf_eq, isTick, find?_rawValues]
  have rowTick : (rowOf codec (text node) 0 value).sourceTimestamp = tick :=
    timed
  rw [rowTick, found]
  cases present : history.rawAt node tick with
  | none =>
    have kept (new : perform = .insert ∨ perform = .update) :
        enforceRawCapacity history.maxPerNode
            (((history.rawValues node).getD .empty).insert tick value) =
          ((history.rawValues node).getD .empty).insert tick value := by
      refine enforceRawCapacity_eq (le_trans (size_insert_le _) ?_)
      have fits := room new (isTick ▸ present)
      omega
    cases perform with
    | insert =>
      rw [kept (.inl rfl)]
      exact ⟨rfl, still.insertRow apart there explicit timed present⟩
    | replace => exact ⟨rfl, still⟩
    | update =>
      rw [kept (.inr rfl)]
      exact ⟨rfl, still.insertRow apart there explicit timed present⟩
    | remove => exact ⟨rfl, still⟩
  | some old =>
    have moved (updateType : HistoryUpdateType) :=
      represents.move apart there present updateType later
    cases perform with
    | insert => exact ⟨rfl, still⟩
    | replace => exact ⟨rfl, (moved .replace).replaceRow apart there explicit timed present⟩
    | update => exact ⟨rfl, (moved .update).replaceRow apart there explicit timed present⟩
    | remove => exact ⟨rfl, (moved .delete).deleteRow apart there tick⟩

theorem deleteTime_represents (reqTime : ℤ) :
    (deleteTime (text node) now s reqTime).1 =
        (history.deleteTime node now reqTime).1 ∧
      Represents codec text nodes (deleteTime (text node) now s reqTime).2
        (history.deleteTime node now reqTime).2 now := by
  have found : s.historicalData.find? (isAt (text node) (ticks reqTime)) =
      (history.rawAt node (ticks reqTime)).map (rowOf codec (text node) 0) :=
    represents.raw node there (ticks reqTime)
  unfold SqliteHistoryBackend.deleteTime InMemoryDataHistory.deleteTime
  simp only [find?_rawValues]
  rw [found]
  cases present : history.rawAt node (ticks reqTime) with
  | none => exact ⟨rfl, represents.mono later⟩
  | some old =>
    have moved := represents.move apart there present .delete later
    exact ⟨rfl, moved.deleteRow apart there (ticks reqTime)⟩

/-! ### Lists of values and of times -/

/-- **`update_data`:** the same status codes, and the tables still represent the history. -/
theorem updateData_represents (perform : PerformUpdateType) {values : List (DataValue Value)}
    (explicit : ∀ value ∈ values, Explicit codec value)
    (room : history.RoomForAll node perform now values) (instant : ℕ) :
    (s.updateData codec text node perform values now instant).1 =
        (history.updateData node perform values now).1 ∧
      Represents codec text nodes (s.updateData codec text node perform values now instant).2
        (history.updateData node perform values now).2 now := by
  have pruned := represents.prune later instant
  have simulation : Component.Simulation
      (updateValues codec (text node) perform now)
      (updateValues node perform now)
      (fun history value => Explicit codec value ∧ history.RoomFor node perform now value)
      (fun s history => Represents codec text nodes s history now) :=
    ⟨fun s history value related allowed =>
        (related.updateValue_represents apart there (le_refl now) perform allowed.1 allowed.2).1,
      fun s history value related allowed =>
        (related.updateValue_represents apart there (le_refl now) perform allowed.1 allowed.2).2⟩
  unfold SqliteHistoryBackend.updateData InMemoryDataHistory.updateData
  by_cases none : values = []
  · subst none
    exact ⟨rfl, pruned⟩
  · rw [if_neg (by rwa [List.isEmpty_iff])]
    exact simulation.run pruned.setRaw_self (Component.allowed_and explicit room)

/-- **`delete_at_time`:** the same status codes, and the tables still represent the history. -/
theorem deleteAtTime_represents (reqTimes : List ℤ) (instant : ℕ) :
    (s.deleteAtTime text node reqTimes now instant).1 =
        (history.deleteAtTime node reqTimes now).1 ∧
      Represents codec text nodes (s.deleteAtTime text node reqTimes now instant).2
        (history.deleteAtTime node reqTimes now).2 now := by
  have pruned := represents.prune later instant
  have simulation : Component.Simulation (SqliteHistoryBackend.deleteTimes (text node) now)
      (deleteTimes node now) (fun _ _ => True)
      (fun s history => Represents codec text nodes s history now) :=
    ⟨fun s history reqTime related _ =>
        (related.deleteTime_represents apart there (le_refl now) reqTime).1,
      fun s history reqTime related _ =>
        (related.deleteTime_represents apart there (le_refl now) reqTime).2⟩
  have same := simulation.run pruned (Component.allowed_true _ _ reqTimes)
  unfold SqliteHistoryBackend.deleteAtTime InMemoryDataHistory.deleteAtTime
  by_cases none : reqTimes = []
  · subst none
    exact ⟨rfl, pruned⟩
  · rw [if_neg (by rwa [List.isEmpty_iff])]
    cases stored : history.rawValues node with
    | none =>
      rw [run_deleteTimes_of_none stored] at same
      exact same
    | some values => exact same

end

/-! ### An interval -/

section

variable (represents : Represents codec text nodes s history clock)
include represents

variable {values : OrderedMap ℤ (DataValue Value)}

/-- **The rows of an interval are its entries,** at the key of any node. -/
theorem rows_of_range (apart : Set.InjOn text nodes) (there : node ∈ nodes) (lo hi : ℤ)
    (found : ∀ at_, values.find? at_ = history.rawAt node at_) {other : NodeId}
    (among : other ∈ nodes) (at_ : ℤ) :
    (s.historicalData.filter (isIn (text node) lo hi)).filter
        (isAt (text other) at_) =
      ((values.range lo hi).filter fun entry => other = node ∧ entry.1 = at_).map fun entry =>
        rowOf codec (text node) 0 entry.2 := by
  have row : s.historicalData.find? (isAt (text other) at_) = _ :=
    represents.raw other among at_
  rw [filter_comm, represents.unique.filter_isAt, row]
  by_cases same : other = node
  · subst same
    simp only [true_and]
    rw [filter_range, found]
    cases present : history.rawAt other at_ with
    | none => split_ifs <;> rfl
    | some value =>
      rw [Option.map_some, Option.toList_some, filter_singleton,
        isIn_eq rfl (represents.rowOf_sourceTimestamp present _)]
      by_cases inside : lo ≤ at_ ∧ at_ < hi
      · rw [if_pos inside, decide_eq_true ⟨rfl, inside⟩]
        rfl
      · rw [if_neg inside, decide_eq_false fun both => inside both.2]
        rfl
  · have names : text other ≠ text node := fun equal => same (apart among there equal)
    simp only [same, false_and, decide_false, filter_false, map_nil]
    refine filter_eq_nil_iff.mpr fun row member inside => ?_
    rw [Option.mem_toList, Option.map_eq_some_iff] at member
    obtain ⟨value, -, rfl⟩ := member
    rw [isIn_eq rfl rfl, decide_eq_true_eq] at inside
    exact names inside.1

omit [DecidableEq NodeId] in
theorem rows_eq_nil (there : node ∈ nodes) (lo hi : ℤ)
    (found : ∀ at_, values.find? at_ = history.rawAt node at_) :
    s.historicalData.filter (isIn (text node) lo hi) = [] ↔
      values.range lo hi = [] := by
  rw [filter_isIn_eq_nil, OrderedMap.range_eq_nil]
  simp only [represents.raw node there, found, Option.map_eq_none_iff]

/-- **Deleting the raw values of an interval:** they go to the modified values, one row each. -/
theorem deleteRaw (apart : Set.InjOn text nodes) (there : node ∈ nodes) (later : clock ≤ now)
    (lo hi : ℤ) (values : OrderedMap ℤ (DataValue Value))
    (found : ∀ at_, values.find? at_ = history.rawAt node at_) :
    Represents codec text nodes
      { s.insertAll (s.historicalData.filter (isIn (text node) lo hi)) 4 now with
        historicalData := s.historicalData.filter fun row => !row.isIn (text node) lo hi }
      ((history.pushAll node (values.range lo hi) .delete now).setRaw node
        (values.filterKeys fun tick => decide ¬ (lo ≤ tick ∧ tick < hi))) now := by
  have gone (other : NodeId) (among : other ∈ nodes) (at_ : ℤ) :=
    represents.rows_of_range apart there lo hi found among at_
  have kept (other : NodeId) (at_ : ℤ) :
      ((history.pushAll node (values.range lo hi) .delete now).setRaw node
          (values.filterKeys fun tick => decide ¬ (lo ≤ tick ∧ tick < hi))).rawAt other at_ =
        if other = node ∧ lo ≤ at_ ∧ at_ < hi then none else history.rawAt other at_ := by
    rw [rawAt_setRaw, find?_filterKeys, found]
    by_cases same : other = node
    · subst same
      simp only [if_true, true_and, decide_not, Bool.not_eq_true', decide_eq_false_iff_not,
        ite_not]
    · rw [if_neg same, if_neg fun both => same both.1, rawAt,
        rawValues_pushAll]
      rfl
  refine ⟨unique_filter represents.unique _,
    (represents.logged.mono later).insertAll _ 4, ?_, ?_, ?_, ?_⟩
  · intro other among at_
    rw [kept, rowAt,
      find?_delete fun row named timed =>
        isIn_eq named timed]
    by_cases inside : other = node ∧ lo ≤ at_ ∧ at_ < hi
    · rw [if_pos inside, inside.1, decide_eq_true ⟨rfl, inside.2⟩, if_pos rfl]
      rfl
    · have outside : ¬ (text other = text node ∧ lo ≤ at_ ∧ at_ < hi) :=
        fun both => inside ⟨apart among there both.1, both.2⟩
      rw [if_neg inside, decide_eq_false outside, if_neg Bool.false_ne_true]
      exact represents.raw other among at_
  · intro other among at_
    refine (movedAt_insertAll _ 4 now).trans ?_
    rw [gone other among at_, represents.modified other among at_]
    show _ = ((history.pushAll node (values.range lo hi) .delete now).modifiedAt other at_).map _
    rw [modifiedAt_pushAll, map_append, map_map, map_map]
    by_cases same : other = node
    · rw [same]
      rfl
    · simp only [same, false_and, decide_false, filter_false, map_nil]
  · intro other at_ value present
    rw [kept] at present
    split_ifs at present
    exact represents.rawExplicit other at_ value present
  · intro other at_ entry member
    have among : entry ∈
        (history.pushAll node (values.range lo hi) .delete now).modifiedAt other at_ := member
    rw [modifiedAt_pushAll, mem_append] at among
    rcases among with earlier | new
    · exact represents.modifiedExplicit other at_ entry earlier
    · obtain ⟨⟨key, value⟩, inside, rfl⟩ := mem_map.mp new
      obtain ⟨inRange, here⟩ := mem_filter.mp inside
      obtain ⟨-, rfl⟩ := of_decide_eq_true here
      have present := (mem_range _).mp inRange
      exact represents.rawExplicit node key value ((found key).symm.trans present.1)

end

theorem deleteModified (represents : Represents codec text nodes s history clock)
    (apart : Set.InjOn text nodes) (there : node ∈ nodes) (lo hi : ℤ)
    {left : Option (OrderedMap ℤ (List (ModifiedEntry Value)))}
    (found : ∀ at_, ((left.bind fun values => values.find? at_).getD []) =
      if lo ≤ at_ ∧ at_ < hi then [] else history.modifiedAt node at_) :
    Represents codec text nodes
      { s with
        modifiedHistoricalData := s.modifiedHistoricalData.filter fun row =>
          !row.toHistoricalRow.isIn (text node) lo hi }
      { history with modifiedValues := update history.modifiedValues node left } clock := by
  have kept (other : NodeId) (at_ : ℤ) :
      modifiedAt
          { history with modifiedValues := update history.modifiedValues node left } other
          at_ =
        if other = node ∧ lo ≤ at_ ∧ at_ < hi then [] else history.modifiedAt other at_ := by
    rw [modifiedAt]
    by_cases same : other = node
    · subst same
      simp only [update_self, found, true_and]
    · simp only [update_of_ne same, same, false_and, if_false]
      rfl
  refine ⟨represents.unique, represents.logged.filter _, represents.raw, ?_, represents.rawExplicit,
    ?_⟩
  · intro other among at_
    rw [kept, movedAt, filter_comm]
    have rows : (s.modifiedHistoricalData.filter fun row =>
        row.toHistoricalRow.isAt (text other) at_) = s.movedAt (text other) at_ := rfl
    by_cases inside : other = node ∧ lo ≤ at_ ∧ at_ < hi
    · obtain ⟨rfl, range⟩ := inside
      rw [if_pos ⟨rfl, range⟩, filter_eq_nil_iff.mpr]
      · rfl
      · intro row member
        obtain ⟨named, timed⟩ := isAt_iff.mp (mem_filter.mp member).2
        rw [isIn_eq named timed, decide_eq_true ⟨rfl, range⟩]
        exact Bool.false_ne_true
    · rw [if_neg inside, filter_eq_self.mpr]
      · exact represents.modified other among at_
      · intro row member
        obtain ⟨named, timed⟩ := isAt_iff.mp (mem_filter.mp member).2
        rw [isIn_eq named timed,
          decide_eq_false fun both => inside ⟨apart among there both.1, both.2⟩]
        rfl
  · intro other at_ entry member
    rw [kept] at member
    split_ifs at member
    · exact absurd member not_mem_nil
    · exact represents.modifiedExplicit other at_ entry member

omit [DecidableEq NodeId] in
theorem counted (represents : Represents codec text nodes s history clock) (there : node ∈ nodes)
    (lo hi : ℤ) (values : OrderedMap ℤ (List (ModifiedEntry Value)))
    (found : ∀ at_, (values.find? at_).getD [] = history.modifiedAt node at_) :
    s.modifiedHistoricalData.countP (fun row => row.toHistoricalRow.isIn (text node) lo hi) = 0 ↔
      ((values.range lo hi).map fun entry => entry.2.length).sum = 0 := by
  rw [countP_isIn_eq_zero, List.sum_eq_zero_iff_forall_eq_nat]
  constructor
  · intro nothing count member
    obtain ⟨⟨tick, entries⟩, inRange, rfl⟩ := mem_map.mp member
    obtain ⟨isThere, after, before⟩ := (mem_range _).mp inRange
    have rows := represents.modified node there tick
    rw [nothing tick after before, ← found, isThere, map_nil, eq_comm, map_eq_nil_iff]
      at rows
    exact length_eq_zero_iff.mpr rows
  · intro nothing tick after before
    have rows := represents.modified node there tick
    rw [← found] at rows
    cases isThere : values.find? tick with
    | none =>
      rw [isThere] at rows
      exact map_eq_nil_iff.mp rows
    | some entries =>
      have empty := nothing entries.length
        (mem_map.mpr ⟨(tick, entries), (mem_range _).mpr ⟨isThere, after, before⟩,
          rfl⟩)
      rw [isThere, Option.getD_some, length_eq_zero_iff.mp empty] at rows
      exact map_eq_nil_iff.mp rows

theorem deleteRawModified_represents (represents : Represents codec text nodes s history clock)
    (apart : Set.InjOn text nodes) (there : node ∈ nodes) (later : clock ≤ now)
    (isDeleteModified : Bool) (startTime endTime : ℤ) (instant : ℕ) :
    (s.deleteRawModified text node isDeleteModified startTime endTime now instant).1 =
        (history.deleteRawModified node isDeleteModified startTime endTime now).1 ∧
      Represents codec text nodes
        (s.deleteRawModified text node isDeleteModified startTime endTime now instant).2
        (history.deleteRawModified node isDeleteModified startTime endTime now).2 now := by
  have pruned := represents.prune later instant
  unfold SqliteHistoryBackend.deleteRawModified InMemoryDataHistory.deleteRawModified
  by_cases backwards : ticks endTime ≤ ticks startTime
  · simp only [if_pos backwards]
    exact ⟨rfl, pruned⟩
  simp only [if_neg backwards]
  cases isDeleteModified with
  | true =>
    simp only [if_true]
    cases stored : history.modifiedValues node with
    | none =>
      have missing (at_ : ℤ) : [] = history.modifiedAt node at_ := by
        rw [modifiedAt, stored]
        rfl
      have unchanged : update history.modifiedValues node none =
          history.modifiedValues := by
        rw [← stored, update_eq_self]
      have nothing :=
        (pruned.counted there (ticks startTime) (ticks endTime) .empty missing).mpr rfl
      have left := pruned.deleteModified apart there (ticks startTime) (ticks endTime)
        fun at_ => show Option.getD (Option.bind none _) [] = _ by
          rw [← missing, ite_self]
          rfl
      rw [unchanged] at left
      rw [nothing]
      exact ⟨rfl, left⟩
    | some nodeValues =>
      have found (at_ : ℤ) : (nodeValues.find? at_).getD [] = history.modifiedAt node at_ := by
        rw [modifiedAt, stored]
        rfl
      have counts := pruned.counted there (ticks startTime) (ticks endTime) nodeValues found
      refine ⟨?_, pruned.deleteModified apart there (ticks startTime) (ticks endTime)
        fun at_ => ?_⟩
      · simp only [Nat.pos_iff_ne_zero, ne_eq, counts]
      · rw [find?_nonempty, find?_filterKeys, ← found, decide_not]
        by_cases inside : ticks startTime ≤ at_ ∧ at_ < ticks endTime
        · rw [if_pos inside, decide_eq_true inside]
          rfl
        · rw [if_neg inside, decide_eq_false inside]
          rfl
  | false =>
    simp only [Bool.false_eq_true, if_false]
    generalize s.pruneContinuationPoints instant = t at pruned
    by_cases nothing : t.historicalData.filter
        (isIn (text node) (ticks startTime) (ticks endTime)) = []
    · have whole : (t.historicalData.filter fun row =>
          !row.isIn (text node) (ticks startTime) (ticks endTime)) = t.historicalData := by
        rw [filter_eq_self]
        intro row member
        rw [Bool.not_eq_true']
        exact Bool.eq_false_iff.mpr (filter_eq_nil_iff.mp nothing row member)
      rw [nothing]
      dsimp only [foldl_nil]
      rw [whole]
      cases stored : history.rawValues node with
      | none => exact ⟨rfl, pruned⟩
      | some nodeValues =>
        have found (at_ : ℤ) : nodeValues.find? at_ = history.rawAt node at_ := by
          rw [rawAt, stored]
          rfl
        have empty := (pruned.rows_eq_nil there _ _ found).mp nothing
        dsimp only
        rw [empty]
        exact ⟨rfl, pruned⟩
    · cases stored : history.rawValues node with
      | none =>
        have missing (at_ : ℤ) : empty.find? at_ = history.rawAt node at_ := by
          rw [rawAt, stored]
          rfl
        exact absurd ((pruned.rows_eq_nil there _ _ missing).mpr rfl) nothing
      | some nodeValues =>
        have found (at_ : ℤ) : nodeValues.find? at_ = history.rawAt node at_ := by
          rw [rawAt, stored]
          rfl
        have some_ : nodeValues.range (ticks startTime) (ticks endTime) ≠ [] := fun empty =>
          nothing ((pruned.rows_eq_nil there _ _ found).mpr empty)
        have left := pruned.deleteRaw apart there (le_refl now) (ticks startTime) (ticks endTime)
          nodeValues found
        have rows := t.historicalData_insertAll (t.historicalData.filter
          (isIn (text node) (ticks startTime) (ticks endTime))) 4 now
        dsimp only
        rw [if_pos (List.length_pos_iff.mpr nothing), if_neg (by rwa [List.isEmpty_iff])]
        exact ⟨rfl, left.of_tables (congrArg (filter _) rows) rfl⟩

end Represents

end AsyncOpcua.History
