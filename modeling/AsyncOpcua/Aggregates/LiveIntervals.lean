/-
**Live aggregates: what a flush gives the engine.**

A live item splits its buffered samples at both ends of an interval. The interval is closed at its
end, and its prior value lies strictly before its start.

* `splitAt_eq` — what lies before, within and after the interval;
* `maybeFlushAggregate_emitted` — a flush queues what it emits, and drops what is long past.
-/

import AsyncOpcua.Foundation.TimeWindow
import AsyncOpcua.Foundation.Transition
import AsyncOpcua.Subscriptions.MonitoredItem
import AsyncOpcua.Aggregates.ProcessedIntervals
import Mathlib.Algebra.Ring.Int.Defs

namespace AsyncOpcua.Aggregates

open Foundation Option
open Types
open Subscriptions
open MonitoredItem (aggregateAt flushIntervals maybeFlushAggregate pruneBuffer)

variable {E : Externals}

/-! ### Samples -/

def sampleTime (value : E.DataValue) : ℤ := value.sourceTimestamp.getD 0

def Timed (samples : List E.DataValue) : Prop := ∀ value ∈ samples, value.sourceTimestamp.isSome

section

variable {samples : List E.DataValue} (timed : Timed samples) {value : E.DataValue}
  (member : value ∈ samples)
include timed member

theorem Timed.getD (default : ℤ) : value.sourceTimestamp.getD default = sampleTime value := by
  obtain ⟨time, stamped⟩ := isSome_iff_exists.mp (timed value member)
  rw [sampleTime, stamped]
  rfl

end

/-! ### What a flush gives the engine -/

def intervalStart (agg : ParsedAggregateFilter E) (intervalEnd : ℤ) : ℤ :=
  addMillis intervalEnd (E.neg agg.processingInterval)

def liveInput (agg : ParsedAggregateFilter E) (buffer : List E.DataValue) (intervalEnd : ℤ) :
    Input E :=
  let (prior, values, next) :=
    MonitoredItem.splitAt buffer (intervalStart agg intervalEnd) intervalEnd
  { values := values, annotations := [], prior := prior, next := next
    intervalStart := intervalStart agg intervalEnd, intervalEnd := intervalEnd
    config := agg.config, stepped := false }

theorem aggregateAt_eq (agg : ParsedAggregateFilter E) (buffer : List E.DataValue)
    (intervalEnd : ℤ) :
    aggregateAt agg buffer intervalEnd =
      { E.dispatchAggregate agg.aggregateType (liveInput agg buffer intervalEnd) with
        sourceTimestamp := some intervalEnd, serverTimestamp := some intervalEnd } :=
  rfl

def splitStep (s e : ℤ) (state : Option E.DataValue × List E.DataValue × Option E.DataValue)
    (dv : E.DataValue) : Option E.DataValue × List E.DataValue × Option E.DataValue :=
  if sampleTime dv < s then (some dv, state.2.1, state.2.2)
  else if sampleTime dv ≤ e then (state.1, state.2.1 ++ [dv], state.2.2)
  else (state.1, state.2.1, state.2.2.or (some dv))

variable {buffer : List E.DataValue}

open List

theorem splitAt_eq_foldl (timed : Timed buffer) (s e : ℤ) :
    MonitoredItem.splitAt buffer s e = buffer.foldl (splitStep s e) (none, [], none) := by
  refine foldl_ext _ _ _ fun state dv member => ?_
  obtain ⟨prior, values, next⟩ := state
  simp only [timed.getD member s, splitStep]
  cases next <;> rfl

theorem foldl_splitStep (buffer : List E.DataValue) {s e : ℤ} (forward : s ≤ e)
    (state : Option E.DataValue × List E.DataValue × Option E.DataValue) :
    buffer.foldl (splitStep s e) state =
      ((lastBefore sampleTime s buffer).or state.1,
        state.2.1 ++ buffer.filter fun value => s ≤ sampleTime value ∧ sampleTime value ≤ e,
        state.2.2.or (firstAfter sampleTime e buffer)) := by
  induction buffer generalizing state with
  | nil => simp [lastBefore, firstAfter]
  | cons dv rest ih =>
    rw [foldl_cons, ih]
    unfold splitStep lastBefore firstAfter
    by_cases before : sampleTime dv < s
    · have outside : ¬ (s ≤ sampleTime dv ∧ sampleTime dv ≤ e) := by omega
      have notAfter : ¬ e < sampleTime dv := by omega
      simp [before, outside, notAfter, getLast?_cons]
    · by_cases inside : sampleTime dv ≤ e
      · have within : s ≤ sampleTime dv ∧ sampleTime dv ≤ e := by omega
        have notAfter : ¬ e < sampleTime dv := by omega
        simp [before, inside, within, notAfter]
      · have after : e < sampleTime dv := by omega
        simp [before, inside, after]

theorem splitAt_eq (timed : Timed buffer) {s e : ℤ} (forward : s ≤ e) :
    MonitoredItem.splitAt buffer s e =
      (lastBefore sampleTime s buffer,
        buffer.filter fun value => s ≤ sampleTime value ∧ sampleTime value ≤ e,
        firstAfter sampleTime e buffer) := by
  rw [splitAt_eq_foldl timed, foldl_splitStep buffer forward, or_none, nil_append,
    none_or]

/-! ### Runs of an item -/

/-- A new value for an item, or a tick at which it flushes. -/
inductive AggregateOp (E : Externals) where
  | notify (value : E.DataValue) (now : ℤ)
  | flush (now : ℤ)

/-- **An item that is notified values and flushes its intervals.** -/
def itemMachine : Machine (MonitoredItem E) (AggregateOp E) where
  step item op :=
    match op with
    | .notify value now => some (item.notifyDataValue value now false).2
    | .flush now => (item.maybeFlushAggregate now).map Prod.snd

def emitted (item : MonitoredItem E) (now : ℤ) : Option (List E.DataValue × ℤ) :=
  match item.filter, item.aggregateNextDeadline with
  | .aggregateFilter agg, some deadline =>
    MonitoredItem.flushIntervals agg item.aggregateBuffer now ((now - deadline).toNat + 1) deadline
  | _, some deadline => some ([], deadline)
  | _, none => some ([], 0)

/-- What decides how an item aggregates. -/
structure Aggregation (E : Externals) where
  filter : FilterType E
  itemToMonitor : ParsedReadValueId E
  monitoringMode : MonitoringMode
  sampleSkippedDataValue : Option E.DataValue
  aggregateBuffer : List E.DataValue
  aggregateNextDeadline : Option ℤ

def aggregation (item : MonitoredItem E) : Aggregation E :=
  ⟨item.filter, item.itemToMonitor, item.monitoringMode, item.sampleSkippedDataValue,
    item.aggregateBuffer, item.aggregateNextDeadline⟩

theorem enqueueNotification_aggregation (item : MonitoredItem E) (notification : Notification E) :
    aggregation (item.enqueueNotification notification) = aggregation item := by
  obtain ⟨_, _, same⟩ := item.enqueueNotification_frame notification
  rw [same]
  rfl

/-- Queue the emitted values, as `maybe_flush_aggregate` does. -/
def enqueueAll (produced : List E.DataValue) (item : MonitoredItem E) : MonitoredItem E :=
  produced.foldl (fun item value => item.enqueueNotification
    (.monitoredItemNotification ⟨item.clientHandle, item.applyTimestampsToReturn value⟩)) item

theorem enqueueAll_aggregation (produced : List E.DataValue) (item : MonitoredItem E) :
    aggregation (enqueueAll produced item) = aggregation item := by
  induction produced generalizing item with
  | nil => rfl
  | cons value rest ih => exact (ih _).trans (enqueueNotification_aggregation _ _)

variable {deadline next : ℤ} {agg : ParsedAggregateFilter E} {produced : List E.DataValue}

/-- **A flush queues what it emits** and drops what is long past the next interval. -/
theorem maybeFlushAggregate_emitted {item : MonitoredItem E}
    {now : ℤ} (filter : item.filter = .aggregateFilter agg)
    (due : item.aggregateNextDeadline = some deadline)
    (emits : emitted item now = some (produced, next)) :
    item.maybeFlushAggregate now =
      if produced.isEmpty then some (false, item)
      else some (true, enqueueAll produced { item with
        aggregateNextDeadline := some next
        aggregateBuffer :=
          pruneBuffer item.aggregateBuffer (intervalStart agg next) }) := by
  simp only [emitted, filter, due] at emits
  unfold maybeFlushAggregate
  simp only [filter, due, emits]
  cases produced with
  | nil | cons => rfl

/-! ### The buffer of an item -/

theorem pruneBuffer_spec (timed : Timed buffer) (nextStart : ℤ) :
    ∃ dropped, buffer = dropped ++ pruneBuffer buffer nextStart ∧
      (dropped ≠ [] → Droppable sampleTime nextStart dropped
        (pruneBuffer buffer nextStart)) := by
  unfold pruneBuffer
  cases found : buffer.reverse.findIdx? fun dv =>
      dv.sourceTimestamp.any fun ts => decide (ts < nextStart) with
  | none => exact ⟨[], rfl, fun something => absurd rfl something⟩
  | some fromEnd =>
    obtain ⟨inside, early, -⟩ := findIdx?_eq_some_iff_getElem.mp found
    rw [length_reverse] at inside
    have cut : buffer.length - 1 - fromEnd < buffer.length := by omega
    refine ⟨buffer.take (buffer.length - 1 - fromEnd), (take_append_drop _ _).symm,
      fun _ => .inr ⟨buffer[buffer.length - 1 - fromEnd], _,
        drop_eq_getElem_cons cut, ?_⟩⟩
    rw [getElem_reverse] at early
    have stamped := timed _ (getElem_mem cut)
    obtain ⟨time, stamp⟩ := isSome_iff_exists.mp stamped
    rw [stamp, any_some, decide_eq_true_eq] at early
    rw [sampleTime, stamp]
    exact early

/-! ### A run -/

/-- **An engine to run the model on,** over integers; the count is the only aggregate. -/
def integerEngine : EngineExternals Externals.integers where
  ofInt := fun n => n
  toInt := fun x => x
  add := Int.add
  mul := Int.mul
  le := fun (x y : ℤ) => decide (x ≤ y)
  int32 := BitVec.toInt
  treatUncertainAsBad := fun _ => false
  percentDataBad := fun _ => 100
  percentDataGood := fun _ => 100

def counting : Externals :=
  { Externals.integers with
    dispatchAggregate := fun _ input => aggCount integerEngine 0 input }

def sample (time value : ℤ) : counting.DataValue :=
  { value := some (.scalar value), status := some StatusCode.Good, sourceTimestamp := some time
    sourcePicoseconds := none, serverTimestamp := some time, serverPicoseconds := none }

/-- An item that counts over intervals of a millisecond. -/
def countingFilter : ParsedAggregateFilter counting :=
  { aggregateType := (2352 : ℕ), processingInterval := (1 : ℤ), config := () }

def countingRequest : MonitoredItem.CreateMonitoredItem counting :=
  { id := 1, itemToMonitor := ⟨(0 : ℕ), 13, none⟩, monitoringMode := .reporting, clientHandle := 7
    discardOldest := true, queueSize := 10, samplingInterval := .zero, initialValue := none
    statusCode := StatusCode.Good, filter := .aggregateFilter countingFilter
    timestampsToReturn := .both, euRange := none }

/-- The counting item, created at time 0: its first interval ends after a millisecond. -/
def countingItem : MonitoredItem counting := MonitoredItem.new countingRequest 0

end AsyncOpcua.Aggregates
