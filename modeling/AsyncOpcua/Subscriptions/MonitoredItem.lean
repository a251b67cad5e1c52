/-
**Monitored items: filtering, sampling, the notification queue, aggregation.**

* `enqueueNotification` keeps the queue within `queueSize`, `popNotification` hands the overflow
  indicator out at the end the discard policy names;
* `maybeFlushAggregate` emits one value for each processing interval that has passed. Its loop does
  not return when the deadline stops moving: `flushIntervals_eq_none` says that the bound on the
  model's loop is not the reason for a `none`.
-/

import AsyncOpcua.Types.NotificationMessage
import AsyncOpcua.Subscriptions.Filters
import Mathlib.Data.Finset.Insert
import Mathlib.Data.Finset.Erase
import Mathlib.Data.List.Forall2

namespace AsyncOpcua.Subscriptions

open Types Option

inductive MonitoringMode where
  | disabled
  | sampling
  | reporting
  deriving DecidableEq

inductive TimestampsToReturn where
  | source
  | server
  | both
  | neither
  | invalid
  deriving DecidableEq

inductive SamplingInterval where
  | subscription
  | zero
  | nonZero (interval : ℤ)

structure ParsedAggregateFilter (E : Externals) where
  aggregateType : E.NodeId
  processingInterval : E.F64
  config : E.AggregateConfiguration

inductive FilterType (E : Externals) where
  | none
  | dataChangeFilter (filter : ParsedDataChangeFilter E)
  | eventFilter (filter : E.EventFilter)
  | aggregateFilter (filter : ParsedAggregateFilter E)

/-- The monitored attribute. `indexRange` is absent for `NumericRange::None`. -/
structure ParsedReadValueId (E : Externals) where
  nodeId : E.NodeId
  attributeId : ℕ
  indexRange : Option E.NumericRange

structure MonitoredItem (E : Externals) where
  id : ℕ
  itemToMonitor : ParsedReadValueId E
  monitoringMode : MonitoringMode
  triggeredItems : Finset ℕ
  clientHandle : ℕ
  samplingInterval : SamplingInterval
  filter : FilterType E
  discardOldest : Bool
  queueSize : ℕ
  notificationQueue : List (Notification E)
  overflowEvent : Option E.EventFieldList
  timestampsToReturn : TimestampsToReturn
  lastDataValue : Option E.DataValue
  sampleSkippedDataValue : Option E.DataValue
  sampleSkippedBeforeSemanticsChanged : Bool
  anyNewNotification : Bool
  euRange : Option (E.F64 × E.F64)
  semanticsChanged : Bool
  aggregateBuffer : List E.DataValue
  aggregateNextDeadline : Option ℤ

variable {E : Externals}

/-- `add_millis`: a sum outside chrono's range is the time itself. -/
def addMillis (time : ℤ) (millis : E.F64) : ℤ :=
  match checkedAddSigned time (E.micros millis * 1000) with
  | some sum => dateTimeFrom sum
  | none => time

def FilterType.isAggregate : FilterType E → Bool
  | .aggregateFilter _ => true
  | _ => false

def FilterType.isEvent : FilterType E → Bool
  | .eventFilter _ => true
  | _ => false

/-! ### Status bits of queued notifications -/

def setStatusBit (set : StatusCode → Bool → StatusCode) (value : E.DataValue) : E.DataValue :=
  { value with status := some (set value.statusCode true) }

def notificationSemanticsChanged : Notification E → Bool
  | .monitoredItemNotification n => n.value.statusCode.semanticsChanged
  | .event _ => false

def markOverflow : Notification E → Notification E
  | .monitoredItemNotification n =>
    .monitoredItemNotification { n with value := setStatusBit StatusCode.setOverflow n.value }
  | .event fields => .event fields

def setNotificationSemanticsChanged : Notification E → Bool × Notification E
  | .monitoredItemNotification n =>
    (true, .monitoredItemNotification
      { n with value := setStatusBit StatusCode.setSemanticsChanged n.value })
  | .event fields => (false, .event fields)

/-- Set the bit on the first queued data change, if there is one. -/
def carrySemanticsChanged : List (Notification E) → Bool × List (Notification E)
  | [] => (false, [])
  | notification :: rest =>
    match setNotificationSemanticsChanged notification with
    | (true, marked) => (true, marked :: rest)
    | (false, same) =>
      let (found, rest) := carrySemanticsChanged rest
      (found, same :: rest)

namespace MonitoredItem

variable (item : MonitoredItem E)

def isReporting : Bool := item.monitoringMode == .reporting

def isSampling : Bool :=
  item.monitoringMode == .reporting || item.monitoringMode == .sampling

def isEventItem : Bool := item.filter.isEvent

def hasLastValue : Bool := item.lastDataValue.isSome

def hasNotifications : Bool :=
  !item.notificationQueue.isEmpty || item.overflowEvent.isSome

def setMonitoringMode (mode : MonitoringMode) : MonitoredItem E :=
  { item with monitoringMode := mode }

/-! ### Triggering -/

/-- Links are removed before new ones are added. -/
def setTriggering (itemsToAdd itemsToRemove : List ℕ) : MonitoredItem E :=
  let kept := itemsToRemove.foldl (fun links id => links.erase id) item.triggeredItems
  { item with triggeredItems := itemsToAdd.foldl (fun links id => insert id links) kept }

def removeDeadTrigger (id : ℕ) : MonitoredItem E :=
  { item with triggeredItems := item.triggeredItems.erase id }

/-- Reading the flag clears it. -/
def hasNewNotifications : Bool × MonitoredItem E :=
  (item.anyNewNotification, { item with anyNewNotification := false })

/-! ### The notification queue -/

def carrySemanticsChangedToNextQueuedDataChange : MonitoredItem E :=
  match carrySemanticsChanged item.notificationQueue with
  | (true, queue) => { item with notificationQueue := queue }
  | (false, queue) => { item with notificationQueue := queue, semanticsChanged := true }

def enqueueNotification (notification : Notification E) : MonitoredItem E :=
  let item := { item with anyNewNotification := true }
  if item.notificationQueue.length ≠ item.queueSize then
    { item with notificationQueue := item.notificationQueue ++ [notification] }
  else
    let setBit := decide (1 < item.queueSize)
    if item.discardOldest then
      let discardedSemanticsChanged :=
        item.notificationQueue.head?.any notificationSemanticsChanged
      let queue := item.notificationQueue.tail ++ [notification]
      let queue := if setBit then queue.modifyHead markOverflow else queue
      let item := { item with notificationQueue := queue }
      if discardedSemanticsChanged then item.carrySemanticsChangedToNextQueuedDataChange else item
    else
      let discardedSemanticsChanged :=
        item.notificationQueue.getLast?.any notificationSemanticsChanged
      let notification := if setBit then markOverflow notification else notification
      let (carried, notification) :=
        if discardedSemanticsChanged then setNotificationSemanticsChanged notification
        else (true, notification)
      { item with
        notificationQueue := item.notificationQueue.dropLast ++ [notification]
        semanticsChanged := item.semanticsChanged || !carried }

theorem enqueueNotification_frame (notification : Notification E) :
    ∃ queue semanticsChanged, item.enqueueNotification notification =
      { item with
        notificationQueue := queue, semanticsChanged := semanticsChanged
        anyNewNotification := true } := by
  have carried : ∀ item : MonitoredItem E, ∃ queue semanticsChanged,
      item.carrySemanticsChangedToNextQueuedDataChange =
        { item with notificationQueue := queue, semanticsChanged := semanticsChanged } := by
    intro item
    unfold carrySemanticsChangedToNextQueuedDataChange
    split
    · exact ⟨_, _, rfl⟩
    · exact ⟨_, _, rfl⟩
  unfold enqueueNotification
  dsimp only
  split_ifs <;> first | exact ⟨_, _, rfl⟩ | exact carried _

/-- The second notification is the first, perhaps with bits set in its status. -/
inductive Marked : Notification E → Notification E → Prop
  | refl (n : Notification E) : Marked n n
  | overflow {n m : Notification E} : Marked n m → Marked n (markOverflow m)
  | semantics {n m : Notification E} : Marked n m → Marked n (setNotificationSemanticsChanged m).2

theorem Marked.keeps {P : Notification E → Prop} {n m : Notification E} (marked : Marked n m)
    (marks : ∀ n, P n → P (markOverflow n))
    (semantics : ∀ n, P n → P (setNotificationSemanticsChanged n).2) (there : P n) : P m := by
  induction marked with
  | refl => exact there
  | overflow _ ih => exact marks _ ih
  | semantics _ ih => exact semantics _ ih

theorem carrySemanticsChanged_marked {wanted queue : List (Notification E)}
    (marked : List.Forall₂ Marked wanted queue) :
    List.Forall₂ Marked wanted (carrySemanticsChanged queue).2 := by
  induction marked with
  | nil => exact .nil
  | @cons _ entry _ _ first rest ih =>
    have next := first.semantics
    unfold carrySemanticsChanged
    cases set : setNotificationSemanticsChanged entry with
    | mk found changed =>
      rw [set] at next
      cases found with
      | true => exact .cons next rest
      | false => exact .cons next ih

theorem exists_of_forall₂ {α β : Type} {R : α → β → Prop} {l : List α} {l' : List β}
    (related : List.Forall₂ R l l') {a : α} (here : a ∈ l) : ∃ b ∈ l', R a b := by
  induction related with
  | nil => cases here
  | cons first _ ih =>
    rcases List.mem_cons.mp here with rfl | later
    · exact ⟨_, List.mem_cons_self, first⟩
    · obtain ⟨b, there, holds⟩ := ih later
      exact ⟨b, List.mem_cons_of_mem _ there, holds⟩

/-- **The queue after enqueueing:** what is kept of it and the new notification, whatever bits are
set. -/
theorem enqueueNotification_queue (notification : Notification E) :
    ∃ kept ⊆ item.notificationQueue, List.Forall₂ Marked (kept ++ [notification])
      (item.enqueueNotification notification).notificationQueue := by
  have same : ∀ queue : List (Notification E), List.Forall₂ Marked queue queue :=
    fun queue => List.forall₂_same.mpr fun n _ => .refl n
  have headed : ∀ queue : List (Notification E),
      List.Forall₂ Marked queue (queue.modifyHead markOverflow) := by
    rintro (_ | ⟨first, rest⟩)
    · exact .nil
    · exact .cons (.overflow (.refl first)) (same rest)
  unfold enqueueNotification
  dsimp only
  by_cases room : item.notificationQueue.length ≠ item.queueSize
  · rw [if_pos room]
    exact ⟨_, List.Subset.refl _, same _⟩
  rw [if_neg room]
  by_cases oldest : item.discardOldest = true
  · rw [if_pos oldest]
    refine ⟨_, List.tail_subset _, ?_⟩
    have queued : List.Forall₂ Marked (item.notificationQueue.tail ++ [notification])
        (if decide (1 < item.queueSize) = true then
          (item.notificationQueue.tail ++ [notification]).modifyHead markOverflow
          else item.notificationQueue.tail ++ [notification]) := by
      split
      · exact headed _
      · exact same _
    split
    · have carried := carrySemanticsChanged_marked queued
      unfold carrySemanticsChangedToNextQueuedDataChange
      split
      all_goals
        next there =>
          rw [there] at carried
          exact carried
    · exact queued
  · rw [if_neg oldest]
    refine ⟨_, List.dropLast_subset _, List.rel_append (same _) (.cons ?_ .nil)⟩
    have marked : Marked notification
        (if decide (1 < item.queueSize) = true then markOverflow notification
          else notification) := by
      split
      · exact .overflow (.refl _)
      · exact .refl _
    split
    · exact marked.semantics
    · exact marked

/-- **What is queued is in the queue,** whatever bits it and the others get. -/
theorem enqueueNotification_marked (notification : Notification E) :
    ∃ queued ∈ (item.enqueueNotification notification).notificationQueue,
      Marked notification queued := by
  obtain ⟨kept, -, marked⟩ := item.enqueueNotification_queue notification
  exact exists_of_forall₂ marked (List.mem_append_right _ List.mem_cons_self)

def popNotification : Option (Notification E) × MonitoredItem E :=
  if item.overflowEvent.isSome ∧ item.discardOldest then
    (item.overflowEvent.map .event, { item with overflowEvent := none })
  else
    match item.notificationQueue with
    | notification :: rest => (some notification, { item with notificationQueue := rest })
    | [] => (item.overflowEvent.map .event, { item with overflowEvent := none })

def addCurrentValueToQueue : MonitoredItem E :=
  let alreadyQueued :=
    match item.notificationQueue.head?, item.lastDataValue with
    | some (.monitoredItemNotification it), some value => DataValue.eq it.value value
    | _, _ => false
  if alreadyQueued then item
  else
    match item.lastDataValue with
    | none => item
    | some value =>
      item.enqueueNotification (.monitoredItemNotification ⟨item.clientHandle, value⟩)

/-! ### Data changes -/

def applyTimestampsToReturn (value : E.DataValue) : E.DataValue :=
  match item.timestampsToReturn with
  | .neither | .invalid =>
    { value with
      sourceTimestamp := none, sourcePicoseconds := none
      serverTimestamp := none, serverPicoseconds := none }
  | .server => { value with sourceTimestamp := none, sourcePicoseconds := none }
  | .source => { value with serverTimestamp := none, serverPicoseconds := none }
  | .both => value

def samplingIntervalAsTimeDelta : ℤ :=
  match item.samplingInterval with
  | .subscription => 0
  | .zero => 0
  | .nonZero interval => interval

def filterBySamplingInterval (old new : E.DataValue) (fromSubscriptionTick : Bool) : Bool :=
  match old.sourceTimestamp, new.sourceTimestamp with
  | some old, some new =>
    match item.samplingInterval with
    | .subscription => fromSubscriptionTick
    | .zero => true
    | .nonZero interval => decide (interval ≤ new - old)
  | _, _ => true

def applyIndexRange (value : E.DataValue) : E.DataValue :=
  match item.itemToMonitor.indexRange, value.value with
  | some range, some v =>
    match E.rangeOf v range with
    | .ok r => { value with value := some r }
    | .error e => { value with status := some e, value := some .empty }
  | _, _ => value

def matches_ (value : E.DataValue) (fromSubscriptionTick : Bool) : Bool × Bool :=
  match item.lastDataValue, item.filter with
  | some last, .dataChangeFilter filter =>
    (filter.isChanged value last, item.filterBySamplingInterval last value fromSubscriptionTick)
  | some last, .none =>
    (!optionEq value.value last.value,
      item.filterBySamplingInterval last value fromSubscriptionTick)
  | none, _ => (true, true)
  | some _, _ => (false, false)

/-- `notify_data_value` past its skipped-sample block: index range, aggregation, filter, sampling,
queue. -/
def acceptDataValue (value : E.DataValue) (now : ℤ)
    (fromSubscriptionTick extraEnqueued : Bool) : Bool × MonitoredItem E :=
  let value := item.applyIndexRange value
  if item.filter.isAggregate then
    (true, { item with aggregateBuffer := item.aggregateBuffer ++ [value] })
  else
    let (matchesFilter, matchesSamplingInterval) := item.matches_ value fromSubscriptionTick
    if !matchesFilter then (extraEnqueued, item)
    else if !matchesSamplingInterval then
      let since := (item.lastDataValue.bind (·.sourceTimestamp)).getD now
      let shifted := (checkedAddSigned since item.samplingIntervalAsTimeDelta).map dateTimeFrom
      (true,
        { item with
          sampleSkippedDataValue := some { value with sourceTimestamp := shifted }
          sampleSkippedBeforeSemanticsChanged := false })
    else
      let item := { item with lastDataValue := some value }
      let value := item.applyTimestampsToReturn value
      let value :=
        if item.semanticsChanged then setStatusBit StatusCode.setSemanticsChanged value else value
      let item := { item with semanticsChanged := false }
      (true, item.enqueueNotification (.monitoredItemNotification ⟨item.clientHandle, value⟩))

/-- Run a notification of a sample that was taken before the pending semantics change: the pending
bit is not put on it. -/
def withheldSemanticsChanged
    (notify : MonitoredItem E → Bool × MonitoredItem E) : Bool × MonitoredItem E :=
  let semanticsChanged := item.semanticsChanged
  let (enqueued, item) := notify { item with semanticsChanged := false }
  (enqueued, { item with semanticsChanged := item.semanticsChanged || semanticsChanged })

/-- **A new value for the item.** The recursive call of the source is on the skipped sample, which
has been taken out before, so it is `acceptDataValue`. -/
def notifyDataValue (value : E.DataValue) (now : ℤ)
    (fromSubscriptionTick : Bool) : Bool × MonitoredItem E :=
  if item.monitoringMode = .disabled then (false, item)
  else
    match item.sampleSkippedDataValue with
    | none => item.acceptDataValue value now fromSubscriptionTick false
    | some skippedValue =>
      let skippedBeforeSemanticsChanged := item.sampleSkippedBeforeSemanticsChanged
      let item :=
        { item with
          sampleSkippedDataValue := none, sampleSkippedBeforeSemanticsChanged := false }
      let usable := skippedValue.sourceTimestamp.any fun v =>
        decide (v ≤ now) && value.sourceTimestamp.all fun v2 => decide (v ≤ v2)
      if usable then
        let (extraEnqueued, item) :=
          if skippedBeforeSemanticsChanged then
            item.withheldSemanticsChanged fun item =>
              item.acceptDataValue skippedValue now false false
          else item.acceptDataValue skippedValue now false false
        item.acceptDataValue value now fromSubscriptionTick extraEnqueued
      else item.acceptDataValue value now fromSubscriptionTick false

/-- A skipped sample whose shifted time has come is notified as part of a tick. -/
def maybeEnqueueSkippedValue (now : ℤ) : Bool × MonitoredItem E :=
  let skippedBeforeSemanticsChanged := item.sampleSkippedBeforeSemanticsChanged
  let taken :=
    { item with sampleSkippedDataValue := none, sampleSkippedBeforeSemanticsChanged := false }
  match item.sampleSkippedDataValue with
  | none => (false, taken)
  | some value =>
    if value.sourceTimestamp.any fun v => decide (v ≤ now) then
      if skippedBeforeSemanticsChanged then
        (true, (taken.withheldSemanticsChanged fun item => item.notifyDataValue value now true).2)
      else (true, (taken.notifyDataValue value now true).2)
    else
      (false,
        { taken with
          sampleSkippedDataValue := some value
          sampleSkippedBeforeSemanticsChanged := skippedBeforeSemanticsChanged })

def notifyEuRangeChanged (low high : E.F64) : MonitoredItem E :=
  let item := { item with euRange := some (low, high) }
  let item :=
    match item.filter with
    | .dataChangeFilter filter =>
      { item with filter := .dataChangeFilter (filter.updateEuRange low high) }
    | _ => item
  if item.filter.isEvent || item.filter.isAggregate then item
  else
    { item with
      sampleSkippedBeforeSemanticsChanged :=
        item.sampleSkippedDataValue.isSome || item.sampleSkippedBeforeSemanticsChanged
      semanticsChanged := true }

/-! ### Events -/

/-- **A new event for the item.** The first event lost to a full queue leaves one overflow
indicator. -/
def notifyEvent (event : E.Event) (typeTree : E.TypeTree)
    (overflowId : List UInt8) (now : ℤ) : Bool × MonitoredItem E :=
  if item.monitoringMode = .disabled then (false, item)
  else
    match item.filter with
    | .eventFilter filter =>
      match E.evaluate filter event item.clientHandle typeTree with
      | none => (false, item)
      | some notif =>
        let overflowEvent :=
          if item.queueSize ≤ item.notificationQueue.length ∧ 1 < item.queueSize ∧
              item.overflowEvent.isNone then
            E.evaluate filter (E.eventQueueOverflow overflowId now) item.clientHandle typeTree
          else none
        let item :=
          match overflowEvent with
          | some ev => { item with overflowEvent := some ev, anyNewNotification := true }
          | none => item
        (true, item.enqueueNotification (.event notif))
    | _ => (false, item)

/-! ### Aggregation -/

/-- Split the buffered samples at one interval: the last before it, those in it, the first after. -/
def splitAt (buffer : List E.DataValue) (intervalStart intervalEnd : ℤ) :
    Option E.DataValue × List E.DataValue × Option E.DataValue :=
  buffer.foldl
    (fun (prior, values, next) dv =>
      let ts := dv.sourceTimestamp.getD intervalStart
      if ts < intervalStart then (some dv, values, next)
      else if ts ≤ intervalEnd then (prior, values ++ [dv], next)
      else (prior, values, next.orElse fun _ => some dv))
    (none, [], none)

def aggregateAt (agg : ParsedAggregateFilter E) (buffer : List E.DataValue)
    (intervalEnd : ℤ) : E.DataValue :=
  let intervalStart := addMillis intervalEnd (E.neg agg.processingInterval)
  let (prior, values, next) := splitAt buffer intervalStart intervalEnd
  let value := E.dispatchAggregate agg.aggregateType
    { values := values, annotations := [], prior := prior, next := next
      intervalStart := intervalStart, intervalEnd := intervalEnd
      config := agg.config, stepped := false }
  { value with sourceTimestamp := some intervalEnd, serverTimestamp := some intervalEnd }

/-- The loop over the passed intervals: the values produced and the next deadline. `none` when
`fuel` rounds do not pass `now`. -/
def flushIntervals (agg : ParsedAggregateFilter E) (buffer : List E.DataValue) (now : ℤ) :
    ℕ → ℤ → Option (List E.DataValue × ℤ)
  | fuel, deadline =>
    if deadline ≤ now then
      match fuel with
      | 0 => none
      | fuel + 1 =>
        (flushIntervals agg buffer now fuel (addMillis deadline agg.processingInterval)).map
          fun (produced, next) => (aggregateAt agg buffer deadline :: produced, next)
    else some ([], deadline)

section

variable (agg : ParsedAggregateFilter E) (buffer : List E.DataValue) {now deadline : ℤ}

theorem flushIntervals_stuck (passed : deadline ≤ now)
    (stuck : addMillis deadline agg.processingInterval ≤ deadline) (fuel : ℕ) :
    flushIntervals agg buffer now fuel deadline = none := by
  have again : addMillis deadline agg.processingInterval = deadline ∨
      ∀ time, addMillis time agg.processingInterval ≤ time := by
    by_cases forward : 0 < E.micros agg.processingInterval
    · left
      unfold addMillis checkedAddSigned at stuck ⊢
      split_ifs at stuck ⊢ with range
      · simp only [dateTimeFrom] at stuck
        omega
      · rfl
    · right
      intro time
      unfold addMillis checkedAddSigned
      split_ifs with range
      · simp only [dateTimeFrom]
        omega
      · exact le_refl time
  induction fuel generalizing deadline with
  | zero => rw [flushIntervals, if_pos passed]
  | succ fuel ih =>
    rw [flushIntervals, if_pos passed, map_eq_none_iff]
    obtain same | back := again
    · rw [same]
      exact ih passed stuck (Or.inl same)
    · exact ih (le_trans stuck passed) (back _) (Or.inr back)

/-- **The loop bound is exact.** Where `now - deadline + 1` rounds do not pass `now`, no number of
rounds does. -/
theorem flushIntervals_eq_none {bound : ℕ} (enough : (now - deadline).toNat < bound)
    (unfinished : flushIntervals agg buffer now bound deadline = none) (fuel : ℕ) :
    flushIntervals agg buffer now fuel deadline = none := by
  induction bound generalizing deadline fuel with
  | zero => omega
  | succ bound ih =>
    by_cases passed : deadline ≤ now
    · by_cases stuck : addMillis deadline agg.processingInterval ≤ deadline
      · exact flushIntervals_stuck agg buffer passed stuck fuel
      rw [flushIntervals, if_pos passed, map_eq_none_iff] at unfinished
      have behind : addMillis deadline agg.processingInterval ≤ now := by
        by_contra beyond
        cases bound <;> rw [flushIntervals, if_neg beyond] at unfinished <;>
          exact some_ne_none _ unfinished
      cases fuel with
      | zero => rw [flushIntervals, if_pos passed]
      | succ fuel =>
        rw [flushIntervals, if_pos passed, map_eq_none_iff]
        exact ih (by omega) unfinished fuel
    · rw [flushIntervals, if_neg passed] at unfinished
      exact absurd unfinished (some_ne_none _)

end

/-- Drop the samples before the last one that precedes `nextStart`. -/
def pruneBuffer (buffer : List E.DataValue) (nextStart : ℤ) : List E.DataValue :=
  match buffer.reverse.findIdx? fun dv => dv.sourceTimestamp.any fun ts => decide (ts < nextStart)
  with
  | some fromEnd => buffer.drop (buffer.length - 1 - fromEnd)
  | none => buffer

/-- **Emit one value per passed interval.** A deadline that moves does so by a nanosecond at least,
so `now - deadline + 1` rounds are enough if any number is. -/
def maybeFlushAggregate (now : ℤ) : Option (Bool × MonitoredItem E) :=
  match item.filter, item.aggregateNextDeadline with
  | .aggregateFilter agg, some deadline =>
    match flushIntervals agg item.aggregateBuffer now ((now - deadline).toNat + 1) deadline with
    | none => none
    | some ([], _) => some (false, item)
    | some (produced, deadline) =>
      let nextStart := addMillis deadline (E.neg agg.processingInterval)
      let item :=
        { item with
          aggregateNextDeadline := some deadline
          aggregateBuffer := pruneBuffer item.aggregateBuffer nextStart }
      some (true, produced.foldl
        (fun item value => item.enqueueNotification (.monitoredItemNotification
          ⟨item.clientHandle, item.applyTimestampsToReturn value⟩)) item)
  | _, _ => some (false, item)

/-! ### Creation and modification -/

/-- What a create request brings, with the filter already parsed and the numbers already revised. -/
structure CreateMonitoredItem (E : Externals) where
  id : ℕ
  itemToMonitor : ParsedReadValueId E
  monitoringMode : MonitoringMode
  clientHandle : ℕ
  discardOldest : Bool
  queueSize : ℕ
  samplingInterval : SamplingInterval
  initialValue : Option E.DataValue
  statusCode : StatusCode
  filter : FilterType E
  timestampsToReturn : TimestampsToReturn
  euRange : Option (E.F64 × E.F64)

/-- The value an item reports until it has one. -/
def waitingForInitialData (now : ℤ) : E.DataValue where
  value := some .empty
  status := some StatusCode.BadWaitingForInitialData
  sourceTimestamp := some now
  sourcePicoseconds := none
  serverTimestamp := some now
  serverPicoseconds := none

/-- **`MonitoredItem::new`.** All but aggregate items start with a value to report. -/
def new (request : CreateMonitoredItem E) (now : ℤ) : MonitoredItem E :=
  let item : MonitoredItem E :=
    { id := request.id, itemToMonitor := request.itemToMonitor
      monitoringMode := request.monitoringMode, triggeredItems := ∅
      clientHandle := request.clientHandle, samplingInterval := request.samplingInterval
      filter := request.filter, discardOldest := request.discardOldest
      queueSize := request.queueSize, notificationQueue := [], overflowEvent := none
      timestampsToReturn := request.timestampsToReturn, lastDataValue := none
      sampleSkippedDataValue := none, sampleSkippedBeforeSemanticsChanged := false
      anyNewNotification := false, euRange := request.euRange, semanticsChanged := false
      aggregateBuffer := [], aggregateNextDeadline := none }
  match request.filter with
  | .aggregateFilter agg =>
    { item with aggregateNextDeadline := some (addMillis now agg.processingInterval) }
  | _ => (item.notifyDataValue (request.initialValue.getD (waitingForInitialData now)) now true).2

/-- What a modify request brings, with the filter already parsed and the numbers already revised. -/
structure ModifyRequest (E : Externals) where
  timestampsToReturn : TimestampsToReturn
  filter : Except StatusCode (FilterType E)
  euRange : Option (E.F64 × E.F64)
  samplingInterval : SamplingInterval
  queueSize : ℕ
  clientHandle : ℕ
  discardOldest : Bool

def modify (request : ModifyRequest E) (now : ℤ) : StatusCode × MonitoredItem E :=
  let item := { item with timestampsToReturn := request.timestampsToReturn }
  match request.filter with
  | .error e => (e, item)
  | .ok filter =>
    let deadline :=
      match filter with
      | .aggregateFilter agg => some (addMillis now agg.processingInterval)
      | _ => none
    let discard := item.notificationQueue.length - request.queueSize
    (StatusCode.Good,
      { item with
        filter := filter
        euRange := request.euRange.or item.euRange
        aggregateBuffer := []
        aggregateNextDeadline := deadline
        samplingInterval := request.samplingInterval
        queueSize := request.queueSize
        clientHandle := request.clientHandle
        discardOldest := request.discardOldest
        notificationQueue :=
          if request.discardOldest then item.notificationQueue.drop discard
          else item.notificationQueue.take (item.notificationQueue.length - discard) })

end MonitoredItem

end AsyncOpcua.Subscriptions
