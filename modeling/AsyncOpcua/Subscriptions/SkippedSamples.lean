/-
**Samples that an item parks and passes on later.**

A value that arrives within the sampling interval is parked; the next value, or a tick, passes it on
through the same path that new values take.

* `reportSkipped`, `notifyDataValue_eq` — a notification passes the parked sample on, then takes the
  new value;
* `maybeEnqueueSkippedValue_eq` — a tick passes on a parked sample whose time has come;
* `index_range_applied_once` — where the index range leaves the parked samples that are passed on as
  they are, every queued value is the range of one raw value.
-/

import AsyncOpcua.Subscriptions.OverflowBit

namespace AsyncOpcua.Subscriptions

open Types Foundation Option MonitoredItem Externals

variable {E : Externals}

open List

namespace MonitoredItem

/-! ### Passing a parked sample on -/

def unparked (item : MonitoredItem E) : MonitoredItem E :=
  { item with sampleSkippedDataValue := none, sampleSkippedBeforeSemanticsChanged := false }

/-- A parked sample is passed on before a new value if it is in the past and not later than it. -/
def usable (skipped value : E.DataValue) (now : ℤ) : Bool :=
  skipped.sourceTimestamp.any fun v =>
    decide (v ≤ now) && value.sourceTimestamp.all fun v2 => decide (v ≤ v2)

/-- A parked sample is passed on by a tick if its time has come. -/
def due (skipped : E.DataValue) (now : ℤ) : Bool :=
  skipped.sourceTimestamp.any fun v => decide (v ≤ now)

def passOn (item : MonitoredItem E) (skipped : E.DataValue) (now : ℤ)
    (fromSubscriptionTick : Bool) :
    Bool × MonitoredItem E :=
  if item.sampleSkippedBeforeSemanticsChanged then
    item.unparked.withheldSemanticsChanged fun item =>
      item.acceptDataValue skipped now fromSubscriptionTick false
  else item.unparked.acceptDataValue skipped now fromSubscriptionTick false

/-- What a notification does with the parked sample before it takes the new value. -/
def reportSkipped (item : MonitoredItem E) (value : E.DataValue) (now : ℤ) :
    Bool × MonitoredItem E :=
  match item.sampleSkippedDataValue with
  | none => (false, item)
  | some skipped =>
    if usable skipped value now then item.passOn skipped now false else (false, item.unparked)

variable (item : MonitoredItem E) (value : E.DataValue) (now : ℤ) (fromSubscriptionTick : Bool)

theorem notifyDataValue_eq :
    item.notifyDataValue value now fromSubscriptionTick =
      if item.monitoringMode = .disabled then (false, item)
      else (item.reportSkipped value now).2.acceptDataValue value now fromSubscriptionTick
        (item.reportSkipped value now).1 := by
  unfold notifyDataValue reportSkipped passOn
  by_cases disabled : item.monitoringMode = .disabled
  · rw [if_pos disabled, if_pos disabled]
  · rw [if_neg disabled, if_neg disabled]
    cases item.sampleSkippedDataValue with
    | none => rfl
    | some skipped =>
      by_cases early : usable skipped value now = true
      · have same := early
        unfold usable at same
        cases item.sampleSkippedBeforeSemanticsChanged <;>
          simp only [same, early, if_true, Bool.false_eq_true, if_false] <;> rfl
      · have same := early
        unfold usable at same
        simp only [same, early]
        rfl

theorem maybeEnqueueSkippedValue_eq :
    (item.maybeEnqueueSkippedValue now).2 =
      match item.sampleSkippedDataValue with
      | none => item.unparked
      | some skipped =>
        if due skipped now then
          if item.monitoringMode = .disabled then item.unparked
          else (item.passOn skipped now true).2
        else item := by
  unfold maybeEnqueueSkippedValue passOn due
  cases parked : item.sampleSkippedDataValue with
  | none => rfl
  | some skipped =>
    dsimp only
    split_ifs with early flagged disabled disabled
    · rw [withheldSemanticsChanged, notifyDataValue, if_pos disabled]
      simp [unparked]
    · rw [withheldSemanticsChanged, notifyDataValue, if_neg disabled]
      rfl
    · rw [notifyDataValue, if_pos disabled]
      rfl
    · rw [notifyDataValue, if_neg disabled]
      rfl
    · simp [parked.symm]

/-! ### Queues whatever bits they carry -/

section Forall

variable {item} {P : Notification E → Prop} (marks : ∀ n, P n → P (markOverflow n))
  (semantics : ∀ n, P n → P (setNotificationSemanticsChanged n).2)
include marks semantics

/-- **Enqueueing keeps what all entries have in common,** where the queue's bits do not matter. -/
theorem enqueueNotification_forall {notification : Notification E}
    (holds : ∀ n ∈ item.notificationQueue, P n) (new : P notification) :
    ∀ n ∈ (item.enqueueNotification notification).notificationQueue, P n := by
  obtain ⟨kept, old, marked⟩ := item.enqueueNotification_queue notification
  intro m there
  obtain ⟨n, member, marked⟩ := exists_of_forall₂ (.flip marked) there
  refine marked.keeps marks semantics ?_
  rcases mem_append.mp member with earlier | last
  · exact holds n (old earlier)
  · rw [mem_singleton.mp last]
    exact new

end Forall

/-! ### Taking a value -/

def park (item : MonitoredItem E) (taken : E.DataValue) (now : ℤ) : MonitoredItem E :=
  let since := (item.lastDataValue.bind (·.sourceTimestamp)).getD now
  let shifted := (checkedAddSigned since item.samplingIntervalAsTimeDelta).map dateTimeFrom
  { item with
    sampleSkippedDataValue := some { taken with sourceTimestamp := shifted }
    sampleSkippedBeforeSemanticsChanged := false }

def reportOf (item : MonitoredItem E) (taken : E.DataValue) : MonitoredItemNotification E :=
  ⟨item.clientHandle,
    if item.semanticsChanged then
      setStatusBit StatusCode.setSemanticsChanged (item.applyTimestampsToReturn taken)
    else item.applyTimestampsToReturn taken⟩

def report (item : MonitoredItem E) (taken : E.DataValue) : MonitoredItem E :=
  { item with lastDataValue := some taken, semanticsChanged := false }.enqueueNotification
    (.monitoredItemNotification (item.reportOf taken))

/-- **What becomes of a value:** it is collected for aggregation, not a change, parked, or reported.
-/
theorem acceptDataValue_cases (extraEnqueued : Bool) :
    let taken := item.applyIndexRange value
    let after := (item.acceptDataValue value now fromSubscriptionTick extraEnqueued).2
    (item.filter.isAggregate = true ∧
        after = { item with aggregateBuffer := item.aggregateBuffer ++ [taken] }) ∨
      (item.filter.isAggregate = false ∧
        (item.matches_ taken fromSubscriptionTick).1 = false ∧ after = item) ∨
      (item.filter.isAggregate = false ∧
        item.matches_ taken fromSubscriptionTick = (true, false) ∧ after = item.park taken now) ∨
      (item.filter.isAggregate = false ∧
        item.matches_ taken fromSubscriptionTick = (true, true) ∧ after = item.report taken) := by
  intro taken after
  cases aggregate : item.filter.isAggregate with
  | true => exact .inl ⟨rfl, by simp only [after, acceptDataValue, aggregate, if_true]; rfl⟩
  | false =>
    refine .inr ?_
    rcases matched : item.matches_ taken fromSubscriptionTick with ⟨passes, sampled⟩
    cases passes with
    | false =>
      refine .inl ⟨rfl, rfl, ?_⟩
      simp [after, acceptDataValue, aggregate, matched, taken]
    | true =>
      cases sampled with
      | false =>
        refine .inr (.inl ⟨rfl, rfl, ?_⟩)
        simp only [after, acceptDataValue, aggregate, matched, taken, Bool.false_eq_true, if_false,
          Bool.not_false, if_true, Bool.not_true]
        rfl
      | true =>
        refine .inr (.inr ⟨rfl, rfl, ?_⟩)
        simp only [after, acceptDataValue, aggregate, matched, taken, Bool.false_eq_true, if_false,
          Bool.not_true]
        rfl

end MonitoredItem

/-! ### The index range -/

/-- A new value for the item, or a tick that looks for its parked sample. -/
inductive SampleOp (E : Externals) where
  | notify (value : E.DataValue) (now : ℤ) (fromSubscriptionTick : Bool)
  | tick (now : ℤ)

def sampleMachine (E : Externals) : Machine (MonitoredItem E) (SampleOp E) where
  step item op :=
    match op with
    | .notify value now fromSubscriptionTick =>
      some (item.notifyDataValue value now fromSubscriptionTick).2
    | .tick now => some (item.maybeEnqueueSkippedValue now).2

/-- The raw values given so far. -/
def noteGiven (given : List E.DataValue) (_ : MonitoredItem E) (op : SampleOp E)
    (_ : MonitoredItem E) : List E.DataValue :=
  match op with
  | .notify value _ _ => given ++ [value]
  | .tick _ => given

def passedOn (item : MonitoredItem E) (op : SampleOp E) : Option E.DataValue :=
  if item.monitoringMode = .disabled then none
  else
    match op with
    | .notify value now _ =>
      item.sampleSkippedDataValue.filter fun skipped => usable skipped value now
    | .tick now => item.sampleSkippedDataValue.filter fun skipped => due skipped now

def RangeFixes (item : MonitoredItem E) (value : E.DataValue) : Prop :=
  (item.applyIndexRange value).value = value.value ∧
    (item.applyIndexRange value).statusCode = value.statusCode

def PassesOnFixed (item : MonitoredItem E) (op : SampleOp E) : Prop :=
  ∀ skipped, passedOn item op = some skipped → RangeFixes item skipped

/-- A value is the range of one of the raw values, but for its timestamps and the bits of a queue.
-/
def RangedFrom (watched : ParsedReadValueId E) (given : List E.DataValue) (value : E.DataValue) :
    Prop :=
  ∃ raw ∈ given, ∀ item : MonitoredItem E, item.itemToMonitor = watched →
    value.value = (item.applyIndexRange raw).value ∧
      value.statusCode.content = (item.applyIndexRange raw).statusCode.content

theorem applyIndexRange_congr {first second : MonitoredItem E}
    (same : first.itemToMonitor = second.itemToMonitor) (value : E.DataValue) :
    first.applyIndexRange value = second.applyIndexRange value := by
  unfold applyIndexRange
  rw [same]

/-- **What an item holds is the range of raw values:** in its queue, and parked. -/
structure RangedOnce (watched : ParsedReadValueId E) (given : List E.DataValue)
    (item : MonitoredItem E) : Prop where
  watches : item.itemToMonitor = watched
  queued : ∀ n, Notification.monitoredItemNotification n ∈ item.notificationQueue →
    RangedFrom watched given n.value
  parked : ∀ skipped, item.sampleSkippedDataValue = some skipped →
    RangedFrom watched given skipped

section RangedOnce

variable {watched : ParsedReadValueId E} {given : List E.DataValue} {item : MonitoredItem E}

theorem RangedFrom.mono {value : E.DataValue} (ranged : RangedFrom watched given value)
    (later : List E.DataValue) : RangedFrom watched (given ++ later) value := by
  obtain ⟨raw, member, same⟩ := ranged
  exact ⟨raw, mem_append_left _ member, same⟩

theorem RangedOnce.mono (once : RangedOnce watched given item) (later : List E.DataValue) :
    RangedOnce watched (given ++ later) item :=
  ⟨once.watches, fun n member => (once.queued n member).mono later,
    fun skipped parked => (once.parked skipped parked).mono later⟩

theorem RangedOnce.unparked (once : RangedOnce watched given item) :
    RangedOnce watched given item.unparked :=
  ⟨once.watches, once.queued, fun _ absurdly => by cases absurdly⟩

theorem RangedFrom.congr {first second : E.DataValue} (ranged : RangedFrom watched given first)
    (value : second.value = first.value)
    (status : second.statusCode.content = first.statusCode.content) :
    RangedFrom watched given second := by
  obtain ⟨raw, member, same⟩ := ranged
  exact ⟨raw, member, fun item watches =>
    ⟨value.trans (same item watches).1, status.trans (same item watches).2⟩⟩

theorem setStatusBit_content {set : StatusCode → Bool → StatusCode}
    (leaves : ∀ code : StatusCode, (set code true).content = code.content) (value : E.DataValue) :
    (setStatusBit set value).statusCode.content = value.statusCode.content :=
  leaves value.statusCode

section

variable (item)

theorem applyTimestampsToReturn_content (value : E.DataValue) :
    (item.applyTimestampsToReturn value).value = value.value ∧
      (item.applyTimestampsToReturn value).statusCode = value.statusCode := by
  unfold applyTimestampsToReturn
  cases item.timestampsToReturn <;> exact ⟨rfl, rfl⟩

theorem enqueueNotification_itemToMonitor (notification : Notification E) :
    (item.enqueueNotification notification).itemToMonitor = item.itemToMonitor ∧
      (item.enqueueNotification notification).sampleSkippedDataValue =
        item.sampleSkippedDataValue := by
  obtain ⟨_, _, same⟩ := item.enqueueNotification_frame notification
  rw [same]
  exact ⟨rfl, rfl⟩

theorem enqueueNotification_flag (notification : Notification E) :
    (item.enqueueNotification notification).sampleSkippedBeforeSemanticsChanged =
      item.sampleSkippedBeforeSemanticsChanged := by
  obtain ⟨_, _, same⟩ := item.enqueueNotification_frame notification
  rw [same]

end

section

variable (once : RangedOnce watched given item)
include once

theorem RangedOnce.report {taken : E.DataValue} (ranged : RangedFrom watched given taken) :
    RangedOnce watched given (item.report taken) := by
  have new : RangedFrom watched given (item.reportOf taken).value := by
    obtain ⟨value, status⟩ := applyTimestampsToReturn_content item taken
    refine ranged.congr ?_ ?_
    · unfold reportOf
      split_ifs <;> exact value
    · rw [← status]
      unfold reportOf
      split_ifs
      · exact setStatusBit_content StatusCode.content_setSemanticsChanged _
      · rfl
  obtain ⟨watches, parked⟩ := enqueueNotification_itemToMonitor
    { item with lastDataValue := some taken, semanticsChanged := false }
    (.monitoredItemNotification (item.reportOf taken))
  refine ⟨watches.trans once.watches, ?_, fun skipped there =>
    once.parked skipped (parked.symm.trans there)⟩
  have kept := @MonitoredItem.enqueueNotification_forall _
    { item with lastDataValue := some taken, semanticsChanged := false }
    (fun entry => ∀ n, entry = .monitoredItemNotification n → RangedFrom watched given n.value)
    (fun entry there n same => by
      cases entry with
      | event fields => cases same
      | monitoredItemNotification first =>
        cases same
        exact (there first rfl).congr rfl
          (setStatusBit_content StatusCode.content_setOverflow first.value))
    (fun entry there n same => by
      cases entry with
      | event fields => cases same
      | monitoredItemNotification first =>
        cases same
        exact (there first rfl).congr rfl
          (setStatusBit_content StatusCode.content_setSemanticsChanged first.value))
    (.monitoredItemNotification (item.reportOf taken))
    (fun entry member n same => once.queued n (same ▸ member))
    (fun n same => by
      cases same
      exact new)
  exact fun n member => kept _ member n rfl

theorem RangedOnce.accept {value : E.DataValue}
    (ranged : RangedFrom watched given (item.applyIndexRange value)) (now : ℤ)
    (fromSubscriptionTick extraEnqueued : Bool) :
    RangedOnce watched given
      (item.acceptDataValue value now fromSubscriptionTick extraEnqueued).2 := by
  rcases item.acceptDataValue_cases value now fromSubscriptionTick extraEnqueued with
    ⟨-, after⟩ | ⟨-, -, after⟩ | ⟨-, -, after⟩ | ⟨-, -, after⟩ <;> rw [after]
  · exact ⟨once.watches, once.queued, once.parked⟩
  · exact once
  · refine ⟨once.watches, once.queued, fun skipped parked => ?_⟩
    rw [← some.inj parked]
    exact ranged.congr rfl rfl
  · exact once.report ranged

theorem RangedOnce.ranged_raw {raw : E.DataValue} (member : raw ∈ given) :
    RangedFrom watched given (item.applyIndexRange raw) :=
  ⟨raw, member, fun other watches => by
    rw [applyIndexRange_congr (once.watches.trans watches.symm)]
    exact ⟨rfl, rfl⟩⟩

theorem RangedOnce.passOn {skipped : E.DataValue}
    (parked : item.sampleSkippedDataValue = some skipped) (fixed : RangeFixes item skipped)
    (now : ℤ) (fromSubscriptionTick : Bool) :
    RangedOnce watched given (item.passOn skipped now fromSubscriptionTick).2 := by
  have ranged : ∀ other : MonitoredItem E, other.itemToMonitor = item.itemToMonitor →
      RangedFrom watched given (other.applyIndexRange skipped) := by
    intro other same
    rw [applyIndexRange_congr same]
    exact (once.parked skipped parked).congr fixed.1 (congrArg StatusCode.content fixed.2)
  unfold MonitoredItem.passOn
  split_ifs with before
  · have withheld : RangedOnce watched given { item.unparked with semanticsChanged := false } :=
      ⟨once.watches, once.queued, fun _ absurdly => by cases absurdly⟩
    have taken := withheld.accept (ranged _ rfl) now fromSubscriptionTick false
    exact ⟨taken.watches, taken.queued, taken.parked⟩
  · exact once.unparked.accept (ranged _ rfl) now fromSubscriptionTick false

theorem RangedOnce.step {op : SampleOp E} {after : MonitoredItem E}
    (fixed : PassesOnFixed item op) (stepped : (sampleMachine E).step item op = some after) :
    RangedOnce watched (noteGiven given item op after) after := by
  unfold PassesOnFixed passedOn at fixed
  cases op with
  | notify value now fromSubscriptionTick =>
    have more := once.mono [value]
    rw [← some.inj stepped, notifyDataValue_eq]
    split_ifs with disabled
    · exact more
    · rw [if_neg disabled] at fixed
      have reported : RangedOnce watched (given ++ [value]) (item.reportSkipped value now).2 := by
        unfold reportSkipped
        cases parked : item.sampleSkippedDataValue with
        | none => exact more
        | some skipped =>
          dsimp only
          split_ifs with early
          · exact more.passOn parked (fixed skipped (by rw [parked]; exact if_pos early)) now false
          · exact more.unparked
      exact reported.accept (reported.ranged_raw (mem_append_right _ mem_cons_self)) now
        fromSubscriptionTick _
  | tick now =>
    rw [← some.inj stepped, maybeEnqueueSkippedValue_eq]
    cases parked : item.sampleSkippedDataValue with
    | none => exact once.unparked
    | some skipped =>
      dsimp only
      split_ifs with early disabled
      · exact once.unparked
      · rw [if_neg disabled] at fixed
        exact once.passOn parked (fixed skipped (by rw [parked]; exact if_pos early)) now true
      · exact once

end

end RangedOnce

/-- **The index range is applied once.** In every run in which the index range leaves the parked
samples that are passed on as they are, every queued value and its status are the range of one raw
value that was given. -/
theorem index_range_applied_once {item after : MonitoredItem E} {given : List E.DataValue}
    {ops : List (SampleOp E)} (empty : item.notificationQueue = [])
    (unparked : item.sampleSkippedDataValue = none)
    (fixed : (sampleMachine E).Guarded PassesOnFixed item ops)
    (ran : ((sampleMachine E).observed noteGiven).run (item, []) ops = some (after, given)) :
    ∀ n, Notification.monitoredItemNotification n ∈ after.notificationQueue →
      ∃ raw ∈ given, n.value.value = (item.applyIndexRange raw).value ∧
        n.value.statusCode.content = (item.applyIndexRange raw).statusCode.content := by
  have starts : RangedOnce item.itemToMonitor [] item :=
    ⟨rfl, fun n member => absurd (empty ▸ member) not_mem_nil,
      fun skipped parked => by rw [unparked] at parked; cases parked⟩
  have keeps : ∀ (s : MonitoredItem E) (g : List E.DataValue) op t,
      RangedOnce item.itemToMonitor g s → PassesOnFixed s op →
      (sampleMachine E).step s op = some t →
      RangedOnce item.itemToMonitor (noteGiven g s op t) t :=
    fun _ _ _ _ holds meets stepped => holds.step meets stepped
  have once := Machine.observed_invariant_of_guarded keeps starts fixed ran
  intro n member
  obtain ⟨raw, there, same⟩ := once.queued n member
  exact ⟨raw, there, same item rfl⟩

def indexedItem (index : ℕ) : MonitoredItem integers :=
  { twoPlaces with
    itemToMonitor := ⟨(1 : ℕ), 13, some index⟩, samplingInterval := .subscription, queueSize := 10
    lastDataValue := none, sampleSkippedDataValue := none }

def pairAt (first second time : ℤ) : integers.DataValue where
  value := some (.array (6 : ℕ) [.scalar first, .scalar second] none)
  status := none
  sourceTimestamp := some time
  sourcePicoseconds := none
  serverTimestamp := none
  serverPicoseconds := none

/-- Two values, the second of which is parked and passed on by a tick. -/
def parkedThenTick : List (SampleOp integers) :=
  [.notify (pairAt 10 20 0) 0 false, .notify (pairAt 11 21 5) 5 false, .tick 10]

def afterOps (item : MonitoredItem integers) (ops : List (SampleOp integers)) :
    MonitoredItem integers :=
  ((sampleMachine integers).run item ops).getD item

theorem first_element_ranged_once :
    (afterOps (indexedItem 0) parkedThenTick).notificationQueue.length = 2 ∧
      ∀ n, Notification.monitoredItemNotification n ∈
          (afterOps (indexedItem 0) parkedThenTick).notificationQueue →
        ∃ raw ∈ [pairAt 10 20 0, pairAt 11 21 5],
          n.value.value = ((indexedItem 0).applyIndexRange raw).value ∧
            n.value.statusCode.content =
              ((indexedItem 0).applyIndexRange raw).statusCode.content := by
  refine ⟨rfl, @index_range_applied_once _ (indexedItem 0) _ _ parkedThenTick rfl rfl ?_ rfl⟩
  have nothing : ∀ (item : MonitoredItem integers) op, passedOn item op = none →
      PassesOnFixed item op := by
    intro item op none skipped passed
    rw [none] at passed
    cases passed
  refine ⟨nothing _ _ rfl, ?_⟩
  rintro _ ⟨⟩
  refine ⟨nothing _ _ rfl, ?_⟩
  rintro _ ⟨⟩
  refine ⟨fun skipped passed => ?_, fun _ _ => trivial⟩
  cases passed
  exact ⟨rfl, rfl⟩

/-- **A delayed sample is cut to the index range twice:** an item that reports the second element
reports an error for it. -/
theorem delayed_sample_ranged_twice :
    ¬ ∀ n, Notification.monitoredItemNotification n ∈
        (afterOps (indexedItem 1) parkedThenTick).notificationQueue →
      ∃ raw ∈ [pairAt 10 20 0, pairAt 11 21 5],
        n.value.value = ((indexedItem 1).applyIndexRange raw).value ∧
          n.value.statusCode.content =
            ((indexedItem 1).applyIndexRange raw).statusCode.content := by
  intro once
  obtain ⟨raw, member, same, -⟩ := once
    ⟨1, { value := some .empty, status := some 0x80370000#32, sourceTimestamp := some 0
          sourcePicoseconds := none, serverTimestamp := none, serverPicoseconds := none }⟩
    (mem_cons_of_mem _ mem_cons_self)
  rcases mem_cons.mp member with rfl | later
  · cases same
  · rw [mem_singleton.mp later] at same
    cases same

end AsyncOpcua.Subscriptions
