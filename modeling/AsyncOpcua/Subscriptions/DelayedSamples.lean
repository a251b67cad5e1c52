/-
**Delayed samples: a value that arrives within the sampling interval.**

Such a value is kept in the item, shifted to the next sample, and the item is put on the list of the
next scan. It is reported by a scan that visits the item at or after the shifted time.

* `delayed_sample_reported` — a run of served timer ticks that is in time reports the sample.
-/

import AsyncOpcua.Subscriptions.NotifiedItems

namespace AsyncOpcua.Subscriptions

open Types Foundation List Option MonitoredItem Or

variable {E : Externals}

/-! ### The sample in its item -/

namespace MonitoredItem

/-- **The item would take the sample from a tick:** it is not collected for aggregation, it passes
the filter and the sampling interval, and the index range leaves its value as it is. -/
structure Takes (item : MonitoredItem E) (value : E.DataValue) : Prop where
  single : item.filter.isAggregate = false
  passes : item.matches_ (item.applyIndexRange value) true = (true, true)
  whole : (item.applyIndexRange value).value = value.value

variable {item : MonitoredItem E} {value : E.DataValue}

theorem Takes.congr {after : MonitoredItem E} (takes : item.Takes value)
    (same : after.sampled = item.sampled) : after.Takes value := by
  simp only [sampled, Sampled.mk.injEq] at same
  obtain ⟨-, monitored, -, interval, filter, last, -⟩ := same
  have range : after.applyIndexRange value = item.applyIndexRange value := by
    unfold applyIndexRange
    rw [monitored]
  refine ⟨by rw [filter]; exact takes.single, ?_, by rw [range]; exact takes.whole⟩
  have matched : after.matches_ (item.applyIndexRange value) true =
      item.matches_ (item.applyIndexRange value) true := by
    unfold matches_ filterBySamplingInterval
    rw [last, filter, interval]
  rw [range, matched]
  exact takes.passes

structure Delays (item : MonitoredItem E) (clientHandle : ℕ) (value : E.DataValue) : Prop where
  reporting : item.isReporting = true
  client : item.clientHandle = clientHandle
  skipped : item.sampleSkippedDataValue = some value
  takes : item.Takes value

variable {clientHandle : ℕ}

theorem Delays.congr {after : MonitoredItem E} (delays : item.Delays clientHandle value)
    (same : after.sampled = item.sampled) : after.Delays clientHandle value := by
  have fields := same
  simp only [sampled, Sampled.mk.injEq] at fields
  obtain ⟨mode, -, client, -, -, -, skipped⟩ := fields
  refine ⟨?_, client.trans delays.client, skipped.trans delays.skipped, delays.takes.congr same⟩
  rw [isReporting, mode]
  exact delays.reporting

def Queued (item : MonitoredItem E) (clientHandle : ℕ) (value : Option E.Variant) : Prop :=
  ∃ change, .monitoredItemNotification change ∈ item.notificationQueue ∧
    change.clientHandle = clientHandle ∧ change.value.value = value

theorem enqueueNotification_queued (item : MonitoredItem E) (change : MonitoredItemNotification E) :
    (item.enqueueNotification (.monitoredItemNotification change)).Queued change.clientHandle
      change.value.value := by
  obtain ⟨-, queued, there, same⟩ :=
    item.enqueueNotification_spec (.monitoredItemNotification change)
  cases queued with
  | monitoredItemNotification second => exact ⟨second, there, same⟩
  | event => exact same.elim

structure Has (item : MonitoredItem E) (clientHandle : ℕ) (value : Option E.Variant) : Prop where
  client : item.clientHandle = clientHandle
  single : item.filter.isAggregate = false
  last : item.lastDataValue.map (·.value) = some value
  queued : item.Queued clientHandle value

theorem applyTimestampsToReturn_value (item : MonitoredItem E) (value : E.DataValue) :
    (item.applyTimestampsToReturn value).value = value.value := by
  unfold applyTimestampsToReturn
  split <;> rfl

theorem acceptDataValue_has (takes : item.Takes value) (now : ℤ) (extraEnqueued : Bool) :
    (item.acceptDataValue value now true extraEnqueued).2.Has item.clientHandle value.value := by
  -- Queueing the accepted value, with whatever status.
  have queues : ∀ accepted : E.DataValue, accepted.value = value.value →
      ({ item with lastDataValue := some (item.applyIndexRange value), semanticsChanged := false
          }.enqueueNotification (.monitoredItemNotification ⟨item.clientHandle, accepted⟩)).Has
        item.clientHandle value.value := by
    intro accepted same
    have kept := (enqueueNotification_spec
      { item with lastDataValue := some (item.applyIndexRange value), semanticsChanged := false }
      (.monitoredItemNotification ⟨item.clientHandle, accepted⟩)).1
    have queued := enqueueNotification_queued
      { item with lastDataValue := some (item.applyIndexRange value), semanticsChanged := false }
      ⟨item.clientHandle, accepted⟩
    simp only [sampled, Sampled.mk.injEq] at kept
    obtain ⟨-, -, client, -, filter, last, -⟩ := kept
    refine ⟨client, by rw [filter]; exact takes.single, ?_, ?_⟩
    · rw [last, map_some, takes.whole]
    · rwa [same] at queued
  have applied := item.applyTimestampsToReturn_value (item.applyIndexRange value)
  rw [takes.whole] at applied
  unfold acceptDataValue
  simp only [takes.single, takes.passes, Bool.false_eq_true, if_false, Bool.not_true]
  split_ifs
  · exact queues _ applied
  · exact queues _ applied

theorem addCurrentValueToQueue_has {value : Option E.Variant} (has : item.Has clientHandle value) :
    item.addCurrentValueToQueue.Has clientHandle value := by
  unfold addCurrentValueToQueue
  dsimp only
  split_ifs
  · exact has
  · split
    · exact has
    · rename_i last there
      have same : last.value = value := by
        have lastValue := has.last
        rw [there, map_some, some.injEq] at lastValue
        exact lastValue
      have kept := (item.enqueueNotification_spec
        (.monitoredItemNotification ⟨item.clientHandle, last⟩)).1
      obtain ⟨change, queued, own, news⟩ :=
        item.enqueueNotification_queued ⟨item.clientHandle, last⟩
      simp only [sampled, Sampled.mk.injEq] at kept
      obtain ⟨-, -, client, -, filter, lastKept, -⟩ := kept
      exact ⟨client.trans has.client, by rw [filter]; exact has.single,
        by rw [lastKept]; exact has.last,
        change, queued, own.trans has.client, news.trans same⟩

variable {time now : ℤ}

section

variable (delays : item.Delays clientHandle value) (stamped : value.sourceTimestamp = some time)
include delays stamped

theorem maybeEnqueueSkippedValue_due (due : time ≤ now) :
    (item.maybeEnqueueSkippedValue now).2.Has clientHandle value.value := by
  have enabled : item.monitoringMode ≠ .disabled := by
    have reporting := delays.reporting
    rw [isReporting, beq_iff_eq] at reporting
    rw [reporting]
    decide
  have notified : ∀ semanticsChanged : Bool, ({ item with
      sampleSkippedDataValue := none, sampleSkippedBeforeSemanticsChanged := false
      semanticsChanged := semanticsChanged }.notifyDataValue value now true).2.Has clientHandle
        value.value := by
    intro semanticsChanged
    unfold notifyDataValue
    rw [if_neg (by exact enabled)]
    have takes : Takes { item with
        sampleSkippedDataValue := none, sampleSkippedBeforeSemanticsChanged := false
        semanticsChanged := semanticsChanged } value :=
      ⟨delays.takes.single, delays.takes.passes, delays.takes.whole⟩
    have has := acceptDataValue_has takes now false
    rw [← delays.client]
    exact has
  unfold maybeEnqueueSkippedValue
  simp only [delays.skipped, stamped, any_some, decide_eq_true due, if_true]
  split_ifs
  · have has := notified false
    exact ⟨has.client, has.single, has.last, has.queued⟩
  · exact notified item.semanticsChanged

theorem prepare_due {prepared : MonitoredItem E} (due : time ≤ dateTimeFrom now)
    {resendData fires : Bool} (prep : item.prepare now resendData = some (fires, prepared)) :
    prepared.Queued clientHandle value.value := by
  have has := maybeEnqueueSkippedValue_due delays stamped due
  obtain ⟨flushed, middle, read, done, reading, queueing⟩ := prepare_cases prep
  have same : middle = (item.maybeEnqueueSkippedValue (dateTimeFrom now)).2 := by
    unfold maybeFlushAggregate at done
    split at done
    · rename_i filter _
      have single := has.single
      rw [filter] at single
      cases single
    · exact (Prod.mk.inj (some.inj done)).2.symm
  rw [← same] at has
  have there : read.Has clientHandle value.value := by
    obtain rfl | rfl := reading
    · exact ⟨has.client, has.single, has.last, has.queued⟩
    · exact has
  obtain rfl | rfl := queueing
  · exact (addCurrentValueToQueue_has there).queued
  · exact there.queued

/-- **An earlier scan** leaves the sample in the item. -/
theorem prepare_early {prepared : MonitoredItem E} (early : ¬ time ≤ dateTimeFrom now)
    {resendData fires : Bool} (prep : item.prepare now resendData = some (fires, prepared)) :
    prepared.sampled = item.sampled := by
  obtain ⟨flushed, middle, read, done, reading, queueing⟩ := prepare_cases prep
  have kept : (item.maybeEnqueueSkippedValue (dateTimeFrom now)).2.sampled = item.sampled := by
    unfold maybeEnqueueSkippedValue
    simp only [delays.skipped, stamped, any_some, decide_eq_false early,
      Bool.false_eq_true, if_false]
    rw [sampled, sampled, delays.skipped]
  have same : middle.sampled = item.sampled := by
    unfold maybeFlushAggregate at done
    split at done
    · rename_i filter _
      have single := (delays.congr kept).takes.single
      rw [filter] at single
      cases single
    · rw [← (Prod.mk.inj (some.inj done)).2]
      exact kept
  have there : read.sampled = item.sampled := by
    obtain rfl | rfl := reading
    · exact same
    · exact same
  obtain rfl | rfl := queueing
  · refine Eq.trans ?_ there
    unfold addCurrentValueToQueue
    dsimp only
    split_ifs
    · rfl
    · split
      · rfl
      · exact (read.enqueueNotification_spec _).1
  · exact there

end

end MonitoredItem

/-! ### Served ticks -/

/-- An elapsed tick of the timer with a publish request queued. -/
structure ServedTick where
  now : ℤ
  nowInstant : ℕ
  visit : VisitOrder

def servedTicks (E : Externals) : Machine (Subscription E) ServedTick where
  step s tick :=
    if s.Elapsed tick.nowInstant then
      (s.tick tick.now tick.nowInstant .tickTimerFired true tick.visit).map (·.2)
    else none

namespace Subscription

def moved (s : Subscription E) (tick : ServedTick) : UpdateStateAction × Subscription E :=
  (s.restart tick.nowInstant .tickTimerFired).handleStateTransition (s.row .tickTimerFired true)

def scannedMessages (s : Subscription E) (tick : ServedTick) : List (NotificationMessage E) :=
  match s.moved tick with
  | (.returnNotifications, u) =>
    (({ u with resendData := false }.tickMonitoredItems tick.now u.resendData tick.visit).map
      Prod.fst).getD []
  | _ => []

def scannedMessagesOf (s : Subscription E) : List ServedTick → List (NotificationMessage E)
  | [] => []
  | tick :: rest =>
    s.scannedMessages tick ++
      match (servedTicks E).step s tick with
      | some t => t.scannedMessagesOf rest
      | none => []

theorem moved_items (s : Subscription E) (tick : ServedTick) :
    (s.moved tick).2.monitoredItems = s.monitoredItems ∧
      (s.moved tick).2.notifiedMonitoredItems = s.notifiedMonitoredItems ∧
      (s.moved tick).2.resendData = s.resendData := by
  obtain ⟨items, notified, resend⟩ := (s.restart tick.nowInstant .tickTimerFired
    ).handleStateTransition_items (s.row .tickTimerFired true)
  unfold moved
  rw [items, notified, resend]
  unfold restart
  split_ifs <;> exact ⟨rfl, rfl, rfl⟩

variable {s t : Subscription E} {tick : ServedTick}

theorem servedTick_performs (stepped : (servedTicks E).step s tick = some t) :
    ∃ result, (s.moved tick).2.perform (s.moved tick).1 tick.now tick.visit = some (result, t) := by
  simp only [servedTicks] at stepped
  split_ifs at stepped with elapsed
  rw [tick_of_elapsed elapsed] at stepped
  obtain ⟨⟨result, u⟩, performed, rfl⟩ := map_eq_some_iff.mp stepped
  exact ⟨result, performed⟩

theorem servedTick_scans (stepped : (servedTicks E).step s tick = some t)
    (returns : (s.moved tick).1 = .returnNotifications) :
    ∃ v, { (s.moved tick).2 with resendData := false }.tickMonitoredItems tick.now s.resendData
        tick.visit = some (s.scannedMessages tick, v) ∧
      t = ((s.scannedMessages tick).foldl enqueueNotification
        v).enforceQueuedNotificationLimit := by
  obtain ⟨result, performed⟩ := servedTick_performs stepped
  obtain ⟨-, -, resend⟩ := s.moved_items tick
  unfold scannedMessages
  revert performed resend returns
  generalize s.moved tick = r
  obtain ⟨action, u⟩ := r
  intro returns performed resend
  dsimp only at returns performed resend
  subst returns
  obtain ⟨⟨messages, v⟩, scanned, built⟩ := map_eq_some_iff.mp performed
  cases built
  rw [resend] at scanned
  refine ⟨v, ?_, ?_⟩
  · simp [resend, scanned]
  · simp [resend, scanned]

structure AwaitsScan (s : Subscription E) (id clientHandle : ℕ) (value : E.DataValue) : Prop where
  enabled : s.publishingEnabled = true
  open_ : s.state = .creating ∨ s.state = .normal ∨ s.state = .keepAlive
  waits : id ∈ s.notifiedMonitoredItems
  delays : ∃ item, s.monitoredItems.lookup id = some item ∧ item.Delays clientHandle value

variable {id : ℕ}

section

variable (enabled : s.publishingEnabled = true) (open_ : s.state = .normal ∨ s.state = .keepAlive)
  (waits : id ∈ s.notifiedMonitoredItems)
include enabled open_ waits

theorem moved_of_available (tick : ServedTick) :
    (s.moved tick).1 = .returnNotifications ∧ (s.moved tick).2.state = .normal := by
  have available : s.notificationsAvailable s.resendData = true := by
    unfold notificationsAvailable
    rw [if_pos (Finset.ne_empty_of_mem waits)]
  have row : s.row .tickTimerFired true = .intervalElapsed6 ∨
      s.row .tickTimerFired true = .keepAlive14 := by
    unfold row getStateTransition
    obtain normal | keeping := open_
    · left
      simp [normal, stateParams, enabled, available]
    · right
      simp [keeping, stateParams, enabled, available]
  have restarted : (s.restart tick.nowInstant .tickTimerFired).state = s.state :=
    congrArg Control.state (s.restart_control tick.nowInstant .tickTimerFired)
  unfold moved
  obtain normal | keeping := row
  · have origin : s.state = .normal := row_origin (by rw [normal]; rfl)
    rw [normal]
    exact ⟨rfl, restarted.trans origin⟩
  · rw [keeping]
    exact ⟨rfl, rfl⟩

theorem servedTick_leaves (stepped : (servedTicks E).step s tick = some t) :
    ∃ u v : Subscription E, u.monitoredItems = s.monitoredItems ∧
      u.notifiedMonitoredItems = s.notifiedMonitoredItems ∧
      u.tickMonitoredItems tick.now s.resendData tick.visit = some (s.scannedMessages tick, v) ∧
      t.monitoredItems = v.monitoredItems ∧ t.state = .normal ∧ t.publishingEnabled = true ∧
      t.resendData = false ∧
      t.notifiedMonitoredItems = if s.resendData then s.notifiedMonitoredItems else ∅ := by
  obtain ⟨returns, normal⟩ := moved_of_available enabled open_ waits tick
  obtain ⟨v, scanned, rfl⟩ := servedTick_scans stepped returns
  obtain ⟨items, notified, -⟩ := s.moved_items tick
  refine ⟨{ (s.moved tick).2 with resendData := false }, v, items, notified, scanned, ?_⟩
  have control := (tickMonitoredItems_control scanned).1
  have still : (s.moved tick).2.publishingEnabled = true := by
    have kept : (s.restart tick.nowInstant .tickTimerFired).publishingEnabled =
        s.publishingEnabled :=
      congrArg Control.publishingEnabled (s.restart_control tick.nowInstant .tickTimerFired)
    rw [← enabled, ← kept]
    unfold moved
    cases s.row .tickTimerFired true <;> rfl
  have left : v.resendData = false ∧
      v.notifiedMonitoredItems = if s.resendData then s.notifiedMonitoredItems else ∅ := by
    obtain ⟨result, -, built⟩ := map_eq_some_iff.mp scanned
    rw [Prod.mk.injEq] at built
    rw [← built.2]
    refine ⟨rfl, ?_⟩
    rw [notified]
  rw [foldl_enqueueNotification]
  have limited := enforceQueuedNotificationLimit_items
    { v with notifications := v.notifications ++ s.scannedMessages tick }
  have kept := enforceQueuedNotificationLimit_control
    { v with notifications := v.notifications ++ s.scannedMessages tick }
  refine ⟨limited.1, ?_, ?_, ?_, limited.2.trans left.2⟩
  · exact ((congrArg Control.state kept).trans (congrArg Control.state control)).trans normal
  · exact ((congrArg Control.publishingEnabled kept).trans
      (congrArg Control.publishingEnabled control)).trans still
  · unfold enforceQueuedNotificationLimit
    split_ifs <;> exact left.1

end

/-- **The condition on a tick:** before the time of the sample, the tick does not take the item off
the list. It does where it scans and is no resend. -/
def InTime (time : ℤ) (s : Subscription E) (tick : ServedTick) : Prop :=
  time ≤ dateTimeFrom tick.now ∨ s.state = .creating ∨ s.resendData = true

def Reports (messages : List (NotificationMessage E)) (clientHandle : ℕ) (value : E.DataValue) :
    Prop :=
  ∃ message ∈ messages, ∃ change, message.Carries (.monitoredItemNotification change) ∧
    change.clientHandle = clientHandle ∧ change.value.value = value.value

theorem AwaitsScan.step {clientHandle : ℕ} {value : E.DataValue}
    (awaits : s.AwaitsScan id clientHandle value) {time : ℤ}
    (stamped : value.sourceTimestamp = some time) (inTime : InTime time s tick)
    (stepped : (servedTicks E).step s tick = some t) :
    Reports (s.scannedMessages tick) clientHandle value ∨
      t.AwaitsScan id clientHandle value ∧ t.state ≠ .creating ∧
        (time ≤ dateTimeFrom tick.now → s.state = .creating) := by
  obtain ⟨item, found, delays⟩ := awaits.delays
  by_cases creating : s.state = .creating
  · right
    obtain ⟨result, performed⟩ := servedTick_performs stepped
    obtain ⟨items, notified, -⟩ := s.moved_items tick
    have row : s.row .tickTimerFired true = .create3 := by
      unfold row getStateTransition
      rw [creating]
    have enabled : (s.moved tick).2.publishingEnabled = true := by
      unfold moved
      rw [row]
      exact (congrArg Control.publishingEnabled
        (s.restart_control tick.nowInstant .tickTimerFired)).trans awaits.enabled
    have normal : s.moved tick = (.subscriptionCreated, (s.moved tick).2) ∧
        (s.moved tick).2.state = .normal := by
      unfold moved
      rw [row]
      exact ⟨rfl, rfl⟩
    rw [normal.1] at performed
    cases performed
    refine ⟨⟨enabled, inr (inl normal.2), ?_, item, ?_, delays⟩, ?_, fun _ => creating⟩
    · rw [notified]
      exact awaits.waits
    · rw [items]
      exact found
    · rw [normal.2]
      exact nofun
  · have open_ := awaits.open_.resolve_left creating
    obtain ⟨u, v, items, notified, scanned, same, normal, enabled, -, list⟩ :=
      servedTick_leaves awaits.enabled open_ awaits.waits stepped
    have visited : id ∈ u.visited tick.visit s.resendData := by
      unfold Subscription.visited
      rw [items, notified]
      split_ifs
      · exact (tick.visit.mem_order _ _).mpr (mem_keys_of_lookup found)
      · exact (tick.visit.mem_order _ _).mpr awaits.waits
    obtain ⟨after, there⟩ := tickMonitoredItems_present scanned (by rw [items]; exact found)
    obtain ⟨unvisited, -⟩ | ⟨-, -, fires, prepared, prep, kept⟩ :=
      tickMonitoredItems_leaves scanned there
    · exact absurd visited unvisited
    have prep' : item.prepare tick.now s.resendData = some (fires, prepared) := by
      rwa [items, found] at prep
    by_cases due : time ≤ dateTimeFrom tick.now
    · left
      obtain ⟨change, queued, own, news⟩ := prepare_due delays stamped due prep'
      have reports : prepared.reports = true := by
        rw [reports, Bool.and_eq_true]
        constructor
        · rw [isReporting, (prepare_fuller prep').mode]
          exact delays.reporting
        · cases queue : prepared.notificationQueue with
          | nil =>
            rw [queue] at queued
            cases queued
          | cons first rest => simp [hasNotifications, queue]
      obtain ⟨message, sent, carries⟩ := tickMonitoredItems_carries scanned visited prep reports
        (prepared.popAll_spec.2 _ queued)
      exact ⟨message, sent, change, carries, own, news⟩
    · right
      have resend : s.resendData = true := (inTime.resolve_left due).resolve_left creating
      have still := prepare_early delays stamped due prep'
      refine ⟨⟨enabled, inr (inl normal), ?_, after, ?_, delays.congr (kept.trans still)⟩, ?_,
        fun late => absurd late due⟩
      · rw [list, if_pos resend]
        exact awaits.waits
      · rw [same]
        exact there
      · rw [normal]
        exact nofun

/-- **A delayed sample is reported,** by a run of served ticks that is in time and ends at or after
its time. -/
theorem delayed_sample_reported {s u : Subscription E} {id clientHandle : ℕ} {value : E.DataValue}
    (awaits : s.AwaitsScan id clientHandle value) {time : ℤ}
    (stamped : value.sourceTimestamp = some time) {ticks : List ServedTick} {last : ServedTick}
    (created : s.state = .creating → ticks ≠ [])
    (inTime : (servedTicks E).Guarded (InTime time) s (ticks ++ [last]))
    (ran : (servedTicks E).run s (ticks ++ [last]) = some u) (due : time ≤ dateTimeFrom last.now) :
    Reports (s.scannedMessagesOf (ticks ++ [last])) clientHandle value := by
  have left : ∀ {first rest : List (NotificationMessage E)}, Reports first clientHandle value →
      Reports (first ++ rest) clientHandle value := by
    rintro first rest ⟨message, sent, reported⟩
    exact ⟨message, mem_append_left rest sent, reported⟩
  induction ticks generalizing s with
  | nil =>
    obtain ⟨t, stepped, -⟩ := (servedTicks E).run_cons_eq_some.mp ran
    obtain reported | ⟨-, -, creating⟩ := awaits.step stamped inTime.1 stepped
    · exact left reported
    · exact absurd rfl (created (creating due))
  | cons tick rest ih =>
    obtain ⟨t, stepped, later⟩ := (servedTicks E).run_cons_eq_some.mp ran
    obtain reported | ⟨still, created', -⟩ := awaits.step stamped inTime.1 stepped
    · exact left reported
    · obtain ⟨message, sent, reported⟩ := ih still (fun creating => absurd creating created')
        (inTime.2 t stepped) later
      refine ⟨message, mem_append_right _ ?_, reported⟩
      rw [stepped]
      exact sent

/-! ### Such runs -/

def samplingItem : MonitoredItem Externals.integers :=
  .new
    { id := 7, itemToMonitor := ⟨(7 : ℕ), (13 : ℕ), none⟩, monitoringMode := .reporting
      clientHandle := 7, discardOldest := true, queueSize := 1, samplingInterval := .nonZero 1000
      initialValue := some (integerValue 1 0), statusCode := StatusCode.Good, filter := .none
      timestampsToReturn := .both, euRange := none } 0

/-- A second value arrives half a microsecond later. -/
def secondValueEarly : List (SubscriptionOp Externals.integers) :=
  [timerTick false, .item (.insert 7 samplingItem),
    .item (.notifyDataValue 7 (integerValue 2 500) 500)]

def servedAt (now : ℤ) : ServedTick := ⟨now, 0, .upward⟩

theorem delayed_sample_reported_inTime :
    ∃ s u, (lifecycle _).run (integerSubscription ⟨1, 3, by decide, by decide⟩ 0) secondValueEarly =
        some s ∧ (servedTicks _).run s [servedAt 2000] = some u ∧
      Reports (s.scannedMessagesOf [servedAt 2000]) 7 (integerValue 2 1000) := by
  have awaits : ∃ s, (lifecycle _).run
      (integerSubscription ⟨1, 3, by decide, by decide⟩ 0) secondValueEarly = some s ∧
      s.AwaitsScan 7 7 (integerValue 2 1000) ∧ s.state = .normal ∧
      ((servedTicks _).run s [servedAt 2000]).isSome := by
    refine ⟨_, rfl, ⟨rfl, inr (inl rfl), ?_, _, rfl, rfl, rfl, rfl, rfl, ?_, rfl⟩, rfl, ?_⟩
    · decide +kernel
    · decide +kernel
    · decide +kernel
  obtain ⟨s, ran, awaits, normal, ticks⟩ := awaits
  obtain ⟨u, ticked⟩ := isSome_iff_exists.mp ticks
  have inTime : (servedTicks _).Guarded (InTime 1000) s ([] ++ [servedAt 2000]) :=
    ⟨inl (by decide), fun _ _ => trivial⟩
  exact ⟨s, u, ran, ticked, delayed_sample_reported awaits rfl
    (fun creating => absurd (normal.symm.trans creating) nofun) inTime ticked (by decide)⟩

/-- A scan before the time of the second sample takes the item off the list. The scan after it does
not visit the item, and the second value stays where it is. -/
theorem early_scan_loses_sample :
    ¬ ∀ (E : Externals) (init s u : Subscription E) (ops : List (SubscriptionOp E)) (id : ℕ)
      (item : MonitoredItem E) (value : E.DataValue) (time : ℤ) (ticks : List ServedTick)
      (last : ServedTick), Fresh init → (lifecycle E).run init ops = some s →
      s.monitoredItems.lookup id = some item → item.isReporting = true →
      item.sampleSkippedDataValue = some value → value.sourceTimestamp = some time →
      s.publishingEnabled = true → (servedTicks E).run s (ticks ++ [last]) = some u →
      time ≤ dateTimeFrom last.now →
      Reports (s.scannedMessagesOf (ticks ++ [last])) item.clientHandle value := by
  intro reported
  obtain ⟨s, u, item, ran, found, reporting, client, skipped, enabled, ticked, sent⟩ : ∃ s u item,
      (lifecycle _).run (integerSubscription ⟨1, 3, by decide, by decide⟩ 0) secondValueEarly =
        some s ∧ s.monitoredItems.lookup 7 = some item ∧ item.isReporting = true ∧
      item.clientHandle = 7 ∧ item.sampleSkippedDataValue = some (integerValue 2 1000) ∧
      s.publishingEnabled = true ∧
      (servedTicks _).run s ([servedAt 600] ++ [servedAt 2000]) = some u ∧
      s.scannedMessagesOf ([servedAt 600] ++ [servedAt 2000]) =
        [.dataChange 1 (dateTimeFrom 600) [⟨7, integerValue 1 0⟩] []] :=
    ⟨_, _, _, rfl, rfl, rfl, rfl, rfl, rfl, rfl, rfl⟩
  obtain ⟨message, listed, change, carried, -, news⟩ := reported _ _ s u secondValueEarly 7 item _
    1000 [servedAt 600] (servedAt 2000) (fresh_integerSubscription _ _) ran found reporting skipped
    rfl enabled ticked (by decide)
  rw [sent, mem_singleton] at listed
  subst listed
  obtain ⟨data, whole, changes, listed, there⟩ := carried
  cases mem_def.mp whole
  obtain ⟨rfl⟩ := mem_singleton.mp listed
  rw [mem_singleton.mp there] at news
  cases news

end Subscription

end AsyncOpcua.Subscriptions
