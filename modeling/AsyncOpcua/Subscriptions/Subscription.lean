/-
**One subscription: the state table of the publishing timer, ticks, and message building.**

* `tick` is one tick. It is `none` exactly where an aggregate item's loop does not return.
-/

import AsyncOpcua.Foundation.Visit
import AsyncOpcua.Subscriptions.MonitoredItem
import Mathlib.Data.List.AList

namespace AsyncOpcua.Subscriptions

open Types Foundation

/-! ### Sequence numbers -/

def u32Max : ℕ := 4294967295

/-- The factory of sequence numbers. -/
structure Handle where
  next : ℕ
  first : ℕ

namespace Handle

def new (first : ℕ) : Handle := ⟨first, first⟩

def peekNext (handle : Handle) : ℕ := handle.next

/-- The number issued and the factory after it; past `u32::MAX` the numbers start again. -/
def issue (handle : Handle) : ℕ × Handle :=
  (handle.next,
    { handle with next := if handle.next = u32Max then handle.first else handle.next + 1 })

end Handle

/-! ### States and rows of the table -/

inductive SubscriptionState where
  | closed
  | creating
  | normal
  | late
  | keepAlive
  deriving DecidableEq

structure SubscriptionStateParams where
  notificationsAvailable : Bool
  moreNotifications : Bool
  publishingReqQueued : Bool

inductive UpdateStateAction where
  | none
  | returnKeepAlive
  | returnNotifications
  | subscriptionCreated
  | subscriptionExpired

inductive TickResult where
  | expired
  | enqueued
  | none
  deriving DecidableEq

/-- The rows of the state table of OPC UA Part 4 5.13.1.2; `none0` is no row. -/
inductive HandledState where
  | none0
  | create3
  | normal4
  | normal5
  | intervalElapsed6
  | intervalElapsed7
  | intervalElapsed8
  | intervalElapsed9
  | late10
  | late11
  | late12
  | keepAlive13
  | keepAlive14
  | keepAlive15
  | keepAlive16
  | keepAlive17
  | closed27
  deriving DecidableEq

inductive TickReason where
  | receivePublishRequest
  | notificationAvailable
  | tickTimerFired
  deriving DecidableEq

abbrev ItemMap (E : Externals) := AList fun _ : ℕ => MonitoredItem E

structure Subscription (E : Externals) where
  id : ℕ
  publishingInterval : ℕ
  maxLifetimeCounter : ℕ
  maxKeepAliveCounter : ℕ
  priority : ℕ
  monitoredItems : ItemMap E
  notifiedMonitoredItems : Finset ℕ
  state : SubscriptionState
  lifetimeCounter : ℕ
  keepAliveCounter : ℕ
  firstMessageSent : Bool
  publishingEnabled : Bool
  resendData : Bool
  sequenceNumber : Handle
  lastTimePublishingIntervalElapsed : ℕ
  notifications : List (NotificationMessage E)
  maxQueuedNotifications : ℕ
  maxNotificationsPerPublish : ℕ
  discardedMessageCount : ℕ

structure MonitoredItemRef (E : Externals) where
  subscriptionId : ℕ
  monitoredItemId : ℕ
  nodeId : E.NodeId
  attributeId : ℕ

def immediateNotificationWakeMinInterval : ℕ := 1000000000

variable {E : Externals}

namespace Subscription

/-- `Subscription::new`, at the clock reading `now`. -/
def new (id : ℕ) (publishingEnabled : Bool) (publishingInterval lifetimeCounter keepAliveCounter
    priority maxQueuedNotifications maxNotificationsPerPublish now : ℕ) : Subscription E where
  id := id
  publishingInterval := publishingInterval
  maxLifetimeCounter := lifetimeCounter
  maxKeepAliveCounter := keepAliveCounter
  priority := priority
  monitoredItems := ∅
  notifiedMonitoredItems := ∅
  state := .creating
  lifetimeCounter := lifetimeCounter
  keepAliveCounter := keepAliveCounter
  firstMessageSent := false
  publishingEnabled := publishingEnabled
  resendData := false
  sequenceNumber := Handle.new 1
  lastTimePublishingIntervalElapsed := now
  notifications := []
  maxQueuedNotifications := maxQueuedNotifications
  maxNotificationsPerPublish := maxNotificationsPerPublish
  discardedMessageCount := 0

/-! ### Items -/

variable (s : Subscription E)

def len : ℕ := s.monitoredItems.keys.length

def monitoredItemRefs : List (MonitoredItemRef E) :=
  s.monitoredItems.entries.map fun entry =>
    { subscriptionId := s.id, monitoredItemId := entry.2.id
      nodeId := entry.2.itemToMonitor.nodeId, attributeId := entry.2.itemToMonitor.attributeId }

def setResendData : Subscription E := { s with resendData := true }

def remove (id : ℕ) : Subscription E :=
  { s with monitoredItems := s.monitoredItems.erase id }

def insert (s : Subscription E) (id : ℕ) (item : MonitoredItem E) : Subscription E :=
  { s with
    monitoredItems := s.monitoredItems.insert id item
    notifiedMonitoredItems := Insert.insert id s.notifiedMonitoredItems }

def modifyItem (id : ℕ) (change : MonitoredItem E → MonitoredItem E) : Subscription E :=
  match s.monitoredItems.lookup id with
  | some item => { s with monitoredItems := s.monitoredItems.insert id (change item) }
  | none => s

def notifyItem (id : ℕ) (notify : MonitoredItem E → Bool × MonitoredItem E) : Subscription E :=
  match s.monitoredItems.lookup id with
  | some item =>
    let (tickLater, item) := notify item
    { s with
      monitoredItems := s.monitoredItems.insert id item
      notifiedMonitoredItems :=
        if tickLater then Insert.insert id s.notifiedMonitoredItems
        else s.notifiedMonitoredItems }
  | none => s

def notifyDataValue (s : Subscription E) (id : ℕ) (value : E.DataValue) (now : ℤ) :
    Subscription E :=
  s.notifyItem id fun item => item.notifyDataValue value now false

def notifyEuRangeChanged (s : Subscription E) (id : ℕ) (low high : E.F64) : Subscription E :=
  s.modifyItem id fun item => item.notifyEuRangeChanged low high

def notifyEvent (s : Subscription E) (id : ℕ) (event : E.Event) (typeTree : E.TypeTree)
    (overflowId : List UInt8) (now : ℤ) : Subscription E :=
  s.notifyItem id fun item => item.notifyEvent event typeTree overflowId now

/-! ### Counters -/

def resetKeepAliveCounter : Subscription E :=
  { s with keepAliveCounter := s.maxKeepAliveCounter }

def resetLifetimeCounter : Subscription E :=
  { s with lifetimeCounter := s.maxLifetimeCounter }

/-- The lifetime counter goes down, and stays at zero. -/
def startPublishingTimer : Subscription E :=
  { s with lifetimeCounter := s.lifetimeCounter - 1 }

/-- Whether the publishing interval has passed since it last did; if so, it starts again. -/
def testAndSetPublishingIntervalElapsed (now : ℕ) : Bool × Subscription E :=
  if s.publishingInterval ≤ now - s.lastTimePublishingIntervalElapsed then
    (true, { s with lastTimePublishingIntervalElapsed := now })
  else (false, s)

/-! ### Settings -/

def modify (publishingInterval keepAlive lifetime priority
    maxNotificationsPerPublish : ℕ) : Subscription E :=
  { { s with
      publishingInterval := publishingInterval
      maxKeepAliveCounter := keepAlive
      maxLifetimeCounter := lifetime
      priority := priority }.resetLifetimeCounter.resetKeepAliveCounter with
    maxNotificationsPerPublish := maxNotificationsPerPublish }

def setPublishingMode (publishingEnabled : Bool) : Subscription E :=
  { s with publishingEnabled := publishingEnabled }.resetLifetimeCounter

/-! ### The state table -/

/-- **The row that applies.** The rows of one state and tick reason are tried in order. -/
def getStateTransition (tickReason : TickReason) (p : SubscriptionStateParams) : HandledState :=
  let immediate := decide (immediateNotificationWakeMinInterval ≤ s.publishingInterval)
  match s.state, tickReason with
  | .creating, _ => .create3
  | .normal, .receivePublishRequest =>
    if !s.publishingEnabled || s.publishingEnabled && !p.moreNotifications then .normal4
    else if s.publishingEnabled && p.moreNotifications then .normal5
    else .none0
  | .normal, .notificationAvailable =>
    if s.publishingEnabled && p.publishingReqQueued && immediate &&
        (p.notificationsAvailable || p.moreNotifications) then .intervalElapsed6
    else if s.publishingEnabled && !p.publishingReqQueued &&
        (p.notificationsAvailable || p.moreNotifications) then .normal5
    else .none0
  | .normal, .tickTimerFired =>
    if p.publishingReqQueued && s.publishingEnabled && p.notificationsAvailable then
      .intervalElapsed6
    else if p.publishingReqQueued && !s.firstMessageSent &&
        (!s.publishingEnabled || s.publishingEnabled && !p.moreNotifications) then
      .intervalElapsed7
    else if !p.publishingReqQueued &&
        (!s.firstMessageSent || s.publishingEnabled && p.notificationsAvailable) then
      .intervalElapsed8
    else if s.firstMessageSent &&
        (!s.publishingEnabled || s.publishingEnabled && !p.moreNotifications) then
      .intervalElapsed9
    else if s.lifetimeCounter ≤ 1 then .closed27
    else .none0
  | .late, .receivePublishRequest =>
    if s.publishingEnabled && (p.notificationsAvailable || p.moreNotifications) then .late10
    else if !s.publishingEnabled || s.publishingEnabled &&
        !p.notificationsAvailable && !p.moreNotifications then .late11
    else .none0
  | .late, .notificationAvailable =>
    if s.publishingEnabled && (p.notificationsAvailable || p.moreNotifications) then .late10
    else .none0
  | .late, .tickTimerFired =>
    -- Not a row of the standard: without it the lifetime counter does not count.
    if 1 < s.lifetimeCounter then .late12
    else if s.lifetimeCounter ≤ 1 then .closed27
    else .none0
  | .keepAlive, .notificationAvailable =>
    if s.publishingEnabled && p.notificationsAvailable && p.publishingReqQueued && immediate then
      .keepAlive14
    else if s.publishingEnabled && p.notificationsAvailable && !p.publishingReqQueued then .late10
    else .none0
  | .keepAlive, .receivePublishRequest => .keepAlive13
  | .keepAlive, .tickTimerFired =>
    if s.publishingEnabled && p.notificationsAvailable && p.publishingReqQueued then .keepAlive14
    else if p.publishingReqQueued && s.keepAliveCounter == 1 &&
        (!s.publishingEnabled || s.publishingEnabled && !p.notificationsAvailable) then
      .keepAlive15
    else if 1 < s.keepAliveCounter &&
        (!s.publishingEnabled || s.publishingEnabled && !p.notificationsAvailable) then
      .keepAlive16
    else if !p.publishingReqQueued && (s.keepAliveCounter == 1 ||
        1 < s.keepAliveCounter && s.publishingEnabled && p.notificationsAvailable) then
      .keepAlive17
    else if s.lifetimeCounter ≤ 1 then .closed27
    else .none0
  | .closed, _ => .none0

/-- **What a row does to the subscription,** and what is to be done next. -/
def handleStateTransition (transition : HandledState) : UpdateStateAction × Subscription E :=
  match transition with
  | .none0 => (.none, s)
  | .create3 => (.subscriptionCreated, { s with state := .normal, firstMessageSent := false })
  | .normal4 => (.none, s)
  | .normal5 => (.returnNotifications, s.resetLifetimeCounter)
  | .intervalElapsed6 =>
    (.returnNotifications,
      { s.resetLifetimeCounter.startPublishingTimer with firstMessageSent := true })
  | .intervalElapsed7 =>
    (.returnKeepAlive,
      { s.resetLifetimeCounter.startPublishingTimer with firstMessageSent := true })
  | .intervalElapsed8 => (.none, { s.startPublishingTimer with state := .late })
  | .intervalElapsed9 =>
    (.none, { s.startPublishingTimer.resetKeepAliveCounter with state := .keepAlive })
  | .late10 =>
    (.returnNotifications,
      { s.resetLifetimeCounter with firstMessageSent := true, state := .normal })
  | .late11 =>
    (.returnKeepAlive,
      { s.resetLifetimeCounter with firstMessageSent := true, state := .keepAlive })
  | .late12 => (.none, { s.startPublishingTimer with state := .late })
  | .keepAlive13 => (.none, s)
  | .keepAlive14 =>
    (.returnNotifications,
      { s.resetLifetimeCounter.startPublishingTimer with
        firstMessageSent := true, state := .normal })
  | .keepAlive15 => (.returnKeepAlive, s.startPublishingTimer.resetKeepAliveCounter)
  | .keepAlive16 =>
    (.none, { s.startPublishingTimer with keepAliveCounter := s.keepAliveCounter - 1 })
  | .keepAlive17 => (.none, { s.startPublishingTimer with state := .late })
  | .closed27 => (.subscriptionExpired, { s with state := .closed })

def notificationsAvailable (resendData : Bool) : Bool :=
  if s.notifiedMonitoredItems ≠ ∅ then true
  else if resendData then s.monitoredItems.entries.any fun entry => entry.2.hasLastValue
  else false

end Subscription

/-! ### Messages -/

/-- The scratch state of a scan: notifications not yet in a message, triggers met so far, messages
built so far, and the factory that numbers them. -/
structure Scan (E : Externals) where
  triggers : List (ℕ × ℕ)
  notifications : List (Notification E)
  messages : List (NotificationMessage E)
  sequenceNumbers : Handle

def dataChangeOf : Notification E → Option (MonitoredItemNotification E)
  | .monitoredItemNotification n => some n
  | .event _ => none

def eventOf : Notification E → Option E.EventFieldList
  | .monitoredItemNotification _ => none
  | .event fields => some fields

def makeNotificationMessage (nextSequenceNumber : ℕ) (notifications : List (Notification E))
    (now : ℤ) : NotificationMessage E :=
  .dataChange nextSequenceNumber (dateTimeFrom now) (notifications.filterMap dataChangeOf)
    (notifications.filterMap eventOf)

namespace Scan

def flush (scan : Scan E) (now : ℤ) : Scan E :=
  { scan with
    notifications := []
    messages := scan.messages ++
      [makeNotificationMessage scan.sequenceNumbers.issue.1 scan.notifications now]
    sequenceNumbers := scan.sequenceNumbers.issue.2 }

/-- Collect one notification, closing a message when it is full. -/
def push (maxNotifications : ℕ) (now : ℤ) (scan : Scan E) (notification : Notification E) :
    Scan E :=
  let scan := { scan with notifications := scan.notifications ++ [notification] }
  if maxNotifications ≤ scan.notifications.length ∧ 0 < maxNotifications then scan.flush now
  else scan

/-- Record the links of an item that triggers others. -/
def addTriggers (scan : Scan E) (fires : Bool) (item : MonitoredItem E) : Scan E :=
  if fires then
    { scan with
      triggers := scan.triggers ++ (ascending item.triggeredItems).map fun id => (item.id, id) }
  else scan

end Scan

namespace MonitoredItem

/-- How many times `popNotification` can succeed. -/
def pendingCount (item : MonitoredItem E) : ℕ :=
  item.notificationQueue.length + item.overflowEvent.toList.length

/-- Pop until the item has nothing left; `rounds` bounds the loop. -/
def popRounds : ℕ → MonitoredItem E → List (Notification E) × MonitoredItem E
  | 0, item => ([], item)
  | rounds + 1, item =>
    match item.popNotification with
    | (none, item) => ([], item)
    | (some notification, item) =>
      let (rest, item) := popRounds rounds item
      (notification :: rest, item)

/-- `while let Some(notif) = item.pop_notification()`. -/
def popAll (item : MonitoredItem E) : List (Notification E) × MonitoredItem E :=
  popRounds item.pendingCount item

/-- What a scan does with an item before it reads the queue: the delayed sample, the aggregates,
the trigger flag, and on a resend the current value. The first component says whether the item
triggers others. -/
def prepare (item : MonitoredItem E) (now : ℤ) (resendData : Bool) :
    Option (Bool × MonitoredItem E) :=
  let item := (item.maybeEnqueueSkippedValue (dateTimeFrom now)).2
  (item.maybeFlushAggregate (dateTimeFrom now)).map fun (_, item) =>
    let (fires, item) := if item.isSampling then item.hasNewNotifications else (false, item)
    (fires, if item.isReporting && resendData then item.addCurrentValueToQueue else item)

/-- **All that preparing does to an item** once the delayed sample and the aggregates are queued:
the flag of new notifications is read or not, then the current value is queued or not. -/
theorem prepare_cases {item prepared : MonitoredItem E} {now : ℤ} {resendData fires : Bool}
    (prep : item.prepare now resendData = some (fires, prepared)) :
    ∃ flushed middle read,
      (item.maybeEnqueueSkippedValue (dateTimeFrom now)).2.maybeFlushAggregate (dateTimeFrom now) =
        some (flushed, middle) ∧
      (read = middle.hasNewNotifications.2 ∨ read = middle) ∧
      (prepared = read.addCurrentValueToQueue ∨ prepared = read) := by
  obtain ⟨⟨flushed, middle⟩, done, built⟩ := Option.map_eq_some_iff.mp prep
  rw [Prod.mk.injEq] at built
  obtain ⟨-, rfl⟩ := built
  refine ⟨flushed, middle,
    (if middle.isSampling then middle.hasNewNotifications else (false, middle)).2, done, ?_, ?_⟩
  · split_ifs
    · exact .inl rfl
    · exact .inr rfl
  · generalize (if middle.isSampling then middle.hasNewNotifications else (false, middle)) = read
    split_ifs
    · exact .inl rfl
    · exact .inr rfl

end MonitoredItem

def tickMonitoredItem (item : MonitoredItem E) (now : ℤ) (resendData : Bool)
    (maxNotifications : ℕ) (scan : Scan E) : Option (MonitoredItem E × Scan E) :=
  (item.prepare now resendData).map fun (fires, item) =>
    let scan := scan.addTriggers fires item
    if item.isReporting && item.hasNotifications then
      let (popped, item) := item.popAll
      (item, popped.foldl (Scan.push maxNotifications now) scan)
    else (item, scan)

def scanItems (now : ℤ) (resendData : Bool) (maxNotifications : ℕ) :
    List ℕ → ItemMap E → Scan E → Option (ItemMap E × Scan E)
  | [], items, scan => some (items, scan)
  | id :: rest, items, scan =>
    match items.lookup id with
    | none => scanItems now resendData maxNotifications rest items scan
    | some item =>
      (tickMonitoredItem item now resendData maxNotifications scan).bind fun (item, scan) =>
        scanItems now resendData maxNotifications rest (items.insert id item) scan

/-- `Subscription::handle_triggers`: report what triggered items queue; a link to an item that is
gone is removed. -/
def handleTriggers (now : ℤ) (maxNotifications : ℕ) :
    List (ℕ × ℕ) → ItemMap E → Scan E → ItemMap E × Scan E
  | [], items, scan => (items, scan)
  | (triggeringItem, itemId) :: rest, items, scan =>
    match items.lookup itemId with
    | none =>
      let items :=
        match items.lookup triggeringItem with
        | some item => items.insert triggeringItem (item.removeDeadTrigger itemId)
        | none => items
      handleTriggers now maxNotifications rest items scan
    | some item =>
      let (popped, item) := item.popAll
      handleTriggers now maxNotifications rest (items.insert itemId item)
        (popped.foldl (Scan.push maxNotifications now) scan)

namespace Subscription

variable (s : Subscription E)

def visited (visit : VisitOrder) (resendData : Bool) : List ℕ :=
  if resendData then visit.order s.monitoredItems.keys.toFinset
  else visit.order s.notifiedMonitoredItems

def tickMonitoredItems (now : ℤ) (resendData : Bool) (visit : VisitOrder) :
    Option (List (NotificationMessage E) × Subscription E) :=
  (scanItems now resendData s.maxNotificationsPerPublish (s.visited visit resendData)
      s.monitoredItems ⟨[], [], [], s.sequenceNumber⟩).map fun (items, scan) =>
    let (items, scan) :=
      handleTriggers now s.maxNotificationsPerPublish scan.triggers items scan
    let scan := if scan.notifications.isEmpty then scan else scan.flush now
    (scan.messages,
      { s with
        monitoredItems := items
        notifiedMonitoredItems := if resendData then s.notifiedMonitoredItems else ∅
        sequenceNumber := scan.sequenceNumbers })

/-! ### The message queue -/

def enqueueNotification (notification : NotificationMessage E) : Subscription E :=
  { s with notifications := s.notifications ++ [notification] }

/-- The oldest messages beyond the limit are dropped; a limit of zero is none. -/
def enforceQueuedNotificationLimit : Subscription E :=
  if s.maxQueuedNotifications = 0 ∨ s.notifications.length ≤ s.maxQueuedNotifications then s
  else
    let dropped := s.notifications.length - s.maxQueuedNotifications
    { s with
      notifications := s.notifications.drop dropped
      discardedMessageCount :=
        min u32Max (s.discardedMessageCount + dropped % (u32Max + 1)) }

def takeNotification : Option (NotificationMessage E) × Subscription E :=
  match s.notifications with
  | [] => (none, s)
  | message :: rest => (some message, { s with notifications := rest })

def moreNotifications : Bool := !s.notifications.isEmpty

def readyToRemove : Bool := s.state == .closed && s.notifications.isEmpty

/-! ### Ticks -/

/-- Carry out what the row of the table asks for. -/
def perform (action : UpdateStateAction) (now : ℤ) (visit : VisitOrder) :
    Option (TickResult × Subscription E) :=
  match action with
  | .none => some (.none, s)
  | .subscriptionCreated => some (.none, s)
  | .returnKeepAlive =>
    -- A keep-alive carries the next number without using it up.
    some (.enqueued, (s.enqueueNotification
      (.keepAlive s.sequenceNumber.peekNext (dateTimeFrom now))).enforceQueuedNotificationLimit)
  | .returnNotifications =>
    let taken := { s with resendData := false }
    (taken.tickMonitoredItems now s.resendData visit).map fun (messages, s) =>
      (.enqueued, (messages.foldl enqueueNotification s).enforceQueuedNotificationLimit)
  | .subscriptionExpired =>
    let (number, sequenceNumber) := s.sequenceNumber.issue
    let s := { s with monitoredItems := ∅, sequenceNumber := sequenceNumber }
    some (.expired, (s.enqueueNotification
      (.statusChange number
        (dateTimeFrom now) StatusCode.BadTimeout)).enforceQueuedNotificationLimit)

/-- What the state table is asked about. -/
def stateParams (publishingReqQueued : Bool) : SubscriptionStateParams where
  notificationsAvailable := s.notificationsAvailable s.resendData
  moreNotifications := s.moreNotifications
  publishingReqQueued := publishingReqQueued

/-- Whether the tick is one of the publishing timer whose interval has passed; such a tick starts
the interval again, except in the creating state. -/
def intervalElapsed (nowInstant : ℕ) (tickReason : TickReason) : Bool × Subscription E :=
  match tickReason with
  | .receivePublishRequest | .notificationAvailable => (false, s)
  | .tickTimerFired =>
    if s.state = .creating then (true, s) else s.testAndSetPublishingIntervalElapsed nowInstant

def tick (now : ℤ) (nowInstant : ℕ) (tickReason : TickReason)
    (publishingReqQueued : Bool) (visit : VisitOrder) : Option (TickResult × Subscription E) :=
  let (publishingIntervalElapsed, s) := s.intervalElapsed nowInstant tickReason
  if tickReason = .tickTimerFired ∧ !publishingIntervalElapsed then some (.none, s)
  else
    let transition := s.getStateTransition tickReason (s.stateParams publishingReqQueued)
    let (action, s) := s.handleStateTransition transition
    s.perform action now visit

end Subscription

end AsyncOpcua.Subscriptions
