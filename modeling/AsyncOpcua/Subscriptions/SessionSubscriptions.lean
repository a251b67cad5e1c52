/-
**The subscriptions of one session, and the publish requests that serve them.**

* `tick` first delivers the status changes owed for transferred subscriptions, then ticks the
  subscriptions: by priority while publish requests are queued, in any order else;
* every answer goes to the response channel of the publish request it answers: `sent` lists the
  answers in the order in which they are given.

Left out: the storage pools, the per-service diagnostic infos, and what the session only hands
through (its session, its node managers and its type tree).
-/

import AsyncOpcua.Subscriptions.RetransmissionQueue
import AsyncOpcua.Subscriptions.Subscription

namespace AsyncOpcua.Subscriptions

open Types Foundation

/-! ### Faults -/

/-- How an operation can fail to return. -/
inductive Fault where
  | panicked
  | diverged

/-! ### Requests and answers -/

structure SubscriptionAcknowledgement where
  subscriptionId : ℕ
  sequenceNumber : ℕ

structure PublishRequest where
  requestHandle : ℕ
  subscriptionAcknowledgements : Option (List SubscriptionAcknowledgement)

/-- A publish request that waits; `response` is the channel of its answer. -/
structure PendingPublish where
  response : ℕ
  request : PublishRequest
  ackResults : Option (List StatusCode)
  deadline : ℕ

structure PublishResponse (E : Externals) where
  timestamp : ℤ
  requestHandle : ℕ
  subscriptionId : ℕ
  availableSequenceNumbers : Option (List ℕ)
  moreNotifications : Bool
  notificationMessage : NotificationMessage E
  results : Option (List StatusCode)

inductive ResponseMessage (E : Externals) where
  | serviceFault (requestHandle : ℕ) (serviceResult : StatusCode)
  | publish (response : PublishResponse E)

def ResponseMessage.serviceResult {E : Externals} : ResponseMessage E → StatusCode
  | .serviceFault _ status => status
  | .publish _ => StatusCode.Good

structure CreateSubscriptionRequest (E : Externals) where
  requestedPublishingInterval : E.F64
  requestedLifetimeCount : ℕ
  requestedMaxKeepAliveCount : ℕ
  maxNotificationsPerPublish : ℕ
  publishingEnabled : Bool
  priority : ℕ

structure CreateSubscriptionResponse (E : Externals) where
  subscriptionId : ℕ
  revisedPublishingInterval : E.F64
  revisedLifetimeCount : ℕ
  revisedMaxKeepAliveCount : ℕ

structure ModifySubscriptionRequest (E : Externals) where
  subscriptionId : ℕ
  requestedPublishingInterval : E.F64
  requestedLifetimeCount : ℕ
  requestedMaxKeepAliveCount : ℕ
  maxNotificationsPerPublish : ℕ
  priority : ℕ

structure ModifySubscriptionResponse (E : Externals) where
  revisedPublishingInterval : E.F64
  revisedLifetimeCount : ℕ
  revisedMaxKeepAliveCount : ℕ

/-! ### The state -/

/-- Who owns subscriptions across sessions. -/
structure PersistentSessionKey where
  token : String
  securityMode : MessageSecurityMode
  applicationUri : String

def anonymousUserTokenId : String := "ANONYMOUS"

def PersistentSessionKey.isEquivalentForTransfer (self other : PersistentSessionKey) : Bool :=
  if self.token = anonymousUserTokenId then
    decide (other.token = anonymousUserTokenId) &&
      (other.securityMode == .sign || other.securityMode == .signAndEncrypt) &&
      self.applicationUri == other.applicationUri
  else other.token == self.token

structure SubscriptionLimits (E : Externals) where
  maxSubscriptionsPerSession : ℕ
  maxPendingPublishRequests : ℕ
  maxPublishRequestsPerSubscription : ℕ
  minPublishingIntervalMs : E.F64
  maxKeepAliveCount : ℕ
  defaultKeepAliveCount : ℕ
  maxLifetimeCount : ℕ
  maxNotificationsPerPublish : ℕ
  maxQueuedNotifications : ℕ

/-- The subscriptions of a session by id. -/
abbrev SubscriptionMap (E : Externals) := AList fun _ : ℕ => Subscription E

structure SessionSubscriptions (E : Externals) where
  userToken : PersistentSessionKey
  subscriptions : SubscriptionMap E
  publishRequestQueue : List PendingPublish
  pendingStatusChanges : List (ℕ × NotificationMessage E)
  transferring : Finset ℕ
  retransmissionQueue : RetransmissionQueue E
  limits : SubscriptionLimits E
  cachedPriorityOrder : List ℕ
  priorityCacheDirty : Bool
  sent : List (PendingPublish × ResponseMessage E)

structure RemovedSubscription (E : Externals) where
  id : ℕ
  monitoredItems : List (MonitoredItemRef E)

structure Orders where
  subscriptions : VisitOrder
  items : ℕ → VisitOrder

/-- What a tick is given by its surroundings: two clocks and the visiting orders. -/
structure Occasion where
  now : ℤ
  nowInstant : ℕ
  orders : Orders

variable {E : Externals}

/-- Higher priority first, then lower id. -/
def BeforeInPriority (first second : ℕ × ℕ) : Prop :=
  second.2 < first.2 ∨ second.2 = first.2 ∧ first.1 ≤ second.1

instance : DecidableRel BeforeInPriority := fun _ _ => inferInstanceAs (Decidable (_ ∨ _))

namespace SessionSubscriptions

def new (limits : SubscriptionLimits E) (userToken : PersistentSessionKey) :
    SessionSubscriptions E where
  userToken := userToken
  subscriptions := ∅
  publishRequestQueue := []
  pendingStatusChanges := []
  transferring := ∅
  retransmissionQueue := .new
  limits := limits
  cachedPriorityOrder := []
  priorityCacheDirty := true
  sent := []

/-! ### Reading -/

variable (s : SessionSubscriptions E)

def len : ℕ := s.subscriptions.keys.length

def maxPublishRequests : ℕ :=
  max (min s.limits.maxPendingPublishRequests
    (s.len * s.limits.maxPublishRequestsPerSubscription)) 1

def isReadyToDelete : Bool :=
  s.subscriptions.keys.isEmpty && s.publishRequestQueue.isEmpty && s.pendingStatusChanges.isEmpty

def hasMoreNotifications : Bool :=
  s.subscriptions.entries.any fun entry => entry.2.moreNotifications

def hasQueuedPublishRequest : Bool := !s.publishRequestQueue.isEmpty

def findNotificationMessage (subscriptionId sequenceNumber : ℕ) :
    Except StatusCode (NotificationMessage E) :=
  if subscriptionId ∉ s.subscriptions then .error StatusCode.BadSubscriptionIdInvalid
  else
    match s.retransmissionQueue.getMessage subscriptionId sequenceNumber with
    | none => .error StatusCode.BadMessageNotAvailable
    | some message => .ok message

/-! ### Subscriptions enter and leave -/

def insert (s : SessionSubscriptions E) (subscription : Subscription E)
    (notifs : List (NonAckedPublish E)) : Except StatusCode Unit × SessionSubscriptions E :=
  if s.limits.maxSubscriptionsPerSession ≤ s.len then
    (.error StatusCode.BadTooManySubscriptions, s)
  else
    (.ok (),
      { s with
        transferring := s.transferring.erase subscription.id
        subscriptions := s.subscriptions.insert subscription.id subscription
        priorityCacheDirty := true
        retransmissionQueue :=
          notifs.foldl RetransmissionQueue.pushExisting s.retransmissionQueue })

def remove (subscriptionId : ℕ) :
    Option (Subscription E) × List (NonAckedPublish E) × SessionSubscriptions E :=
  let (notifs, retransmissionQueue) := s.retransmissionQueue.removeSubscription subscriptionId
  (s.subscriptions.lookup subscriptionId, notifs,
    { s with
      transferring := s.transferring.erase subscriptionId
      priorityCacheDirty := true
      retransmissionQueue := retransmissionQueue
      subscriptions := s.subscriptions.erase subscriptionId })

def cloneForTransfer (subscriptionId : ℕ) : Option (Subscription E × List (NonAckedPublish E)) :=
  (s.subscriptions.lookup subscriptionId).map fun subscription =>
    (subscription, s.retransmissionQueue.cloneSubscription subscriptionId)

def markTransferring (subscriptionId : ℕ) : Except StatusCode Unit × SessionSubscriptions E :=
  if subscriptionId ∉ s.subscriptions then (.error StatusCode.BadSubscriptionIdInvalid, s)
  else (.ok (), { s with transferring := Insert.insert subscriptionId s.transferring })

def reviseSubscriptionValues (limits : SubscriptionLimits E) (requestedPublishingInterval : E.F64)
    (requestedMaxKeepAliveCount requestedLifetimeCount : ℕ) : E.F64 × ℕ × ℕ :=
  let revisedPublishingInterval := E.max requestedPublishingInterval limits.minPublishingIntervalMs
  let revisedMaxKeepAliveCount :=
    if limits.maxKeepAliveCount < requestedMaxKeepAliveCount then limits.maxKeepAliveCount
    else if requestedMaxKeepAliveCount = 0 then limits.defaultKeepAliveCount
    else requestedMaxKeepAliveCount
  let minLifetimeCount := revisedMaxKeepAliveCount * 3 % (u32Max + 1)
  let revisedLifetimeCount :=
    if requestedLifetimeCount < minLifetimeCount then minLifetimeCount
    else if limits.maxLifetimeCount < requestedLifetimeCount then limits.maxLifetimeCount
    else requestedLifetimeCount
  (revisedPublishingInterval, revisedMaxKeepAliveCount, revisedLifetimeCount)

def reviseMaxNotificationsPerPublish (inp : ℕ) : ℕ :=
  if s.limits.maxNotificationsPerPublish = 0 then inp
  else if inp = 0 ∨ s.limits.maxNotificationsPerPublish < inp then
    s.limits.maxNotificationsPerPublish
  else inp

/-- `Duration::from_micros((millis * 1000.0) as u64)`, in nanoseconds. -/
def durationOf (millis : E.F64) : ℕ := E.microsUnsigned millis * 1000

/-- The id is the next one of the server, drawn once the limit allows the subscription. -/
def createSubscription (request : CreateSubscriptionRequest E)
    (info : SubscriptionLimits E) (subscriptionId nowInstant : ℕ) :
    Except StatusCode (CreateSubscriptionResponse E) × SessionSubscriptions E :=
  if s.limits.maxSubscriptionsPerSession ≤ s.len then
    (.error StatusCode.BadTooManySubscriptions, s)
  else
    let (interval, keepAlive, lifetime) := reviseSubscriptionValues info
      request.requestedPublishingInterval request.requestedMaxKeepAliveCount
      request.requestedLifetimeCount
    let subscription := Subscription.new subscriptionId request.publishingEnabled
      (durationOf interval) lifetime keepAlive request.priority s.limits.maxQueuedNotifications
      (s.reviseMaxNotificationsPerPublish request.maxNotificationsPerPublish) nowInstant
    (.ok
      { subscriptionId := subscriptionId, revisedPublishingInterval := interval
        revisedLifetimeCount := lifetime, revisedMaxKeepAliveCount := keepAlive },
      { s with
        subscriptions := s.subscriptions.insert subscription.id subscription
        priorityCacheDirty := true })

def modifyEntry (subscriptionId : ℕ)
    (change : Subscription E → Subscription E) : SessionSubscriptions E :=
  match s.subscriptions.lookup subscriptionId with
  | none => s
  | some subscription =>
    { s with subscriptions := s.subscriptions.insert subscriptionId (change subscription) }

def modifySubscription (request : ModifySubscriptionRequest E)
    (info : SubscriptionLimits E) :
    Except StatusCode (ModifySubscriptionResponse E) × SessionSubscriptions E :=
  if request.subscriptionId ∉ s.subscriptions then (.error StatusCode.BadSubscriptionIdInvalid, s)
  else
    let (interval, keepAlive, lifetime) := reviseSubscriptionValues info
      request.requestedPublishingInterval request.requestedMaxKeepAliveCount
      request.requestedLifetimeCount
    let changed := s.modifyEntry request.subscriptionId fun subscription =>
      subscription.modify (durationOf interval) keepAlive lifetime request.priority
        (s.reviseMaxNotificationsPerPublish request.maxNotificationsPerPublish)
    (.ok
      { revisedPublishingInterval := interval, revisedLifetimeCount := lifetime
        revisedMaxKeepAliveCount := keepAlive },
      { changed with priorityCacheDirty := true })

def setPublishingMode (s : SessionSubscriptions E) (publishingEnabled : Bool)
    (subscriptionIds : Option (List ℕ)) :
    Except StatusCode (List StatusCode) × SessionSubscriptions E :=
  match subscriptionIds with
  | none | some [] => (.error StatusCode.BadNothingToDo, s)
  | some ids =>
    (.ok (ids.map fun id =>
        if id ∈ s.subscriptions then StatusCode.Good else StatusCode.BadSubscriptionIdInvalid),
      ids.foldl (fun s id => s.modifyEntry id fun sub => sub.setPublishingMode publishingEnabled) s)

def republish (subscriptionId retransmitSequenceNumber : ℕ) :
    Except StatusCode (NotificationMessage E) × SessionSubscriptions E :=
  if subscriptionId ∉ s.subscriptions then (.error StatusCode.BadSubscriptionIdInvalid, s)
  else
    let s := s.modifyEntry subscriptionId Subscription.resetLifetimeCounter
    (s.findNotificationMessage subscriptionId retransmitSequenceNumber, s)

def updateOwner (userToken : PersistentSessionKey) : SessionSubscriptions E :=
  { s with
    userToken := userToken
    subscriptions := s.subscriptions.keys.foldl
      (fun subscriptions id =>
        match subscriptions.lookup id with
        | none => subscriptions
        | some subscription => subscriptions.insert id subscription.setResendData)
      s.subscriptions }

def deleteSubscription (id : ℕ) :
    (StatusCode × List (MonitoredItemRef E)) × SessionSubscriptions E :=
  let s := { s with priorityCacheDirty := true }
  match s.subscriptions.lookup id with
  | none => ((StatusCode.BadSubscriptionIdInvalid, []), s)
  | some subscription =>
    ((StatusCode.Good, subscription.monitoredItemRefs.map fun ref =>
      { ref with subscriptionId := id }),
      { s with subscriptions := s.subscriptions.erase id })

def deleteEach : List ℕ → SessionSubscriptions E →
    List (StatusCode × List (MonitoredItemRef E)) × SessionSubscriptions E
  | [], s => ([], s)
  | id :: rest, s =>
    let (result, s) := s.deleteSubscription id
    let (results, s) := deleteEach rest s
    (result :: results, s)

def forgetMessages (id : ℕ) : SessionSubscriptions E :=
  { s with retransmissionQueue := (s.retransmissionQueue.removeSubscription id).2 }

/-- The ids stay in `transferring`. -/
def deleteSubscriptions (ids : List ℕ) :
    List (StatusCode × List (MonitoredItemRef E)) × SessionSubscriptions E :=
  let (results, s) := deleteEach ids s
  (results, ids.foldl forgetMessages s)

/-! ### Answers -/

def answer (request : PendingPublish) (message : ResponseMessage E) : SessionSubscriptions E :=
  { s with sent := s.sent ++ [(request, message)] }

def faultRequests (selected : PendingPublish → Bool)
    (serviceResult : StatusCode) : SessionSubscriptions E :=
  { s with
    publishRequestQueue := s.publishRequestQueue.filter fun request => !selected request
    sent := s.sent ++ (s.publishRequestQueue.filter selected).map fun request =>
      (request, .serviceFault request.request.requestHandle serviceResult) }

def rejectPublishRequestsWithoutSubscriptions : SessionSubscriptions E :=
  s.faultRequests (fun _ => true) StatusCode.BadNoSubscription

def removeExpiredPublishRequests (now : ℕ) : SessionSubscriptions E :=
  s.faultRequests (fun request => decide (request.deadline < now)) StatusCode.BadTimeout

def cancelPublishRequests (requestHandle : ℕ) : ℕ × SessionSubscriptions E :=
  let selected := fun request : PendingPublish => request.request.requestHandle == requestHandle
  ((s.publishRequestQueue.filter selected).length,
    s.faultRequests selected StatusCode.BadRequestCancelledByClient)

def processAcks (s : SessionSubscriptions E) :
    List SubscriptionAcknowledgement → List StatusCode × SessionSubscriptions E
  | [] => ([], s)
  | ack :: rest =>
    if ack.subscriptionId ∉ s.subscriptions then
      let (results, s) := s.processAcks rest
      (StatusCode.BadSubscriptionIdInvalid :: results, s)
    else
      let (found, retransmissionQueue) :=
        s.retransmissionQueue.ack ack.subscriptionId ack.sequenceNumber
      let (results, s) :=
        { s with retransmissionQueue := retransmissionQueue }.processAcks rest
      ((if found.isSome then StatusCode.Good else StatusCode.BadSequenceNumberUnknown) ::
        results, s)

def processSubscriptionAcks (request : PublishRequest) :
    Option (List StatusCode) × SessionSubscriptions E :=
  match request.subscriptionAcknowledgements with
  | none | some [] => (none, s)
  | some acks =>
    let (results, s) := s.processAcks acks
    (some results, s)

def queueStatusChange (subscriptionId sequenceNumber : ℕ)
    (publishTime : ℤ) (status : StatusCode) : SessionSubscriptions E :=
  { s with
    pendingStatusChanges := s.pendingStatusChanges ++
      [(subscriptionId, .statusChange sequenceNumber publishTime status)] }

def deliverStatusChanges (now : ℤ) :
    List (ℕ × NotificationMessage E) → SessionSubscriptions E → SessionSubscriptions E
  | [], s => { s with pendingStatusChanges := [] }
  | (subscriptionId, notification) :: rest, s =>
    match s.publishRequestQueue with
    | [] => { s with pendingStatusChanges := (subscriptionId, notification) :: rest }
    | request :: queue =>
      deliverStatusChanges now rest
        ({ s with publishRequestQueue := queue }.answer request (.publish
          { timestamp := dateTimeFrom now, requestHandle := request.request.requestHandle
            subscriptionId := subscriptionId, availableSequenceNumbers := none
            moreNotifications := false, notificationMessage := notification
            results := request.ackResults }))

def deliverPendingStatusChanges (now : ℤ) : SessionSubscriptions E :=
  deliverStatusChanges now s.pendingStatusChanges s

def sendPublishResponses (now : ℤ) (moreNotifications : Bool) :
    List (PendingPublish × NotificationMessage E × ℕ) → SessionSubscriptions E →
    SessionSubscriptions E
  | [], s => s
  | (request, notification, subscriptionId) :: rest, s =>
    let s :=
      { s with
        retransmissionQueue :=
          s.retransmissionQueue.enqueue (s.maxPublishRequests * 2) subscriptionId notification }
    sendPublishResponses now moreNotifications rest
      (s.answer request (.publish
        { timestamp := dateTimeFrom now, requestHandle := request.request.requestHandle
          subscriptionId := subscriptionId
          availableSequenceNumbers :=
            s.retransmissionQueue.availableSequenceNumbers subscriptionId
          moreNotifications := rest.isEmpty && moreNotifications
          notificationMessage := notification, results := request.ackResults }))

/-! ### Ticks -/

def tickSubscription (o : Occasion) (reason : TickReason) (queued : Bool) (id : ℕ)
    (subscription : Subscription E) : Except Fault (TickResult × Subscription E) :=
  match subscription.tick o.now o.nowInstant reason queued (o.orders.items id) with
  | some result => .ok result
  | none => .error .diverged

def removeReady : List ℕ → SessionSubscriptions E → SessionSubscriptions E
  | [], s => s
  | id :: rest, s =>
    removeReady rest
      ({ s with
        transferring := s.transferring.erase id
        subscriptions := s.subscriptions.erase id }.forgetMessages id)

def removeReadySubscriptions (toRemove : List ℕ) : SessionSubscriptions E :=
  removeReady toRemove { s with priorityCacheDirty := true }

/-- What the pass without publish requests has collected. -/
structure Collected (E : Externals) where
  removed : List (RemovedSubscription E)
  toRemove : List ℕ

/-- Tick the listed subscriptions; those staged for transfer are left alone. -/
def tickEachWithoutRequests (o : Occasion) (reason : TickReason) :
    List ℕ → SessionSubscriptions E → Collected E →
    Except Fault (SessionSubscriptions E × Collected E)
  | [], s, collected => .ok (s, collected)
  | id :: rest, s, collected =>
    match s.subscriptions.lookup id with
    | none => tickEachWithoutRequests o reason rest s collected
    | some subscription =>
      if id ∈ s.transferring then tickEachWithoutRequests o reason rest s collected
      else
        (tickSubscription o reason false id subscription).bind fun (res, ticked) =>
          tickEachWithoutRequests o reason rest
            { s with subscriptions := s.subscriptions.insert id ticked }
            { removed :=
                if res = .expired then
                  collected.removed ++ [⟨id, subscription.monitoredItemRefs⟩]
                else collected.removed
              toRemove :=
                if ticked.readyToRemove then collected.toRemove ++ [id] else collected.toRemove }

def tickSubscriptionsWithoutPublishRequests (o : Occasion)
    (reason : TickReason) : Except Fault (List (RemovedSubscription E) × SessionSubscriptions E) :=
  (tickEachWithoutRequests o reason (o.orders.subscriptions.order s.subscriptions.keys.toFinset) s
    ⟨[], []⟩).map fun (s, collected) =>
      (collected.removed, s.removeReadySubscriptions collected.toRemove)

/-- Hand queued messages to waiting requests, one each, until either runs out. -/
def serve (id : ℕ) : List PendingPublish → Subscription E →
    List (PendingPublish × NotificationMessage E × ℕ) × List PendingPublish × Subscription E
  | [], subscription => ([], [], subscription)
  | request :: queue, subscription =>
    match subscription.takeNotification with
    | (none, subscription) => ([], request :: queue, subscription)
    | (some message, subscription) =>
      let (responses, queue, subscription) := serve id queue subscription
      ((request, message, id) :: responses, queue, subscription)

/-- What the pass with publish requests has collected. -/
structure Served (E : Externals) where
  removed : List (RemovedSubscription E)
  responses : List (PendingPublish × NotificationMessage E × ℕ)
  moreNotifications : Bool

/-- Put a served subscription back. One that is closed and has nothing left is removed instead; the
cached order is kept as it is. -/
def settle (id : ℕ) (queue : List PendingPublish)
    (drained : Subscription E) : SessionSubscriptions E :=
  let s :=
    { s with
      publishRequestQueue := queue
      subscriptions := s.subscriptions.insert id drained }
  if drained.readyToRemove then
    { s with subscriptions := s.subscriptions.erase id }.forgetMessages id
  else s

def tickSubscriptionWithPublishRequests (o : Occasion) (reason : TickReason) (id : ℕ)
    (s : SessionSubscriptions E) (served : Served E) :
    Except Fault (SessionSubscriptions E × Served E) :=
  match s.subscriptions.lookup id with
  | none => .error .panicked
  | some subscription =>
    (tickSubscription o reason (!s.publishRequestQueue.isEmpty) id subscription).map
      fun (res, ticked) =>
        let (responses, queue, drained) := serve id s.publishRequestQueue ticked
        (s.settle id queue drained,
          { removed :=
              if res = .expired then served.removed ++ [⟨id, subscription.monitoredItemRefs⟩]
              else served.removed
            responses := served.responses ++ responses
            moreNotifications := served.moreNotifications || drained.moreNotifications })

def tickEachWithRequests (o : Occasion) (reason : TickReason) :
    List ℕ → SessionSubscriptions E → Served E → Except Fault (SessionSubscriptions E × Served E)
  | [], s, served => .ok (s, served)
  | id :: rest, s, served =>
    if id ∈ s.transferring then tickEachWithRequests o reason rest s served
    else
      (tickSubscriptionWithPublishRequests o reason id s served).bind fun (s, served) =>
        tickEachWithRequests o reason rest s served

def subscriptionIdsByPriority : List ℕ × SessionSubscriptions E :=
  if s.priorityCacheDirty then
    let order := s.subscriptions.entries.map fun entry => (entry.2.id, entry.2.priority)
    let ids := (order.insertionSort BeforeInPriority).map Prod.fst
    (ids, { s with cachedPriorityOrder := ids, priorityCacheDirty := false })
  else (s.cachedPriorityOrder, s)

def tickSubscriptionsWithPublishRequests (o : Occasion)
    (reason : TickReason) : Except Fault (SessionSubscriptions E × Served E) :=
  let (ids, s) := s.subscriptionIdsByPriority
  tickEachWithRequests o reason ids s ⟨[], [], false⟩

def tick (o : Occasion) (reason : TickReason) :
    Except Fault (List (RemovedSubscription E) × SessionSubscriptions E) :=
  let s := s.deliverPendingStatusChanges o.now
  if s.len = 0 ∨ s.len = s.transferring.card then
    .ok ([], s.rejectPublishRequestsWithoutSubscriptions)
  else
    let s := s.removeExpiredPublishRequests o.nowInstant
    if s.publishRequestQueue.isEmpty then s.tickSubscriptionsWithoutPublishRequests o reason
    else
      (s.tickSubscriptionsWithPublishRequests o reason).map fun (s, served) =>
        (served.removed, sendPublishResponses o.now served.moreNotifications served.responses s)

/-- A notification has arrived: serve the waiting requests, if there are any. -/
def processNotificationWake (o : Occasion) : Except Fault (SessionSubscriptions E) :=
  if s.publishRequestQueue.isEmpty then .ok s
  else
    (s.tickSubscriptionsWithPublishRequests o .notificationAvailable).map fun (s, served) =>
      sendPublishResponses o.now served.moreNotifications served.responses s

/-- The oldest request is answered with an error. The queue is as long as its limit, which is at
least one, so there is an oldest request. -/
def rejectOldest : Except Fault (SessionSubscriptions E) :=
  match s.publishRequestQueue with
  | [] => .error .panicked
  | request :: queue =>
    .ok ({ s with publishRequestQueue := queue }.answer request
      (.serviceFault request.request.requestHandle StatusCode.BadTooManyPublishRequests))

/-- A full queue is ticked for room; if it stays full, the oldest request has to go. -/
def makeRoom (o : Occasion) : Except Fault (SessionSubscriptions E) :=
  (if s.maxPublishRequests ≤ s.publishRequestQueue.length then
    (s.tick o .receivePublishRequest).map (·.2)
  else .ok s).bind fun s =>
    if s.maxPublishRequests ≤ s.publishRequestQueue.length then s.rejectOldest else .ok s

def takeIn (request : PendingPublish) : SessionSubscriptions E :=
  let (ackResults, s) := s.processSubscriptionAcks request.request
  { s with
    publishRequestQueue := s.publishRequestQueue ++ [{ request with ackResults := ackResults }] }

/-- **A publish request arrives.** `first` and `second` are the visiting orders of the tick that
makes room and of the tick that serves the request. -/
def enqueuePublishRequest (now : ℤ) (nowInstant : ℕ)
    (first second : Orders) (request : PendingPublish) : Except Fault (SessionSubscriptions E) :=
  (s.makeRoom ⟨now, nowInstant, first⟩).bind fun s =>
    ((s.takeIn request).tick ⟨now, nowInstant, second⟩ .receivePublishRequest).map (·.2)

end SessionSubscriptions

end AsyncOpcua.Subscriptions
