/-
**The indexes of the cache: which items a node notifies.**

The cache finds the items to notify in two maps: from the attribute of a node to the handles of the
items that monitor it, and from the node of an EU range to the handles of the items that scale their
deadband by it. The services update the maps after the actor of the session has answered.

* `SessionSubscriptions.createMonitoredItems`, … — what the actor does for the services on items.

Left out: the data encoding in the entries and the diagnostics.
-/

import AsyncOpcua.Subscriptions.WatchedItems

namespace AsyncOpcua.Subscriptions

open Types Foundation Function

variable {E : Externals}

/-! ### The services on monitored items -/

structure MonitoredItemCreateResult where
  statusCode : StatusCode
  monitoredItemId : ℕ
  revisedSamplingInterval : SamplingInterval
  revisedQueueSize : ℕ

structure MonitoredItemUpdateRef where
  handle : MonitoredItemHandle
  statusCode : StatusCode

namespace Subscription

def forEach {α β : Type} (serve : α → Subscription E → β × Subscription E) :
    List α → Subscription E → List β × Subscription E
  | [], s => ([], s)
  | request :: rest, s =>
    let (result, s) := serve request s
    let (results, s) := forEach serve rest s
    (result :: results, s)

/-- Create one item; `cap` of zero is no limit. -/
def createMonitoredItem (cap : ℕ) (now : ℤ) (request : MonitoredItem.CreateMonitoredItem E)
    (s : Subscription E) : MonitoredItemCreateResult × Subscription E :=
  if request.statusCode.isGood then
    if 0 < cap ∧ cap ≤ s.len then
      (⟨StatusCode.BadTooManyMonitoredItems, 0, request.samplingInterval, request.queueSize⟩, s)
    else
      let item := MonitoredItem.new request now
      (⟨StatusCode.Good, item.id, item.samplingInterval, item.queueSize⟩, s.insert item.id item)
  else (⟨request.statusCode, 0, request.samplingInterval, request.queueSize⟩, s)

def modifyMonitoredItem (subscriptionId : ℕ) (now : ℤ)
    (request : ℕ × MonitoredItem.ModifyRequest E) (s : Subscription E) :
    MonitoredItemUpdateRef × Subscription E :=
  match s.monitoredItems.lookup request.1 with
  | some item =>
    let (status, modified) := item.modify request.2 now
    (⟨⟨subscriptionId, modified.id⟩, status⟩,
      { s with monitoredItems := s.monitoredItems.insert request.1 modified })
  | none => (⟨⟨subscriptionId, request.1⟩, StatusCode.BadMonitoredItemIdInvalid⟩, s)

/-- A reference to an item of the subscription; `null` is the null node id. -/
def refOf (subscriptionId id : ℕ) (item : MonitoredItem E) : MonitoredItemRef E where
  subscriptionId := subscriptionId
  monitoredItemId := id
  nodeId := item.itemToMonitor.nodeId
  attributeId := item.itemToMonitor.attributeId

def setMonitoringModeOf (subscriptionId : ℕ) (mode : MonitoringMode) (id : ℕ) (s : Subscription E) :
    (StatusCode × Option (MonitoredItemRef E)) × Subscription E :=
  match s.monitoredItems.lookup id with
  | some item =>
    ((StatusCode.Good, some (refOf subscriptionId id item)),
      { s with monitoredItems := s.monitoredItems.insert id (item.setMonitoringMode mode) })
  | none => ((StatusCode.BadMonitoredItemIdInvalid, none), s)

def deleteMonitoredItem (subscriptionId id : ℕ) (s : Subscription E) :
    (StatusCode × Option (MonitoredItemRef E)) × Subscription E :=
  match s.monitoredItems.lookup id with
  | some item => ((StatusCode.Good, some (refOf subscriptionId id item)), s.remove id)
  | none => ((StatusCode.BadMonitoredItemIdInvalid, none), s)

end Subscription

namespace SessionSubscriptions

def onSubscription {α : Type} (s : SessionSubscriptions E) (subscriptionId : ℕ)
    (serve : Subscription E → α × Subscription E) : Except StatusCode α × SessionSubscriptions E :=
  match s.subscriptions.lookup subscriptionId with
  | none => (.error StatusCode.BadSubscriptionIdInvalid, s)
  | some subscription =>
    let (result, subscription) := serve subscription
    (.ok result, { s with subscriptions := s.subscriptions.insert subscriptionId subscription })

variable (s : SessionSubscriptions E)

def createMonitoredItems (cap subscriptionId : ℕ) (now : ℤ)
    (requests : List (MonitoredItem.CreateMonitoredItem E)) :
    Except StatusCode (List MonitoredItemCreateResult) × SessionSubscriptions E :=
  s.onSubscription subscriptionId
    (Subscription.forEach (Subscription.createMonitoredItem cap now) requests)

def modifyMonitoredItems (subscriptionId : ℕ) (now : ℤ)
    (requests : List (ℕ × MonitoredItem.ModifyRequest E)) :
    Except StatusCode (List MonitoredItemUpdateRef) × SessionSubscriptions E :=
  s.onSubscription subscriptionId
    (Subscription.forEach (Subscription.modifyMonitoredItem subscriptionId now) requests)

def setMonitoringMode (subscriptionId : ℕ) (mode : MonitoringMode)
    (items : List ℕ) :
    Except StatusCode (List (StatusCode × Option (MonitoredItemRef E))) × SessionSubscriptions E :=
  s.onSubscription subscriptionId
    (Subscription.forEach (Subscription.setMonitoringModeOf subscriptionId mode) items)

def deleteMonitoredItems (subscriptionId : ℕ) (items : List ℕ) :
    Except StatusCode (List (StatusCode × Option (MonitoredItemRef E))) × SessionSubscriptions E :=
  s.onSubscription subscriptionId
    (Subscription.forEach (Subscription.deleteMonitoredItem subscriptionId) items)

def monitoredItemRefs (s : SessionSubscriptions E) : List (MonitoredItemRef E) :=
  s.subscriptions.entries.flatMap fun entry => entry.2.monitoredItemRefs

/-! ### The commands of a transfer -/

/-- The copy is inserted, and asked to send its data again where initial values are wanted. -/
def insertForTransfer (subscription : Subscription E)
    (notifs : List (NonAckedPublish E)) (sendInitialValues : Bool) (id : ℕ) :
    Except StatusCode Unit × SessionSubscriptions E :=
  match s.insert subscription notifs with
  | (.error status, s) => (.error status, s)
  | (.ok (), s) =>
    (.ok (), if sendInitialValues then s.modifyEntry id Subscription.setResendData else s)

def completeTransfer (id nextSequenceNumber : ℕ) (timestamp : ℤ) : SessionSubscriptions E :=
  (s.remove id).2.2.queueStatusChange id nextSequenceNumber timestamp
    StatusCode.GoodSubscriptionTransferred

end SessionSubscriptions

/-! ### The maps -/

/-- What conditional sampling reads of an item. -/
structure MonitoredItemEntry (E : Externals) where
  enabled : Bool
  indexRange : Option E.NumericRange

abbrev HandleMap (E : Externals) := AList fun _ : MonitoredItemHandle => MonitoredItemEntry E

/-- **The maps of the cache.** The entry of a session holds the state of its actor. -/
structure SubscriptionCacheInner (E : Externals) where
  limits : SubscriptionLimits E
  /-- `limits.max_monitored_items_per_sub`. -/
  maxMonitoredItemsPerSub : ℕ
  sessionSubscriptions : ℕ → Option (SessionSubscriptions E)
  subscriptionToSession : ℕ → Option ℕ
  monitoredItems : MonitoredItemKey E → Option (HandleMap E)
  euRangeMonitoredItems : E.NodeId → Option (Finset MonitoredItemHandle)

instance [DecidableEq E.NodeId] : DecidableEq (MonitoredItemKey E) := fun first second =>
  decidable_of_iff (first.id = second.id ∧ first.attributeId = second.attributeId) (by
    rw [MonitoredItemKey.mk.injEq])

namespace SubscriptionCacheInner

def new (limits : SubscriptionLimits E) (maxMonitoredItemsPerSub : ℕ) :
    SubscriptionCacheInner E where
  limits := limits
  maxMonitoredItemsPerSub := maxMonitoredItemsPerSub
  sessionSubscriptions _ := none
  subscriptionToSession _ := none
  monitoredItems _ := none
  euRangeMonitoredItems _ := none

def setSession (c : SubscriptionCacheInner E) (session : ℕ) (subs : SessionSubscriptions E) :
    SubscriptionCacheInner E :=
  { c with sessionSubscriptions := update c.sessionSubscriptions session (some subs) }

def ensureSessionEntry (c : SubscriptionCacheInner E) (session : ℕ)
    (userToken : PersistentSessionKey) : SessionSubscriptions E :=
  (c.sessionSubscriptions session).getD (.new c.limits userToken)

/-- Ask the actor of a session. -/
def onSession {α : Type} (c : SubscriptionCacheInner E) (session : ℕ)
    (serve : SessionSubscriptions E → Except StatusCode α × SessionSubscriptions E) :
    Except StatusCode α × SubscriptionCacheInner E :=
  match c.sessionSubscriptions session with
  | none => (.error StatusCode.BadNoSubscription, c)
  | some subs =>
    let (result, subs) := serve subs
    (result, c.setSession session subs)

variable [DecidableEq E.NodeId] (c : SubscriptionCacheInner E)

def insertEntry (key : MonitoredItemKey E)
    (handle : MonitoredItemHandle) (entry : MonitoredItemEntry E) : SubscriptionCacheInner E :=
  { c with
    monitoredItems := update c.monitoredItems key
      (some (((c.monitoredItems key).getD ∅).insert handle entry)) }

/-- A node that is left without handles goes as well. -/
def removeEuRangeRegistration (handle : MonitoredItemHandle) : SubscriptionCacheInner E :=
  { c with
    euRangeMonitoredItems := fun node => (c.euRangeMonitoredItems node).bind fun handles =>
      if handles.erase handle = ∅ then none else some (handles.erase handle) }

def replaceEuRangeRegistration (handle : MonitoredItemHandle)
    (euRangeNodeId : Option E.NodeId) : SubscriptionCacheInner E :=
  let c := c.removeEuRangeRegistration handle
  match euRangeNodeId with
  | none => c
  | some node =>
    { c with
      euRangeMonitoredItems := update c.euRangeMonitoredItems node
        (some (insert handle ((c.euRangeMonitoredItems node).getD ∅))) }

/-- Forget one item in both maps. -/
def cleanupMonitoredItemRef (ref : MonitoredItemRef E) : SubscriptionCacheInner E :=
  let c := c.removeEuRangeRegistration ref.handle
  match c.monitoredItems ref.key with
  | none => c
  | some handles =>
    { c with
      monitoredItems := update c.monitoredItems ref.key
        (if (handles.erase ref.handle).keys.isEmpty then none
        else some (handles.erase ref.handle)) }

def cleanupMonitoredItemRefs (items : List (MonitoredItemRef E)) : SubscriptionCacheInner E :=
  items.foldl cleanupMonitoredItemRef c

def cleanupRemovedSubscription (removed : RemovedSubscription E) : SubscriptionCacheInner E :=
  { c with subscriptionToSession := update c.subscriptionToSession removed.id none
    }.cleanupMonitoredItemRefs removed.monitoredItems

def cleanupRemovedSubscriptions
    (removed : List (RemovedSubscription E)) : SubscriptionCacheInner E :=
  removed.foldl cleanupRemovedSubscription c

/-- What `delete_monitored_item_refs` does with an item that it has deleted: the handle goes from
the first map, whatever is left there, and the second map stays. -/
def removeHandle (ref : MonitoredItemRef E) : SubscriptionCacheInner E :=
  match c.monitoredItems ref.key with
  | none => c
  | some handles =>
    { c with
      monitoredItems := update c.monitoredItems ref.key
        (some (handles.erase ref.handle)) }

/-- Set the flag of an item in the first map. -/
def enable (mode : MonitoringMode) (ref : MonitoredItemRef E) : SubscriptionCacheInner E :=
  match c.monitoredItems ref.key with
  | none => c
  | some handles =>
    match handles.lookup ref.handle with
    | none => c
    | some entry =>
      { c with
        monitoredItems := update c.monitoredItems ref.key
          (some (handles.insert ref.handle
            { entry with enabled := decide (mode ≠ .disabled) })) }

def goodRefs (results : List (StatusCode × Option (MonitoredItemRef E))) :
    List (MonitoredItemRef E) :=
  results.filterMap fun result => if result.1.isGood then result.2 else none

def removedBy (ids : List ℕ) (results : List (StatusCode × List (MonitoredItemRef E))) :
    List (RemovedSubscription E) :=
  (results.zip ids).filterMap fun entry =>
    if entry.1.1.isGood then some ⟨entry.2, entry.1.2⟩ else none

/-! ### The services -/

structure CreateRequest (E : Externals) where
  item : MonitoredItem.CreateMonitoredItem E
  euRangeNodeId : Option E.NodeId

def indexCreated (subscriptionId : ℕ) (request : CreateRequest E) : SubscriptionCacheInner E :=
  (c.insertEntry ⟨request.item.itemToMonitor.nodeId, request.item.itemToMonitor.attributeId⟩
    ⟨subscriptionId, request.item.id⟩
    { enabled := decide (request.item.monitoringMode ≠ .disabled)
      indexRange := request.item.itemToMonitor.indexRange }).replaceEuRangeRegistration
        ⟨subscriptionId, request.item.id⟩ request.euRangeNodeId

def createMonitoredItems (c : SubscriptionCacheInner E) (session subscriptionId : ℕ) (now : ℤ)
    (requests : List (CreateRequest E)) :
    Except StatusCode (List MonitoredItemCreateResult) × SubscriptionCacheInner E :=
  match c.onSession session fun subs => subs.createMonitoredItems c.maxMonitoredItemsPerSub
    subscriptionId now (requests.map (·.item)) with
  | (.error status, c) => (.error status, c)
  | (.ok results, c) =>
    (.ok results,
      ((requests.zip results).filter fun entry => entry.2.statusCode.isGood).foldl
        (fun c entry => c.indexCreated subscriptionId entry.1) c)

def modifyMonitoredItems (c : SubscriptionCacheInner E) (session subscriptionId : ℕ) (now : ℤ)
    (requests : List (ℕ × MonitoredItem.ModifyRequest E)) (euRangeNodeIds : ℕ → Option E.NodeId) :
    Except StatusCode (List MonitoredItemUpdateRef) × SubscriptionCacheInner E :=
  match c.onSession session fun subs => subs.modifyMonitoredItems subscriptionId now requests with
  | (.error status, c) => (.error status, c)
  | (.ok updates, c) =>
    (.ok updates,
      (updates.filter fun update => update.statusCode.isGood).foldl
        (fun c update => c.replaceEuRangeRegistration update.handle
          (euRangeNodeIds update.handle.monitoredItemId)) c)

def setMonitoringMode (c : SubscriptionCacheInner E) (session subscriptionId : ℕ)
    (mode : MonitoringMode) (items : List ℕ) :
    Except StatusCode (List (StatusCode × Option (MonitoredItemRef E))) ×
      SubscriptionCacheInner E :=
  match c.onSession session fun subs => subs.setMonitoringMode subscriptionId mode items with
  | (.error status, c) => (.error status, c)
  | (.ok results, c) => (.ok results, (goodRefs results).foldl (fun c ref => c.enable mode ref) c)

def deleteMonitoredItems (c : SubscriptionCacheInner E) (session subscriptionId : ℕ)
    (items : List ℕ) :
    Except StatusCode (List (StatusCode × Option (MonitoredItemRef E))) ×
      SubscriptionCacheInner E :=
  match c.onSession session fun subs => subs.deleteMonitoredItems subscriptionId items with
  | (.error status, c) => (.error status, c)
  | (.ok results, c) => (.ok results, c.cleanupMonitoredItemRefs (goodRefs results))

def idsBySubscription (items : List (MonitoredItemRef E)) (visit : VisitOrder) :
    List (ℕ × List ℕ) :=
  (visit.order (items.map (·.subscriptionId)).toFinset).map fun subscriptionId =>
    (subscriptionId, (items.filter fun ref => ref.subscriptionId = subscriptionId).map
      (·.monitoredItemId))

/-- One subscription after the other, until one is not there. -/
def deleteGroups (session : ℕ) :
    List (ℕ × List ℕ) → SubscriptionCacheInner E →
    Except StatusCode (List (StatusCode × Option (MonitoredItemRef E))) × SubscriptionCacheInner E
  | [], c => (.ok [], c)
  | (subscriptionId, items) :: rest, c =>
    match c.onSession session fun subs => subs.deleteMonitoredItems subscriptionId items with
    | (.error status, c) => (.error status, c)
    | (.ok deleted, c) =>
      let (results, c) := deleteGroups session rest ((goodRefs deleted).foldl removeHandle c)
      (results.map fun results => deleted ++ results, c)

def deleteMonitoredItemRefs (session : ℕ) (visit : VisitOrder)
    (items : List (MonitoredItemRef E)) :
    Except StatusCode (List (StatusCode × Option (MonitoredItemRef E))) ×
      SubscriptionCacheInner E :=
  match c.sessionSubscriptions session with
  | none => (.error StatusCode.BadNoSubscription, c)
  | some _ => deleteGroups session (idsBySubscription items visit) c

def createSubscription (c : SubscriptionCacheInner E) (session : ℕ)
    (userToken : PersistentSessionKey) (request : CreateSubscriptionRequest E)
    (info : SubscriptionLimits E) (id nowInstant : ℕ) :
    Except StatusCode (CreateSubscriptionResponse E) × SubscriptionCacheInner E :=
  match (c.ensureSessionEntry session userToken).createSubscription request info id nowInstant with
  | (.error status, subs) => (.error status, c.setSession session subs)
  | (.ok response, subs) =>
    (.ok response,
      { c.setSession session subs with
        subscriptionToSession :=
          update c.subscriptionToSession response.subscriptionId (some session) })

def deleteSubscriptions (c : SubscriptionCacheInner E) (session : ℕ) (ids : List ℕ) :
    Except StatusCode (List (StatusCode × List (MonitoredItemRef E))) × SubscriptionCacheInner E :=
  match c.sessionSubscriptions session with
  | none => (.error StatusCode.BadNoSubscription, c)
  | some subs =>
    let (results, subs) := subs.deleteSubscriptions ids
    (.ok results,
      (c.setSession session subs).cleanupRemovedSubscriptions (removedBy ids results))

def transferOne (session : ℕ) (key : PersistentSessionKey)
    (sendInitialValues : Bool) (now : ℤ) (id : ℕ) :
    (StatusCode × Option (List ℕ)) × SubscriptionCacheInner E :=
  let unknown := (StatusCode.BadSubscriptionIdInvalid, none)
  match (c.subscriptionToSession id).bind fun owner =>
    (c.sessionSubscriptions owner).map fun source => (owner, source),
    c.sessionSubscriptions session with
  | none, _ | _, none => (unknown, c)
  | some (owner, source), some dest =>
    if session = owner then
      ((StatusCode.Good, dest.retransmissionQueue.availableSequenceNumbers id), c)
    else if !source.userToken.isEquivalentForTransfer key then
      ((StatusCode.BadUserAccessDenied, none), c)
    else
      match source.cloneForTransfer id with
      | none => (unknown, c)
      | some (sub, notifs) =>
        match dest.insertForTransfer sub notifs sendInitialValues id with
        | (.error status, dest) => ((status, none), c.setSession session dest)
        | (.ok (), dest) =>
          match source.markTransferring id with
          | (.error _, source) => (unknown, (c.setSession session dest).setSession owner source)
          | (.ok (), source) =>
            ((StatusCode.Good, some (notifs.map (·.message.sequenceNumber))),
              ({ (c.setSession session dest) with
                subscriptionToSession := update c.subscriptionToSession id (some session)
                }.setSession owner
                  (source.completeTransfer id sub.sequenceNumber.peekNext now)))

def transferEach (session : ℕ) (key : PersistentSessionKey) (sendInitialValues : Bool) (now : ℤ) :
    List ℕ → SubscriptionCacheInner E →
    List (StatusCode × Option (List ℕ)) × SubscriptionCacheInner E
  | [], c => ([], c)
  | id :: rest, c =>
    let (result, c) := c.transferOne session key sendInitialValues now id
    let (results, c) := transferEach session key sendInitialValues now rest c
    (result :: results, c)

def transfer (session : ℕ) (key : PersistentSessionKey)
    (sendInitialValues : Bool) (now : ℤ) (ids : List ℕ) :
    List (StatusCode × Option (List ℕ)) × SubscriptionCacheInner E :=
  transferEach session key sendInitialValues now ids
    (c.setSession session (c.ensureSessionEntry session key))

def timer (session : ℕ) (o : Occasion) : Except Fault (SubscriptionCacheInner E) :=
  match c.sessionSubscriptions session with
  | none => .ok c
  | some subs =>
    (subs.tick o .tickTimerFired).map fun (removed, subs) =>
      let cleaned := (c.setSession session subs).cleanupRemovedSubscriptions removed
      if subs.isReadyToDelete then
        { cleaned with
          sessionSubscriptions := update cleaned.sessionSubscriptions session none }
      else cleaned

/-- A service that leaves the maps alone. -/
def serve (session : ℕ) (op : SessionOp E) : Except Fault (SubscriptionCacheInner E) :=
  match c.sessionSubscriptions session with
  | none => .ok c
  | some subs => (op.apply subs).map fun subs => c.setSession session subs

def teardownSession (session : ℕ) : SubscriptionCacheInner E :=
  match c.sessionSubscriptions session with
  | none => c
  | some subs =>
    { c with
      sessionSubscriptions := update c.sessionSubscriptions session none
      subscriptionToSession := fun id =>
        if id ∈ subs.subscriptions then none else c.subscriptionToSession id
      }.cleanupMonitoredItemRefs subs.monitoredItemRefs

end SubscriptionCacheInner

/-! ### Calls -/

inductive CacheCall (E : Externals) where
  | createSubscription (session : ℕ) (userToken : PersistentSessionKey)
      (request : CreateSubscriptionRequest E) (info : SubscriptionLimits E) (id nowInstant : ℕ)
  | createMonitoredItems (session subscriptionId : ℕ) (now : ℤ)
      (requests : List (SubscriptionCacheInner.CreateRequest E))
  | modifyMonitoredItems (session subscriptionId : ℕ) (now : ℤ)
      (requests : List (ℕ × MonitoredItem.ModifyRequest E)) (euRangeNodeIds : ℕ → Option E.NodeId)
  | setMonitoringMode (session subscriptionId : ℕ) (mode : MonitoringMode) (items : List ℕ)
  | deleteMonitoredItems (session subscriptionId : ℕ) (items : List ℕ)
  | deleteMonitoredItemRefs (session : ℕ) (visit : VisitOrder) (items : List (MonitoredItemRef E))
  | deleteSubscriptions (session : ℕ) (ids : List ℕ)
  | transfer (session : ℕ) (key : PersistentSessionKey) (sendInitialValues : Bool) (now : ℤ)
      (ids : List ℕ)
  | timer (session : ℕ) (o : Occasion)
  | serve (session : ℕ) (op : SessionOp E) (keeps : op.KeepsItems)
  | teardownSession (session : ℕ)

def CacheCall.apply [DecidableEq E.NodeId] :
    CacheCall E → SubscriptionCacheInner E → Except Fault (SubscriptionCacheInner E)
  | .createSubscription session userToken request info id nowInstant, c =>
    .ok (c.createSubscription session userToken request info id nowInstant).2
  | .createMonitoredItems session subscriptionId now requests, c =>
    .ok (c.createMonitoredItems session subscriptionId now requests).2
  | .modifyMonitoredItems session subscriptionId now requests euRangeNodeIds, c =>
    .ok (c.modifyMonitoredItems session subscriptionId now requests euRangeNodeIds).2
  | .setMonitoringMode session subscriptionId mode items, c =>
    .ok (c.setMonitoringMode session subscriptionId mode items).2
  | .deleteMonitoredItems session subscriptionId items, c =>
    .ok (c.deleteMonitoredItems session subscriptionId items).2
  | .deleteMonitoredItemRefs session visit items, c =>
    .ok (c.deleteMonitoredItemRefs session visit items).2
  | .deleteSubscriptions session ids, c => .ok (c.deleteSubscriptions session ids).2
  | .transfer session key sendInitialValues now ids, c =>
    .ok (c.transfer session key sendInitialValues now ids).2
  | .timer session o, c => c.timer session o
  | .serve session op _, c => c.serve session op
  | .teardownSession session, c => .ok (c.teardownSession session)

/-- **Calls, one after the other.** -/
def cacheCalls (E : Externals) [DecidableEq E.NodeId] :
    Machine (SubscriptionCacheInner E) (CacheCall E) :=
  .failing CacheCall.apply

end AsyncOpcua.Subscriptions
