/-
**Recreating the subscriptions of a session that was lost.**

The subscriptions that the server does not transfer are deleted and created anew, one after the
other: the subscription, its monitored items in chunks, and its triggering links. The server gives
ids to what is created and grants everything else as requested.

* `createSubscriptionInner`, `createMonitoredItems`, `setTriggering` — the calls, with what the
  server does for them.
-/

import AsyncOpcua.Client.PreInsert
import AsyncOpcua.Foundation.Cuts
import Mathlib.Data.Finset.Sort

namespace AsyncOpcua.Client

open Foundation Types PreInsertMonitoredItems
open Subscriptions (Handle u32Max)

variable {T : ClientTypes}

/-! ### The server -/

/-- **A server that accepts what it is asked for.** Its ids are those it gives when it is asked in
the place of an old subscription: to the subscription, and to its items in the order of the
requests. -/
structure AcceptingServer (T : ClientTypes) where
  subscriptionId : UInt32 → UInt32
  itemId : UInt32 → ℕ → UInt32
  filterResult : T.ExtensionObject
  /-- What it answers to links of an item, if it does. -/
  linkResults : UInt32 → UInt32 → List UInt32 → Option (List StatusCode)
  asRequested : T.isNull filterResult = true

/-- The interval in milliseconds, in floating point. -/
structure CreateSubscriptionRequest where
  requestedPublishingInterval : ℚ
  requestedLifetimeCount : UInt32
  requestedMaxKeepAliveCount : UInt32
  maxNotificationsPerPublish : UInt32
  publishingEnabled : Bool
  priority : UInt8

/-- A subscription as the server has it. Links lead from a triggering item to a triggered one. -/
structure ServedSubscription (T : ClientTypes) where
  request : CreateSubscriptionRequest
  items : List (UInt32 × MonitoredItemCreateRequest T)
  links : List (UInt32 × UInt32)

def AcceptingServer.granted (server : AcceptingServer T)
    (item : MonitoredItemCreateRequest T × UInt32) : MonitoredItemCreateResult T where
  statusCode := .Good
  monitoredItemId := item.2
  revisedSamplingInterval := item.1.samplingInterval
  revisedQueueSize := item.1.queueSize
  filterResult := server.filterResult

/-! ### Lengths of time on the wire -/

/-- `as_millis() as f64`. -/
def requestedInterval (d : Duration) : ℚ := Binary64.nearest d.asMillis

/-- The whole milliseconds of what the server has granted, as far as 64 bits go. -/
def grantedInterval (millis : ℚ) : Duration :=
  .fromMillis (UInt64.ofNat (min ⌊max millis 0⌋.toNat (2 ^ 64 - 1)))

/-! ### The calls -/

structure SessionHandles where
  handle : Handle
  first : handle.first = 1000
  low : 1000 ≤ handle.next
  high : handle.next ≤ u32Max

namespace SessionHandles

def next (handles : SessionHandles) : UInt32 × SessionHandles :=
  (UInt32.ofNat handles.handle.issue.1,
    { handle := handles.handle.issue.2
      first := handles.first
      low := by
        have := handles.low
        show 1000 ≤ if handles.handle.next = u32Max then handles.handle.first else _
        rw [handles.first]
        split_ifs <;> omega
      high := by
        have := handles.high
        show (if handles.handle.next = u32Max then handles.handle.first else _) ≤ u32Max
        rw [handles.first]
        split_ifs with last
        · decide
        · omega })

def named (handles : SessionHandles) :
    List (MonitoredItemCreateRequest T) → List (MonitoredItemCreateRequest T) × SessionHandles
  | [] => ([], handles)
  | item :: items =>
    if item.clientHandle = 0 then
      let (handle, handles) := handles.next
      let (items, handles) := handles.named items
      ({ item with clientHandle := handle } :: items, handles)
    else
      let (items, handles) := handles.named items
      (item :: items, handles)

end SessionHandles

structure RecreationWorld (T : ClientTypes) where
  client : SubscriptionState T
  served : KeyedMap UInt32 (ServedSubscription T)
  handles : SessionHandles

namespace RecreationWorld

/-- The parameters of a subscription, as they are sent. -/
def requestFor (subscription : Subscription T) : CreateSubscriptionRequest where
  requestedPublishingInterval := requestedInterval subscription.publishingInterval
  requestedLifetimeCount := subscription.lifetimeCount
  requestedMaxKeepAliveCount := subscription.maxKeepAliveCount
  maxNotificationsPerPublish := subscription.maxNotificationsPerPublish
  publishingEnabled := subscription.publishingEnabled
  priority := subscription.priority

/-- A subscription with the parameters and the callback of another one. -/
def createSubscriptionInner (w : RecreationWorld T) (subscriptionId : UInt32)
    (subscription : Subscription T) : RecreationWorld T :=
  let request := requestFor subscription
  { w with
    client := w.client.addSubscription
      { subscriptionId := subscriptionId
        publishingInterval := grantedInterval request.requestedPublishingInterval
        lifetimeCount := request.requestedLifetimeCount
        maxKeepAliveCount := request.requestedMaxKeepAliveCount
        maxNotificationsPerPublish := subscription.maxNotificationsPerPublish
        publishingEnabled := subscription.publishingEnabled
        priority := subscription.priority
        monitoredItems := ∅
        clientHandles := ∅
        callback := subscription.callback }
    served := w.served.insert subscriptionId { request := request, items := [], links := [] } }

variable (server : AcceptingServer T)

def createMonitoredItems (subscriptionId : UInt32)
    (w : RecreationWorld T) (items : List (MonitoredItemCreateRequest T × UInt32)) :
    RecreationWorld T :=
  if subscriptionId ∈ w.client.subscriptions then
    let (named, handles) := w.handles.named (items.map Prod.fst)
    let (inserted, client) := new w.client subscriptionId named
    if subscriptionId = 0 ∨ named = [] then
      { w with
        client := drop client subscriptionId
          (flags inserted [])
        handles := handles }
    else
      let created := named.zip (items.map Prod.snd)
      let results := created.map server.granted
      { client := drop
          (finish client subscriptionId inserted results) subscriptionId
          (flags inserted results)
        served := w.served.modify subscriptionId fun s =>
          { s with items := s.items ++ created.map Prod.swap }
        handles := handles }
  else w

def setTriggering (subscriptionId triggeringItemId : UInt32) (linksToAdd : List UInt32)
    (answered : Option (List StatusCode)) (w : RecreationWorld T) : RecreationWorld T :=
  if subscriptionId ∈ w.client.subscriptions ∧ subscriptionId ≠ 0 then
    match answered with
    | none => w
    | some results =>
      let added := ((linksToAdd.zip results).filter fun link => link.2.isGood).map Prod.fst
      { w with
        served := w.served.modify subscriptionId fun s =>
          { s with links := s.links ++ added.map fun link => (triggeringItemId, link) }
        client :=
          if results.length = linksToAdd.length then
            w.client.setTriggering subscriptionId triggeringItemId added []
          else w.client }
  else w

/-! ### Recreation -/

def itemToCreate (item : MonitoredItem T) : MonitoredItemCreateRequest T where
  itemToMonitor := item.itemToMonitor
  monitoringMode := item.monitoringMode
  clientHandle := item.clientHandle
  samplingInterval := item.samplingInterval
  filter := item.filter
  queueSize := UInt32.ofNat item.queueSize
  discardOldest := item.discardOldest

def itemsToCreate (oldId : UInt32) (subscription : Subscription T) :
    List (MonitoredItemCreateRequest T × UInt32) :=
  subscription.monitoredItems.values.mapIdx fun index item =>
    (itemToCreate item, server.itemId oldId index)

def linksOf (item : MonitoredItem T) : List UInt32 :=
  ((item.triggeredItems.image UInt32.toNat).sort).map UInt32.ofNat

def setLinks (oldId : UInt32) (w : RecreationWorld T)
    (item : MonitoredItem T) : RecreationWorld T :=
  let linksToAdd := linksOf item
  if linksToAdd = [] then w
  else
    w.setTriggering (server.subscriptionId oldId) item.id linksToAdd
      (server.linkResults oldId item.id linksToAdd)

def recreateSubscription (recreateMonitoredItemsChunk : ℕ)
    (w : RecreationWorld T) (oldId : UInt32) : RecreationWorld T :=
  match w.client.deleteSubscription oldId with
  | (none, client) => { w with client := client }
  | (some subscription, client) =>
    let created :=
      createSubscriptionInner { w with client := client } (server.subscriptionId oldId) subscription
    let filled :=
      (inChunks recreateMonitoredItemsChunk (itemsToCreate server oldId subscription)).foldl
      (createMonitoredItems server (server.subscriptionId oldId)) created
    subscription.monitoredItems.values.foldl (setLinks server oldId) filled

def transferred (subscriptionIds : List UInt32) (results : Option (List StatusCode)) :
    List UInt32 :=
  ((subscriptionIds.zip (results.getD [])).filter fun result => result.2.isGood).map Prod.fst

def transferSubscriptionsFromOldSession
    (recreateMonitoredItemsChunk : ℕ) (results : Option (List StatusCode)) (order : List UInt32)
    (w : RecreationWorld T) : RecreationWorld T :=
  let subscriptionIds := w.client.subscriptions.keys
  let started := { w with client := { w.client with acknowledgements := [] } }
  (order.filter fun id => id ∉ transferred subscriptionIds results).foldl
    (recreateSubscription server recreateMonitoredItemsChunk) started

end RecreationWorld

end AsyncOpcua.Client
