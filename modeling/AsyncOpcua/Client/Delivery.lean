/-
**Publishing: acknowledgements on their way, and notifications handed to callbacks.**

The callback of a subscription runs without the lock. For that time the subscription is replaced by
a placeholder with the same parameters and items; afterwards what became of the placeholder is
merged back.

* `collectClientDeliveryPacket`, `PendingClientDelivery.stage`, `deliver`, `restore` — one delivery;
* `SubscriptionOp` — what other tasks do to the subscriptions;
* `DeliveryWorld`, `deliveryMachine` — the publishes in flight and the delivery in progress, one
  lock section at a time.
-/

import AsyncOpcua.Client.PreInsert

namespace AsyncOpcua.Client

open Foundation Types
open Subscriptions (MonitoringMode)

variable {T : ClientTypes}

structure NotificationMessage (T : ClientTypes) where
  sequenceNumber : UInt32
  notificationData : Option (List T.ExtensionObject)

def notificationHasData (notification : NotificationMessage T) : Bool :=
  match notification.notificationData with
  | some data => !data.isEmpty
  | none => false

structure ClientDeliveryPacket (T : ClientTypes) where
  acknowledgementQueued : Bool
  notification : NotificationMessage T
  items : MonitoredItemMap T

namespace SubscriptionState

variable (s : SubscriptionState T)

def takeAcknowledgements : List SubscriptionAcknowledgement × SubscriptionState T :=
  (s.acknowledgements, { s with acknowledgements := [] })

def addAcknowledgement (subscriptionId sequenceNumber : UInt32) : SubscriptionState T :=
  { s with acknowledgements := s.acknowledgements ++ [⟨subscriptionId, sequenceNumber⟩] }

def reQueueAcknowledgements (acks : List SubscriptionAcknowledgement) : SubscriptionState T :=
  { s with acknowledgements := s.acknowledgements ++ acks }

def collectClientDeliveryPacket (subscriptionId : UInt32)
    (notification : NotificationMessage T) :
    Option (ClientDeliveryPacket T) × SubscriptionState T :=
  let hasData := notificationHasData notification
  let acknowledged :=
    if hasData then s.addAcknowledgement subscriptionId notification.sequenceNumber else s
  ((acknowledged.subscriptions.lookup subscriptionId).map fun subscription =>
    { acknowledgementQueued := hasData
      notification := notification
      items := ⟨subscription.monitoredItems, subscription.clientHandles⟩ }, acknowledged)

end SubscriptionState

/-- **A delivery in progress:** the subscription without its items, and the packet until it was
handed over. -/
structure PendingClientDelivery (T : ClientTypes) where
  subscription : Subscription T
  packet : Option (ClientDeliveryPacket T)

namespace PendingClientDelivery

/-- Take the subscription out, and leave a placeholder. -/
def stage (s : SubscriptionState T) (subscriptionId : UInt32) (packet : ClientDeliveryPacket T) :
    Option (PendingClientDelivery T) × SubscriptionState T :=
  match s.deleteSubscription subscriptionId with
  | (none, deleted) => (none, deleted)
  | (some subscription, deleted) =>
    (some { subscription := { subscription with monitoredItems := ∅, clientHandles := ∅ }
            packet := some packet },
      deleted.addSubscription { subscription with callback := none })

/-- Put the subscription back, with what the placeholder has become, unless that is gone. -/
def restore (delivery : PendingClientDelivery T) (s : SubscriptionState T) : SubscriptionState T :=
  match s.deleteSubscription delivery.subscription.subscriptionId with
  | (none, deleted) => deleted
  | (some current, deleted) =>
    deleted.addSubscription { delivery.subscription with
      publishingInterval := current.publishingInterval
      lifetimeCount := current.lifetimeCount
      maxKeepAliveCount := current.maxKeepAliveCount
      maxNotificationsPerPublish := current.maxNotificationsPerPublish
      publishingEnabled := current.publishingEnabled
      priority := current.priority
      monitoredItems := current.monitoredItems
      clientHandles := current.clientHandles }

end PendingClientDelivery

/-! ### What other tasks do -/

inductive ItemChange (T : ClientTypes)
  | insertTemporaryMonitoredItems (items : List (TempMonitoredItem T))
  | insertMonitoredItems (items : List (CreateMonitoredItem T))
  | clearTemporaryIds (ids : List (ℕ × Bool))
  | modifyMonitoredItems (items : List (ModifyMonitoredItem T))
  | deleteMonitoredItems (ids : List UInt32)
  | setTriggering (triggeringItemId : UInt32) (linksToAdd linksToRemove : List UInt32)
  | setMonitoringMode (ids : List UInt32) (monitoringMode : MonitoringMode)

inductive SubscriptionOp (T : ClientTypes)
  /-- A subscription is added with a callback. -/
  | add (subscription : Subscription T) (callback : T.Callback)
  | modify (subscriptionId : UInt32) (publishingInterval : Duration)
      (lifetimeCount maxKeepAliveCount maxNotificationsPerPublish : UInt32) (priority : UInt8)
  | setPublishingMode (subscriptionIds : List UInt32) (publishingEnabled : Bool)
  | delete (subscriptionId : UInt32)
  | items (subscriptionId : UInt32) (change : ItemChange T)

namespace SubscriptionState

def changeItems (s : SubscriptionState T) (subscriptionId : UInt32) :
    ItemChange T → SubscriptionState T
  | .insertTemporaryMonitoredItems items => s.insertTemporaryMonitoredItems items subscriptionId
  | .insertMonitoredItems items => s.insertMonitoredItems subscriptionId items
  | .clearTemporaryIds ids => s.clearTemporaryIds ids subscriptionId
  | .modifyMonitoredItems items => s.modifyMonitoredItems subscriptionId items
  | .deleteMonitoredItems ids => s.deleteMonitoredItems subscriptionId ids
  | .setTriggering id linksToAdd linksToRemove =>
    s.setTriggering subscriptionId id linksToAdd linksToRemove
  | .setMonitoringMode ids monitoringMode => s.setMonitoringMode subscriptionId ids monitoringMode

def applyOp (s : SubscriptionState T) : SubscriptionOp T → SubscriptionState T
  | .add subscription callback => s.addSubscription { subscription with callback := some callback }
  | .modify id interval lifetime keepAlive notifications priority =>
    s.modifySubscription id interval lifetime keepAlive notifications priority
  | .setPublishingMode ids publishingEnabled => s.setPublishingMode ids publishingEnabled
  | .delete id => (s.deleteSubscription id).2
  | .items id change => s.changeItems id change

end SubscriptionState

/-! ### Runs -/

/-- **The state, the publishes in flight, the delivery in progress,** and what the callbacks were
passed so far. -/
structure DeliveryWorld (T : ClientTypes) where
  client : SubscriptionState T
  /-- The acknowledgements that each publish in flight carries. -/
  flights : List (List SubscriptionAcknowledgement)
  delivery : Option (PendingClientDelivery T)
  passed : List (Option T.Callback × NotificationMessage T)

inductive DeliveryOp (T : ClientTypes)
  | publish
  /-- A publish fails, whether or not the server has seen it. -/
  | fail (index : ℕ)
  | respond (index : ℕ) (subscriptionId : UInt32) (notification : NotificationMessage T)
  | deliver
  | restore
  | other (op : SubscriptionOp T)

namespace DeliveryWorld

def new (minPublishInterval : Duration) : DeliveryWorld T where
  client := .new minPublishInterval
  flights := []
  delivery := none
  passed := []

def publish (w : DeliveryWorld T) : DeliveryWorld T :=
  let (acks, client) := w.client.takeAcknowledgements
  { w with client := client, flights := w.flights ++ [acks] }

/-- The response of a publish is processed, up to the delivery. -/
def respond (w : DeliveryWorld T) (index : ℕ) (subscriptionId : UInt32)
    (notification : NotificationMessage T) : DeliveryWorld T :=
  let rest := { w with flights := w.flights.eraseIdx index }
  match w.client.collectClientDeliveryPacket subscriptionId notification with
  | (none, client) => { rest with client := client }
  | (some packet, client) =>
    let (delivery, client) := PendingClientDelivery.stage client subscriptionId packet
    { rest with client := client, delivery := delivery }

/-- One lock section, or the run of a callback. Responses are processed one at a time. -/
def applyDeliveryOp (w : DeliveryWorld T) : DeliveryOp T → Option (DeliveryWorld T)
  | .publish => some w.publish
  | .fail index =>
    (w.flights[index]?).map fun acks =>
      { w with
        client := w.client.reQueueAcknowledgements acks
        flights := w.flights.eraseIdx index }
  | .respond index subscriptionId notification =>
    match w.delivery with
    | none =>
      if index < w.flights.length then some (w.respond index subscriptionId notification) else none
    | some _ => none
  | .deliver =>
    match w.delivery with
    | some ⟨subscription, some packet⟩ =>
      some { w with
        delivery := some ⟨subscription, none⟩
        passed := w.passed ++ [(subscription.callback, packet.notification)] }
    | _ => none
  | .restore =>
    match w.delivery with
    | some ⟨subscription, none⟩ =>
      some { w with
        client := PendingClientDelivery.restore ⟨subscription, none⟩ w.client
        delivery := none }
    | _ => none
  | .other op => some { w with client := w.client.applyOp op }

def deliveryMachine (T : ClientTypes) : Machine (DeliveryWorld T) (DeliveryOp T) where
  step := applyDeliveryOp

end DeliveryWorld

end AsyncOpcua.Client
