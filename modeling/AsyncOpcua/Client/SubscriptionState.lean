/-
**The subscriptions that a client knows, and what it derives from them.**

`publishLimits` is the value that was last sent on the watch channel. The multiplications of the
publish limits wrap around, as those of a release build.

* `calculatePublishLimits` — how many publish requests may be under way;
* `setKeepAliveTimeout`, `updatePublishLimits` — computed anew after a change;
* `addSubscription`, `modifySubscription`, `deleteSubscription`, `setPublishingMode` — the changes.
-/

import AsyncOpcua.Client.Subscription
import AsyncOpcua.Foundation.Binary32

namespace AsyncOpcua.Client

open Foundation Types
open Subscriptions (MonitoringMode Handle)

/-! ### Limits for publish requests -/

def usizeMax : ℕ := 2 ^ 64 - 1

/-- **Limits for publish requests,** calculated from the number of subscriptions, the publishing
interval and the message roundtrip time. -/
structure PublishLimits where
  messageRoundtrip : Duration
  publishInterval : Duration
  subscriptions : ℕ
  minPublishRequests : ℕ
  maxPublishRequests : ℕ

namespace PublishLimits

def minMessageRoundtrip : Duration := Duration.fromMillis 10

def requestsPerSubscription : ℕ := 2

def new : PublishLimits where
  messageRoundtrip := minMessageRoundtrip
  publishInterval := Duration.zero
  subscriptions := 0
  minPublishRequests := 0
  maxPublishRequests := 0

def intervalsPerRoundtrip (messageRoundtrip publishInterval : Duration) : ℕ :=
  (((Binary32.ofNat messageRoundtrip.asMillis).div
    (Binary32.ofNat publishInterval.asMillis)).ceil).toNat usizeMax

def calculatePublishLimits (limits : PublishLimits) : PublishLimits :=
  let minPublishRequests := limits.subscriptions * requestsPerSubscription % (usizeMax + 1)
  { limits with
    minPublishRequests := minPublishRequests
    maxPublishRequests :=
      if limits.publishInterval.isZero then minPublishRequests
      else intervalsPerRoundtrip limits.messageRoundtrip limits.publishInterval *
        minPublishRequests % (usizeMax + 1) }

def updateMessageRoundtrip (limits : PublishLimits) (messageRoundtrip : Duration) : PublishLimits :=
  calculatePublishLimits { limits with
    messageRoundtrip := Max.max messageRoundtrip minMessageRoundtrip }

def updateSubscriptions (limits : PublishLimits) (subscriptions : ℕ) (publishInterval : Duration) :
    PublishLimits :=
  calculatePublishLimits { limits with
    subscriptions := subscriptions, publishInterval := publishInterval }

end PublishLimits

/-! ### The state -/

structure SubscriptionAcknowledgement where
  subscriptionId : UInt32
  sequenceNumber : UInt32
  deriving DecidableEq

/-- **All known subscriptions in the session.** -/
structure SubscriptionState (T : ClientTypes) where
  acknowledgements : List SubscriptionAcknowledgement
  keepAliveTimeout : Option Duration
  minPublishInterval : Duration
  publishLimits : PublishLimits
  subscriptions : KeyedMap UInt32 (Subscription T)
  tempIdHandle : Handle

variable {T : ClientTypes}

namespace SubscriptionState

def new (minPublishInterval : Duration) : SubscriptionState T where
  acknowledgements := []
  keepAliveTimeout := none
  minPublishInterval := minPublishInterval
  publishLimits := .new
  subscriptions := ∅
  tempIdHandle := .new 0

/-- How long a subscription stays alive without a message. -/
def keepAlive (s : Subscription T) : Duration :=
  (s.publishingInterval.checkedMul s.maxKeepAliveCount).getD Duration.max

variable (s : SubscriptionState T)

def setKeepAliveTimeout : SubscriptionState T :=
  { s with keepAliveTimeout := (s.subscriptions.values.map keepAlive).min? }

def publishIntervals (subscriptions : KeyedMap UInt32 (Subscription T))
    (minPublishInterval : Duration) : List Duration :=
  (subscriptions.values.filter fun s => s.publishingEnabled).map fun s =>
    max s.publishingInterval minPublishInterval

def publishInterval : Duration :=
  ((publishIntervals s.subscriptions s.minPublishInterval).min?).getD Duration.zero

def updatePublishLimits : SubscriptionState T :=
  { s with publishLimits :=
      s.publishLimits.updateSubscriptions s.subscriptions.size s.publishInterval }

def addSubscription (subscription : Subscription T) : SubscriptionState T :=
  ({ s with subscriptions := s.subscriptions.insert subscription.subscriptionId subscription }
    ).setKeepAliveTimeout.updatePublishLimits

def modifySubscription (subscriptionId : UInt32)
    (publishingInterval : Duration)
    (lifetimeCount maxKeepAliveCount maxNotificationsPerPublish : UInt32) (priority : UInt8) :
    SubscriptionState T :=
  if subscriptionId ∈ s.subscriptions then
    ({ s with subscriptions := s.subscriptions.modify subscriptionId fun subscription =>
        { subscription with
          publishingInterval := publishingInterval
          lifetimeCount := lifetimeCount
          maxKeepAliveCount := maxKeepAliveCount
          maxNotificationsPerPublish := maxNotificationsPerPublish
          priority := priority } }).setKeepAliveTimeout
  else s

/-- What is removed, and the state without it. -/
def deleteSubscription (subscriptionId : UInt32) : Option (Subscription T) × SubscriptionState T :=
  (s.subscriptions.lookup subscriptionId,
    ({ s with subscriptions := s.subscriptions.erase subscriptionId }
      ).setKeepAliveTimeout.updatePublishLimits)

def setPublishingMode (subscriptionIds : List UInt32)
    (publishingEnabled : Bool) : SubscriptionState T :=
  subscriptionIds.foldl (fun s id =>
    { s with subscriptions := s.subscriptions.modify id fun subscription =>
      { subscription with publishingEnabled := publishingEnabled } }) s

/-! ### Monitored items -/

def onSubscription (subscriptionId : UInt32)
    (change : Subscription T → Subscription T) : SubscriptionState T :=
  { s with subscriptions := s.subscriptions.modify subscriptionId change }

def insertMonitoredItems (s : SubscriptionState T) (subscriptionId : UInt32)
    (itemsToCreate : List (CreateMonitoredItem T)) : SubscriptionState T :=
  s.onSubscription subscriptionId fun subscription =>
    subscription.insertMonitoredItems itemsToCreate

def modifyMonitoredItems (s : SubscriptionState T) (subscriptionId : UInt32)
    (itemsToModify : List (ModifyMonitoredItem T)) : SubscriptionState T :=
  s.onSubscription subscriptionId fun subscription =>
    subscription.modifyMonitoredItems itemsToModify

def deleteMonitoredItems (s : SubscriptionState T) (subscriptionId : UInt32)
    (itemsToDelete : List UInt32) : SubscriptionState T :=
  s.onSubscription subscriptionId fun subscription =>
    subscription.deleteMonitoredItems itemsToDelete

def setTriggering (s : SubscriptionState T) (subscriptionId triggeringItemId : UInt32)
    (linksToAdd linksToRemove : List UInt32) : SubscriptionState T :=
  s.onSubscription subscriptionId fun subscription =>
    subscription.setTriggering triggeringItemId linksToAdd linksToRemove

def setMonitoringMode (s : SubscriptionState T) (subscriptionId : UInt32)
    (monitoredItemIds : List UInt32) (monitoringMode : MonitoringMode) : SubscriptionState T :=
  s.onSubscription subscriptionId fun subscription =>
    subscription.setMonitoringMode monitoredItemIds monitoringMode

/-- The temporary ids, and whether their items were created. -/
def clearTemporaryIds (ids : List (ℕ × Bool)) (subscriptionId : UInt32) : SubscriptionState T :=
  s.onSubscription subscriptionId fun subscription =>
    ids.foldl (fun s id => s.clearTemporaryId (.temporary id.1) !id.2) subscription

def insertTemporaryMonitoredItems (items : List (TempMonitoredItem T))
    (subscriptionId : UInt32) : SubscriptionState T :=
  s.onSubscription subscriptionId fun subscription =>
    items.foldl Subscription.insertTemporaryMonitoredItem subscription

def nextTempIds (s : SubscriptionState T) : ℕ → List ℕ × SubscriptionState T
  | 0 => ([], s)
  | count + 1 =>
    let (id, handle) := s.tempIdHandle.issue
    let (ids, t) := nextTempIds { s with tempIdHandle := handle } count
    (id :: ids, t)

end SubscriptionState

end AsyncOpcua.Client
