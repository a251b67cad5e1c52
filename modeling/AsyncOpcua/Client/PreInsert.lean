/-
**Creating, modifying and deleting monitored items, between the client and its server.**

An item that is about to be created is inserted before the request is sent, under a temporary id.
The lock is not held while the server is asked, and it is released once more between the insertion
of the items that were created and the removal of the temporary ids.

* `applyItemOp` — one step of a call, on either side.
-/

import AsyncOpcua.Client.SubscriptionState
import AsyncOpcua.Foundation.Transition

namespace AsyncOpcua.Client

open Foundation Types
open Subscriptions (MonitoringMode)

variable {T : ClientTypes}

/-- A request for an item. A handle of zero has already been replaced by the next of the session. -/
structure MonitoredItemCreateRequest (T : ClientTypes) where
  itemToMonitor : T.ReadValueId
  monitoringMode : MonitoringMode
  clientHandle : UInt32
  samplingInterval : T.F64
  filter : T.ExtensionObject
  queueSize : UInt32
  discardOldest : Bool

structure MonitoredItemCreateResult (T : ClientTypes) where
  statusCode : StatusCode
  monitoredItemId : UInt32
  revisedSamplingInterval : T.F64
  revisedQueueSize : UInt32
  filterResult : T.ExtensionObject

structure MonitoredItemModifyRequest (T : ClientTypes) where
  monitoredItemId : UInt32
  clientHandle : UInt32
  samplingInterval : T.F64
  filter : T.ExtensionObject
  queueSize : UInt32

structure MonitoredItemModifyResult (T : ClientTypes) where
  statusCode : StatusCode
  revisedSamplingInterval : T.F64
  revisedQueueSize : UInt32
  filterResult : T.ExtensionObject

def usedFilter (requested result : T.ExtensionObject) : T.ExtensionObject :=
  if T.isNull result then requested else result

namespace PreInsertMonitoredItems

def tempItem (item : ℕ × MonitoredItemCreateRequest T) : TempMonitoredItem T where
  tempId := item.1
  clientHandle := item.2.clientHandle
  itemToMonitor := item.2.itemToMonitor
  queueSize := item.2.queueSize
  monitoringMode := item.2.monitoringMode
  samplingInterval := item.2.samplingInterval
  filter := item.2.filter
  discardOldest := item.2.discardOldest

def new (s : SubscriptionState T) (subscriptionId : UInt32)
    (items : List (MonitoredItemCreateRequest T)) :
    List (ℕ × MonitoredItemCreateRequest T) × SubscriptionState T :=
  let (ids, s) := s.nextTempIds items.length
  let inserted := ids.zip items
  (inserted, s.insertTemporaryMonitoredItems (inserted.map tempItem) subscriptionId)

def createdItem (item : (ℕ × MonitoredItemCreateRequest T) × MonitoredItemCreateResult T) :
    CreateMonitoredItem T where
  id := item.2.monitoredItemId
  clientHandle := item.1.2.clientHandle
  itemToMonitor := item.1.2.itemToMonitor
  monitoringMode := item.1.2.monitoringMode
  queueSize := item.2.revisedQueueSize
  discardOldest := item.1.2.discardOldest
  samplingInterval := item.2.revisedSamplingInterval
  filter := usedFilter item.1.2.filter item.2.filterResult

def created (items : List (ℕ × MonitoredItemCreateRequest T))
    (results : List (MonitoredItemCreateResult T)) :
    List ((ℕ × MonitoredItemCreateRequest T) × MonitoredItemCreateResult T) :=
  (items.zip results).filter fun item => item.2.statusCode.isGood

/-- `finish`, up to its end, where the helper is dropped. -/
def finish (s : SubscriptionState T) (subscriptionId : UInt32)
    (items : List (ℕ × MonitoredItemCreateRequest T))
    (results : List (MonitoredItemCreateResult T)) :
    SubscriptionState T :=
  s.insertMonitoredItems subscriptionId ((created items results).map createdItem)

/-- Which of the items were created. Those without a result were not. -/
def flags (items : List (ℕ × MonitoredItemCreateRequest T))
    (results : List (MonitoredItemCreateResult T)) : List (ℕ × Bool) :=
  ((items.zip results).map fun item => (item.1.1, item.2.statusCode.isGood)) ++
    (items.drop results.length).map fun item => (item.1, false)

/-- `drop`: the temporary ids go, and the handles of the items that were not created. -/
def drop (s : SubscriptionState T) (subscriptionId : UInt32) (ids : List (ℕ × Bool)) :
    SubscriptionState T :=
  s.clearTemporaryIds ids subscriptionId

end PreInsertMonitoredItems

/-- The changes that the results of a modification stand for. The handles and the statuses are not
looked at. -/
def modifications (items : List (MonitoredItemModifyRequest T))
    (results : List (MonitoredItemModifyResult T)) : List (ModifyMonitoredItem T) :=
  (items.zip results).map fun item =>
    { id := item.1.monitoredItemId
      queueSize := item.2.revisedQueueSize
      samplingInterval := item.2.revisedSamplingInterval
      filter := usedFilter item.1.filter item.2.filterResult }

/-! ### Calls in progress -/

/-- **A call in progress,** with what the server has answered if it has. -/
inductive ItemCall (T : ClientTypes)
  | create (items : List (ℕ × MonitoredItemCreateRequest T))
      (results : Option (List (MonitoredItemCreateResult T)))
  /-- The created items are in, the temporary ids are not yet out. -/
  | finished (ids : List (ℕ × Bool))
  | modify (items : List (MonitoredItemModifyRequest T))
      (results : Option (List (MonitoredItemModifyResult T)))
  | delete (ids : List UInt32) (results : Option (List StatusCode))

structure ItemWorld (T : ClientTypes) where
  client : SubscriptionState T
  /-- For each subscription, the handle of each item that lives on the server. -/
  live : UInt32 → UInt32 → Option UInt32
  /-- The calls in progress, each with its subscription. -/
  calls : KeyedMap ℕ (UInt32 × ItemCall T)

namespace ItemWorld

def new (minPublishInterval : Duration) : ItemWorld T where
  client := .new minPublishInterval
  live _ _ := none
  calls := ∅

/-- One step. A call is known by a number; its steps are its begin, the work of the server, and what
the client does with the response. A call that fails ends without a response. A subscription is
recreated by deleting it, adding one under another id and creating its items. -/
inductive ItemOp (T : ClientTypes)
  | addSubscription (subscription : Subscription T)
  | deleteSubscription (subscriptionId : UInt32)
  | create (call : ℕ) (subscriptionId : UInt32) (items : List (MonitoredItemCreateRequest T))
  | createServed (call : ℕ) (results : List (MonitoredItemCreateResult T))
  | createFinish (call : ℕ)
  | createDrop (call : ℕ)
  | modify (call : ℕ) (subscriptionId : UInt32) (items : List (MonitoredItemModifyRequest T))
  | modifyServed (call : ℕ) (results : List (MonitoredItemModifyResult T))
  | modifyFinish (call : ℕ)
  | delete (call : ℕ) (subscriptionId : UInt32) (ids : List UInt32)
  | deleteServed (call : ℕ) (results : List StatusCode)
  | deleteFinish (call : ℕ)
  | abandon (call : ℕ)

/-- Some items of a subscription get handles, or are gone. -/
def setLive (live : UInt32 → UInt32 → Option UInt32) (subscriptionId : UInt32)
    (changes : List (UInt32 × Option UInt32)) : UInt32 → UInt32 → Option UInt32 :=
  changes.foldl (fun live change => Function.update live subscriptionId
    (Function.update (live subscriptionId) change.1 change.2)) live

def servedCreate (items : List (ℕ × MonitoredItemCreateRequest T))
    (results : List (MonitoredItemCreateResult T)) : List (UInt32 × Option UInt32) :=
  (PreInsertMonitoredItems.created items results).map fun item =>
    (item.2.monitoredItemId, some item.1.2.clientHandle)

def servedModify (items : List (MonitoredItemModifyRequest T))
    (results : List (MonitoredItemModifyResult T)) : List (UInt32 × Option UInt32) :=
  ((items.zip results).filter fun item => item.2.statusCode.isGood).map fun item =>
    (item.1.monitoredItemId, some item.1.clientHandle)

/-- What the server does with a request to delete. -/
def servedDelete (ids : List UInt32) (results : List StatusCode) : List (UInt32 × Option UInt32) :=
  ((ids.zip results).filter fun item => item.2.isGood).map fun item => (item.1, none)

def begin (w : ItemWorld T) (call : ℕ) (subscriptionId : UInt32) (request : ItemCall T) :
    ItemWorld T :=
  { w with calls := w.calls.insert call (subscriptionId, request) }

/-- The server handles a call. -/
def served (w : ItemWorld T) (call : ℕ) (subscriptionId : UInt32) (answered : ItemCall T)
    (changes : List (UInt32 × Option UInt32)) : ItemWorld T :=
  { w.begin call subscriptionId answered with live := setLive w.live subscriptionId changes }

def finish (w : ItemWorld T) (call : ℕ) (client : SubscriptionState T) : ItemWorld T :=
  { w with client := client, calls := w.calls.erase call }

def applyItemOp (w : ItemWorld T) : ItemOp T → Option (ItemWorld T)
  | .addSubscription subscription =>
    some { w with client := w.client.addSubscription subscription }
  | .deleteSubscription subscriptionId =>
    some { w with client := (w.client.deleteSubscription subscriptionId).2 }
  | .create call subscriptionId items =>
    if call ∈ w.calls then none
    else
      let (inserted, client) := PreInsertMonitoredItems.new w.client subscriptionId items
      some ({ w with client := client }.begin call subscriptionId (.create inserted none))
  | .createServed call results =>
    match w.calls.lookup call with
    | some (subscriptionId, .create items none) =>
      some (w.served call subscriptionId (.create items (some results))
        (servedCreate items results))
    | _ => none
  | .createFinish call =>
    match w.calls.lookup call with
    | some (subscriptionId, .create items (some results)) =>
      some ({ w with client := PreInsertMonitoredItems.finish w.client subscriptionId items results
        }.begin call subscriptionId (.finished (PreInsertMonitoredItems.flags items results)))
    | _ => none
  | .createDrop call =>
    match w.calls.lookup call with
    | some (subscriptionId, .create items _) =>
      some (w.finish call (PreInsertMonitoredItems.drop w.client subscriptionId
        (items.map fun item => (item.1, false))))
    | some (subscriptionId, .finished ids) =>
      some (w.finish call (PreInsertMonitoredItems.drop w.client subscriptionId ids))
    | _ => none
  | .modify call subscriptionId items =>
    if call ∈ w.calls then none else some (w.begin call subscriptionId (.modify items none))
  | .modifyServed call results =>
    match w.calls.lookup call with
    | some (subscriptionId, .modify items none) =>
      some (w.served call subscriptionId (.modify items (some results))
        (servedModify items results))
    | _ => none
  | .modifyFinish call =>
    match w.calls.lookup call with
    | some (subscriptionId, .modify items (some results)) =>
      some (w.finish call
        (w.client.modifyMonitoredItems subscriptionId (modifications items results)))
    | _ => none
  | .delete call subscriptionId ids =>
    if call ∈ w.calls then none else some (w.begin call subscriptionId (.delete ids none))
  | .deleteServed call results =>
    match w.calls.lookup call with
    | some (subscriptionId, .delete ids none) =>
      some (w.served call subscriptionId (.delete ids (some results)) (servedDelete ids results))
    | _ => none
  | .deleteFinish call =>
    match w.calls.lookup call with
    | some (subscriptionId, .delete ids (some _)) =>
      some (w.finish call (w.client.deleteMonitoredItems subscriptionId ids))
    | _ => none
  | .abandon call =>
    match w.calls.lookup call with
    | some (_, .modify _ _) | some (_, .delete _ _) => some (w.finish call w.client)
    | _ => none

def itemMachine (T : ClientTypes) : Machine (ItemWorld T) (ItemOp T) where
  step := applyItemOp

end ItemWorld

end AsyncOpcua.Client
