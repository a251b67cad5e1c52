/-
**The client's side of a subscription: monitored items, and the handles they are found by.**

A notification carries the handle that the client gave the item. The item is looked up by way of its
id, which is temporary until the server has confirmed the item.

* `insertExistingMonitoredItem`, `insertTemporaryMonitoredItem` — an item and its handle;
* `clearTemporaryId`, `deleteMonitoredItems` — out again;
* `MonitoredItemMap.get` — the item of a handle.
-/

import AsyncOpcua.Foundation.KeyedMap
import AsyncOpcua.Subscriptions.Subscription
import AsyncOpcua.Types.Duration

namespace AsyncOpcua.Client

open Foundation Types
open Subscriptions (MonitoringMode)

/-- What the client only stores and passes on. -/
structure ClientTypes where
  ReadValueId : Type
  ExtensionObject : Type
  isNull : ExtensionObject → Bool
  /-- A length of time that the server is asked for, in floating point. -/
  F64 : Type
  /-- The callbacks that users register. -/
  Callback : Type

/-- Nothing to store. -/
def plainTypes : ClientTypes := ⟨Unit, Unit, fun _ => true, Unit, Unit⟩

variable (T : ClientTypes)

structure MonitoredItem where
  id : UInt32
  clientHandle : UInt32
  itemToMonitor : T.ReadValueId
  queueSize : ℕ
  monitoringMode : MonitoringMode
  samplingInterval : T.F64
  triggeredItems : Finset UInt32
  discardOldest : Bool
  filter : T.ExtensionObject

inductive MonitoredItemId
  | temporary (id : ℕ)
  | server (id : UInt32)
  deriving DecidableEq

structure CreateMonitoredItem where
  id : UInt32
  clientHandle : UInt32
  itemToMonitor : T.ReadValueId
  monitoringMode : MonitoringMode
  queueSize : UInt32
  discardOldest : Bool
  samplingInterval : T.F64
  filter : T.ExtensionObject

structure ModifyMonitoredItem where
  id : UInt32
  samplingInterval : T.F64
  queueSize : UInt32
  filter : T.ExtensionObject

structure TempMonitoredItem where
  tempId : ℕ
  clientHandle : UInt32
  itemToMonitor : T.ReadValueId
  queueSize : UInt32
  monitoringMode : MonitoringMode
  samplingInterval : T.F64
  filter : T.ExtensionObject
  discardOldest : Bool

/-- **A subscription.** Without a callback it has the placeholder that does nothing,
`StagedSubscriptionCallback`. -/
structure Subscription where
  subscriptionId : UInt32
  publishingInterval : Duration
  lifetimeCount : UInt32
  maxKeepAliveCount : UInt32
  maxNotificationsPerPublish : UInt32
  publishingEnabled : Bool
  priority : UInt8
  monitoredItems : KeyedMap MonitoredItemId (MonitoredItem T)
  clientHandles : KeyedMap UInt32 MonitoredItemId
  callback : Option T.Callback

variable {T}

namespace MonitoredItem

def setTriggering (item : MonitoredItem T) (linksToAdd linksToRemove : List UInt32) :
    MonitoredItem T :=
  { item with triggeredItems := (item.triggeredItems \ linksToRemove.toFinset) ∪
    linksToAdd.toFinset }

end MonitoredItem

/-- The item of a request that the server has granted. -/
def confirmedItem (i : CreateMonitoredItem T) : MonitoredItem T where
  id := i.id
  clientHandle := i.clientHandle
  itemToMonitor := i.itemToMonitor
  queueSize := i.queueSize.toNat
  monitoringMode := i.monitoringMode
  samplingInterval := i.samplingInterval
  triggeredItems := ∅
  discardOldest := i.discardOldest
  filter := i.filter

/-- The item of a request that the server has not answered. -/
def temporaryItem (item : TempMonitoredItem T) : MonitoredItem T where
  id := 0
  clientHandle := item.clientHandle
  itemToMonitor := item.itemToMonitor
  queueSize := item.queueSize.toNat
  monitoringMode := item.monitoringMode
  samplingInterval := item.samplingInterval
  triggeredItems := ∅
  discardOldest := item.discardOldest
  filter := item.filter

open List

namespace Subscription

def new (subscriptionId : UInt32) (publishingInterval : Duration)
    (lifetimeCount maxKeepAliveCount maxNotificationsPerPublish : UInt32) (priority : UInt8)
    (publishingEnabled : Bool) (callback : T.Callback) : Subscription T where
  subscriptionId := subscriptionId
  publishingInterval := publishingInterval
  lifetimeCount := lifetimeCount
  maxKeepAliveCount := maxKeepAliveCount
  maxNotificationsPerPublish := maxNotificationsPerPublish
  publishingEnabled := publishingEnabled
  priority := priority
  monitoredItems := ∅
  clientHandles := ∅
  callback := some callback

variable (s : Subscription T)

def insertExistingMonitoredItem (item : MonitoredItem T) : Subscription T :=
  { s with
    monitoredItems := s.monitoredItems.insert (.server item.id) item
    clientHandles := s.clientHandles.insert item.clientHandle (.server item.id) }

def insertMonitoredItems (itemsToCreate : List (CreateMonitoredItem T)) : Subscription T :=
  itemsToCreate.foldl (fun s i => s.insertExistingMonitoredItem (confirmedItem i)) s

def modifyMonitoredItems (itemsToModify : List (ModifyMonitoredItem T)) : Subscription T :=
  itemsToModify.foldl (fun s i =>
    { s with monitoredItems := s.monitoredItems.modify (.server i.id) fun item =>
      { item with
        samplingInterval := i.samplingInterval
        queueSize := i.queueSize.toNat
        filter := i.filter } }) s

def remove (id : MonitoredItemId) (removeHandle : Bool) : Subscription T :=
  match s.monitoredItems.lookup id with
  | none => s
  | some item =>
    { s with
      monitoredItems := s.monitoredItems.erase id
      clientHandles :=
        if removeHandle then s.clientHandles.erase item.clientHandle else s.clientHandles }

def deleteMonitoredItems (itemsToDelete : List UInt32) : Subscription T :=
  itemsToDelete.foldl (fun s id => s.remove (.server id) true) s

def setTriggering (s : Subscription T) (triggeringItemId : UInt32)
    (linksToAdd linksToRemove : List UInt32) : Subscription T :=
  { s with monitoredItems := s.monitoredItems.modify (.server triggeringItemId) fun item =>
    item.setTriggering linksToAdd linksToRemove }

def setMonitoringMode (monitoredItemIds : List UInt32)
    (monitoringMode : MonitoringMode) : Subscription T :=
  monitoredItemIds.foldl (fun s id =>
    { s with monitoredItems := s.monitoredItems.modify (.server id) fun item =>
      { item with monitoringMode := monitoringMode } }) s

def clearTemporaryId (tempId : MonitoredItemId) (removeHandle : Bool) : Subscription T :=
  s.remove tempId removeHandle

def insertTemporaryMonitoredItem (item : TempMonitoredItem T) : Subscription T :=
  { s with
    monitoredItems := s.monitoredItems.insert (.temporary item.tempId) (temporaryItem item)
    clientHandles := s.clientHandles.insert item.clientHandle (.temporary item.tempId) }

/-! ### What the operations do to the two maps -/

def handleOf (id : MonitoredItemId) : Option UInt32 :=
  (s.monitoredItems.lookup id).map MonitoredItem.clientHandle

def idOf (handle : UInt32) : Option MonitoredItemId :=
  s.clientHandles.lookup handle

/-- Every item that the server has confirmed is kept under its own id. -/
def Named : Prop :=
  ∀ id item, s.monitoredItems.lookup (.server id) = some item → item.id = id

/-- Put an item under an id, and let its handle lead there. -/
def place (entry : MonitoredItemId × MonitoredItem T) : Subscription T :=
  { s with
    monitoredItems := s.monitoredItems.insert entry.1 entry.2
    clientHandles := s.clientHandles.insert entry.2.clientHandle entry.1 }

def placeAll (entries : List (MonitoredItemId × MonitoredItem T)) : Subscription T :=
  entries.foldl place s

theorem insertMonitoredItems_eq (items : List (CreateMonitoredItem T)) :
    s.insertMonitoredItems items =
      s.placeAll (items.map fun i => (.server i.id, confirmedItem i)) := by
  rw [placeAll, foldl_map]
  rfl

theorem insertTemporaryMonitoredItems_eq (items : List (TempMonitoredItem T)) :
    items.foldl insertTemporaryMonitoredItem s =
      s.placeAll (items.map fun item => (.temporary item.tempId, temporaryItem item)) := by
  rw [placeAll, foldl_map]
  rfl

section Place

variable {s : Subscription T} {entries : List (MonitoredItemId × MonitoredItem T)}

theorem lookup_placeAll_of_not_mem {id : MonitoredItemId} (other : id ∉ entries.map Prod.fst) :
    (s.placeAll entries).monitoredItems.lookup id = s.monitoredItems.lookup id := by
  induction entries generalizing s with
  | nil => rfl
  | cons entry entries ih =>
    rw [map_cons, mem_cons, not_or] at other
    exact (ih other.2).trans (AList.lookup_insert_ne other.1)

variable {entry : MonitoredItemId × MonitoredItem T}

theorem lookup_placeAll_of_mem (distinct : (entries.map Prod.fst).Nodup) (here : entry ∈ entries) :
    (s.placeAll entries).monitoredItems.lookup entry.1 = some entry.2 := by
  induction entries generalizing s with
  | nil => exact absurd here not_mem_nil
  | cons first entries ih =>
    rw [map_cons, nodup_cons] at distinct
    rcases mem_cons.mp here with rfl | later
    · exact (lookup_placeAll_of_not_mem distinct.1).trans (AList.lookup_insert _)
    · exact ih distinct.2 later

theorem idOf_placeAll_of_not_mem {handle : UInt32}
    (other : handle ∉ entries.map fun entry => entry.2.clientHandle) :
    (s.placeAll entries).idOf handle = s.idOf handle := by
  induction entries generalizing s with
  | nil => rfl
  | cons entry entries ih =>
    rw [map_cons, mem_cons, not_or] at other
    exact (ih other.2).trans (AList.lookup_insert_ne other.1)

theorem idOf_placeAll_of_mem (distinct : (entries.map fun entry => entry.2.clientHandle).Nodup)
    (here : entry ∈ entries) : (s.placeAll entries).idOf entry.2.clientHandle = some entry.1 := by
  induction entries generalizing s with
  | nil => exact absurd here not_mem_nil
  | cons first entries ih =>
    rw [map_cons, nodup_cons] at distinct
    rcases mem_cons.mp here with rfl | later
    · exact (idOf_placeAll_of_not_mem distinct.1).trans (AList.lookup_insert _)
    · exact ih distinct.2 later

theorem handleOf_placeAll_of_not_mem {id : MonitoredItemId} (other : id ∉ entries.map Prod.fst) :
    (s.placeAll entries).handleOf id = s.handleOf id := by
  rw [handleOf, handleOf, lookup_placeAll_of_not_mem other]

theorem handleOf_placeAll_of_mem (distinct : (entries.map Prod.fst).Nodup)
    (here : entry ∈ entries) :
    (s.placeAll entries).handleOf entry.1 = some entry.2.clientHandle := by
  rw [handleOf, lookup_placeAll_of_mem distinct here]
  rfl

end Place

section Remove

variable {s : Subscription T}

def removeAll (s : Subscription T) (ids : List (MonitoredItemId × Bool)) : Subscription T :=
  ids.foldl (fun s id => s.remove id.1 id.2) s

theorem removeAll_cons (s : Subscription T) (id : MonitoredItemId × Bool)
    (ids : List (MonitoredItemId × Bool)) :
    s.removeAll (id :: ids) = (s.remove id.1 id.2).removeAll ids := rfl

theorem lookup_remove (s : Subscription T) (id other : MonitoredItemId) (removeHandle : Bool) :
    (s.remove id removeHandle).monitoredItems.lookup other =
      if other = id then none else s.monitoredItems.lookup other := by
  cases found : s.monitoredItems.lookup id with
  | none =>
    have unchanged : s.remove id removeHandle = s := by simp [remove, found]
    rw [unchanged]
    split_ifs with same
    · rw [same, found]
    · rfl
  | some item =>
    have erased : (s.remove id removeHandle).monitoredItems = s.monitoredItems.erase id := by
      simp [remove, found]
    rw [erased]
    exact KeyedMap.lookup_erase_eq _ _ _

theorem idOf_remove (s : Subscription T) (id : MonitoredItemId) (removeHandle : Bool)
    (handle : UInt32) : (s.remove id removeHandle).idOf handle =
      if removeHandle = true ∧ s.handleOf id = some handle then none else s.idOf handle := by
  cases found : s.monitoredItems.lookup id with
  | none => simp [remove, handleOf, found]
  | some item =>
    cases removeHandle with
    | false => simp [remove, idOf, found]
    | true =>
      have erased : (s.remove id true).idOf handle =
          (s.clientHandles.erase item.clientHandle).lookup handle := by
        simp [remove, idOf, found]
      rw [erased, KeyedMap.lookup_erase_eq, handleOf, found]
      simp [idOf, eq_comm]

section

variable (s : Subscription T) (ids : List (MonitoredItemId × Bool)) (other : MonitoredItemId)

theorem lookup_removeAll : (s.removeAll ids).monitoredItems.lookup other =
      if other ∈ ids.map Prod.fst then none else s.monitoredItems.lookup other := by
  induction ids generalizing s with
  | nil => rfl
  | cons id ids ih =>
    rw [removeAll_cons, ih, lookup_remove, map_cons]
    by_cases here : other = id.1
    · simp [here]
    · simp [here]

theorem handleOf_removeAll : (s.removeAll ids).handleOf other =
      if other ∈ ids.map Prod.fst then none else s.handleOf other := by
  rw [handleOf, lookup_removeAll, handleOf]
  split_ifs <;> rfl

end

variable {ids : List (MonitoredItemId × Bool)} {handle : UInt32}

theorem idOf_removeAll_of_not_mem
    (other : ∀ id ∈ ids, id.2 = true → s.handleOf id.1 ≠ some handle) :
    (s.removeAll ids).idOf handle = s.idOf handle := by
  induction ids generalizing s with
  | nil => rfl
  | cons id ids ih =>
    have first := other id mem_cons_self
    rw [removeAll_cons, ih, idOf_remove, if_neg fun both => first both.1 both.2]
    intro later here removed
    rw [handleOf, lookup_remove]
    split_ifs
    · exact nofun
    · exact other later (mem_cons_of_mem _ here) removed

theorem idOf_removeAll_le {id : MonitoredItemId} (kept : (s.removeAll ids).idOf handle = some id) :
    s.idOf handle = some id := by
  induction ids generalizing s with
  | nil => exact kept
  | cons first ids ih =>
    have before := ih kept
    rw [idOf_remove] at before
    split_ifs at before
    exact before

theorem idOf_removeAll_of_mem (alike : ∀ a ∈ ids, ∀ b ∈ ids, a.1 = b.1 → a.2 = b.2)
    {id : MonitoredItemId} (here : (id, true) ∈ ids) (has : s.handleOf id = some handle) :
    (s.removeAll ids).idOf handle = none := by
  induction ids generalizing s with
  | nil => exact absurd here not_mem_nil
  | cons first ids ih =>
    rw [removeAll_cons]
    by_cases same : id = first.1
    · have removed : first.2 = true :=
        (alike _ mem_cons_self _ here same.symm)
      have gone : (s.remove first.1 first.2).idOf handle = none := by
        rw [idOf_remove, if_pos ⟨removed, same ▸ has⟩]
      by_contra kept
      obtain ⟨other, kept⟩ := Option.ne_none_iff_exists'.mp kept
      rw [idOf_removeAll_le kept] at gone
      cases gone
    · have later : (id, true) ∈ ids := by
        rcases mem_cons.mp here with rfl | later
        · exact absurd rfl same
        · exact later
      refine ih (fun a inA b inB => alike a (mem_cons_of_mem _ inA) b
        (mem_cons_of_mem _ inB)) later ?_
      rw [handleOf, lookup_remove, if_neg same]
      exact has

end Remove

variable {change : MonitoredItem T → MonitoredItem T}

theorem handleOf_modify (id other : MonitoredItemId)
    (same : ∀ item, (change item).clientHandle = item.clientHandle) :
    Subscription.handleOf { s with monitoredItems := s.monitoredItems.modify id change } other =
      s.handleOf other := by
  rw [handleOf, KeyedMap.lookup_modify, handleOf]
  split_ifs
  · cases s.monitoredItems.lookup other with
    | none => rfl
    | some item => exact congrArg some (same item)
  · rfl

section

variable {s : Subscription T} (named : s.Named)
include named

theorem Named.modify (id : MonitoredItemId) (same : ∀ item, (change item).id = item.id) :
    Subscription.Named { s with monitoredItems := s.monitoredItems.modify id change } := by
  intro server item found
  rw [KeyedMap.lookup_modify] at found
  split_ifs at found
  · obtain ⟨before, there, rfl⟩ := Option.map_eq_some_iff.mp found
    exact (same before).trans (named server before there)
  · exact named server item found

theorem Named.placeAll {entries : List (MonitoredItemId × MonitoredItem T)}
    (each : ∀ entry ∈ entries, ∀ id, entry.1 = .server id → entry.2.id = id) :
    (s.placeAll entries).Named := by
  induction entries generalizing s with
  | nil => exact named
  | cons entry entries ih =>
    refine ih ?_ fun later here => each later (mem_cons_of_mem _ here)
    intro id item found
    rw [place, KeyedMap.lookup_insert_eq] at found
    split_ifs at found with same
    · cases found
      exact each entry mem_cons_self id same.symm
    · exact named id item found

theorem Named.removeAll (ids : List (MonitoredItemId × Bool)) : (s.removeAll ids).Named := by
  intro id item found
  rw [lookup_removeAll] at found
  split_ifs at found
  exact named id item found

end

end Subscription

/-- The items of a subscription as its callback sees them. -/
structure MonitoredItemMap (T : ClientTypes) where
  monitoredItems : KeyedMap MonitoredItemId (MonitoredItem T)
  clientHandles : KeyedMap UInt32 MonitoredItemId

def MonitoredItemMap.get (map : MonitoredItemMap T) (clientHandle : UInt32) :
    Option (MonitoredItem T) :=
  (map.clientHandles.lookup clientHandle).bind fun id => map.monitoredItems.lookup id

end AsyncOpcua.Client
