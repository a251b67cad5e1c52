/-
**When recreated subscriptions are equivalent to the lost ones.**

The items of the new subscription are those that were requested, under the ids that the server gives
them. The links are requested for the ids of the old items, which none of them has.

* `subscriptions_recreated_iff` — exactly when the new subscription is equivalent to the lost one.
-/

import AsyncOpcua.Client.ItemHandles
import AsyncOpcua.Client.Recreation

namespace AsyncOpcua.Client

open Foundation Types AList MonitoredItemId MonitoredItem PreInsertMonitoredItems Or

variable {T : ClientTypes}

/-! ### Equivalent subscriptions -/

structure SubscriptionParameters where
  publishingInterval : Duration
  lifetimeCount : UInt32
  maxKeepAliveCount : UInt32
  maxNotificationsPerPublish : UInt32
  publishingEnabled : Bool
  priority : UInt8

def CreateSubscriptionRequest.granted (request : CreateSubscriptionRequest) :
    SubscriptionParameters where
  publishingInterval := grantedInterval request.requestedPublishingInterval
  lifetimeCount := request.requestedLifetimeCount
  maxKeepAliveCount := request.requestedMaxKeepAliveCount
  maxNotificationsPerPublish := request.maxNotificationsPerPublish
  publishingEnabled := request.publishingEnabled
  priority := request.priority

def MonitoredItem.settings (item : MonitoredItem T) : MonitoredItem T :=
  { item with id := 0, triggeredItems := ∅ }

def createdAs (entry : MonitoredItemCreateRequest T × UInt32) : MonitoredItem T where
  id := entry.2
  clientHandle := entry.1.clientHandle
  itemToMonitor := entry.1.itemToMonitor
  queueSize := entry.1.queueSize.toNat
  monitoringMode := entry.1.monitoringMode
  samplingInterval := entry.1.samplingInterval
  triggeredItems := ∅
  discardOldest := entry.1.discardOldest
  filter := entry.1.filter

namespace Subscription

def parameters (s : Subscription T) : SubscriptionParameters where
  publishingInterval := s.publishingInterval
  lifetimeCount := s.lifetimeCount
  maxKeepAliveCount := s.maxKeepAliveCount
  maxNotificationsPerPublish := s.maxNotificationsPerPublish
  publishingEnabled := s.publishingEnabled
  priority := s.priority

def Triggers (s : Subscription T) (a b : MonitoredItem T) : Prop :=
  ∃ id, s.monitoredItems.lookup (.server id) = some b ∧ id ∈ a.triggeredItems

def HasItems (s : Subscription T) (entries : List (UInt32 × MonitoredItem T)) : Prop :=
  ∀ key item, s.monitoredItems.lookup key = some item ↔
    ∃ id, key = .server id ∧ (id, item) ∈ entries

end Subscription

/-- **A subscription and its successor,** as the client and as the server has it. -/
structure Equivalent (old new : Subscription T) (served : ServedSubscription T) : Prop where
  parameters : new.parameters = old.parameters
  granted : served.request.granted = old.parameters
  callback : new.callback = old.callback
  items : (new.monitoredItems.values.map settings).Perm
    (old.monitoredItems.values.map settings)
  onServer : (served.items.map fun entry => (createdAs entry.swap).settings).Perm
    (old.monitoredItems.values.map settings)
  ids : ∀ key, key ∈ new.monitoredItems ↔ ∃ id ∈ served.items.map Prod.fst, key = .server id
  links : ∀ {i j a' b' a b}, new.monitoredItems.lookup (.server i) = some a' →
    new.monitoredItems.lookup (.server j) = some b' → a ∈ old.monitoredItems.values →
    b ∈ old.monitoredItems.values → a.clientHandle = a'.clientHandle →
    b.clientHandle = b'.clientHandle →
    (j ∈ a'.triggeredItems ↔ old.Triggers a b) ∧ ((i, j) ∈ served.links ↔ old.Triggers a b)

namespace RecreationWorld

structure Recreated (before : SubscriptionState T) (after : RecreationWorld T)
    (successor : UInt32 → UInt32) : Prop where
  distinct : ∀ id ∈ before.subscriptions, ∀ id' ∈ before.subscriptions,
    successor id = successor id' → id = id'
  only : ∀ id, id ∈ after.client.subscriptions ↔ ∃ old ∈ before.subscriptions, successor old = id
  each : ∀ {id old}, before.subscriptions.lookup id = some old →
    ∃ new served, after.client.subscriptions.lookup (successor id) = some new ∧
      after.served.lookup (successor id) = some served ∧ Equivalent old new served

end RecreationWorld

/-- **What a subscription needs to have for its successor to be equivalent:** an interval that the
wire carries, a size of chunks, handles, queues whose size fits, and no links. -/
structure Recreatable (recreateMonitoredItemsChunk : ℕ) (old : Subscription T) : Prop where
  interval : grantedInterval (requestedInterval old.publishingInterval) = old.publishingInterval
  chunked : recreateMonitoredItemsChunk ≠ 0 ∨ old.monitoredItems.values = []
  handles : ∀ item ∈ old.monitoredItems.values, item.clientHandle ≠ 0
  queues : ∀ item ∈ old.monitoredItems.values, item.queueSize < 2 ^ 32
  unlinked : ∀ a ∈ old.monitoredItems.values, ∀ b, ¬ old.Triggers a b

/-! ### The items of a subscription -/

open KeyedMap

open List

namespace Subscription

variable {s : Subscription T}

theorem HasItems.values_perm {entries : List (UInt32 × MonitoredItem T)} (has : s.HasItems entries)
    (distinct : (entries.map Prod.fst).Nodup) :
    s.monitoredItems.values.Perm (entries.map Prod.snd) := by
  have same : ∀ key item, s.monitoredItems.lookup key = some item ↔
      (key, item) ∈ entries.map fun entry => (server entry.1, entry.2) := by
    intro key item
    rw [has key item, mem_map]
    constructor
    · rintro ⟨id, rfl, here⟩
      exact ⟨(id, item), here, rfl⟩
    · rintro ⟨⟨id, item'⟩, here, same⟩
      cases same
      exact ⟨id, rfl, here⟩
  have perm := values_perm_of_lookup ?_ same
  · rwa [map_map] at perm
  · rw [map_map]
    have ids : entries.map (Prod.fst ∘ fun entry => (server entry.1, entry.2)) =
        (entries.map Prod.fst).map server := by
      rw [map_map]
      rfl
    rw [ids]
    exact distinct.map fun _ _ same => by cases same; rfl

/-- **What stays of a subscription when items come and go.** -/
theorem parameters_placeAll (s : Subscription T)
    (entries : List (MonitoredItemId × MonitoredItem T)) :
    (s.placeAll entries).parameters = s.parameters ∧
    (s.placeAll entries).callback = s.callback := by
  induction entries generalizing s with
  | nil => exact ⟨rfl, rfl⟩
  | cons entry entries ih => exact ih (s.place entry)

theorem parameters_removeAll (s : Subscription T) (ids : List (MonitoredItemId × Bool)) :
    (s.removeAll ids).parameters = s.parameters ∧ (s.removeAll ids).callback = s.callback := by
  induction ids generalizing s with
  | nil => exact ⟨rfl, rfl⟩
  | cons id ids ih =>
    have first : (s.remove id.1 id.2).parameters = s.parameters ∧
        (s.remove id.1 id.2).callback = s.callback := by
      unfold remove
      split
      · exact ⟨rfl, rfl⟩
      · exact ⟨rfl, rfl⟩
    exact ⟨(ih _).1.trans first.1, (ih _).2.trans first.2⟩

theorem HasItems.create {entries more : List (UInt32 × MonitoredItem T)} (has : s.HasItems entries)
    (distinct : ((entries ++ more).map Prod.fst).Nodup)
    {temps : List (MonitoredItemId × MonitoredItem T)} {removals : List (MonitoredItemId × Bool)}
    (temporary : ∀ removal ∈ removals, ∃ t, removal.1 = .temporary t)
    (cleared : ∀ temp ∈ temps, temp.1 ∈ removals.map Prod.fst) :
    (((s.placeAll temps).placeAll (more.map fun entry => (.server entry.1, entry.2))).removeAll
      removals).HasItems (entries ++ more) := by
  intro key item
  have notServer : ∀ id, server id ∉ removals.map Prod.fst := by
    intro id here
    obtain ⟨removal, listed, same⟩ := mem_map.mp here
    obtain ⟨t, named⟩ := temporary removal listed
    cases same.symm.trans named
  have kept : ∀ key, key ∉ removals.map Prod.fst →
      (s.placeAll temps).monitoredItems.lookup key = s.monitoredItems.lookup key := by
    intro key other
    refine lookup_placeAll_of_not_mem fun here => other ?_
    obtain ⟨temp, listed, rfl⟩ := mem_map.mp here
    exact cleared temp listed
  rw [lookup_removeAll]
  rw [map_append, nodup_append'] at distinct
  have keys : (more.map fun entry => (server entry.1, entry.2)).map Prod.fst =
      (more.map Prod.fst).map server := by
    rw [map_map, map_map]
    rfl
  cases key with
  | temporary t =>
    refine iff_of_false (fun found => ?_) (by rintro ⟨id, same, -⟩; cases same)
    split_ifs at found with gone
    have other : MonitoredItemId.temporary t ∉
        (more.map fun entry => (server entry.1, entry.2)).map Prod.fst := by
      rw [keys]
      exact fun here => by obtain ⟨_, -, same⟩ := mem_map.mp here; cases same
    rw [lookup_placeAll_of_not_mem other, kept _ gone] at found
    obtain ⟨id, same, -⟩ := (has _ _).mp found
    cases same
  | server id =>
    rw [if_neg (notServer id)]
    by_cases created : id ∈ more.map Prod.fst
    · obtain ⟨⟨id, item'⟩, here, rfl⟩ := mem_map.mp created
      have nodup : ((more.map fun entry => (server entry.1, entry.2)).map
          Prod.fst).Nodup := by
        rw [keys]
        exact distinct.2.1.map fun _ _ same => by cases same; rfl
      rw [lookup_placeAll_of_mem nodup (mem_map.mpr ⟨_, here, rfl⟩)]
      constructor
      · intro same
        cases same
        exact ⟨id, rfl, mem_append_right _ here⟩
      · rintro ⟨_, same, listed⟩
        cases same
        rcases mem_append.mp listed with before | after
        · exact absurd created (distinct.2.2 (mem_map.mpr ⟨_, before, rfl⟩))
        · cases inj_on_of_nodup_map distinct.2.1 here after rfl
          rfl
    · have other : server id ∉
          (more.map fun entry => (server entry.1, entry.2)).map Prod.fst := by
        rw [keys]
        exact fun here => by
          obtain ⟨_, there, same⟩ := mem_map.mp here
          cases same
          exact created there
      rw [lookup_placeAll_of_not_mem other, kept _ (notServer id), has]
      refine exists_congr fun id' => and_congr_right fun same => ?_
      cases same
      rw [mem_append]
      exact (or_iff_left fun here => created (mem_map_of_mem here)).symm

end Subscription

/-! ### Chunks of items -/

structure Names (item named : MonitoredItemCreateRequest T) : Prop where
  handle : named.clientHandle ≠ 0
  same : named = { item with clientHandle := named.clientHandle }
  kept : item.clientHandle ≠ 0 → named = item

theorem SessionHandles.next_ne_zero (handles : SessionHandles) : handles.next.1 ≠ 0 := by
  intro zero
  have low := handles.low
  have high := handles.high
  have value : (UInt32.ofNat handles.handle.next).toNat = 0 := congrArg UInt32.toNat zero
  rw [UInt32.toNat_ofNat'] at value
  rw [Subscriptions.u32Max] at high
  omega

theorem SessionHandles.named_names (handles : SessionHandles)
    (items : List (MonitoredItemCreateRequest T)) :
    List.Forall₂ Names items (handles.named items).1 := by
  induction items generalizing handles with
  | nil => exact .nil
  | cons item items ih =>
    rw [named]
    split_ifs with unnamed
    · exact .cons ⟨handles.next_ne_zero, rfl, fun has => absurd unnamed has⟩ (ih _)
    · exact .cons ⟨unnamed, rfl, fun _ => rfl⟩ (ih _)

open Subscription

namespace PreInsertMonitoredItems

def filled (inserted : List (ℕ × MonitoredItemCreateRequest T))
    (results : List (MonitoredItemCreateResult T)) (s : Subscription T) : Subscription T :=
  ((s.placeAll
    (inserted.map fun item => (.temporary item.1, temporaryItem (tempItem item)))).placeAll
    ((created inserted results).map fun item =>
      (.server item.2.monitoredItemId, confirmedItem (createdItem item)))).removeAll
    ((flags inserted results).map fun id => (.temporary id.1, !id.2))

section

variable (s : SubscriptionState T) (subscriptionId other : UInt32)

theorem lookup_new (items : List (MonitoredItemCreateRequest T)) :
    (new s subscriptionId items).2.subscriptions.lookup other =
      if other = subscriptionId then
        (s.subscriptions.lookup other).map fun subscription =>
          subscription.placeAll ((new s subscriptionId items).1.map fun item =>
            (.temporary item.1, temporaryItem (tempItem item)))
      else s.subscriptions.lookup other := by
  show ((s.nextTempIds items.length).2.onSubscription _ _).subscriptions.lookup other = _
  rw [ItemWorld.lookup_onSubscription, ItemWorld.nextTempIds_subscriptions]
  have each : (fun subscription : Subscription T =>
      ((new s subscriptionId items).1.map tempItem).foldl
        Subscription.insertTemporaryMonitoredItem subscription) = fun subscription =>
          subscription.placeAll ((new s subscriptionId items).1.map fun item =>
            (.temporary item.1, temporaryItem (tempItem item))) := by
    funext subscription
    rw [insertTemporaryMonitoredItems_eq, map_map]
    rfl
  exact if_congr Iff.rfl (congrArg (fun f => (s.subscriptions.lookup other).map f) each) rfl

theorem lookup_finish (inserted : List (ℕ × MonitoredItemCreateRequest T))
    (results : List (MonitoredItemCreateResult T)) :
    (finish s subscriptionId inserted results).subscriptions.lookup other =
      if other = subscriptionId then
        (s.subscriptions.lookup other).map fun subscription =>
          subscription.placeAll ((created inserted results).map fun item =>
            (.server item.2.monitoredItemId, confirmedItem (createdItem item)))
      else s.subscriptions.lookup other := by
  rw [finish, SubscriptionState.insertMonitoredItems, ItemWorld.lookup_onSubscription]
  have each : (fun subscription : Subscription T => subscription.insertMonitoredItems
      ((created inserted results).map createdItem)) = fun subscription =>
        subscription.placeAll ((created inserted results).map fun item =>
          (.server item.2.monitoredItemId, confirmedItem (createdItem item))) := by
    funext subscription
    rw [insertMonitoredItems_eq, map_map]
    rfl
  rw [each]

theorem lookup_drop (ids : List (ℕ × Bool)) :
    (drop s subscriptionId ids).subscriptions.lookup other =
      if other = subscriptionId then
        (s.subscriptions.lookup other).map fun subscription =>
          subscription.removeAll (ids.map fun id => (.temporary id.1, !id.2))
      else s.subscriptions.lookup other := by
  rw [drop, SubscriptionState.clearTemporaryIds, ItemWorld.lookup_onSubscription]
  have each : (fun subscription : Subscription T => ids.foldl
      (fun s id => s.clearTemporaryId (.temporary id.1) !id.2) subscription) = fun subscription =>
        subscription.removeAll (ids.map fun id => (.temporary id.1, !id.2)) := by
    funext subscription
    rw [Subscription.removeAll, foldl_map]
    rfl
  rw [each]

theorem lookup_filled (items : List (MonitoredItemCreateRequest T))
    (results : List (MonitoredItemCreateResult T)) :
    (drop
      (finish (new s subscriptionId items).2 subscriptionId (new s subscriptionId items).1 results)
      subscriptionId (flags (new s subscriptionId items).1 results)).subscriptions.lookup other =
      if other = subscriptionId then
        (s.subscriptions.lookup other).map (filled (new s subscriptionId items).1 results)
      else s.subscriptions.lookup other := by
  rw [lookup_drop, lookup_finish, lookup_new]
  split_ifs
  · rw [Option.map_map, Option.map_map]
    rfl
  · rfl

end

theorem created_granted (server : AcceptingServer T) {temps : List ℕ}
    {named : List (MonitoredItemCreateRequest T)} {ids : List UInt32}
    (drawn : temps.length = named.length) :
    ((created (temps.zip named) ((named.zip ids).map server.granted)).map fun item =>
        (MonitoredItemId.server item.2.monitoredItemId, confirmedItem (createdItem item))) =
      (named.zip ids).map fun entry => (.server entry.2, createdAs entry) := by
  induction named generalizing temps ids with
  | nil =>
    rw [zip_nil_right]
    rfl
  | cons request named ih =>
    cases temps with
    | nil => cases drawn
    | cons temp temps =>
      cases ids with
      | nil =>
        rfl
      | cons id ids =>
        have first : confirmedItem (createdItem ((temp, request), server.granted (request, id))) =
            createdAs (request, id) := by
          have filter : usedFilter request.filter server.filterResult = request.filter :=
            if_pos server.asRequested
          show ({ filter := usedFilter request.filter server.filterResult, .. } : MonitoredItem T) =
            _
          rw [filter]
          rfl
        have good : (server.granted (request, id)).statusCode.isGood = true := by
          show StatusCode.Good.isGood = true
          decide
        have rest := @ih temps ids (Nat.succ.inj drawn)
        rw [created] at rest ⊢
        rw [zip_cons_cons, zip_cons_cons, map_cons, zip_cons_cons,
          filter_cons_of_pos]
        · exact congrArg₂ cons (congrArg (Prod.mk (MonitoredItemId.server id)) first) rest
        · exact good

end PreInsertMonitoredItems

/-! ### A new subscription -/

namespace RecreationWorld

/-- **A new subscription with the items created so far.** Nothing else has changed. -/
structure Filled (v w : RecreationWorld T) (subscriptionId : UInt32)
    (request : CreateSubscriptionRequest) (callback : Option T.Callback)
    (done : List (MonitoredItemCreateRequest T × UInt32)) (links : List (UInt32 × UInt32)) :
    Prop where
  client : ∃ s, w.client.subscriptions.lookup subscriptionId = some s ∧
    s.parameters = request.granted ∧ s.callback = callback ∧
    s.HasItems (done.map fun entry => (entry.2, createdAs entry))
  served : w.served.lookup subscriptionId = some ⟨request, done.map Prod.swap, links⟩
  others : ∀ other ≠ subscriptionId,
    w.client.subscriptions.lookup other = v.client.subscriptions.lookup other ∧
      w.served.lookup other = v.served.lookup other

variable {v w : RecreationWorld T} {subscriptionId : UInt32} {request : CreateSubscriptionRequest}
  {callback : Option T.Callback} {done : List (MonitoredItemCreateRequest T × UInt32)}
  {links : List (UInt32 × UInt32)} {server : AcceptingServer T}

theorem filled_new (w : RecreationWorld T) (subscriptionId : UInt32) (s : Subscription T) :
    Filled w (w.createSubscriptionInner subscriptionId s) subscriptionId (requestFor s) s.callback
      [] [] where
  client := by
    refine ⟨_, lookup_insert _, rfl, rfl, fun key item => iff_of_false nofun ?_⟩
    rintro ⟨_, -, here⟩
    cases here
  served := lookup_insert _
  others other ne := ⟨lookup_insert_ne ne, lookup_insert_ne ne⟩

theorem map_entry_fst (done : List (MonitoredItemCreateRequest T × UInt32)) :
    (done.map fun entry => (entry.2, createdAs entry)).map Prod.fst = done.map Prod.snd := by
  rw [map_map]
  rfl

section

variable (filled : Filled v w subscriptionId request callback done links)
include filled

theorem Filled.create (server : AcceptingServer T) (valid : subscriptionId ≠ 0)
    {items : List (MonitoredItemCreateRequest T × UInt32)} (some : items ≠ [])
    (distinct : (done.map Prod.snd ++ items.map Prod.snd).Nodup) :
    ∃ named, List.Forall₂ Names (items.map Prod.fst) named ∧
      Filled v (createMonitoredItems server subscriptionId w items) subscriptionId request callback
        (done ++ named.zip (items.map Prod.snd)) links := by
  obtain ⟨s, known, parameters, called, has⟩ := filled.client
  set named := (w.handles.named (items.map Prod.fst)).1 with namedEq
  set ids := items.map Prod.snd with idsEq
  have names : List.Forall₂ Names (items.map Prod.fst) named := w.handles.named_names _
  have long : ids.length = named.length := by
    rw [← names.length_eq, length_map, length_map]
  have sent : ¬ (subscriptionId = 0 ∨ named = []) := by
    rintro (zero | none)
    · exact valid zero
    · have length := names.length_eq
      rw [none, length_map] at length
      exact some (length_eq_zero_iff.mp length)
  set drawn := (new w.client subscriptionId named).1 with drawnEq
  set results := (named.zip ids).map server.granted with resultsEq
  have result : createMonitoredItems server subscriptionId w items =
      { client := drop
          (finish (new w.client subscriptionId named).2
            subscriptionId drawn results) subscriptionId (flags drawn results)
        served := w.served.modify subscriptionId fun s =>
          { s with items := s.items ++ (named.zip ids).map Prod.swap }
        handles := (w.handles.named (items.map Prod.fst)).2 } := by
    rw [createMonitoredItems, if_pos (lookup_isSome.mp (by rw [known]; rfl))]
    exact if_neg sent
  refine ⟨named, names, ?_⟩
  rw [result]
  constructor
  case client =>
    refine ⟨_, (lookup_filled w.client subscriptionId _ named results).trans
      (if_pos rfl) |>.trans (congrArg _ known), ?_, ?_, ?_⟩
    · exact ((parameters_removeAll _ _).1.trans
        ((parameters_placeAll _ _).1.trans
          (parameters_placeAll _ _).1)).trans parameters
    · exact ((parameters_removeAll _ _).2.trans
        ((parameters_placeAll _ _).2.trans
          (parameters_placeAll _ _).2)).trans called
    · rw [PreInsertMonitoredItems.filled]
      have drawnLength : (w.client.nextTempIds named.length).1.length = named.length :=
        ItemWorld.length_nextTempIds _ _
      have created := @PreInsertMonitoredItems.created_granted T server _ named ids drawnLength
      have same : ((PreInsertMonitoredItems.created drawn results).map fun item =>
          (MonitoredItemId.server item.2.monitoredItemId,
            confirmedItem (createdItem item))) =
          ((named.zip ids).map fun entry => (entry.2, createdAs entry)).map fun entry =>
            (.server entry.1, entry.2) := by
        rw [map_map]
        exact created
      rw [same, map_append]
      refine has.create ?_ ?_ ?_
      · rw [map_append, map_entry_fst, map_entry_fst, map_snd_zip long.le]
        exact distinct
      · intro removal here
        obtain ⟨id, -, rfl⟩ := mem_map.mp here
        exact ⟨_, rfl⟩
      · intro temp here
        obtain ⟨item, listed, rfl⟩ := mem_map.mp here
        have flagged : item.1 ∈ (flags drawn results).map Prod.fst := by
          rw [ItemCall.flags_fst]
          exact mem_map_of_mem listed
        obtain ⟨flag, there, same⟩ := mem_map.mp flagged
        refine mem_map.mpr ⟨_, mem_map.mpr ⟨flag, there, rfl⟩, ?_⟩
        rw [same]
  case served =>
    rw [lookup_modify, if_pos rfl, filled.served, map_append]
    rfl
  case others =>
    intro other ne
    obtain ⟨client, served⟩ := filled.others other ne
    refine ⟨?_, ?_⟩
    · exact ((lookup_filled w.client subscriptionId _ named results).trans
        (if_neg ne)).trans client
    · rw [lookup_modify, if_neg ne, served]

theorem Filled.createAll {parts : List (List (MonitoredItemCreateRequest T × UInt32))}
    (server : AcceptingServer T) (valid : subscriptionId ≠ 0) (some : ∀ part ∈ parts, part ≠ [])
    (distinct : (done.map Prod.snd ++ parts.flatten.map Prod.snd).Nodup) :
    ∃ named, List.Forall₂ Names (parts.flatten.map Prod.fst) named ∧
      Filled v (parts.foldl (createMonitoredItems server subscriptionId) w) subscriptionId request
        callback (done ++ named.zip (parts.flatten.map Prod.snd)) links := by
  induction parts generalizing w done with
  | nil =>
    refine ⟨[], .nil, ?_⟩
    rw [zip_nil_left, append_nil]
    exact filled
  | cons part parts ih =>
    rw [flatten_cons, map_append, ← append_assoc] at distinct
    obtain ⟨first, names, next⟩ := filled.create server valid
      (some part mem_cons_self) (nodup_append'.mp distinct).1
    have long : (part.map Prod.snd).length = first.length := by
      rw [← names.length_eq, length_map, length_map]
    have ids : (done ++ first.zip (part.map Prod.snd)).map Prod.snd =
        done.map Prod.snd ++ part.map Prod.snd := by
      rw [map_append, map_snd_zip long.le]
    obtain ⟨later, names', last⟩ := ih next
      (fun other here => some other (mem_cons_of_mem _ here)) (by rw [ids]; exact distinct)
    refine ⟨first ++ later, ?_, ?_⟩
    · rw [flatten_cons, map_append]
      exact rel_append names names'
    · rw [flatten_cons, map_append, zip_append long.symm, ← append_assoc]
      exact last

/-- **Links are set for an item that the new subscription does not have:** the client does nothing,
and the server links what is not there. -/
theorem Filled.setTriggering {triggeringItemId : UInt32}
    (unknown : triggeringItemId ∉ done.map Prod.snd) (linksToAdd : List UInt32)
    (answered : Option (List StatusCode)) :
    ∃ more, (∀ link ∈ more, link.1 = triggeringItemId) ∧
      Filled v (w.setTriggering subscriptionId triggeringItemId linksToAdd answered) subscriptionId
        request callback done (links ++ more) := by
  have nothing : ∃ more : List (UInt32 × UInt32), (∀ link ∈ more, link.1 = triggeringItemId) ∧
      Filled v w subscriptionId request callback done (links ++ more) := by
    refine ⟨[], nofun, ?_⟩
    rw [append_nil]
    exact filled
  unfold RecreationWorld.setTriggering
  split_ifs
  · cases answered with
    | none => exact nothing
    | some results =>
      obtain ⟨s, known, parameters, called, has⟩ := filled.client
      refine ⟨(((linksToAdd.zip results).filter fun link => link.2.isGood).map Prod.fst).map
        fun link => (triggeringItemId, link), ?_, ?_⟩
      · intro link here
        obtain ⟨_, -, rfl⟩ := mem_map.mp here
        rfl
      constructor
      case client =>
        show ∃ s, (if results.length = linksToAdd.length then
            w.client.setTriggering subscriptionId triggeringItemId _ [] else w.client
          ).subscriptions.lookup subscriptionId = some s ∧ _
        split_ifs
        · refine ⟨_, (ItemWorld.lookup_onSubscription _ _ _).trans
            ((if_pos rfl).trans (congrArg _ known)), parameters, called, fun key item => ?_⟩
          show (s.monitoredItems.modify _ _).lookup key = some item ↔ _
          rw [lookup_modify, ← has key item]
          split_ifs with here
          · have absent : s.monitoredItems.lookup key = none := by
              by_contra some
              obtain ⟨item, found⟩ := Option.ne_none_iff_exists'.mp some
              obtain ⟨id, same, listed⟩ := (has _ _).mp found
              cases here.symm.trans same
              refine unknown ?_
              rw [← map_entry_fst]
              exact mem_map_of_mem (f := Prod.fst) listed
            rw [absent]
            rfl
          · rfl
        · exact ⟨s, known, parameters, called, has⟩
      case served =>
        rw [lookup_modify, if_pos rfl, filled.served]
        rfl
      case others =>
        intro other ne
        obtain ⟨client, served⟩ := filled.others other ne
        constructor
        · show (if results.length = linksToAdd.length then
              w.client.setTriggering subscriptionId triggeringItemId _ [] else w.client
            ).subscriptions.lookup other = _
          split_ifs
          · exact ((ItemWorld.lookup_onSubscription _ _ _).trans (if_neg ne)).trans client
          · exact client
        · rw [lookup_modify, if_neg ne, served]
  · exact nothing

end

variable {items : List (MonitoredItem T)}

theorem Filled.setLinks {oldId : UInt32}
    (filled : Filled v w (server.subscriptionId oldId) request callback done links)
    (unknown : ∀ item ∈ items, item.id ∉ done.map Prod.snd)
    (dead : ∀ link ∈ links, link.1 ∉ done.map Prod.snd) :
    ∃ links', (∀ link ∈ links', link.1 ∉ done.map Prod.snd) ∧
      Filled v (items.foldl (RecreationWorld.setLinks server oldId) w)
        (server.subscriptionId oldId) request callback done links' := by
  induction items generalizing w links with
  | nil => exact ⟨links, dead, filled⟩
  | cons item items ih =>
    have absent := unknown item mem_cons_self
    have later := fun other here => unknown other (mem_cons_of_mem item here)
    rw [foldl_cons, RecreationWorld.setLinks]
    split_ifs
    · exact ih filled later dead
    · obtain ⟨more, mine, next⟩ := filled.setTriggering absent (linksOf item)
        (server.linkResults oldId item.id (linksOf item))
      refine ih next later fun link here => ?_
      rcases mem_append.mp here with before | added
      · exact dead link before
      · exact mine link added ▸ absent

/-! ### One subscription -/

def requested (server : AcceptingServer T) (recreateMonitoredItemsChunk : ℕ) (oldId : UInt32)
    (old : Subscription T) : List (MonitoredItemCreateRequest T × UInt32) :=
  (inChunks recreateMonitoredItemsChunk (itemsToCreate server oldId old)).flatten

def Succeeded (server : AcceptingServer T) (recreateMonitoredItemsChunk : ℕ) (oldId : UInt32)
    (old : Subscription T) (v w : RecreationWorld T) : Prop :=
  ∃ named links, List.Forall₂ Names
      ((requested server recreateMonitoredItemsChunk oldId old).map Prod.fst) named ∧
    (∀ link ∈ links,
      link.1 ∉ (requested server recreateMonitoredItemsChunk oldId old).map Prod.snd) ∧
    Filled v w (server.subscriptionId oldId) (requestFor old) old.callback
      (named.zip ((requested server recreateMonitoredItemsChunk oldId old).map Prod.snd)) links

theorem requested_zero (server : AcceptingServer T) (oldId : UInt32) (old : Subscription T) :
    requested server 0 oldId old = [] := by
  rw [requested, inChunks_zero]
  rfl

variable {chunk : ℕ}

theorem requested_pos (positive : 0 < chunk) (server : AcceptingServer T) (oldId : UInt32)
    (old : Subscription T) : requested server chunk oldId old = itemsToCreate server oldId old :=
  flatten_inChunks positive _

theorem requested_ids (server : AcceptingServer T) (chunk : ℕ) (oldId : UInt32)
    (old : Subscription T) : ∃ count ≤ old.monitoredItems.size,
      (requested server chunk oldId old).map Prod.snd =
        (range count).map (server.itemId oldId) := by
  rcases Nat.eq_zero_or_pos chunk with rfl | positive
  · refine ⟨0, Nat.zero_le _, ?_⟩
    rw [requested_zero]
    rfl
  · refine ⟨old.monitoredItems.size, le_rfl, ?_⟩
    rw [requested_pos positive]
    refine ext_getElem ?_ fun index first second => ?_
    · simp [itemsToCreate, KeyedMap.size, KeyedMap.values]
    · simp [itemsToCreate]

/-- The ids that the server gives to the items of a subscription are new and different. -/
structure FreshItems (server : AcceptingServer T) (oldId : UInt32) (old : Subscription T) :
    Prop where
  unused : ∀ item ∈ old.monitoredItems.values, ∀ index < old.monitoredItems.size,
    server.itemId oldId index ≠ item.id
  distinct : Set.InjOn (server.itemId oldId) {index | index < old.monitoredItems.size}

section Successor

variable {chunk : ℕ} {oldId : UInt32} {old : Subscription T}

theorem FreshItems.nodup (fresh : FreshItems server oldId old) :
    ((requested server chunk oldId old).map Prod.snd).Nodup := by
  obtain ⟨count, bounded, ids⟩ := requested_ids server chunk oldId old
  rw [ids]
  refine nodup_range.map_on fun first here second there same => ?_
  have low := mem_range.mp here
  have high := mem_range.mp there
  exact fresh.distinct (show first < _ by omega) (show second < _ by omega) same

theorem FreshItems.not_mem (fresh : FreshItems server oldId old) {item : MonitoredItem T}
    (here : item ∈ old.monitoredItems.values) :
    item.id ∉ (requested server chunk oldId old).map Prod.snd := by
  obtain ⟨count, bounded, ids⟩ := requested_ids server chunk oldId old
  rw [ids]
  intro listed
  obtain ⟨index, low, same⟩ := mem_map.mp listed
  exact fresh.unused item here index (by have := mem_range.mp low; omega) same

/-- **A subscription that is recreated has a successor.** -/
theorem succeeded_recreateSubscription (known : w.client.subscriptions.lookup oldId = some old)
    (valid : server.subscriptionId oldId ≠ 0) (fresh : FreshItems server oldId old) :
    Succeeded server chunk oldId old { w with client := (w.client.deleteSubscription oldId).2 }
      (recreateSubscription server chunk w oldId) := by
  have deleted : w.client.deleteSubscription oldId =
      (some old, (w.client.deleteSubscription oldId).2) := Prod.ext known rfl
  have some : ∀ part ∈ inChunks chunk (itemsToCreate server oldId old), part ≠ [] :=
    fun part here => ne_nil_of_mem_chunks here
  obtain ⟨named, names, filled⟩ := (filled_new { w with client :=
      (w.client.deleteSubscription oldId).2 } (server.subscriptionId oldId) old).createAll
    server valid some fresh.nodup
  have long : ((requested server chunk oldId old).map Prod.snd).length = named.length := by
    rw [← names.length_eq, length_map, requested, length_map]
  have ids : (named.zip ((requested server chunk oldId old).map Prod.snd)).map Prod.snd =
      (requested server chunk oldId old).map Prod.snd := map_snd_zip long.le
  have unknown : ∀ item ∈ old.monitoredItems.values, item.id ∉
      (named.zip ((requested server chunk oldId old).map Prod.snd)).map Prod.snd :=
    fun item here => by
      rw [ids]
      exact fresh.not_mem here
  obtain ⟨links, dead, linked⟩ := filled.setLinks unknown nofun
  refine ⟨named, links, names, fun link here => ids ▸ dead link here, ?_⟩
  rw [recreateSubscription, deleted]
  exact linked

theorem createdAs_settings {item : MonitoredItem T} {named : MonitoredItemCreateRequest T}
    (names : Names (itemToCreate item) named) (id : UInt32) (handled : item.clientHandle ≠ 0)
    (fits : item.queueSize < 2 ^ 32) : (createdAs (named, id)).settings = item.settings := by
  rw [names.kept handled]
  have size : (UInt32.ofNat item.queueSize).toNat = item.queueSize := by
    rw [UInt32.toNat_ofNat', Nat.mod_eq_of_lt fits]
  show ({ queueSize := (UInt32.ofNat item.queueSize).toNat, .. } : MonitoredItem T) = _
  rw [size]
  rfl

variable {named : List (MonitoredItemCreateRequest T)}

theorem named_handle {items : List (MonitoredItemCreateRequest T)}
    (names : List.Forall₂ Names items named) {request : MonitoredItemCreateRequest T}
    (here : request ∈ named) : request.clientHandle ≠ 0 := by
  induction names with
  | nil => cases here
  | cons first rest ih =>
    rcases mem_cons.mp here with rfl | later
    · exact first.handle
    · exact ih later

theorem map_settings
    (names : List.Forall₂ (fun item request => Names (itemToCreate item) request) items named)
    (handled : ∀ item ∈ items, item.clientHandle ≠ 0)
    (fits : ∀ item ∈ items, item.queueSize < 2 ^ 32) :
    (named.map fun request => (createdAs (request, 0)).settings) =
      items.map settings := by
  induction names with
  | nil => rfl
  | @cons item request items named first rest ih =>
    have head := createdAs_settings first 0 (handled item mem_cons_self)
      (fits item mem_cons_self)
    have tail := ih (fun other here => handled other (mem_cons_of_mem item here))
      (fun other here => fits other (mem_cons_of_mem item here))
    exact congrArg₂ cons head tail

theorem itemsToCreate_fst (server : AcceptingServer T) (oldId : UInt32) (old : Subscription T) :
    (itemsToCreate server oldId old).map Prod.fst = old.monitoredItems.values.map itemToCreate := by
  refine ext_getElem ?_ fun index first second => ?_
  · simp [itemsToCreate]
  · simp [itemsToCreate]

theorem settings_of_recreatable (server : AcceptingServer T) (oldId : UInt32)
    (recreatable : Recreatable chunk old)
    (names : List.Forall₂ Names ((requested server chunk oldId old).map Prod.fst) named) :
    (named.zip ((requested server chunk oldId old).map Prod.snd)).map
        (fun entry => (createdAs entry).settings) =
      old.monitoredItems.values.map settings := by
  have long : ((requested server chunk oldId old).map Prod.snd).length = named.length := by
    rw [← names.length_eq, length_map, length_map]
  have values : List.Forall₂ (fun item request => Names (itemToCreate item) request)
      old.monitoredItems.values named := by
    rcases Nat.eq_zero_or_pos chunk with rfl | positive
    · rw [recreatable.chunked.resolve_left (fun ne => ne rfl)]
      rw [requested_zero] at names
      cases names
      exact .nil
    · rw [requested_pos positive, itemsToCreate_fst] at names
      exact forall₂_map_left_iff.mp names
  calc (named.zip ((requested server chunk oldId old).map Prod.snd)).map
          (fun entry => (createdAs entry).settings)
      = ((named.zip ((requested server chunk oldId old).map Prod.snd)).map Prod.fst).map
          (fun request => (createdAs (request, 0)).settings) := by
        rw [map_map]
        rfl
    _ = named.map fun request => (createdAs (request, 0)).settings := by
        rw [map_fst_zip long.ge]
    _ = old.monitoredItems.values.map settings :=
        map_settings values recreatable.handles recreatable.queues

/-- **The successor is equivalent exactly if the subscription can be recreated.** -/
theorem Succeeded.equivalent_iff (succeeded : Succeeded server chunk oldId old v w)
    (fresh : FreshItems server oldId old) :
    (∃ new served, w.client.subscriptions.lookup (server.subscriptionId oldId) = some new ∧
      w.served.lookup (server.subscriptionId oldId) = some served ∧ Equivalent old new served) ↔
        Recreatable chunk old := by
  obtain ⟨named, links, names, dead, filled⟩ := succeeded
  have long : ((requested server chunk oldId old).map Prod.snd).length = named.length := by
    rw [← names.length_eq, length_map, length_map]
  set ids := (requested server chunk oldId old).map Prod.snd with idsEq
  set done := named.zip ids with doneEq
  have doneIds : done.map Prod.snd = ids := map_snd_zip long.le
  obtain ⟨new, known, parameters, called, has⟩ := filled.client
  have values : new.monitoredItems.values.Perm (done.map createdAs) := by
    have perm := has.values_perm (by rw [map_entry_fst, doneIds]; exact fresh.nodup)
    rwa [map_map] at perm
  constructor
  · rintro ⟨new', served, known', -, equivalent⟩
    obtain rfl := Option.some.inj (known.symm.trans known')
    -- Every old item has a new one with its settings, which no link leads from.
    have matched : ∀ item ∈ old.monitoredItems.values, ∃ id entry, entry ∈ done ∧
        new.monitoredItems.lookup (.server id) = some (createdAs entry) ∧
          (createdAs entry).settings = item.settings := by
      intro item here
      have listed := equivalent.items.mem_iff.mpr (mem_map_of_mem here)
      obtain ⟨item', there, same⟩ := mem_map.mp listed
      obtain ⟨key, found⟩ := mem_values.mp there
      obtain ⟨id, rfl, entered⟩ := (has _ _).mp found
      obtain ⟨entry, within, made⟩ := mem_map.mp entered
      cases made
      exact ⟨_, entry, within, found, same⟩
    have sent : ∀ entry ∈ done, entry.1.clientHandle ≠ 0 := by
      intro entry within
      exact named_handle names (of_mem_zip within).1
    exact
      { interval := congrArg SubscriptionParameters.publishingInterval
          (parameters.symm.trans equivalent.parameters)
        chunked := by
          by_contra neither
          rw [not_or, not_not] at neither
          obtain ⟨rfl, some⟩ := neither
          have none : done = [] := by
            rw [doneEq, idsEq, requested_zero, map_nil, zip_nil_right]
          rw [none, map_nil] at values
          have empty := equivalent.items
          rw [values.eq_nil, map_nil] at empty
          exact some (map_eq_nil_iff.mp empty.nil_eq.symm)
        handles := fun item here => by
          obtain ⟨_, entry, within, -, same⟩ := matched item here
          have handle : entry.1.clientHandle = item.clientHandle :=
            congrArg clientHandle same
          exact handle ▸ sent entry within
        queues := fun item here => by
          obtain ⟨_, entry, -, -, same⟩ := matched item here
          have size : entry.1.queueSize.toNat = item.queueSize :=
            congrArg queueSize same
          exact size ▸ entry.1.queueSize.toNat_lt
        unlinked := fun a hereA b triggers => by
          obtain ⟨id, found, -⟩ := id triggers
          have hereB : b ∈ old.monitoredItems.values := mem_values.mpr ⟨_, found⟩
          obtain ⟨i, entryA, -, foundA, sameA⟩ := matched a hereA
          obtain ⟨j, entryB, -, foundB, sameB⟩ := matched b hereB
          have linked := (equivalent.links foundA foundB hereA hereB
            (congrArg clientHandle sameA).symm
            (congrArg clientHandle sameB).symm).1.mpr triggers
          exact Finset.notMem_empty j linked }
  · intro recreatable
    have settings := settings_of_recreatable server oldId recreatable names
    have entered : ∀ {i item}, new.monitoredItems.lookup (.server i) = some item →
        i ∈ ids ∧ item.triggeredItems = ∅ := by
      intro i item found
      obtain ⟨id, same, listed⟩ := (has _ _).mp found
      cases same
      obtain ⟨entry, within, made⟩ := mem_map.mp listed
      cases made
      exact ⟨doneIds ▸ mem_map_of_mem within, rfl⟩
    refine ⟨new, _, known, filled.served, ?_⟩
    have granted : (requestFor old).granted = old.parameters :=
      congrArg (fun interval => { old.parameters with publishingInterval := interval })
        recreatable.interval
    exact
      { parameters := parameters.trans granted
        granted := granted
        callback := called
        items := by
          have perm := values.map MonitoredItem.settings
          rw [map_map] at perm
          exact settings ▸ perm
        onServer := by
          rw [← settings, map_map]
          rfl
        ids := fun key => by
          rw [map_map]
          rw [← lookup_isSome, Option.isSome_iff_exists]
          constructor
          · rintro ⟨item, found⟩
            obtain ⟨id, rfl, -⟩ := (has _ _).mp found
            exact ⟨id, doneIds ▸ (entered found).1, rfl⟩
          · rintro ⟨id, listed, rfl⟩
            obtain ⟨entry, within, rfl⟩ := mem_map.mp listed
            exact ⟨_, (has _ _).mpr ⟨_, rfl, mem_map_of_mem within⟩⟩
        links := fun {i j a' b' a b} foundA foundB hereA hereB _ _ => by
          obtain ⟨listed, unlinked⟩ := entered foundA
          have never := recreatable.unlinked a hereA b
          refine ⟨iff_of_false ?_ never, iff_of_false (fun there => ?_) never⟩
          · rw [unlinked]
            exact Finset.notMem_empty j
          · exact dead _ there listed }

theorem Succeeded.other (succeeded : Succeeded server chunk oldId old v w) {u : RecreationWorld T}
    (client : u.client.subscriptions.lookup (server.subscriptionId oldId) =
      w.client.subscriptions.lookup (server.subscriptionId oldId))
    (served : u.served.lookup (server.subscriptionId oldId) =
      w.served.lookup (server.subscriptionId oldId)) : Succeeded server chunk oldId old u u := by
  obtain ⟨named, links, names, dead, filled⟩ := succeeded
  exact ⟨named, links, names, dead, client ▸ filled.client, served ▸ filled.served,
    fun _ _ => ⟨rfl, rfl⟩⟩

end Successor

/-! ### All subscriptions -/

/-- **The ids that the server gives are new.** -/
structure Fresh (server : AcceptingServer T) (before : SubscriptionState T) : Prop where
  subscriptions : ∀ id ∈ before.subscriptions,
    server.subscriptionId id ≠ 0 ∧ server.subscriptionId id ∉ before.subscriptions
  distinct : ∀ id ∈ before.subscriptions, ∀ id' ∈ before.subscriptions,
    server.subscriptionId id = server.subscriptionId id' → id = id'
  items : ∀ {id old}, before.subscriptions.lookup id = some old → FreshItems server id old

structure Recreating (server : AcceptingServer T) (chunk : ℕ) (before : SubscriptionState T)
    (w : RecreationWorld T) (waiting : List UInt32) : Prop where
  waits : ∀ id ∈ waiting, w.client.subscriptions.lookup id = before.subscriptions.lookup id
  succeeded : ∀ {id old}, before.subscriptions.lookup id = some old → id ∉ waiting →
    ∃ v, Succeeded server chunk id old v w
  only : ∀ id ∈ w.client.subscriptions, id ∈ waiting ∨
    ∃ old ∈ before.subscriptions, old ∉ waiting ∧ server.subscriptionId old = id

variable {before : SubscriptionState T}

theorem mem_of_lookup {id : UInt32} {old : Subscription T}
    (known : before.subscriptions.lookup id = some old) : id ∈ before.subscriptions :=
  lookup_isSome.mp (by rw [known]; rfl)

theorem Recreating.step {id : UInt32} {waiting : List UInt32}
    (fresh : Fresh server before) (recreating : Recreating server chunk before w (id :: waiting))
    (there : id ∈ before.subscriptions) (known : ∀ other ∈ waiting, other ∈ before.subscriptions)
    (once : id ∉ waiting) :
    Recreating server chunk before (recreateSubscription server chunk w id) waiting := by
  obtain ⟨old, found⟩ := Option.isSome_iff_exists.mp (lookup_isSome.mpr there)
  have current := (recreating.waits id mem_cons_self).trans found
  have succeeded : Succeeded server chunk id old _ _ := succeeded_recreateSubscription current
    (fresh.subscriptions id there).1 (fresh.items found)
  have ⟨_, _, _, _, filled⟩ := succeeded
  have others : ∀ other ≠ server.subscriptionId id,
      (recreateSubscription server chunk w id).client.subscriptions.lookup other =
          (if other = id then none else w.client.subscriptions.lookup other) ∧
        (recreateSubscription server chunk w id).served.lookup other = w.served.lookup other := by
    intro other ne
    obtain ⟨client, served⟩ := filled.others other ne
    exact ⟨client.trans (lookup_erase_eq _ _ _), served⟩
  have old_ne : ∀ other ∈ before.subscriptions, other ≠ server.subscriptionId id :=
    fun other here same => (fresh.subscriptions id there).2 (same ▸ here)
  constructor
  case waits =>
    intro other here
    have unlike : other ≠ id := fun same => once (same ▸ here)
    rw [(others other (old_ne other (known other here))).1, if_neg unlike]
    exact recreating.waits other (mem_cons_of_mem _ here)
  case succeeded =>
    intro other old' found' gone
    by_cases same : other = id
    · subst same
      obtain rfl := Option.some.inj (found.symm.trans found')
      exact ⟨_, succeeded⟩
    · obtain ⟨v, before⟩ := recreating.succeeded found'
        fun here => (mem_cons.mp here).elim same gone
      have distinct : server.subscriptionId other ≠ server.subscriptionId id :=
        fun equal => same (fresh.distinct other (mem_of_lookup found') id there equal)
      have unlike : server.subscriptionId other ≠ id :=
        fun equal => (fresh.subscriptions other (mem_of_lookup found')).2 (equal ▸ there)
      obtain ⟨client, served⟩ := others _ distinct
      exact ⟨_, before.other (client.trans (if_neg unlike)) served⟩
  case only =>
    intro other here
    by_cases new : other = server.subscriptionId id
    · exact inr ⟨id, there, once, new.symm⟩
    · rw [← lookup_isSome, (others other new).1] at here
      split_ifs at here with same
      · cases here
      · rcases recreating.only other (lookup_isSome.mp here) with waits | ⟨old', was, gone, equal⟩
        · exact inl ((mem_cons.mp waits).resolve_left same)
        · exact inr ⟨old', was, fun here => gone (mem_cons_of_mem _ here), equal⟩

theorem Recreating.all {waiting : List UInt32} (fresh : Fresh server before)
    (recreating : Recreating server chunk before w waiting)
    (known : ∀ id ∈ waiting, id ∈ before.subscriptions) (once : waiting.Nodup) :
    Recreating server chunk before (waiting.foldl (recreateSubscription server chunk) w) [] := by
  induction waiting generalizing w with
  | nil => exact recreating
  | cons id waiting ih =>
    obtain ⟨first, rest⟩ := nodup_cons.mp once
    have later := fun other here => known other (mem_cons_of_mem id here)
    exact ih (recreating.step fresh (known id mem_cons_self) later first) later rest

variable {results : Option (List StatusCode)}

theorem transferred_of_refused {ids : List UInt32}
    (refused : ∀ status ∈ results.getD [], status.isGood = false) :
    transferred ids results = [] := by
  rw [transferred, map_eq_nil_iff, filter_eq_nil_iff]
  intro result here
  rw [refused result.2 (of_mem_zip here).2]
  exact Bool.false_ne_true

theorem recreating_transfer {order : List UInt32} (chunk : ℕ)
    (visits : order.Perm w.client.subscriptions.keys)
    (refused : ∀ status ∈ results.getD [], status.isGood = false) (fresh : Fresh server w.client) :
    Recreating server chunk w.client
      (transferSubscriptionsFromOldSession server chunk results order w) [] := by
  have recreating : Recreating server chunk w.client
      { w with client := { w.client with acknowledgements := [] } } order := by
    constructor
    case waits => exact fun _ _ => rfl
    case succeeded =>
      intro id old found gone
      exact absurd (visits.mem_iff.mpr (mem_keys.mp (mem_of_lookup found))) gone
    case only => exact fun id here => inl (visits.mem_iff.mpr (mem_keys.mp here))
  have everything : order.filter (fun id => id ∉ transferred w.client.subscriptions.keys results) =
      order := by
    rw [transferred_of_refused refused, filter_eq_self]
    intro id _
    exact decide_eq_true not_mem_nil
  rw [transferSubscriptionsFromOldSession, everything]
  exact recreating.all fresh (fun id here => mem_keys.mpr (visits.mem_iff.mp here))
    (visits.nodup_iff.mpr w.client.subscriptions.keys_nodup)

/-- **Recreated subscriptions are equivalent to the lost ones** exactly if all of those can be
recreated. -/
theorem subscriptions_recreated_iff {chunk : ℕ} {results : Option (List StatusCode)}
    {order : List UInt32} (visits : order.Perm w.client.subscriptions.keys)
    (refused : ∀ status ∈ results.getD [], status.isGood = false) (fresh : Fresh server w.client) :
    Recreated w.client (transferSubscriptionsFromOldSession server chunk results order w)
        server.subscriptionId ↔
      ∀ id old, w.client.subscriptions.lookup id = some old → Recreatable chunk old := by
  have all := recreating_transfer chunk visits refused fresh
  constructor
  · intro recreated id old found
    obtain ⟨v, succeeded⟩ := all.succeeded found not_mem_nil
    exact (succeeded.equivalent_iff (fresh.items found)).mp (recreated.each found)
  · intro recreatable
    refine ⟨fresh.distinct, fun id => ⟨fun here => ?_, ?_⟩, fun {id old} found => ?_⟩
    · rcases all.only id here with waits | ⟨old, was, -, same⟩
      · cases waits
      · exact ⟨old, was, same⟩
    · rintro ⟨old, was, rfl⟩
      obtain ⟨s, found⟩ := Option.isSome_iff_exists.mp (lookup_isSome.mpr was)
      obtain ⟨v, _, _, _, _, filled⟩ := all.succeeded found not_mem_nil
      obtain ⟨new, known, -⟩ := filled.client
      exact mem_of_lookup known
    · obtain ⟨v, succeeded⟩ := all.succeeded found not_mem_nil
      exact (succeeded.equivalent_iff (fresh.items found)).mpr (recreatable id old found)

/-! ### Two items -/

/-- A server that adds a hundred to the ids of subscriptions and numbers items from a thousand on.
-/
def countingServer : AcceptingServer plainTypes where
  subscriptionId id := id + 100
  itemId _ index := UInt32.ofNat (1000 + index)
  filterResult := ()
  linkResults _ _ links := some (links.map fun _ => .Good)
  asRequested := rfl

def plainItem (id clientHandle : UInt32) (triggeredItems : Finset UInt32) :
    MonitoredItem plainTypes :=
  ⟨id, clientHandle, (), 1, .reporting, (), triggeredItems, true, ()⟩

def twoItems (triggeredItems : Finset UInt32) : Subscription plainTypes :=
  ((Subscription.new 1 (.fromMillis 100) 60 20 0 0 true ()).insertExistingMonitoredItem
    (plainItem 11 1 triggeredItems)).insertExistingMonitoredItem (plainItem 12 2 ∅)

def twoItemsWorld (triggeredItems : Finset UInt32) : RecreationWorld plainTypes where
  client := (SubscriptionState.new (.fromMillis 100)).addSubscription (twoItems triggeredItems)
  served := ∅
  handles := ⟨.new 1000, rfl, le_rfl, by decide⟩

theorem fresh_twoItems (triggeredItems : Finset UInt32) :
    Fresh countingServer (twoItemsWorld triggeredItems).client := by
  have only : ∀ id old,
      (twoItemsWorld triggeredItems).client.subscriptions.lookup id = some old →
        id = 1 ∧ old = twoItems triggeredItems := by
    intro id old found
    have single : (twoItemsWorld triggeredItems).client.subscriptions.lookup id =
        if id = 1 then some (twoItems triggeredItems) else none := lookup_insert_eq _ _ _ _
    rw [single] at found
    split_ifs at found with same
    exact ⟨same, (Option.some.inj found).symm⟩
  have onlyId : ∀ id ∈ (twoItemsWorld triggeredItems).client.subscriptions, id = 1 := by
    intro id here
    obtain ⟨old, found⟩ := Option.isSome_iff_exists.mp (lookup_isSome.mpr here)
    exact (only id old found).1
  constructor
  case subscriptions =>
    intro id here
    rw [onlyId id here]
    exact ⟨by decide, fun there => absurd (onlyId _ there) (by decide)⟩
  case distinct => exact fun id here id' here' _ => (onlyId id here).trans (onlyId id' here').symm
  case items =>
    intro id old found
    obtain ⟨-, rfl⟩ := only id old found
    have listed : (twoItems triggeredItems).monitoredItems.values =
        [plainItem 12 2 ∅, plainItem 11 1 triggeredItems] := rfl
    have few : ∀ index < (twoItems triggeredItems).monitoredItems.size, index = 0 ∨ index = 1 := by
      intro index low
      have low : index < 2 := low
      omega
    constructor
    · intro item here index low
      rcases mem_cons.mp here with rfl | last
      · rcases few index low with rfl | rfl
        · exact of_decide_eq_true rfl
        · exact of_decide_eq_true rfl
      · rw [mem_singleton.mp last]
        rcases few index low with rfl | rfl
        · exact of_decide_eq_true rfl
        · exact of_decide_eq_true rfl
    · intro first low second high same
      rcases few first low with rfl | rfl
      · exact ((few second high).resolve_right fun one => by subst one; cases same).symm
      · exact ((few second high).resolve_left fun zero => by subst zero; cases same).symm

theorem grantedInterval_requestedInterval {millis : UInt64} (small : millis.toNat < 2 ^ 53) :
    grantedInterval (requestedInterval (.fromMillis millis)) = .fromMillis millis := by
  have whole : (Duration.fromMillis millis).asMillis = millis.toNat :=
    Nat.mul_div_cancel _ (by decide)
  have fits : millis.toNat ≤ 2 ^ 64 - 1 := by omega
  rw [requestedInterval, whole, Binary64.nearest_natCast small, grantedInterval,
    max_eq_left (Nat.cast_nonneg _), Int.floor_natCast, Int.toNat_natCast, min_eq_left fits,
    UInt64.ofNat_toNat]

theorem twoItems_recreated :
    Recreated (twoItemsWorld ∅).client
      (transferSubscriptionsFromOldSession countingServer 1 none [1] (twoItemsWorld ∅))
      countingServer.subscriptionId := by
  refine (subscriptions_recreated_iff (List.Perm.refl _)
      (fun _ here => absurd here not_mem_nil) (fresh_twoItems ∅)).mpr
    fun id old found => ?_
  have single : (twoItemsWorld ∅).client.subscriptions.lookup id =
      if id = 1 then some (twoItems ∅) else none := KeyedMap.lookup_insert_eq _ _ _ _
  rw [single] at found
  split_ifs at found
  obtain rfl := Option.some.inj found
  have listed : (twoItems ∅).monitoredItems.values = [plainItem 12 2 ∅, plainItem 11 1 ∅] := rfl
  constructor
  case interval => exact grantedInterval_requestedInterval (by decide)
  case chunked => exact inl one_ne_zero
  case handles | queues =>
    rw [listed]
    decide
  case unlinked =>
    rintro a here b ⟨id, -, linked⟩
    have none : a.triggeredItems = ∅ := by
      rw [listed] at here
      rcases mem_cons.mp here with rfl | last
      · rfl
      · rw [mem_singleton.mp last]
        rfl
    rw [none] at linked
    exact Finset.notMem_empty id linked

/-- **A link is lost:** the client does not know the new items as linked, and the server was asked
to link the old ones. -/
theorem links_lost :
    Fresh countingServer (twoItemsWorld {12}).client ∧
      ¬ Recreated (twoItemsWorld {12}).client
        (transferSubscriptionsFromOldSession countingServer 2 none [1] (twoItemsWorld {12}))
        countingServer.subscriptionId := by
  refine ⟨fresh_twoItems {12}, fun recreated => ?_⟩
  have here : (twoItemsWorld {12}).client.subscriptions.lookup 1 = some (twoItems {12}) := rfl
  have refused : ∀ status ∈ (none : Option (List StatusCode)).getD [], status.isGood = false :=
    fun _ none => absurd none not_mem_nil
  have all := recreating_transfer 2 (List.Perm.refl [1]) refused (fresh_twoItems {12})
  obtain ⟨v, succeeded⟩ := all.succeeded here not_mem_nil
  have recreatable := (succeeded.equivalent_iff ((fresh_twoItems {12}).items here)).mp
    (recreated.each here)
  exact recreatable.unlinked (plainItem 11 1 {12}) (mem_cons_of_mem _ mem_cons_self)
    (plainItem 12 2 ∅) ⟨12, rfl, Finset.mem_singleton_self 12⟩

end RecreationWorld

end AsyncOpcua.Client
