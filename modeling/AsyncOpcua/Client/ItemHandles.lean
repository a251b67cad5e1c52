/-
**Notifications resolve to the right monitored item.**

The client finds an item by its handle. What it does to its two maps presumes that handles are not
used twice, that a server never changes one, and that a deletion succeeds.

* `handles_resolve` — so it is in every run of orderly steps.
-/

import AsyncOpcua.Client.ItemView

namespace AsyncOpcua.Client

open Foundation Types PreInsertMonitoredItems Duration KeyedMap Or

variable {T : ClientTypes}

namespace Subscription

def itemMap (s : Subscription T) : MonitoredItemMap T := ⟨s.monitoredItems, s.clientHandles⟩

theorem get_eq (s : Subscription T) {handle : UInt32} {id : MonitoredItemId}
    (leads : s.idOf handle = some id) : s.itemMap.get handle = s.monitoredItems.lookup id := by
  show (s.idOf handle).bind _ = _
  rw [leads]
  rfl

end Subscription

open Subscription

open List

open Function

namespace ItemWorld

variable (w : ItemWorld T)

def callsOf (subscriptionId : UInt32) (call : ℕ) : Option (ItemCall T) :=
  (w.calls.lookup call).bind fun running =>
    if running.1 = subscriptionId then some running.2 else none

def view (subscriptionId : UInt32) (s : Subscription T) : ItemView T where
  handleOf := s.handleOf
  idOf := s.idOf
  live := w.live subscriptionId
  calls := w.callsOf subscriptionId

/-- **Handles resolve.** -/
structure Resolves (w : ItemWorld T) : Prop where
  /-- The client's item for a live one: with its id, or temporary while the call that created it is
  in progress. -/
  live : ∀ {subscriptionId s id handle}, w.client.subscriptions.lookup subscriptionId = some s →
    w.live subscriptionId id = some handle →
    ∃ item, s.itemMap.get handle = some item ∧ item.clientHandle = handle ∧
      ((s.idOf handle = some (.server id) ∧ item.id = id) ∨
        ∃ c call t, w.callsOf subscriptionId c = some call ∧ (t, handle, id) ∈ call.made ∧
          s.idOf handle = some (.temporary t))
  /-- Without calls in progress there are no temporary items, and what resolves is live. -/
  settled : ∀ {subscriptionId s}, w.client.subscriptions.lookup subscriptionId = some s →
    (∀ c, w.callsOf subscriptionId c = none) →
    (∀ t, s.monitoredItems.lookup (.temporary t) = none) ∧
      ∀ handle item, s.itemMap.get handle = some item →
        w.live subscriptionId item.id = some handle

def Tracked : Prop :=
  ∀ subscriptionId s, w.client.subscriptions.lookup subscriptionId = some s →
    (w.view subscriptionId s).Tracks ∧ s.Named

theorem Tracked.resolves {w : ItemWorld T} (tracked : w.Tracked) : w.Resolves := by
  constructor
  case live =>
    intro subscriptionId s id handle known live
    obtain ⟨tracks, named⟩ := tracked subscriptionId s known
    rcases tracks.resolves live with ⟨leads, has⟩ | ⟨c, call, t, running, made, leads, has⟩
    · obtain ⟨item, found, handled⟩ := Option.map_eq_some_iff.mp has
      refine ⟨item, (s.get_eq leads).trans found, handled, inl ⟨leads, named id item found⟩⟩
    · obtain ⟨item, found, handled⟩ := Option.map_eq_some_iff.mp has
      exact ⟨item, (s.get_eq leads).trans found, handled, inr ⟨c, call, t, running, made, leads⟩⟩
  case settled =>
    intro subscriptionId s known quiet
    obtain ⟨tracks, named⟩ := tracked subscriptionId s known
    obtain ⟨none, alive⟩ := tracks.settled quiet
    refine ⟨fun t => Option.map_eq_none_iff.mp (none t), fun handle item got => ?_⟩
    obtain ⟨id, leads, found⟩ := Option.bind_eq_some_iff.mp got
    have handled := tracks.linked leads
    cases id with
    | temporary t =>
      rw [none t] at handled
      cases handled
    | server id =>
      rw [named id item found]
      exact alive id handle handled

/-! ### Orderly steps -/

def NotDeleting (subscriptionId id : UInt32) : Prop :=
  ∀ c call, w.callsOf subscriptionId c = some call → id ∉ call.deletes

/-- **An orderly step.** -/
def Orderly : ItemOp T → Prop
  -- The subscription is new, on both sides.
  | .addSubscription s => s.monitoredItems = ∅ ∧ s.clientHandles = ∅ ∧
    (∀ id, w.live s.subscriptionId id = none) ∧ ∀ c, w.callsOf s.subscriptionId c = none
  -- No handle is used twice, and no temporary id that is still in use.
  | .create _ subscriptionId items =>
    (w.client.nextTempIds items.length).1.Nodup ∧
    (items.map MonitoredItemCreateRequest.clientHandle).Nodup ∧
    ∀ s, w.client.subscriptions.lookup subscriptionId = some s →
      (∀ t ∈ (w.client.nextTempIds items.length).1, s.handleOf (.temporary t) = none) ∧
      ∀ item ∈ items, s.idOf item.clientHandle = none
  -- The server gives ids that are not in use.
  | .createServed c results =>
    ∀ subscriptionId items, w.calls.lookup c = some (subscriptionId, .create items none) →
      ((created items results).map fun item =>
        item.2.monitoredItemId).Nodup ∧
      ∀ item ∈ created items results,
        w.live subscriptionId item.2.monitoredItemId = none ∧
        (∀ s, w.client.subscriptions.lookup subscriptionId = some s →
          s.handleOf (.server item.2.monitoredItemId) = none) ∧
        w.NotDeleting subscriptionId item.2.monitoredItemId
  -- A call that is dropped without its results has created nothing.
  | .createDrop c =>
    ∀ subscriptionId items results,
      w.calls.lookup c = some (subscriptionId, .create items (some results)) →
        created items results = []
  -- A modification changes no handle.
  | .modifyServed c results =>
    ∀ subscriptionId items, w.calls.lookup c = some (subscriptionId, .modify items none) →
      ∀ change ∈ servedModify items results, w.live subscriptionId change.1 = change.2
  -- What is to be deleted is known.
  | .delete _ subscriptionId ids =>
    ∀ id ∈ ids, ∀ c call, w.callsOf subscriptionId c = some call → ∀ t handle,
      (t, handle, id) ∉ call.made
  -- Nothing that is to be deleted lives on.
  | .deleteServed c results =>
    ∀ subscriptionId ids, w.calls.lookup c = some (subscriptionId, .delete ids none) →
      ∀ id ∈ ids, setLive w.live subscriptionId (servedDelete ids results) subscriptionId id = none
  -- A deletion that fails has deleted nothing.
  | .abandon c =>
    ∀ subscriptionId ids results, w.calls.lookup c = some (subscriptionId, .delete ids results) →
      results = none
  | _ => True

/-! ### The frame of a step -/

theorem setLive_cons (live : UInt32 → UInt32 → Option UInt32) (subscriptionId : UInt32)
    (change : UInt32 × Option UInt32) (changes : List (UInt32 × Option UInt32)) :
    setLive live subscriptionId (change :: changes) =
      setLive (Function.update live subscriptionId
        (Function.update (live subscriptionId) change.1 change.2)) subscriptionId changes := rfl

section Live

variable {live : UInt32 → UInt32 → Option UInt32} {subscriptionId : UInt32}
  {changes : List (UInt32 × Option UInt32)}

theorem setLive_of_ne {other : UInt32} (ne : other ≠ subscriptionId) :
    setLive live subscriptionId changes other = live other := by
  induction changes generalizing live with
  | nil => rfl
  | cons change changes ih => rw [setLive_cons, ih, update_of_ne ne]

theorem setLive_of_not_mem {id : UInt32} (other : id ∉ changes.map Prod.fst) :
    setLive live subscriptionId changes subscriptionId id = live subscriptionId id := by
  induction changes generalizing live with
  | nil => rfl
  | cons change changes ih =>
    rw [map_cons, mem_cons, not_or] at other
    rw [setLive_cons, ih other.2, update_self, update_of_ne other.1]

theorem setLive_of_mem (distinct : (changes.map Prod.fst).Nodup)
    {change : UInt32 × Option UInt32} (here : change ∈ changes) :
    setLive live subscriptionId changes subscriptionId change.1 = change.2 := by
  induction changes generalizing live with
  | nil => exact absurd here not_mem_nil
  | cons first changes ih =>
    rw [map_cons, nodup_cons] at distinct
    rw [setLive_cons]
    rcases mem_cons.mp here with rfl | later
    · rw [setLive_of_not_mem distinct.1, update_self, update_self]
    · exact ih distinct.2 later

theorem setLive_eq_self (same : ∀ change ∈ changes, live subscriptionId change.1 = change.2) :
    setLive live subscriptionId changes = live := by
  induction changes generalizing live with
  | nil => rfl
  | cons change changes ih =>
    have unchanged : Function.update live subscriptionId
        (Function.update (live subscriptionId) change.1 change.2) = live := by
      rw [← same change mem_cons_self, update_eq_self, update_eq_self]
    rw [setLive_cons, unchanged]
    exact ih fun later here => same later (mem_cons_of_mem _ here)

theorem live_of_setLive_none (none : ∀ change ∈ changes, change.2 = none) {id handle : UInt32}
    (has : setLive live subscriptionId changes subscriptionId id = some handle) :
    live subscriptionId id = some handle := by
  induction changes generalizing live with
  | nil => exact has
  | cons change changes ih =>
    rw [setLive_cons] at has
    have before := ih (fun later here => none later (mem_cons_of_mem _ here)) has
    rw [update_self, none change mem_cons_self] at before
    by_cases same : id = change.1
    · rw [same, update_self] at before
      cases before
    · rwa [update_of_ne same] at before

end Live

section Frame

variable {w w' : ItemWorld T} {subscriptionId : UInt32}

theorem callsOf_insert (calls : KeyedMap ℕ (UInt32 × ItemCall T)) (c : ℕ) (call : ItemCall T) :
    callsOf { w with calls := calls.insert c (subscriptionId, call) } subscriptionId =
      Function.update (callsOf { w with calls := calls } subscriptionId) c (some call) := by
  funext c'
  rw [callsOf, lookup_insert_eq]
  by_cases same : c' = c
  · simp [same]
  · simp [same, callsOf]

theorem callsOf_erase (calls : KeyedMap ℕ (UInt32 × ItemCall T)) (c : ℕ) :
    callsOf { w with calls := calls.erase c } subscriptionId =
      Function.update (callsOf { w with calls := calls } subscriptionId) c none := by
  funext c'
  rw [callsOf, lookup_erase_eq]
  by_cases same : c' = c
  · simp [same]
  · simp [same, callsOf]

theorem callsOf_insert_of_ne {other : UInt32} (ne : other ≠ subscriptionId)
    (calls : KeyedMap ℕ (UInt32 × ItemCall T)) {c : ℕ} (call : ItemCall T)
    (before : callsOf { w with calls := calls } other c = none) :
    callsOf { w with calls := calls.insert c (subscriptionId, call) } other =
      callsOf { w with calls := calls } other := by
  funext c'
  rw [callsOf, lookup_insert_eq]
  by_cases same : c' = c
  · rw [same, before]
    simp [ne.symm]
  · simp [same, callsOf]

theorem callsOf_erase_of_none (calls : KeyedMap ℕ (UInt32 × ItemCall T)) {c : ℕ} {other : UInt32}
    (before : callsOf { w with calls := calls } other c = none) :
    callsOf { w with calls := calls.erase c } other = callsOf { w with calls := calls } other := by
  rw [callsOf_erase]
  exact update_eq_self_iff.mpr before.symm

theorem Tracked.step (tracked : w.Tracked) (subscriptionId : UInt32)
    (others : ∀ other ≠ subscriptionId, w'.client.subscriptions.lookup other =
      w.client.subscriptions.lookup other ∧ w'.live other = w.live other ∧
        w'.callsOf other = w.callsOf other)
    (here : ∀ s, w'.client.subscriptions.lookup subscriptionId = some s →
      (w'.view subscriptionId s).Tracks ∧ s.Named) : w'.Tracked := by
  intro other s known
  by_cases same : other = subscriptionId
  · exact same ▸ here s (same ▸ known)
  · obtain ⟨subscriptions, live, calls⟩ := others other same
    have same : w'.view other s = w.view other s := by rw [view, view, live, calls]
    rw [same]
    exact tracked other s (subscriptions ▸ known)

theorem lookup_onSubscription (s : SubscriptionState T) (change : Subscription T → Subscription T)
    (other : UInt32) : (s.onSubscription subscriptionId change).subscriptions.lookup other =
      if other = subscriptionId then (s.subscriptions.lookup other).map change
      else s.subscriptions.lookup other :=
  lookup_modify _ _ _ _

end Frame

/-! ### Each step -/

section Step

variable {w : ItemWorld T} {c : ℕ} {subscriptionId : UInt32}

variable {call : ItemCall T}

theorem callsOf_of_lookup (running : w.calls.lookup c = some (subscriptionId, call)) :
    w.callsOf subscriptionId c = some call ∧
      ∀ other ≠ subscriptionId, w.callsOf other c = none := by
  unfold callsOf
  rw [running]
  exact ⟨if_pos rfl, fun other ne => if_neg ne.symm⟩

theorem callsOf_of_not_mem (idle : c ∉ w.calls) (other : UInt32) : w.callsOf other c = none := by
  rw [callsOf, AList.lookup_eq_none.mpr idle]
  rfl

theorem nextTempIds_subscriptions (s : SubscriptionState T) (count : ℕ) :
    (s.nextTempIds count).2.subscriptions = s.subscriptions := by
  induction count generalizing s with
  | zero => rfl
  | succ count ih => exact ih _

theorem length_nextTempIds (s : SubscriptionState T) (count : ℕ) :
    (s.nextTempIds count).1.length = count := by
  induction count generalizing s with
  | zero => rfl
  | succ count ih => exact congrArg (· + 1) (ih _)

theorem Tracked.addSubscription (tracked : w.Tracked) {s : Subscription T}
    (orderly : w.Orderly (.addSubscription s)) :
    Tracked { w with client := w.client.addSubscription s } := by
  obtain ⟨items, handles, dead, idle⟩ := orderly
  have lookup : ∀ other, (w.client.addSubscription s).subscriptions.lookup other =
      if other = s.subscriptionId then some s else w.client.subscriptions.lookup other :=
    fun other => lookup_insert_eq _ _ _ _
  refine tracked.step s.subscriptionId (fun other ne => ?_) fun s' known => ?_
  · exact ⟨(lookup other).trans (if_neg ne), rfl, rfl⟩
  · rw [lookup, if_pos rfl, Option.some.injEq] at known
    subst known
    have noItem : ∀ id, s.handleOf id = none := fun id => by
      rw [Subscription.handleOf, items]
      rfl
    have noHandle : ∀ handle, s.idOf handle = none := fun handle => by
      rw [Subscription.idOf, handles]
      rfl
    have named : s.Named := by
      intro id item found
      rw [items] at found
      cases found
    exact ⟨ItemView.tracks_empty noItem noHandle dead idle, named⟩

theorem Tracked.deleteSubscription (tracked : w.Tracked) :
    Tracked { w with client := (w.client.deleteSubscription subscriptionId).2 } := by
  have lookup : ∀ other, (w.client.deleteSubscription subscriptionId).2.subscriptions.lookup other =
      if other = subscriptionId then none else w.client.subscriptions.lookup other :=
    fun other => lookup_erase_eq _ _ _
  refine tracked.step subscriptionId (fun other ne => ?_) fun s' known => ?_
  · exact ⟨(lookup other).trans (if_neg ne), rfl, rfl⟩
  · rw [lookup, if_pos rfl] at known
    cases known

theorem Tracked.onSubscription {w' : ItemWorld T} (tracked : w.Tracked)
    (subscriptionId : UInt32) (change : Subscription T → Subscription T)
    (client : ∀ other, w'.client.subscriptions.lookup other =
      if other = subscriptionId then (w.client.subscriptions.lookup other).map change
      else w.client.subscriptions.lookup other)
    (live : ∀ other ≠ subscriptionId, w'.live other = w.live other)
    (calls : ∀ other ≠ subscriptionId, w'.callsOf other = w.callsOf other)
    (here : ∀ s, w.client.subscriptions.lookup subscriptionId = some s →
      (w.view subscriptionId s).Tracks → s.Named →
        (w'.view subscriptionId (change s)).Tracks ∧ (change s).Named) : w'.Tracked := by
  refine tracked.step subscriptionId (fun other ne => ?_) fun s' known => ?_
  · exact ⟨(client other).trans (if_neg ne), live other ne, calls other ne⟩
  · rw [client, if_pos rfl] at known
    obtain ⟨s, there, rfl⟩ := Option.map_eq_some_iff.mp known
    obtain ⟨tracks, named⟩ := tracked subscriptionId s there
    exact here s there tracks named

theorem Tracked.create (tracked : w.Tracked) {items : List (MonitoredItemCreateRequest T)}
    (idle : c ∉ w.calls) (orderly : w.Orderly (.create c subscriptionId items)) :
    Tracked
      ({ w with client := (PreInsertMonitoredItems.new w.client subscriptionId items).2 }.begin c
      subscriptionId
      (.create (PreInsertMonitoredItems.new w.client subscriptionId items).1 none)) := by
  obtain ⟨drawn, distinct, unused⟩ := orderly
  set ids := (w.client.nextTempIds items.length).1 with idsEq
  set inserted := ids.zip items with insertedEq
  have long : ids.length = items.length := length_nextTempIds _ _
  have firsts : inserted.map Prod.fst = ids := map_fst_zip long.le
  have seconds : inserted.map Prod.snd = items := map_snd_zip long.ge
  have before := callsOf_of_not_mem idle
  refine tracked.onSubscription subscriptionId
    (fun s => (inserted.map tempItem).foldl
      Subscription.insertTemporaryMonitoredItem s) (fun other => ?_) (fun other _ => rfl)
    (fun other ne => callsOf_insert_of_ne ne w.calls _ (before other))
    fun s known tracks named => ?_
  · show ((w.client.nextTempIds items.length).2.onSubscription _ _).subscriptions.lookup other = _
    rw [lookup_onSubscription, nextTempIds_subscriptions]
  · obtain ⟨freshIds, freshHandles⟩ := unused s known
    rw [insertTemporaryMonitoredItems_eq, map_map]
    set entries := inserted.map ((fun item : TempMonitoredItem T =>
      (MonitoredItemId.temporary item.tempId, temporaryItem item)) ∘
        tempItem) with entriesEq
    have entryIds : entries.map Prod.fst = ids.map MonitoredItemId.temporary := by
      rw [← firsts, entriesEq, map_map, map_map]
      rfl
    have entryHandles : entries.map (fun entry => entry.2.clientHandle) =
        items.map MonitoredItemCreateRequest.clientHandle := by
      rw [← seconds, entriesEq, map_map, map_map]
      rfl
    have idsDistinct : (entries.map Prod.fst).Nodup := by
      rw [entryIds]
      exact drawn.map fun _ _ same => by cases same; rfl
    have handlesDistinct : (entries.map fun entry => entry.2.clientHandle).Nodup := by
      rw [entryHandles]
      exact distinct
    have entry : ∀ {item}, item ∈ inserted →
        (MonitoredItemId.temporary item.1, temporaryItem (tempItem item)) ∈
          entries := fun here => mem_map.mpr ⟨_, here, rfl⟩
    have old : ∀ {item}, item ∈ inserted → item.1 ∈ ids ∧ item.2 ∈ items := fun here =>
      of_mem_zip here
    refine ⟨tracks.begin (c := c) (before subscriptionId) (callsOf_insert w.calls c _) rfl ?_
      (fun _ waits => ?_) (fun _ waits => ?_) (fun id other => ?_) (fun handle other => ?_) rfl rfl
      rfl nofun, named.placeAll fun item here id same => ?_⟩
    · rw [ItemCall.waits, map_map]
      exact firsts ▸ drawn
    · obtain ⟨item, here, rfl⟩ := mem_map.mp waits
      exact ⟨freshIds item.1 (old here).1, freshHandles item.2 (old here).2⟩
    · obtain ⟨item, here, rfl⟩ := mem_map.mp waits
      exact ⟨handleOf_placeAll_of_mem idsDistinct (entry here),
        idOf_placeAll_of_mem handlesDistinct (entry here)⟩
    · refine handleOf_placeAll_of_not_mem fun here => ?_
      obtain ⟨_, there, rfl⟩ := mem_map.mp here
      obtain ⟨item, placed, rfl⟩ := mem_map.mp there
      exact other _ (mem_map.mpr ⟨item, placed, rfl⟩) rfl
    · refine idOf_placeAll_of_not_mem fun here => ?_
      obtain ⟨_, there, rfl⟩ := mem_map.mp here
      obtain ⟨item, placed, rfl⟩ := mem_map.mp there
      exact other _ (mem_map.mpr ⟨item, placed, rfl⟩) rfl
    · obtain ⟨_, -, rfl⟩ := mem_map.mp here
      cases same

theorem Tracked.served (tracked : w.Tracked) {old next : ItemCall T}
    {changes : List (UInt32 × Option UInt32)}
    (running : w.calls.lookup c = some (subscriptionId, old))
    (here : ∀ s, w.client.subscriptions.lookup subscriptionId = some s →
      (w.view subscriptionId s).Tracks →
        ((w.served c subscriptionId next changes).view subscriptionId s).Tracks) :
    (w.served c subscriptionId next changes).Tracked := by
  obtain ⟨-, elsewhere⟩ := callsOf_of_lookup running
  refine tracked.step subscriptionId (fun other ne => ?_) fun s known => ?_
  · exact ⟨rfl, setLive_of_ne ne, callsOf_insert_of_ne ne w.calls _ (elsewhere other ne)⟩
  · obtain ⟨tracks, named⟩ := tracked subscriptionId s known
    exact ⟨here s known tracks, named⟩

variable {items : List (ℕ × MonitoredItemCreateRequest T)}

section

variable (tracked : w.Tracked)
include tracked

variable {results : List (MonitoredItemCreateResult T)}

theorem Tracked.createServed
    (running : w.calls.lookup c = some (subscriptionId, .create items none))
    (orderly : w.Orderly (.createServed c results)) :
    (w.served c subscriptionId (.create items (some results))
      (servedCreate items results)).Tracked := by
  obtain ⟨distinct, fresh⟩ := orderly subscriptionId items running
  have ids : (servedCreate items results).map Prod.fst =
      (created items results).map fun item => item.2.monitoredItemId := by
    rw [servedCreate, map_map]
    rfl
  have changeOf : ∀ {t handle id},
      (t, handle, id) ∈ (ItemCall.create items (some results)).made →
        (id, some handle) ∈ servedCreate items results ∧
          ∃ item ∈ created items results, item.2.monitoredItemId = id := by
    intro t handle id here
    obtain ⟨item, there, same⟩ := mem_map.mp here
    cases same
    exact ⟨mem_map.mpr ⟨item, there, rfl⟩, item, there, rfl⟩
  refine tracked.served running fun s known tracks => ?_
  refine tracks.served (c := c) (callsOf_of_lookup running).1
    (callsOf_insert w.calls c _) rfl rfl rfl
    rfl rfl rfl rfl (fun {id handle} live _ => ?_) (fun {id handle} live => ?_)
    (fun {t handle id} here => ?_) ?_ fun {id} here => absurd here not_mem_nil
  · refine (setLive_of_not_mem fun here => ?_).trans live
    rw [ids] at here
    obtain ⟨item, there, rfl⟩ := mem_map.mp here
    have none := (fresh item there).1
    rw [show w.live subscriptionId _ = _ from live] at none
    cases none
  · by_cases new : id ∈ (servedCreate items results).map Prod.fst
    · obtain ⟨change, there, rfl⟩ := mem_map.mp new
      have now : some handle = change.2 :=
        live.symm.trans (setLive_of_mem (ids ▸ distinct) there)
      obtain ⟨item, made, rfl⟩ := mem_map.mp there
      cases now
      exact inr ⟨item.1.1, mem_map.mpr ⟨item, made, rfl⟩⟩
    · exact inl ((setLive_of_not_mem new).symm.trans live)
  · obtain ⟨change, item, there, rfl⟩ := changeOf here
    obtain ⟨dead, unknown, safe⟩ := fresh item there
    exact ⟨dead, setLive_of_mem (ids ▸ distinct) change, unknown s known, safe⟩
  · show (map _ (map _ _)).Nodup
    rw [map_map]
    exact distinct

theorem Tracked.modifyServed {items : List (MonitoredItemModifyRequest T)}
    {results : List (MonitoredItemModifyResult T)}
    (running : w.calls.lookup c = some (subscriptionId, .modify items none))
    (orderly : w.Orderly (.modifyServed c results)) :
    (w.served c subscriptionId (.modify items (some results))
      (servedModify items results)).Tracked := by
  have same : setLive w.live subscriptionId (servedModify items results) = w.live :=
    setLive_eq_self (orderly subscriptionId items running)
  refine tracked.served running fun s known tracks => ?_
  refine tracks.served (c := c) (callsOf_of_lookup running).1
    (callsOf_insert w.calls c _) rfl rfl rfl
    rfl rfl rfl rfl (fun {id handle} live _ => ?_) (fun {id handle} live => ?_)
    (fun {t handle id} here => absurd here not_mem_nil) nodup_nil
    fun {id} here => absurd here not_mem_nil
  · exact (congrFun (congrFun same subscriptionId) id).trans live
  · exact inl ((congrFun (congrFun same subscriptionId) id).symm.trans live)

theorem Tracked.deleteServed {ids : List UInt32} {results : List StatusCode}
    (running : w.calls.lookup c = some (subscriptionId, .delete ids none))
    (orderly : w.Orderly (.deleteServed c results)) :
    (w.served c subscriptionId (.delete ids (some results))
      (servedDelete ids results)).Tracked := by
  have gone := orderly subscriptionId ids running
  have none : ∀ change ∈ servedDelete ids results, change.2 = none := by
    intro change here
    obtain ⟨item, -, rfl⟩ := mem_map.mp here
    rfl
  have listed : ∀ id ∈ (servedDelete ids results).map Prod.fst, id ∈ ids := by
    intro id here
    obtain ⟨change, there, rfl⟩ := mem_map.mp here
    obtain ⟨item, zipped, rfl⟩ := mem_map.mp there
    exact (of_mem_zip (mem_filter.mp zipped).1).1
  refine tracked.served running fun s known tracks => ?_
  refine tracks.served (c := c) (callsOf_of_lookup running).1
    (callsOf_insert w.calls c _) rfl rfl rfl
    rfl rfl rfl rfl (fun {id handle} live other => ?_) (fun {id handle} live => ?_)
    (fun {t handle id} here => absurd here not_mem_nil) nodup_nil
    fun {id} here => gone id here
  · exact (setLive_of_not_mem fun here => other (listed id here)).trans live
  · exact inl (live_of_setLive_none none live)

theorem Tracked.createFinish
    (running : w.calls.lookup c = some (subscriptionId, .create items (some results))) :
    Tracked ({ w with client := PreInsertMonitoredItems.finish w.client subscriptionId items results
      }.begin c subscriptionId (.finished (flags items results))) := by
  obtain ⟨here, elsewhere⟩ := callsOf_of_lookup running
  refine tracked.onSubscription subscriptionId
    (fun s => s.insertMonitoredItems
      ((created items results).map createdItem))
    (fun other => lookup_onSubscription _ _ other) (fun other _ => rfl)
    (fun other ne => callsOf_insert_of_ne ne w.calls _ (elsewhere other ne))
    fun s known tracks named => ?_
  rw [insertMonitoredItems_eq, map_map]
  set entries := (created items results).map
    ((fun i : CreateMonitoredItem T => (MonitoredItemId.server i.id, confirmedItem i)) ∘
      createdItem) with entriesEq
  set made := (ItemCall.create items (some results)).made with madeEq
  have idsDistinct : (entries.map Prod.fst).Nodup := by
    have ids :
        entries.map Prod.fst = (made.map fun item => item.2.2).map MonitoredItemId.server := by
      rw [entriesEq, madeEq, ItemCall.made, map_map, map_map, map_map]
      rfl
    rw [ids]
    exact (tracks.made_nodup here).map fun _ _ same => by cases same; rfl
  have handlesDistinct : (entries.map fun entry => entry.2.clientHandle).Nodup := by
    have handles : (entries.map fun entry => entry.2.clientHandle) =
        made.map fun item => item.2.1 := by
      rw [entriesEq, madeEq, ItemCall.made, map_map, map_map]
      rfl
    rw [handles]
    exact tracks.made_handles here
  have placed : ∀ {t handle id}, (t, handle, id) ∈ made →
      ∃ item : MonitoredItem T, (MonitoredItemId.server id, item) ∈ entries ∧
        item.clientHandle = handle := by
    intro t handle id there
    obtain ⟨item, created, same⟩ := mem_map.mp there
    cases same
    exact ⟨_, mem_map.mpr ⟨item, created, rfl⟩, rfl⟩
  have entered : ∀ {entry}, entry ∈ entries → ∃ t id, (t, entry.2.clientHandle, id) ∈ made ∧
      entry.1 = .server id ∧ entry.2.id = id := by
    intro entry there
    obtain ⟨item, created, rfl⟩ := mem_map.mp there
    exact ⟨item.1.1, _, mem_map.mpr ⟨item, created, rfl⟩, rfl, rfl⟩
  refine ⟨tracks.finish (c := c) here (callsOf_insert w.calls c _) rfl
    (fun {t handle id} there => ?_)
    (fun {id} other => ?_) fun {handle} other => ?_, named.placeAll fun entry there id same => ?_⟩
  · obtain ⟨item, entry, rfl⟩ := placed there
    exact ⟨handleOf_placeAll_of_mem idsDistinct entry,
      idOf_placeAll_of_mem handlesDistinct entry⟩
  · refine handleOf_placeAll_of_not_mem fun there => ?_
    obtain ⟨entry, listed, rfl⟩ := mem_map.mp there
    obtain ⟨t, id, mine, same, -⟩ := entered listed
    exact other t _ id mine same
  · refine idOf_placeAll_of_not_mem fun there => ?_
    obtain ⟨entry, listed, rfl⟩ := mem_map.mp there
    obtain ⟨t, id, mine, -⟩ := entered listed
    exact other t _ id mine rfl
  · obtain ⟨t, id', -, same', named'⟩ := entered there
    rw [same'] at same
    cases same
    exact named'

theorem Tracked.removed {call : ItemCall T} {client : SubscriptionState T}
    (running : w.calls.lookup c = some (subscriptionId, call)) (unmade : call.made = [])
    (ids : List (MonitoredItemId × Bool))
    (after : ∀ other, client.subscriptions.lookup other =
      if other = subscriptionId then
        (w.client.subscriptions.lookup other).map fun s => s.removeAll ids
      else w.client.subscriptions.lookup other)
    (temps : ∀ t, .temporary t ∈ ids.map Prod.fst ↔ t ∈ call.temps)
    (deleted : ∀ id, .server id ∈ ids.map Prod.fst ↔ id ∈ call.deleted)
    (alike : ∀ {v : ItemView T}, v.Tracks → v.calls c = some call →
      ∀ a ∈ ids, ∀ b ∈ ids, a.1 = b.1 → a.2 = b.2)
    (owned : ∀ {v : ItemView T} {id handle}, v.Tracks → v.calls c = some call → (id, true) ∈ ids →
      v.handleOf id = some handle → v.idOf handle = some id)
    (mute : ∀ {v : ItemView T} {id handle}, v.Tracks → v.calls c = some call → (id, false) ∈ ids →
      v.idOf handle ≠ some id) : (w.finish c client).Tracked := by
  obtain ⟨here, elsewhere⟩ := callsOf_of_lookup running
  refine tracked.onSubscription subscriptionId _ after (fun other _ => rfl)
    (fun other ne => callsOf_erase_of_none w.calls (elsewhere other ne))
    fun s known tracks named => ?_
  refine ⟨tracks.remove (c := c) here (callsOf_erase w.calls c) rfl unmade ids temps deleted
    (owned tracks here) (mute tracks here) (s.handleOf_removeAll ids) ?_ ?_, named.removeAll ids⟩
  · exact fun removed has => idOf_removeAll_of_mem (alike tracks here) removed has
  · intro handle other
    refine idOf_removeAll_of_not_mem fun id listed flag => other id.1 ?_
    rw [← flag]
    exact listed

theorem Tracked.dropped {call : ItemCall T}
    (running : w.calls.lookup c = some (subscriptionId, call)) (unmade : call.made = [])
    (undeleted : call.deleted = []) {ids : List (ℕ × Bool)}
    (temps : ids.map Prod.fst = call.temps)
    (unheard : ∀ {v : ItemView T} {t}, v.Tracks → v.calls c = some call → (t, false) ∈ ids →
      ∃ handle, v.handleOf (.temporary t) = some handle ∧ v.idOf handle = some (.temporary t))
    (heard : ∀ {v : ItemView T} {t handle}, v.Tracks → v.calls c = some call → (t, true) ∈ ids →
      v.idOf handle ≠ some (.temporary t)) :
    (w.finish c (drop w.client subscriptionId ids)).Tracked := by
  set removals : List (MonitoredItemId × Bool) :=
    ids.map fun id => (.temporary id.1, !id.2) with removalsEq
  have eachRemoval : ∀ {id flag}, (id, flag) ∈ removals →
      ∃ t, id = .temporary t ∧ (t, !flag) ∈ ids := by
    intro id flag here
    obtain ⟨⟨t, created⟩, there, same⟩ := mem_map.mp here
    cases same
    exact ⟨t, rfl, by rw [Bool.not_not]; exact there⟩
  refine tracked.removed running unmade removals (fun other => ?_) (fun t => ?_)
    (fun id => ?_) ?_ ?_ ?_
  · rw [PreInsertMonitoredItems.drop, SubscriptionState.clearTemporaryIds, lookup_onSubscription]
    have each : (fun s : Subscription T => ids.foldl
        (fun s id => s.clearTemporaryId (.temporary id.1) !id.2) s) = fun s =>
          s.removeAll removals := by
      funext s
      rw [Subscription.removeAll, removalsEq, foldl_map]
      rfl
    rw [each]
  · rw [← temps]
    constructor
    · intro here
      obtain ⟨⟨id, flag⟩, listed, same⟩ := mem_map.mp here
      obtain ⟨t', same', there⟩ := eachRemoval listed
      cases same.symm.trans same'
      exact mem_map.mpr ⟨_, there, rfl⟩
    · intro here
      obtain ⟨id, there, rfl⟩ := mem_map.mp here
      exact mem_map.mpr ⟨_, mem_map.mpr ⟨id, there, rfl⟩, rfl⟩
  · refine iff_of_false (fun here => ?_) (by rw [undeleted]; exact not_mem_nil)
    obtain ⟨⟨id', flag⟩, listed, same⟩ := mem_map.mp here
    obtain ⟨t, same', -⟩ := eachRemoval listed
    cases same.symm.trans same'
  · intro v tracks there a inA b inB same
    obtain ⟨t, atA, hasA⟩ := eachRemoval inA
    obtain ⟨t', atB, hasB⟩ := eachRemoval inB
    rw [same, atB] at atA
    cases atA
    have nodup := tracks.temps_nodup there
    rw [← temps] at nodup
    have flags := inj_on_of_nodup_map nodup hasA hasB rfl
    simpa using flags
  · intro v id handle tracks there listed has
    obtain ⟨t, rfl, mine⟩ := eachRemoval listed
    obtain ⟨handle', has', leads⟩ := unheard tracks there mine
    rw [has, Option.some.injEq] at has'
    exact has' ▸ leads
  · intro v id handle tracks there listed
    obtain ⟨t, rfl, mine⟩ := eachRemoval listed
    exact heard tracks there mine

theorem Tracked.createDrop {results : Option (List (MonitoredItemCreateResult T))}
    (running : w.calls.lookup c = some (subscriptionId, .create items results))
    (orderly : w.Orderly (.createDrop c)) :
    (w.finish c (drop w.client subscriptionId
      (items.map fun item => (item.1, false)))).Tracked := by
  have unmade : (ItemCall.create items results).made = [] := by
    cases results with
    | none => rfl
    | some results => exact congrArg (map _) (orderly subscriptionId items results running)
  refine tracked.dropped running unmade rfl ?_ ?_ ?_
  · rw [ItemCall.temps_create, map_map]
    rfl
  · intro v t tracks there here
    obtain ⟨item, listed, same⟩ := mem_map.mp here
    cases same
    exact ⟨_, tracks.waiting there (mem_map.mpr ⟨item, listed, rfl⟩)⟩
  · intro v t handle tracks there here
    obtain ⟨item, -, same⟩ := mem_map.mp here
    cases same

theorem Tracked.finishedDrop {ids : List (ℕ × Bool)}
    (running : w.calls.lookup c = some (subscriptionId, .finished ids)) :
    (w.finish c (drop w.client subscriptionId ids)).Tracked :=
  tracked.dropped running rfl rfl rfl (fun tracks there here => tracks.clearing there here)
    fun tracks there here => (tracks.cleared there here).2 _

theorem Tracked.deleteFinish {ids : List UInt32} {results : List StatusCode}
    (running : w.calls.lookup c = some (subscriptionId, .delete ids (some results))) :
    (w.finish c (w.client.deleteMonitoredItems subscriptionId ids)).Tracked := by
  set removals : List (MonitoredItemId × Bool) :=
    ids.map fun id => (.server id, true) with removalsEq
  have eachRemoval : ∀ {removal}, removal ∈ removals →
      removal.2 = true ∧ ∃ id ∈ ids, removal.1 = .server id := by
    intro removal here
    obtain ⟨id, there, rfl⟩ := mem_map.mp here
    exact ⟨rfl, id, there, rfl⟩
  refine tracked.removed running rfl removals (fun other => ?_) (fun t => ?_) (fun id => ?_)
    ?_ ?_ ?_
  · rw [SubscriptionState.deleteMonitoredItems, lookup_onSubscription]
    have each : (fun s : Subscription T => s.deleteMonitoredItems ids) =
        fun s => s.removeAll removals := by
      funext s
      rw [Subscription.removeAll, removalsEq, foldl_map]
      rfl
    rw [each]
  · refine iff_of_false (fun here => ?_) not_mem_nil
    obtain ⟨removal, listed, same⟩ := mem_map.mp here
    obtain ⟨-, id, -, same'⟩ := eachRemoval listed
    cases same.symm.trans same'
  · constructor
    · intro here
      obtain ⟨removal, listed, same⟩ := mem_map.mp here
      obtain ⟨-, id', there, same'⟩ := eachRemoval listed
      cases same.symm.trans same'
      exact there
    · intro here
      exact mem_map.mpr ⟨_, mem_map.mpr ⟨id, here, rfl⟩, rfl⟩
  · intro v tracks there a inA b inB same
    rw [(eachRemoval inA).1, (eachRemoval inB).1]
  · intro v id handle tracks there listed has
    obtain ⟨-, id', -, rfl⟩ := eachRemoval listed
    exact tracks.confirmed has
  · intro v id handle tracks there listed
    cases (eachRemoval listed).1

end

theorem handleOf_modifyMonitoredItems (s : Subscription T)
    (changes : List (ModifyMonitoredItem T)) :
    (s.modifyMonitoredItems changes).handleOf = s.handleOf ∧
      (s.modifyMonitoredItems changes).idOf = s.idOf ∧
      (s.Named → (s.modifyMonitoredItems changes).Named) := by
  induction changes generalizing s with
  | nil => exact ⟨rfl, rfl, id⟩
  | cons change changes ih =>
    obtain ⟨handles, ids, named⟩ := ih
      { s with monitoredItems := s.monitoredItems.modify (.server change.id) fun item =>
        { item with
          samplingInterval := change.samplingInterval
          queueSize := change.queueSize.toNat
          filter := change.filter } }
    refine ⟨handles.trans ?_, ids.trans rfl, fun before => named (before.modify _ fun _ => rfl)⟩
    funext id
    exact s.handleOf_modify _ id fun _ => rfl

theorem Tracked.ended (tracked : w.Tracked) {call : ItemCall T}
    (running : w.calls.lookup c = some (subscriptionId, call)) (unmade : call.made = [])
    (undeleted : call.deleted = []) (temps : call.temps = []) {client : SubscriptionState T}
    {change : Subscription T → Subscription T}
    (after : ∀ other, client.subscriptions.lookup other =
      if other = subscriptionId then (w.client.subscriptions.lookup other).map change
      else w.client.subscriptions.lookup other)
    (same : ∀ s, (change s).handleOf = s.handleOf ∧ (change s).idOf = s.idOf ∧
      (s.Named → (change s).Named)) : (w.finish c client).Tracked := by
  obtain ⟨here, elsewhere⟩ := callsOf_of_lookup running
  refine tracked.onSubscription subscriptionId _ after (fun other _ => rfl)
    (fun other ne => callsOf_erase_of_none w.calls (elsewhere other ne))
    fun s known tracks named => ?_
  obtain ⟨handles, ids, keeps⟩ := same s
  refine ⟨tracks.remove (c := c) here (callsOf_erase w.calls c) rfl unmade []
    (fun t => ?_) (fun id => ?_) nofun nofun (congrFun handles) nofun
    (fun _ => congrFun ids _), keeps named⟩
  · rw [temps]
    exact iff_of_false not_mem_nil not_mem_nil
  · rw [undeleted]
    exact iff_of_false not_mem_nil not_mem_nil

theorem Tracked.begin (tracked : w.Tracked) {call : ItemCall T} (idle : c ∉ w.calls)
    (waits : call.waits = []) (clears : call.clears = []) (unmade : call.made = [])
    (undeleted : call.deleted = [])
    (known : ∀ id ∈ call.deletes, ∀ c' call', w.callsOf subscriptionId c' = some call' →
      ∀ t handle, (t, handle, id) ∉ call'.made) : (w.begin c subscriptionId call).Tracked := by
  have before := callsOf_of_not_mem idle
  refine tracked.step subscriptionId (fun other ne => ?_) fun s there => ?_
  · exact ⟨rfl, rfl, callsOf_insert_of_ne ne w.calls _ (before other)⟩
  · obtain ⟨tracks, named⟩ := tracked subscriptionId s there
    refine ⟨tracks.begin (c := c) (before subscriptionId) (callsOf_insert w.calls c _) rfl ?_ ?_ ?_
      (fun _ _ => rfl) (fun _ _ => rfl) clears unmade undeleted known, named⟩
    all_goals simp only [waits, map_nil, nodup_nil, not_mem_nil, false_imp_iff, implies_true]

theorem Tracked.applyItemOp (tracked : w.Tracked) {op : ItemOp T} (orderly : w.Orderly op)
    {w' : ItemWorld T} (applied : w.applyItemOp op = some w') : w'.Tracked := by
  cases op <;> simp only [ItemWorld.applyItemOp] at applied
  case addSubscription s =>
    cases applied
    exact tracked.addSubscription orderly
  case deleteSubscription subscriptionId =>
    cases applied
    exact tracked.deleteSubscription
  case create c subscriptionId items =>
    split_ifs at applied with running
    cases applied
    exact tracked.create running orderly
  case modify c subscriptionId items =>
    split_ifs at applied with running
    cases applied
    exact tracked.begin running rfl rfl rfl rfl nofun
  case delete c subscriptionId ids =>
    split_ifs at applied with running
    cases applied
    exact tracked.begin running rfl rfl rfl rfl orderly
  case createServed c results =>
    split at applied <;> cases applied
    next running => exact tracked.createServed running orderly
  case createFinish c =>
    split at applied <;> cases applied
    next running => exact tracked.createFinish running
  case createDrop c =>
    split at applied
    case h_1 running =>
      cases applied
      exact tracked.createDrop running orderly
    case h_2 running =>
      cases applied
      exact tracked.finishedDrop running
    case h_3 => cases applied
  case modifyServed c results =>
    split at applied <;> cases applied
    next running => exact tracked.modifyServed running orderly
  case modifyFinish c =>
    split at applied <;> cases applied
    next running =>
      exact tracked.ended running rfl rfl rfl (lookup_onSubscription _ _)
        fun s => handleOf_modifyMonitoredItems s _
  case deleteServed c results =>
    split at applied <;> cases applied
    next running => exact tracked.deleteServed running orderly
  case deleteFinish c =>
    split at applied <;> cases applied
    next running => exact tracked.deleteFinish running
  case abandon c =>
    have unchanged : ∀ subscriptionId other : UInt32, w.client.subscriptions.lookup other =
        if other = subscriptionId then (w.client.subscriptions.lookup other).map id
        else w.client.subscriptions.lookup other := by
      intro subscriptionId other
      rw [Option.map_id, id, ite_self]
    have same : ∀ s : Subscription T, (id s).handleOf = s.handleOf ∧ (id s).idOf = s.idOf ∧
        (s.Named → (id s).Named) := fun s => ⟨rfl, rfl, id⟩
    split at applied
    case h_1 running =>
      cases applied
      exact tracked.ended running rfl rfl rfl (unchanged _) same
    case h_2 subscriptionId ids results running =>
      cases applied
      have unanswered := orderly subscriptionId ids results running
      exact tracked.ended running rfl (unanswered ▸ rfl) rfl (unchanged _) same
    case h_3 => cases applied

end Step

theorem tracked_new (minPublishInterval : Duration) :
    (ItemWorld.new minPublishInterval : ItemWorld T).Tracked :=
  fun _ _ known => absurd known (by rintro ⟨⟩)

/-- **Handles resolve after every run of orderly steps.** -/
theorem handles_resolve (minPublishInterval : Duration) (ops : List (ItemOp T)) {w : ItemWorld T}
    (orderly : (itemMachine T).Guarded Orderly (.new minPublishInterval) ops)
    (ran : (itemMachine T).run (.new minPublishInterval) ops = some w) : w.Resolves :=
  ((itemMachine T).run_invariant_of_guarded
    (fun _ _ _ tracked meets stepped => Tracked.applyItemOp tracked meets stepped)
    (tracked_new minPublishInterval) orderly ran).resolves

/-! ### One item -/

def requestSeven : MonitoredItemCreateRequest plainTypes where
  itemToMonitor := ()
  monitoringMode := .reporting
  clientHandle := 7
  samplingInterval := ()
  filter := ()
  queueSize := 1
  discardOldest := true

def resultFive (statusCode : StatusCode) : MonitoredItemCreateResult plainTypes where
  statusCode := statusCode
  monitoredItemId := 5
  revisedSamplingInterval := ()
  revisedQueueSize := 1
  filterResult := ()

def createFive : List (ItemOp plainTypes) :=
  [.addSubscription (.new 1 zero 30 10 0 0 true ()), .create 0 1 [requestSeven],
    .createServed 0 [resultFive .Good], .createFinish 0, .createDrop 0]

def Distinct : Prop :=
  ∀ subscriptionId id id' handle, w.live subscriptionId id = some handle →
    w.live subscriptionId id' = some handle → id = id'

def requestEight : MonitoredItemModifyRequest plainTypes where
  monitoredItemId := 5
  clientHandle := 8
  samplingInterval := ()
  filter := ()
  queueSize := 1

def modifiedFive : MonitoredItemModifyResult plainTypes where
  statusCode := .Good
  revisedSamplingInterval := ()
  revisedQueueSize := 1
  filterResult := ()

/-- Two items are created, the first is modified and the second deleted. -/
def modifiedAndDeleted : List (ItemOp plainTypes) :=
  [.addSubscription (.new 1 zero 30 10 0 0 true ()),
    .create 0 1 [requestSeven, { requestSeven with clientHandle := 9 }],
    .createServed 0 [resultFive .Good, { resultFive .Good with monitoredItemId := 6 }],
    .createFinish 0, .createDrop 0, .modify 0 1 [{ requestEight with clientHandle := 7 }],
    .modifyServed 0 [modifiedFive], .modifyFinish 0, .delete 0 1 [6], .deleteServed 0 [.Good],
    .deleteFinish 0]

theorem callsOf_of_calls {w : ItemWorld T} {c : ℕ} {entry : UInt32 × ItemCall T}
    (calls : w.calls = AList.insert c entry ∅) {subscriptionId : UInt32} {d : ℕ} {call : ItemCall T}
    (running : w.callsOf subscriptionId d = some call) : call = entry.2 := by
  obtain ⟨found, there, chosen⟩ := Option.bind_eq_some_iff.mp running
  rw [calls, lookup_insert_eq] at there
  split_ifs at there
  · cases there
    split_ifs at chosen
    exact (Option.some.inj chosen).symm
  · cases there

/-- **The handles of items that are created, modified and deleted resolve.** -/
theorem handles_resolve_modified :
    ∃ w, (itemMachine plainTypes).run (.new zero) modifiedAndDeleted =
    some w ∧ w.live 1 5 = some 7 ∧ w.live 1 6 = none ∧ w.Resolves := by
  refine ⟨_, rfl, rfl, rfl, handles_resolve zero modifiedAndDeleted ?_ rfl⟩
  refine ⟨⟨rfl, rfl, fun _ => rfl, fun _ => rfl⟩, ?_⟩
  rintro _ ⟨⟩
  refine ⟨⟨by decide, by decide, fun s known => ?_⟩, ?_⟩
  · cases known
    exact ⟨fun t _ => rfl, fun item _ => rfl⟩
  rintro w ⟨⟩
  refine ⟨fun subscriptionId items running => ?_, ?_⟩
  · cases running
    refine ⟨by decide, fun item here => ?_⟩
    have made : item ∈ [((0, requestSeven), resultFive .Good),
        ((1, { requestSeven with clientHandle := 9 }),
          { resultFive .Good with monitoredItemId := 6 })] := here
    rcases mem_pair.mp made with rfl | rfl
    all_goals
      refine ⟨rfl, fun s known => ?_, fun c call there => ?_⟩
      · cases known
        rfl
      · rw [callsOf_of_calls rfl there]
        exact not_mem_nil
  rintro _ ⟨⟩
  refine ⟨trivial, ?_⟩
  rintro _ ⟨⟩
  refine ⟨(fun subscriptionId items results running => by cases running), ?_⟩
  rintro _ ⟨⟩
  refine ⟨trivial, ?_⟩
  rintro _ ⟨⟩
  refine ⟨fun subscriptionId items running => ?_, ?_⟩
  · cases running
    intro change member
    rw [mem_singleton.mp member]
    rfl
  rintro _ ⟨⟩
  refine ⟨trivial, ?_⟩
  rintro _ ⟨⟩
  refine ⟨fun id listed c call running => ?_, ?_⟩
  · cases running
  rintro _ ⟨⟩
  refine ⟨fun subscriptionId ids running id listed => ?_, ?_⟩
  · cases running
    rw [mem_singleton.mp listed]
    rfl
  rintro _ ⟨⟩
  exact ⟨trivial, fun _ _ => trivial⟩

/-- The server gives the item 5 another handle. -/
def handleChanged : List (ItemOp plainTypes) :=
  createFive ++ [.modify 0 1 [requestEight], .modifyServed 0 [modifiedFive], .modifyFinish 0]

/-- A second item is asked for with the handle of the first, and refused. -/
def handleReused : List (ItemOp plainTypes) :=
  createFive ++ [.create 0 1 [requestSeven], .createServed 0 [resultFive .BadTooManyMonitoredItems],
    .createFinish 0, .createDrop 0]

def OnlyFive (w : ItemWorld plainTypes) : Prop :=
  ∀ subscriptionId id handle, w.live subscriptionId id = some handle → id = 5

theorem OnlyFive.distinct {w : ItemWorld plainTypes} (only : w.OnlyFive) : w.Distinct :=
  fun subscriptionId id id' handle has has' =>
    (only subscriptionId id handle has).trans (only subscriptionId id' handle has').symm

theorem onlyFive_setLive {live : UInt32 → UInt32 → Option UInt32}
    (only : ∀ subscriptionId id handle, live subscriptionId id = some handle → id = 5)
    (other : UInt32) (handle : Option UInt32) :
    ∀ subscriptionId id h, setLive live other [(5, handle)] subscriptionId id = some h →
      id = 5 := by
  intro subscriptionId id h has
  by_contra ne
  by_cases same : subscriptionId = other
  · rw [same, setLive_of_not_mem (by simpa using ne)] at has
    exact ne (only other id h has)
  · rw [setLive_of_ne same] at has
    exact ne (only subscriptionId id h has)

theorem onlyFive_cons {w w' : ItemWorld plainTypes} {op : ItemOp plainTypes}
    {ops : List (ItemOp plainTypes)} (only : w.OnlyFive) (stepped : w.applyItemOp op = some w')
    (changes : w'.live = w.live ∨
      ∃ other handle, w'.live = setLive w.live other [(5, handle)])
    (rest : w'.OnlyFive → (itemMachine plainTypes).Always Distinct w' ops) :
    (itemMachine plainTypes).Always Distinct w (op :: ops) := by
  refine ⟨only.distinct, fun w'' same => ?_⟩
  cases stepped.symm.trans same
  refine rest ?_
  rcases changes with still | ⟨other, handle, set⟩
  · intro subscriptionId id h has
    exact only subscriptionId id h (still ▸ has)
  · intro subscriptionId id h has
    exact onlyFive_setLive only other handle subscriptionId id h (set ▸ has)

theorem not_resolves {w : ItemWorld plainTypes} {s : Subscription plainTypes} {handle : UInt32}
    (known : w.client.subscriptions.lookup 1 = some s) (live : w.live 1 5 = some handle)
    (lost : s.itemMap.get handle = none) : ¬ w.Resolves := by
  intro resolves
  obtain ⟨item, got, -⟩ := resolves.live known live
  rw [lost] at got
  cases got

/-- **A handle that the server has changed does not resolve, and neither does one that a refused
request has used again.** -/
theorem live_handle_lost :
    ((itemMachine plainTypes).Always Distinct (.new zero) handleChanged ∧
      ∃ w, (itemMachine plainTypes).run (.new zero) handleChanged = some w ∧
        w.live 1 5 = some 8 ∧ ¬ w.Resolves) ∧
    ((itemMachine plainTypes).Always Distinct (.new zero) handleReused ∧
      ∃ w, (itemMachine plainTypes).run (.new zero) handleReused = some w ∧
        w.live 1 5 = some 7 ∧ ¬ w.Resolves) := by
  have none : (ItemWorld.new zero : ItemWorld plainTypes).OnlyFive := fun _ _ _ => nofun
  refine ⟨⟨?_, _, rfl, rfl, not_resolves rfl rfl rfl⟩, ?_, _, rfl, rfl, not_resolves rfl rfl rfl⟩
  · exact onlyFive_cons none rfl (.inl rfl) fun only =>
      onlyFive_cons only rfl (.inl rfl) fun only =>
      onlyFive_cons only rfl (.inr ⟨1, some 7, rfl⟩) fun only => onlyFive_cons only rfl (.inl rfl)
        fun only => onlyFive_cons only rfl (.inl rfl) fun only => onlyFive_cons only rfl (.inl rfl)
          fun only => onlyFive_cons only rfl (.inr ⟨1, some 8, rfl⟩) fun only =>
            onlyFive_cons only rfl (.inl rfl) OnlyFive.distinct
  · exact onlyFive_cons none rfl (.inl rfl) fun only =>
      onlyFive_cons only rfl (.inl rfl) fun only =>
      onlyFive_cons only rfl (.inr ⟨1, some 7, rfl⟩) fun only => onlyFive_cons only rfl (.inl rfl)
        fun only => onlyFive_cons only rfl (.inl rfl) fun only => onlyFive_cons only rfl (.inl rfl)
          fun only => onlyFive_cons only rfl (.inl rfl) fun only =>
            onlyFive_cons only rfl (.inl rfl)
            fun only => onlyFive_cons only rfl (.inl rfl) OnlyFive.distinct

end ItemWorld

end AsyncOpcua.Client
