/-
**What the items of a session watch, and how that comes to an end.**

An item watches an attribute of a node, in a mode. Notifications and ticks change neither. What is
watched ends with the deletion of the item, with the deletion of its subscription, or with the
expiry of its subscription; each reports the items that it ends.
-/

import AsyncOpcua.Subscriptions.Closing
import AsyncOpcua.Subscriptions.NotifiedItems
import AsyncOpcua.Subscriptions.PriorityCache

namespace AsyncOpcua.Subscriptions

open Types Foundation List SessionSubscriptions Subscription AList Machine Or

structure MonitoredItemHandle where
  subscriptionId : ℕ
  monitoredItemId : ℕ
  deriving DecidableEq

structure MonitoredItemKey (E : Externals) where
  id : E.NodeId
  attributeId : ℕ

structure Watch (E : Externals) where
  id : ℕ
  itemToMonitor : ParsedReadValueId E
  monitoringMode : MonitoringMode

variable {E : Externals}

def Watch.key (watch : Watch E) : MonitoredItemKey E :=
  ⟨watch.itemToMonitor.nodeId, watch.itemToMonitor.attributeId⟩

def Watch.enabled (watch : Watch E) : Bool := decide (watch.monitoringMode ≠ .disabled)

namespace MonitoredItemRef

def handle (ref : MonitoredItemRef E) : MonitoredItemHandle :=
  ⟨ref.subscriptionId, ref.monitoredItemId⟩

def key (ref : MonitoredItemRef E) : MonitoredItemKey E := ⟨ref.nodeId, ref.attributeId⟩

end MonitoredItemRef

/-! ### One item -/

namespace MonitoredItem

variable (item : MonitoredItem E)

def watch : Watch E :=
  ⟨item.id, item.itemToMonitor, item.monitoringMode⟩

section

variable (item : MonitoredItem E)

@[simp]
theorem enqueueNotification_watch (notification : Notification E) :
    (item.enqueueNotification notification).watch = item.watch := by
  obtain ⟨_, _, same⟩ := item.enqueueNotification_frame notification
  rw [same]
  rfl

@[simp]
theorem acceptDataValue_watch (value : E.DataValue) (now : ℤ)
    (fromSubscriptionTick extraEnqueued : Bool) :
    (item.acceptDataValue value now fromSubscriptionTick extraEnqueued).2.watch = item.watch := by
  unfold acceptDataValue
  dsimp only
  split_ifs <;> first | rfl | exact enqueueNotification_watch _ _

theorem withheldSemanticsChanged_watch {notify : MonitoredItem E → Bool × MonitoredItem E}
    (keeps : ∀ item : MonitoredItem E, (notify item).2.watch = item.watch) :
    (item.withheldSemanticsChanged notify).2.watch = item.watch :=
  keeps { item with semanticsChanged := false }

@[simp]
theorem notifyDataValue_watch (value : E.DataValue) (now : ℤ) (fromSubscriptionTick : Bool) :
    (item.notifyDataValue value now fromSubscriptionTick).2.watch = item.watch := by
  unfold notifyDataValue
  split_ifs
  · rfl
  · split
    · exact acceptDataValue_watch _ _ _ _ _
    · dsimp only
      split_ifs
      · rw [acceptDataValue_watch,
          withheldSemanticsChanged_watch _ fun item => acceptDataValue_watch item _ _ _ _]
        rfl
      · rw [acceptDataValue_watch, acceptDataValue_watch]
        rfl
      · rw [acceptDataValue_watch]
        rfl

theorem maybeEnqueueSkippedValue_watch (now : ℤ) :
    (item.maybeEnqueueSkippedValue now).2.watch = item.watch := by
  unfold maybeEnqueueSkippedValue
  dsimp only
  split
  · rfl
  · split_ifs
    · rw [withheldSemanticsChanged_watch _ fun item => notifyDataValue_watch item _ _ _]
      rfl
    · rw [notifyDataValue_watch]
      rfl
    · rfl

end

theorem maybeFlushAggregate_watch {item after : MonitoredItem E} {now : ℤ} {flushed : Bool}
    (done : item.maybeFlushAggregate now = some (flushed, after)) : after.watch = item.watch := by
  have pushes : ∀ (produced : List E.DataValue) (item : MonitoredItem E),
      (produced.foldl (fun item value => item.enqueueNotification
        (.monitoredItemNotification ⟨item.clientHandle, item.applyTimestampsToReturn value⟩))
        item).watch = item.watch := by
    intro produced
    induction produced with
    | nil => exact fun item => rfl
    | cons value rest ih => exact fun item => (ih _).trans (enqueueNotification_watch _ _)
  unfold maybeFlushAggregate at done
  split at done
  · split at done
    · cases done
    · cases done
      rfl
    · cases done
      exact pushes _ _
  · cases done
    rfl

theorem addCurrentValueToQueue_watch : item.addCurrentValueToQueue.watch = item.watch := by
  unfold addCurrentValueToQueue
  dsimp only
  split_ifs
  · rfl
  · split
    · rfl
    · exact enqueueNotification_watch _ _

theorem prepare_watch {item prepared : MonitoredItem E} {now : ℤ} {resendData fires : Bool}
    (prep : item.prepare now resendData = some (fires, prepared)) :
    prepared.watch = item.watch := by
  obtain ⟨flushed, middle, read, done, reading, queueing⟩ := prepare_cases prep
  have same : read.watch = item.watch := by
    rw [← item.maybeEnqueueSkippedValue_watch (dateTimeFrom now), ← maybeFlushAggregate_watch done]
    obtain rfl | rfl := reading <;> rfl
  obtain rfl | rfl := queueing
  · exact (addCurrentValueToQueue_watch _).trans same
  · exact same

theorem popRounds_watch (rounds : ℕ) (item : MonitoredItem E) :
    (popRounds rounds item).2.watch = item.watch := by
  refine popRounds_frame (fun item => ?_) rounds item
  unfold popNotification
  split_ifs
  · rfl
  · split <;> rfl

theorem notifyEvent_watch (event : E.Event) (typeTree : E.TypeTree)
    (overflowId : List UInt8) (now : ℤ) :
    (item.notifyEvent event typeTree overflowId now).2.watch = item.watch := by
  unfold notifyEvent
  by_cases disabled : item.monitoringMode = .disabled
  · rw [if_pos disabled]
  · rw [if_neg disabled]
    split
    · split
      · rfl
      · dsimp only
        rw [enqueueNotification_watch]
        split <;> rfl
    · rfl

theorem notifyEuRangeChanged_watch (low high : E.F64) :
    (item.notifyEuRangeChanged low high).watch = item.watch := by
  unfold notifyEuRangeChanged
  dsimp only
  split_ifs
  · split <;> rfl
  · split <;> rfl

theorem modify_watch (request : ModifyRequest E) (now : ℤ) :
    (item.modify request now).2.watch = item.watch := by
  unfold modify
  split <;> rfl

theorem new_watch (request : CreateMonitoredItem E) (now : ℤ) :
    (new request now).watch = ⟨request.id, request.itemToMonitor, request.monitoringMode⟩ := by
  unfold new
  split
  · rfl
  · rw [notifyDataValue_watch]
    rfl

end MonitoredItem

/-! ### The items of one subscription -/

def ItemMap.watch (items : ItemMap E) (id : ℕ) : Option (Watch E) :=
  (items.lookup id).map MonitoredItem.watch

open Option

variable {id : ℕ}

theorem ItemMap.insert_watch {items : ItemMap E} {before after : MonitoredItem E}
    (found : items.lookup id = some before) (same : after.watch = before.watch) :
    ItemMap.watch (items.insert id after) = ItemMap.watch items := by
  funext other
  unfold ItemMap.watch
  by_cases own : other = id
  · rw [own, lookup_insert, found, map_some, map_some, same]
  · rw [lookup_insert_ne own]

theorem scanItems_watch {now : ℤ} {resendData : Bool} {maxNotifications : ℕ} {ids : List ℕ}
    {items items' : ItemMap E} {scan scan' : Scan E}
    (scanned : scanItems now resendData maxNotifications ids items scan = some (items', scan')) :
    items'.watch = items.watch := by
  induction ids generalizing items scan with
  | nil =>
    cases scanned
    rfl
  | cons id rest ih =>
    rw [scanItems] at scanned
    split at scanned
    · exact ih scanned
    · rename_i item found
      obtain ⟨⟨after, middle⟩, ticked, later⟩ := bind_eq_some_iff.mp scanned
      obtain ⟨fires, prepared, prep, popped, -⟩ := tickMonitoredItem_delivers ticked
      refine (ih later).trans (ItemMap.insert_watch found ?_)
      rw [popped, ← MonitoredItem.prepare_watch prep]
      split_ifs
      · exact MonitoredItem.popRounds_watch _ prepared
      · rfl

theorem handleTriggers_watch (now : ℤ) (maxNotifications : ℕ) (triggers : List (ℕ × ℕ))
    (items : ItemMap E) (scan : Scan E) :
    ItemMap.watch (handleTriggers now maxNotifications triggers items scan).1 = items.watch := by
  induction triggers generalizing items scan with
  | nil => rfl
  | cons trigger rest ih =>
    obtain ⟨triggeringItem, itemId⟩ := trigger
    rw [handleTriggers]
    split
    · cases linked : items.lookup triggeringItem with
      | none => exact ih items scan
      | some item => exact (ih _ _).trans (ItemMap.insert_watch linked rfl)
    · rename_i item found
      exact (ih _ _).trans (ItemMap.insert_watch found (MonitoredItem.popRounds_watch _ item))

namespace Subscription

def watch (s : Subscription E) (itemId : ℕ) : Option (Watch E) :=
  ItemMap.watch s.monitoredItems itemId

/-- The subscription is the same, open or closed, and watches the same. -/
structure StillWatches (s t : Subscription E) : Prop where
  id : t.id = s.id
  state : t.state = s.state
  watch : t.watch = s.watch

variable {s t : Subscription E} {now : ℤ} {visit : VisitOrder}

theorem tickMonitoredItems_watch {resendData : Bool} {messages : List (NotificationMessage E)}
    (scanned : s.tickMonitoredItems now resendData visit = some (messages, t)) :
    t.watch = s.watch := by
  obtain ⟨⟨items, scan⟩, scannedItems, built⟩ := map_eq_some_iff.mp scanned
  obtain ⟨-, rfl⟩ := built
  exact (handleTriggers_watch _ _ _ items scan).trans (scanItems_watch scannedItems)

theorem watch_of_items (same : t.monitoredItems = s.monitoredItems) : t.watch = s.watch := by
  unfold watch
  rw [same]

theorem perform_watch {action : UpdateStateAction} {result : TickResult}
    (performed : s.perform action now visit = some (result, t)) :
    if result = .expired then t.monitoredItems = ∅ else t.watch = s.watch := by
  cases action with
  | none | subscriptionCreated =>
    cases performed
    exact rfl
  | returnKeepAlive =>
    cases performed
    exact watch_of_items (enforceQueuedNotificationLimit_items _).1
  | returnNotifications =>
    obtain ⟨⟨messages, u⟩, scanned, built⟩ := map_eq_some_iff.mp performed
    cases built
    have left := tickMonitoredItems_watch scanned
    rw [foldl_enqueueNotification]
    refine Eq.trans ?_ left
    exact watch_of_items (enforceQueuedNotificationLimit_items _).1
  | subscriptionExpired =>
    cases performed
    exact (enforceQueuedNotificationLimit_items _).1

section

variable {nowInstant : ℕ} {reason : TickReason} {queued : Bool}

theorem tick_watch {result : TickResult}
    (ticked : s.tick now nowInstant reason queued visit = some (result, t)) :
    if result = .expired then t.monitoredItems = ∅ else t.watch = s.watch := by
  rw [tick_eq] at ticked
  split_ifs at ticked
  · cases ticked
    exact rfl
  · unfold applyRow at ticked
    have items : ((s.restart nowInstant reason).handleStateTransition
        (s.row reason queued)).2.monitoredItems = s.monitoredItems := by
      rw [(handleStateTransition_items _ _).1]
      unfold restart
      split_ifs <;> rfl
    have performed := perform_watch ticked
    split_ifs at performed ⊢
    · exact performed
    · exact performed.trans (watch_of_items items)

theorem tick_expires_row
    (ticked : s.tick now nowInstant reason queued visit = some (.expired, t)) :
    (reason = .tickTimerFired → s.Elapsed nowInstant) ∧ s.row reason queued = .closed27 := by
  rw [tick_eq] at ticked
  split_ifs at ticked with idle
  · cases ticked
  refine ⟨fun timer => not_not.mp fun early => idle ⟨timer, early⟩, ?_⟩
  unfold applyRow at ticked
  have expires : ((s.restart nowInstant reason).handleStateTransition
      (s.row reason queued)).1 = .subscriptionExpired := by
    revert ticked
    generalize (s.restart nowInstant reason).handleStateTransition (s.row reason queued) = moved
    obtain ⟨action, u⟩ := moved
    intro ticked
    cases action with
    | subscriptionExpired => rfl
    | none | subscriptionCreated | returnKeepAlive => cases ticked
    | returnNotifications =>
      obtain ⟨_, -, built⟩ := map_eq_some_iff.mp ticked
      cases built
  revert expires
  cases s.row reason queued <;> first | exact fun _ => rfl | exact nofun

theorem tick_expires (ticked : s.tick now nowInstant reason queued visit = some (.expired, t)) :
    reason = .tickTimerFired := by
  obtain ⟨-, closes⟩ := tick_expires_row ticked
  unfold row getStateTransition at closes
  dsimp only at closes
  split at closes <;> (try split_ifs at closes) <;> first | rfl | cases closes

end
end Subscription

/-! ### The items of a session -/

namespace SessionSubscriptions

def watch (s : SessionSubscriptions E) (handle : MonitoredItemHandle) : Option (Watch E) :=
  (s.copy handle.subscriptionId).bind fun sub => sub.watch handle.monitoredItemId

end SessionSubscriptions

structure Subscription.Housed (s : Subscription E) (id : ℕ) : Prop where
  id : s.id = id
  items : ∀ itemId watch, s.watch itemId = some watch → watch.id = itemId
  closed : s.state = .closed → ∀ itemId, s.watch itemId = none

theorem Subscription.Housed.still {s t : Subscription E} (housed : s.Housed id)
    (still : s.StillWatches t) : t.Housed id := by
  refine ⟨still.id.trans housed.id, ?_, fun closed => ?_⟩
  · rw [still.watch]
    exact housed.items
  · rw [still.watch]
    exact housed.closed (still.state.symm.trans closed)

theorem Subscription.Housed.refs {s : Subscription E} (housed : s.Housed id) :
    (∀ itemId watch, s.watch itemId = some watch →
      ∃ ref ∈ s.monitoredItemRefs, ref.handle = ⟨id, itemId⟩) ∧
      ∀ ref ∈ s.monitoredItemRefs, ref.subscriptionId = id ∧
        ∃ watch, s.watch ref.monitoredItemId = some watch ∧ watch.key = ref.key := by
  refine ⟨fun itemId watch found => ?_, fun ref listed => ?_⟩
  · have own := housed.items itemId watch found
    obtain ⟨item, there, rfl⟩ := map_eq_some_iff.mp found
    refine ⟨_, mem_map.mpr ⟨⟨itemId, item⟩, mem_lookup_iff.mp there, rfl⟩, ?_⟩
    rw [MonitoredItemRef.handle, housed.id]
    exact congrArg _ own
  · obtain ⟨⟨itemId, item⟩, there, rfl⟩ := mem_map.mp listed
    have found : s.watch itemId = some item.watch :=
      map_eq_some_iff.mpr ⟨item, mem_lookup_iff.mpr there, rfl⟩
    have own : item.id = itemId := housed.items itemId _ found
    refine ⟨housed.id, item.watch, ?_, rfl⟩
    rwa [own]

namespace SessionSubscriptions

def Housed (s : SessionSubscriptions E) : Prop :=
  ∀ id sub, s.copy id = some sub → sub.Housed id

structure Retires (s : SessionSubscriptions E) (refs : List (MonitoredItemRef E))
    (t : SessionSubscriptions E) : Prop where
  subs : ∀ id ∈ t.subscriptions, id ∈ s.subscriptions
  kept : ∀ handle watch, t.watch handle = some watch → s.watch handle = some watch
  gone : ∀ handle watch, s.watch handle = some watch → t.watch handle = some watch ∨
    ∃ ref ∈ refs, ref.handle = handle
  dead : ∀ ref ∈ refs, t.watch ref.handle = none
  named : ∀ ref ∈ refs, ∃ watch, s.watch ref.handle = some watch ∧ watch.key = ref.key

theorem Retires.refl (s : SessionSubscriptions E) : s.Retires [] s :=
  ⟨fun _ there => there, fun _ _ watched => watched, fun _ _ watched => inl watched,
    fun _ listed => absurd listed not_mem_nil, fun _ listed => absurd listed not_mem_nil⟩

variable {s t : SessionSubscriptions E} {u : SessionSubscriptions E}

theorem Retires.trans {first second : List (MonitoredItemRef E)}
    (before : s.Retires first t) (after : t.Retires second u) :
    s.Retires (first ++ second) u where
  subs := fun id there => before.subs id (after.subs id there)
  kept := fun handle watch watched => before.kept handle watch (after.kept handle watch watched)
  gone := by
    intro handle watch watched
    obtain still | ⟨ref, listed, names⟩ := before.gone handle watch watched
    · obtain still | ⟨ref, listed, names⟩ := after.gone handle watch still
      · exact inl still
      · exact inr ⟨ref, mem_append_right first listed, names⟩
    · exact inr ⟨ref, mem_append_left second listed, names⟩
  dead := by
    intro ref listed
    obtain earlier | later := mem_append.mp listed
    · have none := before.dead ref earlier
      by_contra some
      obtain ⟨watch, watched⟩ := ne_none_iff_exists'.mp some
      rw [after.kept _ watch watched] at none
      cases none
    · exact after.dead ref later
  named := by
    intro ref listed
    obtain earlier | later := mem_append.mp listed
    · exact before.named ref earlier
    · obtain ⟨watch, watched, key⟩ := after.named ref later
      exact ⟨watch, before.kept _ watch watched, key⟩

theorem Retires.of_watch (subs : ∀ id ∈ t.subscriptions, id ∈ s.subscriptions)
    (same : t.watch = s.watch) : s.Retires [] t := by
  refine ⟨subs, fun handle watch watched => ?_, fun handle watch watched => inl ?_,
    fun _ listed => absurd listed not_mem_nil, fun _ listed => absurd listed not_mem_nil⟩
  · rwa [← same]
  · rwa [same]

theorem Retires.of_subscriptions (same : t.subscriptions = s.subscriptions) : s.Retires [] t := by
  refine .of_watch (fun id there => ?_) ?_
  · rwa [← same]
  · funext handle
    unfold watch copy
    rw [same]

theorem Housed.of_subscriptions (housed : s.Housed) (same : t.subscriptions = s.subscriptions) :
    t.Housed := by
  intro id sub found
  refine housed id sub ?_
  rwa [copy, ← same]

/-! ### One subscription of a session -/

def OnlyAt (s : SessionSubscriptions E) (id : ℕ) (t : SessionSubscriptions E) : Prop :=
  ∀ other, other ≠ id → t.copy other = s.copy other

variable {id : ℕ}

theorem mem_of_copy : id ∈ s.subscriptions ↔ s.copy id ≠ none := by
  rw [copy, ne_eq, lookup_eq_none, not_not]

theorem mem_of_found {sub : Subscription E} (found : s.copy id = some sub) : id ∈ s.subscriptions :=
  mem_of_copy.mpr (found ▸ some_ne_none sub)

section

variable (only : s.OnlyAt id t)
include only

theorem OnlyAt.subs (here : id ∈ s.subscriptions) :
    ∀ other ∈ t.subscriptions, other ∈ s.subscriptions := by
  intro other there
  by_cases same : other = id
  · rwa [same]
  · rw [mem_of_copy] at there ⊢
    rwa [← only other same]

theorem OnlyAt.retires_watch (here : id ∈ s.subscriptions)
    (same : ∀ itemId, t.watch ⟨id, itemId⟩ = s.watch ⟨id, itemId⟩) : s.Retires [] t := by
  refine .of_watch (only.subs here) ?_
  funext handle
  obtain ⟨subscriptionId, itemId⟩ := handle
  by_cases own : subscriptionId = id
  · rw [own]
    exact same itemId
  · unfold watch
    rw [only subscriptionId own]

theorem OnlyAt.retires_emptied {before : Subscription E}
    (found : s.copy id = some before) (housed : before.Housed id)
    (emptied : ∀ itemId, t.watch ⟨id, itemId⟩ = none) : s.Retires before.monitoredItemRefs t := by
  obtain ⟨names, own⟩ := housed.refs
  have here := mem_of_found found
  refine ⟨only.subs here, ?_, ?_, fun ref listed => ?_, fun ref listed => ?_⟩
  · rintro ⟨subscriptionId, itemId⟩ watch watched
    by_cases same : subscriptionId = id
    · rw [same, emptied] at watched
      cases watched
    · rwa [SessionSubscriptions.watch, ← only subscriptionId same]
  · rintro ⟨subscriptionId, itemId⟩ watch watched
    by_cases same : subscriptionId = id
    · subst same
      rw [SessionSubscriptions.watch, found] at watched
      exact inr (names itemId watch watched)
    · left
      rwa [SessionSubscriptions.watch, only subscriptionId same]
  · rw [MonitoredItemRef.handle, (own ref listed).1]
    exact emptied ref.monitoredItemId
  · obtain ⟨same, watch, watched, key⟩ := own ref listed
    refine ⟨watch, ?_, key⟩
    rw [MonitoredItemRef.handle, same, SessionSubscriptions.watch, found]
    exact watched

theorem OnlyAt.housed (housed : s.Housed)
    (here : ∀ sub, t.copy id = some sub → sub.Housed id) : t.Housed := by
  intro other sub found
  by_cases same : other = id
  · subst same
    exact here sub found
  · rw [only other same] at found
    exact housed other sub found

end

/-! ### Passes -/

def refsOf (removed : List (RemovedSubscription E)) : List (MonitoredItemRef E) :=
  removed.flatMap (·.monitoredItems)

theorem refsOf_append {result : TickResult} (removed : List (RemovedSubscription E)) (id : ℕ)
    (refs : List (MonitoredItemRef E)) :
    refsOf (if result = .expired then removed ++ [⟨id, refs⟩] else removed) =
      refsOf removed ++ if result = .expired then refs else [] := by
  unfold refsOf
  split_ifs
  · rw [flatMap_append, flatMap_singleton]
  · rw [append_nil]

/-- **A subscription is ticked.** What is put in its place, if anything, watches what it does after
the tick; nothing is put there only if it is closed. -/
theorem ticked_retires {s t : SessionSubscriptions E} (housed : s.Housed)
    (only : s.OnlyAt id t) {before ticked : Subscription E} (found : s.copy id = some before)
    {now : ℤ} {nowInstant : ℕ} {reason : TickReason} {queued : Bool} {visit : VisitOrder}
    {result : TickResult}
    (returned : before.tick now nowInstant reason queued visit = some (result, ticked))
    (placed : (∃ after, t.copy id = some after ∧ ticked.StillWatches after) ∨
      t.copy id = none ∧ ticked.state = .closed) :
    s.Retires (if result = .expired then before.monitoredItemRefs else []) t ∧ t.Housed ∧
      (ticked.state = .closed → ∀ itemId, t.watch ⟨id, itemId⟩ = none) := by
  have there := housed id before found
  have watch := tick_watch returned
  have own : ticked.id = before.id := (tick_identity returned).1
  -- A closed subscription watches nothing: it has just been emptied, or it was closed before.
  have closed : ticked.state = .closed → ∀ itemId, ticked.watch itemId = none := by
    intro closed itemId
    by_cases was : before.state = .closed
    · split_ifs at watch
      · rw [Subscription.watch, watch]
        rfl
      · rw [watch]
        exact there.closed was itemId
    · obtain ⟨-, rfl⟩ := tick_closes was returned closed
      rw [Subscription.watch, watch]
      rfl
  have after : ticked.Housed id := by
    refine ⟨own.trans there.id, fun itemId watched some => ?_, closed⟩
    split_ifs at watch
    · rw [Subscription.watch, watch] at some
      cases some
    · rw [watch] at some
      exact there.items itemId watched some
  have here : ∀ itemId, t.watch ⟨id, itemId⟩ = ticked.watch itemId := by
    intro itemId
    obtain ⟨placed, at_, still⟩ | ⟨gone, beyond⟩ := placed
    · rw [SessionSubscriptions.watch, at_, ← still.watch]
      rfl
    · rw [SessionSubscriptions.watch, gone, closed beyond itemId]
      rfl
  refine ⟨?_, only.housed housed fun sub at_ => ?_, fun beyond itemId => ?_⟩
  · split_ifs at watch ⊢
    · refine only.retires_emptied found there fun itemId => ?_
      rw [here, Subscription.watch, watch]
      rfl
    · refine only.retires_watch (mem_of_found found) ?_
      intro itemId
      rw [here, watch, SessionSubscriptions.watch, found]
      rfl
  · obtain ⟨placed, at', still⟩ | ⟨gone, -⟩ := placed
    · rw [at', some.injEq] at at_
      exact at_ ▸ after.still still
    · rw [gone] at at_
      cases at_
  · rw [here]
    exact closed beyond itemId

variable {o : Occasion} {reason : TickReason} {start : SessionSubscriptions E}

theorem removeReady_retires {toRemove : List ℕ} (housed : s.Housed)
    (nothing : ∀ id ∈ toRemove, ∀ itemId, s.watch ⟨id, itemId⟩ = none) :
    s.Retires [] (removeReady toRemove s) ∧ (removeReady toRemove s).Housed := by
  induction toRemove generalizing s with
  | nil => exact ⟨.refl s, housed⟩
  | cons id rest ih =>
    have only : s.OnlyAt id
        ({ s with
          transferring := s.transferring.erase id
          subscriptions := s.subscriptions.erase id }.forgetMessages id) :=
      fun other apart => lookup_erase_ne apart
    have erased : ({ s with
          transferring := s.transferring.erase id
          subscriptions := s.subscriptions.erase id }.forgetMessages id).copy id = none :=
      lookup_erase _ _
    have same : ({ s with
          transferring := s.transferring.erase id
          subscriptions := s.subscriptions.erase id }.forgetMessages id).watch = s.watch := by
      funext handle
      obtain ⟨subscriptionId, itemId⟩ := handle
      by_cases own : subscriptionId = id
      · rw [own, nothing id mem_cons_self, watch, erased]
        rfl
      · rw [watch, only subscriptionId own]
        rfl
    have subs : ∀ other ∈ ({ s with
          transferring := s.transferring.erase id
          subscriptions := s.subscriptions.erase id }.forgetMessages id).subscriptions,
        other ∈ s.subscriptions := fun other there => (mem_erase.mp there).2
    obtain ⟨later, housed'⟩ := ih
      (only.housed housed fun sub found => by rw [erased] at found; cases found)
      (fun other listed itemId => by
        rw [same]
        exact nothing other (mem_cons_of_mem id listed) itemId)
    exact ⟨(Retires.of_watch subs same).trans later, housed'⟩

theorem pass_retires {served : Served E} (housed : s.Housed)
    (passed : s.tickSubscriptionsWithPublishRequests o reason = .ok (t, served)) :
    s.Retires (refsOf served.removed) t ∧ t.Housed := by
  have cached : s.subscriptionIdsByPriority.2.subscriptions = s.subscriptions := by
    unfold subscriptionIdsByPriority
    split_ifs <;> rfl
  refine pass_invariant (P := fun pass => s.Retires (refsOf pass.2.removed) pass.1 ∧ pass.1.Housed)
    passed ⟨.of_subscriptions cached, housed.of_subscriptions cached⟩ ?_
  intro u before other subscription result ticked responses queue drained after so_far _ found
    returned served _ removed
  have drains := (serve_spec served).2.2.2
  have only : u.OnlyAt other (u.settle other queue drained) := by
    intro third apart
    rw [copy, settle_lookup, if_neg apart]
    rfl
  obtain ⟨retires, housed, -⟩ := ticked_retires so_far.2 only found returned (by
    rw [copy, settle_lookup, if_pos rfl]
    by_cases ready : drained.readyToRemove = true
    · right
      rw [if_pos ready]
      refine ⟨rfl, ?_⟩
      rw [readyToRemove, Bool.and_eq_true, beq_iff_eq, drains] at ready
      exact ready.1
    · left
      rw [if_neg ready]
      exact ⟨drained, rfl, by rw [drains]; exact ⟨rfl, rfl, rfl⟩⟩)
  rw [removed, refsOf_append]
  exact ⟨so_far.1.trans retires, housed⟩

variable {removed : List (RemovedSubscription E)}

theorem idlePass_retires (housed : s.Housed)
    (passed : s.tickSubscriptionsWithoutPublishRequests o reason = .ok (removed, t)) :
    s.Retires (refsOf removed) t ∧ t.Housed := by
  obtain ⟨u, toRemove, ⟨retires, housed', nothing⟩, rfl⟩ := idlePass_invariant
    (P := fun pass => s.Retires (refsOf pass.2.removed) pass.1 ∧ pass.1.Housed ∧
      ∀ id ∈ pass.2.toRemove, ∀ itemId, pass.1.watch ⟨id, itemId⟩ = none)
    passed ⟨.refl s, housed, fun _ listed => absurd listed not_mem_nil⟩ (by
      intro v before other subscription result ticked ⟨retired, housed, nothing⟩ _ found returned
      have only : v.OnlyAt other { v with subscriptions := v.subscriptions.insert other ticked } :=
        fun third apart => lookup_insert_ne apart
      obtain ⟨retires, housed', closed⟩ := ticked_retires housed only found returned
        (inl ⟨ticked, lookup_insert _, rfl, rfl, rfl⟩)
      rw [refsOf_append]
      refine ⟨retired.trans retires, housed', fun id listed itemId => ?_⟩
      have earlier : id ∈ before.toRemove →
          watch { v with subscriptions := v.subscriptions.insert other ticked }
            ⟨id, itemId⟩ = none := by
        intro listed
        by_contra some
        obtain ⟨watch, watched⟩ := ne_none_iff_exists'.mp some
        have was := retires.kept _ watch watched
        rw [nothing id listed itemId] at was
        cases was
      dsimp only at listed
      split_ifs at listed with ready
      · obtain before | here := mem_append.mp listed
        · exact earlier before
        · rw [mem_singleton.mp here]
          rw [readyToRemove, Bool.and_eq_true, beq_iff_eq] at ready
          exact closed ready.1 itemId
      · exact earlier listed)
  have flagged : u.Retires [] { u with priorityCacheDirty := true } := .of_subscriptions rfl
  obtain ⟨cleared, housed''⟩ := removeReady_retires (s := { u with priorityCacheDirty := true })
    (housed'.of_subscriptions rfl) nothing
  refine ⟨?_, housed''⟩
  have together := (retires.trans flagged).trans cleared
  rwa [append_nil, append_nil] at together

theorem tick_retires (housed : s.Housed) (ticked : s.tick o reason = .ok (removed, t)) :
    s.Retires (refsOf removed) t ∧ t.Housed := by
  have delivered := (s.deliverPendingStatusChanges_answering o.now).subscriptions
  -- What a tick of the subscriptions starts from.
  have expired : ((s.deliverPendingStatusChanges o.now).removeExpiredPublishRequests
      o.nowInstant).subscriptions = s.subscriptions := delivered
  obtain ⟨-, rfl, rfl⟩ | ⟨-, ticked⟩ | ⟨-, u, served, passed, rfl, rfl⟩ := tick_ok ticked
  · have rejected : (s.deliverPendingStatusChanges
        o.now).rejectPublishRequestsWithoutSubscriptions.subscriptions =
          s.subscriptions := delivered
    exact ⟨.of_subscriptions rejected, housed.of_subscriptions rejected⟩
  · obtain ⟨retires, housed'⟩ := idlePass_retires (housed.of_subscriptions expired) ticked
    exact ⟨(Retires.of_subscriptions expired).trans retires, housed'⟩
  · obtain ⟨retires, housed'⟩ := pass_retires (housed.of_subscriptions expired) passed
    have answered := (sendPublishResponses_answering o.now served.moreNotifications
      served.responses u).subscriptions
    have together := ((Retires.of_subscriptions expired).trans retires).trans
      (Retires.of_subscriptions answered)
    rw [append_nil] at together
    exact ⟨together, housed'.of_subscriptions answered⟩

section

variable (other : reason ≠ .tickTimerFired)
include other

theorem tick_unexpired {subscription ticked : Subscription E}
    {queued : Bool} {id : ℕ} {result : TickResult}
    (returned : subscription.tick o.now o.nowInstant reason queued (o.orders.items id) =
      some (result, ticked)) : result ≠ .expired := by
  rintro rfl
  exact other (tick_expires returned)

theorem pass_removed {served : Served E}
    (passed : s.tickSubscriptionsWithPublishRequests o reason = .ok (t, served)) :
    served.removed = [] := by
  refine pass_invariant (P := fun pass => pass.2.removed = []) passed rfl ?_
  intro _ _ _ _ _ _ _ _ _ _ none _ _ returned _ _ removed
  rw [removed, if_neg (tick_unexpired other returned)]
  exact none

theorem idlePass_removed
    (passed : s.tickSubscriptionsWithoutPublishRequests o reason = .ok (removed, t)) :
    removed = [] := by
  obtain ⟨_, _, none, -⟩ := idlePass_invariant (P := fun pass => pass.2.removed = []) passed rfl
    fun _ _ _ _ _ _ none _ _ returned =>
      (if_neg (tick_unexpired other returned)).trans none
  exact none

theorem tick_removed
    (ticked : s.tick o reason = .ok (removed, t)) : removed = [] := by
  obtain ⟨-, rfl, rfl⟩ | ⟨-, ticked⟩ | ⟨-, u, served, passed, rfl, rfl⟩ := tick_ok ticked
  · rfl
  · exact idlePass_removed other ticked
  · exact pass_removed other passed

end

/-! ### Services -/

/-- A step that retires nothing. -/
def Watching (s t : SessionSubscriptions E) : Prop := s.Retires [] t ∧ t.Housed

theorem Watching.trans (before : s.Watching t) (after : t.Watching u) : s.Watching u :=
  ⟨before.1.trans after.1, after.2⟩

section

variable (housed : s.Housed)
include housed

theorem Watching.of_subscriptions (same : t.subscriptions = s.subscriptions) : s.Watching t :=
  ⟨.of_subscriptions same, housed.of_subscriptions same⟩

theorem tick_watching (other : reason ≠ .tickTimerFired)
    (ticked : s.tick o reason = .ok (removed, t)) : s.Watching t := by
  obtain ⟨retires, housed'⟩ := tick_retires housed ticked
  rw [tick_removed other ticked] at retires
  exact ⟨retires, housed'⟩

theorem enqueuePublishRequest_watching {now : ℤ} {nowInstant : ℕ} {first second : Orders}
    {request : PendingPublish}
    (enqueued : s.enqueuePublishRequest now nowInstant first second request = .ok t) :
    s.Watching t := by
  obtain ⟨u, removed, roomy, ticked⟩ := enqueuePublishRequest_ok enqueued
  have room : s.Watching u := by
    refine makeRoom_keeps (.of_subscriptions housed rfl)
      (fun _ removed w ticked => tick_watching housed (by decide) ticked)
      (fun w ticks rejected => ?_) roomy
    exact ticks.trans (.of_subscriptions ticks.2 (rejectOldest_answering rejected).subscriptions)
  have taken : u.Watching (u.takeIn request) :=
    .of_subscriptions room.2 (u.takeIn_answering request).subscriptions
  exact (room.trans taken).trans (tick_watching taken.2 (by decide) ticked)

theorem processNotificationWake_watching (woken : s.processNotificationWake o = .ok t) :
    s.Watching t := by
  obtain ⟨-, rfl⟩ | ⟨-, u, served, passed, rfl⟩ := processNotificationWake_ok woken
  · exact .of_subscriptions housed rfl
  · obtain ⟨retires, housed'⟩ := pass_retires housed passed
    rw [pass_removed (by decide) passed] at retires
    exact Watching.trans ⟨retires, housed'⟩
      (.of_subscriptions housed' (sendPublishResponses_answering _ _ _ u).subscriptions)

theorem modifyEntry_watching (id : ℕ) {change : Subscription E → Subscription E}
    (still : ∀ sub : Subscription E, sub.StillWatches (change sub)) :
    s.Watching (s.modifyEntry id change) := by
  cases found : s.copy id with
  | none =>
    have absent : s.modifyEntry id change = s := by
      unfold modifyEntry
      rw [show s.subscriptions.lookup id = none from found]
    rw [absent]
    exact .of_subscriptions housed rfl
  | some sub =>
    have there : (s.modifyEntry id change).copy id = some (change sub) := by
      rw [copy, modifyEntry_lookup, if_pos rfl]
      exact congrArg (Option.map change) found
    have only : s.OnlyAt id (s.modifyEntry id change) := by
      intro other apart
      rw [copy, modifyEntry_lookup, if_neg apart]
      rfl
    refine ⟨only.retires_watch (mem_of_found found) fun itemId => ?_,
      only.housed housed fun after found' => ?_⟩
    · rw [watch, watch, there, found]
      exact congrFun (still sub).watch itemId
    · rw [there, some.injEq] at found'
      exact found' ▸ (housed id sub found).still (still sub)

end

end SessionSubscriptions

theorem Subscription.modifyItem_still (s : Subscription E) (id : ℕ)
    {change : MonitoredItem E → MonitoredItem E}
    (keeps : ∀ item : MonitoredItem E, (change item).watch = item.watch) :
    s.StillWatches (s.modifyItem id change) := by
  unfold modifyItem
  cases found : s.monitoredItems.lookup id with
  | none => exact ⟨rfl, rfl, rfl⟩
  | some item => exact ⟨rfl, rfl, ItemMap.insert_watch found (keeps item)⟩

theorem Subscription.notifyItem_still (s : Subscription E) (id : ℕ)
    {notify : MonitoredItem E → Bool × MonitoredItem E}
    (keeps : ∀ item : MonitoredItem E, (notify item).2.watch = item.watch) :
    s.StillWatches (s.notifyItem id notify) := by
  unfold notifyItem
  cases found : s.monitoredItems.lookup id with
  | none => exact ⟨rfl, rfl, rfl⟩
  | some item => exact ⟨rfl, rfl, ItemMap.insert_watch found (keeps item)⟩

/-- No item enters or leaves, and none changes its mode. -/
def ItemOp.KeepsItems : ItemOp E → Prop
  | .insert .. | .remove _ | .setMonitoringMode .. => False
  | _ => True

theorem ItemOp.apply_still {op : ItemOp E} (keeps : op.KeepsItems) (s : Subscription E) :
    s.StillWatches (op.apply s) := by
  cases op with
  | insert | remove | setMonitoringMode => exact keeps.elim
  | notifyDataValue id value now =>
    exact s.notifyItem_still id fun item => item.notifyDataValue_watch value now false
  | notifyEvent id event typeTree overflowId now =>
    exact s.notifyItem_still id fun item => item.notifyEvent_watch event typeTree overflowId now
  | notifyEuRangeChanged id low high =>
    exact s.modifyItem_still id fun item => item.notifyEuRangeChanged_watch low high
  | setTriggering id itemsToAdd itemsToRemove => exact s.modifyItem_still id fun _ => rfl
  | modify id request now => exact s.modifyItem_still id fun item => item.modify_watch request now

/-- The service changes no item. -/
def SessionOp.KeepsItems : SessionOp E → Prop
  | .item _ op => op.KeepsItems
  | op => op.Serves

namespace SessionSubscriptions

/-- **A service that changes no item retires none.** -/
theorem watching_of_apply {s t : SessionSubscriptions E} {op : SessionOp E} (housed : s.Housed)
    (keeps : op.KeepsItems) (applied : op.apply s = .ok t) : s.Watching t := by
  have in_place : ∀ {change : Subscription E → Subscription E}, Changes change op →
      (∀ sub : Subscription E, sub.StillWatches (change sub)) → s.Watching t := fun changes still =>
    related_of_changes (R := fun s t => s.Housed → s.Watching t)
      (fun _ housed => .of_subscriptions housed rfl)
      (fun first second housed => (first housed).trans (second (first housed).2))
      (fun s id housed => modifyEntry_watching housed id still)
      (fun _ _ housed => .of_subscriptions housed rfl) changes applied housed
  cases op with
  | insert | remove | markTransferring | createSubscription | deleteSubscriptions
  | queueStatusChange => exact keeps.elim
  | modifySubscription request info =>
    cases applied
    unfold modifySubscription
    split_ifs
    · have changed : ∀ interval keepAlive lifetime maxNotificationsPerPublish, s.Watching
          (s.modifyEntry request.subscriptionId fun subscription => subscription.modify interval
            keepAlive lifetime request.priority maxNotificationsPerPublish) := fun _ _ _ _ =>
        modifyEntry_watching housed request.subscriptionId fun sub => ⟨rfl, rfl, rfl⟩
      exact (changed _ _ _ _).trans (.of_subscriptions (changed _ _ _ _).2 rfl)
    · exact .of_subscriptions housed rfl
  | setPublishingMode | republish | updateOwner | resendData =>
    exact in_place rfl fun _ => ⟨rfl, rfl, rfl⟩
  | item id op => exact in_place rfl (ItemOp.apply_still keeps)
  | cancelPublishRequests requestHandle =>
    cases applied
    exact .of_subscriptions housed rfl
  | enqueuePublishRequest now nowInstant first second request =>
    exact enqueuePublishRequest_watching housed applied
  | processNotificationWake o => exact processNotificationWake_watching housed applied
  | tick o reason =>
    obtain ⟨⟨removed, u⟩, ticked, rfl⟩ := map_eq_ok.mp applied
    exact tick_watching housed keeps ticked

end SessionSubscriptions

end AsyncOpcua.Subscriptions
