/-
**Each notification reaches its callback once and is acknowledged.**

Without the placeholder the subscriptions would simply be what other tasks make of them. That is
what the state is compared with.

* `ItemChange.apply`, `SubscriptionOp.effect` — what other tasks do to one subscription, which has
  nothing to do with its callback;
* `notifications_delivered` — so it is in every run in which no subscription is added under the id
  that is being delivered.
-/

import AsyncOpcua.Client.Delivery

namespace AsyncOpcua.Client

open Foundation Types List Option PendingClientDelivery SubscriptionState Subscription KeyedMap
open Subscriptions (MonitoringMode)

variable {T : ClientTypes}

/-! ### Changes that do not look at the callback -/

namespace Subscription

def withCallback (s : Subscription T) (callback : Option T.Callback) : Subscription T :=
  { s with callback := callback }

structure Blind (change : Subscription T → Subscription T) : Prop where
  withCallback : ∀ s callback, change (s.withCallback callback) = (change s).withCallback callback
  callback : ∀ s, (change s).callback = s.callback
  subscriptionId : ∀ s, (change s).subscriptionId = s.subscriptionId

theorem Blind.foldl {α : Type} {change : Subscription T → α → Subscription T}
    (blind : ∀ a, Blind fun s => change s a) (l : List α) : Blind fun s => l.foldl change s := by
  induction l with
  | nil => exact ⟨fun _ _ => rfl, fun _ => rfl, fun _ => rfl⟩
  | cons a l ih =>
    refine ⟨fun s callback => ?_, fun s => ?_, fun s => ?_⟩
    · show l.foldl change (change (s.withCallback callback) a) = _
      have first : change (s.withCallback callback) a = (change s a).withCallback callback :=
        (blind a).withCallback s callback
      rw [first]
      exact ih.withCallback (change s a) callback
    · exact (ih.callback (change s a)).trans ((blind a).callback s)
    · exact (ih.subscriptionId (change s a)).trans ((blind a).subscriptionId s)

theorem blind_remove (id : MonitoredItemId) (removeHandle : Bool) :
    Blind fun s : Subscription T => s.remove id removeHandle := by
  refine ⟨fun s callback => ?_, fun s => ?_, fun s => ?_⟩
  all_goals cases found : s.monitoredItems.lookup id <;> simp [remove, withCallback, found]

end Subscription

namespace ItemChange

def apply : ItemChange T → Subscription T → Subscription T
  | .insertTemporaryMonitoredItems items => fun s =>
    items.foldl insertTemporaryMonitoredItem s
  | .insertMonitoredItems items => fun s => s.insertMonitoredItems items
  | .clearTemporaryIds ids => fun s =>
    ids.foldl (fun s id => s.clearTemporaryId (.temporary id.1) !id.2) s
  | .modifyMonitoredItems items => fun s => s.modifyMonitoredItems items
  | .deleteMonitoredItems ids => fun s => s.deleteMonitoredItems ids
  | .setTriggering id linksToAdd linksToRemove => fun s =>
    s.setTriggering id linksToAdd linksToRemove
  | .setMonitoringMode ids monitoringMode => fun s => s.setMonitoringMode ids monitoringMode

theorem blind (change : ItemChange T) : Subscription.Blind change.apply := by
  cases change with
  | insertTemporaryMonitoredItems items | insertMonitoredItems items =>
    refine Subscription.Blind.foldl (fun _ => ?_) items
    exact ⟨fun _ _ => rfl, fun _ => rfl, fun _ => rfl⟩
  | clearTemporaryIds ids =>
    exact Subscription.Blind.foldl (fun _ => blind_remove _ _) ids
  | modifyMonitoredItems items =>
    refine Subscription.Blind.foldl (fun _ => ?_) items
    exact ⟨fun _ _ => rfl, fun _ => rfl, fun _ => rfl⟩
  | deleteMonitoredItems ids =>
    exact Subscription.Blind.foldl (fun _ => blind_remove _ _) ids
  | setTriggering id linksToAdd linksToRemove =>
    exact ⟨fun _ _ => rfl, fun _ => rfl, fun _ => rfl⟩
  | setMonitoringMode ids monitoringMode =>
    refine Subscription.Blind.foldl (fun _ => ?_) ids
    exact ⟨fun _ _ => rfl, fun _ => rfl, fun _ => rfl⟩

end ItemChange

namespace SubscriptionOp

def effect (op : SubscriptionOp T) (id : UInt32) (subscription : Option (Subscription T)) :
    Option (Subscription T) :=
  match op with
  | .add added callback =>
    if id = added.subscriptionId then some (added.withCallback (some callback)) else subscription
  | .modify other interval lifetime keepAlive notifications priority =>
    if id = other then
      subscription.map fun s =>
        { s with
          publishingInterval := interval
          lifetimeCount := lifetime
          maxKeepAliveCount := keepAlive
          maxNotificationsPerPublish := notifications
          priority := priority }
    else subscription
  | .setPublishingMode ids publishingEnabled =>
    if id ∈ ids then subscription.map fun s => { s with publishingEnabled := publishingEnabled }
    else subscription
  | .delete other => if id = other then none else subscription
  | .items other change => if id = other then subscription.map change.apply else subscription

def Keeps (op : SubscriptionOp T) (id : UInt32) : Prop :=
  ∀ added callback, op = .add added callback → id ≠ added.subscriptionId

/-- **An operation that adds no subscription under an id** drops the one with this id, or changes it
whatever its callback is. -/
theorem effect_cases {op : SubscriptionOp T} {id : UInt32} (keeps : op.Keeps id) :
    (∀ subscription, op.effect id subscription = none) ∨
      ∃ change, Subscription.Blind change ∧
        ∀ subscription, op.effect id subscription = subscription.map change := by
  have unchanged : ∃ change : Subscription T → Subscription T, Subscription.Blind change ∧
      ∀ subscription : Option (Subscription T), subscription = subscription.map change :=
    ⟨fun s => s, ⟨fun _ _ => rfl, fun _ => rfl, fun _ => rfl⟩, fun _ => map_id'.symm⟩
  cases op with
  | add added callback =>
    right
    simpa only [effect, if_neg (keeps added callback rfl)] using unchanged
  | modify other interval lifetime keepAlive notifications priority =>
    right
    by_cases same : id = other
    · simp only [effect, if_pos same]
      refine ⟨_, ?_, fun _ => rfl⟩
      exact ⟨fun _ _ => rfl, fun _ => rfl, fun _ => rfl⟩
    · simpa only [effect, if_neg same] using unchanged
  | setPublishingMode ids publishingEnabled =>
    right
    by_cases listed : id ∈ ids
    · simp only [effect, if_pos listed]
      refine ⟨_, ?_, fun _ => rfl⟩
      exact ⟨fun _ _ => rfl, fun _ => rfl, fun _ => rfl⟩
    · simpa only [effect, if_neg listed] using unchanged
  | delete other =>
    by_cases same : id = other
    · exact Or.inl fun _ => if_pos same
    · right
      simpa only [effect, if_neg same] using unchanged
  | items other change =>
    right
    by_cases same : id = other
    · simp only [effect, if_pos same]
      exact ⟨change.apply, change.blind, fun _ => rfl⟩
    · simpa only [effect, if_neg same] using unchanged

end SubscriptionOp

namespace SubscriptionState

section

variable (s : SubscriptionState T)

theorem lookup_addSubscription (added : Subscription T) (id : UInt32) :
    (s.addSubscription added).subscriptions.lookup id =
      if id = added.subscriptionId then some added else s.subscriptions.lookup id :=
  lookup_insert_eq _ _ _ _

theorem lookup_deleteSubscription (deleted id : UInt32) :
    (s.deleteSubscription deleted).2.subscriptions.lookup id =
      if id = deleted then none else s.subscriptions.lookup id :=
  lookup_erase_eq _ _ _

theorem lookup_setPublishingMode (ids : List UInt32) (publishingEnabled : Bool) (id : UInt32) :
    (s.setPublishingMode ids publishingEnabled).subscriptions.lookup id =
      if id ∈ ids then (s.subscriptions.lookup id).map fun subscription =>
        { subscription with publishingEnabled := publishingEnabled }
      else s.subscriptions.lookup id := by
  induction ids generalizing s with
  | nil => rfl
  | cons first ids ih =>
    refine (ih _).trans ?_
    rw [lookup_modify]
    by_cases same : id = first
    · subst same
      by_cases later : id ∈ ids
      · simp [later, Function.comp_def]
      · simp [later]
    · simp [same]

theorem lookup_applyOp (op : SubscriptionOp T) (id : UInt32) :
    (s.applyOp op).subscriptions.lookup id = op.effect id (s.subscriptions.lookup id) := by
  cases op with
  | add added callback => exact s.lookup_addSubscription _ id
  | modify other interval lifetime keepAlive notifications priority =>
    show (s.modifySubscription other interval lifetime keepAlive notifications
      priority).subscriptions.lookup id = _
    unfold modifySubscription
    split_ifs with known
    · exact lookup_modify _ _ _ _
    · rw [SubscriptionOp.effect]
      split_ifs with same
      · rw [same, AList.lookup_eq_none.mpr known]
        rfl
      · rfl
  | setPublishingMode ids publishingEnabled => exact s.lookup_setPublishingMode ids _ id
  | delete other => exact s.lookup_deleteSubscription other id
  | items other change =>
    cases change <;> exact lookup_modify _ _ _ _

theorem acknowledgements_applyOp (op : SubscriptionOp T) :
    (s.applyOp op).acknowledgements = s.acknowledgements := by
  cases op with
  | add added callback => rfl
  | modify other interval lifetime keepAlive notifications priority =>
    show (s.modifySubscription other interval lifetime keepAlive notifications
      priority).acknowledgements = _
    unfold modifySubscription
    split_ifs <;> rfl
  | setPublishingMode ids publishingEnabled =>
    induction ids generalizing s with
    | nil => rfl
    | cons first ids ih => exact ih _
  | delete other => rfl
  | items other change => cases change <;> rfl

end

end SubscriptionState

/-! ### What is owed -/

/-- **The subscriptions as other tasks have made them,** and what was received. -/
structure Record (T : ClientTypes) where
  plain : UInt32 → Option (Subscription T)
  /-- The notifications for subscriptions that existed, with the callbacks that were registered. -/
  received : List (Option T.Callback × NotificationMessage T)
  /-- The acknowledgements of the notifications with data. -/
  due : List SubscriptionAcknowledgement
  /-- The acknowledgements in publishes that got a response. -/
  answered : List SubscriptionAcknowledgement

namespace Record

def new : Record T := ⟨fun _ => none, [], [], []⟩

def acknowledgement (subscriptionId : UInt32) (notification : NotificationMessage T) :
    List SubscriptionAcknowledgement :=
  if notificationHasData notification then [⟨subscriptionId, notification.sequenceNumber⟩] else []

/-- What a response adds. -/
def respond (r : Record T) (acks : List SubscriptionAcknowledgement) (subscriptionId : UInt32)
    (notification : NotificationMessage T) : Record T where
  plain := r.plain
  received := r.received ++
    ((r.plain subscriptionId).map fun s => (s.callback, notification)).toList
  due := r.due ++ acknowledgement subscriptionId notification
  answered := r.answered ++ acks

end Record

namespace PendingClientDelivery

/-- What is to be handed over. -/
def owed : Option (PendingClientDelivery T) → List (Option T.Callback × NotificationMessage T)
  | some ⟨subscription, some packet⟩ => [(subscription.callback, packet.notification)]
  | _ => []

def hide (delivery : Option (PendingClientDelivery T)) (id : UInt32)
    (subscription : Option (Subscription T)) : Option (Subscription T) :=
  match delivery with
  | some delivery =>
    if id = delivery.subscription.subscriptionId then
      subscription.map fun s => s.withCallback none
    else subscription
  | none => subscription

end PendingClientDelivery

namespace DeliveryWorld

def note (r : Record T) (w : DeliveryWorld T) (op : DeliveryOp T) (_ : DeliveryWorld T) :
    Record T :=
  match op with
  | .respond index subscriptionId notification =>
    r.respond (w.flights.getD index []) subscriptionId notification
  | .other op => { r with plain := fun id => op.effect id (r.plain id) }
  | _ => r

/-- **Nothing is lost, and nothing is done twice.** -/
structure Delivered (w : DeliveryWorld T) (r : Record T) : Prop where
  /-- What was received was passed to the callback registered for it, but for what is to be handed
  over at this moment. -/
  passed : w.passed ++ owed w.delivery = r.received
  /-- Outside of a delivery the subscriptions are as other tasks have made them. -/
  subscriptions : ∀ id, w.client.subscriptions.lookup id =
    hide w.delivery id (r.plain id)
  /-- Every subscription has a callback of its own. -/
  registered : ∀ id s, r.plain id = some s → s.callback ≠ none
  /-- An acknowledgement is queued, in a publish in flight, or was in one that got a response. -/
  acknowledged : (w.client.acknowledgements ++ w.flights.flatten ++ r.answered).Perm r.due

/-- **A step under which no subscription is replaced while it is being delivered.** -/
def Spares (w : DeliveryWorld T) : DeliveryOp T → Prop
  | .other op => ∀ delivery, w.delivery = some delivery →
    op.Keeps delivery.subscription.subscriptionId
  | _ => True

structure Staged (w : DeliveryWorld T) (r : Record T) : Prop where
  delivered : w.Delivered r
  named : ∀ id s, r.plain id = some s → s.subscriptionId = id
  callback : ∀ delivery s, w.delivery = some delivery →
    r.plain delivery.subscription.subscriptionId = some s →
      s.callback = delivery.subscription.callback

variable {w : DeliveryWorld T} {r : Record T}

theorem staged_new (minPublishInterval : Duration) :
    (new minPublishInterval : DeliveryWorld T).Staged .new where
  delivered := ⟨rfl, fun _ => rfl, (fun _ _ known => by cases known), .refl _⟩
  named _ _ known := by cases known
  callback _ _ handed := by cases handed

theorem Staged.publish (staged : w.Staged r) : w.publish.Staged r where
  delivered :=
    { staged.delivered with
      acknowledged := by
        refine .trans ?_ staged.delivered.acknowledged
        refine .append_right _ ?_
        show ([] ++ (w.flights ++ [w.client.acknowledgements]).flatten).Perm _
        rw [nil_append, flatten_append, flatten_singleton]
        exact perm_append_comm }
  named := staged.named
  callback := staged.callback

theorem flatten_eraseIdx_perm {α : Type} {l : List (List α)} {i : ℕ} (h : i < l.length) :
    l.flatten.Perm (l[i] ++ (l.eraseIdx i).flatten) := by
  exact (getElem_cons_eraseIdx_perm h).symm.flatten

theorem Staged.fail (staged : w.Staged r) {index : ℕ} {acks : List SubscriptionAcknowledgement}
    (flying : w.flights[index]? = some acks) :
    Staged { w with
      client := w.client.reQueueAcknowledgements acks
      flights := w.flights.eraseIdx index } r where
  delivered :=
    { staged.delivered with
      acknowledged := by
        obtain ⟨bound, rfl⟩ := List.getElem?_eq_some_iff.mp flying
        refine .trans ?_ staged.delivered.acknowledged
        refine .append_right _ ?_
        show (w.client.acknowledgements ++ w.flights[index] ++
          (w.flights.eraseIdx index).flatten).Perm _
        rw [append_assoc]
        exact (flatten_eraseIdx_perm bound).symm.append_left _ }
  named := staged.named
  callback := staged.callback

theorem collect_eq (s : SubscriptionState T) (subscriptionId : UInt32)
    (notification : NotificationMessage T) :
    s.collectClientDeliveryPacket subscriptionId notification =
      ((s.subscriptions.lookup subscriptionId).map fun subscription =>
        { acknowledgementQueued := notificationHasData notification
          notification := notification
          items := ⟨subscription.monitoredItems, subscription.clientHandles⟩ },
      { s with acknowledgements :=
          s.acknowledgements ++ Record.acknowledgement subscriptionId notification }) := by
  unfold collectClientDeliveryPacket Record.acknowledgement
  cases notificationHasData notification with
  | false => simp
  | true => rfl

theorem Staged.respond (staged : w.Staged r) (free : w.delivery = none) {index : ℕ}
    (flying : index < w.flights.length) (subscriptionId : UInt32)
    (notification : NotificationMessage T) :
    (w.respond index subscriptionId notification).Staged
      (r.respond (w.flights.getD index []) subscriptionId notification) := by
  have lookup : ∀ id, w.client.subscriptions.lookup id = r.plain id := fun id =>
    (staged.delivered.subscriptions id).trans (by rw [free]; rfl)
  have passed : w.passed = r.received := by
    have before := staged.delivered.passed
    rw [free] at before
    exact (append_nil _).symm.trans before
  -- The acknowledgement is queued whether or not there is a callback.
  have acknowledged :
      (w.client.acknowledgements ++ Record.acknowledgement subscriptionId notification ++
        (w.flights.eraseIdx index).flatten ++ (r.answered ++ w.flights.getD index [])).Perm
      (r.due ++ Record.acknowledgement subscriptionId notification) := by
    have before := staged.delivered.acknowledged
    have landed : w.flights.flatten.Perm
        (w.flights.getD index [] ++ (w.flights.eraseIdx index).flatten) := by
      rw [getD_eq_getElem?_getD, getElem?_eq_getElem flying]
      exact flatten_eraseIdx_perm flying
    refine .trans ?_ (before.append_right _)
    grind
  unfold DeliveryWorld.respond
  rw [collect_eq]
  cases known : r.plain subscriptionId with
  | none =>
    rw [(lookup subscriptionId).trans known]
    refine ⟨⟨?_, staged.delivered.subscriptions, staged.delivered.registered, acknowledged⟩,
      staged.named, staged.callback⟩
    simp [Record.respond, known, free, owed, passed]
  | some s =>
    have there : w.client.subscriptions.lookup subscriptionId = some s :=
      (lookup subscriptionId).trans known
    have named := staged.named subscriptionId s known
    simp only [there, map_some, stage,
      deleteSubscription]
    refine ⟨⟨?_, fun id => ?_, staged.delivered.registered, acknowledged⟩, staged.named, ?_⟩
    · simp [Record.respond, known, owed, passed]
    · refine (lookup_addSubscription _ _ id).trans ?_
      show (if id = s.subscriptionId then some (s.withCallback none)
        else (w.client.subscriptions.erase subscriptionId).lookup id) =
          if id = s.subscriptionId then (r.plain id).map fun s => s.withCallback none
          else r.plain id
      rw [named]
      split_ifs with same
      · rw [same, known]
        rfl
      · exact (AList.lookup_erase_ne same).trans (lookup id)
    · rintro delivery s' ⟨⟩ known'
      have same : some s' = some s := by
        rw [← known, ← named]
        exact known'.symm
      rw [some.inj same]

theorem Staged.deliver (staged : w.Staged r) {subscription : Subscription T}
    {packet : ClientDeliveryPacket T} (pending : w.delivery = some ⟨subscription, some packet⟩) :
    Staged { w with
      delivery := some ⟨subscription, none⟩
      passed := w.passed ++ [(subscription.callback, packet.notification)] } r where
  delivered :=
    { passed := by
        have before := staged.delivered.passed
        rw [pending, owed] at before
        exact (append_nil _).trans before
      subscriptions := fun id => by
        rw [staged.delivered.subscriptions, pending]
        rfl
      registered := staged.delivered.registered
      acknowledged := staged.delivered.acknowledged }
  named := staged.named
  callback := by
    rintro delivery s ⟨⟩
    exact staged.callback ⟨subscription, some packet⟩ s pending

theorem acknowledgements_restore (delivery : PendingClientDelivery T) (s : SubscriptionState T) :
    (delivery.restore s).acknowledgements = s.acknowledgements := by
  unfold restore deleteSubscription
  cases s.subscriptions.lookup delivery.subscription.subscriptionId <;> rfl

/-- **What the placeholder has become is merged back:** the subscription has its callback again. -/
theorem lookup_restore {s : SubscriptionState T} {delivery : PendingClientDelivery T}
    {subscription : Option (Subscription T)}
    (hidden : s.subscriptions.lookup delivery.subscription.subscriptionId =
      subscription.map fun s => s.withCallback none)
    (same : ∀ s, subscription = some s →
      s.subscriptionId = delivery.subscription.subscriptionId ∧
        s.callback = delivery.subscription.callback) (id : UInt32) :
    (delivery.restore s).subscriptions.lookup id =
      if id = delivery.subscription.subscriptionId then subscription
      else s.subscriptions.lookup id := by
  unfold restore deleteSubscription
  rw [hidden]
  cases subscription with
  | none => exact lookup_erase_eq _ _ _
  | some current =>
    obtain ⟨named, callback⟩ := same current rfl
    refine (lookup_addSubscription _ _ id).trans ?_
    split_ifs with here
    · cases current
      cases named
      cases callback
      rfl
    · exact AList.lookup_erase_ne here

theorem Staged.restore (staged : w.Staged r) {subscription : Subscription T}
    (handed : w.delivery = some ⟨subscription, none⟩) :
    Staged { w with
      client := restore ⟨subscription, none⟩ w.client
      delivery := none } r where
  delivered :=
    { passed := by
        have before := staged.delivered.passed
        rwa [handed] at before
      subscriptions := fun id => by
        have hidden := staged.delivered.subscriptions
        rw [handed] at hidden
        have here := (hidden subscription.subscriptionId).trans (if_pos rfl)
        refine (lookup_restore here (fun s known => ?_) id).trans ?_
        · exact ⟨staged.named _ s known, staged.callback _ s handed known⟩
        · rw [hidden]
          show (if id = subscription.subscriptionId then _ else
            if id = subscription.subscriptionId then _ else _) = r.plain id
          split_ifs with same
          · rw [same]
          · rfl
      registered := staged.delivered.registered
      acknowledged := by
        rw [acknowledgements_restore]
        exact staged.delivered.acknowledged }
  named := staged.named
  callback _ _ handed := by cases handed

theorem effect_some {op : SubscriptionOp T} {id : UInt32} {before : Option (Subscription T)}
    {s : Subscription T}
    (wellFormed : ∀ s, before = some s → s.subscriptionId = id ∧ s.callback ≠ none)
    (after : op.effect id before = some s) : s.subscriptionId = id ∧ s.callback ≠ none := by
  by_cases keeps : op.Keeps id
  · obtain gone | ⟨change, blind, changed⟩ := SubscriptionOp.effect_cases keeps
    · rw [gone] at after
      cases after
    · rw [changed] at after
      obtain ⟨s, rfl, rfl⟩ := map_eq_some_iff.mp after
      rw [blind.subscriptionId, blind.callback]
      exact wellFormed s rfl
  · simp only [SubscriptionOp.Keeps, not_forall, not_not] at keeps
    obtain ⟨added, callback, rfl, rfl⟩ := keeps
    rw [SubscriptionOp.effect, if_pos rfl, some.injEq] at after
    subst after
    exact ⟨rfl, nofun⟩

/-- **An operation of another task** that spares the subscription being delivered. -/
theorem Staged.other (staged : w.Staged r) {op : SubscriptionOp T} (spares : w.Spares (.other op)) :
    Staged { w with client := w.client.applyOp op }
      { r with plain := fun id => op.effect id (r.plain id) } := by
  have wellFormed : ∀ id s, op.effect id (r.plain id) = some s →
      s.subscriptionId = id ∧ s.callback ≠ none := fun id s =>
    effect_some fun s known => ⟨staged.named id s known, staged.delivered.registered id s known⟩
  refine ⟨⟨staged.delivered.passed, fun id => ?_, fun id s known => (wellFormed id s known).2, ?_⟩,
    fun id s known => (wellFormed id s known).1, fun delivery s pending known => ?_⟩
  · rw [lookup_applyOp, staged.delivered.subscriptions]
    cases pending : w.delivery with
    | none => rfl
    | some delivery =>
      show op.effect id (if id = delivery.subscription.subscriptionId then _ else _) =
        if id = delivery.subscription.subscriptionId then
          (op.effect id (r.plain id)).map fun s => s.withCallback none
        else op.effect id (r.plain id)
      split_ifs with same
      · have keeps := spares delivery pending
        rw [← same] at keeps
        obtain gone | ⟨change, blind, changed⟩ := SubscriptionOp.effect_cases keeps
        · rw [gone, gone]
          rfl
        · rw [changed, changed, Option.map_map, Option.map_map]
          congr 1
          funext s
          exact blind.withCallback s none
      · rfl
  · rw [acknowledgements_applyOp]
    exact staged.delivered.acknowledged
  · change op.effect delivery.subscription.subscriptionId (r.plain _) = some s at known
    obtain gone | ⟨change, blind, changed⟩ := SubscriptionOp.effect_cases (spares delivery pending)
    · rw [gone] at known
      cases known
    · rw [changed] at known
      obtain ⟨s, before, rfl⟩ := map_eq_some_iff.mp known
      exact (blind.callback s).trans (staged.callback delivery s pending before)

theorem Staged.step {w' : DeliveryWorld T} {op : DeliveryOp T} (staged : w.Staged r)
    (spares : w.Spares op) (stepped : w.applyDeliveryOp op = some w') :
    w'.Staged (note r w op w') := by
  cases op with
  | publish =>
    cases stepped
    exact staged.publish
  | fail index =>
    obtain ⟨acks, flying, rfl⟩ := map_eq_some_iff.mp stepped
    exact staged.fail flying
  | respond index subscriptionId notification =>
    cases free : w.delivery with
    | some delivery => simp [applyDeliveryOp, free] at stepped
    | none =>
      simp only [applyDeliveryOp, free] at stepped
      split_ifs at stepped with flying
      cases stepped
      exact staged.respond free flying subscriptionId notification
  | deliver =>
    match pending : w.delivery with
    | none => simp [applyDeliveryOp, pending] at stepped
    | some ⟨subscription, none⟩ => simp [applyDeliveryOp, pending] at stepped
    | some ⟨subscription, some packet⟩ =>
      simp only [applyDeliveryOp, pending, some.injEq] at stepped
      subst stepped
      exact staged.deliver pending
  | restore =>
    match handed : w.delivery with
    | none => simp [applyDeliveryOp, handed] at stepped
    | some ⟨subscription, some packet⟩ => simp [applyDeliveryOp, handed] at stepped
    | some ⟨subscription, none⟩ =>
      simp only [applyDeliveryOp, handed, some.injEq] at stepped
      subst stepped
      exact staged.restore handed
  | other op =>
    cases stepped
    exact staged.other spares

/-! ### Whole runs -/

def recordedMachine (T : ClientTypes) : Machine (DeliveryWorld T × Record T) (DeliveryOp T) :=
  (deliveryMachine T).observed note

/-- **Every notification is passed once to the callback registered for it, and its acknowledgement
is queued, in flight or answered,** in every run in which no subscription is added under the id that
is being delivered. -/
theorem notifications_delivered (minPublishInterval : Duration) (ops : List (DeliveryOp T))
    {w : DeliveryWorld T} {r : Record T}
    (spares : (recordedMachine T).Guarded (fun s op => s.1.Spares op)
      (new minPublishInterval, .new) ops)
    (ran : (recordedMachine T).run (new minPublishInterval, .new) ops = some (w, r)) :
    w.Delivered r := by
  have keeps : ∀ s op t, s.1.Staged s.2 → s.1.Spares op →
      (recordedMachine T).step s op = some t → t.1.Staged t.2 := by
    intro s op t staged spares stepped
    obtain ⟨next, noted⟩ := Machine.observed_step_eq_some.mp stepped
    have after := staged.step spares next
    rwa [← noted] at after
  have staged : w.Staged r := (recordedMachine T).run_invariant_of_guarded keeps
    (staged_new minPublishInterval) spares ran
  exact staged.delivered

def twoCallbacks : ClientTypes := { plainTypes with Callback := Bool }

def subscriptionOne : Subscription twoCallbacks :=
  .new 1 (.fromMillis 100) 60 20 0 0 true true

def dataFor (sequenceNumber : UInt32) : NotificationMessage twoCallbacks :=
  ⟨sequenceNumber, some [()]⟩

/-- A notification arrives, and the subscription is modified while its callback runs. -/
def modifiedMeanwhile : List (DeliveryOp twoCallbacks) :=
  [.other (.add subscriptionOne true), .publish, .respond 0 1 (dataFor 7),
    .other (.modify 1 (.fromMillis 200) 60 20 0 0), .deliver, .restore, .publish, .fail 0]

theorem spares_of_free {op : DeliveryOp T} (free : w.delivery = none) : w.Spares op := by
  cases op with
  | other op => exact fun delivery pending => absurd (free.symm.trans pending) nofun
  | _ => trivial

theorem notifications_delivered_modified : ∃ w r,
    (recordedMachine twoCallbacks).run (new .zero, .new) modifiedMeanwhile = some (w, r) ∧
      w.Delivered r := by
  refine ⟨_, _, rfl, notifications_delivered .zero modifiedMeanwhile ?_ rfl⟩
  refine .cons _ rfl (spares_of_free rfl) <| .cons _ rfl trivial <| .cons _ rfl trivial <|
    .cons _ rfl ?_ <| .cons _ rfl trivial <| .cons _ rfl trivial <| .cons _ rfl trivial <|
    .cons _ rfl trivial trivial
  rintro delivery - added callback ⟨⟩

/-- While its callback runs the subscription is deleted, and another one is created with its id. -/
def replacedMeanwhile : List (DeliveryOp twoCallbacks) :=
  [.other (.add subscriptionOne true), .publish, .respond 0 1 (dataFor 7), .other (.delete 1),
    .other (.add subscriptionOne false), .deliver, .restore]

/-- **A subscription that was created during a delivery gets the callback of a deleted one.** -/
theorem callback_replaced : ∃ w r,
    (recordedMachine twoCallbacks).run (new .zero, .new) replacedMeanwhile = some (w, r) ∧
      w.delivery = none ∧ ((r.plain 1).map callback) = some (some false) ∧
      ((w.client.subscriptions.lookup 1).map callback) = some (some true) ∧
      ¬ w.Delivered r := by
  refine ⟨_, _, rfl, rfl, rfl, rfl, fun delivered => ?_⟩
  have same := congrArg (Option.map callback) (delivered.subscriptions 1)
  cases same

end DeliveryWorld

end AsyncOpcua.Client
