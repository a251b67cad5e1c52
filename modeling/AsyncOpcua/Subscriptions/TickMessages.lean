/-
**A tick puts what it pops into messages, all of it, once and in order.**

* `Handle.issues_next` — the factory counts up from one and starts again at one;
* `tick_delivers` — none is lost, duplicated or moved within its kind, no message is empty or too
  long, and the numbers are consecutive.
-/

import AsyncOpcua.Foundation.Batches
import AsyncOpcua.Subscriptions.ScanDelivery
import AsyncOpcua.Subscriptions.Numbering

namespace AsyncOpcua.Subscriptions

open Types Foundation Scan

variable {E : Externals}

/-! ### What an item gives -/

open Option

namespace MonitoredItem

def pending (item : MonitoredItem E) : List (Notification E) :=
  item.notificationQueue ++ item.overflowEvent.toList.map .event

variable {item : MonitoredItem E}

theorem popNotification_perm {rest : MonitoredItem E} {notification : Notification E}
    (popped : item.popNotification = (some notification, rest)) :
    item.pending.Perm (notification :: rest.pending) ∧
      (item.notificationQueue = notification :: rest.notificationQueue ∨
        item.notificationQueue = rest.notificationQueue) := by
  unfold popNotification at popped
  split_ifs at popped with first
  · rw [Prod.mk.injEq] at popped
    obtain ⟨found, rfl⟩ := popped
    obtain ⟨fields, overflow⟩ := isSome_iff_exists.mp first.1
    rw [overflow, map_some, some.injEq] at found
    refine ⟨?_, Or.inr rfl⟩
    rw [pending, pending, overflow, ← found]
    simp
  · split at popped
    · rename_i front later queue
      obtain ⟨rfl, rfl⟩ := popped
      rw [pending, queue]
      exact ⟨.refl _, Or.inl rfl⟩
    · rename_i queue
      rw [Prod.mk.injEq] at popped
      obtain ⟨found, rfl⟩ := popped
      obtain ⟨fields, overflow, same⟩ := map_eq_some_iff.mp found
      rw [pending, pending, queue, overflow, ← same]
      exact ⟨.refl _, Or.inr rfl⟩

theorem pending_eq_nil (nothing : item.hasNotifications = false) :
    item.pending = [] ∧ item.notificationQueue = [] := by
  rw [hasNotifications, Bool.or_eq_false_iff, Bool.not_eq_false', List.isEmpty_iff,
    isSome_eq_false_iff, isNone_iff_eq_none] at nothing
  rw [pending, nothing.1, nothing.2]
  exact ⟨rfl, rfl⟩

theorem popRounds_perm {rounds : ℕ} (enough : item.pendingCount ≤ rounds) :
    (popRounds rounds item).1.Perm item.pending ∧
      item.notificationQueue.Sublist (popRounds rounds item).1 := by
  induction rounds generalizing item with
  | zero =>
    obtain ⟨none, empty⟩ := pending_eq_nil (pendingCount_eq_zero.mp (Nat.le_zero.mp enough))
    rw [none, empty]
    exact ⟨.refl _, .slnil⟩
  | succ rounds ih =>
    unfold popRounds
    cases popped : item.popNotification with
    | mk first rest =>
      cases first with
      | none =>
        obtain ⟨none, empty⟩ :=
          pending_eq_nil (popNotification_eq_none.mp (congrArg Prod.fst popped))
        rw [none, empty]
        exact ⟨.refl _, .slnil⟩
      | some notification =>
        obtain ⟨fewer, -⟩ := popNotification_spec popped
        obtain ⟨taken, order⟩ := popNotification_perm popped
        obtain ⟨later, kept⟩ := ih (by omega : rest.pendingCount ≤ rounds)
        refine ⟨(later.cons notification).trans taken.symm, ?_⟩
        obtain front | beside := order
        · rw [front]
          exact kept.cons_cons notification
        · rw [beside]
          exact kept.cons notification

/-- **Popping an item empty gives everything it has,** once, and its queue in order. -/
theorem popAll_perm (item : MonitoredItem E) :
    item.popAll.1.Perm item.pending ∧ item.notificationQueue.Sublist item.popAll.1 :=
  popRounds_perm le_rfl

def links (item : MonitoredItem E) (fires : Bool) : List (ℕ × ℕ) :=
  if fires then (ascending item.triggeredItems).map fun id => (item.id, id) else []

end MonitoredItem

/-! ### The walk over the items -/

/-- An item that is popped empty, as it is just before. -/
abbrev Pop (E : Externals) := ℕ × MonitoredItem E

def poppedOf (pops : List (Pop E)) : List (Notification E) := pops.flatMap fun pop => pop.2.popAll.1

theorem poppedOf_append (first second : List (Pop E)) :
    poppedOf (first ++ second) = poppedOf first ++ poppedOf second :=
  List.flatMap_append

/-- **The items a scan visits:** each is prepared, and popped empty if it reports. -/
def visitItems (now : ℤ) (resendData : Bool) :
    List ℕ → ItemMap E → Option (ItemMap E × List (ℕ × ℕ) × List (Pop E))
  | [], items => some (items, [], [])
  | id :: rest, items =>
    match items.lookup id with
    | none => visitItems now resendData rest items
    | some item =>
      (item.prepare now resendData).bind fun (fires, item) =>
        let left := if item.reports then item.popAll.2 else item
        (visitItems now resendData rest (items.insert id left)).map fun (items, links, pops) =>
          (items, item.links fires ++ links, (if item.reports then [(id, item)] else []) ++ pops)

/-- **The items that links lead to:** each is popped empty; a link that leads to none is removed. -/
def followLinks : List (ℕ × ℕ) → ItemMap E → ItemMap E × List (Pop E)
  | [], items => (items, [])
  | (triggeringItem, itemId) :: rest, items =>
    match items.lookup itemId with
    | none =>
      followLinks rest
        (match items.lookup triggeringItem with
          | some item => items.insert triggeringItem (item.removeDeadTrigger itemId)
          | none => items)
    | some item =>
      let (after, pops) := followLinks rest (items.insert itemId item.popAll.2)
      (after, (itemId, item) :: pops)

namespace Scan

def collectAll (maxNotifications : ℕ) (now : ℤ) (scan : Scan E) (links : List (ℕ × ℕ))
    (popped : List (Notification E)) : Scan E :=
  { popped.foldl (push maxNotifications now) scan with triggers := scan.triggers ++ links }

variable {scan : Scan E} {maxNotifications : ℕ} {now : ℤ}

theorem push_withTriggers (triggers : List (ℕ × ℕ)) (notification : Notification E) :
    push maxNotifications now { scan with triggers := triggers } notification =
      { push maxNotifications now scan notification with triggers := triggers } := by
  unfold push flush
  dsimp only
  split_ifs <;> rfl

theorem foldl_push_withTriggers (triggers : List (ℕ × ℕ)) (popped : List (Notification E)) :
    popped.foldl (push maxNotifications now) { scan with triggers := triggers } =
      { popped.foldl (push maxNotifications now) scan with triggers := triggers } := by
  induction popped generalizing scan with
  | nil => rfl
  | cons notification rest ih =>
    rw [List.foldl_cons, List.foldl_cons, push_withTriggers]
    exact ih

theorem collectAll_collectAll (first second : List (ℕ × ℕ)) (before after : List (Notification E)) :
    collectAll maxNotifications now (collectAll maxNotifications now scan first before) second
      after =
      collectAll maxNotifications now scan (first ++ second) (before ++ after) := by
  unfold collectAll
  rw [foldl_push_withTriggers, List.foldl_append, List.append_assoc]

theorem addTriggers_eq (fires : Bool) (item : MonitoredItem E) :
    scan.addTriggers fires item = { scan with triggers := scan.triggers ++ item.links fires } := by
  unfold addTriggers MonitoredItem.links
  cases fires with
  | false => simp
  | true => rfl

end Scan

theorem tickMonitoredItem_eq (item : MonitoredItem E) (now : ℤ) (resendData : Bool)
    (maxNotifications : ℕ) (scan : Scan E) :
    tickMonitoredItem item now resendData maxNotifications scan =
      (item.prepare now resendData).map fun (fires, item) =>
        (if item.reports then item.popAll.2 else item,
          scan.collectAll maxNotifications now (item.links fires)
            (if item.reports then item.popAll.1 else [])) := by
  unfold tickMonitoredItem
  congr 1
  funext ⟨fires, prepared⟩
  dsimp only
  rw [addTriggers_eq]
  unfold MonitoredItem.reports
  split_ifs
  · rw [foldl_push_withTriggers]
    rfl
  · rfl

theorem scanItems_eq (now : ℤ) (resendData : Bool) (maxNotifications : ℕ) (ids : List ℕ)
    (items : ItemMap E) (scan : Scan E) :
    scanItems now resendData maxNotifications ids items scan =
      (visitItems now resendData ids items).map fun (items, links, pops) =>
        (items, scan.collectAll maxNotifications now links (poppedOf pops)) := by
  induction ids generalizing items scan with
  | nil =>
    rw [scanItems, visitItems, map_some]
    simp [collectAll, poppedOf]
  | cons id rest ih =>
    rw [scanItems, visitItems]
    cases items.lookup id with
    | none => exact ih items scan
    | some item =>
      dsimp only
      rw [tickMonitoredItem_eq]
      cases item.prepare now resendData with
      | none => rfl
      | some outcome =>
        rw [map_some, bind_some, bind_some, ih, map_map]
        congr 1
        funext visited
        dsimp only [Function.comp]
        rw [collectAll_collectAll, poppedOf_append]
        congr 3
        split_ifs
        · simp [poppedOf]
        · rfl

theorem handleTriggers_eq (now : ℤ) (maxNotifications : ℕ) (triggers : List (ℕ × ℕ))
    (items : ItemMap E) (scan : Scan E) :
    handleTriggers now maxNotifications triggers items scan =
      ((followLinks triggers items).1,
        scan.collectAll maxNotifications now [] (poppedOf (followLinks triggers items).2)) := by
  induction triggers generalizing items scan with
  | nil => simp [handleTriggers, followLinks, collectAll, poppedOf]
  | cons trigger rest ih =>
    obtain ⟨triggeringItem, itemId⟩ := trigger
    rw [handleTriggers, followLinks]
    cases items.lookup itemId with
    | none => exact ih _ scan
    | some item =>
      dsimp only
      rw [ih]
      have pushed : item.popAll.1.foldl (push maxNotifications now) scan =
          scan.collectAll maxNotifications now [] item.popAll.1 := by
        unfold collectAll
        rw [List.append_nil, ← foldl_push_triggers maxNotifications now item.popAll.1 scan]
      rw [pushed, collectAll_collectAll]
      rfl

/-! ### Numbered batches -/

def messageOf (handle : Handle) (now : ℤ) (place : ℕ) (batch : List (Notification E)) :
    NotificationMessage E :=
  makeNotificationMessage (handle.issues place).next batch now

structure Scan.Shows (handle : Handle) (now : ℤ) (scan : Scan E)
    (batches : Batches (Notification E)) : Prop where
  notifications : scan.notifications = batches.collected
  messages : scan.messages = batches.closed.mapIdx (messageOf handle now)
  sequenceNumbers : scan.sequenceNumbers = handle.issues batches.closed.length

section Shows

variable {handle : Handle} {now : ℤ} {scan : Scan E} {batches : Batches (Notification E)}

section

variable (shows_ : scan.Shows handle now batches)
include shows_

theorem Scan.Shows.flush : (scan.flush now).Shows handle now batches.close where
  notifications := rfl
  messages := by
    show scan.messages ++ [_] = (batches.closed ++ [batches.collected]).mapIdx _
    rw [List.mapIdx_concat, shows_.messages, shows_.sequenceNumbers, shows_.notifications]
    rfl
  sequenceNumbers := by
    show scan.sequenceNumbers.issue.2 = handle.issues (batches.closed ++ [batches.collected]).length
    rw [List.length_append, shows_.sequenceNumbers]
    rfl

theorem Scan.Shows.push (maxNotifications : ℕ) (notification : Notification E) :
    (scan.push maxNotifications now notification).Shows handle now
      (batches.push maxNotifications notification) := by
  have collected : Scan.Shows handle now
      { scan with notifications := scan.notifications ++ [notification] }
      ⟨batches.closed, batches.collected ++ [notification]⟩ :=
    ⟨by rw [shows_.notifications], shows_.messages, shows_.sequenceNumbers⟩
  unfold Scan.push Batches.push
  dsimp only
  rw [shows_.notifications] at collected ⊢
  split_ifs
  · exact collected.flush
  · exact collected

theorem Scan.Shows.foldl_push (maxNotifications : ℕ) (popped : List (Notification E)) :
    (popped.foldl (Scan.push maxNotifications now) scan).Shows handle now
      (popped.foldl (Batches.push maxNotifications) batches) := by
  induction popped generalizing scan batches with
  | nil => exact shows_
  | cons notification rest ih => exact ih (shows_.push maxNotifications notification)

theorem Scan.Shows.collectAll (maxNotifications : ℕ) (links : List (ℕ × ℕ))
    (popped : List (Notification E)) :
    (scan.collectAll maxNotifications now links popped).Shows handle now
      (popped.foldl (Batches.push maxNotifications) batches) :=
  have pushed := shows_.foldl_push maxNotifications popped
  ⟨pushed.notifications, pushed.messages, pushed.sequenceNumbers⟩

theorem Scan.Shows.sealed :
    (if scan.notifications.isEmpty then scan else scan.flush now).messages =
      batches.sealed.mapIdx (messageOf handle now) := by
  unfold Batches.sealed
  rw [← shows_.notifications]
  split_ifs
  · exact shows_.messages
  · exact shows_.flush.messages

end

end Shows

/-- The items that a tick pops empty, one after the other. -/
def Subscription.pops (s : Subscription E) (now : ℤ) (resendData : Bool) (visit : VisitOrder) :
    Option (List (Pop E)) :=
  (visitItems now resendData (s.visited visit resendData) s.monitoredItems).map
    fun (items, links, pops) => pops ++ (followLinks links items).2

theorem tickMonitoredItems_batches (s : Subscription E) (now : ℤ) (resendData : Bool)
    (visit : VisitOrder) :
    (s.tickMonitoredItems now resendData visit).map Prod.fst =
      (s.pops now resendData visit).map fun pops =>
        (collect s.maxNotificationsPerPublish (poppedOf pops)).mapIdx
          (messageOf s.sequenceNumber now) := by
  unfold Subscription.tickMonitoredItems Subscription.pops
  rw [scanItems_eq, map_map, map_map, map_map]
  congr 1
  funext ⟨items, links, pops⟩
  have begins : Scan.Shows s.sequenceNumber now ⟨[], [], [], s.sequenceNumber⟩
      (Batches.empty : Batches (Notification E)) := ⟨rfl, rfl, rfl⟩
  have shown := (begins.collectAll s.maxNotificationsPerPublish links (poppedOf pops)).collectAll
    s.maxNotificationsPerPublish [] (poppedOf (followLinks links items).2)
  rw [← List.foldl_append, ← poppedOf_append] at shown
  dsimp only [Function.comp]
  rw [handleTriggers_eq]
  exact shown.sealed

/-! ### Numbers -/

/-- The factory counts up from one. -/
structure Handle.FromOne (handle : Handle) : Prop where
  first : handle.first = 1
  positive : 1 ≤ handle.next
  bounded : handle.next ≤ u32Max

theorem Handle.FromOne.new : (Handle.new 1).FromOne := ⟨rfl, le_refl _, by decide⟩

/-- **The numbers are consecutive:** after `u32::MAX` comes one. -/
theorem Handle.FromOne.issues {handle : Handle} (from_ : handle.FromOne) (count : ℕ) :
    (handle.issues count).FromOne ∧
      (handle.issues count).next = (handle.next - 1 + count) % u32Max + 1 := by
  obtain ⟨first, positive, bounded⟩ := from_
  induction count with
  | zero =>
    refine ⟨⟨first, positive, bounded⟩, ?_⟩
    show handle.next = _
    rw [Nat.add_zero, Nat.mod_eq_of_lt (by omega)]
    omega
  | succ count ih =>
    obtain ⟨⟨first, positive, bounded⟩, next⟩ := ih
    have same : (handle.issues (count + 1)).next =
        if (handle.issues count).next = u32Max then (handle.issues count).first
        else (handle.issues count).next + 1 := rfl
    have after :
        (handle.issues (count + 1)).next = (handle.next - 1 + (count + 1)) % u32Max + 1 := by
      rw [same, first, next, ← Nat.add_assoc]
      unfold u32Max
      split_ifs <;> omega
    have below := Nat.mod_lt (handle.next - 1 + (count + 1)) (show 0 < u32Max by decide)
    exact ⟨⟨first, by omega, by omega⟩, after⟩

/-! ### What the messages hold -/

def dataChangesOf (message : NotificationMessage E) : List (MonitoredItemNotification E) :=
  (message.notificationData.getD []).flatMap fun
    | .dataChangeNotification monitoredItems => monitoredItems
    | _ => []

def eventsOf (message : NotificationMessage E) : List E.EventFieldList :=
  (message.notificationData.getD []).flatMap fun
    | .eventNotificationList events => events
    | _ => []

def notificationsOf (message : NotificationMessage E) : List (Notification E) :=
  (dataChangesOf message).map .monitoredItemNotification ++ (eventsOf message).map .event

section Messages

variable (number : ℕ) (batch : List (Notification E)) (now : ℤ)

theorem dataChangesOf_make :
    dataChangesOf (makeNotificationMessage number batch now) = batch.filterMap dataChangeOf := by
  unfold dataChangesOf makeNotificationMessage NotificationMessage.dataChange
  cases batch.filterMap dataChangeOf <;> cases batch.filterMap eventOf <;> simp

theorem eventsOf_make :
    eventsOf (makeNotificationMessage number batch now) = batch.filterMap eventOf := by
  unfold eventsOf makeNotificationMessage NotificationMessage.dataChange
  cases batch.filterMap dataChangeOf <;> cases batch.filterMap eventOf <;> simp

theorem split_perm : ((batch.filterMap dataChangeOf).map Notification.monitoredItemNotification ++
    (batch.filterMap eventOf).map Notification.event).Perm batch := by
  induction batch with
  | nil => exact .refl _
  | cons notification rest ih =>
    cases notification with
    | monitoredItemNotification change => exact ih.cons _
    | event fields =>
      exact List.perm_middle.trans (ih.cons _)

theorem notificationsOf_make :
    (notificationsOf (makeNotificationMessage number batch now)).Perm batch := by
  unfold notificationsOf
  rw [dataChangesOf_make, eventsOf_make]
  exact split_perm batch

end Messages

section

variable {β : Type} {holds : NotificationMessage E → List β} {part : List (Notification E) → List β}
  {build : ℕ → List (Notification E) → NotificationMessage E}

theorem flatMap_messages (each : ∀ place batch, (holds (build place batch)).Perm (part batch))
    (batches : List (List (Notification E))) :
    ((batches.mapIdx build).flatMap holds).Perm (batches.flatMap part) := by
  induction batches generalizing build with
  | nil => exact .refl _
  | cons batch rest ih =>
    rw [List.mapIdx_cons, List.flatMap_cons, List.flatMap_cons]
    exact (each 0 batch).append (ih fun place => each (place + 1))

theorem flatMap_messages_eq (each : ∀ place batch, holds (build place batch) = part batch)
    (batches : List (List (Notification E))) :
    (batches.mapIdx build).flatMap holds = batches.flatMap part := by
  induction batches generalizing build with
  | nil => rfl
  | cons batch rest ih =>
    rw [List.mapIdx_cons, List.flatMap_cons, List.flatMap_cons, each 0 batch,
      ih fun place => each (place + 1)]

end

/-- **A tick delivers what it pops.** The items popped give all they have, each its queue in order;
together the messages hold exactly these notifications, and the data changes and the events are each
in the order popped. No message is empty or too long, and they are numbered one after the other,
with one after `u32::MAX`. -/
theorem tick_delivers {s t : Subscription E} {now : ℤ} {resendData : Bool} {visit : VisitOrder}
    {messages : List (NotificationMessage E)}
    (scanned : s.tickMonitoredItems now resendData visit = some (messages, t)) :
    ∃ pops, s.pops now resendData visit = some pops ∧
      (∀ pop ∈ pops, pop.2.popAll.1.Perm pop.2.pending ∧
        pop.2.notificationQueue.Sublist pop.2.popAll.1) ∧
      (messages.flatMap notificationsOf).Perm (poppedOf pops) ∧
      messages.flatMap dataChangesOf = (poppedOf pops).filterMap dataChangeOf ∧
      messages.flatMap eventsOf = (poppedOf pops).filterMap eventOf ∧
      (∀ message ∈ messages, 1 ≤ (notificationsOf message).length ∧
        (0 < s.maxNotificationsPerPublish →
          (notificationsOf message).length ≤ s.maxNotificationsPerPublish)) ∧
      (s.sequenceNumber.FromOne → t.sequenceNumber.FromOne ∧
        ∀ place message, messages[place]? = some message →
          message.sequenceNumber = (s.sequenceNumber.next - 1 + place) % u32Max + 1) := by
  have batches := tickMonitoredItems_batches s now resendData visit
  rw [scanned, map_some] at batches
  obtain ⟨pops, walked, built⟩ := map_eq_some_iff.mp batches.symm
  dsimp only at built
  obtain ⟨numbered, counter⟩ := Subscription.tickMonitoredItems_numbered scanned
  refine ⟨pops, walked, fun pop _ => pop.2.popAll_perm, ?_, ?_, ?_, ?_, fun from_ => ⟨?_, ?_⟩⟩
  · have held := flatMap_messages (fun place batch =>
      notificationsOf_make (s.sequenceNumber.issues place).next batch now)
      (collect s.maxNotificationsPerPublish (poppedOf pops))
    rw [List.flatMap_id', flatten_collect] at held
    rw [← built]
    exact held
  · have held := flatMap_messages_eq (fun place batch =>
      dataChangesOf_make (s.sequenceNumber.issues place).next batch now)
      (collect s.maxNotificationsPerPublish (poppedOf pops))
    rw [← built]
    refine held.trans ?_
    rw [List.flatMap_def, ← List.filterMap_flatten, flatten_collect]
  · have held := flatMap_messages_eq (fun place batch =>
      eventsOf_make (s.sequenceNumber.issues place).next batch now)
      (collect s.maxNotificationsPerPublish (poppedOf pops))
    rw [← built]
    refine held.trans ?_
    rw [List.flatMap_def, ← List.filterMap_flatten, flatten_collect]
  · intro message there
    rw [← built] at there
    obtain ⟨place, inside, rfl⟩ := List.mem_mapIdx.mp there
    obtain ⟨some, short⟩ := mem_collect (List.getElem_mem inside)
    rw [messageOf, (notificationsOf_make _ _ now).length_eq]
    exact ⟨List.length_pos_iff.mpr some, short⟩
  · rw [counter]
    exact (from_.issues messages.length).1
  · intro place message there
    rw [numbered place message there]
    exact (from_.issues place).2

/-- A subscription with two items that have their first values; a message has room for one. -/
def twoItems : Subscription Externals.integers :=
  ((integerSubscription threeCounts 1).insert 7 (integerItem 7 .reporting 1)).insert 8
    (integerItem 8 .reporting 1)

theorem tick_delivers_two :
    ∃ messages t pops, twoItems.tickMonitoredItems 0 false .upward = some (messages, t) ∧
      messages.length = 2 ∧ twoItems.pops 0 false .upward = some pops ∧
      (messages.flatMap notificationsOf).Perm (poppedOf pops) ∧
      ∀ place message, messages[place]? = some message →
        message.sequenceNumber = (1 - 1 + place) % u32Max + 1 := by
  obtain ⟨messages, t, scanned, two⟩ : ∃ messages t,
      twoItems.tickMonitoredItems 0 false .upward = some (messages, t) ∧ messages.length = 2 :=
    ⟨_, _, rfl, rfl⟩
  obtain ⟨pops, walked, -, held, -, -, -, numbers⟩ := tick_delivers scanned
  exact ⟨messages, t, pops, scanned, two, walked, held, (numbers Handle.FromOne.new).2⟩

end AsyncOpcua.Subscriptions
