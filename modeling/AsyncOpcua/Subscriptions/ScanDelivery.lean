/-
**Which notifications a scan delivers, and what it leaves queued.**
-/

import AsyncOpcua.Subscriptions.Delivery

namespace AsyncOpcua.Subscriptions

open Types Foundation List Option Or Prod

variable {E : Externals}

/-! ### Popping an item empty -/

namespace MonitoredItem

variable {item rest : MonitoredItem E}

theorem popNotification_spec {notification : Notification E}
    (popped : item.popNotification = (some notification, rest)) :
    rest.pendingCount + 1 = item.pendingCount ∧ ∀ queued ∈ item.notificationQueue,
      queued = notification ∨ queued ∈ rest.notificationQueue := by
  unfold popNotification at popped
  split_ifs at popped with first
  · rw [Prod.mk.injEq] at popped
    obtain ⟨-, rfl⟩ := popped
    obtain ⟨fields, overflow⟩ := isSome_iff_exists.mp first.1
    refine ⟨?_, fun queued there => inr there⟩
    simp [pendingCount, overflow]
  · split at popped
    · rename_i front later queue
      obtain ⟨rfl, rfl⟩ := popped
      refine ⟨?_, fun queued there => ?_⟩
      · simp [pendingCount, queue]
        omega
      · rw [queue] at there
        exact mem_cons.mp there
    · rename_i queue
      rw [Prod.mk.injEq] at popped
      obtain ⟨overflow, rfl⟩ := popped
      refine ⟨?_, fun queued there => by rw [queue] at there; cases there⟩
      cases event : item.overflowEvent with
      | none =>
        rw [event] at overflow
        cases overflow
      | some fields => simp [pendingCount, event]

theorem popNotification_rest
    (popped : item.popNotification = (none, rest)) : rest.hasNotifications = false := by
  unfold popNotification at popped
  split_ifs at popped with first
  · obtain ⟨fields, overflow⟩ := isSome_iff_exists.mp first.1
    rw [overflow] at popped
    cases popped
  · split at popped
    · cases popped
    · rename_i queue
      rw [Prod.mk.injEq] at popped
      obtain ⟨-, rfl⟩ := popped
      simp [hasNotifications, queue]

theorem popRounds_spec {rounds : ℕ} {item : MonitoredItem E} (enough : item.pendingCount ≤ rounds) :
    (popRounds rounds item).2.hasNotifications = false ∧
      ∀ queued ∈ item.notificationQueue, queued ∈ (popRounds rounds item).1 := by
  induction rounds generalizing item with
  | zero =>
    have nothing := pendingCount_eq_zero.mp (Nat.le_zero.mp enough)
    refine ⟨nothing, fun queued there => ?_⟩
    rw [hasNotifications, Bool.or_eq_false_iff, Bool.not_eq_false', List.isEmpty_iff] at nothing
    rw [nothing.1] at there
    cases there
  | succ rounds ih =>
    unfold popRounds
    cases popped : item.popNotification with
    | mk first rest =>
      cases first with
      | none =>
        have nothing := popNotification_eq_none.mp (congrArg fst popped)
        refine ⟨popNotification_rest popped, fun queued there => ?_⟩
        rw [hasNotifications, Bool.or_eq_false_iff, Bool.not_eq_false', List.isEmpty_iff] at nothing
        rw [nothing.1] at there
        cases there
      | some notification =>
        obtain ⟨fewer, keeps⟩ := popNotification_spec popped
        obtain ⟨emptied, collected⟩ := ih (by omega : rest.pendingCount ≤ rounds)
        refine ⟨emptied, fun queued there => ?_⟩
        obtain first | later := keeps queued there
        · exact first ▸ mem_cons_self
        · exact mem_cons_of_mem _ (collected queued later)

/-- **Popping an item empty** gives its whole queue, and leaves it without notifications. -/
theorem popAll_spec (item : MonitoredItem E) : item.popAll.2.hasNotifications = false ∧
    ∀ queued ∈ item.notificationQueue, queued ∈ item.popAll.1 :=
  popRounds_spec le_rfl

end MonitoredItem

/-! ### What a scan holds -/

variable {now : ℤ} {notification : Notification E}

theorem mem_makeNotificationMessage {number : ℕ} {notifications : List (Notification E)}
    (listed : notification ∈ notifications) :
    (makeNotificationMessage number notifications now).Carries notification := by
  refine NotificationMessage.dataChange_carries ?_
  cases notification with
  | monitoredItemNotification | event => exact mem_filterMap.mpr ⟨_, listed, rfl⟩

namespace Scan

def Holds (scan : Scan E) (notification : Notification E) : Prop :=
  notification ∈ scan.notifications ∨ ∃ message ∈ scan.messages, message.Carries notification

variable {scan : Scan E} {notification : Notification E}

theorem flush_carries (now : ℤ) (holds : scan.Holds notification) :
    ∃ message ∈ (scan.flush now).messages, message.Carries notification := by
  obtain collected | ⟨message, there, carries⟩ := holds
  · exact ⟨_, mem_append_right _ (mem_singleton.mpr rfl),
      mem_makeNotificationMessage collected⟩
  · exact ⟨message, mem_append_left _ there, carries⟩

theorem push_holds (maxNotifications : ℕ) (now : ℤ) (pushed : Notification E)
    (holds : scan.Holds notification ∨ notification = pushed) :
    (scan.push maxNotifications now pushed).Holds notification := by
  have collected : Holds { scan with notifications := scan.notifications ++ [pushed] }
      notification := by
    obtain (before | built) | rfl := holds
    · exact inl (mem_append_left _ before)
    · exact inr built
    · exact inl (mem_append_right _ (mem_singleton.mpr rfl))
  unfold push
  dsimp only
  split_ifs
  · exact inr (flush_carries now collected)
  · exact collected

theorem foldl_push_holds (maxNotifications : ℕ) (now : ℤ) (popped : List (Notification E))
    (holds : scan.Holds notification ∨ notification ∈ popped) :
    (popped.foldl (push maxNotifications now) scan).Holds notification := by
  induction popped generalizing scan with
  | nil => exact holds.resolve_right not_mem_nil
  | cons first rest ih =>
    refine ih ?_
    obtain before | listed := holds
    · exact inl (push_holds _ _ _ (inl before))
    · obtain here | later := mem_cons.mp listed
      · exact inl (push_holds _ _ _ (inr here))
      · exact inr later

theorem addTriggers_holds {fires : Bool} {item : MonitoredItem E}
    (holds : scan.Holds notification) : (scan.addTriggers fires item).Holds notification := by
  unfold addTriggers
  split_ifs
  · exact holds
  · exact holds

end Scan

variable {after : MonitoredItem E} {resendData : Bool} {maxNotifications : ℕ} {scan scan' : Scan E}

theorem tickMonitoredItem_delivers {item : MonitoredItem E}
    (ticked : tickMonitoredItem item now resendData maxNotifications scan = some (after, scan')) :
    ∃ fires prepared, item.prepare now resendData = some (fires, prepared) ∧
      after = (if prepared.reports then prepared.popAll.2 else prepared) ∧
      ∀ notification, scan.Holds notification ∨
        prepared.reports = true ∧ notification ∈ prepared.popAll.1 → scan'.Holds notification := by
  obtain ⟨⟨fires, prepared⟩, prep, built⟩ := map_eq_some_iff.mp ticked
  refine ⟨fires, prepared, prep, ?_⟩
  change (if prepared.reports = true then _ else _) = _ at built
  split_ifs at built with reports
  · rw [mk.injEq] at built
    obtain ⟨rfl, rfl⟩ := built
    refine ⟨by rw [if_pos reports], fun notification holds => ?_⟩
    exact Scan.foldl_push_holds _ _ _ (holds.imp Scan.addTriggers_holds fun popped => popped.2)
  · rw [mk.injEq] at built
    obtain ⟨rfl, rfl⟩ := built
    refine ⟨by rw [if_neg reports], fun notification holds => Scan.addTriggers_holds ?_⟩
    exact holds.resolve_right fun queued => reports queued.1

variable {prepared : MonitoredItem E}

theorem reports_of_delivered
    (delivered : after = if prepared.reports then prepared.popAll.2 else prepared) :
    after.reports = false := by
  split_ifs at delivered with reports
  · rw [delivered, MonitoredItem.reports, prepared.popAll_spec.1, Bool.and_false]
  · rw [delivered]
    exact Bool.eq_false_of_not_eq_true reports

variable {items : ItemMap E}

/-- **What a scan delivers.** It holds what the visited items that report have once they are
prepared, and leaves them popped empty. -/
theorem scanItems_delivers {ids : List ℕ} (distinct : ids.Nodup) {items' : ItemMap E}
    (scanned : scanItems now resendData maxNotifications ids items scan = some (items', scan')) :
    (∀ notification, scan.Holds notification ∨ (∃ id ∈ ids, ∃ fires prepared,
        (items.lookup id).bind (·.prepare now resendData) = some (fires, prepared) ∧
          prepared.reports = true ∧ notification ∈ prepared.popAll.1) →
        scan'.Holds notification) ∧
      ∀ id ∈ ids, ∀ after, items'.lookup id = some after → ∃ fires prepared,
        (items.lookup id).bind (·.prepare now resendData) = some (fires, prepared) ∧
          after = if prepared.reports then prepared.popAll.2 else prepared := by
  induction ids generalizing items scan with
  | nil =>
    cases scanned
    refine ⟨fun notification holds => holds.resolve_right ?_, fun _ mem => by cases mem⟩
    rintro ⟨id, mem, -⟩
    cases mem
  | cons id rest ih =>
    obtain ⟨unvisited, distinct⟩ := nodup_cons.mp distinct
    rw [scanItems] at scanned
    split at scanned
    · rename_i absent
      have leaves := (scanItems_spec distinct scanned).2.2.1
      obtain ⟨holds, left⟩ := ih distinct scanned
      refine ⟨fun notification held => holds notification (held.imp_right ?_), ?_⟩
      · rintro ⟨other, mem, fires, prepared, prep, queued⟩
        obtain rfl | later := mem_cons.mp mem
        · rw [absent] at prep
          cases prep
        · exact ⟨other, later, fires, prepared, prep, queued⟩
      · intro other mem after found
        obtain rfl | later := mem_cons.mp mem
        · rw [leaves other unvisited, absent] at found
          cases found
        · exact left other later after found
    · rename_i item there
      obtain ⟨⟨first, middle⟩, ticked, scanned⟩ := bind_eq_some_iff.mp scanned
      have leaves := (scanItems_spec distinct scanned).2.2.1
      obtain ⟨holds, left⟩ := ih distinct scanned
      obtain ⟨fires, prepared, prep, popped, taken⟩ := tickMonitoredItem_delivers ticked
      have same : ∀ other ∈ rest, (items.insert id first).lookup other = items.lookup other :=
        fun other later => AList.lookup_insert_ne fun equal => unvisited (equal ▸ later)
      have here : (items.lookup id).bind (·.prepare now resendData) = some (fires, prepared) := by
        rw [there]
        exact prep
      refine ⟨fun notification held => holds notification ?_, fun other mem after found => ?_⟩
      · obtain before | ⟨other, mem, fires', prepared', prep', queued⟩ := held
        · exact inl (taken notification (inl before))
        · obtain rfl | later := mem_cons.mp mem
          · rw [here, some.injEq, mk.injEq] at prep'
            obtain ⟨-, rfl⟩ := prep'
            exact inl (taken notification (inr queued))
          · exact inr ⟨other, later, fires', prepared', by rw [same other later]; exact prep',
              queued⟩
      · obtain rfl | later := mem_cons.mp mem
        · rw [leaves other unvisited, AList.lookup_insert, some.injEq] at found
          exact ⟨fires, prepared, here, found ▸ popped⟩
        · obtain ⟨fires', prepared', prep', popped'⟩ := left other later after found
          rw [same other later] at prep'
          exact ⟨fires', prepared', prep', popped'⟩

theorem scanItems_present {ids : List ℕ} {items' : ItemMap E}
    (scanned : scanItems now resendData maxNotifications ids items scan = some (items', scan'))
    {id : ℕ} (present : (items.lookup id).isSome) : (items'.lookup id).isSome := by
  induction ids generalizing items scan with
  | nil =>
    cases scanned
    exact present
  | cons first rest ih =>
    rw [scanItems] at scanned
    split at scanned
    · exact ih scanned present
    · obtain ⟨⟨after, middle⟩, -, scanned⟩ := bind_eq_some_iff.mp scanned
      refine ih scanned ?_
      by_cases same : id = first
      · rw [same, AList.lookup_insert]
        rfl
      · rwa [AList.lookup_insert_ne same]

/-! ### What the links do -/

structure Sampled (E : Externals) where
  monitoringMode : MonitoringMode
  itemToMonitor : ParsedReadValueId E
  clientHandle : ℕ
  samplingInterval : SamplingInterval
  filter : FilterType E
  lastDataValue : Option E.DataValue
  sampleSkippedDataValue : Option E.DataValue

variable (item : MonitoredItem E)

def MonitoredItem.sampled : Sampled E where
  monitoringMode := item.monitoringMode
  itemToMonitor := item.itemToMonitor
  clientHandle := item.clientHandle
  samplingInterval := item.samplingInterval
  filter := item.filter
  lastDataValue := item.lastDataValue
  sampleSkippedDataValue := item.sampleSkippedDataValue

theorem MonitoredItem.popRounds_frame {Part : Type} {part : MonitoredItem E → Part}
    (popped : ∀ item, part item.popNotification.2 = part item) (rounds : ℕ)
    (item : MonitoredItem E) : part (popRounds rounds item).2 = part item := by
  induction rounds generalizing item with
  | zero => rfl
  | succ rounds ih =>
    unfold popRounds
    cases first : item.popNotification with
    | mk notification rest =>
      have same : part rest = part item := by
        rw [← popped item, first]
      cases notification with
      | none => exact same
      | some notification => exact (ih rest).trans same

theorem MonitoredItem.popRounds_sampled (rounds : ℕ) (item : MonitoredItem E) :
    (popRounds rounds item).2.sampled = item.sampled := by
  refine popRounds_frame (fun item => ?_) rounds item
  unfold popNotification
  split_ifs
  · rfl
  · split <;> rfl

/-- **What the links of a scan do to an item:** it is popped empty, or it loses links. -/
structure Unlinked (before after : MonitoredItem E) : Prop where
  sampled : after.sampled = before.sampled
  reports : after.reports = true → before.reports = true

theorem Unlinked.refl : Unlinked item item := ⟨rfl, fun yes => yes⟩

theorem Unlinked.trans {first second third : MonitoredItem E} (before : Unlinked first second)
    (after : Unlinked second third) : Unlinked first third :=
  ⟨after.sampled.trans before.sampled, fun yes => before.reports (after.reports yes)⟩

theorem unlinked_popAll : Unlinked item item.popAll.2 := by
  refine ⟨MonitoredItem.popRounds_sampled _ item, fun yes => ?_⟩
  rw [MonitoredItem.reports, item.popAll_spec.1, Bool.and_false] at yes
  cases yes

theorem unlinked_removeDeadTrigger (id : ℕ) :
    Unlinked item (item.removeDeadTrigger id) := ⟨rfl, fun yes => yes⟩

/-- Two maps have the same ids, with items that differ by what links do. -/
def SameItems (items items' : ItemMap E) : Prop :=
  ∀ id, Option.Rel Unlinked (items.lookup id) (items'.lookup id)

theorem SameItems.refl (items : ItemMap E) : SameItems items items := by
  intro id
  cases items.lookup id with
  | none => exact .none
  | some item => exact .some (.refl item)

theorem SameItems.trans {first second third : ItemMap E} (before : SameItems first second)
    (after : SameItems second third) : SameItems first third := by
  intro id
  have left := before id
  have right := after id
  cases one : first.lookup id with
  | none =>
    rw [one] at left
    cases two : second.lookup id with
    | none =>
      rw [two] at right
      exact right
    | some item =>
      rw [two] at left
      cases left
  | some item =>
    rw [one] at left
    cases two : second.lookup id with
    | none =>
      rw [two] at left
      cases left
    | some item' =>
      rw [two] at left right
      cases left with
      | some first =>
        cases three : third.lookup id with
        | none =>
          rw [three] at right
          cases right
        | some item'' =>
          rw [three] at right
          cases right with
          | some second => exact .some (first.trans second)

theorem SameItems.insert {id : ℕ} {before : MonitoredItem E}
    (found : items.lookup id = some before) (unlinked : Unlinked before after) :
    SameItems items (items.insert id after) := by
  intro other
  by_cases same : other = id
  · rw [same, found, AList.lookup_insert]
    exact .some unlinked
  · rw [AList.lookup_insert_ne same]
    exact SameItems.refl items other

/-- **The links** pop items empty or lose links, and the scan holds what it held. -/
theorem handleTriggers_spec (now : ℤ) (maxNotifications : ℕ) (triggers : List (ℕ × ℕ))
    (items : ItemMap E) (scan : Scan E) :
    SameItems items (handleTriggers now maxNotifications triggers items scan).1 ∧
      ∀ notification, scan.Holds notification →
        (handleTriggers now maxNotifications triggers items scan).2.Holds notification := by
  induction triggers generalizing items scan with
  | nil => exact ⟨.refl items, fun _ holds => holds⟩
  | cons trigger rest ih =>
    obtain ⟨triggeringItem, itemId⟩ := trigger
    rw [handleTriggers]
    split
    · cases linked : items.lookup triggeringItem with
      | none => exact ih items scan
      | some item =>
        obtain ⟨same, holds⟩ :=
          ih (items.insert triggeringItem (item.removeDeadTrigger itemId)) scan
        exact ⟨(SameItems.insert linked (unlinked_removeDeadTrigger item itemId)).trans same, holds⟩
    · rename_i item found
      obtain ⟨same, holds⟩ := ih (items.insert itemId item.popAll.2)
        (item.popAll.1.foldl (Scan.push maxNotifications now) scan)
      refine ⟨(SameItems.insert found (unlinked_popAll item)).trans same,
        fun notification held => ?_⟩
      exact holds notification (Scan.foldl_push_holds _ _ _ (inl held))

/-! ### A whole scan -/

namespace Subscription

variable {s t : Subscription E} {now : ℤ} {resendData : Bool} {visit : VisitOrder}
  {messages : List (NotificationMessage E)} {id : ℕ}

section

variable (scanned : s.tickMonitoredItems now resendData visit = some (messages, t))
include scanned

theorem tickMonitoredItems_carries (visited : id ∈ s.visited visit resendData) {fires : Bool}
    (prep : (s.monitoredItems.lookup id).bind (·.prepare now resendData) = some (fires, prepared))
    (reports : prepared.reports = true)
    (popped : notification ∈ prepared.popAll.1) :
    ∃ message ∈ messages, message.Carries notification := by
  obtain ⟨⟨items, scan⟩, scannedItems, built⟩ := map_eq_some_iff.mp scanned
  obtain ⟨rfl, -⟩ := built
  have held := (scanItems_delivers (s.visited_nodup visit resendData) scannedItems).1 notification
    (inr ⟨id, visited, fires, prepared, prep, reports, popped⟩)
  have linked := (handleTriggers_spec now s.maxNotificationsPerPublish scan.triggers items scan).2
    notification held
  split_ifs with flushed
  · refine linked.resolve_left fun collected => ?_
    rw [isEmpty_iff.mp flushed] at collected
    cases collected
  · exact Scan.flush_carries now linked

theorem tickMonitoredItems_present {item : MonitoredItem E}
    (found : s.monitoredItems.lookup id = some item) :
    ∃ after, t.monitoredItems.lookup id = some after := by
  obtain ⟨⟨items, scan⟩, scannedItems, built⟩ := map_eq_some_iff.mp scanned
  obtain ⟨-, rfl⟩ := built
  have linked :=
    (handleTriggers_spec now s.maxNotificationsPerPublish scan.triggers items scan).1 id
  have present := scanItems_present scannedItems (by rw [found]; rfl : (_ : Option _).isSome)
  obtain ⟨middle, there⟩ := isSome_iff_exists.mp present
  rw [there] at linked
  generalize
    (handleTriggers now s.maxNotificationsPerPublish scan.triggers items scan).1.lookup id =
    left at linked ⊢
  cases linked with
  | some => exact ⟨_, rfl⟩

/-- **What a scan leaves of the items.** A visited item is prepared, popped empty if it reports, and
has nothing to report; the others differ by what links do. -/
theorem tickMonitoredItems_leaves {after : MonitoredItem E}
    (found : t.monitoredItems.lookup id = some after) :
    (id ∉ s.visited visit resendData ∧ ∃ before, s.monitoredItems.lookup id = some before ∧
        Unlinked before after) ∨
      id ∈ s.visited visit resendData ∧ after.reports = false ∧ ∃ fires prepared,
        (s.monitoredItems.lookup id).bind (·.prepare now resendData) = some (fires, prepared) ∧
          after.sampled = prepared.sampled := by
  obtain ⟨⟨items, scan⟩, scannedItems, built⟩ := map_eq_some_iff.mp scanned
  obtain ⟨-, rfl⟩ := built
  have linked :=
    (handleTriggers_spec now s.maxNotificationsPerPublish scan.triggers items scan).1 id
  rw [found] at linked
  cases there : items.lookup id with
  | none =>
    rw [there] at linked
    cases linked
  | some middle =>
    rw [there] at linked
    cases linked with
    | some unlinked =>
      have leaves := (scanItems_spec (s.visited_nodup visit resendData) scannedItems).2.2.1 id
      by_cases visited : id ∈ s.visited visit resendData
      · obtain ⟨fires, prepared, prep, popped⟩ :=
          (scanItems_delivers (s.visited_nodup visit resendData) scannedItems).2 id visited middle
            there
        have silent := reports_of_delivered popped
        refine inr ⟨visited, ?_, fires, prepared, prep, unlinked.sampled.trans ?_⟩
        · refine Bool.eq_false_of_not_eq_true fun yes => ?_
          rw [unlinked.reports yes] at silent
          cases silent
        · rw [popped]
          split_ifs
          · exact (unlinked_popAll prepared).sampled
          · rfl
      · exact inl ⟨visited, middle, by rw [← leaves visited, there], unlinked⟩

end

end Subscription

end AsyncOpcua.Subscriptions
