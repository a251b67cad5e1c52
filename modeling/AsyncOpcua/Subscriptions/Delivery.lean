/-
**What a scan delivers: when a tick that returns notifications has any to return.**
-/

import AsyncOpcua.Subscriptions.SubscriptionRuns

namespace AsyncOpcua.Subscriptions

open Types Foundation List Or MonitoredItem

variable {E : Externals}

/-! ### Popping an item empty -/

namespace MonitoredItem

variable {item : MonitoredItem E}

theorem popNotification_eq_none :
    item.popNotification.1 = none ↔ item.hasNotifications = false := by
  unfold popNotification hasNotifications
  cases overflow : item.overflowEvent with
  | none =>
    cases item.notificationQueue <;> simp
  | some fields =>
    cases item.discardOldest <;> cases item.notificationQueue <;> simp

theorem pendingCount_eq_zero : item.pendingCount = 0 ↔ item.hasNotifications = false := by
  unfold pendingCount hasNotifications
  cases item.notificationQueue <;> cases item.overflowEvent <;> simp

/-- **Popping an item empty gives nothing exactly when it has nothing.** -/
theorem popAll_eq_nil : item.popAll.1 = [] ↔ item.hasNotifications = false := by
  unfold popAll
  cases pending : item.pendingCount with
  | zero => exact iff_of_true rfl (pendingCount_eq_zero.mp pending)
  | succ rounds =>
    have has : item.hasNotifications ≠ false := fun nothing => by
      rw [pendingCount_eq_zero.mpr nothing] at pending
      cases pending
    refine iff_of_false (fun none => ?_) has
    rw [popRounds] at none
    split at none
    · rename_i popped
      exact has (popNotification_eq_none.mp (by rw [popped]))
    · cases none

theorem popAll_of_nothing (nothing : item.hasNotifications = false) : item.popAll = ([], item) := by
  unfold popAll
  rw [pendingCount_eq_zero.mpr nothing]
  rfl

end MonitoredItem

/-! ### Collecting -/

namespace Scan

def Collected (scan : Scan E) : Prop := scan.notifications ≠ [] ∨ scan.messages ≠ []

section

variable (maxNotifications : ℕ) (now : ℤ)

theorem push_collected (scan : Scan E) (notification : Notification E) :
    (scan.push maxNotifications now notification).Collected := by
  unfold push
  dsimp only
  split_ifs
  · right
    unfold flush
    simp
  · left
    simp

theorem foldl_push_collected (popped : List (Notification E)) (scan : Scan E) :
    (popped.foldl (push maxNotifications now) scan).Collected ↔ popped ≠ [] ∨ scan.Collected := by
  induction popped generalizing scan with
  | nil => simp
  | cons notification rest ih =>
    rw [foldl_cons, ih]
    exact iff_of_true (inr (push_collected _ _ _ _)) (inl (cons_ne_nil _ _))

theorem push_triggers (scan : Scan E) (notification : Notification E) :
    (scan.push maxNotifications now notification).triggers = scan.triggers := by
  unfold push
  dsimp only
  split_ifs <;> rfl

theorem foldl_push_triggers (popped : List (Notification E)) (scan : Scan E) :
    (popped.foldl (push maxNotifications now) scan).triggers = scan.triggers := by
  induction popped generalizing scan with
  | nil => rfl
  | cons notification rest ih =>
    rw [foldl_cons, ih, push_triggers]

end

theorem addTriggers_collected (scan : Scan E) (fires : Bool) (item : MonitoredItem E) :
    (scan.addTriggers fires item).Collected ↔ scan.Collected := by
  unfold addTriggers
  split_ifs <;> exact Iff.rfl

theorem mem_addTriggers {scan : Scan E} {fires : Bool} {item : MonitoredItem E} {pair : ℕ × ℕ} :
    pair ∈ (scan.addTriggers fires item).triggers ↔
      pair ∈ scan.triggers ∨ fires = true ∧ pair.1 = item.id ∧ pair.2 ∈ item.triggeredItems := by
  unfold addTriggers
  split_ifs with fired
  · rw [mem_append, mem_map]
    refine or_congr_right ⟨?_, ?_⟩
    · rintro ⟨target, mem, rfl⟩
      exact ⟨fired, rfl, (mem_ascending _ _).mp mem⟩
    · rintro ⟨-, same, mem⟩
      exact ⟨pair.2, (mem_ascending _ _).mpr mem, Prod.ext same.symm rfl⟩
  · exact ⟨inl, fun either => either.resolve_right fun both => fired both.1⟩

end Scan

/-! ### One item -/

namespace MonitoredItem

/-- A scan that meets the item in this condition collects from it. -/
def reports (item : MonitoredItem E) : Bool := item.isReporting && item.hasNotifications

end MonitoredItem

theorem tickMonitoredItem_spec {item after : MonitoredItem E} {now : ℤ} {resendData : Bool}
    {maxNotifications : ℕ} {scan scan' : Scan E}
    (ticked : tickMonitoredItem item now resendData maxNotifications scan = some (after, scan')) :
    ∃ fires prepared, item.prepare now resendData = some (fires, prepared) ∧
      (scan'.Collected ↔ scan.Collected ∨ prepared.reports = true) ∧
      (∀ pair, pair ∈ scan'.triggers ↔ pair ∈ scan.triggers ∨
        fires = true ∧ pair.1 = prepared.id ∧ pair.2 ∈ prepared.triggeredItems) ∧
      (prepared.reports = false → after = prepared) := by
  obtain ⟨⟨fires, prepared⟩, prep, built⟩ := Option.map_eq_some_iff.mp ticked
  refine ⟨fires, prepared, prep, ?_⟩
  change (if prepared.reports = true then _ else _) = _ at built
  split_ifs at built with reports
  · rw [Prod.mk.injEq] at built
    obtain ⟨-, rfl⟩ := built
    have popped : prepared.popAll.1 ≠ [] := fun none => by
      rw [MonitoredItem.reports, MonitoredItem.popAll_eq_nil.mp none, Bool.and_false] at reports
      cases reports
    refine ⟨?_, ?_, fun no => by rw [reports] at no; cases no⟩
    · rw [Scan.foldl_push_collected]
      exact iff_of_true (inl popped) (inr reports)
    · intro pair
      rw [Scan.foldl_push_triggers]
      exact Scan.mem_addTriggers
  · rw [Prod.mk.injEq] at built
    obtain ⟨rfl, rfl⟩ := built
    refine ⟨?_, fun pair => Scan.mem_addTriggers, fun _ => rfl⟩
    rw [Scan.addTriggers_collected]
    exact (or_iff_left reports).symm

/-! ### One scan -/

/-- **What a scan does.** It collects from the items that report, records the links of the items
that fire, leaves the items it does not visit, and leaves prepared those it has nothing from. -/
theorem scanItems_spec {now : ℤ} {resendData : Bool} {maxNotifications : ℕ} {ids : List ℕ}
    (distinct : ids.Nodup) {items items' : ItemMap E} {scan scan' : Scan E}
    (scanned : scanItems now resendData maxNotifications ids items scan = some (items', scan')) :
    (scan'.Collected ↔ scan.Collected ∨ ∃ id ∈ ids, ∃ fires prepared,
      (items.lookup id).bind (·.prepare now resendData) = some (fires, prepared) ∧
        prepared.reports = true) ∧
    (∀ pair, pair ∈ scan'.triggers ↔ pair ∈ scan.triggers ∨ ∃ id ∈ ids, ∃ prepared,
      (items.lookup id).bind (·.prepare now resendData) = some (true, prepared) ∧
        pair.1 = prepared.id ∧ pair.2 ∈ prepared.triggeredItems) ∧
    (∀ id ∉ ids, items'.lookup id = items.lookup id) ∧
    ∀ id ∈ ids, scan'.Collected ∨ items'.lookup id =
      ((items.lookup id).bind (·.prepare now resendData)).map (·.2) := by
  induction ids generalizing items scan with
  | nil =>
    cases scanned
    exact ⟨by simp, by simp, fun _ _ => rfl, fun _ mem => by cases mem⟩
  | cons id rest ih =>
    obtain ⟨unvisited, distinct⟩ := nodup_cons.mp distinct
    rw [scanItems] at scanned
    split at scanned
    · rename_i absent
      obtain ⟨collects, records, leaves, visits⟩ := ih distinct scanned
      refine ⟨?_, fun pair => ?_, fun other mem => leaves other fun later => ?_, ?_⟩
      · rw [collects, exists_mem_cons_iff]
        simp [absent]
      · rw [records, exists_mem_cons_iff]
        simp [absent]
      · exact mem (mem_cons_of_mem _ later)
      · intro other mem
        rcases mem_cons.mp mem with rfl | later
        · right
          rw [leaves other unvisited, absent]
          rfl
        · exact visits other later
    · rename_i item found
      obtain ⟨⟨after, middle⟩, ticked, scanned⟩ := Option.bind_eq_some_iff.mp scanned
      obtain ⟨collects, records, leaves, visits⟩ := ih distinct scanned
      obtain ⟨fires, prepared, prep, collects₁, records₁, unreported⟩ :=
        tickMonitoredItem_spec ticked
      -- The rest of the scan meets the other items as they were.
      have same : ∀ other ∈ rest, (items.insert id after).lookup other = items.lookup other :=
        fun other later => AList.lookup_insert_ne fun equal => unvisited (equal ▸ later)
      have here : (items.lookup id).bind (·.prepare now resendData) = some (fires, prepared) := by
        rw [found]
        exact prep
      refine ⟨?_, fun pair => ?_, ?_, ?_⟩
      · rw [collects, collects₁, exists_mem_cons_iff, or_assoc]
        refine or_congr_right (or_congr ?_ ?_)
        · rw [here]
          constructor
          · intro yes
            exact ⟨fires, prepared, rfl, yes⟩
          · rintro ⟨_, _, equal, yes⟩
            cases equal
            exact yes
        · refine exists_congr fun other => and_congr_right fun later => ?_
          rw [same other later]
      · rw [records, records₁, exists_mem_cons_iff, or_assoc]
        refine or_congr_right (or_congr ?_ ?_)
        · rw [here]
          constructor
          · rintro ⟨rfl, first, second⟩
            exact ⟨prepared, rfl, first, second⟩
          · rintro ⟨_, equal, first, second⟩
            cases equal
            exact ⟨rfl, first, second⟩
        · refine exists_congr fun other => and_congr_right fun later => ?_
          rw [same other later]
      · intro other mem
        rw [leaves other fun later => mem (mem_cons_of_mem _ later)]
        exact AList.lookup_insert_ne fun equal => mem (equal ▸ mem_cons_self)
      · intro other mem
        rcases mem_cons.mp mem with rfl | later
        · by_cases yes : prepared.reports = true
          · exact inl (collects.mpr (inl (collects₁.mpr (inr yes))))
          · right
            rw [leaves other unvisited, AList.lookup_insert, here,
              unreported (Bool.not_eq_true _ ▸ yes)]
            rfl
        · rw [← same other later]
          exact visits other later

theorem handleTriggers_collected (now : ℤ) (maxNotifications : ℕ) (triggers : List (ℕ × ℕ))
    (items : ItemMap E) (scan : Scan E) :
    (handleTriggers now maxNotifications triggers items scan).2.Collected ↔
      scan.Collected ∨ ∃ pair ∈ triggers, ∃ item, items.lookup pair.2 = some item ∧
        item.hasNotifications = true := by
  induction triggers generalizing items scan with
  | nil => simp [handleTriggers]
  | cons trigger rest ih =>
    obtain ⟨triggeringItem, itemId⟩ := trigger
    rw [handleTriggers, exists_mem_cons_iff]
    split
    · rename_i absent
      rw [ih]
      refine or_congr_right ?_
      have none : ¬ ∃ item, items.lookup itemId = some item ∧ item.hasNotifications = true := by
        rintro ⟨item, found, -⟩
        rw [absent] at found
        cases found
      rw [or_iff_right none]
      refine exists_congr fun pair => and_congr_right fun _ => ?_
      split
      · rename_i link linked
        by_cases same : pair.2 = triggeringItem
        · rw [same, linked, AList.lookup_insert]
          simp [removeDeadTrigger, hasNotifications]
        · rw [AList.lookup_insert_ne same]
      · exact Iff.rfl
    · rename_i item found
      rw [ih, Scan.foldl_push_collected]
      by_cases nothing : item.hasNotifications = false
      · rw [popAll_of_nothing nothing]
        have none :
            ¬ ∃ other, items.lookup itemId = some other ∧ other.hasNotifications = true := by
          rintro ⟨other, found', has⟩
          rw [found, Option.some.injEq] at found'
          rw [← found', nothing] at has
          cases has
        rw [or_iff_right none]
        refine or_congr (by simp) (exists_congr fun pair => and_congr_right fun _ => ?_)
        by_cases same : pair.2 = itemId
        · rw [same, AList.lookup_insert, found]
        · rw [AList.lookup_insert_ne same]
      · have popped : item.popAll.1 ≠ [] := fun none => nothing (popAll_eq_nil.mp none)
        exact iff_of_true (inl (inl popped))
          (inr (inl ⟨item, found, Bool.not_eq_false _ ▸ nothing⟩))

/-! ### A whole scan -/

namespace Subscription

variable (s : Subscription E)

def visitedSet : Finset ℕ :=
  if s.resendData then s.monitoredItems.keys.toFinset else s.notifiedMonitoredItems

def prepared (now : ℤ) (id : ℕ) : Option (Bool × MonitoredItem E) :=
  (s.monitoredItems.lookup id).bind (·.prepare now s.resendData)

/-- An item as the links of a scan at `now` meet it: prepared if the scan visits it. -/
def linked (now : ℤ) (id : ℕ) : Option (MonitoredItem E) :=
  if id ∈ s.visitedSet then (s.prepared now id).map (·.2) else s.monitoredItems.lookup id

/-- **Deliverable:** a scan at `now` visits a reporting item that has notifications once it is
prepared, or an item that fires and has a link to one with notifications. -/
def Deliverable (now : ℤ) : Prop :=
  (∃ id ∈ s.visitedSet, ∃ fires item,
    s.prepared now id = some (fires, item) ∧ item.reports = true) ∨
  ∃ id ∈ s.visitedSet, ∃ item, s.prepared now id = some (true, item) ∧
    ∃ target ∈ item.triggeredItems, ∃ other, s.linked now target = some other ∧
      other.hasNotifications = true

theorem mem_visited {s : Subscription E} {visit : VisitOrder} {id : ℕ} :
    id ∈ s.visited visit s.resendData ↔ id ∈ s.visitedSet := by
  unfold visited visitedSet
  split_ifs <;> exact visit.mem_order _ _

theorem visited_nodup (visit : VisitOrder) (resendData : Bool) :
    (s.visited visit resendData).Nodup := by
  unfold visited
  split_ifs <;> exact visit.nodup _

theorem Deliverable.congr {s t : Subscription E} {now : ℤ} (deliverable : s.Deliverable now)
    (items : t.monitoredItems = s.monitoredItems)
    (notified : t.notifiedMonitoredItems = s.notifiedMonitoredItems)
    (resend : t.resendData = s.resendData) : t.Deliverable now := by
  unfold Deliverable linked prepared visitedSet at deliverable ⊢
  rw [items, notified, resend]
  exact deliverable

/-- **A scan builds a message exactly when the subscription is deliverable.** The tick clears the
resend flag before it scans. -/
theorem tickMonitoredItems_delivers {s t : Subscription E} {now : ℤ} {visit : VisitOrder}
    {messages : List (NotificationMessage E)}
    (scanned : { s with resendData := false }.tickMonitoredItems now s.resendData visit =
      some (messages, t)) : messages ≠ [] ↔ s.Deliverable now := by
  obtain ⟨⟨items, scan⟩, visited, built⟩ := Option.map_eq_some_iff.mp scanned
  obtain ⟨rfl, -⟩ := built
  obtain ⟨collects, records, leaves, visits⟩ :=
    scanItems_spec (s.visited_nodup visit s.resendData) visited
  have linkedEq : ¬ scan.Collected → ∀ id, items.lookup id = s.linked now id := by
    intro nothing id
    unfold linked
    split_ifs with mem
    · exact (visits id (mem_visited.mpr mem)).resolve_left nothing
    · exact leaves id fun listed => mem (mem_visited.mp listed)
  have flushed : ∀ last : Scan E,
      (if last.notifications.isEmpty then last else last.flush now).messages ≠ [] ↔
        last.Collected := by
    intro last
    unfold Scan.Collected
    split_ifs with none
    · rw [List.isEmpty_iff] at none
      simp [none]
    · rw [List.isEmpty_iff] at none
      simp [Scan.flush, none]
  rw [flushed, handleTriggers_collected]
  by_cases some : scan.Collected
  · refine iff_of_true (inl some) (inl ?_)
    obtain ⟨id, mem, reporting⟩ := (collects.mp some).resolve_left (by simp [Scan.Collected])
    exact ⟨id, mem_visited.mp mem, reporting⟩
  · have silent : ¬ ∃ id ∈ s.visitedSet, ∃ fires item,
        s.prepared now id = Option.some (fires, item) ∧ item.reports = true := by
      rintro ⟨id, mem, reporting⟩
      exact some (collects.mpr (inr ⟨id, mem_visited.mpr mem, reporting⟩))
    rw [or_iff_right some, Deliverable, or_iff_right silent]
    constructor
    · rintro ⟨pair, mem, other, found, has⟩
      obtain ⟨id, mem, item, prep, -, link⟩ := ((records pair).mp mem).resolve_left (by simp)
      exact ⟨id, mem_visited.mp mem, item, prep, pair.2, link, other,
        (linkedEq some pair.2).symm.trans found, has⟩
    · rintro ⟨id, mem, item, prep, target, link, other, found, has⟩
      exact ⟨(item.id, target),
        (records _).mpr (inr ⟨id, mem_visited.mpr mem, item, prep, rfl, link⟩), other,
        (linkedEq some target).trans found, has⟩

end Subscription

end AsyncOpcua.Subscriptions
