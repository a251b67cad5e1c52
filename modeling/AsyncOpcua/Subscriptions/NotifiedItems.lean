/-
**The items that wait for the next scan.**

A scan visits the items in `notifiedMonitoredItems`, and afterwards there are none in it. An item
that has something to report has to be there.

* `no_notification_stranded` — so it is in the runs in which no item is set to report while it has
  notifications and does not wait; the next scan then delivers what the item has.
-/

import AsyncOpcua.Foundation.InsertionOrder
import AsyncOpcua.Subscriptions.ScanDelivery

namespace AsyncOpcua.Subscriptions

open Types Foundation List Option MonitoredItem Or

variable {E : Externals}

/-! ### Queueing a notification -/

/-- The notifications are of one change or one event: the status may differ. -/
def SameNews : Notification E → Notification E → Prop
  | .monitoredItemNotification first, .monitoredItemNotification second =>
    second.clientHandle = first.clientHandle ∧ second.value.value = first.value.value
  | .event first, .event second => second = first
  | _, _ => False

theorem SameNews.refl (notification : Notification E) : SameNews notification notification := by
  cases notification with
  | monitoredItemNotification => exact ⟨rfl, rfl⟩
  | event => exact rfl

theorem SameNews.trans {first second third : Notification E} (before : SameNews first second)
    (after : SameNews second third) : SameNews first third := by
  cases first <;> cases second <;> cases third <;> simp_all [SameNews]

theorem markOverflow_sameNews (notification : Notification E) :
    SameNews notification (markOverflow notification) := by
  cases notification with
  | monitoredItemNotification => exact ⟨rfl, rfl⟩
  | event => exact rfl

theorem setNotificationSemanticsChanged_sameNews (notification : Notification E) :
    SameNews notification (setNotificationSemanticsChanged notification).2 := by
  cases notification with
  | monitoredItemNotification => exact ⟨rfl, rfl⟩
  | event => exact rfl

namespace MonitoredItem

theorem Marked.sameNews {first second : Notification E} (marked : Marked first second) :
    SameNews first second :=
  marked.keeps (fun n same => same.trans (markOverflow_sameNews n))
    (fun n same => same.trans (setNotificationSemanticsChanged_sameNews n)) (.refl first)

variable (item : MonitoredItem E)

/-- **A queued notification is there,** whatever it pushes out; its status may be marked. -/
theorem enqueueNotification_spec (notification : Notification E) :
    (item.enqueueNotification notification).sampled = item.sampled ∧
      ∃ queued ∈ (item.enqueueNotification notification).notificationQueue,
        SameNews notification queued := by
  obtain ⟨_, _, same⟩ := item.enqueueNotification_frame notification
  obtain ⟨queued, there, marked⟩ := item.enqueueNotification_marked notification
  exact ⟨by rw [same]; rfl, queued, there, marked.sameNews⟩

/-! ### What notifying an item does to what it has to report -/

/-- The mode is kept, and what is queued is kept or added to. -/
structure Fuller (before after : MonitoredItem E) : Prop where
  mode : after.monitoringMode = before.monitoringMode
  has : before.hasNotifications = true → after.hasNotifications = true

theorem Fuller.refl : item.Fuller item := ⟨rfl, fun has => has⟩

theorem Fuller.trans {first second third : MonitoredItem E} (before : first.Fuller second)
    (after : second.Fuller third) : first.Fuller third :=
  ⟨after.mode.trans before.mode, fun has => after.has (before.has has)⟩

variable {before after : MonitoredItem E}

theorem Fuller.reports (fuller : before.Fuller after)
    (reports : before.reports = true) : after.reports = true := by
  rw [MonitoredItem.reports, Bool.and_eq_true] at reports ⊢
  refine ⟨?_, fuller.has reports.2⟩
  rw [isReporting, fuller.mode]
  exact reports.1

section

variable (item : MonitoredItem E)

theorem enqueueNotification_fuller (notification : Notification E) :
    item.Fuller (item.enqueueNotification notification) := by
  obtain ⟨same, queued, there, -⟩ := item.enqueueNotification_spec notification
  refine ⟨congrArg Sampled.monitoringMode same, fun _ => ?_⟩
  rw [hasNotifications, Bool.or_eq_true]
  left
  rw [Bool.not_eq_true', ← Bool.not_eq_true, List.isEmpty_iff]
  exact ne_nil_of_mem there

theorem acceptDataValue_fuller (value : E.DataValue) (now : ℤ)
    (fromSubscriptionTick extraEnqueued : Bool) :
    item.Fuller (item.acceptDataValue value now fromSubscriptionTick extraEnqueued).2 := by
  unfold acceptDataValue
  dsimp only
  split_ifs
  · exact ⟨rfl, fun has => has⟩
  · exact .refl item
  · exact ⟨rfl, fun has => has⟩
  · refine Fuller.trans ?_ (enqueueNotification_fuller _ _)
    exact ⟨rfl, fun has => has⟩
  · refine Fuller.trans ?_ (enqueueNotification_fuller _ _)
    exact ⟨rfl, fun has => has⟩

theorem withheldSemanticsChanged_fuller {notify : MonitoredItem E → Bool × MonitoredItem E}
    (fuller : ∀ item : MonitoredItem E, item.Fuller (notify item).2) :
    item.Fuller (item.withheldSemanticsChanged notify).2 := by
  have notified := fuller { item with semanticsChanged := false }
  exact ⟨notified.mode, notified.has⟩

theorem notifyDataValue_fuller (value : E.DataValue) (now : ℤ) (fromSubscriptionTick : Bool) :
    item.Fuller (item.notifyDataValue value now fromSubscriptionTick).2 := by
  unfold notifyDataValue
  split_ifs
  · exact .refl item
  · split
    · exact acceptDataValue_fuller _ _ _ _ _
    · rename_i skipped _
      have taken : item.Fuller
          { item with
            sampleSkippedDataValue := none, sampleSkippedBeforeSemanticsChanged := false } :=
        ⟨rfl, fun has => has⟩
      dsimp only
      split_ifs
      · refine taken.trans (Fuller.trans ?_ (acceptDataValue_fuller _ _ _ _ _))
        exact withheldSemanticsChanged_fuller _ fun item => acceptDataValue_fuller item _ _ _ _
      · exact taken.trans
          ((acceptDataValue_fuller _ _ _ _ _).trans (acceptDataValue_fuller _ _ _ _ _))
      · exact taken.trans (acceptDataValue_fuller _ _ _ _ _)

theorem maybeEnqueueSkippedValue_fuller (now : ℤ) :
    item.Fuller (item.maybeEnqueueSkippedValue now).2 := by
  have taken : item.Fuller
      { item with
        sampleSkippedDataValue := none, sampleSkippedBeforeSemanticsChanged := false } :=
    ⟨rfl, fun has => has⟩
  unfold maybeEnqueueSkippedValue
  dsimp only
  split
  · exact taken
  · split_ifs
    · exact taken.trans
        (withheldSemanticsChanged_fuller _ fun item => notifyDataValue_fuller item _ _ _)
    · exact taken.trans (notifyDataValue_fuller _ _ _ _)
    · exact ⟨rfl, fun has => has⟩

end

variable {now : ℤ}

theorem maybeFlushAggregate_fuller {item after : MonitoredItem E} {flushed : Bool}
    (done : item.maybeFlushAggregate now = some (flushed, after)) : item.Fuller after := by
  have pushes : ∀ (produced : List E.DataValue) (item : MonitoredItem E),
      item.Fuller (produced.foldl (fun item value => item.enqueueNotification
        (.monitoredItemNotification ⟨item.clientHandle, item.applyTimestampsToReturn value⟩))
        item) := by
    intro produced
    induction produced with
    | nil => exact fun item => .refl item
    | cons value rest ih => exact fun item => (enqueueNotification_fuller _ _).trans (ih _)
  unfold maybeFlushAggregate at done
  split at done
  · split at done
    · cases done
    · cases done
      exact .refl item
    · cases done
      refine Fuller.trans ?_ (pushes _ _)
      exact ⟨rfl, fun has => has⟩
  · cases done
    exact .refl item

theorem addCurrentValueToQueue_fuller : item.Fuller item.addCurrentValueToQueue := by
  unfold addCurrentValueToQueue
  dsimp only
  split_ifs
  · exact .refl item
  · split
    · exact .refl item
    · exact enqueueNotification_fuller _ _

/-- **Preparing an item loses nothing it has to report.** -/
theorem prepare_fuller {item prepared : MonitoredItem E} {resendData fires : Bool}
    (prep : item.prepare now resendData = some (fires, prepared)) : item.Fuller prepared := by
  obtain ⟨flushed, middle, read, done, reading, queueing⟩ := prepare_cases prep
  have before := (item.maybeEnqueueSkippedValue_fuller _).trans (maybeFlushAggregate_fuller done)
  have fuller : middle.Fuller read := by
    obtain rfl | rfl := reading
    · exact ⟨rfl, fun has => has⟩
    · exact .refl _
  refine (before.trans fuller).trans ?_
  obtain rfl | rfl := queueing
  · exact addCurrentValueToQueue_fuller _
  · exact .refl _

/-! ### An item that does not ask for a visit -/

/-- What the item has to report is untouched. -/
structure Quiet (before after : MonitoredItem E) : Prop where
  mode : after.monitoringMode = before.monitoringMode
  queue : after.notificationQueue = before.notificationQueue
  overflow : after.overflowEvent = before.overflowEvent

theorem Quiet.reports (quiet : before.Quiet after) : after.reports = before.reports := by
  rw [MonitoredItem.reports, isReporting, hasNotifications, quiet.mode, quiet.queue, quiet.overflow]
  rfl

section

variable {item : MonitoredItem E} {value : E.DataValue} {now : ℤ}

theorem acceptDataValue_quiet {fromSubscriptionTick extraEnqueued : Bool}
    (silent : (item.acceptDataValue value now fromSubscriptionTick extraEnqueued).1 = false) :
    extraEnqueued = false ∧
      (item.acceptDataValue value now fromSubscriptionTick extraEnqueued).2 = item := by
  unfold acceptDataValue at silent ⊢
  dsimp only at silent ⊢
  split_ifs at silent ⊢
  exact ⟨silent, rfl⟩

/-- **A value that asks for no visit leaves nothing to report.** -/
theorem notifyDataValue_quiet {fromSubscriptionTick : Bool}
    (silent : (item.notifyDataValue value now fromSubscriptionTick).1 = false) :
    item.Quiet (item.notifyDataValue value now fromSubscriptionTick).2 := by
  unfold notifyDataValue at silent ⊢
  split_ifs at silent ⊢ with disabled
  · exact ⟨rfl, rfl, rfl⟩
  · split at silent
    · rw [(acceptDataValue_quiet silent).2]
      exact ⟨rfl, rfl, rfl⟩
    · dsimp only at silent ⊢
      split_ifs at silent ⊢
      · obtain ⟨first, same⟩ := acceptDataValue_quiet silent
        rw [same]
        have inner := acceptDataValue_quiet first
        unfold withheldSemanticsChanged
        dsimp only
        rw [inner.2]
        exact ⟨rfl, rfl, rfl⟩
      · obtain ⟨first, same⟩ := acceptDataValue_quiet silent
        rw [same, (acceptDataValue_quiet first).2]
        exact ⟨rfl, rfl, rfl⟩
      · rw [(acceptDataValue_quiet silent).2]
        exact ⟨rfl, rfl, rfl⟩

end

theorem notifyEvent_quiet {item : MonitoredItem E} {event : E.Event} {typeTree : E.TypeTree}
    {overflowId : List UInt8}
    (silent : (item.notifyEvent event typeTree overflowId now).1 = false) :
    item.Quiet (item.notifyEvent event typeTree overflowId now).2 := by
  unfold notifyEvent at silent ⊢
  by_cases disabled : item.monitoringMode = .disabled
  · rw [if_pos disabled]
    exact ⟨rfl, rfl, rfl⟩
  · rw [if_neg disabled] at silent ⊢
    split at silent
    · split at silent
      · exact ⟨rfl, rfl, rfl⟩
      · cases silent
    · exact ⟨rfl, rfl, rfl⟩

theorem notifyEuRangeChanged_quiet (low high : E.F64) :
    item.Quiet (item.notifyEuRangeChanged low high) := by
  unfold notifyEuRangeChanged
  dsimp only
  split <;> split <;> exact ⟨rfl, rfl, rfl⟩

theorem modify_reports {item : MonitoredItem E} {request : ModifyRequest E}
    (reports : (item.modify request now).2.reports = true) : item.reports = true := by
  unfold modify at reports
  split at reports
  · exact reports
  · rw [MonitoredItem.reports, Bool.and_eq_true] at reports ⊢
    refine ⟨reports.1, ?_⟩
    have has := reports.2
    rw [hasNotifications, Bool.or_eq_true] at has ⊢
    refine has.imp_left fun some => ?_
    cases queue : item.notificationQueue with
    | nil => simp [queue] at some
    | cons first rest => rfl

end MonitoredItem

namespace Subscription

/-! ### The items that wait -/

def NothingStranded (s : Subscription E) : Prop :=
  ∀ id item, s.monitoredItems.lookup id = some item → item.reports = true →
    id ∈ s.notifiedMonitoredItems

theorem NothingStranded.congr {s t : Subscription E} (holds : s.NothingStranded)
    (items : t.monitoredItems = s.monitoredItems)
    (notified : t.notifiedMonitoredItems = s.notifiedMonitoredItems) : t.NothingStranded := by
  unfold NothingStranded
  rw [items, notified]
  exact holds

variable {s : Subscription E}

theorem NothingStranded.modifyItem (holds : s.NothingStranded) (id : ℕ)
    {change : MonitoredItem E → MonitoredItem E}
    (quiet : ∀ item, s.monitoredItems.lookup id = some item → (change item).reports = true →
      item.reports = true ∨ id ∈ s.notifiedMonitoredItems) :
    (s.modifyItem id change).NothingStranded := by
  unfold Subscription.modifyItem
  cases there : s.monitoredItems.lookup id with
  | none => exact holds
  | some item =>
    intro other changed found reports
    by_cases same : other = id
    · subst same
      rw [AList.lookup_insert, some.injEq] at found
      obtain before | waits := quiet item there (found ▸ reports)
      · exact holds other item there before
      · exact waits
    · rw [AList.lookup_insert_ne same] at found
      exact holds other changed found reports

theorem NothingStranded.notifyItem (holds : s.NothingStranded) (id : ℕ)
    {notify : MonitoredItem E → Bool × MonitoredItem E}
    (quiet : ∀ item, (notify item).1 = false → item.Quiet (notify item).2) :
    (s.notifyItem id notify).NothingStranded := by
  unfold Subscription.notifyItem
  cases there : s.monitoredItems.lookup id with
  | none => exact holds
  | some item =>
    intro other changed found reports
    show other ∈ if (notify item).1 = true then Insert.insert id s.notifiedMonitoredItems
      else s.notifiedMonitoredItems
    by_cases same : other = id
    · subst same
      rw [AList.lookup_insert, some.injEq] at found
      split_ifs with asks
      · exact Finset.mem_insert_self _ _
      · have silent := (quiet item (Bool.eq_false_of_not_eq_true asks)).reports
        rw [found, reports] at silent
        exact holds other item there silent.symm
    · rw [AList.lookup_insert_ne same] at found
      have waits := holds other changed found reports
      split_ifs
      · exact Finset.mem_insert_of_mem waits
      · exact waits

def KeepsWaiting (s : Subscription E) : ItemOp E → Prop
  | .setMonitoringMode id mode => mode = .reporting →
    ∀ item, s.monitoredItems.lookup id = some item →
      item.hasNotifications = true → id ∈ s.notifiedMonitoredItems
  | _ => True

theorem NothingStranded.item (holds : s.NothingStranded) {op : ItemOp E}
    (waits : s.KeepsWaiting op) : (op.apply s).NothingStranded := by
  cases op with
  | insert id item =>
    intro other changed found reports
    by_cases same : other = id
    · rw [same]
      exact Finset.mem_insert_self id s.notifiedMonitoredItems
    · have found : (s.monitoredItems.insert id item).lookup other = some changed := found
      rw [AList.lookup_insert_ne same] at found
      exact Finset.mem_insert_of_mem (holds other changed found reports)
  | remove id =>
    intro other item found reports
    have found : (s.monitoredItems.erase id).lookup other = some item := found
    by_cases same : other = id
    · rw [same, AList.lookup_erase] at found
      cases found
    · rw [AList.lookup_erase_ne same] at found
      exact holds other item found reports
  | notifyDataValue id value now =>
    exact holds.notifyItem id fun _ silent => notifyDataValue_quiet silent
  | notifyEvent id event typeTree overflowId now =>
    exact holds.notifyItem id fun _ silent => notifyEvent_quiet silent
  | notifyEuRangeChanged id low high =>
    refine holds.modifyItem id fun item _ reports => inl ?_
    rwa [← (item.notifyEuRangeChanged_quiet low high).reports]
  | setMonitoringMode id mode =>
    refine holds.modifyItem id fun item found reports => inr ?_
    rw [MonitoredItem.reports, Bool.and_eq_true] at reports
    have reporting : (mode == MonitoringMode.reporting) = true := reports.1
    exact waits (beq_iff_eq.mp reporting) item found reports.2
  | setTriggering id itemsToAdd itemsToRemove =>
    exact holds.modifyItem id fun item _ reports => inl reports
  | modify id request now =>
    exact holds.modifyItem id fun item _ reports => inl (modify_reports reports)

/-! ### Ticks -/

theorem handleStateTransition_items (s : Subscription E) (row : HandledState) :
    (s.handleStateTransition row).2.monitoredItems = s.monitoredItems ∧
      (s.handleStateTransition row).2.notifiedMonitoredItems = s.notifiedMonitoredItems ∧
      (s.handleStateTransition row).2.resendData = s.resendData := by
  cases row <;> exact ⟨rfl, rfl, rfl⟩

theorem enforceQueuedNotificationLimit_items (s : Subscription E) :
    s.enforceQueuedNotificationLimit.monitoredItems = s.monitoredItems ∧
      s.enforceQueuedNotificationLimit.notifiedMonitoredItems = s.notifiedMonitoredItems := by
  unfold enforceQueuedNotificationLimit
  split_ifs <;> exact ⟨rfl, rfl⟩

section

variable {s t : Subscription E} (holds : s.NothingStranded) {now : ℤ} {visit : VisitOrder}
include holds

theorem NothingStranded.scan {messages : List (NotificationMessage E)} {resendData : Bool}
    (scanned : s.tickMonitoredItems now resendData visit = some (messages, t)) :
    t.NothingStranded := by
  have notified :
      t.notifiedMonitoredItems = if resendData then s.notifiedMonitoredItems else ∅ := by
    obtain ⟨result, -, built⟩ := map_eq_some_iff.mp scanned
    rw [Prod.mk.injEq] at built
    rw [← built.2]
  intro id after found reports
  obtain ⟨unvisited, before, there, unlinked⟩ | ⟨-, silent, -⟩ :=
    tickMonitoredItems_leaves scanned found
  · have waits := holds id before there (unlinked.reports reports)
    unfold visited at unvisited
    rw [notified]
    split_ifs at unvisited ⊢
    · exact waits
    · exact absurd ((visit.mem_order _ _).mpr waits) unvisited
  · rw [silent] at reports
    cases reports

theorem NothingStranded.tick {nowInstant : ℕ} {tickReason : TickReason} {queued : Bool}
    {result : TickResult}
    (ticked : s.tick now nowInstant tickReason queued visit = some (result, t)) :
    t.NothingStranded := by
  rw [tick_eq] at ticked
  split_ifs at ticked with idle
  · cases ticked
    exact holds
  · unfold applyRow at ticked
    have restarted : (s.restart nowInstant tickReason).NothingStranded := by
      unfold restart
      split_ifs <;> exact holds
    obtain ⟨items, notified, -⟩ :=
      (s.restart nowInstant tickReason).handleStateTransition_items (s.row tickReason queued)
    have moved := restarted.congr items notified
    revert ticked moved
    generalize (s.restart nowInstant tickReason).handleStateTransition (s.row tickReason queued) = r
    obtain ⟨action, u⟩ := r
    intro performed moved
    cases action with
    | none | subscriptionCreated =>
      cases performed
      exact moved
    | returnKeepAlive =>
      cases performed
      obtain ⟨items, notified⟩ := enforceQueuedNotificationLimit_items (u.enqueueNotification
        (.keepAlive u.sequenceNumber.peekNext (dateTimeFrom now)))
      exact NothingStranded.congr moved items notified
    | subscriptionExpired =>
      cases performed
      intro id item found
      rw [(enforceQueuedNotificationLimit_items _).1] at found
      cases found
    | returnNotifications =>
      obtain ⟨⟨messages, v⟩, scanned, built⟩ := map_eq_some_iff.mp performed
      cases built
      have after : v.NothingStranded :=
        NothingStranded.scan (s := { u with resendData := false }) moved scanned
      rw [foldl_enqueueNotification]
      obtain ⟨items, notified⟩ := enforceQueuedNotificationLimit_items
        { v with notifications := v.notifications ++ messages }
      exact after.congr items notified

end

/-- **The condition on an operation.** -/
def KeepsNotified (s : Subscription E) : SubscriptionOp E → Prop
  | .item op => s.KeepsWaiting op
  | _ => True

theorem NothingStranded.step {s t : Subscription E} (holds : s.NothingStranded)
    {op : SubscriptionOp E} (keeps : s.KeepsNotified op) (stepped : op.apply s = some t) :
    t.NothingStranded := by
  cases op with
  | item op =>
    cases stepped
    exact holds.item keeps
  | setResendData | setPublishingMode | republish | modify =>
    cases stepped
    exact holds
  | tick now nowInstant tickReason queued visit =>
    obtain ⟨⟨result, u⟩, ticked, rfl⟩ := map_eq_some_iff.mp stepped
    exact holds.tick ticked
  | takeNotification =>
    cases stepped
    unfold takeNotification
    split <;> exact holds

/-- **A change of mode keeps the invariant exactly when it meets the condition.** -/
theorem setMonitoringMode_strands_iff (holds : s.NothingStranded) (id : ℕ) (mode : MonitoringMode) :
    (ItemOp.apply s (.setMonitoringMode id mode)).NothingStranded ↔
      s.KeepsWaiting (.setMonitoringMode id mode) := by
  refine ⟨fun after reporting item found has => ?_, holds.item⟩
  subst reporting
  have changed : ItemOp.apply s (.setMonitoringMode id .reporting) =
      { s with
        monitoredItems := s.monitoredItems.insert id (item.setMonitoringMode .reporting) } := by
    show s.modifyItem id _ = _
    unfold Subscription.modifyItem
    rw [found]
  rw [changed] at after
  refine after id (item.setMonitoringMode .reporting) (AList.lookup_insert _) ?_
  rw [reports, Bool.and_eq_true]
  exact ⟨rfl, has⟩

/-- **No notification is stranded,** in the runs whose changes of mode meet the condition: an item
with something to report waits for the next scan, and the next scan delivers what it has. -/
theorem no_notification_stranded {init s : Subscription E} {ops : List (SubscriptionOp E)}
    (fresh : Fresh init) (keeps : (lifecycle E).Guarded KeepsNotified init ops)
    (ran : (lifecycle E).run init ops = some s) {id : ℕ} {item : MonitoredItem E}
    (found : s.monitoredItems.lookup id = some item) (reports : item.reports = true) :
    id ∈ s.notifiedMonitoredItems ∧
      ∀ now visit messages t, { s with resendData := false }.tickMonitoredItems now s.resendData
          visit = some (messages, t) →
        ∃ fires prepared, item.prepare now s.resendData = some (fires, prepared) ∧
          prepared.reports = true ∧
          (∀ notification ∈ prepared.popAll.1, ∃ message ∈ messages, message.Carries notification) ∧
          ∀ after, t.monitoredItems.lookup id = some after → after.reports = false := by
  have initially : init.NothingStranded := by
    obtain ⟨_, _, _, _, _, _, _, _, rfl⟩ := fresh
    exact fun _ _ none => by cases none
  have holds : s.NothingStranded := (lifecycle E).run_invariant_of_guarded
    (fun _ _ _ holds keeps stepped => holds.step keeps stepped) initially keeps ran
  have waits := holds id item found reports
  refine ⟨waits, fun now visit messages t scanned => ?_⟩
  have visited : id ∈ s.visited visit s.resendData := by
    unfold visited
    split_ifs
    · exact (visit.mem_order _ _).mpr (mem_keys_of_lookup found)
    · exact (visit.mem_order _ _).mpr waits
  obtain ⟨after, there⟩ := tickMonitoredItems_present scanned found
  obtain ⟨unvisited, -⟩ | ⟨-, silent, fires, prepared, prep, -⟩ :=
    tickMonitoredItems_leaves scanned there
  · exact absurd visited unvisited
  · have prep' : item.prepare now s.resendData = some (fires, prepared) := by
      have here : s.monitoredItems.lookup id = some item := found
      rwa [here] at prep
    have reports' := (prepare_fuller prep').reports reports
    refine ⟨fires, prepared, prep', reports', fun notification popped => ?_, ?_⟩
    · exact tickMonitoredItems_carries scanned visited prep reports' popped
    · intro other there'
      rw [there, some.injEq] at there'
      rwa [← there']

/-- A scan forgets the item while it samples; its next value is notified, and then it reports. -/
def notifiedThenReporting : List (SubscriptionOp Externals.integers) :=
  [timerTick false, .item (.insert 7 (integerItem 7 .sampling 1)), timerTick true,
    .item (.notifyDataValue 7 (integerValue 3 5) 5), .item (.setMonitoringMode 7 .reporting)]

/-- The changes of mode are made while the item waits for the scan. -/
def waitsForScan (s : Subscription E) : SubscriptionOp E → Bool
  | .item (.setMonitoringMode id _) => id ∈ s.notifiedMonitoredItems
  | _ => true

theorem keepsNotified_of_waits {op : SubscriptionOp E} (waits : waitsForScan s op = true) :
    s.KeepsNotified op := by
  unfold KeepsNotified
  split
  · unfold KeepsWaiting
    split
    · exact fun _ _ _ _ => of_decide_eq_true waits
    · trivial
  · trivial

theorem no_notification_stranded_notified :
    ∃ s item fires prepared messages t, (lifecycle _).run (integerSubscription threeCounts 0)
        notifiedThenReporting = some s ∧ s.monitoredItems.lookup 7 = some item ∧
      item.prepare 9 s.resendData = some (fires, prepared) ∧ prepared.popAll.1.length = 1 ∧
      { s with resendData := false }.tickMonitoredItems 9 s.resendData .upward =
        some (messages, t) ∧
      7 ∈ s.notifiedMonitoredItems ∧
      ∀ notification ∈ prepared.popAll.1, ∃ message ∈ messages, message.Carries notification := by
  have keeps : (lifecycle _).Guarded KeepsNotified (integerSubscription threeCounts 0)
      notifiedThenReporting := Machine.guarded_of_checks _ (fun _ _ => keepsNotified_of_waits) rfl
  obtain ⟨s, item, fires, prepared, messages, t, ran, found, prep, one, scanned, reports⟩ :
      ∃ s item fires prepared messages t, (lifecycle _).run (integerSubscription threeCounts 0)
          notifiedThenReporting = some s ∧ s.monitoredItems.lookup 7 = some item ∧
        item.prepare 9 s.resendData = some (fires, prepared) ∧ prepared.popAll.1.length = 1 ∧
        { s with resendData := false }.tickMonitoredItems 9 s.resendData .upward =
          some (messages, t) ∧ item.reports = true :=
    ⟨_, _, _, _, _, _, rfl, rfl, rfl, rfl, rfl, rfl⟩
  obtain ⟨waits, delivers⟩ := no_notification_stranded (fresh_integerSubscription _ _) keeps ran
    found reports
  refine ⟨s, item, fires, prepared, messages, t, ran, found, prep, one, scanned, waits, ?_⟩
  intro notification popped
  obtain ⟨_, _, prep', -, delivered, -⟩ := delivers 9 .upward messages t scanned
  rw [prep] at prep'
  cases prep'
  exact delivered notification popped

def sampledThenReporting : List (SubscriptionOp Externals.integers) :=
  [timerTick false, .item (.insert 7 (integerItem 7 .sampling 1)), timerTick true,
    .item (.setMonitoringMode 7 .reporting)]

/-- **The value it sampled is stranded.** -/
theorem sampled_notification_stranded :
    ¬ ∀ (E : Externals) (init s : Subscription E) (ops : List (SubscriptionOp E)), Fresh init →
      (lifecycle E).run init ops = some s → ∀ id item, s.monitoredItems.lookup id = some item →
      item.reports = true → id ∈ s.notifiedMonitoredItems := by
  intro always
  obtain ⟨s, item, ran, found, reports, gone⟩ : ∃ s item,
      (lifecycle _).run (integerSubscription threeCounts 0) sampledThenReporting = some s ∧
        s.monitoredItems.lookup 7 = some item ∧
      item.reports = true ∧ 7 ∉ s.notifiedMonitoredItems := by
    refine ⟨_, _, rfl, rfl, rfl, ?_⟩
    decide +kernel
  exact gone (always _ _ s _ (fresh_integerSubscription _ _) ran 7 item found reports)

end Subscription

end AsyncOpcua.Subscriptions
