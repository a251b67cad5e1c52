/-
**Runs of one subscription: its operations, what a tick does to the counters, the counter
invariant.**

* `Control` is the part of a subscription that the state table decides over. Item operations leave
  it alone (`ItemOp.apply_control`), and an elapsed tick changes it by the row of the table that
  applies (`tick_control`).
-/

import AsyncOpcua.Foundation.Transition
import AsyncOpcua.Subscriptions.Subscription

namespace AsyncOpcua.Subscriptions

open Types Foundation Option

variable {E : Externals}

/-! ### Operations -/

/-- The counts of a subscription as `revise_subscription_values` produces them. -/
structure RevisedCounts where
  keepAlive : ℕ
  lifetime : ℕ
  positive : 1 ≤ keepAlive
  enough : 3 * keepAlive ≤ lifetime

inductive ItemOp (E : Externals) where
  | insert (id : ℕ) (item : MonitoredItem E)
  | remove (id : ℕ)
  | notifyDataValue (id : ℕ) (value : E.DataValue) (now : ℤ)
  | notifyEuRangeChanged (id : ℕ) (low high : E.F64)
  | notifyEvent (id : ℕ) (event : E.Event) (typeTree : E.TypeTree) (overflowId : List UInt8)
      (now : ℤ)
  | setMonitoringMode (id : ℕ) (mode : MonitoringMode)
  | setTriggering (id : ℕ) (itemsToAdd itemsToRemove : List ℕ)
  | modify (id : ℕ) (request : MonitoredItem.ModifyRequest E) (now : ℤ)

/-- **What can happen to a subscription.** -/
inductive SubscriptionOp (E : Externals) where
  | item (op : ItemOp E)
  | setResendData
  | setPublishingMode (publishingEnabled : Bool)
  | republish
  | modify (publishingInterval : ℕ) (counts : RevisedCounts)
      (priority maxNotificationsPerPublish : ℕ)
  | tick (now : ℤ) (nowInstant : ℕ) (tickReason : TickReason) (publishingReqQueued : Bool)
      (visit : VisitOrder)
  | takeNotification

def ItemOp.apply (s : Subscription E) : ItemOp E → Subscription E
  | .insert id item => s.insert id item
  | .remove id => s.remove id
  | .notifyDataValue id value now => s.notifyDataValue id value now
  | .notifyEuRangeChanged id low high => s.notifyEuRangeChanged id low high
  | .notifyEvent id event typeTree overflowId now => s.notifyEvent id event typeTree overflowId now
  | .setMonitoringMode id mode => s.modifyItem id fun item => item.setMonitoringMode mode
  | .setTriggering id itemsToAdd itemsToRemove =>
    s.modifyItem id fun item => item.setTriggering itemsToAdd itemsToRemove
  | .modify id request now => s.modifyItem id fun item => (item.modify request now).2

def SubscriptionOp.apply (s : Subscription E) : SubscriptionOp E → Option (Subscription E)
  | .item op => some (op.apply s)
  | .setResendData => some s.setResendData
  | .setPublishingMode publishingEnabled => some (s.setPublishingMode publishingEnabled)
  | .republish => some s.resetLifetimeCounter
  | .modify publishingInterval counts priority maxNotificationsPerPublish =>
    some (s.modify publishingInterval counts.keepAlive counts.lifetime priority
      maxNotificationsPerPublish)
  | .tick now nowInstant tickReason publishingReqQueued visit =>
    (s.tick now nowInstant tickReason publishingReqQueued visit).map (·.2)
  | .takeNotification => some s.takeNotification.2

def lifecycle (E : Externals) : Machine (Subscription E) (SubscriptionOp E) where
  step s op := op.apply s

def Fresh (s : Subscription E) : Prop :=
  ∃ (id : ℕ) (publishingEnabled : Bool) (publishingInterval : ℕ) (counts : RevisedCounts)
    (priority maxQueuedNotifications maxNotificationsPerPublish now : ℕ),
    s = Subscription.new id publishingEnabled publishingInterval counts.lifetime counts.keepAlive
      priority maxQueuedNotifications maxNotificationsPerPublish now

/-! ### The controlling fields -/

/-- The fields that the state table reads and writes, the maxima of the counters, and what the
subscription is known by. -/
structure Control where
  state : SubscriptionState
  lifetimeCounter : ℕ
  keepAliveCounter : ℕ
  firstMessageSent : Bool
  publishingEnabled : Bool
  maxLifetimeCounter : ℕ
  maxKeepAliveCounter : ℕ
  publishingInterval : ℕ
  id : ℕ
  priority : ℕ

namespace Subscription

def control (s : Subscription E) : Control where
  state := s.state
  lifetimeCounter := s.lifetimeCounter
  keepAliveCounter := s.keepAliveCounter
  firstMessageSent := s.firstMessageSent
  publishingEnabled := s.publishingEnabled
  maxLifetimeCounter := s.maxLifetimeCounter
  maxKeepAliveCounter := s.maxKeepAliveCounter
  publishingInterval := s.publishingInterval
  id := s.id
  priority := s.priority

/-! ### Item operations leave control and messages alone -/

section

variable (s : Subscription E) (id : ℕ) (change : MonitoredItem E → MonitoredItem E)

theorem modifyItem_control : (s.modifyItem id change).control = s.control := by
  unfold modifyItem
  cases s.monitoredItems.lookup id <;> rfl

theorem modifyItem_notifications : (s.modifyItem id change).notifications = s.notifications := by
  unfold modifyItem
  cases s.monitoredItems.lookup id <;> rfl

end

section

variable (s : Subscription E) (id : ℕ) (notify : MonitoredItem E → Bool × MonitoredItem E)

theorem notifyItem_control : (s.notifyItem id notify).control = s.control := by
  unfold notifyItem
  cases s.monitoredItems.lookup id <;> rfl

theorem notifyItem_notifications : (s.notifyItem id notify).notifications = s.notifications := by
  unfold notifyItem
  cases s.monitoredItems.lookup id <;> rfl

end

end Subscription

/-- **Item operations leave the controlling fields alone.** -/
theorem ItemOp.apply_control (s : Subscription E) (op : ItemOp E) :
    (op.apply s).control = s.control := by
  cases op with
  | insert | remove => rfl
  | notifyDataValue | notifyEvent => exact s.notifyItem_control _ _
  | notifyEuRangeChanged | setMonitoringMode | setTriggering | modify =>
    exact s.modifyItem_control _ _

theorem ItemOp.apply_notifications (s : Subscription E) (op : ItemOp E) :
    (op.apply s).notifications = s.notifications := by
  cases op with
  | insert | remove => rfl
  | notifyDataValue | notifyEvent => exact s.notifyItem_notifications _ _
  | notifyEuRangeChanged | setMonitoringMode | setTriggering | modify =>
    exact s.modifyItem_notifications _ _

/-! ### A tick by the row that applies -/

/-- The state in which a row applies, for the rows that belong to one state. -/
def HandledState.origin : HandledState → Option SubscriptionState
  | .none0 | .late10 | .closed27 => none
  | .create3 => some .creating
  | .normal4 | .normal5 | .intervalElapsed6 | .intervalElapsed7 | .intervalElapsed8
  | .intervalElapsed9 => some .normal
  | .late11 | .late12 => some .late
  | .keepAlive13 | .keepAlive14 | .keepAlive15 | .keepAlive16 | .keepAlive17 => some .keepAlive

namespace Subscription

def row (s : Subscription E) (tickReason : TickReason) (publishingReqQueued : Bool) :
    HandledState :=
  s.getStateTransition tickReason (s.stateParams publishingReqQueued)

/-- The publishing interval has passed at a clock reading. -/
def Elapsed (s : Subscription E) (nowInstant : ℕ) : Prop :=
  s.state = .creating ∨
    s.publishingInterval ≤ nowInstant - s.lastTimePublishingIntervalElapsed

instance (s : Subscription E) (nowInstant : ℕ) : Decidable (s.Elapsed nowInstant) :=
  inferInstanceAs (Decidable (_ ∨ _))

def restart (s : Subscription E) (nowInstant : ℕ) (tickReason : TickReason) : Subscription E :=
  if tickReason = .tickTimerFired ∧ s.state ≠ .creating then
    { s with lastTimePublishingIntervalElapsed := nowInstant }
  else s

section

variable (s : Subscription E) (nowInstant : ℕ) (tickReason : TickReason)

theorem restart_control : (s.restart nowInstant tickReason).control = s.control := by
  unfold restart
  split_ifs <;> rfl

theorem restart_row (reason : TickReason) (queued : Bool) :
    (s.restart nowInstant tickReason).row reason queued = s.row reason queued := by
  unfold restart
  split_ifs <;> rfl

end

def applyRow (s : Subscription E) (now : ℤ) (nowInstant : ℕ) (tickReason : TickReason)
    (publishingReqQueued : Bool) (visit : VisitOrder) : Option (TickResult × Subscription E) :=
  let moved := (s.restart nowInstant tickReason).handleStateTransition
    (s.row tickReason publishingReqQueued)
  moved.2.perform moved.1 now visit

theorem intervalElapsed_eq (s : Subscription E) (nowInstant : ℕ) :
    s.intervalElapsed nowInstant .tickTimerFired =
      if s.Elapsed nowInstant then (true, s.restart nowInstant .tickTimerFired)
      else (false, s) := by
  by_cases creating : s.state = .creating
  · simp [intervalElapsed, restart, Elapsed, creating]
  · simp [intervalElapsed, restart, Elapsed, creating, testAndSetPublishingIntervalElapsed]

theorem tick_eq (s : Subscription E) (now : ℤ) (nowInstant : ℕ) (tickReason : TickReason)
    (queued : Bool) (visit : VisitOrder) :
    s.tick now nowInstant tickReason queued visit =
      if tickReason = .tickTimerFired ∧ ¬ s.Elapsed nowInstant then some (.none, s)
      else s.applyRow now nowInstant tickReason queued visit := by
  cases tickReason with
  | receivePublishRequest | notificationAvailable =>
    simp [tick, intervalElapsed, applyRow, restart, row]
  | tickTimerFired =>
    unfold tick applyRow
    rw [intervalElapsed_eq]
    by_cases elapsed : s.Elapsed nowInstant
    · simp only [elapsed, if_true]
      rw [← restart_row s nowInstant .tickTimerFired]
      simp [row]
    · simp [elapsed]

variable {s : Subscription E}

theorem tick_of_elapsed {nowInstant : ℕ} (elapsed : s.Elapsed nowInstant) (now : ℤ)
    (queued : Bool) (visit : VisitOrder) :
    s.tick now nowInstant .tickTimerFired queued visit =
      s.applyRow now nowInstant .tickTimerFired queued visit := by
  rw [tick_eq, if_neg fun idle => idle.2 elapsed]

/-! ### Message building leaves control alone -/

theorem enforceQueuedNotificationLimit_control (s : Subscription E) :
    s.enforceQueuedNotificationLimit.control = s.control := by
  unfold enforceQueuedNotificationLimit
  split_ifs <;> rfl

theorem foldl_enqueueNotification (messages : List (NotificationMessage E)) (s : Subscription E) :
    messages.foldl enqueueNotification s =
      { s with notifications := s.notifications ++ messages } := by
  induction messages generalizing s with
  | nil => simp
  | cons message rest ih => simp [ih, enqueueNotification]

variable {t : Subscription E} {now : ℤ} {visit : VisitOrder}

theorem tickMonitoredItems_control {resendData : Bool} {messages : List (NotificationMessage E)}
    (scanned : s.tickMonitoredItems now resendData visit = some (messages, t)) :
    t.control = s.control ∧ t.notifications = s.notifications ∧
      t.maxQueuedNotifications = s.maxQueuedNotifications := by
  obtain ⟨result, -, built⟩ := map_eq_some_iff.mp scanned
  obtain ⟨-, rfl⟩ := built
  exact ⟨rfl, rfl, rfl⟩

theorem perform_control {action : UpdateStateAction} {result : TickResult}
    (performed : s.perform action now visit = some (result, t)) : t.control = s.control := by
  cases action with
  | none | subscriptionCreated =>
    cases performed
    rfl
  | returnKeepAlive | subscriptionExpired =>
    cases performed
    exact enforceQueuedNotificationLimit_control _
  | returnNotifications =>
    obtain ⟨⟨messages, u⟩, scanned, enqueued⟩ := map_eq_some_iff.mp performed
    cases enqueued
    rw [enforceQueuedNotificationLimit_control, foldl_enqueueNotification]
    exact (tickMonitoredItems_control scanned).1

variable {tickReason : TickReason} {queued : Bool}

theorem applyRow_control {nowInstant : ℕ} {result : TickResult}
    (ticked : s.applyRow now nowInstant tickReason queued visit = some (result, t)) :
    t.control = (s.handleStateTransition (s.row tickReason queued)).2.control := by
  rw [perform_control ticked]
  unfold restart
  split_ifs
  · cases s.row tickReason queued <;> rfl
  · rfl

/-! ### The counter invariant -/

/-- **The counters stay within their maxima.** A subscription that is not late and not keeping
alive has lost at most one count of its lifetime. -/
structure Counted (s : Subscription E) : Prop where
  maxKeepAlive_pos : 1 ≤ s.maxKeepAliveCounter
  maxLifetime_enough : 3 * s.maxKeepAliveCounter ≤ s.maxLifetimeCounter
  keepAlive_pos : 1 ≤ s.keepAliveCounter
  keepAlive_le : s.keepAliveCounter ≤ s.maxKeepAliveCounter
  lifetime_le : s.lifetimeCounter ≤ s.maxLifetimeCounter
  lifetime_fresh : s.state = .creating ∨ s.state = .normal →
    s.maxLifetimeCounter ≤ s.lifetimeCounter + 1

theorem Counted.congr (counted : s.Counted) (same : t.control = s.control) : t.Counted := by
  simp only [control, Control.mk.injEq] at same
  obtain ⟨state, lifetime, keepAlive, -, -, maxLifetime, maxKeepAlive, -⟩ := same
  exact ⟨by rw [maxKeepAlive]; exact counted.maxKeepAlive_pos,
    by rw [maxKeepAlive, maxLifetime]; exact counted.maxLifetime_enough,
    by rw [keepAlive]; exact counted.keepAlive_pos,
    by rw [keepAlive, maxKeepAlive]; exact counted.keepAlive_le,
    by rw [lifetime, maxLifetime]; exact counted.lifetime_le,
    by rw [state, lifetime, maxLifetime]; exact counted.lifetime_fresh⟩

theorem row_keepAlive16 (applies : s.row tickReason queued = .keepAlive16) :
    1 < s.keepAliveCounter := by
  unfold row getStateTransition at applies
  dsimp only at applies
  split at applies <;> try cases applies
  all_goals split_ifs at applies
  rename_i guard
  simp only [Bool.and_eq_true, decide_eq_true_eq] at guard
  exact guard.1

theorem row_origin {state : SubscriptionState}
    (origin : (s.row tickReason queued).origin = some state) : s.state = state := by
  unfold row getStateTransition at origin
  dsimp only at origin
  split at origin <;> (try split_ifs at origin) <;> cases origin <;> assumption

theorem closes_row (running : s.state ≠ .closed)
    (closed : (s.handleStateTransition (s.row tickReason queued)).2.state = .closed) :
    s.row tickReason queued = .closed27 ∧ s.lifetimeCounter ≤ 1 := by
  have row : s.row tickReason queued = .closed27 := by
    cases transition : s.row tickReason queued <;> rw [transition] at closed <;>
      first | rfl | exact absurd closed running | cases closed
  refine ⟨row, ?_⟩
  unfold Subscription.row getStateTransition at row
  dsimp only at row
  split at row <;> (try split_ifs at row) <;> first | assumption | cases row

theorem Counted.handleStateTransition (counted : s.Counted) (tickReason : TickReason)
    (queued : Bool) : (s.handleStateTransition (s.row tickReason queued)).2.Counted := by
  obtain ⟨maxKeepAlive_pos, maxLifetime_enough, keepAlive_pos, keepAlive_le, lifetime_le,
    lifetime_fresh⟩ := counted
  have origin := fun state => @row_origin E s tickReason queued state
  have lowers := @row_keepAlive16 E s tickReason queued
  cases transition : s.row tickReason queued with
  | none0 | normal4 | keepAlive13 => exact ⟨‹_›, ‹_›, ‹_›, ‹_›, ‹_›, ‹_›⟩
  | create3 =>
    have creating := origin .creating (by rw [transition]; rfl)
    exact ⟨‹_›, ‹_›, ‹_›, ‹_›, ‹_›, fun _ => lifetime_fresh (Or.inl creating)⟩
  | normal5 | late10 | late11 | intervalElapsed6 | intervalElapsed7 | keepAlive14 =>
    refine ⟨‹_›, ‹_›, ‹_›, ‹_›, ?_, fun _ => ?_⟩ <;>
      simp only [Subscription.handleStateTransition, resetLifetimeCounter, startPublishingTimer] <;>
      omega
  | intervalElapsed8 | late12 | keepAlive17 | closed27 =>
    refine ⟨‹_›, ‹_›, ‹_›, ‹_›, ?_, ?_⟩
    · simp only [Subscription.handleStateTransition, startPublishingTimer]
      omega
    · rintro (impossible | impossible) <;> cases impossible
  | intervalElapsed9 =>
    refine ⟨‹_›, ‹_›, maxKeepAlive_pos, le_refl _, ?_, ?_⟩
    · simp only [Subscription.handleStateTransition, startPublishingTimer, resetKeepAliveCounter]
      omega
    · rintro (impossible | impossible) <;> cases impossible
  | keepAlive15 =>
    have keeping := origin .keepAlive (by rw [transition]; rfl)
    refine ⟨‹_›, ‹_›, maxKeepAlive_pos, le_refl _, ?_, ?_⟩
    · simp only [Subscription.handleStateTransition, startPublishingTimer, resetKeepAliveCounter]
      omega
    · simp [Subscription.handleStateTransition, startPublishingTimer, resetKeepAliveCounter,
        keeping]
  | keepAlive16 =>
    have keeping := origin .keepAlive (by rw [transition]; rfl)
    have more := lowers transition
    refine ⟨‹_›, ‹_›, ?_, ?_, ?_, ?_⟩
    · simp only [Subscription.handleStateTransition]
      omega
    · simp only [Subscription.handleStateTransition, startPublishingTimer]
      omega
    · simp only [Subscription.handleStateTransition, startPublishingTimer]
      omega
    · simp [Subscription.handleStateTransition, startPublishingTimer, keeping]

theorem counted_of_fresh (fresh : Fresh s) : s.Counted := by
  obtain ⟨id, publishingEnabled, publishingInterval, counts, priority, maxQueued, maxPerPublish,
    now, rfl⟩ := fresh
  exact ⟨counts.positive, counts.enough, counts.positive, le_refl _, le_refl _,
    fun _ => Nat.le_succ _⟩

theorem Counted.step (counted : s.Counted) {op : SubscriptionOp E}
    (stepped : (lifecycle E).step s op = some t) : t.Counted := by
  cases op with
  | item op =>
    cases stepped
    exact counted.congr (op.apply_control s)
  | setResendData =>
    cases stepped
    exact counted.congr rfl
  | setPublishingMode publishingEnabled | republish =>
    cases stepped
    obtain ⟨maxKeepAlive_pos, maxLifetime_enough, keepAlive_pos, keepAlive_le, -, -⟩ := counted
    exact ⟨‹_›, ‹_›, ‹_›, ‹_›, le_refl _, fun _ => Nat.le_succ _⟩
  | modify publishingInterval counts priority maxPerPublish =>
    cases stepped
    exact ⟨counts.positive, counts.enough, counts.positive, le_refl _, le_refl _,
      fun _ => Nat.le_succ _⟩
  | tick now nowInstant tickReason queued visit =>
    obtain ⟨⟨result, u⟩, ticked, rfl⟩ := map_eq_some_iff.mp stepped
    rw [tick_eq] at ticked
    split_ifs at ticked with idle
    · cases ticked
      exact counted
    · exact (counted.handleStateTransition tickReason queued).congr (applyRow_control ticked)
  | takeNotification =>
    cases stepped
    refine counted.congr ?_
    unfold takeNotification
    split <;> rfl

theorem counted_of_reachable (reached : (lifecycle E).Reachable Fresh s) : s.Counted :=
  reached.invariant _ (fun _ => counted_of_fresh) fun _ _ _ counted => counted.step

end Subscription

/-! ### A subscription over integers -/

/-- An item that reports every change and has its first value queued. -/
def integerItem (id : ℕ) (mode : MonitoringMode) (queueSize : ℕ) :
    MonitoredItem Externals.integers :=
  .new
    { id := id, itemToMonitor := ⟨(id : ℕ), (13 : ℕ), none⟩, monitoringMode := mode
      clientHandle := id, discardOldest := true, queueSize := queueSize, samplingInterval := .zero
      initialValue := none, statusCode := StatusCode.Good, filter := .none
      timestampsToReturn := .both, euRange := none } 0

def integerValue (value time : ℤ) : Externals.integers.DataValue where
  value := some (.scalar value)
  status := none
  sourceTimestamp := some time
  sourcePicoseconds := none
  serverTimestamp := none
  serverPicoseconds := none

/-- A subscription whose timer has always elapsed. -/
def integerSubscription (counts : RevisedCounts) (maxNotificationsPerPublish : ℕ) :
    Subscription Externals.integers :=
  .new 1 true 0 counts.lifetime counts.keepAlive 0 0 maxNotificationsPerPublish 0

/-- Three ticks to live. -/
def threeCounts : RevisedCounts := ⟨1, 3, by decide, by decide⟩

/-- Four ticks to live. -/
def fourCounts : RevisedCounts := ⟨1, 4, by decide, by decide⟩

def timerTick (queued : Bool) : SubscriptionOp Externals.integers :=
  .tick 0 0 .tickTimerFired queued .upward

theorem fresh_integerSubscription (counts : RevisedCounts) (maxNotificationsPerPublish : ℕ) :
    Fresh (integerSubscription counts maxNotificationsPerPublish) :=
  ⟨1, true, 0, counts, 0, 0, maxNotificationsPerPublish, 0, rfl⟩

end AsyncOpcua.Subscriptions
