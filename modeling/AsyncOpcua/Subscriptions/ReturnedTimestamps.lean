/-
**Which timestamps the notifications of an item carry.**

An item takes away from a value what its client does not want returned, and keeps the value with all
of its timestamps as its last value. A resend queues the last value as it is kept.

* `timestamps_respected_iff` — in which runs all queued values do.
-/

import AsyncOpcua.Subscriptions.SkippedSamples

namespace AsyncOpcua.Subscriptions

open Types Foundation List Option MonitoredItem

variable {E : Externals}

/-! ### Settings -/

def TimestampsToReturn.withholdsSource : TimestampsToReturn → Bool
  | .server | .neither | .invalid => true
  | .source | .both => false

def TimestampsToReturn.withholdsServer : TimestampsToReturn → Bool
  | .source | .neither | .invalid => true
  | .server | .both => false

structure Respects (setting : TimestampsToReturn) (value : E.DataValue) : Prop where
  source : setting.withholdsSource = true →
    value.sourceTimestamp = none ∧ value.sourcePicoseconds = none
  server : setting.withholdsServer = true →
    value.serverTimestamp = none ∧ value.serverPicoseconds = none

def NotificationRespects (setting : TimestampsToReturn) : Notification E → Prop
  | .monitoredItemNotification n => Respects setting n.value
  | .event _ => True

section

variable {setting : TimestampsToReturn}

theorem respects_setStatusBit {set : StatusCode → Bool → StatusCode}
    {value : E.DataValue} : Respects setting (setStatusBit set value) ↔ Respects setting value :=
  ⟨fun respects => ⟨respects.source, respects.server⟩,
    fun respects => ⟨respects.source, respects.server⟩⟩

theorem respects_markOverflow (n : Notification E) :
    NotificationRespects setting (markOverflow n) ↔ NotificationRespects setting n := by
  cases n with
  | monitoredItemNotification n => exact respects_setStatusBit
  | event fields => exact Iff.rfl

theorem respects_setSemanticsChanged (n : Notification E) :
    NotificationRespects setting (setNotificationSemanticsChanged n).2 ↔
      NotificationRespects setting n := by
  cases n with
  | monitoredItemNotification n => exact respects_setStatusBit
  | event fields => exact Iff.rfl

end

namespace MonitoredItem

variable (item : MonitoredItem E)

theorem applyTimestampsToReturn_respects (value : E.DataValue) :
    Respects item.timestampsToReturn (item.applyTimestampsToReturn value) := by
  unfold applyTimestampsToReturn
  constructor <;> cases item.timestampsToReturn <;>
    simp [TimestampsToReturn.withholdsSource, TimestampsToReturn.withholdsServer]

theorem enqueueNotification_timestampsToReturn (notification : Notification E) :
    (item.enqueueNotification notification).timestampsToReturn = item.timestampsToReturn := by
  obtain ⟨_, _, same⟩ := item.enqueueNotification_frame notification
  rw [same]

end MonitoredItem

/-! ### Runs -/

/-- What happens to an item: a new value or a tick, the end of an aggregation interval, a resend,
and a publication. -/
inductive StampOp (E : Externals) where
  | sample (op : SampleOp E)
  | flush (now : ℤ)
  | resend
  | pop

def stampMachine (E : Externals) : Machine (MonitoredItem E) (StampOp E) where
  step item op :=
    match op with
    | .sample op => (sampleMachine E).step item op
    | .flush now => (item.maybeFlushAggregate now).map (·.2)
    | .resend => some item.addCurrentValueToQueue
    | .pop => some item.popNotification.2

/-- **Everything queued carries what is to be returned, and nothing else.** -/
def QueueRespects (setting : TimestampsToReturn) (item : MonitoredItem E) : Prop :=
  ∀ n ∈ item.notificationQueue, NotificationRespects setting n

def ResendRespects (setting : TimestampsToReturn) (item : MonitoredItem E) : StampOp E → Prop
  | .resend => ∀ value, item.lastDataValue = some value → Respects setting value
  | _ => True

/-! ### What all notifications of an item have in common -/

/-- A property of notifications that no bit of a queue takes away, and that each report of an item
with the setting has. -/
structure Common (setting : TimestampsToReturn) (P : Notification E → Prop) : Prop where
  marks : ∀ n, P n → P (markOverflow n)
  semantics : ∀ n, P n → P (setNotificationSemanticsChanged n).2
  reports : ∀ (item : MonitoredItem E) (value : E.DataValue), item.timestampsToReturn = setting →
    P (.monitoredItemNotification ⟨item.clientHandle, item.applyTimestampsToReturn value⟩)

structure Holding (setting : TimestampsToReturn) (P : Notification E → Prop)
    (item : MonitoredItem E) : Prop where
  same : item.timestampsToReturn = setting
  queue : ∀ n ∈ item.notificationQueue, P n

section Holding

variable {setting : TimestampsToReturn} {P : Notification E → Prop} {item : MonitoredItem E}

theorem Holding.unparked (holding : Holding setting P item) : Holding setting P item.unparked :=
  ⟨holding.same, holding.queue⟩

theorem Holding.pop (holding : Holding setting P item) :
    Holding setting P item.popNotification.2 := by
  unfold popNotification
  split_ifs
  · exact ⟨holding.same, holding.queue⟩
  · cases queue : item.notificationQueue with
    | nil => exact ⟨holding.same, fun n member => by cases member⟩
    | cons first rest =>
      refine ⟨holding.same, fun n member => holding.queue n ?_⟩
      rw [queue]
      exact mem_cons_of_mem _ member

variable (common : Common setting P)
include common

section

variable (holding : Holding setting P item)
include holding

theorem Holding.enqueue {notification : Notification E} (has : P notification) :
    Holding setting P (item.enqueueNotification notification) where
  same := (item.enqueueNotification_timestampsToReturn notification).trans holding.same
  queue := item.enqueueNotification_forall common.marks common.semantics holding.queue has

theorem Holding.accept (value : E.DataValue) (now : ℤ) (fromSubscriptionTick extraEnqueued : Bool) :
    Holding setting P (item.acceptDataValue value now fromSubscriptionTick extraEnqueued).2 := by
  rcases item.acceptDataValue_cases value now fromSubscriptionTick extraEnqueued with
    ⟨-, after⟩ | ⟨-, -, after⟩ | ⟨-, -, after⟩ | ⟨-, -, after⟩ <;> rw [after]
  · exact ⟨holding.same, holding.queue⟩
  · exact holding
  · exact ⟨holding.same, holding.queue⟩
  · have taken : Holding setting P { item with
        lastDataValue := some (item.applyIndexRange value), semanticsChanged := false } :=
      ⟨holding.same, holding.queue⟩
    have reports := common.reports item (item.applyIndexRange value) holding.same
    refine taken.enqueue common ?_
    unfold reportOf
    split_ifs
    · exact common.semantics _ reports
    · exact reports

theorem Holding.passOn (skipped : E.DataValue) (now : ℤ) (fromSubscriptionTick : Bool) :
    Holding setting P (item.passOn skipped now fromSubscriptionTick).2 := by
  unfold MonitoredItem.passOn
  split_ifs
  · have withheld : Holding setting P { item.unparked with semanticsChanged := false } :=
      ⟨holding.same, holding.queue⟩
    have taken := withheld.accept common skipped now fromSubscriptionTick false
    exact ⟨taken.same, taken.queue⟩
  · exact holding.unparked.accept common skipped now fromSubscriptionTick false

theorem Holding.notify (value : E.DataValue) (now : ℤ) (fromSubscriptionTick : Bool) :
    Holding setting P (item.notifyDataValue value now fromSubscriptionTick).2 := by
  rw [notifyDataValue_eq]
  split_ifs
  · exact holding
  · have reported : Holding setting P (item.reportSkipped value now).2 := by
      unfold reportSkipped
      cases item.sampleSkippedDataValue with
      | none => exact holding
      | some skipped =>
        dsimp only
        split_ifs
        · exact holding.passOn common skipped now false
        · exact holding.unparked
    exact reported.accept common value now fromSubscriptionTick _

theorem Holding.tick (now : ℤ) : Holding setting P (item.maybeEnqueueSkippedValue now).2 := by
  rw [maybeEnqueueSkippedValue_eq]
  cases item.sampleSkippedDataValue with
  | none => exact holding.unparked
  | some skipped =>
    dsimp only
    split_ifs
    · exact holding.unparked
    · exact holding.passOn common skipped now true
    · exact holding

theorem Holding.flush {now : ℤ} {flushed : Bool} {after : MonitoredItem E}
    (ran : item.maybeFlushAggregate now = some (flushed, after)) : Holding setting P after := by
  have queues : ∀ (produced : List E.DataValue) (item : MonitoredItem E), Holding setting P item →
      Holding setting P (produced.foldl (fun item value => item.enqueueNotification
        (.monitoredItemNotification ⟨item.clientHandle, item.applyTimestampsToReturn value⟩))
          item) := by
    intro produced
    induction produced with
    | nil => exact fun _ holding => holding
    | cons value produced ih =>
      intro item holding
      exact ih _ (holding.enqueue common (common.reports item value holding.same))
  unfold maybeFlushAggregate at ran
  split at ran
  · split at ran
    · cases ran
    · cases ran
      exact holding
    · cases ran
      exact queues _ _ ⟨holding.same, holding.queue⟩
  · cases ran
    exact holding

/-- **Every operation but a resend** queues reports only. -/
theorem Holding.step {op : StampOp E} {after : MonitoredItem E}
    (stepped : (stampMachine E).step item op = some after) (other : op ≠ .resend) :
    Holding setting P after := by
  cases op with
  | sample op =>
    cases op with
    | notify value now fromSubscriptionTick =>
      rw [← some.inj stepped]
      exact holding.notify common value now fromSubscriptionTick
    | tick now =>
      rw [← some.inj stepped]
      exact holding.tick common now
  | flush now =>
    obtain ⟨⟨flushed, flushedItem⟩, ran, rfl⟩ := map_eq_some_iff.mp stepped
    exact holding.flush common ran
  | resend => exact absurd rfl other
  | pop =>
    rw [← some.inj stepped]
    exact holding.pop

end

omit common in
theorem holding_new {request : MonitoredItem.CreateMonitoredItem E}
    (common : Common request.timestampsToReturn P) (now : ℤ) :
    Holding request.timestampsToReturn P (new request now) := by
  unfold new
  split
  · exact ⟨rfl, fun n member => by cases member⟩
  · apply Holding.notify common
    exact ⟨rfl, fun n member => by cases member⟩

end Holding

/-! ### Respected settings -/

section Respected

variable {setting : TimestampsToReturn} {item : MonitoredItem E}

theorem common_respects (setting : TimestampsToReturn) :
    Common setting (@NotificationRespects E setting) where
  marks n := (respects_markOverflow n).mpr
  semantics n := (respects_setSemanticsChanged n).mpr
  reports item value same := same ▸ item.applyTimestampsToReturn_respects value

theorem Holding.resend_iff (holding : Holding setting (NotificationRespects setting) item) :
    QueueRespects setting item.addCurrentValueToQueue ↔
      ∀ value, item.lastDataValue = some value → Respects setting value := by
  unfold addCurrentValueToQueue
  cases last : item.lastDataValue with
  | none =>
    rw [ite_self]
    refine iff_of_true holding.queue ?_
    rintro _ ⟨⟩
  | some value =>
    dsimp only
    split_ifs with queued
    · -- the front of the queue is the last value, so that this respects the setting
      refine iff_of_true holding.queue ?_
      rintro _ ⟨⟩
      cases front : item.notificationQueue with
      | nil => simp [front] at queued
      | cons first rest =>
        rw [front] at queued
        cases first with
        | event fields => simp at queued
        | monitoredItemNotification n =>
          have respects : Respects setting n.value :=
            holding.queue (.monitoredItemNotification n) (front ▸ mem_cons_self)
          simp only [head?_cons, DataValue.eq, Bool.and_eq_true, beq_iff_eq] at queued
          obtain ⟨⟨⟨⟨-, source⟩, sourcePico⟩, server⟩, serverPico⟩ := queued
          constructor
          · rw [← source, ← sourcePico]
            exact respects.source
          · rw [← server, ← serverPico]
            exact respects.server
    · constructor
      · rintro all _ ⟨⟩
        by_contra carries
        obtain ⟨n, member, marked⟩ := item.enqueueNotification_marked
          (.monitoredItemNotification ⟨item.clientHandle, value⟩)
        have there : ¬ NotificationRespects setting n :=
          marked.keeps (fun n => mt (respects_markOverflow n).mp)
            (fun n => mt (respects_setSemanticsChanged n).mp) carries
        exact there (all n member)
      · intro respects
        have fresh : NotificationRespects setting
            (.monitoredItemNotification ⟨item.clientHandle, value⟩) := respects value rfl
        exact (holding.enqueue (common_respects setting) fresh).queue

theorem addCurrentValueToQueue_timestampsToReturn (item : MonitoredItem E) :
    item.addCurrentValueToQueue.timestampsToReturn = item.timestampsToReturn := by
  unfold addCurrentValueToQueue
  dsimp only
  split_ifs
  · rfl
  · cases item.lastDataValue with
    | none => rfl
    | some value => exact item.enqueueNotification_timestampsToReturn _

end Respected

/-- **Which runs respect the timestamps to return.** From a new item on, everything queued always
carries what its client wants returned and nothing else, exactly if at each resend the last value,
as it is kept with all of its timestamps, does. -/
theorem timestamps_respected_iff (request : MonitoredItem.CreateMonitoredItem E) (now : ℤ)
    (ops : List (StampOp E)) :
    (stampMachine E).Always (QueueRespects request.timestampsToReturn)
        (new request now) ops ↔
      (stampMachine E).Guarded (ResendRespects request.timestampsToReturn)
        (new request now) ops := by
  have common := @common_respects E request.timestampsToReturn
  refine (stampMachine E).always_iff_guarded_of_stuck
    (fun item => item.timestampsToReturn = request.timestampsToReturn) ?_ ?_ ?_
    (holding_new common now).same (holding_new common now).queue
  · intro item op nowhere
    cases op with
    | resend => cases nowhere
    | _ => trivial
  · intro item op after same queue stepped
    by_cases resend : op = .resend
    · subst resend
      rw [← some.inj stepped]
      exact (addCurrentValueToQueue_timestampsToReturn item).trans same
    · exact (Holding.step common ⟨same, queue⟩ stepped resend).same
  · intro item op after same queue stepped
    by_cases resend : op = .resend
    · subst resend
      rw [← some.inj stepped]
      exact Holding.resend_iff ⟨same, queue⟩
    · refine iff_of_true (Holding.step common ⟨same, queue⟩ stepped resend).queue ?_
      cases op with
      | resend => exact absurd rfl resend
      | _ => trivial

def bareRequest : MonitoredItem.CreateMonitoredItem Externals.integers where
  id := 1
  itemToMonitor := ⟨(1 : ℕ), 13, none⟩
  monitoringMode := .reporting
  clientHandle := 1
  discardOldest := true
  queueSize := 2
  samplingInterval := .zero
  initialValue := none
  statusCode := .Good
  filter := .none
  timestampsToReturn := .neither
  euRange := none

/-- The value an item waits with is published, and queued again with its timestamps. -/
theorem resend_returns_timestamps :
    ¬ ∀ (E : Externals) (request : MonitoredItem.CreateMonitoredItem E) (now : ℤ)
      (ops : List (StampOp E)), (stampMachine E).Always (QueueRespects request.timestampsToReturn)
        (new request now) ops := by
  intro always
  have there := (always .integers bareRequest 0 [.pop, .resend]).2 _ rfl |>.2 _ rfl
  have stamped := (there _ mem_cons_self).source rfl
  cases stamped.1

end AsyncOpcua.Subscriptions
