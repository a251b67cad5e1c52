/-
**The keep-alive guarantee: how long a served subscription can stay silent.**

A round applies item operations, makes one elapsed tick of the timer with a publish request queued,
and takes the messages the tick has enqueued.

* `keepAlive_guarantee` — `maxKeepAliveCounter + 2` rounds send a message, if each of them
  `Delivers` and a late subscription has no more ticks of lifetime left than that.
-/

import AsyncOpcua.Subscriptions.Delivery

namespace AsyncOpcua.Subscriptions

open Types Foundation List Option Or

variable {E : Externals}

/-! ### Rounds -/

/-- What happens between two takings of messages: item operations, then a tick. -/
structure Round (E : Externals) where
  before : List (ItemOp E)
  now : ℤ
  nowInstant : ℕ
  visit : VisitOrder

namespace Subscription

def takeAll (s : Subscription E) : List (NotificationMessage E) × Subscription E :=
  (s.notifications, { s with notifications := [] })

end Subscription

namespace Round

def found (round : Round E) (s : Subscription E) : Subscription E :=
  round.before.foldl ItemOp.apply s

def ticked (round : Round E) (s : Subscription E) : Option (Subscription E) :=
  if (round.found s).Elapsed round.nowInstant then
    ((round.found s).tick round.now round.nowInstant .tickTimerFired true round.visit).map (·.2)
  else none

/-- **The condition on a round:** where publishing is enabled and something is available, the tick
has something to deliver. It says nothing about a late subscription. -/
def Delivers (s : Subscription E) (round : Round E) : Prop :=
  (round.found s).state = .normal ∨ (round.found s).state = .keepAlive →
    (round.found s).publishingEnabled = true →
    (round.found s).notificationsAvailable (round.found s).resendData = true →
    (round.found s).Deliverable round.now

end Round

/-- **Rounds, with the messages they have sent.** -/
def rounds (E : Externals) : Machine (Subscription E × List (NotificationMessage E)) (Round E) where
  step s round := (round.ticked s.1).map fun t => (t.takeAll.2, s.2 ++ t.takeAll.1)

theorem Round.found_spec (round : Round E) (s : Subscription E) :
    (round.found s).control = s.control ∧ (round.found s).notifications = s.notifications := by
  unfold Round.found
  induction round.before generalizing s with
  | nil => exact ⟨rfl, rfl⟩
  | cons op rest ih =>
    obtain ⟨control, notifications⟩ := ih (op.apply s)
    exact ⟨control.trans (op.apply_control s), notifications.trans (op.apply_notifications s)⟩

namespace Subscription

/-! ### One served tick -/

def SilentTicks (s : Subscription E) : ℕ :=
  match s.state with
  | .creating | .closed => 0
  | .normal => s.maxKeepAliveCounter + 1
  | .late => max s.lifetimeCounter 1
  | .keepAlive => s.keepAliveCounter

variable {s t : Subscription E}

theorem silentTicks_congr (same : t.control = s.control) : t.SilentTicks = s.SilentTicks := by
  simp only [control, Control.mk.injEq] at same
  unfold SilentTicks
  simp [same]

theorem enforceQueuedNotificationLimit_speaks (some : s.notifications ≠ []) :
    s.enforceQueuedNotificationLimit.notifications ≠ [] := by
  unfold enforceQueuedNotificationLimit
  split_ifs with within
  · exact some
  · rw [not_or] at within
    refine ne_nil_of_length_pos ?_
    rw [length_drop]
    omega

theorem servedRow_eq (counted : s.Counted) (quiet : s.notifications = []) :
    s.row .tickTimerFired true =
      match s.state with
      | .creating => .create3
      | .closed => .none0
      | .late => if 1 < s.lifetimeCounter then .late12 else .closed27
      | .normal =>
        if s.publishingEnabled = true ∧ s.notificationsAvailable s.resendData = true then
          .intervalElapsed6
        else if s.firstMessageSent then .intervalElapsed9 else .intervalElapsed7
      | .keepAlive =>
        if s.publishingEnabled = true ∧ s.notificationsAvailable s.resendData = true then
          .keepAlive14
        else if s.keepAliveCounter = 1 then .keepAlive15 else .keepAlive16 := by
  have positive := counted.keepAlive_pos
  unfold row getStateTransition stateParams moreNotifications
  rw [quiet]
  cases s.state with
  | creating | closed => rfl
  | late =>
    simp only
    split_ifs <;> first | rfl | omega
  | normal =>
    cases s.publishingEnabled <;> cases s.notificationsAvailable s.resendData <;>
      cases s.firstMessageSent <;> rfl
  | keepAlive =>
    by_cases last : s.keepAliveCounter = 1
    · cases s.publishingEnabled <;> cases s.notificationsAvailable s.resendData <;> simp [last]
    · have more : 1 < s.keepAliveCounter := by omega
      cases s.publishingEnabled <;> cases s.notificationsAvailable s.resendData <;>
        simp [last, more]

theorem perform_speaks {s t : Subscription E} {action : UpdateStateAction} {now : ℤ}
    {visit : VisitOrder} {result : TickResult}
    (performed : s.perform action now visit = some (result, t))
    (speaks : action = .returnKeepAlive ∨ action = .subscriptionExpired ∨
      action = .returnNotifications ∧ s.Deliverable now) : t.notifications ≠ [] := by
  rcases speaks with rfl | rfl | ⟨rfl, deliverable⟩
  · cases performed
    refine enforceQueuedNotificationLimit_speaks ?_
    simp [enqueueNotification]
  · cases performed
    refine enforceQueuedNotificationLimit_speaks ?_
    simp [enqueueNotification]
  · obtain ⟨⟨messages, u⟩, scanned, enqueued⟩ := map_eq_some_iff.mp performed
    cases enqueued
    refine enforceQueuedNotificationLimit_speaks ?_
    rw [foldl_enqueueNotification]
    simp [(tickMonitoredItems_delivers scanned).mpr deliverable]

theorem served_tick_speaks_or_counts {s t : Subscription E} {now : ℤ} {nowInstant : ℕ}
    {visit : VisitOrder} {result : TickResult} (counted : s.Counted) (quiet : s.notifications = [])
    (created : s.state ≠ .creating) (running : s.state ≠ .closed)
    (delivers : s.state = .normal ∨ s.state = .keepAlive → s.publishingEnabled = true →
      s.notificationsAvailable s.resendData = true → s.Deliverable now)
    (ticked : s.applyRow now nowInstant .tickTimerFired true visit = some (result, t)) :
    t.notifications ≠ [] ∨
      t.notifications = [] ∧ t.state ≠ .creating ∧ t.state ≠ .closed ∧
        t.SilentTicks < s.SilentTicks := by
  have control := applyRow_control ticked
  have ticks := silentTicks_congr control
  have state : t.state = (s.handleStateTransition (s.row .tickTimerFired true)).2.state :=
    congrArg Control.state control
  unfold applyRow at ticked
  rw [servedRow_eq counted quiet] at ticked ticks state
  -- The restarted subscription differs from `s` in the start of its interval only.
  have restarted : (s.restart nowInstant .tickTimerFired).monitoredItems = s.monitoredItems ∧
      (s.restart nowInstant .tickTimerFired).notifiedMonitoredItems = s.notifiedMonitoredItems ∧
      (s.restart nowInstant .tickTimerFired).resendData = s.resendData ∧
      (s.restart nowInstant .tickTimerFired).notifications = s.notifications := by
    unfold restart
    split_ifs <;> exact ⟨rfl, rfl, rfl, rfl⟩
  obtain ⟨items, notified, resend, messages⟩ := restarted
  cases before : s.state with
  | creating => exact absurd before created
  | closed => exact absurd before running
  | late =>
    simp only [before] at ticked ticks state
    split_ifs at ticked ticks state with more
    · cases ticked
      rw [state, ticks]
      refine inr ⟨messages.trans quiet, ?_, ?_, ?_⟩
      · simp [handleStateTransition]
      · simp [handleStateTransition]
      · simp only [handleStateTransition, startPublishingTimer, SilentTicks, before]
        omega
    · exact inl (perform_speaks ticked (inr (inl rfl)))
  | normal =>
    simp only [before] at ticked ticks state
    split_ifs at ticked ticks state with available sent
    · have deliverable := delivers (inl before) available.1 available.2
      exact inl (perform_speaks ticked
        (inr (inr ⟨rfl, deliverable.congr items notified resend⟩)))
    · cases ticked
      rw [state, ticks]
      refine inr ⟨messages.trans quiet, ?_, ?_, ?_⟩
      · simp [handleStateTransition]
      · simp [handleStateTransition]
      · simp only [handleStateTransition, startPublishingTimer, resetKeepAliveCounter, SilentTicks,
          before]
        omega
    · exact inl (perform_speaks ticked (inl rfl))
  | keepAlive =>
    simp only [before] at ticked ticks state
    split_ifs at ticked ticks state with available last
    · have deliverable := delivers (inr before) available.1 available.2
      exact inl (perform_speaks ticked
        (inr (inr ⟨rfl, deliverable.congr items notified resend⟩)))
    · exact inl (perform_speaks ticked (inl rfl))
    · cases ticked
      have positive := counted.keepAlive_pos
      rw [state, ticks]
      refine inr ⟨messages.trans quiet, ?_, ?_, ?_⟩
      · simp [handleStateTransition, startPublishingTimer, before]
      · simp [handleStateTransition, startPublishingTimer, before]
      · simp only [handleStateTransition, startPublishingTimer, SilentTicks, before]
        omega

/-! ### Runs of rounds -/

/-- What the rounds keep as long as they send nothing. -/
structure Quiet (s : Subscription E) : Prop where
  counted : s.Counted
  quiet : s.notifications = []
  created : s.state ≠ .creating
  running : s.state ≠ .closed

theorem Quiet.silentTicks_pos (silent : s.Quiet) : 0 < s.SilentTicks := by
  have positive := silent.counted.keepAlive_pos
  unfold SilentTicks
  cases state : s.state with
  | creating => exact absurd state silent.created
  | closed => exact absurd state silent.running
  | normal | late => simp
  | keepAlive => exact positive

theorem round_speaks_or_counts {round : Round E} (silent : s.Quiet) (delivers : round.Delivers s)
    (ticked : round.ticked s = some t) :
    t.takeAll.1 ≠ [] ∨ t.takeAll.2.Quiet ∧ t.takeAll.2.SilentTicks < s.SilentTicks := by
  obtain ⟨control, messages⟩ := round.found_spec s
  unfold Round.ticked at ticked
  split_ifs at ticked with elapsed
  obtain ⟨⟨result, u⟩, applied, rfl⟩ := map_eq_some_iff.mp ticked
  rw [tick_of_elapsed elapsed] at applied
  have state : (round.found s).state = s.state := congrArg Control.state control
  have counted := silent.counted.congr control
  obtain speaks | ⟨quiet, created, running, fewer⟩ := served_tick_speaks_or_counts counted
    (messages.trans silent.quiet) (state ▸ silent.created) (state ▸ silent.running) delivers applied
  · exact inl speaks
  · right
    refine ⟨⟨?_, rfl, created, running⟩, ?_⟩
    · have taken : u.takeAll.2.control = u.control := rfl
      exact (counted.handleStateTransition .tickTimerFired true).congr
        (taken.trans (applyRow_control applied))
    · rw [← silentTicks_congr control]
      exact fewer

/-- A late subscription has no more ticks of lifetime left than the rounds of the guarantee. -/
def LateInTime (s : Subscription E) : Prop :=
  s.state = .late → s.lifetimeCounter ≤ s.maxKeepAliveCounter + 2

theorem silentTicks_le (counted : s.Counted) (late : s.LateInTime) :
    s.SilentTicks ≤ s.maxKeepAliveCounter + 2 := by
  have within := counted.keepAlive_le
  unfold SilentTicks
  split
  · omega
  · omega
  · omega
  · rename_i state
    have left := late state
    omega
  · omega

/-- **The keep-alive guarantee.** -/
theorem keepAlive_guarantee {s t : Subscription E} {sent : List (NotificationMessage E)}
    {served : List (Round E)} (reached : (lifecycle E).Reachable Fresh s)
    (created : s.state ≠ .creating) (running : s.state ≠ .closed) (quiet : s.notifications = [])
    (late : s.LateInTime)
    (delivers : (rounds E).Guarded (fun timed round => round.Delivers timed.1) (s, []) served)
    (enough : served.length = s.maxKeepAliveCounter + 2)
    (ran : (rounds E).run (s, []) served = some (t, sent)) : sent ≠ [] := by
  have counted := counted_of_reachable reached
  refine (rounds E).run_reaches_of_measure
    (fun timed => timed.2 ≠ [] ∨ timed.1.Quiet) (fun timed => timed.2 ≠ [])
    (fun timed => timed.1.SilentTicks) ?_ ?_ ?_ (inr ⟨counted, quiet, created, running⟩)
    delivers ?_ ran
  · rintro timed holds none
    refine holds.resolve_right fun silent => ?_
    exact absurd none silent.silentTicks_pos.ne'
  · rintro timed round timed' holds unsent meets stepped
    have silent := holds.resolve_left unsent
    obtain ⟨u, ticked, rfl⟩ := map_eq_some_iff.mp stepped
    obtain speaks | ⟨quietAfter, fewer⟩ := round_speaks_or_counts silent meets ticked
    · have sent : timed.2 ++ u.takeAll.1 ≠ [] := fun none =>
        speaks (append_eq_nil_iff.mp none).2
      exact ⟨inl sent, inl sent⟩
    · exact ⟨inr quietAfter, inr fewer⟩
  · rintro timed round timed' - sent - stepped
    obtain ⟨u, ticked, rfl⟩ := map_eq_some_iff.mp stepped
    have still : timed.2 ++ u.takeAll.1 ≠ [] := fun none =>
      sent (append_eq_nil_iff.mp none).1
    exact ⟨inl still, still⟩
  · rw [enough]
    exact silentTicks_le counted late

/-! ### A sampling item that silences its subscription -/

def keptAlive : Subscription Externals.integers :=
  { integerSubscription threeCounts 0 with state := .normal }

theorem keptAlive_reached : (lifecycle _).Reachable Fresh keptAlive :=
  ⟨_, [timerTick false], fresh_integerSubscription _ _, rfl⟩

def servedRound (before : List (ItemOp Externals.integers)) : Round Externals.integers where
  before := before
  now := 0
  nowInstant := 0
  visit := .upward

/-- Rounds in which nothing changes. -/
def idleRounds : List (Round Externals.integers) :=
  [servedRound [], servedRound [], servedRound []]

/-- The guarantee where nothing changes: the first round sends a keep-alive. -/
theorem keepAlive_guarantee_idle :
    ∃ t sent, (rounds _).run (keptAlive, []) idleRounds = some (t, sent) ∧ sent ≠ [] := by
  have delivers : (rounds _).Guarded (fun timed round => round.Delivers timed.1) (keptAlive, [])
      idleRounds := by
    refine ⟨fun _ _ available => absurd available (by decide +kernel), fun t first => ?_⟩
    cases some.inj first
    refine ⟨fun _ _ available => absurd available (by decide +kernel), fun t second => ?_⟩
    cases some.inj second
    exact ⟨fun _ _ available => absurd available (by decide +kernel), fun _ _ => trivial⟩
  refine ⟨_, _, rfl, ?_⟩
  exact keepAlive_guarantee keptAlive_reached (by decide) (by decide) rfl
    (fun late => by cases late)
    delivers rfl rfl

def samplingRounds : List (Round Externals.integers) :=
  servedRound [.insert 1 (integerItem 1 .sampling 2)] ::
    [servedRound [.notifyDataValue 1 (integerValue 7 100) 100],
      servedRound [.notifyDataValue 1 (integerValue 8 200) 200]]

/-- **Without the condition the subscription can stay silent.** -/
theorem sampling_item_silences :
    ¬ ∀ (E : Externals) (s t : Subscription E) (sent : List (NotificationMessage E))
      (served : List (Round E)), (lifecycle E).Reachable Fresh s →
      s.state ≠ .creating → s.state ≠ .closed → s.notifications = [] →
      served.length = s.maxKeepAliveCounter + 2 →
      (rounds E).run (s, []) served = some (t, sent) → sent ≠ [] := by
  intro always
  have silent : ∃ t, (rounds _).run (keptAlive, []) samplingRounds = some (t, []) := ⟨_, rfl⟩
  obtain ⟨t, ran⟩ := silent
  exact always _ keptAlive t [] samplingRounds keptAlive_reached (by decide) (by decide) rfl rfl
    ran rfl

end Subscription

end AsyncOpcua.Subscriptions
