/-
**How early the publishing timer can close a subscription.**

The documented meaning of the lifetime counter is the number of timer ticks without client
activity. A served tick is an elapsed tick of the timer that finds a publish request queued.

* `closed_not_early` — in a run whose served ticks all meet the condition, a subscription is closed
  no earlier than `maxLifetimeCounter - 1` elapsed ticks after the last served one.
-/

import AsyncOpcua.Subscriptions.SubscriptionRuns

namespace AsyncOpcua.Subscriptions

open Types Foundation HandledState

variable {E : Externals}

def ticksSinceServed (since : ℕ) (s : Subscription E) (op : SubscriptionOp E)
    (_ : Subscription E) : ℕ :=
  match op with
  | .tick _ nowInstant .tickTimerFired queued _ =>
    if s.Elapsed nowInstant then if queued then 0 else since + 1 else since
  | _ => since

def timedLifecycle (E : Externals) : Machine (Subscription E × ℕ) (SubscriptionOp E) :=
  (lifecycle E).observed ticksSinceServed

def SubscriptionOp.IsTimerTick : SubscriptionOp E → Prop
  | .tick _ _ .tickTimerFired _ _ => True
  | _ => False

namespace Subscription

/-- **A served tick here leaves the lifetime full or one short of it.** -/
def KeepsLifetime (s : Subscription E) : Prop :=
  s.lifetimeCounter = s.maxLifetimeCounter ∨
  s.state = .creating ∨ s.state = .closed ∨
  (s.state = .normal ∨ s.state = .keepAlive) ∧
    s.publishingEnabled = true ∧ s.notificationsAvailable s.resendData = true ∨
  s.state = .normal ∧
    (s.firstMessageSent = false ∨ s.publishingEnabled = true ∧ s.moreNotifications = true)

/-- The condition on a run: its served ticks meet `KeepsLifetime`. -/
def ServedInFull (s : Subscription E) : SubscriptionOp E → Prop
  | .tick _ nowInstant .tickTimerFired true _ => s.Elapsed nowInstant → s.KeepsLifetime
  | _ => True

/-! ### What a row does to the lifetime -/

end Subscription

/-- The rows that reset the lifetime counter. -/
def HandledState.restores : HandledState → Bool
  | .normal5 | .intervalElapsed6 | .intervalElapsed7 | .late10 | .late11 | .keepAlive14 => true
  | _ => false

/-- The rows that start the publishing timer, which takes one count. -/
def HandledState.startsTimer : HandledState → Bool
  | .intervalElapsed6 | .intervalElapsed7 | .intervalElapsed8 | .intervalElapsed9 | .late12
  | .keepAlive14 | .keepAlive15 | .keepAlive16 | .keepAlive17 => true
  | _ => false

namespace Subscription

theorem handleStateTransition_lifetime (s : Subscription E) (transition : HandledState) :
    (s.handleStateTransition transition).2.lifetimeCounter =
      (if transition.restores then s.maxLifetimeCounter else s.lifetimeCounter) -
        if transition.startsTimer then 1 else 0 := by
  cases transition <;> rfl

theorem handleStateTransition_maxLifetime (s : Subscription E) (transition : HandledState) :
    (s.handleStateTransition transition).2.maxLifetimeCounter = s.maxLifetimeCounter := by
  cases transition <;> rfl

theorem row_timed {s : Subscription E} {tickReason : TickReason} {queued : Bool}
    (counts : ((s.row tickReason queued).startsTimer && !(s.row tickReason queued).restores) =
      true) :
    tickReason = .tickTimerFired := by
  unfold row getStateTransition at counts
  dsimp only at counts
  split at counts <;> (try split_ifs at counts) <;> first | rfl | cases counts

variable {s : Subscription E}

theorem served_keeps_iff (counted : s.Counted) (running : s.state ≠ .closed) :
    s.maxLifetimeCounter ≤
        (s.handleStateTransition (s.row .tickTimerFired true)).2.lifetimeCounter + 1 ↔
      s.KeepsLifetime := by
  obtain ⟨atLeast, enough, positive, -, within, fresh⟩ := counted
  rw [handleStateTransition_lifetime]
  unfold KeepsLifetime row getStateTransition stateParams
  cases state : s.state with
  | closed => exact absurd state running
  | creating =>
    simp [restores, startsTimer]
    exact fresh (Or.inl state)
  | normal =>
    have fresh := fresh (Or.inr state)
    have alive : ¬ s.lifetimeCounter ≤ 1 := by omega
    cases s.firstMessageSent <;> cases s.publishingEnabled <;> cases s.moreNotifications <;>
      cases s.notificationsAvailable s.resendData <;>
      simp [restores, startsTimer, alive] <;> omega
  | late =>
    by_cases more : 1 < s.lifetimeCounter
    · simp [restores, startsTimer, more]
      omega
    · have used : s.lifetimeCounter ≤ 1 := by omega
      simp [restores, startsTimer, more, used]
      omega
  | keepAlive =>
    by_cases last : s.keepAliveCounter = 1
    · cases s.publishingEnabled <;> cases s.notificationsAvailable s.resendData <;>
        simp [restores, startsTimer, last] <;> omega
    · have more : 1 < s.keepAliveCounter := by omega
      cases s.publishingEnabled <;> cases s.notificationsAvailable s.resendData <;>
        simp [restores, startsTimer, last, more] <;> omega

/-! ### Runs -/

/-- **What a run keeps:** the counters, and a lifetime that the elapsed ticks account for. -/
structure Accounted (timed : Subscription E × ℕ) : Prop where
  counted : timed.1.Counted
  lifetime : timed.1.state = .closed ∨
    timed.1.maxLifetimeCounter ≤ timed.1.lifetimeCounter + timed.2 + 1

theorem Accounted.congr {t : Subscription E} {since : ℕ} (accounted : Accounted (s, since))
    (same : t.control = s.control) : Accounted (t, since) := by
  refine ⟨accounted.counted.congr same, ?_⟩
  have state : t.state = s.state := congrArg Control.state same
  have maximum : t.maxLifetimeCounter = s.maxLifetimeCounter :=
    congrArg Control.maxLifetimeCounter same
  have lifetime : t.lifetimeCounter = s.lifetimeCounter := congrArg Control.lifetimeCounter same
  simp only [state, maximum, lifetime]
  exact accounted.lifetime

theorem Accounted.of_full (counted : s.Counted) (full : s.lifetimeCounter = s.maxLifetimeCounter)
    (since : ℕ) : Accounted (s, since) :=
  ⟨counted, Or.inr (by simp only [full]; omega)⟩

/-- **A row keeps the account:** outside the timer nothing is taken, and an elapsed tick adds to
the count what it takes, or starts it again under the condition. -/
theorem Accounted.applyRow {since : ℕ} (accounted : Accounted (s, since))
    (tickReason : TickReason) (queued : Bool)
    (kept : tickReason = .tickTimerFired → queued = true → s.KeepsLifetime) :
    Accounted ((s.handleStateTransition (s.row tickReason queued)).2,
      if tickReason = .tickTimerFired then if queued then 0 else since + 1 else since) := by
  refine ⟨accounted.counted.handleStateTransition tickReason queued, ?_⟩
  by_cases closed : s.state = .closed
  · left
    simp [row, getStateTransition, closed, handleStateTransition]
  have owed := accounted.lifetime.resolve_left closed
  right
  rw [handleStateTransition_maxLifetime]
  by_cases timer : tickReason = .tickTimerFired
  · subst timer
    cases queued with
    | true =>
      have full := (served_keeps_iff accounted.counted closed).mpr (kept rfl rfl)
      simp only [if_true]
      omega
    | false =>
      rw [handleStateTransition_lifetime]
      simp only [if_true, Bool.false_eq_true, if_false] at owed ⊢
      split_ifs <;> omega
  · rw [if_neg timer, handleStateTransition_lifetime]
    have untimed := mt (@row_timed E s tickReason queued) timer
    simp only [Bool.and_eq_true, Bool.not_eq_true', not_and, Bool.not_eq_false] at untimed
    split_ifs with restores counts counts <;> first | omega | exact absurd (untimed counts) restores

theorem Accounted.step {timed timed' : Subscription E × ℕ} (accounted : Accounted timed)
    {op : SubscriptionOp E} (served : timed.1.ServedInFull op)
    (stepped : (timedLifecycle E).step timed op = some timed') : Accounted timed' := by
  obtain ⟨s, since⟩ := timed
  obtain ⟨t, since'⟩ := timed'
  obtain ⟨stepped, noted⟩ := Machine.observed_step_eq_some.mp stepped
  simp only at stepped noted served
  have counted := accounted.counted.step stepped
  cases op with
  | item op =>
    cases stepped
    subst noted
    exact accounted.congr (op.apply_control s)
  | setResendData =>
    cases stepped
    subst noted
    exact accounted.congr rfl
  | setPublishingMode | republish | modify =>
    cases stepped
    exact Accounted.of_full counted rfl _
  | takeNotification =>
    cases stepped
    subst noted
    refine accounted.congr ?_
    unfold takeNotification
    split <;> rfl
  | tick now nowInstant tickReason queued visit =>
    obtain ⟨⟨result, u⟩, ticked, rfl⟩ := Option.map_eq_some_iff.mp stepped
    rw [tick_eq] at ticked
    split_ifs at ticked with idle
    · cases ticked
      obtain ⟨rfl, early⟩ := idle
      rw [noted, ticksSinceServed, if_neg early]
      exact accounted
    · have kept : tickReason = .tickTimerFired → queued = true → s.KeepsLifetime := by
        rintro rfl rfl
        exact served (not_not.mp fun early => idle ⟨rfl, early⟩)
      have after := (accounted.applyRow tickReason queued kept).congr (applyRow_control ticked)
      rw [noted]
      cases tickReason with
      | receivePublishRequest | notificationAvailable => exact after
      | tickTimerFired =>
        have elapsed : s.Elapsed nowInstant := not_not.mp fun early => idle ⟨rfl, early⟩
        rw [ticksSinceServed, if_pos elapsed]
        exact after

/-- **Not closed early.** In a run whose served ticks all meet the condition, a tick of the timer
that closes the subscription is at least the `maxLifetimeCounter - 1`-th elapsed tick since the last
served one. -/
theorem closed_not_early {init s t : Subscription E} {since since' : ℕ}
    {ops : List (SubscriptionOp E)} {op : SubscriptionOp E} (fresh : Fresh init)
    (served : (timedLifecycle E).Guarded (fun timed op => timed.1.ServedInFull op) (init, 0)
      (ops ++ [op]))
    (ran : (timedLifecycle E).run (init, 0) ops = some (s, since)) (timer : op.IsTimerTick)
    (running : s.state ≠ .closed)
    (stepped : (timedLifecycle E).step (s, since) op = some (t, since'))
    (closed : t.state = .closed) : s.maxLifetimeCounter - 1 ≤ since' := by
  have initially : Accounted (init, 0) := by
    obtain ⟨id, publishingEnabled, publishingInterval, counts, priority, maxQueued, maxPerPublish,
      now, rfl⟩ := fresh
    exact Accounted.of_full (counted_of_fresh ⟨_, _, _, _, _, _, _, _, rfl⟩) rfl 0
  have accounted : Accounted (s, since) :=
    (timedLifecycle E).run_invariant_of_guarded (fun _ _ _ holds meets => holds.step meets)
      initially served.left ran
  have meets : s.ServedInFull op := (served.right _ ran).1
  obtain ⟨stepped, noted⟩ := Machine.observed_step_eq_some.mp stepped
  cases op with
  | item | setResendData | setPublishingMode | republish | modify | takeNotification =>
    exact timer.elim
  | tick now nowInstant tickReason queued visit =>
    cases tickReason with
    | receivePublishRequest | notificationAvailable => exact timer.elim
    | tickTimerFired =>
      obtain ⟨⟨result, u⟩, ticked, rfl⟩ := Option.map_eq_some_iff.mp stepped
      rw [tick_eq] at ticked
      split_ifs at ticked with idle
      · cases ticked
        exact absurd closed running
      have elapsed : s.Elapsed nowInstant := not_not.mp fun early => idle ⟨rfl, early⟩
      have state := congrArg Control.state (applyRow_control ticked)
      obtain ⟨row, used⟩ := closes_row running (state.symm.trans closed)
      have owed := accounted.lifetime.resolve_left running
      have enough : 3 * s.maxKeepAliveCounter ≤ s.maxLifetimeCounter :=
        accounted.counted.maxLifetime_enough
      have atLeast : 1 ≤ s.maxKeepAliveCounter := accounted.counted.maxKeepAlive_pos
      simp only [ticksSinceServed, if_pos elapsed] at noted owed
      cases queued with
      | false =>
        simp only [Bool.false_eq_true, if_false] at noted
        omega
      | true =>
        -- A served tick that closes would have kept a lifetime of two counts at least.
        have kept := (served_keeps_iff accounted.counted running).mpr (meets elapsed)
        rw [row] at kept
        simp only [handleStateTransition] at kept
        omega

end Subscription

/-! ### An idle subscription that loses its lifetime to keep-alives -/

def fourTicks : Subscription Externals.integers := integerSubscription fourCounts 0

/-- Served by the first message and by the first value of an item, then no longer. -/
def servedThenLeft : List (SubscriptionOp Externals.integers) :=
  [timerTick true, .takeNotification, .item (.insert 7 (integerItem 7 .reporting 1)),
    timerTick true,
    .takeNotification, timerTick false, timerTick false]

/-- The served ticks of `servedThenLeft` meet the condition, on the states that it goes through. -/
def keepsLifetime (s : Subscription E) : SubscriptionOp E → Bool
  | .tick _ _ .tickTimerFired true _ =>
    s.state = .creating ∨ s.state = .normal ∧ s.publishingEnabled = true ∧
      s.notificationsAvailable s.resendData = true
  | _ => true

theorem servedInFull_of_keepsLifetime {s : Subscription E} {op : SubscriptionOp E}
    (keeps : keepsLifetime s op = true) : s.ServedInFull op := by
  unfold Subscription.ServedInFull
  split
  · intro _
    rcases of_decide_eq_true keeps with creating | ⟨normal, available⟩
    · exact .inr (.inl creating)
    · exact .inr (.inr (.inr (.inl ⟨.inl normal, available⟩)))
  · trivial

theorem closed_not_early_served :
    ∃ s t, (timedLifecycle _).run (fourTicks, 0) servedThenLeft = some (s, 2) ∧
      (timedLifecycle _).step (s, 2) (timerTick false) = some (t, 3) ∧ t.state = .closed ∧
      s.maxLifetimeCounter = 4 ∧ s.maxLifetimeCounter - 1 ≤ 3 := by
  have served : (timedLifecycle _).Guarded (fun timed op => timed.1.ServedInFull op)
      (fourTicks, 0) (servedThenLeft ++ [timerTick false]) :=
    Machine.guarded_of_checks _ (fun _ _ => servedInFull_of_keepsLifetime) rfl
  exact ⟨_, _, rfl, rfl, rfl, rfl, Subscription.closed_not_early (fresh_integerSubscription _ _)
    served rfl trivial (by decide) rfl rfl⟩

/-- Keep-alives are asked for and sent until the lifetime is used up; then one tick goes without a
publish request. -/
def keptAlive : List (SubscriptionOp Externals.integers) :=
  [timerTick false, timerTick true, .takeNotification, timerTick true, timerTick true,
    .takeNotification, timerTick true, .takeNotification, timerTick false]

theorem keptAlive_late :
    ∃ s, (timedLifecycle _).run (fourTicks, 0) keptAlive = some (s, 1) ∧ s.state = .late ∧
      ∃ t, (timedLifecycle _).step (s, 1) (timerTick false) = some (t, 2) ∧ t.state = .closed ∧
        s.maxLifetimeCounter = 4 :=
  ⟨_, rfl, rfl, _, rfl, rfl, rfl⟩

/-- **A subscription can be closed early:** here at the second tick after a keep-alive was sent. -/
theorem closed_early :
    ¬ ∀ (E : Externals) (init s t : Subscription E) (since since' : ℕ)
      (ops : List (SubscriptionOp E)) (op : SubscriptionOp E), Fresh init →
      (timedLifecycle E).run (init, 0) ops = some (s, since) → op.IsTimerTick →
      s.state ≠ .closed → (timedLifecycle E).step (s, since) op = some (t, since') →
      t.state = .closed → s.maxLifetimeCounter - 1 ≤ since' := by
  intro always
  obtain ⟨s, ran, late, t, stepped, closed, maximum⟩ := keptAlive_late
  have early := always _ _ s t 1 2 keptAlive (timerTick false) (fresh_integerSubscription _ _) ran
    trivial (by rw [late]; decide) stepped closed
  rw [maximum] at early
  exact absurd early (by decide)

end AsyncOpcua.Subscriptions
