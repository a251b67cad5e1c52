/-
**Expiry: which subscriptions the publishing timer closes, and how early.**

An unanswered tick is a tick of the publishing timer whose interval has passed and that finds no
publish request queued.

* `unansweredRow_eq` — the row an unanswered tick takes, by state. A normal subscription with
  messages left over and nothing newly available takes none: it is `Starved`;
* `expiry_iff_not_starved` — the timer closes exactly the subscriptions that are not starved.
-/

import AsyncOpcua.Subscriptions.SubscriptionRuns

namespace AsyncOpcua.Subscriptions

open Types Foundation Or

variable {E : Externals}

namespace Subscription

/-! ### Unanswered ticks -/

def UnansweredTick (s : Subscription E) : SubscriptionOp E → Prop
  | .tick _ nowInstant .tickTimerFired false _ => s.Elapsed nowInstant
  | _ => False

/-- **Starved:** normal, past its first message, with messages waiting and nothing newly available.
No row of the table counts such a subscription down. -/
structure Starved (s : Subscription E) : Prop where
  normal : s.state = .normal
  first : s.firstMessageSent = true
  enabled : s.publishingEnabled = true
  waiting : s.moreNotifications = true
  nothingNew : s.notificationsAvailable s.resendData = false

instance (s : Subscription E) : Decidable s.Starved :=
  decidable_of_iff (s.state = .normal ∧ s.firstMessageSent = true ∧ s.publishingEnabled = true ∧
    s.moreNotifications = true ∧ s.notificationsAvailable s.resendData = false)
    ⟨fun ⟨a, b, c, d, e⟩ => ⟨a, b, c, d, e⟩, fun ⟨a, b, c, d, e⟩ => ⟨a, b, c, d, e⟩⟩

def unansweredRow (s : Subscription E) : HandledState :=
  match s.state with
  | .creating => .create3
  | .normal =>
    if s.Starved then .none0
    else if !s.firstMessageSent || s.publishingEnabled && s.notificationsAvailable s.resendData then
      .intervalElapsed8
    else .intervalElapsed9
  | .late => if 1 < s.lifetimeCounter then .late12 else .closed27
  | .keepAlive =>
    if 1 < s.keepAliveCounter ∧
        ¬ (s.publishingEnabled = true ∧ s.notificationsAvailable s.resendData = true) then
      .keepAlive16
    else .keepAlive17
  | .closed => .none0

variable {s : Subscription E}

theorem unansweredRow_eq (counted : s.Counted) : s.row .tickTimerFired false = s.unansweredRow := by
  have positive := counted.keepAlive_pos
  have enough := counted.maxLifetime_enough
  have atLeast := counted.maxKeepAlive_pos
  unfold row getStateTransition unansweredRow stateParams
  cases state : s.state with
  | creating | closed => rfl
  | late =>
    simp only
    split_ifs <;> first | rfl | omega
  | normal =>
    have fresh := counted.lifetime_fresh (inr state)
    have alive : ¬ s.lifetimeCounter ≤ 1 := by omega
    have starved : s.Starved ↔ s.firstMessageSent = true ∧ s.publishingEnabled = true ∧
        s.moreNotifications = true ∧ s.notificationsAvailable s.resendData = false :=
      ⟨fun h => ⟨h.first, h.enabled, h.waiting, h.nothingNew⟩,
        fun ⟨a, b, c, d⟩ => ⟨state, a, b, c, d⟩⟩
    simp only [starved, alive]
    cases s.firstMessageSent <;> cases s.publishingEnabled <;> cases s.moreNotifications <;>
      cases s.notificationsAvailable s.resendData <;> rfl
  | keepAlive =>
    cases s.publishingEnabled <;> cases s.notificationsAvailable s.resendData <;>
      by_cases more : 1 < s.keepAliveCounter <;>
      simp [more] <;> omega

structure Unanswered (s t : Subscription E) : Prop where
  control : t.control = (s.handleStateTransition s.unansweredRow).2.control
  untouched : s.unansweredRow = .none0 → t = s.restart (t.lastTimePublishingIntervalElapsed)
    .tickTimerFired

/-- **An unanswered tick returns,** and does what its row says. -/
theorem unanswered_step (counted : s.Counted) {op : SubscriptionOp E}
    (unanswered : s.UnansweredTick op) :
    ∃ t, (lifecycle E).step s op = some t ∧ s.Unanswered t := by
  cases op with
  | tick now nowInstant tickReason queued visit =>
    cases tickReason with
    | receivePublishRequest | notificationAvailable => exact unanswered.elim
    | tickTimerFired =>
      cases queued with
      | true => exact unanswered.elim
      | false =>
        have ticked := tick_of_elapsed unanswered now false visit
        have rowEq := unansweredRow_eq counted
        have returns : ∃ result t, s.applyRow now nowInstant .tickTimerFired false visit =
            some (result, t) := by
          unfold applyRow
          rw [rowEq]
          unfold unansweredRow
          split <;> (try split_ifs) <;> exact ⟨_, _, rfl⟩
        obtain ⟨result, t, applied⟩ := returns
        refine ⟨t, ?_, ?_, ?_⟩
        · show (s.tick now nowInstant .tickTimerFired false visit).map (·.2) = some t
          rw [ticked, applied]
          rfl
        · rw [applyRow_control applied, rowEq]
        · intro noRow
          unfold applyRow at applied
          rw [rowEq, noRow] at applied
          cases applied
          unfold restart
          split_ifs <;> rfl
  | _ => exact unanswered.elim

variable {t : Subscription E}

theorem unanswered_of_step (counted : s.Counted) {op : SubscriptionOp E}
    (unanswered : s.UnansweredTick op) (stepped : (lifecycle E).step s op = some t) :
    s.Unanswered t := by
  obtain ⟨u, same, left⟩ := unanswered_step counted unanswered
  rw [stepped, Option.some.injEq] at same
  exact same ▸ left

theorem Starved.unanswered (starved : s.Starved) (left : s.Unanswered t) :
    t.Starved ∧ t.control = s.control := by
  have noRow : s.unansweredRow = .none0 := by
    unfold unansweredRow
    rw [starved.normal]
    exact if_pos starved
  have same := left.untouched noRow
  constructor
  · rw [same]
    unfold restart
    split_ifs
    · exact ⟨starved.normal, starved.first, starved.enabled, starved.waiting, starved.nothingNew⟩
    · exact starved
  · rw [left.control, noRow]
    rfl

/-! ### The ticks that remain -/

/-- An upper bound on the unanswered ticks until the subscription is closed. -/
def Remaining (s : Subscription E) : ℕ :=
  match s.state with
  | .closed => 0
  | .late => max s.lifetimeCounter 1
  | .keepAlive => max s.lifetimeCounter (s.keepAliveCounter + 1)
  | .normal => max (s.lifetimeCounter - 1) (s.maxKeepAliveCounter + 1) + 1
  | .creating => max (s.lifetimeCounter - 1) (s.maxKeepAliveCounter + 1) + 2

theorem remaining_congr (same : t.control = s.control) : t.Remaining = s.Remaining := by
  simp only [control, Control.mk.injEq] at same
  unfold Remaining
  simp [same]

theorem Counted.remaining_le (counted : s.Counted) :
    s.Remaining ≤ s.maxLifetimeCounter + s.maxKeepAliveCounter := by
  obtain ⟨maxKeepAlive_pos, maxLifetime_enough, keepAlive_pos, keepAlive_le, lifetime_le, -⟩ :=
    counted
  unfold Remaining
  split <;> omega

/-- **An unanswered tick closes the subscription or leaves fewer to go,** unless it is starved. -/
theorem unanswered_lowers (counted : s.Counted) (fed : ¬ s.Starved) (left : s.Unanswered t) :
    ¬ t.Starved ∧ (t.state = .closed ∨ t.Remaining < s.Remaining) := by
  have positive := counted.keepAlive_pos
  have below := remaining_congr left.control
  have state : t.state = (s.handleStateTransition s.unansweredRow).2.state :=
    congrArg Control.state left.control
  have first : t.firstMessageSent = (s.handleStateTransition s.unansweredRow).2.firstMessageSent :=
    congrArg Control.firstMessageSent left.control
  -- Only a tick that leaves the subscription normal could leave it starved, and then no message has
  -- been sent yet.
  have fedAfter : t.state ≠ .normal ∨ t.firstMessageSent = false → ¬ t.Starved := by
    rintro (moved | unsent) starving
    · exact moved starving.normal
    · exact Bool.false_ne_true (unsent.symm.trans starving.first)
  unfold unansweredRow at below state first
  cases before : s.state with
  | closed =>
    simp only [before] at state
    exact ⟨fedAfter (inl (by rw [state]; simp [handleStateTransition, before])),
      inl (by rw [state]; exact before)⟩
  | creating =>
    simp only [before] at below first
    refine ⟨fedAfter (inr first), inr ?_⟩
    rw [below]
    simp only [handleStateTransition, Remaining, before]
    omega
  | normal =>
    simp only [before, fed, if_false] at below state
    split_ifs at below state
    all_goals
      refine ⟨fedAfter (inl (by rw [state]; simp [handleStateTransition])), inr ?_⟩
      rw [below]
      simp only [handleStateTransition, startPublishingTimer, resetKeepAliveCounter, Remaining,
        before]
      omega
  | late =>
    simp only [before] at below state
    split_ifs at below state with more
    · refine ⟨fedAfter (inl (by rw [state]; simp [handleStateTransition])), inr ?_⟩
      rw [below]
      simp only [handleStateTransition, startPublishingTimer, Remaining, before]
      omega
    · exact ⟨fedAfter (inl (by rw [state]; simp [handleStateTransition])), inl state⟩
  | keepAlive =>
    split_ifs at below state
    all_goals
      refine ⟨fedAfter (inl (by
        rw [state]
        simp [handleStateTransition, startPublishingTimer, before])), inr ?_⟩
      rw [below]
      simp only [handleStateTransition, startPublishingTimer, Remaining, before]
      omega

/-! ### The counting of one tick and of a run -/

/-- **One unanswered tick counts down** exactly where the subscription is not starved and, when it
is keeping alive, its lifetime is not already used up. -/
theorem unanswered_counts_iff (counted : s.Counted) (created : s.state ≠ .creating)
    (running : s.state ≠ .closed) (left : s.Unanswered t) :
    (t.state = .closed ∨ t.lifetimeCounter < s.lifetimeCounter) ↔
      ¬ s.Starved ∧ (s.state = .keepAlive → 0 < s.lifetimeCounter) := by
  have enough := counted.maxLifetime_enough
  have atLeast := counted.maxKeepAlive_pos
  have state : t.state = (s.handleStateTransition s.unansweredRow).2.state :=
    congrArg Control.state left.control
  have lifetime : t.lifetimeCounter = (s.handleStateTransition s.unansweredRow).2.lifetimeCounter :=
    congrArg Control.lifetimeCounter left.control
  unfold unansweredRow at state lifetime
  cases before : s.state with
  | closed => exact absurd before running
  | creating => exact absurd before created
  | normal =>
    have fresh := counted.lifetime_fresh (inr before)
    simp only [before] at state lifetime
    split_ifs at state lifetime with starved late
    · simp [state, lifetime, starved, handleStateTransition, before]
    · simp only [lifetime, starved, handleStateTransition, startPublishingTimer]
      simp
      omega
    · simp only [lifetime, starved, handleStateTransition, startPublishingTimer,
        resetKeepAliveCounter]
      simp
      omega
  | late =>
    have fed : ¬ s.Starved := fun starved => by
      rw [starved.normal] at before
      cases before
    simp only [before] at state lifetime
    split_ifs at state lifetime with more
    · simp only [lifetime, handleStateTransition, startPublishingTimer]
      simp [fed]
      omega
    · simp [state, handleStateTransition, fed]
  | keepAlive =>
    have fed : ¬ s.Starved := fun starved => by
      rw [starved.normal] at before
      cases before
    simp only [before] at state lifetime
    split_ifs at state lifetime with more
    · simp [state, lifetime, handleStateTransition, startPublishingTimer, fed, before] <;> omega
    · simp [state, lifetime, handleStateTransition, startPublishingTimer, fed] <;> omega

variable {ops : List (SubscriptionOp E)}

theorem closed_of_unanswered_run (counted : s.Counted) (fed : ¬ s.Starved)
    (unanswered : (lifecycle E).Guarded UnansweredTick s ops) (enough : s.Remaining ≤ ops.length)
    (ran : (lifecycle E).run s ops = some t) : t.state = .closed := by
  refine (lifecycle E).run_reaches_of_measure (fun s => s.Counted ∧ ¬ s.Starved)
    (fun s => s.state = .closed) Remaining ?_ ?_ ?_ ⟨counted, fed⟩ unanswered enough ran
  · rintro s ⟨counted, -⟩ none
    unfold Remaining at none
    split at none <;> first | assumption | omega
  · rintro s op t ⟨counted, fed⟩ - meets stepped
    obtain ⟨fedAfter, lower⟩ :=
      unanswered_lowers counted fed (unanswered_of_step counted meets stepped)
    exact ⟨⟨counted.step stepped, fedAfter⟩, lower⟩
  · rintro s op t ⟨counted, fed⟩ closed meets stepped
    have left := unanswered_of_step counted meets stepped
    refine ⟨⟨counted.step stepped, (unanswered_lowers counted fed left).1⟩, ?_⟩
    have state : t.state = (s.handleStateTransition s.unansweredRow).2.state :=
      congrArg Control.state left.control
    rw [state]
    unfold unansweredRow
    rw [closed]
    exact closed

theorem starved_of_unanswered_run (counted : s.Counted) (starved : s.Starved)
    (unanswered : (lifecycle E).Guarded UnansweredTick s ops)
    (ran : (lifecycle E).run s ops = some t) : t.Starved :=
  ((lifecycle E).run_stays Counted Starved
    (fun _ _ _ counted starved meets stepped =>
      ⟨counted.step stepped,
        (starved.unanswered (unanswered_of_step counted meets stepped)).1⟩)
    counted starved unanswered ran).2

theorem unanswered_run_returns (counted : s.Counted)
    (unanswered : (lifecycle E).Guarded UnansweredTick s ops) :
    ∃ t, (lifecycle E).run s ops = some t := by
  induction ops generalizing s with
  | nil => exact ⟨s, rfl⟩
  | cons op ops ih =>
    obtain ⟨u, stepped, -⟩ := unanswered_step counted unanswered.1
    obtain ⟨t, ran⟩ := ih (counted.step stepped) (unanswered.2 u stepped)
    exact ⟨t, (lifecycle E).run_cons_eq_some.mpr ⟨u, stepped, ran⟩⟩

/-- **The timer counts down, and in time closes, exactly the subscriptions that are not starved.**
For one tick the lifetime of a subscription that is keeping alive must not be used up already. -/
theorem expiry_iff_not_starved {s : Subscription E} (reached : (lifecycle E).Reachable Fresh s) :
    (∀ op, s.state ≠ .creating → s.state ≠ .closed → s.UnansweredTick op →
      ∃ t, (lifecycle E).step s op = some t ∧
        ((t.state = .closed ∨ t.lifetimeCounter < s.lifetimeCounter) ↔
          ¬ s.Starved ∧ (s.state = .keepAlive → 0 < s.lifetimeCounter))) ∧
    ∀ ops, (lifecycle E).Guarded UnansweredTick s ops →
      s.maxLifetimeCounter + s.maxKeepAliveCounter ≤ ops.length →
      ∃ t, (lifecycle E).run s ops = some t ∧ (t.state = .closed ↔ ¬ s.Starved) := by
  have counted := counted_of_reachable reached
  constructor
  · intro op created running unanswered
    obtain ⟨t, stepped, left⟩ := unanswered_step counted unanswered
    exact ⟨t, stepped, unanswered_counts_iff counted created running left⟩
  · intro ops unanswered enough
    obtain ⟨t, ran⟩ := unanswered_run_returns counted unanswered
    refine ⟨t, ran, ?_⟩
    constructor
    · intro closed starved
      have still := starved_of_unanswered_run counted starved unanswered ran
      rw [still.normal] at closed
      cases closed
    · intro fed
      exact closed_of_unanswered_run counted fed unanswered
        (le_trans counted.remaining_le enough) ran

/-- A fresh subscription that expires after three ticks and sends one value in a message. -/
def shortLived : Subscription Externals.integers :=
  integerSubscription threeCounts 1

/-- An unserved tick of a timer without an interval. -/
def ticksAtOnce (s : Subscription E) : SubscriptionOp E → Bool
  | .tick _ _ .tickTimerFired false _ => s.publishingInterval = 0
  | _ => false

theorem unansweredTick_of_ticksAtOnce {op : SubscriptionOp E} (atOnce : ticksAtOnce s op = true) :
    s.UnansweredTick op := by
  unfold ticksAtOnce at atOnce
  split at atOnce
  · have none : s.publishingInterval = 0 := of_decide_eq_true atOnce
    exact inr (none ▸ Nat.zero_le _)
  · cases atOnce

/-- After its first tick it is counted down by the next one, and closed in time. -/
theorem expiry_iff_not_starved_shortLived :
    ∃ s t u, (lifecycle _).run shortLived [timerTick false] = some s ∧ s.state = .normal ∧
      (lifecycle _).step s (timerTick false) = some t ∧
      (t.state = .closed ∨ t.lifetimeCounter < s.lifetimeCounter) ∧
      (lifecycle _).run s (List.replicate 4 (timerTick false)) = some u ∧ u.state = .closed := by
  obtain ⟨s, ran, normal, enough, fed, atOnce⟩ : ∃ s, (lifecycle _).run shortLived
      [timerTick false] = some s ∧ s.state = .normal ∧
      s.maxLifetimeCounter + s.maxKeepAliveCounter = 4 ∧ ¬ s.Starved ∧
      (lifecycle _).checks ticksAtOnce s (List.replicate 4 (timerTick false)) = true :=
    ⟨_, rfl, rfl, rfl, by decide +kernel, rfl⟩
  have unanswered : (lifecycle _).Guarded UnansweredTick s (List.replicate 4 (timerTick false)) :=
    Machine.guarded_of_checks _ (fun _ _ => unansweredTick_of_ticksAtOnce) atOnce
  obtain ⟨counts, closes⟩ := expiry_iff_not_starved ⟨_, _, fresh_integerSubscription _ _, ran⟩
  obtain ⟨t, stepped, counted⟩ := counts (timerTick false) (by rw [normal]; decide)
    (by rw [normal]; decide) unanswered.1
  obtain ⟨u, ran', closed⟩ := closes _ unanswered (by rw [enough, List.length_replicate])
  refine ⟨s, t, u, ran, normal, stepped, counted.mpr ⟨fed, fun alive => ?_⟩, ran', closed.mpr fed⟩
  rw [normal] at alive
  cases alive

/-- Two values go out in messages of one value each, and one message is taken. -/
def oneOfTwoTaken : List (SubscriptionOp Externals.integers) :=
  [timerTick false, .item (.insert 1 (integerItem 1 .reporting 2)),
    .item (.notifyDataValue 1 (integerValue 7 100) 100), timerTick true, .takeNotification]

theorem oneOfTwoTaken_starves :
    ∃ s, (lifecycle _).run shortLived oneOfTwoTaken = some s ∧ s.Starved := by
  refine ⟨_, rfl, ?_⟩
  decide +kernel

/-- **Not every unanswered tick counts down:** the message left over stops the counting. -/
theorem unanswered_tick_need_not_count :
    ¬ ∀ (E : Externals) (s : Subscription E), (lifecycle E).Reachable Fresh s →
      s.state ≠ .creating → s.state ≠ .closed → ∀ op t, s.UnansweredTick op →
      (lifecycle E).step s op = some t →
      t.state = .closed ∨ t.lifetimeCounter < s.lifetimeCounter := by
  intro always
  obtain ⟨s, ran, starved⟩ := oneOfTwoTaken_starves
  have reached : (lifecycle _).Reachable Fresh s := ⟨_, _, fresh_integerSubscription _ _, ran⟩
  have elapsed : s.UnansweredTick (.tick 0
      (s.lastTimePublishingIntervalElapsed + s.publishingInterval) .tickTimerFired false .upward) :=
    inr (by omega)
  obtain ⟨t, stepped, left⟩ := unanswered_step (counted_of_reachable reached) elapsed
  have same := (starved.unanswered left).2
  obtain closed | lower := always _ s reached (by rw [starved.normal]; decide)
    (by rw [starved.normal]; decide) _ t elapsed stepped
  · have normal : t.state = s.state := congrArg Control.state same
    rw [closed, starved.normal] at normal
    cases normal
  · have kept : t.lifetimeCounter = s.lifetimeCounter := congrArg Control.lifetimeCounter same
    omega

end Subscription

end AsyncOpcua.Subscriptions
