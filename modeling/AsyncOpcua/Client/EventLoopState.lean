/-
**The client's publish loop.**

The loop waits for three things at once: a trigger from outside, its timer, and the results of the
publishes in flight. Whatever is ready may come first. What the loop reads of the publish limits and
of the subscriptions when it wakes is part of the event.

* `Live` — the loop neither freezes nor spins;
* `live_iff_unharmed` — it never does exactly if no error ends the last publish while the loop
  believes that there are no subscriptions, and no trigger meets a back-off.
-/

import AsyncOpcua.Foundation.Transition
import AsyncOpcua.Types.DataValue

namespace AsyncOpcua.Client

open Foundation Bool Or
open Types hiding DataValue

/-- What the loop reads of `PublishLimits`. -/
structure PublishBounds where
  minPublishRequests : ℕ
  maxPublishRequests : ℕ

/-- An instant, counted by the triggers that were sent until then. -/
abbrev TriggerTime := ℕ

/-- **The state of the loop,** with the trigger channel. Each publish in flight is listed with the
last trigger that was sent before it. -/
structure SubscriptionEventLoopState where
  futures : List TriggerTime
  lastExternalTrigger : TriggerTime
  /-- The client has received `BadTooManyPublishRequests`, and waits for a response before it makes
  further requests. -/
  waitingForResponse : Bool
  /-- The client has received a `BadNoSubscription` response, and waits for a trigger or a
  successful response. -/
  noActiveSubscription : Bool
  /-- The last trigger in the channel. -/
  triggered : TriggerTime
  /-- The time of the next publish, as it was last read. -/
  nextPublish : Option ℕ

namespace SubscriptionEventLoopState

def new (nextPublish : Option ℕ) : SubscriptionEventLoopState where
  futures := []
  lastExternalTrigger := 0
  waitingForResponse := false
  noActiveSubscription := true
  triggered := 0
  nextPublish := nextPublish

variable (s : SubscriptionEventLoopState)

/-- `recv.wait_for` is ready: there is a trigger that the loop has not taken yet. -/
def Pending : Prop := s.lastExternalTrigger < s.triggered

instance (s : SubscriptionEventLoopState) : Decidable s.Pending :=
  inferInstanceAs (Decidable (_ < _))

def publish : SubscriptionEventLoopState :=
  { s with futures := s.futures ++ [s.triggered] }

/-- The first branch of the select. A trigger that meets a back-off is not taken. -/
def externalTick (next : Option ℕ) : SubscriptionEventLoopState :=
  let taken :=
    if s.waitingForResponse then s
    else { s.publish with nextPublish := next, lastExternalTrigger := s.triggered }
  { taken with noActiveSubscription := false }

/-- `wait_for_next_tick` waits for a response, and not for the timer. -/
def shouldWaitForResponse : Bool :=
  s.waitingForResponse && !s.futures.isEmpty

/-- The second branch. -/
def internalTick (limits : PublishBounds) (next : Option ℕ) : SubscriptionEventLoopState :=
  let sent :=
    if !s.noActiveSubscription && decide (s.futures.length < limits.maxPublishRequests) &&
        !s.waitingForResponse then s.publish
    else s
  { sent with nextPublish := next }

/-- The errors after which the session is given up. -/
def IsFatal (status : StatusCode) : Prop :=
  status = .BadSessionClosed ∨ status = .BadSessionIdInvalid

instance (status : StatusCode) : Decidable (IsFatal status) := inferInstanceAs (Decidable (_ ∨ _))

/-- The third branch, for a publish that succeeds. -/
def succeed (moreNotifications : Bool) (limits : PublishBounds) : SubscriptionEventLoopState :=
  let sent :=
    if (moreNotifications || decide (s.futures.length < limits.minPublishRequests)) &&
        !s.waitingForResponse then s.publish
    else s
  { sent with waitingForResponse := false, noActiveSubscription := false }

/-- The third branch, for a publish that fails. The latch of the back-off must not persist once
nothing is in flight; a fatal error returns before that. -/
def fail (status : StatusCode) : SubscriptionEventLoopState :=
  if IsFatal status then s
  else
    let latched :=
      if status = .BadTooManyPublishRequests then { s with waitingForResponse := true }
      else if status = .BadNoSubscription then { s with noActiveSubscription := true }
      else s
    if latched.futures.isEmpty then { latched with waitingForResponse := false } else latched

/-- A publish that is in flight completes, and the loop begins its next round. -/
def complete (index : ℕ) (result : Except StatusCode Bool)
    (limits : PublishBounds) (next : Option ℕ) : SubscriptionEventLoopState :=
  let rest := { s with futures := s.futures.eraseIdx index }
  let handled :=
    match result with
    | .ok moreNotifications => rest.succeed moreNotifications limits
    | .error status => rest.fail status
  { handled with nextPublish := next }

/-- What can happen next. -/
inductive LoopEvent
  /-- The session sends a trigger, as it does when a subscription is created. -/
  | trigger
  | externalTick (next : Option ℕ)
  | internalTick (limits : PublishBounds) (next : Option ℕ)
  | complete (index : ℕ) (result : Except StatusCode Bool) (limits : PublishBounds)
      (next : Option ℕ)

def Ready : LoopEvent → Prop
  | .trigger => True
  | .externalTick _ => s.Pending
  | .internalTick _ _ => s.shouldWaitForResponse = false ∧ s.nextPublish.isSome
  | .complete index _ _ _ => index < s.futures.length

instance (s : SubscriptionEventLoopState) : (event : LoopEvent) → Decidable (s.Ready event)
  | .trigger => inferInstanceAs (Decidable True)
  | .externalTick _ => inferInstanceAs (Decidable s.Pending)
  | .internalTick _ _ => inferInstanceAs (Decidable (_ ∧ _))
  | .complete _ _ _ _ => inferInstanceAs (Decidable (_ < _))

def apply : LoopEvent → SubscriptionEventLoopState
  | .trigger => { s with triggered := s.triggered + 1 }
  | .externalTick next => s.externalTick next
  | .internalTick limits next => s.internalTick limits next
  | .complete index result limits next => s.complete index result limits next

def machine : Machine SubscriptionEventLoopState LoopEvent where
  step s event := some (if s.Ready event then s.apply event else s)

/-! ### Neither frozen nor spinning -/

/-- A tick that neither sends nor completes a publish, nor is the timer. -/
def SilentTick (s t : SubscriptionEventLoopState) : Prop :=
  s.Pending ∧ (∃ next, t = s.externalTick next) ∧ t.futures = s.futures

/-- Ticks can go on for ever, with nothing sent and nothing completed. -/
def Spins : Prop :=
  ∃ states : ℕ → SubscriptionEventLoopState, states 0 = s ∧
    ∀ n, SilentTick (states n) (states (n + 1))

structure Live (s : SubscriptionEventLoopState) : Prop where
  /-- Since the last trigger something is in flight, or the next tick sends a publish: the tick of a
  trigger that is not taken yet, or the tick of the timer if a publish is allowed at all. -/
  flows : 0 < s.triggered → s.futures ≠ [] ∨
    (s.Pending ∧ ∀ next, (s.externalTick next).futures ≠ []) ∨
    ∀ limits next, 1 ≤ limits.maxPublishRequests → (s.internalTick limits next).futures ≠ []
  /-- The loop does not wait for a response when nothing is in flight. -/
  latched : s.waitingForResponse = true → s.futures ≠ []
  settles : ¬ s.Spins

theorem spins_iff : s.Spins ↔ s.waitingForResponse = true ∧ s.Pending := by
  constructor
  · rintro ⟨states, start, silent⟩
    obtain ⟨pending, ⟨next, ticked⟩, same⟩ := silent 0
    rw [start] at pending ticked same
    refine ⟨?_, pending⟩
    by_contra free
    rw [ticked] at same
    simp [externalTick, free, publish] at same
  · rintro ⟨waiting, pending⟩
    have once : ∀ n, s.externalTick none = (if n = 0 then s.externalTick none
        else (s.externalTick none).externalTick none) := by
      intro n
      split_ifs <;> simp [externalTick, waiting]
    refine ⟨fun n => if n = 0 then s else s.externalTick none, rfl, fun n => ?_⟩
    have pends : (s.externalTick none).Pending := by
      simpa only [Pending, externalTick, waiting, if_true] using pending
    have same : (s.externalTick none).futures = s.futures := by simp [externalTick, waiting]
    cases n with
    | zero => exact ⟨pending, ⟨none, rfl⟩, same⟩
    | succ n => exact ⟨pends, ⟨none, once (n + 1)⟩, rfl⟩

/-- **The loop is live,** in terms of its two latches. -/
theorem live_iff :
    s.Live ↔ (0 < s.triggered → s.futures = [] → s.Pending ∨ s.noActiveSubscription = false) ∧
      (s.waitingForResponse = true → s.futures ≠ [] ∧ ¬ s.Pending) := by
  constructor
  · rintro ⟨flows, latched, settles⟩
    have settled := fun waiting pending => settles (s.spins_iff.mpr ⟨waiting, pending⟩)
    refine ⟨fun began nothing => ?_, fun waiting => ⟨latched waiting, settled waiting⟩⟩
    rcases flows began with some | ⟨pending, -⟩ | sends
    · exact absurd nothing some
    · exact inl pending
    · refine inr ?_
      have sent := sends ⟨0, 1⟩ none (Nat.le_refl 1)
      by_contra inactive
      exact sent (by simp [internalTick, inactive, nothing])
  · rintro ⟨flows, latched⟩
    refine ⟨fun began => ?_, fun waiting => (latched waiting).1, fun spins => ?_⟩
    · by_cases nothing : s.futures = []
      · have free : s.waitingForResponse = false := by
          by_contra waiting
          exact (latched (not_eq_false _ ▸ waiting)).1 nothing
        rcases flows began nothing with pending | active
        · exact inr (inl ⟨pending, fun next => by simp [externalTick, free, publish]⟩)
        · refine inr (inr fun limits next room => ?_)
          have allowed : 0 < limits.maxPublishRequests := room
          simp [internalTick, active, nothing, free, allowed, publish]
      · exact inl nothing
    · obtain ⟨waiting, pending⟩ := s.spins_iff.mp spins
      exact (latched waiting).2 pending

/-- **What does no harm.** An error that ends the last publish in flight is not `BadNoSubscription`,
and comes when the loop does not believe that there are no subscriptions, unless a trigger is still
to be taken; a fatal error does not end it during a back-off. No trigger is sent during a back-off,
and no back-off begins while a trigger is still to be taken. -/
def Unharmed : LoopEvent → Prop
  | .trigger => s.waitingForResponse = false
  | .complete index (.error status) _ _ => index < s.futures.length →
    (s.futures.eraseIdx index = [] →
      (0 < s.triggered → s.Pending ∨
        (s.noActiveSubscription = false ∧ status ≠ .BadNoSubscription)) ∧
        (IsFatal status → s.waitingForResponse = false)) ∧
    (status = .BadTooManyPublishRequests → s.futures.eraseIdx index ≠ [] → ¬ s.Pending)
  | _ => True

def Ordered : Prop := s.lastExternalTrigger ≤ s.triggered

theorem ordered_step (event : LoopEvent)
    (t : SubscriptionEventLoopState) (ordered : s.Ordered)
    (stepped : machine.step s event = some t) : t.Ordered := by
  cases Option.some.inj stepped
  split_ifs with ready
  · unfold Ordered at *
    cases event with
    | trigger => exact Nat.le_succ_of_le ordered
    | externalTick next =>
      show (s.externalTick next).lastExternalTrigger ≤ (s.externalTick next).triggered
      unfold externalTick
      split_ifs
      · exact ordered
      · exact Nat.le_refl _
    | internalTick limits next =>
      show (s.internalTick limits next).lastExternalTrigger ≤ (s.internalTick limits next).triggered
      unfold internalTick
      split_ifs <;> exact ordered
    | complete index result limits next =>
      cases result with
      | ok moreNotifications =>
        simp only [apply, complete, succeed]
        split_ifs <;> exact ordered
      | error status =>
        simp only [apply, complete, fail]
        split_ifs <;> exact ordered
  · exact ordered

section Branches

variable {s : SubscriptionEventLoopState}

theorem live_trigger (ordered : s.Ordered) :
    ({ s with triggered := s.triggered + 1 } : SubscriptionEventLoopState).Live ↔
      s.waitingForResponse = false := by
  have pending : ({ s with triggered := s.triggered + 1 } : SubscriptionEventLoopState).Pending :=
    Nat.lt_succ_of_le ordered
  rw [live_iff]
  constructor
  · rintro ⟨-, latched⟩
    by_contra waiting
    exact (latched (not_eq_false _ ▸ waiting)).2 pending
  · intro free
    exact ⟨fun _ _ => inl pending, fun waiting => absurd waiting (by simp [free])⟩

theorem live_externalTick (pending : s.Pending) (live : s.Live) (next : Option ℕ) :
    (s.externalTick next).Live := by
  have free : s.waitingForResponse = false := by
    by_contra waiting
    exact ((live_iff s).mp live).2 (not_eq_false _ ▸ waiting) |>.2 pending
  rw [live_iff]
  exact ⟨fun _ nothing => by simp [externalTick, free, publish] at nothing,
    fun waiting => by simp [externalTick, free, publish] at waiting⟩

theorem live_internalTick (live : s.Live) (limits : PublishBounds) (next : Option ℕ) :
    (s.internalTick limits next).Live := by
  rw [live_iff] at live ⊢
  unfold internalTick
  split_ifs with sends
  · refine ⟨fun _ nothing => by simp [publish] at nothing, fun waiting => ?_⟩
    simp only [and_eq_true, not_eq_true'] at sends
    exact absurd waiting (by simp [publish, sends.2])
  · exact live

theorem live_succeed (moreNotifications : Bool) (limits : PublishBounds) (next : Option ℕ) :
    ({ s.succeed moreNotifications limits with nextPublish := next } :
      SubscriptionEventLoopState).Live := by
  rw [live_iff]
  exact ⟨fun _ _ => inr rfl, nofun⟩

theorem fail_frame (s : SubscriptionEventLoopState) (status : StatusCode) :
    (s.fail status).futures = s.futures ∧ (s.fail status).triggered = s.triggered ∧
      (s.fail status).lastExternalTrigger = s.lastExternalTrigger := by
  unfold fail
  dsimp only
  split_ifs <;> exact ⟨rfl, rfl, rfl⟩

variable {status : StatusCode}

theorem fail_fatal (fatal : IsFatal status) : s.fail status = s := by
  rw [fail, if_pos fatal]

theorem fail_noActiveSubscription (mild : ¬ IsFatal status) :
    (s.fail status).noActiveSubscription = true ↔
      status = .BadNoSubscription ∨ s.noActiveSubscription = true := by
  have known : StatusCode.BadTooManyPublishRequests ≠ .BadNoSubscription := by decide
  simp only [fail, if_neg mild]
  by_cases tooMany : status = .BadTooManyPublishRequests
  · simp
    split_ifs <;> simp [tooMany, known]
  · by_cases gone : status = .BadNoSubscription
    · simp
      split_ifs <;> simp [gone]
    · simp
      split_ifs <;> simp [gone]

theorem fail_waitingForResponse (mild : ¬ IsFatal status) :
    (s.fail status).waitingForResponse = true ↔ s.futures ≠ [] ∧
      (status = .BadTooManyPublishRequests ∨ s.waitingForResponse = true) := by
  simp only [fail, if_neg mild]
  by_cases tooMany : status = .BadTooManyPublishRequests
  · simp
    split_ifs with nothing <;> simp_all
  · by_cases gone : status = .BadNoSubscription
    · simp
      split_ifs with nothing <;> simp_all
    · simp
      split_ifs with nothing <;> simp_all

/-- **A publish that fails,** with what is left in flight. -/
theorem live_fail {rest : List TriggerTime} (live : s.Live) (status : StatusCode)
    (next : Option ℕ) :
    ({ ({ s with futures := rest } : SubscriptionEventLoopState).fail status with
        nextPublish := next } : SubscriptionEventLoopState).Live ↔
      (rest = [] →
        (0 < s.triggered →
          s.Pending ∨ (s.noActiveSubscription = false ∧ status ≠ .BadNoSubscription)) ∧
          (IsFatal status → s.waitingForResponse = false)) ∧
      (status = .BadTooManyPublishRequests → rest ≠ [] → ¬ s.Pending) := by
  have given : s.waitingForResponse = true → ¬ s.Pending :=
    fun waiting => (((live_iff s).mp live).2 waiting).2
  obtain ⟨futures, triggered, taken⟩ :=
    fail_frame ({ s with futures := rest } : SubscriptionEventLoopState) status
  by_cases fatal : IsFatal status
  · have known : status ≠ .BadNoSubscription ∧ status ≠ .BadTooManyPublishRequests := by
      rcases fatal with rfl | rfl <;> decide
    rw [fail_fatal fatal, live_iff]
    constructor
    · rintro ⟨flows, kept⟩
      refine ⟨fun nothing => ⟨fun began => ?_, fun _ => ?_⟩, fun same => absurd same known.2⟩
      · exact (flows began nothing).imp_right fun active => ⟨active, known.1⟩
      · by_contra waiting
        exact (kept (not_eq_false _ ▸ waiting)).1 nothing
    · rintro ⟨ended, -⟩
      refine ⟨fun began nothing => ((ended nothing).1 began).imp_right fun active => active.1,
        fun waiting => ⟨fun nothing => ?_, given waiting⟩⟩
      exact absurd waiting (by simp [(ended nothing).2 fatal])
  · have inactive := fail_noActiveSubscription (s := { s with futures := rest }) fatal
    have waits := fail_waitingForResponse (s := { s with futures := rest }) fatal
    rw [← not_eq_false] at inactive
    rw [live_iff]
    simp only [Pending, futures, triggered, taken, waits] at given ⊢
    constructor
    · rintro ⟨flows, kept⟩
      refine ⟨fun nothing => ⟨fun began => (flows began nothing).imp_right fun active => ?_,
        fun harsh => absurd harsh fatal⟩, fun tooMany some => (kept ⟨some, inl tooMany⟩).2⟩
      have neither := not_or.mp (fun one => inactive.mpr one active)
      exact ⟨eq_false_iff.mpr neither.2, neither.1⟩
    · rintro ⟨ended, backs⟩
      refine ⟨fun began nothing => ((ended nothing).1 began).imp_right fun active => ?_, ?_⟩
      · by_contra one
        rcases inactive.mp one with gone | before
        · exact active.2 gone
        · exact absurd before (by simp [active.1])
      · rintro ⟨some, tooMany | waiting⟩
        · exact ⟨some, backs tooMany some⟩
        · exact ⟨some, given waiting⟩

end Branches

theorem live_step (event : LoopEvent) {s : SubscriptionEventLoopState} (ordered : s.Ordered)
    (live : s.Live) (ready : s.Ready event) : (s.apply event).Live ↔ s.Unharmed event := by
  cases event with
  | trigger => exact live_trigger ordered
  | externalTick next => exact iff_of_true (live_externalTick ready live next) trivial
  | internalTick limits next => exact iff_of_true (live_internalTick live limits next) trivial
  | complete index result limits next =>
    cases result with
    | ok moreNotifications =>
      exact iff_of_true (live_succeed moreNotifications limits next) trivial
    | error status =>
      have inFlight : index < s.futures.length := ready
      exact (live_fail live status next).trans ⟨fun both _ => both, fun both => both inFlight⟩

theorem unharmed_of_not_ready {s : SubscriptionEventLoopState} {event : LoopEvent}
    (idle : ¬ s.Ready event) : s.Unharmed event := by
  cases event with
  | trigger => exact absurd trivial idle
  | externalTick | internalTick => trivial
  | complete index result limits next =>
    cases result with
    | ok moreNotifications => trivial
    | error status => exact fun inFlight => absurd inFlight idle

theorem live_new (next : Option ℕ) : (new next).Live := by
  rw [live_iff]
  exact ⟨fun began => absurd began (Nat.not_lt_zero 0), nofun⟩

/-- **The loop neither freezes nor spins, in any run, exactly if nothing harms it.** -/
theorem live_iff_unharmed (next : Option ℕ) (events : List LoopEvent) :
    machine.Always Live (new next) events ↔ machine.Guarded Unharmed (new next) events := by
  have begins : (new next).Ordered := Nat.le_refl 0
  refine machine.always_iff_guarded Ordered (fun s event => ⟨_, rfl⟩) ordered_step ?_ begins
    (live_new next)
  intro s event t ordered live stepped
  cases Option.some.inj stepped
  split_ifs with ready
  · exact live_step event ordered live ready
  · exact iff_of_true live (unharmed_of_not_ready ready)

/-- The time of the next publish is known, a publish is allowed, no error is fatal, and the server
says that there is no subscription only for a publish that was sent before the last trigger. -/
def InScope : LoopEvent → Prop
  | .trigger => True
  | .externalTick next => next.isSome
  | .internalTick limits next => 1 ≤ limits.maxPublishRequests ∧ next.isSome
  | .complete index result limits next => 1 ≤ limits.maxPublishRequests ∧ next.isSome ∧
    match result with
    | .ok _ => True
    | .error status => ¬ IsFatal status ∧
      (status = .BadNoSubscription → s.futures.getD index 0 < s.triggered)

instance (s : SubscriptionEventLoopState) : (event : LoopEvent) → Decidable (s.InScope event)
  | .trigger => inferInstanceAs (Decidable True)
  | .externalTick next => inferInstanceAs (Decidable (next.isSome = true))
  | .internalTick _ _ => inferInstanceAs (Decidable (_ ∧ _))
  | .complete _ (.ok _) _ _ => inferInstanceAs (Decidable (_ ∧ _ ∧ True))
  | .complete _ (.error _) _ _ => inferInstanceAs (Decidable (_ ∧ _ ∧ _ ∧ (_ → _)))

/-- A second subscription is created while a publish for the first is in flight. -/
def twoTriggers : List LoopEvent :=
  [.trigger, .externalTick (some 0), .trigger, .externalTick (some 0)]

/-- The publish for the second subscription times out. The other is then answered by a server that
had no subscription when it handled it. -/
def staleError : List LoopEvent :=
  twoTriggers ++ [.complete 1 (.error .BadTimeout) ⟨2, 4⟩ (some 0),
    .complete 0 (.error .BadNoSubscription) ⟨2, 4⟩ (some 0)]

/-- A third subscription is created during a back-off. -/
def triggeredBackOff : List LoopEvent :=
  twoTriggers ++ [.complete 0 (.error .BadTooManyPublishRequests) ⟨2, 4⟩ (some 0), .trigger]

/-- **A stale error freezes the loop; a trigger in a back-off makes it spin.** -/
theorem stale_error_freezes :
    (machine.Guarded InScope (new (some 0)) staleError ∧
      ∃ s, machine.run (new (some 0)) staleError = some s ∧ s.futures = [] ∧ ¬ s.Pending ∧
        s.noActiveSubscription = true ∧ ¬ s.Live) ∧
    (machine.Guarded InScope (new (some 0)) triggeredBackOff ∧
      ∃ s, machine.run (new (some 0)) triggeredBackOff = some s ∧ s.Spins ∧ ¬ s.Live) := by
  refine ⟨⟨?_, _, rfl, rfl, by decide, rfl, ?_⟩, ?_, _, rfl, ?_, ?_⟩
  · exact .cons machine rfl (by decide) <| .cons machine rfl (by decide) <|
      .cons machine rfl (by decide) <| .cons machine rfl (by decide) <|
      .cons machine rfl (by decide) <| .cons machine rfl (by decide) trivial
  · rw [live_iff]
    exact fun live => absurd (live.1 (by decide) rfl) (by decide)
  · exact .cons machine rfl (by decide) <| .cons machine rfl (by decide) <|
      .cons machine rfl (by decide) <| .cons machine rfl (by decide) <|
      .cons machine rfl (by decide) <| .cons machine rfl (by decide) trivial
  · rw [spins_iff]
    decide
  · rw [live_iff]
    exact fun live => absurd (live.2 (by decide)).2 (by decide)

end SubscriptionEventLoopState

end AsyncOpcua.Client
