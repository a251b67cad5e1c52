/-
**Publish requests are conserved, and served in the order of their arrival.**

* `publish_requests_conserved` — after every run each request is queued or answered as often as it
  has arrived, and the requests answered `Good` are answered in the order of arrival.
-/

import AsyncOpcua.Foundation.Ledger
import AsyncOpcua.Subscriptions.SessionRuns

namespace AsyncOpcua.Subscriptions

open Types Foundation List Machine SessionSubscriptions

variable {E : Externals}

def noteArrival (arrived : List ℕ) (_ : SessionSubscriptions E) (op : SessionOp E)
    (_ : SessionSubscriptions E) : List ℕ :=
  match op with
  | .enqueuePublishRequest _ _ _ _ request => arrived ++ [request.response]
  | _ => arrived

def arrivals (E : Externals) : Machine (SessionSubscriptions E × List ℕ) (SessionOp E) :=
  (sessions E).observed noteArrival

namespace SessionSubscriptions

def answered (answer : PendingPublish × ResponseMessage E) : ℕ × Bool :=
  (answer.1.response, answer.2.serviceResult == StatusCode.Good)

def ledger (s : SessionSubscriptions E) : Ledger ℕ where
  waiting := s.publishRequestQueue.map (·.response)
  settled := s.sent.map answered

/-- What the ledger depends on. -/
structure SameRequests (s t : SessionSubscriptions E) : Prop where
  queue : t.publishRequestQueue = s.publishRequestQueue
  sent : t.sent = s.sent

variable {s t : SessionSubscriptions E}

theorem SameRequests.ledger (same : s.SameRequests t) : t.ledger = s.ledger := by
  rw [SessionSubscriptions.ledger, same.queue, same.sent]
  rfl

structure Undisturbed (s t : SessionSubscriptions E) : Prop extends SameRequests s t where
  limits : t.limits = s.limits

theorem Undisturbed.refl (s : SessionSubscriptions E) : s.Undisturbed s := ⟨⟨rfl, rfl⟩, rfl⟩

theorem Undisturbed.trans {u : SessionSubscriptions E} (first : s.Undisturbed t)
    (second : t.Undisturbed u) : s.Undisturbed u :=
  ⟨⟨second.queue.trans first.queue, second.sent.trans first.sent⟩, second.limits.trans first.limits⟩

/-! ### Answers -/

variable {arrived : List ℕ}

theorem faultRequests_balanced (balanced : s.ledger.Balanced arrived)
    (selected : PendingPublish → Bool) {serviceResult : StatusCode}
    (bad : serviceResult ≠ StatusCode.Good) :
    (s.faultRequests selected serviceResult).ledger.Balanced arrived := by
  have settled : (s.faultRequests selected serviceResult).sent.map answered =
      s.sent.map answered ++
        ((s.publishRequestQueue.filter selected).map (·.response)).map (·, false) := by
    unfold faultRequests
    rw [map_append, map_map, map_map]
    congr 2
    funext request
    simp [answered, ResponseMessage.serviceResult, bad]
  rw [ledger, settled]
  refine balanced.dismiss ?_ ((filter_sublist).map _)
  rw [faultRequests, ← map_append]
  refine List.Perm.map _ (List.Perm.symm ?_)
  have split := filter_append_perm (fun request => !selected request) s.publishRequestQueue
  simpa using split

theorem rejectOldest_balanced (balanced : s.ledger.Balanced arrived)
    (rejected : s.rejectOldest = .ok t) : t.ledger.Balanced arrived := by
  unfold rejectOldest at rejected
  split at rejected <;> cases rejected
  rename_i request queue waiting
  have settled : (s.sent ++ [(request, ResponseMessage.serviceFault request.request.requestHandle
      StatusCode.BadTooManyPublishRequests)]).map answered =
      s.sent.map (answered (E := E)) ++ [request.response].map (·, false) := by
    rw [map_append]
    rfl
  show Ledger.Balanced ⟨queue.map (·.response), map answered (_ ++ _)⟩ arrived
  rw [settled]
  rw [ledger, waiting] at balanced
  refine balanced.dismiss ?_ (sublist_cons_self _ _)
  exact (perm_append_singleton request.response (queue.map (·.response))).symm

theorem deliverStatusChanges_balanced (now : ℤ) (owed : List (ℕ × NotificationMessage E))
    (balanced : s.ledger.Balanced arrived) :
    (deliverStatusChanges now owed s).ledger.Balanced arrived := by
  induction owed generalizing s with
  | nil => exact balanced
  | cons first rest ih =>
    unfold deliverStatusChanges
    split
    · exact balanced
    · rename_i request queue waiting
      rw [ledger, waiting] at balanced
      have front : Ledger.Balanced ⟨[request.response] ++ queue.map (·.response),
        s.sent.map answered⟩ arrived := balanced
      refine ih ?_
      rw [ledger, answer, map_append]
      exact front.serve

theorem sendPublishResponses_ledger (now : ℤ) (moreNotifications : Bool)
    (responses : List (PendingPublish × NotificationMessage E × ℕ)) (s : SessionSubscriptions E) :
    (sendPublishResponses now moreNotifications responses s).ledger =
      ⟨s.publishRequestQueue.map (·.response),
        s.sent.map answered ++ (responses.map (·.1.response)).map (·, true)⟩ := by
  induction responses generalizing s with
  | nil => simp [sendPublishResponses, ledger]
  | cons response rest ih =>
    unfold sendPublishResponses
    rw [ih]
    simp only [answer, map_append, append_assoc]
    rfl

/-! ### Ticks -/

variable {o : Occasion} {reason : TickReason}

theorem pass_takes {served : Served E}
    (passed : s.tickSubscriptionsWithPublishRequests o reason = .ok (t, served)) :
    s.publishRequestQueue = served.responses.map (·.1) ++ t.publishRequestQueue ∧
      t.sent = s.sent ∧ t.limits = s.limits := by
  have refreshed : s.Undisturbed s.subscriptionIdsByPriority.2 := by
    unfold subscriptionIdsByPriority
    split_ifs <;> exact ⟨⟨rfl, rfl⟩, rfl⟩
  refine pass_invariant (P := fun pass =>
      s.publishRequestQueue = pass.2.responses.map (·.1) ++ pass.1.publishRequestQueue ∧
        pass.1.sent = s.sent ∧ pass.1.limits = s.limits)
    passed ⟨refreshed.queue.symm, refreshed.sent, refreshed.limits⟩ ?_
  intro u before id subscription result ticked responses queue drained after ⟨taken, sent, limits⟩
    _ _ _ served collected _
  obtain ⟨conserved, -, -, -⟩ := serve_spec served
  obtain ⟨sent', -, -, -, -, limits'⟩ := u.settle_frame id queue drained
  refine ⟨?_, sent'.trans sent, limits'.trans limits⟩
  rw [settle_publishRequestQueue, collected, map_append, append_assoc, ← conserved]
  exact taken

/-- **A pass and its answers serve the front of the queue.** -/
theorem pass_balanced {served : Served E} (balanced : s.ledger.Balanced arrived)
    (passed : s.tickSubscriptionsWithPublishRequests o reason = .ok (t, served)) :
    (sendPublishResponses o.now served.moreNotifications served.responses t).ledger.Balanced
      arrived := by
  obtain ⟨taken, sent, -⟩ := pass_takes passed
  rw [ledger, taken, map_append, map_map] at balanced
  rw [sendPublishResponses_ledger, sent]
  exact balanced.serve

variable {removed : List (RemovedSubscription E)}

theorem idlePass_requests
    (passed : s.tickSubscriptionsWithoutPublishRequests o reason = .ok (removed, t)) :
    s.Undisturbed t := by
  obtain ⟨u, toRemove, after, rfl⟩ := idlePass_invariant (P := fun pass => s.Undisturbed pass.1)
    passed (.refl s) fun _ _ _ _ _ _ same _ _ _ => same.trans ⟨⟨rfl, rfl⟩, rfl⟩
  have removing : ∀ (ids : List ℕ) (v : SessionSubscriptions E), s.Undisturbed v →
      s.Undisturbed (removeReady ids v) := by
    intro ids
    induction ids with
    | nil => exact fun _ same => same
    | cons id rest ih => exact fun v same => ih _ (same.trans ⟨⟨rfl, rfl⟩, rfl⟩)
  exact removing _ _ (after.trans ⟨⟨rfl, rfl⟩, rfl⟩)

section

variable (balanced : s.ledger.Balanced arrived)
include balanced

theorem tick_balanced
    (ticked : s.tick o reason = .ok (removed, t)) :
    t.ledger.Balanced arrived := by
  have delivered := deliverStatusChanges_balanced o.now s.pendingStatusChanges balanced
  have expired := faultRequests_balanced delivered
    (fun request => decide (request.deadline < o.nowInstant))
    (by decide : StatusCode.BadTimeout ≠ StatusCode.Good)
  obtain ⟨-, rfl, rfl⟩ | ⟨-, ticked⟩ | ⟨-, u, served, passed, rfl, rfl⟩ := tick_ok ticked
  · exact faultRequests_balanced delivered _ (by decide)
  · rw [(idlePass_requests ticked).ledger]
    exact expired
  · exact pass_balanced expired passed

/-! ### Every operation -/

theorem takeIn_balanced (request : PendingPublish) :
    (s.takeIn request).ledger.Balanced (arrived ++ [request.response]) := by
  obtain ⟨_, _, same, -⟩ := s.takeIn_spec request
  have joined : (s.takeIn request).ledger =
      ⟨s.publishRequestQueue.map (·.response) ++ [request.response], s.sent.map answered⟩ := by
    rw [same, ledger, map_append]
    rfl
  rw [joined]
  exact balanced.arrive request.response

theorem makeRoom_balanced (roomy : s.makeRoom o = .ok t) :
    t.ledger.Balanced arrived := by
  refine makeRoom_keeps (P := fun s => s.ledger.Balanced arrived) balanced
    (fun _ removed u ticked => tick_balanced balanced ticked) (fun u after rejected => ?_) roomy
  exact rejectOldest_balanced after rejected

end

theorem modifyEntry_requests (s : SessionSubscriptions E) (id : ℕ)
    (change : Subscription E → Subscription E) : s.Undisturbed (s.modifyEntry id change) := by
  unfold modifyEntry
  split <;> exact ⟨⟨rfl, rfl⟩, rfl⟩

theorem deleteEach_requests (ids : List ℕ) (s : SessionSubscriptions E) :
    s.Undisturbed (deleteEach ids s).2 := by
  rw [deleteEach_eq]
  refine foldl_related .refl .trans (fun s id => ?_) ids s
  unfold deleteSubscription
  dsimp only
  split <;> exact ⟨⟨rfl, rfl⟩, rfl⟩

/-- The operation adds a request or takes some. -/
def HandlesRequests : SessionOp E → Prop
  | .cancelPublishRequests _ | .enqueuePublishRequest .. | .processNotificationWake _
  | .tick .. => True
  | _ => False

/-- **The other operations leave the requests alone.** -/
theorem requests_of_apply {op : SessionOp E} (still : ¬ HandlesRequests op)
    (applied : op.apply s = .ok t) : s.Undisturbed t := by
  have in_place : ∀ {change : Subscription E → Subscription E}, Changes change op →
      s.Undisturbed t := fun changes =>
    related_of_changes .refl .trans (fun s id => s.modifyEntry_requests id _)
      (fun _ _ => ⟨⟨rfl, rfl⟩, rfl⟩) changes applied
  cases op with
  | insert subscription notifs =>
    cases applied
    unfold insert
    split_ifs <;> exact ⟨⟨rfl, rfl⟩, rfl⟩
  | markTransferring id =>
    cases applied
    unfold markTransferring
    split_ifs <;> exact ⟨⟨rfl, rfl⟩, rfl⟩
  | createSubscription request info id nowInstant =>
    cases applied
    unfold createSubscription
    split_ifs <;> exact ⟨⟨rfl, rfl⟩, rfl⟩
  | modifySubscription request info =>
    cases applied
    unfold modifySubscription
    split_ifs
    · exact (s.modifyEntry_requests _ _).trans ⟨⟨rfl, rfl⟩, rfl⟩
    · exact .refl s
  | setPublishingMode | republish | updateOwner | resendData | item => exact in_place rfl
  | remove | queueStatusChange =>
    cases applied
    exact ⟨⟨rfl, rfl⟩, rfl⟩
  | deleteSubscriptions ids =>
    cases applied
    exact (deleteEach_requests ids s).trans (foldl_related .refl .trans
      (fun s id => (⟨⟨rfl, rfl⟩, rfl⟩ : Undisturbed s (s.forgetMessages id))) ids _)
  | cancelPublishRequests | enqueuePublishRequest | processNotificationWake | tick =>
    exact absurd trivial still

theorem step_balanced {op : SessionOp E} (balanced : s.ledger.Balanced arrived)
    (applied : op.apply s = .ok t) : t.ledger.Balanced (noteArrival arrived s op t) := by
  cases op with
  | cancelPublishRequests requestHandle =>
    cases applied
    exact faultRequests_balanced balanced _ (by decide)
  | enqueuePublishRequest now nowInstant first second request =>
    obtain ⟨u, removed, roomy, ticked⟩ := enqueuePublishRequest_ok applied
    exact tick_balanced (takeIn_balanced (makeRoom_balanced balanced roomy) request) ticked
  | processNotificationWake o =>
    obtain ⟨-, rfl⟩ | ⟨-, u, served, passed, rfl⟩ := processNotificationWake_ok applied
    · exact balanced
    · exact pass_balanced balanced passed
  | tick o reason =>
    obtain ⟨⟨removed, u⟩, ticked, rfl⟩ := map_eq_ok.mp applied
    exact tick_balanced balanced ticked
  | _ =>
    have same : s.Undisturbed t := by
      refine requests_of_apply ?_ applied
      exact not_false
    rw [same.ledger]
    exact balanced

/-- **Publish requests are conserved and served in order.** A run ends where an operation panics or
hangs. -/
theorem publish_requests_conserved {init s : SessionSubscriptions E} {arrived : List ℕ}
    {ops : List (SessionOp E)} (fresh : FreshSession init)
    (ran : (arrivals E).run (init, []) ops = some (s, arrived)) :
    (∀ channel, (s.publishRequestQueue.map (·.response)).count channel +
        (s.sent.map (·.1.response)).count channel = arrived.count channel) ∧
      ((s.sent.filter fun answer => answer.2.serviceResult == StatusCode.Good).map
        (·.1.response)).Sublist arrived := by
  have initially : init.ledger.Balanced [] := by
    obtain ⟨limits, userToken, rfl⟩ := fresh
    exact Ledger.balanced_empty
  have step :
      ∀ (noted : SessionSubscriptions E × List ℕ) op noted', noted.1.ledger.Balanced noted.2 →
      (arrivals E).step noted op = some noted' → noted'.1.ledger.Balanced noted'.2 := by
    rintro ⟨u, before⟩ op ⟨v, after⟩ balanced stepped
    obtain ⟨applied, noted⟩ := observed_step_eq_some.mp stepped
    rw [noted]
    exact step_balanced balanced (failing_step_eq_some.mp applied)
  have balanced := (arrivals E).run_invariant step initially ran
  constructor
  · intro channel
    have counted := balanced.conserved.count_eq channel
    rw [count_append, ledger, map_map] at counted
    exact counted
  · have served : s.ledger.served =
        (s.sent.filter fun answer => answer.2.serviceResult == StatusCode.Good).map
          (·.1.response) := by
      rw [Ledger.served, ledger, filter_map, map_map]
      rfl
    rw [← served]
    exact (sublist_append_left _ _).trans balanced.inOrder

/-- Two requests arrive for one subscription: its first keep-alive answers the first of them. -/
theorem publish_requests_conserved_keepAlive :
    ∃ s, (arrivals _).run (integerSession, [])
        [createInteger 1 3 0, publishInteger 7, publishInteger 8,
          .tick standstill .tickTimerFired] =
        some (s, [7, 8]) ∧
      (∀ channel, (s.publishRequestQueue.map (·.response)).count channel +
        (s.sent.map (·.1.response)).count channel = [7, 8].count channel) ∧
      s.sent.map (·.1.response) = [7] := by
  obtain ⟨s, ran, sent⟩ : ∃ s, (arrivals _).run (integerSession, [])
      [createInteger 1 3 0, publishInteger 7, publishInteger 8, .tick standstill .tickTimerFired] =
        some (s, [7, 8]) ∧ s.sent.map (·.1.response) = [7] := ⟨_, rfl, rfl⟩
  exact ⟨s, ran, (publish_requests_conserved fresh_integerSession ran).1, sent⟩

end SessionSubscriptions

end AsyncOpcua.Subscriptions
