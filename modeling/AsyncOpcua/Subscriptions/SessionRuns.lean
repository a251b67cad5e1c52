/-
**Runs of one session: its operations, and a pass over the subscriptions visit by visit.**
-/

import AsyncOpcua.Subscriptions.RetransmissionLog
import AsyncOpcua.Subscriptions.SessionSubscriptions
import AsyncOpcua.Subscriptions.SubscriptionRuns

namespace AsyncOpcua.Subscriptions

open Types Foundation List AList

variable {E : Externals}

/-! ### Operations -/

/-- **What the actor of a session does to its subscriptions.** The services on monitored items and
the notifications out of the ring are `item`. -/
inductive SessionOp (E : Externals) where
  | insert (subscription : Subscription E) (notifs : List (NonAckedPublish E))
  | remove (id : ℕ)
  | markTransferring (id : ℕ)
  | createSubscription (request : CreateSubscriptionRequest E) (info : SubscriptionLimits E)
      (id nowInstant : ℕ)
  | modifySubscription (request : ModifySubscriptionRequest E) (info : SubscriptionLimits E)
  | setPublishingMode (publishingEnabled : Bool) (ids : Option (List ℕ))
  | republish (id retransmitSequenceNumber : ℕ)
  | updateOwner (userToken : PersistentSessionKey)
  | resendData (id : ℕ)
  | item (id : ℕ) (op : ItemOp E)
  | deleteSubscriptions (ids : List ℕ)
  | queueStatusChange (id sequenceNumber : ℕ) (publishTime : ℤ) (status : StatusCode)
  | cancelPublishRequests (requestHandle : ℕ)
  | enqueuePublishRequest (now : ℤ) (nowInstant : ℕ) (first second : Orders)
      (request : PendingPublish)
  | processNotificationWake (o : Occasion)
  | tick (o : Occasion) (reason : TickReason)

def SessionOp.apply : SessionOp E → SessionSubscriptions E → Except Fault (SessionSubscriptions E)
  | .insert subscription notifs, s => .ok (s.insert subscription notifs).2
  | .remove id, s => .ok (s.remove id).2.2
  | .markTransferring id, s => .ok (s.markTransferring id).2
  | .createSubscription request info id nowInstant, s =>
    .ok (s.createSubscription request info id nowInstant).2
  | .modifySubscription request info, s => .ok (s.modifySubscription request info).2
  | .setPublishingMode publishingEnabled ids, s => .ok (s.setPublishingMode publishingEnabled ids).2
  | .republish id sequenceNumber, s => .ok (s.republish id sequenceNumber).2
  | .updateOwner userToken, s => .ok (s.updateOwner userToken)
  | .resendData id, s => .ok (s.modifyEntry id Subscription.setResendData)
  | .item id op, s => .ok (s.modifyEntry id op.apply)
  | .deleteSubscriptions ids, s => .ok (s.deleteSubscriptions ids).2
  | .queueStatusChange id sequenceNumber publishTime status, s =>
    .ok (s.queueStatusChange id sequenceNumber publishTime status)
  | .cancelPublishRequests requestHandle, s => .ok (s.cancelPublishRequests requestHandle).2
  | .enqueuePublishRequest now nowInstant first second request, s =>
    s.enqueuePublishRequest now nowInstant first second request
  | .processNotificationWake o, s => s.processNotificationWake o
  | .tick o reason, s => (s.tick o reason).map (·.2)

def sessions (E : Externals) : Machine (SessionSubscriptions E) (SessionOp E) :=
  .failing SessionOp.apply

/-- A session as its creation leaves it. -/
def FreshSession (s : SessionSubscriptions E) : Prop :=
  ∃ limits userToken, s = SessionSubscriptions.new limits userToken

open Machine

namespace SessionSubscriptions

/-! ### Serving -/

variable {id : ℕ}

/-- **Serving hands the oldest messages to the oldest requests,** until either runs out. -/
theorem serve_spec {queue rest : List PendingPublish} {subscription drained : Subscription E}
    {responses : List (PendingPublish × NotificationMessage E × ℕ)}
    (served : serve id queue subscription = (responses, rest, drained)) :
    queue = responses.map (·.1) ++ rest ∧
      responses.map (·.2.1) = subscription.notifications.take queue.length ∧
      (∀ response ∈ responses, response.2.2 = id) ∧
      drained =
        { subscription with notifications := subscription.notifications.drop queue.length } := by
  induction queue generalizing subscription responses with
  | nil =>
    cases served
    exact ⟨rfl, by simp, by simp, rfl⟩
  | cons request queue ih =>
    unfold serve Subscription.takeNotification at served
    cases messages : subscription.notifications with
    | nil =>
      rw [messages] at served
      cases served
      refine ⟨rfl, by simp, by simp, ?_⟩
      rw [drop_nil, ← messages]
    | cons message later =>
      rw [messages] at served
      simp only at served
      cases inner : serve id queue { subscription with notifications := later } with
      | mk responses' tail =>
        rw [inner] at served
        cases served
        obtain ⟨conserved, handed, owner, left⟩ := ih inner
        refine ⟨by rw [map_cons, cons_append, ← conserved], ?_, ?_, left⟩
        · rw [map_cons, handed]
          rfl
        · rintro response member
          rcases mem_cons.mp member with rfl | member
          · rfl
          · exact owner response member

/-! ### Answering -/

/-- **What queueing, answering and acknowledging leave alone.** -/
structure Answering (s t : SessionSubscriptions E) : Prop where
  subscriptions : t.subscriptions = s.subscriptions
  transferring : t.transferring = s.transferring
  cached : t.cachedPriorityOrder = s.cachedPriorityOrder
  dirty : t.priorityCacheDirty = s.priorityCacheDirty
  limits : t.limits = s.limits

theorem Answering.refl (s : SessionSubscriptions E) : s.Answering s := ⟨rfl, rfl, rfl, rfl, rfl⟩

variable {s t : SessionSubscriptions E}

theorem Answering.trans {u : SessionSubscriptions E} (first : s.Answering t)
    (second : t.Answering u) : s.Answering u :=
  ⟨second.subscriptions.trans first.subscriptions, second.transferring.trans first.transferring,
    second.cached.trans first.cached, second.dirty.trans first.dirty,
    second.limits.trans first.limits⟩

theorem faultRequests_answering (s : SessionSubscriptions E) (selected : PendingPublish → Bool)
    (serviceResult : StatusCode) : s.Answering (s.faultRequests selected serviceResult) :=
  ⟨rfl, rfl, rfl, rfl, rfl⟩

theorem removeExpiredPublishRequests_answering (s : SessionSubscriptions E) (now : ℕ) :
    s.Answering (s.removeExpiredPublishRequests now) :=
  faultRequests_answering s _ _

theorem deliverStatusChanges_answering (now : ℤ) (owed : List (ℕ × NotificationMessage E))
    (s : SessionSubscriptions E) : s.Answering (deliverStatusChanges now owed s) := by
  induction owed generalizing s with
  | nil => exact ⟨rfl, rfl, rfl, rfl, rfl⟩
  | cons first rest ih =>
    unfold deliverStatusChanges
    split
    · exact ⟨rfl, rfl, rfl, rfl, rfl⟩
    · refine Answering.trans ?_ (ih _)
      exact ⟨rfl, rfl, rfl, rfl, rfl⟩

section

variable (s : SessionSubscriptions E)

theorem deliverPendingStatusChanges_answering (now : ℤ) :
    s.Answering (s.deliverPendingStatusChanges now) :=
  deliverStatusChanges_answering now s.pendingStatusChanges s

/-- **Acknowledging takes messages out of the retransmission queue,** and changes nothing else. -/
theorem processAcks_spec (acks : List SubscriptionAcknowledgement) :
    ∃ queue, (s.processAcks acks).2 = { s with retransmissionQueue := queue } ∧
      (s.retransmissionQueue.Filed → queue.Filed) ∧
      ∀ id, queue.Holds id → s.retransmissionQueue.Holds id := by
  induction acks generalizing s with
  | nil => exact ⟨_, rfl, fun filed => filed, fun _ holds => holds⟩
  | cons ack rest ih =>
    unfold processAcks
    split
    · exact ih s
    · obtain ⟨queue, same, filed, holds⟩ := ih { s with retransmissionQueue :=
        (s.retransmissionQueue.ack ack.subscriptionId ack.sequenceNumber).2 }
      exact ⟨queue, same, fun before => filed (before.ack _ _),
        fun id later => RetransmissionQueue.ack_holds (holds id later)⟩

/-- **A request is taken in at the end of the queue,** after what it acknowledges. -/
theorem takeIn_spec (request : PendingPublish) : ∃ queue results,
    s.takeIn request = { s with
      retransmissionQueue := queue
      publishRequestQueue := s.publishRequestQueue ++ [{ request with ackResults := results }] } ∧
    (s.retransmissionQueue.Filed → queue.Filed) ∧
    ∀ id, queue.Holds id → s.retransmissionQueue.Holds id := by
  simp only [takeIn, processSubscriptionAcks]
  rcases request.request.subscriptionAcknowledgements with _ | _ | ⟨ack, acks⟩
  · exact ⟨_, _, rfl, fun filed => filed, fun _ holds => holds⟩
  · exact ⟨_, _, rfl, fun filed => filed, fun _ holds => holds⟩
  · obtain ⟨queue, same, rest⟩ := s.processAcks_spec (ack :: acks)
    exact ⟨queue, _, by dsimp only; rw [same], rest⟩

theorem takeIn_answering (request : PendingPublish) : s.Answering (s.takeIn request) := by
  obtain ⟨_, _, same, -⟩ := s.takeIn_spec request
  rw [same]
  exact ⟨rfl, rfl, rfl, rfl, rfl⟩

theorem deleteEach_eq (ids : List ℕ) :
    (deleteEach ids s).2 = ids.foldl (fun s id => (s.deleteSubscription id).2) s := by
  induction ids generalizing s with
  | nil => rfl
  | cons id rest ih => exact ih _

end

theorem sendPublishResponses_answering (now : ℤ) (moreNotifications : Bool)
    (responses : List (PendingPublish × NotificationMessage E × ℕ)) (s : SessionSubscriptions E) :
    s.Answering (sendPublishResponses now moreNotifications responses s) := by
  induction responses generalizing s with
  | nil => exact .refl s
  | cons response rest ih =>
    refine Answering.trans ?_ (ih _)
    exact ⟨rfl, rfl, rfl, rfl, rfl⟩

theorem rejectOldest_answering (rejected : s.rejectOldest = .ok t) : s.Answering t := by
  unfold rejectOldest at rejected
  split at rejected <;> cases rejected
  exact ⟨rfl, rfl, rfl, rfl, rfl⟩

/-! ### Passes -/

def visits (E : Externals) (o : Occasion) (reason : TickReason) :
    Machine (SessionSubscriptions E × Served E) ℕ :=
  .failing fun id pass =>
    if id ∈ pass.1.transferring then .ok pass
    else tickSubscriptionWithPublishRequests o reason id pass.1 pass.2

variable {o : Occasion} {reason : TickReason} {pass : SessionSubscriptions E × Served E}

theorem tickEachWithRequests_eq_ok {ids : List ℕ} {served : Served E} :
    tickEachWithRequests o reason ids s served = .ok pass ↔
      (visits E o reason).run (s, served) ids = some pass := by
  induction ids generalizing s served with
  | nil => simp [tickEachWithRequests]
  | cons id rest ih =>
    rw [run_cons_eq_some]
    simp only [visits, failing_step_eq_some]
    unfold tickEachWithRequests
    by_cases staged : id ∈ s.transferring
    · simp [if_pos staged]
      rw [ih]
      simp [visits]
    · simp [if_neg staged]
      rw [bind_eq_ok]
      simp [ih]
      rfl

theorem pass_run (passed : s.tickSubscriptionsWithPublishRequests o reason = .ok pass) :
    (visits E o reason).run (s.subscriptionIdsByPriority.2, ⟨[], [], false⟩)
      s.subscriptionIdsByPriority.1 = some pass :=
  tickEachWithRequests_eq_ok.mp passed

def idleVisits (E : Externals) (o : Occasion) (reason : TickReason) :
    Machine (SessionSubscriptions E × Collected E) ℕ :=
  .failing fun id pass => tickEachWithoutRequests o reason [id] pass.1 pass.2

theorem tickEachWithoutRequests_eq_ok {ids : List ℕ} {collected : Collected E}
    {pass : SessionSubscriptions E × Collected E} :
    tickEachWithoutRequests o reason ids s collected = .ok pass ↔
      (idleVisits E o reason).run (s, collected) ids = some pass := by
  induction ids generalizing s collected with
  | nil => simp [tickEachWithoutRequests]
  | cons id rest ih =>
    rw [run_cons_eq_some]
    simp only [idleVisits, failing_step_eq_some]
    unfold tickEachWithoutRequests
    cases s.subscriptions.lookup id with
    | none =>
      simp only [ih]
      simp [tickEachWithoutRequests, idleVisits]
    | some subscription =>
      by_cases staged : id ∈ s.transferring
      · simp only [if_pos staged, ih]
        simp [tickEachWithoutRequests, idleVisits]
      · simp only [if_neg staged]
        simp only [bind_eq_ok, ih, tickEachWithoutRequests]
        constructor
        · rintro ⟨ticked, returned, later⟩
          exact ⟨_, ⟨ticked, returned, rfl⟩, later⟩
        · rintro ⟨_, ⟨ticked, returned, built⟩, later⟩
          cases built
          exact ⟨ticked, returned, later⟩

theorem tickSubscription_eq_ok {queued : Bool} {subscription : Subscription E}
    {result : TickResult × Subscription E} :
    tickSubscription o reason queued id subscription = .ok result ↔
      subscription.tick o.now o.nowInstant reason queued (o.orders.items id) = some result := by
  unfold tickSubscription
  split <;> simp [*]

theorem visit_spec {before after : Served E} (staged : id ∉ s.transferring)
    (visited : (visits E o reason).step (s, before) id = some (t, after)) :
    ∃ subscription result ticked responses queue drained,
      s.subscriptions.lookup id = some subscription ∧
      subscription.tick o.now o.nowInstant reason (!s.publishRequestQueue.isEmpty)
        (o.orders.items id) = some (result, ticked) ∧
      serve id s.publishRequestQueue ticked = (responses, queue, drained) ∧
      t = s.settle id queue drained ∧ after.responses = before.responses ++ responses ∧
      after.removed =
        if result = .expired then before.removed ++ [⟨id, subscription.monitoredItemRefs⟩]
        else before.removed := by
  rw [visits, failing_step_eq_some] at visited
  simp only [if_neg staged] at visited
  unfold tickSubscriptionWithPublishRequests at visited
  cases found : s.subscriptions.lookup id with
  | none =>
    rw [found] at visited
    cases visited
  | some subscription =>
    rw [found] at visited
    obtain ⟨⟨result, ticked⟩, returned, built⟩ := map_eq_ok.mp visited
    cases served : serve id s.publishRequestQueue ticked with
    | mk responses tail =>
      obtain ⟨queue, drained⟩ := tail
      simp only [served, Prod.mk.injEq] at built
      obtain ⟨rfl, rfl⟩ := built
      exact ⟨subscription, result, ticked, responses, queue, drained, rfl,
        tickSubscription_eq_ok.mp returned, served, rfl, rfl, rfl⟩

theorem visit_staged {before : Served E} (staged : id ∈ s.transferring)
    (visited : (visits E o reason).step (s, before) id = some pass) : pass = (s, before) := by
  rw [visits, failing_step_eq_some] at visited
  simp only [if_pos staged] at visited
  exact (Except.ok.inj visited).symm

theorem idleVisit_spec {before after : Collected E}
    (visited : (idleVisits E o reason).step (s, before) id = some (t, after)) :
    (t, after) = (s, before) ∨ id ∉ s.transferring ∧ ∃ subscription result ticked,
      s.subscriptions.lookup id = some subscription ∧
      subscription.tick o.now o.nowInstant reason false (o.orders.items id) =
        some (result, ticked) ∧
      t = { s with subscriptions := s.subscriptions.insert id ticked } ∧
      after.removed =
        (if result = .expired then before.removed ++ [⟨id, subscription.monitoredItemRefs⟩]
        else before.removed) ∧
      after.toRemove =
        if ticked.readyToRemove then before.toRemove ++ [id] else before.toRemove := by
  rw [idleVisits, failing_step_eq_some] at visited
  unfold tickEachWithoutRequests at visited
  cases found : s.subscriptions.lookup id with
  | none =>
    rw [found] at visited
    exact Or.inl (Except.ok.inj visited).symm
  | some subscription =>
    rw [found] at visited
    by_cases staged : id ∈ s.transferring
    · simp only [if_pos staged] at visited
      exact Or.inl (Except.ok.inj visited).symm
    · simp only [if_neg staged] at visited
      obtain ⟨⟨result, ticked⟩, returned, built⟩ := bind_eq_ok.mp visited
      cases built
      exact Or.inr ⟨staged, subscription, result, ticked, rfl, tickSubscription_eq_ok.mp returned,
        rfl, rfl, rfl⟩

/-- **What every visit keeps, a pass with requests keeps.** -/
theorem pass_invariant {P : SessionSubscriptions E × Served E → Prop} {served : Served E}
    (passed : s.tickSubscriptionsWithPublishRequests o reason = .ok (t, served))
    (start : P (s.subscriptionIdsByPriority.2, ⟨[], [], false⟩))
    (visit : ∀ u before id subscription result ticked responses queue drained after,
      P (u, before) → id ∉ u.transferring → u.subscriptions.lookup id = some subscription →
      subscription.tick o.now o.nowInstant reason (!u.publishRequestQueue.isEmpty)
        (o.orders.items id) = some (result, ticked) →
      serve id u.publishRequestQueue ticked = (responses, queue, drained) →
      after.responses = before.responses ++ responses →
      after.removed =
        (if result = .expired then before.removed ++ [⟨id, subscription.monitoredItemRefs⟩]
        else before.removed) → P (u.settle id queue drained, after)) : P (t, served) := by
  refine (visits E o reason).run_invariant ?_ start (pass_run passed)
  rintro ⟨u, before⟩ id ⟨v, after⟩ holds visited
  by_cases staged : id ∈ u.transferring
  · cases visit_staged staged visited
    exact holds
  · obtain ⟨_, _, _, _, _, _, found, returned, served, rfl, collected, removed⟩ :=
      visit_spec staged visited
    exact visit _ _ _ _ _ _ _ _ _ _ holds staged found returned served collected removed

/-- **What every visit keeps, a pass without requests keeps,** up to the removals at its end. -/
theorem idlePass_invariant_of_guarded {P : SessionSubscriptions E × Collected E → Prop}
    {guard : SessionSubscriptions E × Collected E → ℕ → Prop}
    {removed : List (RemovedSubscription E)}
    (guarded : (idleVisits E o reason).Guarded guard (s, ⟨[], []⟩)
      (o.orders.subscriptions.order s.subscriptions.keys.toFinset))
    (passed : s.tickSubscriptionsWithoutPublishRequests o reason = .ok (removed, t))
    (start : P (s, ⟨[], []⟩))
    (visit : ∀ u before id subscription result ticked, P (u, before) → guard (u, before) id →
      id ∉ u.transferring → u.subscriptions.lookup id = some subscription →
      subscription.tick o.now o.nowInstant reason false (o.orders.items id) =
        some (result, ticked) →
      P ({ u with subscriptions := u.subscriptions.insert id ticked },
        ⟨if result = .expired then before.removed ++ [⟨id, subscription.monitoredItemRefs⟩]
          else before.removed,
        if ticked.readyToRemove then before.toRemove ++ [id] else before.toRemove⟩)) :
    ∃ u toRemove, P (u, ⟨removed, toRemove⟩) ∧
      t = removeReady toRemove { u with priorityCacheDirty := true } := by
  obtain ⟨⟨u, collected⟩, visited, built⟩ := map_eq_ok.mp passed
  cases built
  refine ⟨u, collected.toRemove, ?_, rfl⟩
  refine (idleVisits E o reason).run_invariant_of_guarded ?_ start guarded
    (tickEachWithoutRequests_eq_ok.mp visited)
  rintro ⟨u, before⟩ id ⟨v, after⟩ holds meets visited
  obtain unchanged | ⟨staged, _, _, _, found, returned, rfl, removed, toRemove⟩ :=
    idleVisit_spec visited
  · cases unchanged
    exact holds
  · have next := visit _ _ _ _ _ _ holds meets staged found returned
    rwa [← removed, ← toRemove] at next

theorem idlePass_invariant {P : SessionSubscriptions E × Collected E → Prop}
    {removed : List (RemovedSubscription E)}
    (passed : s.tickSubscriptionsWithoutPublishRequests o reason = .ok (removed, t))
    (start : P (s, ⟨[], []⟩))
    (visit : ∀ u before id subscription result ticked, P (u, before) → id ∉ u.transferring →
      u.subscriptions.lookup id = some subscription →
      subscription.tick o.now o.nowInstant reason false (o.orders.items id) =
        some (result, ticked) →
      P ({ u with subscriptions := u.subscriptions.insert id ticked },
        ⟨if result = .expired then before.removed ++ [⟨id, subscription.monitoredItemRefs⟩]
          else before.removed,
        if ticked.readyToRemove then before.toRemove ++ [id] else before.toRemove⟩)) :
    ∃ u toRemove, P (u, ⟨removed, toRemove⟩) ∧
      t = removeReady toRemove { u with priorityCacheDirty := true } := by
  have every : (idleVisits E o reason).Guarded (fun _ _ => True) (s, ⟨[], []⟩)
      (o.orders.subscriptions.order s.subscriptions.keys.toFinset) :=
    guarded_of_mem _ (fun _ _ _ => trivial) _
  exact idlePass_invariant_of_guarded every passed start fun _ _ _ _ _ _ holds _ =>
    visit _ _ _ _ _ _ holds

/-! ### Settling -/

section

variable (s : SessionSubscriptions E) (id : ℕ) (queue : List PendingPublish)
  (drained : Subscription E)

theorem settle_lookup (other : ℕ) :
    (s.settle id queue drained).subscriptions.lookup other =
      if other = id then (if drained.readyToRemove then none else some drained)
      else s.subscriptions.lookup other := by
  unfold settle
  by_cases same : other = id
  · subst same
    simp only [if_true]
    split_ifs
    · exact lookup_erase _ _
    · exact lookup_insert _
  · simp only [if_neg same]
    split_ifs
    · show ((s.subscriptions.insert id drained).erase id).lookup other = _
      rw [lookup_erase_ne same, lookup_insert_ne same]
    · exact lookup_insert_ne same

theorem settle_publishRequestQueue : (s.settle id queue drained).publishRequestQueue = queue := by
  unfold settle
  split_ifs <;> rfl

theorem settle_frame :
    (s.settle id queue drained).sent = s.sent ∧
      (s.settle id queue drained).transferring = s.transferring ∧
      (s.settle id queue drained).pendingStatusChanges = s.pendingStatusChanges ∧
      (s.settle id queue drained).cachedPriorityOrder = s.cachedPriorityOrder ∧
      (s.settle id queue drained).priorityCacheDirty = s.priorityCacheDirty ∧
      (s.settle id queue drained).limits = s.limits := by
  unfold settle
  split_ifs <;> exact ⟨rfl, rfl, rfl, rfl, rfl, rfl⟩

end

/-! ### What a call has done -/

section

variable {o : Occasion} {reason : TickReason}

/-- **A tick** rejects the requests without subscriptions, visits without requests, or serves. -/
theorem tick_ok {removed : List (RemovedSubscription E)}
    (ticked : s.tick o reason = .ok (removed, t)) :
    let delivered := s.deliverPendingStatusChanges o.now
    let expired := delivered.removeExpiredPublishRequests o.nowInstant
    (delivered.len = 0 ∨ delivered.len = delivered.transferring.card) ∧ removed = [] ∧
        t = delivered.rejectPublishRequestsWithoutSubscriptions ∨
      expired.publishRequestQueue.isEmpty = true ∧
        expired.tickSubscriptionsWithoutPublishRequests o reason = .ok (removed, t) ∨
      expired.publishRequestQueue.isEmpty = false ∧ ∃ u served,
        expired.tickSubscriptionsWithPublishRequests o reason = .ok (u, served) ∧
          removed = served.removed ∧
          t = sendPublishResponses o.now served.moreNotifications served.responses u := by
  unfold tick at ticked
  dsimp only at ticked ⊢
  split_ifs at ticked with none idle
  · cases ticked
    exact .inl ⟨none, rfl, rfl⟩
  · exact .inr (.inl ⟨idle, ticked⟩)
  · obtain ⟨⟨u, served⟩, passed, built⟩ := map_eq_ok.mp ticked
    cases built
    exact .inr (.inr ⟨eq_false_of_ne_true idle, u, served, passed, rfl, rfl⟩)

theorem processNotificationWake_ok (woken : s.processNotificationWake o = .ok t) :
    s.publishRequestQueue.isEmpty = true ∧ t = s ∨
      s.publishRequestQueue.isEmpty = false ∧ ∃ u served,
        s.tickSubscriptionsWithPublishRequests o .notificationAvailable = .ok (u, served) ∧
          t = sendPublishResponses o.now served.moreNotifications served.responses u := by
  unfold processNotificationWake at woken
  split_ifs at woken with idle
  · cases woken
    exact .inl ⟨idle, rfl⟩
  · obtain ⟨⟨u, served⟩, passed, built⟩ := map_eq_ok.mp woken
    cases built
    exact .inr ⟨eq_false_of_ne_true idle, u, served, passed, rfl⟩

theorem enqueuePublishRequest_ok {now : ℤ} {nowInstant : ℕ} {first second : Orders}
    {request : PendingPublish}
    (enqueued : s.enqueuePublishRequest now nowInstant first second request = .ok t) :
    ∃ u removed, s.makeRoom ⟨now, nowInstant, first⟩ = .ok u ∧
      (u.takeIn request).tick ⟨now, nowInstant, second⟩ .receivePublishRequest =
        .ok (removed, t) := by
  obtain ⟨u, roomy, returned⟩ := bind_eq_ok.mp enqueued
  obtain ⟨⟨removed, v⟩, ticked, rfl⟩ := map_eq_ok.mp returned
  exact ⟨u, removed, roomy, ticked⟩

end

/-! ### Making room -/

theorem makeRoom_keeps {P : SessionSubscriptions E → Prop} {o : Occasion}
    {s t : SessionSubscriptions E} (holds : P s)
    (ticks : s.maxPublishRequests ≤ s.publishRequestQueue.length → ∀ removed u,
      s.tick o .receivePublishRequest = .ok (removed, u) → P u)
    (rejects : ∀ u, P u → u.rejectOldest = .ok t → P t) (roomy : s.makeRoom o = .ok t) : P t := by
  obtain ⟨u, made, rejected⟩ := bind_eq_ok.mp roomy
  have after : P u := by
    split_ifs at made with full
    · obtain ⟨⟨removed, u⟩, ticked, rfl⟩ := map_eq_ok.mp made
      exact ticks full removed u ticked
    · cases made
      exact holds
  split_ifs at rejected
  · exact rejects u after rejected
  · cases rejected
    exact after

/-! ### Changing one subscription in place -/

section

variable (s : SessionSubscriptions E) (id : ℕ) (change : Subscription E → Subscription E)

theorem modifyEntry_lookup (other : ℕ) :
    (s.modifyEntry id change).subscriptions.lookup other =
      if other = id then (s.subscriptions.lookup id).map change
      else s.subscriptions.lookup other := by
  unfold modifyEntry
  cases found : s.subscriptions.lookup id with
  | none =>
    split_ifs with same
    · rw [same, found]
      rfl
    · rfl
  | some subscription =>
    split_ifs with same
    · rw [same]
      exact lookup_insert _
    · exact lookup_insert_ne same

theorem modifyEntry_frame :
    (s.modifyEntry id change).sent = s.sent ∧
      (s.modifyEntry id change).publishRequestQueue = s.publishRequestQueue ∧
      (s.modifyEntry id change).transferring = s.transferring ∧
      (s.modifyEntry id change).pendingStatusChanges = s.pendingStatusChanges ∧
      (s.modifyEntry id change).retransmissionQueue = s.retransmissionQueue ∧
      (s.modifyEntry id change).cachedPriorityOrder = s.cachedPriorityOrder ∧
      (s.modifyEntry id change).priorityCacheDirty = s.priorityCacheDirty := by
  unfold modifyEntry
  split <;> exact ⟨rfl, rfl, rfl, rfl, rfl, rfl, rfl⟩

end

theorem updateOwner_eq (s : SessionSubscriptions E) (userToken : PersistentSessionKey) :
    s.updateOwner userToken =
      { s.subscriptions.keys.foldl (fun s id => s.modifyEntry id Subscription.setResendData) s with
        userToken := userToken } := by
  unfold updateOwner
  generalize s.subscriptions.keys = ids
  induction ids generalizing s with
  | nil => rfl
  | cons id rest ih =>
    rw [foldl_cons, foldl_cons, ← ih]
    unfold modifyEntry
    cases s.subscriptions.lookup id <;> rfl

/-- The operation changes subscriptions by `change`, one by one and in place. -/
def Changes (change : Subscription E → Subscription E) : SessionOp E → Prop
  | .setPublishingMode publishingEnabled _ => change = (·.setPublishingMode publishingEnabled)
  | .republish .. => change = Subscription.resetLifetimeCounter
  | .updateOwner _ | .resendData _ => change = Subscription.setResendData
  | .item _ op => change = op.apply
  | _ => False

/-- **What each change in place respects, the whole operation respects.** -/
theorem related_of_changes {R : SessionSubscriptions E → SessionSubscriptions E → Prop}
    {change : Subscription E → Subscription E} {op : SessionOp E} (refl : ∀ s, R s s)
    (trans : ∀ {s t u}, R s t → R t u → R s u) (each : ∀ s id, R s (s.modifyEntry id change))
    (owned : ∀ s userToken, R s { s with userToken := userToken }) (changes : Changes change op)
    (applied : op.apply s = .ok t) : R s t := by
  cases op with
  | setPublishingMode publishingEnabled ids =>
    cases changes
    cases applied
    unfold setPublishingMode
    split
    · exact refl s
    · exact refl s
    · exact foldl_related refl trans each _ s
  | republish id sequenceNumber =>
    cases changes
    cases applied
    unfold republish
    split_ifs
    · exact each s id
    · exact refl s
  | updateOwner userToken =>
    cases changes
    cases applied
    have changed := trans (foldl_related refl trans each s.subscriptions.keys s) (owned _ userToken)
    rwa [← updateOwner_eq] at changed
  | resendData id | item id op =>
    cases changes
    cases applied
    exact each s id
  | _ => exact changes.elim

end SessionSubscriptions

/-! ### A session over integers -/

def integerLimits : SubscriptionLimits Externals.integers where
  maxSubscriptionsPerSession := 10
  maxPendingPublishRequests := 10
  maxPublishRequestsPerSubscription := 5
  minPublishingIntervalMs := (0 : ℤ)
  maxKeepAliveCount := 100
  defaultKeepAliveCount := 10
  maxLifetimeCount := 300
  maxNotificationsPerPublish := 0
  maxQueuedNotifications := 0

def integerSession : SessionSubscriptions Externals.integers :=
  .new integerLimits ⟨"user", .sign, "application"⟩

theorem fresh_integerSession : FreshSession integerSession := ⟨_, _, rfl⟩

/-- Orders upwards, and clocks that stand still. -/
def upwardOrders : Orders := ⟨.upward, fun _ => .upward⟩

def standstill : Occasion := ⟨0, 0, upwardOrders⟩

/-- Create a subscription whose timer has always elapsed. -/
def createInteger (id lifetime priority : ℕ) : SessionOp Externals.integers :=
  .createSubscription
    { requestedPublishingInterval := (0 : ℤ), requestedLifetimeCount := lifetime
      requestedMaxKeepAliveCount := 1, maxNotificationsPerPublish := 0, publishingEnabled := true
      priority := priority } integerLimits id 0

/-- A publish request without acknowledgements arrives. -/
def publishInteger (channel : ℕ) : SessionOp Externals.integers :=
  .enqueuePublishRequest 0 0 upwardOrders upwardOrders ⟨channel, ⟨channel, none⟩, none, 10⟩

end AsyncOpcua.Subscriptions
