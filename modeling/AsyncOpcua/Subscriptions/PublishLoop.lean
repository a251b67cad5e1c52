/-
**The loop that drains the queues when a publish request arrives: when it ends.**

After a publish request is enqueued, the actor ticks its subscriptions again as long as one of them
has messages and a request waits.

* `publish_loop_ends_iff` — the loop ends in all other states.
-/

import AsyncOpcua.Foundation.Loop
import AsyncOpcua.Subscriptions.PriorityCache
import AsyncOpcua.Subscriptions.PublishConservation

namespace AsyncOpcua.Subscriptions

open Types Foundation Option Or Subscription

variable {E : Externals}

namespace Subscription

/-- The subscription has nothing to say to a publish request. -/
structure Settled (s : Subscription E) : Prop where
  drained : s.notifications = []
  running : s.state = .normal ∨ s.state = .keepAlive

theorem receive_state {s t : Subscription E} {now : ℤ} {nowInstant : ℕ} {queued : Bool}
    {visit : VisitOrder} {result : TickResult}
    (ticked : s.tick now nowInstant .receivePublishRequest queued visit = some (result, t)) :
    t.state = .normal ∨ t.state = .keepAlive ∨ t.state = .closed := by
  rw [tick_eq, if_neg fun idle => TickReason.noConfusion idle.1] at ticked
  have state : t.state = (s.handleStateTransition (s.row .receivePublishRequest queued)).2.state :=
    congrArg Control.state (applyRow_control ticked)
  rw [state]
  unfold row getStateTransition
  cases before : s.state with
  | creating => exact inl rfl
  | keepAlive => exact inr (inl before)
  | closed => exact inr (inr before)
  | normal =>
    left
    dsimp only
    split_ifs <;> exact before
  | late =>
    dsimp only
    split_ifs with available idle
    · exact inl rfl
    · exact inr (inl rfl)
    · -- One of the two rows applies.
      revert available idle
      cases s.publishingEnabled <;> cases (s.stateParams queued).notificationsAvailable <;>
        cases (s.stateParams queued).moreNotifications <;> simp

theorem Settled.tick {s : Subscription E} (settled : s.Settled) (now : ℤ) (nowInstant : ℕ)
    (queued : Bool) (visit : VisitOrder) :
    s.tick now nowInstant .receivePublishRequest queued visit = some (.none, s) := by
  have quiet : (s.stateParams queued).moreNotifications = false := by
    show (!s.notifications.isEmpty) = false
    rw [settled.drained]
    rfl
  rw [tick_eq, if_neg fun idle => TickReason.noConfusion idle.1]
  have ignored : s.row .receivePublishRequest queued = .normal4 ∨
      s.row .receivePublishRequest queued = .keepAlive13 := by
    unfold row getStateTransition
    rcases settled.running with normal | keepAlive
    · rw [normal, quiet]
      left
      cases s.publishingEnabled <;> rfl
    · rw [keepAlive]
      exact inr rfl
  unfold applyRow
  rcases ignored with row | row
  · rw [row]
    rfl
  · rw [row]
    rfl

end Subscription

open AList

open Machine

namespace SessionSubscriptions

def publishLoop (now : ℤ) (nowInstant : ℕ) (orders : ℕ → Orders) :
    Loop (SessionSubscriptions E) Fault where
  again s := s.hasMoreNotifications && s.hasQueuedPublishRequest
  body next s := (s.tick ⟨now, nowInstant, orders next⟩ .receivePublishRequest).map (·.2)

theorem hasMoreNotifications_iff (s : SessionSubscriptions E) :
    s.hasMoreNotifications ↔
      ∃ id subscription, s.subscriptions.lookup id = some subscription ∧
        subscription.notifications ≠ [] := by
  rw [hasMoreNotifications, List.any_eq_true]
  constructor
  · rintro ⟨⟨id, subscription⟩, member, more⟩
    refine ⟨id, subscription, mem_lookup_iff.mpr member, fun none => ?_⟩
    rw [moreNotifications, none] at more
    cases more
  · rintro ⟨id, subscription, found, more⟩
    refine ⟨⟨id, subscription⟩, mem_lookup_iff.mp found, ?_⟩
    rw [moreNotifications, Bool.not_eq_true']
    exact List.isEmpty_eq_false_iff.mpr more

variable {now : ℤ} {nowInstant : ℕ} {orders : ℕ → Orders}

theorem again_iff (s : SessionSubscriptions E) :
    (publishLoop now nowInstant orders).again s ↔
      (∃ id subscription, s.subscriptions.lookup id = some subscription ∧
        subscription.notifications ≠ []) ∧ s.publishRequestQueue ≠ [] := by
  show (s.hasMoreNotifications && s.hasQueuedPublishRequest) = true ↔ _
  rw [Bool.and_eq_true, hasMoreNotifications_iff, hasQueuedPublishRequest, Bool.not_eq_true',
    List.isEmpty_eq_false_iff]

/-! ### Every subscription is cached -/

structure Covered (s : SessionSubscriptions E) : Prop where
  keyed : s.Keyed
  cached : s.priorityCacheDirty = false → ∀ id ∈ s.subscriptions, id ∈ s.cachedPriorityOrder
  nodup : s.priorityCacheDirty = false → s.cachedPriorityOrder.Nodup

variable {s t : SessionSubscriptions E}

theorem Covered.of_dirty (keyed : s.Keyed) (dirty : s.priorityCacheDirty = true) : s.Covered :=
  have never : s.priorityCacheDirty ≠ false := ne_false_of_eq_true dirty
  ⟨keyed, fun clean => absurd clean never, fun clean => absurd clean never⟩

theorem Covered.of_reranks (covered : s.Covered) (reranks : s.Reranks t) : t.Covered := by
  rcases reranks with same | ⟨keyed, dirty⟩
  · refine ⟨same.keyed covered.keyed, fun clean id member => ?_, fun clean => ?_⟩
    · rw [mem_subscriptions_iff, same.priorities, ← mem_subscriptions_iff] at member
      rw [same.cached]
      exact covered.cached (same.dirty.symm.trans clean) id member
    · rw [same.cached]
      exact covered.nodup (same.dirty.symm.trans clean)
  · exact .of_dirty (keyed covered.keyed) dirty

theorem subscriptionIdsByPriority_covers (covered : s.Covered) :
    s.subscriptionIdsByPriority.2.Covered ∧
      s.subscriptionIdsByPriority.2.priorityCacheDirty = false ∧
      s.subscriptionIdsByPriority.2.cachedPriorityOrder = s.subscriptionIdsByPriority.1 := by
  by_cases dirty : s.priorityCacheDirty
  · have clean : s.Ranked :=
      .of_dirty covered.keyed dirty
    obtain ⟨refreshed, -, -⟩ := subscriptionIdsByPriority_spec clean
    refine ⟨⟨refreshed.keyed, fun clean id member => ?_, fun clean => ?_⟩, ?_, ?_⟩
    · exact ((refreshed.cache clean).mem_iff id).mpr member
    · exact (refreshed.cache clean).nodup
    · rw [subscriptionIdsByPriority, if_pos dirty]
    · rw [subscriptionIdsByPriority, if_pos dirty]
  · rw [subscriptionIdsByPriority, if_neg dirty]
    exact ⟨covered, by rwa [Bool.not_eq_true] at dirty, rfl⟩

variable {o : Occasion} {reason : TickReason} {pass after : SessionSubscriptions E × Served E}

variable {served : Served E}

theorem pass_covered (covered : s.Covered)
    (passed : s.tickSubscriptionsWithPublishRequests o reason = .ok (t, served)) : t.Covered := by
  refine pass_invariant (P := fun pass => pass.1.Covered) passed
    (subscriptionIdsByPriority_covers covered).1 ?_
  intro s before id subscription result ticked responses queue drained after covered _ found
    returned served _ _
  obtain ⟨-, -, -, left⟩ := serve_spec served
  obtain ⟨-, -, -, cached, dirty, -⟩ := s.settle_frame id queue drained
  have own : drained.id = id := by
    rw [left]
    exact (tick_identity returned).1.trans (covered.keyed id subscription found)
  refine ⟨fun other sub there => ?_, fun clean other member => ?_, fun clean => ?_⟩
  · rw [settle_lookup] at there
    split_ifs at there with same
    · rw [some.injEq] at there
      rw [← there, own, same]
    · exact covered.keyed other sub there
  · rw [cached]
    refine covered.cached (dirty.symm.trans clean) other ?_
    rw [← lookup_isSome, settle_lookup] at member
    by_cases same : other = id
    · rw [same, ← lookup_isSome, found]
      rfl
    · rw [if_neg same] at member
      exact lookup_isSome.mp member
  · rw [cached]
    exact covered.nodup (dirty.symm.trans clean)

variable {removed : List (RemovedSubscription E)}

theorem tick_covered (covered : s.Covered)
    (ticked : s.tick o reason = .ok (removed, t)) : t.Covered := by
  have delivered := covered.of_reranks
    (inl (.of_answering (s.deliverPendingStatusChanges_answering o.now)))
  have expired := delivered.of_reranks
    (inl (.of_answering (removeExpiredPublishRequests_answering _ o.nowInstant)))
  obtain ⟨-, rfl, rfl⟩ | ⟨-, ticked⟩ | ⟨-, u, served, passed, rfl, rfl⟩ := tick_ok ticked
  · exact delivered.of_reranks (inl (.of_answering (faultRequests_answering _ _ _)))
  · obtain ⟨keyed, dirty⟩ := idlePass_dirty expired.keyed ticked
    exact .of_dirty keyed dirty
  · exact (pass_covered expired passed).of_reranks
      (inl (.of_answering (sendPublishResponses_answering _ _ _ u)))

theorem takeIn_covered (request : PendingPublish) (covered : s.Covered)
    (roomy : s.makeRoom o = .ok t) : (t.takeIn request).Covered := by
  refine Covered.of_reranks ?_ (inl (.of_answering (t.takeIn_answering request)))
  refine makeRoom_keeps covered (fun _ removed u ticked => tick_covered covered ticked)
    (fun u after rejected => ?_) roomy
  exact after.of_reranks (inl (.of_answering (rejectOldest_answering rejected)))

/-- **Every operation keeps the subscriptions covered.** -/
theorem Covered.step {op : SessionOp E} (covered : s.Covered) (applied : op.apply s = .ok t) :
    t.Covered := by
  cases op with
  | enqueuePublishRequest now nowInstant first second request =>
    obtain ⟨u, removed, roomy, ticked⟩ := enqueuePublishRequest_ok applied
    exact tick_covered (takeIn_covered request covered roomy) ticked
  | processNotificationWake o =>
    obtain ⟨-, rfl⟩ | ⟨-, u, served, passed, rfl⟩ := processNotificationWake_ok applied
    · exact covered
    · exact (pass_covered covered passed).of_reranks
        (inl (.of_answering (sendPublishResponses_answering _ _ _ u)))
  | tick o reason =>
    obtain ⟨⟨removed, u⟩, ticked, rfl⟩ := map_eq_ok.mp applied
    exact tick_covered covered ticked
  | _ =>
    refine covered.of_reranks (reranks_of_apply ?_ applied)
    exact not_false

theorem covered_of_reachable (reached : (sessions E).Reachable FreshSession s) : s.Covered := by
  have initially : ∀ s : SessionSubscriptions E, FreshSession s → s.Covered := by
    rintro s ⟨limits, userToken, rfl⟩
    exact .of_dirty (fun _ _ found => by cases found) rfl
  have step : ∀ s op t, s.Covered → (sessions E).step s op = some t → t.Covered :=
    fun _ _ _ covered stepped => covered.step (failing_step_eq_some.mp stepped)
  exact Machine.Reachable.invariant _ reached initially step

/-! ### What a tick for a publish request leaves -/

def SettledAt (s : SessionSubscriptions E) (id : ℕ) : Prop :=
  ∀ subscription, s.subscriptions.lookup id = some subscription → subscription.Settled

/-- **Requests are left over,** so the subscriptions that are ticked have nothing more to say. -/
structure Quiesced (nowInstant : ℕ) (s : SessionSubscriptions E) : Prop where
  covered : s.Covered
  clean : s.priorityCacheDirty = false
  delivered : s.pendingStatusChanges = []
  unexpired : ∀ request ∈ s.publishRequestQueue, nowInstant ≤ request.deadline
  settled : ∀ id, id ∉ s.transferring → s.SettledAt id

theorem visit_settles {other : ℕ}
    (visited : (visits E o .receivePublishRequest).step pass other = some after)
    (left : after.1.publishRequestQueue ≠ []) :
    after.1.transferring = pass.1.transferring ∧ pass.1.publishRequestQueue ≠ [] ∧
      ∀ id ∉ pass.1.transferring, id = other ∨ pass.1.SettledAt id → after.1.SettledAt id := by
  obtain ⟨s, before⟩ := pass
  obtain ⟨t, after⟩ := after
  by_cases staged : other ∈ s.transferring
  · cases visit_staged staged visited
    refine ⟨rfl, left, fun id live settled => settled.resolve_left fun same => ?_⟩
    exact live (same ▸ staged)
  obtain ⟨subscription, result, ticked, responses, queue, drained, found, returned, served,
    rfl, -⟩ :=
    visit_spec staged visited
  obtain ⟨conserved, handed, -, remains⟩ := serve_spec served
  rw [settle_publishRequestQueue] at left
  refine ⟨(s.settle_frame other queue drained).2.1, ?_, fun id live settled => ?_⟩
  · intro none
    rw [none] at conserved
    exact left (List.append_eq_nil_iff.mp conserved.symm).2
  · intro sub there
    rw [settle_lookup] at there
    split_ifs at there with same ready
    · rw [some.injEq] at there
      subst there
      -- Fewer messages than requests: none is left.
      have fewer : ticked.notifications.length ≤ s.publishRequestQueue.length := by
        have counted := congrArg List.length conserved
        have taken := congrArg List.length handed
        have some : 0 < queue.length := List.length_pos_iff.mpr left
        rw [List.length_append, List.length_map] at counted
        rw [List.length_map, List.length_take] at taken
        omega
      have empty : drained.notifications = [] := by
        rw [remains]
        exact List.drop_eq_nil_iff.mpr fewer
      have open' : drained.state ≠ .closed := by
        intro closed
        refine ready ?_
        rw [readyToRemove, closed, empty]
        rfl
      have state : drained.state = ticked.state := by rw [remains]
      refine ⟨empty, ?_⟩
      rcases receive_state returned with normal | keepAlive | closed
      · exact inl (state.trans normal)
      · exact inr (state.trans keepAlive)
      · exact absurd (state.trans closed) open'
    · exact settled.resolve_left same sub there

variable {ids : List ℕ}

theorem visits_settle (ran : (visits E o .receivePublishRequest).run pass ids = some after)
    (left : after.1.publishRequestQueue ≠ []) :
    after.1.transferring = pass.1.transferring ∧ pass.1.publishRequestQueue ≠ [] ∧
      ∀ id ∉ pass.1.transferring, id ∈ ids ∨ pass.1.SettledAt id → after.1.SettledAt id := by
  induction ids generalizing pass with
  | nil =>
    cases ran
    exact ⟨rfl, left, fun id _ settled => settled.resolve_left List.not_mem_nil⟩
  | cons other rest ih =>
    obtain ⟨mid, visited, ran⟩ := run_cons_eq_some _ |>.mp ran
    obtain ⟨transferring, waiting, later⟩ := ih ran
    obtain ⟨transferring', waiting', now⟩ := visit_settles visited waiting
    refine ⟨transferring.trans transferring', waiting', fun id live settled => ?_⟩
    refine later id (transferring' ▸ live) ?_
    rcases settled with member | settled
    · rcases List.mem_cons.mp member with same | member
      · exact inr (now id live (inl same))
      · exact inl member
    · exact inr (now id live (inr settled))

theorem deliverStatusChanges_delivers (now : ℤ) (owed : List (ℕ × NotificationMessage E))
    (s : SessionSubscriptions E)
    (left : (deliverStatusChanges now owed s).publishRequestQueue ≠ []) :
    (deliverStatusChanges now owed s).pendingStatusChanges = [] := by
  induction owed generalizing s with
  | nil => rfl
  | cons first rest ih =>
    unfold deliverStatusChanges at left ⊢
    split at left
    · rename_i none
      exact absurd none left
    · exact ih _ left

theorem sendPublishResponses_queues (now : ℤ) (moreNotifications : Bool)
    (responses : List (PendingPublish × NotificationMessage E × ℕ)) (s : SessionSubscriptions E) :
    (sendPublishResponses now moreNotifications responses s).publishRequestQueue =
        s.publishRequestQueue ∧
      (sendPublishResponses now moreNotifications responses s).pendingStatusChanges =
        s.pendingStatusChanges := by
  induction responses generalizing s with
  | nil => exact ⟨rfl, rfl⟩
  | cons response rest ih => exact ih _

theorem pass_frame (passed : s.tickSubscriptionsWithPublishRequests o reason = .ok (t, served)) :
    t.pendingStatusChanges = s.pendingStatusChanges ∧
      t.priorityCacheDirty = s.subscriptionIdsByPriority.2.priorityCacheDirty := by
  have refreshed : s.subscriptionIdsByPriority.2.pendingStatusChanges = s.pendingStatusChanges := by
    unfold subscriptionIdsByPriority
    split_ifs <;> rfl
  refine pass_invariant (P := fun pass => pass.1.pendingStatusChanges = s.pendingStatusChanges ∧
      pass.1.priorityCacheDirty = s.subscriptionIdsByPriority.2.priorityCacheDirty)
    passed ⟨refreshed, rfl⟩ ?_
  intro u _ id _ _ _ _ queue drained _ ⟨pending, dirty⟩ _ _ _ _ _ _
  obtain ⟨-, -, pending', -, dirty', -⟩ := u.settle_frame id queue drained
  exact ⟨pending'.trans pending, dirty'.trans dirty⟩

theorem pass_settles (covered : s.Covered)
    (passed : s.tickSubscriptionsWithPublishRequests o .receivePublishRequest = .ok (t, served))
    (left : t.publishRequestQueue ≠ []) : ∀ id ∉ t.transferring, t.SettledAt id := by
  intro id live
  obtain ⟨covers, clean, cached⟩ := subscriptionIdsByPriority_covers covered
  obtain ⟨transferring, -, settled⟩ := visits_settle (pass_run passed) left
  refine settled id (transferring ▸ live) ?_
  by_cases listed : id ∈ s.subscriptionIdsByPriority.1
  · exact inl listed
  · -- An id that is not listed has no subscription.
    refine inr fun sub there => absurd ?_ listed
    rw [← cached]
    exact covers.cached clean id (lookup_isSome.mp (by rw [there]; rfl))

theorem tick_quiesced (covered : s.Covered)
    (ticked : s.tick o .receivePublishRequest = .ok (removed, t))
    (left : t.publishRequestQueue ≠ []) : t.Quiesced o.nowInstant := by
  have after := tick_covered covered ticked
  have delivered := covered.of_reranks
    (inl (.of_answering (s.deliverPendingStatusChanges_answering o.now)))
  obtain ⟨-, rfl, rfl⟩ | ⟨idle, ticked⟩ | ⟨busy, u, served, passed, rfl, rfl⟩ := tick_ok ticked
  · refine absurd ?_ left
    exact List.filter_eq_nil_iff.mpr fun _ _ impossible => by cases impossible
  · rw [List.isEmpty_iff, ← (idlePass_requests ticked).queue] at idle
    exact absurd idle left
  · have expired := delivered.of_reranks
      (inl (.of_answering (removeExpiredPublishRequests_answering _ o.nowInstant)))
    obtain ⟨queue, pending⟩ :=
      sendPublishResponses_queues o.now served.moreNotifications served.responses u
    have answering :=
      sendPublishResponses_answering o.now served.moreNotifications served.responses u
    rw [queue] at left
    obtain ⟨taken, -⟩ := pass_takes passed
    obtain ⟨pending', dirty'⟩ := pass_frame passed
    obtain ⟨-, clean, -⟩ := subscriptionIdsByPriority_covers expired
    have selected : ∀ request ∈ u.publishRequestQueue, o.nowInstant ≤ request.deadline := by
      intro request member
      have before : request ∈ (removeExpiredPublishRequests
          (s.deliverPendingStatusChanges o.now) o.nowInstant).publishRequestQueue := by
        rw [taken]
        exact List.mem_append_right _ member
      simpa using (List.mem_filter.mp before).2
    have waiting : (s.deliverPendingStatusChanges o.now).publishRequestQueue ≠ [] := by
      intro none
      refine absurd ?_ (ne_true_of_eq_false busy)
      rw [removeExpiredPublishRequests, faultRequests, none]
      rfl
    refine ⟨after, answering.dirty.trans (dirty'.trans clean), ?_, ?_, fun id live => ?_⟩
    · exact pending.trans (pending'.trans
        (deliverStatusChanges_delivers o.now s.pendingStatusChanges s waiting))
    · rw [queue]
      exact selected
    · rw [answering.transferring] at live
      rw [SettledAt, answering.subscriptions]
      exact pass_settles expired passed left id live

/-! ### States in which the loop hangs -/

/-- **The loop hangs.** A request waits, a subscription staged for transfer has messages, and there
are others that are not staged; the tick finds all of these. -/
structure Hangs (s : SessionSubscriptions E) : Prop where
  waiting : s.publishRequestQueue ≠ []
  staged : ∃ id ∈ s.transferring, ∃ subscription, s.subscriptions.lookup id = some subscription ∧
    subscription.notifications ≠ []
  others : s.len ≠ s.transferring.card
  found : ∀ id ∈ s.cachedPriorityOrder, id ∉ s.transferring → id ∈ s.subscriptions

/-- A session with the same subscriptions, listed in another order. -/
def Relisted (s t : SessionSubscriptions E) : Prop :=
  ∃ subscriptions : SubscriptionMap E,
    (∀ id, subscriptions.lookup id = s.subscriptions.lookup id) ∧
    t = { s with subscriptions := subscriptions }

theorem Relisted.len (relisted : s.Relisted t) : t.len = s.len := by
  obtain ⟨subscriptions, same, rfl⟩ := relisted
  refine List.Perm.length_eq ?_
  refine (List.perm_ext_iff_of_nodup subscriptions.keys_nodup s.subscriptions.keys_nodup).mpr ?_
  intro id
  rw [← mem_keys, ← mem_keys, ← lookup_isSome, same, lookup_isSome]

variable {subscription : Subscription E}

theorem serve_drained (id : ℕ) (queue : List PendingPublish)
    (drained : subscription.notifications = []) :
    serve id queue subscription = ([], queue, subscription) := by
  cases queue with
  | nil => rfl
  | cons request rest =>
    unfold serve takeNotification
    rw [drained]

theorem settled_pass (o : Occasion) (served : Served E)
    (found : ∀ id ∈ ids, id ∉ s.transferring → id ∈ s.subscriptions)
    (settled : ∀ id, id ∉ s.transferring → s.SettledAt id) {u : SessionSubscriptions E}
    (relisted : s.Relisted u) :
    ∃ t, s.Relisted t ∧
      tickEachWithRequests o .receivePublishRequest ids u served = .ok (t, served) := by
  induction ids generalizing u with
  | nil => exact ⟨u, relisted, rfl⟩
  | cons id rest ih =>
    have later := fun other member => found other (List.mem_cons_of_mem id member)
    obtain ⟨subscriptions, same, rfl⟩ := relisted
    unfold tickEachWithRequests
    by_cases staged : id ∈ s.transferring
    · rw [if_pos staged]
      exact ih later ⟨subscriptions, same, rfl⟩
    · rw [if_neg staged]
      obtain ⟨subscription, there⟩ := isSome_iff_exists.mp
        (lookup_isSome.mpr (found id List.mem_cons_self staged))
      have quiet := settled id staged subscription there
      have alive : subscription.readyToRemove = false := by
        unfold readyToRemove
        rcases quiet.running with normal | keepAlive
        · rw [normal]
          rfl
        · rw [keepAlive]
          rfl
      have visited : tickSubscriptionWithPublishRequests o .receivePublishRequest id
          { s with subscriptions := subscriptions } served =
          .ok ({ s with subscriptions := subscriptions.insert id subscription }, served) := by
        unfold tickSubscriptionWithPublishRequests
        rw [same, there]
        dsimp only
        rw [tickSubscription, quiet.tick]
        show Except.ok _ = _
        simp [serve_drained id s.publishRequestQueue quiet.drained, settle, alive,
          moreNotifications, quiet.drained]
      rw [visited]
      refine ih later ⟨subscriptions.insert id subscription, fun other => ?_, rfl⟩
      by_cases own : other = id
      · rw [own, lookup_insert, there]
      · rw [lookup_insert_ne own, same]

theorem Relisted.mem_iff (relisted : s.Relisted t) (id : ℕ) :
    id ∈ t.subscriptions ↔ id ∈ s.subscriptions := by
  obtain ⟨subscriptions, same, rfl⟩ := relisted
  rw [← lookup_isSome, same, lookup_isSome]

theorem Relisted.keeps (relisted : s.Relisted t) (quiet : s.Quiesced nowInstant) (hangs : s.Hangs) :
    t.Quiesced nowInstant ∧ t.Hangs := by
  have len := relisted.len
  have present := relisted.mem_iff
  obtain ⟨subscriptions, same, rfl⟩ := relisted
  refine ⟨⟨⟨fun id sub there => ?_, fun clean id member => ?_, quiet.covered.nodup⟩, quiet.clean,
    quiet.delivered, quiet.unexpired, fun id live sub there => ?_⟩, hangs.waiting, ?_, ?_, ?_⟩
  · exact quiet.covered.keyed id sub ((same id).symm.trans there)
  · exact quiet.covered.cached clean id ((present id).mp member)
  · exact quiet.settled id live sub ((same id).symm.trans there)
  · obtain ⟨id, staged, sub, there, more⟩ := hangs.staged
    exact ⟨id, staged, sub, (same id).trans there, more⟩
  · rw [len]
    exact hangs.others
  · exact fun id listed live => (present id).mpr (hangs.found id listed live)

theorem Quiesced.settled_queues (quiet : s.Quiesced nowInstant) (now : ℤ) :
    s.deliverPendingStatusChanges now = s ∧ s.removeExpiredPublishRequests nowInstant = s := by
  have delivered := quiet.delivered
  have current : ∀ request ∈ s.publishRequestQueue, ¬ request.deadline < nowInstant :=
    fun request member => Nat.not_lt.mpr (quiet.unexpired request member)
  have kept : (s.publishRequestQueue.filter fun request =>
      !decide (request.deadline < nowInstant)) = s.publishRequestQueue :=
    List.filter_eq_self.mpr fun request member => by simp [current request member]
  have gone : (s.publishRequestQueue.filter fun request =>
      decide (request.deadline < nowInstant)) = [] :=
    List.filter_eq_nil_iff.mpr fun request member => by simp [current request member]
  constructor
  · rw [deliverPendingStatusChanges, delivered, deliverStatusChanges]
    cases s
    simp only at delivered
    rw [delivered]
  · rw [removeExpiredPublishRequests, faultRequests, kept, gone, List.map_nil, List.append_nil]

theorem stuck_tick (o : Occasion) (quiet : s.Quiesced o.nowInstant) (hangs : s.Hangs) :
    ∃ t, s.tick o .receivePublishRequest = .ok ([], t) ∧ s.Relisted t := by
  obtain ⟨delivered, current⟩ := quiet.settled_queues o.now
  obtain ⟨id, -, subscription, there, -⟩ := hangs.staged
  have some : ¬ (s.len = 0 ∨ s.len = s.transferring.card) := by
    rintro (none | all)
    · have member : id ∈ s.subscriptions.keys :=
        mem_keys.mp (lookup_isSome.mp (by rw [there]; rfl))
      rw [List.length_eq_zero_iff.mp none] at member
      cases member
    · exact hangs.others all
  have clean : ¬ s.priorityCacheDirty = true := by
    rw [quiet.clean]
    exact Bool.false_ne_true
  obtain ⟨t, relisted, passed⟩ := settled_pass o ⟨[], [], false⟩ hangs.found
    quiet.settled ⟨s.subscriptions, fun _ => rfl, rfl⟩
  refine ⟨t, ?_, relisted⟩
  unfold tick
  rw [delivered, if_neg some, current, if_neg (mt List.isEmpty_iff.mp hangs.waiting),
    tickSubscriptionsWithPublishRequests, subscriptionIdsByPriority, if_neg clean]
  dsimp only
  rw [passed]
  rfl

theorem visits_find (ran : (visits E o reason).run pass ids = some after) :
    ∀ id ∈ ids, id ∉ pass.1.transferring → id ∈ pass.1.subscriptions := by
  induction ids generalizing pass with
  | nil => exact fun id member => absurd member List.not_mem_nil
  | cons first rest ih =>
    obtain ⟨s, before⟩ := pass
    obtain ⟨⟨t, mid⟩, visited, rested⟩ := run_cons_eq_some _ |>.mp ran
    have later := ih rested
    intro id member live
    by_cases staged : first ∈ s.transferring
    · cases visit_staged staged visited
      rcases List.mem_cons.mp member with rfl | member
      · exact absurd staged live
      · exact later id member live
    obtain ⟨subscription, -, -, -, queue, drained, found, -, -, rfl, -⟩ := visit_spec staged visited
    have there : first ∈ s.subscriptions := lookup_isSome.mp (by rw [found]; rfl)
    by_cases same : id = first
    · exact same ▸ there
    · have present := later id ((List.mem_cons.mp member).resolve_left same)
        ((s.settle_frame first queue drained).2.1 ▸ live)
      rwa [← lookup_isSome, settle_lookup, if_neg same, lookup_isSome] at present

/-! ### The loop -/

theorem Quiesced.staged_of_again (quiet : s.Quiesced nowInstant) {id : ℕ}
    (there : s.subscriptions.lookup id = some subscription)
    (more : subscription.notifications ≠ []) : id ∈ s.transferring := by
  by_contra live
  exact more (quiet.settled id live subscription there).drained

theorem ends_of_not_hangs (quiet : s.publishRequestQueue ≠ [] → s.Quiesced nowInstant)
    (free : ¬ s.Hangs) : (publishLoop now nowInstant orders).Ends s := by
  by_cases again : (publishLoop now nowInstant orders).again s
  swap
  · exact Loop.ends_of_not_again _ (by rwa [Bool.not_eq_true] at again)
  obtain ⟨⟨id, subscription, there, more⟩, waiting⟩ := again_iff s |>.mp again
  have quiet := quiet waiting
  have staged := quiet.staged_of_again there more
  obtain ⟨delivered, current⟩ := quiet.settled_queues now
  refine Loop.ends_of_last _ fun t returned => ?_
  obtain ⟨⟨removed, t⟩, ticked, rfl⟩ := map_eq_ok.mp returned
  by_contra goes
  rw [Bool.not_eq_false] at goes
  obtain ⟨-, left⟩ := again_iff t |>.mp goes
  refine free ⟨waiting, ⟨id, staged, subscription, there, more⟩, fun all => ?_, ?_⟩
  · -- All are staged: every request is rejected.
    unfold tick at ticked
    rw [delivered, if_pos (inr all)] at ticked
    cases ticked
    refine absurd ?_ left
    exact List.filter_eq_nil_iff.mpr fun _ _ impossible => by cases impossible
  · -- The pass has returned, so it has found its subscriptions.
    unfold tick at ticked
    dsimp only at ticked
    have clean : ¬ s.priorityCacheDirty = true := by
      rw [quiet.clean]
      exact Bool.false_ne_true
    rw [delivered] at ticked
    split_ifs at ticked with none idle
    · cases ticked
      refine absurd ?_ left
      exact List.filter_eq_nil_iff.mpr fun _ _ impossible => by cases impossible
    · rw [current] at idle
      exact absurd (List.isEmpty_iff.mp idle) waiting
    · obtain ⟨⟨u, served⟩, passed, -⟩ := map_eq_ok.mp ticked
      rw [current] at passed
      have listed := visits_find (pass_run passed)
      rwa [subscriptionIdsByPriority, if_neg clean] at listed

theorem not_ends_of_hangs (quiet : s.Quiesced nowInstant) (hangs : s.Hangs) :
    ¬ (publishLoop now nowInstant orders).Ends s := by
  have again : ∀ s : SessionSubscriptions E, s.Quiesced nowInstant ∧ s.Hangs →
      (publishLoop now nowInstant orders).again s := by
    rintro s ⟨-, hangs⟩
    obtain ⟨id, -, subscription, there, more⟩ := hangs.staged
    exact (again_iff s).mpr ⟨⟨id, subscription, there, more⟩, hangs.waiting⟩
  have keeps : ∀ next (s : SessionSubscriptions E), s.Quiesced nowInstant ∧ s.Hangs →
      ∃ t, (publishLoop now nowInstant orders).body next s = .ok t ∧
        t.Quiesced nowInstant ∧ t.Hangs := by
    rintro next s ⟨quiet, hangs⟩
    obtain ⟨t, ticked, relisted⟩ := stuck_tick ⟨now, nowInstant, orders next⟩ quiet hangs
    refine ⟨t, ?_, relisted.keeps quiet hangs⟩
    show (s.tick _ _).map _ = _
    rw [ticked]
    rfl
  exact Loop.not_ends_of_invariant _ again keeps ⟨quiet, hangs⟩

theorem enqueue_quiesced {first second : Orders} {request : PendingPublish} (covered : s.Covered)
    (enqueued : s.enqueuePublishRequest now nowInstant first second request = .ok t)
    (left : t.publishRequestQueue ≠ []) : t.Quiesced nowInstant := by
  obtain ⟨u, removed, roomy, ticked⟩ := enqueuePublishRequest_ok enqueued
  exact tick_quiesced (takeIn_covered request covered roomy) ticked left

/-- **The loop that drains the queues ends exactly in the states that do not hang.** -/
theorem publish_loop_ends_iff {s t : SessionSubscriptions E} {now : ℤ} {nowInstant : ℕ}
    {first second : Orders} {request : PendingPublish}
    (reached : (sessions E).Reachable FreshSession s)
    (enqueued : s.enqueuePublishRequest now nowInstant first second request = .ok t)
    (orders : ℕ → Orders) : (publishLoop now nowInstant orders).Ends t ↔ ¬ t.Hangs := by
  have quiet := enqueue_quiesced (covered_of_reachable reached) enqueued
  constructor
  · exact fun ends hangs => not_ends_of_hangs (quiet hangs.waiting) hangs ends
  · exact fun free => ends_of_not_hangs quiet free

/-- A subscription that has expired, with its last message. -/
def expired (id : ℕ) : Subscription Externals.integers :=
  { integerSubscription threeCounts 0 with
    id := id, state := .closed
    notifications := [.statusChange 1 0 StatusCode.BadTimeout] }

/-- Two publish requests wait at a subscription that has nothing to say; two expired subscriptions
come in its place, and one of them is staged for transfer. -/
def stagedBesideExpired : List (SessionOp Externals.integers) :=
  [createInteger 3 30 0, publishInteger 1, publishInteger 2, .insert (expired 1) [],
    .insert (expired 2) [], .markTransferring 1, .deleteSubscriptions [3]]

/-- The next request serves the other out; the loop goes round once more, and ends. -/
theorem publish_loop_ends_staged :
    ∃ s t, (sessions _).run integerSession stagedBesideExpired = some s ∧
      s.enqueuePublishRequest 0 0 upwardOrders upwardOrders ⟨3, ⟨3, none⟩, none, 10⟩ = .ok t ∧
      (publishLoop 0 0 fun _ => upwardOrders).again t ∧
      (publishLoop 0 0 fun _ => upwardOrders).Ends t := by
  obtain ⟨s, t, ran, enqueued, again, all⟩ : ∃ s t, (sessions _).run integerSession
      stagedBesideExpired = some s ∧
      s.enqueuePublishRequest 0 0 upwardOrders upwardOrders ⟨3, ⟨3, none⟩, none, 10⟩ = .ok t ∧
      (publishLoop 0 0 fun _ => upwardOrders).again t = true ∧ t.len = t.transferring.card :=
    ⟨_, _, rfl, rfl, rfl, rfl⟩
  have reached : (sessions _).Reachable FreshSession s :=
    (Machine.Reachable.of_start _ fresh_integerSession).run _ ran
  exact ⟨s, t, ran, enqueued, again,
    (publish_loop_ends_iff reached enqueued _).mpr fun hangs => hangs.others all⟩

/-- The first subscription expires and is staged for transfer before its last message is taken. -/
def stagedAfterExpiry : List (SessionOp Externals.integers) :=
  [createInteger 1 3 0, createInteger 2 30 0, .tick standstill .tickTimerFired,
    .tick standstill .tickTimerFired, .tick standstill .tickTimerFired,
    .tick standstill .tickTimerFired, .markTransferring 1, publishInteger 1]

/-- **A subscription staged for transfer with messages can hang the loop.** -/
theorem staged_messages_hang :
    ¬ ∀ (E : Externals) (init s t : SessionSubscriptions E) (ops : List (SessionOp E)) (now : ℤ)
      (nowInstant : ℕ) (first second : Orders) (request : PendingPublish) (orders : ℕ → Orders),
      FreshSession init → (sessions E).run init ops = some s →
      s.enqueuePublishRequest now nowInstant first second request = .ok t →
      (publishLoop now nowInstant orders).Ends t := by
  intro always
  obtain ⟨s, t, ran, enqueued, waiting, others, cached, staged⟩ :
      ∃ s t, (sessions _).run integerSession stagedAfterExpiry = some s ∧
        s.enqueuePublishRequest 0 0 upwardOrders upwardOrders ⟨2, ⟨2, none⟩, none, 10⟩ = .ok t ∧
        t.publishRequestQueue.length = 1 ∧ t.len ≠ t.transferring.card ∧
        (∀ id ∈ t.cachedPriorityOrder, id ∈ t.subscriptions) ∧
        1 ∈ t.transferring ∧ ∃ subscription, t.subscriptions.lookup 1 = some subscription ∧
          subscription.notifications ≠ [] := by
    refine ⟨_, _, rfl, rfl, rfl, by decide, by decide, by decide, _, rfl, ?_⟩
    exact fun none => by cases none
  have reached : (sessions _).Reachable FreshSession s :=
    (Machine.Reachable.of_start _ fresh_integerSession).run _ ran
  have left : t.publishRequestQueue ≠ [] := List.ne_nil_of_length_pos (by omega)
  refine not_ends_of_hangs (enqueue_quiesced (covered_of_reachable reached) enqueued left)
    ⟨left, ⟨1, staged⟩, others, fun id listed _ => cached id listed⟩
    (always _ integerSession s t stagedAfterExpiry 0 0 upwardOrders upwardOrders _
      (fun _ => upwardOrders) fresh_integerSession ran enqueued)

end SessionSubscriptions

end AsyncOpcua.Subscriptions
