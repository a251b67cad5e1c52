/-
**The queue of the publish requests and the number of subscriptions.**

The limit of the queue falls with every subscription that leaves, and the waiting requests stay.

* `publish_queue_bounded` — the queue is within its limit all along the runs that leave room.
-/

import AsyncOpcua.Subscriptions.PublishLoop
import AsyncOpcua.Subscriptions.WatchedItems

namespace AsyncOpcua.Subscriptions

open Types Foundation List Machine

variable {E : Externals}

namespace SessionSubscriptions

def maxPublishRequestsFor (s : SessionSubscriptions E) (count : ℕ) : ℕ :=
  max (min s.limits.maxPendingPublishRequests
    (count * s.limits.maxPublishRequestsPerSubscription)) 1

variable {s t : SessionSubscriptions E}

theorem maxPublishRequestsFor_mono (limits : t.limits = s.limits) {few many : ℕ} (le : few ≤ many) :
    s.maxPublishRequestsFor few ≤ t.maxPublishRequestsFor many := by
  unfold maxPublishRequestsFor
  rw [limits]
  exact max_le_max_right 1 (min_le_min_left _ (Nat.mul_le_mul_right _ le))

def openIds (s : SessionSubscriptions E) : List ℕ :=
  s.subscriptions.keys.filter fun id => (s.copy id).any fun sub => decide (sub.state ≠ .closed)

theorem mem_openIds {id : ℕ} : id ∈ s.openIds ↔ s.OpenAt id := by
  rw [openIds, mem_filter, ← AList.mem_keys, Option.any_eq_true]
  simp only [decide_eq_true_eq]
  exact ⟨fun opened => opened.2, fun opened => ⟨opened.mem, opened⟩⟩

/-- A tick closes the subscription, whether a request waits or not. -/
def runsOut (s : SessionSubscriptions E) (nowInstant : ℕ) (reason : TickReason) (id : ℕ) : Bool :=
  decide (id ∉ s.transferring) && (s.copy id).any fun sub =>
    [true, false].any fun queued => (sub.closingMessages nowInstant reason queued).isSome

/-- The subscriptions that a step may close or take away. -/
def leavers (s : SessionSubscriptions E) : SessionOp E → List ℕ
  | .insert subscription _ => [subscription.id]
  | .remove id => [id]
  | .deleteSubscriptions ids => ids
  | .tick o reason => s.subscriptions.keys.filter (s.runsOut o.nowInstant reason)
  | _ => []

/-- **The step leaves room for the waiting requests:** they are within the limit for the open
subscriptions that stay. A request that arrives is counted in, unless the queue is full. -/
def LeavesRoom (s : SessionSubscriptions E) : SessionOp E → Prop
  | .enqueuePublishRequest .. => min (s.publishRequestQueue.length + 1) s.maxPublishRequests ≤
      s.maxPublishRequestsFor s.openIds.length
  | op => s.publishRequestQueue.length ≤
      s.maxPublishRequestsFor (s.openIds.filter fun id => decide (id ∉ s.leavers op)).length

def Roomy (s : SessionSubscriptions E) : Prop :=
  s.publishRequestQueue.length ≤ s.maxPublishRequestsFor s.openIds.length

theorem length_le_len {ids : List ℕ} (nodup : ids.Nodup)
    (present : ∀ id ∈ ids, id ∈ s.subscriptions) : ids.length ≤ s.len :=
  (subperm_of_subset nodup fun id member => AList.mem_keys.mp (present id member)).length_le

theorem nodup_openIds (s : SessionSubscriptions E) : s.openIds.Nodup :=
  s.subscriptions.keys_nodup.filter _

theorem Roomy.bounded (roomy : s.Roomy) : s.publishRequestQueue.length ≤ s.maxPublishRequests :=
  roomy.trans (maxPublishRequestsFor_mono rfl
    (length_le_len s.nodup_openIds fun _ member => (mem_openIds.mp member).mem))

theorem Roomy.of_open (limits : t.limits = s.limits) {ids : List ℕ} (nodup : ids.Nodup)
    (stay : ∀ id ∈ ids, t.OpenAt id)
    (within : t.publishRequestQueue.length ≤ s.maxPublishRequestsFor ids.length) : t.Roomy :=
  within.trans (maxPublishRequestsFor_mono limits
    (subperm_of_subset nodup fun id member => mem_openIds.mpr (stay id member)).length_le)

/-! ### The queue grows by arrivals only -/

structure Shrinks (s t : SessionSubscriptions E) : Prop where
  limits : t.limits = s.limits
  queue : t.publishRequestQueue.length ≤ s.publishRequestQueue.length

theorem Shrinks.refl (s : SessionSubscriptions E) : s.Shrinks s := ⟨rfl, le_rfl⟩

theorem Shrinks.trans {u : SessionSubscriptions E} (first : s.Shrinks t) (second : t.Shrinks u) :
    s.Shrinks u :=
  ⟨second.limits.trans first.limits, second.queue.trans first.queue⟩

theorem Undisturbed.shrinks (same : s.Undisturbed t) : s.Shrinks t :=
  ⟨same.limits, (congrArg length same.queue).le⟩

theorem faultRequests_shrinks (s : SessionSubscriptions E) (selected : PendingPublish → Bool)
    (serviceResult : StatusCode) : s.Shrinks (s.faultRequests selected serviceResult) :=
  ⟨rfl, length_filter_le _ _⟩

theorem deliverStatusChanges_shrinks (now : ℤ) (owed : List (ℕ × NotificationMessage E))
    (s : SessionSubscriptions E) : s.Shrinks (deliverStatusChanges now owed s) := by
  induction owed generalizing s with
  | nil => exact ⟨rfl, le_rfl⟩
  | cons first rest ih =>
    unfold deliverStatusChanges
    split
    · exact ⟨rfl, le_rfl⟩
    · rename_i request queue waiting
      refine ⟨(ih _).limits, (ih _).queue.trans ?_⟩
      rw [waiting]
      exact Nat.le_succ _

theorem sendPublishResponses_shrinks (now : ℤ) (moreNotifications : Bool)
    (responses : List (PendingPublish × NotificationMessage E × ℕ)) (s : SessionSubscriptions E) :
    s.Shrinks (sendPublishResponses now moreNotifications responses s) := by
  induction responses generalizing s with
  | nil => exact .refl s
  | cons response rest ih => exact ⟨(ih _).limits, (ih _).queue⟩

theorem pass_shrinks {o : Occasion} {reason : TickReason} {served : Served E}
    (passed : s.tickSubscriptionsWithPublishRequests o reason = .ok (t, served)) : s.Shrinks t := by
  obtain ⟨taken, -, limits⟩ := pass_takes passed
  refine ⟨limits, ?_⟩
  rw [taken, length_append]
  exact Nat.le_add_left _ _

theorem tick_shrinks {o : Occasion} {reason : TickReason} {removed : List (RemovedSubscription E)}
    (ticked : s.tick o reason = .ok (removed, t)) : s.Shrinks t := by
  refine (deliverStatusChanges_shrinks o.now s.pendingStatusChanges s).trans ?_
  obtain ⟨-, rfl, rfl⟩ | ⟨-, ticked⟩ | ⟨-, u, served, passed, rfl, rfl⟩ := tick_ok ticked
  · exact faultRequests_shrinks _ _ _
  · exact (faultRequests_shrinks _ _ _).trans (idlePass_requests ticked).shrinks
  · exact ((faultRequests_shrinks _ _ _).trans (pass_shrinks passed)).trans
      (sendPublishResponses_shrinks _ _ _ u)

theorem shrinks_of_apply {s t : SessionSubscriptions E} {op : SessionOp E}
    (other : ∀ now nowInstant first second request,
      op ≠ .enqueuePublishRequest now nowInstant first second request)
    (applied : op.apply s = .ok t) : s.Shrinks t := by
  cases op with
  | cancelPublishRequests requestHandle =>
    cases applied
    exact faultRequests_shrinks _ _ _
  | enqueuePublishRequest => exact absurd rfl (other _ _ _ _ _)
  | processNotificationWake o =>
    obtain ⟨-, rfl⟩ | ⟨-, u, served, passed, rfl⟩ := processNotificationWake_ok applied
    · exact .refl _
    · exact (pass_shrinks passed).trans (sendPublishResponses_shrinks _ _ _ u)
  | tick o reason =>
    obtain ⟨⟨removed, u⟩, ticked, rfl⟩ := map_eq_ok.mp applied
    exact tick_shrinks ticked
  | _ =>
    refine (requests_of_apply ?_ applied).shrinks
    exact not_false

/-! ### What a tick reports -/

section

variable {o : Occasion} {reason : TickReason} {id other : ℕ}
  {removed before : List (RemovedSubscription E)}

theorem runsOut_congr {nowInstant : ℕ} (copies : t.copy id = s.copy id)
    (transferring : t.transferring = s.transferring) :
    t.runsOut nowInstant reason id = s.runsOut nowInstant reason id := by
  rw [runsOut, runsOut, copies, transferring]

theorem runsOut_of_reported {sub ticked : Subscription E} {queued : Bool} {visit : VisitOrder}
    {result : TickResult} {refs : List (MonitoredItemRef E)} (live : id ∉ s.transferring)
    (found : s.copy id = some sub)
    (returned : sub.tick o.now o.nowInstant reason queued visit = some (result, ticked))
    (reported : other ∈ (if result = .expired then before ++ [⟨id, refs⟩] else before).map (·.id)) :
    other ∈ before.map (·.id) ∨ other = id ∧ s.runsOut o.nowInstant reason id = true := by
  split_ifs at reported with expired
  · rw [map_append, mem_append, map_singleton, mem_singleton] at reported
    refine reported.imp_right fun same => ⟨same, ?_⟩
    have closes : (sub.closingMessages o.nowInstant reason queued).isSome = true := by
      rw [Subscription.closingMessages]
      split
      · rfl
      · rw [if_pos (Subscription.tick_expires_row (expired ▸ returned))]
        rfl
    rw [runsOut, found, decide_eq_true live]
    exact any_eq_true.mpr ⟨queued, by cases queued <;> decide, closes⟩
  · exact .inl reported

theorem pass_reports {served : Served E} (covered : s.Covered)
    (passed : s.tickSubscriptionsWithPublishRequests o reason = .ok (t, served))
    (reported : id ∈ served.removed.map (·.id)) : s.runsOut o.nowInstant reason id = true := by
  have ordered : s.subscriptionIdsByPriority.1.Nodup := by
    obtain ⟨after, clean, same⟩ := subscriptionIdsByPriority_covers covered
    exact same ▸ after.nodup clean
  have last := (visits E o reason).run_once
    (P := fun pass id => id ∈ pass.2.removed.map (·.id))
    (Q := fun pass id => pass.1.runsOut o.nowInstant reason id = true)
    ?_ ?_ ordered (pass_run passed) reported
  · obtain ⟨-, out⟩ := last.resolve_left not_mem_nil
    rw [← out]
    unfold subscriptionIdsByPriority
    split_ifs <;> rfl
  · rintro ⟨u, before⟩ other ⟨v, after⟩ visited id reported
    by_cases staged : other ∈ u.transferring
    · cases visit_staged staged visited
      exact .inl reported
    · obtain ⟨sub, result, ticked, -, -, -, found, returned, -, -, -, removed⟩ :=
        visit_spec staged visited
      exact runsOut_of_reported staged found returned (removed ▸ reported)
  · rintro ⟨u, before⟩ other ⟨v, after⟩ visited id apart out
    by_cases staged : other ∈ u.transferring
    · cases visit_staged staged visited
      exact out
    · obtain ⟨-, -, -, -, queue, drained, -, -, -, rfl, -, -⟩ := visit_spec staged visited
      refine (runsOut_congr ?_ (u.settle_frame other queue drained).2.1).symm.trans out
      rw [copy, settle_lookup, if_neg apart]
      rfl

theorem idlePass_reports
    (passed : s.tickSubscriptionsWithoutPublishRequests o reason = .ok (removed, t))
    (reported : id ∈ removed.map (·.id)) : s.runsOut o.nowInstant reason id = true := by
  obtain ⟨⟨u, collected⟩, visited, built⟩ := map_eq_ok.mp passed
  cases built
  have last := (idleVisits E o reason).run_once
    (P := fun pass id => id ∈ pass.2.removed.map (·.id))
    (Q := fun pass id => pass.1.runsOut o.nowInstant reason id = true)
    ?_ ?_ (o.orders.subscriptions.nodup _) (tickEachWithoutRequests_eq_ok.mp visited) reported
  · exact (last.resolve_left not_mem_nil).2
  · rintro ⟨u, before⟩ other ⟨v, after⟩ visited id reported
    obtain unchanged | ⟨staged, sub, result, ticked, found, returned, -, removed, -⟩ :=
      idleVisit_spec visited
    · cases unchanged
      exact .inl reported
    · exact runsOut_of_reported staged found returned (removed ▸ reported)
  · rintro ⟨u, before⟩ other ⟨v, after⟩ visited id apart out
    obtain unchanged | ⟨-, sub, result, ticked, -, -, rfl, -, -⟩ := idleVisit_spec visited
    · cases unchanged
      exact out
    · rw [← out]
      refine (runsOut_congr ?_ ?_).symm
      · exact AList.lookup_insert_ne apart
      · rfl

theorem tick_reports (covered : s.Covered) (ticked : s.tick o reason = .ok (removed, t))
    (reported : id ∈ removed.map (·.id)) : s.runsOut o.nowInstant reason id = true := by
  have delivered := s.deliverPendingStatusChanges_answering o.now
  have same : (s.deliverPendingStatusChanges o.now).runsOut o.nowInstant reason id =
      s.runsOut o.nowInstant reason id :=
    runsOut_congr (congrArg (AList.lookup id) delivered.subscriptions) delivered.transferring
  rw [← same]
  obtain ⟨-, rfl, rfl⟩ | ⟨-, ticked⟩ | ⟨-, u, served, passed, rfl, rfl⟩ := tick_ok ticked
  · exact absurd reported not_mem_nil
  · exact idlePass_reports (s := removeExpiredPublishRequests _ o.nowInstant) ticked reported
  · refine pass_reports (s := removeExpiredPublishRequests _ o.nowInstant) ?_ passed reported
    exact (covered.of_reranks (.inl (.of_answering delivered))).of_reranks
      (.inl (.of_answering (removeExpiredPublishRequests_answering _ o.nowInstant)))

end

/-! ### Every operation -/

variable {op : SessionOp E}

theorem open_of_apply {id : ℕ} (covered : s.Covered) (opened : s.OpenAt id)
    (stays : id ∉ s.leavers op) (applied : op.apply s = .ok t) : t.OpenAt id := by
  cases op with
  | insert subscription notifs =>
    cases applied
    obtain ⟨sub, there, running⟩ := opened
    unfold SessionSubscriptions.insert
    split_ifs
    · exact ⟨sub, there, running⟩
    · exact ⟨sub, (AList.lookup_insert_ne (mt mem_singleton.mpr stays)).trans there, running⟩
  | remove other =>
    cases applied
    obtain ⟨sub, there, running⟩ := opened
    exact ⟨sub, (AList.lookup_erase_ne (mt mem_singleton.mpr stays)).trans there, running⟩
  | markTransferring other =>
    cases applied
    refine opened.of_subscriptions ?_
    unfold SessionSubscriptions.markTransferring
    split_ifs <;> rfl
  | createSubscription request info other nowInstant =>
    cases applied
    cases created : s.createSubscription request info other nowInstant with
    | mk answer u =>
      cases answer with
      | error status =>
        rw [createSubscription_error created]
        exact opened
      | ok response =>
        obtain ⟨-, own, -, kept⟩ := createSubscription_spec created
        by_cases same : id = other
        · exact same ▸ own
        · exact kept id same opened
  | deleteSubscriptions ids =>
    cases applied
    refine (deleteSubscriptions_keeps_open opened).resolve_right fun deleted => stays ?_
    obtain ⟨entry, member, gone⟩ := mem_filterMap.mp deleted
    split_ifs at gone
    cases gone
    exact (of_mem_zip member).2
  | queueStatusChange =>
    cases applied
    exact opened.of_subscriptions rfl
  | tick o reason =>
    obtain ⟨⟨removed, u⟩, ticked, rfl⟩ := map_eq_ok.mp applied
    refine (tick_keeps_open opened ticked).resolve_right fun reports => stays ?_
    exact mem_filter.mpr ⟨AList.mem_keys.mp opened.mem, tick_reports covered ticked reports.2⟩
  | _ =>
    refine keeps_open_of_apply ?_ opened applied
    exact trivial

theorem enqueuePublishRequest_length {now : ℤ} {nowInstant : ℕ} {first second : Orders}
    {request : PendingPublish} (within : s.publishRequestQueue.length ≤ s.maxPublishRequests)
    (enqueued : s.enqueuePublishRequest now nowInstant first second request = .ok t) :
    t.limits = s.limits ∧
      t.publishRequestQueue.length ≤
        min (s.publishRequestQueue.length + 1) s.maxPublishRequests := by
  obtain ⟨u, made, returned⟩ := bind_eq_ok.mp enqueued
  obtain ⟨⟨removed, v⟩, last, rfl⟩ := map_eq_ok.mp returned
  obtain ⟨w, begun, rejected⟩ := bind_eq_ok.mp made
  have roomy : u.limits = s.limits ∧
      u.publishRequestQueue.length + 1 ≤
        min (s.publishRequestQueue.length + 1) s.maxPublishRequests := by
    split_ifs at begun with full
    · obtain ⟨⟨removed, w⟩, ticked, rfl⟩ := map_eq_ok.mp begun
      obtain ⟨limits, shorter⟩ := tick_shrinks ticked
      have fewer : w.maxPublishRequests ≤ s.maxPublishRequests := by
        refine maxPublishRequestsFor_mono limits.symm (length_le_len w.subscriptions.keys_nodup ?_)
        intro id member
        have applied : SessionOp.apply (.tick ⟨now, nowInstant, first⟩ .receivePublishRequest) s =
            .ok w := by
          show (s.tick _ _).map (·.2) = _
          rw [ticked]
          rfl
        exact mem_of_apply (by exact nofun) applied (AList.mem_keys.mpr member)
      split_ifs at rejected with still
      · unfold rejectOldest at rejected
        split at rejected
        · cases rejected
        · rename_i oldest queue waiting
          cases rejected
          rw [waiting, length_cons] at shorter
          exact ⟨limits,
            le_min (Nat.succ_le_succ (Nat.le_of_succ_le shorter)) (shorter.trans within)⟩
      · cases rejected
        exact ⟨limits, le_min (Nat.succ_le_succ shorter) ((Nat.lt_of_not_le still).trans_le fewer)⟩
    · cases begun
      rw [if_neg full] at rejected
      cases rejected
      exact ⟨rfl, le_min le_rfl (Nat.lt_of_not_le full)⟩
  obtain ⟨limits, shorter⟩ := tick_shrinks last
  refine ⟨limits.trans ((u.takeIn_answering request).limits.trans roomy.1), shorter.trans ?_⟩
  refine le_trans (le_of_eq ?_) roomy.2
  obtain ⟨_, _, same, -⟩ := u.takeIn_spec request
  rw [same]
  exact length_append

theorem Roomy.step (covered : s.Covered) (roomy : s.Roomy) (leaves : s.LeavesRoom op) (applied : op.apply s = .ok t) :
    t.Roomy := by
  cases op with
  | enqueuePublishRequest now nowInstant first second request =>
    obtain ⟨limits, length⟩ := enqueuePublishRequest_length roomy.bounded applied
    exact .of_open limits s.nodup_openIds
      (fun id member => enqueue_keeps_open (mem_openIds.mp member) applied) (length.trans leaves)
  | _ =>
    have shrinks : s.Shrinks t := by
      refine shrinks_of_apply ?_ applied
      rintro _ _ _ _ _ ⟨⟩
    refine .of_open shrinks.limits (s.nodup_openIds.filter _) (fun id member => ?_)
      (shrinks.queue.trans leaves)
    obtain ⟨opened, stays⟩ := mem_filter.mp member
    exact open_of_apply covered (mem_openIds.mp opened) (of_decide_eq_true stays) applied

/-- **The queue of the publish requests is bounded** all along a run whose steps leave room for the
requests that wait. -/
theorem publish_queue_bounded {init s : SessionSubscriptions E} {ops : List (SessionOp E)}
    (fresh : FreshSession init) (guarded : (sessions E).Guarded LeavesRoom init ops)
    (ran : (sessions E).run init ops = some s) :
    s.publishRequestQueue.length ≤ s.maxPublishRequests := by
  have begins : init.Covered ∧ init.Roomy := by
    refine ⟨covered_of_reachable (.of_start _ fresh), ?_⟩
    obtain ⟨limits, userToken, rfl⟩ := fresh
    exact Nat.zero_le _
  have keeps : ∀ s op t, s.Covered ∧ s.Roomy → s.LeavesRoom op → (sessions E).step s op = some t →
      t.Covered ∧ t.Roomy := by
    rintro s op t ⟨covered, roomy⟩ leaves stepped
    have applied := failing_step_eq_some.mp stepped
    exact ⟨covered.step applied, roomy.step covered leaves applied⟩
  exact ((sessions E).run_invariant_of_guarded keeps begins guarded ran).2.bounded

def singleRequests : SessionSubscriptions Externals.integers :=
  .new { integerLimits with maxPublishRequestsPerSubscription := 1 } ⟨"user", .sign, "application"⟩

/-- One request waits for three subscriptions when one of these is deleted, and then another one. -/
def deletedBetween : List (SessionOp Externals.integers) :=
  [createInteger 1 3 0, createInteger 2 3 0, createInteger 3 3 0, publishInteger 7,
    .deleteSubscriptions [2], publishInteger 8]

theorem publish_queue_bounded_deleted :
    ∃ s, (sessions _).run singleRequests deletedBetween = some s ∧
      s.publishRequestQueue.length = 2 ∧ s.publishRequestQueue.length ≤ s.maxPublishRequests := by
  obtain ⟨s, ran, two⟩ : ∃ s, (sessions _).run singleRequests deletedBetween = some s ∧
      s.publishRequestQueue.length = 2 := ⟨_, rfl, rfl⟩
  refine ⟨s, ran, two, publish_queue_bounded ⟨_, _, rfl⟩ ?_ ran⟩
  refine .cons _ rfl (by exact Nat.zero_le _) (.cons _ rfl (by exact Nat.zero_le _)
    (.cons _ rfl (by exact Nat.zero_le _)
      (.cons _ rfl ?_ (.cons _ rfl ?_ (.cons _ rfl ?_ trivial)))))
  · exact (by decide : 1 ≤ 3)
  · exact (by decide : 1 ≤ 2)
  · exact (by decide : 2 ≤ 2)

/-- Two requests wait for two subscriptions when one of these is deleted. A third request takes the
place of the first, and two wait for one subscription. -/
theorem requests_outlive_subscription :
    ¬ ∀ (init s t : SessionSubscriptions Externals.integers) (ops : List (SessionOp _)) (now : ℤ)
      (nowInstant : ℕ) (first second : Orders) (request : PendingPublish), FreshSession init →
      (sessions _).run init ops = some s →
      s.enqueuePublishRequest now nowInstant first second request = .ok t →
      (∃ id ∈ t.subscriptions, id ∉ t.transferring) →
      t.publishRequestQueue.length ≤ t.maxPublishRequests := by
  intro bounded
  obtain ⟨s, t, ran, enqueued, there, long⟩ : ∃ s t, (sessions _).run singleRequests
      [createInteger 1 3 0, createInteger 2 3 0, publishInteger 7, publishInteger 8,
        .deleteSubscriptions [2]] = some s ∧
      s.enqueuePublishRequest 0 0 upwardOrders upwardOrders ⟨9, ⟨9, none⟩, none, 10⟩ = .ok t ∧
      (∃ id ∈ t.subscriptions, id ∉ t.transferring) ∧
      t.maxPublishRequests < t.publishRequestQueue.length :=
    ⟨_, _, rfl, rfl, ⟨1, by decide, by decide⟩, by decide⟩
  exact absurd (bounded _ s t _ 0 0 _ _ _ ⟨_, _, rfl⟩ ran enqueued there) (Nat.not_le.mpr long)

end SessionSubscriptions

end AsyncOpcua.Subscriptions
