/-
**The cached priority order: when it is the order of the subscriptions the session has.**

* `CacheExact` — a cache that is not dirty is the ids of the subscriptions, by priority;
* `priority_cache_exact` — the cache is exact, and nothing panics, in the runs whose passes serve no
  subscription out; `stale_priority_cache` — without that condition it need not be.
-/

import AsyncOpcua.Subscriptions.SessionRuns

namespace AsyncOpcua.Subscriptions

open Types Foundation List Or Machine SessionSubscriptions

variable {E : Externals}

/-! ### Priority order -/

instance : IsTrans (ℕ × ℕ) BeforeInPriority where
  trans first second third before later := by
    unfold BeforeInPriority at *
    omega

instance : Std.Total (α := ℕ × ℕ) BeforeInPriority where
  total first second := by
    unfold BeforeInPriority
    omega

namespace Subscription

/-! ### Closing ticks -/

def closingMessages (s : Subscription E) (nowInstant : ℕ) (reason : TickReason) (queued : Bool) :
    Option ℕ :=
  if s.state = .closed then some s.notifications.length
  else if (reason = .tickTimerFired → s.Elapsed nowInstant) ∧ s.row reason queued = .closed27 then
    some (if s.maxQueuedNotifications = 0 then s.notifications.length + 1
      else min (s.notifications.length + 1) s.maxQueuedNotifications)
  else none

theorem enforceQueuedNotificationLimit_length (s : Subscription E) :
    s.enforceQueuedNotificationLimit.notifications.length =
      if s.maxQueuedNotifications = 0 then s.notifications.length
      else min s.notifications.length s.maxQueuedNotifications := by
  unfold enforceQueuedNotificationLimit
  split_ifs with within unlimited limited
  · rfl
  · rw [Nat.min_eq_left (within.resolve_left unlimited)]
  · exact absurd (inl limited) within
  · rw [not_or] at within
    rw [length_drop]
    omega

variable {s t : Subscription E} {now : ℤ} {visit : VisitOrder} {result : TickResult}

theorem perform_expired_length
    (performed : s.perform .subscriptionExpired now visit = some (result, t)) :
    t.notifications.length =
      if s.maxQueuedNotifications = 0 then s.notifications.length + 1
      else min (s.notifications.length + 1) s.maxQueuedNotifications := by
  cases performed
  rw [enforceQueuedNotificationLimit_length]
  simp [enqueueNotification]

theorem tick_identity {nowInstant : ℕ} {reason : TickReason} {queued : Bool}
    (ticked : s.tick now nowInstant reason queued visit = some (result, t)) :
    t.id = s.id ∧ t.priority = s.priority := by
  rw [tick_eq] at ticked
  split_ifs at ticked
  · cases ticked
    exact ⟨rfl, rfl⟩
  · have control := applyRow_control ticked
    have kept : (s.handleStateTransition (s.row reason queued)).2.id = s.id ∧
        (s.handleStateTransition (s.row reason queued)).2.priority = s.priority := by
      cases s.row reason queued <;> exact ⟨rfl, rfl⟩
    exact ⟨(congrArg Control.id control).trans kept.1,
      (congrArg Control.priority control).trans kept.2⟩

theorem row_of_closed (closed : s.state = .closed) (reason : TickReason) (queued : Bool) :
    s.row reason queued = .none0 := by
  unfold row getStateTransition
  rw [closed]

theorem closingMessages_eq {nowInstant : ℕ} {reason : TickReason} {queued : Bool}
    (ticked : s.tick now nowInstant reason queued visit = some (result, t)) :
    s.closingMessages nowInstant reason queued =
      if t.state = .closed then some t.notifications.length else none := by
  have early : (reason = .tickTimerFired ∧ ¬ s.Elapsed nowInstant) ↔
      ¬ (reason = .tickTimerFired → s.Elapsed nowInstant) := by
    rw [Classical.not_imp]
  rw [tick_eq] at ticked
  unfold closingMessages
  by_cases closed : s.state = .closed
  · rw [if_pos closed]
    split_ifs at ticked with idle
    · cases ticked
      rw [if_pos closed]
    · unfold applyRow at ticked
      rw [row_of_closed closed] at ticked
      cases ticked
      have kept : (s.restart nowInstant reason).state = s.state ∧
          (s.restart nowInstant reason).notifications = s.notifications := by
        unfold restart
        split_ifs <;> exact ⟨rfl, rfl⟩
      show _ = if (s.restart nowInstant reason).state = .closed then
        some (s.restart nowInstant reason).notifications.length else none
      rw [kept.1, kept.2, if_pos closed]
  · rw [if_neg closed]
    split_ifs at ticked with idle
    · cases ticked
      rw [if_neg closed, if_neg fun both => early.mp idle both.1]
    · have elapsed := not_not.mp (mt early.mpr idle)
      have state : t.state = (s.handleStateTransition (s.row reason queued)).2.state :=
        congrArg Control.state (applyRow_control ticked)
      by_cases closes : s.row reason queued = .closed27
      · rw [if_pos ⟨elapsed, closes⟩]
        rw [closes] at state
        have shut : t.state = .closed := state
        unfold applyRow at ticked
        rw [closes] at ticked
        have kept : (s.restart nowInstant reason).notifications = s.notifications ∧
            (s.restart nowInstant reason).maxQueuedNotifications = s.maxQueuedNotifications := by
          unfold restart
          split_ifs <;> exact ⟨rfl, rfl⟩
        have length := perform_expired_length ticked
        simp only [handleStateTransition, kept.1, kept.2] at length
        rw [if_pos shut, length]
      · rw [if_neg fun both => closes both.2, if_neg]
        intro shut
        exact closes (closes_row closed (state.symm.trans shut)).1

end Subscription

namespace SessionSubscriptions

/-! ### The cache -/

def priorityOf (s : SessionSubscriptions E) (id : ℕ) : Option ℕ :=
  (s.subscriptions.lookup id).map (·.priority)

structure InPriorityOrder (s : SessionSubscriptions E) (ids : List ℕ) : Prop where
  nodup : ids.Nodup
  mem_iff : ∀ id, id ∈ ids ↔ id ∈ s.subscriptions
  sorted : ids.Pairwise fun first second =>
    ∀ p ∈ s.priorityOf first, ∀ q ∈ s.priorityOf second, BeforeInPriority (first, p) (second, q)

def CacheExact (s : SessionSubscriptions E) : Prop :=
  s.priorityCacheDirty = false → s.InPriorityOrder s.cachedPriorityOrder

def Keyed (s : SessionSubscriptions E) : Prop :=
  ∀ id subscription, s.subscriptions.lookup id = some subscription → subscription.id = id

/-- The invariant: every subscription stands under its own id, and the cache is exact. -/
structure Ranked (s : SessionSubscriptions E) : Prop where
  keyed : s.Keyed
  cache : s.CacheExact

theorem mem_subscriptions_iff (s : SessionSubscriptions E) (id : ℕ) :
    id ∈ s.subscriptions ↔ (s.priorityOf id).isSome := by
  rw [priorityOf, Option.isSome_map, AList.lookup_isSome]

/-- What the invariant depends on. -/
structure SameRanking (s t : SessionSubscriptions E) : Prop where
  dirty : t.priorityCacheDirty = s.priorityCacheDirty
  cached : t.cachedPriorityOrder = s.cachedPriorityOrder
  priorities : t.priorityOf = s.priorityOf
  keyed : s.Keyed → t.Keyed

theorem SameRanking.refl (s : SessionSubscriptions E) : s.SameRanking s :=
  ⟨rfl, rfl, rfl, fun keyed => keyed⟩

variable {s t : SessionSubscriptions E} {u : SessionSubscriptions E}

theorem SameRanking.trans (first : s.SameRanking t) (second : t.SameRanking u) : s.SameRanking u :=
  ⟨second.dirty.trans first.dirty, second.cached.trans first.cached,
    second.priorities.trans first.priorities, fun keyed => second.keyed (first.keyed keyed)⟩

theorem SameRanking.of_answering (answering : s.Answering t) : s.SameRanking t := by
  refine ⟨answering.dirty, answering.cached, ?_, ?_⟩
  · funext id
    rw [priorityOf, priorityOf, answering.subscriptions]
  · intro keyed id sub found
    exact keyed id sub (answering.subscriptions ▸ found)

theorem SameRanking.inPriorityOrder (same : s.SameRanking t) {ids : List ℕ}
    (ordered : s.InPriorityOrder ids) : t.InPriorityOrder ids := by
  refine ⟨ordered.nodup, fun id => ?_, ?_⟩
  · rw [ordered.mem_iff, mem_subscriptions_iff, mem_subscriptions_iff, same.priorities]
  · rw [same.priorities]
    exact ordered.sorted

theorem Ranked.of_same (ranked : s.Ranked) (same : s.SameRanking t) : t.Ranked := by
  refine ⟨same.keyed ranked.keyed, fun clean => ?_⟩
  rw [same.cached]
  exact same.inPriorityOrder (ranked.cache (same.dirty.symm.trans clean))

theorem Ranked.of_dirty (keyed : t.Keyed) (dirty : t.priorityCacheDirty = true) : t.Ranked :=
  ⟨keyed, fun clean => by rw [dirty] at clean; cases clean⟩

/-- **The ranking is left alone, or the cache is marked.** -/
def Reranks (s t : SessionSubscriptions E) : Prop :=
  s.SameRanking t ∨ (s.Keyed → t.Keyed) ∧ t.priorityCacheDirty = true

theorem Reranks.trans (first : s.Reranks t) (second : t.Reranks u) : s.Reranks u := by
  rcases second with same | ⟨keyed', dirty'⟩
  · rcases first with same' | ⟨keyed, dirty⟩
    · exact inl (same'.trans same)
    · exact inr ⟨fun before => same.keyed (keyed before), same.dirty.trans dirty⟩
  · refine inr ⟨fun before => keyed' ?_, dirty'⟩
    rcases first with same | ⟨keyed, -⟩
    · exact same.keyed before
    · exact keyed before

theorem Ranked.of_reranks (ranked : s.Ranked) (reranks : s.Reranks t) : t.Ranked := by
  rcases reranks with same | ⟨keyed, dirty⟩
  · exact ranked.of_same same
  · exact .of_dirty (keyed ranked.keyed) dirty

variable {id : ℕ}

section

variable {subscriptions : SubscriptionMap E}
  (keyed : ∀ id sub, subscriptions.lookup id = some sub → sub.id = id)
include keyed

theorem keyed_insert {subscription : Subscription E} (own : subscription.id = id) (other : ℕ)
    (sub : Subscription E)
    (found : (subscriptions.insert id subscription).lookup other = some sub) : sub.id = other := by
  by_cases same : other = id
  · subst same
    rw [AList.lookup_insert, Option.some.injEq] at found
    rw [← found, own]
  · rw [AList.lookup_insert_ne same] at found
    exact keyed other sub found

theorem keyed_erase (id other : ℕ)
    (sub : Subscription E) (found : (subscriptions.erase id).lookup other = some sub) :
    sub.id = other := by
  by_cases same : other = id
  · subst same
    rw [AList.lookup_erase] at found
    cases found
  · rw [AList.lookup_erase_ne same] at found
    exact keyed other sub found

end

variable {s t : SessionSubscriptions E}

theorem SameRanking.of_insert {id : ℕ}
    {subscription changed : Subscription E} (found : s.subscriptions.lookup id = some subscription)
    (identity : changed.id = subscription.id ∧ changed.priority = subscription.priority)
    (lookups : ∀ other, t.subscriptions.lookup other =
      if other = id then some changed else s.subscriptions.lookup other)
    (dirty : t.priorityCacheDirty = s.priorityCacheDirty)
    (cached : t.cachedPriorityOrder = s.cachedPriorityOrder) : s.SameRanking t := by
  refine ⟨dirty, cached, ?_, ?_⟩
  · funext other
    rw [priorityOf, priorityOf, lookups]
    split_ifs with same
    · rw [same, found, Option.map_some, Option.map_some, identity.2]
    · rfl
  · intro keyed other sub there
    rw [lookups] at there
    split_ifs at there with same
    · rw [Option.some.injEq] at there
      rw [← there, identity.1, same]
      exact keyed id subscription found
    · exact keyed other sub there

/-! ### Reading the order -/

/-- **Reading the order through the cache gives it,** and leaves a clean cache. -/
theorem subscriptionIdsByPriority_spec (ranked : s.Ranked) :
    s.subscriptionIdsByPriority.2.Ranked ∧
      s.subscriptionIdsByPriority.2.subscriptions = s.subscriptions ∧
      s.subscriptionIdsByPriority.2.InPriorityOrder s.subscriptionIdsByPriority.1 := by
  unfold subscriptionIdsByPriority
  by_cases dirty : s.priorityCacheDirty
  · simp only [dirty, if_true]
    set order := s.subscriptions.entries.map fun entry => (entry.2.id, entry.2.priority) with known
    have entryId : ∀ entry ∈ s.subscriptions.entries, entry.2.id = entry.1 := fun entry member =>
      ranked.keyed entry.1 entry.2 (AList.mem_lookup_iff.mpr member)
    have ids : order.map Prod.fst = s.subscriptions.keys := by
      rw [known, map_map]
      exact map_congr_left entryId
    have permuted :
        ((order.insertionSort BeforeInPriority).map Prod.fst).Perm s.subscriptions.keys :=
      ids ▸ (perm_insertionSort _ order).map Prod.fst
    have ordered : s.InPriorityOrder ((order.insertionSort BeforeInPriority).map Prod.fst) := by
      refine ⟨permuted.nodup_iff.mpr s.subscriptions.keys_nodup, fun id => ?_, ?_⟩
      · rw [permuted.mem_iff, AList.mem_keys]
      · rw [pairwise_map]
        refine (pairwise_insertionSort BeforeInPriority order).imp_of_mem ?_
        intro first second firstIn secondIn before p isP q isQ
        -- The priority next to an id in the list is the priority looked up under the id.
        have lookedUp : ∀ pair ∈ order.insertionSort BeforeInPriority,
            s.priorityOf pair.1 = some pair.2 := by
          intro pair member
          rw [mem_insertionSort, known] at member
          obtain ⟨entry, entryIn, rfl⟩ := mem_map.mp member
          rw [priorityOf, entryId entry entryIn, AList.mem_lookup_iff.mpr entryIn]
          rfl
        rw [lookedUp first firstIn, Option.mem_some_iff] at isP
        rw [lookedUp second secondIn, Option.mem_some_iff] at isQ
        rw [← isP, ← isQ]
        exact before
    refine ⟨⟨ranked.keyed, fun _ => ?_⟩, trivial, ?_⟩
    · exact ⟨ordered.nodup, ordered.mem_iff, ordered.sorted⟩
    · exact ⟨ordered.nodup, ordered.mem_iff, ordered.sorted⟩
  · rw [Bool.not_eq_true] at dirty
    rw [if_neg (by rw [dirty]; exact Bool.false_ne_true)]
    exact ⟨ranked, rfl, ranked.cache dirty⟩

/-! ### Passes -/

/-- **The visit serves the subscription out:** it ends closed, with every message handed out. -/
def ServesOut (s : SessionSubscriptions E) (o : Occasion) (reason : TickReason) (id : ℕ) : Prop :=
  ∃ subscription, s.subscriptions.lookup id = some subscription ∧
    ∃ waiting ∈ subscription.closingMessages o.nowInstant reason (!s.publishRequestQueue.isEmpty),
      waiting ≤ s.publishRequestQueue.length

def PassKeeps (s : SessionSubscriptions E) (o : Occasion) (reason : TickReason) : Prop :=
  (visits E o reason).Guarded
    (fun pass id => id ∉ pass.1.transferring → ¬ pass.1.ServesOut o reason id)
    (s.subscriptionIdsByPriority.2, ⟨[], [], false⟩) s.subscriptionIdsByPriority.1

def TickKeeps (s : SessionSubscriptions E) (o : Occasion) (reason : TickReason) : Prop :=
  let s := s.deliverPendingStatusChanges o.now
  ¬ (s.len = 0 ∨ s.len = s.transferring.card) →
    let s := s.removeExpiredPublishRequests o.nowInstant
    s.publishRequestQueue.isEmpty = false → s.PassKeeps o reason

/-- **The condition on an operation:** none of its passes serves a subscription out. -/
def KeepsServed (s : SessionSubscriptions E) : SessionOp E → Prop
  | .enqueuePublishRequest now nowInstant first second request =>
    (s.maxPublishRequests ≤ s.publishRequestQueue.length →
      s.TickKeeps ⟨now, nowInstant, first⟩ .receivePublishRequest) ∧
    ∀ t, s.makeRoom ⟨now, nowInstant, first⟩ = .ok t →
      (t.takeIn request).TickKeeps ⟨now, nowInstant, second⟩ .receivePublishRequest
  | .processNotificationWake o =>
    s.publishRequestQueue.isEmpty = false → s.PassKeeps o .notificationAvailable
  | .tick o reason => s.TickKeeps o reason
  | _ => True

variable {o : Occasion} {reason : TickReason}

theorem visit_same {before after : Served E}
    (keeps : id ∉ s.transferring → ¬ s.ServesOut o reason id)
    (visited : (visits E o reason).step (s, before) id = some (t, after)) : s.SameRanking t := by
  by_cases staged : id ∈ s.transferring
  · cases visit_staged staged visited
    exact .refl s
  · obtain ⟨subscription, result, ticked, responses, queue, drained, found, returned, served,
      rfl, -⟩ :=
      visit_spec staged visited
    obtain ⟨-, -, -, left⟩ := serve_spec served
    have identity := Subscription.tick_identity returned
    have stays : drained.readyToRemove = false := by
      by_contra ready
      rw [Bool.not_eq_false, Subscription.readyToRemove, Bool.and_eq_true, beq_iff_eq,
        List.isEmpty_iff, left] at ready
      refine keeps staged ⟨subscription, found, ticked.notifications.length, ?_, ?_⟩
      · rw [Subscription.closingMessages_eq returned, if_pos ready.1]
        rfl
      · exact drop_eq_nil_iff.mp ready.2
    obtain ⟨-, -, -, cached, dirty, -⟩ := s.settle_frame id queue drained
    have unchanged : drained.id = subscription.id ∧ drained.priority = subscription.priority := by
      rw [left]
      exact identity
    refine .of_insert found unchanged (fun other => ?_) dirty cached
    · rw [settle_lookup, stays]
      rfl

theorem pass_ranked {served : Served E} (ranked : s.Ranked) (keeps : s.PassKeeps o reason)
    (passed : s.tickSubscriptionsWithPublishRequests o reason = .ok (t, served)) : t.Ranked := by
  obtain ⟨refreshed, -, -⟩ := subscriptionIdsByPriority_spec ranked
  have visit : ∀ pass id after, pass.1.Ranked →
      (id ∉ pass.1.transferring → ¬ pass.1.ServesOut o reason id) →
      (visits E o reason).step pass id = some after → after.1.Ranked :=
    fun _ _ _ ranked keeps visited => ranked.of_same (visit_same keeps visited)
  exact (visits E o reason).run_invariant_of_guarded visit refreshed keeps
    (pass_run passed)

/-- **A pass that serves nothing out finds every subscription it visits.** -/
theorem pass_returns (ranked : s.Ranked) (keeps : s.PassKeeps o reason) :
    s.tickSubscriptionsWithPublishRequests o reason ≠ .error .panicked := by
  obtain ⟨-, -, ordered⟩ := subscriptionIdsByPriority_spec ranked
  have present : ∀ id ∈ s.subscriptionIdsByPriority.1,
      (s.subscriptionIdsByPriority.2.priorityOf id).isSome := fun id member =>
    (mem_subscriptions_iff _ id).mp ((ordered.mem_iff id).mp member)
  unfold PassKeeps at keeps
  show tickEachWithRequests o reason s.subscriptionIdsByPriority.1 s.subscriptionIdsByPriority.2
    ⟨[], [], false⟩ ≠ _
  generalize s.subscriptionIdsByPriority.1 = ids at *
  generalize s.subscriptionIdsByPriority.2 = s at *
  generalize (⟨[], [], false⟩ : Served E) = served at *
  clear ordered
  induction ids generalizing s served with
  | nil => exact fun impossible => by cases impossible
  | cons id rest ih =>
    unfold tickEachWithRequests
    split_ifs with staged
    · refine ih s (fun other member => present other (mem_cons_of_mem id member)) served ?_
      exact keeps.2 (s, served) (failing_step_eq_some.mpr (if_pos staged))
    · cases visited : tickSubscriptionWithPublishRequests o reason id s served with
      | error fault =>
        unfold tickSubscriptionWithPublishRequests at visited
        cases found : s.subscriptions.lookup id with
        | none =>
          have there := present id mem_cons_self
          rw [priorityOf, found] at there
          cases there
        | some subscription =>
          simp only [found, tickSubscription] at visited
          split at visited <;> cases visited
          exact fun impossible => by cases impossible
      | ok pass =>
        obtain ⟨t, after⟩ := pass
        have step : (visits E o reason).step (s, served) id = some (t, after) := by
          refine failing_step_eq_some.mpr ?_
          simp only [if_neg staged]
          exact visited
        have same := visit_same keeps.1 step
        refine ih t (fun other member => ?_) after (keeps.2 (t, after) step)
        rw [same.priorities]
        exact present other (mem_cons_of_mem id member)

/-! ### Ticks -/

theorem removeReady_spec (toRemove : List ℕ) (keyed : s.Keyed)
    (dirty : s.priorityCacheDirty = true) :
    (removeReady toRemove s).Keyed ∧ (removeReady toRemove s).priorityCacheDirty = true := by
  induction toRemove generalizing s with
  | nil => exact ⟨keyed, dirty⟩
  | cons id rest ih => exact ih (keyed_erase keyed id) dirty

theorem idlePass_dirty {removed : List (RemovedSubscription E)} (keyed : s.Keyed)
    (passed : s.tickSubscriptionsWithoutPublishRequests o reason = .ok (removed, t)) :
    t.Keyed ∧ t.priorityCacheDirty = true := by
  obtain ⟨u, toRemove, after, rfl⟩ := idlePass_invariant (P := fun pass => pass.1.Keyed) passed
    keyed (by
      intro u before id subscription result ticked keyed _ found returned
      refine keyed_insert keyed ?_
      rw [(Subscription.tick_identity returned).1]
      exact keyed id subscription found)
  exact removeReady_spec _ after rfl

theorem idlePass_returns (s : SessionSubscriptions E) (o : Occasion) (reason : TickReason) :
    s.tickSubscriptionsWithoutPublishRequests o reason ≠ .error .panicked := by
  unfold tickSubscriptionsWithoutPublishRequests
  suffices visits : ∀ (ids : List ℕ) (s : SessionSubscriptions E) (collected : Collected E),
      tickEachWithoutRequests o reason ids s collected ≠ .error .panicked by
    intro panics
    refine visits (o.orders.subscriptions.order s.subscriptions.keys.toFinset) s ⟨[], []⟩ ?_
    revert panics
    cases tickEachWithoutRequests o reason _ s ⟨[], []⟩ <;> simp [Except.map]
  intro ids
  induction ids with
  | nil => exact fun _ _ impossible => by cases impossible
  | cons id rest ih =>
    intro s collected
    unfold tickEachWithoutRequests
    split
    · exact ih s collected
    · split_ifs
      · exact ih s collected
      · unfold tickSubscription
        split
        · exact ih _ _
        · exact fun impossible => by cases impossible

theorem map_ne_panicked {α β : Type} {computed : Except Fault α} {f : α → β}
    (returns : computed ≠ .error .panicked) : computed.map f ≠ .error .panicked := by
  cases computed with
  | ok result => exact fun impossible => by cases impossible
  | error fault => simpa [Except.map] using returns

theorem tick_ranked (ranked : s.Ranked) (keeps : s.TickKeeps o reason) :
    (∀ removed t, s.tick o reason = .ok (removed, t) → t.Ranked) ∧
      s.tick o reason ≠ .error .panicked := by
  have delivered := ranked.of_same (.of_answering (s.deliverPendingStatusChanges_answering o.now))
  unfold tick
  dsimp only at keeps ⊢
  split_ifs with none idle
  · refine ⟨?_, fun impossible => by cases impossible⟩
    rintro removed t returned
    cases returned
    exact delivered.of_same (.of_answering (faultRequests_answering _ _ _))
  · have expired := delivered.of_same
      (.of_answering (removeExpiredPublishRequests_answering _ o.nowInstant))
    refine ⟨fun removed t returned => ?_, idlePass_returns _ o reason⟩
    obtain ⟨keyed, dirty⟩ := idlePass_dirty expired.keyed returned
    exact .of_dirty keyed dirty
  · have expired := delivered.of_same
      (.of_answering (removeExpiredPublishRequests_answering _ o.nowInstant))
    have keeps := keeps none (by rwa [Bool.not_eq_true] at idle)
    refine ⟨?_, map_ne_panicked (pass_returns expired keeps)⟩
    rintro removed t returned
    obtain ⟨⟨u, served⟩, passed, built⟩ := map_eq_ok.mp returned
    cases built
    exact (pass_ranked expired keeps passed).of_same
      (.of_answering (sendPublishResponses_answering _ _ _ u))

theorem makeRoom_ranked {o : Occasion} (ranked : s.Ranked)
    (keeps : s.maxPublishRequests ≤ s.publishRequestQueue.length →
      s.TickKeeps o .receivePublishRequest) (roomy : s.makeRoom o = .ok t) : t.Ranked := by
  refine makeRoom_keeps ranked (fun full => (tick_ranked ranked (keeps full)).1)
    (fun u after rejected => ?_) roomy
  exact after.of_same (.of_answering (rejectOldest_answering rejected))

theorem rejectOldest_returns (full : s.maxPublishRequests ≤ s.publishRequestQueue.length) :
    s.rejectOldest ≠ .error .panicked := by
  have positive : 1 ≤ s.maxPublishRequests := le_max_right _ _
  unfold rejectOldest
  split
  · rename_i none
    rw [none, length_nil] at full
    omega
  · exact fun impossible => by cases impossible

theorem makeRoom_returns {o : Occasion} {s : SessionSubscriptions E} (ranked : s.Ranked)
    (keeps : s.maxPublishRequests ≤ s.publishRequestQueue.length →
      s.TickKeeps o .receivePublishRequest) : s.makeRoom o ≠ .error .panicked := by
  unfold makeRoom
  cases made : (if s.maxPublishRequests ≤ s.publishRequestQueue.length then
      (s.tick o .receivePublishRequest).map (·.2) else .ok s : Except Fault _) with
  | ok u =>
    show (if u.maxPublishRequests ≤ u.publishRequestQueue.length then u.rejectOldest else .ok u) ≠ _
    split_ifs with full
    · exact rejectOldest_returns full
    · exact fun impossible => by cases impossible
  | error fault =>
    intro panicked
    have panicked : fault = .panicked := Except.error.inj panicked
    split_ifs at made with full
    exact map_ne_panicked (tick_ranked ranked (keeps full)).2 (panicked ▸ made)

/-! ### Every operation -/

section

variable (s : SessionSubscriptions E)

theorem modifyEntry_same (id : ℕ) {change : Subscription E → Subscription E}
    (identity : ∀ sub, (change sub).id = sub.id ∧ (change sub).priority = sub.priority) :
    s.SameRanking (s.modifyEntry id change) := by
  obtain ⟨-, -, -, -, -, cached, dirty⟩ := s.modifyEntry_frame id change
  cases found : s.subscriptions.lookup id with
  | none =>
    have same : s.modifyEntry id change = s := by
      unfold modifyEntry
      rw [found]
    rw [same]
    exact .refl s
  | some subscription =>
    refine .of_insert found (identity subscription) (fun other => ?_) dirty cached
    rw [modifyEntry_lookup, found]
    rfl

theorem deleteSubscription_reranks (id : ℕ) : s.Reranks (s.deleteSubscription id).2 := by
  unfold deleteSubscription
  dsimp only
  split
  · exact inr ⟨fun keyed => keyed, rfl⟩
  · exact inr ⟨fun keyed => keyed_erase keyed id, rfl⟩

end

/-- The operation ticks subscriptions. -/
def Ticks : SessionOp E → Prop
  | .enqueuePublishRequest .. | .processNotificationWake _ | .tick .. => True
  | _ => False

variable {op : SessionOp E}

theorem reranks_of_apply (still : ¬ Ticks op) (applied : op.apply s = .ok t) : s.Reranks t := by
  have in_place : ∀ {change : Subscription E → Subscription E}, Changes change op →
      (∀ sub, (change sub).id = sub.id ∧ (change sub).priority = sub.priority) → s.Reranks t :=
    fun changes identity => inl (related_of_changes .refl .trans
      (fun s id => s.modifyEntry_same id identity) (fun _ _ => ⟨rfl, rfl, rfl, (·)⟩) changes
      applied)
  cases op with
  | insert subscription notifs =>
    cases applied
    unfold insert
    split_ifs
    · exact inl (.refl s)
    · exact inr ⟨fun keyed => keyed_insert keyed rfl, rfl⟩
  | remove id =>
    cases applied
    exact inr ⟨fun keyed => keyed_erase keyed id, rfl⟩
  | markTransferring id =>
    cases applied
    unfold markTransferring
    split_ifs
    · exact inl ⟨rfl, rfl, rfl, fun keyed => keyed⟩
    · exact inl (.refl s)
  | createSubscription request info id nowInstant =>
    cases applied
    unfold createSubscription
    split_ifs
    · exact inl (.refl s)
    · exact inr ⟨fun keyed => keyed_insert keyed rfl, rfl⟩
  | modifySubscription request info =>
    cases applied
    unfold modifySubscription
    split_ifs
    · refine inr ⟨fun keyed id sub found => ?_, rfl⟩
      rw [modifyEntry_lookup] at found
      split_ifs at found with same
      · obtain ⟨before, there, rfl⟩ := Option.map_eq_some_iff.mp found
        rw [same]
        exact keyed _ before there
      · exact keyed id sub found
    · exact inl (.refl s)
  | setPublishingMode | republish | updateOwner | resendData =>
    exact in_place rfl fun _ => ⟨rfl, rfl⟩
  | item id op =>
    refine in_place rfl fun sub => ?_
    have control := op.apply_control sub
    exact ⟨congrArg Control.id control, congrArg Control.priority control⟩
  | deleteSubscriptions ids =>
    cases applied
    have deleted : s.Reranks (deleteEach ids s).2 := by
      rw [deleteEach_eq]
      refine foldl_related (R := Reranks)
        (fun s => ?_) Reranks.trans deleteSubscription_reranks ids s
      exact inl (.refl s)
    refine deleted.trans
      (inl (foldl_related SameRanking.refl SameRanking.trans (fun s id => ?_) ids _))
    exact .of_answering ⟨rfl, rfl, rfl, rfl, rfl⟩
  | queueStatusChange id sequenceNumber publishTime status =>
    cases applied
    exact inl (.of_answering ⟨rfl, rfl, rfl, rfl, rfl⟩)
  | cancelPublishRequests requestHandle =>
    cases applied
    exact inl (.of_answering (faultRequests_answering s _ _))
  | enqueuePublishRequest | processNotificationWake | tick => exact absurd trivial still

theorem Ranked.step (ranked : s.Ranked) (keeps : s.KeepsServed op) (applied : op.apply s = .ok t) :
    t.Ranked := by
  cases op with
  | enqueuePublishRequest now nowInstant first second request =>
    obtain ⟨u, removed, roomy, ticked⟩ := enqueuePublishRequest_ok applied
    have roomy' := (makeRoom_ranked ranked keeps.1 roomy).of_same
      (.of_answering (u.takeIn_answering request))
    exact (tick_ranked roomy' (keeps.2 u roomy)).1 removed t ticked
  | processNotificationWake o =>
    obtain ⟨-, rfl⟩ | ⟨waits, u, served, passed, rfl⟩ := processNotificationWake_ok applied
    · exact ranked
    · exact (pass_ranked ranked (keeps waits) passed).of_same
        (.of_answering (sendPublishResponses_answering _ _ _ u))
  | tick o reason =>
    obtain ⟨⟨removed, u⟩, ticked, rfl⟩ := map_eq_ok.mp applied
    exact (tick_ranked ranked keeps).1 removed u ticked
  | _ =>
    refine ranked.of_reranks (reranks_of_apply ?_ applied)
    exact not_false

/-- **An operation that serves nothing out does not panic.** -/
theorem Ranked.returns (ranked : s.Ranked) (keeps : s.KeepsServed op) :
    op.apply s ≠ .error .panicked := by
  cases op with
  | enqueuePublishRequest now nowInstant first second request =>
    have roomy' : ∀ u, s.makeRoom ⟨now, nowInstant, first⟩ = .ok u → u.Ranked ∧
        ((u.takeIn request).tick ⟨now, nowInstant, second⟩ .receivePublishRequest).map (·.2) ≠
          .error .panicked := by
      intro u roomy
      have after := makeRoom_ranked ranked keeps.1 roomy
      have kept := after.of_same (.of_answering (u.takeIn_answering request))
      exact ⟨after, map_ne_panicked (tick_ranked kept (keeps.2 u roomy)).2⟩
    show (s.makeRoom ⟨now, nowInstant, first⟩).bind _ ≠ _
    cases roomy : s.makeRoom ⟨now, nowInstant, first⟩ with
    | ok u => exact (roomy' u roomy).2
    | error fault =>
      intro panicked
      exact makeRoom_returns ranked keeps.1 (panicked ▸ roomy)
  | processNotificationWake o =>
    show s.processNotificationWake o ≠ _
    unfold processNotificationWake
    split_ifs with idle
    · exact fun impossible => by cases impossible
    · exact map_ne_panicked (pass_returns ranked (keeps (by rwa [Bool.not_eq_true] at idle)))
  | tick o reason => exact map_ne_panicked (tick_ranked ranked keeps).2
  | _ => exact fun impossible => by cases impossible

/-- **The cache is exact, and nothing panics,** in the runs that serve no subscription out. -/
theorem priority_cache_exact {init s : SessionSubscriptions E} {ops : List (SessionOp E)}
    (fresh : FreshSession init) (keeps : (sessions E).Guarded KeepsServed init ops)
    (ran : (sessions E).run init ops = some s) :
    s.CacheExact ∧ ∀ op, s.KeepsServed op → op.apply s ≠ .error .panicked := by
  have initially : init.Ranked := by
    obtain ⟨limits, userToken, rfl⟩ := fresh
    exact .of_dirty (fun _ _ found => by cases found) rfl
  have step : ∀ s op t, s.Ranked → s.KeepsServed op → (sessions E).step s op = some t → t.Ranked :=
    fun _ _ _ ranked keeps stepped => ranked.step keeps (failing_step_eq_some.mp stepped)
  have ranked := (sessions E).run_invariant_of_guarded step initially keeps ran
  exact ⟨ranked.cache, fun op keeps => ranked.returns keeps⟩

/-- No subscription that the passes of a tick visit is closing. -/
def closesNone (s : SessionSubscriptions E) (o : Occasion) (reason : TickReason) : Bool :=
  let s := (s.deliverPendingStatusChanges o.now).removeExpiredPublishRequests o.nowInstant
  (visits E o reason).checks
    (fun pass id => (pass.1.subscriptions.lookup id).all fun subscription =>
      (subscription.closingMessages o.nowInstant reason
        !pass.1.publishRequestQueue.isEmpty).isNone)
    (s.subscriptionIdsByPriority.2, ⟨[], [], false⟩) s.subscriptionIdsByPriority.1

theorem tickKeeps_of_closesNone (none : s.closesNone o reason = true) : s.TickKeeps o reason := by
  refine fun _ _ => Machine.guarded_of_checks _ (fun pass id open_ _ => ?_) none
  rintro ⟨subscription, found, waiting, closing, -⟩
  rw [found, Option.all_some, Option.isNone_iff_eq_none] at open_
  rw [open_] at closing
  cases closing

/-- A publish request finds room, and closes no subscription. -/
def keepsServed (s : SessionSubscriptions E) : SessionOp E → Bool
  | .enqueuePublishRequest now nowInstant first second request =>
    s.publishRequestQueue.length < s.maxPublishRequests &&
      ((s.makeRoom ⟨now, nowInstant, first⟩).toOption.all fun t =>
        (t.takeIn request).closesNone ⟨now, nowInstant, second⟩ .receivePublishRequest)
  | .createSubscription .. | .modifySubscription .. => true
  | _ => false

theorem keepsServed_spec {op : SessionOp E} (keeps : s.keepsServed op = true) :
    s.KeepsServed op := by
  unfold keepsServed at keeps
  split at keeps
  · rw [Bool.and_eq_true, decide_eq_true_eq, Option.all_eq_true] at keeps
    exact ⟨fun full => absurd full (by omega), fun t roomy =>
      tickKeeps_of_closesNone (keeps.2 t (by rw [roomy]; rfl))⟩
  · trivial
  · trivial
  · cases keeps

/-- Publish requests before and after a change of priorities: the order is cached anew. -/
def reordered : List (SessionOp Externals.integers) :=
  [createInteger 1 30 0, createInteger 2 30 9, publishInteger 1,
    .modifySubscription { subscriptionId := 1, requestedPublishingInterval := (0 : ℤ)
                          requestedLifetimeCount := 30, requestedMaxKeepAliveCount := 1
                          maxNotificationsPerPublish := 0, priority := 20 } integerLimits,
    publishInteger 2]

theorem priority_cache_exact_reordered :
    ∃ s t, (sessions _).run integerSession (reordered.take 3) = some s ∧
      s.cachedPriorityOrder = [2, 1] ∧ (sessions _).run integerSession reordered = some t ∧
      t.priorityCacheDirty = false ∧ t.cachedPriorityOrder = [1, 2] ∧ t.CacheExact := by
  obtain ⟨s, t, ran, before, ran', clean, after⟩ : ∃ s t,
      (sessions _).run integerSession (reordered.take 3) = some s ∧
      s.cachedPriorityOrder = [2, 1] ∧ (sessions _).run integerSession reordered = some t ∧
      t.priorityCacheDirty = false ∧ t.cachedPriorityOrder = [1, 2] :=
    ⟨_, _, rfl, by decide +kernel, rfl, by decide +kernel, by decide +kernel⟩
  have keeps : (sessions _).Guarded KeepsServed integerSession reordered :=
    Machine.guarded_of_checks _ (fun _ _ => keepsServed_spec) (by decide +kernel)
  exact ⟨s, t, ran, before, ran', clean, after,
    (priority_cache_exact fresh_integerSession keeps ran').1⟩

/-- The first subscription expires; a publish request takes its last message, and removes it. -/
def servedOut : List (SessionOp Externals.integers) :=
  [createInteger 1 3 0, createInteger 2 30 0, .tick standstill .tickTimerFired,
    .tick standstill .tickTimerFired, .tick standstill .tickTimerFired,
    .tick standstill .tickTimerFired, publishInteger 1]

/-- **After a subscription is served out the cache can be stale,** and the next publish panics. -/
theorem stale_priority_cache :
    ¬ ∀ (E : Externals) (init s : SessionSubscriptions E) (ops : List (SessionOp E)),
      FreshSession init → (sessions E).run init ops = some s →
      s.CacheExact ∧ ∀ op : SessionOp E, op.apply s ≠ .error .panicked := by
  intro always
  obtain ⟨s, ran, panics⟩ : ∃ s, (sessions _).run integerSession servedOut = some s ∧
      (publishInteger 2).apply s = .error .panicked := ⟨_, rfl, rfl⟩
  exact (always _ integerSession s servedOut fresh_integerSession ran).2 _ panics

end SessionSubscriptions

end AsyncOpcua.Subscriptions
