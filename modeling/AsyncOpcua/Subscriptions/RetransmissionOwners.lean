/-
**Whose messages the retransmission queue holds.**

A message can be acknowledged and sent again only while the session has its subscription.

* `retransmissions_housed` — the invariant holds in the runs whose passes serve no subscription out;
  `orphaned_retransmission` — without that condition it need not hold.
-/

import AsyncOpcua.Subscriptions.PriorityCache
import AsyncOpcua.Subscriptions.SessionAdvance

namespace AsyncOpcua.Subscriptions

open Types Foundation List Option SessionSubscriptions Machine Or

variable {E : Externals}

namespace RetransmissionQueue

variable {queue : RetransmissionQueue E}

theorem Filed.enqueue (filed : queue.Filed) (maxLen subscriptionId : ℕ)
    (message : NotificationMessage E) : (queue.enqueue maxLen subscriptionId message).Filed := by
  rw [enqueue_eq]
  split_ifs
  · exact filed
  · exact (filed.evict maxLen).pushExisting _

theorem Filed.pushAll (filed : queue.Filed) (notifs : List (NonAckedPublish E)) :
    (notifs.foldl RetransmissionQueue.pushExisting queue).Filed := by
  induction notifs generalizing queue with
  | nil => exact filed
  | cons entry rest ih => exact ih (filed.pushExisting entry)

theorem pushAll_holds {notifs : List (NonAckedPublish E)} {id : ℕ}
    (holds : (notifs.foldl RetransmissionQueue.pushExisting queue).Holds id) :
    queue.Holds id ∨ ∃ entry ∈ notifs, entry.subscriptionId = id := by
  induction notifs generalizing queue with
  | nil => exact inl holds
  | cons entry rest ih =>
    obtain before | ⟨later, there, owner⟩ := ih holds
    · obtain old | new := pushExisting_holds before
      · exact inl old
      · exact inr ⟨entry, mem_cons_self, new⟩
    · exact inr ⟨later, mem_cons_of_mem entry there, owner⟩

end RetransmissionQueue

open RetransmissionQueue

namespace SessionSubscriptions

/-! ### The invariant -/

structure Owned (s : SessionSubscriptions E) : Prop where
  filed : s.retransmissionQueue.Filed
  owned : ∀ id, s.retransmissionQueue.Holds id → id ∈ s.subscriptions

/-- **No subscription leaves, and no message comes in.** -/
structure Keeps (s t : SessionSubscriptions E) : Prop where
  present : ∀ id, id ∈ s.subscriptions → id ∈ t.subscriptions
  filed : s.retransmissionQueue.Filed → t.retransmissionQueue.Filed
  holds : ∀ id, t.retransmissionQueue.Holds id → s.retransmissionQueue.Holds id

theorem Keeps.refl (s : SessionSubscriptions E) : s.Keeps s :=
  ⟨fun _ there => there, fun filed => filed, fun _ holds => holds⟩

variable {s t : SessionSubscriptions E}

theorem Keeps.trans {u : SessionSubscriptions E} (first : s.Keeps t) (second : t.Keeps u) :
    s.Keeps u :=
  ⟨fun id there => second.present id (first.present id there),
    fun filed => second.filed (first.filed filed),
    fun id holds => first.holds id (second.holds id holds)⟩

theorem Keeps.of_eq (present : ∀ id, id ∈ s.subscriptions → id ∈ t.subscriptions)
    (queue : t.retransmissionQueue = s.retransmissionQueue) : s.Keeps t := by
  refine ⟨present, fun filed => ?_, fun id holds => ?_⟩
  · rwa [queue]
  · rwa [queue] at holds

theorem Keeps.invalidated (keeps : s.Keeps t) : s.Keeps { t with priorityCacheDirty := true } :=
  ⟨keeps.present, keeps.filed, keeps.holds⟩

theorem Owned.of_keeps (housed : s.Owned) (keeps : s.Keeps t) : t.Owned :=
  ⟨keeps.filed housed.filed,
    fun id holds => keeps.present id (housed.owned id (keeps.holds id holds))⟩

theorem forgetMessages_keeps (s : SessionSubscriptions E) (id : ℕ) :
    s.Keeps (s.forgetMessages id) :=
  ⟨fun _ there => there, fun filed => filed.removeSubscription id,
    fun _ holds => removeSubscription_holds holds⟩

theorem Owned.leave (housed : s.Owned) (id : ℕ) :
    ({ s with subscriptions := s.subscriptions.erase id }.forgetMessages id).Owned := by
  refine ⟨housed.filed.removeSubscription id, fun other holds => ?_⟩
  have differ : other ≠ id := by
    rintro rfl
    exact housed.filed.removeSubscription_not_holds other holds
  show other ∈ s.subscriptions.erase id
  rw [AList.mem_erase]
  exact ⟨differ, housed.owned other (removeSubscription_holds holds)⟩

/-! ### Answering -/

section

variable (s)

theorem faultRequests_keeps (selected : PendingPublish → Bool)
    (serviceResult : StatusCode) : s.Keeps (s.faultRequests selected serviceResult) :=
  .of_eq (fun _ there => there) rfl

theorem deliverPendingStatusChanges_keeps (now : ℤ) :
    s.Keeps (s.deliverPendingStatusChanges now) := by
  refine .of_eq (fun id there => ?_)
    (deliverStatusChanges_spec now s.pendingStatusChanges 0 s).2.2
  rwa [(s.deliverPendingStatusChanges_answering now).subscriptions]

theorem takeIn_keeps (request : PendingPublish) :
    s.Keeps (s.takeIn request) := by
  obtain ⟨_, _, same, filed, holds⟩ := s.takeIn_spec request
  rw [same]
  exact ⟨fun _ there => there, filed, holds⟩

end

theorem rejectOldest_keeps (rejected : s.rejectOldest = .ok t) : s.Keeps t := by
  unfold rejectOldest at rejected
  split at rejected <;> cases rejected
  exact .of_eq (fun _ there => there) rfl

theorem Owned.sendPublishResponses (housed : s.Owned) (now : ℤ) (moreNotifications : Bool)
    (responses : List (PendingPublish × NotificationMessage E × ℕ))
    (present : ∀ response ∈ responses, response.2.2 ∈ s.subscriptions) :
    (sendPublishResponses now moreNotifications responses s).Owned := by
  induction responses generalizing s with
  | nil => exact housed
  | cons response rest ih =>
    refine ih ?_ fun later there => present later (mem_cons_of_mem response there)
    refine ⟨housed.filed.enqueue _ _ _, fun id holds => ?_⟩
    obtain before | owner := enqueue_holds holds
    · exact housed.owned id before
    · exact owner ▸ present response mem_cons_self

/-! ### Passes -/

variable {id : ℕ}

theorem mem_insert_of_mem {subscriptions : SubscriptionMap E} {other : ℕ}
    {subscription : Subscription E} (there : other ∈ subscriptions) :
    other ∈ subscriptions.insert id subscription :=
  (AList.mem_insert subscriptions).mpr (inr there)

/-- What a pass with publish requests has done so far. -/
structure PassOwned (s : SessionSubscriptions E) (pass : SessionSubscriptions E × Served E) :
    Prop where
  keeps : s.Keeps pass.1
  present : ∀ response ∈ pass.2.responses, response.2.2 ∈ pass.1.subscriptions

theorem settle_keeps_messages (s : SessionSubscriptions E) (id : ℕ) (queue : List PendingPublish)
    (drained : Subscription E) :
    (s.retransmissionQueue.Filed → (s.settle id queue drained).retransmissionQueue.Filed) ∧
      ∀ other, (s.settle id queue drained).retransmissionQueue.Holds other →
        s.retransmissionQueue.Holds other := by
  unfold settle
  split_ifs
  · exact ⟨fun filed => filed.removeSubscription id,
      fun other holds => removeSubscription_holds holds⟩
  · exact ⟨fun filed => filed, fun other holds => holds⟩

variable {o : Occasion} {reason : TickReason}

/-- **A visit that does not serve its subscription out** keeps the subscriptions, and the messages
it hands out belong to one of them. -/
theorem PassOwned.visit {pass after : SessionSubscriptions E × Served E}
    (before : s.PassOwned pass)
    (keeps : id ∉ pass.1.transferring → ¬ pass.1.ServesOut o reason id)
    (visited : (visits E o reason).step pass id = some after) : s.PassOwned after := by
  obtain ⟨t, served⟩ := pass
  obtain ⟨u, served'⟩ := after
  by_cases staged : id ∈ t.transferring
  · rw [visit_staged staged visited]
    exact before
  · have same := visit_same keeps visited
    have members : ∀ other, other ∈ t.subscriptions → other ∈ u.subscriptions := by
      intro other there
      rw [mem_subscriptions_iff] at there ⊢
      rwa [same.priorities]
    obtain ⟨subscription, result, ticked, responses, queue, drained, found, -, handedOut, rfl, out,
      -⟩ := visit_spec staged visited
    obtain ⟨-, -, owner, -⟩ := serve_spec handedOut
    obtain ⟨filed, holds⟩ := t.settle_keeps_messages id queue drained
    refine ⟨before.keeps.trans ⟨members, filed, holds⟩, fun response there => ?_⟩
    rw [out, mem_append] at there
    obtain old | new := there
    · exact members _ (before.present response old)
    · rw [owner response new]
      exact members id (AList.lookup_isSome.mp (by rw [found]; rfl))

theorem Owned.pass {served : Served E} (housed : s.Owned) (keeps : s.PassKeeps o reason)
    (passed : s.tickSubscriptionsWithPublishRequests o reason = .ok (t, served)) :
    (SessionSubscriptions.sendPublishResponses o.now served.moreNotifications served.responses
      t).Owned := by
  have cached : s.Keeps s.subscriptionIdsByPriority.2 := by
    unfold subscriptionIdsByPriority
    split_ifs
    · exact .of_eq (fun _ there => there) rfl
    · exact .refl s
  have done : s.PassOwned (t, served) :=
    (visits E o reason).run_invariant_of_guarded
      (fun _ _ _ before keeps visited => before.visit keeps visited)
      ⟨cached, fun _ none => by cases none⟩ keeps (pass_run passed)
  exact (housed.of_keeps done.keeps).sendPublishResponses o.now served.moreNotifications _
    done.present

theorem Owned.removeReady (housed : s.Owned) (toRemove : List ℕ) :
    (removeReady toRemove s).Owned := by
  induction toRemove generalizing s with
  | nil => exact housed
  | cons id rest ih =>
    have left := housed.leave id
    exact ih ⟨left.filed, left.owned⟩

variable {removed : List (RemovedSubscription E)}

theorem Owned.idlePass (housed : s.Owned)
    (passed : s.tickSubscriptionsWithoutPublishRequests o reason = .ok (removed, t)) : t.Owned := by
  obtain ⟨u, toRemove, after, rfl⟩ := idlePass_invariant (P := fun pass => pass.1.Owned) passed
    housed fun _ _ _ _ _ _ housed _ _ _ =>
      ⟨housed.filed, fun other holds => mem_insert_of_mem (housed.owned other holds)⟩
  have marked : { u with priorityCacheDirty := true }.Owned := ⟨after.filed, after.owned⟩
  exact marked.removeReady toRemove

/-! ### Every operation -/

theorem Owned.tick (housed : s.Owned)
    (keeps : s.TickKeeps o reason) (ticked : s.tick o reason = .ok (removed, t)) : t.Owned := by
  have delivered := housed.of_keeps (s.deliverPendingStatusChanges_keeps o.now)
  unfold SessionSubscriptions.tick at ticked
  dsimp only at keeps ticked
  have expired := delivered.of_keeps
    (faultRequests_keeps _ (fun request => decide (request.deadline < o.nowInstant))
      StatusCode.BadTimeout)
  split_ifs at ticked with none idle
  · cases ticked
    exact delivered.of_keeps (faultRequests_keeps _ _ _)
  · exact expired.idlePass ticked
  · obtain ⟨⟨u, served⟩, passed, built⟩ := map_eq_ok.mp ticked
    cases built
    exact expired.pass (keeps none (by rwa [Bool.not_eq_true] at idle)) passed

theorem Owned.makeRoom {o : Occasion} {s t : SessionSubscriptions E} (housed : s.Owned)
    (keeps : s.maxPublishRequests ≤ s.publishRequestQueue.length →
      s.TickKeeps o .receivePublishRequest) (roomy : s.makeRoom o = .ok t) : t.Owned := by
  refine makeRoom_keeps housed (fun full removed u ticked => housed.tick (keeps full) ticked)
    (fun u after rejected => ?_) roomy
  exact after.of_keeps (rejectOldest_keeps rejected)

theorem modifyEntry_keeps (s : SessionSubscriptions E) (id : ℕ)
    (change : Subscription E → Subscription E) : s.Keeps (s.modifyEntry id change) := by
  obtain ⟨-, -, -, -, queue, -, -⟩ := s.modifyEntry_frame id change
  refine .of_eq (fun other there => ?_) queue
  rw [← AList.lookup_isSome] at there ⊢
  rw [modifyEntry_lookup]
  split_ifs with same
  · rw [isSome_map, ← same]
    exact there
  · exact there

theorem forgetEach_keeps (ids : List ℕ) (s : SessionSubscriptions E) :
    s.Keeps (ids.foldl forgetMessages s) :=
  foldl_related .refl .trans forgetMessages_keeps ids s

theorem deleteEach_spec (ids : List ℕ) (s : SessionSubscriptions E) :
    (deleteEach ids s).2.retransmissionQueue = s.retransmissionQueue ∧
      ∀ other, other ∈ s.subscriptions → other ∉ ids →
        other ∈ (deleteEach ids s).2.subscriptions := by
  induction ids generalizing s with
  | nil => exact ⟨rfl, fun _ there _ => there⟩
  | cons id rest ih =>
    have first : (s.deleteSubscription id).2.retransmissionQueue = s.retransmissionQueue ∧
        ∀ other, other ∈ s.subscriptions → other ≠ id →
          other ∈ (s.deleteSubscription id).2.subscriptions := by
      unfold deleteSubscription
      dsimp only
      split
      · exact ⟨rfl, fun _ there _ => there⟩
      · exact ⟨rfl, fun _ there differ => AList.mem_erase.mpr ⟨differ, there⟩⟩
    obtain ⟨queue, present⟩ := ih (s.deleteSubscription id).2
    refine ⟨queue.trans first.1, fun other there notIn => ?_⟩
    rw [mem_cons, not_or] at notIn
    exact present other (first.2 other there notIn.1) notIn.2

theorem forgetEach_not_holds {ids : List ℕ} (filed : s.retransmissionQueue.Filed)
    (listed : id ∈ ids) : ¬ (ids.foldl forgetMessages s).retransmissionQueue.Holds id := by
  induction ids generalizing s with
  | nil => cases listed
  | cons first rest ih =>
    intro holds
    obtain rfl | later := mem_cons.mp listed
    · have before := (forgetEach_keeps rest (s.forgetMessages id)).holds id holds
      exact filed.removeSubscription_not_holds id before
    · exact ih (filed.removeSubscription first) later holds

theorem Owned.deleteSubscriptions (housed : s.Owned) (ids : List ℕ) :
    (s.deleteSubscriptions ids).2.Owned := by
  obtain ⟨queue, present⟩ := deleteEach_spec ids s
  have filed : (deleteEach ids s).2.retransmissionQueue.Filed := by
    rw [queue]
    exact housed.filed
  have forgotten := forgetEach_keeps ids (deleteEach ids s).2
  refine ⟨forgotten.filed filed, fun id holds => ?_⟩
  have kept : id ∉ ids := fun listed => forgetEach_not_holds filed listed holds
  have before := forgotten.holds id holds
  rw [queue] at before
  exact forgotten.present id (present id (housed.owned id before) kept)

def OwnNotifs : SessionOp E → Prop
  | .insert subscription notifs => ∀ entry ∈ notifs, entry.subscriptionId = subscription.id
  | _ => True

theorem Owned.step {op : SessionOp E} (housed : s.Owned) (keeps : s.KeepsServed op)
    (own : OwnNotifs op) (applied : op.apply s = .ok t) : t.Owned := by
  have in_place : ∀ {change : Subscription E → Subscription E}, Changes change op → t.Owned :=
    fun changes => housed.of_keeps (related_of_changes .refl .trans
      (fun s id => s.modifyEntry_keeps id _) (fun _ _ => .of_eq (fun _ => id) rfl) changes applied)
  cases op with
  | insert subscription notifs =>
    cases applied
    unfold insert
    split_ifs
    · exact housed
    · refine ⟨housed.filed.pushAll notifs, fun id holds => ?_⟩
      obtain before | ⟨entry, there, owner⟩ := pushAll_holds holds
      · exact mem_insert_of_mem (housed.owned id before)
      · refine (AList.mem_insert s.subscriptions).mpr (inl ?_)
        rw [← owner, own entry there]
  | remove id =>
    cases applied
    have left := housed.leave id
    exact ⟨left.filed, left.owned⟩
  | markTransferring id =>
    cases applied
    unfold markTransferring
    split_ifs
    · exact ⟨housed.filed, housed.owned⟩
    · exact housed
  | createSubscription request info id nowInstant =>
    cases applied
    unfold createSubscription
    split_ifs
    · exact housed
    · exact ⟨housed.filed, fun other holds => mem_insert_of_mem (housed.owned other holds)⟩
  | modifySubscription request info =>
    cases applied
    unfold modifySubscription
    split_ifs
    · exact housed.of_keeps (s.modifyEntry_keeps request.subscriptionId _).invalidated
    · exact housed
  | setPublishingMode | republish | updateOwner | resendData | item => exact in_place rfl
  | deleteSubscriptions ids =>
    cases applied
    exact housed.deleteSubscriptions ids
  | queueStatusChange id sequenceNumber publishTime status =>
    cases applied
    exact ⟨housed.filed, housed.owned⟩
  | cancelPublishRequests requestHandle =>
    cases applied
    exact housed.of_keeps (faultRequests_keeps s _ _)
  | enqueuePublishRequest now nowInstant first second request =>
    obtain ⟨u, removed, roomy, ticked⟩ := enqueuePublishRequest_ok applied
    have roomy' := (housed.makeRoom keeps.1 roomy).of_keeps (u.takeIn_keeps request)
    exact roomy'.tick (keeps.2 u roomy) ticked
  | processNotificationWake o =>
    obtain ⟨-, rfl⟩ | ⟨waits, u, served, passed, rfl⟩ := processNotificationWake_ok applied
    · exact housed
    · exact housed.pass (keeps waits) passed
  | tick o reason =>
    obtain ⟨⟨removed, u⟩, ticked, rfl⟩ := map_eq_ok.mp applied
    exact housed.tick keeps ticked

theorem FreshSession.owned (fresh : FreshSession s) : s.Owned := by
  obtain ⟨limits, userToken, rfl⟩ := fresh
  refine ⟨new_agrees.toFiled, fun id holds => ?_⟩
  exact absurd holds (new_holds id)

/-- **No held message is orphaned,** in the runs that serve no subscription out. -/
theorem retransmissions_housed {init s : SessionSubscriptions E} {ops : List (SessionOp E)}
    (fresh : FreshSession init)
    (keeps : (sessions E).Guarded (fun s op => s.KeepsServed op ∧ OwnNotifs op) init ops)
    (ran : (sessions E).run init ops = some s) (number : ℕ) (entry : NonAckedPublish E)
    (held : s.retransmissionQueue.entries.lookup number = some entry) :
    entry.subscriptionId ∈ s.subscriptions := by
  have housed : s.Owned :=
    (sessions E).run_invariant_of_guarded
      (fun _ _ _ housed meets stepped =>
        housed.step meets.1 meets.2 (failing_step_eq_some.mp stepped))
      (FreshSession.owned fresh) keeps ran
  exact housed.owned entry.subscriptionId ⟨number, entry, held, rfl⟩

/-- A value is reported, and its message waits to be acknowledged. -/
def reportedOnce : List (SessionOp Externals.integers) :=
  [createInteger 1 3 0, .item 1 (.insert 1 (integerItem 1 .reporting 5)),
    .item 1 (.notifyDataValue 1 (integerValue 5 0) 0), publishInteger 1,
    .tick standstill .tickTimerFired]

theorem retransmissions_housed_reported : ∃ s entry,
    (sessions _).run integerSession reportedOnce = some s ∧
      s.retransmissionQueue.entries.lookup 0 = some entry ∧
      entry.subscriptionId ∈ s.subscriptions := by
  obtain ⟨s, entry, ran, held⟩ : ∃ s entry, (sessions _).run integerSession reportedOnce = some s ∧
      s.retransmissionQueue.entries.lookup 0 = some entry := ⟨_, _, rfl, rfl⟩
  refine ⟨s, entry, ran, held, retransmissions_housed fresh_integerSession ?_ ran 0 entry held⟩
  refine .cons _ rfl ⟨trivial, trivial⟩ (.cons _ rfl ⟨trivial, trivial⟩
    (.cons _ rfl ⟨trivial, trivial⟩ (.cons _ rfl ⟨⟨fun full => ?_, fun t roomy => ?_⟩, trivial⟩
      (.cons _ rfl ⟨fun _ _ => ⟨fun _ => ?_, fun _ _ => trivial⟩, trivial⟩ trivial))))
  · exact absurd full (by decide +kernel)
  · cases Except.ok.inj roomy
    refine fun _ _ => ⟨fun _ => ?_, fun _ _ => trivial⟩
    rintro ⟨subscription, found, waiting, closing, -⟩
    cases some.inj found
    cases closing
  · rintro ⟨subscription, found, waiting, closing, -⟩
    cases some.inj found
    cases closing

/-- **The last message of a subscription that is served out is orphaned.** -/
theorem orphaned_retransmission :
    ¬ ∀ (E : Externals) (init s : SessionSubscriptions E) (ops : List (SessionOp E)),
      FreshSession init → (∀ op ∈ ops, OwnNotifs op) → (sessions E).run init ops = some s →
      ∀ number entry, s.retransmissionQueue.entries.lookup number = some entry →
        entry.subscriptionId ∈ s.subscriptions := by
  intro always
  obtain ⟨s, entry, ran, held, owner, gone⟩ : ∃ s entry,
      (sessions _).run integerSession servedOut = some s ∧
      s.retransmissionQueue.entries.lookup 0 = some entry ∧ entry.subscriptionId = 1 ∧
      1 ∉ s.subscriptions := ⟨_, _, rfl, rfl, rfl, by decide +kernel⟩
  have own : ∀ op ∈ servedOut, OwnNotifs op := by
    simp [servedOut, OwnNotifs, createInteger, publishInteger]
  exact gone (owner ▸ always _ integerSession s servedOut fresh_integerSession own ran 0 entry held)

end SessionSubscriptions

end AsyncOpcua.Subscriptions
