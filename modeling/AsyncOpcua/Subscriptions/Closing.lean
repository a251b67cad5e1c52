/-
**Which subscriptions of a session stay open.**
-/

import AsyncOpcua.Subscriptions.SessionAdvance

namespace AsyncOpcua.Subscriptions

open Types Foundation List AList Or

variable {E : Externals}

namespace Subscription

theorem tick_closes {s t : Subscription E} {now : ℤ} {nowInstant : ℕ} {reason : TickReason}
    {queued : Bool} {visit : VisitOrder} {result : TickResult} (running : s.state ≠ .closed)
    (ticked : s.tick now nowInstant reason queued visit = some (result, t))
    (closed : t.state = .closed) : reason = .tickTimerFired ∧ result = .expired := by
  rw [tick_eq] at ticked
  split_ifs at ticked
  · cases ticked
    exact absurd closed running
  · have state : t.state = (s.handleStateTransition (s.row reason queued)).2.state :=
      congrArg Control.state (applyRow_control ticked)
    obtain ⟨closes, -⟩ := closes_row running (state.symm.trans closed)
    refine ⟨?_, ?_⟩
    · unfold row getStateTransition at closes
      dsimp only at closes
      split at closes <;> (try split_ifs at closes) <;> first | rfl | cases closes
    · unfold applyRow at ticked
      rw [closes] at ticked
      cases ticked
      rfl

end Subscription

namespace SessionSubscriptions

def OpenAt (s : SessionSubscriptions E) (id : ℕ) : Prop :=
  ∃ subscription, s.copy id = some subscription ∧ subscription.state ≠ .closed

variable {s : SessionSubscriptions E} {id : ℕ}

theorem OpenAt.mem (opened : s.OpenAt id) : id ∈ s.subscriptions := by
  obtain ⟨sub, there, -⟩ := opened
  rw [← lookup_isSome, ← copy, there]
  rfl

def Reports (reason : TickReason) (removed : List (RemovedSubscription E)) (id : ℕ) : Prop :=
  reason = .tickTimerFired ∧ id ∈ removed.map (·.id)

variable {reason : TickReason} {before : List (RemovedSubscription E)}
  {entry : RemovedSubscription E}

theorem Reports.later {result : TickResult} (reports : Reports reason before id) :
    Reports reason (if result = .expired then before ++ [entry] else before) id := by
  refine ⟨reports.1, ?_⟩
  split_ifs
  · rw [map_append]
    exact mem_append_left _ reports.2
  · exact reports.2

theorem ticked_open {subscription ticked : Subscription E} {o : Occasion} {reason : TickReason}
    {queued : Bool} {id : ℕ} {result : TickResult}
    (own : entry.id = id) (running : subscription.state ≠ .closed)
    (returned : subscription.tick o.now o.nowInstant reason queued (o.orders.items id) =
      some (result, ticked)) :
    ticked.state ≠ .closed ∨
      Reports reason (if result = .expired then before ++ [entry] else before) id := by
  by_cases closed : ticked.state = .closed
  · obtain ⟨timer, expired⟩ := Subscription.tick_closes running returned closed
    refine inr ⟨timer, ?_⟩
    rw [if_pos expired, map_append]
    exact mem_append_right _ (by simp [own])
  · exact inl closed

variable {o : Occasion}

variable {t : SessionSubscriptions E}

theorem pass_open {served : Served E} (opened : s.OpenAt id)
    (passed : s.tickSubscriptionsWithPublishRequests o reason = .ok (t, served)) :
    t.OpenAt id ∨ Reports reason served.removed id := by
  have start : s.subscriptionIdsByPriority.2.OpenAt id := by
    unfold subscriptionIdsByPriority
    split_ifs <;> exact opened
  refine pass_invariant (P := fun pass => pass.1.OpenAt id ∨ Reports reason pass.2.removed id)
    passed (inl start) ?_
  intro u before other subscription result ticked responses queue drained after opened _ found
    returned served _ removed
  rw [removed]
  rcases opened with ⟨sub, there, running⟩ | reports
  swap
  · exact inr reports.later
  by_cases own : id = other
  · subst own
    rw [copy, found, Option.some.injEq] at there
    subst there
    refine (ticked_open rfl running returned).imp_left fun still => ⟨drained, ?_, ?_⟩
    · have state : drained.state = ticked.state := by rw [(serve_spec served).2.2.2]
      have stays : drained.readyToRemove = false := by
        rw [Subscription.readyToRemove, state]
        simp [still]
      rw [copy, settle_lookup, stays]
      simp
    · rw [(serve_spec served).2.2.2]
      exact still
  · refine inl ⟨sub, ?_, running⟩
    rw [copy, settle_lookup, if_neg own]
    exact there

theorem removeReady_open {toRemove : List ℕ} (kept : id ∉ toRemove) (opened : s.OpenAt id) :
    (removeReady toRemove s).OpenAt id := by
  induction toRemove generalizing s with
  | nil => exact opened
  | cons other rest ih =>
    rw [mem_cons, not_or] at kept
    obtain ⟨sub, there, running⟩ := opened
    exact ih kept.2 ⟨sub, (lookup_erase_ne kept.1).trans there, running⟩

variable {removed : List (RemovedSubscription E)}

section

variable (opened : s.OpenAt id)
include opened

theorem idlePass_open
    (passed : s.tickSubscriptionsWithoutPublishRequests o reason = .ok (removed, t)) :
    t.OpenAt id ∨ Reports reason removed id := by
  obtain ⟨u, toRemove, after, rfl⟩ := idlePass_invariant
    (P := fun pass => pass.1.OpenAt id ∧ id ∉ pass.2.toRemove ∨ Reports reason pass.2.removed id)
    passed (inl ⟨opened, not_mem_nil⟩) (by
      intro u before other subscription result ticked opened _ found returned
      rcases opened with ⟨⟨sub, there, running⟩, kept⟩ | reports
      swap
      · exact inr reports.later
      by_cases own : id = other
      · subst own
        rw [copy, found, Option.some.injEq] at there
        subst there
        refine (ticked_open rfl running returned).imp_left fun still => ⟨⟨ticked, ?_, still⟩, ?_⟩
        · exact lookup_insert _
        · have stays : ticked.readyToRemove = false := by
            rw [Subscription.readyToRemove]
            simp [still]
          rw [stays]
          exact kept
      · refine inl ⟨⟨sub, (lookup_insert_ne own).trans there, running⟩, ?_⟩
        dsimp only
        split_ifs
        · rw [mem_append, mem_singleton]
          exact fun member => member.elim kept own
        · exact kept)
  exact after.imp_left fun still => removeReady_open still.2 still.1

theorem OpenAt.of_subscriptions (same : t.subscriptions = s.subscriptions) :
    t.OpenAt id := by
  obtain ⟨sub, there, running⟩ := opened
  exact ⟨sub, by rw [copy, same]; exact there, running⟩

theorem tick_keeps_open (ticked : s.tick o reason = .ok (removed, t)) :
    t.OpenAt id ∨ Reports reason removed id := by
  have delivered := opened.of_subscriptions
    (s.deliverPendingStatusChanges_answering o.now).subscriptions
  have expired : ((s.deliverPendingStatusChanges o.now).removeExpiredPublishRequests
      o.nowInstant).OpenAt id := delivered.of_subscriptions rfl
  obtain ⟨-, rfl, rfl⟩ | ⟨-, ticked⟩ | ⟨-, u, served, passed, rfl, rfl⟩ := tick_ok ticked
  · exact inl (delivered.of_subscriptions rfl)
  · exact idlePass_open expired ticked
  · refine (pass_open expired passed).imp_left fun still => ?_
    exact still.of_subscriptions (sendPublishResponses_answering _ _ _ u).subscriptions

theorem receive_keeps_open
    (ticked : s.tick o .receivePublishRequest = .ok (removed, t)) : t.OpenAt id :=
  (tick_keeps_open opened ticked).resolve_right fun reports => by cases reports.1

end

variable {nowInstant : ℕ}

theorem enqueue_keeps_open {now : ℤ} {first second : Orders} {request : PendingPublish}
    (opened : s.OpenAt id)
    (enqueued : s.enqueuePublishRequest now nowInstant first second request = .ok t) :
    t.OpenAt id := by
  obtain ⟨u, removed, roomy, ticked⟩ := enqueuePublishRequest_ok enqueued
  refine receive_keeps_open (OpenAt.of_subscriptions ?_ (u.takeIn_answering request).subscriptions)
    ticked
  refine makeRoom_keeps opened (fun _ removed w ticked => receive_keeps_open opened ticked)
    (fun w after rejected => ?_) roomy
  exact after.of_subscriptions (rejectOldest_answering rejected).subscriptions

theorem wake_keeps_open (opened : s.OpenAt id) (woken : s.processNotificationWake o = .ok t) :
    t.OpenAt id := by
  obtain ⟨-, rfl⟩ | ⟨-, u, served, passed, rfl⟩ := processNotificationWake_ok woken
  · exact opened
  · refine OpenAt.of_subscriptions ?_ (sendPublishResponses_answering _ _ _ u).subscriptions
    exact (pass_open opened passed).resolve_right fun reports => by cases reports.1

theorem modifyEntry_keeps_open (opened : s.OpenAt id) (other : ℕ)
    {change : Subscription E → Subscription E}
    (still : ∀ sub : Subscription E, (change sub).state = sub.state) :
    (s.modifyEntry other change).OpenAt id := by
  obtain ⟨sub, there, running⟩ := opened
  by_cases own : id = other
  · refine ⟨change sub, ?_, by rwa [still]⟩
    rw [copy, modifyEntry_lookup, if_pos own, ← own]
    exact congrArg (Option.map change) there
  · exact ⟨sub, by rw [copy, modifyEntry_lookup, if_neg own]; exact there, running⟩

section

variable {request : CreateSubscriptionRequest E} {info : SubscriptionLimits E}

theorem createSubscription_spec {response : CreateSubscriptionResponse E}
    (created : s.createSubscription request info id nowInstant = (.ok response, t)) :
    response.subscriptionId = id ∧ t.OpenAt id ∧
      (∀ other ∈ t.subscriptions, other = id ∨ other ∈ s.subscriptions) ∧
      ∀ other ≠ id, s.OpenAt other → t.OpenAt other := by
  unfold createSubscription at created
  split_ifs at created
  · cases created
  · cases created
    refine ⟨rfl, ⟨_, lookup_insert _, fun impossible => by cases impossible⟩, ?_, ?_⟩
    · intro other member
      by_cases same : other = id
      · exact inl same
      · exact inr ((mem_insert s.subscriptions).mp member |>.resolve_left same)
    · rintro other apart ⟨sub, there, running⟩
      exact ⟨sub, (lookup_insert_ne apart).trans there, running⟩

theorem createSubscription_error {status : StatusCode}
    (failed : s.createSubscription request info id nowInstant = (.error status, t)) : t = s := by
  unfold createSubscription at failed
  split_ifs at failed
  · cases failed
    rfl
  · cases failed

end

def deletedIds (ids : List ℕ) (results : List (StatusCode × List (MonitoredItemRef E))) : List ℕ :=
  (results.zip ids).filterMap fun entry =>
    if entry.1.1 = StatusCode.Good then some entry.2 else none

theorem deleteSubscriptions_keeps_open {ids : List ℕ} (opened : s.OpenAt id) :
    (s.deleteSubscriptions ids).2.OpenAt id ∨
      id ∈ deletedIds ids (s.deleteSubscriptions ids).1 := by
  have deleted : ∀ (ids : List ℕ) (s : SessionSubscriptions E), s.OpenAt id →
      (deleteEach ids s).2.OpenAt id ∨ id ∈ deletedIds ids (deleteEach ids s).1 := by
    intro ids
    induction ids with
    | nil => exact fun _ opened => inl opened
    | cons other rest ih =>
      rintro s ⟨sub, there, running⟩
      have later :
          ∀ result, id ∈ deletedIds rest (deleteEach rest (s.deleteSubscription other).2).1 →
          id ∈ deletedIds (other :: rest)
            (result :: (deleteEach rest (s.deleteSubscription other).2).1) := by
        intro result member
        rw [deletedIds, zip_cons_cons, filterMap_cons]
        split
        · exact member
        · exact mem_cons_of_mem _ member
      by_cases own : id = other
      · subst own
        have found : (s.subscriptions.lookup id) = some sub := there
        have good : (s.deleteSubscription id).1.1 = StatusCode.Good := by
          unfold deleteSubscription
          dsimp only
          rw [found]
        right
        show id ∈ deletedIds (id :: rest) ((s.deleteSubscription id).1 :: _)
        rw [deletedIds, zip_cons_cons, filterMap_cons]
        simp [good]
      · have opened : (s.deleteSubscription other).2.OpenAt id := by
          unfold deleteSubscription
          dsimp only
          split
          · exact ⟨sub, there, running⟩
          · exact ⟨sub, (lookup_erase_ne own).trans there, running⟩
        exact (ih _ opened).imp_right (later _)
  refine (deleted ids s opened).imp_left fun still => ?_
  refine foldl_related (R := fun s t : SessionSubscriptions E => s.OpenAt id → t.OpenAt id)
    (fun _ => (·)) (fun first second opened => second (first opened)) (fun s other opened => ?_)
    ids _ still
  exact opened.of_subscriptions rfl

end SessionSubscriptions

/-- The operation is one of the services that act on the subscriptions that are there: it creates,
deletes and transfers none, and is no tick of the timer. -/
def SessionOp.Serves : SessionOp E → Prop
  | .insert .. | .remove _ | .markTransferring _ | .createSubscription .. | .deleteSubscriptions _
  | .queueStatusChange .. => False
  | .tick _ reason => reason ≠ .tickTimerFired
  | _ => True

namespace SessionSubscriptions

variable {s t : SessionSubscriptions E} {id : ℕ}

theorem keeps_open_of_apply {op : SessionOp E} (serves : op.Serves) (opened : s.OpenAt id)
    (applied : op.apply s = .ok t) : t.OpenAt id := by
  have in_place : ∀ {change : Subscription E → Subscription E}, Changes change op →
      (∀ sub, (change sub).state = sub.state) → t.OpenAt id := fun changes still =>
    related_of_changes (R := fun s t => s.OpenAt id → t.OpenAt id) (fun _ => (·))
      (fun first second opened => second (first opened))
      (fun s other opened => modifyEntry_keeps_open opened other still)
      (fun _ _ opened => opened.of_subscriptions rfl) changes applied opened
  cases op with
  | insert | remove | markTransferring | createSubscription | deleteSubscriptions
  | queueStatusChange => exact serves.elim
  | modifySubscription request info =>
    cases applied
    unfold SessionSubscriptions.modifySubscription
    split_ifs
    · refine OpenAt.of_subscriptions (modifyEntry_keeps_open opened request.subscriptionId ?_) rfl
      exact fun _ => rfl
    · exact opened
  | setPublishingMode | republish | updateOwner | resendData => exact in_place rfl fun _ => rfl
  | item other op => exact in_place rfl fun sub => congrArg Control.state (op.apply_control sub)
  | cancelPublishRequests requestHandle =>
    cases applied
    exact opened.of_subscriptions rfl
  | enqueuePublishRequest now nowInstant first second request =>
    exact enqueue_keeps_open opened applied
  | processNotificationWake o => exact wake_keeps_open opened applied
  | tick o reason =>
    obtain ⟨⟨removed, u⟩, ticked, rfl⟩ := Machine.map_eq_ok.mp applied
    exact (tick_keeps_open opened ticked).resolve_right fun reports => serves reports.1

theorem Advances.mem {P : Proviso E} (advances : s.Advances P id t)
    (member : id ∈ t.subscriptions) :
    id ∈ s.subscriptions := by
  by_contra absent
  exact lookup_eq_none.mp (advances.absent (lookup_eq_none.mpr absent)).1 member

theorem mem_of_apply {op : SessionOp E} (serves : op.Serves) (applied : op.apply s = .ok t)
    (member : id ∈ t.subscriptions) : id ∈ s.subscriptions := by
  have leaves : op.LeavesTransfer id := by
    cases op <;> trivial
  have brings : ∀ subscription notifs, op ≠ .insert subscription notifs := by
    rintro subscription notifs rfl
    exact serves
  exact (advances_of_apply (ticksMeet_any id s op) leaves
    (fun _ _ same => absurd same (brings _ _)) applied).mem member

end SessionSubscriptions

end AsyncOpcua.Subscriptions
