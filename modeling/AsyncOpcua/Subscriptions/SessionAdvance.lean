/-
**What an operation of a session does to one of its subscriptions.**

The session is read at one id: the copy of the subscription, the messages published for it, the
status changes owed for it, and its entries in the retransmission queue.
-/

import AsyncOpcua.Subscriptions.SessionRuns

namespace AsyncOpcua.Subscriptions

open Types Foundation Option Or SessionSubscriptions AList

variable {E : Externals}

open List

/-- A condition on a subscription and on a tick that it is about to be given: the instant, the
reason, and whether a request is queued. -/
abbrev TickCondition (E : Externals) := Subscription E → ℕ → TickReason → Bool → Prop

/-- What may happen to a subscription in an operation: which ticks it is given, and whether its
session is told of status changes. -/
structure Proviso (E : Externals) where
  ticks : TickCondition E
  tells : Prop

namespace Subscription

/-! ### The life of one copy -/

/-- Nothing is ticked and nothing is taken: the messages and the numbers stay as they are. -/
structure Altered (s t : Subscription E) : Prop where
  id : t.id = s.id
  notifications : t.notifications = s.notifications
  sequenceNumber : t.sequenceNumber = s.sequenceNumber

variable (s : Subscription E)

theorem Altered.refl : s.Altered s := ⟨rfl, rfl, rfl⟩

theorem Altered.trans {s t u : Subscription E} (first : s.Altered t) (second : t.Altered u) :
    s.Altered u :=
  ⟨second.id.trans first.id, second.notifications.trans first.notifications,
    second.sequenceNumber.trans first.sequenceNumber⟩

/-- The subscription is altered, ticked where the condition holds, and its messages are taken. -/
inductive Becomes (P : TickCondition E) (s : Subscription E) :
    List (NotificationMessage E) → Subscription E → Prop where
  | refl : Becomes P s [] s
  | alter {taken t u} : Becomes P s taken t → t.Altered u → Becomes P s taken u
  | tick {taken t u} {now : ℤ} {nowInstant : ℕ} {reason : TickReason} {queued : Bool}
      {visit : VisitOrder} {result : TickResult} : Becomes P s taken t →
      P t nowInstant reason queued →
      t.tick now nowInstant reason queued visit = some (result, u) → Becomes P s taken u
  | take {taken t u} {message : NotificationMessage E} : Becomes P s taken t →
      t.takeNotification = (some message, u) → Becomes P s (taken ++ [message]) u

variable {P : TickCondition E}

theorem Becomes.trans {s t u : Subscription E} {first second : List (NotificationMessage E)}
    (before : s.Becomes P first t) (after : t.Becomes P second u) :
    s.Becomes P (first ++ second) u := by
  induction after with
  | refl =>
    rw [append_nil]
    exact before
  | alter _ altered ih => exact ih.alter altered
  | tick _ meets ticked ih => exact ih.tick meets ticked
  | take _ took ih =>
    rw [← append_assoc]
    exact ih.take took

theorem becomes_taken (count : ℕ) :
    s.Becomes P (s.notifications.take count)
      { s with notifications := s.notifications.drop count } := by
  induction count with
  | zero => exact .refl
  | succ count ih =>
    cases left : s.notifications.drop count with
    | nil =>
      have within : s.notifications.length ≤ count := drop_eq_nil_iff.mp left
      rw [take_of_length_le within] at ih
      rw [take_of_length_le (within.trans (Nat.le_succ count)),
        drop_of_length_le (within.trans (Nat.le_succ count)), ← left]
      exact ih
    | cons message rest =>
      have next : s.notifications.drop (count + 1) = rest := by
        rw [← drop_drop, left]
        rfl
      have here : s.notifications[count]? = some message := by
        rw [← List.head?_drop, left]
        rfl
      rw [next, take_add_one, here]
      refine ih.take ?_
      unfold takeNotification
      rw [left]

theorem modify_altered (publishingInterval keepAlive lifetime priority
    maxNotificationsPerPublish : ℕ) : s.Altered
      (s.modify publishingInterval keepAlive lifetime priority maxNotificationsPerPublish) :=
  ⟨rfl, rfl, rfl⟩

theorem modifyItem_altered (id : ℕ)
    (change : MonitoredItem E → MonitoredItem E) : s.Altered (s.modifyItem id change) := by
  unfold modifyItem
  cases s.monitoredItems.lookup id <;> exact ⟨rfl, rfl, rfl⟩

theorem notifyItem_altered (id : ℕ)
    (notify : MonitoredItem E → Bool × MonitoredItem E) : s.Altered (s.notifyItem id notify) := by
  unfold notifyItem
  cases s.monitoredItems.lookup id <;> exact ⟨rfl, rfl, rfl⟩

end Subscription

theorem ItemOp.apply_altered (op : ItemOp E) (s : Subscription E) : s.Altered (op.apply s) := by
  cases op with
  | insert | remove => exact ⟨rfl, rfl, rfl⟩
  | notifyDataValue | notifyEvent => exact s.notifyItem_altered _ _
  | notifyEuRangeChanged | setMonitoringMode | setTriggering | modify =>
    exact s.modifyItem_altered _ _

open RetransmissionQueue

namespace SessionSubscriptions

/-! ### The session at one id -/

def copy (s : SessionSubscriptions E) (id : ℕ) : Option (Subscription E) :=
  s.subscriptions.lookup id

def publishedMessage (id : ℕ) (answer : PendingPublish × ResponseMessage E) :
    Option (NotificationMessage E) :=
  match answer.2 with
  | .serviceFault _ _ => none
  | .publish response =>
    if response.subscriptionId = id then some response.notificationMessage else none

def published (s : SessionSubscriptions E) (id : ℕ) : List (NotificationMessage E) :=
  s.sent.filterMap (publishedMessage id)

def owed (s : SessionSubscriptions E) (id : ℕ) : List (NotificationMessage E) :=
  s.pendingStatusChanges.filterMap fun pending => if pending.1 = id then some pending.2 else none

/-- The messages of the subscription among responses of a pass. -/
def handed (id : ℕ) (responses : List (PendingPublish × NotificationMessage E × ℕ)) :
    List (NotificationMessage E) :=
  responses.filterMap fun response => if response.2.2 = id then some response.2.1 else none

/-- **What an operation does to the subscription,** under the proviso. -/
structure Advances (P : Proviso E) (id : ℕ) (s t : SessionSubscriptions E) : Prop where
  absent : s.copy id = none →
    t.copy id = none ∧ ∀ m ∈ t.published id, m ∈ s.published id ∨ P.tells ∧ m ∈ s.owed id
  present : ∀ sub, s.copy id = some sub → ∃ taken sub', sub.Becomes P.ticks taken sub' ∧
    (t.copy id = none ∨ t.copy id = some sub') ∧
    ∀ m ∈ t.published id, m ∈ s.published id ∨ m ∈ s.owed id ∨ m ∈ taken
  owed : ∀ m ∈ t.owed id, m ∈ s.owed id
  staged : id ∈ s.transferring → id ∈ t.transferring ∧
    (∀ m ∈ t.published id, m ∈ s.published id ∨ m ∈ s.owed id) ∧
    ∀ sub', t.copy id = some sub' → ∃ sub, s.copy id = some sub ∧ sub.Altered sub'
  retained : t.retransmissionQueue.Holds id → s.retransmissionQueue.Holds id ∨ s.copy id ≠ none

variable {P : Proviso E}

theorem Advances.of_altered {id : ℕ} {s t : SessionSubscriptions E}
    (copies : t.copy id = none ∨ ∃ sub sub', s.copy id = some sub ∧ t.copy id = some sub' ∧
      sub.Altered sub')
    (published : ∀ m ∈ t.published id, m ∈ s.published id ∨ P.tells ∧ m ∈ s.owed id)
    (owed : ∀ m ∈ t.owed id, m ∈ s.owed id)
    (transferring : id ∈ s.transferring → id ∈ t.transferring)
    (retained : t.retransmissionQueue.Holds id → s.retransmissionQueue.Holds id) :
    s.Advances P id t := by
  refine ⟨fun none => ⟨?_, published⟩, fun sub there => ?_, owed,
    fun staged => ⟨transferring staged, fun m member => (published m member).imp_right And.right,
      fun sub' there => ?_⟩,
    fun holds => inl (retained holds)⟩
  · obtain gone | ⟨sub, sub', there, -, -⟩ := copies
    · exact gone
    · rw [none] at there
      cases there
  · obtain gone | ⟨before, sub', same, after, altered⟩ := copies
    · exact ⟨[], sub, .refl, inl gone, fun m member =>
        (published m member).imp_right fun told => inl told.2⟩
    · rw [there, some.injEq] at same
      subst same
      exact ⟨[], sub', Subscription.Becomes.refl.alter altered, inr after,
        fun m member =>
        (published m member).imp_right fun told => inl told.2⟩
  · obtain gone | ⟨sub, after, before, same, altered⟩ := copies
    · rw [gone] at there
      cases there
    · rw [there, some.injEq] at same
      exact ⟨sub, before, same ▸ altered⟩

variable {id : ℕ} {s t : SessionSubscriptions E}

theorem Advances.of_eq (copies : t.copy id = s.copy id)
    (published : ∀ m ∈ t.published id, m ∈ s.published id ∨ P.tells ∧ m ∈ s.owed id)
    (owed : ∀ m ∈ t.owed id, m ∈ s.owed id)
    (transferring : id ∈ s.transferring → id ∈ t.transferring)
    (retained : t.retransmissionQueue.Holds id → s.retransmissionQueue.Holds id) :
    s.Advances P id t := by
  refine .of_altered ?_ published owed transferring retained
  rw [copies]
  cases s.copy id with
  | none => exact inl rfl
  | some sub => exact inr ⟨sub, sub, rfl, rfl, .refl sub⟩

theorem Advances.of_same (copies : t.copy id = s.copy id) (sent : t.sent = s.sent)
    (pending : t.pendingStatusChanges = s.pendingStatusChanges)
    (transferring : id ∈ s.transferring → id ∈ t.transferring)
    (retained : t.retransmissionQueue.Holds id → s.retransmissionQueue.Holds id) :
    s.Advances P id t := by
  refine .of_eq copies (fun m member => inl ?_) (fun m member => ?_) transferring retained
  · rwa [published, sent] at member
  · rwa [SessionSubscriptions.owed, pending] at member

theorem Advances.refl (id : ℕ) (s : SessionSubscriptions E) : s.Advances P id s :=
  .of_same rfl rfl rfl (·) (·)

theorem Advances.trans {u : SessionSubscriptions E} (first : s.Advances P id t)
    (second : t.Advances P id u) : s.Advances P id u := by
  -- What is published second was published or owed before the second operation, or taken in it.
  have back : ∀ {taken : List (NotificationMessage E)},
      (∀ m ∈ t.published id, m ∈ s.published id ∨ m ∈ s.owed id ∨ m ∈ taken) →
      ∀ m, m ∈ t.published id ∨ m ∈ t.owed id → m ∈ s.published id ∨ m ∈ s.owed id ∨ m ∈ taken := by
    rintro taken before m (published | owed)
    · exact before m published
    · exact inr (inl (first.owed m owed))
  have quiet :
      ∀ {tells : Prop}, (∀ m ∈ t.published id, m ∈ s.published id ∨ tells ∧ m ∈ s.owed id) →
      (∀ m ∈ u.published id, m ∈ t.published id ∨ tells ∧ m ∈ t.owed id) →
      ∀ m ∈ u.published id, m ∈ s.published id ∨ tells ∧ m ∈ s.owed id := by
    intro tells before after m member
    obtain published | ⟨told, owed⟩ := after m member
    · exact before m published
    · exact inr ⟨told, first.owed m owed⟩
  refine ⟨fun none => ?_, fun sub there => ?_, fun m member => first.owed m (second.owed m member),
    fun staged => ?_, fun holds => ?_⟩
  · obtain ⟨gone, before⟩ := first.absent none
    obtain ⟨still, after⟩ := second.absent gone
    exact ⟨still, quiet before after⟩
  · obtain ⟨taken, mid, becomes, copies, before⟩ := first.present sub there
    rcases copies with gone | alive
    · obtain ⟨still, after⟩ := second.absent gone
      exact ⟨taken, mid, becomes, inl still, fun m member =>
        back before m ((after m member).imp_right And.right)⟩
    · obtain ⟨later, sub', becomes', copies', after⟩ := second.present mid alive
      refine ⟨taken ++ later, sub', becomes.trans becomes', copies', fun m member => ?_⟩
      rw [mem_append]
      obtain published | owed | new := after m member
      · exact (back before m (inl published)).imp_right (imp_right inl)
      · exact (back before m (inr owed)).imp_right (imp_right inl)
      · exact inr (inr (inr new))
  · obtain ⟨still, before, altered⟩ := first.staged staged
    obtain ⟨still', after, altered'⟩ := second.staged still
    refine ⟨still', fun m member => ?_, fun sub' there => ?_⟩
    · obtain published | owed := after m member
      · exact before m published
      · exact inr (first.owed m owed)
    obtain ⟨mid, alive, again⟩ := altered' sub' there
    obtain ⟨sub, begun, once⟩ := altered mid alive
    exact ⟨sub, begun, once.trans again⟩
  · obtain kept | alive := second.retained holds
    · exact first.retained kept
    · refine inr fun none => alive (first.absent none).1

theorem Advances.invalidated (advances : s.Advances P id t) :
    s.Advances P id { t with priorityCacheDirty := true } := by
  exact advances.trans (.of_same rfl rfl rfl (·) (·))

/-! ### Answers -/

section

variable (s : SessionSubscriptions E) (selected : PendingPublish → Bool)
  (serviceResult : StatusCode) (id : ℕ)

theorem faultRequests_published :
    (s.faultRequests selected serviceResult).published id = s.published id := by
  have silent : ((s.publishRequestQueue.filter selected).map fun request =>
      (request, ResponseMessage.serviceFault (E := E) request.request.requestHandle
        serviceResult)).filterMap (publishedMessage id) = [] :=
    filterMap_eq_nil_iff.mpr fun answer member => by
      obtain ⟨request, -, rfl⟩ := mem_map.mp member
      rfl
  rw [published, faultRequests, filterMap_append, silent, append_nil]
  rfl

theorem faultRequests_advances : s.Advances P id (s.faultRequests selected serviceResult) := by
  refine .of_eq rfl (fun m member => ?_) (fun _ => (·)) (·) (·)
  rw [faultRequests_published] at member
  exact inl member

end

theorem deliverStatusChanges_spec (now : ℤ) (owedNow : List (ℕ × NotificationMessage E)) (id : ℕ)
    (s : SessionSubscriptions E) :
    (∀ m ∈ (deliverStatusChanges now owedNow s).published id, m ∈ s.published id ∨
        m ∈ owedNow.filterMap fun pending => if pending.1 = id then some pending.2 else none) ∧
      (∀ m ∈ (deliverStatusChanges now owedNow s).owed id,
        m ∈ owedNow.filterMap fun pending => if pending.1 = id then some pending.2 else none) ∧
      (deliverStatusChanges now owedNow s).retransmissionQueue = s.retransmissionQueue := by
  induction owedNow generalizing s with
  | nil => exact ⟨fun _ member => inl member, fun _ member => member, rfl⟩
  | cons first rest ih =>
    unfold deliverStatusChanges
    split
    · exact ⟨fun _ member => inl member, fun _ member => member, rfl⟩
    · rename_i request queue waiting
      obtain ⟨published, owed, retained⟩ :=
        ih ({ s with publishRequestQueue := queue }.answer request
        (.publish
          { timestamp := dateTimeFrom now, requestHandle := request.request.requestHandle
            subscriptionId := first.1, availableSequenceNumbers := none
            moreNotifications := false, notificationMessage := first.2
            results := request.ackResults }))
      have later : ∀ m, m ∈ rest.filterMap (fun pending => if pending.1 = id then some pending.2
          else none) → m ∈ (first :: rest).filterMap fun pending => if pending.1 = id then
          some pending.2 else none := by
        intro m member
        rw [filterMap_cons]
        split
        · exact member
        · exact mem_cons_of_mem _ member
      refine ⟨fun m member => ?_, fun m member => later m (owed m member), retained⟩
      obtain before | after := published m member
      · rw [SessionSubscriptions.published, answer, filterMap_append, mem_append] at before
        obtain old | new := before
        · exact inl old
        · right
          rw [mem_filterMap] at new ⊢
          obtain ⟨entry, here, message⟩ := new
          rw [mem_singleton] at here
          subst here
          exact ⟨first, mem_cons_self, message⟩
      · exact inr (later m after)

theorem deliverStatusChanges_silent (now : ℤ) (owedNow : List (ℕ × NotificationMessage E)) (id : ℕ)
    (s : SessionSubscriptions E)
    (silent : id ∉ (owedNow.take s.publishRequestQueue.length).map Prod.fst) :
    (deliverStatusChanges now owedNow s).published id = s.published id := by
  induction owedNow generalizing s with
  | nil => rfl
  | cons first rest ih =>
    unfold deliverStatusChanges
    split
    · rfl
    · rename_i request queue waiting
      rw [waiting, length_cons, take_succ_cons, map_cons, mem_cons, not_or] at silent
      refine (ih _ silent.2).trans ?_
      rw [published, answer, filterMap_append]
      simp only [filterMap_cons, publishedMessage, if_neg (Ne.symm silent.1), filterMap_nil,
        append_nil]
      rfl

/-- A status change of the subscription is due that a waiting publish request can take. -/
def Tells (s : SessionSubscriptions E) (id : ℕ) : Prop :=
  id ∈ (s.pendingStatusChanges.take s.publishRequestQueue.length).map Prod.fst

theorem deliverPendingStatusChanges_advances (s : SessionSubscriptions E) (now : ℤ) (id : ℕ)
    (meets : s.Tells id → P.tells) : s.Advances P id (s.deliverPendingStatusChanges now) := by
  have answering := s.deliverPendingStatusChanges_answering now
  obtain ⟨published, owed, retained⟩ := deliverStatusChanges_spec now s.pendingStatusChanges id s
  refine .of_eq (by rw [copy, answering.subscriptions, copy]) (fun m member => ?_) owed
    (answering.transferring ▸ ·) (retained ▸ ·)
  by_cases tells : s.Tells id
  · exact (published m member).imp_right fun due => ⟨meets tells, due⟩
  · have same := deliverStatusChanges_silent now s.pendingStatusChanges id s tells
    exact inl (same ▸ member)

theorem rejectOldest_advances (id : ℕ) (rejected : s.rejectOldest = .ok t) : s.Advances P id t := by
  unfold rejectOldest at rejected
  split at rejected <;> cases rejected
  refine .of_eq rfl (fun m member => ?_) (fun _ => (·)) (·) (·)
  rw [published, answer, filterMap_append, mem_append] at member
  exact member.imp_right fun impossible => by cases impossible

theorem takeIn_advances (s : SessionSubscriptions E) (request : PendingPublish) (id : ℕ) :
    s.Advances P id (s.takeIn request) := by
  obtain ⟨_, _, same, -, holds⟩ := s.takeIn_spec request
  rw [same]
  exact .of_same rfl rfl rfl (·) (holds id)

theorem sendPublishResponses_spec (now : ℤ) (moreNotifications : Bool) (id : ℕ)
    (responses : List (PendingPublish × NotificationMessage E × ℕ)) (s : SessionSubscriptions E) :
    (sendPublishResponses now moreNotifications responses s).published id =
        s.published id ++ handed id responses ∧
      (sendPublishResponses now moreNotifications responses s).owed id = s.owed id ∧
      ((sendPublishResponses now moreNotifications responses s).retransmissionQueue.Holds id →
        s.retransmissionQueue.Holds id ∨ handed id responses ≠ []) := by
  induction responses generalizing s with
  | nil => exact ⟨(append_nil _).symm, rfl, inl⟩
  | cons response rest ih =>
    obtain ⟨published, owed, retained⟩ := ih
      ({ s with
        retransmissionQueue := s.retransmissionQueue.enqueue (s.maxPublishRequests * 2)
          response.2.2 response.2.1 }.answer response.1 (.publish
        { timestamp := dateTimeFrom now, requestHandle := response.1.request.requestHandle
          subscriptionId := response.2.2
          availableSequenceNumbers := (s.retransmissionQueue.enqueue (s.maxPublishRequests * 2)
            response.2.2 response.2.1).availableSequenceNumbers response.2.2
          moreNotifications := rest.isEmpty && moreNotifications
          notificationMessage := response.2.1, results := response.1.ackResults }))
    refine ⟨published.trans ?_, owed, fun holds => ?_⟩
    · rw [SessionSubscriptions.published, answer, filterMap_append, append_assoc]
      congr 1
      by_cases own : response.2.2 = id
      · simp [handed, publishedMessage, own]
      · simp [handed, publishedMessage, own]
    · obtain kept | new := retained holds
      · obtain old | own := enqueue_holds kept
        · exact inl old
        · right
          simp [handed, own]
      · right
        intro none
        rw [handed, filterMap_eq_nil_iff] at none
        refine new (filterMap_eq_nil_iff.mpr fun later member => ?_)
        exact none later (mem_cons_of_mem _ member)

/-! ### Passes -/

/-- The condition at one visit of a pass. -/
def VisitMeets (P : Proviso E) (id : ℕ) (o : Occasion) (reason : TickReason) (queued : Bool)
    (s : SessionSubscriptions E) (other : ℕ) : Prop :=
  other = id → id ∉ s.transferring → ∀ sub, s.copy id = some sub →
    P.ticks sub o.nowInstant reason queued

def PassMeets (P : Proviso E) (id : ℕ) (s : SessionSubscriptions E) (o : Occasion)
    (reason : TickReason) : Prop :=
  if s.publishRequestQueue.isEmpty then
    (idleVisits E o reason).Guarded (fun pass => VisitMeets P id o reason false pass.1)
      (s, ⟨[], []⟩) (o.orders.subscriptions.order s.subscriptions.keys.toFinset)
  else
    (visits E o reason).Guarded
      (fun pass => VisitMeets P id o reason (!pass.1.publishRequestQueue.isEmpty) pass.1)
      (s.subscriptionIdsByPriority.2, ⟨[], [], false⟩) s.subscriptionIdsByPriority.1

def TickMeets (P : Proviso E) (id : ℕ) (s : SessionSubscriptions E) (o : Occasion)
    (reason : TickReason) : Prop :=
  (s.Tells id → P.tells) ∧
    let s := s.deliverPendingStatusChanges o.now
    ¬ (s.len = 0 ∨ s.len = s.transferring.card) →
      (s.removeExpiredPublishRequests o.nowInstant).PassMeets P id o reason

/-- A condition on every tick of the session in an operation, at the state the tick finds. -/
def EachTick (holds : SessionSubscriptions E → Occasion → TickReason → Prop)
    (s : SessionSubscriptions E) : SessionOp E → Prop
  | .enqueuePublishRequest now nowInstant first second request =>
    (s.maxPublishRequests ≤ s.publishRequestQueue.length →
      holds s ⟨now, nowInstant, first⟩ .receivePublishRequest) ∧
    ∀ t, s.makeRoom ⟨now, nowInstant, first⟩ = .ok t →
      holds (t.takeIn request) ⟨now, nowInstant, second⟩ .receivePublishRequest
  | .tick o reason => holds s o reason
  | _ => True

/-- **The proviso holds in an operation,** at every tick. -/
def TicksMeet (P : Proviso E) (id : ℕ) (s : SessionSubscriptions E) (op : SessionOp E) : Prop :=
  s.EachTick (TickMeets P id) op ∧ ∀ o, op = .processNotificationWake o →
    s.publishRequestQueue.isEmpty = false → s.PassMeets P id o .notificationAvailable

/-- What a pass with publish requests has done to the subscription so far. -/
structure Passing (P : Proviso E) (id : ℕ) (s : SessionSubscriptions E)
    (pass : SessionSubscriptions E × Served E) : Prop where
  sent : pass.1.sent = s.sent
  transferring : pass.1.transferring = s.transferring
  pending : pass.1.pendingStatusChanges = s.pendingStatusChanges
  retained : pass.1.retransmissionQueue.Holds id → s.retransmissionQueue.Holds id
  absent : s.copy id = none → pass.1.copy id = none ∧ handed id pass.2.responses = []
  present : ∀ sub, s.copy id = some sub →
    ∃ sub', sub.Becomes P.ticks (handed id pass.2.responses) sub' ∧
    (pass.1.copy id = none ∨ pass.1.copy id = some sub')
  staged : id ∈ s.transferring → pass.1.copy id = s.copy id ∧ handed id pass.2.responses = []

variable {other : ℕ}

theorem settle_retained {queue : List PendingPublish} {drained : Subscription E}
    (holds : (s.settle id queue drained).retransmissionQueue.Holds other) :
    s.retransmissionQueue.Holds other := by
  unfold settle at holds
  split_ifs at holds
  · exact removeSubscription_holds holds
  · exact holds

theorem handed_append (id : ℕ)
    (first second : List (PendingPublish × NotificationMessage E × ℕ)) :
    handed id (first ++ second) = handed id first ++ handed id second :=
  filterMap_append

theorem handed_serve {queue rest : List PendingPublish} {subscription drained : Subscription E}
    {responses : List (PendingPublish × NotificationMessage E × ℕ)}
    (served : serve id queue subscription = (responses, rest, drained)) :
    handed other responses =
      if other = id then subscription.notifications.take queue.length else [] := by
  obtain ⟨-, messages, owner, -⟩ := serve_spec served
  split_ifs with own
  · rw [← messages, handed]
    rw [← filterMap_eq_map]
    refine filterMap_congr fun response member => ?_
    rw [owner response member, if_pos own.symm]
    rfl
  · refine filterMap_eq_nil_iff.mpr fun response member => ?_
    rw [owner response member, if_neg fun same => own same.symm]

variable {o : Occasion} {reason : TickReason}

theorem Passing.visit {pass after : SessionSubscriptions E × Served E}
    (passing : s.Passing P id pass)
    (meets : VisitMeets P id o reason (!pass.1.publishRequestQueue.isEmpty) pass.1 other)
    (visited : (visits E o reason).step pass other = some after) :
    s.Passing P id after := by
  obtain ⟨u, before⟩ := pass
  obtain ⟨v, after⟩ := after
  by_cases staged : other ∈ u.transferring
  · cases visit_staged staged visited
    exact passing
  obtain ⟨subscription, result, ticked, responses, queue, drained, found, returned, served, rfl,
    collected, -⟩ := visit_spec staged visited
  obtain ⟨sent, transferring, pending, -⟩ := u.settle_frame other queue drained
  have handing : handed id responses = _ := handed_serve served
  have copies := u.settle_lookup other queue drained id
  refine ⟨sent.trans passing.sent, transferring.trans passing.transferring,
    pending.trans passing.pending, fun holds => passing.retained (settle_retained holds),
    fun none => ?_, fun sub there => ?_, fun stagedHere => ?_⟩
  · obtain ⟨gone, nothing⟩ := passing.absent none
    have apart : id ≠ other := fun same => by
      rw [same, copy, found] at gone
      cases gone
    rw [if_neg apart] at handing copies
    rw [collected, handed_append, nothing, handing]
    exact ⟨copies.trans gone, rfl⟩
  · obtain ⟨sub', becomes, copies'⟩ := passing.present sub there
    rw [collected, handed_append, handing, copy, copies]
    by_cases own : id = other
    · subst own
      rw [if_pos rfl, if_pos rfl]
      have same : sub' = subscription := by
        rw [copy, found] at copies'
        rcases copies' with impossible | same
        · cases impossible
        · exact (some.inj same).symm
      subst same
      obtain ⟨-, -, -, left⟩ := serve_spec served
      refine ⟨drained, (becomes.tick (meets rfl staged _ found) returned).trans ?_, ?_⟩
      · rw [left]
        exact ticked.becomes_taken u.publishRequestQueue.length
      · split_ifs
        · exact inl rfl
        · exact inr rfl
    · rw [if_neg own, if_neg own, append_nil]
      exact ⟨sub', becomes, copies'⟩
  · obtain ⟨same, nothing⟩ := passing.staged stagedHere
    have apart : id ≠ other := fun own => staged (passing.transferring ▸ own ▸ stagedHere)
    rw [if_neg apart] at handing copies
    rw [collected, handed_append, nothing, handing]
    exact ⟨copies.trans same, rfl⟩

theorem pass_advances {served : Served E} (id : ℕ)
    (waiting : s.publishRequestQueue.isEmpty = false) (meets : s.PassMeets P id o reason)
    (passed : s.tickSubscriptionsWithPublishRequests o reason = .ok (t, served)) :
    s.Advances P id (sendPublishResponses o.now served.moreNotifications served.responses t) := by
  have start : s.Passing P id (s.subscriptionIdsByPriority.2, ⟨[], [], false⟩) := by
    unfold subscriptionIdsByPriority
    split_ifs <;>
      exact ⟨rfl, rfl, rfl, fun holds => holds, fun none => ⟨none, rfl⟩,
        fun sub there => ⟨sub, .refl, inr there⟩, fun _ => ⟨rfl, rfl⟩⟩
  rw [PassMeets, waiting, if_neg Bool.false_ne_true] at meets
  have passing := (visits E o reason).run_invariant_of_guarded
    (fun _ _ _ passing meets visited => Passing.visit passing meets visited) start meets
    (pass_run passed)
  obtain ⟨published, owed, retained⟩ :=
    sendPublishResponses_spec o.now served.moreNotifications id served.responses t
  have answering :=
    sendPublishResponses_answering o.now served.moreNotifications served.responses t
  have sameCopy : (sendPublishResponses o.now served.moreNotifications served.responses t).copy id =
      t.copy id := by rw [copy, answering.subscriptions, copy]
  have before : t.published id = s.published id := by
    rw [SessionSubscriptions.published, passing.sent]
    rfl
  rw [before] at published
  refine ⟨fun none => ?_, fun sub there => ?_, fun m member => ?_, fun staged => ?_,
    fun holds => ?_⟩
  · obtain ⟨gone, nothing⟩ := passing.absent none
    refine ⟨sameCopy.trans gone, fun m member => inl ?_⟩
    rwa [published, nothing, append_nil] at member
  · obtain ⟨sub', becomes, copies⟩ := passing.present sub there
    refine ⟨_, sub', becomes, sameCopy ▸ copies, fun m member => ?_⟩
    rw [published, mem_append] at member
    exact member.imp_right inr
  · rw [owed, SessionSubscriptions.owed, passing.pending] at member
    exact member
  · obtain ⟨same, nothing⟩ := passing.staged staged
    refine ⟨?_, fun m member => inl ?_, fun sub' there => ⟨sub', ?_, .refl sub'⟩⟩
    · rw [answering.transferring, passing.transferring]
      exact staged
    · rwa [published, nothing, append_nil] at member
    · rw [← same, ← there, sameCopy]
  · obtain kept | new := retained holds
    · exact inl (passing.retained kept)
    · exact inr fun none => new (passing.absent none).2

variable {removed : List (RemovedSubscription E)}

section

variable (id)

theorem idlePass_advances (idle : s.publishRequestQueue.isEmpty = true)
    (meets : s.PassMeets P id o reason)
    (passed : s.tickSubscriptionsWithoutPublishRequests o reason = .ok (removed, t)) :
    s.Advances P id t := by
  rw [PassMeets, idle, if_pos rfl] at meets
  -- No id staged for transfer is collected for removal.
  obtain ⟨u, toRemove, ⟨advances, transferring, staged⟩, rfl⟩ := idlePass_invariant_of_guarded
    (P := fun pass => s.Advances P id pass.1 ∧ pass.1.transferring = s.transferring ∧
      (id ∈ s.transferring → id ∉ pass.2.toRemove))
    meets passed ⟨Advances.refl id s, rfl, fun _ => not_mem_nil⟩ (by
      intro v before other subscription result ticked ⟨advances, transferring, staged⟩ condition
        unstaged found returned
      have copies : ∀ other', ({ v with subscriptions := v.subscriptions.insert other ticked } :
          SessionSubscriptions E).copy other' =
            if other' = other then some ticked else v.copy other' := by
        intro other'
        split_ifs with own
        · rw [own]
          exact lookup_insert _
        · exact lookup_insert_ne own
      refine ⟨advances.trans ?_, transferring, fun stagedHere => ?_⟩
      · by_cases own : id = other
        · subst own
          refine ⟨fun none => ?_, fun sub there => ?_, fun m member => member,
            fun stagedHere => absurd stagedHere unstaged, inl⟩
          · rw [copy, found] at none
            cases none
          · rw [copy, found, some.injEq] at there
            subst there
            exact ⟨[], ticked,
              Subscription.Becomes.refl.tick (condition rfl unstaged _ found) returned,
              inr ((copies id).trans (if_pos rfl)), fun m member => inl member⟩
        · exact .of_same ((copies id).trans (if_neg own)) rfl rfl (·) (·)
      · have apart : id ≠ other := fun own => unstaged (transferring.symm ▸ own ▸ stagedHere)
        dsimp only
        split_ifs
        · rw [mem_append, mem_singleton]
          rintro (earlier | own)
          · exact staged stagedHere earlier
          · exact apart own
        · exact staged stagedHere)
  -- Removal takes out the collected ids.
  have removing : ∀ (ids : List ℕ) (v : SessionSubscriptions E), s.Advances P id v →
      (id ∈ v.transferring → id ∉ ids) → s.Advances P id (removeReady ids v) := by
    intro ids
    induction ids with
    | nil => exact fun _ advances _ => advances
    | cons other rest ih =>
      intro v advances apart
      refine ih _ (advances.trans ?_) fun stagedHere member =>
        apart (Finset.mem_of_mem_erase stagedHere) (mem_cons_of_mem other member)
      by_cases own : id = other
      · subst own
        exact ⟨fun none => ⟨lookup_erase _ _, fun _ member => inl member⟩,
          fun sub there => ⟨[], sub, .refl, inl (lookup_erase _ _),
            fun _ member => inl member⟩, fun _ member => member,
          fun stagedHere => absurd mem_cons_self (apart stagedHere),
          fun holds => inl (removeSubscription_holds holds)⟩
      · exact .of_same (lookup_erase_ne own) rfl rfl
          (fun stagedHere => Finset.mem_erase.mpr ⟨own, stagedHere⟩) removeSubscription_holds
  refine removing toRemove _ (advances.trans ?_) fun stagedHere =>
    staged (transferring ▸ stagedHere)
  exact .of_same rfl rfl rfl (·) (·)

/-! ### Every operation -/

theorem tick_advances (meets : s.TickMeets P id o reason)
    (ticked : s.tick o reason = .ok (removed, t)) : s.Advances P id t := by
  have delivered : s.Advances P id (s.deliverPendingStatusChanges o.now) :=
    s.deliverPendingStatusChanges_advances o.now id meets.1
  by_cases none : (s.deliverPendingStatusChanges o.now).len = 0 ∨
      (s.deliverPendingStatusChanges o.now).len =
        (s.deliverPendingStatusChanges o.now).transferring.card
  · unfold tick at ticked
    dsimp only at ticked
    rw [if_pos none] at ticked
    cases ticked
    exact delivered.trans (faultRequests_advances _ _ _ id)
  · have expired := delivered.trans (faultRequests_advances _ (fun request =>
      decide (request.deadline < o.nowInstant)) StatusCode.BadTimeout id)
    obtain ⟨empty, -, -⟩ | ⟨idle, ticked⟩ | ⟨waiting, u, served, passed, rfl, rfl⟩ := tick_ok ticked
    · exact absurd empty none
    · exact expired.trans (idlePass_advances id idle (meets.2 none) ticked)
    · exact expired.trans (pass_advances id waiting (meets.2 none) passed)

theorem makeRoom_advances
    (meets : s.maxPublishRequests ≤ s.publishRequestQueue.length →
      s.TickMeets P id o .receivePublishRequest)
      (roomy : s.makeRoom o = .ok t) : s.Advances P id t := by
  refine makeRoom_keeps (.refl id s) (fun full removed u ticked =>
    tick_advances id (meets full) ticked)
    (fun u after rejected => ?_) roomy
  exact after.trans (rejectOldest_advances id rejected)

theorem enqueuePublishRequest_advances {now : ℤ} {nowInstant : ℕ} {first second : Orders}
    {request : PendingPublish}
    (meets : s.TicksMeet P id (.enqueuePublishRequest now nowInstant first second request))
    (enqueued : s.enqueuePublishRequest now nowInstant first second request = .ok t) :
    s.Advances P id t := by
  obtain ⟨u, removed, roomy, ticked⟩ := enqueuePublishRequest_ok enqueued
  obtain ⟨⟨room, serves⟩, -⟩ := meets
  exact ((makeRoom_advances id room roomy).trans (u.takeIn_advances request id)).trans
    (tick_advances id (serves u roomy) ticked)

theorem processNotificationWake_advances
    (meets : s.TicksMeet P id (.processNotificationWake o))
    (woken : s.processNotificationWake o = .ok t) :
    s.Advances P id t := by
  obtain ⟨-, rfl⟩ | ⟨waiting, u, served, passed, rfl⟩ := processNotificationWake_ok woken
  · exact .refl id _
  · exact pass_advances id waiting (meets.2 o rfl waiting) passed

end

theorem modifyEntry_advances (s : SessionSubscriptions E) (other : ℕ)
    {change : Subscription E → Subscription E}
    (altered : ∀ sub : Subscription E, sub.Altered (change sub)) (id : ℕ) :
    s.Advances P id (s.modifyEntry other change) := by
  obtain ⟨sent, -, transferring, pending, retransmission, -, -⟩ := s.modifyEntry_frame other change
  have copies := s.modifyEntry_lookup other change id
  by_cases own : id = other
  · rw [if_pos own] at copies
    refine .of_altered ?_ (fun m member => inl ?_) (fun m member => ?_) (transferring ▸ ·)
      (retransmission ▸ ·)
    · rw [copy, copies, copy, own]
      cases s.subscriptions.lookup other with
      | none => exact inl rfl
      | some sub => exact inr ⟨sub, change sub, rfl, rfl, altered sub⟩
    · rwa [published, sent] at member
    · rwa [owed, pending] at member
  · exact .of_same (copies.trans (if_neg own)) sent pending (transferring ▸ ·) (retransmission ▸ ·)

theorem deleteEach_advances (ids : List ℕ) (id : ℕ) (s : SessionSubscriptions E) :
    s.Advances P id (deleteEach ids s).2 := by
  rw [deleteEach_eq]
  refine foldl_related (.refl id) .trans (fun s other => ?_) ids s
  unfold deleteSubscription
  dsimp only
  split
  · exact .of_same rfl rfl rfl (·) (·)
  · by_cases own : id = other
    · subst own
      exact .of_altered (inl (lookup_erase _ _)) (fun _ => inl) (fun _ => (·)) (·) (·)
    · exact .of_same (lookup_erase_ne own) rfl rfl (·) (·)

end SessionSubscriptions

/-- The operation neither brings the subscription in nor transfers it. -/
def SessionOp.LeavesTransfer (id : ℕ) : SessionOp E → Prop
  | .insert subscription _ => subscription.id ≠ id
  | .remove other => other ≠ id
  | .markTransferring other => other ≠ id
  | .createSubscription _ _ other _ => other ≠ id
  | .queueStatusChange other _ _ _ => other ≠ id
  | _ => True

namespace SessionSubscriptions

theorem insert_advances (s : SessionSubscriptions E) (subscription : Subscription E)
    (notifs : List (NonAckedPublish E)) (id : ℕ) (other : subscription.id ≠ id)
    (foreign : ∀ notif ∈ notifs, notif.subscriptionId ≠ id) :
    s.Advances P id (s.insert subscription notifs).2 := by
  unfold insert
  split_ifs
  · exact .refl id s
  · refine .of_same (lookup_insert_ne other.symm) rfl rfl
      (fun staged => Finset.mem_erase.mpr ⟨other.symm, staged⟩) ?_
    generalize s.retransmissionQueue = queue
    induction notifs generalizing queue with
    | nil => exact (·)
    | cons notif rest ih =>
      intro holds
      obtain old | own := pushExisting_holds
        (ih (fun later member => foreign later (mem_cons_of_mem notif member)) _ holds)
      · exact old
      · exact absurd own (foreign notif mem_cons_self)

theorem advances_of_apply {id : ℕ} {s t : SessionSubscriptions E} {op : SessionOp E}
    (meets : s.TicksMeet P id op) (leaves : op.LeavesTransfer id)
    (foreign : ∀ subscription notifs, op = .insert subscription notifs →
      ∀ notif ∈ notifs, notif.subscriptionId ≠ id)
    (applied : op.apply s = .ok t) : s.Advances P id t := by
  have in_place : ∀ {change : Subscription E → Subscription E}, Changes change op →
      (∀ sub : Subscription E, sub.Altered (change sub)) → s.Advances P id t :=
        fun changes altered =>
    related_of_changes (.refl id) .trans (fun s other => s.modifyEntry_advances other altered id)
      (fun _ _ => .of_same rfl rfl rfl (·) (·)) changes applied
  cases op with
  | insert subscription notifs =>
    cases applied
    exact s.insert_advances subscription notifs id leaves (foreign _ _ rfl)
  | remove other =>
    cases applied
    exact .of_same (lookup_erase_ne (Ne.symm leaves)) rfl rfl
      (fun staged => Finset.mem_erase.mpr ⟨Ne.symm leaves, staged⟩) removeSubscription_holds
  | markTransferring other =>
    cases applied
    unfold markTransferring
    split_ifs
    · exact .of_same rfl rfl rfl Finset.mem_insert_of_mem (·)
    · exact .refl id s
  | createSubscription request info other nowInstant =>
    cases applied
    unfold createSubscription
    split_ifs
    · exact .refl id s
    · exact .of_same (lookup_insert_ne (Ne.symm leaves)) rfl rfl (·) (·)
  | modifySubscription request info =>
    cases applied
    unfold modifySubscription
    split_ifs
    · exact (s.modifyEntry_advances request.subscriptionId
        (fun sub => sub.modify_altered _ _ _ _ _) id).invalidated
    · exact .refl id s
  | setPublishingMode | republish | updateOwner | resendData =>
    exact in_place rfl fun _ => ⟨rfl, rfl, rfl⟩
  | item other op => exact in_place rfl op.apply_altered
  | deleteSubscriptions ids =>
    cases applied
    refine (deleteEach_advances ids id s).trans
      (foldl_related (.refl id) .trans (fun s other => ?_) ids _)
    exact .of_same rfl rfl rfl (·) removeSubscription_holds
  | queueStatusChange other sequenceNumber publishTime status =>
    cases applied
    refine .of_eq rfl (fun _ => inl) ?_ (·) (·)
    have apart : other ≠ id := leaves
    simp [owed, queueStatusChange, apart]
  | cancelPublishRequests requestHandle =>
    cases applied
    exact faultRequests_advances s _ _ id
  | enqueuePublishRequest now nowInstant first second request =>
    exact enqueuePublishRequest_advances id meets applied
  | processNotificationWake o => exact processNotificationWake_advances id meets applied
  | tick o reason =>
    obtain ⟨⟨removed, u⟩, ticked, rfl⟩ := Machine.map_eq_ok.mp applied
    exact tick_advances id meets.1 ticked

/-- The proviso that always holds. -/
def AnyTick : Proviso E := ⟨fun _ _ _ _ => True, True⟩

theorem passMeets_any (id : ℕ) (s : SessionSubscriptions E) (o : Occasion) (reason : TickReason) :
    s.PassMeets AnyTick id o reason := by
  unfold PassMeets
  split_ifs
  · exact Machine.guarded_of_mem _ (fun _ _ _ _ _ _ _ => trivial) _
  · exact Machine.guarded_of_mem _ (fun _ _ _ _ _ _ _ => trivial) _

theorem tickMeets_any (id : ℕ) (s : SessionSubscriptions E) (o : Occasion) (reason : TickReason) :
    s.TickMeets AnyTick id o reason :=
  ⟨fun _ => trivial, fun _ => passMeets_any id _ o reason⟩

theorem ticksMeet_any (id : ℕ) (s : SessionSubscriptions E) (op : SessionOp E) :
    s.TicksMeet AnyTick id op := by
  refine ⟨?_, fun o _ _ => passMeets_any id s o _⟩
  cases op with
  | enqueuePublishRequest =>
    exact ⟨fun _ => tickMeets_any id _ _ _, fun _ _ => tickMeets_any id _ _ _⟩
  | tick o reason => exact tickMeets_any id s o reason
  | _ => trivial

end SessionSubscriptions

end AsyncOpcua.Subscriptions
