/-
**One subscription is transferred, step by step, with what else happens at both sessions.**

A call of `transfer` asks the actor of the source, that of the destination, and the source again,
and turns the index in between. Each request that is answered is a step of its own; between two of
them the actors serve whatever else they are asked, and the cleanup takes ids out of the index.

* `failed_transfer_undone` — a transfer that fails leaves nothing behind, where the source still has
  the subscription when it is marked.
-/

import AsyncOpcua.Subscriptions.MonitoredItemIndex

namespace AsyncOpcua.Subscriptions

open Types Foundation Option Externals SubscriptionCacheInner

/-! ### The call -/

structure TransferCall where
  id : ℕ
  key : PersistentSessionKey
  sendInitialValues : Bool

/-- The two sessions of a transfer. -/
inductive TransferParty where
  | source
  | dest
  deriving DecidableEq

/-- **How far the call has come** with the subscription: what it waits for, and what it has been
given so far. -/
inductive TransferPhase (E : Externals) where
  | lookingUp
  | listing
  | askingUser
  | cloning
  | inserting (subscription : Subscription E) (notifs : List (NonAckedPublish E))
  | marking (subscription : Subscription E) (notifs : List (NonAckedPublish E))
  | flipping (subscription : Subscription E) (notifs : List (NonAckedPublish E))
  | completing (subscription : Subscription E) (notifs : List (NonAckedPublish E))
  | returned (statusCode : StatusCode) (availableSequenceNumbers : Option (List ℕ))

/-- **Both sessions, and the index at the subscription.** An actor that has stopped answers nothing,
and its session has no entry in the cache. -/
structure Transfer (E : Externals) where
  source : SessionSubscriptions E
  sourceStopped : Bool
  dest : SessionSubscriptions E
  destStopped : Bool
  /-- `subscription_to_session` at the id. -/
  owner : Option TransferParty
  phase : TransferPhase E

variable {E : Externals}

namespace Transfer

/-- The call is done with the subscription, without success. -/
def refused (w : Transfer E) (statusCode : StatusCode) : Transfer E :=
  { w with phase := .returned statusCode none }

/-- **The next step of the call.** -/
def proceed (w : Transfer E) (call : TransferCall) (now : ℤ) : Transfer E :=
  match w.phase with
  | .lookingUp =>
    match w.owner with
    | none => w.refused StatusCode.BadSubscriptionIdInvalid
    | some .dest =>
      if w.destStopped then w.refused StatusCode.BadSubscriptionIdInvalid
      else { w with phase := .listing }
    | some .source =>
      if w.sourceStopped then w.refused StatusCode.BadSubscriptionIdInvalid
      else { w with phase := .askingUser }
  | .listing =>
    { w with
      phase := .returned StatusCode.Good
        (if w.destStopped then none
        else w.dest.retransmissionQueue.availableSequenceNumbers call.id) }
  | .askingUser =>
    if !w.sourceStopped && w.source.userToken.isEquivalentForTransfer call.key then
      { w with phase := .cloning }
    else w.refused StatusCode.BadUserAccessDenied
  | .cloning =>
    if w.sourceStopped then w.refused StatusCode.BadSubscriptionIdInvalid
    else
      match w.source.cloneForTransfer call.id with
      | none => w.refused StatusCode.BadSubscriptionIdInvalid
      | some (subscription, notifs) => { w with phase := .inserting subscription notifs }
  | .inserting subscription notifs =>
    if w.destStopped then w.refused StatusCode.BadNoSubscription
    else
      match w.dest.insertForTransfer subscription notifs call.sendInitialValues call.id with
      | (.error statusCode, dest) => { w with dest := dest }.refused statusCode
      | (.ok (), dest) => { w with dest := dest, phase := .marking subscription notifs }
  | .marking subscription notifs =>
    if w.sourceStopped then w.refused StatusCode.BadSubscriptionIdInvalid
    else
      match w.source.markTransferring call.id with
      | (.error _, source) =>
        { w with source := source }.refused StatusCode.BadSubscriptionIdInvalid
      | (.ok (), source) => { w with source := source, phase := .flipping subscription notifs }
  | .flipping subscription notifs =>
    { w with owner := some .dest, phase := .completing subscription notifs }
  | .completing subscription notifs =>
    -- A source that has stopped is not told; the answer is not looked at.
    { w with
      source :=
        if w.sourceStopped then w.source
        else w.source.completeTransfer call.id subscription.sequenceNumber.peekNext now
      phase := .returned StatusCode.Good (some (notifs.map (·.message.sequenceNumber))) }
  | .returned _ _ => w

end Transfer

structure SessionOp.Leaves (op : SessionOp E) (id : ℕ) : Prop where
  transfer : op.LeavesTransfer id
  foreign : ∀ subscription notifs, op = .insert subscription notifs →
    ∀ notif ∈ notifs, notif.subscriptionId ≠ id

/-- **What happens next,** anywhere. -/
inductive TransferStep (E : Externals) (id : ℕ) where
  | proceed (now : ℤ)
  | atSource (op : SessionOp E) (leaves : op.Leaves id)
  | atDest (op : SessionOp E) (leaves : op.Leaves id)
  | unindex
  | stopSource
  | stopDest

def TransferStep.apply (call : TransferCall) :
    TransferStep E call.id → Transfer E → Except Fault (Transfer E)
  | .proceed now, w => .ok (w.proceed call now)
  | .atSource op _, w =>
    if w.sourceStopped then .ok w else (op.apply w.source).map fun subs => { w with source := subs }
  | .atDest op _, w =>
    if w.destStopped then .ok w else (op.apply w.dest).map fun subs => { w with dest := subs }
  | .unindex, w => .ok { w with owner := none }
  | .stopSource, w => .ok { w with sourceStopped := true }
  | .stopDest, w => .ok { w with destStopped := true }

def transfers (E : Externals) (call : TransferCall) :
    Machine (Transfer E) (TransferStep E call.id) :=
  .failing (TransferStep.apply call)

namespace Transfer

/-! ### A call that nothing interrupts -/

/-- The id of the session that the index names. -/
def ownerId (w : Transfer E) (source dest : ℕ) : Option ℕ :=
  w.owner.map fun
    | .source => source
    | .dest => dest

theorem transferOne_eq_proceed [DecidableEq E.NodeId] (c : SubscriptionCacheInner E)
    {session owner : ℕ} (other : session ≠ owner) (call : TransferCall) (now : ℤ)
    {source dest : SessionSubscriptions E} (owned : c.subscriptionToSession call.id = some owner)
    (there : c.sessionSubscriptions owner = some source)
    (here : c.sessionSubscriptions session = some dest) :
    ∃ w, (fun w => proceed w call now)^[7]
        ⟨source, false, dest, false, some .source, .lookingUp⟩ = w ∧
      w.phase = .returned (c.transferOne session call.key call.sendInitialValues now call.id).1.1
        (c.transferOne session call.key call.sendInitialValues now call.id).1.2 ∧
      (c.transferOne session call.key call.sendInitialValues now call.id).2.sessionSubscriptions
        owner = some w.source ∧
      (c.transferOne session call.key call.sendInitialValues now call.id).2.sessionSubscriptions
        session = some w.dest ∧
      (c.transferOne session call.key call.sendInitialValues now call.id).2.subscriptionToSession
        call.id = w.ownerId owner session := by
  refine ⟨_, rfl, ?_⟩
  have bound : ((c.subscriptionToSession call.id).bind fun owner =>
      (c.sessionSubscriptions owner).map fun source => (owner, source)) = some (owner, source) := by
    rw [owned, bind_some, there, map_some]
  simp only [transferOne, bound, here, if_neg other]
  simp
  cases user : source.userToken.isEquivalentForTransfer call.key with
  | false => simp [proceed, user, refused, ownerId, there, here, owned]
  | true =>
    cases cloned : source.cloneForTransfer call.id with
    | none => simp [proceed, user, cloned, refused, ownerId, there, here, owned]
    | some clone =>
      obtain ⟨subscription, notifs⟩ := clone
      have inside : call.id ∈ source.subscriptions := by
        obtain ⟨subscription, found, -⟩ := map_eq_some_iff.mp cloned
        rw [← AList.lookup_isSome, found]
        rfl
      have marked : source.markTransferring call.id =
          (.ok (), { source with transferring := insert call.id source.transferring }) :=
        if_neg (not_not_intro inside)
      rcases inserted :
        dest.insertForTransfer subscription notifs call.sendInitialValues call.id with
        ⟨status | _, dest'⟩
      · simp [proceed, user, cloned, inserted, refused, ownerId, there, owned,
          setSession, other.symm]
      · simp [proceed, user, cloned, inserted, marked, ownerId,
          setSession, other]

end Transfer

/-! ### A transfer that fails -/

structure SessionSubscriptions.Lacks (s : SessionSubscriptions E) (id : ℕ) : Prop where
  copy : s.copy id = none
  held : ¬ s.retransmissionQueue.Holds id

theorem SessionSubscriptions.Lacks.advances {s t : SessionSubscriptions E} {id : ℕ}
    {P : Proviso E} (lacks : s.Lacks id) (advances : s.Advances P id t) : t.Lacks id := by
  refine ⟨(advances.absent lacks.copy).1, fun holds => ?_⟩
  obtain held | present := advances.retained holds
  · exact lacks.held held
  · exact present lacks.copy

/-- **Nothing disturbs the transfer:** the id stays in the index, and the source still has the
subscription when it is to mark it. -/
def Undisturbed (call : TransferCall) (w : Transfer E) : TransferStep E call.id → Prop
  | .proceed _ =>
    match w.phase with
    | .marking _ _ => w.sourceStopped = false ∧ call.id ∈ w.source.subscriptions
    | _ => True
  | .unindex => False
  | _ => True

open SessionSubscriptions

namespace Transfer

/-- **Nothing is left behind:** until the copy is inserted, and after a failure, the destination has
nothing and the index is as it was. -/
def Undone (id : ℕ) (owner : Option TransferParty) (w : Transfer E) : Prop :=
  match w.phase with
  | .marking _ _ => w.owner = owner
  | .flipping _ _ | .completing _ _ => True
  | .returned statusCode _ => statusCode ≠ StatusCode.Good → w.dest.Lacks id ∧ w.owner = owner
  | _ => w.dest.Lacks id ∧ w.owner = owner

variable {owner : Option TransferParty} {w : Transfer E}

theorem Undone.congr {id : ℕ} {t : Transfer E} (undone : w.Undone id owner)
    (phase : t.phase = w.phase) (owners : t.owner = w.owner)
    (dest : w.dest.Lacks id → t.dest.Lacks id) : t.Undone id owner := by
  unfold Undone at undone ⊢
  rw [phase, owners]
  cases reached : w.phase with
  | marking | flipping | completing =>
    rw [reached] at undone
    exact undone
  | returned =>
    rw [reached] at undone
    exact fun bad => ⟨dest (undone bad).1, (undone bad).2⟩
  | _ =>
    rw [reached] at undone
    exact ⟨dest undone.1, undone.2⟩

theorem undone_refused {id : ℕ} (before : w.dest.Lacks id ∧ w.owner = owner)
    (statusCode : StatusCode) : (w.refused statusCode).Undone id owner :=
  fun _ => before

def givenCopy (subscription : Subscription E) (sendInitialValues : Bool) : Subscription E :=
  if sendInitialValues then subscription.setResendData else subscription

theorem insertForTransfer_spec (s : SessionSubscriptions E) (subscription : Subscription E)
    (notifs : List (NonAckedPublish E)) (sendInitialValues : Bool) (id : ℕ) :
    (∃ status, s.insertForTransfer subscription notifs sendInitialValues id = (.error status, s)) ∨
      ∃ t, s.insertForTransfer subscription notifs sendInitialValues id = (.ok (), t) ∧
        t.transferring = s.transferring.erase subscription.id ∧ t.sent = s.sent ∧
        t.pendingStatusChanges = s.pendingStatusChanges ∧
        (subscription.id = id → t.copy id = some (givenCopy subscription sendInitialValues)) := by
  by_cases full : s.limits.maxSubscriptionsPerSession ≤ s.len
  · refine Or.inl ⟨StatusCode.BadTooManySubscriptions, ?_⟩
    rw [SessionSubscriptions.insertForTransfer, SessionSubscriptions.insert, if_pos full]
  · right
    rw [SessionSubscriptions.insertForTransfer, SessionSubscriptions.insert, if_neg full]
    refine ⟨_, rfl, ?_⟩
    have there : (s.subscriptions.insert subscription.id subscription).lookup subscription.id =
        some subscription := AList.lookup_insert _
    cases sendInitialValues with
    | false => exact ⟨rfl, rfl, rfl, fun own => own ▸ there⟩
    | true =>
      rw [if_pos rfl]
      refine ⟨?_, ?_, ?_, fun own => ?_⟩
      · exact (modifyEntry_frame _ _ _).2.2.1
      · exact (modifyEntry_frame _ _ _).1
      · exact (modifyEntry_frame _ _ _).2.2.2.1
      · rw [copy, modifyEntry_lookup, if_pos rfl, ← own]
        exact congrArg (Option.map _) there

theorem proceed_undone {call : TransferCall} (undone : w.Undone call.id owner) (now : ℤ)
    (undisturbed : Undisturbed call w (.proceed now)) :
    (w.proceed call now).Undone call.id owner := by
  obtain ⟨source, sourceStopped, dest, destStopped, owned, phase⟩ := w
  unfold proceed
  cases phase with
  | lookingUp =>
    dsimp only
    split
    · exact undone_refused undone _
    · split_ifs
      · exact undone_refused undone _
      · exact undone
    · split_ifs
      · exact undone_refused undone _
      · exact undone
  | listing => exact fun bad => absurd rfl bad
  | askingUser =>
    dsimp only
    split_ifs
    · exact undone
    · exact undone_refused undone _
  | cloning =>
    dsimp only
    split_ifs
    · exact undone_refused undone _
    · split
      · exact undone_refused undone _
      · exact undone
  | inserting subscription notifs =>
    dsimp only
    split_ifs
    · exact undone_refused undone _
    · obtain ⟨status, refused⟩ | ⟨inserted, given, -⟩ := insertForTransfer_spec dest subscription
        notifs call.sendInitialValues call.id
      · rw [refused]
        exact undone_refused undone status
      · rw [given]
        exact undone.2
  | marking subscription notifs =>
    obtain ⟨running, inside⟩ := undisturbed
    have marked : source.markTransferring call.id =
        (.ok (), { source with transferring := insert call.id source.transferring }) :=
      if_neg (not_not_intro inside)
    dsimp only
    rw [if_neg (Bool.not_eq_true _ ▸ running), marked]
    trivial
  | flipping subscription notifs => trivial
  | completing subscription notifs => exact fun bad => absurd rfl bad
  | returned statusCode numbers => exact undone

/-- **A step that does not disturb the transfer** leaves nothing behind either. -/
theorem step_undone {call : TransferCall} (w : Transfer E) (step : TransferStep E call.id)
    (t : Transfer E) (undone : w.Undone call.id owner) (undisturbed : Undisturbed call w step)
    (stepped : (transfers E call).step w step = some t) : t.Undone call.id owner := by
  replace stepped := Machine.failing_step_eq_some.mp stepped
  cases step with
  | proceed now =>
    cases stepped
    exact proceed_undone undone now undisturbed
  | atSource op leaves =>
    rw [TransferStep.apply] at stepped
    split_ifs at stepped
    · cases stepped
      exact undone
    · obtain ⟨subs, -, rfl⟩ := Machine.map_eq_ok.mp stepped
      exact undone.congr rfl rfl fun lacks => lacks
  | atDest op leaves =>
    rw [TransferStep.apply] at stepped
    split_ifs at stepped
    · cases stepped
      exact undone
    · obtain ⟨subs, applied, rfl⟩ := Machine.map_eq_ok.mp stepped
      exact undone.congr rfl rfl fun lacks =>
        lacks.advances
          (advances_of_apply (ticksMeet_any _ _ op) leaves.transfer leaves.foreign applied)
  | unindex => exact undisturbed.elim
  | stopSource | stopDest =>
    cases stepped
    exact undone.congr rfl rfl fun lacks => lacks

/-- **A transfer that fails leaves nothing behind,** where nothing disturbs it: the destination has
neither the subscription nor messages of it, and the index is as it was. -/
theorem failed_transfer_undone {call : TransferCall} {start final : Transfer E}
    {steps : List (TransferStep E call.id)} (begins : start.phase = .lookingUp)
    (lacks : start.dest.Lacks call.id)
    (undisturbed : (transfers E call).Guarded (Undisturbed call) start steps)
    (ran : (transfers E call).run start steps = some final) {statusCode : StatusCode}
    {numbers : Option (List ℕ)} (returned : final.phase = .returned statusCode numbers)
    (bad : statusCode ≠ StatusCode.Good) :
    final.dest.copy call.id = none ∧ ¬ final.dest.retransmissionQueue.Holds call.id ∧
      final.owner = start.owner := by
  have initially : start.Undone call.id start.owner := by
    unfold Undone
    rw [begins]
    exact ⟨lacks, rfl⟩
  have undone := (transfers E call).run_invariant_of_guarded step_undone initially undisturbed ran
  unfold Undone at undone
  rw [returned] at undone
  obtain ⟨clean, same⟩ := undone bad
  exact ⟨clean.copy, clean.held, same⟩

/-! ### A transfer over integers -/

def servingInteger : SessionSubscriptions integers :=
  match (createInteger 1 3 0).apply integerSession with
  | .ok s => s
  | .error _ => integerSession

def integerCall : TransferCall := ⟨1, ⟨"user", .sign, "application"⟩, false⟩

/-- The subscription 1 is to be transferred to a session that has none. -/
def integerTransfer : Transfer integers :=
  ⟨servingInteger, false, integerSession, false, some .source, .lookingUp⟩

/-- The cache's own transfer of the subscription 1, from the session 1 to the session 2. -/
def transferredInteger : (StatusCode × Option (List ℕ)) × SubscriptionCacheInner integers :=
  haveI : DecidableEq integers.NodeId := inferInstanceAs (DecidableEq ℕ)
  transferOne
    { ((new integerLimits 0).setSession 1 servingInteger).setSession 2 integerSession with
      subscriptionToSession := fun _ => some 1 }
    2 integerCall.key integerCall.sendInitialValues 0 1

theorem transferOne_eq_proceed_integer : ∃ w,
    (fun w => proceed w integerCall 0)^[7] integerTransfer = w ∧
      w.phase = .returned transferredInteger.1.1 transferredInteger.1.2 ∧
      transferredInteger.2.sessionSubscriptions 1 = some w.source ∧
      transferredInteger.2.sessionSubscriptions 2 = some w.dest ∧
      transferredInteger.2.subscriptionToSession 1 = w.ownerId 1 2 :=
  haveI : DecidableEq integers.NodeId := inferInstanceAs (DecidableEq ℕ)
  transferOne_eq_proceed _ (by decide) integerCall 0 rfl rfl rfl

theorem integerSession_lacks : integerSession.Lacks 1 :=
  ⟨rfl, RetransmissionQueue.new_holds 1⟩

def deleteAtSource : TransferStep integers 1 :=
  .atSource (.deleteSubscriptions [1]) ⟨trivial, fun _ _ same => by cases same⟩

theorem failed_transfer_undone_deleted :
    ∃ final : Transfer integers,
      (transfers _ integerCall).run integerTransfer
        [.proceed 0, .proceed 0, deleteAtSource, .proceed 0] = some final ∧
      final.phase = .returned StatusCode.BadSubscriptionIdInvalid none ∧
      final.dest.copy 1 = none ∧ ¬ final.dest.retransmissionQueue.Holds 1 ∧
      final.owner = some .source := by
  obtain ⟨final, ran, returned⟩ : ∃ final : Transfer integers,
      (transfers _ integerCall).run integerTransfer
        [.proceed 0, .proceed 0, deleteAtSource, .proceed 0] = some final ∧
      final.phase = .returned StatusCode.BadSubscriptionIdInvalid none := ⟨_, rfl, rfl⟩
  refine ⟨final, ran, returned, failed_transfer_undone rfl integerSession_lacks ?_ ran returned
    (by decide)⟩
  refine ⟨trivial, fun _ first => ⟨?_, fun _ second => ⟨trivial, fun _ third => ⟨?_, ?_⟩⟩⟩⟩
  · cases some.inj first
    trivial
  · cases some.inj first
    cases some.inj second
    cases some.inj third
    trivial
  · exact fun _ _ => trivial

/-- **A subscription that is deleted after it was inserted** stays at the destination, although the
transfer fails. -/
theorem failed_transfer_left_behind :
    ¬ ∀ (E : Externals) (call : TransferCall) (start final : Transfer E)
      (steps : List (TransferStep E call.id)), start.phase = .lookingUp → start.dest.Lacks call.id →
      start.owner ≠ some .dest → (transfers E call).run start steps = some final →
      ∀ statusCode numbers,
      final.phase = .returned statusCode numbers → statusCode ≠ StatusCode.Good →
      final.dest.copy call.id = none ∧ ¬ final.dest.retransmissionQueue.Holds call.id ∧
        final.owner = start.owner := by
  intro always
  obtain ⟨final, copy, ran, returned, there⟩ : ∃ (final : Transfer integers)
      (copy : Subscription integers), (transfers _ integerCall).run integerTransfer
        [.proceed 0, .proceed 0, .proceed 0, .proceed 0, deleteAtSource, .proceed 0] = some final ∧
      final.phase = .returned StatusCode.BadSubscriptionIdInvalid none ∧
      final.dest.copy 1 = some copy := ⟨_, _, rfl, rfl, rfl⟩
  have gone :=
    (always _ integerCall integerTransfer final _ rfl integerSession_lacks (by decide) ran
    _ _ returned (by decide)).1
  cases gone.symm.trans there

end Transfer

end AsyncOpcua.Subscriptions
