/-
**The pending transaction of the GDS push model.**

`UpdateCertificate` and `CloseAndUpdate` stage a certificate and trust lists in one transaction,
which `ApplyChanges` applies and `CancelChanges` discards. While it is being applied, updates of its
session are staged in a replacement, which is merged back if the apply fails.

* `PushTransactionState` — the transaction, with its four transitions;
* `Slot`, `slot` — what is pending: the certificate, and each of the four lists of each group;
* `stage…_layers`, `beginApply_layers`, `finishApply_layers` — each transition is that of the staged
  values, where a trust list only replaces one that it covers.
-/

import AsyncOpcua.Foundation.Staging
import AsyncOpcua.Foundation.Transition
import AsyncOpcua.Types.NodeId

namespace AsyncOpcua.Gds

open Types Foundation Option Staging

/-! ### Trust lists -/

abbrev Bytes := List UInt8

inductive CertificateGroup where
  | defaultApplication
  | defaultHttps
  | defaultUserToken
  deriving DecidableEq

def CertificateGroup.ALL : List CertificateGroup :=
  [.defaultApplication, .defaultHttps, .defaultUserToken]

inductive ListKind where
  | trustedCertificates
  | trustedCrls
  | issuerCertificates
  | issuerCrls
  deriving DecidableEq

def ListKind.mask : ListKind → BitVec 32
  | .trustedCertificates => 1
  | .trustedCrls => 2
  | .issuerCertificates => 4
  | .issuerCrls => 8

structure TrustListDataType where
  specifiedLists : BitVec 32
  trustedCertificates : Option (List ByteString)
  trustedCrls : Option (List ByteString)
  issuerCertificates : Option (List ByteString)
  issuerCrls : Option (List ByteString)

def byteStringsToDer (list : Option (List ByteString)) : List Bytes :=
  (list.getD []).filterMap id

namespace TrustListDataType

def list (trustList : TrustListDataType) : ListKind → Option (List ByteString)
  | .trustedCertificates => trustList.trustedCertificates
  | .trustedCrls => trustList.trustedCrls
  | .issuerCertificates => trustList.issuerCertificates
  | .issuerCrls => trustList.issuerCrls

def specifies (trustList : TrustListDataType) (kind : ListKind) : Bool :=
  trustList.specifiedLists &&& kind.mask != 0

/-- Every list that `old` specifies is specified here too. -/
def Covers (trustList old : TrustListDataType) : Prop :=
  ∀ kind, old.specifies kind = true → trustList.specifies kind = true

end TrustListDataType

/-! ### Transactions -/

structure PushTransaction where
  owningSessionId : BitVec 32
  certificateDer : Option Bytes
  privateKeyPem : Option Bytes
  certificateGroupId : Option NodeId
  certificateTypeId : Option NodeId
  pendingTrustLists : CertificateGroup → Option TrustListDataType

inductive PushTransactionState where
  | idle
  | staged (transaction : PushTransaction)
  | applying (current : PushTransaction) (replacement : Option PushTransaction)

namespace PushTransactionState

def stagingBase (sessionId : BitVec 32) :
    PushTransactionState → Except StatusCode (Option PushTransaction)
  | .idle => .ok none
  | .staged existing =>
    if existing.owningSessionId ≠ sessionId then .error .BadTransactionPending
    else .ok (some existing)
  | .applying current replacement =>
    if current.owningSessionId ≠ sessionId then .error .BadTransactionPending else .ok replacement

def stage (transaction : PushTransaction) : PushTransactionState → PushTransactionState
  | .idle | .staged _ => .staged transaction
  | .applying current _ => .applying current (some transaction)

def beginApply (sessionId : BitVec 32) :
    PushTransactionState → Except StatusCode (PushTransaction × PushTransactionState)
  | .idle => .error .BadNothingToDo
  | .staged current =>
    if current.owningSessionId ≠ sessionId then .error .BadSessionIdInvalid
    else .ok (current, .applying current none)
  | .applying current _ =>
    if current.owningSessionId = sessionId then .error .BadTransactionPending
    else .error .BadSessionIdInvalid

/-- What a failed apply leaves: the replacement is merged into what it began with. -/
def merged (current replacement : PushTransaction) : PushTransaction :=
  let current := { current with
    pendingTrustLists := fun group =>
      (replacement.pendingTrustLists group).or (current.pendingTrustLists group) }
  match replacement.certificateDer with
  | some certificateDer =>
    { current with
      certificateDer := some certificateDer
      privateKeyPem := replacement.privateKeyPem
      certificateGroupId := replacement.certificateGroupId
      certificateTypeId := replacement.certificateTypeId }
  | none => current

def finishApply (succeeded : Bool) : PushTransactionState → PushTransactionState
  | .applying current (some replacement) =>
    if succeeded then .staged replacement else .staged (merged current replacement)
  | .applying current none => if succeeded then .idle else .staged current
  | .idle => .idle
  | .staged transaction => .staged transaction

def owner : PushTransactionState → Option (BitVec 32)
  | .idle => none
  | .staged transaction => some transaction.owningSessionId
  | .applying current _ => some current.owningSessionId

end PushTransactionState

/-! ### The methods, at the lock of the transaction -/

/-- What a method sees of its caller. -/
structure RequestContext where
  sessionId : BitVec 32
  securityMode : MessageSecurityMode
  securityAdmin : Bool

def authorizeAuthenticatedSecurityAdmin (context : RequestContext) : Except StatusCode Unit :=
  if context.securityMode = .none then .error .BadSecurityModeInsufficient
  else if context.securityAdmin = false then .error .BadUserAccessDenied
  else .ok ()

/-- What the methods ask of X.509 and of key encodings: whether bytes parse as a certificate, a CRL
or a private key, and the PEM text of a private key that is read from a file. -/
structure PushExternals where
  certificateFromDer : Bytes → Bool
  isApplicationUriValid : Bytes → Bool
  isTimeValid : ℤ → Bytes → Bool
  crlFromDer : Bytes → Bool
  privateKeyFromPem : Bytes → Bool
  toPem : Bytes → Option Bytes

structure UpdateCertificateArgs where
  certificateGroupId : NodeId
  certificateTypeId : NodeId
  certificate : ByteString
  privateKeyFormat : Option String
  privateKey : ByteString

structure CertificateUpdate where
  certificateDer : Bytes
  privateKeyPem : Option Bytes
  certificateGroupId : NodeId
  certificateTypeId : NodeId

def resolveCertificateIdentifier (identifier default : NodeId) : Except StatusCode NodeId :=
  if identifier.isNull then .ok default
  else if identifier = default then .ok identifier
  else .error .BadInvalidArgument

def DefaultApplicationGroup : NodeId := .standard 14156
def RsaSha256ApplicationCertificateType : NodeId := .standard 12560

section Methods

variable (E : PushExternals)

def checkUpdateCertificate (context : RequestContext) (args : UpdateCertificateArgs) :
    Except StatusCode CertificateUpdate := do
  authorizeAuthenticatedSecurityAdmin context
  let certificateGroupId ←
    resolveCertificateIdentifier args.certificateGroupId DefaultApplicationGroup
  let certificateTypeId ←
    resolveCertificateIdentifier args.certificateTypeId RsaSha256ApplicationCertificateType
  let certificateDer ←
    match args.certificate with
    | none | some [] => .error .BadInvalidArgument
    | some der => .ok der
  if E.certificateFromDer certificateDer = false then .error .BadCertificateInvalid
  else if E.isApplicationUriValid certificateDer = false then .error .BadCertificateUriInvalid
  else
    let privateKeyPem ←
      match args.privateKeyFormat, args.privateKey with
      | none, none => .ok none
      | some format, some bytes =>
        if format.toLower = "pem" ∧ E.privateKeyFromPem bytes = true then .ok (some bytes)
        else .error .BadNotSupported
      | _, _ => .error .BadInvalidArgument
    .ok ⟨certificateDer, privateKeyPem, certificateGroupId, certificateTypeId⟩

/-- `handle_update_certificate` under the lock. -/
def stageCertificate (sessionId : BitVec 32) (update : CertificateUpdate)
    (transaction : PushTransactionState) : Except StatusCode PushTransactionState :=
  (transaction.stagingBase sessionId).map fun base =>
    transaction.stage {
      owningSessionId := sessionId
      certificateDer := some update.certificateDer
      privateKeyPem := update.privateKeyPem
      certificateGroupId := some update.certificateGroupId
      certificateTypeId := some update.certificateTypeId
      pendingTrustLists := (base.map (·.pendingTrustLists)).getD fun _ => none }

def validateTrustListCertificates (now : ℤ) (trustList : TrustListDataType) :
    Except StatusCode Unit :=
  if (byteStringsToDer trustList.trustedCertificates).all
      (fun der => E.certificateFromDer der && E.isTimeValid now der) then .ok ()
  else .error .BadCertificateInvalid

/-- The checks of `handle_close_and_update`: what the written buffer decodes to, if it does. -/
def checkCloseAndUpdate (context : RequestContext) (written : Option TrustListDataType) (now : ℤ) :
    Except StatusCode TrustListDataType := do
  authorizeAuthenticatedSecurityAdmin context
  match written with
  | none => .error .BadInvalidArgument
  | some trustList =>
    validateTrustListCertificates E now trustList
    .ok trustList

/-- `handle_close_and_update` under the lock. -/
def stageTrustList (sessionId : BitVec 32) (group : CertificateGroup)
    (trustList : TrustListDataType) (transaction : PushTransactionState) :
    Except StatusCode PushTransactionState :=
  (transaction.stagingBase sessionId).map fun base =>
    let updated := base.getD
      { owningSessionId := sessionId
        certificateDer := none
        privateKeyPem := none
        certificateGroupId := none
        certificateTypeId := none
        pendingTrustLists := fun _ => none }
    transaction.stage { updated with
      pendingTrustLists := Function.update updated.pendingTrustLists group (some trustList) }

end Methods

/-- `handle_cancel_changes` under the lock. -/
def cancelChanges (sessionId : BitVec 32) :
    PushTransactionState → Except StatusCode PushTransactionState
  | .idle => .error .BadNothingToDo
  | .staged existing =>
    if existing.owningSessionId ≠ sessionId then .error .BadSessionIdInvalid else .ok .idle
  | .applying current _ =>
    if current.owningSessionId ≠ sessionId then .error .BadSessionIdInvalid
    else .error .BadTransactionPending

/-! ### What is pending -/

inductive Slot where
  | certificate
  | list (group : CertificateGroup) (kind : ListKind)

inductive PendingValue where
  | certificate (certificateDer : Bytes) (privateKeyPem : Option Bytes)
      (certificateGroupId certificateTypeId : Option NodeId)
  | list (ders : List Bytes)
  deriving DecidableEq

def TrustListDataType.pending (trustList : TrustListDataType) (kind : ListKind) :
    Option PendingValue :=
  if trustList.specifies kind then some (.list (byteStringsToDer (trustList.list kind))) else none

theorem pending_or_of_covers {trustList old : TrustListDataType} (covers : trustList.Covers old)
    (kind : ListKind) :
    (trustList.pending kind).or (old.pending kind) = trustList.pending kind := by
  unfold TrustListDataType.pending
  by_cases specified : trustList.specifies kind = true
  · rw [if_pos specified, some_or]
  · rw [if_neg specified, if_neg fun before => specified (covers kind before), none_or]

def certificateValues (update : CertificateUpdate) : Slot → Option PendingValue
  | .certificate => some (.certificate update.certificateDer update.privateKeyPem
      update.certificateGroupId update.certificateTypeId)
  | .list _ _ => none

/-- What `CloseAndUpdate` stages. -/
def trustListValues (group : CertificateGroup) (trustList : TrustListDataType) :
    Slot → Option PendingValue
  | .certificate => none
  | .list group' kind => if group' = group then trustList.pending kind else none

def PushTransaction.slot (transaction : PushTransaction) : Slot → Option PendingValue
  | .certificate => transaction.certificateDer.map fun der =>
      .certificate der transaction.privateKeyPem transaction.certificateGroupId
        transaction.certificateTypeId
  | .list group kind => (transaction.pendingTrustLists group).bind (·.pending kind)

def PushTransactionState.layers : PushTransactionState → Staging Slot PendingValue
  | .idle => .empty
  | .staged transaction => ⟨false, transaction.slot, fun _ => none⟩
  | .applying current replacement =>
    ⟨true, current.slot, fun slot => replacement.bind (·.slot slot)⟩

/-! ### The transitions are those of the staged values -/

section Transitions

open PushTransactionState (applying beginApply merged stagingBase)

variable {state next : PushTransactionState} {sessionId : BitVec 32}

theorem stagingBase_eq_ok {base : Option PushTransaction} :
    state.stagingBase sessionId = .ok base ↔
      state = .idle ∧ base = none ∨
      (∃ existing, state = .staged existing ∧ existing.owningSessionId = sessionId ∧
        base = some existing) ∨
      ∃ current, state = .applying current base ∧ current.owningSessionId = sessionId := by
  cases state with
  | idle => simp [stagingBase, eq_comm]
  | staged | applying =>
    simp only [stagingBase]
    split_ifs with other <;> simp_all [eq_comm]

theorem stage_layers {base : Option PushTransaction}
    (based : state.stagingBase sessionId = .ok base) {transaction : PushTransaction}
    {values : Slot → Option PendingValue}
    (holds : ∀ slot, transaction.slot slot = (values slot).or (base.bind (·.slot slot))) :
    (state.stage transaction).layers = state.layers.step (.staged values) := by
  obtain ⟨rfl, rfl⟩ | ⟨existing, rfl, -, rfl⟩ | ⟨current, rfl, -⟩ := stagingBase_eq_ok.mp based
  · show mk false transaction.slot _ = mk false _ _
    congr 1
    funext slot
    exact holds slot
  · show mk false transaction.slot _ = mk false _ _
    congr 1
    funext slot
    exact holds slot
  · show mk true current.slot _ = mk true current.slot _
    congr 1
    funext slot
    exact holds slot

theorem stageCertificate_layers {update : CertificateUpdate}
    (staged : stageCertificate sessionId update state = .ok next) :
    next.layers = state.layers.step (.staged (certificateValues update)) := by
  obtain ⟨base, based, rfl⟩ := Machine.map_eq_ok.mp staged
  refine stage_layers based fun slot => ?_
  cases slot with
  | certificate => rfl
  | list group kind => cases base <;> rfl

theorem stageTrustList_layers {group : CertificateGroup} {trustList : TrustListDataType}
    (covers : ∀ base old, state.stagingBase sessionId = .ok (some base) →
      base.pendingTrustLists group = some old → trustList.Covers old)
    (staged : stageTrustList sessionId group trustList state = .ok next) :
    next.layers = state.layers.step (.staged (trustListValues group trustList)) := by
  obtain ⟨base, based, rfl⟩ := Machine.map_eq_ok.mp staged
  refine stage_layers based fun slot => ?_
  cases slot with
  | certificate => cases base <;> rfl
  | list group' kind =>
    simp only [PushTransaction.slot, trustListValues]
    by_cases own : group' = group
    · subst own
      rw [Function.update_self, if_pos rfl, bind_some]
      cases base with
      | none => simp
      | some base =>
        show _ = (trustList.pending kind).or ((base.pendingTrustLists group').bind (·.pending kind))
        cases held : base.pendingTrustLists group' with
        | none => simp
        | some old => exact (pending_or_of_covers (covers base old based held) kind).symm
    · rw [Function.update_of_ne own, if_neg own, none_or]
      cases base <;> rfl

theorem beginApply_layers {staged : PushTransaction}
    (began : state.beginApply sessionId = .ok (staged, next)) :
    next.layers = state.layers.step .began ∧ staged.slot = state.layers.pending ∧
      state = .staged staged ∧ next = .applying staged none ∧
      staged.owningSessionId = sessionId := by
  cases state with
  | idle => cases began
  | staged current =>
    simp only [beginApply] at began
    split_ifs at began with other
    cases began
    exact ⟨rfl, rfl, rfl, rfl, not_not.mp other⟩
  | applying current replacement =>
    simp only [beginApply] at began
    split_ifs at began

theorem merged_slot {current replacement : PushTransaction}
    (covers : ∀ group new old, replacement.pendingTrustLists group = some new →
      current.pendingTrustLists group = some old → new.Covers old) (slot : Slot) :
    (merged current replacement).slot slot =
      (replacement.slot slot).or (current.slot slot) := by
  have lists : (merged current replacement).pendingTrustLists =
      fun group => (replacement.pendingTrustLists group).or (current.pendingTrustLists group) := by
    unfold merged
    cases replacement.certificateDer <;> rfl
  cases slot with
  | certificate =>
    simp only [PushTransaction.slot, merged]
    cases replacement.certificateDer <;> simp
  | list group kind =>
    simp only [PushTransaction.slot, lists]
    cases new : replacement.pendingTrustLists group with
    | none => simp
    | some trustList =>
      cases held : current.pendingTrustLists group with
      | none => simp
      | some old => exact (pending_or_of_covers (covers group trustList old new held) kind).symm

theorem finishApply_layers {current : PushTransaction} {replacement : Option PushTransaction}
    {succeeded : Bool}
    (covers : succeeded = false → ∀ staged, replacement = some staged → ∀ group new old,
      staged.pendingTrustLists group = some new →
      current.pendingTrustLists group = some old → new.Covers old) :
    ((applying current replacement).finishApply succeeded).layers =
      (applying current replacement).layers.step (.finished succeeded) := by
  cases replacement with
  | none => cases succeeded <;> rfl
  | some staged =>
    cases succeeded with
    | true => rfl
    | false =>
      show mk false _ _ = mk false _ _
      congr 1
      funext slot
      exact merged_slot (covers rfl staged rfl) slot

theorem cancelChanges_layers (cancelled : cancelChanges sessionId state = .ok next) :
    next.layers = state.layers.step .cancelled ∧ next = .idle ∧
      ∃ existing, state = .staged existing ∧ existing.owningSessionId = sessionId := by
  cases state with
  | idle => cases cancelled
  | staged existing =>
    simp only [cancelChanges] at cancelled
    split_ifs at cancelled with other
    cases cancelled
    exact ⟨rfl, rfl, existing, rfl, not_not.mp other⟩
  | applying current replacement =>
    simp only [cancelChanges] at cancelled
    split_ifs at cancelled

end Transitions

end AsyncOpcua.Gds
