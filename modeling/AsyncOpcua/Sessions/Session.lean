/-
**Sessions, and how one is activated.**

Activating a session takes three parts with other requests in between: checks on the session as it
is, the verification of the client's signature and of the user, and the activation under the write
lock, which takes up again what the first part read.
-/

import AsyncOpcua.Comms.SecurityPolicy
import AsyncOpcua.Rbac.RoleResolver

namespace AsyncOpcua.Sessions

open Types
open Comms (SecurityPolicy)
open Rbac

/-! ### What sessions are made of -/

/-- A certificate in its binary form. -/
structure X509 where
  bytes : List UInt8

inductive IdentityToken
  | none
  | anonymous
  | userName (userName : UAString)
  | x509 (certificateData : ByteString)
  | issuedToken
  | invalid
  deriving DecidableEq

/-- What an issued token says of its user. -/
structure ClaimProfile where
  roles : List String

structure Session where
  sessionId : ℕ
  authenticationToken : NodeId
  securityPolicyUri : String
  secureChannelId : ℕ
  clientCertificate : Option X509
  sessionNonce : ByteString
  /-- In nanoseconds. -/
  sessionTimeout : ℕ
  userIdentity : IdentityToken
  localeIds : Option (List UAString)
  endpointUrl : String
  applicationUri : UAString
  messageSecurityMode : MessageSecurityMode
  createdAt : ℕ
  /-- The time of the last request, since the session was created. -/
  lastServiceRequest : ℕ
  userToken : Option String
  roles : List NodeId
  claims : Option ClaimProfile
  isClosed : Bool

/-- The secure channel of a request. -/
structure Channel where
  secureChannelId : ℕ
  securityPolicy : SecurityPolicy
  securityMode : MessageSecurityMode
  remoteCert : Option X509

structure ActivateSessionRequest where
  clientSignature : List UInt8
  localeIds : Option (List UAString)
  userIdentityToken : IdentityToken
  userTokenSignature : ByteString

/-- What the authenticator says of a user. -/
structure Authentication where
  userToken : String
  claims : Option ClaimProfile

structure ServerInfo where
  endpointExists : String → SecurityPolicy → MessageSecurityMode → Bool
  endpointCertificate : Option X509
  /-- Of the signature, the policy, the certificates of client and server, and the nonce. -/
  verifySignatureData : List UInt8 → SecurityPolicy → X509 → X509 → ByteString → Bool
  fromByteString : ByteString → Except StatusCode X509
  /-- The thumbprint in hexadecimal digits. -/
  thumbprint : X509 → String

namespace Session

def isActivated (session : Session) : Bool := session.userToken.isSome && !session.isClosed

def deadline (session : Session) : ℕ :=
  session.createdAt + session.lastServiceRequest + session.sessionTimeout

/-- **A request is noted,** also where it comes too late. -/
def validateTimedOut (session : Session) (now : ℕ) : Session × Except StatusCode Unit :=
  let elapsed := now - session.createdAt - session.lastServiceRequest
  ({ session with lastServiceRequest := now - session.createdAt },
    if session.sessionTimeout < elapsed then .error StatusCode.BadSessionIdInvalid else .ok ())

def close (session : Session) : Session := { session with isClosed := true }

def activate (session : Session) (secureChannelId : ℕ) (serverNonce : ByteString)
    (identity : IdentityToken) (localeIds : Option (List UAString)) (userToken : String)
    (claims : Option ClaimProfile) (roles : List NodeId) : Session :=
  { session with
    claims, roles, secureChannelId, localeIds
    userToken := some userToken
    sessionNonce := serverNonce
    userIdentity := identity }

end Session

/-! ### The first part -/

structure VerifyData where
  clientCertificate : Option X509
  serverCertificate : Option X509
  nonce : ByteString
  signature : List UInt8

/-- **What an activation read,** and goes on with. -/
structure Activation where
  endpointUrl : String
  sessionNonce : ByteString
  previousSecureChannelId : ℕ
  wasUnactivated : Bool
  verifyData : Option VerifyData

/-- The identities that an anonymous user may not take the place of. -/
def IdentityToken.isNonAnonymous : IdentityToken → Bool
  | .anonymous | .none => false
  | _ => true

def IdentityToken.isX509 : IdentityToken → Bool
  | .x509 _ => true
  | _ => false

/-- The checks of `activate_session` under the read lock. -/
def Session.checkActivation (info : ServerInfo) (channel : Channel)
    (request : ActivateSessionRequest) (session : Session) : Except StatusCode Activation :=
  let isCrossChannelActivation := session.secureChannelId ≠ channel.secureChannelId
  if !info.endpointExists session.endpointUrl channel.securityPolicy channel.securityMode then
    .error StatusCode.BadTcpEndpointUrlInvalid
  else if isCrossChannelActivation ∧ session.messageSecurityMode ≠ channel.securityMode then
    .error StatusCode.BadSecureChannelIdInvalid
  else if isCrossChannelActivation ∧
      SecurityPolicy.fromUri session.securityPolicyUri ≠ channel.securityPolicy then
    .error StatusCode.BadSecureChannelIdInvalid
  else if request.userIdentityToken.isX509 ∧ request.userTokenSignature.isNone then
    .error StatusCode.BadUserSignatureInvalid
  else if isCrossChannelActivation ∧ channel.securityMode = .sign ∧
      request.userIdentityToken = .anonymous ∧ session.userIdentity.isNonAnonymous then
    .error StatusCode.BadIdentityTokenRejected
  else .ok {
    endpointUrl := session.endpointUrl
    sessionNonce := session.sessionNonce
    previousSecureChannelId := session.secureChannelId
    wasUnactivated := !session.isActivated
    verifyData := if channel.securityPolicy ≠ .none then
        some ⟨session.clientCertificate, info.endpointCertificate, session.sessionNonce,
          request.clientSignature⟩
      else none }

/-! ### Verification -/

/-- The verification of the client's signature, which runs on a thread of its own. -/
def Activation.verify (info : ServerInfo) (channel : Channel) (activation : Activation) :
    Except StatusCode Unit :=
  match activation.verifyData with
  | none => .ok ()
  | some data =>
    match data.clientCertificate, data.serverCertificate with
    | some clientCertificate, some serverCertificate =>
      if info.verifySignatureData data.signature channel.securityPolicy clientCertificate
          serverCertificate data.nonce then .ok ()
      else .error StatusCode.BadSecurityChecksFailed
    | _, _ => .error StatusCode.BadUnexpectedError

/-! ### The last part -/

def isCrossChannelTransferForbidden (sessionChannelId requestChannelId : ℕ)
    (sessionActivated : Bool)
    (securityPolicy : SecurityPolicy) : Bool :=
  sessionChannelId ≠ requestChannelId && (!sessionActivated || securityPolicy = .none)

/-- A certificate that is missing on either side counts as another. -/
def isClientCertificateChannelMismatch (info : ServerInfo) (sessionCert channelCert : Option X509)
    (securityPolicy : SecurityPolicy) : Bool :=
  if securityPolicy = .none then false
  else
    match sessionCert, channelCert with
    | some sessionCert, some channelCert =>
      info.thumbprint sessionCert ≠ info.thumbprint channelCert
    | _, _ => true

def nonEmptyUaString (value : UAString) : Option String := value.filter (· ≠ "")

def resolvedIdentityFromActivation (info : ServerInfo) (identity : IdentityToken)
    (claims : Option ClaimProfile) (applicationUri endpointUrl : Option String) :
    Except StatusCode ResolvedIdentity :=
  match identity with
  | .anonymous => .ok ⟨.anonymous, applicationUri, endpointUrl⟩
  | .userName name => .ok ⟨.userName (name.getD ""), applicationUri, endpointUrl⟩
  | .x509 certificateData =>
    match info.fromByteString certificateData with
    | .ok signingCert =>
      .ok ⟨.x509Thumbprint (info.thumbprint signingCert), applicationUri, endpointUrl⟩
    | .error error => .error error
  | .issuedToken => .ok ⟨.issuedToken (claims.elim [] (·.roles)) [], applicationUri, endpointUrl⟩
  | .none | .invalid => .error StatusCode.BadIdentityTokenInvalid

/-- The locales that are asked for, or those the session has. -/
def requestedLocaleIds (request : ActivateSessionRequest) (session : Session) :
    Option (List UAString) :=
  match request.localeIds with
  | some (first :: others) => some (first :: others)
  | _ => session.localeIds

/-- **The activation under the write lock.** -/
def Session.commitActivation (info : ServerInfo) (resolver : RoleResolver) (channel : Channel)
    (request : ActivateSessionRequest) (activation : Activation) (serverNonce : ByteString)
    (authentication : Authentication) (session : Session) : Except StatusCode Session :=
  if isCrossChannelTransferForbidden activation.previousSecureChannelId channel.secureChannelId
      (!activation.wasUnactivated) channel.securityPolicy then
    .error StatusCode.BadSecureChannelIdInvalid
  else if isClientCertificateChannelMismatch info session.clientCertificate channel.remoteCert
      channel.securityPolicy then
    .error StatusCode.BadSecurityChecksFailed
  else if session.sessionNonce ≠ activation.sessionNonce then .error StatusCode.BadNonceInvalid
  else
    match resolvedIdentityFromActivation info request.userIdentityToken authentication.claims
        (nonEmptyUaString session.applicationUri) (some activation.endpointUrl) with
    | .error error => .error error
    | .ok resolvedIdentity =>
      .ok (session.activate channel.secureChannelId serverNonce request.userIdentityToken
        (requestedLocaleIds request session) authentication.userToken authentication.claims
        (resolver.resolve resolvedIdentity))

/-! ### What was checked -/

variable {info : ServerInfo} {resolver : RoleResolver} {channel : Channel}
  {request : ActivateSessionRequest} {activation : Activation} {serverNonce : ByteString}
  {authentication : Authentication} {session after : Session}

/-- **What the first part hands on:** what it read, and the checks of another channel. -/
theorem checkActivation_eq_ok
    (checked : session.checkActivation info channel request = .ok activation) :
    activation.sessionNonce = session.sessionNonce ∧
      activation.previousSecureChannelId = session.secureChannelId ∧
      activation.wasUnactivated = !session.isActivated ∧
      (session.secureChannelId ≠ channel.secureChannelId →
        session.messageSecurityMode = channel.securityMode ∧
          SecurityPolicy.fromUri session.securityPolicyUri = channel.securityPolicy) := by
  unfold Session.checkActivation at checked
  dsimp only at checked
  split_ifs at checked with noEndpoint mode policy _ _
  all_goals
    cases checked
    refine ⟨rfl, rfl, rfl, fun cross => ⟨?_, ?_⟩⟩
    · by_contra differs
      exact mode ⟨cross, differs⟩
    · by_contra differs
      exact policy ⟨cross, differs⟩

/-- **What was checked by an activation that succeeded,** and what it left. -/
theorem commitActivation_eq_ok (committed : session.commitActivation info resolver channel request
      activation serverNonce authentication = .ok after) :
    session.sessionNonce = activation.sessionNonce ∧
      (activation.previousSecureChannelId ≠ channel.secureChannelId →
        activation.wasUnactivated = false ∧ channel.securityPolicy ≠ .none) ∧
      (channel.securityPolicy ≠ .none → ∃ sessionCert channelCert,
        session.clientCertificate = some sessionCert ∧ channel.remoteCert = some channelCert ∧
          info.thumbprint sessionCert = info.thumbprint channelCert) ∧
      ∃ roles, after = session.activate channel.secureChannelId serverNonce
        request.userIdentityToken (requestedLocaleIds request session) authentication.userToken
        authentication.claims roles := by
  unfold Session.commitActivation at committed
  split_ifs at committed with forbidden mismatch nonce
  split at committed
  · cases committed
  · cases committed
    refine ⟨not_not.mp nonce, fun cross => ?_, fun secured => ?_, _, rfl⟩
    · simpa [isCrossChannelTransferForbidden, cross] using forbidden
    · unfold isClientCertificateChannelMismatch at mismatch
      rw [if_neg secured] at mismatch
      cases own : session.clientCertificate with
      | none => simp [own] at mismatch
      | some sessionCert =>
        cases other : channel.remoteCert with
        | none => simp [own, other] at mismatch
        | some channelCert =>
          refine ⟨sessionCert, channelCert, rfl, rfl, ?_⟩
          simpa [own, other] using mismatch

end AsyncOpcua.Sessions
