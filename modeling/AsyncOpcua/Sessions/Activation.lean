/-
**Activations of one session, from any channels at once.**

The parts of any number of calls follow each other in any order. Server nonces are drawn fresh. What
ties the parts of a call together is the nonce of the session: each activation replaces it, so a
call whose nonce is still that of the session goes on from what it read.

* `activation_bound` — what holds of the activations of every interleaving.
-/

import AsyncOpcua.Sessions.Session

namespace AsyncOpcua.Sessions

open Types List
open Comms (SecurityPolicy)
open Rbac
open Foundation

/-! ### Calls -/

/-- A call of `activate_session` after its first part. -/
structure ActivateCall where
  channel : Channel
  request : ActivateSessionRequest
  activation : Activation
  serverNonce : ByteString
  /-- The client's signature was verified. -/
  verified : Bool

/-- A call that succeeded: its channel, the nonce that it read, and the session it activated. -/
structure Accepted where
  channel : Channel
  read : ByteString
  before : Session

structure Activations where
  session : Session
  calls : ℕ → Option ActivateCall
  drawn : List ByteString
  accepted : List Accepted

/-- The parts of a call. What the user is taken for is given. -/
inductive ActivateOp
  | check (id : ℕ) (channel : Channel) (request : ActivateSessionRequest) (now : ℕ)
      (serverNonce : ByteString)
  | verify (id : ℕ)
  | commit (id : ℕ) (resolver : RoleResolver) (authentication : Except StatusCode Authentication)

namespace Activations

variable (info : ServerInfo)

def setCall (s : Activations) (id : ℕ) (call : Option ActivateCall) : Activations :=
  { s with calls := Function.update s.calls id call }

/-- The first part. The nonce is drawn after the checks. -/
def check (s : Activations) (id : ℕ) (channel : Channel) (request : ActivateSessionRequest)
    (now : ℕ) (serverNonce : ByteString) : Activations :=
  let noted := (s.session.validateTimedOut now).1
  match (s.session.validateTimedOut now).2 with
  | .error _ => { s with session := noted }
  | .ok () =>
    match noted.checkActivation info channel request with
    | .error _ => { s with session := noted }
    | .ok activation =>
      setCall { s with session := noted, drawn := serverNonce :: s.drawn } id
        (some ⟨channel, request, activation, serverNonce, false⟩)

def verify (s : Activations) (id : ℕ) (call : ActivateCall) : Activations :=
  match call.activation.verify info call.channel with
  | .error _ => s.setCall id none
  | .ok () => s.setCall id (some { call with verified := true })

/-- The last part. -/
def commit (s : Activations) (id : ℕ) (call : ActivateCall) (resolver : RoleResolver)
    (authentication : Except StatusCode Authentication) : Activations :=
  match authentication with
  | .error _ => s.setCall id none
  | .ok authentication =>
    match s.session.commitActivation info resolver call.channel call.request call.activation
        call.serverNonce authentication with
    | .error _ => s.setCall id none
    | .ok after => setCall { s with
        session := after
        accepted := ⟨call.channel, call.activation.sessionNonce, s.session⟩ :: s.accepted } id none

def machine : Machine Activations ActivateOp where
  step s
    | .check id channel request now serverNonce =>
      if (s.calls id).isNone ∧ serverNonce ∉ s.drawn then
        some (s.check info id channel request now serverNonce)
      else none
    | .verify id =>
      match s.calls id with
      | some call => if call.verified then none else some (s.verify info id call)
      | none => none
    | .commit id resolver authentication =>
      match s.calls id with
      | some call =>
        if call.verified then some (s.commit info id call resolver authentication) else none
      | none => none

/-- A session that was just created. -/
def start (session : Session) : Activations := ⟨session, fun _ => none, [session.sessionNonce], []⟩

end Activations

/-- What an activation may change, and a failed one leaves. -/
def SameBinding (before after : Session) : Prop :=
  after.secureChannelId = before.secureChannelId ∧ after.sessionNonce = before.sessionNonce ∧
    after.userIdentity = before.userIdentity ∧ after.userToken = before.userToken ∧
    after.roles = before.roles

/-- **An activation is bound:** from the channel that created the session, if it was never
activated; and from another channel only under the same security, and with the client's certificate.
-/
structure Accepted.Bound (info : ServerInfo) (createdOn : ℕ) (accepted : Accepted) : Prop where
  first : accepted.before.userToken = none → accepted.channel.secureChannelId = createdOn
  cross : accepted.channel.secureChannelId ≠ accepted.before.secureChannelId →
    accepted.channel.securityMode = accepted.before.messageSecurityMode ∧
    accepted.channel.securityPolicy =
      SecurityPolicy.fromUri accepted.before.securityPolicyUri ∧
    accepted.channel.securityPolicy ≠ .none ∧
    ∃ sessionCert channelCert, accepted.before.clientCertificate = some sessionCert ∧
      accepted.channel.remoteCert = some channelCert ∧
      info.thumbprint sessionCert = info.thumbprint channelCert

/-! ### The invariant -/

/-- What a call read is still so. -/
structure ActivateCall.Current (call : ActivateCall) (session : Session) : Prop where
  channel : call.activation.previousSecureChannelId = session.secureChannelId
  unactivated : session.userToken = none → call.activation.wasUnactivated = true
  cross : session.secureChannelId ≠ call.channel.secureChannelId →
    session.messageSecurityMode = call.channel.securityMode ∧
      SecurityPolicy.fromUri session.securityPolicyUri = call.channel.securityPolicy

namespace Activations

variable {info : ServerInfo} {createdOn : ℕ}

structure Sound (info : ServerInfo) (createdOn : ℕ) (s : Activations) : Prop where
  current : s.session.sessionNonce ∈ s.drawn
  spent : ∀ a ∈ s.accepted, a.read ∈ s.drawn ∧ a.read ≠ s.session.sessionNonce
  once : (s.accepted.map (·.read)).Nodup
  ahead : ∀ id call, s.calls id = some call → call.serverNonce ∈ s.drawn ∧
    call.serverNonce ≠ s.session.sessionNonce ∧ ∀ a ∈ s.accepted, a.read ≠ call.serverNonce
  apart : ∀ i j first second, i ≠ j → s.calls i = some first → s.calls j = some second →
    first.serverNonce ≠ second.serverNonce
  behind : ∀ i j first second, s.calls i = some first → s.calls j = some second →
    first.serverNonce ≠ second.activation.sessionNonce
  drawn : ∀ id call, s.calls id = some call → call.activation.sessionNonce ∈ s.drawn
  snapshot : ∀ id call, s.calls id = some call →
    call.activation.sessionNonce = s.session.sessionNonce → call.Current s.session
  created : s.session.userToken = none → s.session.secureChannelId = createdOn
  bound : ∀ a ∈ s.accepted, a.Bound info createdOn

theorem sound_start {session : Session} (created : session.secureChannelId = createdOn) :
    Sound info createdOn (start session) where
  current := mem_singleton.mpr rfl
  spent _ absurdly := nomatch absurdly
  once := nodup_nil
  ahead _ _ absurdly := nomatch absurdly
  apart _ _ _ _ _ absurdly := nomatch absurdly
  behind _ _ _ _ absurdly := nomatch absurdly
  drawn _ _ absurdly := nomatch absurdly
  snapshot _ _ absurdly := nomatch absurdly
  created _ := created
  bound _ absurdly := nomatch absurdly

variable {s : Activations}

theorem setCall_calls {id other : ℕ} {call : Option ActivateCall} {found : ActivateCall}
    (here : (s.setCall id call).calls other = some found) :
    (other = id ∧ call = some found) ∨ (other ≠ id ∧ s.calls other = some found) := by
  have here : Function.update s.calls id call other = some found := here
  by_cases same : other = id
  · subst same
    rw [Function.update_self] at here
    exact .inl ⟨rfl, here⟩
  · rw [Function.update_of_ne same] at here
    exact .inr ⟨same, here⟩

section

variable (sound : Sound info createdOn s)
include sound

theorem Sound.noted (now : ℕ) :
    Sound info createdOn { s with session := (s.session.validateTimedOut now).1 } where
  current := sound.current
  spent := sound.spent
  once := sound.once
  ahead := sound.ahead
  apart := sound.apart
  behind := sound.behind
  drawn := sound.drawn
  snapshot id call here same :=
    have current := sound.snapshot id call here same
    ⟨current.channel, current.unactivated, current.cross⟩
  created := sound.created
  bound := sound.bound

theorem Sound.setCall {id : ℕ} {call : ActivateCall}
    (here : s.calls id = some call) {later : Option ActivateCall}
    (same : ∀ next, later = some next → next = { call with verified := next.verified }) :
    Sound info createdOn (s.setCall id later) := by
  -- A call that is there now was there before, but for being verified.
  have known : ∀ {other found}, (s.setCall id later).calls other = some found →
      ∃ old, s.calls other = some old ∧ found = { old with verified := found.verified } := by
    intro other found there
    rcases setCall_calls there with ⟨rfl, set⟩ | ⟨_, kept⟩
    · exact ⟨call, here, same found set⟩
    · exact ⟨found, kept, rfl⟩
  constructor
  · exact sound.current
  · exact sound.spent
  · exact sound.once
  · intro other found there
    obtain ⟨old, was, eq⟩ := known there
    rw [eq]
    exact sound.ahead other old was
  · intro i j first second differs there also
    obtain ⟨one, was, eq⟩ := known there
    obtain ⟨two, were, eq'⟩ := known also
    rw [eq, eq']
    exact sound.apart i j one two differs was were
  · intro i j first second there also
    obtain ⟨one, was, eq⟩ := known there
    obtain ⟨two, were, eq'⟩ := known also
    rw [eq, eq']
    exact sound.behind i j one two was were
  · intro other found there
    obtain ⟨old, was, eq⟩ := known there
    rw [eq]
    exact sound.drawn other old was
  · intro other found there still
    obtain ⟨old, was, eq⟩ := known there
    rw [eq] at still ⊢
    have current := sound.snapshot other old was still
    exact ⟨current.channel, current.unactivated, current.cross⟩
  · exact sound.created
  · exact sound.bound

theorem Sound.begun {id : ℕ} {channel : Channel}
    {request : ActivateSessionRequest} {activation : Activation} {serverNonce : ByteString}
    (fresh : serverNonce ∉ s.drawn)
    (checked : s.session.checkActivation info channel request = .ok activation) :
    Sound info createdOn (Activations.setCall { s with drawn := serverNonce :: s.drawn } id
      (some ⟨channel, request, activation, serverNonce, false⟩)) := by
  obtain ⟨read, previous, unactivated, cross⟩ := checkActivation_eq_ok checked
  have unlike : ∀ {nonce}, nonce ∈ s.drawn → nonce ≠ serverNonce := fun member same =>
    fresh (same ▸ member)
  constructor
  · exact mem_cons_of_mem _ sound.current
  · exact fun a member => ⟨mem_cons_of_mem _ (sound.spent a member).1, (sound.spent a member).2⟩
  · exact sound.once
  · intro other found there
    rcases setCall_calls there with ⟨rfl, set⟩ | ⟨_, kept⟩
    · cases set
      exact ⟨mem_cons_self, (unlike sound.current).symm, fun a member =>
        unlike (sound.spent a member).1⟩
    · obtain ⟨drawn, rest⟩ := sound.ahead other found kept
      exact ⟨mem_cons_of_mem _ drawn, rest⟩
  · intro i j first second differs there also
    rcases setCall_calls there with ⟨rfl, set⟩ | ⟨_, kept⟩ <;>
      rcases setCall_calls also with ⟨rfl, set'⟩ | ⟨_, kept'⟩
    · exact absurd rfl differs
    · cases set
      exact (unlike (sound.ahead j second kept').1).symm
    · cases set'
      exact unlike (sound.ahead i first kept).1
    · exact sound.apart i j first second differs kept kept'
  · intro i j first second there also
    rcases setCall_calls there with ⟨rfl, set⟩ | ⟨_, kept⟩ <;>
      rcases setCall_calls also with ⟨rfl, set'⟩ | ⟨_, kept'⟩
    · cases set
      cases set'
      rw [read]
      exact (unlike sound.current).symm
    · cases set
      exact (unlike (sound.drawn j second kept')).symm
    · cases set'
      rw [read]
      exact (sound.ahead i first kept).2.1
    · exact sound.behind i j first second kept kept'
  · intro other found there
    rcases setCall_calls there with ⟨rfl, set⟩ | ⟨_, kept⟩
    · cases set
      rw [read]
      exact mem_cons_of_mem _ sound.current
    · exact mem_cons_of_mem _ (sound.drawn other found kept)
  · intro other found there same
    rcases setCall_calls there with ⟨rfl, set⟩ | ⟨_, kept⟩
    · cases set
      refine ⟨previous, fun absent => ?_, cross⟩
      have user : s.session.userToken = none := absent
      rw [unactivated, Session.isActivated, user]
      rfl
    · exact sound.snapshot other found kept same
  · exact sound.created
  · exact sound.bound

/-- **A call succeeds:** it was the first with the nonce it read, and what it read was still so. -/
theorem Sound.committed {id : ℕ} {call : ActivateCall}
    (here : s.calls id = some call) {resolver : RoleResolver} {authentication : Authentication}
    {after : Session}
    (committed : s.session.commitActivation info resolver call.channel call.request
      call.activation call.serverNonce authentication = .ok after) :
    Sound info createdOn (Activations.setCall { s with
      session := after
      accepted :=
        ⟨call.channel, call.activation.sessionNonce, s.session⟩ :: s.accepted } id none) := by
  obtain ⟨nonce, cross, certificates, roles, rfl⟩ := commitActivation_eq_ok committed
  have current := sound.snapshot id call here nonce.symm
  have others : ∀ {other found}, (s.setCall id none).calls other = some found →
      other ≠ id ∧ s.calls other = some found := by
    intro other found there
    rcases setCall_calls there with ⟨_, set⟩ | kept
    · cases set
    · exact kept
  constructor
  · exact (sound.ahead id call here).1
  · intro a member
    rcases mem_cons.mp member with rfl | member
    · exact ⟨sound.drawn id call here, (sound.behind id id call call here here).symm⟩
    · exact ⟨(sound.spent a member).1, (sound.ahead id call here).2.2 a member⟩
  · refine nodup_cons.mpr ⟨fun member => ?_, sound.once⟩
    obtain ⟨a, old, same⟩ := mem_map.mp member
    exact (sound.spent a old).2 (same.trans nonce.symm)
  · intro other found there
    obtain ⟨differs, kept⟩ := others there
    obtain ⟨drawn, unused, unread⟩ := sound.ahead other found kept
    refine ⟨drawn, (sound.apart other id found call differs kept here), fun a member => ?_⟩
    rcases mem_cons.mp member with rfl | member
    · exact (sound.behind other id found call kept here).symm
    · exact unread a member
  · intro i j first second differs there also
    exact sound.apart i j first second differs (others there).2 (others also).2
  · intro i j first second there also
    exact sound.behind i j first second (others there).2 (others also).2
  · intro other found there
    exact sound.drawn other found (others there).2
  · intro other found there same
    exact absurd same.symm (sound.behind id other call found here (others there).2)
  · exact fun absent => nomatch absent
  · intro a member
    rcases mem_cons.mp member with rfl | member
    · constructor
      · intro absent
        have forbidden :
            call.activation.previousSecureChannelId = call.channel.secureChannelId := by
          by_contra differs
          have activated := (cross differs).1
          rw [current.unactivated absent] at activated
          cases activated
        exact forbidden.symm.trans (current.channel.trans (sound.created absent))
      · intro differs
        have away : call.activation.previousSecureChannelId ≠ call.channel.secureChannelId :=
          fun same => differs (same.symm.trans current.channel)
        obtain ⟨mode, policy⟩ := current.cross fun same => differs same.symm
        obtain ⟨-, secured⟩ := cross away
        exact ⟨mode.symm, policy.symm, secured, certificates secured⟩
    · exact sound.bound a member

theorem Sound.step {op : ActivateOp} {t : Activations}
    (stepped : (machine info).step s op = some t) : Sound info createdOn t := by
  cases op with
  | check id channel request now serverNonce =>
    simp only [machine] at stepped
    split_ifs at stepped with free
    cases stepped
    unfold check
    dsimp only
    split
    · exact sound.noted now
    · split
      · exact sound.noted now
      · rename_i checked
        exact (sound.noted now).begun free.2 checked
  | verify id =>
    simp only [machine] at stepped
    split at stepped
    · rename_i call here
      split_ifs at stepped
      cases stepped
      unfold verify
      split
      · exact sound.setCall here fun _ absent => nomatch absent
      · refine sound.setCall here fun next same => ?_
        cases same
        rfl
    · cases stepped
  | commit id resolver authentication =>
    simp only [machine] at stepped
    split at stepped
    · rename_i call here
      split_ifs at stepped
      cases stepped
      unfold commit
      split
      · exact sound.setCall here fun _ absent => nomatch absent
      · split
        · exact sound.setCall here fun _ absent => nomatch absent
        · rename_i committed
          exact sound.committed here committed
    · cases stepped

end

theorem sameBinding_of_step {op : ActivateOp} {t : Activations}
    (stepped : (machine info).step s op = some t) (refused : t.accepted = s.accepted) :
    SameBinding s.session t.session := by
  have untouched : SameBinding s.session s.session := ⟨rfl, rfl, rfl, rfl, rfl⟩
  cases op with
  | check id channel request now serverNonce =>
    simp only [machine] at stepped
    split_ifs at stepped
    cases stepped
    unfold check
    dsimp only
    split
    · exact untouched
    · split <;> exact untouched
  | verify id =>
    simp only [machine] at stepped
    split at stepped
    · split_ifs at stepped
      cases stepped
      unfold verify
      split <;> exact untouched
    · cases stepped
  | commit id resolver authentication =>
    simp only [machine] at stepped
    split at stepped
    · split_ifs at stepped
      cases stepped
      rename_i call _ _
      cases authentication with
      | error error => exact untouched
      | ok authentication =>
        cases committed : s.session.commitActivation info resolver call.channel call.request
            call.activation call.serverNonce authentication with
        | error error =>
          simp only [commit, committed]
          exact untouched
        | ok after =>
          simp only [commit, committed] at refused
          exact absurd refused (cons_ne_self _ _)
    · cases stepped

/-- **Activations are bound,** in every interleaving of calls from any channels on a session that
was created on a channel: a nonce that the session takes lets at most one call succeed that read it;
each activation is bound to the channel or, from another channel, to its security and the client's
certificate; and a step by which no call succeeds leaves what the session is bound to. -/
theorem activation_bound (info : ServerInfo) (session : Session) (ops : List ActivateOp)
    {s : Activations} (ran : (machine info).run (start session) ops = some s) :
    (s.accepted.map (·.read)).Nodup ∧
    (∀ accepted ∈ s.accepted, accepted.Bound info session.secureChannelId) ∧
    ∀ op t, (machine info).step s op = some t → t.accepted = s.accepted →
      SameBinding s.session t.session := by
  have sound : Sound info session.secureChannelId s :=
    (machine info).run_invariant (fun _ _ _ sound stepped => sound.step stepped)
      (sound_start rfl) ran
  exact ⟨sound.once, sound.bound, fun op t stepped refused => sameBinding_of_step stepped refused⟩

def openServer : ServerInfo where
  endpointExists url policy mode := url = "opc.tcp://localhost" ∧ policy = .none ∧ mode = .none
  endpointCertificate := none
  verifySignatureData _ _ _ _ _ := false
  fromByteString _ := .error StatusCode.BadCertificateInvalid
  thumbprint _ := ""

def openChannel : Channel := ⟨7, .none, .none, none⟩

def openSession : Session where
  sessionId := 1
  authenticationToken := ⟨0, .numeric 1⟩
  securityPolicyUri := SecurityPolicy.none.toUri
  secureChannelId := 7
  clientCertificate := none
  sessionNonce := some [1]
  sessionTimeout := 60
  userIdentity := .none
  localeIds := none
  endpointUrl := "opc.tcp://localhost"
  applicationUri := none
  messageSecurityMode := .none
  createdAt := 0
  lastServiceRequest := 0
  userToken := none
  roles := []
  claims := none
  isClosed := false

/-- Two calls read the nonce of the session before either is done. -/
def overlapping : List ActivateOp :=
  [.check 0 openChannel ⟨[], none, .anonymous, none⟩ 1 (some [2]),
    .check 1 openChannel ⟨[], none, .anonymous, none⟩ 1 (some [3]), .verify 0, .verify 1,
    .commit 1 .default (.ok ⟨"", none⟩), .commit 0 .default (.ok ⟨"", none⟩)]

theorem activation_bound_overlapping : ∃ s,
    (machine openServer).run (start openSession) overlapping = some s ∧
      s.accepted.map (·.read) = [some [1]] ∧ (s.accepted.map (·.read)).Nodup :=
  ⟨_, rfl, rfl, (activation_bound openServer openSession overlapping rfl).1⟩

end Activations

end AsyncOpcua.Sessions
