/-
**The session manager, and the requests that are on the way.**

The sessions are shared: a request goes on with a session that the map has lost meanwhile. What runs
between two awaits is one step. The heaps are lists in the order of their keys. Whether a session
can be read at once is given, for each entry that is taken out of a heap.

* `commitCreateSessionDraft`, `expireSession`, `checkSessionExpiry` — what has no await in it.
-/

import AsyncOpcua.Foundation.Tally
import AsyncOpcua.Sessions.Activation
import Mathlib.Data.List.Sort

namespace AsyncOpcua.Sessions

open Types Function
open Rbac
open Foundation

/-! ### What the manager holds -/

structure SessionExpiryEntry where
  deadline : ℕ
  sessionId : ℕ

structure UnactivatedSessionEntry where
  createdAt : ℕ
  sessionId : ℕ

/-- The entries with the earliest deadline come first. -/
def SessionExpiryEntry.Before (a b : SessionExpiryEntry) : Prop := a.deadline ≤ b.deadline

def UnactivatedSessionEntry.Before (a b : UnactivatedSessionEntry) : Prop :=
  a.createdAt ≤ b.createdAt

instance : DecidableRel SessionExpiryEntry.Before := fun a b =>
  inferInstanceAs (Decidable (a.deadline ≤ b.deadline))

instance : DecidableRel UnactivatedSessionEntry.Before := fun a b =>
  inferInstanceAs (Decidable (a.createdAt ≤ b.createdAt))

instance : Std.Total SessionExpiryEntry.Before := ⟨fun a b => Nat.le_total a.deadline b.deadline⟩

instance : IsTrans SessionExpiryEntry SessionExpiryEntry.Before := ⟨fun _ _ _ => Nat.le_trans⟩

/-- The limits of a server, with times in nanoseconds. -/
structure Limits where
  maxSessions : ℕ
  maxUnactivatedSessionsPerChannel : ℕ
  unactivatedSessionTimeout : ℕ
  maxSessionTimeout : ℕ
  addressable : maxSessions < 2 ^ 64

/-- A session that is ready to be published. -/
structure CreateSessionDraft where
  session : Session
  secureChannelId : ℕ
  bound : session.secureChannelId = secureChannelId
  unused : session.userToken = none ∧ session.isClosed = false ∧ session.lastServiceRequest = 0

structure CloseCall where
  sessionId : ℕ
  wasUnactivated : Bool
  channelIdForCounter : ℕ
  /-- The actor has terminated, and says so. -/
  acknowledged : Bool

/-- **The manager, the sessions, and the calls on the way.** -/
structure Server where
  sessions : Finset ℕ
  authTokens : NodeId → Option ℕ
  actorSenders : NodeId → Option ℕ
  unactivatedByChannel : ℕ → Option ℕ
  expiryHeap : List SessionExpiryEntry
  unactivatedHeap : List UnactivatedSessionEntry
  /-- All sessions that were ever published. -/
  objects : ℕ → Option Session
  /-- The sessions whose actors take messages. -/
  actors : Finset ℕ
  activating : ℕ → Option (ℕ × ActivateCall)
  closing : ℕ → Option CloseCall
  now : ℕ
  -- Noted besides: where sessions were created, and which were activated or returned as expired.
  createdOn : ℕ → Option ℕ
  activated : Finset ℕ
  returned : Finset ℕ
  underflowed : Bool
  drawn : List ByteString

namespace Session

/-- When a session is to be removed: earlier as long as it is not activated. -/
def expiryDeadline (limits : Limits) (session : Session) : ℕ :=
  if session.isActivated then session.deadline
  else min session.deadline (session.createdAt + limits.unactivatedSessionTimeout)

end Session

namespace Server

variable (limits : Limits) (info : ServerInfo)

def start : Server where
  sessions := ∅
  authTokens _ := none
  actorSenders _ := none
  unactivatedByChannel _ := none
  expiryHeap := []
  unactivatedHeap := []
  objects _ := none
  actors := ∅
  activating _ := none
  closing _ := none
  now := 0
  createdOn _ := none
  activated := ∅
  returned := ∅
  underflowed := false
  drawn := []

/-! ### Parts of the operations -/

variable (s : Server)

def get (id : ℕ) : Option Session := if id ∈ s.sessions then s.objects id else none

def countDown (channelId : ℕ) : Server :=
  { s with
    unactivatedByChannel := fetchSub s.unactivatedByChannel channelId
    underflowed := s.underflowed || s.unactivatedByChannel channelId = some 0 }

/-- A session is closed and its token taken out of the registries. -/
def shut (id : ℕ) (session : Session) : Server :=
  { s with
    objects := update s.objects id (some session.close)
    authTokens := update s.authTokens session.authenticationToken none
    actorSenders := update s.actorSenders session.authenticationToken none }

def remove (id : ℕ) : Server := { s with sessions := s.sessions.erase id }

/-! ### Creating -/

/-- The oldest session that is not activated, as far as the sessions can be read at once. The
entries that are passed over are gone. -/
def evictionLoop (s : Server) (locked : ℕ → Bool) :
    ℕ → List UnactivatedSessionEntry → Option ℕ × List UnactivatedSessionEntry
  | _, [] => (none, [])
  | next, entry :: heap =>
    match s.get entry.sessionId with
    | none => evictionLoop s locked (next + 1) heap
    | some session =>
      if locked next then evictionLoop s locked (next + 1) heap
      else if session.isActivated then evictionLoop s locked (next + 1) heap
      else (some entry.sessionId, heap)

def evict (id : ℕ) : Server :=
  match s.get id with
  | none => s
  | some evicted => ((s.remove id).shut id evicted).countDown evicted.secureChannelId

/-- Room for one session more: `false` if there is none. -/
def makeRoom (locked : ℕ → Bool) : Server × Bool :=
  if limits.maxSessions ≤ s.sessions.card then
    match s.evictionLoop locked 0 s.unactivatedHeap with
    | (some evicted, heap) => ({ s with unactivatedHeap := heap }.evict evicted, true)
    | (none, heap) => ({ s with unactivatedHeap := heap }, false)
  else (s, true)

/-- `entry(channel_id).or_default()`. -/
def counted (channelId : ℕ) : Server :=
  { s with
    unactivatedByChannel := update s.unactivatedByChannel channelId
      (some ((s.unactivatedByChannel channelId).getD 0)) }

/-- The session, its token, its entries in the heaps and its actor. -/
def publish (draft : CreateSessionDraft) : Server :=
  let session := draft.session
  let id := session.sessionId
  { s with
    sessions := insert id s.sessions
    objects := update s.objects id (some session)
    unactivatedByChannel := fetchAdd s.unactivatedByChannel draft.secureChannelId
    authTokens := update s.authTokens session.authenticationToken (some id)
    unactivatedHeap := if session.isActivated then s.unactivatedHeap
      else s.unactivatedHeap.orderedInsert UnactivatedSessionEntry.Before ⟨session.createdAt, id⟩
    expiryHeap :=
      s.expiryHeap.orderedInsert SessionExpiryEntry.Before ⟨session.expiryDeadline limits, id⟩
    actorSenders := update s.actorSenders session.authenticationToken (some id)
    actors := insert id s.actors
    createdOn := update s.createdOn id (some draft.secureChannelId)
    drawn := session.sessionNonce :: s.drawn }

def commitCreateSessionDraft (draft : CreateSessionDraft) (channelId : ℕ)
    (locked : ℕ → Bool) : Server × Except StatusCode Unit :=
  match s.makeRoom limits locked with
  | (s, false) => (s, .error StatusCode.BadTooManySessions)
  | (s, true) =>
    if limits.maxUnactivatedSessionsPerChannel ≤
        (s.unactivatedByChannel draft.secureChannelId).getD 0 then
      (s.counted draft.secureChannelId, .error StatusCode.BadTooManySessions)
    else if channelId ≠ draft.secureChannelId then
      (s.counted draft.secureChannelId, .error StatusCode.BadSecureChannelIdInvalid)
    else ((s.counted draft.secureChannelId).publish limits draft, .ok ())

/-! ### Expiring -/

def expireSession (id : ℕ) : Server :=
  match s.get id with
  | none => s
  | some session =>
    let s := if !session.isActivated then (s.remove id).countDown session.secureChannelId
      else s.remove id
    s.shut id session

/-- The due entries, one after another. A session that is not due yet goes back into the heap. -/
def expiryLoop (s : Server) (now : ℕ) (locked : ℕ → Bool) :
    ℕ → ℕ → List SessionExpiryEntry → ℕ → List ℕ → List SessionExpiryEntry × ℕ × List ℕ
  | 0, _, heap, nextExpiry, expired => (heap, nextExpiry, expired)
  | _ + 1, _, [], nextExpiry, expired => ([], nextExpiry, expired)
  | fuel + 1, next, entry :: heap, nextExpiry, expired =>
    if now < entry.deadline then (entry :: heap, min nextExpiry entry.deadline, expired)
    else
      match s.get entry.sessionId with
      | none => expiryLoop s now locked fuel (next + 1) heap nextExpiry expired
      | some session =>
        if locked next then expiryLoop s now locked fuel (next + 1) heap nextExpiry expired
        else
          let deadline := session.expiryDeadline limits
          if now < deadline then
            expiryLoop s now locked fuel (next + 1)
              (heap.orderedInsert SessionExpiryEntry.Before ⟨deadline, entry.sessionId⟩)
              (min nextExpiry deadline) expired
          else
            expiryLoop s now locked fuel (next + 1) heap nextExpiry (expired ++ [entry.sessionId])

/-- **The check,** with the time of the next one. Each round takes out one due entry. -/
def checkSessionExpiry (now : ℕ) (locked : ℕ → Bool) : Server × ℕ × List ℕ :=
  let checked := s.expiryLoop limits now locked (s.expiryHeap.length + 1) 0 s.expiryHeap
    (now + limits.maxSessionTimeout) []
  ({ s with
    expiryHeap := checked.1
    returned := s.returned ∪ checked.2.2.toFinset }, checked.2)

/-! ### Closing -/

/-- The first part of `close_session`. -/
def checkClose (token : NodeId) (channelId : ℕ) : Except StatusCode CloseCall :=
  match (s.authTokens token).bind s.objects with
  | none => .error StatusCode.BadSessionIdInvalid
  | some session =>
    let wasUnactivated := !session.isActivated
    if wasUnactivated ∧ session.secureChannelId ≠ channelId then
      .error StatusCode.BadSecureChannelIdInvalid
    else
      match s.actorSenders session.authenticationToken with
      | none => .error StatusCode.BadSessionClosed
      | some actor => .ok ⟨actor, wasUnactivated, session.secureChannelId, false⟩

def setClosing (call : ℕ) (later : Option CloseCall) : Server :=
  { s with closing := update s.closing call later }

/-- The actor takes the message of a call, and no other after it. -/
def terminate (id : ℕ) (call : CloseCall) (session : Session) : Server :=
  ({ s with actors := s.actors.erase call.sessionId }.shut call.sessionId session).setClosing id
    (some { call with acknowledged := true })

/-- The last part of `close_session`. -/
def finishClose (id : ℕ) (call : CloseCall) : Server :=
  ((if call.wasUnactivated then s.countDown call.channelIdForCounter else s).remove
    call.sessionId).setClosing id none

/-! ### Activating -/

def setActivating (call : ℕ) (later : Option (ℕ × ActivateCall)) : Server :=
  { s with activating := update s.activating call later }

def setSession (id : ℕ) (session : Session) : Server :=
  { s with objects := update s.objects id (some session) }

/-- The first part of `activate_session`. -/
def checkActivate (id sessionId : ℕ) (session : Session) (channel : Channel)
    (request : ActivateSessionRequest) (serverNonce : ByteString) : Server :=
  let noted := (session.validateTimedOut s.now).1
  match (session.validateTimedOut s.now).2 with
  | .error _ => s.setSession sessionId noted
  | .ok () =>
    match noted.checkActivation info channel request with
    | .error _ => s.setSession sessionId noted
    | .ok activation =>
      ({ s with drawn := serverNonce :: s.drawn }.setSession sessionId noted).setActivating id
        (some (sessionId, ⟨channel, request, activation, serverNonce, false⟩))

def verifyActivate (id sessionId : ℕ) (call : ActivateCall) : Server :=
  match call.activation.verify info call.channel with
  | .error _ => s.setActivating id none
  | .ok () => s.setActivating id (some (sessionId, { call with verified := true }))

def activate (id : ℕ) (activation : Activation) (after : Session) : Server :=
  let s := { s.setSession id after with activated := insert id s.activated }
  if activation.wasUnactivated then
    { s.countDown activation.previousSecureChannelId with
      expiryHeap := s.expiryHeap.orderedInsert SessionExpiryEntry.Before ⟨after.deadline, id⟩ }
  else s

/-- The last part of `activate_session`. -/
def commitActivate (id sessionId : ℕ) (call : ActivateCall) (session : Session)
    (resolver : RoleResolver) (authentication : Except StatusCode Authentication) : Server :=
  match authentication with
  | .error _ => s.setActivating id none
  | .ok authentication =>
    match session.commitActivation info resolver call.channel call.request call.activation
        call.serverNonce authentication with
    | .error _ => s.setActivating id none
    | .ok after => (s.activate sessionId call.activation after).setActivating id none

/-! ### Steps -/

/-- What runs between two awaits. -/
inductive Op
  | create (draft : CreateSessionDraft) (channelId : ℕ) (locked : ℕ → Bool)
  | request (token : NodeId)
  | checkActivate (id : ℕ) (token : NodeId) (channel : Channel) (request : ActivateSessionRequest)
      (serverNonce : ByteString)
  | verifyActivate (id : ℕ)
  | commitActivate (id : ℕ) (resolver : RoleResolver)
      (authentication : Except StatusCode Authentication)
  | checkClose (id : ℕ) (token : NodeId) (channelId : ℕ)
  | terminate (id : ℕ)
  | failClose (id : ℕ)
  | finishClose (id : ℕ)
  | expire (id : ℕ)
  | check (locked : ℕ → Bool)
  | wait (time : ℕ)

/-- **Requests in any order.** Ids and nonces are drawn afresh. A call whose message no actor takes
fails. -/
def machine : Machine Server Op where
  step s
    | .create draft channelId locked =>
      if (s.objects draft.session.sessionId).isNone ∧ draft.session.sessionNonce ∉ s.drawn ∧
          (s.authTokens draft.session.authenticationToken).isNone ∧
          draft.session.createdAt ≤ s.now then
        some (s.commitCreateSessionDraft limits draft channelId locked).1
      else none
    | .request token =>
      match s.authTokens token with
      | none => some s
      | some id =>
        (s.objects id).map fun session => s.setSession id (session.validateTimedOut s.now).1
    | .checkActivate id token channel request serverNonce =>
      if (s.activating id).isNone ∧ serverNonce ∉ s.drawn then
        match s.authTokens token with
        | none => some s
        | some sessionId => (s.objects sessionId).map fun session =>
          s.checkActivate info id sessionId session channel request serverNonce
      else none
    | .verifyActivate id =>
      match s.activating id with
      | some (sessionId, call) =>
        if call.verified then none else some (s.verifyActivate info id sessionId call)
      | none => none
    | .commitActivate id resolver authentication =>
      match s.activating id with
      | some (sessionId, call) =>
        if call.verified then
          (s.objects sessionId).map fun session =>
            s.commitActivate info id sessionId call session resolver authentication
        else none
      | none => none
    | .checkClose id token channelId =>
      if (s.closing id).isNone then
        match s.checkClose token channelId with
        | .error _ => some s
        | .ok call => some (s.setClosing id (some call))
      else none
    | .terminate id =>
      match s.closing id with
      | some call =>
        if !call.acknowledged ∧ call.sessionId ∈ s.actors then
          (s.objects call.sessionId).map fun session => s.terminate id call session
        else none
      | none => none
    | .failClose id =>
      match s.closing id with
      | some call =>
        if !call.acknowledged ∧ call.sessionId ∉ s.actors then some (s.setClosing id none)
        else none
      | none => none
    | .finishClose id =>
      match s.closing id with
      | some call => if call.acknowledged then some (s.finishClose id call) else none
      | none => none
    | .expire id => some (s.expireSession id)
    | .check locked => some (s.checkSessionExpiry limits s.now locked).1
    | .wait time => some { s with now := s.now + time }

/-- No call is on the way. -/
def Quiescent : Prop := ∀ id, s.activating id = none ∧ s.closing id = none

end Server

end AsyncOpcua.Sessions
