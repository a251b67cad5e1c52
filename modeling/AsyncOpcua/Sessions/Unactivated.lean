/-
**How the unactivated sessions of a channel are counted.**

A session is counted down when it is activated, closed, expired or evicted, each time for what was
read of it earlier. As long as no session is counted down that was activated or removed meanwhile,
the counters are exact.

* `Sound` — the invariant, which each timely step keeps;
* `accounted_of_timely` — what holds of the timely interleavings;
* `limits_kept` — how many sessions there are.
-/

import AsyncOpcua.Sessions.SessionManager

namespace AsyncOpcua.Sessions

open Types List Option Server
open Rbac
open Foundation
open Function (update update_of_ne update_self)

def CloseCall.Read (createdOn : ℕ → Option ℕ) (activated : Finset ℕ) (call : CloseCall) : Prop :=
  if call.wasUnactivated then createdOn call.sessionId = some call.channelIdForCounter
  else call.sessionId ∈ activated

namespace Server

variable (limits : Limits) (info : ServerInfo)

/-- The channel that an unactivated session counts for. -/
def channelOf (createdOn : ℕ → Option ℕ) (activated : Finset ℕ) (id : ℕ) : Option ℕ :=
  if id ∈ activated then none else createdOn id

/-- **Each counter is the number of sessions in the map that were created on the channel and never
activated,** and none was ever counted down from zero. -/
def Accounted (s : Server) : Prop :=
  Counts s.unactivatedByChannel s.sessions (channelOf s.createdOn s.activated) ∧
    s.underflowed = false

/-- **A session that is counted down is in the map, and was not activated.** -/
def Timely (s : Server) : Op → Prop
  | .create _ _ locked => limits.maxSessions ≤ s.sessions.card →
      ∀ id heap, s.evictionLoop locked 0 s.unactivatedHeap = (some id, heap) → id ∉ s.activated
  | .commitActivate id resolver authentication => ∀ sessionId call session authentication' after,
      s.activating id = some (sessionId, call) → s.objects sessionId = some session →
      authentication = .ok authentication' →
      session.commitActivation info resolver call.channel call.request call.activation
        call.serverNonce authentication' = .ok after →
      call.activation.wasUnactivated → sessionId ∈ s.sessions
  | .finishClose id => ∀ call, s.closing id = some call → call.wasUnactivated →
      call.sessionId ∈ s.sessions ∧ call.sessionId ∉ s.activated
  | .expire id => ∀ session, s.get id = some session → session.isClosed → id ∉ s.activated
  | _ => True

/-- **No channel has more sessions in the map that were never activated than it may.** -/
def FewUnactivated (s : Server) : Prop := ∀ channel,
  tally s.sessions (channelOf s.createdOn s.activated) channel ≤
    limits.maxUnactivatedSessionsPerChannel

/-! ### The invariant -/

structure Registry (sessions : Finset ℕ) (objects : ℕ → Option Session)
    (createdOn : ℕ → Option ℕ) (activated : Finset ℕ)
    (authTokens actorSenders : NodeId → Option ℕ) :
    Prop where
  known : ∀ id ∈ sessions, objects id ≠ none
  blank : ∀ id, objects id = none → id ∉ activated ∧ createdOn id = none
  origin : ∀ id session, objects id = some session → id ∉ activated →
    session.userToken = none ∧ createdOn id = some session.secureChannelId
  user : ∀ id session, objects id = some session → id ∈ activated → session.userToken ≠ none
  registered : ∀ token id, authTokens token = some id → ∃ session, objects id = some session ∧
    session.isClosed = false ∧ session.authenticationToken = token
  senders : ∀ token id, actorSenders token = some id → authTokens token = some id

/-- What the calls of `activate_session` go on with: a call whose nonce is still that of the session
has read it as it is. -/
structure Activatings (objects : ℕ → Option Session) (activated : Finset ℕ)
    (activating : ℕ → Option (ℕ × ActivateCall)) (drawn : List ByteString) : Prop where
  current : ∀ id session, objects id = some session → session.sessionNonce ∈ drawn
  drawn : ∀ id sessionId call, activating id = some (sessionId, call) →
    call.serverNonce ∈ drawn ∧ call.activation.sessionNonce ∈ drawn
  ahead : ∀ id sessionId call other session, activating id = some (sessionId, call) →
    objects other = some session → call.serverNonce ≠ session.sessionNonce
  apart : ∀ i j (first second : ℕ × ActivateCall), i ≠ j → activating i = some first →
    activating j = some second → first.2.serverNonce ≠ second.2.serverNonce
  behind : ∀ i j (first second : ℕ × ActivateCall), activating i = some first →
    activating j = some second → first.2.serverNonce ≠ second.2.activation.sessionNonce
  snapshot : ∀ id sessionId call session, activating id = some (sessionId, call) →
    objects sessionId = some session → call.activation.wasUnactivated →
    session.sessionNonce = call.activation.sessionNonce →
    sessionId ∉ activated ∧ session.secureChannelId = call.activation.previousSecureChannelId
  listed : ∀ id sessionId call, activating id = some (sessionId, call) →
    call.activation.wasUnactivated = false → sessionId ∈ activated

structure Sound (s : Server) : Prop where
  accounted : s.Accounted
  room : s.sessions.card ≤ limits.maxSessions
  registry : Registry s.sessions s.objects s.createdOn s.activated s.authTokens s.actorSenders
  closings : ∀ id call, s.closing id = some call → call.Read s.createdOn s.activated
  activatings : Activatings s.objects s.activated s.activating s.drawn

theorem sound_start : Sound limits start where
  accounted := ⟨fun _ => rfl, rfl⟩
  room := Nat.zero_le _
  registry := {
    known := fun _ absurdly => nomatch absurdly
    blank := fun _ _ => ⟨Finset.notMem_empty _, rfl⟩
    origin := fun _ _ absurdly => nomatch absurdly
    user := fun _ _ absurdly => nomatch absurdly
    registered := fun _ _ absurdly => nomatch absurdly
    senders := fun _ _ absurdly => nomatch absurdly }
  closings := fun _ _ absurdly => nomatch absurdly
  activatings := {
    current := fun _ _ absurdly => nomatch absurdly
    drawn := fun _ _ _ absurdly => nomatch absurdly
    ahead := fun _ _ _ _ _ absurdly => nomatch absurdly
    apart := fun _ _ _ _ _ absurdly => nomatch absurdly
    behind := fun _ _ _ _ absurdly => nomatch absurdly
    snapshot := fun _ _ _ _ absurdly => nomatch absurdly
    listed := fun _ _ _ absurdly => nomatch absurdly }

/-! ### The sessions and the tokens -/

section Registry

variable {sessions : Finset ℕ} {objects : ℕ → Option Session} {createdOn : ℕ → Option ℕ}
  {activated : Finset ℕ} {authTokens actorSenders : NodeId → Option ℕ} {id : ℕ}
  {session : Session}

section

variable (registry : Registry sessions objects createdOn activated authTokens actorSenders)
include registry

theorem Registry.erase (id : ℕ) :
    Registry (sessions.erase id) objects createdOn activated authTokens actorSenders :=
  { registry with known := fun other member =>
    registry.known other (Finset.mem_of_mem_erase member) }

section

variable (here : objects id = some session)
include here

/-- A session that stays open under its token stays registered. -/
theorem Registry.kept {after : Session}
    (closed : after.isClosed = session.isClosed)
    (token : after.authenticationToken = session.authenticationToken) (key : NodeId) (other : ℕ)
    (found : authTokens key = some other) :
    ∃ session, update objects id (some after) other = some session ∧
      session.isClosed = false ∧ session.authenticationToken = key := by
  obtain ⟨old, was, opened, named⟩ := registry.registered key other found
  by_cases same : other = id
  · subst same
    rw [here] at was
    cases was
    exact ⟨after, update_self .., closed.trans opened, token.trans named⟩
  · exact ⟨old, (update_of_ne same ..).trans was, opened, named⟩

theorem Registry.setSession (after : Session)
    (user : after.userToken = session.userToken)
    (channel : after.secureChannelId = session.secureChannelId)
    (closed : after.isClosed = session.isClosed)
    (token : after.authenticationToken = session.authenticationToken) :
    Registry sessions (update objects id (some after)) createdOn activated authTokens
      actorSenders where
  known other member absent := registry.known other member (update_some_eq_none absent).2
  blank other absent := registry.blank other (update_some_eq_none absent).2
  origin := by
    refine forall_update_some ?_ registry.origin
    rw [user, channel]
    exact registry.origin id session here
  user := by
    refine forall_update_some ?_ registry.user
    rw [user]
    exact registry.user id session here
  registered := registry.kept here closed token
  senders := registry.senders

theorem Registry.shut :
    Registry sessions (update objects id (some session.close)) createdOn activated
      (update authTokens session.authenticationToken none)
      (update actorSenders session.authenticationToken none) where
  known other member absent := registry.known other member (update_some_eq_none absent).2
  blank other absent := registry.blank other (update_some_eq_none absent).2
  origin := forall_update_some (registry.origin id session here) registry.origin
  user := forall_update_some (registry.user id session here) registry.user
  registered key other found := by
    rcases update_eq_some found with ⟨_, absurdly⟩ | ⟨differs, kept⟩
    · cases absurdly
    · obtain ⟨old, was, opened, named⟩ := registry.registered key other kept
      by_cases same : other = id
      · subst same
        rw [here] at was
        cases was
        exact absurd named.symm differs
      · exact ⟨old, (update_of_ne same ..).trans was, opened, named⟩
  senders key other found := by
    rcases update_eq_some found with ⟨_, absurdly⟩ | ⟨differs, kept⟩
    · cases absurdly
    · rw [update_of_ne differs]
      exact registry.senders key other kept

end

theorem Registry.publish (fresh : objects id = none) (unused : session.userToken = none)
    (opened : session.isClosed = false) :
    Registry (insert id sessions) (update objects id (some session))
      (update createdOn id (some session.secureChannelId)) activated
      (update authTokens session.authenticationToken (some id))
      (update actorSenders session.authenticationToken (some id)) where
  known other member absent := by
    obtain ⟨differs, none⟩ := update_some_eq_none absent
    exact registry.known other (Finset.mem_of_mem_insert_of_ne member differs) none
  blank other absent := by
    obtain ⟨differs, none⟩ := update_some_eq_none absent
    rw [update_of_ne differs]
    exact registry.blank other none
  origin other found there unlisted := by
    rcases update_eq_some there with ⟨rfl, same⟩ | ⟨differs, kept⟩
    · cases same
      exact ⟨unused, update_self ..⟩
    · rw [update_of_ne differs]
      exact registry.origin other found kept unlisted
  user other found there member := by
    rcases update_eq_some there with ⟨rfl, _⟩ | ⟨_, kept⟩
    · exact absurd member (registry.blank other fresh).1
    · exact registry.user other found kept member
  registered key other found := by
    rcases update_eq_some found with ⟨rfl, same⟩ | ⟨_, kept⟩
    · cases same
      exact ⟨session, update_self .., opened, rfl⟩
    · obtain ⟨old, was, rest⟩ := registry.registered key other kept
      have differs : other ≠ id := by
        rintro rfl
        rw [fresh] at was
        cases was
      exact ⟨old, (update_of_ne differs ..).trans was, rest⟩
  senders key other found := by
    rcases update_eq_some found with ⟨rfl, same⟩ | ⟨differs, kept⟩
    · rw [update_self]
      exact same
    · rw [update_of_ne differs]
      exact registry.senders key other kept

theorem Registry.activate (here : objects id = some session) (after : Session)
    (user : after.userToken ≠ none) (closed : after.isClosed = session.isClosed)
    (token : after.authenticationToken = session.authenticationToken) :
    Registry sessions (update objects id (some after)) createdOn (insert id activated)
      authTokens actorSenders where
  known other member absent := registry.known other member (update_some_eq_none absent).2
  blank other absent := by
    obtain ⟨differs, none⟩ := update_some_eq_none absent
    obtain ⟨unlisted, nowhere⟩ := registry.blank other none
    exact ⟨fun member => unlisted (Finset.mem_of_mem_insert_of_ne member differs), nowhere⟩
  origin other found there unlisted := by
    rcases update_eq_some there with ⟨rfl, _⟩ | ⟨_, kept⟩
    · exact absurd (Finset.mem_insert_self other activated) unlisted
    · exact registry.origin other found kept fun member =>
        unlisted (Finset.mem_insert_of_mem member)
  user other found there member := by
    rcases update_eq_some there with ⟨rfl, same⟩ | ⟨differs, kept⟩
    · cases same
      exact user
    · exact registry.user other found kept (Finset.mem_of_mem_insert_of_ne member differs)
  registered := registry.kept here closed token
  senders := registry.senders

end

end Registry

/-! ### Calls of `activate_session` -/

section Activatings

variable {objects : ℕ → Option Session} {activated : Finset ℕ}
  {activating : ℕ → Option (ℕ × ActivateCall)} {drawn : List ByteString} {id sessionId : ℕ}
  {session : Session} {call : ActivateCall}

section

variable (calls : Activatings objects activated activating drawn)
include calls

theorem Activatings.setSession (here : objects sessionId = some session) (after : Session)
    (nonce : after.sessionNonce = session.sessionNonce)
    (channel : after.secureChannelId = session.secureChannelId) :
    Activatings (update objects sessionId (some after)) activated activating drawn where
  current := by
    refine forall_update_some ?_ calls.current
    rw [nonce]
    exact calls.current sessionId session here
  drawn := calls.drawn
  ahead id on call other found known := by
    refine forall_update_some ?_ (fun o s => calls.ahead id on call o s known) other found
    rw [nonce]
    exact calls.ahead id on call sessionId session known here
  apart := calls.apart
  behind := calls.behind
  snapshot id other call found known there := by
    rcases update_eq_some there with ⟨rfl, same⟩ | ⟨_, kept⟩
    · cases same
      rw [nonce, channel]
      exact calls.snapshot id other call session known here
    · exact calls.snapshot id other call found known kept
  listed := calls.listed

theorem Activatings.publish (fresh : session.sessionNonce ∉ drawn) :
    Activatings (update objects sessionId (some session)) activated activating
      (session.sessionNonce :: drawn) where
  current := forall_update_some mem_cons_self fun other found kept =>
    mem_cons_of_mem _ (calls.current other found kept)
  drawn id sessionId call known :=
    (calls.drawn id sessionId call known).imp (mem_cons_of_mem _) (mem_cons_of_mem _)
  ahead id on call other found known := by
    refine forall_update_some ?_ (fun o s => calls.ahead id on call o s known) other found
    exact fun again => fresh (again ▸ (calls.drawn id on call known).1)
  apart := calls.apart
  behind := calls.behind
  snapshot id other call found known there unactivated read := by
    rcases update_eq_some there with ⟨rfl, same⟩ | ⟨_, kept⟩
    · cases same
      exact absurd (read ▸ (calls.drawn id other call known).2) fresh
    · exact calls.snapshot id other call found known kept unactivated read
  listed := calls.listed

theorem Activatings.setCall
    (here : activating id = some (sessionId, call)) {later : Option (ℕ × ActivateCall)}
    (same : ∀ next, later = some next → next.1 = sessionId ∧
      next.2.activation = call.activation ∧ next.2.serverNonce = call.serverNonce) :
    Activatings objects activated (update activating id later) drawn := by
  -- A call that is there now was there before, but for being verified.
  have known : ∀ {other} {found : ℕ × ActivateCall},
      update activating id later other = some found →
      ∃ old, activating other = some (found.1, old) ∧ found.2.activation = old.activation ∧
        found.2.serverNonce = old.serverNonce := by
    intro other found there
    rcases update_eq_some there with ⟨rfl, set⟩ | ⟨_, kept⟩
    · obtain ⟨on, activation, nonce⟩ := same found set
      rw [on]
      exact ⟨call, here, activation, nonce⟩
    · exact ⟨found.2, kept, rfl, rfl⟩
  constructor
  · exact calls.current
  · intro other sessionId found there
    obtain ⟨old, was, activation, nonce⟩ := known there
    rw [activation, nonce]
    exact calls.drawn other _ old was
  · intro other sessionId found o session there
    obtain ⟨old, was, _, nonce⟩ := known there
    rw [nonce]
    exact calls.ahead other _ old o session was
  · intro i j first second differs there also
    obtain ⟨one, was, _, nonce⟩ := known there
    obtain ⟨two, were, _, nonce'⟩ := known also
    rw [nonce, nonce']
    exact calls.apart i j _ _ differs was were
  · intro i j first second there also
    obtain ⟨one, was, _, nonce⟩ := known there
    obtain ⟨two, were, read, _⟩ := known also
    rw [nonce, read]
    exact calls.behind i j _ _ was were
  · intro other sessionId found session there
    obtain ⟨old, was, activation, _⟩ := known there
    rw [activation]
    exact calls.snapshot other _ old session was
  · intro other sessionId found there
    obtain ⟨old, was, activation, _⟩ := known there
    rw [activation]
    exact calls.listed other _ old was

theorem Activatings.begun
    (call : ActivateCall) (fresh : call.serverNonce ∉ drawn)
    (here : objects sessionId = some session)
    (read : call.activation.sessionNonce = session.sessionNonce)
    (channel : call.activation.previousSecureChannelId = session.secureChannelId)
    (unactivated : call.activation.wasUnactivated = true ↔ sessionId ∉ activated) :
    Activatings objects activated (update activating id (some (sessionId, call)))
      (call.serverNonce :: drawn) := by
  have unlike : ∀ {nonce}, nonce ∈ drawn → nonce ≠ call.serverNonce := fun member same =>
    fresh (same ▸ member)
  have current : call.activation.sessionNonce ∈ drawn :=
    read.symm ▸ calls.current sessionId session here
  constructor
  · exact fun other found there => mem_cons_of_mem _ (calls.current other found there)
  · intro other _ found there
    rcases update_eq_some there with ⟨rfl, set⟩ | ⟨_, kept⟩
    · cases set
      exact ⟨mem_cons_self, mem_cons_of_mem _ current⟩
    · exact (calls.drawn other _ found kept).imp (mem_cons_of_mem _) (mem_cons_of_mem _)
  · intro other _ found o s there known
    rcases update_eq_some there with ⟨rfl, set⟩ | ⟨_, kept⟩
    · cases set
      exact (unlike (calls.current o s known)).symm
    · exact calls.ahead other _ found o s kept known
  · intro i j first second differs there also
    rcases update_eq_some there with ⟨rfl, set⟩ | ⟨_, kept⟩ <;>
      rcases update_eq_some also with ⟨rfl, set'⟩ | ⟨_, kept'⟩
    · exact absurd rfl differs
    · cases set
      exact (unlike (calls.drawn j _ _ kept').1).symm
    · cases set'
      exact unlike (calls.drawn i _ _ kept).1
    · exact calls.apart i j first second differs kept kept'
  · intro i j first second there also
    rcases update_eq_some there with ⟨rfl, set⟩ | ⟨_, kept⟩ <;>
      rcases update_eq_some also with ⟨rfl, set'⟩ | ⟨_, kept'⟩
    · cases set
      cases set'
      exact (unlike current).symm
    · cases set
      exact (unlike (calls.drawn j _ _ kept').2).symm
    · cases set'
      rw [read]
      exact calls.ahead i _ _ _ _ kept here
    · exact calls.behind i j first second kept kept'
  · intro other _ found s there known was same
    rcases update_eq_some there with ⟨rfl, set⟩ | ⟨_, kept⟩
    · cases set
      rw [here] at known
      cases known
      exact ⟨unactivated.mp was, channel.symm⟩
    · exact calls.snapshot other _ found s kept known was same
  · intro other _ found there was
    rcases update_eq_some there with ⟨rfl, set⟩ | ⟨_, kept⟩
    · cases set
      by_contra unlisted
      rw [unactivated.mpr unlisted] at was
      cases was
    · exact calls.listed other _ found kept was

theorem Activatings.committed (here : activating id = some (sessionId, call)) (after : Session)
    (nonce : after.sessionNonce = call.serverNonce) :
    Activatings (update objects sessionId (some after)) (insert sessionId activated)
      (update activating id none) drawn := by
  have others : ∀ {other} {found : ℕ × ActivateCall},
      update activating id none other = some found →
      other ≠ id ∧ activating other = some found := by
    intro other found there
    rcases update_eq_some there with ⟨_, absurdly⟩ | kept
    · cases absurdly
    · exact kept
  constructor
  · refine forall_update_some ?_ calls.current
    rw [nonce]
    exact (calls.drawn id _ call here).1
  · exact fun other _ found there => calls.drawn other _ found (others there).2
  · intro other s found o session there known
    obtain ⟨differs, kept⟩ := others there
    rcases update_eq_some known with ⟨rfl, same⟩ | ⟨_, was⟩
    · cases same
      rw [nonce]
      exact calls.apart other id _ _ differs kept here
    · exact calls.ahead other s found o session kept was
  · exact fun i j first second differs there also =>
      calls.apart i j first second differs (others there).2 (others also).2
  · exact fun i j first second there also =>
      calls.behind i j first second (others there).2 (others also).2
  · intro other s found session there known was same
    obtain ⟨_, kept⟩ := others there
    rcases update_eq_some known with ⟨rfl, set⟩ | ⟨differs, before⟩
    · cases set
      exact absurd (nonce.symm.trans same) (calls.behind id other _ _ here kept)
    · obtain ⟨unlisted, channel⟩ := calls.snapshot other s found session kept before was same
      exact ⟨fun member => unlisted (Finset.mem_of_mem_insert_of_ne member differs), channel⟩
  · exact fun other s found there was =>
      Finset.mem_insert_of_mem (calls.listed other s found (others there).2 was)

end
end Activatings

/-! ### Steps -/

section Steps

variable {limits : Limits} {info : ServerInfo} {s t : Server} {id : ℕ} {session : Session}

theorem get_eq_some : s.get id = some session ↔ id ∈ s.sessions ∧ s.objects id = some session := by
  unfold get
  split_ifs with member
  · simp [member]
  · simp [member]

theorem Sound.remove_countDown (sound : Sound limits s) (member : id ∈ s.sessions)
    (here : s.objects id = some session) (unlisted : id ∉ s.activated) :
    ((s.remove id).countDown session.secureChannelId).Accounted := by
  have channel : channelOf s.createdOn s.activated id = some session.secureChannelId := by
    rw [channelOf, if_neg unlisted]
    exact (sound.registry.origin id session here unlisted).2
  have less : ∀ j, tally (s.sessions.erase id) (channelOf s.createdOn s.activated) j +
      (if session.secureChannelId = j then 1 else 0) =
        tally s.sessions (channelOf s.createdOn s.activated) j := by
    intro j
    rw [← tally_erase member, channel]
    simp
  obtain ⟨exact', positive⟩ := sound.accounted.1.sub less
  refine ⟨exact', ?_⟩
  show (s.underflowed || decide (s.unactivatedByChannel session.secureChannelId = some 0)) = false
  rw [sound.accounted.2, decide_eq_false positive]
  rfl

theorem Sound.remove_activated (sound : Sound limits s) (member : id ∈ s.sessions)
    (listed : id ∈ s.activated) : (s.remove id).Accounted := by
  refine ⟨sound.accounted.1.congr fun j => ?_, sound.accounted.2⟩
  have unlabelled : channelOf s.createdOn s.activated id = none := if_pos listed
  rw [← tally_erase member, unlabelled, if_neg nofun]
  rfl

theorem Sound.expireSession (sound : Sound limits s)
    (timely : ∀ session, s.get id = some session → session.isClosed → id ∉ s.activated) :
    Sound limits (s.expireSession id) := by
  cases found : s.get id with
  | none =>
    unfold Server.expireSession
    rw [found]
    exact sound
  | some session =>
    obtain ⟨member, here⟩ := get_eq_some.mp found
    have registry := (sound.registry.erase id).shut here
    have activatings := sound.activatings.setSession here session.close rfl rfl
    have room := (Finset.card_erase_le (a := id)).trans sound.room
    unfold Server.expireSession
    rw [found]
    dsimp only
    by_cases listed : id ∈ s.activated
    · have opened : session.isClosed = false := by
        by_contra closed
        exact timely session found (by simpa using closed) listed
      have active : session.isActivated = true := by
        rw [Session.isActivated, opened,
          isSome_iff_ne_none.mpr (sound.registry.user id session here listed)]
        rfl
      rw [active]
      exact ⟨sound.remove_activated member listed, room, registry, sound.closings, activatings⟩
    · have inactive : session.isActivated = false := by
        rw [Session.isActivated, (sound.registry.origin id session here listed).1]
        rfl
      rw [inactive]
      exact ⟨sound.remove_countDown member here listed, room, registry, sound.closings, activatings⟩

variable {locked : ℕ → Bool}

theorem evictionLoop_eq_some {next : ℕ} {entries heap : List UnactivatedSessionEntry}
    (chosen : s.evictionLoop locked next entries = (some id, heap)) :
    ∃ session, s.get id = some session ∧ session.isActivated = false := by
  induction entries generalizing next with
  | nil => cases chosen
  | cons entry entries ih =>
    unfold evictionLoop at chosen
    split at chosen
    · exact ih chosen
    · rename_i session found
      split_ifs at chosen with busy active
      · exact ih chosen
      · exact ih chosen
      · cases chosen
        exact ⟨session, found, by simpa using active⟩

theorem evict_eq_expireSession (found : s.get id = some session)
    (inactive : session.isActivated = false) : s.evict id = s.expireSession id := by
  unfold evict expireSession
  rw [found]
  dsimp only
  rw [inactive]
  rfl

theorem expireSession_drawn : (s.expireSession id).drawn = s.drawn := by
  unfold expireSession
  split
  · rfl
  · dsimp only
    split_ifs <;> rfl

theorem expireSession_objects {other : ℕ} (absent : s.objects other = none) :
    (s.expireSession id).objects other = none := by
  unfold expireSession
  split
  · exact absent
  · rename_i session found
    have differs : other ≠ id := by
      rintro rfl
      rw [(get_eq_some.mp found).2] at absent
      cases absent
    have kept : update s.objects id (some session.close) other = none :=
      (update_of_ne differs ..).trans absent
    split_ifs <;> exact kept

theorem expireSession_card (found : s.get id = some session) :
    (s.expireSession id).sessions.card + 1 = s.sessions.card := by
  have erased : (s.expireSession id).sessions = s.sessions.erase id := by
    unfold expireSession
    rw [found]
    dsimp only
    split_ifs <;> rfl
  rw [erased]
  exact Finset.card_erase_add_one (get_eq_some.mp found).1

section

variable (sound : Sound limits s)
include sound

theorem Sound.makeRoom (timely : limits.maxSessions ≤ s.sessions.card →
      ∀ id heap, s.evictionLoop locked 0 s.unactivatedHeap = (some id, heap) → id ∉ s.activated) :
    Sound limits (s.makeRoom limits locked).1 ∧
      ((s.makeRoom limits locked).2 = true →
        (s.makeRoom limits locked).1.sessions.card < limits.maxSessions) ∧
      (s.makeRoom limits locked).1.drawn = s.drawn ∧
      ∀ id, s.objects id = none → (s.makeRoom limits locked).1.objects id = none := by
  unfold Server.makeRoom
  split_ifs with full
  · split
    · rename_i evicted heap chosen
      obtain ⟨session, found, inactive⟩ := evictionLoop_eq_some chosen
      have trimmed : Sound limits { s with unactivatedHeap := heap } :=
        ⟨sound.accounted, sound.room, sound.registry, sound.closings, sound.activatings⟩
      have found : get { s with unactivatedHeap := heap } evicted = some session := found
      rw [evict_eq_expireSession found inactive]
      have counted := expireSession_card found
      refine ⟨trimmed.expireSession fun _ _ _ => timely full evicted heap chosen, fun _ => ?_,
        expireSession_drawn, fun id absent => expireSession_objects absent⟩
      exact Nat.lt_of_succ_le (counted.trans_le sound.room)
    · exact ⟨⟨sound.accounted, sound.room, sound.registry, sound.closings, sound.activatings⟩,
        nofun,
        rfl, fun _ absent => absent⟩
  · exact ⟨sound, fun _ => Nat.lt_of_not_le full, rfl, fun _ absent => absent⟩

variable {draft : CreateSessionDraft}

theorem Sound.publish (room : s.sessions.card < limits.maxSessions)
    (fresh : s.objects draft.session.sessionId = none)
    (nonce : draft.session.sessionNonce ∉ s.drawn) : Sound limits (s.publish limits draft) := by
  obtain ⟨unused, opened, _⟩ := draft.unused
  obtain ⟨unlisted, nowhere⟩ := sound.registry.blank _ fresh
  have new : draft.session.sessionId ∉ s.sessions :=
    fun member => sound.registry.known _ member fresh
  have registry := sound.registry.publish fresh unused opened
  rw [draft.bound] at registry
  refine ⟨⟨?_, sound.accounted.2⟩, ?_, registry, ?_, sound.activatings.publish nonce⟩
  · refine sound.accounted.1.add (fun j => ?_) ?_
    · show tally (insert draft.session.sessionId s.sessions) (channelOf (update s.createdOn
        draft.session.sessionId (some draft.secureChannelId)) s.activated) j = _
      rw [tally_insert new, channelOf, if_neg unlisted, update_self]
      simp only [some.injEq]
      congr 1
      refine tally_congr fun other member => ?_
      have differs : other ≠ draft.session.sessionId := fun same => new (same ▸ member)
      rw [channelOf, channelOf, update_of_ne differs]
    · have counted : tally s.sessions (channelOf s.createdOn s.activated) draft.secureChannelId ≤
          s.sessions.card := tally_le_card
      have := limits.addressable
      omega
  · show (insert draft.session.sessionId s.sessions).card ≤ _
    rw [Finset.card_insert_of_notMem new]
    exact room
  · intro other call there
    have read := sound.closings other call there
    unfold CloseCall.Read at read ⊢
    split_ifs at read ⊢
    · have differs : call.sessionId ≠ draft.session.sessionId := by
        intro same
        rw [same, nowhere] at read
        cases read
      exact (update_of_ne differs ..).trans read
    · exact read

theorem Sound.commitCreateSessionDraft
    {channelId : ℕ} (timely : Timely limits info s (.create draft channelId locked))
    (fresh : s.objects draft.session.sessionId = none)
    (nonce : draft.session.sessionNonce ∉ s.drawn) :
    Sound limits (s.commitCreateSessionDraft limits draft channelId locked).1 := by
  obtain ⟨made, room, drawn, absent⟩ := sound.makeRoom timely
  unfold Server.commitCreateSessionDraft
  generalize s.makeRoom limits locked = result at made room drawn absent
  obtain ⟨t, enough⟩ := result
  have counted : Sound limits (t.counted draft.secureChannelId) :=
    ⟨⟨made.accounted.1.touched, made.accounted.2⟩, made.room, made.registry, made.closings,
      made.activatings⟩
  cases enough with
  | false => exact made
  | true =>
    dsimp only
    split_ifs
    · exact counted
    · exact counted
    · exact counted.publish (room rfl) (absent _ fresh) (drawn ▸ nonce)

theorem Sound.noted (here : s.objects id = some session) (now : ℕ) :
    Sound limits (s.setSession id (session.validateTimedOut now).1) :=
  ⟨sound.accounted, sound.room, sound.registry.setSession here _ rfl rfl rfl rfl, sound.closings,
    sound.activatings.setSession here _ rfl rfl⟩

end

variable {sessionId : ℕ} {call : ActivateCall} {closed : CloseCall} {token : NodeId}

section

variable (sound : Sound limits s)
include sound

theorem Sound.setActivating
    (here : s.activating id = some (sessionId, call)) {later : Option (ℕ × ActivateCall)}
    (same : ∀ next, later = some next → next.1 = sessionId ∧
      next.2.activation = call.activation ∧ next.2.serverNonce = call.serverNonce) :
    Sound limits (s.setActivating id later) :=
  ⟨sound.accounted, sound.room, sound.registry, sound.closings, sound.activatings.setCall here same⟩

theorem Sound.isActivated_iff (found : s.authTokens token = some id)
    (here : s.objects id = some session) : session.isActivated = true ↔ id ∈ s.activated := by
  obtain ⟨old, there, opened, _⟩ := sound.registry.registered token id found
  rw [here] at there
  cases there
  unfold Session.isActivated
  rw [opened]
  constructor
  · intro active
    by_contra unlisted
    rw [(sound.registry.origin id session here unlisted).1] at active
    cases active
  · intro listed
    rw [isSome_iff_ne_none.mpr (sound.registry.user id session here listed)]
    rfl

theorem Sound.checkActivate (found : s.authTokens token = some sessionId)
    (here : s.objects sessionId = some session) {channel : Channel}
    {request : ActivateSessionRequest}
    {serverNonce : ByteString} (fresh : serverNonce ∉ s.drawn) :
    Sound limits (s.checkActivate info id sessionId session channel request serverNonce) := by
  have noted := sound.noted here s.now
  unfold Server.checkActivate
  dsimp only
  split
  · exact noted
  · split
    · exact noted
    · rename_i activation checked
      obtain ⟨read, previous, unactivated, _⟩ := checkActivation_eq_ok checked
      have active : activation.wasUnactivated = true ↔ sessionId ∉ s.activated := by
        rw [unactivated, ← sound.isActivated_iff found here]
        show (!session.isActivated) = true ↔ _
        simp
      exact ⟨noted.accounted, noted.room, noted.registry, noted.closings,
        noted.activatings.begun ⟨channel, request, activation, serverNonce, false⟩ fresh
          (update_self ..) read previous active⟩

theorem Sound.activate (called : s.activating id = some (sessionId, call))
    (here : s.objects sessionId = some session) {resolver : RoleResolver}
    {authentication : Authentication} {after : Session}
    (committed : session.commitActivation info resolver call.channel call.request call.activation
      call.serverNonce authentication = .ok after)
    (timely : call.activation.wasUnactivated → sessionId ∈ s.sessions) :
    Sound limits ((s.activate sessionId call.activation after).setActivating id none) := by
  obtain ⟨nonce, _, _, roles, rfl⟩ := commitActivation_eq_ok committed
  have registry := sound.registry.activate here (session.activate call.channel.secureChannelId
    call.serverNonce call.request.userIdentityToken (requestedLocaleIds call.request session)
    authentication.userToken authentication.claims roles) nofun rfl rfl
  have activatings := sound.activatings.committed called (session.activate
    call.channel.secureChannelId call.serverNonce call.request.userIdentityToken
    (requestedLocaleIds call.request session) authentication.userToken authentication.claims roles)
      rfl
  have closings : ∀ other call, s.closing other = some call →
      call.Read s.createdOn (insert sessionId s.activated) := by
    intro other call there
    have read := sound.closings other call there
    unfold CloseCall.Read at read ⊢
    split_ifs at read ⊢
    · exact read
    · exact Finset.mem_insert_of_mem read
  unfold Server.activate
  have gone : channelOf s.createdOn (insert sessionId s.activated) sessionId = none :=
    if_pos (Finset.mem_insert_self ..)
  have others : ∀ other, other ≠ sessionId →
    channelOf s.createdOn (insert sessionId s.activated) other =
      channelOf s.createdOn s.activated other := by
    intro other differs
    simp [channelOf, differs]
  split_ifs with was
  · obtain ⟨unlisted, channel⟩ :=
      sound.activatings.snapshot id sessionId call session called here was
      nonce
    have counted : channelOf s.createdOn s.activated sessionId =
        some call.activation.previousSecureChannelId := by
      rw [channelOf, if_neg unlisted, ← channel]
      exact (sound.registry.origin sessionId session here unlisted).2
    have less : ∀ j, tally s.sessions (channelOf s.createdOn (insert sessionId s.activated)) j +
        (if call.activation.previousSecureChannelId = j then 1 else 0) =
          tally s.sessions (channelOf s.createdOn s.activated) j := by
      intro j
      rw [← tally_unlabel (timely was) gone others, counted]
      simp
    obtain ⟨exact', positive⟩ := sound.accounted.1.sub less
    refine ⟨⟨exact', ?_⟩, sound.room, registry, closings, activatings⟩
    show (s.underflowed ||
      decide (s.unactivatedByChannel call.activation.previousSecureChannelId = some 0)) = false
    rw [sound.accounted.2, decide_eq_false positive]
    rfl
  · -- A session that was activated before is not counted.
    refine ⟨⟨sound.accounted.1.congr fun j => ?_, sound.accounted.2⟩, sound.room, registry,
      closings, activatings⟩
    have listed := sound.activatings.listed id sessionId call called (by simpa using was)
    show tally s.sessions (channelOf s.createdOn (insert sessionId s.activated)) j = _
    rw [Finset.insert_eq_of_mem listed]

theorem Sound.setClosing {later : Option CloseCall}
    (known : ∀ next, later = some next → next.Read s.createdOn s.activated) :
    Sound limits (s.setClosing id later) := by
  refine ⟨sound.accounted, sound.room, sound.registry, fun other call there => ?_,
    sound.activatings⟩
  rcases update_eq_some there with ⟨_, set⟩ | ⟨_, kept⟩
  · exact known call set
  · exact sound.closings other call kept

theorem Sound.checkClose {channelId : ℕ}
    (checked : s.checkClose token channelId = .ok closed) :
    closed.Read s.createdOn s.activated := by
  unfold Server.checkClose at checked
  split at checked
  · cases checked
  · rename_i session found
    obtain ⟨id, named, here⟩ := bind_eq_some_iff.mp found
    obtain ⟨old, there, _, named'⟩ := sound.registry.registered token id named
    rw [here] at there
    cases there
    have activated := sound.isActivated_iff named here
    dsimp only at checked
    split_ifs at checked
    split at checked
    · cases checked
    · rename_i actor sender
      cases checked
      have same := sound.registry.senders _ _ sender
      rw [named', named] at same
      cases same
      unfold CloseCall.Read
      by_cases active : session.isActivated
      · rw [active]
        exact activated.mp active
      · rw [if_pos (by simpa using active)]
        exact (sound.registry.origin id session here fun listed => active (activated.mpr listed)).2

theorem Sound.terminate (called : s.closing id = some closed)
    (here : s.objects closed.sessionId = some session) :
    Sound limits (s.terminate id closed session) := by
  have shut : Sound limits
      ({ s with actors := s.actors.erase closed.sessionId }.shut closed.sessionId session) :=
    ⟨sound.accounted, sound.room, sound.registry.shut here, sound.closings,
      sound.activatings.setSession here session.close rfl rfl⟩
  refine shut.setClosing fun next same => ?_
  cases same
  exact sound.closings id closed called

theorem Sound.finishClose (called : s.closing id = some closed)
    (timely : closed.wasUnactivated →
      closed.sessionId ∈ s.sessions ∧ closed.sessionId ∉ s.activated) :
    Sound limits (s.finishClose id closed) := by
  have registry := sound.registry.erase closed.sessionId
  have room : (s.sessions.erase closed.sessionId).card ≤ limits.maxSessions :=
    Finset.card_erase_le.trans sound.room
  have read := sound.closings id closed called
  unfold CloseCall.Read at read
  unfold Server.finishClose
  split_ifs at read ⊢ with was
  · obtain ⟨member, unlisted⟩ := timely was
    obtain ⟨session, here⟩ := ne_none_iff_exists'.mp (sound.registry.known _ member)
    have channel := (sound.registry.origin _ session here unlisted).2
    rw [read, some.injEq] at channel
    rw [channel]
    have removed : Sound limits ((s.remove closed.sessionId).countDown session.secureChannelId) :=
      ⟨sound.remove_countDown member here unlisted, room, registry, sound.closings,
        sound.activatings⟩
    exact removed.setClosing fun next absurdly => nomatch absurdly
  · by_cases member : closed.sessionId ∈ s.sessions
    · have removed : Sound limits (s.remove closed.sessionId) :=
        ⟨sound.remove_activated member read, room, registry, sound.closings, sound.activatings⟩
      exact removed.setClosing fun next absurdly => nomatch absurdly
    · have same : s.remove closed.sessionId = s := by
        unfold remove
        rw [Finset.erase_eq_of_notMem member]
      rw [same]
      exact sound.setClosing fun next absurdly => nomatch absurdly

theorem Sound.step {op : Op} (timely : Timely limits info s op)
    (stepped : (machine limits info).step s op = some t) : Sound limits t := by
  cases op <;> simp only [machine] at stepped
  case create draft channelId locked =>
    split_ifs at stepped with fresh
    cases stepped
    exact sound.commitCreateSessionDraft timely (isNone_iff_eq_none.mp fresh.1) fresh.2.1
  case request token =>
    split at stepped
    · cases stepped
      exact sound
    · obtain ⟨session, here, rfl⟩ := map_eq_some_iff.mp stepped
      exact sound.noted here s.now
  case checkActivate id token channel request serverNonce =>
    split_ifs at stepped with fresh
    split at stepped
    · cases stepped
      exact sound
    · rename_i found
      obtain ⟨session, here, rfl⟩ := map_eq_some_iff.mp stepped
      exact sound.checkActivate found here fresh.2
  case verifyActivate id =>
    split at stepped
    · rename_i called
      split_ifs at stepped
      cases stepped
      unfold verifyActivate
      split
      · exact sound.setActivating called fun _ absurdly => nomatch absurdly
      · refine sound.setActivating called fun next same => ?_
        cases same
        exact ⟨rfl, rfl, rfl⟩
    · cases stepped
  case commitActivate id resolver authentication =>
    split at stepped
    · rename_i called
      split_ifs at stepped
      obtain ⟨session, here, rfl⟩ := map_eq_some_iff.mp stepped
      unfold commitActivate
      split
      · exact sound.setActivating called fun _ absurdly => nomatch absurdly
      · split
        · exact sound.setActivating called fun _ absurdly => nomatch absurdly
        · rename_i after committed
          exact sound.activate called here committed
            (timely _ _ _ _ after called here rfl committed)
    · cases stepped
  case checkClose id token channelId =>
    split_ifs at stepped
    split at stepped
    · cases stepped
      exact sound
    · rename_i checked
      cases stepped
      refine sound.setClosing fun next same => ?_
      cases same
      exact sound.checkClose checked
  case terminate id =>
    split at stepped
    · rename_i called
      split_ifs at stepped
      obtain ⟨session, here, rfl⟩ := map_eq_some_iff.mp stepped
      exact sound.terminate called here
    · cases stepped
  case failClose id =>
    split at stepped
    · split_ifs at stepped
      cases stepped
      exact sound.setClosing fun next absurdly => nomatch absurdly
    · cases stepped
  case finishClose id =>
    split at stepped
    · rename_i called
      split_ifs at stepped
      cases stepped
      exact sound.finishClose called (timely _ called)
    · cases stepped
  case expire id =>
    cases stepped
    exact sound.expireSession timely
  case check | wait =>
    cases stepped
    exact ⟨sound.accounted, sound.room, sound.registry, sound.closings, sound.activatings⟩

end

/-! ### The limits -/

/-- No session more, and none that is no longer activated. -/
def Shrinks (s t : Server) : Prop :=
  t.sessions ⊆ s.sessions ∧ t.createdOn = s.createdOn ∧ s.activated ⊆ t.activated

theorem Shrinks.tally_le (shrinks : Shrinks s t) (channel : ℕ) :
    tally t.sessions (channelOf t.createdOn t.activated) channel ≤
      tally s.sessions (channelOf s.createdOn s.activated) channel := by
  obtain ⟨fewer, same, listed⟩ := shrinks
  refine Finset.card_le_card fun other member => ?_
  obtain ⟨there, labelled⟩ := Finset.mem_filter.mp member
  refine Finset.mem_filter.mpr ⟨fewer there, ?_⟩
  unfold channelOf at labelled ⊢
  split_ifs at labelled with after
  rw [if_neg fun before => after (listed before), ← same]
  exact labelled

theorem makeRoom_shrinks : Shrinks s (s.makeRoom limits locked).1 ∧
    (s.sessions.card ≤ limits.maxSessions → (s.makeRoom limits locked).2 = true →
      (s.makeRoom limits locked).1.sessions.card < limits.maxSessions) := by
  unfold makeRoom
  split_ifs with full
  · split
    · rename_i evicted heap chosen
      obtain ⟨session, found, inactive⟩ := evictionLoop_eq_some chosen
      have found : get { s with unactivatedHeap := heap } evicted = some session := found
      rw [evict_eq_expireSession found inactive]
      refine ⟨?_, fun room _ => Nat.lt_of_succ_le ((expireSession_card found).trans_le room)⟩
      unfold expireSession
      rw [found]
      dsimp only
      split_ifs <;> exact ⟨Finset.erase_subset .., rfl, subset_rfl⟩
    · exact ⟨⟨subset_rfl, rfl, subset_rfl⟩, fun _ => nofun⟩
  · exact ⟨⟨subset_rfl, rfl, subset_rfl⟩, fun _ _ => Nat.lt_of_not_le full⟩

/-- Only a session that is published is one more, and there is room for it. -/
theorem step_cases {op : Op} (stepped : (machine limits info).step s op = some t) :
    Shrinks s t ∨ ∃ draft channelId locked u, op = .create draft channelId locked ∧
      s.makeRoom limits locked = (u, true) ∧ (u.unactivatedByChannel draft.secureChannelId).getD 0 <
        limits.maxUnactivatedSessionsPerChannel ∧
      t = (u.counted draft.secureChannelId).publish limits draft := by
  cases op <;> simp only [machine] at stepped
  case create draft channelId locked =>
    obtain ⟨shrinks, -⟩ := @makeRoom_shrinks limits s locked
    split_ifs at stepped
    cases stepped
    unfold commitCreateSessionDraft
    split <;> rename_i u made <;> rw [made] at shrinks
    · exact .inl shrinks
    · split_ifs with full
      · exact .inl shrinks
      · exact .inl shrinks
      · exact .inr ⟨draft, channelId, locked, u, rfl, made, Nat.lt_of_not_le full, rfl⟩
  all_goals
    left
    grind [Shrinks, map_eq_some_iff, cases Except, setSession, checkActivate, verifyActivate,
      commitActivate, activate, countDown, setActivating, setClosing, terminate, shut, finishClose,
      remove, expireSession, checkSessionExpiry]

theorem step_card_le {op : Op} (room : s.sessions.card ≤ limits.maxSessions)
    (stepped : (machine limits info).step s op = some t) :
    t.sessions.card ≤ limits.maxSessions := by
  obtain shrinks | ⟨draft, _, locked, u, -, made, -, rfl⟩ := step_cases stepped
  · exact (Finset.card_le_card shrinks.1).trans room
  · have enough := (@makeRoom_shrinks limits s locked).2 room
    rw [made] at enough
    exact (Finset.card_insert_le ..).trans (enough rfl)

theorem FewUnactivated.step {op : Op} (few : s.FewUnactivated limits) (sound : Sound limits s)
    (timely : Timely limits info s op) (stepped : (machine limits info).step s op = some t) :
    t.FewUnactivated limits := by
  intro channel
  obtain shrinks | ⟨draft, _, locked, u, rfl, made, less, rfl⟩ := step_cases stepped
  · exact (shrinks.tally_le channel).trans (few channel)
  · -- The counter of the channel is what was compared, and the other counters stay.
    rw [← (sound.step timely stepped).accounted.1 channel]
    have before := (sound.makeRoom timely).1.accounted.1 channel
    have fewer := (@makeRoom_shrinks limits s locked).1.tally_le channel
    rw [made] at before fewer
    show (fetchAdd (update _ _ _) draft.secureChannelId channel).getD 0 ≤ _
    unfold fetchAdd
    by_cases here : channel = draft.secureChannelId
    · subst here
      rw [update_self, update_self, getD_some, getD_some]
      exact (Nat.mod_le ..).trans less
    · rw [update_of_ne here, update_of_ne here, before]
      exact fewer.trans (few channel)

end Steps

/-- **Accounting is exact in every timely run:** each counter is the number of sessions in the map
that were created on its channel and never activated, and none is counted down below zero. -/
theorem accounted_of_timely (limits : Limits) (info : ServerInfo) {ops : List Op} {s : Server}
    (timely : (machine limits info).Guarded (Timely limits info) start ops)
    (ran : (machine limits info).run start ops = some s) : s.Accounted :=
  Sound.accounted <| (machine limits info).run_invariant_of_guarded
    (fun _ _ _ sound meets stepped => Sound.step sound meets stepped)
    (sound_start limits) timely ran

/-- **The limits are kept:** the map never holds more sessions than the server allows and, as long
as none is counted down twice, never more that were created on one channel and not activated than it
allows for a channel. -/
theorem limits_kept (limits : Limits) (info : ServerInfo) {ops : List Op} {s : Server}
    (ran : (machine limits info).run start ops = some s) :
    s.sessions.card ≤ limits.maxSessions ∧
      ((machine limits info).Guarded (Timely limits info) start ops → s.FewUnactivated limits) := by
  refine ⟨(machine limits info).run_invariant (fun _ _ _ => step_card_le) (Nat.zero_le _) ran,
    fun timely => ?_⟩
  let Kept (s : Server) := Sound limits s ∧ s.FewUnactivated limits
  have kept : Kept s := (machine limits info).run_invariant_of_guarded
    (fun _ _ _ kept meets stepped => ⟨kept.1.step meets stepped, kept.2.step kept.1 meets stepped⟩)
    ⟨sound_start limits, fun _ => Nat.zero_le _⟩ timely ran
  exact kept.2

open Activations (openSession openChannel openServer)

/-- A session that is ready to be published on channel 7. -/
def openDraft : CreateSessionDraft := ⟨openSession, 7, rfl, rfl, rfl, rfl⟩

def smallLimits : Limits := ⟨10, 5, 100, 1000, by decide⟩

/-- A session is created and activated, a call of `close_session` before that fails. -/
def activatedOnce : List Op :=
  [.create openDraft 7 fun _ => false, .checkClose 0 openSession.authenticationToken 8,
    .checkActivate 0 openSession.authenticationToken openChannel ⟨[], none, .anonymous, none⟩
      (some [2]), .verifyActivate 0, .commitActivate 0 .default (.ok ⟨"", none⟩)]

theorem activatedOnce_timely : (machine smallLimits openServer).Guarded
    (Timely smallLimits openServer) start activatedOnce := by
  refine .cons _ rfl (fun full => absurd full (by decide)) ?_
  refine .cons _ rfl trivial (.cons _ rfl trivial (.cons _ rfl trivial (.cons _ rfl ?_ trivial)))
  intro sessionId call session authentication after called _ _ _ _
  cases called
  exact Finset.mem_insert_self ..

theorem activatedOnce_accounted : ∃ s,
    (machine smallLimits openServer).run start activatedOnce = some s ∧ s.sessions = {1} ∧
      s.unactivatedByChannel 7 = some 0 ∧ s.Accounted :=
  ⟨_, rfl, rfl, rfl, accounted_of_timely smallLimits openServer activatedOnce_timely rfl⟩

theorem limits_kept_activatedOnce : ∃ s,
    (machine smallLimits openServer).run start activatedOnce = some s ∧ s.sessions.card ≤ 10 ∧
      s.FewUnactivated smallLimits := by
  obtain ⟨s, ran⟩ : ∃ s, (machine smallLimits openServer).run start activatedOnce = some s :=
    ⟨_, rfl⟩
  obtain ⟨card, few⟩ := limits_kept smallLimits openServer ran
  exact ⟨s, ran, card, few activatedOnce_timely⟩

def closedExpired : List Op :=
  [.create openDraft 7 fun _ => false, .checkClose 0 openSession.authenticationToken 7,
    .terminate 0,
    .expire 1, .finishClose 0]

/-- **A session is counted down twice:** the counter of its channel wraps. -/
theorem closed_expired_wraps :
    ¬ ∀ (limits : Limits) (info : ServerInfo) (ops : List Op) (s : Server),
      (machine limits info).run start ops = some s → s.Quiescent → s.Accounted := by
  intro always
  have wrapped := (always smallLimits openServer closedExpired _ rfl fun id => ⟨rfl, ?_⟩).2
  · cases wrapped
  · by_cases here : id = 0
    · subst here
      rfl
    · exact (update_of_ne here ..).trans
        ((update_of_ne here ..).trans (update_of_ne here ..))

end Server

end AsyncOpcua.Sessions
