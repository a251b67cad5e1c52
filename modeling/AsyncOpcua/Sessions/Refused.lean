/-
**What refused requests leave behind.**

* `refused_unchanged_iff` — when a refused CreateSession changes nothing;
* `staysTimedOut_iff` — when a session stays timed out after a request that came too late.
-/

import AsyncOpcua.Sessions.Expiry

namespace AsyncOpcua.Sessions

open Types Foundation List Server

/-! ### Refused sessions -/

structure SessionManager extends Server where
  closedAuthTokens : NodeId → Option ℕ

namespace SessionManager

variable (limits : Limits) (s : SessionManager) (locked : ℕ → Bool)

/-- The session that makes room for another one. -/
def evicted : Option Session :=
  if limits.maxSessions ≤ s.sessions.card then
    (s.evictionLoop locked 0 s.unactivatedHeap).1.bind s.get
  else none

def commitCreateSessionDraft (draft : CreateSessionDraft) (channelId : ℕ) :
    SessionManager × Except StatusCode Unit :=
  let (server, result) := s.toServer.commitCreateSessionDraft limits draft channelId locked
  let closedAuthTokens :=
    match s.evicted limits locked with
    | some evicted => Function.update s.closedAuthTokens evicted.authenticationToken (some s.now)
    | none => s.closedAuthTokens
  (⟨server, closedAuthTokens⟩, result)

structure SameRegisters (t : SessionManager) : Prop where
  sessions : t.sessions = s.sessions
  authTokens : t.authTokens = s.authTokens
  actorSenders : t.actorSenders = s.actorSenders
  closedAuthTokens : t.closedAuthTokens = s.closedAuthTokens
  counters : t.unactivatedByChannel = s.unactivatedByChannel

def Evictable (heap : List UnactivatedSessionEntry) (next : ℕ) : Prop :=
  ∃ k entry session, heap[k]? = some entry ∧ s.get entry.sessionId = some session ∧
    locked (next + k) = false ∧ session.isActivated = false

variable {limits s locked}

theorem evictionLoop_eq_none_iff {heap : List UnactivatedSessionEntry} {next : ℕ} :
    (s.evictionLoop locked next heap).1 = none ↔ ¬ s.Evictable locked heap next := by
  induction heap generalizing next with
  | nil => exact iff_of_true rfl fun ⟨_, _, _, there, _⟩ => by cases there
  | cons entry heap ih =>
    have later : s.Evictable locked (entry :: heap) next ↔
        (∃ session, s.get entry.sessionId = some session ∧ locked next = false ∧
          session.isActivated = false) ∨ s.Evictable locked heap (next + 1) := by
      constructor
      · rintro ⟨_ | k, first, session, there, found, free, inactive⟩
        · cases there
          exact Or.inl ⟨session, found, free, inactive⟩
        · exact Or.inr ⟨k, first, session, there, found, by rwa [Nat.add_assoc, Nat.add_comm 1],
            inactive⟩
      · rintro (⟨session, found, free, inactive⟩ | ⟨k, first, session, there, found, free,
          inactive⟩)
        · exact ⟨0, entry, session, rfl, found, free, inactive⟩
        · exact ⟨k + 1, first, session, there, found, by rwa [Nat.add_comm k, ← Nat.add_assoc],
            inactive⟩
    rw [later, evictionLoop]
    cases found : s.get entry.sessionId with
    | none => simp [ih]
    | some session =>
      cases busy : locked next with
      | true => simpa [busy] using ih
      | false =>
        cases active : session.isActivated with
        | true => simpa [active] using ih
        | false => simp [active]

theorem evict_sessions {s : Server} {id : ℕ} {session : Session} (found : s.get id = some session) :
    (s.evict id).sessions = s.sessions.erase id := by
  rw [evict, found]
  rfl

/-- A refused call makes room, and enters a counter unless there is none. -/
theorem refused_cases {draft : CreateSessionDraft} {channelId : ℕ} {status : StatusCode}
    (refused : (s.commitCreateSessionDraft limits locked draft channelId).2 = .error status) :
    (s.commitCreateSessionDraft limits locked draft channelId).1.toServer =
      if (s.makeRoom limits locked).2 then
        (s.makeRoom limits locked).1.counted draft.secureChannelId
      else (s.makeRoom limits locked).1 := by
  revert refused
  simp only [commitCreateSessionDraft, Server.commitCreateSessionDraft]
  rcases s.makeRoom limits locked with ⟨t, _ | _⟩
  · exact fun _ => rfl
  · by_cases limited : limits.maxUnactivatedSessionsPerChannel ≤
        (t.unactivatedByChannel draft.secureChannelId).getD 0
    · simp [limited]
    · by_cases stale : channelId = draft.secureChannelId <;> simp [limited, stale]

end SessionManager

open SessionManager

theorem refused_unchanged_iff {limits : Limits} {s : SessionManager} {locked : ℕ → Bool}
    {draft : CreateSessionDraft} {channelId : ℕ} {status : StatusCode}
    (refused : (s.commitCreateSessionDraft limits locked draft channelId).2 = .error status) :
    s.SameRegisters (s.commitCreateSessionDraft limits locked draft channelId).1 ↔
      if limits.maxSessions ≤ s.sessions.card then ¬ s.Evictable locked s.unactivatedHeap 0
      else (s.unactivatedByChannel draft.secureChannelId).isSome := by
  have after := refused_cases refused
  have closed : (s.commitCreateSessionDraft limits locked draft channelId).1.closedAuthTokens =
      match s.evicted limits locked with
      | some evicted => Function.update s.closedAuthTokens evicted.authenticationToken (some s.now)
      | none => s.closedAuthTokens := rfl
  split_ifs with full
  · rw [← evictionLoop_eq_none_iff]
    rw [makeRoom, if_pos full] at after
    rw [evicted, if_pos full] at closed
    rcases loop : s.evictionLoop locked 0 s.unactivatedHeap with ⟨_ | id, heap⟩
    · rw [loop] at after closed
      refine iff_of_true ⟨?_, ?_, ?_, closed, ?_⟩ rfl
      all_goals rw [after]; rfl
    · refine iff_of_false (fun same => ?_) (by simp)
      obtain ⟨session, found, -⟩ := evictionLoop_eq_some loop
      have there : id ∈ s.sessions := (get_eq_some.mp found).1
      have gone := same.sessions
      rw [after, loop] at gone
      have erased : s.sessions.erase id = s.sessions :=
        (evict_sessions (s := { s.toServer with unactivatedHeap := heap }) found).symm.trans gone
      exact Finset.notMem_erase id s.sessions (erased.symm ▸ there)
  · rw [makeRoom, if_neg full] at after
    rw [evicted, if_neg full] at closed
    constructor
    · intro same
      have counters := congrFun same.counters draft.secureChannelId
      rw [after] at counters
      rw [← counters]
      simp [Server.counted]
    · intro there
      obtain ⟨count, there⟩ := Option.isSome_iff_exists.mp there
      refine ⟨?_, ?_, ?_, closed, ?_⟩
      all_goals rw [after]
      · rfl
      · rfl
      · rfl
      · show Function.update _ _ _ = _
        rw [there]
        exact Function.update_eq_self_iff.mpr there.symm

def oneSession : Limits := ⟨1, 5, 100, 1000, by decide⟩

/-- One session, created on channel 7, where there is room for no other one. -/
def fullManager : SessionManager :=
  ⟨(start.commitCreateSessionDraft oneSession openDraft 7
    fun _ => false).1, fun _ => none⟩

theorem refused_unchanged_iff_locked :
    fullManager.SameRegisters (fullManager.commitCreateSessionDraft oneSession
      (fun _ => true) openDraft 7).1 := by
  have refused : (fullManager.commitCreateSessionDraft oneSession
    (fun _ => true) openDraft 7).2 = .error StatusCode.BadTooManySessions := rfl
  refine (refused_unchanged_iff refused).mpr ?_
  rw [if_pos (by decide)]
  rintro ⟨k, entry, session, -, -, free, -⟩
  cases free

/-- A session of time 1 that is ready to be published on channel 8. -/
def draftOnEight (sessionId : UInt32) : CreateSessionDraft :=
  ⟨{ Activations.openSession with
      sessionId := sessionId.toNat, authenticationToken := ⟨0, .numeric sessionId⟩
      secureChannelId := 8, createdAt := 1 }, 8, rfl, rfl, rfl, rfl⟩

def twoSessions : Limits := ⟨2, 1, 100, 1000, by decide⟩

/-- Two sessions, created on the channels 7 and 8, each the only one that its channel may have. -/
def twoChannels : SessionManager :=
  let first := (start.commitCreateSessionDraft twoSessions openDraft 7 fun _ => false).1
  ⟨({ first with now := 1 }.commitCreateSessionDraft twoSessions (draftOnEight 2) 8
    fun _ => false).1,
    fun _ => none⟩

/-- **A draft that is one too many for its channel evicts a session of another** before it is
refused. -/
theorem refused_evicts : ¬ ∀ (limits : Limits) (s : SessionManager) (locked : ℕ → Bool)
    (draft : CreateSessionDraft) (channelId : ℕ) (status : StatusCode),
    (s.commitCreateSessionDraft limits locked draft channelId).2 = .error status →
      s.SameRegisters (s.commitCreateSessionDraft limits locked draft channelId).1 := by
  intro same
  have kept := (same twoSessions twoChannels (fun _ => false) (draftOnEight 3) 8 _ rfl).sessions
  exact absurd kept (by decide)

/-! ### Timed-out sessions -/

namespace Session

variable (limits : Limits) (session : Session)

def requested (times : List ℕ) : Session :=
  times.foldl (fun session now => (session.validateTimedOut now).1) session

/-- The next request, after some others, is refused. -/
def Refuses (before : List ℕ) (now : ℕ) : Prop :=
  ((session.requested before).validateTimedOut now).2 = .error StatusCode.BadSessionIdInvalid

/-- **Every manager that has the session, and has not returned it yet, returns it,** if no request
is on the way. -/
def Expires (now : ℕ) : Prop :=
  ∀ (s : Server) (id : ℕ), Server.Within limits s → s.now = now → s.get id = some session →
    id ∉ s.returned → id ∈ (s.checkSessionExpiry limits now fun _ => false).2.2

def StaysTimedOut (times : List ℕ) : Prop :=
  ∀ before t after, times = before ++ t :: after → session.Refuses before t →
    (∀ first u rest, after = first ++ u :: rest → session.Refuses (before ++ t :: first) u) ∧
    ∀ first rest now, after = first ++ rest → (∀ u ∈ t :: first, u ≤ now) → (∀ u ∈ rest, now ≤ u) →
      (session.requested (before ++ t :: first)).Expires limits now

def Late (before : List ℕ) (now : ℕ) : Prop :=
  before.getLastD (session.createdAt + session.lastServiceRequest) + session.sessionTimeout < now

variable {limits session} {times : List ℕ} {now : ℕ}

theorem requested_frame (session : Session) (times : List ℕ) : session.requested times =
    { session with lastServiceRequest := (session.requested times).lastServiceRequest } := by
  induction times generalizing session with
  | nil => rfl
  | cons t times ih => exact ih (session.validateTimedOut t).1

theorem requested_concat (times : List ℕ) (t : ℕ) : session.requested (times ++ [t]) =
    { session with lastServiceRequest := t - session.createdAt } := by
  rw [requested, foldl_append]
  show (validateTimedOut (session.requested times) t).1 = _
  rw [requested_frame]
  rfl

theorem refuses_iff (early : ∀ t ∈ times, session.createdAt ≤ t) :
    session.Refuses times now ↔ session.Late times now := by
  have decided : ∀ {a b : ℕ}, (if a < b then .error StatusCode.BadSessionIdInvalid else .ok ()) =
      (Except.error StatusCode.BadSessionIdInvalid : Except StatusCode Unit) ↔ a < b := by simp
  rw [Refuses, Late]
  rcases eq_nil_or_concat times with rfl | ⟨before, t, rfl⟩
  · refine decided.trans ?_
    show session.sessionTimeout < now - session.createdAt - session.lastServiceRequest ↔ _
    simp
    omega
  · rw [concat_eq_append, requested_concat]
    refine decided.trans ?_
    have := early t (by simp)
    simp
    omega

section

variable (opened : session.isClosed = false)
  (noted : session.createdAt + session.lastServiceRequest ≤ now)
include opened noted

/-- A manager of nothing else returns the session only when it is due. -/
theorem Expires.due (expires : session.Expires limits now) :
    session.expiryDeadline limits ≤ now := by
  by_contra early
  let alone : Server :=
    { start with
      sessions := {0}
      objects := Function.update (fun _ => none) 0 (some session)
      expiryHeap := [⟨session.expiryDeadline limits, 0⟩]
      now }
  have only : ∀ id found, alone.get id = some found → id = 0 ∧ found = session := by
    intro id found there
    obtain ⟨member, there⟩ := get_eq_some.mp there
    obtain rfl := Finset.mem_singleton.mp member
    exact ⟨rfl, (Option.some.inj there).symm⟩
  have within : Server.Within limits alone :=
    { known := by simp [alone]
      opened := fun id found there => (only id found there).2 ▸ ⟨opened, noted⟩
      sorted := pairwise_singleton ..
      listed := by simp [alone]
      before := by
        intro e member found there
        obtain rfl := mem_singleton.mp member
        rw [(only _ found there).2]
      within := fun id found there _ => ⟨_, mem_singleton_self _, (only id found there).1.symm⟩ }
  have returned := expires alone 0 within rfl rfl (Finset.notMem_empty 0)
  rw [checkSessionExpiry, expiryLoop, if_pos (not_le.mp early)] at returned
  exact not_mem_nil returned

theorem expires_iff : session.Expires limits now ↔ session.expiryDeadline limits ≤ now := by
  refine ⟨Expires.due opened noted, ?_⟩
  rintro due s id within rfl found fresh
  obtain ⟨entry, listed, rfl⟩ := within.within id session found fresh
  obtain ⟨k, here⟩ := mem_iff_getElem?.mp listed
  exact checkSessionExpiry_returned within.sorted here found rfl
    (within.before entry listed session found) due

end

theorem expiryDeadline_requested {t : ℕ} (early : session.createdAt ≤ t) :
    { session with lastServiceRequest := t - session.createdAt }.expiryDeadline limits ≤ now ↔
      t + session.sessionTimeout ≤ now ∨ session.isActivated = false ∧
        session.createdAt + limits.unactivatedSessionTimeout ≤ now := by
  have same : session.createdAt + (t - session.createdAt) = t := by omega
  show (if session.isActivated = true then _ else _) ≤ _ ↔ _
  cases session.isActivated <;> simp [deadline, same]

theorem expires_requested (opened : session.isClosed = false) {t : ℕ}
    (early : session.createdAt ≤ t) (reached : t ≤ now) :
    { session with lastServiceRequest := t - session.createdAt }.Expires limits now ↔
      t + session.sessionTimeout ≤ now ∨ session.isActivated = false ∧
        session.createdAt + limits.unactivatedSessionTimeout ≤ now := by
  rw [← expiryDeadline_requested early]
  exact expires_iff (by exact opened) (by simp; omega)

end Session

open Session in
theorem staysTimedOut_iff (limits : Limits) {session : Session} {times : List ℕ}
    (opened : session.isClosed = false)
    (sorted : ((session.createdAt + session.lastServiceRequest) :: times).Pairwise (· ≤ ·)) :
    session.StaysTimedOut limits times ↔
      ∀ before t after, times = before ++ t :: after → session.Late before t →
        (∀ first u rest, after = first ++ u :: rest → session.Late (before ++ t :: first) u) ∧
        (session.sessionTimeout = 0 ∨ session.isActivated = false ∧
          session.createdAt + limits.unactivatedSessionTimeout ≤ t) := by
  have early : ∀ t ∈ times, session.createdAt ≤ t := fun t there =>
    (Nat.le_add_right ..).trans (rel_of_pairwise_cons sorted there)
  refine forall_congr' fun before => forall_congr' fun t => forall_congr' fun after =>
    forall_congr' fun split => ?_
  subst split
  have late : session.Refuses before t ↔ session.Late before t :=
    refuses_iff fun u there => early u (by simp [there])
  have lates : ∀ first u rest, after = first ++ u :: rest →
      (session.Refuses (before ++ t :: first) u ↔ session.Late (before ++ t :: first) u) :=
    fun first u rest split => refuses_iff fun v there => early v (by grind)
  rw [late]
  refine imp_congr_right fun _ => and_congr ?_ ?_
  · exact forall_congr' fun first => forall_congr' fun u => forall_congr' fun rest =>
      imp_congr_right fun split => lates first u rest split
  · have ordered : ∀ u ∈ after, t ≤ u := by
      have := (pairwise_append.mp (List.Pairwise.of_cons sorted)).2.1
      exact fun u there => rel_of_pairwise_cons this there
    have from_ : session.createdAt ≤ t := early t (by simp)
    constructor
    · intro checks
      have expires := checks [] after t rfl (by simp) ordered
      rw [requested_concat, expires_requested opened from_ le_rfl] at expires
      exact expires.imp_left (by omega)
    · rintro due first rest now split before_ _
      obtain nothing | ⟨init, u, last⟩ := (t :: first).eq_nil_or_concat
      · cases nothing
      · rw [concat_eq_append] at last
        have reached : u ≤ now := before_ u (by simp [last])
        have created : session.createdAt ≤ u := early u (by grind)
        have reached' : t ≤ now := before_ t (by simp)
        rw [last, ← append_assoc, requested_concat, expires_requested opened created reached]
        exact due.imp (by omega) fun ⟨inactive, late⟩ => ⟨inactive, late.trans reached'⟩

/-- The first request is in time, and none of the others. -/
theorem staysTimedOut_second :
    Activations.openSession.StaysTimedOut smallLimits [30, 200, 400] := by
  refine (staysTimedOut_iff smallLimits rfl (by decide)).mpr fun before t after split late => ?_
  obtain ⟨rfl, rfl, rfl⟩ | ⟨rfl, rfl, rfl⟩ | ⟨rfl, rfl, rfl⟩ :
      (before = [] ∧ t = 30 ∧ after = [200, 400]) ∨ (before = [30] ∧ t = 200 ∧ after = [400]) ∨
        before = [30, 200] ∧ t = 400 ∧ after = [] := by
    rcases before with _ | ⟨u, _ | ⟨v, _ | ⟨w, before⟩⟩⟩ <;> simp_all
  · exact absurd late (by rw [Session.Late]; decide)
  · refine ⟨fun first u rest split => ?_, Or.inr ⟨rfl, by decide⟩⟩
    rcases first with _ | ⟨v, first⟩
    · cases split
      rw [Session.Late]
      decide
    · simp at split
  · exact ⟨fun first u rest split => by simp at split, Or.inr ⟨rfl, by decide⟩⟩

/-- **A refused request brings its session back:** the next one is served. -/
theorem refused_request_revives : ¬ ∀ (limits : Limits) (session : Session) (times : List ℕ),
    session.isClosed = false →
    ((session.createdAt + session.lastServiceRequest) :: times).Pairwise (· ≤ ·) →
      session.StaysTimedOut limits times := by
  intro stays
  have refused := (stays smallLimits Activations.openSession [200, 201] rfl (by decide) [] 200
    [201] rfl rfl).1 [] 201 [] rfl
  cases refused

end AsyncOpcua.Sessions
