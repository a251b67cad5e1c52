/-
**Replay protection while keys rotate.**

A message is authenticated with the keys of one moment. The live tokens are read after it under the
lock of the security group, and the windows are reconciled and checked under a lock of their own. So
rotations and other messages can come between, and the tokens that a call reconciles with can be
older than those of a call before it.

* `accepted_nodup` — in such runs no message is accepted twice.
-/

import AsyncOpcua.Foundation.Transition
import AsyncOpcua.Pubsub.ReplayWindow
import AsyncOpcua.Pubsub.Uadp

namespace AsyncOpcua.Pubsub

open Types hiding Variant DataValue
open Foundation

/-! ### Replay groups -/

/-- The messages of a security group that are compared with each other. -/
inductive ReplayGroupKey
  | global
  | connection (connectionId : String)
  deriving DecidableEq

structure ReplayStreamIdentity where
  publisherId : PublisherId
  writerGroupId : UInt16
  deriving DecidableEq

structure CandidateTokenSnapshot where
  current : UInt32
  next : UInt32
  deriving DecidableEq

namespace CandidateTokenSnapshot

def Contains (tokens : CandidateTokenSnapshot) (tokenId : UInt32) : Prop :=
  tokenId = tokens.current ∨ tokenId = tokens.next

instance (tokens : CandidateTokenSnapshot) (tokenId : UInt32) :
    Decidable (tokens.Contains tokenId) :=
  inferInstanceAs (Decidable (_ ∨ _))

end CandidateTokenSnapshot

def MAX_REPLAY_STREAMS_PER_SECURITY_GROUP : ℕ := 1024

structure ReplayGroupState where
  candidateTokens : Option CandidateTokenSnapshot
  streams : Finset ReplayStreamIdentity
  windows : ReplayStreamIdentity → UInt32 → Option ReplayWindow
  owned : ∀ stream tokenId, windows stream tokenId ≠ none → stream ∈ streams

namespace ReplayGroupState

def new : ReplayGroupState := ⟨none, ∅, fun _ _ => none, nofun⟩

def reconcileCandidateTokens (state : ReplayGroupState) (tokens : CandidateTokenSnapshot) :
    ReplayGroupState :=
  if state.candidateTokens = some tokens then state
  else
    { candidateTokens := some tokens
      streams := state.streams.filter fun stream =>
        state.windows stream tokens.current ≠ none ∨ state.windows stream tokens.next ≠ none
      windows := fun stream tokenId =>
        if tokens.Contains tokenId then state.windows stream tokenId else none
      owned := by
        intro stream tokenId there
        split_ifs at there with live
        · rw [Finset.mem_filter]
          refine ⟨state.owned stream tokenId there, ?_⟩
          obtain rfl | rfl := live
          · exact .inl there
          · exact .inr there
        · exact absurd rfl there }

def setWindow (state : ReplayGroupState) (stream : ReplayStreamIdentity) (tokenId : UInt32)
    (window : ReplayWindow) : ReplayGroupState where
  candidateTokens := state.candidateTokens
  streams := insert stream state.streams
  windows := Function.update state.windows stream
    (Function.update (state.windows stream) tokenId (some window))
  owned := by
    intro other token there
    by_cases same : other = stream
    · rw [same]
      exact Finset.mem_insert_self _ _
    · rw [Function.update_of_ne same] at there
      exact Finset.mem_insert_of_mem (state.owned other token there)

def checkStream (state : ReplayGroupState) (stream : ReplayStreamIdentity) (tokenId : UInt32)
    (sequenceNumber : UInt16) : ReplayGroupState × Except StatusCode Unit :=
  if stream ∈ state.streams ∨ state.streams.card < MAX_REPLAY_STREAMS_PER_SECURITY_GROUP then
    let checked := ((state.windows stream tokenId).getD .new).check tokenId sequenceNumber
    (state.setWindow stream tokenId checked.1, checked.2)
  else (state, .error StatusCode.BadResourceUnavailable)

end ReplayGroupState

/-! ### Calls and rotations -/

/-- **A call that has authenticated its message.** The sequence number of the message is a number
that only grows, cut to a `u16`. -/
structure ReplayCall where
  key : ReplayGroupKey
  authenticatedCandidates : CandidateTokenSnapshot
  stream : ReplayStreamIdentity
  tokenId : UInt32
  number : ℕ
  /-- The live tokens, once they are read. -/
  live : Option CandidateTokenSnapshot

structure AcceptedMessage where
  key : ReplayGroupKey
  stream : ReplayStreamIdentity
  tokenId : UInt32
  number : ℕ

/-- What tells messages apart. -/
def AcceptedMessage.identity (message : AcceptedMessage) :
    ReplayGroupKey × ReplayStreamIdentity × UInt32 × UInt16 :=
  (message.key, message.stream, message.tokenId, UInt16.ofNat message.number)

/-- **A security group and its replay groups,** with the calls on the way. The tokens that the group
has had and the messages that were accepted are noted besides. -/
structure Receiver where
  group : CandidateTokenSnapshot
  replayWindows : ReplayGroupKey → ReplayGroupState
  calls : ℕ → Option ReplayCall
  rotations : ℕ
  issued : ℕ → CandidateTokenSnapshot
  accepted : List AcceptedMessage

/-- The parts of a call, and a rotation. Which payload is authentic with which token is given. -/
inductive ReplayOp
  | authenticate (id : ℕ) (key : ReplayGroupKey) (stream : ReplayStreamIdentity) (tokenId : UInt32)
      (number : ℕ)
  | readLive (id : ℕ)
  | check (id : ℕ)
  | rotate

namespace Receiver

/-- Nothing was received so far. -/
def starting (group : CandidateTokenSnapshot) : Receiver where
  group := group
  replayWindows _ := .new
  calls _ := none
  rotations := 0
  issued _ := group
  accepted := []

def setCall (s : Receiver) (id : ℕ) (call : Option ReplayCall) : Receiver :=
  { s with calls := Function.update s.calls id call }

/-- `decode_candidate`: the message has the token of one of the candidates. -/
def authenticate (s : Receiver) (id : ℕ) (key : ReplayGroupKey) (stream : ReplayStreamIdentity)
    (tokenId : UInt32) (number : ℕ) : Receiver :=
  if s.group.Contains tokenId then s.setCall id (some ⟨key, s.group, stream, tokenId, number, none⟩)
  else s

def liveCandidateTokens (group authenticatedCandidates : CandidateTokenSnapshot)
    (tokenId : UInt32) : Except StatusCode CandidateTokenSnapshot :=
  if ¬ authenticatedCandidates.Contains tokenId then .error StatusCode.BadSecurityChecksFailed
  else if ¬ group.Contains tokenId then .error StatusCode.BadSecurityChecksFailed
  else .ok group

def readLive (s : Receiver) (id : ℕ) (call : ReplayCall) : Receiver :=
  match liveCandidateTokens s.group call.authenticatedCandidates call.tokenId with
  | .error _ => s.setCall id none
  | .ok tokens => s.setCall id (some { call with live := some tokens })

/-- What `check_authenticated_replay` does under the lock of the windows. -/
def check (s : Receiver) (id : ℕ) (call : ReplayCall) (tokens : CandidateTokenSnapshot) :
    Receiver :=
  let reconciled := (s.replayWindows call.key).reconcileCandidateTokens tokens
  let (state, result) :=
    reconciled.checkStream call.stream call.tokenId (UInt16.ofNat call.number)
  { s.setCall id none with
    replayWindows := Function.update s.replayWindows call.key state
    accepted := match result with
      | .ok () => ⟨call.key, call.stream, call.tokenId, call.number⟩ :: s.accepted
      | .error _ => s.accepted }

/-- `rotate_key_sets`. -/
def rotate (s : Receiver) : Receiver :=
  let group : CandidateTokenSnapshot := ⟨s.group.next, s.group.next + 1⟩
  { s with
    group := group
    rotations := s.rotations + 1
    issued := Function.update s.issued (s.rotations + 1) group }

/-- **The parts of all calls, and rotations.** -/
def machine : Machine Receiver ReplayOp where
  step s op :=
    match op with
    | .authenticate id key stream tokenId number =>
      some (s.authenticate id key stream tokenId number)
    | .readLive id => (s.calls id).map fun call => s.readLive id call
    | .check id =>
      (s.calls id).bind fun call => call.live.map fun tokens => s.check id call tokens
    | .rotate => some s.rotate

/-- Some tokens are not older than others: both were those of the group, and not after. -/
def NotOlder (s : Receiver) (before after : CandidateTokenSnapshot) : Prop :=
  ∃ i j, i ≤ j ∧ j ≤ s.rotations ∧ s.issued i = before ∧ s.issued j = after

def InSpan (base : ReplayStreamIdentity → UInt32 → ℕ) (stream : ReplayStreamIdentity)
    (tokenId : UInt32) (n : ℕ) : Prop :=
  base stream tokenId ≤ n ∧ n < base stream tokenId + 32768

def Spanned (base : ReplayStreamIdentity → UInt32 → ℕ) : ReplayOp → Prop
  | .authenticate _ _ stream tokenId number => InSpan base stream tokenId number
  | _ => True

/-- **The step is no stale one.** A number is within the span of its stream and token, a call
reconciles with tokens that are not older than those of the last call, and a rotation mints a token
that the group has not had. -/
def Fresh (base : ReplayStreamIdentity → UInt32 → ℕ) (s : Receiver) : ReplayOp → Prop
  | .authenticate _ _ stream tokenId number => InSpan base stream tokenId number
  | .readLive _ => True
  | .check id => ∀ call tokens last, s.calls id = some call → call.live = some tokens →
    (s.replayWindows call.key).candidateTokens = some last → s.NotOlder last tokens
  | .rotate => ∀ i ≤ s.rotations, ¬ (s.issued i).Contains (s.group.next + 1)

end Receiver

/-! ### The windows of a replay group -/

open Function

namespace ReplayGroupState

structure Tracks (state : ReplayGroupState)
    (taken : ReplayStreamIdentity → UInt32 → ℕ → Prop) : Prop where
  live : ∀ stream tokenId, state.windows stream tokenId ≠ none →
    ∃ tokens, state.candidateTokens = some tokens ∧ tokens.Contains tokenId
  missing : ∀ stream tokenId,
    (∀ tokens, state.candidateTokens = some tokens → tokens.Contains tokenId) →
    state.windows stream tokenId = none → ∀ n, ¬ taken stream tokenId n
  remembered : ∀ stream tokenId window, state.windows stream tokenId = some window →
    ∃ seen, window.Represents tokenId seen ∧ ∀ n, n ∈ seen.taken ↔ taken stream tokenId n

variable {state : ReplayGroupState} {taken taken' : ReplayStreamIdentity → UInt32 → ℕ → Prop}
  {tokens : CandidateTokenSnapshot} {stream : ReplayStreamIdentity} {tokenId : UInt32}

theorem new_tracks (none_ : ∀ stream tokenId n, ¬ taken stream tokenId n) : new.Tracks taken where
  live _ _ there := absurd rfl there
  missing stream tokenId _ _ := none_ stream tokenId
  remembered _ _ _ := nofun

theorem Tracks.congr (tracks : state.Tracks taken)
    (same : ∀ stream tokenId n, taken' stream tokenId n ↔ taken stream tokenId n) :
    state.Tracks taken' := by
  have equal : taken' = taken := by
    funext stream tokenId n
    exact propext (same stream tokenId n)
  exact equal ▸ tracks

theorem Tracks.untouched (tracks : state.Tracks taken) (none_ : state.candidateTokens = none)
    (stream : ReplayStreamIdentity) (tokenId : UInt32) (n : ℕ) : ¬ taken stream tokenId n := by
  refine tracks.missing stream tokenId (fun tokens here => ?_) ?_ n
  · rw [none_] at here
    cases here
  · by_contra there
    obtain ⟨tokens, here, -⟩ := tracks.live stream tokenId there
    rw [none_] at here
    cases here

@[simp]
theorem reconcile_candidateTokens (state : ReplayGroupState) (tokens : CandidateTokenSnapshot) :
    (state.reconcileCandidateTokens tokens).candidateTokens = some tokens := by
  unfold reconcileCandidateTokens
  split_ifs with same
  · exact same
  · rfl

/-- **Reconciling keeps what is remembered,** if the tokens that come back were never gone. -/
theorem reconcile_tracks (tracks : state.Tracks taken)
    (returns : ∀ last, state.candidateTokens = some last → ∀ stream tokenId n,
      taken stream tokenId n → tokens.Contains tokenId → last.Contains tokenId) :
    (state.reconcileCandidateTokens tokens).Tracks taken := by
  unfold reconcileCandidateTokens
  split_ifs with same
  · exact tracks
  refine ⟨fun stream tokenId there => ?_, fun stream tokenId live gone n took => ?_,
    fun stream tokenId window found => ?_⟩
  · refine ⟨tokens, rfl, ?_⟩
    by_contra other
    exact there (if_neg other)
  · have contains : tokens.Contains tokenId := live tokens rfl
    have gone' : (if tokens.Contains tokenId then state.windows stream tokenId else none) = none :=
      gone
    rw [if_pos contains] at gone'
    exact tracks.missing stream tokenId
      (fun last here => returns last here stream tokenId n took contains) gone' n took
  · have found' : (if tokens.Contains tokenId then state.windows stream tokenId else none) =
        some window := found
    split_ifs at found' with contains
    exact tracks.remembered stream tokenId window found'

/-- A number is accepted besides. -/
def also (taken : ReplayStreamIdentity → UInt32 → ℕ → Prop) (stream : ReplayStreamIdentity)
    (tokenId : UInt32) (number : ℕ) (other : ReplayStreamIdentity) (token : UInt32) (n : ℕ) :
    Prop :=
  taken other token n ∨ other = stream ∧ token = tokenId ∧ n = number

theorem setWindow_window (state : ReplayGroupState) (stream : ReplayStreamIdentity)
    (tokenId : UInt32) (window : ReplayWindow) :
    (state.setWindow stream tokenId window).windows stream tokenId = some window := by
  show update state.windows stream (update (state.windows stream) tokenId
    (some window)) stream tokenId = _
  rw [update_self, update_self]

theorem setWindow_other {state : ReplayGroupState} {stream other : ReplayStreamIdentity}
    {tokenId token : UInt32} {window : ReplayWindow} (apart : other = stream → token ≠ tokenId) :
    (state.setWindow stream tokenId window).windows other token = state.windows other token := by
  show update state.windows stream (update (state.windows stream) tokenId
    (some window)) other token = _
  by_cases same : other = stream
  · rw [same, update_self, update_of_ne (apart same)]
  · rw [update_of_ne same]

theorem setWindow_tracks {window : ReplayWindow} {seen : SlidingWindow}
    (tracks : state.Tracks taken)
    (live : ∃ tokens, state.candidateTokens = some tokens ∧ tokens.Contains tokenId)
    (represents : window.Represents tokenId seen)
    (here : ∀ n, n ∈ seen.taken ↔ taken' stream tokenId n)
    (elsewhere : ∀ other token n, (other = stream → token ≠ tokenId) →
      (taken' other token n ↔ taken other token n)) :
    (state.setWindow stream tokenId window).Tracks taken' := by
  have cases_ : ∀ other token, (other = stream ∧ token = tokenId) ∨
      (other = stream → token ≠ tokenId) := by
    intro other token
    by_cases same : other = stream ∧ token = tokenId
    · exact .inl same
    · exact .inr fun stream_ token_ => same ⟨stream_, token_⟩
  refine ⟨fun other token there => ?_, fun other token contains gone n took => ?_,
    fun other token found_ found => ?_⟩
  · obtain ⟨rfl, rfl⟩ | apart := cases_ other token
    · exact live
    · rw [setWindow_other apart] at there
      exact tracks.live other token there
  · obtain ⟨rfl, rfl⟩ | apart := cases_ other token
    · rw [setWindow_window] at gone
      cases gone
    · rw [setWindow_other apart] at gone
      exact tracks.missing other token contains gone n ((elsewhere other token n apart).mp took)
  · obtain ⟨rfl, rfl⟩ | apart := cases_ other token
    · rw [setWindow_window] at found
      cases found
      exact ⟨seen, represents, here⟩
    · rw [setWindow_other apart] at found
      obtain ⟨seen, represents, same⟩ := tracks.remembered other token found_ found
      exact ⟨seen, represents, fun n => (same n).trans (elsewhere other token n apart).symm⟩

/-- **A check accepts what was not accepted,** and remembers it; a rejected message changes nothing
that is remembered. -/
theorem checkStream_tracks {number : ℕ} (tracks : state.Tracks taken)
    (live : state.candidateTokens = some tokens) (contains : tokens.Contains tokenId)
    (near : ∀ n, taken stream tokenId n → n < number + 32768 ∧ number < n + 32768) :
    let after := state.checkStream stream tokenId (UInt16.ofNat number)
    after.1.candidateTokens = some tokens ∧
      ((after.2 = .ok () ∧ ¬ taken stream tokenId number ∧
          after.1.Tracks (also taken stream tokenId number)) ∨
        (∃ status, after.2 = .error status) ∧ after.1.Tracks taken) := by
  intro after
  have mine : ∃ tokens, state.candidateTokens = some tokens ∧ tokens.Contains tokenId :=
    ⟨tokens, live, contains⟩
  have elsewhere : ∀ other token n, (other = stream → token ≠ tokenId) →
      (also taken stream tokenId number other token n ↔ taken other token n) := by
    intro other token n apart
    exact ⟨fun took => took.resolve_right fun same => apart same.1 same.2.1, .inl⟩
  have unfolded : after = state.checkStream stream tokenId (UInt16.ofNat number) := rfl
  unfold checkStream at unfolded
  split_ifs at unfolded with room
  swap
  · rw [unfolded]
    exact ⟨live, .inr ⟨⟨_, rfl⟩, tracks⟩⟩
  cases held : state.windows stream tokenId with
  | none =>
    rw [held] at unfolded
    obtain ⟨next, checked, represents⟩ := ReplayWindow.check_new tokenId number
    rw [Option.getD_none] at unfolded
    dsimp only at unfolded
    rw [checked] at unfolded
    have empty : ∀ n, ¬ taken stream tokenId n := by
      refine tracks.missing stream tokenId (fun last here => ?_) held
      rw [live, Option.some.injEq] at here
      exact here ▸ contains
    rw [unfolded]
    refine ⟨live, .inl ⟨rfl, empty number, setWindow_tracks tracks mine represents (fun n => ?_)
      elsewhere⟩⟩
    rw [show (SlidingWindow.start number).taken = {number} from rfl, Finset.mem_singleton]
    exact ⟨fun same => .inr ⟨rfl, rfl, same⟩,
      fun took => took.elim (fun old => absurd old (empty n)) fun same => same.2.2⟩
  | some window =>
    rw [held] at unfolded
    obtain ⟨seen, represents, same⟩ := tracks.remembered stream tokenId window held
    rw [Option.getD_some] at unfolded
    dsimp only at unfolded
    obtain ⟨admits, next, checked, later⟩ | ⟨-, checked⟩ :=
      ReplayWindow.check_represents represents fun n mem => near n ((same n).mp mem)
    · rw [checked] at unfolded
      rw [unfolded]
      refine ⟨live, .inl ⟨rfl, fun took => ?_, setWindow_tracks tracks mine later (fun n => ?_)
        elsewhere⟩⟩
      · exact SlidingWindow.not_mem_of_admits admits ((same number).mpr took)
      · rw [show (seen.record number).taken = insert number seen.taken from rfl,
          Finset.mem_insert, same n]
        exact ⟨fun here => here.elim (fun it => .inr ⟨rfl, rfl, it⟩) .inl,
          fun took => took.elim .inr fun it => .inl it.2.2⟩
    · rw [checked] at unfolded
      rw [unfolded]
      exact ⟨live, .inr ⟨⟨_, rfl⟩, setWindow_tracks tracks mine represents same
        fun _ _ _ _ => Iff.rfl⟩⟩

end ReplayGroupState

/-! ### The invariant -/

namespace Receiver

variable {base : ReplayStreamIdentity → UInt32 → ℕ} {s t : Receiver}

def Taken (s : Receiver) (key : ReplayGroupKey) (stream : ReplayStreamIdentity) (tokenId : UInt32)
    (n : ℕ) : Prop :=
  (⟨key, stream, tokenId, n⟩ : AcceptedMessage) ∈ s.accepted

/-- **A token that is gone does not come back,** and no two rotations give the same tokens. -/
structure Rotated (s : Receiver) : Prop where
  last : s.issued s.rotations = s.group
  convex : ∀ i j k tokenId, i ≤ j → j ≤ k → k ≤ s.rotations → (s.issued i).Contains tokenId →
    (s.issued k).Contains tokenId → (s.issued j).Contains tokenId
  injective : ∀ i j, i ≤ s.rotations → j ≤ s.rotations → s.issued i = s.issued j → i = j

/-- **The windows and the calls.** What a replay group reconciled with is not older than any token
it accepted. -/
structure Watched (base : ReplayStreamIdentity → UInt32 → ℕ) (s : Receiver) : Prop where
  span : ∀ id call, s.calls id = some call → InSpan base call.stream call.tokenId call.number
  live : ∀ id call tokens, s.calls id = some call → call.live = some tokens →
    tokens.Contains call.tokenId ∧ ∃ j ≤ s.rotations, s.issued j = tokens
  tracks : ∀ key, (s.replayWindows key).Tracks (s.Taken key)
  reconciled : ∀ key last, (s.replayWindows key).candidateTokens = some last →
    ∃ c ≤ s.rotations, s.issued c = last ∧ ∀ stream tokenId n, s.Taken key stream tokenId n →
      ∃ e ≤ c, (s.issued e).Contains tokenId
  spans : ∀ message ∈ s.accepted, InSpan base message.stream message.tokenId message.number

structure Inv (base : ReplayStreamIdentity → UInt32 → ℕ) (s : Receiver) : Prop where
  rotated : s.Rotated
  watched : s.Watched base
  nodup : (s.accepted.map AcceptedMessage.identity).Nodup

theorem starting_inv (base : ReplayStreamIdentity → UInt32 → ℕ) (group : CandidateTokenSnapshot) :
    (starting group).Inv base where
  rotated := ⟨rfl, fun _ _ _ _ _ _ _ here _ => here, fun i j low high _ => by
    rw [Nat.le_zero.mp low, Nat.le_zero.mp high]⟩
  watched := ⟨nofun, nofun, fun _ => ReplayGroupState.new_tracks nofun, nofun, nofun⟩
  nodup := List.nodup_nil

/-! #### Calls -/

theorem Inv.setCall (inv : s.Inv base) (id : ℕ) {call : Option ReplayCall}
    (span : ∀ made, call = some made → InSpan base made.stream made.tokenId made.number)
    (live : ∀ made tokens, call = some made → made.live = some tokens →
      tokens.Contains made.tokenId ∧ ∃ j ≤ s.rotations, s.issued j = tokens) :
    (s.setCall id call).Inv base := by
  have cases_ : ∀ other made, (s.setCall id call).calls other = some made →
      call = some made ∨ s.calls other = some made := by
    intro other made here
    by_cases same : other = id
    · rw [same] at here
      exact .inl (by rw [← here]; exact (update_self id call s.calls).symm)
    · refine .inr ?_
      rw [← here]
      exact (update_of_ne same call s.calls).symm
  refine ⟨⟨inv.rotated.last, inv.rotated.convex, inv.rotated.injective⟩,
    ⟨fun other made here => ?_, fun other made tokens here read => ?_, inv.watched.tracks,
    inv.watched.reconciled, inv.watched.spans⟩, inv.nodup⟩
  · exact (cases_ other made here).elim (span made) (inv.watched.span other made)
  · exact (cases_ other made here).elim (fun set => live made tokens set read)
      fun old => inv.watched.live other made tokens old read

theorem Inv.dropCall (inv : s.Inv base) (id : ℕ) : (s.setCall id none).Inv base :=
  inv.setCall id nofun nofun

variable {stream : ReplayStreamIdentity} {tokenId : UInt32}

theorem Inv.authenticate (inv : s.Inv base) (id : ℕ) (key : ReplayGroupKey) {number : ℕ}
    (span : InSpan base stream tokenId number) :
    (s.authenticate id key stream tokenId number).Inv base := by
  unfold Receiver.authenticate
  split_ifs
  · refine inv.setCall id ?_ ?_
    · rintro _ ⟨⟩
      exact span
    · rintro _ _ ⟨⟩ ⟨⟩
  · exact inv

theorem liveCandidateTokens_eq_ok {group authenticated tokens : CandidateTokenSnapshot}
    (read : liveCandidateTokens group authenticated tokenId = .ok tokens) :
    group = tokens ∧ tokens.Contains tokenId := by
  unfold liveCandidateTokens at read
  split_ifs at read with known contains
  cases read
  exact ⟨rfl, contains⟩

theorem Inv.readLive (inv : s.Inv base) {id : ℕ} {call : ReplayCall}
    (here : s.calls id = some call) : (s.readLive id call).Inv base := by
  unfold Receiver.readLive
  cases read : liveCandidateTokens s.group call.authenticatedCandidates call.tokenId with
  | error status => exact inv.dropCall id
  | ok tokens =>
    obtain ⟨rfl, contains⟩ := liveCandidateTokens_eq_ok read
    refine inv.setCall id ?_ ?_
    · rintro _ ⟨⟩
      exact inv.watched.span id call here
    · rintro _ _ ⟨⟩ ⟨⟩
      exact ⟨contains, s.rotations, Nat.le_refl _, inv.rotated.last⟩

/-! #### Rotations -/

theorem rotate_issued {i : ℕ} (old : i ≤ s.rotations) : s.rotate.issued i = s.issued i :=
  update_of_ne (by omega) _ _

theorem rotate_issued_last : s.rotate.issued s.rotate.rotations = s.rotate.group :=
  update_self (s.rotations + 1) _ s.issued

/-- **A rotation drops a token for good,** if the one it mints is new. -/
theorem Rotated.rotate (rotated : s.Rotated)
    (new : ∀ i ≤ s.rotations, ¬ (s.issued i).Contains (s.group.next + 1)) :
    s.rotate.Rotated := by
  have kept : ∀ i tokenId, i ≤ s.rotations → (s.issued i).Contains tokenId →
      s.rotate.group.Contains tokenId → s.group.Contains tokenId := by
    intro i tokenId old there now
    obtain current | minted := now
    · exact .inr current
    · rw [show tokenId = s.group.next + 1 from minted] at there
      exact absurd there (new i old)
  have last : ∀ {k}, k ≤ s.rotate.rotations → ¬ k ≤ s.rotations → k = s.rotate.rotations := by
    intro k bound more
    have count : s.rotate.rotations = s.rotations + 1 := rfl
    omega
  refine ⟨rotate_issued_last, fun i j k tokenId first second bound there later => ?_,
    fun i j low high same => ?_⟩
  · by_cases old : k ≤ s.rotations
    · rw [rotate_issued (by omega)] at there later ⊢
      exact rotated.convex i j k tokenId first second old there later
    rw [last bound old, rotate_issued_last] at later
    by_cases middle : j ≤ s.rotations
    · rw [rotate_issued (by omega)] at there ⊢
      have now := kept i tokenId (by omega) there later
      rw [← rotated.last] at now
      exact rotated.convex i j s.rotations tokenId first middle (Nat.le_refl _) there now
    · rw [last (by omega) middle, rotate_issued_last]
      exact later
  · have minted : s.rotate.group.Contains (s.group.next + 1) := .inr rfl
    by_cases old : i ≤ s.rotations
    · by_cases older : j ≤ s.rotations
      · rw [rotate_issued old, rotate_issued older] at same
        exact rotated.injective i j old older same
      · rw [last high older, rotate_issued_last, rotate_issued old] at same
        exact absurd (same ▸ minted) (new i old)
    · by_cases older : j ≤ s.rotations
      · rw [last low old, rotate_issued_last, rotate_issued older] at same
        exact absurd (same ▸ minted) (new j older)
      · rw [last low old, last high older]

theorem Inv.rotate (inv : s.Inv base)
    (new : ∀ i ≤ s.rotations, ¬ (s.issued i).Contains (s.group.next + 1)) :
    s.rotate.Inv base := by
  have grown : s.rotations ≤ s.rotate.rotations := Nat.le_succ _
  refine ⟨inv.rotated.rotate new, ⟨inv.watched.span, fun id call tokens here read => ?_,
    inv.watched.tracks, fun key last here => ?_, inv.watched.spans⟩, inv.nodup⟩
  · obtain ⟨contains, j, old, same⟩ := inv.watched.live id call tokens here read
    exact ⟨contains, j, old.trans grown, (rotate_issued old).trans same⟩
  · obtain ⟨c, old, same, accepted⟩ := inv.watched.reconciled key last here
    refine ⟨c, old.trans grown, (rotate_issued old).trans same, fun stream tokenId n took => ?_⟩
    obtain ⟨e, before, contains⟩ := accepted stream tokenId n took
    exact ⟨e, before, (rotate_issued (before.trans old)).symm ▸ contains⟩

/-! #### Checks -/

theorem InSpan.eq {m n : ℕ} (first : InSpan base stream tokenId m)
    (second : InSpan base stream tokenId n) (same : UInt16.ofNat m = UInt16.ofNat n) : m = n := by
  have cut := congrArg UInt16.toNat same
  rw [UInt16.toNat_ofNat', UInt16.toNat_ofNat'] at cut
  obtain ⟨low, high⟩ := first
  obtain ⟨low', high'⟩ := second
  omega

def settle (s : Receiver) (key : ReplayGroupKey) (state : ReplayGroupState)
    (accepted : List AcceptedMessage) : Receiver :=
  { s with replayWindows := update s.replayWindows key state, accepted := accepted }

/-- The tokens of a replay group after a call are those of the call. -/
structure Settled (s : Receiver) (key : ReplayGroupKey) (state : ReplayGroupState) (j : ℕ) :
    Prop where
  issued : j ≤ s.rotations
  tokens : state.candidateTokens = some (s.issued j)
  older : ∀ stream tokenId n, s.Taken key stream tokenId n →
    ∃ e ≤ j, (s.issued e).Contains tokenId

section

variable (inv : s.Inv base) {key : ReplayGroupKey} {state : ReplayGroupState} {j : ℕ}
  (settled : s.Settled key state j)
include inv settled

theorem Inv.rejected (tracks : state.Tracks (s.Taken key)) :
    (s.settle key state s.accepted).Inv base := by
  refine ⟨⟨inv.rotated.last, inv.rotated.convex, inv.rotated.injective⟩, ⟨inv.watched.span,
    inv.watched.live, fun other => ?_, fun other last here => ?_, inv.watched.spans⟩, inv.nodup⟩
  · show (update s.replayWindows key state other).Tracks (s.Taken other)
    by_cases same : other = key
    · rw [same, update_self]
      exact tracks
    · rw [update_of_ne same]
      exact inv.watched.tracks other
  · have here' : (update s.replayWindows key state other).candidateTokens = some last :=
      here
    by_cases same : other = key
    · subst same
      rw [update_self, settled.tokens, Option.some.injEq] at here'
      exact ⟨j, settled.issued, here', settled.older⟩
    · rw [update_of_ne same] at here'
      exact inv.watched.reconciled other last here'

theorem Inv.accepted {number : ℕ} (contains : (s.issued j).Contains tokenId)
    (span : InSpan base stream tokenId number) (new : ¬ s.Taken key stream tokenId number)
    (tracks : state.Tracks (ReplayGroupState.also (s.Taken key) stream tokenId number)) :
    (s.settle key state (⟨key, stream, tokenId, number⟩ :: s.accepted)).Inv base := by
  set message : AcceptedMessage := ⟨key, stream, tokenId, number⟩ with made
  set after := s.settle key state (message :: s.accepted) with next
  have here : ∀ other token n, after.Taken key other token n ↔
      ReplayGroupState.also (s.Taken key) stream tokenId number other token n := by
    intro other token n
    show _ ∈ message :: s.accepted ↔ _
    rw [List.mem_cons, made, AcceptedMessage.mk.injEq]
    exact ⟨fun took => took.elim (fun it => .inr it.2) .inl,
      fun took => took.elim .inr fun it => .inl ⟨rfl, it⟩⟩
  have elsewhere : ∀ {other}, other ≠ key → ∀ stream token n,
      after.Taken other stream token n ↔ s.Taken other stream token n := by
    intro other apart stream token n
    show _ ∈ message :: s.accepted ↔ _
    rw [List.mem_cons, made, AcceptedMessage.mk.injEq]
    exact ⟨fun took => took.resolve_left fun it => apart it.1, .inr⟩
  refine ⟨⟨inv.rotated.last, inv.rotated.convex, inv.rotated.injective⟩, ⟨inv.watched.span,
    inv.watched.live, fun other => ?_, fun other last found => ?_, ?_⟩, ?_⟩
  · show (update s.replayWindows key state other).Tracks (after.Taken other)
    by_cases same : other = key
    · rw [same, update_self]
      exact tracks.congr here
    · rw [update_of_ne same]
      exact (inv.watched.tracks other).congr (elsewhere same)
  · have found' : (update s.replayWindows key state other).candidateTokens = some last :=
      found
    by_cases same : other = key
    · subst same
      rw [update_self, settled.tokens, Option.some.injEq] at found'
      refine ⟨j, settled.issued, found', fun other token n took => ?_⟩
      obtain old | ⟨-, rfl, -⟩ := (here other token n).mp took
      · exact settled.older other token n old
      · exact ⟨j, Nat.le_refl _, contains⟩
    · rw [update_of_ne same] at found'
      obtain ⟨c, issued, current, older⟩ := inv.watched.reconciled other last found'
      exact ⟨c, issued, current,
        fun stream token n took => older stream token n ((elsewhere same stream token n).mp took)⟩
  · intro other mem
    obtain rfl | old := List.mem_cons.mp mem
    · exact span
    · exact inv.watched.spans other old
  · show ((message :: s.accepted).map AcceptedMessage.identity).Nodup
    rw [List.map_cons, List.nodup_cons]
    refine ⟨fun repeated => ?_, inv.nodup⟩
    obtain ⟨other, mem, same⟩ := List.mem_map.mp repeated
    simp only [AcceptedMessage.identity, made, Prod.mk.injEq] at same
    obtain ⟨rfl, rfl, rfl, cut⟩ := same
    have equal := (inv.watched.spans _ mem).eq span cut
    exact new (equal ▸ mem)

end

theorem Inv.check (inv : s.Inv base) {id : ℕ} {call : ReplayCall} {tokens : CandidateTokenSnapshot}
    (here : s.calls id = some call) (read : call.live = some tokens)
    (newer : ∀ last, (s.replayWindows call.key).candidateTokens = some last →
      s.NotOlder last tokens) :
    (s.check id call tokens).Inv base := by
  obtain ⟨contains, live⟩ := inv.watched.live id call tokens here read
  have span := inv.watched.span id call here
  have tracks := inv.watched.tracks call.key
  -- The rotation that gave the tokens of the call comes after all that were accepted.
  have reached : ∃ j ≤ s.rotations, s.issued j = tokens ∧ (∀ stream tokenId n,
      s.Taken call.key stream tokenId n → ∃ e ≤ j, (s.issued e).Contains tokenId) ∧
      ∀ last, (s.replayWindows call.key).candidateTokens = some last → ∀ stream tokenId n,
        s.Taken call.key stream tokenId n → tokens.Contains tokenId → last.Contains tokenId := by
    cases before : (s.replayWindows call.key).candidateTokens with
    | none =>
      obtain ⟨j, issued, same⟩ := live
      exact ⟨j, issued, same, fun stream tokenId n took =>
        absurd took (tracks.untouched before stream tokenId n), nofun⟩
    | some last =>
      obtain ⟨i, j, order, issued, old, same⟩ := newer last before
      obtain ⟨c, bound, current, older⟩ := inv.watched.reconciled call.key last before
      have equal := inv.rotated.injective c i bound (by omega) (current.trans old.symm)
      refine ⟨j, issued, same, fun stream tokenId n took => ?_, ?_⟩
      · obtain ⟨e, earlier, there⟩ := older stream tokenId n took
        exact ⟨e, by omega, there⟩
      · rintro _ ⟨⟩ stream tokenId n took now
        obtain ⟨e, earlier, there⟩ := older stream tokenId n took
        rw [← current]
        exact inv.rotated.convex e c j tokenId earlier (by omega) issued there (same ▸ now)
  obtain ⟨j, issued, same, older, returns⟩ := reached
  have reconciled := ReplayGroupState.reconcile_tracks tracks returns
  have near : ∀ n, s.Taken call.key call.stream call.tokenId n →
      n < call.number + 32768 ∧ call.number < n + 32768 := by
    intro n took
    obtain ⟨low, high⟩ := inv.watched.spans _ took
    obtain ⟨low', high'⟩ := span
    dsimp only at low high
    omega
  obtain ⟨current, ⟨ok, new, after⟩ | ⟨⟨status, failed⟩, after⟩⟩ :=
    ReplayGroupState.checkStream_tracks reconciled
      (ReplayGroupState.reconcile_candidateTokens _ _) contains near
  · have settled : (s.setCall id none).Settled call.key _ j :=
      ⟨issued, current.trans (congrArg some same.symm), older⟩
    have done := (inv.dropCall id).accepted settled (same ▸ contains) span new after
    unfold Receiver.check
    simp only [ok]
    exact done
  · have settled : (s.setCall id none).Settled call.key _ j :=
      ⟨issued, current.trans (congrArg some same.symm), older⟩
    have done := (inv.dropCall id).rejected settled after
    unfold Receiver.check
    simp only [failed]
    exact done

/-! ### Whole runs -/

theorem step_inv {op : ReplayOp} (inv : s.Inv base) (fresh : s.Fresh base op)
    (stepped : machine.step s op = some t) : t.Inv base := by
  cases op with
  | authenticate id key stream tokenId number =>
    cases stepped
    exact inv.authenticate id key fresh
  | readLive id =>
    obtain ⟨call, here, rfl⟩ := Option.map_eq_some_iff.mp stepped
    exact inv.readLive here
  | check id =>
    obtain ⟨call, here, rest⟩ := Option.bind_eq_some_iff.mp stepped
    obtain ⟨tokens, read, rfl⟩ := Option.map_eq_some_iff.mp rest
    exact inv.check here read fun last before => fresh call tokens last here read before
  | rotate =>
    cases stepped
    exact inv.rotate fresh

/-- **Nothing is accepted twice.** From any tokens on, however the parts of the calls and the
rotations follow each other, no two accepted messages have the same replay group, stream, token and
sequence number, if no step is stale. -/
theorem accepted_nodup (base : ReplayStreamIdentity → UInt32 → ℕ) (group : CandidateTokenSnapshot)
    {ops : List ReplayOp} (fresh : machine.Guarded (Fresh base) (starting group) ops)
    (ran : machine.run (starting group) ops = some s) :
    (s.accepted.map AcceptedMessage.identity).Nodup := by
  have inv := machine.run_invariant_of_guarded (fun _ _ _ inv fresh stepped =>
    step_inv inv fresh stepped) (starting_inv base group) fresh ran
  exact inv.nodup

/-! ### Two runs -/

/-- The stream of one writer group of a publisher. -/
def pressStream : ReplayStreamIdentity := ⟨.uint16 7, 1⟩

/-- A message before a rotation, and one after it. -/
def rotatedOps : List ReplayOp :=
  [.authenticate 0 .global pressStream 1 5, .readLive 0, .check 0, .rotate,
    .authenticate 1 .global pressStream 2 6, .readLive 1, .check 1]

theorem rotatedOps_nodup : ∃ s, machine.run (starting ⟨1, 2⟩) rotatedOps = some s ∧
    s.accepted.length = 2 ∧ (s.accepted.map AcceptedMessage.identity).Nodup := by
  refine ⟨_, rfl, rfl, accepted_nodup (fun _ _ => 0) ⟨1, 2⟩ ?_
    (rfl : machine.run (starting ⟨1, 2⟩) rotatedOps = some _)⟩
  refine .cons machine rfl ⟨by decide, by decide⟩ (.cons machine rfl trivial ?_)
  refine .cons machine rfl (by rintro _ _ _ ⟨⟩ ⟨⟩ ⟨⟩) ?_
  refine .cons machine rfl (fun i low => ?_) ?_
  · rw [Nat.le_zero.mp low]
    decide
  refine .cons machine rfl ⟨by decide, by decide⟩ (.cons machine rfl trivial ?_)
  refine .cons machine rfl ?_ trivial
  rintro _ _ _ ⟨⟩ ⟨⟩ ⟨⟩
  exact ⟨0, 1, by decide, by decide, rfl, rfl⟩

/-- A message is accepted. It comes again, and reads the live tokens before a rotation. A message
with the next token is checked after the rotation, and then the one that came again. -/
def staleOps : List ReplayOp :=
  [.authenticate 0 .global pressStream 1 5, .readLive 0, .check 0,
    .authenticate 1 .global pressStream 1 5, .readLive 1, .rotate,
    .authenticate 2 .global pressStream 2 6, .readLive 2, .check 2, .check 1]

/-- **A message is accepted twice** where a stale call is the last one. -/
theorem staleOps_repeats : (∀ op ∈ staleOps, Spanned (fun _ _ => 0) op) ∧
    ∃ s, machine.run (starting ⟨1, 2⟩) staleOps = some s ∧
      ¬ (s.accepted.map AcceptedMessage.identity).Nodup := by
  constructor
  · simp [staleOps, Spanned, InSpan]
  · refine ⟨_, rfl, ?_⟩
    decide

end Receiver

end AsyncOpcua.Pubsub
