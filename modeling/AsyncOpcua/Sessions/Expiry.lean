/-
**Sessions stay within reach of the check and of eviction.**

An entry is taken out of its heap before it is known whether the session can be read. Where it
cannot, the entry is gone. As long as this does not happen to the last entry of a session, each
session keeps one.

* `Live` — the invariant, which each unhindered step keeps;
* `live_of_unhindered` — what holds of the unhindered runs.
-/

import AsyncOpcua.Sessions.Unactivated

namespace AsyncOpcua.Sessions

open Rbac Option Server Foundation

/-! ### Deadlines -/

section Deadlines

variable {limits : Limits} {session : Session} {now : ℕ}

theorem Session.expiryDeadline_le : session.expiryDeadline limits ≤ session.deadline := by
  unfold expiryDeadline
  split_ifs
  · exact Nat.le_refl _
  · exact Nat.min_le_left ..

theorem Session.expiryDeadline_noted (past : session.createdAt + session.lastServiceRequest ≤ now) :
    session.expiryDeadline limits ≤ (session.validateTimedOut now).1.expiryDeadline limits := by
  have later : session.deadline ≤ (session.validateTimedOut now).1.deadline := by
    show session.createdAt + session.lastServiceRequest + session.sessionTimeout ≤
      session.createdAt + (now - session.createdAt) + session.sessionTimeout
    omega
  have same : (session.validateTimedOut now).1.isActivated = session.isActivated := rfl
  unfold expiryDeadline
  rw [same]
  split_ifs
  · exact later
  · exact min_le_min_right _ later

end Deadlines

open List

namespace Server

open Activations (openSession openServer)

variable (limits : Limits) (info : ServerInfo)

/-- A call of `close_session`. -/
def Op.isClose : Op → Bool
  | .checkClose .. | .terminate _ | .failClose _ | .finishClose _ => true
  | _ => false

/-- **Not all that a session has in a heap is passed over for want of its lock.** A check leaves an
entry that is not due, or can read the session at its turn. Eviction comes to an end before an entry
of the session, or with it. -/
def Unhindered (s : Server) : Op → Prop
  | .create _ _ locked => limits.maxSessions ≤ s.sessions.card →
      ∀ id session, s.get id = some session → session.isActivated = false →
        ∃ k entry, s.unactivatedHeap[k]? = some entry ∧ entry.sessionId = id ∧
          ∃ j ≤ k, ∃ candidate other, s.unactivatedHeap[j]? = some candidate ∧
            s.get candidate.sessionId = some other ∧ other.isActivated = false ∧ locked j = false
  | .check locked => ∀ id session, s.get id = some session → id ∉ s.returned →
      ∃ k entry, s.expiryHeap[k]? = some entry ∧ entry.sessionId = id ∧
        (s.now < entry.deadline ∨ locked k = false)
  | op => op.isClose = false

variable {limits : Limits} {info : ServerInfo} {s t : Server} {id : ℕ} {session : Session}

/-! ### The check -/

section Check

variable {now : ℕ} {locked : ℕ → Bool}

variable {due later : List SessionExpiryEntry} {entry : SessionExpiryEntry}

theorem orderedInsert_due (early : ∀ e ∈ due, e.deadline ≤ now) (late : now < entry.deadline) :
    (due ++ later).orderedInsert SessionExpiryEntry.Before entry =
      due ++ later.orderedInsert SessionExpiryEntry.Before entry := by
  induction due with
  | nil => rfl
  | cons first due ih =>
    have before : ¬ entry.Before first :=
      Nat.not_le.mpr (Nat.lt_of_le_of_lt (early first mem_cons_self) late)
    rw [cons_append, orderedInsert_of_not_le _ _ before,
      ih fun e member => early e (mem_cons_of_mem _ member), cons_append]

/-- What becomes of the entries: those that are not due stay, and of those that are due the ones
that can be read go back or are given out. -/
structure Examined (limits : Limits) (s : Server) (now : ℕ) (locked : ℕ → Bool) (next : ℕ)
    (due later : List SessionExpiryEntry) (expired : List ℕ)
    (result : List SessionExpiryEntry × ℕ × List ℕ) : Prop where
  sorted : result.1.Pairwise SessionExpiryEntry.Before
  stay : ∀ e ∈ later, e ∈ result.1
  given : ∀ id ∈ expired, id ∈ result.2.2
  back : ∀ k e session, due[k]? = some e → locked (next + k) = false →
    s.get e.sessionId = some session → now < session.expiryDeadline limits →
    ⟨session.expiryDeadline limits, e.sessionId⟩ ∈ result.1
  out : ∀ k e session, due[k]? = some e → locked (next + k) = false →
    s.get e.sessionId = some session → session.expiryDeadline limits ≤ now →
    e.sessionId ∈ result.2.2
  origin : ∀ e ∈ result.1, e ∈ later ∨ ∃ session, s.get e.sessionId = some session ∧
    e.deadline = session.expiryDeadline limits

theorem Examined.cons {next : ℕ} {first : SessionExpiryEntry}
    {due later later' : List SessionExpiryEntry} {expired expired' : List ℕ}
    {result : List SessionExpiryEntry × ℕ × List ℕ}
    (rest : Examined limits s now locked (next + 1) due later' expired' result)
    (stay : ∀ e ∈ later, e ∈ later') (given : ∀ id ∈ expired, id ∈ expired')
    (origin : ∀ e ∈ later', e ∈ later ∨ ∃ session, s.get e.sessionId = some session ∧
      e.deadline = session.expiryDeadline limits)
    (back : ∀ session, locked next = false → s.get first.sessionId = some session →
      now < session.expiryDeadline limits →
        ⟨session.expiryDeadline limits, first.sessionId⟩ ∈ later')
    (out : ∀ session, locked next = false → s.get first.sessionId = some session →
      session.expiryDeadline limits ≤ now → first.sessionId ∈ expired') :
    Examined limits s now locked next (first :: due) later expired result where
  sorted := rest.sorted
  stay e member := rest.stay e (stay e member)
  given id member := rest.given id (given id member)
  back k e session here free found late := by
    cases k with
    | zero =>
      cases here
      exact rest.stay _ (back session free found late)
    | succ k =>
      exact rest.back k e session here (by rw [Nat.add_right_comm]; exact free) found late
  out k e session here free found beyond := by
    cases k with
    | zero =>
      cases here
      exact rest.given _ (out session free found beyond)
    | succ k =>
      exact rest.out k e session here (by rw [Nat.add_right_comm]; exact free) found beyond
  origin e member := (rest.origin e member).elim (origin e) .inr

theorem expiryLoop_examined {fuel next nextExpiry : ℕ} {expired : List ℕ}
    (early : ∀ e ∈ due, e.deadline ≤ now) (late : ∀ e ∈ later, now < e.deadline)
    (sorted : later.Pairwise SessionExpiryEntry.Before) (enough : due.length < fuel) :
    Examined limits s now locked next due later expired
      (s.expiryLoop limits now locked fuel next (due ++ later) nextExpiry expired) := by
  induction due generalizing fuel next later nextExpiry expired with
  | nil =>
    obtain _ | fuel := fuel
    · exact absurd enough (Nat.not_lt_zero _)
    have nothing :
        ∀ {k : ℕ} {e : SessionExpiryEntry}, ([] : List SessionExpiryEntry)[k]? ≠ some e := by
      intro k e
      exact nofun
    have unchanged : s.expiryLoop limits now locked (fuel + 1) next later nextExpiry expired =
        (later, (s.expiryLoop limits now locked (fuel + 1) next later nextExpiry expired).2.1,
          expired) := by
      cases later with
      | nil => rfl
      | cons first later => rw [expiryLoop, if_pos (late first mem_cons_self)]
    rw [nil_append, unchanged]
    exact ⟨sorted, fun _ member => member, fun _ member => member,
      fun _ _ _ here => absurd here nothing, fun _ _ _ here => absurd here nothing,
      fun _ member => .inl member⟩
  | cons first due ih =>
    obtain _ | fuel := fuel
    · exact absurd enough (Nat.not_lt_zero _)
    have enough : due.length < fuel := Nat.lt_of_succ_lt_succ enough
    have others : ∀ e ∈ due, e.deadline ≤ now := fun e member =>
      early e (mem_cons_of_mem _ member)
    have reached : ¬ now < first.deadline := Nat.not_lt.mpr (early first mem_cons_self)
    rw [cons_append, expiryLoop, if_neg reached]
    split
    · -- The session is not in the map.
      rename_i absent
      refine (ih others late sorted enough).cons (fun _ member => member) (fun _ member => member)
        (fun _ member => .inl member) ?_ ?_
      all_goals
        intro session _ found
        rw [absent] at found
        cases found
    · rename_i session found
      by_cases busy : locked next
      · rw [if_pos busy]
        refine (ih others late sorted enough).cons (fun _ member => member) (fun _ member => member)
          (fun _ member => .inl member) ?_ ?_
        all_goals
          intro session free
          rw [busy] at free
          cases free
      rw [if_neg busy]
      by_cases alive : now < session.expiryDeadline limits
      · rw [if_pos alive, orderedInsert_due others alive]
        refine (ih others ?_ (sorted.orderedInsert _ _) enough).cons
          (fun _ member => (mem_orderedInsert _).mpr (.inr member)) (fun _ member => member)
          ?_ ?_ ?_
        · intro e member
          rcases (mem_orderedInsert _).mp member with rfl | member
          · exact alive
          · exact late e member
        · intro e member
          rcases (mem_orderedInsert _).mp member with rfl | member
          · exact .inr ⟨session, found, rfl⟩
          · exact .inl member
        · intro other _ same _
          rw [found] at same
          cases same
          exact (mem_orderedInsert _).mpr (.inl rfl)
        · intro other _ same beyond
          rw [found] at same
          cases same
          exact absurd alive (Nat.not_lt.mpr beyond)
      · rw [if_neg alive]
        refine (ih others late sorted enough).cons (fun _ member => member)
          (fun _ member => mem_append_left _ member) (fun _ member => .inl member) ?_ ?_
        · intro other _ same later
          rw [found] at same
          cases same
          exact absurd later alive
        · intro other _ _ _
          exact mem_append_right _ mem_cons_self

theorem exists_due {heap : List SessionExpiryEntry}
    (sorted : heap.Pairwise SessionExpiryEntry.Before)
    (now : ℕ) : ∃ due later, heap = due ++ later ∧ (∀ e ∈ due, e.deadline ≤ now) ∧
      ∀ e ∈ later, now < e.deadline := by
  induction heap with
  | nil => exact ⟨[], [], rfl, nofun, nofun⟩
  | cons first heap ih =>
    obtain ⟨least, rest⟩ := pairwise_cons.mp sorted
    by_cases late : now < first.deadline
    · refine ⟨[], first :: heap, rfl, nofun, fun e member => ?_⟩
      rcases mem_cons.mp member with rfl | member
      · exact late
      · exact Nat.lt_of_lt_of_le late (least e member)
    · obtain ⟨due, later, rfl, early, after⟩ := ih rest
      refine ⟨first :: due, later, rfl, fun e member => ?_, after⟩
      rcases mem_cons.mp member with rfl | member
      · exact Nat.not_lt.mp late
      · exact early e member

theorem checkSessionExpiry_examined (limits : Limits) (now : ℕ) (locked : ℕ → Bool)
    (sorted : s.expiryHeap.Pairwise SessionExpiryEntry.Before) :
    ∃ due later, s.expiryHeap = due ++ later ∧ (∀ e ∈ due, e.deadline ≤ now) ∧
      (∀ e ∈ later, now < e.deadline) ∧
      Examined limits s now locked 0 due later []
        ((s.checkSessionExpiry limits now locked).1.expiryHeap,
          (s.checkSessionExpiry limits now locked).2) := by
  obtain ⟨due, later, same, early, late⟩ := exists_due sorted now
  refine ⟨due, later, same, early, late, ?_⟩
  have sorted' : later.Pairwise SessionExpiryEntry.Before := by
    rw [same] at sorted
    exact (pairwise_append.mp sorted).2.1
  show Examined limits s now locked 0 due later [] (s.expiryLoop limits now locked
    (s.expiryHeap.length + 1) 0 s.expiryHeap (now + limits.maxSessionTimeout) [])
  rw [same]
  refine expiryLoop_examined early late sorted' ?_
  rw [length_append]
  omega

section

variable (sorted : s.expiryHeap.Pairwise SessionExpiryEntry.Before) {k : ℕ}
  (here : s.expiryHeap[k]? = some entry) (found : s.get entry.sessionId = some session)
include sorted here found

/-- **An entry that is not due, or whose session can be read, keeps the session within reach.** -/
theorem checkSessionExpiry_kept (spared : now < entry.deadline ∨ locked k = false) :
    entry.sessionId ∈ (s.checkSessionExpiry limits now locked).2.2 ∨
      ∃ e ∈ (s.checkSessionExpiry limits now locked).1.expiryHeap,
        e.sessionId = entry.sessionId := by
  obtain ⟨due, later, same, early, late, examined⟩ :=
    checkSessionExpiry_examined limits now locked sorted
  rw [same] at here
  rcases Nat.lt_or_ge k due.length with inside | outside
  · rw [getElem?_append_left inside] at here
    have reached := early entry (mem_of_getElem? here)
    have free : locked (0 + k) = false := by
      rw [Nat.zero_add]
      exact spared.resolve_left (Nat.not_lt.mpr reached)
    by_cases alive : now < session.expiryDeadline limits
    · exact .inr ⟨_, examined.back k entry session here free found alive, rfl⟩
    · exact .inl (examined.out k entry session here free found (Nat.not_lt.mp alive))
  · rw [getElem?_append_right outside] at here
    exact .inr ⟨entry, examined.stay entry (mem_of_getElem? here), rfl⟩

theorem checkSessionExpiry_returned (free : locked k = false)
    (before : entry.deadline ≤ session.expiryDeadline limits)
    (beyond : session.expiryDeadline limits ≤ now) :
    entry.sessionId ∈ (s.checkSessionExpiry limits now locked).2.2 := by
  obtain ⟨due, later, same, early, late, examined⟩ :=
    checkSessionExpiry_examined limits now locked sorted
  rw [same] at here
  rcases Nat.lt_or_ge k due.length with inside | outside
  · rw [getElem?_append_left inside] at here
    exact examined.out k entry session here (by rwa [Nat.zero_add]) found beyond
  · rw [getElem?_append_right outside] at here
    have := late entry (mem_of_getElem? here)
    omega

end

end Check

/-! ### Eviction -/

variable {locked : ℕ → Bool}

/-- **What eviction leaves:** an entry of a session that is not activated is still there, or the
session is evicted, if eviction comes to an end before the entry or with it. -/
theorem evictionLoop_kept {next : ℕ} {entries : List UnactivatedSessionEntry}
    {k j : ℕ} {entry candidate : UnactivatedSessionEntry} {other : Session}
    (here : entries[k]? = some entry) (first : j ≤ k) (there : entries[j]? = some candidate)
    (found : s.get candidate.sessionId = some other) (inactive : other.isActivated = false)
    (free : locked (next + j) = false) :
    (s.evictionLoop locked next entries).1 = some entry.sessionId ∨
      entry ∈ (s.evictionLoop locked next entries).2 := by
  induction entries generalizing next k j with
  | nil => cases here
  | cons head entries ih =>
    -- The loop goes on: the candidate is not at the head.
    have onward : s.evictionLoop locked next (head :: entries) =
        s.evictionLoop locked (next + 1) entries → j ≠ 0 →
        (s.evictionLoop locked next (head :: entries)).1 = some entry.sessionId ∨
          entry ∈ (s.evictionLoop locked next (head :: entries)).2 := by
      intro same later
      obtain ⟨j, rfl⟩ := Nat.exists_eq_succ_of_ne_zero later
      obtain ⟨k, rfl⟩ := Nat.exists_eq_succ_of_ne_zero (Nat.ne_of_gt (Nat.lt_of_lt_of_le
        (Nat.succ_pos j) first))
      rw [same]
      exact ih here (Nat.le_of_succ_le_succ first) there (by rw [Nat.add_right_comm]; exact free)
    cases seen : s.get head.sessionId with
    | none =>
      refine onward (by rw [evictionLoop, seen]) ?_
      rintro rfl
      cases there
      rw [seen] at found
      cases found
    | some session =>
      by_cases busy : locked next
      · refine onward (by rw [evictionLoop, seen]; exact if_pos busy) ?_
        rintro rfl
        rw [Nat.add_zero, busy] at free
        cases free
      by_cases active : session.isActivated
      · refine onward (by rw [evictionLoop, seen]; exact (if_neg busy).trans (if_pos active)) ?_
        rintro rfl
        cases there
        rw [seen] at found
        cases found
        rw [active] at inactive
        cases inactive
      · have ended :
            s.evictionLoop locked next (head :: entries) = (some head.sessionId, entries) := by
          rw [evictionLoop, seen]
          exact (if_neg busy).trans (if_neg active)
        rw [ended]
        cases k with
        | zero =>
          cases here
          exact .inl rfl
        | succ k => exact .inr (mem_of_getElem? here)

/-! ### The invariant -/

structure Within (limits : Limits) (s : Server) : Prop where
  known : ∀ id ∈ s.sessions, s.objects id ≠ none
  opened : ∀ id session, s.get id = some session →
    session.isClosed = false ∧ session.createdAt + session.lastServiceRequest ≤ s.now
  sorted : s.expiryHeap.Pairwise SessionExpiryEntry.Before
  listed : ∀ e ∈ s.expiryHeap, s.objects e.sessionId ≠ none
  before : ∀ e ∈ s.expiryHeap, ∀ session, s.get e.sessionId = some session →
    e.deadline ≤ session.expiryDeadline limits
  within : ∀ id session, s.get id = some session → id ∉ s.returned →
    ∃ e ∈ s.expiryHeap, e.sessionId = id

def Waiting (s : Server) : Prop :=
  ∀ id session, s.get id = some session → session.isActivated = false →
    ∃ e ∈ s.unactivatedHeap, e.sessionId = id

structure Live (limits : Limits) (s : Server) : Prop where
  within : Within limits s
  waiting : Waiting s

theorem live_start : Live limits start where
  within := {
    known := fun _ absurdly => nomatch absurdly
    opened := fun _ _ absurdly => nomatch absurdly
    sorted := List.Pairwise.nil
    listed := fun _ absurdly => nomatch absurdly
    before := fun _ absurdly => nomatch absurdly
    within := fun _ _ absurdly => nomatch absurdly }
  waiting := fun _ _ absurdly => nomatch absurdly

section Steps

variable {after : Session}

variable {other : ℕ} {found : Session}

theorem setSession_get (there : (s.setSession id after).get other = some found) :
    (other = id ∧ found = after ∧ id ∈ s.sessions) ∨ s.get other = some found := by
  obtain ⟨member, here⟩ := get_eq_some.mp there
  rcases update_eq_some here with ⟨rfl, same⟩ | ⟨_, kept⟩
  · cases same
    exact .inl ⟨rfl, rfl, member⟩
  · exact .inr (get_eq_some.mpr ⟨member, kept⟩)

theorem Live.setSession (live : Live limits s) (here : s.objects id = some session)
    (opened : after.isClosed = session.isClosed)
    (past : id ∈ s.sessions → after.createdAt + after.lastServiceRequest ≤ s.now)
    (later : id ∈ s.sessions → session.expiryDeadline limits ≤ after.expiryDeadline limits)
    (active : after.isActivated = false → session.isActivated = false) :
    Live limits (s.setSession id after) where
  within := {
    known :=
      fun other member absent => live.within.known other member (update_some_eq_none absent).2
    opened := by
      intro other found there
      rcases setSession_get there with ⟨rfl, rfl, member⟩ | kept
      · rw [opened]
        exact ⟨(live.within.opened other session (get_eq_some.mpr ⟨member, here⟩)).1, past member⟩
      · exact live.within.opened other found kept
    sorted := live.within.sorted
    listed := fun e member absent => live.within.listed e member (update_some_eq_none absent).2
    before := by
      intro e member found there
      rcases setSession_get there with ⟨same, rfl, inside⟩ | kept
      · rw [same] at there
        exact (live.within.before e member session
          (get_eq_some.mpr ⟨same.symm ▸ inside, same.symm ▸ here⟩)).trans (later inside)
      · exact live.within.before e member found kept
    within := by
      intro other found there fresh
      rcases setSession_get there with ⟨rfl, rfl, member⟩ | kept
      · exact live.within.within other session (get_eq_some.mpr ⟨member, here⟩) fresh
      · exact live.within.within other found kept fresh }
  waiting := by
    intro other found there inactive
    rcases setSession_get there with ⟨rfl, rfl, member⟩ | kept
    · exact live.waiting other session (get_eq_some.mpr ⟨member, here⟩) (active inactive)
    · exact live.waiting other found kept inactive

theorem Live.noted (live : Live limits s) (here : s.objects id = some session) :
    Live limits (s.setSession id (session.validateTimedOut s.now).1) := by
  have past : id ∈ s.sessions → session.createdAt + session.lastServiceRequest ≤ s.now :=
    fun member =>
    (live.within.opened id session (get_eq_some.mpr ⟨member, here⟩)).2
  refine live.setSession here rfl (fun member => ?_)
    (fun member => Session.expiryDeadline_noted (past member)) fun inactive => inactive
  have := past member
  show session.createdAt + (s.now - session.createdAt) ≤ s.now
  omega

theorem Live.push (live : Live limits s) {entry : SessionExpiryEntry}
    (known : s.objects entry.sessionId ≠ none)
    (before : ∀ session, s.get entry.sessionId = some session →
      entry.deadline ≤ session.expiryDeadline limits) :
    Live limits
      { s with expiryHeap := s.expiryHeap.orderedInsert SessionExpiryEntry.Before entry } where
  within := {
    known := live.within.known
    opened := live.within.opened
    sorted := live.within.sorted.orderedInsert _ _
    listed := by
      intro e member
      rcases (mem_orderedInsert _).mp member with rfl | member
      · exact known
      · exact live.within.listed e member
    before := by
      intro e member
      rcases (mem_orderedInsert _).mp member with rfl | member
      · exact before
      · exact live.within.before e member
    within := by
      intro other found there fresh
      obtain ⟨e, member, same⟩ := live.within.within other found there fresh
      exact ⟨e, (mem_orderedInsert _).mpr (.inr member), same⟩ }
  waiting := live.waiting

theorem expireSession_eq (found : s.get id = some session) : ∃ counters underflowed,
    s.expireSession id = { (s.remove id).shut id session with
      unactivatedByChannel := counters, underflowed := underflowed } := by
  unfold expireSession
  rw [found]
  dsimp only
  split_ifs
  · exact ⟨_, _, rfl⟩
  · exact ⟨_, _, rfl⟩

theorem expireSession_get (there : (s.expireSession id).get other = some found) :
    other ≠ id ∧ s.get other = some found := by
  cases seen : s.get id with
  | none =>
    unfold expireSession at there
    rw [seen] at there
    refine ⟨?_, there⟩
    rintro rfl
    rw [seen] at there
    cases there
  | some session =>
    obtain ⟨counters, underflowed, same⟩ := expireSession_eq seen
    rw [same] at there
    obtain ⟨member, here⟩ := get_eq_some.mp there
    have differs := Finset.ne_of_mem_erase member
    exact ⟨differs, get_eq_some.mpr ⟨Finset.mem_of_mem_erase member,
      (Function.update_of_ne differs ..).symm.trans here⟩⟩

theorem expireSession_frame (s : Server) (id : ℕ) :
    (s.expireSession id).sessions ⊆ s.sessions ∧ (s.expireSession id).expiryHeap = s.expiryHeap ∧
    (s.expireSession id).unactivatedHeap = s.unactivatedHeap ∧
    (s.expireSession id).returned = s.returned ∧ (s.expireSession id).now = s.now := by
  cases seen : s.get id with
  | none =>
    unfold expireSession
    rw [seen]
    exact ⟨subset_rfl, rfl, rfl, rfl, rfl⟩
  | some session =>
    obtain ⟨counters, underflowed, same⟩ := expireSession_eq seen
    rw [same]
    exact ⟨Finset.erase_subset .., rfl, rfl, rfl, rfl⟩

theorem expireSession_known (known : s.objects other ≠ none) :
    (s.expireSession id).objects other ≠ none := by
  cases seen : s.get id with
  | none =>
    unfold expireSession
    rw [seen]
    exact known
  | some session =>
    obtain ⟨counters, underflowed, same⟩ := expireSession_eq seen
    rw [same]
    exact fun absent => known (update_some_eq_none absent).2

theorem Within.expireSession (live : Within limits s) : Within limits (s.expireSession id) := by
  obtain ⟨fewer, heap, _, returned, now⟩ := expireSession_frame s id
  constructor
  · exact fun other member => expireSession_known (live.known other (fewer member))
  · intro other found there
    rw [now]
    exact live.opened other found (expireSession_get there).2
  · rw [heap]
    exact live.sorted
  · rw [heap]
    exact fun e member => expireSession_known (live.listed e member)
  · rw [heap]
    exact fun e member found there => live.before e member found (expireSession_get there).2
  · rw [heap, returned]
    exact fun other found there fresh => live.within other found (expireSession_get there).2 fresh

theorem Live.expireSession (live : Live limits s) : Live limits (s.expireSession id) := by
  refine ⟨live.within.expireSession, fun other found there inactive => ?_⟩
  rw [(expireSession_frame s id).2.2.1]
  exact live.waiting other found (expireSession_get there).2 inactive

variable {draft : CreateSessionDraft}

/-- **Room is made** without passing over all that waits for eviction. -/
theorem Live.makeRoom (live : Live limits s) {channelId : ℕ}
    (unhindered : Unhindered limits s (.create draft channelId locked)) :
    Live limits (s.makeRoom limits locked).1 ∧ (s.makeRoom limits locked).1.now = s.now ∧
      ∀ id, s.objects id = none → (s.makeRoom limits locked).1.objects id = none := by
  unfold Server.makeRoom
  split_ifs with full
  · have kept : ∀ id session, s.get id = some session → session.isActivated = false →
        (s.evictionLoop locked 0 s.unactivatedHeap).1 = some id ∨
          ∃ e ∈ (s.evictionLoop locked 0 s.unactivatedHeap).2, e.sessionId = id := by
      intro id session found inactive
      obtain ⟨k, entry, here, rfl, j, first, candidate, other, there, seen, idle, free⟩ :=
        unhindered full id session found inactive
      have free : locked (0 + j) = false := by rwa [Nat.zero_add]
      have loop := evictionLoop_kept here first there seen idle free
      exact loop.imp_right fun member => ⟨entry, member, rfl⟩
    split
    · rename_i evicted heap chosen
      rw [chosen] at kept
      obtain ⟨session, found, inactive⟩ := evictionLoop_eq_some chosen
      have trimmed : Within limits { s with unactivatedHeap := heap } :=
        ⟨live.within.known, live.within.opened, live.within.sorted, live.within.listed,
          live.within.before, live.within.within⟩
      have found : get { s with unactivatedHeap := heap } evicted = some session := found
      rw [evict_eq_expireSession found inactive]
      obtain ⟨_, _, waiting, _, now⟩ :=
        expireSession_frame { s with unactivatedHeap := heap } evicted
      refine ⟨⟨trimmed.expireSession, fun other session there idle => ?_⟩, now,
        fun id absent => expireSession_objects absent⟩
      obtain ⟨differs, before⟩ := expireSession_get there
      rw [waiting]
      refine (kept other session before idle).resolve_left fun same => differs ?_
      exact (some.inj same).symm
    · rename_i heap chosen
      rw [chosen] at kept
      exact ⟨⟨⟨live.within.known, live.within.opened, live.within.sorted, live.within.listed,
        live.within.before, live.within.within⟩, fun other session there idle =>
          (kept other session there idle).resolve_left nofun⟩, rfl, fun _ absent => absent⟩
  · exact ⟨live, rfl, fun _ absent => absent⟩

theorem publish_get (there : (s.publish limits draft).get other = some found) :
    (other = draft.session.sessionId ∧ found = draft.session) ∨ s.get other = some found := by
  obtain ⟨member, here⟩ := get_eq_some.mp there
  rcases update_eq_some here with ⟨rfl, same⟩ | ⟨differs, kept⟩
  · cases same
    exact .inl ⟨rfl, rfl⟩
  · exact .inr (get_eq_some.mpr ⟨Finset.mem_of_mem_insert_of_ne member differs, kept⟩)

section

variable (live : Live limits s)
include live

theorem Live.publish (fresh : s.objects draft.session.sessionId = none)
    (past : draft.session.createdAt ≤ s.now) : Live limits (s.publish limits draft) := by
  obtain ⟨unused, opened, requests⟩ := draft.unused
  have inactive : draft.session.isActivated = false := by
    rw [Session.isActivated, unused]
    rfl
  refine ⟨⟨?_, ?_, live.within.sorted.orderedInsert _ _, ?_, ?_, ?_⟩, ?_⟩
  · intro other member absent
    obtain ⟨differs, none⟩ := update_some_eq_none absent
    exact live.within.known other (Finset.mem_of_mem_insert_of_ne member differs) none
  · intro other found there
    rcases publish_get there with ⟨rfl, rfl⟩ | kept
    · rw [requests, Nat.add_zero]
      exact ⟨opened, past⟩
    · exact live.within.opened other found kept
  · intro e member absent
    obtain ⟨differs, none⟩ := update_some_eq_none absent
    rcases (mem_orderedInsert _).mp member with rfl | member
    · exact differs rfl
    · exact live.within.listed e member none
  · intro e member found there
    rcases (mem_orderedInsert _).mp member with rfl | member
    · rcases publish_get there with ⟨_, rfl⟩ | kept
      · exact Nat.le_refl _
      · exact absurd fresh (live.within.known _ (get_eq_some.mp kept).1)
    · rcases publish_get there with ⟨same, rfl⟩ | kept
      · exact absurd (same ▸ fresh) (live.within.listed e member)
      · exact live.within.before e member found kept
  · intro other found there unreturned
    rcases publish_get there with ⟨rfl, rfl⟩ | kept
    · exact ⟨_, (mem_orderedInsert _).mpr (.inl rfl), rfl⟩
    · obtain ⟨e, member, same⟩ := live.within.within other found kept unreturned
      exact ⟨e, (mem_orderedInsert _).mpr (.inr member), same⟩
  · intro other found there idle
    show ∃ e ∈ (if draft.session.isActivated then s.unactivatedHeap else
      s.unactivatedHeap.orderedInsert UnactivatedSessionEntry.Before
        ⟨draft.session.createdAt, draft.session.sessionId⟩), e.sessionId = other
    rw [inactive, if_neg Bool.false_ne_true]
    rcases publish_get there with ⟨rfl, rfl⟩ | kept
    · exact ⟨_, (mem_orderedInsert _).mpr (.inl rfl), rfl⟩
    · obtain ⟨e, member, same⟩ := live.waiting other found kept idle
      exact ⟨e, (mem_orderedInsert _).mpr (.inr member), same⟩

/-- **A check leaves each session that it does not return an entry.** -/
theorem Live.checkSessionExpiry (unhindered : Unhindered limits s (.check locked)) :
    Live limits (s.checkSessionExpiry limits s.now locked).1 := by
  obtain ⟨due, later, same, early, late, examined⟩ :=
    checkSessionExpiry_examined limits s.now locked live.within.sorted
  have old : ∀ e ∈ later, e ∈ s.expiryHeap := fun e member => by
    rw [same]
    exact mem_append_right _ member
  refine ⟨⟨live.within.known, live.within.opened, examined.sorted, ?_, ?_, ?_⟩, live.waiting⟩
  · intro e member absent
    rcases examined.origin e member with kept | ⟨session, found, _⟩
    · exact live.within.listed e (old e kept) absent
    · have absent : s.objects e.sessionId = none := absent
      rw [(get_eq_some.mp found).2] at absent
      cases absent
  · intro e member found there
    have there : s.get e.sessionId = some found := there
    rcases examined.origin e member with kept | ⟨session, seen, same⟩
    · exact live.within.before e (old e kept) found there
    · rw [there] at seen
      cases seen
      exact Nat.le_of_eq same
  · intro other found there fresh
    have unreturned : other ∉ s.returned := fun member => fresh (Finset.mem_union_left _ member)
    obtain ⟨k, entry, here, rfl, spared⟩ := unhindered other found there unreturned
    rcases checkSessionExpiry_kept live.within.sorted here there spared with given | kept
    · exact absurd (Finset.mem_union_right _ (mem_toFinset.mpr given)) fresh
    · exact kept

theorem Live.setActivating {call : ℕ} {later : Option (ℕ × ActivateCall)} :
    Live limits (s.setActivating call later) :=
  ⟨⟨live.within.known, live.within.opened, live.within.sorted, live.within.listed,
    live.within.before,
    live.within.within⟩, live.waiting⟩

/-- **An activation puts off the deadline,** and adds an entry where the session was not active. -/
theorem Live.activate (here : s.objects id = some session)
    {resolver : RoleResolver} {call : ActivateCall} {authentication : Authentication}
    (committed : session.commitActivation info resolver call.channel call.request call.activation
      call.serverNonce authentication = .ok after) :
    Live limits (s.activate id call.activation after) := by
  obtain ⟨_, _, _, roles, rfl⟩ := commitActivation_eq_ok committed
  generalize changed : session.activate call.channel.secureChannelId call.serverNonce
    call.request.userIdentityToken (requestedLocaleIds call.request session)
    authentication.userToken authentication.claims roles = after
  have deadline : after.deadline = session.deadline := by rw [← changed]; rfl
  have closed : after.isClosed = session.isClosed := by rw [← changed]; rfl
  have active : after.isActivated = !session.isClosed := by rw [← changed]; rfl
  have past : after.createdAt + after.lastServiceRequest =
      session.createdAt + session.lastServiceRequest := by rw [← changed]; rfl
  -- A session in the map is open, and active from now on.
  have final : id ∈ s.sessions → after.expiryDeadline limits = after.deadline := by
    intro member
    have opened := (live.within.opened id session (get_eq_some.mpr ⟨member, here⟩)).1
    rw [Session.expiryDeadline, active, opened]
    rfl
  have set : Live limits { s.setSession id after with activated := insert id s.activated } := by
    have plain : Live limits (s.setSession id after) := by
      refine live.setSession here closed (fun member => ?_) (fun member => ?_) fun inactive => ?_
      · rw [past]
        exact (live.within.opened id session (get_eq_some.mpr ⟨member, here⟩)).2
      · rw [final member, deadline]
        exact Session.expiryDeadline_le
      · rw [active] at inactive
        rw [Session.isActivated, inactive, Bool.and_false]
    exact ⟨⟨plain.within.known, plain.within.opened, plain.within.sorted, plain.within.listed,
      plain.within.before, plain.within.within⟩, plain.waiting⟩
  unfold activate
  split_ifs
  · have pushed : Live limits { s.setSession id after with
        activated := insert id s.activated
        expiryHeap :=
          s.expiryHeap.orderedInsert SessionExpiryEntry.Before ⟨after.deadline, id⟩ } := by
      refine set.push ?_ fun found there => ?_
      · show Function.update s.objects id (some after) id ≠ none
        rw [Function.update_self]
        exact some_ne_none _
      · have there : (s.setSession id after).get id = some found := there
        obtain ⟨member, same⟩ := get_eq_some.mp there
        have same : Function.update s.objects id (some after) id = some found := same
        rw [Function.update_self, some.injEq] at same
        exact same ▸ Nat.le_of_eq (final member).symm
    exact ⟨⟨pushed.within.known, pushed.within.opened, pushed.within.sorted, pushed.within.listed,
      pushed.within.before, pushed.within.within⟩, pushed.waiting⟩
  · exact set

theorem Live.step {op : Op} (unhindered : Unhindered limits s op)
    (stepped : (machine limits info).step s op = some t) : Live limits t := by
  cases op <;> simp only [machine] at stepped
  case create draft channelId locked =>
    split_ifs at stepped with fresh
    cases stepped
    obtain ⟨made, now, absent⟩ := live.makeRoom unhindered
    unfold commitCreateSessionDraft
    generalize s.makeRoom limits locked = result at made now absent
    obtain ⟨room, enough⟩ := result
    have counted : Live limits (room.counted draft.secureChannelId) :=
      ⟨⟨made.within.known, made.within.opened, made.within.sorted, made.within.listed,
        made.within.before, made.within.within⟩, made.waiting⟩
    cases enough with
    | false => exact made
    | true =>
      dsimp only
      split_ifs
      · exact counted
      · exact counted
      · exact counted.publish (absent _ (isNone_iff_eq_none.mp fresh.1))
          (fresh.2.2.2.trans_eq now.symm)
  case request token =>
    split at stepped
    · cases stepped
      exact live
    · obtain ⟨session, here, rfl⟩ := map_eq_some_iff.mp stepped
      exact live.noted here
  case checkActivate id token channel request serverNonce =>
    split_ifs at stepped
    split at stepped
    · cases stepped
      exact live
    · obtain ⟨session, here, rfl⟩ := map_eq_some_iff.mp stepped
      have noted := live.noted here
      unfold checkActivate
      dsimp only
      split
      · exact noted
      · split
        · exact noted
        · exact ⟨⟨noted.within.known, noted.within.opened, noted.within.sorted, noted.within.listed,
            noted.within.before, noted.within.within⟩, noted.waiting⟩
  case verifyActivate id =>
    split at stepped
    · split_ifs at stepped
      cases stepped
      unfold verifyActivate
      split <;> exact live.setActivating
    · cases stepped
  case commitActivate id resolver authentication =>
    split at stepped
    · split_ifs at stepped
      obtain ⟨session, here, rfl⟩ := map_eq_some_iff.mp stepped
      unfold commitActivate
      split
      · exact live.setActivating
      · split
        · exact live.setActivating
        · rename_i committed
          exact (live.activate here committed).setActivating
    · cases stepped
  case checkClose | terminate | failClose | finishClose => cases unhindered
  case expire id =>
    cases stepped
    exact live.expireSession
  case check locked =>
    cases stepped
    exact live.checkSessionExpiry unhindered
  case wait time =>
    cases stepped
    exact ⟨⟨live.within.known, fun other found there =>
      (live.within.opened other found there).imp_right fun past => Nat.le_add_right_of_le past,
      live.within.sorted, live.within.listed, live.within.before, live.within.within⟩, live.waiting⟩

end
end Steps

/-- **Every live session can still expire, and be evicted,** in every unhindered run of creating,
activating, checking and expiring sessions: a session in the map that was not returned by a check
has an entry in the heap, and is returned by each check after its deadline that can read it; and one
that is not activated waits for eviction. -/
theorem live_of_unhindered (limits : Limits) (info : ServerInfo) {ops : List Op} {s : Server}
    (unhindered : (machine limits info).Guarded (Unhindered limits) start ops)
    (ran : (machine limits info).run start ops = some s) :
    ∀ id ∈ s.sessions, ∃ session, s.objects id = some session ∧
      (id ∉ s.returned → (∃ e ∈ s.expiryHeap, e.sessionId = id) ∧
        ∀ locked, session.expiryDeadline limits ≤ s.now →
          (∀ k e, s.expiryHeap[k]? = some e → e.sessionId = id → locked k = false) →
          id ∈ (s.checkSessionExpiry limits s.now locked).2.2) ∧
      (session.isActivated = false → ∃ e ∈ s.unactivatedHeap, e.sessionId = id) := by
  have live : Live limits s := (machine limits info).run_invariant_of_guarded
    (fun _ _ _ live meets stepped => Live.step live meets stepped) live_start unhindered ran
  intro id member
  obtain ⟨session, here⟩ := ne_none_iff_exists'.mp (live.within.known id member)
  have found : s.get id = some session := get_eq_some.mpr ⟨member, here⟩
  refine ⟨session, here, fun fresh => ?_, live.waiting id session found⟩
  obtain ⟨entry, listed, rfl⟩ := live.within.within id session found fresh
  refine ⟨⟨entry, listed, rfl⟩, fun locked beyond free => ?_⟩
  obtain ⟨k, here⟩ := mem_iff_getElem?.mp listed
  exact checkSessionExpiry_returned live.within.sorted here found (free k entry here rfl)
    (live.within.before entry listed session found) beyond

/-- A session is created, and due after a check that came too early. -/
def checkedEarly : List Op :=
  [.create openDraft 7 fun _ => false, .check fun _ => true, .wait 60]

theorem checkedEarly_live : ∃ s,
    (machine smallLimits openServer).run start checkedEarly = some s ∧ s.sessions = {1} ∧
      s.returned = ∅ ∧ (∃ e ∈ s.expiryHeap, e.sessionId = 1) ∧
      1 ∈ (s.checkSessionExpiry smallLimits s.now fun _ => false).2.2 ∧
      ∃ e ∈ s.unactivatedHeap, e.sessionId = 1 := by
  have unhindered : (machine smallLimits openServer).Guarded (Unhindered smallLimits) start
      checkedEarly := by
    refine .cons _ rfl (fun full => absurd full (by decide)) ?_
    refine .cons _ rfl (fun id session found _ => ?_) (.cons _ rfl rfl trivial)
    obtain rfl := Finset.mem_singleton.mp (get_eq_some.mp found).1
    exact ⟨0, ⟨60, 1⟩, rfl, rfl, .inl (by decide)⟩
  obtain ⟨session, here, kept, waits⟩ := live_of_unhindered smallLimits openServer unhindered rfl 1
    (Finset.mem_insert_self ..)
  cases here
  obtain ⟨entered, returns⟩ := kept (Finset.notMem_empty 1)
  exact ⟨_, rfl, rfl, rfl, entered, returns (fun _ => false) (by decide) fun _ _ _ _ => rfl,
    waits rfl⟩

/-- A session is checked after its deadline while it is locked. -/
def checkedLocked : List Op :=
  [.create openDraft 7 fun _ => false, .wait 60, .check fun _ => true]

/-- **A session that is locked when it is due is lost:** it stays in the map, and no check will
return it. -/
theorem locked_session_lost :
    ¬ ∀ (limits : Limits) (info : ServerInfo) (ops : List Op) (s : Server),
      (∀ op ∈ ops, op.isClose = false) → (machine limits info).run start ops = some s →
      (∀ id ∈ s.sessions, id ∉ s.returned → ∃ e ∈ s.expiryHeap, e.sessionId = id) ∧
      ∀ id session, s.get id = some session → session.isActivated = false →
        ∃ e ∈ s.unactivatedHeap, e.sessionId = id := by
  intro always
  have kept := (always smallLimits openServer checkedLocked _ (by simp [checkedLocked, Op.isClose])
    rfl).1 1 (Finset.mem_insert_self ..) (by decide)
  obtain ⟨e, member, _⟩ := kept
  cases member

end Server

end AsyncOpcua.Sessions
