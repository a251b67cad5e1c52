/-
**Following the continuation points of a browse.**

A client follows a browse by asking for the next page with each point it gets, whatever else the
session browses in between. The identifiers of the points are drawn at random, and a drawn
identifier is not one that the session keeps a point under.
-/

import AsyncOpcua.View.Debts
import Mathlib.Algebra.Order.BigOperators.Group.List

namespace AsyncOpcua.View

open Types Foundation List Option

def BrowseResult.page (result : BrowseResult) : List ReferenceDescription :=
  result.references.getD []

/-- A browse of the session, with the random identifiers it draws. -/
inductive Call where
  | browse (request : BrowseRequest) (draws : ℕ → List UInt8)
  | browseNext (request : BrowseNextRequest) (draws : ℕ → List UInt8)

namespace Call

def draws : Call → ℕ → List UInt8
  | .browse _ draws => draws
  | .browseNext _ draws => draws

def Names (id : ByteString) : Call → Prop
  | .browse .. => False
  | .browseNext request _ => id ∈ request.continuationPoints

end Call

structure Fresh (session : Session) (draws : ℕ → List UInt8) : Prop where
  distinct : Function.Injective draws
  unused : ∀ k, session.browseContinuationPoints.lookup (some (draws k)) = none

namespace Server

def answer (server : Server) (session : Session) : Call →
    Except StatusCode (List (Option BrowseResult)) × Session
  | .browse request draws => server.browse draws session request
  | .browseNext request draws => server.browseNext draws session request

def afterCalls (server : Server) (session : Session) (calls : List Call) : Session :=
  calls.foldl (fun session call => (server.answer session call).2) session

variable {server : Server} {session : Session}

theorem answer_frame (server : Server) (session : Session) (call : Call) :
    (∀ id, (∀ k, id ≠ some (call.draws k)) →
      (server.answer session call).2.browseContinuationPoints.lookup id =
          session.browseContinuationPoints.lookup id ∨
        call.Names id ∧
          (server.answer session call).2.browseContinuationPoints.lookup id = none) ∧
      (session.Within → (server.answer session call).2.Within) := by
  cases call with
  | browse request draws =>
    obtain ⟨points, within⟩ := browse_frame server draws session request
    exact ⟨fun id undrawn => .inl (points id undrawn), within⟩
  | browseNext request draws => exact browseNext_frame server draws session request

inductive Followed (server : Server) :
    Session → ByteString → List BrowseResult → Session → ByteString → Prop
  | here (session : Session) (id : ByteString) : Followed server session id [] session id
  /-- Another browse in between. -/
  | other {session last : Session} {id final : ByteString} {pages : List BrowseResult}
      (call : Call) (fresh : Fresh session call.draws) (unnamed : ¬ call.Names id)
      (onward : Followed server (server.answer session call).2 id pages last final) :
      Followed server session id pages last final
  /-- The next page, unless its own point was refused. -/
  | next {session after last : Session} {id final : ByteString} {page : BrowseResult}
      {pages : List BrowseResult} {request : BrowseNextRequest} {draws : ℕ → List UInt8}
      {results : List (Option BrowseResult)} {k : ℕ} (returned : id ≠ none)
      (fresh : Fresh session draws) (going : request.releaseContinuationPoints = false)
      (asked : request.continuationPoints[k]? = some id)
      (first : id ∉ request.continuationPoints.take k)
      (served : server.browseNext draws session request = (.ok results, after))
      (answered : results[k]? = some (some page))
      (kept : page.statusCode ≠ .BadNoContinuationPoints)
      (onward : Followed server after page.continuationPoint pages last final) :
      Followed server session id (page :: pages) last final

theorem Followed.trans {first mid last : Session} {id more final : ByteString}
    {pages further : List BrowseResult} (followed : Followed server first id pages mid more)
    (onward : Followed server mid more further last final) :
    Followed server first id (pages ++ further) last final := by
  induction followed with
  | here => exact onward
  | other call fresh unnamed _ ih => exact .other call fresh unnamed (ih onward)
  | next returned fresh going asked named served answered kept _ ih =>
    exact .next returned fresh going asked named served answered kept (ih onward)

variable (server) (description : BrowseDescription) (maxReferencesPerNode : ℕ)

def Keeps (session : Session) (id : ByteString) : Option Place → Prop
  | none => id = none
  | some place => id ≠ none ∧ session.Within ∧ ∃ point,
      session.browseContinuationPoints.lookup id = some point ∧
        server.Stands description maxReferencesPerNode point place

variable {server description maxReferencesPerNode}

theorem Answered.pays {draws : ℕ → List UInt8} {answers : Answers} {place : Place} {k : ℕ}
    (valid : description.nodeId.isNull = false) (positive : 0 < maxReferencesPerNode)
    (inside : place.nodeManagerIndex < server.nodeManagerCount)
    (answered : server.Answered draws answers
      (server.serve (place.node description maxReferencesPerNode k))) :
    ∃ result, answers.1[k]? = some (some result) ∧
      (result.statusCode ≠ .BadNoContinuationPoints →
        result.statusCode = .Good ∧ ∃ next : Option Place,
          server.Keeps description maxReferencesPerNode answers.2 result.continuationPoint next ∧
          Pays maxReferencesPerNode (server.restart description) (server.debt description place)
            result.page (next.map (server.debt description))) := by
  obtain ⟨result, there, references, kept⟩ := answered
  rw [inputIndex_serve] at there
  obtain ⟨good, next, stands, pays⟩ := serve_pays valid positive inside k
    (some (draws (server.serve (place.node description maxReferencesPerNode k)).2.inputIndex))
  have page : result.page =
      (server.serve (place.node description maxReferencesPerNode k)).2.references := by
    unfold BrowseResult.page
    rw [references]
    rfl
  refine ⟨result, there, fun accepted => ?_⟩
  rw [page]
  change Option.Rel _ (server.pointOf draws _) next at stands
  cases left : server.pointOf draws
      (server.serve (place.node description maxReferencesPerNode k)) with
  | none =>
    rw [left] at kept stands
    cases stands
    exact ⟨kept.1.trans good, none, kept.2, pays⟩
  | some point =>
    rw [left] at kept stands
    cases stands with
    | some stands =>
      obtain ⟨status, id, lookup, within⟩ := kept.resolve_left fun refused => accepted refused.1
      refine ⟨status.trans good, some _, ⟨?_, within, point, ?_, stands⟩, pays⟩
      · rw [id, id_of_pointOf left]
        exact some_ne_none _
      · rw [id]
        exact lookup

theorem Followed.pays {first last : Session} {id final : ByteString} {pages : List BrowseResult}
    (valid : description.nodeId.isNull = false) (positive : 0 < maxReferencesPerNode)
    (followed : Followed server first id pages last final) {start : Option Place}
    (keeps : server.Keeps description maxReferencesPerNode first id start) :
    (∀ page ∈ pages, page.statusCode = .Good) ∧ ∃ stop : Option Place,
      server.Keeps description maxReferencesPerNode last final stop ∧
      Instalments maxReferencesPerNode (server.restart description)
        (start.map (server.debt description)) (pages.map BrowseResult.page)
        (stop.map (server.debt description)) := by
  induction followed generalizing start with
  | here => exact ⟨fun _ member => absurd member not_mem_nil, start, keeps, .refl _⟩
  | @other session _ id _ _ call fresh unnamed _ ih =>
    refine ih ?_
    cases start with
    | none => exact keeps
    | some place =>
      obtain ⟨returned, within, point, lookup, stands⟩ := keeps
      obtain ⟨points, inside⟩ := answer_frame server session call
      have undrawn (k : ℕ) : id ≠ some (call.draws k) := by
        rintro rfl
        rw [fresh.unused k] at lookup
        cases lookup
      have still := (points id undrawn).resolve_right fun named => unnamed named.1
      exact ⟨returned, inside within, point, still.trans lookup, stands⟩
  | next returned fresh going asked named served answered kept _ ih =>
    cases start with
    | none => exact absurd keeps returned
    | some place =>
      obtain ⟨-, within, point, lookup, stands, inside⟩ := keeps
      have own := browseNext_answered fresh.distinct going served asked named lookup
        (stands.1.trans_lt inside)
      rw [Place.node_of_isPoint stands] at own
      obtain ⟨result, there, pays⟩ := own.pays valid positive inside
      obtain rfl : result = _ := some.inj (some.inj (there.symm.trans answered))
      obtain ⟨good, next, keeps, pays⟩ := pays kept
      obtain ⟨goods, stop, ends, paid⟩ := ih keeps
      refine ⟨fun page member => ?_, stop, ends, .step pays paid⟩
      rcases mem_cons.mp member with rfl | member
      · exact good
      · exact goods page member

/-! ### A browse can be followed -/

theorem exists_fresh (session : Session) : ∃ draws, Fresh session draws := by
  let n := (session.browseContinuationPoints.keys.map fun id => (id.getD []).length).sum + 1
  refine ⟨fun k => replicate (n + k) 0, fun j k same => ?_, fun k => ?_⟩
  · have lengths := congrArg length same
    rw [length_replicate, length_replicate] at lengths
    omega
  · rw [AList.lookup_eq_none]
    intro member
    have counted := le_sum_of_mem
      (mem_map_of_mem (f := fun id : ByteString => (id.getD []).length)
        (AList.mem_keys.mp member))
    rw [getD_some, length_replicate] at counted
    omega

section

variable (valid : description.nodeId.isNull = false) (positive : 0 < maxReferencesPerNode)
  (allowed : 0 < server.maxNodesPerBrowse) {session : Session} {id : ByteString}
include valid positive allowed

/-- **The next page can be asked for,** and the room that its point needs is there. -/
theorem exists_next {place : Place}
    (keeps : server.Keeps description maxReferencesPerNode session id (some place)) :
    ∃ page after, Followed server session id [page] after page.continuationPoint := by
  obtain ⟨returned, within, point, lookup, stands, inside⟩ := keeps
  obtain ⟨draws, fresh⟩ := exists_fresh session
  let request : BrowseNextRequest := ⟨false, [id]⟩
  have taken : takePoints 0 request.continuationPoints session =
      ([.fromContinuationPoint point 0], [none],
        (session.removeBrowseContinuationPoint id).2) := by
    rw [takePoints_cons, lookup]
    rfl
  rcases served : server.browseNext draws session request with ⟨response, after⟩
  cases response with
  | error status =>
    unfold browseNext at served
    rw [if_neg (by exact Bool.false_ne_true), if_neg (by exact Nat.not_lt_of_le allowed), taken]
      at served
    dsimp only at served
    cases served
  | ok results =>
    -- The only node of the request is the only one to be answered.
    obtain ⟨outcomes, entered, among, all⟩ := browseNext_outcomes rfl served
    rw [taken] at entered among all
    have mine := all _ (mem_singleton_self _) (stands.1.trans_lt inside)
    have alone : outcomes = [server.serve (.fromContinuationPoint point 0)] := by
      have few := among.length_le
      rw [length_map] at few
      obtain ⟨only, rfl⟩ := length_eq_one_iff.mp
        (Nat.le_antisymm few (length_pos_of_mem mine))
      rw [mem_singleton.mp mine]
    rw [alone, foldl_cons, foldl_nil] at entered
    obtain ⟨result, kept, stored, -, cases⟩ := store_cases server draws
      ([none], (session.removeBrowseContinuationPoint id).2)
      (server.serve (.fromContinuationPoint point 0))
    rw [stored, inputIndex_serve] at entered
    have there : results[0]? = some (some result) := by
      rw [(Prod.mk.inj entered).1]
      rfl
    have good : (server.serve (.fromContinuationPoint point 0)).2.statusCode = .Good := by
      rw [Place.node_of_isPoint stands]
      exact (serve_pays valid positive inside 0 none).1
    have room : KeyedMap.size
        (session.removeBrowseContinuationPoint id).2.browseContinuationPoints <
          (session.removeBrowseContinuationPoint id).2.maxBrowseContinuationPoints :=
      (KeyedMap.size_erase_lt lookup).trans_le within
    have accepted : result.statusCode ≠ .BadNoContinuationPoints := by
      have status : result.statusCode = .Good := by
        rcases cases with ⟨-, -, status, -⟩ | ⟨left, -, ⟨-, refused, -⟩ | ⟨-, status, -⟩⟩
        · exact status.trans good
        · unfold Session.addBrowseContinuationPoint at refused
          rw [if_neg (Nat.not_le_of_lt room)] at refused
          cases refused
        · exact status.trans good
      rw [status]
      decide
    exact ⟨result, after, .next returned fresh rfl (k := 0) rfl (not_mem_nil) served there
      accepted (.here ..)⟩

/-- **A browse can be followed to its end,** or for as many pages as one likes. -/
theorem exists_pages {start : Option Place}
    (keeps : server.Keeps description maxReferencesPerNode session id start) (n : ℕ) :
    ∃ pages last final, Followed server session id pages last final ∧
      (pages.length = n ∨ final = none) := by
  induction n generalizing session id start with
  | zero => exact ⟨[], session, id, .here .., .inl rfl⟩
  | succ n ih =>
    cases start with
    | none => exact ⟨[], session, id, .here .., .inr keeps⟩
    | some place =>
      obtain ⟨page, after, once⟩ := exists_next valid positive allowed keeps
      obtain ⟨-, next, keeps, -⟩ := once.pays valid positive keeps
      obtain ⟨pages, last, final, onward, ends⟩ := ih keeps
      exact ⟨page :: pages, last, final, once.trans onward,
        ends.imp_left (congrArg (· + 1))⟩

end

/-- **A point that was used or released is invalid afterwards,** as long as its identifier is not
drawn again. -/
theorem spent_invalid {session after : Session} {id : ByteString} (calls : List Call)
    {request next : BrowseNextRequest} {draws later : ℕ → List UInt8} {k : ℕ}
    {results answers : List (Option BrowseResult)} (spent : id ∈ request.continuationPoints)
    (served : server.browseNext draws session request = (.ok answers, after))
    (undrawn : ∀ k, id ≠ some (draws k)) (never : ∀ call ∈ calls, ∀ k, id ≠ some (call.draws k))
    (going : next.releaseContinuationPoints = false) {last : Session}
    (asked : next.continuationPoints[k]? = some id)
    (answered : server.browseNext later (server.afterCalls after calls) next =
      (.ok results, last)) :
    results[k]? = some (some ⟨.BadContinuationPointInvalid, none, none⟩) := by
  have removed : after.browseContinuationPoints.lookup id = none := by
    rw [(browseNext_points served).1 id undrawn, if_pos spent]
  have stays (calls : List Call) (never : ∀ call ∈ calls, ∀ k, id ≠ some (call.draws k))
      (session : Session) (gone : session.browseContinuationPoints.lookup id = none) :
      (server.afterCalls session calls).browseContinuationPoints.lookup id = none := by
    induction calls generalizing session with
    | nil => exact gone
    | cons call calls ih =>
      refine ih (fun other member => never other (.tail _ member)) _ ?_
      rcases (answer_frame server session call).1 id (never call (.head _)) with same | ⟨-, gone⟩
      · exact same.trans gone
      · exact gone
  exact browseNext_invalid going answered asked (.inl (stays calls never after removed))

end Server

end AsyncOpcua.View
