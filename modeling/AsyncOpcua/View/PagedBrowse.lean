/-
**A browse that is followed to its end.**

The pages of a browse are complete exactly in these cases. The managers' tables must have every
visible reference once: a reference to a missing node of a namespace that its own manager serves is
skipped, one whose target's manager does not serve the target's namespace is not resolved, and one
that two managers hold is returned twice. And the references to other managers' nodes must fit on
the page after the last of the others, and must not come after a full page of the last manager: that
manager is the last to be asked, so that a page it fills leaves no continuation point, and a point
for what does not fit makes it start over.

* `pagedCompletely_iff` — exactly these.
* `canBePaged_of_agree` — the tables of managers that agree have every visible reference once.
-/

import AsyncOpcua.View.Following

namespace AsyncOpcua.View

open Types Nodes Foundation Option

open InMemoryNodeManager

open List

namespace Server

variable (server : Server) (description : BrowseDescription)

/-- **A matching reference that the user may see:** some manager has it, and its target, which the
user may browse, is a node of some manager. -/
def Visible (rf : ReferenceRef) : Prop :=
  (∃ manager ∈ server.nodeManagers, rf ∈ manager.addressSpace.findReferences server.typeTree
    description.nodeId none description.browseDirection) ∧
  ∃ manager ∈ server.nodeManagers, ∃ target,
    manager.addressSpace.findNode rf.targetNode = some target ∧
      canBrowseTarget target = true ∧
      description.matchesFilter server.typeTree
        ((getReference rf.targetNode target).intoRefDesc
          (rf.direction = .forward) rf.referenceType) = true

variable {server description}

theorem resolveNode_eq_some {id : NodeId} {found : NodeMetadata}
    (resolved : server.resolveNode id = some found) :
    ∃ manager ∈ server.nodeManagers, ∃ target,
      manager.addressSpace.findNode id = some target ∧
        canBrowseTarget target = true ∧
        found = getReference id target := by
  have somewhere (managers : List InMemoryNodeManager) (item : Option NodeMetadata)
      (after : managers.foldl (fun item manager =>
        if manager.ownsNode id then manager.resolveExternalReference id item else item) item =
          some found) :
      item = some found ∨ ∃ manager ∈ managers, ∃ target,
        manager.addressSpace.findNode id = some target ∧
          canBrowseTarget target = true ∧
          found = getReference id target := by
    induction managers generalizing item with
    | nil => exact .inl after
    | cons manager managers ih =>
      rcases ih _ after with here | ⟨other, member, there⟩
      · dsimp only at here
        unfold resolveExternalReference at here
        split at here
        · split at here
          · exact .inl here
          · next target there =>
            split at here
            · exact .inl here
            · next allowed =>
              refine .inr ⟨manager, .head _, target, there, ?_, (some.inj here).symm⟩
              simpa using allowed
        · exact .inl here
      · exact .inr ⟨other, .tail _ member, there⟩
  exact (somewhere _ none resolved).resolve_left (some_ne_none _).symm

section

variable {manager : InMemoryNodeManager} (member : manager ∈ server.nodeManagers)
include member

variable {described : ReferenceDescription}

theorem visible_of_locals (found : described ∈ manager.locals server.typeTree description) :
    server.Visible description described.reference := by
  obtain ⟨reference, walked, found⟩ := mem_locals.mp found
  obtain ⟨target, there, allowed, asked, rfl⟩ := find_eq_inl found
  rw [reference_refDesc]
  exact ⟨⟨manager, member, mem_walk walked⟩, manager, member, target, there,
    allowed, asked⟩

theorem visible_of_externals {rf : ExternalReference}
    (left : rf ∈ manager.externals server.typeTree description)
    (resolved : BrowseNode.resolve description server.typeTree server.resolveNode rf =
      some described) :
    server.Visible description described.reference := by
  obtain ⟨reference, walked, found⟩ := mem_externals.mp left
  obtain ⟨-, -, rfl⟩ := find_eq_inr found
  obtain ⟨mapped, asked⟩ := filter_eq_some_iff.mp resolved
  obtain ⟨data, known, rfl⟩ := map_eq_some_iff.mp mapped
  obtain ⟨owner, there, target, held, allowed, rfl⟩ := resolveNode_eq_some known
  rw [ExternalReference.reference_intoReference]
  refine ⟨⟨manager, member, mem_walk walked⟩, owner, there, target, held,
    allowed, ?_⟩
  exact (BrowseDescription.matchesFilter_intoReference description server.typeTree
    ⟨reference.targetNode, reference.referenceType, reference.direction⟩ _ rfl).symm.trans asked

end

theorem debt_start (server : Server) (description : BrowseDescription) :
    (server.debt description .start).now =
        server.nodeManagers.flatMap (·.locals server.typeTree description) ∧
      (server.debt description .start).late =
        (server.nodeManagers.flatMap (·.externals server.typeTree description)).filterMap
          (BrowseNode.resolve description server.typeTree server.resolveNode) := by
  unfold debt Place.start
  dsimp only
  rw [drop_zero, queues_none, refers_none, nil_append]
  exact ⟨(flatMap_def ..).symm, rfl⟩

variable {described : ReferenceDescription}

theorem visible_of_owed (index : ℕ)
    (owed : described ∈ (server.debt description ⟨index, none, []⟩).now ++
      (server.debt description ⟨index, none, []⟩).late) :
    server.Visible description described.reference := by
  unfold debt at owed
  dsimp only at owed
  rw [queues_none, refers_none, nil_append] at owed
  rcases mem_append.mp owed with now | late
  · obtain ⟨found, listed, now⟩ := mem_flatten.mp now
    obtain ⟨manager, member, rfl⟩ := mem_map.mp listed
    exact visible_of_locals (mem_of_mem_drop member) now
  · obtain ⟨rf, left, resolved⟩ := mem_filterMap.mp late
    obtain ⟨manager, member, left⟩ := mem_flatMap.mp left
    exact visible_of_externals (mem_of_mem_drop member) left resolved

variable (server description) (maxReferencesPerNode : ℕ)

structure PagedCompletely (session : Session) (first : BrowseResult) : Prop where
  /-- Each returned point can be used for a next page. -/
  answered : ∀ {pages last id}, Followed server session first.continuationPoint pages last id →
    id ≠ none → ∀ {request draws k results after}, Fresh last draws →
      request.releaseContinuationPoints = false → request.continuationPoints[k]? = some id →
      id ∉ request.continuationPoints.take k →
      server.browseNext draws last request = (.ok results, after) →
      ∃ page, results[k]? = some (some page)
  /-- It ends after finitely many calls. -/
  ends : ∃ bound, ∀ {pages last id},
    Followed server session first.continuationPoint pages last id → pages.length ≤ bound
  good : ∀ {pages last id}, Followed server session first.continuationPoint pages last id →
    ∀ page ∈ first :: pages,
      page.statusCode = .Good ∧ page.page.length ≤ maxReferencesPerNode
  /-- Together the pages are the visible references, each once. -/
  complete : ∀ {pages last}, Followed server session first.continuationPoint pages last none →
    (((first :: pages).flatMap BrowseResult.page).map (·.reference)).Nodup ∧
      ∀ rf, rf ∈ ((first :: pages).flatMap BrowseResult.page).map (·.reference) ↔
        server.Visible description rf

/-- **A continuation point that was used or released is invalid afterwards,** if its identifier is
not drawn again. -/
def SpentInvalid : Prop :=
  ∀ {session after last : Session} {id : ByteString} (calls : List Call)
    {request next : BrowseNextRequest} {draws later : ℕ → List UInt8} {k : ℕ}
    {results answers : List (Option BrowseResult)}, id ∈ request.continuationPoints →
    server.browseNext draws session request = (.ok answers, after) →
    (∀ k, id ≠ some (draws k)) → (∀ call ∈ calls, ∀ k, id ≠ some (call.draws k)) →
    next.releaseContinuationPoints = false → next.continuationPoints[k]? = some id →
    server.browseNext later (server.afterCalls after calls) next = (.ok results, last) →
    results[k]? = some (some ⟨.BadContinuationPointInvalid, none, none⟩)

/-- **When a browse can be paged:** the request is a valid one; and the managers get done with what
they find, which is every visible reference, and once. -/
def CanBePaged : Prop :=
  server.refusal description = none ∧ description.nodeId.isNull = false ∧
    ∃ all, (server.debt description .start).Settled maxReferencesPerNode
        (server.restart description) all ∧
      (all.map (·.reference)).Nodup ∧
      ∀ rf, server.Visible description rf → rf ∈ all.map (·.reference)

variable {server description maxReferencesPerNode} {session after : Session}
  {request : BrowseRequest} {draws : ℕ → List UInt8} {results : List (Option BrowseResult)} {k : ℕ}
  {first : BrowseResult}

theorem visible_of_settled {all : List ReferenceDescription}
    (settled : (server.debt description .start).Settled maxReferencesPerNode
      (server.restart description) all)
    (paid : described ∈ all) : server.Visible description described.reference := by
  cases settled with
  | forgets => exact visible_of_owed 0 (mem_append_left _ paid)
  | fits => exact visible_of_owed 0 paid
  | restarts =>
    rcases mem_append.mp paid with paid | again
    · refine visible_of_owed 0 (mem_append.mpr ?_)
      exact (mem_append.mp paid).imp_right mem_of_mem_take
    · exact visible_of_owed _ (mem_append_right _ again)

theorem restart_within (server : Server) (description : BrowseDescription) :
    ∀ described ∈ (server.restart description).now,
      described ∈ (server.debt description .start).now := by
  intro described owed
  rw [(debt_start server description).1]
  unfold restart debt at owed
  dsimp only at owed
  rw [queues_none] at owed
  obtain ⟨found, listed, now⟩ := mem_flatten.mp owed
  obtain ⟨manager, member, rfl⟩ := mem_map.mp listed
  exact mem_flatMap.mpr ⟨manager, mem_of_mem_drop member, now⟩

theorem first_pays (fresh : Fresh session draws)
    (served : server.browse draws session request = (.ok results, after))
    (asked : request.nodesToBrowse[k]? = some description)
    (answered : results[k]? = some (some first))
    (kept : first.statusCode ≠ .BadNoContinuationPoints)
    (positive : 0 < server.maxReferencesPerNode request)
    (some_manager : 0 < server.nodeManagerCount)
    (accepted : server.refusal description = none) (valid : description.nodeId.isNull = false) :
    first.statusCode = .Good ∧ ∃ next : Option Place,
      server.Keeps description (server.maxReferencesPerNode request) after first.continuationPoint
        next ∧
      Pays (server.maxReferencesPerNode request) (server.restart description)
        (server.debt description .start) first.page (next.map (server.debt description)) := by
  have own := browse_answered fresh.distinct served asked accepted
  obtain ⟨result, there, pays⟩ :=
    @Answered.pays server description _ draws _ .start k valid positive
    some_manager own
  obtain rfl : result = first := some.inj (some.inj (there.symm.trans answered))
  exact pays kept

theorem status_serve_null {description : BrowseDescription}
    (null : description.nodeId.isNull = true) (maxReferencesPerNode k : ℕ) :
    (server.serve (.new description maxReferencesPerNode k)).2.statusCode = .BadNodeIdUnknown := by
  have kept := pass_keeps server
    (fun node => node.description = description ∧ node.statusCode = .BadNodeIdUnknown)
    (fun manager node here => by
      unfold InMemoryNodeManager.browse
      rw [here.1, null, if_pos rfl]
      exact here)
    (server.nodeManagers.drop 0) 0
    (⟨rfl, rfl⟩ : (BrowseNode.new description maxReferencesPerNode k).description = description ∧ _)
  unfold serve
  rw [show (BrowseNode.new description maxReferencesPerNode k).startNodeManager = 0 from rfl]
  cases passed : server.pass 0 (server.nodeManagers.drop 0)
      (.new description maxReferencesPerNode k) with
  | inl outcome =>
    rw [passed] at kept
    exact kept.2
  | inr last =>
    rw [passed] at kept
    exact (BrowseNode.statusCode_resolveExternalReferences ..).trans kept.2

section

variable (fresh : Fresh session draws)
  (served : server.browse draws session request = (.ok results, after))
  (asked : request.nodesToBrowse[k]? = some description)
  (answered : results[k]? = some (some first))
include fresh served asked answered

theorem valid_of_good (good : first.statusCode = .Good) :
    server.refusal description = none ∧ description.nodeId.isNull = false := by
  have accepted : server.refusal description = none := by
    cases refused : server.refusal description with
    | none => rfl
    | some result =>
      have same := (browse_refused served asked refused).symm.trans answered
      obtain rfl : result = first := some.inj (some.inj same)
      unfold refusal at refused
      split_ifs at refused
      all_goals
        cases refused
        exact absurd good (by decide)
  refine ⟨accepted, ?_⟩
  cases null : description.nodeId.isNull with
  | false => rfl
  | true =>
    obtain ⟨result, there, -, kept⟩ := browse_answered fresh.distinct served asked accepted
    rw [inputIndex_serve] at there
    obtain rfl : result = first := some.inj (some.inj (there.symm.trans answered))
    have unknown :=
      @status_serve_null server description null (server.maxReferencesPerNode request) k
    cases left : server.pointOf draws
        (server.serve (.new description (server.maxReferencesPerNode request) k)) with
    | none =>
      rw [left, unknown, good] at kept
      exact absurd kept.1 (by decide)
    | some point =>
      rw [left, unknown, good] at kept
      rcases kept with ⟨refused, -⟩ | ⟨status, -⟩
      · exact absurd refused (by decide)
      · exact absurd status (by decide)

theorem pagedCompletely_of_canBePaged (kept : first.statusCode ≠ .BadNoContinuationPoints)
    (positive : 0 < server.maxReferencesPerNode request)
    (some_manager : 0 < server.nodeManagerCount)
    (can : server.CanBePaged description (server.maxReferencesPerNode request)) :
    server.PagedCompletely description (server.maxReferencesPerNode request) after first := by
  obtain ⟨accepted, valid, all, settled, once, every⟩ := can
  obtain ⟨good, next, keeps, pays⟩ :=
    first_pays fresh served asked answered kept positive some_manager accepted valid
  have follows {pages : List BrowseResult} {last : Session} {id : ByteString}
      (followed : Followed server after first.continuationPoint pages last id) :=
    followed.pays valid positive keeps
  refine ⟨fun {pages last id} followed returned {request draws k results after} fresh going asked
    first served => ?_, ⟨(server.debt description .start).now.length + 2,
      fun {pages last id} followed => ?_⟩, fun {pages last id} followed => ?_,
    fun {pages last} followed => ?_⟩
  · obtain ⟨-, stop, keeps, -⟩ := follows followed
    cases stop with
    | none => exact absurd keeps returned
    | some place =>
      obtain ⟨-, -, point, lookup, stands, inside⟩ := keeps
      obtain ⟨page, there, -⟩ := browseNext_answered fresh.distinct going served asked first lookup
        (stands.1.trans_lt inside)
      rw [inputIndex_serve] at there
      exact ⟨page, there⟩
  · obtain ⟨-, stop, -, paid⟩ := follows followed
    have few := (Instalments.step pays paid).length_le positive settled
    rw [length_cons, length_map] at few
    omega
  · obtain ⟨goods, stop, -, paid⟩ := follows followed
    have short := (Instalments.step pays paid).length_le_room
    intro page member
    refine ⟨?_, short page.page (by rw [← map_cons]; exact mem_map_of_mem member)⟩
    rcases mem_cons.mp member with rfl | member
    · exact good
    · exact goods page member
  · obtain ⟨-, stop, ended, paid⟩ := follows followed
    cases stop with
    | some place => exact absurd rfl ended.1
    | none =>
      have whole := (Instalments.step pays paid).perm_of_settled positive settled
      rw [← map_cons, ← flatMap_def] at whole
      refine ⟨(whole.map _).nodup_iff.mpr once, fun rf => ?_⟩
      rw [(whole.map _).mem_iff]
      refine ⟨fun listed => ?_, every rf⟩
      obtain ⟨described, paid, rfl⟩ := mem_map.mp listed
      exact visible_of_settled settled paid

end

theorem allowed_of_served (served : server.browse draws session request = (.ok results, after))
    (asked : request.nodesToBrowse[k]? = some description) : 0 < server.maxNodesPerBrowse := by
  obtain ⟨inside, -⟩ := List.getElem?_eq_some_iff.mp asked
  unfold browse at served
  split_ifs at served
  · cases served
  · cases served
  · cases served
  · omega

section

variable (fresh : Fresh session draws)
  (served : server.browse draws session request = (.ok results, after))
  (asked : request.nodesToBrowse[k]? = some description)
include fresh served asked

theorem canBePaged_of_pagedCompletely (answered : results[k]? = some (some first))
    (kept : first.statusCode ≠ .BadNoContinuationPoints)
    (positive : 0 < server.maxReferencesPerNode request)
    (some_manager : 0 < server.nodeManagerCount)
    (paged : server.PagedCompletely description (server.maxReferencesPerNode request) after first) :
    server.CanBePaged description (server.maxReferencesPerNode request) := by
  have good := (paged.good (.here ..) first (.head _)).1
  obtain ⟨accepted, valid⟩ := valid_of_good fresh served asked answered good
  obtain ⟨-, next, keeps, pays⟩ :=
    first_pays fresh served asked answered kept positive some_manager accepted valid
  have allowed : 0 < server.maxNodesPerBrowse := allowed_of_served served asked
  obtain ⟨bound, ends⟩ := paged.ends
  obtain ⟨pages, last, final, followed, long⟩ :=
    exists_pages valid positive allowed keeps (bound + 1)
  -- A row of pages that is longer than the bound has come to its end.
  have ended : final = none := long.resolve_left fun beyond => by
    have few := ends followed
    omega
  subst ended
  obtain ⟨once, same⟩ := paged.complete followed
  obtain ⟨-, stop, keeps, paid⟩ := followed.pays valid positive keeps
  cases stop with
  | some place => exact absurd rfl keeps.1
  | none =>
    have row := Instalments.step pays paid
    obtain ⟨all, settled⟩ := row.settled_of_once (·.reference) positive
      (restart_within server description) once
    have whole := row.perm_of_settled positive settled
    refine ⟨accepted, valid, all, settled, (whole.map _).nodup_iff.mp once, fun rf visible => ?_⟩
    exact (whole.map _).mem_iff.mp ((same rf).mpr visible)

/-- **Following a browse yields exactly the visible references, each once, if and only if it can be
paged.** -/
theorem pagedCompletely_iff (present : ∃ manager ∈ server.nodeManagers, ∃ node,
      manager.addressSpace.findNode description.nodeId = some node ∧
        canBrowseTarget node = true)
    (positive : 1 ≤ server.maxReferencesPerNode request)
    (answered : results[k]? = some (some first))
    (kept : first.statusCode ≠ .BadNoContinuationPoints) :
    (server.PagedCompletely description (server.maxReferencesPerNode request) after first ∧
        server.SpentInvalid) ↔
      server.CanBePaged description (server.maxReferencesPerNode request) := by
  have some_manager : 0 < server.nodeManagerCount := by
    obtain ⟨manager, member, -⟩ := present
    exact length_pos_of_mem member
  constructor
  · rintro ⟨paged, -⟩
    exact canBePaged_of_pagedCompletely fresh served asked answered kept positive some_manager paged
  · intro can
    refine ⟨pagedCompletely_of_canBePaged fresh served asked answered kept positive
      some_manager can,
      ?_⟩
    intro session after last id calls request next draws later k results answers spent served
      undrawn never going asked answered
    exact spent_invalid calls spent served undrawn never going asked answered

end

/-! ### Tables that agree -/

/-- **Tables that agree:** no reference is walked twice, and a node is in the table of the one
manager that serves its namespace. -/
structure TablesAgree (server : Server) (description : BrowseDescription) : Prop where
  once : (server.nodeManagers.flatMap (·.walk server.typeTree description)).Nodup
  served : ∀ manager ∈ server.nodeManagers, ∀ owner ∈ server.nodeManagers, ∀ id,
    (owner.addressSpace.findNode id).isSome → (manager.ownsNode id ↔ manager = owner)

/-- Each reference of a walk is described or resolved at most once. -/
theorem paid_subperm (walk : List (InMemoryNodeManager × ReferenceRef)) :
    let found := walk.filterMap fun entry => entry.1.find server.typeTree description entry.2
    ((found.filterMap Sum.getLeft? ++ (found.filterMap Sum.getRight?).filterMap
      (BrowseNode.resolve description server.typeTree server.resolveNode)).map
        (·.reference)).Subperm (walk.map Prod.snd) := by
  induction walk with
  | nil => exact .refl _
  | cons entry rest ih =>
    simp only [map_append, filterMap_cons, map_cons] at ih ⊢
    cases found : entry.1.find server.typeTree description entry.2 with
    | none => exact ih.cons_right entry.2
    | some item =>
      cases item with
      | inl described =>
        obtain ⟨target, -, -, -, rfl⟩ := find_eq_inl found
        simpa [filterMap_cons] using (subperm_cons entry.2).mpr ih
      | inr left =>
        obtain ⟨-, -, rfl⟩ := find_eq_inr found
        cases resolved : BrowseNode.resolve description server.typeTree server.resolveNode
            ⟨entry.2.targetNode, entry.2.referenceType, entry.2.direction⟩ with
        | none => simpa [filterMap_cons, resolved] using ih.cons_right entry.2
        | some described =>
          obtain ⟨data, -, rfl⟩ := map_eq_some_iff.mp (filter_eq_some_iff.mp resolved).1
          have moved := perm_middle.subperm.trans ((subperm_cons entry.2).mpr ih)
          simpa [filterMap_cons, resolved, ExternalReference.reference] using moved

theorem TablesAgree.nodup_debt (agree : server.TablesAgree description) :
    (((server.debt description .start).now ++
      (server.debt description .start).late).map (·.reference)).Nodup := by
  obtain ⟨now, late⟩ := debt_start server description
  obtain ⟨listed, perm, sub⟩ := @paid_subperm server description
    (server.nodeManagers.flatMap fun manager =>
      (manager.walk server.typeTree description).map (manager, ·))
  simp only [filterMap_flatMap, filterMap_map, map_flatMap, List.map_map] at perm sub
  rw [now, late]
  simp only [filterMap_flatMap, locals, externals]
  refine perm.nodup_iff.mp (sub.nodup ?_)
  simpa [Function.comp_def] using agree.once

section

variable (agree : server.TablesAgree description) {owner : InMemoryNodeManager}
  (member : owner ∈ server.nodeManagers) {id : NodeId} {target : Node}
  (found : owner.addressSpace.findNode id = some target)
include agree member found

theorem TablesAgree.owns_iff {manager : InMemoryNodeManager}
    (listed : manager ∈ server.nodeManagers) : manager.ownsNode id ↔ manager = owner :=
  agree.served manager listed owner member id (by rw [found]; rfl)

theorem TablesAgree.resolveNode (allowed : canBrowseTarget target = true) :
    server.resolveNode id = some (getReference id target) := by
  have all (managers : List InMemoryNodeManager) (item : Option NodeMetadata)
      (inside : managers ⊆ server.nodeManagers)
      (has : owner ∈ managers ∨ item = some (getReference id target)) :
      managers.foldl (fun item manager =>
        if manager.ownsNode id then manager.resolveExternalReference id item else item) item =
          some (getReference id target) := by
    induction managers generalizing item with
    | nil => exact has.resolve_left not_mem_nil
    | cons first rest ih =>
      obtain ⟨here, later⟩ := cons_subset.mp inside
      have owns := agree.owns_iff member found here
      refine ih _ later ?_
      by_cases same : first = owner
      · subst same
        simp [owns.mpr rfl, resolveExternalReference, found, allowed]
      · simpa [mt owns.mp same, Ne.symm same] using has
  exact all _ none (Subset.refl _) (.inl member)

end

/-- A walk passes every reference of a type that is asked for. -/
theorem mem_walk_of_matches {manager : InMemoryNodeManager} {tree : TypeTree} {rf : ReferenceRef}
    {node : NodeMetadata}
    (listed : rf ∈ manager.addressSpace.findReferences tree description.nodeId none
      description.browseDirection)
    (asked : description.matchesFilter tree
      (node.intoRefDesc (rf.direction = .forward) rf.referenceType) = true) :
    rf ∈ manager.walk tree description := by
  refine mem_filter.mpr ⟨(mem_filter.mp listed).1, ?_⟩
  have typed : description.allowsReferenceType tree rf.referenceType = true := by
    unfold BrowseDescription.matchesFilter at asked
    split_ifs at asked
    exact asked
  unfold BrowseDescription.allowsReferenceType at typed
  unfold referenceFilter
  split_ifs at typed ⊢ with null
  · rfl
  all_goals
    split
    · split_ifs
      · simp_all [References.passes]
      · rfl
    · rfl

theorem TablesAgree.mem_debt (agree : server.TablesAgree description) {rf : ReferenceRef}
    (visible : server.Visible description rf) :
    rf ∈ ((server.debt description .start).now ++ (server.debt description .start).late).map
      (·.reference) := by
  obtain ⟨⟨manager, member, listed⟩, owner, there, target, held, allowed, asked⟩ := visible
  have walked := mem_walk_of_matches listed asked
  have owns {manager} (listed) := @agree.owns_iff _ _ _ there _ _ held manager listed
  have present : rf.targetNode.isNull = false := by
    by_contra null
    simp_all [BrowseDescription.matchesFilter, NodeMetadata.intoRefDesc, getReference]
  obtain ⟨now, late⟩ := debt_start server description
  rw [now, late, map_append, mem_append]
  by_cases own : manager = owner
  · subst own
    refine .inl (mem_map.mpr ⟨_, mem_flatMap.mpr ⟨_, member, mem_locals.mpr ⟨rf, walked, ?_⟩⟩,
      reference_refDesc rf target⟩)
    simp [find, present, held, allowed, asked]
  · have foreign := mt (owns member).mp own
    have missing : manager.addressSpace.findNode rf.targetNode = none := by
      by_contra has
      obtain ⟨other, has⟩ := ne_none_iff_exists'.mp has
      exact own ((agree.owns_iff member has there).mp ((owns there).mpr rfl)).symm
    let left : ExternalReference := ⟨rf.targetNode, rf.referenceType, rf.direction⟩
    refine .inr (mem_map.mpr ⟨left.intoReference (getReference rf.targetNode target),
      mem_filterMap.mpr ⟨left, mem_flatMap.mpr ⟨_, member, mem_externals.mpr ⟨rf, walked, ?_⟩⟩,
        filter_eq_some_iff.mpr ⟨?_, ?_⟩⟩, ExternalReference.reference_intoReference ..⟩)
    · unfold ownsNode at foreign
      simpa [find, present, missing, left] using foreign
    · rw [agree.resolveNode there held allowed]
      rfl
    · exact (BrowseDescription.matchesFilter_intoReference _ _ left _ rfl).trans asked

/-- **A browse of tables that agree can be paged** if it forgets nothing and what is late fits. -/
theorem canBePaged_of_agree (accepted : server.refusal description = none)
    (valid : description.nodeId.isNull = false) (agree : server.TablesAgree description)
    (remembers : ¬ (server.debt description .start).Forgets maxReferencesPerNode)
    (fits : (server.debt description .start).Fits maxReferencesPerNode) :
    server.CanBePaged description maxReferencesPerNode :=
  ⟨accepted, valid, _, .fits remembers fits, agree.nodup_debt, fun _ => agree.mem_debt⟩

/-! ### Two managers -/

section Samples

def hasComponent : NodeId := .standard 47

def oneType : TypeTree where
  get id := if id = hasComponent then some .referenceType else none
  isSubtypeOf child ancestor := child = ancestor
  isReferenceTypeId id := id = 47

def nodeOf (namespaceIndex : UInt16) (id : UInt32) : NodeId := ⟨namespaceIndex, .numeric id⟩

def managerOf (namespaceIndex : UInt16) (components : List NodeId) (distinct : components.Nodup) :
    InMemoryNodeManager where
  addressSpace :=
    { nodeMap := fun id =>
        if id = nodeOf namespaceIndex 1 ∨ id = nodeOf namespaceIndex 2 then
          some ⟨.object, ⟨namespaceIndex, none⟩, true⟩
        else none
      bySource := fun id =>
        if id = nodeOf namespaceIndex 1 then components.map (⟨hasComponent, ·⟩) else []
      byTarget := fun _ => []
      bySource_nodup := fun id => by
        split
        · refine distinct.map fun a b same => ?_
          exact congrArg Reference.targetNode same
        · exact nodup_nil
      byTarget_nodup := fun _ => nodup_nil }
  namespaces := [namespaceIndex]

/-- Two managers, of which one has an object whose components are in both. -/
def pair (firstHas : Bool) : Server where
  nodeManagers :=
    if firstHas then
      [managerOf 1 [nodeOf 1 2, nodeOf 2 2] (by decide), managerOf 2 [] nodup_nil]
    else [managerOf 1 [] nodup_nil, managerOf 2 [nodeOf 2 2, nodeOf 1 2] (by decide)]
  typeTree := oneType
  maxNodesPerBrowse := 10
  maxReferencesPerBrowseNode := 1000

def components (namespaceIndex : UInt16) : BrowseDescription :=
  ⟨nodeOf namespaceIndex 1, .forward, hasComponent, true, 0⟩

def onePerPage (namespaceIndex : UInt16) : BrowseRequest :=
  ⟨.standard 0, 1, [components namespaceIndex]⟩

def emptySession : Session := ⟨∅, 5⟩

def zeros (k : ℕ) : List UInt8 := replicate k 0

def component (namespaceIndex : UInt16) : ReferenceDescription :=
  ⟨hasComponent, true, nodeOf namespaceIndex 2, ⟨namespaceIndex, none⟩, .object⟩

theorem fresh_zeros : Fresh emptySession zeros where
  distinct j k same := by
    have lengths := congrArg length same
    rwa [zeros, zeros, length_replicate, length_replicate] at lengths
  unused _ := rfl

theorem agree_first : (pair true).TablesAgree (components 1) := by
  refine ⟨by decide, fun manager member owner there id held => ?_⟩
  have own {namespaceIndex components distinct}
      (held : ((managerOf namespaceIndex components distinct).addressSpace.findNode id).isSome) :
      id.namespaceIndex = namespaceIndex := by
    dsimp only [managerOf, AddressSpace.findNode] at held
    split_ifs at held with known
    · rcases known with rfl | rfl <;> rfl
    · cases held
  simp only [pair, if_true, mem_cons, not_mem_nil, or_false] at member there
  rcases member with rfl | rfl <;> rcases there with rfl | rfl <;>
    simp [ownsNode, own held, managerOf]

theorem canBePaged_first : (pair true).CanBePaged (components 1) 1 :=
  canBePaged_of_agree rfl rfl agree_first (fun forgets => forgets.1 rfl) (by decide)

/-- The components of the first manager's object are paged: one of its own, and one of the other's.
-/
theorem first_paged :
    (pair true).PagedCompletely (components 1) ((pair true).maxReferencesPerNode (onePerPage 1))
        ((pair true).browse zeros emptySession (onePerPage 1)).2
        ⟨.Good, some [], some [component 1]⟩ ∧
      (pair true).SpentInvalid :=
  (@pagedCompletely_iff _ _ _ _ _ _ _ 0 _ fresh_zeros (Prod.ext rfl rfl) rfl
    ⟨_, .head _, _, rfl, rfl⟩ (by decide) rfl (by decide)).mpr canBePaged_first

/-- **The components of the last manager's object are not:** its own component fills the page, and
the other one is forgotten. -/
theorem last_forgotten :
    Fresh emptySession zeros ∧ ∃ first after,
      (pair false).browse zeros emptySession (onePerPage 2) = (.ok [some first], after) ∧
      first.statusCode = .Good ∧
      ¬ (pair false).PagedCompletely (components 2) 1 after first := by
  refine ⟨fresh_zeros, ⟨.Good, none, some [component 2]⟩, emptySession, rfl, rfl, fun paged => ?_⟩
  have visible : (pair false).Visible (components 2) ⟨hasComponent, nodeOf 1 2, .forward⟩ :=
    ⟨⟨_, .tail _ (.head _), .tail _ (.head _)⟩, _, .head _, _, rfl, rfl, rfl⟩
  have returned := ((paged.complete (.here ..)).2 _).mpr visible
  exact absurd returned (by decide)

end Samples

end Server

end AsyncOpcua.View
