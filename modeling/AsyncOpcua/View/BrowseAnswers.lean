/-
**Each node of a request on its own.**

What is answered to a node does not depend on the other nodes of the request: the managers fill each
node separately, and an answer is entered at the node's own position, its continuation point under
its own identifier. Only whether the session has room for the point depends on the others.
-/

import AsyncOpcua.View.BrowseService

namespace AsyncOpcua.View

open Types Foundation List KeyedMap BrowseNode

namespace Session

variable {session after : Session} {point : BrowseContinuationPoint}

theorem addBrowseContinuationPoint_eq_some
    (added : session.addBrowseContinuationPoint point = some after) :
    size session.browseContinuationPoints < session.maxBrowseContinuationPoints ∧
      after = { session with
        browseContinuationPoints := session.browseContinuationPoints.insert point.id point } := by
  unfold addBrowseContinuationPoint at added
  split at added
  · cases added
  · next room => exact ⟨Nat.lt_of_not_le room, (Option.some.inj added).symm⟩

/-- The session keeps no more points than it may. -/
def Within (session : Session) : Prop :=
  size session.browseContinuationPoints ≤ session.maxBrowseContinuationPoints

theorem within_insert
    (room : size session.browseContinuationPoints < session.maxBrowseContinuationPoints) :
    Within { session with
      browseContinuationPoints := session.browseContinuationPoints.insert point.id point } :=
  (size_insert_le ..).trans room

end Session

namespace Server

variable {server : Server} {draws : ℕ → List UInt8} {answers : Answers}

def store (server : Server) (draws : ℕ → List UInt8) (answers : Answers)
    (outcome : ℕ × BrowseNode) : Answers :=
  server.storeResult draws outcome.1 answers outcome.2

def pointOf (server : Server) (draws : ℕ → List UInt8) (outcome : ℕ × BrowseNode) :
    Option BrowseContinuationPoint :=
  outcome.2.continuation outcome.1 server.nodeManagerCount (some (draws outcome.2.inputIndex))

variable {outcome : ℕ × BrowseNode}

theorem id_of_pointOf {point : BrowseContinuationPoint}
    (left : server.pointOf draws outcome = some point) :
    point.id = some (draws outcome.2.inputIndex) := by
  obtain ⟨inner, -, rfl⟩ := Option.map_eq_some_iff.mp left
  rfl

def Answered (server : Server) (draws : ℕ → List UInt8) (answers : Answers)
    (outcome : ℕ × BrowseNode) : Prop :=
  ∃ result, answers.1[outcome.2.inputIndex]? = some (some result) ∧
    result.references = some outcome.2.references ∧
    match server.pointOf draws outcome with
    | none => result.statusCode = outcome.2.statusCode ∧ result.continuationPoint = none
    | some point =>
      result.statusCode = .BadNoContinuationPoints ∧ result.continuationPoint = none ∨
      result.statusCode = outcome.2.statusCode ∧ result.continuationPoint = point.id ∧
        answers.2.browseContinuationPoints.lookup point.id = some point ∧ answers.2.Within

theorem store_cases (server : Server) (draws : ℕ → List UInt8) (answers : Answers)
    (outcome : ℕ × BrowseNode) :
    ∃ result session,
      server.store draws answers outcome =
        (answers.1.set outcome.2.inputIndex (some result), session) ∧
      result.references = some outcome.2.references ∧
      ((server.pointOf draws outcome = none ∧ session = answers.2 ∧
          result.statusCode = outcome.2.statusCode ∧ result.continuationPoint = none) ∨
        ∃ point, server.pointOf draws outcome = some point ∧
          (session = answers.2 ∧ answers.2.addBrowseContinuationPoint point = none ∧
              result.statusCode = .BadNoContinuationPoints ∧ result.continuationPoint = none ∨
            answers.2.addBrowseContinuationPoint point = some session ∧
              result.statusCode = outcome.2.statusCode ∧ result.continuationPoint = point.id)) := by
  unfold store storeResult
  cases left : outcome.2.continuation outcome.1 server.nodeManagerCount
      (some (draws outcome.2.inputIndex)) with
  | none => exact ⟨_, _, rfl, rfl, .inl ⟨left, rfl, rfl, rfl⟩⟩
  | some point =>
    dsimp only
    cases added : answers.2.addBrowseContinuationPoint point with
    | none => exact ⟨_, _, rfl, rfl, .inr ⟨point, left, .inl ⟨rfl, added, rfl, rfl⟩⟩⟩
    | some session => exact ⟨_, _, rfl, rfl, .inr ⟨point, left, .inr ⟨added, rfl, rfl⟩⟩⟩

theorem store_frame (server : Server) (draws : ℕ → List UInt8) (answers : Answers)
    (outcome : ℕ × BrowseNode) :
    (server.store draws answers outcome).1.length = answers.1.length ∧
      (∀ k, k ≠ outcome.2.inputIndex →
        (server.store draws answers outcome).1[k]? = answers.1[k]?) ∧
      (∀ id, id ≠ some (draws outcome.2.inputIndex) →
        (server.store draws answers outcome).2.browseContinuationPoints.lookup id =
          answers.2.browseContinuationPoints.lookup id) ∧
      (answers.2.Within → (server.store draws answers outcome).2.Within) := by
  obtain ⟨result, session, stored, -, cases⟩ := store_cases server draws answers outcome
  rw [stored]
  refine ⟨length_set, fun k other => getElem?_set_ne other.symm, ?_⟩
  rcases cases with ⟨-, rfl, -⟩ | ⟨point, left, ⟨rfl, -⟩ | ⟨added, -⟩⟩
  · exact ⟨fun _ _ => rfl, id⟩
  · exact ⟨fun _ _ => rfl, id⟩
  · obtain ⟨room, rfl⟩ := Session.addBrowseContinuationPoint_eq_some added
    refine ⟨fun id other => ?_, fun _ => Session.within_insert room⟩
    rw [lookup_insert_eq, id_of_pointOf left, if_neg other]

theorem answered_store (outcome : ℕ × BrowseNode)
    (inside : outcome.2.inputIndex < answers.1.length) :
    server.Answered draws (server.store draws answers outcome) outcome := by
  obtain ⟨result, session, stored, references, cases⟩ := store_cases server draws answers outcome
  rw [stored]
  refine ⟨result, getElem?_set_self inside, references, ?_⟩
  rcases cases with ⟨left, -, status, ended⟩ | ⟨point, left, ⟨-, -, refused⟩ | ⟨added, status, id⟩⟩
  · rw [left]
    exact ⟨status, ended⟩
  · rw [left]
    exact .inl refused
  · obtain ⟨room, rfl⟩ := Session.addBrowseContinuationPoint_eq_some added
    rw [left]
    refine .inr ⟨status, id, ?_, Session.within_insert room⟩
    rw [lookup_insert_eq, if_pos rfl]

theorem Answered.store {other : ℕ × BrowseNode} (answered : server.Answered draws answers outcome)
    (distinct : Function.Injective draws) (elsewhere : outcome.2.inputIndex ≠ other.2.inputIndex) :
    server.Answered draws (server.store draws answers other) outcome := by
  obtain ⟨result, here, references, kept⟩ := answered
  obtain ⟨-, results, points, within⟩ := store_frame server draws answers other
  refine ⟨result, (results _ elsewhere).trans here, references, ?_⟩
  cases left : server.pointOf draws outcome with
  | none =>
    rw [left] at kept
    exact kept
  | some point =>
    rw [left] at kept
    refine kept.imp id fun ⟨status, id, there, inside⟩ => ⟨status, id, ?_, within inside⟩
    rw [points _ ?_, there]
    rw [id_of_pointOf left]
    exact fun same => elsewhere (distinct (Option.some.inj same))

variable (outcomes : List (ℕ × BrowseNode))

theorem foldl_store_frame (server : Server) (draws : ℕ → List UInt8) (answers : Answers) :
    (outcomes.foldl (server.store draws) answers).1.length = answers.1.length ∧
      (∀ k, (∀ outcome ∈ outcomes, k ≠ outcome.2.inputIndex) →
        (outcomes.foldl (server.store draws) answers).1[k]? = answers.1[k]?) ∧
      (∀ id, (∀ k, id ≠ some (draws k)) →
        (outcomes.foldl (server.store draws) answers).2.browseContinuationPoints.lookup id =
          answers.2.browseContinuationPoints.lookup id) ∧
      (answers.2.Within → (outcomes.foldl (server.store draws) answers).2.Within) := by
  induction outcomes generalizing answers with
  | nil => exact ⟨rfl, fun _ _ => rfl, fun _ _ => rfl, id⟩
  | cons outcome outcomes ih =>
    obtain ⟨length, results, points, within⟩ := store_frame server draws answers outcome
    obtain ⟨length', results', points', within'⟩ := ih (server.store draws answers outcome)
    refine ⟨length'.trans length, fun k others => ?_, fun id others => ?_, within' ∘ within⟩
    · rw [foldl_cons, results' k fun other member => others other (.tail _ member),
        results k (others outcome (.head _))]
    · rw [foldl_cons, points' id others, points id (others _)]

theorem answered_foldl (distinct : Function.Injective draws)
    (positions : (outcomes.map (·.2.inputIndex)).Nodup) (member : outcome ∈ outcomes)
    (inside : outcome.2.inputIndex < answers.1.length) :
    server.Answered draws (outcomes.foldl (server.store draws) answers) outcome := by
  induction outcomes generalizing answers with
  | nil => cases member
  | cons first rest ih =>
    rw [map_cons, nodup_cons] at positions
    obtain ⟨apart, positions⟩ := positions
    rcases mem_cons.mp member with rfl | member
    · -- The answer is entered first, and stays.
      have stays (answers : Answers) (here : server.Answered draws answers outcome)
          (later : List (ℕ × BrowseNode))
          (apart : outcome.2.inputIndex ∉ later.map (·.2.inputIndex)) :
          server.Answered draws (later.foldl (server.store draws) answers) outcome := by
        induction later generalizing answers with
        | nil => exact here
        | cons other later ih =>
          rw [map_cons, mem_cons, not_or] at apart
          exact ih _ (here.store distinct apart.1) apart.2
      exact stays _ (answered_store outcome inside) rest apart
    · refine ih positions member ?_
      rwa [(store_frame server draws answers first).1]

/-! ### The turns of the managers -/

theorem turn_spec (server : Server) (draws : ℕ → List UInt8) (index : ℕ)
    (manager : InMemoryNodeManager) (round : Round) :
    ∃ completed : List BrowseNode,
      (server.turn draws index manager round).answers =
        (completed.map (index, ·)).foldl (server.store draws) round.answers ∧
      (completed ++ (server.turn draws index manager round).batchNodes).Perm
        ((round.batchNodes ++ round.nodes.filter (·.startNodeManager = index)).map
          (manager.browse server.typeTree)) ∧
      (∀ node ∈ completed, node.isCompleted = true) ∧
      (∀ node ∈ (server.turn draws index manager round).batchNodes, node.isCompleted = false) ∧
      (server.turn draws index manager round).nodes.Perm
        (round.nodes.filter fun node => !decide (node.startNodeManager = index)) := by
  let started := swapSweep (fun node : BrowseNode => decide (node.startNodeManager = index))
    round.nodes
  let browsed := (round.batchNodes ++ started.1).map (manager.browse server.typeTree)
  have out := swapSweep_out_perm isCompleted browsed
  have left := swapSweep_left_perm isCompleted browsed
  refine ⟨(swapSweep isCompleted browsed).1, ?_, ?_, ?_, ?_, swapSweep_left_perm _ _⟩
  · rw [foldl_map]
    rfl
  · have all := (out.append left).trans (filter_append_perm _ browsed)
    exact all.trans (((swapSweep_out_perm _ _).append_left _).map _)
  · exact fun node member => of_mem_filter (out.subset member)
  · intro node member
    exact (Bool.not_eq_true' _).mp (mem_filter.mp (left.subset member)).2

/-- Where a node's way past the managers ends among the answered nodes and those left. -/
def Ends (outcomes : List (ℕ × BrowseNode)) (left : List BrowseNode) :
    (ℕ × BrowseNode) ⊕ BrowseNode → Prop
  | .inl outcome => outcome ∈ outcomes
  | .inr node => node ∈ left

theorem Ends.append_left {outcomes : List (ℕ × BrowseNode)} {left : List BrowseNode}
    {ended : (ℕ × BrowseNode) ⊕ BrowseNode} (ends : Ends outcomes left ended)
    (earlier : List (ℕ × BrowseNode)) : Ends (earlier ++ outcomes) left ended := by
  cases ended with
  | inl outcome => exact mem_append_right _ ends
  | inr node => exact ends

/-- **The turns answer each node that becomes full,** as it is then, and leave the others. -/
theorem turns_outcomes (server : Server) (draws : ℕ → List UInt8)
    (managers : List InMemoryNodeManager) (index : ℕ) (round : Round) :
    ∃ outcomes : List (ℕ × BrowseNode),
      (server.turns draws index managers round).answers =
        outcomes.foldl (server.store draws) round.answers ∧
      (outcomes.map (·.2.inputIndex) ++
          ((server.turns draws index managers round).batchNodes ++
            (server.turns draws index managers round).nodes).map (·.inputIndex)).Perm
        ((round.batchNodes ++ round.nodes).map (·.inputIndex)) ∧
      (∀ node ∈ round.batchNodes,
        Ends outcomes (server.turns draws index managers round).batchNodes
          (server.pass index managers node)) ∧
      (∀ node ∈ round.nodes, index ≤ node.startNodeManager →
        node.startNodeManager < index + managers.length →
        Ends outcomes (server.turns draws index managers round).batchNodes
          (server.pass node.startNodeManager (managers.drop (node.startNodeManager - index))
            node)) := by
  induction managers generalizing index round with
  | nil =>
    exact ⟨[], rfl, .refl _, fun node member => member, fun node _ low high => by
      simp only [length_nil, Nat.add_zero] at high
      omega⟩
  | cons manager managers ih =>
    obtain ⟨completed, answers, browsed, full, others, later⟩ :=
      turn_spec server draws index manager round
    generalize turned : server.turn draws index manager round = next at answers browsed others later
    have positions : (completed.map (·.inputIndex) ++
        (next.batchNodes ++ next.nodes).map (·.inputIndex)).Perm
          ((round.batchNodes ++ round.nodes).map (·.inputIndex)) := by
      have browsed := browsed.map inputIndex
      rw [map_map, show inputIndex ∘ manager.browse server.typeTree =
        inputIndex from funext InMemoryNodeManager.inputIndex_browse] at browsed
      have split := (filter_append_perm
        (fun node : BrowseNode => decide (node.startNodeManager = index)) round.nodes).map
          inputIndex
      have later := later.map inputIndex
      simp only [map_append] at browsed split later ⊢
      rw [← append_assoc]
      refine (browsed.append later).trans ?_
      rw [append_assoc]
      exact split.append_left _
    -- A node that is browsed in this turn is answered in it or goes on.
    have goesOn (outcomes : List (ℕ × BrowseNode)) (left : List BrowseNode)
        (now : ∀ node ∈ completed, (index, node) ∈ outcomes)
        (later : ∀ node ∈ next.batchNodes,
          Ends outcomes left (server.pass (index + 1) managers node))
        (node : BrowseNode) (member : node ∈ round.batchNodes ++
          round.nodes.filter (·.startNodeManager = index)) :
        Ends outcomes left (server.pass index (manager :: managers) node) := by
      have there := browsed.mem_iff.mpr (mem_map_of_mem member)
      unfold pass
      rcases mem_append.mp there with done | waits
      · rw [if_pos (full _ done)]
        exact now _ done
      · rw [if_neg (by rw [others _ waits]; exact Bool.false_ne_true)]
        exact later _ waits
    have waits (node : BrowseNode) (member : node ∈ round.nodes)
        (elsewhere : node.startNodeManager ≠ index) : node ∈ next.nodes :=
      later.mem_iff.mpr (mem_filter.mpr ⟨member, by simp [elsewhere]⟩)
    rw [turns, turned]
    split
    · next stop =>
      rw [Bool.and_eq_true, List.isEmpty_iff, List.isEmpty_iff] at stop
      have ends := goesOn (completed.map (index, ·)) next.batchNodes
        (fun node done => mem_map_of_mem done)
        (fun node waiting => by rw [stop.2] at waiting; cases waiting)
      refine ⟨completed.map (index, ·), answers, ?_,
        fun node member => ends node (mem_append_left _ member), fun node member low high => ?_⟩
      · rw [map_map]
        exact positions
      · by_cases starts : node.startNodeManager = index
        · rw [starts, Nat.sub_self, drop_zero]
          exact ends node (mem_append_right _ (mem_filter.mpr ⟨member, by simp [starts]⟩))
        · have waiting := waits node member starts
          rw [stop.1] at waiting
          cases waiting
    · obtain ⟨outcomes, answers', positions', batch, started⟩ := ih (index + 1) next
      have ends := goesOn (completed.map (index, ·) ++ outcomes)
        (server.turns draws (index + 1) managers next).batchNodes
        (fun node done => mem_append_left _ (mem_map_of_mem done))
        (fun node waiting => (batch node waiting).append_left _)
      refine ⟨completed.map (index, ·) ++ outcomes, ?_, ?_,
        fun node member => ends node (mem_append_left _ member), fun node member low high => ?_⟩
      · rw [foldl_append, ← answers, answers']
      · rw [map_append, map_map, append_assoc]
        exact (positions'.append_left _).trans positions
      · by_cases starts : node.startNodeManager = index
        · rw [starts, Nat.sub_self, drop_zero]
          exact ends node (mem_append_right _ (mem_filter.mpr ⟨member, by simp [starts]⟩))
        · have waiting := started node (waits node member starts)
            (Nat.lt_of_le_of_ne low (Ne.symm starts))
            (by rw [length_cons] at high; omega)
          rw [show node.startNodeManager - index = node.startNodeManager - (index + 1) + 1 by omega,
            drop_succ_cons]
          exact waiting.append_left _

/-! ### The nodes that passed all managers -/

theorem nodeId_resolveNode {id : NodeId} {found : NodeMetadata}
    (resolved : server.resolveNode id = some found) : found.nodeId = id := by
  have keeps (managers : List InMemoryNodeManager) (item : Option NodeMetadata)
      (before : ∀ found, item = some found → found.nodeId = id) (found : NodeMetadata)
      (after : managers.foldl (fun item manager =>
        if manager.ownsNode id then manager.resolveExternalReference id item else item) item =
          some found) : found.nodeId = id := by
    induction managers generalizing item with
    | nil => exact before found after
    | cons manager managers ih =>
      refine ih _ (fun found here => ?_) after
      dsimp only at here
      split at here
      · unfold InMemoryNodeManager.resolveExternalReference at here
        split at here
        · exact before found here
        · split at here
          · exact before found here
          · cases here
            rfl
      · exact before found here
  exact keeps _ none (fun _ none => by cases none) found resolved

variable {node : BrowseNode}

theorem nodeMap_eq {nodes : List BrowseNode} (member : node ∈ nodes) {rf : ExternalReference}
    (refers : rf ∈ node.externalReferences) :
    server.nodeMap nodes rf.targetId = server.resolveNode rf.targetId := by
  have requested : rf.targetId ∈
      (nodes.flatMap fun node => node.externalReferences.map (·.targetId)).dedup :=
    mem_dedup.mpr (mem_flatMap.mpr ⟨node, member, mem_map_of_mem refers⟩)
  unfold nodeMap
  cases looked : ((nodes.flatMap fun node =>
      node.externalReferences.map (·.targetId)).dedup.filterMap server.resolveNode).find?
        (·.nodeId = rf.targetId) with
  | none =>
    cases resolved : server.resolveNode rf.targetId with
    | none => rfl
    | some found =>
      have missing := find?_eq_none.mp looked found
        (mem_filterMap.mpr ⟨_, requested, resolved⟩)
      exact absurd (decide_eq_true (nodeId_resolveNode resolved)) missing
  | some found =>
    obtain ⟨id, -, resolved⟩ := mem_filterMap.mp (mem_of_find?_eq_some looked)
    have matched := find?_some looked
    have same : found.nodeId = rf.targetId := of_decide_eq_true matched
    rw [← same, nodeId_resolveNode resolved, resolved]

theorem inputIndex_addExternalReferences (node : BrowseNode) :
    (server.addExternalReferences node).inputIndex = node.inputIndex := by
  have keeps (items : List ReferenceDescription) (state : BrowseNode × List ReferenceDescription) :
      (items.foldl (fun state rf =>
        if 0 < state.1.remaining then ((state.1.add server.typeTree rf).2, state.2)
        else (state.1, state.2 ++ [rf])) state).1.inputIndex = state.1.inputIndex := by
    induction items generalizing state with
    | nil => rfl
    | cons rf items ih =>
      rw [foldl_cons, ih]
      split
      · exact inputIndex_add ..
      · rfl
  unfold addExternalReferences takeExternalReferences
  rcases node.inputContinuationPoint with _ | _ | _ | items
  case some.externalReferences =>
    dsimp only
    split
    · exact keeps items _
    · exact keeps items _
  all_goals rfl

theorem addExternalReferences_eq (nothing : node.inputContinuationPoint = none) :
    server.addExternalReferences node = node := by
  unfold addExternalReferences takeExternalReferences
  rw [nothing]
  dsimp only
  rw [← nothing]

theorem pass_keeps (server : Server) (P : BrowseNode → Prop)
    (browsed : ∀ manager : InMemoryNodeManager, ∀ node, P node →
      P (manager.browse server.typeTree node))
    (managers : List InMemoryNodeManager) (index : ℕ) {node : BrowseNode} (here : P node) :
    Sum.elim (fun outcome => P outcome.2) P (server.pass index managers node) := by
  induction managers generalizing index node with
  | nil => exact here
  | cons manager managers ih =>
    rw [pass]
    split
    · exact browsed manager node here
    · exact ih (index + 1) (browsed manager node here)

theorem inputIndex_serve (node : BrowseNode) :
    (server.serve node).2.inputIndex = node.inputIndex := by
  have kept := pass_keeps server (fun last => last.inputIndex = node.inputIndex)
    (fun manager last here => (manager.inputIndex_browse last).trans here)
    (server.nodeManagers.drop node.startNodeManager) node.startNodeManager rfl
  unfold serve
  cases passed : server.pass node.startNodeManager
      (server.nodeManagers.drop node.startNodeManager) node with
  | inl outcome =>
    rw [passed] at kept
    exact kept
  | inr last =>
    rw [passed] at kept
    exact (last.inputIndex_resolveExternalReferences ..).trans kept

/-- **The nodes that passed all managers** are answered with what they have and what is resolved of
their external references. -/
theorem finish_outcomes (server : Server) (draws : ℕ → List UInt8)
    (nodes batchNodes : List BrowseNode) (answers : Answers) :
    ∃ outcomes : List (ℕ × BrowseNode),
      server.finish draws nodes batchNodes answers =
        outcomes.foldl (server.store draws) answers ∧
      outcomes.map (·.2.inputIndex) = (nodes ++ batchNodes).map (·.inputIndex) ∧
      ∀ node, node ∈ batchNodes ∨ node ∈ nodes ∧ node.inputContinuationPoint = none →
        (server.nodeManagerCount - 1,
          node.resolveExternalReferences server.typeTree server.resolveNode) ∈ outcomes := by
  let all := nodes.map server.addExternalReferences ++ batchNodes
  refine ⟨all.map fun node => (server.nodeManagerCount - 1,
    node.resolveExternalReferences server.typeTree (server.nodeMap all)), ?_, ?_, ?_⟩
  · rw [foldl_map]
    unfold finish
    rw [foldl_map]
    rfl
  · simp [all, Function.comp_def, inputIndex_addExternalReferences]
  · intro node asked
    have member : node ∈ all := by
      rcases asked with member | ⟨member, nothing⟩
      · exact mem_append_right _ member
      · refine mem_append_left _ (mem_map.mpr ⟨node, member, ?_⟩)
        exact addExternalReferences_eq nothing
    refine mem_map.mpr ⟨node, member, ?_⟩
    rw [node.resolveExternalReferences_congr _ fun rf refers => nodeMap_eq member refers]

/-! ### The services -/

theorem inputIndex_startNodes (server : Server) (request : BrowseRequest) :
    ((server.startNodes request).map (·.inputIndex)).Sublist
      (range request.nodesToBrowse.length) := by
  have positions : (server.startNodes request).map (·.inputIndex) =
      (request.nodesToBrowse.zipIdx.filter fun described =>
        (server.refusal described.1).isNone).map Prod.snd := by
    unfold startNodes
    rw [map_map]
    rfl
  have all : request.nodesToBrowse.zipIdx.map Prod.snd =
      range request.nodesToBrowse.length := by
    rw [zipIdx_map_snd, range_eq_range']
  rw [positions, ← all]
  exact filter_sublist.map _

variable {session after : Session} {results : List (Option BrowseResult)}

theorem browse_outcomes {request : BrowseRequest}
    (served : server.browse draws session request = (.ok results, after)) :
    ∃ outcomes : List (ℕ × BrowseNode),
      (results, after) =
        outcomes.foldl (server.store draws) (request.nodesToBrowse.map server.refusal, session) ∧
      (outcomes.map (·.2.inputIndex)).Subperm ((server.startNodes request).map (·.inputIndex)) ∧
      ∀ node ∈ server.startNodes request, server.serve node ∈ outcomes := by
  unfold browse at served
  split_ifs at served
  · cases served
  · cases served
  · cases served
  obtain ⟨full, answers, positions, batch, -⟩ :=
    turns_outcomes server draws server.nodeManagers 0
      ⟨[], server.startNodes request, (request.nodesToBrowse.map server.refusal, session)⟩
  generalize turned : server.turns draws 0 server.nodeManagers
    ⟨[], server.startNodes request, (request.nodesToBrowse.map server.refusal, session)⟩ = round
    at answers positions batch
  obtain ⟨last, finished, positions', passed⟩ :=
    finish_outcomes server draws round.batchNodes [] round.answers
  have entered : server.finish draws round.batchNodes [] round.answers = (results, after) := by
    simp only [turned, Prod.mk.injEq, Except.ok.injEq] at served
    exact Prod.ext served.1 served.2
  refine ⟨full ++ last, ?_, ?_, fun node member => ?_⟩
  · rw [← entered, finished, answers, foldl_append]
  · rw [append_nil] at positions positions'
    rw [map_append, positions']
    refine List.Subperm.trans (List.Sublist.subperm ?_) positions.subperm
    exact (List.Sublist.map _ (sublist_append_left _ _)).append_left _
  · have ends := batch node member
    have start : node.startNodeManager = 0 := by
      obtain ⟨_, -, rfl⟩ := mem_map.mp member
      rfl
    have nothing : node.inputContinuationPoint = none := by
      obtain ⟨_, -, rfl⟩ := mem_map.mp member
      rfl
    have still := pass_keeps server (fun last => last.inputContinuationPoint = none)
      (fun _ _ => InMemoryNodeManager.inputContinuationPoint_browse) server.nodeManagers 0 nothing
    unfold serve
    rw [start, drop_zero]
    cases way : server.pass 0 server.nodeManagers node with
    | inl outcome =>
      rw [way] at ends
      exact mem_append_left _ ends
    | inr spilt =>
      rw [way] at ends still
      exact mem_append_right _ (passed spilt (.inr ⟨ends, still⟩))

end Server

/-! ### Taking points out -/

theorem takePoints_cons (index : ℕ) (id : ByteString) (ids : List ByteString) (session : Session) :
    let rest := takePoints (index + 1) ids (session.removeBrowseContinuationPoint id).2
    takePoints index (id :: ids) session =
      match session.browseContinuationPoints.lookup id with
      | none =>
        (rest.1, some ⟨.BadContinuationPointInvalid, none, none⟩ :: rest.2.1, rest.2.2)
      | some point =>
        (.fromContinuationPoint point index :: rest.1, none :: rest.2.1, rest.2.2) := by
  rw [takePoints, Session.removeBrowseContinuationPoint]
  cases session.browseContinuationPoints.lookup id <;> rfl

theorem takePoints_cons_session (index : ℕ) (id : ByteString) (ids : List ByteString)
    (session : Session) :
    (takePoints index (id :: ids) session).2.2 =
      (takePoints (index + 1) ids (session.removeBrowseContinuationPoint id).2).2.2 := by
  rw [takePoints_cons]
  cases session.browseContinuationPoints.lookup id <;> rfl

section

variable (ids : List ByteString) (index : ℕ) (session : Session)
include ids index session

theorem length_takePoints : (takePoints index ids session).2.1.length = ids.length := by
  induction ids generalizing index session with
  | nil => rfl
  | cons id ids ih =>
    rw [takePoints_cons]
    cases session.browseContinuationPoints.lookup id <;> exact congrArg (· + 1) (ih ..)

theorem inputIndex_takePoints :
    ((takePoints index ids session).1.map (·.inputIndex)).Sublist
      (range' index ids.length) := by
  induction ids generalizing index session with
  | nil => exact nil_sublist _
  | cons id ids ih =>
    rw [takePoints_cons, length_cons, range'_succ]
    cases session.browseContinuationPoints.lookup id with
    | none => exact (ih ..).cons _
    | some point => exact (ih ..).cons_cons _

theorem lookup_takePoints (id : ByteString) :
    (takePoints index ids session).2.2.browseContinuationPoints.lookup id =
      if id ∈ ids then none else session.browseContinuationPoints.lookup id := by
  induction ids generalizing index session with
  | nil => simp [takePoints]
  | cons first ids ih =>
    have further := ih (index + 1) (session.removeBrowseContinuationPoint first).2
    rw [takePoints_cons_session, further, Session.removeBrowseContinuationPoint, lookup_erase_eq]
    by_cases same : id = first <;> by_cases there : id ∈ ids <;> simp [same, there]

theorem size_takePoints :
    size (takePoints index ids session).2.2.browseContinuationPoints ≤
        size session.browseContinuationPoints ∧
      (takePoints index ids session).2.2.maxBrowseContinuationPoints =
        session.maxBrowseContinuationPoints := by
  induction ids generalizing index session with
  | nil => exact ⟨Nat.le_refl _, rfl⟩
  | cons first ids ih =>
    obtain ⟨size, bound⟩ := ih (index + 1) (session.removeBrowseContinuationPoint first).2
    rw [takePoints_cons_session]
    exact ⟨size.trans (size_erase_le _ _), bound⟩

end

theorem lookup_removeBrowseContinuationPoint (session : Session) {id other : ByteString}
    (apart : other ≠ id) :
    (session.removeBrowseContinuationPoint id).2.browseContinuationPoints.lookup other =
      session.browseContinuationPoints.lookup other :=
  (lookup_erase_eq ..).trans (if_neg apart)

section

variable {ids : List ByteString} {index j : ℕ} {session : Session} {id : ByteString}

theorem takePoints_kept {point : BrowseContinuationPoint} (asked : ids[j]? = some id)
    (first : id ∉ ids.take j) (kept : session.browseContinuationPoints.lookup id = some point) :
    .fromContinuationPoint point (index + j) ∈ (takePoints index ids session).1 ∧
      (takePoints index ids session).2.1[j]? = some none := by
  induction ids generalizing index j session with
  | nil => cases asked
  | cons head ids ih =>
    rw [takePoints_cons]
    cases j with
    | zero =>
      cases asked
      rw [kept]
      exact ⟨.head _, rfl⟩
    | succ j =>
      rw [take_succ_cons, mem_cons, not_or] at first
      obtain ⟨there, pending⟩ := @ih (index + 1) j
        (session.removeBrowseContinuationPoint head).2 asked first.2
        ((lookup_removeBrowseContinuationPoint session first.1).trans kept)
      rw [Nat.succ_add_eq_add_succ] at there
      cases session.browseContinuationPoints.lookup head with
      | none => exact ⟨there, pending⟩
      | some other => exact ⟨.tail _ there, pending⟩

/-- **A point that is not kept,** or that the request names before, is invalid. -/
theorem takePoints_invalid (asked : ids[j]? = some id)
    (gone : session.browseContinuationPoints.lookup id = none ∨ id ∈ ids.take j) :
    (takePoints index ids session).2.1[j]? =
        some (some ⟨.BadContinuationPointInvalid, none, none⟩) ∧
      ∀ node ∈ (takePoints index ids session).1, node.inputIndex ≠ index + j := by
  induction ids generalizing index j session with
  | nil => cases asked
  | cons head ids ih =>
    rw [takePoints_cons]
    cases j with
    | zero =>
      cases asked
      rw [gone.resolve_right (by simp)]
      refine ⟨rfl, fun node member => ?_⟩
      have later := (inputIndex_takePoints ids (index + 1) _).subset (mem_map_of_mem member)
      rw [mem_range'_1] at later
      omega
    | succ j =>
      have gone :
          (session.removeBrowseContinuationPoint head).2.browseContinuationPoints.lookup id =
          none ∨ id ∈ ids.take j := by
        by_cases same : id = head
        · exact .inl ((lookup_erase_eq ..).trans (if_pos same))
        · rw [lookup_removeBrowseContinuationPoint session same]
          rw [take_succ_cons, mem_cons] at gone
          exact gone.imp_right fun before => before.resolve_left same
      obtain ⟨invalid, elsewhere⟩ := @ih (index + 1) j _ asked gone
      rw [Nat.succ_add_eq_add_succ] at elsewhere
      cases session.browseContinuationPoints.lookup head with
      | none => exact ⟨invalid, elsewhere⟩
      | some other =>
        refine ⟨invalid, fun node member => ?_⟩
        rcases mem_cons.mp member with rfl | member
        · show index ≠ index + (j + 1)
          omega
        · exact elsewhere node member

end

namespace Server

variable {server : Server} {draws : ℕ → List UInt8} {session after : Session}
  {results : List (Option BrowseResult)}

variable {request : BrowseNextRequest}

theorem browseNext_outcomes (going : request.releaseContinuationPoints = false)
    (served : server.browseNext draws session request = (.ok results, after)) :
    ∃ outcomes : List (ℕ × BrowseNode),
      (results, after) = outcomes.foldl (server.store draws)
        (takePoints 0 request.continuationPoints session).2 ∧
      (outcomes.map (·.2.inputIndex)).Subperm
        ((takePoints 0 request.continuationPoints session).1.map (·.inputIndex)) ∧
      ∀ node ∈ (takePoints 0 request.continuationPoints session).1,
        node.startNodeManager < server.nodeManagerCount → server.serve node ∈ outcomes := by
  unfold browseNext at served
  split_ifs at served with empty many release
  · cases served
  · cases served
  · rw [going] at release
    cases release
  generalize takePoints 0 request.continuationPoints session = taken at served ⊢
  obtain ⟨nodes, answers⟩ := taken
  obtain ⟨full, answered, positions, -, started⟩ :=
    turns_outcomes server draws server.nodeManagers 0 ⟨nodes, [], answers⟩
  generalize turned : server.turns draws 0 server.nodeManagers ⟨nodes, [], answers⟩ = round
    at answered positions started
  obtain ⟨last, finished, positions', passed⟩ :=
    finish_outcomes server draws round.nodes round.batchNodes round.answers
  have entered : server.finish draws round.nodes round.batchNodes round.answers =
      (results, after) := by
    simp only [turned, Prod.mk.injEq, Except.ok.injEq] at served
    exact Prod.ext served.1 served.2
  refine ⟨full ++ last, ?_, ?_, fun node member inside => ?_⟩
  · rw [← entered, finished, answered, foldl_append]
  · rw [map_append, positions']
    refine List.Perm.subperm (List.Perm.trans ?_ positions)
    exact (perm_append_comm.map _).append_left _
  · have ends := started node member (Nat.zero_le _) (by rwa [Nat.zero_add])
    rw [Nat.sub_zero] at ends
    unfold serve
    cases way : server.pass node.startNodeManager
        (server.nodeManagers.drop node.startNodeManager) node with
    | inl outcome =>
      rw [way] at ends
      exact mem_append_left _ ends
    | inr spilt =>
      rw [way] at ends
      exact mem_append_right _ (passed spilt (.inl ends))

theorem positions_spec {outcomes : List (ℕ × BrowseNode)} {positions : List ℕ} {n : ℕ}
    (among : (outcomes.map (·.2.inputIndex)).Subperm positions)
    (distinct : positions.Sublist (range n)) :
    (outcomes.map (·.2.inputIndex)).Nodup ∧
      ∀ outcome ∈ outcomes, outcome.2.inputIndex ∈ positions ∧ outcome.2.inputIndex < n := by
  have nodup : positions.Nodup := nodup_range.sublist distinct
  obtain ⟨kept, same, sublist⟩ := among
  refine ⟨same.nodup_iff.mp (nodup.sublist sublist), fun outcome member => ?_⟩
  have there := sublist.subset (same.mem_iff.mpr (mem_map_of_mem member))
  exact ⟨there, mem_range.mp (distinct.subset there)⟩

variable {k : ℕ}

theorem browse_answered {request : BrowseRequest} (distinct : Function.Injective draws)
    (served : server.browse draws session request = (.ok results, after))
    {description : BrowseDescription} (asked : request.nodesToBrowse[k]? = some description)
    (accepted : server.refusal description = none) :
    server.Answered draws (results, after)
      (server.serve (.new description (server.maxReferencesPerNode request) k)) := by
  obtain ⟨outcomes, entered, among, all⟩ := browse_outcomes served
  obtain ⟨nodup, inside⟩ := positions_spec among (inputIndex_startNodes server request)
  have member : new description (server.maxReferencesPerNode request) k ∈
      server.startNodes request := by
    refine mem_map.mpr ⟨(description, k), mem_filter.mpr ⟨?_, ?_⟩, rfl⟩
    · exact mk_mem_zipIdx_iff_getElem?.mpr asked
    · show (server.refusal description).isNone = true
      rw [accepted]
      rfl
  rw [entered]
  refine answered_foldl outcomes distinct nodup (all _ member) ?_
  rw [length_map]
  exact (inside _ (all _ member)).2

theorem browse_refused {request : BrowseRequest}
    (served : server.browse draws session request = (.ok results, after))
    {description : BrowseDescription} (asked : request.nodesToBrowse[k]? = some description)
    {result : BrowseResult} (refused : server.refusal description = some result) :
    results[k]? = some (some result) := by
  obtain ⟨outcomes, entered, among, -⟩ := browse_outcomes served
  obtain ⟨-, results', -⟩ := foldl_store_frame outcomes server draws
    (request.nodesToBrowse.map server.refusal, session)
  rw [← entered] at results'
  rw [results' k, getElem?_map, asked, Option.map_some, refused]
  intro outcome member same
  have there := (positions_spec among (inputIndex_startNodes server request)).2 outcome member
  obtain ⟨node, started, index⟩ := mem_map.mp there.1
  obtain ⟨⟨other, j⟩, kept, rfl⟩ := mem_map.mp started
  rw [mem_filter] at kept
  have here : j = k := index.trans same.symm
  rw [mk_mem_zipIdx_iff_getElem?, here, asked] at kept
  obtain ⟨rfl, accepted⟩ := And.imp_left Option.some.inj kept
  change (server.refusal description).isNone = true at accepted
  rw [refused] at accepted
  cases accepted

theorem browse_frame (server : Server) (draws : ℕ → List UInt8) (session : Session)
    (request : BrowseRequest) :
    (∀ id, (∀ k, id ≠ some (draws k)) →
      (server.browse draws session request).2.browseContinuationPoints.lookup id =
        session.browseContinuationPoints.lookup id) ∧
      (session.Within → (server.browse draws session request).2.Within) := by
  rcases served : server.browse draws session request with ⟨response, after⟩
  cases response with
  | error status =>
    have same : after = session := by
      unfold browse at served
      split_ifs at served
      all_goals cases served
      all_goals rfl
    rw [same]
    exact ⟨fun _ _ => rfl, id⟩
  | ok results =>
    obtain ⟨outcomes, entered, -⟩ := browse_outcomes served
    obtain ⟨-, -, points, within⟩ := foldl_store_frame outcomes server draws
      (request.nodesToBrowse.map server.refusal, session)
    rw [← entered] at points within
    exact ⟨points, within⟩

theorem browseNext_answered (distinct : Function.Injective draws)
    (going : request.releaseContinuationPoints = false)
    (served : server.browseNext draws session request = (.ok results, after)) {id : ByteString}
    (asked : request.continuationPoints[k]? = some id)
    (first : id ∉ request.continuationPoints.take k) {point : BrowseContinuationPoint}
    (kept : session.browseContinuationPoints.lookup id = some point)
    (inside : point.nodeManagerIndex < server.nodeManagerCount) :
    server.Answered draws (results, after)
      (server.serve (.fromContinuationPoint point k)) := by
  obtain ⟨outcomes, entered, among, all⟩ := browseNext_outcomes going served
  have positions := inputIndex_takePoints request.continuationPoints 0 session
  rw [← range_eq_range'] at positions
  obtain ⟨nodup, bounded⟩ := positions_spec among positions
  have member := (@takePoints_kept _ 0 _ _ _ _ asked first kept).1
  rw [Nat.zero_add] at member
  rw [entered]
  refine answered_foldl outcomes distinct nodup (all _ member inside) ?_
  rw [length_takePoints]
  exact (bounded _ (all _ member inside)).2

theorem browseNext_invalid {request : BrowseNextRequest}
    (going : request.releaseContinuationPoints = false)
    (served : server.browseNext draws session request = (.ok results, after)) {k : ℕ}
    {id : ByteString} (asked : request.continuationPoints[k]? = some id)
    (gone : session.browseContinuationPoints.lookup id = none ∨
      id ∈ request.continuationPoints.take k) :
    results[k]? = some (some ⟨.BadContinuationPointInvalid, none, none⟩) := by
  obtain ⟨outcomes, entered, among, -⟩ := browseNext_outcomes going served
  obtain ⟨-, results', -⟩ := foldl_store_frame outcomes server draws
    (takePoints 0 request.continuationPoints session).2
  obtain ⟨invalid, elsewhere⟩ := @takePoints_invalid _ 0 _ _ _ asked gone
  rw [← entered] at results'
  rw [results' k, invalid]
  intro outcome member same
  have positions := inputIndex_takePoints request.continuationPoints 0 session
  rw [← range_eq_range'] at positions
  obtain ⟨node, there, index⟩ :=
    mem_map.mp ((positions_spec among positions).2 outcome member).1
  exact elsewhere node there (by rw [Nat.zero_add, same]; exact index)

theorem browseNext_points
    (served : server.browseNext draws session request = (.ok results, after)) :
    (∀ id, (∀ k, id ≠ some (draws k)) → after.browseContinuationPoints.lookup id =
      if id ∈ request.continuationPoints then none
      else session.browseContinuationPoints.lookup id) ∧
      (session.Within → after.Within) := by
  have fewer (within : session.Within) :
      (takePoints 0 request.continuationPoints session).2.2.Within := by
    obtain ⟨size, bound⟩ := size_takePoints request.continuationPoints 0 session
    unfold Session.Within
    rw [bound]
    exact size.trans within
  cases going : request.releaseContinuationPoints with
  | true =>
    have released : after = (takePoints 0 request.continuationPoints session).2.2 := by
      unfold browseNext at served
      rw [going] at served
      split_ifs at served with _ _ released
      · cases served
      · cases served
      · cases served
        rfl
      · exact absurd rfl released
    rw [released]
    exact ⟨fun id _ => lookup_takePoints .., fewer⟩
  | false =>
    obtain ⟨outcomes, entered, -⟩ := browseNext_outcomes going served
    obtain ⟨-, -, points, within⟩ := foldl_store_frame outcomes server draws
      (takePoints 0 request.continuationPoints session).2
    rw [← entered] at points within
    exact ⟨fun id undrawn => (points id undrawn).trans (lookup_takePoints ..), within ∘ fewer⟩

theorem browseNext_frame (server : Server) (draws : ℕ → List UInt8) (session : Session)
    (request : BrowseNextRequest) :
    (∀ id, (∀ k, id ≠ some (draws k)) →
      (server.browseNext draws session request).2.browseContinuationPoints.lookup id =
          session.browseContinuationPoints.lookup id ∨
        id ∈ request.continuationPoints ∧
          (server.browseNext draws session request).2.browseContinuationPoints.lookup id = none) ∧
      (session.Within → (server.browseNext draws session request).2.Within) := by
  rcases served : server.browseNext draws session request with ⟨response, after⟩
  cases response with
  | error status =>
    have same : after = session := by
      unfold browseNext at served
      split_ifs at served
      all_goals cases served
      all_goals rfl
    rw [same]
    exact ⟨fun _ _ => .inl rfl, id⟩
  | ok results =>
    obtain ⟨points, within⟩ := browseNext_points served
    refine ⟨fun id undrawn => ?_, within⟩
    rw [points id undrawn]
    split_ifs with named
    · exact .inr ⟨named, rfl⟩
    · exact .inl rfl

end Server

end AsyncOpcua.View
