/-
**What a browse still owes.**

A browse that goes on at some manager owes the references in that manager's queue and those to the
own nodes of the managers after it, and besides, late, the references that are left to the other
managers. A page pays from the first as long as there is room, and stops at a manager's end when it
is full; the late ones are only paid after the last manager.

* `Place`, `owed`, `late` — where a browse goes on, and its debts;
* `Pays` — **a page as a payment**.
-/

import AsyncOpcua.Foundation.Instalments
import AsyncOpcua.View.BrowseAnswers

namespace AsyncOpcua.View

open Types Foundation List

open BrowseNode

section Queues

variable (tree : TypeTree) (description : BrowseDescription)

/-- The queues of the managers from one on; only the first continues an earlier browse. -/
def queues : List InMemoryNodeManager → Option ContinuationPoint → List (List ReferenceDescription)
  | [], _ => []
  | manager :: later, input =>
    manager.queue tree description input :: later.map (·.locals tree description)

/-- The references to other managers' nodes that come with the queues. -/
def refers : List InMemoryNodeManager → Option ContinuationPoint → List ExternalReference
  | [], _ => []
  | manager :: later, input =>
    manager.fresh tree description input ++ later.flatMap (·.externals tree description)

variable (managers : List InMemoryNodeManager)

def lastQueue (input : Option ContinuationPoint) : List ReferenceDescription :=
  (queues tree description managers input).getLast?.getD []

variable {tree description}

theorem queues_none :
    queues tree description managers none = managers.map (·.locals tree description) := by
  cases managers <;> rfl

theorem refers_none :
    refers tree description managers none = managers.flatMap (·.externals tree description) := by
  cases managers <;> rfl

variable {manager : InMemoryNodeManager} {later : List InMemoryNodeManager}

theorem lastQueue_cons (some_later : later ≠ []) (input : Option ContinuationPoint) :
    lastQueue tree description (manager :: later) input =
      lastQueue tree description later none := by
  unfold lastQueue
  rw [queues_none, queues, getLast?_cons]
  cases last : (later.map (·.locals tree description)).getLast? with
  | none => exact absurd (map_eq_nil_iff.mp (getLast?_eq_none_iff.mp last)) some_later
  | some queue => rfl

/-- **A node is full at a manager.** It took `page`, and `rest` of that manager's queue is stored if
there is any; `later` are the managers after it. -/
structure FullAt (tree : TypeTree) (description : BrowseDescription)
    (managers : List InMemoryNodeManager) (node last : BrowseNode)
    (later : List InMemoryNodeManager) (page rest : List ReferenceDescription) : Prop where
  status : last.statusCode = .Good
  asks : last.description = description
  bound : last.maxReferencesPerNode = node.maxReferencesPerNode
  takes : last.references = node.references ++ page
  fills : page.length = node.remaining
  owes : (queues tree description managers node.inputContinuationPoint).flatten.Perm
    (page ++ rest ++ later.flatMap (·.locals tree description))
  leaves : node.externalReferences ++ refers tree description managers node.inputContinuationPoint =
    last.externalReferences ++ later.flatMap (·.externals tree description)
  stores : rest = [] ∧ last.nextContinuationPoint = none ∨
    ∃ stored, rest ≠ [] ∧ last.nextContinuationPoint = some (.browse stored) ∧
      stored.reverse.Perm rest
  atEnd : later = [] → lastQueue tree description managers node.inputContinuationPoint ≠ []
  before : later ≠ [] → lastQueue tree description managers node.inputContinuationPoint =
    lastQueue tree description later none

/-- **A node passed all managers** and has room for more. -/
structure Through (tree : TypeTree) (description : BrowseDescription)
    (managers : List InMemoryNodeManager) (node last : BrowseNode) : Prop where
  status : last.statusCode = .Good
  asks : last.description = description
  bound : last.maxReferencesPerNode = node.maxReferencesPerNode
  pending : last.nextContinuationPoint = none
  takes : last.references =
    node.references ++ (queues tree description managers node.inputContinuationPoint).flatten
  room : (queues tree description managers node.inputContinuationPoint).flatten.length <
    node.remaining
  leaves : last.externalReferences =
    node.externalReferences ++ refers tree description managers node.inputContinuationPoint

theorem fullAt_browse {managers : List InMemoryNodeManager}
    {node : BrowseNode} (valid : description.nodeId.isNull = false)
    (here : node.description = description) (room : 0 < node.remaining)
    (pending : node.nextContinuationPoint = none)
    (enough : node.remaining ≤
      (manager.queue tree description node.inputContinuationPoint).length) :
    (manager.browse tree node).isCompleted = true ∧
      FullAt tree description (manager :: managers) node (manager.browse tree node) managers
        ((manager.queue tree description node.inputContinuationPoint).take node.remaining)
        ((manager.queue tree description node.inputContinuationPoint).drop node.remaining) := by
  subst here
  have fills := length_take_of_le enough
  have none_left : node.maxReferencesPerNode ≤
      (node.references ++ (manager.queue tree node.description
        node.inputContinuationPoint).take node.remaining).length := by
    rw [length_append, fills, remaining_eq]
    omega
  have owes : (queues tree node.description (manager :: managers)
      node.inputContinuationPoint).flatten.Perm
        ((manager.queue tree node.description node.inputContinuationPoint).take node.remaining ++
          (manager.queue tree node.description node.inputContinuationPoint).drop node.remaining ++
          managers.flatMap (·.locals tree node.description)) := by
    rw [take_append_drop, queues, flatten_cons, ← flatMap_def]
  have atEnd (ends : managers = []) : lastQueue tree node.description (manager :: managers)
      node.inputContinuationPoint ≠ [] := by
    subst ends
    exact ne_nil_of_length_pos (Nat.lt_of_lt_of_le room enough)
  rw [InMemoryNodeManager.browse_eq node valid]
  dsimp only
  split
  · next fits =>
    rw [List.isEmpty_iff] at fits
    refine ⟨decide_eq_true (.inl ?_), rfl, rfl, rfl, rfl, fills, owes, ?_, .inl ⟨fits, pending⟩,
      atEnd, fun others => lastQueue_cons others _⟩
    · exact (remaining_eq _).trans (Nat.sub_eq_zero_of_le none_left)
    · exact (append_assoc ..).symm
  · next more =>
    rw [List.isEmpty_iff] at more
    refine ⟨decide_eq_true (.inr rfl), rfl, rfl, rfl, rfl, fills, owes, ?_,
      .inr ⟨_, more, rfl, InMemoryNodeManager.leftOver_perm _ _⟩,
      atEnd, fun others => lastQueue_cons others _⟩
    exact (append_assoc ..).symm

theorem browse_short {node : BrowseNode}
    (valid : description.nodeId.isNull = false) (here : node.description = description)
    (short : (manager.queue tree description node.inputContinuationPoint).length <
      node.remaining) :
    manager.browse tree node =
      { node with
        statusCode := .Good
        inputContinuationPoint := none
        references :=
          node.references ++ manager.queue tree description node.inputContinuationPoint
        externalReferences :=
          node.externalReferences ++
            manager.fresh tree description node.inputContinuationPoint } := by
  subst here
  rw [InMemoryNodeManager.browse_eq node valid]
  dsimp only
  rw [drop_of_length_le short.le, take_of_length_le short.le]
  rfl

section Short

variable {manager : InMemoryNodeManager} {managers : List InMemoryNodeManager}
  {node last : BrowseNode} (valid : description.nodeId.isNull = false)
  (here : node.description = description)
  (short : (manager.queue tree description node.inputContinuationPoint).length < node.remaining)

include valid here short

theorem remaining_browse_short :
    (manager.browse tree node).remaining =
      node.remaining - (manager.queue tree description node.inputContinuationPoint).length := by
  rw [browse_short valid here short, remaining_eq, remaining_eq]
  dsimp only
  rw [length_append]
  omega

theorem flatten_queues_short :
    (queues tree description (manager :: managers) node.inputContinuationPoint).flatten =
      manager.queue tree description node.inputContinuationPoint ++
        (queues tree description managers
          (manager.browse tree node).inputContinuationPoint).flatten := by
  rw [browse_short valid here short]
  rw [queues_none, queues, flatten_cons]

theorem refers_short :
    node.externalReferences ++
        refers tree description (manager :: managers) node.inputContinuationPoint =
      (manager.browse tree node).externalReferences ++
        refers tree description managers (manager.browse tree node).inputContinuationPoint := by
  rw [browse_short valid here short]
  rw [refers_none, refers, append_assoc]

theorem lastQueue_short (others : managers ≠ []) :
    lastQueue tree description (manager :: managers) node.inputContinuationPoint =
      lastQueue tree description managers (manager.browse tree node).inputContinuationPoint := by
  rw [browse_short valid here short]
  exact lastQueue_cons others _

theorem FullAt.cons {page rest : List ReferenceDescription} (others : managers ≠ [])
    (full : FullAt tree description managers (manager.browse tree node) last later page rest) :
    FullAt tree description (manager :: managers) node last later
      (manager.queue tree description node.inputContinuationPoint ++ page) rest where
  status := full.status
  asks := full.asks
  bound := by
    rw [full.bound, browse_short valid here short]
  takes := by
    rw [full.takes, browse_short valid here short]
    exact append_assoc ..
  fills := by
    rw [length_append, full.fills, remaining_browse_short valid here short]
    omega
  owes := by
    rw [flatten_queues_short valid here short, append_assoc, append_assoc]
    exact (full.owes.trans (by rw [append_assoc])).append_left _
  leaves := (refers_short valid here short).trans full.leaves
  stores := full.stores
  atEnd ends := by
    rw [lastQueue_short valid here short others]
    exact full.atEnd ends
  before more := by
    rw [lastQueue_short valid here short others]
    exact full.before more

theorem Through.cons
    (through : Through tree description managers (manager.browse tree node) last) :
    Through tree description (manager :: managers) node last where
  status := through.status
  asks := through.asks
  bound := by
    rw [through.bound, browse_short valid here short]
  pending := through.pending
  takes := by
    rw [flatten_queues_short valid here short, through.takes, ← append_assoc]
    nth_rewrite 1 [browse_short valid here short]
    rfl
  room := by
    have room := through.room
    rw [remaining_browse_short valid here short] at room
    rw [flatten_queues_short valid here short, length_append]
    omega
  leaves := by
    rw [refers_short valid here short]
    exact through.leaves

end Short

theorem pass_spec {server : Server} (valid : description.nodeId.isNull = false)
    (managers : List InMemoryNodeManager) (index : ℕ) {node : BrowseNode}
    (here : node.description = description) (room : 0 < node.remaining)
    (pending : node.nextContinuationPoint = none)
    (good : managers ≠ [] ∨ node.statusCode = .Good) :
    (∃ last before manager later page rest,
      server.pass index managers node = .inl (index + before.length, last) ∧
        managers = before ++ manager :: later ∧
        FullAt server.typeTree description managers node last later page rest) ∨
      ∃ last, server.pass index managers node = .inr last ∧
        Through server.typeTree description managers node last := by
  induction managers generalizing index node with
  | nil =>
    exact .inr ⟨node, rfl, good.resolve_left fun none => none rfl, here, rfl, pending,
      (append_nil _).symm, room, (append_nil _).symm⟩
  | cons manager managers ih =>
    rcases Nat.lt_or_ge
      (manager.queue server.typeTree description node.inputContinuationPoint).length
      node.remaining with short | enough
    · have left := remaining_browse_short valid here short
      have goesOn : (manager.browse server.typeTree node).isCompleted = false := by
        refine decide_eq_false ?_
        rintro (full | stored)
        · omega
        · rw [browse_short valid here short] at stored
          rw [pending] at stored
          cases stored
      have onward : server.pass index (manager :: managers) node =
          server.pass (index + 1) managers (manager.browse server.typeTree node) := by
        rw [Server.pass, if_neg (by rw [goesOn]; exact Bool.false_ne_true)]
      rw [onward]
      rcases @ih (index + 1) (manager.browse server.typeTree node)
        (by rw [browse_short valid here short]; exact here) (by omega)
        (by rw [browse_short valid here short]; exact pending)
        (.inr (by rw [browse_short valid here short])) with
        ⟨last, before, stop, later, page, rest, passed, split, full⟩ | ⟨last, passed, through⟩
      · refine .inl ⟨last, manager :: before, stop, later, _, rest, ?_, ?_,
          full.cons valid here short (by simp [split])⟩
        · rw [passed, length_cons, Nat.succ_add_eq_add_succ]
        · rw [split]
          rfl
      · exact .inr ⟨last, passed, through.cons valid here short⟩
    · obtain ⟨completed, full⟩ :=
        @fullAt_browse _ _ manager managers _ valid here room pending enough
      refine .inl ⟨_, [], manager, managers, _, _, ?_, rfl, full⟩
      rw [Server.pass, if_pos completed]
      rfl

theorem length_lastQueue_le
    (input : Option ContinuationPoint) :
    (lastQueue tree description managers input).length ≤
      (queues tree description managers input).flatten.length := by
  unfold lastQueue
  cases last : (queues tree description managers input).getLast? with
  | none => exact Nat.zero_le _
  | some queue => exact (sublist_flatten_of_mem (mem_of_getLast? last)).length_le

theorem queues_fresh {input : Option ContinuationPoint}
    (other : ∀ nodes, input ≠ some (.browse nodes)) (managers : List InMemoryNodeManager) :
    queues tree description managers input = queues tree description managers none ∧
      refers tree description managers input = refers tree description managers none := by
  cases managers with
  | nil => exact ⟨rfl, rfl⟩
  | cons manager later =>
    rcases input with _ | nodes | _ | items
    · exact ⟨rfl, rfl⟩
    · exact absurd rfl (other nodes)
    · exact ⟨rfl, rfl⟩
    · exact ⟨rfl, rfl⟩

end Queues

/-- **Where a browse goes on.** -/
structure Place where
  nodeManagerIndex : ℕ
  input : Option ContinuationPoint
  externalReferences : List ExternalReference

namespace Place

variable (place : Place) (description : BrowseDescription) (maxReferencesPerNode : ℕ)

def start : Place := ⟨0, none, []⟩

def node (inputIndex : ℕ) : BrowseNode where
  description := description
  references := []
  statusCode := .BadNodeIdUnknown
  inputContinuationPoint := place.input
  nextContinuationPoint := none
  maxReferencesPerNode := maxReferencesPerNode
  inputIndex := inputIndex
  startNodeManager := place.nodeManagerIndex
  externalReferences := place.externalReferences

def IsPoint (point : BrowseContinuationPoint) : Prop :=
  point.nodeManagerIndex = place.nodeManagerIndex ∧ some point.continuationPoint = place.input ∧
    point.description = description ∧ point.maxReferencesPerNode = maxReferencesPerNode ∧
    point.externalReferences = place.externalReferences

variable {place description maxReferencesPerNode}

theorem node_of_isPoint {point : BrowseContinuationPoint}
    (stands : place.IsPoint description maxReferencesPerNode point) (inputIndex : ℕ) :
    fromContinuationPoint point inputIndex =
      place.node description maxReferencesPerNode inputIndex := by
  obtain ⟨index, input, asks, bound, refers⟩ := stands
  unfold fromContinuationPoint node
  rw [index, input, asks, bound, refers]

end Place

namespace Server

variable (server : Server) (description : BrowseDescription)

def debt (place : Place) : Debt ReferenceDescription where
  now := (queues server.typeTree description (server.nodeManagers.drop place.nodeManagerIndex)
    place.input).flatten
  late := (place.externalReferences ++ refers server.typeTree description
    (server.nodeManagers.drop place.nodeManagerIndex) place.input).filterMap
      (resolve description server.typeTree server.resolveNode)
  last := lastQueue server.typeTree description
    (server.nodeManagers.drop place.nodeManagerIndex) place.input
  last_le := length_lastQueue_le _ _

/-- The debt of a browse that starts at the last manager. -/
def restart : Debt ReferenceDescription :=
  server.debt description ⟨server.nodeManagerCount - 1, none, []⟩

variable {server description} {maxReferencesPerNode : ℕ} {index : ℕ}

theorem debt_fresh {input : Option ContinuationPoint}
    (other : ∀ nodes, input ≠ some (.browse nodes)) (refers : List ExternalReference) :
    server.debt description ⟨index, input, refers⟩ =
      server.debt description ⟨index, none, refers⟩ := by
  obtain ⟨queues, fresh⟩ := @queues_fresh server.typeTree description _ other
    (server.nodeManagers.drop index)
  unfold debt lastQueue
  simp [queues, fresh]

variable {managers : List InMemoryNodeManager}

theorem debt_later
    (here : server.nodeManagers.drop index = managers) (refers : List ExternalReference) :
    (server.debt description ⟨index, some .empty, refers⟩).now =
        managers.flatMap (·.locals server.typeTree description) ∧
      (server.debt description ⟨index, some .empty, refers⟩).late =
        (refers ++ managers.flatMap (·.externals server.typeTree description)).filterMap
          (resolve description server.typeTree server.resolveNode) ∧
      (server.debt description ⟨index, some .empty, refers⟩).last =
        lastQueue server.typeTree description managers none := by
  rw [debt_fresh fun _ same => by cases same]
  unfold debt lastQueue
  dsimp only
  rw [here, queues_none, refers_none]
  exact ⟨(flatMap_def ..).symm, rfl, rfl⟩

variable {manager : InMemoryNodeManager}

theorem debt_within (here : server.nodeManagers.drop index = manager :: managers)
    (stored : List ReferenceDescription) (refers : List ExternalReference) :
    (server.debt description ⟨index, some (.browse stored), refers⟩).now =
        stored.reverse ++ managers.flatMap (·.locals server.typeTree description) ∧
      (server.debt description ⟨index, some (.browse stored), refers⟩).late =
        (refers ++ managers.flatMap (·.externals server.typeTree description)).filterMap
          (resolve description server.typeTree server.resolveNode) ∧
      (server.debt description ⟨index, some (.browse stored), refers⟩).last =
        lastQueue server.typeTree description (manager :: managers) (some (.browse stored)) := by
  unfold debt
  dsimp only
  rw [here]
  refine ⟨?_, rfl, rfl⟩
  rfl

def Stands (server : Server) (description : BrowseDescription) (maxReferencesPerNode : ℕ)
    (point : BrowseContinuationPoint) (place : Place) : Prop :=
  place.IsPoint description maxReferencesPerNode point ∧
    place.nodeManagerIndex < server.nodeManagerCount

variable {place : Place}

theorem pays_of_fullAt {k : ℕ} {last : BrowseNode} {before later : List InMemoryNodeManager}
    {page rest : List ReferenceDescription} (id : ByteString)
    (split : server.nodeManagers.drop place.nodeManagerIndex = before ++ manager :: later)
    (full : FullAt server.typeTree description
      (server.nodeManagers.drop place.nodeManagerIndex)
      (place.node description maxReferencesPerNode k) last later page rest) :
    ∃ next : Option Place,
      Option.Rel (server.Stands description maxReferencesPerNode)
        (last.continuation (place.nodeManagerIndex + before.length) server.nodeManagerCount id)
        next ∧
      Pays maxReferencesPerNode (server.restart description) (server.debt description place)
        last.references (next.map (server.debt description)) := by
  have here : server.nodeManagers.drop (place.nodeManagerIndex + before.length) =
      manager :: later := by
    rw [← drop_drop, split, drop_left]
  have after : server.nodeManagers.drop (place.nodeManagerIndex + before.length + 1) = later := by
    rw [← drop_drop, here]
    rfl
  have count := congrArg length here
  rw [length_drop, length_cons] at count
  have references : last.references = page := full.takes
  have fills : page.length = maxReferencesPerNode := full.fills.trans (remaining_eq _)
  have leaves := full.leaves
  have owes := full.owes
  rw [references]
  rcases full.stores with ⟨rfl, nothing⟩ | ⟨stored, more, stores, kept⟩
  · rw [append_nil] at owes
    cases later with
    | nil =>
      refine ⟨none, ?_, .forgets (owes.trans (by simp)) fills (full.atEnd rfl)⟩
      rw [continuation_eq_none nothing (by
        rw [length_nil] at count
        unfold nodeManagerCount
        omega)]
      exact .none
    | cons next later =>
      unfold continuation
      rw [nothing]
      refine ⟨some ⟨place.nodeManagerIndex + before.length + 1, some .empty,
        last.externalReferences⟩, ?_, .full ?_ ?_ fills ?_⟩
      · rw [if_pos (by rw [length_cons] at count; unfold nodeManagerCount; omega)]
        refine .some ⟨⟨rfl, rfl, full.asks, full.bound, rfl⟩, ?_⟩
        dsimp only
        rw [length_cons] at count
        unfold nodeManagerCount
        omega
      · rw [(debt_later after _).1]
        exact owes
      · rw [(debt_later after _).2.1, ← leaves]
        rfl
      · rw [(debt_later after _).2.2, ← full.before (cons_ne_nil _ _)]
        rfl
  · unfold continuation
    rw [stores]
    refine ⟨some ⟨place.nodeManagerIndex + before.length, some (.browse stored),
      last.externalReferences⟩, .some ⟨⟨rfl, rfl, full.asks, full.bound, rfl⟩, ?_⟩,
      .full ?_ ?_ fills ?_⟩
    · dsimp only
      unfold nodeManagerCount
      omega
    · rw [(debt_within here _ _).1, ← append_assoc]
      exact owes.trans ((kept.symm.append_left _).append_right _)
    · rw [(debt_within here _ _).2.1, ← leaves]
      rfl
    · rw [(debt_within here _ _).2.2]
      cases later with
      | nil =>
        refine ⟨fun _ => full.atEnd rfl, fun _ empty => more ?_⟩
        exact List.Perm.eq_nil (kept.symm.trans (by rw [show stored.reverse = [] from empty]))
      | cons next later =>
        rw [lastQueue_cons (cons_ne_nil _ _), ← full.before (cons_ne_nil _ _)]
        rfl

theorem pays_of_through {k : ℕ} {last : BrowseNode} (id : ByteString)
    (some_manager : 0 < server.nodeManagerCount)
    (through : Through server.typeTree description
      (server.nodeManagers.drop place.nodeManagerIndex)
      (place.node description maxReferencesPerNode k) last) :
    ∃ next : Option Place,
      Option.Rel (server.Stands description maxReferencesPerNode)
        ((last.resolveExternalReferences server.typeTree server.resolveNode).continuation
          (server.nodeManagerCount - 1) server.nodeManagerCount id) next ∧
      Pays maxReferencesPerNode (server.restart description) (server.debt description place)
        (last.resolveExternalReferences server.typeTree server.resolveNode).references
        (next.map (server.debt description)) := by
  have bound : (place.node description maxReferencesPerNode k).remaining = maxReferencesPerNode :=
    remaining_eq _
  have references : last.references = (server.debt description place).now := through.takes
  have short : (server.debt description place).now.length < maxReferencesPerNode := by
    have room := through.room
    rw [bound] at room
    exact room
  have left : last.remaining =
      maxReferencesPerNode - (server.debt description place).now.length := by
    rw [remaining_eq, references, through.bound]
    rfl
  have found : last.externalReferences.filterMap
      (resolve last.description server.typeTree server.resolveNode) =
        (server.debt description place).late := by
    rw [through.asks, through.leaves]
    rfl
  rw [resolveExternalReferences_eq]
  dsimp only
  rw [found, left]
  split
  · next fits =>
    rw [List.isEmpty_iff, List.drop_eq_nil_iff] at fits
    refine ⟨none, ?_, .settles short fits ?_⟩
    · rw [continuation_eq_none (by exact through.pending) (Nat.lt_irrefl _)]
      exact .none
    · rw [take_of_length_le fits, ← references]
      exact .refl _
  · next beyond =>
    rw [List.isEmpty_iff, List.drop_eq_nil_iff] at beyond
    refine ⟨some ⟨server.nodeManagerCount - 1, some (.externalReferences
      ((server.debt description place).late.drop
        (maxReferencesPerNode - (server.debt description place).now.length))), []⟩,
      .some ⟨⟨rfl, rfl, through.asks, through.bound, rfl⟩, ?_⟩, ?_⟩
    · dsimp only
      omega
    · have fresh (items : List ReferenceDescription) :
          server.debt description
            ⟨server.nodeManagerCount - 1, some (.externalReferences items), []⟩ =
              server.restart description := debt_fresh (fun _ same => by cases same) []
      rw [Option.map_some, fresh]
      refine .restarts short (Nat.lt_of_not_le beyond) ?_
      rw [← references]
      exact .refl _

/-- **Every node is served with a payment** of what is owed where it goes on. -/
theorem serve_pays (valid : description.nodeId.isNull = false) (positive : 0 < maxReferencesPerNode)
    (inside : place.nodeManagerIndex < server.nodeManagerCount) (k : ℕ)
    (id : ByteString) :
    (server.serve (place.node description maxReferencesPerNode k)).2.statusCode = .Good ∧
      ∃ next : Option Place,
        Option.Rel (server.Stands description maxReferencesPerNode)
          ((server.serve (place.node description maxReferencesPerNode k)).2.continuation
            (server.serve (place.node description maxReferencesPerNode k)).1
            server.nodeManagerCount id) next ∧
        Pays maxReferencesPerNode (server.restart description) (server.debt description place)
          (server.serve (place.node description maxReferencesPerNode k)).2.references
          (next.map (server.debt description)) := by
  have some_left : server.nodeManagers.drop place.nodeManagerIndex ≠ [] := by
    rw [ne_eq, drop_eq_nil_iff]
    exact Nat.not_le_of_lt inside
  have room : 0 < (place.node description maxReferencesPerNode k).remaining := by
    rw [remaining_eq]
    exact positive
  rcases pass_spec valid (server.nodeManagers.drop place.nodeManagerIndex) place.nodeManagerIndex
      rfl room rfl (.inl some_left) with
    ⟨last, before, manager, later, page, rest, passed, split, full⟩ | ⟨last, passed, through⟩
  · have served : server.serve (place.node description maxReferencesPerNode k) =
        (place.nodeManagerIndex + before.length, last) := by
      unfold serve
      rw [show (place.node description maxReferencesPerNode k).startNodeManager =
        place.nodeManagerIndex from rfl, passed]
    rw [served]
    exact ⟨full.status, pays_of_fullAt id split full⟩
  · have served : server.serve (place.node description maxReferencesPerNode k) =
        (server.nodeManagerCount - 1,
          last.resolveExternalReferences server.typeTree server.resolveNode) := by
      unfold serve
      rw [show (place.node description maxReferencesPerNode k).startNodeManager =
        place.nodeManagerIndex from rfl, passed]
    rw [served]
    refine ⟨?_, pays_of_through id (Nat.zero_lt_of_lt inside) through⟩
    rw [statusCode_resolveExternalReferences]
    exact through.status

end Server

end AsyncOpcua.View
