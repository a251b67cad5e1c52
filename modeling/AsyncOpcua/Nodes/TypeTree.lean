/-
**The type tree and its remembered subtype answers.**

A subtype question walks up the `HasSubtype` references from the child and is remembered; the cache
may drop any answer at any time, but nothing else takes one out of it. A walk through a cycle of
supertypes does not return. The namespace map is left out.

* `move_eq` — the walk goes on from a node to its `onward` supertype;
* `isSubtypeOf_eq_walkSubtypes` — after undisturbed operations the remembered answers are those of
  the walk along the present references.
-/

import AsyncOpcua.Foundation.Transition
import AsyncOpcua.Foundation.Walk
import AsyncOpcua.Types.NodeId

namespace AsyncOpcua.Nodes

open Types Foundation Option AList

structure TypeProperty where
  nodeId : NodeId
  nodeClass : NodeClass

structure TypePropertyInverseRef where
  typeId : NodeId
  path : List QualifiedName

structure DefaultTypeTree where
  nodes : AList fun _ : NodeId => NodeClass
  abstractTypes : Finset NodeId
  subtypesBySource : AList fun _ : NodeId => Finset NodeId
  subtypesByTarget : AList fun _ : NodeId => NodeId
  propertyToType : AList fun _ : NodeId => TypePropertyInverseRef
  typeProperties : AList fun _ : NodeId => AList fun _ : List QualifiedName => TypeProperty
  subtypeCache : AList fun _ : NodeId × NodeId => Bool

/-- The classes whose nodes have subtypes. -/
def isTypeClass : NodeClass → Bool
  | .dataType | .objectType | .referenceType | .variableType => true
  | _ => false

namespace DefaultTypeTree

def new : DefaultTypeTree where
  nodes :=
    (((∅ : AList fun _ : NodeId => NodeClass).insert .BaseObjectType .objectType).insert
      .References .referenceType).insert .BaseVariableType .variableType |>.insert
      .BaseDataType .dataType
  abstractTypes := ∅
  subtypesBySource := ∅
  subtypesByTarget := ∅
  propertyToType := ∅
  typeProperties := ∅
  subtypeCache := ∅

/-! ### Asking -/

variable (tree : DefaultTypeTree)

def move (ancestor node : NodeId) : Move NodeId Bool :=
  if node = ancestor then .answer true
  else
    match tree.nodes.lookup node with
    | none => .answer false
    | some nodeClass =>
      if isTypeClass nodeClass then
        match tree.subtypesByTarget.lookup node with
        | some parent => .go parent
        | none => .answer false
      else .answer false

/-- The walk of `isSubtypeOf`, or `none` if it does not end. -/
def walkSubtypes (child ancestor : NodeId) : Option Bool :=
  walk (tree.move ancestor) (tree.nodes.keys.toFinset.card + 1) child

/-- The answer, which is remembered, and the tree after it; `none` if the walk does not end. -/
def isSubtypeOf (child ancestor : NodeId) : Option (Bool × DefaultTypeTree) :=
  match tree.subtypeCache.lookup (child, ancestor) with
  | some cached => some (cached, tree)
  | none =>
    match tree.walkSubtypes child ancestor with
    | none => none
    | some result =>
      some (result, { tree with subtypeCache := tree.subtypeCache.insert (child, ancestor) result })

/-! ### Changing -/

def addTypeNode (id parent : NodeId) (nodeClass : NodeClass)
    (isAbstract : Bool) : DefaultTypeTree :=
  let children := (tree.subtypesBySource.lookup parent).getD ∅
  { tree with
    nodes := tree.nodes.insert id nodeClass
    abstractTypes :=
      if isAbstract then insert id tree.abstractTypes else tree.abstractTypes.erase id
    subtypesBySource := tree.subtypesBySource.insert parent (insert id children)
    subtypesByTarget := tree.subtypesByTarget.insert id parent }

def addTypeProperty (id typ : NodeId) (path : List QualifiedName)
    (nodeClass : NodeClass) : DefaultTypeTree :=
  let props := (tree.typeProperties.lookup typ).getD ∅
  { tree with
    typeProperties := tree.typeProperties.insert typ (props.insert path ⟨id, nodeClass⟩)
    propertyToType := tree.propertyToType.insert id ⟨typ, path⟩ }

def remove (nodeId : NodeId) : Bool × DefaultTypeTree :=
  if nodeId ∈ tree.nodes then
    let propertyToType :=
      match tree.typeProperties.lookup nodeId with
      | none => tree.propertyToType
      | some props =>
        props.entries.foldl (fun inverse prop => inverse.erase prop.2.nodeId) tree.propertyToType
    let subtypesBySource :=
      match tree.subtypesByTarget.lookup nodeId with
      | none => tree.subtypesBySource
      | some parent =>
        match tree.subtypesBySource.lookup parent with
        | none => tree.subtypesBySource
        | some types => tree.subtypesBySource.insert parent (types.erase nodeId)
    (true,
      { tree with
        nodes := tree.nodes.erase nodeId
        typeProperties := tree.typeProperties.erase nodeId
        propertyToType := propertyToType
        subtypesByTarget := tree.subtypesByTarget.erase nodeId
        subtypesBySource := subtypesBySource })
  else
    match tree.propertyToType.lookup nodeId with
    | none => (false, tree)
    | some prop =>
      let typeProperties :=
        match tree.typeProperties.lookup prop.typeId with
        | none => tree.typeProperties
        | some props => tree.typeProperties.insert prop.typeId (props.erase prop.path)
      (true,
        { tree with
          propertyToType := tree.propertyToType.erase nodeId
          typeProperties := typeProperties })

end DefaultTypeTree

/-- A call on the tree, or an answer that the cache drops. -/
inductive TypeTreeOp where
  | addTypeNode (id parent : NodeId) (nodeClass : NodeClass) (isAbstract : Bool)
  | addTypeProperty (id typ : NodeId) (path : List QualifiedName) (nodeClass : NodeClass)
  | remove (nodeId : NodeId)
  | isSubtypeOf (child ancestor : NodeId)
  | evict (child ancestor : NodeId)

namespace DefaultTypeTree

/-- **The tree under a sequence of calls.** -/
def machine : Machine DefaultTypeTree TypeTreeOp where
  step tree op :=
    match op with
    | .addTypeNode id parent nodeClass isAbstract =>
      some (tree.addTypeNode id parent nodeClass isAbstract)
    | .addTypeProperty id typ path nodeClass => some (tree.addTypeProperty id typ path nodeClass)
    | .remove nodeId => some (tree.remove nodeId).2
    | .isSubtypeOf child ancestor => (tree.isSubtypeOf child ancestor).map Prod.snd
    | .evict child ancestor =>
      some { tree with subtypeCache := tree.subtypeCache.erase (child, ancestor) }

/-! ### The chain of supertypes -/

/-- The supertype that a walk goes on to from a node: the parent of a registered type. -/
def onward (tree : DefaultTypeTree) (node : NodeId) : Option NodeId :=
  match tree.nodes.lookup node with
  | none => none
  | some nodeClass => if isTypeClass nodeClass then tree.subtypesByTarget.lookup node else none

/-- The chain of supertypes of `child` comes to `ancestor`. -/
def IsSubtype (tree : DefaultTypeTree) : NodeId → NodeId → Prop :=
  Relation.ReflTransGen fun node parent => tree.onward node = some parent

/-- **No type is below itself.** -/
def NoCycles (tree : DefaultTypeTree) : Prop :=
  ∀ node, ¬ Relation.TransGen (fun node parent => tree.subtypesByTarget.lookup node = some parent)
    node node

variable {tree : DefaultTypeTree}

theorem move_self (tree : DefaultTypeTree) (ancestor : NodeId) :
    tree.move ancestor ancestor = .answer true := if_pos rfl

variable {ancestor node : NodeId}

theorem move_eq (tree : DefaultTypeTree) (apart : node ≠ ancestor) :
    tree.move ancestor node =
      match tree.onward node with
      | some parent => .go parent
      | none => .answer false := by
  rw [move, if_neg apart, onward]
  cases tree.nodes.lookup node with
  | none => rfl
  | some nodeClass => cases known : isTypeClass nodeClass <;> simp only [known] <;> rfl

variable {parent : NodeId}

theorem move_eq_go_iff :
    tree.move ancestor node = .go parent ↔ node ≠ ancestor ∧ tree.onward node = some parent := by
  by_cases same : node = ancestor
  · subst same
    simp [move_self]
  · rw [tree.move_eq same]
    cases tree.onward node with
    | none | some => simp [same]

theorem mem_nodes_of_onward (goes : tree.onward node = some parent) : node ∈ tree.nodes := by
  rw [← lookup_isSome]
  unfold onward at goes
  cases found : tree.nodes.lookup node with
  | none =>
    rw [found] at goes
    cases goes
  | some => rfl

theorem lookup_of_onward (goes : tree.onward node = some parent) :
    tree.subtypesByTarget.lookup node = some parent := by
  unfold onward at goes
  split at goes
  · cases goes
  · split_ifs at goes
    exact goes

theorem move_finite (goes : tree.move ancestor node = .go parent) :
    node ∈ tree.nodes.keys.toFinset := by
  rw [List.mem_toFinset, ← mem_keys]
  exact mem_nodes_of_onward (move_eq_go_iff.mp goes).2

variable {child : NodeId}

theorem walk_eq_none_of_walkSubtypes (endless : tree.walkSubtypes child ancestor = none)
    (count : ℕ) : walk (tree.move ancestor) count child = none :=
  walk_eq_none (fun _ _ => move_finite) endless count

theorem walk_eq_some {answer : Bool} {count : ℕ}
    (answered : walk (tree.move ancestor) count child = some answer) :
    answer = true ↔ tree.IsSubtype child ancestor := by
  induction count generalizing child with
  | zero => cases answered
  | succ count ih =>
    by_cases same : child = ancestor
    · subst same
      rw [walk_answer (tree.move_self child), some.injEq] at answered
      exact iff_of_true answered.symm .refl
    · have moved := tree.move_eq same
      cases goes : tree.onward child with
      | none =>
        rw [goes] at moved
        rw [walk_answer moved, some.injEq] at answered
        refine iff_of_false (by simp [← answered]) fun below => ?_
        rcases below.cases_head with here | ⟨next, first, -⟩
        · exact same here
        · rw [goes] at first
          cases first
      | some parent =>
        rw [goes] at moved
        rw [walk_go moved] at answered
        refine (ih answered).trans ⟨fun below => .head goes below, fun below => ?_⟩
        rcases below.cases_head with here | ⟨next, first, rest⟩
        · exact absurd here same
        · rw [goes, some.injEq] at first
          exact first ▸ rest

/-- **Without cycles the walk ends,** with what the chain of supertypes says. -/
theorem walkSubtypes_eq_some (acyclic : tree.NoCycles) (child ancestor : NodeId) :
    ∃ answer, tree.walkSubtypes child ancestor = some answer ∧
      (answer = true ↔ tree.IsSubtype child ancestor) := by
  have ends : Acyclic (tree.move ancestor) := by
    intro node round
    exact acyclic node (round.lift id fun _ _ goes => lookup_of_onward (move_eq_go_iff.mp goes).2)
  obtain ⟨answer, answered⟩ := walk_ends (fun _ _ => move_finite) ends child
  exact ⟨answer, answered, walk_eq_some answered⟩

/-! ### Remembered answers -/

/-- The walk from `child` to `ancestor` looks at the entries of a node. -/
def Consults (tree : DefaultTypeTree) (child ancestor node : NodeId) : Prop :=
  Visits (tree.move ancestor) child node ∧ node ≠ ancestor

/-- No remembered walk looks at the node. -/
def Unasked (tree : DefaultTypeTree) (node : NodeId) : Prop :=
  ∀ child ancestor, (child, ancestor) ∈ tree.subtypeCache → ¬ tree.Consults child ancestor node

/-- **An operation that changes no remembered chain:** a type is added or removed that the walks of
the remembered answers do not look at, or whose supertype stays what it was. -/
def Undisturbed (tree : DefaultTypeTree) : TypeTreeOp → Prop
  | .addTypeNode id parent nodeClass _ =>
    (tree.onward id = if isTypeClass nodeClass then some parent else none) ∨ tree.Unasked id
  | .remove nodeId => tree.onward nodeId = none ∨ tree.Unasked nodeId
  | .addTypeProperty .. | .isSubtypeOf .. | .evict .. => True

/-- Every remembered answer is the one of the walk along the present references. -/
def Current (tree : DefaultTypeTree) : Prop :=
  Remembers tree.subtypeCache fun query => tree.walkSubtypes query.1 query.2

theorem new_current : new.Current := by
  intro query answer found
  cases found

theorem onward_addTypeNode (tree : DefaultTypeTree) (id parent : NodeId) (nodeClass : NodeClass)
    (isAbstract : Bool) (node : NodeId) :
    (tree.addTypeNode id parent nodeClass isAbstract).onward node =
      if node = id then (if isTypeClass nodeClass then some parent else none)
      else tree.onward node := by
  have parts : (tree.addTypeNode id parent nodeClass isAbstract).nodes =
      tree.nodes.insert id nodeClass := rfl
  have parents : (tree.addTypeNode id parent nodeClass isAbstract).subtypesByTarget =
      tree.subtypesByTarget.insert id parent := rfl
  unfold onward
  rw [parts, parents]
  by_cases same : node = id
  · subst same
    simp
  · simp [lookup_insert_ne same, if_neg same]

theorem onward_remove (tree : DefaultTypeTree) (nodeId node : NodeId) :
    (tree.remove nodeId).2.onward node = if node = nodeId then none else tree.onward node := by
  by_cases there : nodeId ∈ tree.nodes
  · rw [remove, if_pos there]
    split_ifs with same
    · subst same
      simp [onward]
    · simp [onward, lookup_erase_ne same]
  · have unchanged : (tree.remove nodeId).2.onward node = tree.onward node := by
      rw [remove, if_neg there]
      cases tree.propertyToType.lookup nodeId <;> rfl
    rw [unchanged]
    split_ifs with same
    · subst same
      rw [onward, lookup_eq_none.mpr there]
    · rfl

variable {after : DefaultTypeTree}

/-- **A change at one node leaves the remembered answers present,** if their walks do not look at
it. -/
theorem Current.change (current : tree.Current) (id : NodeId)
    (cache : after.subtypeCache = tree.subtypeCache)
    (elsewhere : ∀ node, node ≠ id → after.onward node = tree.onward node)
    (undisturbed : after.onward id = tree.onward id ∨ tree.Unasked id) : after.Current := by
  unfold Current
  rw [cache]
  intro query answer found
  have answered : tree.walkSubtypes query.1 query.2 = some answer := current query answer found
  have remembered : query ∈ tree.subtypeCache := lookup_isSome.mp (by rw [found]; rfl)
  have alike : ∀ node, Visits (tree.move query.2) query.1 node →
      after.move query.2 node = tree.move query.2 node := by
    intro node visits
    by_cases arrived : node = query.2
    · rw [arrived, move_self, move_self]
    have same : after.onward node = tree.onward node := by
      by_cases here : node = id
      · subst here
        rcases undisturbed with kept | unasked
        · exact kept
        · exact absurd ⟨visits, arrived⟩ (unasked query.1 query.2 remembered)
      · exact elsewhere node here
    rw [after.move_eq arrived, tree.move_eq arrived, same]
  -- The walk is the same, only the number of nodes it may take has changed.
  cases walked : after.walkSubtypes query.1 query.2 with
  | none =>
    have never := walk_eq_none_of_walkSubtypes walked (tree.nodes.keys.toFinset.card + 1)
    rw [walk_congr alike] at never
    rw [walkSubtypes, never] at answered
    cases answered
  | some other =>
    have same : other = answer := by
      unfold walkSubtypes at answered walked
      rw [walk_congr alike] at walked
      rcases Nat.le_total (tree.nodes.keys.toFinset.card + 1)
        (after.nodes.keys.toFinset.card + 1) with fewer | more
      · exact some.inj (walked.symm.trans (walk_mono fewer answered))
      · exact some.inj ((walk_mono more walked).symm.trans answered)
    exact same ▸ walked

theorem Current.isSubtypeOf {answer : Bool} (current : tree.Current)
    (asked : tree.isSubtypeOf child ancestor = some (answer, after)) :
    after.Current ∧ tree.walkSubtypes child ancestor = some answer := by
  unfold DefaultTypeTree.isSubtypeOf at asked
  cases found : tree.subtypeCache.lookup (child, ancestor) with
  | some cached =>
    simp only [found, some.injEq, Prod.mk.injEq] at asked
    obtain ⟨rfl, rfl⟩ := asked
    exact ⟨current, current (child, ancestor) cached found⟩
  | none =>
    cases walked : tree.walkSubtypes child ancestor with
    | none => simp [found, walked] at asked
    | some result =>
      simp only [found, walked, some.injEq, Prod.mk.injEq] at asked
      obtain ⟨rfl, rfl⟩ := asked
      exact ⟨Remembers.insert current walked, rfl⟩

theorem Current.step {op : TypeTreeOp} (current : tree.Current)
    (undisturbed : tree.Undisturbed op) (stepped : machine.step tree op = some after) :
    after.Current := by
  cases op with
  | addTypeNode id parent nodeClass isAbstract =>
    cases stepped
    have onward := tree.onward_addTypeNode id parent nodeClass isAbstract
    refine current.change id rfl (fun node apart => by rw [onward, if_neg apart]) ?_
    rw [onward, if_pos rfl]
    exact undisturbed.imp_left Eq.symm
  | addTypeProperty => cases stepped; exact current
  | remove nodeId =>
    cases stepped
    have onward := tree.onward_remove nodeId
    refine current.change nodeId ?_ (fun node apart => by rw [onward, if_neg apart]) ?_
    · unfold remove
      split_ifs
      · rfl
      · cases tree.propertyToType.lookup nodeId <;> rfl
    · rw [onward, if_pos rfl]
      exact undisturbed.imp_left Eq.symm
  | isSubtypeOf child ancestor =>
    obtain ⟨⟨answer, after⟩, asked, rfl⟩ := map_eq_some_iff.mp stepped
    exact (current.isSubtypeOf asked).1
  | evict child ancestor =>
    cases stepped
    exact Remembers.erase current (child, ancestor)

/-- **Remembered answers stay current:** after any undisturbed operations, a subtype question of a
tree without cycles is answered as the walk along the present supertypes answers it. -/
theorem isSubtypeOf_eq_walkSubtypes {ops : List TypeTreeOp} {tree : DefaultTypeTree}
    (undisturbed : machine.Guarded Undisturbed .new ops) (ran : machine.run .new ops = some tree)
    (acyclic : tree.NoCycles) (child ancestor : NodeId) :
    ∃ answer after, tree.isSubtypeOf child ancestor = some (answer, after) ∧
      tree.walkSubtypes child ancestor = some answer ∧
      (answer = true ↔ tree.IsSubtype child ancestor) := by
  have current : tree.Current :=
    machine.run_invariant_of_guarded (fun _ _ _ current => current.step) new_current undisturbed ran
  obtain ⟨answer, walked, agrees⟩ := walkSubtypes_eq_some acyclic child ancestor
  have returns : ∃ given after, tree.isSubtypeOf child ancestor = some (given, after) := by
    unfold DefaultTypeTree.isSubtypeOf
    cases tree.subtypeCache.lookup (child, ancestor) with
    | some cached => exact ⟨cached, tree, rfl⟩
    | none => exact ⟨answer, _, by rw [walked]⟩
  obtain ⟨given, after, asked⟩ := returns
  have same := (current.isSubtypeOf asked).2
  rw [walked, some.injEq] at same
  exact ⟨answer, after, same ▸ asked, walked, agrees⟩

theorem NoCycles.of_rank (rank : NodeId → ℕ)
    (rises : ∀ entry ∈ tree.subtypesByTarget.entries, rank entry.1 < rank entry.2) :
    tree.NoCycles := by
  have above : ∀ {node other}, Relation.TransGen
      (fun node parent => tree.subtypesByTarget.lookup node = some parent) node other →
      rank node < rank other := by
    intro node other chain
    induction chain with
    | single first => exact rises _ (mem_lookup_iff.mp first)
    | tail _ last ih => exact ih.trans (rises _ (mem_lookup_iff.mp last))
  exact fun node round => (above round).false

def ownType (value : UInt32) : NodeId := ⟨1, .numeric value⟩

/-- A type that is registered twice in the same place, and asked about in between. -/
theorem isSubtypeOf_eq_walkSubtypes_registered :
    ∃ tree, machine.run .new
        [.addTypeNode (ownType 1) .BaseObjectType .objectType false,
          .isSubtypeOf (ownType 1) .BaseObjectType,
          .addTypeNode (ownType 1) .BaseObjectType .objectType true] = some tree ∧
      ∃ answer after, tree.isSubtypeOf (ownType 1) .BaseObjectType = some (answer, after) ∧
        tree.walkSubtypes (ownType 1) .BaseObjectType = some answer ∧
        (answer = true ↔ tree.IsSubtype (ownType 1) .BaseObjectType) := by
  have undisturbed : machine.Guarded Undisturbed .new
      [.addTypeNode (ownType 1) .BaseObjectType .objectType false,
        .isSubtypeOf (ownType 1) .BaseObjectType,
        .addTypeNode (ownType 1) .BaseObjectType .objectType true] := by
    refine ⟨.inr fun _ _ asked => absurd asked (notMem_empty _), fun _ first => ?_⟩
    cases first
    refine ⟨trivial, fun _ second => ?_⟩
    cases second
    exact ⟨.inl rfl, fun _ _ => trivial⟩
  exact ⟨_, rfl, isSubtypeOf_eq_walkSubtypes undisturbed rfl
    (.of_rank (fun node => if node = ownType 1 then 0 else 1) (by decide)) _ _⟩

/-- **A stale answer:** a type that was no subtype of another when it was asked about is registered
again under that other one, and the question is still answered as before. -/
theorem isSubtypeOf_stale :
    ∃ ops tree, machine.run .new ops = some tree ∧
      machine.Guarded (fun tree _ => tree.NoCycles) .new ops ∧ tree.NoCycles ∧
      ∃ child ancestor, (tree.isSubtypeOf child ancestor).map Prod.fst = some false ∧
        tree.walkSubtypes child ancestor = some true := by
  refine ⟨[.addTypeNode (ownType 1) .BaseObjectType .objectType false,
    .isSubtypeOf (ownType 1) (ownType 2),
    .addTypeNode (ownType 1) (ownType 2) .objectType false], _, rfl, ?_, ?_,
    ownType 1, ownType 2, by decide, by decide⟩
  · refine ⟨.of_rank (fun _ => 0) (by decide), fun _ first => ?_⟩
    cases first
    refine ⟨.of_rank (fun node => if node = ownType 1 then 0 else 1) (by decide),
      fun _ second => ?_⟩
    cases second
    exact ⟨.of_rank (fun node => if node = ownType 1 then 0 else 1) (by decide), fun _ _ => trivial⟩
  · exact .of_rank (fun node => if node = ownType 1 then 0 else 1) (by decide)

end DefaultTypeTree

end AsyncOpcua.Nodes
