/-
**The maps of the type tree.**

The hash sets of subtypes are iterated in any order.

* `maps_consistent` — the maps stay consistent, and all children are found, along the runs in which
  nothing is registered again under another place, no abstract type is removed, and no cycle closed.
-/

import AsyncOpcua.Foundation.KeyedMap
import AsyncOpcua.Nodes.TypeTree

namespace AsyncOpcua.Nodes

open Types Foundation DefaultTypeTree List KeyedMap AList Or
open Relation (ReflTransGen TransGen)

namespace DefaultTypeTree

/-! ### All children -/

/-- The loop of `get_all_children`, with the next root first. -/
def collectChildren (order : Finset NodeId → List NodeId) (tree : DefaultTypeTree) :
    ℕ → List NodeId → Option (List NodeId)
  | _, [] => some []
  | 0, _ :: _ => none
  | fuel + 1, root :: roots =>
    let children := (tree.subtypesBySource.lookup root).getD ∅
    (collectChildren order tree fuel ((order children).reverse ++ roots)).map (root :: ·)

def getAllChildren (order : Finset NodeId → List NodeId) (tree : DefaultTypeTree) (fuel : ℕ)
    (root : NodeId) : Option (List NodeId) :=
  tree.collectChildren order fuel [root]

/-! ### What is kept -/

def propertyAt (tree : DefaultTypeTree) (typ : NodeId) (path : List QualifiedName) :
    Option TypeProperty :=
  ((tree.typeProperties.lookup typ).getD ∅).lookup path

/-- **The maps say the same.** -/
structure Consistent (tree : DefaultTypeTree) : Prop where
  subtypes : ∀ parent child, child ∈ (tree.subtypesBySource.lookup parent).getD ∅ ↔
    tree.subtypesByTarget.lookup child = some parent
  properties : ∀ id typ path, tree.propertyToType.lookup id = some ⟨typ, path⟩ ↔
    ∃ prop ∈ tree.propertyAt typ path, prop.nodeId = id
  abstract : tree.abstractTypes ⊆ tree.nodes.keys.toFinset

/-- Besides, subtypes are types, and none is below itself. -/
structure Sound (tree : DefaultTypeTree) : Prop where
  consistent : tree.Consistent
  typed : ∀ child parent, tree.subtypesByTarget.lookup child = some parent →
    tree.onward child = some parent
  acyclic : tree.NoCycles

/-- Nothing that is there is registered under another place, no abstract type is removed, and no
cycle is closed. -/
def Orderly (tree : DefaultTypeTree) : TypeTreeOp → Prop
  | .addTypeNode id parent nodeClass _ =>
    isTypeClass nodeClass = true ∧ (∀ old ∈ tree.subtypesByTarget.lookup id, old = parent) ∧
      ¬ tree.IsSubtype parent id
  | .addTypeProperty id typ path _ =>
    (∀ old ∈ tree.propertyToType.lookup id, old = ⟨typ, path⟩) ∧
      ∀ prop ∈ tree.propertyAt typ path, prop.nodeId = id
  | .remove id => id ∈ tree.nodes → id ∉ tree.abstractTypes
  | .isSubtypeOf _ _ | .evict _ _ => True

variable {tree : DefaultTypeTree} {order : Finset NodeId → List NodeId}

theorem Sound.onward_iff (sound : tree.Sound) {child parent : NodeId} :
    tree.onward child = some parent ↔ child ∈ (tree.subtypesBySource.lookup parent).getD ∅ := by
  rw [sound.consistent.subtypes]
  exact ⟨lookup_of_onward, sound.typed child parent⟩

theorem mem_collectChildren (sound : tree.Sound) (lists : ∀ s x, x ∈ order s ↔ x ∈ s) {fuel : ℕ}
    {roots found : List NodeId} (collected : tree.collectChildren order fuel roots = some found)
    (x : NodeId) : x ∈ found ↔ ∃ root ∈ roots, tree.IsSubtype x root := by
  induction fuel generalizing roots found with
  | zero =>
    cases roots with
    | nil => cases collected; simp
    | cons => cases collected
  | succ fuel ih =>
    cases roots with
    | nil => cases collected; simp
    | cons root roots =>
      obtain ⟨rest, later, rfl⟩ := Option.map_eq_some_iff.mp collected
      have below : tree.IsSubtype x root ↔
          x = root ∨
            ∃ child ∈ (tree.subtypesBySource.lookup root).getD ∅, tree.IsSubtype x child := by
        rw [IsSubtype, Relation.ReflTransGen.cases_tail_iff, eq_comm]
        simp only [sound.onward_iff, and_comm]
      rw [mem_cons, ih later]
      simp only [mem_cons, mem_append, mem_reverse, lists, or_and_right, exists_or,
        exists_eq_left, below, or_assoc]

/-- Any roots cost so many rounds more than those behind them. -/
def Collects (order : Finset NodeId → List NodeId) (tree : DefaultTypeTree) (roots : List NodeId) :
    Prop :=
  ∃ cost, ∀ fuel others, (tree.collectChildren order fuel others).isSome →
    (tree.collectChildren order (fuel + cost) (roots ++ others)).isSome

theorem collects_of_forall {roots : List NodeId}
    (each : ∀ root ∈ roots, tree.Collects order [root]) : tree.Collects order roots := by
  induction roots with
  | nil => exact ⟨0, fun _ _ collected => collected⟩
  | cons root roots ih =>
    obtain ⟨first, collects⟩ := each root mem_cons_self
    obtain ⟨rest, later⟩ := ih fun root there => each root (mem_cons_of_mem _ there)
    refine ⟨rest + first, fun fuel others collected => ?_⟩
    rw [← Nat.add_assoc]
    exact collects _ _ (later fuel others collected)

section

variable (sound : tree.Sound) (lists : ∀ s x, x ∈ order s ↔ x ∈ s) (root : NodeId)
include sound lists root

/-- The walk down comes to an end: by induction on the number of types below the root. -/
theorem Sound.collects : tree.Collects order [root] := by
  classical
  let below (root : NodeId) := tree.subtypesByTarget.keys.toFinset.filter fun child =>
    TransGen (fun node parent => tree.subtypesByTarget.lookup node = some parent) child root
  induction count : (below root).card using Nat.strong_induction_on generalizing root with
  | _ count ih =>
    have children : ∀ child ∈ (order ((tree.subtypesBySource.lookup root).getD ∅)).reverse,
        tree.Collects order [child] := by
      intro child there
      rw [mem_reverse, lists, sound.consistent.subtypes] at there
      refine ih _ ?_ child rfl
      rw [← count]
      refine Finset.card_lt_card (Finset.ssubset_iff_subset_ne.mpr
        ⟨fun x deeper => ?_, fun same => ?_⟩)
      · obtain ⟨known, chain⟩ := Finset.mem_filter.mp deeper
        exact Finset.mem_filter.mpr ⟨known, chain.tail there⟩
      · have here : child ∈ below root := Finset.mem_filter.mpr
          ⟨mem_toFinset.mpr (mem_keys.mpr (lookup_isSome.mp (by simp [there]))),
            .single there⟩
        rw [← same] at here
        exact sound.acyclic child (Finset.mem_filter.mp here).2
    obtain ⟨cost, collects⟩ := collects_of_forall children
    refine ⟨cost + 1, fun fuel others collected => ?_⟩
    show (Option.map _ _).isSome
    rw [Option.isSome_map]
    exact collects fuel others collected

theorem Sound.getAllChildren : ∃ fuel found, tree.getAllChildren order fuel root = some found ∧
      ∀ x, x ∈ found ↔ tree.IsSubtype x root := by
  obtain ⟨cost, collects⟩ := sound.collects lists root
  obtain ⟨found, collected⟩ := Option.isSome_iff_exists.mp (collects 0 [] rfl)
  refine ⟨_, found, collected, fun x => ?_⟩
  simpa using mem_collectChildren sound lists collected x

end

/-! ### Each call -/

/-- The new edge closes no cycle. -/
theorem transGen_of_edge {Node : Type*} {r r' : Node → Node → Prop} {a b x y : Node}
    (edge : ∀ c p, r' c p → r c p ∨ c = a ∧ p = b) (chain : TransGen r' x y) :
    TransGen r x y ∨ ReflTransGen r x a ∧ ReflTransGen r b y := by
  induction chain with
  | single first =>
    rcases edge _ _ first with old | ⟨rfl, rfl⟩
    · exact inl (.single old)
    · exact inr ⟨.refl, .refl⟩
  | tail _ last ih =>
    rcases edge _ _ last with old | ⟨rfl, rfl⟩
    · exact ih.imp (·.tail old) fun ⟨first, second⟩ => ⟨first, second.tail old⟩
    · exact inr ⟨ih.elim TransGen.to_reflTransGen And.left, .refl⟩

theorem Sound.isSubtype_iff (sound : tree.Sound) {child ancestor : NodeId} :
    tree.IsSubtype child ancestor ↔ ReflTransGen
      (fun node parent => tree.subtypesByTarget.lookup node = some parent) child ancestor := by
  have same : (fun node parent => tree.onward node = some parent) =
      fun node parent => tree.subtypesByTarget.lookup node = some parent :=
    funext fun node => funext fun parent => propext ⟨lookup_of_onward, sound.typed node parent⟩
  rw [IsSubtype, same]

theorem Consistent.addTypeNode (consistent : tree.Consistent) {id parent : NodeId}
    (same : ∀ old ∈ tree.subtypesByTarget.lookup id, old = parent) (nodeClass : NodeClass)
    (isAbstract : Bool) : (tree.addTypeNode id parent nodeClass isAbstract).Consistent where
  subtypes other child := by
    have before := consistent.subtypes other child
    simp only [DefaultTypeTree.addTypeNode, lookup_insert_eq]
    by_cases own : child = id
    · subst own
      by_cases here : other = parent
      · simp [here]
      · have elsewhere : tree.subtypesByTarget.lookup child ≠ some other :=
          fun found => here (same other found)
        simp [here, before, elsewhere, Ne.symm here]
    · by_cases here : other = parent
      · subst here
        simp [own, before]
      · simp [own, here, before]
  properties := consistent.properties
  abstract node listed := by
    have known : ∀ {other}, other ∈ tree.abstractTypes → other ∈ tree.nodes := fun there =>
      mem_keys.mpr (mem_toFinset.mp (consistent.abstract there))
    refine mem_toFinset.mpr (mem_keys.mp ?_)
    show node ∈ tree.nodes.insert id nodeClass
    rw [mem_insert]
    cases isAbstract with
    | true => exact (Finset.mem_insert.mp listed).imp_right known
    | false => exact inr (known (Finset.mem_of_mem_erase listed))

theorem Consistent.addTypeProperty (consistent : tree.Consistent) {id typ : NodeId}
    {path : List QualifiedName} (kept : ∀ old ∈ tree.propertyToType.lookup id, old = ⟨typ, path⟩)
    (own : ∀ prop ∈ tree.propertyAt typ path, prop.nodeId = id) (nodeClass : NodeClass) :
    (tree.addTypeProperty id typ path nodeClass).Consistent where
  subtypes := consistent.subtypes
  properties other typ' path' := by
    have before := consistent.properties other typ' path'
    have after : (tree.addTypeProperty id typ path nodeClass).propertyAt typ' path' =
        if typ' = typ ∧ path' = path then some ⟨id, nodeClass⟩ else tree.propertyAt typ' path' := by
      simp only [propertyAt, DefaultTypeTree.addTypeProperty, lookup_insert_eq]
      by_cases here : typ' = typ
      · subst here
        by_cases same : path' = path <;> simp [same, lookup_insert_eq]
      · simp [here]
    rw [after]
    show (tree.propertyToType.insert id ⟨typ, path⟩).lookup other = _ ↔ _
    rw [lookup_insert_eq]
    split_ifs with first here here
    · simp [first, here]
    · have elsewhere : tree.propertyToType.lookup id ≠ some ⟨typ', path'⟩ := fun found => by
        simp_all
      rw [← before, first]
      exact iff_of_false (fun same => here (by simpa [eq_comm] using same)) elsewhere
    · obtain ⟨rfl, rfl⟩ := here
      rw [before]
      refine iff_of_false ?_ (by simpa using Ne.symm first)
      rintro ⟨prop, there, rfl⟩
      exact first (own prop there)
    · exact before
  abstract := consistent.abstract

theorem lookup_eraseAll {props : List (Σ _ : List QualifiedName, TypeProperty)}
    (inverse : AList fun _ : NodeId => TypePropertyInverseRef) (id : NodeId) :
    (props.foldl (fun inverse prop => inverse.erase prop.2.nodeId) inverse).lookup id =
      if ∃ prop ∈ props, prop.2.nodeId = id then none else inverse.lookup id := by
  induction props generalizing inverse with
  | nil => simp
  | cons prop props ih =>
    rw [foldl_cons, ih, lookup_erase_eq]
    simp only [mem_cons, or_and_right, exists_or, exists_eq_left]
    by_cases here : prop.2.nodeId = id
    · simp [here]
    · simp only [here, false_or, if_neg (Ne.symm here)]

theorem Consistent.removeType (consistent : tree.Consistent) {id : NodeId} (known : id ∈ tree.nodes)
    (concrete : id ∉ tree.abstractTypes) : (tree.remove id).2.Consistent := by
  have parted : ∀ {other}, tree.subtypesByTarget.lookup id ≠ some other →
      ((tree.subtypesBySource.lookup other).getD ∅).erase id =
        (tree.subtypesBySource.lookup other).getD ∅ := fun elsewhere =>
    Finset.erase_eq_of_notMem fun there => elsewhere ((consistent.subtypes _ _).mp there)
  have subtypes : ∀ parent, ((tree.remove id).2.subtypesBySource.lookup parent).getD ∅ =
      ((tree.subtypesBySource.lookup parent).getD ∅).erase id := by
    intro parent
    rw [remove, if_pos known]
    cases found : tree.subtypesByTarget.lookup id with
    | none => exact (parted (by simp [found])).symm
    | some above =>
      have there := (consistent.subtypes above id).mpr found
      dsimp only
      cases listed : tree.subtypesBySource.lookup above with
      | none => simp [listed] at there
      | some types =>
        rw [lookup_insert_eq]
        split_ifs with here
        · rw [here, listed]
          rfl
        · exact (parted (by simpa [found] using Ne.symm here)).symm
  have properties : ∀ typ path, (tree.remove id).2.propertyAt typ path =
      if typ = id then none else tree.propertyAt typ path := by
    intro typ path
    rw [propertyAt, remove, if_pos known]
    rw [lookup_erase_eq]
    split_ifs <;> rfl
  have inverse : ∀ other, (tree.remove id).2.propertyToType.lookup other =
      (tree.propertyToType.lookup other).filter fun place => place.typeId ≠ id := by
    intro other
    have listed : ∀ {props}, tree.typeProperties.lookup id = some props →
        ((∃ entry ∈ props.entries, entry.2.nodeId = other) ↔
          ∃ path, tree.propertyToType.lookup other = some ⟨id, path⟩) := by
      intro props found
      simp only [consistent.properties, propertyAt, found, Option.getD_some]
      constructor
      · rintro ⟨entry, there, own⟩
        exact ⟨entry.1, entry.2, mem_lookup_iff.mpr there, own⟩
      · rintro ⟨path, prop, there, own⟩
        exact ⟨⟨path, prop⟩, mem_lookup_iff.mp there, own⟩
    rw [remove, if_pos known]
    cases place : tree.propertyToType.lookup other with
    | none => cases found : tree.typeProperties.lookup id <;> simp [lookup_eraseAll, place]
    | some here =>
      obtain ⟨typ, path⟩ := here
      cases found : tree.typeProperties.lookup id with
      | none =>
        have elsewhere : typ ≠ id := by
          rintro rfl
          obtain ⟨prop, there, -⟩ := (consistent.properties ..).mp place
          simp [propertyAt, found] at there
        simp [place, elsewhere, Option.filter]
      | some props =>
        have same : (∃ entry ∈ props.entries, entry.2.nodeId = other) ↔ typ = id :=
          (listed found).trans (by simp [place])
        simp only [lookup_eraseAll, same, place]
        by_cases own : typ = id <;> simp [own, Option.filter]
  refine ⟨fun parent child => ?_, fun other typ path => ?_, fun node listed => ?_⟩
  · rw [subtypes, Finset.mem_erase, consistent.subtypes, remove, if_pos known]
    rw [lookup_erase_eq]
    split_ifs with own <;> simp [own]
  · rw [properties, inverse, Option.filter_eq_some_iff, consistent.properties]
    split_ifs with own <;> simp [own]
  · rw [remove, if_pos known] at listed ⊢
    have there := mem_keys.mpr (mem_toFinset.mp (consistent.abstract listed))
    refine mem_toFinset.mpr (mem_keys.mp (mem_erase.mpr ⟨?_, there⟩))
    rintro rfl
    exact concrete listed

theorem Consistent.removeProperty (consistent : tree.Consistent) {id : NodeId}
    (unknown : id ∉ tree.nodes) : (tree.remove id).2.Consistent := by
  cases found : tree.propertyToType.lookup id with
  | none =>
    rw [remove, if_neg unknown, found]
    exact consistent
  | some place =>
    obtain ⟨prop, here, own⟩ := (consistent.properties id place.typeId place.path).mp found
    have properties : ∀ typ path, (tree.remove id).2.propertyAt typ path =
        if typ = place.typeId ∧ path = place.path then none else tree.propertyAt typ path := by
      intro typ path
      rw [propertyAt] at here ⊢
      rw [remove, if_neg unknown, found]
      cases listed : tree.typeProperties.lookup place.typeId with
      | none => simp [listed] at here
      | some props =>
        dsimp only
        rw [listed]
        rw [lookup_insert_eq, propertyAt]
        by_cases same : typ = place.typeId
        · subst same
          simp [listed, lookup_erase_eq]
        · simp [same]
    refine ⟨?_, fun other typ path => ?_, ?_⟩
    · rw [remove, if_neg unknown, found]
      exact consistent.subtypes
    · have before := consistent.properties other typ path
      have elsewhere : tree.propertyToType.lookup id = some ⟨typ, path⟩ ↔
          typ = place.typeId ∧ path = place.path := by
        rw [found, Option.some.injEq]
        constructor
        · intro same
          cases same
          exact ⟨rfl, rfl⟩
        · rintro ⟨first, second⟩
          rw [first, second]
      rw [properties, remove, if_neg unknown, found]
      rw [lookup_erase_eq]
      split_ifs with first there there
      · simp
      · rw [← before, first, elsewhere]
        exact iff_of_false (by simp) there
      · obtain ⟨rfl, rfl⟩ := there
        rw [before]
        refine iff_of_false ?_ (by simp)
        rintro ⟨other', there, rfl⟩
        rw [Option.mem_def.mp here] at there
        cases there
        exact first own
      · exact before
    · rw [remove, if_neg unknown, found]
      exact consistent.abstract

theorem Sound.new : Sound .new where
  consistent :=
    { subtypes := fun parent child => by simp [DefaultTypeTree.new]
      properties := fun id typ path => by simp [DefaultTypeTree.new, propertyAt]
      abstract := Finset.empty_subset _ }
  typed := fun child parent there => by cases there
  acyclic := fun node cycle => by
    obtain ⟨parent, there, -⟩ := Relation.TransGen.head'_iff.mp cycle
    cases there

theorem lookup_remove (tree : DefaultTypeTree) (id child : NodeId) :
    (tree.remove id).2.subtypesByTarget.lookup child =
      if child = id ∧ id ∈ tree.nodes then none else tree.subtypesByTarget.lookup child := by
  rw [remove]
  by_cases known : id ∈ tree.nodes
  · simp [known, lookup_erase_eq]
  · cases tree.propertyToType.lookup id <;> simp [known]

theorem Sound.step (sound : tree.Sound) {op : TypeTreeOp} (orderly : tree.Orderly op)
    {after : DefaultTypeTree} (stepped : machine.step tree op = some after) : after.Sound := by
  cases op with
  | addTypeNode id parent nodeClass isAbstract =>
    obtain ⟨typed, same, apart⟩ := orderly
    cases stepped
    refine ⟨sound.consistent.addTypeNode same nodeClass isAbstract, fun child above there => ?_,
      fun node cycle => ?_⟩
    · replace there : (tree.subtypesByTarget.insert id parent).lookup child = some above := there
      rw [lookup_insert_eq] at there
      rw [onward_addTypeNode, if_pos typed]
      split_ifs at there ⊢
      · exact there
      · exact sound.typed child above there
    · refine (transGen_of_edge (a := id) (b := parent) (fun child above there => ?_) cycle).elim
        (sound.acyclic node) ?_
      · replace there : (tree.subtypesByTarget.insert id parent).lookup child = some above := there
        rw [lookup_insert_eq] at there
        split_ifs at there with own
        · exact inr ⟨own, (Option.some.inj there).symm⟩
        · exact inl there
      · exact fun ⟨down, up⟩ => apart (sound.isSubtype_iff.mpr (up.trans down))
  | addTypeProperty id typ path nodeClass =>
    cases stepped
    exact ⟨sound.consistent.addTypeProperty orderly.1 orderly.2 nodeClass, sound.typed,
      sound.acyclic⟩
  | remove id =>
    cases stepped
    have old : ∀ child above, (tree.remove id).2.subtypesByTarget.lookup child = some above →
        tree.subtypesByTarget.lookup child = some above ∧ child ≠ id := by
      intro child above there
      rw [lookup_remove] at there
      split_ifs at there with gone
      have known := mem_nodes_of_onward (sound.typed child above there)
      exact ⟨there, fun same => gone ⟨same, same ▸ known⟩⟩
    refine ⟨?_, fun child above there => ?_, fun node cycle => ?_⟩
    · by_cases known : id ∈ tree.nodes
      · exact sound.consistent.removeType known (orderly known)
      · exact sound.consistent.removeProperty known
    · rw [onward_remove, if_neg (old child above there).2]
      exact sound.typed child above (old child above there).1
    · have before := TransGen.mono (fun child above there => (old child above there).1) _ _ cycle
      exact sound.acyclic node before
  | isSubtypeOf child ancestor =>
    obtain ⟨⟨answer, cached⟩, asked, rfl⟩ := Option.map_eq_some_iff.mp stepped
    have same : ∃ cache, cached = { tree with subtypeCache := cache } := by
      rw [isSubtypeOf] at asked
      split at asked
      · cases asked
        exact ⟨_, rfl⟩
      · split at asked
        · cases asked
        · cases asked
          exact ⟨_, rfl⟩
    obtain ⟨cache, rfl⟩ := same
    exact ⟨⟨sound.consistent.subtypes, sound.consistent.properties, sound.consistent.abstract⟩,
      sound.typed, sound.acyclic⟩
  | evict child ancestor =>
    cases stepped
    exact ⟨⟨sound.consistent.subtypes, sound.consistent.properties, sound.consistent.abstract⟩,
      sound.typed, sound.acyclic⟩

theorem maps_consistent {ops : List TypeTreeOp} {tree : DefaultTypeTree}
    (orderly : machine.Guarded Orderly .new ops) (ran : machine.run .new ops = some tree)
    {order : Finset NodeId → List NodeId} (lists : ∀ s x, x ∈ order s ↔ x ∈ s) :
    tree.Consistent ∧ ∀ root, ∃ fuel found, tree.getAllChildren order fuel root = some found ∧
      ∀ x, x ∈ found ↔ tree.IsSubtype x root := by
  have sound : tree.Sound := machine.run_invariant_of_guarded
    (fun _ _ _ sound orderly stepped => sound.step orderly stepped) .new orderly ran
  exact ⟨sound.consistent, sound.getAllChildren lists⟩

theorem not_isSubtype_of_top {parent id : NodeId} (top : tree.onward parent = none)
    (other : parent ≠ id) : ¬ tree.IsSubtype parent id := by
  intro below
  rcases below.cases_head with same | ⟨_, up, -⟩
  · exact other same
  · rw [top] at up
    cases up

/-- A type with a property of two names, and one that is removed. -/
def registered : List TypeTreeOp :=
  [.addTypeNode (ownType 1) .BaseObjectType .objectType true,
    .addTypeNode (ownType 2) .BaseObjectType .objectType false,
    .addTypeProperty (ownType 3) (ownType 1) [⟨0, some "a"⟩, ⟨0, some "b"⟩] .variable,
    .remove (ownType 2)]

/-- The sets are listed in the order in which they are represented. -/
theorem maps_consistent_registered :
    ∃ tree order, machine.run .new registered = some tree ∧
      tree.Consistent ∧ ∀ root, ∃ fuel found, tree.getAllChildren order fuel root = some found ∧
        ∀ x, x ∈ found ↔ tree.IsSubtype x root := by
  have orderly : machine.Guarded Orderly .new registered := by
    refine ⟨⟨rfl, fun _ there => by (cases there), not_isSubtype_of_top rfl (by decide)⟩, ?_⟩
    rintro _ ⟨⟩
    refine ⟨⟨rfl, fun _ there => by (cases there), not_isSubtype_of_top rfl (by decide)⟩, ?_⟩
    rintro _ ⟨⟩
    refine ⟨⟨fun _ there => by (cases there), fun _ there => by (cases there)⟩, ?_⟩
    rintro _ ⟨⟩
    exact ⟨fun _ => by decide, fun _ _ => trivial⟩
  exact ⟨_, Finset.toList, rfl, maps_consistent orderly rfl fun _ _ => Finset.mem_toList⟩

/-- **A type in two places:** it is registered again under another parent, and stays among the
subtypes of the old one. -/
theorem maps_inconsistent : ¬ ∀ ops tree, machine.run .new ops = some tree → tree.Consistent := by
  intro always
  have consistent := always [.addTypeNode (ownType 1) .BaseObjectType .objectType false,
    .addTypeNode (ownType 1) .BaseDataType .objectType false] _ rfl
  exact absurd ((consistent.subtypes .BaseObjectType (ownType 1)).mp (by decide)) (by decide)

end DefaultTypeTree

end AsyncOpcua.Nodes
