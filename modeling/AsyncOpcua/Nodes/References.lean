/-
**The two indexes of the references between nodes.**

A reference is kept with its source, and again with its target. Hash sets are walked in no
particular order, so what is done for each of their elements commutes.

* `insertReference_reports_iff` — an insert is reported from both ends unless the forward side was
  there without the inverse side, which is then left out;
* `deleteReference_drops` — a deleted reference is reported from neither end;
* `reports_of_reachable` — all three, in every reachable state.
-/

import AsyncOpcua.Foundation.Transition
import AsyncOpcua.Types.NodeId
import Mathlib.Data.Finset.Image

namespace AsyncOpcua.Nodes

open Types Foundation Option

structure Reference where
  referenceType : NodeId
  targetNode : NodeId
  deriving DecidableEq

inductive ReferenceDirection where
  | forward
  | inverse
  deriving DecidableEq

inductive BrowseDirection where
  | forward
  | inverse
  | both
  | invalid
  deriving DecidableEq

/-- A reference as a browse reports it. -/
structure ReferenceRef where
  referenceType : NodeId
  targetNode : NodeId
  direction : ReferenceDirection
  deriving DecidableEq

structure ImportedReference where
  targetId : NodeId
  typeId : NodeId
  isForward : Bool

abbrev ReferenceMap := NodeId → Option (Finset Reference)

namespace ReferenceMap

def of (map : ReferenceMap) (node : NodeId) : Finset Reference := (map node).getD ∅

def add (map : ReferenceMap) (node : NodeId) (rf : Reference) : ReferenceMap := fun other =>
  if other = node then some (insert rf (map.of node)) else map other

/-- Remove from the references of a node, if it is entered. -/
def drop (map : ReferenceMap) (node : NodeId) (rf : Reference) : ReferenceMap := fun other =>
  if other = node then (map node).map (·.erase rf) else map other

def remove (map : ReferenceMap) (node : NodeId) : ReferenceMap := fun other =>
  if other = node then none else map other

/-- Remove the other side of a reference of `node`. -/
def dropBack (node : NodeId) (rf : Reference) (map : ReferenceMap) : ReferenceMap :=
  map.drop rf.targetNode ⟨rf.referenceType, node⟩

variable {map : ReferenceMap} {node other : NodeId} {rf rf' : Reference}

theorem of_add : (map.add node rf).of other =
    if other = node then insert rf (map.of other) else map.of other := by
  unfold of add
  split_ifs with same
  · rw [same]
    rfl
  · rfl

theorem of_drop : (map.drop node rf).of other =
    if other = node then (map.of other).erase rf else map.of other := by
  unfold of drop
  split_ifs with same
  · rw [same]
    cases map node <;> rfl
  · rfl

theorem of_remove : (map.remove node).of other = if other = node then ∅ else map.of other := by
  unfold of remove
  split_ifs <;> rfl

theorem mem_add : rf ∈ (map.add node rf').of other ↔
    rf ∈ map.of other ∨ other = node ∧ rf = rf' := by
  rw [of_add]
  split_ifs with same
  · rw [Finset.mem_insert]
    tauto
  · tauto

theorem mem_drop :
    rf ∈ (map.drop node rf').of other ↔ rf ∈ map.of other ∧ ¬ (other = node ∧ rf = rf') := by
  rw [of_drop]
  split_ifs with same
  · rw [Finset.mem_erase]
    tauto
  · tauto

theorem mem_remove : rf ∈ (map.remove node).of other ↔ rf ∈ map.of other ∧ other ≠ node := by
  rw [of_remove]
  split_ifs with same <;> simp [same]

instance (node : NodeId) : LeftCommutative (dropBack node) where
  left_comm first second map := by
    funext other
    unfold dropBack drop
    split_ifs with one two
    · subst one
      rw [two, map_map, map_map]
      congr 1
      funext refs
      exact Finset.erase_right_comm
    all_goals simp_all

/-- Remove the other sides of a set of references of `node`. -/
def dropAllBack (map : ReferenceMap) (node : NodeId) (refs : Finset Reference) : ReferenceMap :=
  refs.val.foldr (dropBack node) map

theorem mem_foldr_dropBack {refs : Multiset Reference} :
    rf ∈ (refs.foldr (dropBack node) map).of other ↔
      rf ∈ map.of other ∧ ¬ (rf.targetNode = node ∧ ⟨rf.referenceType, other⟩ ∈ refs) := by
  induction refs using Multiset.induction_on with
  | empty => simp
  | cons first rest ih =>
    have back : rf = ⟨first.referenceType, node⟩ ∧ other = first.targetNode ↔
        rf.targetNode = node ∧ (⟨rf.referenceType, other⟩ : Reference) = first := by
      obtain ⟨referenceType, targetNode⟩ := rf
      obtain ⟨firstType, firstTarget⟩ := first
      grind
    rw [Multiset.foldr_cons, dropBack, mem_drop, ih, Multiset.mem_cons]
    grind

theorem mem_dropAllBack {refs : Finset Reference} :
    rf ∈ (map.dropAllBack node refs).of other ↔
      rf ∈ map.of other ∧ ¬ (rf.targetNode = node ∧ ⟨rf.referenceType, other⟩ ∈ refs) :=
  mem_foldr_dropBack

end ReferenceMap

/-- **The references between nodes.** -/
structure References where
  bySource : ReferenceMap
  byTarget : ReferenceMap

namespace References

def new : References := ⟨fun _ => none, fun _ => none⟩

variable (refs : References)

/-- A node does not refer to itself. -/
def insertReference (sourceNode targetNode referenceType : NodeId) : Option References :=
  if sourceNode = targetNode then none
  else
    let rf : Reference := ⟨referenceType, targetNode⟩
    let forward := { refs with bySource := refs.bySource.add sourceNode rf }
    -- What is already there is not added to the inverse either.
    if rf ∈ refs.bySource.of sourceNode then some forward
    else some { forward with byTarget := refs.byTarget.add targetNode ⟨referenceType, sourceNode⟩ }

def insert (refs : References) (source : NodeId) :
    List (NodeId × NodeId × ReferenceDirection) → Option References
  | [] => some refs
  | (target, typ, direction) :: rest =>
    let inserted :=
      match direction with
      | .forward => refs.insertReference source target typ
      | .inverse => refs.insertReference target source typ
    inserted.bind fun refs => refs.insert source rest

def importReference (sourceNode : NodeId) (rf : ImportedReference) : Option References :=
  if sourceNode = rf.targetId then none
  else if rf.isForward then refs.insertReference sourceNode rf.targetId rf.typeId
  else refs.insertReference rf.targetId sourceNode rf.typeId

/-- Whether there was such a reference, and the references without it. -/
def deleteReference (sourceNode targetNode referenceType : NodeId) : Bool × References :=
  let forward : Reference := ⟨referenceType, targetNode⟩
  let inverse : Reference := ⟨referenceType, sourceNode⟩
  (forward ∈ refs.bySource.of sourceNode || inverse ∈ refs.byTarget.of targetNode,
    { bySource := refs.bySource.drop sourceNode forward
      byTarget := refs.byTarget.drop targetNode inverse })

/-- Delete the entries of a node, and what the other ends hold of them if that is asked for. -/
def deleteNodeReferences (sourceNode : NodeId)
    (deleteTargetReferences : Bool) : Bool × References :=
  let source := refs.bySource sourceNode
  let bySource := refs.bySource.remove sourceNode
  let byTarget :=
    if deleteTargetReferences then refs.byTarget.dropAllBack sourceNode (source.getD ∅)
    else refs.byTarget
  let target := byTarget sourceNode
  let byTarget := byTarget.remove sourceNode
  let bySource :=
    if deleteTargetReferences then bySource.dropAllBack sourceNode (target.getD ∅) else bySource
  (source.isSome || target.isSome, ⟨bySource, byTarget⟩)

/-- Whether a browse that asks for a type, or for its subtypes too, reports references of a type. -/
def passes (isSubtypeOf : NodeId → NodeId → Bool) (filter : Option (NodeId × Bool))
    (referenceType : NodeId) : Bool :=
  match filter with
  | none => true
  | some (typ, includeSubtypes) =>
    !(!includeSubtypes && referenceType != typ ||
      includeSubtypes && !isSubtypeOf referenceType typ)

def findReferences (isSubtypeOf : NodeId → NodeId → Bool)
    (sourceNode : NodeId) (filter : Option (NodeId × Bool)) (direction : BrowseDirection) :
    Finset ReferenceRef :=
  let report (direction : ReferenceDirection) (rf : Reference) : ReferenceRef :=
    ⟨rf.referenceType, rf.targetNode, direction⟩
  let forward :=
    if direction = .both ∨ direction = .forward then refs.bySource.of sourceNode else ∅
  let inverse :=
    if direction = .both ∨ direction = .inverse then refs.byTarget.of sourceNode else ∅
  (forward.image (report .forward) ∪ inverse.image (report .inverse)).filter fun rf =>
    passes isSubtypeOf filter rf.referenceType

end References

/-- A call that changes the references. -/
inductive ReferencesOp where
  | insertReference (sourceNode targetNode referenceType : NodeId)
  | insert (source : NodeId) (references : List (NodeId × NodeId × ReferenceDirection))
  | importReference (sourceNode : NodeId) (rf : ImportedReference)
  | deleteReference (sourceNode targetNode referenceType : NodeId)
  | deleteNodeReferences (sourceNode : NodeId) (deleteTargetReferences : Bool)

open ReferenceMap

namespace References

/-- **The references under a sequence of calls;** a self reference panics. -/
def machine : Machine References ReferencesOp where
  step refs op :=
    match op with
    | .insertReference sourceNode targetNode referenceType =>
      refs.insertReference sourceNode targetNode referenceType
    | .insert source references => refs.insert source references
    | .importReference sourceNode rf => refs.importReference sourceNode rf
    | .deleteReference sourceNode targetNode referenceType =>
      some (refs.deleteReference sourceNode targetNode referenceType).2
    | .deleteNodeReferences sourceNode deleteTargetReferences =>
      some (refs.deleteNodeReferences sourceNode deleteTargetReferences).2

variable {refs after : References} {s d t : NodeId}

/-! ### The two sides of a reference -/

/-- The source lists the reference. -/
def Forward (refs : References) (s d t : NodeId) : Prop := ⟨t, d⟩ ∈ refs.bySource.of s

/-- The target lists the reference. -/
def Inverse (refs : References) (s d t : NodeId) : Prop := ⟨t, s⟩ ∈ refs.byTarget.of d

instance : Decidable (refs.Forward s d t) := inferInstanceAs (Decidable (_ ∈ _))

instance : Decidable (refs.Inverse s d t) := inferInstanceAs (Decidable (_ ∈ _))

/-- **Both sides or none.** -/
def Mirror (refs : References) : Prop := ∀ s d t, refs.Forward s d t ↔ refs.Inverse s d t

/-- **What a browse reports:** the listed references of the sides it asks for that its filter lets
pass. -/
theorem mem_findReferences {isSubtypeOf : NodeId → NodeId → Bool} {filter : Option (NodeId × Bool)}
    {direction : BrowseDirection} {rf : ReferenceRef} :
    rf ∈ refs.findReferences isSubtypeOf s filter direction ↔
      passes isSubtypeOf filter rf.referenceType = true ∧
        ((direction = .both ∨ direction = .forward) ∧ rf.direction = .forward ∧
            refs.Forward s rf.targetNode rf.referenceType ∨
          (direction = .both ∨ direction = .inverse) ∧ rf.direction = .inverse ∧
            refs.Inverse rf.targetNode s rf.referenceType) := by
  obtain ⟨referenceType, targetNode, side⟩ := rf
  unfold findReferences Forward Inverse
  simp only [Finset.mem_filter, Finset.mem_union, Finset.mem_image, ReferenceRef.mk.injEq]
  rw [and_comm]
  refine and_congr_right fun _ => or_congr ?_ ?_
  all_goals
    split_ifs with asked
    · constructor
      · rintro ⟨⟨typ, target⟩, listed, rfl, rfl, rfl⟩
        exact ⟨asked, rfl, listed⟩
      · rintro ⟨-, rfl, listed⟩
        exact ⟨_, listed, rfl, rfl, rfl⟩
    · simp [asked]

theorem insertReference_eq_some (inserted : refs.insertReference s d t = some after) :
    s ≠ d ∧ after.bySource = refs.bySource.add s ⟨t, d⟩ ∧
      (refs.Forward s d t ∧ after.byTarget = refs.byTarget ∨
        ¬ refs.Forward s d t ∧ after.byTarget = refs.byTarget.add d ⟨t, s⟩) := by
  unfold insertReference at inserted
  by_cases same : s = d
  · rw [if_pos same] at inserted
    cases inserted
  rw [if_neg same] at inserted
  by_cases there : refs.Forward s d t
  · simp only [if_pos (show ⟨t, d⟩ ∈ refs.bySource.of s from there), some.injEq] at inserted
    subst inserted
    exact ⟨same, rfl, .inl ⟨there, rfl⟩⟩
  · simp only [if_neg (show ⟨t, d⟩ ∉ refs.bySource.of s from there), some.injEq] at inserted
    subst inserted
    exact ⟨same, rfl, .inr ⟨there, rfl⟩⟩

/-- **An insert is listed on both sides** exactly unless the forward side was there alone. -/
theorem insertReference_both_iff (inserted : refs.insertReference s d t = some after) :
    after.Forward s d t ∧ after.Inverse s d t ↔ (refs.Forward s d t → refs.Inverse s d t) := by
  obtain ⟨-, forward, inverse⟩ := insertReference_eq_some inserted
  have listed : after.Forward s d t := by
    rw [Forward, forward]
    exact mem_add.mpr (.inr ⟨rfl, rfl⟩)
  rcases inverse with ⟨there, kept⟩ | ⟨missing, added⟩
  · rw [Inverse, kept]
    exact ⟨fun both _ => both.2, fun back => ⟨listed, back there⟩⟩
  · refine iff_of_true ⟨listed, ?_⟩ fun there => absurd there missing
    rw [Inverse, added]
    exact mem_add.mpr (.inr ⟨rfl, rfl⟩)

theorem deleteReference_neither (refs : References) (s d t : NodeId) :
    ¬ (refs.deleteReference s d t).2.Forward s d t ∧
      ¬ (refs.deleteReference s d t).2.Inverse s d t :=
  ⟨fun listed => (mem_drop.mp listed).2 ⟨rfl, rfl⟩,
    fun listed => (mem_drop.mp listed).2 ⟨rfl, rfl⟩⟩

/-! ### The indexes as mirrors -/

section

variable (mirror : refs.Mirror)
include mirror

theorem Mirror.insertReference (inserted : refs.insertReference s d t = some after) :
    after.Mirror := by
  obtain ⟨-, forward, inverse⟩ := insertReference_eq_some inserted
  intro s' d' t'
  rw [Forward, forward, mem_add, Inverse]
  have before := mirror s' d' t'
  rw [Forward, Inverse] at before
  rw [Reference.mk.injEq]
  rcases inverse with ⟨there, kept⟩ | ⟨missing, added⟩
  · rw [kept, ← before, or_iff_left_iff_imp]
    rintro ⟨rfl, rfl, rfl⟩
    exact there
  · rw [added, mem_add, ← before, Reference.mk.injEq]
    tauto

theorem Mirror.insert {source : NodeId} {references : List (NodeId × NodeId × ReferenceDirection)}
    (inserted : refs.insert source references = some after) : after.Mirror := by
  induction references generalizing refs with
  | nil =>
    cases inserted
    exact mirror
  | cons first rest ih =>
    obtain ⟨target, typ, direction⟩ := first
    obtain ⟨next, one, others⟩ := bind_eq_some_iff.mp inserted
    cases direction with
    | forward => exact ih (mirror.insertReference one) others
    | inverse => exact ih (mirror.insertReference one) others

theorem Mirror.importReference {rf : ImportedReference}
    (imported : refs.importReference s rf = some after) : after.Mirror := by
  unfold References.importReference at imported
  split_ifs at imported
  · exact mirror.insertReference imported
  · exact mirror.insertReference imported

theorem Mirror.deleteReference (s d t : NodeId) : (refs.deleteReference s d t).2.Mirror := by
  intro s' d' t'
  refine mem_drop.trans (.trans ?_ mem_drop.symm)
  have before := mirror s' d' t'
  rw [Forward, Inverse] at before
  rw [before, Reference.mk.injEq, Reference.mk.injEq]
  tauto

theorem Mirror.deleteNodeReferences (node : NodeId) :
    (refs.deleteNodeReferences node true).2.Mirror := by
  intro s d t
  unfold References.deleteNodeReferences Forward Inverse
  simp only [if_true]
  rw [mem_dropAllBack, mem_remove, mem_remove,
    mem_dropAllBack]
  have here := mirror s d t
  have fromNode := mirror node d t
  have toNode := mirror s node t
  unfold Forward Inverse at here fromNode toNode
  change _ ∧ ¬ (_ ∧ ⟨t, s⟩ ∈ (refs.byTarget.dropAllBack node (refs.bySource.of node)).of node) ↔
    (_ ∧ ¬ (_ ∧ ⟨t, d⟩ ∈ refs.bySource.of node)) ∧ _
  rw [mem_dropAllBack]
  by_cases source : s = node
  · subst source
    grind
  · by_cases target : d = node
    · subst target
      grind
    · grind

theorem Mirror.step {op : ReferencesOp} (both : ∀ node, op ≠ .deleteNodeReferences node false)
    (stepped : machine.step refs op = some after) : after.Mirror := by
  cases op with
  | insertReference => exact mirror.insertReference stepped
  | insert => exact mirror.insert stepped
  | importReference => exact mirror.importReference stepped
  | deleteReference sourceNode targetNode referenceType =>
    cases stepped
    exact mirror.deleteReference sourceNode targetNode referenceType
  | deleteNodeReferences node deleteTargetReferences =>
    cases stepped
    cases deleteTargetReferences with
    | false => exact absurd rfl (both node)
    | true => exact mirror.deleteNodeReferences node

theorem Mirror.run {ops : List ReferencesOp}
    (both : ∀ node, .deleteNodeReferences node false ∉ ops)
    (ran : machine.run refs ops = some after) : after.Mirror := by
  induction ops generalizing refs with
  | nil =>
    cases ran
    exact mirror
  | cons op ops ih =>
    obtain ⟨next, stepped, rest⟩ := machine.run_cons_eq_some.mp ran
    have first := mirror.step (fun node same => both node (same ▸ List.mem_cons_self)) stepped
    exact ih first (fun node later => both node (List.mem_cons_of_mem _ later)) rest

end

theorem new_mirror : new.Mirror := fun _ _ _ => by
  exact iff_of_false (Finset.notMem_empty _) (Finset.notMem_empty _)

/-- **What the references report in every reachable state:** an inserted reference from both ends,
unless it was listed at its source alone; a deleted one from neither; and the indexes are mirrors
if no node's references were deleted from one end only. -/
theorem reports_of_reachable {ops : List ReferencesOp} {refs : References}
    (ran : machine.run .new ops = some refs) (isSubtypeOf : NodeId → NodeId → Bool) :
    (∀ s d t, s ≠ d → ∃ after, refs.insertReference s d t = some after ∧
      ∀ filter, passes isSubtypeOf filter t = true →
        (⟨t, d, .forward⟩ ∈ after.findReferences isSubtypeOf s filter .forward ∧
            ⟨t, s, .inverse⟩ ∈ after.findReferences isSubtypeOf d filter .inverse ↔
          (refs.Forward s d t → refs.Inverse s d t))) ∧
      (∀ s d t filter,
        ⟨t, d, .forward⟩ ∉ (refs.deleteReference s d t).2.findReferences isSubtypeOf s filter
            .forward ∧
          ⟨t, s, .inverse⟩ ∉ (refs.deleteReference s d t).2.findReferences isSubtypeOf d filter
            .inverse) ∧
      ((∀ node, .deleteNodeReferences node false ∉ ops) → refs.Mirror) := by
  refine ⟨fun s d t apart => ?_, fun s d t filter => ?_, fun both => new_mirror.run both ran⟩
  · obtain ⟨after, inserted⟩ : ∃ after, refs.insertReference s d t = some after := by
      unfold References.insertReference
      rw [if_neg apart]
      by_cases there : ⟨t, d⟩ ∈ refs.bySource.of s
      · exact ⟨_, if_pos there⟩
      · exact ⟨_, if_neg there⟩
    refine ⟨after, inserted, fun filter passing => ?_⟩
    rw [← insertReference_both_iff inserted, mem_findReferences, mem_findReferences]
    simp [passing]
  · obtain ⟨forward, inverse⟩ := refs.deleteReference_neither s d t
    rw [mem_findReferences, mem_findReferences]
    simp [forward, inverse]

theorem reports_of_reachable_pair :
    ∃ refs, machine.run .new
        [.insertReference (.standard 1) (.standard 2) .References,
          .importReference (.standard 1) ⟨.standard 3, .References, false⟩,
          .deleteReference (.standard 1) (.standard 2) .References] = some refs ∧
      refs.Mirror ∧ refs.Inverse (.standard 3) (.standard 1) .References :=
  ⟨_, rfl, (reports_of_reachable (show machine.run .new
    [.insertReference (.standard 1) (.standard 2) .References,
      .importReference (.standard 1) ⟨.standard 3, .References, false⟩,
      .deleteReference (.standard 1) (.standard 2) .References] = some _ from rfl)
    fun _ _ => false).2.2 (by simp), by decide⟩

/-- **A side left behind:** the references of the target are deleted from its end only; the
reference is inserted again, and the target does not report it. -/
theorem insertReference_left_behind :
    ∃ ops refs after, machine.run .new ops = some refs ∧
      refs.insertReference (.standard 1) (.standard 2) .References = some after ∧
      ⟨.References, .standard 1, .inverse⟩ ∉
        after.findReferences (fun _ _ => true) (.standard 2) none .inverse := by
  refine ⟨[.insertReference (.standard 1) (.standard 2) .References,
    .deleteNodeReferences (.standard 2) false], _, _, rfl, rfl, by decide⟩

end References

end AsyncOpcua.Nodes
