/-
**The browse-name index of an in-memory node manager.**

A call that translates browse paths builds the index if there is none, and reads it later under
another lock. What changes the nodes and the references does not touch the index; only the services
that add and delete nodes and references drop it, when they succeed.

* `index_answers_iff` — so a run without a panic or a past answer is one whose calls find an index,
  and look up what has stayed the same since it was built.
-/

import AsyncOpcua.Foundation.Grouping
import AsyncOpcua.Nodes.References

namespace AsyncOpcua.View

open Types Nodes Foundation Option

/-! ### The index -/

/-- The order in which a hash set of references is walked. -/
structure ReferenceWalk where
  order : Finset ReferenceRef → List ReferenceRef
  mem_order : ∀ refs rf, rf ∈ order refs ↔ rf ∈ refs

/-- The nodes of an address space, by their browse names, and the references between them. -/
structure NodesAndReferences where
  nodeMap : KeyedMap NodeId QualifiedName
  references : References

abbrev BrowseNameIndex := Groups (NodeId × QualifiedName) NodeId

open List

namespace NodesAndReferences

variable (space : NodesAndReferences)

/-- `AddressSpace::find_references` without a filter, which asks the type tree nothing. -/
def findReferences (source : NodeId) (direction : BrowseDirection) : Finset ReferenceRef :=
  space.references.findReferences (fun _ _ => false) source none direction

/-- The entry of one reference, unless its target is null or not a node here. -/
def indexEntry (source : NodeId) (rf : ReferenceRef) : Option ((NodeId × QualifiedName) × NodeId) :=
  if rf.targetNode.isNull then none
  else (space.nodeMap.lookup rf.targetNode).map fun name => ((source, name), rf.targetNode)

def buildBrowseNameIndex (walk : ReferenceWalk) : BrowseNameIndex :=
  group (space.nodeMap.keys.flatMap fun source =>
    (walk.order (space.findReferences source .forward)).filterMap (space.indexEntry source))

def targets (parent : NodeId) (name : QualifiedName) : Finset NodeId :=
  ((space.findReferences parent .forward).image ReferenceRef.targetNode).filter fun target =>
    space.nodeMap.lookup target = some name

variable {space}

/-- **What the index holds:** for a node of the address space, the targets that are not null. -/
theorem mem_buildBrowseNameIndex {walk : ReferenceWalk} {parent target : NodeId}
    {name : QualifiedName} :
    target ∈ (space.buildBrowseNameIndex walk).get (parent, name) ↔
      parent ∈ space.nodeMap ∧ target.isNull = false ∧ target ∈ space.targets parent name := by
  unfold buildBrowseNameIndex targets
  rw [mem_group, mem_flatMap, Finset.mem_filter, Finset.mem_image]
  constructor
  · rintro ⟨source, known, listed⟩
    obtain ⟨rf, reported, entry⟩ := mem_filterMap.mp listed
    unfold indexEntry at entry
    split_ifs at entry with null
    obtain ⟨found, there, same⟩ := map_eq_some_iff.mp entry
    obtain ⟨⟨rfl, rfl⟩, rfl⟩ := same
    exact ⟨AList.mem_keys.mpr known, Bool.eq_false_of_not_eq_true null,
      ⟨rf, (walk.mem_order _ rf).mp reported, rfl⟩, there⟩
  · rintro ⟨known, notNull, ⟨rf, reported, rfl⟩, there⟩
    refine ⟨parent, AList.mem_keys.mp known, mem_filterMap.mpr
      ⟨rf, (walk.mem_order _ rf).mpr reported, ?_⟩⟩
    rw [indexEntry, notNull, there]
    rfl

end NodesAndReferences

/-! ### What changes an address space -/

/-- What a mutation does under one lock. -/
inductive Micro where
  | checkVacant (node : NodeId)
  | insertNode (node : NodeId) (name : QualifiedName)
  | removeNode (node : NodeId)
  | setBrowseName (node : NodeId) (name : QualifiedName)
  | changeReferences (ops : List ReferencesOp)
  | invalidateIndex

/-- **A call of a method of `AddressSpace` that changes it.** -/
inductive Mutation where
  | insert (node : NodeId) (name : QualifiedName)
      (references : List (NodeId × NodeId × ReferenceDirection))
  | importNode (node : NodeId) (name : QualifiedName) (references : List ImportedReference)
  | insertReference (sourceNode targetNode referenceType : NodeId)
  | insertReferences (references : List (NodeId × NodeId × NodeId))
  | deleteReference (sourceNode targetNode referenceType : NodeId)
  | deleteNodeReferences (node : NodeId) (deleteTargetReferences : Bool)
  | delete (node : NodeId) (deleteTargetReferences : Bool)
  | renameThroughFindMut (node : NodeId) (name : QualifiedName)

/-- The locks that a mutation takes, one after the other. -/
def Mutation.micros : Mutation → List Micro
  -- The references are written while the entry of the node is held, the node after them.
  | .insert node name references =>
    [.checkVacant node, .changeReferences [.insert node references], .insertNode node name]
  | .importNode node name references =>
    [.insertNode node name, .changeReferences (references.map (.importReference node))]
  | .insertReference sourceNode targetNode referenceType =>
    [.changeReferences [.insertReference sourceNode targetNode referenceType]]
  | .insertReferences references =>
    [.changeReferences
      (references.map fun (source, target, typ) => .insertReference source target typ)]
  | .deleteReference sourceNode targetNode referenceType =>
    [.changeReferences [.deleteReference sourceNode targetNode referenceType]]
  | .deleteNodeReferences node deleteTargetReferences =>
    [.changeReferences [.deleteNodeReferences node deleteTargetReferences]]
  | .delete node deleteTargetReferences =>
    [.removeNode node, .changeReferences [.deleteNodeReferences node deleteTargetReferences]]
  | .renameThroughFindMut node name => [.setBrowseName node name]

/-- **What may run beside the calls:** one mutation, or a service for which an implementation makes
some and reports whether it succeeded. -/
inductive Entry where
  | method (mutation : Mutation)
  | service (mutations : List Mutation) (succeeds : Bool)

/-- `NodeMutator`: the index is dropped if the implementation succeeded. -/
def Entry.program : Entry → List (List Micro)
  | .method mutation => [mutation.micros]
  | .service mutations succeeds =>
    mutations.map Mutation.micros ++ if succeeds then [[.invalidateIndex]] else []

/-- How one lock ends: with a change, with a node that exists already, or with a panic. -/
inductive Outcome where
  | done (space : NodesAndReferences)
  | occupied
  | panicked (space : NodesAndReferences)

/-- References are changed one by one, up to one that panics. -/
def changeReferences (space : NodesAndReferences) : List ReferencesOp → Outcome
  | [] => .done space
  | op :: rest =>
    match References.machine.step space.references op with
    | some references => changeReferences { space with references := references } rest
    | none => .panicked space

namespace NodesAndReferences

def perform (space : NodesAndReferences) : Micro → Outcome
  | .checkVacant node => if node ∈ space.nodeMap then .occupied else .done space
  | .insertNode node name =>
    if node ∈ space.nodeMap then .occupied
    else .done { space with nodeMap := space.nodeMap.insert node name }
  | .removeNode node => .done { space with nodeMap := space.nodeMap.erase node }
  | .setBrowseName node name =>
    .done { space with nodeMap := KeyedMap.modify space.nodeMap node fun _ => name }
  | .changeReferences ops => changeReferences space ops
  | .invalidateIndex => .done space

end NodesAndReferences

/-! ### Calls and mutations together -/

/-- Where a call of `translate_browse_paths_to_node_ids` is: it has found no index, it is about to
take its lock, it holds it, or it is done. -/
inductive Phase where
  | building
  | ready
  | reading
  | done
  deriving DecidableEq

/-- One lookup of a call: what the index gave, and what a browse would have found then. -/
structure Answer where
  given : List NodeId
  targets : Finset NodeId

structure TranslateCall where
  phase : Phase
  index : Option BrowseNameIndex
  builtFrom : NodesAndReferences
  overlapped : Bool
  answers : List Answer

/-- **A node manager with its calls and mutations.** `builtFrom` is a ghost: what the index was
built from last. -/
structure Manager where
  space : NodesAndReferences
  browseNameIndex : Option BrowseNameIndex
  builtFrom : NodesAndReferences
  programs : List (List (List Micro))
  calls : List TranslateCall
  panicked : Bool

/-- The next lock of one of the calls or mutations. -/
inductive IndexOp where
  | start (entry : Entry)
  | advance (program : ℕ)
  | check
  | ensure (call : ℕ)
  | enter (call : ℕ)
  | fetch (call : ℕ)
  | lookup (call : ℕ) (parent : NodeId) (name : QualifiedName)
  | leave (call : ℕ)

namespace Manager

variable (m : Manager)

/-- A manager before any call. -/
def fresh (space : NodesAndReferences) : Manager := ⟨space, none, space, [], [], false⟩

/-- Some mutation is under way. -/
def mutating : Bool := m.programs.any fun program => !program.isEmpty

/-- Some call holds the lock of the address space. -/
def beingRead : Bool := m.calls.any fun call => call.phase = .reading

variable (place : ℕ)

def setProgram (program : List (List Micro)) : Manager :=
  { m with programs := m.programs.set place program }

def setCall (call : TranslateCall) : Manager :=
  { m with calls := m.calls.set place call }

/-- A mutation begins; it overlaps the calls under way. -/
def start (entry : Entry) : Manager :=
  { m with
    programs := m.programs ++ [entry.program]
    calls := m.calls.map fun call => { call with overlapped := true } }

/-- The next lock of a mutation. The index is dropped under the lock of the whole address space,
which waits for the calls that read. -/
def advance : Manager :=
  match m.programs[place]? with
  | none => m
  | some [] => m
  | some ([] :: rest) => m.setProgram place rest
  | some ((.invalidateIndex :: micros) :: rest) =>
    if m.beingRead then m
    else { m.setProgram place (micros :: rest) with browseNameIndex := none }
  | some ((micro :: micros) :: rest) =>
    match m.space.perform micro with
    | .done space => { m.setProgram place (micros :: rest) with space := space }
    | .occupied => m.setProgram place rest
    | .panicked space => { m.setProgram place [] with space := space }

/-- A call begins: it looks whether there is an index. -/
def check : Manager :=
  { m with
    calls := m.calls ++ [
      { phase := if m.browseNameIndex.isSome then .ready else .building, index := none
        builtFrom := m.builtFrom, overlapped := m.mutating, answers := [] }] }

/-- `ensure_browse_name_index`, under the lock of the whole address space. -/
def ensure (walk : ReferenceWalk) (place : ℕ) : Manager :=
  match m.calls[place]? with
  | none => m
  | some call =>
    if call.phase = .building ∧ m.beingRead = false then
      let m := m.setCall place { call with phase := .ready }
      if m.browseNameIndex.isSome then m
      else
        { m with
          browseNameIndex := some (m.space.buildBrowseNameIndex walk), builtFrom := m.space }
    else m

/-- A call takes the lock under which it reads. -/
def enter : Manager :=
  match m.calls[place]? with
  | none => m
  | some call =>
    if call.phase = .ready then m.setCall place { call with phase := .reading } else m

def fetch : Manager :=
  match m.calls[place]? with
  | none => m
  | some call =>
    if call.phase = .reading then
      match m.browseNameIndex with
      | some index => m.setCall place { call with index := some index, builtFrom := m.builtFrom }
      | none => { m with panicked := true }
    else m

def lookup (parent : NodeId) (name : QualifiedName) : Manager :=
  match m.calls[place]? with
  | none => m
  | some call =>
    match call.index with
    | none => m
    | some index =>
      m.setCall place { call with
        answers := call.answers ++ [⟨index.get (parent, name), m.space.targets parent name⟩] }

def leave : Manager :=
  match m.calls[place]? with
  | none => m
  | some call => m.setCall place { call with phase := .done, index := none }

end Manager

variable (walk : ReferenceWalk)

/-- **Any interleaving of the locks.** What cannot go on changes nothing. -/
def indexMachine : Machine Manager IndexOp where
  step m op :=
    match op with
    | .start entry => some (m.start entry)
    | .advance program => some (m.advance program)
    | .check => some m.check
    | .ensure call => some (m.ensure walk call)
    | .enter call => some (m.enter call)
    | .fetch call => some (m.fetch call)
    | .lookup call parent name => some (m.lookup call parent name)
    | .leave call => some (m.leave call)

/-! ### Past answers -/

/-- The index gave what a browse finds. -/
def Answer.Right (answer : Answer) : Prop :=
  ∀ target, target ∈ answer.given ↔ target ∈ answer.targets

/-- **No panic, and no past answer:** what a call looked up while no mutation overlapped it is what
a browse finds. -/
structure Manager.UpToDate (m : Manager) : Prop where
  unpanicked : m.panicked = false
  right : ∀ call ∈ m.calls, call.overlapped = false → ∀ answer ∈ call.answers, answer.Right

/-- **What the index was built from gives what is there now:** the targets of a node have stayed the
same, none of them is null, and a node that was not there has none. -/
def SameTargets (then_ now : NodesAndReferences) (parent : NodeId) (name : QualifiedName) : Prop :=
  ∀ target, target ∈ now.targets parent name ↔
    parent ∈ then_.nodeMap ∧ target.isNull = false ∧ target ∈ then_.targets parent name

/-- The condition on a step: a call that copies the index finds one, and looks up, unless a mutation
overlaps it, what has stayed the same since its copy was built. -/
def IndexGuard (m : Manager) : IndexOp → Prop
  | .fetch place => ∀ call, m.calls[place]? = some call → call.phase = .reading →
      m.browseNameIndex.isSome = true
  | .lookup place parent name => ∀ call, m.calls[place]? = some call → call.index.isSome = true →
      call.overlapped = false → SameTargets call.builtFrom m.space parent name
  | _ => True

/-! ### What the index was built from -/

/-- **The index, and each copy of it, is that of the address space it was built from.** -/
structure Tracks (walk : ReferenceWalk) (m : Manager) : Prop where
  index : ∀ index ∈ m.browseNameIndex, index = m.builtFrom.buildBrowseNameIndex walk
  copies : ∀ call ∈ m.calls, ∀ index ∈ call.index,
    index = call.builtFrom.buildBrowseNameIndex walk

section Steps

variable {walk : ReferenceWalk} {m : Manager} {call : TranslateCall} {place : ℕ}

theorem Tracks.setCall (tracks : Tracks walk m)
    (copy : ∀ index ∈ call.index, index = call.builtFrom.buildBrowseNameIndex walk) :
    Tracks walk (m.setCall place call) := by
  refine ⟨tracks.index, fun other there => ?_⟩
  rcases mem_or_eq_of_mem_set there with before | rfl
  · exact tracks.copies other before
  · exact copy

theorem advance_frame (m : Manager) (place : ℕ) :
    (m.advance place).calls = m.calls ∧ (m.advance place).panicked = m.panicked ∧
      (m.advance place).builtFrom = m.builtFrom ∧
      ((m.advance place).browseNameIndex = m.browseNameIndex ∨
        (m.advance place).browseNameIndex = none) := by
  unfold Manager.advance
  split
  · exact ⟨rfl, rfl, rfl, .inl rfl⟩
  · exact ⟨rfl, rfl, rfl, .inl rfl⟩
  · exact ⟨rfl, rfl, rfl, .inl rfl⟩
  · split_ifs
    · exact ⟨rfl, rfl, rfl, .inl rfl⟩
    · exact ⟨rfl, rfl, rfl, .inr rfl⟩
  · split
    · exact ⟨rfl, rfl, rfl, .inl rfl⟩
    · exact ⟨rfl, rfl, rfl, .inl rfl⟩
    · exact ⟨rfl, rfl, rfl, .inl rfl⟩

theorem Tracks.step (tracks : Tracks walk m) {op : IndexOp} {after : Manager}
    (stepped : (indexMachine walk).step m op = some after) : Tracks walk after := by
  have known : ∀ {place : ℕ} {call : TranslateCall},
      m.calls[place]? = some call → ∀ index ∈ call.index,
      index = call.builtFrom.buildBrowseNameIndex walk := fun found =>
    tracks.copies _ (mem_of_getElem? found)
  cases op with
  | start entry =>
    cases stepped
    refine ⟨tracks.index, fun call there => ?_⟩
    obtain ⟨before, listed, rfl⟩ := mem_map.mp there
    exact tracks.copies before listed
  | advance program =>
    cases stepped
    obtain ⟨calls, -, source, same | dropped⟩ := advance_frame m program
    · refine ⟨?_, ?_⟩
      · rw [same, source]
        exact tracks.index
      · rw [calls]
        exact tracks.copies
    · refine ⟨fun index there => ?_, ?_⟩
      · rw [dropped] at there
        cases there
      · rw [calls]
        exact tracks.copies
  | check =>
    cases stepped
    refine ⟨tracks.index, fun call there => ?_⟩
    rcases mem_append.mp there with before | new
    · exact tracks.copies call before
    · rw [mem_singleton.mp new]
      exact fun _ absurdly => nomatch absurdly
  | ensure place =>
    cases stepped
    unfold Manager.ensure
    cases found : m.calls[place]? with
    | none => exact tracks
    | some call =>
      dsimp only
      have copy := known found
      have moved : Tracks walk (m.setCall place { call with phase := .ready }) :=
        tracks.setCall copy
      split_ifs
      · exact moved
      · refine ⟨fun index built => ?_, moved.copies⟩
        exact (some.inj built).symm
      · exact tracks
  | enter place =>
    cases stepped
    unfold Manager.enter
    cases found : m.calls[place]? with
    | none => exact tracks
    | some call =>
      dsimp only
      have copy := known found
      split_ifs
      · exact tracks.setCall copy
      · exact tracks
  | fetch place =>
    cases stepped
    unfold Manager.fetch
    cases found : m.calls[place]? with
    | none => exact tracks
    | some call =>
      dsimp only
      split_ifs
      · cases there : m.browseNameIndex with
        | none => exact ⟨fun index absurdly => (nomatch absurdly), tracks.copies⟩
        | some index =>
          refine tracks.setCall fun copy same => ?_
          cases same
          exact tracks.index index there
      · exact tracks
  | lookup place parent name =>
    cases stepped
    unfold Manager.lookup
    cases found : m.calls[place]? with
    | none => exact tracks
    | some call =>
      dsimp only
      cases there : call.index with
      | none => exact tracks
      | some index =>
        have copy := known found
        rw [there] at copy
        exact tracks.setCall copy
  | leave place =>
    cases stepped
    unfold Manager.leave
    cases found : m.calls[place]? with
    | none => exact tracks
    | some call => exact tracks.setCall fun _ absurdly => nomatch absurdly

theorem Manager.UpToDate.setCall (upToDate : m.UpToDate) {before : TranslateCall}
    (found : m.calls[place]? = some before) (overlapped : call.overlapped = before.overlapped)
    (answers : call.answers = before.answers) : (m.setCall place call).UpToDate := by
  refine ⟨upToDate.unpanicked, fun other there => ?_⟩
  rcases mem_or_eq_of_mem_set there with listed | rfl
  · exact upToDate.right other listed
  · rw [overlapped, answers]
    exact upToDate.right before (mem_of_getElem? found)

/-- **A lookup gives what a browse finds** exactly where what it looks up has stayed the same. -/
theorem right_iff {builtFrom now : NodesAndReferences} {parent : NodeId} {name : QualifiedName} :
    Answer.Right ⟨(builtFrom.buildBrowseNameIndex walk).get (parent, name),
        now.targets parent name⟩ ↔ SameTargets builtFrom now parent name := by
  refine forall_congr' fun target => ?_
  rw [NodesAndReferences.mem_buildBrowseNameIndex]
  exact iff_comm

/-- **A step keeps the answers up to date** exactly if it meets the condition. -/
theorem upToDate_step_iff (tracks : Tracks walk m) (upToDate : m.UpToDate) {op : IndexOp}
    {after : Manager} (stepped : (indexMachine walk).step m op = some after) :
    after.UpToDate ↔ IndexGuard m op := by
  cases op with
  | start entry =>
    cases stepped
    refine iff_of_true ⟨upToDate.unpanicked, fun call there notOverlapped => ?_⟩ trivial
    obtain ⟨before, -, rfl⟩ := mem_map.mp there
    exact Bool.noConfusion notOverlapped
  | advance program =>
    cases stepped
    obtain ⟨calls, panicked, -⟩ := advance_frame m program
    refine iff_of_true ⟨panicked.trans upToDate.unpanicked, ?_⟩ trivial
    rw [calls]
    exact upToDate.right
  | check =>
    cases stepped
    refine iff_of_true ⟨upToDate.unpanicked, fun call there => ?_⟩ trivial
    rcases mem_append.mp there with before | new
    · exact upToDate.right call before
    · rw [mem_singleton.mp new]
      exact fun _ answer absurdly => absurd absurdly not_mem_nil
  | ensure place =>
    cases stepped
    refine iff_of_true ?_ trivial
    unfold Manager.ensure
    cases found : m.calls[place]? with
    | none => exact upToDate
    | some call =>
      dsimp only
      have moved : (m.setCall place { call with phase := .ready }).UpToDate :=
        upToDate.setCall found rfl rfl
      split_ifs
      · exact moved
      · exact ⟨moved.unpanicked, moved.right⟩
      · exact upToDate
  | enter place =>
    cases stepped
    refine iff_of_true ?_ trivial
    unfold Manager.enter
    cases found : m.calls[place]? with
    | none => exact upToDate
    | some call =>
      dsimp only
      split_ifs
      · exact upToDate.setCall found rfl rfl
      · exact upToDate
  | fetch place =>
    cases stepped
    unfold Manager.fetch IndexGuard
    cases found : m.calls[place]? with
    | none =>
      refine iff_of_true upToDate fun call absurdly => ?_
      rw [found] at absurdly
      cases absurdly
    | some call =>
      dsimp only
      by_cases reading : call.phase = .reading
      · rw [if_pos reading]
        cases there : m.browseNameIndex with
        | none =>
          refine iff_of_false (fun after => Bool.noConfusion after.unpanicked) fun guard => ?_
          exact Bool.noConfusion (guard call found reading)
        | some index => exact iff_of_true (upToDate.setCall found rfl rfl) fun _ _ _ => rfl
      · rw [if_neg reading]
        refine iff_of_true upToDate fun other same absurdly => ?_
        rw [found] at same
        cases same
        exact absurd absurdly reading
  | lookup place parent name =>
    cases stepped
    unfold Manager.lookup IndexGuard
    cases found : m.calls[place]? with
    | none =>
      refine iff_of_true upToDate fun call absurdly => ?_
      rw [found] at absurdly
      cases absurdly
    | some call =>
      dsimp only
      cases there : call.index with
      | none =>
        refine iff_of_true upToDate fun other same absurdly => ?_
        rw [found] at same
        cases same
        rw [there] at absurdly
        exact Bool.noConfusion absurdly
      | some index =>
        have copied := tracks.copies call (mem_of_getElem? found) index there
        subst copied
        constructor
        · intro after other same _ notOverlapped
          rw [found] at same
          cases same
          have inside : place < m.calls.length := (List.getElem?_eq_some_iff.mp found).1
          have answered := after.right _ (mem_set inside _) notOverlapped _
            (mem_append_right _ (mem_singleton.mpr rfl))
          exact right_iff.mp answered
        · intro guard
          refine ⟨upToDate.unpanicked, fun other listed notOverlapped answer answered => ?_⟩
          rcases mem_or_eq_of_mem_set listed with before | rfl
          · exact upToDate.right other before notOverlapped answer answered
          · rcases mem_append.mp answered with earlier | new
            · exact upToDate.right call (mem_of_getElem? found) notOverlapped answer earlier
            · rw [mem_singleton.mp new]
              exact right_iff.mpr (guard call found (by rw [there]; rfl) notOverlapped)
  | leave place =>
    cases stepped
    refine iff_of_true ?_ trivial
    unfold Manager.leave
    cases found : m.calls[place]? with
    | none => exact upToDate
    | some call => exact upToDate.setCall found rfl rfl

end Steps

/-- **When the index answers for the present.** Along an interleaving of calls and mutations nothing
panics, and no call that no mutation overlaps gets another answer than a browse would give, exactly
if every call that copies the index finds one, and what such calls look up has stayed the same since
the index was built. -/
theorem index_answers_iff (walk : ReferenceWalk) (space : NodesAndReferences) (ops : List IndexOp) :
    (indexMachine walk).Always Manager.UpToDate (.fresh space) ops ↔
      (indexMachine walk).Guarded IndexGuard (.fresh space) ops := by
  have total : ∀ m op, ∃ after, (indexMachine walk).step m op = some after := by
    intro m op
    cases op <;> exact ⟨_, rfl⟩
  have tracks : Tracks walk (.fresh space) :=
    ⟨fun _ absurdly => (nomatch absurdly), fun _ absurdly => absurd absurdly not_mem_nil⟩
  have begins : (Manager.fresh space).UpToDate :=
    ⟨rfl, fun _ absurdly => absurd absurdly not_mem_nil⟩
  exact (indexMachine walk).always_iff_guarded (Tracks walk) total
    (fun m op after tracks stepped => tracks.step stepped)
    (fun m op after tracks upToDate stepped => upToDate_step_iff tracks upToDate stepped)
    tracks begins

/-! ### Past answers and panics -/

def parentNode : NodeId := .standard 1001
def childNode : NodeId := .standard 1002
def childName : QualifiedName := ⟨0, some "Child"⟩

/-- An address space with one node. -/
def oneNode : NodesAndReferences :=
  ⟨(∅ : KeyedMap NodeId QualifiedName).insert parentNode ⟨0, some "Parent"⟩, .new⟩

def buildOps : List IndexOp := [.check, .ensure 0, .enter 0, .fetch 0, .leave 0]

def insertOps : List IndexOp :=
  [.start (.method (.insert childNode childName [(parentNode, .standard 35, .inverse)])),
    .advance 0, .advance 0, .advance 0, .advance 0]

/-- Another call looks for the child. -/
def lookupOps : List IndexOp := [.check, .enter 1, .fetch 1, .lookup 1 parentNode childName]

/-- The address space with the child. -/
def twoNodes : NodesAndReferences :=
  ⟨oneNode.nodeMap.insert childNode childName,
    ⟨oneNode.references.bySource.add parentNode ⟨.standard 35, childNode⟩,
      oneNode.references.byTarget.add childNode ⟨.standard 35, parentNode⟩⟩⟩

/-- The manager once the index is built, and an address space that may have changed since. -/
def Manager.indexed (space : NodesAndReferences)
    (programs : List (List (List Micro))) (overlapped : Bool) : Manager where
  space := space
  browseNameIndex := some (oneNode.buildBrowseNameIndex walk)
  builtFrom := oneNode
  programs := programs
  calls := [⟨.done, none, oneNode, overlapped, []⟩]
  panicked := false

theorem run_buildOps :
    (indexMachine walk).run (.fresh oneNode) buildOps = some (.indexed walk oneNode [] false) := rfl

theorem run_insertOps :
    (indexMachine walk).run (.indexed walk oneNode [] false) insertOps =
      some (.indexed walk twoNodes [[]] true) := rfl

theorem run_lookupOps : ∃ after call,
    (indexMachine walk).run (.indexed walk twoNodes [[]] true) lookupOps = some after ∧
      after.calls[1]? = some call ∧ call.overlapped = false ∧
      call.answers = [⟨(oneNode.buildBrowseNameIndex walk).get (parentNode, childName),
        twoNodes.targets parentNode childName⟩] :=
  ⟨_, _, rfl, rfl, rfl, rfl⟩

/-- A service succeeds between a call's look at the index and its copy. -/
def invalidateBeforeFetch : List IndexOp :=
  [.check, .ensure 0, .start (.service [] true), .advance 0, .enter 0, .fetch 0]

/-- **The index answers from the past,** and a call that finds none panics. -/
theorem index_answers_past :
    (¬ ∀ walk, (indexMachine walk).Always Manager.UpToDate (.fresh oneNode)
      (buildOps ++ insertOps ++ lookupOps)) ∧
      ¬ ∀ walk, (indexMachine walk).Always Manager.UpToDate (.fresh oneNode)
        invalidateBeforeFetch := by
  have walk : ReferenceWalk := ⟨Finset.toList, fun _ _ => Finset.mem_toList⟩
  constructor
  · intro always
    obtain ⟨after, call, ran, called, quiet, answered⟩ := run_lookupOps walk
    have whole : (indexMachine walk).run (.fresh oneNode) (buildOps ++ insertOps ++ lookupOps) =
        some after := by
      rw [Machine.run_append, Machine.run_append, run_buildOps, bind_some, run_insertOps]
      exact ran
    have upToDate := (indexMachine walk).always_of_run (always walk) whole
    have right := upToDate.right call (mem_of_getElem? called) quiet
    rw [answered] at right
    have same := right_iff.mp (right _ (mem_singleton.mpr rfl)) childNode
    exact absurd (same.mp (by decide)).2.2 (by decide)
  · intro always
    obtain ⟨after, ran, panicked⟩ : ∃ after,
        (indexMachine walk).run (.fresh oneNode) invalidateBeforeFetch = some after ∧
        after.panicked = true := ⟨_, rfl, rfl⟩
    have upToDate := (indexMachine walk).always_of_run (always walk) ran
    rw [upToDate.unpanicked] at panicked
    exact Bool.noConfusion panicked

end AsyncOpcua.View
