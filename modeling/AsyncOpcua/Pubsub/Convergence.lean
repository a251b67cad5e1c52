/-
**When reflection converges to the configuration.**

Each call reflects the snapshot that it took, whatever other calls did since. So the nodes are those
of the connections, once all calls have returned, where no section undoes what no later one repeats:

* `reflection_converges` — where all sections are orderly, the nodes that are there in the end are
  those of the connections, which were also passed on last.
-/

import AsyncOpcua.Pubsub.Reflection

namespace AsyncOpcua.Pubsub

open Or
open Types hiding Variant DataValue

section

variable {α : Type} {xs : List α} {index : ℕ} {x y : α} (there : xs[index]? = some x)
include there

theorem mem_iff_eq_or_mem_eraseIdx : y ∈ xs ↔ y = x ∨ y ∈ xs.eraseIdx index := by
  obtain ⟨bound, rfl⟩ := List.getElem?_eq_some_iff.mp there
  rw [← (List.getElem_cons_eraseIdx_perm bound).mem_iff, List.mem_cons]

theorem mem_set_iff {z : α} : y ∈ xs.set index z ↔ y = z ∨ y ∈ xs.eraseIdx index := by
  obtain ⟨bound, -⟩ := List.getElem?_eq_some_iff.mp there
  have placed : (xs.set index z)[index]? = some z := by
    rw [List.getElem?_set_self bound]
  rw [mem_iff_eq_or_mem_eraseIdx placed, List.eraseIdx_set_eq]

end

theorem mem_reflectNodes {ns : UInt16} {configs : List PubSubConnectionConfig} {nodes : List NodeId}
    {node : NodeId} :
    node ∈ reflectNodes ns configs nodes ↔ node ∈ nodes ∨ node ∈ nodesOf ns configs :=
  PubSubConfiguration.mem_foldl_ensureObject

namespace ReflectionWorld

variable {w v : ReflectionWorld}

def connections (w : ReflectionWorld) : List PubSubConnectionConfig :=
  w.configuration.connections

def nodesFor (w : ReflectionWorld) (configs : List PubSubConnectionConfig) : List NodeId :=
  nodesOf w.configuration.namespaceIndex configs

def others (w : ReflectionWorld) (index : ℕ) : List PendingCall :=
  w.pending.eraseIdx index

/-- **The address space and the callback have what the manager has.** -/
structure Converged (w : ReflectionWorld) : Prop where
  nodes : ∀ node, node ∈ w.nodes ↔ node ∈ w.nodesFor w.connections
  updated : w.lastUpdate = w.connections

/-- A snapshot is passed on that is not older than one that was passed on before. -/
def NotifiesInOrder (w : ReflectionWorld) (index : ℕ) (call : PendingCall) : Prop :=
  call.snapshot = w.connections ∨
    ∃ other ∈ w.others index, other.notified = false ∧ other.snapshot = w.connections

/-- Nodes that a call adds are those of the connections, or another call is still to delete them;
nodes that it deletes are not, or another call is still to add them. -/
structure ReflectsInOrder (w : ReflectionWorld) (index : ℕ) (call : PendingCall) : Prop where
  adds : ∀ node ∈ w.nodesFor call.snapshot, node ∈ w.nodesFor w.connections ∨
    ∃ other ∈ w.others index, node ∈ other.deleted ∧ node ∉ w.nodesFor other.snapshot
  deletes : ∀ node ∈ call.deleted, node ∈ w.nodesFor w.connections →
    node ∈ w.nodesFor call.snapshot ∨ ∃ other ∈ w.others index, node ∈ w.nodesFor other.snapshot

/-- **A section that undoes nothing.** -/
def Orderly (w : ReflectionWorld) : ReflectionOp → Prop
  | .lock called => w.configuration.readersRemoved called = []
  | .notify index => ∀ call, w.pending[index]? = some call → w.NotifiesInOrder index call
  | .reflect index => ∀ call, w.pending[index]? = some call → w.ReflectsInOrder index call

/-- **What differs is left to a call in progress.** -/
structure Settling (w : ReflectionWorld) : Prop where
  covered : ∀ node ∈ w.nodesFor w.connections,
    node ∈ w.nodes ∨ ∃ call ∈ w.pending, node ∈ w.nodesFor call.snapshot
  justified : ∀ node ∈ w.nodes, node ∈ w.nodesFor w.connections ∨
    ∃ call ∈ w.pending, node ∈ call.deleted ∧ node ∉ w.nodesFor call.snapshot
  updated : w.lastUpdate = w.connections ∨
    ∃ call ∈ w.pending, call.notified = false ∧ call.snapshot = w.connections

theorem settling_new (namespaceIndex : UInt16) (connections : List PubSubConnectionConfig) :
    (new namespaceIndex connections).Settling where
  covered _ there := inl there
  justified _ there := inl there
  updated := inl rfl

theorem Settling.converged (settling : w.Settling) (returned : w.pending = []) : w.Converged where
  nodes node := by
    constructor
    · intro there
      rcases settling.justified node there with stays | ⟨call, waiting, -⟩
      · exact stays
      · exact absurd (returned ▸ waiting) List.not_mem_nil
    · intro there
      rcases settling.covered node there with already | ⟨call, waiting, -⟩
      · exact already
      · exact absurd (returned ▸ waiting) List.not_mem_nil
  updated := by
    rcases settling.updated with same | ⟨call, waiting, -⟩
    · exact same
    · exact absurd (returned ▸ waiting) List.not_mem_nil

/-! ### What a section does -/

theorem lock_eq_some {called : ConfigCall} (stepped : w.applyReflectionOp (.lock called) = some v) :
    v = w ∨ ∃ t, Gives (w.configuration.call called) t ∧
      v = { w with
        configuration := t
        pending := w.pending ++ [⟨t.connections, w.configuration.deletedBy called, false⟩] } := by
  rw [applyReflectionOp] at stepped
  split at stepped
  · exact inl (Option.some.inj stepped).symm
  · rename_i t outputs answered
    exact inr ⟨t, ⟨outputs, answered⟩, (Option.some.inj stepped).symm⟩

variable {index : ℕ}

theorem notify_eq_some (stepped : w.applyReflectionOp (.notify index) = some v) :
    ∃ snapshot deleted, w.pending[index]? = some ⟨snapshot, deleted, false⟩ ∧
      v = { w with
        lastUpdate := snapshot
        pending := w.pending.set index ⟨snapshot, deleted, true⟩ } := by
  rw [applyReflectionOp] at stepped
  split at stepped
  · rename_i snapshot deleted there
    exact ⟨snapshot, deleted, there, (Option.some.inj stepped).symm⟩
  · cases stepped

theorem reflect_eq_some (stepped : w.applyReflectionOp (.reflect index) = some v) :
    ∃ snapshot deleted, w.pending[index]? = some ⟨snapshot, deleted, true⟩ ∧
      v = { w with
        nodes := reflectNodes w.configuration.namespaceIndex snapshot
          (w.nodes.filter fun node => node ∉ deleted)
        pending := w.pending.eraseIdx index } := by
  rw [applyReflectionOp] at stepped
  split at stepped
  · rename_i snapshot deleted there
    exact ⟨snapshot, deleted, there, (Option.some.inj stepped).symm⟩
  · cases stepped

/-! ### What a section keeps -/

theorem Settling.lock (settling : w.Settling) {called : ConfigCall}
    (orderly : w.configuration.readersRemoved called = [])
    (stepped : w.applyReflectionOp (.lock called) = some v) : v.Settling := by
  obtain rfl | ⟨t, gives, rfl⟩ := lock_eq_some stepped
  · exact settling
  have stores := PubSubConfiguration.stores_call gives
  rw [orderly] at stores
  have same : t.namespaceIndex = w.configuration.namespaceIndex := by
    rw [stores.stored]
    rfl
  have last : (⟨t.connections, w.configuration.deletedBy called, false⟩ : PendingCall) ∈
      w.pending ++ [⟨t.connections, w.configuration.deletedBy called, false⟩] :=
    List.mem_append_right _ List.mem_cons_self
  exact
    { covered := fun node there => inr ⟨_, last, there⟩
      justified := fun node there => by
        by_cases stays : node ∈ nodesOf t.namespaceIndex t.connections
        · exact inl stays
        · refine inr ?_
          rcases settling.justified node there with before | ⟨call, waiting, deleted, gone⟩
          · rcases stores.nodes_covered before with still | deleted
            · exact absurd (same ▸ still) stays
            · exact ⟨_, last, deleted, stays⟩
          · refine ⟨call, List.mem_append_left _ waiting, deleted, ?_⟩
            rw [nodesFor, same]
            exact gone
      updated := inr ⟨_, last, rfl, rfl⟩ }

theorem Settling.notify (settling : w.Settling) (orderly : w.Orderly (.notify index))
    (stepped : w.applyReflectionOp (.notify index) = some v) : v.Settling := by
  obtain ⟨snapshot, deleted, there, rfl⟩ := notify_eq_some stepped
  have kept : ∀ call ∈ w.pending,
      ∃ still ∈ w.pending.set index ⟨snapshot, deleted, true⟩,
        still.snapshot = call.snapshot ∧ still.deleted = call.deleted := by
    intro call waiting
    rcases (mem_iff_eq_or_mem_eraseIdx there).mp waiting with rfl | other
    · exact ⟨_, (mem_set_iff there).mpr (inl rfl), rfl, rfl⟩
    · exact ⟨call, (mem_set_iff there).mpr (inr other), rfl, rfl⟩
  exact
    { covered := fun node within => by
        rcases settling.covered node within with already | ⟨call, waiting, adds⟩
        · exact inl already
        · obtain ⟨still, waits, same, -⟩ := kept call waiting
          exact inr ⟨still, waits, same ▸ adds⟩
      justified := fun node within => by
        rcases settling.justified node within with stays | ⟨call, waiting, deletes, gone⟩
        · exact inl stays
        · obtain ⟨still, waits, same, deleted⟩ := kept call waiting
          exact inr ⟨still, waits, deleted ▸ deletes, same ▸ gone⟩
      updated := by
        rcases orderly _ there with same | ⟨call, other, waits, same⟩
        · exact inl same
        · exact inr ⟨call, (mem_set_iff there).mpr (inr other), waits, same⟩ }

theorem Settling.reflect (settling : w.Settling) (orderly : w.Orderly (.reflect index))
    (stepped : w.applyReflectionOp (.reflect index) = some v) : v.Settling := by
  obtain ⟨snapshot, deleted, there, rfl⟩ := reflect_eq_some stepped
  obtain ⟨adds, deletes⟩ := orderly _ there
  have reflected : ∀ node, node ∈ reflectNodes w.configuration.namespaceIndex snapshot
      (w.nodes.filter fun node => node ∉ deleted) ↔
        (node ∈ w.nodes ∧ node ∉ deleted) ∨ node ∈ w.nodesFor snapshot := by
    intro node
    rw [mem_reflectNodes, List.mem_filter, decide_eq_true_iff]
    rfl
  exact
    { covered := fun node within => by
        rw [reflected]
        rcases settling.covered node within with already | ⟨call, waiting, added⟩
        · by_cases gone : node ∈ deleted
          · rcases deletes node gone within with again | later
            · exact inl (inr again)
            · exact inr later
          · exact inl (inl ⟨already, gone⟩)
        · rcases (mem_iff_eq_or_mem_eraseIdx there).mp waiting with rfl | other
          · exact inl (inr added)
          · exact inr ⟨call, other, added⟩
      justified := fun node within => by
        rcases (reflected node).mp within with ⟨already, kept⟩ | added
        · rcases settling.justified node already with stays | ⟨call, waiting, gone, absent⟩
          · exact inl stays
          · rcases (mem_iff_eq_or_mem_eraseIdx there).mp waiting with rfl | other
            · exact absurd gone kept
            · exact inr ⟨call, other, gone, absent⟩
        · exact adds node added
      updated := by
        rcases settling.updated with same | ⟨call, waiting, waits, same⟩
        · exact inl same
        · rcases (mem_iff_eq_or_mem_eraseIdx there).mp waiting with rfl | other
          · cases waits
          · exact inr ⟨call, other, waits, same⟩ }

theorem Settling.step {op : ReflectionOp} (settling : w.Settling) (orderly : w.Orderly op)
    (stepped : reflectionMachine.step w op = some v) : v.Settling := by
  cases op with
  | lock called => exact settling.lock orderly stepped
  | notify index => exact settling.notify orderly stepped
  | reflect index => exact settling.reflect orderly stepped

/-- **Reflection converges** where all sections are orderly: once all calls have returned, the nodes
are those of the connections, which were passed on last. -/
theorem reflection_converges {namespaceIndex : UInt16} {connections : List PubSubConnectionConfig}
    {ops : List ReflectionOp}
    (orderly : reflectionMachine.Guarded Orderly (new namespaceIndex connections) ops)
    (ran : reflectionMachine.run (new namespaceIndex connections) ops = some w)
    (returned : w.pending = []) : w.Converged := by
  have settling : w.Settling :=
    reflectionMachine.run_invariant_of_guarded
      (fun _ _ _ settling orderly stepped => settling.step orderly stepped)
      (settling_new namespaceIndex connections) orderly ran
  exact settling.converged returned

/-! ### Two calls, and a removal -/

def addConnectionCall (name : String) : ConfigCall :=
  ⟨.addConnection, .standard 14443, [.connection ⟨some name, none, none⟩]⟩

def removeConnectionCall (connectionId : String) : ConfigCall :=
  ⟨.removeConnection, .standard 14443, [.nodeId (connectionNodeId 1 connectionId)]⟩

/-- The sections of two calls. -/
def inOrder : List ReflectionOp :=
  [.lock (addConnectionCall "line"), .lock (addConnectionCall "cell"), .notify 0, .reflect 0,
    .notify 0, .reflect 0]

/-- Two calls overlap, and the first one to change the connections is the first to reflect them. -/
theorem reflection_converges_two :
    ∃ w, reflectionMachine.run (new 1 []) inOrder = some w ∧
      w.pending = [] ∧ w.connections.length = 2 ∧ w.Converged := by
  have ran : reflectionMachine.run (new 1 []) inOrder = some _ := rfl
  refine ⟨_, ran, rfl, rfl, reflection_converges ?_ ran rfl⟩
  refine .cons _ rfl rfl <| .cons _ rfl rfl <| .cons _ rfl ?_ <| .cons _ rfl ?_ <|
    .cons _ rfl ?_ <| .cons _ rfl ?_ trivial
  · rintro call ⟨⟩
    exact inr ⟨_, List.mem_cons_self, rfl, rfl⟩
  · rintro call ⟨⟩
    refine ⟨fun node within => inl ?_, fun node => nofun⟩
    rw [List.mem_singleton.mp within]
    exact List.mem_cons_self
  · rintro call ⟨⟩
    exact inl rfl
  · rintro call ⟨⟩
    exact ⟨fun node within => inl within, fun node => nofun⟩

/-- A connection with a reader group and one reader. -/
def readingConnection : PubSubConnectionConfig :=
  ⟨"line", "line", [], [⟨1, [⟨1, 1⟩]⟩]⟩

def removeReaderCall : ConfigCall :=
  ⟨.removeDatasetReader, readerGroupNodeId 1 "line" 1,
    [.nodeId (datasetReaderNodeId 1 "line" 1)]⟩

/-- **Reflection diverges** where the later of two calls reflects first, since the earlier one adds
the connection again that was removed; and where a dataset reader is removed, since its status
stays. -/
theorem reflection_diverges :
    (∃ w, reflectionMachine.run (new 1 [])
        [.lock (addConnectionCall "line"), .lock (removeConnectionCall "line"), .notify 1,
          .notify 0, .reflect 1, .reflect 0] = some w ∧
      w.pending = [] ∧ w.connections = [] ∧ w.nodes = [connectionNodeId 1 "line"] ∧
      w.lastUpdate ≠ w.connections) ∧
    ∃ w, reflectionMachine.run (new 1 [readingConnection])
        [.lock removeReaderCall, .notify 0, .reflect 0] = some w ∧
      w.pending = [] ∧ datasetReadersOf w.connections = [] ∧
      datasetReaderStatePropertyNodeId 1 "line" 1 ∈ w.nodes ∧
      datasetReaderStatePropertyNodeId 1 "line" 1 ∉ w.nodesFor w.connections :=
  ⟨⟨_, rfl, rfl, rfl, rfl, nofun⟩, ⟨_, rfl, rfl, rfl, by decide, by decide⟩⟩

end ReflectionWorld

end AsyncOpcua.Pubsub
