/-
**A dataset and the variables it is written to.**

The targets are checked under a lock that others may hold as well, and written under another one.
What the address space holds at each check, and at the writes, may be anything.

* `all_or_nothing_iff` — when a dataset is applied completely or not at all.
-/

import AsyncOpcua.Pubsub.Sequences
import AsyncOpcua.Foundation.Transition
import Mathlib.Data.List.TakeWhile

namespace AsyncOpcua.Pubsub

open Types (DataValue)
open List Foundation.Machine

inductive SubscriberError
  | fieldCountMismatch
  | targetNotFound
  | targetNotVariable
  | unsupportedTarget
  | messageReceiveTimeout
  | metadataMajorVersionMismatch

inductive PubSubState
  | disabled
  | paused
  | operational
  | error
  | preOperational
  deriving DecidableEq

/-- `valueAttribute` if the attribute is the value. -/
structure FieldTargetConfig (NodeId : Type) where
  datasetFieldIndex : ℕ
  targetNodeId : NodeId
  valueAttribute : Bool
  indexRange : Option String

structure TargetReader (NodeId : Type) where
  targetVariables : List (FieldTargetConfig NodeId)
  subscribedVariables : List NodeId

structure ReaderRecord where
  state : PubSubState
  sequence : DataSetReaderStatus
  lastReceiveTime : Option ℤ
  lastError : Option SubscriberError
  metadataMismatchSince : Option ℤ
  acceptedCount : ℕ

inductive NodeType (V : Type)
  | ofVariable (value : DataValue V)
  | other

variable {NodeId V : Type}

def FieldTargetConfig.value (index : ℕ) (target : NodeId) : FieldTargetConfig NodeId :=
  ⟨index, target, true, none⟩

def TargetReader.effectiveTargetVariables (reader : TargetReader NodeId) :
    List (FieldTargetConfig NodeId) :=
  if reader.targetVariables ≠ [] then reader.targetVariables
  else reader.subscribedVariables.mapIdx .value

def validateTargetConfig (target : FieldTargetConfig NodeId) : Except SubscriberError Unit :=
  if !target.valueAttribute || target.indexRange.any (· ≠ "") then .error .unsupportedTarget
  else .ok ()

/-- The values by their targets. -/
def collectWrites (fields : List V) :
    List (FieldTargetConfig NodeId) → Except SubscriberError (List (NodeId × V))
  | [] => .ok []
  | target :: targets => do
    validateTargetConfig target
    match fields[target.datasetFieldIndex]? with
    | none => .error .fieldCountMismatch
    | some field => return (target.targetNodeId, field) :: (← collectWrites fields targets)

abbrev Space (NodeId V : Type) := NodeId → Option (NodeType V)

/-- The `n`-th target is looked up in the `n`-th of the spaces. -/
def checkTargets (spaces : ℕ → Space NodeId V) : List (NodeId × V) → Except SubscriberError Unit
  | [] => .ok ()
  | (target, _) :: writes =>
    match spaces 0 target with
    | none => .error .targetNotFound
    | some .other => .error .targetNotVariable
    | some (.ofVariable _) => checkTargets (fun n => spaces (n + 1)) writes

def valueOnly (value : V) : DataValue V := ⟨some value, none, none, none, none, none⟩

/-- The loop over the writes, up to one that fails. -/
def writeTargets [DecidableEq NodeId] (space : Space NodeId V) :
    List (NodeId × V) → Except SubscriberError Unit × Space NodeId V
  | [] => (.ok (), space)
  | (target, value) :: writes =>
    match space target with
    | none => (.error .targetNotFound, space)
    | some .other => (.error .targetNotVariable, space)
    | some (.ofVariable _) =>
      writeTargets (Function.update space target (some (.ofVariable (valueOnly value)))) writes

def ReaderRecord.accept (record : ReaderRecord) (sequenceNumber : UInt16) (now : ℤ) :
    ReaderRecord :=
  let isNew := record.sequence.lastSequenceNumber.all fun last => sequenceNumber ≠ .ofNat last
  { record with
    sequence := updateSequenceStatus record.sequence sequenceNumber
    state := .operational
    lastReceiveTime :=
      if record.state ≠ .operational || isNew then some now else record.lastReceiveTime
    lastError := none
    metadataMismatchSince := none
    acceptedCount := record.acceptedCount + 1 }

def TargetReader.writes (reader : TargetReader NodeId) (fields : List V)
    (checked : ℕ → Space NodeId V) :
    Except SubscriberError (List (NodeId × V)) := do
  let targets := reader.effectiveTargetVariables
  if targets.length ≠ fields.length then .error .fieldCountMismatch
  else
    let writes ← collectWrites fields targets
    checkTargets checked writes
    return writes

/-- `apply_reader`. -/
def TargetReader.apply [DecidableEq NodeId] (reader : TargetReader NodeId) (fields : List V)
    (sequenceNumber : UInt16) (now : ℤ) (checked : ℕ → Space NodeId V) (space : Space NodeId V)
    (record : Option ReaderRecord) :
    Except SubscriberError Unit × Space NodeId V × Option ReaderRecord :=
  match reader.writes fields checked with
  | .error error => (.error error, space, record)
  | .ok writes =>
    match writeTargets space writes with
    | (.error error, written) => (.error error, written, record)
    | (.ok (), written) => (.ok (), written, record.map (·.accept sequenceNumber now))

/-- **The dataset is applied completely or not at all.** -/
def AllOrNothing [DecidableEq NodeId] (reader : TargetReader NodeId) (fields : List V)
    (sequenceNumber : UInt16) (now : ℤ) (checked : ℕ → Space NodeId V) (space : Space NodeId V)
    (record : Option ReaderRecord) : Prop :=
  match reader.apply fields sequenceNumber now checked space record with
  | (.error _, written, after) => written = space ∧ after = record
  | (.ok (), written, _) => ∀ target ∈ reader.effectiveTargetVariables,
      ∃ field, fields[target.datasetFieldIndex]? = some field ∧
        written target.targetNodeId = some (.ofVariable (valueOnly field))

variable [DecidableEq NodeId] {space : Space NodeId V} {writes : List (NodeId × V)}

/-- The last value for a target. -/
def lastWrite : List (NodeId × V) → NodeId → Option V
  | [], _ => none
  | (node, value) :: writes, target =>
    (lastWrite writes target).or (if target = node then some value else none)

/-- The space after writes that are all made. -/
def put (space : Space NodeId V) (writes : List (NodeId × V)) : Space NodeId V := fun target =>
  ((lastWrite writes target).map fun value => .ofVariable (valueOnly value)).or (space target)

def Writable (space : Space NodeId V) (write : NodeId × V) : Bool :=
  match space write.1 with
  | some (.ofVariable _) => true
  | _ => false

@[simp]
theorem put_nil : put space [] = space := rfl

theorem put_update (target : NodeId) (value : V) :
    put (Function.update space target (some (.ofVariable (valueOnly value)))) writes =
      put space ((target, value) :: writes) := by
  funext other
  rw [put, put, lastWrite]
  by_cases same : other = target
  · cases lastWrite writes other <;> simp [same]
  · cases lastWrite writes other <;> simp [same]

theorem writable_update {target : NodeId} {old : DataValue V} (new : DataValue V)
    (held : space target = some (.ofVariable old)) :
    Writable (Function.update space target (some (.ofVariable new))) = Writable space := by
  funext write
  by_cases same : write.1 = target
  · simp [Writable, same, held]
  · simp [Writable, same]

theorem writeTargets_spec : (writeTargets space writes).2 =
      put space (writes.takeWhile (Writable space)) ∧
    ((writeTargets space writes).1 = .ok () ↔ writes.all (Writable space)) := by
  induction writes generalizing space with
  | nil => exact ⟨rfl, by simp [writeTargets]⟩
  | cons write writes ih =>
    obtain ⟨target, value⟩ := write
    cases held : space target with
    | none => simp [writeTargets, held, Writable]
    | some node =>
      cases node with
      | other => simp [writeTargets, held, Writable]
      | ofVariable old =>
        have here : Writable space (target, value) = true := by
          simp [Writable, held]
        obtain ⟨written, done⟩ := @ih (Function.update space target
          (some (.ofVariable (valueOnly value))))
        rw [writable_update _ held] at written done
        simp only [writeTargets, held]
        rw [written, done, put_update, takeWhile_cons_of_pos here, all_cons, here, Bool.true_and]
        exact ⟨rfl, Iff.rfl⟩

theorem put_eq_self_iff : put space writes = space ↔ ∀ target value,
    lastWrite writes target = some value → space target = some (.ofVariable (valueOnly value)) := by
  constructor
  · intro same target value last
    rw [← same, put, last]
    rfl
  · intro held
    funext target
    cases last : lastWrite writes target with
    | none => rw [put, last]; rfl
    | some value => rw [put, last, held target value last]; rfl

theorem lastWrite_of_mem {write : NodeId × V} (here : write ∈ writes) :
    ∃ value, lastWrite writes write.1 = some value := by
  induction here with
  | head => exact Option.isSome_iff_exists.mp (by simp [lastWrite])
  | tail _ _ ih =>
    obtain ⟨value, last⟩ := ih
    exact ⟨value, by simp [lastWrite, last]⟩

/-- **Writes leave each its value** where it is the last one, or the last one has the same value. -/
theorem put_holds_iff :
    (∀ write ∈ writes, put space writes write.1 = some (.ofVariable (valueOnly write.2))) ↔
      ∀ write ∈ writes, lastWrite writes write.1 = some write.2 := by
  refine forall₂_congr fun write here => ?_
  obtain ⟨value, last⟩ := lastWrite_of_mem here
  simp [put, last, valueOnly]

omit [DecidableEq NodeId] in
/-- What is said of every target and its field is said of every write. -/
theorem forall_writes_iff {fields : List V} {targets : List (FieldTargetConfig NodeId)}
    (collected : collectWrites fields targets = .ok writes) (holds : NodeId → V → Prop) :
    (∀ target ∈ targets, ∃ field, fields[target.datasetFieldIndex]? = some field ∧
      holds target.targetNodeId field) ↔ ∀ write ∈ writes, holds write.1 write.2 := by
  induction targets generalizing writes with
  | nil =>
    cases collected
    simp
  | cons target targets ih =>
    obtain ⟨-, -, rest⟩ := bind_eq_ok.mp collected
    cases field : fields[target.datasetFieldIndex]? with
    | none => rw [field] at rest; cases rest
    | some value =>
      rw [field] at rest
      obtain ⟨others, found, done⟩ := bind_eq_ok.mp rest
      cases done
      rw [forall_mem_cons, forall_mem_cons, ih found, field]
      simp

/-- **When a dataset is applied completely or not at all:** it is refused before anything is
written, or all targets are written and each has the last value written to its node, or what is
written before a target that is gone is there already. -/
theorem all_or_nothing_iff {reader : TargetReader NodeId} {fields : List V}
    {sequenceNumber : UInt16}
    {now : ℤ} {checked : ℕ → Space NodeId V} {record : Option ReaderRecord} :
    AllOrNothing reader fields sequenceNumber now checked space record ↔
      ∀ writes, reader.writes fields checked = .ok writes →
        if writes.all (Writable space) then
          ∀ write ∈ writes, lastWrite writes write.1 = some write.2
        else ∀ target value, lastWrite (writes.takeWhile (Writable space)) target = some value →
          space target = some (.ofVariable (valueOnly value)) := by
  unfold AllOrNothing TargetReader.apply
  cases found : reader.writes fields checked with
  | error error => simp
  | ok writes =>
    have collected : collectWrites fields reader.effectiveTargetVariables = .ok writes := by
      unfold TargetReader.writes at found
      dsimp only at found
      split_ifs at found
      obtain ⟨collected, same, rest⟩ := bind_eq_ok.mp found
      obtain ⟨-, -, done⟩ := bind_eq_ok.mp rest
      cases done
      exact same
    obtain ⟨written, done⟩ := @writeTargets_spec _ _ _ space writes
    simp only [Except.ok.injEq, forall_eq']
    cases ran : writeTargets space writes with
    | mk result after =>
      rw [ran] at written done
      subst written
      cases result with
      | ok =>
        have all := done.mp rfl
        have whole : writes.takeWhile (Writable space) = writes :=
          takeWhile_eq_self_iff.mpr (all_eq_true.mp all)
        rw [if_pos all, whole]
        exact (forall_writes_iff collected fun target field => put space writes target =
          some (.ofVariable (valueOnly field))).trans put_holds_iff
      | error error =>
        rw [if_neg (fun all => nomatch done.mpr all), ← put_eq_self_iff]
        exact and_iff_left rfl

theorem partly_applied : ¬ AllOrNothing (⟨[], [true, false]⟩ : TargetReader Bool) [true, true] 1 0
    (fun _ _ => some (.ofVariable (valueOnly false)))
    (fun target => if target then some (.ofVariable (valueOnly false)) else none) none :=
  fun whole => nomatch congrFun whole.1 true

end AsyncOpcua.Pubsub
