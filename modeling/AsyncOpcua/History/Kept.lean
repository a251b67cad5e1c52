/-
**What the history in memory keeps.**

A superseded value is owed by the modified values until it is deleted from there. An insertion can
drop the oldest values of its node, those that came with the same call and its own value among them.
-/

import AsyncOpcua.History.Interchangeable

namespace AsyncOpcua.History

open Foundation List
open Types

variable {NodeId Value : Type} [DecidableEq NodeId]

namespace InMemoryDataHistory

/-! ### One value -/

def Stored (status : StatusCode) : Prop :=
  status = StatusCode.GoodEntryInserted ∨ status = StatusCode.GoodEntryReplaced

instance (status : StatusCode) : Decidable (Stored status) := inferInstanceAs (Decidable (_ ∨ _))

variable {nodeId : NodeId} {perform : PerformUpdateType} {now : ℤ}
  {history after : InMemoryDataHistory NodeId Value} {value : DataValue Value}

/-- **What `updateValue` can do.** -/
inductive Updated (nodeId : NodeId) (perform : PerformUpdateType) (now : ℤ)
    (history : InMemoryDataHistory NodeId Value) (value : DataValue Value) :
    StatusCode × InMemoryDataHistory NodeId Value → Prop
  | refused (status : StatusCode) : ¬ Stored status →
      perform = .insert ∨ history.rawAt nodeId (sourceTicks now value) = none →
      perform ≠ .update → Updated nodeId perform now history value (status, history)
  | inserted : history.rawAt nodeId (sourceTicks now value) = none →
      perform = .insert ∨ perform = .update →
      Updated nodeId perform now history value (StatusCode.GoodEntryInserted,
        history.setRaw nodeId (enforceRawCapacity history.maxPerNode
          (((history.rawValues nodeId).getD .empty).insert (sourceTicks now value) value)))
  | replaced (old : DataValue Value) (updateType : HistoryUpdateType) :
      history.rawAt nodeId (sourceTicks now value) = some old →
      perform = .replace ∨ perform = .update →
      Updated nodeId perform now history value (StatusCode.GoodEntryReplaced,
        (history.pushModified nodeId (sourceTicks now value) old updateType now).setRaw nodeId
          (((history.rawValues nodeId).getD .empty).insert (sourceTicks now value) value))
  | removed (old : DataValue Value) :
      history.rawAt nodeId (sourceTicks now value) = some old → perform = .remove →
      Updated nodeId perform now history value (StatusCode.Good,
        (history.pushModified nodeId (sourceTicks now value) old .delete now).setRaw nodeId
          (((history.rawValues nodeId).getD .empty).erase (sourceTicks now value)))

theorem updateValue_updated : Updated nodeId perform now history value
    (updateValue nodeId perform now history value) := by
  unfold updateValue
  dsimp only
  rw [find?_rawValues]
  cases perform <;> cases found : history.rawAt nodeId (sourceTicks now value) <;> dsimp only
  · exact .inserted found (.inl rfl)
  · exact .refused _ (by decide) (.inl rfl) (by decide)
  · exact .refused _ (by decide) (.inr found) (by decide)
  · exact .replaced _ _ found (.inl rfl)
  · exact .inserted found (.inr rfl)
  · exact .replaced _ _ found (.inr rfl)
  · exact .refused _ (by decide) (.inr found) (by decide)
  · exact .removed _ found rfl

/-! ### The capacity -/

structure Bounded (maxPerNode : ℕ) (history : InMemoryDataHistory NodeId Value) : Prop where
  same : history.maxPerNode = maxPerNode
  fits : ∀ nodeId, ((history.rawValues nodeId).getD .empty).size ≤ maxPerNode

variable {maxPerNode : ℕ}

theorem Bounded.setRaw (bounded : history.Bounded maxPerNode)
    {values : OrderedMap ℤ (DataValue Value)} (fits : values.size ≤ maxPerNode) :
    (history.setRaw nodeId values).Bounded maxPerNode := by
  refine ⟨bounded.same, fun other => ?_⟩
  unfold InMemoryDataHistory.setRaw
  by_cases same : other = nodeId
  · simpa [same] using fits
  · simpa [same] using bounded.fits other

variable {tick : ℤ}

omit [DecidableEq NodeId] in
theorem mem_keys_of_rawAt (found : history.rawAt nodeId tick = some value) :
    tick ∈ ((history.rawValues nodeId).getD .empty).keys := by
  rw [OrderedMap.mem_keys, find?_rawValues, found]
  exact Option.some_ne_none value

section

variable {outcome : StatusCode × InMemoryDataHistory NodeId Value}
  (updated : Updated nodeId perform now history value outcome)
include updated

theorem Updated.bounded (bounded : history.Bounded maxPerNode) : outcome.2.Bounded maxPerNode := by
  have pushed (tick : ℤ) (old : DataValue Value) (updateType : HistoryUpdateType) :
      (history.pushModified nodeId tick old updateType now).Bounded maxPerNode :=
    ⟨bounded.same, bounded.fits⟩
  cases updated with
  | refused => exact bounded
  | inserted =>
    rw [bounded.same]
    exact bounded.setRaw (OrderedMap.size_drop_le _ _)
  | replaced old updateType found =>
    refine (pushed _ _ _).setRaw ?_
    rw [OrderedMap.size_insert_of_mem _ (mem_keys_of_rawAt found)]
    exact bounded.fits nodeId
  | removed old found =>
    exact (pushed _ _ _).setRaw (le_trans (OrderedMap.size_filterKeys_le _ _) (bounded.fits nodeId))

end

/-! ### What is owed -/

def Holds (history : InMemoryDataHistory NodeId Value) (entry : NodeId × ℤ × DataValue Value) :
    Prop :=
  ∃ info, (entry.2.2, info) ∈ history.modifiedAt entry.1 entry.2.1

variable {entry : NodeId × ℤ × DataValue Value}

theorem holds_pushModified (updateType : HistoryUpdateType) :
    (history.pushModified nodeId tick value updateType now).Holds entry ↔
      history.Holds entry ∨ entry = (nodeId, tick, value) := by
  unfold Holds
  rw [modifiedAt_pushModified]
  obtain ⟨other, at_, old⟩ := entry
  simp only [Prod.mk.injEq]
  split_ifs with here
  · obtain ⟨rfl, rfl⟩ := here
    simp [exists_or]
  · refine ⟨Or.inl, fun holds => holds.resolve_right fun same => here ⟨same.1, same.2.1⟩⟩

def supersededValue (nodeId : NodeId) (perform : PerformUpdateType) (now : ℤ)
    (history : InMemoryDataHistory NodeId Value) (value : DataValue Value) :
    List (NodeId × ℤ × DataValue Value) :=
  if perform = .insert then []
  else (history.rawAt nodeId (sourceTicks now value)).toList.map
    (nodeId, sourceTicks now value, ·)

def deletedValue (nodeId : NodeId) (history : InMemoryDataHistory NodeId Value) (reqTime : ℤ) :
    List (NodeId × ℤ × DataValue Value) :=
  (history.rawAt nodeId (ticks reqTime)).toList.map (nodeId, ticks reqTime, ·)

/-- What the operations of a call supersede in turn. -/
def supersededAlong {Op : Type} (component : Component (InMemoryDataHistory NodeId Value) Op
    StatusCode) (superseded : InMemoryDataHistory NodeId Value → Op →
    List (NodeId × ℤ × DataValue Value)) (history : InMemoryDataHistory NodeId Value) :
    List Op → List (NodeId × ℤ × DataValue Value)
  | [] => []
  | op :: ops => superseded history op ++
    supersededAlong component superseded (component.step history op).2 ops

/-- **What a call replaces, updates over or deletes.** -/
def supersededBy (history : InMemoryDataHistory NodeId Value) (timed : TimedCall NodeId Value) :
    List (NodeId × ℤ × DataValue Value) :=
  match timed.call with
  | .updateData nodeId perform values =>
    supersededAlong (updateValues nodeId perform timed.now)
      (supersededValue nodeId perform timed.now)
      (history.setRaw nodeId ((history.rawValues nodeId).getD .empty)) values
  | .deleteAtTime nodeId reqTimes =>
    supersededAlong (deleteTimes nodeId timed.now) (deletedValue nodeId) history reqTimes
  | .deleteRawModified nodeId false startTime endTime =>
    (((history.rawValues nodeId).getD .empty).range (ticks startTime) (ticks endTime)).map
      (nodeId, ·)
  | .deleteRawModified _ true _ _ | .readPage .. => []

def DeletesModified (timed : TimedCall NodeId Value) (entry : NodeId × ℤ × DataValue Value) :
    Prop :=
  match timed.call with
  | .deleteRawModified nodeId true startTime endTime =>
    entry.1 = nodeId ∧ ticks startTime ≤ entry.2.1 ∧ entry.2.1 < ticks endTime
  | _ => False

/-- **A value is owed:** some call superseded it, and no later one deleted it explicitly. -/
def Owed (entry : NodeId × ℤ × DataValue Value) (history : InMemoryDataHistory NodeId Value) :
    List (TimedCall NodeId Value) → Prop
  | [] => False
  | timed :: calls =>
    entry ∈ history.supersededBy timed ∧ (∀ later ∈ calls, ¬ DeletesModified later entry) ∨
      Owed entry (memory.step history timed).2 calls

theorem Updated.holds {outcome : StatusCode × InMemoryDataHistory NodeId Value}
    (updated : Updated nodeId perform now history value outcome)
    (holds : history.Holds entry ∨ entry ∈ supersededValue nodeId perform now history value) :
      outcome.2.Holds entry := by
  have superseded {old : DataValue Value}
      (found : history.rawAt nodeId (sourceTicks now value) = some old)
      (there : entry ∈ supersededValue nodeId perform now history value) :
      entry = (nodeId, sourceTicks now value, old) := by
    unfold supersededValue at there
    rw [found] at there
    split_ifs at there
    · cases there
    · exact mem_singleton.mp there
  have none_ (absent : perform = .insert ∨ history.rawAt nodeId (sourceTicks now value) = none) :
      history.Holds entry := by
    refine holds.resolve_right fun there => ?_
    unfold supersededValue at there
    rcases absent with rfl | absent
    · cases there
    · rw [absent] at there
      split_ifs at there <;> cases there
  cases updated with
  | refused _ _ absent => exact none_ absent
  | inserted absent => exact none_ (.inr absent)
  | replaced old updateType found =>
    exact (holds_pushModified updateType).mpr (holds.imp_right (superseded found))
  | removed old found => exact (holds_pushModified _).mpr (holds.imp_right (superseded found))

theorem deleteTime_holds {reqTime : ℤ}
    (holds : history.Holds entry ∨ entry ∈ deletedValue nodeId history reqTime) :
    (deleteTime nodeId now history reqTime).2.Holds entry := by
  unfold deletedValue at holds
  unfold deleteTime
  dsimp only
  rw [find?_rawValues]
  cases found : history.rawAt nodeId (ticks reqTime) with
  | none =>
    rw [found] at holds
    exact holds.resolve_right fun there => by cases there
  | some old =>
    rw [found] at holds
    exact (holds_pushModified _).mpr (holds.imp_right mem_singleton.mp)

omit [DecidableEq NodeId] in
theorem holds_run {Op : Type} {component : Component (InMemoryDataHistory NodeId Value) Op
      StatusCode}
    {superseded : InMemoryDataHistory NodeId Value → Op → List (NodeId × ℤ × DataValue Value)}
    (step : ∀ history op, history.Holds entry ∨ entry ∈ superseded history op →
      (component.step history op).2.Holds entry) {ops : List Op}
    (holds : history.Holds entry ∨ entry ∈ supersededAlong component superseded history ops) :
    (component.run history ops).2.Holds entry := by
  induction ops generalizing history with
  | nil => exact holds.resolve_right not_mem_nil
  | cons op ops ih =>
    refine ih ?_
    rw [supersededAlong, mem_append, ← or_assoc] at holds
    exact holds.imp_left (step history op)

section

variable {entry : NodeId × ℤ × DataValue Value} {startTime endTime : ℤ}

theorem deleteModified_holds (held : history.Holds entry)
    (spared : ¬ (entry.1 = nodeId ∧ ticks startTime ≤ entry.2.1 ∧ entry.2.1 < ticks endTime)) :
    (history.deleteRawModified nodeId true startTime endTime now).2.Holds entry := by
  unfold deleteRawModified
  dsimp only
  rw [if_pos rfl]
  split_ifs
  · exact held
  · cases found : history.modifiedValues nodeId with
    | none => exact held
    | some values =>
      obtain ⟨info, there⟩ := held
      refine ⟨info, ?_⟩
      unfold modifiedAt at there ⊢
      dsimp only
      by_cases same : entry.1 = nodeId
      · rw [same, found] at there
        rw [same, Function.update_self, OrderedMap.find?_nonempty, OrderedMap.find?_filterKeys,
          if_pos (decide_eq_true (not_and.mp spared same))]
        exact there
      · rw [Function.update_of_ne same]
        exact there

theorem deleteRaw_holds
    (holds : history.Holds entry ∨ entry ∈ (((history.rawValues nodeId).getD .empty).range
      (ticks startTime) (ticks endTime)).map (nodeId, ·)) :
    (history.deleteRawModified nodeId false startTime endTime now).2.Holds entry := by
  unfold deleteRawModified
  dsimp only
  rw [if_neg Bool.false_ne_true]
  split_ifs with back
  · refine holds.resolve_right fun there => ?_
    obtain ⟨value, inside, -⟩ := mem_map.mp there
    obtain ⟨-, after, before⟩ := (OrderedMap.mem_range _).mp inside
    omega
  · cases found : history.rawValues nodeId with
    | none =>
      rw [found] at holds
      exact holds.resolve_right not_mem_nil
    | some values =>
      rw [found, Option.getD_some] at holds
      dsimp only
      split_ifs with none_
      · rw [isEmpty_iff.mp none_] at holds
        exact holds.resolve_right not_mem_nil
      · obtain ⟨other, tick, old⟩ := entry
        have pushed :
            (history.pushAll nodeId (values.range (ticks startTime) (ticks endTime)) .delete
            now).modifiedAt other tick = _ := history.modifiedAt_pushAll ..
        rcases holds with ⟨info, there⟩ | there
        · exact ⟨info, pushed ▸ mem_append_left _ there⟩
        · obtain ⟨⟨at_, value⟩, inside, same⟩ := mem_map.mp there
          cases same
          refine ⟨⟨now, .delete, none⟩, pushed ▸ mem_append_right _ (mem_map.mpr ?_)⟩
          exact ⟨(tick, old), mem_filter.mpr ⟨inside, decide_eq_true ⟨rfl, rfl⟩⟩, rfl⟩

end

/-- **A call keeps what is owed,** unless it deletes it explicitly. -/
theorem memory_holds {timed : TimedCall NodeId Value}
    (holds : history.Holds entry ∧ ¬ DeletesModified timed entry ∨
      entry ∈ history.supersededBy timed) : (memory.step history timed).2.Holds entry := by
  obtain ⟨call, now, instant⟩ := timed
  cases call with
  | updateData nodeId perform values =>
    have kept := holds.imp_left And.left
    show (history.updateData nodeId perform values now).2.Holds entry
    unfold updateData
    split_ifs with none_
    · rw [isEmpty_iff.mp none_] at kept
      exact kept.resolve_right not_mem_nil
    · refine holds_run (fun history value => updateValue_updated.holds) ?_
      exact kept
  | deleteAtTime nodeId reqTimes =>
    have kept : ((deleteTimes nodeId now).run history reqTimes).2.Holds entry :=
      holds_run (fun history reqTime => deleteTime_holds) (holds.imp_left And.left)
    show (history.deleteAtTime nodeId reqTimes now).2.Holds entry
    unfold deleteAtTime
    split_ifs with none_ missing
    · rwa [isEmpty_iff.mp none_] at kept
    · rwa [run_deleteTimes_of_none (Option.isNone_iff_eq_none.mp missing)] at kept
    · exact kept
  | deleteRawModified nodeId isDeleteModified startTime endTime =>
    cases isDeleteModified with
    | true =>
      obtain ⟨held, spared⟩ := holds.resolve_right not_mem_nil
      exact deleteModified_holds held spared
    | false => exact deleteRaw_holds (holds.imp_left And.left)
  | readPage => exact (holds.resolve_right not_mem_nil).1

theorem holds_of_owed {calls : List (TimedCall NodeId Value)}
    (owed : Owed entry history calls) :
    (memory.run history calls).2.Holds entry := by
  have stays {history : InMemoryDataHistory NodeId Value} {calls : List (TimedCall NodeId Value)}
      (holds : history.Holds entry) (kept : ∀ later ∈ calls, ¬ DeletesModified later entry) :
      (memory.run history calls).2.Holds entry := by
    induction calls generalizing history with
    | nil => exact holds
    | cons timed calls ih =>
      obtain ⟨now_, later⟩ := forall_mem_cons.mp kept
      exact ih (memory_holds (.inl ⟨holds, now_⟩)) later
  induction calls generalizing history with
  | nil => exact owed.elim
  | cons timed calls ih =>
    rcases owed with ⟨superseded, kept⟩ | later
    · have held : (memory.step history timed).2.Holds entry := memory_holds (.inr superseded)
      exact (stays held kept : (memory.run (memory.step history timed).2 calls).2.Holds entry)
    · exact ih later

section

variable (entries : List (ℤ × DataValue Value)) (updateType : HistoryUpdateType) (now : ℤ)

theorem maxPerNode_pushAll :
    (history.pushAll nodeId entries updateType now).maxPerNode = history.maxPerNode := by
  induction entries generalizing history with
  | nil => rfl
  | cons entry rest ih => exact ih

theorem Bounded.pushAll (bounded : history.Bounded maxPerNode) :
    (history.pushAll nodeId entries updateType now).Bounded maxPerNode := by
  refine ⟨(maxPerNode_pushAll ..).trans bounded.same, fun other => ?_⟩
  rw [rawValues_pushAll]
  exact bounded.fits other

end

theorem deleteTime_bounded {reqTime : ℤ} (bounded : history.Bounded maxPerNode) :
    (deleteTime nodeId now history reqTime).2.Bounded maxPerNode := by
  unfold deleteTime
  dsimp only
  split
  · next old _ =>
    have pushed :
        (history.pushModified nodeId (ticks reqTime) old .delete now).Bounded maxPerNode :=
      ⟨bounded.same, bounded.fits⟩
    refine pushed.setRaw ?_
    exact le_trans (OrderedMap.size_filterKeys_le _ _) (bounded.fits nodeId)
  · exact bounded

theorem deleteRawModified_bounded {isDeleteModified : Bool}
    {startTime endTime : ℤ} (bounded : history.Bounded maxPerNode) :
    (history.deleteRawModified nodeId isDeleteModified startTime endTime now).2.Bounded
      maxPerNode := by
  unfold deleteRawModified
  dsimp only
  split_ifs
  · exact bounded
  · cases history.modifiedValues nodeId with
    | none => exact bounded
    | some => exact ⟨bounded.same, bounded.fits⟩
  · cases found : history.rawValues nodeId with
    | none => exact bounded
    | some values =>
      have fits : values.size ≤ maxPerNode := by
        have here := bounded.fits nodeId
        rwa [found] at here
      dsimp only
      split_ifs
      · exact bounded
      · exact (bounded.pushAll _ _ _).setRaw (le_trans (OrderedMap.size_filterKeys_le _ _) fits)

theorem memory_bounded (history : InMemoryDataHistory NodeId Value)
    (timed : TimedCall NodeId Value) (bounded : history.Bounded maxPerNode) :
    (memory.step history timed).2.Bounded maxPerNode := by
  obtain ⟨call, now, instant⟩ := timed
  cases call with
  | updateData nodeId perform values =>
    show (history.updateData nodeId perform values now).2.Bounded maxPerNode
    unfold updateData
    split_ifs
    · exact bounded
    · exact Component.run_keeps (fun history value => updateValue_updated.bounded)
        (bounded.setRaw (bounded.fits nodeId))
  | deleteAtTime nodeId reqTimes =>
    show (history.deleteAtTime nodeId reqTimes now).2.Bounded maxPerNode
    unfold deleteAtTime
    split_ifs
    · exact bounded
    · exact bounded
    · exact Component.run_keeps (fun history reqTime => deleteTime_bounded) bounded
  | deleteRawModified => exact deleteRawModified_bounded bounded
  | readPage => exact bounded

/-! ### What was stored -/

/-- The later ticks of those that a node has or a call still brings. -/
def laterTicks (nodeId : NodeId) (now : ℤ) (history : InMemoryDataHistory NodeId Value)
    (coming : List (DataValue Value)) (tick : ℤ) : Finset ℤ :=
  (((history.rawValues nodeId).getD .empty).keys ∪
    (coming.map (sourceTicks now)).toFinset).filter (tick < ·)

/-- **No value is dropped by its own call:** when it comes in, less than the capacity are later. -/
def Spared (nodeId : NodeId) (perform : PerformUpdateType) (now : ℤ)
    (history : InMemoryDataHistory NodeId Value) : List (DataValue Value) → Prop
  | [] => True
  | value :: coming =>
    (perform = .update ∨
        perform = .insert ∧ history.rawAt nodeId (sourceTicks now value) = none →
      (laterTicks nodeId now history coming (sourceTicks now value)).card < history.maxPerNode) ∧
    Spared nodeId perform now (updateValue nodeId perform now history value).2 coming

/-- **Every value that was stored is there,** or a later one of the call for the same tick was. -/
def Kept (nodeId : NodeId) (now : ℤ) (after : InMemoryDataHistory NodeId Value) :
    List (StatusCode × DataValue Value) → Prop
  | [] => True
  | (status, value) :: rest =>
    (Stored status → after.rawAt nodeId (sourceTicks now value) = some value ∨
      ∃ later ∈ rest, Stored later.1 ∧ sourceTicks now later.2 = sourceTicks now value) ∧
    Kept nodeId now after rest

section

variable {outcome : StatusCode × InMemoryDataHistory NodeId Value}
  (updated : Updated nodeId perform now history value outcome)
include updated

theorem Updated.maxPerNode_eq : outcome.2.maxPerNode = history.maxPerNode := by
  cases updated <;> rfl

theorem Updated.keys_subset : ((outcome.2.rawValues nodeId).getD .empty).keys ⊆
    insert (sourceTicks now value) ((history.rawValues nodeId).getD .empty).keys := by
  intro tick there
  cases updated with
  | refused => exact Finset.mem_insert_of_mem there
  | inserted =>
    simp only [setRaw, Function.update_self, Option.getD_some] at there
    have there := OrderedMap.mem_keys_of_drop _ there
    rwa [OrderedMap.keys_insert] at there
  | replaced =>
    simp only [setRaw, Function.update_self, Option.getD_some] at there
    rwa [OrderedMap.keys_insert] at there
  | removed =>
    simp only [setRaw, Function.update_self, Option.getD_some, OrderedMap.mem_keys,
      OrderedMap.find?_erase] at there
    refine Finset.mem_insert_of_mem ((OrderedMap.mem_keys _).mpr fun missing => there ?_)
    split_ifs
    · rfl
    · exact missing

theorem Updated.how (stored : Stored outcome.1) :
    perform ≠ .remove ∧ (perform = .insert ∨ perform = .update → perform = .update ∨
      perform = .insert ∧ history.rawAt nodeId (sourceTicks now value) = none) := by
  cases updated with
  | refused status other => exact absurd stored other
  | inserted absent how =>
    refine ⟨?_, fun _ => how.symm.imp_right fun same => ⟨same, absent⟩⟩
    rcases how with rfl | rfl <;> decide
  | replaced _ _ _ how => rcases how with rfl | rfl <;> simp
  | removed => exact absurd stored (show ¬ Stored StatusCode.Good by decide)

theorem Updated.unchanged {old : DataValue Value} (adds : perform ≠ .remove)
    (there : history.rawAt nodeId (sourceTicks now value) = some old)
    (refused : ¬ Stored outcome.1) : outcome.2 = history := by
  cases updated with
  | refused => rfl
  | inserted absent => rw [absent] at there; cases there
  | replaced => exact absurd (.inr rfl) refused
  | removed _ _ removes => exact absurd removes adds

theorem Updated.rawAt_ne (other : tick ≠ sourceTicks now value)
    (few : perform = .insert ∨ perform = .update → ((insert (sourceTicks now value)
      ((history.rawValues nodeId).getD .empty).keys).filter (tick < ·)).card < history.maxPerNode) :
    outcome.2.rawAt nodeId tick = history.rawAt nodeId tick := by
  cases updated with
  | refused => rfl
  | inserted _ how =>
    rw [rawAt_setRaw, if_pos rfl, enforceRawCapacity, OrderedMap.find?_drop _ (few how),
      OrderedMap.find?_insert_ne _ other, find?_rawValues]
    intro j there after
    rw [OrderedMap.keys_insert] at there
    exact Finset.mem_filter.mpr ⟨there, after⟩
  | replaced =>
    rw [rawAt_setRaw, if_pos rfl, OrderedMap.find?_insert_ne _ other, find?_rawValues]
  | removed =>
    rw [rawAt_setRaw, if_pos rfl, OrderedMap.find?_erase, if_neg other, find?_rawValues]

theorem Updated.rawAt_self (stored : Stored outcome.1)
    (few : perform = .insert ∨ perform = .update → ((((history.rawValues nodeId).getD
      .empty).keys).filter (sourceTicks now value < ·)).card < history.maxPerNode) :
    outcome.2.rawAt nodeId (sourceTicks now value) = some value := by
  cases updated with
  | refused status other => exact absurd stored other
  | inserted _ how =>
    rw [rawAt_setRaw, if_pos rfl, enforceRawCapacity, OrderedMap.find?_drop _ (few how),
      OrderedMap.find?_insert_self]
    intro j there after
    rw [OrderedMap.keys_insert] at there
    exact Finset.mem_filter.mpr ⟨(Finset.mem_insert.mp there).resolve_left (ne_of_gt after), after⟩
  | replaced => rw [rawAt_setRaw, if_pos rfl, OrderedMap.find?_insert_self]
  | removed => exact absurd stored (show ¬ Stored StatusCode.Good by decide)

end

variable {values : List (DataValue Value)}

theorem stays (adds : perform ≠ .remove) (there : history.rawAt nodeId tick = some value)
    (few : perform = .insert ∨ perform = .update →
      (laterTicks nodeId now history values tick).card < history.maxPerNode) :
    ((updateValues nodeId perform now).run history values).2.rawAt nodeId tick = some value ∨
      ∃ later ∈ ((updateValues nodeId perform now).run history values).1.zip values,
        Stored later.1 ∧ sourceTicks now later.2 = tick := by
  induction values generalizing history value with
  | nil => exact .inl there
  | cons next rest ih =>
    have updated : Updated nodeId perform now history next _ := updateValue_updated
    by_cases stored : sourceTicks now next = tick ∧
        Stored (updateValue nodeId perform now history next).1
    · exact .inr ⟨_, mem_cons_self, stored.2, stored.1⟩
    have later : laterTicks nodeId now (updateValue nodeId perform now history next).2 rest tick ⊆
        laterTicks nodeId now history (next :: rest) tick := by
      intro j member
      obtain ⟨among, after⟩ := Finset.mem_filter.mp member
      refine Finset.mem_filter.mpr ⟨?_, after⟩
      rw [map_cons, toFinset_cons, Finset.union_insert, ← Finset.insert_union]
      exact Finset.union_subset_union_left updated.keys_subset among
    have kept : (updateValue nodeId perform now history next).2.rawAt nodeId tick = some value := by
      by_cases same : sourceTicks now next = tick
      · subst same
        rw [updated.unchanged adds there fun stored' => stored ⟨rfl, stored'⟩, there]
      · rw [updated.rawAt_ne (Ne.symm same) fun how => ?_, there]
        refine lt_of_le_of_lt (Finset.card_le_card fun j member => ?_) (few how)
        obtain ⟨among, after⟩ := Finset.mem_filter.mp member
        refine Finset.mem_filter.mpr ⟨?_, after⟩
        rw [map_cons, toFinset_cons, Finset.union_insert]
        exact Finset.insert_subset_insert _ Finset.subset_union_left among
    refine (ih kept fun how => ?_).imp_right fun ⟨later, member, stored⟩ =>
      ⟨later, mem_cons_of_mem _ member, stored⟩
    rw [updated.maxPerNode_eq]
    exact lt_of_le_of_lt (Finset.card_le_card later) (few how)

theorem kept_of_spared (spared : Spared nodeId perform now history values) :
    Kept nodeId now ((updateValues nodeId perform now).run history values).2
      (((updateValues nodeId perform now).run history values).1.zip values) := by
  induction values generalizing history with
  | nil => trivial
  | cons value rest ih =>
    obtain ⟨few, spared⟩ := spared
    refine ⟨fun stored => ?_, ih spared⟩
    have updated : Updated nodeId perform now history value _ := updateValue_updated
    obtain ⟨adds, how⟩ := updated.how stored
    have here := updated.rawAt_self stored fun inserts => lt_of_le_of_lt
      (Finset.card_le_card (Finset.filter_subset_filter _ Finset.subset_union_left))
      (few (how inserts))
    refine stays adds here fun inserts => ?_
    rw [updated.maxPerNode_eq]
    refine lt_of_le_of_lt (Finset.card_le_card fun tick member => ?_) (few (how inserts))
    obtain ⟨among, after⟩ := Finset.mem_filter.mp member
    refine Finset.mem_filter.mpr ⟨Finset.mem_union.mpr ?_, after⟩
    exact (Finset.mem_union.mp among).imp_left fun there =>
      (Finset.mem_insert.mp (updated.keys_subset there)).resolve_left (ne_of_gt after)

/-! ### Continuation points -/

/-- The number of some bytes, the lowest one first. -/
def fromLeBytes (bytes : List UInt8) : ℕ := bytes.foldr (fun byte rest => byte.toNat + 256 * rest) 0

def i64FromLeBytes (bytes : List UInt8) : ℤ := (BitVec.ofNat 64 (fromLeBytes bytes)).toInt

def decodeContinuationPoint (token : List UInt8) : Option ContinuationPoint :=
  if token.length = 8 then some (.tick (i64FromLeBytes token))
  else if token.length = 16 then
    some (.entry (i64FromLeBytes (token.take 8)) (fromLeBytes (token.drop 8)))
  else none

/-- **`read_raw_modified` with the bytes of a continuation point.** Bytes of another length are
refused where they are decoded: after the answers without values. -/
def readRawModifiedToken (history : InMemoryDataHistory NodeId Value) (nodeId : NodeId)
    (startTime endTime : ℤ) (numValuesPerNode : ℕ) (isReadModified : Bool)
    (token : Option (List UInt8)) :
    Option (Except StatusCode (HistoryRawModifiedResult Value ContinuationPoint)) :=
  let read := history.readRawModified nodeId startTime endTime numValuesPerNode isReadModified
  match token with
  | none => read none
  | some bytes =>
    match decodeContinuationPoint bytes with
    | some point => read (some point)
    | none =>
      if ticks endTime < ticks startTime ∨ isReadModified ∧ ticks startTime = ticks endTime ∨
          (if isReadModified then (history.modifiedValues nodeId).isNone
            else (history.rawValues nodeId).isNone) then some (.ok noValues)
      else some (.error StatusCode.BadContinuationPointInvalid)

/-- **The continuation point lies past the end:** its tick is after the end of a range that is read,
at a node with values. -/
def PastEnd (history : InMemoryDataHistory NodeId Value) (nodeId : NodeId) (startTime endTime : ℤ)
    (isReadModified : Bool) : Option ContinuationPoint → Prop
  | none => False
  | some point =>
    ticks startTime ≤ ticks endTime ∧
      match point, isReadModified with
      | .tick tick, false => history.rawValues nodeId ≠ none ∧ ticks endTime < tick
      | .entry _ _, false => False
      | .tick tick, true | .entry tick _, true =>
        ticks startTime ≠ ticks endTime ∧ history.modifiedValues nodeId ≠ none ∧
          ticks endTime < tick

theorem rangeOf_eq_none {V : Type} {values : OrderedMap ℤ V} {lo hi : ℤ} :
    rangeOf values lo hi = none ↔ hi < lo := by
  unfold rangeOf
  split_ifs with forward
  · exact iff_of_false (by simp) (not_lt.mpr forward)
  · exact iff_of_true rfl (not_le.mp forward)

section

variable {startTime endTime : ℤ} {numValuesPerNode : ℕ} {isReadModified : Bool}

omit [DecidableEq NodeId] in
theorem readRawModified_eq_none {point : Option ContinuationPoint} :
    history.readRawModified nodeId startTime endTime numValuesPerNode isReadModified point =
      none ↔ PastEnd history nodeId startTime endTime isReadModified point := by
  unfold readRawModified PastEnd
  dsimp only
  split_ifs with back modified same
  · cases point <;> simp [not_le.mpr back]
  · subst modified
    rcases point with - | ⟨tick⟩ | ⟨tick, index⟩ <;> simp [same]
  · subst modified
    unfold readModifiedValues
    cases history.modifiedValues nodeId with
    | none => rcases point with - | ⟨tick⟩ | ⟨tick, index⟩ <;> simp
    | some values =>
      have start (tick : ℤ) (index : ℕ) : ticks endTime <
          (modifiedEffectiveStart (ticks startTime) (some (tick, index))).1 ↔
            ticks endTime < tick := by
        unfold modifiedEffectiveStart
        dsimp only
        split_ifs <;> dsimp only <;> omega
      rcases point with - | ⟨tick⟩ | ⟨tick, index⟩ <;>
        simp [decodeModifiedContinuationPosition, rangeOf_eq_none, start, same, not_lt.mp back]
      exact not_lt.mp back
  · rw [Bool.not_eq_true] at modified
    subst modified
    cases history.rawValues nodeId with
    | none => rcases point with - | ⟨tick⟩ | ⟨tick, index⟩ <;> simp
    | some values =>
      rcases point with - | ⟨tick⟩ | ⟨tick, index⟩ <;>
        simp [decodeContinuationTick, rangeOf_eq_none, not_lt.mp back]

omit [DecidableEq NodeId] in
theorem readRawModifiedToken_eq_none {token : Option (List UInt8)} :
    history.readRawModifiedToken nodeId startTime endTime numValuesPerNode isReadModified token =
      none ↔ PastEnd history nodeId startTime endTime isReadModified
        (token.bind decodeContinuationPoint) := by
  unfold readRawModifiedToken
  cases token with
  | none => exact readRawModified_eq_none
  | some bytes =>
    dsimp only
    rw [Option.bind_some]
    cases decodeContinuationPoint bytes with
    | none => split_ifs <;> simp [PastEnd]
    | some point => exact readRawModified_eq_none

end

/-- **What the history keeps.** In every state that calls lead to, the capacity is kept and so is
what is owed. A call keeps what it stored if it drops none of its own values, and a read panics
exactly if its continuation point lies past the end. -/
theorem history_keeps (maxPerNode : ℕ) (calls : List (TimedCall NodeId Value)) :
    let history := (memory.run (.withCapacity maxPerNode) calls).2
    (∀ nodeId, ((history.rawValues nodeId).getD .empty).size ≤ maxPerNode) ∧
      (∀ entry, Owed entry (.withCapacity maxPerNode) calls → history.Holds entry) ∧
      (∀ nodeId perform values now, Spared nodeId perform now
        (history.setRaw nodeId ((history.rawValues nodeId).getD .empty)) values →
        Kept nodeId now (history.updateData nodeId perform values now).2
          ((history.updateData nodeId perform values now).1.zip values)) ∧
      ∀ nodeId startTime endTime numValuesPerNode isReadModified token,
        history.readRawModifiedToken nodeId startTime endTime numValuesPerNode isReadModified
          token = none ↔ PastEnd history nodeId startTime endTime isReadModified
            (token.bind decodeContinuationPoint) := by
  have empty : (InMemoryDataHistory.withCapacity maxPerNode :
      InMemoryDataHistory NodeId Value).Bounded maxPerNode := ⟨rfl, fun _ => Nat.zero_le _⟩
  refine ⟨(Component.run_keeps memory_bounded empty).fits, fun entry => holds_of_owed, ?_,
    fun _ _ _ _ _ _ => readRawModifiedToken_eq_none⟩
  intro nodeId perform values now spared
  unfold updateData
  split_ifs with none_
  · trivial
  · exact kept_of_spared spared

/-- A later value and one before it come to a full node, which drops its own. -/
theorem history_keeps_spared :
    let history := (memory.run (.withCapacity 2) [⟨.updateData 5 .insert [sample 1], 0, 0⟩]).2
    let values := [{ sample 2 with sourceTimestamp := some 2000 },
      { sample 3 with sourceTimestamp := some 1000 }]
    (history.updateData 5 .insert values 0).1 =
        [StatusCode.GoodEntryInserted, StatusCode.GoodEntryInserted] ∧
      Kept 5 0 (history.updateData 5 .insert values 0).2
        ((history.updateData 5 .insert values 0).1.zip values) := by
  obtain ⟨-, -, keeps, -⟩ :=
    history_keeps 2 [⟨.updateData (5 : ℕ) .insert [sample 1], 0, 0⟩]
  refine ⟨by decide, keeps 5 .insert _ 0 ⟨fun _ => ?_, fun _ => ?_, trivial⟩⟩
  · decide
  · decide

/-- **An insertion drops its own value:** the node is full, and its value is a later one. -/
theorem insertion_drops_itself :
    ¬ ∀ (calls : List (TimedCall ℕ UInt8)) (nodeId : ℕ) (perform : PerformUpdateType)
        (values : List (DataValue UInt8)) (now : ℤ),
      let history := (memory.run (.withCapacity 1) calls).2
      Kept nodeId now (history.updateData nodeId perform values now).2
        ((history.updateData nodeId perform values now).1.zip values) := by
  intro always
  have kept := always
    [⟨.updateData 5 .insert [{ sample 1 with sourceTimestamp := some 1000 }], 0, 0⟩]
    5 .insert [sample 2] 0
  rcases kept.1 (.inl rfl) with there | ⟨later, member, -⟩
  · cases there
  · cases member

end InMemoryDataHistory

end AsyncOpcua.History
