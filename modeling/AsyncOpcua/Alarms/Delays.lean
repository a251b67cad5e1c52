/-
**The delays of the active state over whole runs.**

The delay gate notes when a differing evaluation was first seen and commits it once the delay is
over. It is not asked while the evaluation agrees with the active state, so that an interruption
leaves the noted time in place.

* `updateValueAt_persisted` — in an undisturbed run every committed change has persisted.
-/

import AsyncOpcua.Foundation.Transition
import AsyncOpcua.Alarms.LimitAlarm

namespace AsyncOpcua.Alarms

open Types Foundation List

variable {F : Floats}

/-- When an update was, and whether it evaluated the limits as active. -/
structure Update where
  time : ℤ
  active : Bool
  deriving DecidableEq

namespace LimitAlarm

def machine : Machine (LimitAlarm F) (F.F64 × ℤ) where
  step alarm op := some (alarm.updateValueAt op.1 op.2).2

/-- The history of updates after one more. -/
def noteUpdate (history : List Update) (alarm : LimitAlarm F) (op : F.F64 × ℤ) (_ : LimitAlarm F) :
    List Update :=
  history ++ [⟨op.2, (alarm.outcome op.1).active⟩]

end LimitAlarm

def DelayGateState.start (state : DelayGateState) (desired : Bool) (now : ℤ) : ℤ :=
  match state.pending with
  | some (pendingDesired, started) => if pendingDesired = desired then started else now
  | none => now

/-- **What the gate does with a change:** it waits until the delay is over since it has seen it, and
then commits it. -/
theorem ConditionStateMachine.gateActive_cases (condition : ConditionStateMachine) {desired : Bool}
    (differs : desired ≠ condition.delayGate.committed) (now : ℤ) (onDelayMs offDelayMs : F.F64) :
    let started := condition.delayGate.start desired now
    let delayMs := if desired then onDelayMs else offDelayMs
    let elapsedMs := F.elapsedMs (checkedTicks now - checkedTicks started)
    F.lt elapsedMs delayMs = true ∧
        condition.gateActive desired now onDelayMs offDelayMs = (none, { condition with
          delayGate := ⟨condition.delayGate.committed, some (desired, started)⟩ }) ∨
      F.lt elapsedMs delayMs = false ∧
        condition.gateActive desired now onDelayMs offDelayMs =
          (some desired, { condition with delayGate := ⟨desired, none⟩, active := desired }) := by
  have step : condition.gateActive desired now onDelayMs offDelayMs =
      if F.lt (F.elapsedMs (checkedTicks now -
          checkedTicks (condition.delayGate.start desired now)))
          (if desired then onDelayMs else offDelayMs) then
        (none, { condition with delayGate :=
          ⟨condition.delayGate.committed, some (desired, condition.delayGate.start desired now)⟩ })
      else (some desired, { condition with delayGate := ⟨desired, none⟩, active := desired }) := by
    unfold gateActive DelayGateState.start
    simp only [if_neg differs]
    obtain ⟨committed, pending⟩ := condition.delayGate
    cases pending with
    | none => rfl
    | some noted =>
      obtain ⟨pendingDesired, started⟩ := noted
      by_cases same : pendingDesired = desired
      · subst same
        simp only [if_true]
      · simp only [if_neg same]
  rw [step]
  cases early : F.lt (F.elapsedMs (checkedTicks now -
    checkedTicks (condition.delayGate.start desired now)))
      (if desired then onDelayMs else offDelayMs)
  · exact .inr ⟨early, rfl⟩
  · exact .inl ⟨early, rfl⟩

namespace LimitAlarm

variable {alarm : LimitAlarm F} {value : F.F64} {now : ℤ}

section

variable (condition : ConditionStateMachine)

theorem report_eq (outcome : LimitOutcome) (wasActive wasAcked reportedActive reAlarmed : Bool) :
    (report condition outcome wasActive wasAcked reportedActive reAlarmed).2.enabled =
        condition.enabled ∧
      (report condition outcome wasActive wasAcked reportedActive reAlarmed).2.active =
        condition.active ∧
      (report condition outcome wasActive wasAcked reportedActive reAlarmed).2.delayGate =
        condition.delayGate := by
  unfold report ConditionStateMachine.createBranch
  split_ifs <;> exact ⟨rfl, rfl, rfl⟩

theorem maybeReAlarm_eq (now : ℤ) (reAlarmMs : F.F64) :
    (condition.maybeReAlarm now reAlarmMs).2.enabled = condition.enabled ∧
      (condition.maybeReAlarm now reAlarmMs).2.active = condition.active ∧
      (condition.maybeReAlarm now reAlarmMs).2.delayGate = condition.delayGate := by
  unfold ConditionStateMachine.maybeReAlarm
  split_ifs
  · exact ⟨rfl, rfl, rfl⟩
  · cases condition.lastAlarmTime with
    | none => exact ⟨rfl, rfl, rfl⟩
    | some started =>
      simp only
      split_ifs <;> exact ⟨rfl, rfl, rfl⟩

theorem gateActive_enabled (desired : Bool) (now : ℤ) (onDelayMs offDelayMs : F.F64) :
    (condition.gateActive desired now onDelayMs offDelayMs).2.enabled = condition.enabled := by
  by_cases same : desired = condition.delayGate.committed
  · unfold ConditionStateMachine.gateActive
    rw [if_pos same]
  · rcases condition.gateActive_cases same now onDelayMs offDelayMs with ⟨-, gated⟩ | ⟨-, gated⟩
    · rw [gated]
    · rw [gated]

end

/-- **What an update does to the active state and to the gate:** the gate is only asked where the
evaluation differs from the active state. -/
theorem updateValueAt_spec (value : F.F64) (now : ℤ) (enabled : alarm.condition.enabled = true) :
    let after := (alarm.updateValueAt value now).2
    after.condition.enabled = true ∧ after.onDelayMs = alarm.onDelayMs ∧
      after.offDelayMs = alarm.offDelayMs ∧
      ((alarm.outcome value).active = alarm.condition.active ∧
          after.condition.active = alarm.condition.active ∧
          after.condition.delayGate = alarm.condition.delayGate ∨
        (alarm.outcome value).active ≠ alarm.condition.active ∧
          after.condition.active = (alarm.condition.gateActive (alarm.outcome value).active now
            alarm.onDelayMs alarm.offDelayMs).2.active ∧
          after.condition.delayGate = (alarm.condition.gateActive (alarm.outcome value).active now
            alarm.onDelayMs alarm.offDelayMs).2.delayGate) := by
  unfold updateValueAt
  simp only [enabled, Bool.not_true, Bool.false_eq_true, if_false]
  by_cases agrees : (alarm.outcome value).active = alarm.condition.active
  · simp only [if_neg (not_not_intro agrees)]
    split_ifs
    · exact ⟨enabled, rfl, rfl, .inl ⟨agrees, rfl, rfl⟩⟩
    · obtain ⟨enabled', active', gate'⟩ := maybeReAlarm_eq alarm.condition now alarm.reAlarmMs
      cases checked : alarm.condition.maybeReAlarm now alarm.reAlarmMs with
      | mk reAlarmed condition =>
        rw [checked] at enabled' active' gate'
        cases reAlarmed with
        | false => exact ⟨enabled'.trans enabled, rfl, rfl, .inl ⟨agrees, active', gate'⟩⟩
        | true =>
          obtain ⟨reportEnabled, reportActive, reportGate⟩ := report_eq condition
            (alarm.outcome value) alarm.condition.active alarm.condition.acked
            alarm.condition.active true
          exact ⟨(reportEnabled.trans enabled').trans enabled, rfl, rfl,
            .inl ⟨agrees, reportActive.trans active', reportGate.trans gate'⟩⟩
    · obtain ⟨reportEnabled, reportActive, reportGate⟩ := report_eq alarm.condition
        (alarm.outcome value) alarm.condition.active alarm.condition.acked alarm.condition.active
        false
      exact ⟨reportEnabled.trans enabled, rfl, rfl, .inl ⟨agrees, reportActive, reportGate⟩⟩
  · have changed : ¬ ((decide (alarm.prev = (alarm.outcome value).limits) &&
        decide ((alarm.outcome value).active = alarm.condition.active)) &&
          !(F.lt F.zero alarm.reAlarmMs && alarm.condition.active)) = true := by
      simp [agrees]
    simp only [if_neg changed, if_pos agrees]
    have enabled' := gateActive_enabled alarm.condition (alarm.outcome value).active now
      alarm.onDelayMs alarm.offDelayMs
    cases gated : alarm.condition.gateActive (alarm.outcome value).active now alarm.onDelayMs
      alarm.offDelayMs with
    | mk committed condition =>
      rw [gated] at enabled'
      cases committed with
      | none => exact ⟨enabled'.trans enabled, rfl, rfl, .inr ⟨agrees, rfl, rfl⟩⟩
      | some committed =>
        obtain ⟨reportEnabled, reportActive, reportGate⟩ := report_eq
          (condition.resetReAlarm committed now) (alarm.outcome value) alarm.condition.active
          alarm.condition.acked committed false
        exact ⟨(reportEnabled.trans enabled').trans enabled, rfl, rfl,
          .inr ⟨agrees, reportActive, reportGate⟩⟩

/-! ### Persistence -/

/-- A time lies no further back than the delay: before, the delay was not yet over. -/
def WithinDelay (delayMs : F.F64) (ticks : ℤ) : Prop :=
  ∀ fewer < ticks, F.lt (F.elapsedMs fewer) delayMs = true

/-- A time lies at least the delay back. -/
def DelayOver (delayMs : F.F64) (ticks : ℤ) : Prop := F.lt (F.elapsedMs ticks) delayMs = false

/-- **The desired state has persisted for the delay:** all updates within the delay evaluated it,
and so did one at or before its begin and all updates since. -/
def Persisted (delayMs : F.F64) (desired : Bool) (now : ℤ) (history : List Update) : Prop :=
  (∀ update ∈ history, WithinDelay delayMs (now - update.time) → update.active = desired) ∧
    ∃ first ∈ history, first.active = desired ∧ DelayOver delayMs (now - first.time) ∧
      ∀ update ∈ history, first.time ≤ update.time → update.active = desired

/-- Times do not decrease, and are within the range of OPC UA. -/
def InOrder (state : LimitAlarm F × List Update) (op : F.F64 × ℤ) : Prop :=
  (∀ update ∈ state.2, update.time ≤ op.2) ∧ 0 ≤ op.2 ∧ op.2 ≤ endtimesTicks

/-- **An update that leaves no trace of an interruption:** one that agrees with the active state
finds no change pending, and one that starts a change does so at a time at which no other update
evaluated differently. -/
def Undisturbed (state : LimitAlarm F × List Update) (op : F.F64 × ℤ) : Prop :=
  ((state.1.outcome op.1).active = state.1.condition.active →
      state.1.condition.delayGate.pending = none) ∧
    ((state.1.outcome op.1).active ≠ state.1.condition.active →
      state.1.condition.delayGate.pending = none →
      ∀ update ∈ state.2, update.time = op.2 → update.active = (state.1.outcome op.1).active)

/-- **What the updates keep:** a pending change was evaluated by all updates since it started. -/
structure Pending (onDelayMs offDelayMs : F.F64) (state : LimitAlarm F × List Update) : Prop where
  enabled : state.1.condition.enabled = true
  onDelay : state.1.onDelayMs = onDelayMs
  offDelay : state.1.offDelayMs = offDelayMs
  committed : state.1.condition.delayGate.committed = state.1.condition.active
  pending : ∀ desired started, state.1.condition.delayGate.pending = some (desired, started) →
    desired ≠ state.1.condition.active ∧ 0 ≤ started ∧ started ≤ endtimesTicks ∧
      ⟨started, desired⟩ ∈ state.2 ∧ ∀ update ∈ state.2, started ≤ update.time →
        update.active = desired

variable {onDelayMs offDelayMs : F.F64}

/-- **The start of a change:** the updates since then, this one included, evaluated the change. -/
theorem Pending.start {state : LimitAlarm F × List Update} {op : F.F64 × ℤ}
    (pending : Pending onDelayMs offDelayMs state) (inOrder : InOrder state op)
    (undisturbed : Undisturbed state op)
    (differs : (state.1.outcome op.1).active ≠ state.1.condition.active) :
    let desired := (state.1.outcome op.1).active
    let started := state.1.condition.delayGate.start desired op.2
    let history := state.2 ++ [⟨op.2, desired⟩]
    0 ≤ started ∧ started ≤ endtimesTicks ∧ ⟨started, desired⟩ ∈ history ∧
      ∀ update ∈ history, started ≤ update.time → update.active = desired := by
  obtain ⟨earlier, low, high⟩ := inOrder
  unfold DelayGateState.start
  cases noted : state.1.condition.delayGate.pending with
  | none =>
    refine ⟨low, high, by simp, fun update listed later => ?_⟩
    rcases mem_append.mp listed with before | last
    · exact undisturbed.2 differs noted update before
        (Int.le_antisymm (earlier update before) later)
    · rw [mem_singleton.mp last]
  | some change =>
    obtain ⟨desired, started⟩ := change
    obtain ⟨apart, low', high', listed', since⟩ := pending.pending desired started noted
    -- There are only two states, so the change is the one that is pending.
    have same : desired = (state.1.outcome op.1).active := by
      revert apart differs
      cases desired <;> cases (state.1.outcome op.1).active <;> cases state.1.condition.active <;>
        simp
    subst same
    simp only [if_true]
    refine ⟨low', high', mem_append_left _ listed', fun update listed later => ?_⟩
    rcases mem_append.mp listed with before | last
    · exact since update before later
    · rw [mem_singleton.mp last]

theorem Pending.persisted {history : List Update}
    (pending : Pending onDelayMs offDelayMs (alarm, history))
    (inOrder : InOrder (alarm, history) (value, now))
    (undisturbed : Undisturbed (alarm, history) (value, now))
    (changes : (alarm.updateValueAt value now).2.condition.active ≠ alarm.condition.active) :
    let desired := (alarm.updateValueAt value now).2.condition.active
    Persisted (if desired then onDelayMs else offDelayMs) desired now
      (history ++ [⟨now, (alarm.outcome value).active⟩]) := by
  obtain ⟨-, -, -, ⟨-, same, -⟩ | ⟨differs, active, -⟩⟩ :=
    updateValueAt_spec value now pending.enabled
  · exact absurd same changes
  obtain ⟨low, high, listed, since⟩ := pending.start inOrder undisturbed differs
  rcases alarm.condition.gateActive_cases (pending.committed ▸ differs) now alarm.onDelayMs
    alarm.offDelayMs with ⟨-, gated⟩ | ⟨beyond, gated⟩
  · rw [gated] at active
    exact absurd active changes
  · rw [gated] at active
    rw [checkedTicks_of_within inOrder.2.1 inOrder.2.2,
      checkedTicks_of_within low high] at beyond
    simp only [active, ← pending.onDelay, ← pending.offDelay]
    refine ⟨fun update there within => since update there ?_, _, listed, rfl, beyond, since⟩
    -- What lies further back than the start lies further back than the delay.
    by_contra before
    have early := within (now - alarm.condition.delayGate.start (alarm.outcome value).active now)
      (by simp only at before ⊢; omega)
    exact absurd (early.symm.trans beyond) (by decide)

theorem Pending.step {state after : LimitAlarm F × List Update} {op : F.F64 × ℤ}
    (pending : Pending onDelayMs offDelayMs state) (inOrder : InOrder state op)
    (undisturbed : Undisturbed state op)
    (stepped : (machine.observed noteUpdate).step state op = some after) :
    Pending onDelayMs offDelayMs after := by
  obtain ⟨alarm, history⟩ := state
  obtain ⟨updated, noted⟩ := Machine.observed_step_eq_some.mp stepped
  obtain ⟨alarm', history'⟩ := after
  simp only [machine, Option.some.injEq] at updated
  simp only [noteUpdate] at noted
  subst updated noted
  obtain ⟨enabled, onDelay, offDelay, gate⟩ :=
    updateValueAt_spec op.1 op.2 pending.enabled
  refine ⟨enabled, onDelay.trans pending.onDelay, offDelay.trans pending.offDelay, ?_, ?_⟩
  · obtain ⟨-, active, same⟩ | ⟨differs, active, committed⟩ := gate
    · exact (congrArg _ same).trans (pending.committed.trans active.symm)
    · simp only [active, committed]
      rcases alarm.condition.gateActive_cases (pending.committed ▸ differs) op.2 alarm.onDelayMs
        alarm.offDelayMs with ⟨-, gated⟩ | ⟨-, gated⟩
      · rw [gated]
        exact pending.committed
      · rw [gated]
  · intro desired started found
    obtain ⟨agrees, active, same⟩ | ⟨differs, active, same⟩ := gate
    · simp only [same] at found
      rw [undisturbed.1 agrees] at found
      cases found
    · obtain ⟨low, high, listed, since⟩ := pending.start inOrder undisturbed differs
      simp only [active, same] at found ⊢
      rcases alarm.condition.gateActive_cases (pending.committed ▸ differs) op.2 alarm.onDelayMs
        alarm.offDelayMs with ⟨-, gated⟩ | ⟨-, gated⟩
      · rw [gated] at found ⊢
        cases found
        exact ⟨differs, low, high, listed, since⟩
      · rw [gated] at found
        cases found

theorem create_pending (config : LimitConfig F) (onDelayMs offDelayMs reAlarmMs : F.F64) :
    Pending onDelayMs offDelayMs (create config onDelayMs offDelayMs reAlarmMs, []) where
  enabled := rfl
  onDelay := rfl
  offDelay := rfl
  committed := rfl
  pending := fun _ _ found => by cases found

/-- **The delays are honoured:** in a run of undisturbed updates from a new alarm, whatever change
an update commits, the updates so far evaluated it without interruption for as long as its delay. -/
theorem updateValueAt_persisted {config : LimitConfig F} {onDelayMs offDelayMs reAlarmMs : F.F64}
    {ops : List (F.F64 × ℤ)} {alarm : LimitAlarm F} {history : List Update}
    (guarded : (machine.observed noteUpdate).Guarded
      (fun state op => InOrder state op ∧ Undisturbed state op)
      (create config onDelayMs offDelayMs reAlarmMs, []) (ops ++ [(value, now)]))
    (ran : (machine.observed noteUpdate).run
      (create config onDelayMs offDelayMs reAlarmMs, []) ops =
      some (alarm, history))
    (changes : (alarm.updateValueAt value now).2.condition.active ≠ alarm.condition.active) :
    let desired := (alarm.updateValueAt value now).2.condition.active
    Persisted (if desired then onDelayMs else offDelayMs) desired now
      (history ++ [⟨now, (alarm.outcome value).active⟩]) := by
  have pending : Pending onDelayMs offDelayMs (alarm, history) :=
    (machine.observed noteUpdate).run_invariant_of_guarded
      (fun _ _ _ pending meets => pending.step meets.1 meets.2)
      (create_pending config onDelayMs offDelayMs reAlarmMs) (Machine.Guarded.left _ guarded) ran
  obtain ⟨inOrder, undisturbed⟩ := (Machine.Guarded.right _ guarded ran).1
  exact pending.persisted inOrder undisturbed changes

/-- An alarm above 100, with a second to wait before it is active and half a second after that. -/
def highAlarm : LimitAlarm .integers :=
  create (F := .integers) ⟨.exclusive, none, some ⟨(100 : ℤ), (1 : ℤ), 500⟩, none, none⟩
    (1000 : ℤ) (500 : ℤ) (0 : ℤ)

theorem updateValueAt_persisted_high :
    ∃ alarm history, (machine.observed noteUpdate).run (highAlarm, []) [((105 : ℤ), 0)] =
        some (alarm, history) ∧
      (alarm.updateValueAt (105 : ℤ) 11000000).2.condition.active = true ∧
      Persisted (F := .integers) (1000 : ℤ) true 11000000 (history ++ [⟨11000000, true⟩]) := by
  have guarded : (machine.observed noteUpdate).Guarded
      (fun state op => InOrder state op ∧ Undisturbed state op) (highAlarm, [])
      ([((105 : ℤ), 0)] ++ [((105 : ℤ), 11000000)]) := by
    refine ⟨⟨⟨by decide, by decide, by decide⟩, by decide, by decide⟩, fun state stepped => ?_⟩
    obtain rfl := Option.some.inj stepped
    exact ⟨⟨⟨by decide, by decide, by decide⟩, by decide, by decide⟩, fun _ _ => trivial⟩
  exact ⟨_, _, rfl, rfl, updateValueAt_persisted guarded rfl (by decide)⟩

/-- **An interruption that the gate does not see:** the value is above the limit, below it, and
above it again, and the alarm becomes active as if the value had been above it all the time. -/
theorem updateValueAt_interrupted :
    ∃ alarm history, (machine.observed noteUpdate).run (highAlarm, [])
        [((105 : ℤ), 0), ((50 : ℤ), 4000000)] = some (alarm, history) ∧
      alarm.condition.active = false ∧
      (alarm.updateValueAt (105 : ℤ) 11000000).2.condition.active = true ∧
      ¬ Persisted (F := .integers) (1000 : ℤ) true 11000000 (history ++ [⟨11000000, true⟩]) := by
  refine ⟨_, _, rfl, rfl, rfl, fun persisted => ?_⟩
  have within : WithinDelay (F := .integers) (1000 : ℤ) (11000000 - 4000000) := by
    intro fewer less
    have small : fewer / 10000 < 1000 := by omega
    show decide (fewer / 10000 < (1000 : ℤ)) = true
    exact decide_eq_true small
  exact absurd (persisted.1 ⟨4000000, false⟩ (by decide) within) (by decide)

end LimitAlarm

end AsyncOpcua.Alarms
