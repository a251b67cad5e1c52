/-
**Acknowledging and confirming, and the retain flag over whole runs.**

The retain flag is computed anew by each operation, from fewer flags where an operation has just set
one. All these formulas agree as long as a confirmed condition is acknowledged.

* `acknowledgeAlarm`, `confirmAlarm`, `handleAddComment` — the operations besides updates;
* `condition_consistent` — what holds of the flags and of the events of every interleaving.
-/

import AsyncOpcua.Alarms.Delays
import AsyncOpcua.Types.DataValue

namespace AsyncOpcua.Alarms

open Types
open Foundation

namespace ConditionStateMachine

/-- What is to be retained: a condition that is active, or that waits for an operator. -/
def retained (active acked confirmed : Bool) : Bool := active || !acked || !confirmed

variable (condition : ConditionStateMachine)

def triggerAlarmTransition (active : Bool) (severity : ℕ)
    (message : String) : Option AlarmEvent × ConditionStateMachine :=
  if !condition.enabled then (none, condition)
  else if condition.active = active then (none, condition)
  else
    let condition := { condition with active, severity, message }
    -- An alarm that becomes active is to be acknowledged and confirmed again.
    let condition :=
      if active then { condition with acked := false, confirmed := false } else condition
    let retain := active || !condition.acked || !condition.confirmed
    (some {
      message, severity, retain
      activeState := active
      ackedState := condition.acked
      confirmedState := condition.confirmed }, { condition with retain })

def acknowledgeAlarm (comment : String) : Except StatusCode AlarmEvent × ConditionStateMachine :=
  if !condition.enabled then (.error StatusCode.BadConditionDisabled, condition)
  else if condition.acked then (.error StatusCode.BadConditionBranchAlreadyAcked, condition)
  else
    let retain := condition.active || !condition.confirmed
    let message := "Acknowledged: " ++ comment
    (.ok {
      message, retain
      severity := condition.severity
      activeState := condition.active
      ackedState := true
      confirmedState := condition.confirmed },
      { condition with message, retain, acked := true, silenced := true })

def confirmAlarm (comment : String) : Except StatusCode AlarmEvent × ConditionStateMachine :=
  if !condition.enabled then (.error StatusCode.BadConditionDisabled, condition)
  else if !condition.acked then (.error StatusCode.BadInvalidState, condition)
  else if condition.confirmed then (.error StatusCode.BadConditionBranchAlreadyConfirmed, condition)
  else
    let retain := condition.active
    let message := "Confirmed: " ++ comment
    (.ok {
      message, retain
      severity := condition.severity
      activeState := condition.active
      ackedState := true
      confirmedState := true }, { condition with message, retain, confirmed := true })

/-- The event of `handle_ack_method`, once the alarm is acknowledged. -/
def ackEvent (comment : String) : AlarmEvent where
  message := comment
  severity := condition.severity
  activeState := condition.active
  ackedState := true
  confirmedState := condition.confirmed
  retain := condition.active || !condition.confirmed

def handleAddComment (comment : String) : AlarmEvent where
  message := comment
  severity := condition.severity
  activeState := condition.active
  ackedState := condition.acked
  confirmedState := condition.confirmed
  retain := condition.active || !condition.confirmed

/-- **The invariant.** -/
structure Consistent (condition : ConditionStateMachine) : Prop where
  acked : condition.confirmed = true → condition.acked = true
  retain : condition.retain = retained condition.active condition.acked condition.confirmed

end ConditionStateMachine

structure AlarmEvent.Shows (event : AlarmEvent) (condition : ConditionStateMachine) : Prop where
  active : event.activeState = condition.active
  acked : event.ackedState = condition.acked
  confirmed : event.confirmedState = condition.confirmed
  retain : event.retain =
    ConditionStateMachine.retained event.activeState event.ackedState event.confirmedState

/-! ### Operations on a condition -/

namespace ConditionStateMachine

variable {F : Floats} {condition : ConditionStateMachine}

/-- Where a confirmed condition is acknowledged, the formula without the acknowledged flag will do.
-/
theorem retained_of_acked {active acked confirmed : Bool}
    (implied : confirmed = true → acked = true) :
    retained active acked confirmed = (active || !confirmed) := by
  cases confirmed with
  | false => simp [retained]
  | true => rw [implied rfl]; simp [retained]

theorem Consistent.triggerAlarmTransition (consistent : condition.Consistent) (active : Bool)
    (severity : ℕ) (message : String) :
    (condition.triggerAlarmTransition active severity message).2.Consistent ∧
      ∀ event, (condition.triggerAlarmTransition active severity message).1 = some event →
        event.Shows (condition.triggerAlarmTransition active severity message).2 := by
  unfold ConditionStateMachine.triggerAlarmTransition
  split_ifs
  · exact ⟨consistent, nofun⟩
  · exact ⟨consistent, nofun⟩
  · refine ⟨⟨nofun, rfl⟩, fun event same => ?_⟩
    cases same
    exact ⟨rfl, rfl, rfl, rfl⟩
  · refine ⟨⟨consistent.acked, rfl⟩, fun event same => ?_⟩
    cases same
    exact ⟨rfl, rfl, rfl, rfl⟩

section

variable (consistent : condition.Consistent) (comment : String)
include consistent

theorem Consistent.acknowledgeAlarm :
    (condition.acknowledgeAlarm comment).2.Consistent ∧
      ∀ event, (condition.acknowledgeAlarm comment).1 = .ok event →
        event.Shows (condition.acknowledgeAlarm comment).2 := by
  unfold ConditionStateMachine.acknowledgeAlarm
  split_ifs
  · exact ⟨consistent, nofun⟩
  · exact ⟨consistent, nofun⟩
  · have formula : (condition.active || !condition.confirmed) =
        retained condition.active true condition.confirmed := (retained_of_acked fun _ => rfl).symm
    refine ⟨⟨fun _ => rfl, formula⟩, fun event same => ?_⟩
    cases same
    exact ⟨rfl, rfl, rfl, formula⟩

theorem Consistent.confirmAlarm :
    (condition.confirmAlarm comment).2.Consistent ∧
      ∀ event, (condition.confirmAlarm comment).1 = .ok event →
        event.Shows (condition.confirmAlarm comment).2 := by
  unfold ConditionStateMachine.confirmAlarm
  split_ifs with _ waiting _
  · exact ⟨consistent, nofun⟩
  · exact ⟨consistent, nofun⟩
  · exact ⟨consistent, nofun⟩
  · have acked : condition.acked = true := by simpa using waiting
    have formula : condition.active = retained condition.active true true := by simp [retained]
    refine ⟨⟨fun _ => acked, ?_⟩, fun event same => ?_⟩
    · rw [acked]
      exact formula
    · cases same
      exact ⟨rfl, acked.symm, rfl, formula⟩

theorem Consistent.handleAddComment : (condition.handleAddComment comment).Shows condition :=
  ⟨rfl, rfl, rfl, (retained_of_acked consistent.acked).symm⟩

end

theorem ackEvent_shows (acked : condition.acked = true) (comment : String) :
    (condition.ackEvent comment).Shows condition :=
  ⟨rfl, acked.symm, rfl, (retained_of_acked fun _ => rfl).symm⟩

theorem Consistent.let_go (consistent : condition.Consistent) (enabled : condition.enabled = true)
    (inactive : condition.active = false) (comment comment' : String) :
    ((condition.acknowledgeAlarm comment).2.confirmAlarm comment').2.retain = false := by
  have retain := consistent.retain
  rw [inactive] at retain
  unfold ConditionStateMachine.acknowledgeAlarm ConditionStateMachine.confirmAlarm
  cases acked : condition.acked with
  | false =>
    have confirmed : condition.confirmed = false := by
      by_contra confirmed
      rw [consistent.acked (by simpa using confirmed)] at acked
      cases acked
    simp [enabled, confirmed, inactive]
  | true =>
    cases confirmed : condition.confirmed with
    | false => simp [enabled, acked, confirmed, inactive]
    | true => simp [enabled, acked, confirmed, retain, retained]

section

variable (condition : ConditionStateMachine)

theorem triggerAlarmTransition_enabled (active : Bool) (severity : ℕ) (message : String) :
    (condition.triggerAlarmTransition active severity message).2.enabled = condition.enabled := by
  unfold ConditionStateMachine.triggerAlarmTransition
  split_ifs <;> rfl

theorem acknowledgeAlarm_enabled (comment : String) :
    (condition.acknowledgeAlarm comment).2.enabled = condition.enabled := by
  unfold ConditionStateMachine.acknowledgeAlarm
  split_ifs <;> rfl

theorem confirmAlarm_enabled (comment : String) :
    (condition.confirmAlarm comment).2.enabled = condition.enabled := by
  unfold ConditionStateMachine.confirmAlarm
  split_ifs <;> rfl

end

theorem acknowledgeAlarm_acked {comment : String} {event : AlarmEvent}
    (done : (condition.acknowledgeAlarm comment).1 = .ok event) :
    (condition.acknowledgeAlarm comment).2.acked = true := by
  unfold ConditionStateMachine.acknowledgeAlarm at done ⊢
  split_ifs at done ⊢
  rfl

/-! ### Parts of an update -/

theorem gateActive_flags (condition : ConditionStateMachine) (desired : Bool) (now : ℤ)
    (onDelayMs offDelayMs : F.F64) :
    ((condition.gateActive desired now onDelayMs offDelayMs).1 = none ∧
      (condition.gateActive desired now onDelayMs offDelayMs).2 = { condition with
        delayGate := (condition.gateActive desired now onDelayMs offDelayMs).2.delayGate }) ∨
    ((condition.gateActive desired now onDelayMs offDelayMs).1 = some desired ∧
      (condition.gateActive desired now onDelayMs offDelayMs).2 = { condition with
        delayGate := ⟨desired, none⟩, active := desired }) := by
  by_cases same : desired = condition.delayGate.committed
  · left
    unfold gateActive
    rw [if_pos same]
    exact ⟨rfl, rfl⟩
  · rcases gateActive_cases condition same now onDelayMs offDelayMs with ⟨_, eq⟩ | ⟨_, eq⟩
    · rw [eq]
      exact .inl ⟨rfl, rfl⟩
    · rw [eq]
      exact .inr ⟨rfl, rfl⟩

theorem maybeReAlarm_flags (condition : ConditionStateMachine) (now : ℤ) (reAlarmMs : F.F64) :
    condition.maybeReAlarm now reAlarmMs = (false, condition) ∨
      ∃ count, condition.maybeReAlarm now reAlarmMs = (true, { condition with
        lastAlarmTime := some now, reAlarmRepeatCount := count, acked := false, confirmed := false,
        silenced := false }) := by
  unfold maybeReAlarm
  split_ifs
  · exact .inl rfl
  · cases condition.lastAlarmTime with
    | none => exact .inl rfl
    | some started =>
      dsimp only
      split_ifs
      · exact .inl rfl
      · exact .inr ⟨_, rfl⟩

end ConditionStateMachine

namespace LimitAlarm

open ConditionStateMachine
open Machine (toOption_eq_some)

variable {F : Floats} {alarm : LimitAlarm F}

theorem updateValueAt_cases (enabled : alarm.condition.enabled = true) (value : F.F64) (now : ℤ) :
    ((alarm.updateValueAt value now).1 = none ∧ ∃ delayGate,
      (alarm.updateValueAt value now).2.condition = { alarm.condition with delayGate }) ∨
    ∃ condition reAlarmed, condition.enabled = true ∧
      (condition.acked = alarm.condition.acked ∧ condition.confirmed = alarm.condition.confirmed ∨
        condition.confirmed = false) ∧
      alarm.updateValueAt value now =
        (some (report condition (alarm.outcome value) alarm.condition.active alarm.condition.acked
          condition.active reAlarmed).1,
        { alarm with
          prev := (alarm.outcome value).limits
          condition := (report condition (alarm.outcome value) alarm.condition.active
            alarm.condition.acked condition.active reAlarmed).2 }) := by
  unfold updateValueAt
  rw [enabled]
  dsimp only
  split_ifs with disabled idle changes still
  · cases disabled
  · exact .inl ⟨rfl, _, rfl⟩
  · -- The gate is asked.
    have flags := gateActive_flags alarm.condition (alarm.outcome value).active now alarm.onDelayMs
      alarm.offDelayMs
    generalize alarm.condition.gateActive (alarm.outcome value).active now alarm.onDelayMs
      alarm.offDelayMs = result at flags
    obtain ⟨committed, condition⟩ := result
    rcases flags with ⟨rfl, eq⟩ | ⟨rfl, eq⟩
    · exact .inl ⟨rfl, _, eq⟩
    · have eq : condition = { alarm.condition with
          delayGate := ⟨(alarm.outcome value).active, none⟩
          active := (alarm.outcome value).active } := eq
      subst eq
      exact .inr ⟨resetReAlarm { alarm.condition with
        delayGate := ⟨(alarm.outcome value).active, none⟩
        active := (alarm.outcome value).active } (alarm.outcome value).active now, false, enabled,
        .inl ⟨rfl, rfl⟩, rfl⟩
  · -- The alarm is alarmed again, if it is time.
    rcases maybeReAlarm_flags alarm.condition now alarm.reAlarmMs with eq | ⟨count, eq⟩
    · rw [eq]
      exact .inl ⟨rfl, _, rfl⟩
    · rw [eq]
      exact .inr ⟨{ alarm.condition with
        lastAlarmTime := some now, reAlarmRepeatCount := count, acked := false, confirmed := false,
        silenced := false }, true, enabled, .inr rfl, rfl⟩
  · exact .inr ⟨alarm.condition, false, enabled, .inl ⟨rfl, rfl⟩, rfl⟩

theorem report_consistent {condition : ConditionStateMachine} (outcome : LimitOutcome)
    (wasActive wasAcked reAlarmed : Bool)
    (implied : condition.confirmed = true → condition.acked = true) :
    (report condition outcome wasActive wasAcked condition.active reAlarmed).2.Consistent ∧
      (report condition outcome wasActive wasAcked condition.active reAlarmed).1.Shows
        (report condition outcome wasActive wasAcked condition.active reAlarmed).2 ∧
      (report condition outcome wasActive wasAcked condition.active reAlarmed).2.enabled =
        condition.enabled := by
  unfold report createBranch
  split_ifs
  · exact ⟨⟨nofun, rfl⟩, ⟨rfl, rfl, rfl, rfl⟩, rfl⟩
  · exact ⟨⟨implied, rfl⟩, ⟨rfl, rfl, rfl, rfl⟩, rfl⟩
  · exact ⟨⟨nofun, rfl⟩, ⟨rfl, rfl, rfl, rfl⟩, rfl⟩
  · exact ⟨⟨implied, rfl⟩, ⟨rfl, rfl, rfl, rfl⟩, rfl⟩

theorem updateValueAt_consistent (consistent : alarm.condition.Consistent)
    (enabled : alarm.condition.enabled = true) (value : F.F64) (now : ℤ) :
    (alarm.updateValueAt value now).2.condition.Consistent ∧
      (alarm.updateValueAt value now).2.condition.enabled = true ∧
      ∀ event, (alarm.updateValueAt value now).1 = some event →
        event.Shows (alarm.updateValueAt value now).2.condition := by
  rcases updateValueAt_cases enabled value now with
    ⟨silent, delayGate, same⟩ | ⟨condition, reAlarmed, stays, flags, eq⟩
  · rw [silent, same]
    exact ⟨⟨consistent.acked, consistent.retain⟩, enabled, nofun⟩
  · have implied : condition.confirmed = true → condition.acked = true := by
      rcases flags with ⟨acked, confirmed⟩ | unconfirmed
      · rw [acked, confirmed]
        exact consistent.acked
      · rw [unconfirmed]
        exact nofun
    obtain ⟨kept, shows', same⟩ := report_consistent (alarm.outcome value) alarm.condition.active
      alarm.condition.acked reAlarmed implied
    rw [eq]
    refine ⟨kept, same.trans stays, fun event there => ?_⟩
    cases there
    exact shows'

/-! ### Runs -/

inductive AlarmOp (F : Floats)
  | update (value : F.F64) (now : ℤ)
  | trigger (active : Bool) (severity : ℕ) (message : String)
  | acknowledge (comment : String)
  | handleAck (comment : String)
  | confirm (comment : String)
  | addComment (comment : String)

def onCondition (alarm : LimitAlarm F)
    (result : Option AlarmEvent × ConditionStateMachine) : Option AlarmEvent × LimitAlarm F :=
  (result.1, { alarm with condition := result.2 })

def apply (alarm : LimitAlarm F) : AlarmOp F → Option AlarmEvent × LimitAlarm F
  | .update value now => alarm.updateValueAt value now
  | .trigger active severity message =>
    alarm.onCondition (alarm.condition.triggerAlarmTransition active severity message)
  | .acknowledge comment =>
    let result := alarm.condition.acknowledgeAlarm comment
    alarm.onCondition (result.1.toOption, result.2)
  | .handleAck comment =>
    let result := alarm.condition.acknowledgeAlarm comment
    alarm.onCondition (result.1.toOption.map fun _ => result.2.ackEvent comment, result.2)
  | .confirm comment =>
    let result := alarm.condition.confirmAlarm comment
    alarm.onCondition (result.1.toOption, result.2)
  | .addComment comment => alarm.onCondition (some (alarm.condition.handleAddComment comment),
      alarm.condition)

def operations : Machine (LimitAlarm F) (AlarmOp F) where
  step alarm op := some (alarm.apply op).2

structure Settled (alarm : LimitAlarm F) : Prop where
  enabled : alarm.condition.enabled = true
  inactive : alarm.condition.active = false
  acked : alarm.condition.acked = true
  confirmed : alarm.condition.confirmed = true
  released : alarm.condition.retain = false

theorem Settled.consistent (settled : alarm.Settled) : alarm.condition.Consistent where
  acked _ := settled.acked
  retain := by
    rw [settled.released, settled.inactive, settled.acked, settled.confirmed]
    rfl

theorem apply_consistent (consistent : alarm.condition.Consistent)
    (enabled : alarm.condition.enabled = true) (op : AlarmOp F) :
    (alarm.apply op).2.condition.Consistent ∧ (alarm.apply op).2.condition.enabled = true ∧
      ∀ event, (alarm.apply op).1 = some event → event.Shows (alarm.apply op).2.condition := by
  cases op with
  | update value now => exact updateValueAt_consistent consistent enabled value now
  | trigger active severity message =>
    obtain ⟨kept, shown⟩ := consistent.triggerAlarmTransition active severity message
    exact ⟨kept, (triggerAlarmTransition_enabled ..).trans enabled, shown⟩
  | acknowledge comment =>
    obtain ⟨kept, shown⟩ := consistent.acknowledgeAlarm comment
    exact ⟨kept, (acknowledgeAlarm_enabled ..).trans enabled, fun event there =>
      shown event (toOption_eq_some.mp there)⟩
  | handleAck comment =>
    obtain ⟨kept, _⟩ := consistent.acknowledgeAlarm comment
    refine ⟨kept, (acknowledgeAlarm_enabled ..).trans enabled, fun event there => ?_⟩
    obtain ⟨first, done, rfl⟩ := Option.map_eq_some_iff.mp there
    exact ackEvent_shows (acknowledgeAlarm_acked (toOption_eq_some.mp done)) comment
  | confirm comment =>
    obtain ⟨kept, shown⟩ := consistent.confirmAlarm comment
    exact ⟨kept, (confirmAlarm_enabled ..).trans enabled, fun event there =>
      shown event (toOption_eq_some.mp there)⟩
  | addComment comment =>
    refine ⟨consistent, enabled, fun event there => ?_⟩
    cases there
    exact consistent.handleAddComment comment

/-- **The state of a condition stays consistent,** for every configuration of limits and delays and
in every interleaving of updates, acknowledgements, confirmations and comments: confirmed implies
acknowledged; the retain flag and that of every event tell whether the condition is active, not
acknowledged or not confirmed; and an inactive alarm is let go by acknowledging and confirming it.
-/
theorem condition_consistent {started : LimitAlarm F} {ops : List (AlarmOp F)}
    (settled : started.Settled) (ran : operations.run started ops = some alarm) :
    (alarm.condition.confirmed = true → alarm.condition.acked = true) ∧
    alarm.condition.retain = retained alarm.condition.active alarm.condition.acked
      alarm.condition.confirmed ∧
    (∀ op event, (alarm.apply op).1 = some event → event.Shows (alarm.apply op).2.condition) ∧
    (alarm.condition.active = false → ∀ comment comment',
      ((alarm.condition.acknowledgeAlarm comment).2.confirmAlarm comment').2.retain = false) := by
  have keeps : ∀ (alarm : LimitAlarm F) op next,
      alarm.condition.Consistent ∧ alarm.condition.enabled = true →
      operations.step alarm op = some next →
      next.condition.Consistent ∧ next.condition.enabled = true := by
    intro alarm op next kept stepped
    obtain ⟨later, stays, _⟩ := apply_consistent kept.1 kept.2 op
    cases stepped
    exact ⟨later, stays⟩
  obtain ⟨consistent, enabled⟩ := operations.run_invariant keeps
    ⟨settled.consistent, settled.enabled⟩ ran
  exact ⟨consistent.acked, consistent.retain,
    fun op => (apply_consistent consistent enabled op).2.2,
    fun inactive comment comment' => consistent.let_go enabled inactive comment comment'⟩

def settledAlarm : LimitAlarm .integers :=
  { highAlarm with condition := { highAlarm.condition with acked := true, confirmed := true } }

/-- The value stays above the limit for longer than a second, and returns to normal. -/
def disturbance : List (AlarmOp .integers) :=
  [.update (105 : ℤ) 0, .update (105 : ℤ) 11000000, .acknowledge "seen", .update (50 : ℤ) 20000000,
    .update (50 : ℤ) 30000000]

theorem condition_consistent_disturbance : ∃ alarm,
    operations.run settledAlarm disturbance = some alarm ∧ alarm.condition.active = false ∧
      alarm.condition.retain = true ∧
      ((alarm.condition.acknowledgeAlarm "").2.confirmAlarm "").2.retain = false := by
  have settled : settledAlarm.Settled := ⟨rfl, rfl, rfl, rfl, rfl⟩
  obtain ⟨alarm, ran⟩ : ∃ alarm, operations.run settledAlarm disturbance = some alarm := ⟨_, rfl⟩
  have inactive : alarm.condition.active = false := by
    cases ran
    rfl
  refine ⟨alarm, ran, inactive, ?_, (condition_consistent settled ran).2.2.2 inactive "" ""⟩
  cases ran
  rfl

end LimitAlarm

end AsyncOpcua.Alarms
