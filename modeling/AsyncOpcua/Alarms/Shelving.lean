/-
**Shelving and suppression, and what is shown of them.**

Some variables of a condition follow from others; each change writes anew those that it may concern.
Clients that write such a variable themselves are left out, and so are the transition times.

* `shown_current` — nothing that is shown is ever out of date;
* `shelved_until_unshelved` — only `unshelve` ends a shelving.
-/

import AsyncOpcua.Alarms.LimitAlarm
import AsyncOpcua.Foundation.Transition
import AsyncOpcua.Types.DataValue

namespace AsyncOpcua.Alarms

open Types Foundation

inductive ShelvingState where
  | unshelved
  | oneShotShelved
  | timedShelved
  deriving DecidableEq

/-- **A condition with the states that take it from the operator's sight.** -/
structure ShelvedCondition (F : Floats) extends ConditionStateMachine where
  suppressed : Bool
  outOfService : Bool
  shelvingState : ShelvingState
  unshelveTime : F.F64
  suppressedOrShelved : Bool
  audibleEnabled : Bool
  effectiveDisplayName : String

namespace ShelvedCondition

variable {F : Floats}

/-- `create_in_address_space`. -/
def create : ShelvedCondition F where
  toConditionStateMachine := .create
  suppressed := false
  outOfService := false
  shelvingState := .unshelved
  unshelveTime := F.zero
  suppressedOrShelved := false
  audibleEnabled := false
  effectiveDisplayName := "Inactive"

def effectiveText : (active shelved suppressed acked : Bool) → String
  | false, _, _, _ => "Inactive"
  | true, true, _, _ => "Shelved"
  | true, _, true, _ => "Suppressed"
  | true, false, false, false => "Active | Unacknowledged"
  | true, false, false, true => "Active | Acknowledged"

variable (c : ShelvedCondition F)

def isShelved : Bool := c.shelvingState != .unshelved

def recomputeEffectiveState : ShelvedCondition F :=
  { c with
    effectiveDisplayName :=
      effectiveText c.active c.isShelved (c.suppressed || c.outOfService) c.acked }

def recomputeAudibleEnabled : ShelvedCondition F :=
  { c with audibleEnabled := c.active && !c.acked && !c.silenced }

def recomputeSuppressedOrShelved : ShelvedCondition F :=
  recomputeEffectiveState
    { c with suppressedOrShelved := c.suppressed || c.outOfService || c.isShelved }

def setActive (active : Bool) : ShelvedCondition F :=
  (recomputeEffectiveState { c with active }).recomputeAudibleEnabled

def setAcked (acked : Bool) : ShelvedCondition F :=
  (recomputeEffectiveState { c with acked }).recomputeAudibleEnabled

def setSilenced (silenced : Bool) : ShelvedCondition F :=
  recomputeAudibleEnabled { c with silenced }

def setSuppressed (suppressed : Bool) : ShelvedCondition F :=
  recomputeSuppressedOrShelved { c with suppressed }

def setOutOfService (outOfService : Bool) : ShelvedCondition F :=
  recomputeSuppressedOrShelved { c with outOfService }

def setShelvingState (shelvingState : ShelvingState) : ShelvedCondition F :=
  recomputeSuppressedOrShelved { c with shelvingState }

def setUnshelveTime (unshelveTime : F.F64) : ShelvedCondition F := { c with unshelveTime }

def oneShotShelve : StatusCode × ShelvedCondition F :=
  if c.shelvingState = .oneShotShelved then (StatusCode.BadConditionAlreadyShelved, c)
  else
    (StatusCode.Good,
      ((c.setShelvingState .oneShotShelved).setUnshelveTime F.zero).recomputeSuppressedOrShelved)

def timedShelve (shelvingTimeMs : F.F64) : StatusCode × ShelvedCondition F :=
  if F.le shelvingTimeMs F.zero then (StatusCode.BadShelvingTimeOutOfRange, c)
  else if c.shelvingState = .timedShelved then (StatusCode.BadConditionAlreadyShelved, c)
  else
    (StatusCode.Good,
      ((c.setShelvingState .timedShelved).setUnshelveTime
        shelvingTimeMs).recomputeSuppressedOrShelved)

def unshelve : StatusCode × ShelvedCondition F :=
  if c.shelvingState = .unshelved then (StatusCode.BadConditionNotShelved, c)
  else
    (StatusCode.Good,
      ((c.setShelvingState .unshelved).setUnshelveTime F.zero).recomputeSuppressedOrShelved)

/-- What transitions, acknowledgements and the methods of a client are made of. -/
inductive ShelvingOp (F : Floats) where
  | setActive (active : Bool)
  | setAcked (acked : Bool)
  | setSilenced (silenced : Bool)
  | setSuppressed (suppressed : Bool)
  | setOutOfService (outOfService : Bool)
  | oneShotShelve
  | timedShelve (shelvingTimeMs : F.F64)
  | unshelve

def apply : ShelvingOp F → ShelvedCondition F
  | .setActive active => c.setActive active
  | .setAcked acked => c.setAcked acked
  | .setSilenced silenced => c.setSilenced silenced
  | .setSuppressed suppressed => c.setSuppressed suppressed
  | .setOutOfService outOfService => c.setOutOfService outOfService
  | .oneShotShelve => c.oneShotShelve.2
  | .timedShelve shelvingTimeMs => (c.timedShelve shelvingTimeMs).2
  | .unshelve => c.unshelve.2

def shelving (F : Floats) : Machine (ShelvedCondition F) (ShelvingOp F) where
  step c op := some (c.apply op)

/-- **What is shown is up to date,** and there is time left exactly while a shelving is timed. -/
structure Current : Prop where
  suppressedOrShelved : c.suppressedOrShelved = (c.suppressed || c.outOfService || c.isShelved)
  audibleEnabled : c.audibleEnabled = (c.active && !c.acked && !c.silenced)
  effectiveDisplayName : c.effectiveDisplayName =
    effectiveText c.active c.isShelved (c.suppressed || c.outOfService) c.acked
  timed : c.shelvingState = .timedShelved → F.le c.unshelveTime F.zero = false
  untimed : c.shelvingState ≠ .timedShelved → c.unshelveTime = F.zero

variable {c}

theorem Current.apply (current : c.Current) (op : ShelvingOp F) : (c.apply op).Current := by
  have kept := current
  obtain ⟨suppressed, audible, name, timed, untimed⟩ := current
  cases op with
  | setActive | setAcked => exact ⟨suppressed, rfl, rfl, timed, untimed⟩
  | setSilenced => exact ⟨suppressed, rfl, name, timed, untimed⟩
  | setSuppressed | setOutOfService => exact ⟨rfl, audible, rfl, timed, untimed⟩
  | oneShotShelve =>
    show c.oneShotShelve.2.Current
    unfold oneShotShelve
    split_ifs
    · exact kept
    · exact ⟨rfl, audible, rfl, nofun, fun _ => rfl⟩
  | timedShelve shelvingTimeMs =>
    show (c.timedShelve shelvingTimeMs).2.Current
    unfold timedShelve
    split_ifs with none
    · exact kept
    · exact kept
    · exact ⟨rfl, audible, rfl, fun _ => Bool.eq_false_iff.mpr none, fun other => absurd rfl other⟩
  | unshelve =>
    show c.unshelve.2.Current
    unfold unshelve
    split_ifs
    · exact kept
    · exact ⟨rfl, audible, rfl, nofun, fun _ => rfl⟩

/-- **Nothing that is shown of a condition is ever out of date,** whatever order it becomes active,
is acknowledged, silenced, suppressed, taken out of service and shelved in. -/
theorem shown_current (ops : List (ShelvingOp F)) :
    ∃ c, (shelving F).run create ops = some c ∧ c.Current := by
  suffices later : ∀ c : ShelvedCondition F, c.Current →
      ∃ d, (shelving F).run c ops = some d ∧ d.Current from
    later create ⟨rfl, rfl, rfl, nofun, fun _ => rfl⟩
  induction ops with
  | nil => exact fun c current => ⟨c, rfl, current⟩
  | cons op ops ih => exact fun c current => ih _ (current.apply op)

theorem isShelved_apply (shelved : c.isShelved = true) {op : ShelvingOp F}
    (other : op ≠ .unshelve) : (c.apply op).isShelved = true := by
  cases op with
  | unshelve => exact absurd rfl other
  | oneShotShelve =>
    show c.oneShotShelve.2.isShelved = true
    unfold oneShotShelve
    split_ifs
    · exact shelved
    · rfl
  | timedShelve shelvingTimeMs =>
    show (c.timedShelve shelvingTimeMs).2.isShelved = true
    unfold timedShelve
    split_ifs
    · exact shelved
    · exact shelved
    · rfl
  | _ => exact shelved

/-- **A shelving ends with `unshelve` only:** neither does a shelved condition come back when it
becomes inactive, as one shelved for one shot is said to, nor after its time. -/
theorem shelved_until_unshelved (shelved : c.isShelved = true) {ops : List (ShelvingOp F)}
    (kept : .unshelve ∉ ops) :
    ∃ d, (shelving F).run c ops = some d ∧ d.isShelved = true := by
  induction ops generalizing c with
  | nil => exact ⟨c, rfl, shelved⟩
  | cons op ops ih =>
    rw [List.mem_cons, not_or] at kept
    exact ih (isShelved_apply shelved (Ne.symm kept.1)) kept.2

/-- An alarm that is shelved for one shot, and goes. -/
theorem shelved_until_unshelved_inactive : ∃ d,
    (shelving .integers).run (create.apply .oneShotShelve) [.setActive true, .setActive false] =
      some d ∧ d.isShelved = true :=
  shelved_until_unshelved (by decide) (by simp)

end ShelvedCondition

end AsyncOpcua.Alarms
