/-
**Data-change filters: triggers, deadbands, and when a value counts as changed.**

Arrays change when their lengths differ or one element passes the deadband; the recursion follows
the variants.
-/

import AsyncOpcua.Types.DataValue

namespace AsyncOpcua.Subscriptions

open Types

inductive DataChangeTrigger where
  | status
  | statusValue
  | statusValueTimestamp

structure PercentDeadband (E : Externals) where
  low : E.F64
  range : E.F64
  trigger : E.F64

inductive Deadband (E : Externals) where
  | none
  | absolute (deadband : E.F64)
  | percent (deadband : PercentDeadband E)

structure ParsedDataChangeFilter (E : Externals) where
  trigger : DataChangeTrigger
  deadband : Deadband E

variable {E : Externals}

def PercentDeadband.updateEuRange (deadband : PercentDeadband E) (low high : E.F64) :
    PercentDeadband E :=
  { deadband with low := low, range := E.sub high low }

def Deadband.updateEuRange (deadband : Deadband E) (low high : E.F64) : Deadband E :=
  match deadband with
  | .percent percentDeadband => .percent (percentDeadband.updateEuRange low high)
  | other => other

/-- `Variant::as_f64`: numeric scalars have a reading, nothing else does. -/
def asF64 : E.Variant → Option E.F64
  | .scalar value => E.asF64 value
  | _ => none

/-- The comparison of two variants of which at most one is an array. -/
def Deadband.isChangedScalar (deadband : Deadband E) (v1 v2 : E.Variant) : Bool :=
  match deadband with
  | .none => !Variant.eq v1 v2
  | .absolute limit =>
    match asF64 v1, asF64 v2 with
    | some v1, some v2 => E.gt (E.abs (E.sub v1 v2)) limit
    | _, _ => true
  | .percent percentDeadband =>
    match asF64 v1, asF64 v2 with
    | some v1, some v2 =>
      let v1Pct := E.div (E.sub v1 percentDeadband.low) percentDeadband.range
      let v2Pct := E.div (E.sub v2 percentDeadband.low) percentDeadband.range
      E.gt (E.abs (E.sub v1Pct v2Pct)) percentDeadband.trigger
    | _, _ => true

mutual

def Deadband.isChanged (deadband : Deadband E) : E.Variant → E.Variant → Bool
  | .array _ v1 _, .array _ v2 _ =>
    if v1.length ≠ v2.length then true else Deadband.isChangedZip deadband v1 v2
  | v1, v2 => deadband.isChangedScalar v1 v2

/-- Some pair of elements at the same index has changed. -/
def Deadband.isChangedZip (deadband : Deadband E) : List E.Variant → List E.Variant → Bool
  | v1 :: rest1, v2 :: rest2 =>
    Deadband.isChanged deadband v1 v2 || Deadband.isChangedZip deadband rest1 rest2
  | _, _ => false

end

def Deadband.isChangedOption (deadband : Deadband E) : Option E.Variant → Option E.Variant → Bool
  | some v1, some v2 => deadband.isChanged v1 v2
  | .none, .none => false
  | _, _ => true

def ParsedDataChangeFilter.updateEuRange (filter : ParsedDataChangeFilter E) (low high : E.F64) :
    ParsedDataChangeFilter E :=
  { filter with deadband := filter.deadband.updateEuRange low high }

/-- Whether the filter considers `new` different from `old`. -/
def ParsedDataChangeFilter.isChanged (filter : ParsedDataChangeFilter E) (new old : E.DataValue) :
    Bool :=
  match filter.trigger with
  | .status => new.status != old.status
  | .statusValue =>
    new.status != old.status || filter.deadband.isChangedOption new.value old.value
  | .statusValueTimestamp =>
    new.status != old.status || new.sourceTimestamp != old.sourceTimestamp ||
      new.sourcePicoseconds != old.sourcePicoseconds ||
      filter.deadband.isChangedOption new.value old.value

end AsyncOpcua.Subscriptions
