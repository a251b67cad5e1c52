/-
**Processed history: the intervals of a range, and the count of the values in one.**

* `partitionIntervals` — a range is cut forwards or backwards; `none` is a loop without end or a
  panic;
* `aggCount` — the aggregate that counts the good values of an interval.
-/

import AsyncOpcua.Types.DataValue

namespace AsyncOpcua.Aggregates

open Types

/-- **What the engine takes from elsewhere:** `f64`, the variant that holds a number, and the
configuration of an aggregate. -/
structure EngineExternals (E : Externals) where
  ofInt : ℤ → E.F64
  /-- `x as i64`. -/
  toInt : E.F64 → ℤ
  add : E.F64 → E.F64 → E.F64
  mul : E.F64 → E.F64 → E.F64
  le : E.F64 → E.F64 → Bool
  int32 : BitVec 32 → E.Scalar
  treatUncertainAsBad : E.AggregateConfiguration → Bool
  percentDataBad : E.AggregateConfiguration → ℕ
  percentDataGood : E.AggregateConfiguration → ℕ

variable {E : Externals}

abbrev Input (E : Externals) := AggregateInput E.Variant E.AggregateConfiguration

/-! ### The partition of a range -/

section Partition

variable (X : EngineExternals E)

/-- `curr + step` on times; `none` outside chrono's range, where the addition panics. -/
def addDuration (time step : ℤ) : Option ℤ := (checkedAddSigned time step).map dateTimeFrom

/-- The loop from `curr` up to `endTime`; `none` when `fuel` rounds do not get there. -/
def partitionForward (step endTime : ℤ) : ℕ → ℤ → Option (List (ℤ × ℤ))
  | fuel, curr =>
    if curr < endTime then
      match fuel with
      | 0 => none
      | fuel + 1 =>
        (addDuration curr step).bind fun next =>
          let actualNext := if endTime < next then endTime else next
          (partitionForward step endTime fuel actualNext).map ((curr, actualNext) :: ·)
    else some []

/-- The loop from `curr` down to `endTime`. -/
def partitionBackward (step endTime : ℤ) : ℕ → ℤ → Option (List (ℤ × ℤ))
  | fuel, curr =>
    if endTime < curr then
      match fuel with
      | 0 => none
      | fuel + 1 =>
        (addDuration curr (-step)).bind fun next =>
          let actualNext := if next < endTime then endTime else next
          (partitionBackward step endTime fuel actualNext).map ((curr, actualNext) :: ·)
    else some []

/-- **`partition_intervals`.** A round moves by a tick at least if it moves at all, so
`|end - start|` rounds are enough if any number is; `none` is a loop without end or a panic. -/
def partitionIntervals (startTime endTime : ℤ) (processingInterval : E.F64) :
    Option (List (ℤ × ℤ)) :=
  if X.le processingInterval (X.ofInt 0) then some [(startTime, endTime)]
  else
    let step := X.toInt processingInterval * 1000000
    if startTime ≤ endTime then
      partitionForward step endTime (endTime - startTime).toNat startTime
    else partitionBackward step endTime (startTime - endTime).toNat startTime

end Partition

/-! ### The count of an interval -/

section Count

variable (X : EngineExternals E) (now : ℤ)

/-- `is_none_or(is_good)`: an absent status is good. -/
def isGoodValue (value : E.DataValue) : Bool := value.status.all StatusCode.isGood

variable (input : Input E)

def goodStatusPointCount : ℕ := input.values.countP isGoodValue

def aggregateStatusCalc (amounts : E.F64 × E.F64 × E.F64) (config : E.AggregateConfiguration) :
    StatusCode :=
  let (good, uncertain, bad) := amounts
  let total := X.add (X.add good uncertain) bad
  let zero := X.ofInt 0
  if X.le total zero then StatusCode.BadNoData
  else
    let (goodAmount, badAmount) :=
      if X.treatUncertainAsBad config then (good, X.add bad uncertain)
      else (X.add good uncertain, bad)
    if X.le badAmount zero then StatusCode.Good
    else
      let hundred := X.ofInt 100
      let percentDataBad :=
        if X.percentDataBad config = 0 then hundred else X.ofInt (X.percentDataBad config)
      let percentDataGood :=
        if X.percentDataGood config = 0 then hundred else X.ofInt (X.percentDataGood config)
      if X.le percentDataBad (X.mul (E.div badAmount total) hundred) then StatusCode.Bad
      else if X.le percentDataGood (X.mul (E.div goodAmount total) hundred) then StatusCode.Good
      else StatusCode.UncertainDataSubNormal

def addAmount (amounts : E.F64 × E.F64 × E.F64) (status : StatusCode) (amount : E.F64) :
    E.F64 × E.F64 × E.F64 :=
  let (good, uncertain, bad) := amounts
  if status.isGood then (X.add good amount, uncertain, bad)
  else if status.isBad then (good, uncertain, X.add bad amount)
  else (good, X.add uncertain amount, bad)

def noAmounts : E.F64 × E.F64 × E.F64 := (X.ofInt 0, X.ofInt 0, X.ofInt 0)

def rawValueStatusAmounts : E.F64 × E.F64 × E.F64 :=
  input.values.foldl
    (fun amounts value => addAmount X amounts (value.status.getD StatusCode.Good) (X.ofInt 1))
    (noAmounts X)

def percentValuesStatus : StatusCode :=
  aggregateStatusCalc X (rawValueStatusAmounts X input) input.config

def scalarResult (scalar : E.Scalar) (status : StatusCode) (sourceTimestamp : ℤ) : E.DataValue :=
  { value := some (.scalar scalar), status := some status, sourceTimestamp := some sourceTimestamp
    sourcePicoseconds := none, serverTimestamp := some now, serverPicoseconds := none }

def countStatus : StatusCode :=
  if input.values.isEmpty then StatusCode.Good else percentValuesStatus X input

def aggCount : E.DataValue :=
  scalarResult now (X.int32 (BitVec.ofNat 32 (goodStatusPointCount input))) (countStatus X input)
    input.intervalStart

end Count

end AsyncOpcua.Aggregates
