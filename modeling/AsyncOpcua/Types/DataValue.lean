/-
**The values that monitored items carry: status codes, timestamps, variants, data values.**

* `StatusCode` is the 32-bit code with its info bits; a `DateTime` is chrono's nanosecond count cut
  down to the 100 ns ticks of OPC UA.
-/

import Mathlib.Data.List.Basic
import Mathlib.Algebra.Group.Int.Defs
import Mathlib.Algebra.Group.Nat.Defs

namespace AsyncOpcua.Types

/-! ### Status codes -/

abbrev StatusCode := BitVec 32

namespace StatusCode

def Good : StatusCode := 0x00000000#32
def GoodSubscriptionTransferred : StatusCode := 0x002D0000#32
def GoodEntryInserted : StatusCode := 0x00A20000#32
def GoodEntryReplaced : StatusCode := 0x00A30000#32
def UncertainDataSubNormal : StatusCode := 0x40A40000#32
def Bad : StatusCode := 0x80000000#32
def BadUnexpectedError : StatusCode := 0x80010000#32
def BadInternalError : StatusCode := 0x80020000#32
def BadResourceUnavailable : StatusCode := 0x80040000#32
def BadCommunicationError : StatusCode := 0x80050000#32
def BadEncodingError : StatusCode := 0x80060000#32
def BadDecodingError : StatusCode := 0x80070000#32
def BadEncodingLimitsExceeded : StatusCode := 0x80080000#32
def BadTimeout : StatusCode := 0x800A0000#32
def BadNothingToDo : StatusCode := 0x800F0000#32
def BadTooManyOperations : StatusCode := 0x80100000#32
def BadCertificateInvalid : StatusCode := 0x80120000#32
def BadCertificateUriInvalid : StatusCode := 0x80170000#32
def BadSecurityChecksFailed : StatusCode := 0x80130000#32
def BadUserAccessDenied : StatusCode := 0x801F0000#32
def BadIdentityTokenInvalid : StatusCode := 0x80200000#32
def BadIdentityTokenRejected : StatusCode := 0x80210000#32
def BadSecureChannelIdInvalid : StatusCode := 0x80220000#32
def BadNonceInvalid : StatusCode := 0x80240000#32
def BadSessionIdInvalid : StatusCode := 0x80250000#32
def BadSessionClosed : StatusCode := 0x80260000#32
def BadSubscriptionIdInvalid : StatusCode := 0x80280000#32
def BadRequestCancelledByClient : StatusCode := 0x802C0000#32
def BadWaitingForInitialData : StatusCode := 0x80320000#32
def BadNodeIdUnknown : StatusCode := 0x80340000#32
def BadAttributeIdInvalid : StatusCode := 0x80350000#32
def BadNotSupported : StatusCode := 0x803D0000#32
def BadMonitoredItemIdInvalid : StatusCode := 0x80420000#32
def BadEventFilterInvalid : StatusCode := 0x80470000#32
def BadFilterOperandInvalid : StatusCode := 0x80490000#32
def BadContinuationPointInvalid : StatusCode := 0x804A0000#32
def BadNoContinuationPoints : StatusCode := 0x804B0000#32
def BadReferenceTypeIdInvalid : StatusCode := 0x804C0000#32
def BadBrowseDirectionInvalid : StatusCode := 0x804D0000#32
def BadSecurityModeRejected : StatusCode := 0x80540000#32
def BadSecurityPolicyRejected : StatusCode := 0x80550000#32
def BadTooManySessions : StatusCode := 0x80560000#32
def BadUserSignatureInvalid : StatusCode := 0x80570000#32
def BadViewIdUnknown : StatusCode := 0x806B0000#32
def BadArgumentsMissing : StatusCode := 0x80760000#32
def BadTooManySubscriptions : StatusCode := 0x80770000#32
def BadTooManyPublishRequests : StatusCode := 0x80780000#32
def BadNoSubscription : StatusCode := 0x80790000#32
def BadSequenceNumberUnknown : StatusCode := 0x807A0000#32
def BadMessageNotAvailable : StatusCode := 0x807B0000#32
def BadTcpMessageTooLarge : StatusCode := 0x80800000#32
def BadTcpInternalError : StatusCode := 0x80820000#32
def BadTcpEndpointUrlInvalid : StatusCode := 0x80830000#32
def BadSecureChannelClosed : StatusCode := 0x80860000#32
def BadSequenceNumberInvalid : StatusCode := 0x80880000#32
def BadConditionDisabled : StatusCode := 0x80990000#32
def BadNoData : StatusCode := 0x809B0000#32
def BadDataLost : StatusCode := 0x809D0000#32
def BadEntryExists : StatusCode := 0x809F0000#32
def BadNoEntryExists : StatusCode := 0x80A00000#32
def BadInvalidArgument : StatusCode := 0x80AB0000#32
def BadConnectionClosed : StatusCode := 0x80AE0000#32
def BadInvalidState : StatusCode := 0x80AF0000#32
def BadRequestTooLarge : StatusCode := 0x80B80000#32
def BadResponseTooLarge : StatusCode := 0x80B90000#32
def BadFilterOperatorUnsupported : StatusCode := 0x80C20000#32
def BadFilterOperandCountMismatch : StatusCode := 0x80C30000#32
def BadConditionBranchAlreadyAcked : StatusCode := 0x80CF0000#32
def BadConditionBranchAlreadyConfirmed : StatusCode := 0x80D00000#32
def BadConditionAlreadyShelved : StatusCode := 0x80D10000#32
def BadConditionNotShelved : StatusCode := 0x80D20000#32
def BadShelvingTimeOutOfRange : StatusCode := 0x80D30000#32
def BadAggregateNotSupported : StatusCode := 0x80D50000#32
def BadAggregateInvalidInputs : StatusCode := 0x80D60000#32
def BadTooManyMonitoredItems : StatusCode := 0x80DB0000#32
def BadSecurityModeInsufficient : StatusCode := 0x80E60000#32
def BadTransactionPending : StatusCode := 0x80E80000#32

variable (code : StatusCode)

/-- Good severity: the two upper bits are clear. -/
def isGood : Bool := code >>> 30 == 0#32

def isUncertain : Bool := code >>> 30 == 1#32

/-- Bad severity, which the reserved `0b11` counts as too. -/
def isBad : Bool := !code.isGood && !code.isUncertain

def getBool (offset : ℕ) : Bool := (code &&& (1#32 <<< offset)) != 0#32

def setBool (value : Bool) (offset : ℕ) : StatusCode :=
  (code &&& ~~~(1#32 <<< offset)) ||| ((if value then 1#32 else 0#32) <<< offset)

def semanticsChanged : Bool := code.getBool 14

def setSemanticsChanged (value : Bool) : StatusCode := code.setBool value 14

def setOverflow (value : Bool) : StatusCode := code.setBool value 7

end StatusCode

/-- How the messages of a channel are secured. -/
inductive MessageSecurityMode where
  | invalid
  | none
  | sign
  | signAndEncrypt
  deriving DecidableEq

/-! ### Time

Wall-clock times are nanoseconds since 1970 (`ℤ`), signed lengths of time are nanoseconds (`ℤ`),
and readings of the monotonic clock and lengths of time on it are nanoseconds (`ℕ`). -/

/-- The earliest time chrono represents, 262144 BC. -/
def minUtc : ℤ := -8334601228800 * 1000000000

/-- The latest time chrono represents, 262142 AD. -/
def maxUtc : ℤ := 8210266876799 * 1000000000 + 999999999

/-- Addition that fails outside chrono's range. -/
def checkedAddSigned (time delta : ℤ) : Option ℤ :=
  if minUtc ≤ time + delta ∧ time + delta ≤ maxUtc then some (time + delta) else none

/-- `DateTime::from`: the nanoseconds are rounded down to a tick of 100. -/
def dateTimeFrom (time : ℤ) : ℤ := time / 100 * 100

/-- 1601, from where OPC UA counts ticks of 100 ns. -/
def tickEpoch : ℤ := -11644473600 * 1000000000

def ticks (time : ℤ) : ℤ := (time - tickEpoch) / 100

/-- The last second of 9999. -/
def endtimes : ℤ := 253402300799 * 1000000000

/-- `DateTime::from(i64)`: the highest number stands for the end of times. -/
def fromTicks (ticks : ℤ) : ℤ := if ticks = 2 ^ 63 - 1 then endtimes else tickEpoch + ticks * 100

/-! ### Values -/

inductive Variant (Scalar ScalarType : Type) where
  | empty
  | scalar (value : Scalar)
  | array (valueType : ScalarType) (values : List (Variant Scalar ScalarType))
      (dimensions : Option (List ℕ))

structure DataValue (Value : Type) where
  value : Option Value
  status : Option StatusCode
  sourceTimestamp : Option ℤ
  sourcePicoseconds : Option ℕ
  serverTimestamp : Option ℤ
  serverPicoseconds : Option ℕ

def DataValue.statusCode {Value : Type} (value : DataValue Value) : StatusCode :=
  value.status.getD StatusCode.Good

structure EventFieldList (Value : Type) where
  clientHandle : ℕ
  eventFields : Option (List Value)

structure AggregateInput (Value Configuration : Type) where
  values : List (DataValue Value)
  annotations : List ℤ
  prior : Option (DataValue Value)
  next : Option (DataValue Value)
  intervalStart : ℤ
  intervalEnd : ℤ
  config : Configuration
  stepped : Bool

/-- **What the subscription code takes from elsewhere:** floating point, scalar contents, index
ranges, event filters with the type tree they read, and the aggregate engine. -/
structure Externals where
  F64 : Type
  Scalar : Type
  ScalarType : Type
  NumericRange : Type
  NodeId : Type
  AggregateConfiguration : Type
  TypeTree : Type
  Event : Type
  EventFilter : Type
  sub : F64 → F64 → F64
  div : F64 → F64 → F64
  neg : F64 → F64
  abs : F64 → F64
  gt : F64 → F64 → Bool
  max : F64 → F64 → F64
  /-- `(millis * 1000.0) as i64`. -/
  micros : F64 → ℤ
  /-- `(millis * 1000.0) as u64`. -/
  microsUnsigned : F64 → ℕ
  scalarEq : Scalar → Scalar → Bool
  scalarTypeEq : ScalarType → ScalarType → Bool
  asF64 : Scalar → Option F64
  /-- `Variant::range_of` at a range other than `NumericRange::None`. -/
  rangeOf : Variant Scalar ScalarType → NumericRange → Except StatusCode (Variant Scalar ScalarType)
  /-- `ParsedEventFilter::evaluate`. -/
  evaluate : EventFilter → Event → ℕ → TypeTree →
    Option (EventFieldList (Variant Scalar ScalarType))
  /-- The event that reports lost events, by its random event id and its time. -/
  eventQueueOverflow : List UInt8 → ℤ → Event
  dispatchAggregate : NodeId → AggregateInput (Variant Scalar ScalarType) AggregateConfiguration →
    DataValue (Variant Scalar ScalarType)

namespace Externals

variable (E : Externals)

abbrev Variant := Types.Variant E.Scalar E.ScalarType

abbrev DataValue := Types.DataValue E.Variant

abbrev EventFieldList := Types.EventFieldList E.Variant

end Externals

/-- **An instance to run the model on:** scalars, numbers and ids are integers, an index range
selects one element, and every event is evaluated to its number. -/
def Externals.integers : Externals where
  F64 := ℤ
  Scalar := ℤ
  ScalarType := ℕ
  NumericRange := ℕ
  NodeId := ℕ
  AggregateConfiguration := Unit
  TypeTree := Unit
  Event := ℤ
  EventFilter := Unit
  sub := (· - ·)
  div := (· / ·)
  neg := (- ·)
  abs := fun x => x.natAbs
  gt := fun x y => decide (y < x)
  max := fun x y => if x < y then y else x
  micros := fun millis => millis * 1000
  microsUnsigned := fun millis => millis.toNat * 1000
  scalarEq := fun x y => decide (x = y)
  scalarTypeEq := fun x y => decide (x = y)
  asF64 := some
  rangeOf := fun value index =>
    match value with
    | .array type values _ =>
      match values[index]? with
      | some v => .ok (.array type [v] none)
      | none => .error 0x80370000#32
    | _ => .error 0x80EA0000#32
  evaluate := fun _ event clientHandle _ => some ⟨clientHandle, some [.scalar event]⟩
  eventQueueOverflow := fun _ _ => -1
  dispatchAggregate := fun _ input =>
    { value := some (.scalar input.values.length), status := none, sourceTimestamp := none
      sourcePicoseconds := none, serverTimestamp := none, serverPicoseconds := none }

variable {E : Externals}

mutual

/-- Equality of variants: floating point decides it for scalars, so it need not be reflexive. -/
def Variant.eq : E.Variant → E.Variant → Bool
  | .empty, .empty => true
  | .scalar first, .scalar second => E.scalarEq first second
  | .array type values dimensions, .array type' values' dimensions' =>
    E.scalarTypeEq type type' && Variant.eqAll values values' && dimensions == dimensions'
  | _, _ => false

def Variant.eqAll : List E.Variant → List E.Variant → Bool
  | [], [] => true
  | first :: firsts, second :: seconds => Variant.eq first second && Variant.eqAll firsts seconds
  | _, _ => false

end

/-- Equality of optional variants. -/
def optionEq : Option E.Variant → Option E.Variant → Bool
  | none, none => true
  | some first, some second => Variant.eq first second
  | _, _ => false

/-- Equality of data values, field by field. -/
def DataValue.eq (first second : E.DataValue) : Bool :=
  optionEq first.value second.value && first.status == second.status &&
    first.sourceTimestamp == second.sourceTimestamp &&
    first.sourcePicoseconds == second.sourcePicoseconds &&
    first.serverTimestamp == second.serverTimestamp &&
    first.serverPicoseconds == second.serverPicoseconds

end AsyncOpcua.Types
