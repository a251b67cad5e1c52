/-
**The safety validator, behind a channel that may lose, repeat, reorder, delay and corrupt.**

* `SafetyValidator.validate` — the checksum, the sequence number and the age of a unit;
* `accepted_in_order` — the accepted units are an uncorrupted prefix of those that were sent.
-/

import AsyncOpcua.Safety.Spdu
import Mathlib.Tactic.SplitIfs

namespace AsyncOpcua.Safety

open List UInt32 Or

inductive SafetyError where
  | invalidCrc
  | sequenceMismatch
  | timeout

structure SafetyValidator where
  expectedSequenceNumber : UInt32
  maxDelay : UInt64

/-- A copy of a unit, and the time at which it arrives. -/
structure SpduDelivery where
  spdu : Spdu
  currentTime : UInt64

/-- The timestamp differs from the time of arrival by at most a delay, in either direction. -/
def SpduDelivery.InTime (maxDelay : UInt64) (delivery : SpduDelivery) : Prop :=
  delivery.currentTime.toNat ≤ delivery.spdu.timestamp.toNat + maxDelay.toNat ∧
    delivery.spdu.timestamp.toNat ≤ delivery.currentTime.toNat + maxDelay.toNat

namespace SafetyValidator

def new (startSeq : UInt32) (maxDelay : UInt64) : SafetyValidator := ⟨startSeq, maxDelay⟩

def validate (validator : SafetyValidator) (spdu : Spdu) (currentTime : UInt64) :
    Except SafetyError Unit × SafetyValidator :=
  if calculateCrc spdu.toBytesForCrc ≠ spdu.crc then (.error .invalidCrc, validator)
  else if spdu.sequenceNumber ≠ validator.expectedSequenceNumber then
    (.error .sequenceMismatch, validator)
  -- a unit from the future has no delay, but it must not be too far ahead
  else if currentTime < spdu.timestamp ∧ spdu.timestamp - currentTime > validator.maxDelay then
    (.error .timeout, validator)
  else
    let delay := if currentTime < spdu.timestamp then 0 else currentTime - spdu.timestamp
    if delay > validator.maxDelay then (.error .timeout, validator)
    else
      (.ok (), { validator with expectedSequenceNumber := validator.expectedSequenceNumber + 1 })

theorem validate_spec (validator : SafetyValidator) (delivery : SpduDelivery) :
    (∃ error, validator.validate delivery.spdu delivery.currentTime = (.error error, validator)) ∨
      validator.validate delivery.spdu delivery.currentTime =
          (.ok (), { validator with
            expectedSequenceNumber := validator.expectedSequenceNumber + 1 }) ∧
        calculateCrc delivery.spdu.toBytesForCrc = delivery.spdu.crc ∧
        delivery.spdu.sequenceNumber = validator.expectedSequenceNumber ∧
        delivery.InTime validator.maxDelay := by
  obtain ⟨spdu, currentTime⟩ := delivery
  unfold validate SpduDelivery.InTime
  dsimp only
  split_ifs with wrongCrc wrongNumber ahead future late late
  · exact inl ⟨_, rfl⟩
  · exact inl ⟨_, rfl⟩
  · exact inl ⟨_, rfl⟩
  · exact inl ⟨_, rfl⟩
  · have close : ¬ spdu.timestamp - currentTime > validator.maxDelay := fun far =>
      ahead ⟨future, far⟩
    refine inr ⟨rfl, not_not.mp wrongCrc, not_not.mp wrongNumber, ?_⟩
    rw [gt_iff_lt, UInt64.lt_iff_toNat_lt,
      UInt64.toNat_sub_of_le _ _ (UInt64.le_of_lt future)] at close
    rw [UInt64.lt_iff_toNat_lt] at future
    omega
  · exact inl ⟨_, rfl⟩
  · refine inr ⟨rfl, not_not.mp wrongCrc, not_not.mp wrongNumber, ?_⟩
    rw [gt_iff_lt, UInt64.lt_iff_toNat_lt,
      UInt64.toNat_sub_of_le _ _ (UInt64.not_lt.mp future)] at late
    rw [UInt64.lt_iff_toNat_lt] at future
    omega

/-- A history of deliveries: the validator after it, and what it has accepted. -/
def receive (validator : SafetyValidator) :
    List SpduDelivery → SafetyValidator × List SpduDelivery
  | [] => (validator, [])
  | delivery :: deliveries =>
    let checked := validator.validate delivery.spdu delivery.currentTime
    let later := checked.2.receive deliveries
    match checked.1 with
    | .ok () => (later.1, delivery :: later.2)
    | .error _ => later

theorem receive_cons (validator : SafetyValidator) (delivery : SpduDelivery)
    (deliveries : List SpduDelivery) :
    validator.receive (delivery :: deliveries) = validator.receive deliveries ∨
      validator.receive (delivery :: deliveries) =
          (((⟨validator.expectedSequenceNumber + 1, validator.maxDelay⟩ :
              SafetyValidator).receive deliveries).1,
            delivery :: ((⟨validator.expectedSequenceNumber + 1, validator.maxDelay⟩ :
              SafetyValidator).receive deliveries).2) ∧
        calculateCrc delivery.spdu.toBytesForCrc = delivery.spdu.crc ∧
        delivery.spdu.sequenceNumber = validator.expectedSequenceNumber ∧
        delivery.InTime validator.maxDelay := by
  rcases validator.validate_spec delivery with ⟨error, refused⟩ | ⟨taken, rest⟩
  · refine inl ?_
    rw [receive, refused]
  · refine inr ⟨?_, rest⟩
    rw [receive, taken]

end SafetyValidator

/-! ### What is sent -/

def sentFrom (start : UInt32) (contents : List (List UInt8 × UInt64)) : List Spdu :=
  contents.mapIdx fun index content =>
    (((SpduBuilder.new content.1).withSequenceNumber (start + ofNat index)).withTimestamp
      content.2).build

/-- **A delivery of the channel:** a copy of a unit that was sent, true or corrupted. -/
def DeliveryOf (sent : List Spdu) (delivery : SpduDelivery) : Prop :=
  delivery.spdu ∈ sent ∨ ∃ spdu ∈ sent, spdu.Corrupted delivery.spdu

section Sent

variable {start : UInt32} {contents : List (List UInt8 × UInt64)}

theorem sentFrom_checked {spdu : Spdu} (member : spdu ∈ sentFrom start contents) :
    calculateCrc spdu.toBytesForCrc = spdu.crc := by
  obtain ⟨index, _, rfl⟩ := mem_mapIdx.mp member
  exact SpduBuilder.build_checked _

theorem sentFrom_of_number (few : contents.length < 2 ^ 32) {spdu : Spdu}
    (member : spdu ∈ sentFrom start contents) {place : ℕ} (inside : place ≤ contents.length)
    (number : spdu.sequenceNumber = start + ofNat place) :
    (sentFrom start contents).drop place =
      spdu :: (sentFrom start contents).drop (place + 1) := by
  obtain ⟨index, there, rfl⟩ := mem_mapIdx.mp member
  have numbers : UInt32.ofNat index = UInt32.ofNat place := (UInt32.add_right_inj start).mp number
  have same : index = place := by
    have size : size = 2 ^ 32 := rfl
    have nats := congrArg toNat numbers
    rwa [toNat_ofNat_of_lt' (by omega), toNat_ofNat_of_lt' (by omega)] at nats
  subst same
  have listed : index < (sentFrom start contents).length := by
    rw [sentFrom, length_mapIdx]
    exact there
  rw [drop_eq_getElem_cons listed]
  congr 1
  exact getElem_mapIdx

theorem receive_prefix (few : contents.length < 2 ^ 32) {deliveries : List SpduDelivery}
    (channel : ∀ delivery ∈ deliveries, DeliveryOf (sentFrom start contents) delivery)
    {validator : SafetyValidator} {place : ℕ} (inside : place ≤ contents.length)
    (expects : validator.expectedSequenceNumber = start + ofNat place) :
    (validator.receive deliveries).2.map (·.spdu) <+: (sentFrom start contents).drop place ∧
      ∀ delivery ∈ (validator.receive deliveries).2, delivery.InTime validator.maxDelay := by
  induction deliveries generalizing validator place with
  | nil => exact ⟨ nil_prefix, nofun⟩
  | cons delivery deliveries ih =>
    have rest := fun other there => channel other (mem_cons_of_mem _ there)
    rcases validator.receive_cons delivery deliveries with refused | ⟨taken, checked, number,
      inTime⟩
    · rw [refused]
      exact ih rest inside expects
    · have original : delivery.spdu ∈ sentFrom start contents := by
        refine (channel delivery mem_cons_self).resolve_right ?_
        rintro ⟨spdu, member, corrupted⟩
        exact Spdu.calculateCrc_corrupted corrupted (sentFrom_checked member) checked
      have next := sentFrom_of_number few original inside (number.trans expects)
      have within : place + 1 ≤ contents.length := by
        have size := congrArg length next
        rw [length_cons, length_drop, length_drop, sentFrom,
          length_mapIdx] at size
        omega
      have expectsNext : (⟨validator.expectedSequenceNumber + 1, validator.maxDelay⟩ :
          SafetyValidator).expectedSequenceNumber = start + ofNat (place + 1) := by
        rw [expects, UInt32.add_assoc, UInt32.ofNat_add]
        rfl
      have later := ih rest within expectsNext
      rw [taken, next, map_cons, prefix_cons_inj, forall_mem_cons]
      exact ⟨later.1, inTime, later.2⟩

end Sent

/-- **The black channel.** Whatever the channel does to fewer units than there are numbers, what the
validator accepts is a prefix of what was sent, each unit once and uncorrupted, and in time. What it
refuses changes nothing. -/
theorem accepted_in_order (start : UInt32) (maxDelay : UInt64)
    (contents : List (List UInt8 × UInt64)) (few : contents.length < 2 ^ 32)
    (deliveries : List SpduDelivery)
    (channel : ∀ delivery ∈ deliveries, DeliveryOf (sentFrom start contents) delivery) :
    (((SafetyValidator.new start maxDelay).receive deliveries).2.map (·.spdu) <+:
      sentFrom start contents) ∧
    (∀ delivery ∈ ((SafetyValidator.new start maxDelay).receive deliveries).2,
      delivery.InTime maxDelay) ∧
    (∀ (validator : SafetyValidator) (delivery : SpduDelivery) (error : SafetyError),
      (validator.validate delivery.spdu delivery.currentTime).1 = .error error →
      (validator.validate delivery.spdu delivery.currentTime).2 = validator) := by
  have expects : (SafetyValidator.new start maxDelay).expectedSequenceNumber =
      start + UInt32.ofNat 0 := (UInt32.add_zero start).symm
  have accepted := receive_prefix few channel (Nat.zero_le _) expects
  refine ⟨accepted.1, accepted.2, fun validator delivery error refused => ?_⟩
  rcases validator.validate_spec delivery with ⟨_, same⟩ | ⟨taken, -⟩
  · rw [same]
  · rw [taken] at refused
    cases refused

def twoContents : List (List UInt8 × UInt64) := [([1, 2, 3], 100), ([4], 100)]

def firstUnit : Spdu :=
  (((SpduBuilder.new [1, 2, 3]).withSequenceNumber 7).withTimestamp 100).build

def secondUnit : Spdu := (((SpduBuilder.new [4]).withSequenceNumber 8).withTimestamp 100).build

/-- The second unit overtakes the first, whose first copy is corrupted. Then both arrive. -/
def disturbedHistory : List SpduDelivery :=
  [⟨secondUnit, 105⟩, ⟨{ firstUnit with safetyData := [1, 2, 7] }, 105⟩, ⟨firstUnit, 110⟩,
    ⟨secondUnit, 111⟩]

theorem accepted_in_order_disturbed :
    ((SafetyValidator.new 7 20).receive disturbedHistory).2.map (·.spdu) =
        [firstUnit, secondUnit] ∧
      (((SafetyValidator.new 7 20).receive disturbedHistory).2.map (·.spdu) <+:
        sentFrom 7 twoContents) ∧
      ∀ delivery ∈ ((SafetyValidator.new 7 20).receive disturbedHistory).2,
        delivery.InTime 20 := by
  have channel : ∀ delivery ∈ disturbedHistory, DeliveryOf (sentFrom 7 twoContents) delivery := by
    simp only [disturbedHistory, forall_mem_cons]
    refine ⟨inl (by decide +kernel), inr ⟨firstUnit, by decide +kernel, ?_, rfl⟩,
      inl (by decide +kernel), inl (by decide +kernel), nofun⟩
    exact ⟨bits [1, 2], [true, true, false], [true, true, true],
      replicate 5 false ++ bits (toBeBytes32 7 ++ toBeBytes64 100),
      by decide +kernel, by decide +kernel, rfl, by decide, by decide⟩
  obtain ⟨inOrder, inTime, -⟩ := accepted_in_order 7 20 twoContents (by decide) _ channel
  exact ⟨by decide +kernel, inOrder, inTime⟩

end AsyncOpcua.Safety
