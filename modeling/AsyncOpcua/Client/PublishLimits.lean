/-
**The publish limits and the subscriptions they are computed from.**

The limits are computed anew when a subscription is added or deleted, but not when one is modified
or its publishing mode is set.

* `current_iff_mirrored` — it always is exactly if no modification changes the smallest publishing
  interval, and every computation has a publishing interval of at least a millisecond and room for
  its result.
-/

import AsyncOpcua.Client.SubscriptionState
import AsyncOpcua.Foundation.Transition
import Mathlib.Data.Fintype.Card

namespace AsyncOpcua.Client

open Foundation Types Binary32 Duration PublishLimits

namespace PublishLimits

/-- **The computation of the limits is sound:** neither product is too large, the divisor is not
zero, and the least number of requests is not above the largest. -/
structure Sound (limits : PublishLimits) : Prop where
  least : limits.subscriptions * requestsPerSubscription ≤ usizeMax
  divisor : limits.publishInterval ≠ zero → limits.publishInterval.asMillis ≠ 0
  largest : limits.publishInterval ≠ zero →
    intervalsPerRoundtrip limits.messageRoundtrip limits.publishInterval *
      (limits.subscriptions * requestsPerSubscription) ≤ usizeMax
  ordered : limits.minPublishRequests ≤ limits.maxPublishRequests

/-- There is no interval, or it is a millisecond at least and the roundtrip in such intervals,
rounded up, leaves room for the number of subscriptions. -/
def Roomy (messageRoundtrip publishInterval : Duration) (subscriptions : ℕ) : Prop :=
  publishInterval = zero ∨ fromMillis 1 ≤ publishInterval ∧
    ⌈nearest (nearest messageRoundtrip.asMillis /
      nearest publishInterval.asMillis)⌉.toNat * (2 * subscriptions) < 2 ^ 64

theorem asMillis_ne_zero_iff (d : Duration) : d.asMillis ≠ 0 ↔ fromMillis 1 ≤ d := by
  show d.nanos / 1000000 ≠ 0 ↔ 1000000 ≤ d.nanos
  omega

theorem nearest_asMillis_pos {d : Duration} (long : d.asMillis ≠ 0) :
    0 < nearest (d.asMillis : ℚ) :=
  nearest_pos (by exact_mod_cast Nat.pos_of_ne_zero long)

variable {messageRoundtrip publishInterval : Duration}

theorem intervalsPerRoundtrip_eq (long : publishInterval.asMillis ≠ 0) :
    intervalsPerRoundtrip messageRoundtrip publishInterval =
      min ⌈nearest (nearest messageRoundtrip.asMillis /
        nearest publishInterval.asMillis)⌉.toNat usizeMax := by
  unfold intervalsPerRoundtrip ofNat
  rw [div_finite (nearest_asMillis_pos long).ne']
  simp [Binary32.ceil, Binary32.toNat]

theorem intervalsPerRoundtrip_pos
    (far : minMessageRoundtrip ≤ messageRoundtrip) (long : publishInterval.asMillis ≠ 0) :
    1 ≤ intervalsPerRoundtrip messageRoundtrip publishInterval := by
  have some : messageRoundtrip.asMillis ≠ 0 :=
    (asMillis_ne_zero_iff _).mpr (le_trans (by decide) far)
  have ratio : 0 < ⌈nearest (nearest (messageRoundtrip.asMillis : ℚ) /
      nearest publishInterval.asMillis)⌉ :=
    Int.ceil_pos.mpr (nearest_pos
      (div_pos (nearest_asMillis_pos some) (nearest_asMillis_pos long)))
  rw [intervalsPerRoundtrip_eq long]
  refine le_min ?_ (by decide)
  omega

theorem min_mul_le_iff (count room : ℕ) :
    min count usizeMax * (room * requestsPerSubscription) ≤ usizeMax ↔
      count * (2 * room) < 2 ^ 64 := by
  have most : usizeMax = 2 ^ 64 - 1 := rfl
  rw [Nat.mul_comm room, requestsPerSubscription]
  rcases le_total count usizeMax with small | large
  · rw [min_eq_left small]
    omega
  · rw [min_eq_right large]
    rcases Nat.eq_zero_or_pos room with rfl | some
    · simp
    · have one : usizeMax * 2 ≤ usizeMax * (2 * room) := Nat.mul_le_mul_left _ (by omega)
      have other : usizeMax * 2 ≤ count * (2 * room) := Nat.mul_le_mul large (by omega)
      omega

section

variable (limits : PublishLimits)

@[simp]
theorem calculatePublishLimits_messageRoundtrip :
    limits.calculatePublishLimits.messageRoundtrip = limits.messageRoundtrip := rfl

@[simp]
theorem calculatePublishLimits_publishInterval :
    limits.calculatePublishLimits.publishInterval = limits.publishInterval := rfl

@[simp]
theorem calculatePublishLimits_subscriptions :
    limits.calculatePublishLimits.subscriptions = limits.subscriptions := rfl

/-- **A computation is sound exactly if it has room.** -/
theorem sound_calculate_iff (few : limits.subscriptions ≤ 2 ^ 32)
    (far : minMessageRoundtrip ≤ limits.messageRoundtrip) :
    limits.calculatePublishLimits.Sound ↔
      Roomy limits.messageRoundtrip limits.publishInterval limits.subscriptions := by
  have least : limits.subscriptions * requestsPerSubscription ≤ usizeMax := by
    unfold requestsPerSubscription usizeMax
    omega
  have exactly : limits.subscriptions * requestsPerSubscription % (usizeMax + 1) =
      limits.subscriptions * requestsPerSubscription := Nat.mod_eq_of_lt (Nat.lt_succ_of_le least)
  by_cases zero : limits.publishInterval = zero
  · refine iff_of_true ⟨least, absurd zero, absurd zero, ?_⟩ (Or.inl zero)
    have none : limits.publishInterval.isZero = true := by rw [zero]; rfl
    simp [calculatePublishLimits, none]
  · have some : limits.publishInterval.isZero = false := by
      refine Bool.eq_false_iff.mpr fun none => zero ?_
      exact nanos_injective (beq_iff_eq.mp none)
    constructor
    · rintro ⟨-, divisor, largest, -⟩
      have long : limits.publishInterval.asMillis ≠ 0 := divisor zero
      refine Or.inr ⟨(asMillis_ne_zero_iff _).mp long, ?_⟩
      have product := largest zero
      rwa [calculatePublishLimits_messageRoundtrip, calculatePublishLimits_subscriptions,
        calculatePublishLimits_publishInterval, intervalsPerRoundtrip_eq long,
        min_mul_le_iff] at product
    · intro roomy
      obtain ⟨longer, room⟩ := roomy.resolve_left zero
      have long := (asMillis_ne_zero_iff _).mpr longer
      have product : intervalsPerRoundtrip limits.messageRoundtrip limits.publishInterval *
          (limits.subscriptions * requestsPerSubscription) ≤ usizeMax := by
        rw [intervalsPerRoundtrip_eq long, min_mul_le_iff]
        exact room
      refine ⟨least, fun _ => long, fun _ => product, ?_⟩
      have one := intervalsPerRoundtrip_pos far long
      simp only [calculatePublishLimits, some, exactly, Bool.false_eq_true, if_false]
      rw [Nat.mod_eq_of_lt (Nat.lt_succ_of_le product)]
      exact Nat.le_mul_of_pos_left _ one

end

end PublishLimits

namespace SubscriptionState

variable {T : ClientTypes}

inductive LimitsOp (T : ClientTypes)
  | addSubscription (subscription : Subscription T)
  | modifySubscription (subscriptionId : UInt32) (publishingInterval : Duration)
      (lifetimeCount maxKeepAliveCount maxNotificationsPerPublish : UInt32) (priority : UInt8)
  | setPublishingMode (subscriptionIds : List UInt32) (publishingEnabled : Bool)
  | deleteSubscription (subscriptionId : UInt32)
  | updateMessageRoundtrip (messageRoundtrip : Duration)

def applyLimitsOp (s : SubscriptionState T) : LimitsOp T → SubscriptionState T
  | .addSubscription subscription => s.addSubscription subscription
  | .modifySubscription id interval lifetime keepAlive notifications priority =>
    s.modifySubscription id interval lifetime keepAlive notifications priority
  | .setPublishingMode ids publishingEnabled => s.setPublishingMode ids publishingEnabled
  | .deleteSubscription id => (s.deleteSubscription id).2
  | .updateMessageRoundtrip messageRoundtrip =>
    { s with publishLimits := s.publishLimits.updateMessageRoundtrip messageRoundtrip }

def limitsMachine (T : ClientTypes) : Machine (SubscriptionState T) (LimitsOp T) where
  step s op := some (s.applyLimitsOp op)

/-- **What is derived from the subscriptions is derived from the current ones.** -/
structure Current (s : SubscriptionState T) : Prop where
  number : s.publishLimits.subscriptions = s.subscriptions.size
  /-- The smallest publishing interval of those that publish, raised to the minimum. -/
  interval : s.publishLimits.publishInterval = s.publishInterval
  computed : s.publishLimits = s.publishLimits.calculatePublishLimits
  sound : s.publishLimits.Sound
  keptAlive : s.keepAliveTimeout = (s.subscriptions.values.map keepAlive).min?

/-- **An operation that the limits mirror.** Where they are computed there is room for them; a
modification leaves the smallest publishing interval as it is. -/
def Mirrored (s : SubscriptionState T) : LimitsOp T → Prop
  | .addSubscription subscription =>
    PublishLimits.Roomy s.publishLimits.messageRoundtrip
      (s.addSubscription subscription).publishInterval
      (s.addSubscription subscription).subscriptions.size
  | .deleteSubscription id =>
    PublishLimits.Roomy s.publishLimits.messageRoundtrip (s.deleteSubscription id).2.publishInterval
      (s.deleteSubscription id).2.subscriptions.size
  | .modifySubscription id interval lifetime keepAlive notifications priority =>
    (s.modifySubscription id interval lifetime keepAlive notifications priority).publishInterval =
      s.publishInterval
  | .setPublishingMode ids publishingEnabled =>
    (s.setPublishingMode ids publishingEnabled).publishInterval = s.publishInterval
  | .updateMessageRoundtrip messageRoundtrip =>
    PublishLimits.Roomy (max messageRoundtrip minMessageRoundtrip) s.publishInterval
      s.subscriptions.size

theorem size_le (subscriptions : KeyedMap UInt32 (Subscription T)) :
    subscriptions.size ≤ 2 ^ 32 := by
  have distinct : (subscriptions.keys.map UInt32.toFin).Nodup :=
    subscriptions.keys_nodup.map fun _ _ same => UInt32.toFin_inj.mp same
  have bounded := distinct.length_le_card
  rwa [List.length_map, Fintype.card_fin, ← KeyedMap.size_eq_keys] at bounded

def Far (s : SubscriptionState T) : Prop :=
  minMessageRoundtrip ≤ s.publishLimits.messageRoundtrip

variable {s : SubscriptionState T}

theorem current_updatePublishLimits (far : s.Far)
    (keptAlive : s.keepAliveTimeout = (s.subscriptions.values.map keepAlive).min?) :
    s.updatePublishLimits.Current ↔
      PublishLimits.Roomy s.publishLimits.messageRoundtrip s.publishInterval
        s.subscriptions.size := by
  rw [← sound_calculate_iff { s.publishLimits with
    subscriptions := s.subscriptions.size, publishInterval := s.publishInterval }
    (size_le s.subscriptions) far]
  exact ⟨fun current => current.sound, fun sound => ⟨rfl, rfl, rfl, sound, keptAlive⟩⟩

/-- **After a change that leaves the limits as they were.** -/
theorem current_unchanged {t : SubscriptionState T} (current : s.Current)
    (limits : t.publishLimits = s.publishLimits)
    (number : t.subscriptions.size = s.subscriptions.size)
    (keptAlive : t.keepAliveTimeout = (t.subscriptions.values.map keepAlive).min?) :
    t.Current ↔ t.publishInterval = s.publishInterval := by
  constructor
  · intro later
    rw [← later.interval, ← current.interval, limits]
  · intro same
    refine ⟨?_, ?_, ?_, ?_, keptAlive⟩
    · rw [limits, current.number, number]
    · rw [limits, current.interval, same]
    · rw [limits]
      exact current.computed
    · rw [limits]
      exact current.sound

theorem setPublishingMode_frame (s : SubscriptionState T) (ids : List UInt32)
    (publishingEnabled : Bool) :
    (s.setPublishingMode ids publishingEnabled).publishLimits = s.publishLimits ∧
      (s.setPublishingMode ids publishingEnabled).keepAliveTimeout = s.keepAliveTimeout ∧
      (s.setPublishingMode ids publishingEnabled).subscriptions.size = s.subscriptions.size ∧
      (s.setPublishingMode ids publishingEnabled).subscriptions.values.map keepAlive =
        s.subscriptions.values.map keepAlive := by
  induction ids generalizing s with
  | nil => exact ⟨rfl, rfl, rfl, rfl⟩
  | cons id ids ih =>
    obtain ⟨limits, timeout, number, lives⟩ := ih { s with
      subscriptions := s.subscriptions.modify id fun subscription =>
        { subscription with publishingEnabled := publishingEnabled } }
    refine ⟨limits, timeout, number.trans (KeyedMap.size_modify _ _ _), lives.trans ?_⟩
    exact KeyedMap.values_modify _ _ _ fun _ => rfl

theorem far_applyLimitsOp (far : s.Far) (op : LimitsOp T) : (s.applyLimitsOp op).Far := by
  cases op with
  | addSubscription subscription => exact far
  | modifySubscription id interval lifetime keepAlive notifications priority =>
    show (s.modifySubscription id interval lifetime keepAlive notifications priority).Far
    unfold modifySubscription
    split_ifs <;> exact far
  | setPublishingMode ids publishingEnabled =>
    show minMessageRoundtrip ≤ _
    rw [applyLimitsOp, (s.setPublishingMode_frame ids publishingEnabled).1]
    exact far
  | deleteSubscription id => exact far
  | updateMessageRoundtrip messageRoundtrip => exact le_max_right _ _

theorem current_applyLimitsOp (far : s.Far) (current : s.Current) (op : LimitsOp T) :
    (s.applyLimitsOp op).Current ↔ s.Mirrored op := by
  cases op with
  | addSubscription | deleteSubscription => exact current_updatePublishLimits far rfl
  | modifySubscription id interval lifetime keepAlive notifications priority =>
    show (s.modifySubscription id interval lifetime keepAlive notifications priority).Current ↔
      (s.modifySubscription id interval lifetime keepAlive notifications priority).publishInterval =
        s.publishInterval
    unfold modifySubscription
    split_ifs with known
    · exact current_unchanged current rfl (KeyedMap.size_modify _ _ _) rfl
    · exact iff_of_true current rfl
  | setPublishingMode ids publishingEnabled =>
    obtain ⟨limits, timeout, number, lives⟩ := s.setPublishingMode_frame ids publishingEnabled
    have keptAlive : (s.setPublishingMode ids publishingEnabled).keepAliveTimeout =
        ((s.setPublishingMode ids publishingEnabled).subscriptions.values.map keepAlive).min? := by
      rw [timeout, lives, current.keptAlive]
    exact current_unchanged current limits number keptAlive
  | updateMessageRoundtrip messageRoundtrip =>
    rw [Mirrored, ← current.number, ← current.interval, ← sound_calculate_iff
      { s.publishLimits with
        messageRoundtrip := max messageRoundtrip minMessageRoundtrip }
      (current.number ▸ size_le s.subscriptions) (le_max_right _ _)]
    exact ⟨fun later => later.sound,
      fun sound => ⟨current.number, current.interval, rfl, sound, current.keptAlive⟩⟩

theorem current_new (minPublishInterval : Duration) :
    (SubscriptionState.new minPublishInterval : SubscriptionState T).Current where
  number := rfl
  interval := rfl
  computed := rfl
  sound := ⟨Nat.zero_le _, fun some => absurd rfl some, fun some => absurd rfl some, le_rfl⟩
  keptAlive := rfl

/-- **What is derived from the subscriptions is current, in any run, exactly if the limits mirror
every operation.** -/
theorem current_iff_mirrored (minPublishInterval : Duration) (ops : List (LimitsOp T)) :
    (limitsMachine T).Always Current (.new minPublishInterval) ops ↔
      (limitsMachine T).Guarded Mirrored (.new minPublishInterval) ops := by
  have begins : (SubscriptionState.new minPublishInterval : SubscriptionState T).Far := le_rfl
  refine (limitsMachine T).always_iff_guarded Far (fun s op => ⟨_, rfl⟩) ?_ ?_ begins
    (current_new minPublishInterval)
  · rintro s op _ far ⟨⟩
    exact far_applyLimitsOp far op
  · rintro s op _ far current ⟨⟩
    exact current_applyLimitsOp far current op

def publishing (interval : Duration) : Subscription plainTypes :=
  .new 1 interval 30 10 0 0 true ()

/-- The publishing interval is modified to a second. -/
def slowedDown : List (LimitsOp plainTypes) :=
  [.addSubscription (publishing (.fromMillis 100)),
    .modifySubscription 1 (.fromMillis 1000) 30 10 0 0]

def halfMilli : Duration := ⟨500000, by decide⟩

/-- **The limits keep the interval of a subscription that was modified, and a publishing interval
below a millisecond is divided by as zero.** -/
theorem modified_interval_not_mirrored :
    ¬ (limitsMachine plainTypes).Always Current (.new zero) slowedDown ∧
      ¬ (limitsMachine plainTypes).Always Current (.new zero)
        [.addSubscription (publishing halfMilli)] := by
  constructor
  · intro always
    have current := (limitsMachine plainTypes).always_of_run always rfl
    exact absurd current.interval (by decide)
  · intro always
    have current := (limitsMachine plainTypes).always_of_run always rfl
    exact current.sound.divisor (by decide) (by decide)

end SubscriptionState

end AsyncOpcua.Client
