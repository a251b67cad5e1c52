/-
**Sequence numbers of a secure channel.**

A handle holds the next number. Numbers are `u32`; the arithmetic is the one of `u32`, which never
leaves its range here while the handle is at most at its maximum.

* `validateAndIncrement` — the receiver's check; a legacy handle that expects its minimum takes any
  number below 1024;
* `sequence_numbers_not_replayed_iff` — no number is accepted twice between two wraps, exactly if a
  legacy handle at its minimum is not presented a zero right after it has accepted one.
-/

import AsyncOpcua.Foundation.Transition
import AsyncOpcua.Types.Encoding
import Mathlib.Data.Nat.ModEq

namespace AsyncOpcua.Comms

open Types Foundation List Or

/-! ### Handles -/

structure SequenceNumberHandle where
  isLegacy : Bool
  currentValue : ℕ
  deriving DecidableEq

namespace SequenceNumberHandle

def new (isLegacy : Bool) : SequenceNumberHandle := ⟨isLegacy, if isLegacy then 1 else 0⟩

/-- The largest number, after which the numbers start again. -/
def maxValue (handle : SequenceNumberHandle) : ℕ :=
  if handle.isLegacy then u32Size - 1 - 1024 else u32Size - 1

def minValue (handle : SequenceNumberHandle) : ℕ := if handle.isLegacy then 1 else 0

def current (handle : SequenceNumberHandle) : ℕ := handle.currentValue

def set (handle : SequenceNumberHandle) (value : ℕ) : SequenceNumberHandle :=
  { handle with currentValue := value }

/-- `increment`, with the wrapping subtraction of `u32`. -/
def increment (handle : SequenceNumberHandle) (value : ℕ) : SequenceNumberHandle :=
  let remaining := (handle.maxValue + u32Size - handle.currentValue) % u32Size
  if remaining < value then
    { handle with currentValue := handle.minValue + value - remaining - 1 }
  else { handle with currentValue := (handle.currentValue + value) % u32Size }

def validateAndIncrement (handle : SequenceNumberHandle) (incoming : ℕ) :
    Except Error Unit × SequenceNumberHandle :=
  let expected := handle.current
  if incoming ≠ expected then
    if handle.isLegacy && expected == handle.minValue && decide (incoming < 1024) then
      (.ok (), (handle.set incoming).increment 1)
    else
      (.error (.new StatusCode.BadSequenceNumberInvalid
        s!"Chunk sequence number of {incoming} is not the expected value of {expected}"), handle)
  else (.ok (), handle.increment 1)

def InRange (handle : SequenceNumberHandle) : Prop :=
  handle.minValue ≤ handle.currentValue ∧ handle.currentValue ≤ handle.maxValue

theorem maxValue_lt (handle : SequenceNumberHandle) : handle.maxValue < u32Size := by
  unfold maxValue u32Size
  split_ifs <;> omega

theorem minValue_lt_maxValue (handle : SequenceNumberHandle) :
    handle.minValue < handle.maxValue := by
  unfold minValue maxValue u32Size
  split_ifs <;> omega

theorem inRange_new (isLegacy : Bool) : (new isLegacy).InRange := by
  cases isLegacy
  · exact ⟨le_refl 0, Nat.zero_le _⟩
  · exact ⟨le_refl 1, by decide⟩

variable {handle : SequenceNumberHandle}

theorem increment_one (within : handle.currentValue ≤ handle.maxValue) :
    handle.increment 1 =
      { handle with
        currentValue :=
          if handle.currentValue = handle.maxValue then handle.minValue
          else handle.currentValue + 1 } := by
  have below := handle.maxValue_lt
  have remaining : (handle.maxValue + u32Size - handle.currentValue) % u32Size =
      handle.maxValue - handle.currentValue := by
    rw [Nat.sub_add_comm within, Nat.add_mod_right, Nat.mod_eq_of_lt (by omega)]
  unfold increment
  by_cases last : handle.currentValue = handle.maxValue
  · rw [if_pos (by omega), if_pos last]
    congr 1
    omega
  · rw [if_neg (by omega), if_neg last, Nat.mod_eq_of_lt (by omega)]

/-- The handle after some single steps. -/
def steps (handle : SequenceNumberHandle) (count : ℕ) : SequenceNumberHandle :=
  (fun handle => handle.increment 1)^[count] handle

def successive (handle : SequenceNumberHandle) (count : ℕ) : List ℕ :=
  (range count).map fun index => (handle.steps index).current

section

variable (handle : SequenceNumberHandle)

theorem steps_succ (count : ℕ) : handle.steps (count + 1) = (handle.steps count).increment 1 :=
  Function.iterate_succ_apply' _ count handle

theorem steps_add (first second : ℕ) :
    handle.steps (first + second) = (handle.steps first).steps second := by
  rw [Nat.add_comm]
  exact Function.iterate_add_apply _ second first handle

theorem successive_add (first second : ℕ) :
    handle.successive (first + second) =
      handle.successive first ++ (handle.steps first).successive second := by
  unfold successive
  rw [range_add, map_append, map_map]
  refine congrArg (_ ++ ·) (map_congr_left fun index _ => ?_)
  show (handle.steps (first + index)).current = _
  rw [steps_add]

theorem successive_succ (count : ℕ) :
    handle.successive (count + 1) = handle.current :: (handle.increment 1).successive count := by
  have first : handle.successive 1 = [handle.current] := rfl
  rw [Nat.add_comm, successive_add, first, singleton_append, steps_succ]
  exact rfl

end

/-- The handle takes all of the numbers, one after the other. -/
def Accepts (handle : SequenceNumberHandle) : List ℕ → Prop
  | [] => True
  | number :: numbers => (handle.validateAndIncrement number).1 = .ok () ∧
      (handle.validateAndIncrement number).2.Accepts numbers

/-- **A receiver takes the numbers of a sender that starts where it does.** -/
theorem accepts_successive (handle : SequenceNumberHandle) (count : ℕ) :
    handle.Accepts (handle.successive count) := by
  induction count generalizing handle with
  | zero => trivial
  | succ count ih =>
    have taken : handle.validateAndIncrement handle.current = (.ok (), handle.increment 1) := by
      exact if_neg (not_not_intro rfl)
    rw [successive_succ, Accepts, taken]
    exact ⟨rfl, ih (handle.increment 1)⟩

theorem steps_lt (word : handle.currentValue < u32Size) (count : ℕ) :
    (handle.steps count).currentValue < u32Size := by
  induction count with
  | zero => exact word
  | succ count _ =>
    rw [steps_succ, increment]
    split_ifs with last
    · have low := ((handle.steps count).minValue_lt_maxValue).trans (handle.steps count).maxValue_lt
      show (handle.steps count).minValue + 1 - _ - 1 < u32Size
      omega
    · exact Nat.mod_lt _ (by decide)

theorem lt_maxValue (handle : SequenceNumberHandle) {value : ℕ} (small : value < 1024) :
    value < handle.maxValue := by
  unfold maxValue u32Size
  split_ifs <;> omega

/-- **What the check does:** it rejects and changes nothing, or accepts and takes one step. -/
theorem validateAndIncrement_spec (handle : SequenceNumberHandle) (incoming : ℕ) :
    (∃ error, handle.validateAndIncrement incoming = (.error error, handle)) ∨
      handle.validateAndIncrement incoming = (.ok (), (handle.set incoming).increment 1) ∧
        (incoming = handle.currentValue ∨
          handle.isLegacy = true ∧ handle.currentValue = handle.minValue ∧ incoming < 1024) := by
  unfold validateAndIncrement current
  by_cases expected : incoming = handle.currentValue
  · refine inr ⟨?_, inl expected⟩
    rw [if_neg (not_not.mpr expected), expected]
    rfl
  · rw [if_pos expected]
    by_cases jump : (handle.isLegacy && handle.currentValue == handle.minValue &&
        decide (incoming < 1024)) = true
    · rw [if_pos jump]
      simp only [Bool.and_eq_true, beq_iff_eq, decide_eq_true_eq] at jump
      exact inr ⟨rfl, inr ⟨jump.1.1, jump.1.2, jump.2⟩⟩
    · rw [if_neg jump]
      exact inl ⟨_, rfl⟩

/-! ### Jumps -/

def period (handle : SequenceNumberHandle) : ℕ := handle.maxValue - handle.minValue + 1

theorem steps_eq (range : handle.InRange) (count : ℕ) :
    handle.steps count = { handle with
      currentValue :=
        handle.minValue + (handle.currentValue - handle.minValue + count) % handle.period } := by
  have below := handle.minValue_lt_maxValue
  obtain ⟨low, high⟩ := range
  induction count with
  | zero =>
    have start : (handle.currentValue - handle.minValue + 0) % handle.period =
        handle.currentValue - handle.minValue := Nat.mod_eq_of_lt (by unfold period; omega)
    rw [start, Nat.add_sub_cancel' low]
    rfl
  | succ count ih =>
    have here := Nat.mod_lt (handle.currentValue - handle.minValue + count) (y := handle.period)
      (by unfold period; omega)
    have next : (handle.currentValue - handle.minValue + (count + 1)) % handle.period =
        if (handle.currentValue - handle.minValue + count) % handle.period + 1 = handle.period
        then 0 else (handle.currentValue - handle.minValue + count) % handle.period + 1 := by
      rw [← Nat.add_assoc, Nat.add_mod, Nat.mod_eq_of_lt (a := 1) (by unfold period; omega)]
      split_ifs with last
      · rw [last, Nat.mod_self]
      · exact Nat.mod_eq_of_lt (by omega)
    rw [steps_succ, ih, next]
    generalize (handle.currentValue - handle.minValue + count) % handle.period = offset at here
    have within : handle.minValue + offset ≤ handle.maxValue := by
      unfold period at here
      omega
    have stepped : ({ handle with currentValue := handle.minValue + offset } :
        SequenceNumberHandle).increment 1 = _ := increment_one within
    rw [stepped]
    show SequenceNumberHandle.mk handle.isLegacy (if handle.minValue + offset = handle.maxValue
      then handle.minValue else handle.minValue + offset + 1) = ⟨handle.isLegacy, _⟩
    congr 1
    unfold period
    split_ifs <;> omega

theorem inRange_steps (range : handle.InRange) (count : ℕ) : (handle.steps count).InRange := by
  have inside := Nat.mod_lt (handle.currentValue - handle.minValue + count) (y := handle.period)
    (Nat.succ_pos _)
  have below := handle.minValue_lt_maxValue
  rw [steps_eq range]
  refine ⟨Nat.le_add_right _ _, ?_⟩
  show handle.minValue + _ ≤ handle.maxValue
  unfold period at *
  omega

theorem isLegacy_steps (range : handle.InRange) (count : ℕ) :
    (handle.steps count).isLegacy = handle.isLegacy := by
  rw [steps_eq range]

/-- A jump wraps around at most once, and misses no whole rounds. -/
def JumpsOnce (handle : SequenceNumberHandle) (count : ℕ) : Prop :=
  handle.currentValue - handle.minValue + count % u32Size < 2 * handle.period ∧
    count % u32Size ≡ count [MOD handle.period]

/-- **A jump by a number of steps, as a `u32`,** is as many single steps exactly if it wraps around
at most once and misses no whole rounds. -/
theorem increment_eq_steps_iff (range : handle.InRange) (count : ℕ) :
    handle.increment (count % u32Size) = handle.steps count ↔
      handle.JumpsOnce count := by
  have word := handle.maxValue_lt
  obtain ⟨low, high⟩ := range
  have jump : handle.increment (count % u32Size) = { handle with
      currentValue := handle.minValue +
        if handle.period ≤ handle.currentValue - handle.minValue + count % u32Size then
          handle.currentValue - handle.minValue + count % u32Size - handle.period
        else handle.currentValue - handle.minValue + count % u32Size } := by
    have remaining : (handle.maxValue + u32Size - handle.currentValue) % u32Size =
        handle.maxValue - handle.currentValue := by
      rw [Nat.sub_add_comm high, Nat.add_mod_right, Nat.mod_eq_of_lt (by omega)]
    unfold increment
    dsimp only
    unfold period
    split_ifs with wraps goes goes
    · congr 1
      omega
    · omega
    · omega
    · rw [Nat.mod_eq_of_lt (by omega)]
      congr 1
      omega
  rw [jump, steps_eq ⟨low, high⟩, SequenceNumberHandle.mk.injEq, Nat.add_left_cancel_iff]
  have some : 0 < handle.period := Nat.succ_pos _
  have start : handle.currentValue - handle.minValue < handle.period := by
    unfold period
    omega
  unfold JumpsOnce
  generalize handle.currentValue - handle.minValue = offset at start
  generalize handle.period = period at some start
  generalize count % u32Size = jumped
  have under := Nat.mod_lt (offset + count) some
  have congruent : jumped ≡ count [MOD period] ↔ offset + jumped ≡ offset + count [MOD period] :=
    ⟨fun same => same.add_left offset, fun same => same.add_left_cancel' offset⟩
  rw [congruent]
  unfold Nat.ModEq
  split_ifs with wraps
  · constructor
    · rintro ⟨-, equal⟩
      have within : offset + jumped < 2 * period := by omega
      refine ⟨within, ?_⟩
      rw [Nat.mod_eq_sub_mod wraps, Nat.mod_eq_of_lt (by omega), equal]
    · rintro ⟨within, equal⟩
      rw [Nat.mod_eq_sub_mod wraps, Nat.mod_eq_of_lt (by omega)] at equal
      exact ⟨rfl, equal⟩
  · rw [Nat.mod_eq_of_lt (Nat.lt_of_not_le wraps)]
    exact ⟨fun both => ⟨by omega, both.2⟩, fun both => ⟨rfl, both.2⟩⟩

/-- How many numbers a legacy handle has. -/
def legacyNumbers : ℕ := u32Size - 1025

theorem jumpsOnce_of_legacy (legacy : handle.isLegacy = true) (range : handle.InRange) {count : ℕ}
    (few : count ≤ legacyNumbers) : handle.JumpsOnce count := by
  have least : handle.minValue = 1 := by rw [minValue, legacy]; rfl
  have most : handle.maxValue = u32Size - 1 - 1024 := by rw [maxValue, legacy]; rfl
  have high := range.2
  unfold legacyNumbers u32Size at few
  unfold JumpsOnce period
  rw [Nat.mod_eq_of_lt (by unfold u32Size; omega)]
  refine ⟨?_, rfl⟩
  rw [least, most]
  rw [most] at high
  unfold u32Size at high ⊢
  omega

theorem jumpsOnce_of_not_legacy (modern : handle.isLegacy = false) (range : handle.InRange)
    (count : ℕ) : handle.JumpsOnce count := by
  have least : handle.minValue = 0 := by rw [minValue, modern]; rfl
  have most : handle.maxValue = u32Size - 1 := by rw [maxValue, modern]; rfl
  have all : handle.period = u32Size := by rw [period, least, most]; rfl
  have inside := Nat.mod_lt count (y := u32Size) (by decide)
  have word := range.2
  refine ⟨?_, ?_⟩
  · rw [all]
    omega
  · rw [all]
    exact Nat.mod_mod count u32Size

end SequenceNumberHandle

/-! ### A receiver, with what it has accepted -/

structure Receiver where
  handle : SequenceNumberHandle
  wraps : ℕ
  accepted : List (ℕ × ℕ)

namespace Receiver

/-- A receiver whose handle is at its minimum. -/
def start (isLegacy : Bool) : Receiver := ⟨.new isLegacy, 0, []⟩

/-- A number is presented. Accepting the largest number wraps the handle around. -/
def receive (receiver : Receiver) (incoming : ℕ) : Receiver :=
  match receiver.handle.validateAndIncrement incoming with
  | (.error _, handle) => { receiver with handle := handle }
  | (.ok (), handle) =>
    { handle := handle
      wraps := if incoming = receiver.handle.maxValue then receiver.wraps + 1 else receiver.wraps
      accepted := receiver.accepted ++ [(receiver.wraps, incoming)] }

end Receiver

def receivers : Machine Receiver ℕ where
  step receiver incoming := some (receiver.receive incoming)

namespace Receiver

/-- **The case that goes wrong:** a legacy handle that expects its minimum is presented a zero, and
the last number it has accepted was a zero. -/
def RepeatsZero (receiver : Receiver) (incoming : ℕ) : Prop :=
  receiver.handle.isLegacy = true ∧ receiver.handle.current = receiver.handle.minValue ∧
    incoming = 0 ∧ receiver.accepted.getLast?.map Prod.snd = some 0

/-- What is accepted since the last wrap is below the handle, and a zero among it that leaves the
handle at its minimum is the last one. -/
structure Ordered (receiver : Receiver) : Prop where
  range : receiver.handle.InRange
  past : ∀ entry ∈ receiver.accepted, entry.1 ≤ receiver.wraps
  below : ∀ entry ∈ receiver.accepted, entry.1 = receiver.wraps →
    entry.2 < receiver.handle.currentValue
  zero : (receiver.wraps, 0) ∈ receiver.accepted → receiver.handle.currentValue = 1 →
    receiver.accepted.getLast? = some (receiver.wraps, 0)
  last : receiver.accepted.getLast?.map Prod.snd = some 0 →
    receiver.accepted.getLast? = some (receiver.wraps, 0)

theorem ordered_start (isLegacy : Bool) : (start isLegacy).Ordered where
  range := SequenceNumberHandle.inRange_new isLegacy
  past _ member := by cases member
  below _ member := by cases member
  zero member := by cases member
  last none := by cases none

/-- The numbers a handle accepts: the expected one, or any below 1024 at a legacy minimum. -/
def Accepts (receiver : Receiver) (incoming : ℕ) : Prop :=
  incoming = receiver.handle.currentValue ∨ receiver.handle.isLegacy = true ∧
    receiver.handle.currentValue = receiver.handle.minValue ∧ incoming < 1024

/-- The receiver after it accepts the largest number. -/
def wrapped (receiver : Receiver) (incoming : ℕ) : Receiver where
  handle := { receiver.handle with currentValue := receiver.handle.minValue }
  wraps := receiver.wraps + 1
  accepted := receiver.accepted ++ [(receiver.wraps, incoming)]

/-- The receiver after it accepts any other number. -/
def advanced (receiver : Receiver) (incoming : ℕ) : Receiver where
  handle := { receiver.handle with currentValue := incoming + 1 }
  wraps := receiver.wraps
  accepted := receiver.accepted ++ [(receiver.wraps, incoming)]

theorem receive_spec (receiver : Receiver) (within : receiver.handle.InRange) (incoming : ℕ) :
    receiver.receive incoming = receiver ∨
      receiver.Accepts incoming ∧
        (incoming = receiver.handle.maxValue ∧
            receiver.receive incoming = receiver.wrapped incoming ∨
          incoming < receiver.handle.maxValue ∧
            receiver.receive incoming = receiver.advanced incoming) := by
  unfold receive
  obtain ⟨error, rejected⟩ | ⟨accepted, allowed⟩ :=
    receiver.handle.validateAndIncrement_spec incoming
  · rw [rejected]
    exact inl rfl
  refine inr ⟨allowed, ?_⟩
  have bounded : incoming ≤ receiver.handle.maxValue := by
    rcases allowed with rfl | ⟨-, -, small⟩
    · exact within.2
    · exact (receiver.handle.lt_maxValue small).le
  have stepped : (receiver.handle.set incoming).increment 1 =
      { receiver.handle with
        currentValue :=
          if incoming = receiver.handle.maxValue then receiver.handle.minValue
          else incoming + 1 } :=
    SequenceNumberHandle.increment_one bounded
  rw [accepted, stepped]
  by_cases largest : incoming = receiver.handle.maxValue
  · refine inl ⟨largest, ?_⟩
    simp [if_pos largest, wrapped]
  · refine inr ⟨lt_of_le_of_ne bounded largest, ?_⟩
    simp [if_neg largest, advanced]

variable {receiver : Receiver} {incoming : ℕ}

section

variable (ordered : receiver.Ordered)
include ordered

theorem Ordered.wrapped (largest : incoming = receiver.handle.maxValue) :
    (receiver.wrapped incoming).Ordered := by
  have top := receiver.handle.minValue_lt_maxValue
  have before : ∀ entry ∈ receiver.accepted ++ [(receiver.wraps, incoming)],
      entry.1 ≤ receiver.wraps := by
    intro entry member
    obtain old | new := mem_append.mp member
    · exact ordered.past entry old
    · rw [mem_singleton.mp new]
  refine ⟨⟨le_refl _, top.le⟩, fun entry member => (before entry member).trans (Nat.le_succ _),
    fun entry member since => ?_, fun member => ?_, fun zero => ?_⟩
  · exact absurd (before entry member) (since ▸ Nat.not_succ_le_self _)
  · exact absurd (before _ member) (Nat.not_succ_le_self _)
  · have zero : (getLast? (receiver.accepted ++ [(receiver.wraps, incoming)])).map Prod.snd =
        some 0 := zero
    rw [getLast?_concat, Option.map_some, Option.some.injEq] at zero
    omega

theorem Ordered.advanced (accepts : receiver.Accepts incoming)
    (smaller : incoming < receiver.handle.maxValue) : (receiver.advanced incoming).Ordered := by
  have low : receiver.handle.minValue ≤ 1 := by
    unfold SequenceNumberHandle.minValue
    split_ifs <;> omega
  refine ⟨⟨?_, smaller⟩, fun entry member => ?_, fun entry member since => ?_,
    fun _ atOne => ?_, fun zero => ?_⟩
  · show receiver.handle.minValue ≤ incoming + 1
    omega
  · obtain old | new := mem_append.mp member
    · exact ordered.past entry old
    · rw [mem_singleton.mp new]
      exact le_refl _
  · show entry.2 < incoming + 1
    obtain old | new := mem_append.mp member
    · have under := ordered.below entry old since
      rcases accepts with rfl | ⟨-, atMin, -⟩ <;> omega
    · rw [mem_singleton.mp new]
      exact Nat.lt_succ_self _
  · have zero : incoming = 0 := Nat.succ.inj atOne
    show getLast? (receiver.accepted ++ [(receiver.wraps, incoming)]) = _
    rw [getLast?_concat, zero]
    rfl
  · have last : (getLast? (receiver.accepted ++ [(receiver.wraps, incoming)])).map Prod.snd =
        some 0 := zero
    rw [getLast?_concat, Option.map_some, Option.some.injEq] at last
    have zero : incoming = 0 := last
    show getLast? (receiver.accepted ++ [(receiver.wraps, incoming)]) = _
    rw [getLast?_concat, zero]
    rfl

theorem Ordered.receive (incoming : ℕ) : (receiver.receive incoming).Ordered := by
  obtain same | ⟨accepts, ⟨largest, wraps⟩ | ⟨smaller, advances⟩⟩ :=
    receiver.receive_spec ordered.range incoming
  · rw [same]
    exact ordered
  · rw [wraps]
    exact ordered.wrapped largest
  · rw [advances]
    exact ordered.advanced accepts smaller

theorem Ordered.nodup (nodup : receiver.accepted.Nodup) (single : ¬ receiver.RepeatsZero incoming) :
    (receiver.receive incoming).accepted.Nodup := by
  obtain same | ⟨accepts, received⟩ := receiver.receive_spec ordered.range incoming
  · rwa [same]
  have grown : (receiver.receive incoming).accepted =
      receiver.accepted ++ [(receiver.wraps, incoming)] := by
    rcases received with ⟨-, wraps⟩ | ⟨-, advances⟩
    · rw [wraps]
      rfl
    · rw [advances]
      rfl
  rw [grown]
  have single' : [(receiver.wraps, incoming)].Nodup := nodup_cons.mpr ⟨not_mem_nil, nodup_nil⟩
  refine nodup_append.mpr ⟨nodup, single', fun entry old other new => ?_⟩
  rw [mem_singleton] at new
  rw [new]
  rintro rfl
  have under : incoming < receiver.handle.currentValue := ordered.below _ old rfl
  rcases accepts with expected | ⟨legacy, atMin, -⟩
  · omega
  · have one : receiver.handle.minValue = 1 := by
      rw [SequenceNumberHandle.minValue, if_pos legacy]
    have zero : incoming = 0 := by omega
    refine single ⟨legacy, atMin, zero, ?_⟩
    rw [zero] at old
    rw [ordered.zero old (atMin.trans one)]
    rfl

theorem Ordered.repeats (repeats : receiver.RepeatsZero incoming) :
    ¬ (receiver.receive incoming).accepted.Nodup := by
  obtain ⟨legacy, atMin, rfl, last⟩ := repeats
  have before := ordered.last last
  obtain ⟨error, rejected⟩ | ⟨accepted, -⟩ := receiver.handle.validateAndIncrement_spec 0
  · have one : receiver.handle.minValue = 1 := by
      rw [SequenceNumberHandle.minValue, if_pos legacy]
    unfold SequenceNumberHandle.validateAndIncrement at rejected
    rw [atMin, one, legacy] at rejected
    simp at rejected
  · unfold Receiver.receive
    rw [accepted]
    intro nodup
    have apart := (nodup_append.mp nodup).2.2 _ (mem_of_getLast? before) _
      (mem_singleton_self _)
    exact apart rfl

end

theorem accepted_sublist (incoming : List ℕ) (receiver : Receiver) :
    receiver.accepted.Sublist (incoming.foldl Receiver.receive receiver).accepted := by
  induction incoming generalizing receiver with
  | nil => exact List.Sublist.refl _
  | cons first rest ih =>
    refine List.Sublist.trans ?_ (ih (receiver.receive first))
    unfold Receiver.receive
    split
    · exact List.Sublist.refl _
    · exact sublist_append_left _ _

theorem Ordered.nodup_iff (ordered : receiver.Ordered) (nodup : receiver.accepted.Nodup)
    (incoming : List ℕ) :
    (incoming.foldl Receiver.receive receiver).accepted.Nodup ↔
      receivers.Guarded (fun receiver number => ¬ receiver.RepeatsZero number) receiver
        incoming := by
  induction incoming generalizing receiver with
  | nil => exact ⟨fun _ => trivial, fun _ => nodup⟩
  | cons first rest ih =>
    have later : ∀ t, receivers.step receiver first = some t → t = receiver.receive first :=
      fun t stepped => (Option.some.inj stepped).symm
    by_cases repeats : receiver.RepeatsZero first
    · refine ⟨fun after => ?_, fun guarded => absurd repeats guarded.1⟩
      exact absurd (after.sublist (accepted_sublist rest _)) (ordered.repeats repeats)
    · rw [foldl_cons, ih (ordered.receive first) (ordered.nodup nodup repeats)]
      constructor
      · exact fun guarded => ⟨repeats, fun t stepped => later t stepped ▸ guarded⟩
      · exact fun guarded => guarded.2 _ rfl

/-- **Sequence numbers are not replayed** between two wraps exactly where no zero is repeated, and a
rejected number changes nothing. -/
theorem sequence_numbers_not_replayed_iff (isLegacy : Bool) (incoming : List ℕ) :
    ((incoming.foldl Receiver.receive (start isLegacy)).accepted.Nodup ∧
      ∀ (handle : SequenceNumberHandle) (number : ℕ),
        (handle.validateAndIncrement number).1 ≠ .ok () →
          (handle.validateAndIncrement number).2 = handle) ↔
      receivers.Guarded (fun receiver number => ¬ receiver.RepeatsZero number) (start isLegacy)
        incoming := by
  rw [← (ordered_start isLegacy).nodup_iff nodup_nil incoming]
  refine ⟨fun both => both.1, fun nodup => ⟨nodup, fun handle number rejected => ?_⟩⟩
  obtain ⟨error, spec⟩ | ⟨spec, -⟩ := handle.validateAndIncrement_spec number
  · rw [spec]
  · rw [spec] at rejected
    exact absurd rfl rejected

theorem zero_accepted_twice :
    ¬ ∀ (isLegacy : Bool) (incoming : List ℕ),
      (incoming.foldl Receiver.receive (start isLegacy)).accepted.Nodup := by
  intro always
  exact absurd (always true [0, 0]) (by decide)

end Receiver

end AsyncOpcua.Comms
