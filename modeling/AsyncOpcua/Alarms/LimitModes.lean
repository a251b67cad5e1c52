/-
**The two modes of a limit alarm on the same values.**

The exclusive evaluator remembers one level, the other one a flag for each limit. Numbers are
rational.

* `modes_agree_iff` — the flags are always consistent, and the modes agree exactly if no value falls
  from beyond an outer limit into the deadband of the inner one.
-/

import AsyncOpcua.Alarms.LimitAlarm
import AsyncOpcua.Foundation.Transition
import Mathlib.Algebra.Order.Ring.Rat
import Mathlib.Data.List.ReduceOption
import Mathlib.Tactic.Linarith

namespace AsyncOpcua.Alarms

open Foundation List Or

/-- Exact numbers; the clock is not read. -/
def Floats.rationals : Floats where
  F64 := ℚ
  zero := 0
  add := (· + ·)
  sub := (· - ·)
  lt := fun x y => decide (x < y)
  le := fun x y => decide (x ≤ y)
  isFinite := fun _ => true
  elapsedMs := fun ticks => ticks / 10000

instance : LinearOrder Floats.rationals.F64 := inferInstanceAs (LinearOrder ℚ)

instance : Field Floats.rationals.F64 := inferInstanceAs (Field ℚ)

instance : IsStrictOrderedRing Floats.rationals.F64 := inferInstanceAs (IsStrictOrderedRing ℚ)

abbrev Number := Floats.rationals.F64

abbrev Limit := LimitDef Floats.rationals

abbrev Config := LimitConfig Floats.rationals

namespace LimitConfig

def configuredLimits (cfg : Config) : List (Limit) :=
  [cfg.highHigh, cfg.high, cfg.low, cfg.lowLow].reduceOption

/-- The distance to the limits beside one of the configured limits; `none` is infinite. -/
def nearestGap (limits : List (Limit)) (index : ℕ) (limit : Limit) : Option ℚ :=
  let upper := if index = 0 then none else limits[index - 1]?
  [upper.map fun upper => upper.value - limit.value,
    limits[index + 1]?.map fun lower => limit.value - lower.value].reduceOption.min?

def validate (cfg : Config) : Bool :=
  let limits := cfg.configuredLimits
  limits.all (fun limit => decide (0 ≤ limit.deadband)) &&
    (limits.zip limits.tail).all (fun (upper, lower) => decide (lower.value ≤ upper.value)) &&
    limits.zipIdx.all fun (limit, index) =>
      (nearestGap limits index limit).all fun gap => decide (limit.deadband < gap)

def Clear (upper lower : Limit) : Prop :=
  lower.value < upper.value - upper.deadband ∧ lower.value + lower.deadband < upper.value ∧
    0 ≤ upper.deadband ∧ 0 ≤ lower.deadband

theorem Clear.trans {first second third : Limit} (upper : Clear first second)
    (lower : Clear second third) : Clear first third := by
  obtain ⟨_, _, _, _⟩ := upper
  obtain ⟨_, _, _, _⟩ := lower
  refine ⟨?_, ?_, ?_, ?_⟩ <;> linarith

instance : IsTrans (Limit) Clear := ⟨fun _ _ _ => Clear.trans⟩

theorem lt_of_min? {x : ℚ} {a b : Option ℚ}
    (below : [a, b].reduceOption.min?.all (fun gap => decide (x < gap)) = true) :
    (∀ gap ∈ a, x < gap) ∧ ∀ gap ∈ b, x < gap := by
  cases a <;> cases b <;> simp_all [reduceOption, min?]

theorem clear_of_validate {cfg : Config} (valid : cfg.validate = true) :
    cfg.configuredLimits.Pairwise Clear := by
  rw [← isChain_iff_pairwise, isChain_iff_getElem]
  intro i inside
  simp only [validate, Bool.and_eq_true, all_eq_true, decide_eq_true_eq] at valid
  obtain ⟨⟨positive, -⟩, gaps⟩ := valid
  have upper := lt_of_min? (gaps (cfg.configuredLimits[i], i)
    (by simp [mem_zipIdx_iff_getElem?]))
  have lower := lt_of_min? (gaps (cfg.configuredLimits[i + 1], i + 1)
    (by simp [mem_zipIdx_iff_getElem?, inside]))
  have below := upper.2 (cfg.configuredLimits[i].value - cfg.configuredLimits[i + 1].value)
    (by simp [inside]; rfl)
  have above := lower.1 (cfg.configuredLimits[i].value - cfg.configuredLimits[i + 1].value)
    (by simp [Nat.lt_of_succ_lt inside]; rfl)
  exact ⟨lt_sub_comm.mp below, lt_sub_iff_add_lt'.mp above, positive _ (by simp),
    positive _ (by simp)⟩

/-- The limits in the order of their levels. -/
structure Ordered (cfg : Config) : Prop where
  highHigh : ∀ upper ∈ cfg.highHigh, (∀ lower ∈ cfg.high, Clear upper lower) ∧
    (∀ lower ∈ cfg.low, Clear upper lower) ∧ ∀ lower ∈ cfg.lowLow, Clear upper lower
  high : ∀ upper ∈ cfg.high, (∀ lower ∈ cfg.low, Clear upper lower) ∧
    ∀ lower ∈ cfg.lowLow, Clear upper lower
  low : ∀ upper ∈ cfg.low, ∀ lower ∈ cfg.lowLow, Clear upper lower

theorem ordered_of_validate {cfg : Config} (valid : cfg.validate = true) : cfg.Ordered := by
  have clear := clear_of_validate valid
  simp only [configuredLimits, reduceOption, pairwise_filterMap, pairwise_cons,
    mem_cons, forall_eq_or_imp, id_eq] at clear
  obtain ⟨first, second, third, -⟩ := clear
  constructor
  · exact fun upper there => ⟨fun lower => first.1 upper there lower,
      fun lower => first.2.1 upper there lower, fun lower => first.2.2.1 upper there lower⟩
  · exact fun upper there => ⟨fun lower => second.1 upper there lower,
      fun lower => second.2.1 upper there lower⟩
  · exact fun upper there lower => third.1 upper there lower

end LimitConfig

/-! ### One value -/

section Value

variable {value : Number} {upper lower limit : Limit} {was other : Bool}

theorem highExceeded_iff : highExceeded value limit was = true ↔ limit.value < value ∨
    0 < limit.deadband ∧ was = true ∧ limit.value - limit.deadband ≤ value := by
  show (if decide (limit.value < value) = true then true else
    decide (0 < limit.deadband) && was && decide (limit.value - limit.deadband ≤ value)) = true ↔ _
  by_cases above : limit.value < value <;> simp [above, and_assoc]

theorem lowExceeded_iff : lowExceeded value limit was = true ↔ value < limit.value ∨
    0 < limit.deadband ∧ was = true ∧ value ≤ limit.value + limit.deadband := by
  show (if decide (value < limit.value) = true then true else
    decide (0 < limit.deadband) && was && decide (value ≤ limit.value + limit.deadband)) = true ↔ _
  by_cases below : value < limit.value <;> simp [below, and_assoc]

section

variable (clear : LimitConfig.Clear upper lower)
include clear

theorem high_beyond (exceeded : highExceeded value upper was = true) : lower.value < value := by
  obtain ⟨_, _, _, _⟩ := clear
  rcases highExceeded_iff.mp exceeded with _ | ⟨_, _, _⟩ <;> linarith

theorem low_beyond (exceeded : lowExceeded value lower was = true) : value < upper.value := by
  obtain ⟨_, _, _, _⟩ := clear
  rcases lowExceeded_iff.mp exceeded with _ | ⟨_, _, _⟩ <;> linarith

/-- A limit above is exceeded together with one below only if both were before. -/
theorem both_before
    (high : highExceeded value upper was = true) (low : lowExceeded value lower other = true) :
    was = true ∧ other = true := by
  have := high_beyond clear high
  have := low_beyond clear low
  constructor
  · rcases highExceeded_iff.mp high with _ | ⟨_, kept, _⟩
    · linarith
    · exact kept
  · rcases lowExceeded_iff.mp low with _ | ⟨_, kept, _⟩
    · linarith
    · exact kept

end
end Value

/-! ### Both modes -/

namespace NonExclusiveState

def mostSevere (state : NonExclusiveState) : Option LimitLevel :=
  if state.highHigh then some .highHigh
  else if state.high then some .high
  else if state.lowLow then some .lowLow
  else if state.low then some .low
  else none

/-- Outer limits are flagged with the inner ones, and high limits never with low ones. -/
def Consistent (cfg : Config) (flags : NonExclusiveState) : Prop :=
  (flags.highHigh = true → cfg.high.isSome → flags.high = true) ∧
    (flags.lowLow = true → cfg.low.isSome → flags.low = true) ∧
    ¬ ((flags.highHigh = true ∨ flags.high = true) ∧ (flags.low = true ∨ flags.lowLow = true))

/-- Not from beyond an outer limit into the deadband of the inner one. -/
def Gradual (cfg : Config) (flags : NonExclusiveState) (value : Number) : Prop :=
  (flags.highHigh = true → ∀ high ∈ cfg.high,
      ¬ (0 < high.deadband ∧ high.value - high.deadband ≤ value ∧ value ≤ high.value)) ∧
    (flags.lowLow = true → ∀ low ∈ cfg.low,
      ¬ (0 < low.deadband ∧ low.value ≤ value ∧ value ≤ low.value + low.deadband))

def next (cfg : Config) (flags : NonExclusiveState) (value : Number) : NonExclusiveState where
  highHigh := cfg.highHigh.any fun limit => highExceeded value limit flags.highHigh
  high := cfg.high.any fun limit => highExceeded value limit flags.high
  low := cfg.low.any fun limit => lowExceeded value limit flags.low
  lowLow := cfg.lowLow.any fun limit => lowExceeded value limit flags.lowLow

end NonExclusiveState

open NonExclusiveState

/-- **Both evaluators on the same values.** -/
def modes (cfg : Config) : Machine (ActiveLimits × ActiveLimits) Number where
  step s value := some
    ((LimitEvaluator.evaluate value { cfg with mode := .exclusive } s.1).limits,
      (LimitEvaluator.evaluate value { cfg with mode := .nonExclusive } s.2).limits)

def inactive : ActiveLimits × ActiveLimits :=
  (inactiveLimitsForMode .exclusive, inactiveLimitsForMode .nonExclusive)

def Agree (s : ActiveLimits × ActiveLimits) : Prop :=
  ∃ flags, s.2 = .nonExclusive flags ∧ s.1 = .exclusive flags.mostSevere

section Step

variable {cfg : Config} {flags : NonExclusiveState} {value : Number}

theorem consistent_next (ordered : cfg.Ordered) (consistent : flags.Consistent cfg) :
    (flags.next cfg value).Consistent cfg := by
  obtain ⟨-, -, apart⟩ := consistent
  refine ⟨fun flagged configured => ?_, fun flagged configured => ?_, ?_⟩
  · obtain ⟨inner, there⟩ := Option.isSome_iff_exists.mp configured
    obtain ⟨outer, here, exceeded⟩ := (Option.any_eq_true ..).mp flagged
    have beyond := high_beyond ((ordered.highHigh outer here).1 inner there) exceeded
    exact (Option.any_eq_true ..).mpr ⟨inner, there, highExceeded_iff.mpr (inl beyond)⟩
  · obtain ⟨inner, there⟩ := Option.isSome_iff_exists.mp configured
    obtain ⟨outer, here, exceeded⟩ := (Option.any_eq_true ..).mp flagged
    have beyond := low_beyond (ordered.low inner there outer here) exceeded
    exact (Option.any_eq_true ..).mpr ⟨inner, there, lowExceeded_iff.mpr (inl beyond)⟩
  · simp only [NonExclusiveState.next, Option.any_eq_true]
    rintro ⟨⟨upper, here, high⟩ | ⟨upper, here, high⟩, ⟨lower, there, low⟩ | ⟨lower, there, low⟩⟩
    · have both := both_before ((ordered.highHigh upper here).2.1 lower there) high low
      exact apart ⟨inl both.1, inl both.2⟩
    · have both := both_before ((ordered.highHigh upper here).2.2 lower there) high low
      exact apart ⟨inl both.1, inr both.2⟩
    · have both := both_before ((ordered.high upper here).1 lower there) high low
      exact apart ⟨inr both.1, inl both.2⟩
    · have both := both_before ((ordered.high upper here).2 lower there) high low
      exact apart ⟨inr both.1, inr both.2⟩

/-- The exclusive evaluator takes an inner limit for exceeded unless an outer one was. -/
theorem evaluateExclusive_limits (consistent : flags.Consistent cfg) :
    (evaluateExclusive value cfg (.exclusive flags.mostSevere)).limits =
      .exclusive (mostSevere
        { flags.next cfg value with
          high := cfg.high.any fun limit => highExceeded value limit (flags.high && !flags.highHigh)
          low := cfg.low.any fun limit =>
            lowExceeded value limit (flags.low && !flags.lowLow) }) := by
  obtain ⟨hh, h, l, ll⟩ := flags
  obtain ⟨-, -, apart⟩ := consistent
  have levels : decide (mostSevere ⟨hh, h, l, ll⟩ = some .highHigh) = hh ∧
      decide (mostSevere ⟨hh, h, l, ll⟩ = some .high) = (h && !hh) ∧
      decide (mostSevere ⟨hh, h, l, ll⟩ = some .low) = (l && !ll) ∧
      decide (mostSevere ⟨hh, h, l, ll⟩ = some .lowLow) = ll := by
    revert apart
    revert hh h l ll
    decide
  simp only [evaluateExclusive, outcomeForExistingState, levels]
  rfl

theorem mostSevere_congr : ∀ {hh h h' l l' ll : Bool}, (h' = true → h = true) →
    (l' = true → l = true) → ((mostSevere ⟨hh, h', l', ll⟩ =
      mostSevere ⟨hh, h, l, ll⟩) ↔
        (hh = true ∨ h' = h) ∧ (hh = true ∨ h = true ∨ ll = true ∨ l' = l)) := by
  decide

theorem high_kept_iff {inner outer : Bool} {limit : Option (Limit)} :
    (limit.any fun limit => highExceeded value limit (inner && !outer)) =
        (limit.any fun limit => highExceeded value limit inner) ↔
      ∀ high ∈ limit, ¬ (inner = true ∧ outer = true ∧ 0 < high.deadband ∧
        high.value - high.deadband ≤ value ∧ value ≤ high.value) := by
  rw [Bool.eq_iff_iff]
  cases limit with
  | none => simp
  | some high => simp [highExceeded_iff]; grind

theorem low_kept_iff {inner outer : Bool} {limit : Option (Limit)} :
    (limit.any fun limit => lowExceeded value limit (inner && !outer)) =
        (limit.any fun limit => lowExceeded value limit inner) ↔
      ∀ low ∈ limit, ¬ (inner = true ∧ outer = true ∧ 0 < low.deadband ∧
        low.value ≤ value ∧ value ≤ low.value + low.deadband) := by
  rw [Bool.eq_iff_iff]
  cases limit with
  | none => simp
  | some low => simp [lowExceeded_iff]; grind

theorem agree_next_iff (ordered : cfg.Ordered) (consistent : flags.Consistent cfg) :
    (evaluateExclusive value cfg (.exclusive flags.mostSevere)).limits =
      .exclusive (flags.next cfg value).mostSevere ↔ flags.Gradual cfg value := by
  rw [evaluateExclusive_limits consistent, ActiveLimits.exclusive.injEq, mostSevere_congr]
  · show (_ ∨ _ = cfg.high.any fun limit => highExceeded value limit flags.high) ∧
      (_ ∨ _ ∨ _ ∨ _ = cfg.low.any fun limit => lowExceeded value limit flags.low) ↔ _
    rw [high_kept_iff, low_kept_iff]
    obtain ⟨inHigh, inLow, apart⟩ := consistent
    refine and_congr ⟨?_, ?_⟩ ⟨?_, ?_⟩
    · rintro same outer high there ⟨positive, from_, to_⟩
      have inner := inHigh outer (Option.isSome_of_mem there)
      refine same.elim (fun flagged => ?_) fun same =>
        same high there ⟨inner, outer, positive, from_, to_⟩
      obtain ⟨highHigh, here, exceeded⟩ := (Option.any_eq_true ..).mp flagged
      have beyond := high_beyond ((ordered.highHigh highHigh here).1 high there) exceeded
      exact absurd beyond (not_lt.mpr to_)
    · exact fun gradual => inr fun high there zone => gradual zone.2.1 high there zone.2.2
    · rintro same outer low there ⟨positive, from_, to_⟩
      have inner := inLow outer (Option.isSome_of_mem there)
      have kept := lowExceeded_iff.mpr (inr ⟨positive, inner, to_⟩)
      rcases same with flagged | flagged | flagged | same
      · obtain ⟨upper, here, exceeded⟩ := (Option.any_eq_true ..).mp flagged
        have both := both_before ((ordered.highHigh upper here).2.1 low there) exceeded kept
        exact apart ⟨inl both.1, inl inner⟩
      · obtain ⟨upper, here, exceeded⟩ := (Option.any_eq_true ..).mp flagged
        have both := both_before ((ordered.high upper here).1 low there) exceeded kept
        exact apart ⟨inr both.1, inl inner⟩
      · obtain ⟨lowLow, here, exceeded⟩ := (Option.any_eq_true ..).mp flagged
        exact absurd (low_beyond (ordered.low low there lowLow here) exceeded) (not_lt.mpr from_)
      · exact same low there ⟨inner, outer, positive, from_, to_⟩
    · exact fun gradual => inr (inr (inr fun low there zone =>
        gradual zone.2.1 low there zone.2.2))
  · intro exceeded
    obtain ⟨high, there, exceeded⟩ := (Option.any_eq_true ..).mp exceeded
    refine (Option.any_eq_true ..).mpr ⟨high, there, ?_⟩
    rw [highExceeded_iff] at exceeded ⊢
    exact exceeded.imp_right fun ⟨positive, was, kept⟩ => ⟨positive, by simp_all, kept⟩
  · intro exceeded
    obtain ⟨low, there, exceeded⟩ := (Option.any_eq_true ..).mp exceeded
    refine (Option.any_eq_true ..).mpr ⟨low, there, ?_⟩
    rw [lowExceeded_iff] at exceeded ⊢
    exact exceeded.imp_right fun ⟨positive, was, kept⟩ => ⟨positive, by simp_all, kept⟩

end Step

theorem modes_agree_iff {cfg : Config} (valid : cfg.validate = true)
    (values : List Number) :
    ((modes cfg).Always Agree inactive values ↔
      (modes cfg).Guarded (fun s value =>
        ∀ flags, s.2 = .nonExclusive flags → flags.Gradual cfg value) inactive values) ∧
    ∀ s, (modes cfg).run inactive values = some s →
      ∃ flags, s.2 = .nonExclusive flags ∧ flags.Consistent cfg := by
  have ordered := LimitConfig.ordered_of_validate valid
  have begins : NonExclusiveState.default.Consistent cfg := by
    simp [Consistent, NonExclusiveState.default]
  have keeps : ∀ s value t, (∃ flags, s.2 = .nonExclusive flags ∧ flags.Consistent cfg) →
      (modes cfg).step s value = some t →
        ∃ flags, t.2 = .nonExclusive flags ∧ flags.Consistent cfg := by
    rintro ⟨level, _⟩ value t ⟨flags, rfl, consistent⟩ stepped
    cases stepped
    exact ⟨flags.next cfg value, rfl, consistent_next ordered consistent⟩
  refine ⟨(modes cfg).always_iff_guarded _ (fun _ _ => ⟨_, rfl⟩) keeps ?_ ⟨_, rfl, begins⟩
    ⟨_, rfl, rfl⟩, fun s ran => (modes cfg).run_invariant keeps ⟨_, rfl, begins⟩ ran⟩
  rintro ⟨_, _⟩ value t ⟨flags, rfl, consistent⟩ ⟨_, same, rfl⟩ stepped
  cases same
  cases stepped
  have exactly : (evaluateExclusive value cfg (.exclusive flags.mostSevere)).limits = _ ↔
    flags.Gradual cfg value := agree_next_iff ordered consistent
  constructor
  · rintro ⟨_, after, agree⟩ _ before
    cases after
    cases before
    exact exactly.mp agree
  · exact fun gradual => ⟨_, rfl, exactly.mpr (gradual flags rfl)⟩

def twoLimits : Config :=
  ⟨.exclusive, some ⟨(100 : ℚ), (5 : ℚ), 2⟩, some ⟨(50 : ℚ), (5 : ℚ), 1⟩, none, none⟩

theorem modes_agree_iff_falling :
    (modes twoLimits).Always Agree inactive [(110 : ℚ), (60 : ℚ)] := by
  refine (modes_agree_iff (by decide +kernel) _).1.mpr ⟨?_, ?_⟩
  · rintro flags ⟨⟩
    simp [Gradual, NonExclusiveState.default]
  · rintro t ⟨⟩
    refine ⟨?_, fun _ _ => trivial⟩
    rintro flags ⟨⟩
    refine ⟨fun _ high there => ?_, fun _ low there => by cases there⟩
    cases there
    exact fun zone => absurd zone.2.2 (show ¬ (60 : ℚ) ≤ 50 by decide +kernel)

/-- **From 110 to 47:** within the deadband of High only one evaluator still flags it. -/
theorem modes_disagree : ¬ ∀ cfg : Config, cfg.validate = true → ∀ values,
    (modes cfg).Always Agree inactive values := by
  intro agree
  have last := agree twoLimits (by decide +kernel) [(110 : ℚ), (47 : ℚ)]
  obtain ⟨flags, flagged, level⟩ := ((last.2 _ rfl).2 _ rfl)
  have flags_eq : ActiveLimits.nonExclusive ⟨false, true, false, false⟩ = .nonExclusive flags :=
    Eq.trans (by decide +kernel) flagged
  cases flags_eq
  have level_eq : ActiveLimits.exclusive none = .exclusive (some .high) :=
    Eq.trans (by decide +kernel) level
  cases level_eq

end AsyncOpcua.Alarms
