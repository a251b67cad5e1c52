/-
**Values that are staged, and applied or cancelled later.**

Values are staged in slots, several at once. At most one attempt to apply them is under way; what is
staged meanwhile waits, and an attempt that fails leaves what it began with staged.
-/

import Mathlib.Data.List.Basic

namespace AsyncOpcua.Foundation

variable {σ ν : Type*}

inductive StagingEvent (σ ν : Type*) where
  | staged (values : σ → Option ν)
  | began
  | finished (succeeded : Bool)
  | cancelled

/-- Whether what was staged before some events has been applied or cancelled by them; `taken` is
whether an attempt that is under way before them took it. -/
def settled (taken : Bool) : List (StagingEvent σ ν) → Bool
  | [] => false
  | .staged _ :: rest => settled taken rest
  | .began :: rest => settled true rest
  | .finished succeeded :: rest => taken && succeeded || settled false rest
  | .cancelled :: _ => true

/-- **The latest value** staged in a slot and neither applied nor cancelled since. -/
def latest : List (StagingEvent σ ν) → σ → Option ν
  | [], _ => none
  | .staged values :: rest, slot =>
    (latest rest slot).or (if settled false rest then none else values slot)
  | .began :: rest, slot => latest rest slot
  | .finished _ :: rest, slot => latest rest slot
  | .cancelled :: rest, slot => latest rest slot

/-- **Staged values in two layers.** -/
structure Staging (σ ν : Type*) where
  applying : Bool
  before : σ → Option ν
  since : σ → Option ν

namespace Staging

def empty : Staging σ ν := ⟨false, fun _ => none, fun _ => none⟩

def pending (staging : Staging σ ν) (slot : σ) : Option ν :=
  (staging.since slot).or (staging.before slot)

def step (staging : Staging σ ν) : StagingEvent σ ν → Staging σ ν
  | .staged values =>
    if staging.applying then
      { staging with since := fun slot => (values slot).or (staging.since slot) }
    else { staging with before := fun slot => (values slot).or (staging.before slot) }
  | .began => ⟨true, staging.pending, fun _ => none⟩
  | .finished succeeded =>
    ⟨false, if staging.applying && succeeded then staging.since else staging.pending, fun _ => none⟩
  | .cancelled => ⟨staging.applying, fun _ => none, fun _ => none⟩

def run (staging : Staging σ ν) (log : List (StagingEvent σ ν)) : Staging σ ν :=
  log.foldl step staging

theorem run_snoc (staging : Staging σ ν) (log : List (StagingEvent σ ν))
    (event : StagingEvent σ ν) :
    staging.run (log ++ [event]) = (staging.run log).step event := by
  unfold run
  rw [List.foldl_append]
  rfl

def left (taken : Bool) (log : List (StagingEvent σ ν)) (value : Option ν) : Option ν :=
  if settled taken log then none else value

/-- Nothing is staged apart while nothing is being applied. -/
def Sound (staging : Staging σ ν) : Prop :=
  staging.applying = false → ∀ slot, staging.since slot = none

theorem Sound.step {staging : Staging σ ν} (sound : staging.Sound) (event : StagingEvent σ ν) :
    (staging.step event).Sound := by
  intro idle slot
  cases event with
  | staged values =>
    unfold Staging.step at idle ⊢
    split_ifs at idle ⊢ with applying
    · exact absurd (idle.symm.trans applying) Bool.false_ne_true
    · exact sound idle slot
  | began | finished | cancelled => rfl

theorem pending_run_from {staging : Staging σ ν} (sound : staging.Sound)
    (log : List (StagingEvent σ ν)) (slot : σ) :
    (staging.run log).pending slot =
      ((latest log slot).or (left false log (staging.since slot))).or
        (left staging.applying log (staging.before slot)) := by
  induction log generalizing staging with
  | nil => rfl
  | cons event rest ih =>
    show ((staging.step event).run rest).pending slot = _
    rw [ih (sound.step event)]
    cases event with
    | staged values =>
      by_cases applying : staging.applying = true
      · simp only [Staging.step, latest, left, settled, applying, if_true]
        split_ifs <;> simp [*, Option.or_assoc]
      · rw [Bool.not_eq_true] at applying
        simp only [Staging.step, latest, left, settled, applying, Bool.false_eq_true, if_false,
          sound applying slot]
        split_ifs <;> simp [*, Option.or_assoc]
    | began =>
      simp only [Staging.step, latest, left, settled, pending]
      by_cases applying : staging.applying = true
      · rw [applying]
        split_ifs <;> simp [*, Option.or_assoc]
      · rw [Bool.not_eq_true] at applying
        rw [sound applying slot]
        split_ifs <;> simp [*]
    | finished succeeded =>
      simp only [Staging.step, latest, left, settled]
      by_cases applying : staging.applying = true
      · rw [applying]
        cases succeeded <;> split_ifs <;> simp_all [Option.or_assoc, Staging.pending]
      · rw [Bool.not_eq_true] at applying
        split_ifs <;> simp_all [Option.or_assoc, Staging.pending]
    | cancelled =>
      simp only [Staging.step, latest, left, settled]
      split_ifs <;> simp [*]

/-- **The layers show the latest values.** -/
theorem pending_run (log : List (StagingEvent σ ν)) (slot : σ) :
    ((empty : Staging σ ν).run log).pending slot = latest log slot := by
  rw [pending_run_from (fun _ _ => rfl)]
  unfold left empty
  simp

end Staging

end AsyncOpcua.Foundation
