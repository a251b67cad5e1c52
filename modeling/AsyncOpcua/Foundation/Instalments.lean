/-
**Debts that are paid in instalments.**

A debtor owes some things now and others late. An instalment has room for so many things: it pays of
what is owed now until it is full, and only an instalment with room left pays of what is owed late.
Two things can go wrong. If the last creditor is owed something and the instalment that pays it is
full, the late debts are forgotten; and if the late debts do not fit into one instalment, the debtor
starts over at the last creditor, with that creditor's own debts.
-/

import Mathlib.Data.List.Perm.Lattice

namespace AsyncOpcua.Foundation

variable {α β : Type*}

structure Debt (α : Type*) where
  now : List α
  late : List α
  last : List α
  last_le : last.length ≤ now.length

namespace Debt

/-- The late debts are forgotten: the last creditor's own debts end with a full instalment. -/
def Forgets (room : ℕ) (debt : Debt α) : Prop := debt.last ≠ [] ∧ debt.now.length % room = 0

/-- The late debts fit into the instalment that pays the rest of the others. -/
def Fits (room : ℕ) (debt : Debt α) : Prop :=
  debt.late.length ≤ room - debt.now.length % room

instance (room : ℕ) (debt : Debt α) : Decidable (debt.Fits room) :=
  inferInstanceAs (Decidable (_ ≤ _))

end Debt

/-- **An instalment** with room for `room` things, and the debt after it, if there is one. `restart`
is what the last creditor is owed afresh. -/
inductive Pays (room : ℕ) (restart : Debt α) : Debt α → List α → Option (Debt α) → Prop
  | full {debt after : Debt α} {page : List α} (owes : debt.now.Perm (page ++ after.now))
      (late : after.late = debt.late) (fills : page.length = room)
      (last : after.last ≠ [] ↔ debt.last ≠ []) : Pays room restart debt page (some after)
  | forgets {debt : Debt α} {page : List α} (owes : debt.now.Perm page)
      (fills : page.length = room) (last : debt.last ≠ []) : Pays room restart debt page none
  | settles {debt : Debt α} {page : List α} (short : debt.now.length < room)
      (fits : debt.late.length ≤ room - debt.now.length)
      (pays : page.Perm (debt.now ++ debt.late)) : Pays room restart debt page none
  | restarts {debt : Debt α} {page : List α} (short : debt.now.length < room)
      (beyond : room - debt.now.length < debt.late.length)
      (pays : page.Perm (debt.now ++ debt.late.take (room - debt.now.length))) :
      Pays room restart debt page (some restart)

inductive Instalments (room : ℕ) (restart : Debt α) :
    Option (Debt α) → List (List α) → Option (Debt α) → Prop
  | refl (debt : Option (Debt α)) : Instalments room restart debt [] debt
  | step {debt : Debt α} {page : List α} {next last : Option (Debt α)} {pages : List (List α)}
      (pays : Pays room restart debt page next)
      (onward : Instalments room restart next pages last) :
      Instalments room restart (some debt) (page :: pages) last

variable {room : ℕ} {restart debt after : Debt α} {page : List α} {pages : List (List α)}
  {next last : Option (Debt α)}

open List

theorem Pays.length_le (pays : Pays room restart debt page next) : page.length ≤ room := by
  cases pays with
  | full _ _ fills => exact Nat.le_of_eq fills
  | forgets _ fills => exact Nat.le_of_eq fills
  | settles short fits pays =>
    rw [pays.length_eq, length_append]
    omega
  | restarts short beyond pays =>
    rw [pays.length_eq, length_append, length_take]
    omega

theorem Instalments.length_le_room (paid : Instalments room restart next pages last) :
    ∀ page ∈ pages, page.length ≤ room := by
  induction paid with
  | refl => exact fun _ none => by cases none
  | step pays _ ih =>
    intro page member
    rcases mem_cons.mp member with rfl | member
    · exact pays.length_le
    · exact ih page member

theorem forgets_iff_of_full (owes : debt.now.Perm (page ++ after.now)) (fills : page.length = room)
    (last : after.last ≠ [] ↔ debt.last ≠ []) : after.Forgets room ↔ debt.Forgets room := by
  unfold Debt.Forgets
  rw [last, owes.length_eq, length_append, fills, Nat.add_mod_left]

theorem mod_of_full (owes : debt.now.Perm (page ++ after.now)) (fills : page.length = room) :
    debt.now.length % room = after.now.length % room := by
  rw [owes.length_eq, length_append, fills, Nat.add_mod_left]

theorem not_forgets_of_short (short : debt.now.length < room) : ¬ debt.Forgets room := by
  rintro ⟨owed, whole⟩
  rw [Nat.mod_eq_of_lt short] at whole
  have none := debt.last_le
  rw [whole, Nat.le_zero, length_eq_zero_iff] at none
  exact owed none

theorem Instalments.of_none (paid : Instalments room restart none pages last) :
    pages = [] ∧ last = none := by
  cases paid
  exact ⟨rfl, rfl⟩

/-- **What a full row of instalments pays.** -/
theorem Instalments.paid (paid : Instalments room restart (some debt) pages none) :
    (debt.Forgets room → pages.flatten.Perm debt.now) ∧
      (¬ debt.Forgets room → debt.Fits room → pages.flatten.Perm (debt.now ++ debt.late)) ∧
      (¬ debt.Forgets room → ¬ debt.Fits room →
        ∃ again, Instalments room restart (some restart) again none ∧
          pages.flatten.Perm
            (debt.now ++ debt.late.take (room - debt.now.length % room) ++ again.flatten) ∧
          again.length < pages.length) := by
  generalize start : some debt = first at paid
  generalize ended : (none : Option (Debt α)) = last at paid
  induction paid generalizing debt with
  | refl =>
    rw [← start] at ended
    cases ended
  | @step first page next last pages pays onward ih =>
    obtain rfl := Option.some.inj start
    subst ended
    cases pays with
    | full owes late fills last' =>
      rename_i after
      obtain ⟨forgotten, fitting, beyond⟩ := ih rfl rfl
      have same := forgets_iff_of_full owes fills last'
      have left := mod_of_full owes fills
      have fits : after.Fits room ↔ debt.Fits room := by
        unfold Debt.Fits
        rw [left, late]
      rw [← same, ← fits, flatten_cons, ← late, left]
      refine ⟨fun forgets => ?_, fun remembers fits => ?_, fun remembers unfit => ?_⟩
      · exact ((forgotten forgets).append_left page).trans owes.symm
      · refine ((fitting remembers fits).append_left page).trans ?_
        rw [← append_assoc]
        exact owes.symm.append_right _
      · obtain ⟨again, repaid, all, fewer⟩ := beyond remembers unfit
        refine ⟨again, repaid, (all.append_left page).trans ?_, Nat.lt_succ_of_lt fewer⟩
        rw [← append_assoc, ← append_assoc]
        exact (owes.symm.append_right _).append_right _
    | forgets owes fills last' =>
      obtain ⟨rfl, -⟩ := onward.of_none
      have forgets : debt.Forgets room := ⟨last', by rw [owes.length_eq, fills, Nat.mod_self]⟩
      rw [flatten_cons, flatten_nil, append_nil]
      exact ⟨fun _ => owes.symm, fun remembers => absurd forgets remembers,
        fun remembers => absurd forgets remembers⟩
    | settles short fits pays =>
      obtain ⟨rfl, -⟩ := onward.of_none
      have fit : debt.Fits room := by
        unfold Debt.Fits
        rwa [Nat.mod_eq_of_lt short]
      rw [flatten_cons, flatten_nil, append_nil]
      exact ⟨fun forgets => absurd forgets (not_forgets_of_short short), fun _ _ => pays,
        fun _ unfit => absurd fit unfit⟩
    | restarts short beyond pays =>
      have unfit : ¬ debt.Fits room := by
        unfold Debt.Fits
        rw [Nat.mod_eq_of_lt short]
        exact Nat.not_le_of_lt beyond
      rw [flatten_cons, Nat.mod_eq_of_lt short]
      exact ⟨fun forgets => absurd forgets (not_forgets_of_short short),
        fun _ fits => absurd fits unfit,
        fun _ _ => ⟨pages, onward, pays.append_right _, Nat.lt_succ_self _⟩⟩

theorem Instalments.not_endless (nothing : restart.now = []) (positive : 0 < room)
    (unfit : room < restart.late.length) :
    ¬ Instalments room restart (some restart) pages none := by
  intro paid
  have remembers : ¬ restart.Forgets room := not_forgets_of_short (by rw [nothing]; exact positive)
  have beyond : ¬ restart.Fits room := by
    unfold Debt.Fits
    rw [nothing, length_nil, Nat.zero_mod, Nat.sub_zero]
    exact Nat.not_le_of_lt unfit
  induction length : pages.length using Nat.strongRecOn generalizing pages with
  | ind n ih =>
    obtain ⟨again, repaid, -, fewer⟩ := paid.paid.2.2 remembers beyond
    exact ih again.length (length ▸ fewer) repaid rfl

theorem Instalments.now_subset (paid : Instalments room restart (some debt) pages none) :
    ∀ a ∈ debt.now, a ∈ pages.flatten := by
  obtain ⟨forgotten, fitting, beyond⟩ := paid.paid
  intro a owed
  by_cases forgets : debt.Forgets room
  · exact (forgotten forgets).mem_iff.mpr owed
  · by_cases fits : debt.Fits room
    · exact (fitting forgets fits).mem_iff.mpr (mem_append_left _ owed)
    · obtain ⟨again, -, all, -⟩ := beyond forgets fits
      exact all.mem_iff.mpr (mem_append_left _ (mem_append_left _ owed))

/-- **The cases in which a debtor gets done** without paying anything twice, and what is paid. -/
inductive Debt.Settled (room : ℕ) (debt restart : Debt α) : List α → Prop
  | forgets (forgets : debt.Forgets room) : Settled room debt restart debt.now
  | fits (remembers : ¬ debt.Forgets room) (fits : debt.Fits room) :
      Settled room debt restart (debt.now ++ debt.late)
  | restarts (remembers : ¬ debt.Forgets room) (unfit : ¬ debt.Fits room)
      (nothing : restart.now = []) (short : restart.late.length ≤ room) :
      Settled room debt restart
        (debt.now ++ debt.late.take (room - debt.now.length % room) ++ restart.late)

variable {all : List α}

section

variable (positive : 0 < room)
include positive

theorem Instalments.paid_restart (nothing : restart.now = [])
    (short : restart.late.length ≤ room)
    (paid : Instalments room restart (some restart) pages none) :
    pages.flatten.Perm restart.late := by
  have remembers : ¬ restart.Forgets room := not_forgets_of_short (by rw [nothing]; exact positive)
  have fits : restart.Fits room := by
    unfold Debt.Fits
    rwa [nothing, length_nil, Nat.zero_mod, Nat.sub_zero]
  have settled := paid.paid.2.1 remembers fits
  rwa [nothing, nil_append] at settled

/-- **In the good cases a full row pays just what it should.** -/
theorem Instalments.perm_of_settled
    (settled : debt.Settled room restart all)
    (paid : Instalments room restart (some debt) pages none) : pages.flatten.Perm all := by
  cases settled with
  | forgets forgets => exact paid.paid.1 forgets
  | fits remembers fits => exact paid.paid.2.1 remembers fits
  | restarts remembers unfit nothing short =>
    obtain ⟨again, repaid, all, -⟩ := paid.paid.2.2 remembers unfit
    exact all.trans ((repaid.paid_restart positive nothing short).append_left _)

theorem Instalments.length_le_one (nothing : restart.now = [])
    (short : restart.late.length ≤ room)
    (paid : Instalments room restart (some restart) pages last) : pages.length ≤ 1 := by
  cases paid with
  | refl => exact Nat.zero_le _
  | step pays onward =>
    cases pays with
    | full owes _ fills =>
      have length := owes.length_eq
      rw [nothing, length_append, length_nil] at length
      omega
    | forgets owes fills =>
      have length := owes.length_eq
      rw [nothing, length_nil] at length
      omega
    | settles =>
      obtain ⟨rfl, -⟩ := onward.of_none
      exact Nat.le_refl 1
    | restarts _ beyond =>
      rw [nothing, length_nil, Nat.sub_zero] at beyond
      omega

/-- **And it gets done:** there are not many instalments. -/
theorem Instalments.length_le (settled : debt.Settled room restart all)
    (paid : Instalments room restart (some debt) pages last) :
    pages.length ≤ debt.now.length + 2 := by
  generalize start : some debt = first at paid
  induction paid generalizing debt all with
  | refl => exact Nat.zero_le _
  | @step first page next last pages pays onward ih =>
    obtain rfl := Option.some.inj start
    rw [length_cons]
    cases pays with
    | full owes late fills last' =>
      rename_i after
      have same := forgets_iff_of_full owes fills last'
      have left := mod_of_full owes fills
      have length := owes.length_eq
      rw [length_append] at length
      have fits : after.Fits room ↔ debt.Fits room := by
        unfold Debt.Fits
        rw [left, late]
      have further : pages.length ≤ after.now.length + 2 := by
        cases settled with
        | forgets forgets => exact ih (.forgets (same.mpr forgets)) rfl
        | fits remembers fit => exact ih (.fits (mt same.mp remembers) (fits.mpr fit)) rfl
        | restarts remembers unfit nothing short =>
          exact ih (.restarts (mt same.mp remembers) (mt fits.mp unfit) nothing short) rfl
      omega
    | forgets =>
      obtain ⟨rfl, -⟩ := onward.of_none
      exact Nat.succ_le_succ (Nat.zero_le _)
    | settles =>
      obtain ⟨rfl, -⟩ := onward.of_none
      exact Nat.succ_le_succ (Nat.zero_le _)
    | restarts short beyond pays =>
      have unfit : ¬ debt.Fits room := by
        unfold Debt.Fits
        rw [Nat.mod_eq_of_lt short]
        exact Nat.not_le_of_lt beyond
      cases settled with
      | forgets forgets => exact absurd forgets (not_forgets_of_short short)
      | fits _ fits => exact absurd fits unfit
      | restarts _ _ nothing few =>
        have one := onward.length_le_one positive nothing few
        omega

end

/-- **Only in the good cases nothing is paid twice.** -/
theorem Instalments.settled_of_once (key : α → β) (positive : 0 < room)
    (within : ∀ a ∈ restart.now, a ∈ debt.now) (once : (pages.flatten.map key).Nodup)
    (paid : Instalments room restart (some debt) pages none) :
    ∃ all, debt.Settled room restart all := by
  by_cases forgets : debt.Forgets room
  · exact ⟨_, .forgets forgets⟩
  by_cases fits : debt.Fits room
  · exact ⟨_, .fits forgets fits⟩
  obtain ⟨again, repaid, all, -⟩ := paid.paid.2.2 forgets fits
  have nothing : restart.now = [] := by
    refine eq_nil_iff_forall_not_mem.mpr fun a owed => ?_
    have once := (all.map key).nodup_iff.mp once
    rw [map_append, nodup_append'] at once
    refine once.2.2 (mem_map_of_mem (mem_append_left _ (within a owed)))
      (mem_map_of_mem (repaid.now_subset a owed))
  refine ⟨_, .restarts forgets fits nothing (Nat.le_of_not_lt fun unfit => ?_)⟩
  exact Instalments.not_endless nothing positive unfit repaid

end AsyncOpcua.Foundation
