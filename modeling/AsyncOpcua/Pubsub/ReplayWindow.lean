/-
**The replay window of a token.**

Sequence numbers are `u16` values of numbers that only grow, and the window is a bitmap of 64
numbers up to the highest one. As long as all numbers are less than `2 ^ 15` apart, what is ahead
and what is behind is told right, and the bitmap is the end of the set of numbers that were
accepted.

* `window_exact` — which numbers a run of checks accepts, and that a refused one leaves no trace.
-/

import AsyncOpcua.Foundation.SlidingWindow
import AsyncOpcua.Types.DataValue

namespace AsyncOpcua.Pubsub

open Types UInt16
open Foundation

structure ReplayWindow where
  currentToken : Option UInt32
  highest : UInt16
  bitmap : BitVec 64

namespace ReplayWindow

def WINDOW : ℕ := 64

/-- A window that has seen nothing. -/
def new : ReplayWindow := ⟨none, 0, 0⟩

/-- The window after a check, and what the check returns. -/
def check (window : ReplayWindow) (tokenId : UInt32) (sequenceNumber : UInt16) :
    ReplayWindow × Except StatusCode Unit :=
  if window.currentToken ≠ some tokenId then (⟨some tokenId, sequenceNumber, 1⟩, .ok ())
  else
    let ahead := (sequenceNumber - window.highest).toNat
    let behind := (window.highest - sequenceNumber).toNat
    if ahead ≠ 0 ∧ ahead ≤ 65535 / 2 then
      ({ window with
        bitmap := (if WINDOW ≤ ahead then 0 else window.bitmap <<< ahead) ||| 1
        highest := sequenceNumber }, .ok ())
    else if WINDOW ≤ behind then (window, .error StatusCode.BadSecurityChecksFailed)
    else if window.bitmap.getLsbD behind then (window, .error StatusCode.BadSecurityChecksFailed)
    else ({ window with bitmap := window.bitmap ||| 1#64 <<< behind }, .ok ())

/-! ### Numbers that only grow -/

structure Represents (tokenId : UInt32) (window : ReplayWindow) (seen : SlidingWindow) : Prop where
  token : window.currentToken = some tokenId
  highest : window.highest = ofNat seen.highest
  bits : ∀ i < WINDOW,
    window.bitmap.getLsbD i = true ↔ i ≤ seen.highest ∧ seen.highest - i ∈ seen.taken

variable {tokenId : UInt32} {window : ReplayWindow} {seen : SlidingWindow} {n : ℕ}

theorem check_new (tokenId : UInt32) (n : ℕ) :
    ∃ next, new.check tokenId (ofNat n) = (next, .ok ()) ∧
      Represents tokenId next (.start n) := by
  refine ⟨_, if_pos nofun, rfl, rfl, fun i _ => ?_⟩
  show (1 : BitVec 64).getLsbD i = true ↔ i ≤ n ∧ n - i ∈ ({n} : Finset ℕ)
  rw [Finset.mem_singleton]
  have bit : (1 : BitVec 64).getLsbD i = true ↔ i = 0 := by simp
  rw [bit]
  omega

theorem toNat_sub_ofNat (m n : ℕ) :
    (UInt16.ofNat m - UInt16.ofNat n).toNat = (65536 - n % 65536 + m % 65536) % 65536 := by
  rw [UInt16.toNat_sub, UInt16.toNat_ofNat', UInt16.toNat_ofNat']

section

variable (holds : Represents tokenId window seen)
include holds

theorem bits_ahead (above : seen.highest < n) :
    ∀ i < WINDOW,
      ((if WINDOW ≤ n - seen.highest then 0 else window.bitmap <<< (n - seen.highest)) |||
      1 : BitVec 64).getLsbD i = true ↔ i ≤ n ∧ n - i ∈ insert n seen.taken := by
  intro i inside
  have small : i < 64 := inside
  have one : (1 : BitVec 64).getLsbD i = true ↔ i = 0 := by simp
  have low : ∀ m ∈ seen.taken, m ≤ seen.highest := seen.le_highest
  rw [BitVec.getLsbD_or, Bool.or_eq_true, one, Finset.mem_insert]
  split_ifs with far
  · have far' : 64 ≤ n - seen.highest := far
    constructor
    · rintro (none | rfl)
      · simp at none
      · exact ⟨Nat.zero_le _, .inl rfl⟩
    · rintro ⟨fits, same | old⟩
      · exact .inr (by omega)
      · have := low _ old
        omega
  · rw [BitVec.getLsbD_shiftLeft]
    simp only [small, decide_true, Bool.true_and, Bool.and_eq_true, Bool.not_eq_true',
      decide_eq_false_iff_not, Nat.not_lt]
    constructor
    · rintro (⟨beyond, bit⟩ | rfl)
      · obtain ⟨fits, old⟩ := (holds.bits _ (by unfold WINDOW; omega)).mp bit
        refine ⟨by omega, .inr ?_⟩
        rwa [show n - i = seen.highest - (i - (n - seen.highest)) by omega]
      · exact ⟨Nat.zero_le _, .inl rfl⟩
    · rintro ⟨fits, same | old⟩
      · exact .inr (by omega)
      · have bound := low _ old
        refine .inl ⟨by omega, (holds.bits _ (by unfold WINDOW; omega)).mpr ⟨by omega, ?_⟩⟩
        rwa [show seen.highest - (i - (n - seen.highest)) = n - i by omega]

theorem bits_behind (below : n ≤ seen.highest) :
    ∀ i < WINDOW, (window.bitmap ||| 1#64 <<< (seen.highest - n)).getLsbD i = true ↔
      i ≤ seen.highest ∧ seen.highest - i ∈ insert n seen.taken := by
  intro i small
  have small' : i < 64 := small
  have one : (1#64 <<< (seen.highest - n)).getLsbD i = true ↔ i = seen.highest - n := by
    rw [BitVec.getLsbD_shiftLeft]
    simp only [small', decide_true, Bool.true_and, Bool.and_eq_true, Bool.not_eq_true',
      decide_eq_false_iff_not, Nat.not_lt]
    have bit : (1#64).getLsbD (i - (seen.highest - n)) = true ↔
        i - (seen.highest - n) = 0 := by simp
    rw [bit]
    omega
  rw [BitVec.getLsbD_or, Bool.or_eq_true, one, holds.bits i small, Finset.mem_insert]
  constructor
  · rintro (⟨fits, old⟩ | rfl)
    · exact ⟨fits, .inr old⟩
    · exact ⟨Nat.sub_le _ _, .inl (by omega)⟩
  · rintro ⟨fits, same | old⟩
    · exact .inr (by omega)
    · exact .inl ⟨fits, old⟩

/-- **A check is one of a sliding window of width 64,** as long as the numbers are near. -/
theorem check_represents (near : seen.Near 32768 n) :
    (seen.Admits WINDOW n ∧ ∃ next, window.check tokenId (ofNat n) = (next, .ok ()) ∧
      Represents tokenId next (seen.record n)) ∨
    ¬ seen.Admits WINDOW n ∧
      window.check tokenId (ofNat n) = (window, .error StatusCode.BadSecurityChecksFailed) := by
  obtain ⟨below, above⟩ := near seen.highest seen.highest_mem
  have ahead := toNat_sub_ofNat n seen.highest
  have behind := toNat_sub_ofNat seen.highest n
  unfold check
  rw [if_neg (not_not.mpr holds.token), holds.highest]
  by_cases higher : seen.highest < n
  · rw [show (ofNat n - ofNat seen.highest).toNat = n - seen.highest by omega,
      if_pos (by omega)]
    refine .inl ⟨.inl higher, _, rfl, holds.token, ?_, ?_⟩
    · show ofNat n = ofNat (max seen.highest n)
      rw [Nat.max_eq_right (Nat.le_of_lt higher)]
    · show ∀ i < WINDOW, _ ↔ i ≤ max seen.highest n ∧ max seen.highest n - i ∈ insert n seen.taken
      rw [Nat.max_eq_right (Nat.le_of_lt higher)]
      exact bits_ahead holds higher
  rw [if_neg (by omega), show (ofNat seen.highest - ofNat n).toNat =
    seen.highest - n by omega]
  have lower := Nat.le_of_not_lt higher
  split_ifs with stale replayed
  · refine .inr ⟨?_, rfl⟩
    rintro (passed | ⟨inside, -⟩) <;> omega
  · refine .inr ⟨?_, rfl⟩
    rintro (passed | ⟨-, new⟩)
    · omega
    · have old := ((holds.bits _ (Nat.lt_of_not_le stale)).mp replayed).2
      rw [Nat.sub_sub_self lower] at old
      exact new old
  · have inside := Nat.lt_of_not_le stale
    refine .inl ⟨.inr ⟨by omega, fun old => replayed ?_⟩, _, rfl, holds.token, ?_, ?_⟩
    · rw [holds.bits _ inside, Nat.sub_sub_self lower]
      exact ⟨Nat.sub_le _ _, old⟩
    · show ofNat seen.highest = ofNat (max seen.highest n)
      rw [Nat.max_eq_left lower]
    · show ∀ i < WINDOW, _ ↔ i ≤ max seen.highest n ∧ max seen.highest n - i ∈ insert n seen.taken
      rw [Nat.max_eq_left lower]
      exact bits_behind holds lower

end

/-! ### Runs of checks -/

/-- **A run under one token.** The low bits of numbers are checked, the last one of them at the
head.
-/
inductive Checked (tokenId : UInt32) (start : ReplayWindow) : List ℤ → List ℤ → ReplayWindow → Prop
  | start : Checked tokenId start [] [] start
  | accepts {numbers accepted : List ℤ} {window next : ReplayWindow} (number : ℤ) :
      Checked tokenId start numbers accepted window →
      window.check tokenId (.ofInt number) = (next, .ok ()) →
      Checked tokenId start (number :: numbers) (number :: accepted) next
  | refuses {numbers accepted : List ℤ} {window next : ReplayWindow} {status : StatusCode}
      (number : ℤ) : Checked tokenId start numbers accepted window →
      window.check tokenId (.ofInt number) = (next, .error status) →
      Checked tokenId start (number :: numbers) accepted next

/-- Not accepted yet, and above the end of the window. -/
def Fresh (accepted : List ℤ) (number : ℤ) : Prop :=
  number ∉ accepted ∧ ∀ other ∈ accepted, other - WINDOW < number

/-- The numbers span at most 32767, from `low` on. -/
def Spans (low : ℤ) (numbers : List ℤ) : Prop :=
  ∀ number ∈ numbers, low ≤ number ∧ number ≤ low + 32767

section

variable {start : ReplayWindow} {numbers accepted : List ℤ} {low number : ℤ}

/-- What a window has accepted, as natural numbers with the same low bits. -/
def Accepted (tokenId : UInt32) (low : ℤ) (accepted : List ℤ) (window : ReplayWindow) : Prop :=
  accepted = [] ∧ window.currentToken ≠ some tokenId ∨
    ∃ seen, (∀ n : ℕ, n ∈ seen.taken ↔ (n - 65536 * low.natAbs : ℤ) ∈ accepted) ∧
      Represents tokenId window seen

theorem admits_iff (taken : ∀ n : ℕ, n ∈ seen.taken ↔ (n - 65536 * low.natAbs : ℤ) ∈ accepted)
    (near : Spans low accepted) :
    seen.Admits WINDOW n ↔ Fresh accepted (n - 65536 * low.natAbs) := by
  have below : ∀ other ∈ accepted, other + 65536 * low.natAbs ≤ seen.highest := by
    intro other here
    obtain ⟨m, rfl⟩ : ∃ m : ℕ, other = m - 65536 * low.natAbs :=
      ⟨(other + 65536 * low.natAbs).toNat, by have := near other here; omega⟩
    have := seen.le_highest m ((taken m).mpr here)
    omega
  have top := (taken _).mp seen.highest_mem
  unfold SlidingWindow.Admits Fresh
  rw [taken]
  constructor
  · rintro (higher | ⟨inside, absent⟩)
    · refine ⟨fun here => ?_, fun other here => ?_⟩
      · have := below _ here
        omega
      · have := below other here
        omega
    · refine ⟨absent, fun other here => ?_⟩
      have := below other here
      omega
  · rintro ⟨absent, above⟩
    have := above _ top
    exact .inr ⟨by omega, absent⟩

/-- **One check:** what is fresh is accepted, and nothing else. -/
theorem check_accepted (holds : Accepted tokenId low accepted window)
    (near : Spans low (number :: accepted)) :
    (Fresh accepted number ∧ ∃ next, window.check tokenId (.ofInt number) = (next, .ok ()) ∧
      Accepted tokenId low (number :: accepted) next) ∨
    ¬ Fresh accepted number ∧ window.check tokenId (.ofInt number) =
      (window, .error StatusCode.BadSecurityChecksFailed) := by
  obtain ⟨self, others⟩ := List.forall_mem_cons.mp near
  obtain ⟨n, rfl⟩ : ∃ n : ℕ, number = n - 65536 * low.natAbs :=
    ⟨(number + 65536 * low.natAbs).toNat, by omega⟩
  have low16 : ((n - 65536 * low.natAbs : ℤ) % 2 ^ 16).toNat = n % 2 ^ 16 := by omega
  have bits : ofInt (n - 65536 * low.natAbs) = ofNat n := by rw [ofInt, low16, ofNat_mod_size]
  rw [bits]
  obtain ⟨rfl, other⟩ | ⟨seen, taken, represents⟩ := holds
  · obtain ⟨next, checked, represents⟩ := check_new tokenId n
    refine .inl ⟨⟨List.not_mem_nil, nofun⟩, next, ?_, .inr ⟨_, fun m => ?_, represents⟩⟩
    · rw [← checked, check, check, if_pos other, if_pos nofun]
    · simp [SlidingWindow.start, Int.natCast_inj]
  · rw [← admits_iff taken others]
    have close : seen.Near 32768 n := by
      intro m there
      have := others _ ((taken m).mp there)
      omega
    obtain ⟨admits, next, checked, after⟩ | refused := check_represents represents close
    · refine .inl ⟨admits, next, checked, .inr ⟨_, fun m => ?_, after⟩⟩
      simp [SlidingWindow.record, taken, Int.natCast_inj]
    · exact .inr refused

theorem Checked.inv (run : Checked tokenId start numbers accepted window)
    (other : start.currentToken ≠ some tokenId) (near : Spans low numbers) :
    accepted ⊆ numbers ∧ Accepted tokenId low accepted window := by
  induction run with
  | start => exact ⟨List.Subset.refl _, .inl ⟨rfl, other⟩⟩
  | accepts number _ checked ih =>
    obtain ⟨inside, holds⟩ := ih (List.forall_mem_cons.mp near).2
    have inside := List.cons_subset_cons number inside
    obtain ⟨-, next, same, after⟩ | ⟨-, failed⟩ :=
      check_accepted holds fun first here => near first (inside here)
    · cases checked.symm.trans same
      exact ⟨inside, after⟩
    · cases checked.symm.trans failed
  | refuses number _ checked ih =>
    obtain ⟨inside, holds⟩ := ih (List.forall_mem_cons.mp near).2
    obtain ⟨-, next, same, -⟩ | ⟨-, failed⟩ :=
      check_accepted holds fun first here => near first (List.cons_subset_cons number inside here)
    · cases checked.symm.trans same
    · cases checked.symm.trans failed
      exact ⟨List.subset_cons_of_subset _ inside, holds⟩

/-- **The window is exact:** as long as the numbers are near, it accepts those that are fresh, and a
call that it refuses leaves it as it was. -/
theorem window_exact (run : Checked tokenId start numbers accepted window)
    (other : start.currentToken ≠ some tokenId) (near : Spans low (number :: numbers)) :
    ((window.check tokenId (.ofInt number)).2 = .ok () ↔ Fresh accepted number) ∧
      ∀ status, (window.check tokenId (.ofInt number)).2 = .error status →
        (window.check tokenId (.ofInt number)).1 = window := by
  obtain ⟨inside, holds⟩ := run.inv other (List.forall_mem_cons.mp near).2
  obtain ⟨fresh, next, checked, -⟩ | ⟨stale, failed⟩ :=
    check_accepted holds fun first here => near first (List.cons_subset_cons _ inside here)
  · rw [checked]
    exact ⟨iff_of_true rfl fresh, nofun⟩
  · rw [failed]
    exact ⟨iff_of_false nofun stale, fun _ _ => rfl⟩

/-- After 65535 and 65537 the window takes 65536 and refuses 65535. -/
theorem window_exact_wrapped :
    ((mk (some 7) 1 5).check 7 (.ofInt 65536)).2 = .ok () ∧
      (mk (some 7) 1 5).check 7 (.ofInt 65535) =
        (mk (some 7) 1 5, .error StatusCode.BadSecurityChecksFailed) := by
  have run : Checked 7 new [65537, 65535] [65537, 65535] (mk (some 7) 1 5) :=
    .accepts _ (.accepts _ .start rfl) rfl
  have refused : ((mk (some 7) 1 5).check 7 (.ofInt 65535)).2 =
      .error StatusCode.BadSecurityChecksFailed := rfl
  have first := @window_exact 7 _ new [65537, 65535] _ 65535 65536 run (by decide)
    (by unfold Spans; decide)
  have again := @window_exact 7 _ new [65537, 65535] _ 65535 65535 run (by decide)
    (by unfold Spans; decide)
  exact ⟨first.1.mpr (by unfold Fresh; decide), Prod.ext (again.2 _ refused) refused⟩

end

end ReplayWindow

end AsyncOpcua.Pubsub
