/-
**Computations with a bound on their recursion, and what they settle on.**

A recursion that is cut off after so many levels gives a computation for each number of levels. It
settles on a result if it gives this result from some number of levels on.

* `Settles.succ` — one level more;
* `Settles.bind`, `Settles.mapM` — steps that settle make a computation that settles;
* `Settles.throw_bind`, `Settles.throw_mapM` — one step that settles on an error is enough.
-/

import Mathlib.Order.Filter.AtTopBot.Basic

namespace AsyncOpcua.Foundation

open List

/-- **From some number of levels on,** the result is `b`. -/
def Settles {β : Type*} (f : ℕ → β) (b : β) : Prop := ∀ᶠ levels in Filter.atTop, f levels = b

namespace Settles

variable {α β : Type} {E : Type}

theorem const (b : β) : Settles (fun _ => b) b := Filter.Eventually.of_forall fun _ => rfl

theorem succ {f g : ℕ → β} {b : β} (settles : Settles g b)
    (step : ∀ levels, f (levels + 1) = g levels) :
    Settles f b := by
  unfold Settles at settles ⊢
  rw [Filter.eventually_atTop] at settles ⊢
  obtain ⟨enough, stays⟩ := settles
  refine ⟨enough + 1, fun levels more => ?_⟩
  obtain ⟨fewer, rfl⟩ : ∃ fewer, levels = fewer + 1 := ⟨levels - 1, by omega⟩
  rw [step]
  exact stays fewer (by omega)

theorem congr {f g : ℕ → β} {b : β} (settles : Settles g b) (same : ∀ levels, f levels = g levels) :
    Settles f b := settles.mono fun levels here => (same levels).trans here

variable {f : ℕ → ExceptT E Option α} {g : ℕ → α → ExceptT E Option β} {a : α} {error : E}

theorem bind {result : ExceptT E Option β} (first : Settles f (pure a))
    (rest : Settles (fun levels => g levels a) result) :
    Settles (fun levels => f levels >>= g levels) result := by
  filter_upwards [first, rest] with levels here later
  rw [here, pure_bind, later]

theorem throw_bind (failed : Settles f (throw error)) :
    Settles (fun levels => f levels >>= g levels) (throw error) := by
  filter_upwards [failed] with levels here
  rw [here]
  rfl

theorem map {h : α → β} (first : Settles f (pure a)) :
    Settles (fun levels => f levels >>= fun a => pure (h a)) (pure (h a)) :=
  first.bind (g := fun _ a => pure (h a)) (const _)

section

variable {evaluate : ℕ → α → ExceptT E Option β} {l : List α}

theorem mapM (each : ∀ a ∈ l, ∃ b, Settles (fun levels => evaluate levels a) (pure b)) :
    ∃ bs, Settles (fun levels => l.mapM (evaluate levels)) (pure bs) := by
  induction l with
  | nil => exact ⟨[], const _⟩
  | cons a rest ih =>
    obtain ⟨⟨b, here⟩, later⟩ := forall_mem_cons.mp each
    obtain ⟨bs, others⟩ := ih later
    refine ⟨b :: bs, ?_⟩
    simp only [mapM_cons]
    exact here.bind (g := fun levels b => do return b :: (← rest.mapM (evaluate levels)))
      (others.map (h := (b :: ·)))

theorem throw_mapM (each : ∀ a ∈ l, (∃ b, Settles (fun levels => evaluate levels a) (pure b)) ∨
      Settles (fun levels => evaluate levels a) (throw error))
    (fails : ∃ a ∈ l, Settles (fun levels => evaluate levels a) (throw error)) :
    Settles (fun levels => l.mapM (evaluate levels)) (throw error) := by
  induction l with
  | nil =>
    obtain ⟨a, absurdly, -⟩ := fails
    cases absurdly
  | cons a rest ih =>
    obtain ⟨here, later⟩ := forall_mem_cons.mp each
    simp only [mapM_cons]
    rcases here with ⟨b, settled⟩ | failed
    · obtain ⟨failing, member, failed⟩ := fails
      rcases mem_cons.mp member with rfl | there
      · exact failed.throw_bind
      · exact settled.bind (g := fun levels b => do return b :: (← rest.mapM (evaluate levels)))
          (ih later ⟨failing, there, failed⟩).throw_bind
    · exact failed.throw_bind

end
end Settles

end AsyncOpcua.Foundation
