/-
**Components that answer, and the rule that one refines another.**

A component takes an operation to an answer and a state. Two components of the same operations are
compared by their answers; a relation between their states that every step keeps carries over to
whole runs.
-/

import Mathlib.Data.List.Basic

namespace AsyncOpcua.Foundation

structure Component (State Op Answer : Type*) where
  step : State → Op → Answer × State

namespace Component

variable {State Abstract Op Answer : Type*}

def run (component : Component State Op Answer) (s : State) : List Op → List Answer × State
  | [] => ([], s)
  | op :: ops =>
    let (answer, t) := component.step s op
    let (answers, u) := component.run t ops
    (answer :: answers, u)

variable {component : Component State Op Answer} {ops : List Op}

theorem run_keeps {inv : State → Prop}
    (keeps : ∀ s op, inv s → inv (component.step s op).2) {s : State}
    (holds : inv s) : inv (component.run s ops).2 := by
  induction ops generalizing s with
  | nil => exact holds
  | cons op ops ih => exact ih (keeps s op holds)

/-- Every operation of the run meets a condition on the state it finds. -/
def Allowed (component : Component State Op Answer) (allowed : State → Op → Prop) (s : State) :
    List Op → Prop
  | [] => True
  | op :: ops => allowed s op ∧ component.Allowed allowed (component.step s op).2 ops

theorem allowed_true (component : Component State Op Answer) (s : State) (ops : List Op) :
    component.Allowed (fun _ _ => True) s ops := by
  induction ops generalizing s with
  | nil => trivial
  | cons op ops ih => exact ⟨trivial, ih _⟩

theorem allowed_and {allowed : State → Op → Prop}
    {each : Op → Prop} {s : State} (meets : ∀ op ∈ ops, each op)
    (along : component.Allowed allowed s ops) :
    component.Allowed (fun s op => each op ∧ allowed s op) s ops := by
  induction ops generalizing s with
  | nil => trivial
  | cons op ops ih =>
    exact ⟨⟨meets op List.mem_cons_self, along.1⟩,
      ih (fun other member => meets other (List.mem_cons_of_mem _ member)) along.2⟩

structure Simulation (concrete : Component State Op Answer)
    (abstract : Component Abstract Op Answer) (allowed : Abstract → Op → Prop)
    (related : State → Abstract → Prop) : Prop where
  answers : ∀ s a op, related s a → allowed a op → (concrete.step s op).1 = (abstract.step a op).1
  keeps : ∀ s a op, related s a → allowed a op →
    related (concrete.step s op).2 (abstract.step a op).2

theorem Simulation.run {concrete : Component State Op Answer}
    {abstract : Component Abstract Op Answer} {allowed : Abstract → Op → Prop}
    {related : State → Abstract → Prop}
    (simulation : Simulation concrete abstract allowed related) {s : State} {a : Abstract}
    (here : related s a) (meets : abstract.Allowed allowed a ops) :
    (concrete.run s ops).1 = (abstract.run a ops).1 ∧
      related (concrete.run s ops).2 (abstract.run a ops).2 := by
  induction ops generalizing s a with
  | nil => exact ⟨rfl, here⟩
  | cons op ops ih =>
    have same := simulation.answers s a op here meets.1
    have later := ih (simulation.keeps s a op here meets.1) meets.2
    refine ⟨?_, later.2⟩
    show (concrete.step s op).1 :: _ = (abstract.step a op).1 :: _
    rw [same, later.1]

end Component

end AsyncOpcua.Foundation
