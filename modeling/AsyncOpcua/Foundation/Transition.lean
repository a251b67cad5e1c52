/-
**Partial deterministic machines, their runs, and the rules for whole runs.**

A machine takes one operation at a time; an operation that does not return leaves no next state.
Nondeterminism (an arrival, a visiting order, an interleaving) is part of the operation.

* `run_append` — runs split;
* `run_invariant` — what every step keeps holds after every run;
* `run_invariant_of_guarded` — the same for the runs whose steps all meet a condition;
* `always_iff_guarded` — the runs on which a property always holds, by an exact condition on steps.
-/

import Mathlib.Data.List.Basic
import Mathlib.Order.Basic

namespace AsyncOpcua.Foundation

open Option

/-- **A machine.** `step s op` is the state after `op`, or `none` where `op` does not return. -/
structure Machine (State Op : Type*) where
  step : State → Op → Option State

namespace Machine

variable {State Op Ghost : Type*} (m : Machine State Op)

/-- The state after a list of operations, if all of them return. -/
def run (s : State) : List Op → Option State
  | [] => some s
  | op :: ops => (m.step s op).bind fun t => run t ops

@[simp]
theorem run_nil (s : State) : m.run s [] = some s := rfl

theorem run_cons (s : State) (op : Op) (ops : List Op) :
    m.run s (op :: ops) = (m.step s op).bind fun t => m.run t ops := rfl

variable {s : State} {op : Op} {ops : List Op}

theorem run_cons_eq_some {u : State} :
    m.run s (op :: ops) = some u ↔ ∃ t, m.step s op = some t ∧ m.run t ops = some u := by
  rw [run_cons, bind_eq_some_iff]

theorem run_append (s : State) (first second : List Op) :
    m.run s (first ++ second) = (m.run s first).bind fun t => m.run t second := by
  induction first generalizing s with
  | nil => rfl
  | cons op ops ih =>
    rw [List.cons_append, run_cons, run_cons, bind_assoc]
    congr 1
    funext t
    exact ih t

def Reachable (start : State → Prop) (s : State) : Prop :=
  ∃ init ops, start init ∧ m.run init ops = some s

variable {start : State → Prop}

theorem Reachable.of_start (begins : start s) : m.Reachable start s :=
  ⟨s, [], begins, rfl⟩

variable {t : State}

theorem Reachable.run (reached : m.Reachable start s) (ran : m.run s ops = some t) :
    m.Reachable start t := by
  obtain ⟨init, before, begins, arrived⟩ := reached
  refine ⟨init, before ++ ops, begins, ?_⟩
  rw [run_append, arrived]
  exact ran

/-! ### Invariants -/

variable {inv : State → Prop}

theorem run_invariant (keeps : ∀ s op t, inv s → m.step s op = some t → inv t) (holds : inv s)
    (ran : m.run s ops = some t) : inv t := by
  induction ops generalizing s with
  | nil =>
    rw [run_nil, some.injEq] at ran
    exact ran ▸ holds
  | cons op ops ih =>
    obtain ⟨u, stepped, rest⟩ := m.run_cons_eq_some.mp ran
    exact ih (keeps s op u holds stepped) rest

theorem Reachable.invariant (reached : m.Reachable start s) (initially : ∀ s, start s → inv s)
    (keeps : ∀ s op t, inv s → m.step s op = some t → inv t) : inv s := by
  obtain ⟨init, ops, begins, ran⟩ := reached
  exact m.run_invariant keeps (initially init begins) ran

/-- **A run that visits every index once.** What only the visit of an index takes away, where it may by
a condition that no other visit brings about, it may take away by the state before the run. -/
theorem run_once {P Q : State → Op → Prop}
    (visit : ∀ s op t, m.step s op = some t → ∀ other, P t other → P s other ∨ other = op ∧ Q s op)
    (elsewhere : ∀ s op t, m.step s op = some t → ∀ other, other ≠ op → Q t other → Q s other)
    (once : ops.Nodup) (ran : m.run s ops = some t) {other : Op} (gone : P t other) :
    P s other ∨ other ∈ ops ∧ Q s other := by
  induction ops generalizing s with
  | nil =>
    rw [run_nil, some.injEq] at ran
    exact .inl (ran ▸ gone)
  | cons op ops ih =>
    obtain ⟨u, stepped, rest⟩ := m.run_cons_eq_some.mp ran
    obtain ⟨unlisted, once⟩ := List.nodup_cons.mp once
    rcases ih once rest with before | ⟨listed, may⟩
    · refine (visit s op u stepped other before).imp_right ?_
      rintro ⟨rfl, may⟩
      exact ⟨List.mem_cons_self, may⟩
    · exact .inr ⟨List.mem_cons_of_mem op listed,
        elsewhere s op u stepped other (fun same => unlisted (same ▸ listed)) may⟩

/-- Every step of the run meets a condition on the state before it and the operation. -/
def Guarded (guard : State → Op → Prop) (s : State) : List Op → Prop
  | [] => True
  | op :: ops => guard s op ∧ ∀ t, m.step s op = some t → Guarded guard t ops

variable {guard : State → Op → Prop}

theorem run_invariant_of_guarded
    (keeps : ∀ s op t, inv s → guard s op → m.step s op = some t → inv t) (holds : inv s)
    (guarded : m.Guarded guard s ops) (ran : m.run s ops = some t) : inv t := by
  induction ops generalizing s with
  | nil =>
    rw [run_nil, some.injEq] at ran
    exact ran ▸ holds
  | cons op ops ih =>
    obtain ⟨u, stepped, rest⟩ := m.run_cons_eq_some.mp ran
    exact ih (keeps s op u holds guarded.1 stepped) (guarded.2 u stepped) rest

theorem Guarded.cons (stepped : m.step s op = some t) (meets : guard s op)
    (rest : m.Guarded guard t ops) : m.Guarded guard s (op :: ops) := by
  refine ⟨meets, fun u same => ?_⟩
  rw [stepped, some.injEq] at same
  exact same ▸ rest

theorem guarded_of_mem (meets : ∀ op ∈ ops, ∀ s, guard s op) (s : State) :
    m.Guarded guard s ops := by
  induction ops generalizing s with
  | nil => trivial
  | cons op ops ih =>
    exact ⟨meets op List.mem_cons_self s, fun t _ =>
      ih (fun later member => meets later (List.mem_cons_of_mem _ member)) t⟩

/-- A test before every step of a run, for runs that are to be evaluated. -/
def checks (check : State → Op → Bool) (s : State) : List Op → Bool
  | [] => true
  | op :: ops => check s op && (m.step s op).all fun t => checks check t ops

theorem guarded_of_checks {check : State → Op → Bool}
    (meets : ∀ s op, check s op = true → guard s op) (checked : m.checks check s ops = true) :
    m.Guarded guard s ops := by
  induction ops generalizing s with
  | nil => trivial
  | cons op ops ih =>
    rw [checks, Bool.and_eq_true, all_eq_true] at checked
    exact ⟨meets s op checked.1, fun t stepped => ih (checked.2 t stepped)⟩

theorem Guarded.imp {weaker : State → Op → Prop} (implies : ∀ s op, guard s op → weaker s op)
    (guarded : m.Guarded guard s ops) : m.Guarded weaker s ops := by
  induction ops generalizing s with
  | nil => trivial
  | cons op ops ih => exact ⟨implies s op guarded.1, fun t stepped => ih (guarded.2 t stepped)⟩

section

variable {first second : List Op} (guarded : m.Guarded guard s (first ++ second))
include guarded

theorem Guarded.left : m.Guarded guard s first := by
  induction first generalizing s with
  | nil => trivial
  | cons op ops ih => exact ⟨guarded.1, fun t stepped => ih (guarded.2 t stepped)⟩

theorem Guarded.right (ran : m.run s first = some t) : m.Guarded guard t second := by
  induction first generalizing s with
  | nil =>
    rw [run_nil, some.injEq] at ran
    exact ran ▸ guarded
  | cons op ops ih =>
    obtain ⟨u, stepped, rest⟩ := m.run_cons_eq_some.mp ran
    exact ih (guarded.2 u stepped) rest

end

def Always (holds : State → Prop) (s : State) : List Op → Prop
  | [] => holds s
  | op :: ops => holds s ∧ ∀ t, m.step s op = some t → Always holds t ops

variable {holds : State → Prop}

theorem Always.head (always : m.Always holds s ops) : holds s := by
  cases ops with
  | nil => exact always
  | cons op ops => exact always.1

theorem always_of_run (always : m.Always holds s ops) (ran : m.run s ops = some t) : holds t := by
  induction ops generalizing s with
  | nil =>
    rw [run_nil, some.injEq] at ran
    exact ran ▸ always
  | cons op ops ih =>
    obtain ⟨u, stepped, rest⟩ := m.run_cons_eq_some.mp ran
    exact ih (always.2 u stepped) rest

/-- **The rule of the exact condition.** Where a step keeps a property exactly if it meets a
condition, and one that does not return meets it, the property holds all along a run exactly if all
steps meet the condition. -/
theorem always_iff_guarded_of_stuck (inv : State → Prop)
    (stuck : ∀ s op, m.step s op = none → guard s op)
    (keeps : ∀ s op t, inv s → holds s → m.step s op = some t → inv t)
    (exactly : ∀ s op t, inv s → holds s → m.step s op = some t → (holds t ↔ guard s op))
    (initially : inv s) (begins : holds s) : m.Always holds s ops ↔ m.Guarded guard s ops := by
  induction ops generalizing s with
  | nil => exact iff_of_true begins trivial
  | cons op ops ih =>
    cases stepped : m.step s op with
    | none =>
      have nowhere : ∀ t, ¬ m.step s op = some t := by simp [stepped]
      exact iff_of_true ⟨begins, fun t there => absurd there (nowhere t)⟩
        ⟨stuck s op stepped, fun t there => absurd there (nowhere t)⟩
    | some t =>
      have there := keeps s op t initially begins stepped
      have same := exactly s op t initially begins stepped
      constructor
      · intro always
        have rest := always.2 t stepped
        have kept := rest.head
        exact Guarded.cons m stepped (same.mp kept) ((ih there kept).mp rest)
      · intro guarded
        have kept := same.mpr guarded.1
        refine ⟨begins, fun u same => ?_⟩
        rw [stepped, some.injEq] at same
        exact same ▸ (ih there kept).mpr (guarded.2 t stepped)

theorem always_iff_guarded (inv : State → Prop) (total : ∀ s op, ∃ t, m.step s op = some t)
    (keeps : ∀ s op t, inv s → m.step s op = some t → inv t)
    (exactly : ∀ s op t, inv s → holds s → m.step s op = some t → (holds t ↔ guard s op))
    (initially : inv s) (begins : holds s) : m.Always holds s ops ↔ m.Guarded guard s ops := by
  refine m.always_iff_guarded_of_stuck inv (fun s op nowhere => ?_)
    (fun s op t holds _ stepped => keeps s op t holds stepped) exactly initially begins
  obtain ⟨t, stepped⟩ := total s op
  rw [nowhere] at stepped
  cases stepped

/-! ### Bounded arrival -/

theorem run_stays (inv final : State → Prop)
    (stays : ∀ s op t, inv s → final s → guard s op → m.step s op = some t → inv t ∧ final t)
    (holds : inv s) (done : final s) (guarded : m.Guarded guard s ops)
    (ran : m.run s ops = some t) : inv t ∧ final t :=
  m.run_invariant_of_guarded
    (fun s op t (both : inv s ∧ final s) meets stepped => stays s op t both.1 both.2 meets stepped)
    ⟨holds, done⟩ guarded ran

/-- **The measure rule.** Guarded steps lower `measure` until `final` holds, and keep it: a guarded
run of at least `measure s` steps ends in a final state. -/
theorem run_reaches_of_measure {guard : State → Op → Prop} (inv final : State → Prop)
    (measure : State → ℕ) (positive : ∀ s, inv s → measure s = 0 → final s)
    (lowers : ∀ s op t, inv s → ¬ final s → guard s op → m.step s op = some t →
      inv t ∧ (final t ∨ measure t < measure s))
    (stays : ∀ s op t, inv s → final s → guard s op → m.step s op = some t → inv t ∧ final t)
    {s t : State} {ops : List Op} (holds : inv s) (guarded : m.Guarded guard s ops)
    (enough : measure s ≤ ops.length) (ran : m.run s ops = some t) : final t := by
  induction ops generalizing s with
  | nil =>
    rw [run_nil, some.injEq] at ran
    exact ran ▸ positive s holds (Nat.le_zero.mp enough)
  | cons op ops ih =>
    by_cases done : final s
    · exact (m.run_stays inv final stays holds done guarded ran).2
    obtain ⟨u, stepped, rest⟩ := m.run_cons_eq_some.mp ran
    have later := guarded.2 u stepped
    obtain ⟨holds', arrived | lower⟩ := lowers s op u holds done guarded.1 stepped
    · exact (m.run_stays inv final stays holds' arrived later rest).2
    · refine ih holds' later ?_ rest
      rw [List.length_cons] at enough
      omega

/-! ### Operations that can fail -/

section Failing

variable {Error α β : Type*}

theorem bind_eq_ok {first : Except Error α} {next : α → Except Error β} {result : β} :
    first.bind next = .ok result ↔ ∃ a, first = .ok a ∧ next a = .ok result := by
  cases first with
  | error | ok => simp [Except.bind]

theorem map_eq_ok {first : Except Error α} {f : α → β} {result : β} :
    first.map f = .ok result ↔ ∃ a, first = .ok a ∧ f a = result := by
  cases first with
  | error | ok => simp [Except.map]

theorem toOption_eq_some {computed : Except Error α} {result : α} :
    computed.toOption = some result ↔ computed = .ok result := by
  cases computed with
  | error | ok => simp [Except.toOption]

/-- An operation that fails leaves no next state. -/
def failing (apply : Op → State → Except Error State) : Machine State Op where
  step s op := (apply op s).toOption

theorem failing_step_eq_some {apply : Op → State → Except Error State} {s t : State} {op : Op} :
    (failing apply).step s op = some t ↔ apply op s = .ok t :=
  toOption_eq_some

end Failing

/-! ### Ghost observers -/

/-- The machine together with a ghost value that records what each step did. -/
def observed (note : Ghost → State → Op → State → Ghost) : Machine (State × Ghost) Op where
  step s op := (m.step s.1 op).map fun t => (t, note s.2 s.1 op t)

variable {m} {note : Ghost → State → Op → State → Ghost}

theorem observed_step_eq_some {s t : State × Ghost} :
    (m.observed note).step s op = some t ↔
      m.step s.1 op = some t.1 ∧ t.2 = note s.2 s.1 op t.1 := by
  rw [observed, map_eq_some_iff]
  constructor
  · rintro ⟨u, stepped, rfl⟩
    exact ⟨stepped, rfl⟩
  · rintro ⟨stepped, noted⟩
    exact ⟨t.1, stepped, Prod.ext rfl noted.symm⟩

theorem observed_invariant_of_guarded {inv : State → Ghost → Prop}
    (keeps : ∀ s g op t, inv s g → guard s op → m.step s op = some t → inv t (note g s op t))
    {g h : Ghost} (holds : inv s g) (guarded : m.Guarded guard s ops)
    (ran : (m.observed note).run (s, g) ops = some (t, h)) : inv t h := by
  induction ops generalizing s g with
  | nil =>
    cases ran
    exact holds
  | cons op ops ih =>
    obtain ⟨⟨u, noted⟩, stepped, rest⟩ := (m.observed note).run_cons_eq_some.mp ran
    obtain ⟨stepped, same⟩ := observed_step_eq_some.mp stepped
    dsimp only at same
    subst same
    exact ih (keeps s g op u holds guarded.1 stepped) (guarded.2 u stepped) rest

end Machine

/-- **What every change of a fold does, the fold does.** -/
theorem foldl_related {σ α : Type*} {R : σ → σ → Prop} (refl : ∀ s, R s s)
    (trans : ∀ {s t u}, R s t → R t u → R s u) {change : σ → α → σ} (each : ∀ s a, R s (change s a))
    (l : List α) (s : σ) : R s (l.foldl change s) := by
  induction l generalizing s with
  | nil => exact refl s
  | cons a rest ih => exact trans (each s a) (ih _)

/-! ### Maps that a step changes at one place -/

section

variable {α β : Type*} [DecidableEq α] {f : α → Option β} {a other : α}

theorem update_eq_some
    {value : Option β} {found : β} (here : Function.update f a value other = some found) :
    (other = a ∧ value = some found) ∨ (other ≠ a ∧ f other = some found) := by
  by_cases same : other = a
  · subst same
    rw [Function.update_self] at here
    exact .inl ⟨rfl, here⟩
  · rw [Function.update_of_ne same] at here
    exact .inr ⟨same, here⟩

/-- **What is true of the new value and of the others is true after an update.** -/
theorem forall_update_some {P : α → β → Prop} {new : β} (here : P a new)
    (others : ∀ other found, f other = some found → P other found) (other : α) (found : β)
    (there : Function.update f a (some new) other = some found) : P other found := by
  rcases update_eq_some there with ⟨rfl, same⟩ | ⟨-, kept⟩
  · cases same
    exact here
  · exact others other found kept

theorem update_some_eq_none {value : β} (absent : Function.update f a (some value) other = none) :
    other ≠ a ∧ f other = none := by
  by_cases same : other = a
  · subst same
    rw [Function.update_self] at absent
    cases absent
  · rw [Function.update_of_ne same] at absent
    exact ⟨same, absent⟩

end

end AsyncOpcua.Foundation
