/-
**A subscription that is transferred: no number twice.**

Both copies of the subscription number their messages from the same factory, and the old session is
told about the transfer in a message that is numbered as well.

* `transfer_numbers_distinct` — in the runs whose steps keep the numbers apart, messages with the
  same number are the same.
-/

import AsyncOpcua.Subscriptions.Numbering
import AsyncOpcua.Subscriptions.Transfer

namespace AsyncOpcua.Subscriptions

open Types Foundation Option Or Externals SessionSubscriptions

variable {E : Externals}

/-! ### Records -/

/-- **A transfer, and what was made** of the subscription at the source and at the destination. -/
structure Recorded (E : Externals) where
  world : Transfer E
  atSource : List (NotificationMessage E)
  atDest : List (NotificationMessage E)

abbrev RecordedStep (E : Externals) (id : ℕ) := TransferStep E id × List (NotificationMessage E)

namespace Recorded

def note {id : ℕ} (r : Recorded E) (step : RecordedStep E id) (w : Transfer E) : Recorded E :=
  match step.1 with
  | .atSource _ _ => ⟨w, r.atSource ++ step.2, r.atDest⟩
  | .atDest _ _ => ⟨w, r.atSource, r.atDest ++ step.2⟩
  | _ => { r with world := w }

end Recorded

def recorded (E : Externals) (call : TransferCall) :
    Machine (Recorded E) (RecordedStep E call.id) where
  step r step := ((transfers E call).step r.world step.1).map (r.note step)

/-- The ticks of the subscription draw no numbers. -/
def quietly : Proviso E := ⟨Subscription.Silent, True⟩

/-- No status change of the subscription is delivered. -/
def untold : Proviso E := ⟨fun _ _ _ _ => True, False⟩

/-- What was made of the subscription in an operation: nothing, where its ticks draw no numbers. -/
def ServesMaking (id : ℕ) (stopped : Bool) (s : SessionSubscriptions E) (op : SessionOp E)
    (made : List (NotificationMessage E)) : Prop :=
  if stopped then made = []
  else ∀ t, op.apply s = .ok t → s.Makes id t made ∧ (s.TicksMeet quietly id op → made = [])

def Records (call : TransferCall) (r : Recorded E) (step : RecordedStep E call.id) : Prop :=
  match step.1 with
  | .atSource op _ => ServesMaking call.id r.world.sourceStopped r.world.source op step.2
  | .atDest op _ => ServesMaking call.id r.world.destStopped r.world.dest op step.2
  | _ => step.2 = []

theorem exists_servesMaking {id : ℕ} {stopped : Bool} {s : SessionSubscriptions E}
    {op : SessionOp E} (leaves : op.Leaves id) : ∃ made, ServesMaking id stopped s op made := by
  unfold ServesMaking
  cases stopped with
  | true => exact ⟨[], rfl⟩
  | false =>
    cases applied : op.apply s with
    | error fault => exact ⟨[], fun t returned => by cases returned⟩
    | ok t =>
      by_cases quiet : s.TicksMeet quietly id op
      · obtain ⟨made, makes, nothing⟩ := makes_of_advances
          (advances_of_apply quiet leaves.transfer leaves.foreign applied)
        refine ⟨made, fun other returned => ?_⟩
        cases returned
        exact ⟨makes, fun _ => nothing rfl⟩
      · obtain ⟨made, makes, -⟩ := makes_of_advances
          (advances_of_apply (ticksMeet_any id s op) leaves.transfer leaves.foreign applied)
        refine ⟨made, fun other returned => ?_⟩
        cases returned
        exact ⟨makes, fun ticks => absurd ticks quiet⟩

theorem exists_records (call : TransferCall) (r : Recorded E) (step : TransferStep E call.id) :
    ∃ made, Records call r (step, made) := by
  cases step with
  | atSource op leaves | atDest op leaves => exact exists_servesMaking leaves
  | proceed | unindex | stopSource | stopDest => exact ⟨[], rfl⟩

variable {call : TransferCall}

/-- A run can be recorded as it goes; what its steps meet, the recorded steps meet. -/
theorem recorded_run_of_guarded {final : Transfer E} {steps : List (TransferStep E call.id)}
    {meets : Transfer E → TransferStep E call.id → Prop} (r : Recorded E)
    (guarded : (transfers E call).Guarded meets r.world steps)
    (ran : (transfers E call).run r.world steps = some final) :
    ∃ (recordedSteps : List (RecordedStep E call.id)) (last : Recorded E),
      recordedSteps.map Prod.fst = steps ∧ last.world = final ∧
      (recorded E call).Guarded (fun r step => Records call r step ∧ meets r.world step.1) r
        recordedSteps ∧
      (recorded E call).run r recordedSteps = some last := by
  induction steps generalizing r with
  | nil => exact ⟨[], r, rfl, some.inj ran, trivial, rfl⟩
  | cons step rest ih =>
    obtain ⟨w, stepped, ran⟩ := (transfers E call).run_cons_eq_some.mp ran
    obtain ⟨made, records⟩ := exists_records call r step
    have world : (r.note (step, made) w).world = w := by
      cases step <;> rfl
    have later := guarded.2 w stepped
    rw [← world] at ran later
    obtain ⟨more, last, same, ends, guarded', reached⟩ := ih _ later ran
    have next : (recorded E call).step r (step, made) = some (r.note (step, made) w) := by
      show Option.map _ _ = _
      rw [stepped, map_some]
    refine ⟨(step, made) :: more, last, congrArg (step :: ·) same, ends,
      .cons _ next ⟨records, guarded.1⟩ guarded', ?_⟩
    rw [Machine.run_cons, next]
    exact reached

theorem recorded_run {final : Transfer E} {steps : List (TransferStep E call.id)}
    (r : Recorded E) (ran : (transfers E call).run r.world steps = some final) :
    ∃ (recordedSteps : List (RecordedStep E call.id)) (last : Recorded E),
      recordedSteps.map Prod.fst = steps ∧ last.world = final ∧
      (recorded E call).Guarded (Records call) r recordedSteps ∧
      (recorded E call).run r recordedSteps = some last := by
  have every : (transfers E call).Guarded (fun _ _ => True) r.world steps :=
    Machine.guarded_of_mem _ (fun _ _ _ => trivial) _
  obtain ⟨recordedSteps, last, same, ends, guarded, reached⟩ := recorded_run_of_guarded r every ran
  exact ⟨recordedSteps, last, same, ends, guarded.imp _ fun _ _ => And.left, reached⟩

/-! ### What keeps the numbers apart -/

/-- The old session has been told of the transfer. -/
def SessionSubscriptions.Told (s : SessionSubscriptions E) (id : ℕ) : Prop :=
  ∃ m ∈ s.published id, m.notificationData =
    some [.statusChangeNotification StatusCode.GoodSubscriptionTransferred]

/-- **No number gets into two hands:** between the clone and the mark no tick of the subscription at
the source draws a number; once the destination has numbered a message, no publish request at the
source takes the status change; and once the source was told, no tick at the destination draws a
number. -/
def KeepsApart (call : TransferCall) (r : Recorded E) : TransferStep E call.id → Prop
  | .atSource op _ => r.world.sourceStopped = false →
    (match r.world.phase with
      | .inserting _ _ | .marking _ _ => r.world.source.TicksMeet quietly call.id op
      | _ => True) ∧
    (r.world.source.owed call.id = [] ∨ r.atDest = [] ∨
      r.world.source.TicksMeet untold call.id op)
  | .atDest op _ => r.world.destStopped = false →
    ¬ r.world.source.Told call.id ∨ r.world.dest.TicksMeet quietly call.id op
  | _ => True

/-- **The subscription has just been created,** and the destination knows nothing of it. -/
structure JustCreated (id : ℕ) (w : Transfer E) : Prop where
  phase : w.phase = .lookingUp
  created : ∃ sub, w.source.copy id = some sub ∧ sub.id = id ∧ sub.sequenceNumber = .new 1 ∧
    sub.notifications = []
  unpublished : w.source.published id = []
  unowed : w.source.owed id = []
  absent : w.dest.copy id = none
  destUnpublished : w.dest.published id = []
  destUnowed : w.dest.owed id = []

/-! ### The account of all numbers -/

/-- The copy is the one that has made these messages. -/
structure Subscription.Reflects (sub : Subscription E) (id : ℕ)
    (made : List (NotificationMessage E)) : Prop where
  id : sub.id = id
  counter : sub.sequenceNumber = (Handle.new 1).issues made.length
  waiting : ∀ m ∈ sub.notifications, m.CarriesData → m ∈ made

open List

namespace Recorded

variable {id : ℕ} {r : Recorded E}

/-- The destination has no copy, and made nothing. -/
structure Unstarted (r : Recorded E) (id : ℕ) : Prop where
  absent : r.world.dest.copy id = none
  unmade : r.atDest = []

/-- The source is not to be told of a transfer, and published only what it made. -/
structure Untold (r : Recorded E) (id : ℕ) : Prop where
  unowed : r.world.source.owed id = []
  published : ∀ m ∈ r.world.source.published id, m.CarriesData → m ∈ r.atSource

/-- The source makes nothing any more. -/
def Retired (r : Recorded E) (id : ℕ) : Prop :=
  r.world.sourceStopped = true ∨ r.world.source.copy id = none ∨ id ∈ r.world.source.transferring

/-- **The source is or was to be told,** in a message with the number that follows. It is not told
once the destination has made a message, and the destination makes none once it is. -/
structure Telling (r : Recorded E) (id : ℕ) (status : NotificationMessage E) : Prop where
  gone : r.world.source.copy id = none
  number : status.sequenceNumber = ((Handle.new 1).issues r.atSource.length).next
  data : status.notificationData =
    some [.statusChangeNotification StatusCode.GoodSubscriptionTransferred]
  owed : ∀ m ∈ r.world.source.owed id, m = status
  published : ∀ m ∈ r.world.source.published id, m.CarriesData → m ∈ r.atSource ∨ m = status
  apart : ∀ m ∈ r.world.source.published id, m.CarriesData → m ∉ r.atSource → r.atDest = []

def InPhase (r : Recorded E) (id : ℕ) : Prop :=
  match r.world.phase with
  | .inserting sub _ => r.Unstarted id ∧ r.Untold id ∧ sub.Reflects id r.atSource
  | .marking sub _ => r.Untold id ∧ sub.Reflects id r.atSource
  | .flipping sub _ | .completing sub _ =>
    r.Retired id ∧ r.Untold id ∧ sub.Reflects id r.atSource
  | .returned _ _ =>
    r.Untold id ∧ (r.Unstarted id ∨ r.Retired id) ∨ ∃ status, r.Telling id status
  | _ => r.Unstarted id ∧ r.Untold id

structure Accounted (r : Recorded E) (id : ℕ) : Prop where
  numbered : Numbered (.new 1) (r.atSource ++ r.atDest)
  source : ∀ sub, r.world.source.copy id = some sub → sub.Reflects id r.atSource
  dest : ∀ sub, r.world.dest.copy id = some sub → sub.Reflects id (r.atSource ++ r.atDest)
  published : ∀ m ∈ r.world.dest.published id, m.CarriesData → m ∈ r.atSource ++ r.atDest
  unowed : r.world.dest.owed id = []
  phase : r.InPhase id

theorem InPhase.untold_or_telling (known : r.InPhase id) :
    r.Untold id ∨ ∃ status, r.Telling id status := by
  unfold InPhase at known
  cases reached : r.world.phase with
  | lookingUp | listing | askingUser | cloning =>
    rw [reached] at known
    exact inl known.2
  | inserting =>
    rw [reached] at known
    exact inl known.2.1
  | marking =>
    rw [reached] at known
    exact inl known.1
  | flipping | completing =>
    rw [reached] at known
    exact inl known.2.1
  | returned =>
    rw [reached] at known
    exact known.imp_left And.left

theorem InPhase.congr {r' : Recorded E} (known : r.InPhase id)
    (phase : r'.world.phase = r.world.phase) (unstarted : r.Unstarted id → r'.Unstarted id)
    (untold : r.Untold id → r'.Untold id) (retired : r.Retired id → r'.Retired id)
    (telling : ∀ status, r.Telling id status → r'.Telling id status)
    (reflects : ∀ sub : Subscription E, sub.Reflects id r.atSource → sub.Reflects id r'.atSource) :
    r'.InPhase id := by
  unfold InPhase at known ⊢
  rw [phase]
  cases reached : r.world.phase with
  | lookingUp | listing | askingUser | cloning =>
    rw [reached] at known
    exact ⟨unstarted known.1, untold known.2⟩
  | inserting sub notifs =>
    rw [reached] at known
    exact ⟨unstarted known.1, untold known.2.1, reflects sub known.2.2⟩
  | marking sub notifs =>
    rw [reached] at known
    exact ⟨untold known.1, reflects sub known.2⟩
  | flipping sub notifs | completing sub notifs =>
    rw [reached] at known
    exact ⟨retired known.1, untold known.2.1, reflects sub known.2.2⟩
  | returned statusCode numbers =>
    rw [reached] at known
    obtain ⟨none, before | done⟩ | ⟨status, told⟩ := known
    · exact inl ⟨untold none, inl (unstarted before)⟩
    · exact inl ⟨untold none, inr (retired done)⟩
    · exact inr ⟨status, telling status told⟩

/-! ### The source serves an operation -/

section Source

variable {source : SessionSubscriptions E} {made : List (NotificationMessage E)}
  {P : Proviso E} (advances : r.world.source.Advances P id source)
    (makes : r.world.source.Makes id source made)

def servedSource (r : Recorded E) (source : SessionSubscriptions E)
    (made : List (NotificationMessage E)) : Recorded E :=
  ⟨{ r.world with source := source }, r.atSource ++ made, r.atDest⟩

include makes in
theorem reflects_servedSource
    (reflects : ∀ sub, r.world.source.copy id = some sub → sub.Reflects id r.atSource) :
    ∀ sub, source.copy id = some sub → sub.Reflects id (r.atSource ++ made) := by
  intro sub' there
  obtain ⟨sub, before, own, counter, waiting⟩ := makes.copies sub' there
  have reflected := reflects sub before
  refine ⟨own.trans reflected.id, ?_, fun m waits data => ?_⟩
  · rw [counter, reflected.counter, Handle.issues_issues, length_append]
  · obtain old | fresh := waiting m waits data
    · exact mem_append_left made (reflected.waiting m old data)
    · exact mem_append_right r.atSource fresh

include advances makes

theorem Untold.served (untold : r.Untold id)
    (reflects : ∀ sub, r.world.source.copy id = some sub → sub.Reflects id r.atSource) :
    (r.servedSource source made).Untold id := by
  refine ⟨eq_nil_iff_forall_not_mem.mpr fun m due => ?_, fun m there data => ?_⟩
  · have before := advances.owed m due
    rw [untold.unowed] at before
    cases before
  · obtain old | due | ⟨sub, copied, waiting⟩ | fresh := makes.published m there data
    · exact mem_append_left made (untold.published m old data)
    · rw [untold.unowed] at due
      cases due
    · exact mem_append_left made ((reflects sub copied).waiting m waiting data)
    · exact mem_append_right r.atSource fresh

omit makes in
theorem Retired.served (retired : r.Retired id) : (r.servedSource source made).Retired id := by
  obtain stopped | gone | staged := retired
  · exact inl stopped
  · exact inr (inl (advances.absent gone).1)
  · exact inr (inr (advances.staged staged).1)

theorem Telling.served {status : NotificationMessage E} (telling : r.Telling id status)
    (apart : r.world.source.owed id = [] ∨ r.atDest = [] ∨
      r.world.source.Advances untold id source) :
    (r.servedSource source made).Telling id status := by
  have still : made = [] := makes.idle (inl telling.gone)
  have same : r.atSource ++ [] = r.atSource := append_nil _
  subst still
  refine ⟨(advances.absent telling.gone).1, ?_, telling.data,
    fun m due => telling.owed m (advances.owed m due), fun m there carries => ?_,
    fun m there carries foreign => ?_⟩
  · show _ = ((Handle.new 1).issues (r.atSource ++ []).length).next
    rw [same]
    exact telling.number
  · show m ∈ r.atSource ++ [] ∨ _
    rw [same]
    obtain old | due := (advances.absent telling.gone).2 m there
    · exact telling.published m old carries
    · exact inr (telling.owed m due.2)
  · have foreign : m ∉ r.atSource := fun own => foreign (mem_append_left [] own)
    obtain unowed | unmade | silent := apart
    · obtain old | ⟨-, due⟩ := (advances.absent telling.gone).2 m there
      · exact telling.apart m old carries foreign
      · rw [unowed] at due
        cases due
    · exact unmade
    · obtain old | ⟨told, -⟩ := (silent.absent telling.gone).2 m there
      · exact telling.apart m old carries foreign
      · exact told.elim

omit advances in
theorem InPhase.grows (known : r.InPhase id) (running : r.world.sourceStopped = false)
    (some : made ≠ [])
    (frozen : match r.world.phase with
      | .inserting _ _ | .marking _ _ => made = []
      | _ => True) :
    r.Unstarted id ∧ r.Untold id ∧ ((r.servedSource source made).Unstarted id →
      (r.servedSource source made).Untold id → (r.servedSource source made).InPhase id) := by
  have active : ¬ r.Retired id := by
    rintro (stopped | idle)
    · rw [running] at stopped
      cases stopped
    · exact some (makes.idle idle)
  obtain ⟨⟨before, stopped, dest, destStopped, owner, phase⟩, atSource, atDest⟩ := r
  cases phase with
  | lookingUp | listing | askingUser | cloning =>
    exact ⟨known.1, known.2, fun unstarted untold => ⟨unstarted, untold⟩⟩
  | inserting | marking => exact absurd frozen some
  | flipping | completing => exact absurd known.1 active
  | returned =>
    obtain ⟨untold, unstarted | retired⟩ | ⟨status, telling⟩ := known
    · exact ⟨unstarted, untold, fun unstarted untold => inl ⟨untold, inl unstarted⟩⟩
    · exact absurd retired active
    · exact absurd (makes.idle (inl telling.gone)) some

theorem Accounted.served (accounted : r.Accounted id) (running : r.world.sourceStopped = false)
    (frozen : match r.world.phase with
      | .inserting _ _ | .marking _ _ => made = []
      | _ => True)
    (apart : r.world.source.owed id = [] ∨ r.atDest = [] ∨
      r.world.source.Advances untold id source) :
    (r.servedSource source made).Accounted id := by
  have reflects := reflects_servedSource makes accounted.source
  by_cases still : made = []
  · subst still
    have same : r.atSource ++ [] = r.atSource := append_nil _
    refine ⟨?_, reflects, ?_, ?_, accounted.unowed, ?_⟩
    · show Numbered _ (r.atSource ++ [] ++ r.atDest)
      rw [same]
      exact accounted.numbered
    · show ∀ sub, r.world.dest.copy id = some sub → sub.Reflects id (r.atSource ++ [] ++ r.atDest)
      rw [same]
      exact accounted.dest
    · show ∀ m ∈ r.world.dest.published id, m.CarriesData → m ∈ r.atSource ++ [] ++ r.atDest
      rw [same]
      exact accounted.published
    · have untold : r.Untold id → (r.servedSource source []).Untold id := fun untold =>
        untold.served advances makes accounted.source
      have retired : r.Retired id → (r.servedSource source []).Retired id := fun retired =>
        retired.served advances
      refine accounted.phase.congr rfl (fun unstarted => ⟨unstarted.absent, unstarted.unmade⟩)
        untold
        retired (fun status telling => telling.served advances makes apart) fun sub reflected => ?_
      show sub.Reflects id (r.atSource ++ [])
      rw [same]
      exact reflected
  · obtain ⟨unstarted, untold, next⟩ :=
      InPhase.grows makes accounted.phase running still frozen
    have unmade : r.atDest = [] := unstarted.unmade
    refine ⟨?_, reflects, fun sub there => ?_, fun m there data => ?_, accounted.unowed,
      next ⟨unstarted.absent, unmade⟩ (untold.served advances makes accounted.source)⟩
    · show Numbered _ (r.atSource ++ made ++ r.atDest)
      rw [unmade, append_nil]
      have before := accounted.numbered
      rw [unmade, append_nil] at before
      refine before.append ?_
      obtain ⟨sub, copied⟩ : ∃ sub, r.world.source.copy id = some sub :=
        ne_none_iff_exists'.mp fun gone => still (makes.idle (inl gone))
      rw [← (accounted.source sub copied).counter]
      exact makes.numbered sub copied
    · cases unstarted.absent.symm.trans there
    · show m ∈ r.atSource ++ made ++ r.atDest
      obtain mine | other := mem_append.mp (accounted.published m there data)
      · exact mem_append_left _ (mem_append_left _ mine)
      · exact mem_append_right _ other

end Source

/-! ### The destination serves an operation -/

variable {made : List (NotificationMessage E)}

/-- **The account is kept** when the destination serves an operation. -/
theorem Accounted.servedDest (accounted : r.Accounted id) {dest : SessionSubscriptions E}
    {P : Proviso E} (advances : r.world.dest.Advances P id dest)
    (makes : r.world.dest.Makes id dest made)
    (apart : ¬ r.world.source.Told id ∨ made = []) :
    (⟨{ r.world with dest := dest }, r.atSource, r.atDest ++ made⟩ : Recorded E).Accounted id := by
  have whole : r.atSource ++ (r.atDest ++ made) = r.atSource ++ r.atDest ++ made :=
    (append_assoc _ _ _).symm
  have all : ∀ m ∈ r.atSource ++ r.atDest, m ∈ r.atSource ++ (r.atDest ++ made) := by
    intro m there
    rw [whole]
    exact mem_append_left made there
  refine ⟨?_, accounted.source, fun sub' there => ?_, fun m there data => ?_,
    eq_nil_iff_forall_not_mem.mpr fun m due => ?_, ?_⟩
  · show Numbered _ (r.atSource ++ (r.atDest ++ made))
    rw [whole]
    refine accounted.numbered.append ?_
    cases copied : r.world.dest.copy id with
    | none =>
      rw [makes.idle (inl copied)]
      exact numbered_nil _
    | some sub =>
      rw [← (accounted.dest sub copied).counter]
      exact makes.numbered sub copied
  · obtain ⟨sub, before, own, counter, waiting⟩ := makes.copies sub' there
    have reflected := accounted.dest sub before
    refine ⟨own.trans reflected.id, ?_, fun m waits data => ?_⟩
    · show _ = (Handle.new 1).issues (r.atSource ++ (r.atDest ++ made)).length
      rw [whole, counter, reflected.counter, Handle.issues_issues]
      exact congrArg _ length_append.symm
    · obtain old | fresh := waiting m waits data
      · exact all m (reflected.waiting m old data)
      · show m ∈ r.atSource ++ (r.atDest ++ made)
        rw [whole]
        exact mem_append_right _ fresh
  · obtain old | due | ⟨sub, copied, waiting⟩ | fresh := makes.published m there data
    · exact all m (accounted.published m old data)
    · rw [accounted.unowed] at due
      cases due
    · exact all m ((accounted.dest sub copied).waiting m waiting data)
    · show m ∈ r.atSource ++ (r.atDest ++ made)
      rw [whole]
      exact mem_append_right _ fresh
  · have before := advances.owed m due
    rw [accounted.unowed] at before
    cases before
  · refine accounted.phase.congr rfl (fun unstarted => ?_) (fun untold => ⟨untold.1, untold.2⟩)
      (fun retired => retired) (fun status telling => ?_) fun _ reflected => reflected
    · refine ⟨(advances.absent unstarted.absent).1, ?_⟩
      rw [unstarted.unmade, makes.idle (inl unstarted.absent), append_nil]
    · refine ⟨telling.gone, telling.number, telling.data, telling.owed, telling.published,
        fun m there carries foreign => ?_⟩
      obtain quiet | nothing := apart
      · have told : m = status := (telling.published m there carries).resolve_left foreign
        exact absurd ⟨m, there, told ▸ telling.data⟩ quiet
      · rw [telling.apart m there carries foreign, nothing, append_nil]

/-! ### The call proceeds -/

variable {w : Transfer E}

theorem Unstarted.rephased (unstarted : r.Unstarted id) (dest : w.dest = r.world.dest) :
    Unstarted { r with world := w } id :=
  ⟨(congrArg (·.copy id) dest).trans unstarted.absent, unstarted.unmade⟩

theorem Untold.rephased (untold : r.Untold id) (owed : w.source.owed id = r.world.source.owed id)
    (published : w.source.published id = r.world.source.published id) :
    Untold { r with world := w } id :=
  ⟨owed.trans untold.unowed, fun m there => untold.published m (published ▸ there)⟩

theorem Accounted.rephased (accounted : r.Accounted id) (source : w.source = r.world.source)
    (dest : w.dest = r.world.dest) (known : InPhase { r with world := w } id) :
    Accounted { r with world := w } id := by
  refine ⟨accounted.numbered, ?_, ?_, ?_, ?_, known⟩
  · rw [source]
    exact accounted.source
  · rw [dest]
    exact accounted.dest
  · rw [dest]
    exact accounted.published
  · rw [dest]
    exact accounted.unowed

theorem Accounted.undecided (accounted : r.Accounted id) (unstarted : r.Unstarted id)
    (untold : r.Untold id) {w : Transfer E} (source : w.source = r.world.source)
    (dest : w.dest = r.world.dest) (phase : w.phase = .listing ∨ w.phase = .askingUser ∨
      w.phase = .cloning ∨ ∃ statusCode numbers, w.phase = .returned statusCode numbers) :
    Accounted { r with world := w } id := by
  have unstarted' : Unstarted { r with world := w } id := unstarted.rephased dest
  have untold' : Untold { r with world := w } id :=
    untold.rephased (congrArg (·.owed id) source) (congrArg (·.published id) source)
  refine accounted.rephased source dest ?_
  unfold InPhase
  obtain next | next | next | ⟨statusCode, numbers, next⟩ := phase
  · rw [next]
    exact ⟨unstarted', untold'⟩
  · rw [next]
    exact ⟨unstarted', untold'⟩
  · rw [next]
    exact ⟨unstarted', untold'⟩
  · rw [next]
    exact inl ⟨untold', inl unstarted'⟩

/-- The message that tells the source of the transfer. -/
def transferred (number : ℕ) (now : ℤ) : NotificationMessage E :=
  .statusChange number now StatusCode.GoodSubscriptionTransferred

theorem completeTransfer_spec (s : SessionSubscriptions E) (id number : ℕ) (now : ℤ) :
    (s.completeTransfer id number now).copy id = none ∧
      (s.completeTransfer id number now).published id = s.published id ∧
      (s.completeTransfer id number now).owed id = s.owed id ++ [transferred number now] := by
  refine ⟨AList.lookup_erase _ _, rfl, ?_⟩
  unfold owed completeTransfer
    queueStatusChange
  rw [filterMap_append]
  refine congrArg (_ ++ ·) ?_
  rw [filterMap_cons, if_pos rfl]
  rfl

theorem reflects_givenCopy {sub : Subscription E}
    (reflects : sub.Reflects id made) (sendInitialValues : Bool) :
    (Transfer.givenCopy sub sendInitialValues).Reflects id made := by
  cases sendInitialValues <;> exact ⟨reflects.id, reflects.counter, reflects.waiting⟩

theorem Accounted.proceeds (accounted : r.Accounted call.id) (now : ℤ) :
    Accounted { r with world := r.world.proceed call now } call.id := by
  obtain ⟨⟨source, stopped, dest, destStopped, owner, phase⟩, atSource, atDest⟩ := r
  have known := accounted.phase
  unfold Transfer.proceed
  cases phase with
  | lookingUp =>
    obtain ⟨unstarted, untold⟩ := known
    dsimp only
    split
    · exact accounted.undecided unstarted untold rfl rfl (by simp [Transfer.refused])
    · split_ifs
      · exact accounted.undecided unstarted untold rfl rfl (by simp [Transfer.refused])
      · exact accounted.undecided unstarted untold rfl rfl (by simp)
    · split_ifs
      · exact accounted.undecided unstarted untold rfl rfl (by simp [Transfer.refused])
      · exact accounted.undecided unstarted untold rfl rfl (by simp)
  | listing =>
    obtain ⟨unstarted, untold⟩ := known
    exact accounted.undecided unstarted untold rfl rfl (by simp)
  | askingUser =>
    obtain ⟨unstarted, untold⟩ := known
    dsimp only
    split_ifs
    · exact accounted.undecided unstarted untold rfl rfl (by simp)
    · exact accounted.undecided unstarted untold rfl rfl (by simp [Transfer.refused])
  | cloning =>
    obtain ⟨unstarted, untold⟩ := known
    dsimp only
    split_ifs
    · exact accounted.undecided unstarted untold rfl rfl (by simp [Transfer.refused])
    · split
      · exact accounted.undecided unstarted untold rfl rfl (by simp [Transfer.refused])
      · rename_i subscription notifs cloned
        obtain ⟨sub, found, same⟩ := map_eq_some_iff.mp cloned
        cases same
        refine accounted.rephased rfl rfl ⟨unstarted.rephased rfl, untold.rephased rfl rfl, ?_⟩
        exact accounted.source subscription found
  | inserting subscription notifs =>
    obtain ⟨unstarted, untold, reflects⟩ := known
    dsimp only
    split_ifs
    · exact accounted.undecided unstarted untold rfl rfl (by simp [Transfer.refused])
    · obtain ⟨status, refused⟩ | ⟨inserted, given, -, sent, pending, copied⟩ :=
        Transfer.insertForTransfer_spec dest subscription notifs call.sendInitialValues call.id
      · rw [refused]
        exact accounted.undecided unstarted untold rfl rfl (by simp [Transfer.refused])
      · rw [given]
        have published : inserted.published call.id = dest.published call.id :=
          congrArg (filterMap _) sent
        have owed : inserted.owed call.id = dest.owed call.id := congrArg (filterMap _) pending
        refine ⟨accounted.numbered, accounted.source, fun sub there => ?_, fun m there => ?_,
          owed.trans accounted.unowed, untold.rephased rfl rfl, reflects⟩
        · cases (copied reflects.id).symm.trans there
          have unmade : atDest = [] := unstarted.unmade
          rw [unmade, append_nil]
          exact reflects_givenCopy reflects _
        · exact accounted.published m (published ▸ there)
  | marking subscription notifs =>
    obtain ⟨untold, reflects⟩ := known
    dsimp only
    split_ifs with stop
    · exact accounted.rephased rfl rfl
        (inl ⟨untold.rephased rfl rfl, inr (inl stop)⟩)
    · unfold markTransferring
      by_cases inside : call.id ∈ source.subscriptions
      · rw [if_neg (not_not_intro inside)]
        refine ⟨accounted.numbered, accounted.source, accounted.dest, accounted.published,
          accounted.unowed, ?_⟩
        exact ⟨inr (inr (Finset.mem_insert_self _ _)), untold.rephased rfl rfl, reflects⟩
      · rw [if_pos inside]
        refine accounted.rephased rfl rfl
          (inl ⟨untold.rephased rfl rfl, inr (inr (inl ?_))⟩)
        exact AList.lookup_eq_none.mpr inside
  | flipping subscription notifs =>
    obtain ⟨retired, untold, reflects⟩ := known
    exact accounted.rephased rfl rfl ⟨retired, untold.rephased rfl rfl, reflects⟩
  | completing subscription notifs =>
    obtain ⟨retired, untold, reflects⟩ := known
    dsimp only
    split_ifs with stop
    · exact accounted.rephased rfl rfl
        (inl ⟨untold.rephased rfl rfl, inr (inl stop)⟩)
    · obtain ⟨gone, published, owed⟩ := completeTransfer_spec source call.id
        subscription.sequenceNumber.peekNext now
      have none : source.owed call.id = [] := untold.unowed
      rw [none, nil_append] at owed
      refine ⟨accounted.numbered, fun sub there => ?_, accounted.dest, accounted.published,
        accounted.unowed, inr ⟨transferred subscription.sequenceNumber.peekNext now, gone, ?_, rfl,
          fun m due => ?_, fun m there data => inl ?_,
          fun m there data foreign => absurd ?_ foreign⟩⟩
      · cases gone.symm.trans there
      · show subscription.sequenceNumber.next = _
        rw [reflects.counter]
      · exact mem_singleton.mp (owed ▸ due)
      · exact untold.published m (published ▸ there) data
      · exact untold.published m (published ▸ there) data
  | returned statusCode numbers => exact accounted

theorem Accounted.elsewhere (accounted : r.Accounted id) (source : w.source = r.world.source)
    (dest : w.dest = r.world.dest) (phase : w.phase = r.world.phase)
    (stopped : r.world.sourceStopped = true → w.sourceStopped = true) :
    Accounted { r with world := w } id := by
  refine accounted.rephased source dest (accounted.phase.congr phase
    (fun unstarted => unstarted.rephased dest) (fun untold => untold.rephased ?_ ?_)
    (fun retired => ?_) (fun status telling => ?_) fun _ reflects => reflects)
  · exact congrArg (·.owed id) source
  · exact congrArg (·.published id) source
  · unfold Retired
    rw [source]
    exact retired.imp_left stopped
  · obtain ⟨gone, number, data, owed, published, apart⟩ := telling
    refine ⟨?_, number, data, ?_, ?_, ?_⟩
    all_goals
      rw [source]
      assumption

/-! ### Runs -/

theorem step_accounted (r : Recorded E) (step : RecordedStep E call.id)
    (t : Recorded E) (accounted : r.Accounted call.id)
    (meets : Records call r step ∧ KeepsApart call r step.1)
    (stepped : (recorded E call).step r step = some t) : t.Accounted call.id := by
  obtain ⟨records, apart⟩ := meets
  obtain ⟨w, moved, rfl⟩ := map_eq_some_iff.mp stepped
  replace moved := Machine.failing_step_eq_some.mp moved
  obtain ⟨step, made⟩ := step
  cases step with
  | proceed now =>
    cases moved
    exact accounted.proceeds now
  | atSource op leaves =>
    replace records : ServesMaking call.id r.world.sourceStopped r.world.source op made := records
    rw [TransferStep.apply] at moved
    unfold ServesMaking at records
    split_ifs at moved with stopped
    · cases moved
      rw [if_pos stopped] at records
      cases records
      show Accounted ⟨r.world, r.atSource ++ [], r.atDest⟩ call.id
      rw [append_nil]
      exact accounted
    · obtain ⟨subs, applied, rfl⟩ := Machine.map_eq_ok.mp moved
      rw [if_neg stopped] at records
      rw [Bool.not_eq_true] at stopped
      obtain ⟨makes, nothing⟩ := records subs applied
      obtain ⟨quiet, silent⟩ := apart stopped
      have frozen : match r.world.phase with
          | .inserting _ _ | .marking _ _ => made = []
          | _ => True := by
        cases reached : r.world.phase with
        | inserting | marking =>
          rw [reached] at quiet
          exact nothing quiet
        | _ => trivial
      exact accounted.served
        (advances_of_apply (ticksMeet_any _ _ op) leaves.transfer leaves.foreign applied) makes
        stopped frozen (silent.imp_right (imp_right fun silent =>
          advances_of_apply silent leaves.transfer leaves.foreign applied))
  | atDest op leaves =>
    replace records : ServesMaking call.id r.world.destStopped r.world.dest op made := records
    rw [TransferStep.apply] at moved
    unfold ServesMaking at records
    split_ifs at moved with stopped
    · cases moved
      rw [if_pos stopped] at records
      cases records
      show Accounted ⟨r.world, r.atSource, r.atDest ++ []⟩ call.id
      rw [append_nil]
      exact accounted
    · obtain ⟨subs, applied, rfl⟩ := Machine.map_eq_ok.mp moved
      rw [if_neg stopped] at records
      obtain ⟨makes, nothing⟩ := records subs applied
      exact accounted.servedDest
        (advances_of_apply (ticksMeet_any _ _ op) leaves.transfer leaves.foreign applied) makes
        ((apart (Bool.not_eq_true _ ▸ stopped)).imp_right nothing)
  | unindex =>
    cases moved
    exact accounted.elsewhere rfl rfl rfl fun stopped => stopped
  | stopSource =>
    cases moved
    exact accounted.elsewhere rfl rfl rfl fun _ => rfl
  | stopDest =>
    cases moved
    exact accounted.elsewhere rfl rfl rfl fun stopped => stopped

theorem justCreated_accounted (created : JustCreated id w) :
    (⟨w, [], []⟩ : Recorded E).Accounted id := by
  obtain ⟨sub, there, own, counter, waiting⟩ := created.created
  refine ⟨numbered_nil _, fun other same => ?_, fun other same => ?_, fun m published => ?_,
    created.destUnowed, ?_⟩
  · cases there.symm.trans same
    refine ⟨own, counter, fun m waits => ?_⟩
    rw [waiting] at waits
    cases waits
  · cases created.absent.symm.trans same
  · rw [created.destUnpublished] at published
    cases published
  · unfold InPhase
    rw [created.phase]
    refine ⟨⟨created.absent, rfl⟩, created.unowed, fun m published => ?_⟩
    rw [created.unpublished] at published
    cases published

theorem Accounted.ledger (accounted : r.Accounted id)
    (few : r.atSource.length + r.atDest.length < u32Max) :
    ∃ made : List (NotificationMessage E), Numbered (.new 1) made ∧ made.length ≤ u32Max ∧
      ∀ m ∈ r.world.source.published id ++ r.world.dest.published id, m.CarriesData → m ∈ made := by
  have together : (∀ m ∈ r.world.source.published id, m.CarriesData → m ∈ r.atSource) →
      ∃ made : List (NotificationMessage E), Numbered (.new 1) made ∧ made.length ≤ u32Max ∧
        ∀ m ∈ r.world.source.published id ++ r.world.dest.published id, m.CarriesData →
          m ∈ made := by
    intro own
    refine ⟨r.atSource ++ r.atDest, accounted.numbered, ?_, fun m there data => ?_⟩
    · rw [length_append]
      exact few.le
    · obtain one | other := mem_append.mp there
      · exact mem_append_left _ (own m one data)
      · exact accounted.published m other data
  obtain untold | ⟨status, telling⟩ := accounted.phase.untold_or_telling
  · exact together untold.published
  · by_cases unmade : r.atDest = []
    · have numbered := accounted.numbered
      have others := accounted.published
      rw [unmade, append_nil] at numbered others
      refine ⟨r.atSource ++ [status], numbered.append (numbered_singleton telling.number), ?_,
        fun m there data => ?_⟩
      · rw [length_append, length_singleton]
        omega
      · obtain one | other := mem_append.mp there
        · obtain own | told := telling.published m one data
          · exact mem_append_left _ own
          · exact mem_append_right _ (mem_singleton.mpr told)
        · exact mem_append_left _ (others m other data)
    · refine together fun m there data => ?_
      by_contra foreign
      exact unmade (telling.apart m there data foreign)

end Recorded

/-- **No number twice.** From the creation of a subscription on, while it is transferred and after,
the messages with data that either session publishes for it are told apart by their numbers, as long
as fewer than `u32Max` are made, in every run whose steps keep the numbers apart. -/
theorem transfer_numbers_distinct {call : TransferCall} {start : Transfer E} {final : Recorded E}
    {steps : List (RecordedStep E call.id)} (created : JustCreated call.id start)
    (apart : (recorded E call).Guarded
      (fun r step => Records call r step ∧ KeepsApart call r step.1) ⟨start, [], []⟩ steps)
    (ran : (recorded E call).run ⟨start, [], []⟩ steps = some final)
    (few : final.atSource.length + final.atDest.length < u32Max)
    {first second : NotificationMessage E}
    (left : first ∈ final.world.source.published call.id ++ final.world.dest.published call.id)
    (right : second ∈ final.world.source.published call.id ++ final.world.dest.published call.id)
    (firstData : first.CarriesData) (secondData : second.CarriesData)
    (same : first.sequenceNumber = second.sequenceNumber) : first = second := by
  have accounted := (recorded E call).run_invariant_of_guarded Recorded.step_accounted
    (Recorded.justCreated_accounted created) apart ran
  obtain ⟨made, numbered, short, all⟩ := accounted.ledger few
  exact numbered.eq_of_sequenceNumber short (all first left firstData) (all second right secondData)
    same

/-! ### A transfer over integers -/

namespace Recorded

open Transfer

def reportingInteger : SessionSubscriptions integers :=
  match (sessions _).run integerSession [createInteger 1 3 0,
    .item 1 (.insert 1 (integerItem 1 .reporting 5)),
    .item 1 (.notifyDataValue 1 (integerValue 5 0) 0), publishInteger 1] with
  | some s => s
  | none => integerSession

def tickAtSource : TransferStep integers 1 :=
  .atSource (.tick standstill .tickTimerFired) ⟨trivial, fun _ _ same => by cases same⟩

def noteAtDest : TransferStep integers 1 :=
  .atDest (.item 1 (.notifyDataValue 1 (integerValue 6 0) 0))
    ⟨trivial, fun _ _ same => by cases same⟩

def publishAtDest : TransferStep integers 1 :=
  .atDest (publishInteger 2) ⟨trivial, fun _ _ same => by cases same⟩

def tickAtDest : TransferStep integers 1 :=
  .atDest (.tick standstill .tickTimerFired) ⟨trivial, fun _ _ same => by cases same⟩

def reportedInteger : NotificationMessage integers :=
  .dataChange 1 (dateTimeFrom 0)
    [⟨1, MonitoredItem.waitingForInitialData 0⟩, ⟨1, integerValue 5 0⟩] []

def copiedInteger : NotificationMessage integers :=
  .dataChange 2 (dateTimeFrom 0) [⟨1, integerValue 6 0⟩] []

/-- The source reports its value, and its timer fires once more between the clone and the mark; the
destination reports another value. -/
def reportedApart : List (RecordedStep integers 1) :=
  [(tickAtSource, [reportedInteger]), (.proceed 0, []), (.proceed 0, []), (.proceed 0, []),
    (tickAtSource, []), (.proceed 0, []), (.proceed 0, []), (.proceed 0, []), (.proceed 0, []),
    (noteAtDest, []), (publishAtDest, []), (tickAtDest, [copiedInteger])]

def reportingTransfer : Recorded integers :=
  ⟨{ integerTransfer with source := reportingInteger }, [], []⟩

theorem servesMaking_of_quiet {id : ℕ} {stopped : Bool} {s : SessionSubscriptions E}
    {op : SessionOp E} (leaves : op.Leaves id) (quiet : s.TicksMeet quietly id op) :
    ServesMaking id stopped s op [] := by
  unfold ServesMaking
  split_ifs
  · rfl
  · intro t applied
    obtain ⟨made, makes, nothing⟩ := makes_of_advances
      (advances_of_apply quiet leaves.transfer leaves.foreign applied)
    rw [nothing rfl] at makes
    exact ⟨makes, fun _ => rfl⟩

/-- One message is made, and a request that waits takes it. -/
theorem servesMaking_of_single {id : ℕ} {s t : SessionSubscriptions E} {op : SessionOp E}
    {made : NotificationMessage E} {sub sub' : Subscription E} (applied : op.apply s = .ok t)
    (before : s.copy id = some sub) (after : t.copy id = some sub') (unstaged : id ∉ s.transferring)
    (own : sub'.id = sub.id) (numbered : Numbered sub.sequenceNumber [made])
    (counter : sub'.sequenceNumber = sub.sequenceNumber.issues 1) (taken : sub'.notifications = [])
    (published : t.published id = s.published id ++ [made]) (draws : ¬ s.TicksMeet quietly id op) :
    ServesMaking id false s op [made] := by
  intro u returned
  cases applied.symm.trans returned
  refine ⟨⟨?_, fun other same => ?_, fun other same => ?_, fun m member _ => ?_⟩,
    fun quiet => absurd quiet draws⟩
  · rintro (none | staged)
    · cases before.symm.trans none
    · exact absurd staged unstaged
  · cases before.symm.trans same
    exact numbered
  · cases after.symm.trans same
    refine ⟨sub, before, own, counter, fun m waiting => ?_⟩
    rw [taken] at waiting
    cases waiting
  · rw [published] at member
    exact (mem_append.mp member).imp_right fun new => inr (inr new)

theorem untold_reported {s : SessionSubscriptions integers} {id : ℕ}
    (published : s.published id = [reportedInteger]) : ¬ s.Told id := by
  rintro ⟨m, member, told⟩
  rw [published] at member
  rw [mem_singleton.mp member] at told
  cases told

theorem quiet_atSource {r : Recorded E} {op : SessionOp E} {leaves : op.Leaves call.id}
    (quiet : r.world.source.TicksMeet quietly call.id op)
    (unowed : r.world.source.owed call.id = []) :
    Records call r (.atSource op leaves, []) ∧ KeepsApart call r (.atSource op leaves) := by
  refine ⟨servesMaking_of_quiet leaves quiet, fun _ => ⟨?_, inl unowed⟩⟩
  split
  · exact quiet
  · exact quiet
  · trivial

theorem transfer_numbers_distinct_reported :
    ∃ final : Recorded integers,
      (recorded _ integerCall).run reportingTransfer reportedApart = some final ∧
      final.world.source.published 1 = [reportedInteger] ∧
      final.world.dest.published 1 = [copiedInteger] ∧
      ∀ first ∈ final.world.source.published 1 ++ final.world.dest.published 1,
      ∀ second ∈ final.world.source.published 1 ++ final.world.dest.published 1,
        first.CarriesData → second.CarriesData → first.sequenceNumber = second.sequenceNumber →
          first = second := by
  obtain ⟨final, ran, atSource, atDest, few⟩ : ∃ final : Recorded integers,
      (recorded _ integerCall).run reportingTransfer reportedApart = some final ∧
      final.world.source.published 1 = [reportedInteger] ∧
      final.world.dest.published 1 = [copiedInteger] ∧
      final.atSource.length + final.atDest.length < u32Max := ⟨_, rfl, rfl, rfl, by decide⟩
  refine ⟨final, ran, atSource, atDest, fun first left second right one other same =>
    transfer_numbers_distinct ?_ ?_ ran few left right one other same⟩
  · exact ⟨rfl, ⟨_, rfl, rfl, rfl, rfl⟩, rfl, rfl, rfl, rfl, rfl⟩
  · -- The calls of the protocol record nothing, and meet the condition as they are.
    refine .cons _ rfl ⟨?_, fun _ => ⟨trivial, inl rfl⟩⟩ (.cons _ rfl ⟨rfl, trivial⟩
      (.cons _ rfl ⟨rfl, trivial⟩ (.cons _ rfl ⟨rfl, trivial⟩ (.cons _ rfl (quiet_atSource ?_ rfl)
      (.cons _ rfl ⟨rfl, trivial⟩ (.cons _ rfl ⟨rfl, trivial⟩ (.cons _ rfl ⟨rfl, trivial⟩
      (.cons _ rfl ⟨rfl, trivial⟩ (.cons _ rfl ⟨?_, fun _ => inl (untold_reported rfl)⟩
      (.cons _ rfl ⟨?_, fun _ => inl (untold_reported rfl)⟩
      (.cons _ rfl ⟨?_, fun _ => inl (untold_reported rfl)⟩ trivial)))))))))))
    · refine servesMaking_of_single rfl rfl rfl (by decide) rfl (numbered_singleton rfl) rfl rfl rfl
        fun quiet => ?_
      have meets := quiet.1.2 (by decide)
      rw [PassMeets, if_neg (by decide)] at meets
      exact meets.1 rfl (by decide) _ rfl
        ⟨fun _ => by decide, fun unmarked => absurd unmarked (by decide)⟩
    · refine ⟨⟨fun _ => trivial, fun _ => ?_⟩, fun _ same => by cases same⟩
      rw [PassMeets, if_pos (by decide)]
      refine ⟨fun _ _ sub copied => ?_, fun _ _ => trivial⟩
      rw [← some.inj copied]
      exact fun draws => draws.2
    · exact servesMaking_of_quiet ⟨trivial, fun _ _ same => by cases same⟩
        ⟨trivial, fun _ same => by cases same⟩
    · refine servesMaking_of_quiet ⟨trivial, fun _ _ same => by cases same⟩
        ⟨⟨fun full => absurd full (by decide), fun t roomy => ⟨fun _ => trivial, fun _ => ?_⟩⟩,
          fun _ same => by cases same⟩
      cases Except.ok.inj roomy
      rw [PassMeets, if_neg (by decide)]
      refine ⟨fun _ _ sub copied => ?_, fun _ _ => trivial⟩
      rw [← some.inj copied]
      exact fun draws => draws.2
    · refine servesMaking_of_single rfl rfl rfl (by decide) rfl (numbered_singleton rfl) rfl rfl rfl
        fun quiet => ?_
      have meets := quiet.1.2 (by decide)
      rw [PassMeets, if_neg (by decide)] at meets
      exact meets.1 rfl (by decide) _ rfl
        ⟨fun _ => by decide, fun unmarked => absurd unmarked (by decide)⟩

/-- How many changes each part of a message lists. -/
def changeCounts (message : NotificationMessage integers) : Option (List ℕ) :=
  message.notificationData.map fun data => data.map fun
    | .dataChangeNotification items => items.length
    | _ => 0

/-- The source reports its value between the clone and the mark, and the destination another one
after the transfer. -/
def reportedTwice : List (TransferStep integers 1) :=
  [.proceed 0, .proceed 0, .proceed 0, tickAtSource, .proceed 0, .proceed 0, .proceed 0,
    .proceed 0, noteAtDest, publishAtDest, tickAtDest]

theorem recorded_run_reportedTwice :
    ∃ (recordedSteps : List (RecordedStep integers 1)) (last : Recorded integers),
      recordedSteps.map Prod.fst = reportedTwice ∧
      (recorded _ integerCall).Guarded (Records integerCall)
        ⟨{ integerTransfer with source := reportingInteger }, [], []⟩ recordedSteps ∧
      (recorded _ integerCall).run ⟨{ integerTransfer with source := reportingInteger }, [], []⟩
        recordedSteps = some last := by
  obtain ⟨final, ran⟩ : ∃ final, (transfers _ integerCall).run
      { integerTransfer with source := reportingInteger } reportedTwice = some final := ⟨_, rfl⟩
  obtain ⟨recordedSteps, last, same, -, records, reached⟩ := @recorded_run _ integerCall final
    reportedTwice ⟨{ integerTransfer with source := reportingInteger }, [], []⟩ ran
  exact ⟨recordedSteps, last, same, records, reached⟩

/-- **The first number is used twice.** -/
theorem number_used_twice :
    ¬ ∀ (E : Externals) (call : TransferCall) (start final : Transfer E)
      (steps : List (TransferStep E call.id)), JustCreated call.id start →
      (transfers E call).run start steps = some final →
      (final.source.published call.id ++ final.dest.published call.id).length < u32Max →
      ∀ first ∈ final.source.published call.id ++ final.dest.published call.id,
      ∀ second ∈ final.source.published call.id ++ final.dest.published call.id,
        first.CarriesData → second.CarriesData → first.sequenceNumber = second.sequenceNumber →
          first = second := by
  intro always
  obtain ⟨final, first, second, ran, published, one, other, few, two, three⟩ :
      ∃ (final : Transfer integers) (first second : NotificationMessage integers),
        (transfers _ integerCall).run { integerTransfer with source := reportingInteger }
          reportedTwice = some final ∧
        final.source.published 1 ++ final.dest.published 1 = [first, second] ∧
        first.sequenceNumber = 1 ∧ second.sequenceNumber = 1 ∧
        (final.source.published 1 ++ final.dest.published 1).length < u32Max ∧
        changeCounts first = some [2] ∧ changeCounts second = some [3] :=
    ⟨_, _, _, rfl, rfl, rfl, rfl, by decide, rfl, rfl⟩
  have carries : ∀ {message : NotificationMessage integers} {counts : List ℕ},
      changeCounts message = some counts → message.CarriesData := by
    intro message counts counted empty
    rw [changeCounts, empty] at counted
    cases counted
  have created : JustCreated 1 { integerTransfer with source := reportingInteger } :=
    ⟨rfl, ⟨_, rfl, rfl, rfl, rfl⟩, rfl, rfl, rfl, rfl, rfl⟩
  have left : first ∈ final.source.published 1 ++ final.dest.published 1 :=
    published ▸ mem_cons_self
  have right : second ∈ final.source.published 1 ++ final.dest.published 1 :=
    published ▸ mem_cons_of_mem _ mem_cons_self
  have same := always _ integerCall _ final _ created ran few first left second right (carries two)
    (carries three) (one.trans other.symm)
  rw [same, three] at two
  cases two

end Recorded

end AsyncOpcua.Subscriptions
