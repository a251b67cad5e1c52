/-
**An announced change of semantics reaches the client.**

`notify_eu_range_changed` arms a bit for the next reported data change. From then on the bit is
armed or on a queued data change, until one that carries it is popped: a queue that discards an
entry hands its bit on. A sample that was parked before the change is reported without the bit,
unless it came with it.

* `Kept` — the invariant: announced changes are armed or queued, and no entry carries a change that
  was announced after its sample was taken;
* `semantics_change_kept` — over every run of such operations.
-/

import AsyncOpcua.Subscriptions.SkippedSamples

namespace AsyncOpcua.Types.MonitoredItemNotification

open Subscriptions

variable {E : Externals}

@[simp]
theorem semanticsChanged_withOverflow (n : MonitoredItemNotification E) :
    n.withOverflow.semanticsChanged = n.semanticsChanged := by
  simp [semanticsChanged, withOverflow, setStatusBit, DataValue.statusCode]

@[simp]
theorem semanticsChanged_withSemanticsChanged (n : MonitoredItemNotification E) :
    n.withSemanticsChanged.semanticsChanged = true := by
  simp [semanticsChanged, withSemanticsChanged, setStatusBit, DataValue.statusCode]

end AsyncOpcua.Types.MonitoredItemNotification

namespace AsyncOpcua.Subscriptions

open Types Foundation

variable {E : Externals}

/-! ### Which change is announced where

Announcements are numbered from 1; 0 is one that is armed at the start. A sample is marked with the
number of announcements made before it was taken, and a queued data change with those whose bit was
put on it, and with whether its sample brought the bit along. An entry that is discarded hands on
both. -/

structure Mark where
  taken : ℕ
  announced : List ℕ
  brought : Bool
  deriving DecidableEq

def Mark.bit (mark : Mark) : Bool := mark.brought || !mark.announced.isEmpty

def Mark.add (mark : Mark) (discarded : Option Mark) : Mark :=
  { mark with
    announced := mark.announced ++ (discarded.map Mark.announced).getD []
    brought := mark.brought || discarded.any Mark.brought }

theorem Mark.bit_add (mark : Mark) (discarded : Option Mark) :
    (mark.add discarded).bit = (mark.bit || discarded.any Mark.bit) := by
  cases discarded with
  | none => simp [Mark.add, Mark.bit]
  | some given =>
    unfold Mark.add Mark.bit
    cases mark.brought <;> cases given.brought <;> cases mark.announced <;> simp

/-- The marks of a queue, as `enqueueChange` changes it. -/
def enqueueMark (full discardOldest : Bool) (queue : List Mark) (new : Mark) : List Mark :=
  if !full then queue ++ [new]
  else if discardOldest then (queue.tail ++ [new]).modifyHead fun first => first.add queue.head?
  else queue.dropLast ++ [new.add queue.getLast?]

/-- **No entry carries an announcement made after its sample was taken,** and no entry one made
after the sample of a later entry was taken. -/
def InOrder (queue : List Mark) : Prop :=
  (∀ mark ∈ queue, ∀ a ∈ mark.announced, a ≤ mark.taken) ∧
    queue.Pairwise fun earlier later => ∀ a ∈ earlier.announced, a ≤ later.taken

/-- The announcements on the entries of a queue are among the first ones. -/
def UpTo (bound : ℕ) (queue : List Mark) : Prop :=
  ∀ mark ∈ queue, ∀ a ∈ mark.announced, a ≤ bound

variable {queue : List Mark}

theorem UpTo.mono {bound bound' : ℕ} (upTo : UpTo bound queue)
    (more : bound ≤ bound') : UpTo bound' queue :=
  fun mark member a there => le_trans (upTo mark member a there) more

variable {bound : ℕ} {queue shorter : List Mark}

theorem UpTo.sublist (upTo : UpTo bound queue)
    (among : shorter.Sublist queue) : UpTo bound shorter :=
  fun mark member => upTo mark (among.subset member)

theorem InOrder.sublist (inOrder : InOrder queue)
    (among : shorter.Sublist queue) : InOrder shorter :=
  ⟨fun mark member => inOrder.1 mark (among.subset member), inOrder.2.sublist among⟩

open List

theorem UpTo.append {first second : List Mark} (left : UpTo bound first)
    (right : UpTo bound second) : UpTo bound (first ++ second) :=
  forall_mem_append.mpr ⟨left, right⟩

theorem upTo_singleton {mark : Mark} (upTo : ∀ a ∈ mark.announced, a ≤ bound) : UpTo bound [mark] :=
  forall_mem_singleton.mpr upTo

theorem InOrder.snoc (inOrder : InOrder queue) {new : Mark}
    (upTo : UpTo new.taken queue) (own : ∀ a ∈ new.announced, a ≤ new.taken) :
    InOrder (queue ++ [new]) := by
  refine ⟨forall_mem_append.mpr ⟨inOrder.1, forall_mem_singleton.mpr own⟩, ?_⟩
  refine pairwise_append.mpr ⟨inOrder.2, pairwise_singleton _ _, ?_⟩
  intro mark member new' last
  rw [mem_singleton.mp last]
  exact upTo mark member

theorem add_le {mark : Mark} {discarded : Option Mark} (own : ∀ a ∈ mark.announced, a ≤ bound)
    (handed : ∀ given, discarded = some given → ∀ a ∈ given.announced, a ≤ bound) :
    ∀ a ∈ (mark.add discarded).announced, a ≤ bound := by
  intro a member
  rcases mem_append.mp member with there | there
  · exact own a there
  · cases discarded with
    | none => cases there
    | some given => exact handed given rfl a there

theorem UpTo.enqueue (upTo : UpTo bound queue) {new : Mark}
    (own : ∀ a ∈ new.announced, a ≤ bound) (full discardOldest : Bool) :
    UpTo bound (enqueueMark full discardOldest queue new) := by
  have all : UpTo bound (queue ++ [new]) := upTo.append (upTo_singleton own)
  unfold enqueueMark
  split_ifs
  · exact all
  · have fresh : UpTo bound (queue.tail ++ [new]) :=
      all.sublist ((tail_sublist queue).append_right _)
    cases rest : queue.tail ++ [new] with
    | nil => exact fun mark absurdly => absurd absurdly not_mem_nil
    | cons first rest' =>
      rw [rest] at fresh
      obtain ⟨there, others⟩ := forall_mem_cons.mp fresh
      exact forall_mem_cons.mpr ⟨add_le there fun given same =>
        upTo given (mem_of_head? same), others⟩
  · refine (upTo.sublist (dropLast_sublist queue)).append (upTo_singleton ?_)
    exact add_le own fun given same => upTo given (mem_of_getLast? same)

theorem InOrder.enqueue (inOrder : InOrder queue) {new : Mark}
    (upTo : UpTo new.taken queue) (own : ∀ a ∈ new.announced, a ≤ new.taken)
    (full discardOldest : Bool) : InOrder (enqueueMark full discardOldest queue new) := by
  have all := inOrder.snoc upTo own
  unfold enqueueMark
  split_ifs
  · exact all
  · cases queue with
    | nil =>
      refine ⟨forall_mem_singleton.mpr ?_, pairwise_singleton _ _⟩
      exact add_le own fun _ absurdly => by cases absurdly
    | cons dropped rest =>
      -- The bits of the discarded entry go to the one behind it.
      have later := all.sublist (sublist_cons_self dropped (rest ++ [new]))
      have handed : ∀ mark ∈ rest ++ [new], ∀ a ∈ dropped.announced, a ≤ mark.taken :=
        (pairwise_cons.mp all.2).1
      rw [tail_cons, head?_cons]
      cases behind : rest ++ [new] with
      | nil => exact absurd behind (by simp)
      | cons first others =>
        rw [behind] at later handed
        obtain ⟨own', ordered⟩ := pairwise_cons.mp later.2
        have there := forall_mem_cons.mp later.1
        refine ⟨forall_mem_cons.mpr ⟨add_le there.1 ?_, there.2⟩,
          pairwise_cons.mpr ⟨fun mark member => add_le (own' mark member) ?_, ordered⟩⟩
        · rintro given ⟨⟩
          exact handed first mem_cons_self
        · rintro given ⟨⟩
          exact handed mark (mem_cons_of_mem _ member)
  · refine (inOrder.sublist (dropLast_sublist queue)).snoc
      (upTo.sublist (dropLast_sublist queue)) ?_
    exact add_le own fun given same => upTo given (mem_of_getLast? same)

/-- An entry carries the bit exactly if it carries an announcement, or the bit was brought along. -/
def Carries (change : MonitoredItemNotification E) (mark : Mark) : Prop :=
  change.semanticsChanged = mark.bit

variable {changes : List (MonitoredItemNotification E)}

theorem carries_modifyHead
    (carries : List.Forall₂ Carries changes queue)
    {f : MonitoredItemNotification E → MonitoredItemNotification E} {g : Mark → Mark}
    (both : ∀ change mark, Carries change mark → Carries (f change) (g mark)) :
    List.Forall₂ Carries (changes.modifyHead f) (queue.modifyHead g) := by
  cases carries with
  | nil => exact .nil
  | cons first rest => exact .cons (both _ _ first) rest

theorem carries_concat {before : List (MonitoredItemNotification E)}
    {last : MonitoredItemNotification E}
    (carries : List.Forall₂ Carries (before ++ [last]) queue) :
    ∃ marks lastMark, queue = marks ++ [lastMark] ∧ List.Forall₂ Carries before marks ∧
      Carries last lastMark := by
  induction before generalizing queue with
  | nil =>
    cases carries with
    | cons first rest =>
      cases rest
      exact ⟨[], _, rfl, .nil, first⟩
  | cons change before ih =>
    cases carries with
    | cons first rest =>
      obtain ⟨marks, lastMark, rfl, kept, lasts⟩ := ih rest
      exact ⟨_ :: marks, lastMark, rfl, .cons first kept, lasts⟩

open MonitoredItemNotification

theorem carries_enqueue
    (carries : List.Forall₂ Carries changes queue) (queueSize : ℕ) (discardOldest : Bool)
    {n : MonitoredItemNotification E} {new : Mark} (fresh : Carries n new) :
    List.Forall₂ Carries (enqueueChange queueSize discardOldest changes n)
      (enqueueMark (decide (changes.length = queueSize)) discardOldest queue new) := by
  have handedOn : ∀ (discarded : Option (MonitoredItemNotification E)) (given : Option Mark),
      discarded.any (·.semanticsChanged) = given.any Mark.bit →
      ∀ (change : MonitoredItemNotification E) mark, Carries change mark →
        Carries
          (if discarded.any (·.semanticsChanged) then
            (if 1 < queueSize then change.withOverflow else change).withSemanticsChanged
            else if 1 < queueSize then change.withOverflow else change) (mark.add given) := by
    intro discarded given related change mark own
    unfold Carries at own ⊢
    rw [Mark.bit_add, ← own, ← related]
    cases discarded.any (·.semanticsChanged) <;> split_ifs <;> simp at *
  unfold enqueueChange enqueueMark
  by_cases full : changes.length = queueSize
  · rw [if_neg (not_not_intro full), decide_eq_true full]
    simp only [Bool.not_true, Bool.false_eq_true, if_false]
    by_cases oldest : discardOldest = true
    · rw [if_pos oldest, if_pos oldest]
      refine carries_modifyHead (rel_append ?_ (.cons fresh .nil)) (handedOn _ _ ?_)
      · cases carries with
        | nil => exact .nil
        | cons first rest => exact rest
      · cases carries with
        | nil => rfl
        | cons first rest => exact first
    · rw [if_neg oldest, if_neg oldest]
      rcases eq_nil_or_concat changes with rfl | ⟨before, last, rfl⟩
      · cases carries
        exact .cons (handedOn none none rfl n new fresh) .nil
      · obtain ⟨marks, lastMark, rfl, kept, lasts⟩ : ∃ marks lastMark, queue = marks ++ [lastMark] ∧
            List.Forall₂ Carries before marks ∧ Carries last lastMark := by
          rw [concat_eq_append] at carries
          exact carries_concat carries
        rw [concat_eq_append, dropLast_concat, dropLast_concat, getLast?_concat,
          getLast?_concat]
        exact rel_append kept (.cons (handedOn (some last) (some lastMark) lasts n new fresh) .nil)
  · rw [if_pos full, decide_eq_false full]
    exact rel_append carries (.cons fresh .nil)

/-! ### The machine -/

/-- What happens to an item: its EURange changes, it is given values and ticks, its last value is
queued again, it is modified, and its notifications are popped. -/
inductive SemanticsOp (E : Externals) where
  | announce (low high : E.F64)
  | sample (op : SampleOp E)
  | resend
  | modify (request : MonitoredItem.ModifyRequest E) (now : ℤ)
  | pop

def semanticsMachine (E : Externals) : Machine (MonitoredItem E) (SemanticsOp E) where
  step item op :=
    match op with
    | .announce low high => some (item.notifyEuRangeChanged low high)
    | .sample op => (sampleMachine E).step item op
    | .resend => some item.addCurrentValueToQueue
    | .modify request now => some (item.modify request now).2
    | .pop => some item.popNotification.2

/-- **The marks of an item:** how many changes were announced, the marks of its queue, the armed
announcements, and when its parked sample and its last value were taken; and whether a change was
announced since the bit was last popped. -/
structure Marks where
  count : ℕ
  queue : List Mark
  armed : List ℕ
  parked : ℕ
  last : ℕ
  pending : Bool

/-- The change of semantics of this item is announced with the bit. -/
def Announces (item : MonitoredItem E) : Prop :=
  item.filter.isEvent = false ∧ item.filter.isAggregate = false

instance (item : MonitoredItem E) : Decidable (Announces item) :=
  inferInstanceAs (Decidable (_ ∧ _))

def MonitoredItem.resends (item : MonitoredItem E) : Bool :=
  match item.lastDataValue, item.notificationQueue.head? with
  | none, _ => false
  | some value, some (.monitoredItemNotification it) => !DataValue.eq it.value value
  | some _, _ => true

/-- The part of a queue that a modification leaves. -/
def MonitoredItem.ModifyRequest.retained {α : Type} (request : MonitoredItem.ModifyRequest E)
    (queue : List α) : List α :=
  if request.discardOldest then queue.drop (queue.length - request.queueSize)
  else queue.take request.queueSize

/-- Whether an operation on a sample is a tick of the subscription. -/
def SampleOp.isTick : SampleOp E → Bool
  | .notify .. => false
  | .tick _ => true

namespace Marks

variable (m : Marks) (item : MonitoredItem E)

def enqueue (new : Mark) : Marks :=
  { m with
    queue :=
      enqueueMark (decide (item.notificationQueue.length = item.queueSize)) item.discardOldest
        m.queue new }

/-- Whether a value has the bit when it is given to an item. -/
def brings (value : E.DataValue) : Bool :=
  (item.applyTimestampsToReturn value).statusCode.semanticsChanged

/-- The marks when a value is taken, `taken` announcements after the start. -/
def accept (value : E.DataValue) (fromSubscriptionTick : Bool) (taken : ℕ) : Marks :=
  if item.filter.isAggregate then m
  else
    match item.matches_ (item.applyIndexRange value) fromSubscriptionTick with
    | (false, _) => m
    | (true, false) => { m with parked := taken }
    | (true, true) =>
      { m.enqueue item ⟨taken, m.armed, brings item (item.applyIndexRange value)⟩ with
        armed := [], last := taken }

def passOn (skipped : E.DataValue) (fromSubscriptionTick : Bool) : Marks :=
  if item.sampleSkippedBeforeSemanticsChanged then
    { { m with armed := [] }.accept { item.unparked with semanticsChanged := false } skipped
        fromSubscriptionTick m.parked with armed := m.armed }
  else m.accept item.unparked skipped fromSubscriptionTick m.parked

/-- **The marks follow the operations.** -/
def note (op : SemanticsOp E) (_ : MonitoredItem E) : Marks :=
  match op with
  | .announce _ _ =>
    if Announces item then
      { m with count := m.count + 1, armed := m.armed ++ [m.count + 1], pending := true }
    else m
  | .sample sampled =>
    let passed :=
      match passedOn item sampled with
      | some skipped => m.passOn item skipped sampled.isTick
      | none => m
    match sampled with
    | .notify value now fromSubscriptionTick =>
      if item.monitoringMode = .disabled then m
      else passed.accept (item.reportSkipped value now).2 value fromSubscriptionTick m.count
    | .tick _ => passed
  | .resend =>
    if item.resends then
      m.enqueue item ⟨m.last, [], item.lastDataValue.any (·.statusCode.semanticsChanged)⟩
    else m
  | .modify request _ =>
    match request.filter with
    | .error _ => m
    | .ok _ => { m with queue := request.retained m.queue }
  | .pop =>
    if item.overflowEvent.isSome ∧ item.discardOldest then m
    else
      { m with
        queue := m.queue.tail
        pending :=
          m.pending && !(item.notificationQueue.head?.any notificationSemanticsChanged) }

end Marks

/-! ### The invariant -/

/-- The announced change is armed, or on a queued data change. -/
def Announced (item : MonitoredItem E) : Prop :=
  item.semanticsChanged = true ∨
    ∃ n ∈ item.notificationQueue, notificationSemanticsChanged n = true

structure Kept (item : MonitoredItem E) (m : Marks) : Prop where
  entries : ∃ changes, item.notificationQueue = entries changes ∧
    List.Forall₂ Carries changes m.queue
  armed : item.semanticsChanged = !m.armed.isEmpty
  armedUpTo : ∀ a ∈ m.armed, a ≤ m.count
  upTo : UpTo m.count m.queue
  inOrder : InOrder m.queue
  last : UpTo m.last m.queue
  parked : item.sampleSkippedDataValue.isSome = true → UpTo m.parked m.queue ∧
    (item.sampleSkippedBeforeSemanticsChanged = false → ∀ a ∈ m.armed, a ≤ m.parked)

/-- A parked sample was not parked before a change that is still to be announced. -/
def Unflagged (item : MonitoredItem E) : Prop :=
  item.sampleSkippedDataValue.isSome = true → item.sampleSkippedBeforeSemanticsChanged = false

theorem enqueueChange_bit
    {n : MonitoredItemNotification E}
    (bit : ∃ change ∈ changes ++ [n], change.semanticsChanged = true) (queueSize : ℕ)
    (discardOldest : Bool) :
    ∃ change ∈ enqueueChange queueSize discardOldest changes n, change.semanticsChanged = true := by
  have kept : ∀ (discarded : Option (MonitoredItemNotification E))
      (change : MonitoredItemNotification E),
      change.semanticsChanged = true ∨ (discarded.any (·.semanticsChanged)) = true →
      (if discarded.any (·.semanticsChanged) then
        (if 1 < queueSize then change.withOverflow else change).withSemanticsChanged
        else if 1 < queueSize then change.withOverflow else change).semanticsChanged = true := by
    intro discarded change either
    by_cases carries : (discarded.any (·.semanticsChanged)) = true
    · rw [if_pos carries, semanticsChanged_withSemanticsChanged]
    · rw [if_neg carries]
      have own := either.resolve_right carries
      split_ifs
      · rwa [semanticsChanged_withOverflow]
      · exact own
  obtain ⟨change, member, carries⟩ := bit
  unfold enqueueChange
  by_cases room : changes.length ≠ queueSize
  · rw [if_pos room]
    exact ⟨change, member, carries⟩
  rw [if_neg room]
  by_cases oldest : discardOldest = true
  · rw [if_pos oldest]
    cases changes with
    | nil =>
      rw [mem_singleton.mp member] at carries
      exact ⟨_, mem_singleton.mpr rfl, kept none n (.inl carries)⟩
    | cons dropped rest =>
      rw [tail_cons, head?_cons]
      obtain ⟨first, others, fresh⟩ : ∃ first others, rest ++ [n] = first :: others :=
        exists_cons_of_ne_nil (by simp)
      rw [cons_append, fresh] at member
      rw [fresh, modifyHead_cons]
      rcases mem_cons.mp member with rfl | later
      · exact ⟨_, mem_cons_self, kept (some change) first (.inr carries)⟩
      · rcases mem_cons.mp later with rfl | further
        · exact ⟨_, mem_cons_self, kept (some dropped) change (.inl carries)⟩
        · exact ⟨change, mem_cons_of_mem _ further, carries⟩
  · rw [if_neg oldest]
    rcases eq_nil_or_concat changes with rfl | ⟨before, last, rfl⟩
    · rw [mem_singleton.mp member] at carries
      exact ⟨_, mem_singleton.mpr rfl, kept none n (.inl carries)⟩
    · rw [concat_eq_append, append_assoc] at member
      rw [concat_eq_append, dropLast_concat, getLast?_concat]
      rcases mem_append.mp member with earlier | later
      · exact ⟨change, mem_append_left _ earlier, carries⟩
      · rcases mem_cons.mp later with rfl | new
        · exact ⟨_, mem_append_right _ mem_cons_self, kept (some change) n (.inr carries)⟩
        · rw [mem_singleton.mp new] at carries
          exact ⟨_, mem_append_right _ mem_cons_self, kept (some last) n (.inl carries)⟩

variable {item : MonitoredItem E}

theorem announced_of_entries
    (queue : item.notificationQueue = entries changes) :
    Announced item ↔ item.semanticsChanged = true ∨
      ∃ change ∈ changes, change.semanticsChanged = true := by
  unfold Announced
  rw [queue, entries]
  refine or_congr_right ⟨?_, ?_⟩
  · rintro ⟨n, member, bit⟩
    obtain ⟨change, there, rfl⟩ := mem_map.mp member
    exact ⟨change, there, bit⟩
  · rintro ⟨change, member, bit⟩
    exact ⟨_, mem_map_of_mem member, bit⟩

section Kept

variable {item : MonitoredItem E} {m : Marks}

/-- Without the announcement that is armed. -/
theorem Kept.disarm (kept : Kept item m) :
    Kept { item with semanticsChanged := false } { m with armed := [] } :=
  { kept with
    armed := rfl
    armedUpTo := fun _ absurdly => absurd absurdly not_mem_nil
    parked := fun there =>
      ⟨(kept.parked there).1, fun _ _ absurdly => absurd absurdly not_mem_nil⟩ }

theorem Kept.unpark (kept : Kept item m) : Kept item.unparked m :=
  { kept with parked := fun absurdly => by cases absurdly }

/-- With a part of the queue. -/
theorem Kept.sublist (kept : Kept item m) {left : List (Notification E)} {queue : List Mark}
    (carried : ∃ changes, left = Subscriptions.entries changes ∧
      List.Forall₂ Carries changes queue) (among : queue.Sublist m.queue) :
    Kept { item with notificationQueue := left } { m with queue := queue } :=
  { kept with
    entries := carried
    upTo := kept.upTo.sublist among
    inOrder := kept.inOrder.sublist among
    last := kept.last.sublist among
    parked := fun there => ⟨(kept.parked there).1.sublist among, (kept.parked there).2⟩ }

theorem Kept.enqueue (kept : Kept item m) {n : MonitoredItemNotification E} {new : Mark}
    (fresh : Carries n new) (upTo : UpTo new.taken m.queue)
    (own : ∀ a ∈ new.announced, a ≤ new.taken ∧ a ≤ m.count ∧ a ≤ m.last ∧
      (item.sampleSkippedDataValue.isSome = true → a ≤ m.parked)) :
    Kept (item.enqueueNotification (.monitoredItemNotification n)) (m.enqueue item new) := by
  obtain ⟨changes, queue, carries⟩ := kept.entries
  rw [MonitoredItem.enqueueNotification_entries queue]
  have full : decide (item.notificationQueue.length = item.queueSize) =
      decide (changes.length = item.queueSize) := by
    rw [queue, entries_length]
  have followed := carries_enqueue carries item.queueSize item.discardOldest fresh
  rw [← full] at followed
  exact
    { entries := ⟨_, rfl, followed⟩
      armed := kept.armed
      armedUpTo := kept.armedUpTo
      upTo := kept.upTo.enqueue (fun a member => (own a member).2.1) _ _
      inOrder := kept.inOrder.enqueue upTo (fun a member => (own a member).1) _ _
      last := kept.last.enqueue (fun a member => (own a member).2.2.1) _ _
      parked := fun there =>
        ⟨(kept.parked there).1.enqueue (fun a member => (own a member).2.2.2 there) _ _,
          (kept.parked there).2⟩ }

variable {changes : List (MonitoredItemNotification E)}

theorem announced_enqueue
    (queue : item.notificationQueue = entries changes) {n : MonitoredItemNotification E}
    (announced : Announced item ∨ n.semanticsChanged = true) :
    Announced (item.enqueueNotification (.monitoredItemNotification n)) := by
  rw [MonitoredItem.enqueueNotification_entries queue,
    @announced_of_entries _ (enqueueChange item.queueSize item.discardOldest changes n) _ rfl]
  rw [announced_of_entries queue] at announced
  rcases announced with (armed | ⟨change, member, carries⟩) | own
  · exact .inl armed
  · exact .inr (enqueueChange_bit ⟨change, mem_append_left _ member, carries⟩ _ _)
  · exact .inr (enqueueChange_bit ⟨n, mem_append_right _ mem_cons_self, own⟩ _ _)

theorem reportOf_semanticsChanged (taken : E.DataValue) (armed : item.semanticsChanged = true) :
    (item.reportOf taken).semanticsChanged = true := by
  unfold MonitoredItem.reportOf
  rw [if_pos armed]
  exact StatusCode.semanticsChanged_setSemanticsChanged _

theorem reportOf_bit (taken : E.DataValue) :
    (item.reportOf taken).semanticsChanged =
    (Marks.brings item taken || item.semanticsChanged) := by
  cases armed : item.semanticsChanged with
  | true => rw [reportOf_semanticsChanged taken armed, Bool.or_true]
  | false =>
    unfold MonitoredItem.reportOf
    rw [armed, Bool.or_false]
    rfl

section

variable (kept : Kept item m) (clear : Unflagged item) (value : E.DataValue) {taken : ℕ}
include kept clear

theorem Kept.report (upTo : UpTo taken m.queue) (own : ∀ a ∈ m.armed, a ≤ taken) :
    Kept (item.report value) { m.enqueue item ⟨taken, m.armed, Marks.brings item value⟩ with
      armed := [], last := taken } := by
  have taking : Kept { item with lastDataValue := some value, semanticsChanged := false }
      { m with armed := [], last := taken } := { kept.disarm with last := upTo }
  refine @Kept.enqueue _ _ _ taking _ ⟨taken, m.armed, Marks.brings item value⟩ ?_ upTo ?_
  · exact (reportOf_bit value).trans (by rw [kept.armed]; rfl)
  · exact fun a member => ⟨own a member, kept.armedUpTo a member, own a member,
      fun there => (kept.parked there).2 (clear there) a member⟩

theorem Kept.accept (now : ℤ) (fromSubscriptionTick extraEnqueued : Bool)
    (upTo : UpTo taken m.queue) (own : ∀ a ∈ m.armed, a ≤ taken) :
    Kept (item.acceptDataValue value now fromSubscriptionTick extraEnqueued).2
      (m.accept item value fromSubscriptionTick taken) := by
  unfold Marks.accept
  rcases item.acceptDataValue_cases value now fromSubscriptionTick extraEnqueued with
    ⟨aggregate, after⟩ | ⟨single, same, after⟩ | ⟨single, same, after⟩ | ⟨single, same, after⟩
  · rw [after, if_pos aggregate]
    exact { kept with }
  · rw [after, if_neg (by rw [single]; exact Bool.false_ne_true)]
    split
    · exact kept
    · next passes => rw [passes] at same; cases same
    · next passes => rw [passes] at same; cases same
  · rw [after, if_neg (by rw [single]; exact Bool.false_ne_true), same]
    exact { kept with parked := fun _ => ⟨upTo, fun _ => own⟩ }
  · rw [after, if_neg (by rw [single]; exact Bool.false_ne_true), same]
    exact kept.report clear _ upTo own

end

theorem announced_accept
    (queue : item.notificationQueue = entries changes) (announced : Announced item)
    (value : E.DataValue) (now : ℤ) (fromSubscriptionTick extraEnqueued : Bool) :
    Announced (item.acceptDataValue value now fromSubscriptionTick extraEnqueued).2 := by
  rcases item.acceptDataValue_cases value now fromSubscriptionTick extraEnqueued with
    ⟨-, after⟩ | ⟨-, -, after⟩ | ⟨-, -, after⟩ | ⟨-, -, after⟩ <;> rw [after]
  · exact announced
  · exact announced
  · exact announced
  · refine @announced_enqueue _ { item with lastDataValue := _, semanticsChanged := false } changes
      queue _ ?_
    rcases announced with armed | queued
    · exact .inr (reportOf_semanticsChanged _ armed)
    · exact .inl (.inr queued)

theorem accept_frame (m : Marks) (item : MonitoredItem E) (value : E.DataValue)
    (fromSubscriptionTick : Bool) (taken : ℕ) :
    (m.accept item value fromSubscriptionTick taken).count = m.count ∧
      (m.accept item value fromSubscriptionTick taken).pending = m.pending := by
  unfold Marks.accept
  split
  · exact ⟨rfl, rfl⟩
  · split <;> exact ⟨rfl, rfl⟩

theorem accept_armed {m : Marks} (disarmed : m.armed = []) (item : MonitoredItem E)
    (value : E.DataValue) (fromSubscriptionTick : Bool) (taken : ℕ) :
    (m.accept item value fromSubscriptionTick taken).armed = [] := by
  unfold Marks.accept
  split
  · exact disarmed
  · split
    · exact disarmed
    · exact disarmed
    · rfl

theorem passOn_frame (m : Marks) (item : MonitoredItem E) (skipped : E.DataValue)
    (fromSubscriptionTick : Bool) :
    (m.passOn item skipped fromSubscriptionTick).count = m.count ∧
      (m.passOn item skipped fromSubscriptionTick).pending = m.pending := by
  unfold Marks.passOn
  split_ifs
  · exact accept_frame _ _ skipped fromSubscriptionTick _
  · exact accept_frame _ _ skipped fromSubscriptionTick _

theorem Unflagged.accept (clear : Unflagged item) (value : E.DataValue) (now : ℤ)
    (fromSubscriptionTick extraEnqueued : Bool) :
    Unflagged (item.acceptDataValue value now fromSubscriptionTick extraEnqueued).2 := by
  rcases item.acceptDataValue_cases value now fromSubscriptionTick extraEnqueued with
    ⟨-, after⟩ | ⟨-, -, after⟩ | ⟨-, -, after⟩ | ⟨-, -, after⟩ <;> rw [after]
  · exact clear
  · exact clear
  · exact fun _ => rfl
  · intro there
    rw [MonitoredItem.report, (enqueueNotification_itemToMonitor _ _).2] at there
    rw [MonitoredItem.report, enqueueNotification_flag]
    exact clear there

/-- **Passing the parked sample on,** if one from before the change is not parked again. -/
theorem Kept.passOn (kept : Kept item m) {skipped : E.DataValue}
    (there : item.sampleSkippedDataValue = some skipped) (now : ℤ) (fromSubscriptionTick : Bool)
    (goesOn : item.sampleSkippedBeforeSemanticsChanged = true → item.filter.isAggregate = false →
      item.matches_ (item.applyIndexRange skipped) fromSubscriptionTick ≠ (true, false)) :
    Kept (item.passOn skipped now fromSubscriptionTick).2
        (m.passOn item skipped fromSubscriptionTick) ∧
      Unflagged (item.passOn skipped now fromSubscriptionTick).2 := by
  obtain ⟨upTo, own⟩ := kept.parked (by rw [there]; rfl)
  unfold MonitoredItem.passOn Marks.passOn
  by_cases flagged : item.sampleSkippedBeforeSemanticsChanged = true
  · rw [if_pos flagged, if_pos flagged]
    have clear : Unflagged { item.unparked with semanticsChanged := false } := fun _ => rfl
    have taken := kept.unpark.disarm.accept clear skipped now fromSubscriptionTick false upTo
      fun a absurdly => absurd absurdly not_mem_nil
    have empty : (MonitoredItem.acceptDataValue { item.unparked with semanticsChanged := false }
        skipped now fromSubscriptionTick false).2.sampleSkippedDataValue = none := by
      rcases MonitoredItem.acceptDataValue_cases { item.unparked with semanticsChanged := false }
          skipped now fromSubscriptionTick false with
        ⟨-, after⟩ | ⟨-, -, after⟩ | ⟨single, same, -⟩ | ⟨-, -, after⟩
      · rw [after]
        rfl
      · rw [after]
        rfl
      · exact absurd same (goesOn flagged single)
      · rw [after]
        exact (enqueueNotification_itemToMonitor _ _).2
    have nothing : ¬ (MonitoredItem.acceptDataValue
        { item.unparked with semanticsChanged := false } skipped now fromSubscriptionTick
        false).2.sampleSkippedDataValue.isSome = true := by
      rw [empty]
      exact Bool.false_ne_true
    refine ⟨?_, fun absurdly => absurd absurdly nothing⟩
    exact
      { entries := taken.entries
        armed := by
          have reset := taken.armed
          rw [accept_armed rfl] at reset
          exact (congrArg (fun bit => bit || item.semanticsChanged) reset).trans kept.armed
        armedUpTo := fun a member => by
          rw [(accept_frame _ _ _ _ _).1]
          exact kept.armedUpTo a member
        upTo := taken.upTo
        inOrder := taken.inOrder
        last := taken.last
        parked := fun absurdly => absurd absurdly nothing }
  · rw [if_neg flagged, if_neg flagged]
    rw [Bool.not_eq_true] at flagged
    have clear : Unflagged item.unparked := fun _ => rfl
    exact ⟨kept.unpark.accept clear skipped now fromSubscriptionTick false upTo (own flagged),
      clear.accept skipped now fromSubscriptionTick false⟩

theorem announced_passOn
    (queue : item.notificationQueue = entries changes) (announced : Announced item)
    (skipped : E.DataValue) (now : ℤ) (fromSubscriptionTick : Bool) :
    Announced (item.passOn skipped now fromSubscriptionTick).2 := by
  unfold MonitoredItem.passOn
  split_ifs
  · by_cases armed : item.semanticsChanged = true
    · left
      show (_ || item.semanticsChanged) = true
      rw [armed, Bool.or_true]
    · have withheld : Announced { item.unparked with semanticsChanged := false } :=
        .inr (announced.resolve_left armed)
      rcases @announced_accept _ { item.unparked with semanticsChanged := false } _ queue
          withheld skipped now fromSubscriptionTick false with later | queued
      · left
        show (_ || _) = true
        rw [Bool.or_eq_true]
        exact .inl later
      · exact .inr queued
  · exact @announced_accept _ item.unparked _ queue announced skipped now fromSubscriptionTick
      false

theorem Kept.reportSkipped (kept : Kept item m) (value : E.DataValue) (now : ℤ)
    (fromSubscriptionTick : Bool) (enabled : item.monitoringMode ≠ .disabled)
    (goesOn : ∀ skipped, passedOn item (.notify value now fromSubscriptionTick) = some skipped →
      item.sampleSkippedBeforeSemanticsChanged = true → item.filter.isAggregate = false →
      item.matches_ (item.applyIndexRange skipped) false ≠ (true, false)) :
    Kept (item.reportSkipped value now).2
        (match passedOn item (.notify value now fromSubscriptionTick) with
          | some skipped => m.passOn item skipped false
          | none => m) ∧
      Unflagged (item.reportSkipped value now).2 ∧
      (Announced item → Announced (item.reportSkipped value now).2) := by
  obtain ⟨changes, queue, -⟩ := kept.entries
  unfold passedOn at goesOn ⊢
  rw [if_neg enabled] at goesOn ⊢
  unfold MonitoredItem.reportSkipped
  cases there : item.sampleSkippedDataValue with
  | none =>
    refine ⟨kept, fun absurdly => ?_, id⟩
    rw [there] at absurdly
    cases absurdly
  | some skipped =>
    rw [there] at goesOn
    dsimp only [Option.filter_some]
    by_cases early : MonitoredItem.usable skipped value now = true
    · simp only [Option.filter_some, early, if_true] at goesOn ⊢
      obtain ⟨passed, clear⟩ := kept.passOn there now false (goesOn skipped rfl)
      exact ⟨passed, clear, fun announced => announced_passOn queue announced skipped now false⟩
    · simp only [early]
      exact ⟨kept.unpark, fun _ => rfl, id⟩

/-! ### The operations that keep the bit -/

/-- **A modification keeps the bit:** if it is on a queued data change only, one that the shorter
queue keeps carries it. -/
def KeepsBit (item : MonitoredItem E) (op : SemanticsOp E) : Prop :=
  ∀ request now, op = .modify request now → (∃ filter, request.filter = .ok filter) →
    Announced item →
      Announced { item with notificationQueue := request.retained item.notificationQueue }

/-- **A sample that was parked before an announced change is not parked again** when it is passed
on: it passes the sampling interval, or is no change. -/
def NotParkedAgain (item : MonitoredItem E) (op : SemanticsOp E) : Prop :=
  ∀ sampled, op = .sample sampled → ∀ skipped, passedOn item sampled = some skipped →
    item.sampleSkippedBeforeSemanticsChanged = true → item.filter.isAggregate = false →
    item.matches_ (item.applyIndexRange skipped) sampled.isTick ≠ (true, false)

theorem Kept.notify (kept : Kept item m) (value : E.DataValue) (now : ℤ)
    (fromSubscriptionTick : Bool)
    (goesOn : NotParkedAgain item (.sample (.notify value now fromSubscriptionTick))) :
    Kept (item.notifyDataValue value now fromSubscriptionTick).2
        (m.note item (.sample (.notify value now fromSubscriptionTick)) item) ∧
      (Announced item → Announced (item.notifyDataValue value now fromSubscriptionTick).2) := by
  rw [MonitoredItem.notifyDataValue_eq]
  unfold Marks.note
  by_cases disabled : item.monitoringMode = .disabled
  · simp only [disabled, if_true]
    exact ⟨kept, id⟩
  · simp only [disabled, if_false]
    obtain ⟨passed, clear, announced⟩ := kept.reportSkipped value now fromSubscriptionTick disabled
      (goesOn _ rfl)
    have count : (match passedOn item (.notify value now fromSubscriptionTick) with
        | some skipped => m.passOn item skipped false
        | none => m).count = m.count := by
      split
      · exact (passOn_frame _ _ _ _).1
      · rfl
    have upTo := passed.upTo
    have own := passed.armedUpTo
    rw [count] at upTo own
    obtain ⟨changes, queue, -⟩ := passed.entries
    exact ⟨passed.accept clear value now fromSubscriptionTick _ upTo own, fun before =>
      announced_accept queue (announced before) value now fromSubscriptionTick _⟩

theorem Kept.tick (kept : Kept item m) (now : ℤ)
    (goesOn : NotParkedAgain item (.sample (.tick now))) :
    Kept (item.maybeEnqueueSkippedValue now).2 (m.note item (.sample (.tick now)) item) ∧
      (Announced item → Announced (item.maybeEnqueueSkippedValue now).2) := by
  obtain ⟨changes, queue, -⟩ := kept.entries
  have goesOn := goesOn (.tick now) rfl
  rw [MonitoredItem.maybeEnqueueSkippedValue_eq]
  unfold Marks.note passedOn at *
  cases there : item.sampleSkippedDataValue with
  | none =>
    simp only [Option.filter_none, ite_self]
    exact ⟨kept.unpark, id⟩
  | some skipped =>
    rw [there] at goesOn
    by_cases disabled : item.monitoringMode = .disabled
    · simp only [disabled, if_true]
      split_ifs
      · exact ⟨kept.unpark, id⟩
      · exact ⟨kept, id⟩
    · simp only [disabled, if_false, Option.filter_some] at goesOn ⊢
      by_cases early : MonitoredItem.due skipped now = true
      · simp only [early, if_true] at goesOn ⊢
        exact ⟨(kept.passOn there now true (goesOn skipped rfl)).1, fun announced =>
          announced_passOn queue announced skipped now true⟩
      · simp only [early]
        exact ⟨kept, id⟩

theorem notifyEuRangeChanged_announces (announces : Announces item) (low high : E.F64) :
    (item.notifyEuRangeChanged low high).notificationQueue = item.notificationQueue ∧
      (item.notifyEuRangeChanged low high).semanticsChanged = true ∧
      (item.notifyEuRangeChanged low high).sampleSkippedDataValue = item.sampleSkippedDataValue ∧
      (item.notifyEuRangeChanged low high).sampleSkippedBeforeSemanticsChanged =
        (item.sampleSkippedDataValue.isSome || item.sampleSkippedBeforeSemanticsChanged) := by
  obtain ⟨event, aggregate⟩ := announces
  unfold MonitoredItem.notifyEuRangeChanged
  cases filter : item.filter with
  | none | dataChangeFilter => simp [FilterType.isEvent, FilterType.isAggregate]
  | eventFilter parsed => rw [filter] at event; cases event
  | aggregateFilter parsed => rw [filter] at aggregate; cases aggregate

theorem notifyEuRangeChanged_silent (silent : ¬ Announces item) (low high : E.F64) :
    item.notifyEuRangeChanged low high = { item with euRange := some (low, high) } := by
  unfold MonitoredItem.notifyEuRangeChanged
  cases filter : item.filter with
  | none | dataChangeFilter => exact absurd ⟨by rw [filter]; rfl, by rw [filter]; rfl⟩ silent
  | eventFilter parsed => simp [FilterType.isEvent]
  | aggregateFilter parsed => simp [FilterType.isAggregate]

theorem Kept.announce (kept : Kept item m) (low high : E.F64) :
    Kept (item.notifyEuRangeChanged low high) (m.note item (.announce low high) item) ∧
      (Announced item ∨ Announces item → Announced (item.notifyEuRangeChanged low high)) := by
  unfold Marks.note
  by_cases announces : Announces item
  · obtain ⟨queue, armed, parked, flag⟩ := notifyEuRangeChanged_announces announces low high
    simp only [announces, if_true]
    refine ⟨?_, fun _ => .inl armed⟩
    exact
      { entries := queue ▸ kept.entries
        armed := armed.trans (by simp)
        armedUpTo := forall_mem_append.mpr
          ⟨fun a member => le_trans (kept.armedUpTo a member) (Nat.le_succ _),
            forall_mem_singleton.mpr (le_refl _)⟩
        upTo := kept.upTo.mono (Nat.le_succ _)
        inOrder := kept.inOrder
        last := kept.last
        parked := fun there => by
          rw [parked] at there
          refine ⟨(kept.parked there).1, fun unflagged => ?_⟩
          rw [flag, there, Bool.true_or] at unflagged
          cases unflagged }
  · rw [notifyEuRangeChanged_silent announces]
    rw [if_neg announces]
    exact ⟨{ kept with }, fun before => before.resolve_right announces⟩

theorem Kept.resend (kept : Kept item m) :
    Kept item.addCurrentValueToQueue (m.note item .resend item) ∧
      (Announced item → Announced item.addCurrentValueToQueue) := by
  obtain ⟨changes, queue, -⟩ := kept.entries
  have decided : item.addCurrentValueToQueue =
      item.lastDataValue.elim item fun value =>
        if item.resends then
          item.enqueueNotification (.monitoredItemNotification ⟨item.clientHandle, value⟩)
        else item := by
    unfold MonitoredItem.addCurrentValueToQueue MonitoredItem.resends
    cases item.lastDataValue with
    | none => cases item.notificationQueue.head? <;> simp
    | some value =>
      cases item.notificationQueue.head? with
      | none => rfl
      | some first =>
        cases first with
        | event fields => rfl
        | monitoredItemNotification it => cases same : DataValue.eq it.value value <;> simp [same]
  rw [decided]
  unfold Marks.note
  cases last : item.lastDataValue with
  | none =>
    have silent : item.resends = false := by
      unfold MonitoredItem.resends
      rw [last]
    simp only [silent, Bool.false_eq_true, if_false]
    exact ⟨kept, id⟩
  | some value =>
    dsimp only
    split_ifs
    · exact ⟨kept.enqueue (by simp [Carries, Mark.bit, semanticsChanged]) kept.last
        (fun a absurdly => absurd absurdly not_mem_nil), fun announced =>
          announced_enqueue queue (.inl announced)⟩
    · exact ⟨kept, id⟩

theorem retained_sublist {α : Type} (request : MonitoredItem.ModifyRequest E) (queue : List α) :
    (request.retained queue).Sublist queue := by
  unfold MonitoredItem.ModifyRequest.retained
  split_ifs
  · exact drop_sublist _ _
  · exact take_sublist _ _

theorem Kept.modify (kept : Kept item m) (request : MonitoredItem.ModifyRequest E) (now : ℤ)
    (keepsBit : KeepsBit item (.modify request now)) :
    Kept (item.modify request now).2 (m.note item (.modify request now) item) ∧
      (Announced item → Announced (item.modify request now).2) := by
  have keepsBit := keepsBit request now rfl
  unfold MonitoredItem.modify Marks.note
  dsimp only
  cases parsed : request.filter with
  | error e => exact ⟨{ kept with }, id⟩
  | ok filter =>
    have queue : (if request.discardOldest then
          item.notificationQueue.drop (item.notificationQueue.length - request.queueSize)
        else item.notificationQueue.take (item.notificationQueue.length -
          (item.notificationQueue.length - request.queueSize))) =
        request.retained item.notificationQueue := by
      unfold MonitoredItem.ModifyRequest.retained
      split_ifs
      · rfl
      · rcases le_total item.notificationQueue.length request.queueSize with short | long
        · rw [Nat.sub_eq_zero_of_le short, Nat.sub_zero, take_of_length_le (le_refl _),
            take_of_length_le short]
        · rw [Nat.sub_sub_self long]
    rw [queue]
    refine ⟨?_, keepsBit ⟨filter, parsed⟩⟩
    obtain ⟨changes, entered, carries⟩ := kept.entries
    refine { kept.sublist ⟨request.retained changes, ?_, ?_⟩
      (retained_sublist request m.queue) with }
    · unfold MonitoredItem.ModifyRequest.retained
      rw [entered, entries_length]
      split_ifs
      · exact map_drop.symm
      · exact map_take.symm
    · unfold MonitoredItem.ModifyRequest.retained
      rw [carries.length_eq]
      split_ifs
      · exact forall₂_drop _ carries
      · exact forall₂_take _ carries

theorem Kept.pop (kept : Kept item m) :
    Kept item.popNotification.2 (m.note item .pop item) ∧
      (Announced item → (m.note item .pop item).pending = true →
        m.pending = true ∧ Announced item.popNotification.2) := by
  obtain ⟨changes, queue, carries⟩ := kept.entries
  unfold MonitoredItem.popNotification Marks.note
  by_cases indicator : item.overflowEvent.isSome = true ∧ item.discardOldest = true
  · simp only [indicator, and_self, if_true]
    exact ⟨{ kept with }, fun announced pending => ⟨pending, announced⟩⟩
  · simp only [if_neg indicator]
    cases changes with
    | nil =>
      have empty : m.queue = [] := forall₂_nil_left_iff.mp carries
      rw [queue]
      refine ⟨{ kept.sublist ⟨[], rfl, empty ▸ .nil⟩ (tail_sublist _) with },
        fun announced pending => ⟨(Bool.and_eq_true _ _ ▸ pending).1, ?_⟩⟩
      rcases announced with armed | ⟨n, member, -⟩
      · exact .inl armed
      · rw [queue] at member
        exact absurd member not_mem_nil
    | cons first rest =>
      obtain ⟨mark, marks, own, others, marked⟩ := forall₂_cons_left_iff.mp carries
      rw [queue]
      have left : List.Forall₂ Carries rest m.queue.tail := by rwa [marked]
      refine ⟨{ kept.sublist ⟨rest, rfl, left⟩ (tail_sublist _) with }, fun announced pending => ?_⟩
      obtain ⟨before, unpopped⟩ := Bool.and_eq_true _ _ ▸ pending
      refine ⟨before, ?_⟩
      rcases announced with armed | ⟨n, member, bit⟩
      · exact .inl armed
      · rw [queue] at member
        rcases mem_cons.mp member with rfl | later
        · have popped : notificationSemanticsChanged (.monitoredItemNotification first) = false :=
            Bool.not_eq_true' _ ▸ unpopped
          rw [popped] at bit
          cases bit
        · exact .inr ⟨n, later, bit⟩

end Kept

/-! ### Runs -/

structure KeepsSemantics (item : MonitoredItem E) (op : SemanticsOp E) : Prop where
  modify : KeepsBit item op
  sample : NotParkedAgain item op

/-- What is kept, and that a pending announcement is armed or queued. -/
structure KeptPending (item : MonitoredItem E) (m : Marks) : Prop where
  kept : Kept item m
  pending : m.pending = true → Announced item

theorem note_sample_pending (m : Marks) (item : MonitoredItem E) (sampled : SampleOp E) :
    (m.note item (.sample sampled) item).pending = m.pending := by
  have passed : (match passedOn item sampled with
      | some skipped => m.passOn item skipped sampled.isTick
      | none => m).pending = m.pending := by
    split
    · exact (passOn_frame _ _ _ _).2
    · rfl
  cases sampled with
  | tick now => exact passed
  | notify value now fromSubscriptionTick =>
    unfold Marks.note
    dsimp only
    split_ifs
    · rfl
    · exact (accept_frame _ _ _ _ _).2.trans passed

theorem KeptPending.step {item after : MonitoredItem E} {m : Marks} (holds : KeptPending item m)
    {op : SemanticsOp E} (keeps : KeepsSemantics item op)
    (stepped : (semanticsMachine E).step item op = some after) :
    KeptPending after (m.note item op after) := by
  obtain ⟨kept, pending⟩ := holds
  cases op with
  | announce low high =>
    cases stepped
    obtain ⟨kept', announced⟩ := kept.announce low high
    refine ⟨kept', fun either => announced ?_⟩
    by_cases announces : Announces item
    · exact .inr announces
    · unfold Marks.note at either
      rw [if_neg announces] at either
      exact .inl (pending either)
  | sample sampled =>
    have same := note_sample_pending m item sampled
    cases sampled with
    | notify value now fromSubscriptionTick =>
      cases stepped
      obtain ⟨kept', announced⟩ := kept.notify value now fromSubscriptionTick keeps.sample
      exact ⟨kept', fun either => announced (pending (same ▸ either))⟩
    | tick now =>
      cases stepped
      obtain ⟨kept', announced⟩ := kept.tick now keeps.sample
      exact ⟨kept', fun either => announced (pending (same ▸ either))⟩
  | resend =>
    cases stepped
    obtain ⟨kept', announced⟩ := kept.resend
    refine ⟨kept', fun either => announced (pending ?_)⟩
    unfold Marks.note at either
    split_ifs at either <;> exact either
  | modify request now =>
    cases stepped
    obtain ⟨kept', announced⟩ := kept.modify request now keeps.modify
    refine ⟨kept', fun either => announced (pending ?_)⟩
    unfold Marks.note at either
    dsimp only at either
    split at either <;> exact either
  | pop =>
    cases stepped
    obtain ⟨kept', announced⟩ := kept.pop
    refine ⟨kept', fun either => ?_⟩
    by_cases before : m.pending = true
    · exact (announced (pending before) either).2
    · unfold Marks.note at either
      dsimp only at either
      rw [Bool.not_eq_true] at before
      split_ifs at either
      · rw [before] at either
        cases either
      · rw [before, Bool.false_and] at either
        cases either

/-- The marks of an item before anything is announced. -/
def Marks.start (item : MonitoredItem E) : Marks where
  count := 0
  queue := item.notificationQueue.map fun n => ⟨0, [], notificationSemanticsChanged n⟩
  armed := if item.semanticsChanged then [0] else []
  parked := 0
  last := 0
  pending := false

theorem keptPending_start
    (queue : item.notificationQueue = entries changes) : KeptPending item (Marks.start item) := by
  have none : ∀ mark ∈ (Marks.start item).queue, mark.announced = [] := by
    intro mark member
    obtain ⟨-, -, rfl⟩ := mem_map.mp member
    rfl
  have upTo : ∀ bound, UpTo bound (Marks.start item).queue := fun bound mark member a there => by
    rw [none mark member] at there
    cases there
  have armed : ∀ a ∈ (Marks.start item).armed, a ≤ 0 := by
    unfold Marks.start
    cases item.semanticsChanged <;> simp
  refine ⟨?_, fun absurdly => by cases absurdly⟩
  exact
    { entries := by
        refine ⟨changes, queue, ?_⟩
        rw [Marks.start, queue, entries, map_map]
        clear upTo none queue
        induction changes with
        | nil => exact .nil
        | cons change rest ih => exact .cons (Bool.or_false _).symm ih
      armed := by
        unfold Marks.start
        cases item.semanticsChanged <;> rfl
      armedUpTo := armed
      upTo := upTo 0
      inOrder := by
        refine ⟨fun mark member a there => ?_, ?_⟩
        · rw [none mark member] at there
          cases there
        · refine pairwise_iff_forall_sublist.mpr fun {earlier later} among a there => ?_
          rw [none earlier (among.subset mem_cons_self)] at there
          cases there
      last := upTo 0
      parked := fun _ => ⟨upTo 0, fun _ => armed⟩ }

/-- **A change of semantics is kept until it is handed out.** In every run of an item whose
operations keep the bit: from an announcement until a notification with the bit is popped, the bit
is armed or on a queued notification; a queued data change has the bit exactly if an announcement is
on it or its sample, or one discarded before it, was given with the bit; and none carries an
announcement that was made after its sample was taken. -/
theorem semantics_change_kept {item after : MonitoredItem E}
    {changes : List (MonitoredItemNotification E)} {m : Marks} {ops : List (SemanticsOp E)}
    (queue : item.notificationQueue = entries changes)
    (keeps : (semanticsMachine E).Guarded KeepsSemantics item ops)
    (ran : ((semanticsMachine E).observed Marks.note).run (item, Marks.start item) ops =
      some (after, m)) :
    (m.pending = true → Announced after) ∧
      (∃ queued, after.notificationQueue = entries queued ∧ List.Forall₂ Carries queued m.queue) ∧
      ∀ mark ∈ m.queue, ∀ a ∈ mark.announced, a ≤ mark.taken := by
  have step : ∀ (s : MonitoredItem E) (g : Marks) op t, KeptPending s g → KeepsSemantics s op →
      (semanticsMachine E).step s op = some t → KeptPending t (g.note s op t) :=
    fun _ _ _ _ holds meets stepped => holds.step meets stepped
  have holds := Machine.observed_invariant_of_guarded step (keptPending_start queue) keeps ran
  exact ⟨holds.pending, holds.kept.entries, holds.kept.inOrder.1⟩

/-! ### Runs over integers -/

def integerSample (value time : ℤ) : Externals.integers.DataValue where
  value := some (.scalar value)
  status := none
  sourceTimestamp := some time
  sourcePicoseconds := none
  serverTimestamp := none
  serverPicoseconds := none

def reportedOne : MonitoredItem Externals.integers :=
  { twoPlaces with
    samplingInterval := .subscription, lastDataValue := some (integerSample 1 0)
    sampleSkippedDataValue := none }

/-- A sample is parked, the change announced, the sample passed on, and a new value reported. -/
def announcedThenReported : List (SemanticsOp Externals.integers) :=
  [.sample (.notify (integerSample 2 5) 5 false), .announce (0 : ℤ) (10 : ℤ), .sample (.tick 10),
    .sample (.notify (integerSample 3 20) 20 true)]

theorem keepsSemantics_of_passedOn {sampled : SampleOp E}
    (goesOn : ∀ skipped, passedOn item sampled = some skipped →
      item.matches_ (item.applyIndexRange skipped) sampled.isTick ≠ (true, false)) :
    KeepsSemantics item (.sample sampled) where
  modify _ _ absurdly := by cases absurdly
  sample _ same skipped passed _ _ := by
    cases same
    exact goesOn skipped passed

theorem keepsSemantics_announce (item : MonitoredItem E) (low high : E.F64) :
    KeepsSemantics item (.announce low high) where
  modify _ _ absurdly := by cases absurdly
  sample _ absurdly := by cases absurdly

theorem semantics_change_kept_reported :
    ∃ after m, ((semanticsMachine Externals.integers).observed Marks.note).run
        (reportedOne, Marks.start reportedOne) announcedThenReported = some (after, m) ∧
      (m.pending = true → Announced after) ∧
      (∃ queued, after.notificationQueue = entries queued ∧ List.Forall₂ Carries queued m.queue) ∧
      ∀ mark ∈ m.queue, ∀ a ∈ mark.announced, a ≤ mark.taken := by
  refine ⟨_, _, rfl, @semantics_change_kept _ reportedOne _ [] _ announcedThenReported rfl ?_ rfl⟩
  refine ⟨keepsSemantics_of_passedOn (fun _ absurdly => by cases absurdly), ?_⟩
  rintro _ ⟨⟩
  refine ⟨keepsSemantics_announce _ _ _, ?_⟩
  rintro _ ⟨⟩
  refine ⟨keepsSemantics_of_passedOn fun skipped passed => ?_, ?_⟩
  · cases passed
    exact of_decide_eq_true rfl
  rintro _ ⟨⟩
  exact ⟨keepsSemantics_of_passedOn (fun _ absurdly => by cases absurdly), fun _ _ => trivial⟩

/-- Two values are queued after the change was announced, the first with the bit; then the queue is
shortened to one place. -/
def announcedThenShortened : List (SemanticsOp Externals.integers) :=
  [.announce (0 : ℤ) (10 : ℤ), .sample (.notify (integerSample 2 5) 5 true),
    .sample (.notify (integerSample 3 6) 6 true),
    .modify ⟨.both, .ok .none, none, .subscription, 1, 1, true⟩ 7]

/-- A sample is parked, the change announced, and the value reported before notified again: the
sample is parked once more, and then passed on by a tick. -/
def announcedWhileParked : List (SemanticsOp Externals.integers) :=
  [.sample (.notify (integerSample 2 5) 5 false), .announce (0 : ℤ) (10 : ℤ),
    .sample (.notify (integerSample 1 8) 8 false), .sample (.tick 10)]

/-- **The bit is lost with the entry that a shorter queue drops; and it is put on a sample that was
parked before the change, if the sample is parked again.** -/
theorem semantics_change_lost :
    (∃ after m, ((semanticsMachine Externals.integers).observed Marks.note).run
        (reportedOne, Marks.start reportedOne) announcedThenShortened = some (after, m) ∧
      m.pending = true ∧ ¬ Announced after) ∧
    ∃ after m, ((semanticsMachine Externals.integers).observed Marks.note).run
        (reportedOne, Marks.start reportedOne) announcedWhileParked = some (after, m) ∧
      after.notificationQueue.map notificationSemanticsChanged = [true] ∧
      ∃ mark ∈ m.queue, ∃ a ∈ mark.announced, mark.taken < a := by
  refine ⟨⟨_, _, rfl, rfl, ?_⟩,
    ⟨_, _, rfl, by decide, ⟨0, [1], false⟩, by decide, 1, by decide, by decide⟩⟩
  unfold Announced
  decide

end AsyncOpcua.Subscriptions
