/-
**The Overflow bit marks the gaps in what an item hands out.**

What was popped from an item's queue, followed by what is still in it, is a part of what was
enqueued. A value is given up only when the queue is full: its oldest value, which leaves a gap
before the new front, or its newest, which leaves a gap before the value that takes its place.

* `overflow_marks_gaps` — over every run, exactly the values behind a gap carry the bit.
-/

import AsyncOpcua.Foundation.Thinning
import AsyncOpcua.Foundation.Transition
import AsyncOpcua.Types.StatusBits
import AsyncOpcua.Subscriptions.Subscription

namespace AsyncOpcua.Types.MonitoredItemNotification

open Subscriptions

variable {E : Externals}

def overflow (n : MonitoredItemNotification E) : Bool := n.value.statusCode.overflow

def semanticsChanged (n : MonitoredItemNotification E) : Bool := n.value.statusCode.semanticsChanged

/-- The data change without the bits that a queue sets. -/
def content (n : MonitoredItemNotification E) : MonitoredItemNotification E :=
  { n with value := { n.value with status := some n.value.statusCode.content } }

variable (n : MonitoredItemNotification E)

/-- The content of a data change, and whether it carries the Overflow bit. -/
def traced : MonitoredItemNotification E × Bool :=
  (n.content, n.overflow)

def withOverflow : MonitoredItemNotification E :=
  { n with value := setStatusBit StatusCode.setOverflow n.value }

def withSemanticsChanged : MonitoredItemNotification E :=
  { n with value := setStatusBit StatusCode.setSemanticsChanged n.value }

@[simp]
theorem traced_withOverflow : n.withOverflow.traced = (n.content, true) := by
  simp [traced, content, overflow, withOverflow, setStatusBit, DataValue.statusCode]

@[simp]
theorem traced_withSemanticsChanged : n.withSemanticsChanged.traced = n.traced := by
  simp [traced, content, overflow, withSemanticsChanged, setStatusBit, DataValue.statusCode]

end AsyncOpcua.Types.MonitoredItemNotification

namespace AsyncOpcua.Subscriptions

open Types Foundation

variable {E : Externals}

/-! ### Queues of data changes -/

/-- The entries of a queue that holds these data changes. -/
def entries (changes : List (MonitoredItemNotification E)) : List (Notification E) :=
  changes.map .monitoredItemNotification

open List

@[simp]
theorem entries_length (changes : List (MonitoredItemNotification E)) :
    (entries changes).length = changes.length := length_map _

@[simp]
theorem filterMap_entries (changes : List (MonitoredItemNotification E)) :
    (entries changes).filterMap dataChangeOf = changes := by
  rw [entries, filterMap_map]
  exact filterMap_some

theorem carrySemanticsChanged_entries (first : MonitoredItemNotification E)
    (rest : List (MonitoredItemNotification E)) :
    carrySemanticsChanged (entries (first :: rest)) =
      (true, entries (first.withSemanticsChanged :: rest)) := rfl

def enqueueChange (queueSize : ℕ) (discardOldest : Bool)
    (changes : List (MonitoredItemNotification E)) (n : MonitoredItemNotification E) :
    List (MonitoredItemNotification E) :=
  let marked (n : MonitoredItemNotification E) := if 1 < queueSize then n.withOverflow else n
  let carried (discarded : Option (MonitoredItemNotification E))
    (n : MonitoredItemNotification E) :=
    if discarded.any (·.semanticsChanged) then n.withSemanticsChanged else n
  if changes.length ≠ queueSize then changes ++ [n]
  else if discardOldest then
    (changes.tail ++ [n]).modifyHead fun first => carried changes.head? (marked first)
  else changes.dropLast ++ [carried changes.getLast? (marked n)]

theorem any_semanticsChanged (change : Option (MonitoredItemNotification E)) :
    (change.map Notification.monitoredItemNotification).any notificationSemanticsChanged =
      change.any (·.semanticsChanged) := by
  cases change <;> rfl

variable {queueSize : ℕ}

theorem enqueueChange_room {changes : List (MonitoredItemNotification E)}
    (room : changes.length ≠ queueSize) (discardOldest : Bool) (n : MonitoredItemNotification E) :
    enqueueChange queueSize discardOldest changes n = changes ++ [n] :=
  if_pos room

variable {rest : List (MonitoredItemNotification E)}

theorem enqueueChange_oldest {first second : MonitoredItemNotification E}
    (full : (first :: second :: rest).length = queueSize) (n : MonitoredItemNotification E) :
    ∃ next : MonitoredItemNotification E, next.traced = (second.content, true) ∧
      enqueueChange queueSize true (first :: second :: rest) n = next :: rest ++ [n] := by
  have several : 1 < queueSize := by
    rw [← full, length_cons, length_cons]
    omega
  unfold enqueueChange
  dsimp only
  rw [if_neg (not_not_intro full), if_pos rfl, tail_cons, cons_append,
    modifyHead_cons, if_pos several]
  split_ifs with carries
  · exact ⟨_, by simp, rfl⟩
  · exact ⟨_, by simp, rfl⟩

theorem enqueueChange_newest {before : List (MonitoredItemNotification E)}
    {last : MonitoredItemNotification E}
    (full : (before ++ [last]).length = queueSize) (several : 1 < queueSize)
    (n : MonitoredItemNotification E) :
    ∃ next : MonitoredItemNotification E, next.traced = (n.content, true) ∧
      enqueueChange queueSize false (before ++ [last]) n = before ++ [next] := by
  unfold enqueueChange
  dsimp only
  rw [if_neg (not_not_intro full), if_neg Bool.false_ne_true, dropLast_concat,
    if_pos several]
  split_ifs with carries
  · exact ⟨_, by simp, rfl⟩
  · exact ⟨_, by simp, rfl⟩

namespace MonitoredItem

variable {item : MonitoredItem E} {changes : List (MonitoredItemNotification E)}

theorem carry_entries {first : MonitoredItemNotification E}
    (queue : item.notificationQueue = entries (first :: rest)) :
    item.carrySemanticsChangedToNextQueuedDataChange =
      { item with notificationQueue := entries (first.withSemanticsChanged :: rest) } := by
  unfold carrySemanticsChangedToNextQueuedDataChange
  rw [queue, carrySemanticsChanged_entries]

theorem popNotification_settings (item : MonitoredItem E) :
    item.popNotification.2.queueSize = item.queueSize ∧
      item.popNotification.2.discardOldest = item.discardOldest := by
  unfold popNotification
  split_ifs
  · exact ⟨rfl, rfl⟩
  · split <;> exact ⟨rfl, rfl⟩

/-- **Enqueueing into a queue of data changes:** the armed bit is left alone. -/
theorem enqueueNotification_entries (queue : item.notificationQueue = entries changes)
    (n : MonitoredItemNotification E) :
    item.enqueueNotification (.monitoredItemNotification n) =
      { item with
        anyNewNotification := true
        notificationQueue :=
          entries (enqueueChange item.queueSize item.discardOldest changes n) } := by
  have head : (entries changes).head? = changes.head?.map .monitoredItemNotification := head?_map
  have last : (entries changes).getLast? = changes.getLast?.map .monitoredItemNotification :=
    getLast?_map
  unfold enqueueNotification enqueueChange
  by_cases room : changes.length ≠ item.queueSize
  · have notFull : item.notificationQueue.length ≠ item.queueSize := by
      rwa [queue, entries_length]
    rw [if_pos notFull, if_pos room, queue]
    simp [entries]
  · have full : ¬ item.notificationQueue.length ≠ item.queueSize := by
      rwa [queue, entries_length]
    rw [if_neg full, if_neg room]
    by_cases oldest : item.discardOldest = true
    · obtain ⟨first, rest, fresh⟩ : ∃ first rest, changes.tail ++ [n] = first :: rest :=
        exists_cons_of_ne_nil (by simp)
      have tail : (entries changes).tail ++ [.monitoredItemNotification n] =
          entries (first :: rest) := by
        rw [← fresh]
        simp [entries]
      have marked : (if decide (1 < item.queueSize) = true then
            (entries (first :: rest)).modifyHead markOverflow else entries (first :: rest)) =
          entries ((if 1 < item.queueSize then first.withOverflow else first) :: rest) := by
        by_cases several : 1 < item.queueSize
        · rw [if_pos (decide_eq_true several), if_pos several]
          rfl
        · rw [if_neg several, if_neg (by rwa [decide_eq_true_eq])]
      rw [if_pos oldest, if_pos oldest]
      simp only [queue, tail, marked, head, any_semanticsChanged, fresh, modifyHead_cons]
      by_cases carries : (changes.head?.any (·.semanticsChanged)) = true
      · rw [if_pos carries, if_pos carries, @carry_entries E _ _ _ rfl]
      · rw [if_neg carries, if_neg carries]
    · have kept : (entries changes).dropLast = entries changes.dropLast := map_dropLast.symm
      rw [if_neg oldest, if_neg oldest]
      simp only [queue, kept, last, any_semanticsChanged]
      by_cases carries : (changes.getLast?.any (·.semanticsChanged)) = true <;>
        by_cases several : 1 < item.queueSize <;>
        simp [carries, several, entries, markOverflow, setNotificationSemanticsChanged,
          MonitoredItemNotification.withOverflow, MonitoredItemNotification.withSemanticsChanged]

end MonitoredItem

/-! ### Runs -/

/-- A data change is queued, or the next notification is popped. -/
inductive QueueOp (E : Externals) where
  | enqueue (n : MonitoredItemNotification E)
  | pop

def queueMachine (E : Externals) : Machine (MonitoredItem E) (QueueOp E) where
  step item op :=
    match op with
    | .enqueue n => some (item.enqueueNotification (.monitoredItemNotification n))
    | .pop => some item.popNotification.2

/-- The data changes enqueued, and those popped. -/
structure QueueHistory (E : Externals) where
  enqueued : List (MonitoredItemNotification E)
  popped : List (MonitoredItemNotification E)

def QueueHistory.note (history : QueueHistory E) (item : MonitoredItem E) (op : QueueOp E)
    (_ : MonitoredItem E) : QueueHistory E :=
  match op with
  | .enqueue n => { history with enqueued := history.enqueued ++ [n] }
  | .pop =>
    { history with
      popped := history.popped ++ (item.popNotification.1.bind dataChangeOf).toList }

/-- **What was handed out and what is queued is what was enqueued, with marked gaps.** -/
structure Handed (queueSize : ℕ) (discardOldest : Bool) (item : MonitoredItem E)
    (history : QueueHistory E) : Prop where
  size : item.queueSize = queueSize
  policy : item.discardOldest = discardOldest
  holds : ∃ changes, item.notificationQueue = entries changes ∧ changes.length ≤ queueSize ∧
    Thinned (history.enqueued.map MonitoredItemNotification.content)
      ((history.popped ++ changes).map MonitoredItemNotification.traced)

section Handed

variable {queueSize : ℕ} {discardOldest : Bool} {item : MonitoredItem E} {history : QueueHistory E}

theorem Handed.enqueue (handed : Handed queueSize discardOldest item history)
    (several : 1 < queueSize) {n : MonitoredItemNotification E} (unmarked : n.overflow = false) :
    Handed queueSize discardOldest (item.enqueueNotification (.monitoredItemNotification n))
      { history with enqueued := history.enqueued ++ [n] } := by
  obtain ⟨changes, queue, bound, thinned⟩ := handed.holds
  have fresh : n.traced = (n.content, false) := by rw [MonitoredItemNotification.traced, unmarked]
  rw [MonitoredItem.enqueueNotification_entries queue]
  refine ⟨handed.size, handed.policy, _, rfl, ?_⟩
  rw [map_append, map_singleton, handed.size, handed.policy]
  by_cases room : changes.length ≠ queueSize
  · rw [enqueueChange_room room]
    refine ⟨by rw [length_append, length_singleton]; omega, ?_⟩
    rw [← append_assoc, map_append, map_singleton, fresh]
    exact thinned.keep _
  · rw [not_not] at room
    cases discardOldest with
    | true =>
      obtain ⟨first, second, rest, rfl⟩ :
        ∃ first second rest, changes = first :: second :: rest := by
        match changes, room with
        | first :: second :: rest, _ => exact ⟨first, second, rest, rfl⟩
        | [_], one => exact absurd (one ▸ several) (lt_irrefl _)
        | [], zero => exact absurd (lt_of_lt_of_eq several zero.symm) (Nat.not_lt_zero 1)
      obtain ⟨next, traced, queued⟩ := enqueueChange_oldest room n
      rw [queued]
      refine ⟨by simpa using bound, ?_⟩
      have given := thinned.keep n.content
      rw [map_append, map_cons, map_cons, append_assoc, cons_append,
        cons_append] at given
      rw [map_append, map_append, map_cons, map_singleton, traced, fresh]
      exact given.dropInner
    | false =>
      obtain ⟨before, last, rfl⟩ : ∃ before last, changes = before ++ [last] := by
        rcases eq_nil_or_concat changes with rfl | ⟨before, last, rfl⟩
        · rw [length_nil] at room
          omega
        · exact ⟨before, last, concat_eq_append⟩
      obtain ⟨next, traced, queued⟩ := enqueueChange_newest room several n
      rw [queued]
      refine ⟨by simpa using bound, ?_⟩
      rw [← append_assoc, map_append, map_singleton] at thinned ⊢
      rw [traced]
      exact thinned.replaceLast n.content

theorem Handed.pop (handed : Handed queueSize discardOldest item history) :
    Handed queueSize discardOldest item.popNotification.2
      { history with
        popped := history.popped ++ (item.popNotification.1.bind dataChangeOf).toList } := by
  obtain ⟨sameSize, samePolicy⟩ := item.popNotification_settings
  refine ⟨sameSize.trans handed.size, samePolicy.trans handed.policy, ?_⟩
  obtain ⟨changes, queue, bound, thinned⟩ := handed.holds
  unfold MonitoredItem.popNotification
  rw [queue]
  split_ifs with indicator
  · -- The indicator of lost events is no data change.
    have event : (item.overflowEvent.map Notification.event).bind dataChangeOf = none := by
      cases item.overflowEvent <;> rfl
    refine ⟨changes, rfl, bound, ?_⟩
    rw [event, Option.toList_none, append_nil]
    exact thinned
  · cases changes with
    | nil =>
      have event : (item.overflowEvent.map Notification.event).bind dataChangeOf = none := by
        cases item.overflowEvent <;> rfl
      refine ⟨[], rfl, bound, ?_⟩
      show Thinned _ (((history.popped ++
        ((item.overflowEvent.map Notification.event).bind dataChangeOf).toList) ++ []).map _)
      rw [event, Option.toList_none, append_nil]
      exact thinned
    | cons first rest =>
      refine ⟨rest, rfl, by simp only [length_cons] at bound; omega, ?_⟩
      rw [append_assoc]
      exact thinned

end Handed

/-- **The Overflow bit marks exactly the gaps.** An item starts with an empty queue of more than one
place; data changes without the bit are enqueued, and notifications popped, in any order. What was
popped, followed by what is queued, is a part of what was enqueued, in order and up to the last
value; a value carries the bit iff one between its predecessor and itself was discarded. -/
theorem overflow_marks_gaps {item after : MonitoredItem E} {history : QueueHistory E}
    {ops : List (QueueOp E)} (empty : item.notificationQueue = []) (several : 1 < item.queueSize)
    (unmarked : ∀ n, QueueOp.enqueue n ∈ ops → n.overflow = false)
    (ran : ((queueMachine E).observed QueueHistory.note).run (item, ⟨[], []⟩) ops =
      some (after, history)) :
    ∃ queued, after.notificationQueue = entries queued ∧ queued.length ≤ item.queueSize ∧
      Thinned (history.enqueued.map MonitoredItemNotification.content)
        ((history.popped ++ queued).map MonitoredItemNotification.traced) := by
  have guarded : (queueMachine E).Guarded (fun _ op => ∀ n, op = .enqueue n → n.overflow = false)
      item ops :=
    Machine.guarded_of_mem _ (fun op member _ n => by
      rintro rfl
      exact unmarked n member) _
  have starts : Handed item.queueSize item.discardOldest item (⟨[], []⟩ : QueueHistory E) :=
    ⟨rfl, rfl, [], empty, Nat.zero_le _, .nil⟩
  have keeps : ∀ (s : MonitoredItem E) (g : QueueHistory E) op t,
      Handed item.queueSize item.discardOldest s g →
      (∀ n, op = .enqueue n → n.overflow = false) → (queueMachine E).step s op = some t →
      Handed item.queueSize item.discardOldest t (g.note s op t) := by
    intro s g op t holds meets stepped
    cases op with
    | enqueue n =>
      rw [← Option.some.inj stepped]
      exact holds.enqueue several (meets n rfl)
    | pop =>
      rw [← Option.some.inj stepped]
      exact holds.pop
  have handed := Machine.observed_invariant_of_guarded keeps starts guarded ran
  exact handed.holds

def twoPlaces : MonitoredItem Externals.integers :=
  { MonitoredItem.new
      { id := 1, itemToMonitor := ⟨(1 : ℕ), 13, none⟩, monitoringMode := .reporting
        clientHandle := 1, discardOldest := true, queueSize := 2, samplingInterval := .zero
        initialValue := none, statusCode := .Good, filter := .none, timestampsToReturn := .both
        euRange := none } 0 with
    notificationQueue := [] }

def integerChange (value : ℤ) : MonitoredItemNotification Externals.integers where
  clientHandle := 1
  value :=
    { value := some (.scalar value), status := none, sourceTimestamp := none
      sourcePicoseconds := none, serverTimestamp := none, serverPicoseconds := none }

theorem overflow_marks_second :
    ∃ queued, ((twoPlaces.enqueueNotification (.monitoredItemNotification (integerChange 1))
          |>.enqueueNotification (.monitoredItemNotification (integerChange 2))
          |>.enqueueNotification (.monitoredItemNotification (integerChange 3))).popNotification.2
        ).notificationQueue = entries queued ∧ queued.length ≤ 2 ∧
      Thinned (([integerChange 1, integerChange 2, integerChange 3]).map
          MonitoredItemNotification.content)
        (([(integerChange 2).withOverflow] ++ queued).map MonitoredItemNotification.traced) :=
  @overflow_marks_gaps _ twoPlaces _ _
    [.enqueue (integerChange 1), .enqueue (integerChange 2), .enqueue (integerChange 3), .pop]
    rfl (by decide)
    (fun n member => by
      simp only [mem_cons, QueueOp.enqueue.injEq, reduceCtorEq, not_mem_nil, or_false] at member
      rcases member with rfl | rfl | rfl <;> rfl)
    rfl

end AsyncOpcua.Subscriptions
