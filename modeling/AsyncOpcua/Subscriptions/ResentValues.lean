/-
**What a resend does to a value that is already queued.**

A resend queues the last value of an item unless the front of its queue is that value. The newest
queued value is at the back.

* `Machine.run`s of `stampMachine` leave data changes in the queue only: `reached_entries`;
* `resends_once_iff` — over every run, exactly those.
-/

import AsyncOpcua.Subscriptions.ReturnedTimestamps

namespace AsyncOpcua.Subscriptions

open Types List Option MonitoredItem

variable {E : Externals}

/-! ### Data changes only -/

def IsChange (n : Notification E) : Prop := ∃ change, n = .monitoredItemNotification change

theorem common_isChange (setting : TimestampsToReturn) : Common setting (@IsChange E) where
  marks := by
    rintro _ ⟨change, rfl⟩
    exact ⟨_, rfl⟩
  semantics := by
    rintro _ ⟨change, rfl⟩
    exact ⟨_, rfl⟩
  reports _ _ _ := ⟨_, rfl⟩

theorem entries_of_isChange {queue : List (Notification E)} (changes : ∀ n ∈ queue, IsChange n) :
    ∃ changes, queue = entries changes := by
  induction queue with
  | nil => exact ⟨[], rfl⟩
  | cons first rest ih =>
    obtain ⟨⟨change, rfl⟩, others⟩ := forall_mem_cons.mp changes
    obtain ⟨rest, rfl⟩ := ih others
    exact ⟨change :: rest, rfl⟩

theorem reached_entries {request : MonitoredItem.CreateMonitoredItem E} {now : ℤ}
    {ops : List (StampOp E)} {item : MonitoredItem E}
    (ran : (stampMachine E).run (new request now) ops = some item) :
    ∃ changes, item.notificationQueue = entries changes := by
  have common := @common_isChange E request.timestampsToReturn
  have keeps : ∀ item op after, Holding request.timestampsToReturn IsChange item →
      (stampMachine E).step item op = some after →
      Holding request.timestampsToReturn IsChange after := by
    intro item op after holding stepped
    by_cases resend : op = .resend
    · subst resend
      rw [← some.inj stepped]
      unfold addCurrentValueToQueue
      dsimp only
      split_ifs
      · exact holding
      · cases item.lastDataValue with
        | none => exact holding
        | some value => exact holding.enqueue common ⟨_, rfl⟩
    · exact holding.step common stepped resend
  exact entries_of_isChange
    ((stampMachine E).run_invariant keeps (holding_new common now) ran).queue

/-! ### The queue after a resend -/

def showsValue (value : E.DataValue) : Notification E → Bool
  | .monitoredItemNotification n => DataValue.eq n.value value
  | .event _ => false

section Changes

variable (queueSize : ℕ) (discardOldest : Bool) (n : MonitoredItemNotification E)
  (changes : List (MonitoredItemNotification E))

def sameValue (change : MonitoredItemNotification E) : Bool := DataValue.eq change.value n.value

/-- What a resend of a data change leaves in a queue of data changes. -/
def resentChanges : List (MonitoredItemNotification E) :=
  if changes.head?.any (sameValue n) then changes
  else enqueueChange queueSize discardOldest changes n

/-- A data change that takes the place of a discarded one, with the bits it gets for it. -/
def inPlaceOf (discarded : MonitoredItemNotification E) : MonitoredItemNotification E :=
  let marked := if 1 < queueSize then n.withOverflow else n
  if discarded.semanticsChanged then marked.withSemanticsChanged else marked

variable {queueSize discardOldest changes}

theorem enqueueChange_next {front next : MonitoredItemNotification E}
    {rest : List (MonitoredItemNotification E)}
    (full : (front :: next :: rest).length = queueSize) :
    enqueueChange queueSize true (front :: next :: rest) n =
      inPlaceOf queueSize next front :: rest ++ [n] := by
  unfold enqueueChange inPlaceOf
  by_cases carries : front.semanticsChanged = true <;> simp [full, carries]

theorem enqueueChange_replaced {before : List (MonitoredItemNotification E)}
    {last : MonitoredItemNotification E} (full : (before ++ [last]).length = queueSize)
    (policy : discardOldest = false ∨ before = []) :
    enqueueChange queueSize discardOldest (before ++ [last]) n =
      before ++ [inPlaceOf queueSize n last] := by
  unfold enqueueChange
  rcases policy with rfl | rfl
  · simp [full, inPlaceOf]
  · cases discardOldest <;> simp_all [inPlaceOf]

theorem enqueueChange_nil : enqueueChange queueSize discardOldest [] n = [n] := by
  unfold enqueueChange
  by_cases room : 0 ≠ queueSize
  · simp [room]
  · have none : queueSize = 0 := (not_not.mp room).symm
    cases discardOldest <;> simp [none]

end Changes

/-- **A queued value is not queued again; another is queued, and then once.** Either way the newest
entry is of the value. -/
structure ResendsOnce (item : MonitoredItem E) (value : E.DataValue) : Prop where
  pending : (∃ n ∈ item.notificationQueue, showsValue value n = true) →
    item.addCurrentValueToQueue.notificationQueue = item.notificationQueue
  appended : ¬ (∃ n ∈ item.notificationQueue, showsValue value n = true) →
    item.addCurrentValueToQueue =
        item.enqueueNotification (.monitoredItemNotification ⟨item.clientHandle, value⟩) ∧
      item.addCurrentValueToQueue.notificationQueue.countP (showsValue value) = 1
  newest : ∃ n, item.addCurrentValueToQueue.notificationQueue.getLast? = some n ∧
    showsValue value n = true

/-- **The queues that a resend of a data change fits.** A value that is not a number differs from
itself, so that it is never queued. -/
inductive ResendFits (queueSize : ℕ) (discardOldest : Bool) (n : MonitoredItemNotification E)
    (changes : List (MonitoredItemNotification E)) : Prop where
  /-- The value is at the front, where it is looked for, and at the back. -/
  | queued {front back : MonitoredItemNotification E} (head : changes.head? = some front)
      (last : changes.getLast? = some back) (atFront : sameValue n front = true)
      (atBack : sameValue n back = true)
  /-- The value is not in the queue, and there is room for it. -/
  | added (absent : ∀ change ∈ changes, sameValue n change = false) (itself : sameValue n n = true)
      (room : changes.length ≠ queueSize ∨ changes = [])
  /-- The oldest entry goes, and the next one does not become the value by the bits it gets. -/
  | oldestGone {front next : MonitoredItemNotification E}
    {rest : List (MonitoredItemNotification E)}
      (shape : changes = front :: next :: rest) (full : changes.length = queueSize)
      (policy : discardOldest = true) (absent : ∀ change ∈ changes, sameValue n change = false)
      (itself : sameValue n n = true)
      (marked : sameValue n (inPlaceOf queueSize next front) = false)
  /-- The oldest entry goes, and the queue is what it was. -/
  | oldestBack {front next : MonitoredItemNotification E}
    {rest : List (MonitoredItemNotification E)}
      (shape : changes = front :: next :: rest) (full : changes.length = queueSize)
      (policy : discardOldest = true) (itself : sameValue n n = true)
      (same : inPlaceOf queueSize next front = front) (shifted : rest ++ [n] = next :: rest)
  /-- The newest entry goes, and the bits that the value gets for it are its own. -/
  | newestGone {before : List (MonitoredItemNotification E)} {last : MonitoredItemNotification E}
      (shape : changes = before ++ [last]) (full : changes.length = queueSize)
      (policy : discardOldest = false ∨ before = [])
      (absent : ∀ change ∈ changes, sameValue n change = false)
      (marked : sameValue n (inPlaceOf queueSize n last) = true)
  /-- The newest entry goes, and the queue is what it was. -/
  | newestBack {before : List (MonitoredItemNotification E)} {last : MonitoredItemNotification E}
      (shape : changes = before ++ [last]) (full : changes.length = queueSize)
      (policy : discardOldest = false ∨ before = []) (atBack : sameValue n last = true)
      (same : inPlaceOf queueSize n last = last)

section Changes

variable {queueSize : ℕ} {discardOldest : Bool} {n : MonitoredItemNotification E}
  {changes : List (MonitoredItemNotification E)}

structure ResendsChangeOnce (queueSize : ℕ) (discardOldest : Bool) (n : MonitoredItemNotification E)
    (changes : List (MonitoredItemNotification E)) : Prop where
  pending : (∃ change ∈ changes, sameValue n change = true) →
    resentChanges queueSize discardOldest n changes = changes
  appended : ¬ (∃ change ∈ changes, sameValue n change = true) →
    (resentChanges queueSize discardOldest n changes).countP (sameValue n) = 1
  newest : ∃ change, (resentChanges queueSize discardOldest n changes).getLast? = some change ∧
    sameValue n change = true

section

variable (absent : ∀ change ∈ changes, sameValue n change = false)
include absent

theorem resentChanges_absent :
    resentChanges queueSize discardOldest n changes =
      enqueueChange queueSize discardOldest changes n := by
  unfold resentChanges
  cases changes with
  | nil => simp
  | cons front rest => simp [absent front]

theorem countP_absent : changes.countP (sameValue n) = 0 := by
  simpa using absent

theorem resendsChangeOnce_of_absent {kept : List (MonitoredItemNotification E)}
    {last : MonitoredItemNotification E}
    (resent : enqueueChange queueSize discardOldest changes n = kept ++ [last])
    (others : ∀ change ∈ kept, sameValue n change = false) (atBack : sameValue n last = true) :
    ResendsChangeOnce queueSize discardOldest n changes where
  pending := by
    rintro ⟨change, member, same⟩
    simp [absent change member] at same
  appended _ := by
    rw [resentChanges_absent absent, resent, countP_append, countP_absent others]
    simp [atBack]
  newest := by
    rw [resentChanges_absent absent, resent]
    exact ⟨last, by simp, atBack⟩

end

theorem resendsChangeOnce_of_same {back : MonitoredItemNotification E}
    (last : changes.getLast? = some back) (atBack : sameValue n back = true)
    (same : resentChanges queueSize discardOldest n changes = changes) :
    ResendsChangeOnce queueSize discardOldest n changes where
  pending _ := same
  appended absent := absurd ⟨back, mem_of_getLast? last, atBack⟩ absent
  newest := ⟨back, by rw [same, last], atBack⟩

theorem resentChanges_same (same : enqueueChange queueSize discardOldest changes n = changes) :
    resentChanges queueSize discardOldest n changes = changes := by
  unfold resentChanges
  rw [same, ite_self]

theorem ResendFits.once (fits : ResendFits queueSize discardOldest n changes) :
    ResendsChangeOnce queueSize discardOldest n changes := by
  cases fits with
  | queued head last atFront atBack =>
    refine resendsChangeOnce_of_same last atBack ?_
    unfold resentChanges
    simp [head, atFront]
  | added absent itself room =>
    refine resendsChangeOnce_of_absent absent ?_ absent itself
    rcases room with room | rfl
    · exact enqueueChange_room room _ _
    · exact enqueueChange_nil n
  | @oldestGone front next rest shape full policy absent itself marked =>
    subst shape policy
    refine resendsChangeOnce_of_absent absent (enqueueChange_next n full) ?_ itself
    rw [forall_mem_cons]
    exact ⟨marked, fun change member => absent change (by simp [member])⟩
  | @oldestBack front next rest shape full policy itself same shifted =>
    subst shape policy
    have queue : front :: next :: rest = front :: (rest ++ [n]) := by rw [shifted]
    refine @resendsChangeOnce_of_same _ _ _ _ _ n ?_ itself (resentChanges_same ?_)
    · rw [queue, ← cons_append, getLast?_concat]
    · rw [enqueueChange_next n full, same, queue, cons_append]
  | @newestGone before last shape full policy absent marked =>
    subst shape
    refine resendsChangeOnce_of_absent absent (enqueueChange_replaced n full policy) ?_ marked
    exact fun change member => absent change (mem_append_left _ member)
  | @newestBack before last shape full policy atBack same =>
    subst shape
    refine resendsChangeOnce_of_same getLast?_concat atBack (resentChanges_same ?_)
    rw [enqueueChange_replaced n full policy, same]

theorem shape_of_ne_nil (some : changes ≠ []) (discardOldest : Bool) :
    (discardOldest = true ∧ ∃ front next rest, changes = front :: next :: rest) ∨
      ∃ before last, changes = before ++ [last] ∧ (discardOldest = false ∨ before = []) := by
  obtain ⟨before, last, rfl⟩ : ∃ before last, changes = before ++ [last] :=
    ⟨_, _, (dropLast_append_getLast some).symm⟩
  cases discardOldest with
  | false => exact .inr ⟨before, last, rfl, .inl rfl⟩
  | true =>
    match before with
    | [] => exact .inr ⟨[], last, rfl, .inr rfl⟩
    | [front] => exact .inl ⟨rfl, front, last, [], rfl⟩
    | front :: next :: rest => exact .inl ⟨rfl, front, next, rest ++ [last], rfl⟩

theorem ResendsChangeOnce.fits (once : ResendsChangeOnce queueSize discardOldest n changes) :
    ResendFits queueSize discardOldest n changes := by
  obtain ⟨back, last, atBack⟩ := once.newest
  by_cases front : changes.head?.any (sameValue n) = true
  · -- the front is of the value, so that nothing is queued
    rw [resentChanges, if_pos front] at last
    cases head : changes.head? with
    | none => simp [head] at front
    | some first =>
      rw [head] at front
      exact .queued head last front atBack
  · have resent : resentChanges queueSize discardOldest n changes =
        enqueueChange queueSize discardOldest changes n := if_neg front
    rw [resent] at last
    by_cases pending : ∃ change ∈ changes, sameValue n change = true
    · -- the value is further back, so that what is queued has to restore the queue
      have same := once.pending pending
      rw [resent] at same
      by_cases room : changes.length ≠ queueSize
      · rw [enqueueChange_room room] at same
        simp at same
      · rw [not_not] at room
        obtain ⟨change, member, -⟩ := pending
        rcases shape_of_ne_nil (ne_nil_of_mem member) discardOldest with
          ⟨policy, first, next, rest, shape⟩ | ⟨before, newest, shape, policy⟩
        · subst shape policy
          rw [enqueueChange_next n room] at same last
          obtain ⟨marked, shifted⟩ := cons.inj same
          rw [getLast?_concat] at last
          obtain rfl := some.inj last
          exact .oldestBack rfl room rfl atBack marked shifted
        · subst shape
          rw [enqueueChange_replaced n room policy] at same last
          have marked : inPlaceOf queueSize n newest = newest := by simpa using same
          rw [getLast?_concat, marked] at last
          obtain rfl := some.inj last
          exact .newestBack rfl room policy atBack marked
    · have absent : ∀ change ∈ changes, sameValue n change = false := by
        intro change member
        by_contra there
        exact pending ⟨change, member, by simpa using there⟩
      have counted := once.appended pending
      rw [resent] at counted
      by_cases room : changes.length ≠ queueSize
      · rw [enqueueChange_room room, getLast?_concat] at last
        obtain rfl := some.inj last
        exact .added absent atBack (.inl room)
      · rw [not_not] at room
        by_cases empty : changes = []
        · subst empty
          rw [enqueueChange_nil] at last
          obtain rfl := some.inj last
          exact .added absent atBack (.inr rfl)
        rcases shape_of_ne_nil empty discardOldest with
          ⟨policy, first, next, rest, shape⟩ | ⟨before, newest, shape, policy⟩
        · subst shape policy
          rw [enqueueChange_next n room] at last counted
          rw [getLast?_concat] at last
          obtain rfl := some.inj last
          refine .oldestGone rfl room rfl absent atBack ?_
          by_contra marked
          rw [Bool.not_eq_false] at marked
          simp [countP_append, marked, atBack] at counted
        · subst shape
          rw [enqueueChange_replaced n room policy, getLast?_concat] at last
          obtain rfl := some.inj last
          exact .newestGone rfl room policy absent atBack

end Changes

/-! ### Runs -/

theorem resendsOnce_iff_changes {item : MonitoredItem E} {value : E.DataValue}
    {changes : List (MonitoredItemNotification E)} (last : item.lastDataValue = some value)
    (queue : item.notificationQueue = entries changes) :
    ResendsOnce item value ↔
      ResendsChangeOnce item.queueSize item.discardOldest ⟨item.clientHandle, value⟩ changes := by
  have shown : ∀ change : MonitoredItemNotification E,
      showsValue value (.monitoredItemNotification change) =
        sameValue ⟨item.clientHandle, value⟩ change := fun _ => rfl
  have queued : item.notificationQueue.head?.any (showsValue value) =
      changes.head?.any (sameValue ⟨item.clientHandle, value⟩) := by
    rw [queue]
    cases changes <;> rfl
  have resent : item.addCurrentValueToQueue =
      if item.notificationQueue.head?.any (showsValue value) = true then item
      else item.enqueueNotification (.monitoredItemNotification ⟨item.clientHandle, value⟩) := by
    unfold addCurrentValueToQueue
    rw [last, queue]
    cases changes <;> rfl
  have after : item.addCurrentValueToQueue.notificationQueue =
      entries (resentChanges item.queueSize item.discardOldest ⟨item.clientHandle, value⟩
        changes) := by
    rw [resent, queued, resentChanges]
    split_ifs
    · exact queue
    · rw [enqueueNotification_entries queue]
  have pending : (∃ n ∈ item.notificationQueue, showsValue value n = true) ↔
      ∃ change ∈ changes, sameValue ⟨item.clientHandle, value⟩ change = true := by
    rw [queue]
    simp [entries, shown]
  have counted : ∀ changes : List (MonitoredItemNotification E),
      (entries changes).countP (showsValue value) =
        changes.countP (sameValue ⟨item.clientHandle, value⟩) := by
    intro changes
    rw [entries, countP_map]
    rfl
  have back : ∀ changes : List (MonitoredItemNotification E),
      (∃ n, (entries changes).getLast? = some n ∧ showsValue value n = true) ↔
        ∃ change, changes.getLast? = some change ∧
          sameValue ⟨item.clientHandle, value⟩ change = true := by
    intro changes
    rw [entries, getLast?_map]
    cases changes.getLast? with
    | none => simp
    | some change => simp [shown]
  have injective : Function.Injective (@entries E) :=
    map_injective_iff.mpr fun _ _ same => Notification.monitoredItemNotification.inj same
  constructor
  · rintro ⟨same, once, newest⟩
    rw [pending, after, queue] at same
    rw [pending, after, counted] at once
    rw [after, back] at newest
    exact ⟨fun there => injective (same there), fun absent => (once absent).2, newest⟩
  · rintro ⟨same, once, newest⟩
    refine ⟨fun there => ?_, fun absent => ⟨?_, ?_⟩, ?_⟩
    · rw [after, queue, same (pending.mp there)]
    · have front : ¬ item.notificationQueue.head?.any (showsValue value) = true := by
        intro there
        cases head : item.notificationQueue.head? with
        | none => simp [head] at there
        | some first =>
          rw [head] at there
          exact absent ⟨first, mem_of_head? head, there⟩
      rw [resent, if_neg front]
    · rw [after, counted]
      exact once (mt pending.mpr absent)
    · rw [after, back]
      exact newest

/-- **Which queues a resend fits.** Whatever values an item was given, and whatever was published,
flushed or resent before, a resend leaves the queue alone if it holds the last value, and else
queues it once, with the last value the newest either way, exactly if the value fits the data
changes that are queued. -/
theorem resends_once_iff {request : MonitoredItem.CreateMonitoredItem E} {now : ℤ}
    {ops : List (StampOp E)} {item : MonitoredItem E}
    (ran : (stampMachine E).run (new request now) ops = some item) :
    (∀ value, item.lastDataValue = some value → ResendsOnce item value) ↔
      ∀ value, item.lastDataValue = some value →
        ResendFits item.queueSize item.discardOldest ⟨item.clientHandle, value⟩
          (item.notificationQueue.filterMap dataChangeOf) := by
  obtain ⟨changes, queue⟩ := reached_entries ran
  refine forall₂_congr fun value last => ?_
  rw [resendsOnce_iff_changes last queue, queue, filterMap_entries]
  exact ⟨ResendsChangeOnce.fits, ResendFits.once⟩

def threePlaces : MonitoredItem.CreateMonitoredItem Externals.integers where
  id := 1
  itemToMonitor := ⟨(1 : ℕ), 13, none⟩
  monitoringMode := .reporting
  clientHandle := 1
  discardOldest := true
  queueSize := 3
  samplingInterval := .zero
  initialValue := some (integerChange 1).value
  statusCode := .Good
  filter := .none
  timestampsToReturn := .both
  euRange := none

/-- The initial value is popped, and the value at the front comes again. -/
def valueReturns : List (StampOp Externals.integers) :=
  [.sample (.notify (integerChange 3).value 0 true),
    .sample (.notify (integerChange 2).value 0 true),
    .pop, .sample (.notify (integerChange 3).value 0 true)]

theorem resends_once_returned :
    ∃ item, (stampMachine .integers).run (new threePlaces 0) valueReturns = some item ∧
      item.notificationQueue.length = 3 ∧
      ∀ value, item.lastDataValue = some value → ResendsOnce item value := by
  refine ⟨_, rfl, rfl, (@resends_once_iff _ _ _ valueReturns _ rfl).mpr ?_⟩
  rintro _ ⟨⟩
  exact .queued rfl rfl (by decide) (by decide)

/-- Two different values are queued, and a resend queues the newer once more. -/
theorem newest_queued_twice :
    ¬ ∀ (E : Externals) (request : MonitoredItem.CreateMonitoredItem E) (now : ℤ)
      (ops : List (StampOp E)) (item : MonitoredItem E),
      request.timestampsToReturn = .both →
      (∀ op ∈ ops, op = .pop ∨ ∃ value now fromSubscriptionTick,
        op = .sample (.notify value now fromSubscriptionTick)) →
      (stampMachine E).run (new request now) ops = some item →
      (item.notificationQueue.filterMap dataChangeOf).Pairwise (fun first second =>
        optionEq first.value.value second.value.value = false) →
      ∀ value, item.lastDataValue = some value → ResendsOnce item value := by
  intro always
  have there := always .integers threePlaces 0 [.sample (.notify (integerChange 2).value 0 true)] _
    rfl (by simp) rfl (by decide) _ rfl
  have same := there.pending ⟨_, mem_cons_of_mem _ mem_cons_self, by decide⟩
  exact absurd (congrArg length same) (by decide)

end AsyncOpcua.Subscriptions
