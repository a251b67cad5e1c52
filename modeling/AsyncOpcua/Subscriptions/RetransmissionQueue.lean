/-
**The retransmission queue: sent messages that wait for their acknowledgement.**

Three maps stand beside each other: the entries by insertion number, the number of each
(subscription, sequence number), and the numbers of each subscription. The pool that reclaims the
storage of removed messages is left out.

* `Holds` — there is an entry for a subscription;
* `pushExisting_holds`, `enqueue_holds`, `ack_holds`, `removeSubscription_holds` — only pushing
  brings one in.
-/

import AsyncOpcua.Foundation.Visit
import AsyncOpcua.Types.NotificationMessage
import Mathlib.Data.List.AList

namespace AsyncOpcua.Subscriptions

open Types Foundation Or

/-- A message that its client has not acknowledged. -/
structure NonAckedPublish (E : Externals) where
  message : NotificationMessage E
  subscriptionId : ℕ

structure RetransmissionQueue (E : Externals) where
  entries : AList fun _ : ℕ => NonAckedPublish E
  index : AList fun _ : ℕ × ℕ => ℕ
  bySubscription : AList fun _ : ℕ => Finset ℕ
  nextId : ℕ

variable {E : Externals}

namespace RetransmissionQueue

def new : RetransmissionQueue E where
  entries := ∅
  index := ∅
  bySubscription := ∅
  nextId := 0

def len (queue : RetransmissionQueue E) : ℕ := queue.entries.keys.length

def isEmpty (queue : RetransmissionQueue E) : Bool := queue.entries.keys.isEmpty

/-! ### Removing -/

def removeSubscriptionId (queue : RetransmissionQueue E) (subscriptionId id : ℕ) :
    RetransmissionQueue E :=
  match queue.bySubscription.lookup subscriptionId with
  | none => queue
  | some ids =>
    let ids := ids.erase id
    { queue with
      bySubscription :=
        if ids = ∅ then queue.bySubscription.erase subscriptionId
        else queue.bySubscription.insert subscriptionId ids }

def removeIndexes (queue : RetransmissionQueue E) (id : ℕ) (entry : NonAckedPublish E) :
    RetransmissionQueue E :=
  { queue with index := queue.index.erase (entry.subscriptionId, entry.message.sequenceNumber) }
    |>.removeSubscriptionId entry.subscriptionId id

/-- Take the entry with the lowest number out of the entries alone. -/
def popFirst (queue : RetransmissionQueue E) :
    Option (ℕ × NonAckedPublish E) × RetransmissionQueue E :=
  match ascending queue.entries.keys.toFinset with
  | [] => (none, queue)
  | id :: _ =>
    ((queue.entries.lookup id).map (id, ·), { queue with entries := queue.entries.erase id })

/-- Remove the acknowledged message. -/
def ack (queue : RetransmissionQueue E) (subscriptionId sequenceNumber : ℕ) :
    Option (NonAckedPublish E) × RetransmissionQueue E :=
  match queue.index.lookup (subscriptionId, sequenceNumber) with
  | none => (none, queue)
  | some id =>
    let queue := { queue with index := queue.index.erase (subscriptionId, sequenceNumber) }
    match queue.entries.lookup id with
    | none => (none, queue)
    | some entry =>
      let queue := { queue with entries := queue.entries.erase id }
      (some entry, queue.removeSubscriptionId subscriptionId id)

def removeIds (queue : RetransmissionQueue E) :
    List ℕ → List (NonAckedPublish E) × RetransmissionQueue E
  | [] => ([], queue)
  | id :: rest =>
    match queue.entries.lookup id with
    | none => queue.removeIds rest
    | some entry =>
      let queue :=
        { queue with
          entries := queue.entries.erase id
          index := queue.index.erase (entry.subscriptionId, entry.message.sequenceNumber) }
      let (removed, queue) := queue.removeIds rest
      (entry :: removed, queue)

def removeSubscription (queue : RetransmissionQueue E) (subscriptionId : ℕ) :
    List (NonAckedPublish E) × RetransmissionQueue E :=
  match queue.bySubscription.lookup subscriptionId with
  | none => ([], queue)
  | some ids =>
    { queue with bySubscription := queue.bySubscription.erase subscriptionId }
      |>.removeIds (ascending ids)

/-! ### Adding -/

def pushExisting (queue : RetransmissionQueue E) (entry : NonAckedPublish E) :
    RetransmissionQueue E :=
  let id := queue.nextId
  let ids := (queue.bySubscription.lookup entry.subscriptionId).getD ∅
  { entries := queue.entries.insert id entry
    index := queue.index.insert (entry.subscriptionId, entry.message.sequenceNumber) id
    bySubscription := queue.bySubscription.insert entry.subscriptionId (insert id ids)
    nextId := id + 1 }

/-- Add a sent message, unless it is a keep-alive; a full queue gives up its oldest entry. -/
def enqueue (queue : RetransmissionQueue E) (maxLen subscriptionId : ℕ)
    (message : NotificationMessage E) : RetransmissionQueue E :=
  if message.notificationData.isNone then queue
  else
    let queue :=
      if maxLen ≤ queue.len then
        match queue.popFirst with
        | (some (id, entry), queue) => queue.removeIndexes id entry
        | (none, queue) => queue
      else queue
    queue.pushExisting ⟨message, subscriptionId⟩

/-! ### Reading -/

def cloneSubscription (queue : RetransmissionQueue E) (subscriptionId : ℕ) :
    List (NonAckedPublish E) :=
  match queue.bySubscription.lookup subscriptionId with
  | none => []
  | some ids => (ascending ids).filterMap queue.entries.lookup

def availableSequenceNumbers (queue : RetransmissionQueue E) (subscriptionId : ℕ) :
    Option (List ℕ) :=
  if queue.isEmpty then none
  else
    match queue.bySubscription.lookup subscriptionId with
    | none => none
    | some ids =>
      let sequenceNumbers :=
        ((ascending ids).filterMap queue.entries.lookup).map (·.message.sequenceNumber)
      if sequenceNumbers.isEmpty then none else some sequenceNumbers

def getMessage (queue : RetransmissionQueue E) (subscriptionId sequenceNumber : ℕ) :
    Option (NotificationMessage E) :=
  (queue.index.lookup (subscriptionId, sequenceNumber)).bind fun id =>
    (queue.entries.lookup id).map (·.message)

/-! ### Which subscriptions have entries -/

def Holds (queue : RetransmissionQueue E) (subscriptionId : ℕ) : Prop :=
  ∃ id entry, queue.entries.lookup id = some entry ∧ entry.subscriptionId = subscriptionId

theorem new_holds (subscriptionId : ℕ) : ¬ (new : RetransmissionQueue E).Holds subscriptionId := by
  rintro ⟨id, entry, found, -⟩
  cases found

theorem Holds.of_sub {queue smaller : RetransmissionQueue E} {subscriptionId : ℕ}
    (sub : ∀ id entry, smaller.entries.lookup id = some entry →
      queue.entries.lookup id = some entry)
    (holds : smaller.Holds subscriptionId) : queue.Holds subscriptionId := by
  obtain ⟨id, entry, found, owner⟩ := holds
  exact ⟨id, entry, sub id entry found, owner⟩

variable {entry : NonAckedPublish E}

theorem lookup_of_erase {entries : AList fun _ : ℕ => NonAckedPublish E} {gone id : ℕ}
    (found : (entries.erase gone).lookup id = some entry) : entries.lookup id = some entry := by
  by_cases same : id = gone
  · rw [same, AList.lookup_erase] at found
    cases found
  · rwa [AList.lookup_erase_ne same] at found

theorem removeSubscriptionId_entries (queue : RetransmissionQueue E) (subscriptionId id : ℕ) :
    (queue.removeSubscriptionId subscriptionId id).entries = queue.entries := by
  unfold removeSubscriptionId
  cases queue.bySubscription.lookup subscriptionId <;> rfl

variable {queue : RetransmissionQueue E}

theorem popFirst_sub {popped : RetransmissionQueue E} {first : Option (ℕ × NonAckedPublish E)}
    (pop : queue.popFirst = (first, popped)) (id : ℕ) (entry : NonAckedPublish E)
    (found : popped.entries.lookup id = some entry) : queue.entries.lookup id = some entry := by
  unfold popFirst at pop
  split at pop
  · cases pop
    exact found
  · cases pop
    exact lookup_of_erase found

variable {subscriptionId other : ℕ}

theorem ack_holds {sequenceNumber : ℕ}
    (holds : (queue.ack subscriptionId sequenceNumber).2.Holds other) : queue.Holds other := by
  refine holds.of_sub fun id entry found => ?_
  unfold ack at found
  split at found
  · exact found
  · dsimp only at found
    split at found
    · exact found
    · rw [removeSubscriptionId_entries] at found
      exact lookup_of_erase found

theorem removeIds_sub {ids : List ℕ} {id : ℕ}
    (found : (queue.removeIds ids).2.entries.lookup id = some entry) :
    queue.entries.lookup id = some entry := by
  induction ids generalizing queue with
  | nil => exact found
  | cons first rest ih =>
    unfold removeIds at found
    split at found
    · exact ih found
    · exact lookup_of_erase (ih found)

theorem removeSubscription_holds (holds : (queue.removeSubscription subscriptionId).2.Holds other) :
    queue.Holds other := by
  refine holds.of_sub fun id entry found => ?_
  unfold removeSubscription at found
  split at found
  · exact found
  · have before := removeIds_sub found
    exact before

theorem pushExisting_holds (holds : (queue.pushExisting entry).Holds other) :
    queue.Holds other ∨ entry.subscriptionId = other := by
  obtain ⟨id, found, there, owner⟩ := holds
  by_cases new : id = queue.nextId
  · rw [new] at there
    rw [pushExisting, AList.lookup_insert, Option.some.injEq] at there
    exact inr (there ▸ owner)
  · rw [pushExisting, AList.lookup_insert_ne new] at there
    exact inl ⟨id, found, there, owner⟩

theorem enqueue_holds {maxLen : ℕ} {message : NotificationMessage E}
    (holds : (queue.enqueue maxLen subscriptionId message).Holds other) :
    queue.Holds other ∨ subscriptionId = other := by
  unfold enqueue at holds
  split_ifs at holds with keepAlive full
  · exact inl holds
  · obtain old | owner := pushExisting_holds holds
    · refine inl (old.of_sub fun id entry found => ?_)
      split at found
      · rename_i popped
        rw [removeIndexes, removeSubscriptionId_entries] at found
        exact popFirst_sub popped id entry found
      · rename_i popped
        exact popFirst_sub popped id entry found
    · exact inr owner
  · exact pushExisting_holds holds

end RetransmissionQueue

end AsyncOpcua.Subscriptions
