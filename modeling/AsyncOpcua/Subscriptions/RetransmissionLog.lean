/-
**The retransmission queue as a list of sent messages.**

What the queue is for is a list: what was sent, oldest first, until it is acknowledged, pushed out
or removed with its subscription. The three maps of the queue are indexes into it.

* `queue_refines_log` — the queue answers as the list does, if what is pushed is not in it yet.
-/

import AsyncOpcua.Foundation.InsertionOrder
import AsyncOpcua.Foundation.Refinement
import AsyncOpcua.Subscriptions.RetransmissionQueue

namespace AsyncOpcua.Subscriptions

open Types Foundation Option NonAckedPublish Or

variable {E : Externals}

/-- The pair an entry is acknowledged by. -/
def NonAckedPublish.key (entry : NonAckedPublish E) : ℕ × ℕ :=
  (entry.subscriptionId, entry.message.sequenceNumber)

def NonAckedPublish.ofSubscription (subscriptionId : ℕ) (entry : NonAckedPublish E) : Bool :=
  entry.subscriptionId = subscriptionId

/-- The entry is the one acknowledged by the pair. -/
def NonAckedPublish.hasKey (subscriptionId sequenceNumber : ℕ) (entry : NonAckedPublish E) : Bool :=
  entry.key = (subscriptionId, sequenceNumber)

/-! ### The list -/

/-- **The list of sent messages,** oldest first. -/
abbrev RetransmissionLog (E : Externals) := List (NonAckedPublish E)

namespace RetransmissionLog

variable (log : RetransmissionLog E)

def pushExisting (entry : NonAckedPublish E) : RetransmissionLog E :=
  log ++ [entry]

/-- Make room: a full list gives up its oldest message. -/
def evict (maxLen : ℕ) : RetransmissionLog E :=
  if maxLen ≤ log.length then log.tail else log

def enqueue (maxLen subscriptionId : ℕ) (message : NotificationMessage E) : RetransmissionLog E :=
  if message.notificationData.isNone then log
  else pushExisting (evict log maxLen) ⟨message, subscriptionId⟩

def ack (subscriptionId sequenceNumber : ℕ) : Option (NonAckedPublish E) × RetransmissionLog E :=
  (log.find? (·.hasKey subscriptionId sequenceNumber),
    log.filter fun entry => !entry.hasKey subscriptionId sequenceNumber)

def cloneSubscription (subscriptionId : ℕ) : List (NonAckedPublish E) :=
  log.filter (·.ofSubscription subscriptionId)

def removeSubscription (subscriptionId : ℕ) : List (NonAckedPublish E) × RetransmissionLog E :=
  (cloneSubscription log subscriptionId,
    log.filter fun entry => !entry.ofSubscription subscriptionId)

def availableSequenceNumbers (subscriptionId : ℕ) : Option (List ℕ) :=
  match cloneSubscription log subscriptionId with
  | [] => none
  | held => some (held.map (·.message.sequenceNumber))

def getMessage (subscriptionId sequenceNumber : ℕ) : Option (NotificationMessage E) :=
  (log.find? (·.hasKey subscriptionId sequenceNumber)).map (·.message)

end RetransmissionLog

open AList

namespace RetransmissionQueue

variable {queue : RetransmissionQueue E}

/-- The numbers filed under a subscription. -/
def ids (queue : RetransmissionQueue E) (subscriptionId : ℕ) : Finset ℕ :=
  (queue.bySubscription.lookup subscriptionId).getD ∅

/-- **The queue's list.** -/
def log (queue : RetransmissionQueue E) : RetransmissionLog E := inOrder queue.entries

/-! ### What the maps say -/

/-- **The subscriptions' numbers are right,** and no number is used twice. -/
structure Filed (queue : RetransmissionQueue E) : Prop where
  mem_ids : ∀ subscriptionId id, id ∈ queue.ids subscriptionId ↔
    ∃ entry, queue.entries.lookup id = some entry ∧ entry.ofSubscription subscriptionId = true
  nonempty : ∀ subscriptionId ids, queue.bySubscription.lookup subscriptionId = some ids →
    ids.Nonempty
  entries_below : ∀ id entry, queue.entries.lookup id = some entry → id < queue.nextId
  index_below : ∀ key id, queue.index.lookup key = some id → id < queue.nextId
  index_owner : ∀ key id entry, queue.index.lookup key = some id →
    queue.entries.lookup id = some entry → entry.subscriptionId = key.1

/-- **The three maps agree.** -/
structure Agrees (queue : RetransmissionQueue E) : Prop extends queue.Filed where
  index_iff : ∀ key id, queue.index.lookup key = some id ↔
    ∃ entry, queue.entries.lookup id = some entry ∧ entry.key = key

theorem new_agrees : (new : RetransmissionQueue E).Agrees where
  mem_ids _ _ := ⟨nofun, nofun⟩
  nonempty := nofun
  entries_below := nofun
  index_below := nofun
  index_owner := nofun
  index_iff _ _ := ⟨nofun, nofun⟩

theorem Filed.holds_iff (filed : queue.Filed) (subscriptionId : ℕ) :
    queue.Holds subscriptionId ↔ (queue.ids subscriptionId).Nonempty := by
  constructor
  · rintro ⟨id, entry, found, owner⟩
    exact ⟨id, (filed.mem_ids subscriptionId id).mpr ⟨entry, found, by
      simpa [ofSubscription] using owner⟩⟩
  · rintro ⟨id, there⟩
    obtain ⟨entry, found, owner⟩ := (filed.mem_ids subscriptionId id).mp there
    exact ⟨id, entry, found, by simpa [ofSubscription] using owner⟩

/-! ### One entry leaves -/

/-- Take one entry out of the three maps, and the key it is found by. -/
def drop (queue : RetransmissionQueue E) (id subscriptionId : ℕ) (key : ℕ × ℕ) :
    RetransmissionQueue E :=
  { queue with entries := queue.entries.erase id, index := queue.index.erase key }
    |>.removeSubscriptionId subscriptionId id

section

variable (queue)

theorem removeSubscriptionId_index (subscriptionId id : ℕ) :
    (queue.removeSubscriptionId subscriptionId id).index = queue.index := by
  unfold removeSubscriptionId
  cases queue.bySubscription.lookup subscriptionId <;> rfl

theorem removeSubscriptionId_nextId (subscriptionId id : ℕ) :
    (queue.removeSubscriptionId subscriptionId id).nextId = queue.nextId := by
  unfold removeSubscriptionId
  cases queue.bySubscription.lookup subscriptionId <;> rfl

theorem removeSubscriptionId_ids (subscriptionId id other : ℕ) :
    (queue.removeSubscriptionId subscriptionId id).ids other =
      if other = subscriptionId then (queue.ids subscriptionId).erase id else queue.ids other := by
  cases filed : queue.bySubscription.lookup subscriptionId with
  | none =>
    have empty : queue.ids subscriptionId = ∅ := by rw [ids, filed]; rfl
    simp only [removeSubscriptionId, filed]
    split_ifs with same
    · rw [same, empty, Finset.erase_empty]
    · rfl
  | some set =>
    simp only [removeSubscriptionId, filed, ids, getD_some]
    by_cases same : other = subscriptionId
    · rw [if_pos same, same]
      split_ifs with last
      · rw [lookup_erase, last]
        rfl
      · rw [lookup_insert]
        rfl
    · rw [if_neg same]
      split_ifs with last
      · rw [lookup_erase_ne same]
      · rw [lookup_insert_ne same]

theorem removeSubscriptionId_nonempty
    (nonempty : ∀ owner ids, queue.bySubscription.lookup owner = some ids → ids.Nonempty)
    (subscriptionId id owner : ℕ) (set : Finset ℕ)
    (filed : (queue.removeSubscriptionId subscriptionId id).bySubscription.lookup owner =
      some set) :
    set.Nonempty := by
  unfold removeSubscriptionId at filed
  split at filed
  · exact nonempty owner set filed
  · rename_i ids there
    dsimp only at filed
    by_cases same : owner = subscriptionId
    · rw [same] at filed
      split_ifs at filed with last
      · rw [lookup_erase] at filed
        cases filed
      · rw [lookup_insert, some.injEq] at filed
        exact filed ▸ Finset.nonempty_iff_ne_empty.mpr last
    · split_ifs at filed with last
      · rw [lookup_erase_ne same] at filed
        exact nonempty owner set filed
      · rw [lookup_insert_ne same] at filed
        exact nonempty owner set filed

end

section

variable (queue : RetransmissionQueue E) (id subscriptionId : ℕ) (key : ℕ × ℕ)

theorem drop_entries : (queue.drop id subscriptionId key).entries = queue.entries.erase id :=
  removeSubscriptionId_entries _ _ _

theorem drop_index : (queue.drop id subscriptionId key).index = queue.index.erase key :=
  removeSubscriptionId_index _ _ _

end

variable {α β : Type*}

variable {entries : AList fun _ : α => β} {key : α}

theorem lookup_erase_iff [DecidableEq α] {gone : α} {value : β} :
    (entries.erase gone).lookup key = some value ↔
      key ≠ gone ∧ entries.lookup key = some value := by
  by_cases same : key = gone
  · rw [same, lookup_erase]
    exact ⟨nofun, fun both => absurd rfl both.1⟩
  · rw [lookup_erase_ne same]
    exact ⟨fun found => ⟨same, found⟩, fun both => both.2⟩

variable {id : ℕ} {entry : NonAckedPublish E}

theorem Filed.drop (filed : queue.Filed) (there : queue.entries.lookup id = some entry)
    (key : ℕ × ℕ) :
    (queue.drop id entry.subscriptionId key).Filed where
  mem_ids owner other := by
    rw [drop_entries, RetransmissionQueue.drop, removeSubscriptionId_ids]
    simp only [lookup_erase_iff]
    show other ∈ (if owner = entry.subscriptionId then (queue.ids entry.subscriptionId).erase id
      else queue.ids owner) ↔ _
    have others := filed.mem_ids owner other
    split_ifs with same
    · subst same
      rw [Finset.mem_erase, others]
      constructor
      · rintro ⟨differ, entry', found, owns⟩
        exact ⟨entry', ⟨differ, found⟩, owns⟩
      · rintro ⟨entry', ⟨differ, found⟩, owns⟩
        exact ⟨differ, entry', found, owns⟩
    · rw [others]
      constructor
      · rintro ⟨entry', found, owns⟩
        refine ⟨entry', ⟨?_, found⟩, owns⟩
        rintro rfl
        rw [there, some.injEq] at found
        rw [← found, ofSubscription, decide_eq_true_iff] at owns
        exact same owns.symm
      · rintro ⟨entry', ⟨-, found⟩, owns⟩
        exact ⟨entry', found, owns⟩
  nonempty := by
    refine removeSubscriptionId_nonempty _ ?_ _ _
    exact filed.nonempty
  entries_below other value found := by
    rw [drop_entries, lookup_erase_iff] at found
    rw [RetransmissionQueue.drop, removeSubscriptionId_nextId]
    exact filed.entries_below other value found.2
  index_below other number found := by
    rw [drop_index, lookup_erase_iff] at found
    rw [RetransmissionQueue.drop, removeSubscriptionId_nextId]
    exact filed.index_below other number found.2
  index_owner other number value indexed found := by
    rw [drop_index, lookup_erase_iff] at indexed
    rw [drop_entries, lookup_erase_iff] at found
    exact filed.index_owner other number value indexed.2 found.2

theorem Agrees.drop (agrees : queue.Agrees) (there : queue.entries.lookup id = some entry) :
    (queue.drop id entry.subscriptionId entry.key).Agrees where
  toFiled := agrees.toFiled.drop there entry.key
  index_iff key number := by
    rw [drop_index, drop_entries, lookup_erase_iff, agrees.index_iff]
    simp only [lookup_erase_iff]
    constructor
    · rintro ⟨differ, value, found, same⟩
      refine ⟨value, ⟨?_, found⟩, same⟩
      rintro rfl
      rw [there, some.injEq] at found
      exact differ (by rw [← same, ← found])
    · rintro ⟨value, ⟨differ, found⟩, same⟩
      refine ⟨?_, value, found, same⟩
      rintro rfl
      -- The pair of the entry leads to its own number only.
      have first := (agrees.index_iff entry.key id).mpr ⟨entry, there, rfl⟩
      have second := (agrees.index_iff entry.key number).mpr ⟨value, found, same⟩
      rw [first, some.injEq] at second
      exact differ second.symm

/-! ### Making room -/

/-- The first step of `enqueue`: a full queue gives up its oldest entry. -/
def evict (queue : RetransmissionQueue E) (maxLen : ℕ) : RetransmissionQueue E :=
  if maxLen ≤ queue.len then
    match queue.popFirst with
    | (some (id, entry), queue) => queue.removeIndexes id entry
    | (none, queue) => queue
  else queue

theorem enqueue_eq (queue : RetransmissionQueue E) (maxLen subscriptionId : ℕ)
    (message : NotificationMessage E) :
    queue.enqueue maxLen subscriptionId message =
      if message.notificationData.isNone then queue
      else (queue.evict maxLen).pushExisting ⟨message, subscriptionId⟩ := rfl

/-- **The entry a full queue gives up** is the first of its list. -/
theorem evict_spec (queue : RetransmissionQueue E) (maxLen : ℕ) :
    (queue.evict maxLen = queue ∧ RetransmissionLog.evict queue.log maxLen = queue.log) ∨
      ∃ id entry, queue.entries.lookup id = some entry ∧
        queue.evict maxLen = queue.drop id entry.subscriptionId entry.key ∧
        RetransmissionLog.evict queue.log maxLen = inOrder (queue.entries.erase id) := by
  have length : queue.log.length = queue.len := length_inOrder
  unfold evict RetransmissionLog.evict
  rw [length]
  by_cases full : maxLen ≤ queue.len
  · rw [if_pos full, if_pos full]
    unfold popFirst
    cases walk : ascending queue.entries.keys.toFinset with
    | nil =>
      refine inl ⟨rfl, ?_⟩
      have empty : queue.log = [] := by
        rw [log, inOrder, readUpward, walk, List.filterMap_nil]
      rw [empty]
      rfl
    | cons id rest =>
      obtain ⟨entry, there, list⟩ := inOrder_pop walk
      refine inr ⟨id, entry, there, ?_, ?_⟩
      · simp only [there, map_some]
        rfl
      · rw [log, list, List.tail_cons]
  · rw [if_neg full, if_neg full]
    exact inl ⟨rfl, rfl⟩

theorem Filed.evict (filed : queue.Filed) (maxLen : ℕ) : (queue.evict maxLen).Filed := by
  obtain ⟨same, -⟩ | ⟨id, entry, there, dropped, -⟩ := evict_spec queue maxLen
  · rwa [same]
  · rw [dropped]
    exact filed.drop there _

theorem Agrees.evict (agrees : queue.Agrees) (maxLen : ℕ) : (queue.evict maxLen).Agrees := by
  obtain ⟨same, -⟩ | ⟨id, entry, there, dropped, -⟩ := evict_spec queue maxLen
  · rwa [same]
  · rw [dropped]
    exact agrees.drop there

theorem log_evict (queue : RetransmissionQueue E) (maxLen : ℕ) :
    (queue.evict maxLen).log = RetransmissionLog.evict queue.log maxLen := by
  obtain ⟨same, list⟩ | ⟨id, entry, -, dropped, list⟩ := evict_spec queue maxLen
  · rw [same, list]
  · rw [dropped, list, log, drop_entries]

/-! ### Pushing -/

theorem pushExisting_ids (queue : RetransmissionQueue E) (entry : NonAckedPublish E) (owner : ℕ) :
    (queue.pushExisting entry).ids owner =
      if owner = entry.subscriptionId then insert queue.nextId (queue.ids owner)
      else queue.ids owner := by
  simp only [pushExisting, ids]
  split_ifs with same
  · rw [same, lookup_insert]
    rfl
  · rw [lookup_insert_ne same]

theorem lookup_insert_iff [DecidableEq α] {new : α} {pushed value : β} :
    (entries.insert new pushed).lookup key = some value ↔
      key = new ∧ pushed = value ∨ key ≠ new ∧ entries.lookup key = some value := by
  by_cases same : key = new
  · rw [same, lookup_insert, some.injEq]
    simp
  · rw [lookup_insert_ne same]
    simp [same]

theorem Filed.pushExisting (filed : queue.Filed) (entry : NonAckedPublish E) :
    (queue.pushExisting entry).Filed where
  mem_ids owner id := by
    have others := filed.mem_ids owner id
    rw [pushExisting_ids]
    show _ ↔ ∃ value, (queue.entries.insert queue.nextId entry).lookup id = some value ∧ _
    simp only [lookup_insert_iff]
    have old : ∀ value, queue.entries.lookup id = some value → id ≠ queue.nextId :=
      fun value found => ne_of_lt (filed.entries_below id value found)
    by_cases same : owner = entry.subscriptionId
    · rw [if_pos same, Finset.mem_insert, others]
      constructor
      · rintro (rfl | ⟨value, found, owns⟩)
        · exact ⟨entry, inl ⟨rfl, rfl⟩, by simpa [ofSubscription] using same.symm⟩
        · exact ⟨value, inr ⟨old value found, found⟩, owns⟩
      · rintro ⟨value, ⟨new, -⟩ | ⟨-, found⟩, owns⟩
        · exact inl new
        · exact inr ⟨value, found, owns⟩
    · rw [if_neg same, others]
      constructor
      · rintro ⟨value, found, owns⟩
        exact ⟨value, inr ⟨old value found, found⟩, owns⟩
      · rintro ⟨value, ⟨-, rfl⟩ | ⟨-, found⟩, owns⟩
        · rw [ofSubscription, decide_eq_true_iff] at owns
          exact absurd owns.symm same
        · exact ⟨value, found, owns⟩
  nonempty owner set found := by
    obtain ⟨-, rfl⟩ | ⟨-, before⟩ := lookup_insert_iff.mp found
    · exact Finset.insert_nonempty _ _
    · exact filed.nonempty owner set before
  entries_below id value found := by
    show id < queue.nextId + 1
    obtain ⟨new, -⟩ | ⟨-, before⟩ := lookup_insert_iff.mp found
    · omega
    · exact Nat.lt_succ_of_lt (filed.entries_below id value before)
  index_below key id found := by
    show id < queue.nextId + 1
    obtain ⟨-, new⟩ | ⟨-, before⟩ := lookup_insert_iff.mp found
    · omega
    · exact Nat.lt_succ_of_lt (filed.index_below key id before)
  index_owner key id value indexed found := by
    obtain ⟨rfl, rfl⟩ | ⟨-, indexed⟩ := lookup_insert_iff.mp indexed
    · obtain ⟨-, rfl⟩ | ⟨differ, -⟩ := lookup_insert_iff.mp found
      · rfl
      · exact absurd rfl differ
    · obtain ⟨new, -⟩ | ⟨-, found⟩ := lookup_insert_iff.mp found
      · exact absurd new (ne_of_lt (filed.index_below key id indexed))
      · exact filed.index_owner key id value indexed found

theorem Agrees.pushExisting (agrees : queue.Agrees) (entry : NonAckedPublish E)
    (fresh : ∀ old ∈ queue.log, old.key ≠ entry.key) : (queue.pushExisting entry).Agrees where
  toFiled := agrees.toFiled.pushExisting entry
  index_iff key id := by
    have fresh' : ∀ other old, queue.entries.lookup other = some old → old.key ≠ entry.key :=
      fun other old found => fresh old (mem_inOrder.mpr ⟨other, found⟩)
    show (queue.index.insert entry.key queue.nextId).lookup key = some id ↔
      ∃ value, (queue.entries.insert queue.nextId entry).lookup id = some value ∧ value.key = key
    simp only [lookup_insert_iff, agrees.index_iff]
    constructor
    · rintro (⟨rfl, rfl⟩ | ⟨differ, old, found, same⟩)
      · exact ⟨entry, inl ⟨rfl, rfl⟩, rfl⟩
      · exact ⟨old, inr ⟨ne_of_lt (agrees.entries_below id old found), found⟩, same⟩
    · rintro ⟨value, ⟨rfl, rfl⟩ | ⟨differ, found⟩, same⟩
      · exact inl ⟨same.symm, rfl⟩
      · exact inr ⟨same ▸ fresh' id value found, value, found, same⟩

theorem Filed.log_pushExisting (filed : queue.Filed) (entry : NonAckedPublish E) :
    (queue.pushExisting entry).log = RetransmissionLog.pushExisting queue.log entry :=
  inOrder_insert entry filed.entries_below

/-! ### Acknowledging -/

theorem erase_of_absent [DecidableEq α] (absent : entries.lookup key = none) :
    entries.erase key = entries :=
  AList.ext (List.kerase_of_notMem_keys (lookup_eq_none.mp absent))

theorem ack_spec (queue : RetransmissionQueue E) (subscriptionId sequenceNumber : ℕ) :
    (∃ id entry, queue.index.lookup (subscriptionId, sequenceNumber) = some id ∧
        queue.entries.lookup id = some entry ∧
        queue.ack subscriptionId sequenceNumber =
          (some entry, queue.drop id subscriptionId (subscriptionId, sequenceNumber))) ∨
      (∀ id, queue.index.lookup (subscriptionId, sequenceNumber) = some id →
          queue.entries.lookup id = none) ∧
        queue.ack subscriptionId sequenceNumber =
          (none, { queue with index := queue.index.erase (subscriptionId, sequenceNumber) }) := by
  unfold ack
  cases indexed : queue.index.lookup (subscriptionId, sequenceNumber) with
  | none =>
    refine inr ⟨nofun, ?_⟩
    rw [erase_of_absent indexed]
  | some id =>
    dsimp only
    cases there : queue.entries.lookup id with
    | none => exact inr ⟨fun other same => by rw [← some.inj same, there], rfl⟩
    | some entry => exact inl ⟨id, entry, rfl, there, rfl⟩

theorem Filed.ack (filed : queue.Filed) (subscriptionId sequenceNumber : ℕ) :
    (queue.ack subscriptionId sequenceNumber).2.Filed := by
  obtain ⟨id, entry, indexed, there, acked⟩ | ⟨-, acked⟩ :=
    ack_spec queue subscriptionId sequenceNumber
  · rw [acked]
    have owner := filed.index_owner _ id entry indexed there
    have dropped := filed.drop there (subscriptionId, sequenceNumber)
    rwa [owner] at dropped
  · rw [acked]
    exact
      { mem_ids := filed.mem_ids
        nonempty := filed.nonempty
        entries_below := filed.entries_below
        index_below := fun key id found => filed.index_below key id (lookup_erase_iff.mp found).2
        index_owner := fun key id entry found =>
          filed.index_owner key id entry (lookup_erase_iff.mp found).2 }

theorem Agrees.find_eq (agrees : queue.Agrees) (subscriptionId sequenceNumber : ℕ) :
    queue.log.find? (·.hasKey subscriptionId sequenceNumber) =
      (queue.index.lookup (subscriptionId, sequenceNumber)).bind fun id =>
        queue.entries.lookup id := by
  rw [← List.head?_filter]
  cases indexed : queue.index.lookup (subscriptionId, sequenceNumber) with
  | none =>
    have nothing : queue.log.filter (·.hasKey subscriptionId sequenceNumber) = [] := by
      rw [List.filter_eq_nil_iff]
      intro entry there keyed
      obtain ⟨id, found⟩ := mem_inOrder.mp there
      have key := of_decide_eq_true keyed
      rw [(agrees.index_iff _ id).mpr ⟨entry, found, key⟩] at indexed
      cases indexed
    rw [nothing]
    rfl
  | some id =>
    obtain ⟨entry, there, key⟩ := (agrees.index_iff _ id).mp indexed
    have only : readUpward queue.entries {id} =
        queue.log.filter (·.hasKey subscriptionId sequenceNumber) := by
      refine readUpward_eq_filter fun other => ?_
      rw [Finset.mem_singleton]
      constructor
      · rintro rfl
        exact ⟨entry, there, decide_eq_true key⟩
      · rintro ⟨value, found, keyed⟩
        have same := (agrees.index_iff _ other).mpr ⟨value, found, of_decide_eq_true keyed⟩
        rw [indexed, some.injEq] at same
        exact same.symm
    rw [← only, readUpward_singleton there, List.head?_cons, bind_some, there]

theorem Agrees.log_drop (agrees : queue.Agrees) {subscriptionId sequenceNumber : ℕ}
    (there : queue.entries.lookup id = some entry)
    (key : entry.key = (subscriptionId, sequenceNumber)) :
    inOrder (queue.entries.erase id) =
      queue.log.filter fun old => !old.hasKey subscriptionId sequenceNumber := by
  refine inOrder_of_lookup fun other value => ?_
  rw [lookup_erase_iff, Bool.not_eq_true', and_comm]
  refine and_congr_right fun found => ?_
  rw [hasKey, decide_eq_false_iff_not, not_iff_not]
  constructor
  · rintro rfl
    rw [there, some.injEq] at found
    rw [← found, key]
  · intro same
    have first := (agrees.index_iff _ id).mpr ⟨entry, there, key⟩
    rw [(agrees.index_iff _ other).mpr ⟨value, found, same⟩, some.injEq] at first
    exact first

theorem Agrees.ack (agrees : queue.Agrees) (subscriptionId sequenceNumber : ℕ) :
    (queue.ack subscriptionId sequenceNumber).1 =
        (RetransmissionLog.ack queue.log subscriptionId sequenceNumber).1 ∧
      (queue.ack subscriptionId sequenceNumber).2.Agrees ∧
        (queue.ack subscriptionId sequenceNumber).2.log =
          (RetransmissionLog.ack queue.log subscriptionId sequenceNumber).2 := by
  have find := agrees.find_eq subscriptionId sequenceNumber
  obtain ⟨id, entry, indexed, there, acked⟩ | ⟨missing, acked⟩ :=
    ack_spec queue subscriptionId sequenceNumber
  · obtain ⟨value, found, key⟩ := (agrees.index_iff _ id).mp indexed
    rw [there, some.injEq] at found
    subst found
    have owner : entry.subscriptionId = subscriptionId := congrArg Prod.fst key
    rw [acked]
    refine ⟨?_, ?_, ?_⟩
    · rw [RetransmissionLog.ack, find, indexed, bind_some, there]
    · have dropped := agrees.drop there
      rwa [key, owner] at dropped
    · rw [log, drop_entries, RetransmissionLog.ack]
      exact agrees.log_drop there key
  · have absent : queue.index.lookup (subscriptionId, sequenceNumber) = none := by
      cases indexed : queue.index.lookup (subscriptionId, sequenceNumber) with
      | none => rfl
      | some id =>
        obtain ⟨entry, there, -⟩ := (agrees.index_iff _ id).mp indexed
        rw [missing id indexed] at there
        cases there
    have unchanged : queue.index.erase (subscriptionId, sequenceNumber) = queue.index :=
      erase_of_absent absent
    rw [absent, bind_none] at find
    rw [acked, unchanged]
    refine ⟨find.symm, agrees, ?_⟩
    refine (List.filter_eq_self.mpr fun entry there => ?_).symm
    rw [Bool.not_eq_true']
    exact Bool.eq_false_of_not_eq_true (List.find?_eq_none.mp find entry there)

/-! ### Removing a subscription -/

section

variable (ids : List ℕ) (queue : RetransmissionQueue E)

theorem removeIds_bySubscription :
    (queue.removeIds ids).2.bySubscription = queue.bySubscription := by
  induction ids generalizing queue with
  | nil => rfl
  | cons id rest ih =>
    unfold removeIds
    split
    · exact ih queue
    · rw [ih]

theorem removeIds_nextId : (queue.removeIds ids).2.nextId = queue.nextId := by
  induction ids generalizing queue with
  | nil => rfl
  | cons id rest ih =>
    unfold removeIds
    split
    · exact ih queue
    · rw [ih]

theorem removeIds_lookup (other : ℕ) (value : NonAckedPublish E) :
    (queue.removeIds ids).2.entries.lookup other = some value ↔
      queue.entries.lookup other = some value ∧ other ∉ ids := by
  induction ids generalizing queue with
  | nil => exact ⟨fun found => ⟨found, List.not_mem_nil⟩, fun both => both.1⟩
  | cons id rest ih =>
    unfold removeIds
    split
    · rename_i gone
      rw [ih, List.mem_cons]
      refine and_congr_right fun found => ?_
      have differ : other ≠ id := by
        rintro rfl
        rw [gone] at found
        cases found
      simp [differ]
    · rw [ih, lookup_erase_iff, List.mem_cons]
      tauto

end

theorem removeIds_removed {ids : List ℕ} (nodup : ids.Nodup) (queue : RetransmissionQueue E) :
    (queue.removeIds ids).1 = ids.filterMap fun id => queue.entries.lookup id := by
  induction ids generalizing queue with
  | nil => rfl
  | cons id rest ih =>
    obtain ⟨once, nodup⟩ := List.nodup_cons.mp nodup
    unfold removeIds
    split
    · rename_i gone
      rw [ih nodup, List.filterMap_cons, gone]
    · rename_i entry there
      simp only [List.filterMap_cons, there, ih nodup]
      refine congrArg (entry :: ·) (List.filterMap_congr fun other later => ?_)
      exact lookup_erase_ne (ne_of_mem_of_not_mem later once)

theorem removeIds_index (ids : List ℕ) (queue : RetransmissionQueue E) (key : ℕ × ℕ) (number : ℕ) :
    (queue.removeIds ids).2.index.lookup key = some number ↔
      queue.index.lookup key = some number ∧
        ∀ id ∈ ids, ∀ entry, queue.entries.lookup id = some entry → entry.key ≠ key := by
  induction ids generalizing queue with
  | nil => exact ⟨fun found => ⟨found, by simp⟩, fun both => both.1⟩
  | cons id rest ih =>
    unfold removeIds
    split
    · rename_i gone
      rw [ih]
      refine and_congr_right fun _ => ?_
      simp [gone]
    · rename_i entry there
      rw [ih]
      simp only [lookup_erase_iff]
      constructor
      · rintro ⟨⟨differ, found⟩, later⟩
        refine ⟨found, fun other listed value found' => ?_⟩
        by_cases same : other = id
        · rw [same, there, some.injEq] at found'
          exact found' ▸ Ne.symm differ
        · obtain first | tail := List.mem_cons.mp listed
          · exact absurd first same
          · exact later other tail value ⟨same, found'⟩
      · rintro ⟨found, all⟩
        refine ⟨⟨Ne.symm (all id List.mem_cons_self entry there), found⟩, ?_⟩
        exact fun other tail value both => all other (List.mem_cons_of_mem id tail) value both.2

/-- **Removing a subscription:** its numbers, with their entries and pairs. -/
theorem removeSubscription_eq (queue : RetransmissionQueue E) (subscriptionId : ℕ) :
    queue.removeSubscription subscriptionId =
      removeIds { queue with bySubscription := queue.bySubscription.erase subscriptionId }
        (ascending (queue.ids subscriptionId)) := by
  cases filed : queue.bySubscription.lookup subscriptionId with
  | none => simp only [removeSubscription, filed, erase_of_absent filed, ids]; rfl
  | some set => simp [removeSubscription, filed, ids]

theorem Filed.removeSubscription_lookup (filed : queue.Filed) (subscriptionId id : ℕ)
    (entry : NonAckedPublish E) :
    (queue.removeSubscription subscriptionId).2.entries.lookup id = some entry ↔
      queue.entries.lookup id = some entry ∧
        (!entry.ofSubscription subscriptionId) = true := by
  rw [removeSubscription_eq, removeIds_lookup, mem_ascending]
  refine and_congr_right fun found => ?_
  rw [filed.mem_ids, found, Bool.not_eq_true']
  simp

theorem removeSubscription_ids (queue : RetransmissionQueue E) (subscriptionId owner : ℕ) :
    (queue.removeSubscription subscriptionId).2.ids owner =
      if owner = subscriptionId then ∅ else queue.ids owner := by
  rw [removeSubscription_eq, ids, removeIds_bySubscription]
  split_ifs with same
  · rw [same, lookup_erase]
    rfl
  · rw [lookup_erase_ne same]
    rfl

theorem Filed.removeSubscription (filed : queue.Filed) (subscriptionId : ℕ) :
    (queue.removeSubscription subscriptionId).2.Filed where
  mem_ids owner id := by
    have others := filed.mem_ids owner id
    rw [removeSubscription_ids]
    simp only [filed.removeSubscription_lookup]
    split_ifs with same
    · subst same
      simp
    · rw [others]
      refine exists_congr fun entry => ⟨?_, fun both => ⟨both.1.1, both.2⟩⟩
      rintro ⟨found, owns⟩
      refine ⟨⟨found, ?_⟩, owns⟩
      simp only [ofSubscription, decide_eq_true_eq] at owns ⊢
      simp [owns, same]
  nonempty owner set found := by
    rw [removeSubscription_eq, removeIds_bySubscription] at found
    exact filed.nonempty owner set (lookup_erase_iff.mp found).2
  entries_below id entry found := by
    rw [removeSubscription_eq, removeIds_nextId]
    exact filed.entries_below id entry ((filed.removeSubscription_lookup _ _ _).mp found).1
  index_below key id found := by
    rw [removeSubscription_eq, removeIds_index] at found
    rw [removeSubscription_eq, removeIds_nextId]
    exact filed.index_below key id found.1
  index_owner key id entry indexed found := by
    rw [removeSubscription_eq, removeIds_index] at indexed
    exact filed.index_owner key id entry indexed.1
      ((filed.removeSubscription_lookup _ _ _).mp found).1

theorem Filed.clone_eq (filed : queue.Filed) (subscriptionId : ℕ) :
    readUpward queue.entries (queue.ids subscriptionId) =
      RetransmissionLog.cloneSubscription queue.log subscriptionId :=
  readUpward_eq_filter fun id => filed.mem_ids subscriptionId id

theorem Agrees.removeSubscription (agrees : queue.Agrees) (subscriptionId : ℕ) :
    (queue.removeSubscription subscriptionId).1 =
        (RetransmissionLog.removeSubscription queue.log subscriptionId).1 ∧
      (queue.removeSubscription subscriptionId).2.Agrees ∧
        (queue.removeSubscription subscriptionId).2.log =
          (RetransmissionLog.removeSubscription queue.log subscriptionId).2 := by
  refine ⟨?_, ⟨agrees.toFiled.removeSubscription subscriptionId, fun key id => ?_⟩, ?_⟩
  · rw [RetransmissionLog.removeSubscription, ← agrees.clone_eq, removeSubscription_eq,
      removeIds_removed (ascending_nodup _)]
    rfl
  · simp only [agrees.removeSubscription_lookup]
    rw [removeSubscription_eq, removeIds_index, agrees.index_iff]
    constructor
    · rintro ⟨⟨entry, found, same⟩, others⟩
      refine ⟨entry, ⟨found, ?_⟩, same⟩
      rw [Bool.not_eq_true']
      refine Bool.eq_false_of_not_eq_true fun owns => ?_
      have listed := (mem_ascending _ id).mpr
        ((agrees.mem_ids subscriptionId id).mpr ⟨entry, found, owns⟩)
      exact others id listed entry found same
    · rintro ⟨entry, ⟨found, kept⟩, same⟩
      refine ⟨⟨entry, found, same⟩, fun other listed value found' same' => ?_⟩
      obtain ⟨owned, there, owns⟩ :=
        (agrees.mem_ids subscriptionId other).mp ((mem_ascending _ other).mp listed)
      have first := (agrees.index_iff key id).mpr ⟨entry, found, same⟩
      rw [(agrees.index_iff key other).mpr ⟨value, found', same'⟩, some.injEq] at first
      subst first
      have one : entry = owned := by
        rw [found, some.injEq] at there
        exact there
      rw [one, owns] at kept
      cases kept
  · exact inOrder_of_lookup fun id entry =>
      agrees.toFiled.removeSubscription_lookup subscriptionId id entry

section

variable (filed : queue.Filed) (subscriptionId : ℕ)
include filed subscriptionId

theorem Filed.removeSubscription_not_holds :
    ¬ (queue.removeSubscription subscriptionId).2.Holds subscriptionId := by
  rw [(filed.removeSubscription subscriptionId).holds_iff, removeSubscription_ids, if_pos rfl]
  exact Finset.not_nonempty_empty

/-! ### Reading -/

theorem Filed.cloneSubscription :
    queue.cloneSubscription subscriptionId =
      RetransmissionLog.cloneSubscription queue.log subscriptionId := by
  rw [← filed.clone_eq, RetransmissionQueue.cloneSubscription, ids]
  cases queue.bySubscription.lookup subscriptionId <;> rfl

theorem Filed.availableSequenceNumbers :
    queue.availableSequenceNumbers subscriptionId =
      RetransmissionLog.availableSequenceNumbers queue.log subscriptionId := by
  have clone := filed.cloneSubscription subscriptionId
  rw [RetransmissionLog.availableSequenceNumbers, ← clone,
    RetransmissionQueue.availableSequenceNumbers, RetransmissionQueue.cloneSubscription]
  cases filedUnder : queue.bySubscription.lookup subscriptionId with
  | none => exact ite_self _
  | some set =>
    dsimp only
    by_cases empty : queue.isEmpty = true
    · -- Where there are no entries, there is nothing to read.
      have nothing : (ascending set).filterMap (fun id => queue.entries.lookup id) = [] := by
        rw [List.filterMap_eq_nil_iff]
        intro id _
        have absent : id ∉ queue.entries := by
          rw [mem_keys, List.isEmpty_iff.mp empty]
          exact List.not_mem_nil
        exact lookup_eq_none.mpr absent
      rw [if_pos empty, nothing]
    · rw [if_neg empty]
      cases (ascending set).filterMap fun id => queue.entries.lookup id <;> rfl

end

theorem Agrees.getMessage (agrees : queue.Agrees) (subscriptionId sequenceNumber : ℕ) :
    queue.getMessage subscriptionId sequenceNumber =
      RetransmissionLog.getMessage queue.log subscriptionId sequenceNumber := by
  rw [RetransmissionLog.getMessage, agrees.find_eq, RetransmissionQueue.getMessage]
  cases queue.index.lookup (subscriptionId, sequenceNumber) <;> rfl

end RetransmissionQueue

/-! ### The refinement -/

/-- An operation on the queue. -/
inductive RetransmissionOp (E : Externals) where
  | enqueue (maxLen subscriptionId : ℕ) (message : NotificationMessage E)
  | pushExisting (entry : NonAckedPublish E)
  | ack (subscriptionId sequenceNumber : ℕ)
  | removeSubscription (subscriptionId : ℕ)
  | cloneSubscription (subscriptionId : ℕ)
  | availableSequenceNumbers (subscriptionId : ℕ)
  | getMessage (subscriptionId sequenceNumber : ℕ)

/-- What an operation returns. -/
inductive RetransmissionAnswer (E : Externals) where
  | nothing
  | acked (entry : Option (NonAckedPublish E))
  | entries (entries : List (NonAckedPublish E))
  | sequenceNumbers (numbers : Option (List ℕ))
  | message (message : Option (NotificationMessage E))

def retransmissionQueue :
    Component (RetransmissionQueue E) (RetransmissionOp E) (RetransmissionAnswer E) where
  step queue
    | .enqueue maxLen subscriptionId message =>
      (.nothing, queue.enqueue maxLen subscriptionId message)
    | .pushExisting entry => (.nothing, queue.pushExisting entry)
    | .ack subscriptionId sequenceNumber =>
      let (entry, queue) := queue.ack subscriptionId sequenceNumber
      (.acked entry, queue)
    | .removeSubscription subscriptionId =>
      let (removed, queue) := queue.removeSubscription subscriptionId
      (.entries removed, queue)
    | .cloneSubscription subscriptionId =>
      (.entries (queue.cloneSubscription subscriptionId), queue)
    | .availableSequenceNumbers subscriptionId =>
      (.sequenceNumbers (queue.availableSequenceNumbers subscriptionId), queue)
    | .getMessage subscriptionId sequenceNumber =>
      (.message (queue.getMessage subscriptionId sequenceNumber), queue)

def retransmissionLog :
    Component (RetransmissionLog E) (RetransmissionOp E) (RetransmissionAnswer E) where
  step log
    | .enqueue maxLen subscriptionId message =>
      (.nothing, RetransmissionLog.enqueue log maxLen subscriptionId message)
    | .pushExisting entry => (.nothing, RetransmissionLog.pushExisting log entry)
    | .ack subscriptionId sequenceNumber =>
      let (entry, log) := RetransmissionLog.ack log subscriptionId sequenceNumber
      (.acked entry, log)
    | .removeSubscription subscriptionId =>
      let (removed, log) := RetransmissionLog.removeSubscription log subscriptionId
      (.entries removed, log)
    | .cloneSubscription subscriptionId =>
      (.entries (RetransmissionLog.cloneSubscription log subscriptionId), log)
    | .availableSequenceNumbers subscriptionId =>
      (.sequenceNumbers (RetransmissionLog.availableSequenceNumbers log subscriptionId), log)
    | .getMessage subscriptionId sequenceNumber =>
      (.message (RetransmissionLog.getMessage log subscriptionId sequenceNumber), log)

/-- **No pair is pushed while it is present.** -/
def PushesAbsent (log : RetransmissionLog E) : RetransmissionOp E → Prop
  | .enqueue maxLen subscriptionId message =>
    message.CarriesData → ∀ entry ∈ RetransmissionLog.evict log maxLen,
      entry.key ≠ (subscriptionId, message.sequenceNumber)
  | .pushExisting entry => ∀ old ∈ log, old.key ≠ entry.key
  | _ => True

namespace RetransmissionQueue

/-- The queue stands for the list, and its maps agree. -/
def StandsFor (queue : RetransmissionQueue E) (log : RetransmissionLog E) : Prop :=
  queue.Agrees ∧ queue.log = log

theorem Agrees.enqueue {queue : RetransmissionQueue E} (agrees : queue.Agrees)
    {maxLen subscriptionId : ℕ} {message : NotificationMessage E}
    (absent : PushesAbsent queue.log (.enqueue maxLen subscriptionId message)) :
    (queue.enqueue maxLen subscriptionId message).StandsFor
      (RetransmissionLog.enqueue queue.log maxLen subscriptionId message) := by
  rw [enqueue_eq, RetransmissionLog.enqueue]
  split_ifs with keepAlive
  · exact ⟨agrees, rfl⟩
  · have carries : message.CarriesData := fun none => keepAlive (by rw [none]; rfl)
    have room := agrees.evict maxLen
    refine ⟨room.pushExisting _ ?_, ?_⟩
    · rw [log_evict]
      exact absent carries
    · rw [room.log_pushExisting, log_evict]

theorem simulates_log :
    Component.Simulation (retransmissionQueue (E := E)) retransmissionLog PushesAbsent
      StandsFor where
  answers queue log op stands absent := by
    obtain ⟨agrees, rfl⟩ := stands
    cases op with
    | enqueue | pushExisting => rfl
    | ack subscriptionId sequenceNumber =>
      exact congrArg RetransmissionAnswer.acked (agrees.ack subscriptionId sequenceNumber).1
    | removeSubscription subscriptionId =>
      exact congrArg RetransmissionAnswer.entries (agrees.removeSubscription subscriptionId).1
    | cloneSubscription subscriptionId =>
      exact congrArg RetransmissionAnswer.entries (agrees.cloneSubscription subscriptionId)
    | availableSequenceNumbers subscriptionId =>
      exact congrArg RetransmissionAnswer.sequenceNumbers
        (agrees.availableSequenceNumbers subscriptionId)
    | getMessage subscriptionId sequenceNumber =>
      exact congrArg RetransmissionAnswer.message (agrees.getMessage subscriptionId sequenceNumber)
  keeps queue log op stands absent := by
    obtain ⟨agrees, rfl⟩ := stands
    cases op with
    | enqueue maxLen subscriptionId message => exact agrees.enqueue absent
    | pushExisting entry =>
      exact ⟨agrees.pushExisting entry absent, agrees.log_pushExisting entry⟩
    | ack subscriptionId sequenceNumber => exact (agrees.ack subscriptionId sequenceNumber).2
    | removeSubscription subscriptionId => exact (agrees.removeSubscription subscriptionId).2
    | cloneSubscription | availableSequenceNumbers | getMessage => exact ⟨agrees, rfl⟩

/-- **The queue refines the list.** -/
theorem queue_refines_log (ops : List (RetransmissionOp E))
    (absent : retransmissionLog.Allowed PushesAbsent [] ops) :
    (retransmissionQueue.run new ops).1 = (retransmissionLog.run [] ops).1 ∧
      (retransmissionQueue.run new ops).2.Agrees ∧
      (retransmissionQueue.run new ops).2.log = (retransmissionLog.run [] ops).2 :=
  simulates_log.run ⟨new_agrees, inOrder_empty⟩ absent

/-- Three messages for a queue of two: the third pushes out the first, of another subscription with
a higher id. -/
def oldestPushedOut : List (RetransmissionOp Externals.integers) :=
  [.enqueue 2 9 (.statusChange 1 0 StatusCode.BadTimeout),
    .enqueue 2 1 (.statusChange 1 0 StatusCode.BadTimeout), .enqueue 2 1 (.keepAlive 2 0),
    .enqueue 2 1 (.statusChange 2 0 StatusCode.BadTimeout), .getMessage 9 1,
    .availableSequenceNumbers 1]

theorem queue_refines_log_pushedOut :
    (retransmissionQueue.run new oldestPushedOut).1 =
        [.nothing, .nothing, .nothing, .nothing, .message none, .sequenceNumbers (some [1, 2])] ∧
      (retransmissionQueue.run new oldestPushedOut).2.Agrees := by
  have absent : retransmissionLog.Allowed PushesAbsent [] oldestPushedOut := by
    simp [oldestPushedOut, Component.Allowed, retransmissionLog, PushesAbsent,
      RetransmissionLog.evict, RetransmissionLog.enqueue, RetransmissionLog.pushExisting,
      NotificationMessage.statusChange, NotificationMessage.keepAlive, key]
  have refined := queue_refines_log oldestPushedOut absent
  refine ⟨refined.1.trans ?_, refined.2.1⟩
  rfl

end RetransmissionQueue

end AsyncOpcua.Subscriptions
