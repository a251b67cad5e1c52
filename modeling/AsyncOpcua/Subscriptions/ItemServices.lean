/-
**What the services on monitored items do to what a session watches.**

* `deleteMonitoredItems_retires`, `deleteSubscriptions_retires` — the deleted items are retired.
-/

import AsyncOpcua.Subscriptions.MonitoredItemIndex

namespace AsyncOpcua.Subscriptions

open Types SubscriptionCacheInner AList MonitoredItem MonitoredItemRef Or

variable {E : Externals}

structure Names (s : Subscription E) (subscriptionId : ℕ) (ids : List ℕ)
    (refs : List (MonitoredItemRef E)) : Prop where
  item : ∀ ref ∈ refs, ref.subscriptionId = subscriptionId ∧ ref.monitoredItemId ∈ ids ∧
    ∃ watch, s.watch ref.monitoredItemId = some watch ∧ watch.key = ref.key
  all : ∀ id ∈ ids, ∀ watch, s.watch id = some watch → ∃ ref ∈ refs, ref.monitoredItemId = id

open List

theorem Names.skip {s : Subscription E} {subscriptionId id : ℕ} {rest : List ℕ}
    {refs : List (MonitoredItemRef E)} (names : Names s subscriptionId rest refs)
    (absent : s.watch id = none) : Names s subscriptionId (id :: rest) refs where
  item ref listed := by
    obtain ⟨own, member, named⟩ := names.item ref listed
    exact ⟨own, mem_cons_of_mem id member, named⟩
  all other listed watch there := by
    obtain rfl | later := mem_cons.mp listed
    · rw [absent] at there
      cases there
    · exact names.all other later watch there

theorem goodRefs_cons (status : StatusCode) (ref : Option (MonitoredItemRef E))
    (rest : List (StatusCode × Option (MonitoredItemRef E))) :
    goodRefs ((status, ref) :: rest) =
      (if status.isGood then ref.toList else []) ++ goodRefs rest := by
  unfold goodRefs
  rw [filterMap_cons]
  by_cases good : status.isGood = true
  · simp only [good, if_true]
    cases ref <;> rfl
  · simp [good]

theorem goodRefs_bad (rest : List (StatusCode × Option (MonitoredItemRef E))) :
    goodRefs ((StatusCode.BadMonitoredItemIdInvalid, none) :: rest) = goodRefs rest := by
  rw [goodRefs_cons]
  split_ifs <;> rfl

theorem goodRefs_good (ref : MonitoredItemRef E)
    (rest : List (StatusCode × Option (MonitoredItemRef E))) :
    goodRefs ((StatusCode.Good, some ref) :: rest) = ref :: goodRefs rest := by
  rw [goodRefs_cons, if_pos (by decide)]
  rfl

namespace Subscription

theorem forEach_cons {α β : Type} (serve : α → Subscription E → β × Subscription E) (request : α)
    (rest : List α) (s : Subscription E) : forEach serve (request :: rest) s =
      ((serve request s).1 :: (forEach serve rest (serve request s).2).1,
        (forEach serve rest (serve request s).2).2) := rfl

variable {s : Subscription E}

theorem watch_of_lookup {id : ℕ} {item : MonitoredItem E}
    (found : s.monitoredItems.lookup id = some item) : s.watch id = some item.watch := by
  rw [watch, ItemMap.watch, found]
  rfl

theorem watch_of_absent {id : ℕ} (absent : s.monitoredItems.lookup id = none) :
    s.watch id = none := by
  rw [watch, ItemMap.watch, absent]
  rfl

/-! ### Deleting and changing modes -/

theorem remove_watch (s : Subscription E) (id itemId : ℕ) :
    (s.remove id).watch itemId = if itemId = id then none else s.watch itemId := by
  unfold watch ItemMap.watch remove
  split_ifs with same
  · rw [same, lookup_erase]
    rfl
  · rw [lookup_erase_ne same]

/-- **A service on single items:** an unknown one is refused, a known one is named, and what is
watched of it changes, once. -/
structure OnItems (subscriptionId : ℕ) (change : Watch E → Option (Watch E))
    (serve : ℕ → Subscription E → (StatusCode × Option (MonitoredItemRef E)) × Subscription E) :
    Prop where
  unknown : ∀ {id s}, s.monitoredItems.lookup id = none →
    serve id s = ((StatusCode.BadMonitoredItemIdInvalid, none), s)
  known : ∀ {id s item}, s.monitoredItems.lookup id = some item → ∃ after,
    serve id s = ((StatusCode.Good, some (refOf subscriptionId id item)), after) ∧
      after.id = s.id ∧ after.state = s.state ∧ ∀ itemId, after.watch itemId =
        if itemId = id then (s.watch itemId).bind change else s.watch itemId
  key : ∀ {watch after}, change watch = some after → after.key = watch.key
  again : ∀ watch, (change watch).bind change = change watch

theorem OnItems.spec {subscriptionId : ℕ} {change : Watch E → Option (Watch E)}
    {serve : ℕ → Subscription E → (StatusCode × Option (MonitoredItemRef E)) × Subscription E}
    (serves : OnItems subscriptionId change serve) (ids : List ℕ) (s : Subscription E) :
    (forEach serve ids s).2.id = s.id ∧ (forEach serve ids s).2.state = s.state ∧
      (∀ itemId, (forEach serve ids s).2.watch itemId =
        if itemId ∈ ids then (s.watch itemId).bind change else s.watch itemId) ∧
      Names s subscriptionId ids (goodRefs (forEach serve ids s).1) := by
  induction ids generalizing s with
  | nil => exact ⟨rfl, rfl, fun _ => rfl, fun _ none => absurd none not_mem_nil,
      fun _ none => absurd none not_mem_nil⟩
  | cons id rest ih =>
    rw [forEach_cons]
    cases found : s.monitoredItems.lookup id with
    | none =>
      rw [serves.unknown found]
      obtain ⟨same, state, left, names⟩ := ih s
      have absent := watch_of_absent found
      rw [goodRefs_bad]
      refine ⟨same, state, fun itemId => ?_, names.skip absent⟩
      rw [left itemId]
      by_cases own : itemId = id
      · simp [own, absent]
      · simp [own]
    | some item =>
      obtain ⟨after, step, sameId, sameState, changed⟩ := serves.known found
      rw [step]
      obtain ⟨same, state, left, names⟩ := ih after
      rw [goodRefs_good]
      refine ⟨same.trans sameId, state.trans sameState, fun itemId => ?_, fun ref listed => ?_,
        fun other listed watch there => ?_⟩
      · rw [left itemId, changed itemId]
        by_cases own : itemId = id
        · simp only [own, if_true, mem_cons, true_or, Option.bind_assoc, serves.again, ite_self]
        · simp [own]
      · obtain rfl | later := mem_cons.mp listed
        · exact ⟨rfl, mem_cons_self, item.watch, watch_of_lookup found, rfl⟩
        · obtain ⟨own, member, watch, there, key⟩ := names.item ref later
          rw [changed] at there
          split_ifs at there
          · obtain ⟨before, was, into⟩ := Option.bind_eq_some_iff.mp there
            exact ⟨own, mem_cons_of_mem id member, before, was, (serves.key into).symm.trans key⟩
          · exact ⟨own, mem_cons_of_mem id member, watch, there, key⟩
      · by_cases own : other = id
        · exact ⟨_, mem_cons_self, own.symm⟩
        · have later := (mem_cons.mp listed).resolve_left own
          obtain ⟨ref, listed', named⟩ := names.all other later watch
            (by rw [changed, if_neg own]; exact there)
          exact ⟨ref, mem_cons_of_mem _ listed', named⟩

theorem deleteMonitoredItem_serves (subscriptionId : ℕ) :
    OnItems (E := E) subscriptionId (fun _ => none) (deleteMonitoredItem subscriptionId) where
  unknown found := by
    unfold deleteMonitoredItem
    rw [found]
  known {id s item} found := by
    refine ⟨s.remove id, ?_, rfl, rfl, fun itemId => ?_⟩
    · unfold deleteMonitoredItem
      rw [found]
    · rw [remove_watch, Option.bind_fun_none]
  key impossible := by cases impossible
  again _ := rfl

theorem deleteMonitoredItems_spec (subscriptionId : ℕ) (ids : List ℕ) (s : Subscription E) :
    (forEach (deleteMonitoredItem subscriptionId) ids s).2.id = s.id ∧
      (forEach (deleteMonitoredItem subscriptionId) ids s).2.state = s.state ∧
      (∀ itemId, (forEach (deleteMonitoredItem subscriptionId) ids s).2.watch itemId =
        if itemId ∈ ids then none else s.watch itemId) ∧
      Names s subscriptionId ids
        (goodRefs (forEach (deleteMonitoredItem subscriptionId) ids s).1) := by
  simpa using (deleteMonitoredItem_serves subscriptionId).spec ids s

def inMode (mode : MonitoringMode) (watch : Watch E) : Watch E :=
  { watch with monitoringMode := mode }

theorem setMonitoringModeOf_serves (subscriptionId : ℕ) (mode : MonitoringMode) :
    OnItems (E := E) subscriptionId (fun watch => some (inMode mode watch))
      (setMonitoringModeOf subscriptionId mode) where
  unknown found := by
    unfold setMonitoringModeOf
    rw [found]
  known {id s item} found := by
    refine ⟨{ s with monitoredItems := s.monitoredItems.insert id (item.setMonitoringMode mode) },
      ?_, rfl, rfl, fun itemId => ?_⟩
    · unfold setMonitoringModeOf
      rw [found]
    · by_cases own : itemId = id
      · rw [own, watch_of_lookup found, if_pos rfl, watch, ItemMap.watch, lookup_insert]
        rfl
      · rw [watch, ItemMap.watch, lookup_insert_ne own, if_neg own]
        rfl
  key same := by
    cases same
    rfl
  again _ := rfl

theorem setMonitoringMode_spec (subscriptionId : ℕ) (mode : MonitoringMode) (ids : List ℕ)
    (s : Subscription E) :
    (forEach (setMonitoringModeOf subscriptionId mode) ids s).2.id = s.id ∧
      (forEach (setMonitoringModeOf subscriptionId mode) ids s).2.state = s.state ∧
      (∀ itemId, (forEach (setMonitoringModeOf subscriptionId mode) ids s).2.watch itemId =
        (s.watch itemId).map fun watch => if itemId ∈ ids then inMode mode watch else watch) ∧
      Names s subscriptionId ids
        (goodRefs (forEach (setMonitoringModeOf subscriptionId mode) ids s).1) := by
  obtain ⟨same, state, left, names⟩ := (setMonitoringModeOf_serves subscriptionId mode).spec ids s
  refine ⟨same, state, fun itemId => ?_, names⟩
  rw [left itemId]
  split_ifs
  · exact Option.map_eq_bind.symm
  · exact Option.map_id'.symm

/-! ### Modifying and creating -/

theorem modifyMonitoredItems_spec (subscriptionId : ℕ) (now : ℤ)
    (requests : List (ℕ × MonitoredItem.ModifyRequest E)) (housed : s.Housed subscriptionId) :
    s.StillWatches (forEach (modifyMonitoredItem subscriptionId now) requests s).2 ∧
      ∀ update ∈ (forEach (modifyMonitoredItem subscriptionId now) requests s).1,
        update.statusCode.isGood = true → update.handle.subscriptionId = subscriptionId ∧
          ∃ watch, s.watch update.handle.monitoredItemId = some watch := by
  induction requests generalizing s with
  | nil => exact ⟨⟨rfl, rfl, rfl⟩, fun _ none => absurd none not_mem_nil⟩
  | cons request rest ih =>
    rw [forEach_cons]
    cases found : s.monitoredItems.lookup request.1 with
    | none =>
      have step : modifyMonitoredItem subscriptionId now request s =
          (⟨⟨subscriptionId, request.1⟩, StatusCode.BadMonitoredItemIdInvalid⟩, s) := by
        unfold modifyMonitoredItem
        rw [found]
      rw [step]
      obtain ⟨still, updates⟩ := ih housed
      refine ⟨still, fun update listed good => ?_⟩
      obtain rfl | later := mem_cons.mp listed
      · exact absurd good (show ¬ StatusCode.BadMonitoredItemIdInvalid.isGood = true by decide)
      · exact updates update later good
    | some item =>
      have step : modifyMonitoredItem subscriptionId now request s =
          (⟨⟨subscriptionId, (item.modify request.2 now).2.id⟩, (item.modify request.2 now).1⟩,
            { s with
              monitoredItems := s.monitoredItems.insert request.1
                (item.modify request.2 now).2 }) := by
        unfold modifyMonitoredItem
        rw [found]
      rw [step]
      have same := ItemMap.insert_watch found (item.modify_watch request.2 now)
      have modified : s.StillWatches { s with
          monitoredItems := s.monitoredItems.insert request.1 (item.modify request.2 now).2 } :=
        ⟨rfl, rfl, same⟩
      obtain ⟨still, updates⟩ := ih (housed.still modified)
      refine ⟨⟨still.id, still.state, still.watch.trans same⟩, fun update listed good => ?_⟩
      obtain rfl | later := mem_cons.mp listed
      · refine ⟨rfl, item.watch, ?_⟩
        have own : item.id = request.1 := housed.items _ _ (watch_of_lookup found)
        have kept : (item.modify request.2 now).2.id = item.id :=
          congrArg Watch.id (item.modify_watch request.2 now)
        rw [kept, own]
        exact watch_of_lookup found
      · obtain ⟨own, watch, there⟩ := updates update later good
        exact ⟨own, watch, by rw [← modified.watch]; exact there⟩

def requestWatch (request : MonitoredItem.CreateMonitoredItem E) : Watch E :=
  ⟨request.id, request.itemToMonitor, request.monitoringMode⟩

theorem createMonitoredItem_cases (cap : ℕ) (now : ℤ)
    (request : MonitoredItem.CreateMonitoredItem E) (s : Subscription E) :
    ∃ result : MonitoredItemCreateResult,
      createMonitoredItem cap now request s = (result, s) ∧ result.statusCode.isGood = false ∨
      createMonitoredItem cap now request s =
          (result, s.insert request.id (MonitoredItem.new request now)) ∧
        result.statusCode.isGood = true := by
  have own : (MonitoredItem.new request now).id = request.id :=
    congrArg Watch.id (new_watch request now)
  unfold createMonitoredItem
  split_ifs with good
  · exact ⟨_, inl ⟨rfl, show StatusCode.BadTooManyMonitoredItems.isGood = false by decide⟩⟩
  · dsimp only
    rw [own]
    exact ⟨_, inr ⟨rfl, show StatusCode.Good.isGood = true by decide⟩⟩
  · exact ⟨_, inl ⟨rfl, by simpa using good⟩⟩

theorem insert_new_watch (now : ℤ) (request : MonitoredItem.CreateMonitoredItem E)
    (s : Subscription E) (itemId : ℕ) :
    (s.insert request.id (MonitoredItem.new request now)).watch itemId =
      if itemId = request.id then some (requestWatch request) else s.watch itemId := by
  unfold watch ItemMap.watch insert
  split_ifs with same
  · rw [same, lookup_insert, Option.map_some, new_watch]
    rfl
  · rw [lookup_insert_ne same]

/-- **Creating items under ids that are not in use.** -/
theorem createMonitoredItems_spec (cap : ℕ) (now : ℤ)
    (requests : List (MonitoredItem.CreateMonitoredItem E))
    (distinct : (requests.map (·.id)).Nodup)
    (unused : ∀ request ∈ requests, s.watch request.id = none) :
    (forEach (createMonitoredItem cap now) requests s).2.id = s.id ∧
      (forEach (createMonitoredItem cap now) requests s).2.state = s.state ∧
      ∀ itemId watch, (forEach (createMonitoredItem cap now) requests s).2.watch itemId =
        some watch ↔ s.watch itemId = some watch ∨
        ∃ entry ∈ requests.zip (forEach (createMonitoredItem cap now) requests s).1,
          entry.2.statusCode.isGood = true ∧ itemId = entry.1.id ∧
            watch = requestWatch entry.1 := by
  induction requests generalizing s with
  | nil =>
    exact ⟨rfl, rfl, fun _ _ => ⟨inl, fun created => created.resolve_right (by simp)⟩⟩
  | cons request rest ih =>
    rw [forEach_cons]
    obtain ⟨apart, distinct⟩ := nodup_cons.mp distinct
    obtain ⟨result, ⟨step, bad⟩ | ⟨step, good⟩⟩ := createMonitoredItem_cases cap now request s
    · rw [step]
      obtain ⟨same, state, watched⟩ := ih distinct fun other listed =>
        unused other (mem_cons_of_mem request listed)
      refine ⟨same, state, fun itemId watch => ?_⟩
      rw [watched itemId watch, zip_cons_cons]
      simp [bad]
    · rw [step]
      obtain ⟨same, state, watched⟩ := ih (s := s.insert request.id (MonitoredItem.new request now))
        distinct fun other listed => by
          rw [insert_new_watch, if_neg]
          · exact unused other (mem_cons_of_mem request listed)
          · intro equal
            exact apart (mem_map.mpr ⟨other, listed, equal⟩)
      refine ⟨same, state, fun itemId watch => ?_⟩
      rw [watched itemId watch, insert_new_watch, zip_cons_cons]
      have free := unused request mem_cons_self
      constructor
      · rintro (there | ⟨entry, listed, created⟩)
        · split_ifs at there with equal
          · cases there
            exact inr ⟨_, mem_cons_self, good, equal, rfl⟩
          · exact inl there
        · exact inr ⟨entry, mem_cons_of_mem _ listed, created⟩
      · rintro (there | ⟨entry, listed, created⟩)
        · left
          rw [if_neg]
          · exact there
          · rintro rfl
            rw [free] at there
            cases there
        · obtain rfl | later := mem_cons.mp listed
          · left
            rw [if_pos created.2.1, created.2.2]
          · exact inr ⟨entry, later, created⟩

end Subscription

/-! ### On a session -/

namespace SessionSubscriptions

def place (s : SessionSubscriptions E) (id : ℕ) (sub : Subscription E) : SessionSubscriptions E :=
  { s with subscriptions := s.subscriptions.insert id sub }

@[simp]
theorem place_copy (s : SessionSubscriptions E) (id : ℕ) (sub : Subscription E) :
    (s.place id sub).copy id = some sub := lookup_insert _

theorem place_onlyAt (s : SessionSubscriptions E) (id : ℕ) (sub : Subscription E) :
    s.OnlyAt id (s.place id sub) := fun _ apart => lookup_insert_ne apart

variable {s : SessionSubscriptions E} {id : ℕ} {sub : Subscription E}

theorem watch_of_copy (found : s.copy id = some sub) (itemId : ℕ) :
    s.watch ⟨id, itemId⟩ = sub.watch itemId := by
  rw [watch, found]
  rfl

theorem mem_of_watch {handle : MonitoredItemHandle} {watch : Watch E}
    (watched : s.watch handle = some watch) : handle.subscriptionId ∈ s.subscriptions := by
  rw [mem_of_copy]
  intro none
  rw [SessionSubscriptions.watch, none] at watched
  cases watched

theorem place_watching {changed : Subscription E} (housed : s.Housed)
    (found : s.copy id = some sub) (still : sub.StillWatches changed) :
    s.Watching (s.place id changed) := by
  have only := s.place_onlyAt id changed
  refine ⟨only.retires_watch (mem_of_found found) fun itemId => ?_,
    only.housed housed fun after found' => ?_⟩
  · rw [watch_of_copy (s.place_copy id changed), watch_of_copy found, still.watch]
  · rw [place_copy, Option.some.injEq] at found'
    exact found' ▸ (housed id sub found).still still

variable {t : SessionSubscriptions E}

section

variable {α : Type} {serve : Subscription E → α × Subscription E}

/-- **A service on one subscription** fails without it, or puts what it makes of it in its place. -/
theorem onSubscription_eq_ok {result : α}
    (served : s.onSubscription id serve = (.ok result, t)) :
    ∃ sub, s.copy id = some sub ∧ result = (serve sub).1 ∧ t = s.place id (serve sub).2 := by
  unfold onSubscription at served
  cases found : s.subscriptions.lookup id with
  | none =>
    rw [found] at served
    cases served
  | some sub =>
    rw [found] at served
    cases served
    exact ⟨sub, found, rfl, rfl⟩

theorem onSubscription_eq_error
    {status : StatusCode} (served : s.onSubscription id serve = (.error status, t)) : t = s := by
  unfold onSubscription at served
  cases found : s.subscriptions.lookup id with
  | none =>
    rw [found] at served
    cases served
    rfl
  | some sub =>
    rw [found] at served
    cases served

end

theorem deleteMonitoredItems_retires {ids : List ℕ}
    {results : List (StatusCode × Option (MonitoredItemRef E))} (housed : s.Housed)
    (deleted : s.deleteMonitoredItems id ids = (.ok results, t)) :
    s.Retires (goodRefs results) t ∧ t.Housed := by
  obtain ⟨sub, found, rfl, rfl⟩ := onSubscription_eq_ok deleted
  obtain ⟨same, state, left, names⟩ := Subscription.deleteMonitoredItems_spec id ids sub
  revert same state left names
  generalize Subscription.forEach (Subscription.deleteMonitoredItem id) ids sub = r
  obtain ⟨results, after⟩ := r
  intro same state left names
  have only := s.place_onlyAt id after
  have here : ∀ itemId, (s.place id after).watch ⟨id, itemId⟩ =
      if itemId ∈ ids then none else s.watch ⟨id, itemId⟩ := by
    intro itemId
    rw [watch_of_copy (s.place_copy id after), watch_of_copy found]
    exact left itemId
  have elsewhere : ∀ handle : MonitoredItemHandle, handle.subscriptionId ≠ id →
      (s.place id after).watch handle = s.watch handle := by
    intro handle apart
    rw [watch, only _ apart]
    rfl
  have there := housed id sub found
  refine ⟨⟨only.subs (mem_of_found found), ?_, ?_, ?_, ?_⟩, only.housed housed ?_⟩
  · rintro ⟨subscriptionId, itemId⟩ watch watched
    by_cases own : subscriptionId = id
    · subst own
      rw [here] at watched
      split_ifs at watched
      exact watched
    · rwa [elsewhere _ own] at watched
  · rintro ⟨subscriptionId, itemId⟩ watch watched
    by_cases own : subscriptionId = id
    · subst own
      rw [here]
      by_cases listed : itemId ∈ ids
      · rw [watch_of_copy found] at watched
        obtain ⟨ref, member, named⟩ := names.all itemId listed watch watched
        refine inr ⟨ref, member, ?_⟩
        rw [handle, (names.item ref member).1, named]
      · rw [if_neg listed]
        exact inl watched
    · rw [elsewhere _ own]
      exact inl watched
  · intro ref member
    obtain ⟨own, listed, -⟩ := names.item ref member
    rw [handle, own, here, if_pos listed]
  · intro ref member
    obtain ⟨own, -, watch, watched, key⟩ := names.item ref member
    refine ⟨watch, ?_, key⟩
    rw [handle, own, watch_of_copy found]
    exact watched
  · intro placed found'
    rw [place_copy, Option.some.injEq] at found'
    subst found'
    refine ⟨same.trans there.id, fun itemId watch watched => ?_, fun closed itemId => ?_⟩
    · rw [left] at watched
      split_ifs at watched
      exact there.items itemId watch watched
    · rw [left]
      split_ifs
      · rfl
      · exact there.closed (state.symm.trans closed) itemId

theorem refsOf_removedBy_cons (id : ℕ) (ids : List ℕ)
    (result : StatusCode × List (MonitoredItemRef E))
    (results : List (StatusCode × List (MonitoredItemRef E))) :
    refsOf (removedBy (id :: ids) (result :: results)) =
      (if result.1.isGood then result.2 else []) ++ refsOf (removedBy ids results) := by
  unfold removedBy refsOf
  by_cases good : result.1.isGood = true
  · simp [good]
  · simp [good]

theorem monitoredItemRefs_retires (housed : s.Housed) :
    s.Retires s.monitoredItemRefs { s with subscriptions := ∅ } := by
  have none : ∀ handle, SessionSubscriptions.watch { s with subscriptions := ∅ } handle = none :=
    fun _ => rfl
  have entry : ∀ ref ∈ s.monitoredItemRefs, ∃ id sub, s.copy id = some sub ∧
      ref ∈ sub.monitoredItemRefs := by
    intro ref listed
    obtain ⟨⟨id, sub⟩, there, listed⟩ := mem_flatMap.mp listed
    exact ⟨id, sub, mem_lookup_iff.mpr there, listed⟩
  refine ⟨fun id there => absurd there (notMem_empty id), fun handle watch watched => ?_,
    fun handle watch watched => ?_, fun ref _ => none ref.handle, fun ref listed => ?_⟩
  · rw [none] at watched
    cases watched
  · obtain ⟨sub, found, watched⟩ := Option.bind_eq_some_iff.mp watched
    obtain ⟨ref, listed, named⟩ := (housed _ sub found).refs.1 _ watch watched
    refine inr ⟨ref, ?_, named⟩
    exact mem_flatMap.mpr ⟨⟨_, sub⟩, mem_lookup_iff.mp found, listed⟩
  · obtain ⟨id, sub, found, listed⟩ := entry ref listed
    obtain ⟨own, watch, watched, key⟩ := (housed id sub found).refs.2 ref listed
    refine ⟨watch, ?_, key⟩
    rw [handle, own, watch_of_copy found]
    exact watched

/-! ### Subscriptions -/

section

variable {notifs : List (NonAckedPublish E)} {sendInitialValues : Bool}

theorem insertForTransfer_ok (named : sub.id = id)
    (inserted : s.insertForTransfer sub notifs sendInitialValues id = (.ok (), t)) :
    ∃ moved, sub.StillWatches moved ∧ t.subscriptions = s.subscriptions.insert id moved := by
  unfold insertForTransfer insert at inserted
  by_cases full : s.limits.maxSubscriptionsPerSession ≤ s.len
  · rw [if_pos full] at inserted
    cases inserted
  · rw [if_neg full] at inserted
    cases inserted
    split_ifs
    · refine ⟨sub.setResendData, ⟨rfl, rfl, rfl⟩, ?_⟩
      unfold modifyEntry
      rw [named, lookup_insert]
      exact insert_insert ..
    · exact ⟨sub, ⟨rfl, rfl, rfl⟩, by rw [named]⟩

theorem insertForTransfer_error {status : StatusCode}
    (failed : s.insertForTransfer sub notifs sendInitialValues id = (.error status, t)) :
    t = s := by
  unfold insertForTransfer insert at failed
  by_cases full : s.limits.maxSubscriptionsPerSession ≤ s.len
  · rw [if_pos full] at failed
    cases failed
    rfl
  · rw [if_neg full] at failed
    cases failed

end

theorem deleteSubscription_retires (id : ℕ) (housed : s.Housed) :
    s.Retires (if (s.deleteSubscription id).1.1.isGood then (s.deleteSubscription id).1.2 else [])
        (s.deleteSubscription id).2 ∧ (s.deleteSubscription id).2.Housed := by
  cases found : s.copy id with
  | none =>
    have step : s.deleteSubscription id =
        ((StatusCode.BadSubscriptionIdInvalid, []), { s with priorityCacheDirty := true }) := by
      unfold deleteSubscription
      dsimp only
      rw [show s.subscriptions.lookup id = none from found]
    rw [step, if_neg (show ¬ StatusCode.BadSubscriptionIdInvalid.isGood = true by decide)]
    exact ⟨.of_subscriptions rfl, housed.of_subscriptions rfl⟩
  | some sub =>
    have there := housed id sub found
    have own : (sub.monitoredItemRefs.map fun ref => { ref with subscriptionId := id }) =
        sub.monitoredItemRefs := by
      unfold Subscription.monitoredItemRefs
      rw [map_map, there.id]
      rfl
    have step : s.deleteSubscription id = ((StatusCode.Good, sub.monitoredItemRefs),
        { s with priorityCacheDirty := true, subscriptions := s.subscriptions.erase id }) := by
      unfold deleteSubscription
      dsimp only
      rw [show s.subscriptions.lookup id = some sub from found, ← own]
    rw [step, if_pos (show StatusCode.Good.isGood = true by decide)]
    have only : s.OnlyAt id
        { s with priorityCacheDirty := true, subscriptions := s.subscriptions.erase id } :=
      fun _ apart => lookup_erase_ne apart
    have erased : copy { s with
        priorityCacheDirty := true, subscriptions := s.subscriptions.erase id } id = none :=
      lookup_erase _ _
    refine ⟨?_, only.housed housed fun after found' => ?_⟩
    · refine only.retires_emptied found there fun itemId => ?_
      rw [SessionSubscriptions.watch, erased]
      rfl
    · rw [erased] at found'
      cases found'

theorem deleteSubscriptions_retires (ids : List ℕ) (housed : s.Housed) :
    s.Retires (refsOf (removedBy ids (s.deleteSubscriptions ids).1))
        (s.deleteSubscriptions ids).2 ∧ (s.deleteSubscriptions ids).2.Housed := by
  have each : ∀ (ids : List ℕ) (s : SessionSubscriptions E), s.Housed →
      s.Retires (refsOf (removedBy ids (deleteEach ids s).1)) (deleteEach ids s).2 ∧
        (deleteEach ids s).2.Housed := by
    intro ids
    induction ids with
    | nil => exact fun s housed => ⟨.refl s, housed⟩
    | cons id rest ih =>
      intro s housed
      obtain ⟨first, housed'⟩ := deleteSubscription_retires id housed
      obtain ⟨later, housed''⟩ := ih _ housed'
      have together := first.trans later
      rw [← refsOf_removedBy_cons] at together
      exact ⟨together, housed''⟩
  have forgets : ∀ (ids : List ℕ) (s : SessionSubscriptions E),
      (ids.foldl forgetMessages s).subscriptions = s.subscriptions := by
    intro ids
    induction ids with
    | nil => exact fun _ => rfl
    | cons id rest ih => exact fun s => ih (s.forgetMessages id)
  obtain ⟨retires, housed'⟩ := each ids s housed
  have forgotten := forgets ids (deleteEach ids s).2
  have together := retires.trans (Retires.of_subscriptions forgotten)
  rw [append_nil] at together
  exact ⟨together, housed'.of_subscriptions forgotten⟩

end SessionSubscriptions

end AsyncOpcua.Subscriptions
