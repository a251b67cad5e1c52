/-
**Every call of the cache keeps its indexes exact,** or does not: which do, and when.

* `Indexed.deleteMonitoredItems`, `Indexed.transfer`, … — one lemma for each call;
* `CacheCall.KeepsIndex` — when a call keeps the indexes exact: the ids that it draws are not in
  use, it creates no item in a closed subscription, and an item that `delete_monitored_item_refs`
  deletes is registered for no EU range and is not the last one under its key;
* `index_exact` — the indexes are exact in every state of a run of such calls.
-/

import AsyncOpcua.Subscriptions.ExactIndex

namespace AsyncOpcua.Subscriptions

open Types Foundation SubscriptionCacheInner AList Function Or

variable {E : Externals}

open SessionSubscriptions

open List
open Option (bind_eq_some_iff bind_some map_eq_some_iff some_ne_none)

namespace SubscriptionCacheInner

variable {c d : SubscriptionCacheInner E} {session : ℕ} {subs after : SessionSubscriptions E}

/-! ### Asking a session -/

variable {α : Type}

theorem onSession_eq_ok {result : α}
    {serve : SessionSubscriptions E → Except StatusCode α × SessionSubscriptions E}
    (served : c.onSession session serve = (.ok result, d)) :
    ∃ subs after, c.sessionSubscriptions session = some subs ∧
      serve subs = (.ok result, after) ∧ d = c.setSession session after := by
  unfold onSession at served
  cases found : c.sessionSubscriptions session with
  | none =>
    rw [found] at served
    cases served
  | some subs =>
    rw [found, Prod.mk.injEq] at served
    refine ⟨subs, (serve subs).2, rfl, ?_, served.2.symm⟩
    rw [← served.1]

theorem onSession_eq_error {status : StatusCode}
    {serve : SessionSubscriptions E → Except StatusCode α × SessionSubscriptions E}
    (served : c.onSession session serve = (.error status, d)) :
    d = c ∨ ∃ subs after, c.sessionSubscriptions session = some subs ∧
      serve subs = (.error status, after) ∧ d = c.setSession session after := by
  unfold onSession at served
  cases found : c.sessionSubscriptions session with
  | none =>
    rw [found] at served
    cases served
    exact inl rfl
  | some subs =>
    rw [found, Prod.mk.injEq] at served
    refine inr ⟨subs, (serve subs).2, rfl, ?_, served.2.symm⟩
    rw [← served.1]

variable {id : ℕ}

theorem onSubscription_error {status : StatusCode} {serve : Subscription E → α × Subscription E}
    (failed : c.onSession session (fun subs => subs.onSubscription id serve) = (.error status, d)) :
    d = c := by
  obtain same | ⟨subs, after, entered, served, rfl⟩ := onSession_eq_error failed
  · exact same
  · rw [onSubscription_eq_error served]
    unfold setSession
    rw [update_eq_self_iff.mpr entered.symm]

theorem onSubscription_ok {result : α} {serve : Subscription E → α × Subscription E}
    (succeeded : c.onSession session (fun subs => subs.onSubscription id serve) = (.ok result, d)) :
    ∃ subs sub, c.sessionSubscriptions session = some subs ∧ subs.copy id = some sub ∧
      result = (serve sub).1 ∧ d = c.setSession session (subs.place id (serve sub).2) := by
  obtain ⟨subs, after, entered, served, rfl⟩ := onSession_eq_ok succeeded
  obtain ⟨sub, found, rfl, rfl⟩ := onSubscription_eq_ok served
  exact ⟨subs, sub, entered, found, rfl, rfl⟩

theorem setSession_live (c : SubscriptionCacheInner E) (session : ℕ)
    (after : SessionSubscriptions E) (handle : MonitoredItemHandle) (watch : Watch E) :
    (c.setSession session after).Live handle watch ↔ after.watch handle = some watch ∨
      ∃ other subs, other ≠ session ∧ c.sessionSubscriptions other = some subs ∧
        subs.watch handle = some watch := by
  constructor
  · rintro ⟨other, subs, entered, watched⟩
    obtain ⟨-, ⟨⟩⟩ | ⟨own, entered⟩ := update_eq_some entered
    · exact inl watched
    · exact inr ⟨other, subs, own, entered, watched⟩
  · rintro (watched | ⟨other, subs, own, entered, watched⟩)
    · exact ⟨session, after, setSession_self .., watched⟩
    · exact ⟨other, subs, by rw [c.setSession_of_ne own]; exact entered, watched⟩

variable {sub : Subscription E}

section

variable (sound : c.Apart) (entered : c.sessionSubscriptions session = some subs)
  (found : subs.copy id = some sub)
include sound entered found

theorem Apart.live_iff (itemId : ℕ) (watch : Watch E) :
    c.Live ⟨id, itemId⟩ watch ↔ sub.watch itemId = some watch := by
  rw [← watch_of_copy found]
  constructor
  · rintro ⟨other, s, entered', watched⟩
    obtain rfl := sound.apart other session s subs _ entered' entered
      (mem_of_watch watched) (mem_of_found found)
    rw [entered, Option.some.injEq] at entered'
    rw [entered']
    exact watched
  · exact fun watched => ⟨session, subs, entered, watched⟩

theorem Apart.place {changed : Subscription E} (housed : changed.Housed id) :
    (c.setSession session (subs.place id changed)).Apart := by
  have only := subs.place_onlyAt id changed
  refine sound.of_subs entered ?_ (only.subs (mem_of_found found))
  refine only.housed (sound.housed session subs entered) fun after found' => ?_
  rw [place_copy, Option.some.injEq] at found'
  exact found' ▸ housed

theorem Apart.live_place (changed : Subscription E) (itemId : ℕ) (watch : Watch E) :
    (c.setSession session (subs.place id changed)).Live
      ⟨id, itemId⟩ watch ↔ changed.watch itemId = some watch := by
  have here := watch_of_copy (subs.place_copy id changed) itemId
  rw [setSession_live, here]
  refine or_iff_left ?_
  rintro ⟨other, s, apart, entered', watched⟩
  exact apart (sound.apart other session s subs id entered' entered
    (mem_of_watch watched) (mem_of_found found))

end

variable {handle : MonitoredItemHandle}

theorem Apart.live_place_of_ne (entered : c.sessionSubscriptions session = some subs)
    (changed : Subscription E) (apart : handle.subscriptionId ≠ id)
    (watch : Watch E) : (c.setSession session (subs.place id changed)).Live handle watch ↔
      c.Live handle watch := by
  have same : (subs.place id changed).watch handle = subs.watch handle := by
    rw [SessionSubscriptions.watch, subs.place_onlyAt id changed _ apart]
    rfl
  constructor
  · rintro ⟨other, s, entered', watched⟩
    obtain ⟨rfl, ⟨⟩⟩ | ⟨-, entered'⟩ := update_eq_some entered'
    · exact ⟨other, subs, entered, same ▸ watched⟩
    · exact ⟨other, s, entered', watched⟩
  · rintro ⟨other, s, entered', watched⟩
    rw [setSession_live]
    by_cases own : other = session
    · rw [own, entered, Option.some.injEq] at entered'
      rw [same, entered']
      exact inl watched
    · exact inr ⟨other, s, own, entered', watched⟩

variable [DecidableEq E.NodeId]

/-! ### The services on items -/

theorem Indexed.deleteMonitoredItems (indexed : c.Indexed) (session subscriptionId : ℕ)
    (items : List ℕ) : (c.deleteMonitoredItems session subscriptionId items).2.Indexed := by
  unfold SubscriptionCacheInner.deleteMonitoredItems
  generalize served : c.onSession session (fun subs => subs.deleteMonitoredItems subscriptionId
    items) = r
  obtain ⟨status | results, d⟩ := r
  · rw [onSubscription_error served]
    exact indexed
  · obtain ⟨subs, after, entered, deleted, rfl⟩ := onSession_eq_ok served
    obtain ⟨retires, housed⟩ :=
      deleteMonitoredItems_retires (indexed.housed session subs entered) deleted
    exact indexed.retire entered retires housed

theorem Indexed.replaceEuRangeRegistration (indexed : c.Indexed)
    {watch : Watch E} (there : c.Live handle watch) (euRangeNodeId : Option E.NodeId) :
    (c.replaceEuRangeRegistration handle euRangeNodeId).Indexed ∧
      (c.replaceEuRangeRegistration handle euRangeNodeId).sessionSubscriptions =
        c.sessionSubscriptions := by
  have sessions : (c.replaceEuRangeRegistration handle euRangeNodeId).sessionSubscriptions =
      c.sessionSubscriptions := by
    unfold SubscriptionCacheInner.replaceEuRangeRegistration
    split <;> rfl
  exact ⟨indexed.toApart.indexed sessions
    (indexed.exact.replaceEuRangeRegistration there euRangeNodeId), sessions⟩

theorem Indexed.foldl_replaceEu {updates : List MonitoredItemUpdateRef} (indexed : c.Indexed)
    (euRangeNodeIds : ℕ → Option E.NodeId)
    (live : ∀ update ∈ updates, ∃ watch, c.Live update.handle watch) :
    (updates.foldl (fun c update => c.replaceEuRangeRegistration update.handle
      (euRangeNodeIds update.handle.monitoredItemId)) c).Indexed := by
  induction updates generalizing c with
  | nil => exact indexed
  | cons update rest ih =>
    obtain ⟨watch, there⟩ := live update mem_cons_self
    obtain ⟨replaced, sessions⟩ := indexed.replaceEuRangeRegistration there
      (euRangeNodeIds update.handle.monitoredItemId)
    refine ih replaced fun other listed => ?_
    unfold Live
    rw [sessions]
    exact live other (mem_cons_of_mem update listed)

theorem Indexed.modifyMonitoredItems (indexed : c.Indexed) (session subscriptionId : ℕ) (now : ℤ)
    (requests : List (ℕ × MonitoredItem.ModifyRequest E)) (euRangeNodeIds : ℕ → Option E.NodeId) :
    (c.modifyMonitoredItems session subscriptionId now requests euRangeNodeIds).2.Indexed := by
  unfold SubscriptionCacheInner.modifyMonitoredItems
  generalize served : c.onSession session (fun subs => subs.modifyMonitoredItems subscriptionId now
    requests) = r
  obtain ⟨status | updates, d⟩ := r
  · rw [onSubscription_error served]
    exact indexed
  · obtain ⟨subs, sub, entered, found, rfl, rfl⟩ := onSubscription_ok served
    have housed := indexed.housed session subs entered
    obtain ⟨still, named⟩ := Subscription.modifyMonitoredItems_spec subscriptionId now requests
      (housed subscriptionId sub found)
    revert still named
    generalize Subscription.forEach (Subscription.modifyMonitoredItem subscriptionId now)
      requests sub = r
    obtain ⟨updates, changed⟩ := r
    intro still named
    have watching := subs.place_watching housed found still
    have placed := indexed.watching entered watching
    have live : ∀ update ∈ updates.filter fun update => update.statusCode.isGood,
        ∃ watch, (c.setSession session (subs.place subscriptionId changed)).Live update.handle
          watch := by
      intro update listed
      obtain ⟨member, good⟩ := mem_filter.mp listed
      obtain ⟨own, watch, watched⟩ := named update member good
      have same : update.handle = ⟨subscriptionId, update.handle.monitoredItemId⟩ := by rw [← own]
      refine ⟨watch, session, _, setSession_self .., ?_⟩
      rw [same, watch_of_copy (subs.place_copy subscriptionId changed),
        still.watch]
      exact watched
    exact placed.foldl_replaceEu euRangeNodeIds live

/-- The relation with the mode of some items set. -/
def withModes (live : MonitoredItemHandle → Watch E → Prop) (mode : MonitoringMode)
    (refs : List (MonitoredItemRef E)) : MonitoredItemHandle → Watch E → Prop :=
  fun name seen => ∃ watch, live name watch ∧
    seen = if name ∈ refs.map (·.handle) then Subscription.inMode mode watch else watch

variable {live : MonitoredItemHandle → Watch E → Prop} {c : SubscriptionCacheInner E}

theorem Exact.enableAll (refs : List (MonitoredItemRef E))
    (exact : c.Exact live) (mode : MonitoringMode)
    (keyed : ∀ ref ∈ refs, ∀ watch, live ref.handle watch → watch.key = ref.key) :
    (refs.foldl (fun c ref => c.enable mode ref) c).Exact (withModes live mode refs) ∧
      (refs.foldl (fun c ref => c.enable mode ref) c).sessionSubscriptions =
        c.sessionSubscriptions := by
  induction refs generalizing c live with
  | nil =>
    refine ⟨exact.congr rfl rfl fun handle watch => ?_, rfl⟩
    unfold withModes
    simp
  | cons ref rest ih =>
    have first := exact.enable mode (keyed ref mem_cons_self)
    have sessions : (c.enable mode ref).sessionSubscriptions = c.sessionSubscriptions := by
      unfold SubscriptionCacheInner.enable
      split
      · rfl
      · split <;> rfl
    obtain ⟨later, same⟩ := ih first (by
      rintro other listed _ ⟨watch, alive, rfl⟩
      rw [← keyed other (mem_cons_of_mem ref listed) watch alive]
      split_ifs <;> rfl)
    refine ⟨later.congr rfl rfl fun handle seen => ?_, same.trans sessions⟩
    -- The mode that is set last is the same one.
    have twice : ∀ watch : Watch E,
        (if handle ∈ (ref :: rest).map (·.handle) then Subscription.inMode mode watch else watch) =
          if handle ∈ rest.map (·.handle) then Subscription.inMode mode
              (if handle = ref.handle then Subscription.inMode mode watch else watch)
            else if handle = ref.handle then Subscription.inMode mode watch else watch := by
      intro watch
      by_cases own : handle = ref.handle
      · by_cases again : ref.handle ∈ rest.map (·.handle) <;> simp [own, again, Subscription.inMode]
      · simp [own]
    constructor
    · rintro ⟨watch, alive, rfl⟩
      exact ⟨_, ⟨watch, alive, rfl⟩, twice watch⟩
    · rintro ⟨_, ⟨watch, alive, rfl⟩, rfl⟩
      exact ⟨watch, alive, (twice watch).symm⟩

theorem Indexed.setMonitoringMode (indexed : c.Indexed) (session subscriptionId : ℕ)
    (mode : MonitoringMode) (items : List ℕ) :
    (c.setMonitoringMode session subscriptionId mode items).2.Indexed := by
  unfold SubscriptionCacheInner.setMonitoringMode
  generalize served : c.onSession session (fun subs => subs.setMonitoringMode subscriptionId mode
    items) = r
  obtain ⟨status | results, d⟩ := r
  · rw [onSubscription_error served]
    exact indexed
  · obtain ⟨subs, sub, entered, found, rfl, rfl⟩ := onSubscription_ok served
    have housed := indexed.housed session subs entered
    obtain ⟨same, state, left, names⟩ :=
      Subscription.setMonitoringMode_spec subscriptionId mode items sub
    revert same state left names
    generalize Subscription.forEach (Subscription.setMonitoringModeOf subscriptionId mode) items
      sub = r
    obtain ⟨results, changed⟩ := r
    intro same state left names
    have own : ∀ ref ∈ goodRefs results,
        ref.handle = ⟨subscriptionId, ref.monitoredItemId⟩ := by
      intro ref listed
      rw [MonitoredItemRef.handle, (names.item ref listed).1]
    have live := indexed.toApart.live_iff entered found
    -- The references that are marked are those of the listed items.
    have marked : ∀ itemId watch, sub.watch itemId = some watch →
        ((⟨subscriptionId, itemId⟩ : MonitoredItemHandle) ∈
          (goodRefs results).map (·.handle) ↔ itemId ∈ items) := by
      intro itemId watch watched
      rw [mem_map]
      constructor
      · rintro ⟨ref, listed, equal⟩
        rw [own ref listed, MonitoredItemHandle.mk.injEq] at equal
        exact equal.2 ▸ (names.item ref listed).2.1
      · intro listed
        obtain ⟨ref, good, named⟩ := names.all itemId listed watch watched
        exact ⟨ref, good, by rw [own ref good, named]⟩
    have placed : (c.setSession session (subs.place subscriptionId changed)).Apart := by
      refine indexed.toApart.place entered found ?_
      obtain ⟨was, items', closed⟩ := housed subscriptionId sub found
      refine ⟨same.trans was, fun itemId watch watched => ?_, fun beyond itemId => ?_⟩
      · rw [left] at watched
        obtain ⟨before, seen, rfl⟩ := map_eq_some_iff.mp watched
        rw [← items' itemId before seen]
        split_ifs <;> rfl
      · rw [left, closed (state.symm.trans beyond) itemId]
        rfl
    obtain ⟨enabled, sessions⟩ := (indexed.exact.congr
      (d := c.setSession session (subs.place subscriptionId changed)) rfl rfl
      fun _ _ => Iff.rfl).enableAll (goodRefs results) mode (by
        intro ref listed watch alive
        obtain ⟨-, -, seen, watched, key⟩ := names.item ref listed
        rw [own ref listed, live, watched, Option.some.injEq] at alive
        exact alive ▸ key)
    refine placed.indexed sessions (enabled.congr rfl rfl fun handle seen => ?_)
    have outside : handle.subscriptionId ≠ subscriptionId →
        handle ∉ (goodRefs results).map (·.handle) := by
      intro apart listed
      obtain ⟨ref, good, rfl⟩ := mem_map.mp listed
      exact apart (names.item ref good).1
    obtain ⟨id, itemId⟩ := handle
    by_cases here : id = subscriptionId
    · subst here
      rw [indexed.toApart.live_place entered found, left, map_eq_some_iff]
      refine exists_congr fun watch => ?_
      rw [live]
      refine and_congr_right fun watched => ?_
      simp only [marked itemId watch watched, eq_comm]
    · rw [Apart.live_place_of_ne entered changed here]
      unfold withModes
      simp [outside here]

def addingAll (live : MonitoredItemHandle → Watch E → Prop) (subscriptionId : ℕ)
    (requests : List (CreateRequest E)) : MonitoredItemHandle → Watch E → Prop :=
  fun name seen => live name seen ∨ ∃ request ∈ requests,
    name = ⟨subscriptionId, request.item.id⟩ ∧ seen = Subscription.requestWatch request.item

variable {requests : List (CreateRequest E)}

/-- **Entering several items,** each under a handle that is not in use. -/
theorem Exact.indexAll (exact : c.Exact live) (subscriptionId : ℕ)
    (distinct : (requests.map fun request => request.item.id).Nodup)
    (unused : ∀ request ∈ requests, ∀ watch, ¬ live ⟨subscriptionId, request.item.id⟩ watch) :
    (requests.foldl (fun c request => c.indexCreated subscriptionId request) c).Exact
        (addingAll live subscriptionId requests) ∧
      (requests.foldl (fun c request => c.indexCreated subscriptionId request)
        c).sessionSubscriptions = c.sessionSubscriptions := by
  induction requests generalizing c live with
  | nil =>
    refine ⟨exact.congr rfl rfl fun handle watch => ?_, rfl⟩
    unfold addingAll
    simp
  | cons request rest ih =>
    rw [map_cons, nodup_cons] at distinct
    have entered := exact.insertEntry ⟨subscriptionId, request.item.id⟩
      (Subscription.requestWatch request.item) (unused request mem_cons_self)
      request.item.itemToMonitor.indexRange
    have first := entered.replaceEuRangeRegistration (inr ⟨rfl, rfl⟩) request.euRangeNodeId
    have sessions : (c.indexCreated subscriptionId request).sessionSubscriptions =
        c.sessionSubscriptions := by
      unfold indexCreated SubscriptionCacheInner.replaceEuRangeRegistration
      split <;> rfl
    obtain ⟨later, same⟩ := ih (c := c.indexCreated subscriptionId request) first distinct.2
      (by
        rintro other listed watch (alive | ⟨equal, -⟩)
        · exact unused other (mem_cons_of_mem request listed) watch alive
        · rw [MonitoredItemHandle.mk.injEq] at equal
          exact distinct.1 (mem_map.mpr ⟨other, listed, equal.2⟩))
    refine ⟨later.congr rfl rfl fun handle watch => ?_, same.trans sessions⟩
    unfold addingAll adding
    rw [exists_mem_cons_iff, or_assoc]

def goodRequests (requests : List (CreateRequest E)) (results : List MonitoredItemCreateResult) :
    List (CreateRequest E) :=
  ((requests.zip results).filter fun entry => entry.2.statusCode.isGood).map (·.1)

omit [DecidableEq E.NodeId] in
theorem goodRequests_sublist (requests : List (CreateRequest E))
    (results : List MonitoredItemCreateResult) :
    (goodRequests requests results).Sublist requests := by
  unfold goodRequests
  induction requests generalizing results with
  | nil => exact List.Sublist.refl _
  | cons request rest ih =>
    cases results with
    | nil => exact nil_sublist _
    | cons result results =>
      rw [zip_cons_cons, filter_cons]
      split_ifs
      · exact (ih results).cons_cons request
      · exact (ih results).cons request

/-- **Creating items** under ids that are not in use, in a subscription that is not closed. -/
theorem Indexed.createMonitoredItems (indexed : c.Indexed) (session subscriptionId : ℕ) (now : ℤ)
    (distinct : (requests.map fun request => request.item.id).Nodup)
    (unused : ∀ request ∈ requests, ∀ watch, ¬ c.Live ⟨subscriptionId, request.item.id⟩ watch)
    (running : ∀ subs sub, c.sessionSubscriptions session = some subs →
      subs.copy subscriptionId = some sub → sub.state ≠ .closed) :
    (c.createMonitoredItems session subscriptionId now requests).2.Indexed := by
  unfold SubscriptionCacheInner.createMonitoredItems
  generalize served : c.onSession session (fun subs => subs.createMonitoredItems
    c.maxMonitoredItemsPerSub subscriptionId now (requests.map (·.item))) = r
  obtain ⟨status | results, d⟩ := r
  · rw [onSubscription_error served]
    exact indexed
  · obtain ⟨subs, sub, entered, found, rfl, rfl⟩ := onSubscription_ok served
    have housed := indexed.housed session subs entered
    have live := indexed.toApart.live_iff entered found
    obtain ⟨same, state, created⟩ := Subscription.createMonitoredItems_spec
      c.maxMonitoredItemsPerSub now (requests.map (·.item)) (s := sub)
      (by rw [map_map]; exact distinct) (by
        intro request listed
        obtain ⟨whole, member, rfl⟩ := mem_map.mp listed
        by_contra some
        obtain ⟨watch, watched⟩ := Option.ne_none_iff_exists'.mp some
        exact unused whole member watch ((live _ watch).mpr watched))
    revert same state created
    generalize Subscription.forEach (Subscription.createMonitoredItem c.maxMonitoredItemsPerSub
      now) (requests.map (·.item)) sub = r
    obtain ⟨results, changed⟩ := r
    intro same state created
    have good : ∀ itemId watch, (∃ entry ∈ (requests.map (·.item)).zip results,
        entry.2.statusCode.isGood = true ∧ itemId = entry.1.id ∧
          watch = Subscription.requestWatch entry.1) ↔
        ∃ request ∈ goodRequests requests results, itemId = request.item.id ∧
          watch = Subscription.requestWatch request.item := by
      intro itemId watch
      unfold goodRequests
      rw [zip_map_left]
      simp only [mem_map, mem_filter, Prod.exists]
      constructor
      · rintro ⟨_, _, ⟨request, result, listed, built⟩, good, own⟩
        cases built
        exact ⟨request, ⟨request, result, ⟨listed, good⟩, rfl⟩, own⟩
      · rintro ⟨_, ⟨request, result, ⟨listed, good⟩, rfl⟩, own⟩
        exact ⟨request.item, result, ⟨request, result, listed, rfl⟩, good, own⟩
    have sublist := goodRequests_sublist requests results
    have placed : (c.setSession session (subs.place subscriptionId changed)).Apart := by
      refine indexed.toApart.place entered found ?_
      obtain ⟨was, items', -⟩ := housed subscriptionId sub found
      refine ⟨same.trans was, fun itemId watch watched => ?_, fun beyond => ?_⟩
      · rw [created] at watched
        obtain before | ⟨entry, -, -, rfl, rfl⟩ := watched
        · exact items' itemId watch before
        · rfl
      · exact absurd (state.symm.trans beyond) (running subs sub entered found)
    have entries := (indexed.exact.congr
      (d := c.setSession session (subs.place subscriptionId changed)) rfl rfl
      fun _ _ => Iff.rfl).indexAll subscriptionId
        (distinct.sublist (sublist.map _))
        fun request listed => unused request (sublist.subset listed)
    unfold goodRequests at entries
    rw [foldl_map] at entries
    obtain ⟨made, sessions⟩ := entries
    refine placed.indexed sessions (made.congr rfl rfl fun handle seen => ?_)
    obtain ⟨id, itemId⟩ := handle
    by_cases here : id = subscriptionId
    · subst here
      rw [indexed.toApart.live_place entered found, created, good]
      unfold addingAll
      simp [live, goodRequests]
    · rw [Apart.live_place_of_ne entered changed here]
      unfold addingAll
      simp [here]

/-! ### Deleting by references -/

theorem removeHandle_ranges (c : SubscriptionCacheInner E) (ref : MonitoredItemRef E) :
    (c.removeHandle ref).euRangeMonitoredItems = c.euRangeMonitoredItems ∧
      (c.removeHandle ref).sessionSubscriptions = c.sessionSubscriptions := by
  unfold removeHandle
  split <;> exact ⟨rfl, rfl⟩

theorem Exact.removeHandles {refs : List (MonitoredItemRef E)}
    {live : MonitoredItemHandle → Watch E → Prop} (exact : c.Exact live)
    (keyed : ∀ ref ∈ refs, ∀ watch, live ref.handle watch → watch.key = ref.key)
    (others : ∀ ref ∈ refs, ∃ name watch, (∀ ref ∈ refs, name ≠ ref.handle) ∧ live name watch ∧
      watch.key = ref.key)
    (unscaled : ∀ ref ∈ refs, ∀ node handles, c.euRangeMonitoredItems node = some handles →
      ref.handle ∉ handles) :
    (refs.foldl SubscriptionCacheInner.removeHandle c).Exact (withoutAll live refs) ∧
      (refs.foldl SubscriptionCacheInner.removeHandle c).euRangeMonitoredItems =
        c.euRangeMonitoredItems ∧
      (refs.foldl SubscriptionCacheInner.removeHandle c).sessionSubscriptions =
        c.sessionSubscriptions := by
  induction refs generalizing c live with
  | nil =>
    refine ⟨exact.congr rfl rfl fun handle watch => ?_, rfl, rfl⟩
    unfold withoutAll
    simp
  | cons ref rest ih =>
    obtain ⟨ranges, sessions⟩ := c.removeHandle_ranges ref
    have first : (c.removeHandle ref).Exact (without live ref.handle) := by
      refine exact.removeHandle (keyed ref mem_cons_self) ?_ (unscaled ref mem_cons_self)
      obtain ⟨name, watch, apart, rest⟩ := others ref mem_cons_self
      exact ⟨name, watch, apart ref mem_cons_self, rest⟩
    obtain ⟨later, ranges', sessions'⟩ := ih first
      (fun other listed watch alive => keyed other (mem_cons_of_mem ref listed) watch alive.1)
      (fun other listed => by
        obtain ⟨name, watch, apart, alive, key⟩ := others other (mem_cons_of_mem ref listed)
        exact ⟨name, watch, fun third there => apart third (mem_cons_of_mem ref there),
          ⟨alive, apart ref mem_cons_self⟩, key⟩)
      (fun other listed => by
        rw [ranges]
        exact unscaled other (mem_cons_of_mem ref listed))
    refine ⟨later.congr rfl rfl fun handle watch => ?_, ranges'.trans ranges,
      sessions'.trans sessions⟩
    unfold withoutAll without
    rw [forall_mem_cons, and_assoc]

/-- The handles that a deletion by references comes to: those of the groups before the first one
whose subscription the session does not have. -/
def reached (subs : SessionSubscriptions E) (groups : List (ℕ × List ℕ)) :
    List MonitoredItemHandle :=
  (groups.takeWhile fun group => group.1 ∈ subs.subscriptions).flatMap fun group =>
    group.2.map fun itemId => ⟨group.1, itemId⟩

omit [DecidableEq E.NodeId] in
variable (c) in
/-- **Nothing is left behind for these handles:** an item under one of them is registered for no EU
range, and another item that keeps its handle has its key. -/
def Spares (handles : List MonitoredItemHandle) : Prop :=
  ∀ handle ∈ handles, ∀ watch, c.Live handle watch →
    (∀ node names, c.euRangeMonitoredItems node = some names → handle ∉ names) ∧
    ∃ other seen, other ∉ handles ∧ c.Live other seen ∧ seen.key = watch.key

theorem Indexed.deleteGroups {groups : List (ℕ × List ℕ)}
    {subs : SessionSubscriptions E} (indexed : c.Indexed)
    (entered : c.sessionSubscriptions session = some subs)
    (spares : c.Spares (reached subs groups)) :
    (deleteGroups session groups c).2.Indexed := by
  induction groups generalizing c subs with
  | nil => exact indexed
  | cons group rest ih =>
    obtain ⟨subscriptionId, items⟩ := group
    unfold SubscriptionCacheInner.deleteGroups
    generalize served : c.onSession session (fun subs => subs.deleteMonitoredItems subscriptionId
      items) = r
    obtain ⟨status | deleted, d⟩ := r
    · dsimp only
      rw [onSubscription_error served]
      exact indexed
    · dsimp only
      obtain ⟨subs', after, entered', served', rfl⟩ := onSession_eq_ok served
      rw [entered, Option.some.injEq] at entered'
      subst entered'
      have housed := indexed.housed session subs entered
      obtain ⟨retires, housed'⟩ := deleteMonitoredItems_retires housed served'
      obtain ⟨sub, found, built, placed⟩ := onSubscription_eq_ok served'
      have names := (Subscription.deleteMonitoredItems_spec subscriptionId items sub).2.2.2
      rw [← built] at names
      have there := mem_of_found found
      have split : reached subs ((subscriptionId, items) :: rest) =
          (items.map fun itemId => ⟨subscriptionId, itemId⟩) ++ reached subs rest := by
        unfold reached
        rw [takeWhile_cons_of_pos (by simpa using there), flatMap_cons]
      rw [split] at spares
      have listed : ∀ ref ∈ goodRefs deleted, ref.handle ∈
          (items.map fun itemId => (⟨subscriptionId, itemId⟩ : MonitoredItemHandle)) := by
        intro ref member
        obtain ⟨own, item, -⟩ := names.item ref member
        exact mem_map.mpr ⟨ref.monitoredItemId, item, by rw [MonitoredItemRef.handle, own]⟩
      have keyed := indexed.toApart.keyed entered retires
      have spared : ∀ ref ∈ goodRefs deleted,
          (∀ node names, c.euRangeMonitoredItems node = some names → ref.handle ∉ names) ∧
          ∃ other seen, (∀ ref ∈ goodRefs deleted, other ≠ ref.handle) ∧ c.Live other seen ∧
            seen.key = ref.key := by
        intro ref member
        obtain ⟨watch, watched, key⟩ := retires.named ref member
        obtain ⟨unscaled, other, seen, apart, alive, key'⟩ := spares ref.handle
          (mem_append_left _ (listed ref member)) watch ⟨session, subs, entered, watched⟩
        refine ⟨unscaled, other, seen, ?_, alive, key'.trans key⟩
        rintro third there rfl
        exact apart (mem_append_left _ (listed third there))
      obtain ⟨removed, ranges, sessions⟩ := (indexed.exact.congr (d := c.setSession session after)
        rfl rfl fun _ _ => Iff.rfl).removeHandles keyed (fun ref member => (spared ref member).2)
          (fun ref member => (spared ref member).1)
      have live : ∀ handle watch, ((goodRefs deleted).foldl removeHandle
          (c.setSession session after)).Live handle watch ↔
          withoutAll c.Live (goodRefs deleted) handle watch := by
        intro handle watch
        rw [← indexed.toApart.live_retire entered retires, Live, sessions, Live]
      have still := indexed.retiring entered retires housed' removed sessions
      have same : ∀ id, id ∈ after.subscriptions ↔ id ∈ subs.subscriptions := by
        intro id
        refine ⟨retires.subs id, fun member => ?_⟩
        rw [placed]
        exact (mem_insert _).mpr (inr member)
      have there : ((goodRefs deleted).foldl removeHandle
          (c.setSession session after)).sessionSubscriptions session = some after := by
        rw [sessions, setSession_self]
      refine ih still there ?_
      have reaches : reached after rest = reached subs rest := by
        unfold reached
        simp only [same]
      rw [reaches]
      intro handle member watch alive
      rw [live] at alive
      obtain ⟨unscaled, other, seen, apart, lives, key⟩ :=
        spares handle (mem_append_right _ member) watch alive.1
      refine ⟨?_, other, seen, fun later => apart (mem_append_right _ later), ?_, key⟩
      · rw [ranges]
        exact unscaled
      · rw [live]
        refine ⟨lives, ?_⟩
        rintro ref good rfl
        exact apart (mem_append_left _ (listed ref good))

theorem Indexed.deleteMonitoredItemRefs (indexed : c.Indexed) (session : ℕ) (visit : VisitOrder)
    (items : List (MonitoredItemRef E))
    (spares : ∀ subs, c.sessionSubscriptions session = some subs →
      c.Spares (reached subs (idsBySubscription items visit))) :
    (c.deleteMonitoredItemRefs session visit items).2.Indexed := by
  unfold SubscriptionCacheInner.deleteMonitoredItemRefs
  cases entered : c.sessionSubscriptions session with
  | none => exact indexed
  | some subs => exact indexed.deleteGroups entered (spares subs entered)

/-! ### Subscriptions -/

theorem Indexed.deleteSubscriptions (indexed : c.Indexed) (session : ℕ) (ids : List ℕ) :
    (c.deleteSubscriptions session ids).2.Indexed := by
  unfold SubscriptionCacheInner.deleteSubscriptions
  cases entered : c.sessionSubscriptions session with
  | none => exact indexed
  | some subs =>
    obtain ⟨retires, housed⟩ := deleteSubscriptions_retires ids
      (indexed.housed session subs entered)
    exact indexed.retire_removed entered retires housed

section

omit [DecidableEq E.NodeId]

theorem setSession_entered (entered : c.sessionSubscriptions session = some subs) :
    c.setSession session subs = c := by
  unfold setSession
  rw [update_eq_self_iff.mpr entered.symm]

theorem Indexed.set (indexed : c.Indexed) (entered : c.sessionSubscriptions session = some subs)
    (housed : after.Housed) (same : after.watch = subs.watch)
    (new : ∀ id ∈ after.subscriptions, id ∈ subs.subscriptions ∨ ∀ other s,
      c.sessionSubscriptions other = some s → id ∉ s.subscriptions) :
    (c.setSession session after).Indexed := by
  refine ⟨indexed.toApart.setSession housed fun id there other s apart entered' there' => ?_,
    indexed.exact.congr rfl rfl fun handle watch => ?_⟩
  · obtain before | unused := new id there
    · exact apart (indexed.apart other session s subs id entered' entered there' before)
    · exact unused other s entered' there'
  · rw [setSession_live, same]
    constructor
    · rintro (watched | ⟨other, s, -, entered', watched⟩)
      · exact ⟨session, subs, entered, watched⟩
      · exact ⟨other, s, entered', watched⟩
    · rintro ⟨other, s, entered', watched⟩
      by_cases own : other = session
      · rw [own, entered, Option.some.injEq] at entered'
        exact inl (entered' ▸ watched)
      · exact inr ⟨other, s, own, entered', watched⟩

theorem Indexed.ensureSessionEntry (indexed : c.Indexed) (session : ℕ)
    (key : PersistentSessionKey) :
    (c.setSession session (c.ensureSessionEntry session key)).Indexed := by
  unfold SubscriptionCacheInner.ensureSessionEntry
  cases entered : c.sessionSubscriptions session with
  | some subs =>
    rw [Option.getD_some, setSession_entered entered]
    exact indexed
  | none =>
    rw [Option.getD_none]
    have none : ∀ handle, (SessionSubscriptions.new c.limits key).watch handle = none :=
      fun _ => rfl
    refine ⟨indexed.toApart.setSession ?_ ?_, indexed.exact.congr rfl rfl fun handle watch => ?_⟩
    · intro id sub found
      cases found
    · intro id there
      exact absurd there (notMem_empty id)
    · rw [setSession_live, none]
      constructor
      · rintro (watched | ⟨other, s, -, entered', watched⟩)
        · cases watched
        · exact ⟨other, s, entered', watched⟩
      · rintro ⟨other, s, entered', watched⟩
        refine inr ⟨other, s, ?_, entered', watched⟩
        rintro rfl
        rw [entered] at entered'
        cases entered'

theorem Indexed.createSubscription (indexed : c.Indexed) (session : ℕ)
    (userToken : PersistentSessionKey) (request : CreateSubscriptionRequest E)
    (info : SubscriptionLimits E) (id nowInstant : ℕ)
    (unused : ∀ other s, c.sessionSubscriptions other = some s → id ∉ s.subscriptions) :
    (c.createSubscription session userToken request info id nowInstant).2.Indexed := by
  have ensured := indexed.ensureSessionEntry session userToken
  unfold SubscriptionCacheInner.createSubscription
  have unused' : id ∉ (c.ensureSessionEntry session userToken).subscriptions := by
    unfold SubscriptionCacheInner.ensureSessionEntry
    cases entered : c.sessionSubscriptions session with
    | none => exact notMem_empty id
    | some subs => exact unused session subs entered
  revert ensured unused'
  generalize c.ensureSessionEntry session userToken = subs
  intro ensured unused'
  unfold SessionSubscriptions.createSubscription
  split_ifs with full
  · exact ensured
  · dsimp only
    generalize built : Subscription.new id request.publishingEnabled _ _ _ _ _ _ _ = sub
    have own : sub.id = id := by
      rw [← built]
      rfl
    have empty : ∀ itemId, sub.watch itemId = none := by
      rw [← built]
      exact fun _ => rfl
    rw [own]
    have only := subs.place_onlyAt id sub
    have housed := ensured.housed session subs (setSession_self ..)
    have here := watch_of_copy (subs.place_copy id sub)
    -- The cached order plays no part.
    have marked :
        ∀ t : SessionSubscriptions E, t.subscriptions = (subs.place id sub).subscriptions →
        (c.setSession session t).Indexed := by
      intro t same
      suffices set : ((c.setSession session subs).setSession session t).Indexed from
        set.congr (update_idem ..).symm rfl rfl
      refine ensured.set (setSession_self ..) ?_ ?_ ?_
      · refine SessionSubscriptions.Housed.of_subscriptions (s := subs.place id sub) ?_ same
        refine only.housed housed fun after found => ?_
        rw [place_copy, Option.some.injEq] at found
        subst found
        refine ⟨own, fun itemId watch watched => ?_, fun _ => empty⟩
        rw [empty] at watched
        cases watched
      · have watched : t.watch = (subs.place id sub).watch := by
          unfold watch copy
          rw [same]
        rw [watched]
        funext handle
        obtain ⟨other, itemId⟩ := handle
        by_cases equal : other = id
        · have absent : subs.copy id = none := lookup_eq_none.mpr unused'
          rw [equal, here, empty, watch, absent]
          rfl
        · rw [watch, only other equal]
          rfl
      · intro other there
        rw [same] at there
        obtain rfl | before := (mem_insert _).mp there
        · right
          intro third s entered
          obtain ⟨-, ⟨⟩⟩ | ⟨-, entered⟩ := update_eq_some entered
          · exact unused'
          · exact unused third s entered
        · exact inl before
    exact (marked { subs with
      subscriptions := subs.subscriptions.insert id sub, priorityCacheDirty := true } rfl).congr
        rfl rfl rfl

/-! ### Transfers -/

variable (c) in
def copyAt (session id : ℕ) : Option (Subscription E) :=
  (c.sessionSubscriptions session).bind fun subs => subs.copy id

theorem copyAt_eq_some : c.copyAt session id = some sub ↔
    ∃ subs, c.sessionSubscriptions session = some subs ∧ subs.copy id = some sub :=
  bind_eq_some_iff

theorem apart_iff : c.Apart ↔ (∀ session id sub, c.copyAt session id = some sub → sub.Housed id) ∧
    ∀ first second id s t, c.copyAt first id = some s → c.copyAt second id = some t →
      first = second := by
  constructor
  · intro sound
    refine ⟨fun session id sub there => ?_, fun first second id s t one two => ?_⟩
    · obtain ⟨subs, entered, found⟩ := copyAt_eq_some.mp there
      exact sound.housed session subs entered id sub found
    · obtain ⟨subs, entered, found⟩ := copyAt_eq_some.mp one
      obtain ⟨subs', entered', found'⟩ := copyAt_eq_some.mp two
      exact sound.apart first second subs subs' id entered entered' (mem_of_found found)
        (mem_of_found found')
  · rintro ⟨housed, apart⟩
    refine ⟨fun session subs entered id sub found => ?_,
      fun first second s t id entered entered' there there' => ?_⟩
    · exact housed session id sub (copyAt_eq_some.mpr ⟨subs, entered, found⟩)
    · rw [mem_of_copy, Option.ne_none_iff_exists'] at there there'
      obtain ⟨one, found⟩ := there
      obtain ⟨two, found'⟩ := there'
      exact apart first second id one two (copyAt_eq_some.mpr ⟨s, entered, found⟩)
        (copyAt_eq_some.mpr ⟨t, entered', found'⟩)

theorem live_iff_copyAt (handle : MonitoredItemHandle) (watch : Watch E) :
    c.Live handle watch ↔ ∃ session sub, c.copyAt session handle.subscriptionId = some sub ∧
      sub.watch handle.monitoredItemId = some watch := by
  refine exists_congr fun session => ?_
  constructor
  · rintro ⟨subs, entered, watched⟩
    obtain ⟨sub, found, watched⟩ := bind_eq_some_iff.mp watched
    exact ⟨sub, copyAt_eq_some.mpr ⟨subs, entered, found⟩, watched⟩
  · rintro ⟨sub, there, watched⟩
    obtain ⟨subs, entered, found⟩ := copyAt_eq_some.mp there
    exact ⟨subs, entered, by rw [SessionSubscriptions.watch, found]; exact watched⟩

theorem Indexed.move (indexed : c.Indexed) {owner : ℕ}
    {source dest source' : SessionSubscriptions E} {moved : Subscription E}
    (apart : session ≠ owner) (entered : c.sessionSubscriptions owner = some source)
    (entered' : c.sessionSubscriptions session = some dest) (found : source.copy id = some sub)
    (still : sub.StillWatches moved)
    (given : after.subscriptions = dest.subscriptions.insert id moved)
    (taken : source'.subscriptions = source.subscriptions.erase id) :
    ((c.setSession session after).setSession owner source').Indexed := by
  have here : c.copyAt owner id = some sub := copyAt_eq_some.mpr ⟨source, entered, found⟩
  obtain ⟨housed, one⟩ := apart_iff.mp indexed.toApart
  -- Where the copies are afterwards.
  have copies : ∀ other k, ((c.setSession session after).setSession owner source').copyAt other k =
      if k = id then if other = session then some moved else none else c.copyAt other k := by
    intro other k
    unfold copyAt
    by_cases first : other = owner
    · rw [first, setSession_self, if_neg apart.symm, entered, bind_some, bind_some,
        copy, taken]
      split_ifs with same
      · rw [same, lookup_erase]
      · rw [lookup_erase_ne same]
        rfl
    · rw [setSession_of_ne _ first]
      by_cases second : other = session
      · rw [second, setSession_self, if_pos rfl, entered', bind_some, bind_some,
          copy, given]
        split_ifs with same
        · rw [same, lookup_insert]
        · rw [lookup_insert_ne same]
          rfl
      · rw [setSession_of_ne _ second, if_neg second]
        split_ifs with same
        · by_contra some
          obtain ⟨seen, there⟩ := Option.ne_none_iff_exists'.mp some
          exact first (one other owner k seen sub there (same ▸ here))
        · rfl
  have sound : ((c.setSession session after).setSession owner source').Apart := by
    rw [apart_iff]
    refine ⟨fun other k seen there => ?_, fun first second k s t there there' => ?_⟩
    · rw [copies] at there
      split_ifs at there with same own
      · cases there
        exact same ▸ (housed owner id sub here).still still
      · exact housed other k seen there
    · rw [copies] at there there'
      split_ifs at there there' with same own own'
      · rw [own, own']
      · exact one first second k s t there there'
  refine ⟨sound, indexed.exact.congr rfl rfl fun handle watch => ?_⟩
  rw [live_iff_copyAt, live_iff_copyAt]
  simp only [copies]
  by_cases same : handle.subscriptionId = id
  · simp only [if_pos same]
    constructor
    · rintro ⟨other, seen, there, watched⟩
      split_ifs at there
      cases there
      refine ⟨owner, sub, same ▸ here, ?_⟩
      rw [← still.watch]
      exact watched
    · rintro ⟨other, seen, there, watched⟩
      have own := one other owner _ seen sub there (same ▸ here)
      rw [own, same, here, Option.some.injEq] at there
      refine ⟨session, moved, if_pos rfl, ?_⟩
      rw [still.watch, there]
      exact watched
  · simp [if_neg same]

section

variable (indexed : c.Indexed) (session : ℕ) (key : PersistentSessionKey) (sendInitialValues : Bool)
  (now : ℤ)
include indexed

/-- **Transferring a subscription** moves it, or changes nothing. -/
theorem Indexed.transferOne (id : ℕ) :
    (c.transferOne session key sendInitialValues now id).2.Indexed := by
  unfold SubscriptionCacheInner.transferOne
  split
  · exact indexed
  · exact indexed
  · rename_i owner source dest looked entered'
    obtain ⟨_, -, looked⟩ := bind_eq_some_iff.mp looked
    obtain ⟨_, entered, built⟩ := map_eq_some_iff.mp looked
    cases built
    split_ifs with own other
    · exact indexed
    · exact indexed
    · cases cloned : source.cloneForTransfer id with
      | none => exact indexed
      | some copy =>
        obtain ⟨sub, notifs⟩ := copy
        obtain ⟨_, found, built⟩ := map_eq_some_iff.mp cloned
        cases built
        have named : sub.id = id := (indexed.housed owner source entered id sub found).id
        have there := mem_of_found found
        dsimp only
        generalize inserted : dest.insertForTransfer sub
          (source.retransmissionQueue.cloneSubscription id) sendInitialValues id = r
        obtain ⟨status | ⟨⟩, after⟩ := r
        · dsimp only
          rw [insertForTransfer_error inserted, setSession_entered entered']
          exact indexed
        · obtain ⟨moved, still, given⟩ :=
            insertForTransfer_ok named inserted
          have marked : source.markTransferring id =
              (.ok (), { source with transferring := insert id source.transferring }) := by
            unfold markTransferring
            rw [if_neg (not_not_intro there)]
          rw [marked]
          have moves : ((c.setSession session after).setSession owner
              (({ source with
                transferring := insert id source.transferring } :
                  SessionSubscriptions E).completeTransfer id
                    sub.sequenceNumber.peekNext now)).Indexed :=
            indexed.move own entered entered' found still given rfl
          exact moves.congr rfl rfl rfl

theorem Indexed.transfer (ids : List ℕ) :
    (c.transfer session key sendInitialValues now ids).2.Indexed := by
  have each : ∀ (ids : List ℕ) (c : SubscriptionCacheInner E), c.Indexed →
      (transferEach session key sendInitialValues now ids c).2.Indexed := by
    intro ids
    induction ids with
    | nil => exact fun c indexed => indexed
    | cons id rest ih =>
      exact fun c indexed => ih _ (indexed.transferOne session key sendInitialValues now id)
  exact each ids _ (indexed.ensureSessionEntry session key)

end

/-! ### The timer, and the end of a session -/

theorem Indexed.drop (indexed : c.Indexed) (entered : c.sessionSubscriptions session = some subs)
    (empty : subs.subscriptions.keys = []) (d : SubscriptionCacheInner E)
    (sessions : d.sessionSubscriptions = update c.sessionSubscriptions session none)
    (items : d.monitoredItems = c.monitoredItems)
    (ranges : d.euRangeMonitoredItems = c.euRangeMonitoredItems) : d.Indexed := by
  have copies : ∀ other id, d.copyAt other id = c.copyAt other id := by
    intro other id
    unfold copyAt
    rw [sessions]
    by_cases own : other = session
    · have absent : subs.copy id = none := by
        rw [copy, AList.lookup_eq_none, AList.mem_keys, empty]
        exact not_mem_nil
      rw [own, update_self, entered, bind_some, absent]
      rfl
    · rw [update_of_ne own]
  refine ⟨?_, indexed.exact.congr items ranges fun handle watch => ?_⟩
  · rw [apart_iff]
    simp only [copies]
    exact apart_iff.mp indexed.toApart
  · rw [live_iff_copyAt, live_iff_copyAt]
    simp [copies]

end

theorem Indexed.timer (indexed : c.Indexed) {o : Occasion} (ran : c.timer session o = .ok d) :
    d.Indexed := by
  unfold SubscriptionCacheInner.timer at ran
  cases entered : c.sessionSubscriptions session with
  | none =>
    rw [entered] at ran
    cases ran
    exact indexed
  | some subs =>
    rw [entered] at ran
    obtain ⟨⟨removed, after⟩, ticked, built⟩ := Machine.map_eq_ok.mp ran
    obtain ⟨retires, housed⟩ :=
      tick_retires (indexed.housed session subs entered) ticked
    have cleaned := indexed.retire_removed entered retires housed
    dsimp only at built
    split_ifs at built with ready
    · subst built
      have kept : ((c.setSession session after).cleanupRemovedSubscriptions
          removed).sessionSubscriptions session = some after := by
        rw [cleanupRemovedSubscriptions_sessions, setSession_self]
      refine cleaned.drop kept ?_ _ rfl rfl rfl
      simp only [isReadyToDelete, Bool.and_eq_true] at ready
      exact isEmpty_iff.mp ready.1.1
    · exact built ▸ cleaned

omit [DecidableEq E.NodeId] in
theorem Indexed.serve (indexed : c.Indexed) {op : SessionOp E} (keeps : op.KeepsItems)
    (ran : c.serve session op = .ok d) : d.Indexed := by
  unfold SubscriptionCacheInner.serve at ran
  cases entered : c.sessionSubscriptions session with
  | none =>
    rw [entered] at ran
    cases ran
    exact indexed
  | some subs =>
    rw [entered] at ran
    obtain ⟨after, applied, rfl⟩ := Machine.map_eq_ok.mp ran
    exact indexed.watching entered (watching_of_apply
      (indexed.housed session subs entered) keeps applied)

theorem Indexed.teardownSession (indexed : c.Indexed) (session : ℕ) :
    (c.teardownSession session).Indexed := by
  unfold SubscriptionCacheInner.teardownSession
  cases entered : c.sessionSubscriptions session with
  | none => exact indexed
  | some subs =>
    have emptied := monitoredItemRefs_retires
      (indexed.housed session subs entered)
    have housed : SessionSubscriptions.Housed { subs with subscriptions := ∅ } :=
      fun id sub found => by cases found
    have sound := indexed.toApart.of_subs entered housed emptied.subs
    dsimp only
    generalize begun : ({ c with
      sessionSubscriptions := update c.sessionSubscriptions session none
      subscriptionToSession := fun id => if id ∈ subs.subscriptions then none
        else c.subscriptionToSession id } : SubscriptionCacheInner E) = b
    have copies : ∀ other id, (b.cleanupMonitoredItemRefs subs.monitoredItemRefs).copyAt other id =
        (c.setSession session { subs with subscriptions := ∅ }).copyAt other id := by
      intro other id
      unfold copyAt
      rw [cleanupMonitoredItemRefs_sessions, ← begun]
      dsimp only
      by_cases own : other = session
      · rw [own, update_self, setSession_self]
        rfl
      · rw [update_of_ne own, setSession_of_ne _ own]
    have cleaned : (b.cleanupMonitoredItemRefs subs.monitoredItemRefs).Exact
        (withoutAll c.Live subs.monitoredItemRefs) := by
      refine Exact.cleanupMonitoredItemRefs ?_ (indexed.toApart.keyed entered emptied)
      exact indexed.exact.congr (by rw [← begun]) (by rw [← begun]) fun _ _ => Iff.rfl
    refine ⟨?_, cleaned.congr rfl rfl fun handle watch => ?_⟩
    · rw [apart_iff] at sound ⊢
      simp only [copies]
      exact sound
    · rw [← indexed.toApart.live_retire entered emptied, live_iff_copyAt, live_iff_copyAt]
      simp [copies]

end SubscriptionCacheInner

/-! ### Runs -/

def CacheCall.KeepsIndex (c : SubscriptionCacheInner E) : CacheCall E → Prop
  | .createSubscription _ _ _ _ id _ => ∀ session subs, c.sessionSubscriptions session = some subs →
    id ∉ subs.subscriptions
  | .createMonitoredItems session subscriptionId _ requests =>
    (requests.map fun request => request.item.id).Nodup ∧
      (∀ request ∈ requests, ∀ watch, ¬ c.Live ⟨subscriptionId, request.item.id⟩ watch) ∧
      ∀ subs sub, c.sessionSubscriptions session = some subs →
        subs.copy subscriptionId = some sub → sub.state ≠ .closed
  | .deleteMonitoredItemRefs session visit items => ∀ subs,
    c.sessionSubscriptions session = some subs → c.Spares
      (reached subs (idsBySubscription items visit))
  | _ => True

namespace SubscriptionCacheInner

theorem indexed_new (limits : SubscriptionLimits E) (maxMonitoredItemsPerSub : ℕ) :
    (new limits maxMonitoredItemsPerSub).Indexed := by
  have none : ∀ handle watch, ¬ (new limits maxMonitoredItemsPerSub).Live handle watch := by
    rintro handle watch ⟨session, subs, entered, -⟩
    cases entered
  refine ⟨⟨nofun, fun first second s t id entered => by cases entered⟩, ?_, nofun, nofun, nofun⟩
  intro key handle enabled
  constructor
  · rintro ⟨handles, entry, found, -⟩
    cases found
  · rintro ⟨watch, alive, -⟩
    exact absurd alive (none handle watch)

variable [DecidableEq E.NodeId] {c d : SubscriptionCacheInner E}

theorem Indexed.step (indexed : c.Indexed) {call : CacheCall E} (keeps : call.KeepsIndex c)
    (stepped : (cacheCalls E).step c call = some d) : d.Indexed := by
  have applied := Machine.failing_step_eq_some.mp stepped
  cases call with
  | createSubscription session userToken request info id nowInstant =>
    cases applied
    exact indexed.createSubscription session userToken request info id nowInstant keeps
  | createMonitoredItems session subscriptionId now requests =>
    cases applied
    exact indexed.createMonitoredItems session subscriptionId now keeps.1 keeps.2.1 keeps.2.2
  | modifyMonitoredItems session subscriptionId now requests euRangeNodeIds =>
    cases applied
    exact indexed.modifyMonitoredItems session subscriptionId now requests euRangeNodeIds
  | setMonitoringMode session subscriptionId mode items =>
    cases applied
    exact indexed.setMonitoringMode session subscriptionId mode items
  | deleteMonitoredItems session subscriptionId items =>
    cases applied
    exact indexed.deleteMonitoredItems session subscriptionId items
  | deleteMonitoredItemRefs session visit items =>
    cases applied
    exact indexed.deleteMonitoredItemRefs session visit items keeps
  | deleteSubscriptions session ids =>
    cases applied
    exact indexed.deleteSubscriptions session ids
  | transfer session key sendInitialValues now ids =>
    cases applied
    exact indexed.transfer session key sendInitialValues now ids
  | timer session o => exact indexed.timer applied
  | serve session op items => exact indexed.serve items applied
  | teardownSession session =>
    cases applied
    exact indexed.teardownSession session

/-- **The indexes name exactly the live items,** in every state of a run of calls that keep them. -/
theorem index_exact {limits : SubscriptionLimits E} {maxMonitoredItemsPerSub : ℕ}
    {calls : List (CacheCall E)}
    (keeps : (cacheCalls E).Guarded (fun c call => call.KeepsIndex c)
      (new limits maxMonitoredItemsPerSub) calls)
    (ran : (cacheCalls E).run (new limits maxMonitoredItemsPerSub) calls = some c) :
    c.Exact c.Live :=
  ((cacheCalls E).run_invariant_of_guarded
    (fun _ _ _ indexed keeps stepped => Indexed.step indexed keeps stepped)
    (indexed_new limits maxMonitoredItemsPerSub) keeps ran).exact

/-! ### Such runs -/

instance : DecidableEq Externals.integers.NodeId := inferInstanceAs (DecidableEq ℕ)

/-- Session 1 creates subscription 1. -/
def createFirst : CacheCall Externals.integers :=
  .createSubscription 1 ⟨"user", .sign, "application"⟩
    { requestedPublishingInterval := (0 : ℤ), requestedLifetimeCount := 30
      requestedMaxKeepAliveCount := 1, maxNotificationsPerPublish := 0
      publishingEnabled := true, priority := 0 } integerLimits 1 0

def onSeven (id : ℕ) : MonitoredItem.CreateMonitoredItem Externals.integers where
  id := id
  itemToMonitor := ⟨(7 : ℕ), 13, none⟩
  monitoringMode := .reporting
  clientHandle := id
  discardOldest := true
  queueSize := 1
  samplingInterval := .zero
  initialValue := none
  statusCode := StatusCode.Good
  filter := .none
  timestampsToReturn := .both
  euRange := none

/-- Session 1 creates an item on node 7, whose deadband is scaled by node 8. -/
def watchSeven : CacheCall Externals.integers :=
  .createMonitoredItems 1 1 0 [⟨onSeven 5, some (8 : ℕ)⟩]

/-- A second item on the node is created, and deleted by its reference; then the first is. -/
def watchedTwice : List (CacheCall Externals.integers) :=
  [createFirst, watchSeven, .createMonitoredItems 1 1 0 [⟨onSeven 6, none⟩],
    .deleteMonitoredItemRefs 1 .upward [⟨1, 6, (7 : ℕ), 13⟩], .deleteMonitoredItems 1 1 [5]]

/-- Session 1 is the only one, and its subscription has these items. -/
def Only (c : SubscriptionCacheInner Externals.integers) (ids : List ℕ) : Prop :=
  ∀ session subs, c.sessionSubscriptions session = some subs → session = 1 ∧
    ∀ sub, subs.copy 1 = some sub → sub.state = .creating ∧ sub.monitoredItems.keys = ids

theorem only_of_update {c : SubscriptionCacheInner Externals.integers} {ids : List ℕ}
    {before : ℕ → Option (SessionSubscriptions Externals.integers)}
    {subs : SessionSubscriptions Externals.integers}
    (others : ∀ other, other ≠ 1 → before other = none)
    (entered : c.sessionSubscriptions = update before 1 (some subs))
    (there : ∀ sub, subs.copy 1 = some sub →
      sub.state = .creating ∧ sub.monitoredItems.keys = ids) :
    Only c ids := by
  intro session found here
  rw [entered] at here
  obtain ⟨rfl, same⟩ | ⟨other, before⟩ := update_eq_some here
  · cases same
    exact ⟨rfl, there⟩
  · rw [others session other] at before
    cases before

theorem Only.creates {c : SubscriptionCacheInner Externals.integers} {ids : List ℕ}
    (only : Only c ids) {id : ℕ} (new : id ∉ ids) (euRangeNodeId : Option ℕ) :
    CacheCall.KeepsIndex c (.createMonitoredItems 1 1 0 [⟨onSeven id, euRangeNodeId⟩]) := by
  refine ⟨List.nodup_singleton _, fun request listed watch alive => ?_,
    fun subs sub entered found => ?_⟩
  · cases mem_singleton.mp listed
    obtain ⟨session, subs, entered, watched⟩ := alive
    obtain ⟨sub, found, watched⟩ := bind_eq_some_iff.mp watched
    refine new (((only session subs entered).2 sub found).2 ▸ ?_)
    obtain ⟨item, member, -⟩ := map_eq_some_iff.mp watched
    exact mem_keys.mp (lookup_isSome.mp (Option.isSome_iff_exists.mpr ⟨item, member⟩))
  · rw [((only 1 subs entered).2 sub found).1]
    decide

theorem index_exact_deleted :
    ∃ c, (cacheCalls _).run (new integerLimits 0) watchedTwice = some c ∧
      c.monitoredItems ⟨(7 : ℕ), 13⟩ = none ∧ c.Exact c.Live := by
  obtain ⟨c, ran, empty⟩ : ∃ c, (cacheCalls _).run (new integerLimits 0) watchedTwice = some c ∧
      c.monitoredItems ⟨(7 : ℕ), 13⟩ = none := ⟨_, rfl, rfl⟩
  have keeps : (cacheCalls _).Guarded (fun c call => call.KeepsIndex c) (new integerLimits 0)
      watchedTwice := by
    refine ⟨(fun _ _ entered => by cases entered), fun b first => ⟨?_, fun c second => ⟨?_,
      fun d third => ⟨?_, fun _ _ => ⟨trivial, fun _ _ => trivial⟩⟩⟩⟩⟩
    · cases Option.some.inj first
      suffices only : Only _ [] from only.creates not_mem_nil _
      refine only_of_update (fun _ _ => rfl) rfl fun sub found => ?_
      cases found
      exact ⟨rfl, rfl⟩
    · cases Option.some.inj first
      cases Option.some.inj second
      suffices only : Only _ [5] from only.creates (by decide) _
      refine only_of_update (fun _ other => update_of_ne other _ _) rfl fun sub found => ?_
      cases found
      exact ⟨rfl, rfl⟩
    · cases Option.some.inj first
      cases Option.some.inj second
      cases Option.some.inj third
      rintro subs entered handle named watch ⟨session, found, there, watched⟩
      cases entered
      have own : session = 1 := by
        by_contra other
        have outside : none = some found := (update_of_ne other _ _).symm.trans
          ((update_of_ne other _ _).symm.trans ((update_of_ne other _ _).symm.trans there))
        cases outside
      subst own
      cases there
      obtain rfl : handle = ⟨1, 6⟩ := mem_singleton.mp named
      cases watched
      refine ⟨fun node names ranged => ?_, ⟨1, 5⟩, _, by decide, ⟨1, _, rfl, rfl⟩, rfl⟩
      -- The second item has been taken out of the registrations when it was created.
      obtain ⟨handles, -, erased⟩ := bind_eq_some_iff.mp ranged
      split_ifs at erased
      cases erased
      exact Finset.notMem_erase _ _
  exact ⟨c, ran, empty, index_exact keeps ran⟩

/-- **A reference that is deleted leaves an empty set and a registration behind.** -/
theorem deleted_ref_left_behind :
    ¬ ∀ (E : Externals) [DecidableEq E.NodeId] (limits : SubscriptionLimits E)
      (maxMonitoredItemsPerSub : ℕ) (calls : List (CacheCall E)) (c : SubscriptionCacheInner E),
      (cacheCalls E).run (new limits maxMonitoredItemsPerSub) calls = some c → c.Exact c.Live := by
  intro always
  obtain ⟨c, ran, left⟩ : ∃ c, (cacheCalls _).run (new integerLimits 0)
      [createFirst, watchSeven, .deleteMonitoredItemRefs 1 .upward [⟨1, 5, (7 : ℕ), 13⟩]] = some c ∧
      c.monitoredItems ⟨(7 : ℕ), 13⟩ = some ∅ := ⟨_, rfl, rfl⟩
  exact (always _ integerLimits 0 _ c ran).full _ _ left rfl

end SubscriptionCacheInner

end AsyncOpcua.Subscriptions
