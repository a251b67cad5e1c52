/-
**Indexes that name exactly the items that there are.**
-/

import AsyncOpcua.Subscriptions.ItemServices

namespace AsyncOpcua.Subscriptions

open Types Foundation List Option AList SessionSubscriptions Or

variable {E : Externals}

open Function

namespace SubscriptionCacheInner

/-! ### What the maps stand for -/

/-- **The maps stand for the watched items:** a handle is under the key of its item and no other,
with the flag of its mode; a handle registered for an EU range is one of an item; no set is empty.
-/
structure Exact (c : SubscriptionCacheInner E) (live : MonitoredItemHandle → Watch E → Prop) :
    Prop where
  routes : ∀ key handle enabled,
    (∃ handles entry, c.monitoredItems key = some handles ∧ handles.lookup handle = some entry ∧
      entry.enabled = enabled) ↔
    ∃ watch, live handle watch ∧ watch.key = key ∧ watch.enabled = enabled
  scales : ∀ node handles handle, c.euRangeMonitoredItems node = some handles → handle ∈ handles →
    ∃ watch, live handle watch
  full : ∀ key handles, c.monitoredItems key = some handles → handles.keys ≠ []
  fullRanges : ∀ node handles, c.euRangeMonitoredItems node = some handles → handles ≠ ∅

variable {c d : SubscriptionCacheInner E} {live : MonitoredItemHandle → Watch E → Prop}

theorem Exact.congr (exact : c.Exact live) {other : MonitoredItemHandle → Watch E → Prop}
    (items : d.monitoredItems = c.monitoredItems)
    (ranges : d.euRangeMonitoredItems = c.euRangeMonitoredItems)
    (same : ∀ handle watch, other handle watch ↔ live handle watch) : d.Exact other := by
  have equal : other = live := funext fun handle => funext fun watch => propext (same handle watch)
  rw [equal]
  refine ⟨?_, ?_, ?_, ?_⟩
  · rw [items]
    exact exact.routes
  · rw [ranges]
    exact exact.scales
  · rw [items]
    exact exact.full
  · rw [ranges]
    exact exact.fullRanges

variable {handle : MonitoredItemHandle}

theorem keys_ne_nil {handles : HandleMap E} {entry : MonitoredItemEntry E}
    (found : handles.lookup handle = some entry) : handles.keys ≠ [] := by
  intro none
  have there : handle ∈ handles := by
    rw [← lookup_isSome, found]
    rfl
  rw [AList.mem_keys, none] at there
  cases there

/-! ### Updating the maps -/

theorem Exact.removeEuRangeRegistration (exact : c.Exact live) (handle : MonitoredItemHandle) :
    (c.removeEuRangeRegistration handle).Exact live ∧
      ∀ node handles, (c.removeEuRangeRegistration handle).euRangeMonitoredItems node =
        some handles → handle ∉ handles := by
  have left : ∀ node handles, (c.removeEuRangeRegistration handle).euRangeMonitoredItems node =
      some handles → ∃ before, c.euRangeMonitoredItems node = some before ∧
        handles = before.erase handle ∧ handles ≠ ∅ := by
    intro node handles found
    obtain ⟨before, there, kept⟩ := bind_eq_some_iff.mp found
    split_ifs at kept with none
    cases kept
    exact ⟨before, there, rfl, none⟩
  refine ⟨⟨exact.routes, ?_, exact.full, ?_⟩, ?_⟩
  · intro node handles other found listed
    obtain ⟨before, there, rfl, -⟩ := left node handles found
    exact exact.scales node before other there (Finset.mem_of_mem_erase listed)
  · intro node handles found
    obtain ⟨-, -, -, some⟩ := left node handles found
    exact some
  · intro node handles found
    obtain ⟨before, -, rfl, -⟩ := left node handles found
    exact Finset.notMem_erase handle before

variable [DecidableEq E.NodeId]

theorem insertEntry_monitoredItems (c : SubscriptionCacheInner E) (key : MonitoredItemKey E)
    (handle : MonitoredItemHandle) (entry : MonitoredItemEntry E) (other : MonitoredItemKey E) :
    (c.insertEntry key handle entry).monitoredItems other =
      if other = key then some (((c.monitoredItems key).getD ∅).insert handle entry)
      else c.monitoredItems other :=
  update_apply ..

theorem Exact.replaceEuRangeRegistration (exact : c.Exact live) {watch : Watch E}
    (there : live handle watch) (euRangeNodeId : Option E.NodeId) :
    (c.replaceEuRangeRegistration handle euRangeNodeId).Exact live := by
  obtain ⟨removed, -⟩ := exact.removeEuRangeRegistration handle
  unfold SubscriptionCacheInner.replaceEuRangeRegistration
  split
  · exact removed
  · rename_i node
    refine ⟨removed.routes, ?_, removed.full, ?_⟩
    · intro other handles name found listed
      obtain ⟨rfl, ⟨⟩⟩ | ⟨-, found⟩ := update_eq_some found
      · obtain rfl | earlier := Finset.mem_insert.mp listed
        · exact ⟨watch, there⟩
        · cases before : (c.removeEuRangeRegistration handle).euRangeMonitoredItems other with
          | none =>
            rw [before] at earlier
            exact absurd earlier (Finset.notMem_empty name)
          | some names =>
            rw [before] at earlier
            exact removed.scales other names name before earlier
      · exact removed.scales other handles name found listed
    · intro other handles found
      obtain ⟨-, ⟨⟩⟩ | ⟨-, found⟩ := update_eq_some found
      · exact Finset.insert_ne_empty handle _
      · exact removed.fullRanges other handles found

/-- The relation with one pair more. -/
def adding (live : MonitoredItemHandle → Watch E → Prop) (handle : MonitoredItemHandle)
    (watch : Watch E) : MonitoredItemHandle → Watch E → Prop :=
  fun name seen => live name seen ∨ name = handle ∧ seen = watch

theorem Exact.insertEntry (exact : c.Exact live) (handle : MonitoredItemHandle) (watch : Watch E)
    (unused : ∀ watch, ¬ live handle watch) (indexRange : Option E.NumericRange) :
    (c.insertEntry watch.key handle ⟨watch.enabled, indexRange⟩).Exact
      (adding live handle watch) := by
  refine ⟨?_, ?_, ?_, exact.fullRanges⟩
  · intro key name enabled
    have before := exact.routes key name enabled
    by_cases same : key = watch.key
    · subst same
      constructor
      · rintro ⟨handles, entry, found, listed, flag⟩
        rw [insertEntry_monitoredItems, if_pos rfl, some.injEq] at found
        subst found
        by_cases own : name = handle
        · rw [own, lookup_insert, some.injEq] at listed
          subst listed
          exact ⟨watch, inr ⟨own, rfl⟩, rfl, flag⟩
        · rw [lookup_insert_ne own] at listed
          cases there : c.monitoredItems watch.key with
          | none =>
            rw [there] at listed
            cases listed
          | some handles =>
            rw [there] at listed
            obtain ⟨seen, alive, keyed, flagged⟩ := before.mp ⟨handles, entry, there, listed, flag⟩
            exact ⟨seen, inl alive, keyed, flagged⟩
      · rintro ⟨seen, alive | ⟨rfl, rfl⟩, keyed, flagged⟩
        · obtain ⟨handles, entry, found, listed, flag⟩ := before.mpr ⟨seen, alive, keyed, flagged⟩
          have own : name ≠ handle := by
            rintro rfl
            exact unused seen alive
          refine ⟨_, entry, by rw [insertEntry_monitoredItems, if_pos rfl], ?_, flag⟩
          rw [found, lookup_insert_ne own]
          exact listed
        · exact ⟨_, _, by rw [insertEntry_monitoredItems, if_pos rfl], lookup_insert _, flagged⟩
    · rw [insertEntry_monitoredItems, if_neg same, before]
      constructor
      · rintro ⟨seen, alive, keyed, flagged⟩
        exact ⟨seen, inl alive, keyed, flagged⟩
      · rintro ⟨seen, alive | ⟨-, rfl⟩, keyed, flagged⟩
        · exact ⟨seen, alive, keyed, flagged⟩
        · exact absurd keyed.symm same
  · intro node handles name found listed
    obtain ⟨seen, alive⟩ := exact.scales node handles name found listed
    exact ⟨seen, inl alive⟩
  · intro key handles found
    rw [insertEntry_monitoredItems] at found
    split_ifs at found
    · cases found
      exact keys_ne_nil (lookup_insert _)
    · exact exact.full key handles found

def without (live : MonitoredItemHandle → Watch E → Prop) (handle : MonitoredItemHandle) :
    MonitoredItemHandle → Watch E → Prop :=
  fun name seen => live name seen ∧ name ≠ handle

variable {ref : MonitoredItemRef E}

theorem Exact.erase_routes (exact : c.Exact live)
    (keyed : ∀ watch, live ref.handle watch → watch.key = ref.key) (key : MonitoredItemKey E)
    (name : MonitoredItemHandle) (enabled : Bool) :
    (∃ handles entry, c.monitoredItems key = some handles ∧
        (if key = ref.key then handles.erase ref.handle else handles).lookup name = some entry ∧
        entry.enabled = enabled) ↔
      ∃ watch, without live ref.handle name watch ∧ watch.key = key ∧ watch.enabled = enabled := by
  have before := exact.routes key name enabled
  by_cases own : name = ref.handle
  · subst own
    constructor
    · rintro ⟨handles, entry, found, listed, flag⟩
      split_ifs at listed with same
      · rw [lookup_erase] at listed
        cases listed
      · obtain ⟨watch, alive, at_, -⟩ := before.mp ⟨handles, entry, found, listed, flag⟩
        exact absurd (at_.symm.trans (keyed watch alive)) same
    · rintro ⟨watch, ⟨-, apart⟩, -⟩
      exact absurd rfl apart
  · have unmoved : ∀ handles : HandleMap E,
        (if key = ref.key then handles.erase ref.handle else handles).lookup name =
          handles.lookup name := by
      intro handles
      split_ifs
      · exact lookup_erase_ne own
      · rfl
    simp only [unmoved]
    rw [before]
    constructor
    · rintro ⟨watch, alive, rest⟩
      exact ⟨watch, ⟨alive, own⟩, rest⟩
    · rintro ⟨watch, ⟨alive, -⟩, rest⟩
      exact ⟨watch, alive, rest⟩

section

variable (c : SubscriptionCacheInner E) (ref : MonitoredItemRef E)

theorem removeHandle_monitoredItems (key : MonitoredItemKey E) :
    (c.removeHandle ref).monitoredItems key =
      (c.monitoredItems key).map fun handles =>
        if key = ref.key then handles.erase ref.handle else handles := by
  unfold removeHandle
  cases found : c.monitoredItems ref.key with
  | none =>
    by_cases same : key = ref.key
    · rw [same, found]
      rfl
    · simp [same]
  | some handles =>
    dsimp only
    rw [update_apply]
    by_cases same : key = ref.key
    · rw [if_pos same, same, found, map_some, if_pos rfl]
    · simp [same]

theorem cleanupMonitoredItemRef_monitoredItems (key : MonitoredItemKey E) :
    (c.cleanupMonitoredItemRef ref).monitoredItems key =
      (c.monitoredItems key).bind fun handles =>
        if key = ref.key then
          if (handles.erase ref.handle).keys.isEmpty then none else some (handles.erase ref.handle)
        else some handles := by
  have same_map : (c.removeEuRangeRegistration ref.handle).monitoredItems = c.monitoredItems := rfl
  unfold cleanupMonitoredItemRef
  dsimp only
  rw [same_map]
  cases found : c.monitoredItems ref.key with
  | none =>
    by_cases same : key = ref.key
    · rw [same_map, same, found]
      rfl
    · simp [same, same_map]
  | some handles =>
    dsimp only
    rw [update_apply]
    by_cases same : key = ref.key
    · rw [if_pos same, same, found, bind_some, if_pos rfl]
    · simp [same]

theorem cleanupMonitoredItemRef_euRanges :
    (c.cleanupMonitoredItemRef ref).euRangeMonitoredItems =
      (c.removeEuRangeRegistration ref.handle).euRangeMonitoredItems := by
  unfold cleanupMonitoredItemRef
  dsimp only
  split <;> rfl

end

theorem Exact.cleanupMonitoredItemRef (exact : c.Exact live)
    (keyed : ∀ watch, live ref.handle watch → watch.key = ref.key) :
    (c.cleanupMonitoredItemRef ref).Exact (without live ref.handle) := by
  obtain ⟨removed, forgotten⟩ := exact.removeEuRangeRegistration ref.handle
  refine ⟨?_, ?_, ?_, ?_⟩
  · intro key name enabled
    rw [← exact.erase_routes keyed, cleanupMonitoredItemRef_monitoredItems]
    constructor
    · rintro ⟨handles, entry, found, listed, flag⟩
      obtain ⟨before, there, kept⟩ := bind_eq_some_iff.mp found
      refine ⟨before, entry, there, ?_, flag⟩
      split_ifs at kept ⊢
      · cases kept
        exact listed
      · cases kept
        exact listed
    · rintro ⟨before, entry, there, listed, flag⟩
      refine ⟨_, entry, bind_eq_some_iff.mpr ⟨before, there, ?_⟩, listed, flag⟩
      split_ifs at listed ⊢ with same none
      · exact absurd (isEmpty_iff.mp none) (keys_ne_nil listed)
      · rfl
      · rfl
  · intro node handles name found listed
    rw [cleanupMonitoredItemRef_euRanges] at found
    obtain ⟨watch, alive⟩ := removed.scales node handles name found listed
    refine ⟨watch, alive, ?_⟩
    rintro rfl
    exact forgotten node handles found listed
  · intro key handles found
    rw [cleanupMonitoredItemRef_monitoredItems] at found
    obtain ⟨before, there, kept⟩ := bind_eq_some_iff.mp found
    split_ifs at kept with same none
    · cases kept
      exact fun empty => none (isEmpty_iff.mpr empty)
    · cases kept
      exact exact.full key _ there
  · intro node handles found
    rw [cleanupMonitoredItemRef_euRanges] at found
    exact removed.fullRanges node handles found

/-- The relation without the handles of some references. -/
def withoutAll (live : MonitoredItemHandle → Watch E → Prop) (refs : List (MonitoredItemRef E)) :
    MonitoredItemHandle → Watch E → Prop :=
  fun name seen => live name seen ∧ ∀ ref ∈ refs, name ≠ ref.handle

variable {refs : List (MonitoredItemRef E)} {live : MonitoredItemHandle → Watch E → Prop}
  {c : SubscriptionCacheInner E}

theorem Exact.cleanupMonitoredItemRefs (exact : c.Exact live)
    (keyed : ∀ ref ∈ refs, ∀ watch, live ref.handle watch → watch.key = ref.key) :
    (c.cleanupMonitoredItemRefs refs).Exact (withoutAll live refs) := by
  induction refs generalizing c live with
  | nil =>
    refine exact.congr rfl rfl fun handle watch => ⟨fun alive => alive.1, fun alive => ⟨alive, ?_⟩⟩
    exact fun _ listed => absurd listed not_mem_nil
  | cons ref rest ih =>
    have first := exact.cleanupMonitoredItemRef (keyed ref mem_cons_self)
    have later := ih first fun other listed watch alive =>
      keyed other (mem_cons_of_mem ref listed) watch alive.1
    refine later.congr rfl rfl fun handle watch => ?_
    unfold withoutAll without
    rw [forall_mem_cons, and_assoc]

/-- **`delete_monitored_item_refs` forgets an item** that is not the last one under its key and is
registered for no EU range. -/
theorem Exact.removeHandle (exact : c.Exact live)
    (keyed : ∀ watch, live ref.handle watch → watch.key = ref.key)
    (others : ∃ name watch, name ≠ ref.handle ∧ live name watch ∧ watch.key = ref.key)
    (unscaled : ∀ node handles, c.euRangeMonitoredItems node = some handles →
      ref.handle ∉ handles) :
    (c.removeHandle ref).Exact (without live ref.handle) := by
  have ranges : (c.removeHandle ref).euRangeMonitoredItems = c.euRangeMonitoredItems := by
    unfold SubscriptionCacheInner.removeHandle
    split <;> rfl
  have routes := fun key name enabled => exact.erase_routes keyed key name enabled
  refine ⟨?_, ?_, ?_, ?_⟩
  · intro key name enabled
    rw [← routes, removeHandle_monitoredItems]
    constructor
    · rintro ⟨handles, entry, found, listed, flag⟩
      obtain ⟨before, there, rfl⟩ := map_eq_some_iff.mp found
      exact ⟨before, entry, there, listed, flag⟩
    · rintro ⟨before, entry, there, listed, flag⟩
      exact ⟨_, entry, map_eq_some_iff.mpr ⟨before, there, rfl⟩, listed, flag⟩
  · intro node handles name found listed
    rw [ranges] at found
    obtain ⟨watch, alive⟩ := exact.scales node handles name found listed
    refine ⟨watch, alive, ?_⟩
    rintro rfl
    exact unscaled node handles found listed
  · intro key handles found
    rw [removeHandle_monitoredItems] at found
    obtain ⟨before, there, rfl⟩ := map_eq_some_iff.mp found
    split_ifs with same
    · obtain ⟨name, watch, apart, alive, keyed'⟩ := others
      obtain ⟨handles, entry, found', listed, -⟩ :=
        (routes key name watch.enabled).mpr ⟨watch, ⟨alive, apart⟩, keyed'.trans same.symm, rfl⟩
      rw [there, some.injEq] at found'
      subst found'
      rw [if_pos same] at listed
      exact keys_ne_nil listed
    · exact exact.full key before there
  · rw [ranges]
    exact exact.fullRanges

def withMode (live : MonitoredItemHandle → Watch E → Prop) (mode : MonitoringMode)
    (handle : MonitoredItemHandle) : MonitoredItemHandle → Watch E → Prop :=
  fun name seen => ∃ watch, live name watch ∧
    seen = if name = handle then Subscription.inMode mode watch else watch

theorem enable_monitoredItems (c : SubscriptionCacheInner E) (mode : MonitoringMode)
    (ref : MonitoredItemRef E) (key : MonitoredItemKey E) :
    ((c.enable mode ref).monitoredItems key = none ↔ c.monitoredItems key = none) ∧
      ∀ handles, c.monitoredItems key = some handles →
        ∃ after, (c.enable mode ref).monitoredItems key = some after ∧ ∀ name,
          after.lookup name = if key = ref.key ∧ name = ref.handle then
              (handles.lookup name).map fun entry =>
                { entry with enabled := decide (mode ≠ .disabled) }
            else handles.lookup name := by
  unfold enable
  cases found : c.monitoredItems ref.key with
  | none =>
    refine ⟨Iff.rfl, fun handles there => ⟨handles, there, fun name => ?_⟩⟩
    rw [if_neg]
    rintro ⟨rfl, -⟩
    rw [found] at there
    cases there
  | some handles =>
    dsimp only
    cases listed : handles.lookup ref.handle with
    | none =>
      refine ⟨Iff.rfl, fun other there => ⟨other, there, fun name => ?_⟩⟩
      split_ifs with same
      · obtain ⟨rfl, rfl⟩ := same
        rw [found, some.injEq] at there
        rw [← there, listed]
        rfl
      · rfl
    | some entry =>
      dsimp only
      by_cases same : key = ref.key
      · subst same
        rw [update_self, found]
        refine ⟨by simp, fun other there => ⟨_, rfl, fun name => ?_⟩⟩
        cases there
        by_cases own : name = ref.handle
        · rw [own, lookup_insert, if_pos ⟨rfl, rfl⟩, listed]
          rfl
        · rw [lookup_insert_ne own, if_neg fun both => own both.2]
      · rw [update_of_ne same]
        refine ⟨Iff.rfl, fun other there => ⟨other, there, fun name => ?_⟩⟩
        rw [if_neg fun both => same both.1]

theorem Exact.enable (exact : c.Exact live) (mode : MonitoringMode)
    (keyed : ∀ watch, live ref.handle watch → watch.key = ref.key) :
    (c.enable mode ref).Exact (withMode live mode ref.handle) := by
  have ranges : (c.enable mode ref).euRangeMonitoredItems = c.euRangeMonitoredItems := by
    unfold SubscriptionCacheInner.enable
    split
    · rfl
    · split <;> rfl
  have at_ := fun key => c.enable_monitoredItems mode ref key
  -- Where the map has handles afterwards, it had some before.
  have was : ∀ key after, (c.enable mode ref).monitoredItems key = some after →
      ∃ handles, c.monitoredItems key = some handles := by
    intro key after there
    refine ne_none_iff_exists'.mp fun none => ?_
    rw [(at_ key).1.mpr none] at there
    cases there
  refine ⟨?_, ?_, ?_, ?_⟩
  · intro key name enabled
    constructor
    · rintro ⟨after, entry, found, listed, flag⟩
      obtain ⟨handles, there⟩ := was key after found
      obtain ⟨after', found', lookups⟩ := (at_ key).2 handles there
      rw [found', some.injEq] at found
      subst found
      rw [lookups name] at listed
      split_ifs at listed with both
      · obtain ⟨before, entered, rfl⟩ := map_eq_some_iff.mp listed
        obtain ⟨watch, alive, key', -⟩ :=
          (exact.routes key name before.enabled).mp ⟨handles, before, there, entered, rfl⟩
        refine ⟨_, ⟨watch, alive, rfl⟩, ?_, ?_⟩
        · rw [if_pos both.2]
          exact key'
        · rw [if_pos both.2]
          exact flag
      · obtain ⟨watch, alive, key', flagged⟩ :=
          (exact.routes key name enabled).mp ⟨handles, entry, there, listed, flag⟩
        have apart : name ≠ ref.handle := by
          rintro rfl
          exact both ⟨key'.symm.trans (keyed watch alive), rfl⟩
        refine ⟨watch, ⟨watch, alive, ?_⟩, key', flagged⟩
        rw [if_neg apart]
    · rintro ⟨_, ⟨watch, alive, rfl⟩, key', flagged⟩
      have keeps : watch.key = key := by
        rw [← key']
        split_ifs <;> rfl
      obtain ⟨handles, entry, there, listed, flag⟩ :=
        (exact.routes key name watch.enabled).mpr ⟨watch, alive, keeps, rfl⟩
      obtain ⟨after, found, lookups⟩ := (at_ key).2 handles there
      by_cases own : name = ref.handle
      · subst own
        have same : key = ref.key := keeps.symm.trans (keyed watch alive)
        refine ⟨after, { entry with enabled := decide (mode ≠ .disabled) }, found, ?_, ?_⟩
        · rw [lookups, if_pos ⟨same, rfl⟩, listed, map_some]
        · rw [if_pos rfl] at flagged
          exact flagged
      · rw [if_neg own] at flagged
        refine ⟨after, entry, found, ?_, flag.trans flagged⟩
        rw [lookups, if_neg fun both => own both.2]
        exact listed
  · intro node handles name found listed
    rw [ranges] at found
    obtain ⟨watch, alive⟩ := exact.scales node handles name found listed
    exact ⟨_, watch, alive, rfl⟩
  · intro key after found
    obtain ⟨handles, there⟩ := was key after found
    obtain ⟨after', found', lookups⟩ := (at_ key).2 handles there
    rw [found', some.injEq] at found
    subst found
    obtain ⟨name, there'⟩ := exists_mem_of_ne_nil _ (exact.full key handles there)
    rw [← AList.mem_keys, ← AList.lookup_isSome] at there'
    obtain ⟨entry, listed⟩ := isSome_iff_exists.mp there'
    by_cases both : key = ref.key ∧ name = ref.handle
    · exact keys_ne_nil (by rw [lookups, if_pos both, listed]; rfl)
    · exact keys_ne_nil (by rw [lookups, if_neg both]; exact listed)
  · rw [ranges]
    exact exact.fullRanges

/-! ### The items of the sessions -/

variable {session : ℕ} {subs after : SessionSubscriptions E}

section

omit [DecidableEq E.NodeId]

variable (c) in
def Live (handle : MonitoredItemHandle) (watch : Watch E) : Prop :=
  ∃ session subs, c.sessionSubscriptions session = some subs ∧ subs.watch handle = some watch

variable (c) in
structure Apart : Prop where
  housed : ∀ session subs, c.sessionSubscriptions session = some subs → subs.Housed
  apart : ∀ first second s t id, c.sessionSubscriptions first = some s →
    c.sessionSubscriptions second = some t → id ∈ s.subscriptions → id ∈ t.subscriptions →
    first = second

variable (c) in
structure Indexed : Prop extends Apart c where
  exact : c.Exact c.Live

theorem Apart.indexed (sound : c.Apart) (same : d.sessionSubscriptions = c.sessionSubscriptions)
    (exact : d.Exact c.Live) : d.Indexed :=
  ⟨⟨same ▸ sound.housed, same ▸ sound.apart⟩, exact.congr rfl rfl fun _ _ => by
    rw [Live, same, Live]⟩

theorem Apart.one (sound : c.Apart) {first second : Watch E} (one : c.Live handle first)
    (two : c.Live handle second) : first = second := by
  obtain ⟨a, s, entered, watched⟩ := one
  obtain ⟨b, t, entered', watched'⟩ := two
  obtain rfl := sound.apart a b s t handle.subscriptionId entered entered'
    (mem_of_watch watched) (mem_of_watch watched')
  rw [entered, some.injEq] at entered'
  rw [← entered', watched, some.injEq] at watched'
  exact watched'

theorem setSession_of_ne (c : SubscriptionCacheInner E) {session other : ℕ}
    (apart : other ≠ session)
    (subs : SessionSubscriptions E) :
    (c.setSession session subs).sessionSubscriptions other = c.sessionSubscriptions other :=
  update_of_ne apart _ _

theorem setSession_self (c : SubscriptionCacheInner E) (session : ℕ)
    (subs : SessionSubscriptions E) :
    (c.setSession session subs).sessionSubscriptions session = some subs :=
  update_self ..

theorem Apart.setSession (sound : c.Apart) (housed : after.Housed)
    (new : ∀ id ∈ after.subscriptions, ∀ other s, other ≠ session →
      c.sessionSubscriptions other = some s → id ∉ s.subscriptions) :
    (c.setSession session after).Apart := by
  refine ⟨fun other s entered => ?_, fun first second s t id entered entered' there there' => ?_⟩
  · obtain ⟨-, ⟨⟩⟩ | ⟨-, entered⟩ := update_eq_some entered
    · exact housed
    · exact sound.housed other s entered
  · obtain ⟨rfl, ⟨⟩⟩ | ⟨own, before⟩ := update_eq_some entered
    · obtain ⟨rfl, -⟩ | ⟨own', entered'⟩ := update_eq_some entered'
      · rfl
      · exact absurd there' (new id there second t own' entered')
    · obtain ⟨rfl, ⟨⟩⟩ | ⟨-, entered'⟩ := update_eq_some entered'
      · exact absurd there (new id there' first s own before)
      · exact sound.apart first second s t id before entered' there there'

section

variable (sound : c.Apart) (entered : c.sessionSubscriptions session = some subs)
include sound entered

theorem Apart.of_subs (housed : after.Housed)
    (kept : ∀ id ∈ after.subscriptions, id ∈ subs.subscriptions) :
    (c.setSession session after).Apart := by
  refine sound.setSession housed fun id there other s apart entered' there' => apart ?_
  exact sound.apart other session s subs id entered' entered there' (kept id there)

theorem Apart.live_retire (retires : subs.Retires refs after) (handle : MonitoredItemHandle)
    (watch : Watch E) :
    (c.setSession session after).Live handle watch ↔ withoutAll c.Live refs handle watch := by
  constructor
  · rintro ⟨other, s, entered', watched⟩
    obtain ⟨rfl, ⟨⟩⟩ | ⟨own, entered'⟩ := update_eq_some entered'
    · refine ⟨⟨other, subs, entered, retires.kept handle watch watched⟩, ?_⟩
      rintro ref listed rfl
      rw [retires.dead ref listed] at watched
      cases watched
    · refine ⟨⟨other, s, entered', watched⟩, ?_⟩
      rintro ref listed rfl
      obtain ⟨named, there, -⟩ := retires.named ref listed
      exact own (sound.apart other session s subs _ entered' entered
        (mem_of_watch watched) (mem_of_watch there))
  · rintro ⟨⟨other, s, entered', watched⟩, kept⟩
    by_cases own : other = session
    · subst own
      rw [entered, some.injEq] at entered'
      subst entered'
      obtain still | ⟨ref, listed, same⟩ := retires.gone handle watch watched
      · exact ⟨other, after, setSession_self .., still⟩
      · exact absurd same.symm (kept ref listed)
    · exact ⟨other, s, by rw [c.setSession_of_ne own]; exact entered', watched⟩

theorem Apart.keyed (retires : subs.Retires refs after) :
    ∀ ref ∈ refs, ∀ watch, c.Live ref.handle watch → watch.key = ref.key := by
  intro ref listed watch alive
  obtain ⟨named, there, key⟩ := retires.named ref listed
  rw [sound.one alive ⟨session, subs, entered, there⟩]
  exact key

end

/-! ### Calls -/

theorem Indexed.congr (indexed : c.Indexed) (sessions : d.sessionSubscriptions =
      c.sessionSubscriptions) (items : d.monitoredItems = c.monitoredItems)
    (ranges : d.euRangeMonitoredItems = c.euRangeMonitoredItems) : d.Indexed :=
  indexed.toApart.indexed sessions (indexed.exact.congr items ranges fun _ _ => Iff.rfl)

end

theorem cleanupMonitoredItemRefs_sessions (refs : List (MonitoredItemRef E))
    (c : SubscriptionCacheInner E) :
    (c.cleanupMonitoredItemRefs refs).sessionSubscriptions = c.sessionSubscriptions := by
  have one : ∀ (c : SubscriptionCacheInner E) (ref : MonitoredItemRef E),
      (c.cleanupMonitoredItemRef ref).sessionSubscriptions = c.sessionSubscriptions := by
    intro c ref
    unfold cleanupMonitoredItemRef
    dsimp only
    split <;> rfl
  induction refs generalizing c with
  | nil => rfl
  | cons ref rest ih => exact (ih _).trans (one c ref)

theorem cleanupRemovedSubscriptions_sessions (removed : List (RemovedSubscription E))
    (c : SubscriptionCacheInner E) :
    (c.cleanupRemovedSubscriptions removed).sessionSubscriptions = c.sessionSubscriptions := by
  induction removed generalizing c with
  | nil => rfl
  | cons first rest ih => exact (ih _).trans (cleanupMonitoredItemRefs_sessions _ _)

theorem cleanupRemovedSubscriptions_maps (removed : List (RemovedSubscription E))
    (exact : c.Exact live) (keyed : ∀ ref ∈ refsOf removed, ∀ watch,
      live ref.handle watch → watch.key = ref.key) :
    (c.cleanupRemovedSubscriptions removed).Exact
      (withoutAll live (refsOf removed)) := by
  induction removed generalizing c live with
  | nil =>
    refine exact.congr rfl rfl fun handle watch => ?_
    exact ⟨fun alive => alive.1, fun alive => ⟨alive, fun _ none => absurd none not_mem_nil⟩⟩
  | cons first rest ih =>
    have split : refsOf (first :: rest) =
        first.monitoredItems ++ refsOf rest := flatMap_cons
    rw [split] at keyed ⊢
    have unindexed : Exact { c with
        subscriptionToSession := Function.update c.subscriptionToSession first.id none } live :=
      exact.congr rfl rfl fun _ _ => Iff.rfl
    have cleaned : (c.cleanupRemovedSubscription first).Exact
        (withoutAll live first.monitoredItems) :=
      unindexed.cleanupMonitoredItemRefs fun ref listed =>
        keyed ref (mem_append_left _ listed)
    have later := ih cleaned
      fun ref listed watch alive => keyed ref (mem_append_right _ listed) watch alive.1
    refine later.congr rfl rfl fun handle watch => ?_
    unfold withoutAll
    simp [or_imp, forall_and, and_assoc]

section

variable (indexed : c.Indexed) (entered : c.sessionSubscriptions session = some subs)
include indexed entered

omit [DecidableEq E.NodeId] in
/-- Indexes that forget what a session retires are exact for what is left. -/
theorem Indexed.retiring {d : SubscriptionCacheInner E} (retires : subs.Retires refs after)
    (housed : after.Housed) (cleaned : d.Exact (withoutAll c.Live refs))
    (sessions : d.sessionSubscriptions = (c.setSession session after).sessionSubscriptions) :
    d.Indexed := by
  refine (indexed.toApart.of_subs entered housed retires.subs).indexed sessions
    (cleaned.congr rfl rfl fun handle watch => ?_)
  rw [← indexed.toApart.live_retire entered retires]

theorem Indexed.retire (retires : subs.Retires refs after) (housed : after.Housed) :
    ((c.setSession session after).cleanupMonitoredItemRefs refs).Indexed :=
  indexed.retiring entered retires housed
    ((indexed.exact.congr (d := c.setSession session after) rfl rfl fun _ _ => Iff.rfl
      ).cleanupMonitoredItemRefs (indexed.toApart.keyed entered retires))
    (cleanupMonitoredItemRefs_sessions refs _)

theorem Indexed.retire_removed {removed : List (RemovedSubscription E)}
    (retires : subs.Retires (refsOf removed) after) (housed : after.Housed) :
    ((c.setSession session after).cleanupRemovedSubscriptions removed).Indexed :=
  indexed.retiring entered retires housed
    (cleanupRemovedSubscriptions_maps removed (indexed.exact.congr rfl rfl fun _ _ => Iff.rfl)
      (indexed.toApart.keyed entered retires))
    (cleanupRemovedSubscriptions_sessions removed _)

omit [DecidableEq E.NodeId] in
theorem Indexed.watching (watching : subs.Watching after) :
    (c.setSession session after).Indexed := by
  refine ⟨indexed.toApart.of_subs entered watching.2 watching.1.subs, ?_⟩
  refine indexed.exact.congr rfl rfl fun handle watch => ?_
  rw [indexed.toApart.live_retire entered watching.1]
  exact ⟨fun alive => alive.1, fun alive => ⟨alive, fun _ none => absurd none not_mem_nil⟩⟩

end

end SubscriptionCacheInner

end AsyncOpcua.Subscriptions
