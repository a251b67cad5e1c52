/-
**Draining the notification ring.**

Values, range changes, events and refreshes wait in a ring. The actor drains it in chunks. An item
counts one, a refresh as many as it has events; a refresh that does not fit goes on in the next
chunk, and the chunk in which it is completed ends with it. The drain ends with a chunk that counts
nothing.

* `drainsRing_iff` — this is so exactly if no refresh without events has anything behind it: at the
  start of a chunk it counts nothing.
-/

import AsyncOpcua.Subscriptions.WatchedItems

namespace AsyncOpcua.Subscriptions

open Types

variable {E : Externals}

/-! ### Who may receive an event -/

structure RolePermissionType (Id : Type) where
  roleId : Id
  permissions : BitVec 32

namespace PermissionType

def receiveEvents : BitVec 32 := 2048#32

end PermissionType

def authorizeWithEnforcement {Id : Type} [BEq Id] (userRoles : List Id)
    (effective : Option (List (RolePermissionType Id))) (required : BitVec 32)
    (enforceRoleBasedAccess : Bool) : Bool :=
  if !enforceRoleBasedAccess then true
  else
    match effective with
    | none => false
    | some rolePermissions =>
      let granted := (rolePermissions.filter fun permission =>
        userRoles.any (· == permission.roleId)).foldl
          (fun granted permission => granted ||| permission.permissions) 0#32
      granted &&& required == required

/-- What the field `SourceNode` of an event holds. -/
inductive SourceField (Id : Type)
  | nodeId (id : Id)
  | expandedNodeId (serverIndex : ℕ) (id : Id)
  | other

/-- **What decides who receives an event:** its source, the permissions that the node managers have
for the source, and the roles of the session. -/
structure EventAccess (E : Externals) where
  sourceField : E.Event → SourceField E.NodeId
  isNull : E.NodeId → Bool
  sourceRolePermissions : E.NodeId → Option (List (RolePermissionType E.NodeId))
  userRoles : List E.NodeId
  enforceRoleBasedAccess : Bool

namespace EventAccess

def eventSourceNode (access : EventAccess E) (event : E.Event) : Option E.NodeId :=
  match access.sourceField event with
  | .nodeId id => if access.isNull id then none else some id
  | .expandedNodeId serverIndex id =>
    if serverIndex = 0 ∧ !access.isNull id then some id else none
  | .other => none

def eventReceiveAllowed [BEq E.NodeId] (access : EventAccess E) (event : E.Event) : Bool :=
  match access.eventSourceNode event with
  | none => true
  | some source =>
    authorizeWithEnforcement access.userRoles (access.sourceRolePermissions source)
      PermissionType.receiveEvents access.enforceRoleBasedAccess

end EventAccess

/-! ### What waits in the ring -/

structure QueuedEvent (E : Externals) where
  event : E.Event
  overflowId : ℕ → List UInt8
  overflowTime : ℕ → ℤ

inductive NotificationWorkItem (E : Externals)
  | data (handle : MonitoredItemHandle) (value : E.DataValue)
  | rangeChanged (handle : MonitoredItemHandle) (low high : E.F64)
  | event (handle : MonitoredItemHandle) (event : QueuedEvent E)
  | refresh (subscriptionId : ℕ) (monitoredItem : Option MonitoredItemHandle)
      (events : List (QueuedEvent E))

structure PendingRefreshDrain (E : Externals) where
  subscriptionId : ℕ
  monitoredItem : Option MonitoredItemHandle
  events : List (QueuedEvent E)
  nextEvent : ℕ

namespace PendingRefreshDrain

def new (subscriptionId : ℕ) (monitoredItem : Option MonitoredItemHandle)
    (events : List (QueuedEvent E)) : PendingRefreshDrain E :=
  ⟨subscriptionId, monitoredItem, events, 0⟩

def remaining (refresh : PendingRefreshDrain E) : ℕ := refresh.events.length - refresh.nextEvent

def isComplete (refresh : PendingRefreshDrain E) : Bool :=
  decide (refresh.events.length ≤ refresh.nextEvent)

end PendingRefreshDrain

structure DrainingActor (E : Externals) where
  subs : SessionSubscriptions E
  ring : List (NotificationWorkItem E)
  pendingRefresh : Option (PendingRefreshDrain E)

namespace Subscription

def notifyQueued (s : Subscription E) (id : ℕ) (event : QueuedEvent E) (typeTree : E.TypeTree) :
    Subscription E :=
  s.notifyEvent id event.event typeTree (event.overflowId id) (event.overflowTime id)

def refreshEvents (s : Subscription E) (monitoredItem : Option MonitoredItemHandle)
    (events : List (QueuedEvent E)) (typeTree : E.TypeTree) :
    Except StatusCode Unit × Subscription E :=
  match monitoredItem with
  | some handle =>
    if handle.subscriptionId ≠ s.id then (.error StatusCode.BadMonitoredItemIdInvalid, s)
    else
      match s.monitoredItems.lookup handle.monitoredItemId with
      | none => (.error StatusCode.BadMonitoredItemIdInvalid, s)
      | some item =>
        if item.isEventItem then
          (.ok (), events.foldl
            (fun s event => s.notifyQueued handle.monitoredItemId event typeTree) s)
        else (.error StatusCode.BadMonitoredItemIdInvalid, s)
  | none =>
    (.ok (), events.foldl
      (fun s event => s.monitoredItems.keys.foldl
        (fun s id => s.notifyItem id fun item =>
          if item.isEventItem then
            item.notifyEvent event.event typeTree (event.overflowId id) (event.overflowTime id)
          else (false, item)) s) s)

end Subscription

/-! ### The drain -/

def ringDrainEventChunk : ℕ := 128

def ringDrainBudget : ℕ := 4096

/-- What a drain is given by its surroundings. -/
structure DrainContext (E : Externals) where
  typeTree : E.TypeTree
  access : EventAccess E

inductive Delivery (E : Externals)
  | data (handle : MonitoredItemHandle) (value : E.DataValue)
  | rangeChanged (handle : MonitoredItemHandle) (low high : E.F64)
  | event (handle : MonitoredItemHandle) (event : QueuedEvent E)
  | refreshed (subscriptionId : ℕ) (monitoredItem : Option MonitoredItemHandle)
      (event : QueuedEvent E)

variable [BEq E.NodeId] (ctx : DrainContext E)

namespace SessionSubscriptions

def deliver (now : ℤ) (s : SessionSubscriptions E) : Delivery E → SessionSubscriptions E
  | .data handle value => s.modifyEntry handle.subscriptionId fun sub =>
      sub.notifyDataValue handle.monitoredItemId value now
  | .rangeChanged handle low high => s.modifyEntry handle.subscriptionId fun sub =>
      sub.notifyEuRangeChanged handle.monitoredItemId low high
  | .event handle event =>
    if ctx.access.eventReceiveAllowed event.event then
      s.modifyEntry handle.subscriptionId fun sub =>
        sub.notifyQueued handle.monitoredItemId event ctx.typeTree
    else s
  | .refreshed subscriptionId monitoredItem event =>
    if ctx.access.eventReceiveAllowed event.event then
      s.modifyEntry subscriptionId fun sub =>
        (sub.refreshEvents monitoredItem [event] ctx.typeTree).2
    else s

def drainPendingRefresh (s : SessionSubscriptions E) (eventLimit : ℕ)
    (refresh : PendingRefreshDrain E) : ℕ × SessionSubscriptions E × PendingRefreshDrain E :=
  let deliverCount := min refresh.remaining eventLimit
  if deliverCount = 0 then (0, s, refresh)
  else
    let events := ((refresh.events.drop refresh.nextEvent).take deliverCount).filter
      fun event => ctx.access.eventReceiveAllowed event.event
    let s :=
      if events.isEmpty then s
      else s.modifyEntry refresh.subscriptionId fun sub =>
        (sub.refreshEvents refresh.monitoredItem events ctx.typeTree).2
    (deliverCount, s, { refresh with nextEvent := refresh.nextEvent + deliverCount })

def drainItems (now : ℤ) (eventChunk : ℕ) : List (NotificationWorkItem E) → ℕ →
    SessionSubscriptions E → Option (PendingRefreshDrain E) → ℕ × DrainingActor E
  | ring, processed, s, some refresh =>
    if processed < eventChunk then
      let (count, s, refresh) := s.drainPendingRefresh ctx (eventChunk - processed) refresh
      (processed + count, ⟨s, ring, some refresh⟩)
    else (processed, ⟨s, ring, some refresh⟩)
  | [], processed, s, none => (processed, ⟨s, [], none⟩)
  | item :: ring, processed, s, none =>
    if processed < eventChunk then
      match item with
      | .data handle value =>
        drainItems now eventChunk ring (processed + 1) (s.deliver ctx now (.data handle value)) none
      | .rangeChanged handle low high =>
        drainItems now eventChunk ring (processed + 1)
          (s.deliver ctx now (.rangeChanged handle low high)) none
      | .event handle event =>
        drainItems now eventChunk ring (processed + 1) (s.deliver ctx now (.event handle event))
          none
      | .refresh subscriptionId monitoredItem events =>
        let (count, s, refresh) := s.drainPendingRefresh ctx (eventChunk - processed)
          (.new subscriptionId monitoredItem events)
        drainItems now eventChunk ring (processed + count) s (some refresh)
    else (processed, ⟨s, item :: ring, none⟩)

end SessionSubscriptions

namespace DrainingActor

/-- A completed refresh is dropped. -/
def settle (actor : DrainingActor E) : DrainingActor E :=
  if actor.pendingRefresh.any PendingRefreshDrain.isComplete then
    { actor with pendingRefresh := none }
  else actor

/-- **`drain_ring`,** for a number of chunks: the actor afterwards, or `none` if there are more.
`clock` is what the chunks read on the clock. -/
def drainRing (clock : ℕ → ℤ) (eventChunk : ℕ) : ℕ → ℕ → ℕ → DrainingActor E →
    Option (DrainingActor E)
  | 0, _, _, _ => none
  | chunks + 1, chunk, processed, actor =>
    let processed := if ringDrainBudget ≤ processed then 0 else processed
    let (drained, actor) := SessionSubscriptions.drainItems ctx (clock chunk) eventChunk
      actor.ring 0 actor.subs actor.pendingRefresh
    let actor := actor.settle
    if drained = 0 then some actor
    else drainRing clock eventChunk chunks (chunk + 1) (processed + drained) actor

end DrainingActor

/-! ### A refresh in parts -/

namespace MonitoredItem

omit [BEq E.NodeId]

theorem notifyEvent_isEventItem (item : MonitoredItem E) (event : E.Event) (typeTree : E.TypeTree)
    (overflowId : List UInt8) (now : ℤ) :
    (item.notifyEvent event typeTree overflowId now).2.isEventItem = item.isEventItem := by
  unfold notifyEvent
  by_cases disabled : item.monitoringMode = .disabled
  · rw [if_pos disabled]
  · rw [if_neg disabled]
    split
    · split
      · rfl
      · dsimp only
        obtain ⟨queue, flag, same⟩ := enqueueNotification_frame _ _
        rw [same]
        split <;> rfl
    · rfl

end MonitoredItem

namespace Subscription

omit [BEq E.NodeId]

variable {s : Subscription E} {handle : MonitoredItemHandle}

def Refreshes (s : Subscription E) (handle : MonitoredItemHandle) : Prop :=
  handle.subscriptionId = s.id ∧
    ∃ item, s.monitoredItems.lookup handle.monitoredItemId = some item ∧ item.isEventItem = true

theorem refreshEvents_of_refreshes (refreshes : s.Refreshes handle) (events : List (QueuedEvent E))
    (typeTree : E.TypeTree) :
    (s.refreshEvents (some handle) events typeTree).2 =
      events.foldl (fun s event => s.notifyQueued handle.monitoredItemId event typeTree) s := by
  obtain ⟨own, item, found, takes⟩ := refreshes
  simp [refreshEvents, own, found, takes]

theorem refreshEvents_of_not_refreshes (refused : ¬ s.Refreshes handle)
    (events : List (QueuedEvent E)) (typeTree : E.TypeTree) :
    (s.refreshEvents (some handle) events typeTree).2 = s := by
  unfold refreshEvents
  dsimp only
  split_ifs with other
  · rfl
  · split
    · rfl
    · split_ifs with takes
      · exact absurd ⟨not_not.mp other, _, ‹_›, takes⟩ refused
      · rfl

theorem Refreshes.notify (refreshes : s.Refreshes handle) (event : QueuedEvent E)
    (typeTree : E.TypeTree) :
    (s.notifyQueued handle.monitoredItemId event typeTree).Refreshes handle := by
  obtain ⟨own, item, found, takes⟩ := refreshes
  have same : (s.notifyQueued handle.monitoredItemId event typeTree).id = s.id :=
    congrArg Control.id (s.notifyItem_control _ _)
  refine ⟨own.trans same.symm, _, ?_, (item.notifyEvent_isEventItem event.event typeTree
    (event.overflowId handle.monitoredItemId)
    (event.overflowTime handle.monitoredItemId)).trans takes⟩
  unfold notifyQueued notifyEvent notifyItem
  rw [found]
  exact AList.lookup_insert _

theorem refreshEvents_cons (s : Subscription E) (monitoredItem : Option MonitoredItemHandle)
    (event : QueuedEvent E) (events : List (QueuedEvent E)) (typeTree : E.TypeTree) :
    (s.refreshEvents monitoredItem (event :: events) typeTree).2 =
      ((s.refreshEvents monitoredItem [event] typeTree).2.refreshEvents monitoredItem events
        typeTree).2 := by
  cases monitoredItem with
  | none => rfl
  | some handle =>
    by_cases refreshes : s.Refreshes handle
    · rw [refreshEvents_of_refreshes refreshes, refreshEvents_of_refreshes refreshes]
      exact (refreshEvents_of_refreshes (refreshes.notify event typeTree) events typeTree).symm
    · rw [refreshEvents_of_not_refreshes refreshes, refreshEvents_of_not_refreshes refreshes,
        refreshEvents_of_not_refreshes refreshes]

end Subscription

open List

namespace SessionSubscriptions

omit [BEq E.NodeId] in
theorem modifyEntry_modifyEntry (s : SessionSubscriptions E) (id : ℕ)
    (first second : Subscription E → Subscription E) :
    (s.modifyEntry id first).modifyEntry id second =
      s.modifyEntry id fun sub => second (first sub) := by
  cases found : s.subscriptions.lookup id with
  | none | some => simp [modifyEntry, found]

omit [BEq E.NodeId] in
theorem modifyEntry_refreshEvents (s : SessionSubscriptions E) (id : ℕ)
    (monitoredItem : Option MonitoredItemHandle) {events : List (QueuedEvent E)}
    (typeTree : E.TypeTree) (some_event : events ≠ []) :
    (s.modifyEntry id fun sub => (sub.refreshEvents monitoredItem events typeTree).2) =
      events.foldl (fun s event => s.modifyEntry id fun sub =>
        (sub.refreshEvents monitoredItem [event] typeTree).2) s := by
  induction events generalizing s with
  | nil => exact absurd rfl some_event
  | cons event events ih =>
    cases events with
    | nil => rfl
    | cons next events =>
      rw [foldl_cons, ← ih _ (cons_ne_nil _ _), modifyEntry_modifyEntry]
      congr 1
      funext sub
      exact sub.refreshEvents_cons monitoredItem event _ typeTree

theorem refresh_eq_deliver (now : ℤ) (s : SessionSubscriptions E) (id : ℕ)
    (monitoredItem : Option MonitoredItemHandle) (events : List (QueuedEvent E)) :
    (if (events.filter fun event => ctx.access.eventReceiveAllowed event.event).isEmpty then s
      else s.modifyEntry id fun sub => (sub.refreshEvents monitoredItem
        (events.filter fun event => ctx.access.eventReceiveAllowed event.event) ctx.typeTree).2) =
      (events.map (Delivery.refreshed id monitoredItem)).foldl (deliver ctx now) s := by
  rw [foldl_map]
  show _ = events.foldl (fun s event => if ctx.access.eventReceiveAllowed event.event then
    s.modifyEntry id fun sub => (sub.refreshEvents monitoredItem [event] ctx.typeTree).2 else s) s
  rw [← foldl_filter]
  cases allowed : events.filter fun event => ctx.access.eventReceiveAllowed event.event with
  | nil => rfl
  | cons event rest => exact s.modifyEntry_refreshEvents id monitoredItem _ (cons_ne_nil _ _)

end SessionSubscriptions

/-! ### What waits -/

namespace PendingRefreshDrain

omit [BEq E.NodeId]

def deliveries (refresh : PendingRefreshDrain E) : List (Delivery E) :=
  (refresh.events.drop refresh.nextEvent).map
    (Delivery.refreshed refresh.subscriptionId refresh.monitoredItem)

end PendingRefreshDrain

def NotificationWorkItem.deliveries : NotificationWorkItem E → List (Delivery E)
  | .data handle value => [.data handle value]
  | .rangeChanged handle low high => [.rangeChanged handle low high]
  | .event handle queued => [.event handle queued]
  | .refresh subscriptionId monitoredItem events =>
    events.map (.refreshed subscriptionId monitoredItem)

def waiting (pending : Option (PendingRefreshDrain E)) (ring : List (NotificationWorkItem E)) :
    List (Delivery E) :=
  pending.elim [] PendingRefreshDrain.deliveries ++ ring.flatMap NotificationWorkItem.deliveries

namespace SessionSubscriptions

theorem drainPendingRefresh_spec (now : ℤ) {s t : SessionSubscriptions E} {eventLimit count : ℕ}
    {refresh after : PendingRefreshDrain E}
    (drained : s.drainPendingRefresh ctx eventLimit refresh = (count, t, after)) :
    count = min refresh.remaining eventLimit ∧
      ∃ done, done.length = count ∧ refresh.deliveries = done ++ after.deliveries ∧
        t = done.foldl (deliver ctx now) s := by
  unfold drainPendingRefresh at drained
  by_cases none : min refresh.remaining eventLimit = 0
  · rw [if_pos none] at drained
    cases drained
    exact ⟨none.symm, [], rfl, rfl, rfl⟩
  · rw [if_neg none] at drained
    cases drained
    refine ⟨rfl, ((refresh.events.drop refresh.nextEvent).take
      (min refresh.remaining eventLimit)).map
        (Delivery.refreshed refresh.subscriptionId refresh.monitoredItem), ?_, ?_,
      refresh_eq_deliver ctx now s _ _ _⟩
    · rw [length_map, length_take, length_drop]
      exact min_eq_left (min_le_left _ _)
    · show _ = _ ++ (refresh.events.drop (refresh.nextEvent + _)).map _
      rw [← map_append, ← drop_drop, take_append_drop]
      rfl

theorem drainItems_pending (now : ℤ) (eventChunk : ℕ) (ring : List (NotificationWorkItem E))
    (processed : ℕ) (s : SessionSubscriptions E) (refresh : PendingRefreshDrain E) :
    drainItems ctx now eventChunk ring processed s (some refresh) =
      if processed < eventChunk then
        let (count, s, refresh) := s.drainPendingRefresh ctx (eventChunk - processed) refresh
        (processed + count, ⟨s, ring, some refresh⟩)
      else (processed, ⟨s, ring, some refresh⟩) := by
  cases ring <;> rfl

/-- A refresh without events counts nothing, and ends the chunk. -/
theorem drainItems_empty_refresh (now : ℤ) {eventChunk : ℕ} (positive : 0 < eventChunk)
    (ring : List (NotificationWorkItem E)) (s : SessionSubscriptions E) (subscriptionId : ℕ)
    (monitoredItem : Option MonitoredItemHandle) :
    drainItems ctx now eventChunk (.refresh subscriptionId monitoredItem [] :: ring) 0 s none =
      (0, ⟨s, ring, some (.new subscriptionId monitoredItem [])⟩) := by
  have nothing : ∀ limit, s.drainPendingRefresh ctx limit (.new subscriptionId monitoredItem []) =
      (0, s, .new subscriptionId monitoredItem []) := by
    intro limit
    rw [drainPendingRefresh]
    exact if_pos (Nat.zero_min limit)
  rw [drainItems, if_pos positive, nothing]
  dsimp only
  rw [drainItems_pending, if_pos positive, nothing]

/-- A chunk of one takes one item, or one event of a refresh. -/
theorem drainItems_one (now : ℤ) {item : NotificationWorkItem E}
    (ring : List (NotificationWorkItem E)) (s : SessionSubscriptions E)
    (counts : ∀ subscriptionId monitoredItem, item ≠ .refresh subscriptionId monitoredItem []) :
    ∃ t after, drainItems ctx now 1 (item :: ring) 0 s none = (1, ⟨t, ring, after⟩) := by
  have stops : ∀ t after, drainItems ctx now 1 ring 1 t after = (1, ⟨t, ring, after⟩) := by
    intro t after
    cases after with
    | some refresh =>
      rw [drainItems_pending]
      exact if_neg (lt_irrefl 1)
    | none =>
      cases ring with
      | nil => rfl
      | cons item ring => cases item <;> exact if_neg (lt_irrefl 1)
  cases item with
  | data | rangeChanged | event => exact ⟨_, _, stops _ _⟩
  | refresh subscriptionId monitoredItem events =>
    cases events with
    | nil => exact absurd rfl (counts subscriptionId monitoredItem)
    | cons event events =>
      cases drain : s.drainPendingRefresh ctx (1 - 0)
        (.new subscriptionId monitoredItem (event :: events)) with
      | mk delivered rest =>
        obtain ⟨counted, -⟩ := drainPendingRefresh_spec ctx now drain
        have one : delivered = 1 := counted.trans (min_eq_right (Nat.succ_pos _))
        refine ⟨rest.1, some rest.2, ?_⟩
        rw [drainItems, if_pos Nat.one_pos, drain, one]
        exact stops _ _

variable {ctx}

structure Delivers (ctx : DrainContext E) (now : ℤ) (s : SessionSubscriptions E)
    (pending : Option (PendingRefreshDrain E)) (ring : List (NotificationWorkItem E)) (number : ℕ)
    (actor : DrainingActor E) : Prop where
  suffix : actor.ring <:+ ring
  first : ∃ done, done.length = number ∧
    waiting pending ring = done ++ waiting actor.pendingRefresh actor.ring ∧
      actor.subs = done.foldl (deliver ctx now) s

section Delivers

variable {now : ℤ} {s : SessionSubscriptions E} {pending next : Option (PendingRefreshDrain E)}
  {item : NotificationWorkItem E} {ring : List (NotificationWorkItem E)} {number : ℕ}
  {actor : DrainingActor E}

theorem Delivers.none (ring : List (NotificationWorkItem E)) :
    Delivers ctx now s pending ring 0 ⟨s, ring, pending⟩ :=
  ⟨suffix_rfl, [], rfl, rfl, rfl⟩

theorem Delivers.cons {done : List (Delivery E)}
    (rest : Delivers ctx now (done.foldl (deliver ctx now) s) next ring number actor)
    (split : waiting pending (item :: ring) = done ++ waiting next ring) :
    Delivers ctx now s pending (item :: ring) (done.length + number) actor := by
  obtain ⟨suffix, later, length, splits, applied⟩ := rest
  refine ⟨suffix.trans (suffix_cons _ _), done ++ later, ?_, ?_, ?_⟩
  · rw [length_append, length]
  · rw [split, splits, append_assoc]
  · rw [applied, foldl_append]

variable {eventChunk processed count : ℕ}

theorem drainItems_pending_spec {refresh : PendingRefreshDrain E}
    (drained : drainItems ctx now eventChunk ring processed s (some refresh) = (count, actor)) :
    count = processed + min refresh.remaining (eventChunk - processed) ∧
      Delivers ctx now s (some refresh) ring (min refresh.remaining (eventChunk - processed))
        actor := by
  rw [drainItems_pending] at drained
  split_ifs at drained with below
  · cases drain : s.drainPendingRefresh ctx (eventChunk - processed) refresh with
    | mk delivered rest =>
      obtain ⟨number, done, length, split, applied⟩ := drainPendingRefresh_spec ctx now drain
      rw [drain] at drained
      cases drained
      refine ⟨by rw [number], suffix_rfl, done, length.trans number, ?_, applied⟩
      show refresh.deliveries ++ _ = done ++ (rest.2.deliveries ++ _)
      rw [split, append_assoc]
  · cases drained
    rw [Nat.sub_eq_zero_of_le (not_lt.mp below), Nat.min_zero]
    exact ⟨rfl, .none ring⟩

theorem drainItems_spec
    (drained : drainItems ctx now eventChunk ring processed s pending = (count, actor)) :
    ∃ number, count = processed + number ∧ Delivers ctx now s pending ring number actor := by
  induction ring generalizing processed s pending with
  | nil =>
    cases pending with
    | some refresh => exact ⟨_, drainItems_pending_spec drained⟩
    | none =>
      cases drained
      exact ⟨0, rfl, .none []⟩
  | cons item ring ih =>
    cases pending with
    | some refresh => exact ⟨_, drainItems_pending_spec drained⟩
    | none =>
      by_cases below : processed < eventChunk
      · -- An item that is not a refresh is one delivery.
        have single : ∀ delivery, item.deliveries = [delivery] →
            drainItems ctx now eventChunk ring (processed + 1) (s.deliver ctx now delivery) none =
              (count, actor) →
            ∃ number, count = processed + number ∧
              Delivers ctx now s none (item :: ring) number actor := by
          intro delivery alone rest
          obtain ⟨number, counted, delivers⟩ := ih rest
          have delivers : Delivers ctx now ([delivery].foldl (deliver ctx now) s) none ring number
            actor := delivers
          refine ⟨1 + number, by omega, delivers.cons ?_⟩
          rw [waiting, flatMap_cons, alone]
          rfl
        cases item with
        | data handle value =>
          rw [drainItems, if_pos below] at drained
          exact single _ rfl drained
        | rangeChanged handle low high =>
          rw [drainItems, if_pos below] at drained
          exact single _ rfl drained
        | event handle queued =>
          rw [drainItems, if_pos below] at drained
          exact single _ rfl drained
        | refresh subscriptionId monitoredItem events =>
          rw [drainItems, if_pos below] at drained
          cases drain : s.drainPendingRefresh ctx (eventChunk - processed)
            (.new subscriptionId monitoredItem events) with
          | mk delivered rest =>
            obtain ⟨-, done, length, split, applied⟩ := drainPendingRefresh_spec ctx now drain
            rw [drain] at drained
            obtain ⟨number, counted, delivers⟩ := ih drained
            rw [applied] at delivers
            refine ⟨done.length + number, by omega, delivers.cons ?_⟩
            show _ ++ _ = done ++ (rest.2.deliveries ++ _)
            rw [← append_assoc, ← split]
            rfl
      · have same : drainItems ctx now eventChunk (item :: ring) processed s none =
            (processed, ⟨s, item :: ring, none⟩) := by
          cases item <;> rw [drainItems, if_neg below]
        rw [same] at drained
        cases drained
        exact ⟨0, rfl, .none _⟩

end Delivers

end SessionSubscriptions

/-! ### Chunks that count nothing -/

/-- **No refresh without events has anything behind it.** -/
def Unblocked (ring : List (NotificationWorkItem E)) : Prop :=
  ∀ before subscriptionId monitoredItem after,
    ring = before ++ .refresh subscriptionId monitoredItem [] :: after → after = []

omit [BEq E.NodeId] in
theorem Unblocked.of_suffix {ring rest : List (NotificationWorkItem E)} (unblocked : Unblocked ring)
    (suffix : rest <:+ ring) : Unblocked rest := by
  obtain ⟨front, rfl⟩ := suffix
  intro before subscriptionId monitoredItem after split
  exact unblocked (front ++ before) subscriptionId monitoredItem after
    (by rw [split, append_assoc])

variable {ring : List (NotificationWorkItem E)}

omit [BEq E.NodeId] in
theorem Unblocked.cons (unblocked : Unblocked ring) {item : NotificationWorkItem E}
    (passes : ∀ subscriptionId monitoredItem,
      item = .refresh subscriptionId monitoredItem [] → ring = []) : Unblocked (item :: ring) := by
  intro before subscriptionId monitoredItem after split
  cases before with
  | nil =>
    obtain ⟨rfl, rfl⟩ := cons.inj split
    exact passes _ _ rfl
  | cons first before => exact unblocked before _ _ after (cons.inj split).2

namespace DrainingActor

open SessionSubscriptions (drainItems drainItems_spec drainItems_pending drainItems_pending_spec
  drainItems_empty_refresh drainItems_one drainPendingRefresh_spec deliver Delivers)

def Open (actor : DrainingActor E) : Prop :=
  ∀ refresh, actor.pendingRefresh = some refresh → 0 < refresh.remaining

omit [BEq E.NodeId] in
/-- **Dropping a completed refresh** changes nothing that waits. -/
theorem settle_spec (actor : DrainingActor E) :
    actor.settle.ring = actor.ring ∧ actor.settle.subs = actor.subs ∧
      waiting actor.settle.pendingRefresh actor.ring = waiting actor.pendingRefresh actor.ring ∧
        actor.settle.Open := by
  obtain ⟨subs, ring, pending⟩ := actor
  cases pending with
  | none => exact ⟨rfl, rfl, rfl, nofun⟩
  | some refresh =>
    by_cases complete : refresh.events.length ≤ refresh.nextEvent
    · have drops : (⟨subs, ring, some refresh⟩ : DrainingActor E).settle = ⟨subs, ring, none⟩ :=
        if_pos (decide_eq_true complete)
      rw [drops]
      refine ⟨rfl, rfl, ?_, nofun⟩
      show _ = refresh.deliveries ++ _
      rw [PendingRefreshDrain.deliveries, drop_eq_nil_of_le complete]
      rfl
    · have keeps : (⟨subs, ring, some refresh⟩ : DrainingActor E).settle =
          ⟨subs, ring, some refresh⟩ := if_neg fun drops => complete (of_decide_eq_true drops)
      rw [keeps]
      refine ⟨rfl, rfl, rfl, fun other same => ?_⟩
      cases same
      exact Nat.sub_pos_of_lt (not_le.mp complete)

variable {ctx} {now : ℤ} {eventChunk : ℕ} {actor next : DrainingActor E}

theorem settled_of_counts_nothing (positive : 0 < eventChunk) (opened : actor.Open)
    (unblocked : Unblocked actor.ring)
    (drained : drainItems ctx now eventChunk actor.ring 0 actor.subs
      actor.pendingRefresh = (0, next)) :
    next.settle.ring = [] ∧ next.settle.pendingRefresh = none := by
  obtain ⟨subs, ring, pending⟩ := actor
  cases pending with
  | some refresh =>
    obtain ⟨counted, -⟩ := drainItems_pending_spec drained
    have remains := opened refresh rfl
    omega
  | none =>
    cases ring with
    | nil =>
      cases drained
      exact ⟨rfl, rfl⟩
    | cons item ring =>
      -- Every item but a refresh without events counts.
      have counts : ∀ {t : SessionSubscriptions E} {after : Option (PendingRefreshDrain E)}
          {count : ℕ}, 0 < count →
          drainItems ctx now eventChunk ring count t after ≠ (0, next) := by
        intro t after count some rest
        obtain ⟨number, counted, -⟩ := drainItems_spec rest
        omega
      cases item with
      | data handle value =>
        rw [drainItems, if_pos positive] at drained
        exact absurd drained (counts (Nat.succ_pos 0))
      | rangeChanged handle low high =>
        rw [drainItems, if_pos positive] at drained
        exact absurd drained (counts (Nat.succ_pos 0))
      | event handle queued =>
        rw [drainItems, if_pos positive] at drained
        exact absurd drained (counts (Nat.succ_pos 0))
      | refresh subscriptionId monitoredItem events =>
        cases events with
        | nil =>
          obtain rfl : ring = [] := unblocked [] subscriptionId monitoredItem ring rfl
          rw [drainItems_empty_refresh ctx now positive] at drained
          cases drained
          exact ⟨rfl, rfl⟩
        | cons event events =>
          cases drain : subs.drainPendingRefresh ctx (eventChunk - 0)
            (.new subscriptionId monitoredItem (event :: events)) with
          | mk delivered rest =>
            obtain ⟨counted, -⟩ := drainPendingRefresh_spec ctx now drain
            have remains : 0 < (PendingRefreshDrain.new subscriptionId monitoredItem
              (event :: events)).remaining := Nat.succ_pos _
            rw [drainItems, if_pos positive, drain] at drained
            exact absurd drained (counts (by omega))

/-! ### Whole drains -/

def delivered (ctx : DrainContext E) (s : SessionSubscriptions E) (deliveries : List (Delivery E))
    (readings : List ℤ) : SessionSubscriptions E :=
  (deliveries.zip readings).foldl (fun s entry => s.deliver ctx entry.2 entry.1) s

theorem delivered_replicate (s : SessionSubscriptions E) (deliveries : List (Delivery E))
    (now : ℤ) : delivered ctx s deliveries (replicate deliveries.length now) =
      deliveries.foldl (deliver ctx now) s := by
  induction deliveries generalizing s with
  | nil => rfl
  | cons delivery deliveries ih => exact ih (s.deliver ctx now delivery)

theorem delivered_append (s : SessionSubscriptions E) {first : List (Delivery E)}
    (rest : List (Delivery E)) {early : List ℤ} (late : List ℤ)
    (length : first.length = early.length) :
    delivered ctx s (first ++ rest) (early ++ late) =
      delivered ctx (delivered ctx s first early) rest late := by
  rw [delivered, zip_append length, foldl_append]
  rfl

/-- **What a drain should leave:** nothing waits, and everything that waited is delivered once and
in order, each at a reading of the clock. -/
structure Drained (ctx : DrainContext E) (clock : ℕ → ℤ) (actor result : DrainingActor E) :
    Prop where
  ring_empty : result.ring = []
  no_refresh : result.pendingRefresh = none
  applied : ∃ readings : List ℤ,
    readings.length = (waiting actor.pendingRefresh actor.ring).length ∧
      (∀ now ∈ readings, ∃ chunk, now = clock chunk) ∧
        result.subs = delivered ctx actor.subs (waiting actor.pendingRefresh actor.ring) readings

variable {clock : ℕ → ℤ}

variable {chunk : ℕ} {result : DrainingActor E}

theorem Drained.of_rest {number : ℕ}
    (delivers : Delivers ctx (clock chunk) actor.subs actor.pendingRefresh actor.ring number next)
    (drained : Drained ctx clock next.settle result) : Drained ctx clock actor result := by
  obtain ⟨ring, subs, waits, -⟩ := next.settle_spec
  obtain ⟨-, done, -, split, applied⟩ := delivers
  obtain ⟨readings, length, read, last⟩ := drained.applied
  rw [ring, waits] at length last
  refine ⟨drained.ring_empty, drained.no_refresh,
    replicate done.length (clock chunk) ++ readings, ?_, fun now member => ?_, ?_⟩
  · rw [split, length_append, length_append, length_replicate, length]
  · rcases mem_append.mp member with early | late
    · exact ⟨chunk, eq_of_mem_replicate early⟩
    · exact read now late
  · rw [split, delivered_append _ _ _ (length_replicate ..).symm, delivered_replicate,
      ← applied, ← subs]
    exact last

variable {chunks : ℕ}

theorem drainRing_drained (positive : 0 < eventChunk) {processed : ℕ} (opened : actor.Open)
    (unblocked : Unblocked actor.ring)
    (returned : drainRing ctx clock eventChunk chunks chunk processed actor = some result) :
    Drained ctx clock actor result := by
  induction chunks generalizing chunk processed actor with
  | zero => cases returned
  | succ chunks ih =>
    unfold drainRing at returned
    cases drained : drainItems ctx (clock chunk) eventChunk actor.ring 0 actor.subs
      actor.pendingRefresh with
    | mk count next =>
      obtain ⟨number, counted, delivers⟩ := drainItems_spec drained
      obtain ⟨ring, -, -, nextOpen⟩ := next.settle_spec
      rw [drained] at returned
      dsimp only at returned
      refine .of_rest delivers ?_
      by_cases nothing : count = 0
      · rw [if_pos nothing] at returned
        cases returned
        subst nothing
        obtain ⟨empty, none⟩ := settled_of_counts_nothing positive opened unblocked drained
        refine ⟨empty, none, [], ?_, nofun, ?_⟩
        · rw [empty, none]
          rfl
        · rw [delivered, zip_nil_right]
          rfl
      · rw [if_neg nothing] at returned
        exact ih nextOpen (unblocked.of_suffix (ring ▸ delivers.suffix)) returned

theorem drainRing_returns (actor : DrainingActor E) (chunk processed : ℕ)
    (many : (waiting actor.pendingRefresh actor.ring).length < chunks) :
    ∃ result, drainRing ctx clock eventChunk chunks chunk processed actor = some result := by
  induction chunks generalizing chunk processed actor with
  | zero => omega
  | succ chunks ih =>
    unfold drainRing
    cases drained : drainItems ctx (clock chunk) eventChunk actor.ring 0 actor.subs
      actor.pendingRefresh with
    | mk count next =>
      obtain ⟨number, counted, -, done, length, split, -⟩ := drainItems_spec drained
      obtain ⟨ring, -, waits, -⟩ := next.settle_spec
      dsimp only
      by_cases nothing : count = 0
      · rw [if_pos nothing]
        exact ⟨_, rfl⟩
      · rw [if_neg nothing]
        refine ih next.settle _ _ ?_
        have longer := congrArg List.length split
        rw [length_append] at longer
        rw [ring, waits]
        omega

/-- **A refresh without events holds up what is behind it,** in chunks of one. -/
theorem blocked_left {processed : ℕ} (opened : actor.Open) (blocked : ¬ Unblocked actor.ring)
    (returned : drainRing ctx clock 1 chunks chunk processed actor = some result) :
    result.ring ≠ [] := by
  induction chunks generalizing chunk processed actor with
  | zero => cases returned
  | succ chunks ih =>
    unfold drainRing at returned
    -- Another chunk, with the same ring or with one item less.
    have onward : ∀ {count : ℕ} {next : DrainingActor E},
        drainItems ctx (clock chunk) 1 actor.ring 0 actor.subs
          actor.pendingRefresh = (count, next) → count ≠ 0 → ¬ Unblocked next.ring →
        result.ring ≠ [] := by
      intro count next drained some still
      obtain ⟨ring, -, -, nextOpen⟩ := next.settle_spec
      rw [drained] at returned
      dsimp only at returned
      rw [if_neg some] at returned
      exact ih nextOpen (ring ▸ still) returned
    obtain ⟨subs, ring, pending⟩ := actor
    cases pending with
    | some refresh =>
      cases drained : drainItems ctx (clock chunk) 1 ring 0 subs (some refresh) with
      | mk count next =>
        have remains := opened refresh rfl
        obtain ⟨counted, -⟩ := drainItems_pending_spec drained
        have kept : next.ring = ring := by
          rw [drainItems_pending, if_pos Nat.one_pos] at drained
          cases drained
          rfl
        exact onward drained (by omega) (kept ▸ blocked)
    | none =>
      cases ring with
      | nil => exact absurd (fun before _ _ after split => by simp at split) blocked
      | cons item ring =>
        by_cases empty : ∃ id monitoredItem, item = .refresh id monitoredItem []
        · obtain ⟨id, monitoredItem, rfl⟩ := empty
          rw [drainItems_empty_refresh ctx (clock chunk) Nat.one_pos] at returned
          cases returned
          rintro rfl
          refine blocked (Unblocked.cons (fun before _ _ after split => by simp at split) ?_)
          exact fun _ _ _ => rfl
        · have still : ¬ Unblocked ring := fun unblocked => blocked (unblocked.cons
            fun id monitoredItem same => absurd ⟨id, monitoredItem, same⟩ empty)
          obtain ⟨t, after, drained⟩ := drainItems_one ctx (clock chunk) ring subs
            fun id monitoredItem same => empty ⟨id, monitoredItem, same⟩
          exact onward drained Nat.one_ne_zero still

/-! ### The drain of the actor -/

structure DrainsRing (ctx : DrainContext E) (s : SessionSubscriptions E)
    (ring : List (NotificationWorkItem E)) : Prop where
  complete : ∀ {eventChunk : ℕ}, 0 < eventChunk → ∀ clock, ∃ chunks result,
    drainRing ctx clock eventChunk chunks 0 0 ⟨s, ring, none⟩ = some result ∧
      Drained ctx clock ⟨s, ring, none⟩ result
  same : ∀ {first second : ℕ}, 0 < first → 0 < second → ∀ (now : ℤ) {chunks chunks' : ℕ}
    {result result' : DrainingActor E},
    drainRing ctx (fun _ => now) first chunks 0 0 ⟨s, ring, none⟩ = some result →
      drainRing ctx (fun _ => now) second chunks' 0 0 ⟨s, ring, none⟩ = some result' →
        result.subs = result'.subs

theorem Drained.subs_eq {s : SessionSubscriptions E}
    (drained : Drained ctx (fun _ => now) ⟨s, ring, none⟩ result) :
    result.subs = (waiting none ring).foldl (deliver ctx now) s := by
  obtain ⟨readings, length, read, applied⟩ := drained.applied
  have constant : readings = replicate (waiting none ring).length now :=
    eq_replicate_iff.mpr ⟨length, fun reading member => (read reading member).choose_spec⟩
  rw [applied, constant, delivered_replicate]

/-- **Draining is complete and independent of the chunks** exactly if nothing is behind a refresh
without events. -/
theorem drainsRing_iff (ctx : DrainContext E) (s : SessionSubscriptions E)
    (ring : List (NotificationWorkItem E)) : DrainsRing ctx s ring ↔ Unblocked ring := by
  have opened : (⟨s, ring, none⟩ : DrainingActor E).Open := nofun
  constructor
  · intro drains
    by_contra blocked
    obtain ⟨chunks, result, returned, drained⟩ := drains.complete Nat.one_pos fun _ => 0
    exact blocked_left opened blocked returned drained.ring_empty
  · intro unblocked
    refine ⟨fun {eventChunk} positive clock => ?_, fun {first second} some some' now _ _ _ _
      returned returned' => ?_⟩
    · obtain ⟨result, returned⟩ : ∃ result,
          drainRing ctx clock eventChunk _ 0 0 ⟨s, ring, none⟩ = some result :=
        drainRing_returns ⟨s, ring, none⟩ 0 0 (Nat.lt_succ_self _)
      exact ⟨_, result, returned, drainRing_drained positive opened unblocked returned⟩
    · rw [(drainRing_drained some opened unblocked returned).subs_eq,
        (drainRing_drained some' opened unblocked returned').subs_eq]

/-! ### A ring with an empty refresh -/

/-- All may receive everything. -/
def openAccess : DrainContext Externals.integers where
  typeTree := ()
  access :=
    { sourceField := fun _ => .other, isNull := fun _ => false
      sourceRolePermissions := fun _ => none, userRoles := [], enforceRoleBasedAccess := false }

instance : BEq Externals.integers.NodeId := inferInstanceAs (BEq ℕ)

/-- **A value behind an empty refresh is left in the ring,** in the chunks that the actor uses. -/
theorem value_left_in_ring : ¬ DrainsRing openAccess integerSession
    [.refresh 1 none [], .data ⟨1, 1⟩ (integerValue 5 0)] := by
  intro drains
  obtain ⟨chunks, result, returned, drained⟩ := drains.complete
    (show 0 < ringDrainEventChunk from Nat.succ_pos _) fun _ => 0
  cases chunks with
  | zero => cases returned
  | succ chunks =>
    cases returned
    cases drained.ring_empty

end DrainingActor

end AsyncOpcua.Subscriptions
