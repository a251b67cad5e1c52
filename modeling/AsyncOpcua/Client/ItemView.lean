/-
**Two maps that follow the items of a server.**

Of one subscription this looks at the handle of each id, the id of each handle, the handles of the
items that live on the server, and the calls in progress.

* `Tracks.begin`, `served`, `finish`, `release`, `delete` — what a step does to that, each under the
  condition that it needs.
-/

import AsyncOpcua.Client.PreInsert

namespace AsyncOpcua.Client

variable {T : ClientTypes}

open List Or PreInsertMonitoredItems Foundation

namespace ItemCall

/-- The temporary ids that wait for the server, with their handles. -/
def waits : ItemCall T → List (ℕ × UInt32)
  | .create items _ => items.map fun item => (item.1, item.2.clientHandle)
  | _ => []

/-- The temporary ids that are to go, and whether their items were created. -/
def clears : ItemCall T → List (ℕ × Bool)
  | .finished ids => ids
  | _ => []

/-- All temporary ids of the call. -/
def temps (call : ItemCall T) : List ℕ := call.waits.map Prod.fst ++ call.clears.map Prod.fst

def made : ItemCall T → List (ℕ × UInt32 × UInt32)
  | .create items (some results) => (created items results).map fun item =>
    (item.1.1, item.1.2.clientHandle, item.2.monitoredItemId)
  | _ => []

def deletes : ItemCall T → List UInt32
  | .delete ids _ => ids
  | _ => []

def deleted : ItemCall T → List UInt32
  | .delete ids (some _) => ids
  | _ => []

section

variable (items : List (ℕ × MonitoredItemCreateRequest T))

theorem temps_create (results : Option (List (MonitoredItemCreateResult T))) :
    (create items results).temps = items.map Prod.fst := by
  show (items.map fun item => (item.1, item.2.clientHandle)).map Prod.fst ++ [] = _
  rw [append_nil, map_map]
  rfl

theorem flags_fst (results : List (MonitoredItemCreateResult T)) :
    (flags items results).map Prod.fst = items.map Prod.fst := by
  induction items generalizing results with
  | nil => simp [flags]
  | cons item items ih =>
    cases results with
    | nil => simp [flags]
    | cons result results => exact congrArg (item.1 :: ·) (ih results)

theorem flag_iff (results : List (MonitoredItemCreateResult T)) (t : ℕ) :
    (t, true) ∈ flags items results ↔
      ∃ handle id, (t, handle, id) ∈ (create items (some results)).made := by
  have late : (t, true) ∉ (items.drop results.length).map fun item => (item.1, false) := by
    intro here
    obtain ⟨item, -, same⟩ := mem_map.mp here
    cases same
  rw [flags, mem_append, or_iff_left late, mem_map]
  constructor
  · rintro ⟨item, here, same⟩
    rw [Prod.mk.injEq] at same
    refine ⟨item.1.2.clientHandle, item.2.monitoredItemId, mem_map.mpr ⟨item, ?_, ?_⟩⟩
    · exact mem_filter.mpr ⟨here, same.2⟩
    · rw [same.1]
  · rintro ⟨handle, id, here⟩
    obtain ⟨item, made, same⟩ := mem_map.mp here
    cases same
    obtain ⟨there, good⟩ := mem_filter.mp made
    exact ⟨item, there, by rw [good]⟩

end

theorem made_temps_sublist (call : ItemCall T) : (call.made.map Prod.fst).Sublist call.temps := by
  cases call with
  | create items results =>
    rw [temps_create]
    cases results with
    | none => exact nil_sublist _
    | some results =>
      have zipped :
          ((items.zip results).map fun item => item.1.1).Sublist (items.map Prod.fst) := by
        rw [← flags_fst items results, flags, map_append, map_map]
        exact sublist_append_left _ _
      have chosen : ((created items results).map fun item =>
          item.1.1).Sublist ((items.zip results).map fun item => item.1.1) :=
        filter_sublist.map _
      rw [made, map_map]
      exact chosen.trans zipped
  | finished | modify | delete => exact nil_sublist _

variable {call : ItemCall T} {t : ℕ}

theorem waits_of_made {handle id : UInt32} (here : (t, handle, id) ∈ call.made) :
    (t, handle) ∈ call.waits := by
  cases call with
  | create items results =>
    cases results with
    | none => exact absurd here not_mem_nil
    | some results =>
      obtain ⟨item, made, same⟩ := mem_map.mp here
      cases same
      exact mem_map.mpr ⟨item.1, (of_mem_zip (mem_filter.mp made).1).1, rfl⟩
  | finished | modify | delete => exact absurd here not_mem_nil

theorem deletes_of_deleted {id : UInt32} (here : id ∈ call.deleted) : id ∈ call.deletes := by
  cases call with
  | delete ids results =>
    cases results with
    | none => exact absurd here not_mem_nil
    | some results => exact here
  | _ => exact absurd here not_mem_nil

theorem temps_of_waits {handle : UInt32} (here : (t, handle) ∈ call.waits) : t ∈ call.temps :=
  mem_append_left _ (mem_map.mpr ⟨_, here, rfl⟩)

theorem temps_of_clears {created : Bool} (here : (t, created) ∈ call.clears) : t ∈ call.temps :=
  mem_append_right _ (mem_map.mpr ⟨_, here, rfl⟩)

end ItemCall

/-- **What is looked at.** -/
structure ItemView (T : ClientTypes) where
  handleOf : MonitoredItemId → Option UInt32
  idOf : UInt32 → Option MonitoredItemId
  live : UInt32 → Option UInt32
  calls : ℕ → Option (ItemCall T)

open ItemCall

open Function

namespace ItemView

/-- **The maps, the server and the calls belong together.** -/
structure Tracks (v : ItemView T) : Prop where
  linked : ∀ {handle id}, v.idOf handle = some id → v.handleOf id = some handle
  confirmed : ∀ {id handle}, v.handleOf (.server id) = some handle →
    v.idOf handle = some (.server id)
  waiting : ∀ {c call t handle}, v.calls c = some call → (t, handle) ∈ call.waits →
    v.handleOf (.temporary t) = some handle ∧ v.idOf handle = some (.temporary t)
  clearing : ∀ {c call t}, v.calls c = some call → (t, false) ∈ call.clears →
    ∃ handle, v.handleOf (.temporary t) = some handle ∧ v.idOf handle = some (.temporary t)
  cleared : ∀ {c call t}, v.calls c = some call → (t, true) ∈ call.clears →
    v.handleOf (.temporary t) ≠ none ∧ ∀ handle, v.idOf handle ≠ some (.temporary t)
  temporary : ∀ {t handle}, v.handleOf (.temporary t) = some handle →
    ∃ c call, v.calls c = some call ∧ t ∈ call.temps
  temps_nodup : ∀ {c call}, v.calls c = some call → call.temps.Nodup
  temps_unique : ∀ {c call c' call' t}, v.calls c = some call → v.calls c' = some call' →
    t ∈ call.temps → t ∈ call'.temps → c = c'
  known : ∀ {id handle}, v.live id = some handle → v.handleOf (.server id) = some handle ∨
    ∃ c call t, v.calls c = some call ∧ (t, handle, id) ∈ call.made
  alive : ∀ {id handle}, v.handleOf (.server id) = some handle → v.live id = some handle ∨
    ∃ c call, v.calls c = some call ∧ id ∈ call.deleted
  made : ∀ {c call t handle id}, v.calls c = some call → (t, handle, id) ∈ call.made →
    v.live id = some handle ∧ v.handleOf (.server id) = none ∧
      ∀ c' call', v.calls c' = some call' → id ∉ call'.deletes
  made_nodup : ∀ {c call}, v.calls c = some call → (call.made.map fun item => item.2.2).Nodup
  made_unique : ∀ {c call c' call' t t' handle handle' id}, v.calls c = some call →
    v.calls c' = some call' → (t, handle, id) ∈ call.made → (t', handle', id) ∈ call'.made → c = c'
  dead : ∀ {c call id}, v.calls c = some call → id ∈ call.deleted → v.live id = none

variable {v : ItemView T}

theorem Tracks.resolves (tracks : v.Tracks) {id handle : UInt32} (live : v.live id = some handle) :
    (v.idOf handle = some (.server id) ∧ v.handleOf (.server id) = some handle) ∨
      ∃ c call t, v.calls c = some call ∧ (t, handle, id) ∈ call.made ∧
        v.idOf handle = some (.temporary t) ∧ v.handleOf (.temporary t) = some handle := by
  rcases tracks.known live with there | ⟨c, call, t, running, made⟩
  · exact inl ⟨tracks.confirmed there, there⟩
  · obtain ⟨has, leads⟩ := tracks.waiting running (waits_of_made made)
    exact inr ⟨c, call, t, running, made, leads, has⟩

/-- **When nothing is in progress** there are no temporary items, and every item is live. -/
theorem Tracks.settled (tracks : v.Tracks) (quiet : ∀ c, v.calls c = none) :
    (∀ t, v.handleOf (.temporary t) = none) ∧
      ∀ id handle, v.handleOf (.server id) = some handle → v.live id = some handle := by
  constructor
  · intro t
    by_contra some
    obtain ⟨handle, some⟩ := Option.ne_none_iff_exists'.mp some
    obtain ⟨c, call, running, -⟩ := tracks.temporary some
    rw [quiet c] at running
    cases running
  · intro id handle there
    rcases tracks.alive there with live | ⟨c, call, running, -⟩
    · exact live
    · rw [quiet c] at running
      cases running

theorem tracks_empty (handles : ∀ id, v.handleOf id = none) (ids : ∀ handle, v.idOf handle = none)
    (live : ∀ id, v.live id = none) (calls : ∀ c, v.calls c = none) : v.Tracks := by
  have never : ∀ {α : Type} {o : Option α} {a : α}, o = none → o ≠ some a := by
    rintro α o a rfl
    exact nofun
  constructor
  case linked => exact fun has => absurd has (never (ids _))
  case confirmed | temporary => exact fun has => absurd has (never (handles _))
  case known => exact fun has => absurd has (never (live _))
  case alive => exact fun has => absurd has (never (handles _))
  all_goals exact fun {c} {_} => fun running => absurd running (never (calls c))

variable {call : ItemCall T}

section

variable (tracks : v.Tracks) {c : ℕ} (running : v.calls c = some call)
include tracks running

theorem Tracks.waits_handle {c' : ℕ} {call' : ItemCall T} {t t' : ℕ} {handle : UInt32}
    (running' : v.calls c' = some call') (here : (t, handle) ∈ call.waits)
    (here' : (t', handle) ∈ call'.waits) : t = t' := by
  have leads := (tracks.waiting running here).2
  rw [(tracks.waiting running' here').2] at leads
  cases leads
  rfl

theorem Tracks.temps_used {t : ℕ} (here : t ∈ call.temps) :
    ∃ handle, v.handleOf (.temporary t) = some handle := by
  rcases mem_append.mp here with waits | clears
  · obtain ⟨entry, there, rfl⟩ := mem_map.mp waits
    exact ⟨entry.2, (tracks.waiting running there).1⟩
  · obtain ⟨⟨t, created⟩, there, rfl⟩ := mem_map.mp clears
    cases created with
    | false =>
      obtain ⟨handle, has, -⟩ := tracks.clearing running there
      exact ⟨handle, has⟩
    | true => exact Option.ne_none_iff_exists'.mp (tracks.cleared running there).1

theorem Tracks.made_handles : (call.made.map fun item => item.2.1).Nodup := by
  have temps : (call.made.map Prod.fst).Nodup :=
    (tracks.temps_nodup running).sublist call.made_temps_sublist
  refine temps.of_map.map_on fun a inA b inB same => ?_
  refine inj_on_of_nodup_map temps inA inB ?_
  have waitsA : (a.1, a.2.1) ∈ call.waits := waits_of_made inA
  have waitsB : (b.1, b.2.1) ∈ call.waits := waits_of_made inB
  exact tracks.waits_handle running running waitsA (same ▸ waitsB)

end

/-! ### Steps -/

section Steps

variable {v' : ItemView T} {c : ℕ}

section

variable {next : ItemCall T}

/-- A call after a step of one of them. -/
theorem call_eq_some (calls : v'.calls = update v.calls c (some next)) {c' : ℕ}
    (there : v'.calls c' = some call) :
    (c' = c ∧ call = next) ∨ (c' ≠ c ∧ v.calls c' = some call) := by
  rw [calls] at there
  exact (update_eq_some there).imp_left fun ⟨atC, same⟩ => ⟨atC, (Option.some.inj same).symm⟩

variable {old : ItemCall T} (tracks : v.Tracks) (running : v.calls c = some old)
  (calls : v'.calls = update v.calls c (some next)) (temps : next.temps = old.temps)
include running calls temps

theorem temps_of_call {c' : ℕ} (there : v'.calls c' = some call) :
    ∃ call', v.calls c' = some call' ∧ call.temps = call'.temps := by
  rcases call_eq_some calls there with ⟨rfl, rfl⟩ | ⟨-, there⟩
  · exact ⟨old, running, temps⟩
  · exact ⟨call, there, rfl⟩

include tracks

theorem Tracks.temps_nodup_of_update {c' : ℕ} (there : v'.calls c' = some call) :
    call.temps.Nodup := by
  obtain ⟨call', earlier, same⟩ := temps_of_call running calls temps there
  rw [same]
  exact tracks.temps_nodup earlier

theorem Tracks.temps_unique_of_update {c' c'' : ℕ} {call' : ItemCall T} {t : ℕ}
    (there : v'.calls c' = some call) (there' : v'.calls c'' = some call') (here : t ∈ call.temps)
    (here' : t ∈ call'.temps) : c' = c'' := by
  obtain ⟨call₁, earlier, temps₁⟩ := temps_of_call running calls temps there
  obtain ⟨call₂, earlier', temps₂⟩ := temps_of_call running calls temps there'
  exact tracks.temps_unique earlier earlier' (temps₁ ▸ here) (temps₂ ▸ here')

end

section

variable (tracks : v.Tracks)
include tracks

/-- **A call begins,** with the items that wait for it put into the maps. -/
theorem Tracks.begin {call : ItemCall T} (idle : v.calls c = none)
    (calls : v'.calls = update v.calls c (some call)) (live : v'.live = v.live)
    (distinct : (call.waits.map Prod.fst).Nodup)
    (unused : ∀ item ∈ call.waits, v.handleOf (.temporary item.1) = none ∧ v.idOf item.2 = none)
    (put : ∀ item ∈ call.waits, v'.handleOf (.temporary item.1) = some item.2 ∧
      v'.idOf item.2 = some (.temporary item.1))
    (others : ∀ id, (∀ item ∈ call.waits, id ≠ .temporary item.1) → v'.handleOf id = v.handleOf id)
    (otherHandles : ∀ handle, (∀ item ∈ call.waits, handle ≠ item.2) →
      v'.idOf handle = v.idOf handle)
    (clears : call.clears = []) (unmade : call.made = []) (undeleted : call.deleted = [])
    (known : ∀ id ∈ call.deletes, ∀ c' call', v.calls c' = some call' → ∀ t handle,
      (t, handle, id) ∉ call'.made) : v'.Tracks := by
  have temps : call.temps = call.waits.map Prod.fst := by
    rw [temps, clears]
    exact append_nil _
  have keeps : ∀ {id handle}, v.handleOf id = some handle → v'.handleOf id = some handle := by
    intro id handle has
    rw [others id fun item here same => ?_]
    · exact has
    · rw [same, (unused item here).1] at has
      cases has
  have leads : ∀ {handle id}, v.idOf handle = some id → v'.idOf handle = some id := by
    intro handle id has
    rw [otherHandles handle fun item here same => ?_]
    · exact has
    · rw [same, (unused item here).2] at has
      cases has
  have server : ∀ id, v'.handleOf (.server id) = v.handleOf (.server id) :=
    fun id => others _ fun item _ => nofun
  have before : ∀ {c' call'}, v'.calls c' = some call' →
      call' = call ∨ v.calls c' = some call' :=
    fun there => (call_eq_some calls there).imp And.right And.right
  -- a call with something of its own is an earlier one
  have older : ∀ {c' call'} {α : Type} {a : α} {part : ItemCall T → List α}, part call = [] →
      v'.calls c' = some call' → a ∈ part call' → v.calls c' = some call' := by
    intro c' call' α a part none there here
    rcases before there with rfl | there
    · rw [none] at here
      cases here
    · exact there
  have still : ∀ {c' call'}, v.calls c' = some call' → v'.calls c' = some call' := by
    intro c' call' there
    have other : c' ≠ c := fun same => by rw [same, idle] at there; cases there
    rw [calls, update_of_ne other, there]
  constructor
  case linked =>
    intro handle id has
    by_cases new : ∃ item ∈ call.waits, handle = item.2
    · obtain ⟨item, here, rfl⟩ := new
      rw [(put item here).2] at has
      cases has
      exact (put item here).1
    · rw [otherHandles handle fun item here same => new ⟨item, here, same⟩] at has
      exact keeps (tracks.linked has)
  case confirmed =>
    intro id handle has
    rw [server] at has
    exact leads (tracks.confirmed has)
  case waiting =>
    intro c' call' t handle there here
    rcases before there with rfl | there
    · exact put _ here
    · obtain ⟨has, leading⟩ := tracks.waiting there here
      exact ⟨keeps has, leads leading⟩
  case clearing =>
    intro c' call' t there here
    obtain ⟨handle, has, leading⟩ := tracks.clearing (older clears there here) here
    exact ⟨handle, keeps has, leads leading⟩
  case cleared =>
    intro c' call' t there here
    obtain ⟨some, never⟩ := tracks.cleared (older clears there here) here
    obtain ⟨handle, has⟩ := Option.ne_none_iff_exists'.mp some
    refine ⟨fun none => ?_, fun other leading => ?_⟩
    · rw [keeps has] at none
      cases none
    · by_cases new : ∃ item ∈ call.waits, other = item.2
      · obtain ⟨item, newer, rfl⟩ := new
        rw [(put item newer).2] at leading
        cases leading
        rw [(unused item newer).1] at has
        cases has
      · rw [otherHandles other fun item here same => new ⟨item, here, same⟩] at leading
        exact never other leading
  case temporary =>
    intro t handle has
    by_cases new : ∃ item ∈ call.waits, t = item.1
    · obtain ⟨item, here, rfl⟩ := new
      exact ⟨c, call, by rw [calls, update_self], temps_of_waits here⟩
    · have other : ∀ item ∈ call.waits, MonitoredItemId.temporary t ≠ .temporary item.1 :=
        fun item here same => new ⟨item, here, by cases same; rfl⟩
      rw [others _ other] at has
      obtain ⟨c', call', there, here⟩ := tracks.temporary has
      exact ⟨c', call', still there, here⟩
  case temps_nodup =>
    intro c' call' there
    rcases before there with rfl | there
    · rw [temps]
      exact distinct
    · exact tracks.temps_nodup there
  case temps_unique =>
    have apart : ∀ {c' call' t}, v.calls c' = some call' → t ∈ call'.temps → t ∉ call.temps := by
      intro c' call' t there here new
      rw [temps] at new
      obtain ⟨item, listed, rfl⟩ := mem_map.mp new
      obtain ⟨handle, has⟩ := tracks.temps_used there here
      rw [(unused item listed).1] at has
      cases has
    intro c' call' c'' call'' t there there' here here'
    rcases call_eq_some calls there with ⟨atC, rfl⟩ | ⟨-, old⟩
    · rcases call_eq_some calls there' with ⟨atC', -⟩ | ⟨-, old'⟩
      · rw [atC, atC']
      · exact absurd here (apart old' here')
    · rcases call_eq_some calls there' with ⟨-, rfl⟩ | ⟨-, old'⟩
      · exact absurd here' (apart old here)
      · exact tracks.temps_unique old old' here here'
  case known =>
    intro id handle has
    rw [live] at has
    rcases tracks.known has with has | ⟨c', call', t, there, made⟩
    · exact inl (keeps has)
    · exact inr ⟨c', call', t, still there, made⟩
  case alive =>
    intro id handle has
    rw [server] at has
    rw [live]
    rcases tracks.alive has with has | ⟨c', call', there, deleted⟩
    · exact inl has
    · exact inr ⟨c', call', still there, deleted⟩
  case made =>
    intro c' call' t handle id there here
    have earlier := older unmade there here
    obtain ⟨alive, none, never⟩ := tracks.made earlier here
    rw [live, server]
    refine ⟨alive, none, fun c'' call'' there' => ?_⟩
    rcases before there' with rfl | there'
    · exact fun mine => known id mine c' call' earlier t handle here
    · exact never c'' call'' there'
  case made_nodup =>
    intro c' call' there
    rcases before there with rfl | there
    · rw [unmade]
      exact nodup_nil
    · exact tracks.made_nodup there
  case made_unique =>
    intro c' call' c'' call'' t t' handle handle' id there there' here here'
    exact tracks.made_unique (older unmade there here) (older unmade there' here') here here'
  case dead =>
    intro c' call' id there here
    rw [live]
    exact tracks.dead (older undeleted there here) here

theorem Tracks.served {old next : ItemCall T} (running : v.calls c = some old)
    (calls : v'.calls = update v.calls c (some next))
    (handles : v'.handleOf = v.handleOf) (ids : v'.idOf = v.idOf)
    (waits : next.waits = old.waits) (clears : next.clears = old.clears)
    (deletes : next.deletes = old.deletes) (unmade : old.made = []) (undeleted : old.deleted = [])
    (kept : ∀ {id handle}, v.live id = some handle → id ∉ next.deleted → v'.live id = some handle)
    (only : ∀ {id handle}, v'.live id = some handle →
      v.live id = some handle ∨ ∃ t, (t, handle, id) ∈ next.made)
    (new : ∀ {t handle id}, (t, handle, id) ∈ next.made → v.live id = none ∧
      v'.live id = some handle ∧ v.handleOf (.server id) = none ∧
        ∀ c' call', v.calls c' = some call' → id ∉ call'.deletes)
    (distinct : (next.made.map fun item => item.2.2).Nodup)
    (gone : ∀ {id}, id ∈ next.deleted → v'.live id = none) : v'.Tracks := by
  have temps : next.temps = old.temps := by rw [temps, temps, waits, clears]
  -- every call is as it was, but for what was made and deleted
  have same : ∀ {c' call}, v'.calls c' = some call → ∃ call', v.calls c' = some call' ∧
      call.waits = call'.waits ∧ call.clears = call'.clears ∧ call.deletes = call'.deletes := by
    intro c' call there
    rcases call_eq_some calls there with ⟨rfl, rfl⟩ | ⟨-, there⟩
    · exact ⟨old, running, waits, clears, deletes⟩
    · exact ⟨call, there, rfl, rfl, rfl⟩
  have still : ∀ {c' call}, v.calls c' = some call → ∃ call', v'.calls c' = some call' ∧
      call'.temps = call.temps ∧ (∀ item ∈ call.made, item ∈ call'.made) ∧
        ∀ id ∈ call.deleted, id ∈ call'.deleted := by
    intro c' call there
    by_cases atC : c' = c
    · rw [atC, running, Option.some.injEq] at there
      subst there
      refine ⟨next, by rw [calls, atC, update_self], temps, ?_, ?_⟩
      · rw [unmade]
        exact fun _ => nofun
      · rw [undeleted]
        exact fun _ => nofun
    · exact ⟨call, by rw [calls, update_of_ne atC, there], rfl, fun _ here => here,
        fun _ here => here⟩
  constructor
  case linked =>
    intro handle id has
    rw [ids] at has
    rw [handles]
    exact tracks.linked has
  case confirmed =>
    intro id handle has
    rw [handles] at has
    rw [ids]
    exact tracks.confirmed has
  case waiting =>
    intro c' call t handle there here
    obtain ⟨call', earlier, waits', -⟩ := same there
    rw [handles, ids]
    exact tracks.waiting earlier (waits' ▸ here)
  case clearing =>
    intro c' call t there here
    obtain ⟨call', earlier, -, clears', -⟩ := same there
    rw [handles, ids]
    exact tracks.clearing earlier (clears' ▸ here)
  case cleared =>
    intro c' call t there here
    obtain ⟨call', earlier, -, clears', -⟩ := same there
    rw [handles, ids]
    exact tracks.cleared earlier (clears' ▸ here)
  case temporary =>
    intro t handle has
    rw [handles] at has
    obtain ⟨c', call, there, here⟩ := tracks.temporary has
    obtain ⟨call', later, temps', -⟩ := still there
    exact ⟨c', call', later, temps' ▸ here⟩
  case temps_nodup => exact tracks.temps_nodup_of_update running calls temps
  case temps_unique => exact tracks.temps_unique_of_update running calls temps
  case known =>
    intro id handle has
    rcases only has with has | ⟨t, made⟩
    · rw [handles]
      rcases tracks.known has with there | ⟨c', call, t, there, made⟩
      · exact inl there
      · obtain ⟨call', later, -, mades, -⟩ := still there
        exact inr ⟨c', call', t, later, mades _ made⟩
    · exact inr ⟨c, next, t, by rw [calls, update_self], made⟩
  case alive =>
    intro id handle has
    rw [handles] at has
    rcases tracks.alive has with live | ⟨c', call, there, deleted⟩
    · by_cases dead : id ∈ next.deleted
      · exact inr ⟨c, next, by rw [calls, update_self], dead⟩
      · exact inl (kept live dead)
    · obtain ⟨call', later, -, -, deads⟩ := still there
      exact inr ⟨c', call', later, deads _ deleted⟩
  case made =>
    have never : ∀ {id}, (∀ c' call', v.calls c' = some call' → id ∉ call'.deletes) →
        ∀ c' call', v'.calls c' = some call' → id ∉ call'.deletes := by
      intro id never c' call' there
      obtain ⟨call'', earlier, -, -, deletes'⟩ := same there
      rw [deletes']
      exact never c' call'' earlier
    intro c' call t handle id there here
    rw [handles]
    rcases call_eq_some calls there with ⟨-, rfl⟩ | ⟨-, earlier⟩
    · obtain ⟨-, live, none, safe⟩ := new here
      exact ⟨live, none, never safe⟩
    · obtain ⟨live, none, safe⟩ := tracks.made earlier here
      refine ⟨kept live fun dead => ?_, none, never safe⟩
      exact safe c old running (deletes ▸ deletes_of_deleted dead)
  case made_nodup =>
    intro c' call there
    rcases call_eq_some calls there with ⟨-, rfl⟩ | ⟨-, earlier⟩
    · exact distinct
    · exact tracks.made_nodup earlier
  case made_unique =>
    have apart : ∀ {c' call t t' handle handle' id}, v.calls c' = some call →
        (t, handle, id) ∈ call.made → (t', handle', id) ∉ next.made := by
      intro c' call t t' handle handle' id earlier here newer
      have live := (tracks.made earlier here).1
      rw [(new newer).1] at live
      cases live
    intro c' call c'' call'' t t' handle handle' id there there' here here'
    rcases call_eq_some calls there with ⟨atC, rfl⟩ | ⟨-, earlier⟩
    · rcases call_eq_some calls there' with ⟨atC', -⟩ | ⟨-, earlier'⟩
      · rw [atC, atC']
      · exact absurd here (apart earlier' here')
    · rcases call_eq_some calls there' with ⟨-, rfl⟩ | ⟨-, earlier'⟩
      · exact absurd here' (apart earlier here)
      · exact tracks.made_unique earlier earlier' here here'
  case dead =>
    intro c' call id there here
    rcases call_eq_some calls there with ⟨-, rfl⟩ | ⟨-, earlier⟩
    · exact gone here
    · by_contra some
      obtain ⟨handle, some⟩ := Option.ne_none_iff_exists'.mp some
      rcases only some with live | ⟨t, made⟩
      · rw [tracks.dead earlier here] at live
        cases live
      · exact (new made).2.2.2 c' call earlier (deletes_of_deleted here)

/-- **Items are removed when a call ends:** its temporary items, or those it was to delete. A handle
that is removed with an item leads to that item, and no handle leads to an item that is removed
without. -/
theorem Tracks.remove {call : ItemCall T} (running : v.calls c = some call)
    (calls : v'.calls = update v.calls c none) (live : v'.live = v.live)
    (unmade : call.made = []) (ids : List (MonitoredItemId × Bool))
    (temps : ∀ t, .temporary t ∈ ids.map Prod.fst ↔ t ∈ call.temps)
    (deleted : ∀ id, .server id ∈ ids.map Prod.fst ↔ id ∈ call.deleted)
    (owned : ∀ {id handle}, (id, true) ∈ ids → v.handleOf id = some handle →
      v.idOf handle = some id)
    (mute : ∀ {id handle}, (id, false) ∈ ids → v.idOf handle ≠ some id)
    (handles : ∀ id, v'.handleOf id = if id ∈ ids.map Prod.fst then none else v.handleOf id)
    (handleGone : ∀ {id handle}, (id, true) ∈ ids → v.handleOf id = some handle →
      v'.idOf handle = none)
    (handleKept : ∀ {handle}, (∀ id, (id, true) ∈ ids → v.handleOf id ≠ some handle) →
      v'.idOf handle = v.idOf handle) : v'.Tracks := by
  have before : ∀ {c' call'}, v'.calls c' = some call' → c' ≠ c ∧ v.calls c' = some call' := by
    intro c' call' there
    rw [calls] at there
    rcases update_eq_some there with ⟨-, absurdly⟩ | old
    · cases absurdly
    · exact old
  have still : ∀ {c' call'}, c' ≠ c → v.calls c' = some call' → v'.calls c' = some call' := by
    intro c' call' other there
    rw [calls, update_of_ne other, there]
  have removed : ∀ {id handle}, v'.handleOf id = some handle →
      id ∉ ids.map Prod.fst ∧ v.handleOf id = some handle := by
    intro id handle has
    rw [handles] at has
    split_ifs at has with here
    exact ⟨here, has⟩
  have stays : ∀ {id handle}, id ∉ ids.map Prod.fst → v.handleOf id = some handle →
      v.idOf handle = some id → v'.handleOf id = some handle ∧ v'.idOf handle = some id := by
    intro id handle other has leads
    refine ⟨by rw [handles, if_neg other, has], ?_⟩
    rw [handleKept fun id' here has' => ?_, leads]
    have same := owned here has'
    rw [leads, Option.some.injEq] at same
    exact other (same ▸ mem_map.mpr ⟨_, here, rfl⟩)
  have earlier : ∀ {id handle}, v'.idOf handle = some id →
      v.idOf handle = some id ∧ id ∉ ids.map Prod.fst := by
    intro id handle leads
    have kept : ∀ id', (id', true) ∈ ids → v.handleOf id' ≠ some handle := by
      intro id' here has
      rw [handleGone here has] at leads
      cases leads
    rw [handleKept kept] at leads
    refine ⟨leads, fun here => ?_⟩
    obtain ⟨⟨id, removeHandle⟩, there, rfl⟩ := mem_map.mp here
    cases removeHandle with
    | false => exact mute there leads
    | true => exact kept _ there (tracks.linked leads)
  have apart : ∀ {c' call' t}, c' ≠ c → v.calls c' = some call' → t ∈ call'.temps →
      .temporary t ∉ ids.map Prod.fst := by
    intro c' call' t other there here mine
    exact other (tracks.temps_unique there running here ((temps t).mp mine))
  constructor
  case linked =>
    intro handle id leads
    obtain ⟨leads, other⟩ := earlier leads
    rw [handles, if_neg other]
    exact tracks.linked leads
  case confirmed =>
    intro id handle has
    obtain ⟨other, has⟩ := removed has
    exact (stays other has (tracks.confirmed has)).2
  case waiting =>
    intro c' call' t handle there here
    obtain ⟨other, there⟩ := before there
    obtain ⟨has, leads⟩ := tracks.waiting there here
    exact stays (apart other there (temps_of_waits here)) has leads
  case clearing =>
    intro c' call' t there here
    obtain ⟨other, there⟩ := before there
    obtain ⟨handle, has, leads⟩ := tracks.clearing there here
    exact ⟨handle, stays (apart other there (temps_of_clears here)) has leads⟩
  case cleared =>
    intro c' call' t there here
    obtain ⟨other, there⟩ := before there
    obtain ⟨some, never⟩ := tracks.cleared there here
    refine ⟨?_, fun handle leads => never handle (earlier leads).1⟩
    rw [handles, if_neg (apart other there (temps_of_clears here))]
    exact some
  case temporary =>
    intro t handle has
    obtain ⟨other, has⟩ := removed has
    obtain ⟨c', call', there, here⟩ := tracks.temporary has
    refine ⟨c', call', still (fun atC => ?_) there, here⟩
    rw [atC, running, Option.some.injEq] at there
    exact other ((temps t).mpr (there ▸ here))
  case temps_nodup => exact fun there => tracks.temps_nodup (before there).2
  case temps_unique =>
    exact fun there there' => tracks.temps_unique (before there).2 (before there').2
  case known =>
    intro id handle has
    rw [live] at has
    rcases tracks.known has with there | ⟨c', call', t, there, made⟩
    · refine inl (stays (fun here => ?_) there (tracks.confirmed there)).1
      rw [tracks.dead running ((deleted id).mp here)] at has
      cases has
    · refine inr ⟨c', call', t, still (fun atC => ?_) there, made⟩
      rw [atC, running, Option.some.injEq] at there
      rw [← there, unmade] at made
      cases made
  case alive =>
    intro id handle has
    obtain ⟨other, has⟩ := removed has
    rw [live]
    rcases tracks.alive has with there | ⟨c', call', there, gone⟩
    · exact inl there
    · refine inr ⟨c', call', still (fun atC => ?_) there, gone⟩
      rw [atC, running, Option.some.injEq] at there
      exact other ((deleted id).mpr (there ▸ gone))
  case made =>
    intro c' call' t handle id there here
    obtain ⟨alive, none, never⟩ := tracks.made (before there).2 here
    rw [live, handles, none, ite_self]
    exact ⟨alive, rfl, fun c'' call'' there' => never c'' call'' (before there').2⟩
  case made_nodup => exact fun there => tracks.made_nodup (before there).2
  case made_unique =>
    exact fun there there' => tracks.made_unique (before there).2 (before there').2
  case dead =>
    intro c' call' id there here
    rw [live]
    exact tracks.dead (before there).2 here

theorem Tracks.finish {items : List (ℕ × MonitoredItemCreateRequest T)}
    {results : List (MonitoredItemCreateResult T)}
    (running : v.calls c = some (.create items (some results)))
    (calls : v'.calls = update v.calls c
      (some (.finished (flags items results))))
    (live : v'.live = v.live)
    (put : ∀ {t handle id}, (t, handle, id) ∈ (create items (some results)).made →
      v'.handleOf (.server id) = some handle ∧ v'.idOf handle = some (.server id))
    (others : ∀ {id}, (∀ t handle made, (t, handle, made) ∈ (create items (some results)).made →
      id ≠ .server made) → v'.handleOf id = v.handleOf id)
    (otherHandles : ∀ {handle}, (∀ t made id, (t, made, id) ∈
      (create items (some results)).made → handle ≠ made) → v'.idOf handle = v.idOf handle) :
    v'.Tracks := by
  set create : ItemCall T := .create items (some results) with createEq
  set finished : ItemCall T := .finished (flags items results) with finishedEq
  have temps : finished.temps = create.temps := by
    rw [createEq, temps_create, ← flags_fst items results]
    exact nil_append _
  have still : ∀ {c' call}, c' ≠ c → v.calls c' = some call → v'.calls c' = some call := by
    intro c' call other there
    rw [calls, update_of_ne other, there]
  have here' : v'.calls c = some finished := by rw [calls, update_self]
  -- the maps change at the new ids and handles only
  have temporary : ∀ t, v'.handleOf (.temporary t) = v.handleOf (.temporary t) :=
    fun t => others fun _ _ _ _ => nofun
  have keeps : ∀ {id handle}, v.handleOf id = some handle → v'.handleOf id = some handle := by
    intro id handle has
    rw [others fun t h made here same => ?_, has]
    rw [same, (tracks.made running here).2.1] at has
    cases has
  have leads : ∀ {handle id}, v.idOf handle = some id →
      (∀ t made, (t, handle, made) ∈ create.made → id ≠ .temporary t) →
        v'.idOf handle = some id := by
    intro handle id has other
    rw [otherHandles fun t h made here same => ?_, has]
    subst same
    refine other t made here ?_
    rw [(tracks.waiting running (waits_of_made here)).2, Option.some.injEq] at has
    exact has.symm
  have back : ∀ {handle id}, v'.idOf handle = some id →
      (∃ t made, (t, handle, made) ∈ create.made ∧ id = .server made) ∨
        (v.idOf handle = some id ∧ ∀ t made, (t, handle, made) ∉ create.made) := by
    intro handle id has
    by_cases new : ∃ t made, (t, handle, made) ∈ create.made
    · obtain ⟨t, made, here⟩ := new
      rw [(put here).2, Option.some.injEq] at has
      exact inl ⟨t, made, here, has.symm⟩
    · have none : ∀ t made, (t, handle, made) ∉ create.made :=
        fun t made here => new ⟨t, made, here⟩
      rw [otherHandles fun t h made here same => none t made (by rw [same]; exact here)] at has
      exact inr ⟨has, none⟩
  have flag_unique : ∀ {t}, (t, false) ∈ finished.clears → ∀ handle made,
      (t, handle, made) ∉ create.made := by
    intro t unheard handle made here
    have nodup : ((flags items results).map Prod.fst).Nodup := by
      rw [flags_fst, ← temps_create items (some results)]
      exact tracks.temps_nodup running
    have heard := (flag_iff items results t).mpr ⟨handle, made, here⟩
    have same := inj_on_of_nodup_map nodup unheard heard rfl
    cases same
  constructor
  case linked =>
    intro handle id has
    rcases back has with ⟨t, made, here, rfl⟩ | ⟨has, -⟩
    · exact (put here).1
    · exact keeps (tracks.linked has)
  case confirmed =>
    intro id handle has
    by_cases new : ∃ t h, (t, h, id) ∈ create.made
    · obtain ⟨t, h, here⟩ := new
      rw [(put here).1, Option.some.injEq] at has
      exact has ▸ (put here).2
    · rw [others fun t h made here same => new ⟨t, h, by cases same; exact here⟩] at has
      exact leads (tracks.confirmed has) fun _ _ _ => nofun
  case waiting =>
    intro c' call t handle there here
    rcases call_eq_some calls there with ⟨-, rfl⟩ | ⟨other, there⟩
    · exact absurd here not_mem_nil
    · obtain ⟨has, lead⟩ := tracks.waiting there here
      refine ⟨keeps has, leads lead fun t' made here' same => other ?_⟩
      cases same
      exact tracks.temps_unique there running (temps_of_waits here)
        (temps_of_waits (waits_of_made here'))
  case clearing =>
    intro c' call t there here
    rcases call_eq_some calls there with ⟨-, rfl⟩ | ⟨other, there⟩
    · have mine : t ∈ create.temps := temps ▸ temps_of_clears here
      rw [createEq, temps_create] at mine
      obtain ⟨item, listed, rfl⟩ := mem_map.mp mine
      obtain ⟨has, lead⟩ := tracks.waiting running (mem_map.mpr ⟨item, listed, rfl⟩)
      refine ⟨_, keeps has, leads lead fun t' made here' same => ?_⟩
      cases same
      exact flag_unique here _ _ here'
    · obtain ⟨handle, has, lead⟩ := tracks.clearing there here
      refine ⟨handle, keeps has, leads lead fun t' made here' same => other ?_⟩
      cases same
      exact tracks.temps_unique there running (temps_of_clears here)
        (temps_of_waits (waits_of_made here'))
  case cleared =>
    intro c' call t there here
    rw [temporary]
    rcases call_eq_some calls there with ⟨-, rfl⟩ | ⟨-, there⟩
    · obtain ⟨handle, made, here'⟩ := (flag_iff items results t).mp here
      have has := (tracks.waiting running (waits_of_made here')).1
      refine ⟨by rw [has]; exact nofun, fun handle' lead => ?_⟩
      rcases back lead with ⟨_, _, _, absurdly⟩ | ⟨lead, none⟩
      · cases absurdly
      · have linked := tracks.linked lead
        rw [has, Option.some.injEq] at linked
        exact none t made (linked ▸ here')
    · obtain ⟨some, never⟩ := tracks.cleared there here
      refine ⟨some, fun handle lead => ?_⟩
      rcases back lead with ⟨_, _, _, absurdly⟩ | ⟨lead, -⟩
      · cases absurdly
      · exact never handle lead
  case temporary =>
    intro t handle has
    rw [temporary] at has
    obtain ⟨c', call, there, here⟩ := tracks.temporary has
    by_cases atC : c' = c
    · rw [atC, running, Option.some.injEq] at there
      exact ⟨c, finished, here', by rw [temps, there]; exact here⟩
    · exact ⟨c', call, still atC there, here⟩
  case temps_nodup => exact tracks.temps_nodup_of_update running calls temps
  case temps_unique => exact tracks.temps_unique_of_update running calls temps
  case known =>
    intro id handle has
    rw [live] at has
    rcases tracks.known has with there | ⟨c', call, t, there, made⟩
    · exact inl (keeps there)
    · by_cases atC : c' = c
      · rw [atC, running, Option.some.injEq] at there
        exact inl (put (there ▸ made)).1
      · exact inr ⟨c', call, t, still atC there, made⟩
  case alive =>
    intro id handle has
    rw [live]
    by_cases new : ∃ t h, (t, h, id) ∈ create.made
    · obtain ⟨t, h, here⟩ := new
      rw [(put here).1, Option.some.injEq] at has
      exact inl (has ▸ (tracks.made running here).1)
    · rw [others fun t h made here same => new ⟨t, h, by cases same; exact here⟩] at has
      rcases tracks.alive has with there | ⟨c', call, there, deleted⟩
      · exact inl there
      · refine inr ⟨c', call, still (fun atC => ?_) there, deleted⟩
        rw [atC, running, Option.some.injEq] at there
        rw [← there] at deleted
        cases deleted
  case made =>
    intro c' call t handle id there here
    rcases call_eq_some calls there with ⟨-, rfl⟩ | ⟨other, there⟩
    · exact absurd here not_mem_nil
    · obtain ⟨alive, none, never⟩ := tracks.made there here
      refine ⟨by rw [live, alive], ?_, fun c'' call' there' => ?_⟩
      · rw [others fun t' h made here' same => other ?_, none]
        cases same
        exact tracks.made_unique there running here here'
      · rcases call_eq_some calls there' with ⟨-, rfl⟩ | ⟨-, there'⟩
        · exact not_mem_nil
        · exact never c'' call' there'
  case made_nodup =>
    intro c' call there
    rcases call_eq_some calls there with ⟨-, rfl⟩ | ⟨-, there⟩
    · exact nodup_nil
    · exact tracks.made_nodup there
  case made_unique =>
    intro c' call c'' call'' t t' handle handle' id there there' here here''
    rcases call_eq_some calls there with ⟨-, rfl⟩ | ⟨-, there⟩
    · exact absurd here not_mem_nil
    rcases call_eq_some calls there' with ⟨-, rfl⟩ | ⟨-, there'⟩
    · exact absurd here'' not_mem_nil
    exact tracks.made_unique there there' here here''
  case dead =>
    intro c' call id there here
    rcases call_eq_some calls there with ⟨-, rfl⟩ | ⟨-, there⟩
    · exact absurd here not_mem_nil
    · rw [live]
      exact tracks.dead there here

end
end Steps

end ItemView

end AsyncOpcua.Client
