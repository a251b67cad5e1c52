/-
**Roles and who is granted them.**

A resolver holds the rules of each role, well-known or added at runtime, in one list, and filters on
the application and the endpoint of a client. Rules and filter entries are added and removed one at
a time.

* `rulesOf` — the rules of a role, on which every operation acts alone;
* `RoleOp.asked` — what an operation asks for, on sets of rules and of filter entries;
* `role_administration` — what administration does to grants, from any history of it.
-/

import AsyncOpcua.Foundation.Transition
import AsyncOpcua.Types.NodeId
import Mathlib.Data.List.Nodup

namespace AsyncOpcua.Rbac

open Types
open Foundation

/-! ### Identities and rules -/

inductive ResolvedIdentityKind
  | anonymous
  | userName (name : String)
  | x509Thumbprint (thumbprint : String)
  | issuedToken (groupIds : List String) (roleIds : List NodeId)
  deriving DecidableEq

structure ResolvedIdentity where
  kind : ResolvedIdentityKind
  applicationUri : Option String
  endpointUrl : Option String

inductive IdentityMappingRule
  | anonymousIdentity
  | authenticatedUser
  | userName (expected : String)
  | thumbprint (expected : String)
  | role (expected : NodeId)
  | groupId (expected : String)
  | application (expected : String)
  deriving DecidableEq

inductive WellKnownRole
  | anonymous | authenticatedUser | observer | operator | engineer | supervisor | configureAdmin
  | securityAdmin

namespace WellKnownRole

def all : List WellKnownRole :=
  [.anonymous, .authenticatedUser, .observer, .operator, .engineer, .supervisor, .configureAdmin,
    .securityAdmin]

def nodeId : WellKnownRole → NodeId
  | .anonymous => .standard 15644
  | .authenticatedUser => .standard 15656
  | .observer => .standard 15668
  | .operator => .standard 15680
  | .engineer => .standard 16036
  | .supervisor => .standard 15692
  | .configureAdmin => .standard 15716
  | .securityAdmin => .standard 15704

end WellKnownRole

def eqIgnoreAsciiCase (first second : String) : Bool :=
  first.toList.map Char.toLower = second.toList.map Char.toLower

def matchesRule (rule : IdentityMappingRule) (identity : ResolvedIdentity) : Bool :=
  match rule, identity.kind with
  | .anonymousIdentity, .anonymous => true
  | .authenticatedUser, kind => kind ≠ .anonymous
  | .userName expected, .userName actual => expected = actual
  | .thumbprint expected, .x509Thumbprint actual => eqIgnoreAsciiCase expected actual
  | .role expected, .issuedToken _ roleIds => expected ∈ roleIds
  | .groupId expected, .issuedToken groupIds _ => expected ∈ groupIds
  | .application expected, _ => identity.applicationUri = some expected
  | _, _ => false

/-! ### Rules of a role -/

/-- `RoleApplicationFilter` and `RoleEndpointFilter`: entries that are shut out, or let in. An entry
is added once. -/
structure RoleFilter where
  entries : List String
  exclude : Bool
  once : entries.Nodup

namespace RoleFilter

def default : RoleFilter := ⟨[], true, .nil⟩

def allows (filter : RoleFilter) (actual : Option String) : Bool :=
  if filter.entries.isEmpty then true
  else
    let found := actual.any (· ∈ filter.entries)
    if filter.exclude then !found else found

def add (filter : RoleFilter) (entry : String) : RoleFilter × Bool :=
  if known : entry ∈ filter.entries then (filter, false)
  else (⟨filter.entries ++ [entry], filter.exclude,
    filter.once.append (List.nodup_singleton entry) (by simpa using known)⟩, true)

def remove (filter : RoleFilter) (entry : String) : RoleFilter × Bool :=
  if entry ∈ filter.entries then
    (⟨filter.entries.erase entry, filter.exclude, filter.once.erase entry⟩, true)
  else (filter, false)

end RoleFilter

structure RoleRules where
  nodeId : NodeId
  identityRules : List IdentityMappingRule
  applications : RoleFilter
  endpoints : RoleFilter

namespace RoleRules

def new (nodeId : NodeId) (identityRules : List IdentityMappingRule) : RoleRules :=
  ⟨nodeId, identityRules, .default, .default⟩

def grants (rules : RoleRules) (identity : ResolvedIdentity) : Bool :=
  rules.identityRules.any (matchesRule · identity) &&
    rules.applications.allows identity.applicationUri
    && rules.endpoints.allows identity.endpointUrl

def pushRule (rule : IdentityMappingRule) (rules : RoleRules) : RoleRules × Bool :=
  ({ rules with identityRules := rules.identityRules ++ [rule] }, true)

/-- The first entry of the rule is removed. -/
def removeRule (rule : IdentityMappingRule) (rules : RoleRules) : RoleRules × Bool :=
  if rule ∈ rules.identityRules then
    ({ rules with identityRules := rules.identityRules.erase rule }, true)
  else (rules, false)

def filterApplications (edit : RoleFilter → RoleFilter × Bool) (rules : RoleRules) :
    RoleRules × Bool :=
  ({ rules with applications := (edit rules.applications).1 }, (edit rules.applications).2)

def filterEndpoints (edit : RoleFilter → RoleFilter × Bool) (rules : RoleRules) :
    RoleRules × Bool :=
  ({ rules with endpoints := (edit rules.endpoints).1 }, (edit rules.endpoints).2)

end RoleRules

/-! ### The resolver -/

structure RoleResolver where
  roles : List RoleRules
  runtimeRoles : List NodeId

def pushUnique (values : List NodeId) (value : NodeId) : List NodeId :=
  if value ∈ values then values else values ++ [value]

def editFirst (nodeId : NodeId) (edit : RoleRules → RoleRules × Bool) :
    List RoleRules → List RoleRules × Bool
  | [] => ([], false)
  | role :: roles =>
    if role.nodeId = nodeId then ((edit role).1 :: roles, (edit role).2)
    else (role :: (editFirst nodeId edit roles).1, (editFirst nodeId edit roles).2)

namespace RoleResolver

def default : RoleResolver where
  roles := WellKnownRole.all.map fun role => .new role.nodeId <|
    match role with
    | .anonymous => [.anonymousIdentity]
    | .authenticatedUser => [.authenticatedUser]
    | _ => []
  runtimeRoles := []

variable (resolver : RoleResolver)

def containsRole (nodeId : NodeId) : Bool :=
  resolver.roles.any (·.nodeId = nodeId)

def isRuntimeRole (nodeId : NodeId) : Bool :=
  nodeId ∈ resolver.runtimeRoles

def registerRole (nodeId : NodeId) : RoleResolver where
  roles := if resolver.containsRole nodeId then resolver.roles
    else resolver.roles ++ [.new nodeId []]
  runtimeRoles := pushUnique resolver.runtimeRoles nodeId

def removeRole (nodeId : NodeId) : RoleResolver × Bool :=
  if !resolver.isRuntimeRole nodeId then (resolver, false)
  else if !resolver.containsRole nodeId then (resolver, false)
  else ({
    roles := resolver.roles.eraseP (·.nodeId = nodeId)
    runtimeRoles := resolver.runtimeRoles.filter (· ≠ nodeId) }, true)

def addMapping (nodeId : NodeId) (rule : IdentityMappingRule) : RoleResolver :=
  if resolver.containsRole nodeId then
    { resolver with roles := (editFirst nodeId (RoleRules.pushRule rule) resolver.roles).1 }
  else { resolver with roles := resolver.roles ++ [.new nodeId [rule]] }

/-- The operations that edit a role that is there, and do nothing otherwise. -/
def editRole (nodeId : NodeId) (edit : RoleRules → RoleRules × Bool) : RoleResolver × Bool :=
  ({ resolver with roles := (editFirst nodeId edit resolver.roles).1 },
    (editFirst nodeId edit resolver.roles).2)

def removeMapping (nodeId : NodeId) (rule : IdentityMappingRule) :=
  resolver.editRole nodeId (RoleRules.removeRule rule)

def addApplication (nodeId : NodeId) (applicationUri : String) :=
  resolver.editRole nodeId (RoleRules.filterApplications (·.add applicationUri))

def removeApplication (nodeId : NodeId) (applicationUri : String) :=
  resolver.editRole nodeId (RoleRules.filterApplications (·.remove applicationUri))

def addEndpoint (nodeId : NodeId) (endpointUrl : String) :=
  resolver.editRole nodeId (RoleRules.filterEndpoints (·.add endpointUrl))

def removeEndpoint (nodeId : NodeId) (endpointUrl : String) :=
  resolver.editRole nodeId (RoleRules.filterEndpoints (·.remove endpointUrl))

def resolve (identity : ResolvedIdentity) : List NodeId :=
  let authenticatedUser := WellKnownRole.authenticatedUser.nodeId
  let granting := (resolver.roles.filter (·.grants identity)).map (·.nodeId)
  let granted := (granting.filter (· ≠ authenticatedUser)).foldl pushUnique []
  if authenticatedUser ∈ granting then pushUnique granted authenticatedUser else granted

end RoleResolver

/-- A configured user. The thumbprint is its text in hexadecimal digits. -/
structure ServerUserToken where
  user : String
  x509 : Option String
  thumbprint : Option String
  roles : List NodeId

namespace ServerUserToken

def isUserPass (token : ServerUserToken) : Bool := token.x509.isNone

def rule (token : ServerUserToken) : Option IdentityMappingRule :=
  if token.isUserPass then some (.userName token.user) else token.thumbprint.map .thumbprint

end ServerUserToken

namespace RoleResolver

def addUserToken (resolver : RoleResolver) (token : ServerUserToken) : RoleResolver :=
  match token.rule with
  | some rule => token.roles.foldl (fun resolver role => resolver.addMapping role rule) resolver
  | none => resolver

def fromUserTokens (userTokens : List ServerUserToken) : RoleResolver :=
  userTokens.foldl addUserToken default

end RoleResolver

/-! ### Administration -/

inductive RoleOp
  | registerRole (role : NodeId)
  | removeRole (role : NodeId)
  | addMapping (role : NodeId) (rule : IdentityMappingRule)
  | removeMapping (role : NodeId) (rule : IdentityMappingRule)
  | addApplication (role : NodeId) (applicationUri : String)
  | removeApplication (role : NodeId) (applicationUri : String)
  | addEndpoint (role : NodeId) (endpointUrl : String)
  | removeEndpoint (role : NodeId) (endpointUrl : String)

def RoleOp.role : RoleOp → NodeId
  | .registerRole role | .removeRole role | .addMapping role _ | .removeMapping role _
  | .addApplication role _ | .removeApplication role _ | .addEndpoint role _
  | .removeEndpoint role _ => role

namespace RoleResolver

variable (resolver : RoleResolver)

def apply : RoleOp → RoleResolver
  | .registerRole role => resolver.registerRole role
  | .removeRole role => (resolver.removeRole role).1
  | .addMapping role rule => resolver.addMapping role rule
  | .removeMapping role rule => (resolver.removeMapping role rule).1
  | .addApplication role applicationUri => (resolver.addApplication role applicationUri).1
  | .removeApplication role applicationUri => (resolver.removeApplication role applicationUri).1
  | .addEndpoint role endpointUrl => (resolver.addEndpoint role endpointUrl).1
  | .removeEndpoint role endpointUrl => (resolver.removeEndpoint role endpointUrl).1

def administration : Machine RoleResolver RoleOp where
  step resolver op := some (resolver.apply op)

/-- Where administration begins. -/
def Configured : Prop :=
  resolver = .default ∨ ∃ userTokens, resolver = .fromUserTokens userTokens

def rulesOf (nodeId : NodeId) : Option RoleRules :=
  resolver.roles.find? (·.nodeId = nodeId)

/-- **No two entries are for one role.** -/
def Distinct : Prop := (resolver.roles.map (·.nodeId)).Nodup

end RoleResolver

/-! ### What administration asks for -/

/-- A filter, by its entries. -/
structure FilterConfig where
  entries : Set String
  exclude : Bool

namespace FilterConfig

def Allows (filter : FilterConfig) (actual : Option String) : Prop :=
  filter.entries.Nonempty →
    ((∃ entry ∈ filter.entries, actual = some entry) ↔ filter.exclude = false)

def adding (filter : FilterConfig) (entry : String) : FilterConfig :=
  { filter with entries := insert entry filter.entries }

def without (filter : FilterConfig) (entry : String) : FilterConfig :=
  { filter with entries := filter.entries \ {entry} }

end FilterConfig

/-- **What is configured for a role,** whatever the order it was configured in. -/
@[ext] structure RoleConfig where
  identityRules : Set IdentityMappingRule
  applications : FilterConfig
  endpoints : FilterConfig

namespace RoleConfig

def empty : RoleConfig := ⟨∅, ⟨∅, true⟩, ⟨∅, true⟩⟩

def Grants (config : RoleConfig) (identity : ResolvedIdentity) : Prop :=
  (∃ rule ∈ config.identityRules, matchesRule rule identity) ∧
    config.applications.Allows identity.applicationUri ∧
    config.endpoints.Allows identity.endpointUrl

def withRule (config : RoleConfig) (rule : IdentityMappingRule) : RoleConfig :=
  { config with identityRules := insert rule config.identityRules }

def withoutRule (config : RoleConfig) (rule : IdentityMappingRule) : RoleConfig :=
  { config with identityRules := config.identityRules \ {rule} }

end RoleConfig

/-- How a role stands: whether it was added at runtime, and what is configured for it if it is
there. -/
structure Standing where
  runtime : Bool
  config : Option RoleConfig

/-- **What an operation asks for** of its role. -/
def RoleOp.asked : RoleOp → Standing → Standing
  | .registerRole _, before => ⟨true, some (before.config.getD .empty)⟩
  | .removeRole _, before =>
    if before.runtime && before.config.isSome then ⟨false, none⟩ else before
  | .addMapping _ rule, before =>
    { before with config := some ((before.config.getD .empty).withRule rule) }
  | .removeMapping _ rule, before =>
    { before with config := before.config.map (·.withoutRule rule) }
  | .addApplication _ applicationUri, before => { before with
      config := before.config.map fun config =>
        { config with applications := config.applications.adding applicationUri } }
  | .removeApplication _ applicationUri, before => { before with
      config := before.config.map fun config =>
        { config with applications := config.applications.without applicationUri } }
  | .addEndpoint _ endpointUrl, before => { before with
      config := before.config.map fun config =>
        { config with endpoints := config.endpoints.adding endpointUrl } }
  | .removeEndpoint _ endpointUrl, before => { before with
      config := before.config.map fun config =>
        { config with endpoints := config.endpoints.without endpointUrl } }

def RoleFilter.config (filter : RoleFilter) : FilterConfig :=
  ⟨{entry | entry ∈ filter.entries}, filter.exclude⟩

def RoleRules.config (rules : RoleRules) : RoleConfig :=
  ⟨{rule | rule ∈ rules.identityRules}, rules.applications.config, rules.endpoints.config⟩

def RoleResolver.standing (resolver : RoleResolver) (role : NodeId) : Standing :=
  ⟨resolver.isRuntimeRole role, (resolver.rulesOf role).map RoleRules.config⟩

theorem RoleFilter.allows_iff (filter : RoleFilter) (actual : Option String) :
    filter.allows actual ↔ filter.config.Allows actual := by
  obtain ⟨entries, exclude, once⟩ := filter
  unfold RoleFilter.allows FilterConfig.Allows RoleFilter.config
  cases entries with
  | nil => simp
  | cons first others =>
    have present : {entry | entry ∈ first :: others}.Nonempty := ⟨first, List.mem_cons_self⟩
    have found : (∃ entry ∈ {entry | entry ∈ first :: others}, actual = some entry) ↔
        actual.any (· ∈ first :: others) := by
      cases actual with
      | none => simp
      | some actual => simp
    simp only [present, forall_const, found]
    cases exclude <;> simp

theorem RoleRules.grants_iff (rules : RoleRules) (identity : ResolvedIdentity) :
    rules.grants identity ↔ rules.config.Grants identity := by
  unfold RoleRules.grants RoleConfig.Grants RoleRules.config
  rw [Bool.and_eq_true, Bool.and_eq_true, List.any_eq_true, RoleFilter.allows_iff,
    RoleFilter.allows_iff, and_assoc]
  rfl

theorem RoleFilter.config_add (filter : RoleFilter) (entry : String) :
    (filter.add entry).1.config = filter.config.adding entry := by
  unfold RoleFilter.add FilterConfig.adding RoleFilter.config
  split_ifs with known
  · congr 1
    exact (Set.insert_eq_of_mem (s := {entry | entry ∈ filter.entries}) known).symm
  · congr 1
    ext other
    simp [or_comm]

theorem RoleFilter.config_remove (filter : RoleFilter) (entry : String) :
    (filter.remove entry).1.config = filter.config.without entry := by
  unfold RoleFilter.remove FilterConfig.without RoleFilter.config
  split_ifs with known
  · congr 1
    ext other
    simp [filter.once.mem_erase_iff, and_comm]
  · congr 1
    exact (Set.sdiff_singleton_eq_self (s := {entry | entry ∈ filter.entries}) known).symm

theorem RoleRules.config_pushRule (rule : IdentityMappingRule) (rules : RoleRules) :
    (rules.pushRule rule).1.config = rules.config.withRule rule := by
  unfold RoleRules.pushRule RoleRules.config RoleConfig.withRule
  congr 1
  ext other
  simp [or_comm]

/-- One entry of a rule is removed: the rule is gone if there was no other. -/
theorem RoleRules.config_removeRule_iff (rule : IdentityMappingRule) (rules : RoleRules) :
    (rules.removeRule rule).1.config = rules.config.withoutRule rule ↔
      rules.identityRules.count rule ≤ 1 := by
  unfold RoleRules.removeRule
  split_ifs with stored
  · have left : rule ∉ rules.identityRules.erase rule ↔ rules.identityRules.count rule ≤ 1 := by
      rw [← List.count_pos_iff, List.count_erase_self]
      omega
    rw [← left]
    constructor
    · intro same here
      have gone : rule ∈ (rules.config.withoutRule rule).identityRules := by
        rw [← same]
        exact here
      exact gone.2 rfl
    · intro gone
      ext other
      · by_cases this : other = rule
        · subst this
          simp [RoleRules.config, RoleConfig.withoutRule, gone]
        · simp [RoleRules.config, RoleConfig.withoutRule, this, List.mem_erase_of_ne this]
      all_goals rfl
  · refine iff_of_true ?_ (by rw [List.count_eq_zero_of_not_mem stored]; omega)
    ext other
    · have differs : other ∈ rules.identityRules → other ≠ rule :=
        fun here same => stored (same ▸ here)
      simpa [RoleRules.config, RoleConfig.withoutRule] using differs
    all_goals rfl

/-! ### Edits of one role -/

open List

section Edits

variable {nodeId other : NodeId} {edit : RoleRules → RoleRules × Bool}
  (keeps : ∀ rules, (edit rules).1.nodeId = rules.nodeId)

include keeps

theorem map_nodeId_editFirst (roles : List RoleRules) :
    (editFirst nodeId edit roles).1.map (·.nodeId) = roles.map (·.nodeId) := by
  induction roles with
  | nil => rfl
  | cons role roles ih =>
    rw [editFirst]
    split_ifs
    · simp [keeps]
    · simp [ih]

theorem find?_editFirst_self (roles : List RoleRules) :
    (editFirst nodeId edit roles).1.find? (·.nodeId = nodeId) =
      (roles.find? (·.nodeId = nodeId)).map fun rules => (edit rules).1 := by
  induction roles with
  | nil => rfl
  | cons role roles ih =>
    rw [editFirst]
    split_ifs with here
    · simp [keeps, here]
    · simp [here, ih]

theorem find?_editFirst_of_ne (differs : nodeId ≠ other) (roles : List RoleRules) :
    (editFirst nodeId edit roles).1.find? (·.nodeId = other) =
      roles.find? (·.nodeId = other) := by
  induction roles with
  | nil => rfl
  | cons role roles ih =>
    rw [editFirst]
    split_ifs with here
    · simp [keeps, here, differs]
    · by_cases same : role.nodeId = other
      · simp [same]
      · simp [same, ih]

omit keeps in
theorem editFirst_done (roles : List RoleRules) :
    (editFirst nodeId edit roles).2 =
      (roles.find? (·.nodeId = nodeId)).any fun rules => (edit rules).2 := by
  induction roles with
  | nil => rfl
  | cons role roles ih =>
    rw [editFirst]
    split_ifs with here
    · simp [here]
    · simp [here, ih]

end Edits

/-! ### Who is granted a role -/

theorem mem_foldl_pushUnique {value : NodeId} : ∀ {values found : List NodeId},
    value ∈ values.foldl pushUnique found ↔ value ∈ found ∨ value ∈ values
  | [], found => by simp
  | first :: others, found => by
    rw [foldl_cons, mem_foldl_pushUnique, pushUnique]
    split_ifs with known
    · constructor
      · rintro (here | later)
        · exact .inl here
        · exact .inr (mem_cons_of_mem _ later)
      · rintro (here | later)
        · exact .inl here
        · rcases mem_cons.mp later with rfl | later
          · exact .inl known
          · exact .inr later
    · rw [mem_append, mem_singleton, mem_cons, or_assoc]

theorem nodup_pushUnique {values : List NodeId} (unique : values.Nodup) (value : NodeId) :
    (pushUnique values value).Nodup := by
  unfold pushUnique
  split_ifs with known
  · exact unique
  · exact unique.append (nodup_singleton value) (by simpa using known)

theorem nodup_foldl_pushUnique (values : List NodeId) : ∀ {found : List NodeId}, found.Nodup →
    (values.foldl pushUnique found).Nodup := by
  induction values with
  | nil => exact fun unique => unique
  | cons first _ ih => exact fun unique => ih (nodup_pushUnique unique first)

namespace RoleResolver

variable {resolver : RoleResolver} {identity : ResolvedIdentity} {role other : NodeId}

theorem mem_resolve_iff_exists : role ∈ resolver.resolve identity ↔
    ∃ rules ∈ resolver.roles, rules.grants identity ∧ rules.nodeId = role := by
  have granting : role ∈ (resolver.roles.filter (·.grants identity)).map (·.nodeId) ↔
      ∃ rules ∈ resolver.roles, rules.grants identity ∧ rules.nodeId = role := by
    simp [and_assoc]
  rw [← granting]
  unfold resolve
  by_cases authenticated : role = WellKnownRole.authenticatedUser.nodeId
  · subst authenticated
    dsimp only
    split_ifs with granted
    · rw [show pushUnique _ WellKnownRole.authenticatedUser.nodeId =
        foldl pushUnique _ [WellKnownRole.authenticatedUser.nodeId] from rfl,
        mem_foldl_pushUnique]
      exact iff_of_true (.inr (mem_singleton.mpr rfl)) granted
    · rw [mem_foldl_pushUnique]
      simp [granted, mem_filter]
  · dsimp only
    split_ifs
    · rw [show pushUnique _ WellKnownRole.authenticatedUser.nodeId =
        foldl pushUnique _ [WellKnownRole.authenticatedUser.nodeId] from rfl,
        mem_foldl_pushUnique, mem_foldl_pushUnique]
      simp [authenticated]
    · rw [mem_foldl_pushUnique]
      simp [authenticated]

theorem resolve_nodup (resolver : RoleResolver) (identity : ResolvedIdentity) :
    (resolver.resolve identity).Nodup := by
  have granted := nodup_foldl_pushUnique (((resolver.roles.filter (·.grants identity)).map
    (·.nodeId)).filter (· ≠ WellKnownRole.authenticatedUser.nodeId)) nodup_nil
  unfold resolve
  dsimp only
  split_ifs
  · exact nodup_pushUnique granted _
  · exact granted

variable {rules : RoleRules}

theorem Distinct.rulesOf_eq (distinct : resolver.Distinct) (member : rules ∈ resolver.roles) :
    resolver.rulesOf rules.nodeId = some rules := by
  obtain ⟨roles, runtimeRoles⟩ := resolver
  unfold rulesOf
  induction roles with
  | nil => cases member
  | cons first others ih =>
    obtain ⟨fresh, later⟩ := nodup_cons.mp distinct
    rcases mem_cons.mp member with rfl | member
    · simp
    · have differs : first.nodeId ≠ rules.nodeId := fun same =>
        fresh (mem_map.mpr ⟨rules, member, same.symm⟩)
      have found := ih later member
      simp only [find?_cons, differs, decide_false]
      exact found

theorem rulesOf_eq_some (found : resolver.rulesOf role = some rules) :
    rules ∈ resolver.roles ∧ rules.nodeId = role :=
  ⟨mem_of_find?_eq_some found, by simpa using find?_some found⟩

theorem mem_resolve (distinct : resolver.Distinct) : role ∈ resolver.resolve identity ↔
    ∃ rules, resolver.rulesOf role = some rules ∧ rules.grants identity := by
  rw [mem_resolve_iff_exists]
  constructor
  · rintro ⟨rules, member, granted, rfl⟩
    exact ⟨rules, distinct.rulesOf_eq member, granted⟩
  · rintro ⟨rules, found, granted⟩
    obtain ⟨member, same⟩ := rulesOf_eq_some found
    exact ⟨rules, member, granted, same⟩

/-! ### What an operation leaves -/

theorem containsRole_iff : resolver.containsRole role ↔
    ∃ rules, resolver.rulesOf role = some rules := by
  unfold containsRole rulesOf
  rw [any_eq_true, ← Option.isSome_iff_exists, find?_isSome]

theorem find?_eraseP_of_ne (differs : role ≠ other) (roles : List RoleRules) :
    (roles.eraseP (·.nodeId = role)).find? (·.nodeId = other) = roles.find? (·.nodeId = other) := by
  induction roles with
  | nil => rfl
  | cons first others ih =>
    by_cases here : first.nodeId = role
    · simp [here, differs]
    · rw [eraseP_cons_of_neg (by simpa using here)]
      by_cases same : first.nodeId = other
      · simp [same]
      · simp [same, ih]

theorem keeps_pushRule (rule : IdentityMappingRule) (rules : RoleRules) :
    (rules.pushRule rule).1.nodeId = rules.nodeId := rfl

theorem keeps_removeRule (rule : IdentityMappingRule) (rules : RoleRules) :
    (rules.removeRule rule).1.nodeId = rules.nodeId := by
  unfold RoleRules.removeRule
  split_ifs <;> rfl

theorem rulesOf_append_of_ne (differs : rules.nodeId ≠ other) :
    (resolver.roles ++ [rules]).find? (·.nodeId = other) = resolver.rulesOf other := by
  simp [rulesOf, differs]

variable {edit : RoleRules → RoleRules × Bool}

theorem editRole_of_ne
    (keeps : ∀ rules, (edit rules).1.nodeId = rules.nodeId) (differs : role ≠ other) :
    (resolver.editRole role edit).1.rulesOf other = resolver.rulesOf other :=
  find?_editFirst_of_ne keeps differs resolver.roles

/-- **An operation leaves the rules of the other roles as they were.** -/
theorem rulesOf_apply_of_ne {op : RoleOp} (differs : op.role ≠ other) :
    (resolver.apply op).rulesOf other = resolver.rulesOf other := by
  cases op with
  | registerRole role =>
    show find? _ (if _ then _ else _) = _
    split_ifs
    · rfl
    · exact rulesOf_append_of_ne differs
  | removeRole role =>
    show (resolver.removeRole role).1.rulesOf other = _
    unfold removeRole
    split_ifs
    · rfl
    · rfl
    · exact find?_eraseP_of_ne differs resolver.roles
  | addMapping role rule =>
    show (resolver.addMapping role rule).rulesOf other = _
    unfold addMapping
    split_ifs
    · exact find?_editFirst_of_ne (keeps_pushRule rule) differs resolver.roles
    · exact rulesOf_append_of_ne differs
  | removeMapping role rule => exact editRole_of_ne (keeps_removeRule rule) differs
  | addApplication role uri => exact editRole_of_ne (fun _ => rfl) differs
  | removeApplication | addEndpoint | removeEndpoint => exact editRole_of_ne (fun _ => rfl) differs

section

variable (distinct : resolver.Distinct)
include distinct

theorem Distinct.editRole (keeps : ∀ rules, (edit rules).1.nodeId = rules.nodeId) :
    (resolver.editRole role edit).1.Distinct := by
  unfold Distinct RoleResolver.editRole
  rw [map_nodeId_editFirst keeps]
  exact distinct

theorem Distinct.append (absent : ¬ resolver.containsRole rules.nodeId) :
    ((resolver.roles ++ [rules]).map (·.nodeId)).Nodup := by
  rw [map_append]
  refine List.Nodup.append distinct (nodup_singleton _) ?_
  rw [map_singleton, disjoint_singleton]
  intro member
  obtain ⟨found, here, same⟩ := mem_map.mp member
  exact absent (any_eq_true.mpr ⟨found, here, by simpa using same⟩)

theorem Distinct.addMapping (role : NodeId) (rule : IdentityMappingRule) :
    (resolver.addMapping role rule).Distinct := by
  unfold RoleResolver.addMapping
  split_ifs with known
  · exact distinct.editRole (keeps_pushRule rule)
  · exact distinct.append known

theorem Distinct.apply (op : RoleOp) : (resolver.apply op).Distinct := by
  cases op with
  | registerRole role =>
    show ((ite _ _ _ : List RoleRules).map (·.nodeId)).Nodup
    split_ifs with known
    · exact distinct
    · exact distinct.append known
  | removeRole role =>
    show (resolver.removeRole role).1.Distinct
    unfold RoleResolver.removeRole
    split_ifs
    · exact distinct
    · exact distinct
    · exact distinct.sublist (eraseP_sublist.map _)
  | addMapping role rule => exact distinct.addMapping role rule
  | removeMapping role rule => exact distinct.editRole (keeps_removeRule rule)
  | addApplication role uri => exact distinct.editRole fun _ => rfl
  | removeApplication | addEndpoint | removeEndpoint => exact distinct.editRole fun _ => rfl

end

theorem distinct_default : RoleResolver.default.Distinct := by
  unfold Distinct
  decide

theorem Distinct.addUserToken (distinct : resolver.Distinct) (token : ServerUserToken) :
    (resolver.addUserToken token).Distinct := by
  unfold RoleResolver.addUserToken
  cases token.rule with
  | none => exact distinct
  | some rule =>
    induction token.roles generalizing resolver with
    | nil => exact distinct
    | cons role _ ih => exact ih (distinct.addMapping role rule)

theorem distinct_fromUserTokens (userTokens : List ServerUserToken) :
    (fromUserTokens userTokens).Distinct := by
  suffices each : ∀ resolver : RoleResolver, resolver.Distinct →
      (userTokens.foldl addUserToken resolver).Distinct from each _ distinct_default
  induction userTokens with
  | nil => exact fun _ distinct => distinct
  | cons token tokens ih => exact fun _ distinct => ih _ (distinct.addUserToken token)

theorem distinct_of_reachable (reached : administration.Reachable Configured resolver) :
    resolver.Distinct := by
  refine Machine.Reachable.invariant _ reached (fun resolver begins => ?_)
    fun resolver op next distinct stepped => ?_
  · rcases begins with rfl | ⟨userTokens, rfl⟩
    · exact distinct_default
    · exact distinct_fromUserTokens userTokens
  · cases stepped
    exact distinct.apply op

/-! ### Removing -/

def Configures (resolver : RoleResolver) (role : NodeId) (rule : IdentityMappingRule) : Prop :=
  ∃ rules, resolver.rulesOf role = some rules ∧ rule ∈ rules.identityRules

def timesStored (resolver : RoleResolver) (role : NodeId) (rule : IdentityMappingRule) : ℕ :=
  (resolver.rulesOf role).elim 0 (·.identityRules.count rule)

theorem removeMapping_iff {rule : IdentityMappingRule}
    (removed : (resolver.removeMapping role rule).2 = true) :
    ¬ (resolver.removeMapping role rule).1.Configures role rule ↔
      resolver.timesStored role rule = 1 := by
  have after : (resolver.removeMapping role rule).1.rulesOf role =
      (resolver.rulesOf role).map fun rules => (rules.removeRule rule).1 :=
    find?_editFirst_self (keeps_removeRule rule) resolver.roles
  have done : (resolver.removeMapping role rule).2 =
      (resolver.rulesOf role).any fun rules => (rules.removeRule rule).2 :=
    editFirst_done resolver.roles
  unfold Configures timesStored
  rw [after]
  rw [done] at removed
  cases found : resolver.rulesOf role with
  | none =>
    rw [found] at removed
    cases removed
  | some rules =>
    rw [found] at removed
    have stored : rule ∈ rules.identityRules := by
      by_contra absent
      simp [RoleRules.removeRule, absent] at removed
    have left : (rules.removeRule rule).1.identityRules = rules.identityRules.erase rule := by
      simp [RoleRules.removeRule, stored]
    have counted : 0 < rules.identityRules.count rule := count_pos_iff.mpr stored
    simp only [Option.map_some, Option.some.injEq, exists_eq_left', Option.elim_some, left]
    rw [← count_pos_iff, count_erase_self]
    omega

theorem find?_eraseP_self (distinct : resolver.Distinct) :
    (resolver.roles.eraseP (·.nodeId = role)).find? (·.nodeId = role) = none := by
  obtain ⟨roles, runtimeRoles⟩ := resolver
  induction roles with
  | nil => rfl
  | cons first others ih =>
    obtain ⟨fresh, later⟩ := nodup_cons.mp distinct
    by_cases here : first.nodeId = role
    · rw [eraseP_cons_of_pos (by simpa using here), find?_eq_none]
      intro rules member same
      exact fresh (mem_map.mpr ⟨rules, member, by simpa [here] using same⟩)
    · rw [eraseP_cons_of_neg (by simpa using here)]
      simp [here, ih later]

/-- **A role that was removed comes back without rules and filters.** -/
theorem registerRole_removeRole (distinct : resolver.Distinct)
    (removed : (resolver.removeRole role).2 = true) :
    ((resolver.removeRole role).1.registerRole role).rulesOf role = some (.new role []) := by
  unfold removeRole at removed ⊢
  split_ifs at removed ⊢ with runtime known
  have gone : (resolver.roles.eraseP (·.nodeId = role)).find? (·.nodeId = role) = none :=
    find?_eraseP_self distinct
  have absent : ¬ RoleResolver.containsRole ⟨resolver.roles.eraseP (·.nodeId = role),
      resolver.runtimeRoles.filter (· ≠ role)⟩ role := by
    rw [containsRole_iff]
    rintro ⟨rules, found⟩
    rw [rulesOf, gone] at found
    cases found
  unfold registerRole rulesOf
  rw [if_neg absent, find?_append, gone]
  simp [RoleRules.new]

/-! ### What was asked for is done -/

theorem standing_editRole (keeps : ∀ rules, (edit rules).1.nodeId = rules.nodeId) :
    (resolver.editRole role edit).1.standing role =
      ⟨resolver.isRuntimeRole role, (resolver.rulesOf role).map fun rules =>
        (edit rules).1.config⟩ := by
  have found : (resolver.editRole role edit).1.rulesOf role =
      (resolver.rulesOf role).map fun rules => (edit rules).1 :=
    find?_editFirst_self keeps resolver.roles
  unfold RoleResolver.standing
  rw [found, Option.map_map]
  rfl

/-- An edit that does to what is configured as it is asked. -/
theorem standing_editRole_of_config (asked : RoleConfig → RoleConfig)
    (keeps : ∀ rules, (edit rules).1.nodeId = rules.nodeId)
    (does : ∀ rules, (edit rules).1.config = asked rules.config) :
    (resolver.editRole role edit).1.standing role =
      { resolver.standing role with config := (resolver.standing role).config.map asked } := by
  rw [standing_editRole keeps]
  unfold RoleResolver.standing
  rw [Option.map_map]
  congr 2
  exact funext does

theorem rulesOf_append_self (absent : ¬ resolver.containsRole role) (same : rules.nodeId = role) :
    (resolver.roles ++ [rules]).find? (·.nodeId = role) = some rules := by
  have none : resolver.roles.find? (·.nodeId = role) = none := by
    simpa [containsRole] using absent
  rw [find?_append, none]
  simp [same]

theorem config_eq_none (absent : ¬ resolver.containsRole role) :
    (resolver.standing role).config = none := by
  rw [containsRole_iff, ← Option.isSome_iff_exists] at absent
  simp only [Option.isSome_iff_ne_none, ne_eq, not_not] at absent
  unfold RoleResolver.standing
  rw [absent]
  rfl

theorem standing_registerRole :
    (resolver.registerRole role).standing role =
      ⟨true, some ((resolver.standing role).config.getD .empty)⟩ := by
  have runtime : (resolver.registerRole role).isRuntimeRole role = true := by
    refine decide_eq_true ?_
    show role ∈ foldl pushUnique _ [role]
    exact mem_foldl_pushUnique.mpr (.inr (mem_singleton.mpr rfl))
  by_cases known : resolver.containsRole role
  · obtain ⟨rules, found⟩ := containsRole_iff.mp known
    have kept : (resolver.registerRole role).rulesOf role = some rules := by
      unfold rulesOf registerRole
      rw [if_pos known]
      exact found
    simp only [RoleResolver.standing, runtime, kept, found, Option.map_some, Option.getD_some]
  · have added : (resolver.registerRole role).rulesOf role = some (.new role []) := by
      unfold rulesOf registerRole
      rw [if_neg known]
      exact rulesOf_append_self known rfl
    rw [config_eq_none known]
    simp only [RoleResolver.standing, runtime, added, Option.map_some, Option.getD_none]
    congr 2
    unfold RoleRules.config RoleRules.new RoleConfig.empty RoleFilter.config RoleFilter.default
    simp

theorem standing_removeRole (distinct : resolver.Distinct) :
    (resolver.removeRole role).1.standing role =
      if (resolver.standing role).runtime && (resolver.standing role).config.isSome then
        ⟨false, none⟩
      else resolver.standing role := by
  unfold removeRole
  by_cases runtime : resolver.isRuntimeRole role
  · by_cases known : resolver.containsRole role
    · obtain ⟨rules, found⟩ := containsRole_iff.mp known
      have gone : (RoleResolver.mk (resolver.roles.eraseP (·.nodeId = role))
          (resolver.runtimeRoles.filter (· ≠ role))).rulesOf role = none :=
        find?_eraseP_self distinct
      have left : (RoleResolver.mk (resolver.roles.eraseP (·.nodeId = role))
          (resolver.runtimeRoles.filter (· ≠ role))).isRuntimeRole role = false := by
        simp [isRuntimeRole]
      rw [if_neg (by simp [runtime]), if_neg (by simp [known]), if_pos]
      · unfold RoleResolver.standing
        rw [gone, left]
        rfl
      · simp [RoleResolver.standing, runtime, found]
    · rw [if_neg (by simp [runtime]), if_pos (by simp [known]), if_neg]
      simp [config_eq_none known]
  · rw [if_pos (by simp [runtime]), if_neg]
    simp [RoleResolver.standing, runtime]

theorem standing_addMapping (rule : IdentityMappingRule) :
    (resolver.addMapping role rule).standing role = { resolver.standing role with
      config := some (((resolver.standing role).config.getD .empty).withRule rule) } := by
  unfold addMapping
  split_ifs with known
  · obtain ⟨rules, found⟩ := containsRole_iff.mp known
    have here : (resolver.standing role).config = some rules.config := by
      unfold RoleResolver.standing
      rw [found]
      rfl
    refine (standing_editRole_of_config (·.withRule rule) (keeps_pushRule rule)
      (RoleRules.config_pushRule rule)).trans ?_
    rw [here]
    rfl
  · have added : (RoleResolver.mk (resolver.roles ++ [.new role [rule]])
        resolver.runtimeRoles).rulesOf role = some (.new role [rule]) :=
      rulesOf_append_self known rfl
    rw [config_eq_none known]
    unfold RoleResolver.standing
    rw [added]
    simp [RoleRules.config, RoleRules.new, RoleConfig.empty, RoleConfig.withRule,
      RoleFilter.config, RoleFilter.default, isRuntimeRole]

/-- The rule that is removed is not stored more than once. -/
def RemovesOnce (resolver : RoleResolver) : RoleOp → Prop
  | .removeMapping role rule => resolver.timesStored role rule ≤ 1
  | _ => True

/-- **An operation does what it asks for,** exactly if it is not the removal of a rule that is
stored more than once. -/
theorem apply_asked_iff (distinct : resolver.Distinct) (op : RoleOp) :
    (resolver.apply op).standing op.role = op.asked (resolver.standing op.role) ↔
      resolver.RemovesOnce op := by
  cases op with
  | registerRole role => exact iff_of_true standing_registerRole trivial
  | removeRole role => exact iff_of_true (standing_removeRole distinct) trivial
  | addMapping role rule => exact iff_of_true (standing_addMapping rule) trivial
  | removeMapping role rule =>
    show (resolver.editRole role (RoleRules.removeRule rule)).1.standing role =
      ⟨resolver.isRuntimeRole role, (resolver.standing role).config.map _⟩ ↔
        (resolver.rulesOf role).elim 0 (·.identityRules.count rule) ≤ 1
    rw [standing_editRole (keeps_removeRule rule)]
    unfold RoleResolver.standing
    cases resolver.rulesOf role with
    | none => simp
    | some rules => simpa using RoleRules.config_removeRule_iff rule rules
  | addApplication role uri =>
    exact iff_of_true (standing_editRole_of_config _ (fun _ => rfl) fun rules =>
      congrArg (fun filter => { rules.config with applications := filter })
        (rules.applications.config_add uri)) trivial
  | removeApplication role uri =>
    exact iff_of_true (standing_editRole_of_config _ (fun _ => rfl) fun rules =>
      congrArg (fun filter => { rules.config with applications := filter })
        (rules.applications.config_remove uri)) trivial
  | addEndpoint role url =>
    exact iff_of_true (standing_editRole_of_config _ (fun _ => rfl) fun rules =>
      congrArg (fun filter => { rules.config with endpoints := filter })
        (rules.endpoints.config_add url)) trivial
  | removeEndpoint role url =>
    exact iff_of_true (standing_editRole_of_config _ (fun _ => rfl) fun rules =>
      congrArg (fun filter => { rules.config with endpoints := filter })
        (rules.endpoints.config_remove url)) trivial

theorem mem_resolve_iff_config (distinct : resolver.Distinct) :
    role ∈ resolver.resolve identity ↔
      ∃ config, (resolver.standing role).config = some config ∧ config.Grants identity := by
  rw [mem_resolve distinct]
  unfold RoleResolver.standing
  constructor
  · rintro ⟨rules, found, granted⟩
    exact ⟨rules.config, by rw [found]; rfl, (rules.grants_iff identity).mp granted⟩
  · rintro ⟨config, found, granted⟩
    obtain ⟨rules, here, rfl⟩ := Option.map_eq_some_iff.mp found
    exact ⟨rules, here, (rules.grants_iff identity).mpr granted⟩

/-- **Administration has the effect that is asked for.** From any history of it, an identity has a
role exactly if one of the configured rules of the role is met and its filters allow it, and has it
once; an operation does to the rules and the filters of its role what it asks for, exactly if it
does not remove a rule that is stored more than once, and changes who has another role in no case; a
role that is removed and registered again has neither rules nor filters; and a rule that is removed
is gone exactly if it was stored once. -/
theorem role_administration (reached : administration.Reachable Configured resolver) :
    (∀ identity role, role ∈ resolver.resolve identity ↔
      ∃ config, (resolver.standing role).config = some config ∧ config.Grants identity) ∧
    (∀ identity, (resolver.resolve identity).Nodup) ∧
    (∀ op, (resolver.apply op).standing op.role = op.asked (resolver.standing op.role) ↔
      resolver.RemovesOnce op) ∧
    (∀ op other identity, RoleOp.role op ≠ other →
      (other ∈ (resolver.apply op).resolve identity ↔ other ∈ resolver.resolve identity)) ∧
    (∀ role, (resolver.removeRole role).2 = true →
      ((resolver.removeRole role).1.registerRole role).rulesOf role = some (.new role [])) ∧
    ∀ role rule, (resolver.removeMapping role rule).2 = true →
      (¬ (resolver.removeMapping role rule).1.Configures role rule ↔
        resolver.timesStored role rule = 1) := by
  have distinct := distinct_of_reachable reached
  refine ⟨fun identity role => mem_resolve_iff_config distinct, resolve_nodup resolver,
    apply_asked_iff distinct, fun op other identity differs => ?_,
    fun role removed => registerRole_removeRole distinct removed,
    fun role rule removed => removeMapping_iff removed⟩
  rw [mem_resolve (distinct.apply op), mem_resolve distinct, rulesOf_apply_of_ne differs]

def alice : ServerUserToken := ⟨"alice", none, none, [WellKnownRole.operator.nodeId]⟩

theorem fromUserTokens_reachable (userTokens : List ServerUserToken) :
    administration.Reachable Configured (fromUserTokens userTokens) :=
  Machine.Reachable.of_start _ (.inr ⟨userTokens, rfl⟩)

/-- A user who is configured once is an operator, until the rule is removed. -/
theorem role_administration_alice :
    WellKnownRole.operator.nodeId ∈
        (fromUserTokens [alice]).resolve ⟨.userName "alice", none, none⟩ ∧
      ((fromUserTokens [alice]).apply
          (.addApplication WellKnownRole.operator.nodeId "urn:hmi")).standing
          WellKnownRole.operator.nodeId =
        ⟨false, some ⟨{.userName "alice"}, ⟨{"urn:hmi"}, true⟩, ⟨∅, true⟩⟩⟩ ∧
      ¬ ((fromUserTokens [alice]).removeMapping WellKnownRole.operator.nodeId
        (.userName "alice")).1.Configures WellKnownRole.operator.nodeId (.userName "alice") := by
  have whole := role_administration (fromUserTokens_reachable [alice])
  have before : (fromUserTokens [alice]).standing WellKnownRole.operator.nodeId =
      ⟨false, some ⟨{.userName "alice"}, ⟨∅, true⟩, ⟨∅, true⟩⟩⟩ := by
    have found : ((fromUserTokens [alice]).rulesOf WellKnownRole.operator.nodeId).map
        RoleRules.config = some (RoleRules.config ⟨WellKnownRole.operator.nodeId,
          [.userName "alice"], .default, .default⟩) := rfl
    unfold RoleResolver.standing
    rw [found]
    show Standing.mk false _ = _
    simp [RoleRules.config, RoleFilter.config, RoleFilter.default]
  refine ⟨(whole.1 _ _).mpr ⟨_, rfl, (RoleRules.grants_iff _ _).mp (by decide)⟩, ?_,
    (whole.2.2.2.2.2 _ _ (by decide)).mpr (by decide)⟩
  refine ((whole.2.2.1 (.addApplication WellKnownRole.operator.nodeId "urn:hmi")).mpr
    trivial).trans ?_
  show Standing.mk _
    (((fromUserTokens [alice]).standing WellKnownRole.operator.nodeId).config.map _) = _
  rw [before]
  show Standing.mk false _ = _
  simp [FilterConfig.adding]

/-- **A rule that was removed still grants the role:** it was stored for two users of one name. -/
theorem removed_rule_grants :
    ¬ ∀ resolver, administration.Reachable Configured resolver → ∀ role rule,
      (resolver.removeMapping role rule).2 = true →
      ¬ (resolver.removeMapping role rule).1.Configures role rule := by
  intro always
  exact always _ (fromUserTokens_reachable [alice, alice]) WellKnownRole.operator.nodeId
    (.userName "alice") (by decide) ⟨_, rfl, by decide⟩

end RoleResolver

end AsyncOpcua.Rbac
