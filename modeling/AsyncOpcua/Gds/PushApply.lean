/-
**What an apply does to the certificate store.**

`ApplyChanges` writes the certificate and its key, reloads them, hands them to the endpoints and
then replaces trust lists, each by clearing its directory and storing the items one by one. Each of
these operations can fail, and nothing undoes the earlier ones.

* `StoreOp`, `perform`, `residue` — the operations, what each does, and what one that fails leaves.
-/

import AsyncOpcua.Gds.PushTransaction
import Mathlib.Data.Finset.Image

namespace AsyncOpcua.Gds

/-! ### The store and its operations -/

structure CertificateStore where
  ownCertificate : Bytes
  ownPrivateKey : Bytes
  lists : CertificateGroup → ListKind → Finset Bytes
  endpointCertificates : List (String × Option (Bytes × Bytes))

namespace CertificateStore

def withLists (store : CertificateStore)
    (replaced : CertificateGroup → ListKind → Option (Finset Bytes)) : CertificateStore :=
  { store with lists := fun group kind => (replaced group kind).getD (store.lists group kind) }

def setList (store : CertificateStore) (group : CertificateGroup) (kind : ListKind)
    (ders : Finset Bytes) : CertificateStore :=
  store.withLists fun group' kind' => if group' = group ∧ kind' = kind then some ders else none

def setEndpoints (store : CertificateStore) (credentials : Bytes × Bytes) : CertificateStore :=
  { store with
    endpointCertificates := store.endpointCertificates.map fun entry =>
      (entry.1, some credentials) }

end CertificateStore

inductive StoreOp where
  | readOwnPkey
  | createDirectories
  | writeCertificate (der : Bytes)
  | writePrivateKey
  | reloadStoreFromDisk
  | setEndpoints
  | clearDir (group : CertificateGroup) (kind : ListKind)
  | storeOne (group : CertificateGroup) (kind : ListKind) (der : Bytes)

/-- What an apply has read: the key to write, and what the store was reloaded to. -/
structure Registers where
  pkeyPem : Option Bytes
  reloaded : Option (Bytes × Bytes)

def PushExternals.parses (E : PushExternals) : ListKind → Bytes → Bool
  | .trustedCertificates | .issuerCertificates => E.certificateFromDer
  | .trustedCrls | .issuerCrls => E.crlFromDer

namespace StoreOp

/-- What an operation that succeeds does. -/
def perform (E : PushExternals) (op : StoreOp) (state : Registers × CertificateStore) :
    Option (Registers × CertificateStore) :=
  let (registers, store) := state
  match op with
  | readOwnPkey =>
    (E.toPem store.ownPrivateKey).map fun pem => ({ registers with pkeyPem := some pem }, store)
  | createDirectories => some (registers, store)
  | writeCertificate der => some (registers, { store with ownCertificate := der })
  | writePrivateKey =>
    registers.pkeyPem.map fun pem => (registers, { store with ownPrivateKey := pem })
  | reloadStoreFromDisk =>
    if E.certificateFromDer store.ownCertificate && E.privateKeyFromPem store.ownPrivateKey then
      some ({ registers with reloaded := some (store.ownCertificate, store.ownPrivateKey) }, store)
    else none
  | setEndpoints =>
    registers.reloaded.map fun credentials => (registers, store.setEndpoints credentials)
  | clearDir group kind => some (registers, store.setList group kind ∅)
  | storeOne group kind der =>
    if E.parses kind der then
      some (registers, store.setList group kind (insert der (store.lists group kind)))
    else none

/-- What an operation that fails leaves: a file that was being written holds `written`, if anything
of it was written. -/
def residue (op : StoreOp) (written : Option Bytes) (store : CertificateStore) : CertificateStore :=
  match op, written with
  | writeCertificate _, some bytes => { store with ownCertificate := bytes }
  | writePrivateKey, some bytes => { store with ownPrivateKey := bytes }
  | storeOne group kind _, some bytes =>
    store.setList group kind (insert bytes (store.lists group kind))
  | _, _ => store

def readOnly : StoreOp → Bool
  | readOwnPkey | createDirectories | reloadStoreFromDisk => true
  | writeCertificate _ | writePrivateKey | setEndpoints | clearDir .. | storeOne .. => false

end StoreOp

open Option List CertificateStore PushTransaction

section Perform

variable (E : PushExternals)

/-- All of some operations succeed. -/
def performAll (ops : List StoreOp) (state : Registers × CertificateStore) :
    Option (Registers × CertificateStore) :=
  match ops with
  | [] => some state
  | op :: rest => (op.perform E state).bind (performAll rest)

variable {E}

variable {state after : Registers × CertificateStore}

theorem performAll_append {first second : List StoreOp} :
    performAll E (first ++ second) state = some after ↔
      ∃ between, performAll E first state = some between ∧
        performAll E second between = some after := by
  induction first generalizing state with
  | nil => simp [performAll]
  | cons op rest ih =>
    simp only [cons_append, performAll, bind_eq_some_iff]
    constructor
    · rintro ⟨next, performed, later⟩
      obtain ⟨between, first, last⟩ := ih.mp later
      exact ⟨between, ⟨next, performed, first⟩, last⟩
    · rintro ⟨between, ⟨next, performed, first⟩, last⟩
      exact ⟨next, performed, ih.mpr ⟨between, first, last⟩⟩

theorem perform_readOnly {op : StoreOp} (reads : op.readOnly = true)
    (performed : op.perform E state = some after) : after.2 = state.2 := by
  cases op with
  | readOwnPkey =>
    obtain ⟨pem, -, rfl⟩ := map_eq_some_iff.mp performed
    rfl
  | createDirectories =>
    cases performed
    rfl
  | reloadStoreFromDisk =>
    simp only [StoreOp.perform] at performed
    split_ifs at performed
    cases performed
    rfl
  | writeCertificate _ | writePrivateKey | setEndpoints | clearDir _ _ | storeOne _ _ _ =>
    exact absurd reads Bool.false_ne_true

theorem performAll_readOnly {ops : List StoreOp} (reads : ∀ op ∈ ops, op.readOnly = true)
    (performed : performAll E ops state = some after) : after.2 = state.2 := by
  induction ops generalizing state with
  | nil =>
    cases performed
    rfl
  | cons op rest ih =>
    obtain ⟨next, first, later⟩ := bind_eq_some_iff.mp performed
    rw [ih (fun other member => reads other (mem_cons_of_mem _ member)) later]
    exact perform_readOnly (reads op mem_cons_self) first

end Perform

/-! ### The operations of an apply -/

/-- The certificate part of `handle_apply_changes`. -/
def certificateOps (staged : PushTransaction) : List StoreOp :=
  match staged.certificateDer with
  | none => []
  | some der =>
    (if staged.privateKeyPem.isNone then [.readOwnPkey] else []) ++
      [.createDirectories, .writeCertificate der, .writePrivateKey, .reloadStoreFromDisk,
        .setEndpoints]

def replaceList (group : CertificateGroup) (kind : ListKind) (ders : List Bytes) : List StoreOp :=
  .clearDir group kind :: ders.map (.storeOne group kind)

def ListKind.applied : List ListKind :=
  [.trustedCertificates, .issuerCertificates, .trustedCrls, .issuerCrls]

def applyTrustListUpdate (group : CertificateGroup) (trustList : TrustListDataType) :
    List StoreOp :=
  ListKind.applied.flatMap fun kind =>
    if trustList.specifies kind then replaceList group kind (byteStringsToDer (trustList.list kind))
    else []

def applyOps (staged : PushTransaction) (order : List CertificateGroup) : List StoreOp :=
  certificateOps staged ++ order.flatMap fun group =>
    match staged.pendingTrustLists group with
    | some trustList => applyTrustListUpdate group trustList
    | none => []

def PushTransaction.walkedBy (staged : PushTransaction) (order : List CertificateGroup) : Bool :=
  order.isPerm (CertificateGroup.ALL.filter fun group => (staged.pendingTrustLists group).isSome)

/-! ### What an apply is for -/

def installedCredentials (E : PushExternals) (values : Slot → Option PendingValue)
    (store : CertificateStore) : Option (Bytes × Bytes) :=
  match values .certificate with
  | some (.certificate der pem _ _) =>
    some (der, (pem.or (E.toPem store.ownPrivateKey)).getD store.ownPrivateKey)
  | _ => none

def installedLists (values : Slot → Option PendingValue) (group : CertificateGroup)
    (kind : ListKind) : Option (Finset Bytes) :=
  match values (.list group kind) with
  | some (.list ders) => some ders.toFinset
  | _ => none

namespace CertificateStore

def withCredentials (store : CertificateStore) (credentials : Option (Bytes × Bytes)) :
    CertificateStore :=
  { store with
    ownCertificate := (credentials.map Prod.fst).getD store.ownCertificate
    ownPrivateKey := (credentials.map Prod.snd).getD store.ownPrivateKey
    endpointCertificates := store.endpointCertificates.map fun entry =>
      (entry.1, credentials.or entry.2) }

def install (E : PushExternals) (store : CertificateStore) (values : Slot → Option PendingValue) :
    CertificateStore :=
  (store.withCredentials (installedCredentials E values store)).withLists (installedLists values)

variable {store : CertificateStore}

@[simp]
theorem withLists_none : (store.withLists fun _ _ => none) = store := rfl

theorem withLists_withLists (first second : CertificateGroup → ListKind → Option (Finset Bytes)) :
    (store.withLists first).withLists second =
      store.withLists fun group kind => (second group kind).or (first group kind) := by
  unfold withLists
  congr 1
  funext group kind
  dsimp only
  cases second group kind <;> rfl

section

variable (group : CertificateGroup) (kind : ListKind)

@[simp]
theorem setList_lists (ders : Finset Bytes) :
    (store.setList group kind ders).lists group kind = ders := by
  unfold setList withLists
  dsimp only
  rw [if_pos ⟨rfl, rfl⟩, getD_some]

@[simp]
theorem setList_self : store.setList group kind (store.lists group kind) = store := by
  show mk _ _ _ _ = mk _ _ _ _
  congr 1
  funext group' kind'
  dsimp only
  split_ifs with own
  · rw [own.1, own.2, getD_some]
  · rfl

@[simp]
theorem setList_setList (first second : Finset Bytes) :
    (store.setList group kind first).setList group kind second =
      store.setList group kind second := by
  unfold setList
  rw [withLists_withLists]
  congr 1
  funext group' kind'
  split_ifs <;> rfl

end

@[simp]
theorem withCredentials_none : store.withCredentials none = store := by
  have same : store.endpointCertificates.map (fun entry => (entry.1, entry.2)) =
      store.endpointCertificates := map_id _
  unfold withCredentials
  simp [same]

end CertificateStore

/-! ### The operations of an apply install what it began with -/

section Installs

variable {E : PushExternals} {registers : Registers} {store : CertificateStore}
variable {after : Registers × CertificateStore}

section

variable {group : CertificateGroup} {kind : ListKind} {ders : List Bytes}

theorem performAll_storeOne
    (performed : performAll E (ders.map (.storeOne group kind)) (registers, store) = some after) :
    after = (registers, store.setList group kind (ders.toFinset ∪ store.lists group kind)) := by
  induction ders generalizing store with
  | nil =>
    cases performed
    simp
  | cons der rest ih =>
    obtain ⟨next, first, later⟩ := bind_eq_some_iff.mp performed
    simp only [StoreOp.perform] at first
    split_ifs at first
    cases first
    rw [ih later]
    simp

theorem performAll_replaceList
    (performed : performAll E (replaceList group kind ders) (registers, store) = some after) :
    after = (registers, store.setList group kind ders.toFinset) := by
  obtain ⟨next, first, later⟩ := bind_eq_some_iff.mp performed
  cases first
  rw [performAll_storeOne later]
  simp

end

def replacedBy (trustList : TrustListDataType) (kinds : List ListKind) (kind : ListKind) :
    Option (Finset Bytes) :=
  if kind ∈ kinds ∧ trustList.specifies kind = true then
    some (byteStringsToDer (trustList.list kind)).toFinset
  else none

theorem performAll_kinds {group : CertificateGroup} {trustList : TrustListDataType}
    {kinds : List ListKind}
    (performed : performAll E (kinds.flatMap fun kind =>
      if trustList.specifies kind then
        replaceList group kind (byteStringsToDer (trustList.list kind))
      else []) (registers, store) = some after) :
    after = (registers, store.withLists fun group' kind =>
      if group' = group then replacedBy trustList kinds kind else none) := by
  induction kinds generalizing store with
  | nil =>
    cases performed
    simp [replacedBy]
  | cons kind rest ih =>
    rw [flatMap_cons, performAll_append] at performed
    obtain ⟨between, first, later⟩ := performed
    by_cases specified : trustList.specifies kind = true
    · rw [if_pos specified] at first
      rw [performAll_replaceList first] at later
      rw [ih later, setList, withLists_withLists]
      congr 2
      funext group' kind'
      unfold replacedBy
      by_cases own : group' = group <;> by_cases same : kind' = kind <;>
        by_cases among : kind' ∈ rest <;> simp_all
    · rw [if_neg specified] at first
      cases first
      rw [ih later]
      congr 2
      funext group' kind'
      unfold replacedBy
      by_cases own : group' = group <;> by_cases same : kind' = kind <;>
        by_cases among : kind' ∈ rest <;> simp_all

theorem replacedBy_applied (trustList : TrustListDataType) (kind : ListKind) :
    replacedBy trustList ListKind.applied kind =
      if trustList.specifies kind then some (byteStringsToDer (trustList.list kind)).toFinset
      else none := by
  have all : kind ∈ ListKind.applied := by cases kind <;> decide
  unfold replacedBy
  simp [all]

theorem performAll_groups {staged : PushTransaction} {order : List CertificateGroup}
    (performed : performAll E (order.flatMap fun group =>
      match staged.pendingTrustLists group with
      | some trustList => applyTrustListUpdate group trustList
      | none => []) (registers, store) = some after) :
    after = (registers, store.withLists fun group kind =>
      if group ∈ order then installedLists staged.slot group kind else none) := by
  induction order generalizing store with
  | nil =>
    cases performed
    simp
  | cons group rest ih =>
    rw [flatMap_cons, performAll_append] at performed
    obtain ⟨between, first, later⟩ := performed
    have own : between = (registers, store.withLists fun group' kind =>
        if group' = group then installedLists staged.slot group' kind else none) := by
      cases held : staged.pendingTrustLists group with
      | none =>
        rw [held] at first
        cases first
        congr 1
        symm
        convert withLists_none using 3 with group' kind
        split_ifs with same
        · rw [same]
          simp [installedLists, slot, held]
        · rfl
      | some trustList =>
        rw [held] at first
        rw [performAll_kinds first]
        congr 2
        funext group' kind
        split_ifs with same
        · rw [same, replacedBy_applied]
          unfold installedLists
          simp only [slot, held, bind_some, TrustListDataType.pending]
          split_ifs <;> rfl
        · rfl
    rw [own] at later
    rw [ih later, withLists_withLists]
    congr 2
    funext group' kind
    by_cases same : group' = group <;> by_cases among : group' ∈ rest <;> simp_all

theorem performAll_written {der pem : Bytes}
    (performed : performAll E [.createDirectories, .writeCertificate der, .writePrivateKey,
      .reloadStoreFromDisk, .setEndpoints] (⟨some pem, none⟩, store) = some after) :
    after.2 = store.withCredentials (some (der, pem)) := by
  simp only [performAll, StoreOp.perform, bind_some, map_some] at performed
  obtain ⟨next, reloaded, last⟩ := bind_eq_some_iff.mp performed
  split_ifs at reloaded
  cases reloaded
  cases last
  rfl

theorem performAll_certificateOps {staged : PushTransaction}
    (performed : performAll E (certificateOps staged) (⟨staged.privateKeyPem, none⟩, store) =
      some after) :
    after.2 = store.withCredentials (installedCredentials E staged.slot store) := by
  unfold certificateOps at performed
  unfold installedCredentials
  simp only [slot]
  cases held : staged.certificateDer with
  | none =>
    rw [held] at performed
    cases performed
    simp
  | some der =>
    rw [held] at performed
    obtain ⟨between, first, later⟩ := performAll_append.mp performed
    cases given : staged.privateKeyPem with
    | some pem =>
      rw [given] at first
      cases first
      exact performAll_written later
    | none =>
      rw [given] at first
      obtain ⟨next, read, done⟩ := bind_eq_some_iff.mp first
      obtain ⟨pem, own, rfl⟩ := map_eq_some_iff.mp read
      cases done
      rw [performAll_written later]
      simp only [map_some, none_or, own]
      rfl

section

variable {staged : PushTransaction} {order : List CertificateGroup}
  (walked : staged.walkedBy order = true)
include walked

theorem mem_of_walkedBy (group : CertificateGroup) :
    group ∈ order ↔ (staged.pendingTrustLists group).isSome = true := by
  rw [(isPerm_iff.mp walked).mem_iff, mem_filter]
  exact and_iff_right (by cases group <;> decide)

/-- **The operations of an apply, if all succeed, install what it began with.** -/
theorem performAll_applyOps
    (performed : performAll E (applyOps staged order) (⟨staged.privateKeyPem, none⟩, store) =
      some after) :
    after.2 = store.install E staged.slot := by
  rw [applyOps, performAll_append] at performed
  obtain ⟨⟨registers, between⟩, first, later⟩ := performed
  have credentials := performAll_certificateOps first
  dsimp only at credentials
  rw [performAll_groups later, credentials]
  dsimp only
  congr 1
  funext group kind
  by_cases among : group ∈ order
  · rw [if_pos among]
  · have nothing : staged.pendingTrustLists group = none := by
      rw [mem_of_walkedBy walked, Bool.not_eq_true, isSome_eq_false_iff,
        isNone_iff_eq_none] at among
      exact among
    simp [installedLists, slot, nothing]

end
end Installs

end AsyncOpcua.Gds
