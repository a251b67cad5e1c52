/-
**A push transaction, over whole runs.**

The methods of any sessions interleave at the lock of the transaction, and with the store operations
of an apply, each of which succeeds or fails.

* `PushOp`, `PushServer.step` — the server, one locked section or store operation at a time;
* `push_transaction_all_or_nothing` — every run of such steps meets the contract.
-/

import AsyncOpcua.Gds.PushApply

namespace AsyncOpcua.Gds

open Types Foundation List Option Machine.Guarded

/-! ### The server -/

/-- An `ApplyChanges` call between its two locked sections. -/
structure ApplyRun where
  sessionId : BitVec 32
  done : List StoreOp
  todo : List StoreOp
  registers : Registers
  failed : Bool

structure PushServer where
  transaction : PushTransactionState
  store : CertificateStore
  applies : List ApplyRun

/-- How a store operation ends. Clearing a directory ignores the files that it cannot remove. -/
inductive StoreOutcome where
  | succeeded
  | failed (written : Option Bytes)
  | leaves (kept : Finset Bytes)

inductive PushOp where
  | updateCertificate (context : RequestContext) (args : UpdateCertificateArgs)
  | closeAndUpdate (context : RequestContext) (group : CertificateGroup)
      (written : Option TrustListDataType) (now : ℤ)
  | applyChanges (context : RequestContext) (order : List CertificateGroup)
  | cancelChanges (context : RequestContext)
  | storeStep (place : ℕ) (outcome : StoreOutcome)
  | finishApply (place : ℕ)

def PushOp.caller : PushOp → Option RequestContext
  | .updateCertificate context _ | .closeAndUpdate context _ _ _ | .applyChanges context _
  | .cancelChanges context => some context
  | .storeStep _ _ | .finishApply _ => none

section Server

variable (E : PushExternals)

def handleUpdateCertificate (context : RequestContext) (args : UpdateCertificateArgs)
    (transaction : PushTransactionState) : Except StatusCode PushTransactionState :=
  (checkUpdateCertificate E context args).bind fun update =>
    stageCertificate context.sessionId update transaction

def handleCloseAndUpdate (context : RequestContext) (group : CertificateGroup)
    (written : Option TrustListDataType) (now : ℤ) (transaction : PushTransactionState) :
    Except StatusCode PushTransactionState :=
  (checkCloseAndUpdate E context written now).bind fun trustList =>
    stageTrustList context.sessionId group trustList transaction

/-- `handle_apply_changes` up to the end of its first locked section. -/
def beginApplyChanges (context : RequestContext) (transaction : PushTransactionState) :
    Except StatusCode (PushTransaction × PushTransactionState) :=
  (authorizeAuthenticatedSecurityAdmin context).bind fun _ =>
    transaction.beginApply context.sessionId

def handleCancelChanges (context : RequestContext) (transaction : PushTransactionState) :
    Except StatusCode PushTransactionState :=
  (authorizeAuthenticatedSecurityAdmin context).bind fun _ =>
    cancelChanges context.sessionId transaction

/-- An apply that takes its next store operation. -/
def ApplyRun.proceed (run : ApplyRun) (outcome : StoreOutcome) (store : CertificateStore) :
    Option (ApplyRun × CertificateStore) :=
  match run.failed, run.todo with
  | false, op :: rest =>
    match outcome with
    | .succeeded => (op.perform E (run.registers, store)).map fun after =>
        ({ run with done := run.done ++ [op], todo := rest, registers := after.1 }, after.2)
    | .failed written => some ({ run with failed := true }, op.residue written store)
    | .leaves kept =>
      match op with
      | .clearDir group kind =>
        some ({ run with done := run.done ++ [op], todo := rest },
          store.setList group kind (store.lists group kind ∩ kept))
      | _ => none
  | _, _ => none

/-- A method that fails leaves the transaction alone. -/
def PushServer.after (s : PushServer) (handled : Except StatusCode PushTransactionState) :
    PushServer :=
  { s with transaction := handled.toOption.getD s.transaction }

def PushServer.step (s : PushServer) : PushOp → Option PushServer
  | .updateCertificate context args =>
    some (s.after (handleUpdateCertificate E context args s.transaction))
  | .closeAndUpdate context group written now =>
    some (s.after (handleCloseAndUpdate E context group written now s.transaction))
  | .cancelChanges context => some (s.after (handleCancelChanges context s.transaction))
  | .applyChanges context order =>
    match beginApplyChanges context s.transaction with
    | .error _ => some s
    | .ok (staged, transaction) =>
      if staged.walkedBy order then
        some { s with
          transaction
          applies := s.applies ++ [{
            sessionId := context.sessionId
            done := []
            todo := applyOps staged order
            registers := ⟨staged.privateKeyPem, none⟩
            failed := false }] }
      else none
  | .storeStep place outcome =>
    s.applies[place]?.bind fun run =>
      (run.proceed E outcome s.store).map fun (run, store) =>
        { s with store, applies := s.applies.set place run }
  | .finishApply place =>
    s.applies[place]?.bind fun run =>
      if run.failed = true ∨ run.todo = [] then
        some { s with
          transaction := s.transaction.finishApply !run.failed
          applies := s.applies.eraseIdx place }
      else none

def pushMachine : Machine PushServer PushOp where
  step := PushServer.step E

/-- A server with nothing pending. -/
def PushServer.start (store : CertificateStore) : PushServer := ⟨.idle, store, []⟩

/-! ### What happened -/

structure EndedApply where
  succeeded : Bool
  begun : Slot → Option PendingValue
  start : CertificateStore
  final : CertificateStore

/-- What was staged, applied and cancelled; the values and the store that the apply under way began
with; the applies that ended. -/
structure PushHistory where
  log : List (StagingEvent Slot PendingValue)
  begun : Slot → Option PendingValue
  start : CertificateStore
  ended : List EndedApply

def PushHistory.empty (store : CertificateStore) : PushHistory := ⟨[], fun _ => none, store, []⟩

def PushHistory.add (history : PushHistory) (event : StagingEvent Slot PendingValue) :
    PushHistory :=
  { history with log := history.log ++ [event] }

def PushHistory.note (history : PushHistory) (s : PushServer) (op : PushOp) (_ : PushServer) :
    PushHistory :=
  match op with
  | .updateCertificate context args =>
    match checkUpdateCertificate E context args,
      handleUpdateCertificate E context args s.transaction with
    | .ok update, .ok _ => history.add (.staged (certificateValues update))
    | _, _ => history
  | .closeAndUpdate context group written now =>
    match checkCloseAndUpdate E context written now,
      handleCloseAndUpdate E context group written now s.transaction with
    | .ok trustList, .ok _ => history.add (.staged (trustListValues group trustList))
    | _, _ => history
  | .cancelChanges context =>
    match handleCancelChanges context s.transaction with
    | .ok _ => history.add .cancelled
    | .error _ => history
  | .applyChanges context _ =>
    match beginApplyChanges context s.transaction with
    | .ok _ => { history.add .began with begun := latest history.log, start := s.store }
    | .error _ => history
  | .storeStep _ _ => history
  | .finishApply place =>
    match s.applies[place]? with
    | none => history
    | some run =>
      { history.add (.finished !run.failed) with
        ended := history.ended ++ [⟨!run.failed, history.begun, history.start, s.store⟩] }

end Server

def PushTransactionState.pending : PushTransactionState → Slot → Option PendingValue
  | .idle, _ => none
  | .staged transaction, slot => transaction.slot slot
  | .applying current replacement, slot => (replacement.bind (·.slot slot)).or (current.slot slot)

theorem layers_pending (state : PushTransactionState) (slot : Slot) :
    state.layers.pending slot = state.pending slot := by
  cases state <;> rfl

/-- **The contract.** Only the owner of the pending transaction changes, applies or cancels it, and
one apply runs at a time; what is pending is the latest value staged and neither applied nor
cancelled; an apply that succeeded installed the values pending when it began and nothing else, and
one that failed left the store as it was. -/
structure AllOrNothing (E : PushExternals) (s : PushServer) (history : PushHistory) : Prop where
  one : s.applies.length ≤ 1
  owned : ∀ run ∈ s.applies, s.transaction.owner = some run.sessionId
  others : ∀ op context owner next, op.caller = some context → s.transaction.owner = some owner →
    context.sessionId ≠ owner → s.step E op = some next → next = s
  pending : ∀ slot, s.transaction.pending slot = latest history.log slot
  ended : ∀ apply ∈ history.ended,
    apply.final = if apply.succeeded then apply.start.install E apply.begun else apply.start

/-- **The steps that keep it.** -/
def Intact (E : PushExternals) (s : PushServer) : PushOp → Prop
  | .closeAndUpdate context group written now =>
    ∀ trustList base old, checkCloseAndUpdate E context written now = .ok trustList →
      s.transaction.stagingBase context.sessionId = .ok (some base) →
      base.pendingTrustLists group = some old → trustList.Covers old
  | .storeStep place outcome =>
    ∀ run op rest, s.applies[place]? = some run → run.todo = op :: rest →
      match outcome with
      | .succeeded => True
      | .failed written =>
        (∀ earlier ∈ run.done, earlier.readOnly = true) ∧ op.residue written s.store = s.store
      | .leaves kept =>
        ∀ group kind, op = .clearDir group kind → s.store.lists group kind ∩ kept = ∅
  | .finishApply place =>
    ∀ run current staged, s.applies[place]? = some run → run.failed = true →
      s.transaction = .applying current (some staged) →
      ∀ group new old, staged.pendingTrustLists group = some new →
        current.pendingTrustLists group = some old → new.Covers old
  | .updateCertificate .. | .applyChanges .. | .cancelChanges .. => True

/-! ### The invariant -/

open Machine

section Invariant

variable {E : PushExternals} {s : PushServer} {history : PushHistory}

/-- How far an apply has come. -/
def Progress (E : PushExternals) (current : PushTransaction) (run : ApplyRun)
    (start store : CertificateStore) : Prop :=
  ∃ order, current.walkedBy order = true ∧ run.done ++ run.todo = applyOps current order ∧
    if run.failed then store = start
    else performAll E run.done (⟨current.privateKeyPem, none⟩, start) = some (run.registers, store)

def UnderWay (E : PushExternals) (transaction : PushTransactionState) (store : CertificateStore)
    (applies : List ApplyRun) (history : PushHistory) : Prop :=
  match transaction with
  | .idle | .staged _ => applies = []
  | .applying current _ =>
    ∃ run, applies = [run] ∧ run.sessionId = current.owningSessionId ∧
      history.begun = current.slot ∧ Progress E current run history.start store

structure PushInvariant (E : PushExternals) (s : PushServer) (history : PushHistory) : Prop where
  layers : s.transaction.layers = Staging.empty.run history.log
  underWay : UnderWay E s.transaction s.store s.applies history
  ended : ∀ apply ∈ history.ended,
    apply.final = if apply.succeeded then apply.start.install E apply.begun else apply.start

theorem PushInvariant.latest (inv : PushInvariant E s history) :
    s.transaction.layers.pending = latest history.log := by
  funext slot
  rw [inv.layers, Staging.pending_run]

variable {store : CertificateStore} {place : ℕ}

section

variable {transaction : PushTransactionState} {applies : List ApplyRun}
  (underWay : UnderWay E transaction store applies history)
include underWay

theorem UnderWay.found {run : ApplyRun} (found : applies[place]? = some run) :
    place = 0 ∧ applies = [run] ∧ ∃ current replacement,
      transaction = .applying current replacement ∧ run.sessionId = current.owningSessionId ∧
        history.begun = current.slot ∧ Progress E current run history.start store := by
  cases transaction with
  | idle | staged _ =>
    rw [show applies = [] from underWay] at found
    cases found
  | applying current replacement =>
    obtain ⟨only, rfl, own, begun, progress⟩ := underWay
    cases place with
    | zero =>
      cases found
      exact ⟨rfl, rfl, current, replacement, rfl, own, begun, progress⟩
    | succ place => cases found

theorem UnderWay.stage (added : PushTransaction) (event : StagingEvent Slot PendingValue) :
    UnderWay E (transaction.stage added) store applies (history.add event) := by
  cases transaction with
  | idle | staged | applying => exact underWay

end

theorem PushInvariant.staged (inv : PushInvariant E s history) {next : PushTransactionState}
    {values : Slot → Option PendingValue}
    (layers : next.layers = s.transaction.layers.step (.staged values))
    (added : ∃ transaction, next = s.transaction.stage transaction) :
    PushInvariant E { s with transaction := next } (history.add (.staged values)) := by
  obtain ⟨transaction, rfl⟩ := added
  refine ⟨?_, inv.underWay.stage transaction _, inv.ended⟩
  rw [layers, inv.layers]
  exact (Staging.run_snoc _ _ _).symm

variable {next : PushServer} {context : RequestContext}

section

variable (inv : PushInvariant E s history)
include inv

theorem PushInvariant.updateCertificate {args : UpdateCertificateArgs}
    (stepped : s.step E (.updateCertificate context args) = some next) :
    PushInvariant E next (history.note E s (.updateCertificate context args) next) := by
  cases stepped
  simp only [PushHistory.note]
  cases handled : handleUpdateCertificate E context args s.transaction with
  | error status =>
    cases checkUpdateCertificate E context args <;> exact inv
  | ok transaction =>
    obtain ⟨update, checked, staged⟩ := bind_eq_ok.mp handled
    rw [checked]
    refine inv.staged (stageCertificate_layers staged) ?_
    obtain ⟨base, -, rfl⟩ := map_eq_ok.mp staged
    exact ⟨_, rfl⟩

theorem PushInvariant.closeAndUpdate {group : CertificateGroup}
    {written : Option TrustListDataType} {now : ℤ}
    (intact : Intact E s (.closeAndUpdate context group written now))
    (stepped : s.step E (.closeAndUpdate context group written now) = some next) :
    PushInvariant E next (history.note E s (.closeAndUpdate context group written now) next) := by
  cases stepped
  simp only [PushHistory.note]
  cases handled : handleCloseAndUpdate E context group written now s.transaction with
  | error status =>
    cases checkCloseAndUpdate E context written now <;> exact inv
  | ok transaction =>
    obtain ⟨trustList, checked, staged⟩ := bind_eq_ok.mp handled
    rw [checked]
    refine inv.staged (stageTrustList_layers (fun base old => intact trustList base old checked)
      staged) ?_
    obtain ⟨base, -, rfl⟩ := map_eq_ok.mp staged
    exact ⟨_, rfl⟩

theorem PushInvariant.cancelChanges (stepped : s.step E (.cancelChanges context) = some next) :
    PushInvariant E next (history.note E s (.cancelChanges context) next) := by
  cases stepped
  simp only [PushHistory.note]
  cases handled : handleCancelChanges context s.transaction with
  | error status => exact inv
  | ok transaction =>
    obtain ⟨-, -, cancelled⟩ := bind_eq_ok.mp handled
    obtain ⟨layers, rfl, existing, staged, -⟩ := cancelChanges_layers cancelled
    refine ⟨?_, ?_, inv.ended⟩
    · show PushTransactionState.idle.layers = _
      rw [layers, inv.layers]
      exact (Staging.run_snoc _ _ _).symm
    · have nothing := inv.underWay
      rw [staged] at nothing
      exact nothing

theorem PushInvariant.applyChanges {order : List CertificateGroup}
    (stepped : s.step E (.applyChanges context order) = some next) :
    PushInvariant E next (history.note E s (.applyChanges context order) next) := by
  simp only [PushServer.step] at stepped
  simp only [PushHistory.note]
  cases handled : beginApplyChanges context s.transaction with
  | error status =>
    rw [handled] at stepped
    cases stepped
    exact inv
  | ok result =>
    obtain ⟨staged, transaction⟩ := result
    rw [handled] at stepped
    simp only at stepped
    split_ifs at stepped with walked
    cases stepped
    obtain ⟨-, -, began⟩ := bind_eq_ok.mp handled
    obtain ⟨layers, slots, before, rfl, own⟩ := beginApply_layers began
    have nothing := inv.underWay
    rw [before] at nothing
    refine ⟨?_, ?_, inv.ended⟩
    · show (PushTransactionState.applying staged none).layers = _
      rw [layers, inv.layers]
      exact (Staging.run_snoc _ _ _).symm
    · refine ⟨_, congrArg (· ++ [_]) nothing, own.symm, ?_, order, walked, rfl, rfl⟩
      rw [slots, inv.latest]

end

theorem Progress.proceed {current : PushTransaction} {run run' : ApplyRun}
    {start store store' : CertificateStore} {outcome : StoreOutcome}
    (progress : Progress E current run start store)
    (intact : ∀ op rest, run.todo = op :: rest →
      match outcome with
      | .succeeded => True
      | .failed written =>
        (∀ earlier ∈ run.done, earlier.readOnly = true) ∧ op.residue written store = store
      | .leaves kept => ∀ group kind, op = .clearDir group kind → store.lists group kind ∩ kept = ∅)
    (proceeded : run.proceed E outcome store = some (run', store')) :
    run'.sessionId = run.sessionId ∧ Progress E current run' start store' := by
  obtain ⟨sessionId, done, todo, registers, failed⟩ := run
  obtain ⟨order, walked, split, so_far⟩ := progress
  cases failed with
  | true => cases proceeded
  | false =>
    cases todo with
    | nil => cases proceeded
    | cons op rest =>
      have onward : (done ++ [op]) ++ rest = applyOps current order := by
        rw [append_assoc]
        exact split
      have here := intact op rest rfl
      cases outcome with
      | succeeded =>
        obtain ⟨after, performed, same⟩ := map_eq_some_iff.mp proceeded
        cases same
        refine ⟨rfl, order, walked, onward, ?_⟩
        exact performAll_append.mpr ⟨_, so_far, by simp [performAll, performed]⟩
      | failed written =>
        cases proceeded
        refine ⟨rfl, order, walked, split, ?_⟩
        rw [here.2]
        exact performAll_readOnly here.1 so_far
      | leaves kept =>
        cases op with
        | clearDir group kind =>
          cases proceeded
          refine ⟨rfl, order, walked, onward, ?_⟩
          refine performAll_append.mpr ⟨_, so_far, ?_⟩
          rw [here group kind rfl]
          rfl
        | _ => cases proceeded

section

variable (inv : PushInvariant E s history)
include inv

theorem PushInvariant.storeStep {outcome : StoreOutcome}
    (intact : Intact E s (.storeStep place outcome))
    (stepped : s.step E (.storeStep place outcome) = some next) : PushInvariant E next history := by
  obtain ⟨run, found, proceeds⟩ := bind_eq_some_iff.mp stepped
  obtain ⟨⟨run', store'⟩, proceeded, rfl⟩ := map_eq_some_iff.mp proceeds
  obtain ⟨rfl, alone, current, replacement, state, own, begun, progress⟩ := inv.underWay.found found
  obtain ⟨same, progress'⟩ := progress.proceed (intact run · · found ·) proceeded
  refine ⟨inv.layers, ?_, inv.ended⟩
  rw [state]
  exact ⟨run', by rw [alone]; rfl, same.trans own, begun, progress'⟩

theorem PushInvariant.finishApply (intact : Intact E s (.finishApply place))
    (stepped : s.step E (.finishApply place) = some next) :
    PushInvariant E next (history.note E s (.finishApply place) next) := by
  obtain ⟨run, found, finishes⟩ := bind_eq_some_iff.mp stepped
  split_ifs at finishes with ended
  cases finishes
  obtain ⟨rfl, alone, current, replacement, state, own, begun, order, walked, split, so_far⟩ :=
    inv.underWay.found found
  simp only [PushHistory.note, found]
  have layers : ((PushTransactionState.applying current replacement).finishApply
      !run.failed).layers = s.transaction.layers.step (.finished !run.failed) := by
    rw [state]
    refine finishApply_layers fun failed staged same => ?_
    exact intact run current staged found (by simpa using failed) (by rw [state, same])
  refine ⟨?_, ?_, forall_mem_append.mpr ⟨inv.ended, forall_mem_singleton.mpr ?_⟩⟩
  · rw [state]
    rw [layers, inv.layers]
    exact (Staging.run_snoc _ _ _).symm
  · have nothing : s.applies.eraseIdx 0 = [] := by
      rw [alone]
      rfl
    rw [state]
    cases replacement <;> cases run.failed <;> exact nothing
  · dsimp only
    cases failed : run.failed with
    | true =>
      rw [failed] at so_far
      exact so_far
    | false =>
      -- Nothing is left to do, so everything was done.
      rw [failed] at ended so_far
      have finished : run.todo = [] := by simpa using ended
      rw [finished, append_nil] at split
      rw [split] at so_far
      rw [begun]
      exact performAll_applyOps walked so_far

theorem PushInvariant.step {op : PushOp}
    (intact : Intact E s op) (stepped : s.step E op = some next) :
    PushInvariant E next (history.note E s op next) := by
  cases op with
  | updateCertificate context args => exact inv.updateCertificate stepped
  | closeAndUpdate context group written now => exact inv.closeAndUpdate intact stepped
  | applyChanges context order => exact inv.applyChanges stepped
  | cancelChanges context => exact inv.cancelChanges stepped
  | storeStep place outcome => exact inv.storeStep intact stepped
  | finishApply place => exact inv.finishApply intact stepped

end

theorem pushInvariant_start (store : CertificateStore) :
    PushInvariant E (.start store) (.empty store) :=
  ⟨rfl, rfl, fun _ absurdly => absurd absurdly not_mem_nil⟩

end Invariant

/-! ### Only the owner -/

section Owner

variable {E : PushExternals} {state : PushTransactionState} {context : RequestContext}

theorem stagingBase_owner {sessionId owner : BitVec 32} {base : Option PushTransaction}
    (based : state.stagingBase sessionId = .ok base) (owned : state.owner = some owner) :
    sessionId = owner := by
  obtain ⟨rfl, -⟩ | ⟨existing, rfl, own, -⟩ | ⟨current, rfl, own⟩ := stagingBase_eq_ok.mp based
  · cases owned
  · exact own.symm.trans (some.inj owned)
  · exact own.symm.trans (some.inj owned)

/-- **A method called by another session changes nothing.** -/
theorem step_of_other {s next : PushServer} {op : PushOp} {owner : BitVec 32}
    (called : op.caller = some context) (owned : s.transaction.owner = some owner)
    (other : context.sessionId ≠ owner) (stepped : s.step E op = some next) : next = s := by
  have refused : ∀ handled : Except StatusCode PushTransactionState,
      (∀ transaction, handled = .ok transaction → context.sessionId = owner) →
      s.after handled = s := by
    intro handled only
    cases handled with
    | error status => rfl
    | ok transaction => exact absurd (only transaction rfl) other
  cases op with
  | updateCertificate caller args =>
    cases called
    cases stepped
    refine refused _ fun transaction handled => ?_
    obtain ⟨update, -, staged⟩ := bind_eq_ok.mp handled
    obtain ⟨base, based, -⟩ := map_eq_ok.mp staged
    exact stagingBase_owner based owned
  | closeAndUpdate caller group written now =>
    cases called
    cases stepped
    refine refused _ fun transaction handled => ?_
    obtain ⟨trustList, -, staged⟩ := bind_eq_ok.mp handled
    obtain ⟨base, based, -⟩ := map_eq_ok.mp staged
    exact stagingBase_owner based owned
  | cancelChanges caller =>
    cases called
    cases stepped
    refine refused _ fun transaction handled => ?_
    obtain ⟨-, -, cancelled⟩ := bind_eq_ok.mp handled
    obtain ⟨-, -, existing, staged, own⟩ := cancelChanges_layers cancelled
    rw [staged] at owned
    exact own.symm.trans (some.inj owned)
  | applyChanges caller order =>
    cases called
    simp only [PushServer.step] at stepped
    cases handled : beginApplyChanges context s.transaction with
    | error status =>
      rw [handled] at stepped
      exact (some.inj stepped).symm
    | ok result =>
      obtain ⟨-, -, began⟩ := bind_eq_ok.mp handled
      obtain ⟨-, -, before, -, own⟩ := beginApply_layers began
      rw [before] at owned
      exact absurd (own.symm.trans (some.inj owned)) other
  | storeStep | finishApply => cases called

end Owner

/-! ### Whole runs -/

section Runs

variable {E : PushExternals}

theorem PushInvariant.allOrNothing {s : PushServer} {history : PushHistory}
    (inv : PushInvariant E s history) : AllOrNothing E s history := by
  have underWay := inv.underWay
  refine ⟨?_, ?_, fun op context owner next => step_of_other, fun slot => ?_, inv.ended⟩
  · cases state : s.transaction with
    | idle | staged _ =>
      rw [state] at underWay
      rw [show s.applies = [] from underWay]
      exact Nat.zero_le 1
    | applying current replacement =>
      rw [state] at underWay
      obtain ⟨run, alone, -⟩ := underWay
      rw [alone]
      exact le_rfl
  · intro run member
    obtain ⟨place, found⟩ := getElem?_of_mem member
    obtain ⟨-, -, current, replacement, state, own, -⟩ := underWay.found found
    rw [state, own]
    rfl
  · rw [← layers_pending, inv.latest]

/-- **A push transaction is all or nothing and loses no staged update,** in every run whose trust
lists specify every list of those they replace and whose store operations fail only before their
apply has written anything. -/
theorem push_transaction_all_or_nothing (store : CertificateStore) (ops : List PushOp)
    (intact : (pushMachine E).Guarded (Intact E) (.start store) ops) (s : PushServer)
    (history : PushHistory)
    (ran : ((pushMachine E).observed (PushHistory.note E)).run (.start store, .empty store) ops =
      some (s, history)) : AllOrNothing E s history := by
  have keeps : ∀ s history op next, PushInvariant E s history → Intact E s op →
      (pushMachine E).step s op = some next → PushInvariant E next (history.note E s op next) :=
    fun _ _ _ _ inv meets stepped => inv.step meets stepped
  exact (Machine.observed_invariant_of_guarded keeps (pushInvariant_start store) intact
    ran).allOrNothing

end Runs

/-! ### Runs of one session -/

/-- Bytes all parse, and are the PEM text of the key that they hold. -/
def plainExternals : PushExternals :=
  ⟨fun _ => true, fun _ => true, fun _ _ => true, fun _ => true, fun _ => true, some⟩

def adminContext : RequestContext := ⟨1, .signAndEncrypt, true⟩

def oldStore : CertificateStore := ⟨[0], [0], fun _ _ => ∅, [("endpoint", some ([0], [0]))]⟩

/-- The certificate `[1]`, for the key that the server has. -/
def newCertificate : UpdateCertificateArgs := ⟨.standard 0, .standard 0, some [1], none, none⟩

def trustedOnly : TrustListDataType := ⟨1, some [some [2]], none, none, none⟩

def issuersOnly : TrustListDataType := ⟨4, none, none, some [some [3]], none⟩

/-- **A list is staged while an apply runs, which fails before it has written anything.** -/
def unreadableKey : List PushOp :=
  [.updateCertificate adminContext newCertificate, .applyChanges adminContext [],
    .closeAndUpdate adminContext .defaultApplication (some trustedOnly) 0,
    .storeStep 0 (.failed none), .finishApply 0]

theorem push_transaction_all_or_nothing_unreadable :
    ∃ s history, ((pushMachine plainExternals).observed (PushHistory.note plainExternals)).run
        (.start oldStore, .empty oldStore) unreadableKey = some (s, history) ∧
      AllOrNothing plainExternals s history := by
  have intact : (pushMachine plainExternals).Guarded (Intact plainExternals) (.start oldStore)
      unreadableKey := by
    refine cons _ rfl trivial ?_
    refine cons _ rfl trivial ?_
    refine cons _ rfl ?_ ?_
    · intro trustList base old _ based
      cases based
    refine cons _ rfl ?_ ?_
    · rintro run op rest ⟨⟩ ⟨⟩
      exact ⟨fun _ absurdly => absurd absurdly not_mem_nil, rfl⟩
    refine cons _ rfl ?_ trivial
    rintro run current staged ⟨⟩ _ ⟨⟩ group new old _ ⟨⟩
  exact ⟨_, _, rfl, push_transaction_all_or_nothing oldStore unreadableKey intact _ _ rfl⟩

/-- The trusted certificates of a group are staged, and then its issuer certificates. -/
def twoTrustLists : List PushOp :=
  [.closeAndUpdate adminContext .defaultApplication (some trustedOnly) 0,
    .closeAndUpdate adminContext .defaultApplication (some issuersOnly) 0]

/-- A certificate is written, and its key cannot be written. -/
def unwritableKey : List PushOp :=
  [.updateCertificate adminContext newCertificate, .applyChanges adminContext [],
    .storeStep 0 .succeeded, .storeStep 0 .succeeded, .storeStep 0 .succeeded,
    .storeStep 0 (.failed none), .finishApply 0]

/-- **Two trust lists of one group lose the first,** and an apply that fails leaves a certificate
without its key. -/
theorem push_transaction_torn :
    (∃ s history, ((pushMachine plainExternals).observed (PushHistory.note plainExternals)).run
        (.start oldStore, .empty oldStore) twoTrustLists = some (s, history) ∧
        ¬ AllOrNothing plainExternals s history) ∧
      ∃ s history, ((pushMachine plainExternals).observed (PushHistory.note plainExternals)).run
        (.start oldStore, .empty oldStore) unwritableKey = some (s, history) ∧
        ¬ AllOrNothing plainExternals s history := by
  refine ⟨⟨_, _, rfl, fun contract => ?_⟩, _, _, rfl, fun contract => ?_⟩
  · have lost := contract.pending (.list .defaultApplication .trustedCertificates)
    exact absurd lost (by decide)
  · have torn := contract.ended _ mem_cons_self
    have written := congrArg CertificateStore.ownCertificate torn
    exact absurd written (by decide)

end AsyncOpcua.Gds
