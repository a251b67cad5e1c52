/-
**Parsing the filter of a request, and modifying an item.**

The client sends a filter as an extension object; the server parses it, where the numbers and the
event filter's own clauses are checked, and answers with what it revised.

* `modifyRequested_unchanged_iff` — so the item is as before exactly if these are the same.
-/

import AsyncOpcua.Subscriptions.MonitoredItem

namespace AsyncOpcua.Types.StatusCode

def BadFilterNotAllowed : StatusCode := 0x80450000#32
def BadDeadbandFilterInvalid : StatusCode := 0x808E0000#32

end AsyncOpcua.Types.StatusCode

namespace AsyncOpcua.Subscriptions

open Types

/-- **What parsing takes from elsewhere:** comparisons of numbers, the list of aggregates, the
limits of the server's configuration, and the parser of event filters. -/
structure FilterParsing (E : Externals) where
  EventFilter : Type
  EventFilterResult : Type
  zero : E.F64
  hundred : E.F64
  lt : E.F64 → E.F64 → Bool
  le : E.F64 → E.F64 → Bool
  isFinite : E.F64 → Bool
  /-- `int * 1000.0 > i64::MAX as f64`. -/
  exceedsMicros : E.F64 → Bool
  minSamplingIntervalMs : E.F64
  maxMonitoredItemQueueSize : ℕ
  supportedAggregates : E.NodeId → Bool
  /-- `ParsedEventFilter::parse`. -/
  parseEventFilter : EventFilter → E.TypeTree → EventFilterResult × Except StatusCode E.EventFilter
  /-- Empty diagnostics for every select clause. -/
  withSelectClauseDiagnostics : EventFilterResult → EventFilterResult

variable {E : Externals}

/-- A filter in the form it is sent in. -/
inductive MonitoringFilter (P : FilterParsing E) where
  | null
  | dataChangeFilter (trigger : DataChangeTrigger) (deadbandType : ℕ) (deadbandValue : E.F64)
  | eventFilter (filter : P.EventFilter)
  | aggregateFilter (startTime : ℤ) (aggregateType : E.NodeId) (processingInterval : E.F64)
      (aggregateConfiguration : E.AggregateConfiguration)
  | other

/-- What the server answers about a filter. -/
inductive FilterResult (P : FilterParsing E) where
  | eventFilterResult (result : P.EventFilterResult)
  | aggregateFilterResult (revisedStartTime : ℤ) (revisedProcessingInterval : E.F64)
      (revisedAggregateConfiguration : E.AggregateConfiguration)

variable (P : FilterParsing E)

/-! ### The filters -/

def ParsedDataChangeFilter.parse (trigger : DataChangeTrigger) (deadbandType : ℕ)
    (deadbandValue : E.F64) (euRange : Option (E.F64 × E.F64)) :
    Except StatusCode (ParsedDataChangeFilter E) :=
  match deadbandType with
  | 0 => .ok ⟨trigger, .none⟩
  | 1 =>
    if P.lt deadbandValue P.zero then .error .BadDeadbandFilterInvalid
    else .ok ⟨trigger, .absolute deadbandValue⟩
  | 2 =>
    if P.lt deadbandValue P.zero || E.gt deadbandValue P.hundred then
      .error .BadDeadbandFilterInvalid
    else
      match euRange with
      | none => .error .BadDeadbandFilterInvalid
      | some (low, high) =>
        if P.le high low then .error .BadDeadbandFilterInvalid
        else .ok ⟨trigger, .percent ⟨low, E.sub high low, E.div deadbandValue P.hundred⟩⟩
  | _ => .error .BadDeadbandFilterInvalid

def ParsedAggregateFilter.parse (aggregateType : E.NodeId) (processingInterval : E.F64)
    (aggregateConfiguration : E.AggregateConfiguration) :
    Except StatusCode (ParsedAggregateFilter E) :=
  if !P.supportedAggregates aggregateType then .error .BadAggregateNotSupported
  else if !P.isFinite processingInterval || P.le processingInterval P.zero then
    .error .BadAggregateInvalidInputs
  else .ok ⟨aggregateType, processingInterval, aggregateConfiguration⟩

def FilterType.fromFilter (filter : MonitoringFilter P) (euRange : Option (E.F64 × E.F64))
    (typeTree : E.TypeTree) (diagnostics : Bool) :
    Option (FilterResult P) × Except StatusCode (FilterType E) :=
  match filter with
  | .null => (.none, .ok .none)
  | .dataChangeFilter trigger deadbandType deadbandValue =>
    (.none, (ParsedDataChangeFilter.parse P trigger deadbandType deadbandValue euRange).map
      .dataChangeFilter)
  | .eventFilter filter =>
    let (result, parsed) := P.parseEventFilter filter typeTree
    (some
      (.eventFilterResult (if diagnostics then P.withSelectClauseDiagnostics result else result)),
      parsed.map .eventFilter)
  | .aggregateFilter startTime aggregateType processingInterval aggregateConfiguration =>
    -- The requested values are honoured, also where the filter is rejected.
    (some (.aggregateFilterResult startTime processingInterval aggregateConfiguration),
      (ParsedAggregateFilter.parse P aggregateType processingInterval aggregateConfiguration).map
        .aggregateFilter)
  | .other => (.none, .error .BadFilterNotAllowed)

/-! ### The numbers -/

/-- `sanitize_sampling_interval` and `parse_sampling_interval`: a negative interval stands for the
publishing interval, a short one is lengthened, a long one is cut to the longest length of time. -/
def parseSamplingInterval (requested : E.F64) : SamplingInterval :=
  if P.lt requested P.zero || !P.isFinite requested then .subscription
  else
    let interval :=
      if P.le requested P.zero || P.lt requested P.minSamplingIntervalMs then
        P.minSamplingIntervalMs
      else requested
    if P.lt interval P.zero then .subscription
    else if P.le interval P.zero then .zero
    else if !P.isFinite interval || P.exceedsMicros interval then
      .nonZero ((2 ^ 63 - 1) * 1000000)
    else .nonZero (E.micros interval * 1000)

def sanitizeQueueSize (requested : ℕ) : ℕ :=
  if requested = 0 ∨ requested = 1 then 1 else min requested P.maxMonitoredItemQueueSize

/-! ### Modification -/

structure MonitoredItemModifyRequest where
  timestampsToReturn : TimestampsToReturn
  filter : MonitoringFilter P
  samplingInterval : E.F64
  queueSize : ℕ
  clientHandle : ℕ
  discardOldest : Bool

namespace MonitoredItem

variable {P} (item : MonitoredItem E) (request : MonitoredItemModifyRequest P)
  (euRange : Option (E.F64 × E.F64)) (typeTree : E.TypeTree) (diagnostics : Bool) (now : ℤ)

/-- The filter of the request, parsed for the item: without a new EURange, its own one is used. -/
def requestedFilter : Option (FilterResult P) × Except StatusCode (FilterType E) :=
  FilterType.fromFilter P request.filter (euRange.or item.euRange) typeTree diagnostics

def modifyRequested : (Option (FilterResult P) × StatusCode) × MonitoredItem E :=
  let (filterResult, filter) := item.requestedFilter request euRange typeTree diagnostics
  let (status, item) := item.modify
    { timestampsToReturn := request.timestampsToReturn
      filter := filter
      euRange := euRange
      samplingInterval := parseSamplingInterval P request.samplingInterval
      queueSize := sanitizeQueueSize P request.queueSize
      clientHandle := request.clientHandle
      discardOldest := request.discardOldest } now
  ((filterResult, status), item)

variable {item request euRange typeTree diagnostics}

theorem modifyRequested_of_rejected {e : StatusCode}
    (rejected : (item.requestedFilter request euRange typeTree diagnostics).2 = .error e) :
    (item.modifyRequested request euRange typeTree diagnostics now).1.2 = e ∧
      (item.modifyRequested request euRange typeTree diagnostics now).2 =
        { item with timestampsToReturn := request.timestampsToReturn } := by
  unfold modifyRequested modify
  simp [rejected]

theorem modifyRequested_of_accepted {filter : FilterType E}
    (accepted : (item.requestedFilter request euRange typeTree diagnostics).2 = .ok filter) :
    (item.modifyRequested request euRange typeTree diagnostics now).1.2 = .Good := by
  unfold modifyRequested modify
  simp [accepted]

variable (item request euRange typeTree diagnostics)

/-- **A request that is answered with a bad code leaves the item as it was** exactly if its filter
is accepted, or it asks for the timestamps that the item returns already. -/
theorem modifyRequested_unchanged_iff :
    ((item.modifyRequested request euRange typeTree diagnostics now).1.2.isBad = true →
        (item.modifyRequested request euRange typeTree diagnostics now).2 = item) ↔
      ∀ e, (item.requestedFilter request euRange typeTree diagnostics).2 = .error e →
        e.isBad = true → request.timestampsToReturn = item.timestampsToReturn := by
  cases parsed : (item.requestedFilter request euRange typeTree diagnostics).2 with
  | ok filter =>
    rw [modifyRequested_of_accepted now parsed]
    refine iff_of_true (fun absurdly => absurd absurdly (by decide)) fun e rejected => ?_
    cases rejected
  | error code =>
    obtain ⟨status, after⟩ := modifyRequested_of_rejected now parsed
    rw [status, after]
    constructor
    · intro unchanged e rejected bad
      cases rejected
      exact congrArg MonitoredItem.timestampsToReturn (unchanged bad)
    · intro same bad
      rw [same code rfl bad]

end MonitoredItem

/-! ### A rejected request -/

/-- Parsing over the integers: every number is finite, the count is the only aggregate, and event
filters are parsed to themselves. -/
def FilterParsing.integers : FilterParsing Externals.integers where
  EventFilter := Unit
  EventFilterResult := Unit
  zero := (0 : ℤ)
  hundred := (100 : ℤ)
  lt := fun (x y : ℤ) => decide (x < y)
  le := fun (x y : ℤ) => decide (x ≤ y)
  isFinite := fun _ => true
  exceedsMicros := fun (x : ℤ) => decide (2 ^ 63 - 1 < x * 1000)
  minSamplingIntervalMs := (100 : ℤ)
  maxMonitoredItemQueueSize := 10
  supportedAggregates := fun (id : ℕ) => decide (id = 2352)
  parseEventFilter := fun _ _ => ((), .ok ())
  withSelectClauseDiagnostics := id

def reportingBoth : MonitoredItem Externals.integers :=
  .new
    { id := 1, itemToMonitor := ⟨(1 : ℕ), 13, none⟩, monitoringMode := .reporting, clientHandle := 1
      discardOldest := true, queueSize := 10, samplingInterval := .zero, initialValue := none
      statusCode := .Good, filter := .none, timestampsToReturn := .both, euRange := none } 0

def percentWithoutRange : MonitoredItemModifyRequest FilterParsing.integers where
  timestampsToReturn := .neither
  filter := .dataChangeFilter .statusValue 2 (10 : ℤ)
  samplingInterval := (100 : ℤ)
  queueSize := 10
  clientHandle := 1
  discardOldest := true

/-- **A rejected request changes the item.** -/
theorem rejected_request_changes :
    (reportingBoth.modifyRequested percentWithoutRange none () false 0).1.2.isBad = true ∧
      (reportingBoth.modifyRequested percentWithoutRange none () false 0).2 ≠ reportingBoth := by
  refine ⟨by decide, fun same => ?_⟩
  have timestamps := congrArg MonitoredItem.timestampsToReturn same
  revert timestamps
  decide

end AsyncOpcua.Subscriptions
