/-
**Responses are reassembled whole, and requests are answered once.**

Each request is followed on its own: the chunks that came for it, in order, until the first event
that ends it. The transport is compared with that.

* `requests_answered_once` — so it is in every run in which no response wraps around or fails to
  decode, and no request id comes back that is still in use.
-/

import AsyncOpcua.Client.TransportState

namespace AsyncOpcua.Client

open Comms Foundation Types MessageChunkWithChunkInfo TransportState KeyedMap Or

/-! ### Merging -/

/-- **Each number is the next `u32` after the one before, without wrapping around.** -/
def Consecutive (numbers : List ℕ) : Prop :=
  numbers.IsChain fun a b => b = (a + 1) % u32Size ∧ a < b

variable {chunks : List MessageChunkWithChunkInfo}

open List

theorem mergeFrom_consecutive {first : MessageChunkWithChunkInfo}
    (consecutive : Consecutive ((first :: chunks).map sequenceNumber)) :
    mergeFrom first.sequenceNumber (first :: chunks) =
      (first :: chunks).map toChunk := by
  induction chunks generalizing first with
  | nil => simp [mergeFrom]
  | cons second chunks ih =>
    obtain ⟨⟨next, -⟩, rest⟩ := isChain_cons_cons.mp consecutive
    have taken : mergeFrom first.sequenceNumber (first :: second :: chunks) =
        first.toChunk :: mergeFrom second.sequenceNumber (second :: chunks) := by
      rw [next, mergeFrom, if_neg (not_not_intro rfl)]
    rw [taken, ih rest, map_cons (l := second :: chunks)]

theorem insertionSort_consecutive (consecutive : Consecutive (chunks.map sequenceNumber)) :
    chunks.insertionSort (fun a b => a.sequenceNumber ≤ b.sequenceNumber) = chunks := by
  have increasing : (chunks.map sequenceNumber).Pairwise (· < ·) :=
    isChain_iff_pairwise.mp (consecutive.imp fun a b both => both.2)
  refine List.Pairwise.insertionSort_eq ?_
  exact (pairwise_map.mp increasing).imp fun less => le_of_lt less

/-- **A response whose numbers follow one another is merged whole and in order.** -/
theorem mergeChunks_consecutive (some : chunks ≠ [])
    (consecutive : Consecutive (chunks.map sequenceNumber)) :
    mergeChunks chunks = .ok (chunks.map toChunk) := by
  obtain _ | ⟨first, _ | ⟨second, chunks⟩⟩ := chunks
  · exact absurd rfl some
  · rfl
  · unfold mergeChunks
    dsimp only
    rw [insertionSort_consecutive consecutive]
    exact congrArg Except.ok (mergeFrom_consecutive consecutive)

variable {C : Crypto} {codec : TransportCodec C}

/-! ### One request -/

/-- **How far a request has come.** -/
inductive Progress (codec : TransportCodec C)
  | pending (requestId : ℕ) (state : MessageState)
  | answered (result : Except Error codec.ResponseMessage)

namespace Progress

/-- What its callback has been sent. -/
def results : Progress codec → List (Except Error codec.ResponseMessage)
  | .pending _ _ => []
  | .answered result => [result]

end Progress

namespace TransportState

variable (s : TransportState codec)

def acceptedChunk (data : List UInt8) : Option (MessageChunk × ChunkInfo) :=
  match s.openChunk data with
  | .error _ => none
  | .ok (chunk, chunkInfo) =>
    match s.sequenceNumbers.validateAndIncrement chunkInfo.sequenceHeader.sequenceNumber with
    | (.error _, _) => none
    | (.ok (), _) => some (chunk, chunkInfo)

/-- The chunks of a request, with one more. -/
def grow (state : MessageState) (chunk : MessageChunk) (chunkInfo : ChunkInfo) : MessageState :=
  { state with chunks := state.chunks ++ [⟨chunkInfo, chunk.data⟩] }

/-- The chunk is one more than are taken. -/
def Oversized (state : MessageState) : Prop :=
  s.effectiveMaxChunkCount ≤ state.chunks.length

instance (s : TransportState codec) (state : MessageState) : Decidable (s.Oversized state) :=
  inferInstanceAs (Decidable (_ ≤ _))

def reactChunk (requestId : ℕ) (state : MessageState)
    (chunk : MessageChunk) (chunkInfo : ChunkInfo) : Progress codec :=
  match chunkInfo.messageHeader.isFinal with
  | .finalError => .answered (.error (finalError s.secureChannel chunk chunkInfo))
  | .intermediate =>
    if s.Oversized state then .answered (.error (oversizedError requestId))
    else .pending requestId (grow state chunk chunkInfo)
  | .final =>
    if s.Oversized state then .answered (.error (oversizedError requestId))
    else
      let whole := (grow state chunk chunkInfo).chunks.map toChunk
      .answered (handleResponse codec s.secureChannel whole).1

def react (op : TransportOp) (requestId : ℕ) (state : MessageState) : Progress codec :=
  match op with
  | .nextTimeout now =>
    if state.deadline ≤ now then .answered (.error (timeoutError requestId))
    else .pending requestId state
  | .sendFailed id error =>
    if requestId = id then .answered (.error error) else .pending requestId state
  | .incoming data =>
    match s.acceptedChunk data with
    | some (chunk, chunkInfo) =>
      if requestId = chunkInfo.sequenceHeader.requestId then
        s.reactChunk requestId state chunk chunkInfo
      else .pending requestId state
    | none => .pending requestId state
  | .close =>
    match s.closeState with
    | .closing status => .answered (.error (closingError status))
    | _ => .pending requestId state
  | _ => .pending requestId state

end TransportState

/-- **What every request has come to,** and the responses that were whole. -/
structure RequestRecord (codec : TransportCodec C) where
  progress : ℕ → Option (Progress codec)
  whole : List (List MessageChunk)

namespace RequestRecord

def new : RequestRecord codec := ⟨fun _ => none, []⟩

/-- The requests go on, each on its own. -/
def react (r : RequestRecord codec) (s : TransportState codec) (op : TransportOp) (callback : ℕ) :
    Option (Progress codec) :=
  (r.progress callback).map fun
    | .pending requestId state => s.react op requestId state
    | .answered result => .answered result

def register (s : TransportState codec) : TransportOp → Option (ℕ × Progress codec)
  | .takeOutgoing =>
    match s.outgoing with
    | ⟨some callback, deadline⟩ :: _ =>
      some (callback, .pending ((s.lastRequestId + 1) % u32Size) ⟨callback, [], deadline⟩)
    | _ => none
  | _ => none

def completed (r : RequestRecord codec) (s : TransportState codec) :
    TransportOp → List (List MessageChunk)
  | .incoming data =>
    match s.acceptedChunk data with
    | some (chunk, chunkInfo) =>
      match (s.messageStates.lookup chunkInfo.sequenceHeader.requestId).bind
        fun state => r.progress state.callback with
      | some (.pending _ state) =>
        if chunkInfo.messageHeader.isFinal = .final ∧ ¬ s.Oversized state then
          [(grow state chunk chunkInfo).chunks.map toChunk]
        else []
      | _ => []
    | none => []
  | _ => []

def note (r : RequestRecord codec) (s : TransportState codec) (op : TransportOp)
    (_ : TransportState codec) : RequestRecord codec where
  progress :=
    match register s op with
    | some (callback, progress) => Function.update r.progress callback (some progress)
    | none => r.react s op
  whole := r.whole ++ r.completed s op

end RequestRecord

open Function

namespace TransportState

/-- **Each callback was sent what its request ended with,** and a request that did not end can still
be found. What was decoded are whole responses. -/
structure Answered (s : TransportState codec) (r : RequestRecord codec) : Prop where
  sent : ∀ callback progress, r.progress callback = some progress →
    s.sent callback = progress.results
  waiting : ∀ callback requestId state, r.progress callback = some (.pending requestId state) →
    s.messageStates.lookup requestId = some state
  merged : s.merged = r.whole

/-- **A step that loses no request.** A request id is not in use; the last chunk of a response has
numbers that follow on, and the response can be decoded. -/
def Orderly (s : TransportState codec) : TransportOp → Prop
  | .takeOutgoing => ∀ callback deadline rest, s.outgoing = ⟨some callback, deadline⟩ :: rest →
    (s.lastRequestId + 1) % u32Size ∉ s.messageStates
  | .incoming data => ∀ chunk chunkInfo state, s.acceptedChunk data = some (chunk, chunkInfo) →
    s.messageStates.lookup chunkInfo.sequenceHeader.requestId = some state →
    chunkInfo.messageHeader.isFinal = .final → ¬ s.Oversized state →
      Consecutive ((grow state chunk chunkInfo).chunks.map
        sequenceNumber) ∧
      ∃ message, (handleResponse codec s.secureChannel
        ((grow state chunk chunkInfo).chunks.map toChunk)).1 = .ok message
  | _ => True

/-- The callbacks of the requests that were not taken. -/
def queued (s : TransportState codec) : List ℕ := s.outgoing.filterMap OutgoingMessage.callback

structure Tracked (s : TransportState codec) (r : RequestRecord codec) : Prop where
  answered : s.Answered r
  known : ∀ requestId state, s.messageStates.lookup requestId = some state →
    r.progress state.callback = some (.pending requestId state)
  own : ∀ callback requestId state, r.progress callback = some (.pending requestId state) →
    state.callback = callback
  distinct : s.queued.Nodup
  /-- A callback that was not taken has not been sent anything. -/
  fresh : ∀ callback, callback ∈ s.queued ∨ s.submitted ≤ callback →
    r.progress callback = none ∧ s.sent callback = []
  submitted : ∀ callback ∈ s.queued, callback < s.submitted

variable {s : TransportState codec} {r : RequestRecord codec}

/-! ### What is sent -/

@[simp]
theorem send_sent (s : TransportState codec) (callback : ℕ)
    (result : Except Error codec.ResponseMessage) (other : ℕ) :
    (s.send callback result).sent other =
      if other = callback then s.sent callback ++ [result] else s.sent other :=
  update_apply _ _ _ _

section

variable (s : TransportState codec) (results : List (ℕ × Except Error codec.ResponseMessage))

theorem sendAll_sent (callback : ℕ) :
    (s.sendAll results).sent callback =
      s.sent callback ++ (results.filter fun result => result.1 = callback).map Prod.snd := by
  induction results generalizing s with
  | nil => exact (append_nil _).symm
  | cons result results ih =>
    refine (ih (s.send result.1 result.2)).trans ?_
    by_cases same : result.1 = callback
    · simp [same]
    · simp [same, Ne.symm same]

theorem sendAll_frame : s.sendAll results = { s with sent := (s.sendAll results).sent } := by
  induction results generalizing s with
  | nil => rfl
  | cons result results ih => exact ih (s.send result.1 result.2)

@[simp]
theorem sendAll_queued :
    (s.sendAll results).queued = s.queued := by rw [sendAll_frame]; rfl

@[simp]
theorem sendAll_messageStates :
    (s.sendAll results).messageStates = s.messageStates := by rw [sendAll_frame]

@[simp]
theorem sendAll_submitted :
    (s.sendAll results).submitted = s.submitted := by rw [sendAll_frame]

@[simp]
theorem sendAll_merged :
    (s.sendAll results).merged = s.merged := by rw [sendAll_frame]

end

/-! ### Steps for one request -/

section One

variable {s' : TransportState codec} {r' : RequestRecord codec}

theorem Tracked.congr (tracked : s.Tracked r) (outgoing : s'.queued = s.queued)
    (submitted : s'.submitted = s.submitted) (states : s'.messageStates = s.messageStates)
    (sent : s'.sent = s.sent) (progress : r'.progress = r.progress)
    (merged : s'.merged = r'.whole) :
    s'.Tracked r' where
  answered :=
    { sent := by
        rw [progress, sent]
        exact tracked.answered.sent
      waiting := by
        rw [progress, states]
        exact tracked.answered.waiting
      merged := merged }
  known := by
    rw [progress, states]
    exact tracked.known
  own := by
    rw [progress]
    exact tracked.own
  distinct := outgoing ▸ tracked.distinct
  fresh := by
    rw [progress, sent, outgoing, submitted]
    exact tracked.fresh
  submitted := by
    rw [outgoing, submitted]
    exact tracked.submitted

variable {id : ℕ} {state : MessageState}

section

variable (tracked : s.Tracked r)
include tracked

theorem Tracked.requestId_eq {id' : ℕ} {state' : MessageState}
    (found : s.messageStates.lookup id = some state)
    (found' : s.messageStates.lookup id' = some state') (same : state'.callback = state.callback) :
    id' = id ∧ state' = state := by
  have first := tracked.known id state found
  have second := tracked.known id' state' found'
  rw [same, first] at second
  cases second
  exact ⟨rfl, rfl⟩

theorem Tracked.not_fresh (found : s.messageStates.lookup id = some state)
    {callback : ℕ} (fresh : callback ∈ s.queued ∨ s.submitted ≤ callback) :
    callback ≠ state.callback := by
  rintro rfl
  have none := (tracked.fresh _ fresh).1
  rw [tracked.known id state found] at none
  cases none

/-- **A request goes on or ends.** -/
theorem Tracked.moveOn {p : Progress codec} (after : Option MessageState)
    (found : s.messageStates.lookup id = some state)
    (pending : ∀ id' grown, p = .pending id' grown ↔ id' = id ∧ after = some grown)
    (same : ∀ grown, after = some grown → grown.callback = state.callback)
    (outgoing : s'.queued = s.queued) (submitted : s'.submitted = s.submitted)
    (states : ∀ id', s'.messageStates.lookup id' =
      if id' = id then after else s.messageStates.lookup id')
    (sent : ∀ callback, s'.sent callback =
      if callback = state.callback then p.results else s.sent callback)
    (progress : r'.progress = update r.progress state.callback (some p))
    (merged : s'.merged = r'.whole) : s'.Tracked r' := by
  refine ⟨⟨fun callback p' has => ?_, fun callback id' state' has => ?_, merged⟩,
    fun id' state' found' => ?_, fun callback id' state' has => ?_, outgoing ▸ tracked.distinct,
    fun callback fresh => ?_, ?_⟩
  · rw [progress, update_apply] at has
    rw [sent]
    split_ifs at has ⊢ with here
    · cases has
      rfl
    · exact tracked.answered.sent callback p' has
  · rw [progress, update_apply] at has
    rw [states]
    split_ifs at has with here
    · obtain ⟨rfl, grown⟩ := (pending id' state').mp (Option.some.inj has)
      exact (if_pos rfl).trans grown
    · have there := tracked.answered.waiting callback id' state' has
      rw [if_neg, there]
      rintro rfl
      rw [there] at found
      cases found
      exact here (tracked.own _ _ _ has).symm
  · rw [states] at found'
    split_ifs at found' with here
    · rw [progress, same state' found', update_self, (pending id' state').mpr ⟨here, found'⟩]
    · rw [progress, update_of_ne]
      · exact tracked.known id' state' found'
      · exact fun callback => here (tracked.requestId_eq found found' callback).1
  · rw [progress, update_apply] at has
    split_ifs at has with here
    · rw [here]
      exact same state' ((pending id' state').mp (Option.some.inj has)).2
    · exact tracked.own callback id' state' has
  · rw [outgoing, submitted] at fresh
    have ne := tracked.not_fresh found fresh
    rw [progress, update_of_ne ne, sent, if_neg ne]
    exact tracked.fresh callback fresh
  · rw [outgoing, submitted]
    exact tracked.submitted

theorem Tracked.answer (found : s.messageStates.lookup id = some state)
    {result : Except Error codec.ResponseMessage}
    (outgoing : s'.queued = s.queued) (submitted : s'.submitted = s.submitted)
    (states : s'.messageStates = s.messageStates.erase id)
    (sent : ∀ callback, s'.sent callback =
      if callback = state.callback then s.sent state.callback ++ [result] else s.sent callback)
    (progress : r'.progress = update r.progress state.callback (some (.answered result)))
    (merged : s'.merged = r'.whole) : s'.Tracked r' := by
  refine tracked.moveOn none found (by simp) nofun outgoing submitted
    (fun id' => by rw [states, lookup_erase_eq]) ?_ progress merged
  rwa [tracked.answered.sent _ _ (tracked.known id state found)] at sent

theorem Tracked.grow {grown : MessageState}
    (found : s.messageStates.lookup id = some state) (same : grown.callback = state.callback)
    (outgoing : s'.queued = s.queued) (submitted : s'.submitted = s.submitted)
    (states : s'.messageStates = s.messageStates.insert id grown) (sent : s'.sent = s.sent)
    (progress : r'.progress = update r.progress state.callback (some (.pending id grown)))
    (merged : s'.merged = r'.whole) : s'.Tracked r' := by
  refine tracked.moveOn (some grown) found (by simp [eq_comm]) (by rintro _ ⟨⟩; exact same)
    outgoing submitted (fun id' => by rw [states, lookup_insert_eq])
      (fun callback => ?_) progress merged
  rw [sent]
  split_ifs with here
  · rw [here, tracked.answered.sent _ _ (tracked.known id state found)]
    rfl
  · rfl

end
end One

/-! ### Events for one request -/

variable {op : TransportOp}

section

variable (tracked : s.Tracked r)
include tracked

theorem Tracked.react_eq_self {id : ℕ}
    (unknown : s.messageStates.lookup id = none)
    (others : ∀ id' state, id' ≠ id → s.react op id' state = .pending id' state) :
    r.react s op = r.progress := by
  funext callback
  unfold RequestRecord.react
  match has : r.progress callback with
  | none => rfl
  | some (.answered result) => rfl
  | some (.pending id' state) =>
    have there := tracked.answered.waiting callback id' state has
    have ne : id' ≠ id := by
      rintro rfl
      rw [there] at unknown
      cases unknown
    exact congrArg some (others id' state ne)

theorem Tracked.react_eq_update {id : ℕ} {state : MessageState}
    (found : s.messageStates.lookup id = some state)
    (others : ∀ id' state, id' ≠ id → s.react op id' state = .pending id' state) :
    r.react s op = update r.progress state.callback (some (s.react op id state)) := by
  funext callback
  rw [update_apply]
  split_ifs with same
  · rw [RequestRecord.react, same, tracked.known id state found]
    rfl
  · unfold RequestRecord.react
    match has : r.progress callback with
    | none => rfl
    | some (.answered result) => rfl
    | some (.pending id' state') =>
      have there := tracked.answered.waiting callback id' state' has
      have ne : id' ≠ id := by
        rintro rfl
        rw [there] at found
        cases found
        exact same (tracked.own _ _ _ has).symm
      exact congrArg some (others id' state' ne)

/-! ### Each step -/

theorem Tracked.submit (deadline : ℕ) :
    Tracked { s with
      outgoing := s.outgoing ++ [⟨some s.submitted, deadline⟩],
      submitted := s.submitted + 1 } r := by
  have queue : queued { s with
      outgoing := s.outgoing ++ [⟨some s.submitted, deadline⟩], submitted := s.submitted + 1 } =
      s.queued ++ [s.submitted] := by simp [queued]
  refine ⟨⟨tracked.answered.sent, tracked.answered.waiting, tracked.answered.merged⟩, tracked.known,
    tracked.own, ?_, fun callback fresh => tracked.fresh callback ?_, fun callback here => ?_⟩
  · rw [queue]
    refine tracked.distinct.append (nodup_singleton _) ?_
    intro callback here last
    have bound := tracked.submitted callback here
    rw [mem_singleton.mp last] at bound
    exact lt_irrefl _ bound
  · rw [queue, mem_append, mem_singleton] at fresh
    rcases fresh with (here | rfl) | later
    · exact inl here
    · exact inr le_rfl
    · exact inr (Nat.le_of_succ_le later)
  · rw [queue, mem_append, mem_singleton] at here
    rcases here with here | rfl
    · exact Nat.lt_succ_of_lt (tracked.submitted callback here)
    · exact Nat.lt_succ_self _

theorem Tracked.submit_silent (deadline : ℕ) :
    Tracked { s with outgoing := s.outgoing ++ [⟨none, deadline⟩] } r := by
  refine tracked.congr ?_ rfl rfl rfl rfl tracked.answered.merged
  simp [queued]

theorem Tracked.sendFailed (requestId : ℕ) (error : Error) :
    Tracked (s.messageSendFailed requestId error)
      { r with progress := r.react s (.sendFailed requestId error) } := by
  have others : ∀ id' state, id' ≠ requestId →
      s.react (.sendFailed requestId error) id' state = .pending id' state :=
    fun id' state ne => if_neg ne
  unfold messageSendFailed
  cases found : s.messageStates.lookup requestId with
  | none =>
    rw [tracked.react_eq_self found others]
    exact tracked
  | some state =>
    rw [tracked.react_eq_update found others]
    refine tracked.answer found rfl rfl rfl (fun callback => send_sent _ _ _ _) ?_
      tracked.answered.merged
    exact congrArg (update _ _ ·) (congrArg some (if_pos rfl))

theorem Tracked.answers (ends : (Σ _ : ℕ, MessageState) → Bool)
    (result : (Σ _ : ℕ, MessageState) → Except Error codec.ResponseMessage) (callback : ℕ) :
    ((((s.messageStates.entries.filter ends).map fun entry =>
      (entry.2.callback, result entry)).filter fun answer => answer.1 = callback).map Prod.snd) =
    match r.progress callback with
    | some (.pending id state) => if ends ⟨id, state⟩ then [result ⟨id, state⟩] else []
    | _ => [] := by
  rw [filter_map, map_map, filter_filter]
  show ((s.messageStates.entries.filter fun entry =>
    decide (entry.2.callback = callback) && ends entry).map result) = _
  have owner : ∀ id state, s.messageStates.lookup id = some state → state.callback = callback →
      r.progress callback = some (.pending id state) := fun id state found own =>
    own ▸ tracked.known id state found
  have nobody : (∀ id state, r.progress callback ≠ some (.pending id state)) →
      (s.messageStates.entries.filter fun entry =>
        decide (entry.2.callback = callback) && ends entry) = [] := by
    intro idle
    refine filter_eq_nil_iff.mpr fun entry listed has => ?_
    rw [Bool.and_eq_true, decide_eq_true_eq] at has
    exact idle entry.1 entry.2 (owner _ _ (AList.mem_lookup_iff.mpr listed) has.1)
  match has : r.progress callback with
  | none => rw [nobody (by simp [has]), map_nil]
  | some (.answered _) => rw [nobody (by simp [has]), map_nil]
  | some (.pending id state) =>
    have there := tracked.answered.waiting callback id state has
    rw [filter_entries_of_unique there fun id' state' found both => ?_]
    · show List.map result (if (_ && ends ⟨id, state⟩) = true then _ else _) =
        if ends ⟨id, state⟩ = true then _ else _
      rw [tracked.own callback id state has, decide_eq_true rfl, Bool.true_and]
      split_ifs <;> rfl
    · rw [Bool.and_eq_true, decide_eq_true_eq] at both
      have same := owner id' state' found both.1
      rw [has] at same
      cases same
      rfl

end

variable {s' : TransportState codec}

/-- **Some of the pending requests end at once.** Requests that were not taken may be sent something
if they never will be. -/
theorem Tracked.endSome {r' : RequestRecord codec} (tracked : s.Tracked r)
    (ends : (Σ _ : ℕ, MessageState) → Bool)
    (result : (Σ _ : ℕ, MessageState) → Except Error codec.ResponseMessage)
    (outgoing : s'.queued.Sublist s.queued) (submitted : s'.submitted = s.submitted)
    (left : ∀ id, s'.messageStates.lookup id =
      (s.messageStates.lookup id).filter fun state => !ends ⟨id, state⟩)
    (sent : ∀ callback, (callback ∈ s.queued → callback ∈ s'.queued) →
      s'.sent callback = s.sent callback ++
        ((((s.messageStates.entries.filter ends).map fun entry => (entry.2.callback, result entry)
          ).filter fun answer => answer.1 = callback).map Prod.snd))
    (progress : ∀ callback, r'.progress callback = (r.progress callback).map fun
      | .pending id state =>
        if ends ⟨id, state⟩ then .answered (result ⟨id, state⟩) else .pending id state
      | .answered result => .answered result)
    (merged : s'.merged = r'.whole) : s'.Tracked r' := by
  -- What the record says after the step about a request that it knew.
  have after : ∀ {callback id state}, r'.progress callback = some (.pending id state) →
      r.progress callback = some (.pending id state) ∧ ends ⟨id, state⟩ = false := by
    intro callback id state has
    rw [progress] at has
    match before : r.progress callback with
    | none => simp [before] at has
    | some (.answered _) => simp [before] at has
    | some (.pending id' state') =>
      simp only [before, Option.map_some, Option.some.injEq] at has
      split_ifs at has with overdue
      cases has
      exact ⟨rfl, Bool.eq_false_iff.mpr overdue⟩
  refine ⟨⟨fun callback p has => ?_, fun callback id state has => ?_, merged⟩,
    fun id state found => ?_,
    fun callback id state has => tracked.own callback id state (after has).1,
    tracked.distinct.sublist outgoing, fun callback fresh => ?_, fun callback here => ?_⟩
  · have taken : callback ∉ s.queued := by
      intro here
      rw [progress, (tracked.fresh callback (inl here)).1] at has
      cases has
    rw [sent callback fun here => absurd here taken, tracked.answers]
    rw [progress] at has
    match before : r.progress callback with
    | none => simp [before] at has
    | some (.answered result) =>
      simp only [before, Option.map_some, Option.some.injEq] at has
      rw [tracked.answered.sent callback _ before, ← has]
      rfl
    | some (.pending id state) =>
      simp only [before, Option.map_some, Option.some.injEq] at has
      rw [tracked.answered.sent callback _ before, ← has]
      show [] ++ (if _ then _ else _) = _
      split_ifs <;> rfl
  · obtain ⟨before, stays⟩ := after has
    rw [left, tracked.answered.waiting callback id state before]
    simp [stays]
  · rw [left] at found
    obtain ⟨found, stays⟩ := Option.filter_eq_some_iff.mp found
    rw [progress, tracked.known id state found, Option.map_some]
    simp only [Bool.not_eq_true'] at stays
    simp [stays]
  · rw [submitted] at fresh
    have still : callback ∈ s.queued → callback ∈ s'.queued := by
      intro here
      rcases fresh with there | later
      · exact there
      · exact absurd (tracked.submitted callback here) (Nat.not_lt.mpr later)
    obtain ⟨unknown, silent⟩ := tracked.fresh callback
      (fresh.imp_left fun here => outgoing.subset here)
    rw [sent callback still, tracked.answers, progress, unknown, silent]
    exact ⟨rfl, rfl⟩
  · rw [submitted]
    exact tracked.submitted callback (outgoing.subset here)

theorem lookup_nextTimeout (s : TransportState codec) (now id : ℕ) :
    (s.nextTimeout now).messageStates.lookup id =
      (s.messageStates.lookup id).filter fun state => !decide (state.deadline ≤ now) := by
  have overdue : id ∈ (s.timedOut now).map Sigma.fst ↔
      ∃ state, s.messageStates.lookup id = some state ∧ state.deadline ≤ now := by
    constructor
    · intro listed
      obtain ⟨⟨_, state⟩, timedOut, rfl⟩ := mem_map.mp listed
      obtain ⟨there, late⟩ := mem_filter.mp timedOut
      exact ⟨state, AList.mem_lookup_iff.mpr there, of_decide_eq_true late⟩
    · rintro ⟨state, there, late⟩
      exact mem_map.mpr ⟨⟨id, state⟩, mem_filter.mpr
        ⟨AList.mem_lookup_iff.mp there, decide_eq_true late⟩, rfl⟩
  have left : (s.nextTimeout now).messageStates.lookup id =
      if id ∈ (s.timedOut now).map Sigma.fst then none else s.messageStates.lookup id :=
    (congrArg (AList.lookup id) (sendAll_messageStates _ _)).trans (lookup_foldl_erase _ _ _)
  rw [left]
  cases found : s.messageStates.lookup id with
  | none => exact ite_self none
  | some state =>
    by_cases late : state.deadline ≤ now
    · rw [if_pos (overdue.mpr ⟨state, found, late⟩)]
      exact (Option.filter_some_neg (by simp [late])).symm
    · rw [if_neg]
      · exact (Option.filter_some_pos (by simp [late])).symm
      · intro listed
        obtain ⟨state', found', late'⟩ := overdue.mp listed
        rw [found, Option.some.injEq] at found'
        exact late (found' ▸ late')

theorem Tracked.nextTimeout (tracked : s.Tracked r) (now : ℕ) :
    Tracked (s.nextTimeout now) { r with progress := r.react s (.nextTimeout now) } := by
  refine tracked.endSome (fun entry => entry.2.deadline ≤ now)
    (fun entry => .error (timeoutError entry.1)) ?_ (sendAll_submitted _ _)
    (s.lookup_nextTimeout now) (fun callback _ => sendAll_sent _ _ callback) (fun callback => ?_)
    ((sendAll_merged _ _).trans tracked.answered.merged)
  · rw [show (s.nextTimeout now).queued = s.queued from sendAll_queued _ _]
  · match before : r.progress callback with
    | none => simp [RequestRecord.react, before]
    | some (.answered _) => simp [RequestRecord.react, before]
    | some (.pending id state) => simp [RequestRecord.react, before, react]

theorem Tracked.close (tracked : s.Tracked r) {status : StatusCode}
    (closing : s.closeState = .closing status) :
    Tracked { s.close status with closeState := .closed status }
      { r with progress := r.react s .close } := by
  have empty : (s.close status).queued = [] := sendAll_queued _ _
  have none : (s.close status).messageStates = ∅ := sendAll_messageStates _ _
  refine tracked.endSome (fun _ => true) (fun _ => .error (closingError status)) ?_
    (sendAll_submitted _ _) (fun id => ?_) (fun callback notQueued => ?_) (fun callback => ?_)
    ((sendAll_merged _ _).trans tracked.answered.merged)
  · show (s.close status).queued.Sublist s.queued
    rw [empty]
    exact nil_sublist _
  · show (s.close status).messageStates.lookup id = _
    rw [none]
    cases s.messageStates.lookup id <;> rfl
  · have untaken : callback ∉ s.queued := fun here => by
      have there : callback ∈ (s.close status).queued := notQueued here
      rw [empty] at there
      exact not_mem_nil there
    refine (sendAll_sent _ _ callback).trans (congrArg (s.sent callback ++ ·) ?_)
    have nothing : (s.queued.map fun callback => (callback,
        (.error (closingError status) : Except Error codec.ResponseMessage))).filter
        (fun answer => answer.1 = callback) = [] := by
      refine filter_eq_nil_iff.mpr fun answer listed same => ?_
      obtain ⟨other, here, rfl⟩ := mem_map.mp listed
      exact untaken (of_decide_eq_true same ▸ here)
    rw [map_append, filter_append]
    refine congrArg (List.map Prod.snd) ((congrArg _ nothing).trans ?_)
    rw [append_nil, filter_true, values, map_map, map_map]
    rfl
  · match before : r.progress callback with
    | .none => simp [RequestRecord.react, before]
    | some (.answered _) => simp [RequestRecord.react, before]
    | some (.pending id state) =>
      simp [RequestRecord.react, before, react, closing]

/-- **A request is taken,** with an id that is not in use. -/
theorem Tracked.takeOutgoing (tracked : s.Tracked r)
    (orderly : s.Orderly .takeOutgoing) (taken : s.takeOutgoing = some s') :
    s'.Tracked (r.note s .takeOutgoing s') := by
  have same : r.react s .takeOutgoing = r.progress := by
    funext callback
    unfold RequestRecord.react
    match r.progress callback with
    | none => rfl
    | some (.answered _) => rfl
    | some (.pending _ _) => rfl
  unfold RequestRecord.note RequestRecord.completed RequestRecord.register
  rw [same, append_nil]
  unfold TransportState.takeOutgoing at taken
  match queue : s.outgoing with
  | [] => simp [queue] at taken
  | ⟨none, deadline⟩ :: outgoing =>
    simp only [queue, Option.some.injEq] at taken
    subst taken
    exact tracked.congr (by simp [queued, queue]) rfl rfl rfl rfl tracked.answered.merged
  | ⟨some callback, deadline⟩ :: outgoing =>
    simp only [queue, Option.some.injEq] at taken
    subst taken
    have whole : s.queued = callback :: outgoing.filterMap OutgoingMessage.callback := by
      simp [queued, queue]
    have unused := AList.lookup_eq_none.mpr (orderly callback deadline outgoing queue)
    have here : callback ∈ s.queued := whole ▸ mem_cons_self
    obtain ⟨unknown, silent⟩ := tracked.fresh callback (inl here)
    obtain ⟨first, later⟩ := nodup_cons.mp (whole ▸ tracked.distinct)
    have noState : ∀ {id state}, s.messageStates.lookup id = some state →
        state.callback ≠ callback := by
      intro id state found same
      have pending := tracked.known id state found
      rw [same, unknown] at pending
      cases pending
    refine ⟨⟨fun other p has => ?_, fun other id state has => ?_, tracked.answered.merged⟩,
      fun id state found => ?_, fun other id state has => ?_, later, fun other fresh => ?_,
      fun other there => ?_⟩
    · change update r.progress callback _ other = some p at has
      rw [update_apply] at has
      split_ifs at has with this
      · cases has
        rw [this]
        exact silent
      · exact tracked.answered.sent other p has
    · change update r.progress callback _ other = some _ at has
      rw [update_apply] at has
      rw [lookup_insert_eq]
      split_ifs at has with this
      · cases has
        exact if_pos rfl
      · have before := tracked.answered.waiting other id state has
        rw [if_neg]
        · exact before
        · rintro rfl
          rw [before] at unused
          cases unused
    · change (s.messageStates.insert _ _).lookup id = some state at found
      show update r.progress callback _ state.callback = _
      rw [lookup_insert_eq] at found
      split_ifs at found with this
      · cases found
        rw [update_self, this]
      · rw [update_of_ne (noState found)]
        exact tracked.known id state found
    · change update r.progress callback _ other = some _ at has
      rw [update_apply] at has
      split_ifs at has with this
      · cases has
        exact this.symm
      · exact tracked.own other id state has
    · change other ∈ outgoing.filterMap OutgoingMessage.callback ∨ s.submitted ≤ other at fresh
      show update r.progress callback _ other = none ∧ s.sent other = []
      have ne : other ≠ callback := by
        rintro rfl
        rcases fresh with there | after
        · exact first there
        · exact absurd (tracked.submitted other here) (Nat.not_lt.mpr after)
      rw [update_of_ne ne]
      refine tracked.fresh other (fresh.imp_left fun there => ?_)
      exact whole ▸ mem_cons_of_mem _ there
    · exact tracked.submitted other (whole ▸ mem_cons_of_mem _ there)

/-! ### Chunks -/

variable {data : List UInt8}

section

variable {chunk : MessageChunk} {chunkInfo : ChunkInfo}
  (accepted : s.acceptedChunk data = some (chunk, chunkInfo))
include accepted

theorem react_incoming_of_ne (id : ℕ) (state : MessageState)
    (ne : id ≠ chunkInfo.sequenceHeader.requestId) :
    s.react (.incoming data) id state = .pending id state := by
  show (match s.acceptedChunk data with | some (chunk, chunkInfo) => _ | none => _) = _
  rw [accepted]
  exact if_neg ne

theorem react_incoming_self (state : MessageState) :
    s.react (.incoming data) chunkInfo.sequenceHeader.requestId state =
      s.reactChunk chunkInfo.sequenceHeader.requestId state chunk chunkInfo := by
  show (match s.acceptedChunk data with | some (chunk, chunkInfo) => _ | none => _) = _
  rw [accepted]
  exact if_pos rfl

end

theorem processChunk_of_none (rejected : s.acceptedChunk data = none) :
    ∃ error, s.processChunk data = (.error error, s) := by
  unfold acceptedChunk at rejected
  unfold processChunk
  cases opened : s.openChunk data with
  | error error => exact ⟨error, rfl⟩
  | ok both =>
    obtain ⟨chunk, chunkInfo⟩ := both
    simp only [opened] at rejected ⊢
    obtain ⟨error, failed⟩ | ⟨passed, -⟩ := s.sequenceNumbers.validateAndIncrement_spec
      chunkInfo.sequenceHeader.sequenceNumber
    · rw [failed]
      exact ⟨error, rfl⟩
    · rw [passed] at rejected
      cases rejected

section

variable {chunk : MessageChunk} {chunkInfo : ChunkInfo}
  (accepted : s.acceptedChunk data = some (chunk, chunkInfo))
include accepted

theorem processChunk_of_some :
    ∃ handle, s.processChunk data =
      { s with sequenceNumbers := handle }.receive chunk chunkInfo := by
  unfold acceptedChunk at accepted
  unfold processChunk
  cases opened : s.openChunk data with
  | error error => simp [opened] at accepted
  | ok both =>
    simp only [opened] at accepted ⊢
    obtain ⟨error, failed⟩ | ⟨passed, -⟩ := s.sequenceNumbers.validateAndIncrement_spec
      both.2.sequenceHeader.sequenceNumber
    · rw [failed] at accepted
      cases accepted
    · rw [passed] at accepted ⊢
      cases accepted
      exact ⟨_, rfl⟩

theorem Tracked.completed_none
    (unknown : s.messageStates.lookup chunkInfo.sequenceHeader.requestId = none) :
    r.completed s (.incoming data) = [] := by
  simp [RequestRecord.completed, accepted, unknown, Option.bind_none]

end

theorem Tracked.completed_some (tracked : s.Tracked r) {chunk : MessageChunk}
    {chunkInfo : ChunkInfo} (accepted : s.acceptedChunk data = some (chunk, chunkInfo))
    {state : MessageState}
    (found : s.messageStates.lookup chunkInfo.sequenceHeader.requestId = some state) :
    r.completed s (.incoming data) =
      if chunkInfo.messageHeader.isFinal = .final ∧ ¬ s.Oversized state then
        [(TransportState.grow state chunk chunkInfo).chunks.map toChunk]
      else [] := by
  simp [RequestRecord.completed, accepted, found, Option.bind_some, tracked.known _ _ found]

theorem complete_of_consecutive {state : MessageState} (some : state.chunks ≠ [])
    (consecutive : Consecutive (state.chunks.map sequenceNumber))
    {message : codec.ResponseMessage}
    (decodes : (handleResponse codec s.secureChannel
      (state.chunks.map toChunk)).1 = .ok message) :
    ∃ secureChannel, s.complete state = (.ok (),
      { s with
        secureChannel := secureChannel
        merged := s.merged ++ [state.chunks.map toChunk]
        }.send state.callback (.ok message)) := by
  unfold complete
  rw [mergeChunks_consecutive some consecutive]
  refine ⟨(handleResponse codec s.secureChannel
    (state.chunks.map toChunk)).2, ?_⟩
  simp [decodes]

section Receive

variable {chunk : MessageChunk} {chunkInfo : ChunkInfo} {state : MessageState}

theorem receive_unknown
    (unknown : s.messageStates.lookup chunkInfo.sequenceHeader.requestId = none) :
    s.receive chunk chunkInfo = (.ok (), s) := by
  simp [receive, unknown]

section

variable (found : s.messageStates.lookup chunkInfo.sequenceHeader.requestId = some state)
include found

theorem receive_finalError (final : chunkInfo.messageHeader.isFinal = .finalError) :
    s.receive chunk chunkInfo = (.ok (),
      { s with messageStates := s.messageStates.erase chunkInfo.sequenceHeader.requestId }.send
        state.callback (.error (finalError s.secureChannel chunk chunkInfo))) := by
  simp [receive, found, final]

theorem receive_oversized (notError : chunkInfo.messageHeader.isFinal ≠ .finalError)
    (oversized : s.Oversized state) :
    s.receive chunk chunkInfo = (.ok (),
      { s with messageStates := s.messageStates.erase chunkInfo.sequenceHeader.requestId }.send
        state.callback (.error (oversizedError chunkInfo.sequenceHeader.requestId))) := by
  have many : s.effectiveMaxChunkCount ≤ state.chunks.length := oversized
  cases final : chunkInfo.messageHeader.isFinal with
  | finalError => exact absurd final notError
  | intermediate | final => simp [receive, found, final, if_pos many]

theorem receive_intermediate (final : chunkInfo.messageHeader.isFinal = .intermediate)
    (few : ¬ s.Oversized state) :
    s.receive chunk chunkInfo = (.ok (), { s with
      messageStates := s.messageStates.insert chunkInfo.sequenceHeader.requestId
        (grow state chunk chunkInfo) }) := by
  have few : ¬ s.effectiveMaxChunkCount ≤ state.chunks.length := few
  simp only [receive, found, final, if_neg few]
  rfl

theorem receive_final (final : chunkInfo.messageHeader.isFinal = .final)
    (few : ¬ s.Oversized state) :
    s.receive chunk chunkInfo =
      { s with messageStates := s.messageStates.erase chunkInfo.sequenceHeader.requestId }.complete
        (grow state chunk chunkInfo) := by
  have few : ¬ s.effectiveMaxChunkCount ≤ state.chunks.length := few
  simp only [receive, found, final, if_neg few]
  rfl

end

end Receive

theorem react_incoming_of_none (rejected : s.acceptedChunk data = none) :
    r.react s (.incoming data) = r.progress := by
  funext callback
  unfold RequestRecord.react
  match r.progress callback with
  | none => rfl
  | some (.answered _) => rfl
  | some (.pending _ _) => simp [react, rejected]

theorem Tracked.incoming (tracked : s.Tracked r) (orderly : s.Orderly (.incoming data))
    (t : TransportState codec) : (s.processChunk data).2.Tracked (r.note s (.incoming data) t) := by
  match accepted : s.acceptedChunk data with
  | none =>
    obtain ⟨error, failed⟩ := processChunk_of_none accepted
    rw [failed]
    refine tracked.congr rfl rfl rfl rfl (react_incoming_of_none accepted) ?_
    simp [RequestRecord.note, RequestRecord.completed, accepted, tracked.answered.merged]
  | some (chunk, chunkInfo) =>
    obtain ⟨handle, processed⟩ := processChunk_of_some accepted
    rw [processed]
    cases found : s.messageStates.lookup chunkInfo.sequenceHeader.requestId with
    | none =>
      have unchanged : s.merged = r.whole ++ r.completed s (.incoming data) := by
        rw [Tracked.completed_none accepted found, append_nil]
        exact tracked.answered.merged
      rw [receive_unknown (s := { s with sequenceNumbers := handle }) found]
      exact tracked.congr rfl rfl rfl rfl
        (tracked.react_eq_self found (react_incoming_of_ne accepted)) unchanged
    | some state =>
      have progress := tracked.react_eq_update found (react_incoming_of_ne accepted)
      rw [react_incoming_self accepted] at progress
      have completed := tracked.completed_some accepted found
      have incomplete : ¬ (chunkInfo.messageHeader.isFinal = .final ∧ ¬ s.Oversized state) →
          s.merged = r.whole ++ r.completed s (.incoming data) := by
        intro more
        rw [completed, if_neg more, append_nil]
        exact tracked.answered.merged
      by_cases error : chunkInfo.messageHeader.isFinal = .finalError
      · rw [receive_finalError (s := { s with sequenceNumbers := handle }) found error]
        refine tracked.answer found rfl rfl rfl (fun callback => send_sent _ _ _ _) ?_
          (incomplete fun both => ?_)
        · rw [reactChunk, error] at progress
          exact progress
        · rw [error] at both
          cases both.1
      by_cases oversized : s.Oversized state
      · rw [receive_oversized (s := { s with sequenceNumbers := handle }) found error oversized]
        refine tracked.answer found rfl rfl rfl (fun callback => send_sent _ _ _ _) ?_
          (incomplete fun both => both.2 oversized)
        have ended : s.reactChunk chunkInfo.sequenceHeader.requestId state chunk chunkInfo =
            .answered (.error (oversizedError chunkInfo.sequenceHeader.requestId)) := by
          cases final : chunkInfo.messageHeader.isFinal with
          | finalError => exact absurd final error
          | intermediate => simp [reactChunk, final, if_pos oversized]
          | final => simp [reactChunk, final, if_pos oversized]
        rw [ended] at progress
        exact progress
      cases final : chunkInfo.messageHeader.isFinal with
      | finalError => exact absurd final error
      | intermediate =>
        rw [receive_intermediate (s := { s with sequenceNumbers := handle }) found final oversized]
        refine tracked.grow found ?_ rfl rfl rfl rfl ?_ (incomplete fun both => ?_)
        · rfl
        · simp only [reactChunk, final, if_neg oversized] at progress
          exact progress
        · rw [final] at both
          cases both.1
      | final =>
        obtain ⟨consecutive, message, decodes⟩ := orderly chunk chunkInfo state accepted found final
          oversized
        have some : (TransportState.grow state chunk chunkInfo).chunks ≠ [] :=
          append_ne_nil_of_right_ne_nil _ (cons_ne_nil _ _)
        rw [receive_final (s := { s with sequenceNumbers := handle }) found final oversized]
        obtain ⟨secureChannel, sent⟩ := complete_of_consecutive
          (s := { s with
            sequenceNumbers := handle
            messageStates := s.messageStates.erase chunkInfo.sequenceHeader.requestId })
          some consecutive decodes
        rw [sent]
        refine tracked.answer found rfl rfl rfl (fun callback => send_sent _ _ _ _) ?_ ?_
        · simp only [reactChunk, final, if_neg oversized, decodes] at progress
          exact progress
        · show s.merged ++ _ = r.whole ++ r.completed s (.incoming data)
          rw [completed, if_pos ⟨final, oversized⟩, tracked.answered.merged]

/-! ### Whole runs -/

theorem react_of_idle (idle : ∀ id state, s.react op id state = .pending id state) :
    r.react s op = r.progress := by
  funext callback
  unfold RequestRecord.react
  match r.progress callback with
  | none => rfl
  | some (.answered _) => rfl
  | some (.pending id state) => exact congrArg some (idle id state)

theorem Tracked.step (tracked : s.Tracked r) (orderly : s.Orderly op)
    (stepped : s.applyTransportOp op = some s') : s'.Tracked (r.note s op s') := by
  have still : ∀ {s' : TransportState codec} {op : TransportOp}, r.completed s op = [] →
      RequestRecord.register s op = none → Tracked s' { r with progress := r.react s op } →
      s'.Tracked (r.note s op s') := by
    intro s' op nothing nobody after
    unfold RequestRecord.note
    rw [nothing, nobody, append_nil]
    exact after
  have closing : ∀ {p : TransportState codec} {r : RequestRecord codec} {state},
      p.Tracked r → Tracked { p with closeState := state } r := fun after =>
    after.congr rfl rfl rfl rfl rfl after.answered.merged
  cases op
  case submit answered deadline =>
    have opened : s' = if answered then { s with
        outgoing := s.outgoing ++ [⟨some s.submitted, deadline⟩], submitted := s.submitted + 1 }
        else { s with outgoing := s.outgoing ++ [⟨none, deadline⟩] } := by
      cases answered <;> cases state : s.closeState <;>
        simp only [applyTransportOp, state, reduceCtorEq, Option.some.injEq] at stepped <;>
        exact stepped.symm
    refine still rfl rfl ?_
    rw [react_of_idle fun _ _ => rfl, opened]
    cases answered with
    | false => exact tracked.submit_silent deadline
    | true => exact tracked.submit deadline
  -- The others are served while the transport is open, or to close it.
  all_goals
    cases state : s.closeState <;> simp only [applyTransportOp, state, reduceCtorEq] at stepped
  case nextTimeout.opened now =>
    cases stepped
    exact still rfl rfl (tracked.nextTimeout now)
  case takeOutgoing.opened =>
    exact tracked.takeOutgoing orderly stepped
  case sendFailed.opened requestId error =>
    cases stepped
    exact still rfl rfl (tracked.sendFailed requestId error)
  case incoming.opened data =>
    have after := tracked.incoming orderly s'
    match processed : s.processChunk data with
    | (.ok (), next) =>
      simp only [processed, Option.some.injEq] at stepped after
      exact stepped ▸ after
    | (.error error, next) =>
      simp only [processed, Option.some.injEq] at stepped after
      rw [← stepped] at after ⊢
      exact closing after
  case finish.opened status =>
    cases stepped
    refine still rfl rfl ?_
    rw [react_of_idle fun _ _ => rfl]
    exact closing tracked
  case close.closing status =>
    cases stepped
    exact still rfl rfl (tracked.close state)

theorem tracked_new (secureChannel : SecureChannel C) (sequenceNumbers : SequenceNumberHandle)
    (maxChunkCount maxMessageSize : ℕ) :
    Tracked (new secureChannel sequenceNumbers maxChunkCount maxMessageSize : TransportState codec)
      .new where
  answered := ⟨nofun, nofun, rfl⟩
  known := nofun
  own := nofun
  distinct := nodup_nil
  fresh := fun _ _ => ⟨rfl, rfl⟩
  submitted := nofun

def recordedMachine (codec : TransportCodec C) :
    Machine (TransportState codec × RequestRecord codec) TransportOp :=
  (transportMachine codec).observed RequestRecord.note

/-- **Responses are reassembled whole and requests are answered once,** whatever the position of the
counter, in every run in which no response wraps around or fails to decode, and no request id comes
back that is still in use. -/
theorem requests_answered_once (secureChannel : SecureChannel C)
    (sequenceNumbers : SequenceNumberHandle) (maxChunkCount maxMessageSize : ℕ)
    (ops : List TransportOp) {s : TransportState codec} {r : RequestRecord codec}
    (orderly : (recordedMachine codec).Guarded (fun s op => s.1.Orderly op)
      (new secureChannel sequenceNumbers maxChunkCount maxMessageSize, .new) ops)
    (ran : (recordedMachine codec).run
      (new secureChannel sequenceNumbers maxChunkCount maxMessageSize, .new) ops = some (s, r)) :
    s.Answered r := by
  have keeps : ∀ u op t, u.1.Tracked u.2 → u.1.Orderly op →
      (recordedMachine codec).step u op = some t → t.1.Tracked t.2 := by
    intro u op t tracked orderly stepped
    obtain ⟨next, noted⟩ := Machine.observed_step_eq_some.mp stepped
    have after := tracked.step orderly next
    rwa [← noted] at after
  have tracked : s.Tracked r := (recordedMachine codec).run_invariant_of_guarded keeps
    (tracked_new secureChannel sequenceNumbers maxChunkCount maxMessageSize) orderly ran
  exact tracked.answered

/-- No security, and responses that are the bytes of their bodies, at least one. -/
def plainCodec : TransportCodec Chunker.unusedCrypto where
  ResponseMessage := List UInt8
  verifyAndRemoveSecurity _ data := .ok ⟨data⟩
  decode _ chunks :=
    match chunks.flatMap fun chunk => chunk.data.drop 24 with
    | [] => .error .unexpectedEof
    | body => .ok body
  openSecureChannelResult _ := none
  endIssueOrRenewSecureChannel channel _ := (.ok (), channel)

def firstChunk (isFinal : MessageIsFinalType) (sequenceNumber : ℕ) (body : List UInt8) :
    List UInt8 :=
  encodeHeaders ⟨.message, isFinal, 24 + body.length, 1⟩ (.symmetric ⟨1⟩)
    ⟨sequenceNumber, 1001⟩ ++ body

/-- A transport without security. -/
def plainTransport (sequenceNumber : ℕ) : TransportState plainCodec :=
  new (Chunker.plainChannel 0) ⟨false, sequenceNumber⟩ 0 65536

/-- A request is sent, and its response comes in two chunks. -/
def twoChunks (first second : ℕ) : List TransportOp :=
  [.submit true 100, .takeOutgoing, .incoming (firstChunk .intermediate first [1]),
    .incoming (firstChunk .final second [2])]

theorem requests_answered_once_two : ∃ s r,
    (recordedMachine plainCodec).run (plainTransport 5, .new) (twoChunks 5 6) = some (s, r) ∧
      s.Answered r ∧ s.sent 0 = [.ok [1, 2]] := by
  refine ⟨_, _, rfl, requests_answered_once (Chunker.plainChannel 0) ⟨false, 5⟩ 0 65536
    (twoChunks 5 6) ?_ rfl, rfl⟩
  refine .cons _ rfl trivial <| .cons _ rfl ?_ <| .cons _ rfl ?_ <| .cons _ rfl ?_ trivial
  · exact fun _ _ _ _ => by decide
  · intro chunk chunkInfo state accepted found final
    cases accepted
    cases final
  · intro chunk chunkInfo state accepted found final few
    cases accepted
    cases found
    exact ⟨by unfold Consecutive; decide, _, rfl⟩

/-- A request is sent, and its response has no body. -/
def noBody : List TransportOp :=
  [.submit true 100, .takeOutgoing, .incoming (firstChunk .final 0 []), .close]

/-- **A response that wraps around loses its first chunk; one that cannot be decoded leaves its
request without an answer.** -/
theorem response_lost :
    (∃ s r, (recordedMachine plainCodec).run (plainTransport 4294967295, .new)
        (twoChunks 4294967295 0) = some (s, r) ∧
      s.sent 0 = [.ok [2]] ∧ r.progress 0 = some (.answered (.ok [1, 2])) ∧ ¬ s.Answered r) ∧
    ∃ s r, (recordedMachine plainCodec).run (plainTransport 0, .new) noBody = some (s, r) ∧
      s.sent 0 = [] ∧ r.progress 0 = some (.answered (.error .unexpectedEof)) ∧ ¬ s.Answered r := by
  refine ⟨⟨_, _, rfl, rfl, rfl, fun answered => ?_⟩, _, _, rfl, rfl, rfl, fun answered => ?_⟩
  · have same := answered.sent 0 _ rfl
    cases same
  · have same := answered.sent 0 _ rfl
    cases same

end TransportState

end AsyncOpcua.Client
