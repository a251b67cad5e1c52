/-
**Turning messages into chunks, and chunks into messages.**

* `Chunker.chunks_round_trip` — without security, a message of any size is cut into chunks that fit,
  that are numbered one after the other, that are valid and from which its bytes are read back.
-/

import AsyncOpcua.Comms.ChunkingStream
import AsyncOpcua.Comms.ReceiveStream

namespace AsyncOpcua.Comms

open Types Foundation ChunkingStream MessageChunk

variable {C : Crypto}

structure SupportedMessage where
  messageType : MessageChunkType
  requestHandle : ℕ
  typeId : BinaryEncodable
  content : BinaryEncodable
  /-- The type is the one of service faults. -/
  isServiceFault : Bool

open List Or

namespace Chunker

/-! ### Encoding -/

/-- The writes of a message, and the last flush. -/
def writeMessage (stream : ChunkingStream C) (message : SupportedMessage)
    (contextId contextHandle : Option ℕ) : Except Error ℕ × ChunkingStream C :=
  match stream.run message.typeId.encode with
  | (.error error, stream) => (.error error, stream)
  | (.ok (), stream) =>
    match stream.run message.content.encode with
    | (.error error, stream) => (.error (error.withContext contextId contextHandle), stream)
    | (.ok (), stream) =>
      match stream.flush with
      | (.error error, stream) => (.error error, stream)
      | (.ok (), stream) => (stream.finish, stream)

/-- `encode_into`: how many chunks were produced, and all chunks put out. The storage is reused by
the source; it is cleared first. -/
def encodeInto (sequenceNumber : SequenceNumberHandle)
    (requestId maxMessageSize maxChunkSize : ℕ) (secureChannel : SecureChannel C)
    (supportedMessage : SupportedMessage) (out : List MessageChunk) :
    Except Error ℕ × List MessageChunk :=
  if secureChannel.securityPolicy = .unknown then
    (.error (.new StatusCode.BadSecurityPolicyRejected "Security policy cannot be unknown"), out)
  else
    let contextId := some requestId
    let handle := supportedMessage.requestHandle
    let messageSize := supportedMessage.content.byteLen
    if 0 < maxMessageSize ∧ maxMessageSize < messageSize then
      (.error ((Error.new
        (if secureChannel.isClientRole then StatusCode.BadRequestTooLarge
          else StatusCode.BadResponseTooLarge)
        s!"Max message size is {maxMessageSize} and message {messageSize} exceeds that").withContext
          contextId (contextHandle handle)), out)
    else
      match new supportedMessage.messageType secureChannel maxChunkSize
        (messageSize + supportedMessage.typeId.byteLen) requestId handle sequenceNumber out with
      | .error error => (.error error, out)
      | .ok stream =>
        let (result, stream) :=
          writeMessage stream supportedMessage contextId (contextHandle handle)
        (result, stream.out)

def encode (sequenceNumber : SequenceNumberHandle) (requestId maxMessageSize maxChunkSize : ℕ)
    (secureChannel : SecureChannel C) (supportedMessage : SupportedMessage) :
    Except Error (List MessageChunk) :=
  match encodeInto sequenceNumber requestId maxMessageSize maxChunkSize secureChannel
    supportedMessage [] with
  | (.error error, _) => .error error
  | (.ok _, chunks) => .ok chunks

/-! ### Checking chunks -/

def validateFrom (secureChannel : SecureChannel C) :
    ℕ → ℕ → List MessageChunk → Except Error Unit
  | _, _, [] => .ok ()
  | index, expectedRequestId, chunk :: chunks => do
    let chunkInfo ← chunk.chunkInfo secureChannel
    if secureChannel.secureChannelId ≠ 0 ∧
        chunkInfo.messageHeader.secureChannelId ≠ secureChannel.secureChannelId then
      .error (.new StatusCode.BadSecureChannelIdInvalid
        s!"Secure channel id {chunkInfo.messageHeader.secureChannelId} does not match expected id {secureChannel.secureChannelId}")
    else if index = 0 then
      validateFrom secureChannel (index + 1) chunkInfo.sequenceHeader.requestId chunks
    else if chunkInfo.sequenceHeader.requestId ≠ expectedRequestId then
      .error (.new StatusCode.BadSequenceNumberInvalid
        s!"Chunk sequence number of {chunkInfo.sequenceHeader.sequenceNumber} has a request id {chunkInfo.sequenceHeader.requestId} which is not the expected value of {expectedRequestId}, idx {index}")
    else validateFrom secureChannel (index + 1) expectedRequestId chunks

def validateChunks (secureChannel : SecureChannel C) (chunks : List MessageChunk) :
    Except Error Unit :=
  match chunks with
  | [] => .error (.new StatusCode.BadUnexpectedError "No chunks supplied")
  | first :: _ => do
    let _ ← first.chunkInfo secureChannel
    validateFrom secureChannel 0 0 chunks

/-! ### The chunks of a message -/

theorem encodeInto_chunks {channel : SecureChannel C} (known : channel.securityPolicy ≠ .unknown)
    {message : SupportedMessage} {typeId content : List UInt8}
    (writesType : message.typeId.Writes typeId)
    (writes : message.content.Writes content) {maxMessageSize : ℕ}
    (small : maxMessageSize = 0 ∨ content.length ≤ maxMessageSize) {maxChunkSize : ℕ}
    (accepted : maxChunkSize = 0 ∨ ∃ size,
      bodySizeFromMessageSize message.messageType channel maxChunkSize = .ok size)
    (requestId : ℕ) (handle : SequenceNumberHandle) (out : List MessageChunk) :
    ∃ start : ChunkingStream C, start.Planned ∧ start.secureChannel = channel ∧
      start.sequenceNumber = handle ∧ start.requestId = requestId ∧
      start.messageType = message.messageType ∧
      start.messageSize = (typeId ++ content).length ∧
      (0 < maxChunkSize → start.headerSize + start.bodySize ≤ maxChunkSize) ∧
      encodeInto handle requestId maxMessageSize maxChunkSize channel message out =
        (.ok start.expectedChunkCount, out ++
          (range start.expectedChunkCount).map (start.chunk (typeId ++ content))) := by
  have length : message.content.byteLen + message.typeId.byteLen = (typeId ++ content).length := by
    rw [writes.byteLen, writesType.byteLen, length_append, Nat.add_comm]
  have fits : ¬ (0 < maxMessageSize ∧ maxMessageSize < message.content.byteLen) := by
    rw [writes.byteLen]
    omega
  obtain ⟨start, made, planned, fresh, upTo⟩ := new_planned accepted
    (message.content.byteLen + message.typeId.byteLen) requestId message.requestHandle handle out
  have exact : (typeId ++ content).length = start.messageSize := by
    rw [fresh, ← length]
  have begins : start.between (typeId ++ content) 0 0 0 = start := by
    have unclosed : (0 == start.expectedChunkCount) = false := beq_false_of_ne planned.some.ne
    rw [between, unclosed, range_zero, map_nil, append_nil]
    conv_rhs => rw [fresh]
    rw [fresh]
    rfl
  have sent : ChunkingStream.Sent start (typeId ++ content) start 0 := by
    have first : ChunkingStream.Sent start (typeId ++ content)
        (start.between (typeId ++ content) 0 0 0) (start.cut 0) := .between 0 0 0 (Nat.zero_le _)
    rwa [begins, start.cut_zero] at first
  obtain ⟨typed, sent⟩ := sent.run planned exact writesType.encodes rfl
  have last : (typeId ++ content).drop (0 + typeId.length) = content ++ [] := by
    rw [Nat.zero_add, drop_left, append_nil]
  obtain ⟨filled, sent⟩ := sent.run planned exact writes.encodes last
  rw [Nat.zero_add, ← length_append] at sent
  obtain ⟨target, written, flushed⟩ := sent.flush planned exact
  refine ⟨start, planned, ?_, ?_, ?_, ?_, exact.symm, upTo, ?_⟩
  · rw [fresh]
  · rw [fresh]
  · rw [fresh]
  · rw [fresh]
  · have out_eq : (start.between (typeId ++ content) start.expectedChunkCount target written).out =
        out ++ (range start.expectedChunkCount).map (start.chunk (typeId ++ content)) := by
      conv_rhs => rw [show out = start.out by rw [fresh]]
      rfl
    have finished : (start.between (typeId ++ content) start.expectedChunkCount target
        written).finish = .ok start.expectedChunkCount := if_pos (beq_self_eq_true _)
    have wrote : writeMessage start message (some requestId) (contextHandle message.requestHandle) =
        (.ok start.expectedChunkCount, start.between (typeId ++ content) start.expectedChunkCount
          target written) := by
      rw [writeMessage, ← Prod.mk.eta (p := start.run message.typeId.encode), typed]
      dsimp only
      rw [← Prod.mk.eta (p := run message.content.encode _), filled]
      dsimp only
      rw [flushed]
      dsimp only
      rw [finished]
    rw [encodeInto, if_neg known]
    rw [if_neg fits, made]
    dsimp only
    rw [wrote]
    exact Prod.ext rfl out_eq

def chunkCount (channel : SecureChannel C) (message : SupportedMessage) (maxChunkSize : ℕ) : ℕ :=
  match bodySizeFromMessageSize message.messageType channel maxChunkSize with
  | .ok size => max ((message.content.byteLen + message.typeId.byteLen + size - 1) / size) 1
  | .error _ => 1

variable {stream : ChunkingStream C} {message : SupportedMessage} {count : ℕ}

theorem writeMessage_numbered {start : ChunkingStream C}
    (numbered : ChunkingStream.Numbered start stream) {contextId handle : Option ℕ}
    {after : ChunkingStream C}
    (wrote : writeMessage stream message contextId handle = (.ok count, after)) :
    ChunkingStream.Numbered start after ∧ after.isClosed = true ∧ count = after.chunksEmitted := by
  have typed := numbered.run message.typeId.encode
  unfold writeMessage at wrote
  split at wrote
  · cases wrote
  rename_i first ran
  rw [ran] at typed
  have filled := typed.run message.content.encode
  split at wrote
  · cases wrote
  rename_i second ran
  rw [ran] at filled
  have flushed := filled.flush
  split at wrote
  · cases wrote
  rename_i third ran
  rw [ran] at flushed
  rw [finish] at wrote
  split_ifs at wrote with closed
  · cases wrote
    exact ⟨flushed, closed, rfl⟩
  · cases wrote

section

variable {handle : SequenceNumberHandle} {requestId maxMessageSize maxChunkSize count : ℕ}
  {channel : SecureChannel C} {message : SupportedMessage}

theorem encodeInto_limits {out chunks : List MessageChunk}
    (encoded : encodeInto handle requestId maxMessageSize maxChunkSize channel message out =
      (.ok count, chunks)) :
    channel.securityPolicy ≠ .unknown ∧
      (maxMessageSize = 0 ∨ message.content.byteLen ≤ maxMessageSize) ∧
      (maxChunkSize = 0 ∨ ∃ size,
        bodySizeFromMessageSize message.messageType channel maxChunkSize =
          .ok size) := by
  unfold encodeInto at encoded
  split at encoded
  · cases encoded
  rename_i known
  dsimp only at encoded
  split at encoded
  · cases encoded
  split at encoded
  · cases encoded
  rename_i start made
  obtain ⟨expected, size, -, planned⟩ := new_eq_ok made
  refine ⟨known, by omega, ?_⟩
  rcases planned with ⟨unlimited, -⟩ | ⟨sized, -⟩
  · exact inl unlimited
  · exact inr ⟨size, sized⟩

theorem encode_eq_ok {chunks : List MessageChunk}
    (encoded : encode handle requestId maxMessageSize maxChunkSize channel message = .ok chunks) :
    ∃ count, encodeInto handle requestId maxMessageSize maxChunkSize channel message [] =
      (.ok count, chunks) := by
  unfold encode at encoded
  split at encoded
  · cases encoded
  rename_i count out into
  cases encoded
  exact ⟨count, into⟩

theorem encodeInto_numbered {chunks : List MessageChunk}
    (encoded : encodeInto handle requestId maxMessageSize maxChunkSize channel message [] =
      (.ok count, chunks)) :
    chunks.length = count ∧ count = chunkCount channel message maxChunkSize ∧
      List.Forall₂ (ChunkingStream.CarriesNumber channel requestId message.messageType) chunks
        (handle.successive count) := by
  unfold encodeInto at encoded
  split at encoded
  · cases encoded
  dsimp only at encoded
  split at encoded
  · cases encoded
  split at encoded
  · cases encoded
  rename_i start made
  obtain ⟨expected, size, rfl, planned⟩ := new_eq_ok made
  obtain ⟨wrote, rfl⟩ := Prod.mk.inj encoded
  obtain ⟨numbered, closed, rfl⟩ := writeMessage_numbered
    (ChunkingStream.Numbered.fresh rfl rfl rfl rfl rfl) (Prod.ext wrote rfl)
  obtain ⟨chunks, out, length, numbers⟩ := numbered.out
  have put : _ = chunks := out
  rw [put]
  refine ⟨length, (numbered.closed closed).trans ?_, numbers⟩
  rcases planned with ⟨unlimited, one, -⟩ | ⟨sized, many⟩
  · rw [chunkCount, unlimited]
    exact one
  · rw [chunkCount, sized]
    exact many

end

def chunkInfoOf (stream : ChunkingStream C) (bytes : List UInt8) (index : ℕ) : ChunkInfo :=
  let securityHeader := stream.secureChannel.makeSecurityHeader stream.messageType
  let body := part bytes (stream.cut index) (stream.cut (index + 1))
  let headerSize := MESSAGE_CHUNK_HEADER_SIZE + securityHeader.byteLen +
    (SequenceHeader.mk 0 0).byteLen
  { messageHeader := ⟨stream.messageType, stream.finality index,
      (headerSize + body.length) % u32Size, stream.secureChannel.secureChannelId⟩
    securityHeader := securityHeader
    sequenceHeader := ⟨(stream.sequenceNumber.steps index).current % u32Size,
      stream.requestId % u32Size⟩
    bodyOffset := headerSize
    bodyLength := body.length }

theorem chunkInfo_chunk (reads : stream.secureChannel.ReadsHeader stream.messageType)
    (bytes : List UInt8) (index : ℕ) : (stream.chunk bytes index).chunkInfo stream.secureChannel =
      .ok (chunkInfoOf stream bytes index) := by
  have info := chunkInfo_append (reads_headers reads (stream.finality index)
    (MESSAGE_CHUNK_HEADER_SIZE +
      (stream.secureChannel.makeSecurityHeader stream.messageType).byteLen +
      (SequenceHeader.mk 0 0).byteLen +
      (part bytes (stream.cut index) (stream.cut (index + 1))).length)
    ⟨(stream.sequenceNumber.steps index).current, stream.requestId⟩)
    (part bytes (stream.cut index) (stream.cut (index + 1)))
  rw [length_encodeHeaders] at info
  exact info

theorem bodyData_chunk (stream : ChunkingStream C) (bytes : List UInt8) (index : ℕ) :
    (stream.chunk bytes index).bodyData (chunkInfoOf stream bytes index) =
      some (part bytes (stream.cut index) (stream.cut (index + 1))) := by
  refine bodyData_append ?_ rfl
  rw [length_encodeHeaders]
  rfl

theorem validateFrom_ok {channel : SecureChannel C} {requestId : ℕ} {chunks : List MessageChunk}
    (each : ∀ chunk ∈ chunks, ∃ info, chunk.chunkInfo channel = .ok info ∧
      info.messageHeader.secureChannelId = channel.secureChannelId ∧
      info.sequenceHeader.requestId = requestId) (index expected : ℕ)
    (same : index = 0 ∨ expected = requestId) :
    validateFrom channel index expected chunks = .ok () := by
  induction chunks generalizing index expected with
  | nil => rfl
  | cons chunk chunks ih =>
    obtain ⟨info, known, channelId, request⟩ := each chunk mem_cons_self
    have rest := ih fun chunk member => each chunk (mem_cons_of_mem _ member)
    have ours : ¬ (channel.secureChannelId ≠ 0 ∧
        info.messageHeader.secureChannelId ≠ channel.secureChannelId) :=
      fun other => other.2 channelId
    rw [validateFrom, known]
    show (if _ then _ else if _ then _ else if _ then _ else _) = _
    split_ifs with first other
    · exact rest (index + 1) _ (inr request)
    · exact absurd (request.trans (same.resolve_left first).symm) other
    · exact rest (index + 1) _ (inr (same.resolve_left first))

theorem length_chunk_le (planned : stream.Planned) {bytes : List UInt8}
    (exact : bytes.length = stream.messageSize) {index : ℕ}
    (before : index < stream.expectedChunkCount) :
    (stream.chunk bytes index).data.length ≤ stream.headerSize + stream.bodySize := by
  have bounded : stream.cut (index + 1) ≤ bytes.length := exact ▸ stream.cut_le (index + 1)
  have full : stream.cut (index + 1) ≤ stream.cut index + stream.bodySize := by
    rw [planned.cut_eq before, ← Nat.succ_mul]
    exact min_le_left _ _
  unfold chunk MessageChunk.new
  rw [length_append, length_encodeHeaders, length_part _ bounded, planned.headerSize]
  exact Nat.add_le_add_left (by omega) _

theorem finality_range (planned : stream.Planned) :
    (range stream.expectedChunkCount).map stream.finality =
      replicate (stream.expectedChunkCount - 1) .intermediate ++ [.final] := by
  have count : stream.expectedChunkCount = stream.expectedChunkCount - 1 + 1 :=
    (Nat.sub_add_cancel planned.some).symm
  have others : (range (stream.expectedChunkCount - 1)).map stream.finality =
      replicate (stream.expectedChunkCount - 1) .intermediate := by
    refine eq_replicate_iff.mpr ⟨by rw [length_map, length_range], ?_⟩
    intro isFinal member
    obtain ⟨index, below, rfl⟩ := mem_map.mp member
    exact if_neg (mem_range.mp below).ne
  conv_lhs => rw [count]
  rw [range_succ, map_append, others]
  exact congrArg (replicate _ _ ++ [·]) (if_pos rfl)

section

variable (planned : stream.Planned) (readable : stream.secureChannel.ReadsHeader stream.messageType)
include planned readable

theorem reads_chunks {bytes : List UInt8} (exact : bytes.length = stream.messageSize) :
    ∃ reader, ReceiveStream.new stream.secureChannel
        ((range stream.expectedChunkCount).map (stream.chunk bytes))
        stream.expectedChunkCount = .ok reader ∧ reader.Holds bytes := by
  have carried : ReceiveStream.Bodies stream.secureChannel stream.expectedChunkCount 0
      ((range' 0 stream.expectedChunkCount).map (stream.chunk bytes))
      ((range' 0 stream.expectedChunkCount).map fun index =>
        part bytes (stream.cut index) (stream.cut (index + 1))) :=
    ReceiveStream.bodies_range' fun index _ _ =>
      ⟨_, chunkInfo_chunk readable bytes index, rfl, bodyData_chunk stream bytes index⟩
  have whole := flatten_parts bytes stream.cut_zero stream.cut_monotone stream.expectedChunkCount
  rw [planned.cut_last, ← exact, take_length] at whole
  have later : ∀ index, 1 ≤ index → index < 1 + (stream.expectedChunkCount - 1) →
      part bytes (stream.cut index) (stream.cut (index + 1)) ≠ [] := by
    intro index above below none
    have several := planned.needed.resolve_left (by omega)
    have inside : index < stream.expectedChunkCount := by omega
    have grows := planned.cut_lt_succ inside (by omega)
    have length := length_part (stream.cut index) (exact ▸ stream.cut_le (index + 1))
    rw [none, length_nil] at length
    omega
  have count : stream.expectedChunkCount = stream.expectedChunkCount - 1 + 1 :=
    (Nat.sub_add_cancel planned.some).symm
  have size : ((range' 0 stream.expectedChunkCount).map (stream.chunk bytes)).length =
      stream.expectedChunkCount := by
    rw [length_map, length_range']
  have front : (range' 0 stream.expectedChunkCount).map
      (fun index => part bytes (stream.cut index) (stream.cut (index + 1))) =
        part bytes (stream.cut 0) (stream.cut 1) ::
          (range' 1 (stream.expectedChunkCount - 1)).map
            (fun index => part bytes (stream.cut index) (stream.cut (index + 1))) := by
    conv_lhs => rw [count]
    rfl
  rw [range_eq_range', front] at whole
  rw [front] at carried
  obtain ⟨reader, made, holds⟩ := ReceiveStream.new_holds carried size fun body member => by
    obtain ⟨index, inside, rfl⟩ := mem_map.mp member
    obtain ⟨above, below⟩ := mem_range'_1.mp inside
    exact later index above below
  refine ⟨reader, ?_, whole ▸ holds⟩
  rw [range_eq_range']
  exact made

theorem validateChunks_chunks (bytes : List UInt8) :
    validateChunks stream.secureChannel
      ((range stream.expectedChunkCount).map (stream.chunk bytes)) = .ok () := by
  have valid : validateFrom stream.secureChannel 0 0
      ((range stream.expectedChunkCount).map (stream.chunk bytes)) = .ok () := by
    have first : 0 = 0 ∨ 0 = stream.requestId % u32Size := inl rfl
    refine validateFrom_ok (fun chunk member => ?_) 0 0 first
    obtain ⟨index, -, rfl⟩ := mem_map.mp member
    exact ⟨_, chunkInfo_chunk readable bytes index, rfl, rfl⟩
  have count : stream.expectedChunkCount = stream.expectedChunkCount - 1 + 1 :=
    (Nat.sub_add_cancel planned.some).symm
  rw [count, range_succ_eq_map, map_cons] at valid ⊢
  rw [validateChunks, chunkInfo_chunk readable bytes 0]
  exact valid

end

/-! ### The round trip -/

/-- **The chunks are those of one message** that has these bytes: they fit, only the last is final,
they are of the request, they are numbered one after the other from the handle, they are valid, and
reads with any sizes return the bytes of the message and then nothing. -/
structure RoundTrip (channel : SecureChannel C) (handle : SequenceNumberHandle)
    (requestId maxChunkSize : ℕ) (bytes : List UInt8) (chunks : List MessageChunk)
    (infos : List ChunkInfo) : Prop where
  known : chunks.map (·.chunkInfo channel) = infos.map .ok
  sizes : 0 < maxChunkSize → ∀ chunk ∈ chunks, chunk.data.length ≤ maxChunkSize
  finals : infos.map (·.messageHeader.isFinal) =
    replicate (chunks.length - 1) .intermediate ++ [.final]
  requests : ∀ info ∈ infos, info.sequenceHeader.requestId = requestId
  numbers : infos.map (·.sequenceHeader.sequenceNumber) = handle.successive chunks.length
  valid : validateChunks channel chunks = .ok ()
  reads : ∃ stream, ReceiveStream.new channel chunks chunks.length = .ok stream ∧
    ∀ sizes, ∃ pieces, (stream.readMany sizes).1 = .ok pieces ∧ Deliveries bytes sizes pieces ∧
      (bytes.length ≤ sizes.countP (0 < ·) → pieces.flatten = bytes)

/-- **Chunking round trip.** Without security, the chunks of a message are those of its bytes; for
the message of a handshake the channel has to take strings of 47 bytes. -/
theorem chunks_round_trip {channel : SecureChannel C} (plain : channel.securityPolicy = .none)
    {message : SupportedMessage} (roomy : message.messageType = .openSecureChannel →
      47 ≤ channel.decodingOptions.maxStringLength)
    {typeId content : List UInt8} (writesType : message.typeId.Writes typeId)
    (writes : message.content.Writes content) {maxMessageSize : ℕ}
    (small : maxMessageSize = 0 ∨ content.length ≤ maxMessageSize) {maxChunkSize : ℕ}
    (accepted : maxChunkSize = 0 ∨ ∃ size,
      bodySizeFromMessageSize message.messageType channel maxChunkSize = .ok size)
    {requestId : ℕ} (request : requestId < u32Size) {handle : SequenceNumberHandle}
    (word : handle.current < u32Size) :
    ∃ chunks infos,
      encode handle requestId maxMessageSize maxChunkSize channel message = .ok chunks ∧
        RoundTrip channel handle requestId maxChunkSize (typeId ++ content) chunks infos := by
  have known : channel.securityPolicy ≠ .unknown := by
    rw [plain]
    decide
  obtain ⟨start, planned, rfl, rfl, rfl, messageType, exact, upTo, encoded⟩ :=
    encodeInto_chunks known writesType writes small accepted requestId handle []
  generalize typeId ++ content = bytes at exact encoded
  have reads : start.secureChannel.ReadsHeader start.messageType :=
    SecureChannel.readsHeader_none plain (messageType ▸ roomy)
  have info := chunkInfo_chunk reads bytes
  refine ⟨(range start.expectedChunkCount).map (start.chunk bytes),
    (range start.expectedChunkCount).map (chunkInfoOf start bytes), ?_, ?_⟩
  · rw [encode, encoded]
    rfl
  · have total : ((range start.expectedChunkCount).map (start.chunk bytes)).length =
        start.expectedChunkCount := by
      rw [length_map, length_range]
    constructor
    · rw [map_map, map_map]
      exact map_congr_left fun index _ => info index
    · intro limited chunk member
      obtain ⟨index, inside, rfl⟩ := mem_map.mp member
      have fits := length_chunk_le planned exact.symm (mem_range.mp inside)
      exact fits.trans (upTo limited)
    · rw [total, map_map]
      exact finality_range planned
    · intro info member
      obtain ⟨index, -, rfl⟩ := mem_map.mp member
      exact Nat.mod_eq_of_lt request
    · rw [total, map_map]
      refine map_congr_left fun index _ => ?_
      exact Nat.mod_eq_of_lt (SequenceNumberHandle.steps_lt word index)
    · exact validateChunks_chunks planned reads bytes
    · obtain ⟨reader, made, holds⟩ := reads_chunks planned reads exact.symm
      rw [total]
      refine ⟨reader, made, fun sizes => ?_⟩
      obtain ⟨pieces, read, deliveries⟩ := holds.readMany sizes
      exact ⟨pieces, read, deliveries, deliveries.flatten_eq⟩

/-- Crypto that a channel without security never uses. -/
def unusedCrypto : Crypto where
  AesDerivedKeys := Unit
  symmetricSign _ _ _ := .ok []
  symmetricVerifySignature _ _ _ _ := .ok ()
  symmetricEncrypt _ _ bytes _ := .ok bytes
  symmetricDecrypt _ _ bytes _ := .ok bytes
  publicKeySize _ := .ok 256
  thumbprint _ := replicate THUMBPRINT_SIZE 0

def plainChannel (maxStringLength : ℕ) : SecureChannel unusedCrypto where
  isClientRole := true
  securityPolicy := .none
  securityMode := .none
  secureChannelId := 1
  tokenId := 1
  cert := none
  privateKeySize := none
  remoteCert := none
  remoteKeys _ := none
  localKeys := none
  peerMaxResponseBodySize := none
  decodingOptions := ⟨0, maxStringLength, 65535⟩
  securityPolicyValid := true
  words := words_one

def plainMessage (messageType : MessageChunkType) (content : List UInt8) : SupportedMessage where
  messageType := messageType
  requestHandle := 1
  typeId := ⟨4, .writeAll [0x01, 0x00, 0xBE, 0x01] .done⟩
  content := ⟨content.length, .writeAll content .done⟩
  isServiceFault := false

theorem writes_plainMessage (messageType : MessageChunkType) (content : List UInt8) :
    (plainMessage messageType content).typeId.Writes [0x01, 0x00, 0xBE, 0x01] ∧
      (plainMessage messageType content).content.Writes content := by
  have all : ∀ bytes, (Encoder.writeAll bytes .done).Encodes bytes := by
    intro bytes
    have written : (Encoder.writeAll bytes .done).Encodes (bytes ++ []) := .writeAll .done
    rwa [append_nil] at written
  exact ⟨⟨rfl, all _⟩, ⟨rfl, all content⟩⟩

theorem chunkCount_plain (content : List UInt8) :
    chunkCount (plainChannel 65535) (plainMessage .message content) 8192 =
      max ((content.length + 4 + 8168 - 1) / 8168) 1 :=
  rfl

theorem chunks_round_trip_three :
    ∃ content chunks infos, content.length = 20000 ∧
      encode (.new true) 1 0 8192 (plainChannel 65535) (plainMessage .message content) =
          .ok chunks ∧
        chunks.length = 3 ∧
        RoundTrip (plainChannel 65535) (.new true) 1 8192 ([0x01, 0x00, 0xBE, 0x01] ++ content)
          chunks infos := by
  obtain ⟨content, long⟩ : ∃ content : List UInt8, content.length = 20000 :=
    ⟨replicate _ 7, length_replicate⟩
  obtain ⟨writesType, writes⟩ := writes_plainMessage .message content
  obtain ⟨chunks, infos, encoded, trip⟩ :=
    chunks_round_trip (rfl : (plainChannel 65535).securityPolicy = .none)
      (fun opens => by cases opens) writesType writes (inl rfl)
      (inr ⟨8168, (rfl : bodySizeFromMessageSize _ _ 8192 = _)⟩)
      (by decide : 1 < u32Size) (by decide : (SequenceNumberHandle.new true).current < u32Size)
  obtain ⟨count, into⟩ := encode_eq_ok encoded
  obtain ⟨length, total, -⟩ := encodeInto_numbered into
  rw [chunkCount_plain, long] at total
  exact ⟨content, chunks, infos, long, encoded, length.trans total, trip⟩

/-- Where strings may not have 47 bytes, the message of a handshake is not read back. -/
theorem handshake_not_read_back :
    ¬ ∀ (C : Crypto) (channel : SecureChannel C), channel.securityPolicy = .none →
      ∀ (message : SupportedMessage) (typeId content : List UInt8), message.typeId.Writes typeId →
        message.content.Writes content → ∀ maxChunkSize, (maxChunkSize = 0 ∨ ∃ size,
          bodySizeFromMessageSize message.messageType channel maxChunkSize =
            .ok size) → ∀ requestId < u32Size, ∀ handle : SequenceNumberHandle,
          handle.current < u32Size → ∃ chunks infos,
            encode handle requestId 0 maxChunkSize channel message = .ok chunks ∧
              RoundTrip channel handle requestId maxChunkSize (typeId ++ content) chunks infos := by
  intro always
  obtain ⟨writesType, writes⟩ := writes_plainMessage .openSecureChannel [1, 2, 3]
  obtain ⟨chunks, infos, encoded, trip⟩ := always unusedCrypto (plainChannel 46) rfl
    (plainMessage .openSecureChannel [1, 2, 3]) _ _ writesType writes 0 (inl rfl) 1 (by decide)
    (.new true) (by decide)
  have known : (plainChannel 46).securityPolicy ≠ .unknown := by decide
  have none : 0 = 0 ∨ [1, 2, 3].length ≤ 0 := inl rfl
  obtain ⟨start, planned, sameChannel, -, -, messageType, -, -, into⟩ :=
    encodeInto_chunks known writesType writes none (inl rfl) 1 (.new true) []
  rw [encode, into] at encoded
  have cut := Except.ok.inj encoded
  have first : start.chunk ([0x01, 0x00, 0xBE, 0x01] ++ [1, 2, 3]) 0 ∈ chunks := by
    rw [← cut]
    exact mem_map.mpr ⟨0, mem_range.mpr planned.some, rfl⟩
  have read : (start.chunk ([0x01, 0x00, 0xBE, 0x01] ++ [1, 2, 3]) 0).chunkInfo
      (plainChannel 46) ∈ infos.map .ok := trip.known ▸ mem_map_of_mem first
  obtain ⟨info, -, known⟩ := mem_map.mp read
  have short : (plainChannel 46).decodingOptions.maxStringLength < 47 := by decide
  obtain ⟨error, failed⟩ := chunkInfo_new_fails rfl short
    (start.sequenceNumber.steps 0).current start.requestId (start.finality 0)
    (part ([0x01, 0x00, 0xBE, 0x01] ++ [1, 2, 3]) (start.cut 0) (start.cut 1))
  have same : start.chunk ([0x01, 0x00, 0xBE, 0x01] ++ [1, 2, 3]) 0 =
      .new (start.sequenceNumber.steps 0).current start.requestId .openSecureChannel
        (start.finality 0) (plainChannel 46)
        (part ([0x01, 0x00, 0xBE, 0x01] ++ [1, 2, 3]) (start.cut 0) (start.cut 1)) := by
    rw [chunk, messageType, sameChannel]
    rfl
  rw [same, failed] at known
  cases known

end Chunker

end AsyncOpcua.Comms
