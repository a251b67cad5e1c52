/-
**The buffer of outgoing messages, and the sequence numbers of the chunks that wait in it.**

A message is cut into chunks with a copy of the handle that steps once for each chunk; the handle of
the connection then jumps by the number of chunks, as a `u32`.

* `SendBuffer.write` — encode a message and put its chunks in the queue;
* `sequence_numbers_in_step` — where no message has more chunks than there are legacy numbers, the
  chunks in the queue carry the numbers of single steps, and a receiver takes them all.
-/

import AsyncOpcua.Comms.Chunker

namespace AsyncOpcua.Comms

open Types Foundation List Chunker Or

inductive PendingPayload where
  | chunk (chunk : MessageChunk)
  | ack (ack : AcknowledgeMessage)
  | error (error : ErrorMessage)

/-- General implementation of a buffer of outgoing messages: the part that holds messages. -/
structure SendBuffer where
  chunkScratch : List MessageChunk
  chunks : List PendingPayload
  sequenceNumbers : SequenceNumberHandle
  maxMessageSize : ℕ
  maxChunkCount : ℕ
  sendBufferSize : ℕ

variable {C : Crypto}

namespace SendBuffer

def new (bufferSize maxMessageSize maxChunkCount : ℕ) (sequenceNumbersLegacy : Bool) :
    SendBuffer where
  chunkScratch := []
  chunks := []
  sequenceNumbers := .new sequenceNumbersLegacy
  maxMessageSize := maxMessageSize
  maxChunkCount := maxChunkCount
  sendBufferSize := bufferSize

def exceededLimit (message : SupportedMessage) (secureChannel : SecureChannel C) : Option ℕ :=
  if ¬ secureChannel.isClientRole ∧ ¬ message.isServiceFault then
    secureChannel.peerMaxResponseBodySize.filter (· < message.content.byteLen)
  else none

def write (buffer : SendBuffer) (requestId : ℕ) (message : SupportedMessage)
    (secureChannel : SecureChannel C) : Except Error ℕ × SendBuffer :=
  match exceededLimit message secureChannel with
  | some maxResponseBodySize =>
    (.error ((Error.new StatusCode.BadResponseTooLarge
      s!"Response body size {message.content.byteLen} exceeds client maxResponseMessageSize {maxResponseBodySize}").withContext
        (some requestId) (contextHandle message.requestHandle)), buffer)
  | none =>
    match encodeInto buffer.sequenceNumbers requestId buffer.maxMessageSize
      buffer.sendBufferSize secureChannel message [] with
    | (.error error, scratch) =>
      (.error (error.withContext (some requestId) (some message.requestHandle)),
        { buffer with chunkScratch := scratch })
    | (.ok chunkCount, scratch) =>
      if 0 < buffer.maxChunkCount ∧ buffer.maxChunkCount < chunkCount then
        (.error ((Error.new StatusCode.BadCommunicationError
          s!"Cannot write message since {chunkCount} chunks exceeds {buffer.maxChunkCount} chunk limit").withContext
            (some requestId) (some message.requestHandle)), { buffer with chunkScratch := [] })
      else
        -- the count is cast to a `u32`
        (.ok requestId, { buffer with
          sequenceNumbers := buffer.sequenceNumbers.increment (chunkCount % u32Size)
          chunks := buffer.chunks ++ scratch.map .chunk
          chunkScratch := [] })

end SendBuffer

structure Write (C : Crypto) where
  requestId : ℕ
  message : SupportedMessage
  channel : SecureChannel C

def writes (C : Crypto) : Machine SendBuffer (Write C) where
  step buffer write := some (buffer.write write.requestId write.message write.channel).2

namespace SendBuffer

structure WithinLimits (buffer : SendBuffer) (write : Write C) : Prop where
  policy : write.channel.securityPolicy ≠ .unknown
  response : exceededLimit write.message write.channel = none
  size : buffer.maxMessageSize = 0 ∨ write.message.content.byteLen ≤ buffer.maxMessageSize
  chunkSize : buffer.sendBufferSize = 0 ∨ ∃ size, MessageChunk.bodySizeFromMessageSize
    write.message.messageType write.channel buffer.sendBufferSize = .ok size
  chunkCount : buffer.maxChunkCount = 0 ∨
    chunkCount write.channel write.message buffer.sendBufferSize ≤ buffer.maxChunkCount

/-- **What a write does:** it fails and changes neither the queue nor the handle, or puts the chunks
of the message in the queue, numbered from the handle. -/
theorem write_spec (buffer : SendBuffer) (write : Write C) :
    (∃ error scratch, buffer.write write.requestId write.message write.channel =
      (.error error, { buffer with chunkScratch := scratch })) ∨
    ∃ chunks, buffer.WithinLimits write ∧
      chunks.length = chunkCount write.channel write.message buffer.sendBufferSize ∧
      List.Forall₂ (ChunkingStream.CarriesNumber write.channel write.requestId
        write.message.messageType) chunks (buffer.sequenceNumbers.successive chunks.length) ∧
      buffer.write write.requestId write.message write.channel =
        (.ok write.requestId, { buffer with
          sequenceNumbers := buffer.sequenceNumbers.increment (chunks.length % u32Size)
          chunks := buffer.chunks ++ chunks.map .chunk
          chunkScratch := [] }) := by
  unfold SendBuffer.write
  cases response : exceededLimit write.message write.channel with
  | some limit => exact inl ⟨_, buffer.chunkScratch, rfl⟩
  | none =>
    dsimp only
    split
    · exact inl ⟨_, _, rfl⟩
    rename_i count chunks encoded
    split_ifs with beyond
    · exact inl ⟨_, _, rfl⟩
    obtain ⟨length, counted, numbers⟩ := encodeInto_numbered encoded
    obtain ⟨policy, size, chunkSize⟩ := encodeInto_limits encoded
    subst length
    refine inr ⟨chunks, ⟨policy, response, size, chunkSize, ?_⟩, counted, numbers, rfl⟩
    omega

theorem write_succeeds {buffer : SendBuffer} {write : Write C} (limits : buffer.WithinLimits write)
    {typeId content : List UInt8} (writesType : write.message.typeId.Writes typeId)
    (writes : write.message.content.Writes content) :
    (buffer.write write.requestId write.message write.channel).1 = .ok write.requestId := by
  have small := limits.size
  rw [writes.byteLen] at small
  obtain ⟨start, -, -, -, -, -, -, -, encoded⟩ := encodeInto_chunks limits.policy writesType
    writes small limits.chunkSize write.requestId buffer.sequenceNumbers []
  have counted := (encodeInto_numbered encoded).2.1
  have few := limits.chunkCount
  have under : ¬ (0 < buffer.maxChunkCount ∧ buffer.maxChunkCount < start.expectedChunkCount) := by
    omega
  unfold SendBuffer.write
  rw [limits.response]
  rw [encoded]
  dsimp only
  rw [if_neg under]

end SendBuffer

def CarriesOne (messages : List (Write C)) (chunk : MessageChunk) (number : ℕ) : Prop :=
  ∃ write ∈ messages, ChunkingStream.CarriesNumber write.channel write.requestId
    write.message.messageType chunk number

open SequenceNumberHandle

theorem SendBuffer.run_numbered {buffer after : SendBuffer} {messages : List (Write C)}
    (range : buffer.sequenceNumbers.InRange)
    (few : buffer.sequenceNumbers.isLegacy = true → ∀ write ∈ messages,
      chunkCount write.channel write.message buffer.sendBufferSize ≤ legacyNumbers)
    (ran : (writes C).run buffer messages = some after) :
    ∃ chunks, after.chunks = buffer.chunks ++ chunks.map .chunk ∧
      List.Forall₂ (CarriesOne messages) chunks
        (buffer.sequenceNumbers.successive chunks.length) ∧
      after.sequenceNumbers = buffer.sequenceNumbers.steps chunks.length := by
  induction messages generalizing buffer with
  | nil =>
    cases Option.some.inj ran
    exact ⟨[], (append_nil _).symm, .nil, rfl⟩
  | cons write rest ih =>
    obtain ⟨next, stepped, ran⟩ := (writes C).run_cons_eq_some.mp ran
    have later : buffer.sequenceNumbers.isLegacy = true → ∀ write ∈ rest,
        chunkCount write.channel write.message buffer.sendBufferSize ≤ legacyNumbers :=
      fun legacy other member => few legacy other (mem_cons_of_mem _ member)
    have more : ∀ chunk number, CarriesOne rest chunk number →
        CarriesOne (write :: rest) chunk number :=
      fun chunk number ⟨other, member, carries⟩ => ⟨other, mem_cons_of_mem _ member, carries⟩
    cases Option.some.inj stepped
    obtain ⟨error, scratch, failed⟩ | ⟨first, limits, count, numbers, wrote⟩ :=
      buffer.write_spec write
    · rw [failed] at ran
      have same : ({ buffer with chunkScratch := scratch } : SendBuffer).sequenceNumbers.InRange :=
        range
      obtain ⟨chunks, queued, carries, steps⟩ := ih same later ran
      exact ⟨chunks, queued, carries.imp more, steps⟩
    · have once : buffer.sequenceNumbers.JumpsOnce first.length := by
        cases legacy : buffer.sequenceNumbers.isLegacy with
        | false => exact jumpsOnce_of_not_legacy legacy range _
        | true =>
          refine jumpsOnce_of_legacy legacy range ?_
          rw [count]
          exact few legacy write mem_cons_self
      have jumped := (increment_eq_steps_iff range first.length).mpr once
      rw [wrote, jumped] at ran
      have later' : (buffer.sequenceNumbers.steps first.length).isLegacy = true → ∀ write ∈ rest,
          chunkCount write.channel write.message buffer.sendBufferSize ≤ legacyNumbers := by
        rw [isLegacy_steps range]
        exact later
      obtain ⟨chunks, queued, carries, steps⟩ :=
        ih (inRange_steps range first.length) later' ran
      refine ⟨first ++ chunks, ?_, ?_, ?_⟩
      · rw [queued, map_append, append_assoc]
      · rw [length_append, successive_add]
        refine rel_append (numbers.imp fun chunk number carries => ?_) (carries.imp more)
        exact ⟨write, mem_cons_self, carries⟩
      · rw [steps, length_append, steps_add]

/-- **Sender and receiver stay in step.** Where no message has more chunks than there are legacy
numbers, the chunks in the queue carry the numbers of single steps, the handle of the connection is
where they lead, and a receiver takes them all. Writes that fail use up no number. -/
theorem sequence_numbers_in_step {bufferSize maxMessageSize maxChunkCount : ℕ} {isLegacy : Bool}
    {messages : List (Write C)} {after : SendBuffer}
    (few : isLegacy = true → ∀ write ∈ messages,
      chunkCount write.channel write.message bufferSize ≤ legacyNumbers)
    (ran : (writes C).run (.new bufferSize maxMessageSize maxChunkCount isLegacy) messages =
      some after) :
    (∃ chunks, after.chunks = chunks.map .chunk ∧
      List.Forall₂ (CarriesOne messages) chunks
        ((new isLegacy).successive chunks.length) ∧
      after.sequenceNumbers = (new isLegacy).steps chunks.length ∧
      (new isLegacy).Accepts
        ((new isLegacy).successive chunks.length)) ∧
    ∀ (buffer : SendBuffer) (write : Write C) (error : Error),
      (buffer.write write.requestId write.message write.channel).1 = .error error →
        (buffer.write write.requestId write.message write.channel).2.sequenceNumbers =
            buffer.sequenceNumbers ∧
          (buffer.write write.requestId write.message write.channel).2.chunks =
            buffer.chunks := by
  refine ⟨?_, fun buffer write error fails => ?_⟩
  · obtain ⟨chunks, queued, carries, steps⟩ :=
      SendBuffer.run_numbered (inRange_new isLegacy) few ran
    exact ⟨chunks, queued, carries, steps, accepts_successive _ _⟩
  · obtain ⟨error, scratch, failed⟩ | ⟨chunks, -, -, -, wrote⟩ := buffer.write_spec write
    · rw [failed]
      exact ⟨rfl, rfl⟩
    · rw [wrote] at fails
      cases fails

theorem plain_written (requestId : ℕ) (content : List UInt8) (queue : List PendingPayload)
    (handle : SequenceNumberHandle) :
    ∃ chunks, chunks.length = max ((content.length + 4 + 8168 - 1) / 8168) 1 ∧
      List.Forall₂ (ChunkingStream.CarriesNumber (plainChannel 65535) requestId .message)
        chunks (handle.successive chunks.length) ∧
      (SendBuffer.write ⟨[], queue, handle, 0, 0, 8192⟩ requestId
        (plainMessage .message content) (plainChannel 65535)).2 =
          ⟨[], queue ++ chunks.map .chunk, handle.increment (chunks.length % u32Size), 0, 0,
            8192⟩ := by
  have limits : SendBuffer.WithinLimits ⟨[], queue, handle, 0, 0, 8192⟩
      ⟨requestId, plainMessage .message content, plainChannel 65535⟩ := by
    refine ⟨fun unknown => ?_, rfl, inl rfl, inr ⟨8168, rfl⟩, inl rfl⟩
    cases unknown
  obtain ⟨writesType, writes⟩ := writes_plainMessage .message content
  have written := SendBuffer.write_succeeds limits writesType writes
  obtain ⟨error, scratch, failed⟩ | ⟨chunks, -, count, numbers, wrote⟩ :=
    SendBuffer.write_spec ⟨[], queue, handle, 0, 0, 8192⟩
      ⟨requestId, plainMessage .message content, plainChannel 65535⟩
  · rw [failed] at written
    cases written
  · exact ⟨chunks, count, numbers, congrArg Prod.snd wrote⟩

/-- A message of three chunks, and one of a single chunk. -/
def plainWrites : List (Write unusedCrypto) :=
  [⟨1, plainMessage .message (replicate 20000 0), plainChannel 65535⟩,
    ⟨2, plainMessage .message [1, 2, 3], plainChannel 65535⟩]

theorem sequence_numbers_in_step_plain :
    ∃ after chunks, (writes unusedCrypto).run (.new 8192 0 0 true) plainWrites = some after ∧
      after.chunks = chunks.map .chunk ∧
      List.Forall₂ (CarriesOne plainWrites) chunks [1, 2, 3, 4] ∧
      after.sequenceNumbers.current = 5 ∧ (new true).Accepts [1, 2, 3, 4] := by
  obtain ⟨three, count, -, wrote⟩ := plain_written 1 (replicate 20000 0) [] (.new true)
  obtain ⟨single, one, -, wrote'⟩ := plain_written 2 [1, 2, 3] (three.map .chunk)
    ((new true).increment (three.length % u32Size))
  rw [length_replicate] at count
  have ran : (writes unusedCrypto).run (.new 8192 0 0 true) plainWrites =
      some ⟨[], three.map .chunk ++ single.map .chunk,
        ((new true).increment (three.length % u32Size)).increment (single.length % u32Size), 0, 0,
        8192⟩ := by
    refine (writes _).run_cons_eq_some.mpr ⟨_, congrArg some wrote, ?_⟩
    exact (writes _).run_cons_eq_some.mpr ⟨_, congrArg some wrote', rfl⟩
  have few : true = true → ∀ write ∈ plainWrites,
      chunkCount write.channel write.message 8192 ≤ legacyNumbers := by
    rintro - write member
    rw [plainWrites, mem_pair] at member
    obtain rfl | rfl := member
    · rw [chunkCount_plain, length_replicate]
      decide
    · decide
  obtain ⟨⟨chunks, queued, carries, steps, accepts⟩, -⟩ := sequence_numbers_in_step few ran
  have four : chunks.length = 4 := by
    have lengths := congrArg length queued
    rw [length_append, length_map, length_map, length_map, count, one] at lengths
    exact lengths.symm
  rw [four] at carries steps accepts
  refine ⟨_, chunks, ran, queued, carries, ?_, accepts⟩
  rw [steps]
  rfl

theorem carriesNumber_unique {channel : SecureChannel C} {requestId other number second : ℕ}
    {chunk : MessageChunk}
    (first : ChunkingStream.CarriesNumber channel requestId .message chunk number)
    (again : ChunkingStream.CarriesNumber channel other .message chunk second) :
    number % u32Size = second % u32Size := by
  have symmetric : MessageChunkType.message ≠ .openSecureChannel := by decide
  have reads := channel.readsHeader_symmetric symmetric
  obtain ⟨isFinal, data, rfl⟩ := first
  obtain ⟨isFinal', data', same⟩ := again
  have info := MessageChunk.chunkInfo_append (reads_headers reads isFinal
    (MESSAGE_CHUNK_HEADER_SIZE + (channel.makeSecurityHeader .message).byteLen +
      (SequenceHeader.mk 0 0).byteLen + data.length) ⟨number, requestId⟩) data
  have info' := MessageChunk.chunkInfo_append (reads_headers reads isFinal'
    (MESSAGE_CHUNK_HEADER_SIZE + (channel.makeSecurityHeader .message).byteLen +
      (SequenceHeader.mk 0 0).byteLen + data'.length) ⟨second, other⟩) data'
  have equal := (congrArg (MessageChunk.chunkInfo channel) same).symm.trans info
  have infos := Except.ok.inj (info'.symm.trans equal)
  exact congrArg (fun info => info.sequenceHeader.sequenceNumber) infos.symm

/-- After a message of 4294967296 chunks the legacy handle of the connection has not moved, while
single steps would have led it to 1026: the chunk of the next message carries the number 1. -/
theorem numbers_fall_behind :
    ¬ ∀ (C : Crypto) (bufferSize maxMessageSize maxChunkCount : ℕ) (isLegacy : Bool)
      (messages : List (Write C)) (after : SendBuffer),
      (writes C).run (.new bufferSize maxMessageSize maxChunkCount isLegacy) messages =
          some after →
        ∃ chunks, after.chunks = chunks.map .chunk ∧ List.Forall₂ (CarriesOne messages) chunks
          ((new isLegacy).successive chunks.length) := by
  intro always
  obtain ⟨content, length⟩ : ∃ content : List UInt8, content.length = 8168 * 4294967296 - 4 :=
    ⟨replicate _ 0, length_replicate⟩
  obtain ⟨many, count, -, wrote⟩ := plain_written 1 content [] (.new true)
  obtain ⟨single, one, carried, wrote'⟩ :=
    plain_written 2 [1, 2, 3] (many.map .chunk) (.new true)
  have large : many.length = 4294967296 := by
    rw [count, length]
    decide
  have still : (new true).increment (many.length % u32Size) = .new true := by
    rw [large]
    decide
  rw [still] at wrote
  have ran : (writes unusedCrypto).run (.new 8192 0 0 true)
      [⟨1, plainMessage .message content, plainChannel 65535⟩,
        ⟨2, plainMessage .message [1, 2, 3], plainChannel 65535⟩] =
      some ⟨[], many.map .chunk ++ single.map .chunk,
        (new true).increment (single.length % u32Size), 0, 0, 8192⟩ := by
    refine (writes _).run_cons_eq_some.mpr ⟨_, congrArg some wrote, ?_⟩
    exact (writes _).run_cons_eq_some.mpr ⟨_, congrArg some wrote', rfl⟩
  obtain ⟨chunks, queued, carries⟩ := always _ _ _ _ _ _ _ ran
  have queue : (many ++ single).map PendingPayload.chunk = chunks.map .chunk := by
    rw [map_append]
    exact queued
  have injective : Function.Injective PendingPayload.chunk := fun _ _ same =>
    PendingPayload.chunk.inj same
  obtain rfl := map_injective_iff.mpr injective queue
  obtain ⟨chunk, rfl⟩ : ∃ chunk, single = [chunk] := length_eq_one_iff.mp one
  have last := forall₂_drop 4294967296 carries
  rw [← large, drop_left, length_append, successive_add,
    drop_left' (by rw [successive, length_map, length_range])]
    at last
  have later : ((new true).steps many.length).successive [chunk].length =
      [1026] := by
    rw [large, steps_eq (inRange_new true)]
    show successive _ 1 = [1026]
    decide
  rw [later] at last
  have first : (new true).successive [chunk].length = [1] := rfl
  rw [first] at carried
  obtain ⟨carries, -⟩ := forall₂_cons.mp carried
  obtain ⟨⟨write, member, carries'⟩, -⟩ := forall₂_cons.mp last
  -- Both messages are of the one type and on the one channel.
  have same : 1 % u32Size = 1026 % u32Size := by
    rcases mem_pair.mp member with rfl | rfl
    · exact carriesNumber_unique carries carries'
    · exact carriesNumber_unique carries carries'
  exact absurd same (by decide)

end AsyncOpcua.Comms
