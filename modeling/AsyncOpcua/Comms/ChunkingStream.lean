/-
**Cutting a message into chunks while it is written.**

* `ChunkingStream.run_sent`, `ChunkingStream.flush_sent` — however the bytes of a message arrive,
  its chunks are put out.
-/

import AsyncOpcua.Foundation.Cuts
import AsyncOpcua.Comms.SecureChannel
import AsyncOpcua.Comms.SequenceNumber
import Mathlib.Data.List.Forall2

namespace AsyncOpcua.Comms

open Types Foundation Bool MessageChunk Or

/-! ### Encoders -/

/-- **The writes that encode a value.** Each write is told how many of its bytes were taken. -/
inductive Encoder where
  | done
  | fail (error : Error)
  | write (bytes : List UInt8) (next : ℕ → Encoder)

open List

namespace Encoder

/-- The bytes that an encoder writes, however many a write takes of them; where there are some, a
write takes some. -/
inductive Encodes : Encoder → List UInt8 → Prop
  | done : Encodes .done []
  | write (bytes rest : List UInt8) (next : ℕ → Encoder) :
      (∀ count ≤ bytes.length, (bytes = [] ∨ 0 < count) →
        Encodes (next count) (bytes.drop count ++ rest)) →
      Encodes (.write bytes next) (bytes ++ rest)

def writeAll (bytes : List UInt8) (next : Encoder) : Encoder :=
  if bytes = [] then next
  else .write bytes fun count =>
    if count = 0 then .fail (.encoding "failed to write whole buffer")
    else writeAll (bytes.drop count) next
termination_by bytes.length
decreasing_by
  have some : 0 < bytes.length := length_pos_of_ne_nil ‹_›
  rw [length_drop]
  omega

theorem Encodes.writeAll {bytes : List UInt8} {next : Encoder} {rest : List UInt8}
    (after : next.Encodes rest) : (writeAll bytes next).Encodes (bytes ++ rest) := by
  induction size : bytes.length using Nat.strong_induction_on generalizing bytes with
  | _ length ih =>
    rw [Encoder.writeAll]
    split_ifs with empty
    · rwa [empty]
    · refine .write bytes rest _ fun count _ some => ?_
      have taken : 0 < count := some.resolve_left empty
      rw [if_neg taken.ne']
      have shorter : (bytes.drop count).length < length := by
        rw [length_drop]
        omega
      exact ih _ shorter rfl

end Encoder

/-- `BinaryEncodable`: the length that a value announces, and how it is encoded. -/
structure BinaryEncodable where
  byteLen : ℕ
  encode : Encoder

structure BinaryEncodable.Writes (value : BinaryEncodable) (bytes : List UInt8) : Prop where
  byteLen : value.byteLen = bytes.length
  encodes : value.encode.Encodes bytes

/-! ### The stream -/

structure ChunkingStream (C : Crypto) where
  secureChannel : SecureChannel C
  storage : List UInt8
  out : List MessageChunk
  expectedChunkCount : ℕ
  chunksEmitted : ℕ
  maxBodyPerChunk : ℕ
  headerSize : ℕ
  currentBodyTarget : ℕ
  bodyWritten : ℕ
  chunkStarted : Bool
  isClosed : Bool
  sequenceNumber : SequenceNumberHandle
  requestId : ℕ
  messageSize : ℕ
  messageType : MessageChunkType

variable {C : Crypto}

/-- The handle as part of an error: zero is none. -/
def contextHandle (requestHandle : ℕ) : Option ℕ :=
  if 0 < requestHandle then some requestHandle else none

namespace ChunkingStream

/-- `ChunkingStream::new`. The storage is cleared. -/
def new (messageType : MessageChunkType) (secureChannel : SecureChannel C)
    (maxChunkSize messageSize requestId requestHandle : ℕ) (sequenceNumber : SequenceNumberHandle)
    (out : List MessageChunk) : Except Error (ChunkingStream C) := do
  let (expectedChunkCount, maxBodyPerChunk) ←
    if 0 < maxChunkSize then
      match bodySizeFromMessageSize messageType secureChannel maxChunkSize with
      | .error error => .error (error.withContext (some requestId) (contextHandle requestHandle))
      | .ok maxBodyPerChunk =>
        .ok (max ((messageSize + maxBodyPerChunk - 1) / maxBodyPerChunk) 1, maxBodyPerChunk)
    else .ok (1, 0)
  let headerSize := MESSAGE_CHUNK_HEADER_SIZE +
    (secureChannel.makeSecurityHeader messageType).byteLen + (SequenceHeader.mk 0 0).byteLen
  return { secureChannel, storage := [], out, expectedChunkCount, chunksEmitted := 0,
           maxBodyPerChunk, headerSize, currentBodyTarget := 0, bodyWritten := 0,
           chunkStarted := false, isClosed := false, sequenceNumber, requestId, messageSize,
           messageType }

variable (stream : ChunkingStream C)

/-- The headers of the next chunk are written: the size of its body is known up front. -/
def startChunk : ChunkingStream C :=
  let isLast := stream.chunksEmitted = stream.expectedChunkCount - 1
  let currentBodyTarget :=
    if stream.maxBodyPerChunk = 0 then stream.messageSize
    else if isLast then stream.messageSize - stream.chunksEmitted * stream.maxBodyPerChunk
    else stream.maxBodyPerChunk
  let isFinal : MessageIsFinalType := if isLast then .final else .intermediate
  let chunkHeader : MessageChunkHeader :=
    ⟨stream.messageType, isFinal, stream.headerSize + currentBodyTarget,
      stream.secureChannel.secureChannelId⟩
  let securityHeader := stream.secureChannel.makeSecurityHeader stream.messageType
  let sequenceHeader : SequenceHeader := ⟨stream.sequenceNumber.current, stream.requestId⟩
  { stream with
    currentBodyTarget := currentBodyTarget
    sequenceNumber := stream.sequenceNumber.increment 1
    storage := stream.storage ++ encodeHeaders chunkHeader securityHeader sequenceHeader
    bodyWritten := 0
    chunkStarted := true }

def emitChunk : ChunkingStream C :=
  let chunkLen := stream.headerSize + stream.currentBodyTarget
  let chunksEmitted := stream.chunksEmitted + 1
  { stream with
    storage := stream.storage.drop chunkLen
    out := stream.out ++ [⟨stream.storage.take chunkLen⟩]
    chunksEmitted := chunksEmitted
    chunkStarted := false
    isClosed := stream.isClosed || chunksEmitted == stream.expectedChunkCount }

def ensureStarted : ChunkingStream C :=
  if stream.chunkStarted then stream else stream.startChunk

/-- Bytes are put in the chunk that is started, and it is put out when it is full. -/
def fill (data : List UInt8) : ChunkingStream C :=
  let filled := { stream with
    storage := stream.storage ++ data
    bodyWritten := stream.bodyWritten + data.length }
  if filled.bodyWritten = filled.currentBodyTarget then filled.emitChunk else filled

/-- `write`: how many bytes were taken. Writing to the storage does not fail. -/
def write (buf : List UInt8) : ℕ × ChunkingStream C :=
  if stream.isClosed then (0, stream)
  else
    let started := stream.ensureStarted
    let toRead := min buf.length (started.currentBodyTarget - started.bodyWritten)
    (toRead, started.fill (buf.take toRead))

/-- `flush`. The error goes through an io error, and comes back as one of decoding. -/
def flush : Except Error Unit × ChunkingStream C :=
  if stream.isClosed then (.ok (), stream)
  else
    let started := stream.ensureStarted
    if started.bodyWritten < started.currentBodyTarget then
      (.error (.decoding "StatusCode BadEncodingError"), started)
    else (.ok (), started.emitChunk)

def finish : Except Error ℕ :=
  if stream.isClosed then .ok stream.chunksEmitted
  else .error (.encoding "Message did not encode to the expected size")

def run : Encoder → ChunkingStream C → Except Error Unit × ChunkingStream C
  | .done, stream => (.ok (), stream)
  | .fail error, stream => (.error error, stream)
  | .write bytes next, stream => run (next (stream.write bytes).1) (stream.write bytes).2

/-! ### The chunks of a message -/

/-- How many bytes of the message a chunk takes while enough are left. -/
def bodySize : ℕ :=
  if stream.maxBodyPerChunk = 0 then stream.messageSize else stream.maxBodyPerChunk

/-- How many bytes of the message come before the chunk with some index. -/
def cut (index : ℕ) : ℕ :=
  min (index * stream.bodySize) stream.messageSize

def finality (index : ℕ) : MessageIsFinalType :=
  if index = stream.expectedChunkCount - 1 then .final else .intermediate

def chunk (bytes : List UInt8) (index : ℕ) : MessageChunk :=
  .new (stream.sequenceNumber.steps index).current stream.requestId stream.messageType
    (stream.finality index)
    stream.secureChannel (part bytes (stream.cut index) (stream.cut (index + 1)))

structure Planned (stream : ChunkingStream C) : Prop where
  some : 0 < stream.expectedChunkCount
  single : stream.maxBodyPerChunk = 0 → stream.expectedChunkCount = 1
  needed : stream.expectedChunkCount = 1 ∨
    (stream.expectedChunkCount - 1) * stream.bodySize < stream.messageSize
  enough : stream.messageSize ≤ stream.expectedChunkCount * stream.bodySize
  headerSize : stream.headerSize = MESSAGE_CHUNK_HEADER_SIZE +
    (stream.secureChannel.makeSecurityHeader stream.messageType).byteLen +
    (SequenceHeader.mk 0 0).byteLen

theorem cut_zero : stream.cut 0 = 0 := by
  rw [cut, Nat.zero_mul, Nat.zero_min]

theorem cut_monotone : Monotone stream.cut := by
  intro first last before
  exact min_le_min_right _ (Nat.mul_le_mul_right _ before)

theorem cut_le (index : ℕ) : stream.cut index ≤ stream.messageSize :=
  min_le_right _ _

namespace Planned

variable {stream : ChunkingStream C} (planned : stream.Planned)
include planned

theorem cut_last : stream.cut stream.expectedChunkCount = stream.messageSize :=
  min_eq_right planned.enough

variable {index : ℕ}

section

variable (before : index < stream.expectedChunkCount)
include before

theorem cut_eq : stream.cut index = index * stream.bodySize := by
  refine min_eq_left ?_
  have steps : index * stream.bodySize ≤ (stream.expectedChunkCount - 1) * stream.bodySize :=
    Nat.mul_le_mul_right _ (by omega)
  rcases planned.needed with one | short
  · have first : index = 0 := by omega
    rw [first, Nat.zero_mul]
    exact Nat.zero_le _
  · omega

theorem cut_lt (some : 0 < stream.messageSize) : stream.cut index < stream.messageSize := by
  rw [planned.cut_eq before]
  rcases planned.needed with one | short
  · have first : index = 0 := by omega
    rwa [first, Nat.zero_mul]
  · have steps : index * stream.bodySize ≤ (stream.expectedChunkCount - 1) * stream.bodySize :=
      Nat.mul_le_mul_right _ (by omega)
    omega

theorem cut_lt_succ (some : 0 < stream.messageSize) :
    stream.cut index < stream.cut (index + 1) := by
  have inside := planned.cut_lt before some
  have size : 0 < stream.bodySize := by
    refine Nat.pos_of_ne_zero fun zero => ?_
    have enough := planned.enough
    rw [zero, Nat.mul_zero] at enough
    omega
  refine lt_min ?_ inside
  rw [planned.cut_eq before, Nat.succ_mul]
  exact Nat.lt_add_of_pos_right size

theorem target_eq :
    (if stream.maxBodyPerChunk = 0 then stream.messageSize
      else if index = stream.expectedChunkCount - 1 then
        stream.messageSize - index * stream.maxBodyPerChunk
      else stream.maxBodyPerChunk) = stream.cut (index + 1) - stream.cut index := by
  have here := planned.cut_eq before
  by_cases whole : stream.maxBodyPerChunk = 0
  · have one := planned.single whole
    have first : index = 0 := by omega
    have last := planned.cut_last
    rw [one] at last
    rw [if_pos whole, first, last, cut_zero, Nat.sub_zero]
  · have size : stream.bodySize = stream.maxBodyPerChunk := if_neg whole
    rw [if_neg whole, here]
    split_ifs with last
    · have after : index + 1 = stream.expectedChunkCount := by omega
      rw [after, planned.cut_last, size]
    · have inside : index + 1 < stream.expectedChunkCount := by omega
      have next := planned.cut_eq inside
      rw [next, Nat.succ_mul, Nat.add_sub_cancel_left, size]

end

end Planned

section

variable {messageType : MessageChunkType} {secureChannel : SecureChannel C}

theorem new_eq_ok
    {maxChunkSize messageSize requestId requestHandle : ℕ} {sequenceNumber : SequenceNumberHandle}
    {out : List MessageChunk} {start : ChunkingStream C}
    (made : new messageType secureChannel maxChunkSize messageSize requestId requestHandle
      sequenceNumber out = .ok start) :
    ∃ expectedChunkCount maxBodyPerChunk,
      start = {
        secureChannel, storage := [], out, expectedChunkCount, chunksEmitted := 0, maxBodyPerChunk
        headerSize := MESSAGE_CHUNK_HEADER_SIZE +
          (secureChannel.makeSecurityHeader messageType).byteLen + (SequenceHeader.mk 0 0).byteLen
        currentBodyTarget := 0, bodyWritten := 0, chunkStarted := false, isClosed := false
        sequenceNumber, requestId, messageSize, messageType } ∧
      (maxChunkSize = 0 ∧ expectedChunkCount = 1 ∧ maxBodyPerChunk = 0 ∨
        bodySizeFromMessageSize messageType secureChannel maxChunkSize =
            .ok maxBodyPerChunk ∧
          expectedChunkCount = max ((messageSize + maxBodyPerChunk - 1) / maxBodyPerChunk) 1) := by
  unfold new at made
  split_ifs at made with limited
  · cases sized : bodySizeFromMessageSize messageType secureChannel maxChunkSize with
    | error error =>
      rw [sized] at made
      cases made
    | ok size =>
      rw [sized] at made
      exact ⟨_, _, (Except.ok.inj made).symm, inr ⟨rfl, rfl⟩⟩
  · exact ⟨_, _, (Except.ok.inj made).symm, inl ⟨by omega, rfl, rfl⟩⟩

theorem new_planned {maxChunkSize : ℕ} (accepted : maxChunkSize = 0 ∨ ∃ size,
      bodySizeFromMessageSize messageType secureChannel maxChunkSize = .ok size)
    (messageSize requestId requestHandle : ℕ) (sequenceNumber : SequenceNumberHandle)
    (out : List MessageChunk) : ∃ start : ChunkingStream C,
      new messageType secureChannel maxChunkSize messageSize requestId requestHandle sequenceNumber
        out = .ok start ∧ start.Planned ∧
      start = { start with
        secureChannel := secureChannel, storage := [], out := out, chunksEmitted := 0
        currentBodyTarget := 0, bodyWritten := 0, chunkStarted := false, isClosed := false
        sequenceNumber := sequenceNumber, requestId := requestId, messageSize := messageSize
        messageType := messageType } ∧
      (0 < maxChunkSize → start.headerSize + start.bodySize ≤ maxChunkSize) := by
  rcases accepted with rfl | ⟨size, sized⟩
  · refine ⟨_, rfl, ?_, rfl, fun none => absurd none (lt_irrefl 0)⟩
    exact ⟨Nat.one_pos, fun _ => rfl, inl rfl, (Nat.one_mul _).ge, rfl⟩
  · obtain ⟨padding, -, some, fits⟩ := bodySizeFromMessageSize_spec sized
    have upTo : MESSAGE_CHUNK_HEADER_SIZE +
        (secureChannel.makeSecurityHeader messageType).byteLen + (SequenceHeader.mk 0 0).byteLen +
          size ≤ maxChunkSize := by
      split_ifs at fits <;> omega
    have positive : 0 < maxChunkSize := by omega
    have made : new messageType secureChannel maxChunkSize messageSize requestId requestHandle
        sequenceNumber out = .ok {
          secureChannel, storage := [], out
          expectedChunkCount := max ((messageSize + size - 1) / size) 1
          chunksEmitted := 0, maxBodyPerChunk := size
          headerSize := MESSAGE_CHUNK_HEADER_SIZE +
            (secureChannel.makeSecurityHeader messageType).byteLen + (SequenceHeader.mk 0 0).byteLen
          currentBodyTarget := 0, bodyWritten := 0, chunkStarted := false, isClosed := false
          sequenceNumber, requestId, messageSize, messageType } := by
      simp [new, if_pos positive, sized, bind, Except.bind, pure, Except.pure]
    have full : ∀ stream : ChunkingStream C, stream.maxBodyPerChunk = size →
        stream.bodySize = size := by
      intro stream same
      rw [bodySize, same, if_neg some.ne']
    refine ⟨_, made, ⟨?_, fun zero => absurd zero some.ne', ?_, ?_, rfl⟩, rfl, fun _ => ?_⟩
    · exact lt_of_lt_of_le Nat.one_pos (le_max_right _ _)
    · rw [full _ rfl]
      dsimp only
      rcases Nat.lt_or_ge 1 ((messageSize + size - 1) / size) with several | one
      · refine inr ?_
        rw [max_eq_left several.le]
        have quotient := Nat.div_mul_le_self (messageSize + size - 1) size
        have twice := Nat.mul_le_mul_right size several
        rw [Nat.sub_mul]
        omega
      · exact inl (max_eq_right one)
    · rw [full _ rfl]
      have above := Nat.lt_div_mul_add some (a := messageSize + size - 1)
      have most := Nat.mul_le_mul_right size (le_max_left ((messageSize + size - 1) / size) 1)
      dsimp only
      omega
    · rw [full _ rfl]
      exact upTo

end

/-! ### How far the stream is -/

def between (start : ChunkingStream C) (bytes : List UInt8) (index target written : ℕ) :
    ChunkingStream C :=
  { start with
    storage := []
    out := start.out ++ (range index).map (start.chunk bytes)
    chunksEmitted := index
    currentBodyTarget := target
    bodyWritten := written
    chunkStarted := false
    isClosed := index == start.expectedChunkCount
    sequenceNumber := start.sequenceNumber.steps index }

def within (start : ChunkingStream C) (bytes : List UInt8) (index count : ℕ) : ChunkingStream C :=
  { start with
    storage := encodeHeaders ⟨start.messageType, start.finality index,
        start.headerSize + (start.cut (index + 1) - start.cut index),
        start.secureChannel.secureChannelId⟩
      (start.secureChannel.makeSecurityHeader start.messageType)
      ⟨(start.sequenceNumber.steps index).current, start.requestId⟩ ++
        part bytes (start.cut index) count
    out := start.out ++ (range index).map (start.chunk bytes)
    chunksEmitted := index
    currentBodyTarget := start.cut (index + 1) - start.cut index
    bodyWritten := count - start.cut index
    chunkStarted := true
    isClosed := false
    sequenceNumber := start.sequenceNumber.steps (index + 1) }

/-- **The stream has taken so many bytes of the message,** and put out the chunks that they fill. -/
inductive Sent (start : ChunkingStream C) (bytes : List UInt8) : ChunkingStream C → ℕ → Prop
  | between (index target written : ℕ) : index ≤ start.expectedChunkCount →
      Sent start bytes (start.between bytes index target written) (start.cut index)
  | within (index count : ℕ) : index < start.expectedChunkCount → start.cut index ≤ count →
      count < start.cut (index + 1) → Sent start bytes (start.within bytes index count) count

section Sending

variable {start : ChunkingStream C} {bytes : List UInt8}

variable {index : ℕ}

theorem startChunk_between (planned : start.Planned) (before : index < start.expectedChunkCount)
    (target written : ℕ) :
    (start.between bytes index target written).startChunk =
      start.within bytes index (start.cut index) := by
  have closed : (index == start.expectedChunkCount) = false := beq_false_of_ne before.ne
  unfold startChunk between within
  dsimp only
  rw [planned.target_eq before, part_self, append_nil, nil_append, Nat.sub_self, closed]
  congr 1
  exact (start.sequenceNumber.steps_succ index).symm

theorem emitChunk_within (planned : start.Planned) (exact : bytes.length = start.messageSize)
    (index : ℕ) : (start.within bytes index (start.cut (index + 1))).emitChunk =
      start.between bytes (index + 1) (start.cut (index + 1) - start.cut index)
        (start.cut (index + 1) - start.cut index) := by
  have bounded : start.cut (index + 1) ≤ bytes.length := exact ▸ start.cut_le (index + 1)
  have size := length_part (start.cut index) bounded
  have data : (encodeHeaders ⟨start.messageType, start.finality index,
        start.headerSize + (start.cut (index + 1) - start.cut index),
        start.secureChannel.secureChannelId⟩
      (start.secureChannel.makeSecurityHeader start.messageType)
      ⟨(start.sequenceNumber.steps index).current, start.requestId⟩ ++
        part bytes (start.cut index) (start.cut (index + 1))) = (start.chunk bytes index).data := by
    unfold chunk MessageChunk.new
    rw [size, planned.headerSize]
    rfl
  have length : (start.chunk bytes index).data.length =
      start.headerSize + (start.cut (index + 1) - start.cut index) := by
    rw [← data, length_append, length_encodeHeaders, size, planned.headerSize]
    rfl
  unfold emitChunk between within
  dsimp only
  rw [data, ← length, take_length, drop_length, range_succ, map_append,
    append_assoc]
  rfl

variable {count : ℕ}

theorem fill_within (planned : start.Planned) (exact : bytes.length = start.messageSize)
    (before : index < start.expectedChunkCount) (above : start.cut index ≤ count)
    {data : List UInt8} (fits : count + data.length ≤ start.cut (index + 1))
    (next : data = part bytes count (count + data.length)) :
    Sent start bytes ((start.within bytes index count).fill data) (count + data.length) := by
  have written : count - start.cut index + data.length = count + data.length - start.cut index := by
    omega
  have grown : { start.within bytes index count with
      storage := (start.within bytes index count).storage ++ data
      bodyWritten := (start.within bytes index count).bodyWritten + data.length } =
      start.within bytes index (count + data.length) := by
    unfold within
    rw [written, append_assoc]
    rw [← part_append_part bytes above (Nat.le_add_right count data.length), ← next]
  unfold fill
  rw [grown]
  by_cases full : count + data.length = start.cut (index + 1)
  · dsimp only
    rw [full]
    refine (if_pos rfl).symm ▸ ?_
    rw [emitChunk_within planned exact]
    exact .between _ _ _ before
  · have short : (start.within bytes index (count + data.length)).bodyWritten ≠
        (start.within bytes index (count + data.length)).currentBodyTarget := by
      show count + data.length - start.cut index ≠ start.cut (index + 1) - start.cut index
      omega
    rw [if_neg short]
    exact .within _ _ before (by omega) (by omega)

variable {stream : ChunkingStream C} {rest : List UInt8}

section

variable (planned : start.Planned) (exact : bytes.length = start.messageSize)
include planned exact

theorem write_started (isOpen : stream.isClosed = false)
    (started : stream.ensureStarted = start.within bytes index count)
    (before : index < start.expectedChunkCount) (above : start.cut index ≤ count)
    (upTo : count ≤ start.cut (index + 1)) {buf : List UInt8}
    (next : bytes.drop count = buf ++ rest) (room : buf = [] ∨ count < start.cut (index + 1)) :
    (stream.write buf).1 ≤ buf.length ∧ (buf = [] ∨ 0 < (stream.write buf).1) ∧
      Sent start bytes (stream.write buf).2 (count + (stream.write buf).1) := by
  have space : (start.within bytes index count).currentBodyTarget -
      (start.within bytes index count).bodyWritten = start.cut (index + 1) - count := by
    show start.cut (index + 1) - start.cut index - (count - start.cut index) = _
    omega
  have size : (buf.take (min buf.length (start.cut (index + 1) - count))).length =
      min buf.length (start.cut (index + 1) - count) := by
    rw [length_take]
    omega
  have fits : count + (buf.take (min buf.length (start.cut (index + 1) - count))).length ≤
      start.cut (index + 1) := by omega
  have taken := fill_within planned exact before above fits
  rw [size] at taken
  rw [ChunkingStream.write, if_neg (by rw [isOpen]; exact false_ne_true)]
  dsimp only
  rw [started, space]
  refine ⟨min_le_left _ _, ?_, taken ?_⟩
  · rcases room with empty | room
    · exact inl empty
    · rcases buf.eq_nil_or_concat with empty | ⟨_, _, some⟩
      · exact inl empty
      · refine inr (lt_min ?_ (by omega))
        rw [some, concat_eq_append, length_append]
        exact Nat.succ_pos _
  · rw [part, next, Nat.add_sub_cancel_left, take_append_of_le_length (by omega)]

/-- **A write** takes bytes of the message, and some where there are some. -/
theorem Sent.write (sent : Sent start bytes stream count) {buf : List UInt8}
    (next : bytes.drop count = buf ++ rest) :
    (stream.write buf).1 ≤ buf.length ∧ (buf = [] ∨ 0 < (stream.write buf).1) ∧
      Sent start bytes (stream.write buf).2 (count + (stream.write buf).1) := by
  have size := congrArg length next
  rw [length_drop, length_append, exact] at size
  cases sent with
  | between index target written bounded =>
    by_cases beyond : index = start.expectedChunkCount
    · have closed : (start.between bytes index target written).isClosed = true :=
        beq_iff_eq.mpr beyond
      have empty : buf = [] := by
        rw [beyond, planned.cut_last] at size
        exact eq_nil_of_length_eq_zero (by omega)
      rw [ChunkingStream.write, if_pos closed]
      exact ⟨Nat.zero_le _, inl empty, .between _ _ _ bounded⟩
    · have before : index < start.expectedChunkCount := by omega
      have started : (start.between bytes index target written).ensureStarted =
          start.within bytes index (start.cut index) := startChunk_between planned before _ _
      refine write_started planned exact (beq_false_of_ne beyond) started before (le_refl _)
        (start.cut_monotone (Nat.le_succ index)) next ?_
      by_cases empty : start.messageSize = 0
      · exact inl (eq_nil_of_length_eq_zero (by omega))
      · exact inr (planned.cut_lt_succ before (Nat.pos_of_ne_zero empty))
  | within index count before above below =>
    exact write_started planned exact rfl rfl before above below.le next (inr below)

/-- **An encoder writes its bytes,** in whatever pieces. -/
theorem Sent.run {encoder : Encoder} {written : List UInt8} (encodes : encoder.Encodes written)
    (sent : Sent start bytes stream count) (next : bytes.drop count = written ++ rest) :
    (ChunkingStream.run encoder stream).1 = .ok () ∧
      Sent start bytes (ChunkingStream.run encoder stream).2 (count + written.length) := by
  induction encodes generalizing stream count with
  | done => exact ⟨rfl, sent⟩
  | write buf after encoder _ ih =>
    rw [append_assoc] at next
    obtain ⟨within, some, sent'⟩ := sent.write planned exact next
    have dropped : bytes.drop (count + (stream.write buf).1) =
        buf.drop (stream.write buf).1 ++ after ++ rest := by
      rw [← drop_drop, next, drop_append_of_le_length within, append_assoc]
    have goes := ih _ within some sent' dropped
    have total : count + (stream.write buf).1 + (buf.drop (stream.write buf).1 ++ after).length =
        count + (buf ++ after).length := by
      rw [length_append, length_append, length_drop]
      omega
    rw [total] at goes
    exact goes

theorem Sent.flush (sent : Sent start bytes stream bytes.length) :
    ∃ target written, stream.flush =
      (.ok (), start.between bytes start.expectedChunkCount target written) := by
  generalize length : bytes.length = count at sent
  cases sent with
  | between index target written bounded =>
    by_cases beyond : index = start.expectedChunkCount
    · have closed : (start.between bytes index target written).isClosed = true :=
        beq_iff_eq.mpr beyond
      rw [ChunkingStream.flush, if_pos closed, beyond]
      exact ⟨target, written, rfl⟩
    · have before : index < start.expectedChunkCount := by omega
      have closed : ¬ (start.between bytes index target written).isClosed = true :=
        fun closed => beyond (beq_iff_eq.mp closed)
      have started : (start.between bytes index target written).ensureStarted =
          start.within bytes index (start.cut index) := startChunk_between planned before _ _
      -- only the one chunk of an empty message is started here
      have empty : start.messageSize = 0 := by
        refine Nat.eq_zero_of_not_pos fun some => ?_
        have := planned.cut_lt before some
        omega
      have single : start.cut (index + 1) = start.cut index := by
        have := start.cut_le (index + 1)
        omega
      have last : index + 1 = start.expectedChunkCount := by
        rcases planned.needed with one | short <;> omega
      have full : ¬ (start.within bytes index (start.cut index)).bodyWritten <
          (start.within bytes index (start.cut index)).currentBodyTarget := by
        show ¬ start.cut index - start.cut index < start.cut (index + 1) - start.cut index
        omega
      rw [ChunkingStream.flush, if_neg closed]
      rw [started, if_neg full, ← single, emitChunk_within planned exact, last]
      exact ⟨_, _, rfl⟩
  | within index count before above below =>
    have := start.cut_le (index + 1)
    omega

end

end Sending

/-! ### The numbers of the chunks, whatever is written -/

def CarriesNumber (channel : SecureChannel C) (requestId : ℕ) (messageType : MessageChunkType)
    (chunk : MessageChunk) (number : ℕ) : Prop :=
  ∃ isFinal data, chunk = .new number requestId messageType isFinal channel data

/-- **The chunks put out carry the numbers of single steps,** and so does the one that is started.
-/
structure Numbered (start stream : ChunkingStream C) : Prop where
  channel : stream.secureChannel = start.secureChannel
  request : stream.requestId = start.requestId
  type : stream.messageType = start.messageType
  headerSize : stream.headerSize = MESSAGE_CHUNK_HEADER_SIZE +
    (start.secureChannel.makeSecurityHeader start.messageType).byteLen +
    (SequenceHeader.mk 0 0).byteLen
  count : stream.expectedChunkCount = start.expectedChunkCount
  closed : stream.isClosed = true → stream.chunksEmitted = start.expectedChunkCount
  out : ∃ chunks, stream.out = start.out ++ chunks ∧ chunks.length = stream.chunksEmitted ∧
    List.Forall₂ (CarriesNumber start.secureChannel start.requestId start.messageType) chunks
      (start.sequenceNumber.successive stream.chunksEmitted)
  idle : stream.chunkStarted = false → stream.storage = [] ∧
    stream.sequenceNumber = start.sequenceNumber.steps stream.chunksEmitted
  busy : stream.chunkStarted = true → stream.bodyWritten ≤ stream.currentBodyTarget ∧
    stream.sequenceNumber = start.sequenceNumber.steps (stream.chunksEmitted + 1) ∧
    ∃ isFinal data, data.length = stream.bodyWritten ∧
      stream.storage = encodeHeaders ⟨start.messageType, isFinal,
          stream.headerSize + stream.currentBodyTarget, start.secureChannel.secureChannelId⟩
        (start.secureChannel.makeSecurityHeader start.messageType)
        ⟨(start.sequenceNumber.steps stream.chunksEmitted).current, start.requestId⟩ ++ data

namespace Numbered

variable {start stream : ChunkingStream C}

theorem fresh (none : stream.chunksEmitted = 0) (empty : stream.storage = [])
    (waits : stream.chunkStarted = false) (isOpen : stream.isClosed = false)
    (sized : stream.headerSize = MESSAGE_CHUNK_HEADER_SIZE +
      (stream.secureChannel.makeSecurityHeader stream.messageType).byteLen +
        (SequenceHeader.mk 0 0).byteLen) : Numbered stream stream := by
  refine ⟨rfl, rfl, rfl, sized, rfl,
    fun closed => absurd (isOpen.symm.trans closed) false_ne_true,
    ⟨[], (append_nil _).symm, none.symm, ?_⟩, fun _ => ⟨empty, ?_⟩,
    fun started => absurd (waits.symm.trans started) false_ne_true⟩
  · rw [none]
    exact .nil
  · rw [none]
    rfl

section

variable (numbered : Numbered start stream)
include numbered

theorem startChunk (waits : stream.chunkStarted = false) : Numbered start stream.startChunk := by
  obtain ⟨empty, number⟩ := numbered.idle waits
  refine ⟨numbered.channel, numbered.request, numbered.type, numbered.headerSize, numbered.count,
    numbered.closed, numbered.out, fun none => absurd none true_eq_false_eq_False.elim,
    fun _ => ⟨Nat.zero_le _, ?_, ?_⟩⟩
  · show stream.sequenceNumber.increment 1 = _
    rw [number]
    exact (start.sequenceNumber.steps_succ stream.chunksEmitted).symm
  · refine ⟨if stream.chunksEmitted = stream.expectedChunkCount - 1 then .final else .intermediate,
      [], rfl, ?_⟩
    show stream.storage ++ encodeHeaders ⟨stream.messageType, _, _,
        stream.secureChannel.secureChannelId⟩
      (stream.secureChannel.makeSecurityHeader stream.messageType)
      ⟨stream.sequenceNumber.current, stream.requestId⟩ = _
    rw [empty, nil_append, append_nil, number, numbered.channel, numbered.request,
      numbered.type]
    rfl

theorem ensureStarted :
    Numbered start stream.ensureStarted ∧ stream.ensureStarted.chunkStarted = true ∧
      stream.ensureStarted.isClosed = stream.isClosed := by
  unfold ChunkingStream.ensureStarted
  split_ifs with started
  · exact ⟨numbered, started, rfl⟩
  · exact ⟨numbered.startChunk (eq_false_of_not_eq_true started), rfl, rfl⟩

theorem emitChunk (started : stream.chunkStarted = true) (isOpen : stream.isClosed = false)
    (full : stream.bodyWritten = stream.currentBodyTarget) : Numbered start stream.emitChunk := by
  obtain ⟨-, number, isFinal, data, size, storage⟩ := numbered.busy started
  obtain ⟨chunks, out, length, numbers⟩ := numbered.out
  have whole : stream.storage.length = stream.headerSize + stream.currentBodyTarget := by
    rw [storage, length_append, length_encodeHeaders, size, full, numbered.headerSize]
    rfl
  have made : (⟨stream.storage⟩ : MessageChunk) =
      .new (start.sequenceNumber.steps stream.chunksEmitted).current start.requestId
        start.messageType isFinal start.secureChannel data := by
    rw [storage, MessageChunk.new, ← full, ← size, numbered.headerSize]
    rfl
  have put : stream.emitChunk.out = start.out ++ (chunks ++ [⟨stream.storage⟩]) := by
    show stream.out ++ [⟨stream.storage.take _⟩] = _
    rw [← whole, take_length, out, append_assoc]
  refine ⟨numbered.channel, numbered.request, numbered.type, numbered.headerSize, numbered.count,
    fun closed => ?_, ⟨_, put, ?_, ?_⟩, fun _ => ⟨?_, number⟩,
    fun some => absurd some false_ne_true⟩
  · have now : (stream.isClosed || stream.chunksEmitted + 1 == stream.expectedChunkCount) = true :=
      closed
    rw [isOpen, Bool.false_or, beq_iff_eq, numbered.count] at now
    exact now
  · rw [length_append, length]
    rfl
  · show List.Forall₂ _ _ (start.sequenceNumber.successive (stream.chunksEmitted + 1))
    rw [SequenceNumberHandle.successive, range_succ, map_append]
    refine rel_append numbers (.cons ?_ .nil)
    exact ⟨isFinal, data, made⟩
  · show stream.storage.drop _ = []
    rw [← whole, drop_length]

theorem fill (started : stream.chunkStarted = true) (isOpen : stream.isClosed = false)
    {data : List UInt8} (fits : stream.bodyWritten + data.length ≤ stream.currentBodyTarget) :
    Numbered start (stream.fill data) := by
  obtain ⟨-, number, isFinal, before, size, storage⟩ := numbered.busy started
  have filled : Numbered start { stream with
      storage := stream.storage ++ data
      bodyWritten := stream.bodyWritten + data.length } := by
    refine ⟨numbered.channel, numbered.request, numbered.type, numbered.headerSize,
      numbered.count, numbered.closed, numbered.out,
      fun none => absurd (started.symm.trans none) true_eq_false_eq_False.elim,
      fun _ => ⟨fits, number, isFinal, before ++ data, ?_, ?_⟩⟩
    · rw [length_append, size]
    · show stream.storage ++ data = _
      rw [storage, append_assoc]
  unfold ChunkingStream.fill
  dsimp only
  split_ifs with full
  · exact filled.emitChunk started isOpen full
  · exact filled

theorem write (buf : List UInt8) : Numbered start (stream.write buf).2 := by
  unfold ChunkingStream.write
  split_ifs with closed
  · exact numbered
  · obtain ⟨begun, started, same⟩ := numbered.ensureStarted
    have isOpen := same.trans (eq_false_of_not_eq_true closed)
    refine begun.fill started isOpen ?_
    have room := (begun.busy started).1
    rw [length_take]
    omega

end

theorem run (encoder : Encoder) (numbered : Numbered start stream) :
    Numbered start (ChunkingStream.run encoder stream).2 := by
  induction encoder generalizing stream with
  | done | fail => exact numbered
  | write bytes next ih => exact ih _ (numbered.write bytes)

theorem flush (numbered : Numbered start stream) : Numbered start stream.flush.2 := by
  unfold ChunkingStream.flush
  split_ifs with closed
  · exact numbered
  · obtain ⟨begun, started, same⟩ := numbered.ensureStarted
    have isOpen := same.trans (eq_false_of_not_eq_true closed)
    have room := (begun.busy started).1
    dsimp only
    split_ifs with short
    · exact begun
    · exact begun.emitChunk started isOpen (by omega)

end Numbered

end ChunkingStream

end AsyncOpcua.Comms
