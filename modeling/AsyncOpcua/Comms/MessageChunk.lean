/-
**Message chunks: a header, a security header, a sequence header and a body.**

* `MessageChunkHeader.decode_encode` — a header is read back, its size as a `u32`.
-/

import AsyncOpcua.Comms.TcpTypes

namespace AsyncOpcua.Comms

open Types

def MESSAGE_CHUNK_HEADER_SIZE : ℕ := 12

def MESSAGE_SIZE_OFFSET : ℕ := 4

inductive MessageChunkType where
  | message
  | openSecureChannel
  | closeSecureChannel
  deriving DecidableEq

def MessageChunkType.isOpenSecureChannel (messageType : MessageChunkType) : Bool :=
  messageType == .openSecureChannel

inductive MessageIsFinalType where
  | intermediate
  | final
  | finalError
  deriving DecidableEq

structure MessageChunkHeader where
  messageType : MessageChunkType
  isFinal : MessageIsFinalType
  messageSize : ℕ
  secureChannelId : ℕ

def MessageChunkType.code : MessageChunkType → List UInt8
  | .message => CHUNK_MESSAGE
  | .openSecureChannel => OPEN_SECURE_CHANNEL_MESSAGE
  | .closeSecureChannel => CLOSE_SECURE_CHANNEL_MESSAGE

def MessageIsFinalType.code : MessageIsFinalType → UInt8
  | .intermediate => CHUNK_INTERMEDIATE
  | .final => CHUNK_FINAL
  | .finalError => CHUNK_FINAL_ERROR

namespace MessageChunkHeader

def encode (header : MessageChunkHeader) : List UInt8 :=
  header.messageType.code ++ [header.isFinal.code] ++ writeU32 header.messageSize ++
    writeU32 header.secureChannelId

def decode : Reader MessageChunkHeader := do
  let messageTypeCode ← readExact 3
  let messageType : MessageChunkType ←
    if messageTypeCode = CHUNK_MESSAGE then pure .message
    else if messageTypeCode = OPEN_SECURE_CHANNEL_MESSAGE then pure .openSecureChannel
    else if messageTypeCode = CLOSE_SECURE_CHANNEL_MESSAGE then pure .closeSecureChannel
    else .fail (.decoding s!"Invalid message chunk type: {messageTypeCode}")
  let chunkTypeCode ← readU8
  let isFinal : MessageIsFinalType ←
    if chunkTypeCode = CHUNK_FINAL then pure .final
    else if chunkTypeCode = CHUNK_INTERMEDIATE then pure .intermediate
    else if chunkTypeCode = CHUNK_FINAL_ERROR then pure .finalError
    else .fail (.decoding s!"Invalid message final type: {chunkTypeCode}")
  let messageSize ← readU32
  let secureChannelId ← readU32
  return { messageType, isFinal, messageSize, secureChannelId }

theorem length_encode (header : MessageChunkHeader) :
    header.encode.length = MESSAGE_CHUNK_HEADER_SIZE := by
  unfold encode
  cases header.messageType <;> rfl

theorem decode_encode (header : MessageChunkHeader) :
    decode.Reads
      { header with
        messageSize := header.messageSize % u32Size
        secureChannelId := header.secureChannelId % u32Size } header.encode := by
  obtain ⟨messageType, isFinal, messageSize, secureChannelId⟩ := header
  have code : (readExact 3).Reads messageType.code messageType.code :=
    readExact_self (by cases messageType <;> rfl)
  have parts : encode ⟨messageType, isFinal, messageSize, secureChannelId⟩ =
      messageType.code ++ ([isFinal.code] ++
        (writeU32 messageSize ++ writeU32 secureChannelId)) := by
    simp [encode]
  rw [parts]
  refine code.bind ?_
  have final : (do
      let chunkTypeCode ← readU8
      let isFinal : MessageIsFinalType ←
        if chunkTypeCode = CHUNK_FINAL then pure .final
        else if chunkTypeCode = CHUNK_INTERMEDIATE then pure .intermediate
        else if chunkTypeCode = CHUNK_FINAL_ERROR then pure .finalError
        else .fail (.decoding s!"Invalid message final type: {chunkTypeCode}")
      let messageSize ← readU32
      let secureChannelId ← readU32
      return { messageType, isFinal, messageSize, secureChannelId } :
      Reader MessageChunkHeader).Reads
        ⟨messageType, isFinal, messageSize % u32Size, secureChannelId % u32Size⟩
        ([isFinal.code] ++ (writeU32 messageSize ++ writeU32 secureChannelId)) := by
    refine (readU8_singleton isFinal.code).bind fun rest => ?_
    have sizes : (do
        let messageSize ← readU32
        let secureChannelId ← readU32
        return { messageType, isFinal, messageSize, secureChannelId } :
        Reader MessageChunkHeader).Reads
          ⟨messageType, isFinal, messageSize % u32Size, secureChannelId % u32Size⟩
          (writeU32 messageSize ++ writeU32 secureChannelId) := by
      refine (readU32_writeU32 messageSize).bind ?_
      exact (readU32_writeU32 secureChannelId).map (Reader.Reads.pure _)
    cases isFinal <;> exact sizes rest
  cases messageType <;> exact final

end MessageChunkHeader

structure MessageChunk where
  data : List UInt8

namespace MessageChunk

/-- `MessageChunk::decode_zero_copy`. -/
def decodeZeroCopy (options : DecodingOptions) : Reader MessageChunk := fun src =>
  match (src.drop MESSAGE_SIZE_OFFSET).take 4 with
  | [first, second, third, fourth] =>
    let messageSize := fromLeBytes first second third fourth
    if 0 < options.maxMessageSize ∧ options.maxMessageSize < messageSize then
      .error (.new StatusCode.BadTcpMessageTooLarge
        s!"Message size {messageSize} exceeds maximum message size {options.maxMessageSize}")
    else if messageSize < MESSAGE_CHUNK_HEADER_SIZE then
      .error (.decoding
        s!"Message size {messageSize} is smaller than message chunk header size {MESSAGE_CHUNK_HEADER_SIZE}")
    else if src.length < messageSize then
      .error (.decoding
        s!"Message size {messageSize} exceeds available bytes {src.length}")
    else .ok (⟨src.take messageSize⟩, src.drop messageSize)
  | _ => .error (.decoding "Cannot decode chunk header")

end MessageChunk

end AsyncOpcua.Comms
