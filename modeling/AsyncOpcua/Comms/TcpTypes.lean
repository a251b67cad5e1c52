/-
**The messages of OPC UA over TCP that are not chunks, and the header that all messages share.**
-/

import AsyncOpcua.Types.Encoding

namespace AsyncOpcua.Comms

open Types

/-! ### Codes -/

/-- `MSG`. -/
def CHUNK_MESSAGE : List UInt8 := [0x4D, 0x53, 0x47]

/-- `OPN`. -/
def OPEN_SECURE_CHANNEL_MESSAGE : List UInt8 := [0x4F, 0x50, 0x4E]

/-- `CLO`. -/
def CLOSE_SECURE_CHANNEL_MESSAGE : List UInt8 := [0x43, 0x4C, 0x4F]

/-- `HEL`. -/
def HELLO_MESSAGE : List UInt8 := [0x48, 0x45, 0x4C]

/-- `ACK`. -/
def ACKNOWLEDGE_MESSAGE : List UInt8 := [0x41, 0x43, 0x4B]

/-- `ERR`. -/
def ERROR_MESSAGE : List UInt8 := [0x45, 0x52, 0x52]

/-- `RHE`. -/
def REVERSE_HELLO_MESSAGE : List UInt8 := [0x52, 0x48, 0x45]

/-- `F`. -/
def CHUNK_FINAL : UInt8 := 0x46

/-- `C`. -/
def CHUNK_INTERMEDIATE : UInt8 := 0x43

def CHUNK_FINAL_ERROR : UInt8 := 0x41

def MIN_CHUNK_SIZE : ℕ := 8192

def MESSAGE_HEADER_LEN : ℕ := 8

/-! ### The header -/

inductive MessageType where
  | invalid
  | hello
  | acknowledge
  | chunk
  | error
  | reverseHello
  deriving DecidableEq

structure MessageHeader where
  messageType : MessageType
  messageSize : ℕ

namespace MessageHeader

def typeOfLetters (letters : List UInt8) : MessageType :=
  if letters = HELLO_MESSAGE then .hello
  else if letters = ACKNOWLEDGE_MESSAGE then .acknowledge
  else if letters = ERROR_MESSAGE then .error
  else if letters = REVERSE_HELLO_MESSAGE then .reverseHello
  else if letters = CHUNK_MESSAGE ∨ letters = OPEN_SECURE_CHANNEL_MESSAGE ∨
      letters = CLOSE_SECURE_CHANNEL_MESSAGE then .chunk
  else .invalid

/-- `MessageHeader::message_type`: the fourth byte is `F`, or for a chunk also `C` or `A`. -/
def messageTypeOf (prefixBytes : List UInt8) : MessageType :=
  if prefixBytes.length ≠ 4 then .invalid
  else
    let messageType := typeOfLetters (prefixBytes.take 3)
    match prefixBytes[3]? with
    | none => .invalid
    | some byte =>
      if byte = CHUNK_FINAL then messageType
      else if byte = CHUNK_INTERMEDIATE ∨ byte = CHUNK_FINAL_ERROR then
        if messageType = .chunk then messageType else .invalid
      else .invalid

def decode (options : DecodingOptions) : Reader MessageHeader := do
  let messageType ← readExact 4
  let messageSize ← readU32
  if 0 < options.maxMessageSize ∧ options.maxMessageSize < messageSize then
    .fail (.new StatusCode.BadTcpMessageTooLarge
      s!"Message size {messageSize} exceeds maximum message size {options.maxMessageSize}")
  else return ⟨messageTypeOf messageType, messageSize⟩

end MessageHeader

/-! ### Messages -/

structure HelloMessage where
  messageHeader : MessageHeader
  protocolVersion : ℕ
  receiveBufferSize : ℕ
  sendBufferSize : ℕ
  maxMessageSize : ℕ
  maxChunkCount : ℕ
  endpointUrl : UAString

def HelloMessage.decode (options : DecodingOptions) : Reader HelloMessage := do
  let messageHeader ← MessageHeader.decode options
  let protocolVersion ← readU32
  let receiveBufferSize ← readU32
  let sendBufferSize ← readU32
  let maxMessageSize ← readU32
  let maxChunkCount ← readU32
  let endpointUrl ← UAString.decode options
  return { messageHeader, protocolVersion, receiveBufferSize, sendBufferSize, maxMessageSize,
           maxChunkCount, endpointUrl }

structure AcknowledgeMessage where
  messageHeader : MessageHeader
  protocolVersion : ℕ
  receiveBufferSize : ℕ
  sendBufferSize : ℕ
  maxMessageSize : ℕ
  maxChunkCount : ℕ

def AcknowledgeMessage.decode (options : DecodingOptions) : Reader AcknowledgeMessage := do
  let messageHeader ← MessageHeader.decode options
  let protocolVersion ← readU32
  let receiveBufferSize ← readU32
  let sendBufferSize ← readU32
  let maxMessageSize ← readU32
  let maxChunkCount ← readU32
  return { messageHeader, protocolVersion, receiveBufferSize, sendBufferSize, maxMessageSize,
           maxChunkCount }

structure ErrorMessage where
  messageHeader : MessageHeader
  error : StatusCode
  reason : UAString

def ErrorMessage.decode (options : DecodingOptions) : Reader ErrorMessage := do
  let messageHeader ← MessageHeader.decode options
  let error ← readU32
  let reason ← UAString.decode options
  return { messageHeader, error := BitVec.ofNat 32 error, reason }

structure ReverseHelloMessage where
  messageHeader : MessageHeader
  serverUri : UAString
  endpointUrl : UAString

def ReverseHelloMessage.decode (options : DecodingOptions) : Reader ReverseHelloMessage := do
  let messageHeader ← MessageHeader.decode options
  let serverUri ← UAString.decode options
  let endpointUrl ← UAString.decode options
  return { messageHeader, serverUri, endpointUrl }

end AsyncOpcua.Comms
