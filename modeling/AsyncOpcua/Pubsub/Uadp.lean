/-
**UADP network messages, as they are written and read.**

A network message is written as a header region and a payload region. The ids of the dataset writers
stand in the header, the dataset messages in the payload. Timestamps and the values of the fields
are written and read by codecs of their own.

* `PublisherId`, `SecurityHeader`, `UadpDataSetMessage`, `UadpNetworkMessage` — what is sent;
* `headerRegionByteLen`, `payloadRegionByteLen` — the sizes that are reckoned beforehand;
* `encodeHeaderRegion`, `encodePayloadRegion` — what is written;
* `decodeHeaderRegion`, `decodePayloadRegion` — what is read.
-/

import AsyncOpcua.Encoding.Decoding

namespace AsyncOpcua.Pubsub

open Types hiding Variant DataValue
open Encoding (readU16 writeU16 readTimes)

/-! ### Readers and writers -/

structure DatasetLimits extends DecodingOptions where
  maxDatasetFields : ℕ
  maxDatasetMessages : ℕ

/-- The codecs of timestamps and of the values of fields. A value need not have an encoding. -/
structure FieldCodecs where
  Timestamp : Type
  Variant : Type
  encodeTimestamp : Timestamp → List UInt8
  decodeTimestamp : Reader Timestamp
  variantByteLen : Variant → ℕ
  encodeVariant : Variant → Except Error (List UInt8)
  decodeVariant : Reader Variant

def readUInt32 : Reader UInt32 := do return .ofNat (← readU32)

def writeU64 (value : UInt64) : List UInt8 :=
  writeU32 value.toNat ++ writeU32 (value.toNat / u32Size)

def readU64 : Reader UInt64 := do
  let low ← readU32
  let high ← readU32
  return .ofNat (low + u32Size * high)

def readWhen {α : Type} (present : Prop) [Decidable present] (reader : Reader α) (absent : α) :
    Reader α :=
  if present then reader else pure absent

/-- The elements one after another, if all of them have an encoding. -/
def encodeEach {α : Type} (encode : α → Except Error (List UInt8)) :
    List α → Except Error (List UInt8)
  | [] => .ok []
  | a :: others => do return (← encode a) ++ (← encodeEach encode others)

/-! ### Publisher ids -/

inductive PublisherId
  | none
  | byte (value : UInt8)
  | uint16 (value : UInt16)
  | uint32 (value : UInt32)
  | uint64 (value : UInt64)
  | string (value : String)
  deriving DecidableEq

namespace PublisherId

def ext1TypeBits : PublisherId → UInt8
  | .none | .byte _ => 0
  | .uint16 _ => 1
  | .uint32 _ => 2
  | .uint64 _ => 3
  | .string _ => 4

/-- The size of a string counts its length field. -/
def valueByteLen : PublisherId → ℕ
  | .none => 0
  | .byte _ => 1
  | .uint16 _ => 2
  | .uint32 _ => 4
  | .uint64 _ => 8
  | .string value => 4 + (toUtf8 value).length

def encodeValue : PublisherId → List UInt8
  | .none => []
  | .byte value => [value]
  | .uint16 value => writeU16 value
  | .uint32 value => writeU32 value.toNat
  | .uint64 value => writeU64 value
  | .string value => UAString.encode (some value)

/-- A null string is shown as `[null]`. -/
def decodeValue (limits : DatasetLimits) (typeBits : UInt8) : Reader PublisherId :=
  if typeBits = 0 then do return .byte (← readU8)
  else if typeBits = 1 then do return .uint16 (← readU16)
  else if typeBits = 2 then do return .uint32 (← readUInt32)
  else if typeBits = 3 then do return .uint64 (← readU64)
  else if typeBits = 4 then do
    return .string ((← UAString.decode limits.toDecodingOptions).getD "[null]")
  else .fail (.decoding "Reserved UADP PublisherId type")

end PublisherId

/-! ### Security headers -/

structure SecurityHeader where
  securityFlags : UInt8
  securityTokenId : UInt32
  messageNonce : List UInt8

namespace SecurityHeader

def ENCRYPTED : UInt8 := 0x02
def FOOTER : UInt8 := 0x04
def RESERVED : UInt8 := 0xF0
def ENCRYPTED_MESSAGE_NONCE_LEN : ℕ := 8

def byteLen (header : SecurityHeader) : ℕ :=
  1 + 4 + 1 + header.messageNonce.length + if header.securityFlags &&& FOOTER ≠ 0 then 2 else 0

def encode (header : SecurityHeader) : Except Error (List UInt8) :=
  if 256 ≤ header.messageNonce.length then
    .error (.encoding "UADP SecurityHeader nonce is too long")
  else
    .ok ([header.securityFlags] ++ writeU32 header.securityTokenId.toNat ++
      [.ofNat header.messageNonce.length] ++ header.messageNonce ++
      if header.securityFlags &&& FOOTER ≠ 0 then writeU16 0 else [])

/-- The size of the footer is read and dropped. -/
def decode : Reader SecurityHeader := do
  let securityFlags ← readU8
  if securityFlags &&& RESERVED ≠ 0 then
    .fail (.decoding "UADP SecurityHeader reserved security flags are set")
  else
    let securityTokenId ← readUInt32
    let nonceLen ← readU8
    if securityFlags &&& ENCRYPTED ≠ 0 ∧ nonceLen.toNat ≠ ENCRYPTED_MESSAGE_NONCE_LEN then
      .fail (.decoding "UADP encrypted SecurityHeader nonce length must be 8")
    else
      let messageNonce ← readExact nonceLen.toNat
      let _ ← readWhen (securityFlags &&& FOOTER ≠ 0) readU16 0
      return ⟨securityFlags, securityTokenId, messageNonce⟩

end SecurityHeader

/-! ### Dataset messages -/

structure UadpDataSetMessage (C : FieldCodecs) where
  datasetWriterId : UInt16
  sequenceNumber : UInt16
  timestamp : Option C.Timestamp
  status : Option StatusCode
  fields : List C.Variant

namespace UadpDataSetMessage

variable {C : FieldCodecs}

def byteLen (message : UadpDataSetMessage C) : ℕ :=
  1 + 2 + (if message.timestamp.isSome then 8 else 0) + (if message.status.isSome then 2 else 0) +
    2 + (message.fields.map C.variantByteLen).sum

/-- The message is valid and has a sequence number. -/
def flags1 (message : UadpDataSetMessage C) : UInt8 :=
  0x01 ||| 0x08 ||| (if message.timestamp.isSome then 0x40 else 0) |||
    (if message.status.isSome then 0x10 else 0)

/-- Of a status only the high-order half is sent. -/
def writeStatus (status : StatusCode) : List UInt8 := writeU16 (.ofNat (status.toNat / 65536))

def readStatus : Reader StatusCode := do return BitVec.ofNat 32 ((← readU16).toNat * 65536)

/-- The number of fields is cast to a `u16`. -/
def encode (message : UadpDataSetMessage C) : Except Error (List UInt8) := do
  let fields ← encodeEach C.encodeVariant message.fields
  return [message.flags1] ++ writeU16 message.sequenceNumber ++
    message.timestamp.elim [] C.encodeTimestamp ++ message.status.elim [] writeStatus ++
    writeU16 (.ofNat message.fields.length) ++ fields

/-- The id of the writer is not in the body. -/
def decode (limits : DatasetLimits) : Reader (UadpDataSetMessage C) := do
  let flags1 ← readU8
  let sequenceNumber ← readWhen (flags1 &&& 0x08 ≠ 0) readU16 0
  let timestamp ← readWhen (flags1 &&& 0x40 ≠ 0) (do return some (← C.decodeTimestamp)) none
  let status ← readWhen (flags1 &&& 0x10 ≠ 0) (do return some (← readStatus)) none
  let fieldCount ← readU16
  let most := limits.maxDatasetFields
  if most < fieldCount.toNat then
    .fail (.decoding
      s!"UADP dataset message field_count ({fieldCount}) exceeds max_dataset_fields ({most})")
  else
    let fields ← readTimes C.decodeVariant fieldCount.toNat
    return ⟨0, sequenceNumber, timestamp, status, fields⟩

end UadpDataSetMessage

/-! ### Network messages -/

structure UadpNetworkMessage (C : FieldCodecs) where
  publisherId : PublisherId
  writerGroupId : UInt16
  networkMessageNumber : UInt16
  sequenceNumber : UInt16
  datasetMessages : List (UadpDataSetMessage C)

structure UadpHeaderRegion where
  publisherId : PublisherId
  writerGroupId : UInt16
  networkMessageNumber : UInt16
  sequenceNumber : UInt16
  datasetWriterIds : List UInt16

namespace Uadp

def VERSION : UInt8 := 1
def PUBLISHER_ID : UInt8 := 0x10
def GROUP_HEADER : UInt8 := 0x20
def PAYLOAD_HEADER : UInt8 := 0x40
def EXTENDED_FLAGS1 : UInt8 := 0x80
def EXTENDED_SECURITY_HEADER : UInt8 := 0x10
def EXTENDED_TIMESTAMP : UInt8 := 0x20
def EXTENDED_PICOSECONDS : UInt8 := 0x40
def EXTENDED_PUBLISHER_ID_TYPE : UInt8 := 0x07

end Uadp

namespace UadpNetworkMessage

open Uadp

variable {C : FieldCodecs} (message : UadpNetworkMessage C)

def extendedFlags1 (hasSecurityHeader : Bool) : UInt8 :=
  (if message.publisherId ≠ .none then message.publisherId.ext1TypeBits else 0) |||
    (if hasSecurityHeader then EXTENDED_SECURITY_HEADER else 0)

def headerRegionByteLen (securityHeader : Option SecurityHeader) : ℕ :=
  1 + (if message.extendedFlags1 securityHeader.isSome ≠ 0 then 1 else 0) +
    (if message.publisherId ≠ .none then message.publisherId.valueByteLen else 0) +
    1 + 2 + 4 + 2 + 2 + 1 + message.datasetMessages.length * 2 +
    securityHeader.elim 0 SecurityHeader.byteLen

def payloadRegionByteLen : ℕ := (message.datasetMessages.map UadpDataSetMessage.byteLen).sum

def flags (extendedFlags1 : UInt8) : UInt8 :=
  VERSION ||| (if message.publisherId ≠ .none then PUBLISHER_ID else 0) |||
    (GROUP_HEADER ||| PAYLOAD_HEADER) ||| (if extendedFlags1 ≠ 0 then EXTENDED_FLAGS1 else 0)

/-- What is written before the number of dataset messages. -/
def encodeGroupHeader : List UInt8 :=
  [0x0F] ++ writeU16 message.writerGroupId ++ writeU32 0 ++ writeU16 message.networkMessageNumber ++
    writeU16 message.sequenceNumber

def encodeHeaderRegion (securityHeader : Option SecurityHeader) : Except Error (List UInt8) := do
  let extendedFlags1 := message.extendedFlags1 securityHeader.isSome
  if 256 ≤ message.datasetMessages.length then
    .error (.encoding "UADP dataset message count exceeds u8")
  else
    let security ← securityHeader.elim (.ok []) SecurityHeader.encode
    return [message.flags extendedFlags1] ++
      (if extendedFlags1 ≠ 0 then [extendedFlags1] else []) ++
      (if message.publisherId ≠ .none then message.publisherId.encodeValue else []) ++
      message.encodeGroupHeader ++ [.ofNat message.datasetMessages.length] ++
      (message.datasetMessages.flatMap fun sent => writeU16 sent.datasetWriterId) ++ security

def encodePayloadRegion : Except Error (List UInt8) :=
  encodeEach UadpDataSetMessage.encode message.datasetMessages

def byteLen : ℕ := message.headerRegionByteLen none + message.payloadRegionByteLen

def encode : Except Error (List UInt8) := do
  return (← message.encodeHeaderRegion none) ++ (← message.encodePayloadRegion)

def decodeGroupHeader : Reader (UInt16 × UInt16 × UInt16) := do
  let groupFlags ← readU8
  if groupFlags &&& 0xF0 ≠ 0 then .fail (.decoding "UADP GroupFlags reserved bits are set")
  else
    let writerGroupId ← readWhen (groupFlags &&& 0x01 ≠ 0) readU16 0
    let _ ← readWhen (groupFlags &&& 0x02 ≠ 0) readUInt32 0
    let networkMessageNumber ← readWhen (groupFlags &&& 0x04 ≠ 0) readU16 0
    let sequenceNumber ← readWhen (groupFlags &&& 0x08 ≠ 0) readU16 0
    return (writerGroupId, networkMessageNumber, sequenceNumber)

def decodeWriterIds (limits : DatasetLimits) : Reader (List UInt16) := do
  let count ← readU8
  let most := limits.maxDatasetMessages
  if most < count.toNat then
    .fail (.decoding
      s!"UADP network message dataset message count ({count}) exceeds max_dataset_messages ({most})")
  else readTimes readU16 count.toNat

def decodeHeaderRegion (limits : DatasetLimits) :
    Reader (UadpHeaderRegion × Option SecurityHeader) := do
  let flags ← readU8
  if flags &&& 0x0F ≠ VERSION then .fail (.decoding "Unsupported UADP version")
  else
    let extendedFlags1 ← readWhen (flags &&& EXTENDED_FLAGS1 ≠ 0) readU8 0
    if extendedFlags1 &&& EXTENDED_PICOSECONDS ≠ 0 ∧ extendedFlags1 &&& EXTENDED_TIMESTAMP = 0 then
      .fail (.decoding
        "UADP ExtendedFlags1 PicoSeconds bit must be false when Timestamp bit is false")
    else
      let publisherId ← readWhen (flags &&& PUBLISHER_ID ≠ 0)
        (PublisherId.decodeValue limits (extendedFlags1 &&& EXTENDED_PUBLISHER_ID_TYPE)) .none
      if flags &&& GROUP_HEADER = 0 then .fail (.decoding "GroupHeader is missing")
      else
        let (writerGroupId, networkMessageNumber, sequenceNumber) ← decodeGroupHeader
        let datasetWriterIds ← readWhen (flags &&& PAYLOAD_HEADER ≠ 0) (decodeWriterIds limits) []
        let securityHeader ← readWhen (extendedFlags1 &&& EXTENDED_SECURITY_HEADER ≠ 0)
          (do return some (← SecurityHeader.decode)) none
        return (⟨publisherId, writerGroupId, networkMessageNumber, sequenceNumber,
          datasetWriterIds⟩, securityHeader)

def decodeMessages (limits : DatasetLimits) : List UInt16 → Reader (List (UadpDataSetMessage C))
  | [] => pure []
  | datasetWriterId :: ids => do
    let read ← UadpDataSetMessage.decode limits
    let others ← decodeMessages limits ids
    return { read with datasetWriterId := datasetWriterId } :: others

def decodePayloadRegion (limits : DatasetLimits) (header : UadpHeaderRegion) :
    Reader (List (UadpDataSetMessage C)) :=
  decodeMessages limits header.datasetWriterIds

def ofRegions (header : UadpHeaderRegion) (datasetMessages : List (UadpDataSetMessage C)) :
    UadpNetworkMessage C :=
  ⟨header.publisherId, header.writerGroupId, header.networkMessageNumber, header.sequenceNumber,
    datasetMessages⟩

/-- A security header is read and dropped. -/
def decode (limits : DatasetLimits) : Reader (UadpNetworkMessage C) := do
  let (header, _) ← decodeHeaderRegion limits
  let datasetMessages ← decodePayloadRegion limits header
  return ofRegions header datasetMessages

end UadpNetworkMessage

end AsyncOpcua.Pubsub
