/-
**What is written of a UADP network message is read back.**

The number of fields of a dataset message is cast to a `u16`, and the length of a string to an
`i32`. A message whose counts fit is read back; the number of dataset messages is checked when it is
written.

* `headerRegion_reads`, `payloadRegion_reads` — the regions are read as they were written;
* `roundTrips_iff` — which messages are read back.
-/

import AsyncOpcua.Encoding.Decoded
import AsyncOpcua.Foundation.Transition
import AsyncOpcua.Pubsub.Uadp
import Mathlib.Algebra.Order.BigOperators.Group.List

namespace AsyncOpcua.Pubsub

open Types hiding Variant DataValue
open Encoding (readU16 writeU16 readTimes readU16_writeU16 readTimes_flatMap
  readDimension_writeU32 Gives)
open Foundation.Machine (bind_eq_ok)

/-! ### Numbers -/

theorem readUInt32_writeU32 (value : UInt32) : readUInt32.Reads value (writeU32 value.toNat) :=
  readDimension_writeU32 value

theorem readU64_writeU64 (value : UInt64) : readU64.Reads value (writeU64 value) := by
  have bound := value.toNat_lt
  refine (readU32_writeU32 value.toNat).bind ((readU32_writeU32 _).map fun rest => ?_)
  have same : value.toNat % u32Size + u32Size * (value.toNat / u32Size % u32Size) =
      value.toNat := by
    unfold u32Size
    omega
  show Except.ok (UInt64.ofNat (value.toNat % u32Size +
    u32Size * (value.toNat / u32Size % u32Size)), rest) = _
  rw [same, UInt64.ofNat_toNat]

variable {bytes : List UInt8}

section

variable {α : Type} {present : Prop} [Decidable present] {reader : Reader α}

theorem readWhen_reads {a absent : α} (there : present → reader.Reads a bytes)
    (missing : ¬ present → bytes = [] ∧ absent = a) :
    (readWhen present reader absent).Reads a bytes := by
  unfold readWhen
  split_ifs with here
  · exact there here
  · obtain ⟨rfl, rfl⟩ := missing here
    exact .pure _

theorem readOption_reads {value : Option α} {encode : α → List UInt8} (bit : present ↔ value.isSome)
    (each : ∀ a, reader.Reads a (encode a)) :
    (readWhen present (do return some (← reader)) none).Reads value (value.elim [] encode) := by
  refine readWhen_reads (fun here => ?_) fun absent => ?_
  · obtain ⟨a, rfl⟩ := Option.isSome_iff_exists.mp (bit.mp here)
    exact (each a).map (.pure (some a))
  · rw [bit, Option.not_isSome_iff_eq_none] at absent
    rw [absent]
    exact ⟨rfl, rfl⟩

end

/-! ### Publisher ids -/

open List

namespace PublisherId

/-- The bytes of a string are fewer than `bound`. -/
def StringBelow (bound : ℕ) : PublisherId → Prop
  | .string value => (toUtf8 value).length < bound
  | _ => True

theorem length_encodeValue (id : PublisherId) : id.encodeValue.length = id.valueByteLen := by
  cases id with
  | string value =>
    show (writeU32 _ ++ toUtf8 value).length = _
    rw [length_append, length_writeU32]
    rfl
  | _ => rfl

theorem decodeValue_reads {limits : DatasetLimits} {id : PublisherId} (present : id ≠ .none)
    (allowed : id.StringBelow (limits.maxStringLength + 1)) (fits : id.StringBelow 2147483648) :
    (decodeValue limits id.ext1TypeBits).Reads id id.encodeValue := by
  cases id with
  | none => exact absurd rfl present
  | byte value => exact (readU8_singleton value).map (.pure _)
  | uint16 value => exact (readU16_writeU16 value).map (.pure _)
  | uint32 value => exact (readUInt32_writeU32 value).map (.pure _)
  | uint64 value => exact (readU64_writeU64 value).map (.pure _)
  | string value =>
    exact (UAString.decode_encode_some (Nat.lt_succ_iff.mp allowed) fits).map
      (.pure _)

end PublisherId

/-! ### Security headers -/

namespace SecurityHeader

structure Readable (header : SecurityHeader) : Prop where
  known : header.securityFlags &&& RESERVED = 0
  nonce : header.securityFlags &&& ENCRYPTED ≠ 0 →
    header.messageNonce.length = ENCRYPTED_MESSAGE_NONCE_LEN

variable {header : SecurityHeader} {bytes : List UInt8}

theorem encode_eq_ok (written : header.encode = .ok bytes) : header.messageNonce.length < 256 ∧
      bytes = [header.securityFlags] ++ (writeU32 header.securityTokenId.toNat ++
        ([.ofNat header.messageNonce.length] ++ (header.messageNonce ++
          if header.securityFlags &&& FOOTER ≠ 0 then writeU16 0 else []))) := by
  unfold encode at written
  split_ifs at written with long footer <;> cases written
  · exact ⟨by omega, by simp [if_pos footer]⟩
  · exact ⟨by omega, by simp [if_neg footer]⟩

theorem length_encode (written : header.encode = .ok bytes) : bytes.length = header.byteLen := by
  obtain ⟨-, rfl⟩ := encode_eq_ok written
  unfold byteLen
  simp only [length_append, length_writeU32, length_singleton]
  split_ifs
  · show 1 + (4 + (1 + (_ + 2))) = _
    omega
  · show 1 + (4 + (1 + (_ + 0))) = _
    omega

theorem decode_reads (readable : header.Readable) (written : header.encode = .ok bytes) :
    decode.Reads header bytes := by
  obtain ⟨short, rfl⟩ := encode_eq_ok written
  have length : (UInt8.ofNat header.messageNonce.length).toNat = header.messageNonce.length := by
    rw [UInt8.toNat_ofNat', Nat.mod_eq_of_lt short]
  refine (readU8_singleton _).bind ?_
  rw [if_neg (not_not.mpr readable.known)]
  refine (readUInt32_writeU32 _).bind ((readU8_singleton _).bind ?_)
  rw [length, if_neg fun both => both.2 (readable.nonce both.1)]
  refine (readExact_self rfl).bind ((readWhen_reads (a := 0) (fun footer => ?_)
    fun plain => ⟨if_neg plain, rfl⟩).map (.pure _))
  rw [if_pos footer]
  exact readU16_writeU16 0

end SecurityHeader

/-! ### Lists of encodings -/

section Each

variable {α β : Type} {encode : α → Except Error (List UInt8)}

theorem encodeEach_cons {a : α} {others : List α} {bytes : List UInt8}
    (written : encodeEach encode (a :: others) = .ok bytes) : ∃ front back,
      encode a = .ok front ∧ encodeEach encode others = .ok back ∧ bytes = front ++ back := by
  obtain ⟨front, first, rest⟩ := bind_eq_ok.mp written
  obtain ⟨back, second, done⟩ := bind_eq_ok.mp rest
  cases done
  exact ⟨front, back, first, second, rfl⟩

theorem encodeEach_isOk : ∀ {values : List α}, (∀ a ∈ values, ∃ bytes, encode a = .ok bytes) →
    ∃ bytes, encodeEach encode values = .ok bytes
  | [], _ => ⟨[], rfl⟩
  | a :: values, each => by
    obtain ⟨front, first⟩ := each a mem_cons_self
    obtain ⟨back, rest⟩ := encodeEach_isOk fun b mem => each b (mem_cons_of_mem a mem)
    refine ⟨front ++ back, bind_eq_ok.mpr ⟨front, first, bind_eq_ok.mpr ⟨back, rest, rfl⟩⟩⟩

theorem encodeEach_mem {values : List α} {bytes : List UInt8}
    (written : encodeEach encode values = .ok bytes) {a : α} (mem : a ∈ values) :
    ∃ part, encode a = .ok part := by
  induction values generalizing bytes with
  | nil => cases mem
  | cons b values ih =>
    obtain ⟨front, back, first, rest, -⟩ := encodeEach_cons written
    obtain rfl | later := mem_cons.mp mem
    · exact ⟨front, first⟩
    · exact ih rest later

theorem length_encodeEach {byteLen : α → ℕ} : ∀ {values : List α} {bytes : List UInt8},
    (∀ a ∈ values, ∀ bytes, encode a = .ok bytes → bytes.length = byteLen a) →
    encodeEach encode values = .ok bytes → bytes.length = (values.map byteLen).sum
  | [], _, _, written => by
    cases written
    rfl
  | a :: values, _, each, written => by
    obtain ⟨front, back, first, rest, rfl⟩ := encodeEach_cons written
    rw [length_append, each a mem_cons_self front first,
      length_encodeEach (fun b mem => each b (mem_cons_of_mem a mem)) rest, map_cons,
      sum_cons]

theorem readTimes_encodeEach {element : Reader α} : ∀ {values : List α} {bytes : List UInt8},
    (∀ a bytes, encode a = .ok bytes → element.Reads a bytes) →
    encodeEach encode values = .ok bytes → (readTimes element values.length).Reads values bytes
  | [], _, _, written => by
    cases written
    exact .pure []
  | a :: values, _, each, written => by
    obtain ⟨front, back, first, rest, rfl⟩ := encodeEach_cons written
    exact (each a front first).bind ((readTimes_encodeEach each rest).map (.pure _))

end Each

/-! ### Dataset messages -/

structure FieldCodecs.RoundTrip (C : FieldCodecs) : Prop where
  timestamp_length : ∀ timestamp, (C.encodeTimestamp timestamp).length = 8
  timestamp : ∀ timestamp, C.decodeTimestamp.Reads timestamp (C.encodeTimestamp timestamp)
  variant_length : ∀ value bytes, C.encodeVariant value = .ok bytes →
    bytes.length = C.variantByteLen value
  variant : ∀ value bytes, C.encodeVariant value = .ok bytes → C.decodeVariant.Reads value bytes

variable {C : FieldCodecs}

namespace UadpDataSetMessage

def highHalf (status : StatusCode) : StatusCode := BitVec.ofNat 32 (status.toNat / 65536 * 65536)

/-- What is sent of a dataset message. -/
def stored (message : UadpDataSetMessage C) : UadpDataSetMessage C :=
  { message with status := message.status.map highHalf }

/-- The number of fields is a `u16`. -/
def Counted (message : UadpDataSetMessage C) : Prop := message.fields.length < 65536

theorem readStatus_reads (status : StatusCode) :
    readStatus.Reads (highHalf status) (writeStatus status) := by
  refine (readU16_writeU16 _).map fun rest => ?_
  have same : (UInt16.ofNat (status.toNat / 65536)).toNat = status.toNat / 65536 := by
    rw [UInt16.toNat_ofNat', Nat.mod_eq_of_lt (by omega)]
  rw [same]
  rfl

theorem flags1_bits (timestamp status : Bool) :
    let flags : UInt8 := 0x01 ||| 0x08 ||| (if timestamp then 0x40 else 0) |||
      (if status then 0x10 else 0)
    flags &&& 0x08 ≠ 0 ∧ (flags &&& 0x40 ≠ 0 ↔ timestamp) ∧ (flags &&& 0x10 ≠ 0 ↔ status) := by
  cases timestamp <;> cases status <;> decide

variable {message : UadpDataSetMessage C} {bytes : List UInt8}

theorem encode_eq_ok (written : message.encode = .ok bytes) : ∃ fields,
      encodeEach C.encodeVariant message.fields = .ok fields ∧
      bytes = [message.flags1] ++ (writeU16 message.sequenceNumber ++
        (message.timestamp.elim [] C.encodeTimestamp ++ (message.status.elim [] writeStatus ++
          (writeU16 (.ofNat message.fields.length) ++ fields)))) := by
  obtain ⟨fields, each, done⟩ := bind_eq_ok.mp written
  cases done
  exact ⟨fields, each, by simp⟩

/-- **The size of a dataset message is what was reckoned.** -/
theorem length_encode (lawful : C.RoundTrip) (written : message.encode = .ok bytes) :
    bytes.length = message.byteLen := by
  obtain ⟨fields, each, rfl⟩ := encode_eq_ok written
  have sizes := length_encodeEach (fun value _ => lawful.variant_length value) each
  have timestamp : (message.timestamp.elim [] C.encodeTimestamp).length =
      if message.timestamp.isSome then 8 else 0 := by
    cases message.timestamp with
    | none => rfl
    | some value => exact lawful.timestamp_length value
  have status : (message.status.elim [] writeStatus).length =
      if message.status.isSome then 2 else 0 := by
    cases message.status with
    | none | some => rfl
  have two : ∀ value, (writeU16 value).length = 2 := fun _ => rfl
  simp only [length_append, length_singleton, two, sizes, timestamp, status, byteLen]
  omega

theorem decode_reads (lawful : C.RoundTrip) {limits : DatasetLimits} (counted : message.Counted)
    (allowed : message.fields.length ≤ limits.maxDatasetFields)
    (written : message.encode = .ok bytes) :
    (decode limits).Reads { message.stored with datasetWriterId := 0 } bytes := by
  obtain ⟨fields, each, rfl⟩ := encode_eq_ok written
  obtain ⟨sequence, timestamp, status⟩ :=
    flags1_bits message.timestamp.isSome message.status.isSome
  have count : (UInt16.ofNat message.fields.length).toNat = message.fields.length := by
    rw [UInt16.toNat_ofNat', Nat.mod_eq_of_lt counted]
  have kept : (readWhen (message.flags1 &&& 0x10 ≠ 0) (do return some (← readStatus)) none).Reads
      (message.status.map highHalf) (message.status.elim [] writeStatus) := by
    refine readWhen_reads (fun here => ?_) fun absent => ?_
    · obtain ⟨value, same⟩ := Option.isSome_iff_exists.mp (status.mp here)
      rw [same]
      exact (readStatus_reads value).map (.pure _)
    · have missing := Option.not_isSome_iff_eq_none.mp fun here => absent (status.mpr here)
      rw [missing]
      exact ⟨rfl, rfl⟩
  refine (readU8_singleton _).bind ?_
  refine (readWhen_reads (fun _ => readU16_writeU16 _) fun absent => absurd sequence absent).bind ?_
  refine (readOption_reads timestamp lawful.timestamp).bind (kept.bind ?_)
  refine (readU16_writeU16 _).bind ?_
  rw [count]
  rw [if_neg (Nat.not_lt.mpr allowed)]
  exact (readTimes_encodeEach lawful.variant each).map (.pure _)

end UadpDataSetMessage

/-! ### Network messages -/

structure DatasetLimits.Allow (limits : DatasetLimits) (message : UadpNetworkMessage C) : Prop where
  messages : message.datasetMessages.length ≤ limits.maxDatasetMessages
  fields : ∀ sent ∈ message.datasetMessages, sent.fields.length ≤ limits.maxDatasetFields
  publisherId : message.publisherId.StringBelow (limits.maxStringLength + 1)

namespace UadpNetworkMessage

open Uadp

def stored (message : UadpNetworkMessage C) : UadpNetworkMessage C :=
  { message with datasetMessages := message.datasetMessages.map UadpDataSetMessage.stored }

def header (message : UadpNetworkMessage C) : UadpHeaderRegion :=
  ⟨message.publisherId, message.writerGroupId, message.networkMessageNumber,
    message.sequenceNumber, message.datasetMessages.map (·.datasetWriterId)⟩

structure Counted (message : UadpNetworkMessage C) : Prop where
  publisherId : message.publisherId.StringBelow 2147483648
  fields : ∀ sent ∈ message.datasetMessages, sent.Counted

variable {message : UadpNetworkMessage C} {limits : DatasetLimits}

/-! The header region. -/

theorem ext1TypeBits_mem (id : PublisherId) : id.ext1TypeBits ∈ ([0, 1, 2, 3, 4] : List UInt8) := by
  cases id <;> simp [PublisherId.ext1TypeBits]

theorem flags_table : ∀ present secured : Bool, ∀ type ∈ ([0, 1, 2, 3, 4] : List UInt8),
    let extended := (if present then type else 0) |||
      (if secured then EXTENDED_SECURITY_HEADER else 0)
    let flags := VERSION ||| (if present then PUBLISHER_ID else 0) |||
      (GROUP_HEADER ||| PAYLOAD_HEADER) ||| (if extended ≠ 0 then EXTENDED_FLAGS1 else 0)
    flags &&& 0x0F = VERSION ∧ (flags &&& EXTENDED_FLAGS1 ≠ 0 ↔ extended ≠ 0) ∧
      ¬ (extended &&& EXTENDED_PICOSECONDS ≠ 0 ∧ extended &&& EXTENDED_TIMESTAMP = 0) ∧
      (flags &&& PUBLISHER_ID ≠ 0 ↔ present) ∧
      (present → extended &&& EXTENDED_PUBLISHER_ID_TYPE = type) ∧
      flags &&& GROUP_HEADER ≠ 0 ∧ flags &&& PAYLOAD_HEADER ≠ 0 ∧
      (extended &&& EXTENDED_SECURITY_HEADER ≠ 0 ↔ secured) := by
  decide +kernel

theorem flags_bits (message : UadpNetworkMessage C) (secured : Bool) :
    let extended := message.extendedFlags1 secured
    let flags := message.flags extended
    flags &&& 0x0F = VERSION ∧ (flags &&& EXTENDED_FLAGS1 ≠ 0 ↔ extended ≠ 0) ∧
      ¬ (extended &&& EXTENDED_PICOSECONDS ≠ 0 ∧ extended &&& EXTENDED_TIMESTAMP = 0) ∧
      (flags &&& PUBLISHER_ID ≠ 0 ↔ message.publisherId ≠ .none) ∧
      (message.publisherId ≠ .none →
        extended &&& EXTENDED_PUBLISHER_ID_TYPE = message.publisherId.ext1TypeBits) ∧
      flags &&& GROUP_HEADER ≠ 0 ∧ flags &&& PAYLOAD_HEADER ≠ 0 ∧
      (extended &&& EXTENDED_SECURITY_HEADER ≠ 0 ↔ secured) := by
  have table := flags_table (decide (message.publisherId ≠ .none)) secured
    message.publisherId.ext1TypeBits (ext1TypeBits_mem _)
  simp only [decide_eq_true_eq] at table
  exact table

theorem decodeGroupHeader_reads (message : UadpNetworkMessage C) :
    decodeGroupHeader.Reads
      (message.writerGroupId, message.networkMessageNumber, message.sequenceNumber)
      message.encodeGroupHeader := by
  refine (readU8_singleton 0x0F).bind ?_
  refine (readWhen_reads (fun _ => readU16_writeU16 _) fun absent => absurd (by decide) absent).bind
    ?_
  refine (readWhen_reads (fun _ => readUInt32_writeU32 0) fun absent =>
    absurd (by decide) absent).bind ?_
  refine (readWhen_reads (fun _ => readU16_writeU16 _) fun absent => absurd (by decide) absent).bind
    ?_
  exact (readWhen_reads (fun _ => readU16_writeU16 _) fun absent =>
    absurd (by decide) absent).map (.pure _)

theorem decodeWriterIds_reads (few : message.datasetMessages.length < 256)
    (allowed : message.datasetMessages.length ≤ limits.maxDatasetMessages) :
    (decodeWriterIds limits).Reads (message.datasetMessages.map (·.datasetWriterId))
      ([.ofNat message.datasetMessages.length] ++
        message.datasetMessages.flatMap fun sent => writeU16 sent.datasetWriterId) := by
  have count : (UInt8.ofNat message.datasetMessages.length).toNat =
      message.datasetMessages.length := by
    rw [UInt8.toNat_ofNat', Nat.mod_eq_of_lt few]
  refine (readU8_singleton _).bind ?_
  rw [count]
  rw [if_neg (Nat.not_lt.mpr allowed)]
  have ids := readTimes_flatMap readU16_writeU16 (message.datasetMessages.map (·.datasetWriterId))
  rwa [length_map, flatMap_map] at ids

variable {security : Option SecurityHeader} {bytes : List UInt8}

theorem encodeHeaderRegion_eq_ok (written : message.encodeHeaderRegion security = .ok bytes) :
    message.datasetMessages.length < 256 ∧ ∃ secured,
      security.elim (.ok []) SecurityHeader.encode = .ok secured ∧
      let extended := message.extendedFlags1 security.isSome
      bytes = [message.flags extended] ++ ((if extended ≠ 0 then [extended] else []) ++
        ((if message.publisherId ≠ .none then message.publisherId.encodeValue else []) ++
          (message.encodeGroupHeader ++ (([.ofNat message.datasetMessages.length] ++
            message.datasetMessages.flatMap fun sent => writeU16 sent.datasetWriterId) ++
              secured)))) := by
  unfold encodeHeaderRegion at written
  by_cases many : 256 ≤ message.datasetMessages.length
  · rw [if_pos many] at written
    cases written
  rw [if_neg many] at written
  obtain ⟨secured, encoded, done⟩ := bind_eq_ok.mp written
  cases done
  exact ⟨by omega, secured, encoded, by simp⟩

theorem length_encodeHeaderRegion (written : message.encodeHeaderRegion security = .ok bytes) :
    bytes.length = message.headerRegionByteLen security := by
  obtain ⟨-, secured, encoded, rfl⟩ := encodeHeaderRegion_eq_ok written
  have header : secured.length = security.elim 0 SecurityHeader.byteLen := by
    cases security with
    | none =>
      cases encoded
      rfl
    | some header => exact SecurityHeader.length_encode encoded
  have publisher : (if message.publisherId ≠ .none then message.publisherId.encodeValue
      else []).length =
        if message.publisherId ≠ .none then message.publisherId.valueByteLen else 0 := by
    split_ifs
    · exact message.publisherId.length_encodeValue
    · rfl
  have extended : ∀ flags : UInt8, (if flags ≠ 0 then [flags] else []).length =
      if flags ≠ 0 then 1 else 0 := by
    intro flags
    split_ifs <;> rfl
  have ids : (message.datasetMessages.flatMap fun sent =>
      writeU16 sent.datasetWriterId).length = message.datasetMessages.length * 2 := by
    rw [length_flatMap]
    show (message.datasetMessages.map fun _ => 2).sum = _
    rw [map_const', sum_replicate_nat]
  have group : message.encodeGroupHeader.length = 11 := rfl
  simp only [length_append, length_singleton, header, publisher, extended, ids, group,
    headerRegionByteLen]
  omega

theorem headerRegion_reads (allowed : limits.Allow message)
    (fits : message.publisherId.StringBelow 2147483648)
    (readable : ∀ header, security = some header → header.Readable)
    (written : message.encodeHeaderRegion security = .ok bytes) :
    (decodeHeaderRegion limits).Reads (message.header, security) bytes := by
  obtain ⟨few, secured, encoded, rfl⟩ := encodeHeaderRegion_eq_ok written
  obtain ⟨version, extends_, picoseconds, publisher, type, group, payload, secures⟩ :=
    message.flags_bits security.isSome
  refine (readU8_singleton _).bind ?_
  rw [if_neg (not_not.mpr version)]
  refine (readWhen_reads (a := message.extendedFlags1 security.isSome) (fun here => ?_)
    fun absent => ?_).bind ?_
  · rw [if_pos (extends_.mp here)]
    exact readU8_singleton _
  · have zero := not_not.mp fun some => absent (extends_.mpr some)
    exact ⟨if_neg (not_not.mpr zero), zero.symm⟩
  rw [if_neg picoseconds]
  refine (readWhen_reads (a := message.publisherId) (fun here => ?_) fun absent => ?_).bind ?_
  · have present := publisher.mp here
    rw [if_pos present, type present]
    exact PublisherId.decodeValue_reads present allowed.publisherId fits
  · have none := not_not.mp fun some => absent (publisher.mpr some)
    exact ⟨if_neg (not_not.mpr none), none.symm⟩
  rw [if_neg group]
  refine (decodeGroupHeader_reads message).bind ?_
  refine (readWhen_reads (fun _ => decodeWriterIds_reads few allowed.messages) fun absent =>
    absurd payload absent).bind ?_
  refine (readWhen_reads (a := security) (fun here => ?_) fun absent => ?_).map
    (.pure _)
  · obtain ⟨header, rfl⟩ := Option.isSome_iff_exists.mp (secures.mp here)
    exact (SecurityHeader.decode_reads (readable header rfl) encoded).map (.pure _)
  · have none := Option.not_isSome_iff_eq_none.mp fun some => absent (secures.mpr some)
    subst none
    cases encoded
    exact ⟨rfl, rfl⟩

/-! The payload region. -/

theorem decodeMessages_reads (lawful : C.RoundTrip) : ∀ {sent : List (UadpDataSetMessage C)}
    {bytes : List UInt8}, (∀ message ∈ sent, message.Counted) →
    (∀ message ∈ sent, message.fields.length ≤ limits.maxDatasetFields) →
    encodeEach UadpDataSetMessage.encode sent = .ok bytes →
    (decodeMessages limits (sent.map (·.datasetWriterId))).Reads
      (sent.map UadpDataSetMessage.stored) bytes
  | [], _, _, _, written => by
    cases written
    exact .pure []
  | message :: sent, _, counted, allowed, written => by
    obtain ⟨front, back, first, rest, rfl⟩ := encodeEach_cons written
    have here := UadpDataSetMessage.decode_reads lawful
      (counted message mem_cons_self) (allowed message mem_cons_self) first
    exact here.bind ((decodeMessages_reads lawful
      (fun other mem => counted other (mem_cons_of_mem message mem))
      (fun other mem => allowed other (mem_cons_of_mem message mem)) rest).map
        (.pure _))

theorem payloadRegion_reads (lawful : C.RoundTrip) (allowed : limits.Allow message)
    (counted : ∀ sent ∈ message.datasetMessages, sent.Counted)
    (written : message.encodePayloadRegion = .ok bytes) :
    (decodePayloadRegion limits message.header).Reads message.stored.datasetMessages bytes :=
  decodeMessages_reads lawful counted allowed.fields written

theorem length_encodePayloadRegion (lawful : C.RoundTrip)
    (written : message.encodePayloadRegion = .ok bytes) :
    bytes.length = message.payloadRegionByteLen :=
  length_encodeEach (fun _ _ _ encoded => UadpDataSetMessage.length_encode lawful encoded) written

/-! The message. -/

theorem encode_eq_ok (written : message.encode = .ok bytes) :
    ∃ front back, message.encodeHeaderRegion none = .ok front ∧
      message.encodePayloadRegion = .ok back ∧ bytes = front ++ back := by
  obtain ⟨front, first, rest⟩ := bind_eq_ok.mp written
  obtain ⟨back, second, done⟩ := bind_eq_ok.mp rest
  cases done
  exact ⟨front, back, first, second, rfl⟩

theorem length_encode (lawful : C.RoundTrip) (written : message.encode = .ok bytes) :
    bytes.length = message.byteLen := by
  obtain ⟨front, back, first, second, rfl⟩ := encode_eq_ok written
  rw [length_append, length_encodeHeaderRegion first, length_encodePayloadRegion lawful second]
  rfl

theorem decode_reads (lawful : C.RoundTrip) (allowed : limits.Allow message)
    (counted : message.Counted) (written : message.encode = .ok bytes) :
    (decode limits).Reads message.stored bytes := by
  obtain ⟨front, back, first, second, rfl⟩ := encode_eq_ok written
  exact (headerRegion_reads allowed counted.publisherId (by rintro _ ⟨⟩) first).bind
    ((payloadRegion_reads lawful allowed counted.fields second).map (.pure _))

/-- **What is written has the size that was reckoned, and is read back** within all limits that
allow the message. -/
def RoundTrips (message : UadpNetworkMessage C) : Prop :=
  ∀ limits : DatasetLimits, limits.Allow message → ∀ bytes, message.encode = .ok bytes →
    bytes.length = message.headerRegionByteLen none + message.payloadRegionByteLen ∧
      decode limits bytes = .ok (message.stored, [])

end UadpNetworkMessage

/-! ### What a decoder can give -/

theorem ite_gives {α : Type} {condition : Prop} [Decidable condition] {first second : Reader α}
    {P : α → Prop} (yes : Gives first P) (no : Gives second P) :
    Gives (if condition then first else second) P := by
  split_ifs
  · exact yes
  · exact no

theorem toUtf8_of_fromUtf8 {text : String} (read : fromUtf8 bytes = some text) :
    toUtf8 text = bytes := by
  unfold fromUtf8 String.fromUTF8? at read
  split_ifs at read with valid
  cases read
  unfold toUtf8 ByteArray.toList
  rw [toList_loop]
  rfl

theorem string_gives (options : DecodingOptions) : Gives (UAString.decode options) fun read =>
    ∀ text, read = some text → (toUtf8 text).length < 2147483648 := by
  refine .bind .readI32 fun len bound => ?_
  split_ifs with null negative beyond
  · exact .pure fun _ absent => nomatch absent
  · exact .fail _
  · exact .fail _
  · refine .bind (P := fun bytes => bytes.length = len.toNat) (fun input bytes rest run => ?_)
      fun bytes length => ?_
    · unfold readExact at run
      split_ifs at run with short
      cases run
      rw [length_take, Nat.min_eq_left (Nat.le_of_not_lt short)]
    · split
      · refine .pure fun text same => ?_
        cases same
        rw [toUtf8_of_fromUtf8 ‹_›, length]
        omega
      · exact .fail _

theorem PublisherId.gives (limits : DatasetLimits) (typeBits : UInt8) :
    Gives (decodeValue limits typeBits) fun id => id.StringBelow 2147483648 := by
  unfold decodeValue
  split_ifs
  · exact .bind (.any _) fun _ _ => .pure trivial
  · exact .bind (.any _) fun _ _ => .pure trivial
  · exact .bind (.any _) fun _ _ => .pure trivial
  · exact .bind (.any _) fun _ _ => .pure trivial
  · refine .bind (string_gives _) fun read short => .pure ?_
    cases read with
    | none =>
      show (toUtf8 "[null]").length < _
      rw [length_toUtf8]
      decide
    | some text => exact short text rfl
  · exact .fail _

namespace UadpDataSetMessage

/-- What a decoder gives: fields that are counted and within the limit, and a status that was sent
as a half. -/
structure Received (limits : DatasetLimits) (message : UadpDataSetMessage C) : Prop where
  counted : message.Counted
  allowed : message.fields.length ≤ limits.maxDatasetFields
  whole : message.stored = message

theorem readStatus_gives : Gives readStatus fun status => highHalf status = status := by
  refine .bind (.any _) fun value _ => .pure ?_
  have bound := value.toNat_lt
  unfold highHalf
  rw [BitVec.toNat_ofNat, Nat.mod_eq_of_lt (by omega), Nat.mul_div_cancel _ (by decide)]

theorem gives (limits : DatasetLimits) : Gives (decode limits (C := C)) (Received limits) := by
  refine .bind (.any _) fun flags1 _ => .bind (.any _) fun sequenceNumber _ =>
    .bind (.any _) fun timestamp _ => ?_
  refine .bind (P := fun status => status.map highHalf = status) (ite_gives ?_ (.pure rfl))
    fun status kept => .bind (.any _) fun count _ => ?_
  · refine .bind readStatus_gives fun status same => .pure ?_
    rw [Option.map_some, same]
  · show Gives (if limits.maxDatasetFields < count.toNat then _ else _) _
    split_ifs with beyond
    · exact .fail _
    · refine .bind (.readTimes _ _) fun fields length => .pure ⟨?_, ?_, ?_⟩
      · show fields.length < 65536
        rw [length]
        exact count.toNat_lt
      · show fields.length ≤ _
        omega
      · show UadpDataSetMessage.mk 0 sequenceNumber timestamp (status.map highHalf) fields = _
        rw [kept]

end UadpDataSetMessage

namespace UadpNetworkMessage

theorem decodeMessages_gives (limits : DatasetLimits) : ∀ ids : List UInt16,
    Gives (decodeMessages limits ids (C := C)) fun read =>
      read.length = ids.length ∧ ∀ sent ∈ read, sent.Received limits
  | [] => .pure ⟨rfl, nofun⟩
  | id :: ids => by
    refine .bind (UadpDataSetMessage.gives limits) fun read here =>
      .bind (decodeMessages_gives limits ids) fun others rest => .pure ⟨?_, ?_⟩
    · rw [length_cons, length_cons, rest.1]
    · rw [forall_mem_cons]
      refine ⟨⟨here.counted, here.allowed, ?_⟩, rest.2⟩
      have same := congrArg (fun message => { message with datasetWriterId := id }) here.whole
      exact same

theorem header_gives (limits : DatasetLimits) : Gives (decodeHeaderRegion limits) fun read =>
    read.1.publisherId.StringBelow 2147483648 ∧
      read.1.datasetWriterIds.length ≤ limits.maxDatasetMessages := by
  refine .bind (.any _) fun flags _ => ite_gives (.fail _) ?_
  refine .bind (.any _) fun extended _ => ite_gives (.fail _) ?_
  refine .bind (ite_gives (PublisherId.gives limits _) (.pure trivial)) fun publisherId short => ?_
  refine ite_gives (.fail _) (.bind (.any _) fun group _ => ?_)
  refine .bind (P := fun ids => ids.length ≤ limits.maxDatasetMessages)
    (ite_gives ?_ (.pure (Nat.zero_le _))) fun ids few => .bind (.any _) fun security _ =>
      .pure ⟨short, few⟩
  refine .bind (.any _) fun count _ => ?_
  show Gives (if limits.maxDatasetMessages < count.toNat then _ else _) _
  split_ifs with beyond
  · exact .fail _
  · intro input ids rest run
    rw [Gives.readTimes _ _ input ids rest run]
    omega

/-- **What a decoder gives:** counts that fit and are within the limits, and statuses that were sent
as halves. -/
theorem regions_give {limits : DatasetLimits} {region : UadpHeaderRegion}
    {security : Option SecurityHeader} {bytes rest body trailing : List UInt8}
    {sent : List (UadpDataSetMessage C)}
    (header : decodeHeaderRegion limits bytes = .ok ((region, security), rest))
    (payload : decodePayloadRegion limits region body = .ok (sent, trailing)) :
    region.publisherId.StringBelow 2147483648 ∧ sent.length ≤ limits.maxDatasetMessages ∧
      ∀ message ∈ sent, message.Received limits := by
  obtain ⟨short, few⟩ := header_gives limits _ _ _ header
  obtain ⟨length, received⟩ := decodeMessages_gives limits _ _ _ _ payload
  exact ⟨short, length ▸ few, received⟩

theorem decode_gives (limits : DatasetLimits) : Gives (decode limits (C := C)) Counted := by
  refine .bind (header_gives limits) fun read header =>
    .bind (decodeMessages_gives limits read.1.datasetWriterIds) fun sent received => .pure ?_
  exact ⟨header.1, fun message mem => (received.2 message mem).counted⟩

end UadpNetworkMessage

/-! ### What a decoder refuses -/

/-- The reader fails on the bytes, whatever follows them. -/
def Refuses {α : Type} (reader : Reader α) (bytes : List UInt8) : Prop :=
  ∀ rest, ∃ error, reader (bytes ++ rest) = .error error

variable {α β : Type}

theorem Refuses.first {first : Reader α} {next : α → Reader β}
    {front back : List UInt8} (refused : Refuses first front) :
    Refuses (first >>= next) (front ++ back) := by
  intro rest
  obtain ⟨error, failed⟩ := refused (back ++ rest)
  rw [append_assoc]
  exact ⟨error, Reader.bind_error failed⟩

theorem Refuses.only {first : Reader α} {next : α → Reader β}
    (refused : Refuses first bytes) : Refuses (first >>= next) bytes := by
  have whole : Refuses (first >>= next) (bytes ++ []) := refused.first
  rwa [append_nil] at whole

theorem Refuses.after {first : Reader α} {next : α → Reader β} {a : α}
    {front back : List UInt8} (read : first.Reads a front) (refused : Refuses (next a) back) :
    Refuses (first >>= next) (front ++ back) := by
  intro rest
  obtain ⟨error, failed⟩ := refused rest
  rw [append_assoc, Reader.bind_ok (read (back ++ rest))]
  exact ⟨error, failed⟩

theorem string_refuses {options : DecodingOptions} {text : String}
    (long : options.maxStringLength < (toUtf8 text).length)
    (fits : (toUtf8 text).length < 2147483648) :
    Refuses (UAString.decode options) (UAString.encode (some text)) := by
  show Refuses _ (writeU32 (toUtf8 text).length ++ toUtf8 text)
  rw [writeU32_eq_writeI32 fits]
  refine .after (readI32_writeI32 (by omega) (by omega)) ?_
  rw [if_neg (by omega), if_neg (by omega), if_pos (by omega)]
  exact fun rest => ⟨_, rfl⟩

theorem UadpNetworkMessage.allowed_of_headerRegion {message : UadpNetworkMessage C}
    {limits : DatasetLimits} {security : Option SecurityHeader} {rest : List UInt8}
    {read : UadpHeaderRegion × Option SecurityHeader} {left : List UInt8}
    (fits : message.publisherId.StringBelow 2147483648)
    (written : message.encodeHeaderRegion security = .ok bytes)
    (decoded : decodeHeaderRegion limits (bytes ++ rest) = .ok (read, left)) :
    message.publisherId.StringBelow (limits.maxStringLength + 1) := by
  by_contra long
  suffices refused : Refuses (decodeHeaderRegion limits) bytes by
    obtain ⟨error, failed⟩ := refused rest
    rw [failed] at decoded
    cases decoded
  obtain ⟨few, secured, encoded, rfl⟩ := encodeHeaderRegion_eq_ok written
  obtain ⟨version, extends_, picoseconds, publisher, type, -⟩ :=
    message.flags_bits security.isSome
  refine .after (readU8_singleton _) ?_
  rw [if_neg (not_not.mpr version)]
  refine .after (readWhen_reads (a := message.extendedFlags1 security.isSome) (fun here => ?_)
    fun absent => ?_) ?_
  · rw [if_pos (extends_.mp here)]
    exact readU8_singleton _
  · have zero := not_not.mp fun some => absent (extends_.mpr some)
    exact ⟨if_neg (not_not.mpr zero), zero.symm⟩
  rw [if_neg picoseconds]
  refine .first ?_
  cases id : message.publisherId with
  | string text =>
    rw [id] at long fits type publisher
    have present := publisher.mpr nofun
    unfold readWhen
    rw [if_pos present, type nofun, if_pos nofun]
    have beyond : limits.maxStringLength + 1 ≤ (toUtf8 text).length := Nat.le_of_not_lt long
    exact (string_refuses beyond fits).only
  | _ =>
    rw [id] at long
    exact absurd trivial long

/-! ### Which messages are read back -/

namespace UadpNetworkMessage

def Refused (message : UadpNetworkMessage C) : Prop :=
  256 ≤ message.datasetMessages.length ∨
    ∃ sent ∈ message.datasetMessages, ∃ field ∈ sent.fields, ∀ bytes,
      C.encodeVariant field ≠ .ok bytes

variable {message : UadpNetworkMessage C}

theorem encode_isOk (accepted : ¬ message.Refused) : ∃ bytes, message.encode = .ok bytes := by
  unfold Refused at accepted
  push Not at accepted
  obtain ⟨few, each⟩ := accepted
  have header : ∃ front, message.encodeHeaderRegion none = .ok front := by
    unfold encodeHeaderRegion
    rw [if_neg (by omega)]
    exact ⟨_, rfl⟩
  have payload : ∃ back, message.encodePayloadRegion = .ok back := by
    refine encodeEach_isOk fun sent mem => ?_
    obtain ⟨fields, encoded⟩ := encodeEach_isOk (each sent mem)
    exact ⟨_, bind_eq_ok.mpr ⟨fields, encoded, rfl⟩⟩
  obtain ⟨front, first⟩ := header
  obtain ⟨back, second⟩ := payload
  exact ⟨front ++ back, bind_eq_ok.mpr ⟨front, first, bind_eq_ok.mpr ⟨back, second, rfl⟩⟩⟩

theorem refused_of_encode (many : message.Refused) (bytes : List UInt8) :
    message.encode ≠ .ok bytes := by
  intro written
  obtain ⟨front, back, first, second, rfl⟩ := encode_eq_ok written
  obtain many | ⟨sent, mem, field, here, fails⟩ := many
  · have few := (encodeHeaderRegion_eq_ok first).1
    omega
  · obtain ⟨body, encoded⟩ := encodeEach_mem second mem
    obtain ⟨fields, each, -⟩ := UadpDataSetMessage.encode_eq_ok encoded
    obtain ⟨value, written⟩ := encodeEach_mem each here
    exact fails value written

def limitsOf (message : UadpNetworkMessage C) : DatasetLimits where
  maxMessageSize := 0
  maxStringLength := message.publisherId.valueByteLen
  maxByteStringLength := 0
  maxDatasetFields := (message.datasetMessages.map (·.fields.length)).sum
  maxDatasetMessages := message.datasetMessages.length

theorem limitsOf_allow (message : UadpNetworkMessage C) : message.limitsOf.Allow message where
  messages := Nat.le_refl _
  fields sent mem := le_sum_of_mem (mem_map_of_mem mem)
  publisherId := by
    unfold limitsOf
    cases message.publisherId with
    | string value =>
      show (toUtf8 value).length < 4 + (toUtf8 value).length + 1
      omega
    | _ => trivial

theorem counted_of_roundTrips (accepted : ¬ message.Refused) (kept : message.RoundTrips) :
    message.Counted := by
  obtain ⟨bytes, written⟩ := encode_isOk accepted
  obtain ⟨-, read⟩ := kept message.limitsOf message.limitsOf_allow bytes written
  obtain ⟨short, counted⟩ := decode_gives message.limitsOf bytes message.stored [] read
  refine ⟨short, fun sent mem => ?_⟩
  exact counted sent.stored (mem_map_of_mem mem)

/-- **A message is read back exactly if it has no encoding or its counts fit.** -/
theorem roundTrips_iff (lawful : C.RoundTrip) (message : UadpNetworkMessage C) :
    message.RoundTrips ↔ message.Refused ∨ message.Counted := by
  constructor
  · intro kept
    by_cases refused : message.Refused
    · exact .inl refused
    · exact .inr (counted_of_roundTrips refused kept)
  · rintro (refused | counted) limits allowed bytes written
    · exact absurd written (refused_of_encode refused bytes)
    · have read := decode_reads lawful allowed counted written []
      rw [append_nil] at read
      exact ⟨length_encode lawful written, read⟩

end UadpNetworkMessage

/-! ### Bytes as fields -/

def byteFields : FieldCodecs where
  Timestamp := UInt64
  Variant := UInt8
  encodeTimestamp := writeU64
  decodeTimestamp := readU64
  variantByteLen _ := 2
  encodeVariant value := .ok [3, value]
  decodeVariant := do
    let mask ← readU8
    if mask = 3 then readU8 else .fail (.decoding "Unrecognized encoding mask")

theorem byteFields_roundTrip : byteFields.RoundTrip where
  timestamp_length _ := rfl
  timestamp := readU64_writeU64
  variant_length := by
    rintro value bytes ⟨⟩
    rfl
  variant := by
    rintro value bytes ⟨⟩ rest
    rfl

def temperatures : UadpNetworkMessage byteFields where
  publisherId := .string "press"
  writerGroupId := 7
  networkMessageNumber := 1
  sequenceNumber := 65535
  datasetMessages := [⟨10, 3, none, some StatusCode.BadInternalError,
      [(21 : UInt8), (22 : UInt8)]⟩,
    ⟨11, 4, some (132000000000000000 : UInt64), none, []⟩]

theorem counted_temperatures : temperatures.Counted where
  publisherId := by
    show (toUtf8 "press").length < 2147483648
    decide +kernel
  fields := by
    show ∀ sent ∈ temperatures.datasetMessages, sent.fields.length < 65536
    decide

theorem roundTrips_temperatures : temperatures.RoundTrips :=
  (UadpNetworkMessage.roundTrips_iff byteFields_roundTrip temperatures).mpr
    (.inr counted_temperatures)

def wideMessage (count : ℕ) : UadpNetworkMessage byteFields where
  publisherId := .uint16 2025
  writerGroupId := 7
  networkMessageNumber := 0
  sequenceNumber := 1
  datasetMessages := [⟨10, 0, none, none, replicate count (0 : UInt8)⟩]

theorem wide_not_roundTrips {count : ℕ} (wide : 65536 ≤ count) :
    ¬ (wideMessage count).RoundTrips := by
  have accepted : ¬ (wideMessage count).Refused := by
    rintro (many | ⟨sent, -, field, -, fails⟩)
    · have few : (wideMessage count).datasetMessages.length = 1 := rfl
      omega
    · exact fails [3, field] rfl
  intro kept
  have counted := (UadpNetworkMessage.counted_of_roundTrips accepted kept).fields
    ⟨10, 0, none, none, replicate count (0 : UInt8)⟩ mem_cons_self
  have length : (replicate count (0 : UInt8)).length < 65536 := counted
  rw [length_replicate] at length
  omega

/-- **65536 fields are written after a count of 0.** -/
theorem wideMessage_not_roundTrips : ¬ (wideMessage 65536).RoundTrips :=
  wide_not_roundTrips (Nat.le_refl 65536)

end AsyncOpcua.Pubsub
