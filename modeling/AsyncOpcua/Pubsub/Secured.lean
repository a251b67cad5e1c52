/-
**Secured messages are read by those who have the key, and made by them.**

A signed message that is not encrypted names token 0, whatever the token of its key set is. It is
read with the key set of token 0 where there is one, and with the first key set otherwise. An
encrypted message names the token of its key set, and is read wherever that key set stands.

* `readable_iff` — who can read a message, and what is accepted at all.
-/

import AsyncOpcua.Pubsub.SecurityCodec
import AsyncOpcua.Pubsub.UadpRoundTrip
import Mathlib.Data.UInt

namespace AsyncOpcua.Pubsub

open Types hiding Variant DataValue
open Encoding (readU16 writeU16 readTimes Forward Gives)
open Comms (SecurityPolicy)
open Foundation.Machine (bind_eq_ok)

/-- **The cryptography is ideal:** verification succeeds exactly on what was signed with the key,
and decryption inverts encryption for the same counter block. -/
structure SymmetricCrypto.Ideal (crypto : SymmetricCrypto) : Prop where
  length_sign : ∀ policy key data,
    (crypto.sign policy key data).length = policy.symmetricSignatureSize
  verify_iff : ∀ policy key data signature,
    crypto.verify policy key data signature = .ok () ↔ signature = crypto.sign policy key data
  decrypt_encrypt : ∀ policy key block plaintext ciphertext,
    crypto.encrypt policy key block plaintext = .ok ciphertext →
      crypto.decrypt policy key block ciphertext = .ok plaintext

/-! ### The header is an end of what was read -/

theorem forward_readWhen {α : Type} {present : Prop} [Decidable present] {reader : Reader α}
    {absent : α} (forward : Forward reader) : Forward (readWhen present reader absent) := by
  unfold readWhen
  split_ifs
  · exact forward
  · exact .pure absent

theorem forward_ite {α : Type} {condition : Prop} [Decidable condition] {first second : Reader α}
    (yes : Forward first) (no : Forward second) :
    Forward (if condition then first else second) := by
  split_ifs
  · exact yes
  · exact no

theorem forward_readUInt32 : Forward readUInt32 := Forward.readU32.bind fun _ => .pure _

theorem PublisherId.forward (limits : DatasetLimits) (typeBits : UInt8) :
    Forward (decodeValue limits typeBits) := by
  refine forward_ite (Forward.readU8.bind fun _ => .pure _) ?_
  refine forward_ite (Forward.readU16.bind fun _ => .pure _) ?_
  refine forward_ite (forward_readUInt32.bind fun _ => .pure _) ?_
  refine forward_ite ?_ ?_
  · exact Forward.bind (Forward.readU32.bind fun _ => Forward.readU32.bind fun _ => .pure _)
      fun _ => .pure _
  · exact forward_ite ((Forward.string _).bind fun _ => .pure _) (.fail _)

theorem SecurityHeader.forward : Forward decode := by
  refine Forward.readU8.bind fun flags => forward_ite (.fail _) ?_
  refine forward_readUInt32.bind fun token => Forward.readU8.bind fun nonceLen => ?_
  refine forward_ite (.fail _) ((Forward.readExact _).bind fun nonce => ?_)
  exact (forward_readWhen Forward.readU16).bind fun _ => .pure _

namespace UadpNetworkMessage

theorem forward_decodeGroupHeader : Forward decodeGroupHeader := by
  refine Forward.readU8.bind fun flags => forward_ite (.fail _) ?_
  refine (forward_readWhen Forward.readU16).bind fun group => ?_
  refine (forward_readWhen forward_readUInt32).bind fun version => ?_
  refine (forward_readWhen Forward.readU16).bind fun number => ?_
  exact (forward_readWhen Forward.readU16).bind fun sequence => .pure _

theorem forward_decodeWriterIds (limits : DatasetLimits) : Forward (decodeWriterIds limits) :=
  Forward.readU8.bind fun _ => forward_ite (.fail _) (Forward.readU16.readTimes _)

theorem forward_decodeHeaderRegion (limits : DatasetLimits) :
    Forward (decodeHeaderRegion limits) := by
  refine Forward.readU8.bind fun flags => forward_ite (.fail _) ?_
  refine (forward_readWhen Forward.readU8).bind fun extended => forward_ite (.fail _) ?_
  refine (forward_readWhen (PublisherId.forward limits _)).bind fun publisherId => ?_
  refine forward_ite (.fail _) (forward_decodeGroupHeader.bind fun group => ?_)
  refine (forward_readWhen (forward_decodeWriterIds limits)).bind fun ids => ?_
  exact (forward_readWhen (SecurityHeader.forward.bind fun _ => .pure _)).bind fun _ => .pure _

end UadpNetworkMessage

/-! ### What was encoded -/

variable {C : FieldCodecs} {crypto : SymmetricCrypto}

open UadpNetworkMessage

open List

namespace UadpSecurityCodec

def securityHeader (mode : SecuredMode) (keySet : SecurityKeySet) (random : UInt32)
    (message : UadpNetworkMessage C) : SecurityHeader :=
  match mode with
  | .sign => ⟨SIGNED, 0, []⟩
  | .signAndEncrypt =>
    ⟨SIGNED ||| ENCRYPTED, keySet.tokenId, messageNonce random message.sequenceNumber⟩

theorem securityHeader_flags (codec : UadpSecurityCodec) (keySet : SecurityKeySet)
    (random : UInt32) (message : UadpNetworkMessage C) :
    (securityHeader codec.securityMode keySet random message).securityFlags =
      codec.expectedFlags := by
  obtain ⟨mode, policy, keySets⟩ := codec
  cases mode <;> rfl

theorem securityHeader_readable (mode : SecuredMode) (keySet : SecurityKeySet) (random : UInt32)
    (message : UadpNetworkMessage C) :
    (securityHeader mode keySet random message).Readable := by
  cases mode with
  | sign =>
    have plain : SIGNED &&& SecurityHeader.RESERVED = 0 ∧
        SIGNED &&& SecurityHeader.ENCRYPTED = 0 := by decide
    exact ⟨plain.1, fun encrypted => absurd plain.2 encrypted⟩
  | signAndEncrypt =>
    have known : (SIGNED ||| ENCRYPTED) &&& SecurityHeader.RESERVED = 0 := by decide
    exact ⟨known, fun _ => rfl⟩

variable {keySet : SecurityKeySet} {message : UadpNetworkMessage C}

/-- **What an encoded message consists of**, for a receiver of the same mode and policy: it gets the
plain payload region back from the body. -/
theorem encode_eq_ok (codec : UadpSecurityCodec) (ideal : crypto.Ideal)
    {random : UInt32} {payload : List UInt8}
    (encoded : encodeNetworkMessage crypto { codec with keySets := [keySet] } random message =
      .ok payload) :
    let security := securityHeader codec.securityMode keySet random message
    codec.ensureSecurePolicy = .ok () ∧ ∃ header plaintext body block,
      message.encodeHeaderRegion (some security) = .ok header ∧
      message.encodePayloadRegion = .ok plaintext ∧ body.length = plaintext.length ∧
      codec.decodingKeys keySet security.messageNonce = .ok block ∧
      codec.decryptBody crypto keySet block body = .ok plaintext ∧
      payload = (header ++ body) ++
        crypto.sign codec.securityPolicy keySet.signingKey (header ++ body) := by
  obtain ⟨mode, policy, keySets⟩ := codec
  cases mode with
  | sign =>
    obtain ⟨⟨⟩, secure, first⟩ := bind_eq_ok.mp encoded
    obtain ⟨_, ⟨⟩, second⟩ := bind_eq_ok.mp first
    obtain ⟨header, written, third⟩ := bind_eq_ok.mp second
    obtain ⟨body, plain, done⟩ := bind_eq_ok.mp third
    cases done
    exact ⟨secure, header, body, body, [], written, plain, rfl, rfl, rfl, rfl⟩
  | signAndEncrypt =>
    obtain ⟨⟨⟩, secure, first⟩ := bind_eq_ok.mp encoded
    obtain ⟨_, ⟨⟩, second⟩ := bind_eq_ok.mp first
    obtain ⟨block, keys, third⟩ := bind_eq_ok.mp second
    obtain ⟨header, written, fourth⟩ := bind_eq_ok.mp third
    obtain ⟨plaintext, plain, fifth⟩ := bind_eq_ok.mp fourth
    obtain ⟨body, encrypted, sixth⟩ := bind_eq_ok.mp fifth
    by_cases changed : body.length ≠ plaintext.length
    · rw [if_pos changed] at sixth
      cases sixth
    rw [if_neg changed] at sixth
    cases sixth
    have same := not_not.mp changed
    refine ⟨secure, header, plaintext, body, block, written, plain, same, keys, ?_, rfl⟩
    refine bind_eq_ok.mpr ⟨plaintext, ideal.decrypt_encrypt _ _ _ _ _ encrypted, ?_⟩
    exact if_neg (not_not.mpr same.symm)

/-! ### What was accepted -/

/-- **A payload is authentic:** it is a header region, a body and a signature, and nothing else. The
signature was made with one of the keys over all that stands before it, the flags are those of the
mode, and header and body are read to their ends. -/
def Authentic (crypto : SymmetricCrypto) (codec : UadpSecurityCodec) (limits : SecuredLimits)
    (payload : List UInt8) (message : UadpNetworkMessage C) (tokenId : UInt32) : Prop :=
  ∃ keySet ∈ codec.keySets, keySet.tokenId = tokenId ∧
    ∃ header body signature region security plaintext,
      payload = header ++ body ++ signature ∧ signature.length = SIGNATURE_SIZE ∧
      signature = crypto.sign codec.securityPolicy keySet.signingKey (header ++ body) ∧
      decodeHeaderRegion limits.toDatasetLimits payload =
        .ok ((region, some security), body ++ signature) ∧
      security.securityFlags = codec.expectedFlags ∧
      codec.decodeKeySet security = .ok keySet ∧
      (∃ block, codec.decodingKeys keySet security.messageNonce = .ok block ∧
        codec.decryptBody crypto keySet block body = .ok plaintext) ∧
      decodePayloadRegion limits.toDatasetLimits region plaintext =
        .ok (message.datasetMessages, []) ∧
      message = ofRegions region message.datasetMessages

variable {codec : UadpSecurityCodec} {limits : SecuredLimits} {payload : List UInt8}
  {message : UadpNetworkMessage C} {tokenId : UInt32}

variable {security : SecurityHeader} {keySet : SecurityKeySet}

theorem decodeKeySet_mem (found : codec.decodeKeySet security = .ok keySet) :
    keySet ∈ codec.keySets := by
  unfold decodeKeySet at found
  split at found
  · cases found
    exact mem_of_find?_eq_some ‹_›
  · split_ifs at found with signed
    unfold encodingKeySet at found
    split at found
    · cases found
      exact mem_of_head? ‹_›
    · cases found

theorem payload_split {rest : List UInt8} {headerLen : ℕ} (suffix : rest <:+ payload)
    (here : headerLen = payload.length - rest.length)
    (long : headerLen + SIGNATURE_SIZE ≤ payload.length) :
    let start := payload.length - SIGNATURE_SIZE
    let body := (payload.take start).drop headerLen
    let signature := payload.drop start
    payload.take start = payload.take headerLen ++ body ∧
      payload = payload.take headerLen ++ body ++ signature ∧ rest = body ++ signature ∧
      signature.length = SIGNATURE_SIZE := by
  intro start body signature
  have front : payload.take start = payload.take headerLen ++ body := by
    have shorter : headerLen ≤ start := by
      omega
    calc payload.take start = (payload.take start).take headerLen ++ body :=
          (take_append_drop headerLen _).symm
      _ = payload.take headerLen ++ body := by rw [take_take, Nat.min_eq_left shorter]
  have whole : payload = payload.take headerLen ++ body ++ signature := by
    rw [← front, take_append_drop]
  obtain ⟨header, joined⟩ := suffix
  have length : header.length = headerLen := by
    rw [here, ← joined, length_append]
    omega
  have prefix_ : payload.take headerLen = header := by
    rw [← joined, take_left' length]
  refine ⟨front, whole, ?_, ?_⟩
  · rw [prefix_, append_assoc, ← joined] at whole
    exact append_cancel_left whole
  · show (payload.drop (payload.length - SIGNATURE_SIZE)).length = SIGNATURE_SIZE
    rw [length_drop]
    omega

/-- **What a payload is made of that was accepted.** -/
theorem decode_eq_ok (ideal : crypto.Ideal)
    (decoded : codec.decodeNetworkMessageWithToken crypto limits payload = .ok (message, tokenId)) :
    payload.length ≤ limits.maxSecuredPayloadLen ∧
      Authentic crypto codec limits payload message tokenId := by
  unfold decodeNetworkMessageWithToken at decoded
  split_ifs at decoded with beyond
  refine ⟨by omega, ?_⟩
  obtain ⟨⟨⟩, -, first⟩ := bind_eq_ok.mp decoded
  obtain ⟨⟨⟨region, found⟩, rest⟩, header, second⟩ := bind_eq_ok.mp first
  cases found with
  | none => cases second
  | some security =>
    dsimp only at second
    split_ifs at second with flags short
    obtain ⟨keySet, selected, third⟩ := bind_eq_ok.mp second
    obtain ⟨block, keys, fourth⟩ := bind_eq_ok.mp third
    obtain ⟨⟨⟩, verified, fifth⟩ := bind_eq_ok.mp fourth
    obtain ⟨plaintext, decrypted, sixth⟩ := bind_eq_ok.mp fifth
    obtain ⟨⟨sent, trailing⟩, read, seventh⟩ := bind_eq_ok.mp sixth
    dsimp only at seventh
    by_cases more : trailing ≠ []
    · rw [if_pos more] at seventh
      cases seventh
    rw [if_neg more] at seventh
    cases seventh
    have suffix := forward_decodeHeaderRegion _ _ _ _ header
    obtain ⟨front, whole, left, size⟩ := payload_split suffix rfl (Nat.le_of_not_lt short)
    have signed := (ideal.verify_iff _ _ _ _).mp verified
    rw [front] at signed
    rw [left] at header
    rw [not_not.mp more] at read
    exact ⟨keySet, decodeKeySet_mem selected, rfl, _, _, _, region, security, plaintext, whole,
      size, signed, header, not_not.mp flags, selected, ⟨block, keys, decrypted⟩, read, rfl⟩

theorem decode_of_authentic (ideal : crypto.Ideal) (secure : codec.ensureSecurePolicy = .ok ())
    (short : payload.length ≤ limits.maxSecuredPayloadLen)
    (authentic : Authentic crypto codec limits payload message tokenId) :
    codec.decodeNetworkMessageWithToken crypto limits payload = .ok (message, tokenId) := by
  obtain ⟨keySet, -, rfl, header, body, signature, region, security, plaintext, whole, size, signed,
    read, flags, selected, ⟨block, keys, decrypted⟩, sent, same⟩ := authentic
  have start : payload.length - SIGNATURE_SIZE = (header ++ body).length := by
    rw [whole, length_append, size]
    omega
  have headerLen : payload.length - (body ++ signature).length = header.length := by
    rw [whole, append_assoc, length_append]
    omega
  have signedRegion : payload.take (payload.length - SIGNATURE_SIZE) = header ++ body := by
    rw [start, whole, take_left]
  have last : payload.drop (payload.length - SIGNATURE_SIZE) = signature := by
    rw [start, whole, drop_left]
  have middle : (header ++ body).drop (payload.length - (body ++ signature).length) = body := by
    rw [headerLen, drop_left]
  have inside : codec.decodeBody crypto limits payload (payload.length - (body ++ signature).length)
      region security = .ok (message, keySet.tokenId) := by
    unfold decodeBody
    simp only [signedRegion, last, middle]
    refine bind_eq_ok.mpr ⟨keySet, selected, bind_eq_ok.mpr ⟨block, keys, ?_⟩⟩
    refine bind_eq_ok.mpr ⟨(), (ideal.verify_iff _ _ _ _).mpr signed, ?_⟩
    refine bind_eq_ok.mpr ⟨plaintext, decrypted, bind_eq_ok.mpr ⟨_, sent, ?_⟩⟩
    show Except.ok (ofRegions region message.datasetMessages, _) = _
    rw [← same]
  unfold decodeNetworkMessageWithToken
  rw [if_neg (Nat.not_lt.mpr short)]
  refine bind_eq_ok.mpr ⟨(), secure, bind_eq_ok.mpr ⟨_, read, ?_⟩⟩
  dsimp only
  rw [if_neg (not_not.mpr flags), if_neg, inside]
  rw [headerLen, whole, length_append, length_append, size]
  omega

/-! ### Who can read a message -/

def Selected (mode : SecuredMode) (keySet : SecurityKeySet) (candidates : List SecurityKeySet) :
    Prop :=
  match mode with
  | .sign => keySet.tokenId = 0 ∨
    candidates.head? = some keySet ∧ ∀ other ∈ candidates, other.tokenId ≠ 0
  | .signAndEncrypt => True

theorem decodeKeySet_of_found {security : SecurityHeader}
    (found : (codec.keySets.find? fun other => other.tokenId = security.securityTokenId) =
      some keySet) :
    codec.decodeKeySet security = .ok keySet ∧ keySet ∈ codec.keySets ∧
      keySet.tokenId = security.securityTokenId := by
  have same := find?_some found
  refine ⟨?_, mem_of_find?_eq_some found, of_decide_eq_true same⟩
  unfold decodeKeySet
  rw [found]

theorem decodeKeySet_of_missing
    (missing : (codec.keySets.find? fun other => other.tokenId = security.securityTokenId) = none)
    (signed : codec.securityMode = .sign) (zero : security.securityTokenId = 0) :
    codec.decodeKeySet security = codec.encodingKeySet ∧
      ∀ other ∈ codec.keySets, other.tokenId ≠ security.securityTokenId := by
  refine ⟨?_, fun other mem same => find?_eq_none.mp missing other mem (decide_eq_true same)⟩
  unfold decodeKeySet
  rw [missing]
  exact if_pos ⟨signed, zero⟩

theorem encodingKeySet_iff :
    codec.encodingKeySet = .ok keySet ↔ codec.keySets.head? = some keySet := by
  unfold encodingKeySet
  cases codec.keySets.head? with
  | none | some => simp

variable {mode : SecuredMode} {policy : SecurityPolicy} {candidates : List SecurityKeySet}

theorem decodeKeySet_iff (mem : keySet ∈ candidates)
    (distinct : (candidates.map SecurityKeySet.tokenId).Nodup) (random : UInt32)
    (message : UadpNetworkMessage C) :
    decodeKeySet ⟨mode, policy, candidates⟩ (securityHeader mode keySet random message) =
      .ok keySet ↔ Selected mode keySet candidates := by
  set codec : UadpSecurityCodec := ⟨mode, policy, candidates⟩ with made
  set security := securityHeader mode keySet random message with header
  cases found : codec.keySets.find? fun other => other.tokenId = security.securityTokenId with
  | some other =>
    obtain ⟨selected, there, token⟩ := decodeKeySet_of_found found
    rw [selected]
    cases mode with
    | sign =>
      have zero : other.tokenId = 0 := token
      constructor
      · rintro ⟨⟩
        exact .inl zero
      · rintro (here | ⟨-, nonzero⟩)
        · rw [inj_on_of_nodup_map distinct there mem (zero.trans here.symm)]
        · exact absurd zero (nonzero other there)
    | signAndEncrypt =>
      have same : other.tokenId = keySet.tokenId := token
      rw [inj_on_of_nodup_map distinct there mem same]
      exact ⟨fun _ => trivial, fun _ => rfl⟩
  | none =>
    cases mode with
    | sign =>
      obtain ⟨first, nonzero⟩ := decodeKeySet_of_missing found rfl rfl
      rw [first, encodingKeySet_iff]
      constructor
      · intro head
        exact .inr ⟨head, nonzero⟩
      · rintro (zero | ⟨head, -⟩)
        · exact absurd zero (nonzero keySet mem)
        · exact head
    | signAndEncrypt =>
      exact absurd (decide_eq_true rfl) (find?_eq_none.mp found keySet mem)

/-- The lower half of each status is zero. -/
def WholeStatuses (message : UadpNetworkMessage C) : Prop :=
  ∀ sent ∈ message.datasetMessages, sent.stored = sent

theorem stored_eq_self (whole : WholeStatuses message) : message.stored = message := by
  show { message with datasetMessages := message.datasetMessages.map _ } = message
  rw [map_congr_left whole, map_id']

/-- **A receiver can read a message:** it finds the key set, and nothing of the message is cut off
or beyond its limits. -/
structure Readable (mode : SecuredMode) (keySet : SecurityKeySet)
    (candidates : List SecurityKeySet) (limits : SecuredLimits) (random : UInt32)
    (message : UadpNetworkMessage C) : Prop where
  selected : Selected mode keySet candidates
  counted : message.Counted
  statuses : WholeStatuses message
  allowed : limits.toDatasetLimits.Allow message
  short : message.headerRegionByteLen (some (securityHeader mode keySet random message)) +
    message.payloadRegionByteLen + SIGNATURE_SIZE ≤ limits.maxSecuredPayloadLen

theorem signatureSize_of_secure (secure : codec.ensureSecurePolicy = .ok ()) :
    codec.securityPolicy.symmetricSignatureSize = SIGNATURE_SIZE := by
  obtain ⟨mode, policy, keySets⟩ := codec
  cases policy with
  | pubSubAes128Ctr | pubSubAes256Ctr => rfl
  | _ => cases secure

section

variable (lawful : C.RoundTrip) (ideal : crypto.Ideal)
include lawful ideal

theorem decode_of_readable
    (mem : keySet ∈ candidates) (distinct : (candidates.map SecurityKeySet.tokenId).Nodup)
    {random : UInt32}
    (encoded : encodeNetworkMessage crypto ⟨mode, policy, [keySet]⟩ random message = .ok payload)
    (readable : Readable mode keySet candidates limits random message) :
    decodeNetworkMessageWithToken crypto ⟨mode, policy, candidates⟩ limits payload =
      .ok (message, keySet.tokenId) := by
  obtain ⟨secure, header, plaintext, body, block, written, plain, same, keys, decrypted, rfl⟩ :=
    encode_eq_ok ⟨mode, policy, candidates⟩ ideal encoded
  have size := ideal.length_sign policy keySet.signingKey (header ++ body)
  rw [signatureSize_of_secure secure] at size
  have read := headerRegion_reads readable.allowed readable.counted.publisherId
    (by
      rintro _ ⟨⟩
      exact securityHeader_readable mode keySet random message) written
  have sent := payloadRegion_reads lawful readable.allowed
    readable.counted.fields plain []
  rw [append_nil, stored_eq_self readable.statuses] at sent
  refine decode_of_authentic ideal secure ?_ ⟨keySet, mem, rfl, header, body, _, message.header,
    securityHeader mode keySet random message, plaintext, rfl, size, rfl, ?_,
    securityHeader_flags ⟨mode, policy, candidates⟩ keySet random message,
    (decodeKeySet_iff mem distinct random message).mpr readable.selected,
    ⟨block, keys, decrypted⟩, sent, rfl⟩
  · have short := readable.short
    rw [length_append, length_append, size, same,
      length_encodeHeaderRegion written,
      length_encodePayloadRegion lawful plain]
    exact short
  · rw [append_assoc]
    exact read (body ++ _)

theorem readable_of_decode {mode : SecuredMode}
    {policy : SecurityPolicy} {candidates : List SecurityKeySet}
    (mem : keySet ∈ candidates) (distinct : (candidates.map SecurityKeySet.tokenId).Nodup)
    (random : UInt32) (encoded : encodeNetworkMessage crypto ⟨mode, policy, [keySet]⟩ random
      message = .ok payload)
    (decoded : decodeNetworkMessageWithToken crypto ⟨mode, policy, candidates⟩ limits payload =
      .ok (message, keySet.tokenId)) :
    Readable mode keySet candidates limits random message := by
  obtain ⟨secure, header, plaintext, body, block, written, plain, same, keys, decrypted, rfl⟩ :=
    encode_eq_ok ⟨mode, policy, candidates⟩ ideal encoded
  have size := ideal.length_sign policy keySet.signingKey (header ++ body)
  rw [signatureSize_of_secure secure] at size
  obtain ⟨short, found, there, token, _, _, _, region, security, _, -, -, -, read, -, selected, -,
    sent, rebuilt⟩ := decode_eq_ok ideal decoded
  -- The message that came back was made by the decoder, so its counts fit.
  obtain ⟨string, few, received⟩ := regions_give read sent
  have publisherId : message.publisherId = region.publisherId :=
    congrArg publisherId rebuilt
  rw [← publisherId] at string
  rw [append_assoc] at read
  have allowed : limits.toDatasetLimits.Allow message :=
    ⟨few, fun sent mem => (received sent mem).allowed,
      allowed_of_headerRegion string written read⟩
  -- So its header is read as it was written, and the key set found is the one of the header.
  have header_read := headerRegion_reads allowed string
    (by
      rintro _ ⟨⟩
      exact securityHeader_readable mode keySet random message) written
  rw [header_read, Except.ok.injEq, Prod.mk.injEq, Prod.mk.injEq, Option.some.injEq] at read
  rw [← read.1.2] at selected
  have key : found = keySet := inj_on_of_nodup_map distinct there mem token
  rw [key] at selected
  refine ⟨(decodeKeySet_iff mem distinct random message).mp selected,
    ⟨string, fun sent mem => (received sent mem).counted⟩,
    fun sent mem => (received sent mem).whole, allowed, ?_⟩
  rw [length_append, length_append, size, same,
    length_encodeHeaderRegion written,
    length_encodePayloadRegion lawful plain] at short
  exact short

/-- **Who can read a message, and what is accepted.** A receiver that has the key set reads a
message exactly if the key set is found and nothing of the message is cut off or beyond the limits;
and all that any receiver accepts is authentic. -/
theorem readable_iff {mode : SecuredMode}
    {policy : SecurityPolicy} {keySet : SecurityKeySet} {candidates : List SecurityKeySet}
    (mem : keySet ∈ candidates) (distinct : (candidates.map SecurityKeySet.tokenId).Nodup)
    (limits : SecuredLimits) {random : UInt32} {message : UadpNetworkMessage C}
    {payload : List UInt8}
    (encoded : encodeNetworkMessage crypto ⟨mode, policy, [keySet]⟩ random message =
      .ok payload) :
    (decodeNetworkMessageWithToken crypto ⟨mode, policy, candidates⟩ limits payload =
        .ok (message, keySet.tokenId) ↔
      Readable mode keySet candidates limits random message) ∧
    ∀ (codec : UadpSecurityCodec) (limits : SecuredLimits) (payload : List UInt8)
      (received : UadpNetworkMessage C) (tokenId : UInt32),
      codec.decodeNetworkMessageWithToken crypto limits payload = .ok (received, tokenId) →
        Authentic crypto codec limits payload received tokenId := by
  refine ⟨⟨readable_of_decode lawful ideal mem distinct random encoded,
    decode_of_readable lawful ideal mem distinct encoded⟩, ?_⟩
  intro codec limits payload received tokenId decoded
  exact (decode_eq_ok ideal decoded).2

end

/-! ### Two keys -/

/-- A checksum for a signature, and a cipher that flips the bits of the first byte of the key. -/
def checksumCrypto : SymmetricCrypto where
  sign policy key data := replicate policy.symmetricSignatureSize (key ++ data).sum
  verify policy key data signature :=
    if signature = replicate policy.symmetricSignatureSize (key ++ data).sum then .ok ()
    else .error (securityError "Signature invalid")
  encrypt _ key _ plaintext := .ok (plaintext.map (· ^^^ key.headD 0))
  decrypt _ key _ ciphertext := .ok (ciphertext.map (· ^^^ key.headD 0))

theorem checksumCrypto_ideal : checksumCrypto.Ideal where
  length_sign _ _ _ := length_replicate
  verify_iff policy key data signature := by
    show (if _ then _ else _) = _ ↔ signature = replicate _ _
    split_ifs with same
    · exact ⟨fun _ => same, fun _ => rfl⟩
    · exact ⟨nofun, fun here => absurd here same⟩
  decrypt_encrypt := by
    rintro _ key _ plaintext _ ⟨⟩
    show Except.ok ((plaintext.map (· ^^^ key.headD 0)).map (· ^^^ key.headD 0)) = _
    have back : ((· ^^^ key.headD 0) ∘ (· ^^^ key.headD 0) : UInt8 → UInt8) = id := by
      funext byte
      show byte ^^^ key.headD 0 ^^^ key.headD 0 = byte
      rw [UInt8.xor_assoc, UInt8.xor_self, UInt8.xor_zero]
    rw [map_map, back, map_id]

def keySetOf (tokenId : UInt32) (seed : UInt8) : SecurityKeySet where
  tokenId := tokenId
  signingKey := replicate 16 seed
  encryptionKey := replicate 16 seed
  keyNonce := replicate 16 seed
  signs := nofun
  encrypts := nofun
  counts := nofun

def wideLimits : SecuredLimits where
  maxMessageSize := 65536
  maxStringLength := 65536
  maxByteStringLength := 65536
  maxDatasetFields := 64
  maxDatasetMessages := 64
  maxSecuredPayloadLen := 65536

/-- The key set that is next for the receiver is found for an encrypted message. -/
theorem readable_temperatures : ∃ payload,
    encodeNetworkMessage checksumCrypto ⟨.signAndEncrypt, .pubSubAes128Ctr, [keySetOf 2 5]⟩ 9
      temperatures = .ok payload ∧
    decodeNetworkMessageWithToken checksumCrypto
        ⟨.signAndEncrypt, .pubSubAes128Ctr, [keySetOf 1 4, keySetOf 2 5]⟩ wideLimits payload =
      .ok (temperatures, 2) := by
  refine ⟨_, rfl, ?_⟩
  refine (readable_iff byteFields_roundTrip checksumCrypto_ideal
    (mem_cons_of_mem _ mem_cons_self) (by decide) wideLimits rfl).1.mpr ?_
  exact ⟨trivial, counted_temperatures,
    forall_mem_cons.mpr ⟨rfl, forall_mem_cons.mpr ⟨rfl, forall_mem_nil _⟩⟩,
    ⟨by decide, by decide, by
      show (toUtf8 "press").length < 65537
      decide +kernel⟩, by decide +kernel⟩

/-- **A signed message cannot be read by a receiver for which its key set is the next one.** -/
theorem signed_with_next_unread : ∃ payload,
    encodeNetworkMessage checksumCrypto ⟨.sign, .pubSubAes128Ctr, [keySetOf 2 5]⟩ 9
      temperatures = .ok payload ∧
    decodeNetworkMessageWithToken checksumCrypto
      ⟨.sign, .pubSubAes128Ctr, [keySetOf 1 4, keySetOf 2 5]⟩ wideLimits payload ≠
        .ok (temperatures, 2) := by
  refine ⟨_, rfl, fun decoded => ?_⟩
  have readable := readable_of_decode byteFields_roundTrip checksumCrypto_ideal
    (mem_cons_of_mem _ mem_cons_self) (by decide) 9 rfl decoded
  obtain zero | ⟨first, -⟩ := readable.selected
  · exact absurd zero (by decide)
  · exact absurd first (by decide)

end UadpSecurityCodec

end AsyncOpcua.Pubsub
