/-
**Secure channels, the security headers of their chunks, and how much body fits in a chunk.**

What the crypto library computes is a parameter.

* `SecurityHeader.decodeWithKnownPolicy` — read a security header;
* `ChunkInfo` — what the headers of a chunk say, and where its body is.
-/

import AsyncOpcua.Comms.MessageChunk
import AsyncOpcua.Comms.SecurityPolicy

namespace AsyncOpcua.Comms

open Types List Reader.Reads UAString

/-- **What the crypto library computes.** Encryption and decryption are told how much room there is
for their result. -/
structure Crypto where
  /-- `AesDerivedKeys`. -/
  AesDerivedKeys : Type
  symmetricSign : SecurityPolicy → AesDerivedKeys → List UInt8 → Except Error (List UInt8)
  symmetricVerifySignature : SecurityPolicy → AesDerivedKeys → List UInt8 → List UInt8 →
    Except Error Unit
  symmetricEncrypt : SecurityPolicy → AesDerivedKeys → List UInt8 → ℕ → Except Error (List UInt8)
  symmetricDecrypt : SecurityPolicy → AesDerivedKeys → List UInt8 → ℕ → Except Error (List UInt8)
  /-- The size of the public key of a certificate. -/
  publicKeySize : List UInt8 → Except Error ℕ
  thumbprint : List UInt8 → List UInt8

structure SecureChannel (C : Crypto) where
  isClientRole : Bool
  securityPolicy : SecurityPolicy
  securityMode : MessageSecurityMode
  secureChannelId : ℕ
  tokenId : ℕ
  cert : Option (List UInt8)
  privateKeySize : Option ℕ
  remoteCert : Option (List UInt8)
  remoteKeys : ℕ → Option C.AesDerivedKeys
  localKeys : Option C.AesDerivedKeys
  peerMaxResponseBodySize : Option ℕ
  decodingOptions : DecodingOptions
  securityPolicyValid : Bool
  /-- The ids are `u32`s. -/
  words : secureChannelId < u32Size ∧ tokenId < u32Size

theorem words_one : 1 < u32Size ∧ 1 < u32Size := by decide

/-! ### Headers -/

structure SymmetricSecurityHeader where
  tokenId : ℕ

structure AsymmetricSecurityHeader where
  securityPolicyUri : UAString
  senderCertificate : ByteString
  receiverCertificateThumbprint : ByteString

inductive SecurityHeader where
  | asymmetric (header : AsymmetricSecurityHeader)
  | symmetric (header : SymmetricSecurityHeader)

structure SequenceHeader where
  sequenceNumber : ℕ
  requestId : ℕ

def SECURITY_POLICY_URI_MAX_LEN : ℕ := 255

def MAX_CERTIFICATE_LENGTH : ℕ := 32767

def THUMBPRINT_SIZE : ℕ := 20

/-- The length of a string or of bytes that can be null, with the four bytes for the length. -/
def optionByteLen (bytes : Option (List UInt8)) : ℕ := 4 + (bytes.map length).getD 0

namespace SequenceHeader

def byteLen (_ : SequenceHeader) : ℕ := 8

def encode (header : SequenceHeader) : List UInt8 :=
  writeU32 header.sequenceNumber ++ writeU32 header.requestId

def decode : Reader SequenceHeader := do
  let sequenceNumber ← readU32
  let requestId ← readU32
  return { sequenceNumber, requestId }

theorem decode_encode (header : SequenceHeader) :
    decode.Reads ⟨header.sequenceNumber % u32Size, header.requestId % u32Size⟩ header.encode := by
  refine (readU32_writeU32 header.sequenceNumber).bind ?_
  exact (readU32_writeU32 header.requestId).map (pure _)

end SequenceHeader

/-- `decode_security_policy_uri`. Where the bytes are not UTF-8 the source adds the place to the
error. -/
def decodeSecurityPolicyUri (options : DecodingOptions) : Reader UAString := do
  let len ← readI32
  if len = -1 then return none
  else if len < -1 then
    .fail (.decoding s!"SecurityPolicyUriLength is a negative number {len}")
  else if SECURITY_POLICY_URI_MAX_LEN < len.toNat then
    .fail (.new StatusCode.BadEncodingLimitsExceeded
      s!"SecurityPolicyUriLength {len} exceeds maximum size {SECURITY_POLICY_URI_MAX_LEN}")
  else if options.maxStringLength < len.toNat then
    .fail (.decoding
      s!"SecurityPolicyUriLength {len} exceeds decoding limit {options.maxStringLength}")
  else
    let text ← readExact len.toNat
    match fromUtf8 text with
    | some value => return some value
    | none => .fail (.decoding "Decoded SecurityPolicyUri was not valid UTF-8")

namespace AsymmetricSecurityHeader

def none : AsymmetricSecurityHeader := ⟨some SecurityPolicy.none.toUri, Option.none, Option.none⟩

def new (policy : SecurityPolicy) (senderCertificate receiverCertificateThumbprint : ByteString) :
    AsymmetricSecurityHeader :=
  ⟨some policy.toUri, senderCertificate, receiverCertificateThumbprint⟩

def byteLen (header : AsymmetricSecurityHeader) : ℕ :=
  optionByteLen (header.securityPolicyUri.map toUtf8) + optionByteLen header.senderCertificate +
    optionByteLen header.receiverCertificateThumbprint

def encode (header : AsymmetricSecurityHeader) : List UInt8 :=
  UAString.encode header.securityPolicyUri ++ ByteString.encode header.senderCertificate ++
    ByteString.encode header.receiverCertificateThumbprint

def decode (options : DecodingOptions) : Reader AsymmetricSecurityHeader := do
  let securityPolicyUri ← decodeSecurityPolicyUri options
  let senderCertificate ← ByteString.decode options
  let receiverCertificateThumbprint ← ByteString.decode options
  let certificateLength := (senderCertificate.map length).getD 0
  let thumbprintLength := (receiverCertificateThumbprint.map length).getD 0
  if MAX_CERTIFICATE_LENGTH ≤ certificateLength then
    .fail (.new StatusCode.BadEncodingLimitsExceeded
      s!"Sender certificate has length {certificateLength}, which exceeds max certificate size {MAX_CERTIFICATE_LENGTH}")
  else if 0 < thumbprintLength ∧ thumbprintLength ≠ THUMBPRINT_SIZE then
    .fail (.decoding
      s!"Receiver certificate thumbprint is not 20 bytes long, {thumbprintLength} bytes")
  else return { securityPolicyUri, senderCertificate, receiverCertificateThumbprint }

end AsymmetricSecurityHeader

namespace SecurityHeader

def byteLen : SecurityHeader → ℕ
  | .asymmetric header => header.byteLen
  | .symmetric _ => 4

def encode : SecurityHeader → List UInt8
  | .asymmetric header => header.encode
  | .symmetric header => writeU32 header.tokenId

def policyOf (uri : UAString) (knownPolicy : Option SecurityPolicy) : SecurityPolicy :=
  if uri.getD "" = "" then .none
  else
    match knownPolicy with
    | some known => if uri.getD "" = known.toUri then known else .unknown
    | none => .fromUri (uri.getD "")

/-- `{:?}` of a string that can be null. -/
def debugString (value : UAString) : String :=
  "UAString \x7b value: " ++ (match value with
    | some text => s!"Some({text.quote})"
    | none => "None") ++ " \x7d"

def decodeWithKnownPolicy (isOpenSecureChannel : Bool) (options : DecodingOptions)
    (knownPolicy : Option SecurityPolicy) : Reader SecurityHeader := do
  if isOpenSecureChannel then
    let header ← AsymmetricSecurityHeader.decode options
    if policyOf header.securityPolicyUri knownPolicy = .unknown then
      .fail (.new StatusCode.BadSecurityPolicyRejected
        s!"Security policy of chunk is unknown, policy = {debugString header.securityPolicyUri}")
    else return .asymmetric header
  else
    let tokenId ← readU32
    return .symmetric ⟨tokenId⟩

end SecurityHeader

/-! ### Channels -/

variable {C : Crypto}

namespace SecureChannel

def knownPolicy (channel : SecureChannel C) : Option SecurityPolicy :=
  if channel.securityPolicyValid then some channel.securityPolicy else none

def makeSecurityHeader (channel : SecureChannel C) : MessageChunkType → SecurityHeader
  | .openSecureChannel =>
    if channel.securityPolicy = .none then .asymmetric .none
    else .asymmetric (.new channel.securityPolicy channel.cert
      (channel.remoteCert.map C.thumbprint))
  | .message | .closeSecureChannel => .symmetric ⟨channel.tokenId⟩

def signatureSize (channel : SecureChannel C) : SecurityHeader → ℕ
  | .asymmetric header =>
    if channel.securityPolicy.isEcc then channel.privateKeySize.getD 0
    else
      match header.senderCertificate with
      | some cert => (C.publicKeySize cert).toOption.getD 0
      | none => 0
  | .symmetric _ => channel.securityPolicy.symmetricSignatureSize

def getPaddingBlockSizes (channel : SecureChannel C) (securityHeader : SecurityHeader)
    (messageType : MessageChunkType) : Except Error PaddingInfo :=
  if channel.securityPolicy = .none ∨
      channel.securityMode ≠ .signAndEncrypt ∧ ¬ messageType.isOpenSecureChannel then .ok ⟨0, 0⟩
  else
    match securityHeader with
    | .asymmetric header =>
      match header.senderCertificate, channel.remoteCert with
      | none, _ => .ok ⟨channel.securityPolicy.plainBlockSize, 1⟩
      | some _, none => .error (.new StatusCode.BadCertificateInvalid
        "Missing server certificate, this is required for asymmetric encryption")
      | some _, some cert =>
        (C.publicKeySize cert).map channel.securityPolicy.asymmetricPaddingInfo
    | .symmetric _ => .ok channel.securityPolicy.symmetricPaddingInfo

end SecureChannel

/-! ### Chunks -/

structure ChunkInfo where
  messageHeader : MessageChunkHeader
  securityHeader : SecurityHeader
  sequenceHeader : SequenceHeader
  bodyOffset : ℕ
  bodyLength : ℕ

def decodeHeaders (channel : SecureChannel C) :
    Reader (MessageChunkHeader × SecurityHeader × SequenceHeader) := do
  let messageHeader ← MessageChunkHeader.decode
  let securityHeader ← SecurityHeader.decodeWithKnownPolicy
    messageHeader.messageType.isOpenSecureChannel channel.decodingOptions channel.knownPolicy
  let sequenceHeader ← SequenceHeader.decode
  return (messageHeader, securityHeader, sequenceHeader)

/-- The headers of a chunk, with a body of some size. -/
def encodeHeaders (messageHeader : MessageChunkHeader) (securityHeader : SecurityHeader)
    (sequenceHeader : SequenceHeader) : List UInt8 :=
  messageHeader.encode ++ securityHeader.encode ++ sequenceHeader.encode

namespace MessageChunk

def chunkInfo (channel : SecureChannel C) (chunk : MessageChunk) : Except Error ChunkInfo :=
  (decodeHeaders channel chunk.data).map fun (headers, body) =>
    { messageHeader := headers.1, securityHeader := headers.2.1, sequenceHeader := headers.2.2
      bodyOffset := chunk.data.length - body.length, bodyLength := body.length }

/-- **How much body fits in a chunk.** Sums do not overflow a `usize`: headers are short. -/
def bodySizeFromMessageSize (messageType : MessageChunkType) (channel : SecureChannel C)
    (maxChunkSize : ℕ) : Except Error ℕ :=
  if maxChunkSize < MIN_CHUNK_SIZE then
    .error (.new StatusCode.BadTcpInternalError
      s!"chunk size {maxChunkSize} is less than minimum allowed by the spec")
  else
    let securityHeader := channel.makeSecurityHeader messageType
    let headerSize := MESSAGE_CHUNK_HEADER_SIZE + securityHeader.byteLen +
      (SequenceHeader.mk 0 0).byteLen
    let signatureSize := channel.signatureSize securityHeader
    match channel.getPaddingBlockSizes securityHeader messageType with
    | .error error => .error error
    | .ok padding =>
      let alignedMaxChunkSize :=
        if 0 < padding.blockSize then maxChunkSize - maxChunkSize % padding.blockSize
        else maxChunkSize
      let overhead := headerSize + signatureSize + padding.minimumPadding
      if overhead < alignedMaxChunkSize then .ok (alignedMaxChunkSize - overhead)
      else .error (.new StatusCode.BadTcpInternalError
        s!"chunk headers/signature/padding ({overhead}) do not leave room for a message body in the negotiated chunk size ({alignedMaxChunkSize})")

theorem bodySizeFromMessageSize_spec {messageType : MessageChunkType} {channel : SecureChannel C}
    {maxChunkSize size : ℕ}
    (sized : bodySizeFromMessageSize messageType channel maxChunkSize = .ok size) :
    ∃ padding, channel.getPaddingBlockSizes (channel.makeSecurityHeader messageType) messageType =
        .ok padding ∧ 0 < size ∧
      MESSAGE_CHUNK_HEADER_SIZE + (channel.makeSecurityHeader messageType).byteLen +
          (SequenceHeader.mk 0 0).byteLen +
          channel.signatureSize (channel.makeSecurityHeader messageType) + padding.minimumPadding +
          size = (if 0 < padding.blockSize then maxChunkSize - maxChunkSize % padding.blockSize
            else maxChunkSize) := by
  unfold bodySizeFromMessageSize at sized
  split_ifs at sized
  dsimp only at sized
  split at sized
  · cases sized
  · rename_i padding known
    refine ⟨padding, known, ?_⟩
    split_ifs at sized with aligned room room
    · rw [if_pos aligned]
      have size := Except.ok.inj sized
      omega
    · rw [if_neg aligned]
      have size := Except.ok.inj sized
      omega

def new (sequenceNumber requestId : ℕ) (messageType : MessageChunkType)
    (isFinal : MessageIsFinalType) (channel : SecureChannel C) (data : List UInt8) :
    MessageChunk :=
  let securityHeader := channel.makeSecurityHeader messageType
  let sequenceHeader : SequenceHeader := ⟨sequenceNumber, requestId⟩
  let messageSize := MESSAGE_CHUNK_HEADER_SIZE + securityHeader.byteLen + sequenceHeader.byteLen +
    data.length
  ⟨encodeHeaders ⟨messageType, isFinal, messageSize, channel.secureChannelId⟩ securityHeader
    sequenceHeader ++ data⟩

end MessageChunk

/-! ### Reading headers back -/

theorem length_writeBytes (bytes : Option (List UInt8)) :
    (writeBytes bytes).length = optionByteLen bytes := by
  cases bytes with
  | none => rfl
  | some bytes =>
    rw [writeBytes, length_append, length_writeU32]
    rfl

theorem SecurityHeader.length_encode (header : SecurityHeader) :
    header.encode.length = header.byteLen := by
  cases header with
  | asymmetric header =>
    show header.encode.length = header.byteLen
    unfold AsymmetricSecurityHeader.encode AsymmetricSecurityHeader.byteLen UAString.encode
      ByteString.encode
    rw [length_append, length_append, length_writeBytes, length_writeBytes,
      length_writeBytes]
  | symmetric header => rfl

theorem length_encodeHeaders (messageHeader : MessageChunkHeader) (securityHeader : SecurityHeader)
    (sequenceHeader : SequenceHeader) :
    (encodeHeaders messageHeader securityHeader sequenceHeader).length =
      MESSAGE_CHUNK_HEADER_SIZE + securityHeader.byteLen + sequenceHeader.byteLen := by
  unfold encodeHeaders
  rw [length_append, length_append, messageHeader.length_encode,
    securityHeader.length_encode]
  rfl

theorem length_toUri_none : (toUtf8 SecurityPolicy.none.toUri).length = 47 := by decide +kernel

theorem encode_toUri_none : encode (some SecurityPolicy.none.toUri) =
    writeI32 47 ++ toUtf8 SecurityPolicy.none.toUri := by
  show writeU32 (toUtf8 SecurityPolicy.none.toUri).length ++ _ = _
  rw [length_toUri_none]
  rfl

variable {options : DecodingOptions}

theorem decodeSecurityPolicyUri_none (roomy : 47 ≤ options.maxStringLength) :
    (decodeSecurityPolicyUri options).Reads
      (some SecurityPolicy.none.toUri) (encode (some SecurityPolicy.none.toUri)) := by
  have text : fromUtf8 (toUtf8 SecurityPolicy.none.toUri) = some SecurityPolicy.none.toUri := by
    decide +kernel
  rw [encode_toUri_none]
  refine (readI32_writeI32 (by decide) (by decide)).bind ?_
  rw [if_neg (by decide), if_neg (by decide), if_neg (by decide), if_neg (by simpa using roomy)]
  refine (readExact_self length_toUri_none).map ?_
  rw [text]
  exact pure _

theorem decodeSecurityPolicyUri_none_fails (short : options.maxStringLength < 47)
    (rest : List UInt8) : ∃ error,
      decodeSecurityPolicyUri options (encode (some SecurityPolicy.none.toUri) ++ rest) =
        .error error := by
  rw [encode_toUri_none, append_assoc, decodeSecurityPolicyUri,
    Reader.bind_ok (readI32_writeI32 (by decide) (by decide) _), if_neg (by decide),
    if_neg (by decide), if_neg (by decide), if_pos (by simpa using short)]
  exact ⟨_, rfl⟩

theorem AsymmetricSecurityHeader.decode_encode_none (roomy : 47 ≤ options.maxStringLength) :
    (decode options).Reads .none (AsymmetricSecurityHeader.none.encode) := by
  unfold AsymmetricSecurityHeader.encode
  rw [append_assoc]
  refine (decodeSecurityPolicyUri_none roomy).bind ?_
  refine (ByteString.decode_encode_none options).bind ?_
  exact (ByteString.decode_encode_none options).map (pure _)

namespace SecureChannel

def ReadsHeader (channel : SecureChannel C) (messageType : MessageChunkType) : Prop :=
  (SecurityHeader.decodeWithKnownPolicy messageType.isOpenSecureChannel channel.decodingOptions
    channel.knownPolicy).Reads (channel.makeSecurityHeader messageType)
      (channel.makeSecurityHeader messageType).encode

theorem readsHeader_symmetric (channel : SecureChannel C) {messageType : MessageChunkType}
    (symmetric : messageType ≠ .openSecureChannel) : channel.ReadsHeader messageType := by
  have token : (SecurityHeader.decodeWithKnownPolicy false channel.decodingOptions
      channel.knownPolicy).Reads (.symmetric ⟨channel.tokenId⟩) (writeU32 channel.tokenId) := by
    have read := readU32_writeU32 channel.tokenId
    rw [Nat.mod_eq_of_lt channel.words.2] at read
    exact read.map (pure _)
  cases messageType with
  | openSecureChannel => exact absurd rfl symmetric
  | message | closeSecureChannel => exact token

/-- **Without security** the header of a handshake is read back where strings may have 47 bytes. -/
theorem readsHeader_none {channel : SecureChannel C} (plain : channel.securityPolicy = .none)
    {messageType : MessageChunkType} (roomy : messageType = .openSecureChannel →
      47 ≤ channel.decodingOptions.maxStringLength) : channel.ReadsHeader messageType := by
  by_cases symmetric : messageType = .openSecureChannel
  · have known : SecurityHeader.policyOf AsymmetricSecurityHeader.none.securityPolicyUri
        channel.knownPolicy ≠ .unknown := by
      unfold SecurityHeader.policyOf knownPolicy AsymmetricSecurityHeader.none
      rw [plain]
      split_ifs
      · decide
      · decide
      · decide
    have made : channel.makeSecurityHeader messageType = .asymmetric .none := by
      rw [symmetric, makeSecurityHeader, if_pos plain]
    unfold ReadsHeader
    rw [made, symmetric]
    refine (AsymmetricSecurityHeader.decode_encode_none (roomy symmetric)).map ?_
    rw [if_neg known]
    exact pure _
  · exact channel.readsHeader_symmetric symmetric

end SecureChannel

variable {channel : SecureChannel C}

theorem reads_headers {messageType : MessageChunkType} (reads : channel.ReadsHeader messageType)
    (isFinal : MessageIsFinalType) (messageSize : ℕ) (sequenceHeader : SequenceHeader) :
    (decodeHeaders channel).Reads
      (⟨messageType, isFinal, messageSize % u32Size, channel.secureChannelId⟩,
        channel.makeSecurityHeader messageType,
        ⟨sequenceHeader.sequenceNumber % u32Size, sequenceHeader.requestId % u32Size⟩)
      (encodeHeaders ⟨messageType, isFinal, messageSize, channel.secureChannelId⟩
        (channel.makeSecurityHeader messageType) sequenceHeader) := by
  have first := MessageChunkHeader.decode_encode
    ⟨messageType, isFinal, messageSize, channel.secureChannelId⟩
  rw [Nat.mod_eq_of_lt channel.words.1] at first
  unfold encodeHeaders
  rw [append_assoc]
  refine first.bind (bind reads ?_)
  exact sequenceHeader.decode_encode.map (pure _)

theorem MessageChunk.chunkInfo_append
    {headers : MessageChunkHeader × SecurityHeader × SequenceHeader} {front : List UInt8}
    (reads : (decodeHeaders channel).Reads headers front) (body : List UInt8) :
    chunkInfo channel ⟨front ++ body⟩ = .ok ⟨headers.1, headers.2.1, headers.2.2, front.length,
      body.length⟩ := by
  unfold chunkInfo
  rw [reads body]
  have offset : (front ++ body).length - body.length = front.length := by
    rw [length_append, Nat.add_sub_cancel]
  exact congrArg (fun offset => Except.ok (ChunkInfo.mk headers.1 headers.2.1 headers.2.2 offset
    body.length)) offset

/-- **The chunk of a handshake is not read** where strings may not have 47 bytes. -/
theorem MessageChunk.chunkInfo_new_fails (plain : channel.securityPolicy = .none)
    (short : channel.decodingOptions.maxStringLength < 47) (sequenceNumber requestId : ℕ)
    (isFinal : MessageIsFinalType) (data : List UInt8) :
    ∃ error, (new sequenceNumber requestId .openSecureChannel isFinal channel data).chunkInfo
      channel = .error error := by
  have made : channel.makeSecurityHeader .openSecureChannel = .asymmetric .none := if_pos plain
  have first := MessageChunkHeader.decode_encode ⟨.openSecureChannel, isFinal,
    MESSAGE_CHUNK_HEADER_SIZE + (SecurityHeader.asymmetric .none).byteLen +
      (SequenceHeader.mk sequenceNumber requestId).byteLen + data.length, channel.secureChannelId⟩
  have text : (SecurityHeader.asymmetric .none).encode =
      encode (some SecurityPolicy.none.toUri) ++
        (ByteString.encode none ++ ByteString.encode none) := append_assoc _ _ _
  unfold chunkInfo new
  dsimp only
  rw [made, encodeHeaders, text, append_assoc, append_assoc, append_assoc,
    decodeHeaders, Reader.bind_ok (first _)]
  obtain ⟨error, failed⟩ := decodeSecurityPolicyUri_none_fails short
    (ByteString.encode none ++ ByteString.encode none ++
      ((SequenceHeader.mk sequenceNumber requestId).encode ++ data))
  refine ⟨error, congrArg (Except.map _) (Reader.bind_error ?_)⟩
  exact Reader.bind_error (Reader.bind_error failed)

end AsyncOpcua.Comms
