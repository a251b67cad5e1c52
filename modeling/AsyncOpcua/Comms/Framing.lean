/-
**Applying security to chunks and removing it.**

What the source does to the chunks of handshakes is a parameter: it is asymmetric.

* `SecureChannel.symmetric_round_trip` — a chunk that fits is secured within the size that was
  negotiated, and a peer with the same keys gets it back.
-/

import AsyncOpcua.Comms.Padding

namespace AsyncOpcua.Comms

open Types MessageChunk MessageChunkHeader Or

variable {C : Crypto}

def MessageChunk.isOpenSecureChannel (chunk : MessageChunk) : Bool :=
  match decode chunk.data with
  | .ok (header, _) => header.messageType.isOpenSecureChannel
  | .error _ => false

/-- How many bytes come before the sequence header. -/
def MessageChunk.encryptedDataOffset (options : DecodingOptions) (chunk : MessageChunk) :
    Except Error ℕ := do
  let (messageHeader, rest) ← decode chunk.data
  let (_, rest) ← SecurityHeader.decodeWithKnownPolicy
    messageHeader.messageType.isOpenSecureChannel options none rest
  return chunk.data.length - rest.length

namespace SecureChannel

/-! ### Keys -/

variable (channel : SecureChannel C)

def getLocalKeys : Except StatusCode C.AesDerivedKeys :=
  match channel.localKeys with
  | some keys => .ok keys
  | none => .error StatusCode.BadSecurityChecksFailed

def expectSupportedSecurityPolicy : Except StatusCode Unit :=
  if channel.securityPolicyValid then .ok () else .error StatusCode.BadSecurityPolicyRejected

/-! ### The sender's part -/

def symmetricSignInPlace (buf : List UInt8) (signedEnd : ℕ) :
    Except StatusCode (ℕ × List UInt8) := do
  let signatureSize := channel.securityPolicy.symmetricSignatureSize
  if buf.length < signedEnd then .error StatusCode.BadSecurityChecksFailed
  else if buf.length - signedEnd < signatureSize then .error StatusCode.BadSecurityChecksFailed
  else
    let keys ← channel.getLocalKeys
    let signature ← (C.symmetricSign channel.securityPolicy keys (buf.take signedEnd)).mapError
      Error.status
    return (signedEnd + signatureSize,
      buf.take signedEnd ++ signature ++ buf.drop (signedEnd + signatureSize))

def symmetricSignAndEncrypt (src : List UInt8)
    (signedEnd encryptedStart encryptedEnd room : ℕ) : Except StatusCode (List UInt8) :=
  match channel.securityMode with
  | .none => .ok src
  | .sign => do
    channel.expectSupportedSecurityPolicy
    let (size, src) ← channel.symmetricSignInPlace src signedEnd
    if room < size then .error StatusCode.BadSecurityChecksFailed
    else
      match slice src 0 size with
      | some bytes => return bytes
      | none => .error StatusCode.BadSecurityChecksFailed
  | .signAndEncrypt => do
    channel.expectSupportedSecurityPolicy
    let (_, src) ← channel.symmetricSignInPlace src signedEnd
    let keys ← channel.getLocalKeys
    match slice src encryptedStart encryptedEnd with
    | none => .error StatusCode.BadSecurityChecksFailed
    | some plain =>
      if room < encryptedStart then .error StatusCode.BadSecurityChecksFailed
      else
        let encrypted ← (C.symmetricEncrypt channel.securityPolicy keys plain
          (room - encryptedStart)).mapError Error.status
        return src.take encryptedStart ++ encrypted
  | .invalid => .error StatusCode.BadSecurityModeRejected

def applySecurity
    (asymmetricSignAndEncrypt : List UInt8 → ℕ → ℕ → Except StatusCode (List UInt8))
    (messageChunk : MessageChunk) (room : ℕ) : Except StatusCode (List UInt8) :=
  if channel.securityPolicy ≠ .none ∧
      (channel.securityMode = .sign ∨ channel.securityMode = .signAndEncrypt) then do
    let encryptedDataOffset ←
      (messageChunk.encryptedDataOffset channel.decodingOptions).mapError Error.status
    let data ← (channel.addSpaceForPaddingAndSignatureInto messageChunk).mapError Error.status
    if messageChunk.isOpenSecureChannel then
      asymmetricSignAndEncrypt data encryptedDataOffset room
    else
      channel.symmetricSignAndEncrypt data
        (data.length - channel.securityPolicy.symmetricSignatureSize) encryptedDataOffset
        data.length room
  else if room < messageChunk.data.length then .error StatusCode.BadEncodingLimitsExceeded
  else .ok messageChunk.data

/-! ### The receiver's part -/

def isSecureConnection : Bool :=
  channel.securityPolicy != .none &&
    (channel.securityMode == .sign || channel.securityMode == .signAndEncrypt)

/-- The headers that are not encrypted, and where they end. -/
def decodeMessageHeader (src : List UInt8) :
    Except Error (MessageChunkHeader × SecurityHeader × ℕ) := do
  let (messageHeader, rest) ← decode src
  let (securityHeader, rest) ← SecurityHeader.decodeWithKnownPolicy
    messageHeader.messageType.isOpenSecureChannel channel.decodingOptions channel.knownPolicy rest
  if messageHeader.messageSize ≠ src.length then
    .error (.new StatusCode.BadUnexpectedError
      s!"The message size {messageHeader.messageSize} is not the same as the supplied buffer {src.length}")
  else return (messageHeader, securityHeader, src.length - rest.length)

/-- Where the signed part ends and where the encrypted one starts. -/
def secureMessageRanges (messageSize encryptedDataOffset signatureSize : ℕ) :
    Except Error (ℕ × ℕ) :=
  if messageSize < encryptedDataOffset then
    .error (.new StatusCode.BadSecurityChecksFailed
      s!"Chunk message_size {messageSize} is smaller than the encrypted data offset {encryptedDataOffset}")
  else if messageSize < signatureSize then
    .error (.new StatusCode.BadSecurityChecksFailed
      s!"Chunk message_size {messageSize} is smaller than the {signatureSize}-byte signature")
  else .ok (messageSize - signatureSize, encryptedDataOffset)

def verifySignature (keys : C.AesDerivedKeys) (dst : List UInt8)
    (signedEnd signatureStart signatureEnd : ℕ) : Except Error Unit :=
  match slice dst 0 signedEnd with
  | none => .error (.new StatusCode.BadSecurityChecksFailed "invalid signed range")
  | some signed =>
    match slice dst signatureStart signatureEnd with
    | none => .error (.new StatusCode.BadSecurityChecksFailed "invalid signature range")
    | some signature => C.symmetricVerifySignature channel.securityPolicy keys signed signature

/-- `symmetric_decrypt_and_verify` into a buffer as long as the message: where the body ends, and
the buffer. -/
def symmetricDecryptAndVerify (src : List UInt8)
    (signedEnd encryptedStart encryptedEnd tokenId : ℕ) : Except Error (ℕ × List UInt8) :=
  match channel.securityMode with
  | .none => .ok (src.length, src)
  | .sign => do
    channel.expectSupportedSecurityPolicy.mapError
      (.new · "Unsupported security policy for symmetric verify")
    match channel.remoteKeys tokenId with
    | none => .error (.new StatusCode.BadSecureChannelClosed "Missing verification key")
    | some keys =>
      channel.verifySignature keys src signedEnd signedEnd src.length
      return (signedEnd, src)
  | .signAndEncrypt => do
    channel.expectSupportedSecurityPolicy.mapError
      (.new · "Unsupported security policy for symmetric decrypt")
    match slice src 0 encryptedStart with
    | none => .error (.new StatusCode.BadSecurityChecksFailed "invalid encrypted range")
    | some front =>
      match channel.remoteKeys tokenId with
      | none => .error (.new StatusCode.BadSecureChannelClosed "Missing decryption keys")
      | some keys =>
        match slice src encryptedStart encryptedEnd with
        | none => .error (.new StatusCode.BadSecurityChecksFailed "invalid encrypted range")
        | some encrypted =>
          let decrypted ← C.symmetricDecrypt channel.securityPolicy keys encrypted
            (encryptedEnd - encryptedStart + 16)
          let decryptedEnd := encryptedStart + decrypted.length
          if encryptedEnd < decryptedEnd then
            .error
              (.new StatusCode.BadSecurityChecksFailed "decrypted chunk exceeds message buffer")
          else
            let dst := front ++ decrypted ++ List.replicate (encryptedEnd - decryptedEnd) 0
            if decryptedEnd < channel.securityPolicy.symmetricSignatureSize then
              .error (.new StatusCode.BadSecurityChecksFailed
                "decrypted chunk is smaller than the signature")
            else
              let signatureStart := decryptedEnd - channel.securityPolicy.symmetricSignatureSize
              channel.verifySignature keys dst signedEnd signatureStart decryptedEnd
              let paddingRange ← verifyPadding dst channel.securityPolicy.encryptingKeyLength
                signatureStart
              return (paddingRange.1, dst)
  | .invalid =>
    .error (.new StatusCode.BadSecurityModeRejected "Message security mode is invalid")

def decryptChunk (src : List UInt8) (securityHeader : SecurityHeader)
    (signedEnd encryptedStart encryptedEnd : ℕ) : Except Error MessageChunk :=
  match securityHeader with
  | .asymmetric _ =>
    .error (.new StatusCode.BadUnexpectedError "Expected symmetric security header")
  | .symmetric header => do
    let (decryptedSize, decryptedData) ← channel.symmetricDecryptAndVerify src signedEnd
      encryptedStart encryptedEnd header.tokenId
    let data ← updateMessageSize decryptedData decryptedSize
    return ⟨data.take decryptedSize⟩

/-- **A chunk is decrypted, and its signature and padding are checked.** -/
def verifyAndRemoveSecurity
    (decryptOpenSecureChannel : List UInt8 → SecurityHeader → ℕ → Except Error MessageChunk)
    (src : List UInt8) : Except Error MessageChunk := do
  let (messageHeader, securityHeader, encryptedDataOffset) ← channel.decodeMessageHeader src
  if messageHeader.messageType.isOpenSecureChannel then
    let (_, encryptedStart) ←
      secureMessageRanges messageHeader.messageSize encryptedDataOffset 0
    decryptOpenSecureChannel src securityHeader encryptedStart
  else if channel.isSecureConnection then
    let (signedEnd, encryptedStart) ← secureMessageRanges messageHeader.messageSize
      encryptedDataOffset channel.securityPolicy.symmetricSignatureSize
    channel.decryptChunk src securityHeader signedEnd encryptedStart messageHeader.messageSize
  else return ⟨src⟩

end SecureChannel

/-! ### Chunks that are not of a handshake -/

def openHeaders (header : MessageChunkHeader) (tokenId : ℕ) : List UInt8 :=
  header.encode ++ writeU32 tokenId

def MessageChunk.symmetric (messageType : MessageChunkType) (isFinal : MessageIsFinalType)
    (secureChannelId tokenId : ℕ) (sequenceHeader : SequenceHeader) (body : List UInt8) :
    MessageChunk :=
  ⟨openHeaders ⟨messageType, isFinal, 24 + body.length, secureChannelId⟩ tokenId ++
    (sequenceHeader.encode ++ body)⟩

open List

section Symmetric

section

variable (header : MessageChunkHeader) (tokenId : ℕ)

theorem length_openHeaders : (openHeaders header tokenId).length = 16 := by
  rw [openHeaders, length_append, header.length_encode]
  rfl

theorem decode_openHeaders (rest : List UInt8) :
    decode (openHeaders header tokenId ++ rest) =
      .ok ({ header with
        messageSize := header.messageSize % u32Size
        secureChannelId := header.secureChannelId % u32Size }, writeU32 tokenId ++ rest) := by
  rw [openHeaders, append_assoc, header.decode_encode]

theorem updateMessageSize_openHeaders (rest : List UInt8) (messageSize : ℕ) :
    updateMessageSize (openHeaders header tokenId ++ rest) messageSize =
      .ok (openHeaders { header with messageSize := messageSize } tokenId ++ rest) := by
  simp only [openHeaders, append_assoc, updateMessageSize_encode]

end

variable {header : MessageChunkHeader} (symmetric : header.messageType ≠ .openSecureChannel)
  (tokenId : ℕ)
include symmetric

theorem reads_symmetric (options : DecodingOptions) (known : Option SecurityPolicy) :
    (SecurityHeader.decodeWithKnownPolicy header.messageType.isOpenSecureChannel options
      known).Reads (.symmetric ⟨tokenId % u32Size⟩) (writeU32 tokenId) := by
  have plain : header.messageType.isOpenSecureChannel = false := beq_false_of_ne symmetric
  rw [plain]
  exact (readU32_writeU32 tokenId).map (Reader.Reads.pure _)

theorem chunkInfo_symmetric (channel : SecureChannel C) (sequenceHeader : SequenceHeader)
    (body : List UInt8) :
    chunkInfo channel
        ⟨openHeaders header tokenId ++ (sequenceHeader.encode ++ body)⟩ =
      .ok ⟨{ header with
          messageSize := header.messageSize % u32Size
          secureChannelId := header.secureChannelId % u32Size }, .symmetric ⟨tokenId % u32Size⟩,
        ⟨sequenceHeader.sequenceNumber % u32Size, sequenceHeader.requestId % u32Size⟩, 24,
        body.length⟩ := by
  have reads : (decodeHeaders channel).Reads ({ header with
      messageSize := header.messageSize % u32Size
      secureChannelId := header.secureChannelId % u32Size }, .symmetric ⟨tokenId % u32Size⟩,
      ⟨sequenceHeader.sequenceNumber % u32Size, sequenceHeader.requestId % u32Size⟩)
      (openHeaders header tokenId ++ sequenceHeader.encode) := by
    rw [openHeaders, append_assoc]
    refine header.decode_encode.bind ?_
    refine Reader.Reads.bind (reads_symmetric symmetric tokenId channel.decodingOptions
      channel.knownPolicy) ?_
    exact sequenceHeader.decode_encode.map (Reader.Reads.pure _)
  have info := chunkInfo_append reads body
  rwa [append_assoc, length_append, length_openHeaders] at info

theorem isOpenSecureChannel_symmetric (rest : List UInt8) :
    isOpenSecureChannel ⟨openHeaders header tokenId ++ rest⟩ = false := by
  rw [isOpenSecureChannel, decode_openHeaders]
  exact beq_false_of_ne symmetric

theorem encryptedDataOffset_symmetric (options : DecodingOptions) (rest : List UInt8) :
    encryptedDataOffset options ⟨openHeaders header tokenId ++ rest⟩ = .ok 16 := by
  have second := reads_symmetric symmetric tokenId options none rest
  have offset : (openHeaders header tokenId ++ rest).length - rest.length = 16 := by
    rw [length_append, length_openHeaders, Nat.add_sub_cancel]
  unfold encryptedDataOffset
  simp only [decode_openHeaders, second, bind, Except.bind, pure, Except.pure, offset]

theorem decodeMessageHeader_symmetric (channel : SecureChannel C) (rest : List UInt8)
    (size : header.messageSize = 16 + rest.length) (word : header.messageSize < u32Size) :
    channel.decodeMessageHeader (openHeaders header tokenId ++ rest) =
      .ok ({ header with secureChannelId := header.secureChannelId % u32Size },
        .symmetric ⟨tokenId % u32Size⟩, 16) := by
  have second := reads_symmetric symmetric tokenId channel.decodingOptions channel.knownPolicy rest
  have total : (openHeaders header tokenId ++ rest).length = header.messageSize := by
    rw [length_append, length_openHeaders, size]
  have offset : header.messageSize - rest.length = 16 := by omega
  unfold SecureChannel.decodeMessageHeader
  simp only [decode_openHeaders, second, bind, Except.bind, pure, Except.pure, total,
    Nat.mod_eq_of_lt word, ne_eq, not_true_eq_false, if_false, offset]

/-- **What is signed:** the chunk with padding, and with the size that it will have. -/
theorem addSpace_symmetric (channel : SecureChannel C) (sequenceHeader : SequenceHeader)
    (body : List UInt8) {paddingSize minimumPadding : ℕ}
    (padded : channel.paddingSize (.symmetric ⟨tokenId % u32Size⟩) body.length
      channel.securityPolicy.symmetricSignatureSize header.messageType =
        .ok (paddingSize, minimumPadding)) :
    channel.addSpaceForPaddingAndSignatureInto
        ⟨openHeaders header tokenId ++ (sequenceHeader.encode ++ body)⟩ =
      .ok (openHeaders { header with
          messageSize := 24 + body.length + paddingSize +
            channel.securityPolicy.symmetricSignatureSize } tokenId ++
        (sequenceHeader.encode ++ body ++ paddingBytes paddingSize minimumPadding) ++
          replicate channel.securityPolicy.symmetricSignatureSize 0) := by
  have signature : channel.signatureSize (.symmetric ⟨tokenId % u32Size⟩) =
      channel.securityPolicy.symmetricSignatureSize := rfl
  have length : (openHeaders header tokenId ++ (sequenceHeader.encode ++ body)).length =
      24 + body.length := by
    have eight : sequenceHeader.encode.length = 8 := rfl
    rw [length_append, length_openHeaders, length_append, eight]
    omega
  unfold SecureChannel.addSpaceForPaddingAndSignatureInto
  simp only [chunkInfo_symmetric symmetric, signature, padded, bind, Except.bind, length]
  simp only [append_assoc, updateMessageSize_openHeaders]

end Symmetric

/-! ### Keys that match -/

/-- **What is assumed of the crypto library for some keys:** signatures have their size and are
verified; whole blocks are encrypted to as many bytes, and decrypted again, where there is a block
more of room. -/
structure Crypto.Works (C : Crypto) (policy : SecurityPolicy) (keys : C.AesDerivedKeys) : Prop where
  signs : ∀ data, ∃ signature, C.symmetricSign policy keys data = .ok signature ∧
    signature.length = policy.symmetricSignatureSize ∧
    C.symmetricVerifySignature policy keys data signature = .ok ()
  inverts : ∀ plain room, 16 ∣ plain.length → plain.length + 16 ≤ room →
    ∃ encrypted, C.symmetricEncrypt policy keys plain room = .ok encrypted ∧
      encrypted.length = plain.length ∧ ∀ space, encrypted.length + 16 ≤ space →
        C.symmetricDecrypt policy keys encrypted space = .ok plain

/-- **Two ends of a connection** whose keys for a token match. -/
structure Peers (sender receiver : SecureChannel C) (tokenId : ℕ) (keys : C.AesDerivedKeys) :
    Prop where
  secure : sender.securityPolicy.isSecure = true
  senderValid : sender.securityPolicyValid = true
  receiverValid : receiver.securityPolicyValid = true
  policy : receiver.securityPolicy = sender.securityPolicy
  mode : receiver.securityMode = sender.securityMode
  localKeys : sender.localKeys = some keys
  remoteKeys : receiver.remoteKeys tokenId = some keys

theorem SecurityPolicy.ne_none_of_isSecure (policy : SecurityPolicy)
    (secure : policy.isSecure = true) : policy ≠ .none := by
  rintro rfl
  cases secure

namespace SecureChannel

variable {channel : SecureChannel C} {signed signature : List UInt8} {keys : C.AesDerivedKeys}

theorem symmetricSignInPlace_zeros (own : channel.localKeys = some keys)
    (signs : C.symmetricSign channel.securityPolicy keys signed = .ok signature) :
    channel.symmetricSignInPlace
        (signed ++ replicate channel.securityPolicy.symmetricSignatureSize 0) signed.length =
      .ok (signed.length + channel.securityPolicy.symmetricSignatureSize, signed ++ signature) := by
  have zeros := length_replicate (a := (0 : UInt8))
    (n := channel.securityPolicy.symmetricSignatureSize)
  unfold symmetricSignInPlace
  rw [if_neg (by rw [length_append]; omega),
    if_neg (by rw [length_append, zeros]; omega), getLocalKeys, own, take_left]
  simp only [signs, Except.mapError, bind, Except.bind, pure, Except.pure]
  have rest : (signed ++ replicate channel.securityPolicy.symmetricSignatureSize
      (0 : UInt8)).drop (signed.length + channel.securityPolicy.symmetricSignatureSize) = [] := by
    refine drop_eq_nil_of_le ?_
    rw [length_append, zeros]
  rw [rest, append_nil]

theorem slice_left (front back : List UInt8) :
    slice (front ++ back) 0 front.length = some front := by
  have first := slice_append [] front back
  rwa [nil_append, length_nil, Nat.zero_add] at first

theorem slice_right (front back : List UInt8) :
    slice (front ++ back) front.length (front ++ back).length = some back := by
  have second := slice_append front back []
  rwa [append_nil, ← length_append] at second

theorem verifySignature_append
    (verifies : C.symmetricVerifySignature channel.securityPolicy keys signed signature = .ok ()) :
    channel.verifySignature keys (signed ++ signature) signed.length signed.length
      (signed ++ signature).length = .ok () := by
  rw [verifySignature, slice_left, slice_right]
  exact verifies

theorem symmetricSignAndEncrypt_sign
    (valid : channel.securityPolicyValid = true) (own : channel.localKeys = some keys)
    (mode : channel.securityMode = .sign)
    (signs : C.symmetricSign channel.securityPolicy keys signed = .ok signature)
    (size : signature.length = channel.securityPolicy.symmetricSignatureSize) (start last : ℕ)
    {room : ℕ} (roomy : (signed ++ signature).length ≤ room) :
    channel.symmetricSignAndEncrypt
        (signed ++ replicate channel.securityPolicy.symmetricSignatureSize 0) signed.length
        start last room = .ok (signed ++ signature) := by
  have length : signed.length + channel.securityPolicy.symmetricSignatureSize =
      (signed ++ signature).length := by
    rw [length_append, size]
  have whole : slice (signed ++ signature) 0 (signed ++ signature).length =
      some (signed ++ signature) := by
    simpa using slice_left (signed ++ signature) []
  simp only [symmetricSignAndEncrypt, mode, expectSupportedSecurityPolicy, valid, if_true,
    symmetricSignInPlace_zeros own signs, length, whole, Nat.not_lt.mpr roomy, if_false, bind,
    Except.bind, pure, Except.pure]

variable {channel : SecureChannel C}

theorem symmetricSignAndEncrypt_encrypt
    (valid : channel.securityPolicyValid = true) (own : channel.localKeys = some keys)
    (mode : channel.securityMode = .signAndEncrypt) {front plain signature : List UInt8}
    (signs : C.symmetricSign channel.securityPolicy keys (front ++ plain) = .ok signature)
    (size : signature.length = channel.securityPolicy.symmetricSignatureSize) {room : ℕ}
    (roomy : front.length ≤ room) {encrypted : List UInt8}
    (encrypts : C.symmetricEncrypt channel.securityPolicy keys (plain ++ signature)
      (room - front.length) = .ok encrypted) :
    channel.symmetricSignAndEncrypt
        (front ++ plain ++ replicate channel.securityPolicy.symmetricSignatureSize 0)
        (front ++ plain).length front.length
        (front ++ plain ++
          replicate channel.securityPolicy.symmetricSignatureSize (0 : UInt8)).length room =
      .ok (front ++ encrypted) := by
  have last : (front ++ plain ++
      replicate channel.securityPolicy.symmetricSignatureSize (0 : UInt8)).length =
        front.length + (plain ++ signature).length := by
    simp only [length_append, length_replicate, size]
    omega
  have secret := slice_right front (plain ++ signature)
  rw [length_append, ← append_assoc] at secret
  have unencrypted : (front ++ plain ++ signature).take front.length = front := by
    rw [append_assoc, take_left]
  simp only [symmetricSignAndEncrypt, mode, expectSupportedSecurityPolicy, valid, if_true,
    symmetricSignInPlace_zeros own signs, getLocalKeys, own, last, secret, unencrypted,
    Nat.not_lt.mpr roomy, if_false, encrypts, Except.mapError, bind, Except.bind, pure,
    Except.pure]

variable {header : MessageChunkHeader}

/-- **What is applied to a chunk that is not of a handshake.** -/
theorem applySecurity_symmetric (secure : channel.securityPolicy.isSecure = true)
    (mode : channel.securityMode = .sign ∨ channel.securityMode = .signAndEncrypt)
    (symmetric : header.messageType ≠ .openSecureChannel)
    (tokenId : ℕ) (sequenceHeader : SequenceHeader) (body : List UInt8)
    {paddingSize minimumPadding : ℕ}
    (padded : channel.paddingSize (.symmetric ⟨tokenId % u32Size⟩) body.length
      channel.securityPolicy.symmetricSignatureSize header.messageType =
        .ok (paddingSize, minimumPadding))
    (asymmetric : List UInt8 → ℕ → ℕ → Except StatusCode (List UInt8)) (room : ℕ)
    {signed : List UInt8}
    (signs : signed = openHeaders { header with
        messageSize := 24 + body.length + paddingSize +
          channel.securityPolicy.symmetricSignatureSize } tokenId ++
      (sequenceHeader.encode ++ body ++ paddingBytes paddingSize minimumPadding)) :
    channel.applySecurity asymmetric
        ⟨openHeaders header tokenId ++ (sequenceHeader.encode ++ body)⟩ room =
      channel.symmetricSignAndEncrypt
        (signed ++ replicate channel.securityPolicy.symmetricSignatureSize 0) signed.length 16
        (signed ++
          replicate channel.securityPolicy.symmetricSignatureSize (0 : UInt8)).length room := by
  have some := channel.securityPolicy.ne_none_of_isSecure secure
  have added := addSpace_symmetric symmetric tokenId channel sequenceHeader body padded
  rw [← signs] at added
  have signedEnd : (signed ++ replicate channel.securityPolicy.symmetricSignatureSize
      (0 : UInt8)).length - channel.securityPolicy.symmetricSignatureSize = signed.length := by
    rw [length_append, length_replicate, Nat.add_sub_cancel]
  rw [applySecurity, if_pos ⟨some, mode⟩]
  simp only [encryptedDataOffset_symmetric symmetric, added,
    isOpenSecureChannel_symmetric symmetric, Except.mapError, bind, Except.bind,
    Bool.false_eq_true, if_false, signedEnd]

/-! ### How much padding there is -/

variable {messageType : MessageChunkType}

theorem paddingSize_sign (mode : channel.securityMode = .sign)
    (symmetric : messageType ≠ .openSecureChannel) (securityHeader : SecurityHeader) :
    channel.getPaddingBlockSizes securityHeader messageType = .ok ⟨0, 0⟩ ∧
      ∀ bodySize signatureSize, channel.paddingSize securityHeader bodySize signatureSize
        messageType = .ok (0, 0) := by
  have plain : ¬ messageType.isOpenSecureChannel = true := by
    rw [MessageChunkType.isOpenSecureChannel, beq_false_of_ne symmetric]
    exact Bool.false_ne_true
  have signed : channel.securityMode ≠ .signAndEncrypt := by
    rw [mode]
    decide
  have sizes : channel.getPaddingBlockSizes securityHeader messageType = .ok ⟨0, 0⟩ := by
    unfold getPaddingBlockSizes
    rw [if_pos (inr ⟨signed, plain⟩)]
  refine ⟨sizes, fun bodySize signatureSize => ?_⟩
  rw [paddingSize, sizes]
  rfl

theorem paddingSize_signAndEncrypt (secure : channel.securityPolicy.isSecure = true)
    (mode : channel.securityMode = .signAndEncrypt) (messageType : MessageChunkType)
    (header : SymmetricSecurityHeader) :
    channel.getPaddingBlockSizes (.symmetric header) messageType = .ok ⟨16, 1⟩ ∧
      ∀ bodySize signatureSize, ∃ size, channel.paddingSize (.symmetric header) bodySize
          signatureSize messageType = .ok (size, 1) ∧ 0 < size ∧ size ≤ 16 ∧
        16 ∣ 8 + bodySize + signatureSize + size := by
  have some := channel.securityPolicy.ne_none_of_isSecure secure
  have padded : ¬ (channel.securityPolicy = .none ∨
      channel.securityMode ≠ .signAndEncrypt ∧ ¬ messageType.isOpenSecureChannel = true) := by
    rintro (none | ⟨other, -⟩)
    · exact some none
    · exact other mode
  have sizes : channel.getPaddingBlockSizes (.symmetric header) messageType = .ok ⟨16, 1⟩ := by
    unfold getPaddingBlockSizes
    rw [if_neg padded]
    exact congrArg _ (SecurityPolicy.symmetricPaddingInfo_secure secure).1
  refine ⟨sizes, fun bodySize signatureSize => ?_⟩
  rw [paddingSize, sizes]
  refine ⟨_, rfl, ?_⟩
  dsimp only
  split_ifs <;> omega

/-! ### What the receiver makes of it -/

variable {header : MessageChunkHeader} {tokenId : ℕ}

theorem verifyAndRemoveSecurity_symmetric (secure : channel.securityPolicy.isSecure = true)
    (mode : channel.securityMode = .sign ∨ channel.securityMode = .signAndEncrypt)
    (symmetric : header.messageType ≠ .openSecureChannel)
    (token : tokenId < u32Size) {rest : List UInt8} (size : header.messageSize = 16 + rest.length)
    (word : header.messageSize < u32Size)
    (signed : channel.securityPolicy.symmetricSignatureSize ≤ header.messageSize)
    (asymmetric : List UInt8 → SecurityHeader → ℕ → Except Error MessageChunk) :
    channel.verifyAndRemoveSecurity asymmetric (openHeaders header tokenId ++ rest) =
      channel.decryptChunk (openHeaders header tokenId ++ rest) (.symmetric ⟨tokenId⟩)
        (header.messageSize - channel.securityPolicy.symmetricSignatureSize) 16
        header.messageSize := by
  have plain : header.messageType.isOpenSecureChannel = false := beq_false_of_ne symmetric
  have connection : channel.isSecureConnection = true := by
    rw [isSecureConnection, bne_iff_ne.mpr (channel.securityPolicy.ne_none_of_isSecure secure)]
    rcases mode with mode | mode <;> rw [mode] <;> rfl
  have ranges : secureMessageRanges header.messageSize 16
      channel.securityPolicy.symmetricSignatureSize =
        .ok (header.messageSize - channel.securityPolicy.symmetricSignatureSize, 16) := by
    rw [secureMessageRanges, if_neg (by omega), if_neg (by omega)]
  unfold verifyAndRemoveSecurity
  simp only [decodeMessageHeader_symmetric symmetric tokenId channel rest size word, bind,
    Except.bind, plain, Bool.false_eq_true, if_false, connection, if_true, ranges,
    Nat.mod_eq_of_lt token]

variable {sequenceHeader : SequenceHeader}

/-- **The chunk is what was decrypted up to the padding,** its size rewritten. -/
theorem decryptChunk_symmetric {src : List UInt8} {signedEnd encryptedStart encryptedEnd : ℕ}
    {body back : List UInt8}
    (decrypted : channel.symmetricDecryptAndVerify src signedEnd encryptedStart encryptedEnd
      tokenId = .ok (24 + body.length,
        openHeaders header tokenId ++ (sequenceHeader.encode ++ body) ++ back)) :
    channel.decryptChunk src (.symmetric ⟨tokenId⟩) signedEnd encryptedStart encryptedEnd =
      .ok (.symmetric header.messageType header.isFinal header.secureChannelId tokenId
        sequenceHeader body) := by
  have length : 24 + body.length = (openHeaders { header with messageSize := 24 + body.length }
      tokenId ++ (sequenceHeader.encode ++ body)).length := by
    have eight : sequenceHeader.encode.length = 8 := rfl
    rw [length_append, length_openHeaders, length_append, eight]
    omega
  have kept : (openHeaders { header with messageSize := 24 + body.length } tokenId ++
      (sequenceHeader.encode ++ body) ++ back).take (24 + body.length) =
        openHeaders { header with messageSize := 24 + body.length } tokenId ++
          (sequenceHeader.encode ++ body) := take_left' length.symm
  unfold decryptChunk
  simp only [decrypted, bind, Except.bind, pure, Except.pure, append_assoc (openHeaders _ _),
    updateMessageSize_openHeaders]
  rw [← append_assoc, kept]
  rfl

theorem symmetricDecryptAndVerify_sign
    (valid : channel.securityPolicyValid = true) (mode : channel.securityMode = .sign)
    (remote : channel.remoteKeys tokenId = some keys)
    (verifies : C.symmetricVerifySignature channel.securityPolicy keys signed signature = .ok ())
    (start last : ℕ) :
    channel.symmetricDecryptAndVerify (signed ++ signature) signed.length start last tokenId =
      .ok (signed.length, signed ++ signature) := by
  simp only [symmetricDecryptAndVerify, mode, expectSupportedSecurityPolicy, valid, if_true,
    Except.mapError, remote, verifySignature_append verifies, bind, Except.bind, pure, Except.pure]

theorem symmetricDecryptAndVerify_encrypt (secure : channel.securityPolicy.isSecure = true)
    (valid : channel.securityPolicyValid = true) (mode : channel.securityMode = .signAndEncrypt)
    (remote : channel.remoteKeys tokenId = some keys)
    {front content signature encrypted : List UInt8} {paddingSize : ℕ} (some : 0 < paddingSize)
    (most : paddingSize ≤ 16)
    (size : signature.length = channel.securityPolicy.symmetricSignatureSize)
    (verifies : C.symmetricVerifySignature channel.securityPolicy keys
      (front ++ content ++ paddingBytes paddingSize 1) signature = .ok ())
    (same : encrypted.length = (content ++ paddingBytes paddingSize 1 ++ signature).length)
    (decrypts : C.symmetricDecrypt channel.securityPolicy keys encrypted (encrypted.length + 16) =
      .ok (content ++ paddingBytes paddingSize 1 ++ signature)) :
    channel.symmetricDecryptAndVerify (front ++ encrypted)
        (front ++ content ++ paddingBytes paddingSize 1).length front.length
        (front ++ encrypted).length tokenId =
      .ok ((front ++ content).length,
        front ++ content ++ paddingBytes paddingSize 1 ++ signature) := by
  have second := slice_right front encrypted
  have span : (front ++ encrypted).length - front.length + 16 = encrypted.length + 16 := by
    rw [length_append, Nat.add_sub_cancel_left]
  have whole : front ++ (content ++ paddingBytes paddingSize 1 ++ signature) =
      front ++ content ++ paddingBytes paddingSize 1 ++ signature := by
    simp only [append_assoc]
  have last : front.length + (content ++ paddingBytes paddingSize 1 ++ signature).length =
      (front ++ content ++ paddingBytes paddingSize 1 ++ signature).length := by
    rw [← whole]
    exact length_append.symm
  have total : (front ++ encrypted).length =
      (front ++ content ++ paddingBytes paddingSize 1 ++ signature).length := by
    rw [← last, ← same, length_append]
  have signedEnd : (front ++ content ++ paddingBytes paddingSize 1 ++ signature).length -
      channel.securityPolicy.symmetricSignatureSize =
        (front ++ content ++ paddingBytes paddingSize 1).length := by
    rw [length_append, size, Nat.add_sub_cancel]
  have long : ¬ (front ++ content ++ paddingBytes paddingSize 1 ++ signature).length <
      channel.securityPolicy.symmetricSignatureSize := by
    rw [length_append, size]
    omega
  have passes := verifyPadding_paddingBytes (front ++ content) signature
    (SecurityPolicy.symmetricPaddingInfo_secure secure).2 some (le_trans most (by decide))
  have ends : (front ++ content).length + paddingSize =
      (front ++ content ++ paddingBytes paddingSize 1).length := by
    simp only [length_append, length_paddingBytes_one some]
  rw [ends] at passes
  rw [total] at second span
  simp only [symmetricDecryptAndVerify, mode, expectSupportedSecurityPolicy, valid, if_true,
    Except.mapError, slice_left, remote, second, span, decrypts, last, total, Nat.lt_irrefl,
    if_false,
    long, signedEnd, Nat.sub_self, replicate_zero, append_nil, whole,
    verifySignature_append verifies, passes, bind, Except.bind, pure, Except.pure]

/-! ### Both ends -/

theorem secured_size_le
    (symmetric : messageType ≠ .openSecureChannel) {maxChunkSize size bodySize : ℕ}
    (sized : bodySizeFromMessageSize messageType channel maxChunkSize = .ok size)
    (fits : bodySize ≤ size) {padding : PaddingInfo}
    (known : channel.getPaddingBlockSizes (.symmetric ⟨channel.tokenId⟩) messageType =
      .ok padding) :
    24 + bodySize + padding.minimumPadding + channel.securityPolicy.symmetricSignatureSize ≤
      if 0 < padding.blockSize then maxChunkSize - maxChunkSize % padding.blockSize
        else maxChunkSize := by
  have token : channel.makeSecurityHeader messageType = .symmetric ⟨channel.tokenId⟩ := by
    cases messageType with
    | openSecureChannel => exact absurd rfl symmetric
    | message | closeSecureChannel => rfl
  obtain ⟨other, same, -, total⟩ := bodySizeFromMessageSize_spec sized
  rw [token] at same total
  rw [known] at same
  obtain rfl := Except.ok.inj same
  rw [← total]
  show _ ≤ 12 + 4 + 8 + channel.securityPolicy.symmetricSignatureSize + _ + _
  omega

/-- **What comes of a chunk:** secured bytes within the size, whose header says how many they are,
and of which the receiver gets the chunk back. -/
def Survives (sender receiver : SecureChannel C)
    (asymmetricSignAndEncrypt : List UInt8 → ℕ → ℕ → Except StatusCode (List UInt8))
    (decryptOpenSecureChannel : List UInt8 → SecurityHeader → ℕ → Except Error MessageChunk)
    (chunk : MessageChunk) (maxChunkSize room : ℕ) : Prop :=
  ∃ secured, sender.applySecurity asymmetricSignAndEncrypt chunk room = .ok secured ∧
    secured.length ≤ maxChunkSize ∧
    (∃ header rest, decode secured = .ok (header, rest) ∧
      header.messageSize = secured.length) ∧
    receiver.verifyAndRemoveSecurity decryptOpenSecureChannel secured = .ok chunk

theorem Survives.of_decrypted {sender receiver : SecureChannel C}
    {asymmetricSignAndEncrypt : List UInt8 → ℕ → ℕ → Except StatusCode (List UInt8)}
    (decryptOpenSecureChannel : List UInt8 → SecurityHeader → ℕ → Except Error MessageChunk)
    (secure : receiver.securityPolicy.isSecure = true)
    (mode : receiver.securityMode = .sign ∨ receiver.securityMode = .signAndEncrypt)
    (header : MessageChunkHeader) (symmetric : header.messageType ≠ .openSecureChannel)
    (token : tokenId < u32Size)
    {body rest : List UInt8} (back : List UInt8) {maxChunkSize room : ℕ}
    (word : maxChunkSize < u32Size)
    (applied : sender.applySecurity asymmetricSignAndEncrypt (.symmetric header.messageType
      header.isFinal header.secureChannelId tokenId sequenceHeader body) room =
        .ok (openHeaders header tokenId ++ rest))
    (size : header.messageSize = 16 + rest.length) (fits : header.messageSize ≤ maxChunkSize)
    (signed : receiver.securityPolicy.symmetricSignatureSize ≤ header.messageSize)
    (decrypted : receiver.symmetricDecryptAndVerify (openHeaders header tokenId ++ rest)
      (header.messageSize - receiver.securityPolicy.symmetricSignatureSize) 16 header.messageSize
      tokenId = .ok (24 + body.length,
        openHeaders header tokenId ++ (sequenceHeader.encode ++ body) ++ back)) :
    Survives sender receiver asymmetricSignAndEncrypt decryptOpenSecureChannel
      (.symmetric header.messageType header.isFinal header.secureChannelId tokenId sequenceHeader
        body) maxChunkSize room := by
  have length : header.messageSize = (openHeaders header tokenId ++ rest).length := by
    rw [length_append, length_openHeaders, size]
  have short : header.messageSize < u32Size := lt_of_le_of_lt fits word
  refine ⟨_, applied, length ▸ fits, ⟨_, _, decode_openHeaders header tokenId rest, ?_⟩, ?_⟩
  · rw [← length]
    exact Nat.mod_eq_of_lt short
  · rw [verifyAndRemoveSecurity_symmetric secure mode symmetric token size short signed]
    exact decryptChunk_symmetric decrypted

section Peers

variable {sender receiver : SecureChannel C} {tokenId : ℕ} {keys : C.AesDerivedKeys}
  (token : tokenId < u32Size) (peers : Peers sender receiver tokenId keys)
  (works : C.Works sender.securityPolicy keys) {messageType : MessageChunkType}
  (symmetric : messageType ≠ .openSecureChannel) (isFinal : MessageIsFinalType)
  (secureChannelId : ℕ) (sequenceHeader : SequenceHeader) (body : List UInt8)
  {maxChunkSize size room : ℕ} (word : maxChunkSize < u32Size)
  (sized : bodySizeFromMessageSize messageType sender maxChunkSize = .ok size)
  (fits : body.length ≤ size) (roomy : maxChunkSize + 16 ≤ room)
  (asymmetricSignAndEncrypt : List UInt8 → ℕ → ℕ → Except StatusCode (List UInt8))
  (decryptOpenSecureChannel : List UInt8 → SecurityHeader → ℕ → Except Error MessageChunk)
include token peers works symmetric word sized fits roomy

theorem survives_sign (mode : sender.securityMode = .sign) :
    Survives sender receiver asymmetricSignAndEncrypt decryptOpenSecureChannel
      (.symmetric messageType isFinal secureChannelId tokenId sequenceHeader body) maxChunkSize
      room := by
  have remoteMode : receiver.securityMode = .sign := peers.mode.trans mode
  have remoteSecure : receiver.securityPolicy.isSecure = true := peers.policy ▸ peers.secure
  let original : MessageChunkHeader :=
    ⟨messageType, isFinal, 24 + body.length, secureChannelId⟩
  let header : MessageChunkHeader := { original with
    messageSize := 24 + body.length + 0 + sender.securityPolicy.symmetricSignatureSize }
  have plain : original.messageType ≠ .openSecureChannel := symmetric
  have fits : header.messageSize ≤ maxChunkSize := by
    have total := secured_size_le symmetric sized fits
      (paddingSize_sign mode symmetric (.symmetric ⟨sender.tokenId⟩)).1
    rwa [if_neg (Nat.lt_irrefl 0)] at total
  let signed := openHeaders header tokenId ++ (sequenceHeader.encode ++ body ++ paddingBytes 0 0)
  have length : signed.length = 24 + body.length := by
    have eight : sequenceHeader.encode.length = 8 := rfl
    have none : paddingBytes 0 0 = [] := rfl
    simp only [signed, none, append_nil, length_append, length_openHeaders, eight]
    omega
  obtain ⟨signature, signs, signatureSize, verifies⟩ := works.signs signed
  have total : header.messageSize = (signed ++ signature).length := by
    rw [length_append, length, signatureSize]
    rfl
  have bytes : signed ++ signature = openHeaders header tokenId ++
      (sequenceHeader.encode ++ body ++ paddingBytes 0 0 ++ signature) := append_assoc ..
  have signedEnd : header.messageSize - receiver.securityPolicy.symmetricSignatureSize =
      signed.length := by
    rw [total, length_append, signatureSize, peers.policy, Nat.add_sub_cancel]
  -- the sender's part
  have applied := applySecurity_symmetric peers.secure (inl mode) plain tokenId sequenceHeader
    body ((paddingSize_sign mode symmetric _).2 _ _) asymmetricSignAndEncrypt room
    (rfl : signed = _)
  rw [symmetricSignAndEncrypt_sign peers.senderValid peers.localKeys mode signs signatureSize _ _
    (by omega)] at applied
  -- the receiver's part
  have decrypted := symmetricDecryptAndVerify_sign peers.receiverValid remoteMode peers.remoteKeys
    (peers.policy ▸ verifies) 16 header.messageSize
  rw [← signedEnd] at decrypted
  rw [bytes] at applied decrypted total
  refine Survives.of_decrypted decryptOpenSecureChannel remoteSecure (inl remoteMode) header plain
    token (paddingBytes 0 0 ++ signature) word applied ?_ fits ?_ ?_
  · rw [total, length_append, length_openHeaders]
  · omega
  · rw [decrypted, signedEnd, length]
    simp only [append_assoc]

theorem survives_signAndEncrypt (mode : sender.securityMode = .signAndEncrypt) :
    Survives sender receiver asymmetricSignAndEncrypt decryptOpenSecureChannel
      (.symmetric messageType isFinal secureChannelId tokenId sequenceHeader body) maxChunkSize
      room := by
  have remoteMode : receiver.securityMode = .signAndEncrypt := peers.mode.trans mode
  have remoteSecure : receiver.securityPolicy.isSecure = true := peers.policy ▸ peers.secure
  obtain ⟨padding, padded, some, most, blocks⟩ := (paddingSize_signAndEncrypt peers.secure mode
    messageType ⟨tokenId % u32Size⟩).2 body.length sender.securityPolicy.symmetricSignatureSize
  let original : MessageChunkHeader :=
    ⟨messageType, isFinal, 24 + body.length, secureChannelId⟩
  let header : MessageChunkHeader := { original with
    messageSize := 24 + body.length + padding + sender.securityPolicy.symmetricSignatureSize }
  have plain : original.messageType ≠ .openSecureChannel := symmetric
  have size : header.messageSize =
      24 + body.length + padding + sender.securityPolicy.symmetricSignatureSize := rfl
  have fits : header.messageSize ≤ maxChunkSize := by
    have total := secured_size_le symmetric sized fits
      (paddingSize_signAndEncrypt peers.secure mode messageType ⟨sender.tokenId⟩).1
    rw [if_pos (by decide)] at total
    dsimp only at total
    omega
  let front := openHeaders header tokenId
  let content := sequenceHeader.encode ++ body
  have frontLength : front.length = 16 := length_openHeaders header tokenId
  have contentLength : content.length = 8 + body.length := length_append
  have paddingLength := length_paddingBytes_one some
  obtain ⟨signature, signs, signatureSize, verifies⟩ :=
    works.signs (front ++ (content ++ paddingBytes padding 1))
  have secretLength : (content ++ paddingBytes padding 1 ++ signature).length + 16 =
      header.messageSize := by
    simp only [length_append, contentLength, paddingLength, signatureSize, size]
    omega
  obtain ⟨encrypted, encrypts, same, decrypts⟩ := works.inverts
    (content ++ paddingBytes padding 1 ++ signature) (room - front.length) (by omega) (by omega)
  have total : header.messageSize = (front ++ encrypted).length := by
    rw [length_append, frontLength, same]
    omega
  have signedEnd : header.messageSize - receiver.securityPolicy.symmetricSignatureSize =
      (front ++ content ++ paddingBytes padding 1).length := by
    simp only [length_append, contentLength, frontLength, paddingLength, peers.policy, size]
    omega
  -- the sender's part
  have applied := applySecurity_symmetric peers.secure (inr mode) plain tokenId sequenceHeader
    body padded asymmetricSignAndEncrypt room
      (rfl : front ++ (content ++ paddingBytes padding 1) = _)
  have encrypting := symmetricSignAndEncrypt_encrypt peers.senderValid peers.localKeys mode signs
    signatureSize (by omega) encrypts
  rw [frontLength] at encrypting
  rw [encrypting] at applied
  -- the receiver's part
  rw [← append_assoc] at verifies
  have decrypted := symmetricDecryptAndVerify_encrypt remoteSecure peers.receiverValid remoteMode
    peers.remoteKeys some most (peers.policy ▸ signatureSize) (peers.policy ▸ verifies) same
    (peers.policy ▸ decrypts _ (Nat.le_refl _))
  rw [← signedEnd, ← total, frontLength] at decrypted
  refine Survives.of_decrypted decryptOpenSecureChannel remoteSecure (inr remoteMode) header plain
    token (paddingBytes padding 1 ++ signature) word applied ?_ fits ?_ ?_
  · rw [total, length_append, frontLength]
  · rw [peers.policy]
    omega
  · rw [decrypted, length_append, frontLength, contentLength]
    simp only [front, content, append_assoc]
    congr 2
    omega

/-- **Chunks survive the security of a channel.** A chunk of a message or of a `CloseSecureChannel`
whose body fits in chunks of the size that was negotiated, a `u32`, is secured within that size
where there is a block more of room; its header says how long it is, and a peer with the same keys
gets the chunk back. -/
theorem symmetric_round_trip
    (mode : sender.securityMode = .sign ∨ sender.securityMode = .signAndEncrypt) :
    ∃ secured, sender.applySecurity asymmetricSignAndEncrypt
        (.symmetric messageType isFinal secureChannelId tokenId sequenceHeader body) room =
          .ok secured ∧
      secured.length ≤ maxChunkSize ∧
      (∃ header rest, decode secured = .ok (header, rest) ∧
        header.messageSize = secured.length) ∧
      receiver.verifyAndRemoveSecurity decryptOpenSecureChannel secured =
        .ok (.symmetric messageType isFinal secureChannelId tokenId sequenceHeader body) := by
  rcases mode with sign | encrypt
  · exact survives_sign token peers works symmetric isFinal secureChannelId sequenceHeader body word
      sized fits roomy asymmetricSignAndEncrypt decryptOpenSecureChannel sign
  · exact survives_signAndEncrypt token peers works symmetric isFinal secureChannelId sequenceHeader
      body word sized fits roomy asymmetricSignAndEncrypt decryptOpenSecureChannel encrypt

end Peers

/-! ### An example -/

/-- A crypto library whose keys are single bytes: they are added to what is encrypted, and the
signature repeats their sum with what is signed. -/
def byteCrypto : Crypto where
  AesDerivedKeys := UInt8
  symmetricSign policy key data :=
    .ok (replicate policy.symmetricSignatureSize (data.foldl (· + ·) key))
  symmetricVerifySignature policy key data signature :=
    if signature = replicate policy.symmetricSignatureSize (data.foldl (· + ·) key) then .ok ()
    else .error (.new StatusCode.BadSecurityChecksFailed "Signature invalid")
  symmetricEncrypt _ key plain room :=
    if plain.length % 16 = 0 ∧ plain.length + 16 ≤ room then .ok (plain.map (· + key))
    else .error (.new StatusCode.BadUnexpectedError "Invalid sizes")
  symmetricDecrypt _ key encrypted room :=
    if encrypted.length % 16 = 0 ∧ encrypted.length + 16 ≤ room then .ok (encrypted.map (· - key))
    else .error (.new StatusCode.BadUnexpectedError "Invalid sizes")
  publicKeySize _ := .ok 256
  thumbprint _ := replicate THUMBPRINT_SIZE 0

theorem byteCrypto_works (policy : SecurityPolicy) (key : UInt8) : byteCrypto.Works policy key where
  signs data := by
    refine ⟨_, rfl, length_replicate, ?_⟩
    exact if_pos rfl
  inverts plain room whole roomy := by
    have blocks : plain.length % 16 = 0 := Nat.mod_eq_zero_of_dvd whole
    refine ⟨plain.map (· + key), if_pos ⟨blocks, roomy⟩, length_map .., fun space enough => ?_⟩
    have decrypted : (plain.map (· + key)).map (· - key) = plain := by
      rw [map_map]
      refine map_id'' (fun byte => ?_) plain
      exact UInt8.add_sub_cancel byte key
    have same : (plain.map (· + key)).length = plain.length := length_map ..
    show (if _ then _ else _) = _
    rw [if_pos ⟨same ▸ blocks, enough⟩, decrypted]

def byteChannel (isClientRole : Bool) : SecureChannel byteCrypto where
  isClientRole := isClientRole
  securityPolicy := .basic256Sha256
  securityMode := .signAndEncrypt
  secureChannelId := 1
  tokenId := 1
  cert := none
  privateKeySize := none
  remoteCert := none
  remoteKeys tokenId := if tokenId = 1 then some (7 : UInt8) else none
  localKeys := some (7 : UInt8)
  peerMaxResponseBodySize := none
  decodingOptions := ⟨0, 65535, 65535⟩
  securityPolicyValid := true
  words := words_one

theorem byteChannel_peers : Peers (byteChannel true) (byteChannel false) 1 (7 : UInt8) where
  secure := rfl
  senderValid := rfl
  receiverValid := rfl
  policy := rfl
  mode := rfl
  localKeys := rfl
  remoteKeys := rfl

theorem symmetric_round_trip_byteChannel :
    ∃ secured, (byteChannel true).applySecurity (fun bytes _ _ => .ok bytes)
        (.symmetric .message .final 1 1 ⟨1, 1⟩ [1, 2, 3]) 9216 = .ok secured ∧
      secured.length ≤ 8192 ∧
      (∃ header rest, decode secured = .ok (header, rest) ∧
        header.messageSize = secured.length) ∧
      (byteChannel false).verifyAndRemoveSecurity (fun bytes _ _ => .ok ⟨bytes⟩) secured =
        .ok (.symmetric .message .final 1 1 ⟨1, 1⟩ [1, 2, 3]) :=
  have sized : bodySizeFromMessageSize .message (byteChannel true) 8192 = .ok 8135 :=
    rfl
  symmetric_round_trip (by decide) byteChannel_peers (byteCrypto_works _ _) (by decide) .final 1 _ _
    (by decide) sized (by decide) (by decide) _ _ (inr rfl)

end SecureChannel

end AsyncOpcua.Comms
