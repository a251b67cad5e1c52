/-
**Secured UADP network messages.**

A secured message is a header region, the payload region, which can be encrypted, and a signature
over both. The header says with which token id the key set is found. Signatures and the cipher are
given, and so are the random bytes of a nonce. A message that is not secured is written and read as
it is, which is left out.

* `encodeNetworkMessage` — signed, or encrypted and signed;
* `decodeNetworkMessageWithToken` — verified and decrypted, with the token id of the key set.
-/

import AsyncOpcua.Comms.SecurityPolicy
import AsyncOpcua.Pubsub.Uadp

namespace AsyncOpcua.Pubsub

open Types hiding Variant DataValue
open Comms (SecurityPolicy)

/-! ### Keys -/

structure SecurityKeySet where
  tokenId : UInt32
  signingKey : List UInt8
  encryptionKey : List UInt8
  keyNonce : List UInt8
  signs : signingKey ≠ []
  encrypts : encryptionKey ≠ []
  counts : keyNonce ≠ []
  deriving DecidableEq

/-- The two modes in which a message is secured. -/
inductive SecuredMode
  | sign
  | signAndEncrypt
  deriving DecidableEq

/-- **What a policy does with a key.** The cipher also takes a counter block. -/
structure SymmetricCrypto where
  sign : SecurityPolicy → List UInt8 → List UInt8 → List UInt8
  verify : SecurityPolicy → List UInt8 → List UInt8 → List UInt8 → Except Error Unit
  encrypt : SecurityPolicy → List UInt8 → List UInt8 → List UInt8 → Except Error (List UInt8)
  decrypt : SecurityPolicy → List UInt8 → List UInt8 → List UInt8 → Except Error (List UInt8)

structure SecuredLimits extends DatasetLimits where
  maxSecuredPayloadLen : ℕ

structure UadpSecurityCodec where
  securityMode : SecuredMode
  securityPolicy : SecurityPolicy
  keySets : List SecurityKeySet

def securityError (message : String) : Error := .new StatusCode.BadSecurityChecksFailed message

namespace UadpSecurityCodec

def SIGNED : UInt8 := 0x01
def ENCRYPTED : UInt8 := 0x02
def SIGNATURE_SIZE : ℕ := 32
def KEY_NONCE_COUNTER_PREFIX_LEN : ℕ := 4
def MESSAGE_NONCE_LEN : ℕ := 8

/-! ### Nonces and keys -/

def messageNonce (random : UInt32) (sequenceNumber : UInt16) : List UInt8 :=
  writeU32 random.toNat ++ writeU32 sequenceNumber.toNat

def counterBlock (keySet : SecurityKeySet) (messageNonce : List UInt8) :
    Except Error (List UInt8) :=
  if keySet.keyNonce.length < KEY_NONCE_COUNTER_PREFIX_LEN then
    .error (securityError "PubSub key nonce is too short")
  else if messageNonce.length ≠ MESSAGE_NONCE_LEN then
    .error (securityError "PubSub message nonce length is invalid")
  else
    .ok (keySet.keyNonce.take KEY_NONCE_COUNTER_PREFIX_LEN ++ messageNonce ++ [0, 0, 0, 1])

variable (crypto : SymmetricCrypto) (codec : UadpSecurityCodec)

def ensureSecurePolicy : Except Error Unit :=
  match codec.securityPolicy with
  | .pubSubAes128Ctr | .pubSubAes256Ctr => .ok ()
  | _ => .error (securityError "PubSub security policy must be a PubSub AES-CTR policy")

def encodingKeySet : Except Error SecurityKeySet :=
  match codec.keySets.head? with
  | some keySet => .ok keySet
  | none => .error (securityError "missing PubSub security group keys")

def encryptionKeys (keySet : SecurityKeySet) (messageNonce : List UInt8) :
    Except Error (List UInt8) :=
  if messageNonce.length ≠ MESSAGE_NONCE_LEN then
    .error (securityError "PubSub message nonce length is invalid")
  else if keySet.keyNonce.length < KEY_NONCE_COUNTER_PREFIX_LEN then
    .error (securityError "PubSub key nonce is too short")
  else if keySet.encryptionKey.length ≠ codec.securityPolicy.encryptingKeyLength then
    .error (securityError "PubSub encryption key length does not match policy")
  else counterBlock keySet messageNonce

/-- A signed message that is not encrypted can name token 0, which is then the first key set. -/
def decodeKeySet (securityHeader : SecurityHeader) : Except Error SecurityKeySet :=
  match codec.keySets.find? fun keySet => keySet.tokenId = securityHeader.securityTokenId with
  | some keySet => .ok keySet
  | none =>
    if codec.securityMode = .sign ∧ securityHeader.securityTokenId = 0 then codec.encodingKeySet
    else .error (securityError "PubSub security token id is unknown")

/-! ### Encoding -/

variable {C : FieldCodecs}

def appendSignature (keySet : SecurityKeySet) (out : List UInt8) : List UInt8 :=
  out ++ crypto.sign codec.securityPolicy keySet.signingKey out

def encodeSignedMessage (message : UadpNetworkMessage C) : Except Error (List UInt8) := do
  codec.ensureSecurePolicy
  let keySet ← codec.encodingKeySet
  let securityHeader : SecurityHeader := ⟨SIGNED, 0, []⟩
  let header ← message.encodeHeaderRegion (some securityHeader)
  let body ← message.encodePayloadRegion
  return codec.appendSignature crypto keySet (header ++ body)

def encodeSignedAndEncryptedMessage (random : UInt32) (message : UadpNetworkMessage C) :
    Except Error (List UInt8) := do
  codec.ensureSecurePolicy
  let keySet ← codec.encodingKeySet
  let securityHeader : SecurityHeader :=
    ⟨SIGNED ||| ENCRYPTED, keySet.tokenId, messageNonce random message.sequenceNumber⟩
  let block ← codec.encryptionKeys keySet securityHeader.messageNonce
  let header ← message.encodeHeaderRegion (some securityHeader)
  let plaintext ← message.encodePayloadRegion
  let ciphertext ← crypto.encrypt codec.securityPolicy keySet.encryptionKey block plaintext
  if ciphertext.length ≠ plaintext.length then
    .error (securityError "PubSub AES-CTR encryption changed payload length")
  else return codec.appendSignature crypto keySet (header ++ ciphertext)

def encodeNetworkMessage (random : UInt32) (message : UadpNetworkMessage C) :
    Except Error (List UInt8) :=
  match codec.securityMode with
  | .sign => codec.encodeSignedMessage crypto message
  | .signAndEncrypt => codec.encodeSignedAndEncryptedMessage crypto random message

/-! ### Decoding -/

def expectedFlags : UInt8 :=
  match codec.securityMode with
  | .sign => SIGNED
  | .signAndEncrypt => SIGNED ||| ENCRYPTED

def decodingKeys (keySet : SecurityKeySet) (messageNonce : List UInt8) :
    Except Error (List UInt8) :=
  match codec.securityMode with
  | .sign => .ok []
  | .signAndEncrypt => codec.encryptionKeys keySet messageNonce

def decryptBody (keySet : SecurityKeySet) (block body : List UInt8) : Except Error (List UInt8) :=
  match codec.securityMode with
  | .sign => .ok body
  | .signAndEncrypt => do
    let plaintext ← crypto.decrypt codec.securityPolicy keySet.encryptionKey block body
    if plaintext.length ≠ body.length then
      .error (securityError "PubSub AES-CTR decryption changed payload length")
    else return plaintext

def decodeBody (limits : SecuredLimits) (payload : List UInt8) (headerLen : ℕ)
    (region : UadpHeaderRegion) (securityHeader : SecurityHeader) :
    Except Error (UadpNetworkMessage C × UInt32) := do
  let signatureStart := payload.length - SIGNATURE_SIZE
  let signature := payload.drop signatureStart
  let signedRegion := payload.take signatureStart
  let body := signedRegion.drop headerLen
  let keySet ← codec.decodeKeySet securityHeader
  let block ← codec.decodingKeys keySet securityHeader.messageNonce
  crypto.verify codec.securityPolicy keySet.signingKey signedRegion signature
  let plaintext ← codec.decryptBody crypto keySet block body
  let (datasetMessages, trailing) ←
    UadpNetworkMessage.decodePayloadRegion limits.toDatasetLimits region plaintext
  if trailing ≠ [] then .error (securityError "secured UADP payload contains trailing bytes")
  else return (UadpNetworkMessage.ofRegions region datasetMessages, keySet.tokenId)

def decodeSecuredMessage (limits : SecuredLimits) (payload : List UInt8) :
    Except Error (UadpNetworkMessage C × UInt32) := do
  codec.ensureSecurePolicy
  let ((region, found), rest) ←
    UadpNetworkMessage.decodeHeaderRegion limits.toDatasetLimits payload
  match found with
  | none => .error (securityError "UADP SecurityHeader is missing")
  | some securityHeader =>
    if securityHeader.securityFlags ≠ codec.expectedFlags then
      .error (securityError "UADP SecurityHeader flags do not match security mode")
    else
      let headerLen := payload.length - rest.length
      if payload.length < headerLen + SIGNATURE_SIZE then
        .error (securityError "secured UADP payload is shorter than its signature")
      else codec.decodeBody crypto limits payload headerLen region securityHeader

def decodeNetworkMessageWithToken (limits : SecuredLimits) (payload : List UInt8) :
    Except Error (UadpNetworkMessage C × UInt32) :=
  if limits.maxSecuredPayloadLen < payload.length then
    .error (securityError "secured UADP payload exceeds max_secured_payload_len")
  else codec.decodeSecuredMessage crypto limits payload

end UadpSecurityCodec

end AsyncOpcua.Pubsub
