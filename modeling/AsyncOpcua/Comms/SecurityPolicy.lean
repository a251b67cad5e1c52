/-
**Security policies, with their tables of sizes.**

A build with the legacy policies and with elliptic curves. The source panics where a table is asked
about the unknown policy; here the answer is then that of the policy without security.

* `symmetricPaddingInfo_secure` — the policies of secure channels work on blocks of 16 bytes.
-/

import AsyncOpcua.Types.Encoding

namespace AsyncOpcua.Comms

inductive SecurityPolicy where
  | unknown
  | none
  | aes128Sha256RsaOaep
  | basic256Sha256
  | aes256Sha256RsaPss
  | pubSubAes128Ctr
  | pubSubAes256Ctr
  | basic128Rsa15
  | basic256
  | eccNistP256
  | eccNistP384
  deriving DecidableEq

/-- What padding has to fill up to, and how much of it there is at least. -/
structure PaddingInfo where
  blockSize : ℕ
  minimumPadding : ℕ
  deriving DecidableEq

/-- `minimum_padding`: keys over 256 bytes need a second length byte. -/
def minimumPadding (size : ℕ) : ℕ := if size ≤ 256 then 1 else 2

namespace SecurityPolicy

def toUri : SecurityPolicy → String
  | .unknown => ""
  | .none => "http://opcfoundation.org/UA/SecurityPolicy#None"
  | .aes128Sha256RsaOaep => "http://opcfoundation.org/UA/SecurityPolicy#Aes128_Sha256_RsaOaep"
  | .basic256Sha256 => "http://opcfoundation.org/UA/SecurityPolicy#Basic256Sha256"
  | .aes256Sha256RsaPss => "http://opcfoundation.org/UA/SecurityPolicy#Aes256_Sha256_RsaPss"
  | .pubSubAes128Ctr => "http://opcfoundation.org/UA/SecurityPolicy#PubSub-Aes128-CTR"
  | .pubSubAes256Ctr => "http://opcfoundation.org/UA/SecurityPolicy#PubSub-Aes256-CTR"
  | .basic128Rsa15 => "http://opcfoundation.org/UA/SecurityPolicy#Basic128Rsa15"
  | .basic256 => "http://opcfoundation.org/UA/SecurityPolicy#Basic256"
  | .eccNistP256 => "http://opcfoundation.org/UA/SecurityPolicy#ECC_nistP256"
  | .eccNistP384 => "http://opcfoundation.org/UA/SecurityPolicy#ECC_nistP384"

/-- The policies that an address can name. -/
def named : List SecurityPolicy :=
  [.none, .basic128Rsa15, .basic256, .eccNistP256, .eccNistP384, .basic256Sha256,
    .aes128Sha256RsaOaep, .aes256Sha256RsaPss, .pubSubAes128Ctr, .pubSubAes256Ctr]

def fromUri (uri : String) : SecurityPolicy :=
  (named.find? fun policy => policy.toUri == uri).getD .unknown

variable (policy : SecurityPolicy)

def isEcc : Bool :=
  policy == .eccNistP256 || policy == .eccNistP384

/-- The policies that `set_security_policy` takes for valid ones of a secure channel. -/
def isSecure : Bool :=
  match policy with
  | .basic128Rsa15 | .basic256 | .basic256Sha256 | .aes128Sha256RsaOaep | .aes256Sha256RsaPss
  | .eccNistP256 | .eccNistP384 => true
  | .unknown | .none | .pubSubAes128Ctr | .pubSubAes256Ctr => false

/-- HMAC with SHA-1, SHA-256 or SHA-384. -/
def symmetricSignatureSize : SecurityPolicy → ℕ
  | .unknown | .none => 0
  | .basic128Rsa15 | .basic256 => 20
  | .aes128Sha256RsaOaep | .basic256Sha256 | .aes256Sha256RsaPss | .pubSubAes128Ctr
  | .pubSubAes256Ctr | .eccNistP256 => 32
  | .eccNistP384 => 48

def plainBlockSize : SecurityPolicy → ℕ
  | .unknown | .none => 1
  | _ => 16

def symmetricPaddingInfo : PaddingInfo :=
  match policy with
  | .unknown | .none => ⟨0, 0⟩
  | .eccNistP256 | .eccNistP384 => ⟨16, 1⟩
  | policy => ⟨policy.plainBlockSize, minimumPadding policy.symmetricSignatureSize⟩

/-- The bytes of a block that asymmetric encryption takes for itself. -/
def asymmetricOverhead : SecurityPolicy → ℕ
  | .basic128Rsa15 => 11
  | .aes256Sha256RsaPss => 66
  | _ => 42

def asymmetricPaddingInfo (remoteKeySize : ℕ) : PaddingInfo :=
  match policy with
  | .unknown | .none | .eccNistP256 | .eccNistP384 => ⟨0, 0⟩
  | policy => ⟨remoteKeySize - policy.asymmetricOverhead, minimumPadding remoteKeySize⟩

def encryptingKeyLength : SecurityPolicy → ℕ
  | .unknown | .none => 0
  | .aes128Sha256RsaOaep | .pubSubAes128Ctr | .basic128Rsa15 | .eccNistP256 => 16
  | .basic256Sha256 | .aes256Sha256RsaPss | .pubSubAes256Ctr | .basic256 | .eccNistP384 => 32

theorem symmetricPaddingInfo_secure {policy : SecurityPolicy} (secure : policy.isSecure = true) :
    policy.symmetricPaddingInfo = ⟨16, 1⟩ ∧ policy.encryptingKeyLength ≤ 256 := by
  cases policy with
  | unknown | none | pubSubAes128Ctr | pubSubAes256Ctr => cases secure
  | _ => decide

end SecurityPolicy

end AsyncOpcua.Comms
