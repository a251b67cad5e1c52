/-
**The validation of certificate chains** (OPC UA Part 4 §6.1.3, Table 100).

A chain is built from a certificate by looking up issuers by name and key identifier, the first
match each time; then its signatures, algorithms, trust, validity, usage and revocation are checked
in order. Signatures are ideal: one verifies exactly under the key that made it. `Name` is a
distinguished name together with its text.

* `validateCertificateChain` — the whole pipeline, with the functions it is made of;
* `eachIndexed_ok_iff` — a check of a list passes exactly if each element passes it.
-/

import AsyncOpcua.Comms.SecurityPolicy
import AsyncOpcua.Foundation.Transition
import Mathlib.Data.List.Chain

namespace AsyncOpcua.Types.StatusCode

def BadCertificateTimeInvalid : StatusCode := 0x80140000#32
def BadCertificateIssuerTimeInvalid : StatusCode := 0x80150000#32
def BadCertificateUseNotAllowed : StatusCode := 0x80180000#32
def BadCertificateIssuerUseNotAllowed : StatusCode := 0x80190000#32
def BadCertificateUntrusted : StatusCode := 0x801A0000#32
def BadCertificateRevocationUnknown : StatusCode := 0x801B0000#32
def BadCertificateIssuerRevocationUnknown : StatusCode := 0x801C0000#32
def BadCertificateRevoked : StatusCode := 0x801D0000#32
def BadCertificateIssuerRevoked : StatusCode := 0x801E0000#32
def BadCertificateChainIncomplete : StatusCode := 0x810D0000#32
def BadCertificatePolicyCheckFailed : StatusCode := 0x81140000#32

end AsyncOpcua.Types.StatusCode

namespace AsyncOpcua.Crypto

open Types Foundation Comms

/-! ### Certificates, CRLs and OCSP responses -/

inductive SignatureAlgorithm where
  | sha1WithRsa
  | sha256WithRsa
  | rsassaPss
  | ecdsaWithSha256
  | ecdsaWithSha384
  | other (oid : List ℕ)
  deriving DecidableEq

structure Signature (Key : Type) where
  algorithm : SignatureAlgorithm
  madeBy : Option Key

structure Name where
  der : List UInt8
  text : String
  deriving DecidableEq

structure BasicConstraints where
  ca : Bool
  pathLenConstraint : Option (BitVec 8)

structure KeyUsage where
  digitalSignature : Bool
  keyCertSign : Bool

inductive KeyPurpose where
  | clientAuth
  | serverAuth
  | any
  | other (oid : List ℕ)
  deriving DecidableEq

/-- What the pipeline reads of a certificate. A part that can fail to be read is an option; a parsed
certificate encodes again. -/
structure X509 (Key : Type) where
  der : List UInt8
  subject : Name
  issuer : Name
  authorityKeyIdentifier : Option (List UInt8)
  subjectKeyIdentifier : Option (List UInt8)
  publicKey : Option Key
  keyLength : Option ℕ
  signatureAndAlgorithm : Option (Signature Key)
  notBefore : Option ℤ
  notAfter : Option ℤ
  basicConstraints : Option BasicConstraints
  keyUsage : Option KeyUsage
  extendedKeyUsage : Option (List KeyPurpose)
  serialNumber : List UInt8

namespace X509

variable {Key : Type} (cert : X509 Key)

def isSelfSigned : Bool := cert.issuer == cert.subject

def subjectName : String := cert.subject.text

def issuerName : String := cert.issuer.text

end X509

structure CertificateList (Key : Type) where
  issuer : Name
  nextUpdate : Option ℤ
  signature : Signature Key
  revokedCertificates : Option (List (List UInt8))

inductive CertStatus where
  | good
  | revoked
  | unknown

structure SingleResponse where
  serialNumber : List UInt8
  certStatus : CertStatus
  thisUpdate : ℤ
  nextUpdate : Option ℤ

structure BasicOcspResponse (Key : Type) where
  responses : List SingleResponse
  signature : Signature Key

structure OcspResponse (Key : Type) where
  successful : Bool
  basic : Option (BasicOcspResponse Key)

/-! ### Options and context -/

inductive CertificatePurpose where
  | serverApplication
  | clientApplication

inductive RevocationMode where
  | disabled
  | lenient
  | required
  deriving DecidableEq

inductive SuppressibleStep where
  | securityPolicy
  | validity
  | hostName
  | certificateUsage
  | findRevocationList
  deriving DecidableEq

structure ValidationOptions where
  validateChain : Bool
  revocationMode : RevocationMode
  suppressedSteps : List SuppressibleStep

def ValidationOptions.isSuppressed (options : ValidationOptions) (step : SuppressibleStep) : Bool :=
  options.suppressedSteps.contains step

structure SuppressedFinding where
  step : SuppressibleStep
  status : StatusCode
  message : String

structure ValidationError where
  status : StatusCode
  message : String

/-- `ocspResponses` are what the supplied responses decode to. -/
structure ChainValidationContext (Key : Type) where
  trustedCerts : List (X509 Key)
  issuerCerts : List (X509 Key)
  crls : List (CertificateList Key)
  ocspResponses : List (Option (OcspResponse Key))
  securityPolicy : SecurityPolicy
  purpose : CertificatePurpose
  options : ValidationOptions
  now : ℤ

/-- `Unknown` allows no signature algorithm, so that no check gets to its key length. -/
def isValidKeylength (policy : SecurityPolicy) (keylength : ℕ) : Bool :=
  match policy with
  | .eccNistP256 => keylength == 256
  | .eccNistP384 => keylength == 384
  | .none => true
  | .unknown => false
  | .basic128Rsa15 | .basic256 => decide (1024 ≤ keylength ∧ keylength ≤ 2048)
  | .aes128Sha256RsaOaep | .basic256Sha256 | .aes256Sha256RsaPss | .pubSubAes128Ctr
  | .pubSubAes256Ctr => decide (2048 ≤ keylength ∧ keylength ≤ 4096)

def isValidCertificateSignatureAlgorithm (policy : SecurityPolicy)
    (algorithm : SignatureAlgorithm) :
    Bool :=
  match policy with
  | .eccNistP256 => algorithm == .ecdsaWithSha256
  | .eccNistP384 => algorithm == .ecdsaWithSha384
  | .basic256Sha256 | .aes128Sha256RsaOaep | .aes256Sha256RsaPss | .pubSubAes128Ctr
  | .pubSubAes256Ctr => algorithm == .sha256WithRsa || algorithm == .rsassaPss
  | .basic128Rsa15 | .basic256 =>
    algorithm == .sha1WithRsa || algorithm == .sha256WithRsa || algorithm == .rsassaPss
  | .none | .unknown => false

def MAX_CHAIN_LENGTH : ℕ := 10

/-! ### A check of every element of a list -/

section Checks

variable {α ε φ : Type*}

def eachIndexed (check : ℕ → α → Except ε (List φ)) : ℕ → List α → Except ε (List φ)
  | _, [] => .ok []
  | index, a :: rest =>
    (check index a).bind fun first =>
      (eachIndexed check (index + 1) rest).map fun others => first ++ others

/-- **A check of every element passes** exactly if each of them does. -/
theorem eachIndexed_ok_iff {check : ℕ → α → Except ε (List φ)} {start : ℕ} {as : List α} :
    (∃ findings, eachIndexed check start as = .ok findings) ↔
      ∀ index a, as[index]? = some a → ∃ own, check (start + index) a = .ok own := by
  induction as generalizing start with
  | nil => exact iff_of_true ⟨[], rfl⟩ fun index a absurdly => by cases absurdly
  | cons head rest ih =>
    have shift : ∀ index, start + 1 + index = start + (index + 1) := fun index => by omega
    constructor
    · rintro ⟨findings, passed⟩ index a found
      obtain ⟨first, checked, later⟩ := Machine.bind_eq_ok.mp passed
      obtain ⟨others, passed', -⟩ := Machine.map_eq_ok.mp later
      cases index with
      | zero =>
        cases found
        exact ⟨first, checked⟩
      | succ index => exact shift index ▸ ih.mp ⟨others, passed'⟩ index a found
    · intro each
      obtain ⟨first, checked⟩ := each 0 head rfl
      obtain ⟨others, passed⟩ := ih.mpr fun index a found =>
        (shift index).symm ▸ each (index + 1) a found
      exact ⟨first ++ others,
        Machine.bind_eq_ok.mpr ⟨first, checked, Machine.map_eq_ok.mpr ⟨others, passed, rfl⟩⟩⟩

end Checks

section Pipeline

variable {Key : Type} [DecidableEq Key]

abbrev Checked (α : Type) := Except ValidationError α

variable (context : ChainValidationContext Key)

def softFailure (step : SuppressibleStep)
    (status : StatusCode) (message : String) : Checked (List SuppressedFinding) :=
  if context.options.isSuppressed step then .ok [⟨step, status, message⟩]
  else .error ⟨status, message⟩

def handleSecurityPolicyFailure (message : String) : Checked (List SuppressedFinding) :=
  softFailure context .securityPolicy .BadCertificatePolicyCheckFailed message

def handleCertificateUsageFailure (status : StatusCode)
    (message : String) : Checked (List SuppressedFinding) :=
  softFailure context .certificateUsage status message

def handleRevocationUnknown (index : ℕ) : Checked (List SuppressedFinding) :=
  if context.options.revocationMode = .lenient then .ok []
  else
    softFailure context .findRevocationList
      (if index = 0 then .BadCertificateRevocationUnknown
        else .BadCertificateIssuerRevocationUnknown)
      "no valid CRL was found for certificate issuer"

/-! ### Building the chain -/

def derInList (target : List UInt8) (candidates : List (X509 Key)) : Bool :=
  candidates.any fun candidate => candidate.der == target

def candidateMatchesIssuer (current candidate : X509 Key) : Bool :=
  if candidate.subjectName != current.issuerName then false
  else
    match current.authorityKeyIdentifier, candidate.subjectKeyIdentifier with
    | some authorityKey, some subjectKey => authorityKey == subjectKey
    | _, _ => true

def findIssuerIn (current : X509 Key) (candidates : List (X509 Key)) : Option (X509 Key) :=
  candidates.find? (candidateMatchesIssuer current)

def findIssuer (current : X509 Key) (context : ChainValidationContext Key) : Option (X509 Key) :=
  (findIssuerIn current context.issuerCerts).or (findIssuerIn current context.trustedCerts)

/-- The loop of `build_chain`, by how many more certificates fit in the chain. -/
def buildChain (context : ChainValidationContext Key) :
    ℕ → List (List UInt8) → X509 Key → Checked (List (X509 Key))
  | 0, _, _ => .error ⟨.BadCertificateChainIncomplete,
      "certificate chain exceeds maximum validation depth"⟩
  | room + 1, seen, current =>
    if seen.contains current.der then
      .error ⟨.BadCertificateChainIncomplete, "certificate chain contains a certificate cycle"⟩
    else if current.isSelfSigned || derInList current.der context.trustedCerts then .ok [current]
    else
      match findIssuer current context with
      | none => .error ⟨.BadCertificateChainIncomplete,
          "certificate issuer was not found in issuer or trusted certificates"⟩
      | some issuer =>
        (buildChain context room (current.der :: seen) issuer).map fun chain => current :: chain

/-! ### Signatures -/

def verifyCertificateSignature (child : X509 Key) (issuerPublicKey : Key) : Checked Unit :=
  match child.signatureAndAlgorithm with
  | none => .error ⟨.BadCertificateInvalid, "certificate signature could not be read"⟩
  | some ⟨algorithm, madeBy⟩ =>
    let verify (message : String) : Checked Unit :=
      if madeBy = some issuerPublicKey then .ok () else .error ⟨.BadCertificateInvalid, message⟩
    match algorithm with
    | .sha256WithRsa => verify "RSA-SHA256 certificate signature verification failed"
    | .rsassaPss => verify "RSA-PSS certificate signature verification failed"
    | .sha1WithRsa => verify "RSA-SHA1 certificate signature verification failed"
    | .ecdsaWithSha256 | .ecdsaWithSha384 =>
      verify "ECDSA certificate signature verification failed"
    | .other _ =>
      .error ⟨.BadCertificateInvalid, "unsupported certificate signature algorithm"⟩

def verifyIssuedBy (child issuer : X509 Key) : Checked Unit :=
  match issuer.publicKey with
  | none => .error ⟨.BadCertificateInvalid, "certificate issuer public key could not be read"⟩
  | some key => verifyCertificateSignature child key

def verifyChainSignatures : List (X509 Key) → Checked Unit
  | [] => .ok ()
  | [child] => if child.isSelfSigned then verifyIssuedBy child child else .ok ()
  | child :: issuer :: rest =>
    (verifyIssuedBy child issuer).bind fun _ => verifyChainSignatures (issuer :: rest)

/-! ### Security policy, trust and validity -/

def validateSignatureAlgorithm (index : ℕ) (cert : X509 Key) : Checked (List SuppressedFinding) :=
  match cert.signatureAndAlgorithm with
  | some signature =>
    if isValidCertificateSignatureAlgorithm context.securityPolicy signature.algorithm then .ok []
    else handleSecurityPolicyFailure context (if index = 0 then
        "leaf certificate signature algorithm is not allowed by the security policy"
      else "issuer certificate signature algorithm is not allowed by the security policy")
  | none => handleSecurityPolicyFailure context (if index = 0 then
        "cannot read leaf certificate signature algorithm"
      else "cannot read issuer certificate signature algorithm")

def validateLeafKeyLength (leaf : X509 Key) : Checked (List SuppressedFinding) :=
  match leaf.keyLength with
  | some keyLength =>
    if isValidKeylength context.securityPolicy keyLength then .ok []
    else handleSecurityPolicyFailure context
      "leaf certificate key length is not allowed by the security policy"
  | none => handleSecurityPolicyFailure context "cannot read leaf key length"

def validateChainSecurityPolicy (chain : List (X509 Key)) (context : ChainValidationContext Key) :
    Checked (List SuppressedFinding) :=
  if context.securityPolicy = .none then .ok []
  else
    (eachIndexed (validateSignatureAlgorithm context) 0 chain).bind fun findings =>
      match chain.head? with
      | none => .error ⟨.BadCertificateChainIncomplete, "certificate chain is empty"⟩
      | some leaf => (validateLeafKeyLength context leaf).map fun more => findings ++ more

def chainContainsTrustedCert (chain trustedCerts : List (X509 Key)) : Bool :=
  chain.any fun cert => derInList cert.der trustedCerts

def certificateIsValidAt (cert : X509 Key) (now : ℤ) : Bool :=
  match cert.notBefore, cert.notAfter with
  | some notBefore, some notAfter => decide (notBefore ≤ now ∧ now ≤ notAfter)
  | _, _ => false

def validateValidity (index : ℕ) (cert : X509 Key) : Checked (List SuppressedFinding) :=
  if certificateIsValidAt cert context.now then .ok []
  else softFailure context .validity
    (if index = 0 then .BadCertificateTimeInvalid else .BadCertificateIssuerTimeInvalid)
    "certificate validity period does not include the validation time"

/-! ### Usage -/

def purposeExtendedKeyUsageOid : CertificatePurpose → KeyPurpose
  | .serverApplication => .serverAuth
  | .clientApplication => .clientAuth

def usageCheck (status : StatusCode) (holds : Bool)
    (message : String) : Checked (List SuppressedFinding) :=
  if holds then .ok [] else handleCertificateUsageFailure context status message

def validateLeafCertificateUsage (cert : X509 Key) : Checked (List SuppressedFinding) :=
  (usageCheck context .BadCertificateUseNotAllowed
      (cert.keyUsage.all (·.digitalSignature))
      "leaf certificate key usage does not allow digital signatures").bind fun first =>
    (usageCheck context .BadCertificateUseNotAllowed
      (cert.extendedKeyUsage.all fun purposes => purposes.isEmpty ||
        purposes.contains (purposeExtendedKeyUsageOid context.purpose) || purposes.contains .any)
      "leaf certificate extended key usage does not allow the requested application purpose").map
      fun second => first ++ second

def isCa (cert : X509 Key) : Bool := cert.basicConstraints.any (·.ca)

def subordinateCaCountBelow (chain : List (X509 Key)) (issuerIndex : ℕ) : ℕ :=
  ((chain.take issuerIndex).drop 1).countP isCa

def pathLengthSuffices (chain : List (X509 Key)) (index : ℕ) (cert : X509 Key) : Bool :=
  (cert.basicConstraints.bind (·.pathLenConstraint)).all fun constraint =>
    decide (subordinateCaCountBelow chain index ≤ constraint.toNat)

def validateIssuerCertificateUsage (chain : List (X509 Key)) (context : ChainValidationContext Key)
    (index : ℕ) (cert : X509 Key) : Checked (List SuppressedFinding) :=
  (usageCheck context .BadCertificateIssuerUseNotAllowed (isCa cert)
      "issuer certificate basic constraints do not identify it as a CA").bind fun first =>
    (usageCheck context .BadCertificateIssuerUseNotAllowed (pathLengthSuffices chain index cert)
      "issuer certificate path length constraint is exceeded").bind fun second =>
      (usageCheck context .BadCertificateIssuerUseNotAllowed (cert.keyUsage.all (·.keyCertSign))
        "issuer certificate key usage does not allow certificate signing").map
        fun third => first ++ second ++ third

def validateUsage (chain : List (X509 Key)) (context : ChainValidationContext Key) (index : ℕ)
    (cert : X509 Key) : Checked (List SuppressedFinding) :=
  if index = 0 then validateLeafCertificateUsage context cert
  else validateIssuerCertificateUsage chain context index cert

/-! ### Revocation -/

def signatureVerifies (signature : Signature Key) (key : Key) : Bool :=
  match signature.algorithm with
  | .other _ => false
  | _ => signature.madeBy == some key

def validateRevocationSignatureAlgorithm (algorithm : SignatureAlgorithm)
    (context : ChainValidationContext Key) (message : String) : Checked (List SuppressedFinding) :=
  if context.securityPolicy = .none ∨
      isValidCertificateSignatureAlgorithm context.securityPolicy algorithm = true then .ok []
  else handleSecurityPolicyFailure context message

inductive OcspVerdict where
  | good
  | revoked

def ocspSingleIsFresh (single : SingleResponse) (now : ℤ) : Bool :=
  decide (single.thisUpdate ≤ now) && single.nextUpdate.all fun next => decide (now ≤ next)

def ocspVerdictForSerial (basic : BasicOcspResponse Key) (serial : List UInt8) (now : ℤ) :
    Option OcspVerdict :=
  basic.responses.findSome? fun single =>
    if single.serialNumber = serial ∧ ocspSingleIsFresh single now = true then
      match single.certStatus with
      | .revoked => some .revoked
      | .good => some .good
      | .unknown => none
    else none

/-- What a response says definitively about a certificate: a successful basic response with a
verdict for its serial, signed by the key of its issuer. -/
def ocspDefinitive (cert : X509 Key) (key : Key) (now : ℤ) (response : Option (OcspResponse Key)) :
    Option (OcspVerdict × BasicOcspResponse Key) :=
  match response with
  | some ⟨true, some basic⟩ =>
    match ocspVerdictForSerial basic cert.serialNumber now with
    | some verdict => if signatureVerifies basic.signature key then some (verdict, basic) else none
    | none => none
  | _ => none

def ocspStatus (cert issuerCa : X509 Key) : Checked (Option OcspVerdict × List SuppressedFinding) :=
  match issuerCa.publicKey with
  | none => .ok (none, [])
  | some key =>
    match context.ocspResponses.findSome? (ocspDefinitive cert key context.now) with
    | none => .ok (none, [])
    | some (verdict, basic) =>
      (validateRevocationSignatureAlgorithm basic.signature.algorithm context
        "OCSP response signature algorithm is not allowed by the security policy").map
        fun findings => (some verdict, findings)

def crlIssuerMatchesCa (crl : CertificateList Key) (issuerCa : X509 Key) : Bool :=
  crl.issuer.text == issuerCa.subjectName

def crlIsCurrent (crl : CertificateList Key) (now : ℤ) : Bool :=
  crl.nextUpdate.all fun next => decide (now ≤ next)

def crlIsValid (issuerCa : X509 Key) (key : Key) (now : ℤ) (crl : CertificateList Key) : Bool :=
  crlIssuerMatchesCa crl issuerCa && crlIsCurrent crl now && signatureVerifies crl.signature key

def findValidCrl (issuerCa : X509 Key) :
    Checked (Option (CertificateList Key) × List SuppressedFinding) :=
  match issuerCa.publicKey with
  | none => .ok (none, [])
  | some key =>
    match context.crls.find? (crlIsValid issuerCa key context.now) with
    | none => .ok (none, [])
    | some crl =>
      (validateRevocationSignatureAlgorithm crl.signature.algorithm context
        "CRL signature algorithm is not allowed by the security policy").map
        fun findings => (some crl, findings)

def crlRevokes (crl : CertificateList Key) (serial : List UInt8) : Bool :=
  crl.revokedCertificates.any fun revoked => revoked.contains serial

def revokedStatus (index : ℕ) : StatusCode :=
  if index = 0 then .BadCertificateRevoked else .BadCertificateIssuerRevoked

def validateLinkRevocation (index : ℕ)
    (pair : X509 Key × X509 Key) : Checked (List SuppressedFinding) :=
  (ocspStatus context pair.1 pair.2).bind fun (verdict, findings) =>
    match verdict with
    | some .revoked => .error ⟨revokedStatus index,
        "certificate serial number is revoked by a valid OCSP response"⟩
    | some .good => .ok findings
    | none =>
      (findValidCrl context pair.2).bind fun (crl, more) =>
        match crl with
        | none => (handleRevocationUnknown context index).map fun last => findings ++ more ++ last
        | some crl =>
          if crlRevokes crl pair.1.serialNumber then
            .error ⟨revokedStatus index, "certificate serial number is listed in a valid CRL"⟩
          else .ok (findings ++ more)

def validateChainRevocation (chain : List (X509 Key)) (context : ChainValidationContext Key) :
    Checked (List SuppressedFinding) :=
  if context.options.revocationMode = .disabled then .ok []
  else eachIndexed (validateLinkRevocation context) 0 (chain.zip chain.tail)

/-! ### The pipeline -/

def validateCertificateChain (cert : X509 Key) (context : ChainValidationContext Key) :
    Checked (List SuppressedFinding) :=
  if context.options.validateChain = false then .ok []
  else
    (buildChain context MAX_CHAIN_LENGTH [] cert).bind fun chain =>
    (verifyChainSignatures chain).bind fun _ =>
    (validateChainSecurityPolicy chain context).bind fun policy =>
    if chainContainsTrustedCert chain context.trustedCerts = false then
      .error ⟨.BadCertificateUntrusted, "certificate chain does not contain a trusted certificate"⟩
    else
      (eachIndexed (validateValidity context) 0 chain).bind fun validity =>
      (eachIndexed (validateUsage chain context) 0 chain).bind fun usage =>
      (validateChainRevocation chain context).map fun revocation =>
        policy ++ validity ++ usage ++ revocation

end Pipeline

end AsyncOpcua.Crypto
