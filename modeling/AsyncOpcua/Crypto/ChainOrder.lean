/-
**Accepted chains are sound, and acceptance does not depend on the order of the stores.**

The chain goes through the first issuer that matches by name and key identifier, and is checked
against the first current CRL of each issuer. Accepted chains are sound where the CRLs of each
issuer that the revocation check gets to agree; and the order does not matter where, besides, a
chain that passes the checks before that has no other issuer to go through.

* `Built` — the chains that `buildChain` builds; `Buildable` — those that some order builds;
* `accepts_iff` — what a certificate passes; `SoundChain` — what an accepted chain is;
* `chain_validation_sound_and_stable` — the contract under these conditions.
-/

import AsyncOpcua.Crypto.CertChain
import Mathlib.Data.List.Find
import Mathlib.Data.List.Perm.Basic

namespace AsyncOpcua.Crypto

open Types Foundation Option

variable {Key : Type} {context : ChainValidationContext Key} {cert : X509 Key}

/-! ### Built chains -/

/-- The chain ends here. -/
def stopsAt (context : ChainValidationContext Key) (current : X509 Key) : Bool :=
  current.isSelfSigned || derInList current.der context.trustedCerts

inductive Built (context : ChainValidationContext Key) : X509 Key → List (X509 Key) → Prop
  | ends {current : X509 Key} (stops : stopsAt context current = true) :
    Built context current [current]
  | link {current issuer : X509 Key} {rest : List (X509 Key)}
      (goesOn : stopsAt context current = false) (found : findIssuer current context = some issuer)
      (built : Built context issuer rest) : Built context current (current :: rest)

variable {current : X509 Key} {chain : List (X509 Key)}

open Machine

theorem buildChain_built {room : ℕ} {seen : List (List UInt8)}
    (built : buildChain context room seen current = .ok chain) :
    Built context current chain ∧ chain.length ≤ room := by
  induction room generalizing seen current chain with
  | zero => cases built
  | succ room ih =>
    rw [buildChain] at built
    split_ifs at built with cycle stops
    · cases built
      exact ⟨.ends stops, Nat.succ_le_succ (Nat.zero_le _)⟩
    · split at built
      · cases built
      · next issuer found =>
        obtain ⟨rest, built', rfl⟩ := map_eq_ok.mp built
        obtain ⟨further, short⟩ := ih built'
        exact ⟨.link (Bool.eq_false_iff.mpr stops) found further, Nat.succ_le_succ short⟩

theorem Built.head (built : Built context current chain) : chain.head? = some current := by
  cases built <;> rfl

theorem Built.trusted (built : Built context current chain)
    (contains : chainContainsTrustedCert chain context.trustedCerts = true) :
    ∃ last, chain.getLast? = some last ∧ derInList last.der context.trustedCerts = true := by
  induction built with
  | @ends current stops =>
    exact ⟨current, rfl, by simpa [chainContainsTrustedCert] using contains⟩
  | @link current issuer rest goesOn found built ih =>
    have untrusted : derInList current.der context.trustedCerts = false :=
      (Bool.or_eq_false_iff.mp goesOn).2
    obtain ⟨last, ends, trusted⟩ := ih (by
      simpa [chainContainsTrustedCert, untrusted] using contains)
    exact ⟨last, by rw [List.getLast?_cons, ends]; rfl, trusted⟩

/-! ### What can be looked up -/

/-- The issuers that can be found for a certificate, in some order of the stores. -/
def candidates (context : ChainValidationContext Key) (current : X509 Key) : List (X509 Key) :=
  let own := context.issuerCerts.filter (candidateMatchesIssuer current)
  if own.isEmpty then context.trustedCerts.filter (candidateMatchesIssuer current) else own

/-- **The chains that some order of the stores builds.** -/
inductive Buildable (context : ChainValidationContext Key) : X509 Key → List (X509 Key) → Prop
  | ends {current : X509 Key} (stops : stopsAt context current = true) :
    Buildable context current [current]
  | link {current issuer : X509 Key} {rest : List (X509 Key)}
      (goesOn : stopsAt context current = false) (among : issuer ∈ candidates context current)
      (buildable : Buildable context issuer rest) : Buildable context current (current :: rest)

/-- At each lookup along a chain one certificate can be found. -/
def OneAlong (context : ChainValidationContext Key) (chain : List (X509 Key)) : Prop :=
  ∀ c ∈ chain, stopsAt context c = false →
    ∀ one ∈ candidates context c, ∀ other ∈ candidates context c, one = other

open List

theorem mem_candidates {issuer : X509 Key} (found : findIssuer current context = some issuer) :
    issuer ∈ candidates context current := by
  unfold candidates
  dsimp only
  rcases or_eq_some_iff.mp found with own | ⟨none, trusted⟩
  · have member : issuer ∈ context.issuerCerts.filter (candidateMatchesIssuer current) :=
      mem_filter.mpr ⟨mem_of_find?_eq_some own, find?_some own⟩
    rw [if_neg fun empty => by
      rw [isEmpty_iff.mp empty] at member
      cases member]
    exact member
  · have empty : context.issuerCerts.filter (candidateMatchesIssuer current) = [] :=
      filter_eq_nil_iff.mpr (find?_eq_none.mp none)
    rw [empty, isEmpty_nil, if_pos rfl]
    exact mem_filter.mpr ⟨mem_of_find?_eq_some trusted, find?_some trusted⟩

theorem findIssuer_of_mem {issuer : X509 Key} (among : issuer ∈ candidates context current)
    (one : ∀ other ∈ candidates context current, other = issuer) :
    findIssuer current context = some issuer := by
  cases found : findIssuer current context with
  | some other => rw [one other (mem_candidates found)]
  | none =>
    obtain ⟨own, trusted⟩ := or_eq_none_iff.mp found
    have nobody : context.issuerCerts.filter (candidateMatchesIssuer current) = [] :=
      filter_eq_nil_iff.mpr (find?_eq_none.mp own)
    have nobody' : context.trustedCerts.filter (candidateMatchesIssuer current) = [] :=
      filter_eq_nil_iff.mpr (find?_eq_none.mp trusted)
    unfold candidates at among
    simp only [nobody, nobody', ite_self] at among
    cases among

theorem Built.buildable (built : Built context current chain) :
    Buildable context current chain := by
  induction built with
  | ends stops => exact .ends stops
  | link goesOn found _ ih => exact .link goesOn (mem_candidates found) ih

variable {index : ℕ} {ca : X509 Key}

theorem derInList_perm {first second : List (X509 Key)} (same : first.Perm second)
    (target : List UInt8) : derInList target first = derInList target second :=
  same.any_eq

/-! ### Checks with nothing suppressed -/

variable {findings : List SuppressedFinding}

section

variable (nothing : context.options.suppressedSteps = [])
include nothing

theorem holds_of_usageCheck {status : StatusCode} {holds : Bool} {message : String}
    (passed : usageCheck context status holds message = .ok findings) : holds = true := by
  unfold usageCheck handleCertificateUsageFailure softFailure
    ValidationOptions.isSuppressed at passed
  by_contra fails
  rw [if_neg fails, nothing] at passed
  cases passed

theorem valid_of_ok {c : X509 Key} (passed : validateValidity context index c = .ok findings) :
    certificateIsValidAt c context.now = true := by
  unfold validateValidity softFailure ValidationOptions.isSuppressed at passed
  by_contra fails
  rw [if_neg fails, nothing] at passed
  cases passed

theorem issuer_of_ok
    (passed : validateIssuerCertificateUsage chain context index ca = .ok findings) :
    isCa ca = true ∧ pathLengthSuffices chain index ca = true ∧
      ca.keyUsage.all (·.keyCertSign) = true := by
  obtain ⟨first, identified, passed⟩ := bind_eq_ok.mp passed
  obtain ⟨second, short, passed⟩ := bind_eq_ok.mp passed
  obtain ⟨third, signs, -⟩ := map_eq_ok.mp passed
  exact ⟨holds_of_usageCheck nothing identified, holds_of_usageCheck nothing short,
    holds_of_usageCheck nothing signs⟩

end

/-! ### What is accepted -/

variable [DecidableEq Key]

def Accepts (context : ChainValidationContext Key) (cert : X509 Key) : Prop :=
  ∃ findings, validateCertificateChain cert context = .ok findings

/-- **A chain that passes the checks before those of revocation.** -/
structure Reviewed (context : ChainValidationContext Key) (chain : List (X509 Key)) : Prop where
  verified : verifyChainSignatures chain = .ok ()
  allowed : ∃ findings, validateChainSecurityPolicy chain context = .ok findings
  contains : chainContainsTrustedCert chain context.trustedCerts = true
  valid : ∃ findings, eachIndexed (validateValidity context) 0 chain = .ok findings
  used : ∃ findings, eachIndexed (validateUsage chain context) 0 chain = .ok findings

/-- **The checks that a certificate passes.** -/
theorem accepts_iff (whole : context.options.validateChain = true) :
    Accepts context cert ↔ ∃ chain, buildChain context MAX_CHAIN_LENGTH [] cert = .ok chain ∧
      Reviewed context chain ∧
        ∃ findings, validateChainRevocation chain context = .ok findings := by
  unfold Accepts validateCertificateChain
  rw [if_neg (by simp [whole])]
  constructor
  · rintro ⟨findings, passed⟩
    obtain ⟨chain, built, passed⟩ := bind_eq_ok.mp passed
    obtain ⟨⟨⟩, verified, passed⟩ := bind_eq_ok.mp passed
    obtain ⟨policy, allowed, passed⟩ := bind_eq_ok.mp passed
    split_ifs at passed with untrusted
    obtain ⟨validity, valid, passed⟩ := bind_eq_ok.mp passed
    obtain ⟨usage, used, passed⟩ := bind_eq_ok.mp passed
    obtain ⟨revocation, unrevoked, -⟩ := map_eq_ok.mp passed
    exact ⟨chain, built, ⟨verified, ⟨policy, allowed⟩, Bool.eq_true_of_not_eq_false untrusted,
      ⟨validity, valid⟩, usage, used⟩, revocation, unrevoked⟩
  · rintro ⟨chain, built, ⟨verified, ⟨policy, allowed⟩, trusted, ⟨validity, valid⟩, usage, used⟩,
      revocation, unrevoked⟩
    refine ⟨policy ++ validity ++ usage ++ revocation, ?_⟩
    refine bind_eq_ok.mpr ⟨chain, built, bind_eq_ok.mpr ⟨(), verified, ?_⟩⟩
    refine bind_eq_ok.mpr ⟨policy, allowed, ?_⟩
    rw [if_neg (by simp [trusted])]
    refine bind_eq_ok.mpr ⟨validity, valid, bind_eq_ok.mpr ⟨usage, used, ?_⟩⟩
    exact map_eq_ok.mpr ⟨revocation, unrevoked, rfl⟩

/-- A certificate is signed with the key of another. -/
def IssuedBy (child issuer : X509 Key) : Prop :=
  ∃ key signature, issuer.publicKey = some key ∧
    child.signatureAndAlgorithm = some signature ∧ signature.madeBy = some key

theorem issuedBy_of_ok {child issuer : X509 Key} (verified : verifyIssuedBy child issuer = .ok ()) :
    IssuedBy child issuer := by
  unfold verifyIssuedBy at verified
  cases key : issuer.publicKey with
  | none =>
    rw [key] at verified
    cases verified
  | some key' =>
    rw [key] at verified
    unfold verifyCertificateSignature at verified
    cases signature : child.signatureAndAlgorithm with
    | none =>
      rw [signature] at verified
      cases verified
    | some signature' =>
      obtain ⟨algorithm, madeBy⟩ := signature'
      rw [signature] at verified
      refine ⟨key', ⟨algorithm, madeBy⟩, key, signature, ?_⟩
      by_contra forged
      have forged' : madeBy ≠ some key' := forged
      cases algorithm <;> simp [forged'] at verified

theorem signed_of_ok (verified : verifyChainSignatures chain = .ok ()) :
    chain.IsChain IssuedBy := by
  induction chain with
  | nil => exact .nil
  | cons child rest ih =>
    cases rest with
    | nil => exact .singleton child
    | cons issuer rest =>
      obtain ⟨⟨⟩, first, later⟩ := bind_eq_ok.mp verified
      exact .cons_cons (issuedBy_of_ok first) (ih later)

def OcspGood (context : ChainValidationContext Key) (cert issuerCa : X509 Key) : Prop :=
  ∃ key response basic, issuerCa.publicKey = some key ∧ response ∈ context.ocspResponses ∧
    ocspDefinitive cert key context.now response = some (.good, basic)

/-- No current CRL that is correctly signed by an issuer lists a certificate. -/
def NotListed (context : ChainValidationContext Key) (cert issuerCa : X509 Key) : Prop :=
  ∀ crl ∈ context.crls, ∀ key, issuerCa.publicKey = some key →
    crlIsValid issuerCa key context.now crl = true → crlRevokes crl cert.serialNumber = false

structure SoundChain (context : ChainValidationContext Key) (cert : X509 Key)
    (chain : List (X509 Key)) : Prop where
  starts : chain.head? = some cert
  short : chain.length ≤ MAX_CHAIN_LENGTH
  trusted : ∃ last, chain.getLast? = some last ∧ derInList last.der context.trustedCerts = true
  signed : chain.IsChain IssuedBy
  issuers : ∀ (index : ℕ) (ca : X509 Key), 0 < index → chain[index]? = some ca →
    isCa ca = true ∧ pathLengthSuffices chain index ca = true ∧
      ca.keyUsage.all (·.keyCertSign) = true
  valid : ∀ (index : ℕ) (c : X509 Key), chain[index]? = some c →
    certificateIsValidAt c context.now = true
  unrevoked : context.options.revocationMode ≠ .disabled →
    ∀ (index : ℕ) (c ca : X509 Key), chain[index]? = some c → chain[index + 1]? = some ca →
      OcspGood context c ca ∨ NotListed context c ca

/-! ### The contract -/

def crlAllowed (context : ChainValidationContext Key) (crl : CertificateList Key) : Bool :=
  decide (context.securityPolicy = .none) ||
    isValidCertificateSignatureAlgorithm context.securityPolicy crl.signature.algorithm

def crlPasses (context : ChainValidationContext Key) (cert : X509 Key) (crl : CertificateList Key) :
    Bool :=
  crlAllowed context crl && !crlRevokes crl cert.serialNumber

def CrlsAgree (context : ChainValidationContext Key) (cert issuerCa : X509 Key) : Prop :=
  ∀ key, issuerCa.publicKey = some key →
    (∀ response ∈ context.ocspResponses, ocspDefinitive cert key context.now response = none) →
    ∀ crl ∈ context.crls, ∀ other ∈ context.crls,
      crlIsValid issuerCa key context.now crl = true →
      crlIsValid issuerCa key context.now other = true →
      crlPasses context cert crl = crlPasses context cert other

def LinkPasses (context : ChainValidationContext Key) (chain : List (X509 Key)) (index : ℕ) :
    Prop :=
  ∀ pair, (chain.zip chain.tail)[index]? = some pair →
    ∃ own, validateLinkRevocation context index pair = .ok own

/-- **The CRLs of an issuer agree** wherever the revocation check gets to a certificate of it. -/
def CrlsDecide (context : ChainValidationContext Key) (cert : X509 Key) : Prop :=
  context.options.revocationMode ≠ .disabled →
    ∀ chain, Built context cert chain → chain.length ≤ MAX_CHAIN_LENGTH → Reviewed context chain →
      ∀ (index : ℕ) (c ca : X509 Key), chain[index]? = some c → chain[index + 1]? = some ca →
        (∀ earlier < index, LinkPasses context chain earlier) → CrlsAgree context c ca

/-- **One issuer at each lookup** of a chain that is otherwise as it has to be. -/
def OneIssuer (context : ChainValidationContext Key) (cert : X509 Key) : Prop :=
  ∀ chain, Buildable context cert chain → chain.length ≤ MAX_CHAIN_LENGTH →
    Reviewed context chain → OneAlong context chain

def ChainValidationContext.reorder (context : ChainValidationContext Key)
    (trustedCerts issuerCerts : List (X509 Key)) (crls : List (CertificateList Key)) :
    ChainValidationContext Key :=
  { context with trustedCerts, issuerCerts, crls }

/-- **The contract:** an accepted certificate has a sound chain, and whether one is accepted does
not change when the lists are permuted. -/
structure SoundAndStable (context : ChainValidationContext Key) (cert : X509 Key) : Prop where
  sound : Accepts context cert → ∃ chain, SoundChain context cert chain
  stable : ∀ trustedCerts issuerCerts crls, trustedCerts.Perm context.trustedCerts →
    issuerCerts.Perm context.issuerCerts → crls.Perm context.crls →
    (Accepts (context.reorder trustedCerts issuerCerts crls) cert ↔ Accepts context cert)

section Sound

variable {ca : X509 Key}

theorem findValidCrl_unknown (unknown : ca.publicKey = none) :
    findValidCrl context ca = .ok (none, []) := by
  unfold findValidCrl
  rw [unknown]

variable {key : Key}

theorem findValidCrl_none (known : ca.publicKey = some key)
    (found : context.crls.find? (crlIsValid ca key context.now) = none) :
    findValidCrl context ca = .ok (none, []) := by
  unfold findValidCrl
  rw [known]
  dsimp only
  rw [found]

variable {crl : CertificateList Key}

theorem findValidCrl_some (known : ca.publicKey = some key)
    (found : context.crls.find? (crlIsValid ca key context.now) = some crl) :
    findValidCrl context ca =
      (validateRevocationSignatureAlgorithm crl.signature.algorithm context
        "CRL signature algorithm is not allowed by the security policy").map
        fun findings => (some crl, findings) := by
  unfold findValidCrl
  rw [known]
  dsimp only
  rw [found]

variable {c : X509 Key} {findings : List SuppressedFinding}

theorem ocsp_unknown (known : ca.publicKey = some key)
    (status : ocspStatus context c ca = .ok (none, findings)) :
    ∀ response ∈ context.ocspResponses, ocspDefinitive c key context.now response = none := by
  unfold ocspStatus at status
  rw [known] at status
  dsimp only at status
  cases definitive : context.ocspResponses.findSome? (ocspDefinitive c key context.now) with
  | none => exact findSome?_eq_none_iff.mp definitive
  | some found =>
    rw [definitive] at status
    obtain ⟨allowed, -, same⟩ := map_eq_ok.mp status
    cases same

theorem ocsp_good (status : ocspStatus context c ca = .ok (some .good, findings)) :
    OcspGood context c ca := by
  unfold ocspStatus at status
  cases known : ca.publicKey with
  | none =>
    rw [known] at status
    cases status
  | some key =>
    rw [known] at status
    dsimp only at status
    cases definitive : context.ocspResponses.findSome? (ocspDefinitive c key context.now) with
    | none =>
      rw [definitive] at status
      cases status
    | some found =>
      obtain ⟨said, basic⟩ := found
      rw [definitive] at status
      obtain ⟨allowed, -, same⟩ := map_eq_ok.mp status
      obtain ⟨response, member, good⟩ := exists_of_findSome?_eq_some definitive
      cases same
      exact ⟨key, response, basic, known, member, good⟩

omit [DecidableEq Key] in
theorem algorithm_passes_iff (nothing : context.options.suppressedSteps = [])
    {message : String} :
    validateRevocationSignatureAlgorithm crl.signature.algorithm context message = .ok findings ↔
      crlAllowed context crl = true ∧ findings = [] := by
  have either : crlAllowed context crl = true ↔ context.securityPolicy = .none ∨
      isValidCertificateSignatureAlgorithm context.securityPolicy crl.signature.algorithm =
        true := by
    simp [crlAllowed]
  unfold validateRevocationSignatureAlgorithm
  by_cases allowed : crlAllowed context crl = true
  · rw [if_pos (either.mp allowed), Except.ok.injEq]
    exact ⟨fun same => ⟨allowed, same.symm⟩, fun both => both.2.symm⟩
  · rw [if_neg fun holds => allowed (either.mpr holds), handleSecurityPolicyFailure, softFailure,
      ValidationOptions.isSuppressed, nothing]
    exact ⟨fun passed => (by cases passed), fun both => absurd both.1 allowed⟩

variable {index : ℕ}

section

variable (nothing : context.options.suppressedSteps = [])
  (passed : validateLinkRevocation context index (c, ca) = .ok findings)
include nothing passed

theorem link_of_ok :
    OcspGood context c ca ∨ ∀ key, ca.publicKey = some key →
      (∀ response ∈ context.ocspResponses, ocspDefinitive c key context.now response = none) ∧
      ∀ crl, context.crls.find? (crlIsValid ca key context.now) = some crl →
        crlPasses context c crl = true := by
  obtain ⟨⟨verdict, more⟩, status, passed⟩ := bind_eq_ok.mp passed
  cases verdict with
  | some verdict =>
    cases verdict with
    | good => exact .inl (ocsp_good status)
    | revoked => cases passed
  | none =>
    refine .inr fun key known => ⟨ocsp_unknown known status, fun crl found => ?_⟩
    obtain ⟨⟨crl', more⟩, valid, passed⟩ := bind_eq_ok.mp passed
    rw [findValidCrl_some known found] at valid
    obtain ⟨findings', accepted, same⟩ := map_eq_ok.mp valid
    cases same
    have allowed := ((algorithm_passes_iff nothing).mp accepted).1
    dsimp only at passed
    split_ifs at passed with listed
    simp [crlPasses, allowed, listed]

theorem unrevoked_of_ok (agree : CrlsAgree context c ca) :
    OcspGood context c ca ∨ NotListed context c ca := by
  refine (link_of_ok nothing passed).imp_right fun checked crl member key known valid => ?_
  obtain ⟨unknown, first⟩ := checked key known
  cases found : context.crls.find? (crlIsValid ca key context.now) with
  | none => exact absurd valid (find?_eq_none.mp found crl member)
  | some checkedCrl =>
    have same := agree key known unknown crl member checkedCrl (mem_of_find?_eq_some found)
      valid (find?_some found)
    rw [first checkedCrl found, crlPasses, Bool.and_eq_true, Bool.not_eq_true'] at same
    exact same.2

end

theorem revocation_ok_iff {chain : List (X509 Key)} :
    (∃ findings, validateChainRevocation chain context = .ok findings) ↔
      (context.options.revocationMode ≠ .disabled → ∀ index, LinkPasses context chain index) := by
  unfold validateChainRevocation
  split_ifs with disabled
  · exact iff_of_true ⟨[], rfl⟩ fun checked => absurd disabled checked
  · rw [eachIndexed_ok_iff]
    simp only [Nat.zero_add, LinkPasses, ne_eq, disabled, not_false_eq_true, forall_const]

theorem LinkPasses.of_getElem? {chain : List (X509 Key)} (passes : LinkPasses context chain index)
    (first : chain[index]? = some c) (second : chain[index + 1]? = some ca) :
    ∃ own, validateLinkRevocation context index (c, ca) = .ok own := by
  refine passes (c, ca) ?_
  rw [getElem?_zip_eq_some]
  exact ⟨first, by rw [getElem?_tail]; exact second⟩

theorem sound_of_accepts (whole : context.options.validateChain = true)
    (nothing : context.options.suppressedSteps = []) (decides : CrlsDecide context cert)
    (accepts : Accepts context cert) : ∃ chain, SoundChain context cert chain := by
  obtain ⟨chain, built, reviewed, revocation⟩ := (accepts_iff whole).mp accepts
  obtain ⟨built, short⟩ := buildChain_built built
  refine ⟨chain, built.head, short, built.trusted reviewed.contains,
    signed_of_ok reviewed.verified, ?_, ?_, ?_⟩
  · intro index ca positive found
    obtain ⟨own, passed⟩ := eachIndexed_ok_iff.mp reviewed.used index ca found
    rw [Nat.zero_add, validateUsage, if_neg (Nat.pos_iff_ne_zero.mp positive)] at passed
    exact issuer_of_ok nothing passed
  · intro index c found
    obtain ⟨own, passed⟩ := eachIndexed_ok_iff.mp reviewed.valid index c found
    exact valid_of_ok nothing passed
  · intro checked index c ca first second
    have passes := revocation_ok_iff.mp revocation checked
    obtain ⟨own, passed⟩ := (passes index).of_getElem? first second
    exact unrevoked_of_ok nothing passed
      (decides checked chain built short reviewed index c ca first second fun earlier _ =>
        passes earlier)

end Sound

section Stable

variable {trustedCerts issuerCerts : List (X509 Key)} {crls : List (CertificateList Key)}

section Stores

variable (trusted : trustedCerts.Perm context.trustedCerts)
include trusted

omit [DecidableEq Key] in
theorem stopsAt_reorder (c : X509 Key) :
    stopsAt (context.reorder trustedCerts issuerCerts crls) c = stopsAt context c := by
  unfold stopsAt
  rw [← derInList_perm trusted]
  rfl

theorem reviewed_reorder {chain : List (X509 Key)} :
    Reviewed (context.reorder trustedCerts issuerCerts crls) chain ↔ Reviewed context chain := by
  have contains : chainContainsTrustedCert chain trustedCerts =
      chainContainsTrustedCert chain context.trustedCerts := by
    unfold chainContainsTrustedCert
    simp [derInList_perm trusted]
  exact ⟨fun here => ⟨here.verified, here.allowed, contains ▸ here.contains, here.valid, here.used⟩,
    fun here => ⟨here.verified, here.allowed, contains.symm ▸ here.contains, here.valid, here.used⟩⟩

variable (issuers : issuerCerts.Perm context.issuerCerts)
include issuers

omit [DecidableEq Key] in
theorem mem_candidates_reorder (current issuer : X509 Key) :
    issuer ∈ candidates (context.reorder trustedCerts issuerCerts crls) current ↔
      issuer ∈ candidates context current := by
  have own := issuers.filter (candidateMatchesIssuer current)
  unfold candidates
  show issuer ∈ (if (issuerCerts.filter _).isEmpty then trustedCerts.filter _
    else issuerCerts.filter _) ↔ _
  rw [own.isEmpty_eq]
  dsimp only
  split_ifs
  · exact (trusted.filter _).mem_iff
  · exact own.mem_iff

omit [DecidableEq Key] in
theorem Buildable.reorder {current : X509 Key} {chain : List (X509 Key)}
    (buildable : Buildable (context.reorder trustedCerts issuerCerts crls) current chain) :
    Buildable context current chain := by
  induction buildable with
  | ends stops => exact .ends (stopsAt_reorder trusted _ ▸ stops)
  | link goesOn among _ ih =>
    exact .link (stopsAt_reorder trusted _ ▸ goesOn)
      ((mem_candidates_reorder trusted issuers _ _).mp among) ih

end Stores

omit [DecidableEq Key] in
/-- **A chain with one issuer at each lookup is built in any order.** -/
theorem buildChain_of_oneAlong {first second : ChainValidationContext Key}
    (stops : ∀ c, stopsAt first c = stopsAt second c)
    (among : ∀ c issuer, issuer ∈ candidates first c ↔ issuer ∈ candidates second c)
    {room : ℕ} {seen : List (List UInt8)} {current : X509 Key} {chain : List (X509 Key)}
    (one : OneAlong second chain) (built : buildChain first room seen current = .ok chain) :
    buildChain second room seen current = .ok chain := by
  induction room generalizing seen current chain with
  | zero => cases built
  | succ room ih =>
    have ends := stops current
    unfold stopsAt at ends
    rw [buildChain] at built ⊢
    rw [ends] at built
    split_ifs at built ⊢ with cycle stopped
    · exact built
    · split at built
      · cases built
      · next issuer found =>
        obtain ⟨rest, further, rfl⟩ := map_eq_ok.mp built
        have here := (among current issuer).mp (mem_candidates found)
        have goesOn : stopsAt second current = false := Bool.eq_false_iff.mpr stopped
        rw [findIssuer_of_mem here fun other there =>
          one current mem_cons_self goesOn other there issuer here]
        exact map_eq_ok.mpr ⟨rest, ih (fun c member => one c (mem_cons_of_mem _ member)) further,
          rfl⟩

theorem CrlsAgree.perm {c ca : X509 Key} (agree : CrlsAgree context c ca)
    (same : crls.Perm context.crls) :
    CrlsAgree (context.reorder trustedCerts issuerCerts crls) c ca :=
  fun key known unknown crl member other member' =>
    agree key known unknown crl (same.mem_iff.mp member) other (same.mem_iff.mp member')

theorem link_reorder (nothing : context.options.suppressedSteps = [])
    {trusted trusted' issuers issuers' : List (X509 Key)}
    {first second : List (CertificateList Key)} (same : first.Perm second) {index : ℕ}
    {c ca : X509 Key} (agree : CrlsAgree (context.reorder trusted issuers first) c ca)
    (passed : ∃ findings,
      validateLinkRevocation (context.reorder trusted issuers first) index (c, ca) = .ok findings) :
    ∃ findings,
      validateLinkRevocation (context.reorder trusted' issuers' second) index (c, ca) =
        .ok findings := by
  obtain ⟨findings, passed⟩ := passed
  obtain ⟨⟨verdict, said⟩, status, passed⟩ := bind_eq_ok.mp passed
  have status' : ocspStatus (context.reorder trusted' issuers' second) c ca = .ok (verdict, said) :=
    status
  cases verdict with
  | some verdict =>
    cases verdict with
    | good => exact ⟨said, bind_eq_ok.mpr ⟨_, status', rfl⟩⟩
    | revoked => cases passed
  | none =>
    obtain ⟨⟨crl, more⟩, valid, passed⟩ := bind_eq_ok.mp passed
    suffices there : ∃ crl' more', findValidCrl (context.reorder trusted' issuers' second) ca =
        .ok (crl', more') ∧ crl'.map (crlRevokes · c.serialNumber) =
          crl.map (crlRevokes · c.serialNumber) by
      obtain ⟨crl', more', valid', revokes⟩ := there
      cases crl with
      | none =>
        cases crl' with
        | some listed => cases revokes
        | none =>
          obtain ⟨last, unknown, -⟩ := map_eq_ok.mp passed
          refine ⟨said ++ more' ++ last, bind_eq_ok.mpr ⟨_, status', ?_⟩⟩
          refine bind_eq_ok.mpr ⟨_, valid', map_eq_ok.mpr ⟨last, ?_, rfl⟩⟩
          exact unknown
      | some crl =>
        cases crl' with
        | none => cases revokes
        | some crl' =>
          have lists : crlRevokes crl' c.serialNumber = crlRevokes crl c.serialNumber :=
            some.inj revokes
          dsimp only at passed
          split_ifs at passed with listed
          refine ⟨said ++ more', bind_eq_ok.mpr ⟨_, status', ?_⟩⟩
          refine bind_eq_ok.mpr ⟨_, valid', ?_⟩
          dsimp only
          rw [lists, if_neg listed]
    cases known : ca.publicKey with
    | none =>
      cases (findValidCrl_unknown known).symm.trans valid
      exact ⟨none, [], findValidCrl_unknown known, rfl⟩
    | some key =>
      have unknown := ocsp_unknown known status
      cases found : first.find? (crlIsValid ca key context.now) with
      | none =>
        have found' : second.find? (crlIsValid ca key context.now) = none :=
          find?_eq_none.mpr fun crl member =>
            find?_eq_none.mp found crl (same.mem_iff.mpr member)
        cases (findValidCrl_none known found).symm.trans valid
        exact ⟨none, [], findValidCrl_none known found', rfl⟩
      | some checked =>
        have member := mem_of_find?_eq_some found
        obtain ⟨other, found'⟩ := isSome_iff_exists.mp (find?_isSome.mpr
          ⟨checked, same.mem_iff.mp member, find?_some found⟩)
        obtain ⟨findings', accepted, same'⟩ :=
          map_eq_ok.mp ((findValidCrl_some known found).symm.trans valid)
        cases same'
        have allowed : crlAllowed context checked = true :=
          ((algorithm_passes_iff nothing).mp accepted).1
        dsimp only at passed
        split_ifs at passed with listed
        have agreed : crlPasses context c checked = crlPasses context c other :=
          agree key known unknown checked member other
            (same.mem_iff.mpr (mem_of_find?_eq_some found')) (find?_some found)
            (find?_some found')
        have passes :
            crlAllowed context other = true ∧ crlRevokes other c.serialNumber = false := by
          simpa [crlPasses, allowed, listed] using agreed.symm
        refine ⟨some other, [], (findValidCrl_some known found').trans
          (map_eq_ok.mpr ⟨[], (algorithm_passes_iff nothing).mpr ⟨passes.1, rfl⟩, rfl⟩), ?_⟩
        rw [map_some, map_some, passes.2, Bool.eq_false_iff.mpr listed]

/-- **The links that one order passes, the other passes,** where the CRLs of the links that are got
to agree. -/
theorem links_reorder (nothing : context.options.suppressedSteps = []) {chain : List (X509 Key)}
    (sameCrls : crls.Perm context.crls)
    (agree : ∀ (index : ℕ) (c ca : X509 Key), chain[index]? = some c → chain[index + 1]? = some ca →
      (∀ earlier < index, LinkPasses context chain earlier) → CrlsAgree context c ca) :
    (∀ index, LinkPasses (context.reorder trustedCerts issuerCerts crls) chain index) ↔
      ∀ index, LinkPasses context chain index := by
  constructor
  · intro passes index
    induction index using Nat.strong_induction_on with
    | _ index ih =>
      rintro ⟨c, ca⟩ found
      obtain ⟨there, next⟩ := getElem?_zip_eq_some.mp found
      rw [getElem?_tail] at next
      exact @link_reorder _ context _ nothing trustedCerts context.trustedCerts issuerCerts
        context.issuerCerts crls context.crls sameCrls index c ca
        ((agree index c ca there next ih).perm sameCrls) (passes index _ found)
  · rintro passes index ⟨c, ca⟩ found
    obtain ⟨there, next⟩ := getElem?_zip_eq_some.mp found
    rw [getElem?_tail] at next
    exact @link_reorder _ context _ nothing context.trustedCerts trustedCerts context.issuerCerts
      issuerCerts context.crls crls sameCrls.symm index c ca
      (agree index c ca there next fun earlier _ => passes earlier) (passes index _ found)

/-- **Whether a certificate is accepted does not change when the lists are permuted.** -/
theorem accepts_reorder (whole : context.options.validateChain = true)
    (nothing : context.options.suppressedSteps = []) (decides : CrlsDecide context cert)
    (one : OneIssuer context cert) (trusted : trustedCerts.Perm context.trustedCerts)
    (issuers : issuerCerts.Perm context.issuerCerts) (sameCrls : crls.Perm context.crls) :
    Accepts (context.reorder trustedCerts issuerCerts crls) cert ↔ Accepts context cert := by
  have whole' : (context.reorder trustedCerts issuerCerts crls).options.validateChain = true :=
    whole
  have stops := @stopsAt_reorder _ context _ issuerCerts crls trusted
  have among := @mem_candidates_reorder _ context _ _ crls trusted issuers
  rw [accepts_iff whole, accepts_iff whole']
  refine exists_congr fun chain => ?_
  rw [reviewed_reorder trusted, and_left_comm, and_left_comm (b := Reviewed context chain)]
  refine and_congr_right fun reviewed => ?_
  have alike : buildChain (context.reorder trustedCerts issuerCerts crls) MAX_CHAIN_LENGTH [] cert =
      .ok chain ↔ buildChain context MAX_CHAIN_LENGTH [] cert = .ok chain := by
    constructor
    · intro built
      obtain ⟨linked, short⟩ := buildChain_built built
      exact buildChain_of_oneAlong stops among
        (one chain (linked.buildable.reorder trusted issuers) short reviewed) built
    · intro built
      obtain ⟨linked, short⟩ := buildChain_built built
      have along := one chain linked.buildable short reviewed
      refine buildChain_of_oneAlong (fun c => (stops c).symm)
        (fun c issuer => (among c issuer).symm)
        (fun c member goesOn issuer there other there' => ?_) built
      exact along c member (stops c ▸ goesOn) issuer ((among c issuer).mp there) other
        ((among c other).mp there')
  rw [alike]
  refine and_congr_right fun built => ?_
  obtain ⟨linked, short⟩ := buildChain_built built
  rw [revocation_ok_iff, revocation_ok_iff]
  exact forall_congr' fun checked =>
    links_reorder nothing sameCrls (decides checked chain linked short reviewed)

end Stable

/-- **Chain validation is sound** where the CRLs that the revocation check gets to agree, **and
independent of the order of the stores** where, besides, lookups find one issuer. -/
theorem chain_validation_sound_and_stable (whole : context.options.validateChain = true)
    (nothing : context.options.suppressedSteps = []) (decides : CrlsDecide context cert) :
    (Accepts context cert → ∃ chain, SoundChain context cert chain) ∧
      (OneIssuer context cert → SoundAndStable context cert) :=
  ⟨sound_of_accepts whole nothing decides, fun one =>
    ⟨sound_of_accepts whole nothing decides, fun _ _ _ =>
      accepts_reorder whole nothing decides one⟩⟩

/-! ### One authority -/

def certificateOf (number : ℕ) (subject issuer : Name) (madeBy : ℕ) : X509 ℕ where
  der := [UInt8.ofNat number]
  subject := subject
  issuer := issuer
  authorityKeyIdentifier := none
  subjectKeyIdentifier := none
  publicKey := some number
  keyLength := some 2048
  signatureAndAlgorithm := some ⟨.sha256WithRsa, some madeBy⟩
  notBefore := some 0
  notAfter := some 10
  basicConstraints := some ⟨true, none⟩
  keyUsage := none
  extendedKeyUsage := none
  serialNumber := [UInt8.ofNat number]

def authority : Name := ⟨[1], "CA"⟩

def device : Name := ⟨[2], "device"⟩

def authorityCert : X509 ℕ := certificateOf 1 authority authority 1

/-- The authority with a new key. -/
def renewedCert : X509 ℕ := certificateOf 3 authority authority 3

def leafCert : X509 ℕ := certificateOf 2 device authority 1

def authorityCrl (revoked : List (List UInt8)) : CertificateList ℕ :=
  ⟨authority, some 10, ⟨.sha256WithRsa, some 1⟩, some revoked⟩

def lenientContext (trustedCerts : List (X509 ℕ)) (crls : List (CertificateList ℕ)) :
    ChainValidationContext ℕ :=
  ⟨trustedCerts, [], crls, [], .basic256Sha256, .clientApplication, ⟨true, .lenient, []⟩, 5⟩

theorem buildable_leafCert {crls : List (CertificateList ℕ)} {chain : List (X509 ℕ)}
    (buildable : Buildable (lenientContext [authorityCert] crls) leafCert chain) :
    chain = [leafCert, authorityCert] := by
  cases buildable with
  | ends stops => cases stops
  | link _ among rest =>
    obtain rfl := mem_singleton.mp among
    cases rest with
    | ends _ => rfl
    | link goesOn _ _ => cases goesOn

/-- A leaf that is no longer valid. -/
def expiredCert : X509 ℕ := { leafCert with notAfter := some 4 }

theorem buildable_head {context : ChainValidationContext ℕ} {cert : X509 ℕ} {chain : List (X509 ℕ)}
    (buildable : Buildable context cert chain) : chain[0]? = some cert := by
  cases buildable <;> rfl

theorem expiredCert_unreviewed {crls : List (CertificateList ℕ)} {chain : List (X509 ℕ)}
    (buildable : Buildable (lenientContext [authorityCert] crls) expiredCert chain) :
    ¬ Reviewed (lenientContext [authorityCert] crls) chain := by
  intro reviewed
  obtain ⟨own, passed⟩ :=
    eachIndexed_ok_iff.mp reviewed.valid 0 expiredCert (buildable_head buildable)
  cases passed

/-- A leaf that the authority's CRL does not list is accepted, by a sound chain and in every order;
a leaf that has expired is refused in every order, although the authority's CRLs disagree about it.
-/
theorem chain_validation_sound_and_stable_leaf :
    Accepts (lenientContext [authorityCert] [authorityCrl []]) leafCert ∧
      SoundAndStable (lenientContext [authorityCert] [authorityCrl []]) leafCert ∧
      SoundAndStable (lenientContext [authorityCert] [authorityCrl [], authorityCrl [[2]]])
        expiredCert := by
  refine ⟨⟨[], rfl⟩, (chain_validation_sound_and_stable rfl rfl ?_).2 ?_,
    (chain_validation_sound_and_stable rfl rfl ?_).2 ?_⟩
  · intro _ chain _ _ _ index c ca _ _ _ key _ _ crl member other member' _ _
    rw [mem_singleton.mp member, mem_singleton.mp member']
  · intro chain buildable _ _ c member goesOn one among other among'
    rw [buildable_leafCert buildable] at member
    rcases mem_pair.mp member with rfl | rfl
    · exact (mem_singleton.mp among).trans (mem_singleton.mp among').symm
    · cases goesOn
  · exact fun _ chain built _ reviewed => absurd reviewed (expiredCert_unreviewed built.buildable)
  · exact fun chain buildable _ reviewed => absurd reviewed (expiredCert_unreviewed buildable)

/-- **The first match decides:** of two CRLs of the authority only the second lists the leaf, which
is accepted; and of two certificates of the authority the first has another key, which is refused.
-/
theorem chain_validation_unstable :
    ¬ SoundAndStable (lenientContext [authorityCert] [authorityCrl [], authorityCrl [[2]]])
        leafCert ∧
      ¬ SoundAndStable (lenientContext [renewedCert, authorityCert] []) leafCert := by
  constructor
  · intro contract
    have refused := (contract.stable [authorityCert] [] [authorityCrl [[2]], authorityCrl []] .rfl
      .rfl (.swap _ _ _)).mpr ⟨[], rfl⟩
    obtain ⟨findings, passed⟩ := refused
    cases passed
  · intro contract
    have accepted := (contract.stable [authorityCert, renewedCert] [] [] (.swap _ _ _) .rfl
      .rfl).mp ⟨[], rfl⟩
    obtain ⟨findings, passed⟩ := accepted
    cases passed

end AsyncOpcua.Crypto
