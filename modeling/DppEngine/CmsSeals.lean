import Mathlib.Data.List.Basic

/-! A seal as the CMS and X.509 readers hand it over: its single signer, the certificates and
revocation lists travelling with it, and whether one certificate signed another.

Names, certificates and lists are compared as their DER encodings compare. What the
signature library decides about a key is a parameter. -/
namespace CmsSeals

abbrev Bytes := List UInt8

abbrev Oid := List ℕ

section Structures

structure Name where
  der : Bytes
  deriving DecidableEq, Repr

/-- An ASN.1 `Time`, in seconds since the epoch; it ends with the year 9999. -/
structure Time where
  seconds : ℕ
  inRange : seconds ≤ 253402300799
  deriving DecidableEq, Repr

/-- An instant, in nanoseconds since the epoch. -/
abbrev Instant := Int

/-- `DateTime::from_timestamp`, which ends with the year 262142. -/
def toUtc (seconds : ℕ) : Option Instant :=
  if seconds ≤ 8210266876799 then some ((seconds : Int) * 1000000000) else none

def instantOf (t : Time) : Option Instant := toUtc t.seconds

theorem instantOf_eq (t : Time) : instantOf t = some ((t.seconds : Int) * 1000000000) :=
  if_pos (Nat.le_trans t.inRange (by decide))

structure AlgorithmIdentifier where
  oid : Oid
  parameters : Option Bytes
  deriving DecidableEq, Repr

structure SubjectPublicKeyInfo where
  algorithm : AlgorithmIdentifier
  subjectPublicKey : Bytes
  deriving DecidableEq, Repr

structure Extension where
  extnId : Oid
  critical : Bool
  extnValue : Bytes
  deriving DecidableEq, Repr

structure Certificate where
  serialNumber : Bytes
  issuer : Name
  notBefore : Time
  notAfter : Time
  subject : Name
  subjectPublicKeyInfo : SubjectPublicKeyInfo
  extensions : Option (List Extension)
  signatureAlgorithm : AlgorithmIdentifier
  signature : Bytes
  deriving DecidableEq, Repr

structure RevokedCert where
  serialNumber : Bytes
  revocationDate : Time
  deriving DecidableEq, Repr

structure CertificateList where
  issuer : Name
  thisUpdate : Time
  revokedCertificates : Option (List RevokedCert)
  signatureAlgorithm : AlgorithmIdentifier
  signature : Bytes
  deriving DecidableEq, Repr

inductive CertificateChoice where
  | certificate (certificate : Certificate)
  | other (der : Bytes)
  deriving DecidableEq, Repr

inductive RevocationInfoChoice where
  | crl (list : CertificateList)
  | other (der : Bytes)
  deriving DecidableEq, Repr

/-- Each value with its tag and length, as it is encoded. -/
structure Attribute where
  oid : Oid
  values : List Bytes
  deriving DecidableEq, Repr

inductive SignerIdentifier where
  | issuerAndSerialNumber (issuer : Name) (serialNumber : Bytes)
  | subjectKeyIdentifier (ski : Bytes)
  deriving DecidableEq, Repr

structure SignerInfo where
  version : ℕ
  sid : SignerIdentifier
  digestAlg : AlgorithmIdentifier
  signedAttrs : Option (List Attribute)
  signatureAlgorithm : AlgorithmIdentifier
  signature : Bytes
  unsignedAttrs : Option (List Attribute)
  deriving DecidableEq, Repr

structure SignedData where
  econtentType : Oid
  econtent : Option Bytes
  certificates : Option (List CertificateChoice)
  crls : Option (List RevocationInfoChoice)
  signerInfos : List SignerInfo
  deriving DecidableEq, Repr

structure Signed where
  data : SignedData
  signer : SignerInfo
  certificate : Certificate
  chain : List Certificate
  econtent : Option Bytes
  crls : List CertificateList
  deriving DecidableEq, Repr

end Structures

section Parsing

abbrev SealError := String

def malformed (what : String) : SealError := "cannot read the seal: " ++ what

def idCeSubjectKeyIdentifier : Oid := [2, 5, 29, 14]

/-- Which embedded certificate the `SignerInfo` names. -/
def signerCertificateOf (signer : SignerInfo) (certs : List Certificate) : Option Certificate :=
  match signer.sid with
  | .issuerAndSerialNumber issuer serialNumber =>
    certs.find? fun c => c.issuer = issuer && c.serialNumber = serialNumber
  | .subjectKeyIdentifier ski =>
    certs.find? fun c =>
      ((c.extensions.bind fun e => e.find? fun e => e.extnId = idCeSubjectKeyIdentifier).any
        fun e => ski.isSuffixOf e.extnValue)

def CertificateChoice.certificate? : CertificateChoice → Option Certificate
  | .certificate c => some c
  | .other _ => none

def RevocationInfoChoice.crl? : RevocationInfoChoice → Option CertificateList
  | .crl list => some list
  | .other _ => none

def parse (sd : SignedData) : Except SealError Signed :=
  match sd.signerInfos with
  | [signer] =>
    match sd.certificates with
    | none => .error (malformed "it carries no certificate")
    | some certs =>
      let chain := certs.filterMap CertificateChoice.certificate?
      if chain.isEmpty then .error (malformed "it carries no X.509 certificate")
      else
        match signerCertificateOf signer chain with
        | none => .error (malformed "it names a signer certificate it does not carry")
        | some certificate =>
          .ok ⟨sd, signer, certificate, chain, sd.econtent,
            (sd.crls.getD []).filterMap RevocationInfoChoice.crl?⟩
  | signers =>
    .error (malformed ("expected exactly one signer, found " ++ toString signers.length))

theorem signerCertificateOf_mem {signer : SignerInfo} {certs : List Certificate}
    {c : Certificate} (h : signerCertificateOf signer certs = some c) : c ∈ certs := by
  unfold signerCertificateOf at h
  split at h <;> exact List.mem_of_find?_eq_some h

theorem parse_ok {sd : SignedData} {s : Signed} (h : parse sd = .ok s) :
    ∃ certs, sd.signerInfos = [s.signer] ∧ sd.certificates = some certs ∧
      s.chain = certs.filterMap CertificateChoice.certificate? ∧
      signerCertificateOf s.signer s.chain = some s.certificate ∧ s.data = sd ∧
      s.econtent = sd.econtent ∧
      s.crls = (sd.crls.getD []).filterMap RevocationInfoChoice.crl? := by
  unfold parse at h
  split at h
  next signer hsigner =>
    split at h
    next => cases h
    next certs hcerts =>
      dsimp only at h
      split at h
      next => cases h
      next =>
        split at h
        next => cases h
        next certificate hcert =>
          cases h
          exact ⟨certs, hsigner, hcerts, rfl, hcert, rfl, rfl, rfl⟩
  next => cases h

theorem parse_of_signer {sd : SignedData} {signer : SignerInfo} {certs : List CertificateChoice}
    {c : Certificate} (hsigner : sd.signerInfos = [signer]) (hcerts : sd.certificates = some certs)
    (hc : signerCertificateOf signer (certs.filterMap CertificateChoice.certificate?) = some c) :
    parse sd = .ok ⟨sd, signer, c, certs.filterMap CertificateChoice.certificate?, sd.econtent,
      (sd.crls.getD []).filterMap RevocationInfoChoice.crl?⟩ := by
  have hne : (certs.filterMap CertificateChoice.certificate?).isEmpty = false := by
    rw [List.isEmpty_eq_false_iff]
    exact List.ne_nil_of_mem (signerCertificateOf_mem hc)
  simp only [parse, hsigner, hcerts, hne, hc, Bool.false_eq_true, if_false]

def Signed.withCrls (s : Signed) (crls : Option (List RevocationInfoChoice)) : Signed :=
  { s with
    data := { s.data with crls }
    crls := (crls.getD []).filterMap RevocationInfoChoice.crl? }

theorem parse_withCrls {sd : SignedData} {s : Signed} (h : parse sd = .ok s)
    (crls : Option (List RevocationInfoChoice)) :
    parse { sd with crls } = .ok (s.withCrls crls) := by
  obtain ⟨certs, hsigner, hcerts, hchain, hcert, hdata, hecontent, _⟩ := parse_ok h
  rw [hchain] at hcert
  rw [@parse_of_signer { sd with crls } _ _ _ hsigner hcerts hcert]
  simp only [Signed.withCrls, hchain, hecontent, hdata]

def Signed.withUnsigned (s : Signed) (unsignedAttrs : Option (List Attribute)) : Signed :=
  { s with
    data := { s.data with signerInfos := [{ s.signer with unsignedAttrs }] }
    signer := { s.signer with unsignedAttrs } }

theorem parse_withUnsigned {sd : SignedData} {s : Signed} (h : parse sd = .ok s)
    (unsignedAttrs : Option (List Attribute)) :
    parse { sd with signerInfos := [{ s.signer with unsignedAttrs }] } =
      .ok (s.withUnsigned unsignedAttrs) := by
  obtain ⟨certs, _, hcerts, hchain, hcert, hdata, hecontent, hcrls⟩ := parse_ok h
  rw [hchain] at hcert
  -- the signer is looked up by its identifier, which is the same
  have hfound : signerCertificateOf { s.signer with unsignedAttrs }
      (certs.filterMap CertificateChoice.certificate?) = some s.certificate := hcert
  rw [@parse_of_signer { sd with signerInfos := [{ s.signer with unsignedAttrs }] } _ _ _ rfl
    hcerts hfound]
  simp only [Signed.withUnsigned, hchain, hecontent, hdata, hcrls]

theorem filterMap_certificate (certs : List Certificate) :
    (certs.map CertificateChoice.certificate).filterMap CertificateChoice.certificate? = certs := by
  rw [List.filterMap_map]
  exact List.filterMap_some

theorem certificate_mem_chain {sd : SignedData} {s : Signed} (h : parse sd = .ok s) :
    s.certificate ∈ s.chain := by
  obtain ⟨_, _, _, _, hcert, _⟩ := parse_ok h
  exact signerCertificateOf_mem hcert

end Parsing

section Verification

inductive VerifyError where
  /-- The signature is not this key's. -/
  | verification (why : String)
  | other (why : String)
  deriving DecidableEq, Repr

def VerifyError.text : VerifyError → String
  | .verification why => why
  | .other why => why

/-- The signature library: keys read from a public key, and what each verifies. -/
structure Verifier (Key : Type) where
  keyOf : SubjectPublicKeyInfo → Except String Key
  verifyCertificate : Key → Certificate → Except VerifyError Unit
  verifyCrl : Key → CertificateList → Except VerifyError Unit

variable {Key : Type} (x : Verifier Key)

def rsaEncryption : Oid := [1, 2, 840, 113549, 1, 1, 1]

def null : Bytes := [5, 0]

/-- An `rsaEncryption` key whose parameters were left out is read with the `NULL` supplied. -/
def verifyingKey (c : Certificate) : Except SealError Key :=
  let spki := c.subjectPublicKeyInfo
  if spki.algorithm.oid ≠ rsaEncryption ∨ spki.algorithm.parameters.isSome then
    (x.keyOf spki).mapError fun e => malformed ("no verifier for this key: " ++ e)
  else
    (x.keyOf { spki with algorithm := ⟨spki.algorithm.oid, some null⟩ }).mapError fun e =>
      malformed ("no verifier for this RSA key: " ++ e)

inductive IssuerCheck where
  | verified
  | notSignedByThisIssuer
  | unverifiable (why : String)
  deriving DecidableEq, Repr

inductive Family where
  | rsa
  | ecdsa
  | eddsa
  deriving DecidableEq, Repr

def under (arc oid : Oid) : Bool := arc.isPrefixOf oid && oid ≠ arc

def algorithmFamily (oid : Oid) : Option Family :=
  if under [1, 2, 840, 113549, 1, 1] oid then some .rsa
  else if under [1, 2, 840, 10045] oid then some .ecdsa
  else if oid = [1, 3, 101, 112] ∨ oid = [1, 3, 101, 113] then some .eddsa
  else none

def verifiedUnder (issuer : Certificate) (key : Key) (certificate : Certificate) : IssuerCheck :=
  match algorithmFamily certificate.signatureAlgorithm.oid,
      algorithmFamily issuer.subjectPublicKeyInfo.algorithm.oid with
  | some signature, some k =>
    if signature ≠ k then .notSignedByThisIssuer else check
  | _, _ => check
where
  check : IssuerCheck :=
    match x.verifyCertificate key certificate with
    | .ok () => .verified
    | .error (.verification _) => .notSignedByThisIssuer
    | .error (.other e) => .unverifiable ("the check could not be run: " ++ e)

end Verification

end CmsSeals
