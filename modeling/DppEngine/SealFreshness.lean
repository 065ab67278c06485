import DppEngine.ArchiveTimestamps
import DppEngine.FallibleSteps
import DppEngine.OrderedSets
import DppEngine.QualifiedIssuers
import Mathlib.Data.List.Lex

/-! Until when a seal is archived: which of the archive timestamps it carries verify as its own,
and when the certificate behind the newest of them ends.

The CMS reader and writer and the signature library are parameters. A `SET OF` is held in the
order of its elements' encodings. -/
namespace SealFreshness

open ArchiveTimestamps CmsSeals FallibleSteps OrderedSets
open QualifiedIssuers (TimestampToken)

section Structures

structure ContentInfo where
  contentType : Oid
  /-- As it is encoded. -/
  content : Bytes
  deriving DecidableEq, Repr

def octetOrder (b : Bytes) : List ℕ := b.map UInt8.toNat

def OrderedAttributes (attributeDer : Attribute → Bytes) (attrs : List Attribute) : Prop :=
  Ordered (fun a => octetOrder (attributeDer a)) attrs ∧ ∀ a ∈ attrs, Ordered octetOrder a.values

def Canonical (x : Encodings) (attributeDer : Attribute → Bytes)
    (signerInfoDer : SignerInfo → Bytes)
    (sd : SignedData) : Prop :=
  Ordered (fun c => octetOrder (x.certificateChoice c)) (sd.certificates.getD []) ∧
    Ordered (fun c => octetOrder (x.revocationInfoChoice c)) (sd.crls.getD []) ∧
    Ordered (fun s => octetOrder (signerInfoDer s)) sd.signerInfos ∧
    ∀ s ∈ sd.signerInfos, OrderedAttributes attributeDer (s.signedAttrs.getD []) ∧
      OrderedAttributes attributeDer (s.unsignedAttrs.getD [])

inductive ArchivalFreshness where
  | notArchived
  | current (expires : Instant)
  | lapsed (expires : Instant)
  | unknown
  deriving DecidableEq, Repr

/-- The CMS reader and writer, the signature library, and how values are printed. -/
structure Readers (Key : Type) extends Encodings, Verifier Key where
  sha384 : Bytes → Bytes
  sha512 : Bytes → Bytes
  attributeDer : Attribute → Bytes
  signerInfoDer : SignerInfo → Bytes
  contentInfo : ContentInfo → Bytes
  signedData : SignedData → Bytes
  contentInfoFromDer : Bytes → Except String ContentInfo
  signedDataFromDer : Bytes → Except String SignedData
  /-- The key, the algorithm, the signature and the message. -/
  verifyMessage : Key → AlgorithmIdentifier → Bytes → Bytes → Except VerifyError Unit
  renderTime : Instant → String
  debugFreshness : Except SealError ArchivalFreshness → String
  /-- What is said of a set that is given an element twice. -/
  setDuplicate : String
  contentInfo_reads_back : ∀ c, contentInfoFromDer (contentInfo c) = .ok c
  signedData_reads_back : ∀ {sd}, Canonical toEncodings attributeDer signerInfoDer sd →
    signedDataFromDer (signedData sd) = .ok sd
  signedData_canonical : ∀ {b sd}, signedDataFromDer b = .ok sd →
    Canonical toEncodings attributeDer signerInfoDer sd
  index_reads_back : ∀ i, indexFromDer (index i) = some i

end Structures

section Reading

variable {Key : Type} (x : Readers Key)

def parseDer (der : Bytes) : Except SealError Signed := do
  let info ← (x.contentInfoFromDer der).mapError fun e => malformed ("not CMS: " ++ e)
  let sd ← (x.signedDataFromDer info.content).mapError fun e => malformed ("not SignedData: " ++ e)
  parse sd

def idSha384 : Oid := [2, 16, 840, 1, 101, 3, 4, 2, 2]

def idSha512 : Oid := [2, 16, 840, 1, 101, 3, 4, 2, 3]

/-- The combined identifier, for a signer that names `rsaEncryption` and its digest apart. -/
def verificationAlgorithm (signer : SignerInfo) : AlgorithmIdentifier :=
  if signer.signatureAlgorithm.oid ≠ rsaEncryption then signer.signatureAlgorithm
  else if signer.digestAlg.oid = idSha256 then ⟨[1, 2, 840, 113549, 1, 1, 11], some null⟩
  else if signer.digestAlg.oid = idSha384 then ⟨[1, 2, 840, 113549, 1, 1, 12], some null⟩
  else if signer.digestAlg.oid = idSha512 then ⟨[1, 2, 840, 113549, 1, 1, 13], some null⟩
  else signer.signatureAlgorithm

def signatureHolds (signed : Signed) : Except SealError Bool :=
  match signed.signer.signedAttrs with
  | none => .ok false
  | some signedAttrs =>
    match verifyingKey x.toVerifier signed.certificate with
    | .error e => .error e
    | .ok key =>
      match x.verifyMessage key (verificationAlgorithm signed.signer) signed.signer.signature
          (x.attributes signedAttrs) with
      | .ok () => .ok true
      | .error (.verification _) => .ok false
      | .error (.other e) => .error (malformed ("the signature could not be checked: " ++ e))

def hashUnder (oid : Oid) (bytes : Bytes) : Option Bytes :=
  if oid = idSha256 then some (x.sha256 bytes)
  else if oid = idSha384 then some (x.sha384 bytes)
  else if oid = idSha512 then some (x.sha512 bytes)
  else none

def digestMatches (signed : Signed) (content : Bytes) : Bool :=
  match messageDigest x.toEncodings signed.signer,
    hashUnder x signed.signer.digestAlg.oid content with
  | some claimed, some actual => claimed = actual
  | _, _ => false

def coveredDigestOf (sealDer : Bytes) : Except SealError (Option Bytes) :=
  match parseDer x sealDer with
  | .error _ => .ok none
  | .ok signed => coveredDigest x.toEncodings signed.signer

def verifyAgainstEmbeddedCertificate (sealDer : Bytes) : Except SealError Bool := do
  let signed ← parseDer x sealDer
  if signed.signer.signedAttrs.isNone then
    throw ("this seal carries no signed attributes, so the digest it covers is not inside it and " ++
      "cannot be checked from the envelope alone")
  signatureHolds x signed

/-- A window that cannot be read is refused. -/
def stampedWithinItsCertificate (token : Signed) (genTime : Instant) : Bool :=
  match instantOf token.certificate.notBefore, instantOf token.certificate.notAfter with
  | some notBefore, some notAfter => notBefore ≤ genTime && genTime ≤ notAfter
  | _, _ => false

end Reading

section Freshness

variable {Key : Type} (x : Readers Key)

def idAaEtsArchiveTimestampV3 : Oid := [0, 4, 0, 1733, 2, 4]

def idAaEtsArchiveTimestampV2 : Oid := [1, 2, 840, 113549, 1, 9, 16, 2, 48]

/-- A verified archive timestamp, and when its authority's certificate ends. -/
structure ArchiveToken where
  stamp : TimestampToken
  expires : Instant

theorem parseDer_ok {der : Bytes} {signed : Signed} (h : parseDer x der = .ok signed) :
    ∃ info sd, x.contentInfoFromDer der = .ok info ∧ x.signedDataFromDer info.content = .ok sd ∧
      parse sd = .ok signed := by
  unfold parseDer at h
  obtain ⟨info, hinfo, h⟩ := bind_ok h
  obtain ⟨sd, hsd, hparse⟩ := bind_ok h
  exact ⟨info, sd, mapError_ok hinfo, mapError_ok hsd, hparse⟩

theorem parsed_of_parseDer {der : Bytes} {signed : Signed} (h : parseDer x der = .ok signed) :
    ∃ sd, parse sd = .ok signed := by
  obtain ⟨_, sd, _, _, hparse⟩ := parseDer_ok x h
  exact ⟨sd, hparse⟩

def archivalToken (value : Bytes) (enclosing : Enclosing) (archived : SignerInfo) :
    Option ArchiveToken :=
  match h : parseDer x value with
  | .error _ => none
  | .ok token =>
    if ((signatureHolds x token).toOption.getD false) = false then none
    else if archives x.toEncodings token enclosing archived = false then none
    else
      match token.econtent with
      | none => none
      | some content =>
        if digestMatches x token content = false then none
        else
          match x.tstInfoFromDer content with
          | none => none
          | some info =>
            if stampedWithinItsCertificate token info.genTime = false then none
            else (toUtc token.certificate.notAfter.seconds).map fun expires =>
              ⟨⟨token, info.genTime, parsed_of_parseDer x h⟩, expires⟩

def archivalAttrs (signer : SignerInfo) : List Attribute :=
  (signer.unsignedAttrs.getD []).filter fun a =>
    a.oid = idAaEtsArchiveTimestampV3 || a.oid = idAaEtsArchiveTimestampV2

def archivalTokens (signed : Signed) : List ArchiveToken :=
  (archivalAttrs signed.signer).flatMap fun a => a.values.filterMap fun value =>
    archivalToken x value (.of signed.data) signed.signer

/-- Earlier, or as late and sooner to end. -/
def ArchiveToken.before (t u : ArchiveToken) : Bool :=
  t.stamp.genTime < u.stamp.genTime ||
    (t.stamp.genTime = u.stamp.genTime && t.expires < u.expires)

/-- By time, the certificate that ends later breaking the tie; of equals the last. -/
def newestOf (tokens : List ArchiveToken) : Option ArchiveToken :=
  tokens.foldl (fun best t =>
    match best with
    | none => some t
    | some b => if t.before b then some b else some t) none

def archivalFreshness (sealDer : Bytes) (now : Instant) : Except SealError ArchivalFreshness := do
  let signed ← parseDer x sealDer
  if (archivalAttrs signed.signer).isEmpty then pure .notArchived
  else
    match newestOf (archivalTokens x signed) with
    | none => pure .unknown
    | some newest =>
      pure (if newest.expires > now then .current newest.expires else .lapsed newest.expires)

end Freshness

section Verified

variable {Key : Type} {x : Readers Key} {value : Bytes} {e : Enclosing} {s : SignerInfo}
  {t : ArchiveToken}

theorem archivalToken_eq_some : archivalToken x value e s = some t ↔
    parseDer x value = .ok t.stamp.token ∧
    (signatureHolds x t.stamp.token).toOption.getD false = true ∧
    archives x.toEncodings t.stamp.token e s = true ∧
    ∃ content info, t.stamp.token.econtent = some content ∧
      digestMatches x t.stamp.token content = true ∧ x.tstInfoFromDer content = some info ∧
      stampedWithinItsCertificate t.stamp.token info.genTime = true ∧
      info.genTime = t.stamp.genTime ∧
      toUtc t.stamp.token.certificate.notAfter.seconds = some t.expires := by
  constructor
  · intro h
    unfold archivalToken at h
    split at h
    next => cases h
    next token hparse =>
      split_ifs at h with hholds harchives
      split at h
      next => cases h
      next content hcontent =>
        split_ifs at h with hdigest
        split at h
        next => cases h
        next info hinfo =>
          split_ifs at h with hwindow
          obtain ⟨expires, hexpires, rfl⟩ := Option.map_eq_some_iff.mp h
          exact ⟨hparse, by simpa using hholds, by simpa using harchives, content, info, hcontent,
            by simpa using hdigest, hinfo, by simpa using hwindow, rfl, hexpires⟩
  · rintro ⟨hparse, hholds, harchives, content, info, hcontent, hdigest, hinfo, hwindow, htime,
      hexpires⟩
    unfold archivalToken
    split
    next _ hread => cases hread.symm.trans hparse
    next token hread =>
      cases hread.symm.trans hparse
      simp only [hholds, harchives, hcontent, hdigest, hinfo, hwindow, hexpires, Option.map_some,
        Bool.true_eq_false, if_false]
      rcases t with ⟨⟨token, genTime, _⟩, expires⟩
      cases htime
      rfl

/-- A token that verifies does so with more attributes beside it. -/
theorem archivalToken_of_more {unsignedAttrs : Option (List Attribute)}
    (h : archivalToken x value e s = some t)
    (hmore : attributeValues s ⊆ attributeValues { s with unsignedAttrs }) :
    archivalToken x value e { s with unsignedAttrs } = some t := by
  obtain ⟨hparse, hholds, harchives, hrest⟩ := archivalToken_eq_some.mp h
  exact archivalToken_eq_some.mpr ⟨hparse, hholds, archives_of_more harchives hmore, hrest⟩

/-- A message written out reads as what was written. -/
theorem parseDer_written {contentType : Oid} {sd : SignedData} {signed : Signed}
    (hcanonical : Canonical x.toEncodings x.attributeDer x.signerInfoDer sd)
    (hparse : parse sd = .ok signed) :
    parseDer x (x.contentInfo ⟨contentType, x.signedData sd⟩) = .ok signed := by
  unfold parseDer
  rw [x.contentInfo_reads_back]
  show ((x.signedDataFromDer (x.signedData sd)).mapError _ >>= parse) = .ok signed
  rw [x.signedData_reads_back hcanonical]
  exact hparse

def ArchivalFreshness.expires? : ArchivalFreshness → Option Instant
  | .current expires | .lapsed expires => some expires
  | .notArchived | .unknown => none

def expiryReported (x : Readers Key) (sealDer : Bytes) (now : Instant) : Option Instant :=
  (archivalFreshness x sealDer now).toOption.bind ArchivalFreshness.expires?

/-- What is reported is the newest token's, and the time it is asked at does not matter. -/
theorem expiryReported_eq {sealDer : Bytes} {signed : Signed} (h : parseDer x sealDer = .ok signed)
    (now : Instant) :
    expiryReported x sealDer now = (newestOf (archivalTokens x signed)).map (·.expires) := by
  unfold expiryReported archivalFreshness
  rw [h]
  by_cases hnone : (archivalAttrs signed.signer).isEmpty
  · have htokens : archivalTokens x signed = [] := by
      unfold archivalTokens
      rw [List.isEmpty_iff.mp hnone]
      rfl
    rw [htokens]
    simp only [bind, Except.bind, hnone, if_true]
    rfl
  · simp only [bind, Except.bind, hnone, Bool.false_eq_true, if_false]
    cases newestOf (archivalTokens x signed) with
    | none => rfl
    | some newest =>
      dsimp only
      split_ifs <;> rfl

end Verified

end SealFreshness
