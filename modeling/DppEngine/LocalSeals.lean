import DppEngine.SealRenewal
import DppEngine.SealRevocation

/-! The seals of the local backend at every level, under its own key and with timestamps of its own
authority, and what the readers of seals make of them.

The clock is read anew for the revocation list and for each token. -/
namespace LocalSeals

open ArchiveTimestamps CmsEncodings CmsSeals FallibleSteps OrderedSets Reorderings SealFreshness
open SealRenewal SealRevocation
open QualifiedIssuers (TimestampToken)

section Reading

inductive SealConformanceLevel where
  | baselineB | baselineT | baselineLt | baselineLta
  deriving DecidableEq, Repr

def SealConformanceLevel.survivesCertificateExpiry : SealConformanceLevel → Bool
  | .baselineLt | .baselineLta => true
  | .baselineB | .baselineT => false

def idAaSignatureTimeStampToken : Oid := [1, 2, 840, 113549, 1, 9, 16, 2, 14]

def idAaEtsRevocationValues : Oid := [1, 2, 840, 113549, 1, 9, 16, 2, 24]

def has (signer : SignerInfo) (oid : Oid) : Bool :=
  (signer.unsignedAttrs.getD []).any fun a => a.oid = oid

variable {Key : Type} (x : Readers Key)

/-- The highest level whose material is there, with that of every level below it. -/
def evidencedLevel (sealDer : Bytes) : Except SealError (Option SealConformanceLevel) :=
  match parseDer x sealDer with
  | .error _ => .ok none
  | .ok signed =>
    let timestamped := has signed.signer idAaSignatureTimeStampToken
    let longTerm := !signed.crls.isEmpty || has signed.signer idAaEtsRevocationValues
    let archived :=
      has signed.signer idAaEtsArchiveTimestampV3 || has signed.signer idAaEtsArchiveTimestampV2
    .ok (some (match timestamped, longTerm, archived with
      | true, true, true => .baselineLta
      | true, true, false => .baselineLt
      | true, false, _ => .baselineT
      | false, _, _ => .baselineB))

def signatureStamp (value signature : Bytes) : Option TimestampToken :=
  match h : parseDer x value with
  | .error _ => none
  | .ok token =>
    if ((signatureHolds x token).toOption.getD false) = false then none
    else
      match token.econtent with
      | none => none
      | some content =>
        if digestMatches x token content = false then none
        else
          match x.tstInfoFromDer content with
          | none => none
          | some info =>
            if stampedWithinItsCertificate token info.genTime = false then none
            else
              match hashUnder x info.messageImprint.hashAlgorithm.oid signature with
              | none => none
              | some expected =>
                if info.messageImprint.hashedMessage ≠ expected then none
                else some ⟨token, info.genTime, parsed_of_parseDer x h⟩

def signatureTimestamp (signed : Signed) : Option TimestampToken :=
  ((signed.signer.unsignedAttrs.getD []).find? fun a => a.oid = idAaSignatureTimeStampToken).bind
    fun a =>
      match a.values with
      | [value] => signatureStamp x value signed.signer.signature
      | _ => none

def signatureTimestampToken (sealDer : Bytes) : Except SealError (Option TimestampToken) := do
  let signed ← parseDer x sealDer
  pure (signatureTimestamp x signed)

end Reading

section Writing

structure StampedInfo extends TstInfo where
  version : ℕ
  policy : Oid
  serialNumber : ℕ
  nonce : Option ℕ
  deriving DecidableEq, Repr

structure TbsCertList where
  signature : AlgorithmIdentifier
  issuer : Name
  thisUpdate : Time
  revokedCertificates : Option (List RevokedCert)
  deriving DecidableEq, Repr

def tbsOf (list : CertificateList) : TbsCertList :=
  ⟨list.signatureAlgorithm, list.issuer, list.thisUpdate, list.revokedCertificates⟩

/-- A `genTime` is written without its fraction of a second. -/
def wholeSeconds (at_ : Instant) : Instant := at_ / 1000000000 * 1000000000

/-- The end of the year 9999, where the times that can be written end. -/
def endOfTimes : Instant := 253402300800000000000

/-- The readers, and what is written for them. -/
structure Writers (Key : Type) extends Readers Key where
  tstInfo : StampedInfo → Bytes
  tbsCertList : TbsCertList → Bytes
  /-- What is said of a time that cannot be written. -/
  timeRange : String
  sha256_length : ∀ b, (sha256 b).length = 32
  octetString_reads_back : ∀ b, octetStringFromDer (octetString b) = .ok b
  attributes_tagged : ∀ attrs, ∃ rest, attributes attrs = 0x31 :: rest
  attributeDer_injective : Function.Injective attributeDer
  tstInfo_reads_back : ∀ {i : StampedInfo}, 0 ≤ i.genTime → i.genTime < endOfTimes →
    tstInfoFromDer (tstInfo i) = some ⟨i.messageImprint, wholeSeconds i.genTime⟩

def ecdsaWithSha256 : AlgorithmIdentifier := ⟨[1, 2, 840, 10045, 4, 3, 2], none⟩

structure Credential {Key : Type} (x : Writers Key) where
  certificate : Certificate
  sign : Bytes → Bytes
  key : Key
  selfSigned : certificate.issuer = certificate.subject
  readable : verifyingKey x.toVerifier certificate = .ok key
  verifies : ∀ message, x.verifyMessage key ecdsaWithSha256 (sign message) message = .ok ()
  verifiesCrl : ∀ {list}, list.signatureAlgorithm = ecdsaWithSha256 →
    list.signature = sign (x.tbsCertList (tbsOf list)) → x.verifyCrl key list = .ok ()

structure LocalIdentity {Key : Type} (x : Writers Key) extends Credential x where
  tsa : Credential x
  namedApart : tsa.certificate.subject ≠ certificate.subject

structure Clock where
  listed : Instant
  stamped : Instant
  archived : Instant

def Within (c : Certificate) (at_ : Instant) : Prop :=
  (c.notBefore.seconds : Int) * 1000000000 ≤ at_ ∧
    at_ ≤ (c.notAfter.seconds : Int) * 1000000000

instance (c : Certificate) (at_ : Instant) : Decidable (Within c at_) :=
  inferInstanceAs (Decidable (_ ∧ _))

def Clock.Within {Key : Type} {x : Writers Key} (clock : Clock) (i : LocalIdentity x) : Prop :=
  ∀ at_ ∈ [clock.listed, clock.stamped, clock.archived],
    LocalSeals.Within i.certificate at_ ∧ LocalSeals.Within i.tsa.certificate at_

def idContentType : Oid := [1, 2, 840, 113549, 1, 9, 3]

def idData : Oid := [1, 2, 840, 113549, 1, 7, 1]

def idSignedData : Oid := [1, 2, 840, 113549, 1, 7, 2]

def idCtTstInfo : Oid := [1, 2, 840, 113549, 1, 9, 16, 1, 4]

/-- Allocated to nobody. -/
def developmentTsaPolicy : Oid := [1, 2, 3, 4, 1]

variable {Key : Type} {x : Writers Key}

def setOf {α : Type} (what : String) (key : α → List ℕ) (items : List α) :
    Except SealError (List α) :=
  match insertAll key items with
  | none => .error (config (what ++ ": " ++ x.setDuplicate))
  | some set => .ok set

variable (x) in
def signedAttributes (contentType : Oid) (digest : Bytes) : Except SealError (List Attribute) :=
  setOf (x := x) "cannot collect signed attributes" (attributeKey x.toReaders)
    [⟨idContentType, [x.oid contentType]⟩, ⟨idMessageDigest, [x.octetString digest]⟩]

/-- The signature is over the attributes as a `SET OF`. -/
def Credential.signerInfo (c : Credential x) (signedAttrs : List Attribute)
    (unsignedAttrs : Option (List Attribute)) : SignerInfo where
  version := 1
  sid := .issuerAndSerialNumber c.certificate.issuer c.certificate.serialNumber
  digestAlg := sha256Alg
  signedAttrs := some signedAttrs
  signatureAlgorithm := ecdsaWithSha256
  signature := c.sign (x.attributes signedAttrs)
  unsignedAttrs

variable (x) in
def messageDer (sd : SignedData) : Bytes := x.contentInfo ⟨idSignedData, x.signedData sd⟩

/-- A token over this imprint, which carries its content and its index. -/
def Credential.tokenAt (tsa : Credential x) (imprint : Bytes) (serial : ℕ)
    (index : Option AtsHashIndexV3) (at_ : Instant) (nonce : Option ℕ) :
    Except SealError Bytes := do
  let tstDer := x.tstInfo
    { version := 1
      policy := developmentTsaPolicy
      messageImprint := ⟨sha256Alg, imprint⟩
      serialNumber := serial
      genTime := at_
      nonce }
  let signedAttrs ← signedAttributes x idCtTstInfo (x.sha256 tstDer)
  let signer := tsa.signerInfo signedAttrs (index.map fun i => [indexAttribute x.toReaders i])
  pure (messageDer x
    { econtentType := idCtTstInfo
      econtent := some tstDer
      certificates := some [.certificate tsa.certificate]
      crls := none
      signerInfos := [signer] })

variable (x) in
def attach (signer : SignerInfo) (oid : Oid) (values : List Bytes) :
    Except SealError SignerInfo := do
  let set ← setOf (x := x) "cannot collect unsigned attributes" (attributeKey x.toReaders)
    (signer.unsignedAttrs.getD [] ++ [⟨oid, values⟩])
  pure { signer with unsignedAttrs := some set }

def Credential.withAttribute (tsa : Credential x) (signer : SignerInfo) (oid : Oid)
    (imprint : Bytes) (serial : ℕ) (now : Instant) : Except SealError SignerInfo := do
  let token ← tsa.tokenAt imprint serial none now none
  attach x signer oid [token]

def Credential.withArchiveTimestamp (tsa : Credential x) (signer : SignerInfo) (imprint : Bytes)
    (serial : ℕ) (index : AtsHashIndexV3) (now : Instant) : Except SealError SignerInfo := do
  let token ← tsa.tokenAt imprint serial (some index) now none
  attach x signer idAaEtsArchiveTimestampV3 [token]

/-- The index is built with the signature timestamp there and the archive timestamp not. -/
def LocalIdentity.atLevel (i : LocalIdentity x) (clock : Clock) (signer : SignerInfo)
    (level : SealConformanceLevel) (enclosing : Enclosing) : Except SealError SignerInfo :=
  if level = .baselineB then .ok signer
  else do
    let signer ← i.tsa.withAttribute signer idAaSignatureTimeStampToken
      (x.sha256 signer.signature) 1 clock.stamped
    if level = .baselineLta then
      let index := hashIndex x.toEncodings enclosing signer
      match signedDataHash x.toEncodings signer sha256Alg with
      | none =>
        throw (config ("cannot read the signed-data hash for the archive timestamp: the " ++
          "message-digest attribute is absent or was computed under a different algorithm"))
      | some digest =>
        let imprint ← imprint x.toEncodings enclosing signer digest index
        i.tsa.withArchiveTimestamp signer imprint 2 index clock.archived
    else pure signer

def LocalIdentity.crl (i : LocalIdentity x) (thisUpdate : Time) : CertificateList :=
  let tbs : TbsCertList := ⟨ecdsaWithSha256, i.certificate.subject, thisUpdate, none⟩
  { issuer := tbs.issuer
    thisUpdate
    revokedCertificates := tbs.revokedCertificates
    signatureAlgorithm := ecdsaWithSha256
    signature := i.sign (x.tbsCertList tbs) }

def LocalIdentity.revocationMaterial (i : LocalIdentity x) (level : SealConformanceLevel)
    (now : Instant) : Except SealError (Option (List RevocationInfoChoice)) :=
  if level.survivesCertificateExpiry = false then .ok none
  else if now < 0 then
    .error (config "the clock is before 1970: second time provided was later than self")
  else if h : (now / 1000000000).toNat ≤ 253402300799 then
    .ok (some [.crl (i.crl ⟨(now / 1000000000).toNat, h⟩)])
  else .error (config ("cannot encode thisUpdate: " ++ x.timeRange))

variable (x) in
def certificateKey (c : CertificateChoice) : List ℕ := octetOrder (x.certificateChoice c)

def LocalIdentity.signDetachedAt (i : LocalIdentity x) (clock : Clock) (digest : Bytes)
    (level : SealConformanceLevel) : Except SealError Bytes := do
  let signedAttrs ← signedAttributes x idData digest
  let signer := i.signerInfo signedAttrs none
  let certificates ← setOf (x := x) "cannot attach the TSA certificate" (certificateKey x)
    (.certificate i.certificate ::
      if level.survivesCertificateExpiry || level = .baselineT then
        [.certificate i.tsa.certificate]
      else [])
  let crls ← i.revocationMaterial level clock.listed
  let signer ← i.atLevel clock signer level ⟨idData, some certificates, crls⟩
  pure (messageDer x
    { econtentType := idData
      econtent := none
      certificates := some certificates
      crls
      signerInfos := [signer] })

end Writing

section Sets

theorem octetOrder_injective : Function.Injective octetOrder := by
  apply Function.Injective.list_map
  exact fun a b h => UInt8.toNat_inj.mp h

variable {Key : Type} {x : Writers Key}

theorem setOf_ok {α : Type} {what : String} {key : α → List ℕ} {items : List α}
    (h : (items.map key).Nodup) : ∃ set, setOf (x := x) what key items = .ok set ∧
      set.Perm items ∧ Ordered key set := by
  obtain ⟨set, hset, hperm, hordered⟩ := insertAll_of_nodup h
  refine ⟨set, ?_, hperm, hordered⟩
  unfold setOf
  rw [hset]

/-- Attributes of different types have different places in a set. -/
theorem attributeKey_ne {a b : Attribute} (h : a.oid ≠ b.oid) :
    attributeKey x.toReaders a ≠ attributeKey x.toReaders b := by
  intro hkey
  exact h (congrArg Attribute.oid (x.attributeDer_injective (octetOrder_injective hkey)))

theorem certificateKey_ne {c d : Certificate} (h : c.subject ≠ d.subject) :
    certificateKey x (.certificate c) ≠ certificateKey x (.certificate d) := by
  intro hkey
  have hsame := x.certificateChoice_delimits.injective (octetOrder_injective hkey)
  cases hsame
  exact h rfl

theorem orderedAttributes_of_single {attrs : List Attribute}
    (h : Ordered (attributeKey x.toReaders) attrs) (hsingle : ∀ a ∈ attrs, ∃ v, a.values = [v]) :
    OrderedAttributes x.attributeDer attrs := by
  refine ⟨h, fun a ha => ?_⟩
  obtain ⟨v, hv⟩ := hsingle a ha
  rw [hv]
  exact List.pairwise_singleton _ _

theorem signedAttributes_ok (contentType : Oid) (digest : Bytes) :
    ∃ attrs, signedAttributes x contentType digest = .ok attrs ∧
      OrderedAttributes x.attributeDer attrs ∧
      attrs.find? (fun a => a.oid = idMessageDigest) =
        some ⟨idMessageDigest, [x.octetString digest]⟩ := by
  have hne : attributeKey x.toReaders ⟨idContentType, [x.oid contentType]⟩ ≠
      attributeKey x.toReaders ⟨idMessageDigest, [x.octetString digest]⟩ :=
    attributeKey_ne (show idContentType ≠ idMessageDigest by decide)
  obtain ⟨attrs, hattrs, hperm, hordered⟩ := @setOf_ok _ x _ "cannot collect signed attributes"
    (attributeKey x.toReaders) [⟨idContentType, [x.oid contentType]⟩,
      ⟨idMessageDigest, [x.octetString digest]⟩] (by simpa using hne)
  have hmem : ∀ a ∈ attrs, a = ⟨idContentType, [x.oid contentType]⟩ ∨
      a = ⟨idMessageDigest, [x.octetString digest]⟩ := by
    intro a ha
    simpa using hperm.mem_iff.mp ha
  refine ⟨attrs, hattrs, orderedAttributes_of_single hordered ?_, find?_of_sole ?_ ?_ ?_⟩
  · intro a ha
    rcases hmem a ha with rfl | rfl
    · exact ⟨_, rfl⟩
    · exact ⟨_, rfl⟩
  · exact hperm.mem_iff.mpr (by simp)
  · exact decide_eq_true rfl
  · intro b hb hdigest
    rcases hmem b hb with rfl | rfl
    · exact absurd (of_decide_eq_true hdigest) (show idContentType ≠ idMessageDigest by decide)
    · rfl

theorem whole_between {first last : ℕ} {at_ : Int} (hrange : last ≤ 253402300799)
    (hfirst : (first : Int) * 1000000000 ≤ at_) (hlast : at_ ≤ (last : Int) * 1000000000) :
    0 ≤ at_ ∧ at_ < 253402300800000000000 ∧
      (first : Int) * 1000000000 ≤ at_ / 1000000000 * 1000000000 ∧
      at_ / 1000000000 * 1000000000 ≤ (last : Int) * 1000000000 := by
  omega

theorem seconds_inRange {at_ : Int} (hrange : at_ < 253402300800000000000) :
    (at_ / 1000000000).toNat ≤ 253402300799 := by
  omega

theorem wholeSeconds_within {c : Certificate} {at_ : Instant} (h : Within c at_) :
    0 ≤ at_ ∧ at_ < endOfTimes ∧
      (c.notBefore.seconds : Int) * 1000000000 ≤ wholeSeconds at_ ∧
      wholeSeconds at_ ≤ (c.notAfter.seconds : Int) * 1000000000 :=
  whole_between c.notAfter.inRange h.1 h.2

end Sets

section Messages

variable {Key : Type} {x : Writers Key} {c : Credential x} {sd : SignedData}
  {signedAttrs : List Attribute} {unsignedAttrs : Option (List Attribute)} {signed : Signed}
  {contentType : Oid} {digest : Bytes}

/-- A message under a credential is read with the credential's certificate, while no other
certificate in it has that issuer. -/
theorem parseDer_message {certs : List CertificateChoice}
    (hsigner : sd.signerInfos = [c.signerInfo signedAttrs unsignedAttrs])
    (hcerts : sd.certificates = some certs) (hmem : .certificate c.certificate ∈ certs)
    (halone : ∀ d, .certificate d ∈ certs → d.issuer = c.certificate.issuer → d = c.certificate)
    (hcanonical : Canonical x.toEncodings x.attributeDer x.signerInfoDer sd) :
    parseDer x.toReaders (messageDer x sd) =
      .ok ⟨sd, c.signerInfo signedAttrs unsignedAttrs, c.certificate,
        certs.filterMap CertificateChoice.certificate?, sd.econtent,
        (sd.crls.getD []).filterMap RevocationInfoChoice.crl?⟩ := by
  have hfound : signerCertificateOf (c.signerInfo signedAttrs unsignedAttrs)
      (certs.filterMap CertificateChoice.certificate?) = some c.certificate := by
    refine find?_of_sole ?_ ?_ ?_
    · exact List.mem_filterMap.mpr ⟨_, hmem, rfl⟩
    · simp
    · intro d hd hnamed
      obtain ⟨choice, hchoice, hd⟩ := List.mem_filterMap.mp hd
      cases choice with
      | other der => cases hd
      | certificate e =>
        cases hd
        simp only [Bool.and_eq_true, decide_eq_true_eq] at hnamed
        exact halone _ hchoice hnamed.1
  exact parseDer_written hcanonical (parse_of_signer hsigner hcerts hfound)

theorem canonical_message {certs : List CertificateChoice}
    (hsigner : sd.signerInfos = [c.signerInfo signedAttrs unsignedAttrs])
    (hcerts : sd.certificates = some certs) (hordered : Ordered (certificateKey x) certs)
    (hcrls : (sd.crls.getD []).length ≤ 1) (hsigned : OrderedAttributes x.attributeDer signedAttrs)
    (hunsigned : OrderedAttributes x.attributeDer (unsignedAttrs.getD [])) :
    Canonical x.toEncodings x.attributeDer x.signerInfoDer sd := by
  unfold Canonical
  rw [hsigner, hcerts]
  refine ⟨hordered, ?_, List.pairwise_singleton _ _, ?_⟩
  · rcases hlist : sd.crls.getD [] with _ | ⟨crl, _ | ⟨other, crls⟩⟩
    · exact List.Pairwise.nil
    · exact List.pairwise_singleton _ _
    · rw [hlist] at hcrls
      simp at hcrls
  · intro signer hmem
    rw [List.mem_singleton.mp hmem]
    exact ⟨hsigned, hunsigned⟩

theorem signatureHolds_message (hsigner : signed.signer = c.signerInfo signedAttrs unsignedAttrs)
    (hcertificate : signed.certificate = c.certificate) :
    signatureHolds x.toReaders signed = .ok true := by
  have halgorithm : verificationAlgorithm (c.signerInfo signedAttrs unsignedAttrs) =
      ecdsaWithSha256 := if_pos (show ecdsaWithSha256.oid ≠ rsaEncryption by decide)
  have hverifies := c.verifies (x.attributes signedAttrs)
  unfold signatureHolds
  rw [hsigner, hcertificate]
  dsimp only [Credential.signerInfo] at halgorithm ⊢
  rw [c.readable]
  dsimp only
  rw [halgorithm, hverifies]

theorem messageDigest_message
    (hfound : signedAttrs.find? (fun a => a.oid = idMessageDigest) =
      some ⟨idMessageDigest, [x.octetString digest]⟩) :
    messageDigest x.toEncodings (c.signerInfo signedAttrs unsignedAttrs) = some digest := by
  have hread := x.octetString_reads_back digest
  unfold messageDigest
  dsimp only [Credential.signerInfo, Option.bind_some]
  rw [hfound]
  dsimp only [Option.bind_some, List.head?_cons]
  rw [hread]
  rfl

end Messages

section Tokens

variable {Key : Type} {x : Writers Key} {tsa : Credential x} {imprint der signature : Bytes}
  {index : Option AtsHashIndexV3} {at_ : Instant} {token : Signed} {e : Enclosing} {s : SignerInfo}

structure Stamped (tsa : Credential x) (imprint : Bytes) (index : Option AtsHashIndexV3)
    (at_ : Instant) (der : Bytes) (token : Signed) : Prop where
  reads : parseDer x.toReaders der = .ok token
  certificate : token.certificate = tsa.certificate
  holds : signatureHolds x.toReaders token = .ok true
  index : tokenIndex x.toEncodings token = index
  content : ∃ content, token.econtent = some content ∧
    digestMatches x.toReaders token content = true ∧
    x.tstInfoFromDer content = some ⟨⟨sha256Alg, imprint⟩, wholeSeconds at_⟩
  within : stampedWithinItsCertificate token (wholeSeconds at_) = true

/-- What the authority stamps inside its window reads as its token. -/
theorem tokenAt_stamped (serial : ℕ) (nonce : Option ℕ) (h : Within tsa.certificate at_) :
    ∃ der token, tsa.tokenAt imprint serial index at_ nonce = .ok der ∧
      Stamped tsa imprint index at_ der token := by
  obtain ⟨hpositive, hrange, hbefore, hafter⟩ := wholeSeconds_within h
  let info : StampedInfo :=
    ⟨⟨⟨sha256Alg, imprint⟩, at_⟩, 1, developmentTsaPolicy, serial, nonce⟩
  obtain ⟨attrs, hattrs, hordered, hfound⟩ :=
    @signedAttributes_ok _ x idCtTstInfo (x.sha256 (x.tstInfo info))
  let unsignedAttrs := index.map fun i => [indexAttribute x.toReaders i]
  let sd : SignedData := ⟨idCtTstInfo, some (x.tstInfo info), some [.certificate tsa.certificate],
    none, [tsa.signerInfo attrs unsignedAttrs]⟩
  have hunsigned : OrderedAttributes x.attributeDer (unsignedAttrs.getD []) := by
    cases index with
    | none => exact ⟨List.Pairwise.nil, nofun⟩
    | some i =>
      refine orderedAttributes_of_single (List.pairwise_singleton _ _) fun a ha => ?_
      rw [List.mem_singleton.mp ha]
      exact ⟨_, rfl⟩
  have hcanonical : Canonical x.toEncodings x.attributeDer x.signerInfoDer sd :=
    canonical_message rfl rfl (List.pairwise_singleton _ _) (Nat.zero_le 1) hordered hunsigned
  have hreads := @parseDer_message _ x tsa sd attrs unsignedAttrs _ rfl rfl
    (List.mem_singleton_self _) (fun d hd _ => by cases List.mem_singleton.mp hd; rfl) hcanonical
  refine ⟨messageDer x sd, _, ?_, hreads, rfl, signatureHolds_message rfl rfl, ?_, ?_, ?_⟩
  · change (signedAttributes x idCtTstInfo (x.sha256 (x.tstInfo info)) >>= _) = _
    rw [hattrs]
    rfl
  · cases index with
    | none => rfl
    | some i => exact x.index_reads_back i
  · refine ⟨_, rfl, ?_, x.tstInfo_reads_back hpositive hrange⟩
    have hdigest := @messageDigest_message _ x tsa attrs unsignedAttrs _ hfound
    unfold digestMatches
    rw [hdigest]
    exact decide_eq_true rfl
  · unfold stampedWithinItsCertificate
    rw [instantOf_eq, instantOf_eq]
    exact Bool.and_eq_true_iff.mpr ⟨decide_eq_true hbefore, decide_eq_true hafter⟩

/-- A token over the hash of a signature is its timestamp. -/
theorem Stamped.signatureStamp (h : Stamped tsa (x.sha256 signature) index at_ der token) :
    ∃ t, LocalSeals.signatureStamp x.toReaders der signature = some t ∧
      t.genTime = wholeSeconds at_ := by
  obtain ⟨content, hcontent, hdigest, hinfo⟩ := h.content
  have hhash : hashUnder x.toReaders sha256Alg.oid signature = some (x.sha256 signature) :=
    if_pos rfl
  unfold LocalSeals.signatureStamp
  split
  next _ hread => cases hread.symm.trans h.reads
  next token' hread =>
    cases hread.symm.trans h.reads
    simp only [h.holds, Except.toOption, Option.getD_some, hcontent, hdigest, hinfo, h.within,
      hhash, Bool.true_eq_false, if_false, ne_eq, not_true_eq_false]
    exact ⟨_, rfl, rfl⟩

/-- A token over the imprint of a signer under its own index archives it. -/
theorem Stamped.archives {digest : Bytes}
    (h : Stamped tsa imprint (some (hashIndex x.toEncodings e s)) at_ der token)
    (hdigest : signedDataHash x.toEncodings s sha256Alg = some digest)
    (himprint : ArchiveTimestamps.imprint x.toEncodings e s digest
      (hashIndex x.toEncodings e s) = .ok imprint) :
    ArchiveTimestamps.archives x.toEncodings token e s = true := by
  obtain ⟨content, hcontent, _, hinfo⟩ := h.content
  have hsatisfied :
      indexIsSatisfied x.toEncodings e s (hashIndex x.toEncodings e s) = true := by
    refine indexIsSatisfied_iff.mpr ⟨rfl, ?_, ?_, ?_⟩ <;>
      exact fun named hnamed => List.mem_map.mp hnamed
  have hhash : signedDataHash x.toEncodings s
      (hashIndex x.toEncodings e s).hashIndAlgorithm = some digest := hdigest
  unfold ArchiveTimestamps.archives
  rw [h.index]
  dsimp only
  rw [hsatisfied, hhash]
  dsimp only [Bool.not_true]
  rw [himprint, hcontent, Option.bind_some, hinfo]
  simp [hashIndex]

/-- An archiving token of the authority lasts as long as its certificate. -/
theorem Stamped.archivalToken (h : Stamped tsa imprint index at_ der token)
    (harchives : ArchiveTimestamps.archives x.toEncodings token e s = true) :
    ∃ t, SealFreshness.archivalToken x.toReaders der e s = some t ∧
      t.expires = (tsa.certificate.notAfter.seconds : Int) * 1000000000 := by
  obtain ⟨content, hcontent, hdigest, hinfo⟩ := h.content
  refine ⟨⟨⟨token, wholeSeconds at_, parsed_of_parseDer x.toReaders h.reads⟩, _⟩,
    archivalToken_eq_some.mpr ⟨h.reads, ?_, harchives, content, _, hcontent, hdigest, hinfo,
      h.within, rfl, ?_⟩, rfl⟩
  · rw [h.holds]
    rfl
  · rw [h.certificate]
    exact instantOf_eq _

end Tokens

section Levels

variable {Key : Type} {x : Writers Key} {i : LocalIdentity x} {clock : Clock} {e : Enclosing}
  {s : SignerInfo} {level : SealConformanceLevel} {unsignedAttrs : Option (List Attribute)}

inductive Added (i : LocalIdentity x) (clock : Clock) (e : Enclosing) (s : SignerInfo) :
    SealConformanceLevel → Option (List Attribute) → Prop where
  | nothing : Added i clock e s .baselineB none
  | stamp {level : SealConformanceLevel} {der : Bytes} {token : Signed}
      (kind : level = .baselineT ∨ level = .baselineLt)
      (stamped : Stamped i.tsa (x.sha256 s.signature) none clock.stamped der token) :
      Added i clock e s level (some [⟨idAaSignatureTimeStampToken, [der]⟩])
  | archive {der archiveDer : Bytes} {token archiveToken : Signed} {imprint : Bytes}
      {index : AtsHashIndexV3} {attrs : List Attribute}
      (stamped : Stamped i.tsa (x.sha256 s.signature) none clock.stamped der token)
      (archived : Stamped i.tsa imprint (some index) clock.archived archiveDer archiveToken)
      (archives : ArchiveTimestamps.archives x.toEncodings archiveToken e
        { s with unsignedAttrs := some attrs } = true)
      (carried : attrs.Perm [⟨idAaEtsArchiveTimestampV3, [archiveDer]⟩,
        ⟨idAaSignatureTimeStampToken, [der]⟩])
      (ordered : Ordered (attributeKey x.toReaders) attrs) :
      Added i clock e s .baselineLta (some attrs)

theorem attach_ok {oid : Oid} {values : List Bytes}
    (hset : ((s.unsignedAttrs.getD []).map (attributeKey x.toReaders)).Nodup)
    (hnew : ∀ a ∈ s.unsignedAttrs.getD [], oid ≠ a.oid) :
    ∃ attrs, attach x s oid values = .ok { s with unsignedAttrs := some attrs } ∧
      attrs.Perm (⟨oid, values⟩ :: s.unsignedAttrs.getD []) ∧
      Ordered (attributeKey x.toReaders) attrs := by
  have hperm := List.perm_append_singleton (⟨oid, values⟩ : Attribute) (s.unsignedAttrs.getD [])
  have hnodup : ((s.unsignedAttrs.getD [] ++ [(⟨oid, values⟩ : Attribute)]).map
      (attributeKey x.toReaders)).Nodup := by
    rw [(hperm.map _).nodup_iff, List.map_cons, List.nodup_cons]
    refine ⟨fun hthere => ?_, hset⟩
    obtain ⟨a, ha, hkey⟩ := List.mem_map.mp hthere
    exact attributeKey_ne (hnew a ha) hkey.symm
  obtain ⟨attrs, hattrs, hall, hordered⟩ :=
    @setOf_ok _ x _ "cannot collect unsigned attributes" _ _ hnodup
  refine ⟨attrs, ?_, hall.trans hperm, hordered⟩
  unfold attach
  rw [hattrs]
  rfl

theorem withAttribute_ok {oid : Oid} {imprint : Bytes} {now : Instant} {tsa : Credential x}
    (serial : ℕ) (hbare : s.unsignedAttrs = none) (h : Within tsa.certificate now) :
    ∃ der token, tsa.withAttribute s oid imprint serial now =
        .ok { s with unsignedAttrs := some [⟨oid, [der]⟩] } ∧
      Stamped tsa imprint none now der token := by
  obtain ⟨der, token, hder, hstamped⟩ :=
    @tokenAt_stamped _ x tsa imprint none now serial none h
  obtain ⟨attrs, hattrs, hperm, _⟩ := @attach_ok _ x s oid [der]
    (by rw [hbare]; exact List.nodup_nil) (by rw [hbare]; exact nofun)
  rw [hbare] at hperm
  cases List.perm_singleton.mp hperm
  refine ⟨der, token, ?_, hstamped⟩
  unfold Credential.withAttribute
  rw [hder]
  exact hattrs

theorem withArchiveTimestamp_ok {imprint : Bytes} {index : AtsHashIndexV3} {now : Instant}
    {tsa : Credential x} {a : Attribute} (serial : ℕ) (hone : s.unsignedAttrs = some [a])
    (ha : idAaEtsArchiveTimestampV3 ≠ a.oid) (h : Within tsa.certificate now) :
    ∃ der token attrs, tsa.withArchiveTimestamp s imprint serial index now =
        .ok { s with unsignedAttrs := some attrs } ∧
      Stamped tsa imprint (some index) now der token ∧
      attrs.Perm [⟨idAaEtsArchiveTimestampV3, [der]⟩, a] ∧
      Ordered (attributeKey x.toReaders) attrs := by
  obtain ⟨der, token, hder, hstamped⟩ :=
    @tokenAt_stamped _ x tsa imprint (some index) now serial none h
  obtain ⟨attrs, hattrs, hperm, hordered⟩ := @attach_ok _ x s idAaEtsArchiveTimestampV3 [der]
    (by rw [hone]; exact List.nodup_singleton _) (by rw [hone]; simpa using ha)
  rw [hone] at hperm
  refine ⟨der, token, attrs, ?_, hstamped, hperm, hordered⟩
  unfold Credential.withArchiveTimestamp
  rw [hder]
  exact hattrs

/-- A signer with signed attributes has an imprint under any index. -/
theorem imprint_ok {signedAttrs : List Attribute} (digest : Bytes) (index : AtsHashIndexV3)
    (hsigned : s.signedAttrs = some signedAttrs) :
    ∃ input, imprint x.toEncodings e s digest index = .ok (x.sha256 input) := by
  obtain ⟨rest, htagged⟩ := x.attributes_tagged signedAttrs
  unfold imprint imprintInput signedAttrsAsInSignerInfo
  rw [hsigned]
  dsimp only
  rw [htagged]
  exact ⟨_, rfl⟩

theorem signedDataHash_message {c : Credential x} {signedAttrs : List Attribute} {digest : Bytes}
    (hfound : signedAttrs.find? (fun a => a.oid = idMessageDigest) =
      some ⟨idMessageDigest, [x.octetString digest]⟩) :
    signedDataHash x.toEncodings (c.signerInfo signedAttrs unsignedAttrs) sha256Alg =
      some digest := by
  have hsame : ¬sha256Alg.oid ≠ (c.signerInfo signedAttrs unsignedAttrs).digestAlg.oid :=
    not_not.mpr rfl
  unfold signedDataHash
  rw [if_neg hsame]
  exact messageDigest_message hfound

theorem atLevel_ok {signedAttrs : List Attribute} {digest : Bytes}
    (hfound : signedAttrs.find? (fun a => a.oid = idMessageDigest) =
      some ⟨idMessageDigest, [x.octetString digest]⟩)
    (hstamped : Within i.tsa.certificate clock.stamped)
    (harchived : Within i.tsa.certificate clock.archived) :
    ∃ unsignedAttrs, i.atLevel clock (i.signerInfo signedAttrs none) level e =
        .ok (i.signerInfo signedAttrs unsignedAttrs) ∧
      Added i clock e (i.signerInfo signedAttrs none) level unsignedAttrs := by
  by_cases hplain : level = .baselineB
  · subst hplain
    exact ⟨none, rfl, .nothing⟩
  obtain ⟨der, token, hder, hstamp⟩ := @withAttribute_ok _ x (i.signerInfo signedAttrs none)
    idAaSignatureTimeStampToken (x.sha256 (i.sign (x.attributes signedAttrs))) clock.stamped i.tsa 1
    rfl hstamped
  have hfirst : i.tsa.withAttribute (i.signerInfo signedAttrs none) idAaSignatureTimeStampToken
      (x.sha256 (i.signerInfo signedAttrs none).signature) 1 clock.stamped =
        .ok (i.signerInfo signedAttrs (some [⟨idAaSignatureTimeStampToken, [der]⟩])) := hder
  unfold LocalIdentity.atLevel
  rw [if_neg hplain, hfirst]
  by_cases hlta : level = .baselineLta
  · subst hlta
    have hhash := @signedDataHash_message _ x (some [⟨idAaSignatureTimeStampToken, [der]⟩])
      i.toCredential signedAttrs digest hfound
    obtain ⟨input, himprint⟩ := @imprint_ok _ x e
      (i.signerInfo signedAttrs (some [⟨idAaSignatureTimeStampToken, [der]⟩])) signedAttrs digest
      (hashIndex x.toEncodings e
        (i.signerInfo signedAttrs (some [⟨idAaSignatureTimeStampToken, [der]⟩]))) rfl
    obtain ⟨archiveDer, archiveToken, attrs, hattrs, hstamped', hperm, hordered⟩ :=
      @withArchiveTimestamp_ok _ x
        (i.signerInfo signedAttrs (some [⟨idAaSignatureTimeStampToken, [der]⟩])) (x.sha256 input)
        (hashIndex x.toEncodings e
          (i.signerInfo signedAttrs (some [⟨idAaSignatureTimeStampToken, [der]⟩])))
        clock.archived i.tsa _ 2 rfl
        (show idAaEtsArchiveTimestampV3 ≠ idAaSignatureTimeStampToken by decide) harchived
    have hmore : attributeValues
          (i.signerInfo signedAttrs (some [⟨idAaSignatureTimeStampToken, [der]⟩])) ⊆
        attributeValues (i.signerInfo signedAttrs (some attrs)) := by
      intro v hv
      obtain ⟨a, ha, hva⟩ := List.mem_flatMap.mp hv
      exact List.mem_flatMap.mpr ⟨a, hperm.mem_iff.mpr (List.mem_cons_of_mem _ ha), hva⟩
    have harchives := archives_of_more (hstamped'.archives hhash himprint) hmore
    refine ⟨some attrs, ?_, .archive hstamp hstamped' harchives hperm hordered⟩
    simp only [bind, Except.bind, if_true, hhash, himprint]
    exact hattrs
  · refine ⟨some [⟨idAaSignatureTimeStampToken, [der]⟩], ?_, .stamp ?_ hstamp⟩
    · simp only [bind, Except.bind, if_neg hlta]
      rfl
    · cases level with
      | baselineB => exact absurd rfl hplain
      | baselineT => exact .inl rfl
      | baselineLt => exact .inr rfl
      | baselineLta => exact absurd rfl hlta

theorem Added.ordered (h : Added i clock e s level unsignedAttrs) :
    OrderedAttributes x.attributeDer (unsignedAttrs.getD []) := by
  cases h with
  | nothing => exact ⟨List.Pairwise.nil, nofun⟩
  | stamp kind stamped =>
    refine orderedAttributes_of_single (List.pairwise_singleton _ _) fun a ha => ?_
    rw [List.mem_singleton.mp ha]
    exact ⟨_, rfl⟩
  | archive stamped archived archives carried ordered =>
    refine orderedAttributes_of_single ordered fun a ha => ?_
    have hmem := carried.mem_iff.mp ha
    simp only [List.mem_cons, List.not_mem_nil, or_false] at hmem
    rcases hmem with rfl | rfl
    · exact ⟨_, rfl⟩
    · exact ⟨_, rfl⟩

end Levels

section Seals

variable {Key : Type} {x : Writers Key} {i : LocalIdentity x} {clock : Clock}
  {digest sealDer : Bytes} {level : SealConformanceLevel} {signed : Signed}

structure Sealed (i : LocalIdentity x) (clock : Clock) (digest : Bytes)
    (level : SealConformanceLevel) (sealDer : Bytes) (signed : Signed) : Prop where
  reads : parseDer x.toReaders sealDer = .ok signed
  certificate : signed.certificate = i.certificate
  signer : ∃ signedAttrs unsignedAttrs,
    signed.signer = i.signerInfo signedAttrs unsignedAttrs ∧
    signedAttrs.find? (fun a => a.oid = idMessageDigest) =
      some ⟨idMessageDigest, [x.octetString digest]⟩ ∧
    Added i clock (.of signed.data) (i.signerInfo signedAttrs none) level unsignedAttrs
  own : i.certificate ∈ signed.chain
  chain : ∀ c ∈ signed.chain, c = i.certificate ∨ c = i.tsa.certificate
  bare : level.survivesCertificateExpiry = false → signed.crls = []
  listed : level.survivesCertificateExpiry = true → ∃ thisUpdate, signed.crls = [i.crl thisUpdate]

theorem revocationMaterial_ok (h : Within i.certificate clock.listed) :
    ∃ crls, i.revocationMaterial level clock.listed = .ok crls ∧ (crls.getD []).length ≤ 1 ∧
      (level.survivesCertificateExpiry = false → crls = none) ∧
      (level.survivesCertificateExpiry = true →
        ∃ thisUpdate, crls = some [.crl (i.crl thisUpdate)]) := by
  obtain ⟨hpositive, hrange, _⟩ := wholeSeconds_within h
  unfold LocalIdentity.revocationMaterial
  cases hlevel : level.survivesCertificateExpiry with
  | false => exact ⟨none, rfl, Nat.zero_le 1, fun _ => rfl, nofun⟩
  | true =>
    have hwritten := seconds_inRange hrange
    have hkind : ¬true = false := nofun
    rw [if_neg hkind, if_neg (not_lt.mpr hpositive), dif_pos hwritten]
    exact ⟨_, rfl, le_rfl, nofun, fun _ => ⟨_, rfl⟩⟩

theorem certificates_ok (i : LocalIdentity x) (stamps : Bool) :
    ∃ certs, setOf (x := x) "cannot attach the TSA certificate" (certificateKey x)
        (.certificate i.certificate :: if stamps then [.certificate i.tsa.certificate] else []) =
          .ok certs ∧
      Ordered (certificateKey x) certs ∧ .certificate i.certificate ∈ certs ∧
      ∀ c ∈ certs, c = .certificate i.certificate ∨ c = .certificate i.tsa.certificate := by
  have hne := certificateKey_ne (x := x) i.namedApart
  have hnodup : ((CertificateChoice.certificate i.certificate ::
      if stamps then [.certificate i.tsa.certificate] else []).map (certificateKey x)).Nodup := by
    cases stamps with
    | false => exact List.nodup_singleton _
    | true => simpa using hne.symm
  obtain ⟨certs, hcerts, hperm, hordered⟩ :=
    @setOf_ok _ x _ "cannot attach the TSA certificate" _ _ hnodup
  refine ⟨certs, hcerts, hordered, hperm.mem_iff.mpr List.mem_cons_self, fun c hc => ?_⟩
  have hmem := hperm.mem_iff.mp hc
  cases stamps with
  | false => exact .inl (List.mem_singleton.mp hmem)
  | true => simpa using hmem

theorem signDetachedAt_sealed (i : LocalIdentity x) (digest : Bytes)
    (level : SealConformanceLevel) (h : clock.Within i) :
    ∃ sealDer signed, i.signDetachedAt clock digest level = .ok sealDer ∧
      Sealed i clock digest level sealDer signed := by
  have hlisted := (h clock.listed (by simp)).1
  have hstamped := (h clock.stamped (by simp)).2
  have harchived := (h clock.archived (by simp)).2
  obtain ⟨signedAttrs, hattrs, hsigned, hfound⟩ := @signedAttributes_ok _ x idData digest
  obtain ⟨certs, hcerts, hcertsOrdered, hown, hchain⟩ :=
    certificates_ok i (level.survivesCertificateExpiry || level = .baselineT)
  obtain ⟨crls, hcrls, hfew, hbare, hlist⟩ := @revocationMaterial_ok _ x i clock level hlisted
  obtain ⟨unsignedAttrs, hsigner, hadded⟩ := @atLevel_ok _ x i clock ⟨idData, some certs, crls⟩
    level signedAttrs digest hfound hstamped harchived
  let sd : SignedData :=
    ⟨idData, none, some certs, crls, [i.signerInfo signedAttrs unsignedAttrs]⟩
  have hcanonical : Canonical x.toEncodings x.attributeDer x.signerInfoDer sd :=
    canonical_message rfl rfl hcertsOrdered hfew hsigned hadded.ordered
  have halone : ∀ d, .certificate d ∈ certs → d.issuer = i.certificate.issuer →
      d = i.certificate := by
    intro d hd hissuer
    rcases hchain _ hd with hsame | hsame
    · exact (CertificateChoice.certificate.inj hsame)
    · cases hsame
      rw [i.tsa.selfSigned, i.selfSigned] at hissuer
      exact absurd hissuer i.namedApart
  have hreads : parseDer _ (messageDer x sd) = _ :=
    parseDer_message rfl rfl hown halone hcanonical
  refine ⟨messageDer x sd, _, ?_, hreads, rfl, ⟨signedAttrs, unsignedAttrs, rfl, hfound, hadded⟩,
    ?_, ?_, ?_, ?_⟩
  · unfold LocalIdentity.signDetachedAt
    simp only [bind, Except.bind, hattrs, hcerts, hcrls, hsigner]
    rfl
  · exact List.mem_filterMap.mpr ⟨_, hown, rfl⟩
  · intro c hc
    obtain ⟨choice, hchoice, hc⟩ := List.mem_filterMap.mp hc
    rcases hchain choice hchoice with rfl | rfl
    · exact .inl (Option.some.inj hc).symm
    · exact .inr (Option.some.inj hc).symm
  · intro hlevel
    dsimp only [sd]
    rw [hbare hlevel]
    rfl
  · intro hlevel
    obtain ⟨thisUpdate, hsome⟩ := hlist hlevel
    dsimp only [sd]
    rw [hsome]
    exact ⟨thisUpdate, rfl⟩

theorem Sealed.verifies (h : Sealed i clock digest level sealDer signed) :
    verifyAgainstEmbeddedCertificate x.toReaders sealDer = .ok true := by
  obtain ⟨signedAttrs, unsignedAttrs, hsigner, _⟩ := h.signer
  have hholds := signatureHolds_message hsigner h.certificate
  have hsigned : signed.signer.signedAttrs.isNone = false := by
    rw [hsigner]
    rfl
  unfold verifyAgainstEmbeddedCertificate
  rw [h.reads]
  simp only [bind, Except.bind, hsigned, Bool.false_eq_true, if_false]
  exact hholds

theorem Sealed.covers (h : Sealed i clock digest level sealDer signed) :
    coveredDigestOf x.toReaders sealDer = .ok (some digest) := by
  obtain ⟨signedAttrs, unsignedAttrs, hsigner, hfound, _⟩ := h.signer
  have hread := x.octetString_reads_back digest
  unfold coveredDigestOf
  rw [h.reads]
  dsimp only
  rw [hsigner]
  unfold coveredDigest
  dsimp only [Credential.signerInfo]
  rw [hfound]
  dsimp only
  rw [hread]

theorem Added.stamp? {e : Enclosing} {s : SignerInfo} {unsignedAttrs : Option (List Attribute)}
    (h : Added i clock e s level unsignedAttrs) (hlevel : level ≠ .baselineB) :
    ∃ der token, Stamped i.tsa (x.sha256 s.signature) none clock.stamped der token ∧
      (unsignedAttrs.getD []).find? (fun a => a.oid = idAaSignatureTimeStampToken) =
        some ⟨idAaSignatureTimeStampToken, [der]⟩ := by
  cases h with
  | nothing => exact absurd rfl hlevel
  | stamp kind stamped => exact ⟨_, _, stamped, List.find?_cons_of_pos (decide_eq_true rfl)⟩
  | archive stamped archived archives carried ordered =>
    refine ⟨_, _, stamped, find?_of_sole ?_ (decide_eq_true rfl) ?_⟩
    · exact carried.mem_iff.mpr (by simp)
    · intro b hb hfits
      have hmem := carried.mem_iff.mp hb
      simp only [List.mem_cons, List.not_mem_nil, or_false] at hmem
      rcases hmem with rfl | rfl
      · exact absurd (of_decide_eq_true hfits)
          (show idAaEtsArchiveTimestampV3 ≠ idAaSignatureTimeStampToken by decide)
      · rfl

theorem Sealed.stamped (h : Sealed i clock digest level sealDer signed)
    (hlevel : level ≠ .baselineB) :
    ∃ t, signatureTimestampToken x.toReaders sealDer = .ok (some t) ∧
      t.genTime = wholeSeconds clock.stamped := by
  obtain ⟨signedAttrs, unsignedAttrs, hsigner, _, hadded⟩ := h.signer
  obtain ⟨der, token, hstamped, hfirst⟩ := hadded.stamp? hlevel
  obtain ⟨t, ht, htime⟩ := hstamped.signatureStamp
  refine ⟨t, ?_, htime⟩
  unfold signatureTimestampToken
  rw [h.reads]
  refine congrArg Except.ok ?_
  unfold signatureTimestamp
  rw [hsigner]
  dsimp only [Credential.signerInfo] at hfirst ht ⊢
  rw [hfirst]
  exact ht

theorem Sealed.cleared (h : Sealed i clock digest level sealDer signed)
    (hlevel : level.survivesCertificateExpiry = true) :
    ∃ asOf, revocationFrom x.toVerifier signed = .notRevoked asOf := by
  obtain ⟨thisUpdate, hcrls⟩ := h.listed hlevel
  have hissuer : issuerCertificate signed.certificate signed.chain = some i.certificate := by
    refine find?_of_sole h.own ?_ ?_
    · rw [h.certificate, i.selfSigned]
      exact decide_eq_true rfl
    · intro c hc hnamed
      rcases h.chain c hc with rfl | rfl
      · rfl
      · rw [h.certificate, i.selfSigned] at hnamed
        exact absurd (of_decide_eq_true hnamed) i.namedApart
  have hcheck : checkCrl x.toVerifier signed (i.crl thisUpdate) = .ok () := by
    have hverifies := @i.verifiesCrl (i.crl thisUpdate) rfl rfl
    unfold checkCrl
    rw [hissuer]
    dsimp only
    rw [i.readable]
    dsimp only
    rw [hverifies]
  have hanswers : Answers x.toVerifier signed (i.crl thisUpdate) := by
    refine ⟨?_, hcheck⟩
    rw [h.certificate, i.selfSigned]
    rfl
  have hclean : ¬Lists signed (i.crl thisUpdate) := by
    rintro ⟨entry, hentry, _⟩
    cases hentry
  unfold revocationFrom
  rw [hcrls, readCrls_clean hanswers hclean]
  exact ⟨_, rfl⟩

theorem has_of_mem {s : SignerInfo} {attrs : List Attribute} {a : Attribute}
    (hattrs : s.unsignedAttrs = some attrs) (ha : a ∈ attrs) : has s a.oid = true := by
  unfold has
  rw [hattrs]
  exact List.any_eq_true.mpr ⟨a, ha, decide_eq_true rfl⟩

theorem Sealed.evidences (h : Sealed i clock digest level sealDer signed) :
    evidencedLevel x.toReaders sealDer = .ok (some level) := by
  obtain ⟨signedAttrs, unsignedAttrs, hsigner, _, hadded⟩ := h.signer
  have hunsigned : signed.signer.unsignedAttrs = unsignedAttrs := by
    rw [hsigner]
    rfl
  unfold evidencedLevel
  rw [h.reads]
  dsimp only
  cases hadded with
  | nothing =>
    have hstamp : has signed.signer idAaSignatureTimeStampToken = false := by
      unfold has
      rw [hunsigned]
      rfl
    rw [hstamp]
  | stamp kind stamped =>
    have hstamp : has signed.signer idAaSignatureTimeStampToken = true :=
      has_of_mem hunsigned (List.mem_singleton_self _)
    have hnone : ∀ oid, oid ≠ idAaSignatureTimeStampToken → has signed.signer oid = false := by
      intro oid hne
      unfold has
      rw [hunsigned]
      simpa using hne.symm
    rw [hstamp, hnone idAaEtsRevocationValues (by decide),
      hnone idAaEtsArchiveTimestampV3 (by decide), hnone idAaEtsArchiveTimestampV2 (by decide)]
    rcases kind with rfl | rfl
    · rw [h.bare rfl]
      rfl
    · obtain ⟨thisUpdate, hcrls⟩ := h.listed rfl
      rw [hcrls]
      rfl
  | archive stamped archived archives carried ordered =>
    have hstamp : has signed.signer idAaSignatureTimeStampToken = true :=
      has_of_mem hunsigned
        (carried.mem_iff.mpr (List.mem_cons_of_mem _ (List.mem_singleton_self _)))
    have harchive : has signed.signer idAaEtsArchiveTimestampV3 = true :=
      has_of_mem hunsigned (carried.mem_iff.mpr List.mem_cons_self)
    obtain ⟨thisUpdate, hcrls⟩ := h.listed rfl
    rw [hstamp, harchive, hcrls]
    rfl

def LocalIdentity.tsaExpires (i : LocalIdentity x) : Instant :=
  (i.tsa.certificate.notAfter.seconds : Int) * 1000000000

/-- An archived seal has one archive timestamp, which is verifiably of it. -/
theorem Sealed.archived (h : Sealed i clock digest .baselineLta sealDer signed) :
    ∃ t, (archivalAttrs signed.signer).isEmpty = false ∧
      archivalTokens x.toReaders signed = [t] ∧ t.expires = i.tsaExpires := by
  obtain ⟨signedAttrs, unsignedAttrs, hsigner, _, hadded⟩ := h.signer
  cases hadded with
  | stamp kind stamped => rcases kind with hkind | hkind <;> cases hkind
  | @archive _ archiveDer _ archiveToken _ _ _ _ archived archives carried _ =>
    have harchives :
        ArchiveTimestamps.archives x.toEncodings archiveToken (.of signed.data) signed.signer =
          true := by
      rw [hsigner]
      exact archives
    obtain ⟨t, ht, hexpires⟩ := archived.archivalToken harchives
    have hattrs : archivalAttrs signed.signer = [⟨idAaEtsArchiveTimestampV3, [archiveDer]⟩] := by
      rw [hsigner]
      exact List.perm_singleton.mp (carried.filter _)
    refine ⟨t, by rw [hattrs]; rfl, ?_, hexpires⟩
    unfold archivalTokens
    rw [hattrs]
    simp [ht]

theorem Sealed.freshness (h : Sealed i clock digest .baselineLta sealDer signed) (now : Instant) :
    archivalFreshness x.toReaders sealDer now =
      .ok (if now < i.tsaExpires then .current i.tsaExpires else .lapsed i.tsaExpires) := by
  obtain ⟨t, hsome, htokens, hexpires⟩ := h.archived
  unfold archivalFreshness
  rw [h.reads]
  simp only [bind, Except.bind, hsome, htokens, Bool.false_eq_true, if_false]
  rw [← hexpires]
  rfl

theorem Sealed.renewable (h : Sealed i clock digest .baselineLta sealDer signed) :
    ∃ request, prepareArchiveRenewal x.toReaders sealDer = .ok request := by
  obtain ⟨t, _, htokens, _⟩ := h.archived
  obtain ⟨signedAttrs, unsignedAttrs, hsigner, hfound, _⟩ := h.signer
  have hsha : ¬signed.signer.digestAlg.oid ≠ idSha256 := by
    rw [hsigner]
    exact not_not.mpr rfl
  have hnewest : newestOf (archivalTokens x.toReaders signed) = some t := by
    rw [htokens]
    rfl
  have hhash : signedDataHash x.toEncodings signed.signer sha256Alg = some digest := by
    rw [hsigner]
    exact signedDataHash_message hfound
  obtain ⟨input, himprint⟩ := @imprint_ok _ x (.of signed.data) signed.signer signedAttrs digest
    (hashIndex x.toEncodings (.of signed.data) signed.signer) (by rw [hsigner]; rfl)
  unfold prepareArchiveRenewal
  rw [h.reads]
  simp only [bind, Except.bind, hsha, hnewest, if_false]
  have hindex : (hashIndex x.toEncodings (.of signed.data) signed.signer).hashIndAlgorithm =
      sha256Alg := rfl
  rw [hindex, hhash]
  simp only [himprint, x.sha256_length, ne_eq, not_true_eq_false, if_false]
  exact ⟨_, rfl⟩

structure ReadsBack (i : LocalIdentity x) (digest : Bytes) (level : SealConformanceLevel)
    (sealDer : Bytes) : Prop where
  parses : ∃ signed, parseDer x.toReaders sealDer = .ok signed ∧
    signed.certificate = i.certificate
  verifies : verifyAgainstEmbeddedCertificate x.toReaders sealDer = .ok true
  covers : coveredDigestOf x.toReaders sealDer = .ok (some digest)
  evidences : evidencedLevel x.toReaders sealDer = .ok (some level)
  stamped : level ≠ .baselineB →
    ∃ t, signatureTimestampToken x.toReaders sealDer = .ok (some t)
  cleared : level.survivesCertificateExpiry = true →
    ∀ signed, parseDer x.toReaders sealDer = .ok signed →
      ∃ asOf, revocationFrom x.toVerifier signed = .notRevoked asOf
  fresh : level = .baselineLta → ∀ now, archivalFreshness x.toReaders sealDer now =
    .ok (if now < i.tsaExpires then .current i.tsaExpires else .lapsed i.tsaExpires)
  renewable : level = .baselineLta →
    ∃ request, prepareArchiveRenewal x.toReaders sealDer = .ok request

/-- Whatever digest is sealed, at whatever level and whenever both certificates are valid, the
readers read it back. -/
theorem local_seals_read_back (i : LocalIdentity x) (clock : Clock) (digest : Bytes)
    (level : SealConformanceLevel) (h : clock.Within i) :
    ∃ sealDer, i.signDetachedAt clock digest level = .ok sealDer ∧
      ReadsBack i digest level sealDer := by
  obtain ⟨sealDer, signed, hsealed, hread⟩ := signDetachedAt_sealed i digest level h
  refine ⟨sealDer, hsealed, ?_⟩
  constructor
  case parses => exact ⟨signed, hread.reads, hread.certificate⟩
  case verifies => exact hread.verifies
  case covers => exact hread.covers
  case evidences => exact hread.evidences
  case stamped =>
    intro hlevel
    obtain ⟨t, ht, _⟩ := hread.stamped hlevel
    exact ⟨t, ht⟩
  case cleared =>
    intro hlevel signed' hparse
    cases hread.reads.symm.trans hparse
    exact hread.cleared hlevel
  case fresh =>
    rintro rfl now
    exact hread.freshness now
  case renewable =>
    rintro rfl
    exact hread.renewable

def plainTbs (tbs : TbsCertList) : Bytes :=
  (algorithmCode.pair (nameCode.pair (timeCode.pair
    (.option (.list revokedCode))))).encode
      (tbs.signature, tbs.issuer, tbs.thisUpdate, tbs.revokedCertificates)

def plainWriters : Writers Bytes :=
  { SealRenewal.plainReaders with
    verifyMessage := fun key _ signature message =>
      if signature = key ++ checksum message then .ok ()
      else .error (.verification "signature error")
    verifyCrl := fun key list =>
      if list.signature = key ++ checksum (plainTbs (tbsOf list)) then .ok ()
      else .error (.verification "signature error")
    tstInfo := fun i => tstInfoCode.encode (i.messageImprint.hashAlgorithm,
      i.messageImprint.hashedMessage, (i.genTime / 1000000000).toNat)
    tbsCertList := plainTbs
    timeRange := "ASN.1 value error"
    sha256_length := fun b => by simp [SealRenewal.plainReaders, plainEncodings, checksum]
    octetString_reads_back := by
      intro b
      simp [SealRenewal.plainReaders, plainEncodings, bytesCode.read_encode]
    attributes_tagged := fun _ => ⟨_, rfl⟩
    attributeDer_injective := attributeCode.selfDelimiting.injective
    tstInfo_reads_back := by
      intro i hpositive _
      have hseconds : ((i.genTime / 1000000000).toNat : Int) = i.genTime / 1000000000 :=
        Int.toNat_of_nonneg (Int.ediv_nonneg hpositive (by decide))
      simp only [SealRenewal.plainReaders, plainEncodings, tstInfoCode.read_encode,
        Option.map_some, hseconds]
      rfl }

def holderOf (key : UInt8) : Credential plainWriters where
  certificate := certificateUntil key 100 hundred_inRange
  sign message := [key] ++ checksum message
  key := [key]
  selfSigned := rfl
  readable := rfl
  verifies _ := if_pos rfl
  verifiesCrl _ hsignature := if_pos hsignature

def sampleIdentity : LocalIdentity plainWriters where
  toCredential := holderOf 1
  tsa := holderOf 2
  namedApart := by decide

def sampleClock : Clock := ⟨5000000000, 6500000000, 7000000000⟩

theorem sample_seal_reads_back :
    ∃ sealDer, sampleIdentity.signDetachedAt sampleClock (List.replicate 32 7) .baselineLta =
        .ok sealDer ∧
      ReadsBack sampleIdentity (List.replicate 32 7) .baselineLta sealDer := by
  have hwithin : sampleClock.Within sampleIdentity := by
    intro at_ hat
    simp only [sampleClock, List.mem_cons, List.not_mem_nil, or_false] at hat
    rcases hat with rfl | rfl | rfl <;> decide
  exact local_seals_read_back sampleIdentity sampleClock (List.replicate 32 7) .baselineLta hwithin

end Seals

end LocalSeals
