import DppEngine.CmsEncodings

/-! Archive timestamps: the hash index a token carries, the imprint it has to be of, and whether a
token archives a signature.

DER encoders and decoders and SHA-256 are parameters; every encoding is self-delimiting. -/
namespace ArchiveTimestamps

open CmsEncodings CmsSeals PrefixCodes

section Structures

structure AtsHashIndexV3 where
  hashIndAlgorithm : AlgorithmIdentifier
  certificatesHashIndex : List Bytes
  crlsHashIndex : List Bytes
  unsignedAttrValuesHashIndex : List Bytes
  deriving DecidableEq, Repr

structure MessageImprint where
  hashAlgorithm : AlgorithmIdentifier
  hashedMessage : Bytes
  deriving DecidableEq, Repr

structure TstInfo where
  messageImprint : MessageImprint
  genTime : Instant
  deriving DecidableEq, Repr

structure Enclosing where
  econtentType : Oid
  certificates : Option (List CertificateChoice)
  crls : Option (List RevocationInfoChoice)
  deriving DecidableEq, Repr

def Enclosing.of (sd : SignedData) : Enclosing := ⟨sd.econtentType, sd.certificates, sd.crls⟩

structure Encodings where
  sha256 : Bytes → Bytes
  oid : Oid → Bytes
  version : ℕ → Bytes
  sid : SignerIdentifier → Bytes
  algorithm : AlgorithmIdentifier → Bytes
  /-- As a `SET OF`. -/
  attributes : List Attribute → Bytes
  octetString : Bytes → Bytes
  index : AtsHashIndexV3 → Bytes
  certificateChoice : CertificateChoice → Bytes
  revocationInfoChoice : RevocationInfoChoice → Bytes
  octetStringFromDer : Bytes → Except String Bytes
  indexFromDer : Bytes → Option AtsHashIndexV3
  tstInfoFromDer : Bytes → Option TstInfo
  oid_delimits : SelfDelimiting oid
  version_delimits : SelfDelimiting version
  sid_delimits : SelfDelimiting sid
  algorithm_delimits : SelfDelimiting algorithm
  attributes_delimits : SelfDelimiting attributes
  octetString_delimits : SelfDelimiting octetString
  index_delimits : SelfDelimiting index
  certificateChoice_delimits : SelfDelimiting certificateChoice
  revocationInfoChoice_delimits : SelfDelimiting revocationInfoChoice

end Structures

section Index

def idSha256 : Oid := [2, 16, 840, 1, 101, 3, 4, 2, 1]

def idMessageDigest : Oid := [1, 2, 840, 113549, 1, 9, 4]

def idAaAtsHashIndexV3 : Oid := [0, 4, 0, 19122, 1, 5]

def config (what : String) : SealError := "seal configuration: " ++ what

def sha256Alg : AlgorithmIdentifier := ⟨idSha256, none⟩

variable (x : Encodings)

def attributeValues (signer : SignerInfo) : List (Oid × Bytes) :=
  (signer.unsignedAttrs.getD []).flatMap fun a => a.values.map fun v => (a.oid, v)

def hashIndex (enclosing : Enclosing) (signer : SignerInfo) : AtsHashIndexV3 :=
  { hashIndAlgorithm := sha256Alg
    certificatesHashIndex :=
      (enclosing.certificates.getD []).map fun c => x.sha256 (x.certificateChoice c)
    crlsHashIndex := (enclosing.crls.getD []).map fun c => x.sha256 (x.revocationInfoChoice c)
    unsignedAttrValuesHashIndex :=
      (attributeValues signer).map fun v => x.sha256 (x.oid v.1 ++ v.2) }

/-- Containment: what is named has to be here, and what is here need not be named. -/
def indexIsSatisfied (enclosing : Enclosing) (signer : SignerInfo)
    (index : AtsHashIndexV3) : Bool :=
  if index.hashIndAlgorithm.oid ≠ sha256Alg.oid then false
  else
    let present := hashIndex x enclosing signer
    (index.certificatesHashIndex.all fun c => present.certificatesHashIndex.contains c) &&
    (index.crlsHashIndex.all fun c => present.crlsHashIndex.contains c) &&
    (index.unsignedAttrValuesHashIndex.all fun c =>
      present.unsignedAttrValuesHashIndex.contains c)

/-- `[0] IMPLICIT` in place of the `SET OF` tag, and nothing else changed. -/
def signedAttrsAsInSignerInfo (signer : SignerInfo) : Except SealError Bytes :=
  match signer.signedAttrs with
  | none => .error (config "the signature carries no signed attributes")
  | some attrs =>
    match x.attributes attrs with
    | 0x31 :: rest => .ok (0xA0 :: rest)
    | der =>
      .error (config ("the signed attributes encode with tag " ++
        (match der.head? with
          | some tag => "Some(" ++ toString tag.toNat ++ ")"
          | none => "None") ++
        " rather than SET OF, so the [0] IMPLICIT form the clause asks for cannot be derived from " ++
        "them"))

def messageDigest (signer : SignerInfo) : Option Bytes :=
  signer.signedAttrs.bind fun attrs => (attrs.find? fun a => a.oid = idMessageDigest).bind fun a =>
    a.values.head?.bind fun v => (x.octetStringFromDer v).toOption

def signedDataHash (signer : SignerInfo) (archiveHash : AlgorithmIdentifier) : Option Bytes :=
  if archiveHash.oid ≠ signer.digestAlg.oid then none else messageDigest x signer

/-- Everything with its tag and length, but for the hash, which is its octets. -/
def imprintInput (enclosing : Enclosing) (signer : SignerInfo) (signedDataHash : Bytes)
    (index : AtsHashIndexV3) : Except SealError Bytes :=
  (signedAttrsAsInSignerInfo x signer).map fun signedAttrs =>
    x.oid enclosing.econtentType ++ (signedDataHash ++ (x.version signer.version ++
      (x.sid signer.sid ++ (x.algorithm signer.digestAlg ++ (signedAttrs ++
        (x.algorithm signer.signatureAlgorithm ++ (x.octetString signer.signature ++
          x.index index)))))))

def imprint (enclosing : Enclosing) (signer : SignerInfo) (signedDataHash : Bytes)
    (index : AtsHashIndexV3) : Except SealError Bytes :=
  (imprintInput x enclosing signer signedDataHash index).map x.sha256

end Index

section Archiving

variable (x : Encodings)

def tokenIndex (token : Signed) : Option AtsHashIndexV3 :=
  token.signer.unsignedAttrs.bind fun attrs =>
    (attrs.find? fun a => a.oid = idAaAtsHashIndexV3).bind fun a =>
      a.values.head?.bind x.indexFromDer

def archives (token : Signed) (enclosing : Enclosing) (archived : SignerInfo) : Bool :=
  match tokenIndex x token with
  | none => false
  | some index =>
    if !indexIsSatisfied x enclosing archived index then false
    else
      match signedDataHash x archived index.hashIndAlgorithm with
      | none => false
      | some digest =>
        match imprint x enclosing archived digest index with
        | .error _ => false
        | .ok expected =>
          ((token.econtent.bind x.tstInfoFromDer).any fun info =>
            info.messageImprint.hashAlgorithm.oid = index.hashIndAlgorithm.oid &&
              info.messageImprint.hashedMessage = expected)

def coveredDigest (signer : SignerInfo) : Except SealError (Option Bytes) :=
  match signer.signedAttrs with
  | none => .ok none
  | some attrs =>
    match attrs.find? fun a => a.oid = idMessageDigest with
    | none => .ok none
    | some a =>
      match a.values with
      | [value] =>
        match x.octetStringFromDer value with
        | .ok octets => .ok (some octets)
        | .error e => .error (malformed ("the messageDigest is not an OCTET STRING: " ++ e))
      | values =>
        .error (malformed ("the messageDigest attribute carries " ++ toString values.length ++
          " values, not one"))

end Archiving

section Binding

variable {x : Encodings} {token : Signed} {e e' : Enclosing} {s s' : SignerInfo}
  {index index' : AtsHashIndexV3}

theorem archives_ok (h : archives x token e s) :
    ∃ index digest input info, tokenIndex x token = some index ∧
      indexIsSatisfied x e s index ∧ signedDataHash x s index.hashIndAlgorithm = some digest ∧
      imprintInput x e s digest index = .ok input ∧
      token.econtent.bind x.tstInfoFromDer = some info ∧
      info.messageImprint.hashedMessage = x.sha256 input := by
  unfold archives at h
  split at h
  next => cases h
  next index hindex =>
    split at h
    next => cases h
    next hsatisfied =>
      split at h
      next => cases h
      next digest hdigest =>
        split at h
        next => cases h
        next expected hexpected =>
          obtain ⟨info, hinfo, hmatch⟩ := (Option.any_eq_true _ _).mp h
          simp only [Bool.and_eq_true, decide_eq_true_eq] at hmatch
          unfold imprint at hexpected
          cases hinput : imprintInput x e s digest index with
          | error err =>
            rw [hinput] at hexpected
            cases hexpected
          | ok input =>
            rw [hinput] at hexpected
            cases hexpected
            exact ⟨index, digest, input, info, hindex, by simpa using hsatisfied, hdigest, hinput,
              hinfo, hmatch.2⟩

theorem signedAttrsAsInSignerInfo_ok {b : Bytes} (h : signedAttrsAsInSignerInfo x s = .ok b) :
    ∃ attrs rest, s.signedAttrs = some attrs ∧ x.attributes attrs = 0x31 :: rest ∧
      b = 0xA0 :: rest := by
  unfold signedAttrsAsInSignerInfo at h
  split at h
  next => cases h
  next attrs hattrs =>
    split at h
    next rest hder =>
      cases h
      exact ⟨attrs, rest, hattrs, hder, rfl⟩
    next => cases h

theorem imprintInput_ok {digest input : Bytes} (h : imprintInput x e s digest index = .ok input) :
    ∃ attrs rest, s.signedAttrs = some attrs ∧ x.attributes attrs = 0x31 :: rest ∧
      input = x.oid e.econtentType ++ (digest ++ (x.version s.version ++ (x.sid s.sid ++
        (x.algorithm s.digestAlg ++ ((0xA0 :: rest) ++ (x.algorithm s.signatureAlgorithm ++
          (x.octetString s.signature ++ x.index index))))))) := by
  unfold imprintInput at h
  cases hattrs : signedAttrsAsInSignerInfo x s with
  | error err =>
    rw [hattrs] at h
    cases h
  | ok b =>
    rw [hattrs] at h
    cases h
    obtain ⟨attrs, rest, hsigned, hder, rfl⟩ := signedAttrsAsInSignerInfo_ok hattrs
    exact ⟨attrs, rest, hsigned, hder, rfl⟩

structure SameSignature (e e' : Enclosing) (s s' : SignerInfo) : Prop where
  econtentType : e.econtentType = e'.econtentType
  version : s.version = s'.version
  sid : s.sid = s'.sid
  digestAlg : s.digestAlg = s'.digestAlg
  signedAttrs : s.signedAttrs = s'.signedAttrs
  signatureAlgorithm : s.signatureAlgorithm = s'.signatureAlgorithm
  signature : s.signature = s'.signature

/-- The concatenation can be cut in one way only, the hash being of a known length. -/
theorem imprintInput_cut {digest digest' input : Bytes}
    (h : imprintInput x e s digest index = .ok input)
    (h' : imprintInput x e' s' digest' index' = .ok input)
    (hlength : digest.length = digest'.length) : SameSignature e e' s s' ∧ index = index' := by
  obtain ⟨attrs, rest, hattrs, hder, hinput⟩ := imprintInput_ok h
  obtain ⟨attrs', rest', hattrs', hder', hinput'⟩ := imprintInput_ok h'
  rw [hinput] at hinput'
  obtain ⟨hcontent, htail⟩ := x.oid_delimits _ _ _ _ hinput'
  obtain ⟨_, htail⟩ := List.append_inj htail hlength
  obtain ⟨hversion, htail⟩ := x.version_delimits _ _ _ _ htail
  obtain ⟨hsid, htail⟩ := x.sid_delimits _ _ _ _ htail
  obtain ⟨hdigestAlg, htail⟩ := x.algorithm_delimits _ _ _ _ htail
  obtain ⟨hsigned, htail⟩ := x.attributes_delimits.cut_retagged hder hder' htail
  obtain ⟨hsignatureAlg, htail⟩ := x.algorithm_delimits _ _ _ _ htail
  obtain ⟨hsignature, htail⟩ := x.octetString_delimits _ _ _ _ htail
  have hindex := x.index_delimits.injective htail
  subst hsigned
  exact ⟨⟨hcontent, hversion, hsid, hdigestAlg, hattrs.trans hattrs'.symm, hsignatureAlg,
    hsignature⟩, hindex⟩

theorem indexIsSatisfied_iff : indexIsSatisfied x e s index ↔
    index.hashIndAlgorithm.oid = sha256Alg.oid ∧
      (∀ h ∈ index.certificatesHashIndex,
        ∃ c ∈ e.certificates.getD [], x.sha256 (x.certificateChoice c) = h) ∧
      (∀ h ∈ index.crlsHashIndex,
        ∃ c ∈ e.crls.getD [], x.sha256 (x.revocationInfoChoice c) = h) ∧
      ∀ h ∈ index.unsignedAttrValuesHashIndex,
        ∃ v ∈ attributeValues s, x.sha256 (x.oid v.1 ++ v.2) = h := by
  unfold indexIsSatisfied
  split
  next hne => simp [hne]
  next heq =>
    simp only [ne_eq, not_not] at heq
    simp only [hashIndex, Bool.and_eq_true, List.all_eq_true, List.contains_iff_mem, List.mem_map,
      heq, true_and, and_assoc]

/-- A token that archives a signature archives it with more attributes beside it. -/
theorem archives_of_more {unsignedAttrs : Option (List Attribute)} (h : archives x token e s)
    (hmore : attributeValues s ⊆ attributeValues { s with unsignedAttrs }) :
    archives x token e { s with unsignedAttrs } := by
  unfold archives at h ⊢
  split at h
  next => cases h
  next index hindex =>
    split at h
    next => cases h
    next hsatisfied =>
      have hall : indexIsSatisfied x e s index := by simpa using hsatisfied
      obtain ⟨halgorithm, hcertificates, hcrls, hattributes⟩ := indexIsSatisfied_iff.mp hall
      have hstill : indexIsSatisfied x e { s with unsignedAttrs } index := by
        refine indexIsSatisfied_iff.mpr ⟨halgorithm, hcertificates, hcrls, ?_⟩
        intro named hnamed
        obtain ⟨v, hv, hhash⟩ := hattributes named hnamed
        exact ⟨v, hmore hv, hhash⟩
      simp only [hstill, Bool.not_true, Bool.false_eq_true, if_false]
      -- the digest and the imprint do not read the unsigned attributes
      exact h

/-- What hashes alike is the same, and is in both. -/
theorem present_in_both {α : Type} {f : α → Bytes} {l l' : List α} {h : Bytes}
    (hsha : Function.Injective x.sha256) (hf : Function.Injective f)
    (hl : ∃ a ∈ l, x.sha256 (f a) = h) (hl' : ∃ a ∈ l', x.sha256 (f a) = h) :
    ∃ a ∈ l, a ∈ l' ∧ x.sha256 (f a) = h := by
  obtain ⟨a, ha, heq⟩ := hl
  obtain ⟨b, hb, heq'⟩ := hl'
  have hab : a = b := hf (hsha (heq.trans heq'.symm))
  exact ⟨a, ha, hab ▸ hb, heq⟩

theorem attributeValue_injective (x : Encodings) :
    Function.Injective fun v : Oid × Bytes => x.oid v.1 ++ v.2 := by
  rintro ⟨oid, v⟩ ⟨oid', v'⟩ h
  obtain ⟨hoid, hv⟩ := x.oid_delimits _ _ _ _ h
  rw [Prod.mk.injEq]
  exact ⟨hoid, hv⟩

def Digest32 (x : Encodings) (s : SignerInfo) : Prop :=
  ∀ digest, messageDigest x s = some digest → digest.length = 32

theorem signedDataHash_length {alg : AlgorithmIdentifier} {digest : Bytes} (hs : Digest32 x s)
    (h : signedDataHash x s alg = some digest) : digest.length = 32 := by
  unfold signedDataHash at h
  split at h
  next => cases h
  next => exact hs digest h

/-- One token archives one signature, and what its index names is in every seal it archives. -/
theorem archive_timestamp_archives_one_signature (x : Encodings)
    (hsha : Function.Injective x.sha256) (token sealed sealed' : Signed)
    (h : archives x token (.of sealed.data) sealed.signer)
    (h' : archives x token (.of sealed'.data) sealed'.signer)
    (hdigest : Digest32 x sealed.signer) (hdigest' : Digest32 x sealed'.signer) :
    SameSignature (.of sealed.data) (.of sealed'.data) sealed.signer sealed'.signer ∧
    coveredDigest x sealed.signer = coveredDigest x sealed'.signer ∧
    ∃ index, tokenIndex x token = some index ∧
      (∀ h ∈ index.certificatesHashIndex, ∃ c ∈ sealed.data.certificates.getD [],
        c ∈ sealed'.data.certificates.getD [] ∧ x.sha256 (x.certificateChoice c) = h) ∧
      (∀ h ∈ index.crlsHashIndex, ∃ c ∈ sealed.data.crls.getD [],
        c ∈ sealed'.data.crls.getD [] ∧ x.sha256 (x.revocationInfoChoice c) = h) ∧
      ∀ h ∈ index.unsignedAttrValuesHashIndex, ∃ v ∈ attributeValues sealed.signer,
        v ∈ attributeValues sealed'.signer ∧ x.sha256 (x.oid v.1 ++ v.2) = h := by
  obtain ⟨index, digest, input, info, hindex, hsatisfied, hhash, hinput, hinfo, himprint⟩ :=
    archives_ok h
  obtain ⟨index', digest', input', info', hindex', hsatisfied', hhash', hinput', hinfo',
    himprint'⟩ := archives_ok h'
  cases hindex.symm.trans hindex'
  cases hinfo.symm.trans hinfo'
  have heq : input = input' := hsha (himprint.symm.trans himprint')
  subst heq
  have hlength : digest.length = digest'.length := by
    rw [signedDataHash_length hdigest hhash, signedDataHash_length hdigest' hhash']
  obtain ⟨hsame, _⟩ := imprintInput_cut hinput hinput' hlength
  obtain ⟨_, hcerts, hcrls, hattrs⟩ := indexIsSatisfied_iff.mp hsatisfied
  obtain ⟨_, hcerts', hcrls', hattrs'⟩ := indexIsSatisfied_iff.mp hsatisfied'
  refine ⟨hsame, ?_, index, hindex, ?_, ?_, ?_⟩
  · unfold coveredDigest
    rw [hsame.signedAttrs]
  · intro h hh
    exact present_in_both hsha x.certificateChoice_delimits.injective (hcerts h hh) (hcerts' h hh)
  · intro h hh
    exact present_in_both hsha x.revocationInfoChoice_delimits.injective (hcrls h hh) (hcrls' h hh)
  · intro h hh
    exact present_in_both hsha (attributeValue_injective x) (hattrs h hh) (hattrs' h hh)

def indexCode : Code UInt8 AtsHashIndexV3 :=
  (algorithmCode.pair ((Code.list bytesCode).pair ((Code.list bytesCode).pair
    (.list bytesCode)))).via
    (fun i => (i.hashIndAlgorithm, i.certificatesHashIndex, i.crlsHashIndex,
      i.unsignedAttrValuesHashIndex))
    (fun p => some ⟨p.1, p.2.1, p.2.2.1, p.2.2.2⟩)
    fun _ => rfl

def tstInfoCode : Code UInt8 (AlgorithmIdentifier × Bytes × ℕ) :=
  algorithmCode.pair (bytesCode.pair .nat)

def plainEncodings (sha256 : Bytes → Bytes) : Encodings :=
  { sha256
    oid := oidCode.encode
    version := Code.nat.encode
    sid := sidCode.encode
    algorithm := algorithmCode.encode
    attributes := attributesCode.encode
    octetString := bytesCode.encode
    index := indexCode.encode
    certificateChoice := certificateChoiceCode.encode
    revocationInfoChoice := revocationInfoChoiceCode.encode
    octetStringFromDer := fun b =>
      match bytesCode.read b with
      | some octets => .ok octets
      | none => .error "unexpected ASN.1 DER tag"
    indexFromDer := indexCode.read
    tstInfoFromDer := fun b => (tstInfoCode.read b).map fun i =>
      ⟨⟨i.1, i.2.1⟩, (i.2.2 : Int) * 1000000000⟩
    oid_delimits := oidCode.selfDelimiting
    version_delimits := Code.nat.selfDelimiting
    sid_delimits := sidCode.selfDelimiting
    algorithm_delimits := algorithmCode.selfDelimiting
    attributes_delimits := attributesCode.selfDelimiting
    octetString_delimits := bytesCode.selfDelimiting
    index_delimits := indexCode.selfDelimiting
    certificateChoice_delimits := certificateChoiceCode.selfDelimiting
    revocationInfoChoice_delimits := revocationInfoChoiceCode.selfDelimiting }

def certificateUntil (key : UInt8) (seconds : ℕ) (h : seconds ≤ 253402300799) : Certificate :=
  { serialNumber := [key]
    issuer := ⟨[key]⟩
    notBefore := ⟨0, by decide⟩
    notAfter := ⟨seconds, h⟩
    subject := ⟨[key]⟩
    subjectPublicKeyInfo := ⟨⟨[1, 3, 101, 112], none⟩, [key]⟩
    extensions := none
    signatureAlgorithm := ⟨[1, 3, 101, 112], none⟩
    signature := [key] }

def signerBy (c : Certificate) (digest : Bytes) (unsignedAttrs : Option (List Attribute)) :
    SignerInfo :=
  { version := 1
    sid := .issuerAndSerialNumber c.issuer c.serialNumber
    digestAlg := sha256Alg
    signedAttrs := some [⟨idMessageDigest, [bytesCode.encode digest]⟩]
    signatureAlgorithm := ⟨[1, 3, 101, 112], none⟩
    signature := c.subjectPublicKeyInfo.subjectPublicKey
    unsignedAttrs }

def messageBy (c : Certificate) (econtent : Option Bytes) (signer : SignerInfo) : SignedData :=
  { econtentType := [1, 2, 840, 113549, 1, 7, 1]
    econtent
    certificates := some [.certificate c]
    crls := none
    signerInfos := [signer] }

def stampOf (x : Encodings) (enclosing : Enclosing) (signer : SignerInfo) (index : AtsHashIndexV3)
    (seconds : ℕ) : Bytes :=
  tstInfoCode.encode (sha256Alg,
    ((messageDigest x signer).bind fun d => (imprint x enclosing signer d index).toOption).getD [],
    seconds)

def tokenSigner (x : Encodings) (authority : Certificate) (content : Bytes)
    (index : AtsHashIndexV3) : SignerInfo :=
  signerBy authority (x.sha256 content)
    (some [⟨idAaAtsHashIndexV3, [indexCode.encode index]⟩])

def readAs (c : Certificate) (econtent : Option Bytes) (signer : SignerInfo) : Signed :=
  ⟨messageBy c econtent signer, signer, c, [c], econtent, []⟩

def sampleSeal (unsignedAttrs : Option (List Attribute)) : Signed :=
  readAs (certificateUntil 1 100 (by decide)) none
    (signerBy (certificateUntil 1 100 (by decide)) (List.replicate 32 7) unsignedAttrs)

def sampleToken : Signed :=
  let x := plainEncodings id
  let archived := sampleSeal none
  let index := hashIndex x (.of archived.data) archived.signer
  let content := stampOf x (.of archived.data) archived.signer index 5
  let authority := certificateUntil 2 100 (by decide)
  readAs authority (some content) (tokenSigner x authority content index)

theorem grown_seal_stays_archived :
    archives (plainEncodings id) sampleToken (.of (sampleSeal none).data) (sampleSeal none).signer ∧
    archives (plainEncodings id) sampleToken (.of (sampleSeal (some [⟨[1, 2], [null]⟩])).data)
      (sampleSeal (some [⟨[1, 2], [null]⟩])).signer ∧
    SameSignature (.of (sampleSeal none).data) (.of (sampleSeal (some [⟨[1, 2], [null]⟩])).data)
      (sampleSeal none).signer (sampleSeal (some [⟨[1, 2], [null]⟩])).signer := by
  have hdigest :
    ∀ unsignedAttrs, Digest32 (plainEncodings id) (sampleSeal unsignedAttrs).signer := by
    intro unsignedAttrs digest h
    have hread : messageDigest (plainEncodings id) (sampleSeal unsignedAttrs).signer =
        some (List.replicate 32 7) := by rfl
    rw [hread] at h
    cases h
    rfl
  have hfirst : archives (plainEncodings id) sampleToken (.of (sampleSeal none).data)
      (sampleSeal none).signer := by decide +kernel
  have hgrown : archives (plainEncodings id) sampleToken
      (.of (sampleSeal (some [⟨[1, 2], [null]⟩])).data)
      (sampleSeal (some [⟨[1, 2], [null]⟩])).signer := by decide +kernel
  exact ⟨hfirst, hgrown, (archive_timestamp_archives_one_signature (plainEncodings id)
    Function.injective_id sampleToken _ _ hfirst hgrown (hdigest _) (hdigest _)).1⟩

end Binding

end ArchiveTimestamps
