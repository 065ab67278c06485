import DppEngine.CmsSeals
import DppEngine.FallibleSteps
import DppEngine.TrustedLists
import DppEngine.XmlTrees

/-! Trusted lists as signed XML documents: how they are read, and what is checked before they are
believed.

The XML reader, the XML signature library, digests, base64 and the domain crate's status types
are parameters. -/
namespace TrustedListDocuments

open CmsSeals TrustedLists XmlTrees FallibleSteps

section Texts

/-- The characters Unicode calls white space. -/
def isWhitespace (c : Char) : Bool :=
  let n := c.toNat
  (0x9 ≤ n && n ≤ 0xD) || n = 0x20 || n = 0x85 || n = 0xA0 || n = 0x1680 ||
    (0x2000 ≤ n && n ≤ 0x200A) || n = 0x2028 || n = 0x2029 || n = 0x202F || n = 0x205F || n = 0x3000

def trim (s : String) : String :=
  String.ofList (((s.toList.dropWhile isWhitespace).reverse.dropWhile isWhitespace).reverse)

/-- `split_whitespace`, with the pieces put together again. -/
def withoutWhitespace (s : String) : String :=
  String.ofList (s.toList.filter fun c => !isWhitespace c)

def nonEmpty (s : String) : Option String := if s.isEmpty then none else some s

end Texts

section Documents

structure Document where
  tag : QName
  attributes : List XmlTrees.Attribute
  children : List Node
  deriving Repr

def Document.root (d : Document) : Node := .element d.tag d.attributes d.children

def Document.without (d : Document) (path : Path) : Document :=
  match d.root.removeAt path with
  | .element tag attributes children => ⟨tag, attributes, children⟩
  | _ => d

def dsigNamespace : String := "http://www.w3.org/2000/09/xmldsig#"

structure Sources (History Status : Type) where
  parseXml : String → Except String Document
  /-- Verification under one pinned certificate, with the path of the `Signature` verified. -/
  verifySignature : String → Bytes → Except String Path
  /-- It verifies an element of the signature namespace, which holds what was signed. -/
  verifies_signature : ∀ {xml der path doc}, verifySignature xml der = .ok path →
    parseXml xml = .ok doc → ∃ attributes children,
      doc.root.at path = some (.element ⟨some dsigNamespace, "Signature"⟩ attributes children) ∧
        ∃ c ∈ children, c.isNamed "SignedInfo"
  toUppercase : String → String
  base64Decode : String → Except String Bytes
  base64Encode : Bytes → String
  sha256 : Bytes → Bytes
  /-- RFC 3339, in UTC. -/
  parseTime : String → Option Instant
  typeOf : String → String
  statusFromUri : String → Status
  historyOf : List (Status × Instant) → History

end Documents

section Parsing

def childrenNamed (node : Node) (name : String) : List Node :=
  node.children.filter fun c => c.isNamed name

def child (node : Node) (name : String) : Option Node := (childrenNamed node name).head?

def trimmedText (node : Node) : Option String := (node.text?.map trim).bind nonEmpty

def childText (node : Node) (name : String) : Option String := (child node name).bind trimmedText

def firstName (node : Node) : Option String :=
  (((childrenNamed node "Name").findSome? Node.text?).map trim).bind nonEmpty

def certificateText (node : Node) : Option String :=
  (node.text?.map withoutWhitespace).bind nonEmpty

def malformedList (what : String) : SealError := "cannot read the trusted list: " ++ what

variable {History Status : Type} (x : Sources History Status)

def parseStatusPeriod (node : Node) : Option (Status × Instant) := do
  let status ← childText node "ServiceStatus"
  let startingAt ← childText node "StatusStartingTime"
  let startingAt ← x.parseTime startingAt
  pure (x.statusFromUri status, startingAt)

def collectCertificates (node : Node) : List String :=
  (childrenNamed node "DigitalId").filterMap fun d =>
    (child d "X509Certificate").bind certificateText

def parseService (node : Node) : ListedService History :=
  let info := child node "ServiceInformation"
  { serviceType := x.typeOf ((info.bind fun i => childText i "ServiceTypeIdentifier").getD "")
    name := (info.bind fun i => child i "ServiceName").bind firstName
    history := x.historyOf ((info.bind (parseStatusPeriod x)).toList ++
      ((child node "ServiceHistory").toList.flatMap fun h =>
        childrenNamed h "ServiceHistoryInstance").filterMap (parseStatusPeriod x))
    certificates := ((info.bind fun i => child i "ServiceDigitalIdentity").map
      collectCertificates).getD [] }

def parseProvider (node : Node) : ListedProvider History :=
  { name := ((child node "TSPInformation").bind fun i => child i "TSPName").bind firstName
    services := ((child node "TSPServices").toList.flatMap fun s =>
      childrenNamed s "TSPService").map (parseService x) }

def readTrustedList (doc : Document) : Except SealError (UnverifiedTrustedList History) :=
  if doc.tag.name ≠ "TrustServiceStatusList" then
    .error (malformedList ("root element is `" ++ doc.tag.name ++ "`, not `TrustServiceStatusList`"))
  else
    .ok
      { territory := ((child doc.root "SchemeInformation").bind fun si =>
          childText si "SchemeTerritory").map x.toUppercase
        providers := ((child doc.root "TrustServiceProviderList").toList.flatMap fun list =>
          childrenNamed list "TrustServiceProvider").map (parseProvider x) }

def parseTrustedList (xml : String) : Except SealError (UnverifiedTrustedList History) :=
  match x.parseXml xml with
  | .error e => .error (malformedList ("not XML: " ++ e))
  | .ok doc => readTrustedList x doc

def pointerCertificates (pointer : Node) : List String :=
  (pointer.located.filter fun e => e.2.isNamed "X509Certificate").filterMap fun e =>
    certificateText e.2

def pointerInfo (pointer : Node) (name : String) : Option String :=
  (child pointer "AdditionalInformation").bind fun info =>
    (info.first fun n => n.isNamed name).bind fun e => trimmedText e.2

def parsePointer (p : Node) : Option TrustedListPointer :=
  (childText p "TSLLocation").map fun location =>
    { location
      territory := (pointerInfo p "SchemeTerritory").map x.toUppercase
      tslType := pointerInfo p "TSLType"
      mimeType := pointerInfo p "MimeType"
      certificates := pointerCertificates p }

def readLotl (doc : Document) : Except SealError (List TrustedListPointer) :=
  if doc.tag.name ≠ "TrustServiceStatusList" then
    .error (malformedList "root element is not `TrustServiceStatusList`")
  else
    match (child doc.root "SchemeInformation").bind fun si => child si "PointersToOtherTSL" with
    | none => .ok []
    | some pointers => .ok ((childrenNamed pointers "OtherTSLPointer").filterMap (parsePointer x))

def parseLotl (xml : String) : Except SealError (List TrustedListPointer) :=
  match x.parseXml xml with
  | .error e => .error (malformedList ("not XML: " ++ e))
  | .ok doc => readLotl x doc

end Parsing

section Verification

inductive LotlRejected where
  | malformed (why : String)
  | notSigned
  | noCertificate
  | ambiguousSigningCertificate (found : ℕ)
  | notAnchored (offered pinnedNotice : String)
  | signatureInvalid (why : String)
  | nonConformantProfile (why : String)
  deriving DecidableEq, Repr

inductive TrustedListRejected where
  | malformed (why : String)
  | notSigned
  | noCertificate
  | ambiguousSigningCertificate (found : ℕ)
  | noAuthorisedCertificates
  | notNamedByLotl (offered : String) (authorised : ℕ)
  | signatureInvalid (why : String)
  | nonConformantProfile (why : String)
  deriving DecidableEq, Repr

def TrustedListRejected.text : TrustedListRejected → String
  | .malformed why => "not a readable trusted list: " ++ why
  | .notSigned => "the document carries no signature"
  | .noCertificate => "the signature carries no certificate"
  | .ambiguousSigningCertificate found =>
    "ds:KeyInfo carries " ++ toString found ++ " certificates, so the one compared against the " ++
      "list of trusted lists need not be the one the signature was verified with — refusing " ++
      "rather than choosing between them"
  | .noAuthorisedCertificates => "the list of trusted lists names no certificate for this list"
  | .notNamedByLotl offered authorised =>
    "signed by " ++ offered ++ ", which is not among the " ++ toString authorised ++
      " certificate(s) the list of trusted lists names for it — the scheme operator may be " ++
      "mid-rotation, or this document is not theirs"
  | .signatureInvalid why => "the signature does not verify: " ++ why
  | .nonConformantProfile why =>
    "the signature does not follow the profile CID (EU) 2015/1505 Annex I mandates: " ++ why

inductive AnchorFreshness where
  | current
  | superseded (lotlNames : String)
  | unknown
  deriving DecidableEq, Repr

structure LotlAnchor where
  /-- Base64 SHA-256 digests of the authorised certificates. -/
  digests : List String
  noticeCelex : String
  noticeUri : String
  deriving DecidableEq, Repr

def euLotlAnchor : LotlAnchor :=
  { digests := [
      "wGQcT31WxDGxySR0Lbf86cHu99f9ISETonaEhrOrzcU=",
      "4KYg+7Z0c2K7kzrEQWnWdqVTREcWz18xYF8SoiuDlrE=",
      "334pNgw0srjW1fQDJcHU0SyZIs7NM7dAdnSnSys8oeU=",
      "tj1BZ0TnCYv57CyqWWqTvCRo43+ChLpl7MBhcRvLqhg=",
      "I2ED8DqAMa6PR/kFm/jeOFZM2/6+3eSll9UPiYCqZTs=",
      "0gZP3XD2mC3MUWuG2dXFauqTlBfGJLLkeMCyneVPhHQ="]
    noticeCelex := "52026XC01944"
    noticeUri := "https://eur-lex.europa.eu/eli/C/2026/1944/oj" }

structure VerifiedLotl where
  pointers : List TrustedListPointer
  signedBy : String
  anchorFreshness : AnchorFreshness
  deriving DecidableEq, Repr

def envelopedSignature : String := "http://www.w3.org/2000/09/xmldsig#enveloped-signature"

def exclusiveC14n : String := "http://www.w3.org/2001/10/xml-exc-c14n#"

def unprefixedAttribute (node : Node) (name : String) : Option String :=
  (node.attributes.find? fun a => a.ns.isNone && a.name = name).map fun a => a.value

def inspectedSignedInfo (doc : Document) : Option (Path × Node) :=
  doc.root.first fun n => n.isNamed "SignedInfo"

def checkProfile (signedInfo : Node) : Except String Unit :=
  match signedInfo.children.filter fun n =>
      n.isNamed "Reference" && unprefixedAttribute n "URI" = some "" with
  | [] =>
    .error "no ds:Reference with URI=\"\" — nothing in this signature covers the whole document"
  | [reference] =>
    match childrenNamed reference "Transforms" with
    | [transforms] =>
      match (childrenNamed transforms "Transform").map fun n =>
          (unprefixedAttribute n "Algorithm").getD "" with
      | [first, second] =>
        if first = envelopedSignature ∧ second = exclusiveC14n then .ok ()
        else
          .error ("the URI=\"\" reference transforms are [" ++ first ++ ", " ++ second ++
            "], and the profile requires [" ++ envelopedSignature ++ ", " ++ exclusiveC14n ++
            "] in that order")
      | other =>
        .error ("the URI=\"\" reference carries " ++ toString other.length ++
          " ds:Transform elements, and the profile requires exactly two")
    | sets =>
      .error ("the URI=\"\" reference carries " ++ toString sets.length ++
        " ds:Transforms elements, and the profile allows exactly one")
  | many =>
    .error (toString many.length ++ " ds:Reference elements carry URI=\"\" — two document-wide " ++
      "references leave it ambiguous which one was checked")

def inspectProfile (doc : Document) : Except String Unit :=
  match inspectedSignedInfo doc with
  | none => .error "the signature carries no SignedInfo"
  | some signedInfo => checkProfile signedInfo.2

def comparedSignature (doc : Document) : Option (Path × Node) :=
  doc.root.first fun n => n.isNamed "Signature"

def readSigningCertificate (doc : Document) : Except LotlRejected String :=
  match comparedSignature doc with
  | none => .error .notSigned
  | some signature =>
    match signature.2.first fun n => n.isNamed "KeyInfo" with
    | none => .error .noCertificate
    | some keyInfo =>
      match (keyInfo.2.located.filter fun e => e.2.isNamed "X509Certificate").filterMap fun e =>
          certificateText e.2 with
      | [] => .error .noCertificate
      | [one] => .ok one
      | many => .error (.ambiguousSigningCertificate many.length)

def readFreshness (doc : Document) (pinned : String) : AnchorFreshness :=
  match (doc.root.first fun n => n.isNamed "SchemeInformationURI").bind fun e =>
      (child e.2 "URI").bind trimmedText with
  | none => .unknown
  | some uri => if uri = pinned then .current else .superseded uri

variable {History Status : Type} (x : Sources History Status)

def checkSignatureProfile (xml : String) : Except String Unit :=
  match x.parseXml xml with
  | .error e => .error ("not XML: " ++ e)
  | .ok doc => inspectProfile doc

def signingCertificate (xml : String) : Except LotlRejected String :=
  match x.parseXml xml with
  | .error e => .error (.malformed ("not XML: " ++ e))
  | .ok doc => readSigningCertificate doc

def anchorFreshness (xml : String) (pinned : String) : AnchorFreshness :=
  match x.parseXml xml with
  | .error _ => .unknown
  | .ok doc => readFreshness doc pinned

def LotlAnchor.authorises (anchor : LotlAnchor) (certificateDer : Bytes) : Bool :=
  x.base64Encode (x.sha256 certificateDer) ∈ anchor.digests

def verifyLotlWith (xml : String) (anchor : LotlAnchor) : Except LotlRejected VerifiedLotl := do
  let certificate ← signingCertificate x xml
  let der ← (x.base64Decode certificate).mapError fun e =>
    .malformed ("certificate is not base64: " ++ e)
  if !anchor.authorises x der then
    throw (.notAnchored (x.base64Encode (x.sha256 der)) anchor.noticeCelex)
  (checkSignatureProfile x xml).mapError .nonConformantProfile
  let _ ← (x.verifySignature xml der).mapError .signatureInvalid
  let pointers ← (parseLotl x xml).mapError .malformed
  pure ⟨pointers, x.base64Encode (x.sha256 der), anchorFreshness x xml anchor.noticeUri⟩

def verifyLotl (xml : String) : Except LotlRejected VerifiedLotl :=
  verifyLotlWith x xml euLotlAnchor

def rejectedAs : LotlRejected → TrustedListRejected
  | .malformed why => .malformed why
  | .notSigned => .notSigned
  | .ambiguousSigningCertificate found => .ambiguousSigningCertificate found
  | _ => .noCertificate

def verifyTrustedList (xml : String) (pointer : TrustedListPointer) :
    Except TrustedListRejected (VerifiedTrustedList History) := do
  if pointer.certificates.isEmpty then throw .noAuthorisedCertificates
  let certificate ← (signingCertificate x xml).mapError rejectedAs
  if !pointer.certificates.contains certificate then
    throw (.notNamedByLotl
      (x.base64Encode (x.sha256 ((x.base64Decode certificate).toOption.getD [])))
      pointer.certificates.length)
  (checkSignatureProfile x xml).mapError .nonConformantProfile
  let der ← (x.base64Decode certificate).mapError fun e =>
    .malformed ("certificate is not base64: " ++ e)
  let _ ← (x.verifySignature xml der).mapError .signatureInvalid
  let content ← (parseTrustedList x xml).mapError .malformed
  pure ⟨content, x.base64Encode (x.sha256 der)⟩

end Verification

section Acceptance

variable {History Status : Type} {x : Sources History Status} {xml : String} {doc : Document}

/-- What every accepted list of lists passed, and what was read from it. -/
theorem verifyLotlWith_ok {anchor : LotlAnchor} {v : VerifiedLotl}
    (h : verifyLotlWith x xml anchor = .ok v) :
    ∃ certificate der path, signingCertificate x xml = .ok certificate ∧
      x.base64Decode certificate = .ok der ∧ anchor.authorises x der ∧
      checkSignatureProfile x xml = .ok () ∧ x.verifySignature xml der = .ok path ∧
      parseLotl x xml = .ok v.pointers ∧
        v.anchorFreshness = anchorFreshness x xml anchor.noticeUri := by
  obtain ⟨certificate, hcertificate, h⟩ := bind_ok h
  obtain ⟨der, hder, h⟩ := bind_ok h
  split at h
  next => cases h
  next hauthorised =>
    obtain ⟨_, hprofile, h⟩ := bind_ok h
    obtain ⟨path, hpath, h⟩ := bind_ok h
    obtain ⟨pointers, hpointers, h⟩ := bind_ok h
    cases h
    exact ⟨certificate, der, path, hcertificate, mapError_ok hder, by simpa using hauthorised,
      mapError_ok hprofile, mapError_ok hpath, mapError_ok hpointers, rfl⟩

/-- What every accepted national list passed, and what was read from it. -/
theorem verifyTrustedList_ok {pointer : TrustedListPointer} {v : VerifiedTrustedList History}
    (h : verifyTrustedList x xml pointer = .ok v) :
    ∃ certificate der path, signingCertificate x xml = .ok certificate ∧
      certificate ∈ pointer.certificates ∧ x.base64Decode certificate = .ok der ∧
      checkSignatureProfile x xml = .ok () ∧ x.verifySignature xml der = .ok path ∧
      parseTrustedList x xml = .ok v.content ∧ v.signedBy = x.base64Encode (x.sha256 der) := by
  unfold verifyTrustedList at h
  split at h
  next => cases h
  next =>
    obtain ⟨certificate, hcertificate, h⟩ := bind_ok h
    split at h
    next => cases h
    next hnamed =>
      obtain ⟨_, hprofile, h⟩ := bind_ok h
      obtain ⟨der, hder, h⟩ := bind_ok h
      obtain ⟨path, hpath, h⟩ := bind_ok h
      obtain ⟨content, hcontent, h⟩ := bind_ok h
      cases h
      exact ⟨certificate, der, path, mapError_ok hcertificate, by simpa using hnamed,
        mapError_ok hder, mapError_ok hprofile, mapError_ok hpath, mapError_ok hcontent, rfl⟩

end Acceptance

section Wrapping

variable {History Status : Type} {x : Sources History Status} {xml : String} {doc : Document}
  {path : Path}

/-- The signature library verified the `Signature` at this path, under the compared certificate. -/
def VerifiedAt (x : Sources History Status) (xml : String) (path : Path) : Prop :=
  ∃ certificate der, signingCertificate x xml = .ok certificate ∧
    x.base64Decode certificate = .ok der ∧ x.verifySignature xml der = .ok path

/-- The profile was read from, and the certificate was taken from, the `Signature` at this path. -/
def SameSignature (doc : Document) (path : Path) : Prop :=
  (∃ e, inspectedSignedInfo doc = some e ∧ path <+: e.1) ∧
    ∃ signature, comparedSignature doc = some (path, signature)

/-- Nothing of either name, in whichever namespace, starts before the node at this path. -/
def NoDecoyBefore (doc : Document) (path : Path) : Prop :=
  ∀ e ∈ doc.root.before path, e.2.isNamed "Signature" = false ∧ e.2.isNamed "SignedInfo" = false

theorem sameSignature_iff (hverified : VerifiedAt x xml path) (hdoc : x.parseXml xml = .ok doc) :
    SameSignature doc path ↔ NoDecoyBefore doc path := by
  obtain ⟨certificate, der, _, _, hpath⟩ := hverified
  obtain ⟨attributes, children, hat, c, hc, hinfo⟩ := x.verifies_signature hpath hdoc
  have hholds : ∃ e ∈ (Node.element ⟨some dsigNamespace, "Signature"⟩ attributes children).located,
      e.2.isNamed "SignedInfo" := by
    have hmem : c ∈ (Node.element ⟨some dsigNamespace, "Signature"⟩ attributes children).located.map
        Prod.snd := by
      rw [Node.map_snd_located]
      refine List.mem_cons_of_mem _ (List.mem_flatMap.mpr ⟨c, hc, ?_⟩)
      rw [Node.map_snd_located]
      exact List.mem_cons_self
    obtain ⟨e, he, rfl⟩ := List.mem_map.mp hmem
    exact ⟨e, he, hinfo⟩
  have hinspected := @Node.first_within_iff doc.root _ path (fun n => n.isNamed "SignedInfo") hat
  have hcompared := @Node.first_eq_iff doc.root _ path (fun n => n.isNamed "Signature") hat rfl
  constructor
  · rintro ⟨hsigned, signature, hsignature⟩ e he
    refine ⟨?_, (hinspected.mp hsigned).1 e he⟩
    have hwithin := @Node.first_within_iff doc.root _ path (fun n => n.isNamed "Signature") hat
    exact (hwithin.mp ⟨_, hsignature, List.prefix_rfl⟩).1 e he
  · intro h
    exact ⟨hinspected.mpr ⟨fun e he => (h e he).2, hholds⟩, _, hcompared.mpr fun e he => (h e he).1⟩

end Wrapping

section Kept

/-- The text of the first child of the name is not uncovered. -/
def ChildTextKept (name : String) : Node → Path → Prop := InFirst name UncoversNone

def FirstNameKept : Node → Path → Prop := InUntil "Name" (fun n => n.text?.isSome) UncoversNone

def StatusPeriodKept (n : Node) (path : Path) : Prop :=
  ChildTextKept "ServiceStatus" n path ∧
    ((childText n "ServiceStatus").isSome → ChildTextKept "StatusStartingTime" n path)

def CertificatesKept : Node → Path → Prop :=
  InEach "DigitalId" (InFirst "X509Certificate" UncoversNone)

def ServiceKept (n : Node) (path : Path) : Prop :=
  InFirst "ServiceInformation" (ChildTextKept "ServiceTypeIdentifier") n path ∧
    InFirst "ServiceInformation" (InFirst "ServiceName" FirstNameKept) n path ∧
    InFirst "ServiceInformation" StatusPeriodKept n path ∧
    InFirst "ServiceHistory" (InEach "ServiceHistoryInstance" StatusPeriodKept) n path ∧
    InFirst "ServiceInformation" (InFirst "ServiceDigitalIdentity" CertificatesKept) n path

def ProviderKept (n : Node) (path : Path) : Prop :=
  InFirst "TSPInformation" (InFirst "TSPName" FirstNameKept) n path ∧
    InFirst "TSPServices" (InEach "TSPService" ServiceKept) n path

/-- Taking the element at this path out uncovers no text that is read of a national list. -/
def TrustedListKept (n : Node) (path : Path) : Prop :=
  InFirst "SchemeInformation" (ChildTextKept "SchemeTerritory") n path ∧
    InFirst "TrustServiceProviderList" (InEach "TrustServiceProvider" ProviderKept) n path

def PointerInfoKept (name : String) : Node → Path → Prop :=
  InFirst "AdditionalInformation" (AtFound name UncoversNone)

/-- Of a pointer without a location nothing else is read. -/
def PointerKept (n : Node) (path : Path) : Prop :=
  ChildTextKept "TSLLocation" n path ∧ ((childText n "TSLLocation").isSome →
    PointerInfoKept "SchemeTerritory" n path ∧ PointerInfoKept "TSLType" n path ∧
      PointerInfoKept "MimeType" n path ∧
      AtAll "X509Certificate" certificateText UncoversNone n path)

/-- It uncovers no text that is read of the pointers, and holds none of the elements that are
searched for under one. -/
def PointersKept : Node → Path → Prop :=
  InFirst "SchemeInformation"
    (InFirst "PointersToOtherTSL" (InEach "OtherTSLPointer" PointerKept))

/-- It does not hold the first notice, nor uncovers its address. -/
def NoticeKept : Node → Path → Prop := AtFound "SchemeInformationURI" (ChildTextKept "URI")

variable {History Status : Type} {x : Sources History Status} {α : Type} {name : String}
  {safe : Node → Path → Prop}

theorem keeps_child {read : Node → Option α} (hname : name ≠ "Signature")
    (h : Keeps "Signature" read safe) :
    Keeps "Signature" (fun n => (child n name).bind read) (InFirst name safe) := by
  refine ((h.first hname).map Option.join).congr fun n => ?_
  change ((child n name).map read).join = (child n name).bind read
  cases child n name <;> rfl

theorem keeps_children {read : Node → α} {outer inner : String} (houter : outer ≠ "Signature")
    (hinner : inner ≠ "Signature") (h : Keeps "Signature" read safe) :
    Keeps "Signature" (fun n => ((child n outer).toList.flatMap fun c =>
      childrenNamed c inner).map read) (InFirst outer (InEach inner safe)) := by
  refine (((h.each hinner).first houter).map fun o => o.getD []).congr fun n => ?_
  change ((child n outer).map fun c => (childrenNamed c inner).map read).getD [] = _
  cases child n outer <;> simp

theorem keeps_childText (hname : name ≠ "Signature") :
    Keeps "Signature" (fun n => childText n name) (ChildTextKept name) :=
  keeps_child hname ((keeps_text _).map fun o => (o.map trim).bind nonEmpty)

theorem keeps_certificateText : Keeps "Signature" certificateText UncoversNone :=
  (keeps_text _).map fun o => (o.map withoutWhitespace).bind nonEmpty

theorem keeps_firstName : Keeps "Signature" firstName FirstNameKept :=
  ((keeps_text _).findSome? (by decide)).map fun o => (o.map trim).bind nonEmpty

theorem keeps_statusPeriod : Keeps "Signature" (parseStatusPeriod x) StatusPeriodKept := by
  rintro n path d hat hd hne ⟨hstatus, hstart⟩
  have hstatus' : childText (n.removeAt path) "ServiceStatus" = childText n "ServiceStatus" :=
    keeps_childText (by decide) n path d hat hd hne hstatus
  unfold parseStatusPeriod
  rw [hstatus']
  cases h : childText n "ServiceStatus" with
  | none => rfl
  | some status =>
    have hstart' : childText (n.removeAt path) "StatusStartingTime" =
        childText n "StatusStartingTime" :=
      keeps_childText (by decide) n path d hat hd hne (hstart (by rw [h]; rfl))
    rw [hstart']

theorem keeps_certificates : Keeps "Signature" collectCertificates CertificatesKept := by
  have hcertificate : Keeps "Signature" (fun n => (child n "X509Certificate").bind certificateText)
      (InFirst "X509Certificate" UncoversNone) := keeps_child (by decide) keeps_certificateText
  refine ((hcertificate.each (by decide)).map (List.filterMap id)).congr fun n => ?_
  rw [List.filterMap_map]
  rfl

theorem keeps_service : Keeps "Signature" (parseService x) ServiceKept := by
  rintro n path d hat hd hne ⟨htype, hname, hstatus, hhistory, hidentity⟩
  have htype' : ((child (n.removeAt path) "ServiceInformation").bind fun i =>
      childText i "ServiceTypeIdentifier") =
        (child n "ServiceInformation").bind fun i => childText i "ServiceTypeIdentifier" :=
    keeps_child (by decide) (keeps_childText (by decide)) n path d hat hd hne htype
  have hname' : ((child (n.removeAt path) "ServiceInformation").bind fun i =>
      (child i "ServiceName").bind firstName) =
        (child n "ServiceInformation").bind fun i => (child i "ServiceName").bind firstName :=
    keeps_child (by decide) (keeps_child (by decide) keeps_firstName) n path d hat hd hne hname
  have hstatus' : (child (n.removeAt path) "ServiceInformation").bind (parseStatusPeriod x) =
      (child n "ServiceInformation").bind (parseStatusPeriod x) :=
    keeps_child (by decide) keeps_statusPeriod n path d hat hd hne hstatus
  have hhistory' : (((child (n.removeAt path) "ServiceHistory").toList.flatMap fun h =>
      childrenNamed h "ServiceHistoryInstance").map (parseStatusPeriod x)) =
        ((child n "ServiceHistory").toList.flatMap fun h =>
          childrenNamed h "ServiceHistoryInstance").map (parseStatusPeriod x) :=
    keeps_children (by decide) (by decide) keeps_statusPeriod n path d hat hd hne hhistory
  have hidentity' : ((child (n.removeAt path) "ServiceInformation").bind fun i =>
      (child i "ServiceDigitalIdentity").map collectCertificates) =
        (child n "ServiceInformation").bind fun i =>
          (child i "ServiceDigitalIdentity").map collectCertificates :=
    keeps_child (by decide) (keeps_certificates.first (by decide)) n path d hat hd hne hidentity
  have hperiods : ∀ l : List Node, l.filterMap (parseStatusPeriod x) =
      (l.map (parseStatusPeriod x)).filterMap id := fun l => by rw [List.filterMap_map]; rfl
  unfold parseService
  simp only [Option.bind_assoc, Option.map_bind, hperiods, htype', hname', hstatus', hhistory',
    hidentity', Function.comp_def]

theorem keeps_provider : Keeps "Signature" (parseProvider x) ProviderKept := by
  rintro n path d hat hd hne ⟨hname, hservices⟩
  have hname' : ((child (n.removeAt path) "TSPInformation").bind fun i =>
      (child i "TSPName").bind firstName) =
        (child n "TSPInformation").bind fun i => (child i "TSPName").bind firstName :=
    keeps_child (by decide) (keeps_child (by decide) keeps_firstName) n path d hat hd hne hname
  have hservices' : (((child (n.removeAt path) "TSPServices").toList.flatMap fun s =>
      childrenNamed s "TSPService").map (parseService x)) =
        ((child n "TSPServices").toList.flatMap fun s =>
          childrenNamed s "TSPService").map (parseService x) :=
    keeps_children (by decide) (by decide) keeps_service n path d hat hd hne hservices
  unfold parseProvider
  simp only [Option.bind_assoc, hname', hservices']

theorem keeps_pointerInfo :
    Keeps "Signature" (fun n => pointerInfo n name) (PointerInfoKept name) := by
  have htext : Keeps "Signature" trimmedText UncoversNone :=
    (keeps_text _).map fun o => (o.map trim).bind nonEmpty
  refine keeps_child (by decide) ((htext.found.map Option.join).congr fun n => ?_)
  cases n.first fun k => k.isNamed name <;> rfl

theorem keeps_pointer : Keeps "Signature" (parsePointer x) PointerKept := by
  rintro n path d hat hd hne ⟨hlocation, hrest⟩
  have hlocation' : childText (n.removeAt path) "TSLLocation" = childText n "TSLLocation" :=
    keeps_childText (by decide) n path d hat hd hne hlocation
  unfold parsePointer
  rw [hlocation']
  cases h : childText n "TSLLocation" with
  | none => rfl
  | some location =>
    obtain ⟨hterritory, htype, hmime, hcertificates⟩ := hrest (by rw [h]; rfl)
    have hterritory' : pointerInfo (n.removeAt path) "SchemeTerritory" =
        pointerInfo n "SchemeTerritory" := keeps_pointerInfo n path d hat hd hne hterritory
    have htype' : pointerInfo (n.removeAt path) "TSLType" = pointerInfo n "TSLType" :=
      keeps_pointerInfo n path d hat hd hne htype
    have hmime' : pointerInfo (n.removeAt path) "MimeType" = pointerInfo n "MimeType" :=
      keeps_pointerInfo n path d hat hd hne hmime
    have hcertificates' : pointerCertificates (n.removeAt path) = pointerCertificates n :=
      keeps_certificateText.all n path d hat hd hne hcertificates
    rw [hterritory', htype', hmime', hcertificates']

theorem Document.root_without (doc : Document) (path : Path) :
    (doc.without path).root = doc.root.removeAt path := by
  rcases path with _ | ⟨i, _ | ⟨j, path⟩⟩ <;> rfl

theorem Document.tag_without (doc : Document) (path : Path) : (doc.without path).tag = doc.tag := by
  rcases path with _ | ⟨i, _ | ⟨j, path⟩⟩ <;> rfl

variable {doc : Document} {path : Path} {d : Node}

theorem readTrustedList_kept (hat : doc.root.at path = some d) (hd : d.isNamed "Signature")
    (hne : path ≠ []) (hkept : TrustedListKept doc.root path) :
    readTrustedList x (doc.without path) = readTrustedList x doc := by
  obtain ⟨hterritory, hproviders⟩ := hkept
  have hterritory' : ((child (doc.root.removeAt path) "SchemeInformation").bind fun si =>
      childText si "SchemeTerritory") =
        (child doc.root "SchemeInformation").bind fun si => childText si "SchemeTerritory" :=
    keeps_child (by decide) (keeps_childText (by decide)) _ path d hat hd hne hterritory
  have hproviders' : (((child (doc.root.removeAt path) "TrustServiceProviderList").toList.flatMap
      fun list => childrenNamed list "TrustServiceProvider").map (parseProvider x)) =
        ((child doc.root "TrustServiceProviderList").toList.flatMap fun list =>
          childrenNamed list "TrustServiceProvider").map (parseProvider x) :=
    keeps_children (by decide) (by decide) keeps_provider _ path d hat hd hne hproviders
  unfold readTrustedList
  rw [Document.tag_without, Document.root_without, hterritory', hproviders']

theorem readLotl_kept (hat : doc.root.at path = some d) (hd : d.isNamed "Signature")
    (hne : path ≠ []) (hkept : PointersKept doc.root path) :
    readLotl x (doc.without path) = readLotl x doc := by
  have hpointers : ((child (doc.root.removeAt path) "SchemeInformation").bind fun si =>
      (child si "PointersToOtherTSL").map fun pointers =>
        (childrenNamed pointers "OtherTSLPointer").map (parsePointer x)) =
        (child doc.root "SchemeInformation").bind fun si =>
          (child si "PointersToOtherTSL").map fun pointers =>
            (childrenNamed pointers "OtherTSLPointer").map (parsePointer x) :=
    keeps_child (by decide) ((keeps_pointer.each (by decide)).first (by decide))
      _ path d hat hd hne hkept
  have hread : ∀ doc : Document, readLotl x doc =
      if doc.tag.name ≠ "TrustServiceStatusList" then
        .error (malformedList "root element is not `TrustServiceStatusList`")
      else .ok (((child doc.root "SchemeInformation").bind fun si =>
        (child si "PointersToOtherTSL").map fun pointers =>
          (childrenNamed pointers "OtherTSLPointer").map (parsePointer x)).getD []
            |>.filterMap id) := by
    intro doc
    unfold readLotl
    split
    next => rfl
    next =>
      cases child doc.root "SchemeInformation" with
      | none => rfl
      | some si =>
        rw [Option.bind_some, Option.bind_some]
        cases child si "PointersToOtherTSL" with
        | none => rfl
        | some pointers =>
          rw [Option.map_some, Option.getD_some, List.filterMap_map]
          rfl
  rw [hread, hread, Document.tag_without, Document.root_without, hpointers]

theorem readFreshness_kept {pinned : String} (hat : doc.root.at path = some d)
    (hd : d.isNamed "Signature") (hne : path ≠ []) (hkept : NoticeKept doc.root path) :
    readFreshness (doc.without path) pinned = readFreshness doc pinned := by
  have huri : Keeps "Signature" (fun n => (child n "URI").bind trimmedText) (ChildTextKept "URI") :=
    keeps_childText (by decide)
  have hnotice : Keeps "Signature" (fun n =>
      (n.first fun k => k.isNamed "SchemeInformationURI").bind fun e =>
        (child e.2 "URI").bind trimmedText) NoticeKept := by
    refine (huri.found.map Option.join).congr fun n => ?_
    cases n.first fun k => k.isNamed "SchemeInformationURI" <;> rfl
  have hsame : ((doc.root.removeAt path).first fun k => k.isNamed "SchemeInformationURI").bind
      (fun e => (child e.2 "URI").bind trimmedText) =
        (doc.root.first fun k => k.isNamed "SchemeInformationURI").bind fun e =>
          (child e.2 "URI").bind trimmedText := hnotice _ path d hat hd hne hkept
  unfold readFreshness
  rw [Document.root_without, hsame]

end Kept

section Signed

variable {History Status : Type} {x : Sources History Status} {xml : String} {doc : Document}
  {path : Path}

/-- What the signature library verified is a `Signature`, and not the document itself. -/
theorem VerifiedAt.at_signature (hverified : VerifiedAt x xml path)
    (hdoc : x.parseXml xml = .ok doc)
    (hroot : doc.tag.name = "TrustServiceStatusList") :
    ∃ d, doc.root.at path = some d ∧ d.isNamed "Signature" ∧ path ≠ [] := by
  obtain ⟨certificate, der, _, _, hpath⟩ := hverified
  obtain ⟨attributes, children, hat, _⟩ := x.verifies_signature hpath hdoc
  refine ⟨_, hat, rfl, ?_⟩
  rintro rfl
  have htag := congrArg (fun o : Option Node => o.bind Node.tag) hat
  have hname : doc.tag = ⟨some dsigNamespace, "Signature"⟩ := Option.some.inj htag
  rw [hname] at hroot
  revert hroot
  decide

theorem readTrustedList_ok {list : UnverifiedTrustedList History}
    (h : readTrustedList x doc = .ok list) : doc.tag.name = "TrustServiceStatusList" := by
  unfold readTrustedList at h
  split at h
  next => cases h
  next hroot => exact not_not.mp hroot

theorem readLotl_ok {pointers : List TrustedListPointer} (h : readLotl x doc = .ok pointers) :
    doc.tag.name = "TrustServiceStatusList" := by
  unfold readLotl at h
  split at h
  next => cases h
  next hroot => exact not_not.mp hroot

theorem parsed_of_signingCertificate {certificate : String}
    (h : signingCertificate x xml = .ok certificate) : ∃ doc, x.parseXml xml = .ok doc := by
  unfold signingCertificate at h
  split at h
  next => cases h
  next doc hdoc => exact ⟨doc, hdoc⟩

def isSignature (n : Node) : Bool :=
  n.tag = some ⟨some dsigNamespace, "Signature"⟩ && n.children.any fun c => c.isNamed "SignedInfo"

theorem first_signature {n : Node} {e : Path × Node} (h : n.first isSignature = some e) :
    ∃ attributes children,
      n.at e.1 = some (.element ⟨some dsigNamespace, "Signature"⟩ attributes children) ∧
        ∃ c ∈ children, c.isNamed "SignedInfo" := by
  have hat := Node.at_of_mem_located n e (List.mem_of_find?_eq_some h)
  have hfits := List.find?_some h
  obtain ⟨path, m⟩ := e
  simp only [isSignature, Bool.and_eq_true, decide_eq_true_eq, List.any_eq_true] at hfits
  cases m with
  | element tag attributes children =>
    obtain ⟨htag, hinfo⟩ := hfits
    cases htag
    exact ⟨attributes, children, hat, hinfo⟩
  | text _ => cases hfits.1
  | other => cases hfits.1

def sampleDigests : List (Bytes × Bytes × String) :=
  [([1], [75, 245, 18, 47, 52, 69, 84, 197, 59, 222, 46, 187, 140, 210, 183, 227,
    209, 96, 10, 214, 49, 195, 133, 165, 215, 204, 226, 60, 119, 133, 69, 154],
    "S/USLzRFVMU73i67jNK349FgCtYxw4Wl18ziPHeFRZo="),
   ([2], [219, 193, 180, 201, 0, 255, 228, 141, 87, 91, 93, 165, 198, 56, 4, 1,
    37, 246, 93, 176, 254, 62, 36, 73, 75, 118, 234, 152, 100, 87, 217, 134],
    "28G0yQD/5I1XW12lxjgEASX2XbD+PiRJS3bqmGRX2YY=")]

def plainSources (documents : List (String × Document)) : Sources Bool Bool :=
  { parseXml := fun xml =>
      match documents.lookup xml with
      | some doc => .ok doc
      | none => .error "unexpected end of stream"
    verifySignature := fun xml _ =>
      match (documents.lookup xml).bind fun doc => doc.root.first isSignature with
      | some e => .ok e.1
      | none => .error "missing signature"
    verifies_signature := by
      intro xml der path doc hpath hdoc
      split at hdoc
      next found hfound =>
        cases hdoc
        rw [hfound, Option.bind_some] at hpath
        split at hpath
        next e he =>
          cases hpath
          exact first_signature he
        next => cases hpath
      next => cases hdoc
    toUppercase := id
    base64Decode := fun s =>
      match ([("AQ==", [1]), ("Ag==", [2])] : List (String × Bytes)).lookup s with
      | some der => .ok der
      | none => .error "invalid symbol"
    base64Encode := fun b =>
      ((sampleDigests.map Prod.snd).lookup b).getD ""
    sha256 := fun b => ((sampleDigests.lookup b).map Prod.fst).getD []
    parseTime := fun _ => none
    typeOf := id
    statusFromUri := fun uri => uri = "http://uri.etsi.org/TrstSvc/TrustedList/Svcstatus/granted"
    historyOf := fun periods => periods.any Prod.fst }

def dsig (name : String) (attributes : List XmlTrees.Attribute) (children : List Node) : Node :=
  .element ⟨some dsigNamespace, name⟩ attributes children

def wholeDocument (algorithms : List String) : Node :=
  dsig "Reference" [⟨none, "URI", ""⟩]
    [dsig "Transforms" [] (algorithms.map fun a => dsig "Transform" [⟨none, "Algorithm", a⟩] [])]

def keyInfo (certificate : String) : Node :=
  dsig "KeyInfo" [] [dsig "X509Data" [] [dsig "X509Certificate" [] [.text certificate]]]

def signature (algorithms : List String) (certificate : String) : Node :=
  dsig "Signature" [] [dsig "SignedInfo" [] [wholeDocument algorithms], keyInfo certificate]

def tsl (name : String) (children : List Node) : Node :=
  .element ⟨some "http://uri.etsi.org/02231/v2#", name⟩ [] children

def statusList (children : List Node) : Document :=
  ⟨⟨some "http://uri.etsi.org/02231/v2#", "TrustServiceStatusList"⟩, [], children⟩

/-- A list signed through an XPath transform, behind a `SignedInfo` of another namespace that
follows the profile. -/
def wrappedList : Document :=
  statusList
    [.element ⟨some "urn:example:decoy", "SignedInfo"⟩ []
      [wholeDocument [envelopedSignature, exclusiveC14n]],
     signature ["http://www.w3.org/TR/1999/REC-xpath-19991116", exclusiveC14n] "AQ=="]

def pointerTo (location territory : String) (certificates : List String) : TrustedListPointer :=
  { location
    territory := some territory
    tslType := some "http://uri.etsi.org/TrstSvc/TrustedList/TSLType/EUgeneric"
    mimeType := some "application/vnd.etsi.tsl+xml"
    certificates }

def signedList : Document :=
  statusList
    [tsl "SchemeInformation" [tsl "SchemeTerritory" [.text "DE"]],
     signature [envelopedSignature, exclusiveC14n] "AQ=="]

end Signed

end TrustedListDocuments
