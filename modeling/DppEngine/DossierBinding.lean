import DppEngine.DossierAssembly

/-! What a signed manifest says about the dossier it comes with: the members its hashes are taken
over, and nothing about the documents its signatures are checked against.

How bytes are read as JSON and as a dossier is a parameter: serde's own reading. -/
namespace DossierBinding

open JsonValues JsonTexts PassportModel AuditTrail OrderedMaps SignedTokens DossierVerification
open FallibleSteps

section Verifier

/-- `serde_json::from_slice`, at the type of any value and at `DossierV1`. -/
structure Reader where
  json : List UInt8 → Except String Json
  dossier : List UInt8 → Except String DossierV1

def layerJson (layer : SignedLayer) : Json :=
  .obj [("payload", layer.payload), ("jws", .str layer.jws)]

variable (lib : Libraries)

/-- A dossier as it is serialised: optional members are left out, and so is an empty list of
receipts. -/
def dossierJson (d : DossierV1) : Json :=
  .obj ([("manifest", d.manifest.toJson), ("manifestJws", .str d.manifestJws),
    ("fullView", layerJson d.fullView), ("publicView", layerJson d.publicView),
    ("didDocuments", .obj d.didDocuments.entries),
    ("auditEntries", .arr (d.auditEntries.map auditEntryJson))] ++
    Doc.optional "transferChain" (d.transferChain.map lib.transferChainJson) ++
    Doc.optional "eolEvent" d.eolEvent ++ Doc.optional "checkpoint" d.checkpoint ++
    Doc.optional "calcReceipts"
      (if d.calcReceipts.isEmpty then none else some (.arr d.calcReceipts)) ++
    Doc.optional "componentGraph" d.componentGraph ++
    Doc.optional "qualifiedSeal" d.qualifiedSeal)

def fidelity (raw : Json) (parsed : DossierV1) : Except String CheckStatus := do
  let rawBytes ← (lib.canonicalize raw).mapError ("canonicalising input: " ++ ·)
  let reparsed ← (lib.canonicalize (dossierJson lib parsed)).mapError
    ("canonicalising reserialised dossier: " ++ ·)
  return if reparsed = rawBytes then .pass
    else .fail ("dossier content changed after parsing — a field was likely dropped silently " ++
      "(e.g. an unknown field nested inside a tolerant type such as a transfer record)")

def inputFidelityCheck (raw : Json) (parsed : DossierV1) : CheckResult :=
  ⟨"input_fidelity", match fidelity lib raw parsed with
    | .ok status => status
    | .error e => .fail e⟩

def parseError (e : String) : String :=
  "not a valid dossier — malformed JSON or an unrecognised field: " ++ e

def verifyDossierJson (reader : Reader) (bytes : List UInt8) (seals : Option SealInspector) :
    Except String VerificationReport := do
  let raw ← (reader.json bytes).mapError parseError
  let dossier ← (reader.dossier bytes).mapError parseError
  let report := verifyDossier lib dossier seals
  return { report with checks := report.checks ++ [inputFidelityCheck lib raw dossier] }

end Verifier

section Agreement

/-- Both absent, or both the same JSON value. -/
def SameMember (a b : Option Json) : Prop := a.map normal = b.map normal

instance (a b : Option Json) : Decidable (SameMember a b) :=
  inferInstanceAs (Decidable (a.map normal = b.map normal))

def checkedDids (d : DossierV1) : List String :=
  d.manifest.issuerDid :: match d.transferChain with
    | none => []
    | some chain => (chain.transfers.filter (·.fromSignature.isSome)).map (·.fromOperator.did)

def SameDocuments (a b : DossierV1) : Prop :=
  ∀ did ∈ checkedDids a ++ checkedDids b,
    SameMember (a.didDocuments.get did) (b.didDocuments.get did)

structure Agree (lib : Libraries) (a b : DossierV1) : Prop where
  fullView : SameMember (some a.fullView.payload) (some b.fullView.payload)
  publicView : SameMember (some a.publicView.payload) (some b.publicView.payload)
  auditEntries : SameMember (some (.arr (a.auditEntries.map auditEntryJson)))
    (some (.arr (b.auditEntries.map auditEntryJson)))
  transferChain : SameMember (a.transferChain.map lib.transferChainJson)
    (b.transferChain.map lib.transferChainJson)
  eolEvent : SameMember a.eolEvent b.eolEvent
  componentGraph : SameMember a.componentGraph b.componentGraph
  qualifiedSeal : SameMember a.qualifiedSeal b.qualifiedSeal
  documents : SameDocuments a b

def CollisionFree (lib : Libraries) : Prop :=
  ∀ a b hash, lib.contentHash a = .ok hash → lib.contentHash b = .ok hash → normal a = normal b

def Verified (lib : Libraries) (reader : Reader) (seals : Option SealInspector)
    (bytes : List UInt8) (d : DossierV1) : Prop :=
  reader.dossier bytes = .ok d ∧
    ∃ report, verifyDossierJson lib reader bytes seals = .ok report ∧ report.allVerified = true

end Agreement

section Binding

variable {lib : Libraries} {reader : Reader} {seals : Option SealInspector} {bytes : List UInt8}
  {a b d : DossierV1} {m m' : BTreeMap String String} {name other : String} {v w : Option Json}

def Bound (lib : Libraries) (hashes : BTreeMap String String) (name : String) (v : Option Json) :
    Prop :=
  match v with
  | none => hashes.get name = none
  | some x => ∃ hash, lib.contentHash x = .ok hash ∧ hashes.get name = some hash

theorem insertHash_bound (hnone : m.get name = none) (h : insertHash lib m name v = .ok m') :
    Bound lib m' name v := by
  cases v with
  | none =>
    cases h
    exact hnone
  | some x =>
    obtain ⟨hash, hhash, h⟩ := bind_ok h
    cases h
    exact ⟨hash, hhash, by rw [BTreeMap.get_insert, if_pos rfl]⟩

theorem insertHash_get (hne : name ≠ other) (h : insertHash lib m name v = .ok m') :
    m'.get other = m.get other := by
  cases v with
  | none =>
    cases h
    rfl
  | some x =>
    obtain ⟨hash, -, h⟩ := bind_ok h
    cases h
    rw [BTreeMap.get_insert, if_neg hne]

def hashedMembers (lib : Libraries) (d : DossierV1) : List (String × Option Json) :=
  [("fullView", some d.fullView.payload), ("publicView", some d.publicView.payload),
    ("auditEntries", some (.arr (d.auditEntries.map auditEntryJson))),
    ("transferChain", d.transferChain.map lib.transferChainJson), ("eolEvent", d.eolEvent),
    ("componentGraph", d.componentGraph), ("qualifiedSeal", d.qualifiedSeal)]

def insertAll (lib : Libraries) (m : BTreeMap String String) :
    List (String × Option Json) → Except String (BTreeMap String String)
  | [] => .ok m
  | p :: ps => do
    let m ← insertHash lib m p.1 p.2
    insertAll lib m ps

theorem computeContentHashes_eq : computeContentHashes lib d =
    insertAll lib .empty (hashedMembers lib d) := by
  have hlast : ∀ x : Except String (BTreeMap String String), (x >>= fun m => .ok m) = x := by
    intro x
    cases x <;> rfl
  simp only [computeContentHashes, hashedMembers, insertAll, hlast]

theorem insertAll_get {ps : List (String × Option Json)} (hnew : ∀ p ∈ ps, p.1 ≠ other)
    (h : insertAll lib m ps = .ok m') : m'.get other = m.get other := by
  induction ps generalizing m with
  | nil =>
    cases h
    rfl
  | cons p ps ih =>
    obtain ⟨m₁, h₁, h⟩ := bind_ok h
    rw [ih (fun q hq => hnew q (List.mem_cons_of_mem _ hq)) h]
    exact insertHash_get (hnew p List.mem_cons_self) h₁

/-- Each member is hashed under a name that is new when its turn comes and is not written again. -/
theorem insertAll_bound {ps : List (String × Option Json)} (hnames : (ps.map Prod.fst).Nodup)
    (hnew : ∀ p ∈ ps, m.get p.1 = none) (h : insertAll lib m ps = .ok m') :
    ∀ p ∈ ps, Bound lib m' p.1 p.2 := by
  induction ps generalizing m with
  | nil => simp
  | cons p ps ih =>
    obtain ⟨m₁, h₁, hrest⟩ := bind_ok h
    obtain ⟨hp, hnames⟩ := List.nodup_cons.mp hnames
    have hother : ∀ q ∈ ps, q.1 ≠ p.1 := by
      intro q hq heq
      exact hp (heq ▸ List.mem_map_of_mem hq)
    intro q hq
    rcases List.mem_cons.mp hq with rfl | hq
    · have hbound := insertHash_bound (hnew q List.mem_cons_self) h₁
      unfold Bound at hbound ⊢
      rw [insertAll_get hother hrest]
      exact hbound
    · refine ih hnames ?_ hrest q hq
      intro r hr
      rw [insertHash_get (hother r hr).symm h₁]
      exact hnew r (List.mem_cons_of_mem _ hr)

theorem computeContentHashes_bound (h : computeContentHashes lib d = .ok m) :
    ∀ p ∈ hashedMembers lib d, Bound lib m p.1 p.2 := by
  rw [computeContentHashes_eq] at h
  refine insertAll_bound ?_ (fun p _ => BTreeMap.get_empty p.1) h
  simp [hashedMembers]

theorem Bound.sameMember (hfree : CollisionFree lib) (hv : Bound lib m name v)
    (hw : Bound lib m name w) : SameMember v w := by
  cases v with
  | none =>
    cases w with
    | none => rfl
    | some y =>
      obtain ⟨hash, -, hget⟩ := hw
      simp [show m.get name = none from hv] at hget
  | some x =>
    obtain ⟨hash, hhash, hget⟩ := hv
    cases w with
    | none => simp [show m.get name = none from hw] at hget
    | some y =>
      obtain ⟨hash', hhash', hget'⟩ := hw
      obtain rfl : hash = hash' := Option.some.inj (hget.symm.trans hget')
      exact congrArg some (hfree x y hash hhash hhash')

/-- What it takes to be verified: the checks on the dossier, and that nothing was dropped when it
was read. -/
theorem verified_iff : Verified lib reader seals bytes d ↔ reader.dossier bytes = .ok d ∧
    ∃ raw, reader.json bytes = .ok raw ∧
      (∀ c ∈ (verifyDossier lib d seals).checks, c.status.isFailure = false) ∧
      (inputFidelityCheck lib raw d).status.isFailure = false := by
  constructor
  · rintro ⟨hread, report, hreport, hall⟩
    obtain ⟨raw, hraw, hreport⟩ := bind_ok hreport
    obtain ⟨d', hd', hreport⟩ := bind_ok hreport
    obtain rfl : d' = d := Except.ok.inj ((mapError_ok hd').symm.trans hread)
    cases hreport
    refine ⟨hread, raw, mapError_ok hraw, ?_⟩
    simpa [VerificationReport.allVerified, List.any_eq_false] using hall
  · rintro ⟨hread, raw, hraw, hchecks, hfidelity⟩
    refine ⟨hread, { verifyDossier lib d seals with
      checks := (verifyDossier lib d seals).checks ++ [inputFidelityCheck lib raw d] }, ?_, ?_⟩
    · simp only [verifyDossierJson, hraw, hread, Except.mapError, bind, Except.bind, pure,
        Except.pure]
    · simpa [VerificationReport.allVerified, List.any_eq_false] using ⟨hchecks, hfidelity⟩

theorem Verified.hashes (h : Verified lib reader seals bytes d) :
    computeContentHashes lib d = .ok d.manifest.contentHashes := by
  obtain ⟨-, raw, -, hchecks, -⟩ := verified_iff.mp h
  have hcontent : (contentIntegrity lib d).isFailure = false :=
    hchecks ⟨"content_integrity", contentIntegrity lib d⟩
      (List.mem_cons_of_mem _ List.mem_cons_self)
  unfold contentIntegrity at hcontent
  cases hhashes : computeContentHashes lib d with
  | error e => simp [hhashes, CheckStatus.isFailure] at hcontent
  | ok recomputed =>
    simp only [hhashes] at hcontent
    split_ifs at hcontent with heq
    · rw [heq]
    · cases hcontent

/-- Two verified documents with one manifest agree on everything the verdict rests on exactly when
they carry the same documents for the DIDs their signatures are checked against. -/
theorem same_manifest_agrees_iff_same_documents (lib : Libraries) (hfree : CollisionFree lib)
    (reader : Reader) (sealsA sealsB : Option SealInspector) (x y : List UInt8) (a b : DossierV1)
    (hx : Verified lib reader sealsA x a) (hy : Verified lib reader sealsB y b)
    (hmanifest : a.manifest = b.manifest) : Agree lib a b ↔ SameDocuments a b := by
  refine ⟨fun h => h.documents, fun hdocuments => ?_⟩
  have ha := computeContentHashes_bound hx.hashes
  have hb := computeContentHashes_bound hy.hashes
  rw [← hmanifest] at hb
  have hsame (name : String) (v w : Option Json) (hv : (name, v) ∈ hashedMembers lib a)
      (hw : (name, w) ∈ hashedMembers lib b) : SameMember v w :=
    (ha (name, v) hv).sameMember hfree (hb (name, w) hw)
  refine ⟨hsame "fullView" _ _ ?_ ?_, hsame "publicView" _ _ ?_ ?_, hsame "auditEntries" _ _ ?_ ?_,
    hsame "transferChain" _ _ ?_ ?_, hsame "eolEvent" _ _ ?_ ?_, hsame "componentGraph" _ _ ?_ ?_,
    hsame "qualifiedSeal" _ _ ?_ ?_, hdocuments⟩ <;> simp [hashedMembers]

end Binding

section Samples

open DossierAssembly (sampleKey sampleToken sampleNode_oneKey)

def firstPublished (doc : Json) : Option String :=
  (((doc.get "verificationMethod").bind Json.asArray).bind List.head?).bind fun method =>
    ((method.get "publicKeyJwk").bind (Json.get "x")).bind Json.asStr

def memberHash : Json → Except String String :=
  tableAt (.error "not part of the samples") [(fullViewPayload, .ok fullViewHash),
    (publicViewPayload, .ok publicViewHash), (.arr [], .ok auditEntriesHash)]

def memberLibraries : Libraries := { DossierAssembly.sampleLibraries canonicalBytes with
  resolveVerificationKey := fun doc _ => firstPublished doc
  contentHash := memberHash }

theorem memberHash_ok {v : Json} {hash : String} (h : memberHash v = .ok hash) :
    (v = fullViewPayload ∧ hash = fullViewHash) ∨ (v = publicViewPayload ∧ hash = publicViewHash) ∨
      (v = .arr [] ∧ hash = auditEntriesHash) := by
  simp only [memberHash, tableAt] at h
  split_ifs at h with hfull hpublic haudit
  · exact Or.inl ⟨hfull, (Except.ok.inj h).symm⟩
  · exact Or.inr (Or.inl ⟨hpublic, (Except.ok.inj h).symm⟩)
  · exact Or.inr (Or.inr ⟨haudit, (Except.ok.inj h).symm⟩)

theorem memberLibraries_collisionFree : CollisionFree memberLibraries := by
  have hfull : fullViewHash ≠ publicViewHash := by simp [fullViewHash, publicViewHash]
  have haudit : fullViewHash ≠ auditEntriesHash := by simp [fullViewHash, auditEntriesHash]
  have hpublic : publicViewHash ≠ auditEntriesHash := by simp [publicViewHash, auditEntriesHash]
  intro a b hash ha hb
  rcases memberHash_ok ha with ⟨rfl, rfl⟩ | ⟨rfl, rfl⟩ | ⟨rfl, rfl⟩ <;>
    rcases memberHash_ok hb with ⟨rfl, h⟩ | ⟨rfl, h⟩ | ⟨rfl, h⟩
  · rfl
  · exact absurd h hfull
  · exact absurd h haudit
  · exact absurd h.symm hfull
  · rfl
  · exact absurd h hpublic
  · exact absurd h.symm haudit
  · exact absurd h.symm hpublic
  · rfl

def memberManifest : DossierManifest where
  formatVersion := "1"
  passportId := "p1"
  issuerDid := "did:web:node.example"
  createdAt := daysFromCivil 2026 1 1 * nanosPerDay
  nodeVersion := "0.1.0"
  coreVersion := "0.1.0"
  rulesetVersion := none
  contentHashes := ((BTreeMap.empty.insert "fullView" fullViewHash).insert "publicView"
    publicViewHash).insert "auditEntries" auditEntriesHash

def dossierWith (doc : Json) : DossierV1 where
  manifest := memberManifest
  manifestJws := sampleToken canonicalBytes memberManifest.toJson
  fullView := ⟨fullViewPayload, sampleToken canonicalBytes fullViewPayload⟩
  publicView := ⟨publicViewPayload, sampleToken canonicalBytes publicViewPayload⟩
  didDocuments := BTreeMap.empty.insert "did:web:node.example" doc
  auditEntries := []
  transferChain := none
  eolEvent := none
  checkpoint := none
  calcReceipts := []
  componentGraph := none
  qualifiedSeal := none

def earlierDocument : Json :=
  .obj [("id", .str "did:web:node.example"),
    ("verificationMethod", .arr [sampleMethod "did:web:node.example#key-1" sampleKey]),
    ("assertionMethod", .arr [.str "did:web:node.example#key-1"])]

def laterDocument : Json :=
  .obj [("id", .str "did:web:node.example"),
    ("verificationMethod", .arr [sampleMethod "did:web:node.example#key-1" sampleKey,
      sampleMethod "did:web:node.example#key-2" secondKey]),
    ("assertionMethod", .arr [.str "did:web:node.example#key-1",
      .str "did:web:node.example#key-2"])]

def reorderedDocument : Json :=
  .obj [("assertionMethod", .arr [.str "did:web:node.example#key-1",
      .str "did:web:node.example#key-2"]),
    ("verificationMethod", .arr [sampleMethod "did:web:node.example#key-1" sampleKey,
      sampleMethod "did:web:node.example#key-2" secondKey]),
    ("id", .str "did:web:node.example")]

def bytesWith (doc : Json) : List UInt8 := textBytes (dossierJson memberLibraries (dossierWith doc))

def readText (bytes : List UInt8) : Except String DossierV1 :=
  tableAt (.error "expected value at line 1 column 1")
    [(bytesWith laterDocument, .ok (dossierWith laterDocument)),
      (bytesWith earlierDocument, .ok (dossierWith earlierDocument)),
      (bytesWith reorderedDocument, .ok (dossierWith reorderedDocument))]
    (bytes.dropWhile (· = 32))

def sampleReader : Reader where
  json bytes := (readText bytes).map (dossierJson memberLibraries)
  dossier := readText

theorem dossierWith_issuerKey {doc : Json} (h : firstPublished doc = some sampleKey) :
    issuerKey memberLibraries (dossierWith doc) = some sampleKey := by
  have hget : (dossierWith doc).didDocuments.get "did:web:node.example" = some doc := by
    simp [dossierWith, BTreeMap.get_insert]
  have hissuer : (dossierWith doc).manifest.issuerDid = "did:web:node.example" := rfl
  rw [issuerKey, hissuer, hget, Option.bind_some]
  exact h

theorem dossierWith_hashes (doc : Json) : computeContentHashes memberLibraries (dossierWith doc) =
    .ok memberManifest.contentHashes := by
  have hfull : memberHash fullViewPayload = .ok fullViewHash := tableAt_head
  have hpublic : memberHash publicViewPayload = .ok publicViewHash :=
    (tableAt_tail publicView_ne_fullView).trans tableAt_head
  have haudit : memberHash (.arr []) = .ok auditEntriesHash := by
    have hne : Json.arr [] ≠ fullViewPayload := by simp [fullViewPayload]
    have hne' : Json.arr [] ≠ publicViewPayload := by simp [publicViewPayload]
    exact (tableAt_tail hne).trans ((tableAt_tail hne').trans tableAt_head)
  simp only [computeContentHashes, insertHash, dossierWith, memberLibraries, hfull, hpublic, haudit,
    List.map_nil, Option.map_none, bind, Except.bind, pure, Except.pure, memberManifest]

theorem sampleToken_verifies (v : Json) :
    verifyJwsContent memberLibraries (sampleToken canonicalBytes v) sampleKey v = .ok true := by
  have htoken := (sampleNode_oneKey canonicalBytes).token v _ rfl
  exact htoken.verifies_iff.mpr rfl

theorem fidelity_self (d : DossierV1) :
    fidelity memberLibraries (dossierJson memberLibraries d) d = .ok .pass := by
  have hcanonical (v : Json) : memberLibraries.canonicalize v = .ok (canonicalBytes v) := rfl
  simp [fidelity, hcanonical, Except.mapError, bind, Except.bind, pure, Except.pure]

/-- A dossier of two signed views and nothing else passes every check. -/
theorem views_alone_pass {lib : Libraries} {d : DossierV1} {key : String}
    (hkey : issuerKey lib d = some key)
    (hmanifest : verifyJwsContent lib d.manifestJws key d.manifest.toJson = .ok true)
    (hfull : verifyJwsContent lib d.fullView.jws key d.fullView.payload = .ok true)
    (hpublic : verifyJwsContent lib d.publicView.jws key d.publicView.payload = .ok true)
    (hhashes : computeContentHashes lib d = .ok d.manifest.contentHashes)
    (hrest : d.auditEntries = [] ∧ d.transferChain = none ∧ d.checkpoint = none ∧
      d.calcReceipts = [] ∧ d.componentGraph = none ∧ d.qualifiedSeal = none) :
    ∀ c ∈ (verifyDossier lib d none).checks, c.status.isFailure = false := by
  obtain ⟨haudit, hchain, hcheckpoint, hreceipts, hgraph, hseal⟩ := hrest
  have hauditChain : auditChainStatus lib d = .pass := by
    simp [auditChainStatus, haudit, verifyAuditChain, verifyFrom]
  have hsigned (jws : String) (v : Json) (h : verifyJwsContent lib jws key v = .ok true)
      (mismatch malformed : String) : signatureStatus lib (issuerKey lib d) d.manifest.issuerDid jws
        v mismatch malformed = .pass := by
    rw [hkey, signatureStatus, h]
  have hcontent : contentIntegrity lib d = .pass := by
    rw [contentIntegrity, hhashes]
    exact if_pos rfl
  have htransfer : (transferChainStatus lib d).isFailure = false := by
    rw [transferChainStatus, hchain]
    rfl
  have hpinned : (checkpointStatus d).isFailure = false := by
    rw [checkpointStatus, hcheckpoint]
    rfl
  have hcalc : (calcReceiptsStatus d).isFailure = false := by
    rw [calcReceiptsStatus, hreceipts]
    rfl
  have hsealed : (qualifiedSealStatus lib d none).isFailure = false := by
    simp [qualifiedSealStatus, hseal, CheckStatus.isFailure]
  have hnoGraph : (match d.componentGraph with
      | none => CheckStatus.absent "no component graph on this passport"
      | some report => componentGraphStatus lib report).isFailure = false := by
    rw [hgraph]
    rfl
  refine List.forall_mem_cons.mpr ⟨?_, List.forall_mem_cons.mpr ⟨?_, List.forall_mem_cons.mpr ⟨?_,
    List.forall_mem_cons.mpr ⟨?_, List.forall_mem_cons.mpr ⟨?_, List.forall_mem_cons.mpr ⟨htransfer,
    List.forall_mem_cons.mpr ⟨hpinned, List.forall_mem_cons.mpr ⟨hcalc,
    List.forall_mem_cons.mpr ⟨hnoGraph, List.forall_mem_singleton.mpr hsealed⟩⟩⟩⟩⟩⟩⟩⟩⟩
  · rw [hsigned _ _ hmanifest]
    rfl
  · rw [hcontent]
    rfl
  · rw [layerCheck, hsigned _ _ hfull]
    rfl
  · rw [layerCheck, hsigned _ _ hpublic]
    rfl
  · rw [hauditChain]
    rfl

theorem dossierWith_verified {doc : Json} {bytes : List UInt8}
    (h : firstPublished doc = some sampleKey)
    (hread : readText bytes = .ok (dossierWith doc)) :
    Verified memberLibraries sampleReader none bytes (dossierWith doc) := by
  have hjson : sampleReader.json bytes = .ok (dossierJson memberLibraries (dossierWith doc)) := by
    simp [sampleReader, hread, Except.map]
  have hfidelity :
    inputFidelityCheck memberLibraries (dossierJson memberLibraries (dossierWith doc))
      (dossierWith doc) = ⟨"input_fidelity", .pass⟩ := by
    rw [inputFidelityCheck, fidelity_self]
  refine verified_iff.mpr ⟨hread, _, hjson, ?_, by rw [hfidelity]; rfl⟩
  exact views_alone_pass (dossierWith_issuerKey h) (sampleToken_verifies memberManifest.toJson)
    (sampleToken_verifies fullViewPayload) (sampleToken_verifies publicViewPayload)
    (dossierWith_hashes doc) ⟨rfl, rfl, rfl, rfl, rfl, rfl⟩

theorem dropWhile_bytesWith (doc : Json) : (bytesWith doc).dropWhile (· = 32) = bytesWith doc := by
  have hbrace : ¬UInt8.ofNat '\x7b'.toNat = 32 := by decide
  have hfirst : bytesWith doc = UInt8.ofNat '\x7b'.toNat :: (bytesWith doc).tail := rfl
  rw [hfirst, List.dropWhile_cons_of_neg (by simp)]

theorem textMembers_append (ms ns : List (String × Json)) :
    textMembers (ms ++ ns) = textMembers ms ++ textMembers ns := by
  induction ms with
  | nil => rfl
  | cons m ms ih => simp [textMembers, ih]

theorem dossierJson_dossierWith (doc : Json) : dossierJson memberLibraries (dossierWith doc) =
    .obj ([("manifest", memberManifest.toJson),
      ("manifestJws", .str (sampleToken canonicalBytes memberManifest.toJson)),
      ("fullView", layerJson (dossierWith .null).fullView),
      ("publicView", layerJson (dossierWith .null).publicView)] ++
      ("didDocuments", .obj [("did:web:node.example", doc)]) :: [("auditEntries", .arr [])]) := by
  have hentries : (dossierWith doc).didDocuments.entries = [("did:web:node.example", doc)] := rfl
  rw [dossierJson, hentries]
  rfl

/-- The texts differ in the issuer's document alone. -/
theorem text_dossierWith : ∃ before after : List Char, ∀ doc,
    text (dossierJson memberLibraries (dossierWith doc)) = before ++ text doc ++ after := by
  obtain ⟨m, ms, ns, hmembers⟩ : ∃ m ms ns, ∀ doc,
      dossierJson memberLibraries (dossierWith doc) =
        .obj ((m :: ms) ++ ("didDocuments", .obj [("did:web:node.example", doc)]) :: ns) :=
    ⟨_, _, _, dossierJson_dossierWith⟩
  refine ⟨'\x7b' :: (textMembers (m :: ms)).tail ++ ',' :: '"' :: "didDocuments".toList ++
    '"' :: ':' :: '\x7b' :: '"' :: "did:web:node.example".toList ++ ['"', ':'],
    '\x7d' :: textMembers ns ++ ['\x7d'], fun doc => ?_⟩
  rw [hmembers, text, textMembers_append]
  simp [textMembers, text]

theorem bytesWith_ne {doc doc' : Json} (h : textBytes doc ≠ textBytes doc') :
    bytesWith doc ≠ bytesWith doc' := by
  obtain ⟨before, after, htext⟩ := text_dossierWith
  intro hbytes
  unfold bytesWith textBytes at hbytes
  rw [htext, htext, List.map_append, List.map_append, List.map_append, List.map_append] at hbytes
  exact h (List.append_cancel_left (List.append_cancel_right hbytes))

theorem read_laterDocument : readText (bytesWith laterDocument) =
    .ok (dossierWith laterDocument) := by
  rw [readText, dropWhile_bytesWith]
  exact tableAt_head

theorem read_earlierDocument : readText (bytesWith earlierDocument) =
    .ok (dossierWith earlierDocument) := by
  rw [readText, dropWhile_bytesWith]
  exact (tableAt_tail (bytesWith_ne (by decide +kernel))).trans tableAt_head

theorem read_reorderedDocument : readText (bytesWith reorderedDocument) =
    .ok (dossierWith reorderedDocument) := by
  rw [readText, dropWhile_bytesWith]
  exact (tableAt_tail (bytesWith_ne (by decide +kernel))).trans
    ((tableAt_tail (bytesWith_ne (by decide +kernel))).trans tableAt_head)

theorem all_publish_sampleKey : firstPublished laterDocument = some sampleKey ∧
    firstPublished earlierDocument = some sampleKey ∧
    firstPublished reorderedDocument = some sampleKey := by
  decide +kernel

/-- One dossier has a blank before its text, and its issuer's document in another order. -/
theorem reordered_document_agrees : laterDocument ≠ reorderedDocument ∧
    Agree memberLibraries (dossierWith laterDocument) (dossierWith reorderedDocument) := by
  have hblank : readText (32 :: bytesWith reorderedDocument) =
      .ok (dossierWith reorderedDocument) := by
    rw [← read_reorderedDocument, readText, readText, List.dropWhile_cons_of_pos (by simp)]
  refine ⟨by decide +kernel, ?_⟩
  refine (same_manifest_agrees_iff_same_documents memberLibraries memberLibraries_collisionFree
    sampleReader none none (bytesWith laterDocument) (32 :: bytesWith reorderedDocument)
    (dossierWith laterDocument) (dossierWith reorderedDocument)
    (dossierWith_verified all_publish_sampleKey.1 read_laterDocument)
    (dossierWith_verified all_publish_sampleKey.2.2 hblank) rfl).mpr ?_
  intro did hdid
  have hissuer : did = "did:web:node.example" := by
    simpa [checkedDids, dossierWith, memberManifest] using hdid
  subst hissuer
  have hsame : SameMember (some laterDocument) (some reorderedDocument) := by decide +kernel
  exact hsame

/-- One manifest, two documents for its issuer: both dossiers verify. -/
theorem replaced_document_is_still_verified :
    ¬∀ (lib : Libraries) (reader : Reader) (sealsA sealsB : Option SealInspector)
      (x y : List UInt8) (a b : DossierV1), CollisionFree lib → Verified lib reader sealsA x a →
        Verified lib reader sealsB y b → a.manifest = b.manifest → Agree lib a b := by
  intro h
  have hagree := h memberLibraries sampleReader none none (bytesWith earlierDocument)
    (bytesWith laterDocument) (dossierWith earlierDocument) (dossierWith laterDocument)
    memberLibraries_collisionFree
    (dossierWith_verified all_publish_sampleKey.2.1 read_earlierDocument)
    (dossierWith_verified all_publish_sampleKey.1 read_laterDocument) rfl
  have hsame : SameMember (some earlierDocument) (some laterDocument) :=
    hagree.documents "did:web:node.example" List.mem_cons_self
  have hdiffer : ¬SameMember (some earlierDocument) (some laterDocument) := by
    decide +kernel
  exact hdiffer hsame

end Samples

end DossierBinding
