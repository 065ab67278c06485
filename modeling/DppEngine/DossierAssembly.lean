import DppEngine.CompactTokens
import DppEngine.DossierVerification
import DppEngine.JsonTexts
import DppEngine.StableSorts

/-! How the node assembles an evidence dossier: the passport row, the audit trail and the transfer
chain are three reads, and every other request on the passport may commit between them.

The signatures of a dossier are those of the row, the payloads those of the newest "published"
entry of the trail. `Node` holds what the assembly asks outside this repository; what it is told by
other hosts is part of its event. -/
namespace DossierAssembly

open JsonValues JsonTexts PassportModel StateChangeLog OrderedMaps SignedTokens TransitionSystems
open FallibleSteps
open AuditTrail hiding samplePassport
open DossierVerification hiding sampleLibraries sampleSignatures
open PassportRequests hiding State Event next initial Invariant next_cases initial_invariant
  step_preserves_invariant

section Assembly

structure Node where
  lib : Libraries
  sign : Json → Except DppError String
  ownDidDocument : Json
  digestForJws : String → String
  /-- What the seal reader finds of a seal and the digest it should cover, at a time. -/
  sealFindings : Json → String → Int → Doc
  nodeVersion : String
  coreVersion : String

structure Answers where
  now : Int
  /-- The counterparties' documents that could be fetched. -/
  fetched : Doc
  /-- The report of the walk over the component tree. -/
  tree : Json
  deriving DecidableEq, Repr

def publishedViews (audit : List PassportAuditEntry) : Option (Json × Json) := do
  let entry ← audit.reverse.find? fun e => e.action = "published"
  let metadata ← entry.metadata
  let full ← metadata.get "fullViewPayload"
  let view ← metadata.get "publicViewPayload"
  return (full, view)

def declaredEol (audit : List PassportAuditEntry) : Option Json :=
  (audit.reverse.find? fun e => e.action = "deactivated").bind (·.metadata)

def counterparties (chain : Option TransferChain) : List String :=
  match chain with
  | none => []
  | some c => c.transfers.flatMap fun r => [r.fromOperator.did, r.toOperator.did]

/-- A document that is there is not fetched again; one that cannot be fetched is left out. -/
def addDocument (fetched : Doc) (documents : BTreeMap String Json) (did : String) :
    BTreeMap String Json :=
  if (documents.get did).isSome then documents
  else match fetched.get did with
    | none => documents
    | some doc => documents.insert did doc

def componentGraph (p : Passport) (tree : Json) : Option Json :=
  match p.content.get "componentRefs" with
  | none => none
  | some (.arr []) => none
  | some _ => some tree

def rulesetVersion (p : Passport) : Option String :=
  ((p.content.get "complianceResult").bind (Json.get "rulesetVersion")).bind Json.asStr

variable (node : Node)

def qualifiedSealMember (now : Int) (p : Passport) : Option Json := do
  let envelope ← p.qualifiedSeal
  let jws ← p.jwsSignature
  let payloadHash := node.digestForJws jws
  return .obj ([("seal", envelope), ("signedOverJws", .str jws),
    ("payloadHash", .str payloadHash)] ++ node.sealFindings envelope payloadHash now)

def debugName : PassportStatus → String
  | .draft => "Draft"
  | .published => "Published"
  | .suspended => "Suspended"
  | .retired => "Retired"
  | .superseded => "Superseded"
  | .deactivated => "Deactivated"

def orRefuse {α : Type} (answer : Option α) (message : String) : Except DppError α :=
  match answer with
  | some a => .ok a
  | none => .error (.internal message)

def assembleDossier (p : Passport) (audit : List PassportAuditEntry) (chain : Option TransferChain)
    (answers : Answers) : Except DppError DossierV1 := do
  let id := PassportId.text p.id
  let (full, view) ← orRefuse (publishedViews audit) ("passport " ++ id ++ " is " ++
    debugName p.status ++ " but has no \"published\" audit entry with a signed-payload snapshot")
  let jws ← orRefuse p.jwsSignature
    ("passport " ++ id ++ " has no jws_signature despite non-draft status")
  let publicJws ← orRefuse p.publicJwsSignature
    ("passport " ++ id ++ " has no public_jws_signature despite non-draft status")
  let issuerDid ← orRefuse ((node.ownDidDocument.get "id").bind Json.asStr)
    "identity service's DID document has no \"id\""
  let dossier : DossierV1 := {
    manifest := {
      formatVersion := "1"
      passportId := id
      issuerDid
      createdAt := answers.now
      nodeVersion := node.nodeVersion
      coreVersion := node.coreVersion
      rulesetVersion := rulesetVersion p
      contentHashes := .empty }
    manifestJws := ""
    fullView := ⟨full, jws⟩
    publicView := ⟨view, publicJws⟩
    didDocuments := (counterparties chain).foldl (addDocument answers.fetched)
      (BTreeMap.empty.insert issuerDid node.ownDidDocument)
    auditEntries := audit
    transferChain := chain
    eolEvent := declaredEol audit
    checkpoint := none
    calcReceipts := []
    componentGraph := componentGraph p answers.tree
    qualifiedSeal := qualifiedSealMember node answers.now p }
  let contentHashes ← (computeContentHashes node.lib dossier).mapError .serialisation
  let dossier := { dossier with manifest := { dossier.manifest with contentHashes } }
  let manifestJws ← node.sign dossier.manifest.toJson
  return { dossier with manifestJws }

end Assembly

section Runs

structure Assembly where
  passport : Passport
  audit : Option (List PassportAuditEntry)
  chain : Option (Option TransferChain)
  deriving DecidableEq, Repr

structure State where
  requests : PassportRequests.State
  chain : Option TransferChain
  assemblies : List Assembly
  dossiers : List DossierV1
  deriving DecidableEq, Repr

inductive Event where
  | request (e : PassportRequests.Event)
  /-- A step of a transfer: the chain and its audit entry commit together. -/
  | transfer (caller : Caller) (chain : TransferChain) (metadata : Json)
  | readPassport
  | readAudit (i : ℕ)
  | readChain (i : ℕ)
  | finish (i : ℕ) (answers : Answers)
  deriving Repr

variable (sv : Services) (node : Node)

def signedByNode (s : PassportRequests.State) : PassportRequests.Event → Bool
  | .read _ (.publish answers) =>
    match s.store.row with
    | none => true
    | some row =>
      match readDoc sv.readContent row with
      | .error _ => true
      | .ok p =>
        match publish sv s.now p answers with
        | .error _ => true
        | .ok (_, payload, view) =>
          answers.jws.toOption = (node.sign (.obj payload)).toOption &&
            answers.publicJws.toOption = (node.sign (.obj view)).toOption
  | _ => true

def transferEntry (now : Int) (caller : Caller) (id : PassportId) (metadata : Json) :
    PassportAuditEntry :=
  (PassportAuditEntry.new caller.entryId now (PassportId.text id) "transferred" caller.userId none
    none).withMetadata metadata

def next (s : State) : Event → Option State
  | .request e =>
    if signedByNode sv node s.requests e then
      (PassportRequests.next sv s.requests e).map fun requests => { s with requests }
    else none
  | .transfer caller chain metadata =>
    match s.requests.store.row with
    | none => none
    | some row => some { s with
        requests := { s.requests with store := { s.requests.store with
          trail := appendInTx sv.contentHash s.requests.store.trail
            (transferEntry s.requests.now caller row.id metadata) } }
        chain := some chain }
  | .readPassport =>
    match s.requests.store.row with
    | none => none
    | some row =>
      match readDoc sv.readContent row with
      | .error _ => some s
      | .ok p =>
        if p.status = .draft then some s
        else some { s with assemblies := s.assemblies ++ [⟨p, none, none⟩] }
  | .readAudit i =>
    match s.assemblies[i]? with
    | some ⟨p, none, none⟩ =>
      let audit := listByPassport s.requests.store.trail (PassportId.text p.id)
      some { s with assemblies := s.assemblies.set i ⟨p, some audit, none⟩ }
    | _ => none
  | .readChain i =>
    match s.assemblies[i]? with
    | some ⟨p, some audit, none⟩ => some { s with
        assemblies := s.assemblies.set i ⟨p, some audit, some s.chain⟩ }
    | _ => none
  | .finish i answers =>
    match s.assemblies[i]? with
    | some ⟨p, some audit, some chain⟩ => some { s with
        assemblies := s.assemblies.eraseIdx i
        dossiers := s.dossiers ++ (assembleDossier node p audit chain answers).toOption.toList }
    | _ => none

def initial (d : Draft) (now : Int) : State := ⟨PassportRequests.initial d now, none, [], []⟩

def Intact (d : DossierV1) : Prop :=
  ∀ seals, (verifyDossier node.lib d seals).statusOf "full_view_signature" = some .pass ∧
    (verifyDossier node.lib d seals).statusOf "public_view_signature" = some .pass ∧
    (verifyDossier node.lib d seals).statusOf "content_integrity" = some .pass

/-- The node signs with one key, the one its document publishes under the `kid` of its tokens. -/
structure OneKey (sig : Signatures node.lib) (key : String) : Prop where
  token : ∀ v jws, node.sign v = .ok jws →
    HonestToken node.lib sig node.ownDidDocument jws v
  resolves : ∀ v jws, node.sign v = .ok jws →
    resolvePublicKey node.lib jws node.ownDidDocument = some key

/-- A publish commits when no assembly has read the passport and not yet the trail, and its entry
sorts after those of the publishes before it. -/
def CommitsApart (s : State) : Event → Prop
  | .request (.commit i began) => ∀ r ∈ s.requests.inFlight[i]?,
      (SealOutbox.published sv s.requests (.commit i began)).isSome →
        (∀ a ∈ s.assemblies, a.audit.isSome) ∧
        ∀ e ∈ s.requests.store.trail, e.action = "published" →
          e.key < r.change.audit.normalised.key
  | _ => True

end Runs

section TrailFacts

variable {hash : ChainContent → String} {trail : List PassportAuditEntry} {e : PassportAuditEntry}
  {id : String}

def isPublished (e : PassportAuditEntry) : Bool := e.action = "published"

theorem publishedViews_congr {a b : List PassportAuditEntry}
    (h : (a.filter isPublished).getLast? = (b.filter isPublished).getLast?) :
    publishedViews a = publishedViews b := by
  have hfind : ∀ l : List PassportAuditEntry,
      l.reverse.find? (fun e => e.action = "published") = (l.filter isPublished).getLast? := by
    intro l
    rw [← List.head?_filter, List.filter_reverse, List.head?_reverse]
    rfl
  simp only [publishedViews, hfind, h]

theorem published_listByPassport (trail : List PassportAuditEntry) (id : String) :
    (listByPassport trail id).filter isPublished =
      ((rowsOf trail id).filter isPublished).insertionSort OlderEq :=
  StableSorts.filter_insertionSort _

/-- What any other entry adds to the trail leaves the views of the last publish. -/
theorem publishedViews_other (h : e.action ≠ "published") :
    publishedViews (listByPassport (appendInTx hash trail e) id) =
      publishedViews (listByPassport trail id) := by
  let added := chained hash (rowsOf trail e.passportId) e
  have hother : isPublished added = false := decide_eq_false h
  have hrows : (rowsOf (appendInTx hash trail e) id).filter isPublished =
      (rowsOf trail id).filter isPublished := by
    unfold rowsOf appendInTx
    rw [List.filter_append, List.filter_append, List.append_right_eq_self, List.filter_eq_nil_iff]
    intro f hf
    rw [List.mem_singleton.mp (List.mem_of_mem_filter hf)]
    simpa using hother
  apply publishedViews_congr
  rw [published_listByPassport, published_listByPassport, hrows]

/-- A publish that sorts after the ones before it is the one whose views are served. -/
theorem publishedViews_newest {full view : Json} (haction : e.action = "published")
    (hid : e.passportId = id)
    (hmeta : e.metadata = some (.obj [("fullViewPayload", full), ("publicViewPayload", view)]))
    (hnewest : ∀ f ∈ trail, f.action = "published" → f.key < e.normalised.key) :
    publishedViews (listByPassport (appendInTx hash trail e) id) = some (full, view) := by
  let added := chained hash (rowsOf trail e.passportId) e
  have hkey : added.key = e.normalised.key := rfl
  have hlast : ((listByPassport (appendInTx hash trail e) id).filter isPublished).getLast? =
      some added := by
    rw [published_listByPassport]
    apply StableSorts.getLast?_insertionSort
    · simp [rowsOf, appendInTx, added, chained, PassportAuditEntry.normalised, hid, isPublished,
        haction]
    · intro f hf hne
      obtain ⟨hf, hpublished⟩ := List.mem_filter.mp hf
      have hmem : f ∈ trail := by
        rcases List.mem_append.mp (List.mem_filter.mp hf).1 with hmem | hmem
        · exact hmem
        · exact absurd (List.mem_singleton.mp hmem) hne
      have hlt := hnewest f hmem (by simpa [isPublished] using hpublished)
      rw [OlderEq, hkey]
      exact not_le.mpr hlt
  have hone : publishedViews (listByPassport (appendInTx hash trail e) id) =
      publishedViews [added] := by
    apply publishedViews_congr
    rw [hlast]
    simp [isPublished, added, chained, PassportAuditEntry.normalised, haction]
  rw [hone]
  simp [publishedViews, added, chained, PassportAuditEntry.normalised, haction, hmeta, Json.get]

end TrailFacts

section SignatureFacts

variable {sv : Services} {row row' : Row} {p : Passport} {now began : Int}

def publicJwsOf (doc : Doc) : Option String := (doc.get "publicJwsSignature").bind Json.asStr

theorem fromStored_publicJws {readContent : Doc → Except DppError Doc} {id : PassportId} {doc : Doc}
    (h : fromStored readContent id doc = .ok p) : publicJwsOf doc = p.publicJwsSignature :=
  optionalField_ok rfl (fromStored_readFrom h).publicJwsSignature

theorem toDoc_get_publicJws : p.toDoc.get "publicJwsSignature" = p.publicJwsSignature.map .str := by
  have hcontent := content_get_typed (p := p) (show "publicJwsSignature" ∉ contentKeys by decide)
  simp [Passport.toDoc, Passport.typedMembers, hcontent]

theorem updateInTx_publicJws (h : updateInTx sv.readContent (some row) p began = .ok row') :
    publicJwsOf row'.doc = p.publicJwsSignature.or (publicJwsOf row.doc) := by
  obtain ⟨written, hw, -, rfl⟩ := updateInTx_ok h
  have hmerged := merged_field Json.asStr .str "publicJwsSignature" Passport.publicJwsSignature
    (fun _ => rfl) (fun _ => toDoc_get_publicJws) (fun q hq => fromStored_publicJws hq) hw
  rw [publicJwsOf, hmerged]
  by_cases hl : row.retentionLocked <;> simp [effective, hl, publicJwsOf]

theorem writePassport_signatures {r : Request} (hc : row.Coherent) (hr : WellFormed sv now r)
    (h : writePassport sv.readContent sv.isProtectedPatchField (some row) now began
      r.change.passport = .ok row') :
    row'.id = row.id ∧
      jwsOf row'.doc = (r.replacement.bind (·.jwsSignature)).or (jwsOf row.doc) ∧
      publicJwsOf row'.doc = (r.replacement.bind (·.publicJwsSignature)).or
        (publicJwsOf row.doc) := by
  unfold WellFormed at hr
  cases hwrite : r.change.passport with
  | insert q => simp [hwrite] at hr
  | replace q =>
    rw [hwrite] at h
    have hup := updateInTx_updated hc h
    have hreplacement : r.replacement = some q := by simp [Request.replacement, hwrite]
    rw [hreplacement]
    exact ⟨hup.id, hup.jws, updateInTx_publicJws h⟩
  | status id target =>
    rw [hwrite] at h
    obtain ⟨q, hq, h⟩ := bind_ok h
    split_ifs at h with hallowed
    have hup := updateInTx_updated hc h
    have hreplacement : r.replacement = none := by simp [Request.replacement, hwrite]
    rw [hreplacement]
    refine ⟨hup.id, hup.jws.trans ?_, (updateInTx_publicJws h).trans ?_⟩
    · rw [jwsOf, (fromStored_ok hq).jws]
      exact Option.or_self
    · rw [fromStored_publicJws hq]
      exact Option.or_self
  | patch id delta =>
    rw [hwrite] at h hr
    obtain ⟨heq, hkeys⟩ := patchInTx_ok id hr h
    have hreplacement : r.replacement = none := by simp [Request.replacement, hwrite]
    rw [hreplacement, jwsOf, jwsOf, publicJwsOf, publicJwsOf, hkeys "jwsSignature" (by decide),
      hkeys "publicJwsSignature" (by decide)]
    exact ⟨by rw [heq], rfl, rfl⟩

end SignatureFacts

section DossierFacts

variable {node : Node} {sig : Signatures node.lib} {key : String} {p : Passport}
  {audit : List PassportAuditEntry} {chain : Option TransferChain} {answers : Answers}
  {d : DossierV1}

def Paired (node : Node) (jws publicJws : Option String) (audit : List PassportAuditEntry) : Prop :=
  ∀ full view, publishedViews audit = some (full, view) →
    (∀ t ∈ jws, node.sign full = .ok t) ∧ ∀ t ∈ publicJws, node.sign view = .ok t

theorem orRefuse_ok {α : Type} {answer : Option α} {message : String} {a : α}
    (h : orRefuse answer message = .ok a) : answer = some a := by
  unfold orRefuse at h
  split at h
  next b => cases h; rfl
  next => cases h

/-- Documents of counterparties never take the place of one that is there. -/
theorem addDocument_get {fetched : Doc} {documents : BTreeMap String Json} {did : String}
    {doc : Json} (h : documents.get did = some doc) (other : String) :
    (addDocument fetched documents other).get did = some doc := by
  unfold addDocument
  split_ifs with hthere
  · exact h
  · split
    next => exact h
    next doc' hdoc' =>
      by_cases heq : other = did
      · subst heq
        simp [h] at hthere
      · rw [BTreeMap.get_insert, if_neg heq]
        exact h

theorem content_statusOf {lib : Libraries} {seals : Option SealInspector} :
    (verifyDossier lib d seals).statusOf "content_integrity" = some (contentIntegrity lib d) := by
  have hmanifest : "manifest_signature" ≠ "content_integrity" := by simp
  exact (statusOf_tail hmanifest).trans (statusOf_head rfl)

/-- The members do not depend on the manifest that binds them. -/
theorem contentIntegrity_of_hashes {lib : Libraries} {hashes : BTreeMap String String}
    {manifest : DossierManifest} {manifestJws : String}
    (h : computeContentHashes lib d = .ok hashes) (hmanifest : manifest.contentHashes = hashes) :
    contentIntegrity lib { d with manifest, manifestJws } = .pass := by
  have hsame : computeContentHashes lib { d with manifest, manifestJws } = .ok hashes := h
  simp [contentIntegrity, hsame, hmanifest]

/-- A dossier whose signatures are those of its views passes every check on them. -/
theorem assembled_intact (hone : OneKey node sig key)
    (hpaired : Paired node p.jwsSignature p.publicJwsSignature audit)
    (h : assembleDossier node p audit chain answers = .ok d) : Intact node d := by
  obtain ⟨⟨full, view⟩, hviews, h⟩ := bind_ok h
  obtain ⟨jws, hjws, h⟩ := bind_ok h
  obtain ⟨publicJws, hpublic, h⟩ := bind_ok h
  obtain ⟨issuerDid, -, h⟩ := bind_ok h
  obtain ⟨hashes, hhashes, h⟩ := bind_ok h
  obtain ⟨manifestJws, hmanifest, h⟩ := bind_ok h
  cases h
  obtain ⟨hfull, hview⟩ := hpaired full view (orRefuse_ok hviews)
  have hfull := hfull jws (orRefuse_ok hjws)
  have hview := hview publicJws (orRefuse_ok hpublic)
  have hdocument : ((counterparties chain).foldl (addDocument answers.fetched)
      (BTreeMap.empty.insert issuerDid node.ownDidDocument)).get issuerDid =
        some node.ownDidDocument := by
    have hown : (BTreeMap.empty.insert issuerDid node.ownDidDocument).get issuerDid =
        some node.ownDidDocument := by rw [BTreeMap.get_insert, if_pos rfl]
    exact List.foldlRecOn (motive := fun documents : BTreeMap String Json =>
      documents.get issuerDid = some node.ownDidDocument) _ _ hown
      fun documents h did _ => addDocument_get h did
  intro seals
  rw [fullView_statusOf, publicView_statusOf, content_statusOf]
  have hkey := hone.resolves _ _ hmanifest
  simp only [issuerKey, hdocument, Option.bind_some, hkey, layerCheck, Option.some.injEq]
  refine ⟨?_, ?_, ?_⟩
  · exact (signatureStatus_iff _ _ _ (hone.token _ _ hfull)).mpr (hone.resolves _ _ hfull)
  · exact (signatureStatus_iff _ _ _ (hone.token _ _ hview)).mpr (hone.resolves _ _ hview)
  · exact contentIntegrity_of_hashes (mapError_ok hhashes) rfl

end DossierFacts

section StepFacts

variable {sv : Services} {node : Node} {sig : Signatures node.lib} {key group : String}
  {id : PassportId} {s u : State} {e : Event} {row : Row}

structure WellSigned (node : Node) (id : PassportId) (r : Request) : Prop where
  passport : r.change.audit.passportId = PassportId.text id
  other : r.replacement = none → r.change.audit.action ≠ "published"
  published : ∀ q ∈ r.replacement, r.change.audit.action = "published" ∧
    ∃ full view jws publicJws,
      r.change.audit.metadata =
        some (.obj [("fullViewPayload", full), ("publicViewPayload", view)]) ∧
      q.jwsSignature = some jws ∧ node.sign full = .ok jws ∧
      q.publicJwsSignature = some publicJws ∧ node.sign view = .ok publicJws

theorem prepare_wellSigned {s : PassportRequests.State} {caller : Caller} {op : Operation}
    {p : Passport} {change : StateChange}
    (hsigned : signedByNode sv node s (.read caller op) = true)
    (hrow : s.store.row = some row) (hread : readDoc sv.readContent row = .ok p)
    (h : prepare sv s.now caller p op = .ok change) : WellSigned node row.id ⟨p, change⟩ := by
  obtain ⟨hpassport, hentry⟩ := prepare_entry h
  have hid : p.id = row.id := (fromStored_readFrom hread).id
  refine ⟨hid ▸ hpassport, ?_, ?_⟩
  · intro hnone
    rcases hentry with ⟨answers, q, payload, view, -, -, hreplace, -⟩ | ⟨hother, -⟩
    · simp [Request.replacement, hreplace] at hnone
    · exact hother
  · intro q hq
    rcases hentry with ⟨answers, q', payload, view, rfl, hpub, hreplace, haction, hmeta⟩ |
      ⟨-, hnone⟩
    · cases hreplace.symm.trans (replacement_eq hq)
      obtain ⟨jws, publicJws, hjws, hpublic, hq, hqpublic⟩ := publish_signatures hpub
      simp only [signedByNode, hrow, hread, hpub, hjws, hpublic, Bool.and_eq_true,
        decide_eq_true_eq] at hsigned
      exact ⟨haction, _, _, jws, publicJws, hmeta, hq, toOption_eq_some.mp hsigned.1.symm, hqpublic,
        toOption_eq_some.mp hsigned.2.symm⟩
    · exact absurd (replacement_eq hq) (hnone q)

theorem request_step {s u : PassportRequests.State} {e : PassportRequests.Event}
    (hi : PassportRequests.Invariant sv group s) (h : PassportRequests.next sv s e = some u)
    (hrow : s.store.row = some row) :
    ∃ row', u.store.row = some row' ∧ row'.id = row.id ∧
      ((jwsOf row'.doc = jwsOf row.doc ∧ publicJwsOf row'.doc = publicJwsOf row.doc ∧
          u.store.trail = s.store.trail) ∨
        ∃ i began r, e = .commit i began ∧ s.inFlight[i]? = some r ∧
          SealOutbox.published sv s e = r.replacement ∧
          jwsOf row'.doc = (r.replacement.bind (·.jwsSignature)).or (jwsOf row.doc) ∧
          publicJwsOf row'.doc = (r.replacement.bind (·.publicJwsSignature)).or
            (publicJwsOf row.doc) ∧
          u.store.trail = appendInTx sv.contentHash s.store.trail r.change.audit) := by
  cases e with
  | tick t =>
    simp only [PassportRequests.next] at h
    split_ifs at h with ht
    cases h
    exact ⟨row, hrow, rfl, Or.inl ⟨rfl, rfl, rfl⟩⟩
  | read caller op =>
    have hstore : u.store = s.store := by
      rcases PassportRequests.next_cases h with ⟨_, heq, -⟩ | ⟨_, _, -, hread⟩ |
        ⟨_, _, _, heq, -⟩
      · cases heq
      · rcases hread with rfl | ⟨_, _, _, -, -, -, rfl⟩ <;> rfl
      · cases heq
    rw [hstore]
    exact ⟨row, hrow, rfl, Or.inl ⟨rfl, rfl, rfl⟩⟩
  | commit i began =>
    simp only [PassportRequests.next] at h
    cases hr : s.inFlight[i]? with
    | none => simp [hr] at h
    | some r =>
      rw [hr] at h
      obtain rfl := Option.some.inj h
      unfold settle
      cases hcommit : commit sv.readContent sv.isProtectedPatchField sv.contentHash s.store s.now
          began r.change with
      | error err => exact ⟨row, hrow, rfl, Or.inl ⟨rfl, rfl, rfl⟩⟩
      | ok store =>
        have hpublished : SealOutbox.published sv s (.commit i began) = r.replacement := by
          simp [SealOutbox.published, hr, hcommit]
        obtain ⟨row', hwrite, hstore⟩ := bind_ok hcommit
        cases hstore
        obtain ⟨row₁, hrow₁, hc, -⟩ := hi.row
        obtain rfl : row₁ = row := Option.some.inj (hrow₁.symm.trans hrow)
        have hwf := (hi.requests r (List.mem_of_getElem? hr)).1
        rw [hrow] at hwrite
        obtain ⟨hid, hjws, hpublic⟩ := writePassport_signatures hc hwf hwrite
        exact ⟨row', rfl, hid, Or.inr ⟨i, began, r, rfl, hr, hpublished, hjws, hpublic, rfl⟩⟩

/-- The row, every assembly and every dossier carry the signatures the node made over the views
they go with. -/
structure Invariant (sv : Services) (node : Node) (group : String) (id : PassportId) (s : State) :
    Prop where
  requests : PassportRequests.Invariant sv group s.requests
  row : ∀ row ∈ s.requests.store.row, row.id = id ∧ Paired node (jwsOf row.doc)
    (publicJwsOf row.doc) (listByPassport s.requests.store.trail (PassportId.text id))
  inFlight : ∀ r ∈ s.requests.inFlight, WellSigned node id r
  reading : ∀ a ∈ s.assemblies, a.audit = none → a.passport.id = id ∧
    Paired node a.passport.jwsSignature a.passport.publicJwsSignature
      (listByPassport s.requests.store.trail (PassportId.text id))
  read : ∀ a ∈ s.assemblies, ∀ audit ∈ a.audit,
    Paired node a.passport.jwsSignature a.passport.publicJwsSignature audit
  dossiers : ∀ d ∈ s.dossiers, Intact node d

theorem Paired.of_views {jws publicJws : Option String} {audit audit' : List PassportAuditEntry}
    (h : Paired node jws publicJws audit)
    (hviews : publishedViews audit' = publishedViews audit) : Paired node jws publicJws audit' := by
  intro full view hsome
  exact h full view (hviews ▸ hsome)

theorem initial_invariant (d : Draft) (now : Int) :
    Invariant sv node d.1.productGroup d.1.id (initial d now) := by
  have hflight : (initial d now).requests.inFlight = [] := rfl
  have hassemblies : (initial d now).assemblies = [] := rfl
  have hdossiers : (initial d now).dossiers = [] := rfl
  refine ⟨PassportRequests.initial_invariant d now, ?_, by simp [hflight], by simp [hassemblies],
    by simp [hassemblies], by simp [hdossiers]⟩
  intro row hrow
  obtain rfl : d.row now = row := Option.some.inj hrow
  refine ⟨rfl, ?_⟩
  intro full view hviews
  cases hviews

/-- A step that leaves the row's signatures and the views of the last publish keeps everything. -/
theorem Invariant.of_same_views (hi : Invariant sv node group id s)
    {requests : PassportRequests.State} {chain : Option TransferChain}
    (hrequests : PassportRequests.Invariant sv group requests)
    (hrow : ∀ row' ∈ requests.store.row, ∃ row ∈ s.requests.store.row, row'.id = row.id ∧
      jwsOf row'.doc = jwsOf row.doc ∧ publicJwsOf row'.doc = publicJwsOf row.doc)
    (hflight : ∀ r ∈ requests.inFlight, WellSigned node id r)
    (hviews : publishedViews (listByPassport requests.store.trail (PassportId.text id)) =
      publishedViews (listByPassport s.requests.store.trail (PassportId.text id))) :
    Invariant sv node group id { s with requests, chain } := by
  refine ⟨hrequests, ?_, hflight, ?_, hi.read, hi.dossiers⟩
  · intro row' hrow'
    obtain ⟨row, hmem, hid, hjws, hpublic⟩ := hrow row' hrow'
    obtain ⟨hrowid, hpaired⟩ := hi.row row hmem
    rw [hjws, hpublic]
    exact ⟨hid.trans hrowid, hpaired.of_views hviews⟩
  · intro a ha hnone
    obtain ⟨hid, hpaired⟩ := hi.reading a ha hnone
    exact ⟨hid, hpaired.of_views hviews⟩

theorem Invariant.with_assembly (hi : Invariant sv node group id s) {assemblies : List Assembly}
    {a : Assembly} (hmem : ∀ b ∈ assemblies, b ∈ s.assemblies ∨ b = a)
    (hreading : a.audit = none → a.passport.id = id ∧
      Paired node a.passport.jwsSignature a.passport.publicJwsSignature
        (listByPassport s.requests.store.trail (PassportId.text id)))
    (hread : ∀ audit ∈ a.audit,
      Paired node a.passport.jwsSignature a.passport.publicJwsSignature audit) :
    Invariant sv node group id { s with assemblies } := by
  refine ⟨hi.requests, hi.row, hi.inFlight, ?_, ?_, hi.dossiers⟩
  · intro b hb hnone
    rcases hmem b hb with hb | rfl
    · exact hi.reading b hb hnone
    · exact hreading hnone
  · intro b hb audit haudit
    rcases hmem b hb with hb | rfl
    · exact hi.read b hb audit haudit
    · exact hread audit haudit

theorem request_inFlight {s u : PassportRequests.State} {e : PassportRequests.Event}
    (hrow : ∀ row ∈ s.store.row, row.id = id) (hsigned : signedByNode sv node s e = true)
    (hflight : ∀ r ∈ s.inFlight, WellSigned node id r)
    (h : PassportRequests.next sv s e = some u) : ∀ r ∈ u.inFlight, WellSigned node id r := by
  rcases PassportRequests.next_cases h with ⟨t, -, -, rfl⟩ | ⟨caller, op, rfl, hread⟩ |
    ⟨i, began, r, -, -, -, herased, -⟩
  · exact hflight
  · rcases hread with rfl | ⟨row, p, change, hrow', hp, hprep, rfl⟩
    · exact hflight
    · intro r hr
      rcases List.mem_append.mp hr with hr | hr
      · exact hflight r hr
      · rw [List.mem_singleton.mp hr, ← hrow row hrow']
        exact prepare_wellSigned hsigned hrow' hp hprep
  · intro r hr
    rw [herased] at hr
    exact hflight r (List.mem_of_mem_eraseIdx hr)

/-- A publish that commits apart leaves the row with the signatures of its own entry, and no
assembly that has yet to read the trail. -/
theorem publish_step {requests : PassportRequests.State} {q : Passport} {r : Request} {row' : Row}
    (hi : Invariant sv node group id s)
    (hrequests : PassportRequests.Invariant sv group requests)
    (hflight : ∀ r ∈ requests.inFlight, WellSigned node id r)
    (hrow' : requests.store.row = some row') (hid : row'.id = id)
    (hr : WellSigned node id r) (hreplacement : r.replacement = some q)
    (hjws : jwsOf row'.doc = q.jwsSignature.or (jwsOf row.doc))
    (hpublic : publicJwsOf row'.doc = q.publicJwsSignature.or (publicJwsOf row.doc))
    (htrail : requests.store.trail = appendInTx sv.contentHash s.requests.store.trail
      r.change.audit)
    (hapart : ∀ a ∈ s.assemblies, a.audit.isSome)
    (hnewest : ∀ e ∈ s.requests.store.trail, e.action = "published" →
      e.key < r.change.audit.normalised.key) :
    Invariant sv node group id { s with requests } := by
  obtain ⟨haction, full, view, jws, publicJws, hmeta, hqjws, hfull, hqpublic, hview⟩ :=
    hr.published q hreplacement
  refine ⟨hrequests, ?_, hflight, ?_, hi.read, hi.dossiers⟩
  · intro row₁ hrow₁
    obtain rfl : row' = row₁ := Option.some.inj (hrow'.symm.trans hrow₁)
    refine ⟨hid, ?_⟩
    intro full' view' hviews
    rw [htrail, publishedViews_newest haction hr.passport hmeta hnewest] at hviews
    cases hviews
    rw [hjws, hpublic, hqjws, hqpublic]
    exact ⟨fun t ht => Option.some.inj ht ▸ hfull, fun t ht => Option.some.inj ht ▸ hview⟩
  · intro a ha hnone
    have hsome := hapart a ha
    rw [hnone] at hsome
    cases hsome

theorem step_preserves_invariant (hone : OneKey node sig key) (hi : Invariant sv node group id s)
    (hcond : CommitsApart sv s e) (h : next sv node s e = some u) :
    Invariant sv node group id u := by
  obtain ⟨row, hrow, hc, hgroup⟩ := hi.requests.row
  obtain ⟨hid, hpaired⟩ := hi.row row hrow
  cases e with
  | request e =>
    simp only [next] at h
    split_ifs at h with hsigned
    obtain ⟨requests, hstep, rfl⟩ := Option.map_eq_some_iff.mp h
    have hrequests := PassportRequests.step_preserves_invariant hi.requests hstep
    have hflight : ∀ r ∈ requests.inFlight, WellSigned node id r :=
      request_inFlight (fun row hrow => (hi.row row hrow).1) hsigned hi.inFlight hstep
    obtain ⟨row', hrow', hid', heffect⟩ := request_step hi.requests hstep hrow
    have hsame (hjws : jwsOf row'.doc = jwsOf row.doc)
        (hpublic : publicJwsOf row'.doc = publicJwsOf row.doc) :
        ∀ row₁ ∈ requests.store.row, ∃ row ∈ s.requests.store.row, row₁.id = row.id ∧
          jwsOf row₁.doc = jwsOf row.doc ∧ publicJwsOf row₁.doc = publicJwsOf row.doc := by
      intro row₁ hrow₁
      obtain rfl : row' = row₁ := Option.some.inj (hrow'.symm.trans hrow₁)
      exact ⟨row, hrow, hid', hjws, hpublic⟩
    rcases heffect with ⟨hjws, hpublic, htrail⟩ |
      ⟨i, began, r, rfl, hr, hpublished, hjws, hpublic, htrail⟩
    · exact hi.of_same_views hrequests (hsame hjws hpublic) hflight (by rw [htrail])
    · have hwell := hi.inFlight r (List.mem_of_getElem? hr)
      cases hreplacement : r.replacement with
      | none =>
        rw [hreplacement] at hjws hpublic
        refine hi.of_same_views hrequests (hsame hjws hpublic) hflight ?_
        rw [htrail, publishedViews_other (hwell.other hreplacement)]
      | some q =>
        rw [hreplacement] at hjws hpublic hpublished
        obtain ⟨hapart, hnewest⟩ := hcond r hr (by simp [hpublished])
        exact publish_step hi hrequests hflight hrow' (hid'.trans hid) hwell hreplacement hjws
          hpublic htrail hapart hnewest
  | transfer caller chain metadata =>
    simp only [next, hrow] at h
    cases h
    refine hi.of_same_views ⟨⟨row, rfl, hc, hgroup⟩, hi.requests.requests⟩ ?_ hi.inFlight ?_
    · intro row' hrow'
      obtain rfl : row = row' := Option.some.inj hrow'
      exact ⟨row, hrow, rfl, rfl, rfl⟩
    · exact publishedViews_other (by simp [transferEntry, PassportAuditEntry.new,
        PassportAuditEntry.withMetadata])
  | readPassport =>
    simp only [next, hrow] at h
    cases hread : readDoc sv.readContent row with
    | error err =>
      simp only [hread, Option.some.injEq] at h
      exact h ▸ hi
    | ok p =>
      simp only [hread] at h
      split_ifs at h with hdraft
      · cases h
        exact hi
      · cases h
        refine hi.with_assembly (fun b hb => by simpa using hb) ?_ fun _ haudit => by cases haudit
        intro _
        refine ⟨(fromStored_readFrom hread).id.trans hid, ?_⟩
        dsimp only
        rw [← (fromStored_ok hread).jws, ← fromStored_publicJws hread]
        exact hpaired
  | readAudit i =>
    simp only [next] at h
    split at h
    next p hp =>
      cases h
      obtain ⟨hpid, hppaired⟩ := hi.reading _ (List.mem_of_getElem? hp) rfl
      refine hi.with_assembly (fun _ => List.mem_or_eq_of_mem_set) (fun hnone => by cases hnone) ?_
      intro audit haudit
      cases haudit
      dsimp only at hpid ⊢
      rw [hpid]
      exact hppaired
    next => cases h
  | readChain i =>
    simp only [next] at h
    split at h
    next p audit hp =>
      cases h
      have hread := hi.read _ (List.mem_of_getElem? hp) audit rfl
      refine hi.with_assembly (fun _ => List.mem_or_eq_of_mem_set) (fun hnone => by cases hnone) ?_
      intro audit' haudit
      cases haudit
      exact hread
    next => cases h
  | finish i answers =>
    simp only [next] at h
    split at h
    next p audit chain hp =>
      cases h
      have hread := hi.read _ (List.mem_of_getElem? hp) audit rfl
      refine ⟨hi.requests, hi.row, hi.inFlight, ?_, ?_, ?_⟩
      · intro a ha hnone
        exact hi.reading a (List.mem_of_mem_eraseIdx ha) hnone
      · intro a ha
        exact hi.read a (List.mem_of_mem_eraseIdx ha)
      · intro d hd
        rcases List.mem_append.mp hd with hd | hd
        · exact hi.dossiers d hd
        · exact assembled_intact hone hread (toOption_eq_some.mp (Option.mem_toList.mp hd))
    next => cases h

/-- In every run whose publishes all commit apart, every dossier that is assembled passes both
signature checks and the content check. -/
theorem dossiers_intact_of_publishes_apart (sv : Services) (node : Node)
    (sig : Signatures node.lib) (key : String) (hone : OneKey node sig key) (d : Draft) (now : Int)
    (es : List Event) (hapart : Along (next sv node) (CommitsApart sv) (initial d now) es) :
    ∀ before after t, es = before ++ after → run (next sv node) (initial d now) before = some t →
      ∀ dossier ∈ t.dossiers, Intact node dossier := by
  rintro before after t rfl hrun
  have hstart : Invariant sv node d.1.productGroup d.1.id (initial d now) := initial_invariant d now
  have hinv := run_invariant (fun _ _ _ hi hc h => step_preserves_invariant hone hi hc h)
    hstart (along_append.mp hapart).1 hrun
  exact hinv.dossiers

end StepFacts

section Samples

section Signer

-- The bytes a value is signed over.
variable (bytes : Json → List UInt8)

def sampleToken (v : Json) : String :=
  String.ofList (CompactTokens.compact "eyJhbGciOiJFZERTQSJ9".toList
    (CompactTokens.base64Url (bytes v)) "c2ln".toList)

def sampleKey : String := "iojj3XQJ8ZX9UtstPLpdcspnCb8dlBIb83SIAbQPb1w"

/-- One Ed25519 key, whose tokens are compact JWS; the text of a value stands for its hash. -/
def sampleLibraries : Libraries where
  resolveVerificationKey _ _ := some sampleKey
  verifyJws _ key := .ok (decide (key = sampleKey))
  base64UrlDecode segment := match CompactTokens.base64UrlDecode segment.toList with
    | some octets => .ok octets
    | none => .error "Invalid input length"
  canonicalize v := .ok (bytes v)
  contentHash v := .ok (String.ofList (text (normal v)))
  chainContentHash _ := ""
  signingPayload r := .str r.transferId
  transferChainJson chain := .arr (chain.transfers.map fun r => .str r.transferId)
  readEnvelope v := .ok (v.asMembers.getD [])
  renderJson v := String.ofList (text v)

def sampleSignatures : Signatures (sampleLibraries bytes) where
  signer _ := some sampleKey
  accepts jws key := by
    simp [sampleLibraries, eq_comm]

def sampleNode : Node where
  lib := sampleLibraries bytes
  sign v := .ok (sampleToken bytes v)
  ownDidDocument := .obj [("id", .str "did:web:node.example"),
    ("verificationMethod", .arr [sampleMethod "did:web:node.example#key-1" sampleKey])]
  digestForJws := id
  sealFindings _ _ _ := []
  nodeVersion := "0.1.0"
  coreVersion := "0.21.0"

theorem sampleNode_oneKey : OneKey (sampleNode bytes) (sampleSignatures bytes) sampleKey := by
  refine ⟨?_, fun _ _ _ => rfl⟩
  intro v jws h
  obtain rfl : sampleToken bytes v = jws := by simpa [sampleNode] using h
  refine ⟨⟨sampleKey, rfl, rfl⟩, bytes v, ?_, rfl⟩
  have hheader : '.' ∉ "eyJhbGciOiJFZERTQSJ9".toList := by decide +kernel
  have hsegment : payloadSegment (sampleToken bytes v) =
      some (String.ofList (CompactTokens.base64Url (bytes v))) := by
    rw [sampleToken, payloadSegment_ofList rfl, CompactTokens.second_part hheader
      (CompactTokens.dot_notMem_base64Url _)]
    rfl
  refine decodePayloadBytes_ok hsegment ?_
  simp [sampleNode, sampleLibraries, CompactTokens.base64UrlDecode_base64Url]

end Signer

def sampleInitial : State := initial sampleDraft sampleNow

def sampleAssembly : Answers := ⟨sampleNow, [], .null⟩

def samplePublished : Passport := { samplePassport with
  status := .published
  publishedAt := some sampleNow
  retentionLocked := true
  retentionUntil := some 2082758400000000000
  qrCodeUrl := some ("https://id.example.eu/dpp/" ++ PassportId.text samplePassport.id) }

theorem samplePublish_ok (jws publicJws : String) :
    publish sampleServices sampleNow samplePassport
        { signedAnswers with jws := .ok jws, publicJws := .ok publicJws } =
      .ok ({ samplePublished with
              jwsSignature := some jws, publicJwsSignature := some publicJws },
        samplePublished.toDoc,
        sampleServices.publicView { samplePublished with jwsSignature := some jws }) := by
  let moved : Passport := { samplePassport with
    status := .published, publishedAt := some sampleNow, retentionLocked := true }
  have hallowed : refuseIf (samplePassport.status.canTransitionTo .published = false)
      (.invalidTransition samplePassport.status.toString PassportStatus.published.toString) =
        .ok () := rfl
  have hgroup : hasProductGroupData samplePassport = false := rfl
  have hmoved : transitionToPublished sampleServices sampleNow samplePassport = .ok moved := rfl
  have hfirst : samplePassport.publishedAt.isNone = true := rfl
  have hstamped : stampPublishObligations sampleServices sampleNow moved true =
      .ok samplePublished := by
    apply toOption_eq_some.mp
    decide +kernel
  simp only [publish, hallowed, signedAnswers, backfillRegistryIdentity, refuseWith,
    requireRegistryIdentity, publishGates, hgroup, hmoved, bind, Except.bind]
  rw [hfirst, hstamped]
  rfl

def sampleFullToken : String := sampleToken canonicalBytes (.obj samplePublished.toDoc)

def samplePublicToken : String := sampleToken canonicalBytes (.obj (sampleServices.publicView
  { samplePublished with jwsSignature := some sampleFullToken }))

def samplePublish : PassportRequests.Event :=
  .read (sampleCaller 1) (.publish { signedAnswers with
    jws := .ok sampleFullToken, publicJws := .ok samplePublicToken })

def samplePublishing : State := { sampleInitial with
  requests := (PassportRequests.next sampleServices sampleInitial.requests samplePublish).getD
    sampleInitial.requests }

theorem samplePublish_step : next sampleServices (sampleNode canonicalBytes) sampleInitial
    (.request samplePublish) = some samplePublishing := by
  have hread : readDoc sampleServices.readContent (sampleDraft.row sampleNow) =
      .ok samplePassport := by
    apply toOption_eq_some.mp
    decide +kernel
  have hrow : sampleInitial.requests.store.row = some (sampleDraft.row sampleNow) := rfl
  have hsigned : signedByNode sampleServices (sampleNode canonicalBytes) sampleInitial.requests
      samplePublish = true := by
    have hpublish := samplePublish_ok sampleFullToken samplePublicToken
    have hnow : sampleInitial.requests.now = sampleNow := rfl
    simp only [signedByNode, samplePublish, hrow, hread, hnow, hpublish]
    simp [sampleNode, sampleFullToken, samplePublicToken, Except.toOption]
  simp only [next, hsigned, if_true, samplePublishing]
  rfl

def assembledAfter : List Event :=
  [.request (.commit 0 sampleNow), .readPassport, .readAudit 0, .readChain 0,
    .finish 0 sampleAssembly]

instance (sv : Services) (s : State) (e : Event) : Decidable (CommitsApart sv s e) :=
  match e with
  | .request (.commit i began) => inferInstanceAs (Decidable (∀ r ∈ s.requests.inFlight[i]?,
      (SealOutbox.published sv s.requests (.commit i began)).isSome →
        (∀ a ∈ s.assemblies, a.audit.isSome) ∧
        ∀ e ∈ s.requests.store.trail, e.action = "published" →
          e.key < r.change.audit.normalised.key))
  | .request (.tick _) => .isTrue trivial
  | .request (.read _ _) => .isTrue trivial
  | .transfer _ _ _ => .isTrue trivial
  | .readPassport => .isTrue trivial
  | .readAudit _ => .isTrue trivial
  | .readChain _ => .isTrue trivial
  | .finish _ _ => .isTrue trivial

theorem dossier_after_publish_is_intact :
    ∃ t, run (next sampleServices (sampleNode canonicalBytes)) sampleInitial
        (.request samplePublish :: assembledAfter) = some t ∧ t.dossiers.length = 1 ∧
      ∀ dossier ∈ t.dossiers, Intact (sampleNode canonicalBytes) dossier := by
  have hrest : ((run (next sampleServices (sampleNode canonicalBytes)) samplePublishing
      assembledAfter).any fun t => t.dossiers.length = 1) = true := by decide +kernel
  obtain ⟨t, hrun, hone⟩ := (Option.any_eq_true _ _).mp hrest
  have hall : run (next sampleServices (sampleNode canonicalBytes)) sampleInitial
      (.request samplePublish :: assembledAfter) = some t :=
    run_cons.mpr ⟨samplePublishing, samplePublish_step, hrun⟩
  have hapart : Along (next sampleServices (sampleNode canonicalBytes))
      (CommitsApart sampleServices) sampleInitial (.request samplePublish :: assembledAfter) := by
    refine ⟨trivial, ?_⟩
    intro u hu
    obtain rfl : samplePublishing = u := Option.some.inj (samplePublish_step.symm.trans hu)
    decide +kernel
  refine ⟨t, hall, of_decide_eq_true hone, ?_⟩
  exact dossiers_intact_of_publishes_apart sampleServices (sampleNode canonicalBytes)
    (sampleSignatures canonicalBytes) sampleKey (sampleNode_oneKey canonicalBytes) sampleDraft
    sampleNow _ hapart _ [] t (List.append_nil _).symm hall

def signedOrNot (v : Json) : List UInt8 := if (v.get "jwsSignature").isSome then [2] else [1]

def firstAnswers : PublishAnswers := { signedAnswers with
  jws := .ok "eyJhbGciOiJFZERTQSJ9.AQ.c2ln", publicJws := .ok "eyJhbGciOiJFZERTQSJ9.AQ.c2ln" }

def secondAnswers : PublishAnswers := { signedAnswers with
  jws := .ok "eyJhbGciOiJFZERTQSJ9.Ag.c2ln", publicJws := .ok "eyJhbGciOiJFZERTQSJ9.AQ.c2ln" }

/-- A suspended passport is published again between the two reads of a dossier. -/
def tornAssembly : List Event :=
  [.request (.read (sampleCaller 1) (.publish firstAnswers)), .request (.commit 0 sampleNow),
    .request (.read (sampleCaller 2) (.suspend none)), .request (.commit 0 sampleNow),
    .request (.read (sampleCaller 3) (.publish secondAnswers)), .readPassport,
    .request (.commit 0 sampleNow), .readAudit 0, .readChain 0, .finish 0 sampleAssembly]

/-- The dossier carries the first signature and the payload of the second. -/
theorem republished_between_reads_tears_the_dossier :
    ¬ ∀ (sv : Services) (node : Node) (sig : Signatures node.lib) (key : String),
      OneKey node sig key → ∀ (d : Draft) (now : Int) (es : List Event),
        ∀ before after t, es = before ++ after →
          run (next sv node) (initial d now) before = some t →
            ∀ dossier ∈ t.dossiers, Intact node dossier := by
  intro h
  have hfails : ((run (next sampleServices (sampleNode signedOrNot)) sampleInitial
      tornAssembly).any fun t => t.dossiers.any fun dossier =>
        (verifyDossier (sampleLibraries signedOrNot) dossier none).statusOf
          "full_view_signature" ≠ some .pass) = true := by
    decide +kernel
  obtain ⟨t, hrun, htorn⟩ := (Option.any_eq_true _ _).mp hfails
  obtain ⟨dossier, hmem, hnot⟩ := List.any_eq_true.mp htorn
  have hintact := h sampleServices (sampleNode signedOrNot) (sampleSignatures signedOrNot)
    sampleKey (sampleNode_oneKey signedOrNot) sampleDraft sampleNow tornAssembly tornAssembly [] t
    (List.append_nil _).symm hrun dossier hmem none
  exact of_decide_eq_true hnot hintact.1

end Samples

end DossierAssembly
