import DppEngine.DossierAssembly
import DppEngine.TransferChains

/-! Whether the verifier accepts the transfer chains the node writes.

The node signs every initiation with its own key, and the verifier resolves the key of an
initiation from the document of the outgoing operator. -/
namespace WrittenChains

open JsonValues TransitionSystems OptimisticCells FallibleSteps OrderedMaps TransferChains
open PassportModel (DppError PassportId PassportStatus)
open SignedTokens (Libraries Signatures HonestToken OperatorRef resolvePublicKey checkSignature
  checkPresent checkRecord verifyTransfers verifyTransferChain)

abbrev Record := TransferRecord OperatorRef Json

def readRecord (r : Record) : SignedTokens.TransferRecord where
  transferId := PassportId.text r.transferId
  passportId := PassportId.text r.passportId
  fromOperator := r.fromOperator
  toOperator := r.toOperator
  reason := r.reason
  initiatedAt := r.initiatedAt
  completedAt := r.completedAt
  rejectedAt := r.rejectedAt
  cancelledAt := r.cancelledAt
  fromSignature := r.fromSignature
  nodeAcceptanceAttestation := r.nodeAcceptanceAttestation
  notes := r.notes

def readChain (chain : TransferChain OperatorRef Json) : SignedTokens.TransferChain :=
  ⟨chain.transfers.map readRecord⟩

def recordsOf (stored : Option (TransferChain OperatorRef Json)) : List Record :=
  match stored with
  | none => []
  | some chain => chain.transfers

structure SameTerms (r r' : SignedTokens.TransferRecord) : Prop where
  transferId : r.transferId = r'.transferId
  passportId : r.passportId = r'.passportId
  fromOperator : r.fromOperator = r'.fromOperator
  toOperator : r.toOperator = r'.toOperator
  reason : r.reason = r'.reason
  initiatedAt : r.initiatedAt = r'.initiatedAt
  notes : r.notes = r'.notes

/-- What is relied on of the core library: what a signature covers is fixed at the initiation,
and a step of the record's state machine sets the one time that it is named after. -/
structure FixedTerms (lib : Libraries) (core : Core OperatorRef Json) : Prop where
  operatorJson : ∀ o, core.operatorJson o = o.toJson
  reasonJson : ∀ v, core.reasonJson v = v
  signingPayload : ∀ r, core.signingPayload r = lib.signingPayload (readRecord r)
  fixed : ∀ r r', SameTerms r r' → lib.signingPayload r = lib.signingPayload r'
  completes : ∀ now r r', core.complete now r = .ok r' → ∃ t, r' = { r with completedAt := t }
  rejects : ∀ now r r', core.reject now r = .ok r' → ∃ t, r' = { r with rejectedAt := t }
  cancels : ∀ now r r', core.cancel now r = .ok r' → ∃ t, r' = { r with cancelledAt := t }

/-- The node's own document is among those given, and a key resolves only from the document of
the DID that the token's `kid` names. -/
structure Published (lib : Libraries) (kidDid : String → Option String)
    (documents : BTreeMap String Json) (nodeDid : String) (nodeDoc : Json) : Prop where
  own : documents.get nodeDid = some nodeDoc
  kids : ∀ did doc jws key, documents.get did = some doc →
    resolvePublicKey lib jws doc = some key → kidDid jws = some did

/-- Every token of the key service is made with the key that the node's document publishes. -/
def SignsWith (lib : Libraries) (sig : Signatures lib) (nodeDoc : Json) (env : Environment) :
    Prop :=
  ∀ id payload jws, env.signPassport id payload = .ok jws → HonestToken lib sig nodeDoc jws payload

def outgoing : Request OperatorRef Json → Option OperatorRef
  | .initiate _ fromOperator _ _ _ => some fromOperator
  | .accept => none
  | .terminate _ => none

def admitted (committed : List (Taken OperatorRef Json × TransferChain OperatorRef Json)) :
    List OperatorRef :=
  committed.filterMap fun c => outgoing c.1.1

section Verification

variable {lib : Libraries} {sig : Signatures lib} {kidDid : String → Option String}
  {documents : BTreeMap String Json} {nodeDid did jws : String} {nodeDoc payload : Json}
  {index : ℕ} {records : List SignedTokens.TransferRecord}

theorem checkPresent_some {completed : Bool} {missing : String}
    {check : String → Except String Unit} :
    checkPresent (some jws) completed missing check = check jws := rfl

theorem checkPresent_open {missing : String} {check : String → Except String Unit} :
    checkPresent none false missing check = .ok () := rfl

/-- A token of the node passes under one DID only: the node's. -/
theorem checkSignature_iff (hdocs : Published lib kidDid documents nodeDid nodeDoc)
    (h : HonestToken lib sig nodeDoc jws payload) :
    checkSignature lib did jws payload documents = .ok () ↔ did = nodeDid := by
  obtain ⟨key, hkey, -⟩ := h.key
  have hnode : kidDid jws = some nodeDid := hdocs.kids _ _ _ _ hdocs.own hkey
  constructor
  · intro hok
    cases hdoc : documents.get did with
    | none => simp [checkSignature, hdoc] at hok
    | some doc =>
      cases hresolved : resolvePublicKey lib jws doc with
      | none => simp [checkSignature, hdoc, hresolved] at hok
      | some key' =>
        have hdid := hdocs.kids _ _ _ _ hdoc hresolved
        exact Option.some.inj (hdid.symm.trans hnode)
  · rintro rfl
    have hverified := h.verifies_iff.mpr hkey
    simp only [checkSignature, hdocs.own, hkey, hverified]

theorem verifyTransfers_ok_iff : verifyTransfers lib documents nodeDid index records = .ok () ↔
    ∀ r ∈ records, checkRecord lib documents nodeDid r = .ok () := by
  induction records generalizing index with
  | nil => simp [verifyTransfers]
  | cons r records ih =>
    cases hr : checkRecord lib documents nodeDid r with
    | error issue => simp [verifyTransfers, hr]
    | ok u => simp [verifyTransfers, hr, ih]

end Verification

/-- A record as the node leaves it: signed over its terms, and with an attestation when it is
completed. -/
structure Signed (lib : Libraries) (sig : Signatures lib) (nodeDoc : Json) (r : Record) : Prop where
  initiation : ∃ jws, r.fromSignature = some jws ∧
    HonestToken lib sig nodeDoc jws (lib.signingPayload (readRecord r))
  acceptance : ∀ jws ∈ r.nodeAcceptanceAttestation,
    HonestToken lib sig nodeDoc jws (SignedTokens.acceptancePayload (readRecord r))
  attested : r.completedAt.isSome → r.nodeAcceptanceAttestation.isSome

structure Written (lib : Libraries) (sig : Signatures lib) (nodeDoc : Json) (records : List Record)
    (operators : List OperatorRef) : Prop where
  signed : ∀ r ∈ records, Signed lib sig nodeDoc r
  operators : records.map TransferRecord.fromOperator = operators

section Chains

variable {lib : Libraries} {sig : Signatures lib} {kidDid : String → Option String}
  {core : Core OperatorRef Json} {documents : BTreeMap String Json} {nodeDid : String}
  {nodeDoc : Json} {id : PassportId} {env : Environment} {r r' : Record}
  {stored last : Option (TransferChain OperatorRef Json)}
  {chain chain' : TransferChain OperatorRef Json} {operators : List OperatorRef}

theorem Signed.checkRecord_iff (hdocs : Published lib kidDid documents nodeDid nodeDoc)
    (h : Signed lib sig nodeDoc r) :
    checkRecord lib documents nodeDid (readRecord r) = .ok () ↔ r.fromOperator.did = nodeDid := by
  obtain ⟨jws, hjws, hhonest⟩ := h.initiation
  have hfrom : (readRecord r).fromSignature = some jws := hjws
  have hacceptance : checkPresent (readRecord r).nodeAcceptanceAttestation
      (readRecord r).isCompleted "completed transfer is missing the node's acceptance attestation"
      (fun jws => checkSignature lib nodeDid jws
        (SignedTokens.acceptancePayload (readRecord r)) documents) = .ok () := by
    cases hattestation : r.nodeAcceptanceAttestation with
    | some attestation =>
      have hread : (readRecord r).nodeAcceptanceAttestation = some attestation := hattestation
      rw [hread, checkPresent_some]
      exact (checkSignature_iff hdocs (h.acceptance _ hattestation)).mpr rfl
    | none =>
      have hread : (readRecord r).nodeAcceptanceAttestation = none := hattestation
      have hopen : r.completedAt.isSome = false := by
        have := h.attested
        rw [hattestation] at this
        simpa using this
      have hcompleted : (readRecord r).isCompleted = false := by
        have hread' : (readRecord r).completedAt.isSome = false := hopen
        rw [SignedTokens.TransferRecord.isCompleted, hread']
        rfl
      rw [hread, hcompleted, checkPresent_open]
  rw [checkRecord, hacceptance, hfrom, checkPresent_some]
  change ((checkSignature lib r.fromOperator.did jws _ documents).mapError _ >>= fun _ => _) = _ ↔ _
  rw [← checkSignature_iff hdocs hhonest]
  cases checkSignature lib r.fromOperator.did jws (lib.signingPayload (readRecord r)) documents with
  | error reason => simp [Except.mapError, bind, Except.bind]
  | ok u => simp [Except.mapError, bind, Except.bind]

theorem Written.verifies_iff (hdocs : Published lib kidDid documents nodeDid nodeDoc)
    (h : Written lib sig nodeDoc chain.transfers operators) :
    verifyTransferChain lib (readChain chain) documents nodeDid = .ok () ↔
      ∀ o ∈ operators, o.did = nodeDid := by
  rw [verifyTransferChain, verifyTransfers_ok_iff, ← h.operators]
  simp only [readChain, List.mem_map, forall_exists_index, and_imp, forall_apply_eq_imp_iff₂]
  exact forall₂_congr fun r hr => (h.signed r hr).checkRecord_iff hdocs

theorem Signed.initiation_of (hterms : FixedTerms lib core) (h : Signed lib sig nodeDoc r)
    (hsame : SameTerms (readRecord r) (readRecord r'))
    (hsignature : r'.fromSignature = r.fromSignature) :
    ∃ jws, r'.fromSignature = some jws ∧
      HonestToken lib sig nodeDoc jws (lib.signingPayload (readRecord r')) := by
  obtain ⟨jws, hjws, hhonest⟩ := h.initiation
  rw [hterms.fixed _ _ hsame] at hhonest
  exact ⟨jws, hsignature.trans hjws, hhonest⟩

theorem acceptancePayload_eq (hterms : FixedTerms lib core) :
    TransferChains.acceptancePayload core r = SignedTokens.acceptancePayload (readRecord r) := by
  simp only [TransferChains.acceptancePayload, SignedTokens.acceptancePayload, hterms.operatorJson,
    hterms.reasonJson, readRecord]

/-- An initiation appends a record of its outgoing operator, signed. -/
theorem Written.initiate (hcore : core.Lawful) (hterms : FixedTerms lib core)
    (hsigns : SignsWith lib sig nodeDoc env)
    (h : Written lib sig nodeDoc (recordsOf stored) operators)
    {transferId : ℕ} {fromOperator toOperator : OperatorRef} {reason : Json} {notes : Option String}
    (hstep : initiateTransfer core id env transferId fromOperator toOperator reason notes stored =
      .ok (chain', r)) :
    Written lib sig nodeDoc chain'.transfers (operators ++ [fromOperator]) := by
  obtain ⟨jws, hjws, hrecord, hchain, -⟩ := initiateTransfer_ok hcore hstep
  have hstored : (stored.getD (.new id fromOperator)).transfers = recordsOf stored := by
    cases stored <;> rfl
  have hhonest := hsigns _ _ _ hjws
  rw [hterms.signingPayload] at hhonest
  have hnew : Signed lib sig nodeDoc r := by
    subst hrecord
    let opened : Record := .opened id env transferId fromOperator toOperator reason notes
    have hsame : SameTerms (readRecord opened)
        (readRecord { opened with fromSignature := some jws }) :=
      ⟨rfl, rfl, rfl, rfl, rfl, rfl, rfl⟩
    refine ⟨⟨jws, rfl, ?_⟩, ?_, ?_⟩
    · rw [← hterms.fixed _ _ hsame]
      exact hhonest
    · rintro _ ⟨⟩
    · rintro ⟨⟩
  subst hchain
  change Written lib sig nodeDoc ((stored.getD (.new id fromOperator)).transfers ++ [r]) _
  rw [hstored]
  constructor
  · intro q hq
    rcases List.mem_append.mp hq with hq | hq
    · exact h.signed q hq
    · rw [List.mem_singleton.mp hq]
      exact hnew
  · rw [List.map_append, h.operators, List.map_singleton, hrecord]
    rfl

theorem Written.put {idx : ℕ} {pending : Record}
    (h : Written lib sig nodeDoc chain.transfers operators)
    (hget : chain.transfers[idx]? = some pending) (hsigned : Signed lib sig nodeDoc r)
    (hfrom : r.fromOperator = pending.fromOperator) :
    Written lib sig nodeDoc (chain.put idx r).transfers operators := by
  constructor
  · intro q hq
    rcases List.mem_or_eq_of_mem_set hq with hq | rfl
    · exact h.signed q hq
    · exact hsigned
  · change (chain.transfers.set idx r).map TransferRecord.fromOperator = operators
    rw [List.map_set, hfrom, ← h.operators]
    apply List.ext_getElem?
    intro i
    rw [List.getElem?_set]
    split_ifs with heq hlt
    · subst heq
      rw [List.getElem?_map, hget]
      rfl
    · subst heq
      rw [List.getElem?_eq_none (by omega)]
    · rfl

theorem Written.accept (hterms : FixedTerms lib core) (hsigns : SignsWith lib sig nodeDoc env)
    (h : Written lib sig nodeDoc (recordsOf stored) operators)
    (hstep : acceptTransfer core id env stored = .ok (chain', r)) :
    Written lib sig nodeDoc chain'.transfers operators := by
  obtain ⟨chain, idx, pending, jws, rfl, hget, -, hjws, hcomplete, rfl⟩ := acceptTransfer_ok hstep
  have hpending := h.signed pending (List.mem_of_getElem? hget)
  obtain ⟨t, rfl⟩ := hterms.completes _ _ _ hcomplete
  refine Written.put h hget ⟨?_, ?_, fun _ => rfl⟩ rfl
  · exact hpending.initiation_of hterms ⟨rfl, rfl, rfl, rfl, rfl, rfl, rfl⟩ rfl
  · rintro _ ⟨⟩
    have hhonest := hsigns _ _ _ hjws
    rw [acceptancePayload_eq hterms] at hhonest
    exact hhonest

theorem Written.terminate (hterms : FixedTerms lib core) {how : Termination}
    (h : Written lib sig nodeDoc (recordsOf stored) operators)
    (hstep : terminatePendingTransfer core id env how stored = .ok (chain', r)) :
    Written lib sig nodeDoc chain'.transfers operators := by
  obtain ⟨chain, idx, pending, rfl, hget, -, hended, rfl⟩ := terminatePendingTransfer_ok hstep
  have hpending := h.signed pending (List.mem_of_getElem? hget)
  cases how with
  | rejected =>
    obtain ⟨t, rfl⟩ := hterms.rejects _ _ _ hended
    refine Written.put h hget ⟨?_, hpending.acceptance, hpending.attested⟩ rfl
    exact hpending.initiation_of hterms ⟨rfl, rfl, rfl, rfl, rfl, rfl, rfl⟩ rfl
  | cancelled =>
    obtain ⟨t, rfl⟩ := hterms.cancels _ _ _ hended
    refine Written.put h hget ⟨?_, hpending.acceptance, hpending.attested⟩ rfl
    exact hpending.initiation_of hterms ⟨rfl, rfl, rfl, rfl, rfl, rfl, rfl⟩ rfl

/-- What one committed request makes of the records. -/
theorem Written.step (hcore : core.Lawful) (hterms : FixedTerms lib core)
    (hsigns : SignsWith lib sig nodeDoc env)
    (h : Written lib sig nodeDoc (recordsOf stored) operators)
    {request : Request OperatorRef Json}
    (hstep : request.step core id env stored = .ok (chain', r)) :
    Written lib sig nodeDoc chain'.transfers (operators ++ (outgoing request).toList) := by
  cases request with
  | initiate transferId fromOperator toOperator reason notes =>
    exact h.initiate hcore hterms hsigns hstep
  | accept =>
    rw [outgoing, Option.toList_none, List.append_nil]
    exact h.accept hterms hsigns hstep
  | terminate how =>
    rw [outgoing, Option.toList_none, List.append_nil]
    exact h.terminate hterms hstep

theorem Written.replays (hcore : core.Lawful) (hterms : FixedTerms lib core)
    {committed : List (Taken OperatorRef Json × TransferChain OperatorRef Json)}
    (hsigns : ∀ c ∈ committed, SignsWith lib sig nodeDoc c.1.2)
    (h : Written lib sig nodeDoc (recordsOf stored) operators)
    (hreplays : Replays (Applies core id) stored committed last) :
    Written lib sig nodeDoc (recordsOf last) (operators ++ admitted committed) := by
  induction committed generalizing stored operators with
  | nil =>
    cases hreplays
    simpa [admitted] using h
  | cons c committed ih =>
    obtain ⟨⟨record, hstep⟩, hrest⟩ := hreplays
    have hc := h.step hcore hterms (hsigns c List.mem_cons_self) hstep
    have hall := @ih (some c.2) _ (fun d hd => hsigns d (List.mem_cons_of_mem _ hd)) hc hrest
    have hadmitted : admitted (c :: committed) = (outgoing c.1.1).toList ++ admitted committed := by
      cases hout : outgoing c.1.1 <;> simp [admitted, hout]
    rw [hadmitted, ← List.append_assoc]
    exact hall

theorem reachable_written (hcore : core.Lawful) (hterms : FixedTerms lib core)
    {events : List (Event OperatorRef Json)} {s : State OperatorRef Json}
    (hrun : run (State.next core id) State.initial events = some s)
    (hsigns : ∀ c ∈ s.committed, SignsWith lib sig nodeDoc c.1.2) :
    Written lib sig nodeDoc (recordsOf (s.stored.map Cell.value)) (admitted s.committed) := by
  have hinvariant : Invariant core id s :=
    reachable_invariant (fun _ _ _ ht hnext => step_preserves_invariant ht hnext)
      initial_invariant hrun
  have hnone : Written lib sig nodeDoc (recordsOf none) [] := ⟨by simp [recordsOf], rfl⟩
  exact hnone.replays hcore hterms hsigns hinvariant.linear

/-- The chain that is stored is one the verifier accepts exactly when every initiation that was
committed names the node itself as the outgoing operator. -/
theorem chain_verifies_iff (lib : Libraries) (sig : Signatures lib)
    (kidDid : String → Option String) (core : Core OperatorRef Json) (id : PassportId)
    (documents : BTreeMap String Json) (nodeDid : String) (nodeDoc : Json) (hcore : core.Lawful)
    (hterms : FixedTerms lib core) (hdocs : Published lib kidDid documents nodeDid nodeDoc)
    (events : List (Event OperatorRef Json)) (s : State OperatorRef Json)
    (hrun : run (State.next core id) State.initial events = some s)
    (hsigns : ∀ c ∈ s.committed, SignsWith lib sig nodeDoc c.1.2) :
    (∀ cell ∈ s.stored,
      verifyTransferChain lib (readChain cell.value) documents nodeDid = .ok ()) ↔
    ∀ o ∈ admitted s.committed, o.did = nodeDid := by
  have hwritten := reachable_written hcore hterms hrun hsigns
  cases hstored : s.stored with
  | none =>
    rw [hstored] at hwritten
    rw [← hwritten.operators]
    simp [recordsOf]
  | some cell =>
    rw [hstored] at hwritten
    rw [← hwritten.verifies_iff hdocs]
    simp

end Chains

section Samples

def nodeDid : String := "did:web:node.example"

/-- `alg` and the absolute `kid` of the node's key, encoded. -/
def nodeHeader : String := "eyJhbGciOiJFZERTQSIsImtpZCI6ImRpZDp3ZWI6bm9kZS5leGFtcGxlI2tleS0xIn0"

def headerSegment (jws : String) : Option String :=
  ((jws.toList.splitOn '.').head?).map String.ofList

def sampleKidDid (jws : String) : Option String :=
  if headerSegment jws = some nodeHeader then some nodeDid else none

def didDocument (did key : String) : Json :=
  .obj [("id", .str did), ("verificationMethod", .arr [.obj [("id", .str (did ++ "#key-1")),
    ("type", .str "JsonWebKey"), ("controller", .str did),
    ("publicKeyJwk", .obj [("kty", .str "OKP"), ("crv", .str "Ed25519"), ("x", .str key)])]]),
    ("assertionMethod", .arr [.str (did ++ "#key-1")])]

def handoverTerms (r : SignedTokens.TransferRecord) : Json :=
  .obj [("transferId", .str r.transferId), ("passportId", .str r.passportId),
    ("fromOperator", r.fromOperator.toJson), ("toOperator", r.toOperator.toJson),
    ("reason", r.reason), ("initiatedAt", .instant r.initiatedAt)]

open DossierAssembly (sampleKey)

def sampleLibraries : Libraries := { DossierAssembly.sampleLibraries JsonTexts.canonicalBytes with
  resolveVerificationKey := fun doc jws => (sampleKidDid jws).bind fun did =>
    if doc = didDocument did sampleKey then some sampleKey else none
  signingPayload := handoverTerms }

def sampleSignatures : Signatures sampleLibraries where
  signer _ := some sampleKey
  accepts jws key := by simp [sampleLibraries, DossierAssembly.sampleLibraries, eq_comm]

def nodeToken (v : Json) : String :=
  String.ofList (CompactTokens.compact nodeHeader.toList
    (CompactTokens.base64Url (JsonTexts.canonicalBytes v)) "c2ln".toList)

def operator (did : String) : OperatorRef :=
  ⟨did, [("name", .str "Acme"), ("role", .str "distributor"), ("country", .str "DE")]⟩

def didOf (host : String) : String := "did:web:" ++ host ++ ".example"

def sampleDocuments : BTreeMap String Json :=
  ((BTreeMap.empty.insert nodeDid (didDocument nodeDid sampleKey)).insert (didOf "second")
    (didDocument (didOf "second") "gTl3Dqh9F19Wo1Rmw0x-zMuNipG07jeiXfYPW4_Js5Q")).insert
      (didOf "third") (didDocument (didOf "third") "3HqgkhL0Rq1Gk1Ecq0l7ZB3XyNhkzXyS3n0f8PCfq1w")

theorem head_of_compact {header payload signature : List Char} (hheader : '.' ∉ header) :
    ((CompactTokens.compact header payload signature).splitOn '.').head? = some header := by
  rw [CompactTokens.compact, List.splitOn_append_cons_self_of_not_mem hheader]
  rfl

theorem nodeToken_kid (v : Json) : sampleKidDid (nodeToken v) = some nodeDid := by
  have hheader : '.' ∉ nodeHeader.toList := by decide +kernel
  have hsegment : headerSegment (nodeToken v) = some nodeHeader := by
    rw [headerSegment, nodeToken, String.toList_ofList, head_of_compact hheader, Option.map_some,
      String.ofList_toList]
  rw [sampleKidDid, if_pos hsegment]

theorem nodeToken_honest (v : Json) : HonestToken sampleLibraries sampleSignatures
    (didDocument nodeDid sampleKey) (nodeToken v) v := by
  refine ⟨⟨sampleKey, ?_, rfl⟩, JsonTexts.canonicalBytes v, ?_, rfl⟩
  · simp only [resolvePublicKey, sampleLibraries, nodeToken_kid, Option.bind_some, if_true]
  · have hheader : '.' ∉ nodeHeader.toList := by decide +kernel
    have hsegment : SignedTokens.payloadSegment (nodeToken v) =
        some (String.ofList (CompactTokens.base64Url (JsonTexts.canonicalBytes v))) := by
      rw [nodeToken, SignedTokens.payloadSegment_ofList rfl, CompactTokens.second_part hheader
        (CompactTokens.dot_notMem_base64Url _)]
      rfl
    refine DossierVerification.decodePayloadBytes_ok hsegment ?_
    simp [sampleLibraries, DossierAssembly.sampleLibraries,
      CompactTokens.base64UrlDecode_base64Url]

theorem sampleDocuments_published :
    Published sampleLibraries sampleKidDid sampleDocuments nodeDid
      (didDocument nodeDid sampleKey) where
  own := by decide +kernel
  kids did doc jws key hdoc hkey := by
    obtain ⟨kid, hkid, hkey⟩ := Option.bind_eq_some_iff.mp hkey
    have hpublished : doc = didDocument kid sampleKey := by
      by_contra hne
      rw [if_neg hne] at hkey
      cases hkey
    have hown : doc.get "id" = some (.str did) := by
      simp only [sampleDocuments, BTreeMap.get_insert] at hdoc
      split_ifs at hdoc with h₃ h₂ h₁
      · subst h₃
        cases hdoc
        rfl
      · subst h₂
        cases hdoc
        rfl
      · subst h₁
        cases hdoc
        rfl
      · cases hdoc
    have hkidDid : doc.get "id" = some (.str kid) := by
      rw [hpublished]
      rfl
    rw [hkid]
    exact congrArg some (Json.str.inj (Option.some.inj (hkidDid.symm.trans hown)))

def handoverStatus (r : Record) : TransferStatus :=
  if r.cancelledAt.isSome then .cancelled
  else if r.rejectedAt.isSome then .rejected
  else if r.completedAt.isSome then .completed
  else if r.nodeAcceptanceAttestation.isSome then .accepted
  else .initiated

def handoverPending (r : Record) : Bool :=
  handoverStatus r = .initiated || handoverStatus r = .accepted

/-- The operator responsible now: who took the last completed handover over. -/
def responsible (chain : TransferChain OperatorRef Json) : OperatorRef :=
  match chain.transfers.reverse.find? fun r => handoverStatus r = .completed with
  | none => chain.openedFor
  | some r => r.toOperator

def handoverCore : Core OperatorRef Json where
  status := handoverStatus
  signingPayload r := handoverTerms (readRecord r)
  operatorJson := OperatorRef.toJson
  reasonJson := id
  initiateTransfer chain r :=
    if chain.transfers.any handoverPending then .error "a transfer is already pending"
    else if r.fromOperator.did ≠ (responsible chain).did then
      .error "the outgoing operator is not the one responsible"
    else .ok { chain with transfers := chain.transfers ++ [r] }
  complete now r :=
    if handoverStatus r = .accepted then .ok { r with completedAt := some now }
    else .error "only an accepted transfer completes"
  reject now r :=
    if handoverStatus r = .initiated then .ok { r with rejectedAt := some now }
    else .error "only an initiated transfer is rejected"
  cancel now r :=
    if handoverPending r then .ok { r with cancelledAt := some now }
    else .error "a terminal transfer is not cancelled"

theorem handoverCore_lawful : handoverCore.Lawful where
  refuses chain r h := by
    obtain ⟨t, ht, hpending⟩ := h
    have hany : chain.transfers.any handoverPending = true :=
      List.any_eq_true.mpr ⟨t, ht, hpending⟩
    exact ⟨_, if_pos hany⟩
  appends chain r chain' h := by
    simp only [handoverCore] at h
    split_ifs at h
    cases h
    rfl

theorem handoverCore_fixed : FixedTerms sampleLibraries handoverCore where
  operatorJson _ := rfl
  reasonJson _ := rfl
  signingPayload _ := rfl
  fixed r r' h := by
    change handoverTerms r = handoverTerms r'
    rw [handoverTerms, handoverTerms, h.transferId, h.passportId, h.fromOperator, h.toOperator,
      h.reason, h.initiatedAt]
  completes now r r' h := by
    simp only [handoverCore] at h
    split_ifs at h
    exact ⟨some now, (Except.ok.inj h).symm⟩
  rejects now r r' h := by
    simp only [handoverCore] at h
    split_ifs at h
    exact ⟨some now, (Except.ok.inj h).symm⟩
  cancels now r r' h := by
    simp only [handoverCore] at h
    split_ifs at h
    exact ⟨some now, (Except.ok.inj h).symm⟩

def nodeAnswers (now : Int) : Environment where
  signPassport _ v := .ok (nodeToken v)
  verifySignature _ _ := .ok true
  now

theorem nodeAnswers_signs (now : Int) : SignsWith sampleLibraries sampleSignatures
    (didDocument nodeDid sampleKey) (nodeAnswers now) := by
  intro id v jws h
  cases h
  exact nodeToken_honest v

theorem signs_of_answers {times : List Int}
    {committed : List (Taken OperatorRef Json × TransferChain OperatorRef Json)}
    (h : committed.map (fun c => c.1.2) = times.map nodeAnswers) :
    ∀ c ∈ committed, SignsWith sampleLibraries sampleSignatures (didDocument nodeDid sampleKey)
      c.1.2 := by
  intro c hc
  have hmem : c.1.2 ∈ times.map nodeAnswers := h ▸ List.mem_map.mpr ⟨c, hc, rfl⟩
  obtain ⟨now, -, hnow⟩ := List.mem_map.mp hmem
  rw [← hnow]
  exact nodeAnswers_signs now

def handover (transferId : ℕ) (fromDid toDid : String) (now : Int) :
    List (Event OperatorRef Json) :=
  [.read (.initiate transferId (operator fromDid) (operator toDid) (.str "sale") none)
      (.ok .published),
    .finish 0 (nodeAnswers now), .read .accept (.ok .published), .finish 0 (nodeAnswers (now + 1))]

def twoHandovers : List (Event OperatorRef Json) :=
  handover 1 nodeDid (didOf "second") 10 ++ handover 2 (didOf "second") (didOf "third") 20

theorem own_handover_verifies :
    ∃ s, run (State.next handoverCore 7) State.initial
        (handover 1 nodeDid (didOf "second") 10) = some s ∧
      ((∀ cell ∈ s.stored, verifyTransferChain sampleLibraries (readChain cell.value)
          sampleDocuments nodeDid = .ok ()) ↔
        ∀ o ∈ admitted s.committed, o.did = nodeDid) := by
  let s := (run (State.next handoverCore 7) State.initial
    (handover 1 nodeDid (didOf "second") 10)).getD State.initial
  have hrun : run (State.next handoverCore 7) State.initial
      (handover 1 nodeDid (didOf "second") 10) = some s := rfl
  have hsigns := @signs_of_answers [10, 11] s.committed rfl
  exact ⟨s, hrun, chain_verifies_iff sampleLibraries sampleSignatures sampleKidDid handoverCore 7
    sampleDocuments nodeDid (didDocument nodeDid sampleKey) handoverCore_lawful handoverCore_fixed
    sampleDocuments_published _ s hrun hsigns⟩

theorem second_handover_does_not_verify :
    ¬ ∀ (lib : Libraries) (sig : Signatures lib) (kidDid : String → Option String)
      (core : Core OperatorRef Json) (id : PassportId) (documents : BTreeMap String Json)
      (nodeDid : String) (nodeDoc : Json), core.Lawful → FixedTerms lib core →
      Published lib kidDid documents nodeDid nodeDoc →
      ∀ (events : List (Event OperatorRef Json)) (s : State OperatorRef Json),
        run (State.next core id) State.initial events = some s →
        (∀ c ∈ s.committed, SignsWith lib sig nodeDoc c.1.2) →
        ∀ cell ∈ s.stored,
          verifyTransferChain lib (readChain cell.value) documents nodeDid = .ok () := by
  intro h
  let s := (run (State.next handoverCore 7) State.initial twoHandovers).getD State.initial
  have hrun : run (State.next handoverCore 7) State.initial twoHandovers = some s := rfl
  have hsigns := @signs_of_answers [10, 11, 20, 21] s.committed rfl
  have hwritten := reachable_written handoverCore_lawful handoverCore_fixed hrun hsigns
  obtain ⟨cell, hcell⟩ : ∃ cell, s.stored = some cell := ⟨_, rfl⟩
  have hverified := h sampleLibraries sampleSignatures sampleKidDid handoverCore 7 sampleDocuments
    nodeDid _ handoverCore_lawful handoverCore_fixed sampleDocuments_published _ s hrun hsigns
    cell hcell
  rw [hcell] at hwritten
  have hall := (hwritten.verifies_iff sampleDocuments_published).mp hverified
  have hsecond : operator (didOf "second") ∈ admitted s.committed :=
    List.mem_cons_of_mem _ List.mem_cons_self
  exact absurd (hall _ hsecond) (by decide +kernel)

end Samples

end WrittenChains
