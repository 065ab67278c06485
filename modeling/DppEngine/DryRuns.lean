import DppEngine.CreateRequests

/-! The dry run of a create request, and what creating the passport asks besides.

Both handlers run the checks of the body, look the carrier serial up and have core judge the
assembled draft. The service that stores the draft then asks its component graph, and the store
the predecessor it names. The store answers every lookup. -/
namespace DryRuns

open JsonValues PrintedLabels CreateRequests FallibleSteps
open PassportModel (PassportId DppError)
open DebugTexts (quoted)

section Stores

structure Stored extends PrintedLabels.Passport where
  componentRefs : List ComponentTree.ComponentRef
  deriving DecidableEq, Repr

abbrev Store := List Stored

variable (store : Store)

def labels : PrintedLabels.Store := store.map (·.toPassport)

def holds (id : PassportId) : Bool := store.any fun p => p.id = id

def componentsOf : ComponentGuard.Lookup := fun id =>
  .ok ((store.find? fun p => p.id = id).map (·.componentRefs))

abbrev FreshId := { id : PassportId // holds store id = false }

end Stores

/-- A node: the library, the registry identifiers the operator has configured, and whether
PostgreSQL takes a document as JSONB. -/
structure Node where
  core : Core
  facility : Option Json
  operatorIdentifier : Option String
  storableAsJsonb : Draft → Bool

inductive Response where
  | unprocessable (detail : String)
  | fieldErrors (errors : List FieldError)
  | conflict (errors : List FieldError)
  | internalError
  | created (p : Draft)
  | verdict (productGroupDataValid : Bool) (detail : Option String)
  deriving DecidableEq, Repr

section Handlers

variable (node : Node) (store : Store)

def carrierSerialConflict (body : CreatePassportRequest) : Option Response :=
  match body.carrierSerial, body.productGroupData.bind (·.productIdentifier) with
  | some serial, some identifier =>
    if carrierSerialIsTaken (labels store) identifier serial body.supersedesId then
      some (.conflict [⟨"/carrierSerial", quoted serial ++ " is already attributed to another " ++
        "passport under this GTIN. A label that names two passports resolves to neither; choose " ++
        "another serial, or declare this passport as the successor of the one that holds it."⟩])
    else none
  | _, _ => none

/-- What both handlers do with a body before it is a draft. -/
def checkedDraft (id : PassportId) (now : Int) (body : CreatePassportRequest) :
    Except Response Draft :=
  match validateCreateRequest node.core body with
  | some detail => .error (.unprocessable detail)
  | none =>
    match carrierSerialConflict store body with
    | some rejection => .error rejection
    | none => (assemblePassport node.core id now body).mapError .unprocessable

def storedAs (p : Draft) : Stored where
  id := p.id
  status := .draft
  publishedAt := none
  supersedesId := p.supersedesId
  identifier := p.productGroupData.bind (·.productIdentifier)
  granularity := none
  batchId := p.batchId
  serialNumber := none
  carrierSerial := p.carrierSerial
  componentRefs := p.componentRefs.map (·.toComponentRef)

/-- The row is inserted when the document can be stored and its foreign key is good. -/
def insertPassport (p : Draft) : Except ServiceError (Draft × Store) :=
  if !node.storableAsJsonb p then
    .error (.other (.internal "database: unsupported Unicode escape sequence"))
  else if p.supersedesId.any fun predecessor => !holds store predecessor then
    .error (.other (.internal "database: foreign key passport_supersedes_id_fkey"))
  else .ok (p, store ++ [storedAs p])

def create (id : FreshId store) (now : Int) (p : Draft) : Except ServiceError (Draft × Store) := do
  let p := p.stamped id now (p.facility.or node.facility)
    (p.operatorIdentifier.or node.operatorIdentifier)
  checkNewDraft node.core p
  (ComponentGuard.guardComponentGraph node.core.edges node.core.parseUuid (componentsOf store) p.id
    (p.componentRefs.map (·.toComponentRef))).mapError .of
  insertPassport node store (enrich node.core now p)

def respond : Except ServiceError (Draft × Store) → Response × Store
  | .ok (p, written) => (.created p, written)
  | .error (.validation errors) => (.fieldErrors errors, store)
  | .error (.other _) => (.internalError, store)

def createHandler (assembledId : PassportId) (id : FreshId store) (now : Int)
    (body : CreatePassportRequest) : Response × Store :=
  match checkedDraft node store assembledId now body with
  | .error rejection => (rejection, store)
  | .ok p => respond store (create node store id now p)

/-- Why a publish would refuse the payload. It fails closed where no schema is known. -/
def publishReadiness (data : ProductGroupData) : Option String :=
  (node.core.validateProductGroupData data).or
    (match node.core.currentSchemaVersion data.productGroup with
    | none => some ("cannot publish: no registered JSON Schema for product_group '" ++
        data.productGroup ++ "' — publish requires a resolvable schema when product_group data " ++
        "is present")
    | some version => node.core.validateStrict data.productGroup version data.members)

def validateHandler (assembledId : PassportId) (now : Int) (body : CreatePassportRequest) :
    Response :=
  match checkedDraft node store assembledId now body with
  | .error rejection => rejection
  | .ok p =>
    match checkNewDraft node.core p with
    | .error (.validation errors) => .fieldErrors errors
    | _ =>
      let blocker := p.productGroupData.bind (publishReadiness node)
      .verdict blocker.isNone blocker

end Handlers

section Agreement

def WouldCreate (response : Response) : Prop := ∃ valid detail, response = .verdict valid detail

def Created (response : Response) : Prop := ∃ p, response = .created p

variable (node : Node) (store : Store) (id : PassportId) (now : Int) (body : CreatePassportRequest)

def recordOf (p : Draft) : Draft :=
  enrich node.core now (p.stamped id now (p.facility.or node.facility)
    (p.operatorIdentifier.or node.operatorIdentifier))

structure PassesBoth : Prop where
  request : validateCreateRequest node.core body = none
  serial : carrierSerialConflict store body = none
  draft : ∃ p, assemblePassport node.core id now body = .ok p ∧ checkNewDraft node.core p = .ok ()

/-- What only create asks: the component graph can be checked whole and is in order, the
predecessor is stored, and PostgreSQL takes the document. -/
structure Storable : Prop where
  graph : ComponentGuard.guardComponentGraph node.core.edges node.core.parseUuid
    (componentsOf store) id
    (body.componentRefs.map (·.toComponentRef)) = .ok ()
  predecessor : ∀ predecessor ∈ body.supersedesId, holds store predecessor = true
  document : ∀ p, assemblePassport node.core id now body = .ok p →
    node.storableAsJsonb (recordOf node id now p) = true

variable {node : Node} {store : Store} {body : CreatePassportRequest} {id : PassportId} {now : Int}
  {p q : Draft}

theorem assemblePassport_stamped (core : Core) (id id' : PassportId) (now now' : Int) :
    assemblePassport core id' now' body =
      (assemblePassport core id now body).map fun p => p.stamped id' now' none none := by
  unfold assemblePassport
  cases commodityCodeOf core body.commodityCode <;> rfl

theorem PassesBoth.stamped (h : PassesBoth node store id now body) (id' : PassportId)
    (now' : Int) : PassesBoth node store id' now' body := by
  obtain ⟨hrequest, hserial, p, hp, hcheck⟩ := h
  refine ⟨hrequest, hserial, p.stamped id' now' none none, ?_, ?_⟩
  · rw [assemblePassport_stamped node.core id id' now now', hp]
    rfl
  · rw [checkNewDraft_stamped, hcheck]

theorem passesBoth_iff (id' : PassportId) (now' : Int) :
    PassesBoth node store id now body ↔ PassesBoth node store id' now' body :=
  ⟨fun h => h.stamped id' now', fun h => h.stamped id now⟩

theorem checkedDraft_eq_ok_iff : checkedDraft node store id now body = .ok p ↔
    validateCreateRequest node.core body = none ∧ carrierSerialConflict store body = none ∧
      assemblePassport node.core id now body = .ok p := by
  unfold checkedDraft
  cases validateCreateRequest node.core body with
  | some detail => simp
  | none =>
    cases carrierSerialConflict store body with
    | some rejection => simp
    | none => cases assemblePassport node.core id now body <;> simp [Except.mapError]

theorem checkedDraft_error {rejection : Response}
    (h : checkedDraft node store id now body = .error rejection) :
    (∃ detail, rejection = .unprocessable detail) ∨ ∃ errors, rejection = .conflict errors := by
  unfold checkedDraft at h
  split at h
  next detail _ =>
    cases h
    exact Or.inl ⟨detail, rfl⟩
  next =>
    split at h
    next conflict hconflict =>
      cases h
      unfold carrierSerialConflict at hconflict
      split at hconflict
      next =>
        split_ifs at hconflict
        cases hconflict
        exact Or.inr ⟨_, rfl⟩
      next => cases hconflict
    next =>
      cases hassemble : assemblePassport node.core id now body with
      | ok p => simp [hassemble, Except.mapError] at h
      | error detail =>
        rw [hassemble] at h
        cases h
        exact Or.inl ⟨detail, rfl⟩

/-- The dry run accepts exactly the bodies that pass what it checks. -/
theorem wouldCreate_iff :
    WouldCreate (validateHandler node store id now body) ↔ PassesBoth node store id now body := by
  unfold validateHandler
  cases hformed : checkedDraft node store id now body with
  | error rejection =>
    constructor
    · rintro ⟨valid, detail, rfl⟩
      rcases checkedDraft_error hformed with ⟨_, h⟩ | ⟨_, h⟩ <;> cases h
    · rintro ⟨hrequest, hserial, p, hp, -⟩
      cases hformed.symm.trans (checkedDraft_eq_ok_iff.mpr ⟨hrequest, hserial, hp⟩)
  | ok p =>
    obtain ⟨hrequest, hserial, hp⟩ := checkedDraft_eq_ok_iff.mp hformed
    rcases checkNewDraft_cases node.core p with hcheck | ⟨errors, hcheck⟩
    · simp only [hcheck]
      exact ⟨fun _ => ⟨hrequest, hserial, p, hp, hcheck⟩, fun _ => ⟨_, _, rfl⟩⟩
    · simp only [hcheck]
      constructor
      · rintro ⟨valid, detail, h⟩
        cases h
      · rintro ⟨-, -, q, hq, hq'⟩
        cases hp.symm.trans hq
        cases hcheck.symm.trans hq'

theorem applyCompliance_supersedesId (core : Core) (now : Int) (p : Draft) :
    (applyCompliance core now p).supersedesId = p.supersedesId := by
  unfold applyCompliance
  split <;> rfl

theorem recordOf_supersedesId (node : Node) (id : PassportId) (now : Int) (p : Draft) :
    (recordOf node id now p).supersedesId = p.supersedesId := by
  unfold recordOf enrich applyLint
  split <;> exact applyCompliance_supersedesId ..

theorem insertPassport_isOk_iff : (∃ q, insertPassport node store p = .ok q) ↔
    node.storableAsJsonb p = true ∧
      ∀ predecessor ∈ p.supersedesId, holds store predecessor = true := by
  unfold insertPassport
  by_cases hdocument : node.storableAsJsonb p = true
  · by_cases hpredecessor : p.supersedesId.any (fun predecessor => !holds store predecessor) = true
    · cases hid : p.supersedesId <;> simp_all
    · cases hid : p.supersedesId <;> simp_all
  · simp [hdocument]

/-- What create reads of the draft it is given is what the body stated. -/
structure AssembledFrom (body : CreatePassportRequest) (p : Draft) : Prop where
  facility : p.facility = none
  operatorIdentifier : p.operatorIdentifier = none
  supersedesId : p.supersedesId = body.supersedesId
  componentRefs : p.componentRefs = body.componentRefs

theorem assemblePassport_ok {core : Core} (h : assemblePassport core id now body = .ok p) :
    AssembledFrom body p := by
  unfold assemblePassport at h
  obtain ⟨commodityCode, -, h⟩ := bind_ok h
  cases h
  exact ⟨rfl, rfl, rfl, rfl⟩

/-- Create succeeds on the drafts that pass core's checks, where the graph is in order and the
record goes into the store. -/
theorem create_isOk_iff {id : FreshId store} : (∃ q, create node store id now p = .ok q) ↔
    checkNewDraft node.core p = .ok () ∧
      ComponentGuard.guardComponentGraph node.core.edges node.core.parseUuid (componentsOf store) id
        (p.componentRefs.map (·.toComponentRef)) = .ok () ∧
      ∃ q, insertPassport node store (recordOf node id now p) = .ok q := by
  simp only [create, checkNewDraft_stamped]
  rcases checkNewDraft_cases node.core p with hcheck | ⟨errors, hcheck⟩
  · cases hgraph : ComponentGuard.guardComponentGraph node.core.edges node.core.parseUuid
        (componentsOf store) id (p.componentRefs.map (·.toComponentRef)) with
    | error e => simp [hcheck, Draft.stamped, hgraph, Except.mapError, bind, Except.bind]
    | ok u =>
      simp only [hcheck, Draft.stamped, hgraph, Except.mapError, bind, Except.bind, true_and]
      rfl
  · simp [hcheck, bind, Except.bind]

theorem created_respond_iff {r : Except ServiceError (Draft × Store)} :
    Created (respond store r).1 ↔ ∃ q, r = .ok q := by
  rcases r with (errors | e) | q <;> simp [respond, Created]

/-- The record does not depend on the id its draft was assembled under. -/
theorem storable_iff {assembledId : PassportId} {id : FreshId store}
    (hp : assemblePassport node.core assembledId now body = .ok p) :
    Storable node store id now body ↔
      ComponentGuard.guardComponentGraph node.core.edges node.core.parseUuid (componentsOf store) id
        (p.componentRefs.map (·.toComponentRef)) = .ok () ∧
      ∃ q, insertPassport node store (recordOf node id now p) = .ok q := by
  obtain ⟨hfacility, hoperator, hsupersedes, hcomponents⟩ := assemblePassport_ok hp
  have hassembled : assemblePassport node.core id now body =
      .ok (p.stamped id now none none) := by
    rw [assemblePassport_stamped node.core assembledId id.1 now now, hp]
    rfl
  have hrecord : recordOf node id now (p.stamped id now none none) = recordOf node id now p := by
    simp only [recordOf, Draft.stamped, hfacility, hoperator]
  rw [insertPassport_isOk_iff, recordOf_supersedesId, hcomponents, hsupersedes]
  constructor
  · rintro ⟨hgraph, hpredecessor, hdocument⟩
    exact ⟨hgraph, hrecord ▸ hdocument _ hassembled, hpredecessor⟩
  · rintro ⟨hgraph, hdocument, hpredecessor⟩
    refine ⟨hgraph, hpredecessor, ?_⟩
    intro q hq
    cases hassembled.symm.trans hq
    rwa [hrecord]

theorem created_iff {assembledId : PassportId} {id : FreshId store} :
    Created (createHandler node store assembledId id now body).1 ↔
      PassesBoth node store assembledId now body ∧ Storable node store id now body := by
  unfold createHandler
  cases hformed : checkedDraft node store assembledId now body with
  | error rejection =>
    constructor
    · rintro ⟨q, rfl⟩
      rcases checkedDraft_error hformed with ⟨_, h⟩ | ⟨_, h⟩ <;> cases h
    · rintro ⟨⟨hrequest, hserial, p, hp, -⟩, -⟩
      cases hformed.symm.trans (checkedDraft_eq_ok_iff.mpr ⟨hrequest, hserial, hp⟩)
  | ok p =>
    obtain ⟨hrequest, hserial, hp⟩ := checkedDraft_eq_ok_iff.mp hformed
    rw [created_respond_iff, create_isOk_iff, ← storable_iff hp]
    constructor
    · rintro ⟨hcheck, hstorable⟩
      exact ⟨⟨hrequest, hserial, p, hp, hcheck⟩, hstorable⟩
    · rintro ⟨⟨-, -, q, hq, hcheck⟩, hstorable⟩
      cases hp.symm.trans hq
      exact ⟨hcheck, hstorable⟩

theorem createHandler_created
    {assembledId : PassportId} {id : FreshId store}
    (h : (createHandler node store assembledId id now body).1 = .created p) :
    Accepted node.core body ∧ ∃ draft, assemblePassport node.core assembledId now body = .ok draft ∧
      p = recordOf node id now draft := by
  unfold createHandler at h
  cases hformed : checkedDraft node store assembledId now body with
  | error rejection =>
    rw [hformed] at h
    rcases checkedDraft_error hformed with ⟨_, rfl⟩ | ⟨_, rfl⟩ <;> cases h
  | ok draft =>
    rw [hformed] at h
    change (respond store (create node store id now draft)).1 = .created p at h
    obtain ⟨hrequest, -, hdraft⟩ := checkedDraft_eq_ok_iff.mp hformed
    refine ⟨validateCreateRequest_eq_none_iff.mp hrequest, draft, hdraft, ?_⟩
    cases hcreate : create node store id now draft with
    | error e =>
      rw [hcreate] at h
      cases e <;> cases h
    | ok stored =>
      rw [hcreate] at h
      cases h
      obtain ⟨_, -, hcreate⟩ := bind_ok hcreate
      obtain ⟨_, -, hcreate⟩ := bind_ok hcreate
      unfold insertPassport at hcreate
      split_ifs at hcreate
      cases hcreate
      rfl

/-- The dry run and create agree on a body exactly when a check they share refuses it or what only
create asks is in order. -/
theorem dry_run_agrees_iff (node : Node) (store : Store) (body : CreatePassportRequest)
    (previewId assembledId : PassportId) (id : FreshId store) (previewNow now : Int) :
    (WouldCreate (validateHandler node store previewId previewNow body) ↔
      Created (createHandler node store assembledId id now body).1) ↔
    (PassesBoth node store id now body → Storable node store id now body) := by
  have hassembled : PassesBoth node store assembledId now body ↔
      PassesBoth node store id.1 now body := passesBoth_iff id.1 now
  rw [wouldCreate_iff, created_iff, passesBoth_iff id.1 now, hassembled]
  tauto

def sampleNode : Node where
  core := sampleCore
  facility := none
  operatorIdentifier := some "529900T8BM49AURSDO55"
  storableAsJsonb _ := true

def strayRequest : CreatePassportRequest := { sampleRequest with supersedesId := some 7 }

theorem stray_successor_passes_dry_run :
    ¬(WouldCreate (validateHandler sampleNode [] 1 0 strayRequest) ↔
      Created (createHandler sampleNode [] 1 ⟨2, rfl⟩ 0 strayRequest).1) := by
  have hpreview : validateHandler sampleNode [] 1 0 strayRequest = .verdict true none := by
    decide +kernel
  have hcreate : (createHandler sampleNode [] 1 ⟨2, rfl⟩ 0 strayRequest).1 = .internalError := by
    decide +kernel
  rw [hpreview, hcreate]
  intro h
  obtain ⟨p, hp⟩ := h.mp ⟨true, none, rfl⟩
  cases hp

end Agreement

end DryRuns
