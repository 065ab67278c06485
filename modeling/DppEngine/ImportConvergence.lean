import DppEngine.ImportMatching
import DppEngine.PatchedDrafts
import Mathlib.Data.List.Find

/-! What a second import of the same rows does, after a first one without a failed row.

The rows of an import are all looked up before any of them is written, and the writes happen in any
order. A write is a create or an update of the vault, as a whole. -/
namespace ImportConvergence

open JsonValues CreateRequests DryRuns PatchedDrafts ImportMatching FallibleSteps
open PassportModel (PassportId PassportStatus)

section Vaults

structure Record where
  draft : Draft
  status : PassportStatus
  publishedAt : Option Int
  granularity : Option PrintedLabels.Granularity
  serialNumber : Option String

abbrev Vault := List Record

def Record.id (r : Record) : PassportId := r.draft.id

def Record.created (p : Draft) : Record := ⟨p, .draft, none, none, none⟩

def stored (vault : Vault) : Store :=
  vault.map fun r =>
    { storedAs r.draft with
      status := r.status
      publishedAt := r.publishedAt
      granularity := r.granularity
      serialNumber := r.serialNumber }

def Record.identity (r : Record) : Option ProductIdentity :=
  (r.draft.productGroupData.bind (·.productIdentifier)).map fun identifier =>
    ⟨r.draft.productGroup, identifier.asStr, r.draft.batchId, r.serialNumber⟩

def Record.answers (identity : ProductIdentity) (r : Record) : Bool :=
  (r.status = .draft || r.status = .published) && r.identity = some identity

def findByIdentity (vault : Vault) (identity : ProductIdentity) : Option Record :=
  vault.find? (Record.answers identity)

def existingOf (r : Record) : Existing where
  id := some r.id
  status := some r.status.toString
  carrierSerial := r.draft.carrierSerial
  comparable :=
    { productName := r.draft.productName
      productGroup := some r.draft.productGroup
      manufacturer := r.draft.manufacturer
      materials := some r.draft.materials
      productGroupData := r.draft.productGroupData
      batchId := r.draft.batchId }

def lookupIn (vault : Vault) : Lookup := fun identity =>
  .ok ((findByIdentity vault identity).map existingOf)

end Vaults

section Writes

/-- How the values of a request are written to JSON. Product group data is read back as it was. -/
structure Codec (readers : Readers) where
  productGroupData : ProductGroupData → Json
  componentRefs : List ComponentRef → Json
  personalData : Doc → Json
  reads : ∀ data, readers.productGroupData (productGroupData data) = .ok data

def jsonOf {α : Type} (encode : α → Json) (value : Option α) : Json := (value.map encode).getD .null

def updateMembers {readers : Readers} (codec : Codec readers) (req : CreatePassportRequest) : Doc :=
  ("productName", .str req.productName) ::
  ("co2ePerUnit", jsonOf .num req.co2ePerUnit) ::
  ("repairabilityScore", jsonOf .num req.repairabilityScore) ::
  ("productGroupData", jsonOf codec.productGroupData req.productGroupData) ::
    (Doc.optional "carrierSerial" (req.carrierSerial.map .str) ++
      Doc.optional "personalData"
        (if req.personalData = [] then none else some (codec.personalData req.personalData)) ++
      Doc.optional "componentRefs"
        (if req.componentRefs = [] then none else some (codec.componentRefs req.componentRefs)))

def updateBody {readers : Readers} (codec : Codec readers) (req : CreatePassportRequest) : Json :=
  .obj (updateMembers codec req)

/-- A row that is to be written, with what it was classified as. -/
abbrev Call := ℕ × CreatePassportRequest × Classification

def Call.req (call : Call) : CreatePassportRequest := call.2.1

def Call.identity (call : Call) : Option ProductIdentity := identityFromRequest call.req

def Call.target (call : Call) : Option PassportId :=
  if call.2.2.action = .updateDraft then call.2.2.existingId else none

/-- A node, with the readers of its update requests and the writer of the importer. -/
structure Services where
  node : Node
  readers : Readers
  codec : Codec readers
  fingerprint : Fingerprint

def putDraft (id : PassportId) (q : Draft) (r : Record) : Record :=
  if r.id = id then { r with draft := q } else r

variable (sv : Services)

/-- What becomes of the passports when a call is taken: it writes the passport of an id. -/
inductive Wrote : Vault → Call → PassportId → Vault → Prop where
  | created {vault : Vault} {call : Call} {assembledId : PassportId} {id : FreshId (stored vault)}
      {now : Int} {p : Draft} (kind : call.2.2.action ≠ .updateDraft)
      (taken : (createHandler sv.node (stored vault) assembledId id now call.req).1 = .created p) :
      Wrote vault call id.1 (vault ++ [.created p])
  | updated {vault : Vault} {call : Call} {r : Record} {now : Int} {q : Draft}
      (kind : call.2.2 = ⟨.updateDraft, some r.id⟩) (held : r ∈ vault) (draft : r.status = .draft)
      (taken : update sv.node.core sv.readers (componentsOf (stored vault)) now r.draft
        (updateBody sv.codec call.req) = .ok q) :
      Wrote vault call r.id
        (vault.map (putDraft r.id q))

inductive Applied : Vault → List Call → List PassportId → Vault → Prop where
  | nil (vault : Vault) : Applied vault [] [] vault
  | cons {before between after : Vault} {call : Call} {calls : List Call} {id : PassportId}
      {ids : List PassportId} (first : Wrote sv before call id between)
      (rest : Applied between calls ids after) : Applied before (call :: calls) (id :: ids) after

def classify (vault : Vault) (rows : Rows) : List (ℕ × Classification) :=
  classifyBatch sv.fingerprint (fun _ => lookupIn vault) rows

/-- An import without a failed row: every row that is to be written is taken, in some order. -/
structure Import where
  before : Vault
  rows : Rows
  calls : List Call
  written : List PassportId
  after : Vault
  keyed : (before.map Record.id).Nodup
  numbered : (rows.map Prod.fst).Nodup
  ordered : calls.Perm (toRun rows (classify sv before rows))
  applied : Applied sv before calls written after

end Writes

section Convergence

variable {sv : Services}

def Import.again (run : Import sv) : List (ℕ × Classification) := classify sv run.after run.rows

def Settled (run : Import sv) (identity : ProductIdentity) (c : Classification) : Prop :=
  c.action = .unchanged ∨ c.action = .conflictPublished ∧
    ∃ r, findByIdentity run.before identity = some r ∧ r.status = .published

/-- The rows that have an identity are settled and not written again, and no passport is written
by two rows. -/
structure Import.Converges (run : Import sv) : Prop where
  settled : ∀ row ∈ run.rows, ∀ identity ∈ identityFromRequest row.2,
    Settled run identity (classificationOf run.again row.1)
  quiet : ∀ call ∈ toRun run.rows run.again, Call.identity call = none
  apart : run.written.Nodup

def rowsOf (rows : Rows) (identity : ProductIdentity) : Rows :=
  rows.filter fun row => identityFromRequest row.2 = some identity

def Import.firstCreate (run : Import sv) (identity : ProductIdentity) :
    Option (Call × PassportId) :=
  (run.calls.zip run.written).find? fun pair => pair.1.identity = some identity

/-- Two requests that become passports of the same content, the first of which is created. -/
structure Repeats (first req : CreatePassportRequest) (id : PassportId) : Prop where
  productGroup : req.productGroup.isSome
  materials : req.materials = some (first.materials.getD [])
  productName : req.productName = first.productName
  manufacturer : req.manufacturer = first.manufacturer
  productGroupData : req.productGroupData = first.productGroupData
  carrierSerial : ∀ serial ∈ req.carrierSerial,
    serial = first.carrierSerial.getD (PassportId.defaultCarrierSerial id)

/-- A request that changes no field of a draft which an update leaves alone. -/
structure Amends (req : CreatePassportRequest) (r : Record) : Prop where
  productGroup : req.productGroup.isSome
  materials : req.materials = some r.draft.materials
  manufacturer : req.manufacturer = r.draft.manufacturer

structure Import.Converging (run : Import sv) : Prop where
  /-- The rows of a draft repeat it, or the only one amends what can be amended. -/
  drafts : ∀ identity r, findByIdentity run.before identity = some r → r.status = .draft →
    (∀ row ∈ rowsOf run.rows identity,
      (classifyExisting sv.fingerprint row.2 (existingOf r)).action = .unchanged) ∨
    ∃ row, rowsOf run.rows identity = [row] ∧ Amends row.2 r
  /-- The rows of a new product repeat the first one created, the first one itself included. -/
  creates : ∀ identity, findByIdentity run.before identity = none →
    ∀ first ∈ run.firstCreate identity, ∀ row ∈ rowsOf run.rows identity,
      Repeats first.1.req row.2 first.2

end Convergence

section Effects

variable {sv : Services} {vault : Vault} {req : CreatePassportRequest} {identity : ProductIdentity}

structure CreatedFrom (req : CreatePassportRequest) (id : PassportId) (p : Draft) : Prop where
  id : p.id = id
  productName : p.productName = req.productName
  productGroup : p.productGroup = productGroupOf req.productGroup req.productGroupData
  manufacturer : p.manufacturer = req.manufacturer
  materials : p.materials = req.materials.getD []
  productGroupData : p.productGroupData = req.productGroupData
  batchId : p.batchId = req.batchId
  carrierSerial : p.carrierSerial = req.carrierSerial

theorem createHandler_from {node : Node} {store : Store} {assembledId : PassportId}
    {id : FreshId store} {now : Int} {p : Draft}
    (h : (createHandler node store assembledId id now req).1 = .created p) :
    CreatedFrom req id.1 p := by
  obtain ⟨-, draft, hdraft, rfl⟩ := createHandler_created h
  obtain ⟨commodityCode, -, hdraft⟩ := bind_ok hdraft
  cases hdraft
  obtain ⟨complianceResult, lintResult, hrecord⟩ := enrich_eq node.core now _
  rw [recordOf, hrecord]
  exact ⟨rfl, rfl, rfl, rfl, rfl, rfl, rfl, rfl⟩

structure Kept (p q : Draft) : Prop where
  id : q.id = p.id
  productGroup : q.productGroup = p.productGroup
  manufacturer : q.manufacturer = p.manufacturer
  materials : q.materials = p.materials
  batchId : q.batchId = p.batchId
  carrierSerial : q.carrierSerial = p.carrierSerial

theorem Kept.refl (p : Draft) : Kept p p := ⟨rfl, rfl, rfl, rfl, rfl, rfl⟩

theorem Kept.trans {p q t : Draft} (h : Kept p q) (h' : Kept q t) : Kept p t where
  id := h'.id.trans h.id
  productGroup := h'.productGroup.trans h.productGroup
  manufacturer := h'.manufacturer.trans h.manufacturer
  materials := h'.materials.trans h.materials
  batchId := h'.batchId.trans h.batchId
  carrierSerial := h'.carrierSerial.trans h.carrierSerial

structure Rewritten (p : Draft) (req : CreatePassportRequest) (q : Draft) : Prop where
  productName : q.productName = req.productName
  productGroupData : q.productGroupData = req.productGroupData
  carrierSerial : ∀ serial ∈ req.carrierSerial, serial = effectiveCarrierSerial p

theorem update_kept {core : Core} {readers : Readers} {lookup : ComponentGuard.Lookup} {now : Int}
    {p q : Draft} {patch : Json} (h : update core readers lookup now p patch = .ok q) :
    Kept p q := by
  obtain ⟨v, -, hwritten⟩ := update_ok h
  obtain ⟨hgroup, hmanufacturer, hbatch, -, -, -, hserial⟩ := hwritten.fixed
  obtain ⟨⟨patched, applied⟩, -, h⟩ := bind_ok h
  obtain ⟨_, -, h⟩ := bind_ok h
  obtain ⟨_, -, h⟩ := bind_ok h
  cases h
  exact ⟨rfl, hgroup, hmanufacturer, rfl, hbatch, hserial⟩

theorem updateMembers_serial {serial : String} (h : req.carrierSerial = some serial) :
    (updateMembers sv.codec req).get "carrierSerial" = some (.str serial) := by
  simp [updateMembers, Doc.optional, h]

theorem updateMembers_data {data : ProductGroupData} (h : req.productGroupData = some data) :
    (updateMembers sv.codec req).get "productGroupData" = some (sv.codec.productGroupData data) := by
  simp [updateMembers, jsonOf, h]

theorem updateMembers_name :
    (updateMembers sv.codec req).get "productName" = some (.str req.productName) := by
  simp [updateMembers]

theorem statedData_reads {core : Core} {readers : Readers} {p : Draft} {body : Doc} {v : Json}
    {data : ProductGroupData} {read : Option ProductGroupData}
    (hv : body.get "productGroupData" = some v) (hread : readers.productGroupData v = .ok data)
    (h : statedData core readers p body = .ok read) : read = some data := by
  unfold statedData at h
  rw [hv] at h
  dsimp only at h
  rw [hread] at h
  dsimp only at h
  split at h
  · cases h
  · split_ifs at h
    cases h
    rfl

theorem checkCarrierSerial_ok {p : Draft} {body : Doc} {serial : String} {u : Unit}
    (hv : body.get "carrierSerial" = some (.str serial))
    (h : checkCarrierSerial p body = .ok u) : serial = effectiveCarrierSerial p := by
  unfold checkCarrierSerial at h
  rw [hv] at h
  dsimp only at h
  split_ifs at h with hprinted
  exact Option.some.inj hprinted

theorem update_rewritten {now : Int} {lookup : ComponentGuard.Lookup} {p q : Draft}
    {data : ProductGroupData} (hdata : req.productGroupData = some data)
    (h : update sv.node.core sv.readers lookup now p (updateBody sv.codec req) = .ok q) :
    Rewritten p req q := by
  obtain ⟨v, hread, hwritten⟩ := update_ok h
  unfold readPatch updateBody at hread
  obtain ⟨_, hserial, hread⟩ := bind_ok hread
  obtain ⟨read, hstated, hread⟩ := bind_ok hread
  obtain ⟨_, -, hread⟩ := bind_ok hread
  obtain ⟨_, -, hread⟩ := bind_ok hread
  cases hread
  constructor
  case productName =>
    rw [hwritten.productName, updateMembers_name]
    rfl
  case productGroupData =>
    rw [hwritten.productGroupData, hdata,
      statedData_reads (updateMembers_data hdata) (sv.codec.reads data) hstated]
    rfl
  case carrierSerial =>
    intro serial hstatedSerial
    exact checkCarrierSerial_ok (updateMembers_serial hstatedSerial) hserial

theorem identity_created {id : PassportId} {p : Draft} (h : CreatedFrom req id p) :
    (Record.created p).identity = identityFromRequest req := by
  unfold Record.identity identityFromRequest Record.created
  rw [h.productGroupData, h.productGroup, h.batchId]
  cases hdata : req.productGroupData with
  | none => cases req.productGroup <;> rfl
  | some data =>
    cases hidentifier : data.productIdentifier with
    | none => cases req.productGroup <;> simp [hidentifier]
    | some identifier => cases req.productGroup <;> simp [hidentifier, productGroupOf]

theorem identityFromRequest_some (h : identityFromRequest req = some identity) :
    ∃ data, req.productGroupData = some data ∧
      identity.productGroup = productGroupOf req.productGroup (some data) ∧
      identity.batchId = req.batchId ∧ identity.serialNumber = none ∧
      ∃ identifier, data.productIdentifier = some identifier ∧
        identity.identifier = identifier.asStr := by
  unfold identityFromRequest at h
  obtain ⟨group, hgroup, h⟩ := Option.bind_eq_some_iff.mp h
  obtain ⟨identifier, hidentifier, h⟩ := Option.bind_eq_some_iff.mp h
  cases h
  obtain ⟨data, hdata, hidentifier⟩ := Option.bind_eq_some_iff.mp hidentifier
  refine ⟨data, hdata, ?_, rfl, rfl, identifier, hidentifier, rfl⟩
  rw [hdata] at hgroup
  rw [productGroupOf, hgroup]
  rfl

/-- An update by a row of a passport's identity leaves it its identity. -/
theorem identity_updated {r : Record} {q : Draft} (hr : r.identity = some identity)
    (hreq : identityFromRequest req = some identity) (hkept : Kept r.draft q)
    (hwritten : Rewritten r.draft req q) :
    Record.identity { r with draft := q } = some identity := by
  obtain ⟨data, hdata, -, -, -, identifier, hidentifier, hname⟩ := identityFromRequest_some hreq
  unfold Record.identity at hr ⊢
  obtain ⟨old, -, rfl⟩ := Option.map_eq_some_iff.mp hr
  rw [hwritten.productGroupData, hdata, hkept.productGroup, hkept.batchId, Option.bind_some,
    hidentifier, Option.map_some]
  dsimp only at hname
  rw [← hname]

end Effects

section Runs

variable {sv : Services} {before between after vault : Vault} {call : Call} {calls : List Call}
  {written : List PassportId} {id : PassportId}

def targets (calls : List Call) : List PassportId := calls.filterMap Call.target

def Aimed (vault : Vault) (call : Call) : Prop :=
  ∀ id ∈ call.target, ∃ r ∈ vault, r.id = id ∧ r.identity = call.identity ∧ call.identity.isSome

theorem target_updated {r : Record} (h : call.2.2 = ⟨.updateDraft, some r.id⟩) :
    call.target = some r.id := by
  rw [Call.target, h]
  rfl

theorem target_created (h : call.2.2.action ≠ .updateDraft) : call.target = none := if_neg h

theorem fresh_notMem (id : FreshId (stored vault)) : id.1 ∉ vault.map Record.id := by
  intro hmem
  obtain ⟨r, hr, hid⟩ := List.mem_map.mp hmem
  have hheld : holds (stored vault) id.1 = true :=
    List.any_eq_true.mpr ⟨_, List.mem_map_of_mem hr, decide_eq_true hid⟩
  rw [id.2] at hheld
  cases hheld

theorem eq_of_id_eq (hkeyed : (vault.map Record.id).Nodup) {r s : Record} (hr : r ∈ vault)
    (hs : s ∈ vault) (h : r.id = s.id) : r = s :=
  List.inj_on_of_nodup_map hkeyed hr hs h

/-- What a run of calls leaves of the passports that were there, and the ones it adds. -/
structure Split (before : Vault) (calls : List Call) (written : List PassportId) (after : Vault)
    (f : Record → Record) (news : Vault) : Prop where
  split : after = before.map f ++ news
  kept : ∀ r ∈ before, Kept r.draft (f r).draft ∧ (f r).status = r.status ∧
    (f r).identity = r.identity
  idle : ∀ r ∈ before, r.id ∉ targets calls → f r = r
  rewritten : (targets calls).Nodup → ∀ r ∈ before, ∀ call ∈ calls, call.target = some r.id →
    Rewritten r.draft call.req (f r).draft
  drafts : ∀ r ∈ news, r.status = .draft
  absent : ∀ identity, (∀ call ∈ calls, call.identity ≠ some identity) →
    ∀ r ∈ news, r.identity ≠ some identity
  first : ∀ identity, (∀ call ∈ calls, call.identity = some identity → call.target = none) →
    ∀ first ∈ (calls.zip written).find? (fun pair => pair.1.identity = some identity),
      ∃ p, news.find? (fun r => r.identity = some identity) = some (.created p) ∧
        CreatedFrom first.1.req first.2 p

theorem split_nil (vault : Vault) : Split vault [] [] vault (fun r => r) [] where
  split := by simp
  kept r _ := ⟨.refl r.draft, rfl, rfl⟩
  idle _ _ _ := rfl
  rewritten _ _ _ _ h := by cases h
  drafts _ h := by cases h
  absent _ _ _ h := by cases h
  first _ _ _ h := by cases h

theorem split_created {assembledId : PassportId} {fresh : FreshId (stored before)} {now : Int}
    {p : Draft} (kind : call.2.2.action ≠ .updateDraft)
    (taken : (createHandler sv.node (stored before) assembledId fresh now call.req).1 = .created p)
    (haimed : ∀ c ∈ calls, Aimed before c) {f : Record → Record} {news : Vault}
    (h : Split (before ++ [.created p]) calls written after f news) :
    Split before (call :: calls) (fresh.1 :: written) after f (.created p :: news) := by
  have hfrom := createHandler_from taken
  have htargets : targets (call :: calls) = targets calls := by
    rw [targets, List.filterMap_cons, target_created kind]
    rfl
  have hnew : (Record.created p).id ∉ targets calls := by
    intro hmem
    obtain ⟨c, hc, htarget⟩ := List.mem_filterMap.mp hmem
    obtain ⟨r, hr, hid, -⟩ := haimed c hc _ htarget
    have hfresh := fresh_notMem fresh
    rw [← hfrom.id] at hfresh
    exact hfresh (List.mem_map.mpr ⟨r, hr, hid⟩)
  have hstays : f (.created p) = .created p :=
    h.idle _ (List.mem_append_right _ (List.mem_singleton_self _)) hnew
  have hidentity := identity_created hfrom
  constructor
  case split => rw [h.split, List.map_append, List.map_cons, hstays]; simp
  case kept => exact fun r hr => h.kept r (List.mem_append_left _ hr)
  case idle =>
    rw [htargets]
    exact fun r hr => h.idle r (List.mem_append_left _ hr)
  case rewritten =>
    rw [htargets]
    intro hnodup r hr c hc htarget
    rcases List.mem_cons.mp hc with rfl | hc
    · rw [target_created kind] at htarget
      cases htarget
    · exact h.rewritten hnodup r (List.mem_append_left _ hr) c hc htarget
  case drafts => exact List.forall_mem_cons.mpr ⟨rfl, h.drafts⟩
  case absent =>
    intro identity hnone
    obtain ⟨hhead, hrest⟩ := List.forall_mem_cons.mp hnone
    refine List.forall_mem_cons.mpr ⟨?_, h.absent identity hrest⟩
    rw [hidentity]
    exact hhead
  case first =>
    intro identity hcreates first hfirst
    rw [List.zip_cons_cons] at hfirst
    by_cases hmatch : call.identity = some identity
    · have hfound : (Record.created p).identity = some identity := hidentity.trans hmatch
      rw [List.find?_cons_of_pos (by simpa using hmatch)] at hfirst
      rw [List.find?_cons_of_pos (by simpa using hfound)]
      cases hfirst
      exact ⟨p, rfl, hfrom⟩
    · have hskip : (Record.created p).identity ≠ some identity := hidentity ▸ hmatch
      rw [List.find?_cons_of_neg (by simpa using hmatch)] at hfirst
      rw [List.find?_cons_of_neg (by simpa using hskip)]
      exact h.first identity (fun c hc => hcreates c (List.mem_cons_of_mem _ hc)) first hfirst

theorem putDraft_self {r : Record} {q : Draft} : putDraft r.id q r = { r with draft := q } :=
  if_pos rfl

theorem putDraft_other {r : Record} {q : Draft} (h : r.id ≠ id) : putDraft id q r = r := if_neg h

/-- An update that was aimed at a passport keeps what it is known by. -/
theorem updated_kept {r : Record} {now : Int} {q : Draft}
    (kind : call.2.2 = ⟨.updateDraft, some r.id⟩) (held : r ∈ before)
    (taken : update sv.node.core sv.readers (componentsOf (stored before)) now r.draft
      (updateBody sv.codec call.req) = .ok q)
    (hkeyed : (before.map Record.id).Nodup) (haimed : Aimed before call) :
    Rewritten r.draft call.req q ∧
      ∀ t ∈ before, Kept t.draft (putDraft r.id q t).draft ∧
        (putDraft r.id q t).status = t.status ∧ (putDraft r.id q t).identity = t.identity := by
  obtain ⟨s, hs, hid, hidentity, hsome⟩ := haimed r.id (target_updated kind)
  obtain rfl := eq_of_id_eq hkeyed hs held hid
  obtain ⟨identity, hreq⟩ := Option.isSome_iff_exists.mp hsome
  rw [hreq] at hidentity
  obtain ⟨data, hdata, -⟩ := identityFromRequest_some hreq
  have hkept := update_kept taken
  have hwritten := update_rewritten hdata taken
  refine ⟨hwritten, fun t ht => ?_⟩
  by_cases heq : t.id = s.id
  · obtain rfl := eq_of_id_eq hkeyed ht hs heq
    rw [putDraft_self, hidentity]
    exact ⟨hkept, rfl, identity_updated hidentity hreq hkept hwritten⟩
  · rw [putDraft_other heq]
    exact ⟨.refl _, rfl, rfl⟩

theorem split_updated {r : Record} {now : Int} {q : Draft}
    (kind : call.2.2 = ⟨.updateDraft, some r.id⟩) (held : r ∈ before)
    (taken : update sv.node.core sv.readers (componentsOf (stored before)) now r.draft
      (updateBody sv.codec call.req) = .ok q)
    (hkeyed : (before.map Record.id).Nodup) (haimed : Aimed before call)
    {f : Record → Record} {news : Vault}
    (h : Split (before.map (putDraft r.id q)) calls written after f news) :
    Split before (call :: calls) (r.id :: written) after (f ∘ putDraft r.id q) news := by
  have htarget := target_updated kind
  have htargets : targets (call :: calls) = r.id :: targets calls := by
    rw [targets, List.filterMap_cons, htarget]
    rfl
  obtain ⟨hwritten, hgkept⟩ := updated_kept kind held taken hkeyed haimed
  constructor
  case split => rw [h.split, List.map_map]
  case kept =>
    intro t ht
    obtain ⟨hk, hstatus, hi⟩ := h.kept (putDraft r.id q t) (List.mem_map_of_mem ht)
    obtain ⟨hgk, hgstatus, hgi⟩ := hgkept t ht
    exact ⟨hgk.trans hk, hstatus.trans hgstatus, hi.trans hgi⟩
  case idle =>
    rw [htargets]
    intro t ht hnot
    rw [List.mem_cons, not_or] at hnot
    obtain ⟨hne, hrest⟩ := hnot
    have hsame := putDraft_other (q := q) hne
    have hidle := h.idle (putDraft r.id q t) (List.mem_map_of_mem ht) (by rwa [hsame])
    rw [Function.comp_apply, hidle, hsame]
  case rewritten =>
    rw [htargets]
    intro hnodup t ht c hc hct
    obtain ⟨hnot, hrest⟩ := List.nodup_cons.mp hnodup
    rcases List.mem_cons.mp hc with rfl | hc
    · rw [htarget] at hct
      obtain rfl := eq_of_id_eq hkeyed ht held (Option.some.inj hct).symm
      have hid : (putDraft t.id q t).id = t.id := (hgkept t ht).1.id
      have hidle := h.idle (putDraft t.id q t) (List.mem_map_of_mem ht) (by rwa [hid])
      rw [Function.comp_apply, hidle, putDraft_self]
      exact hwritten
    · have hne : t.id ≠ r.id := by
        intro heq
        exact hnot (heq ▸ List.mem_filterMap.mpr ⟨c, hc, hct⟩)
      have hsame := putDraft_other (q := q) hne
      have hrw := h.rewritten hrest (putDraft r.id q t) (List.mem_map_of_mem ht) c hc
        (by rwa [hsame])
      rw [hsame] at hrw
      rw [Function.comp_apply, hsame]
      exact hrw
  case drafts => exact h.drafts
  case absent =>
    intro i hnone
    exact h.absent i fun c hc => hnone c (List.mem_cons_of_mem _ hc)
  case first =>
    intro i hcreates first hfirst
    have hskip : call.identity ≠ some i := by
      intro hmatch
      have hnone := hcreates call List.mem_cons_self hmatch
      rw [htarget] at hnone
      cases hnone
    rw [List.zip_cons_cons, List.find?_cons_of_neg (by simpa using hskip)] at hfirst
    exact h.first i (fun c hc => hcreates c (List.mem_cons_of_mem _ hc)) first hfirst

theorem applied_split (h : Applied sv before calls written after)
    (hkeyed : (before.map Record.id).Nodup) (haimed : ∀ call ∈ calls, Aimed before call) :
    ∃ f news, Split before calls written after f news := by
  induction h with
  | nil vault => exact ⟨_, _, split_nil vault⟩
  | @cons before between after call calls id written hfirst hrest ih =>
    obtain ⟨hhead, htail⟩ := List.forall_mem_cons.mp haimed
    cases hfirst with
    | @created assembledId fresh now p kind taken =>
      have hid := (createHandler_from taken).id
      have hkeyed' : ((before ++ [Record.created p]).map Record.id).Nodup := by
        have hfresh := fresh_notMem fresh
        rw [← hid] at hfresh
        rw [List.map_append, List.map_singleton, ← List.concat_eq_append]
        exact hkeyed.concat hfresh
      have haimed' : ∀ c ∈ calls, Aimed (before ++ [Record.created p]) c := by
        intro c hc i hi
        obtain ⟨r, hr, hrest⟩ := htail c hc i hi
        exact ⟨r, List.mem_append_left _ hr, hrest⟩
      obtain ⟨f, news, h⟩ := ih hkeyed' haimed'
      exact ⟨f, _, split_created kind taken htail h⟩
    | @updated r now q kind held draft taken =>
      obtain ⟨-, hkept⟩ := updated_kept kind held taken hkeyed hhead
      have hkeyed' : ((before.map (putDraft r.id q)).map Record.id).Nodup := by
        have hsame : (before.map (putDraft r.id q)).map Record.id = before.map Record.id := by
          rw [List.map_map]
          exact List.map_congr_left fun t ht => (hkept t ht).1.id
        rwa [hsame]
      have haimed' : ∀ c ∈ calls, Aimed (before.map (putDraft r.id q)) c := by
        intro c hc i hi
        obtain ⟨t, ht, hid, hidentity, hsome⟩ := htail c hc i hi
        obtain ⟨hk, -, hsame⟩ := hkept t ht
        exact ⟨_, List.mem_map_of_mem ht, hk.id.trans hid, hsame.trans hidentity, hsome⟩
      obtain ⟨f, news, h⟩ := ih hkeyed' haimed'
      exact ⟨_, news, split_updated kind held taken hkeyed hhead h⟩

theorem wrote_ids (h : Wrote sv before call id between) :
    before.map Record.id ⊆ between.map Record.id ∧ id ∈ between.map Record.id ∧
      (call.target = some id ∨ call.target = none ∧ id ∉ before.map Record.id) := by
  cases h with
  | created kind taken =>
    have hid := (createHandler_from taken).id
    rw [List.map_append]
    refine ⟨List.subset_append_left _ _, ?_, .inr ⟨target_created kind, fresh_notMem _⟩⟩
    exact List.mem_append_right _ (List.mem_singleton.mpr hid.symm)
  | @updated r now q kind held draft taken =>
    have hkept := update_kept taken
    have hsame : (before.map (putDraft r.id q)).map Record.id = before.map Record.id := by
      rw [List.map_map]
      refine List.map_congr_left fun t _ => ?_
      by_cases heq : t.id = r.id
      · rw [Function.comp_apply, putDraft, if_pos heq, heq]
        exact hkept.id
      · rw [Function.comp_apply, putDraft_other heq]
    rw [hsame]
    exact ⟨fun _ h => h, List.mem_map_of_mem held, .inl (target_updated kind)⟩

theorem targets_subset (h : Applied sv before calls written after) : targets calls ⊆ written := by
  induction h with
  | nil => exact fun _ h => h
  | @cons before between after call calls id written hfirst hrest ih =>
    intro i hi
    obtain ⟨c, hc, htarget⟩ := List.mem_filterMap.mp hi
    rcases List.mem_cons.mp hc with rfl | hc
    · rcases (wrote_ids hfirst).2.2 with hsome | ⟨hnone, -⟩
      · rw [hsome] at htarget
        exact List.mem_cons.mpr (.inl (Option.some.inj htarget).symm)
      · rw [hnone] at htarget
        cases htarget
    · exact List.mem_cons_of_mem _ (ih (List.mem_filterMap.mpr ⟨c, hc, htarget⟩))

theorem written_new (h : Applied sv before calls written after) :
    ∀ i ∈ written, i ∈ targets calls ∨ i ∉ before.map Record.id := by
  induction h with
  | nil => exact nofun
  | @cons before between after call calls id written hfirst hrest ih =>
    obtain ⟨hgrows, -, hkind⟩ := wrote_ids hfirst
    intro i hi
    rcases List.mem_cons.mp hi with rfl | hi
    · rcases hkind with hsome | ⟨-, hnew⟩
      · exact .inl (List.mem_filterMap.mpr ⟨call, List.mem_cons_self, hsome⟩)
      · exact .inr hnew
    · rcases ih i hi with htarget | hnew
      · obtain ⟨c, hc, hci⟩ := List.mem_filterMap.mp htarget
        exact .inl (List.mem_filterMap.mpr ⟨c, List.mem_cons_of_mem _ hc, hci⟩)
      · exact .inr fun hold => hnew (hgrows hold)

/-- No passport is written twice exactly if no draft is updated twice. -/
theorem written_nodup_iff (h : Applied sv before calls written after)
    (hheld : targets calls ⊆ before.map Record.id) :
    written.Nodup ↔ (targets calls).Nodup := by
  induction h with
  | nil => exact Iff.rfl
  | @cons before between after call calls id written hfirst hrest ih =>
    obtain ⟨hgrows, hin, hkind⟩ := wrote_ids hfirst
    have hlater : targets calls ⊆ targets (call :: calls) := by
      intro i hi
      obtain ⟨c, hc, hci⟩ := List.mem_filterMap.mp hi
      exact List.mem_filterMap.mpr ⟨c, List.mem_cons_of_mem _ hc, hci⟩
    have hrestHeld : targets calls ⊆ before.map Record.id := fun i hi => hheld (hlater hi)
    have hiff := ih fun i hi => hgrows (hrestHeld hi)
    have hwritten : id ∈ written ↔ id ∈ targets calls := by
      constructor
      · intro hmem
        exact (written_new hrest id hmem).resolve_right fun hnew => hnew hin
      · exact fun hmem => targets_subset hrest hmem
    rw [List.nodup_cons, hiff, hwritten]
    rcases hkind with hsome | ⟨hnone, hnew⟩
    · have htargets : targets (call :: calls) = id :: targets calls := by
        rw [targets, List.filterMap_cons, hsome]
        rfl
      rw [htargets, List.nodup_cons]
    · have htargets : targets (call :: calls) = targets calls := by
        rw [targets, List.filterMap_cons, hnone]
        rfl
      rw [htargets]
      exact and_iff_right fun hmem => hnew (hrestHeld hmem)

end Runs

section Lookups

variable {sv : Services} {vault : Vault} {rows : Rows} {identity : ProductIdentity} {r : Record}
  {req : CreatePassportRequest} {n : ℕ} {call : Call}

def classOf (sv : Services) (vault : Vault) (req : CreatePassportRequest) : Classification :=
  match (identityFromRequest req).bind (findByIdentity vault) with
  | none => ⟨.create, none⟩
  | some r => classifyExisting sv.fingerprint req (existingOf r)

theorem classificationOf_row (hnumbered : (rows.map Prod.fst).Nodup) (h : (n, req) ∈ rows) :
    classificationOf (classify sv vault rows) n = classOf sv vault req := by
  unfold classificationOf classify
  rw [lookup_classifyBatch hnumbered h, Option.getD_some]
  unfold classifyRow classOf lookupIn
  cases identityFromRequest req with
  | none => rfl
  | some identity =>
    dsimp only [Option.bind_some]
    cases findByIdentity vault identity <;> rfl

theorem mem_toRun (hnumbered : (rows.map Prod.fst).Nodup) :
    call ∈ toRun rows (classify sv vault rows) ↔ ∃ n req, (n, req) ∈ rows ∧
      call = (n, req, classOf sv vault req) ∧ writes (classOf sv vault req) = true := by
  unfold toRun
  rw [List.mem_filterMap]
  constructor
  · rintro ⟨⟨n, req⟩, hrow, hcall⟩
    dsimp only at hcall
    rw [classificationOf_row hnumbered hrow] at hcall
    split_ifs at hcall with hwrites
    cases hcall
    exact ⟨n, req, hrow, rfl, hwrites⟩
  · rintro ⟨n, req, hrow, rfl, hwrites⟩
    refine ⟨(n, req), hrow, ?_⟩
    dsimp only
    rw [classificationOf_row hnumbered hrow, if_pos hwrites]

theorem findByIdentity_some (h : findByIdentity vault identity = some r) :
    r ∈ vault ∧ (r.status = .draft ∨ r.status = .published) ∧ r.identity = some identity := by
  have hfound := List.find?_some h
  simp only [Record.answers, Bool.and_eq_true, Bool.or_eq_true, decide_eq_true_eq] at hfound
  exact ⟨List.mem_of_find?_eq_some h, hfound.1, hfound.2⟩

theorem classOf_found (hreq : identityFromRequest req = some identity)
    (hfound : findByIdentity vault identity = some r) :
    classOf sv vault req = classifyExisting sv.fingerprint req (existingOf r) := by
  unfold classOf
  rw [hreq, Option.bind_some, hfound]

theorem classOf_absent (hreq : identityFromRequest req = some identity)
    (hfound : findByIdentity vault identity = none) : classOf sv vault req = ⟨.create, none⟩ := by
  unfold classOf
  rw [hreq, Option.bind_some, hfound]

theorem classOf_unidentified (hreq : identityFromRequest req = none) :
    classOf sv vault req = ⟨.create, none⟩ := by
  unfold classOf
  rw [hreq, Option.bind_none]

structure Agrees (req : CreatePassportRequest) (r : Record) : Prop where
  productName : req.productName = r.draft.productName
  productGroup : req.productGroup = some r.draft.productGroup
  manufacturer : req.manufacturer = r.draft.manufacturer
  materials : req.materials = some r.draft.materials
  productGroupData : req.productGroupData = r.draft.productGroupData
  batchId : req.batchId = r.draft.batchId
  carrierSerial : ∀ serial ∈ req.carrierSerial, serial = effectiveCarrierSerial r.draft

theorem agrees_iff (fp : Fingerprint) : Agrees req r ↔
    fp.comparableFingerprint (comparableOf req) =
        fp.comparableFingerprint (existingOf r).comparable ∧
      statesAnotherCarrierSerial req (existingOf r) = false := by
  have hprinted : printedCarrierSerial (existingOf r) = some (effectiveCarrierSerial r.draft) := by
    unfold printedCarrierSerial existingOf effectiveCarrierSerial Record.id
    cases r.draft.carrierSerial <;> rfl
  have hserial : statesAnotherCarrierSerial req (existingOf r) = false ↔
      ∀ serial ∈ req.carrierSerial, serial = effectiveCarrierSerial r.draft := by
    unfold statesAnotherCarrierSerial
    rw [hprinted]
    cases req.carrierSerial with
    | none => exact iff_of_true rfl fun _ h => (Option.not_mem_none _ h).elim
    | some stated =>
      rw [Option.any_some, decide_eq_false_iff_not, not_not, Option.some.injEq]
      constructor
      · rintro hstated serial ⟨⟩
        exact hstated.symm
      · exact fun h => (h stated rfl).symm
  rw [fp.injective.eq_iff, hserial, comparableOf, existingOf, Comparable.mk.injEq]
  constructor
  · rintro ⟨hname, hgroup, hmanufacturer, hmaterials, hdata, hbatch, hprints⟩
    exact ⟨⟨hname, hgroup, hmanufacturer, hmaterials, hdata, hbatch⟩, hprints⟩
  · rintro ⟨⟨hname, hgroup, hmanufacturer, hmaterials, hdata, hbatch⟩, hprints⟩
    exact ⟨hname, hgroup, hmanufacturer, hmaterials, hdata, hbatch, hprints⟩

theorem classifyExisting_agrees {fp : Fingerprint} (h : Agrees req r) :
    classifyExisting fp req (existingOf r) = ⟨.unchanged, some r.id⟩ := by
  unfold classifyExisting
  rw [if_pos ((agrees_iff fp).mp h)]
  rfl

/-- A draft that a row changes is updated. -/
theorem classifyExisting_draft {fp : Fingerprint} (hstatus : r.status = .draft)
    (h : ¬Agrees req r) : classifyExisting fp req (existingOf r) = ⟨.updateDraft, some r.id⟩ := by
  have hdraft : (existingOf r).status ≠ some PassportStatus.published.toString := by
    rw [existingOf, hstatus]
    change some PassportStatus.draft.toString ≠ _
    decide
  unfold classifyExisting
  rw [if_neg fun hagrees => h ((agrees_iff fp).mpr hagrees), if_neg hdraft]
  rfl

theorem classifyExisting_published {fp : Fingerprint} (hstatus : r.status = .published)
    (h : ¬Agrees req r) :
    classifyExisting fp req (existingOf r) = ⟨.conflictPublished, some r.id⟩ := by
  have hpublished : (existingOf r).status = some PassportStatus.published.toString := by
    rw [existingOf, hstatus]
  unfold classifyExisting
  rw [if_neg fun hagrees => h ((agrees_iff fp).mpr hagrees), if_pos hpublished]
  rfl

theorem unchanged_iff {fp : Fingerprint} (hstatus : r.status = .draft ∨ r.status = .published) :
    (classifyExisting fp req (existingOf r)).action = .unchanged ↔ Agrees req r := by
  by_cases h : Agrees req r
  · rw [classifyExisting_agrees h]
    exact iff_of_true rfl h
  · refine iff_of_false (fun hunchanged => ?_) h
    rcases hstatus with hdraft | hpublished
    · rw [classifyExisting_draft hdraft h] at hunchanged
      cases hunchanged
    · rw [classifyExisting_published hpublished h] at hunchanged
      cases hunchanged

theorem classOf_update (h : (classOf sv vault req).action = .updateDraft) :
    ∃ identity r, identityFromRequest req = some identity ∧
      findByIdentity vault identity = some r ∧ r.status = .draft ∧ ¬Agrees req r ∧
        classOf sv vault req = ⟨.updateDraft, some r.id⟩ := by
  cases hreq : identityFromRequest req with
  | none =>
    rw [classOf_unidentified hreq] at h
    cases h
  | some identity =>
    cases hfound : findByIdentity vault identity with
    | none =>
      rw [classOf_absent hreq hfound] at h
      cases h
    | some r =>
      rw [classOf_found hreq hfound] at h ⊢
      by_cases hagrees : Agrees req r
      · rw [classifyExisting_agrees hagrees] at h
        cases h
      · obtain ⟨-, hdraft | hpublished, -⟩ := findByIdentity_some hfound
        · exact ⟨identity, r, rfl, hfound, hdraft, hagrees,
            classifyExisting_draft hdraft hagrees⟩
        · rw [classifyExisting_published hpublished hagrees] at h
          cases h

theorem productGroup_stated (hreq : identityFromRequest req = some identity) :
    req.productGroup = some identity.productGroup ↔ req.productGroup.isSome := by
  obtain ⟨data, -, hgroup, -⟩ := identityFromRequest_some hreq
  rw [hgroup, productGroupOf]
  cases req.productGroup <;> simp

/-- A passport created under an identity agrees with what repeats its request. -/
theorem agrees_created_iff {first : CreatePassportRequest} {id : PassportId} {p : Draft}
    (hp : CreatedFrom first id p) (hfirst : identityFromRequest first = some identity)
    (hreq : identityFromRequest req = some identity) :
    Agrees req (.created p) ↔ Repeats first req id := by
  obtain ⟨data, hdata, hgroup, hbatch, -⟩ := identityFromRequest_some hfirst
  obtain ⟨-, -, -, hbatch', -⟩ := identityFromRequest_some hreq
  have hpGroup : p.productGroup = identity.productGroup := by
    rw [hp.productGroup, hgroup, hdata]
  have hserial : effectiveCarrierSerial p =
      first.carrierSerial.getD (PassportId.defaultCarrierSerial id) := by
    rw [effectiveCarrierSerial, hp.carrierSerial, hp.id]
  constructor
  · intro h
    exact
      { productGroup := (productGroup_stated hreq).mp (hpGroup ▸ h.productGroup)
        materials := hp.materials ▸ h.materials
        productName := h.productName.trans hp.productName
        manufacturer := h.manufacturer.trans hp.manufacturer
        productGroupData := h.productGroupData.trans hp.productGroupData
        carrierSerial := fun serial hs => (h.carrierSerial serial hs).trans hserial }
  · intro h
    exact
      { productName := h.productName.trans hp.productName.symm
        productGroup :=
          ((productGroup_stated hreq).mpr h.productGroup).trans (congrArg some hpGroup.symm)
        manufacturer := h.manufacturer.trans hp.manufacturer.symm
        materials := h.materials.trans (congrArg some hp.materials.symm)
        productGroupData := h.productGroupData.trans hp.productGroupData.symm
        batchId := hbatch'.symm.trans (hbatch.trans hp.batchId.symm)
        carrierSerial := fun serial hs => (h.carrierSerial serial hs).trans hserial.symm }

/-- A draft that a row has updated agrees with the row if it could be amended. -/
theorem agrees_updated_iff {r' : Record} (hr : r.identity = some identity)
    (hreq : identityFromRequest req = some identity) (hkept : Kept r.draft r'.draft)
    (hwritten : Rewritten r.draft req r'.draft) : Agrees req r' ↔ Amends req r := by
  obtain ⟨-, -, -, hbatch, -⟩ := identityFromRequest_some hreq
  obtain ⟨identifier, -, rfl⟩ := Option.map_eq_some_iff.mp hr
  have hserial : effectiveCarrierSerial r'.draft = effectiveCarrierSerial r.draft := by
    rw [effectiveCarrierSerial, hkept.carrierSerial, hkept.id]
    rfl
  constructor
  · intro h
    exact
      { productGroup := (productGroup_stated hreq).mp (h.productGroup.trans
          (congrArg some hkept.productGroup))
        materials := h.materials.trans (congrArg some hkept.materials)
        manufacturer := h.manufacturer.trans hkept.manufacturer }
  · intro h
    exact
      { productName := hwritten.productName.symm
        productGroup := ((productGroup_stated hreq).mpr h.productGroup).trans
          (congrArg some hkept.productGroup.symm)
        manufacturer := h.manufacturer.trans hkept.manufacturer.symm
        materials := h.materials.trans (congrArg some hkept.materials.symm)
        productGroupData := hwritten.productGroupData.symm
        batchId := hbatch.symm.trans hkept.batchId.symm
        carrierSerial := fun serial hs => (hwritten.carrierSerial serial hs).trans hserial.symm }

end Lookups

section Main

variable {sv : Services} {run : Import sv} {identity : ProductIdentity} {r : Record}
  {req : CreatePassportRequest} {n : ℕ} {call : Call} {f : Record → Record} {news : Vault}

theorem mem_calls : call ∈ run.calls ↔ ∃ n req, (n, req) ∈ run.rows ∧
    call = (n, req, classOf sv run.before req) ∧
      writes (classOf sv run.before req) = true := by
  rw [run.ordered.mem_iff]
  exact mem_toRun run.numbered

theorem target_eq_some {id : PassportId} (hcall : call ∈ run.calls) (h : call.target = some id) :
    ∃ n req identity r, (n, req) ∈ run.rows ∧ call = (n, req, ⟨.updateDraft, some id⟩) ∧
      identityFromRequest req = some identity ∧ findByIdentity run.before identity = some r ∧
        r.status = .draft ∧ ¬Agrees req r ∧ r.id = id := by
  obtain ⟨n, req, hrow, rfl, -⟩ := mem_calls.mp hcall
  unfold Call.target at h
  split_ifs at h with haction
  obtain ⟨identity, r, hreq, hfound, hdraft, hagrees, hclass⟩ := classOf_update haction
  dsimp only at h
  rw [hclass] at h ⊢
  cases h
  exact ⟨n, req, identity, r, hrow, rfl, hreq, hfound, hdraft, hagrees, rfl⟩

theorem run_aimed (run : Import sv) : ∀ call ∈ run.calls, Aimed run.before call := by
  intro call hcall id htarget
  obtain ⟨n, req, identity, r, -, rfl, hreq, hfound, -, -, rfl⟩ := target_eq_some hcall htarget
  obtain ⟨hmem, -, hidentity⟩ := findByIdentity_some hfound
  exact ⟨r, hmem, rfl, hidentity.trans hreq.symm, Option.isSome_iff_exists.mpr ⟨_, hreq⟩⟩

theorem targets_held (run : Import sv) : targets run.calls ⊆ run.before.map Record.id := by
  intro id hid
  obtain ⟨call, hcall, htarget⟩ := List.mem_filterMap.mp hid
  obtain ⟨r, hr, hrid, -⟩ := run_aimed run call hcall id htarget
  exact List.mem_map.mpr ⟨r, hr, hrid⟩

theorem answers_kept (hsplit : Split run.before run.calls run.written run.after f news) :
    ∀ s ∈ run.before, (Record.answers identity ∘ f) s = Record.answers identity s := by
  intro s hs
  obtain ⟨-, hstatus, hidentity⟩ := hsplit.kept s hs
  rw [Function.comp_apply, Record.answers, hstatus, hidentity]
  rfl

theorem find_after_some (hsplit : Split run.before run.calls run.written run.after f news)
    (h : findByIdentity run.before identity = some r) :
    findByIdentity run.after identity = some (f r) := by
  unfold findByIdentity at h ⊢
  rw [hsplit.split, List.find?_append, List.find?_map, List.find?_congr (answers_kept hsplit), h]
  rfl

theorem find_after_none (hsplit : Split run.before run.calls run.written run.after f news)
    (h : findByIdentity run.before identity = none) :
    findByIdentity run.after identity = news.find? fun r => r.identity = some identity := by
  have hnews : ∀ s ∈ news, Record.answers identity s = decide (s.identity = some identity) := by
    intro s hs
    rw [Record.answers, hsplit.drafts s hs]
    rfl
  unfold findByIdentity at h ⊢
  rw [hsplit.split, List.find?_append, List.find?_map, List.find?_congr (answers_kept hsplit), h,
    List.find?_congr hnews]
  rfl

theorem applied_length {before after : Vault} {calls : List Call} {written : List PassportId}
    (h : Applied sv before calls written after) : calls.length = written.length := by
  induction h with
  | nil => rfl
  | cons _ _ ih => rw [List.length_cons, List.length_cons, ih]

/-- The rows of a product without a passport are all created, the first of them first. -/
theorem firstCreate_of_row (hrow : (n, req) ∈ run.rows)
    (hreq : identityFromRequest req = some identity)
    (hfound : findByIdentity run.before identity = none) :
    ∃ first, run.firstCreate identity = some first ∧
      identityFromRequest first.1.req = some identity := by
  have hclass : classOf sv run.before req = ⟨.create, none⟩ := classOf_absent hreq hfound
  have hcall : (n, req, classOf sv run.before req) ∈ run.calls :=
    mem_calls.mpr ⟨n, req, hrow, rfl, by rw [hclass]; rfl⟩
  have hzip : (run.calls.zip run.written).map Prod.fst = run.calls :=
    List.map_fst_zip (applied_length run.applied).le
  rw [← hzip] at hcall
  obtain ⟨pair, hpair, hfst⟩ := List.mem_map.mp hcall
  have hsome : (run.firstCreate identity).isSome := by
    refine List.find?_isSome.mpr ⟨pair, hpair, decide_eq_true ?_⟩
    rw [hfst]
    exact hreq
  obtain ⟨first, hfirst⟩ := Option.isSome_iff_exists.mp hsome
  have hmatch := List.find?_some hfirst
  exact ⟨first, hfirst, of_decide_eq_true hmatch⟩

theorem created_after (hsplit : Split run.before run.calls run.written run.after f news)
    (hfound : findByIdentity run.before identity = none) {first : Call × PassportId}
    (hfirst : run.firstCreate identity = some first) :
    ∃ p, findByIdentity run.after identity = some (.created p) ∧
      CreatedFrom first.1.req first.2 p := by
  rw [find_after_none hsplit hfound]
  refine hsplit.first identity (fun c hc hidentity => ?_) first hfirst
  obtain ⟨n, req, -, rfl, -⟩ := mem_calls.mp hc
  have hclass : classOf sv run.before req = ⟨.create, none⟩ := classOf_absent hidentity hfound
  rw [hclass]
  rfl

theorem again_row (hrow : (n, req) ∈ run.rows) :
    classificationOf run.again n = classOf sv run.after req :=
  classificationOf_row run.numbered hrow

/-- A row is settled when it agrees with the draft that it finds. -/
theorem settled_draft_iff (hreq : identityFromRequest req = some identity)
    (hafter : findByIdentity run.after identity = some r) (hdraft : r.status = .draft) :
    Settled run identity (classOf sv run.after req) ↔ Agrees req r := by
  rw [classOf_found hreq hafter, Settled, unchanged_iff (.inl hdraft)]
  constructor
  · rintro (hagrees | ⟨hconflict, -⟩)
    · exact hagrees
    · by_contra hagrees
      rw [classifyExisting_draft hdraft hagrees] at hconflict
      cases hconflict
  · exact .inl

theorem settled_quiet (h : ∀ row ∈ run.rows, ∀ identity ∈ identityFromRequest row.2,
    Settled run identity (classificationOf run.again row.1)) :
    ∀ call ∈ toRun run.rows run.again, Call.identity call = none := by
  intro call hcall
  obtain ⟨n, req, hrow, rfl, hwrites⟩ := (mem_toRun run.numbered).mp hcall
  cases hreq : identityFromRequest req with
  | none => exact hreq
  | some identity =>
    have hsettled := h (n, req) hrow identity hreq
    rw [again_row hrow] at hsettled
    rcases hsettled with hunchanged | ⟨hconflict, -⟩
    · simp [writes, hunchanged] at hwrites
    · simp [writes, hconflict] at hwrites

theorem mem_rowsOf {rows : Rows} {row : ℕ × CreatePassportRequest} :
    row ∈ rowsOf rows identity ↔ row ∈ rows ∧ identityFromRequest row.2 = some identity := by
  rw [rowsOf, List.mem_filter, decide_eq_true_eq]

theorem idle_of_agrees (hfound : findByIdentity run.before identity = some r)
    (h : r.status = .draft → ∀ row ∈ rowsOf run.rows identity, Agrees row.2 r) :
    r.id ∉ targets run.calls := by
  intro htarget
  obtain ⟨call, hcall, htarget⟩ := List.mem_filterMap.mp htarget
  obtain ⟨n, req, identity', r', hrow, -, hreq, hfound', hdraft, hagrees, hid⟩ :=
    target_eq_some hcall htarget
  obtain ⟨hr, -, hidentity⟩ := findByIdentity_some hfound
  obtain ⟨hr', -, hidentity'⟩ := findByIdentity_some hfound'
  obtain rfl := eq_of_id_eq run.keyed hr' hr hid
  obtain rfl := Option.some.inj (hidentity'.symm.trans hidentity)
  exact hagrees (h hdraft (n, req) (mem_rowsOf.mpr ⟨hrow, hreq⟩))

/-- A row that does not agree with the draft it finds is called to update it. -/
theorem update_called (hrow : (n, req) ∈ rowsOf run.rows identity)
    (hfound : findByIdentity run.before identity = some r) (hdraft : r.status = .draft)
    (hagrees : ¬Agrees req r) : (n, req, ⟨.updateDraft, some r.id⟩) ∈ run.calls := by
  obtain ⟨hmem, hreq⟩ := mem_rowsOf.mp hrow
  have hclass : classOf sv run.before req = ⟨.updateDraft, some r.id⟩ :=
    (classOf_found hreq hfound).trans (classifyExisting_draft hdraft hagrees)
  exact mem_calls.mpr ⟨n, req, hmem, by rw [hclass], by rw [hclass]; rfl⟩

theorem filterMap_inj {α β : Type} {g : α → Option β} {l : List α} {a b : α} {x : β}
    (h : (l.filterMap g).Nodup) (ha : a ∈ l) (hb : b ∈ l) (hga : g a = some x)
    (hgb : g b = some x) : a = b := by
  induction l with
  | nil => cases ha
  | cons c l ih =>
    have hrest : ∀ y ∈ l, g y = some x → x ∈ l.filterMap g := fun y hy hgy =>
      List.mem_filterMap.mpr ⟨y, hy, hgy⟩
    rcases List.mem_cons.mp ha with rfl | ha'
    · rcases List.mem_cons.mp hb with rfl | hb'
      · rfl
      · rw [List.filterMap_cons_some hga, List.nodup_cons] at h
        exact (h.1 (hrest b hb' hgb)).elim
    · rcases List.mem_cons.mp hb with rfl | hb'
      · rw [List.filterMap_cons_some hgb, List.nodup_cons] at h
        exact (h.1 (hrest a ha' hga)).elim
      · refine ih ?_ ha' hb'
        cases hgc : g c with
        | none => rwa [List.filterMap_cons_none hgc] at h
        | some y =>
          rw [List.filterMap_cons_some hgc, List.nodup_cons] at h
          exact h.2

theorem filterMap_nodup {α β : Type} {g : α → Option β} {l : List α} (hl : l.Nodup)
    (h : ∀ a ∈ l, ∀ b ∈ l, ∀ x, g a = some x → g b = some x → a = b) :
    (l.filterMap g).Nodup := by
  refine List.Pairwise.filterMap g ?_ (List.Pairwise.and_mem.mp hl)
  rintro a b ⟨ha, hb, hne⟩ x hx y hy rfl
  exact hne (h a ha b hb x hx hy)

theorem calls_nodup (run : Import sv) : run.calls.Nodup := by
  refine run.ordered.nodup_iff.mpr (List.Nodup.of_map Prod.fst ?_)
  rw [toRun_numbers]
  exact run.numbered.filter _

theorem eq_singleton {α : Type} {l : List α} {a : α} (hl : l.Nodup) (ha : a ∈ l)
    (h : ∀ b ∈ l, b = a) : l = [a] := by
  cases l with
  | nil => cases ha
  | cons c l =>
    obtain rfl := h c List.mem_cons_self
    cases l with
    | nil => rfl
    | cons d l =>
      obtain rfl := h d (List.mem_cons_of_mem _ List.mem_cons_self)
      simp at hl

/-- What two rows agree with an updated draft on, one cannot share with the draft as it was unless
both do. -/
theorem agrees_before {r' : Record} {other : CreatePassportRequest}
    (hkept : Kept r.draft r'.draft) (h : Agrees req r') (hother : Agrees other r')
    (hbefore : Agrees other r) : Agrees req r where
  productName := h.productName.trans (hother.productName.symm.trans hbefore.productName)
  productGroup := h.productGroup.trans (congrArg some hkept.productGroup)
  manufacturer := h.manufacturer.trans hkept.manufacturer
  materials := h.materials.trans (congrArg some hkept.materials)
  productGroupData :=
    h.productGroupData.trans (hother.productGroupData.symm.trans hbefore.productGroupData)
  batchId := h.batchId.trans hkept.batchId
  carrierSerial serial hserial := by
    rw [h.carrierSerial serial hserial, effectiveCarrierSerial, hkept.carrierSerial, hkept.id]
    rfl

theorem drafts_of_converges (hsplit : Split run.before run.calls run.written run.after f news)
    (h : run.Converges) (hfound : findByIdentity run.before identity = some r)
    (hdraft : r.status = .draft) :
    (∀ row ∈ rowsOf run.rows identity,
      (classifyExisting sv.fingerprint row.2 (existingOf r)).action = .unchanged) ∨
    ∃ row, rowsOf run.rows identity = [row] ∧ Amends row.2 r := by
  by_cases hall : ∀ row ∈ rowsOf run.rows identity, Agrees row.2 r
  · exact .inl fun row hrow => (unchanged_iff (.inl hdraft)).mpr (hall row hrow)
  · push Not at hall
    obtain ⟨⟨n, req⟩, hrow, hagrees⟩ := hall
    obtain ⟨hr, -, hidentity⟩ := findByIdentity_some hfound
    have htargets : (targets run.calls).Nodup :=
      (written_nodup_iff run.applied (targets_held run)).mp h.apart
    have hcall := update_called hrow hfound hdraft hagrees
    obtain ⟨hkept, hstatus, -⟩ := hsplit.kept r hr
    have hwritten := hsplit.rewritten htargets r hr _ hcall rfl
    have hafter := find_after_some hsplit hfound
    have hsettled : ∀ row ∈ rowsOf run.rows identity, Agrees row.2 (f r) := by
      intro row hmem
      obtain ⟨hlisted, hreq⟩ := mem_rowsOf.mp hmem
      have hset := h.settled row hlisted identity hreq
      rw [again_row hlisted] at hset
      exact (settled_draft_iff hreq hafter (hstatus.trans hdraft)).mp hset
    have honly : ∀ other ∈ rowsOf run.rows identity, other = (n, req) := by
      rintro ⟨m, other⟩ hother
      have hchanges : ¬Agrees other r := fun hbefore =>
        hagrees (agrees_before hkept (hsettled _ hrow) (hsettled _ hother) hbefore)
      have hsame := filterMap_inj htargets (update_called hother hfound hdraft hchanges) hcall rfl
        rfl
      cases hsame
      rfl
    have hnodup : (rowsOf run.rows identity).Nodup :=
      (List.Nodup.of_map Prod.fst run.numbered).filter _
    refine .inr ⟨(n, req), eq_singleton hnodup hrow honly, ?_⟩
    exact (agrees_updated_iff hidentity (mem_rowsOf.mp hrow).2 hkept hwritten).mp
      (hsettled _ hrow)

theorem creates_of_converges (hsplit : Split run.before run.calls run.written run.after f news)
    (h : run.Converges) (hfound : findByIdentity run.before identity = none)
    {first : Call × PassportId} (hfirst : run.firstCreate identity = some first)
    {row : ℕ × CreatePassportRequest} (hrow : row ∈ rowsOf run.rows identity) :
    Repeats first.1.req row.2 first.2 := by
  obtain ⟨p, hafter, hp⟩ := created_after hsplit hfound hfirst
  obtain ⟨hlisted, hreq⟩ := mem_rowsOf.mp hrow
  have hmatch := List.find?_some hfirst
  have hset := h.settled row hlisted identity hreq
  rw [again_row hlisted] at hset
  exact (agrees_created_iff hp (of_decide_eq_true hmatch) hreq).mp
    ((settled_draft_iff hreq hafter rfl).mp hset)

theorem apart_of_converging (h : run.Converging) : run.written.Nodup := by
  rw [written_nodup_iff run.applied (targets_held run)]
  refine filterMap_nodup (calls_nodup run) fun a ha b hb id hida hidb => ?_
  obtain ⟨n, req, identity, r, hrow, rfl, hreq, hfound, hdraft, hagrees, hid⟩ :=
    target_eq_some ha hida
  obtain ⟨m, other, identity', r', hrow', rfl, hreq', hfound', -, -, hid'⟩ :=
    target_eq_some hb hidb
  obtain ⟨hr, hstatus, hidentity⟩ := findByIdentity_some hfound
  obtain ⟨hr', -, hidentity'⟩ := findByIdentity_some hfound'
  obtain rfl := eq_of_id_eq run.keyed hr' hr (hid'.trans hid.symm)
  obtain rfl := Option.some.inj (hidentity'.symm.trans hidentity)
  have hmem := mem_rowsOf.mpr ⟨hrow, hreq⟩
  have hmem' := mem_rowsOf.mpr ⟨hrow', hreq'⟩
  rcases h.drafts _ _ hfound hdraft with hall | ⟨row, hone, -⟩
  · exact (hagrees ((unchanged_iff hstatus).mp (hall _ hmem))).elim
  · rw [hone, List.mem_singleton] at hmem hmem'
    cases hmem.trans hmem'.symm
    rfl

theorem settled_of_converging (hsplit : Split run.before run.calls run.written run.after f news)
    (h : run.Converging) (hrow : (n, req) ∈ run.rows)
    (hreq : identityFromRequest req = some identity) :
    Settled run identity (classOf sv run.after req) := by
  have hmem := mem_rowsOf.mpr ⟨hrow, hreq⟩
  cases hfound : findByIdentity run.before identity with
  | none =>
    obtain ⟨first, hfirst, hidentity⟩ := firstCreate_of_row hrow hreq hfound
    obtain ⟨p, hafter, hp⟩ := created_after hsplit hfound hfirst
    have hrepeats := h.creates identity hfound first hfirst (n, req) hmem
    exact (settled_draft_iff hreq hafter rfl).mpr
      ((agrees_created_iff hp hidentity hreq).mpr hrepeats)
  | some r =>
    obtain ⟨hr, hstatus, hidentity⟩ := findByIdentity_some hfound
    have hafter := find_after_some hsplit hfound
    rcases hstatus with hdraft | hpublished
    · obtain ⟨hkept, hsame, -⟩ := hsplit.kept r hr
      rw [settled_draft_iff hreq hafter (hsame.trans hdraft)]
      by_cases hagrees : ∀ row ∈ rowsOf run.rows identity, Agrees row.2 r
      · rw [hsplit.idle r hr (idle_of_agrees hfound fun _ => hagrees)]
        exact hagrees _ hmem
      · rcases h.drafts identity r hfound hdraft with hall | ⟨row, hone, hamends⟩
        · exact (hagrees fun row hin => (unchanged_iff (.inl hdraft)).mp (hall row hin)).elim
        · rw [hone] at hagrees
          have hself := hmem
          rw [hone, List.mem_singleton] at hself
          subst hself
          have hchanges : ¬Agrees req r := fun hsame => hagrees (by simpa using hsame)
          have htargets : (targets run.calls).Nodup :=
            (written_nodup_iff run.applied (targets_held run)).mp (apart_of_converging h)
          have hcall := update_called hmem hfound hdraft hchanges
          have hwritten := hsplit.rewritten htargets r hr _ hcall rfl
          exact (agrees_updated_iff hidentity hreq hkept hwritten).mpr hamends
    · have hnodraft : r.status ≠ .draft := by
        rw [hpublished]
        decide
      rw [hsplit.idle r hr (idle_of_agrees hfound fun hdraft => (hnodraft hdraft).elim)] at hafter
      rw [classOf_found hreq hafter]
      by_cases hagrees : Agrees req r
      · exact .inl ((unchanged_iff (.inr hpublished)).mpr hagrees)
      · refine .inr ⟨?_, r, hfound, hpublished⟩
        rw [classifyExisting_published hpublished hagrees]

end Main

section Samples

def identifierJson : PrintedLabels.ProductIdentifier → Json
  | .gs1 gtin => .obj [("gs1", .str gtin)]
  | .identificationLink link => .obj [("identificationLink", .str link)]
  | .did value => .obj [("did", .str value)]

def readIdentifier : Json → Option PrintedLabels.ProductIdentifier
  | .obj [("gs1", .str gtin)] => some (.gs1 gtin)
  | .obj [("identificationLink", .str link)] => some (.identificationLink link)
  | .obj [("did", .str value)] => some (.did value)
  | _ => none

def dataJson (data : ProductGroupData) : Json :=
  .arr [.str data.productGroup, jsonOf identifierJson data.productIdentifier,
    jsonOf .num data.footprint, .obj data.members]

def readData : Json → Except String ProductGroupData
  | .arr [.str group, identifier, .num q, .obj members] =>
    .ok ⟨group, readIdentifier identifier, some q, members⟩
  | .arr [.str group, identifier, .null, .obj members] =>
    .ok ⟨group, readIdentifier identifier, none, members⟩
  | _ => .error "expected product group data"

def plainReaders : Readers := { sampleReaders with productGroupData := readData }

theorem readIdentifier_identifierJson (identifier : PrintedLabels.ProductIdentifier) :
    readIdentifier (identifierJson identifier) = some identifier := by
  cases identifier <;> rfl

theorem readData_dataJson (data : ProductGroupData) : readData (dataJson data) = .ok data := by
  obtain ⟨group, identifier, footprint, members⟩ := data
  cases identifier with
  | none => cases footprint <;> rfl
  | some identifier =>
    have hread := readIdentifier_identifierJson identifier
    cases footprint <;>
      simp [dataJson, readData, jsonOf, hread]

def plainServices : Services where
  node := sampleNode
  readers := plainReaders
  codec := ⟨dataJson, fun _ => .null, .obj, readData_dataJson⟩
  fingerprint := ⟨Comparable, inferInstance, id, Function.injective_id⟩

/-- A row as the textile sheet gives it: with its product group, and without materials. -/
def coatRow : CreatePassportRequest := { sampleRequest with productGroup := some "textile" }

def coat : Draft where
  id := 2
  productName := "Wool coat"
  productGroup := "textile"
  applicableInstruments := []
  manufacturer := sampleManufacturer
  materials := []
  co2ePerUnit := none
  repairabilityScore := none
  complianceResult := none
  lintResult := none
  productGroupData := some sampleData
  personalData := []
  createdAt := 0
  placedOnMarketDate := none
  schemaVersion := "1.1.0"
  batchId := some "B-1"
  supersedesId := none
  derivedFrom := []
  componentRefs := []
  lifeStatus := none
  commodityCode := none
  operatorIdentifier := some "529900T8BM49AURSDO55"
  facility := none
  carrierSerial := none

theorem coat_created :
    (createHandler plainServices.node (stored []) 1 ⟨2, rfl⟩ 0 coatRow).1 = .created coat := by
  decide +kernel

def coatImport : Import plainServices where
  before := []
  rows := [(1, coatRow)]
  calls := [(1, coatRow, ⟨.create, none⟩)]
  written := [2]
  after := [.created coat]
  keyed := by decide
  numbered := by decide
  ordered := by
    have hcalls : toRun [(1, coatRow)] (classify plainServices [] [(1, coatRow)]) =
        [(1, coatRow, ⟨.create, none⟩)] := by
      decide +kernel
    rw [hcalls]
  applied := by
    have hkind : RowAction.create ≠ .updateDraft := by decide
    exact .cons (@Wrote.created plainServices [] (1, coatRow, ⟨.create, none⟩) 1 ⟨2, rfl⟩ 0 coat
      hkind coat_created) (.nil _)

end Samples

end ImportConvergence
