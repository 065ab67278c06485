import DppEngine.DryRuns

/-! What updates of a draft keep of the checks its creation made.

Create checks the body of its request; an update reads its patch field by field and checks what
it reads on its own terms. A draft is put back into a create body to ask whether create would
still take it. -/
namespace PatchedDrafts

open JsonValues CreateRequests DryRuns TransitionSystems FallibleSteps
open DebugTexts (quoted)
open PassportModel (PassportId DppError)
open PassportRequests (patchableFields)

/-- The typed readings of the patched members, with what is wrong with a member that has none. -/
structure Readers where
  productGroupData : Json → Except String ProductGroupData
  componentRefs : Json → Except String (List ComponentRef)
  personalData : Json → Except String Doc

structure Stated where
  productName : Option String
  co2ePerUnit : Option Rat
  repairabilityScore : Option Rat
  productGroupData : Option ProductGroupData
  componentRefs : Option (List ComponentRef)
  personalData : Option Doc

section Update

variable (core : Core) (readers : Readers)

def effectiveCarrierSerial (p : Draft) : String :=
  p.carrierSerial.getD (PassportId.defaultCarrierSerial p.id)

def invalid (message : String) : ServiceError := .validation [⟨"", message⟩]

/-- The printed serial may be repeated, and nothing else stated for it. -/
def checkCarrierSerial (p : Draft) (body : Doc) : Except ServiceError Unit :=
  match body.get "carrierSerial" with
  | none => .ok ()
  | some v =>
    if v.asStr = some (effectiveCarrierSerial p) then .ok ()
    else .error (.validation [⟨"/carrierSerial", "carrierSerial is fixed when the passport is " ++
      "created, and this one prints " ++ quoted (effectiveCarrierSerial p) ++
      ". A different serial needs a new passport."⟩])

def statedData (p : Draft) (body : Doc) : Except ServiceError (Option ProductGroupData) :=
  match body.get "productGroupData" with
  | none => .ok none
  | some v =>
    match readers.productGroupData v with
    | .error e => .error (invalid ("invalid productGroupData: " ++ e))
    | .ok data =>
      match core.validateProductGroupData data with
      | some problem => .error (invalid problem)
      | none =>
        if data.productGroup ≠ p.productGroup then
          .error (invalid ("productGroupData is `" ++ data.productGroup ++ "` and this passport " ++
            "is `" ++ p.productGroup ++ "`. The product group is fixed at creation and selects " ++
            "the disclosure table the public view is filtered and signed under, so it cannot be " ++
            "changed by patching the payload underneath it."))
        else .ok (some data)

def statedRefs (body : Doc) : Except ServiceError (Option (List ComponentRef)) :=
  match body.get "componentRefs" with
  | none => .ok none
  | some v =>
    match readers.componentRefs v with
    | .error e => .error (invalid ("invalid componentRefs: " ++ e))
    | .ok refs =>
      match componentRefsProblem core refs with
      | some problem => .error (invalid problem)
      | none => .ok (some refs)

def statedPersonalData (body : Doc) : Except ServiceError (Option Doc) :=
  match body.get "personalData" with
  | none => .ok none
  | some v =>
    match readers.personalData v with
    | .error e => .error (invalid ("invalid personalData: " ++ e))
    | .ok statements => .ok (some statements)

/-- What `apply_patch` reads out of a patch, in its order. -/
def readPatch (p : Draft) (patch : Json) : Except ServiceError Stated := do
  let .obj body := patch | .error (invalid "patch body must be a JSON object")
  checkCarrierSerial p body
  let productGroupData ← statedData core readers p body
  let componentRefs ← statedRefs core readers body
  let personalData ← statedPersonalData readers body
  return {
    productName := (Doc.get body "productName").bind Json.asStr
    co2ePerUnit := (Doc.get body "co2ePerUnit").bind Json.asNum
    repairabilityScore := (Doc.get body "repairabilityScore").bind Json.asNum
    productGroupData
    componentRefs
    personalData }

def Stated.apply (v : Stated) (p : Draft) : Draft :=
  { p with
    productName := v.productName.getD p.productName
    co2ePerUnit := v.co2ePerUnit.or p.co2ePerUnit
    repairabilityScore := v.repairabilityScore.or p.repairabilityScore
    productGroupData := v.productGroupData.or p.productGroupData
    componentRefs := v.componentRefs.getD p.componentRefs
    personalData := v.personalData.getD p.personalData }

def Stated.applied (v : Stated) : List String :=
  [(v.productName.isSome, "productName"), (v.co2ePerUnit.isSome, "co2ePerUnit"),
    (v.repairabilityScore.isSome, "repairabilityScore"),
    (v.productGroupData.isSome, "productGroupData"), (v.componentRefs.isSome, "componentRefs"),
    (v.personalData.isSome, "personalData")].filterMap fun (set, field) =>
      if set then some field else none

def applyPatch (p : Draft) (patch : Json) : Except ServiceError (Draft × List String) := do
  let v ← readPatch core readers p patch
  return (v.apply p, v.applied)

structure Delta where
  productName : Option String
  co2ePerUnit : Option (Option Rat)
  repairabilityScore : Option (Option Rat)
  productGroupData : Option (Option ProductGroupData)
  componentRefs : Option (List ComponentRef)
  personalData : Option Doc
  lintResult : Option Json

def deltaFor (p : Draft) (applied : List String) : Delta :=
  let set {α : Type} (field : String) (value : α) : Option α :=
    if field ∈ patchableFields ∧ field ∈ applied then some value else none
  { productName := set "productName" p.productName
    co2ePerUnit := set "co2ePerUnit" p.co2ePerUnit
    repairabilityScore := set "repairabilityScore" p.repairabilityScore
    productGroupData := set "productGroupData" p.productGroupData
    componentRefs := set "componentRefs" p.componentRefs
    personalData := set "personalData" p.personalData
    lintResult := none }

def enrichedMetric (before after : Option Rat) : Option (Option Rat) :=
  if after ≠ before then after.map some else none

def patchFields (p : Draft) (delta : Delta) : Draft :=
  { p with
    productName := delta.productName.getD p.productName
    co2ePerUnit := delta.co2ePerUnit.getD p.co2ePerUnit
    repairabilityScore := delta.repairabilityScore.getD p.repairabilityScore
    productGroupData := delta.productGroupData.getD p.productGroupData
    componentRefs := delta.componentRefs.getD p.componentRefs
    personalData := delta.personalData.getD p.personalData
    lintResult := delta.lintResult.or p.lintResult }

def update (lookup : ComponentGuard.Lookup) (now : Int) (p : Draft) (patch : Json) :
    Except ServiceError Draft := do
  let (patched, applied) ← applyPatch core readers p patch
  guardPersonalData core patched
  (ComponentGuard.guardComponentGraph core.edges core.parseUuid lookup p.id
    (patched.componentRefs.map (·.toComponentRef))).mapError .of
  let final := enrich core now patched
  let delta := deltaFor final applied
  return patchFields p
    { delta with
      co2ePerUnit := (enrichedMetric patched.co2ePerUnit final.co2ePerUnit).or delta.co2ePerUnit
      repairabilityScore := (enrichedMetric patched.repairabilityScore
        final.repairabilityScore).or delta.repairabilityScore
      lintResult := final.lintResult }

end Update

section Runs

/-- What a draft holds, put back into the body of a create request. -/
def createBody (p : Draft) : CreatePassportRequest where
  productName := p.productName
  productGroup := some p.productGroup
  manufacturer := p.manufacturer
  materials := some p.materials
  co2ePerUnit := p.co2ePerUnit
  repairabilityScore := p.repairabilityScore
  productGroupData := p.productGroupData
  batchId := p.batchId
  placedOnMarketDate := p.placedOnMarketDate
  schemaVersion := some p.schemaVersion
  commodityCode := p.commodityCode
  supersedesId := p.supersedesId
  derivedFrom := p.derivedFrom
  lifeStatus := p.lifeStatus
  personalData := p.personalData
  componentRefs := p.componentRefs
  carrierSerial := p.carrierSerial

/-- What the store holds beside the draft may change from one request to the next. -/
inductive Event where
  | create (store : Store) (assembledId : PassportId) (id : FreshId store) (now : Int)
      (body : CreatePassportRequest)
  | update (lookup : ComponentGuard.Lookup) (now : Int) (patch : Json)

variable (node : Node) (readers : Readers)

/-- A run is made of the requests that are accepted. -/
def next (s : Option Draft) : Event → Option (Option Draft)
  | .create store assembledId id now body =>
    match s with
    | some _ => none
    | none =>
      match (createHandler node store assembledId id now body).1 with
      | .created p => some (some p)
      | _ => none
  | .update lookup now patch =>
    match s with
    | none => none
    | some p =>
      match update node.core readers lookup now p patch with
      | .ok q => some (some q)
      | .error _ => none

end Runs

section Fields

variable {core : Core} {readers : Readers} {lookup : ComponentGuard.Lookup} {now : Int}
  {p q : Draft} {patch : Json} {v : Stated}

/-- Whether it was stated, held or filled in, the metric that is stored is the final one. -/
theorem metric_written (stated held fill : Option Rat) :
    ((enrichedMetric (stated.or held) ((stated.or held).or fill)).or
      (if stated.isSome then some ((stated.or held).or fill) else none)).getD held =
        (stated.or held).or fill := by
  cases stated <;> cases held <;> cases fill <;> simp [enrichedMetric]

theorem mem_applied (v : Stated) : ("productName" ∈ v.applied ↔ v.productName.isSome) ∧
    ("co2ePerUnit" ∈ v.applied ↔ v.co2ePerUnit.isSome) ∧
    ("repairabilityScore" ∈ v.applied ↔ v.repairabilityScore.isSome) ∧
    ("productGroupData" ∈ v.applied ↔ v.productGroupData.isSome) ∧
    ("componentRefs" ∈ v.applied ↔ v.componentRefs.isSome) ∧
    ("personalData" ∈ v.applied ↔ v.personalData.isSome) := by
  simp [Stated.applied]

structure FixedAlike (p q : Draft) : Prop where
  productGroup : q.productGroup = p.productGroup
  manufacturer : q.manufacturer = p.manufacturer
  batchId : q.batchId = p.batchId
  schemaVersion : q.schemaVersion = p.schemaVersion
  derivedFrom : q.derivedFrom = p.derivedFrom
  lifeStatus : q.lifeStatus = p.lifeStatus
  carrierSerial : q.carrierSerial = p.carrierSerial

/-- What an update stores: the stated values, the metrics filled in where there are none, and the
rest as it was. -/
structure Written (core : Core) (p : Draft) (v : Stated) (q : Draft) : Prop where
  productName : q.productName = v.productName.getD p.productName
  co2ePerUnit : q.co2ePerUnit =
    (v.co2ePerUnit.or p.co2ePerUnit).or ((determined core (v.apply p)).bind (·.co2eScore))
  repairabilityScore : q.repairabilityScore = (v.repairabilityScore.or p.repairabilityScore).or
    ((determined core (v.apply p)).bind (·.repairabilityIndex))
  productGroupData : q.productGroupData = v.productGroupData.or p.productGroupData
  componentRefs : q.componentRefs = v.componentRefs.getD p.componentRefs
  fixed : FixedAlike p q

theorem update_ok (h : update core readers lookup now p patch = .ok q) :
    ∃ v, readPatch core readers p patch = .ok v ∧ Written core p v q := by
  obtain ⟨⟨patched, applied⟩, hpatch, h⟩ := bind_ok h
  obtain ⟨v, hv, hpatched⟩ := bind_ok hpatch
  cases hpatched
  obtain ⟨_, -, h⟩ := bind_ok h
  obtain ⟨_, -, h⟩ := bind_ok h
  cases h
  obtain ⟨hname, hco2e, hscore, hdata, hrefs, -⟩ := mem_applied v
  obtain ⟨_, _, henrich⟩ := enrich_eq core now (v.apply p)
  refine ⟨v, hv, ?_, ?_, ?_, ?_, ?_, ⟨rfl, rfl, rfl, rfl, rfl, rfl, rfl⟩⟩
  · simp only [patchFields, deltaFor, patchableFields, hname, henrich]
    cases hstated : v.productName <;> simp [Stated.apply, hstated]
  · simp only [patchFields, deltaFor, patchableFields, hco2e, henrich]
    simpa [Stated.apply] using metric_written v.co2ePerUnit p.co2ePerUnit _
  · simp only [patchFields, deltaFor, patchableFields, hscore, henrich]
    simpa [Stated.apply] using metric_written v.repairabilityScore p.repairabilityScore _
  · simp only [patchFields, deltaFor, patchableFields, hdata, henrich]
    cases hstated : v.productGroupData <;> simp [Stated.apply, hstated]
  · simp only [patchFields, deltaFor, patchableFields, hrefs, henrich]
    cases hstated : v.componentRefs <;> simp [Stated.apply, hstated]

structure Checked (core : Core) (p : Draft) (v : Stated) : Prop where
  data : ∀ data ∈ v.productGroupData,
    core.validateProductGroupData data = none ∧ data.productGroup = p.productGroup
  refs : ∀ refs ∈ v.componentRefs, componentRefsProblem core refs = none

theorem statedData_ok {body : Doc} {data : ProductGroupData}
    (h : statedData core readers p body = .ok (some data)) :
    core.validateProductGroupData data = none ∧ data.productGroup = p.productGroup := by
  unfold statedData at h
  split at h
  next => cases h
  next =>
    split at h
    next => cases h
    next =>
      split at h
      next => cases h
      next hvalid =>
        split_ifs at h with hgroup
        cases h
        exact ⟨hvalid, not_not.mp hgroup⟩

theorem statedRefs_ok {body : Doc} {refs : List ComponentRef}
    (h : statedRefs core readers body = .ok (some refs)) :
      componentRefsProblem core refs = none := by
  unfold statedRefs at h
  split at h
  next => cases h
  next =>
    split at h
    next => cases h
    next =>
      split at h
      next => cases h
      next hrefs =>
        cases h
        exact hrefs

theorem readPatch_ok (h : readPatch core readers p patch = .ok v) : Checked core p v := by
  unfold readPatch at h
  cases patch with
  | obj body =>
    obtain ⟨_, -, h⟩ := bind_ok h
    obtain ⟨data, hdata, h⟩ := bind_ok h
    obtain ⟨refs, hrefs, h⟩ := bind_ok h
    obtain ⟨_, -, h⟩ := bind_ok h
    cases h
    refine ⟨?_, ?_⟩
    · rintro d rfl
      exact statedData_ok hdata
    · rintro r rfl
      exact statedRefs_ok hrefs
  | _ => cases h

end Fields

section Conformity

variable {core : Core} {readers : Readers} {lookup : ComponentGuard.Lookup} {now : Int}
  {p q : Draft} {patch : Json} {v : Stated}

/-- What a patch states, and what is filled in where nothing is stated or held, is what create
would take. -/
structure Conforms (core : Core) (p : Draft) (v : Stated) : Prop where
  name : ∀ name ∈ v.productName, isBlank name = false ∧ hasUnsafeText name = false
  co2e : co2eProblem v.co2ePerUnit = none
  co2eFilled : v.co2ePerUnit = none → p.co2ePerUnit = none →
    co2eProblem ((determined core (v.apply p)).bind (·.co2eScore)) = none
  repairability : repairabilityProblem v.repairabilityScore = none
  repairabilityFilled : v.repairabilityScore = none → p.repairabilityScore = none →
    repairabilityProblem ((determined core (v.apply p)).bind (·.repairabilityIndex)) = none
  schema : ∀ data ∈ v.productGroupData, validateAgainstSchema core data = none
  serial : ∀ data ∈ v.productGroupData, p.carrierSerial.isSome → hasGtin (some data) = true

theorem refuse_eq_none_iff {c : Bool} {detail : String} : refuse c detail = none ↔ c = false := by
  cases c <;> simp [refuse]

theorem textProblem_eq_none_iff {name : String} {m : ManufacturerInfo} {batchId : Option String} :
    textProblem name m batchId = none ↔
      hasUnsafeText name = false ∧ (textFields "" m batchId).any hasUnsafeText = false := by
  have hempty : hasUnsafeText "" = false := by decide
  simp [textProblem, refuse_eq_none_iff, textFields, hempty]

/-- A metric that is stated, else held, else filled in, passes a check of its value when the stated
one does and the one filled in does where it counts. -/
theorem metric_problem_iff (problem : Option Rat → Option String) (stated fill : Option Rat)
    {held : Option Rat} (hnone : problem none = none) (hheld : problem held = none) :
    problem ((stated.or held).or fill) = none ↔
      problem stated = none ∧ (stated = none → held = none → problem fill = none) := by
  cases stated <;> cases held <;> simp_all

theorem serialProblem_some_iff {serial : String} {data : Option ProductGroupData} :
    serialProblem core (some serial) data = none ↔
      carrierSerialProblem core serial = none ∧ hasGtin data = true := by
  rw [serialProblem, Option.bind_some, Option.or_eq_none_iff, Option.map_eq_none_iff,
    refuse_eq_none_iff, Bool.not_eq_false']

theorem serialProblem_iff {serial : Option String} {data held : Option ProductGroupData}
    (hheld : serialProblem core serial held = none) :
    serialProblem core serial data = none ↔ (serial.isSome → hasGtin data = true) := by
  cases serial with
  | none => exact ⟨fun _ h => (Bool.false_ne_true h).elim, fun _ => rfl⟩
  | some s =>
    rw [serialProblem_some_iff] at hheld ⊢
    simp [hheld.1]

theorem groupProblem_eq_none_iff {group : String} {data : Option ProductGroupData} :
    groupProblem (some group) data = none ↔ ∀ d ∈ data, group = d.productGroup := by
  cases data with
  | none => exact ⟨fun _ d hd => (Option.not_mem_none d hd).elim, fun _ => rfl⟩
  | some d =>
    refine refuse_eq_none_iff.trans ?_
    simp

/-- An update keeps what create checks exactly when what it writes conforms. -/
theorem accepted_iff_conforms (hp : Accepted core (createBody p)) (hchecked : Checked core p v)
    (hw : Written core p v q) : Accepted core (createBody q) ↔ Conforms core p v := by
  obtain ⟨hgroup, hmanufacturer, hbatch, hversion, hderived, hlife, hserial⟩ := hw.fixed
  have hheldCo2e : co2eProblem p.co2ePerUnit = none := hp.co2e
  have hheldRepairability : repairabilityProblem p.repairabilityScore = none := hp.repairability
  have hco2e := metric_problem_iff co2eProblem v.co2ePerUnit
    ((determined core (v.apply p)).bind (·.co2eScore)) rfl hheldCo2e
  have hrepairability := metric_problem_iff repairabilityProblem v.repairabilityScore
    ((determined core (v.apply p)).bind (·.repairabilityIndex)) rfl hheldRepairability
  rw [← hw.co2ePerUnit] at hco2e
  rw [← hw.repairabilityScore] at hrepairability
  have hname : nameProblem q.productName = none ∧
      textProblem q.productName q.manufacturer q.batchId = none ↔
      ∀ name ∈ v.productName, isBlank name = false ∧ hasUnsafeText name = false := by
    have hheld : isBlank p.productName = false ∧ hasUnsafeText p.productName = false ∧
        (textFields "" p.manufacturer p.batchId).any hasUnsafeText = false :=
      ⟨refuse_eq_none_iff.mp hp.name, textProblem_eq_none_iff.mp hp.text⟩
    rw [nameProblem, refuse_eq_none_iff, textProblem_eq_none_iff, hw.productName, hmanufacturer,
      hbatch]
    cases v.productName with
    | none => exact ⟨fun _ name h => (Option.not_mem_none name h).elim, fun _ => hheld⟩
    | some name => simpa using fun _ _ => hheld.2.2
  have hdata : dataProblem core q.productGroupData = none ↔
      ∀ data ∈ v.productGroupData, validateAgainstSchema core data = none := by
    rw [hw.productGroupData]
    cases hstated : v.productGroupData with
    | none => exact ⟨fun _ data h => (Option.not_mem_none data h).elim, fun _ => hp.data⟩
    | some data => simp [dataProblem, (hchecked.data data hstated).1]
  have hgtin : serialProblem core q.carrierSerial q.productGroupData = none ↔
      ∀ data ∈ v.productGroupData, p.carrierSerial.isSome → hasGtin (some data) = true := by
    rw [hserial, hw.productGroupData]
    cases v.productGroupData with
    | none => exact ⟨fun _ data h => (Option.not_mem_none data h).elim, fun _ => hp.serial⟩
    | some data =>
      have hheld : serialProblem core p.carrierSerial p.productGroupData = none := hp.serial
      simpa using serialProblem_iff hheld
  have hagree : groupProblem (some q.productGroup) q.productGroupData = none := by
    rw [groupProblem_eq_none_iff, hgroup, hw.productGroupData]
    cases hstated : v.productGroupData with
    | none => exact groupProblem_eq_none_iff.mp hp.group
    | some data => simpa using (hchecked.data data hstated).2.symm
  have hrefs : componentRefsProblem core q.componentRefs = none := by
    rw [hw.componentRefs]
    cases hstated : v.componentRefs with
    | none => exact hp.componentRefs
    | some refs => exact hchecked.refs refs hstated
  constructor
  · intro h
    exact ⟨hname.mp ⟨h.name, h.text⟩, (hco2e.mp h.co2e).1, (hco2e.mp h.co2e).2,
      (hrepairability.mp h.repairability).1, (hrepairability.mp h.repairability).2,
      hdata.mp h.data, hgtin.mp h.serial⟩
  · intro h
    exact {
      name := (hname.mpr h.name).1
      manufacturer := by
        rw [createBody, hmanufacturer]
        exact hp.manufacturer
      text := (hname.mpr h.name).2
      serial := hgtin.mpr h.serial
      co2e := hco2e.mpr ⟨h.co2e, h.co2eFilled⟩
      repairability := hrepairability.mpr ⟨h.repairability, h.repairabilityFilled⟩
      data := hdata.mpr h.schema
      country := by
        rw [createBody, hmanufacturer]
        exact hp.country
      derivedFrom := by
        rw [createBody, hderived]
        exact hp.derivedFrom
      componentRefs := hrefs
      group := hagree
      schemaVersion := by
        rw [createBody, hversion, hgroup]
        exact hp.schemaVersion
      lifeStatus := by
        rw [createBody, hlife, hgroup]
        exact hp.lifeStatus }

/-- What create fills in where its body states no metric is what it would take. -/
structure FilledInRange (core : Core) (body : CreatePassportRequest) : Prop where
  co2e : body.co2ePerUnit = none → co2eProblem ((derivedCo2e body.productGroupData).or
    ((body.productGroupData.bind fun data =>
      core.compute data body.placedOnMarketDate).bind (·.co2eScore))) = none
  repairability : body.repairabilityScore = none → repairabilityProblem
    ((body.productGroupData.bind fun data =>
      core.compute data body.placedOnMarketDate).bind (·.repairabilityIndex)) = none

theorem filled_problem_iff (problem : Option Rat → Option String) (fill : Option Rat)
    {stated : Option Rat} (hstated : problem stated = none) :
    problem (stated.or fill) = none ↔ (stated = none → problem fill = none) := by
  cases stated <;> simp_all

variable {node : Node} {store : Store} {assembledId : PassportId} {id : FreshId store}
  {body : CreatePassportRequest}

/-- A new draft passes create's checks again exactly when the metrics filled in do. -/
theorem created_accepted_iff
    (h : (createHandler node store assembledId id now body).1 = .created p) :
    Accepted node.core (createBody p) ↔ FilledInRange node.core body := by
  obtain ⟨hbody, draft, hdraft, rfl⟩ := createHandler_created h
  obtain ⟨commodityCode, -, hdraft⟩ := bind_ok hdraft
  cases hdraft
  obtain ⟨complianceResult, lintResult, hrecord⟩ := enrich_eq node.core now _
  rw [recordOf, hrecord]
  have hco2e := filled_problem_iff co2eProblem
    ((derivedCo2e body.productGroupData).or ((body.productGroupData.bind fun data =>
      node.core.compute data body.placedOnMarketDate).bind (·.co2eScore))) hbody.co2e
  have hrepairability := filled_problem_iff repairabilityProblem
    ((body.productGroupData.bind fun data =>
      node.core.compute data body.placedOnMarketDate).bind (·.repairabilityIndex))
    hbody.repairability
  rw [← Option.or_assoc] at hco2e
  constructor
  · intro haccepted
    exact ⟨hco2e.mp haccepted.co2e, hrepairability.mp haccepted.repairability⟩
  · rintro ⟨hfilledCo2e, hfilledRepairability⟩
    have hagree : groupProblem (some (productGroupOf body.productGroup body.productGroupData))
        body.productGroupData = none := by
      rw [groupProblem_eq_none_iff]
      intro data hdata
      have hgroup := hbody.group
      rw [Option.mem_def.mp hdata] at hgroup ⊢
      cases hexplicit : body.productGroup with
      | none => rfl
      | some group =>
        rw [hexplicit] at hgroup
        exact groupProblem_eq_none_iff.mp hgroup data rfl
    exact {
      name := hbody.name
      manufacturer := hbody.manufacturer
      text := hbody.text
      serial := hbody.serial
      co2e := hco2e.mpr hfilledCo2e
      repairability := hrepairability.mpr hfilledRepairability
      data := hbody.data
      country := hbody.country
      derivedFrom := hbody.derivedFrom
      componentRefs := hbody.componentRefs
      group := hagree
      schemaVersion := refuse_eq_none_iff.mpr (by simp [createBody, Draft.stamped, productGroupOf])
      lifeStatus := hbody.lifeStatus }

end Conformity

section Preservation

variable (node : Node) (readers : Readers)

/-- An accepted request states what create would take, and what is filled in for it is that too. -/
def StatesConforming (s : Option Draft) (e : Event) : Prop :=
  (next node readers s e).isSome →
    match e with
    | .create _ _ _ _ body => FilledInRange node.core body
    | .update _ _ patch => ∀ p ∈ s, ∀ v, readPatch node.core readers p patch = .ok v →
        Conforms node.core p v

def PassesCreate (core : Core) (s : Option Draft) : Prop :=
  ∀ p ∈ s, validateCreateRequest core (createBody p) = none

variable {node readers} {s u : Option Draft} {e : Event}

theorem passesCreate_some {core : Core} {p : Draft} :
    PassesCreate core (some p) ↔ Accepted core (createBody p) := by
  simp [PassesCreate, validateCreateRequest_eq_none_iff]

/-- An accepted request keeps what create checks exactly when it conforms. -/
theorem step_passes_iff (hs : PassesCreate node.core s) (h : next node readers s e = some u) :
    PassesCreate node.core u ↔ StatesConforming node readers s e := by
  have haccepted : (next node readers s e).isSome := by simp [h]
  simp only [StatesConforming, haccepted, true_imp_iff]
  cases e with
  | create store assembledId id now body =>
    cases s with
    | some p => cases h
    | none =>
      cases hresponse : (createHandler node store assembledId id now body).1 with
      | created p =>
        simp only [next, hresponse] at h
        cases h
        rw [passesCreate_some]
        exact created_accepted_iff hresponse
      | _ => simp [next, hresponse] at h
  | update lookup now patch =>
    cases s with
    | none => cases h
    | some p =>
      cases hupdate : update node.core readers lookup now p patch with
      | error e => simp [next, hupdate] at h
      | ok q =>
        simp only [next, hupdate] at h
        cases h
        obtain ⟨v, hread, hwritten⟩ := update_ok hupdate
        rw [passesCreate_some] at hs ⊢
        rw [accepted_iff_conforms hs (readPatch_ok hread) hwritten]
        simp [hread]

/-- In a run every draft passes create's checks exactly when every accepted request conforms. -/
theorem checks_kept_iff (node : Node) (readers : Readers) (events : List Event) :
    (∀ before after s, events = before ++ after →
      run (next node readers) none before = some s → PassesCreate node.core s) ↔
    Along (next node readers) (StatesConforming node readers) none events := by
  have hkept (t : Option Draft) (e : Event) (v : Option Draft) (_ : True)
      (_ : next node readers t e = some v) : True := trivial
  refine states_iff_along ?_ trivial hkept
    (fun _ _ _ _ hs h => step_passes_iff hs h) ?_
  · intro p hp
    cases hp
  · intro s e hnext hsome
    rw [hnext] at hsome
    cases hsome

def sampleReaders : Readers where
  productGroupData
    | .obj members => .ok ⟨"textile", none, none, members⟩
    | _ => .error "expected an object"
  componentRefs _ := .ok []
  personalData v := .ok (v.asMembers.getD [])

/-- A coat is created, and then renamed to nothing and given data without its fibres. -/
def blankedCoat : List Event :=
  [.create [] 1 ⟨2, rfl⟩ 0 sampleRequest,
    .update (fun _ => .ok none) 1 (.obj [("productName", .str " "),
      ("repairabilityScore", .num 11), ("productGroupData", .obj [])])]

theorem blanked_coat_fails_create : ¬∀ events before after s, events = before ++ after →
    run (next sampleNode sampleReaders) none before = some s →
      PassesCreate sampleNode.core s := by
  intro h
  have hstate : ((run (next sampleNode sampleReaders) none blankedCoat).bind fun s =>
      s.map fun p => validateCreateRequest sampleNode.core (createBody p)) =
        some (some "productName is required") := by
    decide +kernel
  cases hrun : run (next sampleNode sampleReaders) none blankedCoat with
  | none => simp [hrun] at hstate
  | some s =>
    have hpasses := h blankedCoat blankedCoat [] s (by simp) hrun
    cases s with
    | none => simp [hrun] at hstate
    | some p =>
      have hfails := hpasses p rfl
      simp [hrun, hfails] at hstate

end Preservation

end PatchedDrafts
