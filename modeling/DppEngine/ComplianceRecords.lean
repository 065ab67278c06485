import DppEngine.PassportRequests

/-! The compliance determination stored on a draft, through its creation and any number
of updates.

Creating a draft and updating one both determine compliance from the record in memory.
Create stores what it determined; an update stores the fields its patch applied, and of
the two metrics only a value that was missing. -/
namespace ComplianceRecords

open JsonValues PassportModel StateChangeLog PassportRequests TransitionSystems FallibleSteps

/-- What the registry determines for a product group's data, before the assessment is
stamped with its time. -/
structure Assessment where
  co2eScore : Option Rat
  repairabilityIndex : Option Rat
  result : Doc
  deriving DecidableEq

/-- The registry as a function of the data and the date it was placed on the market. -/
abbrev Registry := Doc → Option Json → Option Assessment

def stampAssessed (now : Int) (result : Doc) : Doc :=
  match result.get "assessedAt" with
  | none => result.insert "assessedAt" (.instant now)
  | some .null => result.insert "assessedAt" (.instant now)
  | some _ => result

def SameAssessment (a b : Doc) : Prop := Doc.SameExcept ["assessedAt"] a b

instance (a b : Doc) : Decidable (SameAssessment a b) :=
  inferInstanceAs (Decidable (Doc.SameExcept _ a b))

def complianceKeys : List String :=
  ["productGroupData", "placedOnMarketDate", "complianceResult", "co2ePerUnit",
    "repairabilityScore"]

/-- What the two operations rely on: a draft of this build is read as it was stored, typed
values serialise as values, and the registry is a function of its inputs. -/
structure Lawful (sv : Services) (registry : Registry) : Prop where
  reads : ∀ doc content, sv.readContent doc = .ok content →
    ∀ k ∈ complianceKeys, content.get k = doc.get k
  payload : ∀ v group payload, sv.readProductGroupData v = .ok (group, payload) →
    ∃ data, payload = .obj data
  carbonFootprint : ∀ kg, sv.carbonFootprint kg ≠ .null
  repairabilityScore : ∀ v, sv.repairabilityScore v ≠ .null
  computes : ∀ now p, sv.compute now p =
    match p.content.get "productGroupData" with
    | some (.obj data) => (registry data (p.content.get "placedOnMarketDate")).map fun a =>
        ⟨a.co2eScore, a.repairabilityIndex, .obj (stampAssessed now a.result)⟩
    | _ => none

section Requests

structure CreateRequest where
  id : PassportId
  productGroup : String
  productGroupData : Option Doc
  co2ePerUnit : Option Rat
  repairabilityScore : Option Rat
  placedOnMarketDate : Option Json
  supersedesId : Option String
  carrierSerial : Option String
  facility : Option Json
  operatorIdentifier : Option String
  rest : Doc
  refusal : Option DppError
  deriving DecidableEq, Repr

def derivedCo2e (data : Doc) : Option Rat :=
  match (data.get "productGroup").bind Json.asStr with
  | some "battery" => (data.get "co2ePerUnitKg").bind Json.asNum
  | some "textile" => (data.get "carbonFootprintKgCo2e").bind Json.asNum
  | _ => none

variable (sv : Services)

def assemblePassport (now : Int) (body : CreateRequest) : Passport where
  id := body.id
  productGroup := body.productGroup
  status := .draft
  supersedesId := body.supersedesId
  carrierSerial := body.carrierSerial
  updatedAt := now
  publishedAt := none
  retentionLocked := false
  retentionUntil := none
  facility := body.facility
  operatorIdentifier := body.operatorIdentifier
  qrCodeUrl := none
  jwsSignature := none
  publicJwsSignature := none
  disclosureSignatures := []
  qualifiedSeal := none
  content :=
    Doc.optional "productGroupData" (body.productGroupData.map .obj) ++
    Doc.optional "co2ePerUnit"
      ((body.co2ePerUnit.or (body.productGroupData.bind derivedCo2e)).map sv.carbonFootprint) ++
    Doc.optional "repairabilityScore" (body.repairabilityScore.map sv.repairabilityScore) ++
    Doc.optional "placedOnMarketDate" body.placedOnMarketDate ++
    body.rest.without complianceKeys

structure Draft where
  row : Row
  co2eStated : Bool
  repairabilityStated : Bool
  deriving DecidableEq, Repr

inductive Event where
  | create (now txNow : Int) (body : CreateRequest)
  | update (now txNow : Int) (patch : Json) (componentGraph : Option DppError)
  deriving Repr

def createDraft (now txNow : Int) (body : CreateRequest) : Except DppError Row := do
  refuseWith body.refusal
  insertPassportInTx none (applyLint sv (applyCompliance sv now (assemblePassport sv now body)))
    txNow

def updateDraft (row : Row) (now txNow : Int) (patch : Json) (componentGraph : Option DppError) :
    Except DppError Row := do
  let p ← readDoc sv.readContent row
  let delta ← update sv now p patch componentGraph
  patchInTx sv.readContent sv.isProtectedPatchField (some row) row.id delta txNow

def stated (patch : Json) (key : String) : Option Rat :=
  match patch with
  | .obj body => (Doc.get body key).bind Json.asNum
  | _ => none

/-- A request that is refused leaves the draft as it was. -/
def next (s : Option Draft) : Event → Option (Option Draft)
  | .create now txNow body =>
    match s with
    | some _ => none
    | none =>
      match createDraft sv now txNow body with
      | .error _ => some none
      | .ok row => some (some ⟨row, body.co2ePerUnit.isSome, body.repairabilityScore.isSome⟩)
  | .update now txNow patch componentGraph =>
    match s with
    | none => some none
    | some d =>
      match updateDraft sv d.row now txNow patch componentGraph with
      | .error _ => some (some d)
      | .ok row => some (some ⟨row, d.co2eStated || (stated patch "co2ePerUnit").isSome,
          d.repairabilityStated || (stated patch "repairabilityScore").isSome⟩)

end Requests

section Patches

variable {sv : Services} {p q r : Passport} {patch : Json} {body : Doc} {applied : List String}
  {key : String}

def patchedData (sv : Services) (patch : Json) : Option Json :=
  match patch with
  | .obj body => (Doc.get body "productGroupData").bind fun v =>
      (sv.readProductGroupData v).toOption.map Prod.snd
  | _ => none

/-- One field of a patch: written where it has a value, and nothing else is. -/
structure FieldPatched (key : String) (value : Option Json) (p q : Passport)
    (applied : List String) : Prop where
  written : q.content.get key = value.or (p.content.get key)
  kept : ∀ k, k ≠ key → q.content.get k = p.content.get k
  mem_applied : ∀ f, f ∈ applied ↔ f = key ∧ value.isSome = true

theorem fieldPatched_none : FieldPatched key none p p [] where
  written := rfl
  kept _ _ := rfl
  mem_applied := by simp

theorem fieldPatched_set (v : Json) : FieldPatched key (some v) p (Passport.set p key v) [key] where
  written := by simp [Passport.set]
  kept k hk := by simp [Passport.set, hk]
  mem_applied := by simp

/-- The six fields are applied one after the other, each to what the ones before it left. -/
theorem applyPatch_steps (h : applyPatch sv p patch = .ok (q, applied)) :
    ∃ p₁ p₂ p₃ p₄ p₅ name refs statements a b c d e f,
      FieldPatched "productName" name p p₁ a ∧
      FieldPatched "co2ePerUnit" ((stated patch "co2ePerUnit").map sv.carbonFootprint) p₁ p₂ b ∧
      FieldPatched "repairabilityScore"
        ((stated patch "repairabilityScore").map sv.repairabilityScore) p₂ p₃ c ∧
      FieldPatched "productGroupData" (patchedData sv patch) p₃ p₄ d ∧
      FieldPatched "componentRefs" refs p₄ p₅ e ∧ FieldPatched "personalData" statements p₅ q f ∧
      applied = a ++ b ++ c ++ d ++ e ++ f := by
  unfold applyPatch at h
  split at h
  · rename_i body
    -- the serial is only checked
    extract_lets -lift rest at h
    have hrest : rest () = .ok (q, applied) := by
      split at h
      · exact h
      · split_ifs at h
        · cases h
        · exact h
    clear h
    unfold rest at hrest
    clear_value rest
    clear rest
    split at hrest
    rename_i p₁ a hname
    split at hrest
    rename_i p₂ b hco2e
    split at hrest
    rename_i p₃ c hrepair
    extract_lets -lift rest at hrest
    have hdata : ∃ x, rest x = .ok (q, applied) ∧
        FieldPatched "productGroupData" (patchedData sv (.obj body)) p₃ x.1 x.2 := by
      split at hrest
      · rename_i hget
        refine ⟨(p₃, []), hrest, ?_⟩
        rw [patchedData, hget]
        exact fieldPatched_none
      · rename_i v hget
        obtain ⟨⟨group, payload⟩, hread, hrest⟩ := bind_ok hrest
        dsimp -zeta only at hrest
        split_ifs at hrest
        · cases hrest
        · refine ⟨(Passport.set p₃ "productGroupData" payload, ["productGroupData"]), hrest, ?_⟩
          rw [patchedData, hget, Option.bind_some, hread]
          exact fieldPatched_set payload
    clear hrest
    obtain ⟨⟨p₄, d⟩, hrest, hd⟩ := hdata
    unfold rest at hrest
    clear_value rest
    clear rest
    dsimp -zeta only at hrest
    extract_lets -lift rest at hrest
    have hrefs : ∃ x refs, rest x = .ok (q, applied) ∧
        FieldPatched "componentRefs" refs p₄ x.1 x.2 := by
      split at hrest
      · exact ⟨(p₄, []), none, hrest, fieldPatched_none⟩
      · obtain ⟨refs, -, hrest⟩ := bind_ok hrest
        exact ⟨_, _, hrest, fieldPatched_set (.arr refs)⟩
    clear hrest
    obtain ⟨⟨p₅, e⟩, refs, hrest, he⟩ := hrefs
    unfold rest at hrest
    clear_value rest
    clear rest
    dsimp -zeta only at hrest
    extract_lets -lift rest at hrest
    have hpersonal : ∃ x statements, rest x = .ok (q, applied) ∧
        FieldPatched "personalData" statements p₅ x.1 x.2 := by
      split at hrest
      · exact ⟨(p₅, []), none, hrest, fieldPatched_none⟩
      · obtain ⟨statements, -, hrest⟩ := bind_ok hrest
        exact ⟨_, _, hrest, fieldPatched_set (.obj statements)⟩
    clear hrest
    obtain ⟨⟨p₆, f⟩, statements, hrest, hf⟩ := hpersonal
    cases hrest
    have ha : ∃ name, FieldPatched "productName" name p p₁ a := by
      split at hname
      · cases hname
        exact ⟨_, fieldPatched_set _⟩
      · cases hname
        exact ⟨_, fieldPatched_none⟩
    obtain ⟨name, ha⟩ := ha
    refine ⟨p₁, p₂, p₃, p₄, p₅, name, refs, statements, a, b, c, d, e, f, ha, ?_, ?_, hd, he, hf,
      rfl⟩
    · split at hco2e
      · rename_i v hv
        cases hco2e
        rw [stated, hv]
        exact fieldPatched_set _
      · rename_i hv
        cases hco2e
        rw [stated, hv]
        exact fieldPatched_none
    · split at hrepair
      · rename_i v hv
        cases hrepair
        rw [stated, hv]
        exact fieldPatched_set _
      · rename_i hv
        cases hrepair
        rw [stated, hv]
        exact fieldPatched_none
  · cases h

structure Patched (sv : Services) (patch : Json) (p q : Passport) (applied : List String) :
    Prop where
  kept : ∀ k, k ∉ patchableFields → q.content.get k = p.content.get k
  co2e : q.content.get "co2ePerUnit" =
    ((stated patch "co2ePerUnit").map sv.carbonFootprint).or (p.content.get "co2ePerUnit")
  repairability : q.content.get "repairabilityScore" =
    ((stated patch "repairabilityScore").map sv.repairabilityScore).or
      (p.content.get "repairabilityScore")
  data : q.content.get "productGroupData" =
    (patchedData sv patch).or (p.content.get "productGroupData")
  co2e_applied : "co2ePerUnit" ∈ applied ↔ (stated patch "co2ePerUnit").isSome = true
  repairability_applied :
    "repairabilityScore" ∈ applied ↔ (stated patch "repairabilityScore").isSome = true
  data_applied : "productGroupData" ∈ applied ↔ (patchedData sv patch).isSome = true

theorem applyPatch_ok (h : applyPatch sv p patch = .ok (q, applied)) :
    Patched sv patch p q applied := by
  obtain ⟨p₁, p₂, p₃, p₄, p₅, name, refs, statements, a, b, c, d, e, f, ha, hb, hc, hd, he, hf,
    rfl⟩ := applyPatch_steps h
  constructor
  · intro k hk
    simp only [patchableFields, List.mem_cons, List.not_mem_nil, or_false, not_or] at hk
    rw [hf.kept k hk.2.2.2.2.2, he.kept k hk.2.2.2.2.1, hd.kept k hk.2.2.2.1, hc.kept k hk.2.2.1,
      hb.kept k hk.2.1, ha.kept k hk.1]
  · rw [hf.kept _ (by decide), he.kept _ (by decide), hd.kept _ (by decide),
      hc.kept _ (by decide), hb.written, ha.kept _ (by decide)]
  · rw [hf.kept _ (by decide), he.kept _ (by decide), hd.kept _ (by decide), hc.written,
      hb.kept _ (by decide), ha.kept _ (by decide)]
  · rw [hf.kept _ (by decide), he.kept _ (by decide), hd.written, hc.kept _ (by decide),
      hb.kept _ (by decide), ha.kept _ (by decide)]
  · simp [ha.mem_applied, hb.mem_applied, hc.mem_applied, hd.mem_applied, he.mem_applied,
      hf.mem_applied]
  · simp [ha.mem_applied, hb.mem_applied, hc.mem_applied, hd.mem_applied, he.mem_applied,
      hf.mem_applied]
  · simp [ha.mem_applied, hb.mem_applied, hc.mem_applied, hd.mem_applied, he.mem_applied,
      hf.mem_applied]

end Patches

section Determinations

variable {sv : Services} {registry : Registry} {p q : Passport} {now : Int} {doc delta : Doc}
  {key k : String}

def determination (registry : Registry) (doc : Doc) : Option Assessment :=
  match doc.get "productGroupData" with
  | some (.obj data) => registry data (doc.get "placedOnMarketDate")
  | _ => none

theorem determination_congr (registry : Registry) {a b : Doc}
    (hdata : a.get "productGroupData" = b.get "productGroupData")
    (hdate : a.get "placedOnMarketDate" = b.get "placedOnMarketDate") :
    determination registry a = determination registry b := by
  simp only [determination, hdata, hdate]

theorem backfill_get (value : Option Json) :
    (backfill p key value).content.get k =
      if k = key then (p.content.get key).or value else p.content.get k := by
  unfold backfill
  cases hstored : p.content.get key with
  | some v =>
    by_cases hk : k = key
    · simp [hk, hstored]
    · simp [hk]
  | none =>
    cases value with
    | none =>
      by_cases hk : k = key
      · simp [hk, hstored]
      · simp [hk]
    | some v => simp [Passport.set]

theorem applyLint_get (hk : k ≠ "lintResult") :
    (applyLint sv p).content.get k = p.content.get k := by
  unfold applyLint
  split
  · simp [Passport.set, hk]
  · rfl

/-- Enrichment fills in the metrics that are missing, and the determination of the record
as it stands. -/
theorem applyCompliance_get (h : Lawful sv registry) :
    (applyCompliance sv now p).content.get k =
      match determination registry p.content with
      | none => p.content.get k
      | some a =>
        if k = "complianceResult" then some (.obj (stampAssessed now a.result))
        else if k = "repairabilityScore" then
          (p.content.get k).or (a.repairabilityIndex.map sv.repairabilityScore)
        else if k = "co2ePerUnit" then (p.content.get k).or (a.co2eScore.map sv.carbonFootprint)
        else p.content.get k := by
  unfold applyCompliance
  rw [h.computes, determination]
  cases hdata : p.content.get "productGroupData" with
  | none => simp [hasProductGroupData, hdata]
  | some v =>
    cases v with
    | obj data =>
      have hhas : hasProductGroupData p = true := by simp [hasProductGroupData, hdata]
      rw [if_pos hhas]
      cases hregistry : registry data (p.content.get "placedOnMarketDate") with
      | none => simp [hregistry]
      | some a =>
        simp only [hregistry, Option.map_some]
        by_cases hresult : k = "complianceResult"
        · simp [Passport.set, hresult]
        rw [if_neg hresult]
        simp only [Passport.set, Doc.get_insert, if_neg hresult, backfill_get]
        by_cases hrepair : k = "repairabilityScore"
        · simp [hrepair]
        · by_cases hco2e : k = "co2ePerUnit"
          · simp [hco2e]
          · simp [hrepair, hco2e]
    | null => simp [hasProductGroupData, hdata]
    | bool b => simp [hasProductGroupData, hdata]
    | num n => simp [hasProductGroupData, hdata]
    | str t => simp [hasProductGroupData, hdata]
    | instant t => simp [hasProductGroupData, hdata]
    | arr items => simp [hasProductGroupData, hdata]

theorem applyDelta_append {a b : Doc} : applyDelta doc (a ++ b) = applyDelta (applyDelta doc a) b :=
  List.foldl_append

theorem applyDelta_cons_get {v : Json} (hv : v ≠ .null) :
    (applyDelta doc [(key, v)]).get k = if k = key then some v else doc.get k := by
  simp [applyDelta, hv]

theorem applyDelta_optional_get {value : Option Json} (hvalue : value ≠ some .null) :
    (applyDelta doc (Doc.optional key value)).get k =
      if k = key then value.or (doc.get key) else doc.get k := by
  cases value with
  | none =>
    by_cases hk : k = key
    · simp [Doc.optional, applyDelta, hk]
    · simp [Doc.optional, applyDelta, hk]
  | some v =>
    have hv : v ≠ .null := fun h => hvalue (congrArg some h)
    change (applyDelta doc [(key, v)]).get k = _
    rw [applyDelta_cons_get hv, Option.some_or]

theorem applyDelta_fields_get {fields : List String} {value : String → Json}
    (hvalue : k ∈ fields → value k ≠ .null) :
    (applyDelta doc (fields.map fun f => (f, value f))).get k =
      if k ∈ fields then some (value k) else doc.get k := by
  induction fields generalizing doc with
  | nil => simp [applyDelta]
  | cons f fields ih =>
    rw [List.map_cons, ← List.singleton_append, applyDelta_append,
      ih fun hk => hvalue (List.mem_cons_of_mem _ hk)]
    by_cases hrest : k ∈ fields
    · simp [hrest]
    · by_cases hk : k = f
      · subst hk
        have hv := hvalue List.mem_cons_self
        simp [hrest, applyDelta_cons_get hv]
      · rw [if_neg hrest, if_neg (by simp [hk, hrest])]
        exact applyDelta_get (by simpa using fun h => hk h.symm)

theorem applyDelta_enriched_get
    (hvalue : q.content.get key ≠ p.content.get key → q.content.get key ≠ some .null) :
    (applyDelta doc (enriched p q key)).get k =
      if k = key ∧ q.content.get key ≠ p.content.get key then
        (q.content.get key).or (doc.get key)
      else doc.get k := by
  unfold enriched
  by_cases hchanged : q.content.get key = p.content.get key
  · simp [hchanged, applyDelta]
  · rw [if_pos hchanged, applyDelta_optional_get (hvalue hchanged)]
    by_cases hk : k = key
    · simp [hk, hchanged]
    · simp [hk]

theorem patchable_get {final : Passport} {applied : List String} {value fill : Option Json}
    (hkey : key ∈ patchableFields) (happlied : key ∈ applied ↔ value.isSome = true)
    (hvalue : value ≠ some .null)
    (hpatched : q.content.get key = value.or (doc.get key))
    (hfinal : final.content.get key = (q.content.get key).or fill) :
    (if final.content.get key ≠ q.content.get key then
      (final.content.get key).or ((applyDelta doc (deltaFor final applied)).get key)
      else (applyDelta doc (deltaFor final applied)).get key) = final.content.get key := by
  have hsent : (applyDelta doc (deltaFor final applied)).get key = value.or (doc.get key) := by
    cases value with
    | none =>
      have hno : key ∉ applied := by simpa using happlied
      rw [deltaFor, applyDelta_fields_get (by simp [hno]), if_neg (by simp [hno]), Option.none_or]
    | some v =>
      have hyes : key ∈ patchableFields.filter (· ∈ applied) := by
        simpa [hkey] using happlied
      have hfield : fieldJson final key = v := by
        rw [fieldJson, hfinal, hpatched]
        rfl
      have hv : v ≠ .null := fun h => hvalue (congrArg some h)
      rw [deltaFor, applyDelta_fields_get (fun _ => hfield.symm ▸ hv), if_pos hyes, hfield,
        Option.some_or]
  rw [hsent, ← hpatched, hfinal]
  cases hq : q.content.get key with
  | some w => simp
  | none =>
    cases fill with
    | none => simp
    | some w => simp

structure Updated (sv : Services) (registry : Registry) (patch : Json) (doc doc' : Doc) :
    Prop where
  result : doc'.get "complianceResult" = doc.get "complianceResult"
  date : doc'.get "placedOnMarketDate" = doc.get "placedOnMarketDate"
  data : doc'.get "productGroupData" =
    (patchedData sv patch).or (doc.get "productGroupData")
  co2e : doc'.get "co2ePerUnit" =
    (((stated patch "co2ePerUnit").map sv.carbonFootprint).or (doc.get "co2ePerUnit")).or
      ((determination registry doc').bind fun a => a.co2eScore.map sv.carbonFootprint)
  repairability : doc'.get "repairabilityScore" =
    (((stated patch "repairabilityScore").map sv.repairabilityScore).or
      (doc.get "repairabilityScore")).or
      ((determination registry doc').bind fun a =>
        a.repairabilityIndex.map sv.repairabilityScore)

theorem or_ne_left {α : Type} {a b : Option α} (h : a.or b ≠ a) : a.or b = b := by
  cases a with
  | none => rfl
  | some v => exact absurd rfl h

structure Filled (sv : Services) (registry : Registry) (q final : Passport) : Prop where
  co2e : final.content.get "co2ePerUnit" = (q.content.get "co2ePerUnit").or
    ((determination registry q.content).bind fun a => a.co2eScore.map sv.carbonFootprint)
  repairability : final.content.get "repairabilityScore" =
    (q.content.get "repairabilityScore").or ((determination registry q.content).bind fun a =>
      a.repairabilityIndex.map sv.repairabilityScore)
  data : final.content.get "productGroupData" = (q.content.get "productGroupData").or none

theorem applyLint_filled (h : Lawful sv registry) :
    Filled sv registry q (applyLint sv (applyCompliance sv now q)) := by
  constructor
  · rw [applyLint_get (by decide), applyCompliance_get h]
    cases determination registry q.content <;> simp
  · rw [applyLint_get (by decide), applyCompliance_get h]
    cases determination registry q.content <;> simp
  · rw [applyLint_get (by decide), applyCompliance_get h, Option.or_none]
    cases determination registry q.content <;> simp

section Deltas

variable {final : Passport} {applied : List String}

theorem Filled.co2e_ne_null (hfilled : Filled sv registry q final) (h : Lawful sv registry)
    (hchanged : final.content.get "co2ePerUnit" ≠ q.content.get "co2ePerUnit") :
    final.content.get "co2ePerUnit" ≠ some .null := by
  rw [hfilled.co2e] at hchanged ⊢
  rw [or_ne_left hchanged]
  cases determination registry q.content with
  | none => simp
  | some a => simpa using fun kg _ => h.carbonFootprint kg

theorem Filled.repairability_ne_null (hfilled : Filled sv registry q final)
    (h : Lawful sv registry)
    (hchanged : final.content.get "repairabilityScore" ≠ q.content.get "repairabilityScore") :
    final.content.get "repairabilityScore" ≠ some .null := by
  rw [hfilled.repairability] at hchanged ⊢
  rw [or_ne_left hchanged]
  cases determination registry q.content with
  | none => simp
  | some a => simpa using fun v _ => h.repairabilityScore v

/-- The delta of an update, member by member: what was applied, then what enrichment
changed. -/
theorem delta_get (hfilled : Filled sv registry q final) (h : Lawful sv registry)
    (hk : k ≠ "lintResult") :
    (applyDelta doc (deltaFor final applied ++ enriched q final "co2ePerUnit" ++
      enriched q final "repairabilityScore" ++
      Doc.optional "lintResult" (final.content.get "lintResult"))).get k =
    if k ∈ ["co2ePerUnit", "repairabilityScore"] ∧ final.content.get k ≠ q.content.get k then
      (final.content.get k).or ((applyDelta doc (deltaFor final applied)).get k)
    else (applyDelta doc (deltaFor final applied)).get k := by
  have hlint : ∀ m ∈ Doc.optional "lintResult" (final.content.get "lintResult"), m.1 ≠ k := by
    intro m hm heq
    obtain ⟨v, -, rfl⟩ := Option.map_eq_some_iff.mp (Option.mem_toList.mp hm)
    exact hk heq.symm
  rw [applyDelta_append, applyDelta_append, applyDelta_append, applyDelta_get hlint,
    applyDelta_enriched_get (hfilled.repairability_ne_null h),
    applyDelta_enriched_get (hfilled.co2e_ne_null h),
    applyDelta_enriched_get (hfilled.co2e_ne_null h)]
  by_cases hco2e : k = "co2ePerUnit"
  · subst hco2e
    simp
  · by_cases hrepair : k = "repairabilityScore"
    · subst hrepair
      simp
    · simp [hco2e, hrepair]

theorem delta_kept (doc : Doc) (applied : List String) (hfilled : Filled sv registry q final)
    (h : Lawful sv registry)
    (hk : k ∉ patchableFields) (hlint : k ≠ "lintResult") :
    (applyDelta doc (deltaFor final applied ++ enriched q final "co2ePerUnit" ++
      enriched q final "repairabilityScore" ++
      Doc.optional "lintResult" (final.content.get "lintResult"))).get k = doc.get k := by
  have hmetrics : k ∉ ["co2ePerUnit", "repairabilityScore"] := fun hmem =>
    hk ((by decide : ∀ k ∈ ["co2ePerUnit", "repairabilityScore"], k ∈ patchableFields) k hmem)
  have hfields : k ∉ patchableFields.filter (· ∈ applied) :=
    fun hmem => hk (List.mem_filter.mp hmem).1
  rw [delta_get hfilled h hlint, if_neg (fun hc => hmetrics hc.1), deltaFor,
    applyDelta_fields_get (fun hmem => absurd hmem hfields), if_neg hfields]

theorem delta_metric (hfilled : Filled sv registry q final) (h : Lawful sv registry)
    {value fill : Option Json} (hkey : key ∈ ["co2ePerUnit", "repairabilityScore"])
    (happlied : key ∈ applied ↔ value.isSome = true) (hvalue : value ≠ some .null)
    (hpatched : q.content.get key = value.or (doc.get key))
    (hfinal : final.content.get key = (q.content.get key).or fill) :
    (applyDelta doc (deltaFor final applied ++ enriched q final "co2ePerUnit" ++
      enriched q final "repairabilityScore" ++
      Doc.optional "lintResult" (final.content.get "lintResult"))).get key =
      final.content.get key := by
  obtain ⟨hpatchable, hlint⟩ : key ∈ patchableFields ∧ key ≠ "lintResult" :=
    (by decide : ∀ k ∈ ["co2ePerUnit", "repairabilityScore"],
      k ∈ patchableFields ∧ k ≠ "lintResult") key hkey
  have hmember := patchable_get hpatchable happlied hvalue hpatched hfinal
  rw [delta_get hfilled h hlint]
  simpa only [hkey, true_and] using hmember

theorem delta_data (hfilled : Filled sv registry q final) (h : Lawful sv registry)
    {value : Option Json} (happlied : "productGroupData" ∈ applied ↔ value.isSome = true)
    (hvalue : value ≠ some .null)
    (hpatched : q.content.get "productGroupData" = value.or (doc.get "productGroupData")) :
    (applyDelta doc (deltaFor final applied ++ enriched q final "co2ePerUnit" ++
      enriched q final "repairabilityScore" ++
      Doc.optional "lintResult" (final.content.get "lintResult"))).get "productGroupData" =
      q.content.get "productGroupData" := by
  have hsame : final.content.get "productGroupData" = q.content.get "productGroupData" := by
    rw [hfilled.data, Option.or_none]
  have hsent := patchable_get (by decide) happlied hvalue hpatched hfilled.data
  rw [if_neg (not_not.mpr hsame), hsame] at hsent
  rw [delta_get hfilled h (by decide), if_neg (by simp), hsent]

end Deltas

theorem patchedData_obj (h : Lawful sv registry) {patch payload : Json}
    (hdata : patchedData sv patch = some payload) : ∃ data, payload = .obj data := by
  cases patch with
  | obj body =>
    obtain ⟨v, -, hread⟩ := Option.bind_eq_some_iff.mp hdata
    obtain ⟨⟨group, payload'⟩, hok, rfl⟩ := Option.map_eq_some_iff.mp hread
    cases hresult : sv.readProductGroupData v with
    | error e => simp [hresult, Except.toOption] at hok
    | ok x =>
      obtain ⟨data, hobj⟩ := h.payload v x.1 x.2 hresult
      have hx : x = (group, payload') := by simpa [hresult, Except.toOption] using hok
      exact ⟨data, by rw [hx] at hobj; exact hobj⟩
  | _ => cases hdata

theorem patchedData_ne_null (h : Lawful sv registry) (patch : Json) :
    patchedData sv patch ≠ some .null := by
  intro hdata
  obtain ⟨data, hobj⟩ := patchedData_obj h hdata
  cases hobj

theorem update_ok (h : Lawful sv registry) {patch : Json} {componentGraph : Option DppError}
    (hread : ∀ k ∈ complianceKeys, p.content.get k = doc.get k)
    (hupdate : update sv now p patch componentGraph = .ok delta) :
    Updated sv registry patch doc (applyDelta doc delta) := by
  obtain ⟨_, -, hupdate⟩ := bind_ok hupdate
  obtain ⟨⟨q, applied⟩, happly, hupdate⟩ := bind_ok hupdate
  obtain ⟨_, -, hupdate⟩ := bind_ok hupdate
  obtain ⟨_, -, hupdate⟩ := bind_ok hupdate
  have hpatched := applyPatch_ok happly
  have hfilled : Filled sv registry q (applyLint sv (applyCompliance sv now q)) :=
    applyLint_filled h
  cases hupdate
  generalize applyLint sv (applyCompliance sv now q) = final at hfilled ⊢
  have hco2e := hpatched.co2e
  rw [hread _ (by decide)] at hco2e
  have hrepair := hpatched.repairability
  rw [hread _ (by decide)] at hrepair
  have hdata := hpatched.data
  rw [hread _ (by decide)] at hdata
  have hsent := delta_data hfilled h hpatched.data_applied (patchedData_ne_null h patch) hdata
  have hdate := delta_kept doc applied hfilled h
    (show "placedOnMarketDate" ∉ patchableFields by decide) (by decide)
  -- the registry is asked about the data and the date that are stored in the end
  have hdetermined := determination_congr registry hsent
    (hdate.trans ((hread _ (by decide)).symm.trans (hpatched.kept _ (by decide)).symm))
  refine ⟨delta_kept doc applied hfilled h (by decide) (by decide), hdate, hsent.trans hdata, ?_,
    ?_⟩
  · rw [hdetermined, ← hco2e, ← hfilled.co2e]
    refine delta_metric hfilled h (by decide) ?_ ?_ hco2e hfilled.co2e
    · rw [hpatched.co2e_applied, Option.isSome_map]
    · simpa using fun kg _ => h.carbonFootprint kg
  · rw [hdetermined, ← hrepair, ← hfilled.repairability]
    refine delta_metric hfilled h (by decide) ?_ ?_ hrepair hfilled.repairability
    · rw [hpatched.repairability_applied, Option.isSome_map]
    · simpa using fun v _ => h.repairabilityScore v

end Determinations

section Drafts

variable {sv : Services} {registry : Registry} {p : Passport} {row row' : Row} {now txNow : Int}
  {patch : Json} {componentGraph : Option DppError} {body : CreateRequest} {k : String}

theorem readDoc_get (h : Lawful sv registry) (hread : readDoc sv.readContent row = .ok p)
    (hk : k ∈ complianceKeys) : p.content.get k = row.doc.get k := by
  have hok : sv.readContent (row.doc.only contentKeys) = .ok p.content :=
    (fromStored_readFrom hread).content
  have hkey : k ∈ contentKeys := (by decide : ∀ k ∈ complianceKeys, k ∈ contentKeys) k hk
  rw [h.reads _ _ hok k hk, Doc.get_only, if_pos hkey]

theorem updateDraft_ok (h : Lawful sv registry)
    (hupdate : updateDraft sv row now txNow patch componentGraph = .ok row') :
    Updated sv registry patch row.doc row'.doc := by
  obtain ⟨p, hread, hupdate⟩ := bind_ok hupdate
  obtain ⟨delta, hdelta, hupdate⟩ := bind_ok hupdate
  obtain ⟨_, -, hupdate⟩ := bind_ok hupdate
  obtain ⟨_, -, hupdate⟩ := bind_ok hupdate
  obtain ⟨_, -, hupdate⟩ := bind_ok hupdate
  cases hupdate
  exact update_ok h (fun k hk => readDoc_get h hread hk) hdelta

theorem toDoc_get_compliance (hk : k ∈ complianceKeys) : p.toDoc.get k = p.content.get k := by
  have hkeys : ∀ k ∈ complianceKeys, k ∉ typedKeys ∧ k ∈ contentKeys ∧ k ∉ omittedWhenEmpty := by
    decide
  obtain ⟨htyped, hcontent, homitted⟩ := hkeys k hk
  have hmembers : p.typedMembers.get k = none := by
    simp only [typedKeys, List.mem_cons, List.not_mem_nil, or_false, not_or] at htyped
    simp [Passport.typedMembers, htyped]
  have hserialised : Doc.get (p.content.filter fun m => p.serialises m.1) k = p.content.get k := by
    rw [Doc.get_filter_key, if_pos (by simp [Passport.serialises, hcontent, homitted])]
  rw [Passport.toDoc, Doc.get_append, hmembers, Option.none_or, hserialised]

theorem assemblePassport_get (sv : Services) (now : Int) (body : CreateRequest) :
    (assemblePassport sv now body).content.get "complianceResult" = none ∧
    (assemblePassport sv now body).content.get "productGroupData" =
      body.productGroupData.map .obj ∧
    (assemblePassport sv now body).content.get "co2ePerUnit" =
      (body.co2ePerUnit.or (body.productGroupData.bind derivedCo2e)).map sv.carbonFootprint ∧
    (assemblePassport sv now body).content.get "repairabilityScore" =
      body.repairabilityScore.map sv.repairabilityScore := by
  simp [assemblePassport, complianceKeys]

/-- A created draft stores its data, the determination of it, and the metrics the request
stated, the data carries or the determination gives. -/
theorem createDraft_ok (h : Lawful sv registry)
    (hcreate : createDraft sv now txNow body = .ok row) :
    row.doc.get "productGroupData" = body.productGroupData.map .obj ∧
    ∀ a, determination registry row.doc = some a →
      row.doc.get "complianceResult" = some (.obj (stampAssessed now a.result)) ∧
      row.doc.get "co2ePerUnit" =
        ((body.co2ePerUnit.or (body.productGroupData.bind derivedCo2e)).map sv.carbonFootprint).or
          (a.co2eScore.map sv.carbonFootprint) ∧
      row.doc.get "repairabilityScore" = (body.repairabilityScore.map sv.repairabilityScore).or
        (a.repairabilityIndex.map sv.repairabilityScore) := by
  obtain ⟨_, -, hcreate⟩ := bind_ok hcreate
  cases hcreate
  obtain ⟨hresult, hdata, hco2e, hrepair⟩ := assemblePassport_get sv now body
  generalize assemblePassport sv now body = q at hresult hdata hco2e hrepair ⊢
  have hget : ∀ k ∈ complianceKeys,
      (applyLint sv (applyCompliance sv now q)).toDoc.get k =
        (applyCompliance sv now q).content.get k := by
    intro k hk
    have hlint : k ≠ "lintResult" := by
      rintro rfl
      exact absurd hk (by decide)
    rw [toDoc_get_compliance hk, applyLint_get hlint]
  have hdetermined : determination registry (applyLint sv (applyCompliance sv now q)).toDoc =
      determination registry q.content := by
    apply determination_congr
    · rw [hget _ (by decide), applyCompliance_get h]
      cases determination registry q.content <;> simp
    · rw [hget _ (by decide), applyCompliance_get h]
      cases determination registry q.content <;> simp
  refine ⟨?_, ?_⟩
  · change (applyLint sv (applyCompliance sv now q)).toDoc.get _ = _
    rw [hget _ (by decide), applyCompliance_get h, ← hdata]
    cases determination registry q.content <;> simp
  · intro a ha
    have ha' : determination registry q.content = some a := hdetermined.symm.trans ha
    change (applyLint sv (applyCompliance sv now q)).toDoc.get _ = _ ∧
      (applyLint sv (applyCompliance sv now q)).toDoc.get _ = _ ∧
      (applyLint sv (applyCompliance sv now q)).toDoc.get _ = _
    refine ⟨?_, ?_, ?_⟩
    · rw [hget _ (by decide), applyCompliance_get h, ha']
      simp
    · rw [hget _ (by decide), applyCompliance_get h, ha', ← hco2e]
      simp
    · rw [hget _ (by decide), applyCompliance_get h, ha', ← hrepair]
      simp

end Drafts

section Runs

variable (sv : Services) (registry : Registry)

def Assessed (doc : Doc) (a : Assessment) : Prop :=
  ∃ result, doc.get "complianceResult" = some (.obj result) ∧ SameAssessment result a.result

def GivenCo2e (data : Option Json) (a : Assessment) (value : Option Json) : Prop :=
  value = a.co2eScore.map sv.carbonFootprint ∨
    ∃ members kg, data = some (.obj members) ∧ derivedCo2e members = some kg ∧
      value = some (sv.carbonFootprint kg)

def GivenRepairability (a : Assessment) (value : Option Json) : Prop :=
  value = a.repairabilityIndex.map sv.repairabilityScore

/-- Where the registry answers, the determination and the metrics nobody stated describe the
data they are stored with. -/
def Describes (d : Draft) : Prop :=
  ∀ a, determination registry d.row.doc = some a →
    Assessed d.row.doc a ∧
    (d.co2eStated = false →
      GivenCo2e sv (d.row.doc.get "productGroupData") a (d.row.doc.get "co2ePerUnit")) ∧
    (d.repairabilityStated = false →
      GivenRepairability sv a (d.row.doc.get "repairabilityScore"))

/-- An accepted update that replaces the data does so with data for which the stored
determination and the stored metrics nobody stated are right already. -/
def DataFollows (s : Option Draft) : Event → Prop
  | .create .. => True
  | .update now txNow patch componentGraph => ∀ d ∈ s,
      (updateDraft sv d.row now txNow patch componentGraph).isOk = true →
      ∀ data a, patchedData sv patch = some (.obj data) →
        registry data (d.row.doc.get "placedOnMarketDate") = some a →
        Assessed d.row.doc a ∧
        (d.co2eStated = false → stated patch "co2ePerUnit" = none →
          d.row.doc.get "co2ePerUnit" ≠ none →
          GivenCo2e sv (some (.obj data)) a (d.row.doc.get "co2ePerUnit")) ∧
        (d.repairabilityStated = false → stated patch "repairabilityScore" = none →
          d.row.doc.get "repairabilityScore" ≠ none →
          GivenRepairability sv a (d.row.doc.get "repairabilityScore"))

variable {sv registry} {s u : Option Draft} {e : Event} {d : Draft}

theorem sameAssessment_stamped (now : Int) (result : Doc) :
    SameAssessment (stampAssessed now result) result := by
  apply Doc.sameExcept_iff.mpr
  intro k hk
  have hne : k ≠ "assessedAt" := by simpa using hk
  unfold stampAssessed
  split
  · simp [hne]
  · simp [hne]
  · rfl

theorem created_describes (h : Lawful sv registry) {now txNow : Int} {body : CreateRequest}
    {row : Row} (hcreate : createDraft sv now txNow body = .ok row) :
    Describes sv registry ⟨row, body.co2ePerUnit.isSome, body.repairabilityScore.isSome⟩ := by
  obtain ⟨hdata, hgiven⟩ := createDraft_ok h hcreate
  intro a ha
  obtain ⟨hresult, hco2e, hrepair⟩ := hgiven a ha
  refine ⟨⟨_, hresult, sameAssessment_stamped now a.result⟩, ?_, ?_⟩
  · intro hstated
    have hnone : body.co2ePerUnit = none := by simpa using hstated
    dsimp only
    rw [hnone, Option.none_or] at hco2e
    rw [hco2e, hdata]
    cases hproduct : body.productGroupData with
    | none => exact .inl (by simp)
    | some members =>
      cases hderived : derivedCo2e members with
      | none => exact .inl (by simp [hderived])
      | some kg => exact .inr ⟨members, kg, rfl, hderived, by simp [hderived]⟩
  · intro hstated
    have hnone : body.repairabilityScore = none := by simpa using hstated
    rw [hnone] at hrepair
    exact hrepair

section Updates

variable {row : Row} {now txNow : Int} {patch : Json} {componentGraph : Option DppError}

def afterUpdate (d : Draft) (patch : Json) (row : Row) : Draft :=
  ⟨row, d.co2eStated || (stated patch "co2ePerUnit").isSome,
    d.repairabilityStated || (stated patch "repairabilityScore").isSome⟩

/-- Without new data every member describes what it described before. -/
theorem describes_of_same_data (hu : Updated sv registry patch d.row.doc row.doc)
    (hdata : patchedData sv patch = none) (hd : Describes sv registry d) :
    Describes sv registry (afterUpdate d patch row) := by
  have hsame : row.doc.get "productGroupData" = d.row.doc.get "productGroupData" := by
    rw [hu.data, hdata, Option.none_or]
  intro a ha
  have ha' : determination registry row.doc = some a := ha
  have hbefore : determination registry d.row.doc = some a :=
    (determination_congr registry hsame hu.date).symm.trans ha
  obtain ⟨⟨result, hresult, hassessed⟩, hco2e, hrepair⟩ := hd a hbefore
  refine ⟨⟨result, hu.result.trans hresult, hassessed⟩, ?_, ?_⟩
  · intro hstated
    obtain ⟨hbefore, hpatch⟩ := Bool.or_eq_false_iff.mp hstated
    have hnone : stated patch "co2ePerUnit" = none := by simpa using hpatch
    change GivenCo2e sv (row.doc.get "productGroupData") a (row.doc.get "co2ePerUnit")
    rw [hsame, hu.co2e, hnone, ha']
    rcases hco2e hbefore with hgiven | ⟨members, kg, hmembers, hderived, hgiven⟩
    · exact .inl (by simp [hgiven])
    · exact .inr ⟨members, kg, hmembers, hderived, by simp [hgiven]⟩
  · intro hstated
    obtain ⟨hbefore, hpatch⟩ := Bool.or_eq_false_iff.mp hstated
    have hnone : stated patch "repairabilityScore" = none := by simpa using hpatch
    have hgiven : d.row.doc.get "repairabilityScore" = _ := hrepair hbefore
    change row.doc.get "repairabilityScore" = _
    rw [hu.repairability, hnone, ha', hgiven]
    simp

/-- With new data they do exactly where they already fit it. -/
theorem describes_iff_new_data (hu : Updated sv registry patch d.row.doc row.doc) {data : Doc}
    (hdata : patchedData sv patch = some (.obj data)) :
    Describes sv registry (afterUpdate d patch row) ↔
      ∀ a, registry data (d.row.doc.get "placedOnMarketDate") = some a →
        Assessed d.row.doc a ∧
        (d.co2eStated = false → stated patch "co2ePerUnit" = none →
          d.row.doc.get "co2ePerUnit" ≠ none →
          GivenCo2e sv (some (.obj data)) a (d.row.doc.get "co2ePerUnit")) ∧
        (d.repairabilityStated = false → stated patch "repairabilityScore" = none →
          d.row.doc.get "repairabilityScore" ≠ none →
          GivenRepairability sv a (d.row.doc.get "repairabilityScore")) := by
  have hnew : row.doc.get "productGroupData" = some (.obj data) := by
    rw [hu.data, hdata, Option.some_or]
  have hdetermined : determination registry row.doc =
      registry data (d.row.doc.get "placedOnMarketDate") := by
    simp only [determination, hnew, hu.date]
  rw [Describes, ← hdetermined]
  refine forall₂_congr fun a ha => and_congr ?_ (and_congr ?_ ?_)
  · exact exists_congr fun result => and_congr_left' (by rw [← hu.result]; rfl)
  · change (_ → GivenCo2e sv (row.doc.get "productGroupData") a (row.doc.get "co2ePerUnit")) ↔ _
    rw [hnew]
    constructor
    · intro hgiven hbefore hnone hstored
      have hafter := hgiven (by simp [afterUpdate, hbefore, hnone])
      obtain ⟨v, hv⟩ := Option.ne_none_iff_exists'.mp hstored
      rw [hu.co2e, hnone, hv] at hafter
      rw [hv]
      simpa using hafter
    · intro hgiven hstated
      obtain ⟨hbefore, hpatch⟩ := Bool.or_eq_false_iff.mp hstated
      have hnone : stated patch "co2ePerUnit" = none := by simpa using hpatch
      rw [hu.co2e, hnone, show determination registry row.doc = some a from ha]
      cases hv : d.row.doc.get "co2ePerUnit" with
      | none => exact .inl (by simp)
      | some v => simpa [hv] using hgiven hbefore hnone (by simp [hv])
  · change (_ → row.doc.get "repairabilityScore" = _) ↔ (_ → _ → _ → _ = _)
    constructor
    · intro hgiven hbefore hnone hstored
      have hafter := hgiven (by simp [afterUpdate, hbefore, hnone])
      obtain ⟨v, hv⟩ := Option.ne_none_iff_exists'.mp hstored
      rw [hu.repairability, hnone, hv] at hafter
      rw [hv]
      simpa using hafter
    · intro hgiven hstated
      obtain ⟨hbefore, hpatch⟩ := Bool.or_eq_false_iff.mp hstated
      have hnone : stated patch "repairabilityScore" = none := by simpa using hpatch
      rw [hu.repairability, hnone, show determination registry row.doc = some a from ha]
      cases hv : d.row.doc.get "repairabilityScore" with
      | none => simp
      | some v => simpa [hv] using hgiven hbefore hnone (by simp [hv])

end Updates

def DescribesStored (sv : Services) (registry : Registry) (s : Option Draft) : Prop :=
  ∀ d ∈ s, Describes sv registry d

theorem step_describes_iff (h : Lawful sv registry) (hs : DescribesStored sv registry s)
    (hnext : next sv s e = some u) :
    DescribesStored sv registry u ↔ DataFollows sv registry s e := by
  cases e with
  | create now txNow body =>
    refine iff_of_true ?_ trivial
    cases s with
    | some d => simp [next] at hnext
    | none =>
      cases hcreate : createDraft sv now txNow body with
      | error error =>
        simp only [next, hcreate, Option.some.injEq] at hnext
        subst hnext
        exact fun d hd => nomatch hd
      | ok row =>
        simp only [next, hcreate, Option.some.injEq] at hnext
        subst hnext
        rintro d ⟨⟩
        exact created_describes h hcreate
  | update now txNow patch componentGraph =>
    cases s with
    | none =>
      simp only [next, Option.some.injEq] at hnext
      subst hnext
      exact iff_of_true (fun d hd => nomatch hd) (fun d hd => nomatch hd)
    | some d =>
      cases hupdate : updateDraft sv d.row now txNow patch componentGraph with
      | error error =>
        simp only [next, hupdate, Option.some.injEq] at hnext
        subst hnext
        refine iff_of_true hs ?_
        rintro d' ⟨⟩ hok
        rw [hupdate] at hok
        cases hok
      | ok row =>
        simp only [next, hupdate, Option.some.injEq] at hnext
        subst hnext
        have hu := updateDraft_ok h hupdate
        have hok : (updateDraft sv d.row now txNow patch componentGraph).isOk = true := by
          rw [hupdate]
          rfl
        have hstored : DescribesStored sv registry (some (afterUpdate d patch row)) ↔
            Describes sv registry (afterUpdate d patch row) := by
          simp [DescribesStored]
        change DescribesStored sv registry (some (afterUpdate d patch row)) ↔ _
        rw [hstored]
        cases hdata : patchedData sv patch with
        | none =>
          refine iff_of_true (describes_of_same_data hu hdata (hs d rfl)) ?_
          intro d' _ _ data a hnew
          cases hdata.symm.trans hnew
        | some payload =>
          obtain ⟨data, rfl⟩ := patchedData_obj h hdata
          rw [describes_iff_new_data hu hdata]
          constructor
          · rintro hfits d' ⟨⟩ - data' a hnew
            cases hdata.symm.trans hnew
            exact hfits a
          · exact fun hfollows a => hfollows d rfl hok data a hdata

theorem dataFollows_of_none (hnext : next sv s e = none) : DataFollows sv registry s e := by
  cases e with
  | create now txNow body => trivial
  | update now txNow patch componentGraph =>
    rintro d ⟨⟩ hok
    cases hupdate : updateDraft sv d.row now txNow patch componentGraph with
    | error error => simp [next, hupdate] at hnext
    | ok row => simp [next, hupdate] at hnext

/-- Every state of a sequence of creates and updates describes its data exactly when every
accepted update that replaces the data finds its determination stored already. -/
theorem described_iff_data_follows (h : Lawful sv registry) (events : List Event) :
    (∀ before after s, events = before ++ after → run (next sv) none before = some s →
      DescribesStored sv registry s) ↔
    Along (next sv) (DataFollows sv registry) none events :=
  states_iff_along (fun _ hd => nomatch hd) trivial (fun _ _ _ _ _ => trivial)
    (fun _ _ _ _ hs hnext => step_describes_iff h hs hnext)
    (fun _ _ hnext => dataFollows_of_none hnext)

def footprintRegistry : Registry := fun data _ =>
  ((data.get "carbonFootprintKgCo2e").bind Json.asNum).map fun kg =>
    ⟨some kg, none, [("co2eScore", .num kg)]⟩

def assessingServices : Services :=
  { sampleServices with
    readProductGroupData := fun v =>
      match v with
      | .obj data => .ok ("textile", .obj data)
      | _ => .error (.validation "" "invalid productGroupData")
    compute := fun now p =>
      match p.content.get "productGroupData" with
      | some (.obj data) => (footprintRegistry data (p.content.get "placedOnMarketDate")).map fun a =>
          ⟨a.co2eScore, a.repairabilityIndex, .obj (stampAssessed now a.result)⟩
      | _ => none }

theorem assessingServices_lawful : Lawful assessingServices footprintRegistry where
  reads doc content hread k _ := by
    cases hread
    rfl
  payload v group payload hread := by
    cases v with
    | obj data =>
      cases hread
      exact ⟨data, rfl⟩
    | _ => cases hread
  carbonFootprint kg := nofun
  repairabilityScore v := nofun
  computes now p := rfl

def coatData (kg : Rat) : Doc :=
  [("productGroup", .str "textile"), ("carbonFootprintKgCo2e", .num kg)]

def coatRequest : CreateRequest where
  id := 7
  productGroup := "textile"
  productGroupData := some (coatData 3)
  co2ePerUnit := none
  repairabilityScore := none
  placedOnMarketDate := none
  supersedesId := none
  carrierSerial := none
  facility := none
  operatorIdentifier := none
  rest := [("productName", .str "Wool coat")]
  refusal := none

def renamedCoat : List Event :=
  [.create 10 10 coatRequest,
    .update 20 20 (.obj [("productName", .str "Loden coat"), ("repairabilityScore", .num 6)]) none]

theorem renamed_coat_described :
    (∃ d, run (next assessingServices) none renamedCoat = some (some d) ∧
      d.row.doc.get "repairabilityScore" = some (.obj [("score", .num 6)])) ∧
    ∀ before after s, renamedCoat = before ++ after →
      run (next assessingServices) none before = some s →
      DescribesStored assessingServices footprintRegistry s := by
  refine ⟨?_, (described_iff_data_follows assessingServices_lawful renamedCoat).mpr ?_⟩
  · have hupdated : ((run (next assessingServices) none renamedCoat).bind fun s =>
        s.bind fun d => d.row.doc.get "repairabilityScore") =
        some (.obj [("score", .num 6)]) := by decide +kernel
    obtain ⟨s, hrun, hs⟩ := Option.bind_eq_some_iff.mp hupdated
    obtain ⟨d, rfl, hd⟩ := Option.bind_eq_some_iff.mp hs
    exact ⟨d, hrun, hd⟩
  · refine ⟨trivial, fun u _ => ⟨?_, fun _ _ => trivial⟩⟩
    intro d _ _ data a hdata
    cases hdata

def correctedCoat : List Event :=
  [.create 10 10 coatRequest,
    .update 20 20 (.obj [("productGroupData", .obj (coatData 7))]) none]

theorem corrected_coat_keeps_determination :
    ∃ d, run (next assessingServices) none correctedCoat = some (some d) ∧
      d.row.doc.get "productGroupData" = some (.obj (coatData 7)) ∧
      ¬Describes assessingServices footprintRegistry d := by
  have hupdated : ((run (next assessingServices) none correctedCoat).bind fun s => s.map fun d =>
      (d.row.doc.get "productGroupData", d.row.doc.get "complianceResult")) =
      some (some (.obj (coatData 7)),
        some (.obj [("assessedAt", .instant 10), ("co2eScore", .num 3)])) := by decide +kernel
  obtain ⟨s, hrun, hs⟩ := Option.bind_eq_some_iff.mp hupdated
  obtain ⟨d, rfl, hd⟩ := Option.map_eq_some_iff.mp hs
  obtain ⟨hdata, hresult⟩ := Prod.mk.inj hd
  refine ⟨d, hrun, hdata, fun hdescribes => ?_⟩
  have hdetermined : determination footprintRegistry d.row.doc =
      some ⟨some 7, none, [("co2eScore", .num 7)]⟩ := by
    simp only [determination, hdata]
    rfl
  obtain ⟨⟨result, hstored, hsame⟩, -⟩ := hdescribes _ hdetermined
  cases hresult.symm.trans hstored
  exact absurd hsame (by decide +kernel)

end Runs

end ComplianceRecords
