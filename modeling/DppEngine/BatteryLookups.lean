import DppEngine.BatteryRows
import DppEngine.Footprints

/-! What the validator of battery rows asks a row for.

A row is asked for keys and for fields. A slot's other members are asked for only beside its name,
some members of a group only beside others, and what no check looks at only once there is no
error. -/
namespace BatteryLookups

open BatteryRows FieldReaders Footprints
open CreateRequests (isBlank)

section Readers

inductive Lookup where
  | get (key : String)
  | getField (field : String)
  deriving DecidableEq, Repr

def answerTo (row : Row) : Lookup → Option String
  | .get key => row.get key
  | .getField field => row.getField field

variable {α : Type} {row row' : Row} {rowNum : ℕ}

theorem present_of_agree {field : String} (h : row.getField field = row'.getField field) :
    present row field = present row' field := by
  unfold present
  rw [h]

theorem optional_of_agree {field : String} {parse : String → Except String α}
    (h : row.getField field = row'.getField field) :
    FieldReaders.optional row field rowNum parse =
      FieldReaders.optional row' field rowNum parse := by
  unfold FieldReaders.optional
  rw [present_of_agree h]

theorem asks_getField (field : String) :
    AsksOnly answerTo (fun _ => [.getField field]) (·.getField field) :=
  AsksOnly.question (Lookup.getField field)

theorem asks_get (key : String) : AsksOnly answerTo (fun _ => [.get key]) (·.get key) :=
  AsksOnly.question (Lookup.get key)

theorem asks_present (field : String) :
    AsksOnly answerTo (fun _ => [.getField field]) (present · field) :=
  (asks_getField field).map fun v => v.filter fun v => !isBlank v

theorem asks_optional (field : String) (rowNum : ℕ) (parse : String → Except String α) :
    AsksOnly answerTo (fun _ => [.getField field]) (optional · field rowNum parse) :=
  fun _ _ h => ⟨rfl, optional_of_agree (h _ (List.mem_singleton_self _))⟩

theorem asks_each {header : String → String} {f : String → Row → α}
    (h : ∀ member, AsksOnly answerTo (fun _ => [.getField (header member)]) (f member))
    (members : List String) :
    AsksOnly answerTo (fun _ => members.map fun member => .getField (header member)) fun row =>
      members.map (f · row) := by
  intro row row' hagree
  refine ⟨rfl, List.map_congr_left fun member hmember => ?_⟩
  refine (h member row row' fun q hq => hagree q ?_).2
  rw [List.mem_singleton.mp hq]
  exact List.mem_map_of_mem hmember

/-- Of the headers a field has, those up to the first with a text. -/
def aliasedAsked (aliases : List String) (row : Row) : List Lookup :=
  askedUntil (fun field _ => [.getField field]) (fun field row => (present row field).isSome)
    aliases row

theorem asks_aliased (aliases : List String) :
    AsksOnly answerTo (aliasedAsked aliases) (aliased · aliases) :=
  AsksOnly.findSome? asks_present aliases

end Readers

section Groups

variable (d : Domain) (rowNum : ℕ)

def memberLookups (group : String) (slot : ℕ) (members : List String) : List Lookup :=
  members.map fun member => .getField (slotHeader group slot member)

def materialAsked (slot : ℕ) (row : Row) : List Lookup :=
  [.getField (slotHeader "material" slot "name")] ++
    match present row (slotHeader "material" slot "name") with
    | none => []
    | some _ => memberLookups "material" slot ["weightKg", "recycledPct", "countryOfOrigin"]

/-- A component without a weight is not asked for its number. -/
def compositionAsked (group : String) (slot : ℕ) (row : Row) : List Lookup :=
  [.getField (slotHeader group slot "name")] ++
    match present row (slotHeader group slot "name") with
    | none => []
    | some _ =>
      [.getField (slotHeader group slot "weightPct")] ++
        match (optionalF64 d.toParsers row (slotHeader group slot "weightPct") rowNum).value with
        | none => []
        | some _ => [.getField (slotHeader group slot "casNumber")]

def criticalRawAsked (slot : ℕ) (row : Row) : List Lookup :=
  [.getField (slotHeader "criticalRaw" slot "name")] ++
    match present row (slotHeader "criticalRaw" slot "name") with
    | none => []
    | some _ => memberLookups "criticalRaw" slot ["casNumber", "weightGrams", "countryOfOrigin"]

/-- No slot is asked for after a substance that cannot be read. -/
def hazardousAsked : List ℕ → Row → List Lookup
  | [], _ => []
  | slot :: slots, row =>
    [.getField (slotHeader "hazardous" slot "name")] ++
      match present row (slotHeader "hazardous" slot "name") with
      | none => hazardousAsked slots row
      | some name =>
        memberLookups "hazardous" slot ["concentrationPct", "casNumber"] ++
          match d.hazardousSubstance name (present row (slotHeader "hazardous" slot "casNumber"))
            (optionalF64 d.toParsers row (slotHeader "hazardous" slot "concentrationPct")
              rowNum).value with
          | none => []
          | some _ => hazardousAsked slots row

def temperatureAsked (row : Row) : List Lookup :=
  [.getField "notInUseTemperatureMinC"] ++
    match (optionalF64 d.toParsers row "notInUseTemperatureMinC" rowNum).value with
    | none => []
    | some _ => [.getField "notInUseTemperatureMaxC"]

def dynamicAsked : List Lookup :=
  ("expectedLifetimeCycles" :: dynamicMembers).map fun member =>
    .getField ("dynamicPerformance_" ++ member)

def healthLookups (members : List String) : List Lookup :=
  members.map fun member => .getField ("stateOfHealth_" ++ member)

/-- The keys of items 2, 3 and 5, up to the first with a text. -/
def healthKeysAsked (row : Row) : List Lookup :=
  askedUntil (fun member _ => [.get ("stateOfHealth_" ++ member)])
    (fun member row => (row.get ("stateOfHealth_" ++ member)).any fun v => !isBlank v)
    optionalOnly row

/-- Items 2, 3 and 5 are asked for as fields beside items 1 and 4, and as keys where there is
nothing else. -/
def healthAsked (row : Row) : List Lookup :=
  healthLookups ("socePct" :: unconditionalItems) ++
    match (healthF64 d row rowNum "socePct").value,
      (healthF64 d row rowNum "remainingCapacityPct").value,
      (healthF64 d row rowNum "selfDischargeRatePctPerMonth").value with
    | none, some _, some _ => healthLookups optionalOnly
    | none, none, none => healthKeysAsked row
    | _, _, _ => []

theorem asks_material (slot : ℕ) :
    AsksOnly answerTo (materialAsked slot) (materialAt d.toParsers · slot) := by
  refine (asks_present (slotHeader "material" slot "name")).followedBy fun row row' hname h => ?_
  unfold materialAt
  rw [hname] at h ⊢
  cases hpresent : present row' (slotHeader "material" slot "name") with
  | none => exact ⟨rfl, rfl⟩
  | some name =>
    simp only [hpresent, memberLookups, List.map_cons, List.map_nil, AgreeOn, List.forall_mem_cons,
      answerTo] at h
    simp only [lenientF64, present, h, and_self]

theorem asks_composition (group : String) (slot : ℕ) :
    AsksOnly answerTo (compositionAsked d rowNum group slot)
      (compositionAt d · rowNum group slot) := by
  refine (asks_present (slotHeader group slot "name")).followedBy fun row row' hname h => ?_
  unfold compositionAt
  rw [hname] at h ⊢
  cases hpresent : present row' (slotHeader group slot "name") with
  | none => exact ⟨rfl, rfl⟩
  | some name =>
    simp only [hpresent] at h
    obtain ⟨hweight, hcas⟩ := agreeOn_append.mp h
    have hread : optionalF64 d.toParsers row (slotHeader group slot "weightPct") rowNum =
        optionalF64 d.toParsers row' (slotHeader group slot "weightPct") rowNum :=
      optional_of_agree (hweight _ (List.mem_singleton_self _))
    rw [hread] at hcas ⊢
    cases hvalue : (optionalF64 d.toParsers row' (slotHeader group slot "weightPct")
        rowNum).value with
    | none => simp [hvalue]
    | some weightPct =>
      rw [hvalue] at hcas
      have hnumber : present row (slotHeader group slot "casNumber") =
          present row' (slotHeader group slot "casNumber") :=
        present_of_agree (hcas _ (List.mem_singleton_self _))
      simp [hvalue, hnumber]

theorem asks_criticalRaw (slot : ℕ) :
    AsksOnly answerTo (criticalRawAsked slot) (criticalRawAt d · rowNum slot) := by
  refine (asks_present (slotHeader "criticalRaw" slot "name")).followedBy fun row row' hname h => ?_
  unfold criticalRawAt
  rw [hname] at h ⊢
  cases hpresent : present row' (slotHeader "criticalRaw" slot "name") with
  | none => exact ⟨rfl, rfl⟩
  | some name =>
    simp only [hpresent, memberLookups, List.map_cons, List.map_nil, AgreeOn, List.forall_mem_cons,
      answerTo] at h
    simp only [optionalF64, FieldReaders.optional, present, h, and_self]

theorem asks_hazardous (l : List ℕ) :
    AsksOnly answerTo (hazardousAsked d rowNum l) (hazardousFrom d · rowNum l) := by
  induction l with
  | nil => exact .pure _
  | cons slot l ih =>
    refine (asks_present (slotHeader "hazardous" slot "name")).followedBy
      fun row row' hname h => ?_
    simp only [hazardousFrom]
    rw [hname] at h ⊢
    cases hpresent : present row' (slotHeader "hazardous" slot "name") with
    | none =>
      rw [hpresent] at h
      exact ih row row' h
    | some name =>
      simp only [hpresent] at h
      obtain ⟨hmembers, hrest⟩ := agreeOn_append.mp h
      simp only [memberLookups, List.map_cons, List.map_nil, AgreeOn, List.forall_mem_cons,
        answerTo] at hmembers
      have hconcentration : optionalF64 d.toParsers row
          (slotHeader "hazardous" slot "concentrationPct") rowNum = optionalF64 d.toParsers row'
            (slotHeader "hazardous" slot "concentrationPct") rowNum :=
        optional_of_agree hmembers.1
      have hcas : present row (slotHeader "hazardous" slot "casNumber") =
          present row' (slotHeader "hazardous" slot "casNumber") :=
        present_of_agree hmembers.2.1
      rw [hconcentration, hcas] at hrest ⊢
      cases hmade : d.hazardousSubstance name
          (present row' (slotHeader "hazardous" slot "casNumber"))
          (optionalF64 d.toParsers row' (slotHeader "hazardous" slot "concentrationPct")
            rowNum).value with
      | none => simp [hmade]
      | some substance =>
        simp only [hmade] at hrest
        obtain ⟨hasked, hlater⟩ := ih row row' hrest
        simp [hmade, hasked, hlater]

theorem asks_temperature :
    AsksOnly answerTo (temperatureAsked d rowNum) (parseTemperatureRange d · rowNum) := by
  refine (asks_optional "notInUseTemperatureMinC" rowNum (float d.toParsers)).followedBy
    fun row row' hmin h => ?_
  have hlower : optionalF64 d.toParsers row "notInUseTemperatureMinC" rowNum =
      optionalF64 d.toParsers row' "notInUseTemperatureMinC" rowNum := hmin
  unfold parseTemperatureRange
  rw [hlower] at h ⊢
  cases hvalue : (optionalF64 d.toParsers row' "notInUseTemperatureMinC" rowNum).value with
  | none => simp [hvalue]
  | some lower =>
    rw [hvalue] at h
    have hupper : optionalF64 d.toParsers row "notInUseTemperatureMaxC" rowNum =
        optionalF64 d.toParsers row' "notInUseTemperatureMaxC" rowNum :=
      optional_of_agree (h _ (List.mem_singleton_self _))
    simp [hvalue, hupper]

theorem asks_healthKeys : AsksOnly answerTo healthKeysAsked fun row =>
    optionalOnly.any fun member =>
      (row.get ("stateOfHealth_" ++ member)).any fun v => !isBlank v :=
  AsksOnly.any (fun member => (asks_get ("stateOfHealth_" ++ member)).map fun v =>
    v.any fun v => !isBlank v) optionalOnly

theorem asks_health :
    AsksOnly answerTo (healthAsked d rowNum) (parseStateOfHealth d · rowNum) := by
  have hmember (member : String) : AsksOnly answerTo
      (fun _ => [.getField ("stateOfHealth_" ++ member)]) (healthF64 d · rowNum member) :=
    asks_optional ("stateOfHealth_" ++ member) rowNum (float d.toParsers)
  have hmembers (members : List String) {row row' : Row}
      (h : AgreeOn answerTo (healthLookups members) row row') :
      ∀ member ∈ members, healthF64 d row rowNum member = healthF64 d row' rowNum member :=
    List.map_inj_left.mp (asks_each hmember members row row' h).2
  refine (asks_each hmember ("socePct" :: unconditionalItems)).followedBy
    fun row row' hthree h => ?_
  have hsame := List.map_inj_left.mp hthree
  simp only [unconditionalItems, List.forall_mem_cons] at hsame
  obtain ⟨hsoce, hcapacity, hdischarge, -⟩ := hsame
  unfold parseStateOfHealth
  rw [hsoce, hcapacity, hdischarge] at h ⊢
  cases hs : (healthF64 d row' rowNum "socePct").value with
  | some socePct =>
    cases hc : (healthF64 d row' rowNum "remainingCapacityPct").value <;>
      cases hd : (healthF64 d row' rowNum "selfDischargeRatePctPerMonth").value <;>
      simp [hs, hc, hd]
  | none =>
    cases hc : (healthF64 d row' rowNum "remainingCapacityPct").value with
    | some capacity =>
      cases hd : (healthF64 d row' rowNum "selfDischargeRatePctPerMonth").value with
      | none => simp [hs, hc, hd]
      | some discharge =>
        simp only [hs, hc, hd] at h
        have hothers := hmembers optionalOnly h
        simp only [optionalOnly, List.forall_mem_cons] at hothers
        simp [hs, hc, hd, hothers]
    | none =>
      cases hd : (healthF64 d row' rowNum "selfDischargeRatePctPerMonth").value with
      | some discharge => simp [hs, hc, hd]
      | none =>
        simp only [hs, hc, hd] at h
        obtain ⟨hasked, hany⟩ := asks_healthKeys row row' h
        simp only [hs, hc, hd, hasked, true_and]
        dsimp only at hany
        simp only [Option.or_none, hany]

end Groups

section Rows

def checkedFields : List String :=
  ["productName", "gtin", "batchId", "batteryChemistry", "nominalVoltageV", "nominalCapacityAh",
    "expectedLifetimeCycles", "co2ePerUnitKg", "recycledContentCobaltPct",
    "recycledContentLithiumPct", "recycledContentNickelPct", "recycledContentLeadPct",
    "stateOfHealthPct", "ratedCapacityKwh", "batteryWeightKg", "operatingTempMinC",
    "operatingTempMaxC", "roundTripEfficiencyPct", "dueDiligenceUrl", "carbonFootprintClass",
    "batteryType", "repairabilityScore", "placedOnMarketDate", "commodityCode", "carrierSerial",
    "manufacturingDate", "minimalVoltageV", "maximumVoltageV", "originalPowerCapabilityW",
    "powerLimitMinW", "powerLimitMaxW", "renewableContentPct", "internalCellResistanceMohm",
    "internalPackResistanceMohm", "initialRoundTripEfficiencyPct",
    "roundTripEfficiencyAtHalfCycleLifePct", "cycleLifeTestCRate",
    "capacityThresholdForExhaustionPct"]

def uncheckedFields : List String :=
  ["disassemblyInstructionsUrl", "manufacturingPlace", "batteryModelId", "batteryPassportNumber",
    "batteryStatus", "componentPartNumbers", "euDeclarationOfConformity",
    "expectedLifetimeReferenceTest", "markingInformation", "notInUseTemperatureReferenceTest",
    "safetyMeasures", "sparePartsContacts", "testReportResults", "usableExtinguishingAgent",
    "wasteBatteryInformation"]

def manufacturerHeaders : List (List String) :=
  [["manufacturerName", "manufacturer_name"], ["manufacturerCountry", "manufacturer_country"],
    ["manufacturerAddress", "manufacturer_address"],
    ["didWebUrl", "manufacturerDidWebUrl", "manufacturer_didWebUrl"]]

def compositionGroups : List String := ["cathode", "anode", "electrolyte"]

variable (d : Domain) (rowNum : ℕ)

def checksAsked (row : Row) : List Lookup :=
  checkedFields.map .getField ++
    manufacturerHeaders.flatMap (aliasedAsked · row) ++
    (List.range' 1 maxMaterialColumns).flatMap (materialAsked · row) ++
    compositionGroups.flatMap (fun group =>
      slots.flatMap (compositionAsked d rowNum group · row)) ++
    slots.flatMap (criticalRawAsked · row) ++
    hazardousAsked d rowNum slots row ++
    temperatureAsked d rowNum row ++
    dynamicAsked ++
    healthAsked d rowNum row

def batteryAsked (row : Row) : List Lookup :=
  checksAsked d rowNum row ++
    if batteryErrors d row rowNum = [] then uncheckedFields.map .getField else []

variable {d} {rowNum} {row row' : Row}

structure SameChecks (d : Domain) (rowNum : ℕ) (row row' : Row) : Prop where
  asked : checksAsked d rowNum row = checksAsked d rowNum row'
  fields : ∀ field ∈ checkedFields, present row field = present row' field
  manufacturer : ∀ headers ∈ manufacturerHeaders, aliased row headers = aliased row' headers
  materials : parseMaterials d.toParsers row = parseMaterials d.toParsers row'
  compositions : ∀ group ∈ compositionGroups,
    parseComposition d row rowNum group = parseComposition d row' rowNum group
  criticalRaw : parseCriticalRawMaterials d row rowNum = parseCriticalRawMaterials d row' rowNum
  hazardous : parseHazardousSubstances d row rowNum = parseHazardousSubstances d row' rowNum
  temperature : parseTemperatureRange d row rowNum = parseTemperatureRange d row' rowNum
  performance : parseDynamicPerformance d row rowNum = parseDynamicPerformance d row' rowNum
  health : parseStateOfHealth d row rowNum = parseStateOfHealth d row' rowNum

theorem asks_dynamicPerformance (d : Domain) (rowNum : ℕ) :
    AsksOnly answerTo (fun _ => dynamicAsked) (parseDynamicPerformance d · rowNum) := by
  intro row row' h
  have hanswer : ∀ member ∈ "expectedLifetimeCycles" :: dynamicMembers,
      row.getField ("dynamicPerformance_" ++ member) =
        row'.getField ("dynamicPerformance_" ++ member) :=
    fun member hmember => h (.getField _) (List.mem_map_of_mem hmember)
  have hmember : ∀ member ∈ dynamicMembers,
      dynamicF64 d row rowNum member = dynamicF64 d row' rowNum member := fun member hmember =>
    optional_of_agree (hanswer member (List.mem_cons_of_mem _ hmember))
  have hcycles : present row "dynamicPerformance_expectedLifetimeCycles" =
      present row' "dynamicPerformance_expectedLifetimeCycles" :=
    present_of_agree (hanswer "expectedLifetimeCycles" List.mem_cons_self)
  have hblock : dynamicBlock d row rowNum = dynamicBlock d row' rowNum := by
    have hmembers := hmember
    simp only [dynamicMembers, List.forall_mem_cons] at hmembers
    unfold dynamicBlock optionalU32
    simp only [hmembers, hcycles]
  refine ⟨rfl, ?_⟩
  simp only [parseDynamicPerformance]
  rw [hblock, List.flatMap_congr fun member hmem => congrArg Read.errors (hmember member hmem)]

theorem sameChecks_of_agree (h : AgreeOn answerTo (checksAsked d rowNum row) row row') :
    SameChecks d rowNum row row' := by
  have hfields := asks_each (fun field => asks_present field) checkedFields
  have hmanufacturer := AsksOnly.each fun headers (_ : headers ∈ manufacturerHeaders) =>
    asks_aliased headers
  have hmaterials := AsksOnly.each fun slot (_ : slot ∈ List.range' 1 maxMaterialColumns) =>
    asks_material d slot
  have hcompositions := AsksOnly.each fun group (_ : group ∈ compositionGroups) =>
    AsksOnly.each fun slot (_ : slot ∈ slots) => asks_composition d rowNum group slot
  have hcriticalRaw := AsksOnly.each fun slot (_ : slot ∈ slots) => asks_criticalRaw d rowNum slot
  have hall := (((((((hfields.and hmanufacturer).and hmaterials).and hcompositions).and
    hcriticalRaw).and (asks_hazardous d rowNum slots)).and (asks_temperature d rowNum)).and
    (asks_dynamicPerformance d rowNum)).and (asks_health d rowNum)
  obtain ⟨hasked, hresults⟩ := hall row row' h
  simp only [Prod.mk.injEq, List.map_inj_left] at hresults
  obtain ⟨⟨⟨⟨⟨⟨⟨⟨hfield, hheader⟩, hmaterial⟩, hcomposition⟩, hraw⟩, hsubstance⟩, htemperature⟩,
    hperformance⟩, hhealth⟩ := hresults
  constructor
  case asked => exact hasked
  case fields => exact hfield
  case manufacturer => exact hheader
  case materials => exact List.filterMap_congr hmaterial
  case compositions =>
    intro group hgroup
    have hslots := hcomposition group hgroup
    unfold parseComposition
    rw [List.filterMap_congr fun slot hslot => congrArg Read.value (hslots slot hslot),
      List.flatMap_congr fun slot hslot => congrArg Read.errors (hslots slot hslot)]
  case criticalRaw =>
    unfold parseCriticalRawMaterials
    rw [List.filterMap_congr fun slot hslot => congrArg Read.value (hraw slot hslot),
      List.flatMap_congr fun slot hslot => congrArg Read.errors (hraw slot hslot)]
  case hazardous =>
    unfold parseHazardousSubstances
    rw [hsubstance]
  case temperature => exact htemperature
  case performance => exact hperformance
  case health => exact hhealth

theorem SameChecks.manufacturerReads (h : SameChecks d rowNum row row') :
    requireManufacturerName row rowNum = requireManufacturerName row' rowNum ∧
      manufacturerCountry row = manufacturerCountry row' ∧
      manufacturerPostal row = manufacturerPostal row' := by
  have hmanufacturer := h.manufacturer
  simp only [manufacturerHeaders, List.forall_mem_cons] at hmanufacturer
  obtain ⟨hname, hcountry, hpostal, -⟩ := hmanufacturer
  refine ⟨?_, hcountry, hpostal⟩
  unfold requireManufacturerName requireAliased
  rw [hname]

theorem SameChecks.errors (h : SameChecks d rowNum row row') :
    batteryErrors d row rowNum = batteryErrors d row' rowNum := by
  have hfields := h.fields
  have hcompositions := h.compositions
  obtain ⟨hname, hcountry, hpostal⟩ := h.manufacturerReads
  simp only [checkedFields, compositionGroups, List.forall_mem_cons] at hfields hcompositions
  have hreadings : batteryReadings d row rowNum = batteryReadings d row' rowNum := by
    simp only [batteryReadings, float64, optionalF64, optionalDate, optionalCommodityCode,
      optionalCarrierSerial, requireF64, requireU32, required, requireStr, FieldReaders.optional,
      addressErrors, stateOfHealthErrors, hfields, hname, hcountry, hpostal, hcompositions,
      h.criticalRaw, h.hazardous, h.temperature, h.performance, h.health]
  exact congrArg List.flatten hreadings

/-- Without an error what is made of a row depends on what it is asked besides, too. -/
theorem SameChecks.request (h : SameChecks d rowNum row row')
    (hunchecked : ∀ field ∈ uncheckedFields, present row field = present row' field)
    (m : Mandatory d) : batteryRequest d row rowNum m = batteryRequest d row' rowNum m := by
  have hfields := h.fields
  have hmanufacturer := h.manufacturer
  have hcompositions := h.compositions
  simp only [checkedFields, uncheckedFields, manufacturerHeaders, compositionGroups,
    List.forall_mem_cons] at hfields hmanufacturer hcompositions hunchecked
  simp only [batteryRequest, batteryData, float64, optionalF64, optionalDate,
    optionalCommodityCode, optionalCarrierSerial, optionalStr, parseBatteryStatus,
    parseComponentPartNumbers, requireU32, required, requireStr, FieldReaders.optional,
    manufacturerCountry, hfields, hunchecked, hmanufacturer, hcompositions, h.materials,
    h.criticalRaw, h.hazardous, h.temperature, h.performance, h.health]

theorem asks_validateBatteryRow (d : Domain) (rowNum : ℕ) :
    AsksOnly answerTo (batteryAsked d rowNum) (validateBatteryRow d · rowNum) := by
  intro row row' hagree
  obtain ⟨hchecks, hrest⟩ := agreeOn_append.mp hagree
  have h := sameChecks_of_agree hchecks
  have herrors := h.errors
  unfold batteryAsked validateBatteryRow
  rw [h.asked, herrors]
  refine ⟨rfl, ?_⟩
  by_cases hnone : batteryErrors d row' rowNum = []
  · rw [herrors, if_pos hnone] at hrest
    have hunchecked := List.map_inj_left.mp
      (asks_each (fun field => asks_present field) uncheckedFields row row' hrest).2
    have hrequest := h.request hunchecked
    have hfields := h.fields
    obtain ⟨hname, hcountry, hpostal⟩ := h.manufacturerReads
    simp only [checkedFields, List.forall_mem_cons] at hfields
    simp only [herrors, hrequest, requireF64, required, requireStr, FieldReaders.optional, hname,
      hcountry, hpostal, hfields]
  · simp only [herrors, ne_eq, hnone, not_false_eq_true, if_true]

end Rows

end BatteryLookups
