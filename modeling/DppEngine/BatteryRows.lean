import DppEngine.FieldReaders

/-! Battery rows: what becomes of every cell under a header of the battery templates.

The domain types that are read from their stored form are parameters, as in the readers. Fields of
a battery that no column feeds are left out. -/
namespace BatteryRows

open CreateRequests (ManufacturerInfo isBlank)
open FieldReaders
open TrustedListDocuments (trim)

section Groups

structure Domain extends Parsers where
  BatteryChemistry : Type
  readChemistry : String → Option BatteryChemistry
  otherChemistry : BatteryChemistry
  BatteryType : Type
  readBatteryType : String → Option BatteryType
  /-- A text as it is printed in an error. -/
  quoted : String → String
  CarbonFootprintClass : Type
  readCarbonFootprintClass : String → Option CarbonFootprintClass
  TemperatureRange : Type
  temperatureRange : F64 → F64 → Option TemperatureRange
  HazardousSubstance : Type
  hazardousSubstance : String → Option String → Option F64 → Option HazardousSubstance

inductive BatteryStatus where
  | original | repurposed | reUsed | remanufactured | waste
  deriving DecidableEq, Repr

structure MaterialComposition (F64 : Type) where
  name : String
  weightPct : F64
  casNumber : Option String

structure CriticalRawMaterial (F64 : Type) where
  name : String
  casNumber : Option String
  weightGrams : Option F64
  countryOfOrigin : Option String

structure DynamicPerformance (F64 : Type) where
  ratedCapacityAh : Option F64
  capacityFadePct : Option F64
  powerW : Option F64
  powerFadePct : Option F64
  internalResistanceMohm : Option F64
  internalResistanceIncreasePct : Option F64
  roundTripEfficiencyPct : Option F64
  roundTripEfficiencyFadePct : Option F64
  expectedLifetimeCycles : Option ℕ
  expectedLifetimeYears : Option F64

inductive StateOfHealth (F64 : Type) where
  | electricVehicle (socePct : F64)
  | stationaryOrLmt (remainingCapacityPct : F64) (remainingPowerCapabilityPct : Option F64)
      (remainingRoundTripEfficiencyPct : Option F64) (selfDischargeRatePctPerMonth : F64)
      (ohmicResistanceMohm : Option F64)

def maxGroupSlots : ℕ := 10

def slots : List ℕ := List.range' 1 maxGroupSlots

def nonEmpty {α : Type} (l : List α) : Option (List α) := if l.isEmpty then none else some l

variable (d : Domain) (row : Row) (rowNum : ℕ)

def optionalU32 (field : String) : Option ℕ := (present row field).bind fun v => parseU32 (trim v)

/-- A slot without a name or a weight is skipped, and without a name its weight is not read. -/
def compositionAt (group : String) (slot : ℕ) : Read (Option (MaterialComposition d.F64)) :=
  match present row (slotHeader group slot "name") with
  | none => ⟨none, []⟩
  | some name =>
    let weight := optionalF64 d.toParsers row (slotHeader group slot "weightPct") rowNum
    ⟨weight.value.map fun weightPct =>
        ⟨name, weightPct, present row (slotHeader group slot "casNumber")⟩,
      weight.errors⟩

def parseComposition (group : String) : Read (Option (List (MaterialComposition d.F64))) where
  value := nonEmpty (slots.filterMap fun slot => (compositionAt d row rowNum group slot).value)
  errors := slots.flatMap fun slot => (compositionAt d row rowNum group slot).errors

def criticalRawAt (slot : ℕ) : Read (Option (CriticalRawMaterial d.F64)) :=
  match present row (slotHeader "criticalRaw" slot "name") with
  | none => ⟨none, []⟩
  | some name =>
    let weight := optionalF64 d.toParsers row (slotHeader "criticalRaw" slot "weightGrams") rowNum
    ⟨some ⟨name, present row (slotHeader "criticalRaw" slot "casNumber"), weight.value,
        present row (slotHeader "criticalRaw" slot "countryOfOrigin")⟩,
      weight.errors⟩

def parseCriticalRawMaterials : Read (Option (List (CriticalRawMaterial d.F64))) where
  value := nonEmpty (slots.filterMap fun slot => (criticalRawAt d row rowNum slot).value)
  errors := slots.flatMap fun slot => (criticalRawAt d row rowNum slot).errors

/-- The first substance that cannot be read from its own stored form ends the list without one. -/
def hazardousFrom : List ℕ → Read (Option (List d.HazardousSubstance))
  | [] => ⟨some [], []⟩
  | slot :: slots =>
    match present row (slotHeader "hazardous" slot "name") with
    | none => hazardousFrom slots
    | some name =>
      let concentration :=
        optionalF64 d.toParsers row (slotHeader "hazardous" slot "concentrationPct") rowNum
      match d.hazardousSubstance name (present row (slotHeader "hazardous" slot "casNumber"))
          concentration.value with
      | none => ⟨none, concentration.errors⟩
      | some substance =>
        ⟨(hazardousFrom slots).value.map (substance :: ·),
          concentration.errors ++ (hazardousFrom slots).errors⟩

def parseHazardousSubstances : Read (Option (List d.HazardousSubstance)) where
  value := (hazardousFrom d row rowNum slots).value.bind nonEmpty
  errors := (hazardousFrom d row rowNum slots).errors

/-- The upper end is not looked at without a lower one. -/
def parseTemperatureRange : Read (Option d.TemperatureRange) :=
  let minC := optionalF64 d.toParsers row "notInUseTemperatureMinC" rowNum
  match minC.value with
  | none => ⟨none, minC.errors⟩
  | some lower =>
    let maxC := optionalF64 d.toParsers row "notInUseTemperatureMaxC" rowNum
    ⟨maxC.value.bind (d.temperatureRange lower), minC.errors ++ maxC.errors⟩

def partsOf (raw : String) : List String :=
  ((raw.toList.splitOn ';').map fun piece => trim (String.ofList piece)).filter (· ≠ "")

def parseComponentPartNumbers : Option (List String) :=
  (present row "componentPartNumbers").bind fun raw => nonEmpty (partsOf raw)

def dynamicF64 (member : String) : Read (Option d.F64) :=
  optionalF64 d.toParsers row ("dynamicPerformance_" ++ member) rowNum

def dynamicBlock : DynamicPerformance d.F64 where
  ratedCapacityAh := (dynamicF64 d row rowNum "ratedCapacityAh").value
  capacityFadePct := (dynamicF64 d row rowNum "capacityFadePct").value
  powerW := (dynamicF64 d row rowNum "powerW").value
  powerFadePct := (dynamicF64 d row rowNum "powerFadePct").value
  internalResistanceMohm := (dynamicF64 d row rowNum "internalResistanceMohm").value
  internalResistanceIncreasePct := (dynamicF64 d row rowNum "internalResistanceIncreasePct").value
  roundTripEfficiencyPct := (dynamicF64 d row rowNum "roundTripEfficiencyPct").value
  roundTripEfficiencyFadePct := (dynamicF64 d row rowNum "roundTripEfficiencyFadePct").value
  expectedLifetimeCycles := optionalU32 row "dynamicPerformance_expectedLifetimeCycles"
  expectedLifetimeYears := (dynamicF64 d row rowNum "expectedLifetimeYears").value

def DynamicPerformance.isEmpty {F64 : Type} (b : DynamicPerformance F64) : Bool :=
  b.ratedCapacityAh.isNone && b.capacityFadePct.isNone && b.powerW.isNone &&
    b.powerFadePct.isNone && b.internalResistanceMohm.isNone &&
    b.internalResistanceIncreasePct.isNone && b.roundTripEfficiencyPct.isNone &&
    b.roundTripEfficiencyFadePct.isNone && b.expectedLifetimeCycles.isNone &&
    b.expectedLifetimeYears.isNone

def dynamicMembers : List String :=
  ["ratedCapacityAh", "capacityFadePct", "powerW", "powerFadePct", "internalResistanceMohm",
    "internalResistanceIncreasePct", "roundTripEfficiencyPct", "roundTripEfficiencyFadePct",
    "expectedLifetimeYears"]

def parseDynamicPerformance : Read (Option (DynamicPerformance d.F64)) where
  value :=
    if (dynamicBlock d row rowNum).isEmpty then none else some (dynamicBlock d row rowNum)
  errors := dynamicMembers.flatMap fun member => (dynamicF64 d row rowNum member).errors

def bothLists : String :=
  "stateOfHealth carries both the electric-vehicle parameter (socePct) and the stationary/LMT " ++
    "ones. Annex VII Part A lists these as alternatives, so a battery reports one set or the " ++
    "other — fill only the columns for this battery's category."

def halfList : String :=
  "stateOfHealth for a stationary or LMT battery needs both remainingCapacityPct and " ++
    "selfDischargeRatePctPerMonth — Annex VII Part A lists items 1 and 4 unconditionally, " ++
    "unlike items 2, 3 and 5."

def healthF64 (member : String) : Read (Option d.F64) :=
  optionalF64 d.toParsers row ("stateOfHealth_" ++ member) rowNum

def optionalOnly : List String :=
  ["remainingPowerCapabilityPct", "remainingRoundTripEfficiencyPct", "ohmicResistanceMohm"]

/-- Of the two lists, the one the row carries; a row with both, or with part of the second, is
refused. -/
def parseStateOfHealth : Read (Except String (Option (StateOfHealth d.F64))) :=
  let soce := healthF64 d row rowNum "socePct"
  let capacity := healthF64 d row rowNum "remainingCapacityPct"
  let discharge := healthF64 d row rowNum "selfDischargeRatePctPerMonth"
  let errors := soce.errors ++ capacity.errors ++ discharge.errors
  match soce.value, capacity.value.or discharge.value with
  | some _, some _ => ⟨.error bothLists, errors⟩
  | some socePct, none => ⟨.ok (some (.electricVehicle socePct)), errors⟩
  | none, some _ =>
    match capacity.value, discharge.value with
    | some remaining, some rate =>
      let power := healthF64 d row rowNum "remainingPowerCapabilityPct"
      let efficiency := healthF64 d row rowNum "remainingRoundTripEfficiencyPct"
      let ohmic := healthF64 d row rowNum "ohmicResistanceMohm"
      ⟨.ok (some (.stationaryOrLmt remaining power.value efficiency.value rate ohmic.value)),
        errors ++ power.errors ++ efficiency.errors ++ ohmic.errors⟩
    | _, _ => ⟨.error halfList, errors⟩
  | none, none =>
    if optionalOnly.any fun member =>
        (row.get ("stateOfHealth_" ++ member)).any fun v => !isBlank v then
      ⟨.error halfList, errors⟩
    else ⟨.ok none, errors⟩

def normalisedStatus (raw : String) : String :=
  String.ofList ((trim raw).toList.map fun c =>
    if c = '-' ∨ c = ' ' then '_' else c.toLower)

def statusOf (raw : String) : Option BatteryStatus :=
  match normalisedStatus raw with
  | "original" => some .original
  | "repurposed" => some .repurposed
  | "re_used" | "reused" => some .reUsed
  | "remanufactured" => some .remanufactured
  | "waste" => some .waste
  | _ => none

def parseBatteryStatus : Option BatteryStatus := (present row "batteryStatus").bind statusOf

end Groups

section Rows

structure BatteryData (d : Domain) where
  productIdentifier : d.Gtin
  batteryChemistry : d.BatteryChemistry
  nominalVoltageV : d.F64
  nominalCapacityAh : d.F64
  expectedLifetimeCycles : Option ℕ
  co2ePerUnitKg : Option d.F64
  recycledContentCobaltPct : Option d.F64
  recycledContentLithiumPct : Option d.F64
  recycledContentNickelPct : Option d.F64
  recycledContentLeadPct : Option d.F64
  stateOfHealthPct : Option d.F64
  ratedCapacityKwh : Option d.F64
  carbonFootprintClass : Option d.CarbonFootprintClass
  dueDiligenceUrl : Option String
  batteryType : d.BatteryType
  batteryWeightKg : Option d.F64
  operatingTempMinC : Option d.F64
  operatingTempMaxC : Option d.F64
  roundTripEfficiencyPct : Option d.F64
  cathodeMaterial : Option (List (MaterialComposition d.F64))
  anodeMaterial : Option (List (MaterialComposition d.F64))
  electrolyteMaterial : Option (List (MaterialComposition d.F64))
  criticalRawMaterials : Option (List (CriticalRawMaterial d.F64))
  disassemblyInstructionsUrl : Option String
  stateOfHealth : Option (StateOfHealth d.F64)
  /-- The first moment of the day. -/
  manufacturingDate : Option d.Date
  manufacturingPlace : Option String
  batteryModelId : Option String
  batteryPassportNumber : Option String
  batteryStatus : Option BatteryStatus
  capacityThresholdForExhaustionPct : Option d.F64
  componentPartNumbers : Option (List String)
  cycleLifeTestCRate : Option d.F64
  dynamicPerformance : Option (DynamicPerformance d.F64)
  euDeclarationOfConformity : Option String
  expectedLifetimeReferenceTest : Option String
  hazardousSubstances : Option (List d.HazardousSubstance)
  initialRoundTripEfficiencyPct : Option d.F64
  internalCellResistanceMohm : Option d.F64
  internalPackResistanceMohm : Option d.F64
  markingInformation : Option String
  maximumVoltageV : Option d.F64
  minimalVoltageV : Option d.F64
  notInUseTemperatureRange : Option d.TemperatureRange
  notInUseTemperatureReferenceTest : Option String
  originalPowerCapabilityW : Option d.F64
  powerLimitMaxW : Option d.F64
  powerLimitMinW : Option d.F64
  renewableContentPct : Option d.F64
  roundTripEfficiencyAtHalfCycleLifePct : Option d.F64
  safetyMeasures : Option String
  sparePartsContacts : Option String
  testReportResults : Option String
  usableExtinguishingAgent : Option String
  wasteBatteryInformation : Option String

structure CreatePassportRequest (d : Domain) where
  productName : String
  manufacturer : ManufacturerInfo
  materials : Option (List (MaterialEntry d.F64))
  repairabilityScore : Option d.F64
  productGroupData : BatteryData d
  batchId : Option String
  placedOnMarketDate : Option d.Date
  commodityCode : Option String
  carrierSerial : Option String

structure Mandatory (d : Domain) where
  productName : String
  name : String
  address : String
  chemistry : String
  gtin : d.Gtin
  batteryType : d.BatteryType
  voltage : d.F64
  capacity : d.F64

variable (d : Domain) (row : Row) (rowNum : ℕ)

def typeOf (raw : String) : Except String d.BatteryType :=
  match d.readBatteryType raw with
  | some t => .ok t
  | none => .error (d.quoted raw ++ " is not a battery type recognised by Annex VI Part A — " ++
      "expected one of: portable, industrial, ev, lmt, starting-lighting-ignition")

def manufacturerCountry : Option String :=
  aliased row ["manufacturerCountry", "manufacturer_country"]

def manufacturerPostal : Option String :=
  aliased row ["manufacturerAddress", "manufacturer_address"]

def addressErrors : List RowError :=
  if (manufacturerCountry row).isNone && (manufacturerPostal row).isNone then
    [⟨rowNum, "manufacturerCountry", "manufacturerCountry is required"⟩]
  else []

def requireManufacturerName : Read (Option String) :=
  requireAliased row rowNum ["manufacturerName", "manufacturer_name"] "manufacturerName"

def float64 (field : String) : Read (Option d.F64) := optionalF64 d.toParsers row field rowNum

def stateOfHealthErrors : List RowError :=
  (parseStateOfHealth d row rowNum).errors ++
    match (parseStateOfHealth d row rowNum).value with
    | .ok _ => []
    | .error message => [⟨rowNum, "stateOfHealth", message⟩]

def batteryReadings : List (List RowError) :=
  [(requireStr row "productName" rowNum).errors,
    (requireStr row "gtin" rowNum).errors,
    (requireStr row "batchId" rowNum).errors,
    (requireManufacturerName row rowNum).errors,
    addressErrors row rowNum,
    (requireStr row "batteryChemistry" rowNum).errors,
    (requireF64 d.toParsers row "nominalVoltageV" rowNum).errors,
    (requireF64 d.toParsers row "nominalCapacityAh" rowNum).errors,
    (requireU32 row "expectedLifetimeCycles" rowNum).errors,
    (float64 d row rowNum "co2ePerUnitKg").errors,
    (optional row "gtin" rowNum d.parseGtin).errors,
    (float64 d row rowNum "recycledContentCobaltPct").errors,
    (float64 d row rowNum "recycledContentLithiumPct").errors,
    (float64 d row rowNum "recycledContentNickelPct").errors,
    (float64 d row rowNum "recycledContentLeadPct").errors,
    (float64 d row rowNum "stateOfHealthPct").errors,
    (float64 d row rowNum "ratedCapacityKwh").errors,
    (float64 d row rowNum "batteryWeightKg").errors,
    (float64 d row rowNum "operatingTempMinC").errors,
    (float64 d row rowNum "operatingTempMaxC").errors,
    (float64 d row rowNum "roundTripEfficiencyPct").errors,
    (required row "batteryType" rowNum (typeOf d)).errors,
    (float64 d row rowNum "repairabilityScore").errors,
    (optionalDate d.toParsers row "placedOnMarketDate" rowNum).errors,
    (optionalCommodityCode d.toParsers row "commodityCode" rowNum).errors,
    (optionalCarrierSerial d.toParsers row "carrierSerial" rowNum).errors,
    (optionalDate d.toParsers row "manufacturingDate" rowNum).errors,
    (float64 d row rowNum "minimalVoltageV").errors,
    (float64 d row rowNum "maximumVoltageV").errors,
    (float64 d row rowNum "originalPowerCapabilityW").errors,
    (float64 d row rowNum "powerLimitMinW").errors,
    (float64 d row rowNum "powerLimitMaxW").errors,
    (float64 d row rowNum "renewableContentPct").errors,
    (float64 d row rowNum "internalCellResistanceMohm").errors,
    (float64 d row rowNum "internalPackResistanceMohm").errors,
    (float64 d row rowNum "initialRoundTripEfficiencyPct").errors,
    (float64 d row rowNum "roundTripEfficiencyAtHalfCycleLifePct").errors,
    (float64 d row rowNum "cycleLifeTestCRate").errors,
    (float64 d row rowNum "capacityThresholdForExhaustionPct").errors,
    (parseComposition d row rowNum "cathode").errors,
    (parseComposition d row rowNum "anode").errors,
    (parseComposition d row rowNum "electrolyte").errors,
    (parseCriticalRawMaterials d row rowNum).errors,
    (parseHazardousSubstances d row rowNum).errors,
    (parseTemperatureRange d row rowNum).errors,
    (parseDynamicPerformance d row rowNum).errors,
    stateOfHealthErrors d row rowNum]

def batteryErrors : List RowError := (batteryReadings d row rowNum).flatten

def chemistryOf (raw : String) : d.BatteryChemistry := (d.readChemistry raw).getD d.otherChemistry

def batteryData (m : Mandatory d) : BatteryData d where
  productIdentifier := m.gtin
  batteryChemistry := chemistryOf d m.chemistry
  nominalVoltageV := m.voltage
  nominalCapacityAh := m.capacity
  expectedLifetimeCycles := (requireU32 row "expectedLifetimeCycles" rowNum).value
  co2ePerUnitKg := (float64 d row rowNum "co2ePerUnitKg").value
  recycledContentCobaltPct := (float64 d row rowNum "recycledContentCobaltPct").value
  recycledContentLithiumPct := (float64 d row rowNum "recycledContentLithiumPct").value
  recycledContentNickelPct := (float64 d row rowNum "recycledContentNickelPct").value
  recycledContentLeadPct := (float64 d row rowNum "recycledContentLeadPct").value
  stateOfHealthPct := (float64 d row rowNum "stateOfHealthPct").value
  ratedCapacityKwh := (float64 d row rowNum "ratedCapacityKwh").value
  carbonFootprintClass :=
    (optionalStr row "carbonFootprintClass").bind d.readCarbonFootprintClass
  dueDiligenceUrl := optionalStr row "dueDiligenceUrl"
  batteryType := m.batteryType
  batteryWeightKg := (float64 d row rowNum "batteryWeightKg").value
  operatingTempMinC := (float64 d row rowNum "operatingTempMinC").value
  operatingTempMaxC := (float64 d row rowNum "operatingTempMaxC").value
  roundTripEfficiencyPct := (float64 d row rowNum "roundTripEfficiencyPct").value
  cathodeMaterial := (parseComposition d row rowNum "cathode").value
  anodeMaterial := (parseComposition d row rowNum "anode").value
  electrolyteMaterial := (parseComposition d row rowNum "electrolyte").value
  criticalRawMaterials := (parseCriticalRawMaterials d row rowNum).value
  disassemblyInstructionsUrl := optionalStr row "disassemblyInstructionsUrl"
  stateOfHealth := (parseStateOfHealth d row rowNum).value.toOption.join
  manufacturingDate := (optionalDate d.toParsers row "manufacturingDate" rowNum).value
  manufacturingPlace := optionalStr row "manufacturingPlace"
  batteryModelId := optionalStr row "batteryModelId"
  batteryPassportNumber := optionalStr row "batteryPassportNumber"
  batteryStatus := parseBatteryStatus row
  capacityThresholdForExhaustionPct :=
    (float64 d row rowNum "capacityThresholdForExhaustionPct").value
  componentPartNumbers := parseComponentPartNumbers row
  cycleLifeTestCRate := (float64 d row rowNum "cycleLifeTestCRate").value
  dynamicPerformance := (parseDynamicPerformance d row rowNum).value
  euDeclarationOfConformity := optionalStr row "euDeclarationOfConformity"
  expectedLifetimeReferenceTest := optionalStr row "expectedLifetimeReferenceTest"
  hazardousSubstances := (parseHazardousSubstances d row rowNum).value
  initialRoundTripEfficiencyPct := (float64 d row rowNum "initialRoundTripEfficiencyPct").value
  internalCellResistanceMohm := (float64 d row rowNum "internalCellResistanceMohm").value
  internalPackResistanceMohm := (float64 d row rowNum "internalPackResistanceMohm").value
  markingInformation := optionalStr row "markingInformation"
  maximumVoltageV := (float64 d row rowNum "maximumVoltageV").value
  minimalVoltageV := (float64 d row rowNum "minimalVoltageV").value
  notInUseTemperatureRange := (parseTemperatureRange d row rowNum).value
  notInUseTemperatureReferenceTest := optionalStr row "notInUseTemperatureReferenceTest"
  originalPowerCapabilityW := (float64 d row rowNum "originalPowerCapabilityW").value
  powerLimitMaxW := (float64 d row rowNum "powerLimitMaxW").value
  powerLimitMinW := (float64 d row rowNum "powerLimitMinW").value
  renewableContentPct := (float64 d row rowNum "renewableContentPct").value
  roundTripEfficiencyAtHalfCycleLifePct :=
    (float64 d row rowNum "roundTripEfficiencyAtHalfCycleLifePct").value
  safetyMeasures := optionalStr row "safetyMeasures"
  sparePartsContacts := optionalStr row "sparePartsContacts"
  testReportResults := optionalStr row "testReportResults"
  usableExtinguishingAgent := optionalStr row "usableExtinguishingAgent"
  wasteBatteryInformation := optionalStr row "wasteBatteryInformation"

def batteryRequest (m : Mandatory d) : CreatePassportRequest d where
  productName := m.productName
  manufacturer :=
    { name := m.name
      address := m.address
      registeredTradeName := none
      electronicAddress := none
      country := manufacturerCountry row
      didWebUrl := aliased row ["didWebUrl", "manufacturerDidWebUrl", "manufacturer_didWebUrl"] }
  materials := nonEmpty (parseMaterials d.toParsers row)
  repairabilityScore := (float64 d row rowNum "repairabilityScore").value
  productGroupData := batteryData d row rowNum m
  batchId := (requireStr row "batchId" rowNum).value
  placedOnMarketDate := (optionalDate d.toParsers row "placedOnMarketDate" rowNum).value
  commodityCode := (optionalCommodityCode d.toParsers row "commodityCode" rowNum).value
  carrierSerial := (optionalCarrierSerial d.toParsers row "carrierSerial" rowNum).value

def validateBatteryRow : Except (List RowError) (CreatePassportRequest d) :=
  if batteryErrors d row rowNum ≠ [] then .error (batteryErrors d row rowNum)
  else
    match (requireStr row "productName" rowNum).value,
      (requireManufacturerName row rowNum).value,
      (manufacturerPostal row).or (manufacturerCountry row),
      (requireStr row "batteryChemistry" rowNum).value,
      (optional row "gtin" rowNum d.parseGtin).value,
      (required row "batteryType" rowNum (typeOf d)).value,
      (requireF64 d.toParsers row "nominalVoltageV" rowNum).value,
      (requireF64 d.toParsers row "nominalCapacityAh" rowNum).value with
    | some productName, some name, some address, some chemistry, some gtin, some batteryType,
      some voltage, some capacity =>
      .ok (batteryRequest d row rowNum
        ⟨productName, name, address, chemistry, gtin, batteryType, voltage, capacity⟩)
    -- with no errors, everything that is required was there
    | _, _, _, _, _, _, _, _ => .error []

end Rows

section Templates

inductive BatteryCategory where
  | ev | lmt | industrial
  deriving DecidableEq, Repr

def columns : List String :=
  ["productName", "gtin", "batchId", "manufacturerName", "manufacturerCountry", "batteryChemistry",
    "batteryType", "nominalVoltageV", "nominalCapacityAh", "expectedLifetimeCycles",
    "co2ePerUnitKg", "recycledContentCobaltPct", "recycledContentLithiumPct",
    "recycledContentNickelPct", "recycledContentLeadPct", "stateOfHealthPct", "ratedCapacityKwh",
    "batteryWeightKg", "operatingTempMinC", "operatingTempMaxC", "roundTripEfficiencyPct",
    "dueDiligenceUrl", "carbonFootprintClass", "repairabilityScore", "placedOnMarketDate",
    "commodityCode", "carrierSerial"]

def commonColumns : List String :=
  ["batteryModelId", "manufacturingPlace", "manufacturingDate", "batteryWeightKg",
    "nominalCapacityAh", "batteryChemistry", "batteryStatus", "expectedLifetimeCycles",
    "usableExtinguishingAgent", "hazardous_1_name", "hazardous_1_casNumber",
    "hazardous_1_concentrationPct", "criticalRaw_1_name", "criticalRaw_1_casNumber",
    "criticalRaw_1_weightGrams", "criticalRaw_1_countryOfOrigin", "renewableContentPct",
    "minimalVoltageV", "nominalVoltageV", "maximumVoltageV", "originalPowerCapabilityW",
    "powerLimitMinW", "powerLimitMaxW", "internalCellResistanceMohm",
    "internalPackResistanceMohm", "notInUseTemperatureMinC", "notInUseTemperatureMaxC",
    "notInUseTemperatureReferenceTest", "markingInformation", "euDeclarationOfConformity",
    "wasteBatteryInformation", "sparePartsContacts", "disassemblyInstructionsUrl",
    "safetyMeasures", "testReportResults", "cathode_1_name", "cathode_1_weightPct",
    "cathode_1_casNumber", "anode_1_name", "anode_1_weightPct", "anode_1_casNumber",
    "electrolyte_1_name", "electrolyte_1_weightPct", "electrolyte_1_casNumber",
    "componentPartNumbers"]

def performanceColumns : List String :=
  ["expectedLifetimeReferenceTest", "cycleLifeTestCRate", "initialRoundTripEfficiencyPct",
    "roundTripEfficiencyAtHalfCycleLifePct", "dynamicPerformance_ratedCapacityAh",
    "dynamicPerformance_capacityFadePct", "dynamicPerformance_powerW",
    "dynamicPerformance_powerFadePct", "dynamicPerformance_internalResistanceMohm",
    "dynamicPerformance_internalResistanceIncreasePct",
    "dynamicPerformance_roundTripEfficiencyPct", "dynamicPerformance_roundTripEfficiencyFadePct",
    "dynamicPerformance_expectedLifetimeCycles", "dynamicPerformance_expectedLifetimeYears"]

def stationaryColumns : List String :=
  ["stateOfHealth_remainingCapacityPct", "stateOfHealth_selfDischargeRatePctPerMonth",
    "stateOfHealth_remainingPowerCapabilityPct", "stateOfHealth_remainingRoundTripEfficiencyPct",
    "stateOfHealth_ohmicResistanceMohm"]

def templateColumns (category : BatteryCategory) : List String :=
  ["productName", "gtin", "batchId", "manufacturerName", "manufacturerCountry", "commodityCode",
    "carrierSerial", "batteryType", "batteryPassportNumber"] ++ commonColumns ++
    match category with
    | .ev => performanceColumns ++ ["capacityThresholdForExhaustionPct", "stateOfHealth_socePct"]
    | .lmt => performanceColumns ++ stationaryColumns
    | .industrial => stationaryColumns ++ ["ratedCapacityKwh"]

end Templates

section Headers

variable (d : Domain)

/-- A header of the templates, for a row: which of its cells reach the request whatever else the
row says, as what, and which are reported. -/
structure Header where
  name : String
  promised : Row → String → Prop
  stated : Row → CreatePassportRequest d → String → Prop
  reported : Row → String → Prop

def textHeader (name : String) (value : CreatePassportRequest d → Option String) : Header d where
  name := name
  promised _ _ := True
  stated _ request v := value request = some v
  reported _ _ := False

def readHeader {α : Type} (name : String) (parse : String → Except String α)
    (value : CreatePassportRequest d → Option α) : Header d where
  name := name
  promised _ _ := True
  stated _ request v := ∃ a, parse v = .ok a ∧ value request = some a
  reported _ v := ∃ message, parse v = .error message

def lenientHeader {α : Type} (name : String) (read : String → Option α)
    (value : CreatePassportRequest d → Option α) : Header d where
  name := name
  promised _ v := (read v).isSome
  stated _ request v := ∃ a, read v = some a ∧ value request = some a
  reported _ _ := False

def textColumns : List (String × (CreatePassportRequest d → Option String)) :=
  [("productName", fun r => some r.productName),
    ("batchId", fun r => r.batchId),
    ("manufacturerName", fun r => some r.manufacturer.name),
    ("manufacturerCountry", fun r => r.manufacturer.country),
    ("dueDiligenceUrl", fun r => r.productGroupData.dueDiligenceUrl),
    ("disassemblyInstructionsUrl", fun r => r.productGroupData.disassemblyInstructionsUrl),
    ("manufacturingPlace", fun r => r.productGroupData.manufacturingPlace),
    ("batteryModelId", fun r => r.productGroupData.batteryModelId),
    ("batteryPassportNumber", fun r => r.productGroupData.batteryPassportNumber),
    ("euDeclarationOfConformity", fun r => r.productGroupData.euDeclarationOfConformity),
    ("expectedLifetimeReferenceTest", fun r => r.productGroupData.expectedLifetimeReferenceTest),
    ("markingInformation", fun r => r.productGroupData.markingInformation),
    ("notInUseTemperatureReferenceTest",
      fun r => r.productGroupData.notInUseTemperatureReferenceTest),
    ("safetyMeasures", fun r => r.productGroupData.safetyMeasures),
    ("sparePartsContacts", fun r => r.productGroupData.sparePartsContacts),
    ("testReportResults", fun r => r.productGroupData.testReportResults),
    ("usableExtinguishingAgent", fun r => r.productGroupData.usableExtinguishingAgent),
    ("wasteBatteryInformation", fun r => r.productGroupData.wasteBatteryInformation)]

def numberColumns : List (String × (CreatePassportRequest d → Option d.F64)) :=
  [("nominalVoltageV", fun r => some r.productGroupData.nominalVoltageV),
    ("nominalCapacityAh", fun r => some r.productGroupData.nominalCapacityAh),
    ("co2ePerUnitKg", fun r => r.productGroupData.co2ePerUnitKg),
    ("recycledContentCobaltPct", fun r => r.productGroupData.recycledContentCobaltPct),
    ("recycledContentLithiumPct", fun r => r.productGroupData.recycledContentLithiumPct),
    ("recycledContentNickelPct", fun r => r.productGroupData.recycledContentNickelPct),
    ("recycledContentLeadPct", fun r => r.productGroupData.recycledContentLeadPct),
    ("stateOfHealthPct", fun r => r.productGroupData.stateOfHealthPct),
    ("ratedCapacityKwh", fun r => r.productGroupData.ratedCapacityKwh),
    ("batteryWeightKg", fun r => r.productGroupData.batteryWeightKg),
    ("operatingTempMinC", fun r => r.productGroupData.operatingTempMinC),
    ("operatingTempMaxC", fun r => r.productGroupData.operatingTempMaxC),
    ("roundTripEfficiencyPct", fun r => r.productGroupData.roundTripEfficiencyPct),
    ("repairabilityScore", fun r => r.repairabilityScore),
    ("minimalVoltageV", fun r => r.productGroupData.minimalVoltageV),
    ("maximumVoltageV", fun r => r.productGroupData.maximumVoltageV),
    ("originalPowerCapabilityW", fun r => r.productGroupData.originalPowerCapabilityW),
    ("powerLimitMinW", fun r => r.productGroupData.powerLimitMinW),
    ("powerLimitMaxW", fun r => r.productGroupData.powerLimitMaxW),
    ("renewableContentPct", fun r => r.productGroupData.renewableContentPct),
    ("internalCellResistanceMohm", fun r => r.productGroupData.internalCellResistanceMohm),
    ("internalPackResistanceMohm", fun r => r.productGroupData.internalPackResistanceMohm),
    ("initialRoundTripEfficiencyPct", fun r => r.productGroupData.initialRoundTripEfficiencyPct),
    ("roundTripEfficiencyAtHalfCycleLifePct",
      fun r => r.productGroupData.roundTripEfficiencyAtHalfCycleLifePct),
    ("cycleLifeTestCRate", fun r => r.productGroupData.cycleLifeTestCRate),
    ("capacityThresholdForExhaustionPct",
      fun r => r.productGroupData.capacityThresholdForExhaustionPct)]

def dynamicColumns : List (String × (DynamicPerformance d.F64 → Option d.F64)) :=
  [("ratedCapacityAh", fun b => b.ratedCapacityAh),
    ("capacityFadePct", fun b => b.capacityFadePct),
    ("powerW", fun b => b.powerW),
    ("powerFadePct", fun b => b.powerFadePct),
    ("internalResistanceMohm", fun b => b.internalResistanceMohm),
    ("internalResistanceIncreasePct", fun b => b.internalResistanceIncreasePct),
    ("roundTripEfficiencyPct", fun b => b.roundTripEfficiencyPct),
    ("roundTripEfficiencyFadePct", fun b => b.roundTripEfficiencyFadePct),
    ("expectedLifetimeYears", fun b => b.expectedLifetimeYears)]

def StateOfHealth.socePct {F64 : Type} : StateOfHealth F64 → Option F64
  | .electricVehicle socePct => some socePct
  | .stationaryOrLmt .. => none

def StateOfHealth.stationary {F64 : Type} (member : F64 → Option F64 → Option F64 → F64 →
    Option F64 → Option F64) : StateOfHealth F64 → Option F64
  | .electricVehicle _ => none
  | .stationaryOrLmt capacity power efficiency rate ohmic =>
    member capacity power efficiency rate ohmic

def healthColumns : List (String × (StateOfHealth d.F64 → Option d.F64)) :=
  [("socePct", StateOfHealth.socePct),
    ("remainingCapacityPct", StateOfHealth.stationary fun capacity _ _ _ _ => some capacity),
    ("selfDischargeRatePctPerMonth", StateOfHealth.stationary fun _ _ _ rate _ => some rate)]

def optionalHealthColumns : List (String × (StateOfHealth d.F64 → Option d.F64)) :=
  [("remainingPowerCapabilityPct", StateOfHealth.stationary fun _ power _ _ _ => power),
    ("remainingRoundTripEfficiencyPct",
      StateOfHealth.stationary fun _ _ efficiency _ _ => efficiency),
    ("ohmicResistanceMohm", StateOfHealth.stationary fun _ _ _ _ ohmic => ohmic)]

/-- Beside the first list's column these are not read. -/
def optionalHealthHeader (member : String) (value : StateOfHealth d.F64 → Option d.F64) :
    Header d where
  name := "stateOfHealth_" ++ member
  promised row _ := present row "stateOfHealth_socePct" = none
  stated _ request v := ∃ a, float d.toParsers v = .ok a ∧
    request.productGroupData.stateOfHealth.bind value = some a
  reported row v := present row "stateOfHealth_socePct" = none ∧
    (∃ capacity x, present row "stateOfHealth_remainingCapacityPct" = some capacity ∧
      float d.toParsers capacity = .ok x) ∧
    (∃ rate x, present row "stateOfHealth_selfDischargeRatePctPerMonth" = some rate ∧
      float d.toParsers rate = .ok x) ∧
    ∃ message, float d.toParsers v = .error message

/-- An end of the range is read with the other; the upper one not even without the lower. -/
def temperatureHeaders : List (Header d) :=
  [{ name := "notInUseTemperatureMinC"
     promised row v := ∃ upper, present row "notInUseTemperatureMaxC" = some upper ∧
       ∀ x y, float d.toParsers v = .ok x → float d.toParsers upper = .ok y →
         (d.temperatureRange x y).isSome
     stated row request v := ∃ upper x y, present row "notInUseTemperatureMaxC" = some upper ∧
       float d.toParsers v = .ok x ∧ float d.toParsers upper = .ok y ∧
       request.productGroupData.notInUseTemperatureRange = d.temperatureRange x y ∧
       (d.temperatureRange x y).isSome
     reported _ v := ∃ message, float d.toParsers v = .error message },
   { name := "notInUseTemperatureMaxC"
     promised row v := ∃ lower, present row "notInUseTemperatureMinC" = some lower ∧
       ∀ x y, float d.toParsers lower = .ok x → float d.toParsers v = .ok y →
         (d.temperatureRange x y).isSome
     stated row request v := ∃ lower x y, present row "notInUseTemperatureMinC" = some lower ∧
       float d.toParsers lower = .ok x ∧ float d.toParsers v = .ok y ∧
       request.productGroupData.notInUseTemperatureRange = d.temperatureRange x y ∧
       (d.temperatureRange x y).isSome
     reported row v := (∃ lower x, present row "notInUseTemperatureMinC" = some lower ∧
       float d.toParsers lower = .ok x) ∧ ∃ message, float d.toParsers v = .error message }]

def strictHeaders : List (Header d) :=
  [readHeader d "gtin" d.parseGtin fun r => some r.productGroupData.productIdentifier,
    readHeader d "placedOnMarketDate" (date d.toParsers) fun r => r.placedOnMarketDate,
    readHeader d "manufacturingDate" (date d.toParsers)
      fun r => r.productGroupData.manufacturingDate,
    readHeader d "commodityCode" (commodityCode d.toParsers) fun r => r.commodityCode,
    readHeader d "carrierSerial" (carrierSerial d.toParsers) fun r => r.carrierSerial,
    readHeader d "batteryType" (typeOf d) fun r => some r.productGroupData.batteryType,
    readHeader d "expectedLifetimeCycles" count
      fun r => r.productGroupData.expectedLifetimeCycles]

def lenientHeaders : List (Header d) :=
  [lenientHeader d "batteryChemistry" d.readChemistry
      fun r => some r.productGroupData.batteryChemistry,
    lenientHeader d "carbonFootprintClass" d.readCarbonFootprintClass
      fun r => r.productGroupData.carbonFootprintClass,
    lenientHeader d "batteryStatus" statusOf fun r => r.productGroupData.batteryStatus,
    lenientHeader d "componentPartNumbers" (fun v => nonEmpty (partsOf v))
      fun r => r.productGroupData.componentPartNumbers,
    lenientHeader d "dynamicPerformance_expectedLifetimeCycles" (fun v => parseU32 (trim v))
      fun r => r.productGroupData.dynamicPerformance.bind fun b => b.expectedLifetimeCycles]

def unconditionalItems : List String := ["remainingCapacityPct", "selfDischargeRatePctPerMonth"]

/-- The row has cells of both lists, or some of the second and not its two items. -/
def SplitHealth (row : Row) : Prop :=
  ((present row "stateOfHealth_socePct").isSome ∧
    ∃ item ∈ unconditionalItems, (present row ("stateOfHealth_" ++ item)).isSome) ∨
  present row "stateOfHealth_socePct" = none ∧
    (∃ item ∈ unconditionalItems, present row ("stateOfHealth_" ++ item) = none) ∧
    ∃ member ∈ unconditionalItems ++ optionalOnly, ∃ v,
      row.get ("stateOfHealth_" ++ member) = some v ∧ isBlank v = false

def headers : List (Header d) :=
  (textColumns d).map (fun c => textHeader d c.1 c.2) ++
    (numberColumns d).map (fun c => readHeader d c.1 (float d.toParsers) c.2) ++
    (dynamicColumns d).map (fun c => readHeader d ("dynamicPerformance_" ++ c.1) (float d.toParsers)
      fun r => r.productGroupData.dynamicPerformance.bind c.2) ++
    (healthColumns d).map (fun c => readHeader d ("stateOfHealth_" ++ c.1) (float d.toParsers)
      fun r => r.productGroupData.stateOfHealth.bind c.2) ++
    (optionalHealthColumns d).map (fun c => optionalHealthHeader d c.1 c.2) ++
    temperatureHeaders d ++ strictHeaders d ++ lenientHeaders d

def Named (row : Row) (group : String) (slot : ℕ) : Prop :=
  slot ∈ slots ∧ (present row (slotHeader group slot "name")).isSome

def memberHeader {α : Type} (group : String) (slot : ℕ) (member : String)
    (entries : CreatePassportRequest d → Option (List α)) (holds : α → String → String → Prop)
    (promised reported : Row → String → Prop) : Header d where
  name := slotHeader group slot member
  promised row v := Named row group slot ∧ promised row v
  stated row request v := ∃ entry ∈ (entries request).getD [], ∃ named,
    present row (slotHeader group slot "name") = some named ∧ holds entry named v
  reported row v := Named row group slot ∧ reported row v

def compositionHeaders (group : String)
    (entries : CreatePassportRequest d → Option (List (MaterialComposition d.F64))) (slot : ℕ) :
    List (Header d) :=
  [memberHeader d group slot "name" entries (fun m _ v => m.name = v)
      (fun row _ => (present row (slotHeader group slot "weightPct")).isSome) fun _ _ => False,
    memberHeader d group slot "weightPct" entries
      (fun m named v => m.name = named ∧ float d.toParsers v = .ok m.weightPct)
      (fun _ _ => True) fun _ v => ∃ message, float d.toParsers v = .error message,
    memberHeader d group slot "casNumber" entries
      (fun m named v => m.name = named ∧ m.casNumber = some v)
      (fun row _ => (present row (slotHeader group slot "weightPct")).isSome) fun _ _ => False]

def criticalRawHeaders (slot : ℕ) : List (Header d) :=
  let entries := fun r : CreatePassportRequest d => r.productGroupData.criticalRawMaterials
  [memberHeader d "criticalRaw" slot "name" entries (fun m _ v => m.name = v)
      (fun _ _ => True) fun _ _ => False,
    memberHeader d "criticalRaw" slot "casNumber" entries
      (fun m named v => m.name = named ∧ m.casNumber = some v) (fun _ _ => True) fun _ _ => False,
    memberHeader d "criticalRaw" slot "weightGrams" entries
      (fun m named v => m.name = named ∧ ∃ x, float d.toParsers v = .ok x ∧ m.weightGrams = some x)
      (fun _ _ => True) fun _ v => ∃ message, float d.toParsers v = .error message,
    memberHeader d "criticalRaw" slot "countryOfOrigin" entries
      (fun m named v => m.name = named ∧ m.countryOfOrigin = some v) (fun _ _ => True)
      fun _ _ => False]

def TakesSubstances : Prop := ∀ name cas concentration,
  (d.hazardousSubstance name cas concentration).isSome

def Made (s : d.HazardousSubstance) (named : String)
    (holds : Option String → Option d.F64 → Prop) : Prop :=
  ∃ cas concentration, d.hazardousSubstance named cas concentration = some s ∧
    holds cas concentration

def hazardousHeaders (slot : ℕ) : List (Header d) :=
  let entries := fun r : CreatePassportRequest d => r.productGroupData.hazardousSubstances
  [memberHeader d "hazardous" slot "name" entries (fun s _ v => Made d s v fun _ _ => True)
      (fun _ _ => TakesSubstances d) fun _ _ => False,
    memberHeader d "hazardous" slot "casNumber" entries
      (fun s named v => Made d s named fun cas _ => cas = some v) (fun _ _ => TakesSubstances d)
      fun _ _ => False,
    memberHeader d "hazardous" slot "concentrationPct" entries
      (fun s named v => Made d s named fun _ concentration =>
        ∃ x, float d.toParsers v = .ok x ∧ concentration = some x)
      (fun _ _ => TakesSubstances d)
      fun _ v => TakesSubstances d ∧ ∃ message, float d.toParsers v = .error message]

def materialHeaders (slot : ℕ) : List (Header d) :=
  let entries := fun r : CreatePassportRequest d => r.materials
  [memberHeader d "material" slot "name" entries (fun m _ v => m.name = v)
      (fun _ _ => True) fun _ _ => False,
    memberHeader d "material" slot "weightKg" entries
      (fun m named v => m.name = named ∧ float d.toParsers v = .ok m.weightKg)
      (fun _ v => ∃ x, float d.toParsers v = .ok x) fun _ _ => False,
    memberHeader d "material" slot "recycledPct" entries
      (fun m named v => m.name = named ∧ ∃ x, float d.toParsers v = .ok x ∧ m.recycledPct = some x)
      (fun _ v => ∃ x, float d.toParsers v = .ok x) fun _ _ => False,
    memberHeader d "material" slot "countryOfOrigin" entries
      (fun m named v => m.name = named ∧ m.countryOfOrigin = some v) (fun _ _ => True)
      fun _ _ => False]

def slotHeaders (slot : ℕ) : List (Header d) :=
  compositionHeaders d "cathode" (fun r => r.productGroupData.cathodeMaterial) slot ++
    compositionHeaders d "anode" (fun r => r.productGroupData.anodeMaterial) slot ++
    compositionHeaders d "electrolyte" (fun r => r.productGroupData.electrolyteMaterial) slot ++
    criticalRawHeaders d slot ++ hazardousHeaders d slot ++ materialHeaders d slot

def IsHeader (h : Header d) : Prop := h ∈ headers d ∨ ∃ slot, h ∈ slotHeaders d slot

end Headers

section Reading

variable {d : Domain} {row : Row} {rowNum : ℕ} {request : CreatePassportRequest d}

theorem nonEmpty_getD {α : Type} (l : List α) : (nonEmpty l).getD [] = l := by
  cases l <;> rfl

theorem mem_batteryErrors {part : List RowError} {e : RowError}
    (hpart : part ∈ batteryReadings d row rowNum) (he : e ∈ part) :
    e ∈ batteryErrors d row rowNum :=
  List.mem_flatten.mpr ⟨part, hpart, he⟩

structure Mandatory.ReadFrom (m : Mandatory d) (row : Row) (rowNum : ℕ) : Prop where
  productName : (requireStr row "productName" rowNum).value = some m.productName
  name : (requireManufacturerName row rowNum).value = some m.name
  address : (manufacturerPostal row).or (manufacturerCountry row) = some m.address
  chemistry : (requireStr row "batteryChemistry" rowNum).value = some m.chemistry
  gtin : (optional row "gtin" rowNum d.parseGtin).value = some m.gtin
  batteryType : (required row "batteryType" rowNum (typeOf d)).value = some m.batteryType
  voltage : (requireF64 d.toParsers row "nominalVoltageV" rowNum).value = some m.voltage
  capacity : (requireF64 d.toParsers row "nominalCapacityAh" rowNum).value = some m.capacity

theorem validateBatteryRow_ok (h : validateBatteryRow d row rowNum = .ok request) :
    (∀ part ∈ batteryReadings d row rowNum, part = []) ∧
      ∃ m : Mandatory d, m.ReadFrom row rowNum ∧ request = batteryRequest d row rowNum m := by
  unfold validateBatteryRow at h
  split at h
  next => cases h
  next hnone =>
    split at h
    next hproduct hname haddress hchemistry hgtin htype hvoltage hcapacity =>
      cases h
      refine ⟨?_, _, ⟨hproduct, hname, haddress, hchemistry, hgtin, htype, hvoltage, hcapacity⟩,
        rfl⟩
      exact fun part hpart => List.flatten_eq_nil_iff.mp (not_not.mp hnone) part hpart
    next => cases h

theorem validateBatteryRow_error {e : RowError} (h : e ∈ batteryErrors d row rowNum) :
    validateBatteryRow d row rowNum = .error (batteryErrors d row rowNum) := by
  unfold validateBatteryRow
  exact if_pos (List.ne_nil_of_mem h)

/-- Every cell under the header that is promised reaches the request, and every one that is to be
reported names the header. -/
def Header.Accounted (h : Header d) (row : Row) (rowNum : ℕ) : Prop :=
  ∀ v, row.get h.name = some v → isBlank v = false →
    (∀ request, validateBatteryRow d row rowNum = .ok request → h.promised row v →
      h.stated row request v) ∧
    (h.reported row v → ∃ e ∈ batteryErrors d row rowNum, e.field = h.name)

theorem readHeader_accounted {α : Type} {name : String} {parse : String → Except String α}
    {value : CreatePassportRequest d → Option α} {part : List RowError}
    (hpart : part ∈ batteryReadings d row rowNum)
    (herrors : ∀ v, present row name = some v → (optional row name rowNum parse).errors ⊆ part)
    (hvalue : ∀ v request, present row name = some v →
      validateBatteryRow d row rowNum = .ok request →
      value request = (optional row name rowNum parse).value) :
    (readHeader d name parse value).Accounted row rowNum := by
  intro v hget hblank
  have hpresent : present row name = some v := present_of_get hget hblank
  constructor
  · intro request hok _
    have hnil : (optional row name rowNum parse).errors = [] := by
      refine List.subset_nil.mp ?_
      rw [← (validateBatteryRow_ok hok).1 part hpart]
      exact herrors v hpresent
    obtain ⟨a, hparse, hread⟩ := optional_read hpresent hnil
    exact ⟨a, hparse, (hvalue v request hpresent hok).trans hread⟩
  · rintro ⟨message, hparse⟩
    have hread := @optional_error _ _ _ rowNum _ _ _ hpresent hparse
    refine ⟨⟨rowNum, name, message⟩, mem_batteryErrors hpart ?_, rfl⟩
    exact herrors v hpresent (by rw [hread]; exact List.mem_singleton_self _)

theorem optionalHeader_accounted {α : Type} {name : String} {parse : String → Except String α}
    {value : CreatePassportRequest d → Option α}
    (hpart : (optional row name rowNum parse).errors ∈ batteryReadings d row rowNum)
    (hvalue : ∀ m : Mandatory d, m.ReadFrom row rowNum →
      value (batteryRequest d row rowNum m) = (optional row name rowNum parse).value) :
    (readHeader d name parse value).Accounted row rowNum := by
  refine readHeader_accounted hpart (fun _ _ => List.Subset.refl _) ?_
  intro v request _ hok
  obtain ⟨_, m, hm, rfl⟩ := validateBatteryRow_ok hok
  exact hvalue m hm

theorem requiredHeader_accounted {α : Type} {name : String} {parse : String → Except String α}
    {value : CreatePassportRequest d → Option α}
    (hpart : (required row name rowNum parse).errors ∈ batteryReadings d row rowNum)
    (hvalue : ∀ m : Mandatory d, m.ReadFrom row rowNum →
      value (batteryRequest d row rowNum m) = (required row name rowNum parse).value) :
    (readHeader d name parse value).Accounted row rowNum := by
  refine readHeader_accounted hpart ?_ ?_
  · intro v hpresent
    rw [required_present hpresent]
    exact List.Subset.refl _
  · intro v request hpresent hok
    obtain ⟨_, m, hm, rfl⟩ := validateBatteryRow_ok hok
    exact (hvalue m hm).trans (congrArg Read.value (required_present hpresent))

theorem requireStr_value {field v w : String} (h : present row field = some v)
    (hvalue : (requireStr row field rowNum).value = some w) : w = v := by
  rw [requireStr_present h] at hvalue
  exact (Option.some.inj hvalue).symm

theorem aliased_first {field v : String} (h : present row field = some v)
    (others : List String) : aliased row (field :: others) = some v := by
  unfold aliased
  rw [List.findSome?_cons, h]

theorem textColumns_read : ∀ c ∈ (textColumns d).drop 4,
    ∀ m, c.2 (batteryRequest d row rowNum m) = present row c.1 := by
  intro c hc m
  have hmap : ((textColumns d).drop 4).map (fun c => c.2 (batteryRequest d row rowNum m)) =
      ((textColumns d).drop 4).map (fun c => present row c.1) := rfl
  exact List.map_inj_left.mp hmap c hc

theorem textColumns_accounted : ∀ c ∈ textColumns d,
    (textHeader d c.1 c.2).Accounted row rowNum := by
  intro c hc v hget hblank
  have hpresent : present row c.1 = some v := present_of_get hget hblank
  refine ⟨?_, False.elim⟩
  intro request hok _
  obtain ⟨_, m, hm, rfl⟩ := validateBatteryRow_ok hok
  simp only [textColumns, List.mem_cons] at hc
  rcases hc with rfl | rfl | rfl | rfl | hc
  · exact congrArg some (requireStr_value hpresent hm.productName)
  · exact congrArg Read.value (requireStr_present hpresent)
  · have hfirst : aliased row ["manufacturerName", "manufacturer_name"] = some v :=
      aliased_first hpresent _
    have hname := hm.name
    unfold requireManufacturerName requireAliased at hname
    rw [hfirst] at hname
    exact hname.symm
  · exact aliased_first hpresent _
  · have hmem : c ∈ (textColumns d).drop 4 := by simpa [textColumns] using hc
    exact (textColumns_read c hmem m).trans hpresent

theorem numberColumns_errors : ∀ c ∈ (numberColumns d).drop 2,
    (float64 d row rowNum c.1).errors ∈ batteryReadings d row rowNum := by
  simp [numberColumns, batteryReadings]

theorem numberColumns_read : ∀ c ∈ (numberColumns d).drop 2,
    ∀ m, c.2 (batteryRequest d row rowNum m) = (float64 d row rowNum c.1).value := by
  intro c hc m
  have hmap : ((numberColumns d).drop 2).map (fun c => c.2 (batteryRequest d row rowNum m)) =
      ((numberColumns d).drop 2).map (fun c => (float64 d row rowNum c.1).value) := rfl
  exact List.map_inj_left.mp hmap c hc

theorem numberColumns_accounted : ∀ c ∈ numberColumns d,
    (readHeader d c.1 (float d.toParsers) c.2).Accounted row rowNum := by
  intro c hc
  have hsplit : c = ("nominalVoltageV", fun r => some r.productGroupData.nominalVoltageV) ∨
      c = ("nominalCapacityAh", fun r => some r.productGroupData.nominalCapacityAh) ∨
      c ∈ (numberColumns d).drop 2 := by
    simpa [numberColumns] using hc
  rcases hsplit with rfl | rfl | hc
  · have hpart : (requireF64 d.toParsers row "nominalVoltageV" rowNum).errors ∈
        batteryReadings d row rowNum := by simp [batteryReadings]
    exact requiredHeader_accounted hpart fun m hm => hm.voltage.symm
  · have hpart : (requireF64 d.toParsers row "nominalCapacityAh" rowNum).errors ∈
        batteryReadings d row rowNum := by simp [batteryReadings]
    exact requiredHeader_accounted hpart fun m hm => hm.capacity.symm
  · exact optionalHeader_accounted (numberColumns_errors c hc) fun m _ => numberColumns_read c hc m

theorem dynamicColumns_member : ∀ c ∈ dynamicColumns d, c.1 ∈ dynamicMembers := by
  simp [dynamicColumns, dynamicMembers]

theorem dynamicColumns_read : ∀ c ∈ dynamicColumns d,
    c.2 (dynamicBlock d row rowNum) = (dynamicF64 d row rowNum c.1).value := by
  have hmap : (dynamicColumns d).map (fun c => c.2 (dynamicBlock d row rowNum)) =
      (dynamicColumns d).map (fun c => (dynamicF64 d row rowNum c.1).value) := rfl
  exact List.map_inj_left.mp hmap

theorem dynamicColumns_empty {b : DynamicPerformance d.F64} (h : b.isEmpty) :
    ∀ c ∈ dynamicColumns d, c.2 b = none := by
  simp only [DynamicPerformance.isEmpty, Bool.and_eq_true, Option.isNone_iff_eq_none] at h
  simp [dynamicColumns, h]

/-- A member of the block is what it would be without one, where the block is left out. -/
theorem dynamicPerformance_bind {α : Type} {get : DynamicPerformance d.F64 → Option α}
    (h : (dynamicBlock d row rowNum).isEmpty → get (dynamicBlock d row rowNum) = none) :
    (parseDynamicPerformance d row rowNum).value.bind get = get (dynamicBlock d row rowNum) := by
  unfold parseDynamicPerformance
  cases hempty : (dynamicBlock d row rowNum).isEmpty with
  | true => simp [h hempty]
  | false => rfl

theorem dynamicColumns_accounted : ∀ c ∈ dynamicColumns d,
    (readHeader d ("dynamicPerformance_" ++ c.1) (float d.toParsers)
      fun r => r.productGroupData.dynamicPerformance.bind c.2).Accounted row rowNum := by
  intro c hc
  refine @readHeader_accounted _ _ _ _ _ _ _ (parseDynamicPerformance d row rowNum).errors
    (by simp [batteryReadings]) ?_ ?_
  · intro v _ e he
    exact List.mem_flatMap.mpr ⟨c.1, dynamicColumns_member c hc, he⟩
  · intro v request _ hok
    obtain ⟨_, m, _, rfl⟩ := validateBatteryRow_ok hok
    have hempty : (dynamicBlock d row rowNum).isEmpty → c.2 (dynamicBlock d row rowNum) = none :=
      fun h => dynamicColumns_empty h c hc
    exact (dynamicPerformance_bind hempty).trans (dynamicColumns_read c hc)

theorem parseStateOfHealth_ok (h : stateOfHealthErrors d row rowNum = []) :
    (parseStateOfHealth d row rowNum).errors = [] ∧
      ((∃ soce, (healthF64 d row rowNum "socePct").value = some soce ∧
          (healthF64 d row rowNum "remainingCapacityPct").value = none ∧
          (healthF64 d row rowNum "selfDischargeRatePctPerMonth").value = none ∧
          (parseStateOfHealth d row rowNum).value.toOption.join = some (.electricVehicle soce)) ∨
        (∃ capacity rate, (healthF64 d row rowNum "socePct").value = none ∧
          (healthF64 d row rowNum "remainingCapacityPct").value = some capacity ∧
          (healthF64 d row rowNum "selfDischargeRatePctPerMonth").value = some rate ∧
          (parseStateOfHealth d row rowNum).value.toOption.join =
            some (.stationaryOrLmt capacity
              (healthF64 d row rowNum "remainingPowerCapabilityPct").value
              (healthF64 d row rowNum "remainingRoundTripEfficiencyPct").value rate
              (healthF64 d row rowNum "ohmicResistanceMohm").value)) ∨
        (healthF64 d row rowNum "socePct").value = none ∧
          (healthF64 d row rowNum "remainingCapacityPct").value = none ∧
          (healthF64 d row rowNum "selfDischargeRatePctPerMonth").value = none ∧
          (parseStateOfHealth d row rowNum).value.toOption.join = none ∧
          ∀ member ∈ optionalOnly, ∀ v, row.get ("stateOfHealth_" ++ member) = some v →
            isBlank v = true) := by
  unfold stateOfHealthErrors at h
  obtain ⟨herrors, hvalue⟩ := List.append_eq_nil_iff.mp h
  refine ⟨herrors, ?_⟩
  unfold parseStateOfHealth at hvalue ⊢
  cases hsoce : (healthF64 d row rowNum "socePct").value with
  | some soce =>
    cases hcapacity : (healthF64 d row rowNum "remainingCapacityPct").value with
    | some capacity => simp [hsoce, hcapacity] at hvalue
    | none =>
    cases hrate : (healthF64 d row rowNum "selfDischargeRatePctPerMonth").value with
    | some rate => simp [hsoce, hcapacity, hrate] at hvalue
    | none =>
      left
      refine ⟨soce, rfl, rfl, rfl, ?_⟩
      simp only [hsoce, hcapacity, hrate, Option.or_none]
      rfl
  | none =>
    right
    cases hcapacity : (healthF64 d row rowNum "remainingCapacityPct").value with
    | some capacity =>
      cases hrate : (healthF64 d row rowNum "selfDischargeRatePctPerMonth").value with
      | none => simp [hsoce, hcapacity, hrate] at hvalue
      | some rate =>
        left
        refine ⟨capacity, rate, rfl, rfl, rfl, ?_⟩
        simp only [hsoce, hcapacity, hrate, Option.some_or]
        rfl
    | none =>
      cases hrate : (healthF64 d row rowNum "selfDischargeRatePctPerMonth").value with
      | some rate => simp [hsoce, hcapacity, hrate] at hvalue
      | none =>
        right
        simp only [hsoce, hcapacity, hrate, Option.or_none] at hvalue
        have hnone : ¬(optionalOnly.any fun member =>
            (row.get ("stateOfHealth_" ++ member)).any fun v => !isBlank v) = true := by
          intro hany
          rw [if_pos hany] at hvalue
          cases hvalue
        refine ⟨rfl, rfl, rfl, ?_, ?_⟩
        · simp only [hsoce, hcapacity, hrate, Option.or_none, if_neg hnone]
          rfl
        · intro member hmember v hget
          by_contra hblank
          exact hnone (List.any_eq_true.mpr ⟨member, hmember, by simp [hget, hblank]⟩)

/-- Three of the block's columns are always read, and the others with the two items alone. -/
theorem parseStateOfHealth_errors : ∃ others, others ⊆ optionalOnly ∧
    (parseStateOfHealth d row rowNum).errors =
      ("socePct" :: unconditionalItems ++ others).flatMap fun member =>
        (healthF64 d row rowNum member).errors := by
  unfold parseStateOfHealth
  dsimp only
  split
  next => exact ⟨[], List.nil_subset _, by simp [unconditionalItems]⟩
  next => exact ⟨[], List.nil_subset _, by simp [unconditionalItems]⟩
  next =>
    split
    next => exact ⟨optionalOnly, List.Subset.refl _, by simp [unconditionalItems, optionalOnly]⟩
    next => exact ⟨[], List.nil_subset _, by simp [unconditionalItems]⟩
  next =>
    split
    next => exact ⟨[], List.nil_subset _, by simp [unconditionalItems]⟩
    next => exact ⟨[], List.nil_subset _, by simp [unconditionalItems]⟩

theorem healthColumns_member : ∀ c ∈ healthColumns d, c.1 ∈ "socePct" :: unconditionalItems := by
  simp [healthColumns, unconditionalItems]

theorem health_errors : ∀ c ∈ healthColumns d,
    (healthF64 d row rowNum c.1).errors ⊆ stateOfHealthErrors d row rowNum := by
  intro c hc e he
  obtain ⟨others, _, herrors⟩ := @parseStateOfHealth_errors d row rowNum
  refine List.mem_append_left _ ?_
  rw [herrors]
  exact List.mem_flatMap.mpr ⟨c.1, List.mem_append_left _ (healthColumns_member c hc), he⟩

theorem healthColumns_accounted : ∀ c ∈ healthColumns d,
    (readHeader d ("stateOfHealth_" ++ c.1) (float d.toParsers)
      fun r => r.productGroupData.stateOfHealth.bind c.2).Accounted row rowNum := by
  intro c hc
  refine @readHeader_accounted _ _ _ _ _ _ _ (stateOfHealthErrors d row rowNum)
    (by simp [batteryReadings]) (fun _ _ => health_errors c hc) ?_
  intro v request _ hok
  have hnil : stateOfHealthErrors d row rowNum = [] :=
    (validateBatteryRow_ok hok).1 _ (by simp [batteryReadings])
  obtain ⟨_, m, _, rfl⟩ := validateBatteryRow_ok hok
  change ((parseStateOfHealth d row rowNum).value.toOption.join).bind c.2 =
    (healthF64 d row rowNum c.1).value
  simp only [healthColumns, List.mem_cons, List.not_mem_nil, or_false] at hc
  obtain ⟨soce, hsoce, hcapacity, hrate, hvalue⟩ |
    ⟨capacity, rate, hsoce, hcapacity, hrate, hvalue⟩ |
    ⟨hsoce, hcapacity, hrate, hvalue, _⟩ := (parseStateOfHealth_ok hnil).2
  · rw [hvalue]
    rcases hc with rfl | rfl | rfl
    · exact hsoce.symm
    · exact hcapacity.symm
    · exact hrate.symm
  · rw [hvalue]
    rcases hc with rfl | rfl | rfl
    · exact hsoce.symm
    · exact hcapacity.symm
    · exact hrate.symm
  · rw [hvalue]
    rcases hc with rfl | rfl | rfl
    · exact hsoce.symm
    · exact hcapacity.symm
    · exact hrate.symm

theorem optionalHealth_errors {capacity rate : d.F64}
    (hsoce : (healthF64 d row rowNum "socePct").value = none)
    (hcapacity : (healthF64 d row rowNum "remainingCapacityPct").value = some capacity)
    (hrate : (healthF64 d row rowNum "selfDischargeRatePctPerMonth").value = some rate) :
    ∀ member ∈ optionalOnly,
      (healthF64 d row rowNum member).errors ⊆ (parseStateOfHealth d row rowNum).errors := by
  intro member hmember e he
  unfold parseStateOfHealth
  simp only [hsoce, hcapacity, hrate, Option.some_or, List.mem_append]
  simp only [optionalOnly, List.mem_cons, List.not_mem_nil, or_false] at hmember
  rcases hmember with rfl | rfl | rfl
  · exact .inl (.inl (.inr he))
  · exact .inl (.inr he)
  · exact .inr he

theorem optionalHealthColumns_accounted : ∀ c ∈ optionalHealthColumns d,
    (optionalHealthHeader d c.1 c.2).Accounted row rowNum := by
  intro c hc v hget hblank
  have hpresent : present row ("stateOfHealth_" ++ c.1) = some v := present_of_get hget hblank
  have hmember : c.1 ∈ optionalOnly := by
    simp only [optionalHealthColumns, List.mem_cons, List.not_mem_nil, or_false] at hc
    rcases hc with rfl | rfl | rfl <;> simp [optionalOnly]
  constructor
  · intro request hok hnone
    have hsoce : (healthF64 d row rowNum "socePct").value = none :=
      congrArg Read.value (optional_absent hnone)
    have hnil : stateOfHealthErrors d row rowNum = [] :=
      (validateBatteryRow_ok hok).1 _ (by simp [batteryReadings])
    obtain ⟨hparse, hcases⟩ := parseStateOfHealth_ok hnil
    obtain ⟨soce, hsome, _⟩ | ⟨capacity, rate, _, hcapacity, hrate, hvalue⟩ |
      ⟨_, _, _, _, hblanks⟩ := hcases
    · rw [hsoce] at hsome
      cases hsome
    · have herrors : (healthF64 d row rowNum c.1).errors = [] := by
        refine List.subset_nil.mp ?_
        rw [← hparse]
        exact optionalHealth_errors hsoce hcapacity hrate c.1 hmember
      obtain ⟨a, hfloat, hread⟩ := optional_read hpresent herrors
      refine ⟨a, hfloat, ?_⟩
      obtain ⟨_, m, _, rfl⟩ := validateBatteryRow_ok hok
      change ((parseStateOfHealth d row rowNum).value.toOption.join).bind c.2 = some a
      rw [hvalue]
      simp only [optionalHealthColumns, List.mem_cons, List.not_mem_nil, or_false] at hc
      rcases hc with rfl | rfl | rfl
      · exact hread
      · exact hread
      · exact hread
    · rw [hblanks c.1 hmember v hget] at hblank
      cases hblank
  · rintro ⟨hnone, ⟨capacity, x, hcapacity, hx⟩, ⟨rate, y, hrate, hy⟩, message, hparse⟩
    have hsoce : (healthF64 d row rowNum "socePct").value = none :=
      congrArg Read.value (optional_absent hnone)
    have herrors := optionalHealth_errors hsoce
      (congrArg Read.value (optional_ok hcapacity hx)) (congrArg Read.value (optional_ok hrate hy))
      c.1 hmember
    have hread := @optional_error _ _ _ rowNum _ _ _ hpresent hparse
    have hpart : stateOfHealthErrors d row rowNum ∈ batteryReadings d row rowNum := by
      simp [batteryReadings]
    refine ⟨⟨rowNum, "stateOfHealth_" ++ c.1, message⟩, mem_batteryErrors hpart ?_, rfl⟩
    refine List.mem_append_left _ (herrors ?_)
    unfold healthF64 optionalF64
    rw [hread]
    exact List.mem_singleton_self _

theorem temperatureRange_read {lower upper : String}
    (hlower : present row "notInUseTemperatureMinC" = some lower)
    (hupper : present row "notInUseTemperatureMaxC" = some upper)
    (h : (parseTemperatureRange d row rowNum).errors = []) :
    ∃ x y, float d.toParsers lower = .ok x ∧ float d.toParsers upper = .ok y ∧
      (parseTemperatureRange d row rowNum).value = d.temperatureRange x y := by
  unfold parseTemperatureRange optionalF64 at h ⊢
  cases hx : float d.toParsers lower with
  | error message =>
    rw [optional_error hlower hx] at h
    cases h
  | ok x =>
    rw [optional_ok hlower hx] at h ⊢
    cases hy : float d.toParsers upper with
    | error message =>
      rw [optional_error hupper hy] at h
      cases h
    | ok y =>
      rw [optional_ok hupper hy]
      exact ⟨x, y, rfl, rfl, rfl⟩

theorem temperatureHeaders_accounted : ∀ h ∈ temperatureHeaders d, h.Accounted row rowNum := by
  have hpart : (parseTemperatureRange d row rowNum).errors ∈ batteryReadings d row rowNum := by
    simp [batteryReadings]
  intro h hh v hget hblank
  simp only [temperatureHeaders, List.mem_cons, List.not_mem_nil, or_false] at hh
  rcases hh with rfl | rfl
  · have hpresent : present row "notInUseTemperatureMinC" = some v := present_of_get hget hblank
    constructor
    · rintro request hok ⟨upper, hupper, hrange⟩
      obtain ⟨x, y, hx, hy, hvalue⟩ :=
        temperatureRange_read hpresent hupper ((validateBatteryRow_ok hok).1 _ hpart)
      obtain ⟨_, m, _, rfl⟩ := validateBatteryRow_ok hok
      exact ⟨upper, x, y, hupper, hx, hy, hvalue, hrange x y hx hy⟩
    · rintro ⟨message, hparse⟩
      have hread := @optional_error _ _ _ rowNum _ _ _ hpresent hparse
      refine ⟨⟨rowNum, "notInUseTemperatureMinC", message⟩, mem_batteryErrors hpart ?_, rfl⟩
      unfold parseTemperatureRange optionalF64
      rw [hread]
      exact List.mem_singleton_self _
  · have hpresent : present row "notInUseTemperatureMaxC" = some v := present_of_get hget hblank
    constructor
    · rintro request hok ⟨lower, hlower, hrange⟩
      obtain ⟨x, y, hx, hy, hvalue⟩ :=
        temperatureRange_read hlower hpresent ((validateBatteryRow_ok hok).1 _ hpart)
      obtain ⟨_, m, _, rfl⟩ := validateBatteryRow_ok hok
      exact ⟨lower, x, y, hlower, hx, hy, hvalue, hrange x y hx hy⟩
    · rintro ⟨⟨lower, x, hlower, hx⟩, message, hparse⟩
      have hread := @optional_error _ _ _ rowNum _ _ _ hpresent hparse
      refine ⟨⟨rowNum, "notInUseTemperatureMaxC", message⟩, mem_batteryErrors hpart ?_, rfl⟩
      unfold parseTemperatureRange optionalF64
      rw [optional_ok hlower hx, hread]
      exact List.mem_singleton_self _

theorem strictHeaders_accounted : ∀ h ∈ strictHeaders d, h.Accounted row rowNum := by
  intro h hh
  simp only [strictHeaders, List.mem_cons, List.not_mem_nil, or_false] at hh
  rcases hh with rfl | rfl | rfl | rfl | rfl | rfl | rfl
  · exact optionalHeader_accounted (by simp [batteryReadings]) fun m hm => hm.gtin.symm
  · have hpart : (optionalDate d.toParsers row "placedOnMarketDate" rowNum).errors ∈
        batteryReadings d row rowNum := by simp [batteryReadings]
    exact optionalHeader_accounted hpart fun _ _ => rfl
  · have hpart : (optionalDate d.toParsers row "manufacturingDate" rowNum).errors ∈
        batteryReadings d row rowNum := by simp [batteryReadings]
    exact optionalHeader_accounted hpart fun _ _ => rfl
  · have hpart : (optionalCommodityCode d.toParsers row "commodityCode" rowNum).errors ∈
        batteryReadings d row rowNum := by simp [batteryReadings]
    exact optionalHeader_accounted hpart fun _ _ => rfl
  · have hpart : (optionalCarrierSerial d.toParsers row "carrierSerial" rowNum).errors ∈
        batteryReadings d row rowNum := by simp [batteryReadings]
    exact optionalHeader_accounted hpart fun _ _ => rfl
  · exact requiredHeader_accounted (by simp [batteryReadings]) fun m hm => hm.batteryType.symm
  · have hpart : (requireU32 row "expectedLifetimeCycles" rowNum).errors ∈
        batteryReadings d row rowNum := by simp [batteryReadings]
    exact requiredHeader_accounted hpart fun _ _ => rfl

theorem lenientHeader_accounted {α : Type} {name : String} {read : String → Option α}
    {value : CreatePassportRequest d → Option α}
    (hvalue : ∀ v a (m : Mandatory d), present row name = some v → read v = some a →
      m.ReadFrom row rowNum → value (batteryRequest d row rowNum m) = some a) :
    (lenientHeader d name read value).Accounted row rowNum := by
  intro v hget hblank
  have hpresent : present row name = some v := present_of_get hget hblank
  refine ⟨?_, False.elim⟩
  intro request hok hsome
  obtain ⟨a, hread⟩ := Option.isSome_iff_exists.mp hsome
  obtain ⟨_, m, hm, rfl⟩ := validateBatteryRow_ok hok
  exact ⟨a, hread, hvalue v a m hpresent hread hm⟩

theorem chemistry_accounted : (lenientHeader d "batteryChemistry" d.readChemistry
    fun r => some r.productGroupData.batteryChemistry).Accounted row rowNum := by
  refine lenientHeader_accounted ?_
  intro v a m hpresent hread hm
  have hchemistry : chemistryOf d m.chemistry = a := by
    unfold chemistryOf
    rw [requireStr_value hpresent hm.chemistry, hread]
    rfl
  exact congrArg some hchemistry

theorem bind_present {α : Type} {name v : String} {read : String → Option α} {a : α}
    (hpresent : present row name = some v) (hread : read v = some a) :
    (present row name).bind read = some a := by
  rw [hpresent]
  exact hread

theorem lifetimeCycles_accounted :
    (lenientHeader d "dynamicPerformance_expectedLifetimeCycles" (fun v => parseU32 (trim v))
      fun r => r.productGroupData.dynamicPerformance.bind
        fun b => b.expectedLifetimeCycles).Accounted row rowNum := by
  refine lenientHeader_accounted ?_
  intro v a m hpresent hread _
  have hcycles : (dynamicBlock d row rowNum).expectedLifetimeCycles = some a :=
    bind_present hpresent hread
  refine (dynamicPerformance_bind ?_).trans hcycles
  intro hempty
  simp [DynamicPerformance.isEmpty, hcycles] at hempty

theorem lenientHeaders_accounted : ∀ h ∈ lenientHeaders d, h.Accounted row rowNum := by
  intro h hh
  simp only [lenientHeaders, List.mem_cons, List.not_mem_nil, or_false] at hh
  rcases hh with rfl | rfl | rfl | rfl | rfl
  · exact chemistry_accounted
  · exact lenientHeader_accounted fun v a m hpresent hread _ => bind_present hpresent hread
  · exact lenientHeader_accounted fun v a m hpresent hread _ => bind_present hpresent hread
  · exact lenientHeader_accounted fun v a m hpresent hread _ => bind_present hpresent hread
  · exact lifetimeCycles_accounted

/-- A member of a slot with a name: what an entry of the list says of it, and which error names
it. -/
theorem memberHeader_accounted {α : Type} {group : String} {slot : ℕ} {member : String}
    {entries : CreatePassportRequest d → Option (List α)} {holds : α → String → String → Prop}
    {promised reported : Row → String → Prop}
    (hstated : ∀ v named (m : Mandatory d), slot ∈ slots →
      present row (slotHeader group slot "name") = some named →
      present row (slotHeader group slot member) = some v →
      (∀ part ∈ batteryReadings d row rowNum, part = []) → promised row v →
      ∃ entry ∈ (entries (batteryRequest d row rowNum m)).getD [], holds entry named v)
    (hreported : ∀ v named, slot ∈ slots →
      present row (slotHeader group slot "name") = some named →
      present row (slotHeader group slot member) = some v → reported row v →
      ∃ e ∈ batteryErrors d row rowNum, e.field = slotHeader group slot member) :
    (memberHeader d group slot member entries holds promised reported).Accounted row rowNum := by
  intro v hget hblank
  have hpresent : present row (slotHeader group slot member) = some v := present_of_get hget hblank
  constructor
  · rintro request hok ⟨⟨hslot, hname⟩, hpromised⟩
    obtain ⟨named, hnamed⟩ := Option.isSome_iff_exists.mp hname
    obtain ⟨hnil, m, _, rfl⟩ := validateBatteryRow_ok hok
    obtain ⟨entry, hentry, hholds⟩ := hstated v named m hslot hnamed hpresent hnil hpromised
    exact ⟨entry, hentry, named, hnamed, hholds⟩
  · rintro ⟨⟨hslot, hname⟩, hcell⟩
    obtain ⟨named, hnamed⟩ := Option.isSome_iff_exists.mp hname
    exact hreported v named hslot hnamed hpresent hcell

theorem composition_entry {group named weight : String} {slot : ℕ} (hslot : slot ∈ slots)
    (hname : present row (slotHeader group slot "name") = some named)
    (hweight : present row (slotHeader group slot "weightPct") = some weight)
    (h : (parseComposition d row rowNum group).errors = []) :
    ∃ x, float d.toParsers weight = .ok x ∧
      ⟨named, x, present row (slotHeader group slot "casNumber")⟩ ∈
        (parseComposition d row rowNum group).value.getD [] := by
  have hnone : (compositionAt d row rowNum group slot).errors = [] :=
    List.flatMap_eq_nil_iff.mp h slot hslot
  unfold compositionAt optionalF64 at hnone
  simp only [hname] at hnone
  obtain ⟨x, hx, hread⟩ := optional_read hweight hnone
  refine ⟨x, hx, ?_⟩
  unfold parseComposition
  rw [nonEmpty_getD]
  refine List.mem_filterMap.mpr ⟨slot, hslot, ?_⟩
  unfold compositionAt optionalF64
  simp only [hname, hread, Option.map_some]

theorem composition_error {group named weight message : String} {slot : ℕ} (hslot : slot ∈ slots)
    (hname : present row (slotHeader group slot "name") = some named)
    (hweight : present row (slotHeader group slot "weightPct") = some weight)
    (hparse : float d.toParsers weight = .error message) :
    ⟨rowNum, slotHeader group slot "weightPct", message⟩ ∈
      (parseComposition d row rowNum group).errors := by
  refine List.mem_flatMap.mpr ⟨slot, hslot, ?_⟩
  unfold compositionAt optionalF64
  simp only [hname, optional_error hweight hparse]
  exact List.mem_singleton_self _

theorem compositionHeaders_accounted {group : String} {slot : ℕ}
    {entries : CreatePassportRequest d → Option (List (MaterialComposition d.F64))}
    (hpart : (parseComposition d row rowNum group).errors ∈ batteryReadings d row rowNum)
    (hentries : ∀ m : Mandatory d,
      entries (batteryRequest d row rowNum m) = (parseComposition d row rowNum group).value) :
    ∀ h ∈ compositionHeaders d group entries slot, h.Accounted row rowNum := by
  intro h hh
  simp only [compositionHeaders, List.mem_cons, List.not_mem_nil, or_false] at hh
  rcases hh with rfl | rfl | rfl
  · refine memberHeader_accounted ?_ fun _ _ _ _ _ => False.elim
    intro v named m hslot hname hv hnil hweight
    obtain ⟨weight, hweight⟩ := Option.isSome_iff_exists.mp hweight
    obtain ⟨x, _, hentry⟩ := composition_entry hslot hname hweight (hnil _ hpart)
    rw [hentries m]
    exact ⟨_, hentry, Option.some.inj (hname.symm.trans hv)⟩
  · refine memberHeader_accounted ?_ ?_
    · intro v named m hslot hname hv hnil _
      obtain ⟨x, hx, hentry⟩ := composition_entry hslot hname hv (hnil _ hpart)
      rw [hentries m]
      exact ⟨_, hentry, rfl, hx⟩
    · rintro v named hslot hname hv ⟨message, hparse⟩
      exact ⟨_, mem_batteryErrors hpart (composition_error hslot hname hv hparse), rfl⟩
  · refine memberHeader_accounted ?_ fun _ _ _ _ _ => False.elim
    intro v named m hslot hname hv hnil hweight
    obtain ⟨weight, hweight⟩ := Option.isSome_iff_exists.mp hweight
    obtain ⟨x, _, hentry⟩ := composition_entry hslot hname hweight (hnil _ hpart)
    rw [hentries m]
    exact ⟨_, hentry, rfl, hv⟩

theorem criticalRaw_entry {named : String} {slot : ℕ} (hslot : slot ∈ slots)
    (hname : present row (slotHeader "criticalRaw" slot "name") = some named) :
    ⟨named, present row (slotHeader "criticalRaw" slot "casNumber"),
        (optionalF64 d.toParsers row (slotHeader "criticalRaw" slot "weightGrams") rowNum).value,
        present row (slotHeader "criticalRaw" slot "countryOfOrigin")⟩ ∈
      (parseCriticalRawMaterials d row rowNum).value.getD [] := by
  unfold parseCriticalRawMaterials
  rw [nonEmpty_getD]
  refine List.mem_filterMap.mpr ⟨slot, hslot, ?_⟩
  unfold criticalRawAt
  simp only [hname]

theorem criticalRaw_errors {named : String} {slot : ℕ} (hslot : slot ∈ slots)
    (hname : present row (slotHeader "criticalRaw" slot "name") = some named) :
    (optionalF64 d.toParsers row (slotHeader "criticalRaw" slot "weightGrams") rowNum).errors ⊆
      (parseCriticalRawMaterials d row rowNum).errors := by
  intro e he
  refine List.mem_flatMap.mpr ⟨slot, hslot, ?_⟩
  unfold criticalRawAt
  simp only [hname]
  exact he

theorem criticalRawHeaders_accounted {slot : ℕ} :
    ∀ h ∈ criticalRawHeaders d slot, h.Accounted row rowNum := by
  have hpart : (parseCriticalRawMaterials d row rowNum).errors ∈ batteryReadings d row rowNum := by
    simp [batteryReadings]
  intro h hh
  simp only [criticalRawHeaders, List.mem_cons, List.not_mem_nil, or_false] at hh
  rcases hh with rfl | rfl | rfl | rfl
  · refine memberHeader_accounted ?_ fun _ _ _ _ _ => False.elim
    intro v named m hslot hname hv _ _
    exact ⟨_, criticalRaw_entry hslot hname, Option.some.inj (hname.symm.trans hv)⟩
  · refine memberHeader_accounted ?_ fun _ _ _ _ _ => False.elim
    intro v named m hslot hname hv _ _
    exact ⟨_, criticalRaw_entry hslot hname, rfl, hv⟩
  · refine memberHeader_accounted ?_ ?_
    · intro v named m hslot hname hv hnil _
      have hnone : (optionalF64 d.toParsers row (slotHeader "criticalRaw" slot "weightGrams")
          rowNum).errors = [] := by
        refine List.subset_nil.mp ?_
        rw [← hnil _ hpart]
        exact criticalRaw_errors hslot hname
      obtain ⟨x, hx, hread⟩ := optional_read hv hnone
      exact ⟨_, criticalRaw_entry hslot hname, rfl, x, hx, hread⟩
    · rintro v named hslot hname hv ⟨message, hparse⟩
      have hread := @optional_error _ _ _ rowNum _ _ _ hv hparse
      refine ⟨⟨rowNum, _, message⟩,
        mem_batteryErrors hpart (criticalRaw_errors hslot hname ?_), rfl⟩
      unfold optionalF64
      rw [hread]
      exact List.mem_singleton_self _
  · refine memberHeader_accounted ?_ fun _ _ _ _ _ => False.elim
    intro v named m hslot hname hv _ _
    exact ⟨_, criticalRaw_entry hslot hname, rfl, hv⟩

theorem hazardousFrom_some (htakes : TakesSubstances d) (l : List ℕ) :
    (hazardousFrom d row rowNum l).value.isSome := by
  induction l with
  | nil => rfl
  | cons slot l ih =>
    unfold hazardousFrom
    split
    next => exact ih
    next named hname =>
      dsimp only
      obtain ⟨substance, hsubstance⟩ := Option.isSome_iff_exists.mp (htakes named
        (present row (slotHeader "hazardous" slot "casNumber"))
        (optionalF64 d.toParsers row (slotHeader "hazardous" slot "concentrationPct") rowNum).value)
      rw [hsubstance]
      simpa using ih

/-- The slot's substance is in the list, and what its concentration adds is among the errors. -/
theorem hazardousFrom_entry (htakes : TakesSubstances d) {named : String} {slot : ℕ}
    (hname : present row (slotHeader "hazardous" slot "name") = some named) {l : List ℕ}
    (hslot : slot ∈ l) :
    (∃ s, d.hazardousSubstance named (present row (slotHeader "hazardous" slot "casNumber"))
        (optionalF64 d.toParsers row (slotHeader "hazardous" slot "concentrationPct")
          rowNum).value = some s ∧
      s ∈ (hazardousFrom d row rowNum l).value.getD []) ∧
    (optionalF64 d.toParsers row (slotHeader "hazardous" slot "concentrationPct") rowNum).errors ⊆
      (hazardousFrom d row rowNum l).errors := by
  induction l with
  | nil => cases hslot
  | cons other l ih =>
    obtain ⟨rest, hrest⟩ := Option.isSome_iff_exists.mp (@hazardousFrom_some d row rowNum htakes l)
    cases hother : present row (slotHeader "hazardous" other "name") with
    | none =>
      have hmem : slot ∈ l := by
        rcases List.mem_cons.mp hslot with rfl | hmem
        · rw [hother] at hname
          cases hname
        · exact hmem
      unfold hazardousFrom
      simp only [hother]
      exact ih hmem
    | some otherName =>
      obtain ⟨substance, hsubstance⟩ := Option.isSome_iff_exists.mp (htakes otherName
        (present row (slotHeader "hazardous" other "casNumber"))
        (optionalF64 d.toParsers row (slotHeader "hazardous" other "concentrationPct")
          rowNum).value)
      unfold hazardousFrom
      simp only [hother, hsubstance, hrest, Option.map_some, Option.getD_some]
      rcases List.mem_cons.mp hslot with rfl | hmem
      · obtain rfl : otherName = named := Option.some.inj (hother.symm.trans hname)
        exact ⟨⟨substance, hsubstance, List.mem_cons_self⟩, List.subset_append_left _ _⟩
      · obtain ⟨⟨s, hs, hmember⟩, herrors⟩ := ih hmem
        rw [hrest] at hmember
        exact ⟨⟨s, hs, List.mem_cons_of_mem _ hmember⟩,
          List.subset_append_of_subset_right _ herrors⟩

theorem hazardous_getD :
    (parseHazardousSubstances d row rowNum).value.getD [] =
      (hazardousFrom d row rowNum slots).value.getD [] := by
  unfold parseHazardousSubstances
  cases (hazardousFrom d row rowNum slots).value with
  | none => rfl
  | some l => exact nonEmpty_getD l

theorem hazardousHeaders_accounted {slot : ℕ} :
    ∀ h ∈ hazardousHeaders d slot, h.Accounted row rowNum := by
  have hpart : (parseHazardousSubstances d row rowNum).errors ∈ batteryReadings d row rowNum := by
    simp [batteryReadings]
  have hentry : ∀ {named}, slot ∈ slots → TakesSubstances d →
      present row (slotHeader "hazardous" slot "name") = some named →
      ∃ s ∈ (parseHazardousSubstances d row rowNum).value.getD [],
        d.hazardousSubstance named (present row (slotHeader "hazardous" slot "casNumber"))
          (optionalF64 d.toParsers row (slotHeader "hazardous" slot "concentrationPct")
            rowNum).value = some s := by
    intro named hslot htakes hname
    obtain ⟨s, hs, hmem⟩ := (@hazardousFrom_entry d row rowNum htakes _ _ hname _ hslot).1
    rw [hazardous_getD]
    exact ⟨s, hmem, hs⟩
  intro h hh
  simp only [hazardousHeaders, List.mem_cons, List.not_mem_nil, or_false] at hh
  rcases hh with rfl | rfl | rfl
  · refine memberHeader_accounted ?_ fun _ _ _ _ _ => False.elim
    intro v named m hslot hname hv _ htakes
    obtain ⟨s, hmem, hs⟩ := hentry hslot htakes hv
    exact ⟨s, hmem, _, _, hs, trivial⟩
  · refine memberHeader_accounted ?_ fun _ _ _ _ _ => False.elim
    intro v named m hslot hname hv _ htakes
    obtain ⟨s, hmem, hs⟩ := hentry hslot htakes hname
    exact ⟨s, hmem, _, _, hs, hv⟩
  · refine memberHeader_accounted ?_ ?_
    · intro v named m hslot hname hv hnil htakes
      have hnone : (optionalF64 d.toParsers row (slotHeader "hazardous" slot "concentrationPct")
          rowNum).errors = [] := by
        refine List.subset_nil.mp ?_
        rw [← hnil _ hpart]
        exact (hazardousFrom_entry htakes hname hslot).2
      obtain ⟨x, hx, hread⟩ := optional_read hv hnone
      obtain ⟨s, hmem, hs⟩ := hentry hslot htakes hname
      exact ⟨s, hmem, _, _, hs, x, hx, hread⟩
    · rintro v named hslot hname hv ⟨htakes, message, hparse⟩
      have hread := @optional_error _ _ _ rowNum _ _ _ hv hparse
      refine ⟨⟨rowNum, _, message⟩,
        mem_batteryErrors hpart ((hazardousFrom_entry htakes hname hslot).2 ?_), rfl⟩
      unfold optionalF64
      rw [hread]
      exact List.mem_singleton_self _

theorem material_entry {named : String} {slot : ℕ} (hslot : slot ∈ slots)
    (hname : present row (slotHeader "material" slot "name") = some named) :
    { name := named
      weightKg :=
        (lenientF64 d.toParsers row (slotHeader "material" slot "weightKg")).getD d.zero
      recycledPct := lenientF64 d.toParsers row (slotHeader "material" slot "recycledPct")
      countryOfOrigin := present row (slotHeader "material" slot "countryOfOrigin") } ∈
      (nonEmpty (parseMaterials d.toParsers row)).getD [] := by
  rw [nonEmpty_getD]
  refine List.mem_filterMap.mpr ⟨slot, hslot, ?_⟩
  unfold materialAt
  rw [hname]
  rfl

theorem materialHeaders_accounted {slot : ℕ} :
    ∀ h ∈ materialHeaders d slot, h.Accounted row rowNum := by
  intro h hh
  simp only [materialHeaders, List.mem_cons, List.not_mem_nil, or_false] at hh
  rcases hh with rfl | rfl | rfl | rfl
  · refine memberHeader_accounted ?_ fun _ _ _ _ _ => False.elim
    intro v named m hslot hname hv _ _
    exact ⟨_, material_entry hslot hname, Option.some.inj (hname.symm.trans hv)⟩
  · refine memberHeader_accounted ?_ fun _ _ _ _ _ => False.elim
    rintro v named m hslot hname hv _ ⟨x, hx⟩
    refine ⟨_, material_entry hslot hname, rfl, ?_⟩
    rw [lenientF64_ok hv hx]
    exact hx
  · refine memberHeader_accounted ?_ fun _ _ _ _ _ => False.elim
    rintro v named m hslot hname hv _ ⟨x, hx⟩
    exact ⟨_, material_entry hslot hname, rfl, x, hx, lenientF64_ok hv hx⟩
  · refine memberHeader_accounted ?_ fun _ _ _ _ _ => False.elim
    intro v named m hslot hname hv _ _
    exact ⟨_, material_entry hslot hname, rfl, hv⟩

/-- Whatever a row says under a header of a template. -/
theorem header_accounted {h : Header d} (hh : IsHeader d h) : h.Accounted row rowNum := by
  rcases hh with hh | ⟨slot, hh⟩
  · simp only [headers, List.mem_append, List.mem_map] at hh
    rcases hh with ((((((⟨c, hc, rfl⟩ | ⟨c, hc, rfl⟩) | ⟨c, hc, rfl⟩) | ⟨c, hc, rfl⟩) |
      ⟨c, hc, rfl⟩) | hh) | hh) | hh
    · exact textColumns_accounted c hc
    · exact numberColumns_accounted c hc
    · exact dynamicColumns_accounted c hc
    · exact healthColumns_accounted c hc
    · exact optionalHealthColumns_accounted c hc
    · exact temperatureHeaders_accounted h hh
    · exact strictHeaders_accounted h hh
    · exact lenientHeaders_accounted h hh
  · simp only [slotHeaders, List.mem_append] at hh
    rcases hh with ((((hh | hh) | hh) | hh) | hh) | hh
    · exact compositionHeaders_accounted (by simp [batteryReadings]) (fun _ => rfl) h hh
    · exact compositionHeaders_accounted (by simp [batteryReadings]) (fun _ => rfl) h hh
    · exact compositionHeaders_accounted (by simp [batteryReadings]) (fun _ => rfl) h hh
    · exact criticalRawHeaders_accounted h hh
    · exact hazardousHeaders_accounted h hh
    · exact materialHeaders_accounted h hh

theorem healthF64_some {member : String} (hmember : member ∈ "socePct" :: unconditionalItems)
    (hnil : stateOfHealthErrors d row rowNum = [])
    (hpresent : (present row ("stateOfHealth_" ++ member)).isSome) :
    (healthF64 d row rowNum member).value ≠ none := by
  have hcolumn : ∃ c ∈ healthColumns d, c.1 = member := by
    simp only [unconditionalItems, List.mem_cons, List.not_mem_nil, or_false] at hmember
    rcases hmember with rfl | rfl | rfl <;> simp [healthColumns]
  obtain ⟨c, hc, rfl⟩ := hcolumn
  obtain ⟨v, hv⟩ := Option.isSome_iff_exists.mp hpresent
  have hnone : (healthF64 d row rowNum c.1).errors = [] := by
    refine List.subset_nil.mp ?_
    rw [← hnil]
    exact health_errors c hc
  obtain ⟨x, _, hread⟩ := optional_read hv hnone
  unfold healthF64 optionalF64
  rw [hread]
  exact Option.some_ne_none x

/-- Both lists, or part of the second, never pass. -/
theorem splitHealth_refused (h : SplitHealth row) : stateOfHealthErrors d row rowNum ≠ [] := by
  intro hnil
  have hcases := (parseStateOfHealth_ok hnil).2
  rcases h with ⟨hsoce, item, hitem, hsome⟩ | ⟨hsoce, ⟨item, hitem, hnone⟩, member, hmember, v,
    hget, hblank⟩
  · have hfirst := healthF64_some List.mem_cons_self hnil hsoce
    have hsecond := healthF64_some (List.mem_cons_of_mem _ hitem) hnil hsome
    simp only [unconditionalItems, List.mem_cons, List.not_mem_nil, or_false] at hitem
    rcases hcases with ⟨_, _, hcapacity, hrate, _⟩ | ⟨_, _, hnone, _⟩ | ⟨hnone, _⟩
    · rcases hitem with rfl | rfl
      · exact hsecond hcapacity
      · exact hsecond hrate
    · exact hfirst hnone
    · exact hfirst hnone
  · have hfirst : (healthF64 d row rowNum "socePct").value = none :=
      congrArg Read.value (optional_absent hsoce)
    have hsecond : (healthF64 d row rowNum item).value = none :=
      congrArg Read.value (optional_absent hnone)
    simp only [unconditionalItems, List.mem_cons, List.not_mem_nil, or_false] at hitem
    rcases hcases with ⟨soce, hsome, _⟩ | ⟨_, _, _, hcapacity, hrate, _⟩ |
      ⟨_, hcapacity, hrate, _, hblanks⟩
    · rw [hfirst] at hsome
      cases hsome
    · rcases hitem with rfl | rfl
      · rw [hcapacity] at hsecond
        cases hsecond
      · rw [hrate] at hsecond
        cases hsecond
    · rcases List.mem_append.mp hmember with hmember | hmember
      · have hthird := healthF64_some (List.mem_cons_of_mem _ hmember) hnil
          (Option.isSome_iff_exists.mpr ⟨v, present_of_get hget hblank⟩)
        simp only [unconditionalItems, List.mem_cons, List.not_mem_nil, or_false] at hmember
        rcases hmember with rfl | rfl
        · exact hthird hcapacity
        · exact hthird hrate
      · rw [hblanks member hmember v hget] at hblank
        cases hblank

theorem healthF64_field {member : String} {e : RowError}
    (h : e ∈ (healthF64 d row rowNum member).errors) : e.field = "stateOfHealth_" ++ member :=
  optional_field h

/-- Every error of the block names it, or one of its columns. -/
theorem stateOfHealth_field {e : RowError} (h : e ∈ stateOfHealthErrors d row rowNum) :
    e.field = "stateOfHealth" ∨
      ∃ member ∈ "socePct" :: unconditionalItems ++ optionalOnly,
        e.field = "stateOfHealth_" ++ member := by
  obtain ⟨others, hothers, herrors⟩ := @parseStateOfHealth_errors d row rowNum
  rcases List.mem_append.mp h with he | he
  · rw [herrors] at he
    obtain ⟨member, hmember, hread⟩ := List.mem_flatMap.mp he
    refine .inr ⟨member, List.mem_append.mpr ?_, healthF64_field hread⟩
    exact (List.mem_append.mp hmember).imp_right fun h => hothers h
  · split at he
    next => cases he
    next =>
      left
      cases List.mem_singleton.mp he
      rfl

end Reading

section Accounts

def sampleDomain : Domain where
  F64 := ℤ
  parseF64 raw := match raw.toList with
    | '-' :: digits => (parseU32 (String.ofList digits)).map fun n => -(n : ℤ)
    | _ => (parseU32 raw).map fun n => (n : ℤ)
  isFinite _ := true
  zero := 0
  Date := String
  parseDate := some
  Gtin := String
  parseGtin := .ok
  parseCommodityCode _ := .ok ()
  carrierSerialProblem _ := none
  BatteryChemistry := String
  readChemistry := some
  otherChemistry := "other"
  BatteryType := String
  readBatteryType raw := if raw = "industrial" then some raw else none
  quoted raw := "'" ++ raw ++ "'"
  CarbonFootprintClass := String
  readCarbonFootprintClass := some
  TemperatureRange := ℤ × ℤ
  temperatureRange lower upper := some (lower, upper)
  HazardousSubstance := String × Option String × Option ℤ
  hazardousSubstance name cas concentration := some (name, cas, concentration)

def batteryEntries : List (String × String) :=
  [("productName", "EV Battery 48V"), ("gtin", "09506000134352"), ("batchId", "BATCH-2026-001"),
    ("manufacturerName", "Acme Energy"), ("manufacturerCountry", "DE"),
    ("batteryChemistry", "LFP"), ("batteryType", "industrial"), ("nominalVoltageV", "48"),
    ("nominalCapacityAh", "100"), ("expectedLifetimeCycles", "3000")]

def sampleRow (cells : List (String × String)) : Row where
  get field := cells.lookup field
  getField field := cells.lookup field
  exact_first h := h

def halfRangeRow : Row :=
  sampleRow (batteryEntries ++ [("cathode_2_name", "LFP"), ("cathode_2_weightPct", "31"),
    ("notInUseTemperatureMinC", "-20")])

def badWeightRow : Row :=
  sampleRow (batteryEntries ++ [("cathode_2_name", "LFP"), ("cathode_2_weightPct", "most"),
    ("notInUseTemperatureMinC", "-20")])

def sampleNames : List String :=
  (headers sampleDomain ++ slotHeaders sampleDomain 1).map Header.name

theorem columns_covered : ∀ name ∈ columns, name ∈ sampleNames := by decide +kernel

theorem longTemplate_covered :
    ∀ name ∈ templateColumns .ev ++ (stationaryColumns ++ ["ratedCapacityKwh"]),
      name ∈ sampleNames := by
  decide +kernel

theorem templateColumns_subset (category : BatteryCategory) :
    templateColumns category ⊆
      templateColumns .ev ++ (stationaryColumns ++ ["ratedCapacityKwh"]) := by
  intro name hname
  cases category with
  | ev => exact List.mem_append_left _ hname
  | lmt =>
    simp only [templateColumns, List.mem_append] at hname ⊢
    rcases hname with hends | hperformance | hstationary
    · exact .inl (.inl hends)
    · exact .inl (.inr (.inl hperformance))
    · exact .inr (.inl hstationary)
  | industrial =>
    simp only [templateColumns, List.mem_append] at hname ⊢
    rcases hname with hends | hstationary | hrated
    · exact .inl (.inl hends)
    · exact .inr (.inl hstationary)
    · exact .inr (.inr hrated)

/-- Every column of a template is a header; the names are the same whatever the types are. -/
theorem headers_covered (d : Domain) {name : String}
    (h : name ∈ columns ∨ ∃ category, name ∈ templateColumns category) :
    ∃ h, IsHeader d h ∧ h.name = name := by
  have hsample : name ∈ sampleNames := by
    rcases h with h | ⟨category, h⟩
    · exact columns_covered name h
    · exact longTemplate_covered name (templateColumns_subset category h)
  have hnames : sampleNames = (headers d ++ slotHeaders d 1).map Header.name := rfl
  rw [hnames] at hsample
  obtain ⟨header, hmem, hname⟩ := List.mem_map.mp hsample
  rcases List.mem_append.mp hmem with hmem | hmem
  · exact ⟨header, .inl hmem, hname⟩
  · exact ⟨header, .inr ⟨1, hmem⟩, hname⟩

/-- The templates' headers are accounted for: a cell that is promised reaches the request, one that
is to be reported is refused under its header, and so are two lists of a state of health, or part
of one, under the block or one of its columns. -/
theorem cells_stated_or_reported (d : Domain) (row : Row) (rowNum : ℕ) :
    (∀ h : Header d, IsHeader d h → ∀ v, row.get h.name = some v → isBlank v = false →
      (∀ request, validateBatteryRow d row rowNum = .ok request → h.promised row v →
        h.stated row request v) ∧
      (h.reported row v → ∃ errors, validateBatteryRow d row rowNum = .error errors ∧
        ∃ e ∈ errors, e.field = h.name)) ∧
    (SplitHealth row → ∃ errors, validateBatteryRow d row rowNum = .error errors ∧
      ∃ e ∈ errors, e.field = "stateOfHealth" ∨
        ∃ member ∈ "socePct" :: unconditionalItems ++ optionalOnly,
          e.field = "stateOfHealth_" ++ member) ∧
    ∀ name, (name ∈ columns ∨ ∃ category, name ∈ templateColumns category) →
      ∃ h, IsHeader d h ∧ h.name = name := by
  refine ⟨?_, ?_, fun name => headers_covered d⟩
  · intro h hh v hget hblank
    obtain ⟨hstated, hreported⟩ := @header_accounted d row rowNum h hh v hget hblank
    refine ⟨hstated, ?_⟩
    intro hcell
    obtain ⟨e, he, hfield⟩ := hreported hcell
    exact ⟨_, validateBatteryRow_error he, e, he, hfield⟩
  · intro hsplit
    obtain ⟨e, he⟩ := List.exists_mem_of_ne_nil _ (@splitHealth_refused d row rowNum hsplit)
    have hpart : stateOfHealthErrors d row rowNum ∈ batteryReadings d row rowNum := by
      simp [batteryReadings]
    have hmem : e ∈ batteryErrors d row rowNum := mem_batteryErrors hpart he
    exact ⟨_, validateBatteryRow_error hmem, e, hmem, stateOfHealth_field he⟩

theorem halfRangeRow_ok : ∃ request,
    validateBatteryRow sampleDomain halfRangeRow 1 = .ok request ∧
      request.productGroupData.notInUseTemperatureRange.isNone := by
  have h : (validateBatteryRow sampleDomain halfRangeRow 1).toOption.map
      (fun r => r.productGroupData.notInUseTemperatureRange.isNone) = some true := by
    decide +kernel
  cases hvalidate : validateBatteryRow sampleDomain halfRangeRow 1 with
  | ok request =>
    rw [hvalidate] at h
    exact ⟨request, rfl, Option.some.inj h⟩
  | error errors =>
    rw [hvalidate] at h
    cases h

/-- A component's weight in the second slot reaches the request, and one that is no number is
reported under its column. -/
theorem second_component_accounted :
    (∃ request, validateBatteryRow sampleDomain halfRangeRow 1 = .ok request ∧
      ∃ m ∈ request.productGroupData.cathodeMaterial.getD [], m.name = "LFP" ∧
        m.weightPct = (31 : ℤ)) ∧
    ∃ errors, validateBatteryRow sampleDomain badWeightRow 1 = .error errors ∧
      ∃ e ∈ errors, e.field = "cathode_2_weightPct" := by
  obtain ⟨header, hheader⟩ : ∃ header, (compositionHeaders sampleDomain "cathode"
      (fun r => r.productGroupData.cathodeMaterial) 2)[1]? = some header := ⟨_, rfl⟩
  have hmem : IsHeader sampleDomain header := by
    refine .inr ⟨2, ?_⟩
    simp only [slotHeaders, List.mem_append]
    exact .inl (.inl (.inl (.inl (.inl (List.mem_of_getElem? hheader)))))
  cases hheader
  have hslot : (2 : ℕ) ∈ slots := by decide
  constructor
  · obtain ⟨request, hok, _⟩ := halfRangeRow_ok
    have haccounted := ((cells_stated_or_reported sampleDomain halfRangeRow 1).1 _ hmem "31"
      (by decide +kernel) (by decide +kernel)).1 request hok ⟨⟨hslot, by decide +kernel⟩, trivial⟩
    obtain ⟨m, hm, named, hnamed, hname, hweight⟩ := haccounted
    have hfloat : (.ok 31 : Except String ℤ) = .ok m.weightPct := by
      exact Eq.trans rfl hweight
    refine ⟨request, hok, m, hm, ?_, (Except.ok.inj hfloat).symm⟩
    rw [hname]
    refine Option.some.inj (hnamed.symm.trans ?_)
    decide +kernel
  · exact ((cells_stated_or_reported sampleDomain badWeightRow 1).1 _ hmem "most"
      (by decide +kernel) (by decide +kernel)).2 ⟨⟨hslot, by decide +kernel⟩, _, rfl⟩

/-- Not every cell is stated: one end of a range is left out of a request that is made. -/
theorem half_a_range_is_left_out :
    ∃ header ∈ temperatureHeaders sampleDomain, header.name = "notInUseTemperatureMinC" ∧
      halfRangeRow.get header.name = some "-20" ∧ isBlank "-20" = false ∧
      ∃ request, validateBatteryRow sampleDomain halfRangeRow 1 = .ok request ∧
        ¬header.stated halfRangeRow request "-20" := by
  obtain ⟨request, hok, hnone⟩ := halfRangeRow_ok
  refine ⟨_, List.mem_cons_self, rfl, by decide +kernel, by decide +kernel, request, hok, ?_⟩
  rintro ⟨upper, x, y, _, _, _, hrange, hsome⟩
  rw [← hrange, Option.isNone_iff_eq_none.mp hnone] at hsome
  cases hsome

end Accounts

end BatteryRows
