import DppEngine.ComplianceRecords
import DppEngine.ComponentGuard
import DppEngine.PrintedLabels
import DppEngine.TrustedListDocuments

/-! The request that creates a passport: the checks its body passes, and the draft it becomes.

Creating a passport and the dry run of it share these. The core library, its schema registry and
catalog, and the parser of URLs are parameters. -/
namespace CreateRequests

open JsonValues PrintedLabels
open PassportModel (PassportId DppError)
open ComplianceRecords (Assessment stampAssessed)
open ComponentTree (PassportRef)
open TrustedListDocuments (isWhitespace trim)

section Bodies

structure ManufacturerInfo where
  name : String
  address : String
  registeredTradeName : Option String
  electronicAddress : Option String
  country : Option String
  didWebUrl : Option String
  deriving DecidableEq, Repr

/-- A typed payload: the product group it is tagged with, the identifier and the footprint it
carries, and its members without the tag. -/
structure ProductGroupData where
  productGroup : String
  productIdentifier : Option ProductIdentifier
  footprint : Option Rat
  members : Doc
  deriving DecidableEq, Repr

structure ComponentRef extends ComponentTree.ComponentRef where
  quantity : Option Rat
  role : Option String
  deriving DecidableEq, Repr

structure DerivationRef where
  reference : PassportRef
  operation : String
  deriving DecidableEq, Repr

inductive LifeStatus where
  | original | repurposed | reUsed | remanufactured | waste
  deriving DecidableEq, Repr

structure CreatePassportRequest where
  productName : String
  productGroup : Option String
  manufacturer : ManufacturerInfo
  materials : Option (List Json)
  co2ePerUnit : Option Rat
  repairabilityScore : Option Rat
  productGroupData : Option ProductGroupData
  batchId : Option String
  placedOnMarketDate : Option String
  schemaVersion : Option String
  commodityCode : Option String
  supersedesId : Option PassportId
  derivedFrom : List DerivationRef
  lifeStatus : Option LifeStatus
  personalData : Doc
  componentRefs : List ComponentRef
  carrierSerial : Option String
  deriving DecidableEq, Repr

structure Draft where
  id : PassportId
  productName : String
  productGroup : String
  applicableInstruments : List String
  manufacturer : ManufacturerInfo
  materials : List Json
  co2ePerUnit : Option Rat
  repairabilityScore : Option Rat
  complianceResult : Option Json
  lintResult : Option Json
  productGroupData : Option ProductGroupData
  personalData : Doc
  createdAt : Int
  placedOnMarketDate : Option String
  schemaVersion : String
  batchId : Option String
  supersedesId : Option PassportId
  derivedFrom : List DerivationRef
  componentRefs : List ComponentRef
  lifeStatus : Option LifeStatus
  commodityCode : Option String
  operatorIdentifier : Option String
  facility : Option Json
  carrierSerial : Option String
  deriving DecidableEq, Repr

/-- What create overwrites on the record it is given. -/
def Draft.stamped (p : Draft) (id : PassportId) (now : Int) (facility : Option Json)
    (operatorIdentifier : Option String) : Draft :=
  { p with id, createdAt := now, facility, operatorIdentifier }

end Bodies

section Urls

inductive Host where
  | domain (name : String)
  | ipv4 (a b c d : ℕ)
  | ipv6 (segments : List ℕ)
  deriving DecidableEq, Repr

structure Url where
  scheme : String
  host : Option Host
  deriving DecidableEq, Repr

/-- Loopback, private, link-local, broadcast, documentation, unspecified, multicast and
carrier-grade NAT. -/
def v4IsDisallowed (a b c d : ℕ) : Bool :=
  a = 127 || a = 10 || (a = 172 && 16 ≤ b && b ≤ 31) || (a = 192 && b = 168) ||
    (a = 169 && b = 254) || (a = 255 && b = 255 && c = 255 && d = 255) ||
    (a = 192 && b = 0 && c = 2) || (a = 198 && b = 51 && c = 100) ||
    (a = 203 && b = 0 && c = 113) || (a = 0 && b = 0 && c = 0 && d = 0) ||
    (224 ≤ a && a ≤ 239) || (a = 100 && 64 ≤ b && b ≤ 127)

def ipIsDisallowed : Host → Bool
  | .domain _ => false
  | .ipv4 a b c d => v4IsDisallowed a b c d
  | .ipv6 segments =>
    match segments with
    | [0, 0, 0, 0, 0, 0, 0, 0] => true
    | [0, 0, 0, 0, 0, 0, 0, 1] => true
    -- An address mapped into IPv6 is judged as the IPv4 address it embeds.
    | [0, 0, 0, 0, 0, 0xFFFF, high, low] =>
      v4IsDisallowed (high / 256) (high % 256) (low / 256) (low % 256)
    | first :: _ => first / 256 = 0xFF || first / 512 = 0xFC00 / 512 || first / 64 = 0xFE80 / 64
    | [] => false

/-- Why a URL is not a public `https` one, or `none`. -/
def validatePublicHttpsUrl (parseUrl : String → Except String Url) (raw : String) :
    Option String :=
  match parseUrl raw with
  | .error e => some ("invalid URL: " ++ e)
  | .ok url =>
    match url.host with
    | none => some "URL has no host"
    | some host =>
      if url.scheme ≠ "https" then some "URL must use https"
      else if ipIsDisallowed host then some "URL host is a non-public address"
      else none

end Urls

inductive Gs1ValueRejection where
  | empty
  | tooLong (chars : ℕ)
  | outsideCset82 (c : Char)
  deriving DecidableEq, Repr

/-- The core library. What it asks of a passport it asks of the product's own fields: not of its
id, its time of creation or the operator's registry identifiers. -/
structure Core where
  validateProductGroupData : ProductGroupData → Option String
  currentSchemaVersion : String → Option String
  validateStrict : String → String → Doc → Option String
  validateCountry : ManufacturerInfo → Bool
  maxGs1SerialChars : ℕ
  checkGs1Serial : String → Option Gs1ValueRejection
  parseUrl : String → Except String Url
  parseCommodityCode : String → Except String String
  instrumentRefsFor : String → List String
  edges : ComponentGuard.EdgeCheck
  parseUuid : String → Option PassportId
  compute : ProductGroupData → Option String → Option Assessment
  computeLint : Draft → Option Json
  validatePassport : Draft → List FieldError
  checkPersonalData : Draft → List FieldError
  validate_stamped : ∀ p id now facility operatorIdentifier,
    validatePassport (p.stamped id now facility operatorIdentifier) = validatePassport p
  personalData_stamped : ∀ p id now facility operatorIdentifier,
    checkPersonalData (p.stamped id now facility operatorIdentifier) = checkPersonalData p

section Checks

def isBlank (s : String) : Bool := s.toList.all isWhitespace

/-- A control character other than tab, line feed and carriage return, or one that reorders the
text around it. -/
def isUnsafe (c : Char) : Bool :=
  let n := c.toNat
  ((n < 0x20 || (0x7F ≤ n && n ≤ 0x9F)) && c ≠ '\t' && c ≠ '\n' && c ≠ '\r') ||
    (0x202A ≤ n && n ≤ 0x202E) || (0x2066 ≤ n && n ≤ 0x2069)

def hasUnsafeText (s : String) : Bool := s.toList.any isUnsafe

def isLowercaseHexSha256 (s : String) : Bool :=
  s.utf8ByteSize = 64 && s.toList.all fun c => ('0' ≤ c && c ≤ '9') || ('a' ≤ c && c ≤ 'f')

def refuse (c : Bool) (detail : String) : Option String := if c then some detail else none

variable (core : Core)

def carrierSerialProblem (serial : String) : Option String :=
  (core.checkGs1Serial serial).map fun
    | .empty => "must not be empty"
    | .tooLong chars => "has " ++ toString chars ++ " characters; GS1 AI 21 allows at most " ++
        toString core.maxGs1SerialChars
    | .outsideCset82 c => "contains '" ++ String.singleton c ++ "', which is outside GS1 CSET 82"

def validatePassportRef (r : PassportRef) (field : String) : Option String :=
  ((validatePublicHttpsUrl core.parseUrl r.uri).map fun e => field ++ ".uri: " ++ e).or
    (refuse (!isLowercaseHexSha256 r.publicJwsHash)
      (field ++ ".publicJwsHash must be a lowercase hex SHA-256 digest"))

def validateComponentRef (c : ComponentRef) (index : ℕ) : Option String :=
  let field := "componentRefs[" ++ toString index ++ "]"
  (refuse (c.quantity.any (· < 0))
    (field ++ ".quantity.value must be a finite, non-negative number")).or
    (validatePassportRef core c.reference field)

def nameProblem (productName : String) : Option String :=
  refuse (isBlank productName) "productName is required"

def manufacturerProblem (m : ManufacturerInfo) : Option String :=
  refuse (isBlank m.name || isBlank m.address)
    "manufacturer.name and manufacturer.address are required"

def textFields (productName : String) (m : ManufacturerInfo) (batchId : Option String) :
    List String :=
  [productName, m.name, m.address, m.registeredTradeName.getD "", m.electronicAddress.getD "",
    batchId.getD ""]

def textProblem (productName : String) (m : ManufacturerInfo) (batchId : Option String) :
    Option String :=
  refuse ((textFields productName m batchId).any hasUnsafeText)
    "text fields must not contain control or bidirectional characters"

/-- Only a GTIN has a carrier that prints a serial. -/
def hasGtin (data : Option ProductGroupData) : Bool :=
  (data.bind (·.productIdentifier)).any fun identifier => identifier.gtin.isSome

def serialProblem (carrierSerial : Option String) (data : Option ProductGroupData) :
    Option String :=
  carrierSerial.bind fun serial =>
    ((carrierSerialProblem core serial).map fun problem => "carrierSerial " ++ problem).or
      (refuse (!hasGtin data) ("carrierSerial is the serial a GS1 carrier prints, and only a " ++
        "passport identified by a GTIN has one"))

/-- A number that is read from JSON is finite. -/
def co2eProblem (co2e : Option Rat) : Option String :=
  refuse (co2e.any (· < 0)) "co2ePerUnit must be a finite, non-negative number"

def repairabilityProblem (score : Option Rat) : Option String :=
  refuse (score.any fun q => q < 0 || 10 < q) "repairabilityScore must be between 0 and 10"

def validateAgainstSchema (data : ProductGroupData) : Option String :=
  match core.currentSchemaVersion data.productGroup with
  | none => none
  | some version => core.validateStrict data.productGroup version data.members

def dataProblem (data : Option ProductGroupData) : Option String :=
  data.bind fun d => (core.validateProductGroupData d).or (validateAgainstSchema core d)

def countryProblem (m : ManufacturerInfo) : Option String :=
  refuse (!core.validateCountry m)
    "manufacturer.country must be an assigned ISO 3166-1 alpha-2 code in upper case"

def derivedFromProblem (derivedFrom : List DerivationRef) : Option String :=
  derivedFrom.zipIdx.findSome? fun (d, i) =>
    validatePassportRef core d.reference ("derivedFrom[" ++ toString i ++ "]")

def componentRefsProblem (refs : List ComponentRef) : Option String :=
  refs.zipIdx.findSome? fun (c, i) => validateComponentRef core c i

/-- The group is what the public view is filtered by, so the payload may not say another. -/
def groupProblem (explicit : Option String) (data : Option ProductGroupData) : Option String :=
  match explicit, data with
  | some group, some d => refuse (group ≠ d.productGroup)
      ("productGroup says `" ++ group ++ "` and productGroupData says `" ++ d.productGroup ++
        "`. They select different disclosure tables, so a passport carrying both would be " ++
        "published under one product group's rules while holding another's data. Send one, or " ++
        "make them agree.")
  | _, _ => none

/-- Explicit, else the payload's own, else `other`. -/
def productGroupOf (explicit : Option String) (data : Option ProductGroupData) : String :=
  (explicit.or (data.map (·.productGroup))).getD "other"

def schemaVersionFor (productGroup : String) : String :=
  (core.currentSchemaVersion productGroup).getD "1.0.0"

def schemaVersionProblem (productGroup : String) (requested : Option String) : Option String :=
  requested.bind fun version => refuse (version ≠ schemaVersionFor core productGroup)
    ("schemaVersion must be `" ++ schemaVersionFor core productGroup ++ "` for product_group `" ++
      productGroup ++ "` (or omitted); `" ++ version ++ "` was requested. A new passport is " ++
      "always written at the product_group's current schema version — the stored version " ++
      "selects the disclosure table its public view is signed under, so it is not the caller's " ++
      "to choose.")

def lifeStatusProblem (productGroup : String) (lifeStatus : Option LifeStatus) : Option String :=
  lifeStatus.bind fun status =>
    (refuse (productGroup ≠ "battery")
      ("lifeStatus is defined by Annex XIII point 4(c) of Reg. (EU) 2023/1542 and applies to " ++
        "batteries; product_group `" ++ productGroup ++ "` has no such vocabulary. Omit it.")).or
    (refuse (status = .waste)
      ("lifeStatus `waste` cannot be set when a passport is created. It is a transition of an " ++
        "existing record and, under Art. 77(7) second subparagraph, a transfer of " ++
        "responsibility — so it belongs to a versioning event on the passport that is becoming " ++
        "waste, not to the creation of a new one."))

def validateCreateRequest (body : CreatePassportRequest) : Option String :=
  let productGroup := productGroupOf body.productGroup body.productGroupData
  [nameProblem body.productName,
    manufacturerProblem body.manufacturer,
    textProblem body.productName body.manufacturer body.batchId,
    serialProblem core body.carrierSerial body.productGroupData,
    co2eProblem body.co2ePerUnit,
    repairabilityProblem body.repairabilityScore,
    dataProblem core body.productGroupData,
    countryProblem core body.manufacturer,
    derivedFromProblem core body.derivedFrom,
    componentRefsProblem core body.componentRefs,
    groupProblem body.productGroup body.productGroupData,
    schemaVersionProblem core productGroup body.schemaVersion,
    lifeStatusProblem productGroup body.lifeStatus].findSome? fun problem => problem

structure Accepted (body : CreatePassportRequest) : Prop where
  name : nameProblem body.productName = none
  manufacturer : manufacturerProblem body.manufacturer = none
  text : textProblem body.productName body.manufacturer body.batchId = none
  serial : serialProblem core body.carrierSerial body.productGroupData = none
  co2e : co2eProblem body.co2ePerUnit = none
  repairability : repairabilityProblem body.repairabilityScore = none
  data : dataProblem core body.productGroupData = none
  country : countryProblem core body.manufacturer = none
  derivedFrom : derivedFromProblem core body.derivedFrom = none
  componentRefs : componentRefsProblem core body.componentRefs = none
  group : groupProblem body.productGroup body.productGroupData = none
  schemaVersion : schemaVersionProblem core
    (productGroupOf body.productGroup body.productGroupData) body.schemaVersion = none
  lifeStatus : lifeStatusProblem (productGroupOf body.productGroup body.productGroupData)
    body.lifeStatus = none

theorem validateCreateRequest_eq_none_iff {core : Core} {body : CreatePassportRequest} :
    validateCreateRequest core body = none ↔ Accepted core body := by
  simp only [validateCreateRequest, List.findSome?_eq_none_iff, List.forall_mem_cons,
    List.not_mem_nil, false_imp_iff, implies_true, and_true]
  constructor
  · rintro ⟨h₁, h₂, h₃, h₄, h₅, h₆, h₇, h₈, h₉, h₁₀, h₁₁, h₁₂, h₁₃⟩
    exact ⟨h₁, h₂, h₃, h₄, h₅, h₆, h₇, h₈, h₉, h₁₀, h₁₁, h₁₂, h₁₃⟩
  · rintro ⟨h₁, h₂, h₃, h₄, h₅, h₆, h₇, h₈, h₉, h₁₀, h₁₁, h₁₂, h₁₃⟩
    exact ⟨h₁, h₂, h₃, h₄, h₅, h₆, h₇, h₈, h₉, h₁₀, h₁₁, h₁₂, h₁₃⟩

end Checks

section Assembly

variable (core : Core)

def derivedCo2e (data : Option ProductGroupData) : Option Rat :=
  data.bind fun d =>
    if d.productGroup = "battery" ∨ d.productGroup = "textile" then d.footprint else none

def commodityCodeOf (raw : Option String) : Except String (Option String) :=
  match raw.map trim with
  | none => .ok none
  | some "" => .ok none
  | some code => (core.parseCommodityCode code).map some

def assemblePassport (id : PassportId) (now : Int) (body : CreatePassportRequest) :
    Except String Draft := do
  let productGroup := productGroupOf body.productGroup body.productGroupData
  let commodityCode ← commodityCodeOf core body.commodityCode
  return {
    id
    productName := body.productName
    productGroup
    applicableInstruments := core.instrumentRefsFor productGroup
    manufacturer := body.manufacturer
    materials := body.materials.getD []
    co2ePerUnit := body.co2ePerUnit.or (derivedCo2e body.productGroupData)
    repairabilityScore := body.repairabilityScore
    complianceResult := none
    lintResult := none
    productGroupData := body.productGroupData
    personalData := body.personalData
    createdAt := now
    placedOnMarketDate := body.placedOnMarketDate
    schemaVersion := schemaVersionFor core productGroup
    batchId := body.batchId
    supersedesId := body.supersedesId
    derivedFrom := body.derivedFrom
    componentRefs := body.componentRefs
    lifeStatus := body.lifeStatus
    commodityCode
    operatorIdentifier := none
    facility := none
    carrierSerial := body.carrierSerial }

inductive ServiceError where
  | validation (errors : List FieldError)
  | other (e : DppError)
  deriving DecidableEq, Repr

def ServiceError.of : DppError → ServiceError
  | .validation field message => .validation [⟨field, message⟩]
  | e => .other e

def refuseWith : List FieldError → Except ServiceError Unit
  | [] => .ok ()
  | errors => .error (.validation errors)

def guardPersonalData (p : Draft) : Except ServiceError Unit :=
  refuseWith (core.checkPersonalData p)

def checkNewDraft (p : Draft) : Except ServiceError Unit := do
  refuseWith (core.validatePassport p)
  guardPersonalData core p

/-- The two metrics are filled in where the draft has none. -/
def applyCompliance (now : Int) (p : Draft) : Draft :=
  match p.productGroupData.bind fun data => core.compute data p.placedOnMarketDate with
  | none => p
  | some a =>
    { p with
      co2ePerUnit := p.co2ePerUnit.or a.co2eScore
      repairabilityScore := p.repairabilityScore.or a.repairabilityIndex
      complianceResult := some (.obj (stampAssessed now a.result)) }

def applyLint (p : Draft) : Draft :=
  match core.computeLint p with
  | none => p
  | some result => { p with lintResult := some result }

def enrich (now : Int) (p : Draft) : Draft := applyLint core (applyCompliance core now p)

def determined (p : Draft) : Option Assessment :=
  p.productGroupData.bind fun data => core.compute data p.placedOnMarketDate

/-- Enrichment writes the metrics that are missing, the determination and the findings. -/
theorem enrich_eq (now : Int) (p : Draft) :
    ∃ complianceResult lintResult, enrich core now p = { p with
      co2ePerUnit := p.co2ePerUnit.or ((determined core p).bind (·.co2eScore))
      repairabilityScore :=
        p.repairabilityScore.or ((determined core p).bind (·.repairabilityIndex))
      complianceResult, lintResult } := by
  unfold enrich applyLint applyCompliance determined
  cases hdetermined :
    p.productGroupData.bind fun data => core.compute data p.placedOnMarketDate with
  | none =>
    simp only [Option.bind_none, Option.or_none]
    split <;> exact ⟨_, _, rfl⟩
  | some a =>
    simp only [Option.bind_some]
    split <;> exact ⟨_, _, rfl⟩

theorem checkNewDraft_cases (p : Draft) :
    checkNewDraft core p = .ok () ∨
      ∃ errors, checkNewDraft core p = .error (.validation errors) := by
  unfold checkNewDraft guardPersonalData
  cases core.validatePassport p with
  | cons e errors => exact Or.inr ⟨e :: errors, rfl⟩
  | nil =>
    cases core.checkPersonalData p with
    | cons e errors => exact Or.inr ⟨e :: errors, rfl⟩
    | nil => exact Or.inl rfl

theorem checkNewDraft_stamped (p : Draft) (id : PassportId) (now : Int) (facility : Option Json)
    (operatorIdentifier : Option String) :
    checkNewDraft core (p.stamped id now facility operatorIdentifier) = checkNewDraft core p := by
  simp only [checkNewDraft, guardPersonalData, core.validate_stamped, core.personalData_stamped]

end Assembly

section Samples

def sampleCore : Core where
  validateProductGroupData _ := none
  currentSchemaVersion group := if group = "textile" then some "1.1.0" else none
  validateStrict _ _ members :=
    refuse (members.get "fibreComposition").isNone "missing required property fibreComposition"
  validateCountry m := m.country.all fun country => country ∈ ["DE", "PT"]
  maxGs1SerialChars := 20
  checkGs1Serial serial :=
    if serial.isEmpty then some .empty
    else if 20 < serial.length then some (.tooLong serial.length)
    else none
  parseUrl raw := .ok ⟨"https", some (.domain raw)⟩
  parseCommodityCode raw := .ok raw
  instrumentRefsFor _ := []
  edges := ComponentGuard.depthFirstCheck 8
  parseUuid := ComponentGuard.hyphenated
  compute _ _ := none
  computeLint _ := none
  validatePassport p := if isBlank p.productName then [⟨"/productName", "is required"⟩] else []
  checkPersonalData _ := []
  validate_stamped _ _ _ _ _ := rfl
  personalData_stamped _ _ _ _ _ := rfl

def sampleManufacturer : ManufacturerInfo where
  name := "Tejo Mills"
  address := "Rua do Norte 4, Porto"
  registeredTradeName := none
  electronicAddress := none
  country := some "PT"
  didWebUrl := none

def sampleData : ProductGroupData where
  productGroup := "textile"
  productIdentifier := some (.gs1 "09506000134352")
  footprint := none
  members := [("fibreComposition", .str "wool")]

def sampleRequest : CreatePassportRequest where
  productName := "Wool coat"
  productGroup := none
  manufacturer := sampleManufacturer
  materials := none
  co2ePerUnit := none
  repairabilityScore := none
  productGroupData := some sampleData
  batchId := some "B-1"
  placedOnMarketDate := none
  schemaVersion := none
  commodityCode := none
  supersedesId := none
  derivedFrom := []
  lifeStatus := none
  personalData := []
  componentRefs := []
  carrierSerial := none

end Samples

end CreateRequests
