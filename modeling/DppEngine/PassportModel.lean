import DppEngine.FallibleSteps
import DppEngine.JsonValues
import Mathlib.Order.Basic
import Mathlib.Tactic.Cases
import Mathlib.Tactic.SplitIfs

/-! The passport record: lifecycle states, the document it is stored as, and the
retention clock.

The fields a lifecycle operation reads or writes are typed. The rest of the
record is `content`, a document restricted to the keys the record models. -/
namespace PassportModel

open JsonValues FallibleSteps

inductive PassportStatus where
  | draft
  | published
  | suspended
  | retired
  | superseded
  | deactivated
  deriving DecidableEq, Repr

namespace PassportStatus

def toString : PassportStatus → String
  | .draft => "draft"
  | .published => "active"
  | .suspended => "suspended"
  | .retired => "retired"
  | .superseded => "superseded"
  | .deactivated => "deactivated"

/-- Reading accepts both the wire name and the internal name of `published`. -/
def ofString : String → Option PassportStatus
  | "draft" => some .draft
  | "active" => some .published
  | "published" => some .published
  | "suspended" => some .suspended
  | "retired" => some .retired
  | "superseded" => some .superseded
  | "deactivated" => some .deactivated
  | _ => none

def canTransitionTo : PassportStatus → PassportStatus → Bool
  | .draft, .published => true
  | .draft, .retired => true
  | .published, .suspended => true
  | .published, .retired => true
  | .published, .superseded => true
  | .published, .deactivated => true
  | .suspended, .published => true
  | .suspended, .retired => true
  | .suspended, .deactivated => true
  | _, _ => false

def isTerminal : PassportStatus → Bool
  | .retired => true
  | .superseded => true
  | .deactivated => true
  | _ => false

@[simp] theorem ofString_toString (s : PassportStatus) : ofString s.toString = some s := by
  cases s <;> rfl

theorem isTerminal_iff (s : PassportStatus) :
    s.isTerminal = true ↔ ∀ t, s.canTransitionTo t = false := by
  constructor
  · intro h t
    cases s <;> cases t <;> simp_all [isTerminal, canTransitionTo]
  · intro h
    cases s with
    | draft => exact absurd (h .published) (by decide)
    | published => exact absurd (h .suspended) (by decide)
    | suspended => exact absurd (h .published) (by decide)
    | retired => rfl
    | superseded => rfl
    | deactivated => rfl

end PassportStatus

inductive DppError where
  | notFound (id : String)
  | invalidTransition (current required : String)
  | validation (field message : String)
  | signing (message : String)
  | serialisation (message : String)
  | retentionLocked
  | successionUnresolvable (id reason : String)
  | internal (message : String)
  deriving DecidableEq, Repr

def hexDigits (n : ℕ) : ℕ → List Char
  | 0 => []
  | width + 1 => hexDigits (n / 16) width ++ [Nat.digitChar (n % 16)]

abbrev PassportId := ℕ

def PassportId.hex (id : PassportId) : List Char := hexDigits id 32

def PassportId.text (id : PassportId) : String :=
  let h := PassportId.hex id
  String.ofList (h.take 8 ++ '-' :: (h.drop 8).take 4 ++ '-' :: (h.drop 12).take 4 ++
    '-' :: (h.drop 16).take 4 ++ '-' :: h.drop 20)

def PassportId.defaultCarrierSerial (id : PassportId) : String :=
  String.ofList ((PassportId.hex id).drop 12)

structure Passport where
  id : PassportId
  productGroup : String
  status : PassportStatus
  supersedesId : Option String
  carrierSerial : Option String
  updatedAt : Int
  publishedAt : Option Int
  retentionLocked : Bool
  retentionUntil : Option Int
  facility : Option Json
  operatorIdentifier : Option String
  qrCodeUrl : Option String
  jwsSignature : Option String
  publicJwsSignature : Option String
  disclosureSignatures : Doc
  qualifiedSeal : Option Json
  content : Doc
  deriving DecidableEq, Repr

def Passport.effectiveCarrierSerial (p : Passport) : String :=
  p.carrierSerial.getD (PassportId.defaultCarrierSerial p.id)

def retiredDraft (status : PassportStatus) (publishedAt : Option Int) : Bool :=
  status = .retired && publishedAt.isNone

def neverPublished (status : PassportStatus) (publishedAt : Option Int) : Bool :=
  status = .draft || retiredDraft status publishedAt

def servesPublicly (status : PassportStatus) (publishedAt : Option Int) : Bool :=
  match status with
  | .published => true
  | .deactivated => true
  | .superseded => true
  | .retired => !neverPublished status publishedAt
  | .suspended => false
  | .draft => false

def typedKeys : List String :=
  ["id", "productGroup", "status", "supersedesId", "carrierSerial", "updatedAt", "publishedAt",
    "retentionLocked", "retentionUntil", "facility", "operatorIdentifier", "qrCodeUrl",
    "jwsSignature", "publicJwsSignature", "disclosureSignatures", "seal"]

def contentKeys : List String :=
  ["batchId", "serialNumber", "productName", "applicableInstruments", "granularity",
    "manufacturer", "materials", "co2ePerUnit", "repairabilityScore", "complianceResult",
    "lintResult", "productGroupData", "createdAt", "placedOnMarketDate", "schemaVersion",
    "version", "derivedFrom", "personalData", "componentRefs", "lifeStatus", "productId",
    "commodityCode", "responsibleOperator"]

def passportKeys : List String := typedKeys ++ contentKeys

def omittedWhenEmpty : List String :=
  ["applicableInstruments", "derivedFrom", "personalData", "componentRefs"]

def isEmptyCollection : Option Json → Bool
  | some (.arr []) => true
  | some (.obj []) => true
  | _ => false

def Passport.serialises (p : Passport) (key : String) : Bool :=
  key ∈ contentKeys && !(key ∈ omittedWhenEmpty && isEmptyCollection (p.content.get key))

def Passport.typedMembers (p : Passport) : Doc :=
  [("id", .str (PassportId.text p.id)), ("productGroup", .str p.productGroup),
    ("status", .str p.status.toString), ("updatedAt", .instant p.updatedAt),
    ("retentionLocked", .bool p.retentionLocked)] ++
  Doc.optional "supersedesId" (p.supersedesId.map .str) ++
  Doc.optional "carrierSerial" (p.carrierSerial.map .str) ++
  Doc.optional "publishedAt" (p.publishedAt.map .instant) ++
  Doc.optional "retentionUntil" (p.retentionUntil.map .instant) ++
  Doc.optional "facility" p.facility ++
  Doc.optional "operatorIdentifier" (p.operatorIdentifier.map .str) ++
  Doc.optional "qrCodeUrl" (p.qrCodeUrl.map .str) ++
  Doc.optional "jwsSignature" (p.jwsSignature.map .str) ++
  Doc.optional "publicJwsSignature" (p.publicJwsSignature.map .str) ++
  Doc.optional "disclosureSignatures"
    (if p.disclosureSignatures = [] then none else some (.obj p.disclosureSignatures)) ++
  Doc.optional "seal" p.qualifiedSeal

/-- Unset and empty optional fields are left out. -/
def Passport.toDoc (p : Passport) : Doc :=
  p.typedMembers ++ p.content.filter fun m => p.serialises m.1

section Reading

def required {α : Type} (read : Json → Option α) (doc : Doc) (key : String) :
    Except DppError α :=
  match (doc.get key).bind read with
  | some a => .ok a
  | none => .error (.serialisation ("missing or invalid field " ++ key))

/-- An absent member and a `null` are the same answer. -/
def optionalField {α : Type} (read : Json → Option α) (doc : Doc) (key : String) :
    Except DppError (Option α) :=
  match doc.get key with
  | none => .ok none
  | some .null => .ok none
  | some v =>
    match read v with
    | some a => .ok (some a)
    | none => .error (.serialisation ("invalid field " ++ key))

def asStatus (j : Json) : Option PassportStatus := j.asStr.bind PassportStatus.ofString

-- `Passport::from_stored` on the content: the lens chain and the defaults of the
-- fields that are not typed here.
variable (readContent : Doc → Except DppError Doc)

def fromStored (id : PassportId) (doc : Doc) : Except DppError Passport := do
  let productGroup ← required Json.asStr doc "productGroup"
  let status ← required asStatus doc "status"
  let supersedesId ← optionalField Json.asStr doc "supersedesId"
  let carrierSerial ← optionalField Json.asStr doc "carrierSerial"
  let updatedAt ← required Json.asInstant doc "updatedAt"
  let publishedAt ← optionalField Json.asInstant doc "publishedAt"
  let retentionLocked ← required Json.asBool doc "retentionLocked"
  let retentionUntil ← optionalField Json.asInstant doc "retentionUntil"
  let facility ← optionalField some doc "facility"
  let operatorIdentifier ← optionalField Json.asStr doc "operatorIdentifier"
  let qrCodeUrl ← optionalField Json.asStr doc "qrCodeUrl"
  let jwsSignature ← optionalField Json.asStr doc "jwsSignature"
  let publicJwsSignature ← optionalField Json.asStr doc "publicJwsSignature"
  let disclosureSignatures ← optionalField Json.asMembers doc "disclosureSignatures"
  let qualifiedSeal ← optionalField some doc "seal"
  let content ← readContent (doc.only contentKeys)
  return { id, productGroup, status, supersedesId, carrierSerial, updatedAt, publishedAt,
           retentionLocked, retentionUntil, facility, operatorIdentifier, qrCodeUrl, jwsSignature,
           publicJwsSignature, disclosureSignatures := disclosureSignatures.getD [], qualifiedSeal,
           content }

end Reading

section ReadingFacts

variable {readContent : Doc → Except DppError Doc} {id : PassportId} {doc : Doc} {p : Passport}

theorem required_ok {α : Type} {read : Json → Option α} {key : String} {a : α}
    (h : required read doc key = .ok a) : (doc.get key).bind read = some a := by
  unfold required at h
  split at h
  next b hb => cases h; exact hb
  next => cases h

theorem optionalField_ok {α : Type} {read : Json → Option α} {key : String} {a : Option α}
    (hnull : read .null = none) (h : optionalField read doc key = .ok a) :
    (doc.get key).bind read = a := by
  unfold optionalField at h
  split at h
  next hk => cases h; simp [hk]
  next hk => cases h; simp [hk, hnull]
  next v _ hk =>
    split at h
    next b hb => cases h; simp [hk, hb]
    next => cases h

/-- A value that is there: `null` counts as absent. -/
def nonNull : Json → Option Json
  | .null => none
  | v => some v

private theorem optionalField_some_ok {key : String} {a : Option Json}
    (h : optionalField some doc key = .ok a) : (doc.get key).bind nonNull = a := by
  unfold optionalField at h
  split at h
  next hk => cases h; simp [hk]
  next hk => cases h; simp [hk, nonNull]
  next v hnull hk =>
    cases h
    rw [hk, Option.bind_some]
    cases v <;> first | exact absurd rfl hnull | rfl

structure Reads (doc : Doc) (p : Passport) : Prop where
  group : (doc.get "productGroup").bind Json.asStr = some p.productGroup
  status : (doc.get "status").bind asStatus = some p.status
  published : (doc.get "publishedAt").bind Json.asInstant = p.publishedAt
  locked : (doc.get "retentionLocked").bind Json.asBool = some p.retentionLocked
  deadline : (doc.get "retentionUntil").bind Json.asInstant = p.retentionUntil
  jws : (doc.get "jwsSignature").bind Json.asStr = p.jwsSignature
  sealed : (doc.get "seal").bind nonNull = p.qualifiedSeal

structure ReadFrom (readContent : Doc → Except DppError Doc) (id : PassportId) (doc : Doc)
    (p : Passport) : Prop where
  id : p.id = id
  productGroup : required Json.asStr doc "productGroup" = .ok p.productGroup
  status : required asStatus doc "status" = .ok p.status
  supersedesId : optionalField Json.asStr doc "supersedesId" = .ok p.supersedesId
  carrierSerial : optionalField Json.asStr doc "carrierSerial" = .ok p.carrierSerial
  updatedAt : required Json.asInstant doc "updatedAt" = .ok p.updatedAt
  publishedAt : optionalField Json.asInstant doc "publishedAt" = .ok p.publishedAt
  retentionLocked : required Json.asBool doc "retentionLocked" = .ok p.retentionLocked
  retentionUntil : optionalField Json.asInstant doc "retentionUntil" = .ok p.retentionUntil
  facility : optionalField some doc "facility" = .ok p.facility
  operatorIdentifier : optionalField Json.asStr doc "operatorIdentifier" = .ok p.operatorIdentifier
  qrCodeUrl : optionalField Json.asStr doc "qrCodeUrl" = .ok p.qrCodeUrl
  jwsSignature : optionalField Json.asStr doc "jwsSignature" = .ok p.jwsSignature
  publicJwsSignature :
    optionalField Json.asStr doc "publicJwsSignature" = .ok p.publicJwsSignature
  disclosureSignatures : ∃ members,
    optionalField Json.asMembers doc "disclosureSignatures" = .ok members ∧
      p.disclosureSignatures = members.getD []
  qualifiedSeal : optionalField some doc "seal" = .ok p.qualifiedSeal
  content : readContent (doc.only contentKeys) = .ok p.content

theorem fromStored_readFrom (h : fromStored readContent id doc = .ok p) :
    ReadFrom readContent id doc p := by
  unfold fromStored at h
  obtain ⟨_, productGroup, h⟩ := bind_ok h
  obtain ⟨_, status, h⟩ := bind_ok h
  obtain ⟨_, supersedesId, h⟩ := bind_ok h
  obtain ⟨_, carrierSerial, h⟩ := bind_ok h
  obtain ⟨_, updatedAt, h⟩ := bind_ok h
  obtain ⟨_, publishedAt, h⟩ := bind_ok h
  obtain ⟨_, retentionLocked, h⟩ := bind_ok h
  obtain ⟨_, retentionUntil, h⟩ := bind_ok h
  obtain ⟨_, facility, h⟩ := bind_ok h
  obtain ⟨_, operatorIdentifier, h⟩ := bind_ok h
  obtain ⟨_, qrCodeUrl, h⟩ := bind_ok h
  obtain ⟨_, jwsSignature, h⟩ := bind_ok h
  obtain ⟨_, publicJwsSignature, h⟩ := bind_ok h
  obtain ⟨_, disclosureSignatures, h⟩ := bind_ok h
  obtain ⟨_, qualifiedSeal, h⟩ := bind_ok h
  obtain ⟨_, content, h⟩ := bind_ok h
  cases h
  exact { id := rfl, productGroup, status, supersedesId, carrierSerial, updatedAt, publishedAt,
          retentionLocked, retentionUntil, facility, operatorIdentifier, qrCodeUrl, jwsSignature,
          publicJwsSignature, disclosureSignatures := ⟨_, disclosureSignatures, rfl⟩,
          qualifiedSeal, content }

theorem fromStored_ok (h : fromStored readContent id doc = .ok p) : Reads doc p := by
  have hread := fromStored_readFrom h
  exact ⟨required_ok hread.productGroup, required_ok hread.status,
    optionalField_ok rfl hread.publishedAt, required_ok hread.retentionLocked,
    optionalField_ok rfl hread.retentionUntil, optionalField_ok rfl hread.jwsSignature,
    optionalField_some_ok hread.qualifiedSeal⟩

theorem content_get_typed {k : String} (hk : k ∉ contentKeys) :
    Doc.get (p.content.filter fun m => p.serialises m.1) k = none := by
  rw [Doc.get_filter_key]
  simp [Passport.serialises, hk]

@[simp] theorem toDoc_get_productGroup :
    p.toDoc.get "productGroup" = some (.str p.productGroup) := by
  simp [Passport.toDoc, Passport.typedMembers]

@[simp] theorem toDoc_get_status : p.toDoc.get "status" = some (.str p.status.toString) := by
  simp [Passport.toDoc, Passport.typedMembers]

@[simp] theorem toDoc_get_retentionLocked :
    p.toDoc.get "retentionLocked" = some (.bool p.retentionLocked) := by
  simp [Passport.toDoc, Passport.typedMembers]

@[simp] theorem toDoc_get_publishedAt :
    p.toDoc.get "publishedAt" = p.publishedAt.map .instant := by
  have hcontent := content_get_typed (p := p) (show "publishedAt" ∉ contentKeys by decide)
  simp [Passport.toDoc, Passport.typedMembers, hcontent]

@[simp] theorem toDoc_get_retentionUntil :
    p.toDoc.get "retentionUntil" = p.retentionUntil.map .instant := by
  have hcontent := content_get_typed (p := p) (show "retentionUntil" ∉ contentKeys by decide)
  simp [Passport.toDoc, Passport.typedMembers, hcontent]

@[simp] theorem toDoc_get_jwsSignature :
    p.toDoc.get "jwsSignature" = p.jwsSignature.map .str := by
  have hcontent := content_get_typed (p := p) (show "jwsSignature" ∉ contentKeys by decide)
  simp [Passport.toDoc, Passport.typedMembers, hcontent]

@[simp] theorem toDoc_get_seal : p.toDoc.get "seal" = p.qualifiedSeal := by
  have hcontent := content_get_typed (p := p) (show "seal" ∉ contentKeys by decide)
  simp [Passport.toDoc, Passport.typedMembers, hcontent]

end ReadingFacts

section Retention

def isLeapYear (y : Int) : Bool := y % 4 = 0 && (y % 100 ≠ 0 || y % 400 = 0)

def daysInMonth (y : Int) (m : Int) : Int :=
  if m = 2 then (if isLeapYear y then 29 else 28)
  else if m = 4 ∨ m = 6 ∨ m = 9 ∨ m = 11 then 30
  else 31

/-- Days since 1 January 1970 of a date of the proleptic Gregorian calendar. -/
def daysFromCivil (y m d : Int) : Int :=
  let y' := if m ≤ 2 then y - 1 else y
  let era := y' / 400
  let yoe := y' - era * 400
  let doy := (153 * (m + (if m > 2 then -3 else 9)) + 2) / 5 + d - 1
  let doe := yoe * 365 + yoe / 4 - yoe / 100 + doy
  era * 146097 + doe - 719468

def civilFromDays (days : Int) : Int × Int × Int :=
  let z := days + 719468
  let era := z / 146097
  let doe := z - era * 146097
  let yoe := (doe - doe / 1460 + doe / 36524 - doe / 146096) / 365
  let doy := doe - (365 * yoe + yoe / 4 - yoe / 100)
  let mp := (5 * doy + 2) / 153
  let d := doy - (153 * mp + 2) / 5 + 1
  let m := if mp < 10 then mp + 3 else mp - 9
  (yoe + era * 400 + (if m ≤ 2 then 1 else 0), m, d)

def nanosPerDay : Int := 86400000000000

/-- The instant some months after another, where there is one, and the last instant there is. -/
structure Calendar where
  checkedAddMonths : Int → ℕ → Option Int
  maxUtc : Int

def retentionDeadline (calendar : Calendar) (publishedAt : Int) (years : ℕ) : Int :=
  (calendar.checkedAddMonths publishedAt (min (years * 12) 4294967295)).getD calendar.maxUtc

def retentionFloorYears : ℕ := 10

/-- The later of the sealed deadline and the one the current period gives. -/
def retirementDeadline (calendar : Calendar) (sealed : Option Int) (publishedAt : Int)
    (currentYears : ℕ) : Int :=
  match sealed with
  | none => retentionDeadline calendar publishedAt currentYears
  | some s => max s (retentionDeadline calendar publishedAt currentYears)

def decimalDigits (n : ℕ) : ℕ → List Char
  | 0 => []
  | width + 1 => decimalDigits (n / 10) width ++ [Nat.digitChar (n % 10)]

def dateText (t : Int) : String :=
  let (y, m, d) := civilFromDays (t / nanosPerDay)
  String.ofList (decimalDigits y.toNat 4 ++ '-' :: decimalDigits m.toNat 2 ++
    '-' :: decimalDigits d.toNat 2)

/-- The same time of day, on the same day or the month's last, up to the end of the year 262142. -/
def gregorian : Calendar where
  checkedAddMonths t months :=
    if months = 0 then some t
    else if months > 2147483647 then none
    else
      let (y, m, d) := civilFromDays (t / nanosPerDay)
      let total := y * 12 + (m - 1) + months
      let y' := total / 12
      let m' := total % 12 + 1
      let t' := daysFromCivil y' m' (min d (daysInMonth y' m')) * nanosPerDay + t % nanosPerDay
      if y' > 262142 then none else some t'
  maxUtc := (daysFromCivil 262142 12 31 + 1) * nanosPerDay - 1

-- Ten years end on the anniversary, and a leap day is clamped to 28 February.
example : retentionDeadline gregorian (daysFromCivil 2026 3 1 * nanosPerDay) 10 =
    daysFromCivil 2036 3 1 * nanosPerDay := by decide
example : retentionDeadline gregorian (daysFromCivil 2024 2 29 * nanosPerDay) 10 =
    daysFromCivil 2034 2 28 * nanosPerDay := by decide

end Retention

end PassportModel
