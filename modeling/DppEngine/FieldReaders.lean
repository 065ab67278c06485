import DppEngine.CreateRequests

/-! Reading the fields of one imported row: what a row answers for a field, and the readers every
validator is made of.

A reader answers with a value and with the errors it adds. Number and date parsing and the checks
of the core library are parameters. -/
namespace FieldReaders

open CreateRequests (isBlank)
open TrustedListDocuments (trim)

section Rows

/-- A header without separators, in lower case. -/
def normalizeKey (key : String) : String :=
  String.ofList ((key.toList.filter Char.isAlphanum).map Char.toLower)

/-- A map of texts, in the order it happens to be enumerated. -/
structure HashMap where
  entries : List (String × String)
  nodup : (entries.map Prod.fst).Nodup

/-- What a row answers: for a key, and for a field, whose own key comes first. -/
structure Row where
  get : String → Option String
  getField : String → Option String
  exact_first : ∀ {field v}, get field = some v → getField field = some v

def HashMap.get (m : HashMap) (key : String) : Option String :=
  (m.entries.find? fun e => e.1 = key).map Prod.snd

/-- The first entry whose key is as good as the field's, where none is the field itself. -/
def HashMap.getField (m : HashMap) (field : String) : Option String :=
  match m.get field with
  | some v => some v
  | none => (m.entries.find? fun e => normalizeKey e.1 = normalizeKey field).map Prod.snd

def HashMap.row (m : HashMap) : Row where
  get := m.get
  getField := m.getField
  exact_first := by
    intro field v h
    unfold HashMap.getField
    rw [h]

def present (row : Row) (field : String) : Option String :=
  (row.getField field).filter fun v => !isBlank v

theorem present_of_get {row : Row} {field v : String} (h : row.get field = some v)
    (hblank : isBlank v = false) : present row field = some v := by
  unfold present
  rw [row.exact_first h]
  simp [hblank]

end Rows

section Readers

structure RowError where
  row : ℕ
  field : String
  message : String
  deriving DecidableEq, Repr

/-- What a reader answers, and the errors it adds. -/
structure Read (α : Type) where
  value : α
  errors : List RowError

structure Parsers where
  F64 : Type
  parseF64 : String → Option F64
  isFinite : F64 → Bool
  zero : F64
  Date : Type
  /-- Year, month and day, with hyphens. -/
  parseDate : String → Option Date
  Gtin : Type
  parseGtin : String → Except String Gtin
  parseCommodityCode : String → Except String Unit
  carrierSerialProblem : String → Option String

variable (lib : Parsers) (row : Row) (field : String) (rowNum : ℕ) {α : Type}

def optional (parse : String → Except String α) : Read (Option α) :=
  match present row field with
  | none => ⟨none, []⟩
  | some raw =>
    match parse raw with
    | .ok a => ⟨some a, []⟩
    | .error message => ⟨none, [⟨rowNum, field, message⟩]⟩

def requireStr : Read (Option String) :=
  match present row field with
  | some v => ⟨some v, []⟩
  | none => ⟨none, [⟨rowNum, field, field ++ " is required"⟩]⟩

def required (parse : String → Except String α) : Read (Option α) :=
  match (requireStr row field rowNum).value with
  | none => ⟨none, (requireStr row field rowNum).errors⟩
  | some raw =>
    match parse raw with
    | .ok a => ⟨some a, []⟩
    | .error message => ⟨none, [⟨rowNum, field, message⟩]⟩

def float (raw : String) : Except String lib.F64 :=
  match lib.parseF64 raw with
  | none => .error ("Expected a number, got '" ++ raw ++ "'")
  | some v =>
    if lib.isFinite v then .ok v else .error ("Expected a finite number, got '" ++ raw ++ "'")

/-- Decimal digits, after a plus sign or not, below 2^32. -/
def parseU32 (raw : String) : Option ℕ :=
  let digits := if raw.toList.head? = some '+' then raw.toList.tail else raw.toList
  if digits ≠ [] ∧ digits.all Char.isDigit then
    let value := digits.foldl (fun n c => 10 * n + (c.toNat - '0'.toNat)) 0
    if value < 2 ^ 32 then some value else none
  else none

def count (raw : String) : Except String ℕ :=
  match parseU32 raw with
  | some n => .ok n
  | none => .error ("Expected a positive integer, got '" ++ raw ++ "'")

def date (raw : String) : Except String lib.Date :=
  match lib.parseDate (trim raw) with
  | some day => .ok day
  | none => .error ("Expected an ISO-8601 date (YYYY-MM-DD), got '" ++ raw ++ "'")

def commodityCode (raw : String) : Except String String :=
  match lib.parseCommodityCode (trim raw) with
  | .ok () => .ok (trim raw)
  | .error e => .error ("Invalid commodity code '" ++ raw ++ "': " ++ e)

def carrierSerial (raw : String) : Except String String :=
  match lib.carrierSerialProblem (trim raw) with
  | none => .ok (trim raw)
  | some problem => .error ("Invalid carrier serial '" ++ raw ++ "': " ++ problem)

def requireF64 : Read (Option lib.F64) := required row field rowNum (float lib)

def requireU32 : Read (Option ℕ) := required row field rowNum count

def optionalF64 : Read (Option lib.F64) := optional row field rowNum (float lib)

def optionalStr : Option String := present row field

def optionalCommodityCode : Read (Option String) := optional row field rowNum (commodityCode lib)

def optionalCarrierSerial : Read (Option String) := optional row field rowNum (carrierSerial lib)

def optionalDate : Read (Option lib.Date) := optional row field rowNum (date lib)

def aliased (aliases : List String) : Option String := aliases.findSome? (present row)

def requireAliased (aliases : List String) (canonical : String) : Read (Option String) :=
  match aliased row aliases with
  | some v => ⟨some v, []⟩
  | none => ⟨none, [⟨rowNum, canonical, canonical ++ " is required"⟩]⟩

end Readers

section Materials

structure MaterialEntry (F64 : Type) where
  name : String
  weightKg : F64
  recycledPct : Option F64
  countryOfOrigin : Option String

def maxMaterialColumns : ℕ := 10

def slotHeader (group : String) (slot : ℕ) (member : String) : String :=
  group ++ "_" ++ toString slot ++ "_" ++ member

variable (lib : Parsers) (row : Row)

/-- A number that is there, is one and is finite; anything else is nothing. -/
def lenientF64 (field : String) : Option lib.F64 :=
  ((row.getField field).bind lib.parseF64).filter lib.isFinite

def materialAt (slot : ℕ) : Option (MaterialEntry lib.F64) :=
  (present row (slotHeader "material" slot "name")).map fun name =>
    { name
      weightKg := (lenientF64 lib row (slotHeader "material" slot "weightKg")).getD lib.zero
      recycledPct := lenientF64 lib row (slotHeader "material" slot "recycledPct")
      countryOfOrigin := present row (slotHeader "material" slot "countryOfOrigin") }

def parseMaterials : List (MaterialEntry lib.F64) :=
  (List.range' 1 maxMaterialColumns).filterMap (materialAt lib row)

end Materials

section Facts

variable {row : Row} {field v : String} {rowNum : ℕ} {α : Type} {parse : String → Except String α}

theorem optional_absent (h : present row field = none) :
    optional row field rowNum parse = ⟨none, []⟩ := by
  unfold optional
  simp only [h]

theorem optional_ok {a : α} (h : present row field = some v) (hparse : parse v = .ok a) :
    optional row field rowNum parse = ⟨some a, []⟩ := by
  unfold optional
  simp only [h, hparse]

theorem optional_error {message : String} (h : present row field = some v)
    (hparse : parse v = .error message) :
    optional row field rowNum parse = ⟨none, [⟨rowNum, field, message⟩]⟩ := by
  unfold optional
  simp only [h, hparse]

theorem requireStr_present (h : present row field = some v) :
    requireStr row field rowNum = ⟨some v, []⟩ := by
  unfold requireStr
  rw [h]

theorem required_present (h : present row field = some v) :
    required row field rowNum parse = optional row field rowNum parse := by
  unfold required optional
  rw [requireStr_present h, h]

/-- Every error names the field it is about. -/
theorem optional_field {e : RowError} (h : e ∈ (optional row field rowNum parse).errors) :
    e.field = field := by
  unfold optional at h
  split at h
  next => cases h
  next =>
    split at h
    next => cases h
    next =>
      cases List.mem_singleton.mp h
      rfl

theorem required_field {e : RowError} (h : e ∈ (required row field rowNum parse).errors) :
    e.field = field := by
  cases hpresent : present row field with
  | some v =>
    rw [required_present hpresent] at h
    exact optional_field h
  | none =>
    unfold required requireStr at h
    rw [hpresent] at h
    cases List.mem_singleton.mp h
    rfl

/-- A text that gives no error is read. -/
theorem optional_read (h : present row field = some v)
    (herrors : (optional row field rowNum parse).errors = []) :
    ∃ a, parse v = .ok a ∧ (optional row field rowNum parse).value = some a := by
  cases hparse : parse v with
  | ok a => exact ⟨a, rfl, by rw [optional_ok h hparse]⟩
  | error message =>
    rw [optional_error h hparse] at herrors
    cases herrors

/-- A number that can be read is read leniently too. -/
theorem lenientF64_ok {lib : Parsers} {x : lib.F64} (h : present row field = some v)
    (hx : float lib v = .ok x) : lenientF64 lib row field = some x := by
  have hget : row.getField field = some v := (Option.filter_eq_some_iff.mp h).1
  unfold float at hx
  unfold lenientF64
  rw [hget]
  split at hx
  next => cases hx
  next y hy =>
    split at hx
    next hfinite =>
      cases hx
      simp [hy, hfinite]
    next => cases hx

end Facts

end FieldReaders
