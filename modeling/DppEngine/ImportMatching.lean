import DppEngine.CreateRequests

/-! The rows of an import against the passports that exist: what is to happen to each row, and the
batch that makes it happen.

A lookup and a call of the vault are answered from outside. A row is known by its number. -/
namespace ImportMatching

open JsonValues PrintedLabels CreateRequests
open PassportModel (PassportId PassportStatus)

inductive VaultClientError where
  | network (e : String)
  | parse (e : String)
  | validation (e : String)
  | conflict (field message : String)
  | unauthorised
  | rateLimit
  | serverError (code : ℕ)
  | unexpected (code : ℕ)
  deriving DecidableEq, Repr

def VaultClientError.display : VaultClientError → String
  | .network e => "network error: " ++ e
  | .parse e => "response parse error: " ++ e
  | .validation e => "vault validation error: " ++ e
  | .conflict field message => "vault conflict on " ++ field ++ ": " ++ message
  | .unauthorised => "vault returned 401/403 — check auth token"
  | .rateLimit => "vault rate limit (429) — all retries exhausted"
  | .serverError code => "vault server error: HTTP " ++ toString code
  | .unexpected code => "unexpected vault response: HTTP " ++ toString code

structure RowError where
  row : ℕ
  field : String
  message : String
  deriving DecidableEq, Repr

section Matching

inductive RowAction where
  | create | updateDraft | conflictPublished | unchanged
  deriving DecidableEq, Repr

structure Classification where
  action : RowAction
  existingId : Option PassportId
  deriving DecidableEq, Repr

/-- The members a fingerprint is taken of. `materials` may be left out; the product group and the
batch may be `null`. -/
structure Comparable where
  productName : String
  productGroup : Option String
  manufacturer : ManufacturerInfo
  materials : Option (List Json)
  productGroupData : Option ProductGroupData
  batchId : Option String
  deriving DecidableEq, Repr

/-- The digest a fingerprint is, taken to be free of collisions. -/
structure Fingerprint where
  Digest : Type
  equal : DecidableEq Digest
  comparableFingerprint : Comparable → Digest
  injective : Function.Injective comparableFingerprint

instance (fp : Fingerprint) : DecidableEq fp.Digest := fp.equal

structure Existing where
  id : Option PassportId
  status : Option String
  carrierSerial : Option String
  comparable : Comparable
  deriving DecidableEq, Repr

structure ProductIdentity where
  productGroup : String
  identifier : String
  batchId : Option String
  serialNumber : Option String
  deriving DecidableEq, Repr

/-- A request is serialised without its materials when it states none. -/
def comparableOf (req : CreatePassportRequest) : Comparable where
  productName := req.productName
  productGroup := req.productGroup
  manufacturer := req.manufacturer
  materials := req.materials
  productGroupData := req.productGroupData
  batchId := req.batchId

/-- The request carries no serial number. -/
def identityFromRequest (req : CreatePassportRequest) : Option ProductIdentity := do
  let productGroup ← req.productGroup.or (req.productGroupData.map (·.productGroup))
  let identifier ← req.productGroupData.bind (·.productIdentifier)
  return ⟨productGroup, identifier.asStr, req.batchId, none⟩

/-- The serial the passport's carrier prints: the attributed one, or the default of its id. -/
def printedCarrierSerial (existing : Existing) : Option String :=
  existing.carrierSerial.or (existing.id.map PassportId.defaultCarrierSerial)

/-- A blank cell states nothing. -/
def statesAnotherCarrierSerial (req : CreatePassportRequest) (existing : Existing) : Bool :=
  req.carrierSerial.any fun stated => printedCarrierSerial existing ≠ some stated

abbrev Lookup := ProductIdentity → Except VaultClientError (Option Existing)

variable (fp : Fingerprint)

def classifyExisting (req : CreatePassportRequest) (existing : Existing) : Classification :=
  if fp.comparableFingerprint (comparableOf req) = fp.comparableFingerprint existing.comparable ∧
      statesAnotherCarrierSerial req existing = false then
    ⟨.unchanged, existing.id⟩
  else if existing.status = some PassportStatus.published.toString then
    ⟨.conflictPublished, existing.id⟩
  else ⟨.updateDraft, existing.id⟩

def classifyRow (lookup : Lookup) (req : CreatePassportRequest) :
    Except VaultClientError Classification :=
  match identityFromRequest req with
  | none => .ok ⟨.create, none⟩
  | some identity =>
    match lookup identity with
    | .error e => .error e
    | .ok none => .ok ⟨.create, none⟩
    | .ok (some existing) => .ok (classifyExisting fp req existing)

abbrev Rows := List (ℕ × CreatePassportRequest)

/-- What each row number was classified as. A failed lookup counts as no match. -/
def classifyBatch (lookup : ℕ → Lookup) (rows : Rows) : List (ℕ × Classification) :=
  rows.map fun (n, req) => (n, (classifyRow fp (lookup n) req).toOption.getD ⟨.create, none⟩)

variable {fp} in
/-- A row that has its number for itself is classified by what its own lookup answers. -/
theorem lookup_classifyBatch {lookup : ℕ → Lookup} {rows : Rows} {n : ℕ}
    {req : CreatePassportRequest} (hnumbered : (rows.map Prod.fst).Nodup) (h : (n, req) ∈ rows) :
    (classifyBatch fp lookup rows).lookup n =
      some ((classifyRow fp (lookup n) req).toOption.getD ⟨.create, none⟩) := by
  induction rows with
  | nil => cases h
  | cons row rows ih =>
    rw [List.map_cons, List.nodup_cons] at hnumbered
    rw [classifyBatch, List.map_cons, List.lookup_cons]
    rcases List.mem_cons.mp h with rfl | hlater
    · rw [beq_self_eq_true]
    · have hne : n ≠ row.1 := by
        rintro rfl
        exact hnumbered.1 (List.mem_map.mpr ⟨_, hlater, rfl⟩)
      rw [beq_false_of_ne hne]
      exact ih hnumbered.2 hlater

def statedLabel (req : CreatePassportRequest) : Option (String × String) :=
  req.carrierSerial.bind fun serial =>
    (req.productGroupData.bind (·.productIdentifier)).map fun identifier =>
      (identifier.asStr, serial)

def repeatedSerial (n : ℕ) (label : String × String) (first : ℕ) : RowError :=
  ⟨n, "carrierSerial", "carrier serial '" ++ label.2 ++ "' is already stated by row " ++
    toString first ++ " under the same product identifier; a label that names two passports " ++
    "resolves to neither"⟩

/-- Rows that state a serial an earlier row has stated under the same identifier are taken out. -/
def refuseRepeated (firstStated : List ((String × String) × ℕ)) : Rows → Rows × List RowError
  | [] => ([], [])
  | (n, req) :: rows =>
    match statedLabel req with
    | none =>
      let (kept, refused) := refuseRepeated firstStated rows
      ((n, req) :: kept, refused)
    | some label =>
      match firstStated.lookup label with
      | some first =>
        let (kept, refused) := refuseRepeated firstStated rows
        (kept, repeatedSerial n label first :: refused)
      | none =>
        let (kept, refused) := refuseRepeated ((label, n) :: firstStated) rows
        ((n, req) :: kept, refused)

def refuseRepeatedCarrierSerials (rows : Rows) : Rows × List RowError := refuseRepeated [] rows

end Matching

section Batches

structure CreatedItem where
  row : ℕ
  passportId : String
  deriving DecidableEq, Repr

structure UpdatedItem where
  row : ℕ
  passportId : PassportId
  deriving DecidableEq, Repr

structure BatchResult where
  created : List CreatedItem
  updated : List UpdatedItem
  errors : List RowError
  deriving DecidableEq, Repr

/-- The answers of the vault to each attempt of a row's call: the `id` member of the body of a
create, and whether an update of a passport was taken. -/
structure VaultAnswers where
  create : ℕ → CreatePassportRequest → ℕ → Except VaultClientError (Option String)
  update : ℕ → PassportId → CreatePassportRequest → ℕ → Except VaultClientError Unit

def maxRetries : ℕ := 3

/-- The first answer that is not a rate limit, of the attempts from `attempt` on. -/
def retry {α : Type} (answer : ℕ → Except VaultClientError α) (attempt : ℕ) :
    ℕ → Except VaultClientError α
  | 0 => .error .rateLimit
  | left + 1 =>
    match answer attempt with
    | .error .rateLimit => if left = 0 then .error .rateLimit else retry answer (attempt + 1) left
    | answered => answered

inductive RowOutcome where
  | created (passportId : String)
  | updated (passportId : PassportId)
  deriving DecidableEq, Repr

/-- A batch stops where a draft is to be updated and the answer that matched it named no id. -/
def runRow (vault : VaultAnswers) (n : ℕ) (req : CreatePassportRequest)
    (classification : Classification) : Option (Except VaultClientError RowOutcome) :=
  match classification with
  | ⟨.updateDraft, none⟩ => none
  | ⟨.updateDraft, some id⟩ =>
    some ((retry (vault.update n id req) 0 maxRetries).map fun _ => .updated id)
  | _ => some (
    match retry (vault.create n req) 0 maxRetries with
    | .error e => .error e
    | .ok none => .error (.parse "vault returned success without a passport id")
    | .ok (some id) =>
      if id.isEmpty then .error (.parse "vault returned success without a passport id")
      else .ok (.created id))

def writes (classification : Classification) : Bool :=
  classification.action ≠ .unchanged && classification.action ≠ .conflictPublished

def classificationOf (classifications : List (ℕ × Classification)) (n : ℕ) : Classification :=
  (classifications.lookup n).getD ⟨.create, none⟩

def toRun (validRows : Rows) (classifications : List (ℕ × Classification)) :
    List (ℕ × CreatePassportRequest × Classification) :=
  validRows.filterMap fun (n, req) =>
    let classification := classificationOf classifications n
    if writes classification then some (n, req, classification) else none

theorem toRun_numbers (rows : Rows) (cs : List (ℕ × Classification)) :
    (toRun rows cs).map Prod.fst =
      (rows.map Prod.fst).filter fun n => writes (classificationOf cs n) := by
  unfold toRun
  induction rows with
  | nil => rfl
  | cons row rows ih =>
    obtain ⟨n, req⟩ := row
    by_cases hwrites : writes (classificationOf cs n)
    · simp [hwrites, ih]
    · simp [hwrites, ih]

def rowError (n : ℕ) : VaultClientError → RowError
  | .validation message => ⟨n, "request", message⟩
  | .conflict field message => ⟨n, field, message⟩
  | .unauthorised => ⟨n, "auth", "Not authorised — check your Bearer token."⟩
  | e => ⟨n, "vault", e.display⟩

def BatchResult.record (batch : BatchResult) (n : ℕ) :
    Except VaultClientError RowOutcome → BatchResult
  | .ok (.created id) => { batch with created := batch.created ++ [⟨n, id⟩] }
  | .ok (.updated id) => { batch with updated := batch.updated ++ [⟨n, id⟩] }
  | .error e => { batch with errors := batch.errors ++ [rowError n e] }

def collect (vault : VaultAnswers) :
    List (ℕ × CreatePassportRequest × Classification) → BatchResult → Option BatchResult
  | [], batch => some batch
  | (n, req, classification) :: rows, batch =>
    match runRow vault n req classification with
    | none => none
    | some outcome => collect vault rows (batch.record n outcome)

def runBatch (vault : VaultAnswers) (validRows : Rows)
    (classifications : List (ℕ × Classification)) : Option BatchResult :=
  collect vault (toRun validRows classifications) ⟨[], [], []⟩

end Batches

end ImportMatching
