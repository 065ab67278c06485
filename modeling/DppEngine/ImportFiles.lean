import DppEngine.ImportMatching
import Mathlib.Data.Finset.Card

/-! The import of a file: its rows are read, validated, matched and handed to the vault.

The readers of the two formats yield cells, and blank rows are dropped before the rows are
numbered. Validation, the lookups and the calls of the vault are answered from outside. -/
namespace ImportFiles

open CreateRequests ImportMatching
open PassportModel (PassportId)
open TrustedListDocuments (trim)

section Parsing

inductive Cell where
  | empty
  | error
  | bool (b : Bool)
  | int (i : Int)
  | float (text : String)
  | string (s : String)
  | other (text : String)
  deriving DecidableEq, Repr

def cellToString : Cell → String
  | .empty => ""
  | .error => ""
  | .bool b => toString b
  | .int i => toString i
  | .float text => text
  | .string s => trim s
  | .other text => text

def withoutTag (tag : List Char) : ℕ → List Char → List Char
  | 0, text => text
  | _, [] => []
  | fuel + 1, c :: text =>
    if tag.isPrefixOf (c :: text) then withoutTag tag fuel ((c :: text).drop tag.length)
    else c :: withoutTag tag fuel text

def normalizeHeader (header : String) : String :=
  let untagged := [" [REQUIRED]", " [OPTIONAL]"].foldl
    (fun text tag => withoutTag tag.toList text.length text) header.toList
  trim (String.ofList untagged)

/-- A file as its reader yields it. A line with nothing on it has no cells. -/
inductive Upload where
  | csv (headers : List String) (records : List (List String))
  | xlsx (header : List Cell) (rows : List (List Cell))
  deriving DecidableEq, Repr

def Upload.headers : Upload → List String
  | .csv headers _ => headers.map normalizeHeader
  | .xlsx header _ => header.map fun cell => normalizeHeader (cellToString cell)

def Upload.format : Upload → String
  | .csv .. => "CSV"
  | .xlsx .. => "XLSX"

def Upload.dataRows : Upload → List (List String)
  | .csv _ records => records.map (·.map trim)
  | .xlsx _ rows => rows.map (·.map cellToString)

/-- The cells that have a column and a value. -/
abbrev Row := List (String × String)

def rowOf (headers texts : List String) : Row :=
  (headers.zip texts).filter fun (column, value) => column ≠ "" && value ≠ ""

def Upload.rawRows (upload : Upload) : List Row := upload.dataRows.map (rowOf upload.headers)

inductive ParseError where
  | csv (detail : String)
  | empty
  deriving DecidableEq, Repr

def maxRows : ℕ := 200000

def parse (upload : Upload) : Except ParseError (List Row) :=
  if upload.headers.all (· = "") then .error .empty
  else
    let rows := (upload.dataRows.map (rowOf upload.headers)).filter (· ≠ [])
    if maxRows < rows.length then
      .error (.csv ("file contains too many rows; maximum is " ++ toString maxRows))
    else .ok rows

end Parsing

inductive ImportMode where
  | dryRun | apply
  deriving DecidableEq, Repr

structure Finding where
  field : String
  message : String
  deriving DecidableEq, Repr

/-- What is asked of others. A validator refuses a row with one finding or more. -/
structure Environment where
  validateRow : Row → Except (Finding × List Finding) CreatePassportRequest
  lint : CreatePassportRequest → List Finding
  fingerprint : Fingerprint
  lookup : ℕ → Lookup
  vault : VaultAnswers

structure ReportRow where
  row : ℕ
  valid : Bool
  action : Option RowAction
  existingPassportId : Option PassportId
  findings : List Finding
  deriving DecidableEq, Repr

structure ImportReport where
  mode : ImportMode
  totalRows : ℕ
  rows : List ReportRow
  deriving DecidableEq, Repr

structure SyncImportResponse where
  totalRows : ℕ
  successCount : ℕ
  errorCount : ℕ
  created : List CreatedItem
  updated : List UpdatedItem
  errors : List RowError
  deriving DecidableEq, Repr

structure ImportCompleted where
  totalRows : ℕ
  created : ℕ
  updated : ℕ
  failedRows : ℕ
  deriving DecidableEq, Repr

/-- How an import ends: refused as a file, answered at once, finished in the background, or stopped
by a batch that panicked. -/
inductive Outcome where
  | refused (detail : String)
  | dryRun (report : ImportReport) (response : SyncImportResponse)
  | sync (report : ImportReport) (response : SyncImportResponse) (batch : BatchResult)
      (event : ImportCompleted)
  | async (report : ImportReport) (batch : BatchResult) (event : ImportCompleted)
  | stopped (report : ImportReport)
  deriving DecidableEq, Repr

section Handler

variable (env : Environment)

/-- Rows are numbered as they were kept. -/
def validateRows (n : ℕ) : List Row → Rows × List RowError
  | [] => ([], [])
  | row :: rows =>
    let (valid, errors) := validateRows (n + 1) rows
    match env.validateRow row with
    | .ok req => ((n, req) :: valid, errors)
    | .error (first, others) =>
      (valid, (first :: others).map (fun f => ⟨n, f.field, f.message⟩) ++ errors)

def buildReportRows (totalRows : ℕ) (validRows : Rows) (rowErrors : List RowError)
    (classifications : List (ℕ × Classification)) : List ReportRow :=
  (List.range' 1 totalRows).map fun n =>
    let classification := classifications.lookup n
    { row := n
      valid := n ∈ validRows.map Prod.fst
      action := classification.map (·.action)
      existingPassportId := classification.bind (·.existingId)
      findings := (rowErrors.filter (·.row = n)).map (fun e => ⟨e.field, e.message⟩) ++
        ((validRows.lookup n).map env.lint).getD [] }

def failedRows (errors : List RowError) : Finset ℕ := (errors.map (·.row)).toFinset

def completed (totalRows : ℕ) (rowErrors : List RowError) (batch : BatchResult) :
    ImportCompleted where
  totalRows := totalRows
  created := batch.created.length
  updated := batch.updated.length
  failedRows := (failedRows rowErrors ∪ failedRows batch.errors).card

def syncThreshold : ℕ := 100

def importRows (mode : ImportMode) (rawRows : List Row) : Outcome :=
  let totalRows := rawRows.length
  let (validated, invalid) := validateRows env 1 rawRows
  let (validRows, repeated) := refuseRepeatedCarrierSerials validated
  let rowErrors := invalid ++ repeated
  let classifications := classifyBatch env.fingerprint env.lookup validRows
  let report : ImportReport :=
    ⟨mode, totalRows, buildReportRows env totalRows validRows rowErrors classifications⟩
  match mode with
  | .dryRun => .dryRun report
      { totalRows, successCount := 0, errorCount := rowErrors.length, created := []
        updated := [], errors := rowErrors }
  | .apply =>
    match runBatch env.vault validRows classifications with
    | none => .stopped report
    | some batch =>
      let event := completed totalRows rowErrors batch
      if validRows.length ≤ syncThreshold then
        let errors := rowErrors ++ batch.errors
        .sync report
          { totalRows
            successCount := totalRows - (failedRows errors).card
            errorCount := (failedRows errors).card
            created := batch.created, updated := batch.updated, errors } batch event
      else .async report batch event

def importFile (mode : ImportMode) (upload : Upload) : Outcome :=
  match parse upload with
  | .error (.csv detail) => .refused (upload.format ++ " parse error: CSV error: " ++ detail)
  | .error .empty => .refused (upload.format ++ " parse error: file is empty or has no header row")
  | .ok [] => .refused "The uploaded file contains no data rows."
  | .ok rawRows => importRows env mode rawRows

end Handler

end ImportFiles
