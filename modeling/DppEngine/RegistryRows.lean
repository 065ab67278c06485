import DppEngine.PassportModel
import DppEngine.SnapshotDrain
import DppEngine.TrustedListDocuments

/-! The registration queue: one row per passport, and the statements that write it.

Each statement is one conditional `UPDATE`, so it is one atomic step on the row; `none` is a
statement that matched no row. `now` is the database's clock. Columns no modelled statement or
query reads are left out. -/
namespace RegistryRows

open JsonValues PassportModel

inductive RegistrySyncStatus where
  | pending
  | submitted
  | registered
  | rejected
  | abandoned
  deriving DecidableEq, Repr

inductive RegistryStatusIntent where
  | suspended
  | deactivated
  deriving DecidableEq, Repr

structure RegistrySyncRow where
  status : RegistrySyncStatus
  statusIntent : Option RegistryStatusIntent
  registryId : Option String
  payload : Option Json
  message : Option String
  attempts : ℕ
  nextAttemptAt : Int
  deriving DecidableEq, Repr

section Statements

variable (now : Int) (jitter : ℕ) (row : RegistrySyncRow)

/-- Only a rejected or an abandoned row is queued again, with what it held in `registry_id`; a
recorded intent is cleared on any row. -/
def queueRegistration (payload : Json) : Option RegistrySyncRow → RegistrySyncRow
  | none => ⟨.pending, none, none, some payload, none, 0, now⟩
  | some row =>
    let row := if row.status = .rejected ∨ row.status = .abandoned then
        { row with payload := some payload, status := .pending, attempts := 0,
                   nextAttemptAt := now, message := none }
      else row
    { row with statusIntent := none }

def recordStatusIntent (intent : RegistryStatusIntent) : RegistrySyncRow :=
  { row with statusIntent := some intent }

def isDue : Bool :=
  (row.status = .pending || row.status = .submitted) && row.nextAttemptAt ≤ now

/-- `jitter` is in thousandths, between 750 and 1250. -/
def backedOff : Int := now + SnapshotDrain.backoffSeconds row.attempts * jitter * 1000000

/-- `mark_submitted` and `mark_submitted_noting`. An empty id keeps what the column held. -/
def submitted (registryId : String) (message : Option String) : Option RegistrySyncRow :=
  if row.status ≠ .abandoned then
    some { row with
      status := .submitted
      registryId := if registryId = "" then row.registryId else some registryId
      attempts := row.attempts + 1
      nextAttemptAt := backedOff now jitter row
      message }
  else none

/-- `COALESCE(registry_id, '') = ''`. -/
def holdsNone : Bool := row.registryId.getD "" = ""

def recordHandle (correlationId : String) : Option RegistrySyncRow :=
  if row.status = .submitted ∧ holdsNone row then
    some { row with registryId := some correlationId, attempts := 0, nextAttemptAt := now,
                    message := none }
  else none

def abandon (message : String) : Option RegistrySyncRow :=
  if row.status = .pending ∧ row.attempts ≥ 1 ∧ row.nextAttemptAt > now then
    some { row with status := .abandoned, message := some message }
  else none

def markRegistered (registryId : String) : Option RegistrySyncRow :=
  if row.status ≠ .abandoned then
    some { row with status := .registered, registryId := some registryId, message := none }
  else none

def markRejected (message : String) : Option RegistrySyncRow :=
  if row.status ≠ .abandoned then some { row with status := .rejected, message := some message }
  else none

def markAttemptFailed (message : String) : Option RegistrySyncRow :=
  if row.status ≠ .abandoned then
    some { row with
      attempts := row.attempts + 1
      message := some message
      nextAttemptAt := backedOff now jitter row }
  else none

end Statements

def correlationId (row : RegistrySyncRow) : Option String :=
  (row.registryId.map TrustedListDocuments.trim).filter (· ≠ "")

section StatementFacts

variable {now : Int} {jitter : ℕ} {row row' : RegistrySyncRow} {id message : String}
  {note : Option String} {payload : Json}

theorem submitted_some (h : submitted now jitter row id note = some row') :
    row.status ≠ .abandoned ∧ row' = { row with
      status := .submitted
      registryId := if id = "" then row.registryId else some id
      attempts := row.attempts + 1
      nextAttemptAt := backedOff now jitter row
      message := note } := by
  by_cases hstatus : row.status ≠ .abandoned
  · rw [submitted, if_pos hstatus] at h
    exact ⟨hstatus, (Option.some.inj h).symm⟩
  · rw [submitted, if_neg hstatus] at h
    cases h

theorem recordHandle_some (h : recordHandle now row id = some row') :
    row.status = .submitted ∧ holdsNone row = true ∧ row' = { row with
      registryId := some id, attempts := 0, nextAttemptAt := now, message := none } := by
  unfold recordHandle at h
  split_ifs at h with hopen
  exact ⟨hopen.1, hopen.2, (Option.some.inj h).symm⟩

theorem abandon_some (h : abandon now row message = some row') :
    row.status = .pending ∧ 1 ≤ row.attempts ∧ now < row.nextAttemptAt ∧
      row' = { row with status := .abandoned, message := some message } := by
  unfold abandon at h
  split_ifs at h with hopen
  exact ⟨hopen.1, hopen.2.1, hopen.2.2, (Option.some.inj h).symm⟩

theorem markRegistered_some (h : markRegistered row id = some row') :
    row.status ≠ .abandoned ∧
      row' = { row with status := .registered, registryId := some id, message := none } := by
  unfold markRegistered at h
  split_ifs at h with hstatus
  exact ⟨hstatus, (Option.some.inj h).symm⟩

theorem markRejected_some (h : markRejected row message = some row') :
    row.status ≠ .abandoned ∧ row' = { row with status := .rejected, message := some message } := by
  unfold markRejected at h
  split_ifs at h with hstatus
  exact ⟨hstatus, (Option.some.inj h).symm⟩

theorem markAttemptFailed_some (h : markAttemptFailed now jitter row message = some row') :
    row.status ≠ .abandoned ∧ row' = { row with
      attempts := row.attempts + 1
      message := some message
      nextAttemptAt := backedOff now jitter row } := by
  unfold markAttemptFailed at h
  split_ifs at h with hstatus
  exact ⟨hstatus, (Option.some.inj h).symm⟩

theorem isDue_iff : isDue now row = true ↔
    (row.status = .pending ∨ row.status = .submitted) ∧ row.nextAttemptAt ≤ now := by
  simp [isDue]

/-- A publish writes a new pending row, queues a closed one again, or leaves what it held. -/
theorem queueRegistration_cases (now : Int) (payload : Json) (stored : Option RegistrySyncRow) :
    ((queueRegistration now payload stored).status = .pending ∧
      (queueRegistration now payload stored).payload = some payload) ∨
    ∃ row, stored = some row ∧ row.status ≠ .rejected ∧ row.status ≠ .abandoned ∧
      queueRegistration now payload stored = { row with statusIntent := none } := by
  cases stored with
  | none => exact Or.inl ⟨rfl, rfl⟩
  | some row =>
    by_cases h : row.status = .rejected ∨ row.status = .abandoned
    · exact Or.inl (by simp [queueRegistration, h])
    · rw [not_or] at h
      exact Or.inr ⟨row, rfl, h.1, h.2, by simp [queueRegistration, h.1, h.2]⟩

end StatementFacts

end RegistryRows
