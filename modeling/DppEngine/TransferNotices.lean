import DppEngine.RegistryDrain
import Mathlib.Data.List.TakeWhile

/-! The notifications the registry is owed for handovers, and the drain that sends them.

A handover has a row of its own, queued when it is accepted, so the rows of one passport stand in
the order of its handovers. The drain goes by the time each row is due next, which every failure
and deferral sets anew. The registration a notification amends is read from the registration
queue, which runs beside it. -/
namespace TransferNotices

open JsonValues PassportModel RegistryRows TransitionSystems
open RegistryDrain hiding State Event next initial Invariant initial_invariant Task

inductive RegistryTransferStatus where
  | pending
  | notified
  | rejected
  deriving DecidableEq, Repr

structure RegistryTransferRow where
  transferId : ℕ
  passportId : PassportId
  status : RegistryTransferStatus
  payload : Json
  registryId : Option String
  message : Option String
  attempts : ℕ
  nextAttemptAt : Int
  deriving DecidableEq, Repr

section Statements

/-- Accepted once: a conflict leaves the row alone. -/
def queueTransferNotice (now : Int) (transferId : ℕ) (passportId : PassportId) (payload : Json)
    (rows : List RegistryTransferRow) : List RegistryTransferRow :=
  if rows.any (·.transferId = transferId) then rows
  else rows ++ [⟨transferId, passportId, .pending, payload, none, none, 0, now⟩]

def isDue (now : Int) (row : RegistryTransferRow) : Bool :=
  row.status = .pending && row.nextAttemptAt ≤ now

/-- What `due` may answer: up to `limit` due rows by the time they are due, ties in any order. -/
def IsDueBatch (now : Int) (limit : ℕ) (rows batch : List RegistryTransferRow) : Prop :=
  (batch.map (·.transferId)).Nodup ∧ (∀ row ∈ batch, row ∈ rows ∧ isDue now row) ∧
    batch.Pairwise (·.nextAttemptAt ≤ ·.nextAttemptAt) ∧
    batch.length = min limit (rows.filter (isDue now)).length ∧
    ∀ row ∈ rows, isDue now row → row ∉ batch → ∀ b ∈ batch, b.nextAttemptAt ≤ row.nextAttemptAt

instance (now : Int) (limit : ℕ) (rows batch : List RegistryTransferRow) :
    Decidable (IsDueBatch now limit rows batch) :=
  inferInstanceAs (Decidable (_ ∧ _ ∧ _ ∧ _ ∧ _))

inductive Write where
  | notified (registryId : String)
  | rejected (message : String)
  | deferred (message : String)
  | attemptFailed (message : String)
  deriving DecidableEq, Repr

/-- `jitter` is in thousandths, between 750 and 1250. -/
def Write.apply (now : Int) (jitter : ℕ) (row : RegistryTransferRow) : Write → RegistryTransferRow
  | .notified registryId =>
    { row with status := .notified, registryId := some registryId, message := none }
  | .rejected message => { row with status := .rejected, message := some message }
  | .deferred message =>
    { row with message := some message, nextAttemptAt := now + 60 * 1000000000 }
  | .attemptFailed message =>
    { row with
      attempts := row.attempts + 1
      message := some message
      nextAttemptAt := now + SnapshotDrain.backoffSeconds row.attempts * jitter * 1000000 }

def Write.closes : Write → Bool
  | .notified _ | .rejected _ => true
  | .deferred _ | .attemptFailed _ => false

def updateRow (transferId : ℕ) (f : RegistryTransferRow → RegistryTransferRow)
    (rows : List RegistryTransferRow) : List RegistryTransferRow :=
  rows.map fun row => if row.transferId = transferId then f row else row

end Statements

section Drain

inductive TransferReport where
  | accepted
  | alreadyHeld
  | refused (reason : String)
  | processing
  | unrecognised (answer : String)
  deriving DecidableEq, Repr

inductive Task (Record : Type) where
  | done
  | notify (record : Record) (registryId : String)
  | write (w : Write) (ok failed : Task Record)
  deriving DecidableEq

variable {Record : Type}

def Task.record (w : Write) : Task Record := .write w .done .done

def afterNotify (registryId : String) : Except RegisterError TransferReport → Task Record
  | .ok .accepted | .ok .alreadyHeld => .record (.notified registryId)
  | .ok (.refused reason) =>
    .record (.rejected ("registry rejected transfer notification: " ++ reason))
  | .ok .processing => .record (.attemptFailed
      ("the registry has the notification and has not applied it yet — sending it again under" ++
        " the same key"))
  | .ok (.unrecognised answer) => .record (.attemptFailed
      ("the registry answered a transfer notification with a state this node has no name for (" ++
        answer ++ ") — sending it again under the same key"))
  | .error (.validation e) => .write (.rejected ("refused before sending: " ++ e)) .done
      (.record (.attemptFailed ("refused before sending: " ++ e)))
  | .error (.other e) => .record (.attemptFailed e)

/-- The record a handover amends: only a registered row names one. -/
def registrationId (registration : Option RegistrySyncRow) : Option String :=
  ((registration.filter (·.status = .registered)).bind (·.registryId)).filter
    fun id => TrustedListDocuments.trim id ≠ ""

-- `serde_json::from_value`, at the type of a transfer.
variable (readRecord : Json → Except String Record)

def drainRow (registration : Option RegistrySyncRow) (row : RegistryTransferRow) : Task Record :=
  match readRecord row.payload with
  | .error e => .record (.rejected ("corrupt payload: " ++ e))
  | .ok record =>
    match registrationId registration with
    | none => .record (.deferred "awaiting the passport's own registry registration")
    | some id => .notify record id

end Drain

section Runs

variable {Record : Type}

structure State (Record : Type) where
  registry : RegistryDrain.State
  /-- The identifiers the registry reported registrations under. -/
  registrationIds : List String
  notices : List RegistryTransferRow
  current : Option (RegistryTransferRow × Task Record)
  rest : List RegistryTransferRow

inductive Event where
  | registry (e : RegistryDrain.Event)
  | accept (transferId : ℕ) (passportId : PassportId) (payload : Json)
  | due (limit : ℕ) (batch : List RegistryTransferRow)
  /-- The registration may not be readable. -/
  | takeUp (readable : Bool)
  | answered (answer : Except RegisterError TransferReport)
  | written (fate : Fate) (jitter : ℕ)

def reportedBy : RegistryDrain.Event → List String
  | .reported (.ok (.registered id)) => [id]
  | .lookedUp (.ok (.found _ (.registered id))) => [id]
  | _ => []

def State.atRest (s : State Record) : Bool :=
  match s.current with
  | none | some (_, .done) => true
  | _ => false

def Task.after (ok failed : Task Record) : Fate → Task Record
  | .heard => ok
  | .lost _ | .unheard _ => failed

variable (readRequest : Json → Except String RegistrationRequest)
  (readRecord : Json → Except String Record)

def next (s : State Record) : Event → Option (State Record)
  | .registry e => (RegistryDrain.next readRequest s.registry e).map fun registry =>
      { s with registry, registrationIds := reportedBy e ++ s.registrationIds }
  | .accept transferId passportId payload => some { s with
      notices := queueTransferNotice s.registry.clock transferId passportId payload s.notices }
  | .due limit batch =>
    if s.atRest ∧ s.rest = [] ∧ IsDueBatch s.registry.clock limit s.notices batch then
      some { s with current := none, rest := batch }
    else none
  | .takeUp readable =>
    match s.atRest, s.rest with
    | true, row :: rest =>
      let registration := if readable then s.registry.rows row.passportId else none
      some { s with current := some (row, drainRow readRecord registration row), rest }
    | _, _ => none
  | .answered answer =>
    match s.current with
    | some (row, .notify _ registryId) =>
      some { s with current := some (row, afterNotify registryId answer) }
    | _ => none
  | .written fate jitter =>
    match s.current with
    | some (row, .write w ok failed) => some { s with
        current := some (row, Task.after ok failed fate)
        notices := if fate.runs then
            updateRow row.transferId (fun r => w.apply s.registry.clock jitter r) s.notices
          else s.notices }
    | _ => none

def initial (now : Int) : State Record := ⟨RegistryDrain.initial now, [], [], none, []⟩

def earlier (notices : List RegistryTransferRow) (row : RegistryTransferRow) :
    List RegistryTransferRow :=
  notices.takeWhile (·.transferId ≠ row.transferId)

/-- What is sent amends a registration the registry reported, and comes after every notification
of an earlier handover of the passport is done with. -/
structure SentInOrder (s : State Record) (row : RegistryTransferRow) (registryId : String) :
    Prop where
  registered : ∃ registration, s.registry.rows row.passportId = some registration ∧
    registration.status = .registered ∧ registration.registryId = some registryId ∧
      registryId ∈ s.registrationIds
  order : ∀ r ∈ earlier s.notices row, r.passportId = row.passportId → r.status ≠ .pending

/-- A pass reads no notification before the pending ones of earlier handovers of the passport, and
reads none after one of the passport that it leaves pending. -/
def InTurn (s : State Record) : Event → Prop
  | .due _ batch => ∀ i : Fin batch.length, ∀ r ∈ earlier s.notices (batch.get i),
      r.passportId = (batch.get i).passportId → r.status = .pending → r ∈ batch.take i
  | .written fate _ =>
    match s.current with
    | some (row, .write w _ _) => fate.runs = false ∨ w.closes = false →
        ∀ later ∈ s.rest, later.passportId ≠ row.passportId
    | _ => True
  | _ => True

instance (s : State Record) : ∀ e, Decidable (InTurn s e)
  | .due _ batch => inferInstanceAs (Decidable (∀ i : Fin batch.length,
      ∀ r ∈ earlier s.notices (batch.get i), r.passportId = (batch.get i).passportId →
        r.status = .pending → r ∈ batch.take i))
  | .written fate _ =>
    match h : s.current with
    | some (row, .write w _ _) => decidable_of_iff (fate.runs = false ∨ w.closes = false →
        ∀ later ∈ s.rest, later.passportId ≠ row.passportId) (by simp [InTurn, h])
    | none => .isTrue (by simp [InTurn, h])
    | some (_, .done) => .isTrue (by simp [InTurn, h])
    | some (_, .notify _ _) => .isTrue (by simp [InTurn, h])
  | .registry _ | .accept _ _ _ | .takeUp _ | .answered _ => .isTrue trivial

end Runs

section Registrations

variable {readRequest : Json → Except String RegistrationRequest} {s u : RegistryDrain.State}
  {e : RegistryDrain.Event} {ids ids' : List String} {task : RegistryDrain.Task}
  {row row' : RegistrySyncRow} {id : PassportId}

def Reported (ids : List String) : RegistryDrain.Task → Prop
  | .write (.registered id) ok failed => id ∈ ids ∧ Reported ids ok ∧ ∀ e, Reported ids (failed e)
  | .write _ ok failed => Reported ids ok ∧ ∀ e, Reported ids (failed e)
  | _ => True

theorem Reported.mono (hsub : ids ⊆ ids') (h : Reported ids task) : Reported ids' task := by
  induction task with
  | write w ok failed ihok ihfailed =>
    cases w with
    | registered id => exact ⟨hsub h.1, ihok h.2.1, fun e => ihfailed e (h.2.2 e)⟩
    | submitted id message => exact ⟨ihok h.1, fun e => ihfailed e (h.2 e)⟩
    | rejected message => exact ⟨ihok h.1, fun e => ihfailed e (h.2 e)⟩
    | attemptFailed message => exact ⟨ihok h.1, fun e => ihfailed e (h.2 e)⟩
  | _ => trivial

theorem Reported.after {w : RegistryDrain.Write} {ok : RegistryDrain.Task}
    {failed : String → RegistryDrain.Task} (h : Reported ids (.write w ok failed))
    (htask : task = ok ∨ ∃ e, task = failed e) : Reported ids task := by
  have hboth : Reported ids ok ∧ ∀ e, Reported ids (failed e) := by
    cases w with
    | registered id => exact h.2
    | submitted id message => exact h
    | rejected message => exact h
    | attemptFailed message => exact h
  rcases htask with rfl | ⟨e, rfl⟩
  · exact hboth.1
  · exact hboth.2 e

theorem submitted_reported (registryId : String) (message : Option String) :
    Reported ids (.record (.submitted registryId message)) :=
  ⟨trivial, fun _ => trivial⟩

theorem rejected_reported (message : String) : Reported ids (.record (.rejected message)) :=
  ⟨trivial, fun _ => trivial⟩

theorem attemptFailed_reported (message : String) :
    Reported ids (.record (.attemptFailed message)) :=
  ⟨trivial, fun _ => trivial⟩

theorem applyReport_reported {answer : Except String SubmissionReport}
    (h : ∀ id, answer = .ok (.registered id) → id ∈ ids) : Reported ids (applyReport answer) := by
  rcases answer with e | (id | reason | state | _)
  · exact attemptFailed_reported e
  · exact ⟨h id rfl, trivial, fun _ => trivial⟩
  · exact rejected_reported reason
  · exact submitted_reported _ _
  · exact submitted_reported _ _

theorem recoverWithRequest_reported {answer : Except String SubmissionLookup}
    (h : ∀ handle id, answer = .ok (.found handle (.registered id)) → id ∈ ids) :
    Reported ids (recoverWithRequest answer) := by
  rcases answer with e | (⟨handle, report⟩ | candidates | exhaustive | _)
  · exact attemptFailed_reported e
  · refine ⟨?_, fun e => attemptFailed_reported _⟩
    split_ifs
    · refine applyReport_reported fun id heq => h handle id ?_
      cases heq
      rfl
    · trivial
  · exact submitted_reported _ _
  · exact submitted_reported _ _
  · exact submitted_reported _ _

theorem applyAcknowledgement_reported (request : RegistrationRequest)
    (answer : Except RegisterError SubmissionAcknowledgement) :
    Reported ids (applyAcknowledgement request answer) := by
  rcases answer with (e | e) | (handle | _ | answer)
  · exact ⟨trivial, fun _ => attemptFailed_reported _⟩
  · exact attemptFailed_reported e
  · exact submitted_reported handle none
  · exact ⟨trivial, fun _ => trivial⟩
  · exact attemptFailed_reported _

theorem drainRow_reported (read : RegistrySyncRow) :
    Reported ids (RegistryDrain.drainRow readRequest read) := by
  unfold RegistryDrain.drainRow recoverHandle
  split
  · split
    · trivial
    · split
      · trivial
      · exact submitted_reported _ _
  · split
    · exact rejected_reported _
    · split
      · trivial
      · exact rejected_reported _

/-- A registered row names a registration the registry reported. -/
structure Named (s : RegistryDrain.State) (ids : List String) : Prop where
  rows : ∀ id row, s.rows id = some row → row.status = .registered →
    ∃ name ∈ ids, row.registryId = some name
  task : ∀ id task, s.current = some (id, task) → Reported ids task

theorem setRow_named (h : Named s ids)
    (hrow : row'.status = .registered → ∃ name ∈ ids, row'.registryId = some name) :
    ∀ id' row, (s.setRow id row').rows id' = some row → row.status = .registered →
      ∃ name ∈ ids, row.registryId = some name := by
  intro id' row hrow' hstatus
  by_cases hid : id' = id
  · subst hid
    obtain rfl := Option.some.inj (setRow_rows_self.symm.trans hrow')
    exact hrow hstatus
  · rw [setRow_rows_ne hid] at hrow'
    exact h.rows id' row hrow' hstatus

theorem statement_named {w : RegistryDrain.Write} {ok : RegistryDrain.Task}
    {failed : String → RegistryDrain.Task} {now : Int} {jitter : ℕ} (h : Named s ids)
    (hrow : s.rows id = some row) (htask : Reported ids (.write w ok failed))
    (hstatement : w.statement now jitter row = some row') (hstatus : row'.status = .registered) :
    ∃ name ∈ ids, row'.registryId = some name := by
  cases w with
  | submitted registryId message =>
    obtain ⟨-, rfl⟩ := submitted_some hstatement
    cases hstatus
  | registered name =>
    obtain ⟨-, rfl⟩ := markRegistered_some hstatement
    exact ⟨name, htask.1, rfl⟩
  | rejected message =>
    obtain ⟨-, rfl⟩ := markRejected_some hstatement
    cases hstatus
  | attemptFailed message =>
    obtain ⟨-, rfl⟩ := markAttemptFailed_some hstatement
    exact h.rows id row hrow hstatus

theorem Named.mono (hsub : ids ⊆ ids') (h : Named s ids) : Named s ids' := by
  refine ⟨fun id row hrow hstatus => ?_, fun id task htask => (h.task id task htask).mono hsub⟩
  obtain ⟨name, hname, hheld⟩ := h.rows id row hrow hstatus
  exact ⟨name, hsub hname, hheld⟩

theorem step_named (h : Named s ids) (hnext : RegistryDrain.next readRequest s e = some u) :
    Named u (reportedBy e ++ ids) := by
  have hmore := h.mono (List.subset_append_right (reportedBy e) ids)
  cases next_moves hnext with
  | publish hread howner hnew =>
    refine ⟨setRow_named hmore fun hstatus => ?_, hmore.task⟩
    rcases queueRegistration_cases s.clock _ (s.rows _) with
      ⟨hpending, -⟩ | ⟨row, hrow, -, -, hsame⟩
    · cases hpending.symm.trans hstatus
    · rw [hsame] at hstatus ⊢
      exact hmore.rows _ row hrow hstatus
  | due => exact ⟨hmore.rows, fun _ _ htask => by simp at htask⟩
  | takeUp =>
    refine ⟨hmore.rows, ?_⟩
    rintro id task ⟨⟩
    exact drainRow_reported _
  | acknowledged =>
    refine ⟨hmore.rows, ?_⟩
    rintro id task ⟨⟩
    exact applyAcknowledgement_reported _ _
  | lookedUp =>
    refine ⟨hmore.rows, ?_⟩
    rintro id task ⟨⟩
    refine recoverWithRequest_reported ?_
    rintro handle name rfl
    exact List.mem_cons_self
  | reported =>
    refine ⟨hmore.rows, ?_⟩
    rintro id task ⟨⟩
    refine applyReport_reported ?_
    rintro name rfl
    exact List.mem_cons_self
  | notWritten hcurrent _ htask =>
    refine ⟨hmore.rows, ?_⟩
    rintro id task ⟨⟩
    exact (hmore.task _ _ hcurrent).after (Or.inr htask)
  | written hcurrent _ hrow hstatement htask =>
    have htask₀ := hmore.task _ _ hcurrent
    refine ⟨setRow_named hmore (statement_named hmore hrow htask₀ hstatement), ?_⟩
    rintro id task ⟨⟩
    exact htask₀.after htask
  | abandonWritten _ _ _ hstatement =>
    refine ⟨setRow_named hmore fun hstatus => ?_, hmore.task⟩
    obtain ⟨-, -, -, rfl⟩ := abandon_some hstatement
    cases hstatus
  | handleWritten _ _ _ _ hstatement =>
    refine ⟨setRow_named hmore fun hstatus => ?_, hmore.task⟩
    obtain ⟨hsubmitted, -, rfl⟩ := recordHandle_some hstatement
    cases hsubmitted.symm.trans hstatus
  | _ => exact ⟨hmore.rows, hmore.task⟩

end Registrations

section Turns

variable {Record : Type} {readRequest : Json → Except String RegistrationRequest}
  {readRecord : Json → Except String Record} {s u : State Record} {e : Event}
  {row later : RegistryTransferRow} {notices more : List RegistryTransferRow}

def Listed (notices : List RegistryTransferRow) (row : RegistryTransferRow) : Prop :=
  ∃ r ∈ notices, r.transferId = row.transferId ∧ r.passportId = row.passportId

theorem earlier_append (h : Listed notices row) :
    earlier (notices ++ more) row = earlier notices row := by
  obtain ⟨r, hr, hid, -⟩ := h
  induction notices with
  | nil => cases hr
  | cons n notices ih =>
    unfold earlier at ih ⊢
    rw [List.cons_append, List.takeWhile_cons, List.takeWhile_cons]
    by_cases hn : n.transferId = row.transferId
    · simp [hn]
    · rcases List.mem_cons.mp hr with rfl | hr
      · exact absurd hid hn
      · rw [ih hr]

theorem earlier_updateRow {id : ℕ} {f : RegistryTransferRow → RegistryTransferRow}
    (hf : ∀ r, (f r).transferId = r.transferId) :
    earlier (updateRow id f notices) row = updateRow id f (earlier notices row) := by
  unfold earlier updateRow
  rw [List.takeWhile_map]
  congr 2
  funext r
  simp only [Function.comp]
  split_ifs <;> simp [hf]

theorem mem_updateRow {id : ℕ} {f : RegistryTransferRow → RegistryTransferRow}
    {r : RegistryTransferRow} (h : r ∈ updateRow id f notices) :
    ∃ r₀ ∈ notices, (r₀.transferId = id ∧ r = f r₀) ∨ (r₀.transferId ≠ id ∧ r = r₀) := by
  obtain ⟨r₀, hr₀, heq⟩ := List.mem_map.mp h
  refine ⟨r₀, hr₀, ?_⟩
  split_ifs at heq with hid
  · exact Or.inl ⟨hid, heq.symm⟩
  · exact Or.inr ⟨hid, heq.symm⟩

theorem apply_ids {now : Int} {jitter : ℕ} (w : Write) (r : RegistryTransferRow) :
    (w.apply now jitter r).transferId = r.transferId ∧
      (w.apply now jitter r).passportId = r.passportId := by
  cases w <;> exact ⟨rfl, rfl⟩

theorem apply_pending {now : Int} {jitter : ℕ} {w : Write} {r : RegistryTransferRow}
    (h : (w.apply now jitter r).status = .pending) : w.closes = false ∧ r.status = .pending := by
  cases w with
  | notified registryId => cases h
  | rejected message => cases h
  | deferred message => exact ⟨rfl, h⟩
  | attemptFailed message => exact ⟨rfl, h⟩

/-- The pending notifications of earlier handovers come up before one that is still to come, or are
being worked on. -/
structure Invariant (s : State Record) : Prop where
  named : Named s.registry s.registrationIds
  unique : (s.notices.map (·.transferId)).Nodup
  listed : ∀ row ∈ s.rest, Listed s.notices row
  working : ∀ row task, s.current = some (row, task) → Listed s.notices row
  turn : ∀ before row after, s.rest = before ++ row :: after →
    ∀ r ∈ earlier s.notices row, r.passportId = row.passportId → r.status = .pending →
      r.transferId ∈ before.map (·.transferId) ∨
        s.atRest = false ∧ ∃ row' task, s.current = some (row', task) ∧
          row'.transferId = r.transferId

theorem initial_invariant (now : Int) : Invariant (initial now : State Record) := by
  refine ⟨⟨fun _ _ h => by simp [initial, RegistryDrain.initial] at h,
    fun _ _ h => by simp [initial, RegistryDrain.initial] at h⟩, by simp [initial],
    by simp [initial], by simp [initial], ?_⟩
  intro before row after h
  simp [initial] at h

theorem same_passport (hunique : (notices.map (·.transferId)).Nodup) {r : RegistryTransferRow}
    (hr : r ∈ notices) (hlisted : Listed notices row) (hid : row.transferId = r.transferId) :
    r.passportId = row.passportId := by
  obtain ⟨r', hr', hid', hpassport⟩ := hlisted
  rw [← hpassport, List.inj_on_of_nodup_map hunique hr hr' (hid.symm.trans hid'.symm)]

theorem drainRow_ne_done (registration : Option RegistrySyncRow) (row : RegistryTransferRow) :
    drainRow readRecord registration row ≠ .done := by
  unfold drainRow
  split
  · simp [Task.record]
  · split <;> simp [Task.record]

theorem afterNotify_ne_done (registryId : String) (answer : Except RegisterError TransferReport) :
    (afterNotify registryId answer : Task Record) ≠ .done := by
  rcases answer with (e | e) | (_ | _ | reason | _ | answer) <;> exact fun h => by cases h

theorem atRest_false {task : Task Record} (hcurrent : s.current = some (row, task))
    (htask : task ≠ .done) : s.atRest = false := by
  unfold State.atRest
  rw [hcurrent]
  cases task with
  | done => exact absurd rfl htask
  | notify record id => rfl
  | write w ok failed => rfl

theorem accept_preserves {transferId : ℕ} {passportId : PassportId} {payload : Json} {now : Int}
    (hi : Invariant s) : Invariant { s with
      notices := queueTransferNotice now transferId passportId payload s.notices } := by
  unfold queueTransferNotice
  split_ifs with hconflict
  · exact hi
  have hlisted {row : RegistryTransferRow} (h : Listed s.notices row)
    (more : List RegistryTransferRow) :
      Listed (s.notices ++ more) row := by
    obtain ⟨r, hr, hids⟩ := h
    exact ⟨r, List.mem_append_left _ hr, hids⟩
  refine ⟨hi.named, ?_, fun row hrow => hlisted (hi.listed row hrow) _,
    fun row task h => hlisted (hi.working row task h) _, ?_⟩
  · rw [List.map_append, List.map_cons, List.map_nil, List.nodup_append]
    refine ⟨hi.unique, List.nodup_singleton _, ?_⟩
    intro a ha b hb heq
    obtain ⟨r, hr, rfl⟩ := List.mem_map.mp ha
    obtain rfl := List.mem_singleton.mp hb
    exact hconflict (List.any_eq_true.mpr ⟨r, hr, decide_eq_true heq⟩)
  · intro before row after hrest r hr
    have hsplit : s.rest = before ++ row :: after := hrest
    have hrow : row ∈ s.rest := by simp [hsplit]
    rw [earlier_append (hi.listed row hrow)] at hr
    exact hi.turn before row after hrest r hr

theorem due_preserves {limit : ℕ} {batch : List RegistryTransferRow} (hi : Invariant s)
    (hbatch : IsDueBatch s.registry.clock limit s.notices batch)
    (hc : InTurn s (.due limit batch)) :
    Invariant ({ s with current := none, rest := batch } : State Record) := by
  refine ⟨hi.named, hi.unique, fun row hrow => ⟨row, (hbatch.2.1 row hrow).1, rfl, rfl⟩,
    fun _ _ h => by simp at h, ?_⟩
  intro before row after hrest r hr hpassport hpending
  obtain rfl : batch = before ++ row :: after := hrest
  have hlt : before.length < (before ++ row :: after).length := by simp
  have hget : (before ++ row :: after).get ⟨before.length, hlt⟩ = row := by simp
  have hturn := hc ⟨before.length, hlt⟩ r
  rw [hget, List.take_left] at hturn
  exact Or.inl (List.mem_map_of_mem (hturn hr hpassport hpending))

/-- When a row comes up, no earlier handover of its passport is pending. -/
theorem Invariant.first {rest : List RegistryTransferRow} (hi : Invariant s)
    (hatRest : s.atRest = true) (hrest : s.rest = row :: rest) :
    ∀ r ∈ earlier s.notices row, r.passportId = row.passportId → r.status ≠ .pending := by
  intro r hr hpassport hpending
  rcases hi.turn [] row rest hrest r hr hpassport hpending with hnone | ⟨hbusy, -⟩
  · simp at hnone
  · cases hatRest.symm.trans hbusy

theorem takeUp_preserves {rest : List RegistryTransferRow} {registration : Option RegistrySyncRow}
    (hi : Invariant s) (hatRest : s.atRest = true) (hrest : s.rest = row :: rest) :
    Invariant { s with current := some (row, drainRow readRecord registration row), rest } := by
  have hmem (r : RegistryTransferRow) (h : r ∈ rest) : r ∈ s.rest :=
    hrest ▸ List.mem_cons_of_mem _ h
  refine ⟨hi.named, hi.unique, fun r hr => hi.listed r (hmem r hr), ?_, ?_⟩
  · rintro r task ⟨⟩
    exact hi.listed row (hrest ▸ List.mem_cons_self)
  · intro before later after hsplit r hr hpassport hpending
    have hbefore : s.rest = (row :: before) ++ later :: after := by
      rw [hrest, show rest = before ++ later :: after from hsplit]
      rfl
    rcases hi.turn (row :: before) later after hbefore r hr hpassport hpending with hin | ⟨hbusy, -⟩
    · rcases List.mem_cons.mp hin with heq | hin
      · exact Or.inr ⟨atRest_false rfl (drainRow_ne_done _ _), row, _, rfl, heq.symm⟩
      · exact Or.inl hin
    · cases hatRest.symm.trans hbusy

theorem answered_preserves {record : Record} {registryId : String}
    {answer : Except RegisterError TransferReport} (hi : Invariant s)
    (hcurrent : s.current = some (row, .notify record registryId)) :
    Invariant ({ s with current := some (row, afterNotify registryId answer) } : State Record) := by
  refine ⟨hi.named, hi.unique, hi.listed, ?_, ?_⟩
  · rintro r task ⟨⟩
    exact hi.working row _ hcurrent
  · intro before later after hsplit r hr hpassport hpending
    rcases hi.turn before later after hsplit r hr hpassport hpending with
      hin | ⟨-, row', task, hcurrent', hid⟩
    · exact Or.inl hin
    · rw [hcurrent] at hcurrent'
      cases hcurrent'
      exact Or.inr ⟨atRest_false rfl (afterNotify_ne_done _ _), row, _, rfl, hid⟩

/-- The rows a statement may have been run on are those of before, up to what it writes. -/
theorem written_from {w : Write} {fate : Fate} {now : Int} {jitter : ℕ} {r : RegistryTransferRow}
    (hr : r ∈ earlier (if fate.runs then updateRow row.transferId (fun r => w.apply now jitter r)
      notices else notices) later) (hpending : r.status = .pending) :
    ∃ r₀ ∈ earlier notices later, r₀.transferId = r.transferId ∧ r₀.passportId = r.passportId ∧
      r₀.status = .pending ∧
        (r₀.transferId = row.transferId → fate.runs = false ∨ w.closes = false) := by
  split_ifs at hr with hruns
  · rw [earlier_updateRow fun r => (apply_ids w r).1] at hr
    obtain ⟨r₀, hr₀, ⟨hid, rfl⟩ | ⟨hid, rfl⟩⟩ := mem_updateRow hr
    · obtain ⟨hopen, hbefore⟩ := apply_pending hpending
      obtain ⟨htransfer, hpassport⟩ := @apply_ids now jitter w r₀
      exact ⟨r₀, hr₀, htransfer.symm, hpassport.symm, hbefore, fun _ => Or.inr hopen⟩
    · exact ⟨r, hr₀, rfl, rfl, hpending, fun h => absurd h hid⟩
  · exact ⟨r, hr, rfl, rfl, hpending, fun _ => Or.inl (by simpa using hruns)⟩

theorem written_preserves {w : Write} {ok failed : Task Record} {fate : Fate} {jitter : ℕ}
    (hi : Invariant s) (hcurrent : s.current = some (row, .write w ok failed))
    (hc : InTurn s (.written fate jitter)) : Invariant { s with
      current := some (row, Task.after ok failed fate)
      notices := if fate.runs then
          updateRow row.transferId (fun r => w.apply s.registry.clock jitter r) s.notices
        else s.notices } := by
  have hlisted {r : RegistryTransferRow} (h : Listed s.notices r) : Listed (if fate.runs then
      updateRow row.transferId (fun r => w.apply s.registry.clock jitter r) s.notices
      else s.notices) r := by
    split_ifs
    · obtain ⟨r₀, hr₀, hid, hpassport⟩ := h
      refine ⟨_, List.mem_map_of_mem hr₀, ?_⟩
      split_ifs
      · obtain ⟨htransfer, hsame⟩ := @apply_ids s.registry.clock jitter w r₀
        exact ⟨htransfer.trans hid, hsame.trans hpassport⟩
      · exact ⟨hid, hpassport⟩
    · exact h
  refine ⟨hi.named, ?_, fun r hr => hlisted (hi.listed r hr), ?_, ?_⟩
  · split_ifs
    · rw [updateRow, List.map_map]
      have hids : ((·.transferId) ∘ fun r => if r.transferId = row.transferId then
          w.apply s.registry.clock jitter r else r) = (·.transferId : RegistryTransferRow → ℕ) := by
        funext r
        simp only [Function.comp]
        split_ifs
        · exact (apply_ids w r).1
        · rfl
      rw [hids]
      exact hi.unique
    · exact hi.unique
  · rintro r task ⟨⟩
    exact hlisted (hi.working row _ hcurrent)
  · intro before later after hsplit r hr hpassport hpending
    have hlater : later ∈ s.rest := by
      rw [show s.rest = before ++ later :: after from hsplit]
      simp
    obtain ⟨r₀, hr₀, hid, hsame, hbefore, hleft⟩ := written_from hr hpending
    rcases hi.turn before later after hsplit r₀ hr₀ (hsame.trans hpassport) hbefore with
      hin | ⟨-, row', task, hcurrent', hid'⟩
    · exact Or.inl (hid ▸ hin)
    · rw [hcurrent] at hcurrent'
      cases hcurrent'
      -- the row was left pending, so nothing of its passport may still come up
      have hrow₀ : r₀ ∈ s.notices := (List.takeWhile_sublist _).subset hr₀
      have howner := same_passport hi.unique hrow₀ (hi.working row _ hcurrent) hid'
      simp only [InTurn, hcurrent] at hc
      have hother := hc (hleft hid'.symm) later hlater
      exact absurd (hpassport.symm.trans (hsame.symm.trans howner)) hother

theorem step_preserves_invariant (hi : Invariant s) (hc : InTurn s e)
    (h : next readRequest readRecord s e = some u) : Invariant u := by
  cases e with
  | registry e =>
    obtain ⟨registry, hnext, rfl⟩ := Option.map_eq_some_iff.mp h
    exact ⟨step_named hi.named hnext, hi.unique, hi.listed, hi.working, hi.turn⟩
  | accept transferId passportId payload =>
    cases h
    exact accept_preserves hi
  | due limit batch =>
    simp only [next, Option.ite_none_right_eq_some, Option.some.injEq] at h
    obtain ⟨⟨-, -, hbatch⟩, rfl⟩ := h
    exact due_preserves hi hbatch hc
  | takeUp readable =>
    simp only [next] at h
    split at h
    next row rest hatRest hrest =>
      cases h
      exact takeUp_preserves hi hatRest hrest
    · cases h
  | answered answer =>
    simp only [next] at h
    split at h
    next row record registryId hcurrent =>
      cases h
      exact answered_preserves hi hcurrent
    · cases h
  | written fate jitter =>
    simp only [next] at h
    split at h
    next row w ok failed hcurrent =>
      cases h
      exact written_preserves hi hcurrent hc
    · cases h

theorem drainRow_notify {registration : Option RegistrySyncRow} {record : Record}
    {registryId : String}
    (h : drainRow readRecord registration row = .notify record registryId) :
    ∃ r, registration = some r ∧ r.status = .registered ∧ r.registryId = some registryId := by
  unfold drainRow at h
  split at h
  · cases h
  · split at h
    · cases h
    next id hid =>
      cases h
      obtain ⟨hbind, -⟩ := Option.filter_eq_some_iff.mp hid
      obtain ⟨r, hr, hid⟩ := Option.bind_eq_some_iff.mp hbind
      obtain ⟨hr, hstatus⟩ := Option.filter_eq_some_iff.mp hr
      exact ⟨r, hr, of_decide_eq_true hstatus, hid⟩

theorem takeUp_sentInOrder {readable : Bool} {record : Record} {registryId : String}
    (hi : Invariant s) (h : next readRequest readRecord s (.takeUp readable) = some u)
    (hsent : u.current = some (row, .notify record registryId)) :
    SentInOrder s row registryId := by
  simp only [next] at h
  split at h
  next row₀ rest hatRest hrest =>
    cases h
    obtain ⟨rfl, hnotify⟩ := Prod.mk.inj (Option.some.inj hsent)
    obtain ⟨registration, hread, hstatus, hid⟩ := drainRow_notify hnotify
    have hrow : s.registry.rows row₀.passportId = some registration := by
      cases readable with
      | false => cases hread
      | true => exact hread
    obtain ⟨name, hname, hheld⟩ := hi.named.rows _ registration hrow hstatus
    obtain rfl := Option.some.inj (hid.symm.trans hheld)
    exact ⟨⟨registration, hrow, hstatus, hid, hname⟩, hi.first hatRest hrest⟩
  · cases h

/-- In a run whose passes take the notifications of each passport in turn, every notification is
sent with the identifier of a registration and after those of earlier handovers. -/
theorem notices_sent_in_order (readRequest : Json → Except String RegistrationRequest)
    (readRecord : Json → Except String Record) (now : Int) (es : List Event)
    (h : Along (next readRequest readRecord) InTurn (initial now) es) :
    ∀ before readable after s u row record registryId, es = before ++ .takeUp readable :: after →
      run (next readRequest readRecord) (initial now) before = some s →
        next readRequest readRecord s (.takeUp readable) = some u →
          u.current = some (row, .notify record registryId) → SentInOrder s row registryId := by
  rintro before readable after s u row record registryId rfl hrun hnext hsent
  have hi : Invariant s := run_invariant (fun _ _ _ hi hc h => step_preserves_invariant hi hc h)
    (initial_invariant now) (along_append.mp h).1 hrun
  exact takeUp_sentInOrder hi hnext hsent

end Turns

section Samples

def sampleRequest : RegistrationRequest := ⟨1, 7, .null⟩

def samplePayload : Json := .obj [("passportId", .num 1), ("requestId", .num 7)]

def sampleRead (payload : Json) : Except String RegistrationRequest :=
  if payload = samplePayload then .ok sampleRequest else .error "missing field `passportId`"

def readOperator (payload : Json) : Except String String :=
  match payload.asStr with
  | some name => .ok name
  | none => .error "expected a string"

def registered : List Event :=
  [.registry (.publish 1 samplePayload), .registry (.due [1]), .registry .takeUp,
    .registry .received, .registry (.acknowledged (.ok (.accepted "CORR-1"))),
    .registry (.written .heard 1000), .registry (.tick 2000000000), .registry (.due [1]),
    .registry .takeUp, .registry (.reported (.ok (.registered "REG-1"))),
    .registry (.written .heard 1000)]

def saleNotice : RegistryTransferRow :=
  ⟨1, 1, .pending, .str "Importer", none, none, 0, 2000000000⟩

def resaleNotice : RegistryTransferRow :=
  ⟨2, 1, .pending, .str "Refurbisher", none, none, 0, 2000000000⟩

/-- A registered passport is sold twice, and the first notification is sent. -/
def soldTwice : List Event :=
  registered ++ [.accept 1 1 (.str "Importer"), .accept 2 1 (.str "Refurbisher"),
    .due 10 [saleNotice, resaleNotice], .takeUp true]

def firstTaken : List Event := soldTwice ++ [.answered (.ok .accepted), .written .heard 1000]

def firstFailed : List Event :=
  soldTwice ++ [.answered (.error (.other "connection reset")), .written .heard 1000]

theorem second_notice_after_the_first : ∃ s u,
    run (next sampleRead readOperator) (initial 0) firstTaken = some s ∧
      next sampleRead readOperator s (.takeUp true) = some u ∧
        u.current = some (resaleNotice, .notify "Refurbisher" "REG-1") ∧
          SentInOrder s resaleNotice "REG-1" := by
  have hturn : Along (next sampleRead readOperator) InTurn (initial 0)
      (firstTaken ++ [.takeUp true]) := by
    decide +kernel
  have hsent : ((run (next sampleRead readOperator) (initial 0) firstTaken).any fun s =>
      (next sampleRead readOperator s (.takeUp true)).any fun u =>
        u.current = some (resaleNotice, .notify "Refurbisher" "REG-1")) = true := by
    decide +kernel
  obtain ⟨s, hrun, hs⟩ := (Option.any_eq_true _ _).mp hsent
  obtain ⟨u, hnext, hu⟩ := (Option.any_eq_true _ _).mp hs
  have hcurrent := of_decide_eq_true hu
  exact ⟨s, u, hrun, hnext, hcurrent, notices_sent_in_order sampleRead readOperator 0
    (firstTaken ++ [.takeUp true]) hturn firstTaken true [] s u resaleNotice "Refurbisher" "REG-1"
    rfl hrun hnext hcurrent⟩

/-- The first notification backs off, and the second is sent while it is pending. -/
theorem second_notice_overtakes_the_first :
    ¬∀ (readRequest : Json → Except String RegistrationRequest)
      (readRecord : Json → Except String String) (now : Int) (es before : List Event)
      (readable : Bool) (after : List Event) (s u : State String) (row : RegistryTransferRow)
      (record registryId : String), es = before ++ .takeUp readable :: after →
        run (next readRequest readRecord) (initial now) before = some s →
          next readRequest readRecord s (.takeUp readable) = some u →
            u.current = some (row, .notify record registryId) → SentInOrder s row registryId := by
  intro h
  have hovertaken : ((run (next sampleRead readOperator) (initial 0) firstFailed).any fun s =>
      ((earlier s.notices resaleNotice).any fun r => r.passportId = 1 ∧ r.status = .pending) &&
        (next sampleRead readOperator s (.takeUp true)).any fun u =>
          u.current = some (resaleNotice, .notify "Refurbisher" "REG-1")) = true := by
    decide +kernel
  obtain ⟨s, hrun, hs⟩ := (Option.any_eq_true _ _).mp hovertaken
  obtain ⟨hearlier, hs⟩ := Bool.and_eq_true_iff.mp hs
  obtain ⟨u, hnext, hu⟩ := (Option.any_eq_true _ _).mp hs
  obtain ⟨r, hr, hpending⟩ := List.any_eq_true.mp hearlier
  obtain ⟨hpassport, hpending⟩ := of_decide_eq_true hpending
  have hsent := h sampleRead readOperator 0 (firstFailed ++ [.takeUp true]) firstFailed true [] s u
    resaleNotice "Refurbisher" "REG-1" rfl hrun hnext (of_decide_eq_true hu)
  exact hsent.order r hr hpassport hpending

end Samples

end TransferNotices
