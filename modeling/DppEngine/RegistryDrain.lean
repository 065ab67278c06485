import DppEngine.RegistryRows
import DppEngine.TransitionSystems
import Mathlib.Logic.Function.Basic

/-! The registry drain, and the requests that end or mend a registration by hand.

There is one drain and any number of requests. Each read, each call to the registry and each
statement is a step of its own, so anything may happen in between, and what the registry answers
is part of the event. A register call is received by the registry, if it is at all, before it
returns, whatever answer it returns with. -/
namespace RegistryDrain

open JsonValues PassportModel RegistryRows TransitionSystems FallibleSteps

/-- A registration as it is sent. Its own key is minted when it is built. -/
structure RegistrationRequest where
  passportId : PassportId
  requestId : ℕ
  body : Json
  deriving DecidableEq, Repr

inductive RegisterError where
  /-- The adapter's own checks refused the payload before sending it. -/
  | validation (reason : String)
  | other (reason : String)
  deriving DecidableEq, Repr

inductive SubmissionAcknowledgement where
  | accepted (correlationId : String)
  | alreadyHeld
  | unrecognised (answer : String)
  deriving DecidableEq, Repr

inductive SubmissionReport where
  | registered (registrationId : String)
  | refused (reason : String)
  | unrecognised (state : String)
  | processing
  deriving DecidableEq, Repr

def SubmissionReport.isTerminal : SubmissionReport → Bool
  | .registered _ | .refused _ => true
  | _ => false

inductive SubmissionLookup where
  | found (correlationId : String) (report : SubmissionReport)
  | ambiguous (candidates : List String)
  | notFound (exhaustive : Bool)
  | unsupported
  deriving DecidableEq, Repr

section Drain

inductive Write where
  | submitted (registryId : String) (message : Option String)
  | registered (registryId : String)
  | rejected (message : String)
  | attemptFailed (message : String)
  deriving DecidableEq, Repr

def Write.statement (now : Int) (jitter : ℕ) (row : RegistrySyncRow) :
    Write → Option RegistrySyncRow
  | .submitted registryId message => RegistryRows.submitted now jitter row registryId message
  | .registered registryId => markRegistered row registryId
  | .rejected message => markRejected row message
  | .attemptFailed message => markAttemptFailed now jitter row message

/-- What is left to do for a row: a call that is out, or a statement and what follows it, with
what the statement's error says. -/
inductive Task where
  | done
  | register (request : RegistrationRequest)
  | findSubmission (request : RegistrationRequest)
  | checkSubmission (correlationId : String)
  | write (w : Write) (ok : Task) (failed : String → Task)

/-- A statement whose outcome is not looked at. -/
def Task.record (w : Write) : Task := .write w .done fun _ => .done

def reconcileByHand : String :=
  "Once the right correlation identifier is known, record it with `odal registry handle" ++
    " <passport-id> <correlation-id>` (POST /vault/api/v1/dpp/\x7bdppId\x7d/registry/handle)."

def applyReport : Except String SubmissionReport → Task
  | .ok (.registered registrationId) => .record (.registered registrationId)
  | .ok (.refused reason) => .record (.rejected reason)
  | .ok (.unrecognised state) => .record (.submitted "" (some
      ("the registry reported a submission state this node has no name for: " ++ state)))
  | .ok .processing => .record (.submitted "" none)
  | .error e => .record (.attemptFailed e)

def recoverWithRequest : Except String SubmissionLookup → Task
  | .ok (.found correlationId report) =>
    .write (.submitted correlationId none)
      (if report.isTerminal then applyReport (.ok report) else .done)
      fun e => .record (.attemptFailed
        ("could not record correlation identifier " ++ correlationId ++ ": " ++ e))
  | .ok (.ambiguous candidates) => .record (.submitted "" (some
      ("more than one registry submission reports this passport's unique product identifier, so" ++
        " the correlation identifier was not chosen. Candidates: " ++
        String.intercalate ", " candidates ++ ". " ++ reconcileByHand)))
  | .ok (.notFound exhaustive) =>
    let read := if exhaustive then "every task the registry listed was read"
      else "only part of the registry's task list was read, or a task is still being checked, so" ++
        " absence proves nothing"
    .record (.submitted "" (some
      ("the registry holds this submission and its correlation identifier was not found among" ++
        " its tasks (" ++ read ++ "). Looking again later. " ++ reconcileByHand)))
  | .ok .unsupported => .record (.submitted "" (some
      ("this registry adapter cannot look a submission up without its correlation identifier. " ++
        reconcileByHand)))
  | .error e => .record (.attemptFailed e)

def applyAcknowledgement (request : RegistrationRequest) :
    Except RegisterError SubmissionAcknowledgement → Task
  | .ok (.accepted correlationId) => .record (.submitted correlationId none)
  | .ok .alreadyHeld =>
    .write (.submitted "" none) (.findSubmission request) fun _ => .findSubmission request
  | .ok (.unrecognised answer) =>
    .record (.attemptFailed ("unrecognised acknowledgement: " ++ answer))
  | .error (.validation e) =>
    .write (.rejected ("refused before sending: " ++ e)) .done
      fun _ => .record (.attemptFailed ("refused before sending: " ++ e))
  | .error (.other e) => .record (.attemptFailed e)

-- `serde_json::from_value`, at the type of a registration.
variable (readRequest : Json → Except String RegistrationRequest)

def requestOf (row : RegistrySyncRow) : Option RegistrationRequest :=
  row.payload.bind fun payload => (readRequest payload).toOption

def recoverHandle (row : RegistrySyncRow) : Task :=
  match requestOf readRequest row with
  | some request => .findSubmission request
  | none => .record (.submitted "" (some
      ("the registry holds this submission under a correlation identifier this node does not" ++
        " have, and the row's payload cannot say what was submitted, so it cannot be looked for. " ++
        reconcileByHand)))

def drainRow (row : RegistrySyncRow) : Task :=
  if row.status = .submitted then
    match correlationId row with
    | some correlationId => .checkSubmission correlationId
    | none => recoverHandle readRequest row
  else
    match row.payload with
    | none => .record (.rejected "missing registration payload")
    | some payload =>
      match readRequest payload with
      | .ok request => .register request
      | .error e => .record (.rejected ("corrupt payload: " ++ e))

end Drain

section Requests

inductive AbandonError where
  | noRegistration
  | notAbandonable (status : RegistrySyncStatus)
  | dueForAnAttempt
  | cannotSayWhatWasSubmitted
  | registryHoldsIt (lookup : SubmissionLookup)
  | notShownAbsent (lookup : SubmissionLookup)
  | registry (e : String)
  deriving DecidableEq, Repr

/-- `none` is a row that is abandoned already. -/
def abandonState (now : Int) (row : RegistrySyncRow) : Except AbandonError (Option Unit) :=
  match row.status with
  | .abandoned => .ok none
  | .pending =>
    if row.attempts < 1 ∨ row.nextAttemptAt ≤ now then .error .dueForAnAttempt else .ok (some ())
  | other => .error (.notAbandonable other)

def shownAbsent : Except String SubmissionLookup → Except AbandonError Unit
  | .ok (.notFound true) => .ok ()
  | .ok (.found id report) => .error (.registryHoldsIt (.found id report))
  | .ok (.ambiguous candidates) => .error (.registryHoldsIt (.ambiguous candidates))
  | .ok other => .error (.notShownAbsent other)
  | .error e => .error (.registry e)

inductive RecordHandleError where
  | noRegistration
  | notAwaitingAHandle (status : RegistrySyncStatus)
  | holdsAnotherHandle
  | cannotSayWhatWasSubmitted
  deriving DecidableEq, Repr

/-- `none` is a row that holds this handle already. -/
def handleState (handle : String) (row : RegistrySyncRow) :
    Except RecordHandleError (Option Unit) :=
  if row.status ≠ .submitted then .error (.notAwaitingAHandle row.status)
  else match correlationId row with
    | some held => if held = handle then .ok none else .error .holdsAnotherHandle
    | none => .ok (some ())

variable (readRequest : Json → Except String RegistrationRequest)

def beginAbandon (now : Int) : Option RegistrySyncRow →
    Except AbandonError (Option (RegistrySyncRow × RegistrationRequest))
  | none => .error .noRegistration
  | some row => do
    match ← abandonState now row with
    | none => return none
    | some () =>
      match requestOf readRequest row with
      | some request => return some (row, request)
      | none => .error .cannotSayWhatWasSubmitted

def beginRecordHandle (handle : String) : Option RegistrySyncRow →
    Except RecordHandleError (Option RegistrationRequest)
  | none => .error .noRegistration
  | some row => do
    match ← handleState handle row with
    | none => return none
    | some () =>
      match requestOf readRequest row with
      | some request => return some request
      | none => .error .cannotSayWhatWasSubmitted

end Requests

section Runs

structure Abandoning where
  id : PassportId
  row : RegistrySyncRow
  request : RegistrationRequest
  /-- The registry has been shown to hold nothing for it. -/
  absent : Bool
  deriving DecidableEq, Repr

structure Recording where
  id : PassportId
  request : RegistrationRequest
  handle : String
  confirmed : Bool
  deriving DecidableEq, Repr

/-- What becomes of a statement: it runs and is heard of, it does not run, or it runs and its
answer is lost. -/
inductive Fate where
  | heard
  | lost (error : String)
  | unheard (error : String)
  deriving DecidableEq, Repr

def Fate.runs : Fate → Bool
  | .lost _ => false
  | _ => true

structure State where
  clock : Int
  rows : PassportId → Option RegistrySyncRow
  /-- The registrations built so far. -/
  minted : List RegistrationRequest
  /-- The submissions the registry holds. -/
  held : List RegistrationRequest
  /-- The handles the registry gave or confirmed, with the registration each was given for. -/
  given : List (RegistrationRequest × String)
  current : Option (PassportId × Task)
  rest : List (PassportId × RegistrySyncRow)
  abandoning : List Abandoning
  recording : List Recording

inductive Event where
  | tick (time : Int)
  | publish (id : PassportId) (payload : Json)
  /-- A pass reads due rows. The limit and the order only choose among them. -/
  | due (ids : List PassportId)
  | takeUp
  /-- The registry receives the submission that is being made. -/
  | received
  | acknowledged (answer : Except RegisterError SubmissionAcknowledgement)
  | lookedUp (answer : Except String SubmissionLookup)
  | reported (answer : Except String SubmissionReport)
  | written (fate : Fate) (jitter : ℕ)
  /-- By the node's own clock. -/
  | abandonRead (id : PassportId) (now : Int)
  | abandonLookedUp (i : ℕ) (answer : Except String SubmissionLookup)
  | abandonWritten (i : ℕ) (user reason : String) (fate : Fate)
  | handleRead (id : PassportId) (handle : String)
  | handleConfirmed (i : ℕ) (confirmed : Bool)
  | handleWritten (i : ℕ) (fate : Fate)

def State.setRow (s : State) (id : PassportId) (row : RegistrySyncRow) : State :=
  { s with rows := Function.update s.rows id (some row) }

def State.runOn (s : State) (id : PassportId)
    (statement : RegistrySyncRow → Option RegistrySyncRow) (fate : Fate) :
    State × Option RegistrySyncRow :=
  match if fate.runs then (s.rows id).bind statement else none with
  | some row => (s.setRow id row, some row)
  | none => (s, none)

def State.atRest (s : State) : Bool :=
  match s.current with
  | none | some (_, .done) => true
  | _ => false

def Task.after (id : PassportId) (ok : Task) (failed : String → Task)
    (written : Option RegistrySyncRow) :
    Fate → Task
  | .heard => if written.isSome then ok
      else failed ("registry_sync row for passport " ++ PassportId.text id)
  | .lost e | .unheard e => failed e

variable (readRequest : Json → Except String RegistrationRequest)

def next (s : State) : Event → Option State
  | .tick time => if s.clock ≤ time then some { s with clock := time } else none
  | .publish id payload =>
    match readRequest payload with
    | .error _ => none
    | .ok request =>
      -- A publish builds the registration of its own passport, under a key of its own.
      if request.passportId = id ∧ request ∉ s.minted then
        some { s.setRow id (queueRegistration s.clock payload (s.rows id)) with
          minted := request :: s.minted }
      else none
  | .due ids =>
    if s.atRest ∧ s.rest = [] ∧ ids.Nodup ∧ ∀ id ∈ ids, (s.rows id).any (isDue s.clock) then
      some { s with
        current := none
        rest := ids.filterMap fun id => (s.rows id).map fun row => (id, row) }
    else none
  | .takeUp =>
    match s.atRest, s.rest with
    | true, (id, row) :: rest =>
      some { s with current := some (id, drainRow readRequest row), rest }
    | _, _ => none
  | .received =>
    match s.current with
    | some (_, .register request) => some { s with held := request :: s.held }
    | _ => none
  | .acknowledged answer =>
    match s.current with
    | some (id, .register request) => some { s with
        current := some (id, applyAcknowledgement request answer)
        given := match answer with
          | .ok (.accepted handle) => (request, handle) :: s.given
          | _ => s.given }
    | _ => none
  | .lookedUp answer =>
    match s.current with
    | some (id, .findSubmission request) => some { s with
        current := some (id, recoverWithRequest answer)
        given := match answer with
          | .ok (.found handle _) => (request, handle) :: s.given
          | _ => s.given }
    | _ => none
  | .reported answer =>
    match s.current with
    | some (id, .checkSubmission _) => some { s with current := some (id, applyReport answer) }
    | _ => none
  | .written fate jitter =>
    match s.current with
    | some (id, .write w ok failed) =>
      let (u, written) := s.runOn id (fun row => w.statement s.clock jitter row) fate
      some { u with current := some (id, Task.after id ok failed written fate) }
    | _ => none
  | .abandonRead id now =>
    match beginAbandon readRequest now (s.rows id) with
    | .ok (some (row, request)) =>
      some { s with abandoning := s.abandoning ++ [⟨id, row, request, false⟩] }
    | _ => some s
  | .abandonLookedUp i answer =>
    match s.abandoning[i]? with
    | some ⟨id, row, request, false⟩ =>
      match shownAbsent answer with
      | .ok () =>
        -- The registry's answer is true when it is given.
        if request ∉ s.held then
          some { s with abandoning := s.abandoning.set i ⟨id, row, request, true⟩ }
        else none
      | .error _ => some { s with abandoning := s.abandoning.eraseIdx i }
    | _ => none
  | .abandonWritten i user reason fate =>
    match s.abandoning[i]? with
    | some ⟨id, _, _, true⟩ =>
      let message := "abandoned by " ++ user ++ ": " ++ reason
      some { (s.runOn id (fun row => abandon s.clock row message) fate).1 with
        abandoning := s.abandoning.eraseIdx i }
    | _ => none
  | .handleRead id handle =>
    match beginRecordHandle readRequest handle (s.rows id) with
    | .ok (some request) =>
      some { s with recording := s.recording ++ [⟨id, request, handle, false⟩] }
    | _ => some s
  | .handleConfirmed i confirmed =>
    match s.recording[i]? with
    | some ⟨id, request, handle, false⟩ =>
      if confirmed then
        some { s with
          recording := s.recording.set i ⟨id, request, handle, true⟩
          given := (request, handle) :: s.given }
      else some { s with recording := s.recording.eraseIdx i }
    | _ => none
  | .handleWritten i fate =>
    match s.recording[i]? with
    | some ⟨id, _, handle, true⟩ =>
      some { (s.runOn id (fun row => recordHandle s.clock row handle) fate).1 with
        recording := s.recording.eraseIdx i }
    | _ => none

def initial (now : Int) : State := ⟨now, fun _ => none, [], [], [], none, [], [], []⟩

end Runs

section Steps

variable {readRequest : Json → Except String RegistrationRequest} {s u : State} {e : Event}
  {id : PassportId} {fate : Fate} {statement : RegistrySyncRow → Option RegistrySyncRow}
  {row : RegistrySyncRow} {request : RegistrationRequest} {handle : String} {now : Int}

/-- A statement matches its row or changes nothing. -/
theorem runOn_cases (s : State) (id : PassportId)
    (statement : RegistrySyncRow → Option RegistrySyncRow) (fate : Fate) :
    (s.runOn id statement fate = (s, none) ∧
      (fate.runs = true → (s.rows id).bind statement = none)) ∨
    ∃ row row', fate.runs = true ∧ s.rows id = some row ∧ statement row = some row' ∧
      s.runOn id statement fate = (s.setRow id row', some row') := by
  unfold State.runOn
  cases hruns : fate.runs with
  | false => simp
  | true =>
    cases hrow : s.rows id with
    | none => simp
    | some row =>
      cases hstatement : statement row with
      | none => simp [hstatement]
      | some row' => exact Or.inr ⟨row, row', rfl, rfl, hstatement, by simp [hstatement]⟩

/-- What a step can do. A statement of the drain may fail after it ran. -/
inductive Moves (readRequest : Json → Except String RegistrationRequest) (s : State) :
    Event → State → Prop where
  | tick {time : Int} (hforward : s.clock ≤ time) :
    Moves readRequest s (.tick time) { s with clock := time }
  | publish {id : PassportId} {payload : Json} {request : RegistrationRequest}
    (hread : readRequest payload = .ok request) (howner : request.passportId = id)
    (hnew : request ∉ s.minted) :
    Moves readRequest s (.publish id payload)
      { s.setRow id (queueRegistration s.clock payload (s.rows id)) with
        minted := request :: s.minted }
  | due {ids : List PassportId} (hnodup : ids.Nodup)
    (hdue : ∀ id ∈ ids, ∃ row, s.rows id = some row ∧ isDue s.clock row = true) :
    Moves readRequest s (.due ids) { s with
      current := none
      rest := ids.filterMap fun id => (s.rows id).map fun row => (id, row) }
  | takeUp {id : PassportId} {row : RegistrySyncRow} {rest : List (PassportId × RegistrySyncRow)}
    (hrest : s.rest = (id, row) :: rest) :
    Moves readRequest s .takeUp { s with current := some (id, drainRow readRequest row), rest }
  | received {id : PassportId} {request : RegistrationRequest}
    (hcurrent : s.current = some (id, .register request)) :
    Moves readRequest s .received { s with held := request :: s.held }
  | acknowledged {id : PassportId} {request : RegistrationRequest}
    {answer : Except RegisterError SubmissionAcknowledgement}
    {given : List (RegistrationRequest × String)}
    (hcurrent : s.current = some (id, .register request)) (hkept : s.given ⊆ given)
    (hgiven : ∀ handle, answer = .ok (.accepted handle) → (request, handle) ∈ given) :
    Moves readRequest s (.acknowledged answer)
      { s with current := some (id, applyAcknowledgement request answer), given }
  | lookedUp {id : PassportId} {request : RegistrationRequest}
    {answer : Except String SubmissionLookup} {given : List (RegistrationRequest × String)}
    (hcurrent : s.current = some (id, .findSubmission request)) (hkept : s.given ⊆ given)
    (hgiven : ∀ handle report, answer = .ok (.found handle report) → (request, handle) ∈ given) :
    Moves readRequest s (.lookedUp answer)
      { s with current := some (id, recoverWithRequest answer), given }
  | reported {id : PassportId} {handle : String} {answer : Except String SubmissionReport}
    (hcurrent : s.current = some (id, .checkSubmission handle)) :
    Moves readRequest s (.reported answer) { s with current := some (id, applyReport answer) }
  | notWritten {id : PassportId} {w : Write} {ok task : Task} {failed : String → Task} {fate : Fate}
    {jitter : ℕ} (hcurrent : s.current = some (id, .write w ok failed))
    (hnone : fate.runs = true → (s.rows id).bind (fun row => w.statement s.clock jitter row) = none)
    (htask : ∃ e, task = failed e) :
    Moves readRequest s (.written fate jitter) { s with current := some (id, task) }
  | written {id : PassportId} {w : Write} {ok task : Task} {failed : String → Task} {fate : Fate}
    {jitter : ℕ} {row row' : RegistrySyncRow}
    (hcurrent : s.current = some (id, .write w ok failed)) (hruns : fate.runs = true)
    (hrow : s.rows id = some row) (hstatement : w.statement s.clock jitter row = some row')
    (htask : task = ok ∨ ∃ e, task = failed e) :
    Moves readRequest s (.written fate jitter) { s.setRow id row' with current := some (id, task) }
  | abandonRefused {id : PassportId} {now : Int} : Moves readRequest s (.abandonRead id now) s
  | abandonRead {id : PassportId} {now : Int} {row : RegistrySyncRow}
    {request : RegistrationRequest} (hrow : s.rows id = some row) (hstatus : row.status = .pending)
    (hrequest : requestOf readRequest row = some request) :
    Moves readRequest s (.abandonRead id now)
      { s with abandoning := s.abandoning ++ [⟨id, row, request, false⟩] }
  | abandonAbsent {i : ℕ} {answer : Except String SubmissionLookup} {r : Abandoning}
    (hr : s.abandoning[i]? = some r) (habsent : r.request ∉ s.held) :
    Moves readRequest s (.abandonLookedUp i answer)
      { s with abandoning := s.abandoning.set i { r with absent := true } }
  | abandonEnded {i : ℕ} {answer : Except String SubmissionLookup} :
    Moves readRequest s (.abandonLookedUp i answer)
      { s with abandoning := s.abandoning.eraseIdx i }
  | abandonLost {i : ℕ} {user reason : String} {fate : Fate} :
    Moves readRequest s (.abandonWritten i user reason fate)
      { s with abandoning := s.abandoning.eraseIdx i }
  | abandonWritten {i : ℕ} {user reason : String} {fate : Fate} {r : Abandoning}
    {row row' : RegistrySyncRow} (hr : s.abandoning[i]? = some r) (habsent : r.absent = true)
    (hrow : s.rows r.id = some row)
    (hstatement : abandon s.clock row ("abandoned by " ++ user ++ ": " ++ reason) = some row') :
    Moves readRequest s (.abandonWritten i user reason fate)
      { s.setRow r.id row' with abandoning := s.abandoning.eraseIdx i }
  | handleRefused {id : PassportId} {handle : String} :
    Moves readRequest s (.handleRead id handle) s
  | handleRead {id : PassportId} {handle : String} {row : RegistrySyncRow}
    {request : RegistrationRequest} (hrow : s.rows id = some row)
    (hrequest : requestOf readRequest row = some request) :
    Moves readRequest s (.handleRead id handle)
      { s with recording := s.recording ++ [⟨id, request, handle, false⟩] }
  | handleConfirmed {i : ℕ} {confirmed : Bool} {r : Recording} (hr : s.recording[i]? = some r) :
    Moves readRequest s (.handleConfirmed i confirmed) { s with
      recording := s.recording.set i { r with confirmed := true }
      given := (r.request, r.handle) :: s.given }
  | handleEnded {i : ℕ} {confirmed : Bool} :
    Moves readRequest s (.handleConfirmed i confirmed)
      { s with recording := s.recording.eraseIdx i }
  | handleLost {i : ℕ} {fate : Fate} {r : Recording} (hr : s.recording[i]? = some r)
    (hnone : fate.runs = true →
      (s.rows r.id).bind (fun row => recordHandle s.clock row r.handle) = none) :
    Moves readRequest s (.handleWritten i fate) { s with recording := s.recording.eraseIdx i }
  | handleWritten {i : ℕ} {fate : Fate} {r : Recording} {row row' : RegistrySyncRow}
    (hr : s.recording[i]? = some r) (hconfirmed : r.confirmed = true) (hruns : fate.runs = true)
    (hrow : s.rows r.id = some row) (hstatement : recordHandle s.clock row r.handle = some row') :
    Moves readRequest s (.handleWritten i fate)
      { s.setRow r.id row' with recording := s.recording.eraseIdx i }

theorem beginAbandon_some {stored : Option RegistrySyncRow}
    (h : beginAbandon readRequest now stored = .ok (some (row, request))) :
    stored = some row ∧ row.status = .pending ∧ requestOf readRequest row = some request := by
  cases stored with
  | none => cases h
  | some stored =>
    obtain ⟨state, hstate, h⟩ := bind_ok h
    cases state with
    | none => cases h
    | some opened =>
      have hpending : stored.status = .pending := by
        unfold abandonState at hstate
        split at hstate <;> simp_all
      cases hrequest : requestOf readRequest stored with
      | none => simp [hrequest] at h
      | some r =>
        simp only [hrequest] at h
        cases h
        exact ⟨rfl, hpending, hrequest⟩

theorem beginRecordHandle_some {stored : Option RegistrySyncRow}
    (h : beginRecordHandle readRequest handle stored = .ok (some request)) :
    ∃ row, stored = some row ∧ requestOf readRequest row = some request := by
  cases stored with
  | none => cases h
  | some row =>
    obtain ⟨state, -, h⟩ := bind_ok h
    cases state with
    | none => cases h
    | some opened =>
      cases hrequest : requestOf readRequest row with
      | none => simp [hrequest] at h
      | some r =>
        simp only [hrequest] at h
        cases h
        exact ⟨row, rfl, hrequest⟩

theorem next_moves (h : next readRequest s e = some u) : Moves readRequest s e u := by
  cases e with
  | tick time =>
    simp only [next, Option.ite_none_right_eq_some, Option.some.injEq] at h
    obtain ⟨hforward, rfl⟩ := h
    exact .tick hforward
  | publish id payload =>
    simp only [next] at h
    split at h
    · cases h
    next request hread =>
      simp only [Option.ite_none_right_eq_some, Option.some.injEq] at h
      obtain ⟨⟨howner, hnew⟩, rfl⟩ := h
      exact .publish hread howner hnew
  | due ids =>
    simp only [next, Option.ite_none_right_eq_some, Option.some.injEq] at h
    obtain ⟨⟨-, -, hnodup, hdue⟩, rfl⟩ := h
    exact .due hnodup fun id hid => (Option.any_eq_true _ _).mp (hdue id hid)
  | takeUp =>
    simp only [next] at h
    split at h
    next id row rest _ hrest =>
      cases h
      exact .takeUp hrest
    · cases h
  | received =>
    simp only [next] at h
    split at h
    next id request hcurrent =>
      cases h
      exact .received hcurrent
    · cases h
  | acknowledged answer =>
    simp only [next] at h
    split at h
    next id request hcurrent =>
      cases h
      refine .acknowledged hcurrent ?_ ?_
      · split <;> simp
      · rintro handle rfl
        simp
    · cases h
  | lookedUp answer =>
    simp only [next] at h
    split at h
    next id request hcurrent =>
      cases h
      refine .lookedUp hcurrent ?_ ?_
      · split <;> simp
      · rintro handle report rfl
        simp
    · cases h
  | reported answer =>
    simp only [next] at h
    split at h
    next id handle hcurrent =>
      cases h
      exact .reported hcurrent
    · cases h
  | written fate jitter =>
    simp only [next] at h
    split at h
    next id w ok failed hcurrent =>
      rcases runOn_cases s id (fun row => w.statement s.clock jitter row) fate with
        ⟨hrun, hnone⟩ | ⟨row, row', hruns, hrow, hstatement, hrun⟩
      · rw [hrun] at h
        cases h
        refine .notWritten hcurrent hnone ?_
        cases fate <;> exact ⟨_, rfl⟩
      · rw [hrun] at h
        cases h
        refine .written hcurrent hruns hrow hstatement ?_
        cases fate with
        | heard => exact Or.inl rfl
        | lost e => exact Or.inr ⟨e, rfl⟩
        | unheard e => exact Or.inr ⟨e, rfl⟩
    · cases h
  | abandonRead id now =>
    simp only [next] at h
    split at h
    next row request hbegin =>
      cases h
      obtain ⟨hrow, hstatus, hrequest⟩ := beginAbandon_some hbegin
      exact .abandonRead hrow hstatus hrequest
    · cases h
      exact .abandonRefused
  | abandonLookedUp i answer =>
    simp only [next] at h
    split at h
    next id row request hr =>
      split at h
      · split_ifs at h with habsent
        cases h
        exact .abandonAbsent hr habsent
      · cases h
        exact .abandonEnded
    · cases h
  | abandonWritten i user reason fate =>
    simp only [next] at h
    split at h
    next id row₀ request hr =>
      rcases runOn_cases s id
        (fun row => abandon s.clock row ("abandoned by " ++ user ++ ": " ++ reason)) fate with
        ⟨hrun, -⟩ | ⟨row, row', -, hrow, hstatement, hrun⟩
      · rw [hrun] at h
        cases h
        exact .abandonLost
      · rw [hrun] at h
        cases h
        exact .abandonWritten hr rfl hrow hstatement
    · cases h
  | handleRead id handle =>
    simp only [next] at h
    split at h
    next request hbegin =>
      cases h
      obtain ⟨row, hrow, hrequest⟩ := beginRecordHandle_some hbegin
      exact .handleRead hrow hrequest
    · cases h
      exact .handleRefused
  | handleConfirmed i confirmed =>
    simp only [next] at h
    split at h
    next id request handle hr =>
      split_ifs at h
      · cases h
        exact .handleConfirmed hr
      · cases h
        exact .handleEnded
    · cases h
  | handleWritten i fate =>
    simp only [next] at h
    split at h
    next id request handle hr =>
      rcases runOn_cases s id (fun row => recordHandle s.clock row handle) fate with
        ⟨hrun, hnone⟩ | ⟨row, row', hruns, hrow, hstatement, hrun⟩
      · rw [hrun] at h
        cases h
        exact .handleLost hr hnone
      · rw [hrun] at h
        cases h
        exact .handleWritten hr rfl hruns hrow hstatement
    · cases h

end Steps

section Working

variable {readRequest : Json → Except String RegistrationRequest} {s u : State} {e : Event}
  {id : PassportId} {row row' : RegistrySyncRow} {request : RegistrationRequest} {clock : Int}
  {given given' : List (RegistrationRequest × String)} {task : Task}

def Task.Closing : Task → Prop
  | .done => True
  | .write (.submitted _ _) _ _ => False
  | .write _ ok failed => ok.Closing ∧ ∀ e, (failed e).Closing
  | _ => False

/-- What is left is for this registration, and names no handle that was not given for it. -/
def Task.Continues (given : List (RegistrationRequest × String)) (request : RegistrationRequest) :
    Task → Prop
  | .done => True
  | .findSubmission r => r = request
  | .write (.submitted registryId _) ok failed =>
    (registryId ≠ "" → (request, registryId) ∈ given) ∧ ok.Continues given request ∧
      ∀ e, (failed e).Continues given request
  | .write _ ok failed => ok.Closing ∧ ∀ e, (failed e).Closing
  | _ => False

theorem Task.Closing.continues (h : task.Closing) : task.Continues given request := by
  cases task with
  | done => trivial
  | write w ok failed =>
    cases w with
    | submitted id message => exact h.elim
    | registered id => exact h
    | rejected message => exact h
    | attemptFailed message => exact h
  | register r => exact h.elim
  | findSubmission r => exact h.elim
  | checkSubmission handle => exact h.elim

theorem Task.Continues.mono (hsub : given ⊆ given') (h : task.Continues given request) :
    task.Continues given' request := by
  induction task with
  | write w ok failed ihok ihfailed =>
    cases w with
    | submitted id message =>
      exact ⟨fun hid => hsub (h.1 hid), ihok h.2.1, fun e => ihfailed e (h.2.2 e)⟩
    | registered id => exact h
    | rejected message => exact h
    | attemptFailed message => exact h
  | _ => exact h

theorem note_continues (message : Option String) :
    (Task.record (.submitted "" message)).Continues given request :=
  ⟨fun h => absurd rfl h, trivial, fun _ => trivial⟩

theorem attemptFailed_continues (message : String) :
    (Task.record (.attemptFailed message)).Continues given request :=
  ⟨trivial, fun _ => trivial⟩

theorem applyReport_continues (answer : Except String SubmissionReport) :
    (applyReport answer).Continues given request := by
  rcases answer with e | (id | reason | state | _)
  · exact attemptFailed_continues e
  · exact ⟨trivial, fun _ => trivial⟩
  · exact ⟨trivial, fun _ => trivial⟩
  · exact note_continues _
  · exact note_continues none

theorem recoverWithRequest_continues {answer : Except String SubmissionLookup}
    (h : ∀ handle report, answer = .ok (.found handle report) → (request, handle) ∈ given) :
    (recoverWithRequest answer).Continues given request := by
  rcases answer with e | (⟨handle, report⟩ | candidates | exhaustive | _)
  · exact attemptFailed_continues e
  · refine ⟨fun _ => h handle report rfl, ?_, fun e => attemptFailed_continues _⟩
    split_ifs
    · exact applyReport_continues (.ok report)
    · trivial
  · exact note_continues _
  · exact note_continues _
  · exact note_continues _

theorem applyAcknowledgement_continues
    {answer : Except RegisterError SubmissionAcknowledgement}
    (h : ∀ handle, answer = .ok (.accepted handle) → (request, handle) ∈ given) :
    (applyAcknowledgement request answer).Continues given request := by
  rcases answer with (e | e) | (handle | _ | answer)
  · exact ⟨trivial, fun _ => ⟨trivial, fun _ => trivial⟩⟩
  · exact attemptFailed_continues e
  · exact ⟨fun _ => h handle rfl, trivial, fun _ => trivial⟩
  · exact ⟨fun h => absurd rfl h, rfl, fun _ => rfl⟩
  · exact attemptFailed_continues _

/-- A row nobody but the drain may end. -/
def OpenAt (clock : Int) (row : RegistrySyncRow) : Prop :=
  (row.status = .pending ∧ row.nextAttemptAt ≤ clock) ∨ row.status = .submitted

/-- The row is what it was read as, as far as the drain goes by it. -/
structure Unmoved (clock : Int) (read row : RegistrySyncRow) : Prop where
  payload : row.payload = read.payload
  status : row.status = read.status
  isOpen : OpenAt clock row
  handle : correlationId read ≠ none → row.registryId = read.registryId

/-- How the row the drain works on stands to what is left to do for it. -/
inductive Working (readRequest : Json → Except String RegistrationRequest) (s : State)
    (id : PassportId) : Task → Prop where
  | closing {task : Task} (h : task.Closing) : Working readRequest s id task
  | registering {row : RegistrySyncRow} {request : RegistrationRequest}
    (hrow : s.rows id = some row) (hrequest : requestOf readRequest row = some request)
    (hstatus : row.status = .pending) (hdue : row.nextAttemptAt ≤ s.clock) :
    Working readRequest s id (.register request)
  | polling {row : RegistrySyncRow} {handle : String} (hrow : s.rows id = some row)
    (hstatus : row.status = .submitted) (hhandle : correlationId row = some handle) :
    Working readRequest s id (.checkSubmission handle)
  | continuing {task : Task} {row : RegistrySyncRow} {request : RegistrationRequest}
    (hrow : s.rows id = some row) (hrequest : requestOf readRequest row = some request)
    (hopen : OpenAt s.clock row) (h : task.Continues s.given request) :
    Working readRequest s id task

structure Invariant (readRequest : Json → Except String RegistrationRequest)
    (s : State) : Prop where
  owned : ∀ id row, s.rows id = some row → ∃ request, requestOf readRequest row = some request ∧
    request.passportId = id ∧ request ∈ s.minted
  distinct : (s.rest.map Prod.fst).Nodup
  apart : ∀ id task, s.current = some (id, task) → id ∉ s.rest.map Prod.fst
  waiting : ∀ id read, (id, read) ∈ s.rest → ∃ row, s.rows id = some row ∧ Unmoved s.clock read row
  working : ∀ id task, s.current = some (id, task) → Working readRequest s id task

theorem initial_invariant (now : Int) : Invariant readRequest (initial now) := by
  constructor <;> simp [initial]

theorem OpenAt.mono {clock clock' : Int} (hle : clock ≤ clock') (h : OpenAt clock row) :
    OpenAt clock' row := by
  rcases h with ⟨hstatus, hdue⟩ | hstatus
  · exact Or.inl ⟨hstatus, by omega⟩
  · exact Or.inr hstatus

/-- A change from outside leaves an open row as the drain read it. -/
structure KeptFor (clock : Int) (row row' : RegistrySyncRow) : Prop where
  payload : row'.payload = row.payload
  status : row'.status = row.status
  due : row.nextAttemptAt ≤ clock → row'.nextAttemptAt ≤ clock
  handle : correlationId row ≠ none → row'.registryId = row.registryId

theorem KeptFor.openAt (h : KeptFor clock row row') (hopen : OpenAt clock row) :
    OpenAt clock row' := by
  unfold OpenAt
  rw [h.status]
  rcases hopen with ⟨hstatus, hdue⟩ | hstatus
  · exact Or.inl ⟨hstatus, h.due hdue⟩
  · exact Or.inr hstatus

theorem correlationId_congr (h : row'.registryId = row.registryId) :
    correlationId row' = correlationId row := by
  rw [correlationId, correlationId, h]

theorem requestOf_congr (h : row'.payload = row.payload) :
    requestOf readRequest row' = requestOf readRequest row := by
  rw [requestOf, requestOf, h]

theorem outside_preserves (hi : Invariant readRequest s)
    (hrows : ∀ id row, s.rows id = some row → OpenAt s.clock row →
      ∃ row', u.rows id = some row' ∧ KeptFor s.clock row row')
    (howned : ∀ id row, u.rows id = some row → ∃ request, requestOf readRequest row = some request ∧
      request.passportId = id ∧ request ∈ u.minted)
    (hclock : s.clock ≤ u.clock) (hcurrent : u.current = s.current) (hrest : u.rest = s.rest)
    (hgiven : s.given ⊆ u.given) : Invariant readRequest u := by
  refine ⟨howned, hrest ▸ hi.distinct, ?_, ?_, ?_⟩
  · rw [hcurrent, hrest]
    exact hi.apart
  · intro id read hmem
    rw [hrest] at hmem
    obtain ⟨row, hrow, hunmoved⟩ := hi.waiting id read hmem
    obtain ⟨row', hrow', hkept⟩ := hrows id row hrow hunmoved.isOpen
    refine ⟨row', hrow', hkept.payload.trans hunmoved.payload, hkept.status.trans hunmoved.status,
      (hkept.openAt hunmoved.isOpen).mono hclock, ?_⟩
    intro hread
    have hsame := hunmoved.handle hread
    have hheld : correlationId row ≠ none := by rwa [correlationId_congr hsame]
    exact (hkept.handle hheld).trans hsame
  · intro id task htask
    rw [hcurrent] at htask
    cases hi.working id task htask with
    | closing h => exact .closing h
    | registering hrow hrequest hstatus hdue =>
      obtain ⟨row', hrow', hkept⟩ := hrows id _ hrow (Or.inl ⟨hstatus, hdue⟩)
      have hdue' := hkept.due hdue
      exact .registering hrow' (requestOf_congr hkept.payload ▸ hrequest)
        (hkept.status.trans hstatus) (by omega)
    | polling hrow hstatus hhandle =>
      obtain ⟨row', hrow', hkept⟩ := hrows id _ hrow (Or.inr hstatus)
      have hheld := hkept.handle (by simp [hhandle])
      exact .polling hrow' (hkept.status.trans hstatus) (correlationId_congr hheld ▸ hhandle)
    | continuing hrow hrequest hopen h =>
      obtain ⟨row', hrow', hkept⟩ := hrows id _ hrow hopen
      exact .continuing hrow' (requestOf_congr hkept.payload ▸ hrequest)
        ((hkept.openAt hopen).mono hclock) (h.mono hgiven)

@[simp] theorem setRow_rows_self : (s.setRow id row).rows id = some row := by
  simp [State.setRow]

theorem setRow_rows_ne {id' : PassportId} (hne : id' ≠ id) :
    (s.setRow id row).rows id' = s.rows id' := by
  simp [State.setRow, hne]

theorem KeptFor.refl (clock : Int) (row : RegistrySyncRow) : KeptFor clock row row :=
  ⟨rfl, rfl, id, fun _ => rfl⟩

theorem setRow_keeps (hrow : ∀ row₀, s.rows id = some row₀ → OpenAt s.clock row₀ →
    KeptFor s.clock row₀ row) : ∀ id' row₀, s.rows id' = some row₀ → OpenAt s.clock row₀ →
      ∃ row', (s.setRow id row).rows id' = some row' ∧ KeptFor s.clock row₀ row' := by
  intro id' row₀ hrow₀ hopen
  by_cases hid : id' = id
  · subst hid
    exact ⟨row, setRow_rows_self, hrow row₀ hrow₀ hopen⟩
  · exact ⟨row₀, (setRow_rows_ne hid).trans hrow₀, .refl _ _⟩

theorem setRow_owned (hi : Invariant readRequest s) {minted : List RegistrationRequest}
    (hsub : s.minted ⊆ minted) (hrow : ∃ request, requestOf readRequest row = some request ∧
      request.passportId = id ∧ request ∈ minted) :
      ∀ id' row', (s.setRow id row).rows id' = some row' →
      ∃ request, requestOf readRequest row' = some request ∧ request.passportId = id' ∧
        request ∈ minted := by
  intro id' row' hrow'
  by_cases hid : id' = id
  · subst hid
    rw [setRow_rows_self] at hrow'
    cases hrow'
    exact hrow
  · rw [setRow_rows_ne hid] at hrow'
    obtain ⟨request, hrequest, howner, hminted⟩ := hi.owned id' row' hrow'
    exact ⟨request, hrequest, howner, hsub hminted⟩

theorem publish_preserves {payload : Json} (hi : Invariant readRequest s)
    (hread : readRequest payload = .ok request) (howner : request.passportId = id) :
    Invariant readRequest { s.setRow id (queueRegistration s.clock payload (s.rows id)) with
      minted := request :: s.minted } := by
  have hsub : s.minted ⊆ request :: s.minted := List.subset_cons_self _ _
  refine outside_preserves hi (setRow_keeps ?_) (setRow_owned hi hsub ?_) le_rfl rfl rfl
    (List.Subset.refl _)
  · intro row₀ hrow₀ hopen
    rcases queueRegistration_cases s.clock payload (s.rows id) with ⟨-, -⟩ |
      ⟨row, hrow, -, -, hsame⟩
    · have hstatus : row₀.status ≠ .rejected ∧ row₀.status ≠ .abandoned := by
        rcases hopen with ⟨hstatus, -⟩ | hstatus <;> simp [hstatus]
      rw [hrow₀]
      simp only [queueRegistration, hstatus.1, hstatus.2, or_self, if_false]
      exact ⟨rfl, rfl, fun h => h, fun _ => rfl⟩
    · obtain rfl : row₀ = row := Option.some.inj (hrow₀.symm.trans hrow)
      rw [hsame]
      exact ⟨rfl, rfl, fun h => h, fun _ => rfl⟩
  · rcases queueRegistration_cases s.clock payload (s.rows id) with
      ⟨-, hpayload⟩ | ⟨row, hrow, -, -, hsame⟩
    · exact ⟨request, by simp [requestOf, hpayload, hread, Except.toOption], howner,
        List.mem_cons_self⟩
    · obtain ⟨r, hr, howner', hminted⟩ := hi.owned id row hrow
      exact ⟨r, by rw [hsame]; exact hr, howner', hsub hminted⟩

theorem abandonWritten_preserves {message : String} (hi : Invariant readRequest s)
    (hrow : s.rows id = some row) (hstatement : abandon s.clock row message = some row') :
    Invariant readRequest (s.setRow id row') := by
  obtain ⟨hstatus, -, hbacked, rfl⟩ := abandon_some hstatement
  refine outside_preserves hi (setRow_keeps ?_) (setRow_owned hi (List.Subset.refl _) ?_) le_rfl rfl
    rfl (List.Subset.refl _)
  · intro row₀ hrow₀ hopen
    obtain rfl : row₀ = row := Option.some.inj (hrow₀.symm.trans hrow)
    rcases hopen with ⟨-, hdue⟩ | hsubmitted
    · omega
    · cases hstatus.symm.trans hsubmitted
  · exact hi.owned id row hrow

theorem correlationId_of_holdsNone (h : holdsNone row = true) : correlationId row = none := by
  have hnone : row.registryId = none ∨ row.registryId = some "" := by
    cases hid : row.registryId with
    | none => exact Or.inl rfl
    | some held => simpa [holdsNone, hid] using h
  rcases hnone with hnone | hnone
  · simp [correlationId, hnone]
  · rw [correlationId, hnone]
    rfl

theorem handleWritten_preserves {handle : String} (hi : Invariant readRequest s)
    (hrow : s.rows id = some row) (hstatement : recordHandle s.clock row handle = some row') :
    Invariant readRequest (s.setRow id row') := by
  obtain ⟨-, hnone, rfl⟩ := recordHandle_some hstatement
  refine outside_preserves hi (setRow_keeps ?_) (setRow_owned hi (List.Subset.refl _) ?_) le_rfl rfl
    rfl (List.Subset.refl _)
  · intro row₀ hrow₀ hopen
    obtain rfl : row₀ = row := Option.some.inj (hrow₀.symm.trans hrow)
    exact ⟨rfl, rfl, fun _ => le_rfl, fun h => absurd (correlationId_of_holdsNone hnone) h⟩
  · exact hi.owned id row hrow

/-- What the drain sets out to do fits the row it read, as long as the row has not moved. -/
theorem drainRow_working {read : RegistrySyncRow} (hrow : s.rows id = some row)
    (hrequest : requestOf readRequest row = some request) (h : Unmoved s.clock read row) :
    Working readRequest s id (drainRow readRequest read) := by
  have hread : requestOf readRequest read = some request :=
    (requestOf_congr h.payload).symm.trans hrequest
  unfold drainRow
  split_ifs with hsubmitted
  · cases hheld : correlationId read with
    | none =>
      simp only [recoverHandle, hread]
      exact .continuing hrow hrequest h.isOpen rfl
    | some handle =>
      have hsame := h.handle (by simp [hheld])
      exact .polling hrow (h.status.trans hsubmitted) ((correlationId_congr hsame).trans hheld)
  · obtain ⟨payload, hpayload, hparsed⟩ := Option.bind_eq_some_iff.mp hread
    have hok : readRequest payload = .ok request := toOption_eq_some.mp hparsed
    simp only [hpayload, hok]
    rcases h.isOpen with ⟨hstatus, hdue⟩ | hstatus
    · exact .registering hrow hrequest hstatus hdue
    · exact absurd (h.status.symm.trans hstatus) hsubmitted

theorem same_preserves (hi : Invariant readRequest s) (hrows : u.rows = s.rows)
    (hminted : u.minted = s.minted) (hclock : s.clock ≤ u.clock) (hcurrent : u.current = s.current)
    (hrest : u.rest = s.rest) (hgiven : s.given ⊆ u.given) : Invariant readRequest u := by
  refine outside_preserves hi ?_ ?_ hclock hcurrent hrest hgiven
  · intro id row hrow _
    exact ⟨row, hrows ▸ hrow, .refl _ _⟩
  · rw [hrows, hminted]
    exact hi.owned

theorem drain_preserves (hi : Invariant readRequest s)
    (hcurrent : ∃ old, s.current = some (id, old))
    (hrow : ∀ id', id' ≠ id → u.rows id' = s.rows id')
    (howned : ∀ row, u.rows id = some row → ∃ request, requestOf readRequest row = some request ∧
      request.passportId = id ∧ request ∈ u.minted)
    (hminted : u.minted = s.minted) (hclock : u.clock = s.clock) (hrest : u.rest = s.rest)
    (htask : u.current = some (id, task)) (hworking : Working readRequest u id task) :
    Invariant readRequest u := by
  obtain ⟨old, hold⟩ := hcurrent
  have happart := hi.apart id old hold
  refine ⟨?_, hrest ▸ hi.distinct, ?_, ?_, ?_⟩
  · intro id' row hrow'
    by_cases hid : id' = id
    · subst hid
      exact howned row hrow'
    · rw [hrow id' hid] at hrow'
      rw [hminted]
      exact hi.owned id' row hrow'
  · intro id' task' htask'
    rw [htask] at htask'
    cases htask'
    rw [hrest]
    exact happart
  · intro id' read hmem
    rw [hrest] at hmem
    have hid : id' ≠ id := by
      rintro rfl
      exact happart (List.mem_map_of_mem hmem)
    rw [hrow id' hid, hclock]
    exact hi.waiting id' read hmem
  · intro id' task' htask'
    rw [htask] at htask'
    cases htask'
    exact hworking

theorem statement_payload {w : Write} {jitter : ℕ} {now : Int}
    (h : w.statement now jitter row = some row') : row'.payload = row.payload := by
  cases w with
  | submitted id message =>
    obtain ⟨-, rfl⟩ := submitted_some h
    rfl
  | registered id =>
    obtain ⟨-, rfl⟩ := markRegistered_some h
    rfl
  | rejected message =>
    obtain ⟨-, rfl⟩ := markRejected_some h
    rfl
  | attemptFailed message =>
    obtain ⟨-, rfl⟩ := markAttemptFailed_some h
    rfl

theorem Task.Closing.after {w : Write} {ok : Task} {failed : String → Task}
    (h : (Task.write w ok failed).Closing) (htask : task = ok ∨ ∃ e, task = failed e) :
    task.Closing := by
  have hboth : ok.Closing ∧ ∀ e, (failed e).Closing := by
    cases w with
    | submitted id message => exact h.elim
    | registered id => exact h
    | rejected message => exact h
    | attemptFailed message => exact h
  rcases htask with rfl | ⟨e, rfl⟩
  · exact hboth.1
  · exact hboth.2 e

theorem Task.Continues.after {w : Write} {ok : Task} {failed : String → Task}
    (h : (Task.write w ok failed).Continues given request)
    (htask : task = ok ∨ ∃ e, task = failed e) :
    task.Closing ∨ ((∃ registryId message, w = .submitted registryId message) ∧
      task.Continues given request) := by
  cases w with
  | submitted id message =>
    refine Or.inr ⟨⟨id, message, rfl⟩, ?_⟩
    rcases htask with rfl | ⟨e, rfl⟩
    · exact h.2.1
    · exact h.2.2 e
  | registered id => exact Or.inl (Task.Closing.after (w := .registered id) h htask)
  | rejected message => exact Or.inl (Task.Closing.after (w := .rejected message) h htask)
  | attemptFailed message =>
    exact Or.inl (Task.Closing.after (w := .attemptFailed message) h htask)

theorem notWritten_preserves {w : Write} {ok : Task} {failed : String → Task}
    (hi : Invariant readRequest s) (hcurrent : s.current = some (id, .write w ok failed))
    (htask : ∃ e, task = failed e) :
    Invariant readRequest { s with current := some (id, task) } := by
  refine drain_preserves hi ⟨_, hcurrent⟩ (fun _ _ => rfl) (hi.owned id) rfl rfl rfl rfl ?_
  cases hi.working id _ hcurrent with
  | closing h => exact .closing (h.after (Or.inr htask))
  | continuing hrow hrequest hopen h =>
    rcases h.after (Or.inr htask) with h | ⟨-, h⟩
    · exact .closing h
    · exact .continuing hrow hrequest hopen h

theorem written_preserves {w : Write} {ok : Task} {failed : String → Task} {jitter : ℕ}
    (hi : Invariant readRequest s) (hcurrent : s.current = some (id, .write w ok failed))
    (hrow : s.rows id = some row) (hstatement : w.statement s.clock jitter row = some row')
    (htask : task = ok ∨ ∃ e, task = failed e) :
    Invariant readRequest { s.setRow id row' with current := some (id, task) } := by
  have hpayload := statement_payload hstatement
  refine drain_preserves hi ⟨_, hcurrent⟩ (fun _ hne => setRow_rows_ne hne) ?_ rfl rfl rfl rfl ?_
  · intro row₀ hrow₀
    obtain rfl : row' = row₀ := Option.some.inj (setRow_rows_self.symm.trans hrow₀)
    rw [requestOf_congr hpayload]
    exact hi.owned id row hrow
  cases hi.working id _ hcurrent with
  | closing h => exact .closing (h.after htask)
  | continuing hrow₀ hrequest hopen h =>
    obtain rfl := Option.some.inj (hrow.symm.trans hrow₀)
    rcases h.after htask with hclosing | ⟨⟨registryId, message, rfl⟩, hrest⟩
    · exact .closing hclosing
    · obtain ⟨-, rfl⟩ := submitted_some hstatement
      exact .continuing setRow_rows_self hrequest (Or.inr rfl) hrest

theorem due_preserves {ids : List PassportId} (hi : Invariant readRequest s) (hnodup : ids.Nodup)
    (hdue : ∀ id ∈ ids, ∃ row, s.rows id = some row ∧ isDue s.clock row = true) :
    Invariant readRequest { s with
      current := none
      rest := ids.filterMap fun id => (s.rows id).map fun row => (id, row) } := by
  have hmem : ∀ id read,
    (id, read) ∈ (ids.filterMap fun id => (s.rows id).map fun row => (id, row)) →
      id ∈ ids ∧ s.rows id = some read := by
    intro id read h
    obtain ⟨id', hid', hsome⟩ := List.mem_filterMap.mp h
    obtain ⟨row, hrow, heq⟩ := Option.map_eq_some_iff.mp hsome
    cases heq
    exact ⟨hid', hrow⟩
  refine ⟨hi.owned, ?_, fun _ _ h => by simp at h, ?_, fun _ _ h => by simp at h⟩
  · rw [List.map_filterMap]
    refine hnodup.filterMap ?_
    intro a b c ha hb
    simp only [Option.map_map, Option.mem_def, Option.map_eq_some_iff] at ha hb
    obtain ⟨_, -, rfl⟩ := ha
    obtain ⟨_, -, hb⟩ := hb
    exact hb.symm
  · intro id read h
    obtain ⟨hid, hrow⟩ := hmem id read h
    obtain ⟨row, hrow', hrowDue⟩ := hdue id hid
    obtain rfl := Option.some.inj (hrow.symm.trans hrow')
    obtain ⟨hstatus, hle⟩ := isDue_iff.mp hrowDue
    refine ⟨read, hrow, rfl, rfl, ?_, fun _ => rfl⟩
    rcases hstatus with hstatus | hstatus
    · exact Or.inl ⟨hstatus, hle⟩
    · exact Or.inr hstatus

theorem takeUp_preserves {rest : List (PassportId × RegistrySyncRow)} (hi : Invariant readRequest s)
    (hrest : s.rest = (id, row) :: rest) :
    Invariant readRequest { s with current := some (id, drainRow readRequest row), rest } := by
  obtain ⟨current, hrow, hunmoved⟩ := hi.waiting id row (hrest ▸ List.mem_cons_self)
  obtain ⟨request, hrequest, -⟩ := hi.owned id current hrow
  have hdistinct := hi.distinct
  rw [hrest, List.map_cons, List.nodup_cons] at hdistinct
  refine ⟨hi.owned, hdistinct.2, ?_, ?_, ?_⟩
  · rintro id' task' htask
    cases htask
    exact hdistinct.1
  · intro id' read hmem
    exact hi.waiting id' read (hrest ▸ List.mem_cons_of_mem _ hmem)
  · rintro id' task' htask
    cases htask
    exact drainRow_working hrow hrequest hunmoved

theorem step_preserves_invariant (hi : Invariant readRequest s)
    (h : next readRequest s e = some u) : Invariant readRequest u := by
  cases next_moves h with
  | tick hforward => exact same_preserves hi rfl rfl hforward rfl rfl (List.Subset.refl _)
  | publish hread howner hnew => exact publish_preserves hi hread howner
  | due hnodup hdue => exact due_preserves hi hnodup hdue
  | takeUp hrest => exact takeUp_preserves hi hrest
  | received hcurrent => exact same_preserves hi rfl rfl le_rfl rfl rfl (List.Subset.refl _)
  | acknowledged hcurrent hkept hgiven =>
    refine drain_preserves hi ⟨_, hcurrent⟩ (fun _ _ => rfl) (hi.owned _) rfl rfl rfl rfl ?_
    cases hi.working _ _ hcurrent with
    | closing h => exact h.elim
    | registering hrow hrequest hstatus hdue =>
      exact .continuing hrow hrequest (Or.inl ⟨hstatus, hdue⟩)
        (applyAcknowledgement_continues hgiven)
    | continuing _ _ _ h => exact h.elim
  | lookedUp hcurrent hkept hgiven =>
    refine drain_preserves hi ⟨_, hcurrent⟩ (fun _ _ => rfl) (hi.owned _) rfl rfl rfl rfl ?_
    cases hi.working _ _ hcurrent with
    | closing h => exact h.elim
    | continuing hrow hrequest hopen h =>
      obtain rfl := h
      exact .continuing hrow hrequest hopen (recoverWithRequest_continues hgiven)
  | reported hcurrent =>
    refine drain_preserves hi ⟨_, hcurrent⟩ (fun _ _ => rfl) (hi.owned _) rfl rfl rfl rfl ?_
    cases hi.working _ _ hcurrent with
    | closing h => exact h.elim
    | polling hrow hstatus _ =>
      obtain ⟨request, hrequest, -⟩ := hi.owned _ _ hrow
      exact .continuing hrow hrequest (Or.inr hstatus) (applyReport_continues _)
    | continuing _ _ _ h => exact h.elim
  | notWritten hcurrent _ htask => exact notWritten_preserves hi hcurrent htask
  | written hcurrent _ hrow hstatement htask =>
    exact written_preserves hi hcurrent hrow hstatement htask
  | abandonRefused => exact hi
  | abandonRead => exact same_preserves hi rfl rfl le_rfl rfl rfl (List.Subset.refl _)
  | abandonAbsent => exact same_preserves hi rfl rfl le_rfl rfl rfl (List.Subset.refl _)
  | abandonEnded => exact same_preserves hi rfl rfl le_rfl rfl rfl (List.Subset.refl _)
  | abandonLost => exact same_preserves hi rfl rfl le_rfl rfl rfl (List.Subset.refl _)
  | abandonWritten _ _ hrow hstatement =>
    exact same_preserves (abandonWritten_preserves hi hrow hstatement) rfl rfl le_rfl rfl rfl
      (List.Subset.refl _)
  | handleRefused => exact hi
  | handleRead => exact same_preserves hi rfl rfl le_rfl rfl rfl (List.Subset.refl _)
  | handleConfirmed =>
    exact same_preserves hi rfl rfl le_rfl rfl rfl (List.subset_cons_self _ _)
  | handleEnded => exact same_preserves hi rfl rfl le_rfl rfl rfl (List.Subset.refl _)
  | handleLost => exact same_preserves hi rfl rfl le_rfl rfl rfl (List.Subset.refl _)
  | handleWritten _ _ _ hrow hstatement =>
    exact same_preserves (handleWritten_preserves hi hrow hstatement) rfl rfl le_rfl rfl rfl
      (List.Subset.refl _)

end Working

end RegistryDrain
