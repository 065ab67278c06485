import DppEngine.JsonValues
import DppEngine.OptimisticCells
import DppEngine.PassportModel
import DppEngine.TransitionSystems

/-! The transfer of responsibility of one passport: initiate, accept, reject and cancel.

A request reads the stored chain with its revision, changes it in memory with a signature
in between, and commits the whole chain over the revision it read. The chain, its records
and their state machine are those of the core library, of which only what the claims about
a pending handover rest on is assumed. -/
namespace TransferChains

open JsonValues PassportModel TransitionSystems OptimisticCells FallibleSteps

variable {Operator Reason : Type}

inductive TransferStatus where
  | initiated
  | accepted
  | completed
  | rejected
  | cancelled
  deriving DecidableEq, Repr

structure TransferRecord (Operator Reason : Type) where
  transferId : ℕ
  passportId : PassportId
  fromOperator : Operator
  toOperator : Operator
  reason : Reason
  fromSignature : Option String
  nodeAcceptanceAttestation : Option String
  initiatedAt : Int
  completedAt : Option Int
  rejectedAt : Option Int
  cancelledAt : Option Int
  notes : Option String
  deriving DecidableEq, Repr

structure TransferChain (Operator Reason : Type) where
  passportId : PassportId
  openedFor : Operator
  transfers : List (TransferRecord Operator Reason)
  deriving DecidableEq, Repr

def TransferChain.new (passportId : PassportId) (operator : Operator) :
    TransferChain Operator Reason :=
  ⟨passportId, operator, []⟩

/-- What the requests call of the core library; a failure is its text. -/
structure Core (Operator Reason : Type) where
  status : TransferRecord Operator Reason → TransferStatus
  signingPayload : TransferRecord Operator Reason → Json
  operatorJson : Operator → Json
  reasonJson : Reason → Json
  initiateTransfer : TransferChain Operator Reason → TransferRecord Operator Reason →
    Except String (TransferChain Operator Reason)
  complete : Int → TransferRecord Operator Reason → Except String (TransferRecord Operator Reason)
  reject : Int → TransferRecord Operator Reason → Except String (TransferRecord Operator Reason)
  cancel : Int → TransferRecord Operator Reason → Except String (TransferRecord Operator Reason)

/-- The answers of the identity service and the clock while a request runs. -/
structure Environment where
  signPassport : PassportId → Json → Except DppError String
  verifySignature : String → Json → Except DppError Bool
  now : Int

inductive Termination where
  | rejected
  | cancelled
  deriving DecidableEq, Repr

inductive Request (Operator Reason : Type) where
  | initiate (transferId : ℕ) (fromOperator toOperator : Operator) (reason : Reason)
      (notes : Option String)
  | accept
  | terminate (how : Termination)
  deriving DecidableEq, Repr

def Termination.verb : Termination → String
  | .rejected => "reject"
  | .cancelled => "cancel"

section Steps

variable (core : Core Operator Reason)

def Termination.apply (how : Termination) (now : Int) (record : TransferRecord Operator Reason) :
    Except String (TransferRecord Operator Reason) :=
  match how with
  | .rejected => core.reject now record
  | .cancelled => core.cancel now record

def Core.pending (record : TransferRecord Operator Reason) : Bool :=
  core.status record = .initiated || core.status record = .accepted

/-- The bytes the node attests an acceptance over: never those of the initiation. -/
def acceptancePayload (record : TransferRecord Operator Reason) : Json :=
  .obj [("attests", .str "acceptance"), ("transferId", .str (PassportId.text record.transferId)),
    ("passportId", .str (PassportId.text record.passportId)),
    ("fromOperator", core.operatorJson record.fromOperator),
    ("toOperator", core.operatorJson record.toOperator), ("reason", core.reasonJson record.reason),
    ("initiatedAt", .instant record.initiatedAt)]

/-- `map_err(|e| DppError::Validation(e.to_string().into()))`. -/
def refused {α : Type} : Except String α → Except DppError α
  | .ok a => .ok a
  | .error text => .error (.validation "" text)

def initiateTransfer (id : PassportId) (env : Environment) (transferId : ℕ)
    (fromOperator toOperator : Operator) (reason : Reason) (notes : Option String)
    (stored : Option (TransferChain Operator Reason)) :
    Except DppError (TransferChain Operator Reason × TransferRecord Operator Reason) := do
  let chain := stored.getD (.new id fromOperator)
  let record : TransferRecord Operator Reason :=
    { transferId, passportId := id, fromOperator, toOperator, reason
      fromSignature := none, nodeAcceptanceAttestation := none, initiatedAt := env.now
      completedAt := none, rejectedAt := none, cancelledAt := none, notes }
  let jws ← env.signPassport id (core.signingPayload record)
  let record := { record with fromSignature := some jws }
  let chain ← refused (core.initiateTransfer chain record)
  return (chain, record)

def TransferChain.position (chain : TransferChain Operator Reason)
    (wanted : TransferRecord Operator Reason → Bool) :
    Option (ℕ × TransferRecord Operator Reason) :=
  (chain.transfers.findIdx? wanted).bind fun idx => chain.transfers[idx]?.map (idx, ·)

def TransferChain.put (chain : TransferChain Operator Reason) (idx : ℕ)
    (record : TransferRecord Operator Reason) : TransferChain Operator Reason :=
  { chain with transfers := chain.transfers.set idx record }

def acceptTransfer (id : PassportId) (env : Environment)
    (stored : Option (TransferChain Operator Reason)) :
    Except DppError (TransferChain Operator Reason × TransferRecord Operator Reason) :=
  match stored with
  | none => .error (.notFound ("no transfer chain for " ++ PassportId.text id))
  | some chain =>
    match chain.position fun t => core.status t = .initiated with
    | none => .error (.validation "" "no pending transfer to accept")
    | some (idx, pending) =>
      match pending.fromSignature with
      | none => .error (.validation "" "pending transfer has no from-signature")
      | some fromSig => do
        let valid ← env.verifySignature fromSig (core.signingPayload pending)
        if valid then
          let jws ← env.signPassport id (acceptancePayload core pending)
          let record ← refused
            (core.complete env.now { pending with nodeAcceptanceAttestation := some jws })
          return (chain.put idx record, record)
        else .error (.validation "" "transfer from-signature failed verification")

/-- The first record that blocks a new transfer is the one that ends. -/
def terminatePendingTransfer (id : PassportId) (env : Environment) (how : Termination)
    (stored : Option (TransferChain Operator Reason)) :
    Except DppError (TransferChain Operator Reason × TransferRecord Operator Reason) :=
  match stored with
  | none => .error (.notFound ("no transfer chain for " ++ PassportId.text id))
  | some chain =>
    match chain.position core.pending with
    | none => .error (.validation "" ("no pending transfer to " ++ how.verb))
    | some (idx, pending) => do
      let record ← refused (how.apply core env.now pending)
      return (chain.put idx record, record)

def Request.step (id : PassportId) (env : Environment)
    (stored : Option (TransferChain Operator Reason)) : Request Operator Reason →
    Except DppError (TransferChain Operator Reason × TransferRecord Operator Reason)
  | .initiate transferId fromOperator toOperator reason notes =>
    initiateTransfer core id env transferId fromOperator toOperator reason notes stored
  | .accept => acceptTransfer core id env stored
  | .terminate how => terminatePendingTransfer core id env how stored

end Steps

section StepFacts

variable {core : Core Operator Reason} {id : PassportId} {env : Environment}
  {stored : Option (TransferChain Operator Reason)}
  {chain chain' : TransferChain Operator Reason} {record : TransferRecord Operator Reason}

/-- What the requests rest on: a new transfer is refused while one is pending, and is
appended otherwise. -/
structure Core.Lawful (core : Core Operator Reason) : Prop where
  refuses : ∀ chain record, (∃ t ∈ chain.transfers, core.pending t = true) →
    ∃ text, core.initiateTransfer chain record = .error text
  appends : ∀ chain record chain', core.initiateTransfer chain record = .ok chain' →
    chain' = { chain with transfers := chain.transfers ++ [record] }

def Core.pendingIn (core : Core Operator Reason) (chain : TransferChain Operator Reason) : ℕ :=
  chain.transfers.countP core.pending

theorem refused_ok {α : Type} {x : Except String α} {a : α} (h : refused x = .ok a) :
    x = .ok a := by
  cases x with
  | ok b =>
    cases h
    rfl
  | error text => cases h

theorem position_some {wanted : TransferRecord Operator Reason → Bool} {idx : ℕ}
    (h : chain.position wanted = some (idx, record)) :
    chain.transfers[idx]? = some record ∧ wanted record = true := by
  obtain ⟨i, hi, hrecord⟩ := Option.bind_eq_some_iff.mp h
  obtain ⟨r, hr, heq⟩ := Option.map_eq_some_iff.mp hrecord
  cases heq
  obtain ⟨hlt, hwanted, -⟩ := List.findIdx?_eq_some_iff_getElem.mp hi
  obtain ⟨_, hget⟩ := List.getElem?_eq_some_iff.mp hr
  exact ⟨hr, hget ▸ hwanted⟩

/-- Putting a record in a pending one's place leaves no more pending records. -/
theorem pendingIn_put {idx : ℕ} {pending : TransferRecord Operator Reason}
    (hget : chain.transfers[idx]? = some pending) (hpending : core.pending pending = true) :
    core.pendingIn (chain.put idx record) ≤ core.pendingIn chain := by
  obtain ⟨hlt, heq⟩ := List.getElem?_eq_some_iff.mp hget
  have hpos : 0 < chain.transfers.countP core.pending :=
    List.countP_pos_iff.mpr ⟨pending, List.mem_of_getElem? hget, hpending⟩
  have hset := List.countP_set (p := core.pending) (a := record) hlt
  rw [heq, hpending, if_pos rfl] at hset
  change (chain.transfers.set idx record).countP core.pending ≤ _
  rw [hset]
  change _ ≤ chain.transfers.countP core.pending
  split_ifs <;> omega

def TransferRecord.opened (id : PassportId) (env : Environment) (transferId : ℕ)
    (fromOperator toOperator : Operator) (reason : Reason) (notes : Option String) :
    TransferRecord Operator Reason :=
  { transferId, passportId := id, fromOperator, toOperator, reason
    fromSignature := none, nodeAcceptanceAttestation := none, initiatedAt := env.now
    completedAt := none, rejectedAt := none, cancelledAt := none, notes }

theorem initiateTransfer_ok (hcore : core.Lawful) {transferId : ℕ}
    {fromOperator toOperator : Operator} {reason : Reason} {notes : Option String}
    (h : initiateTransfer core id env transferId fromOperator toOperator reason notes stored =
      .ok (chain', record)) :
    let chain := stored.getD (.new id fromOperator)
    let opened := TransferRecord.opened id env transferId fromOperator toOperator reason notes
    ∃ jws, env.signPassport id (core.signingPayload opened) = .ok jws ∧
      record = { opened with fromSignature := some jws } ∧
      chain' = { chain with transfers := chain.transfers ++ [record] } ∧
      core.pendingIn chain = 0 := by
  obtain ⟨jws, hsigned, h⟩ := bind_ok h
  obtain ⟨c, hc, h⟩ := bind_ok h
  have hinitiate := refused_ok hc
  cases h
  refine ⟨jws, hsigned, rfl, hcore.appends _ _ _ hinitiate, List.countP_eq_zero.mpr ?_⟩
  intro t ht hpending
  obtain ⟨text, herror⟩ := hcore.refuses _ _ ⟨t, ht, hpending⟩
  cases herror.symm.trans hinitiate

theorem acceptTransfer_ok (h : acceptTransfer core id env stored = .ok (chain', record)) :
    ∃ chain idx pending jws, stored = some chain ∧ chain.transfers[idx]? = some pending ∧
      core.pending pending = true ∧
      env.signPassport id (acceptancePayload core pending) = .ok jws ∧
      core.complete env.now { pending with nodeAcceptanceAttestation := some jws } = .ok record ∧
      chain' = chain.put idx record := by
  cases stored with
  | none => cases h
  | some chain =>
    simp only [acceptTransfer] at h
    cases hposition : chain.position fun t => core.status t = .initiated with
    | none => simp [hposition] at h
    | some found =>
      obtain ⟨idx, pending⟩ := found
      obtain ⟨hget, hinitiated⟩ := position_some hposition
      simp only [hposition] at h
      cases hsignature : pending.fromSignature with
      | none => simp [hsignature] at h
      | some fromSig =>
        simp only [hsignature] at h
        obtain ⟨valid, -, h⟩ := bind_ok h
        cases valid with
        | false => cases h
        | true =>
          obtain ⟨jws, hsigned, h⟩ := bind_ok h
          obtain ⟨completed, hcompleted, h⟩ := bind_ok h
          cases h
          have hcomplete := refused_ok hcompleted
          rw [← hsignature] at hcomplete
          refine ⟨chain, idx, pending, jws, rfl, hget, ?_, hsigned, hcomplete, rfl⟩
          simp [Core.pending, of_decide_eq_true hinitiated]

theorem terminatePendingTransfer_ok {how : Termination}
    (h : terminatePendingTransfer core id env how stored = .ok (chain', record)) :
    ∃ chain idx pending, stored = some chain ∧ chain.transfers[idx]? = some pending ∧
      core.pending pending = true ∧ how.apply core env.now pending = .ok record ∧
      chain' = chain.put idx record := by
  cases stored with
  | none => cases h
  | some chain =>
    simp only [terminatePendingTransfer] at h
    cases hposition : chain.position core.pending with
    | none => simp [hposition] at h
    | some found =>
      obtain ⟨idx, pending⟩ := found
      obtain ⟨hget, hpending⟩ := position_some hposition
      simp only [hposition] at h
      obtain ⟨ended, hended, h⟩ := bind_ok h
      cases h
      exact ⟨chain, idx, pending, rfl, hget, hpending, refused_ok hended, rfl⟩

/-- A request appends a record to a chain with none pending, or replaces a pending one. -/
theorem step_ok (hcore : core.Lawful) {request : Request Operator Reason}
    (h : request.step core id env stored = .ok (chain', record)) :
    (∃ fromOperator, let chain := stored.getD (.new id fromOperator)
      chain' = { chain with transfers := chain.transfers ++ [record] } ∧
        core.pendingIn chain = 0) ∨
    ∃ chain idx pending, stored = some chain ∧ chain.transfers[idx]? = some pending ∧
      core.pending pending = true ∧ chain' = chain.put idx record := by
  cases request with
  | initiate transferId fromOperator toOperator reason notes =>
    obtain ⟨jws, -, -, hchain, hnone⟩ := initiateTransfer_ok hcore h
    exact .inl ⟨fromOperator, hchain, hnone⟩
  | accept =>
    obtain ⟨chain, idx, pending, jws, hstored, hget, hpending, -, -, hchain⟩ := acceptTransfer_ok h
    exact .inr ⟨chain, idx, pending, hstored, hget, hpending, hchain⟩
  | terminate how =>
    obtain ⟨chain, idx, pending, hstored, hget, hpending, -, hchain⟩ :=
      terminatePendingTransfer_ok h
    exact .inr ⟨chain, idx, pending, hstored, hget, hpending, hchain⟩

/-- So a chain of this passport with at most one pending record stays one. -/
theorem step_onePending (hcore : core.Lawful) {request : Request Operator Reason}
    (hstored : ∀ chain ∈ stored, chain.passportId = id ∧ core.pendingIn chain ≤ 1)
    (h : request.step core id env stored = .ok (chain', record)) :
    chain'.passportId = id ∧ core.pendingIn chain' ≤ 1 := by
  rcases step_ok hcore h with ⟨fromOperator, rfl, hnone⟩ | ⟨chain, idx, pending, rfl, hget, hp, rfl⟩
  · constructor
    · cases stored with
      | none => rfl
      | some chain => exact (hstored chain rfl).1
    · have hnone' : (stored.getD (.new id fromOperator)).transfers.countP core.pending = 0 := hnone
      change List.countP core.pending (_ ++ [record]) ≤ 1
      rw [List.countP_append, hnone', List.countP_singleton]
      split_ifs <;> omega
  · obtain ⟨hid, hone⟩ := hstored chain rfl
    exact ⟨hid, Nat.le_trans (pendingIn_put hget hp) hone⟩

end StepFacts

section Writes

/-- The first revision a `BIGINT` column cannot hold. -/
def revisionLimit : ℕ := 2 ^ 63

def staleChain : DppError :=
  .validation "" ("the transfer chain was changed by another request while this one was " ++
    "running; read it again and retry")

/-- `write_chain_over`, with the revision the table's trigger leaves. -/
def writeChainOver (stored : Option (Cell (TransferChain Operator Reason))) (base : Option ℕ)
    (chain : TransferChain Operator Reason) :
    Except DppError (Cell (TransferChain Operator Reason)) :=
  match writeOver revisionLimit stored base chain with
  | .written cell => .ok cell
  | .stale => .error staleChain
  | .exhausted => .error (.internal "database: bigint out of range")

theorem writeChainOver_ok {stored : Option (Cell (TransferChain Operator Reason))}
    {base : Option ℕ} {chain : TransferChain Operator Reason}
    {cell : Cell (TransferChain Operator Reason)} :
    writeChainOver stored base chain = .ok cell ↔
      writeOver revisionLimit stored base chain = .written cell := by
  rw [writeChainOver]
  cases writeOver revisionLimit stored base chain <;> simp

end Writes

section Requests

structure InFlight (Operator Reason : Type) where
  request : Request Operator Reason
  snapshot : Option (Cell (TransferChain Operator Reason))

abbrev Answer (Operator Reason : Type) :=
  Request Operator Reason × Except DppError (TransferRecord Operator Reason)

abbrev Taken (Operator Reason : Type) := Request Operator Reason × Environment

/-- The row of one passport's chain, its requests, and the chains that were committed. -/
structure State (Operator Reason : Type) where
  stored : Option (Cell (TransferChain Operator Reason))
  inFlight : List (InFlight Operator Reason)
  committed : List (Taken Operator Reason × TransferChain Operator Reason)
  answers : List (Answer Operator Reason)

inductive Event (Operator Reason : Type) where
  /-- Look the passport up, then read the chain with its revision. -/
  | read (request : Request Operator Reason) (passport : Except DppError PassportStatus)
  /-- Change the chain in memory and commit it. -/
  | finish (i : ℕ) (env : Environment)
  /-- The store or the transaction fails, or the request is abandoned. -/
  | fail (i : ℕ) (error : DppError)

def State.initial : State Operator Reason := ⟨none, [], [], []⟩

/-- Only a published passport transfers; the other requests never look at it. -/
def Request.refusal (passport : Except DppError PassportStatus) :
    Request Operator Reason → Option DppError
  | .initiate .. =>
    match passport with
    | .error e => some e
    | .ok status =>
      if status = .published then none
      else some (.invalidTransition status.toString PassportStatus.published.toString)
  | _ => none

variable (core : Core Operator Reason) (id : PassportId)

def State.answer (s : State Operator Reason) (request : Request Operator Reason)
    (result : Except DppError (TransferRecord Operator Reason)) : State Operator Reason :=
  { s with answers := s.answers ++ [(request, result)] }

def State.next (s : State Operator Reason) : Event Operator Reason → Option (State Operator Reason)
  | .read request passport =>
    match request.refusal passport with
    | some e => some (s.answer request (.error e))
    | none => some { s with inFlight := s.inFlight ++ [⟨request, s.stored⟩] }
  | .finish i env =>
    match s.inFlight[i]? with
    | none => none
    | some r =>
      let s := { s with inFlight := s.inFlight.eraseIdx i }
      match r.request.step core id env (r.snapshot.map Cell.value) with
      | .error e => some (s.answer r.request (.error e))
      | .ok (chain, record) =>
        match writeChainOver s.stored (r.snapshot.map Cell.revision) chain with
        | .error e => some (s.answer r.request (.error e))
        | .ok cell => some { s with
            stored := some cell
            committed := s.committed ++ [((r.request, env), chain)]
            answers := s.answers ++ [(r.request, .ok record)] }
  | .fail i error =>
    match s.inFlight[i]? with
    | none => none
    | some r => some
      (State.answer { s with inFlight := s.inFlight.eraseIdx i } r.request (.error error))

end Requests

section Histories

variable {core : Core Operator Reason} {id : PassportId} {s u : State Operator Reason}
  {e : Event Operator Reason}

/-- A committed chain is what the request's step makes of the one before it. -/
def Applies (core : Core Operator Reason) (id : PassportId) (r : Taken Operator Reason)
    (stored : Option (TransferChain Operator Reason)) (chain : TransferChain Operator Reason) :
    Prop :=
  ∃ record, r.1.step core id r.2 stored = .ok (chain, record)

structure Invariant (core : Core Operator Reason) (id : PassportId) (s : State Operator Reason) :
    Prop where
  snapshots : ∀ r ∈ s.inFlight, ReadFrom r.snapshot s.stored
  linear : Replays (Applies core id) none s.committed (s.stored.map Cell.value)

structure Committed (core : Core Operator Reason) (id : PassportId)
    (s u : State Operator Reason) (r : Taken Operator Reason)
    (chain : TransferChain Operator Reason) (record : TransferRecord Operator Reason) : Prop where
  step : r.1.step core id r.2 (s.stored.map Cell.value) = .ok (chain, record)
  stored : u.stored.map Cell.value = some chain
  committed : u.committed = s.committed ++ [(r, chain)]
  answers : u.answers = s.answers ++ [(r.1, .ok record)]

/-- What a step can do: commit one request, or leave the stored chain alone and tell no
request that it succeeded. -/
theorem next_cases (h : Invariant core id s) (hnext : s.next core id e = some u) :
    ((∃ r chain record, Committed core id s u r chain record) ∧
      ∀ r ∈ u.inFlight, ReadFrom r.snapshot u.stored) ∨
    u.stored = s.stored ∧ u.committed = s.committed ∧
      (u.answers = s.answers ∨ ∃ r error, u.answers = s.answers ++ [(r, .error error)]) ∧
      ∀ r ∈ u.inFlight, r ∈ s.inFlight ∨ r.snapshot = s.stored := by
  cases e with
  | read request passport =>
    right
    simp only [State.next] at hnext
    cases hrefusal : request.refusal passport with
    | some error =>
      simp only [hrefusal, Option.some.injEq] at hnext
      subst hnext
      exact ⟨rfl, rfl, .inr ⟨request, error, rfl⟩, fun r hr => .inl hr⟩
    | none =>
      simp only [hrefusal, Option.some.injEq] at hnext
      subst hnext
      refine ⟨rfl, rfl, .inl rfl, ?_⟩
      intro r hr
      rcases List.mem_append.mp hr with hr | hr
      · exact .inl hr
      · rw [List.mem_singleton.mp hr]
        exact .inr rfl
  | finish i env =>
    simp only [State.next] at hnext
    cases hr : s.inFlight[i]? with
    | none => simp [hr] at hnext
    | some r =>
      simp only [hr] at hnext
      have herased : ∀ r' ∈ s.inFlight.eraseIdx i, r' ∈ s.inFlight :=
        fun _ => List.mem_of_mem_eraseIdx
      cases hstep : r.request.step core id env (r.snapshot.map Cell.value) with
      | error error =>
        simp only [hstep, Option.some.injEq] at hnext
        subst hnext
        exact .inr ⟨rfl, rfl, .inr ⟨_, error, rfl⟩, fun r' hr' => .inl (herased r' hr')⟩
      | ok made =>
        obtain ⟨chain, record⟩ := made
        simp only [hstep] at hnext
        cases hwrite : writeChainOver s.stored (r.snapshot.map Cell.revision) chain with
        | error error =>
          simp only [hwrite, Option.some.injEq] at hnext
          subst hnext
          exact .inr ⟨rfl, rfl, .inr ⟨_, error, rfl⟩, fun r' hr' => .inl (herased r' hr')⟩
        | ok cell =>
          simp only [hwrite, Option.some.injEq] at hnext
          subst hnext
          have hwritten := writeChainOver_ok.mp hwrite
          have hcurrent : r.snapshot = s.stored :=
            writeOver_current (h.snapshots r (List.mem_of_getElem? hr)) hwritten
          have hvalue := (writeOver_written hwritten).2.1
          rw [hcurrent] at hstep
          refine .inl ⟨⟨(r.request, env), chain, record, hstep, ?_, rfl, rfl⟩, ?_⟩
          · exact congrArg some hvalue
          · intro r' hr'
            exact (h.snapshots r' (herased r' hr')).write hwritten
  | fail i error =>
    right
    simp only [State.next] at hnext
    cases hr : s.inFlight[i]? with
    | none => simp [hr] at hnext
    | some r =>
      simp only [hr, Option.some.injEq] at hnext
      subst hnext
      exact ⟨rfl, rfl, .inr ⟨_, error, rfl⟩, fun r' hr' => .inl (List.mem_of_mem_eraseIdx hr')⟩

theorem initial_invariant : Invariant core id State.initial where
  snapshots := by simp [State.initial]
  linear := rfl

theorem step_preserves_invariant (h : Invariant core id s) (hnext : s.next core id e = some u) :
    Invariant core id u := by
  rcases next_cases h hnext with ⟨⟨r, chain, record, hc⟩, hsnapshots⟩ |
    ⟨hstored, hcommitted, -, hsnapshots⟩
  · refine ⟨hsnapshots, ?_⟩
    rw [hc.committed, hc.stored]
    exact h.linear.concat ⟨record, hc.step⟩
  · refine ⟨?_, ?_⟩
    · intro r hr
      rw [hstored]
      rcases hsnapshots r hr with hr | hr
      · exact h.snapshots r hr
      · exact .inl hr
    · rw [hcommitted, hstored]
      exact h.linear

/-- The committed chains are one history, each made from the one before it, with at most one
pending handover; whatever a request does but commit leaves the stored chain alone. -/
theorem committed_chains_are_linear (hcore : core.Lawful) {events : List (Event Operator Reason)}
    (hrun : run (State.next core id) State.initial events = some s) :
    Replays (Applies core id) none s.committed (s.stored.map Cell.value) ∧
    (∀ c ∈ s.committed, c.2.passportId = id ∧ core.pendingIn c.2 ≤ 1) ∧
    ∀ e u, s.next core id e = some u →
      (∃ r chain record, Committed core id s u r chain record) ∨
      u.stored = s.stored ∧ u.committed = s.committed ∧
        (u.answers = s.answers ∨ ∃ r error, u.answers = s.answers ++ [(r, .error error)]) := by
  have h : Invariant core id s :=
    reachable_invariant (fun _ _ _ ht hnext => step_preserves_invariant ht hnext)
      initial_invariant hrun
  refine ⟨h.linear, ?_, ?_⟩
  · apply h.linear.forall_commits
      (P := fun chain => chain.passportId = id ∧ core.pendingIn chain ≤ 1)
    · rintro r prev chain hprev ⟨record, hstep⟩
      exact step_onePending hcore hprev hstep
    · simp
  · intro e u hnext
    rcases next_cases h hnext with ⟨hcommitted, -⟩ | ⟨hstored, hcommitted, hanswers, -⟩
    · exact .inl hcommitted
    · exact .inr ⟨hstored, hcommitted, hanswers⟩

def sampleStatus (r : TransferRecord String String) : TransferStatus :=
  if r.cancelledAt.isSome then .cancelled
  else if r.rejectedAt.isSome then .rejected
  else if r.completedAt.isSome then .completed
  else if r.nodeAcceptanceAttestation.isSome then .accepted
  else .initiated

def samplePending (r : TransferRecord String String) : Bool :=
  sampleStatus r = .initiated || sampleStatus r = .accepted

def sampleCore : Core String String where
  status := sampleStatus
  signingPayload r := .obj [("transferId", .str (PassportId.text r.transferId))]
  operatorJson := .str
  reasonJson := .str
  initiateTransfer chain r :=
    if chain.transfers.any samplePending then .error "a transfer is already pending"
    else .ok { chain with transfers := chain.transfers ++ [r] }
  complete now r :=
    if sampleStatus r = .accepted then .ok { r with completedAt := some now }
    else .error "only an accepted transfer completes"
  reject now r :=
    if sampleStatus r = .initiated then .ok { r with rejectedAt := some now }
    else .error "only an initiated transfer is rejected"
  cancel now r :=
    if samplePending r then .ok { r with cancelledAt := some now }
    else .error "a terminal transfer is not cancelled"

theorem sampleCore_lawful : sampleCore.Lawful where
  refuses chain record h := by
    obtain ⟨t, ht, hpending⟩ := h
    have hany : chain.transfers.any samplePending = true := List.any_eq_true.mpr ⟨t, ht, hpending⟩
    exact ⟨_, if_pos hany⟩
  appends chain record chain' h := by
    by_cases hany : chain.transfers.any samplePending = true
    · cases (if_pos hany).symm.trans h
    · cases (if_neg hany).symm.trans h
      rfl

def sampleEnvironment (now : Int) : Environment where
  signPassport _ _ := .ok "jws"
  verifySignature _ _ := .ok true
  now

/-- Two first initiations race; the winner's handover is accepted by one request while a
second, which read the same chain, wants to cancel it. -/
def racedTransfers : List (Event String String) :=
  [.read (.initiate 1 "did:a" "did:b" "sale" none) (.ok .published),
    .read (.initiate 2 "did:a" "did:c" "sale" none) (.ok .published),
    .finish 1 (sampleEnvironment 10), .finish 0 (sampleEnvironment 11),
    .read .accept (.ok .published), .read (.terminate .cancelled) (.ok .published),
    .finish 0 (sampleEnvironment 20), .finish 0 (sampleEnvironment 21)]

theorem raced_transfers_are_linear :
    ∃ s, run (State.next sampleCore 7) State.initial racedTransfers = some s ∧
      s.committed.length = 2 ∧ s.answers.length = 4 ∧
      Replays (Applies sampleCore 7) none s.committed (s.stored.map Cell.value) ∧
      (∀ c ∈ s.committed, c.2.passportId = 7 ∧ sampleCore.pendingIn c.2 ≤ 1) ∧
      ∀ e u, s.next sampleCore 7 e = some u →
        (∃ r chain record, Committed sampleCore 7 s u r chain record) ∨
        u.stored = s.stored ∧ u.committed = s.committed ∧
          (u.answers = s.answers ∨ ∃ r error, u.answers = s.answers ++ [(r, .error error)]) := by
  let s := (run (State.next sampleCore 7) State.initial racedTransfers).getD State.initial
  have hrun : run (State.next sampleCore 7) State.initial racedTransfers = some s := rfl
  exact ⟨s, hrun, rfl, rfl, committed_chains_are_linear sampleCore_lawful hrun⟩

end Histories

end TransferChains
