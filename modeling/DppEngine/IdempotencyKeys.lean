import DppEngine.TransitionSystems
import Mathlib.Data.List.Nodup
import Mathlib.Data.List.Perm.Basic
import Mathlib.Logic.Function.Basic

/-! Client-supplied idempotency keys: the middleware's admission of a request, the key
table's statements, and any number of keyed requests running through both.

Each statement is one atomic step; it reads the clock at the start of its transaction,
which may lie before the moment it takes effect. A claim is two statements, the upsert
and the read-back. A request may end between any two of its steps without settling. -/
namespace IdempotencyKeys

open TransitionSystems

section Routes

inductive Segment where
  | literal (text : String)
  | parameter (name : String)
  deriving DecidableEq, Repr

abbrev Template := List Segment

def Segment.accepts : Segment → String → Bool
  | .literal text, segment => text = segment
  | .parameter _, segment => segment ≠ ""

def Template.accepts : Template → List String → Bool
  | [], [] => true
  | t :: template, segment :: path => t.accepts segment && Template.accepts template path
  | _, _ => false

def Segment.render : Segment → String
  | .literal text => text
  | .parameter name => "\x7b" ++ name ++ "\x7d"

def Template.render (template : Template) : String :=
  String.join (template.map fun t => "/" ++ t.render)

structure RoutePolicy where
  redact : List String
  secretAlreadyDeliveredMarker : Bool
  deriving DecidableEq, Repr

def RoutePolicy.verbatim : RoutePolicy := ⟨[], false⟩

def RoutePolicy.secretBearing (redact : List String) : RoutePolicy := ⟨redact, true⟩

def vaultApi (rest : Template) : Template :=
  .literal "vault" :: .literal "api" :: .literal "v1" :: rest

def keyed : List (String × Template × RoutePolicy) :=
  [("POST", vaultApi [.literal "dpp"], .verbatim),
    ("POST", vaultApi [.literal "dpp", .parameter "dppId", .literal "evidence"], .verbatim),
    ("POST", vaultApi [.literal "plugins"], .verbatim),
    ("POST", vaultApi [.literal "facilities"], .verbatim),
    ("POST", vaultApi [.literal "operator-identifiers"], .verbatim),
    ("POST", vaultApi [.literal "unsold-goods"], .verbatim),
    ("POST", vaultApi [.literal "credentials"], .verbatim),
    ("POST", vaultApi [.literal "api-keys"], .secretBearing ["secret"]),
    ("POST", vaultApi [.literal "webhooks"], .secretBearing ["secret"]),
    ("POST", [.literal "integrator", .literal "api", .literal "v1", .literal "import",
      .parameter "productGroup"], .verbatim),
    ("POST", [.literal "vault", .literal "internal", .literal "scan-batch"], .verbatim)]

def policyFor (method : String) (template : Template) : Option RoutePolicy :=
  (keyed.find? fun route => route.1 = method && route.2.1 = template).map fun route => route.2.2

end Routes

section Admission

/-- A request as the router hands it on: `template` is the route it was matched to. -/
structure Request where
  principal : Option String
  method : String
  path : List String
  template : Template
  routed : template.accepts path = true
  idempotencyKey : Option (List Char)
  body : List UInt8

structure RequestKey where
  principal : String
  method : String
  path : Template
  key : List Char
  deriving DecidableEq, Repr

structure Problem where
  status : ℕ
  title : String
  detail : String
  deriving DecidableEq, Repr

inductive Admission where
  | passThrough
  | refused (problem : Problem)
  | keyed (key : RequestKey) (policy : RoutePolicy)
  deriving DecidableEq, Repr

def maxBuffer : ℕ := 9 * 1024 * 1024

def maxKeyLen : ℕ := 255

/-- `HeaderValue::to_str`: tabs and visible ASCII only. -/
def isHeaderText (c : Char) : Bool := c = '\t' || (32 ≤ c.toNat && c.toNat < 127)

def trimKey (raw : List Char) : List Char :=
  let blank (c : Char) : Bool := c = ' ' || c = '\t'
  (((raw.dropWhile blank).reverse).dropWhile blank).reverse

def readKey (raw : List Char) : Option (List Char) :=
  if raw.all isHeaderText ∧ trimKey raw ≠ [] ∧ raw.length ≤ maxKeyLen then some (trimKey raw)
  else none

/-- Everything the middleware does before it asks the store. -/
def admission (r : Request) : Admission :=
  match r.idempotencyKey with
  | none => .passThrough
  | some raw =>
    match readKey raw with
    | none => .refused ⟨400, "Malformed Idempotency Key",
        "`Idempotency-Key` must be non-empty printable ASCII of at most 255 characters."⟩
    | some key =>
      match policyFor r.method r.template with
      | none => .refused ⟨400, "Idempotency Key Not Accepted Here",
          "`" ++ r.method ++ " " ++ r.template.render ++
            "` does not accept an `Idempotency-Key`. It is idempotent by shape — repeating it" ++
            " reaches the same state — so a key would record nothing. Retry it directly."⟩
      | some policy =>
        match r.principal with
        | none => .refused ⟨400, "Idempotency Key Without A Caller",
            "`Idempotency-Key` is scoped to the authenticated caller, and this request has" ++
              " none. Authenticate, or omit the header."⟩
        | some principal =>
          if r.body.length > maxBuffer then
            .refused ⟨413, "Request Too Large To Make Idempotent",
              "The request body exceeds what can be buffered to fingerprint it. Resend without" ++
                " an `Idempotency-Key`, or send a smaller body."⟩
          else .keyed ⟨principal, r.method, r.template, key⟩ policy

structure KeyedRequest extends Request where
  key : RequestKey
  policy : RoutePolicy
  admitted : admission toRequest = .keyed key policy

theorem KeyedRequest.key_eq (r : KeyedRequest) :
    r.principal = some r.key.principal ∧ r.method = r.key.method ∧ r.template = r.key.path ∧
      r.idempotencyKey.bind readKey = some r.key.key := by
  have h := r.admitted
  unfold admission at h
  split at h
  next => cases h
  next raw hraw =>
    split at h
    next => cases h
    next key hkey =>
      split at h
      next => cases h
      next policy _ =>
        split at h
        next => cases h
        next principal hprincipal =>
          split at h
          next => cases h
          next =>
            obtain ⟨hk, -⟩ := Admission.keyed.inj h
            rw [← hk]
            exact ⟨hprincipal, rfl, rfl, by rw [hraw, Option.bind_some, hkey]⟩

end Admission

section Table

structure StoredResponse where
  status : ℕ
  body : List UInt8
  contentType : Option String
  deriving DecidableEq, Repr

abbrev ClaimToken := ℕ

inductive RowState where
  | inFlight
  | completed (response : StoredResponse)
  deriving DecidableEq, Repr

structure Row where
  fingerprint : String
  state : RowState
  leaseExpiresAt : Int
  expiresAt : Int
  claimToken : ClaimToken
  deriving DecidableEq, Repr

abbrev Rows := RequestKey → Option Row

inductive Settled where
  | applied
  | superseded
  deriving DecidableEq, Repr

inductive Claim where
  | claimed (token : ClaimToken)
  | replay (response : StoredResponse)
  | inFlight
  | fingerprintMismatch
  deriving DecidableEq, Repr

/-- How long a claim is believed, and how long a row is honoured. -/
structure Windows where
  lease : Int
  retention : Int
  deriving DecidableEq, Repr

def defaultWindows : Windows := ⟨60000000, 86400000000⟩

def Row.reclaimable (row : Row) (now : Int) : Bool :=
  row.expiresAt ≤ now || row.state = .inFlight && row.leaseExpiresAt ≤ now

/-- The upsert of `claim`, with the token minted for it; `none` when the row stands. -/
def upsert (w : Windows) (rows : Rows) (key : RequestKey) (fingerprint : String)
    (token : ClaimToken) (now : Int) : Option Rows :=
  let claim : Row := ⟨fingerprint, .inFlight, now + w.lease, now + w.retention, token⟩
  match rows key with
  | none => some (Function.update rows key (some claim))
  | some row =>
    if row.reclaimable now then some (Function.update rows key (some claim)) else none

/-- The read-back of `claim`. It does not ask again whether the row has expired. -/
def readBack (rows : Rows) (key : RequestKey) (fingerprint : String) : Claim :=
  match rows key with
  | none => .inFlight
  | some row =>
    if row.fingerprint ≠ fingerprint then .fingerprintMismatch
    else
      match row.state with
      | .inFlight => .inFlight
      | .completed response => .replay response

def Row.heldBy (row : Row) (token : ClaimToken) : Bool :=
  row.state = .inFlight && row.claimToken = token

def storedStatus (status : ℕ) : ℕ := if status ≤ 32767 then status else 500

def complete (rows : Rows) (key : RequestKey) (token : ClaimToken) (response : StoredResponse) :
    Option (Rows × Settled) :=
  match rows key with
  | none => some (rows, .superseded)
  | some row =>
    if row.heldBy token then
      let stored := { response with status := storedStatus response.status }
      if 100 ≤ stored.status ∧ stored.status ≤ 599 then
        some (Function.update rows key (some { row with state := .completed stored }), .applied)
      else none
    else some (rows, .superseded)

def release (rows : Rows) (key : RequestKey) (token : ClaimToken) : Rows × Settled :=
  match rows key with
  | none => (rows, .superseded)
  | some row =>
    if row.heldBy token then (Function.update rows key none, .applied) else (rows, .superseded)

def purgeExpired (rows : Rows) (now : Int) : Rows := fun key =>
  (rows key).filter fun row => now < row.expiresAt

end Table

section Outcomes

/-- What a claim that is neither granted nor replayed answers; a `409` carries
`retry-after: 1` besides. -/
def Claim.refusal : Claim → Option Problem
  | .inFlight => some ⟨409, "Idempotent Request In Flight",
      "An earlier attempt with this `Idempotency-Key` is still running. Retry shortly;" ++
        " do not change the body."⟩
  | .fingerprintMismatch => some ⟨422, "Idempotency Key Reuse",
      "This `Idempotency-Key` was already used for a request with a different body. A retry" ++
        " must resend byte-identical bytes — member order and whitespace count, because the" ++
        " fingerprint is over the raw body. Use a new key for a new request."⟩
  | _ => none

def StatusCode := { n : ℕ // 100 ≤ n ∧ n ≤ 999 }

def StatusCode.isServerError (s : StatusCode) : Bool := 500 ≤ s.1 && s.1 ≤ 599

structure Response where
  status : StatusCode
  contentType : Option String
  body : List UInt8

/-- SHA-256 of the body in hexadecimal, and the removal of members from a JSON body. -/
structure Codec where
  fingerprint : List UInt8 → String
  redactMembers : RoutePolicy → List UInt8 → List UInt8

def redact (codec : Codec) (policy : RoutePolicy) (bytes : List UInt8) : List UInt8 :=
  if policy.redact = [] then bytes else codec.redactMembers policy bytes

inductive Outcome where
  | release
  | record (response : StoredResponse)
  deriving DecidableEq, Repr

/-- A refusal the caller should retry, and a body too large to keep, are not recorded. -/
def outcome (codec : Codec) (policy : RoutePolicy) (r : Response) : Outcome :=
  if r.status.isServerError ∨ r.status.1 = 429 then .release
  else if r.body.length > maxBuffer then .release
  else .record ⟨r.status.1, redact codec policy r.body, r.contentType⟩

end Outcomes

section Requests

/-- One pass of a request through the middleware: what it holds after its upsert is the
lease it was granted, or nothing, in which case the read-back follows. -/
structure Attempt where
  request : KeyedRequest
  token : ClaimToken
  lease : Option Int

def Attempt.fingerprint (codec : Codec) (a : Attempt) : String := codec.fingerprint a.request.body

structure Recorded where
  attempt : Attempt
  response : StoredResponse

/-- A request answered from the table. `token` is the claim the row stood under. -/
structure Replayed where
  request : KeyedRequest
  token : ClaimToken
  response : StoredResponse

structure State where
  now : Int
  rows : Rows
  attempts : List Attempt
  minted : List ClaimToken
  recorded : List Recorded
  replayed : List Replayed

inductive Event where
  | tick (t : Int)
  | claim (request : KeyedRequest) (token : ClaimToken) (began : Int)
  | readBack (i : ℕ)
  | respond (i : ℕ) (response : Response)
  | crash (i : ℕ)
  | purge (began : Int)

variable (codec : Codec) (w : Windows)

def startClaim (s : State) (r : KeyedRequest) (token : ClaimToken) (began : Int) : State :=
  let minted := token :: s.minted
  match upsert w s.rows r.key (codec.fingerprint r.body) token began with
  | some rows =>
    { s with rows, minted, attempts := s.attempts ++ [⟨r, token, some (began + w.lease)⟩] }
  | none => { s with minted, attempts := s.attempts ++ [⟨r, token, none⟩] }

def finishClaim (s : State) (i : ℕ) (a : Attempt) : State :=
  let attempts := s.attempts.eraseIdx i
  match s.rows a.request.key, readBack s.rows a.request.key (a.fingerprint codec) with
  | some row, .replay response =>
    { s with attempts, replayed := ⟨a.request, row.claimToken, response⟩ :: s.replayed }
  | _, _ => { s with attempts }

def settle (s : State) (i : ℕ) (a : Attempt) (response : Response) : State :=
  let attempts := s.attempts.eraseIdx i
  match outcome codec a.request.policy response with
  | .release => { s with attempts, rows := (release s.rows a.request.key a.token).1 }
  | .record stored =>
    match complete s.rows a.request.key a.token stored with
    | some (rows, .applied) => { s with attempts, rows, recorded := ⟨a, stored⟩ :: s.recorded }
    | _ => { s with attempts }

def next (s : State) : Event → Option State
  | .tick t => if s.now ≤ t then some { s with now := t } else none
  | .claim r token began =>
    if token ∉ s.minted ∧ began ≤ s.now then some (startClaim codec w s r token began) else none
  | .readBack i =>
    match s.attempts[i]? with
    | some a => if a.lease = none then some (finishClaim codec s i a) else none
    | none => none
  | .respond i response =>
    match s.attempts[i]? with
    | some a => if a.lease.isSome then some (settle codec s i a response) else none
    | none => none
  | .crash i =>
    if i < s.attempts.length then some { s with attempts := s.attempts.eraseIdx i } else none
  | .purge began =>
    if began ≤ s.now then some { s with rows := purgeExpired s.rows began } else none

def initial (now : Int) : State := ⟨now, fun _ => none, [], [], [], []⟩

end Requests

section Statements

variable {codec : Codec} {w : Windows} {rows rows' : Rows} {key : RequestKey} {row : Row}
  {fingerprint : String} {token : ClaimToken} {now : Int} {stored : StoredResponse}

theorem Row.heldBy_iff :
    row.heldBy token = true ↔ row.state = .inFlight ∧ row.claimToken = token := by
  simp [Row.heldBy]

theorem upsert_some (h : upsert w rows key fingerprint token now = some rows') :
    rows' = Function.update rows key
      (some ⟨fingerprint, .inFlight, now + w.lease, now + w.retention, token⟩) ∧
    ∀ row, rows key = some row → row.reclaimable now = true := by
  unfold upsert at h
  cases hrow : rows key with
  | none => simp_all
  | some row =>
    rw [hrow] at h
    dsimp only at h
    split_ifs at h with hreclaim
    refine ⟨(Option.some.inj h).symm, ?_⟩
    rintro _ ⟨⟩
    exact hreclaim

theorem complete_applied (h : complete rows key token stored = some (rows', .applied))
    (hsize : stored.status ≤ 32767) :
    ∃ row, rows key = some row ∧ row.heldBy token = true ∧
      rows' = Function.update rows key (some { row with state := .completed stored }) := by
  unfold complete at h
  cases hrow : rows key with
  | none => simp [hrow] at h
  | some row =>
    rw [hrow] at h
    dsimp only at h
    split_ifs at h with hheld hbounds
    · refine ⟨row, rfl, hheld, ?_⟩
      simp only [Option.some.injEq, Prod.mk.injEq, and_true] at h
      rw [← h, storedStatus, if_pos hsize]
    · simp at h

/-- A token that is not the row's settles nothing. -/
theorem settle_superseded (h : ∀ row, rows key = some row → row.claimToken ≠ token) :
    complete rows key token stored = some (rows, .superseded) ∧
      release rows key token = (rows, .superseded) := by
  unfold complete release
  cases hrow : rows key with
  | none => exact ⟨rfl, rfl⟩
  | some row =>
    have hheld : row.heldBy token = false := by simp [Row.heldBy, h row hrow]
    simp [hheld]

theorem release_cases (rows : RequestKey → Option Row) (key : RequestKey) (token : ℕ) :
    (release rows key token).1 = rows ∨
    ∃ row, rows key = some row ∧ row.heldBy token = true ∧
      (release rows key token).1 = Function.update rows key none := by
  unfold release
  cases hrow : rows key with
  | none => exact .inl rfl
  | some row =>
    by_cases hheld : row.heldBy token = true
    · exact .inr ⟨row, rfl, hheld, by simp [hheld]⟩
    · exact .inl (by simp [hheld])

theorem update_some {key' : RequestKey} {written : Option Row}
    (h : Function.update rows key' written key = some row) :
    key = key' ∧ written = some row ∨ key ≠ key' ∧ rows key = some row := by
  by_cases hk : key = key'
  · subst hk
    exact .inl ⟨rfl, by rwa [Function.update_self] at h⟩
  · exact .inr ⟨hk, by rwa [Function.update_of_ne hk] at h⟩

theorem purgeExpired_some :
    purgeExpired rows now key = some row ↔ rows key = some row ∧ now < row.expiresAt := by
  simp [purgeExpired, Option.filter_eq_some_iff]

theorem readBack_replay (h : readBack rows key fingerprint = .replay stored) :
    ∃ row, rows key = some row ∧ row.fingerprint = fingerprint ∧
      row.state = .completed stored := by
  unfold readBack at h
  cases hrow : rows key with
  | none => simp [hrow] at h
  | some row =>
    rw [hrow] at h
    dsimp only at h
    split_ifs at h with hprint
    cases hstate : row.state with
    | inFlight => simp [hstate] at h
    | completed response =>
      simp only [hstate, Claim.replay.injEq] at h
      exact ⟨row, rfl, not_not.mp hprint, by rw [hstate, h]⟩

def Replayable (r : StoredResponse) : Prop :=
  ¬(500 ≤ r.status ∧ r.status ≤ 599) ∧ r.status ≠ 429

theorem outcome_record {policy : RoutePolicy} {response : Response}
    (h : outcome codec policy response = .record stored) :
    stored.status ≤ 32767 ∧ Replayable stored := by
  unfold outcome at h
  split_ifs at h with hretry hlarge
  cases h
  obtain ⟨-, hmax⟩ := response.status.2
  simp only [StatusCode.isServerError, Bool.and_eq_true, decide_eq_true_eq, not_or] at hretry
  exact ⟨Nat.le_trans hmax (by omega), hretry⟩

end Statements

section Invariants

def Attempt.Holds (s : State) (a : Attempt) : Prop := ∃ lease, a.lease = some lease ∧ s.now < lease

def State.tokens (s : State) : List ClaimToken :=
  s.attempts.map Attempt.token ++ s.recorded.map fun rec => rec.attempt.token

def Origin (codec : Codec) (recorded : List Recorded) (key : RequestKey) (fingerprint : String)
    (token : ClaimToken) (response : StoredResponse) : Prop :=
  ∃ rec ∈ recorded, rec.attempt.request.key = key ∧
    rec.attempt.fingerprint codec = fingerprint ∧ rec.attempt.token = token ∧
    rec.response = response

structure Invariant (codec : Codec) (s : State) : Prop where
  tokens : s.tokens.Nodup
  minted : ∀ t ∈ s.tokens, t ∈ s.minted
  rows : ∀ key row, s.rows key = some row →
    row.claimToken ∈ s.minted ∧ row.leaseExpiresAt ≤ row.expiresAt
  claimed : ∀ a ∈ s.attempts, ∀ row, s.rows a.request.key = some row →
    row.claimToken = a.token → row.fingerprint = a.fingerprint codec
  held : ∀ a ∈ s.attempts, ∀ lease, a.lease = some lease → s.now < lease →
    ∃ row, s.rows a.request.key = some row ∧ row.heldBy a.token = true ∧
      row.leaseExpiresAt = lease
  completed : ∀ key row response, s.rows key = some row → row.state = .completed response →
    Origin codec s.recorded key row.fingerprint row.claimToken response
  recorded : ∀ rec ∈ s.recorded, rec.attempt.lease.isSome = true ∧ Replayable rec.response
  replayed : ∀ r ∈ s.replayed,
    Origin codec s.recorded r.request.key (codec.fingerprint r.request.body) r.token r.response

variable {codec : Codec} {w : Windows} {s u : State} {a b : Attempt} {i : ℕ}

theorem initial_invariant (now : Int) : Invariant codec (initial now) := by
  constructor <;> simp [initial, State.tokens]

theorem Origin.cons {recorded : List Recorded} {rec : Recorded} {key : RequestKey}
    {fingerprint : String} {token : ClaimToken} {response : StoredResponse}
    (h : Origin codec recorded key fingerprint token response) :
    Origin codec (rec :: recorded) key fingerprint token response := by
  obtain ⟨r, hr, hfacts⟩ := h
  exact ⟨r, List.mem_cons_of_mem _ hr, hfacts⟩

theorem tokens_perm (ha : s.attempts[i]? = some a) :
    (a.token :: (s.attempts.eraseIdx i).map Attempt.token).Perm
      (s.attempts.map Attempt.token) := by
  obtain ⟨hi, rfl⟩ := List.getElem?_eq_some_iff.mp ha
  exact (List.getElem_cons_eraseIdx_perm hi).map Attempt.token

theorem Invariant.token_ne (h : Invariant codec s) (ha : s.attempts[i]? = some a)
    (hb : b ∈ s.attempts.eraseIdx i) : b.token ≠ a.token := by
  have hnodup := (tokens_perm ha).nodup_iff.mpr (List.nodup_append.mp h.tokens).1
  intro heq
  exact (List.nodup_cons.mp hnodup).1 (heq ▸ List.mem_map_of_mem hb)

/-- An attempt may end at any time without a trace in the table. -/
theorem drop_preserves_invariant (h : Invariant codec s) (i : ℕ) :
    Invariant codec { s with attempts := s.attempts.eraseIdx i } := by
  have hsub : ((s.attempts.eraseIdx i).map Attempt.token ++
      s.recorded.map fun rec => rec.attempt.token).Sublist s.tokens :=
    ((List.eraseIdx_sublist s.attempts i).map Attempt.token).append (List.Sublist.refl _)
  refine ⟨h.tokens.sublist hsub, fun t ht => h.minted t (hsub.subset ht), h.rows, ?_, ?_,
    h.completed, h.recorded, h.replayed⟩
  · exact fun a ha => h.claimed a (List.mem_of_mem_eraseIdx ha)
  · exact fun a ha => h.held a (List.mem_of_mem_eraseIdx ha)

theorem tick_preserves_invariant (h : Invariant codec s) {t : Int} (ht : s.now ≤ t) :
    Invariant codec { s with now := t } :=
  ⟨h.tokens, h.minted, h.rows, h.claimed,
    fun a ha lease hl hlt => h.held a ha lease hl (Int.lt_of_le_of_lt ht hlt),
    h.completed, h.recorded, h.replayed⟩

/-- A row whose lease still runs is not there to be swept. -/
theorem purge_preserves_invariant (h : Invariant codec s) {began : Int} (hb : began ≤ s.now) :
    Invariant codec { s with rows := purgeExpired s.rows began } := by
  have hkept : ∀ key row, purgeExpired s.rows began key = some row → s.rows key = some row :=
    fun key row hrow => (purgeExpired_some.mp hrow).1
  refine ⟨h.tokens, h.minted, fun key row hrow => h.rows key row (hkept key row hrow),
    fun a ha row hrow => h.claimed a ha row (hkept _ row hrow), ?_,
    fun key row response hrow => h.completed key row response (hkept key row hrow),
    h.recorded, h.replayed⟩
  intro a ha lease hl hlt
  obtain ⟨row, hrow, hheld, hlease⟩ := h.held a ha lease hl hlt
  have hwindow := (h.rows _ row hrow).2
  refine ⟨row, purgeExpired_some.mpr ⟨hrow, ?_⟩, hheld, hlease⟩
  dsimp only at hlt
  omega

theorem Invariant.tokens_concat (h : Invariant codec s) {x : Attempt}
    (hfresh : x.token ∉ s.minted) :
    ((s.attempts ++ [x]).map Attempt.token ++
        s.recorded.map fun rec => rec.attempt.token).Nodup ∧
      ∀ t ∈ (s.attempts ++ [x]).map Attempt.token ++
        s.recorded.map fun rec => rec.attempt.token, t ∈ x.token :: s.minted := by
  have hperm : ((s.attempts ++ [x]).map Attempt.token ++
      s.recorded.map fun rec => rec.attempt.token).Perm (x.token :: s.tokens) := by
    simp only [List.map_append, List.map_cons, List.map_nil, List.append_assoc,
      List.singleton_append, State.tokens]
    exact List.perm_middle
  constructor
  · exact hperm.nodup_iff.mpr (List.nodup_cons.mpr ⟨fun ht => hfresh (h.minted _ ht), h.tokens⟩)
  · intro t ht
    rcases List.mem_cons.mp (hperm.mem_iff.mp ht) with rfl | ht
    · exact List.mem_cons_self
    · exact List.mem_cons_of_mem _ (h.minted t ht)

/-- The upsert finds a row it may not take: the attempt goes on without a lease. -/
theorem Invariant.unclaimed (h : Invariant codec s) {x : Attempt} (hfresh : x.token ∉ s.minted)
    (hlease : x.lease = none) :
    Invariant codec { s with attempts := s.attempts ++ [x], minted := x.token :: s.minted } := by
  obtain ⟨hnodup, hminted⟩ := h.tokens_concat hfresh
  refine ⟨hnodup, hminted,
    fun key row hkey => ⟨List.mem_cons_of_mem _ (h.rows key row hkey).1, (h.rows key row hkey).2⟩,
    ?_, ?_, h.completed, h.recorded, h.replayed⟩
  · intro a ha row hkey heq
    rcases List.mem_append.mp ha with ha | ha
    · exact h.claimed a ha row hkey heq
    · obtain rfl := List.mem_singleton.mp ha
      exact absurd (heq ▸ (h.rows _ row hkey).1) hfresh
  · intro a ha lease hl hlt
    rcases List.mem_append.mp ha with ha | ha
    · exact h.held a ha lease hl hlt
    · obtain rfl := List.mem_singleton.mp ha
      cases hlease.symm.trans hl

/-- The upsert takes only a row no running lease stands on, and writes a token that no
attempt has. -/
theorem claim_preserves_invariant (hw : w.lease ≤ w.retention) (h : Invariant codec s)
    {r : KeyedRequest} {token : ClaimToken} {began : Int} (hfresh : token ∉ s.minted)
    (hb : began ≤ s.now) : Invariant codec (startClaim codec w s r token began) := by
  have hne : ∀ a ∈ s.attempts, a.token ≠ token := fun a ha heq =>
    hfresh (heq ▸ h.minted _ (List.mem_append_left _ (List.mem_map_of_mem ha)))
  unfold startClaim
  dsimp only
  cases hup : upsert w s.rows r.key (codec.fingerprint r.body) token began with
  | none => exact h.unclaimed (x := ⟨r, token, none⟩) hfresh rfl
  | some rows =>
    obtain ⟨rfl, hreclaim⟩ := upsert_some hup
    obtain ⟨hnodup, hminted⟩ :=
      h.tokens_concat (x := ⟨r, token, some (began + w.lease)⟩) hfresh
    refine ⟨hnodup, hminted, ?_, ?_, ?_, ?_, h.recorded, h.replayed⟩
    · intro key row hkey
      rcases update_some hkey with ⟨-, hwritten⟩ | ⟨-, hkey⟩
      · cases hwritten
        exact ⟨List.mem_cons_self, by dsimp only; omega⟩
      · exact ⟨List.mem_cons_of_mem _ (h.rows key row hkey).1, (h.rows key row hkey).2⟩
    · intro a ha row hkey heq
      rcases List.mem_append.mp ha with ha | ha
      · rcases update_some hkey with ⟨-, hwritten⟩ | ⟨-, hkey⟩
        · cases hwritten
          exact absurd heq.symm (hne a ha)
        · exact h.claimed a ha row hkey heq
      · obtain rfl := List.mem_singleton.mp ha
        rcases update_some hkey with ⟨-, hwritten⟩ | ⟨hk, -⟩
        · cases hwritten
          rfl
        · exact absurd rfl hk
    · intro a ha lease hl hlt
      rcases List.mem_append.mp ha with ha | ha
      · obtain ⟨row, hkey, hheld, hlease⟩ := h.held a ha lease hl hlt
        by_cases hk : a.request.key = r.key
        · -- the row under a running lease could not have been claimed again
          rw [hk] at hkey
          have hold := hreclaim row hkey
          have hwindow := (h.rows _ row hkey).2
          simp only [Row.reclaimable, Bool.or_eq_true, decide_eq_true_eq, Bool.and_eq_true] at hold
          dsimp only at hlt
          omega
        · exact ⟨row, (Function.update_of_ne hk ..).trans hkey, hheld, hlease⟩
      · obtain rfl := List.mem_singleton.mp ha
        cases hl
        exact ⟨_, Function.update_self .., by simp [Row.heldBy], rfl⟩
    · intro key row response hkey hstate
      rcases update_some hkey with ⟨-, hwritten⟩ | ⟨-, hkey⟩
      · cases hwritten
        cases hstate
      · exact h.completed key row response hkey hstate

theorem readBack_preserves_invariant (h : Invariant codec s) (a : Attempt) (i : ℕ) :
    Invariant codec (finishClaim codec s i a) := by
  have hdrop := drop_preserves_invariant h i
  unfold finishClaim
  dsimp only
  split
  next row response hrow hread =>
    obtain ⟨row', hrow', hprint, hstate⟩ := readBack_replay hread
    cases hrow.symm.trans hrow'
    refine ⟨hdrop.tokens, hdrop.minted, hdrop.rows, hdrop.claimed, hdrop.held, hdrop.completed,
      hdrop.recorded, ?_⟩
    intro r hr
    rcases List.mem_cons.mp hr with rfl | hr
    · have horigin := h.completed _ row response hrow hstate
      rw [hprint] at horigin
      exact horigin
    · exact h.replayed r hr
  next => exact hdrop

/-- Whoever still holds a lease does not stand on the row that is settled. -/
theorem Invariant.held_frame (h : Invariant codec s) (ha : s.attempts[i]? = some a) {row : Row}
    (hrow : s.rows a.request.key = some row) (hheld : row.heldBy a.token = true)
    {written : Option Row} (hb : b ∈ s.attempts.eraseIdx i) {lease : Int}
    (hlease : b.lease = some lease) (hlt : s.now < lease) :
    ∃ row', Function.update s.rows a.request.key written b.request.key = some row' ∧
      row'.heldBy b.token = true ∧ row'.leaseExpiresAt = lease := by
  obtain ⟨row', hrow', hheld', hexpires⟩ :=
    h.held b (List.mem_of_mem_eraseIdx hb) lease hlease hlt
  have hk : b.request.key ≠ a.request.key := by
    intro hk
    rw [hk] at hrow'
    cases hrow.symm.trans hrow'
    have htoken := (Row.heldBy_iff.mp hheld).2
    have htoken' := (Row.heldBy_iff.mp hheld').2
    exact h.token_ne ha hb (htoken'.symm.trans htoken)
  exact ⟨row', (Function.update_of_ne hk ..).trans hrow', hheld', hexpires⟩

theorem release_preserves_invariant (h : Invariant codec s) (ha : s.attempts[i]? = some a) :
    Invariant codec { s with
      attempts := s.attempts.eraseIdx i
      rows := (release s.rows a.request.key a.token).1 } := by
  have hdrop := drop_preserves_invariant h i
  rcases release_cases s.rows a.request.key a.token with
    hsame | ⟨row, hrow, hheld, hgone⟩
  · rw [hsame]
    exact hdrop
  · rw [hgone]
    have hkept : ∀ key row', Function.update s.rows a.request.key none key = some row' →
        s.rows key = some row' := by
      intro key row' hrow'
      rcases update_some hrow' with ⟨-, hwritten⟩ | ⟨-, hrow'⟩
      · cases hwritten
      · exact hrow'
    exact ⟨hdrop.tokens, hdrop.minted, fun key row' hr => h.rows key row' (hkept key row' hr),
      fun b hb row' hr => hdrop.claimed b hb row' (hkept _ row' hr),
      fun b hb lease hlb hlt => h.held_frame ha hrow hheld hb hlb hlt,
      fun key row' resp hr => h.completed key row' resp (hkept key row' hr), h.recorded,
      h.replayed⟩

/-- The row of a claim that is completed is no other attempt's. -/
theorem record_preserves_invariant (h : Invariant codec s) (ha : s.attempts[i]? = some a)
    (hl : a.lease.isSome = true) {row : Row} {stored : StoredResponse}
    (hrow : s.rows a.request.key = some row) (hheld : row.heldBy a.token = true)
    (hreplayable : Replayable stored) :
    Invariant codec { s with
      attempts := s.attempts.eraseIdx i
      rows := Function.update s.rows a.request.key
        (some { row with state := .completed stored })
      recorded := ⟨a, stored⟩ :: s.recorded } := by
  have hdrop := drop_preserves_invariant h i
  have htoken := (Row.heldBy_iff.mp hheld).2
  have hmem := List.mem_of_getElem? ha
  have hperm : ((s.attempts.eraseIdx i).map Attempt.token ++
      ((⟨a, stored⟩ : Recorded) :: s.recorded).map fun rec => rec.attempt.token).Perm
      s.tokens :=
    List.perm_middle.trans ((tokens_perm ha).append_right _)
  refine ⟨hperm.nodup_iff.mpr h.tokens, fun t ht => h.minted t (hperm.mem_iff.mp ht), ?_, ?_,
    fun b hb lease hlb hlt => h.held_frame ha hrow hheld hb hlb hlt, ?_, ?_,
    fun r hr => (h.replayed r hr).cons⟩
  · intro key row' hr
    rcases update_some hr with ⟨rfl, hwritten⟩ | ⟨-, hr⟩
    · cases hwritten
      exact h.rows _ row hrow
    · exact h.rows key row' hr
  · intro b hb row' hr heq
    rcases update_some hr with ⟨-, hwritten⟩ | ⟨-, hr⟩
    · cases hwritten
      exact absurd (heq.symm.trans htoken) (h.token_ne ha hb)
    · exact hdrop.claimed b hb row' hr heq
  · intro key row' resp hr hstate
    rcases update_some hr with ⟨rfl, hwritten⟩ | ⟨-, hr⟩
    · cases hwritten
      cases hstate
      exact ⟨⟨a, stored⟩, List.mem_cons_self, rfl, (h.claimed a hmem row hrow htoken).symm,
        htoken.symm, rfl⟩
    · exact (h.completed key row' resp hr hstate).cons
  · intro rec hrec
    rcases List.mem_cons.mp hrec with rfl | hrec
    · exact ⟨hl, hreplayable⟩
    · exact h.recorded rec hrec

theorem settle_preserves_invariant (h : Invariant codec s) (ha : s.attempts[i]? = some a)
    (hl : a.lease.isSome = true) (response : Response) :
    Invariant codec (settle codec s i a response) := by
  unfold settle
  dsimp only
  cases hout : outcome codec a.request.policy response with
  | release => exact release_preserves_invariant h ha
  | record stored =>
    obtain ⟨hsize, hreplayable⟩ := outcome_record hout
    dsimp only
    split
    next rows hcomplete =>
      obtain ⟨row, hrow, hheld, rfl⟩ := complete_applied hcomplete hsize
      exact record_preserves_invariant h ha hl hrow hheld hreplayable
    next => exact drop_preserves_invariant h i

theorem step_preserves_invariant (hw : w.lease ≤ w.retention) (h : Invariant codec s) {e : Event}
    (hstep : next codec w s e = some u) : Invariant codec u := by
  cases e with
  | tick t =>
    simp only [next] at hstep
    split_ifs at hstep with ht
    cases hstep
    exact tick_preserves_invariant h ht
  | claim r token began =>
    simp only [next] at hstep
    split_ifs at hstep with hc
    cases hstep
    exact claim_preserves_invariant hw h hc.1 hc.2
  | readBack i =>
    simp only [next] at hstep
    split at hstep
    next a ha =>
      split_ifs at hstep
      cases hstep
      exact readBack_preserves_invariant h a i
    next => cases hstep
  | respond i response =>
    simp only [next] at hstep
    split at hstep
    next a ha =>
      split_ifs at hstep with hl
      cases hstep
      exact settle_preserves_invariant h ha hl response
    next => cases hstep
  | crash i =>
    simp only [next] at hstep
    split_ifs at hstep
    cases hstep
    exact drop_preserves_invariant h i
  | purge began =>
    simp only [next] at hstep
    split_ifs at hstep with hb
    cases hstep
    exact purge_preserves_invariant h hb

theorem run_preserves_invariant (hw : w.lease ≤ w.retention) {now : Int} {es : List Event}
    (hrun : run (next codec w) (initial now) es = some u) : Invariant codec u :=
  reachable_invariant (fun _ _ _ hi hstep => step_preserves_invariant hw hi hstep)
    (initial_invariant now) hrun

/-- Two claims of one key are never both under a running lease, a late settlement changes
nothing, and a replay is an outcome recorded for the same key and body, never a `5xx` or
a `429`. -/
theorem claims_exclusive_and_outcomes_uncrossed (hw : w.lease ≤ w.retention) {now : Int}
    {es : List Event} (hrun : run (next codec w) (initial now) es = some u) :
    (∀ a ∈ u.attempts, ∀ b ∈ u.attempts, a.request.key = b.request.key →
      a.Holds u → b.Holds u → a.token = b.token) ∧
    (∀ key token, (∀ row, u.rows key = some row → row.claimToken ≠ token) → ∀ response,
      complete u.rows key token response = some (u.rows, .superseded) ∧
        release u.rows key token = (u.rows, .superseded)) ∧
    (∀ r ∈ u.replayed, ∃ rec ∈ u.recorded, rec.attempt.lease.isSome = true ∧
      rec.attempt.request.key = r.request.key ∧
      rec.attempt.fingerprint codec = codec.fingerprint r.request.body ∧
      rec.response = r.response) ∧
    ∀ r ∈ u.replayed, Replayable r.response := by
  have h := run_preserves_invariant hw hrun
  refine ⟨?_, fun key token hrow response => settle_superseded hrow, ?_, ?_⟩
  · rintro a ha b hb hkey ⟨la, hla, hlta⟩ ⟨lb, hlb, hltb⟩
    obtain ⟨row, hrow, hheld, -⟩ := h.held a ha la hla hlta
    obtain ⟨row', hrow', hheld', -⟩ := h.held b hb lb hlb hltb
    rw [hkey] at hrow
    cases hrow.symm.trans hrow'
    exact (Row.heldBy_iff.mp hheld).2.symm.trans (Row.heldBy_iff.mp hheld').2
  · intro r hr
    obtain ⟨rec, hrec, hkey, hprint, -, hresponse⟩ := h.replayed r hr
    exact ⟨rec, hrec, (h.recorded rec hrec).1, hkey, hprint, hresponse⟩
  · intro r hr
    obtain ⟨rec, hrec, -, -, -, hresponse⟩ := h.replayed r hr
    rw [← hresponse]
    exact (h.recorded rec hrec).2

end Invariants

section Samples

def plainFingerprint (body : List UInt8) : String :=
  String.ofList (body.map fun b => Char.ofNat b.toNat)

def sampleCodec : Codec := ⟨plainFingerprint, fun _ bytes => bytes⟩

def evidenceRequest (dppId : String) (hid : dppId ≠ "") : KeyedRequest where
  principal := some "operator"
  method := "POST"
  path := ["vault", "api", "v1", "dpp", dppId, "evidence"]
  template := vaultApi [.literal "dpp", .parameter "dppId", .literal "evidence"]
  routed := by simp [Template.accepts, Segment.accepts, vaultApi, hid]
  idempotencyKey := some ['r', 'e', 't', 'r', 'y', '-', '1']
  body := []
  key := ⟨"operator", "POST", vaultApi [.literal "dpp", .parameter "dppId", .literal "evidence"],
    ['r', 'e', 't', 'r', 'y', '-', '1']⟩
  policy := .verbatim
  admitted := rfl

def firstPassport : KeyedRequest := evidenceRequest "0197f3a2-0001" (by decide)

def secondPassport : KeyedRequest := evidenceRequest "0197f3a2-0002" (by decide)

def created (body : List UInt8) : Response := ⟨⟨201, by decide⟩, some "application/json", body⟩

/-- Evidence is generated for one passport, and `again` is sent under the same key. -/
def sentAgain (again : KeyedRequest) : List Event :=
  [.claim firstPassport 1 0, .respond 0 (created [65]), .claim again 2 0, .readBack 0]

theorem retried_request_is_replayed :
    ∃ u, run (next sampleCodec defaultWindows) (initial 0) (sentAgain firstPassport) = some u ∧
      u.replayed ≠ [] ∧ ∀ r ∈ u.replayed, Replayable r.response := by
  have hrun : run (next sampleCodec defaultWindows) (initial 0) (sentAgain firstPassport) =
    some _ := rfl
  exact ⟨_, hrun, List.cons_ne_nil _ _,
    (claims_exclusive_and_outcomes_uncrossed (by decide) hrun).2.2.2⟩

theorem plainFingerprint_injective : Function.Injective plainFingerprint := by
  intro a b h
  have hlists := String.ofList_injective h
  have hbyte : Function.Injective fun b : UInt8 => Char.ofNat b.toNat := by
    intro x y hxy
    have hchar : ∀ z : UInt8, (Char.ofNat z.toNat).toNat = z.toNat := by
      intro z
      have hz : z.toNat.isValidChar := Or.inl (Nat.lt_trans z.toNat_lt (by decide))
      rw [Char.ofNat, dif_pos hz]
      rfl
    have hcode := congrArg Char.toNat hxy
    simp only [hchar] at hcode
    exact UInt8.toNat_inj.mp hcode
  exact List.map_injective_iff.mpr hbyte hlists

end Samples

section SameOperation

variable {codec : Codec} {u : State} {now : Int} {es : List Event}

/-- What a replayed request shares with the request whose response it gets. The path
parameters are not part of it: a key is scoped to the route template. -/
structure SameOperation (r q : Request) : Prop where
  principal : r.principal = q.principal
  method : r.method = q.method
  template : r.template = q.template
  key : r.idempotencyKey.bind readKey = q.idempotencyKey.bind readKey
  body : r.body = q.body

/-- A replayed response was recorded once, by a request for the same operation. -/
theorem replay_answers_same_operation (hdigest : Function.Injective codec.fingerprint)
    (hrun : run (next codec defaultWindows) (initial now) es = some u) :
    ∀ r ∈ u.replayed, (∃ rec ∈ u.recorded, rec.attempt.token = r.token) ∧
      ∀ rec ∈ u.recorded, rec.attempt.token = r.token →
        rec.response = r.response ∧
          SameOperation rec.attempt.request.toRequest r.request.toRequest := by
  have h := run_preserves_invariant (by decide) hrun
  intro r hr
  obtain ⟨origin, horigin, hkey, hprint, htoken, hresponse⟩ := h.replayed r hr
  refine ⟨⟨origin, horigin, htoken⟩, ?_⟩
  intro rec hrec hrt
  have hnodup := (List.nodup_append.mp h.tokens).2.1
  obtain rfl := List.inj_on_of_nodup_map hnodup hrec horigin (hrt.trans htoken.symm)
  obtain ⟨hprincipal, hmethod, htemplate, htext⟩ := rec.attempt.request.key_eq
  obtain ⟨hprincipal', hmethod', htemplate', htext'⟩ := r.request.key_eq
  rw [← hkey] at hprincipal' hmethod' htemplate' htext'
  exact ⟨hresponse, hprincipal.trans hprincipal'.symm, hmethod.trans hmethod'.symm,
    htemplate.trans htemplate'.symm, htext.trans htext'.symm, hdigest hprint⟩

theorem retried_request_is_the_same_operation :
    ∃ u, run (next sampleCodec defaultWindows) (initial 0) (sentAgain firstPassport) = some u ∧
      u.replayed ≠ [] ∧ ∀ r ∈ u.replayed, ∃ rec ∈ u.recorded, rec.attempt.token = r.token := by
  have hrun : run (next sampleCodec defaultWindows) (initial 0) (sentAgain firstPassport) =
    some _ := rfl
  exact ⟨_, hrun, List.cons_ne_nil _ _, fun r hr =>
    (replay_answers_same_operation plainFingerprint_injective hrun r hr).1⟩

/-- The second passport's request is answered with the evidence of the first. -/
theorem replay_crosses_passports :
    Function.Injective sampleCodec.fingerprint ∧
    ∃ u, run (next sampleCodec defaultWindows) (initial 0) (sentAgain secondPassport) = some u ∧
      ∃ rec ∈ u.recorded, ∃ r ∈ u.replayed, rec.attempt.token = r.token ∧
        rec.response = r.response ∧ rec.attempt.request.path ≠ r.request.path :=
  ⟨plainFingerprint_injective, _, rfl, ⟨_, _⟩, List.mem_cons_self, ⟨_, _, _⟩,
    List.mem_cons_self, rfl, rfl, by decide⟩

end SameOperation

end IdempotencyKeys
