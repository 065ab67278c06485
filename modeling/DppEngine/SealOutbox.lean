import DppEngine.SnapshotDrain

/-! The seal outbox of one passport: publishes sign and enqueue, the sweep and the
repair route re-queue, and drain passes buy a seal for each due row and store it.

The digest function and the inspector of envelopes are parameters. Any number of drain
passes run side by side, each over the due rows in any order; what the provider
answers, and whether the answer can be recorded, is part of the event. Renewals of an
archive timestamp keep the digest a seal covers and are left out. -/
namespace SealOutbox

open JsonValues PassportModel StateChangeLog PassportRequests TransitionSystems

inductive SealReading where
  | unreadable
  | broken
  | covers (digest : String)
  deriving DecidableEq, Repr

structure Sealing where
  digestForJws : String → String
  /-- What the bytes of an envelope say, its own signature checked first. -/
  inspect : Doc → SealReading

inductive SealBinding where
  | unknown
  | notIntact
  | coversThisSignature
  | coversAnotherDigest (covered : String)
  deriving DecidableEq, Repr

def eqIgnoreAsciiCase (a b : String) : Bool :=
  a.toList.map Char.toLower = b.toList.map Char.toLower

section Binding

variable (sl : Sealing)

def binding (envelope : Doc) (payloadHash : String) : SealBinding :=
  match sl.inspect envelope with
  | .unreadable => .unknown
  | .broken => .notIntact
  | .covers covered =>
    if eqIgnoreAsciiCase covered payloadHash then .coversThisSignature
    else .coversAnotherDigest covered

/-- What cannot be checked is not refused. -/
def coversSomethingElse (envelope : Doc) (requested : String) : Option String :=
  match binding sl envelope requested with
  | .coversThisSignature => none
  | .unknown => none
  | .coversAnotherDigest covered => some ("it covers " ++ covered)
  | .notIntact => some "its signature does not verify"

def envelopeOf (doc : Doc) : Option Doc := (sealOf doc).bind Json.asMembers

def covering (doc : Doc) : Bool :=
  match jwsOf doc, envelopeOf doc with
  | some jws, some envelope => binding sl envelope (sl.digestForJws jws) = .coversThisSignature
  | _, _ => false

end Binding

inductive OutboxStatus where
  | pending
  | sealed
  | exhausted
  deriving DecidableEq, Repr

/-- A row of `seal_outbox`. Rows are never deleted, and a row's place is its id. -/
structure OutboxRow where
  payloadHash : String
  status : OutboxStatus
  attempts : ℕ
  nextAttemptAt : Int
  lastAttemptAt : Option Int
  message : Option String
  sealedAt : Option Int
  deriving DecidableEq, Repr

/-- Only an exhausted row is re-armed. -/
def enqueue (now : Int) (payloadHash : String) (rows : List OutboxRow) : List OutboxRow :=
  if rows.any (·.payloadHash = payloadHash) then
    rows.map fun row =>
      if row.payloadHash = payloadHash ∧ row.status = .exhausted then
        { row with status := .pending, attempts := 0, nextAttemptAt := now, message := none }
      else row
  else rows ++ [⟨payloadHash, .pending, 0, now, none, none, none⟩]

def rearmSealed (now : Int) (payloadHash reason : String) (rows : List OutboxRow) :
    List OutboxRow :=
  rows.map fun row =>
    if row.payloadHash = payloadHash ∧ row.status = .sealed then
      { row with status := .pending, attempts := 0, nextAttemptAt := now, message := some reason }
    else row

/-- The digest of the row sealed last, the later row where two were sealed at once. -/
def sealedDigest (rows : List OutboxRow) : Option String :=
  ((rows.filter (·.status = .sealed)).foldl (fun newest row =>
    if newest.all fun n => n.sealedAt.getD 0 ≤ row.sealedAt.getD 0 then some row else newest)
    (none : Option OutboxRow)).map (·.payloadHash)

/-- `enqueue_unsealed` on this passport: signed, without any seal, not already queued
and not freshly given up on. -/
def unsealed (now cooldown : Int) (row : Row) (rows : List OutboxRow) : Option String :=
  if row.publishedAt.isSome ∧ row.doc.get "seal" = none ∧
      ¬ (rows.any fun q => q.status = .pending) ∧
      ¬ (rows.any fun r => r.status = .exhausted && r.lastAttemptAt.any (now - cooldown < ·)) then
    jwsOf row.doc
  else none

def markRowSealed (now : Int) (row : OutboxRow) : OutboxRow :=
  { row with status := .sealed, sealedAt := some now, lastAttemptAt := some now,
             attempts := row.attempts + 1, message := none }

/-- `jitter` is in thousandths, between 750 and 1250. -/
def markAttemptFailed (now : Int) (jitter : ℕ) (message : String) (row : OutboxRow) : OutboxRow :=
  { row with
    attempts := row.attempts + 1
    message := some message
    lastAttemptAt := some now
    nextAttemptAt := now + SnapshotDrain.backoffSeconds row.attempts * jitter * 1000000 }

def markExhausted (now : Int) (message : String) (row : OutboxRow) : OutboxRow :=
  { row with status := .exhausted, message := some message, lastAttemptAt := some now,
             attempts := row.attempts + 1 }

def maxAttempts : ℕ := 8

def backOffOrExhaust (now : Int) (jitter attempts : ℕ) (reason : String) (row : OutboxRow) :
    OutboxRow :=
  if attempts + 1 ≥ maxAttempts then markExhausted now ("max attempts reached: " ++ reason) row
  else markAttemptFailed now jitter reason row

structure SealRow where
  id : ℕ
  payloadHash : String
  attempts : ℕ
  deriving DecidableEq, Repr

inductive Repair where
  | checked (payloadHash : String)
  | lookedUp (payloadHash : String) (alreadySealed : Bool)
  deriving DecidableEq, Repr

structure State where
  requests : PassportRequests.State
  outbox : List OutboxRow
  /-- The digests a publish or the sweep is about to enqueue. -/
  owed : List String
  repairs : List Repair
  /-- The rows each drain pass has still to seal. -/
  passes : List (List SealRow)
  /-- The database clock. -/
  clock : Int
  deriving DecidableEq, Repr

inductive Event where
  | request (e : PassportRequests.Event)
  | tick (t : Int)
  | sweep (cooldown : Int)
  | enqueue (i : ℕ)
  | lose (i : ℕ)
  | repair
  | lookUp (i : ℕ)
  | requeue (i : ℕ) (userId : String)
  | due (ids : List ℕ)
  /-- What the provider answers for the next row of a pass, and the error its
  recording meets, if any. -/
  | drain (pass : ℕ) (answer : Except String Doc) (recording : Option String) (jitter : ℕ)
  | abandon (pass : ℕ)
  deriving Repr

def published (sv : Services) (s : PassportRequests.State) :
    PassportRequests.Event → Option Passport
  | .commit i began =>
    match s.inFlight[i]? with
    | none => none
    | some r =>
      match commit sv.readContent sv.isProtectedPatchField sv.contentHash s.store s.now began
          r.change with
      | .ok _ => r.replacement
      | .error _ => none
  | _ => none

def dueRow (s : State) (id : ℕ) : Option SealRow :=
  match s.outbox[id]? with
  | none => none
  | some row =>
    if row.status = .pending ∧ row.nextAttemptAt ≤ s.clock then
      some ⟨id, row.payloadHash, row.attempts⟩
    else none

section Steps

variable (sv : Services) (sl : Sealing)

/-- The digest a repair asks a new seal for: the stored seal is there and broken. -/
def repairDigest (row : Row) : Option String :=
  match envelopeOf row.doc, jwsOf row.doc with
  | some envelope, some jws =>
    if binding sl envelope (sl.digestForJws jws) = .notIntact then some (sl.digestForJws jws)
    else none
  | _, _ => none

def setSeal (now : Int) (row : Row) (envelope : Doc) : Row :=
  { row with doc := row.doc.insert "seal" (.obj envelope), updatedAt := now }

/-- The passport is found through the row's id alone. -/
def markSealed (s : State) (id : ℕ) (envelope : Doc) (recording : Option String) :
    Except String State :=
  match recording, s.requests.store.row with
  | some e, _ => .error e
  | none, none => .error "seal_outbox row has no passport to seal"
  | none, some row =>
    match passportRetentionGuard row (setSeal s.clock row envelope).doc with
    | .error _ => .error "retention-locked passport content is immutable"
    | .ok () => .ok { s with
        requests := { s.requests with
          store := { s.requests.store with row := some (setSeal s.clock row envelope) } }
        outbox := s.outbox.modify id (markRowSealed s.clock) }

def drainFailed (s : State) (row : SealRow) (jitter : ℕ) (reason : String) : State :=
  { s with outbox := s.outbox.modify row.id (backOffOrExhaust s.clock jitter row.attempts reason) }

def drainRow (s : State) (row : SealRow) (answer : Except String Doc) (recording : Option String)
    (jitter : ℕ) : State :=
  match answer with
  | .error e => drainFailed s row jitter e
  | .ok envelope =>
    match coversSomethingElse sl envelope row.payloadHash with
    | some why => drainFailed s row jitter ("seal does not cover the requested digest: " ++ why)
    | none =>
      match markSealed s row.id envelope recording with
      | .ok u => u
      | .error e => drainFailed s row jitter ("seal recorded failed: " ++ e)

def next (s : State) : Event → Option State
  | .request e =>
    if SnapshotDrain.startedBy s.clock e then
      (PassportRequests.next sv s.requests e).map fun requests =>
        { s with
          requests
          owed := s.owed ++ (((published sv s.requests e).bind (·.jwsSignature)).map
            sl.digestForJws).toList }
    else none
  | .tick t => if s.clock ≤ t then some { s with clock := t } else none
  | .sweep cooldown =>
    match s.requests.store.row with
    | none => none
    | some row => some { s with
        owed := s.owed ++ ((unsealed s.clock cooldown row s.outbox).map sl.digestForJws).toList }
  | .enqueue i =>
    match s.owed[i]? with
    | none => none
    | some hash =>
      some { s with outbox := enqueue s.clock hash s.outbox, owed := s.owed.eraseIdx i }
  | .lose i => some { s with owed := s.owed.eraseIdx i }
  | .repair =>
    match s.requests.store.row.bind (repairDigest sl) with
    | none => none
    | some hash => some { s with repairs := s.repairs ++ [.checked hash] }
  | .lookUp i =>
    match s.repairs[i]? with
    | some (.checked hash) =>
      some { s with
        repairs := s.repairs.set i (.lookedUp hash (sealedDigest s.outbox = some hash)) }
    | _ => none
  | .requeue i userId =>
    match s.repairs[i]? with
    | some (.lookedUp hash true) => some { s with
        outbox := rearmSealed s.clock hash
          ("repaired by " ++ userId ++ ": stored seal did not verify") s.outbox
        repairs := s.repairs.eraseIdx i }
    | some (.lookedUp hash false) =>
      some { s with outbox := enqueue s.clock hash s.outbox, repairs := s.repairs.eraseIdx i }
    | _ => none
  | .due ids =>
    if ids.Nodup ∧ ids.all fun id => (dueRow s id).isSome then
      some { s with passes := s.passes ++ [ids.filterMap (dueRow s)] }
    else none
  | .drain pass answer recording jitter =>
    match s.passes[pass]? with
    | some (row :: rest) =>
      some { drainRow sl s row answer recording jitter with passes := s.passes.set pass rest }
    | _ => none
  | .abandon pass => some { s with passes := s.passes.eraseIdx pass }

end Steps

def initial (d : Draft) (now clock : Int) : State :=
  ⟨PassportRequests.initial d now, [], [], [], [], clock⟩

/-- The stored seal covers the digest of the current signature. -/
def Covered (sl : Sealing) (s : State) : Prop :=
  ∃ row ∈ s.requests.store.row, covering sl row.doc = true

def signsAgain (sv : Services) (s : State) : Event → Bool
  | .request e => (published sv s.requests e).isSome
  | _ => false

def KeepsCovering (sv : Services) (sl : Sealing) (s : State) (e : Event) : Prop :=
  Covered sl s → signsAgain sv s e = false → ∀ u ∈ next sv sl s e, Covered sl u

/-- A pass that stores a seal over a covering one can read the new seal, and bought it
for the digest of the current signature. -/
def SealsCurrent (sl : Sealing) (s : State) : Event → Prop
  | .drain pass (.ok envelope) none _ => Covered sl s →
      ∀ r ∈ s.passes[pass]?.bind List.head?, coversSomethingElse sl envelope r.payloadHash = none →
        ∀ row ∈ s.requests.store.row, sl.inspect envelope ≠ .unreadable ∧
          ∃ jws ∈ jwsOf row.doc, eqIgnoreAsciiCase r.payloadHash (sl.digestForJws jws) = true
  | _ => True

section BindingFacts

variable {sl : Sealing} {row : Row} {doc doc' envelope : Doc} {hash digest : String} {now : Int}

theorem covering_congr (hjws : jwsOf doc' = jwsOf doc) (hseal : sealOf doc' = sealOf doc) :
    covering sl doc' = covering sl doc := by
  simp only [covering, envelopeOf, hjws, hseal]

theorem binding_eq_covers : binding sl envelope digest = .coversThisSignature ↔
    ∃ covered, sl.inspect envelope = .covers covered ∧ eqIgnoreAsciiCase covered digest = true := by
  unfold binding
  cases sl.inspect envelope with
  | unreadable => simp
  | broken => simp
  | covers covered => by_cases h : eqIgnoreAsciiCase covered digest = true <;> simp [h]

theorem coversSomethingElse_eq_none : coversSomethingElse sl envelope hash = none ↔
    sl.inspect envelope = .unreadable ∨
      ∃ covered, sl.inspect envelope = .covers covered ∧ eqIgnoreAsciiCase covered hash = true := by
  unfold coversSomethingElse binding
  cases sl.inspect envelope with
  | unreadable => simp
  | broken => simp
  | covers covered => by_cases h : eqIgnoreAsciiCase covered hash = true <;> simp [h]

/-- A seal accepted for one digest covers another exactly when it can be read and the
digests are the same. -/
theorem accepted_covers_iff (h : coversSomethingElse sl envelope hash = none) :
    binding sl envelope digest = .coversThisSignature ↔
      sl.inspect envelope ≠ .unreadable ∧ eqIgnoreAsciiCase hash digest = true := by
  rw [binding_eq_covers]
  rcases coversSomethingElse_eq_none.mp h with hread | ⟨covered, hread, hcovered⟩
  · simp [hread]
  · simp only [eqIgnoreAsciiCase, decide_eq_true_eq] at hcovered
    simp [hread, eqIgnoreAsciiCase, hcovered]

theorem setSeal_get {k : String} (hk : k ≠ "seal") :
    (setSeal now row envelope).doc.get k = row.doc.get k := by
  simp [setSeal, hk]

theorem setSeal_guard : passportRetentionGuard row (setSeal now row envelope).doc = .ok () := by
  have hsame : Doc.SameExcept mutableKeys row.doc (setSeal now row envelope).doc := by
    rw [Doc.sameExcept_iff]
    intro k hk
    have hne : k ≠ "seal" := by rintro rfl; exact hk (by decide)
    exact (setSeal_get hne).symm
  simp [passportRetentionGuard, hsame]

theorem covering_setSeal : covering sl (setSeal now row envelope).doc = true ↔
    ∃ jws ∈ jwsOf row.doc, binding sl envelope (sl.digestForJws jws) = .coversThisSignature := by
  have hjws : jwsOf (setSeal now row envelope).doc = jwsOf row.doc := by
    rw [jwsOf, setSeal_get (by decide), ← jwsOf]
  have henvelope : envelopeOf (setSeal now row envelope).doc = some envelope := by
    simp [envelopeOf, sealOf, setSeal, nonNull, Json.asMembers]
  unfold covering
  rw [hjws, henvelope]
  cases jwsOf row.doc with
  | none => simp
  | some jws => simp

theorem setSeal_coherent (hc : row.Coherent) : (setSeal now row envelope).Coherent := by
  refine ⟨?_, ?_, ?_⟩
  · rw [statusOf, setSeal_get (by decide)]; exact hc.status
  · rw [lockedOf, setSeal_get (by decide)]; exact hc.locked
  · rw [publishedAtOf, setSeal_get (by decide)]; exact hc.published

end BindingFacts

section StepFacts

variable {sv : Services} {sl : Sealing} {group : String} {s u : State} {e : Event}
  {es : List Event} {row : Row}

/-- Only a publish that goes through changes the signature or the seal. -/
theorem request_keeps_proofs {s u : PassportRequests.State} {e : PassportRequests.Event}
    (hi : PassportRequests.Invariant sv group s) (h : PassportRequests.next sv s e = some u)
    (hp : published sv s e = none) (hrow : s.store.row = some row) :
    ∃ row', u.store.row = some row' ∧ jwsOf row'.doc = jwsOf row.doc ∧
      sealOf row'.doc = sealOf row.doc := by
  obtain ⟨row₁, hrow₁, hc, -⟩ := hi.row
  obtain rfl : row₁ = row := Option.some.inj (hrow₁.symm.trans hrow)
  rcases PassportRequests.next_cases h with ⟨t, -, -, rfl⟩ | ⟨caller, op, -, hread⟩ |
    ⟨i, began, r, rfl, hr, -, -, hstore⟩
  · exact ⟨row₁, hrow, rfl, rfl⟩
  · rcases hread with rfl | ⟨_, _, _, -, -, -, rfl⟩ <;> exact ⟨row₁, hrow, rfl, rfl⟩
  · rcases hstore with hsame | ⟨row', hw, hrow'⟩
    · exact ⟨row₁, hsame ▸ hrow, rfl, rfl⟩
    · refine ⟨row', hrow', ?_⟩
      have hwf := (hi.requests r (List.mem_of_getElem? hr)).1
      have hreplacement : r.replacement = none := by
        simpa [published, hr, commit, hw, bind, Except.bind, pure, Except.pure] using hp
      rw [hrow] at hw
      rcases writePassport_cases hc hwf hw with ⟨p, hwrite, -⟩ | ⟨id, target, p, -, hread, -, hup⟩ |
        ⟨id, delta, -, -, hkeys⟩
      · simp [Request.replacement, hwrite] at hreplacement
      · have hreads := fromStored_ok hread
        have hnonNull : p.qualifiedSeal.bind nonNull = p.qualifiedSeal := by
          rw [← hreads.sealed]
          cases row₁.doc.get "seal" with
          | none => rfl
          | some v => cases v <;> rfl
        have hsealed := hup.sealed hnonNull
        refine ⟨hup.jws.trans ?_, hsealed.trans ?_⟩
        · rw [jwsOf, hreads.jws]; exact Option.or_self
        · rw [sealOf, hreads.sealed]; exact Option.or_self
      · rw [jwsOf, jwsOf, sealOf, sealOf, hkeys "jwsSignature" (by decide),
          hkeys "seal" (by decide)]
        exact ⟨rfl, rfl⟩

def sealedRow (s : State) (row : Row) (envelope : Doc) : PassportRequests.State :=
  { s.requests with store := { s.requests.store with row := some (setSeal s.clock row envelope) } }

theorem drainRow_sealed {r : SealRow} {envelope : Doc} (jitter : ℕ)
    (hrow : s.requests.store.row = some row)
    (h : coversSomethingElse sl envelope r.payloadHash = none) :
    (drainRow sl s r (.ok envelope) none jitter).requests = sealedRow s row envelope := by
  simp [drainRow, h, markSealed, hrow, setSeal_guard, sealedRow]

/-- Every other outcome for a row leaves the passport alone. -/
theorem drainRow_requests (r : SealRow) (answer : Except String Doc) (recording : Option String)
    (jitter : ℕ) : (drainRow sl s r answer recording jitter).requests = s.requests ∨
      ∃ envelope, answer = .ok envelope ∧ recording = none ∧
        coversSomethingElse sl envelope r.payloadHash = none := by
  cases answer with
  | error e => exact Or.inl rfl
  | ok envelope =>
    cases hother : coversSomethingElse sl envelope r.payloadHash with
    | some why => exact Or.inl (by simp [drainRow, hother, drainFailed])
    | none =>
      cases recording with
      | some e => exact Or.inl (by simp [drainRow, hother, markSealed, drainFailed])
      | none => exact Or.inr ⟨envelope, rfl, rfl, hother⟩

theorem next_cases (hrow : s.requests.store.row = some row) (h : next sv sl s e = some u) :
    (∃ r, e = .request r ∧ PassportRequests.next sv s.requests r = some u.requests) ∨
    (∃ pass envelope jitter r, e = .drain pass (.ok envelope) none jitter ∧
      r ∈ s.passes[pass]?.bind List.head? ∧ coversSomethingElse sl envelope r.payloadHash = none ∧
      u.requests = sealedRow s row envelope) ∨
    u.requests = s.requests := by
  cases e with
  | request r =>
    simp only [next] at h
    split_ifs at h with hstarted
    obtain ⟨requests, hstep, rfl⟩ := Option.map_eq_some_iff.mp h
    exact Or.inl ⟨r, rfl, hstep⟩
  | tick t =>
    simp only [next] at h
    split_ifs at h with ht
    cases h
    exact Or.inr (Or.inr rfl)
  | sweep cooldown =>
    simp only [next, hrow] at h
    cases h
    exact Or.inr (Or.inr rfl)
  | enqueue i =>
    simp only [next] at h
    split at h
    next => cases h
    next => cases h; exact Or.inr (Or.inr rfl)
  | lose i =>
    cases h
    exact Or.inr (Or.inr rfl)
  | repair =>
    simp only [next] at h
    split at h
    next => cases h
    next => cases h; exact Or.inr (Or.inr rfl)
  | lookUp i =>
    simp only [next] at h
    split at h
    next => cases h; exact Or.inr (Or.inr rfl)
    next => cases h
  | requeue i userId =>
    simp only [next] at h
    split at h
    next => cases h; exact Or.inr (Or.inr rfl)
    next => cases h; exact Or.inr (Or.inr rfl)
    next => cases h
  | due ids =>
    simp only [next] at h
    split_ifs at h with hdue
    cases h
    exact Or.inr (Or.inr rfl)
  | drain pass answer recording jitter =>
    simp only [next] at h
    split at h
    next r rest hpass =>
      cases h
      rcases drainRow_requests r answer recording jitter with hsame | ⟨envelope, rfl, rfl, hother⟩
      · exact Or.inr (Or.inr hsame)
      · refine Or.inr (Or.inl ⟨pass, envelope, jitter, r, rfl, by simp [hpass], hother, ?_⟩)
        exact drainRow_sealed jitter hrow hother
    next => cases h
  | abandon pass =>
    cases h
    exact Or.inr (Or.inr rfl)

def Invariant (sv : Services) (group : String) (s : State) : Prop :=
  PassportRequests.Invariant sv group s.requests

/-- Storing a seal touches no column and no member the requests rely on. -/
theorem sealedRow_invariant (hi : Invariant sv group s)
    (hrow : s.requests.store.row = some row) (envelope : Doc) :
    PassportRequests.Invariant sv group (sealedRow s row envelope) := by
  obtain ⟨row₁, hrow₁, hc, hgroup⟩ := hi.row
  obtain rfl : row₁ = row := Option.some.inj (hrow₁.symm.trans hrow)
  refine ⟨⟨_, rfl, setSeal_coherent hc, ?_⟩, hi.requests⟩
  rw [productGroupOf, setSeal_get (by decide)]
  exact hgroup

theorem step_preserves_invariant (hi : Invariant sv group s) (h : next sv sl s e = some u) :
    Invariant sv group u := by
  obtain ⟨row, hrow, -⟩ := hi.row
  rcases next_cases hrow h with ⟨r, -, hstep⟩ | ⟨_, envelope, _, _, -, -, -, hu⟩ | hu
  · exact PassportRequests.step_preserves_invariant hi hstep
  · rw [Invariant, hu]
    exact sealedRow_invariant hi hrow envelope
  · rw [Invariant, hu]
    exact hi

theorem covered_iff (hrow : s.requests.store.row = some row) :
    Covered sl s ↔ covering sl row.doc = true := by
  simp [Covered, hrow]

theorem keepsCovering_of_sealsCurrent (hi : Invariant sv group s)
    (hcond : SealsCurrent sl s e) : KeepsCovering sv sl s e := by
  intro hcovered hsigns u hu
  obtain ⟨row, hrow, -⟩ := hi.row
  rcases next_cases hrow hu with ⟨r, rfl, hstep⟩ |
    ⟨pass, envelope, jitter, r, rfl, hr, hother, heq⟩ |
    heq
  · have hp : published sv s.requests r = none := by simpa [signsAgain] using hsigns
    obtain ⟨row', hrow', hjws, hseal⟩ := request_keeps_proofs hi hstep hp hrow
    rw [covered_iff hrow] at hcovered
    rw [covered_iff hrow', covering_congr hjws hseal]
    exact hcovered
  · obtain ⟨hread, jws, hjws, hsame⟩ := hcond hcovered r hr hother row hrow
    have hrow' : u.requests.store.row = some (setSeal s.clock row envelope) := by rw [heq]; rfl
    rw [covered_iff hrow', covering_setSeal]
    exact ⟨jws, hjws, (accepted_covers_iff hother).mpr ⟨hread, hsame⟩⟩
  · simpa only [Covered, heq] using hcovered

theorem sealsCurrent_of_keepsCovering (h : KeepsCovering sv sl s e) : SealsCurrent sl s e := by
  unfold SealsCurrent
  split
  next pass envelope jitter =>
    intro hcovered r hr hother row hrow
    obtain ⟨batch, hbatch, hhead⟩ := Option.bind_eq_some_iff.mp hr
    cases batch with
    | nil => cases hhead
    | cons r' rest =>
      obtain rfl := Option.some.inj hhead
      have hstep : next sv sl s (.drain pass (.ok envelope) none jitter) =
          some { drainRow sl s r' (.ok envelope) none jitter with
            passes := s.passes.set pass rest } := by
        simp only [next, hbatch]
      have hrequests := drainRow_sealed jitter hrow hother
      have hcovering := (covered_iff (congrArg (·.store.row) hrequests)).mp
        (h hcovered rfl _ hstep)
      obtain ⟨jws, hjws, hbinding⟩ := covering_setSeal.mp hcovering
      obtain ⟨hread, hsame⟩ := (accepted_covers_iff hother).mp hbinding
      exact ⟨hread, jws, hjws, hsame⟩
  next => trivial

/-- In every run, a covering seal is kept until the passport is signed again exactly
when each seal that is stored over a covering one was bought for the current signature
and can be read. -/
theorem covering_kept_iff_seals_current (sv : Services) (sl : Sealing) (d : Draft)
    (now clock : Int) (es : List Event) :
    Along (next sv sl) (KeepsCovering sv sl) (initial d now clock) es ↔
      Along (next sv sl) (SealsCurrent sl) (initial d now clock) es := by
  have hinit : Invariant sv d.1.productGroup (initial d now clock) := initial_invariant d now
  constructor
  · exact along_of_invariant (fun _ _ _ hi _ hstep => step_preserves_invariant hi hstep)
      (fun _ _ _ hc => sealsCurrent_of_keepsCovering hc) hinit
  · exact along_of_invariant (fun _ _ _ hi _ hstep => step_preserves_invariant hi hstep)
      (fun _ _ hi hc => keepsCovering_of_sealsCurrent hi hc) hinit

end StepFacts

section Samples

instance (sl : Sealing) (s : State) : Decidable (Covered sl s) :=
  inferInstanceAs (Decidable (∃ row ∈ s.requests.store.row, covering sl row.doc = true))

instance (sv : Services) (sl : Sealing) (s : State) (e : Event) :
    Decidable (KeepsCovering sv sl s e) :=
  inferInstanceAs (Decidable (Covered sl s → signsAgain sv s e = false →
    ∀ u ∈ next sv sl s e, Covered sl u))

def signedAgainAnswers : PublishAnswers :=
  { signedAnswers with jws := .ok "eyJhbGciOiJFZERTQSJ9.full2.sig2" }

def firstDigest : String := "e900da71bd5124aae706fb1886ab6b94617c2b26515a660f7ed40424b9135e3b"

def secondDigest : String := "66c08c8e38f3bdc0664c73a60466a3feac49337548dcc8765ba4ed38d62a6317"

/-- SHA-256 on the two sample signatures, and a provider whose seal value is the digest
it was asked to seal. -/
def sampleSealing : Sealing where
  digestForJws jws := if jws = "eyJhbGciOiJFZERTQSJ9.full.sig" then firstDigest else secondDigest
  inspect envelope :=
    match (envelope.get "sealValue").bind Json.asStr with
    | some digest => .covers digest
    | none => .unreadable

def sampleEnvelope (digest : String) : Doc := [("sealValue", .str digest)]

/-- The provider times out on the first signature, seals the second, and then answers
the retry of the first. -/
def retriedSeal : List Event :=
  [.request (.read (sampleCaller 1) (.publish signedAnswers)), .request (.commit 0 sampleNow),
    .enqueue 0, .due [0], .drain 0 (.error "timeout") none 1000,
    .request (.read (sampleCaller 2) (.suspend none)), .request (.commit 0 sampleNow),
    .request (.read (sampleCaller 3) (.publish signedAgainAnswers)),
    .request (.commit 0 sampleNow), .enqueue 0, .due [1],
    .drain 1 (.ok (sampleEnvelope secondDigest)) none 1000, .tick (sampleNow + 2000000000),
    .due [0], .drain 2 (.ok (sampleEnvelope firstDigest)) none 1000]

theorem retried_seal_replaces_covering_seal :
    ¬ ∀ (sv : Services) (sl : Sealing) (d : Draft) (now clock : Int) (es : List Event),
      Along (next sv sl) (KeepsCovering sv sl) (initial d now clock) es := by
  intro h
  exact absurd (h sampleServices sampleSealing sampleDraft sampleNow sampleNow retriedSeal)
    (by decide +kernel)

end Samples

end SealOutbox
