import Mathlib.Algebra.Group.Nat.Defs
import DppEngine.PassportRequests

/-! The static continuity tier of one passport: lifecycle requests commit and enqueue,
the drain reads the record, puts or removes the copy and closes its outbox row, and
the divergence sweep re-arms rows that fell behind.

The drain's read, its write to the store and its `mark_reconciled` are steps of their
own. An enqueue may come late, repeatedly or not at all. Store writes are atomic. -/
namespace SnapshotDrain

open PassportModel StateChangeLog PassportRequests TransitionSystems

inductive OutboxStatus where
  | pending
  | reconciled
  | exhausted
  deriving DecidableEq, Repr

structure OutboxRow where
  status : OutboxStatus
  attempts : ℕ
  nextAttemptAt : Int
  message : Option String
  reconciledAt : Option Int
  deriving DecidableEq, Repr

/-- `INSERT … ON CONFLICT DO UPDATE`: a new row and a re-armed one look the same. -/
def enqueue (now : Int) : OutboxRow := ⟨.pending, 0, now, none, none⟩

def divergent (row : Row) : Option OutboxRow → Bool
  | none => row.publishedAt.isSome
  | some o => row.publishedAt.isSome && (o.status = .exhausted ||
      (o.status = .reconciled && o.reconciledAt.any (· < row.updatedAt)))

def stale (row : Row) (olderThan now : Int) (o : OutboxRow) : Bool :=
  o.status = .reconciled && o.reconciledAt.any (· < now - olderThan) && row.status = .published

def markReconciled (now : Int) (o : OutboxRow) : OutboxRow :=
  { o with status := .reconciled, reconciledAt := some now, attempts := o.attempts + 1,
           message := none }

def backoffSeconds (attempts : ℕ) : ℕ := min (2 ^ (attempts + 1)) 3600

/-- `jitter` is in thousandths, between 750 and 1250. -/
def markAttemptFailed (now : Int) (jitter : ℕ) (message : String) (o : OutboxRow) : OutboxRow :=
  { o with
    attempts := o.attempts + 1
    message := some message
    nextAttemptAt := now + backoffSeconds o.attempts * jitter * 1000000 }

def markExhausted (message : String) (o : OutboxRow) : OutboxRow :=
  { o with status := .exhausted, message := some message, attempts := o.attempts + 1 }

def maxAttempts : ℕ := 8

def backOffOrExhaust (now : Int) (jitter attempts : ℕ) (reason : String) (o : OutboxRow) :
    OutboxRow :=
  if attempts + 1 ≥ maxAttempts then markExhausted ("max attempts reached: " ++ reason) o
  else markAttemptFailed now jitter reason o

inductive Drain where
  | idle
  | fetched (attempts : ℕ)
  | decided (attempts : ℕ) (serves : Bool)
  | acted (serves : Bool)
  | failed (attempts : ℕ) (reason : String)
  deriving DecidableEq, Repr

structure State where
  requests : PassportRequests.State
  outbox : Option OutboxRow
  /-- Whether the static tier holds a copy. -/
  tier : Bool
  drain : Drain
  /-- The database clock. -/
  clock : Int
  deriving DecidableEq, Repr

inductive Event where
  | request (e : PassportRequests.Event)
  | tick (t : Int)
  | enqueue
  | sweep
  | refresh (olderThan : Int)
  | due
  | lookup
  | lookupFails (error : String)
  | act
  | actFails (error : String)
  | mark
  | markFailure (jitter : ℕ)
  | abandon
  deriving Repr

def served (row : Row) : Bool := servesPublicly row.status row.publishedAt

/-- A transaction starts before it commits, and its start is what it stamps. -/
def startedBy (clock : Int) : PassportRequests.Event → Bool
  | .commit _ began => began ≤ clock
  | _ => true

/-- `find_by_id_any_status`, then the choice between put and remove. -/
def lookup (sv : Services) (attempts : ℕ) : Option Row → Drain
  | none => .decided attempts false
  | some row =>
    match readDoc sv.readContent row with
    | .ok p => .decided attempts (servesPublicly p.status p.publishedAt)
    | .error _ => .failed attempts "passport lookup failed"

def next (sv : Services) (s : State) : Event → Option State
  | .request e =>
    if startedBy s.clock e then
      (PassportRequests.next sv s.requests e).map fun requests => { s with requests }
    else none
  | .tick t => if s.clock ≤ t then some { s with clock := t } else none
  | .enqueue => some { s with outbox := some (enqueue s.clock) }
  | .sweep =>
    match s.requests.store.row with
    | none => none
    | some row =>
      if divergent row s.outbox then some { s with outbox := some (enqueue s.clock) } else none
  | .refresh olderThan =>
    match s.requests.store.row, s.outbox with
    | some row, some o =>
      if stale row olderThan s.clock o then some { s with outbox := some (enqueue s.clock) }
      else none
    | _, _ => none
  | .due =>
    match s.drain, s.outbox with
    | .idle, some o =>
      if o.status = .pending ∧ o.nextAttemptAt ≤ s.clock then
        some { s with drain := .fetched o.attempts }
      else none
    | _, _ => none
  | .lookup =>
    match s.drain with
    | .fetched attempts => some { s with drain := lookup sv attempts s.requests.store.row }
    | _ => none
  | .lookupFails error =>
    match s.drain with
    | .fetched attempts =>
      some { s with drain := .failed attempts ("passport lookup failed: " ++ error) }
    | _ => none
  | .act =>
    match s.drain with
    | .decided _ serves => some { s with tier := serves, drain := .acted serves }
    | _ => none
  | .actFails error =>
    match s.drain with
    | .decided attempts _ => some { s with drain := .failed attempts error }
    | _ => none
  | .mark =>
    match s.drain with
    | .acted _ => some { s with outbox := s.outbox.map (markReconciled s.clock), drain := .idle }
    | _ => none
  | .markFailure jitter =>
    match s.drain with
    | .failed attempts reason =>
      some { s with
        outbox := s.outbox.map (backOffOrExhaust s.clock jitter attempts reason)
        drain := .idle }
    | _ => none
  | .abandon =>
    match s.drain with
    | .idle => none
    | _ => some { s with drain := .idle }

def initial (d : Draft) (now clock : Int) : State :=
  ⟨PassportRequests.initial d now, none, false, .idle, clock⟩

/-- A reconciled row the sweep would leave alone speaks for the static tier. -/
def Converged (s : State) : Prop :=
  ∀ row ∈ s.requests.store.row, ∀ o ∈ s.outbox, o.status = .reconciled →
    divergent row (some o) = false → s.tier = served row

instance (s : State) : Decidable (Converged s) :=
  inferInstanceAs (Decidable (∀ row ∈ s.requests.store.row, ∀ o ∈ s.outbox,
    o.status = .reconciled → divergent row (some o) = false → s.tier = served row))

def Drain.actedOn : Drain → Option Bool
  | .acted serves => some serves
  | _ => none

def Drain.puts : Drain → Bool
  | .decided _ serves => serves
  | .acted serves => serves
  | _ => false

/-- The drain closes a row only for what is still stored, and a transaction that
commits to a reconciled passport started after it was reconciled. -/
def NothingOvertakes (s : State) : Event → Prop
  | .mark => ∀ serves ∈ s.drain.actedOn, ∀ row ∈ s.requests.store.row, served row = serves
  | .request (.commit _ began) => ∀ o ∈ s.outbox, o.status = .reconciled →
      ∀ t ∈ o.reconciledAt, t < began
  | _ => True

instance : ∀ s e, Decidable (NothingOvertakes s e)
  | s, .mark => inferInstanceAs (Decidable (∀ serves ∈ s.drain.actedOn,
      ∀ row ∈ s.requests.store.row, served row = serves))
  | s, .request (.commit _ began) => inferInstanceAs (Decidable (∀ o ∈ s.outbox,
      o.status = .reconciled → ∀ t ∈ o.reconciledAt, t < began))
  | _, .request (.tick _) | _, .request (.read _ _) => .isTrue trivial
  | _, .tick _ | _, .enqueue | _, .sweep | _, .refresh _ | _, .due | _, .lookup
  | _, .lookupFails _ | _, .act | _, .actFails _ | _, .markFailure _ | _, .abandon =>
    .isTrue trivial

structure Invariant (sv : Services) (group : String) (s : State) : Prop where
  requests : PassportRequests.Invariant sv group s.requests
  closed : ∀ row ∈ s.requests.store.row, PublishedOrClosed row
  silent : ∀ row ∈ s.requests.store.row, row.publishedAt = none →
    s.tier = false ∧ s.drain.puts = false
  busy : s.drain ≠ .idle → ∃ o, s.outbox = some o ∧ o.status = .pending
  acted : ∀ serves ∈ s.drain.actedOn, s.tier = serves
  stamped : ∀ o ∈ s.outbox, o.status = .reconciled → o.reconciledAt.isSome
  converged : Converged s

variable {sv : Services} {group : String} {s u : State} {e : Event} {es : List Event}
  {row : Row} {o : OutboxRow}

theorem served_eq_false (hclosed : PublishedOrClosed row) (hnone : row.publishedAt = none) :
    served row = false := by
  rcases hclosed hnone with h | h
  · simp [served, servesPublicly, h]
  · simp [served, servesPublicly, h, hnone, neverPublished, retiredDraft]

theorem initial_invariant (d : Draft) (now clock : Int) :
    Invariant sv d.1.productGroup (initial d now clock) := by
  refine ⟨PassportRequests.initial_invariant d now, ?_, ?_, ?_, ?_, ?_, ?_⟩
  · intro row hrow _
    cases hrow
    exact Or.inl rfl
  · intro row _ _
    exact ⟨rfl, rfl⟩
  · intro h
    exact absurd rfl h
  · intro serves h
    cases h
  · intro o h
    cases h
  · intro row _ o h
    cases h

/-- Re-arming the row promises nothing, so it breaks nothing. -/
theorem rearm_preserves_invariant (hi : Invariant sv group s) :
    Invariant sv group { s with outbox := some (enqueue s.clock) } := by
  refine ⟨hi.requests, hi.closed, hi.silent, fun _ => ⟨_, rfl, rfl⟩, hi.acted, ?_, ?_⟩
  · intro o ho hrec
    cases ho
    cases hrec
  · intro row _ o ho hrec
    cases ho
    cases hrec

/-- While the drain is busy its row is pending, so a phase of the drain that leaves the
outbox and the tier alone only has to answer for what it will put. -/
theorem drain_phase_preserves_invariant (hi : Invariant sv group s) {drain : Drain}
    (hpending : ∃ o, s.outbox = some o ∧ o.status = .pending) (hacted : drain.actedOn = none)
    (hputs : ∀ row ∈ s.requests.store.row, row.publishedAt = none → drain.puts = false) :
    Invariant sv group { s with drain } := by
  refine ⟨hi.requests, hi.closed, ?_, fun _ => hpending, ?_, hi.stamped, hi.converged⟩
  · intro row hrow hnone
    exact ⟨(hi.silent row hrow hnone).1, hputs row hrow hnone⟩
  · intro serves h
    rw [show ({ s with drain } : State).drain = drain from rfl, hacted] at h
    cases h

theorem request_preserves_invariant (hi : Invariant sv group s) {r : PassportRequests.Event}
    (hcond : NothingOvertakes s (.request r)) (h : next sv s (.request r) = some u) :
    Invariant sv group u := by
  simp only [next] at h
  split_ifs at h with hstarted
  obtain ⟨requests, hstep, rfl⟩ := Option.map_eq_some_iff.mp h
  have hreq := step_preserves_invariant hi.requests hstep
  rcases next_row hi.requests hstep with hsame |
    ⟨i, began, row, row', rfl, hrow, hrow', hstamp, hpub, hclosed⟩
  · refine ⟨hreq, ?_, ?_, hi.busy, hi.acted, hi.stamped, ?_⟩
    · intro row hrow
      exact hi.closed row (hsame ▸ hrow)
    · intro row hrow
      exact hi.silent row (hsame ▸ hrow)
    · intro row hrow
      exact hi.converged row (hsame ▸ hrow)
  · have hclosed' : PublishedOrClosed row' := hclosed (hi.closed row hrow)
    have heq : ∀ q ∈ requests.store.row, q = row' := fun q hq =>
      Option.some.inj ((show requests.store.row = some q from hq).symm.trans hrow')
    refine ⟨hreq, ?_, ?_, hi.busy, hi.acted, hi.stamped, ?_⟩
    · intro q hq
      exact heq q hq ▸ hclosed'
    · intro q hq hnone
      exact hi.silent row hrow (hpub (heq q hq ▸ hnone))
    · intro q hq o ho hrec hfresh
      obtain rfl := heq q hq
      obtain ⟨t, ht⟩ := Option.isSome_iff_exists.mp (hi.stamped o ho hrec)
      have hlt : t < began := hcond o ho hrec t ht
      -- Stamped after the reconcile, the row escapes the sweep only if never published.
      have hnone : q.publishedAt = none := by
        simpa [divergent, hrec, ht, hstamp, hlt] using hfresh
      rw [served_eq_false hclosed' hnone]
      exact (hi.silent row hrow (hpub hnone)).1

theorem lookup_puts (hi : Invariant sv group s) (attempts : ℕ) :
    ∀ row ∈ s.requests.store.row, row.publishedAt = none →
      (lookup sv attempts s.requests.store.row).puts = false := by
  intro row hrow hnone
  obtain ⟨row₁, hrow₁, hc, -⟩ := hi.requests.row
  obtain rfl : row₁ = row := Option.some.inj (hrow₁.symm.trans hrow)
  rw [hrow₁]
  cases hread : readDoc sv.readContent row₁ with
  | error _ => simp only [lookup, hread, Drain.puts]
  | ok p =>
    have hstatus : p.status = row₁.status :=
      Option.some.inj ((fromStored_ok hread).status.symm.trans hc.status)
    have hpub : p.publishedAt = row₁.publishedAt :=
      (fromStored_ok hread).published.symm.trans hc.published
    simp only [lookup, hread, Drain.puts, hstatus, hpub]
    exact served_eq_false (hi.closed row₁ hrow) hnone

private theorem lookup_actedOn (attempts : ℕ) (row : Option Row) :
    (lookup sv attempts row).actedOn = none := by
  cases row with
  | none => rfl
  | some row =>
    cases hread : readDoc sv.readContent row <;> simp only [lookup, hread, Drain.actedOn]

theorem act_preserves_invariant (hi : Invariant sv group s) {attempts : ℕ} {serves : Bool}
    (hdrain : s.drain = .decided attempts serves) :
    Invariant sv group { s with tier := serves, drain := .acted serves } := by
  obtain ⟨o, ho, hpending⟩ := hi.busy (by simp [hdrain])
  refine ⟨hi.requests, hi.closed, ?_, fun _ => ⟨o, ho, hpending⟩, ?_, hi.stamped, ?_⟩
  · intro row hrow hnone
    have := (hi.silent row hrow hnone).2
    rw [hdrain] at this
    exact ⟨this, this⟩
  · intro b hb
    exact Option.some.inj hb
  · intro row _ o' ho' hrec
    obtain rfl : o = o' := Option.some.inj (ho.symm.trans ho')
    rw [hpending] at hrec
    cases hrec

theorem mark_preserves_invariant (hi : Invariant sv group s) {serves : Bool}
    (hdrain : s.drain = .acted serves) (hcond : NothingOvertakes s .mark) :
    Invariant sv group
      { s with outbox := s.outbox.map (markReconciled s.clock), drain := .idle } := by
  have hacted : s.drain.actedOn = some serves := by rw [hdrain]; rfl
  refine ⟨hi.requests, hi.closed, ?_, fun h => absurd rfl h, ?_, ?_, ?_⟩
  · intro row hrow hnone
    exact ⟨(hi.silent row hrow hnone).1, rfl⟩
  · intro b hb
    cases hb
  · intro o ho _
    obtain ⟨o', -, rfl⟩ := Option.map_eq_some_iff.mp ho
    rfl
  · intro row hrow _ _ _ _
    rw [hcond serves hacted row hrow]
    exact hi.acted serves hacted

theorem backOffOrExhaust_status (now : Int) (jitter attempts : ℕ) (reason : String) :
    (backOffOrExhaust now jitter attempts reason o).status = o.status ∨
    (backOffOrExhaust now jitter attempts reason o).status = .exhausted := by
  unfold backOffOrExhaust
  split_ifs
  · exact Or.inr rfl
  · exact Or.inl rfl

theorem failure_preserves_invariant (hi : Invariant sv group s) {attempts jitter : ℕ}
    {reason : String} (hdrain : s.drain = .failed attempts reason) :
    Invariant sv group { s with
      outbox := s.outbox.map (backOffOrExhaust s.clock jitter attempts reason)
      drain := .idle } := by
  obtain ⟨o, ho, hpending⟩ := hi.busy (by simp [hdrain])
  have hnot : ∀ o' ∈ s.outbox.map (backOffOrExhaust s.clock jitter attempts reason),
      o'.status ≠ .reconciled := by
    intro o' ho' hrec
    obtain ⟨o'', ho'', rfl⟩ := Option.map_eq_some_iff.mp ho'
    obtain rfl : o = o'' := Option.some.inj (ho.symm.trans ho'')
    rcases backOffOrExhaust_status s.clock jitter attempts reason (o := o) with h | h
    · rw [h, hpending] at hrec
      cases hrec
    · rw [h] at hrec
      cases hrec
  refine ⟨hi.requests, hi.closed, ?_, fun h => absurd rfl h, ?_, ?_, ?_⟩
  · intro row hrow hnone
    exact ⟨(hi.silent row hrow hnone).1, rfl⟩
  · intro b hb
    cases hb
  · intro o' ho' hrec
    exact absurd hrec (hnot o' ho')
  · intro row _ o' ho' hrec
    exact absurd hrec (hnot o' ho')

theorem abandon_preserves_invariant (hi : Invariant sv group s) :
    Invariant sv group { s with drain := .idle } := by
  refine ⟨hi.requests, hi.closed, ?_, fun h => absurd rfl h, ?_, hi.stamped, hi.converged⟩
  · intro row hrow hnone
    exact ⟨(hi.silent row hrow hnone).1, rfl⟩
  · intro b hb
    cases hb

theorem step_preserves_invariant (hi : Invariant sv group s) (hcond : NothingOvertakes s e)
    (h : next sv s e = some u) : Invariant sv group u := by
  cases e with
  | request r => exact request_preserves_invariant hi hcond h
  | tick t =>
    simp only [next] at h
    split_ifs at h with ht
    cases h
    exact ⟨hi.requests, hi.closed, hi.silent, hi.busy, hi.acted, hi.stamped, hi.converged⟩
  | enqueue =>
    cases h
    exact rearm_preserves_invariant hi
  | sweep =>
    simp only [next] at h
    split at h
    next => cases h
    next row hrow =>
      split_ifs at h with hdiv
      cases h
      exact rearm_preserves_invariant hi
  | refresh olderThan =>
    simp only [next] at h
    split at h
    next row o hrow ho =>
      split_ifs at h with hstale
      cases h
      exact rearm_preserves_invariant hi
    next => cases h
  | due =>
    simp only [next] at h
    split at h
    next o hdrain ho =>
      split_ifs at h with hdue
      cases h
      exact drain_phase_preserves_invariant hi ⟨o, ho, hdue.1⟩ rfl fun _ _ _ => rfl
    next => cases h
  | lookup =>
    simp only [next] at h
    split at h
    next attempts hdrain =>
      cases h
      exact drain_phase_preserves_invariant hi (hi.busy (by simp [hdrain]))
        (lookup_actedOn attempts _) (lookup_puts hi attempts)
    next => cases h
  | lookupFails error =>
    simp only [next] at h
    split at h
    next attempts hdrain =>
      cases h
      exact drain_phase_preserves_invariant hi (hi.busy (by simp [hdrain])) rfl fun _ _ _ => rfl
    next => cases h
  | act =>
    simp only [next] at h
    split at h
    next attempts serves hdrain =>
      cases h
      exact act_preserves_invariant hi hdrain
    next => cases h
  | actFails error =>
    simp only [next] at h
    split at h
    next attempts serves hdrain =>
      cases h
      exact drain_phase_preserves_invariant hi (hi.busy (by simp [hdrain])) rfl fun _ _ _ => rfl
    next => cases h
  | mark =>
    simp only [next] at h
    split at h
    next serves hdrain =>
      cases h
      exact mark_preserves_invariant hi hdrain hcond
    next => cases h
  | markFailure jitter =>
    simp only [next] at h
    split at h
    next attempts reason hdrain =>
      cases h
      exact failure_preserves_invariant hi hdrain
    next => cases h
  | abandon =>
    simp only [next] at h
    split at h
    next => cases h
    next =>
      cases h
      exact abandon_preserves_invariant hi

/-- In every run in which nothing overtakes the drain or the reconcile stamp, every
state reached is converged. -/
theorem converged_of_nothing_overtakes (sv : Services) (d : Draft) (now clock : Int)
    (es : List Event) (s : State) (hrun : run (next sv) (initial d now clock) es = some s)
    (hcond : Along (next sv) NothingOvertakes (initial d now clock) es) : Converged s :=
  (run_invariant (fun _ _ _ hi hc hstep => step_preserves_invariant hi hc hstep)
    (initial_invariant d now clock) hcond hrun).converged

def quietRun : List Event :=
  [.request (.read (sampleCaller 1) (.publish signedAnswers)), .request (.commit 0 sampleNow),
    .enqueue, .due, .lookup, .act, .mark]

theorem quiet_run_converged : ∃ s,
    run (next sampleServices) (initial sampleDraft sampleNow sampleNow) quietRun = some s ∧
    s.outbox.map (·.status) = some .reconciled ∧ s.tier = true ∧ Converged s := by
  have hrun : run (next sampleServices) (initial sampleDraft sampleNow sampleNow) quietRun =
      some ((run (next sampleServices) (initial sampleDraft sampleNow sampleNow) quietRun).getD
        (initial sampleDraft sampleNow sampleNow)) := by decide +kernel
  refine ⟨_, hrun, by decide +kernel, by decide +kernel, ?_⟩
  exact converged_of_nothing_overtakes sampleServices sampleDraft sampleNow sampleNow quietRun _
    hrun (by decide +kernel)

/-- The passport is suspended, and the suspension enqueued, after the drain has read it
and before it puts the copy. -/
def overtakenDrain : List Event :=
  [.request (.read (sampleCaller 1) (.publish signedAnswers)), .request (.commit 0 sampleNow),
    .enqueue, .due, .lookup, .tick (sampleNow + 1000000000),
    .request (.read (sampleCaller 2) (.suspend none)),
    .request (.commit 0 (sampleNow + 1000000000)), .enqueue, .tick (sampleNow + 2000000000),
    .act, .mark]

theorem suspended_copy_left_in_tier :
    ¬ ∀ (sv : Services) (d : Draft) (now clock : Int) (es : List Event) (s : State),
      run (next sv) (initial d now clock) es = some s → Converged s := by
  intro h
  have hrun : run (next sampleServices) (initial sampleDraft sampleNow sampleNow) overtakenDrain =
      some ((run (next sampleServices) (initial sampleDraft sampleNow sampleNow)
        overtakenDrain).getD (initial sampleDraft sampleNow sampleNow)) := by decide +kernel
  exact absurd (h _ _ _ _ _ _ hrun) (by decide +kernel)

end SnapshotDrain
