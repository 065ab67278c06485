import DppEngine.PassportRequests

/-! What the audit trail of a passport tells of its lifecycle, under concurrent requests.

A request states the status it read as the previous one, when it builds its entry. The commit
checks the transition again on the stored row, and appends the entry as it was built. A create
states `draft`, and its entry stands before the trail. -/
namespace ReplayedTrails

open JsonValues PassportModel StateChangeLog PassportRequests TransitionSystems FallibleSteps
open AuditTrail (PassportAuditEntry appendInTx)

def reached (status : String) : List PassportAuditEntry → String
  | [] => status
  | e :: es => reached (e.newStatus.getD status) es

/-- Each entry that states a new status states no other previous status than the one it met. -/
def Replays (status : String) : List PassportAuditEntry → Prop
  | [] => True
  | e :: es => (e.newStatus.isSome = true → ∀ previous ∈ e.previousStatus, previous = status) ∧
      Replays (e.newStatus.getD status) es

instance : ∀ status es, Decidable (Replays status es)
  | _, [] => .isTrue trivial
  | status, e :: es =>
    have := instDecidableReplays (e.newStatus.getD status) es
    inferInstanceAs (Decidable ((e.newStatus.isSome = true →
      ∀ previous ∈ e.previousStatus, previous = status) ∧ Replays (e.newStatus.getD status) es))

def TrailReplays (s : State) : Prop :=
  ∀ row ∈ s.store.row, Replays PassportStatus.draft.toString s.store.trail ∧
    reached PassportStatus.draft.toString s.store.trail = row.status.toString

instance (s : State) : Decidable (TrailReplays s) :=
  inferInstanceAs (Decidable (∀ row ∈ s.store.row, _))

/-- Where a retirement or an end-of-life declaration commits, the stored status is the one it
read. -/
def CommitsWhatItRead (sv : Services) (s : State) : Event → Prop
  | .commit i began => ∀ r ∈ s.inFlight[i]?, ∀ target ∈ r.target,
      target = .retired ∨ target = .deactivated →
      (writePassport sv.readContent sv.isProtectedPatchField s.store.row s.now began
        r.change.passport).isOk = true → ∀ row ∈ s.store.row, row.status = r.read.status
  | _ => True

def Stated (r : Request) : Prop :=
  match r.change.passport with
  | .insert _ => False
  | .replace _ => r.change.audit.previousStatus = none ∧
      r.change.audit.newStatus = some PassportStatus.published.toString
  | .status _ target => r.change.audit.previousStatus = some r.read.status.toString ∧
      r.change.audit.newStatus = some target.toString ∧
      r.read.status.canTransitionTo target = true
  | .patch _ _ => r.change.audit.newStatus = none

section Trails

variable {status : String} {es : List PassportAuditEntry} {e : PassportAuditEntry}

theorem reached_concat : reached status (es ++ [e]) = e.newStatus.getD (reached status es) := by
  induction es generalizing status with
  | nil => rfl
  | cons d es ih => exact ih

theorem replays_concat : Replays status (es ++ [e]) ↔ Replays status es ∧
    (e.newStatus.isSome = true → ∀ previous ∈ e.previousStatus, previous = reached status es) := by
  induction es generalizing status with
  | nil => simp [Replays, reached]
  | cons d es ih => simp only [List.cons_append, Replays, reached, ih, and_assoc]

theorem toString_inj {a b : PassportStatus} (h : a.toString = b.toString) : a = b := by
  have hread := congrArg PassportStatus.ofString h
  simpa using hread

end Trails

section Entries

variable {sv : Services} {now : Int} {caller : Caller} {p : Passport} {change : StateChange}
  {r : Request}

theorem requireTransition_ok {target : PassportStatus} (h : requireTransition p target = .ok ()) :
    p.status.canTransitionTo target = true := by
  unfold requireTransition refuseIf at h
  split_ifs at h with hcan
  simpa using hcan

theorem prepare_stated {op : Operation} (h : prepare sv now caller p op = .ok change) :
    Stated ⟨p, change⟩ := by
  cases op with
  | publish answers =>
    obtain ⟨_, -, h⟩ := bind_ok h
    cases h
    exact ⟨rfl, rfl⟩
  | suspend reason =>
    obtain ⟨_, hcan, h⟩ := bind_ok h
    have hallowed := requireTransition_ok hcan
    have hread : p.status = .published := by
      cases hstatus : p.status <;> simp_all [PassportStatus.canTransitionTo]
    cases h
    cases reason <;>
      exact ⟨congrArg (fun status : PassportStatus => some status.toString) hread.symm, rfl,
        hallowed⟩
  | supersede successorId successor reason =>
    obtain ⟨_, -, h⟩ := bind_ok h
    cases successor with
    | none => cases h
    | some s =>
      obtain ⟨_, -, h⟩ := bind_ok h
      obtain ⟨_, hcan, h⟩ := bind_ok h
      obtain ⟨_, -, h⟩ := bind_ok h
      cases h
      exact ⟨rfl, rfl, requireTransition_ok hcan⟩
  | retire =>
    obtain ⟨_, hcan, h⟩ := bind_ok h
    obtain ⟨_, -, h⟩ := bind_ok h
    cases h
    exact ⟨rfl, rfl, requireTransition_ok hcan⟩
  | declareEol eol =>
    obtain ⟨_, hcan, h⟩ := bind_ok h
    cases h
    exact ⟨rfl, rfl, requireTransition_ok hcan⟩
  | update patch graph =>
    obtain ⟨_, -, h⟩ := bind_ok h
    cases h
    rfl

theorem Stated.of_replace {q : Passport} (h : Stated r) (hp : r.change.passport = .replace q) :
    r.change.audit.previousStatus = none ∧
      r.change.audit.newStatus = some PassportStatus.published.toString := by
  rw [Stated, hp] at h
  exact h

theorem Stated.of_status {id : PassportId} {target : PassportStatus} (h : Stated r)
    (hp : r.change.passport = .status id target) :
    r.change.audit.previousStatus = some r.read.status.toString ∧
      r.change.audit.newStatus = some target.toString ∧
      r.read.status.canTransitionTo target = true := by
  rw [Stated, hp] at h
  exact h

theorem Stated.of_patch {id : PassportId} {delta : Doc} (h : Stated r)
    (hp : r.change.passport = .patch id delta) : r.change.audit.newStatus = none := by
  rw [Stated, hp] at h
  exact h

end Entries

section Steps

variable {sv : Services} {s u : State} {e : Event} {group : String}

structure Invariant (sv : Services) (group : String) (s : State) : Prop where
  requests : PassportRequests.Invariant sv group s
  stated : ∀ r ∈ s.inFlight, Stated r

theorem initial_invariant (d : Draft) (now : Int) :
    Invariant sv d.1.productGroup (initial d now) :=
  ⟨PassportRequests.initial_invariant d now, by simp [initial]⟩

theorem step_preserves_invariant (hi : Invariant sv group s) (h : next sv s e = some u) :
    Invariant sv group u := by
  refine ⟨PassportRequests.step_preserves_invariant hi.requests h, fun r hr => ?_⟩
  rcases next_cases h with ⟨t, -, -, rfl⟩ | ⟨caller, op, -, hread⟩ |
    ⟨i, began, r', -, -, -, hflight, -⟩
  · exact hi.stated r hr
  · rcases hread with rfl | ⟨row, p, change, -, -, hprep, rfl⟩
    · exact hi.stated r hr
    · rcases List.mem_append.mp hr with hr | hr
      · exact hi.stated r hr
      · obtain rfl := List.mem_singleton.mp hr
        exact prepare_stated hprep
  · rw [hflight] at hr
    exact hi.stated r (List.mem_of_mem_eraseIdx hr)

/-- A commit is refused and changes nothing, or writes the row and appends the entry. -/
theorem settle_store (sv : Services) (s : State) (i : ℕ) (r : Request) (began : Int) :
    ((writePassport sv.readContent sv.isProtectedPatchField s.store.row s.now began
        r.change.passport).isOk = false ∧ (settle sv s i r began).store = s.store) ∨
    ∃ row', writePassport sv.readContent sv.isProtectedPatchField s.store.row s.now began
        r.change.passport = .ok row' ∧ (settle sv s i r began).store =
          ⟨some row', appendInTx sv.contentHash s.store.trail r.change.audit⟩ := by
  unfold settle commit
  cases writePassport sv.readContent sv.isProtectedPatchField s.store.row s.now began
      r.change.passport with
  | error e => exact Or.inl ⟨rfl, rfl⟩
  | ok row' => exact Or.inr ⟨row', rfl, rfl⟩

/-- Only a retirement and an end-of-life declaration are open to more than one live status. -/
theorem transition_source {a b target : PassportStatus} (ha : a.canTransitionTo target = true)
    (hb : b.canTransitionTo target = true) (hne : target ≠ .published) :
    a = b ∨ target = .retired ∨ target = .deactivated := by
  cases target with
  | published => exact absurd rfl hne
  | retired => exact Or.inr (Or.inl rfl)
  | deactivated => exact Or.inr (Or.inr rfl)
  | draft => cases a <;> cases ha
  | suspended =>
    left
    cases a <;> cases b <;> simp_all [PassportStatus.canTransitionTo]
  | superseded =>
    left
    cases a <;> cases b <;> simp_all [PassportStatus.canTransitionTo]

/-- A commit keeps the trail in step with the row exactly when it is no retirement or end-of-life
declaration of a passport that has moved since its read. -/
theorem settle_replays_iff {i : ℕ} {r : Request} {began : Int} (hi : Invariant sv group s)
    (hreplays : TrailReplays s) (hr : s.inFlight[i]? = some r) :
    TrailReplays (settle sv s i r began) ↔ CommitsWhatItRead sv s (.commit i began) := by
  obtain ⟨row, hrow, hc, -⟩ := hi.requests.row
  obtain ⟨htrail, hreached⟩ := hreplays row hrow
  have hwf := (hi.requests.requests r (List.mem_of_getElem? hr)).1
  have hstated := hi.stated r (List.mem_of_getElem? hr)
  rcases settle_store sv s i r began with ⟨hrefused, hstore⟩ | ⟨row', hw, hstore⟩
  · have hsame : TrailReplays (settle sv s i r began) := by
      unfold TrailReplays
      rw [hstore]
      exact hreplays
    refine iff_of_true hsame ?_
    intro r' hr' target _ _ hok
    obtain rfl := Option.some.inj (hr.symm.trans hr')
    rw [hrefused] at hok
    cases hok
  · have hstep : TrailReplays (settle sv s i r began) ↔
        (r.change.audit.newStatus.isSome = true → ∀ previous ∈ r.change.audit.previousStatus,
          previous = row.status.toString) ∧
        r.change.audit.newStatus.getD row.status.toString = row'.status.toString := by
      unfold TrailReplays
      rw [hstore, ← hreached]
      simp only [Option.mem_def, Option.some.injEq, forall_eq', appendInTx, replays_concat,
        reached_concat]
      exact ⟨fun h => ⟨h.1.2, h.2⟩, fun h => ⟨⟨htrail, h.1⟩, h.2⟩⟩
    rw [hstep]
    have hw' := hw
    rw [hrow] at hw'
    rcases writePassport_cases hc hwf hw' with
      ⟨p, hp, hu⟩ | ⟨id, target, p, hp, -, hcan, hu⟩ | ⟨id, delta, hp, heq, -⟩
    · obtain ⟨hprevious, hnew⟩ := hstated.of_replace hp
      have hstatus : row'.status = .published := hu.status.trans (hwf.of_replace hp).1
      refine iff_of_true ?_ ?_
      · rw [hprevious, hnew, hstatus]
        exact ⟨by simp, rfl⟩
      · intro r' hr' target htarget
        obtain rfl := Option.some.inj (hr.symm.trans hr')
        simp [Request.target, hp] at htarget
    · obtain ⟨hprevious, hnew, hread⟩ := hstated.of_status hp
      have hstatus : row'.status = target := hu.status
      have htarget : r.target = some target := by simp [Request.target, hp]
      have hsame : (r.change.audit.newStatus.isSome = true →
          ∀ previous ∈ r.change.audit.previousStatus, previous = row.status.toString) ∧
          r.change.audit.newStatus.getD row.status.toString = row'.status.toString ↔
          row.status = r.read.status := by
        rw [hprevious, hnew, hstatus]
        constructor
        · intro h
          exact toString_inj (h.1 rfl r.read.status.toString rfl).symm
        · intro heq
          refine ⟨fun _ previous hprev => ?_, rfl⟩
          rw [heq]
          exact (Option.some.inj hprev).symm
      rw [hsame]
      constructor
      · intro heq r' hr' _ _ _ _ row₁ hrow₁
        obtain rfl := Option.some.inj (hr.symm.trans hr')
        obtain rfl := Option.some.inj (hrow.symm.trans hrow₁)
        exact heq
      · intro hcommits
        rcases transition_source hcan hread (hwf.of_status hp).1 with heq | hopen
        · exact heq
        · refine hcommits r hr target htarget hopen ?_ row hrow
          rw [hw]
          rfl
    · have hnew := hstated.of_patch hp
      have hstatus : row'.status = row.status := by rw [heq]
      refine iff_of_true ?_ ?_
      · rw [hnew, hstatus]
        exact ⟨by simp, rfl⟩
      · intro r' hr' target htarget
        obtain rfl := Option.some.inj (hr.symm.trans hr')
        simp [Request.target, hp] at htarget

theorem step_replays_iff (hi : Invariant sv group s) (hreplays : TrailReplays s)
    (h : next sv s e = some u) : TrailReplays u ↔ CommitsWhatItRead sv s e := by
  cases e with
  | tick t =>
    simp only [next] at h
    split_ifs at h
    cases h
    exact iff_of_true hreplays trivial
  | read caller op =>
    refine iff_of_true ?_ trivial
    rcases next_cases h with ⟨_, heq, -⟩ | ⟨_, _, -, hread⟩ | ⟨_, _, _, heq, -⟩
    · cases heq
    · rcases hread with rfl | ⟨_, _, _, -, -, -, rfl⟩ <;> exact hreplays
    · cases heq
  | commit i began =>
    simp only [next] at h
    cases hr : s.inFlight[i]? with
    | none => simp [hr] at h
    | some r =>
      rw [hr] at h
      obtain rfl := Option.some.inj h
      exact settle_replays_iff hi hreplays hr

theorem idle_commitsWhatItRead (h : next sv s e = none) : CommitsWhatItRead sv s e := by
  cases e with
  | commit i began =>
    intro r hr
    simp only [next, Option.mem_def.mp hr] at h
    cases h
  | _ => trivial

end Steps

section Runs

/-- The trail replays the lifecycle in every state of a run exactly when every retirement and
every end-of-life declaration commits on the status it read. -/
theorem trail_replays_iff (sv : Services) (d : Draft) (now : Int) (es : List Event) :
    (∀ before after t, es = before ++ after →
      run (next sv) (initial d now) before = some t → TrailReplays t) ↔
        Along (next sv) (CommitsWhatItRead sv) (initial d now) es := by
  have hstart : Invariant sv d.1.productGroup (initial d now) := initial_invariant d now
  refine states_iff_along ?_ hstart ?_ ?_ ?_
  · intro row hrow
    obtain rfl := Option.some.inj hrow
    exact ⟨trivial, rfl⟩
  · exact fun _ _ _ hi h => step_preserves_invariant hi h
  · exact fun _ _ _ hi hreplays h => step_replays_iff hi hreplays h
  · exact fun _ _ h => idle_commitsWhatItRead h

/-- The end of life is declared of a published passport, and commits once it is suspended. -/
def overtakenDeclaration : List Event :=
  [.read (sampleCaller 1) (.publish signedAnswers), .commit 0 sampleNow,
    .read (sampleCaller 2) (.declareEol .null), .read (sampleCaller 3) (.suspend none),
    .commit 1 sampleNow, .commit 0 sampleNow]

theorem declaration_states_a_status_left_before :
    ¬∀ (sv : Services) (d : Draft) (now : Int) (es : List Event),
      ∀ before after t, es = before ++ after →
        run (next sv) (initial d now) before = some t → TrailReplays t := by
  intro h
  have hleft : (run (next sampleServices) (initial sampleDraft sampleNow)
      overtakenDeclaration).any (fun t => ¬TrailReplays t) = true := by
    decide +kernel
  obtain ⟨t, hrun, hnot⟩ := (Option.any_eq_true _ _).mp hleft
  exact of_decide_eq_true hnot
    (h _ _ _ _ overtakenDeclaration [] t (List.append_nil _).symm hrun)

end Runs

end ReplayedTrails
