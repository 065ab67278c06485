import DppEngine.PassportRequests

/-! Concurrent lifecycle requests on one passport: which status changes the stored
row can make, and when a published record can be retired.

A status write checks the transition again under the row lock; a publish writes the
record it signed over whatever is stored, and checks nothing again. `retire` decides
about retention on its own read, before any lock. -/
namespace LifecycleConcurrency

open JsonValues PassportModel StateChangeLog PassportRequests TransitionSystems

def storedStatus (s : State) : Option PassportStatus := s.store.row.map (·.status)

def admits (sv : Services) (row : Row) (p : Passport) : Bool :=
  match writtenDoc sv.readContent row p with
  | .error _ => false
  | .ok written => passportRetentionGuard row (row.doc.merge written) = .ok ()

/-- Where a publish commits, the stored status is not terminal. -/
def PublishFindsLive (sv : Services) (s : State) : Event → Prop
  | .commit i _ => ∀ r ∈ s.inFlight[i]?, ∀ p ∈ r.replacement, ∀ row ∈ s.store.row,
      row.status.isTerminal = true → admits sv row p = false
  | _ => True

def StatusChangeAllowed (sv : Services) (s : State) (e : Event) : Prop :=
  ∀ u ∈ next sv s e, ∀ a ∈ storedStatus s, ∀ b ∈ storedStatus u, a ≠ b →
    a.canTransitionTo b = true

instance (sv : Services) : ∀ s e, Decidable (PublishFindsLive sv s e)
  | s, .commit i _ => inferInstanceAs (Decidable (∀ r ∈ s.inFlight[i]?, ∀ p ∈ r.replacement,
      ∀ row ∈ s.store.row, row.status.isTerminal = true → admits sv row p = false))
  | _, .tick _ => .isTrue trivial
  | _, .read _ _ => .isTrue trivial

instance (sv : Services) (s : State) (e : Event) : Decidable (StatusChangeAllowed sv s e) :=
  inferInstanceAs (Decidable (∀ u ∈ next sv s e, ∀ a ∈ storedStatus s, ∀ b ∈ storedStatus u,
    a ≠ b → a.canTransitionTo b = true))

section Status

variable {sv : Services} {s u : State} {e : Event} {es : List Event} {row row' : Row}
  {p : Passport} {group : String} {began : Int}

theorem admits_of_updateInTx (h : updateInTx sv.readContent (some row) p began = .ok row') :
    admits sv row p = true := by
  obtain ⟨written, hw, hg, -⟩ := updateInTx_ok h
  simp [admits, hw, hg]

theorem updateInTx_of_admits (h : admits sv row p = true) (began : Int) :
    ∃ row', updateInTx sv.readContent (some row) p began = .ok row' := by
  unfold admits at h
  cases hw : writtenDoc sv.readContent row p with
  | error _ => simp [hw] at h
  | ok written =>
    have hg : passportRetentionGuard row (row.doc.merge written) = .ok () := by
      simpa [hw] using h
    exact ⟨_, by simp only [updateInTx, hw, hg, bind, Except.bind]; rfl⟩

theorem canTransitionTo_published_of_not_terminal {a : PassportStatus}
    (ha : a.isTerminal = false) (hne : a ≠ .published) : a.canTransitionTo .published = true := by
  cases a <;> simp_all [PassportStatus.isTerminal, PassportStatus.canTransitionTo]

theorem step_status_allowed (hi : Invariant sv group s) (hlive : PublishFindsLive sv s e) :
    StatusChangeAllowed sv s e := by
  intro u hu a ha b hb hne
  obtain ⟨row, hrow, hc, -⟩ := hi.row
  obtain rfl : row.status = a := by simpa [storedStatus, hrow] using ha
  rcases next_cases hu with ⟨t, -, -, rfl⟩ | ⟨caller, op, -, hread⟩ |
    ⟨i, began, r, rfl, hr, -, -, hstore⟩
  · exact absurd (by simpa [storedStatus, hrow] using hb) hne
  · have hsame : u.store = s.store := by
      rcases hread with rfl | ⟨_, _, _, -, -, -, rfl⟩ <;> rfl
    exact absurd (by simpa [storedStatus, hsame, hrow] using hb) hne
  · rcases hstore with hsame | ⟨row', hw, hrow'⟩
    · exact absurd (by simpa [storedStatus, hsame, hrow] using hb) hne
    · obtain rfl : row'.status = b := by simpa [storedStatus, hrow'] using hb
      have hwf := (hi.requests r (List.mem_of_getElem? hr)).1
      rw [hrow] at hw
      rcases writePassport_cases hc hwf hw with ⟨p, hp, hup⟩ | ⟨id, target, p, hp, -, hcan, hup⟩ |
        ⟨id, delta, hp, heq, -⟩
      · have hpub := (hwf.of_replace hp).1
        rw [hup.status, hpub] at hne ⊢
        refine canTransitionTo_published_of_not_terminal ?_ hne
        by_contra hterm
        have hadmits : admits sv row p = true := by
          rw [hp] at hw
          exact admits_of_updateInTx hw
        have := hlive r hr p (by simp [Request.replacement, hp]) row hrow (by simpa using hterm)
        rw [hadmits] at this
        exact Bool.noConfusion this
      · rw [hup.status]
        exact hcan
      · rw [heq] at hne
        exact absurd rfl hne

theorem publishFindsLive_of_step_allowed (hi : Invariant sv group s)
    (hallowed : StatusChangeAllowed sv s e) : PublishFindsLive sv s e := by
  cases e with
  | tick t => trivial
  | read caller op => trivial
  | commit i began =>
    intro r hr p hp row hrow hterm
    by_contra hadmits
    obtain ⟨row₁, hrow₁, hc, -⟩ := hi.row
    obtain rfl : row₁ = row := Option.some.inj (hrow₁.symm.trans hrow)
    obtain ⟨row', hw⟩ := updateInTx_of_admits (by simpa using hadmits) began
    have hreplace := replacement_eq hp
    have hwf := (hi.requests r (List.mem_of_getElem? hr)).1
    have hpub := (hwf.of_replace hreplace).1
    have hstep : next sv s (.commit i began) = some (settle sv s i r began) := by
      simp only [next, show s.inFlight[i]? = some r from hr]
    have hsettle : storedStatus (settle sv s i r began) = some .published := by
      have hcommit : writePassport sv.readContent sv.isProtectedPatchField s.store.row s.now began
          r.change.passport = .ok row' := by
        rw [hreplace, show s.store.row = some row₁ from hrow]
        exact hw
      simp only [settle, commit, hcommit, bind, Except.bind, pure, Except.pure, storedStatus,
        Option.map_some, (updateInTx_updated hc hw).status, hpub]
    have hne : row₁.status ≠ .published := by
      rintro h
      simp [h, PassportStatus.isTerminal] at hterm
    have := hallowed _ hstep row₁.status (by simp [storedStatus, hrow₁]) .published hsettle hne
    rw [(PassportStatus.isTerminal_iff _).mp hterm] at this
    exact Bool.noConfusion this

/-- Along allowed changes a terminal status is final. -/
theorem terminal_stays (hi : Invariant sv group s)
    (hc : Along (next sv) (StatusChangeAllowed sv) s es) (hrun : run (next sv) s es = some u)
    {a : PassportStatus} (ha : storedStatus s = some a) (hterm : a.isTerminal = true) :
    storedStatus u = some a := by
  suffices hkeep : ∀ t ev v, (Invariant sv group t ∧ storedStatus t = some a) →
      StatusChangeAllowed sv t ev → next sv t ev = some v →
      Invariant sv group v ∧ storedStatus v = some a from
    (run_invariant hkeep ⟨hi, ha⟩ hc hrun).2
  rintro t ev v ⟨ht, hta⟩ hallowed hstep
  have hv := step_preserves_invariant ht hstep
  refine ⟨hv, ?_⟩
  obtain ⟨row, hrow, -⟩ := hv.row
  have hvrow : storedStatus v = some row.status := by simp [storedStatus, hrow]
  by_contra hne
  have hmoved : a ≠ row.status := fun h => hne (hvrow.trans (congrArg some h.symm))
  have := hallowed v hstep a hta row.status hvrow hmoved
  rw [(PassportStatus.isTerminal_iff a).mp hterm] at this
  exact Bool.noConfusion this

/-- Every change of the stored status is a step of the transition table exactly when
every publish that commits finds a status that is not terminal, and then a terminal
status never changes again. -/
theorem status_changes_allowed_iff_publishes_find_live (sv : Services) (d : Draft) (now : Int)
    (es : List Event) :
    (Along (next sv) (StatusChangeAllowed sv) (initial d now) es ↔
      Along (next sv) (PublishFindsLive sv) (initial d now) es) ∧
    (Along (next sv) (PublishFindsLive sv) (initial d now) es →
      ∀ pre post s u a, es = pre ++ post → run (next sv) (initial d now) pre = some s →
        run (next sv) s post = some u → storedStatus s = some a → a.isTerminal = true →
        storedStatus u = some a) := by
  have hinit : Invariant sv d.1.productGroup (initial d now) := initial_invariant d now
  have hiff : Along (next sv) (StatusChangeAllowed sv) (initial d now) es ↔
      Along (next sv) (PublishFindsLive sv) (initial d now) es :=
    ⟨along_of_invariant (fun _ _ _ hi _ hstep => step_preserves_invariant hi hstep)
        (fun _ _ hi hc => publishFindsLive_of_step_allowed hi hc) hinit,
      along_of_invariant (fun _ _ _ hi _ hstep => step_preserves_invariant hi hstep)
        (fun _ _ hi hc => step_status_allowed hi hc) hinit⟩
  refine ⟨hiff, ?_⟩
  rintro hlive pre post s u a rfl hpre hpost ha hterm
  have hi := reachable_invariant (fun _ _ _ hi hstep => step_preserves_invariant hi hstep)
    hinit hpre
  exact terminal_stays hi ((hiff.mpr hlive).drop hpre) hpost ha hterm

def overtakenPublish : List Event :=
  [.read (sampleCaller 1) (.publish signedAnswers), .read (sampleCaller 2) .retire,
    .commit 1 sampleNow, .commit 0 sampleNow]

theorem publish_revives_retired_passport :
    ¬ ∀ (sv : Services) (d : Draft) (now : Int) (es : List Event),
      Along (next sv) (StatusChangeAllowed sv) (initial d now) es := by
  intro h
  exact absurd (h sampleServices sampleDraft sampleNow overtakenPublish) (by decide +kernel)

end Status

/-- Where a retirement commits, the publish stamps of the row are those it read. -/
def RetireFindsItsRead (s : State) : Event → Prop
  | .commit i _ => ∀ r ∈ s.inFlight[i]?, r.target = some .retired → ∀ row ∈ s.store.row,
      publishedAtOf row.doc = r.read.publishedAt ∧
      row.retentionLocked = r.read.retentionLocked ∧
      retentionUntilOf row.doc = r.read.retentionUntil
  | _ => True

instance : ∀ s e, Decidable (RetireFindsItsRead s e)
  | s, .commit i _ => inferInstanceAs (Decidable (∀ r ∈ s.inFlight[i]?,
      r.target = some .retired → ∀ row ∈ s.store.row,
        publishedAtOf row.doc = r.read.publishedAt ∧
        row.retentionLocked = r.read.retentionLocked ∧
        retentionUntilOf row.doc = r.read.retentionUntil))
  | _, .tick _ => .isTrue trivial
  | _, .read _ _ => .isTrue trivial

def storedDeadline (sv : Services) (row : Row) : Option Int :=
  if row.retentionLocked then
    (publishedAtOf row.doc).map fun t => retirementDeadline sv.calendar
      (retentionUntilOf row.doc) t (retentionYearsFor sv ((productGroupOf row.doc).getD ""))
  else none

/-- A record that reaches `retired` in this step does so at or after its deadline. -/
def RetiredOnTime (sv : Services) (s : State) (e : Event) : Prop :=
  ∀ u ∈ next sv s e, ∀ row ∈ s.store.row, ∀ row' ∈ u.store.row, row.status ≠ .retired →
    row'.status = .retired → ∀ deadline ∈ storedDeadline sv row', deadline ≤ u.now

instance (sv : Services) (s : State) (e : Event) : Decidable (RetiredOnTime sv s e) :=
  inferInstanceAs (Decidable (∀ u ∈ next sv s e, ∀ row ∈ s.store.row, ∀ row' ∈ u.store.row,
    row.status ≠ .retired → row'.status = .retired →
      ∀ deadline ∈ storedDeadline sv row', deadline ≤ u.now))

section Retention

variable {sv : Services} {s u : State} {e : Event} {es : List Event} {row row' : Row}
  {p q : Passport} {group : String}

theorem storedDeadline_of_status_write (hc : row.Coherent)
    (hp : readDoc sv.readContent row = .ok p) {target : PassportStatus} {now : Int}
    {began : Int}
    (hup : Updated row { p with status := target, updatedAt := now } began row')
    (hpublished : publishedAtOf row.doc = q.publishedAt)
    (hlocked : row.retentionLocked = q.retentionLocked)
    (huntil : retentionUntilOf row.doc = q.retentionUntil)
    (hgroup : p.productGroup = q.productGroup) : storedDeadline sv row' = retentionEnd sv q := by
  obtain ⟨-, -, hpub, hlock, hunt, -, -⟩ := fromStored_ok hp
  have hlock' : p.retentionLocked = row.retentionLocked :=
    Option.some.inj (hlock.symm.trans hc.locked)
  have hrow' : publishedAtOf row'.doc = q.publishedAt := by
    rw [hup.coherent.published, hup.published, ← hpub, ← hc.published, ← hpublished]
    exact Option.or_self
  have huntil' : retentionUntilOf row'.doc = q.retentionUntil := by
    rw [hup.deadline, ← hunt, ← huntil]
    exact Option.or_self
  have hlocked' : row'.retentionLocked = q.retentionLocked := by
    rw [hup.locked, hlock', Bool.or_self, hlocked]
  simp only [storedDeadline, retentionEnd, hlocked', hrow', huntil', hup.group, Option.getD_some,
    hgroup]

theorem step_retired_on_time (hi : Invariant sv group s) (hread : RetireFindsItsRead s e) :
    RetiredOnTime sv s e := by
  intro u hu row hrow row' hrow' hne hretired deadline hdeadline
  obtain ⟨row₁, hrow₁, hc, hgroup⟩ := hi.row
  obtain rfl : row₁ = row := Option.some.inj (hrow₁.symm.trans hrow)
  have hmoved : u.store ≠ s.store := by
    intro hsame
    have : row₁ = row' := Option.some.inj (hrow₁.symm.trans ((congrArg _ hsame.symm).trans hrow'))
    exact hne (this ▸ hretired)
  rcases next_cases hu with ⟨t, -, -, rfl⟩ | ⟨caller, op, -, hop⟩ |
    ⟨i, began, r, rfl, hr, hnow, -, hstore⟩
  · exact absurd rfl hmoved
  · exact absurd (by rcases hop with rfl | ⟨_, _, _, -, -, -, rfl⟩ <;> rfl) hmoved
  · rcases hstore with hsame | ⟨row₂, hw, hrow₂⟩
    · exact absurd hsame hmoved
    · obtain rfl : row₂ = row' := Option.some.inj (hrow₂.symm.trans hrow')
      obtain ⟨hwf, hreadGroup⟩ := hi.requests r (List.mem_of_getElem? hr)
      rw [hrow₁] at hw
      rcases writePassport_cases hc hwf hw with
        ⟨p, hp, hup⟩ | ⟨id, target, p, hp, hpread, -, hup⟩ | ⟨id, delta, hp, heq, -⟩
      · rw [hup.status, (hwf.of_replace hp).1] at hretired
        exact absurd hretired (by decide)
      · obtain rfl : target = .retired := hup.status.symm.trans hretired
        obtain ⟨hpub, hlock, hunt⟩ :=
          hread r hr (by simp [Request.target, hp]) row₁ hrow₁
        have hpgroup : p.productGroup = r.read.productGroup := by
          rw [hreadGroup]
          exact Option.some.inj ((fromStored_ok hpread).group.symm.trans hgroup)
        rw [storedDeadline_of_status_write hc hpread hup hpub hlock hunt hpgroup] at hdeadline
        rw [hnow]
        exact (hwf.of_status hp).2 rfl deadline hdeadline
      · rw [heq] at hretired
        exact absurd hretired hne

/-- Where every retirement finds the publish stamps it decided on, no published
record is retired before its deadline. -/
theorem retired_on_time_of_unchanged_stamps (sv : Services) (d : Draft) (now : Int)
    (es : List Event) (hread : Along (next sv) RetireFindsItsRead (initial d now) es) :
    Along (next sv) (RetiredOnTime sv) (initial d now) es :=
  along_of_invariant (fun _ _ _ hi _ hstep => step_preserves_invariant hi hstep)
    (fun _ _ hi hc => step_retired_on_time hi hc) (initial_invariant d now) hread

def retirementAfterTenYears : List Event :=
  [.read (sampleCaller 1) (.publish signedAnswers), .commit 0 sampleNow,
    .tick (daysFromCivil 2036 1 1 * nanosPerDay), .read (sampleCaller 2) .retire,
    .commit 0 sampleNow]

theorem retired_after_ten_years :
    (run (next sampleServices) (initial sampleDraft sampleNow) retirementAfterTenYears).bind
      storedStatus = some .retired ∧
    Along (next sampleServices) (RetiredOnTime sampleServices) (initial sampleDraft sampleNow)
      retirementAfterTenYears :=
  ⟨by decide +kernel,
    retired_on_time_of_unchanged_stamps sampleServices sampleDraft sampleNow _ (by decide +kernel)⟩

/-- A publish commits between the read and the commit of the retirement of a draft. -/
def overtakenRetirement : List Event :=
  [.read (sampleCaller 1) .retire, .read (sampleCaller 2) (.publish signedAnswers),
    .commit 1 sampleNow, .commit 0 sampleNow]

theorem published_passport_retired_at_once :
    ¬ ∀ (sv : Services) (d : Draft) (now : Int) (es : List Event),
      Along (next sv) (RetiredOnTime sv) (initial d now) es := by
  intro h
  exact absurd (h sampleServices sampleDraft sampleNow overtakenRetirement) (by decide +kernel)

end Retention

end LifecycleConcurrency
