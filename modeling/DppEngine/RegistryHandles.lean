import DppEngine.RegistryDrain

/-! The handle in a row of the registration queue.

The column is kept when a closed row is queued again and when a submission is acknowledged without
a handle, so a submitted row may hold the handle of a payload it no longer carries. -/
namespace RegistryHandles

open JsonValues PassportModel RegistryRows RegistryDrain TransitionSystems

section Handles

variable (readRequest : Json → Except String RegistrationRequest)

def GivenFor (given : List (RegistrationRequest × String)) (row : RegistrySyncRow)
    (held : String) : Prop :=
  ∃ request, requestOf readRequest row = some request ∧ (request, held) ∈ given

def ColumnFits (given : List (RegistrationRequest × String)) (row : RegistrySyncRow) : Prop :=
  ∀ held, row.registryId = some held → held ≠ "" → GivenFor readRequest given row held

/-- The handle of every submitted row, and every handle a verdict is asked for by, was given for
the registration in the row. -/
structure HandlesGiven (s : State) : Prop where
  rows : ∀ id row, s.rows id = some row → row.status = .submitted →
    ColumnFits readRequest s.given row
  polled : ∀ id handle, s.current = some (id, .checkSubmission handle) → ∃ row held,
    s.rows id = some row ∧ row.registryId = some held ∧ TrustedListDocuments.trim held = handle ∧
      GivenFor readRequest s.given row held

/-- A pending row that is submitted without a handle holds none of another payload, and a handle
confirmed for a person is written to the payload it was confirmed for. -/
def HoldsNoOther (s : State) : Event → Prop
  | .written fate _ => ∀ id message ok failed row,
      s.current = some (id, .write (.submitted "" message) ok failed) → fate.runs = true →
        s.rows id = some row → row.status = .pending → ColumnFits readRequest s.given row
  | .handleWritten i fate => ∀ r row, s.recording[i]? = some r → r.confirmed = true →
      fate.runs = true → s.rows r.id = some row → (recordHandle s.clock row r.handle).isSome →
        r.handle ≠ "" → GivenFor readRequest s.given row r.handle
  | _ => True

end Handles

section Steps

variable {readRequest : Json → Except String RegistrationRequest} {s u : State} {e : Event}
  {id : PassportId} {row row' : RegistrySyncRow} {handle held : String}
  {given given' : List (RegistrationRequest × String)}

theorem GivenFor.congr (hpayload : row'.payload = row.payload)
    (h : GivenFor readRequest given row held) : GivenFor readRequest given row' held := by
  obtain ⟨request, hrequest, hmem⟩ := h
  exact ⟨request, (requestOf_congr hpayload).trans hrequest, hmem⟩

theorem ColumnFits.congr (hpayload : row'.payload = row.payload)
    (hheld : row'.registryId = row.registryId) (h : ColumnFits readRequest given row) :
    ColumnFits readRequest given row' := by
  intro held hrow hne
  exact (h held (hheld.symm.trans hrow) hne).congr hpayload

theorem ColumnFits.mono (hsub : given ⊆ given') (h : ColumnFits readRequest given row) :
    ColumnFits readRequest given' row := by
  intro held hrow hne
  obtain ⟨request, hrequest, hmem⟩ := h held hrow hne
  exact ⟨request, hrequest, hsub hmem⟩

theorem correlationId_some (h : correlationId row = some handle) :
    ∃ held, row.registryId = some held ∧ TrustedListDocuments.trim held = handle ∧ held ≠ "" := by
  obtain ⟨hmap, hne⟩ := Option.filter_eq_some_iff.mp h
  obtain ⟨held, hheld, rfl⟩ := Option.map_eq_some_iff.mp hmap
  refine ⟨held, hheld, rfl, ?_⟩
  rintro rfl
  exact absurd hne (by decide)

/-- A poll asks about the row it is for, so the rows decide. -/
theorem handlesGiven_iff (hi : RegistryDrain.Invariant readRequest s) :
    HandlesGiven readRequest s ↔ ∀ id row, s.rows id = some row → row.status = .submitted →
      ColumnFits readRequest s.given row := by
  refine ⟨fun h => h.rows, fun h => ⟨h, ?_⟩⟩
  intro id handle hcurrent
  cases hi.working id _ hcurrent with
  | closing h => exact h.elim
  | polling hrow hstatus hhandle =>
    obtain ⟨held, hheld, htrim, hne⟩ := correlationId_some hhandle
    exact ⟨_, held, hrow, hheld, htrim, h id _ hrow hstatus held hheld hne⟩
  | continuing _ _ _ h => exact h.elim

theorem HandlesGiven.more (h : HandlesGiven readRequest s) (hsub : s.given ⊆ given) :
    ∀ id row, s.rows id = some row → row.status = .submitted → ColumnFits readRequest given row :=
  fun id row hrow hstatus => (h.rows id row hrow hstatus).mono hsub

theorem setRow_given_iff (h : HandlesGiven readRequest s) :
    (∀ id' row, (s.setRow id row').rows id' = some row → row.status = .submitted →
      ColumnFits readRequest s.given row) ↔
        (row'.status = .submitted → ColumnFits readRequest s.given row') := by
  constructor
  · intro hall hstatus
    exact hall id row' setRow_rows_self hstatus
  · intro hrow' id' row hrow hstatus
    by_cases hid : id' = id
    · subst hid
      obtain rfl := Option.some.inj (setRow_rows_self.symm.trans hrow)
      exact hrow' hstatus
    · rw [setRow_rows_ne hid] at hrow
      exact h.rows id' row hrow hstatus

theorem publish_given {payload : Json} (h : HandlesGiven readRequest s) : ∀ id' row,
    (s.setRow id (queueRegistration s.clock payload (s.rows id))).rows id' = some row →
      row.status = .submitted → ColumnFits readRequest s.given row := by
  refine (setRow_given_iff h).mpr ?_
  intro hsubmitted
  rcases queueRegistration_cases s.clock payload (s.rows id) with
    ⟨hpending, -⟩ | ⟨row, hrow, -, -, hsame⟩
  · cases hpending.symm.trans hsubmitted
  · rw [hsame] at hsubmitted ⊢
    exact (h.rows id row hrow hsubmitted).congr rfl rfl

/-- A statement of the drain that brings its own handle, or none to a row that was submitted
before, leaves the row a handle of its own. -/
theorem written_given_iff {w : Write} {ok : Task} {failed : String → Task} {fate : Fate}
    {jitter : ℕ} (hi : RegistryDrain.Invariant readRequest s) (h : HandlesGiven readRequest s)
    (hcurrent : s.current = some (id, .write w ok failed)) (hruns : fate.runs = true)
    (hrow : s.rows id = some row) (hstatement : w.statement s.clock jitter row = some row') :
    (∀ id' row₀, (s.setRow id row').rows id' = some row₀ → row₀.status = .submitted →
      ColumnFits readRequest s.given row₀) ↔
        HoldsNoOther readRequest s (.written fate jitter) := by
  rw [setRow_given_iff h]
  -- only a submission without a handle is conditioned on the row
  have hfree : (∀ message, w ≠ .submitted "" message) →
      HoldsNoOther readRequest s (.written fate jitter) := by
    intro hother id' message ok' failed' row₀ hcurrent'
    rw [hcurrent] at hcurrent'
    cases hcurrent'
    exact absurd rfl (hother message)
  have hkept : row'.registryId = row.registryId → row.status = .submitted →
      ColumnFits readRequest s.given row' :=
    fun hheld hstatus => (h.rows id row hrow hstatus).congr (statement_payload hstatement) hheld
  cases w with
  | registered registryId =>
    obtain ⟨-, rfl⟩ := markRegistered_some hstatement
    exact iff_of_true (fun hstatus => by cases hstatus) (hfree (by simp))
  | rejected message =>
    obtain ⟨-, rfl⟩ := markRejected_some hstatement
    exact iff_of_true (fun hstatus => by cases hstatus) (hfree (by simp))
  | attemptFailed message =>
    obtain ⟨-, rfl⟩ := markAttemptFailed_some hstatement
    exact iff_of_true (hkept rfl) (hfree (by simp))
  | submitted registryId message =>
    obtain ⟨-, hrow'⟩ := submitted_some hstatement
    cases hi.working id _ hcurrent with
    | closing h => exact h.elim
    | continuing hrow₀ hrequest hopen hcontinues =>
      obtain rfl := Option.some.inj (hrow.symm.trans hrow₀)
      by_cases hempty : registryId = ""
      · subst hempty
        have hheld : row'.registryId = row.registryId := by simp [hrow']
        have hsubmitted : row'.status = .submitted := by simp [hrow']
        constructor
        · intro hfits id' message' ok' failed' row₀ hcurrent' _ hrow₁ _
          rw [hcurrent] at hcurrent'
          cases hcurrent'
          obtain rfl := Option.some.inj (hrow.symm.trans hrow₁)
          exact (hfits hsubmitted).congr (statement_payload hstatement).symm hheld.symm
        · intro hcond _
          rcases hopen with ⟨hpending, -⟩ | hbefore
          · exact (hcond id message ok failed row hcurrent hruns hrow hpending).congr
              (statement_payload hstatement) hheld
          · exact hkept hheld hbefore
      · refine iff_of_true (fun _ held hheld _ => ?_) (hfree fun _ heq => ?_)
        · obtain rfl : registryId = held := by simpa [hrow', hempty] using hheld
          exact ⟨_, (requestOf_congr (statement_payload hstatement)).trans hrequest,
            hcontinues.1 hempty⟩
        · cases heq
          exact hempty rfl

theorem step_given_iff (hi : RegistryDrain.Invariant readRequest s) (h : HandlesGiven readRequest s)
    (hnext : next readRequest s e = some u) :
    HandlesGiven readRequest u ↔ HoldsNoOther readRequest s e := by
  rw [handlesGiven_iff (RegistryDrain.step_preserves_invariant hi hnext)]
  cases next_moves hnext with
  | publish hread howner hnew => exact iff_of_true (publish_given h) trivial
  | acknowledged hcurrent hkept _ => exact iff_of_true (h.more hkept) trivial
  | lookedUp hcurrent hkept _ => exact iff_of_true (h.more hkept) trivial
  | notWritten hcurrent hnone _ =>
    refine iff_of_true h.rows ?_
    intro id' message ok' failed' row hcurrent' hruns hrow hpending
    rw [hcurrent] at hcurrent'
    cases hcurrent'
    have hno := hnone hruns
    simp [hrow, Write.statement, RegistryRows.submitted, hpending] at hno
  | written hcurrent hruns hrow hstatement _ =>
    exact written_given_iff hi h hcurrent hruns hrow hstatement
  | abandonWritten _ _ _ hstatement =>
    refine iff_of_true ((setRow_given_iff h).mpr fun hsubmitted => ?_) trivial
    obtain ⟨-, -, -, rfl⟩ := abandon_some hstatement
    cases hsubmitted
  | handleConfirmed _ => exact iff_of_true (h.more (List.subset_cons_self _ _)) trivial
  | handleLost hr hnone =>
    refine iff_of_true h.rows ?_
    intro r row hr' _ hruns hrow hsome
    obtain rfl := Option.some.inj (hr.symm.trans hr')
    have hno := hnone hruns
    rw [hrow, Option.bind_some] at hno
    simp [hno] at hsome
  | handleWritten hr hconfirmed hruns hrow hstatement =>
    refine (setRow_given_iff h).trans ?_
    obtain ⟨hsubmitted, -, rfl⟩ := recordHandle_some hstatement
    constructor
    · intro hfits r row hr' _ _ hrow₀ _ hne
      obtain rfl := Option.some.inj (hr.symm.trans hr')
      obtain rfl := Option.some.inj (hrow.symm.trans hrow₀)
      exact (hfits hsubmitted _ rfl hne).congr rfl
    · rintro hcond _ held ⟨⟩ hne
      exact (hcond _ _ hr hconfirmed hruns hrow (by simp [hstatement]) hne).congr rfl
  | _ => exact iff_of_true h.rows trivial

theorem idle_holdsNoOther (h : next readRequest s e = none) : HoldsNoOther readRequest s e := by
  cases e with
  | written fate jitter =>
    intro id message ok failed row hcurrent
    simp [next, hcurrent] at h
  | handleWritten i fate =>
    rintro ⟨id, request, handle, confirmed⟩ row hr rfl
    simp [next, hr] at h
  | _ => trivial

end Steps

section Runs

/-- The handle of a submitted row belongs to its payload in every state of a run exactly when no
row is submitted without a handle while it holds one of another payload. -/
theorem submitted_handles_given_iff (readRequest : Json → Except String RegistrationRequest)
    (now : Int) (es : List Event) :
    (∀ before after t, es = before ++ after →
      run (next readRequest) (initial now) before = some t → HandlesGiven readRequest t) ↔
        Along (next readRequest) (HoldsNoOther readRequest) (initial now) es := by
  refine states_iff_along ?_ (@RegistryDrain.initial_invariant readRequest now) ?_ ?_ ?_
  · exact ⟨fun _ _ h => by simp [initial] at h, fun _ _ h => by simp [initial] at h⟩
  · exact fun _ _ _ hi h => RegistryDrain.step_preserves_invariant hi h
  · exact fun _ _ _ hi h hnext => step_given_iff hi h hnext
  · exact fun _ _ h => idle_holdsNoOther h

def refusedRequest : RegistrationRequest := ⟨1, 7, .str "62.01"⟩

def correctedRequest : RegistrationRequest := ⟨1, 8, .str "8507.60"⟩

def payloadOf (request : RegistrationRequest) : Json :=
  .obj [("requestId", .num request.requestId), ("commodityCode", request.body)]

def sampleRead (payload : Json) : Except String RegistrationRequest :=
  if payload = payloadOf refusedRequest then .ok refusedRequest
  else if payload = payloadOf correctedRequest then .ok correctedRequest
  else .error "missing field `requestId`"

def refusedSubmission : List Event :=
  [.publish 1 (payloadOf refusedRequest), .due [1], .takeUp, .received,
    .acknowledged (.ok (.accepted "CORR-1")), .written .heard 1000, .tick 2000000000, .due [1],
    .takeUp, .reported (.ok (.refused "unknown commodity code")), .written .heard 1000]

/-- The corrected payload is received with its answer lost, and found to be held on the retry. -/
def heldAlready : List Event :=
  [.publish 1 (payloadOf correctedRequest), .due [1], .takeUp, .received,
    .acknowledged (.error (.other "operation timed out")), .written .heard 1000, .tick 4000000000,
    .due [1], .takeUp, .acknowledged (.ok .alreadyHeld), .written .heard 1000]

theorem corrected_payload_under_the_refused_handle :
    ¬∀ (readRequest : Json → Except String RegistrationRequest) (now : Int) (es : List Event),
      ∀ before after t, es = before ++ after →
        run (next readRequest) (initial now) before = some t → HandlesGiven readRequest t := by
  intro h
  have hleft : ((run (next sampleRead) (initial 0) (refusedSubmission ++ heldAlready)).any fun t =>
      (t.rows 1).any fun row => row.status = .submitted ∧ row.registryId = some "CORR-1" ∧
        requestOf sampleRead row = some correctedRequest ∧
          (correctedRequest, "CORR-1") ∉ t.given) = true := by
    decide +kernel
  obtain ⟨t, hrun, hrow⟩ := (Option.any_eq_true _ _).mp hleft
  obtain ⟨row, hrow, hleft⟩ := (Option.any_eq_true _ _).mp hrow
  obtain ⟨hsubmitted, hheld, hrequest, hnot⟩ := of_decide_eq_true hleft
  have hgiven :=
    h sampleRead 0 (refusedSubmission ++ heldAlready) (refusedSubmission ++ heldAlready)
    [] t (List.append_nil _).symm hrun
  obtain ⟨request, hsame, hmem⟩ := hgiven.rows 1 row hrow hsubmitted "CORR-1" hheld (by decide)
  obtain rfl := Option.some.inj (hrequest.symm.trans hsame)
  exact hnot hmem

end Runs

end RegistryHandles
