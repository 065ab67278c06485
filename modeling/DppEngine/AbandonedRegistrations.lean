import DppEngine.RegistryDrain

/-! Giving up on a registration by hand.

The request asks the registry and then writes, in two steps. An attempt the drain makes in between
may be received with its answer lost, and it leaves the row pending and backed off, as the request
found it. -/
namespace AbandonedRegistrations

open JsonValues PassportModel RegistryRows RegistryDrain TransitionSystems

section Safety

variable (readRequest : Json → Except String RegistrationRequest)

/-- A row becomes abandoned only when the registry holds nothing for it and is being sent nothing,
and from then on only a publish changes it. -/
structure Safe (s : State) (e : Event) (u : State) : Prop where
  absent : ∀ id row, u.rows id = some row → row.status = .abandoned →
    (∀ before, s.rows id = some before → before.status ≠ .abandoned) →
      (∀ request, requestOf readRequest row = some request → request ∉ u.held) ∧
        ∀ request, u.current ≠ some (id, .register request)
  final : ∀ id row, s.rows id = some row → row.status = .abandoned →
    u.rows id = some row ∨ ∃ payload, e = .publish id payload

def AsRead (s : State) : Event → Prop
  | .abandonWritten i user reason _ => ∀ r ∈ s.abandoning[i]?, ∀ row ∈ s.rows r.id,
      (abandon s.clock row ("abandoned by " ++ user ++ ": " ++ reason)).isSome →
        row.payload = r.row.payload ∧ row.attempts = r.row.attempts
  | _ => True

instance (s : State) : ∀ e, Decidable (AsRead s e)
  | .abandonWritten i user reason _ => inferInstanceAs (Decidable (∀ r ∈ s.abandoning[i]?,
      ∀ row ∈ s.rows r.id,
        (abandon s.clock row ("abandoned by " ++ user ++ ": " ++ reason)).isSome →
          row.payload = r.row.payload ∧ row.attempts = r.row.attempts))
  | .tick _ | .publish _ _ | .due _ | .takeUp | .received | .acknowledged _ | .lookedUp _
  | .reported _ | .written _ _ | .abandonRead _ _ | .abandonLookedUp _ _ | .handleRead _ _
  | .handleConfirmed _ _ | .handleWritten _ _ => .isTrue trivial

end Safety

section Invariants

variable {readRequest : Json → Except String RegistrationRequest} {s u : State} {e : Event}
  {id : PassportId} {row row' : RegistrySyncRow} {r : Abandoning}

/-- While the row is the one a request read, its attempts only grow, and what the registry has
received since it was found to hold nothing leaves the row due until the attempt is counted. -/
structure Tracked (readRequest : Json → Except String RegistrationRequest) (s : State)
    (r : Abandoning) : Prop where
  request : requestOf readRequest r.row = some r.request
  minted : r.request ∈ s.minted
  known : ∀ row, s.rows r.id = some row → row.status = .pending → row.payload = r.row.payload →
    r.row.attempts ≤ row.attempts ∧
      (r.absent = true → row.attempts = r.row.attempts → r.request ∈ s.held →
        row.nextAttemptAt ≤ s.clock)

structure Invariant (readRequest : Json → Except String RegistrationRequest)
    (s : State) : Prop where
  drain : RegistryDrain.Invariant readRequest s
  tracked : ∀ r ∈ s.abandoning, Tracked readRequest s r

def Later (readRequest : Json → Except String RegistrationRequest) (s u : State) : Prop :=
  ∀ id row', u.rows id = some row' → row'.status = .pending →
    (∃ row, s.rows id = some row ∧ row.status = .pending ∧ row.payload = row'.payload ∧
      (row.attempts < row'.attempts ∨
        row.attempts = row'.attempts ∧ row.nextAttemptAt = row'.nextAttemptAt)) ∨
    ∀ request ∈ s.minted, requestOf readRequest row' ≠ some request

theorem later_of_rows (hrows : u.rows = s.rows) : Later readRequest s u := by
  intro id row' hrow' hstatus
  exact Or.inl ⟨row', hrows ▸ hrow', hstatus, rfl, Or.inr ⟨rfl, rfl⟩⟩

theorem later_of_setRow (h : row.status = .pending →
    (∃ before, s.rows id = some before ∧ before.status = .pending ∧ before.payload = row.payload ∧
      (before.attempts < row.attempts ∨
        before.attempts = row.attempts ∧ before.nextAttemptAt = row.nextAttemptAt)) ∨
    ∀ request ∈ s.minted, requestOf readRequest row ≠ some request) :
    Later readRequest s (s.setRow id row) := by
  intro id' row' hrow' hstatus
  by_cases hid : id' = id
  · subst hid
    rw [setRow_rows_self] at hrow'
    cases hrow'
    exact h hstatus
  · rw [setRow_rows_ne hid] at hrow'
    exact Or.inl ⟨row', hrow', hstatus, rfl, Or.inr ⟨rfl, rfl⟩⟩

/-- Of the drain's statements only a failed attempt leaves a row pending. -/
theorem statement_pending {w : Write} {jitter : ℕ} {now : Int}
    (h : w.statement now jitter row = some row') (hpending : row'.status = .pending) :
    row.status = .pending ∧ row.payload = row'.payload ∧ row.attempts < row'.attempts := by
  cases w with
  | submitted id message =>
    obtain ⟨-, rfl⟩ := submitted_some h
    cases hpending
  | registered id =>
    obtain ⟨-, rfl⟩ := markRegistered_some h
    cases hpending
  | rejected message =>
    obtain ⟨-, rfl⟩ := markRejected_some h
    cases hpending
  | attemptFailed message =>
    obtain ⟨-, rfl⟩ := markAttemptFailed_some h
    exact ⟨hpending, rfl, Nat.lt_succ_self _⟩

theorem next_later (h : Moves readRequest s e u) : Later readRequest s u := by
  cases h with
  | publish hread howner hnew =>
    apply later_of_setRow
    intro hpending
    rcases queueRegistration_cases s.clock _ (s.rows _) with
      ⟨-, hpayload⟩ | ⟨row, hrow, -, -, hsame⟩
    · refine Or.inr ?_
      rintro request hminted hrequest
      rw [requestOf, hpayload, Option.bind_some, hread] at hrequest
      cases hrequest
      exact hnew hminted
    · rw [hsame] at hpending ⊢
      exact Or.inl ⟨row, hrow, hpending, rfl, Or.inr ⟨rfl, rfl⟩⟩
  | written _ _ hrow hstatement _ =>
    apply later_of_setRow
    intro hpending
    obtain ⟨hbefore, hpayload, hmore⟩ := statement_pending hstatement hpending
    exact Or.inl ⟨_, hrow, hbefore, hpayload, Or.inl hmore⟩
  | abandonWritten _ _ _ hstatement =>
    apply later_of_setRow
    intro hpending
    obtain ⟨-, -, -, rfl⟩ := abandon_some hstatement
    cases hpending
  | handleWritten _ _ _ _ hstatement =>
    apply later_of_setRow
    intro hpending
    obtain ⟨hsubmitted, -, rfl⟩ := recordHandle_some hstatement
    cases hpending.symm.trans hsubmitted
  | _ => exact later_of_rows rfl

theorem Tracked.later (h : Tracked readRequest s r) (hlater : Later readRequest s u)
    (hminted : s.minted ⊆ u.minted) (hclock : s.clock ≤ u.clock)
    (hheld : r.request ∈ u.held → r.request ∈ s.held) : Tracked readRequest u r := by
  refine ⟨h.request, hminted h.minted, ?_⟩
  intro row' hrow' hstatus hpayload
  rcases hlater r.id row' hrow' hstatus with
    ⟨row, hrow, hbefore, hsame, hattempts⟩ | hnew
  · obtain ⟨hle, hdue⟩ := h.known row hrow hbefore (hsame.trans hpayload)
    rcases hattempts with hmore | ⟨hattempts, hnext⟩
    · exact ⟨by omega, fun _ heq => by omega⟩
    · refine ⟨by omega, fun habsent heq hin => ?_⟩
      have hbeforeDue := hdue habsent (by omega) (hheld hin)
      omega
  · -- a registration built later is not the one the request read
    exact absurd ((requestOf_congr hpayload).trans h.request) (hnew r.request h.minted)

theorem received_tracked {request : RegistrationRequest} (hi : Invariant readRequest s)
    (hcurrent : s.current = some (id, .register request)) (hr : r ∈ s.abandoning) :
    Tracked readRequest { s with held := request :: s.held } r := by
  have h := hi.tracked r hr
  refine ⟨h.request, h.minted, ?_⟩
  intro row' hrow' hstatus hpayload
  obtain ⟨hle, hdue⟩ := h.known row' hrow' hstatus hpayload
  refine ⟨hle, fun habsent heq hin => ?_⟩
  rcases List.mem_cons.mp hin with hsame | hin
  · cases hi.drain.working id _ hcurrent with
    | closing h => exact h.elim
    | registering hrow hrequest _ hrowDue =>
      obtain ⟨owned, howned, howner, -⟩ := hi.drain.owned id _ hrow
      obtain ⟨owned', howned', howner', -⟩ := hi.drain.owned r.id _ hrow'
      have hread := (requestOf_congr hpayload).trans h.request
      have hid : r.id = id := by
        rw [← howner, ← howner']
        congr 1
        rw [howned'] at hread
        rw [howned] at hrequest
        cases hread
        cases hrequest
        exact hsame
      rw [hid] at hrow'
      obtain rfl := Option.some.inj (hrow.symm.trans hrow')
      exact hrowDue
    | continuing _ _ _ h => exact h.elim
  · exact hdue habsent heq hin

theorem initial_invariant (now : Int) : Invariant readRequest (initial now) :=
  ⟨RegistryDrain.initial_invariant now, by simp [initial]⟩

theorem step_preserves_invariant (hi : Invariant readRequest s)
    (h : next readRequest s e = some u) : Invariant readRequest u := by
  refine ⟨RegistryDrain.step_preserves_invariant hi.drain h, ?_⟩
  have hlater := next_later (next_moves h)
  cases next_moves h with
  | tick hforward =>
    exact fun r hr => (hi.tracked r hr).later hlater (List.Subset.refl _) hforward fun hin => hin
  | publish hread howner hnew =>
    exact fun r hr => (hi.tracked r hr).later hlater (List.subset_cons_self _ _) le_rfl
      fun hin => hin
  | received hcurrent => exact fun r hr => received_tracked hi hcurrent hr
  | abandonRefused => exact hi.tracked
  | abandonRead hrow hstatus hrequest =>
    intro r hr
    rcases List.mem_append.mp hr with hr | hr
    · exact (hi.tracked r hr).later hlater (List.Subset.refl _) le_rfl fun hin => hin
    · obtain rfl := List.mem_singleton.mp hr
      obtain ⟨request, hsame, -, hminted⟩ := hi.drain.owned _ _ hrow
      obtain rfl := Option.some.inj (hrequest.symm.trans hsame)
      refine ⟨hrequest, hminted, ?_⟩
      intro row' hrow' _ _
      obtain rfl := Option.some.inj (hrow.symm.trans hrow')
      exact ⟨le_rfl, fun habsent => by simp at habsent⟩
  | abandonAbsent hr habsent =>
    intro r' hr'
    rcases List.mem_or_eq_of_mem_set hr' with hold | rfl
    · exact (hi.tracked r' hold).later hlater (List.Subset.refl _) le_rfl fun hin => hin
    · have htracked := hi.tracked _ (List.mem_of_getElem? hr)
      refine ⟨htracked.request, htracked.minted, ?_⟩
      intro row' hrow' hstatus hpayload
      exact ⟨(htracked.known row' hrow' hstatus hpayload).1, fun _ _ hin => absurd hin habsent⟩
  | abandonEnded =>
    exact fun r hr => (hi.tracked r (List.mem_of_mem_eraseIdx hr)).later hlater
      (List.Subset.refl _) le_rfl fun hin => hin
  | abandonLost =>
    exact fun r hr => (hi.tracked r (List.mem_of_mem_eraseIdx hr)).later hlater
      (List.Subset.refl _) le_rfl fun hin => hin
  | abandonWritten _ _ hrow hstatement =>
    exact fun r hr => (hi.tracked r (List.mem_of_mem_eraseIdx hr)).later hlater
      (List.Subset.refl _) le_rfl fun hin => hin
  | _ => exact fun r hr => (hi.tracked r hr).later hlater (List.Subset.refl _) le_rfl fun hin => hin

end Invariants

section Runs

variable {readRequest : Json → Except String RegistrationRequest} {s u : State} {e : Event}
  {id : PassportId} {row row' : RegistrySyncRow}

theorem statement_abandoned {w : Write} {jitter : ℕ} {now : Int}
    (h : w.statement now jitter row = some row') :
    row.status ≠ .abandoned ∧ row'.status ≠ .abandoned := by
  cases w with
  | submitted id message =>
    obtain ⟨hstatus, rfl⟩ := submitted_some h
    exact ⟨hstatus, by simp⟩
  | registered id =>
    obtain ⟨hstatus, rfl⟩ := markRegistered_some h
    exact ⟨hstatus, by simp⟩
  | rejected message =>
    obtain ⟨hstatus, rfl⟩ := markRejected_some h
    exact ⟨hstatus, by simp⟩
  | attemptFailed message =>
    obtain ⟨hstatus, rfl⟩ := markAttemptFailed_some h
    exact ⟨hstatus, hstatus⟩

theorem setRow_safe (hu : u.rows = (s.setRow id row').rows) (hafter : row'.status ≠ .abandoned)
    (hbefore : (∀ row, s.rows id = some row → row.status ≠ .abandoned) ∨
      ∃ payload, e = .publish id payload) : Safe readRequest s e u := by
  constructor
  · intro id' row hrow habandoned hnot
    by_cases hid : id' = id
    · subst hid
      rw [hu, setRow_rows_self] at hrow
      cases hrow
      exact absurd habandoned hafter
    · rw [hu, setRow_rows_ne hid] at hrow
      exact absurd habandoned (hnot row hrow)
  · intro id' row hrow habandoned
    by_cases hid : id' = id
    · subst hid
      rcases hbefore with hbefore | hpublish
      · exact absurd habandoned (hbefore row hrow)
      · exact Or.inr hpublish
    · rw [hu, setRow_rows_ne hid]
      exact Or.inl hrow

theorem same_safe (hu : u.rows = s.rows) : Safe readRequest s e u := by
  constructor
  · intro id row hrow habandoned hnot
    rw [hu] at hrow
    exact absurd habandoned (hnot row hrow)
  · intro id row hrow _
    exact Or.inl (hu ▸ hrow)

theorem abandonWritten_safe {i : ℕ} {user reason : String} {fate : Fate} {r : Abandoning}
    (hi : Invariant readRequest s) (hc : AsRead s (.abandonWritten i user reason fate))
    (hr : s.abandoning[i]? = some r) (habsent : r.absent = true) (hrow : s.rows r.id = some row)
    (hstatement : abandon s.clock row ("abandoned by " ++ user ++ ": " ++ reason) = some row') :
    Safe readRequest s (.abandonWritten i user reason fate)
      { s.setRow r.id row' with abandoning := s.abandoning.eraseIdx i } := by
  have htracked := hi.tracked r (List.mem_of_getElem? hr)
  obtain ⟨hpayload, hattempts⟩ := hc r hr row hrow (by simp [hstatement])
  obtain ⟨hstatus, -, hbacked, rfl⟩ := abandon_some hstatement
  have hdue := (htracked.known row hrow hstatus hpayload).2 habsent hattempts
  constructor
  · intro id row' hrow' habandoned hnot
    by_cases hid : id = r.id
    · subst hid
      obtain rfl := Option.some.inj (setRow_rows_self.symm.trans hrow')
      refine ⟨?_, ?_⟩
      · intro request hrequest hin
        have hread := (requestOf_congr hpayload).trans htracked.request
        obtain rfl := Option.some.inj (hrequest.symm.trans hread)
        have := hdue hin
        omega
      · intro request hcurrent
        cases hi.drain.working r.id _ hcurrent with
        | closing h => exact h.elim
        | registering hrow₀ _ _ hrowDue =>
          obtain rfl := Option.some.inj (hrow.symm.trans hrow₀)
          omega
        | continuing _ _ _ h => exact h.elim
    · exact absurd habandoned (hnot row' ((setRow_rows_ne hid).symm.trans hrow'))
  · intro id row' hrow' habandoned
    by_cases hid : id = r.id
    · subst hid
      obtain rfl := Option.some.inj (hrow.symm.trans hrow')
      cases hstatus.symm.trans habandoned
    · exact Or.inl ((setRow_rows_ne hid).trans hrow')

theorem step_safe (hi : Invariant readRequest s) (hc : AsRead s e)
    (h : next readRequest s e = some u) : Safe readRequest s e u := by
  cases next_moves h with
  | publish hread howner hnew =>
    refine setRow_safe rfl ?_ (Or.inr ⟨_, rfl⟩)
    rcases queueRegistration_cases s.clock _ (s.rows _) with
      ⟨hpending, -⟩ | ⟨row, hrow, -, hnot, hsame⟩
    · intro habandoned
      cases hpending.symm.trans habandoned
    · rw [hsame]
      exact hnot
  | written _ _ hrow hstatement _ =>
    obtain ⟨hbefore, hafter⟩ := statement_abandoned hstatement
    refine setRow_safe rfl hafter (Or.inl ?_)
    intro row₀ hrow₀
    obtain rfl := Option.some.inj (hrow.symm.trans hrow₀)
    exact hbefore
  | abandonWritten hr habsent hrow hstatement =>
    exact abandonWritten_safe hi hc hr habsent hrow hstatement
  | handleWritten _ _ _ hrow hstatement =>
    obtain ⟨hsubmitted, -, rfl⟩ := recordHandle_some hstatement
    refine setRow_safe rfl (by simp [hsubmitted]) (Or.inl ?_)
    intro row₀ hrow₀
    obtain rfl := Option.some.inj (hrow.symm.trans hrow₀)
    simp [hsubmitted]
  | _ => exact same_safe rfl

/-- In a run whose abandoning requests find the rows they end as they read them, no abandoned
registration is held by the registry or on its way there. -/
theorem abandoned_rows_held_nowhere (readRequest : Json → Except String RegistrationRequest)
    (now : Int) (es : List Event) (h : Along (next readRequest) AsRead (initial now) es) :
    ∀ before e after s u, es = before ++ e :: after →
      run (next readRequest) (initial now) before = some s → next readRequest s e = some u →
        Safe readRequest s e u := by
  rintro before e after s u rfl hrun hnext
  have hi : Invariant readRequest s := reachable_invariant
    (fun _ _ _ hi h => step_preserves_invariant hi h) (initial_invariant now) hrun
  exact step_safe hi (h.drop hrun).1 hnext

def sampleRequest : RegistrationRequest := ⟨1, 7, .null⟩

def samplePayload : Json := .obj [("passportId", .num 1), ("requestId", .num 7)]

def sampleRead (payload : Json) : Except String RegistrationRequest :=
  if payload = samplePayload then .ok sampleRequest else .error "missing field `passportId`"

def failedAttempt : List Event :=
  [.due [1], .takeUp, .acknowledged (.error (.other "connection refused")), .written .heard 1000]

def lostAnswer : List Event :=
  [.due [1], .takeUp, .received, .acknowledged (.error (.other "operation timed out")),
    .written .heard 1000]

def askedToAbandon : List Event :=
  [.abandonRead 1 0, .abandonLookedUp 0 (.ok (.notFound true))]

def abandonNow : Event := .abandonWritten 0 "op" "withdrawn" .heard

def abandonedAfterFailure : List Event :=
  (.publish 1 samplePayload :: failedAttempt) ++ askedToAbandon

theorem sample_abandon_is_safe : ∃ s u,
    run (next sampleRead) (initial 0) abandonedAfterFailure = some s ∧
      next sampleRead s abandonNow = some u ∧ (u.rows 1).any (·.status = .abandoned) = true ∧
        Safe sampleRead s abandonNow u := by
  have hasRead : Along (next sampleRead) AsRead (initial 0)
      (abandonedAfterFailure ++ [abandonNow]) := by
    decide +kernel
  have habandoned : ((run (next sampleRead) (initial 0) abandonedAfterFailure).any fun s =>
      (next sampleRead s abandonNow).any fun u =>
        (u.rows 1).any (·.status = .abandoned)) = true := by
    decide +kernel
  obtain ⟨s, hrun, hs⟩ := (Option.any_eq_true _ _).mp habandoned
  obtain ⟨u, hnext, hrow⟩ := (Option.any_eq_true _ _).mp hs
  exact ⟨s, u, hrun, hnext, hrow, abandoned_rows_held_nowhere sampleRead 0
    (abandonedAfterFailure ++ [abandonNow]) hasRead abandonedAfterFailure abandonNow [] s u rfl hrun
    hnext⟩

/-- The registry is asked, the drain's next attempt is received with its answer lost, and the row
is abandoned all the same. -/
def abandonedAfterLostAnswer : List Event :=
  (.publish 1 samplePayload :: failedAttempt) ++ askedToAbandon ++ (.tick 2000000000 :: lostAnswer)

theorem abandoned_while_the_registry_holds_it :
    ¬∀ (readRequest : Json → Except String RegistrationRequest) (now : Int) (es : List Event),
      ∀ before e after s u, es = before ++ e :: after →
        run (next readRequest) (initial now) before = some s → next readRequest s e = some u →
          Safe readRequest s e u := by
  intro h
  have hstranded : ((run (next sampleRead) (initial 0) abandonedAfterLostAnswer).any fun s =>
      (s.rows 1).any (·.status ≠ .abandoned) &&
        (next sampleRead s abandonNow).any fun u =>
          (u.rows 1).any fun row => row.status = .abandoned ∧
            requestOf sampleRead row = some sampleRequest ∧ sampleRequest ∈ u.held) = true := by
    decide +kernel
  obtain ⟨s, hrun, hs⟩ := (Option.any_eq_true _ _).mp hstranded
  obtain ⟨hbefore, hu⟩ := Bool.and_eq_true_iff.mp hs
  obtain ⟨u, hnext, hrow⟩ := (Option.any_eq_true _ _).mp hu
  obtain ⟨row, hrow, hstranded⟩ := (Option.any_eq_true _ _).mp hrow
  obtain ⟨habandoned, hrequest, hheld⟩ := of_decide_eq_true hstranded
  have hsafe := h sampleRead 0 (abandonedAfterLostAnswer ++ [abandonNow]) abandonedAfterLostAnswer
    abandonNow [] s u rfl hrun hnext
  refine (hsafe.absent 1 row hrow habandoned ?_).1 sampleRequest hrequest hheld
  intro before hread
  simpa [hread] using hbefore

end Runs

end AbandonedRegistrations
