import DppEngine.PassportRequests
import DppEngine.RegistryRows

/-! The status owed to the registry, beside the status of the passport it is owed for.

A publish reads the passport, waits for the label its passport claims, asks the registry
defaults and the queue, and commits later; every other request decides on its own read. The
commit writes the passport and the queue row in one transaction. `Registering` holds what the
domain library decides about a registration, and where the label lock of a passport is. The node
always has a queue, so what a service without one does is left out. -/
namespace StatusIntents

open JsonValues PassportModel StateChangeLog PassportRequests RegistryRows TransitionSystems
open FallibleSteps

structure Registering where
  /-- Why a scheme and a value cannot stand for the operator. -/
  operatorRefusal : String → String → Option String
  facilityRefusal : Json → Option String
  /-- The request built from a published passport and the operator's scheme, with the node's
  back-up declared on it. -/
  fromPublishedPassport : Passport → String → Except String Json
  /-- The stripe of the label lock, for a passport that claims something. -/
  stripe : Passport → Option ℕ

section Registration

variable (rg : Registering) (sv : Services)

def unregistrableIdentity (operatorScheme : String) (p : Passport) : Option String :=
  let operator := p.operatorIdentifier.bind fun value =>
    if operatorScheme = "" then none else rg.operatorRefusal operatorScheme value
  let facility := p.facility.bind rg.facilityRefusal
  (operator.map fun e =>
    "cannot publish: the operator identifier cannot be registered with the EU registry: " ++ e ++
      ". A registration carries an LEI or a D-U-N-S number; make one the primary operator" ++
      " identifier (`odal operator-id`).").or
  (facility.map fun e =>
    "cannot publish: the facility identifier cannot be registered with the EU registry: " ++ e ++
      ". A registration carries a GLN, an LEI or a D-U-N-S number.")

/-- The scheme of the stamped value, when it is still the primary identifier's. -/
def identifierScheme (primary : Option (String × String)) (p : Passport) : String :=
  ((primary.filter fun (_, value) => some value = p.operatorIdentifier).map Prod.fst).getD ""

/-- The registration a publish owes, if one can be built. `queued` is a passport that has a row
already, whose identity is not refused for its scheme. -/
def registration (queued : Bool) (primary : Option (String × String)) (p : Passport) :
    Except DppError (Option Json) :=
  let scheme := identifierScheme primary p
  let built := match unregistrableIdentity rg scheme p with
    | some why => if queued then rg.fromPublishedPassport p scheme else .error why
    | none => rg.fromPublishedPassport p scheme
  match built with
  | .ok payload => .ok (some payload)
  | .error missing =>
    -- without a live obligation the passport is published with no registration
    if sv.obligationLive p.productGroup then .error (.validation "" missing) else .ok none

end Registration

/-- A state change with what it owes the registry. -/
structure Owing where
  request : Request
  registration : Option Json
  intent : Option RegistryStatusIntent
  deriving DecidableEq, Repr

def intentOf : Operation → Option RegistryStatusIntent
  | .suspend _ => some .suspended
  | .retire => some .deactivated
  | .declareEol _ => some .deactivated
  | _ => none

/-- Everything a publish does while it holds its label, up to the commit. -/
def preparePublish (rg : Registering) (sv : Services) (now : Int) (queued : Bool) (caller : Caller)
    (p : Passport) (answers : PublishAnswers) : Except DppError Owing := do
  let change ← prepare sv now caller p (.publish { answers with registration := none })
  let request : Request := ⟨p, change⟩
  let owed ← (request.replacement.map
    (registration rg sv queued (answers.registry.bind Prod.fst))).getD (.ok none)
  return ⟨request, owed, none⟩

/-- The statements of the drain and of the operator's routes, each on the row as it stands. -/
inductive Statement where
  | submitted (jitter : ℕ) (registryId : String) (message : Option String)
  | recordHandle (correlationId : String)
  | abandon (message : String)
  | markRegistered (registryId : String)
  | markRejected (message : String)
  | markAttemptFailed (jitter : ℕ) (message : String)
  deriving DecidableEq, Repr

def Statement.apply (now : Int) (row : RegistrySyncRow) : Statement → Option RegistrySyncRow
  | .submitted jitter registryId message => RegistryRows.submitted now jitter row registryId message
  | .recordHandle correlationId => RegistryRows.recordHandle now row correlationId
  | .abandon message => RegistryRows.abandon now row message
  | .markRegistered registryId => RegistryRows.markRegistered row registryId
  | .markRejected message => RegistryRows.markRejected row message
  | .markAttemptFailed jitter message => RegistryRows.markAttemptFailed now jitter row message

structure State where
  store : Store
  sync : Option RegistrySyncRow
  /-- The publishes that have read the passport and wait for its label. -/
  waiting : List (Caller × Passport)
  inFlight : List Owing
  now : Int
  deriving DecidableEq, Repr

/-- `leave` is a request that ends before its commit, and gives its label back. -/
inductive Event where
  | tick (t : Int)
  | publish (caller : Caller)
  | build (i : ℕ) (answers : PublishAnswers)
  | request (caller : Caller) (op : Operation)
  | commit (i : ℕ) (began : Int)
  | leave (i : ℕ)
  | drain (statement : Statement)
  deriving Repr

section System

variable (rg : Registering) (sv : Services)

def labelFree (s : State) (p : Passport) : Bool :=
  (rg.stripe p).isNone || s.inFlight.all fun o =>
    o.request.replacement.isNone || rg.stripe o.request.read ≠ rg.stripe p

/-- The queue row after a commit: the registration first, then the status. -/
def writeSync (began : Int) (o : Owing) (sync : Option RegistrySyncRow) : Option RegistrySyncRow :=
  let queued := match o.registration with
    | some payload => some (queueRegistration began payload sync)
    | none => sync
  match o.intent with
  | some intent => queued.map (recordStatusIntent · intent)
  | none => queued

/-- A refused change leaves both rows alone. -/
def settle (s : State) (i : ℕ) (o : Owing) (began : Int) : State :=
  match commit sv.readContent sv.isProtectedPatchField sv.contentHash s.store s.now began
      o.request.change with
  | .ok store => { s with store, sync := writeSync began o s.sync,
                          inFlight := s.inFlight.eraseIdx i }
  | .error _ => { s with inFlight := s.inFlight.eraseIdx i }

def next (s : State) : Event → Option State
  | .tick t => if s.now ≤ t then some { s with now := t } else none
  | .publish caller =>
    match s.store.row with
    | none => none
    | some row =>
      match readDoc sv.readContent row with
      | .error _ => some s
      | .ok p => some { s with waiting := s.waiting ++ [(caller, p)] }
  | .build i answers =>
    match s.waiting[i]? with
    | none => none
    | some (caller, p) =>
      if labelFree rg s p then
        match preparePublish rg sv s.now s.sync.isSome caller p answers with
        | .error _ => some { s with waiting := s.waiting.eraseIdx i }
        | .ok o => some { s with waiting := s.waiting.eraseIdx i, inFlight := s.inFlight ++ [o] }
      else none
  | .request _ (.publish _) => none
  | .request caller op =>
    match s.store.row with
    | none => none
    | some row =>
      match readDoc sv.readContent row with
      | .error _ => some s
      | .ok p =>
        match prepare sv s.now caller p op with
        | .error _ => some s
        | .ok change => some { s with inFlight := s.inFlight ++ [⟨⟨p, change⟩, none, intentOf op⟩] }
  | .commit i began =>
    match s.inFlight[i]? with
    | none => none
    | some o => some (settle sv s i o began)
  | .leave i =>
    if i < s.inFlight.length then some { s with inFlight := s.inFlight.eraseIdx i } else none
  | .drain statement =>
    match s.sync.bind fun row => statement.apply s.now row with
    | none => none
    | some row => some { s with sync := some row }

end System

def owed : PassportStatus → Option RegistryStatusIntent
  | .suspended => some .suspended
  | .retired => some .deactivated
  | .deactivated => some .deactivated
  | .draft => none
  | .published => none
  | .superseded => none

/-- The row of a passport records exactly what its status owes. -/
def Follows (s : State) : Prop :=
  ∀ row ∈ s.store.row, ∀ sync ∈ s.sync, sync.statusIntent = owed row.status

instance (s : State) : Decidable (Follows s) :=
  inferInstanceAs (Decidable (∀ row ∈ s.store.row, ∀ sync ∈ s.sync, _))

/-- A passport at rest: what a create has stored, or what an earlier release has left. -/
structure Resting where
  row : Row
  sync : Option RegistrySyncRow
  coherent : row.Coherent
  grouped : (productGroupOf row.doc).isSome
  follows : ∀ r ∈ sync, r.statusIntent = owed row.status

def initial (rest : Resting) (now : Int) : State := ⟨⟨some rest.row, []⟩, rest.sync, [], [], now⟩

/-- A publish that commits without a registration finds no intent on the row: it is refused by
the stored passport, or the row is missing or owes nothing. -/
def LeavesNoIntent (sv : Services) (s : State) : Event → Prop
  | .commit i began => ∀ o ∈ s.inFlight[i]?, o.registration = none →
      ∀ p ∈ o.request.replacement,
        (writePassport sv.readContent sv.isProtectedPatchField s.store.row s.now began
          (.replace p)).isOk = true →
        ∀ sync ∈ s.sync, sync.statusIntent = none
  | _ => True

def State.requests (s : State) : PassportRequests.State :=
  ⟨s.store, s.inFlight.map Owing.request, s.now⟩

def Owing.Matched (o : Owing) : Prop :=
  match o.request.change.passport with
  | .insert _ => False
  | .replace _ => o.intent = none
  | .status _ target => o.registration = none ∧ o.intent = owed target
  | .patch _ _ => o.registration = none ∧ o.intent = none

theorem Owing.Matched.of_replace {o : Owing} {p : Passport} (h : o.Matched)
    (hp : o.request.change.passport = .replace p) : o.intent = none := by
  rw [Owing.Matched, hp] at h
  exact h

theorem Owing.Matched.of_status {o : Owing} {id : PassportId} {target : PassportStatus}
    (h : o.Matched) (hp : o.request.change.passport = .status id target) :
    o.registration = none ∧ o.intent = owed target := by
  rw [Owing.Matched, hp] at h
  exact h

theorem Owing.Matched.of_patch {o : Owing} {id : PassportId} {delta : Doc} (h : o.Matched)
    (hp : o.request.change.passport = .patch id delta) :
    o.registration = none ∧ o.intent = none := by
  rw [Owing.Matched, hp] at h
  exact h

section Owed

variable {rg : Registering} {sv : Services} {now : Int} {caller : Caller} {p : Passport}
  {change : StateChange} {row row' : RegistrySyncRow}

theorem prepare_matched {op : Operation} (hop : ∀ answers, op ≠ .publish answers)
    (h : prepare sv now caller p op = .ok change) :
    Owing.Matched ⟨⟨p, change⟩, none, intentOf op⟩ := by
  cases op with
  | publish answers => exact absurd rfl (hop answers)
  | suspend reason =>
    obtain ⟨_, -, h⟩ := bind_ok h
    cases h
    exact ⟨rfl, rfl⟩
  | supersede successorId successor reason =>
    obtain ⟨_, -, h⟩ := bind_ok h
    cases successor with
    | none => cases h
    | some s =>
      obtain ⟨_, -, h⟩ := bind_ok h
      obtain ⟨_, -, h⟩ := bind_ok h
      obtain ⟨_, -, h⟩ := bind_ok h
      cases h
      exact ⟨rfl, rfl⟩
  | retire =>
    obtain ⟨_, -, h⟩ := bind_ok h
    obtain ⟨_, -, h⟩ := bind_ok h
    cases h
    exact ⟨rfl, rfl⟩
  | declareEol eol =>
    obtain ⟨_, -, h⟩ := bind_ok h
    cases h
    exact ⟨rfl, rfl⟩
  | update patch graph =>
    obtain ⟨_, -, h⟩ := bind_ok h
    cases h
    exact ⟨rfl, rfl⟩

/-- A publish that is ready to commit replaces the record it read, and sets no intent. -/
theorem preparePublish_ok {queued : Bool} {answers : PublishAnswers} {o : Owing}
    (h : preparePublish rg sv now queued caller p answers = .ok o) :
    ∃ change, prepare sv now caller p (.publish { answers with registration := none }) =
      .ok change ∧ o.request = ⟨p, change⟩ ∧ o.Matched := by
  obtain ⟨change, hprep, h⟩ := bind_ok h
  obtain ⟨owed, -, h⟩ := bind_ok h
  cases h
  refine ⟨change, hprep, rfl, ?_⟩
  obtain ⟨_, -, hprep⟩ := bind_ok hprep
  cases hprep
  rfl

/-- No statement of the drain or of the operator writes the intent. -/
theorem apply_statusIntent {statement : Statement} (h : statement.apply now row = some row') :
    row'.statusIntent = row.statusIntent := by
  cases statement with
  | submitted jitter registryId message => rw [(submitted_some h).2]
  | recordHandle correlationId => rw [(recordHandle_some h).2.2]
  | abandon message => rw [(abandon_some h).2.2.2]
  | markRegistered registryId => rw [(markRegistered_some h).2]
  | markRejected message => rw [(markRejected_some h).2]
  | markAttemptFailed jitter message => rw [(markAttemptFailed_some h).2]

theorem queueRegistration_statusIntent (payload : Json) (sync : Option RegistrySyncRow) :
    (queueRegistration now payload sync).statusIntent = none := by
  cases sync with
  | none => rfl
  | some row => rfl

/-- A status that owes nothing is reached from one that owes nothing, unless it is a publish. -/
theorem owed_of_transition {status target : PassportStatus} (howed : owed target = none)
    (hne : target ≠ .published) (hcan : status.canTransitionTo target = true) :
    owed status = none := by
  cases target with
  | superseded =>
    cases status <;> first | rfl | exact absurd hcan (by decide)
  | draft =>
    cases status <;> exact absurd hcan (by decide)
  | published => exact absurd rfl hne
  | suspended => cases howed
  | retired => cases howed
  | deactivated => cases howed

end Owed

section Steps

variable {rg : Registering} {sv : Services} {s u : State} {e : Event} {group : String}

theorem next_cases (h : next rg sv s e = some u) :
    (∃ t, e = .tick t ∧ s.now ≤ t ∧ u = { s with now := t }) ∨
    (∃ caller, e = .publish caller ∧ (u = s ∨ ∃ row p, s.store.row = some row ∧
      readDoc sv.readContent row = .ok p ∧ u = { s with waiting := s.waiting ++ [(caller, p)] })) ∨
    (∃ i answers caller p, e = .build i answers ∧ s.waiting[i]? = some (caller, p) ∧
      (u = { s with waiting := s.waiting.eraseIdx i } ∨ ∃ o,
        preparePublish rg sv s.now s.sync.isSome caller p answers = .ok o ∧
        u = { s with waiting := s.waiting.eraseIdx i, inFlight := s.inFlight ++ [o] })) ∨
    (∃ caller op, e = .request caller op ∧ (u = s ∨ ∃ row p change, s.store.row = some row ∧
      readDoc sv.readContent row = .ok p ∧ (∀ answers, op ≠ .publish answers) ∧
      prepare sv s.now caller p op = .ok change ∧
      u = { s with inFlight := s.inFlight ++ [⟨⟨p, change⟩, none, intentOf op⟩] })) ∨
    (∃ i began o, e = .commit i began ∧ s.inFlight[i]? = some o ∧ u = settle sv s i o began) ∨
    (∃ i, e = .leave i ∧ u = { s with inFlight := s.inFlight.eraseIdx i }) ∨
    (∃ statement row row', e = .drain statement ∧ s.sync = some row ∧
      statement.apply s.now row = some row' ∧ u = { s with sync := some row' }) := by
  cases e with
  | tick t =>
    simp only [next] at h
    split_ifs at h with ht
    exact Or.inl ⟨t, rfl, ht, (Option.some.inj h).symm⟩
  | publish caller =>
    refine Or.inr (Or.inl ⟨caller, rfl, ?_⟩)
    simp only [next] at h
    split at h
    · cases h
    next row hrow =>
      split at h
      · exact Or.inl (Option.some.inj h).symm
      next p hp => exact Or.inr ⟨row, p, hrow, hp, (Option.some.inj h).symm⟩
  | build i answers =>
    refine Or.inr (Or.inr (Or.inl ?_))
    simp only [next] at h
    split at h
    · cases h
    next caller p hp =>
      split_ifs at h with hfree
      refine ⟨i, answers, caller, p, rfl, hp, ?_⟩
      split at h
      · exact Or.inl (Option.some.inj h).symm
      next o ho => exact Or.inr ⟨o, ho, (Option.some.inj h).symm⟩
  | request caller op =>
    refine Or.inr (Or.inr (Or.inr (Or.inl ⟨caller, op, rfl, ?_⟩)))
    by_cases hop : ∃ answers, op = .publish answers
    · obtain ⟨answers, rfl⟩ := hop
      cases h
    · have hne : ∀ answers, op ≠ .publish answers := fun answers heq => hop ⟨answers, heq⟩
      simp only [next] at h
      split at h
      · cases h
      next row hrow =>
        split at h
        · exact Or.inl (Option.some.inj h).symm
        next p hp =>
          split at h
          · exact Or.inl (Option.some.inj h).symm
          next change hprep =>
            exact Or.inr ⟨row, p, change, hrow, hp, hne, hprep, (Option.some.inj h).symm⟩
  | commit i began =>
    refine Or.inr (Or.inr (Or.inr (Or.inr (Or.inl ?_))))
    simp only [next] at h
    split at h
    · cases h
    next o ho => exact ⟨i, began, o, rfl, ho, (Option.some.inj h).symm⟩
  | leave i =>
    refine Or.inr (Or.inr (Or.inr (Or.inr (Or.inr (Or.inl ⟨i, rfl, ?_⟩)))))
    simp only [next] at h
    split_ifs at h
    exact (Option.some.inj h).symm
  | drain statement =>
    refine Or.inr (Or.inr (Or.inr (Or.inr (Or.inr (Or.inr ?_)))))
    simp only [next] at h
    split at h
    · cases h
    next row' hrow' =>
      obtain ⟨row, hrow, happly⟩ := Option.bind_eq_some_iff.mp hrow'
      exact ⟨statement, row, row', rfl, hrow, happly, (Option.some.inj h).symm⟩

/-- The requests are those of the passport alone, each waits or flies with what it read of this
passport, and each owes what its change says. -/
structure Invariant (sv : Services) (group : String) (s : State) : Prop where
  requests : PassportRequests.Invariant sv group s.requests
  waiting : ∀ w ∈ s.waiting, w.2.productGroup = group
  matched : ∀ o ∈ s.inFlight, o.Matched

theorem initial_invariant (rest : Resting) (now : Int) :
    ∃ group, Invariant sv group (initial rest now) := by
  obtain ⟨group, hgroup⟩ := Option.isSome_iff_exists.mp rest.grouped
  exact ⟨group, ⟨⟨rest.row, rfl, rest.coherent, hgroup⟩, by simp [initial, State.requests]⟩,
    by simp [initial], by simp [initial]⟩

theorem Invariant.push {p : Passport} {change : StateChange} {op : Operation} {caller : Caller}
    {o : Owing} (hi : Invariant sv group s) (hgroup : p.productGroup = group)
    (hprep : prepare sv s.now caller p op = .ok change) (ho : o.request = ⟨p, change⟩)
    (hmatched : o.Matched) : Invariant sv group { s with inFlight := s.inFlight ++ [o] } := by
  refine ⟨⟨hi.requests.row, ?_⟩, hi.waiting, ?_⟩
  · intro r hr
    obtain ⟨o', ho', rfl⟩ := List.mem_map.mp hr
    rcases List.mem_append.mp ho' with ho' | ho'
    · exact hi.requests.requests o'.request (List.mem_map_of_mem ho')
    · obtain rfl := List.mem_singleton.mp ho'
      rw [ho]
      exact ⟨prepare_wellFormed hprep, hgroup⟩
  · intro o' ho'
    rcases List.mem_append.mp ho' with ho' | ho'
    · exact hi.matched o' ho'
    · obtain rfl := List.mem_singleton.mp ho'
      exact hmatched

theorem Invariant.dropWaiting (hi : Invariant sv group s) (i : ℕ) :
    Invariant sv group { s with waiting := s.waiting.eraseIdx i } :=
  ⟨hi.requests, fun w hw => hi.waiting w (List.mem_of_mem_eraseIdx hw), hi.matched⟩

theorem Invariant.read {row : Row} {p : Passport} (hi : Invariant sv group s)
    (hrow : s.store.row = some row) (hp : readDoc sv.readContent row = .ok p) :
    p.productGroup = group := by
  obtain ⟨row', hrow', -, hgroup⟩ := hi.requests.row
  obtain rfl : row' = row := Option.some.inj (hrow'.symm.trans hrow)
  exact Option.some.inj ((fromStored_ok hp).group.symm.trans hgroup)

/-- The commit of a request is the same step of the passport's own requests. -/
theorem settle_requests {i : ℕ} {o : Owing} {began : Int} (ho : s.inFlight[i]? = some o) :
    PassportRequests.next sv s.requests (.commit i began) =
      some (settle sv s i o began).requests := by
  have hget : s.requests.inFlight[i]? = some o.request := by
    simp [State.requests, ho]
  have herase : (s.inFlight.eraseIdx i).map Owing.request = s.requests.inFlight.eraseIdx i := by
    simp [State.requests, List.eraseIdx_map]
  simp only [PassportRequests.next, hget, Option.some.injEq]
  unfold PassportRequests.settle settle
  show (match commit sv.readContent sv.isProtectedPatchField sv.contentHash s.store s.now began
    o.request.change with | .ok store => _ | .error _ => _) = _
  cases commit sv.readContent sv.isProtectedPatchField sv.contentHash s.store s.now began
      o.request.change with
  | ok store => exact congrArg (PassportRequests.State.mk store · s.now) herase.symm
  | error _ => exact congrArg (PassportRequests.State.mk s.store · s.now) herase.symm

theorem settle_waiting (sv : Services) (s : State) (i : ℕ) (o : Owing) (began : Int) :
    (settle sv s i o began).waiting = s.waiting ∧
      (settle sv s i o began).inFlight = s.inFlight.eraseIdx i := by
  unfold settle
  split <;> exact ⟨rfl, rfl⟩

theorem step_preserves_invariant (hi : Invariant sv group s) (h : next rg sv s e = some u) :
    Invariant sv group u := by
  rcases next_cases h with ⟨t, -, ht, rfl⟩ | ⟨caller, -, hread⟩ |
    ⟨i, answers, caller, p, -, hp, hbuilt⟩ | ⟨caller, op, -, hread⟩ | ⟨i, began, o, -, ho, rfl⟩ |
    ⟨i, -, rfl⟩ | ⟨statement, row, row', -, -, -, rfl⟩
  · exact ⟨⟨hi.requests.row, fun r hr => ⟨(hi.requests.requests r hr).1.mono ht,
      (hi.requests.requests r hr).2⟩⟩, hi.waiting, hi.matched⟩
  · rcases hread with rfl | ⟨row, p, hrow, hp, rfl⟩
    · exact hi
    · refine ⟨hi.requests, fun w hw => ?_, hi.matched⟩
      rcases List.mem_append.mp hw with hw | hw
      · exact hi.waiting w hw
      · obtain rfl := List.mem_singleton.mp hw
        exact hi.read hrow hp
  · rcases hbuilt with rfl | ⟨o, ho, rfl⟩
    · exact hi.dropWaiting i
    · obtain ⟨change, hprep, hrequest, hmatched⟩ := preparePublish_ok ho
      have hgroup := hi.waiting (caller, p) (List.mem_of_getElem? hp)
      exact (hi.push hgroup hprep hrequest hmatched).dropWaiting i
  · rcases hread with rfl | ⟨row, p, change, hrow, hp, hop, hprep, rfl⟩
    · exact hi
    · exact hi.push (hi.read hrow hp) hprep rfl (prepare_matched hop hprep)
  · obtain ⟨hwaiting, hflight⟩ := settle_waiting sv s i o began
    refine ⟨PassportRequests.step_preserves_invariant hi.requests (settle_requests ho), ?_, ?_⟩
    · rw [hwaiting]
      exact hi.waiting
    · rw [hflight]
      exact fun o' ho' => hi.matched o' (List.mem_of_mem_eraseIdx ho')
  · refine ⟨⟨hi.requests.row, fun r hr => ?_⟩, hi.waiting, fun o ho => ?_⟩
    · obtain ⟨o, ho, rfl⟩ := List.mem_map.mp hr
      exact hi.requests.requests o.request (List.mem_map_of_mem (List.mem_of_mem_eraseIdx ho))
    · exact hi.matched o (List.mem_of_mem_eraseIdx ho)
  · exact ⟨hi.requests, hi.waiting, hi.matched⟩

theorem settle_rows (sv : Services) (s : State) (i : ℕ) (o : Owing) (began : Int) :
    ((writePassport sv.readContent sv.isProtectedPatchField s.store.row s.now began
        o.request.change.passport).isOk = false ∧
      (settle sv s i o began).store = s.store ∧ (settle sv s i o began).sync = s.sync) ∨
    ∃ row', writePassport sv.readContent sv.isProtectedPatchField s.store.row s.now began
        o.request.change.passport = .ok row' ∧ (settle sv s i o began).store.row = some row' ∧
      (settle sv s i o began).sync = writeSync began o s.sync := by
  unfold settle commit
  cases writePassport sv.readContent sv.isProtectedPatchField s.store.row s.now began
      o.request.change.passport with
  | error e => exact Or.inl ⟨rfl, rfl, rfl⟩
  | ok row' => exact Or.inr ⟨row', rfl, rfl, rfl⟩

/-- The intent a commit leaves on the row of a passport. -/
theorem writeSync_statusIntent {began : Int} {o : Owing} {sync : Option RegistrySyncRow}
    {row : RegistrySyncRow} (h : writeSync began o sync = some row) :
    (∃ intent, o.intent = some intent ∧ row.statusIntent = some intent) ∨
    (o.intent = none ∧ ((o.registration.isSome ∧ row.statusIntent = none) ∨
      (o.registration = none ∧ sync = some row))) := by
  unfold writeSync at h
  cases hintent : o.intent with
  | some intent =>
    simp only [hintent] at h
    obtain ⟨queued, -, rfl⟩ := Option.map_eq_some_iff.mp h
    exact Or.inl ⟨intent, rfl, rfl⟩
  | none =>
    refine Or.inr ⟨rfl, ?_⟩
    cases hreg : o.registration with
    | some payload =>
      simp only [hintent, hreg, Option.some.injEq] at h
      rw [← h]
      exact Or.inl ⟨rfl, queueRegistration_statusIntent payload sync⟩
    | none =>
      simp only [hintent, hreg] at h
      exact Or.inr ⟨rfl, h⟩

theorem leavesNoIntent_of_no_replacement {i : ℕ} {o : Owing} {began : Int}
    (ho : s.inFlight[i]? = some o) (hno : o.request.replacement = none) :
    LeavesNoIntent sv s (.commit i began) := by
  intro o' ho' _ p hp
  obtain rfl := Option.some.inj (ho.symm.trans ho')
  cases hno.symm.trans hp

/-- A commit keeps the intent in step with the status exactly when it is no publish without a
registration over a row that carries one. -/
theorem settle_follows_iff {i : ℕ} {o : Owing} {began : Int} (hi : Invariant sv group s)
    (hf : Follows s) (ho : s.inFlight[i]? = some o) :
    Follows (settle sv s i o began) ↔ LeavesNoIntent sv s (.commit i began) := by
  obtain ⟨row, hrow, hc, -⟩ := hi.requests.row
  have hrow : s.store.row = some row := hrow
  have hwf : WellFormed sv s.now o.request := (hi.requests.requests o.request
    (List.mem_map_of_mem (List.mem_of_getElem? ho))).1
  have hmatched := hi.matched o (List.mem_of_getElem? ho)
  rcases settle_rows sv s i o began with ⟨hrefused, hstore, hsync⟩ | ⟨row', hw, hrow', hsync⟩
  · have hsame : Follows (settle sv s i o began) := by
      unfold Follows
      rw [hstore, hsync]
      exact hf
    refine iff_of_true hsame ?_
    intro o' ho' _ p hp hok
    obtain rfl := Option.some.inj (ho.symm.trans ho')
    rw [← replacement_eq hp, hrefused] at hok
    cases hok
  · have hstep : Follows (settle sv s i o began) ↔
        ∀ sync ∈ writeSync began o s.sync, sync.statusIntent = owed row'.status := by
      unfold Follows
      rw [hrow', hsync]
      simp
    rw [hstep]
    have hw' := hw
    rw [hrow] at hw'
    rcases writePassport_cases (s := s.requests) hc hwf hw' with
      ⟨p, hp, hu⟩ | ⟨id, target, p, hp, -, hcan, hu⟩ | ⟨id, delta, hp, heq, -⟩
    · have hintent : o.intent = none := hmatched.of_replace hp
      have hnone : owed row'.status = none := by
        rw [hu.status, (hwf.of_replace hp).1]
        rfl
      rw [hnone]
      constructor
      · intro h o' ho' hreg q hq hok sync hsync
        obtain rfl := Option.some.inj (ho.symm.trans ho')
        refine h sync ?_
        simpa [writeSync, hintent, hreg] using hsync
      · intro hleaves sync hwritten
        rcases writeSync_statusIntent hwritten with
          ⟨intent, hsome, -⟩ | ⟨-, ⟨-, hcleared⟩ | ⟨hreg, hsync⟩⟩
        · cases hintent.symm.trans hsome
        · exact hcleared
        · refine hleaves o ho hreg p ?_ ?_ sync hsync
          · simp [Request.replacement, hp]
          · rw [← hp, hw]
            rfl
    · obtain ⟨hreg, hintent⟩ := hmatched.of_status hp
      have hstatus : row'.status = target := hu.status
      have hno : o.request.replacement = none := by simp [Request.replacement, hp]
      refine iff_of_true ?_ (leavesNoIntent_of_no_replacement ho hno)
      intro sync hwritten
      rw [hstatus]
      rcases writeSync_statusIntent hwritten with
        ⟨intent, hsome, hrecorded⟩ | ⟨hnone, ⟨hqueued, -⟩ | ⟨-, hsync⟩⟩
      · rw [hrecorded, ← hsome, hintent]
      · rw [hreg] at hqueued
        cases hqueued
      · have howed : owed target = none := hintent.symm.trans hnone
        rw [hf row hrow sync hsync, howed]
        exact owed_of_transition howed (hwf.of_status hp).1 hcan
    · obtain ⟨hreg, hintent⟩ := hmatched.of_patch hp
      have hstatus : row'.status = row.status := by rw [heq]
      have hno : o.request.replacement = none := by simp [Request.replacement, hp]
      refine iff_of_true ?_ (leavesNoIntent_of_no_replacement ho hno)
      intro sync hwritten
      rw [hstatus]
      refine hf row hrow sync ?_
      simpa [writeSync, hintent, hreg] using hwritten

theorem step_follows_iff (hi : Invariant sv group s) (hf : Follows s)
    (h : next rg sv s e = some u) : Follows u ↔ LeavesNoIntent sv s e := by
  rcases next_cases h with ⟨t, rfl, -, rfl⟩ | ⟨caller, rfl, hread⟩ |
    ⟨i, answers, caller, p, rfl, -, hbuilt⟩ | ⟨caller, op, rfl, hread⟩ |
    ⟨i, began, o, rfl, ho, rfl⟩ | ⟨i, rfl, rfl⟩ | ⟨statement, row, row', rfl, hsync, happly, rfl⟩
  · exact iff_of_true hf trivial
  · refine iff_of_true ?_ trivial
    rcases hread with rfl | ⟨_, _, -, -, rfl⟩ <;> exact hf
  · refine iff_of_true ?_ trivial
    rcases hbuilt with rfl | ⟨_, -, rfl⟩ <;> exact hf
  · refine iff_of_true ?_ trivial
    rcases hread with rfl | ⟨_, _, _, -, -, -, -, rfl⟩ <;> exact hf
  · exact settle_follows_iff hi hf ho
  · exact iff_of_true hf trivial
  · refine iff_of_true ?_ trivial
    intro passport hrow sync hwritten
    obtain rfl : row' = sync := Option.some.inj hwritten
    rw [apply_statusIntent happly]
    exact hf passport hrow row hsync

theorem idle_leavesNoIntent (h : next rg sv s e = none) : LeavesNoIntent sv s e := by
  cases e with
  | commit i began =>
    intro o ho
    simp only [next, Option.mem_def.mp ho] at h
    cases h
  | _ => trivial

end Steps

section Runs

/-- The status owed to the registry follows the passport in every state of a run exactly when no
publish without a registration commits over a row that carries an intent. -/
theorem intents_follow_status_iff (rg : Registering) (sv : Services) (rest : Resting) (now : Int)
    (es : List Event) :
    (∀ before after t, es = before ++ after →
      run (next rg sv) (initial rest now) before = some t → Follows t) ↔
        Along (next rg sv) (LeavesNoIntent sv) (initial rest now) es := by
  obtain ⟨group, hstart⟩ := @initial_invariant sv rest now
  refine states_iff_along ?_ hstart ?_ ?_ ?_
  · rintro row hrow sync hsync
    obtain rfl := Option.some.inj hrow
    exact rest.follows sync hsync
  · exact fun _ _ _ hi h => step_preserves_invariant hi h
  · exact fun _ _ _ hi hf h => step_follows_iff hi hf h
  · exact fun _ _ h => idle_leavesNoIntent h

/-- The library refuses a VAT number, and a registration that lacks one of its four parts. -/
def sampleRegistering : Registering where
  operatorRefusal scheme _ := if scheme = "vat" then some "no clause 6 route" else none
  facilityRefusal _ := none
  fromPublishedPassport p scheme :=
    if p.operatorIdentifier.isSome ∧ p.facility.isSome ∧ p.qrCodeUrl.isSome ∧
        hasProductGroupData p then
      .ok (.obj [("passportId", .str (PassportId.text p.id)), ("scheme", .str scheme)])
    else .error "a registration lacks a field"
  stripe p := if hasProductGroupData p then some 0 else none

/-- A draft created before the operator had a default facility or a primary identifier. -/
def unstampedPassport : Passport :=
  { samplePassport with content := [("productName", .str "Wool coat"),
      ("productGroupData", .obj [("gtin", .str "09506000134352")]),
      ("schemaVersion", .str "1.0.0"), ("version", .num 1)] }

def createdDraft : Draft := ⟨unstampedPassport, by decide⟩

def created : Resting where
  row := createdDraft.row sampleNow
  sync := none
  coherent := ⟨by decide, by decide, by decide⟩
  grouped := by decide
  follows := by simp

def stampingAnswers : PublishAnswers :=
  { signedAnswers with registry := some (some ("lei", "529900T8BM49AURSDO55"),
      some (.obj [("scheme", .str "gln"), ("value", .str "4012345000009")])) }

def unreadAnswers : PublishAnswers := { signedAnswers with registry := some (none, none) }

/-- Two publishes read the draft. The first is registered and suspended again before the second
asks for the defaults, by a clock that has not moved. -/
def overtakenRepublish : List Event :=
  [.publish (sampleCaller 1), .publish (sampleCaller 2), .build 0 stampingAnswers,
    .commit 0 sampleNow, .request (sampleCaller 3) (.suspend none), .commit 0 sampleNow,
    .build 0 unreadAnswers, .commit 0 sampleNow]

def registeredWithoutIdentifier : Passport :=
  { samplePassport with
    status := .published
    publishedAt := some sampleNow
    retentionLocked := true
    retentionUntil := some (retentionDeadline gregorian sampleNow 10)
    qrCodeUrl := some "https://id.example.eu/dpp/1"
    jwsSignature := some "eyJhbGciOiJFZERTQSJ9.full.sig"
    facility := some (.obj [("scheme", .str "gln"), ("value", .str "4012345000009")])
    operatorIdentifier := some "529900T8BM49AURSDO55" }

def upgraded : Resting where
  row := ⟨registeredWithoutIdentifier.id, .published, true, some sampleNow, sampleNow,
    registeredWithoutIdentifier.toDoc⟩
  sync := some ⟨.registered, none, some "REG-1", some (.obj []), none, 1, sampleNow⟩
  coherent := ⟨by decide, by decide, by decide⟩
  grouped := by decide
  follows := by decide

def reactivated : List Event :=
  [.request (sampleCaller 1) (.suspend none), .commit 0 sampleNow, .publish (sampleCaller 2),
    .build 0 stampingAnswers, .commit 0 sampleNow]

theorem live_passport_keeps_a_suspension :
    (∃ t, run (next sampleRegistering sampleServices) (initial created sampleNow)
      overtakenRepublish = some t ∧ ¬Follows t) ∧
    (∃ t, run (next sampleRegistering sampleServices) (initial upgraded sampleNow)
      reactivated = some t ∧ ¬Follows t) := by
  have hcreated : (run (next sampleRegistering sampleServices) (initial created sampleNow)
      overtakenRepublish).any (fun t => ¬Follows t) = true := by
    decide +kernel
  have hupgraded : (run (next sampleRegistering sampleServices) (initial upgraded sampleNow)
      reactivated).any (fun t => ¬Follows t) = true := by
    decide +kernel
  constructor
  · obtain ⟨t, hrun, hnot⟩ := (Option.any_eq_true _ _).mp hcreated
    exact ⟨t, hrun, of_decide_eq_true hnot⟩
  · obtain ⟨t, hrun, hnot⟩ := (Option.any_eq_true _ _).mp hupgraded
    exact ⟨t, hrun, of_decide_eq_true hnot⟩

end Runs

end StatusIntents
