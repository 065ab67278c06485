import DppEngine.StateChangeLog
import DppEngine.TransitionSystems

/-! Concurrent requests on one passport. A request reads the row, runs its checks
and builds its state change; the change commits in a later step of its own. Reads
and commits of any number of requests interleave, and the clock only moves forward.

`Services` holds what the requests ask of the domain library. What a request is
told by the signer, the registry defaults and the other rows is part of its event,
so every answer is possible in every run. -/
namespace PassportRequests

open JsonValues PassportModel AuditTrail StateChangeLog TransitionSystems FallibleSteps

structure Determination where
  co2eScore : Option Rat
  repairabilityIndex : Option Rat
  result : Json

structure Services where
  readContent : Doc → Except DppError Doc
  isProtectedPatchField : String → Bool
  contentHash : ChainContent → String
  retentionFor : String → Option ℕ
  calendar : Calendar
  obligationLive : String → Bool
  validatePassport : Passport → Option DppError
  validateSchema : Passport → Option DppError
  complianceGate : Passport → Option DppError
  mandatoryContent : Passport → Option DppError
  buildCarrierUrl : Passport → Except DppError String
  publicView : Passport → Doc
  carbonFootprint : Rat → Json
  repairabilityScore : Rat → Json
  /-- The payload's own product group, and the payload as it is serialised again. -/
  readProductGroupData : Json → Except DppError (String × Json)
  readComponentRefs : Json → Except DppError (List Json)
  readPersonalData : Json → Except DppError Doc
  checkPersonalData : Passport → Option DppError
  compute : Int → Passport → Option Determination
  computeLint : Passport → Option Json

def refuseWith : Option DppError → Except DppError Unit
  | some e => .error e
  | none => .ok ()

def refuseIf (c : Prop) [Decidable c] (e : DppError) : Except DppError Unit :=
  if c then .error e else .ok ()

def Passport.set (p : Passport) (key : String) (value : Json) : Passport :=
  { p with content := p.content.insert key value }

def hasProductGroupData (p : Passport) : Bool :=
  match p.content.get "productGroupData" with
  | none => false
  | some .null => false
  | some _ => true

section Update

variable (sv : Services)

def patchableFields : List String :=
  ["productName", "co2ePerUnit", "repairabilityScore", "productGroupData", "componentRefs",
    "personalData"]

def applyPatch (p : Passport) (patch : Json) : Except DppError (Passport × List String) := do
  let .obj body := patch | .error (.validation "" "patch body must be a JSON object")
  match Doc.get body "carrierSerial" with
  | none => pure ()
  | some v =>
    if v.asStr ≠ some p.effectiveCarrierSerial then
      .error (.validation "/carrierSerial"
        ("carrierSerial is fixed when the passport is created, and this one prints " ++
          DebugTexts.quoted p.effectiveCarrierSerial ++
          ". A different serial needs a new passport."))
  let (p, a) := match (Doc.get body "productName").bind Json.asStr with
    | some v => (Passport.set p "productName" (.str v), ["productName"])
    | none => (p, [])
  let (p, b) := match (Doc.get body "co2ePerUnit").bind Json.asNum with
    | some v => (Passport.set p "co2ePerUnit" (sv.carbonFootprint v), ["co2ePerUnit"])
    | none => (p, [])
  let (p, c) := match (Doc.get body "repairabilityScore").bind Json.asNum with
    | some v => (Passport.set p "repairabilityScore" (sv.repairabilityScore v),
        ["repairabilityScore"])
    | none => (p, [])
  let (p, d) ← match Doc.get body "productGroupData" with
    | none => pure (p, [])
    | some v => do
      let (group, payload) ← sv.readProductGroupData v
      if group ≠ p.productGroup then
        .error (.validation "" ("productGroupData is `" ++ group ++ "` and this passport is `" ++
          p.productGroup ++ "`. The product group is fixed at creation and selects the " ++
          "disclosure table the public view is filtered and signed under, so it cannot be " ++
          "changed by patching the payload underneath it."))
      else pure (Passport.set p "productGroupData" payload, ["productGroupData"])
  let (p, e) ← match Doc.get body "componentRefs" with
    | none => pure (p, [])
    | some v => do
      let refs ← sv.readComponentRefs v
      pure (Passport.set p "componentRefs" (.arr refs), ["componentRefs"])
  let (p, f) ← match Doc.get body "personalData" with
    | none => pure (p, [])
    | some v => do
      let statements ← sv.readPersonalData v
      pure (Passport.set p "personalData" (.obj statements), ["personalData"])
  return (p, a ++ b ++ c ++ d ++ e ++ f)

/-- A field as `serde_json::json!` renders it by itself: nothing is left out. -/
def fieldJson (p : Passport) (field : String) : Json :=
  (p.content.get field).getD
    (if field = "componentRefs" then .arr [] else if field = "personalData" then .obj [] else .null)

def deltaFor (p : Passport) (applied : List String) : Doc :=
  (patchableFields.filter (· ∈ applied)).map fun field => (field, fieldJson p field)

def backfill (p : Passport) (key : String) (value : Option Json) : Passport :=
  match p.content.get key, value with
  | none, some v => Passport.set p key v
  | _, _ => p

def applyCompliance (now : Int) (p : Passport) : Passport :=
  if hasProductGroupData p then
    match sv.compute now p with
    | none => p
    | some d =>
      let p := backfill p "co2ePerUnit" (d.co2eScore.map sv.carbonFootprint)
      let p := backfill p "repairabilityScore" (d.repairabilityIndex.map sv.repairabilityScore)
      Passport.set p "complianceResult" d.result
  else p

def applyLint (p : Passport) : Passport :=
  match sv.computeLint p with
  | some result => Passport.set p "lintResult" result
  | none => p

/-- What enrichment changed, when it left a value. -/
def enriched (before after : Passport) (key : String) : Doc :=
  if after.content.get key ≠ before.content.get key then
    Doc.optional key (after.content.get key)
  else []

def update (now : Int) (p : Passport) (patch : Json) (componentGraph : Option DppError) :
    Except DppError Doc := do
  refuseIf (p.status ≠ .draft)
    (.invalidTransition p.status.toString PassportStatus.draft.toString)
  let (patched, applied) ← applyPatch sv p patch
  refuseWith (sv.checkPersonalData patched)
  refuseWith componentGraph
  let final := applyLint sv (applyCompliance sv now patched)
  return deltaFor final applied ++ enriched patched final "co2ePerUnit" ++
    enriched patched final "repairabilityScore" ++
    Doc.optional "lintResult" (final.content.get "lintResult")

end Update

section Publish

/-- The answers of the parties a publish asks while it runs. -/
structure PublishAnswers where
  heldElsewhere : Option DppError
  /-- The registry reader, when the node has one: primary identifier and facility. -/
  registry : Option (Option (String × String) × Option Json)
  jws : Except DppError String
  publicJws : Except DppError String
  disclosureSignatures : Except DppError Doc
  registration : Option DppError
  deriving Repr

variable (sv : Services)

def backfillRegistryIdentity (p : Passport) :
    Option (Option (String × String) × Option Json) → Passport
  | none => p
  | some (primary, facility) =>
    let p := { p with facility := p.facility.or facility }
    if p.status = .draft then
      { p with operatorIdentifier := (primary.map Prod.snd).or p.operatorIdentifier }
    else
      { p with operatorIdentifier := p.operatorIdentifier.or (primary.map Prod.snd) }

def missingRegistryIdentity (p : Passport) : List String :=
  (if p.facility.isNone then ["facility (Annex III unique facility identifier)"] else []) ++
  (if p.operatorIdentifier.isNone then
    ["operatorIdentifier (Annex III responsible-operator identifier)"] else [])

def requireRegistryIdentity (p : Passport) : Except DppError Unit :=
  refuseIf (sv.obligationLive p.productGroup ∧ missingRegistryIdentity p ≠ [])
    (.validation "" ("cannot publish: missing required registry identity — " ++
      String.intercalate "; " (missingRegistryIdentity p) ++
      ". Configure a default facility (`odal facility`) and a primary operator identifier" ++
      " (`odal operator-id`) before publishing."))

def publishGates (p : Passport) : Except DppError Unit :=
  if hasProductGroupData p then do
    refuseWith (sv.validatePassport p)
    refuseWith (sv.validateSchema p)
    refuseWith (sv.complianceGate p)
  else .ok ()

def transitionToPublished (now : Int) (p : Passport) : Except DppError Passport := do
  refuseWith (if p.publishedAt.isNone then sv.mandatoryContent p else none)
  return { p with
    status := .published
    updatedAt := now
    publishedAt := p.publishedAt.or (some now)
    retentionLocked := true }

def retentionYearsFor (productGroup : String) : ℕ :=
  (sv.retentionFor productGroup).getD retentionFloorYears

def stampPublishObligations (now : Int) (p : Passport) (firstPublish : Bool) :
    Except DppError Passport := do
  let deadline := retentionDeadline sv.calendar (p.publishedAt.getD now)
    (retentionYearsFor sv p.productGroup)
  let p := if firstPublish ∧ p.retentionUntil = none then
      { p with retentionUntil := some deadline }
    else p
  let url ← sv.buildCarrierUrl p
  return { p with qrCodeUrl := some url }

def publish (now : Int) (p : Passport) (answers : PublishAnswers) :
    Except DppError (Passport × Doc × Doc) := do
  refuseIf (p.status.canTransitionTo .published = false)
    (.invalidTransition p.status.toString PassportStatus.published.toString)
  refuseWith answers.heldElsewhere
  let p := backfillRegistryIdentity p answers.registry
  requireRegistryIdentity sv p
  publishGates sv p
  let firstPublish := p.publishedAt.isNone
  let p ← transitionToPublished sv now p
  let p ← stampPublishObligations sv now p firstPublish
  let payload := p.toDoc
  let jws ← answers.jws
  let publicView := sv.publicView { p with jwsSignature := some jws }
  let publicJws ← answers.publicJws
  let disclosure ← answers.disclosureSignatures
  refuseWith answers.registration
  return ({ p with
      jwsSignature := some jws
      publicJwsSignature := some publicJws
      disclosureSignatures := disclosure }, payload, publicView)

end Publish

section Retire

def retentionEnd (sv : Services) (p : Passport) : Option Int :=
  if p.retentionLocked then
    p.publishedAt.map fun t =>
      retirementDeadline sv.calendar p.retentionUntil t (retentionYearsFor sv p.productGroup)
  else none

def retentionGuard (sv : Services) (now : Int) (p : Passport) : Except DppError Unit :=
  match retentionEnd sv p with
  | some deadline => refuseIf (now < deadline)
      (.validation "" ("retention policy forbids retiring before " ++ dateText deadline))
  | none => .ok ()

end Retire

inductive Operation where
  | publish (answers : PublishAnswers)
  | suspend (reason : Option String)
  | supersede (successorId : PassportId) (successor : Option Passport) (reason : Option String)
  | retire
  | declareEol (eol : Json)
  | update (patch : Json) (componentGraph : Option DppError)
  deriving Repr

/-- The entry id and the actor of a request, both fixed when it is built. -/
structure Caller where
  entryId : Uuid
  userId : String
  deriving DecidableEq, Repr

section Prepare

variable (sv : Services) (now : Int) (caller : Caller)

def entryFor (p : Passport) (action : String) (previous new : Option PassportStatus) :
    PassportAuditEntry :=
  .new caller.entryId now (PassportId.text p.id) action caller.userId
    (previous.map PassportStatus.toString) (new.map PassportStatus.toString)

def requireTransition (p : Passport) (target : PassportStatus) : Except DppError Unit :=
  refuseIf (p.status.canTransitionTo target = false)
    (.invalidTransition p.status.toString target.toString)

def reasonMetadata (reason : Option String) : Doc := Doc.optional "reason" (reason.map .str)

/-- Everything a request does between its read of `p` and its commit. -/
def prepare (p : Passport) : Operation → Except DppError StateChange
  | .publish answers => do
    let (published, payload, publicView) ← publish sv now p answers
    return { passport := .replace published
             audit := (entryFor now caller p "published" none (some .published)).withMetadata
               (.obj [("fullViewPayload", .obj payload),
                 ("publicViewPayload", .obj publicView)]) }
  | .suspend reason => do
    requireTransition p .suspended
    let entry := entryFor now caller p "suspended" (some .published) (some .suspended)
    return { passport := .status p.id .suspended
             audit := match reason with
               | some _ => entry.withMetadata (.obj (reasonMetadata reason))
               | none => entry }
  | .supersede successorId successor reason => do
    refuseIf (p.id = successorId) (.validation "" "a passport cannot supersede itself")
    let some s := successor | .error (.notFound (PassportId.text successorId))
    refuseIf (s.status ≠ .published) (.validation ""
      "the successor must be published before it can replace another passport")
    requireTransition p .superseded
    refuseIf (s.supersedesId ≠ some (PassportId.text p.id)) (.validation ""
      ("the successor does not declare that it supersedes this passport;" ++
        " create it with `supersedesId` set to this passport's id"))
    return { passport := .status p.id .superseded
             audit := (entryFor now caller p "superseded" (some p.status)
               (some .superseded)).withMetadata
                 (.obj (("successorId", .str (PassportId.text successorId)) ::
                   reasonMetadata reason)) }
  | .retire => do
    requireTransition p .retired
    retentionGuard sv now p
    return { passport := .status p.id .retired
             audit := entryFor now caller p "retired" (some p.status) (some .retired) }
  | .declareEol eol => do
    requireTransition p .deactivated
    return { passport := .status p.id .deactivated
             audit := (entryFor now caller p "deactivated" (some p.status)
               (some .deactivated)).withMetadata eol }
  | .update patch componentGraph => do
    let delta ← update sv now p patch componentGraph
    return { passport := .patch p.id delta
             audit := entryFor now caller p "updated" none none }

end Prepare

/-- A request between its read and its commit. -/
structure Request where
  read : Passport
  change : StateChange
  deriving DecidableEq, Repr

def Request.replacement (r : Request) : Option Passport :=
  match r.change.passport with
  | .replace p => some p
  | _ => none

def Request.target (r : Request) : Option PassportStatus :=
  match r.change.passport with
  | .status _ target => some target
  | _ => none

structure State where
  store : Store
  inFlight : List Request
  now : Int
  deriving DecidableEq, Repr

/-- `began` is the transaction's start by the database clock, which is not the clock
the requests read. -/
inductive Event where
  | tick (t : Int)
  | read (caller : Caller) (op : Operation)
  | commit (i : ℕ) (began : Int)
  deriving Repr

def settle (sv : Services) (s : State) (i : ℕ) (r : Request) (began : Int) : State :=
  match commit sv.readContent sv.isProtectedPatchField sv.contentHash s.store s.now began
      r.change with
  | .ok store => { s with store, inFlight := s.inFlight.eraseIdx i }
  | .error _ => { s with inFlight := s.inFlight.eraseIdx i }

def next (sv : Services) (s : State) : Event → Option State
  | .tick t => if s.now ≤ t then some { s with now := t } else none
  | .read caller op =>
    match s.store.row with
    | none => none
    | some row =>
      match readDoc sv.readContent row with
      | .error _ => some s
      | .ok p =>
        match prepare sv s.now caller p op with
        | .error _ => some s
        | .ok change => some { s with inFlight := s.inFlight ++ [⟨p, change⟩] }
  | .commit i began =>
    match s.inFlight[i]? with
    | none => none
    | some r => some (settle sv s i r began)

def Draft := { p : Passport //
  p.status = .draft ∧ p.publishedAt = none ∧ p.retentionLocked = false }

def Draft.row (d : Draft) (now : Int) : Row where
  id := d.1.id
  status := .draft
  retentionLocked := false
  publishedAt := none
  updatedAt := now
  doc := d.1.toDoc

def initial (d : Draft) (now : Int) : State := ⟨⟨some (d.row now), []⟩, [], now⟩

section Prepared

variable {sv : Services} {now t : Int} {caller : Caller} {p q : Passport} {change : StateChange}

def signedPayload (e : PassportAuditEntry) : Option Doc :=
  (e.metadata.bind (Json.get "fullViewPayload")).bind Json.asMembers

theorem refuseIf_ok {c : Prop} [Decidable c] {e : DppError} {u : Unit}
    (h : refuseIf c e = .ok u) : ¬c := by
  intro hc
  unfold refuseIf at h
  rw [if_pos hc] at h
  cases h

theorem transitionToPublished_ok (h : transitionToPublished sv now p = .ok q) :
    q.status = .published ∧ q.productGroup = p.productGroup ∧ q.publishedAt.isSome := by
  unfold transitionToPublished at h
  obtain ⟨_, -, h⟩ := bind_ok h
  cases h
  exact ⟨rfl, rfl, by simp⟩

theorem stampPublishObligations_ok {first : Bool}
    (h : stampPublishObligations sv now p first = .ok q) :
    q.status = p.status ∧ q.productGroup = p.productGroup ∧ q.publishedAt = p.publishedAt := by
  unfold stampPublishObligations at h
  obtain ⟨url, -, h⟩ := bind_ok h
  cases h
  by_cases hfirst : first = true ∧ p.retentionUntil = none
  · simp [hfirst]
  · simp [hfirst]

theorem backfillRegistryIdentity_productGroup
    (registry : Option (Option (String × String) × Option Json)) :
    (backfillRegistryIdentity p registry).productGroup = p.productGroup := by
  cases registry with
  | none => rfl
  | some answer =>
    by_cases hdraft : p.status = .draft <;> simp [backfillRegistryIdentity, hdraft]

/-- What a publish that succeeds went through: the record that moved, the one that was signed, and
the signatures that were answered. -/
theorem publish_steps {answers : PublishAnswers} {payload view : Doc}
    (h : publish sv now p answers = .ok (q, payload, view)) :
    p.status.canTransitionTo .published = true ∧
      ∃ (moved signed : Passport) (jws publicJws : String) (disclosure : Doc),
        transitionToPublished sv now (backfillRegistryIdentity p answers.registry) = .ok moved ∧
        stampPublishObligations sv now moved
          (backfillRegistryIdentity p answers.registry).publishedAt.isNone = .ok signed ∧
        answers.jws = .ok jws ∧ answers.publicJws = .ok publicJws ∧
        answers.disclosureSignatures = .ok disclosure ∧ payload = signed.toDoc ∧
        view = sv.publicView { signed with jwsSignature := some jws } ∧
        q = { signed with
              jwsSignature := some jws
              publicJwsSignature := some publicJws
              disclosureSignatures := disclosure } := by
  unfold publish at h
  obtain ⟨_, hallowed, h⟩ := bind_ok h
  obtain ⟨_, -, h⟩ := bind_ok h
  obtain ⟨_, -, h⟩ := bind_ok h
  obtain ⟨_, -, h⟩ := bind_ok h
  obtain ⟨moved, hmoved, h⟩ := bind_ok h
  obtain ⟨signed, hstamped, h⟩ := bind_ok h
  obtain ⟨jws, hjws, h⟩ := bind_ok h
  obtain ⟨publicJws, hpublic, h⟩ := bind_ok h
  obtain ⟨disclosure, hdisclosure, h⟩ := bind_ok h
  obtain ⟨_, -, h⟩ := bind_ok h
  cases h
  refine ⟨by simpa using refuseIf_ok hallowed, moved, signed, jws, publicJws, disclosure, hmoved,
    hstamped, hjws, hpublic, hdisclosure, rfl, rfl, rfl⟩

/-- A publish writes the record it signed, with only the signatures added. -/
theorem publish_ok {answers : PublishAnswers} {payload view : Doc}
    (h : publish sv now p answers = .ok (q, payload, view)) :
    ∃ signed : Passport, payload = signed.toDoc ∧ signed.status = .published ∧
      signed.productGroup = p.productGroup ∧ signed.publishedAt.isSome ∧
      q = { signed with
            jwsSignature := q.jwsSignature
            publicJwsSignature := q.publicJwsSignature
            disclosureSignatures := q.disclosureSignatures } := by
  obtain ⟨_, moved, signed, jws, publicJws, disclosure, hmoved, hstamped, _, _, _, rfl, _, rfl⟩ :=
    publish_steps h
  obtain ⟨hstatus, hgroup, hpublished⟩ := transitionToPublished_ok hmoved
  obtain ⟨hstatus', hgroup', hpublished'⟩ := stampPublishObligations_ok hstamped
  refine ⟨signed, rfl, hstatus'.trans hstatus, ?_, hpublished' ▸ hpublished, rfl⟩
  rw [hgroup', hgroup, backfillRegistryIdentity_productGroup]

/-- Every key the signatures are not stored under keeps its signed value. -/
theorem toDoc_get_of_not_mutable (signed : Passport) (jws publicJws : Option String)
    (disclosure : Doc) {k : String} (hk : k ∉ mutableKeys) :
    ({ signed with
        jwsSignature := jws
        publicJwsSignature := publicJws
        disclosureSignatures := disclosure } : Passport).toDoc.get k = signed.toDoc.get k := by
  have hjws : k ≠ "jwsSignature" := by rintro rfl; exact hk (by decide)
  have hpublic : k ≠ "publicJwsSignature" := by rintro rfl; exact hk (by decide)
  have hdisclosure : k ≠ "disclosureSignatures" := by rintro rfl; exact hk (by decide)
  simp [Passport.toDoc, Passport.typedMembers, Passport.serialises, hjws, hpublic, hdisclosure]

theorem deltaFor_keys {applied : List String} : ∀ m ∈ deltaFor p applied, m.1 ∉ typedKeys := by
  intro m hm
  obtain ⟨field, hf, rfl⟩ := List.mem_map.mp hm
  have hall : ∀ f ∈ patchableFields, f ∉ typedKeys := by decide
  exact hall field (List.mem_filter.mp hf).1

theorem optional_keys {key : String} {value : Option Json} (hk : key ∉ typedKeys) :
    ∀ m ∈ Doc.optional key value, m.1 ∉ typedKeys := by
  intro m hm
  cases value with
  | none => simp [Doc.optional] at hm
  | some v =>
    obtain rfl : m = (key, v) := by simpa [Doc.optional] using hm
    exact hk

theorem update_keys {patch : Json} {graph : Option DppError} {delta : Doc}
    (h : update sv now p patch graph = .ok delta) : ∀ m ∈ delta, m.1 ∉ typedKeys := by
  unfold update at h
  obtain ⟨_, -, h⟩ := bind_ok h
  obtain ⟨⟨patched, applied⟩, -, h⟩ := bind_ok h
  obtain ⟨_, -, h⟩ := bind_ok h
  obtain ⟨_, -, h⟩ := bind_ok h
  simp only [pure, Except.pure, Except.ok.injEq] at h
  subst h
  have henriched : ∀ a b key, key ∉ typedKeys → ∀ m ∈ enriched a b key, m.1 ∉ typedKeys := by
    intro a b key hk m hm
    unfold enriched at hm
    split_ifs at hm with hne
    · exact optional_keys hk m hm
    · simp at hm
  intro m hm
  rcases List.mem_append.mp hm with hm | hm
  · rcases List.mem_append.mp hm with hm | hm
    · rcases List.mem_append.mp hm with hm | hm
      · exact deltaFor_keys m hm
      · exact henriched _ _ "co2ePerUnit" (by decide) m hm
    · exact henriched _ _ "repairabilityScore" (by decide) m hm
  · exact optional_keys (by decide) m hm

def WellFormed (sv : Services) (now : Int) (r : Request) : Prop :=
  match r.change.passport with
  | .insert _ => False
  | .replace p => p.status = .published ∧ p.productGroup = r.read.productGroup ∧
      p.publishedAt.isSome ∧ ∃ payload, signedPayload r.change.audit = some payload ∧
        ∀ k, k ∉ mutableKeys → p.toDoc.get k = payload.get k
  | .status _ target => target ≠ .published ∧
      (target = .retired → ∀ deadline, retentionEnd sv r.read = some deadline → deadline ≤ now)
  | .patch _ delta => ∀ m ∈ delta, m.1 ∉ typedKeys

theorem replacement_eq {r : Request} (hp : p ∈ r.replacement) :
    r.change.passport = .replace p := by
  unfold Request.replacement at hp
  split at hp
  next q hq => rw [hq, Option.some.inj hp]
  next => exact absurd hp (by simp)

theorem WellFormed.of_replace {r : Request} (h : WellFormed sv now r)
    (hp : r.change.passport = .replace p) :
    p.status = .published ∧ p.productGroup = r.read.productGroup ∧ p.publishedAt.isSome ∧
      ∃ payload, signedPayload r.change.audit = some payload ∧
        ∀ k, k ∉ mutableKeys → p.toDoc.get k = payload.get k := by
  rw [WellFormed, hp] at h
  exact h

theorem WellFormed.of_status {r : Request} {id : PassportId} {target : PassportStatus}
    (h : WellFormed sv now r) (hp : r.change.passport = .status id target) :
    target ≠ .published ∧ (target = .retired → ∀ deadline,
      retentionEnd sv r.read = some deadline → deadline ≤ now) := by
  rw [WellFormed, hp] at h
  exact h

theorem WellFormed.mono {r : Request} (h : WellFormed sv now r) (hle : now ≤ t) :
    WellFormed sv t r := by
  unfold WellFormed at h ⊢
  split at h
  next => exact h
  next => exact h
  next => exact ⟨h.1, fun hr deadline hd => le_trans (h.2 hr deadline hd) hle⟩
  next => exact h

theorem retentionGuard_ok (h : retentionGuard sv now p = .ok ()) (deadline : Int)
    (hd : retentionEnd sv p = some deadline) : deadline ≤ now := by
  unfold retentionGuard at h
  rw [hd] at h
  exact not_lt.mp (refuseIf_ok h)

theorem prepare_wellFormed {op : Operation} (h : prepare sv now caller p op = .ok change) :
    WellFormed sv now ⟨p, change⟩ := by
  cases op with
  | publish answers =>
    unfold prepare at h
    obtain ⟨⟨q, payload, view⟩, hp, h⟩ := bind_ok h
    obtain ⟨signed, rfl, hstatus, hgroup, hpublished, hq⟩ := publish_ok hp
    cases h
    refine ⟨by rw [hq]; exact hstatus, by rw [hq]; exact hgroup, by rw [hq]; exact hpublished,
      signed.toDoc, rfl, ?_⟩
    intro k hk
    rw [hq]
    exact toDoc_get_of_not_mutable signed _ _ _ hk
  | suspend reason =>
    unfold prepare at h
    obtain ⟨_, -, h⟩ := bind_ok h
    cases h
    exact ⟨by decide, fun hr => absurd hr (by decide)⟩
  | supersede successorId successor reason =>
    unfold prepare at h
    obtain ⟨_, -, h⟩ := bind_ok h
    cases successor with
    | none => cases h
    | some s =>
      obtain ⟨_, -, h⟩ := bind_ok h
      obtain ⟨_, -, h⟩ := bind_ok h
      obtain ⟨_, -, h⟩ := bind_ok h
      cases h
      exact ⟨by decide, fun hr => absurd hr (by decide)⟩
  | retire =>
    unfold prepare at h
    obtain ⟨_, -, h⟩ := bind_ok h
    obtain ⟨_, hguard, h⟩ := bind_ok h
    cases h
    exact ⟨by decide, fun _ => retentionGuard_ok hguard⟩
  | declareEol eol =>
    unfold prepare at h
    obtain ⟨_, -, h⟩ := bind_ok h
    cases h
    exact ⟨by decide, fun hr => absurd hr (by decide)⟩
  | update patch graph =>
    unfold prepare at h
    obtain ⟨delta, hdelta, h⟩ := bind_ok h
    cases h
    exact update_keys hdelta

/-- The entry a request builds: a publish records what it signed, and no other request builds a
"published" entry or replaces the record. -/
theorem prepare_entry {op : Operation} (h : prepare sv now caller p op = .ok change) :
    change.audit.passportId = PassportId.text p.id ∧
      ((∃ answers q payload view, op = .publish answers ∧
          publish sv now p answers = .ok (q, payload, view) ∧ change.passport = .replace q ∧
          change.audit.action = "published" ∧
          change.audit.metadata = some (.obj [("fullViewPayload", .obj payload),
            ("publicViewPayload", .obj view)])) ∨
        change.audit.action ≠ "published" ∧ ∀ q, change.passport ≠ .replace q) := by
  cases op with
  | publish answers =>
    obtain ⟨⟨q, payload, view⟩, hp, h⟩ := bind_ok h
    cases h
    exact ⟨rfl, Or.inl ⟨answers, q, payload, view, rfl, hp, rfl, rfl, rfl⟩⟩
  | suspend reason =>
    obtain ⟨_, -, h⟩ := bind_ok h
    cases h
    cases reason <;> exact ⟨rfl, Or.inr ⟨by simp [entryFor, PassportAuditEntry.new,
      PassportAuditEntry.withMetadata], by simp⟩⟩
  | supersede successorId successor reason =>
    obtain ⟨_, -, h⟩ := bind_ok h
    cases successor with
    | none => cases h
    | some s =>
      obtain ⟨_, -, h⟩ := bind_ok h
      obtain ⟨_, -, h⟩ := bind_ok h
      obtain ⟨_, -, h⟩ := bind_ok h
      cases h
      exact ⟨rfl, Or.inr ⟨by simp [entryFor, PassportAuditEntry.new,
        PassportAuditEntry.withMetadata], by simp⟩⟩
  | retire =>
    obtain ⟨_, -, h⟩ := bind_ok h
    obtain ⟨_, -, h⟩ := bind_ok h
    cases h
    exact ⟨rfl, Or.inr ⟨by simp [entryFor, PassportAuditEntry.new], by simp⟩⟩
  | declareEol eol =>
    obtain ⟨_, -, h⟩ := bind_ok h
    cases h
    exact ⟨rfl, Or.inr ⟨by simp [entryFor, PassportAuditEntry.new,
      PassportAuditEntry.withMetadata], by simp⟩⟩
  | update patch graph =>
    obtain ⟨delta, -, h⟩ := bind_ok h
    cases h
    exact ⟨rfl, Or.inr ⟨by simp [entryFor, PassportAuditEntry.new], by simp⟩⟩

theorem publish_signatures {answers : PublishAnswers} {payload view : Doc}
    (h : publish sv now p answers = .ok (q, payload, view)) :
    ∃ jws publicJws, answers.jws = .ok jws ∧ answers.publicJws = .ok publicJws ∧
      q.jwsSignature = some jws ∧ q.publicJwsSignature = some publicJws := by
  obtain ⟨_, _, _, jws, publicJws, _, _, _, hjws, hpublic, _, _, _, rfl⟩ := publish_steps h
  exact ⟨jws, publicJws, hjws, hpublic, rfl, rfl⟩

end Prepared

section Steps

variable {sv : Services} {s u : State} {e : Event} {es : List Event} {row row' : Row}
  {r : Request} {began : Int} {group : String}

/-- Everything one step can do. -/
theorem next_cases (h : next sv s e = some u) :
    (∃ t, e = .tick t ∧ s.now ≤ t ∧ u = { s with now := t }) ∨
    (∃ caller op, e = .read caller op ∧ (u = s ∨
      ∃ row p change, s.store.row = some row ∧ readDoc sv.readContent row = .ok p ∧
        prepare sv s.now caller p op = .ok change ∧
        u = { s with inFlight := s.inFlight ++ [⟨p, change⟩] })) ∨
    (∃ i began r, e = .commit i began ∧ s.inFlight[i]? = some r ∧ u.now = s.now ∧
      u.inFlight = s.inFlight.eraseIdx i ∧ (u.store = s.store ∨
        ∃ row', writePassport sv.readContent sv.isProtectedPatchField s.store.row s.now began
          r.change.passport = .ok row' ∧ u.store.row = some row')) := by
  cases e with
  | tick t =>
    simp only [next] at h
    split_ifs at h with ht
    cases h
    exact Or.inl ⟨t, rfl, ht, rfl⟩
  | read caller op =>
    refine Or.inr (Or.inl ⟨caller, op, rfl, ?_⟩)
    simp only [next] at h
    cases hrow : s.store.row with
    | none => simp [hrow] at h
    | some row =>
      cases hread : readDoc sv.readContent row with
      | error _ => simp only [hrow, hread, Option.some.injEq] at h; exact Or.inl h.symm
      | ok p =>
        cases hprep : prepare sv s.now caller p op with
        | error _ => simp only [hrow, hread, hprep, Option.some.injEq] at h; exact Or.inl h.symm
        | ok change =>
          simp only [hrow, hread, hprep, Option.some.injEq] at h
          exact Or.inr ⟨row, p, change, rfl, hread, hprep, h.symm⟩
  | commit i began =>
    refine Or.inr (Or.inr ?_)
    simp only [next] at h
    cases hr : s.inFlight[i]? with
    | none => simp [hr] at h
    | some r =>
      rw [hr] at h
      obtain rfl := Option.some.inj h
      refine ⟨i, began, r, rfl, hr, ?_⟩
      unfold settle
      cases hc : commit sv.readContent sv.isProtectedPatchField sv.contentHash s.store s.now began
          r.change with
      | error _ => exact ⟨rfl, rfl, Or.inl rfl⟩
      | ok store =>
        obtain ⟨row', hw, hstore⟩ := bind_ok hc
        cases hstore
        exact ⟨rfl, rfl, Or.inr ⟨row', hw, rfl⟩⟩

/-- What the commit of a well-formed request does to the row. -/
theorem writePassport_cases (hc : row.Coherent) (hr : WellFormed sv s.now r)
    (h : writePassport sv.readContent sv.isProtectedPatchField (some row) s.now began
      r.change.passport = .ok row') :
    (∃ p, r.change.passport = .replace p ∧ Updated row p began row') ∨
    (∃ id target p, r.change.passport = .status id target ∧
      readDoc sv.readContent row = .ok p ∧ row.status.canTransitionTo target = true ∧
      Updated row { p with status := target, updatedAt := s.now } began row') ∨
    (∃ id delta, r.change.passport = .patch id delta ∧
      row' = { row with doc := row'.doc, updatedAt := began } ∧
      ∀ k ∈ typedKeys, row'.doc.get k = row.doc.get k) := by
  unfold WellFormed at hr
  cases hwrite : r.change.passport with
  | insert p => simp [hwrite] at hr
  | replace p =>
    rw [hwrite] at h
    exact Or.inl ⟨p, rfl, updateInTx_updated hc h⟩
  | status id target =>
    rw [hwrite] at h
    obtain ⟨p, hp, h⟩ := bind_ok h
    split_ifs at h with hallowed
    have hstatus : p.status = row.status := by
      have := (fromStored_ok hp).status
      exact Option.some.inj (this.symm.trans hc.status)
    exact Or.inr (Or.inl ⟨id, target, p, rfl, hp, hstatus ▸ hallowed, updateInTx_updated hc h⟩)
  | patch id delta =>
    rw [hwrite] at h hr
    obtain ⟨heq, hkeys⟩ := patchInTx_ok id hr h
    exact Or.inr (Or.inr ⟨id, delta, rfl, heq, hkeys⟩)

/-- The row is coherent and keeps its product group; every request in flight is
well formed and read that group. -/
structure Invariant (sv : Services) (group : String) (s : State) : Prop where
  row : ∃ row, s.store.row = some row ∧ row.Coherent ∧ productGroupOf row.doc = some group
  requests : ∀ r ∈ s.inFlight, WellFormed sv s.now r ∧ r.read.productGroup = group

theorem initial_invariant (d : Draft) (now : Int) :
    Invariant sv d.1.productGroup (initial d now) := by
  obtain ⟨p, hstatus, hpublished, hlocked⟩ := d
  refine ⟨⟨_, rfl, ⟨?_, ?_, ?_⟩, ?_⟩, by simp [initial]⟩
  · simp [statusOf, Draft.row, hstatus, asStatus, Json.asStr]
  · simp [lockedOf, Draft.row, hlocked, Json.asBool]
  · simp [publishedAtOf, Draft.row, hpublished]
  · simp [productGroupOf, Draft.row, Json.asStr]

private theorem committed_row_invariant (hrow : s.store.row = some row) (hc : row.Coherent)
    (hgroup : productGroupOf row.doc = some group) (hr : WellFormed sv s.now r)
    (hread : r.read.productGroup = group)
    (h : writePassport sv.readContent sv.isProtectedPatchField s.store.row s.now began
      r.change.passport = .ok row') : row'.Coherent ∧ productGroupOf row'.doc = some group := by
  rw [hrow] at h
  rcases writePassport_cases hc hr h with ⟨p, hw, hu⟩ | ⟨id, target, p, hw, hp, -, hu⟩ |
    ⟨id, delta, hw, heq, hkeys⟩
  · refine ⟨hu.coherent, hu.group.trans ?_⟩
    rw [(hr.of_replace hw).2.1, hread]
  · refine ⟨hu.coherent, hu.group.trans ?_⟩
    have := (fromStored_ok hp).group
    rw [productGroupOf] at hgroup
    exact this.symm.trans hgroup
  · have hstatus := hkeys "status" (by decide)
    have hlocked := hkeys "retentionLocked" (by decide)
    have hpublished := hkeys "publishedAt" (by decide)
    have hg := hkeys "productGroup" (by decide)
    rw [heq]
    refine ⟨⟨?_, ?_, ?_⟩, ?_⟩
    · rw [statusOf, hstatus]; exact hc.status
    · rw [lockedOf, hlocked]; exact hc.locked
    · rw [publishedAtOf, hpublished]; exact hc.published
    · rw [productGroupOf, hg]; exact hgroup

theorem step_preserves_invariant (hi : Invariant sv group s) (h : next sv s e = some u) :
    Invariant sv group u := by
  obtain ⟨row, hrow, hc, hgroup⟩ := hi.row
  rcases next_cases h with ⟨t, -, ht, rfl⟩ | ⟨caller, op, -, hread⟩ |
    ⟨i, began, r, -, hr, hnow, hflight, hstore⟩
  · exact ⟨⟨row, hrow, hc, hgroup⟩, fun r hr => ⟨(hi.requests r hr).1.mono ht,
      (hi.requests r hr).2⟩⟩
  · rcases hread with rfl | ⟨row₁, p, change, hrow₁, hp, hprep, rfl⟩
    · exact hi
    · refine ⟨⟨row, hrow, hc, hgroup⟩, fun r hr => ?_⟩
      rcases List.mem_append.mp hr with hr | hr
      · exact hi.requests r hr
      · obtain rfl := List.mem_singleton.mp hr
        obtain rfl : row₁ = row := Option.some.inj (hrow₁.symm.trans hrow)
        refine ⟨prepare_wellFormed hprep, ?_⟩
        exact Option.some.inj ((fromStored_ok hp).group.symm.trans hgroup)
  · have hmem := hi.requests r (List.mem_of_getElem? hr)
    constructor
    · rcases hstore with hsame | ⟨row', hw, hrow'⟩
      · exact ⟨row, hsame ▸ hrow, hc, hgroup⟩
      · exact ⟨row', hrow', committed_row_invariant hrow hc hgroup hmem.1 hmem.2 hw⟩
    · intro q hq
      rw [hflight] at hq
      rw [hnow]
      exact hi.requests q (List.mem_of_mem_eraseIdx hq)

/-- A record that was never published is a draft or a retired draft. -/
def PublishedOrClosed (row : Row) : Prop :=
  row.publishedAt = none → row.status = .draft ∨ row.status = .retired

/-- The row changes only where a request commits, which stamps the start of its
transaction and never takes a publication back. -/
theorem next_row (hi : Invariant sv group s) (h : next sv s e = some u) :
    u.store.row = s.store.row ∨ ∃ i began row row', e = .commit i began ∧
      s.store.row = some row ∧ u.store.row = some row' ∧ row'.updatedAt = began ∧
      (row'.publishedAt = none → row.publishedAt = none) ∧
      (PublishedOrClosed row → PublishedOrClosed row') := by
  obtain ⟨row, hrow, hc, -⟩ := hi.row
  rcases next_cases h with ⟨t, -, -, rfl⟩ | ⟨caller, op, -, hread⟩ |
    ⟨i, began, r, rfl, hr, -, -, hstore⟩
  · exact Or.inl rfl
  · rcases hread with rfl | ⟨_, _, _, -, -, -, rfl⟩ <;> exact Or.inl rfl
  · rcases hstore with hsame | ⟨row', hw, hrow'⟩
    · exact Or.inl (congrArg _ hsame)
    · refine Or.inr ⟨i, began, row, row', rfl, hrow, hrow', ?_⟩
      have hwf := (hi.requests r (List.mem_of_getElem? hr)).1
      rw [hrow] at hw
      rcases writePassport_cases hc hwf hw with ⟨p, hp, hup⟩ |
        ⟨id, target, p, hp, hpread, hcan, hup⟩ | ⟨id, delta, hp, heq, -⟩
      · have hsome : row'.publishedAt ≠ none := by
          obtain ⟨t, ht⟩ := Option.isSome_iff_exists.mp (hwf.of_replace hp).2.2.1
          simp [hup.published, ht]
        exact ⟨hup.stamp, fun hnone => absurd hnone hsome, fun _ hnone => absurd hnone hsome⟩
      · have hpub : row'.publishedAt = row.publishedAt := by
          have : p.publishedAt = row.publishedAt :=
            (fromStored_ok hpread).published.symm.trans hc.published
          rw [hup.published, this]
          exact Option.or_self
        refine ⟨hup.stamp, fun hnone => hpub ▸ hnone, fun hclosed hnone => ?_⟩
        have hnot := (hwf.of_status hp).1
        have htarget : row'.status = target := hup.status
        rcases hclosed (hpub ▸ hnone) with hdraft | hretired
        · rw [hdraft] at hcan
          cases target <;> simp_all [PassportStatus.canTransitionTo]
        · rw [hretired] at hcan
          cases target <;> simp_all [PassportStatus.canTransitionTo]
      · rw [heq]
        exact ⟨rfl, fun h => h, fun h => h⟩

end Steps

section Samples

/-- A node with no compliance evaluator and no obligation in force, whose documents
are all of the current shape. -/
def sampleServices : Services where
  readContent doc := .ok doc
  isProtectedPatchField key := key ∈ typedKeys
  contentHash _ := ""
  retentionFor _ := some 10
  calendar := gregorian
  obligationLive _ := false
  validatePassport _ := none
  validateSchema _ := none
  complianceGate _ := none
  mandatoryContent _ := none
  buildCarrierUrl p := .ok ("https://id.example.eu/dpp/" ++ PassportId.text p.id)
  publicView p := p.toDoc.without ["jwsSignature", "publicJwsSignature", "operatorIdentifier"]
  carbonFootprint kg := .obj [("value", .num kg)]
  repairabilityScore v := .obj [("score", .num v)]
  readProductGroupData v := .ok ("textile", v)
  readComponentRefs v := .ok (v.asArray.getD [])
  readPersonalData v := .ok (v.asMembers.getD [])
  checkPersonalData _ := none
  compute _ _ := none
  computeLint _ := none

def samplePassport : Passport where
  id := 0x0197f3a27b1c7def8abc0123456789ab
  productGroup := "textile"
  status := .draft
  supersedesId := none
  carrierSerial := none
  updatedAt := 1767225600000000000
  publishedAt := none
  retentionLocked := false
  retentionUntil := none
  facility := none
  operatorIdentifier := none
  qrCodeUrl := none
  jwsSignature := none
  publicJwsSignature := none
  disclosureSignatures := []
  qualifiedSeal := none
  content := [("productName", .str "Wool coat"), ("productGroupData", .null),
    ("schemaVersion", .str "1.0.0"), ("version", .num 1)]

def sampleDraft : Draft := ⟨samplePassport, by decide⟩

def signedAnswers : PublishAnswers where
  heldElsewhere := none
  registry := none
  jws := .ok "eyJhbGciOiJFZERTQSJ9.full.sig"
  publicJws := .ok "eyJhbGciOiJFZERTQSJ9.public.sig"
  disclosureSignatures := .ok []
  registration := none

def sampleNow : Int := 1767225600000000000

def sampleCaller (entryId : Uuid) : Caller := ⟨entryId, "operator"⟩

end Samples

end PassportRequests
