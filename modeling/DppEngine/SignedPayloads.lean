import DppEngine.SealDigests
import Mathlib

/-! What a publish signs. The full-view payload is the record as the publish read and stamped it,
so what the row carries of earlier publishes decides what is signed.

`signed` keeps the payloads of every publish that got to its commit, also of those whose commit is
refused. -/
namespace SignedPayloads

open JsonValues PassportModel AuditTrail StateChangeLog TransitionSystems FallibleSteps
open PassportRequests hiding State Event next initial Invariant next_cases
open SealOutbox (Sealing setSeal)

section Runs

/-- The members of a record that prove its content. -/
def proofKeys : List String :=
  ["jwsSignature", "publicJwsSignature", "disclosureSignatures", "seal"]

/-- A draft as the create handler builds it: without any proof. -/
def Created := { d : Draft //
  d.1.jwsSignature = none ∧ d.1.publicJwsSignature = none ∧ d.1.disclosureSignatures = [] ∧
    d.1.qualifiedSeal = none }

structure State where
  node : SealOutbox.State
  signed : List Doc
  deriving DecidableEq, Repr

inductive Event where
  | node (e : SealOutbox.Event)
  /-- A renewal, of the seal of this value. -/
  | replaceSeal (current : String) (renewed : Doc)
  deriving Repr

def payloadSigned (sv : Services) (s : PassportRequests.State) : PassportRequests.Event → Option Doc
  | .read _ (.publish answers) =>
    match s.store.row with
    | none => none
    | some row =>
      match readDoc sv.readContent row with
      | .error _ => none
      | .ok p =>
        match publish sv s.now p answers with
        | .error _ => none
        | .ok (_, payload, _) => some payload
  | _ => none

def signedBy (sv : Services) (s : State) : Event → Option Doc
  | .node (.request e) => payloadSigned sv s.node.requests e
  | _ => none

def replaceSeal (clock : Int) (current : String) (renewed : Doc) (row : Row) : Row :=
  if SealDigests.sealValueOf row = some current then setSeal clock row renewed else row

def next (sv : Services) (sl : Sealing) (s : State) : Event → Option State
  | .node e => (SealOutbox.next sv sl s.node e).map fun node =>
      { node, signed := s.signed ++ (signedBy sv s (.node e)).toList }
  | .replaceSeal current renewed =>
    some { s with node := { s.node with requests := { s.node.requests with
      store := { s.node.requests.store with
        row := s.node.requests.store.row.map (replaceSeal s.node.clock current renewed) } } } }

def initial (d : Created) (now clock : Int) : State := ⟨SealOutbox.initial d.1 now clock, []⟩

def SameContent (a b : Doc) : Prop := ∀ k, k ∉ proofKeys → k ≠ "updatedAt" → a.get k = b.get k

def payloadSize (text : Json → String) (payload : Doc) : ℕ :=
  ((passportKeys.filter (· ≠ "updatedAt")).map fun k =>
    match payload.get k with
    | none => 0
    | some v => k.length + (text v).length + 4).sum

/-- The publishes so far signed content, and no proof of an earlier publish. -/
structure SignsContent (s : State) : Prop where
  bare : ∀ payload ∈ s.signed, ∀ k ∈ proofKeys, payload.get k = none
  same : ∀ a ∈ s.signed, ∀ b ∈ s.signed, SameContent a b → ∀ k, k ≠ "updatedAt" → a.get k = b.get k
  size : ∀ a ∈ s.signed, ∀ b ∈ s.signed, SameContent a b →
    ∀ text, payloadSize text a = payloadSize text b
  recorded : ∀ e ∈ s.node.requests.store.trail, e.action = "published" →
    ∃ payload ∈ s.signed, signedPayload e = some payload

/-- A publish that gets to sign finds a draft. -/
def SignsDraft (sv : Services) (s : State) (e : Event) : Prop :=
  (signedBy sv s e).isSome → ∀ row ∈ s.node.requests.store.row, row.status = .draft

end Runs

section PayloadFacts

variable {sv : Services} {now : Int} {p q : Passport} {answers : PublishAnswers} {doc : Doc}

def proofsOf (p : Passport) : Option String × Option String × Doc × Option Json :=
  (p.jwsSignature, p.publicJwsSignature, p.disclosureSignatures, p.qualifiedSeal)

theorem backfillRegistryIdentity_proofs
    (registry : Option (Option (String × String) × Option Json)) :
    proofsOf (backfillRegistryIdentity p registry) = proofsOf p := by
  cases registry with
  | none => rfl
  | some answer => by_cases hdraft : p.status = .draft <;> simp [backfillRegistryIdentity, hdraft,
      proofsOf]

theorem transitionToPublished_proofs (h : transitionToPublished sv now p = .ok q) :
    proofsOf q = proofsOf p := by
  obtain ⟨_, -, h⟩ := bind_ok h
  cases h
  rfl

theorem stampPublishObligations_proofs {first : Bool}
    (h : stampPublishObligations sv now p first = .ok q) : proofsOf q = proofsOf p := by
  obtain ⟨url, -, h⟩ := bind_ok h
  cases h
  by_cases hfirst : first = true ∧ p.retentionUntil = none <;> simp [hfirst, proofsOf]

/-- A publish from a state it is allowed in signs the record with the proofs it was read with, and
leaves the record it writes signed. -/
theorem publish_proofs {payload view : Doc}
    (h : publish sv now p answers = .ok (q, payload, view)) :
    p.status.canTransitionTo .published = true ∧ q.jwsSignature.isSome ∧
      ∃ signed : Passport, payload = signed.toDoc ∧ proofsOf signed = proofsOf p := by
  obtain ⟨hallowed, moved, signed, jws, publicJws, disclosure, hmoved, hstamped, _, _, _, rfl, _,
    rfl⟩ := publish_steps h
  refine ⟨hallowed, rfl, signed, rfl, ?_⟩
  rw [stampPublishObligations_proofs hstamped, transitionToPublished_proofs hmoved,
    backfillRegistryIdentity_proofs]

theorem readDoc_proofs {row : Row} (h : readDoc sv.readContent row = .ok p)
    (hbare : ∀ k ∈ proofKeys, row.doc.get k = none) : proofsOf p = (none, none, [], none) := by
  have hread := fromStored_readFrom h
  obtain ⟨members, hmembers, hdisclosure⟩ := hread.disclosureSignatures
  have hjws := hread.jwsSignature
  have hpublic := hread.publicJwsSignature
  have hsealed := hread.qualifiedSeal
  simp only [optionalField, hbare "jwsSignature" (by decide), Except.ok.injEq] at hjws
  simp only [optionalField, hbare "publicJwsSignature" (by decide), Except.ok.injEq] at hpublic
  simp only [optionalField, hbare "disclosureSignatures" (by decide), Except.ok.injEq] at hmembers
  simp only [optionalField, hbare "seal" (by decide), Except.ok.injEq] at hsealed
  unfold proofsOf
  rw [← hjws, ← hpublic, ← hsealed, hdisclosure, ← hmembers]
  rfl

theorem toDoc_bare (h : proofsOf p = (none, none, [], none)) :
    ∀ k ∈ proofKeys, p.toDoc.get k = none := by
  obtain ⟨hjws, hpublic, hdisclosure, hsealed⟩ : p.jwsSignature = none ∧
      p.publicJwsSignature = none ∧ p.disclosureSignatures = [] ∧ p.qualifiedSeal = none := by
    simpa [proofsOf] using h
  intro k hk
  have hall : ∀ k ∈ proofKeys, k ∉ contentKeys := by decide
  have hcontent := content_get_typed (p := p) (hall k hk)
  simp only [proofKeys, List.mem_cons, List.not_mem_nil, or_false] at hk
  rcases hk with rfl | rfl | rfl | rfl <;>
    simp [Passport.toDoc, Passport.typedMembers, hjws, hpublic, hdisclosure, hsealed, hcontent]

/-- Payloads of the same content without proofs differ in `updatedAt` only. -/
theorem get_eq_of_bare {a b : Doc} (ha : ∀ k ∈ proofKeys, a.get k = none)
    (hb : ∀ k ∈ proofKeys, b.get k = none) (h : SameContent a b) {k : String}
    (hk : k ≠ "updatedAt") : a.get k = b.get k := by
  by_cases hproof : k ∈ proofKeys
  · rw [ha k hproof, hb k hproof]
  · exact h k hproof hk

theorem payloadSize_eq {a b : Doc} (h : ∀ k, k ≠ "updatedAt" → a.get k = b.get k)
    (text : Json → String) : payloadSize text a = payloadSize text b := by
  unfold payloadSize
  congr 1
  apply List.map_congr_left
  intro k hk
  have hne : k ≠ "updatedAt" := by simpa using (List.mem_filter.mp hk).2
  rw [h k hne]

end PayloadFacts

section StepFacts

variable {sv : Services} {sl : Sealing} {group : String} {s u : State} {e : Event} {row row' : Row}

def Signed (row : Row) : Prop :=
  row.status = .published ∨ row.status = .suspended → (jwsOf row.doc).isSome

/-- What every write keeps: no row becomes a draft, a draft keeps what it has of proofs, and a
signed row stays signed. -/
structure Moves (row row' : Row) : Prop where
  draft : row'.status = .draft → row.status = .draft ∧ row'.publishedAt = row.publishedAt ∧
    ∀ k ∈ proofKeys, row'.doc.get k = row.doc.get k
  signed : Signed row → Signed row'

theorem Moves.refl (row : Row) : Moves row row := ⟨fun h => ⟨h, rfl, fun _ _ => rfl⟩, id⟩

/-- Requests in flight that write a record write a signed one. -/
def WritesSigned (s : PassportRequests.State) : Prop :=
  ∀ r ∈ s.inFlight, ∀ p ∈ r.replacement, p.jwsSignature.isSome

theorem status_moves {p : Passport} {target : PassportStatus} {now began : Int}
    (hcan : row.status.canTransitionTo target = true)
    (hread : readDoc sv.readContent row = .ok p) (htarget : target ≠ .published)
    (hup : Updated row { p with status := target, updatedAt := now } began row') :
    Moves row row' := by
  have hstatus : row'.status = target := hup.status
  have hjws : jwsOf row'.doc = jwsOf row.doc := by
    refine hup.jws.trans ?_
    rw [jwsOf, (fromStored_ok hread).jws]
    exact Option.or_self
  constructor
  · intro hdraft
    rw [hstatus] at hdraft
    rw [hdraft] at hcan
    cases hrow : row.status <;> simp [hrow, PassportStatus.canTransitionTo] at hcan
  · intro hsigned hactive
    rw [hstatus] at hactive
    rcases hactive with hpublished | hsuspended
    · exact absurd hpublished htarget
    · rw [hsuspended] at hcan
      have hrow : row.status = .published := by
        cases hrow : row.status <;> simp [hrow, PassportStatus.canTransitionTo] at hcan ⊢
      rw [hjws]
      exact hsigned (Or.inl hrow)

theorem request_moves {s u : PassportRequests.State} {e : PassportRequests.Event}
    (hi : PassportRequests.Invariant sv group s) (hw : WritesSigned s)
    (h : PassportRequests.next sv s e = some u) (hrow : s.store.row = some row) :
    ∃ row', u.store.row = some row' ∧ Moves row row' := by
  obtain ⟨row₁, hrow₁, hc, -⟩ := hi.row
  obtain rfl : row₁ = row := Option.some.inj (hrow₁.symm.trans hrow)
  rcases PassportRequests.next_cases h with ⟨t, -, -, rfl⟩ | ⟨caller, op, -, hread⟩ |
    ⟨i, began, r, rfl, hr, -, -, hstore⟩
  · exact ⟨row₁, hrow, .refl row₁⟩
  · rcases hread with rfl | ⟨_, _, _, -, -, -, rfl⟩ <;> exact ⟨row₁, hrow, .refl row₁⟩
  · rcases hstore with hsame | ⟨row', hwrite, hrow'⟩
    · exact ⟨row₁, hsame ▸ hrow, .refl row₁⟩
    · refine ⟨row', hrow', ?_⟩
      have hmem := List.mem_of_getElem? hr
      have hwf := (hi.requests r hmem).1
      rw [hrow] at hwrite
      rcases writePassport_cases hc hwf hwrite with ⟨p, hp, hup⟩ |
        ⟨id, target, p, hp, hread, hcan, hup⟩ | ⟨id, delta, -, heq, hkeys⟩
      · have hpublished := (hwf.of_replace hp).1
        have hjws : p.jwsSignature.isSome := hw r hmem p (by simp [Request.replacement, hp])
        constructor
        · intro hdraft
          rw [hup.status, hpublished] at hdraft
          cases hdraft
        · intro _ _
          rw [hup.jws]
          obtain ⟨jws, hsome⟩ := Option.isSome_iff_exists.mp hjws
          simp [hsome]
      · exact status_moves hcan hread (hwf.of_status hp).1 hup
      · have hstatus : row'.status = row₁.status := by rw [heq]
        have hpublished : row'.publishedAt = row₁.publishedAt := by rw [heq]
        have hjws : jwsOf row'.doc = jwsOf row₁.doc := by
          rw [jwsOf, jwsOf, hkeys "jwsSignature" (by decide)]
        have hproofs : ∀ k ∈ proofKeys, k ∈ typedKeys := by decide
        refine ⟨fun hdraft => ⟨hstatus ▸ hdraft, hpublished, fun k hk => hkeys k (hproofs k hk)⟩,
          ?_⟩
        intro hsigned hactive
        rw [hjws]
        exact hsigned (hstatus ▸ hactive)

theorem published_status {s u : PassportRequests.State} {e : PassportRequests.Event} {p : Passport}
    (hi : PassportRequests.Invariant sv group s) (h : PassportRequests.next sv s e = some u)
    (hp : SealOutbox.published sv s e = some p) (hrow : u.store.row = some row) :
    row.status = .published := by
  cases e with
  | tick t => cases hp
  | read caller op => cases hp
  | commit i began =>
    obtain ⟨row₁, hrow₁, hc, -⟩ := hi.row
    cases hr : s.inFlight[i]? with
    | none => simp [SealOutbox.published, hr] at hp
    | some r =>
      cases hcommit : commit sv.readContent sv.isProtectedPatchField sv.contentHash s.store s.now
          began r.change with
      | error err => simp [SealOutbox.published, hr, hcommit] at hp
      | ok store =>
        have hreplacement : r.replacement = some p := by
          simpa [SealOutbox.published, hr, hcommit] using hp
        obtain ⟨written, hwrite, hstore⟩ := bind_ok hcommit
        cases hstore
        simp only [PassportRequests.next, hr, settle, hcommit, Option.some.injEq] at h
        subst h
        obtain rfl : written = row := Option.some.inj hrow
        have hwf := (hi.requests r (List.mem_of_getElem? hr)).1
        have hreplace := replacement_eq hreplacement
        rw [hrow₁, hreplace] at hwrite
        rw [(updateInTx_updated hc hwrite).status]
        exact (hwf.of_replace hreplace).1

def Fresh (row : Row) : Prop := row.publishedAt = none ∧ ∀ k ∈ proofKeys, row.doc.get k = none

structure Idle (s : SealOutbox.State) : Prop where
  outbox : s.outbox = []
  owed : s.owed = []
  repairs : s.repairs = []
  passes : ∀ batch ∈ s.passes, batch = []

/-- On a draft no step of the outbox has anything to work on. -/
theorem idle_step {s u : SealOutbox.State} {e : SealOutbox.Event}
    (hrow : s.requests.store.row = some row) (hfresh : Fresh row) (hidle : Idle s)
    (hnot : ∀ r, e = .request r → SealOutbox.published sv s.requests r = none)
    (h : SealOutbox.next sv sl s e = some u) : Idle u := by
  obtain ⟨houtbox, howed, hrepairs, hpasses⟩ := hidle
  cases e with
  | request r =>
    simp only [SealOutbox.next, hnot r rfl] at h
    split_ifs at h with hstarted
    obtain ⟨requests, -, rfl⟩ := Option.map_eq_some_iff.mp h
    exact ⟨houtbox, by simp [howed], hrepairs, hpasses⟩
  | tick t =>
    simp only [SealOutbox.next] at h
    split_ifs at h with ht
    cases h
    exact ⟨houtbox, howed, hrepairs, hpasses⟩
  | sweep cooldown =>
    have hnone : SealOutbox.unsealed s.clock cooldown row s.outbox = none := by
      simp [SealOutbox.unsealed, hfresh.1]
    simp only [SealOutbox.next, hrow, hnone] at h
    cases h
    exact ⟨houtbox, by simp [howed], hrepairs, hpasses⟩
  | enqueue i => simp [SealOutbox.next, howed] at h
  | lose i =>
    cases h
    exact ⟨houtbox, by simp [howed], hrepairs, hpasses⟩
  | repair =>
    have hseal := hfresh.2 "seal" (by decide)
    have hnone : SealOutbox.repairDigest sl row = none := by
      simp [SealOutbox.repairDigest, SealOutbox.envelopeOf, sealOf, hseal]
    simp [SealOutbox.next, hrow, hnone] at h
  | lookUp i => simp [SealOutbox.next, hrepairs] at h
  | requeue i userId => simp [SealOutbox.next, hrepairs] at h
  | due ids =>
    simp only [SealOutbox.next] at h
    split_ifs at h with hdue
    cases h
    refine ⟨houtbox, howed, hrepairs, ?_⟩
    have hnone : ids.filterMap (SealOutbox.dueRow s) = [] := by
      rw [List.filterMap_eq_nil_iff]
      intro id hid
      simp [SealOutbox.dueRow, houtbox]
    intro batch hbatch
    rcases List.mem_append.mp hbatch with hbatch | hbatch
    · exact hpasses batch hbatch
    · rw [List.mem_singleton.mp hbatch, hnone]
  | drain pass answer recording jitter =>
    simp only [SealOutbox.next] at h
    split at h
    next r rest hpass => cases hpasses _ (List.mem_of_getElem? hpass)
    next => cases h
  | abandon pass =>
    cases h
    exact ⟨houtbox, howed, hrepairs, fun batch hbatch =>
      hpasses batch (List.mem_of_mem_eraseIdx hbatch)⟩

theorem setSeal_moves {clock : Int} {envelope : Doc} (hnot : row.status ≠ .draft) :
    Moves row (setSeal clock row envelope) := by
  refine ⟨fun hdraft => absurd hdraft hnot, ?_⟩
  intro hsigned hactive
  rw [jwsOf, SealOutbox.setSeal_get (by decide)]
  exact hsigned hactive

theorem node_step {s u : SealOutbox.State} {e : SealOutbox.Event}
    (hi : SealOutbox.Invariant sv group s) (hw : WritesSigned s.requests)
    (hrow : s.requests.store.row = some row) (hdraft : row.status = .draft → Fresh row ∧ Idle s)
    (h : SealOutbox.next sv sl s e = some u) :
    ∃ row', u.requests.store.row = some row' ∧ Moves row row' ∧
      (row'.status = .draft → Idle u) := by
  have hidle : ∀ row', u.requests.store.row = some row' → Moves row row' →
      row'.status = .draft → Idle u := by
    intro row' hrow' hmoves hd
    obtain ⟨hfresh, hs⟩ := hdraft (hmoves.draft hd).1
    refine idle_step hrow hfresh hs ?_ h
    rintro r rfl
    by_contra hsome
    obtain ⟨p, hp⟩ := Option.ne_none_iff_exists'.mp hsome
    simp only [SealOutbox.next] at h
    split_ifs at h with hstarted
    obtain ⟨requests, hstep, rfl⟩ := Option.map_eq_some_iff.mp h
    rw [published_status hi hstep hp hrow'] at hd
    cases hd
  rcases SealOutbox.next_cases hrow h with ⟨r, -, hstep⟩ |
    ⟨pass, envelope, jitter, r, -, hr, -, hu⟩ | hu
  · obtain ⟨row', hrow', hmoves⟩ := request_moves hi hw hstep hrow
    exact ⟨row', hrow', hmoves, hidle row' hrow' hmoves⟩
  · have hnot : row.status ≠ .draft := by
      intro hd
      obtain ⟨batch, hbatch, hhead⟩ := Option.bind_eq_some_iff.mp hr
      rw [(hdraft hd).2.passes batch (List.mem_of_getElem? hbatch)] at hhead
      cases hhead
    have hrow' : u.requests.store.row = some (setSeal s.clock row envelope) := by rw [hu]; rfl
    have hmoves : Moves row (setSeal s.clock row envelope) := setSeal_moves hnot
    exact ⟨_, hrow', hmoves, hidle _ hrow' hmoves⟩
  · have hrow' : u.requests.store.row = some row := by rw [hu]; exact hrow
    exact ⟨row, hrow', .refl row, hidle row hrow' (.refl row)⟩

def Recorded (signed : List Doc) (e : PassportAuditEntry) : Prop :=
  e.action = "published" → ∃ payload ∈ signed, signedPayload e = some payload

theorem Recorded.mono {signed : List Doc} {e : PassportAuditEntry} (h : Recorded signed e)
    (more : List Doc) : Recorded (signed ++ more) e := by
  intro haction
  obtain ⟨payload, hmem, hpayload⟩ := h haction
  exact ⟨payload, List.mem_append_left _ hmem, hpayload⟩

/-- What a request step adds: a request in flight writes signed records and records what it signed,
and a committed entry is that of a request in flight. -/
theorem request_entries {s u : PassportRequests.State} {e : PassportRequests.Event}
    {signed : List Doc} (hw : WritesSigned s)
    (hflight : ∀ r ∈ s.inFlight, Recorded signed r.change.audit)
    (htrail : ∀ e ∈ s.store.trail, Recorded signed e)
    (h : PassportRequests.next sv s e = some u) :
    WritesSigned u ∧
      (∀ r ∈ u.inFlight, Recorded (signed ++ (payloadSigned sv s e).toList) r.change.audit) ∧
      ∀ e' ∈ u.store.trail, Recorded (signed ++ (payloadSigned sv s e).toList) e' := by
  cases e with
  | tick t =>
    simp only [PassportRequests.next] at h
    split_ifs at h with ht
    cases h
    exact ⟨hw, fun r hr => (hflight r hr).mono _, fun e he => (htrail e he).mono _⟩
  | read caller op =>
    rcases PassportRequests.next_cases h with ⟨_, heq, -⟩ | ⟨_, _, heq, hread⟩ |
      ⟨_, _, _, heq, -⟩
    · cases heq
    · cases heq
      rcases hread with rfl | ⟨row, p, change, hrow, hp, hprep, rfl⟩
      · exact ⟨hw, fun r hr => (hflight r hr).mono _, fun e he => (htrail e he).mono _⟩
      · refine ⟨?_, ?_, fun e he => (htrail e he).mono _⟩
        · intro r hr q hq
          rcases List.mem_append.mp hr with hr | hr
          · exact hw r hr q hq
          · obtain rfl := List.mem_singleton.mp hr
            rcases (prepare_entry hprep).2 with
              ⟨answers, q', payload, view, rfl, hpub, hreplace, -⟩ |
              ⟨-, hnone⟩
            · cases hreplace.symm.trans (replacement_eq hq)
              exact (publish_proofs hpub).2.1
            · exact absurd (replacement_eq hq) (hnone q)
        · intro r hr
          rcases List.mem_append.mp hr with hr | hr
          · exact (hflight r hr).mono _
          · obtain rfl := List.mem_singleton.mp hr
            intro haction
            rcases (prepare_entry hprep).2 with
              ⟨answers, q, payload, view, rfl, hpub, -, -, hmeta⟩ |
              ⟨hother, -⟩
            · refine ⟨payload, ?_, ?_⟩
              · simp [payloadSigned, hrow, hp, hpub]
              · simp [signedPayload, hmeta, Json.get, Json.asMembers]
            · exact absurd haction hother
    · cases heq
  | commit i began =>
    simp only [PassportRequests.next] at h
    cases hr : s.inFlight[i]? with
    | none => simp [hr] at h
    | some r =>
      rw [hr] at h
      obtain rfl := Option.some.inj h
      have hmem := List.mem_of_getElem? hr
      have herased : ∀ q ∈ s.inFlight.eraseIdx i, q ∈ s.inFlight :=
        fun _ hq => List.mem_of_mem_eraseIdx hq
      unfold settle
      cases hcommit : commit sv.readContent sv.isProtectedPatchField sv.contentHash s.store s.now
          began r.change with
      | error err =>
        exact ⟨fun q hq => hw q (herased q hq), fun q hq => (hflight q (herased q hq)).mono _,
          fun e he => (htrail e he).mono _⟩
      | ok store =>
        obtain ⟨row', -, hstore⟩ := bind_ok hcommit
        cases hstore
        refine ⟨fun q hq => hw q (herased q hq), fun q hq => (hflight q (herased q hq)).mono _, ?_⟩
        intro e he
        rcases List.mem_append.mp he with he | he
        · exact (htrail e he).mono _
        · rw [List.mem_singleton.mp he]
          exact (hflight r hmem).mono _

/-- The stored row keeps the history of its signatures, and everything in flight or committed
records a payload that was signed. -/
structure Invariant (sv : Services) (group : String) (s : State) : Prop where
  node : SealOutbox.Invariant sv group s.node
  draft : ∀ row ∈ s.node.requests.store.row, row.status = .draft → Fresh row ∧ Idle s.node
  signed : ∀ row ∈ s.node.requests.store.row, Signed row
  writes : WritesSigned s.node.requests
  inFlight : ∀ r ∈ s.node.requests.inFlight, Recorded s.signed r.change.audit
  trail : ∀ e ∈ s.node.requests.store.trail, Recorded s.signed e

theorem Fresh.of_moves (h : Fresh row) (hmoves : Moves row row') (hdraft : row'.status = .draft) :
    Fresh row' := by
  obtain ⟨-, hpublished, hproofs⟩ := hmoves.draft hdraft
  exact ⟨hpublished.trans h.1, fun k hk => (hproofs k hk).trans (h.2 k hk)⟩

theorem initial_invariant (d : Created) (now clock : Int) :
    Invariant sv d.1.1.productGroup (initial d now clock) := by
  obtain ⟨d, hjws, hpublic, hdisclosure, hseal⟩ := d
  have hflight : (initial ⟨d, hjws, hpublic, hdisclosure, hseal⟩ now clock).node.requests.inFlight =
      [] := rfl
  have htrail :
    (initial ⟨d, hjws, hpublic, hdisclosure, hseal⟩ now clock).node.requests.store.trail =
      [] := rfl
  refine ⟨PassportRequests.initial_invariant d now, ?_, ?_, by simp [WritesSigned, hflight],
    by simp [hflight], by simp [htrail]⟩
  · intro row hrow _
    obtain rfl : d.row now = row := Option.some.inj hrow
    have hproofs : proofsOf d.1 = (none, none, [], none) := by
      simp [proofsOf, hjws, hpublic, hdisclosure, hseal]
    exact ⟨⟨rfl, toDoc_bare hproofs⟩, ⟨rfl, rfl, rfl, nofun⟩⟩
  · intro row hrow hactive
    obtain rfl : d.row now = row := Option.some.inj hrow
    simp [Draft.row] at hactive

/-- The entries of a step of the outbox are those of its request, if it is one. -/
theorem node_entries {s u : SealOutbox.State} {e : SealOutbox.Event} {signed : List Doc}
    (hrow : s.requests.store.row = some row) (hw : WritesSigned s.requests)
    (hflight : ∀ r ∈ s.requests.inFlight, Recorded signed r.change.audit)
    (htrail : ∀ e ∈ s.requests.store.trail, Recorded signed e)
    (h : SealOutbox.next sv sl s e = some u) :
    let all := signed ++ (signedBy sv ⟨s, signed⟩ (.node e)).toList
    WritesSigned u.requests ∧ (∀ r ∈ u.requests.inFlight, Recorded all r.change.audit) ∧
      ∀ e' ∈ u.requests.store.trail, Recorded all e' := by
  rcases SealOutbox.next_cases hrow h with ⟨r, rfl, hstep⟩ |
    ⟨pass, envelope, jitter, r, -, -, -, hu⟩ | hu
  · exact request_entries hw hflight htrail hstep
  · rw [hu]
    exact ⟨hw, fun r hr => (hflight r hr).mono _, fun e he => (htrail e he).mono _⟩
  · rw [hu]
    exact ⟨hw, fun r hr => (hflight r hr).mono _, fun e he => (htrail e he).mono _⟩

theorem replaceSeal_moves {clock : Int} {current : String} {renewed : Doc}
    (hdraft : row.status = .draft → Fresh row) :
    Moves row (replaceSeal clock current renewed row) := by
  unfold replaceSeal
  split_ifs with hvalue
  · refine setSeal_moves ?_
    intro hd
    have hseal := (hdraft hd).2 "seal" (by decide)
    simp [SealDigests.sealValueOf, SealOutbox.envelopeOf, sealOf, hseal] at hvalue
  · exact .refl row

theorem replaceSeal_coherent {clock : Int} {current : String} {renewed : Doc}
    (hc : row.Coherent) (hgroup : productGroupOf row.doc = some group) :
    (replaceSeal clock current renewed row).Coherent ∧
      productGroupOf (replaceSeal clock current renewed row).doc = some group := by
  unfold replaceSeal
  split_ifs with hvalue
  · refine ⟨SealOutbox.setSeal_coherent hc, ?_⟩
    rw [productGroupOf, SealOutbox.setSeal_get (by decide)]
    exact hgroup
  · exact ⟨hc, hgroup⟩

theorem step_preserves_invariant (hi : Invariant sv group s) (h : next sv sl s e = some u) :
    Invariant sv group u := by
  obtain ⟨row, hrow, hc, hgroup⟩ := hi.node.row
  cases e with
  | node e =>
    obtain ⟨node, hnode, rfl⟩ := Option.map_eq_some_iff.mp h
    obtain ⟨row', hrow', hmoves, hidle⟩ :=
      node_step hi.node hi.writes hrow (hi.draft row hrow) hnode
    obtain ⟨hwrites, hflight, htrail⟩ := node_entries hrow hi.writes hi.inFlight hi.trail hnode
    refine ⟨SealOutbox.step_preserves_invariant hi.node hnode, ?_, ?_, hwrites, hflight, htrail⟩
    · intro row₁ hrow₁ hdraft
      obtain rfl : row' = row₁ := Option.some.inj (hrow'.symm.trans hrow₁)
      have hfresh := (hi.draft row hrow (hmoves.draft hdraft).1).1
      exact ⟨hfresh.of_moves hmoves hdraft, hidle hdraft⟩
    · intro row₁ hrow₁
      obtain rfl : row' = row₁ := Option.some.inj (hrow'.symm.trans hrow₁)
      exact hmoves.signed (hi.signed row hrow)
  | replaceSeal current renewed =>
    cases h
    have hmoves : Moves row (replaceSeal s.node.clock current renewed row) :=
      replaceSeal_moves fun hd => (hi.draft row hrow hd).1
    have hrow' : s.node.requests.store.row.map (replaceSeal s.node.clock current renewed) =
        some (replaceSeal s.node.clock current renewed row) := by rw [hrow]; rfl
    have hkept : (replaceSeal s.node.clock current renewed row).Coherent ∧
        productGroupOf (replaceSeal s.node.clock current renewed row).doc = some group :=
      replaceSeal_coherent hc hgroup
    refine ⟨⟨⟨_, hrow', hkept⟩, hi.node.requests⟩, ?_, ?_, hi.writes, hi.inFlight, hi.trail⟩
    · intro row₁ hrow₁ hdraft
      obtain rfl := Option.some.inj (hrow'.symm.trans hrow₁)
      obtain ⟨hfresh, houtbox, howed, hrepairs, hpasses⟩ :=
        hi.draft row hrow (hmoves.draft hdraft).1
      exact ⟨hfresh.of_moves hmoves hdraft, houtbox, howed, hrepairs, hpasses⟩
    · intro row₁ hrow₁
      obtain rfl := Option.some.inj (hrow'.symm.trans hrow₁)
      exact hmoves.signed (hi.signed row hrow)

/-- The payload a publish signs is without proofs exactly when it was read from a draft. -/
theorem signed_bare_iff {payload : Doc} (hi : Invariant sv group s)
    (hs : signedBy sv s e = some payload) (hrow : s.node.requests.store.row = some row) :
    (∀ k ∈ proofKeys, payload.get k = none) ↔ row.status = .draft := by
  unfold signedBy at hs
  split at hs
  next r =>
    unfold payloadSigned at hs
    split at hs
    next caller answers =>
      rw [hrow] at hs
      dsimp only at hs
      cases hread : readDoc sv.readContent row with
      | error err => simp [hread] at hs
      | ok p =>
        cases hpub : publish sv s.node.requests.now p answers with
        | error err => simp [hread, hpub] at hs
        | ok written =>
          obtain ⟨q, payload', view⟩ := written
          obtain rfl : payload' = payload := by simpa [hread, hpub] using hs
          obtain ⟨hallowed, -, signed, rfl, hproofs⟩ := publish_proofs hpub
          constructor
          · intro hbare
            obtain ⟨row₁, hrow₁, hc, -⟩ := hi.node.row
            obtain rfl : row₁ = row := Option.some.inj (hrow₁.symm.trans hrow)
            have hstatus : p.status = row₁.status :=
              Option.some.inj ((fromStored_ok hread).status.symm.trans hc.status)
            have hjws : p.jwsSignature = none := by
              have hnone := hbare "jwsSignature" (by decide)
              rw [toDoc_get_jwsSignature, Option.map_eq_none_iff] at hnone
              exact (congrArg Prod.fst hproofs).symm.trans hnone
            have hunsigned : jwsOf row₁.doc = none := (fromStored_ok hread).jws.trans hjws
            rw [hstatus] at hallowed
            by_contra hnot
            have hsuspended : row₁.status = .suspended := by
              cases hstat : row₁.status <;> simp_all [PassportStatus.canTransitionTo]
            have hsigned := hi.signed row₁ hrow (Or.inr hsuspended)
            rw [hunsigned] at hsigned
            cases hsigned
          · intro hdraft
            have hfresh := (hi.draft row hrow hdraft).1
            exact toDoc_bare (hproofs.trans (readDoc_proofs hread hfresh.2))
    next => cases hs
  next => cases hs

theorem next_signed (h : next sv sl s e = some u) :
    u.signed = s.signed ++ (signedBy sv s e).toList := by
  cases e with
  | node e =>
    obtain ⟨node, -, rfl⟩ := Option.map_eq_some_iff.mp h
    rfl
  | replaceSeal current renewed =>
    cases h
    simp [signedBy]

theorem signsContent_iff (hi : Invariant sv group s) :
    SignsContent s ↔ ∀ payload ∈ s.signed, ∀ k ∈ proofKeys, payload.get k = none := by
  refine ⟨fun h => h.bare, fun h => ⟨h, ?_, ?_, hi.trail⟩⟩
  · intro a ha b hb hsame k hk
    exact get_eq_of_bare (h a ha) (h b hb) hsame hk
  · intro a ha b hb hsame text
    exact payloadSize_eq (fun k hk => get_eq_of_bare (h a ha) (h b hb) hsame hk) text

theorem step_signsContent_iff (hi : Invariant sv group s) (hs : SignsContent s)
    (h : next sv sl s e = some u) : SignsContent u ↔ SignsDraft sv s e := by
  obtain ⟨row, hrow, -⟩ := hi.node.row
  rw [signsContent_iff (step_preserves_invariant hi h), next_signed h]
  cases hpayload : signedBy sv s e with
  | none =>
    have hcond : SignsDraft sv s e := by simp [SignsDraft, hpayload]
    simpa [hcond] using hs.bare
  | some payload =>
    have hbare := signed_bare_iff hi hpayload hrow
    constructor
    · intro hall _ row₁ hrow₁
      obtain rfl : row = row₁ := Option.some.inj (hrow.symm.trans hrow₁)
      exact hbare.mp (hall payload (by simp))
    · intro hdraft b hb
      rcases List.mem_append.mp hb with hb | hb
      · exact hs.bare b hb
      · obtain rfl : b = payload := by simpa using hb
        exact hbare.mpr (hdraft (by simp [hpayload]) row hrow)

theorem refused_signsDraft (h : next sv sl s e = none) : SignsDraft sv s e := by
  intro hsome
  obtain ⟨payload, hpayload⟩ := Option.isSome_iff_exists.mp hsome
  unfold signedBy at hpayload
  split at hpayload
  next r =>
    unfold payloadSigned at hpayload
    split at hpayload
    next caller answers =>
      intro row hrow
      have hrow' : s.node.requests.store.row = some row := hrow
      simp only [next, SealOutbox.next, SnapshotDrain.startedBy, PassportRequests.next, hrow',
        if_true, Option.map_map, Option.map_eq_none_iff] at h
      split at h
      next => cases h
      next => split at h <;> cases h
    next => cases hpayload
  next => cases hpayload

/-- In every run from a new draft, what publishes sign is content alone exactly when each publish
that signs finds a draft: a passport that is published again signs over its own proofs. -/
theorem payloads_carry_no_proof_iff_drafts_signed (sv : Services) (sl : Sealing) (d : Created)
    (now clock : Int) (es : List Event) :
    (∀ before after t, es = before ++ after →
        run (next sv sl) (initial d now clock) before = some t → SignsContent t) ↔
      Along (next sv sl) (SignsDraft sv) (initial d now clock) es := by
  have hinit : Invariant sv d.1.1.productGroup (initial d now clock) :=
    initial_invariant d now clock
  have hsigns : SignsContent (initial d now clock) := (signsContent_iff hinit).mpr nofun
  exact states_iff_along hsigns hinit (fun _ _ _ hi h => step_preserves_invariant hi h)
    (fun _ _ _ hi hs h => step_signsContent_iff hi hs h) fun _ _ h => refused_signsDraft h

end StepFacts

section Samples

def sampleCreated : Created := ⟨sampleDraft, by decide⟩

def publishedAgain : List Event :=
  [.node (.request (.read (sampleCaller 1) (.publish signedAnswers))),
    .node (.request (.commit 0 sampleNow)),
    .node (.request (.read (sampleCaller 2) (.suspend none))),
    .node (.request (.commit 0 sampleNow)),
    .node (.request (.read (sampleCaller 3) (.publish SealOutbox.signedAgainAnswers)))]

/-- The second publish signs over the signature of the first. -/
theorem second_publish_signs_the_first_signature :
    ¬ ∀ (sv : Services) (sl : Sealing) (d : Created) (now clock : Int) (es : List Event),
      ∀ before after t, es = before ++ after →
        run (next sv sl) (initial d now clock) before = some t → SignsContent t := by
  intro h
  have hfails : ((run (next sampleServices SealOutbox.sampleSealing)
      (initial sampleCreated sampleNow sampleNow) publishedAgain).any fun t =>
        t.signed.any fun payload => (payload.get "jwsSignature").isSome) = true := by
    decide +kernel
  obtain ⟨t, hrun, hsome⟩ := (Option.any_eq_true _ _).mp hfails
  obtain ⟨payload, hmem, hjws⟩ := List.any_eq_true.mp hsome
  have hbare := (h sampleServices SealOutbox.sampleSealing sampleCreated sampleNow sampleNow
    publishedAgain publishedAgain [] t (List.append_nil _).symm hrun).bare payload hmem
  rw [hbare "jwsSignature" (by decide)] at hjws
  cases hjws

end Samples

end SignedPayloads
