import DppEngine.DossierVerification
import DppEngine.PagedScans
import DppEngine.SealFreshness

/-! The audit of the stored seals: a walk over the passports in pages, each of which is opened
and counted, and a report when a page comes back empty.

What the inspector and the timestamp authority answer is part of the event, since both change
while the node runs. A page that cannot be read changes nothing; a restart goes on from the
position that was stored last. Renewals of an archive timestamp are steps of their own, so that
one may also be written by a page whose totals are lost. -/
namespace SealAudits

open JsonValues PassportModel StateChangeLog SealOutbox DossierVerification TransitionSystems
open PagedScans
open CmsSeals (Instant)
open SealFreshness (ArchivalFreshness)

/-- The stored form of an envelope, and the digest a seal is bought over. -/
structure Envelopes (E : Type) where
  read : Json → Option E
  write : E → Json
  digestForJws : String → String
  read_write : ∀ e, read (write e) = some e

structure StoredPassport where
  row : Row
  outbox : List OutboxRow
  deriving DecidableEq, Repr

structure Estate where
  rows : List StoredPassport
  ordered : rows.Pairwise fun p q => p.row.id < q.row.id

structure SealedPassport (E : Type) where
  passportId : PassportId
  payloadHash : String
  envelope : E

section Query

variable {E : Type} (env : Envelopes E)

/-- The `WHERE` clause, the cursor aside. A passport without an outbox row is kept. -/
def sealedBy (sealedBefore : Option Instant) (p : StoredPassport) : Bool :=
  p.row.publishedAt.isSome && (p.row.doc.get "seal").isSome && (jwsOf p.row.doc).isSome &&
    sealedBefore.all fun bound => !p.outbox.any fun o =>
      o.status = .sealed && o.sealedAt.any (bound ≤ ·)

/-- A seal member that cannot be read is skipped. -/
def sealedPassport (p : StoredPassport) : Option (SealedPassport E) := do
  let jws ← jwsOf p.row.doc
  let envelope ← (p.row.doc.get "seal").bind env.read
  return ⟨p.row.id, env.digestForJws jws, envelope⟩

def sealedPassports (limit : ℕ) (after : Option PassportId) (sealedBefore : Option Instant)
    (estate : Estate) : List (SealedPassport E) :=
  (page (fun p => p.row.id) limit (estate.rows.filter (sealedBy sealedBefore)) after).filterMap
    (sealedPassport env)

end Query

section Findings

inductive RenewalFinding where
  | nothing
  | due
  | lapsed
  | unverifiable
  deriving DecidableEq, Repr

def renewalLead : Int := 90 * nanosPerDay

def renewalFinding (freshness : ArchivalFreshness) (now : Instant) : RenewalFinding :=
  match freshness with
  | .notArchived => .nothing
  | .current expires => if expires - now > renewalLead then .nothing else .due
  | .lapsed _ => .lapsed
  | .unknown => .unverifiable

inductive SealFinding where
  | certificateFailed
  | sound (finding : RenewalFinding)
  deriving DecidableEq, Repr

def sealFinding (status : SealValidationStatus) (archivalFreshness : Unit → ArchivalFreshness)
    (now : Instant) : SealFinding :=
  if status.1 = .totalFailed then .certificateFailed
  else .sound (renewalFinding (archivalFreshness ()) now)

inductive RenewalOutcome where
  | renewed
  | raced
  | deferred (why : String)
  | failed (why : String)
  deriving DecidableEq, Repr

/-- What is left to report once a due or lapsed seal has been handed to the renewer. -/
def afterRenewal (finding : RenewalFinding) (outcome : Option RenewalOutcome) : RenewalFinding :=
  match finding, outcome with
  | .due, some .renewed | .due, some .raced => .nothing
  | .lapsed, some .renewed | .lapsed, some .raced => .nothing
  | finding, _ => finding

end Findings

structure Inspector (E : Type) where
  binding : E → String → SealBinding
  certificateStanding : E → Instant → Option CertificateStanding
  archivalFreshness : E → Instant → ArchivalFreshness

structure SealAudit where
  checked : ℕ
  sound : ℕ
  certificateFailed : ℕ
  superseded : ℕ
  broken : ℕ
  unreadable : ℕ
  brokenPassports : List PassportId
  archivalLapsed : ℕ
  archivalDue : ℕ
  archivalUnverifiable : ℕ
  renewalPassports : List PassportId
  deriving DecidableEq, Repr

def SealAudit.empty : SealAudit := ⟨0, 0, 0, 0, 0, 0, [], 0, 0, 0, []⟩

def maxNamedBroken : ℕ := 100

/-- The lists of names stop filling, and the counts go on. -/
def name (names : List PassportId) (id : PassportId) : List PassportId :=
  if names.length < maxNamedBroken then names ++ [id] else names

section Counting

variable {E : Type} (inspector : Inspector E) (renewer : Option (PassportId → RenewalOutcome))
  (clock : PassportId → Instant)

def noteRenewal (audit : SealAudit) (id : PassportId) : RenewalFinding → SealAudit
  | .nothing => audit
  | .due => { audit with
      archivalDue := audit.archivalDue + 1
      renewalPassports := name audit.renewalPassports id }
  | .lapsed => { audit with
      archivalLapsed := audit.archivalLapsed + 1
      renewalPassports := name audit.renewalPassports id }
  | .unverifiable => { audit with archivalUnverifiable := audit.archivalUnverifiable + 1 }

def countSeal (audit : SealAudit) (p : SealedPassport E) : SealAudit :=
  let audit := { audit with checked := audit.checked + 1 }
  let now := clock p.passportId
  match inspector.binding p.envelope p.payloadHash with
  | .coversThisSignature =>
    match sealFinding
        (validationStatus .coversThisSignature (inspector.certificateStanding p.envelope now))
        (fun _ => inspector.archivalFreshness p.envelope now) now with
    | .certificateFailed => { audit with certificateFailed := audit.certificateFailed + 1 }
    | .sound finding =>
      noteRenewal { audit with sound := audit.sound + 1 } p.passportId
        (afterRenewal finding (renewer.map fun renew => renew p.passportId))
  | .coversAnotherDigest _ => { audit with superseded := audit.superseded + 1 }
  | .notIntact => { audit with
      broken := audit.broken + 1
      brokenPassports := name audit.brokenPassports p.passportId }
  | .unknown => { audit with unreadable := audit.unreadable + 1 }

def auditBatch (batch : List (SealedPassport E)) : SealAudit :=
  batch.foldl (countSeal inspector renewer clock) .empty

end Counting

def SealAudit.absorb (walk batch : SealAudit) : SealAudit where
  checked := walk.checked + batch.checked
  sound := walk.sound + batch.sound
  certificateFailed := walk.certificateFailed + batch.certificateFailed
  superseded := walk.superseded + batch.superseded
  broken := walk.broken + batch.broken
  unreadable := walk.unreadable + batch.unreadable
  brokenPassports := batch.brokenPassports.foldl name walk.brokenPassports
  archivalLapsed := walk.archivalLapsed + batch.archivalLapsed
  archivalDue := walk.archivalDue + batch.archivalDue
  archivalUnverifiable := walk.archivalUnverifiable + batch.archivalUnverifiable
  renewalPassports := batch.renewalPassports.foldl name walk.renewalPassports

structure SealAuditReport where
  completedAt : Instant
  checked : ℕ
  sound : ℕ
  superseded : ℕ
  broken : ℕ
  certificateFailed : ℕ
  unreadable : ℕ
  truncated : Bool
  brokenPassports : List PassportId
  archivalLapsed : ℕ
  archivalDue : ℕ
  archivalUnverifiable : ℕ
  renewalTruncated : Bool
  renewalPassports : List PassportId
  deriving DecidableEq, Repr

def SealAudit.report (walk : SealAudit) (completedAt : Instant) : SealAuditReport where
  completedAt := completedAt
  checked := walk.checked
  sound := walk.sound
  superseded := walk.superseded
  broken := walk.broken
  certificateFailed := walk.certificateFailed
  unreadable := walk.unreadable
  truncated := walk.brokenPassports.length < walk.broken
  brokenPassports := walk.brokenPassports
  archivalLapsed := walk.archivalLapsed
  archivalDue := walk.archivalDue
  archivalUnverifiable := walk.archivalUnverifiable
  renewalTruncated := walk.renewalPassports.length < walk.archivalDue + walk.archivalLapsed
  renewalPassports := walk.renewalPassports

/-- A walk, in memory or as it was stored. Two fields are not the node's: the passports whose
seal was opened, in order, and whether the tables have been left alone since the walk began. -/
structure Walk where
  startedAt : Instant
  cursor : Option PassportId
  audit : SealAudit
  opened : List PassportId
  steady : Bool
  deriving DecidableEq, Repr

def Walk.fresh (now : Instant) : Walk := ⟨now, none, .empty, [], true⟩

structure Publication where
  walk : Walk
  report : SealAuditReport
  estate : Estate

structure State where
  estate : Estate
  walk : Walk
  progress : Option Walk
  published : List Publication

/-- `stored` is whether the position, or the cleared position, reached the store; `loaded`
whether a restart could read one. `renew` writes another envelope over one that can be read,
and `modify` is every other change to the tables. -/
inductive Event (E : Type) where
  | batch (inspector : Inspector E) (renewer : Option (PassportId → RenewalOutcome))
      (clock : PassportId → Instant) (completedAt startedAt : Instant) (stored : Bool)
  | unread
  | restart (now : Instant) (loaded : Bool)
  | renew (id : PassportId) (envelope : E)
  | modify (estate : Estate)

section System

variable {E : Type} (env : Envelopes E) (limit : ℕ)

def replaceSeal (id : PassportId) (envelope : E) (p : StoredPassport) : StoredPassport :=
  if p.row.id = id ∧ ((p.row.doc.get "seal").bind env.read).isSome then
    { p with row := { p.row with doc := p.row.doc.insert "seal" (env.write envelope) } }
  else p

theorem replaceSeal_id (id : PassportId) (envelope : E) (p : StoredPassport) :
    (replaceSeal env id envelope p).row.id = p.row.id := by
  unfold replaceSeal
  split <;> rfl

def Estate.replaceSeal (estate : Estate) (id : PassportId) (envelope : E) : Estate where
  rows := estate.rows.map (SealAudits.replaceSeal env id envelope)
  ordered := by
    apply List.pairwise_map.mpr
    exact estate.ordered.imp fun hlt => by simpa only [replaceSeal_id] using hlt

def State.audited (s : State) (inspector : Inspector E)
    (renewer : Option (PassportId → RenewalOutcome)) (clock : PassportId → Instant)
    (completedAt startedAt : Instant) (stored : Bool) : State :=
  let batch := sealedPassports env limit s.walk.cursor (some s.walk.startedAt) s.estate
  let walk := { s.walk with
    audit := s.walk.audit.absorb (auditBatch inspector renewer clock batch)
    opened := s.walk.opened ++ batch.map SealedPassport.passportId }
  match batch.getLast? with
  -- an empty batch is how the walk learns that it has reached the end
  | none => { s with
      walk := .fresh startedAt
      progress := if stored then none else s.progress
      published := s.published ++ [⟨walk, walk.audit.report completedAt, s.estate⟩] }
  | some last =>
    let walk := { walk with cursor := some last.passportId }
    { s with walk, progress := if stored then some walk else s.progress }

def next (s : State) : Event E → Option State
  | .batch inspector renewer clock completedAt startedAt stored =>
    some (s.audited env limit inspector renewer clock completedAt startedAt stored)
  | .unread => some s
  | .restart now loaded =>
    some { s with walk := (if loaded then s.progress else none).getD (.fresh now) }
  | .renew id envelope => some { s with estate := s.estate.replaceSeal env id envelope }
  | .modify estate =>
    some { s with
      estate
      walk := { s.walk with steady := false }
      progress := s.progress.map fun w => { w with steady := false } }

def initial (estate : Estate) (now : Instant) : State := ⟨estate, .fresh now, none, []⟩

end System

section Counted

def SealAudit.Balanced (audit : SealAudit) : Prop :=
  audit.sound + audit.certificateFailed + audit.superseded + audit.broken + audit.unreadable =
    audit.checked

variable {E : Type} {inspector : Inspector E} {renewer : Option (PassportId → RenewalOutcome)}
  {clock : PassportId → Instant} {audit : SealAudit}

theorem noteRenewal_balanced {id : PassportId} {finding : RenewalFinding} (h : audit.Balanced) :
    (noteRenewal audit id finding).Balanced ∧
      (noteRenewal audit id finding).checked = audit.checked := by
  cases finding <;> exact ⟨h, rfl⟩

theorem countSeal_balanced (h : audit.Balanced) (p : SealedPassport E) :
    (countSeal inspector renewer clock audit p).Balanced ∧
      (countSeal inspector renewer clock audit p).checked = audit.checked + 1 := by
  unfold SealAudit.Balanced at h
  unfold countSeal
  simp only
  split
  · split
    · refine ⟨?_, rfl⟩
      unfold SealAudit.Balanced
      simp only
      omega
    · refine noteRenewal_balanced ?_
      unfold SealAudit.Balanced
      simp only
      omega
  all_goals
    refine ⟨?_, rfl⟩
    unfold SealAudit.Balanced
    simp only
    omega

theorem foldl_countSeal_balanced (batch : List (SealedPassport E)) (h : audit.Balanced) :
    (batch.foldl (countSeal inspector renewer clock) audit).Balanced ∧
      (batch.foldl (countSeal inspector renewer clock) audit).checked =
        audit.checked + batch.length := by
  induction batch generalizing audit with
  | nil => exact ⟨h, rfl⟩
  | cons p batch ih =>
    obtain ⟨hbalanced, hchecked⟩ :=
      @countSeal_balanced E inspector renewer clock audit h p
    obtain ⟨hrest, hcount⟩ := ih hbalanced
    refine ⟨hrest, hcount.trans ?_⟩
    rw [hchecked, List.length_cons]
    omega

theorem absorb_balanced {walk batch : SealAudit} (hwalk : walk.Balanced) (hbatch : batch.Balanced) :
    (walk.absorb batch).Balanced := by
  unfold SealAudit.Balanced SealAudit.absorb at *
  simp only
  omega

end Counted

section Reading

variable {E : Type} {env : Envelopes E} {p : StoredPassport}

def wanted (estate : Estate) (startedAt : Instant) : List StoredPassport :=
  estate.rows.filter (sealedBy (some startedAt))

def readable (env : Envelopes E) (ps : List StoredPassport) : List PassportId :=
  (ps.filterMap (sealedPassport env)).map SealedPassport.passportId

theorem sealedPassport_id {b : SealedPassport E} (h : sealedPassport env p = some b) :
    b.passportId = p.row.id := by
  obtain ⟨jws, -, h⟩ := Option.bind_eq_some_iff.mp h
  obtain ⟨envelope, -, h⟩ := Option.bind_eq_some_iff.mp h
  rw [← Option.some.inj h]

theorem wanted_ordered (estate : Estate) (startedAt : Instant) :
    (wanted estate startedAt).Pairwise fun p q => p.row.id < q.row.id :=
  estate.ordered.sublist List.filter_sublist

theorem readable_nodup (estate : Estate) (startedAt : Instant) :
    (readable env (wanted estate startedAt)).Nodup := by
  unfold readable List.Nodup
  rw [List.pairwise_map, List.pairwise_filterMap]
  refine (wanted_ordered estate startedAt).imp ?_
  intro p q hlt b hb c hc
  rw [sealedPassport_id hb, sealedPassport_id hc]
  exact hlt.ne

theorem replaceSeal_get (env : Envelopes E) (id : PassportId) (envelope : E) (p : StoredPassport)
    (key : String) (hkey : key ≠ "seal") :
    (replaceSeal env id envelope p).row.doc.get key = p.row.doc.get key := by
  unfold replaceSeal
  split
  · simp [hkey]
  · rfl

theorem replaceSeal_sealedBy (id : PassportId) (envelope : E) (bound : Option Instant)
    (p : StoredPassport) : sealedBy bound (replaceSeal env id envelope p) = sealedBy bound p := by
  have hjws := replaceSeal_get env id envelope p "jwsSignature" (by decide)
  have hseal : ((replaceSeal env id envelope p).row.doc.get "seal").isSome =
      (p.row.doc.get "seal").isSome := by
    unfold replaceSeal
    split
    next h =>
      cases hget : p.row.doc.get "seal" with
      | none => simp [hget] at h
      | some held => simp
    next => rfl
  have hpublished : (replaceSeal env id envelope p).row.publishedAt = p.row.publishedAt := by
    unfold replaceSeal
    split <;> rfl
  have houtbox : (replaceSeal env id envelope p).outbox = p.outbox := by
    unfold replaceSeal
    split <;> rfl
  simp only [sealedBy, jwsOf, hjws, hseal, hpublished, houtbox]

theorem replaceSeal_readable (id : PassportId) (envelope : E) (p : StoredPassport) :
    (sealedPassport env (replaceSeal env id envelope p)).map SealedPassport.passportId =
      (sealedPassport env p).map SealedPassport.passportId := by
  have hjws := replaceSeal_get env id envelope p "jwsSignature" (by decide)
  unfold sealedPassport
  simp only [jwsOf, hjws, replaceSeal_id]
  unfold replaceSeal
  split
  next h =>
    obtain ⟨old, hold⟩ := Option.isSome_iff_exists.mp h.2
    simp [hold, env.read_write]
  next => rfl

theorem readable_map (id : PassportId) (envelope : E) (ps : List StoredPassport) :
    readable env (ps.map (replaceSeal env id envelope)) = readable env ps := by
  unfold readable
  rw [List.filterMap_map, List.map_filterMap, List.map_filterMap]
  exact List.filterMap_congr fun p _ => replaceSeal_readable id envelope p

theorem wanted_replaceSeal (id : PassportId) (envelope : E) (estate : Estate)
    (startedAt : Instant) : wanted (estate.replaceSeal env id envelope) startedAt =
      (wanted estate startedAt).map (replaceSeal env id envelope) := by
  unfold wanted Estate.replaceSeal
  rw [List.filter_map]
  congr 1
  exact List.filter_congr fun p _ => replaceSeal_sealedBy id envelope (some startedAt) p

end Reading

section Walks

variable {E : Type} {env : Envelopes E} {limit : ℕ} {s u : State} {e : Event E} {w : Walk}
  {estate : Estate}

/-- A walk over `estate`: its totals count what it has opened, and where the tables were left
alone it has opened every readable seal up to its cursor. -/
structure WalkSound (env : Envelopes E) (estate : Estate) (w : Walk) : Prop where
  balanced : w.audit.Balanced
  checked : w.audit.checked = w.opened.length
  opened : w.steady = true → ∃ done rest,
    Stands (fun p => p.row.id) (wanted estate w.startedAt) w.cursor done rest ∧
      w.opened = readable env done

/-- A report counts every readable seal once. -/
structure Accounted (env : Envelopes E) (limit : ℕ) (pub : Publication) : Prop where
  balanced : pub.report.sound + pub.report.certificateFailed + pub.report.superseded +
    pub.report.broken + pub.report.unreadable = pub.report.checked
  checked : pub.report.checked = pub.walk.opened.length
  opened : pub.walk.steady = true →
    NoBlindPage (sealedPassport env) limit (wanted pub.estate pub.walk.startedAt) →
      pub.walk.opened = readable env (wanted pub.estate pub.walk.startedAt)

structure Invariant (env : Envelopes E) (limit : ℕ) (s : State) : Prop where
  walk : WalkSound env s.estate s.walk
  progress : ∀ w ∈ s.progress, WalkSound env s.estate w
  published : ∀ pub ∈ s.published, Accounted env limit pub

theorem fresh_sound (now : Instant) : WalkSound env estate (.fresh now) :=
  ⟨rfl, rfl, fun _ => ⟨[], wanted estate now, stands_start _, rfl⟩⟩

theorem WalkSound.unsteady (h : WalkSound env estate w) (estate' : Estate) :
    WalkSound env estate' { w with steady := false } :=
  ⟨h.balanced, h.checked, fun hs => by cases hs⟩

theorem WalkSound.replaceSeal (h : WalkSound env estate w) (id : PassportId) (envelope : E) :
    WalkSound env (estate.replaceSeal env id envelope) w := by
  refine ⟨h.balanced, h.checked, fun hsteady => ?_⟩
  obtain ⟨done, rest, hstands, hopened⟩ := h.opened hsteady
  rw [wanted_replaceSeal]
  refine ⟨_, _, hstands.map (replaceSeal_id env id envelope), ?_⟩
  rw [readable_map]
  exact hopened

theorem audited_invariant {inspector : Inspector E} {renewer : Option (PassportId → RenewalOutcome)}
    {clock : PassportId → Instant} {completedAt startedAt : Instant} {stored : Bool}
    (hi : Invariant env limit s) : Invariant env limit
      (s.audited env limit inspector renewer clock completedAt startedAt stored) := by
  have hbatch : (auditBatch inspector renewer clock (sealedPassports env limit s.walk.cursor
      (some s.walk.startedAt) s.estate)).Balanced ∧ _ := foldl_countSeal_balanced _ rfl
  obtain ⟨hbalanced, hcount⟩ := hbatch
  have hchecked := hi.walk.checked
  unfold State.audited
  simp only
  split
  next hlast =>
    refine ⟨fresh_sound startedAt, ?_, ?_⟩
    · cases stored with
      | true => simp
      | false => exact hi.progress
    · intro pub hpub
      rcases List.mem_append.mp hpub with hpub | hpub
      · exact hi.published pub hpub
      · obtain rfl := List.mem_singleton.mp hpub
        have hempty := List.getLast?_eq_none_iff.mp hlast
        refine ⟨absorb_balanced hi.walk.balanced hbalanced, ?_, fun hsteady hblind => ?_⟩
        · simp only [SealAudit.report, SealAudit.absorb, List.length_append, List.length_map]
          rw [auditBatch, hcount, hchecked]
          simp [SealAudit.empty]
        · obtain ⟨done, rest, hstands, hopened⟩ := hi.walk.opened hsteady
          have hall := hstands.complete hempty hblind
          simp only [hempty, List.map_nil, List.append_nil]
          rw [hopened, readable, readable, hall]
  next last hlast =>
    have hwalk : WalkSound env s.estate { s.walk with
        cursor := some last.passportId
        audit := s.walk.audit.absorb (auditBatch inspector renewer clock
          (sealedPassports env limit s.walk.cursor (some s.walk.startedAt) s.estate))
        opened := s.walk.opened ++ (sealedPassports env limit s.walk.cursor
          (some s.walk.startedAt) s.estate).map SealedPassport.passportId } := by
      refine ⟨absorb_balanced hi.walk.balanced hbalanced, ?_, fun hsteady => ?_⟩
      · simp only [SealAudit.absorb, List.length_append, List.length_map]
        rw [auditBatch, hcount, hchecked]
        simp [SealAudit.empty]
      · obtain ⟨done, rest, hstands, hopened⟩ := hi.walk.opened hsteady
        obtain ⟨p, done', rest', hread, hstands', hdone⟩ :=
          hstands.advance (wanted_ordered s.estate s.walk.startedAt) hlast
        refine ⟨done', rest', ?_, ?_⟩
        · rw [sealedPassport_id hread]
          exact hstands'
        · rw [hopened, readable, readable, hdone, List.map_append]
          rfl
    refine ⟨hwalk, ?_, hi.published⟩
    cases stored with
    | true =>
      intro w hw
      rw [← Option.some.inj hw]
      exact hwalk
    | false => exact hi.progress

theorem step_preserves_invariant (hi : Invariant env limit s) (h : next env limit s e = some u) :
    Invariant env limit u := by
  cases e with
  | batch inspector renewer clock completedAt startedAt stored =>
    cases h
    exact audited_invariant hi
  | unread =>
    cases h
    exact hi
  | restart now loaded =>
    cases h
    refine ⟨?_, hi.progress, hi.published⟩
    cases hw : (if loaded then s.progress else none) with
    | none => exact fresh_sound now
    | some w =>
      simp only [Option.getD_some]
      refine hi.progress w ?_
      by_cases hl : loaded = true
      · simpa [hl] using hw
      · simp [hl] at hw
  | renew id envelope =>
    cases h
    exact ⟨hi.walk.replaceSeal id envelope,
      fun w hw => (hi.progress w hw).replaceSeal id envelope, hi.published⟩
  | modify estate =>
    cases h
    refine ⟨hi.walk.unsteady estate, ?_, hi.published⟩
    intro w hw
    obtain ⟨w₀, hw₀, rfl⟩ := Option.mem_map.mp hw
    exact (hi.progress w₀ hw₀).unsteady estate

theorem initial_invariant (env : Envelopes E) (limit : ℕ) (estate : Estate) (now : Instant) :
    Invariant env limit (initial estate now) :=
  ⟨fresh_sound now, by simp [initial], by simp [initial]⟩

/-- Every published report adds up. Where the tables were left alone, and no whole page of seals
that cannot be read stood before one that can, it counts each seal that can be read once. -/
theorem completed_walks_account (env : Envelopes E) (limit : ℕ) (estate : Estate) (now : Instant)
    (es : List (Event E)) (s : State) (hrun : run (next env limit) (initial estate now) es = some s)
    (pub : Publication) (hpub : pub ∈ s.published) :
    pub.report.sound + pub.report.certificateFailed + pub.report.superseded + pub.report.broken +
        pub.report.unreadable = pub.report.checked ∧
      (pub.walk.steady = true →
        NoBlindPage (sealedPassport env) limit (wanted pub.estate pub.walk.startedAt) →
          pub.walk.opened = readable env (wanted pub.estate pub.walk.startedAt) ∧
          pub.walk.opened.Nodup ∧
          pub.report.checked = (readable env (wanted pub.estate pub.walk.startedAt)).length) := by
  have hi : Invariant env limit s := reachable_invariant
    (fun _ _ _ hi h => step_preserves_invariant hi h) (initial_invariant env limit estate now) hrun
  obtain ⟨hbalanced, hchecked, hopened⟩ := hi.published pub hpub
  refine ⟨hbalanced, fun hsteady hblind => ?_⟩
  have hall := hopened hsteady hblind
  refine ⟨hall, ?_, hall ▸ hchecked⟩
  rw [hall]
  exact readable_nodup pub.estate pub.walk.startedAt

end Walks

section Samples

def sampleEnvelopes : Envelopes String where
  read member := (member.get "sealValue").bind Json.asStr
  write envelope := .obj [("sealValue", .str envelope)]
  digestForJws jws := jws
  read_write _ := rfl

def sampleInspector : Inspector String where
  binding envelope hash := if envelope = hash then .coversThisSignature else .unknown
  certificateStanding _ _ := none
  archivalFreshness _ _ := .notArchived

def sealedRow (id : PassportId) (stored : Json) : StoredPassport where
  row := ⟨id, .published, true, some 1, 1, [("jwsSignature", .str "sig"), ("seal", stored)]⟩
  outbox := []

def damagedEstate : Estate where
  rows := [sealedRow 1 (.str "damaged"), sealedRow 2 (.obj [("sealValue", .str "sig")])]
  ordered := by decide

def opening (stored : Bool) : Event String :=
  .batch sampleInspector none (fun _ => 10) 20 21 stored

def interruptedWalk : List (Event String) :=
  [opening true, .unread, .restart 15 true, .renew 2 "renewed", opening false]

theorem damaged_estate_is_accounted_for :
    ∃ s pub, run (next sampleEnvelopes 2) (initial damagedEstate 5) interruptedWalk = some s ∧
      pub ∈ s.published ∧ pub.walk.opened = readable sampleEnvelopes (wanted pub.estate 5) ∧
      pub.report.checked = (readable sampleEnvelopes (wanted pub.estate 5)).length := by
  have hleft : (run (next sampleEnvelopes 2) (initial damagedEstate 5) interruptedWalk).any
      (fun s => s.published.any fun pub => pub.walk.steady = true ∧ pub.walk.startedAt = 5 ∧
        NoBlindPage (sealedPassport sampleEnvelopes) 2 (wanted pub.estate 5)) = true := by
    decide +kernel
  obtain ⟨s, hrun, hs⟩ := (Option.any_eq_true _ _).mp hleft
  obtain ⟨pub, hpub, hfacts⟩ := List.any_eq_true.mp hs
  obtain ⟨hsteady, hstart, hblind⟩ := of_decide_eq_true hfacts
  have haccount := (completed_walks_account sampleEnvelopes 2 damagedEstate 5 interruptedWalk s hrun
    pub hpub).2 hsteady (by rw [hstart]; exact hblind)
  rw [hstart] at haccount
  exact ⟨s, pub, hrun, hpub, haccount.1, haccount.2.2⟩

/-- The report of the damaged estate leaves the first passport out, and with pages of one the walk
is over before it has opened any seal. -/
theorem unreadable_seals_are_not_counted :
    (∃ s pub, run (next sampleEnvelopes 2) (initial damagedEstate 5) [opening true, opening true] =
      some s ∧ pub ∈ s.published ∧ pub.walk.steady = true ∧ pub.report.checked = 1 ∧
      (wanted pub.estate pub.walk.startedAt).length = 2) ∧
    (∃ s pub, run (next sampleEnvelopes 1) (initial damagedEstate 5) [opening true] = some s ∧
      pub ∈ s.published ∧ pub.walk.steady = true ∧ pub.report.checked = 0 ∧
      (readable sampleEnvelopes (wanted pub.estate pub.walk.startedAt)).length = 1) := by
  have htwo : (run (next sampleEnvelopes 2) (initial damagedEstate 5)
      [opening true, opening true]).any (fun s => s.published.any fun pub =>
        pub.walk.steady = true ∧ pub.report.checked = 1 ∧
          (wanted pub.estate pub.walk.startedAt).length = 2) = true := by
    decide +kernel
  have hone : (run (next sampleEnvelopes 1) (initial damagedEstate 5) [opening true]).any
      (fun s => s.published.any fun pub => pub.walk.steady = true ∧ pub.report.checked = 0 ∧
        (readable sampleEnvelopes (wanted pub.estate pub.walk.startedAt)).length = 1) = true := by
    decide +kernel
  constructor
  · obtain ⟨s, hrun, hs⟩ := (Option.any_eq_true _ _).mp htwo
    obtain ⟨pub, hpub, hfacts⟩ := List.any_eq_true.mp hs
    exact ⟨s, pub, hrun, hpub, of_decide_eq_true hfacts⟩
  · obtain ⟨s, hrun, hs⟩ := (Option.any_eq_true _ _).mp hone
    obtain ⟨pub, hpub, hfacts⟩ := List.any_eq_true.mp hs
    exact ⟨s, pub, hrun, hpub, of_decide_eq_true hfacts⟩

end Samples

end SealAudits
