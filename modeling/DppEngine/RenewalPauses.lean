import DppEngine.CompactTokens
import DppEngine.LocalSeals
import DppEngine.SealAudits
import DppEngine.SealDigests

/-! Renewals from the audit walk: a budget for each batch, a pause when a failure is taken to be
every seal's, and a write that compares what is stored.

Base64, the envelope's stored form, the standing of a seal's certificate and how a standing is
printed are parameters. -/
namespace RenewalPauses

open CmsSeals FallibleSteps JsonValues PassportModel StateChangeLog SealFreshness SealRenewal
open CompactTokens (base64Url base64UrlDecode)
open LocalSeals (SealConformanceLevel)
open QualifiedIssuers (TimestampToken TimestampStanding timestampStanding)
open SealAudits (Inspector SealedPassport sealFinding)
open SealDigests (sealValueOf)
open SealOutbox (SealBinding eqIgnoreAsciiCase setSeal)
open TrustedLists (VerifiedTrustedList)

section Envelopes

/-- The formats of an envelope; the inspector reads the first. -/
inductive SealFormat where
  | cades
  | other (name : String)
  deriving DecidableEq, Repr

structure SealedEnvelope where
  format : SealFormat
  sealValue : String
  signingCertRef : Option String
  conformanceLevel : Option SealConformanceLevel
  sealedAt : Instant
  placeholder : Bool
  deriving DecidableEq, Repr

variable {Key History Status : Type}

structure Libraries (Key History Status : Type) where
  seals : SealFreshness.Readers Key
  trust : QualifiedIssuers.Readers Key History Status
  base64 : Bytes → String
  base64Decode : String → Option Bytes
  base64Decode_base64 : ∀ b, base64Decode (base64 b) = some b
  /-- The stored form of an envelope. -/
  document : SealedEnvelope → Doc
  certificateStanding : SealedEnvelope → Instant → Option DossierVerification.CertificateStanding
  renderStanding : TimestampStanding Status → String

variable (lib : Libraries Key History Status)

def readable (envelope : SealedEnvelope) : Option Bytes :=
  if envelope.placeholder ∨ envelope.format ≠ .cades then none
  else lib.base64Decode envelope.sealValue

def hexEncode (b : Bytes) : String := String.ofList (b.flatMap fun octet => hexDigits octet.toNat 2)

def binding (envelope : SealedEnvelope) (payloadHash : String) : SealBinding :=
  match readable lib envelope with
  | none => .unknown
  | some der =>
    match verifyAgainstEmbeddedCertificate lib.seals der with
    | .ok false => .notIntact
    | .error _ => .unknown
    | .ok true =>
      match coveredDigestOf lib.seals der with
      | .ok (some digest) =>
        if eqIgnoreAsciiCase (hexEncode digest) payloadHash then .coversThisSignature
        else .coversAnotherDigest (hexEncode digest)
      | _ => .unknown

def archivalFreshness (envelope : SealedEnvelope) (now : Instant) : ArchivalFreshness :=
  match readable lib envelope with
  | none => .notArchived
  | some der => (SealFreshness.archivalFreshness lib.seals der now).toOption.getD .unknown

def inspector : Inspector SealedEnvelope where
  binding := binding lib
  certificateStanding := lib.certificateStanding
  archivalFreshness := archivalFreshness lib

def due (p : SealedPassport SealedEnvelope) (now : Instant) : Bool :=
  (inspector lib).binding p.envelope p.payloadHash = .coversThisSignature &&
    match sealFinding
        (DossierVerification.validationStatus .coversThisSignature
          ((inspector lib).certificateStanding p.envelope now))
        (fun _ => (inspector lib).archivalFreshness p.envelope now) now with
    | .certificateFailed => false
    | .sound finding => finding = .due || finding = .lapsed

end Envelopes

section Renewer

variable {Key History Status : Type} (lib : Libraries Key History Status)

def countsAsProofOfExistence : TimestampStanding Status → Bool
  | .qualifiedAtStamping .. => true
  | _ => false

/-- What meets an attempt: the clock, the authority, the lists held, what is stored by the time of
the write, and the error the write meets, if any. -/
structure Surroundings (History : Type) where
  now : Instant
  stamp : Bytes → Except SealError Bytes
  lists : List (VerifiedTrustedList History)
  unchecked : ℕ
  rows : List Row
  writeFails : Option String

def accept (requireQualified : Bool) (w : Surroundings History) (token : TimestampToken) :
    Except (TimestampStanding Status) Unit :=
  let standing := timestampStanding lib.trust token w.lists w.unchecked
  if requireQualified && !countsAsProofOfExistence standing then .error standing else .ok ()

structure RenewedEnvelope where
  envelope : SealedEnvelope
  previousExpires : Instant
  expires : Instant
  deriving DecidableEq, Repr

def renewEnvelope (requireQualified : Bool) (w : Surroundings History) (envelope : SealedEnvelope) :
    Except (RenewalError Status) RenewedEnvelope :=
  match readable lib envelope with
  | none => .error (.notRenewable "the stored seal is not a CAdES this node can read")
  | some der =>
    (renewArchiveTimestamp lib.seals der w.stamp w.now (accept lib requireQualified w)).map
      fun renewed => ⟨{ envelope with sealValue := lib.base64 renewed.sealDer },
        renewed.previousExpires, renewed.expires⟩

def errorText : RenewalError Status → String
  | .notRenewable why => why
  | .source e => "the timestamp source failed: " ++ e
  | .unusable why => "the authority's token cannot be used: " ++ why
  | .noGain current offered => "the authority's certificate ends " ++
      lib.seals.renderTime offered ++ ", which is no later than the protection it would renew (" ++
      lib.seals.renderTime current ++
      ") — a renewal would gain nothing and the seal would stay due"
  | .authorityRefused standing =>
    "the authority is not one this node accepts: " ++ lib.renderStanding standing

/-- The row of the passport, if its seal is still of the value that was read. -/
def holds (id : PassportId) (current : SealedEnvelope) (row : Row) : Bool :=
  row.id = id && sealValueOf row = some current.sealValue

/-- Compare and swap, in one statement; true when it wrote. -/
def replaceSeal (rows : List Row) (now : Instant) (id : PassportId)
    (current renewed : SealedEnvelope) : List Row × Bool :=
  (rows.map fun row => if holds id current row then setSeal now row (lib.document renewed) else row,
    (rows.filter (holds id current)).length = 1)

inductive RenewalOutcome where
  | renewed (expires : Instant)
  | raced
  | deferred (why : String)
  | failed (why : String)
  deriving DecidableEq, Repr

def maxRenewalsPerBatch : ℕ := 20

def pauseAfterSharedFailure : Int := 3600000000000

/-- The renewer within a batch: until when it pauses, what is left of the batch's budget, and how
many stamps the batch has requested, which only the model counts. -/
structure Batch where
  pausedUntil : Option Instant
  renewalsLeft : ℕ
  requested : ℕ
  deriving DecidableEq, Repr

def Batch.paused (b : Batch) (now : Instant) : Bool := b.pausedUntil.any (now < ·)

def Batch.pause (b : Batch) (now : Instant) : Batch :=
  { b with pausedUntil := some (now + pauseAfterSharedFailure) }

/-- Whether the authority is asked: everything before that is about the seal alone. -/
def asks (envelope : SealedEnvelope) : Bool :=
  (readable lib envelope).any fun der => (prepareArchiveRenewal lib.seals der).toOption.isSome

def Batch.refund (b : Batch) : RenewalError Status → Batch
  | .notRenewable _ => { b with renewalsLeft := b.renewalsLeft + 1 }
  | _ => b

def Batch.pauseFor (b : Batch) (now : Instant) : RenewalError Status → Batch
  | .source _ | .authorityRefused _ | .noGain .. | .unusable _ => b.pause now
  | .notRenewable _ => b

def renew (requireQualified : Bool) (b : Batch) (w : Surroundings History)
    (p : SealedPassport SealedEnvelope) : Batch × List Row × RenewalOutcome :=
  if b.paused w.now then
    (b, w.rows, .deferred "paused after a failure every seal would share")
  else if b.renewalsLeft = 0 then
    (b, w.rows, .deferred "this batch has spent its renewals")
  else
    let b : Batch := { b with
      renewalsLeft := b.renewalsLeft - 1
      requested := b.requested + (if asks lib p.envelope then 1 else 0) }
    match renewEnvelope lib requireQualified w p.envelope with
    | .error e => ((b.refund e).pauseFor w.now e, w.rows, .failed (errorText lib e))
    | .ok renewed =>
      match w.writeFails with
      | some e => (b, w.rows, .failed ("the renewed seal could not be stored: " ++ e))
      | none =>
        let (rows, wrote) := replaceSeal lib w.rows w.now p.passportId p.envelope renewed.envelope
        (b, rows, if wrote then .renewed renewed.expires else .raced)

/-- One batch: the seals that are due are handed over in the order they were read. -/
def renewBatch (requireQualified : Bool) (pausedUntil : Option Instant)
    (batch : List (SealedPassport SealedEnvelope × Surroundings History)) : Batch :=
  batch.foldl (fun b visit =>
    if due lib visit.1 visit.2.now then (renew lib requireQualified b visit.2 visit.1).1 else b)
    ⟨pausedUntil, maxRenewalsPerBatch, 0⟩

end Renewer

section Attempts

variable {Key History Status : Type} {x : SealFreshness.Readers Key} {sealDer tokenDer : Bytes}
  {stamp : Bytes → Except SealError Bytes} {now : Instant}
  {policy : TimestampToken → Except (TimestampStanding Status) Unit} {renewed : Renewed}

theorem signatureUntouched_error {original : Bytes} {e : RenewalError Status}
    (h : signatureUntouched x original sealDer = .error e) : ∃ why, e = .unusable why := by
  unfold signatureUntouched at h
  split at h
  · split at h
    next => cases h
    next =>
      cases h
      exact ⟨_, rfl⟩
  all_goals
    cases h
    exact ⟨_, rfl⟩

/-- An attached timestamp leaves what the signature says, and whether it verifies. -/
theorem readSignature_attached {request : RenewalRequest} {attached : Attached}
    (h : attachArchiveTimestamp x sealDer request tokenDer = .ok attached) :
    readSignature x attached.sealDer = readSignature x sealDer := by
  obtain ⟨_, signed, _, attrs, _, hparse, _, _, hafter⟩ := attached_reads_back h
  unfold readSignature coveredDigestOf verifyAgainstEmbeddedCertificate
  rw [hparse, hafter]
  rfl

theorem renewArchiveTimestamp_of_refused {why : SealError}
    (h : prepareArchiveRenewal x sealDer = .error why) :
    renewArchiveTimestamp x sealDer stamp now policy = .error (.notRenewable why) := by
  unfold renewArchiveTimestamp
  rw [h]
  rfl

/-- Once the authority was asked, no error is about the seal alone. -/
theorem renewArchiveTimestamp_error {request : RenewalRequest} {e : RenewalError Status}
    (hrequest : prepareArchiveRenewal x sealDer = .ok request)
    (h : renewArchiveTimestamp x sealDer stamp now policy = .error e) (why : String) :
    e ≠ .notRenewable why := by
  rintro rfl
  rcases bind_error h with h | ⟨_, _, h⟩
  · obtain ⟨_, hrefused, _⟩ := mapError_error h
    cases hrequest.symm.trans hrefused
  rcases bind_error h with h | ⟨_, _, h⟩
  · obtain ⟨_, _, hkind⟩ := mapError_error h
    cases hkind
  rcases bind_error h with h | ⟨attached, _, h⟩
  · obtain ⟨_, _, hkind⟩ := mapError_error h
    cases hkind
  dsimp only at h
  split at h
  next => cases h
  split at h
  next => cases h
  split at h
  next => cases h
  rcases bind_error h with h | ⟨_, _, h⟩
  · obtain ⟨_, _, hkind⟩ := mapError_error h
    cases hkind
  split at h
  next => cases h
  rcases bind_error h with h | ⟨_, _, h⟩
  · obtain ⟨_, hkind⟩ := signatureUntouched_error h
    cases hkind
  · cases h

end Attempts

section Sharing

variable {Key History Status : Type} (lib : Libraries Key History Status) (requireQualified : Bool)
  (w : Surroundings History)

def answer (envelope : SealedEnvelope) : Option (RenewalRequest × Attached) := do
  let der ← readable lib envelope
  let request ← (prepareArchiveRenewal lib.seals der).toOption
  let token ← (w.stamp request.imprint).toOption
  let attached ← (attachArchiveTimestamp lib.seals der request token).toOption
  pure (request, attached)

/-- What is asked of a stamp whatever seal it is for. -/
structure Acceptable (attached : Attached) : Prop where
  clock : ((attached.stamp.genTime - w.now).natAbs : Int) ≤ maxStampSkew
  accepted : accept lib requireQualified w attached.stamp = .ok ()

/-- What is asked of a stamp because of what the seal already has. -/
structure Betters (now : Instant) (request : RenewalRequest) (attached : Attached) : Prop where
  order : request.previousGenTime ≤ attached.stamp.genTime
  gain : request.previousExpires < attached.expires
  newest : SealFreshness.archivalFreshness lib.seals attached.sealDer now =
    .ok (.current attached.expires)

def Served (envelope : SealedEnvelope) : Prop :=
  ∃ request attached, answer lib w envelope = some (request, attached) ∧
    Acceptable lib requireQualified w attached ∧ Betters lib w.now request attached

/-- When a renewal of the first pauses renewals, one of the second would fail as well. -/
def SharedPause (first second : SealedPassport SealedEnvelope) : Prop :=
  ∀ b : Batch, b.paused w.now = false → (renew lib requireQualified b w first).1.paused w.now →
    ∃ why, (renew lib requireQualified b w second).2.2 = .failed why

/-- The answer for the first seal does not do, and that for the second would, and be stored. -/
def HeldUp (first second : SealedPassport SealedEnvelope) : Prop :=
  asks lib first.envelope ∧ ¬ Served lib requireQualified w first.envelope ∧
    Served lib requireQualified w second.envelope ∧ w.writeFails = none

/-- Every seal the authority is asked about gets a stamp of one time, under one certificate. -/
def EvenHanded (genTime expires : Instant) : Prop :=
  ∀ envelope, asks lib envelope → ∃ request attached,
    answer lib w envelope = some (request, attached) ∧ Acceptable lib requireQualified w attached ∧
      SealFreshness.archivalFreshness lib.seals attached.sealDer w.now =
        .ok (.current attached.expires) ∧
      attached.stamp.genTime = genTime ∧ attached.expires = expires

variable {lib requireQualified w} {p first second : SealedPassport SealedEnvelope} {b : Batch}

theorem answer_eq_some {envelope : SealedEnvelope} {request : RenewalRequest}
    {attached : Attached} : answer lib w envelope = some (request, attached) ↔
      ∃ der token, readable lib envelope = some der ∧
        prepareArchiveRenewal lib.seals der = .ok request ∧ w.stamp request.imprint = .ok token ∧
        attachArchiveTimestamp lib.seals der request token = .ok attached := by
  unfold answer
  simp only [Option.bind_eq_bind, Option.bind_eq_some_iff, toOption_eq_some, Option.pure_def,
    Option.some.injEq, Prod.mk.injEq]
  constructor
  · rintro ⟨der, hder, request', hrequest, token, htoken, attached', hattached, rfl, rfl⟩
    exact ⟨der, token, hder, hrequest, htoken, hattached⟩
  · rintro ⟨der, token, hder, hrequest, htoken, hattached⟩
    exact ⟨der, hder, request, hrequest, token, htoken, attached, hattached, rfl, rfl⟩

theorem readSignature_of_due {now : Instant} (h : due lib p now) :
    ∃ der signature, readable lib p.envelope = some der ∧
      readSignature lib.seals der = .ok signature := by
  unfold due at h
  rw [Bool.and_eq_true, decide_eq_true_eq] at h
  have hbinding : binding lib p.envelope p.payloadHash = .coversThisSignature := h.1
  unfold binding at hbinding
  split at hbinding
  next => cases hbinding
  next der hder =>
    split at hbinding
    next => cases hbinding
    next => cases hbinding
    next hverifies =>
      split at hbinding
      next digest hdigest =>
        refine ⟨der, (some digest, true), hder, ?_⟩
        unfold readSignature
        rw [hdigest, hverifies]
        rfl
      next => cases hbinding

/-- A seal that covers its passport's signature and whose protection soon ends is due. -/
theorem due_of_current {der digest : Bytes} {now expires : Instant}
    (hder : readable lib p.envelope = some der)
    (hread : readSignature lib.seals der = .ok (some digest, true))
    (hhash : p.payloadHash = hexEncode digest)
    (hcertificate : lib.certificateStanding p.envelope now = none)
    (hfresh : SealFreshness.archivalFreshness lib.seals der now = .ok (.current expires))
    (hsoon : expires - now ≤ SealAudits.renewalLead) : due lib p now := by
  obtain ⟨_, hdigest, hread⟩ := bind_ok hread
  obtain ⟨_, hverifies, hread⟩ := bind_ok hread
  cases hread
  have hbinding : binding lib p.envelope p.payloadHash = .coversThisSignature := by
    simp [binding, hder, hverifies, hdigest, hhash, eqIgnoreAsciiCase]
  have hfreshness : archivalFreshness lib p.envelope now = .current expires := by
    simp [archivalFreshness, hder, hfresh, Except.toOption]
  simp [due, inspector, hbinding, hcertificate, hfreshness, sealFinding,
    DossierVerification.validationStatus, SealAudits.renewalFinding, not_lt.mpr hsoon]

theorem signatureUntouched_attached {der tokenDer : Bytes} {request : RenewalRequest}
    {attached : Attached} {signature : Option Bytes × Bool}
    (hread : readSignature lib.seals der = .ok signature)
    (hattached : attachArchiveTimestamp lib.seals der request tokenDer = .ok attached) :
    @signatureUntouched _ Status lib.seals der attached.sealDer = .ok () := by
  unfold signatureUntouched
  rw [readSignature_attached hattached, hread]
  exact if_pos rfl

theorem renewEnvelope_ok_iff (h : due lib p w.now) :
    (∃ renewed, renewEnvelope lib requireQualified w p.envelope = .ok renewed) ↔
      Served lib requireQualified w p.envelope := by
  obtain ⟨der, signature, hder, hread⟩ := readSignature_of_due h
  unfold renewEnvelope Served
  rw [hder]
  constructor
  · rintro ⟨_, hrenewed⟩
    cases hrenew : renewArchiveTimestamp lib.seals der w.stamp w.now
        (accept lib requireQualified w) with
    | error e =>
      simp only [hrenew, Except.map] at hrenewed
      cases hrenewed
    | ok renewed =>
      obtain ⟨request, hrequest, hrenew⟩ := bind_ok hrenew
      obtain ⟨token, htoken, hrenew⟩ := bind_ok hrenew
      obtain ⟨attached, hattached, hrenew⟩ := bind_ok hrenew
      dsimp only at hrenew
      split at hrenew
      next => cases hrenew
      next hclock =>
      split at hrenew
      next => cases hrenew
      next horder =>
      split at hrenew
      next => cases hrenew
      next hgain =>
      obtain ⟨_, haccepted, hrenew⟩ := bind_ok hrenew
      split at hrenew
      next => cases hrenew
      next hnewest =>
      exact ⟨request, attached, answer_eq_some.mpr ⟨der, token, hder, mapError_ok hrequest,
          mapError_ok htoken, mapError_ok hattached⟩,
        ⟨not_lt.mp hclock, mapError_ok haccepted⟩,
        ⟨not_lt.mp horder, not_le.mp hgain, toOption_eq_some.mp (not_not.mp hnewest)⟩⟩
  · rintro ⟨request, attached, hanswer, hacceptable, hbetters⟩
    obtain ⟨der', token, hder', hrequest, htoken, hattached⟩ := answer_eq_some.mp hanswer
    cases hder.symm.trans hder'
    have huntouched := @signatureUntouched_attached _ _ _ lib _ _ _ _ _ hread hattached
    have hrenew : renewArchiveTimestamp lib.seals der w.stamp w.now
        (accept lib requireQualified w) =
        .ok ⟨attached.sealDer, request.previousExpires, attached.expires⟩ := by
      unfold renewArchiveTimestamp
      simp only [Except.mapError, bind, Except.bind, hrequest, htoken, hattached,
        hacceptable.accepted, hbetters.newest, huntouched, gt_iff_lt,
        if_neg (not_lt.mpr hacceptable.clock), if_neg (not_lt.mpr hbetters.order),
        if_neg (not_le.mpr hbetters.gain)]
      exact if_neg (not_not.mpr rfl)
    simp only [hrenew]
    exact ⟨_, rfl⟩

theorem renewEnvelope_anyone {envelope : SealedEnvelope} {der : Bytes}
    (hder : readable lib envelope = some der) :
    (∃ renewed, renewEnvelope lib false w envelope = .ok renewed) ↔
      (renewArchiveTimestamp lib.seals der w.stamp w.now
        fun _ => (.ok () : Except (TimestampStanding Status) Unit)).toOption.isSome := by
  have hanyone : accept lib false w = fun _ => .ok () := by
    funext token
    simp [accept]
  unfold renewEnvelope
  rw [hder, hanyone]
  cases hrenew : renewArchiveTimestamp lib.seals der w.stamp w.now
      fun _ => (.ok () : Except (TimestampStanding Status) Unit) with
  | error e => simp [hrenew, Except.map, Except.toOption]
  | ok renewed => simp [hrenew, Except.map, Except.toOption]

/-- An error is about the seal alone exactly when nothing was asked. -/
theorem renewEnvelope_error {envelope : SealedEnvelope} {e : RenewalError Status}
    (h : renewEnvelope lib requireQualified w envelope = .error e) :
    (∃ why, e = .notRenewable why) ↔ asks lib envelope = false := by
  unfold renewEnvelope at h
  unfold asks
  cases hder : readable lib envelope with
  | none =>
    rw [hder] at h
    cases h
    simp
  | some der =>
    simp only [hder] at h
    cases hrequest : prepareArchiveRenewal lib.seals der with
    | error why =>
      rw [renewArchiveTimestamp_of_refused hrequest] at h
      cases h
      simp [hrequest, Except.toOption]
    | ok request =>
      cases hrenew : renewArchiveTimestamp lib.seals der w.stamp w.now
          (accept lib requireQualified w) with
      | ok renewed =>
        simp only [hrenew, Except.map] at h
        cases h
      | error e' =>
        simp only [hrenew, Except.map, Except.error.injEq] at h
        subst h
        have hkind := renewArchiveTimestamp_error hrequest hrenew
        simp [hrequest, Except.toOption, hkind]

theorem asks_of_ok {envelope : SealedEnvelope} {renewed : RenewedEnvelope}
    (h : renewEnvelope lib requireQualified w envelope = .ok renewed) : asks lib envelope := by
  unfold renewEnvelope at h
  unfold asks
  cases hder : readable lib envelope with
  | none =>
    rw [hder] at h
    cases h
  | some der =>
    cases hrequest : prepareArchiveRenewal lib.seals der with
    | error why =>
      simp only [hder, renewArchiveTimestamp_of_refused hrequest, Except.map] at h
      cases h
    | ok request => simp [hrequest, Except.toOption]

theorem renew_made (hopen : b.paused w.now = false) (hleft : b.renewalsLeft ≠ 0) :
    (∃ e, renewEnvelope lib requireQualified w p.envelope = .error e ∧
      (∃ why, (renew lib requireQualified b w p).2.2 = .failed why) ∧
      (renew lib requireQualified b w p).2.1 = w.rows ∧
      (renew lib requireQualified b w p).1 =
        if asks lib p.envelope then
          ⟨some (w.now + pauseAfterSharedFailure), b.renewalsLeft - 1, b.requested + 1⟩
        else b) ∨
    ∃ renewed, renewEnvelope lib requireQualified w p.envelope = .ok renewed ∧
      asks lib p.envelope ∧
      ((∃ why, (renew lib requireQualified b w p).2.2 = .failed why) ↔ w.writeFails.isSome) ∧
      ((renew lib requireQualified b w p).2.1 = w.rows ∨ (renew lib requireQualified b w p).2.1 =
        (replaceSeal lib w.rows w.now p.passportId p.envelope renewed.envelope).1) ∧
      (renew lib requireQualified b w p).1 =
        ⟨b.pausedUntil, b.renewalsLeft - 1, b.requested + 1⟩ := by
  unfold renew
  rw [hopen, if_neg Bool.false_ne_true, if_neg hleft]
  cases hrenew : renewEnvelope lib requireQualified w p.envelope with
  | error e =>
    left
    refine ⟨e, rfl, ⟨_, rfl⟩, rfl, ?_⟩
    have hkind := renewEnvelope_error hrenew
    cases hasks : asks lib p.envelope with
    | false =>
      obtain ⟨why, rfl⟩ := hkind.mpr hasks
      have hback : b.renewalsLeft - 1 + 1 = b.renewalsLeft :=
        Nat.sub_add_cancel (Nat.pos_of_ne_zero hleft)
      simp only [Batch.refund, Batch.pauseFor, Bool.false_eq_true, if_false, hback, Nat.add_zero]
    | true =>
      have hshared : ∀ why, e ≠ .notRenewable why := by
        rintro why rfl
        cases hasks.symm.trans (hkind.mp ⟨why, rfl⟩)
      cases e with
      | notRenewable why => exact absurd rfl (hshared why)
      | source | unusable | noGain | authorityRefused => rfl
  | ok renewed =>
    right
    have hasks := asks_of_ok hrenew
    refine ⟨renewed, rfl, hasks, ?_⟩
    simp only [hasks, if_true]
    cases hwrite : w.writeFails with
    | some e => simp
    | none =>
      dsimp only
      refine ⟨?_, .inr rfl, rfl⟩
      split_ifs <;> simp

theorem renew_not_made (h : b.paused w.now ∨ b.renewalsLeft = 0) :
    ∃ why, renew lib requireQualified b w p = (b, w.rows, .deferred why) := by
  unfold renew
  by_cases hpaused : b.paused w.now = true
  · rw [if_pos hpaused]
    exact ⟨_, rfl⟩
  · rw [if_neg hpaused, if_pos (h.resolve_left hpaused)]
    exact ⟨_, rfl⟩

/-- Every stamp is paid for, and nothing else is. -/
theorem renew_budget :
    (renew lib requireQualified b w p).1.requested +
        (renew lib requireQualified b w p).1.renewalsLeft = b.requested + b.renewalsLeft ∧
      (asks lib p.envelope = false → (renew lib requireQualified b w p).1 = b) := by
  by_cases hmade : b.paused w.now = true ∨ b.renewalsLeft = 0
  · obtain ⟨why, hrenew⟩ := @renew_not_made _ _ _ lib requireQualified w p b hmade
    rw [hrenew]
    exact ⟨rfl, fun _ => rfl⟩
  · have hopen : b.paused w.now = false := by
      simpa using fun hpaused => hmade (.inl hpaused)
    have hleft : b.renewalsLeft ≠ 0 := fun hzero => hmade (.inr hzero)
    obtain ⟨_, _, _, _, hbatch⟩ | ⟨_, _, hasks, _, _, hbatch⟩ :=
      @renew_made _ _ _ lib requireQualified w p b hopen hleft
    · rw [hbatch]
      cases asks lib p.envelope with
      | false => exact ⟨rfl, fun _ => rfl⟩
      | true =>
        refine ⟨?_, fun hfalse => by cases hfalse⟩
        show b.requested + 1 + (b.renewalsLeft - 1) = _
        omega
    · rw [hbatch, hasks]
      refine ⟨?_, fun hfalse => by cases hfalse⟩
      show b.requested + 1 + (b.renewalsLeft - 1) = _
      omega

theorem renewBatch_budget (pausedUntil : Option Instant)
    (batch : List (SealedPassport SealedEnvelope × Surroundings History)) :
    (renewBatch lib requireQualified pausedUntil batch).requested +
      (renewBatch lib requireQualified pausedUntil batch).renewalsLeft = maxRenewalsPerBatch := by
  unfold renewBatch
  refine List.foldlRecOn (motive := fun b : Batch =>
    b.requested + b.renewalsLeft = maxRenewalsPerBatch) batch _ rfl ?_
  intro b hb visit _
  split_ifs
  · exact (renew_budget.1).trans hb
  · exact hb

/-- A stored row that is no longer there after an attempt held the seal that was read. -/
theorem renew_writes {row : Row} (hrow : row ∈ w.rows)
    (hgone : row ∉ (renew lib requireQualified b w p).2.1) :
    row.id = p.passportId ∧ sealValueOf row = some p.envelope.sealValue := by
  have hwritten : ∃ renewed : SealedEnvelope, row ∉
      (replaceSeal lib w.rows w.now p.passportId p.envelope renewed).1 := by
    by_cases hmade : b.paused w.now = true ∨ b.renewalsLeft = 0
    · obtain ⟨why, hrenew⟩ := @renew_not_made _ _ _ lib requireQualified w p b hmade
      rw [hrenew] at hgone
      exact absurd hrow hgone
    · have hopen : b.paused w.now = false := by
        simpa using fun hpaused => hmade (.inl hpaused)
      have hleft : b.renewalsLeft ≠ 0 := fun hzero => hmade (.inr hzero)
      obtain ⟨_, _, _, hrows, _⟩ | ⟨renewed, _, _, _, hrows | hrows, _⟩ :=
        @renew_made _ _ _ lib requireQualified w p b hopen hleft
      · exact absurd (hrows ▸ hrow) hgone
      · exact absurd (hrows ▸ hrow) hgone
      · exact ⟨renewed.envelope, hrows ▸ hgone⟩
  obtain ⟨renewed, hwritten⟩ := hwritten
  by_contra hother
  refine hwritten (List.mem_map.mpr ⟨row, hrow, if_neg ?_⟩)
  simpa [holds] using hother

/-- A pause is shared unless the second seal is held up by the first. -/
theorem sharedPause_iff (hfirst : due lib first w.now) (hsecond : due lib second w.now) :
    SharedPause lib requireQualified w first second ↔
      ¬ HeldUp lib requireQualified w first second := by
  constructor
  · rintro hshared ⟨hasks, hunserved, hserved, hwrite⟩
    have hopen : (⟨none, 1, 0⟩ : Batch).paused w.now = false := rfl
    obtain ⟨_, _, _, _, hbatch⟩ | ⟨renewed, hok, _⟩ :=
      @renew_made _ _ _ lib requireQualified w first ⟨none, 1, 0⟩ hopen one_ne_zero
    · obtain ⟨renewed, hok⟩ := (renewEnvelope_ok_iff hsecond).mpr hserved
      obtain ⟨e, herror, _⟩ | ⟨_, _, _, hfails, _⟩ :=
        @renew_made _ _ _ lib requireQualified w second ⟨none, 1, 0⟩ hopen one_ne_zero
      · cases hok.symm.trans herror
      · have hpaused : (renew lib requireQualified ⟨none, 1, 0⟩ w first).1.paused w.now := by
          rw [hbatch, if_pos hasks]
          simp [Batch.paused, pauseAfterSharedFailure]
        have hfailed := hfails.mp (hshared _ hopen hpaused)
        rw [hwrite] at hfailed
        cases hfailed
    · exact absurd ((renewEnvelope_ok_iff hfirst).mp ⟨renewed, hok⟩) hunserved
  · intro hfree b hopen hpauses
    by_cases hleft : b.renewalsLeft = 0
    · obtain ⟨why, hrenew⟩ := @renew_not_made _ _ _ lib requireQualified w first b (.inr hleft)
      rw [hrenew] at hpauses
      cases hopen.symm.trans hpauses
    obtain ⟨e, herror, _, _, hbatch⟩ | ⟨_, _, _, _, _, hbatch⟩ :=
      @renew_made _ _ _ lib requireQualified w first b hopen hleft
    · rw [hbatch] at hpauses
      cases hasks : asks lib first.envelope with
      | false =>
        rw [hasks] at hpauses
        cases hopen.symm.trans hpauses
      | true =>
        have hunserved : ¬ Served lib requireQualified w first.envelope := by
          intro hserved
          obtain ⟨_, hok⟩ := (renewEnvelope_ok_iff hfirst).mpr hserved
          cases hok.symm.trans herror
        obtain ⟨_, _, hfails, _⟩ | ⟨renewed, hok, _, hfails, _⟩ :=
          @renew_made _ _ _ lib requireQualified w second b hopen hleft
        · exact hfails
        · refine hfails.mpr (Option.isSome_iff_ne_none.mpr fun hwrite => hfree ?_)
          exact ⟨hasks, hunserved, (renewEnvelope_ok_iff hsecond).mp ⟨renewed, hok⟩, hwrite⟩
    · rw [hbatch] at hpauses
      cases hopen.symm.trans hpauses

theorem asks_of_request {der : Bytes} {request : RenewalRequest} {envelope : SealedEnvelope}
    (hder : readable lib envelope = some der)
    (hrequest : prepareArchiveRenewal lib.seals der = .ok request) : asks lib envelope := by
  simp [asks, hder, hrequest, Except.toOption]

/-- Under an authority that stamps every seal alike, a seal holds up another exactly when it was
stamped later than that authority stamps, or by one that lasts as long, and the other was not. -/
theorem heldUp_iff_of_evenHanded {genTime expires : Instant} {der der' : Bytes}
    {request request' : RenewalRequest} (h : EvenHanded lib requireQualified w genTime expires)
    (hder : readable lib first.envelope = some der)
    (hrequest : prepareArchiveRenewal lib.seals der = .ok request)
    (hder' : readable lib second.envelope = some der')
    (hrequest' : prepareArchiveRenewal lib.seals der' = .ok request') :
    HeldUp lib requireQualified w first second ↔
      (genTime < request.previousGenTime ∨ expires ≤ request.previousExpires) ∧
        request'.previousGenTime ≤ genTime ∧ request'.previousExpires < expires ∧
        w.writeFails = none := by
  have hserved : ∀ {envelope : SealedEnvelope} {der : Bytes} {request : RenewalRequest},
      readable lib envelope = some der → prepareArchiveRenewal lib.seals der = .ok request →
      (Served lib requireQualified w envelope ↔
        request.previousGenTime ≤ genTime ∧ request.previousExpires < expires) := by
    intro envelope der request hder hrequest
    obtain ⟨asked, attached, hanswer, hacceptable, hnewest, rfl, rfl⟩ :=
      h envelope (asks_of_request hder hrequest)
    obtain ⟨_, _, hder', hrequest', _⟩ := answer_eq_some.mp hanswer
    cases hder.symm.trans hder'
    cases hrequest.symm.trans hrequest'
    constructor
    · rintro ⟨_, _, hanswer', _, hbetters⟩
      cases hanswer.symm.trans hanswer'
      exact ⟨hbetters.order, hbetters.gain⟩
    · rintro ⟨horder, hgain⟩
      exact ⟨request, attached, hanswer, hacceptable, horder, hgain, hnewest⟩
  unfold HeldUp
  rw [hserved hder hrequest, hserved hder' hrequest', not_and_or, not_le, not_lt, and_assoc]
  exact ⟨fun h => h.2, fun h => ⟨asks_of_request hder hrequest, h⟩⟩

/-- A pause on one due seal is shared by another unless the answer for the first does not do and
that for the second would; under an authority that stamps every seal alike the newest timestamps of
the two decide. A batch requests no more stamps than its budget, a seal that is refused before
anything is asked leaves the batch as it was, and a row that is written over held the seal that was
read. -/
theorem renewals_pause_for_all_iff (lib : Libraries Key History Status) (requireQualified : Bool) :
    (∀ (w : Surroundings History) (first second : SealedPassport SealedEnvelope),
      due lib first w.now → due lib second w.now →
      (SharedPause lib requireQualified w first second ↔
        ¬ HeldUp lib requireQualified w first second)) ∧
    (∀ (w : Surroundings History) (first second : SealedPassport SealedEnvelope) genTime expires der
        der' request request', EvenHanded lib requireQualified w genTime expires →
      readable lib first.envelope = some der →
      prepareArchiveRenewal lib.seals der = .ok request →
      readable lib second.envelope = some der' →
      prepareArchiveRenewal lib.seals der' = .ok request' →
      (HeldUp lib requireQualified w first second ↔
        (genTime < request.previousGenTime ∨ expires ≤ request.previousExpires) ∧
          request'.previousGenTime ≤ genTime ∧ request'.previousExpires < expires ∧
          w.writeFails = none)) ∧
    (∀ pausedUntil batch,
      (renewBatch lib requireQualified pausedUntil batch).requested ≤ maxRenewalsPerBatch) ∧
    (∀ (b : Batch) (w : Surroundings History) (p : SealedPassport SealedEnvelope),
      asks lib p.envelope = false → (renew lib requireQualified b w p).1 = b) ∧
    ∀ (b : Batch) (w : Surroundings History) (p : SealedPassport SealedEnvelope), ∀ row ∈ w.rows,
      row ∉ (renew lib requireQualified b w p).2.1 →
      row.id = p.passportId ∧ sealValueOf row = some p.envelope.sealValue := by
  refine ⟨?_, ?_, ?_, ?_, ?_⟩
  · intro w first second hfirst hsecond
    exact sharedPause_iff hfirst hsecond
  · intro w first second genTime expires der der' request request' h hder hrequest hder' hrequest'
    exact heldUp_iff_of_evenHanded h hder hrequest hder' hrequest'
  · intro pausedUntil batch
    have hbudget := @renewBatch_budget _ _ _ lib requireQualified pausedUntil batch
    omega
  · intro b w p hasks
    exact renew_budget.2 hasks
  · intro b w p row hrow hgone
    exact renew_writes hrow hgone

end Sharing

section Samples

def standardChar (c : Char) : Char := if c = '-' then '+' else if c = '_' then '/' else c

def urlChar (c : Char) : Char := if c = '+' then '-' else if c = '/' then '_' else c

/-- The standard alphabet, padded to whole groups of four. -/
def base64 (b : Bytes) : String :=
  String.ofList ((base64Url b).map standardChar ++ List.replicate ((3 - b.length % 3) % 3) '=')

/-- Only the one text that stands for some octets is read. -/
def base64Decode (s : String) : Option Bytes :=
  (base64UrlDecode ((s.toList.takeWhile (· ≠ '=')).map urlChar)).filter fun b => base64 b = s

/-- The two alphabets differ in two characters, and neither has the padding. -/
theorem urlChar_standardChar {c : Char} (hc : c ∈ CompactTokens.alphabet) :
    standardChar c ≠ '=' ∧ urlChar (standardChar c) = c := by
  have habsent : '=' ∉ CompactTokens.alphabet ∧ '+' ∉ CompactTokens.alphabet ∧
      '/' ∉ CompactTokens.alphabet := by decide
  have hne : ∀ c', c' ∉ CompactTokens.alphabet → c ≠ c' := fun _ hc' h => hc' (h ▸ hc)
  unfold standardChar
  split_ifs with hminus hunderscore
  · exact ⟨by decide, hminus.symm⟩
  · exact ⟨by decide, hunderscore.symm⟩
  · refine ⟨hne _ habsent.1, ?_⟩
    unfold urlChar
    rw [if_neg (hne _ habsent.2.1), if_neg (hne _ habsent.2.2)]

theorem base64Decode_base64 (b : Bytes) : base64Decode (base64 b) = some b := by
  have hbody : (base64 b).toList.takeWhile (· ≠ '=') = (base64Url b).map standardChar := by
    unfold base64
    rw [String.toList_ofList, List.takeWhile_append_of_pos]
    · cases (3 - b.length % 3) % 3 <;> simp [List.replicate_succ]
    · intro c hc
      obtain ⟨d, hd, rfl⟩ := List.mem_map.mp hc
      exact decide_eq_true (urlChar_standardChar (CompactTokens.mem_alphabet_of_mem_base64Url hd)).1
  have hback : ((base64Url b).map standardChar).map urlChar = base64Url b := by
    rw [List.map_map]
    refine (List.map_congr_left ?_).trans (List.map_id _)
    intro c hc
    exact (urlChar_standardChar (CompactTokens.mem_alphabet_of_mem_base64Url hc)).2
  unfold base64Decode
  rw [hbody, hback, CompactTokens.base64UrlDecode_base64Url]
  simp

def sampleLibraries : Libraries Bytes Bool Bool where
  seals := SealRenewal.plainReaders
  trust := QualifiedIssuers.plainReaders []
  base64 := base64
  base64Decode := base64Decode
  base64Decode_base64 := base64Decode_base64
  document envelope := [("sealValue", .str envelope.sealValue)]
  certificateStanding _ _ := none
  renderStanding _ := "the authority is on no list"

def laterStamp : Bytes :=
  let archived := ArchiveTimestamps.sampleSeal none
  let index := ArchiveTimestamps.hashIndex SealRenewal.plainReaders.toEncodings
    (.of archived.data) archived.signer
  written (answerBy (ArchiveTimestamps.certificateUntil 2 300 (by decide))
    (ArchiveTimestamps.stampOf SealRenewal.plainReaders.toEncodings (.of archived.data)
      archived.signer index 5)
    (some [indexAttribute SealRenewal.plainReaders index]))

def laterSeal : Signed :=
  ArchiveTimestamps.sampleSeal (some [⟨idAaEtsArchiveTimestampV3, [laterStamp]⟩])

def storedSeal (id : PassportId) (signed : Signed) : SealedPassport SealedEnvelope :=
  ⟨id, hexEncode (List.replicate 32 7),
    ⟨.cades, base64 (written signed.data), none, some .baselineLta, 0, false⟩⟩

def honestAuthority : Surroundings Bool := ⟨honest.now, honest.stamp, [], 0, [], none⟩

theorem readable_storedSeal (id : PassportId) (signed : Signed) :
    readable sampleLibraries (storedSeal id signed).envelope = some (written signed.data) := by
  unfold readable
  rw [if_neg (by simp [storedSeal])]
  exact sampleLibraries.base64Decode_base64 (written signed.data)

theorem due_storedSeal {id : PassportId} {signed : Signed} {now expires : Instant}
    (hread : (readSignature SealRenewal.plainReaders (written signed.data)).toOption =
      some (some (List.replicate 32 7), true))
    (hfresh : (SealFreshness.archivalFreshness SealRenewal.plainReaders (written signed.data)
      now).toOption = some (.current expires))
    (hsoon : expires - now ≤ SealAudits.renewalLead) :
    due sampleLibraries (storedSeal id signed) now := by
  have hder := readable_storedSeal id signed
  have hlib : sampleLibraries.seals = SealRenewal.plainReaders := rfl
  refine due_of_current hder ?_ rfl rfl ?_ hsoon
  · rw [hlib]
    exact toOption_eq_some.mp hread
  · rw [hlib]
    exact toOption_eq_some.mp hfresh

/-- Anyone may stamp, so what the authority answers decides. -/
theorem served_storedSeal {id : PassportId} {signed : Signed}
    (hdue : due sampleLibraries (storedSeal id signed) honestAuthority.now) :
    Served sampleLibraries false honestAuthority (storedSeal id signed).envelope ↔
      (renewArchiveTimestamp SealRenewal.plainReaders (written signed.data) honest.stamp honest.now
        fun _ => (.ok () : Except (TimestampStanding Bool) Unit)).toOption.isSome := by
  have hder := readable_storedSeal id signed
  rw [← renewEnvelope_ok_iff hdue, renewEnvelope_anyone hder]
  rfl

theorem early_due : due sampleLibraries (storedSeal 1 archivedSeal) honestAuthority.now := by
  refine @due_storedSeal 1 archivedSeal honestAuthority.now 100000000000 ?_ ?_ ?_ <;>
    decide +kernel

theorem later_due : due sampleLibraries (storedSeal 2 laterSeal) honestAuthority.now := by
  refine @due_storedSeal 2 laterSeal honestAuthority.now 300000000000 ?_ ?_ ?_ <;>
    decide +kernel

theorem early_served :
    Served sampleLibraries false honestAuthority (storedSeal 1 archivedSeal).envelope := by
  refine (served_storedSeal early_due).mpr ?_
  decide +kernel

theorem early_seal_pauses_for_none :
    due sampleLibraries (storedSeal 1 archivedSeal) honestAuthority.now ∧
      due sampleLibraries (storedSeal 2 laterSeal) honestAuthority.now ∧
      SharedPause sampleLibraries false honestAuthority (storedSeal 1 archivedSeal)
        (storedSeal 2 laterSeal) := by
  refine ⟨early_due, later_due, ?_⟩
  refine ((renewals_pause_for_all_iff sampleLibraries false).1 honestAuthority _ _ early_due
    later_due).mpr ?_
  rintro ⟨_, hunserved, _⟩
  exact hunserved early_served

/-- The authority's certificate ends before that behind the second seal's archive timestamp: a
renewal of the second gains nothing and pauses renewals for an hour, and one of the first would
have gone through. -/
theorem later_seal_holds_up_the_early_one :
    due sampleLibraries (storedSeal 2 laterSeal) honestAuthority.now ∧
      due sampleLibraries (storedSeal 1 archivedSeal) honestAuthority.now ∧
      ¬ SharedPause sampleLibraries false honestAuthority (storedSeal 2 laterSeal)
        (storedSeal 1 archivedSeal) := by
  refine ⟨later_due, early_due, ?_⟩
  rw [sharedPause_iff later_due early_due, not_not]
  have hrequest : ((prepareArchiveRenewal SealRenewal.plainReaders
      (written laterSeal.data)).toOption.isSome) := by
    decide +kernel
  obtain ⟨request, hrequest⟩ := ok_of_isSome hrequest
  have hder := readable_storedSeal 2 laterSeal
  refine ⟨@asks_of_request _ _ _ sampleLibraries _ _ _ hder hrequest, ?_, early_served, rfl⟩
  rw [served_storedSeal later_due]
  decide +kernel

end Samples

end RenewalPauses
