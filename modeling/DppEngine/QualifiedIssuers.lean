import DppEngine.SealPaths
import DppEngine.TrustedLists
import Mathlib.Data.List.Find

/-! What the trusted lists say about who issued a seal's certificate, and about who stamped its
time.

Status histories, base64 and the QC statements are read by other crates and are parameters, as
are the service type identifiers. -/
namespace QualifiedIssuers

open CmsSeals SealPaths TrustedLists Reorderings

section Verdicts

structure UncheckedTerritory where
  territory : String
  reason : String
  deriving DecidableEq, Repr

inductive CreationDevice where
  | notAQualifiedCertificate
  | noQualifiedDevice
  | declaresQualifiedDevice
  deriving DecidableEq, Repr

inductive IssuerStanding (Status : Type) where
  | selfIssued (subject : String)
  | notListed (issuer : String) (consulted unchecked : ℕ)
  | chainIncomplete (issuer missingIssuer : String)
  | signatureNotFromListedCa (issuer : String) (provider territory : Option String)
  | pathUnverifiable (issuer : String) (provider territory : Option String) (reason : String)
  | notQualifiedAtSealing (issuer : String) (provider territory : Option String)
      (status : Option Status)
  | qualifiedAtSealing (issuer : String) (provider territory : Option String)
      (remoteQscdManagement : Bool)
  deriving DecidableEq, Repr

structure SealQualification (Status : Type) where
  issuer : IssuerStanding Status
  creationDevice : CreationDevice
  unchecked : List UncheckedTerritory
  deriving DecidableEq, Repr

inductive TimestampStanding (Status : Type) where
  | noAttestedTime
  | selfIssued (subject : String)
  | notListed (authority : String) (consulted unchecked : ℕ)
  | chainIncomplete (authority missingIssuer : String)
  | signatureNotFromListedAuthority (authority claimedIssuer : String)
      (provider territory : Option String)
  | pathUnverifiable (authority claimedIssuer : String) (provider territory : Option String)
      (reason : String)
  | notQualifiedAtStamping (authority : String) (provider territory : Option String)
      (status : Option Status)
  | qualifiedAtStamping (authority : String) (provider territory : Option String)
  deriving DecidableEq, Repr

inductive Kind where
  | noAttestedTime
  | selfIssued
  | notListed
  | chainIncomplete
  | signatureNotFromListed
  | pathUnverifiable
  | notQualified
  | qualified
  deriving DecidableEq, Repr

variable {Status : Type}

def IssuerStanding.kind : IssuerStanding Status → Kind
  | .selfIssued .. => .selfIssued
  | .notListed .. => .notListed
  | .chainIncomplete .. => .chainIncomplete
  | .signatureNotFromListedCa .. => .signatureNotFromListed
  | .pathUnverifiable .. => .pathUnverifiable
  | .notQualifiedAtSealing .. => .notQualified
  | .qualifiedAtSealing .. => .qualified

def TimestampStanding.kind : TimestampStanding Status → Kind
  | .noAttestedTime => .noAttestedTime
  | .selfIssued .. => .selfIssued
  | .notListed .. => .notListed
  | .chainIncomplete .. => .chainIncomplete
  | .signatureNotFromListedAuthority .. => .signatureNotFromListed
  | .pathUnverifiable .. => .pathUnverifiable
  | .notQualifiedAtStamping .. => .notQualified
  | .qualifiedAtStamping .. => .qualified

end Verdicts

section Reading

structure Readers (Key History Status : Type) extends Libraries Key where
  /-- `TrustServiceHistory::status_at`. -/
  statusAt : History → Instant → Option Status
  isGranted : Status → Bool
  wasGrantedAt : History → Instant → Bool
  qualifiedCertificateCa : String
  qualifiedTimestampAuthority : String
  remoteQsealCdManagement : String
  /-- Base64, after trimming. -/
  decoded : String → Option Bytes
  /-- The identifiers of the QC statements in an extension's value. -/
  qcStatements : Bytes → Option (List Oid)

variable {Key History Status : Type} (x : Readers Key History Status)

def subjectDer (der : Bytes) : Option Bytes :=
  match x.certificateFromDer der with
  | .ok c => some c.subject.der
  | .error _ => none

/-- A listed certificate that is, or may have issued, the one in question. -/
structure Candidate (History : Type) where
  provider : ListedProvider History
  service : ListedService History
  territory : Option String
  certificateDer : Bytes
  direct : Bool
  deriving DecidableEq, Repr

def serviceCandidates (direct : Bytes → Bool) (names : List Bytes)
    (list : VerifiedTrustedList History) (provider : ListedProvider History)
    (service : ListedService History) : List (Candidate History) :=
  service.certificates.filterMap fun c =>
    match x.decoded c with
    | none => none
    | some der =>
      if direct der || (subjectDer x der).any fun s => s ∈ names then
        some ⟨provider, service, list.content.territory, der, direct der⟩
      else none

def findCandidates (serviceType : String) (direct : Bytes → Bool) (names : List Bytes)
    (lists : List (VerifiedTrustedList History)) : List (Candidate History) :=
  lists.flatMap fun list =>
    (list.content.providersOffering serviceType).flatMap fun offering =>
      offering.2.flatMap (serviceCandidates x direct names list offering.1)

/-- An issuer's own certificate is never looked for. -/
def findIssuerCandidates (issuerNames : List Bytes) (lists : List (VerifiedTrustedList History)) :
    List (Candidate History) :=
  findCandidates x x.qualifiedCertificateCa (fun _ => false) issuerNames lists

def findAuthorityCandidates (signerDer : Bytes) (issuerNames : List Bytes)
    (lists : List (VerifiedTrustedList History)) : List (Candidate History) :=
  findCandidates x x.qualifiedTimestampAuthority (fun der => der = signerDer) issuerNames lists

/-- The first candidate the path verifies to, or else the first reason one could not be asked
about. -/
def verifyPath (signed : Signed) :
    List (Candidate History) → Option String → Except (Option String) (Candidate History)
  | [], unverifiable => .error unverifiable
  | candidate :: candidates, unverifiable =>
    match pathTo x.toLibraries signed candidate.certificateDer with
    | .verified => .ok candidate
    | .notSignedByThisIssuer => verifyPath signed candidates unverifiable
    | .unverifiable why => verifyPath signed candidates (some (unverifiable.getD why))

def granted (history : History) (at_ : Instant) : Bool := (x.statusAt history at_).any x.isGranted

def standing (signed : Signed) (lists : List (VerifiedTrustedList History)) (unchecked : ℕ)
    (sealedAt : Instant) : IssuerStanding Status :=
  if signed.certificate.issuer = signed.certificate.subject then
    .selfIssued (x.renderName signed.certificate.subject)
  else
    let issuer := x.renderName signed.certificate.issuer
    let candidates := findIssuerCandidates x (issuerNamesOf signed) lists
    match candidates.head? with
    | none =>
      match terminusOf x.toLibraries signed with
      | .truncated missingIssuer => .chainIncomplete issuer missingIssuer
      | .selfIssuedRoot _ => .notListed issuer lists.length unchecked
    | some first =>
      match verifyPath x signed candidates none with
      | .error (some reason) =>
        .pathUnverifiable issuer first.provider.name first.territory reason
      | .error none => .signatureNotFromListedCa issuer first.provider.name first.territory
      | .ok found =>
        if !granted x found.service.history sealedAt then
          .notQualifiedAtSealing issuer found.provider.name found.territory
            (x.statusAt found.service.history sealedAt)
        else
          .qualifiedAtSealing issuer found.provider.name found.territory
            ((found.provider.servicesOfType x.remoteQsealCdManagement).any fun s =>
              x.wasGrantedAt s.history sealedAt)

def idPeQcStatements : Oid := [1, 3, 6, 1, 5, 5, 7, 1, 3]

def idEtsiQcsQcSscd : Oid := [0, 4, 0, 1862, 1, 4]

def creationDevice (c : Certificate) : CreationDevice :=
  match c.extensions.bind fun e => e.find? fun e => e.extnId = idPeQcStatements with
  | none => .notAQualifiedCertificate
  | some ext =>
    if (x.qcStatements ext.extnValue).any fun s => s.any fun id => id = idEtsiQcsQcSscd then
      .declaresQualifiedDevice
    else .noQualifiedDevice

def qualify (sd : SignedData) (lists : List (VerifiedTrustedList History))
    (unchecked : List UncheckedTerritory) (sealedAt : Instant) :
    Except SealError (SealQualification Status) :=
  (parse sd).map fun signed =>
    ⟨standing x signed lists unchecked.length sealedAt, creationDevice x signed.certificate,
      unchecked⟩

structure TimestampToken where
  token : Signed
  genTime : Instant
  read : ∃ sd, parse sd = .ok token

def timestampStanding (t : TimestampToken) (lists : List (VerifiedTrustedList History))
    (unchecked : ℕ) : TimestampStanding Status :=
  let authority := x.renderName t.token.certificate.subject
  let claimedIssuer := x.renderName t.token.certificate.issuer
  let candidates := findAuthorityCandidates x (x.certificateToDer t.token.certificate)
    (issuerNamesOf t.token) lists
  match candidates.find? fun c => c.direct with
  | some direct => judged authority direct
  | none =>
    if t.token.certificate.issuer = t.token.certificate.subject then .selfIssued authority
    else
      match candidates.head? with
      | none =>
        match terminusOf x.toLibraries t.token with
        | .truncated missingIssuer => .chainIncomplete authority missingIssuer
        | .selfIssuedRoot _ => .notListed authority lists.length unchecked
      | some first =>
        match verifyPath x t.token candidates none with
        | .error (some reason) =>
          .pathUnverifiable authority claimedIssuer first.provider.name first.territory reason
        | .error none =>
          .signatureNotFromListedAuthority authority claimedIssuer first.provider.name
            first.territory
        | .ok found => judged authority found
where
  judged (authority : String) (found : Candidate History) : TimestampStanding Status :=
    if !granted x found.service.history t.genTime then
      .notQualifiedAtStamping authority found.provider.name found.territory
        (x.statusAt found.service.history t.genTime)
    else .qualifiedAtStamping authority found.provider.name found.territory

end Reading

section Questions

structure Question (History : Type) where
  selfIssued : Bool
  complete : Bool
  direct : Bytes → Bool
  path : Bytes → IssuerCheck
  granted : History → Bool

variable {History : Type} (q : Question History)

def Question.isDirect (e : History × Bytes) : Bool := q.direct e.2

def Question.isVerified (e : History × Bytes) : Bool := q.path e.2 = .verified

def Question.isUnverifiable (e : History × Bytes) : Bool :=
  q.path e.2 ≠ .verified && q.path e.2 ≠ .notSignedByThisIssuer

def Question.isGranted (e : History × Bytes) : Bool := q.granted e.1

def Question.judged (good : Bool) : Kind := if good then .qualified else .notQualified

def Question.kind (candidates : List (History × Bytes)) : Kind :=
  match candidates.find? q.isDirect with
  | some d => Question.judged (q.isGranted d)
  | none =>
    if q.selfIssued then .selfIssued
    else if candidates.isEmpty then if q.complete then .notListed else .chainIncomplete
    else
      match candidates.find? q.isVerified with
      | some v => Question.judged (q.isGranted v)
      | none =>
        if candidates.any q.isUnverifiable then .pathUnverifiable else .signatureNotFromListed

/-- The candidates that decide an answer all decide it alike. -/
structure Question.Agreed (candidates : List (History × Bytes)) : Prop where
  direct : Agree q.isDirect q.isGranted candidates
  covered : ∀ d ∈ candidates, q.isDirect d → ∀ v ∈ candidates, q.isVerified v → q.isGranted v →
    ∃ d ∈ candidates, q.isDirect d ∧ q.isGranted d
  selfIssued : (∀ d ∈ candidates, q.isDirect d = false) → q.selfIssued →
    ∀ v ∈ candidates, q.isVerified v → q.isGranted v = false
  verified : (∀ d ∈ candidates, q.isDirect d = false) → q.selfIssued = false →
    Agree q.isVerified q.isGranted candidates

/-- The answer read off the candidates as a set. -/
def Question.summary (candidates : List (History × Bytes)) : Kind :=
  if candidates.any q.isDirect then
    Question.judged (candidates.any fun e => q.isDirect e && q.isGranted e)
  else if q.selfIssued then .selfIssued
  else if candidates.isEmpty then if q.complete then .notListed else .chainIncomplete
  else if candidates.any q.isVerified then
    Question.judged (candidates.any fun e => q.isVerified e && q.isGranted e)
  else if candidates.any q.isUnverifiable then .pathUnverifiable else .signatureNotFromListed

variable {q} {candidates candidates' : List (History × Bytes)}

theorem Question.isVerified_iff {e : History × Bytes} :
    q.isVerified e ↔ q.path e.2 = .verified := decide_eq_true_iff

theorem Question.judged_eq_qualified {good : Bool} : Question.judged good = .qualified ↔ good := by
  cases good <;> simp [Question.judged]

theorem Question.judged_injective {a b : Bool} (h : Question.judged a = Question.judged b) :
    a = b := by
  revert h
  cases a <;> cases b <;> decide

theorem Question.kind_of_direct {d : History × Bytes} (h : candidates.find? q.isDirect = some d) :
    q.kind candidates = Question.judged (q.isGranted d) := by
  simp [Question.kind, h]

theorem Question.kind_of_verified {v : History × Bytes}
    (hdirect : ∀ d ∈ candidates, q.isDirect d = false) (hself : q.selfIssued = false)
    (h : candidates.find? q.isVerified = some v) :
    q.kind candidates = Question.judged (q.isGranted v) := by
  have hnone := find?_eq_none_of_false hdirect
  have hne : candidates.isEmpty = false :=
    List.isEmpty_eq_false_iff.mpr (List.ne_nil_of_mem (List.mem_of_find?_eq_some h))
  simp [Question.kind, hnone, hself, hne, h]

theorem Question.Agreed.kind_eq_summary (h : q.Agreed candidates) :
    q.kind candidates = q.summary candidates := by
  unfold Question.kind Question.summary
  cases hd : candidates.find? q.isDirect with
  | some d =>
    rw [if_pos (List.any_eq_true.mpr ⟨d, List.mem_of_find?_eq_some hd, List.find?_some hd⟩)]
    exact congrArg Question.judged (h.direct.good_find? hd)
  | none =>
    have hdirect : ∀ d ∈ candidates, q.isDirect d = false := by simpa using hd
    have hany : candidates.any q.isDirect = false := List.any_eq_false.mpr (by simpa using hdirect)
    simp only [hany, Bool.false_eq_true, if_false]
    split
    next => rfl
    next hself =>
      split
      next => rfl
      next =>
        have hagree := h.verified hdirect (by simpa using hself)
        cases hv : candidates.find? q.isVerified with
        | some v =>
          rw [if_pos (List.any_eq_true.mpr ⟨v, List.mem_of_find?_eq_some hv, List.find?_some hv⟩)]
          exact congrArg Question.judged (hagree.good_find? hv)
        | none =>
          have hnone : candidates.any q.isVerified = false :=
            List.any_eq_false.mpr (by simpa using hv)
          simp only [hnone, Bool.false_eq_true, if_false]

theorem Question.summary_perm (h : candidates'.Perm candidates) :
    q.summary candidates' = q.summary candidates := by
  have hany : ∀ p : History × Bytes → Bool, candidates'.any p = candidates.any p := by
    intro p
    rw [Bool.eq_iff_iff, List.any_eq_true, List.any_eq_true]
    simp only [h.mem_iff]
  have hempty : candidates'.isEmpty = candidates.isEmpty := by
    cases candidates with
    | nil => rw [List.perm_nil.mp h]
    | cons a l =>
      cases candidates' with
      | nil => exact absurd (List.nil_perm.mp h) (by simp)
      | cons b l' => rfl
  simp only [Question.summary, hany, hempty]

/-- Only those that are the certificate itself, or have a verified path, bear on it. -/
theorem Question.Agreed.congr
    (hspeaks : ∀ e, q.isDirect e ∨ q.isVerified e → (e ∈ candidates' ↔ e ∈ candidates))
    (h : q.Agreed candidates) : q.Agreed candidates' := by
  have hnone :
    (∀ d ∈ candidates', q.isDirect d = false) → ∀ d ∈ candidates, q.isDirect d = false := by
    intro hall d hd
    by_contra hdirect
    have hdirect : q.isDirect d := by simpa using hdirect
    exact absurd (hall d ((hspeaks d (.inl hdirect)).mpr hd)) (by simp [hdirect])
  constructor
  · intro a ha b hb hda hdb
    exact h.direct a ((hspeaks a (.inl hda)).mp ha) b ((hspeaks b (.inl hdb)).mp hb) hda hdb
  · intro d hd hdirect v hv hver hgood
    obtain ⟨d', hd', hdirect', hgood'⟩ := h.covered d ((hspeaks d (.inl hdirect)).mp hd) hdirect v
      ((hspeaks v (.inr hver)).mp hv) hver hgood
    exact ⟨d', (hspeaks d' (.inl hdirect')).mpr hd', hdirect', hgood'⟩
  · intro hall hself v hv hver
    exact h.selfIssued (hnone hall) hself v ((hspeaks v (.inr hver)).mp hv) hver
  · intro hall hself a ha b hb hva hvb
    exact h.verified (hnone hall) hself a ((hspeaks a (.inr hva)).mp ha) b
      ((hspeaks b (.inr hvb)).mp hb) hva hvb

def Question.Supported (q : Question History) (candidates : List (History × Bytes)) : Prop :=
  ∃ e ∈ candidates, (q.isDirect e ∨ q.isVerified e) ∧ q.isGranted e

theorem Question.Agreed.qualified_iff (h : q.Agreed candidates) :
    q.kind candidates = .qualified ↔ q.Supported candidates := by
  by_cases hd : ∃ d ∈ candidates, q.isDirect d
  · obtain ⟨d, hmem, hdirect⟩ := hd
    obtain ⟨first, hfirst⟩ := find?_isSome_of_mem hmem hdirect
    have hmem' := List.mem_of_find?_eq_some hfirst
    have hdirect' := List.find?_some hfirst
    rw [Question.kind_of_direct hfirst, Question.judged_eq_qualified]
    refine ⟨fun hgood => ⟨first, hmem', .inl hdirect', hgood⟩, ?_⟩
    rintro ⟨e, he, hspeaks, hgood⟩
    rcases hspeaks with hspeaks | hspeaks
    · rw [h.direct.good_first he hspeaks hfirst, hgood]
    · obtain ⟨d', hd', hdirect'', hgood'⟩ := h.covered d hmem hdirect e he hspeaks hgood
      rw [h.direct.good_first hd' hdirect'' hfirst, hgood']
  · have hdirect : ∀ d ∈ candidates, q.isDirect d = false := by simpa using hd
    have hspeaks : q.Supported candidates ↔ ∃ e ∈ candidates, q.isVerified e ∧ q.isGranted e := by
      refine exists_congr fun e => and_congr_right fun he => ?_
      simp [hdirect e he]
    rw [hspeaks]
    cases hself : q.selfIssued with
    | true =>
      have hkind : q.kind candidates = .selfIssued := by
        simp [Question.kind, hself, find?_eq_none_of_false hdirect]
      rw [hkind]
      refine ⟨nofun, ?_⟩
      rintro ⟨e, he, hver, hgood⟩
      rw [h.selfIssued hdirect hself e he hver] at hgood
      cases hgood
    | false =>
      by_cases hv : ∃ v ∈ candidates, q.isVerified v
      · obtain ⟨v, hmem, hver⟩ := hv
        obtain ⟨first, hfirst⟩ := find?_isSome_of_mem hmem hver
        rw [Question.kind_of_verified hdirect hself hfirst, Question.judged_eq_qualified]
        refine ⟨fun hgood =>
          ⟨first, List.mem_of_find?_eq_some hfirst, List.find?_some hfirst, hgood⟩, ?_⟩
        rintro ⟨e, he, hver, hgood⟩
        rw [(h.verified hdirect hself).good_first he hver hfirst, hgood]
      · refine ⟨fun hkind => ?_, fun ⟨e, he, hver, _⟩ => absurd ⟨e, he, hver⟩ hv⟩
        have hverified : candidates.find? q.isVerified = none := by simpa using hv
        simp only [Question.kind, find?_eq_none_of_false hdirect, hself, hverified,
          Bool.false_eq_true, if_false] at hkind
        split at hkind
        next => split at hkind <;> cases hkind
        next => split at hkind <;> cases hkind

/-- An answer names who supports it, and names the same in every other order, exactly when the
candidates are agreed: any of them may come first. -/
theorem Question.order_free_iff {others : List (History × Bytes) → Prop}
    (hperm : ∀ l, others l → l.Perm candidates)
    (hfront : ∀ e ∈ candidates, ∃ rest, others (e :: rest)) :
    ((q.kind candidates = .qualified ↔ q.Supported candidates) ∧
        ∀ l, others l → q.kind l = q.kind candidates) ↔ q.Agreed candidates := by
  constructor
  · rintro ⟨hsupported, hsame⟩
    refine ⟨?_, ?_, ?_, ?_⟩
    · intro a ha b hb hda hdb
      obtain ⟨ra, hra⟩ := hfront a ha
      obtain ⟨rb, hrb⟩ := hfront b hb
      apply Question.judged_injective
      rw [← q.kind_of_direct (List.find?_cons_of_pos hda), hsame _ hra, ← hsame _ hrb,
        q.kind_of_direct (List.find?_cons_of_pos hdb)]
    · intro d hd hdirect v hv hver hgood
      obtain ⟨first, hfirst⟩ := find?_isSome_of_mem hd hdirect
      have hkind := hsupported.mpr ⟨v, hv, .inr hver, hgood⟩
      rw [Question.kind_of_direct hfirst, Question.judged_eq_qualified] at hkind
      exact ⟨first, List.mem_of_find?_eq_some hfirst, List.find?_some hfirst, hkind⟩
    · intro hdirect hself v hv hver
      by_contra hgood
      have hkind := hsupported.mpr ⟨v, hv, .inr hver, by simpa using hgood⟩
      simp [Question.kind, find?_eq_none_of_false hdirect, hself] at hkind
    · intro hdirect hself a ha b hb hva hvb
      obtain ⟨ra, hra⟩ := hfront a ha
      obtain ⟨rb, hrb⟩ := hfront b hb
      have hnone : ∀ l, others l → ∀ d ∈ l, q.isDirect d = false :=
        fun l hl d hd => hdirect d ((hperm l hl).mem_iff.mp hd)
      apply Question.judged_injective
      rw [← q.kind_of_verified (hnone _ hra) hself (List.find?_cons_of_pos hva), hsame _ hra,
        ← hsame _ hrb, q.kind_of_verified (hnone _ hrb) hself (List.find?_cons_of_pos hvb)]
  · intro h
    refine ⟨h.qualified_iff, fun l hl => ?_⟩
    have hl' : q.Agreed l := h.congr fun e _ => (hperm l hl).mem_iff
    rw [hl'.kind_eq_summary, h.kind_eq_summary, Question.summary_perm (hperm l hl)]

end Questions

section Evidence

variable {Key History Status : Type} (x : Readers Key History Status)

def evidence (c : Candidate History) : History × Bytes := (c.service.history, c.certificateDer)

def listed (serviceType : String) (lists : List (VerifiedTrustedList History)) :
    List (History × Bytes) :=
  lists.flatMap fun list => list.content.providers.flatMap fun provider =>
    provider.services.flatMap fun service =>
      if service.serviceType = serviceType then
        service.certificates.filterMap fun c => (x.decoded c).map fun der => (service.history, der)
      else []

def considered (direct : Bytes → Bool) (names : List Bytes) (e : History × Bytes) : Bool :=
  direct e.2 || (subjectDer x e.2).any fun s => s ∈ names

def issuerQuestion (signed : Signed) (sealedAt : Instant) : Question History :=
  { selfIssued := signed.certificate.issuer = signed.certificate.subject
    complete := terminusOf x.toLibraries signed matches .selfIssuedRoot _
    direct := fun _ => false
    path := pathTo x.toLibraries signed
    granted := fun history => granted x history sealedAt }

def authorityQuestion (t : TimestampToken) : Question History :=
  { selfIssued := t.token.certificate.issuer = t.token.certificate.subject
    complete := terminusOf x.toLibraries t.token matches .selfIssuedRoot _
    direct := fun der => der = x.certificateToDer t.token.certificate
    path := pathTo x.toLibraries t.token
    granted := fun history => granted x history t.genTime }

variable {x} {serviceType : String} {direct : Bytes → Bool} {names : List Bytes}
  {lists lists' : List (VerifiedTrustedList History)} {signed : Signed}

theorem flatMap_servicesOfType {β : Type} (p : ListedProvider History)
    (f : ListedService History → List β) :
    (p.servicesOfType serviceType).flatMap f =
      p.services.flatMap fun s => if s.serviceType = serviceType then f s else [] := by
  unfold ListedProvider.servicesOfType
  induction p.services with
  | nil => rfl
  | cons s services ih =>
    by_cases hs : s.serviceType = serviceType <;> simp [hs, ih]

theorem flatMap_providersOffering {β : Type} (l : UnverifiedTrustedList History)
    (f : ListedProvider History → ListedService History → List β) :
    ((l.providersOffering serviceType).flatMap fun o => o.2.flatMap (f o.1)) =
      l.providers.flatMap fun p => p.services.flatMap fun s =>
        if s.serviceType = serviceType then f p s else [] := by
  unfold UnverifiedTrustedList.providersOffering
  induction l.providers with
  | nil => rfl
  | cons p providers ih =>
    rw [List.flatMap_cons, ← ih, ← flatMap_servicesOfType]
    by_cases hp : (p.servicesOfType serviceType).isEmpty
    · rw [List.filterMap_cons_none (by simp only [hp, if_true]), List.isEmpty_iff.mp hp]
      rfl
    · rw [List.filterMap_cons_some (by simp only [hp, Bool.false_eq_true, if_false]; rfl)]
      rfl

theorem map_evidence :
    (findCandidates x serviceType direct names lists).map evidence =
      (listed x serviceType lists).filter (considered x direct names) := by
  simp only [findCandidates, listed, List.map_flatMap, List.filter_flatMap]
  refine congrArg (List.flatMap · lists) (funext fun list => ?_)
  rw [flatMap_providersOffering list.content fun p s =>
    (serviceCandidates x direct names list p s).map evidence]
  refine congrArg (List.flatMap · list.content.providers) (funext fun p => ?_)
  refine congrArg (List.flatMap · p.services) (funext fun s => ?_)
  split
  next =>
    rw [serviceCandidates, List.map_filterMap, List.filter_filterMap]
    refine congrArg (List.filterMap · s.certificates) (funext fun c => ?_)
    cases hc : x.decoded c with
    | none => rfl
    | some der =>
      have hdef : considered x direct names (s.history, der) =
        (direct der || (subjectDer x der).any fun s => s ∈ names) := rfl
      simp only [Option.map_some, Option.filter_some, hdef]
      split <;> rfl
  next => rfl

theorem direct_of_mem {c : Candidate History}
    (hc : c ∈ findCandidates x serviceType direct names lists) :
    c.direct = direct c.certificateDer := by
  simp only [findCandidates, List.mem_flatMap, serviceCandidates, List.mem_filterMap] at hc
  obtain ⟨_, _, _, _, _, _, certificate, _, hcandidate⟩ := hc
  split at hcandidate
  next => cases hcandidate
  next =>
    split at hcandidate
    next =>
      cases hcandidate
      rfl
    next => cases hcandidate

theorem verifyPath_of_some {candidates : List (Candidate History)} {why : Option String}
    {found : Candidate History}
    (h : candidates.find? (fun c => pathTo x.toLibraries signed c.certificateDer = .verified) =
      some found) : verifyPath x signed candidates why = .ok found := by
  induction candidates generalizing why with
  | nil => cases h
  | cons c candidates ih =>
    unfold verifyPath
    cases hc : pathTo x.toLibraries signed c.certificateDer with
    | verified => simpa [hc] using h
    | notSignedByThisIssuer => exact ih (by simpa [hc] using h)
    | unverifiable _ => exact ih (by simpa [hc] using h)

/-- A reason is given exactly when there was one before or some candidate could not be asked
about. -/
theorem verifyPath_of_none {candidates : List (Candidate History)} {why : Option String}
    (h : candidates.find? (fun c => pathTo x.toLibraries signed c.certificateDer = .verified) =
      none) :
    ∃ reason, verifyPath x signed candidates why = .error reason ∧
      reason.isSome = (why.isSome || candidates.any fun c =>
        pathTo x.toLibraries signed c.certificateDer ≠ .verified &&
          pathTo x.toLibraries signed c.certificateDer ≠ .notSignedByThisIssuer) := by
  induction candidates generalizing why with
  | nil => exact ⟨why, rfl, by simp⟩
  | cons c candidates ih =>
    unfold verifyPath
    cases hc : pathTo x.toLibraries signed c.certificateDer with
    | verified => simp [hc] at h
    | notSignedByThisIssuer =>
      obtain ⟨reason, heq, hsome⟩ := @ih why (by simpa [hc] using h)
      exact ⟨reason, heq, by simp [hsome, hc]⟩
    | unverifiable text =>
      obtain ⟨reason, heq, hsome⟩ := @ih (some (why.getD text)) (by simpa [hc] using h)
      exact ⟨reason, heq, by simp [hsome, hc]⟩

theorem verifyPath_kind {q : Question History} {candidates : List (Candidate History)}
    (hpath : q.path = pathTo x.toLibraries signed) :
    (match verifyPath x signed candidates none with
      | .error (some _) => Kind.pathUnverifiable
      | .error none => .signatureNotFromListed
      | .ok found => Question.judged (q.isGranted (evidence found))) =
    match (candidates.map evidence).find? q.isVerified with
      | some v => Question.judged (q.isGranted v)
      | none =>
        if (candidates.map evidence).any q.isUnverifiable then .pathUnverifiable
        else .signatureNotFromListed := by
  have hverified : (candidates.map evidence).find? q.isVerified =
      (candidates.find? fun c =>
        pathTo x.toLibraries signed c.certificateDer = .verified).map evidence := by
    rw [List.find?_map, ← hpath]
    rfl
  have hunverifiable : (candidates.map evidence).any q.isUnverifiable = candidates.any fun c =>
      pathTo x.toLibraries signed c.certificateDer ≠ .verified &&
        pathTo x.toLibraries signed c.certificateDer ≠ .notSignedByThisIssuer := by
    rw [List.any_map, ← hpath]
    rfl
  rw [hverified, hunverifiable]
  cases hfind : candidates.find? fun c =>
      pathTo x.toLibraries signed c.certificateDer = .verified with
  | some found =>
    rw [verifyPath_of_some hfind]
    rfl
  | none =>
    obtain ⟨reason, heq, hsome⟩ := @verifyPath_of_none _ _ _ x signed candidates none hfind
    rw [heq]
    simp only [Option.isSome_none, Bool.false_or] at hsome
    rw [← hsome]
    cases reason <;> rfl

theorem standing_kind (unchecked : ℕ) (sealedAt : Instant) :
    (standing x signed lists unchecked sealedAt).kind =
      (issuerQuestion x signed sealedAt).kind ((listed x x.qualifiedCertificateCa lists).filter
        (considered x (fun _ => false) (issuerNamesOf signed))) := by
  have hmap : (findIssuerCandidates x (issuerNamesOf signed) lists).map evidence = _ :=
    map_evidence
  rw [← hmap]
  have hpath := @verifyPath_kind _ _ _ x signed (issuerQuestion x signed sealedAt)
    (findIssuerCandidates x (issuerNamesOf signed) lists) rfl
  unfold standing Question.kind
  dsimp only
  generalize findIssuerCandidates x (issuerNamesOf signed) lists = candidates at hpath ⊢
  have hdirect :
    (candidates.map evidence).find? (issuerQuestion x signed sealedAt).isDirect = none :=
    find?_eq_none_of_false fun _ _ => rfl
  rw [hdirect]
  by_cases hself : signed.certificate.issuer = signed.certificate.subject
  · simp [hself, issuerQuestion, IssuerStanding.kind]
  · have hquestion : (issuerQuestion x signed sealedAt).selfIssued = false := by
      simp [issuerQuestion, hself]
    simp only [hself, hquestion, if_false, Bool.false_eq_true]
    cases candidates with
    | nil =>
      cases hterminus : terminusOf x.toLibraries signed <;>
        simp [issuerQuestion, hterminus, IssuerStanding.kind]
    | cons first candidates =>
      simp only [List.head?_cons, List.map_cons, List.isEmpty_cons, Bool.false_eq_true, if_false]
      rw [← List.map_cons, ← hpath]
      cases verifyPath x signed (first :: candidates) none with
      | error reason => cases reason <;> rfl
      | ok found =>
        cases hgranted : granted x found.service.history sealedAt <;>
          simp [hgranted, IssuerStanding.kind, Question.judged, Question.isGranted, issuerQuestion,
            evidence]

theorem timestampStanding_kind (t : TimestampToken) (unchecked : ℕ) :
    (timestampStanding x t lists unchecked).kind =
      (authorityQuestion x t).kind ((listed x x.qualifiedTimestampAuthority lists).filter
        (considered x (authorityQuestion x t).direct (issuerNamesOf t.token))) := by
  have hmap : (findAuthorityCandidates x (x.certificateToDer t.token.certificate)
      (issuerNamesOf t.token) lists).map evidence = _ := map_evidence
  have hpath := @verifyPath_kind _ _ _ x t.token (authorityQuestion x t)
    (findAuthorityCandidates x (x.certificateToDer t.token.certificate) (issuerNamesOf t.token)
      lists) rfl
  have hflag : ∀ c ∈ findAuthorityCandidates x (x.certificateToDer t.token.certificate)
      (issuerNamesOf t.token) lists, c.direct = (authorityQuestion x t).isDirect (evidence c) :=
    fun c hc => direct_of_mem hc
  have hjudged : ∀ authority found, (timestampStanding.judged x t authority found).kind =
      Question.judged ((authorityQuestion x t).isGranted (evidence found)) := by
    intro authority found
    cases hgranted : granted x found.service.history t.genTime <;>
      simp [timestampStanding.judged, hgranted, TimestampStanding.kind, Question.judged,
        Question.isGranted, authorityQuestion, evidence]
  have hsame : considered x (authorityQuestion x t).direct (issuerNamesOf t.token) =
    considered x (fun der => der = x.certificateToDer t.token.certificate)
      (issuerNamesOf t.token) :=
      rfl
  rw [hsame, ← hmap]
  unfold timestampStanding Question.kind
  dsimp only
  generalize findAuthorityCandidates x (x.certificateToDer t.token.certificate)
    (issuerNamesOf t.token) lists = candidates at hpath hflag ⊢
  have hdirect : (candidates.map evidence).find? (authorityQuestion x t).isDirect =
      (candidates.find? fun c => c.direct).map evidence := by
    rw [List.find?_map]
    exact congrArg (Option.map evidence) (List.find?_congr fun c hc => (hflag c hc).symm)
  rw [hdirect]
  cases candidates.find? fun c => c.direct with
  | some found => exact hjudged _ found
  | none =>
    by_cases hself : t.token.certificate.issuer = t.token.certificate.subject
    · simp [hself, authorityQuestion, TimestampStanding.kind]
    · have hquestion : (authorityQuestion x t).selfIssued = false := by
        simp [authorityQuestion, hself]
      simp only [hself, hquestion, if_false, Bool.false_eq_true, Option.map_none]
      cases candidates with
      | nil =>
        cases hterminus : terminusOf x.toLibraries t.token <;>
          simp [authorityQuestion, hterminus, TimestampStanding.kind]
      | cons first candidates =>
        simp only [List.head?_cons, List.map_cons, List.isEmpty_cons, Bool.false_eq_true, if_false]
        rw [← List.map_cons, ← hpath]
        cases verifyPath x t.token (first :: candidates) none with
        | error reason => cases reason <;> rfl
        | ok found => exact hjudged _ found

theorem listed_perm (h : SameLists lists lists') :
    (listed x serviceType lists).Perm (listed x serviceType lists') := by
  refine h.flatMap_perm fun l l' hl => hl.providers.flatMap_perm fun p p' hp =>
    hp.services.flatMap_perm fun s s' hs => ?_
  rw [hs.serviceType, hs.history]
  split
  next => exact hs.certificates.filterMap _
  next => exact .refl _

theorem listed_front {e : History × Bytes} (he : e ∈ listed x serviceType lists) :
    ∃ lists' rest, SameLists lists lists' ∧ listed x serviceType lists' = e :: rest := by
  obtain ⟨l, hl, he⟩ := List.mem_flatMap.mp he
  obtain ⟨p, hp, he⟩ := List.mem_flatMap.mp he
  obtain ⟨s, hs, he⟩ := List.mem_flatMap.mp he
  split at he
  next htype =>
    obtain ⟨c, hc, he⟩ := List.mem_filterMap.mp he
    let s' : ListedService History := { s with certificates := c :: s.certificates.erase c }
    have hs' : SameService s s' := ⟨rfl, rfl, rfl, List.perm_cons_erase hc⟩
    obtain ⟨services, hservices⟩ := Reordered.front SameService.refl hs hs'
    let p' : ListedProvider History := { p with services := s' :: services }
    obtain ⟨providers, hproviders⟩ := Reordered.front SameProvider.refl hp
      (show SameProvider p p' from ⟨rfl, hservices⟩)
    let l' : VerifiedTrustedList History := { l with content := { l.content with
      providers := p' :: providers } }
    obtain ⟨ls, hlists⟩ := Reordered.front SameList.refl hl
      (show SameList l l' from ⟨rfl, rfl, hproviders⟩)
    have hhead : (listed x serviceType (l' :: ls)).head? = some e := by
      simp only [listed, l', p', s', List.flatMap_cons, htype, if_true,
        List.filterMap_cons, he, List.cons_append, List.head?_cons]
    obtain ⟨rest, hrest⟩ := List.head?_eq_some_iff.mp hhead
    exact ⟨l' :: ls, rest, hlists, hrest⟩
  next => cases he

theorem considered_of_speaks {q : Question History} (hmem : signed.certificate ∈ signed.chain)
    (hpath : q.path = pathTo x.toLibraries signed) {e : History × Bytes}
    (h : q.isDirect e ∨ q.isVerified e) : considered x q.direct (issuerNamesOf signed) e := by
  rcases h with hdirect | hver
  · have hdirect : q.direct e.2 = true := hdirect
    simp [considered, hdirect]
  · have hver : pathTo x.toLibraries signed e.2 = .verified :=
      hpath ▸ Question.isVerified_iff.mp hver
    obtain ⟨anchor, hanchor, hname⟩ := named_of_pathTo_verified hmem hver
    simp [considered, subjectDer, hanchor, hname]

theorem listed_order_free_iff {q : Question History} (hmem : signed.certificate ∈ signed.chain)
    (hpath : q.path = pathTo x.toLibraries signed) :
    ((q.kind ((listed x serviceType lists).filter
          (considered x q.direct (issuerNamesOf signed))) = .qualified ↔
        q.Supported (listed x serviceType lists)) ∧
      ∀ lists', SameLists lists lists' →
        q.kind ((listed x serviceType lists').filter
            (considered x q.direct (issuerNamesOf signed))) =
          q.kind ((listed x serviceType lists).filter
            (considered x q.direct (issuerNamesOf signed)))) ↔
      q.Agreed (listed x serviceType lists) := by
  have hspeaks : ∀ e, q.isDirect e ∨ q.isVerified e →
      (e ∈ (listed x serviceType lists).filter (considered x q.direct (issuerNamesOf signed)) ↔
        e ∈ listed x serviceType lists) := by
    intro e he
    simp [considered_of_speaks hmem hpath he]
  have hsupported : q.Supported ((listed x serviceType lists).filter
      (considered x q.direct (issuerNamesOf signed))) ↔
      q.Supported (listed x serviceType lists) := by
    refine exists_congr fun e => and_congr_left fun he => ?_
    exact hspeaks e he.1
  have hagreed : q.Agreed ((listed x serviceType lists).filter
      (considered x q.direct (issuerNamesOf signed))) ↔ q.Agreed (listed x serviceType lists) :=
    ⟨.congr fun e he => (hspeaks e he).symm, .congr hspeaks⟩
  rw [← hsupported, ← hagreed]
  have hmain := @Question.order_free_iff _ q ((listed x serviceType lists).filter
    (considered x q.direct (issuerNamesOf signed))) (fun l => ∃ lists', SameLists lists lists' ∧
      l = (listed x serviceType lists').filter (considered x q.direct (issuerNamesOf signed)))
    ?_ ?_
  · rw [← hmain]
    refine and_congr_right fun _ => ⟨?_, ?_⟩
    · rintro h l ⟨lists', hsame, rfl⟩
      exact h lists' hsame
    · intro h lists' hsame
      exact h _ ⟨lists', hsame, rfl⟩
  · rintro l ⟨lists', hsame, rfl⟩
    exact ((listed_perm hsame).filter _).symm
  · intro e he
    obtain ⟨he, hcons⟩ := List.mem_filter.mp he
    obtain ⟨lists', rest, hsame, heq⟩ := listed_front he
    refine ⟨rest.filter (considered x q.direct (issuerNamesOf signed)), lists', hsame, ?_⟩
    rw [heq, List.filter_cons_of_pos hcons]

def checkPathTo (x : Libraries Key) (sd : SignedData) (anchorDer : Bytes) :
    Except SealError IssuerCheck :=
  (parse sd).map fun signed => pathTo x signed anchorDer

theorem issuerQuestion_supported {sealedAt : Instant} {candidates : List (History × Bytes)} :
    (issuerQuestion x signed sealedAt).Supported candidates ↔
      ∃ e ∈ candidates, pathTo x.toLibraries signed e.2 = .verified ∧ granted x e.1 sealedAt := by
  simp only [Question.Supported, Question.isVerified_iff]
  simp [Question.isDirect, Question.isGranted, issuerQuestion]

theorem authorityQuestion_supported {t : TimestampToken} {candidates : List (History × Bytes)} :
    (authorityQuestion x t).Supported candidates ↔
      ∃ e ∈ candidates, (e.2 = x.certificateToDer t.token.certificate ∨
        pathTo x.toLibraries t.token e.2 = .verified) ∧ granted x e.1 t.genTime := by
  simp only [Question.Supported, Question.isVerified_iff]
  simp [Question.isDirect, Question.isGranted, authorityQuestion]

theorem qualify_ok {sd : SignedData} (hparse : parse sd = .ok signed)
    (lists : List (VerifiedTrustedList History)) (unchecked : List UncheckedTerritory)
    (sealedAt : Instant) :
    qualify x sd lists unchecked sealedAt =
      .ok ⟨standing x signed lists unchecked.length sealedAt, creationDevice x signed.certificate,
        unchecked⟩ := by
  simp [qualify, hparse, Except.map]

/-- Both verdicts name a granted listed certificate exactly when there is one, and are of the
same kind in every order of the lists and of what is in them, exactly when those listed
certificates that bear on them agree. -/
theorem verdicts_order_free_iff_agreed (x : Readers Key History Status) (sd : SignedData)
    (sealedAt : Instant) (t : TimestampToken) (lists : List (VerifiedTrustedList History))
    (unchecked : List UncheckedTerritory) :
    ((∀ q, qualify x sd lists unchecked sealedAt = .ok q →
          (q.issuer.kind = .qualified ↔ ∃ e ∈ listed x x.qualifiedCertificateCa lists,
            checkPathTo x.toLibraries sd e.2 = .ok .verified ∧ granted x e.1 sealedAt) ∧
          ∀ lists', SameLists lists lists' →
            ∀ q', qualify x sd lists' unchecked sealedAt = .ok q' →
              q'.issuer.kind = q.issuer.kind) ↔
        ∀ signed, parse sd = .ok signed →
          (issuerQuestion x signed sealedAt).Agreed (listed x x.qualifiedCertificateCa lists)) ∧
      ((((timestampStanding x t lists unchecked.length).kind = .qualified ↔
            ∃ e ∈ listed x x.qualifiedTimestampAuthority lists,
              (e.2 = x.certificateToDer t.token.certificate ∨
                pathTo x.toLibraries t.token e.2 = .verified) ∧ granted x e.1 t.genTime) ∧
          ∀ lists', SameLists lists lists' →
            (timestampStanding x t lists' unchecked.length).kind =
              (timestampStanding x t lists unchecked.length).kind) ↔
        (authorityQuestion x t).Agreed (listed x x.qualifiedTimestampAuthority lists)) := by
  constructor
  · cases hparse : parse sd with
    | error e => simp [qualify, hparse, Except.map]
    | ok signed =>
      have hmain := @listed_order_free_iff _ _ _ x x.qualifiedCertificateCa lists signed
        (issuerQuestion x signed sealedAt) (certificate_mem_chain hparse) rfl
      rw [issuerQuestion_supported] at hmain
      have hcheck : ∀ der, checkPathTo x.toLibraries sd der = .ok .verified ↔
          pathTo x.toLibraries signed der = .verified := by
        intro der
        simp [checkPathTo, hparse, Except.map]
      simp only [qualify_ok hparse, Except.ok.injEq, forall_eq', hcheck, standing_kind]
      exact hmain
  · obtain ⟨sd', hread⟩ := t.read
    have hmain := @listed_order_free_iff _ _ _ x x.qualifiedTimestampAuthority lists t.token
      (authorityQuestion x t) (certificate_mem_chain hread) rfl
    rw [authorityQuestion_supported] at hmain
    simp only [timestampStanding_kind]
    exact hmain

end Evidence

section Rotation

def plainReaders (listed : List (Bytes × Certificate)) : Readers Bytes Bool Bool :=
  { plainLibraries listed with
    statusAt := fun history _ => some history
    isGranted := id
    wasGrantedAt := fun history _ => history
    qualifiedCertificateCa := "http://uri.etsi.org/TrstSvc/Svctype/CA/QC"
    qualifiedTimestampAuthority := "http://uri.etsi.org/TrstSvc/Svctype/TSA/QTST"
    remoteQsealCdManagement := "http://uri.etsi.org/TrstSvc/Svctype/RemoteQSealCDManagement/Q"
    decoded := fun s => ([("AQ==", [1]), ("Ag==", [2])] : List (String × Bytes)).lookup s
    qcStatements := fun _ => none }

def caService (status : Bool) : ListedService Bool :=
  ⟨"http://uri.etsi.org/TrstSvc/Svctype/CA/QC", none, status, ["AQ=="]⟩

def listing (services : List (ListedService Bool)) : VerifiedTrustedList Bool :=
  ⟨⟨some "IT", [⟨some "a provider", services⟩]⟩, "scheme operator"⟩

def issuedSigner : Certificate := plainCertificate 3 1 [30] [10] none

/-- One CA certificate under two services of a provider: which of them comes first decides the
verdict. -/
theorem first_listed_service_decides :
    (qualify (plainReaders [([1], listedCa)]) (carrying issuedSigner [])
        [listing [caService false, caService true]] [] 0).map (fun q => q.issuer.kind) =
      .ok .notQualified ∧
    (qualify (plainReaders [([1], listedCa)]) (carrying issuedSigner [])
        [listing [caService true, caService false]] [] 0).map (fun q => q.issuer.kind) =
      .ok .qualified ∧
    SameLists [listing [caService false, caService true]]
      [listing [caService true, caService false]] ∧
    ∃ e ∈ listed (plainReaders [([1], listedCa)]) (plainReaders []).qualifiedCertificateCa
        [listing [caService false, caService true]],
      checkPathTo (plainReaders [([1], listedCa)]).toLibraries (carrying issuedSigner []) e.2 =
        .ok .verified ∧ granted (plainReaders [([1], listedCa)]) e.1 0 := by
  refine ⟨by decide, by decide, ?_, (true, [1]), by decide, by decide, by decide⟩
  refine ⟨_, .refl _, .cons ⟨rfl, rfl, _, .refl _, .cons ⟨rfl, ?_⟩ .nil⟩ .nil⟩
  exact ⟨_, .swap _ _ _, List.forall₂_same.mpr fun s _ => SameService.refl s⟩

end Rotation

end QualifiedIssuers
