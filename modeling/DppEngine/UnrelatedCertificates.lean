import DppEngine.QualifiedIssuers

/-! What certificates that have nothing to do with a seal's signer do to the verdict on its
issuer.

A seal carries its certificates as an unsigned set: a long-term seal holds the chain of its
time-stamping authority there too, and anybody can add more. -/
namespace UnrelatedCertificates

open CmsSeals SealPaths TrustedLists QualifiedIssuers Reorderings

section Chains

/-- The signer's certificate, whoever bears the name of its issuer, and so on. -/
inductive OnChain (signed : Signed) : Certificate → Prop where
  | signer : OnChain signed signed.certificate
  | issuer {c d : Certificate} : OnChain signed d → c ∈ signed.chain → c.subject = d.issuer →
      OnChain signed c

/-- None of the added certificates lies on an issuer chain that starts at the signer's. -/
def Unrelated (added : Certificate → Bool) (sd : SignedData) : Prop :=
  ∀ signed, parse sd = .ok signed → ∀ c, added c → ¬ OnChain signed c

def before (added : Certificate → Bool) (sd : SignedData) : SignedData :=
  { sd with certificates := sd.certificates.map fun certs =>
      certs.filter fun choice => !(choice.certificate?.any added) }

def readBefore (added : Certificate → Bool) (signed : Signed) : Signed :=
  { signed with
    data := before added signed.data
    chain := signed.chain.filter fun c => !added c }

variable {added : Certificate → Bool} {sd : SignedData} {signed : Signed} {current : Certificate}
  {Key : Type} {x : Libraries Key}

theorem filterMap_before (certs : List CertificateChoice) :
    (certs.filter fun choice => !(choice.certificate?.any added)).filterMap
        CertificateChoice.certificate? =
      (certs.filterMap CertificateChoice.certificate?).filter fun c => !added c := by
  rw [List.filter_filterMap, List.filterMap_filter]
  refine congrArg (List.filterMap · certs) (funext fun choice => ?_)
  cases choice with
  | other _ => simp [CertificateChoice.certificate?]
  | certificate c =>
    cases hc : added c <;> simp [CertificateChoice.certificate?, Option.filter, hc]

theorem find?_filter_of_kept {α : Type} {p keep : α → Bool} {l : List α} {a : α}
    (h : l.find? p = some a) (ha : keep a) : (l.filter keep).find? p = some a := by
  induction l with
  | nil => cases h
  | cons b l ih =>
    by_cases hp : p b
    · rw [List.find?_cons_of_pos hp] at h
      cases h
      rw [List.filter_cons_of_pos ha, List.find?_cons_of_pos hp]
    · rw [List.find?_cons_of_neg hp] at h
      by_cases hb : keep b
      · rw [List.filter_cons_of_pos hb, List.find?_cons_of_neg hp]
        exact ih h
      · rw [List.filter_cons_of_neg hb]
        exact ih h

theorem parse_before (hparse : parse sd = .ok signed) (h : Unrelated added sd) :
    parse (before added sd) = .ok (readBefore added signed) := by
  obtain ⟨certs, hsigner, hcerts, hchain, hcert, hdata, hecontent, hcrls⟩ := parse_ok hparse
  have hkept : added signed.certificate = false := by
    by_contra hadded
    exact h signed hparse _ (by simpa using hadded) .signer
  have hcerts' : (before added sd).certificates =
      some (certs.filter fun choice => !(choice.certificate?.any added)) := by
    simp [before, hcerts]
  have hcert' : signerCertificateOf signed.signer
      ((certs.filter fun choice => !(choice.certificate?.any added)).filterMap
        CertificateChoice.certificate?) = some signed.certificate := by
    rw [filterMap_before, ← hchain]
    unfold signerCertificateOf at hcert ⊢
    split at hcert <;> exact find?_filter_of_kept hcert (by simp [hkept])
  rw [@parse_of_signer (before added sd) _ _ _ hsigner hcerts' hcert', filterMap_before, ← hchain]
  simp only [readBefore, before, hdata, hecontent, hcrls]

/-- Nothing unrelated is ever a candidate on the way up from the signer. -/
theorem issuerCandidates_before (h : ∀ c, added c → ¬ OnChain signed c)
    (hcurrent : OnChain signed current) :
    issuerCandidates (readBefore added signed) current = issuerCandidates signed current := by
  unfold issuerCandidates readBefore
  rw [List.filter_filter]
  refine List.filter_congr fun c hc => ?_
  cases hadded : added c with
  | false => simp
  | true =>
    have hname : c.subject ≠ current.issuer := fun hname => h c hadded (.issuer hcurrent hc hname)
    simp [hname]

theorem onChain_of_candidate {next : Certificate} (hcurrent : OnChain signed current)
    (hnext : next ∈ issuerCandidates signed current) : OnChain signed next :=
  .issuer hcurrent (mem_issuerCandidates.mp hnext).1 (mem_issuerCandidates.mp hnext).2.1

theorem walk_before (h : ∀ c, added c → ¬ OnChain signed c) {anchor : Certificate}
    {anchorKey : Key} {n : ℕ} {seen : List Name} (hcurrent : OnChain signed current) :
    walk x (readBefore added signed) anchor anchorKey n seen current =
      walk x signed anchor anchorKey n seen current := by
  induction n generalizing seen current with
  | zero => rfl
  | succ n ih =>
    unfold walk
    rw [issuerCandidates_before h hcurrent]
    split
    next => rfl
    next =>
      split
      next => rfl
      next =>
        cases hnext : climb x current (issuerCandidates signed current) none with
        | error check => rfl
        | ok next =>
          dsimp only
          split
          next => rfl
          next => exact ih (onChain_of_candidate hcurrent (climb_ok hnext).1)

theorem pathTo_before (h : ∀ c, added c → ¬ OnChain signed c) (anchorDer : Bytes) :
    pathTo x (readBefore added signed) anchorDer = pathTo x signed anchorDer := by
  unfold pathTo
  split
  next => rfl
  next =>
    split
    next => rfl
    next => exact walk_before h .signer

theorem terminusFrom_before (h : ∀ c, added c → ¬ OnChain signed c) {n : ℕ}
    (hcurrent : OnChain signed current) :
    terminusFrom x (readBefore added signed) n current = terminusFrom x signed n current := by
  induction n generalizing current with
  | zero => rfl
  | succ n ih =>
    unfold terminusFrom
    rw [issuerCandidates_before h hcurrent]
    split
    next => rfl
    next =>
      cases hnext : (issuerCandidates signed current).head? with
      | none => rfl
      | some next => exact ih (onChain_of_candidate hcurrent (List.mem_of_head? hnext))

theorem terminusOf_before (h : ∀ c, added c → ¬ OnChain signed c) :
    terminusOf x (readBefore added signed) = terminusOf x signed :=
  terminusFrom_before h .signer

end Chains

section Verdict

variable {Key History Status : Type} (x : Readers Key History Status)

def caName (c : String) : Option Bytes := (x.decoded c).bind (subjectDer x)

def ListsOnly (listable : String → Prop) (lists : List (VerifiedTrustedList History)) : Prop :=
  ∀ l ∈ lists, ∀ p ∈ l.content.providers, ∀ s ∈ p.services,
    s.serviceType = x.qualifiedCertificateCa → ∀ c ∈ s.certificates, listable c

/-- Some certificate on the signer's own chain names a listed CA as its issuer. -/
def ChainNamesListed (signed : Signed) (lists : List (VerifiedTrustedList History)) : Prop :=
  ∃ d, OnChain signed d ∧ ∃ l ∈ lists, ∃ p ∈ l.content.providers, ∃ s ∈ p.services,
    s.serviceType = x.qualifiedCertificateCa ∧ ∃ c ∈ s.certificates, caName x c = some d.issuer.der

variable {x} {listable : String → Prop} {lists : List (VerifiedTrustedList History)}
  {added : Certificate → Bool} {signed signed' : Signed} {unchecked : ℕ} {sealedAt : Instant}

theorem verifyPath_congr (hpath : ∀ der, pathTo x.toLibraries signed' der =
      pathTo x.toLibraries signed der) (candidates : List (Candidate History))
    (why : Option String) :
    verifyPath x signed' candidates why = verifyPath x signed candidates why := by
  induction candidates generalizing why with
  | nil => rfl
  | cons c candidates ih =>
    unfold verifyPath
    rw [hpath]
    split
    next => rfl
    next => exact ih why
    next => exact ih _

theorem standing_congr (hcert : signed'.certificate = signed.certificate)
    (hpath : ∀ der, pathTo x.toLibraries signed' der = pathTo x.toLibraries signed der)
    (hterminus : terminusOf x.toLibraries signed' = terminusOf x.toLibraries signed)
    (hcandidates : findIssuerCandidates x (issuerNamesOf signed') lists =
      findIssuerCandidates x (issuerNamesOf signed) lists) :
    standing x signed' lists unchecked sealedAt = standing x signed lists unchecked sealedAt := by
  unfold standing
  dsimp only
  rw [hcert, hterminus, hcandidates, verifyPath_congr hpath]

theorem standing_of_selfIssued (h : signed.certificate.issuer = signed.certificate.subject) :
    standing x signed lists unchecked sealedAt =
      .selfIssued (x.renderName signed.certificate.subject) := if_pos h

theorem issuerQuestion_before (h : ∀ c, added c → ¬ OnChain signed c) :
    issuerQuestion x (readBefore added signed) sealedAt = issuerQuestion x signed sealedAt := by
  have hpath : pathTo x.toLibraries (readBefore added signed) = pathTo x.toLibraries signed :=
    funext fun der => pathTo_before h der
  unfold issuerQuestion
  rw [hpath, terminusOf_before h]
  rfl

/-- Names nobody can be listed under make no difference to the candidates. -/
theorem findIssuerCandidates_congr {names names' : List Bytes} (honly : ListsOnly x listable lists)
    (hnames : ∀ c name, listable c → caName x c = some name → (name ∈ names' ↔ name ∈ names)) :
    findIssuerCandidates x names' lists = findIssuerCandidates x names lists := by
  unfold findIssuerCandidates findCandidates
  refine List.flatMap_congr fun l hl => ?_
  refine List.flatMap_congr fun offering ho => ?_
  refine List.flatMap_congr fun s hs => ?_
  obtain ⟨hp, hservices⟩ := of_mem_providersOffering ho
  rw [hservices] at hs
  obtain ⟨hs, htype⟩ := mem_servicesOfType.mp hs
  refine List.filterMap_congr fun c hc => ?_
  cases hder : x.decoded c with
  | none => rfl
  | some der =>
    have hany : (subjectDer x der).any (fun s => s ∈ names') =
        (subjectDer x der).any (fun s => s ∈ names) := by
      cases hsubject : subjectDer x der with
      | none => rfl
      | some name =>
        have hname := hnames c name (honly l hl _ hp s hs htype c hc)
          (by simp [caName, hder, hsubject])
        simp [hname]
    simp only [hany]

theorem caName_of_mem_listed {e : History × Bytes}
    (he : e ∈ listed x x.qualifiedCertificateCa lists) :
    ∃ l ∈ lists, ∃ p ∈ l.content.providers, ∃ s ∈ p.services,
      s.serviceType = x.qualifiedCertificateCa ∧ ∃ c ∈ s.certificates, x.decoded c = some e.2 := by
  obtain ⟨l, hl, he⟩ := List.mem_flatMap.mp he
  obtain ⟨p, hp, he⟩ := List.mem_flatMap.mp he
  obtain ⟨s, hs, he⟩ := List.mem_flatMap.mp he
  split at he
  next htype =>
    obtain ⟨c, hc, he⟩ := List.mem_filterMap.mp he
    obtain ⟨der, hder, rfl⟩ := Option.map_eq_some_iff.mp he
    exact ⟨l, hl, p, hp, s, hs, htype, c, hc, hder⟩
  next => cases he

def listingOnly (x : Readers Key History Status) (history : History) (c : String) :
    VerifiedTrustedList History :=
  ⟨⟨none, [⟨none, [⟨x.qualifiedCertificateCa, none, history, [c]⟩]⟩]⟩, ""⟩

theorem listed_listingOnly {history : History} {c : String} {der : Bytes}
    (hder : x.decoded c = some der) :
    listed x x.qualifiedCertificateCa [listingOnly x history c] = [(history, der)] := by
  simp [listed, listingOnly, hder]

theorem listsOnly_listingOnly {history : History} {c : String} (hc : listable c) :
    ListsOnly x listable [listingOnly x history c] := by
  simp [ListsOnly, listingOnly, hc]

/-- What the seal names as an issuer and could be listed, a certificate of the signer's own chain
names. -/
def ChainNamesAll (x : Readers Key History Status) (listable : String → Prop) (signed : Signed) :
    Prop :=
  ∀ c name, listable c → caName x c = some name → name ∈ issuerNamesOf signed →
    ∃ d, OnChain signed d ∧ d.issuer.der = name

theorem mem_chain_of_onChain (hmem : signed.certificate ∈ signed.chain) {d : Certificate}
    (hd : OnChain signed d) : d ∈ signed.chain := by
  cases hd with
  | signer => exact hmem
  | issuer _ hd _ => exact hd

theorem mem_issuerNamesOf_before {name : Bytes} :
    name ∈ issuerNamesOf (readBefore added signed) ↔
      ∃ d ∈ signed.chain, added d = false ∧ d.issuer.der = name := by
  simp [mem_issuerNamesOf, readBefore, and_assoc]

theorem standing_before (hmem : signed.certificate ∈ signed.chain)
    (h : ∀ c, added c → ¬ OnChain signed c) (honly : ListsOnly x listable lists)
    (hnames : signed.certificate.issuer ≠ signed.certificate.subject →
      ChainNamesAll x listable signed) :
    standing x (readBefore added signed) lists unchecked sealedAt =
      standing x signed lists unchecked sealedAt := by
  by_cases hself : signed.certificate.issuer = signed.certificate.subject
  · rw [standing_of_selfIssued hself,
    @standing_of_selfIssued _ _ _ _ _ (readBefore added signed) _ _ hself]
    rfl
  · refine standing_congr rfl (pathTo_before h) (terminusOf_before h) ?_
    refine findIssuerCandidates_congr honly fun c name hc hname => ?_
    rw [mem_issuerNamesOf_before]
    constructor
    · rintro ⟨d, hd, _, rfl⟩
      exact mem_issuerNamesOf.mpr ⟨d, hd, rfl⟩
    · intro hnamed
      obtain ⟨d, hd, hissuer⟩ := hnames hself c name hc hname hnamed
      refine ⟨d, mem_chain_of_onChain hmem hd, ?_, hissuer⟩
      by_contra hadded
      exact h d (by simpa using hadded) hd

theorem candidates_of_signatureNotFromListed {q : Question History}
    {candidates : List (History × Bytes)} (h : q.kind candidates = .signatureNotFromListed) :
    q.selfIssued = false ∧ ∃ e, e ∈ candidates := by
  cases candidates with
  | nil =>
    cases hself : q.selfIssued <;> cases hcomplete : q.complete <;>
      simp [Question.kind, hself, hcomplete] at h
  | cons e candidates =>
    refine ⟨?_, e, List.mem_cons_self⟩
    by_contra hself
    have hself : q.selfIssued = true := by simpa using hself
    unfold Question.kind at h
    split at h
    next d _ => cases hgood : q.isGranted d <;> simp [Question.judged, hgood] at h
    next => simp [hself] at h

theorem kind_singleton_ne {q : Question History} {e : History × Bytes}
    (hdirect : q.isDirect e = false) (hself : q.selfIssued = false) : q.kind [e] ≠ q.kind [] := by
  have hkind : q.kind [] = .notListed ∨ q.kind [] = .chainIncomplete := by
    cases hcomplete : q.complete <;> simp [Question.kind, hself, hcomplete]
  intro heq
  rw [← heq] at hkind
  cases hver : q.isVerified e <;> cases hunv : q.isUnverifiable e <;>
    cases hgood : q.isGranted e <;>
    simp [Question.kind, hdirect, hself, hver, hunv, hgood, Question.judged] at hkind

/-- An accusation is drawn from a listed CA that some certificate of the seal names. -/
theorem named_of_signatureNotFromListed
    (h : (standing x signed lists unchecked sealedAt).kind = .signatureNotFromListed) :
    signed.certificate.issuer ≠ signed.certificate.subject ∧
      ∃ l ∈ lists, ∃ p ∈ l.content.providers, ∃ s ∈ p.services,
        s.serviceType = x.qualifiedCertificateCa ∧ ∃ c ∈ s.certificates, ∃ name,
          caName x c = some name ∧ name ∈ issuerNamesOf signed := by
  rw [standing_kind] at h
  obtain ⟨hself, e, he⟩ := candidates_of_signatureNotFromListed h
  obtain ⟨he, hcons⟩ := List.mem_filter.mp he
  obtain ⟨l, hl, p, hp, s, hs, htype, c, hc, hder⟩ := caName_of_mem_listed he
  refine ⟨by simpa [issuerQuestion] using hself, l, hl, p, hp, s, hs, htype, c, hc, ?_⟩
  cases hsubject : subjectDer x e.2 with
  | none => simp [considered, hsubject] at hcons
  | some name =>
    exact ⟨name, by simp [caName, hder, hsubject], by simpa [considered, hsubject] using hcons⟩

open Classical in
noncomputable def offChain (signed : Signed) (c : Certificate) : Bool := ¬ OnChain signed c

theorem chainNamesAll_of_harmless [Inhabited History]
    (hself : signed.certificate.issuer ≠ signed.certificate.subject)
    (h : ∀ lists, ListsOnly x listable lists →
      standing x signed lists 0 0 = standing x (readBefore (offChain signed) signed) lists 0 0) :
    ChainNamesAll x listable signed := by
  intro c name hc hname hnamed
  obtain ⟨der, hder, hsubject⟩ := Option.bind_eq_some_iff.mp hname
  have hoff : ∀ c, offChain signed c → ¬ OnChain signed c := by
    intro c hc
    simpa [offChain] using hc
  have hkinds := congrArg IssuerStanding.kind
    (h [listingOnly x default c] (listsOnly_listingOnly hc))
  rw [standing_kind, standing_kind, issuerQuestion_before hoff, listed_listingOnly hder] at hkinds
  have hconsidered : considered x (fun _ => false) (issuerNamesOf signed)
      ((default : History), der) = true := by
    simp [considered, hsubject, hnamed]
  rw [List.filter_cons_of_pos hconsidered, List.filter_nil] at hkinds
  have hbefore : considered x (fun _ => false) (issuerNamesOf (readBefore (offChain signed) signed))
      ((default : History), der) = true := by
    by_contra hnot
    rw [List.filter_cons_of_neg hnot, List.filter_nil] at hkinds
    exact kind_singleton_ne rfl (by simpa [issuerQuestion] using hself) hkinds
  have hname' : name ∈ issuerNamesOf (readBefore (offChain signed) signed) := by
    simpa [considered, hsubject] using hbefore
  obtain ⟨d, _, hd, hissuer⟩ := mem_issuerNamesOf_before.mp hname'
  exact ⟨d, by simpa [offChain] using hd, hissuer⟩

/-- A seal's verdict is that of the seal before any unrelated certificates were added, and accuses
only where the signer's own chain names a listed CA, whatever the lists carry, exactly when every
name of a listable CA that the seal's certificates give their issuer is given by one on the
signer's own chain. -/
theorem unrelated_certificates_harmless_iff [Inhabited History] (x : Readers Key History Status)
    (sd : SignedData) (listable : String → Prop) :
    (∀ signed, parse sd = .ok signed →
        (∀ added, Unrelated added sd → ∀ lists, ListsOnly x listable lists → ∀ unchecked sealedAt,
          qualify x sd lists unchecked sealedAt =
            qualify x (before added sd) lists unchecked sealedAt) ∧
        ∀ lists, ListsOnly x listable lists → ∀ unchecked sealedAt q,
          qualify x sd lists unchecked sealedAt = .ok q →
          q.issuer.kind = .signatureNotFromListed → ChainNamesListed x signed lists) ↔
      ∀ signed, parse sd = .ok signed → signed.certificate.issuer ≠ signed.certificate.subject →
        ChainNamesAll x listable signed := by
  refine forall_congr' fun signed => forall_congr' fun hparse => ?_
  constructor
  · rintro ⟨hsame, _⟩ hself
    refine chainNamesAll_of_harmless hself fun lists honly => ?_
    have hunrelated : Unrelated (offChain signed) sd := by
      intro signed' hparse' c hc
      rw [hparse] at hparse'
      cases hparse'
      simpa [offChain] using hc
    have hq := hsame _ hunrelated lists honly [] 0
    rw [qualify_ok hparse, qualify_ok (parse_before hparse hunrelated)] at hq
    exact congrArg SealQualification.issuer (Except.ok.inj hq)
  · intro h
    refine ⟨fun added hunrelated lists honly unchecked sealedAt => ?_,
      fun lists honly unchecked sealedAt q hq hkind => ?_⟩
    · rw [qualify_ok hparse, qualify_ok (parse_before hparse hunrelated),
        standing_before (certificate_mem_chain hparse) (hunrelated signed hparse) honly h]
      rfl
    · rw [qualify_ok hparse] at hq
      cases hq
      obtain ⟨hself, l, hl, p, hp, s, hs, htype, c, hc, name, hname, hnamed⟩ :=
        named_of_signatureNotFromListed hkind
      obtain ⟨d, hd, hissuer⟩ := h hself c name (honly l hl p hp s hs htype c hc) hname hnamed
      exact ⟨d, hd, l, hl, p, hp, s, hs, htype, c, hc, hissuer ▸ hname⟩

end Verdict

section Stray

def privateRoot : Certificate := plainCertificate 7 7 [70] [70] (some [caConstraints])

def privateSigner : Certificate := plainCertificate 3 7 [30] [70] none

def stray : Certificate := plainCertificate 5 1 [50] [10] none

def isStray (c : Certificate) : Bool := c = stray

theorem stray_unrelated : Unrelated isStray (carrying privateSigner [privateRoot, stray]) := by
  rintro signed hparse c hc hon
  rw [parse_carrying] at hparse
  cases hparse
  have hchain : ∀ c, OnChain (carried privateSigner [privateRoot, stray]) c →
      c = privateSigner ∨ c = privateRoot := by
    intro c hc
    induction hc with
    | signer => exact .inl rfl
    | issuer _ hmem hname ih =>
      have hissuer : ∀ d, d = privateSigner ∨ d = privateRoot → d.issuer = ⟨[7]⟩ := by
        rintro d (rfl | rfl) <;> rfl
      rw [hissuer _ ih] at hname
      have hall : ∀ c ∈ (carried privateSigner [privateRoot, stray]).chain,
          c.subject = ⟨[7]⟩ → c = privateSigner ∨ c = privateRoot := by decide
      exact hall _ hmem hname
  have heq : c = stray := by simpa [isStray] using hc
  rw [heq] at hon
  exact absurd (hchain stray hon) (by decide)

/-- A certificate that has nothing to do with the signer turns an unlisted issuer into one that
is said to have borrowed a listed CA's name. -/
theorem stray_certificate_accuses :
    Unrelated isStray (carrying privateSigner [privateRoot, stray]) ∧
      (qualify (plainReaders [([1], listedCa)])
          (before isStray (carrying privateSigner [privateRoot, stray]))
          [listing [caService true]] [] 0).map (fun q => q.issuer.kind) = .ok .notListed ∧
      (qualify (plainReaders [([1], listedCa)]) (carrying privateSigner [privateRoot, stray])
          [listing [caService true]] [] 0).map (fun q => q.issuer.kind) =
        .ok .signatureNotFromListed :=
  ⟨stray_unrelated, by decide, by decide⟩

end Stray

end UnrelatedCertificates
