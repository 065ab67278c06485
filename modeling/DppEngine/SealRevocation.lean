import DppEngine.SealPaths

/-! What the revocation lists a seal carries say about its signing certificate.

Certificates and lists are the seal's unsigned sets: whoever passes the seal on can add to
both. -/
namespace SealRevocation

open CmsSeals

inductive RevocationStanding where
  | revoked (at_ : Instant)
  | notRevoked (asOf : Instant)
  | unusable (reason : String)
  | notAvailable
  deriving DecidableEq, Repr

section Reading

variable {Key : Type} (x : Verifier Key)

/-- The embedded certificate whose key is asked about every list in the issuer's name. -/
def issuerCertificate (certificate : Certificate) (chain : List Certificate) :
    Option Certificate :=
  chain.find? fun c => c.subject = certificate.issuer

/-- The list's own signature, under the first certificate that bears the issuer's name. -/
def checkCrl (signed : Signed) (crl : CertificateList) : Except String Unit :=
  match issuerCertificate signed.certificate signed.chain with
  | none => .error "the CRL's issuer certificate is not in the seal"
  | some issuerCert =>
    match verifyingKey x issuerCert with
    | .error e => .error ("no verifier for the CRL issuer's key: " ++ e)
    | .ok key =>
      match x.verifyCrl key crl with
      | .error e => .error ("the CRL's own signature does not verify: " ++ e.text)
      | .ok () => .ok ()

def revokedEntry (signed : Signed) (crl : CertificateList) : Option RevokedCert :=
  crl.revokedCertificates.bind fun r =>
    r.find? fun e => e.serialNumber = signed.certificate.serialNumber

/-- The newest clean answer so far. -/
def newest (clean : Option Instant) (asOf : Instant) : Instant :=
  match clean with
  | none => asOf
  | some seen => if asOf > seen then asOf else seen

/-- The lists in turn: a revocation ends the search, a clean answer and a problem are kept. -/
def readCrls (signed : Signed) :
    List CertificateList → Option Instant → Option String → RevocationStanding
  | [], some asOf, _ => .notRevoked asOf
  | [], none, some reason => .unusable reason
  | [], none, none => .notAvailable
  | crl :: crls, clean, lastProblem =>
    if crl.issuer ≠ signed.certificate.issuer then readCrls signed crls clean lastProblem
    else
      match checkCrl x signed crl with
      | .error problem => readCrls signed crls clean (some problem)
      | .ok () =>
        match revokedEntry signed crl with
        | some entry =>
          match instantOf entry.revocationDate with
          | none => readCrls signed crls clean (some "the revocation date is unreadable")
          | some at_ => .revoked at_
        | none =>
          match instantOf crl.thisUpdate with
          | none => readCrls signed crls clean (some "the CRL's thisUpdate is unreadable")
          | some asOf => readCrls signed crls (some (newest clean asOf)) lastProblem

def revocationFrom (signed : Signed) : RevocationStanding := readCrls x signed signed.crls none none

end Reading

section Evidence

variable {Key : Type} (x : Verifier Key) (signed : Signed)

def Lists (crl : CertificateList) : Prop :=
  ∃ e ∈ crl.revokedCertificates.getD [], e.serialNumber = signed.certificate.serialNumber

/-- In the name of the signer's issuer, and under a key that verifies the signer's certificate
too. -/
def Endorsed (crl : CertificateList) : Prop :=
  crl.issuer = signed.certificate.issuer ∧
    ∃ key, x.verifyCertificate key signed.certificate = .ok () ∧ x.verifyCrl key crl = .ok ()

/-- In the name of the signer's issuer, and under the key of the first embedded certificate that
bears it. -/
def Answers (crl : CertificateList) : Prop :=
  crl.issuer = signed.certificate.issuer ∧ checkCrl x signed crl = .ok ()

/-- A clean answer rests on a list the signer's issuer endorsed, and such a list's revocation is
found. -/
structure Faithful : Prop where
  clean : ∀ asOf, revocationFrom x signed = .notRevoked asOf →
    ∃ crl ∈ signed.crls, Endorsed x signed crl ∧ instantOf crl.thisUpdate = some asOf
  found : (∃ crl ∈ signed.crls, Endorsed x signed crl ∧ Lists signed crl) →
    ∃ at_, revocationFrom x signed = .revoked at_

/-- The first certificate in the issuer's name clears nothing that the signer's issuer would not,
and confirms each revocation the signer's issuer signed. -/
structure FirstBearerSpeaks : Prop where
  clean : ∀ crl, Answers x signed crl → ¬ Lists signed crl → Endorsed x signed crl
  revoking : ∀ crl, Endorsed x signed crl → Lists signed crl → Answers x signed crl

variable {x signed} {crls : List CertificateList} {crl : CertificateList}
  {clean : Option Instant} {problem : Option String}

theorem revokedEntry_eq_none : revokedEntry signed crl = none ↔ ¬ Lists signed crl := by
  cases h : crl.revokedCertificates <;> simp [revokedEntry, Lists, h]

theorem newest_cases (clean : Option Instant) (asOf : Instant) :
    newest clean asOf = asOf ∨ clean = some (newest clean asOf) := by
  unfold newest
  split
  next => exact .inl rfl
  next seen =>
    split
    next => exact .inl rfl
    next => exact .inr rfl

theorem readCrls_notRevoked {asOf : Instant}
    (h : readCrls x signed crls clean problem = .notRevoked asOf) :
    clean = some asOf ∨ ∃ crl ∈ crls, Answers x signed crl ∧ ¬ Lists signed crl ∧
      instantOf crl.thisUpdate = some asOf := by
  induction crls generalizing clean problem with
  | nil =>
    cases clean with
    | some seen =>
      cases h
      exact .inl rfl
    | none => cases problem <;> cases h
  | cons crl crls ih =>
    have hlater : ∀ {clean problem}, readCrls x signed crls clean problem = .notRevoked asOf →
        clean = some asOf ∨ ∃ crl' ∈ crl :: crls, Answers x signed crl' ∧ ¬ Lists signed crl' ∧
          instantOf crl'.thisUpdate = some asOf := by
      intro clean problem h
      refine (ih h).imp_right ?_
      rintro ⟨crl', hmem, hcrl'⟩
      exact ⟨crl', List.mem_cons_of_mem _ hmem, hcrl'⟩
    unfold readCrls at h
    split at h
    next => exact hlater h
    next hissuer =>
      split at h
      next => exact hlater h
      next hcheck =>
        split at h
        next entry _ =>
          rw [instantOf_eq] at h
          cases h
        next hentry =>
          rw [instantOf_eq] at h
          rcases hlater h with hclean | hlist
          · rcases newest_cases clean (crl.thisUpdate.seconds * 1000000000) with hnew | hold
            · refine .inr ⟨crl, List.mem_cons_self, ⟨not_not.mp hissuer, hcheck⟩, ?_, ?_⟩
              · exact revokedEntry_eq_none.mp hentry
              · rw [instantOf_eq, ← hnew]
                exact hclean
            · exact .inl (hold.trans hclean)
          · exact .inr hlist

/-- A list that answers and names the serial is never passed over. -/
theorem readCrls_revoked (hmem : crl ∈ crls) (hanswers : Answers x signed crl)
    (hlists : Lists signed crl) : ∃ at_, readCrls x signed crls clean problem = .revoked at_ := by
  induction crls generalizing clean problem with
  | nil => cases hmem
  | cons first crls ih =>
    unfold readCrls
    split
    next hissuer =>
      rcases List.mem_cons.mp hmem with rfl | hmem
      · exact absurd hanswers.1 hissuer
      · exact ih hmem
    next =>
      split
      next why hcheck =>
        rcases List.mem_cons.mp hmem with rfl | hmem
        · rw [hanswers.2] at hcheck
          cases hcheck
        · exact ih hmem
      next =>
        split
        next entry _ =>
          rw [instantOf_eq]
          exact ⟨_, rfl⟩
        next hentry =>
          rw [instantOf_eq]
          rcases List.mem_cons.mp hmem with rfl | hmem
          · exact absurd hlists (revokedEntry_eq_none.mp hentry)
          · exact ih hmem

theorem answers_of_revoked {at_ : Instant}
    (h : readCrls x signed [crl] none none = .revoked at_) : Answers x signed crl := by
  unfold readCrls at h
  split at h
  next => cases h
  next hissuer =>
    split at h
    next => cases h
    next hcheck => exact ⟨not_not.mp hissuer, hcheck⟩

theorem readCrls_clean (hanswers : Answers x signed crl) (hclean : ¬ Lists signed crl) :
    readCrls x signed [crl] none none = .notRevoked (crl.thisUpdate.seconds * 1000000000) := by
  simp [readCrls, hanswers.1, hanswers.2, revokedEntry_eq_none.mpr hclean, instantOf_eq, newest]

/-- Whatever lists a seal with these certificates carries, the reading of them is faithful,
exactly when the first certificate in the issuer's name speaks for the signer's issuer. -/
theorem revocation_faithful_iff_first_bearer_speaks (x : Verifier Key) (sd : SignedData) :
    (∀ crls signed, parse { sd with crls } = .ok signed → Faithful x signed) ↔
      ∀ signed, parse sd = .ok signed → FirstBearerSpeaks x signed := by
  constructor
  · intro h signed hparse
    have hone : ∀ crl, Faithful x (signed.withCrls (some [.crl crl])) :=
      fun crl => h _ _ (parse_withCrls hparse _)
    refine ⟨fun crl hanswers hclean => ?_, fun crl hendorsed hlists => ?_⟩
    · obtain ⟨crl', hmem, hendorsed, _⟩ := (hone crl).clean _ (readCrls_clean hanswers hclean)
      rw [List.mem_singleton.mp hmem] at hendorsed
      exact hendorsed
    · obtain ⟨at_, hrevoked⟩ :=
        (hone crl).found ⟨crl, List.mem_singleton_self crl, hendorsed, hlists⟩
      exact answers_of_revoked hrevoked
  · intro h crls signed hparse
    -- What the condition speaks of, the signer's certificate and the chain, is the same seal's.
    have hspeaks : FirstBearerSpeaks x (signed.withCrls sd.crls) :=
      h _ (parse_withCrls hparse sd.crls)
    refine ⟨fun asOf hclean => ?_, fun hrevoking => ?_⟩
    · rcases readCrls_notRevoked hclean with hnone | ⟨crl, hmem, hanswers, hlists, hasOf⟩
      · cases hnone
      · exact ⟨crl, hmem, hspeaks.clean crl hanswers hlists, hasOf⟩
    · obtain ⟨crl, hmem, hendorsed, hlists⟩ := hrevoking
      exact readCrls_revoked hmem (hspeaks.revoking crl hendorsed hlists) hlists

end Evidence

section Cleared

open SealPaths

def revokedSigner : Certificate := plainCertificate 3 1 [30] [10] none

def namesake : Certificate := plainCertificate 1 1 [66] [66] none

def revokingList : CertificateList :=
  { issuer := ⟨[1]⟩
    thisUpdate := ⟨1767225600, by decide⟩
    revokedCertificates := some [⟨[3], ⟨1764547200, by decide⟩⟩]
    signatureAlgorithm := ecdsaWithSha256
    signature := [10] }

def emptyList : CertificateList :=
  { revokingList with
    revokedCertificates := none
    signature := [66] }

def cleared : SignedData :=
  { carrying revokedSigner [namesake, listedCa] with
    crls := some [.crl emptyList, .crl revokingList] }

/-- A certificate in the issuer's name, put before the issuer's own, and an empty list of its
clear a certificate that the issuer's list in the same seal revokes. -/
theorem namesake_clears_revoked_signer :
    parse cleared = .ok ((carried revokedSigner [namesake, listedCa]).withCrls cleared.crls) ∧
      revocationFrom (plainLibraries []).toVerifier
          ((carried revokedSigner [namesake, listedCa]).withCrls cleared.crls) =
        .notRevoked 1767225600000000000 ∧
      ¬ Faithful (plainLibraries []).toVerifier
          ((carried revokedSigner [namesake, listedCa]).withCrls cleared.crls) := by
  have hanswer : revocationFrom (plainLibraries []).toVerifier
      ((carried revokedSigner [namesake, listedCa]).withCrls cleared.crls) =
        .notRevoked 1767225600000000000 := by decide
  refine ⟨by decide, hanswer, fun h => ?_⟩
  have hendorsed : Endorsed (plainLibraries []).toVerifier
      ((carried revokedSigner [namesake, listedCa]).withCrls cleared.crls) revokingList :=
    ⟨by decide, [10], by decide, by decide⟩
  have hlists : Lists ((carried revokedSigner [namesake, listedCa]).withCrls cleared.crls)
      revokingList := ⟨_, List.mem_singleton_self _, by decide⟩
  obtain ⟨at_, hrevoked⟩ := h.found ⟨revokingList, by decide, hendorsed, hlists⟩
  rw [hanswer] at hrevoked
  cases hrevoked

end Cleared

end SealRevocation
