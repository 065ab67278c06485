import DppEngine.SealPaths
import Mathlib.Logic.Relation

/-! Which chains of a seal's certificates the walk finds, and what it takes to be told that the
anchor signed nothing.

At each link the walk commits to one certificate of the issuer's name, so of the chains that lead
to an anchor it follows one. -/
namespace PathChoices

open CmsSeals DelegationChains SealPaths

section Chains

variable {Key : Type} (x : Libraries Key) (signed : Signed) (anchor : Certificate)

/-- A chain of distinct certificates of the seal from its signer to the anchor, each signed by the
next under the name it gives. -/
structure Chain (path : List Certificate) : Prop where
  links : Path (Issued x) (Issued x anchor) signed.certificate path
  embedded : ∀ c ∈ path, c ∈ signed.chain
  distinct : (signed.certificate :: path).Nodup
  short : path.length < maxPathLength

/-- A chain on which no name comes up twice, none but the last names the anchor, and each link
goes to the first of the seal's certificates that can make it. -/
structure Found (path : List Certificate) : Prop extends Chain x signed anchor path where
  names : ((signed.certificate :: path).map Certificate.subject).Nodup
  straight : Straight x signed anchor signed.certificate path

def Takes (c a : Certificate) : Prop :=
  c.issuer ≠ anchor.subject ∧ FirstOf x (issuerCandidates signed c) c a

/-- `issuer`'s key was asked, and it did not sign `c`. -/
def Denied (issuer c : Certificate) : Prop :=
  ∃ key, verifyingKey x.toVerifier issuer = .ok key ∧
    verifiedUnder x.toVerifier issuer key c = .notSignedByThisIssuer

/-- Whoever could have signed `c` was asked, and did not: the anchor where `c` names it, and else
every certificate of the seal under the name `c` gives. -/
def Refuted (c : Certificate) : Prop :=
  if c.issuer = anchor.subject then Denied x anchor c
  else ∀ a ∈ issuerCandidates signed c, Denied x a c

variable {x signed anchor} {current : Certificate} {anchorKey : Key} {anchorDer : Bytes}

theorem climb_refused {candidates : List Certificate} {why : Option String}
    (h : climb x current candidates why = .error .notSignedByThisIssuer) :
    why = none ∧ ∀ a ∈ candidates, Denied x a current := by
  induction candidates generalizing why with
  | nil =>
    cases why with
    | none => exact ⟨rfl, List.forall_mem_nil _⟩
    | some why => cases h
  | cons candidate candidates ih =>
    unfold climb at h
    split at h
    next => cases (ih h).1
    next key hkey =>
      split at h
      next => cases h
      next => cases (ih h).1
      next hver =>
        obtain ⟨hwhy, hall⟩ := ih h
        exact ⟨hwhy, List.forall_mem_cons.mpr ⟨⟨key, hkey, hver⟩, hall⟩⟩

/-- A walk that finds no signer ends at a certificate for which everybody was asked. -/
theorem walk_refused (hkey : verifyingKey x.toVerifier anchor = .ok anchorKey) {n : ℕ}
    {seen : List Name}
    (h : walk x signed anchor anchorKey n seen current = .notSignedByThisIssuer) :
    ∃ last, Relation.ReflTransGen (Takes x signed anchor) current last ∧
      Refuted x signed anchor last := by
  induction n generalizing seen current with
  | zero => cases h
  | succ n ih =>
    unfold walk at h
    split at h
    next hstop => exact ⟨current, .refl, by rw [Refuted, if_pos hstop]; exact ⟨anchorKey, hkey, h⟩⟩
    next hstop =>
      split at h
      next hnone =>
        refine ⟨current, .refl, ?_⟩
        rw [Refuted, if_neg hstop, List.isEmpty_iff.mp hnone]
        exact List.forall_mem_nil _
      next =>
        split at h
        next check hcheck =>
          subst h
          refine ⟨current, .refl, ?_⟩
          rw [Refuted, if_neg hstop]
          exact (climb_refused hcheck).2
        next next hnext =>
          split at h
          next => cases h
          next =>
            obtain ⟨last, hreached, hrefuted⟩ := ih h
            exact ⟨last, .head ⟨hstop, climb_ok_first hnext⟩ hreached, hrefuted⟩

theorem pathTo_refused (h : pathTo x signed anchorDer = .notSignedByThisIssuer) :
    ∃ anchor last, x.certificateFromDer anchorDer = .ok anchor ∧
      Relation.ReflTransGen (Takes x signed anchor) signed.certificate last ∧
      Refuted x signed anchor last := by
  unfold pathTo at h
  split at h
  next => cases h
  next anchor hanchor =>
    split at h
    next => cases h
    next anchorKey hkey =>
      obtain ⟨last, hlast⟩ := walk_refused hkey h
      exact ⟨anchor, last, hanchor, hlast⟩

variable (x signed anchorDer) in
/-- A chain the walk can find verifies. Where it reports that the anchor signed nothing, there is
no such chain, and at the certificate it came to everybody who could have signed was asked. -/
theorem found_chains_verify :
    (∀ anchor path, x.certificateFromDer anchorDer = .ok anchor → Found x signed anchor path →
      pathTo x signed anchorDer = .verified) ∧
    (pathTo x signed anchorDer = .notSignedByThisIssuer →
      ∃ anchor, x.certificateFromDer anchorDer = .ok anchor ∧
        (∀ path, ¬Found x signed anchor path) ∧
        ∃ last, Relation.ReflTransGen (Takes x signed anchor) signed.certificate last ∧
          Refuted x signed anchor last) := by
  have hverified : ∀ anchor path, x.certificateFromDer anchorDer = .ok anchor →
      Found x signed anchor path → pathTo x signed anchorDer = .verified := by
    intro anchor path hanchor h
    exact pathTo_of_straight hanchor h.links h.straight h.names h.short
  refine ⟨hverified, ?_⟩
  intro hrefused
  obtain ⟨anchor, last, hanchor, hreached, hrefuted⟩ := pathTo_refused hrefused
  refine ⟨anchor, hanchor, ?_, last, hreached, hrefuted⟩
  intro path hfound
  cases hrefused.symm.trans (hverified anchor path hanchor hfound)

end Chains

section Samples

def root : Certificate := plainCertificate 1 1 [10] [10] (some [caConstraints])

def anchored : Libraries Bytes := plainLibraries [([1], root)]

def choosy : Libraries Bytes :=
  { anchored with
    keyOf := fun spki =>
      if spki.subjectPublicKey = [] then .error "unknown algorithm" else .ok spki.subjectPublicKey }

/-- The anchor's new certificate, which its old key signed, and a seal under the new one. -/
def renewedRoot : Certificate := plainCertificate 1 1 [11] [10] none

def sealedUnderNewRoot : Certificate := plainCertificate 2 1 [20] [11] none

def signer : Certificate := plainCertificate 2 3 [20] [30] none

/-- One key of the name 3, certified by the name 4 and by the anchor. -/
def crossCertified : List Certificate :=
  [plainCertificate 3 4 [30] [40] none, plainCertificate 3 1 [30] [10] none]

/-- The names 3 and 4 certify each other before the anchor certifies another key of 3. -/
def eachOther : List Certificate :=
  [plainCertificate 3 4 [30] [40] none, plainCertificate 4 3 [40] [31] none,
    plainCertificate 3 1 [31] [10] none]

def unreadable : Certificate := plainCertificate 3 1 [] [10] none

theorem issued_of {x : Libraries Bytes} {a c : Certificate} (hname : a.subject = c.issuer)
    (hkey : verifyingKey x.toVerifier a = .ok a.subjectPublicKeyInfo.subjectPublicKey)
    (hver : verifiedUnder x.toVerifier a a.subjectPublicKeyInfo.subjectPublicKey c = .verified) :
    Issued x a c :=
  ⟨hname, _, hkey, hver⟩

/-- Chains the walk does not find: the signer names the anchor, whose earlier key signed the
certificate in between; one name comes up twice; the first certificate of the name 3 leads
nowhere. And a walk that reports a missing signature although a certificate of the name it looked
for could not be read. -/
theorem chains_the_walk_misses :
    (Chain anchored (carried sealedUnderNewRoot [renewedRoot]) root [renewedRoot] ∧
      pathTo anchored (carried sealedUnderNewRoot [renewedRoot]) [1] = .notSignedByThisIssuer) ∧
    (Chain anchored (carried signer eachOther) root eachOther ∧
      pathTo anchored (carried signer eachOther) [1] =
        .unverifiable "the embedded certificates form a loop") ∧
    (Chain anchored (carried signer crossCertified) root [plainCertificate 3 1 [30] [10] none] ∧
      pathTo anchored (carried signer crossCertified) [1] = .notSignedByThisIssuer) ∧
    (pathTo choosy (carried signer [unreadable, plainCertificate 3 4 [30] [40] none]) [1] =
        .notSignedByThisIssuer ∧
      unreadable ∈ issuerCandidates
        (carried signer [unreadable, plainCertificate 3 4 [30] [40] none]) signer ∧
      ∃ e, verifyingKey choosy.toVerifier unreadable = .error e) := by
  have hlink : ∀ {a c : Certificate}, a.subject = c.issuer →
      verifyingKey anchored.toVerifier a = .ok a.subjectPublicKeyInfo.subjectPublicKey →
      verifiedUnder anchored.toVerifier a a.subjectPublicKeyInfo.subjectPublicKey c = .verified →
      Issued anchored a c := issued_of
  refine ⟨⟨⟨?_, by decide, by decide, by decide⟩, by decide⟩,
    ⟨⟨?_, by decide, by decide, by decide⟩, by decide⟩,
    ⟨⟨?_, by decide, by decide, by decide⟩, by decide⟩, by decide, by decide, _, rfl⟩
  · exact .climbed (hlink rfl rfl (by decide)) (.arrived (hlink rfl rfl (by decide)))
  · exact .climbed (hlink rfl rfl (by decide)) (.climbed (hlink rfl rfl (by decide))
      (.climbed (hlink rfl rfl (by decide)) (.arrived (hlink rfl rfl (by decide)))))
  · exact .climbed (hlink rfl rfl (by decide)) (.arrived (hlink rfl rfl (by decide)))

end Samples

end PathChoices
