import DppEngine.CmsSeals
import DppEngine.DelegationChains
import Mathlib.Data.List.Nodup

/-! The walk from a seal's signer up to a listed anchor, over nothing but the certificates the
seal itself carries. -/
namespace SealPaths

open CmsSeals DelegationChains

section Walk

/-- Certificates read from and written to DER, and names written for reading. -/
structure Libraries (Key : Type) extends Verifier Key where
  certificateFromDer : Bytes → Except String Certificate
  certificateToDer : Certificate → Bytes
  renderName : Name → String

variable {Key : Type} (x : Libraries Key)

def issuerNamesOf (signed : Signed) : List Bytes :=
  (signed.chain.map fun c => c.issuer.der).eraseDups

def maxPathLength : ℕ := 8

/-- Every embedded certificate that bears the issuer's name; none is its own issuer. -/
def issuerCandidates (signed : Signed) (current : Certificate) : List Certificate :=
  signed.chain.filter fun c => c.subject = current.issuer && c.subject ≠ current.subject

/-- The first candidate whose key verifies the link, or else the first reason one could not be
asked. -/
def climb (current : Certificate) :
    List Certificate → Option String → Except IssuerCheck Certificate
  | [], unverifiable =>
    match unverifiable with
    | some why => .error (.unverifiable why)
    | none => .error .notSignedByThisIssuer
  | candidate :: candidates, unverifiable =>
    match verifyingKey x.toVerifier candidate with
    | .error e =>
      climb current candidates
        (some (unverifiable.getD ("no verifier for an intermediate's key: " ++ e)))
    | .ok key =>
      match verifiedUnder x.toVerifier candidate key current with
      | .verified => .ok candidate
      | .unverifiable why => climb current candidates (some (unverifiable.getD why))
      | .notSignedByThisIssuer => climb current candidates unverifiable

def walk (signed : Signed) (anchor : Certificate) (anchorKey : Key) :
    ℕ → List Name → Certificate → IssuerCheck
  | 0, _, _ =>
    .unverifiable ("the certificate path is longer than " ++ toString maxPathLength ++ " links")
  | n + 1, seen, current =>
    -- The anchor first, so a chain that also embeds a copy of it cannot lengthen the walk.
    if current.issuer = anchor.subject then verifiedUnder x.toVerifier anchor anchorKey current
    else if (issuerCandidates signed current).isEmpty then .notSignedByThisIssuer
    else
      match climb x current (issuerCandidates signed current) none with
      | .error check => check
      | .ok next =>
        if next.subject ∈ seen then .unverifiable "the embedded certificates form a loop"
        else walk signed anchor anchorKey n (current.subject :: seen) next

def pathTo (signed : Signed) (anchorDer : Bytes) : IssuerCheck :=
  match x.certificateFromDer anchorDer with
  | .error e => .unverifiable ("the anchor certificate does not parse: " ++ e)
  | .ok anchor =>
    match verifyingKey x.toVerifier anchor with
    | .error e => .unverifiable ("no verifier for the anchor's key: " ++ e)
    | .ok anchorKey => walk x signed anchor anchorKey maxPathLength [] signed.certificate

inductive ChainTerminus where
  | selfIssuedRoot (subject : String)
  | truncated (missingIssuer : String)
  deriving DecidableEq, Repr

def terminusFrom (signed : Signed) : ℕ → Certificate → ChainTerminus
  | 0, current => .truncated (x.renderName current.issuer)
  | n + 1, current =>
    if current.issuer = current.subject then .selfIssuedRoot (x.renderName current.subject)
    else
      match (issuerCandidates signed current).head? with
      | none => .truncated (x.renderName current.issuer)
      | some next => terminusFrom signed n next

def terminusOf (signed : Signed) : ChainTerminus :=
  terminusFrom x signed maxPathLength signed.certificate

end Walk

section Authority

variable {Key : Type} (x : Libraries Key)

def SignedBy (issuer certificate : Certificate) : Prop :=
  ∃ key, verifyingKey x.toVerifier issuer = .ok key ∧
    verifiedUnder x.toVerifier issuer key certificate = .verified

def Issued (issuer certificate : Certificate) : Prop :=
  issuer.subject = certificate.issuer ∧ SignedBy x issuer certificate

def idCeBasicConstraints : Oid := [2, 5, 29, 19]

/-- What X.509 calls a CA certificate: its basic constraints begin with a `cA` that is true. -/
def isCa (c : Certificate) : Bool :=
  (c.extensions.getD []).any fun e => e.extnId = idCeBasicConstraints &&
    match e.extnValue with
    | 0x30 :: _ :: 0x01 :: 0x01 :: 0xFF :: _ => true
    | _ => false

/-- Some chain of the seal's own certificates leads from its signer up to the anchor, and all
that signed another one were entitled to. -/
def Authorised (signed : Signed) (anchorDer : Bytes) : Prop :=
  ∃ anchor path, x.certificateFromDer anchorDer = .ok anchor ∧
    (∀ c ∈ path, c ∈ signed.chain) ∧
    Path (Issued x) (Issued x anchor) signed.certificate path ∧
    ∀ c ∈ path ++ [anchor], isCa c

/-- A climb the walk can make: no name comes up twice, and it has no more links than allowed. -/
structure Walkable (anchor signer : Certificate) (path : List Certificate) : Prop where
  climb : Climb (Issued x) (fun c => c.issuer = anchor.subject) (Issued x anchor) signer path
  names : ((signer :: path).map Certificate.subject).Nodup
  short : path.length < maxPathLength

def FirstOf (candidates : List Certificate) (current next : Certificate) : Prop :=
  ∃ before after, candidates = before ++ next :: after ∧ SignedBy x next current ∧
    ∀ b ∈ before, ¬SignedBy x b current

/-- No certificate short of the last names the anchor as its issuer, and the next is the first
of the seal's that signed it. -/
def Straight (signed : Signed) (anchor : Certificate) : Certificate → List Certificate → Prop
  | _, [] => True
  | c, a :: path => c.issuer ≠ anchor.subject ∧ FirstOf x (issuerCandidates signed c) c a ∧
      Straight signed anchor a path

variable {x} {signed : Signed} {anchor current next signer : Certificate} {anchorKey : Key}
  {anchorDer : Bytes} {seen : List Name} {path : List Certificate} {n : ℕ}

theorem mem_issuerCandidates {c : Certificate} :
    c ∈ issuerCandidates signed current ↔
      c ∈ signed.chain ∧ c.subject = current.issuer ∧ c.subject ≠ current.subject := by
  simp [issuerCandidates]

theorem signedBy_iff {key : Key} (hkey : verifyingKey x.toVerifier next = .ok key) :
    SignedBy x next current ↔ verifiedUnder x.toVerifier next key current = .verified := by
  constructor
  · rintro ⟨key', hkey', hver⟩
    cases hkey.symm.trans hkey'
    exact hver
  · exact fun hver => ⟨key, hkey, hver⟩

theorem not_signedBy_of_error {e : String} (hkey : verifyingKey x.toVerifier next = .error e) :
    ¬SignedBy x next current := by
  rintro ⟨key, hkey', -⟩
  cases hkey.symm.trans hkey'

theorem FirstOf.cons {candidate : Certificate} {candidates : List Certificate}
    (hnot : ¬SignedBy x candidate current) (h : FirstOf x candidates current next) :
    FirstOf x (candidate :: candidates) current next := by
  obtain ⟨before, after, rfl, hsigned, hbefore⟩ := h
  exact ⟨candidate :: before, after, rfl, hsigned, List.forall_mem_cons.mpr ⟨hnot, hbefore⟩⟩

theorem climb_ok_first {candidates : List Certificate} {why : Option String}
    (h : climb x current candidates why = .ok next) : FirstOf x candidates current next := by
  induction candidates generalizing why with
  | nil =>
    unfold climb at h
    split at h <;> cases h
  | cons candidate candidates ih =>
    unfold climb at h
    split at h
    next e hkey => exact (ih h).cons (not_signedBy_of_error hkey)
    next key hkey =>
      split at h
      next hver =>
        cases h
        exact ⟨[], candidates, rfl, ⟨key, hkey, hver⟩, List.forall_mem_nil _⟩
      next hver => exact (ih h).cons (by rw [signedBy_iff hkey, hver]; nofun)
      next hver => exact (ih h).cons (by rw [signedBy_iff hkey, hver]; nofun)

theorem climb_ok {candidates : List Certificate} {why : Option String}
    (h : climb x current candidates why = .ok next) :
    next ∈ candidates ∧ SignedBy x next current := by
  obtain ⟨before, after, rfl, hsigned, -⟩ := climb_ok_first h
  exact ⟨List.mem_append_right _ List.mem_cons_self, hsigned⟩

theorem climb_of_first {candidates : List Certificate} {why : Option String}
    (h : FirstOf x candidates current next) : climb x current candidates why = .ok next := by
  obtain ⟨before, after, rfl, ⟨key, hkey, hver⟩, hbefore⟩ := h
  induction before generalizing why with
  | nil => simp [climb, hkey, hver]
  | cons b before ih =>
    obtain ⟨hnot, hbefore⟩ := List.forall_mem_cons.mp hbefore
    rw [List.cons_append, climb]
    cases hb : verifyingKey x.toVerifier b with
    | error e => exact ih hbefore
    | ok bkey =>
      rw [signedBy_iff hb] at hnot
      cases hcheck : verifiedUnder x.toVerifier b bkey current with
      | verified => exact absurd hcheck hnot
      | notSignedByThisIssuer => simp only [hcheck]; exact ih hbefore
      | unverifiable e => simp only [hcheck]; exact ih hbefore

theorem climb_ne_verified {candidates : List Certificate} {why : Option String} :
    climb x current candidates why ≠ .error .verified := by
  induction candidates generalizing why with
  | nil =>
    unfold climb
    split <;> simp
  | cons candidate candidates ih =>
    unfold climb
    split
    next => exact ih
    next =>
      split
      next => simp
      next => exact ih
      next => exact ih

theorem walk_verified (hkey : verifyingKey x.toVerifier anchor = .ok anchorKey)
    (hcurrent : current.subject ∉ seen)
    (h : walk x signed anchor anchorKey n seen current = .verified) :
    ∃ path, Climb (Issued x) (fun c => c.issuer = anchor.subject) (Issued x anchor) current path ∧
      (∀ c ∈ path, c ∈ signed.chain ∧ c.subject ∉ seen) ∧
      ((current :: path).map Certificate.subject).Nodup ∧ path.length < n := by
  induction n generalizing seen current with
  | zero => cases h
  | succ n ih =>
    unfold walk at h
    split at h
    next hstop =>
      exact ⟨[], .arrived ⟨hstop.symm, anchorKey, hkey, h⟩, by simp, by simp, by simp⟩
    next hstop =>
      split at h
      next => cases h
      next =>
        split at h
        next check hcheck =>
          -- The candidates' findings are never `verified`.
          subst h
          exact absurd hcheck climb_ne_verified
        next next hnext =>
          obtain ⟨hmem, hsigned⟩ := climb_ok hnext
          obtain ⟨hchain, hname, hne⟩ := mem_issuerCandidates.mp hmem
          split at h
          next => cases h
          next hseen =>
            have hfresh : next.subject ∉ current.subject :: seen := by
              simp [hne, hseen]
            obtain ⟨path, hclimb, hpath, hnodup, hlen⟩ := ih hfresh h
            refine ⟨next :: path, .climbed hstop ⟨hname, hsigned⟩ hclimb, ?_, ?_, ?_⟩
            · intro c hc
              rcases List.mem_cons.mp hc with rfl | hc
              · exact ⟨hchain, hseen⟩
              · exact ⟨(hpath c hc).1, fun hs => (hpath c hc).2 (List.mem_cons_of_mem _ hs)⟩
            · rw [List.map_cons, List.nodup_cons]
              refine ⟨fun hc => ?_, hnodup⟩
              obtain ⟨c, hc, hsubject⟩ := List.mem_map.mp hc
              rcases List.mem_cons.mp hc with rfl | hc
              · exact hne hsubject
              · exact (hpath c hc).2 (by simp [hsubject])
            · simpa using hlen

theorem issuerCandidates_eq_singleton (hnodup : (signed.chain.map Certificate.subject).Nodup)
    (hmem : next ∈ issuerCandidates signed current) : issuerCandidates signed current = [next] := by
  have hnext := mem_issuerCandidates.mp hmem
  have hone : ∀ c, c ∈ issuerCandidates signed current ↔ c = next := by
    intro c
    refine ⟨fun hc => ?_, fun hc => hc ▸ hmem⟩
    have hc := mem_issuerCandidates.mp hc
    exact List.inj_on_of_nodup_map hnodup hc.1 hnext.1 (hc.2.1.trans hnext.2.1.symm)
  have hcandidates : (issuerCandidates signed current).Nodup := (hnodup.of_map _).filter _
  refine List.perm_singleton.mp ?_
  exact (List.perm_ext_iff_of_nodup hcandidates (List.nodup_singleton next)).mpr
    (by simpa using hone)

/-- The walk follows a straight path on which no name comes up twice. -/
theorem walk_of_straight (hkey : verifyingKey x.toVerifier anchor = .ok anchorKey)
    (hpath : Path (Issued x) (Issued x anchor) current path)
    (hstraight : Straight x signed anchor current path) (hseen : ∀ c ∈ path, c.subject ∉ seen)
    (hnames : ((current :: path).map Certificate.subject).Nodup) (hlen : path.length < n) :
    walk x signed anchor anchorKey n seen current = .verified := by
  induction hpath generalizing seen n with
  | arrived hc =>
    obtain ⟨n, rfl⟩ := Nat.exists_eq_succ_of_ne_zero (Nat.ne_of_gt hlen)
    simp [walk, hc.1, (signedBy_iff hkey).mp hc.2]
  | @climbed a c p ha _ ih =>
    obtain ⟨n, rfl⟩ := Nat.exists_eq_succ_of_ne_zero (Nat.ne_of_gt (Nat.zero_lt_of_lt hlen))
    obtain ⟨hstop, hfirst, hstraight⟩ := hstraight
    rw [List.map_cons, List.nodup_cons] at hnames
    have hsome : (issuerCandidates signed c).isEmpty = false := by
      obtain ⟨before, after, hcand, -⟩ := hfirst
      simp [hcand]
    have hrest : walk x signed anchor anchorKey n (c.subject :: seen) a = .verified := by
      refine ih hstraight (fun b hb => ?_) hnames.2 (by simpa using hlen)
      rw [List.mem_cons, not_or]
      refine ⟨fun heq => hnames.1 ?_, hseen b (List.mem_cons_of_mem _ hb)⟩
      exact heq ▸ List.mem_map_of_mem (List.mem_cons_of_mem _ hb)
    simp [walk, hstop, hsome, climb_of_first hfirst, hseen a List.mem_cons_self, hrest]

/-- Where every name belongs to one certificate, a climb is straight. -/
theorem straight_of_climb (hchain : (signed.chain.map Certificate.subject).Nodup)
    (hclimb : Climb (Issued x) (fun c => c.issuer = anchor.subject) (Issued x anchor) current path)
    (hmem : ∀ c ∈ path, c ∈ signed.chain)
    (hnames : ((current :: path).map Certificate.subject).Nodup) :
    Straight x signed anchor current path := by
  induction hclimb with
  | arrived _ => trivial
  | @climbed a c p hstop ha _ ih =>
    rw [List.map_cons, List.nodup_cons] at hnames
    have hne : a.subject ≠ c.subject := by
      rintro heq
      exact hnames.1 (by simp [heq])
    have hcand : issuerCandidates signed c = [a] :=
      issuerCandidates_eq_singleton hchain
        (mem_issuerCandidates.mpr ⟨hmem a List.mem_cons_self, ha.1, hne⟩)
    refine ⟨hstop, ⟨[], [], hcand, ha.2, List.forall_mem_nil _⟩, ih ?_ hnames.2⟩
    exact fun b hb => hmem b (List.mem_cons_of_mem _ hb)

theorem pathTo_verified (h : pathTo x signed anchorDer = .verified) :
    ∃ anchor path, x.certificateFromDer anchorDer = .ok anchor ∧
      (∀ c ∈ path, c ∈ signed.chain) ∧ Walkable x anchor signed.certificate path := by
  unfold pathTo at h
  split at h
  next => cases h
  next anchor hanchor =>
    split at h
    next => cases h
    next anchorKey hkey =>
      obtain ⟨path, hclimb, hmem, hnames, hlen⟩ := walk_verified hkey (by simp) h
      exact ⟨anchor, path, hanchor, fun c hc => (hmem c hc).1, hclimb, hnames, hlen⟩

theorem mem_issuerNamesOf {name : Bytes} :
    name ∈ issuerNamesOf signed ↔ ∃ c ∈ signed.chain, c.issuer.der = name := by
  simp [issuerNamesOf]

/-- An anchor a path verifies to is named as issuer by a certificate of the seal. -/
theorem named_of_pathTo_verified (hmem : signed.certificate ∈ signed.chain)
    (h : pathTo x signed anchorDer = .verified) :
    ∃ anchor, x.certificateFromDer anchorDer = .ok anchor ∧
      anchor.subject.der ∈ issuerNamesOf signed := by
  obtain ⟨anchor, path, hanchor, hpath, hwalk⟩ := pathTo_verified h
  obtain ⟨c, hc, hname, _⟩ := hwalk.climb.arrives
  refine ⟨anchor, hanchor, mem_issuerNamesOf.mpr ⟨c, ?_, by rw [hname]⟩⟩
  rcases List.mem_cons.mp hc with rfl | hc
  · exact hmem
  · exact hpath c hc

theorem pathTo_of_straight (hanchor : x.certificateFromDer anchorDer = .ok anchor)
    (hpath : Path (Issued x) (Issued x anchor) signed.certificate path)
    (hstraight : Straight x signed anchor signed.certificate path)
    (hnames : ((signed.certificate :: path).map Certificate.subject).Nodup)
    (hshort : path.length < maxPathLength) : pathTo x signed anchorDer = .verified := by
  obtain ⟨_, _, _, anchorKey, hkey, _⟩ := hpath.arrives
  simp only [pathTo, hanchor, hkey]
  exact walk_of_straight hkey hpath hstraight (by simp) hnames hshort

theorem pathTo_of_walkable (hanchor : x.certificateFromDer anchorDer = .ok anchor)
    (hchain : (signed.chain.map Certificate.subject).Nodup) (hmem : ∀ c ∈ path, c ∈ signed.chain)
    (h : Walkable x anchor signed.certificate path) : pathTo x signed anchorDer = .verified :=
  pathTo_of_straight hanchor h.climb.path (straight_of_climb hchain h.climb hmem h.names) h.names
    h.short

def signerInfoOf (signer : Certificate) : SignerInfo :=
  { version := 1
    sid := .issuerAndSerialNumber signer.issuer signer.serialNumber
    digestAlg := ⟨[2, 16, 840, 1, 101, 3, 4, 2, 1], none⟩
    signedAttrs := none
    signatureAlgorithm := signer.signatureAlgorithm
    signature := []
    unsignedAttrs := none }

def carrying (signer : Certificate) (path : List Certificate) : SignedData :=
  { econtentType := [1, 2, 840, 113549, 1, 7, 1]
    econtent := none
    certificates := some ((signer :: path).map .certificate)
    crls := none
    signerInfos := [signerInfoOf signer] }

def carried (signer : Certificate) (path : List Certificate) : Signed :=
  ⟨carrying signer path, signerInfoOf signer, signer, signer :: path, none, []⟩

theorem parse_carrying (signer : Certificate) (path : List Certificate) :
    parse (carrying signer path) = .ok (carried signer path) := by
  have hsigner : signerCertificateOf (signerInfoOf signer) (signer :: path) = some signer := by
    simp [signerCertificateOf, signerInfoOf]
  have hparse := @parse_of_signer (carrying signer path) _ _ _ rfl rfl
    (by rw [filterMap_certificate]; exact hsigner)
  rw [hparse, filterMap_certificate]
  rfl

/-- Whatever certificates at hand a seal carries, a path verified for its signer is authorised
by the anchor, exactly when no path the walk can make through them has one that is no CA
certificate sign another. -/
theorem path_sound_iff_issuers_are_cas (x : Libraries Key) (signer : Certificate)
    (anchorDer : Bytes) (atHand : Certificate → Prop) :
    (∀ sd signed, parse sd = .ok signed → signed.certificate = signer →
        (∀ c ∈ signed.chain, atHand c) → pathTo x signed anchorDer = .verified →
        Authorised x signed anchorDer) ↔
      ∀ anchor path, x.certificateFromDer anchorDer = .ok anchor →
        (∀ c ∈ signer :: path, atHand c) → Walkable x anchor signer path →
        ∀ c ∈ path ++ [anchor], isCa c := by
  constructor
  · intro h anchor path hanchor hat hwalk
    have hmem : ∀ c ∈ path, c ∈ signer :: path := fun c hc => List.mem_cons_of_mem _ hc
    have hver : pathTo x (carried signer path) anchorDer = .verified :=
      pathTo_of_walkable hanchor hwalk.names hmem hwalk
    obtain ⟨anchor', path', hanchor', hmem', hpath', hca⟩ :=
      h _ _ (parse_carrying signer path) rfl hat hver
    cases hanchor.symm.trans hanchor'
    -- Among these certificates each name is one certificate's, so the authorised path can only
    -- go the way the walk went.
    have hclimb : Climb (fun a c => a ∈ signer :: path ∧ Issued x a c)
        (fun c => c.issuer = anchor.subject) (Issued x anchor) signer path :=
      hwalk.climb.imp fun a _ ha hi => ⟨hmem a ha, hi⟩
    have hsame : path <+: path' := by
      refine hclimb.isPrefix (fun c hc => hc.1.symm) ?_
        (hpath'.imp fun a _ ha hi => ⟨hmem' a ha, hi⟩)
      rintro a b c ⟨ha, hac⟩ ⟨hb, hbc⟩
      exact List.inj_on_of_nodup_map hwalk.names ha hb (hac.1.trans hbc.1.symm)
    intro c hc
    refine hca c ?_
    rcases List.mem_append.mp hc with hc | hc
    · exact List.mem_append_left _ (hsame.subset hc)
    · exact List.mem_append_right _ hc
  · intro h sd signed hparse hsigner hat hver
    subst hsigner
    obtain ⟨anchor, path, hanchor, hmem, hwalk⟩ := pathTo_verified hver
    refine ⟨anchor, path, hanchor, hmem, hwalk.climb.path, h anchor path hanchor ?_ hwalk⟩
    intro c hc
    rcases List.mem_cons.mp hc with rfl | hc
    · exact hat _ (certificate_mem_chain hparse)
    · exact hat c (hmem c hc)

end Authority

section Minted

def plainLibraries (listed : List (Bytes × Certificate)) : Libraries Bytes :=
  { keyOf := fun spki => .ok spki.subjectPublicKey
    verifyCertificate := fun key c =>
      if c.signature = key then .ok () else .error (.verification "signature error")
    verifyCrl := fun key list =>
      if list.signature = key then .ok () else .error (.verification "signature error")
    certificateFromDer := fun der =>
      match listed.lookup der with
      | some c => .ok c
      | none => .error "not a certificate"
    certificateToDer := fun c => ((listed.find? fun l => l.2 = c).map Prod.fst).getD []
    renderName := fun _ => "CN=sample" }

def ecPublicKey : AlgorithmIdentifier := ⟨[1, 2, 840, 10045, 2, 1], none⟩

def ecdsaWithSha256 : AlgorithmIdentifier := ⟨[1, 2, 840, 10045, 4, 3, 2], none⟩

def caConstraints : Extension := ⟨idCeBasicConstraints, true, [0x30, 3, 0x01, 0x01, 0xFF]⟩

def plainCertificate (subject issuer : UInt8) (key signature : Bytes)
    (extensions : Option (List Extension)) : Certificate :=
  { serialNumber := [subject]
    issuer := ⟨[issuer]⟩
    notBefore := ⟨1735689600, by decide⟩
    notAfter := ⟨1893456000, by decide⟩
    subject := ⟨[subject]⟩
    subjectPublicKeyInfo := ⟨ecPublicKey, key⟩
    extensions
    signatureAlgorithm := ecdsaWithSha256
    signature }

def listedCa : Certificate := plainCertificate 1 1 [10] [10] (some [caConstraints])

def endEntity : Certificate := plainCertificate 2 1 [20] [10] none

def minted : Certificate := plainCertificate 3 2 [30] [20] none

/-- An end entity of a listed CA signs a certificate of its own, which then has a verified path
to that CA. -/
theorem end_entity_mints_a_verified_certificate :
    parse (carrying minted [endEntity]) = .ok (carried minted [endEntity]) ∧
      pathTo (plainLibraries [([1], listedCa)]) (carried minted [endEntity]) [1] = .verified ∧
      ¬ Authorised (plainLibraries [([1], listedCa)]) (carried minted [endEntity]) [1] := by
  refine ⟨by decide, by decide, ?_⟩
  rintro ⟨anchor, path, hanchor, hmem, hpath, hca⟩
  have hlisted : anchor = listedCa := by cases hanchor; rfl
  cases hpath with
  | arrived hissued =>
    have hname := hissued.1
    rw [hlisted] at hname
    exact absurd hname (by decide)
  | @climbed a _ p hissued _ =>
    have hnone : ∀ c ∈ (carried minted [endEntity]).chain, isCa c = false := by decide
    have hfalse := hnone a (hmem a List.mem_cons_self)
    have htrue := hca a (by simp)
    rw [hfalse] at htrue
    cases htrue

end Minted

end SealPaths
