import DppEngine.SealFreshness

/-! Renewing a seal's archive timestamp: what an authority is asked, what its answer is put
through, and what comes out.

The authority is any function from imprints to answers. -/
namespace SealRenewal

open ArchiveTimestamps CmsEncodings CmsSeals FallibleSteps OrderedSets PrefixCodes SealFreshness
open QualifiedIssuers (TimestampToken TimestampStanding)

section Attaching

variable {Key : Type} (x : Readers Key)

/-- What to ask an authority to stamp, and what the renewal has to beat. -/
structure RenewalRequest where
  imprint : Bytes
  index : AtsHashIndexV3
  previousExpires : Instant
  previousGenTime : Instant

def notRenewable (why : String) : SealError := "this seal cannot be renewed: " ++ why

def prepareArchiveRenewal (sealDer : Bytes) : Except SealError RenewalRequest := do
  let signed ← parseDer x sealDer
  if signed.signer.digestAlg.oid ≠ idSha256 then
    throw (notRenewable ("it was signed under a digest other than SHA-256, and a renewal's " ++
      "imprint is built under the signature's own digest"))
  else
    match newestOf (archivalTokens x signed) with
    | none =>
      throw (notRenewable ("it carries no archive timestamp that verifies as a timestamp of " ++
        "this seal, so there is no protection to carry forward"))
    | some newest =>
      let enclosing := Enclosing.of signed.data
      let index := hashIndex x.toEncodings enclosing signed.signer
      match signedDataHash x.toEncodings signed.signer index.hashIndAlgorithm with
      | none => throw (notRenewable "its signed-data hash cannot be recovered")
      | some digest =>
        let imprint ← imprint x.toEncodings enclosing signed.signer digest index
        if imprint.length ≠ 32 then
          throw (notRenewable "the imprint it asks for is not a SHA-256 value")
        else pure ⟨imprint, index, newest.expires, newest.stamp.genTime⟩

/-- A renewed seal, with the archive timestamp that renewed it. -/
structure Attached where
  sealDer : Bytes
  stamp : TimestampToken
  expires : Instant

def unusable (what why : String) : SealError :=
  "cannot attach the archive timestamp: " ++ what ++ ": " ++ why

def attributeKey (a : Attribute) : List ℕ := octetOrder (x.attributeDer a)

def insertUnsigned (a : Attribute) (signer : SignerInfo) : Option (List Attribute) :=
  insertByKey (attributeKey x) a (signer.unsignedAttrs.getD [])

def indexAttribute (index : AtsHashIndexV3) : Attribute := ⟨idAaAtsHashIndexV3, [x.index index]⟩

/-- The token, carrying the index the authority was not asked to stamp. -/
def withIndex (index : AtsHashIndexV3) (tokenDer : Bytes) : Except SealError Bytes := do
  let info ← (x.contentInfoFromDer tokenDer).mapError (unusable "the token is not CMS")
  let sd ← (x.signedDataFromDer info.content).mapError (unusable "the token is not SignedData")
  match sd.signerInfos with
  | [signer] =>
    match insertUnsigned x (indexAttribute x index) signer with
    | none => throw (unusable "the hash index cannot be attached" x.setDuplicate)
    | some attrs =>
      pure (x.contentInfo ⟨info.contentType,
        x.signedData { sd with signerInfos := [{ signer with unsignedAttrs := some attrs }] }⟩)
  | _ => throw (unusable "the token has" "other than one signer")

/-- The token is checked against the seal as it was stamped, before the seal is changed. -/
def attachArchiveTimestamp (sealDer : Bytes) (request : RenewalRequest) (tokenDer : Bytes) :
    Except SealError Attached := do
  let token ← withIndex x request.index tokenDer
  let signed ← parseDer x sealDer
  match archivalToken x token (.of signed.data) signed.signer with
  | none =>
    throw ("the authority's token does not verify as an archive timestamp of this seal — its " ++
      "signature, its authority's validity window, or its imprint did not hold")
  | some verified =>
    let info ← (x.contentInfoFromDer sealDer).mapError (unusable "the seal is not CMS")
    let sd ← (x.signedDataFromDer info.content).mapError (unusable "the seal is not SignedData")
    match insertUnsigned x ⟨idAaEtsArchiveTimestampV3, [token]⟩ signed.signer with
    | none => throw (unusable "the archive timestamp cannot be attached" x.setDuplicate)
    | some attrs =>
      pure ⟨x.contentInfo ⟨info.contentType, x.signedData
          { sd with signerInfos := [{ signed.signer with unsignedAttrs := some attrs }] }⟩,
        verified.stamp, verified.expires⟩

end Attaching

section Renewing

variable {Key Status : Type} (x : Readers Key)

/-- How far an authority's clock may be from the node's: ten minutes. -/
def maxStampSkew : Int := 600000000000

inductive RenewalError (Status : Type) where
  | notRenewable (why : String)
  | source (e : SealError)
  | unusable (why : String)
  | noGain (current offered : Instant)
  | authorityRefused (standing : TimestampStanding Status)
  deriving DecidableEq

structure Renewed where
  sealDer : Bytes
  previousExpires : Instant
  expires : Instant
  deriving DecidableEq

def readSignature (sealDer : Bytes) : Except SealError (Option Bytes × Bool) := do
  let digest ← coveredDigestOf x sealDer
  let verifies ← verifyAgainstEmbeddedCertificate x sealDer
  pure (digest, verifies)

def signatureUntouched (original renewed : Bytes) : Except (RenewalError Status) Unit :=
  match readSignature x original, readSignature x renewed with
  | .ok before, .ok after =>
    if before = after then .ok ()
    else
      .error (.unusable ("the renewed seal's signature does not read as the original's did: it " ++
        (if before.1 = after.1 then "covers" else "no longer covers") ++ " the same digest and " ++
        (match before.2, after.2 with
          | true, false => "no longer verifies"
          | false, true => "verifies only now"
          | _, _ => "verifies as before")))
  | .error e, _ | .ok _, .error e =>
    .error (.unusable
      ("the renewed seal's signature cannot be compared with the original's: " ++ e))

def renewArchiveTimestamp (sealDer : Bytes) (stamp : Bytes → Except SealError Bytes)
    (now : Instant) (accept : TimestampToken → Except (TimestampStanding Status) Unit) :
    Except (RenewalError Status) Renewed := do
  let request ← (prepareArchiveRenewal x sealDer).mapError .notRenewable
  let token ← (stamp request.imprint).mapError .source
  let attached ← (attachArchiveTimestamp x sealDer request token).mapError .unusable
  let skew : Int := (attached.stamp.genTime - now).natAbs
  if skew > maxStampSkew then
    throw (.unusable ("it says it was made " ++ x.renderTime attached.stamp.genTime ++
      ", which is " ++ toString (skew / 60000000000) ++ " minutes from this node's clock"))
  else if attached.stamp.genTime < request.previousGenTime then
    throw (.unusable ("it says it stamped at " ++ x.renderTime attached.stamp.genTime ++
      ", before the archive timestamp it renews (" ++ x.renderTime request.previousGenTime ++
      ") — the two clocks disagree, and a renewal that goes backwards in time is not a renewal"))
  else if attached.expires ≤ request.previousExpires then
    throw (.noGain request.previousExpires attached.expires)
  else
    (accept attached.stamp).mapError .authorityRefused
    -- read back with the reader that decides whether a stored seal is due
    let freshness := archivalFreshness x attached.sealDer now
    if freshness.toOption ≠ some (.current attached.expires) then
      throw (.unusable ("the renewed seal does not read back as renewed: " ++
        x.debugFreshness freshness))
    else
      signatureUntouched x sealDer attached.sealDer
      pure ⟨attached.sealDer, request.previousExpires, attached.expires⟩

/-- One attempt: the authority, the node's clock and the node's policy. -/
structure Attempt (Status : Type) where
  stamp : Bytes → Except SealError Bytes
  now : Instant
  accept : TimestampToken → Except (TimestampStanding Status) Unit

def Attempt.renew (attempt : Attempt Status) (sealDer : Bytes) :
    Except (RenewalError Status) Renewed :=
  renewArchiveTimestamp x sealDer attempt.stamp attempt.now attempt.accept

/-- The seal after one attempt after another: a failed one returns no seal, and the old one stays. -/
def renewAll (sealDer : Bytes) (attempts : List (Attempt Status)) : Bytes :=
  attempts.foldl (fun held attempt =>
    match attempt.renew x held with
    | .ok renewed => renewed.sealDer
    | .error _ => held) sealDer

end Renewing

section Steps

variable {Key Status : Type} {x : Readers Key} {sealDer tokenDer : Bytes}

theorem prepareArchiveRenewal_ok {request : RenewalRequest}
    (h : prepareArchiveRenewal x sealDer = .ok request) :
    ∃ signed newest, parseDer x sealDer = .ok signed ∧
      newestOf (archivalTokens x signed) = some newest ∧
      request.index = hashIndex x.toEncodings (.of signed.data) signed.signer ∧
      request.previousExpires = newest.expires ∧
      request.previousGenTime = newest.stamp.genTime := by
  obtain ⟨signed, hparse, h⟩ := bind_ok h
  split_ifs at h
  split at h
  next => cases h
  next newest hnewest =>
    dsimp only at h
    split at h
    next => cases h
    next digest _ =>
      obtain ⟨imprint, _, h⟩ := bind_ok h
      split_ifs at h
      cases h
      exact ⟨signed, newest, hparse, hnewest, rfl, rfl, rfl⟩

theorem withIndex_ok {index : AtsHashIndexV3} {token : Bytes}
    (h : withIndex x index tokenDer = .ok token) :
    ∃ info sd signer attrs, x.contentInfoFromDer tokenDer = .ok info ∧
      x.signedDataFromDer info.content = .ok sd ∧ sd.signerInfos = [signer] ∧
      insertUnsigned x (indexAttribute x index) signer = some attrs ∧
      token = x.contentInfo ⟨info.contentType,
        x.signedData { sd with signerInfos := [{ signer with unsignedAttrs := some attrs }] }⟩ := by
  obtain ⟨info, hinfo, h⟩ := bind_ok h
  obtain ⟨sd, hsd, h⟩ := bind_ok h
  split at h
  next signer hsigner =>
    split at h
    next => cases h
    next attrs hattrs =>
      cases h
      exact ⟨info, sd, signer, attrs, mapError_ok hinfo, mapError_ok hsd, hsigner, hattrs, rfl⟩
  next => cases h

theorem attachArchiveTimestamp_ok {request : RenewalRequest} {attached : Attached}
    (h : attachArchiveTimestamp x sealDer request tokenDer = .ok attached) :
    ∃ token signed verified info sd attrs, withIndex x request.index tokenDer = .ok token ∧
      parseDer x sealDer = .ok signed ∧
      archivalToken x token (.of signed.data) signed.signer = some verified ∧
      x.contentInfoFromDer sealDer = .ok info ∧ x.signedDataFromDer info.content = .ok sd ∧
      insertUnsigned x ⟨idAaEtsArchiveTimestampV3, [token]⟩ signed.signer = some attrs ∧
      attached = ⟨x.contentInfo ⟨info.contentType, x.signedData
        { sd with signerInfos := [{ signed.signer with unsignedAttrs := some attrs }] }⟩,
        verified.stamp, verified.expires⟩ := by
  obtain ⟨token, htoken, h⟩ := bind_ok h
  obtain ⟨signed, hparse, h⟩ := bind_ok h
  split at h
  next => cases h
  next verified hverified =>
    obtain ⟨info, hinfo, h⟩ := bind_ok h
    obtain ⟨sd, hsd, h⟩ := bind_ok h
    split at h
    next => cases h
    next attrs hattrs =>
      cases h
      exact ⟨token, signed, verified, info, sd, attrs, htoken, hparse, hverified,
        mapError_ok hinfo, mapError_ok hsd, hattrs, rfl⟩

theorem renewArchiveTimestamp_ok {stamp : Bytes → Except SealError Bytes} {now : Instant}
    {accept : TimestampToken → Except (TimestampStanding Status) Unit} {renewed : Renewed}
    (h : renewArchiveTimestamp x sealDer stamp now accept = .ok renewed) :
    ∃ request tokenDer attached, prepareArchiveRenewal x sealDer = .ok request ∧
      stamp request.imprint = .ok tokenDer ∧
      attachArchiveTimestamp x sealDer request tokenDer = .ok attached ∧
      request.previousGenTime ≤ attached.stamp.genTime ∧
      request.previousExpires < attached.expires ∧
      archivalFreshness x attached.sealDer now = .ok (.current attached.expires) ∧
      renewed = ⟨attached.sealDer, request.previousExpires, attached.expires⟩ := by
  obtain ⟨request, hrequest, h⟩ := bind_ok h
  obtain ⟨tokenDer, htoken, h⟩ := bind_ok h
  obtain ⟨attached, hattached, h⟩ := bind_ok h
  dsimp only at h
  split at h
  next => cases h
  split at h
  next => cases h
  next htime =>
  split at h
  next => cases h
  next hgain =>
  obtain ⟨_, _, h⟩ := bind_ok h
  split at h
  next => cases h
  next hfresh =>
  obtain ⟨_, _, h⟩ := bind_ok h
  cases h
  have hcurrent := toOption_eq_some.mp (not_not.mp hfresh)
  exact ⟨request, tokenDer, attached, mapError_ok hrequest, mapError_ok htoken,
    mapError_ok hattached, not_lt.mp htime, not_le.mp hgain, hcurrent, rfl⟩

end Steps

section Keeping

variable {Key : Type} (x : Readers Key)

/-- Nothing of a seal is lost: what is new is among its unsigned attributes. -/
structure Kept (signed signed' : Signed) : Prop where
  digest : coveredDigest x.toEncodings signed'.signer = coveredDigest x.toEncodings signed.signer
  signer : { signed'.signer with unsignedAttrs := signed.signer.unsignedAttrs } = signed.signer
  data : { signed'.data with signerInfos := signed.data.signerInfos } = signed.data
  attributes : (signed.signer.unsignedAttrs.getD []).Sublist (signed'.signer.unsignedAttrs.getD [])
  stamps : ∀ value t, archivalToken x value (.of signed.data) signed.signer = some t →
    archivalToken x value (.of signed'.data) signed'.signer = some t

variable {x}

theorem Kept.refl (signed : Signed) : Kept x signed signed :=
  ⟨rfl, rfl, rfl, .refl _, fun _ _ h => h⟩

theorem Kept.trans {a b c : Signed} (hab : Kept x a b) (hbc : Kept x b c) : Kept x a c where
  digest := hbc.digest.trans hab.digest
  signer := by
    rw [← hab.signer, ← hbc.signer]
  data := by
    rw [← hab.data, ← hbc.data]
  attributes := hab.attributes.trans hbc.attributes
  stamps := by
    intro value t h
    exact hbc.stamps value t (hab.stamps value t h)

theorem attributeValues_subset {s s' : SignerInfo}
    (h : (s.unsignedAttrs.getD []).Sublist (s'.unsignedAttrs.getD [])) :
    attributeValues s ⊆ attributeValues s' := by
  intro v hv
  obtain ⟨a, ha, hva⟩ := List.mem_flatMap.mp hv
  exact List.mem_flatMap.mpr ⟨a, h.subset ha, hva⟩

theorem kept_withUnsigned {signed : Signed} {attrs : List Attribute}
    (h : (signed.signer.unsignedAttrs.getD []).Sublist attrs) :
    Kept x signed (signed.withUnsigned (some attrs)) where
  digest := rfl
  signer := rfl
  data := rfl
  attributes := h
  stamps := by
    intro value t ht
    exact archivalToken_of_more ht (attributeValues_subset h)

/-- A message that was read keeps its sets in order with one more attribute in its place. -/
theorem canonical_inserted {b : Bytes} {sd : SignedData} {signer : SignerInfo} {a : Attribute}
    {attrs : List Attribute} (hsd : x.signedDataFromDer b = .ok sd)
    (hsigner : sd.signerInfos = [signer]) (hattrs : insertUnsigned x a signer = some attrs)
    (ha : Ordered octetOrder a.values) :
    Canonical x.toEncodings x.attributeDer x.signerInfoDer
      { sd with signerInfos := [{ signer with unsignedAttrs := some attrs }] } := by
  obtain ⟨hcertificates, hcrls, _, hsigners⟩ := x.signedData_canonical hsd
  obtain ⟨hsigned, hunsigned⟩ := hsigners signer (hsigner ▸ List.mem_singleton_self _)
  refine ⟨hcertificates, hcrls, List.pairwise_singleton _ _, ?_⟩
  intro s hs
  cases List.mem_singleton.mp hs
  refine ⟨hsigned, insertByKey_ordered hunsigned.1 hattrs, ?_⟩
  intro b hb
  rcases List.mem_cons.mp ((insertByKey_perm hattrs).mem_iff.mp hb) with rfl | hb
  · exact ha
  · exact hunsigned.2 b hb

/-- Attaching reads back: the seal before, and the same with the timestamp among its attributes. -/
theorem attached_reads_back {sealDer tokenDer : Bytes} {request : RenewalRequest}
    {attached : Attached} (h : attachArchiveTimestamp x sealDer request tokenDer = .ok attached) :
    ∃ token signed verified attrs, withIndex x request.index tokenDer = .ok token ∧
      parseDer x sealDer = .ok signed ∧
      archivalToken x token (.of signed.data) signed.signer = some verified ∧
      insertUnsigned x ⟨idAaEtsArchiveTimestampV3, [token]⟩ signed.signer = some attrs ∧
      parseDer x attached.sealDer = .ok (signed.withUnsigned (some attrs)) := by
  obtain ⟨token, signed, verified, info, sd, attrs, htoken, hparse, hverified, hinfo, hsd, hattrs,
    rfl⟩ := attachArchiveTimestamp_ok h
  refine ⟨token, signed, verified, attrs, htoken, hparse, hverified, hattrs, ?_⟩
  obtain ⟨info', sd', hinfo', hsd', hparsed⟩ := parseDer_ok x hparse
  cases hinfo.symm.trans hinfo'
  cases hsd.symm.trans hsd'
  obtain ⟨_, hsigner, _⟩ := parse_ok hparsed
  exact parseDer_written
    (canonical_inserted hsd hsigner hattrs (List.pairwise_singleton _ _))
    (parse_withUnsigned hparsed _)

/-- Which index a token is read with, once it was given one: that, unless it brought one along
that comes before it. -/
theorem tokenIndex_withIndex {index : AtsHashIndexV3} {tokenDer token : Bytes} {t : Signed}
    (h : withIndex x index tokenDer = .ok token) (ht : parseDer x token = .ok t) :
    ∃ info sd signer, x.contentInfoFromDer tokenDer = .ok info ∧
      x.signedDataFromDer info.content = .ok sd ∧ sd.signerInfos = [signer] ∧
      ((tokenIndex x.toEncodings t = some index ∧
          ∀ own, (signer.unsignedAttrs.getD []).find? (fun a => a.oid = idAaAtsHashIndexV3) =
            some own → ¬ attributeKey x own < attributeKey x (indexAttribute x index)) ∨
        ∃ own, (signer.unsignedAttrs.getD []).find? (fun a => a.oid = idAaAtsHashIndexV3) =
            some own ∧ attributeKey x own < attributeKey x (indexAttribute x index) ∧
          tokenIndex x.toEncodings t = own.values.head?.bind x.indexFromDer) := by
  obtain ⟨info, sd, signer, attrs, hinfo, hsd, hsigner, hattrs, rfl⟩ := withIndex_ok h
  refine ⟨info, sd, signer, hinfo, hsd, hsigner, ?_⟩
  have hcanonical := canonical_inserted hsd hsigner hattrs (List.pairwise_singleton _ _)
  obtain ⟨info', sd', hinfo', hsd', hparsed⟩ := parseDer_ok x ht
  rw [x.contentInfo_reads_back] at hinfo'
  cases hinfo'
  rw [x.signedData_reads_back hcanonical] at hsd'
  cases hsd'
  obtain ⟨_, hread, _⟩ := parse_ok hparsed
  have htsigner : t.signer = { signer with unsignedAttrs := some attrs } :=
    (List.cons.inj hread).1.symm
  have hfirst : tokenIndex x.toEncodings t =
      (attrs.find? fun a => a.oid = idAaAtsHashIndexV3).bind fun a =>
        a.values.head?.bind x.indexFromDer := by
    unfold tokenIndex
    rw [htsigner]
    rfl
  have hordered : Ordered (attributeKey x) (signer.unsignedAttrs.getD []) :=
    ((x.signedData_canonical hsd).2.2.2 signer (hsigner ▸ List.mem_singleton_self _)).2.1
  rcases @find?_insertByKey _ _ _ _ _ _ _ (fun a : Attribute => a.oid = idAaAtsHashIndexV3)
    hordered (decide_eq_true rfl) hattrs with ⟨hfound, hbefore⟩ | ⟨own, hown, hless, hfound⟩
  · left
    refine ⟨?_, hbefore⟩
    rw [hfirst, hfound]
    exact x.index_reads_back index
  · right
    refine ⟨own, hown, hless, ?_⟩
    rw [hfirst, hfound]
    rfl

end Keeping

section Extending

variable {Key Status : Type} (x : Readers Key)

def archiveValues (signer : SignerInfo) : List (Oid × Bytes) :=
  (attributeValues signer).filter fun v =>
    v.1 = idAaEtsArchiveTimestampV3 || v.1 = idAaEtsArchiveTimestampV2

def Covers (index : AtsHashIndexV3) (signer : SignerInfo) : Prop :=
  ∀ v ∈ archiveValues signer, x.sha256 (x.oid v.1 ++ v.2) ∈ index.unsignedAttrValuesHashIndex

/-- One archive timestamp more, over those before it, that lasts longer; nothing else is new. -/
def Extends (before after : Bytes) : Prop :=
  ∃ signed signed' token t index, parseDer x before = .ok signed ∧
    parseDer x after = .ok signed' ∧ Kept x signed signed' ∧
    (signed'.signer.unsignedAttrs.getD []).Perm
      (⟨idAaEtsArchiveTimestampV3, [token]⟩ :: signed.signer.unsignedAttrs.getD []) ∧
    archivalToken x token (.of signed'.data) signed'.signer = some t ∧
    tokenIndex x.toEncodings t.stamp.token = some index ∧ Covers x index signed.signer ∧
    ∀ now, ∃ previous later, expiryReported x before now = some previous ∧
      expiryReported x after now = some later ∧ previous < later

def answerTo (sealDer : Bytes) (stamp : Bytes → Except SealError Bytes) : Option SignedData :=
  (prepareArchiveRenewal x sealDer).toOption.bind fun request =>
    (stamp request.imprint).toOption.bind fun tokenDer =>
      (x.contentInfoFromDer tokenDer).toOption.bind fun info =>
        (x.signedDataFromDer info.content).toOption

/-- An index the answer brings along, and that comes before the one it is given, covers every
archive timestamp the seal carries. -/
def OwnIndexCovers (sealDer : Bytes) (stamp : Bytes → Except SealError Bytes) : Prop :=
  ∀ signed answer signer own index, parseDer x sealDer = .ok signed →
    answerTo x sealDer stamp = some answer → signer ∈ answer.signerInfos →
    (signer.unsignedAttrs.getD []).find? (fun a => a.oid = idAaAtsHashIndexV3) = some own →
    attributeKey x own <
      attributeKey x (indexAttribute x (hashIndex x.toEncodings (.of signed.data) signed.signer)) →
    own.values.head?.bind x.indexFromDer = some index → Covers x index signed.signer

end Extending

section Runs

variable {Key Status : Type} {x : Readers Key} {sealDer : Bytes} {attempt : Attempt Status}
  {renewed : Renewed}

theorem renew_ok (h : attempt.renew x sealDer = .ok renewed) :
    ∃ signed request tokenDer token t attrs, parseDer x sealDer = .ok signed ∧
      prepareArchiveRenewal x sealDer = .ok request ∧
      attempt.stamp request.imprint = .ok tokenDer ∧
      withIndex x (hashIndex x.toEncodings (.of signed.data) signed.signer) tokenDer = .ok token ∧
      archivalToken x token (.of signed.data) signed.signer = some t ∧
      insertUnsigned x ⟨idAaEtsArchiveTimestampV3, [token]⟩ signed.signer = some attrs ∧
      parseDer x renewed.sealDer = .ok (signed.withUnsigned (some attrs)) := by
  obtain ⟨request, tokenDer, attached, hrequest, hstamp, hattached, _, _, _, rfl⟩ :=
    renewArchiveTimestamp_ok h
  obtain ⟨signed, _, hparse, _, hindex, _⟩ := prepareArchiveRenewal_ok hrequest
  obtain ⟨token, signed', t, attrs, htoken, hparse', ht, hattrs, hafter⟩ :=
    attached_reads_back hattached
  cases hparse.symm.trans hparse'
  rw [hindex] at htoken
  exact ⟨signed, request, tokenDer, token, t, attrs, hparse, hrequest, hstamp, htoken, ht, hattrs,
    hafter⟩

theorem renew_kept {signed : Signed} (hparse : parseDer x sealDer = .ok signed)
    (h : attempt.renew x sealDer = .ok renewed) :
    ∃ signed', parseDer x renewed.sealDer = .ok signed' ∧ Kept x signed signed' := by
  obtain ⟨signed', _, _, token, t, attrs, hread, _, _, _, _, hattrs, hafter⟩ := renew_ok h
  cases hparse.symm.trans hread
  exact ⟨signed.withUnsigned (some attrs), hafter, kept_withUnsigned (insertByKey_sublist hattrs)⟩

/-- The end that is reported moves on, whenever it is asked for. -/
theorem renew_expires_later (h : attempt.renew x sealDer = .ok renewed) (now : Instant) :
    ∃ previous later, expiryReported x sealDer now = some previous ∧
      expiryReported x renewed.sealDer now = some later ∧ previous < later := by
  obtain ⟨_, _, _, _, _, _, hparse, _, _, _, _, _, hafter⟩ := renew_ok h
  obtain ⟨request, _, attached, hrequest, _, _, _, hgain, hfresh, rfl⟩ :=
    renewArchiveTimestamp_ok h
  obtain ⟨signed, newest, hread, hnewest, _, hexpires, _⟩ := prepareArchiveRenewal_ok hrequest
  refine ⟨request.previousExpires, attached.expires, ?_, ?_, hgain⟩
  · rw [expiryReported_eq hread, hnewest, hexpires]
    rfl
  · rw [expiryReported_eq hafter, ← expiryReported_eq hafter attempt.now]
    unfold expiryReported
    rw [hfresh]
    rfl

theorem hashIndex_covers (e : Enclosing) (signer : SignerInfo) :
    Covers x (hashIndex x.toEncodings e signer) signer := by
  intro v hv
  exact List.mem_map.mpr ⟨v, (List.mem_filter.mp hv).1, rfl⟩

theorem answerTo_eq {stamp : Bytes → Except SealError Bytes} {request : RenewalRequest}
    {tokenDer : Bytes} {info : ContentInfo} {sd : SignedData}
    (hrequest : prepareArchiveRenewal x sealDer = .ok request)
    (hstamp : stamp request.imprint = .ok tokenDer)
    (hinfo : x.contentInfoFromDer tokenDer = .ok info)
    (hsd : x.signedDataFromDer info.content = .ok sd) : answerTo x sealDer stamp = some sd := by
  unfold answerTo
  rw [hrequest]
  show (stamp request.imprint).toOption.bind _ = some sd
  rw [hstamp]
  show (x.contentInfoFromDer tokenDer).toOption.bind _ = some sd
  rw [hinfo]
  show (x.signedDataFromDer info.content).toOption = some sd
  rw [hsd]
  rfl

/-- The new archive timestamp covers those before it, unless its authority had it read with an
index of its own that does not. -/
theorem renew_extends_iff (h : attempt.renew x sealDer = .ok renewed) :
    Extends x sealDer renewed.sealDer ↔ OwnIndexCovers x sealDer attempt.stamp := by
  obtain ⟨signed, request, tokenDer, token, t, attrs, hparse, hrequest, hstamp, htoken, ht, hattrs,
    hafter⟩ := renew_ok h
  have hkept : Kept x signed (signed.withUnsigned (some attrs)) :=
    kept_withUnsigned (insertByKey_sublist hattrs)
  have hstill := hkept.stamps token t ht
  obtain ⟨info, sd, signer, hinfo, hsd, hsigner, hread⟩ :=
    tokenIndex_withIndex htoken (archivalToken_eq_some.mp ht).1
  have hanswer := answerTo_eq hrequest hstamp hinfo hsd
  constructor
  · rintro ⟨signed₁, signed₂, token', t', index, hparse', hafter', _, hperm, ht', hindex, hcovers,
      _⟩
    cases hparse.symm.trans hparse'
    cases hafter.symm.trans hafter'
    -- the attribute that was added is the one the renewal added
    have hsame : token' = token := by
      simpa using perm_cons_inj (hperm.symm.trans (insertByKey_perm hattrs))
    subst hsame
    cases hstill.symm.trans ht'
    intro signed₃ answer signer' own index' hparse₃ hanswer' hmem hown hless hdecoded
    cases hparse.symm.trans hparse₃
    cases hanswer.symm.trans hanswer'
    rw [hsigner] at hmem
    cases List.mem_singleton.mp hmem
    rcases hread with ⟨_, hbefore⟩ | ⟨own', hown', _, hfirst⟩
    · exact absurd hless (hbefore own hown)
    · cases hown.symm.trans hown'
      cases (hfirst.trans hdecoded).symm.trans hindex
      exact hcovers
  · intro hown
    obtain ⟨index, hindex, hcovers⟩ :
        ∃ index, tokenIndex x.toEncodings t.stamp.token = some index ∧
          Covers x index signed.signer := by
      rcases hread with ⟨hindex, _⟩ | ⟨own, hfound, hless, hfirst⟩
      · exact ⟨_, hindex, hashIndex_covers _ _⟩
      · obtain ⟨index, _, _, _, hindex, _⟩ := archives_ok (archivalToken_eq_some.mp ht).2.2.1
        refine ⟨index, hindex, ?_⟩
        exact hown signed sd signer own index hparse hanswer (hsigner ▸ List.mem_singleton_self _)
          hfound hless (hfirst.symm.trans hindex)
    exact ⟨signed, signed.withUnsigned (some attrs), token, t, index, hparse, hafter, hkept,
      insertByKey_perm hattrs, hstill, hindex, hcovers, renew_expires_later h⟩

theorem renewAll_append (sealDer : Bytes) (earlier later : List (Attempt Status)) :
    renewAll x sealDer (earlier ++ later) = renewAll x (renewAll x sealDer earlier) later :=
  List.foldl_append

theorem renewAll_kept {signed : Signed} (hparse : parseDer x sealDer = .ok signed)
    (attempts : List (Attempt Status)) :
    ∃ signed', parseDer x (renewAll x sealDer attempts) = .ok signed' ∧ Kept x signed signed' := by
  induction attempts generalizing sealDer signed with
  | nil => exact ⟨signed, hparse, .refl signed⟩
  | cons attempt attempts ih =>
    unfold renewAll
    rw [List.foldl_cons]
    cases hrenew : attempt.renew x sealDer with
    | error e => exact ih hparse
    | ok renewed =>
      obtain ⟨next, hnext, hkept⟩ := renew_kept hparse hrenew
      obtain ⟨last, hlast, hrest⟩ := ih hnext
      exact ⟨last, hlast, hkept.trans hrest⟩

/-- Over any attempts, with any answers: what a seal carries and what verifies in it stays from any
moment to any later one, and each renewal that succeeds extends the seal it was given exactly when
no index its answer brought along comes first and leaves an archive timestamp out. -/
theorem renewals_extend_iff_own_index_covers (x : Readers Key) (sealDer : Bytes) (signed : Signed)
    (hparse : parseDer x sealDer = .ok signed) (attempts : List (Attempt Status)) :
    (∀ earlier later, attempts = earlier ++ later →
      ∃ before after, parseDer x (renewAll x sealDer earlier) = .ok before ∧
        parseDer x (renewAll x sealDer attempts) = .ok after ∧ Kept x before after) ∧
    ∀ earlier attempt later renewed, attempts = earlier ++ attempt :: later →
      attempt.renew x (renewAll x sealDer earlier) = .ok renewed →
      (Extends x (renewAll x sealDer earlier) renewed.sealDer ↔
        OwnIndexCovers x (renewAll x sealDer earlier) attempt.stamp) := by
  constructor
  · intro earlier later hattempts
    obtain ⟨before, hbefore, _⟩ := renewAll_kept hparse earlier
    obtain ⟨after, hafter, hkept⟩ := renewAll_kept hbefore later
    rw [← renewAll_append, ← hattempts] at hafter
    exact ⟨before, after, hbefore, hafter, hkept⟩
  · intro earlier attempt later renewed _ hrenew
    exact renew_extends_iff hrenew

def checksum (b : Bytes) : Bytes :=
  let sum := b.foldl (fun sum octet => (sum * 257 + octet.toNat + 1) % 2 ^ 256) 0
  (List.range 32).map fun i => UInt8.ofNat (sum / 256 ^ i % 256)

instance (x : Encodings) (attributeDer : Attribute → Bytes) (signerInfoDer : SignerInfo → Bytes)
    (sd : SignedData) : Decidable (Canonical x attributeDer signerInfoDer sd) :=
  inferInstanceAs (Decidable (List.Pairwise _ _ ∧ List.Pairwise _ _ ∧ List.Pairwise _ _ ∧
    ∀ s ∈ sd.signerInfos, (List.Pairwise _ _ ∧ ∀ a ∈ s.signedAttrs.getD [], List.Pairwise _ _) ∧
      List.Pairwise _ _ ∧ ∀ a ∈ s.unsignedAttrs.getD [], List.Pairwise _ _))

/-- Readers under which a signature is the public key itself. -/
def plainReaders : Readers Bytes :=
  { plainEncodings checksum with
    keyOf := fun spki => .ok spki.subjectPublicKey
    verifyCertificate := fun key c =>
      if c.signature = key then .ok () else .error (.verification "signature error")
    verifyCrl := fun key list =>
      if list.signature = key then .ok () else .error (.verification "signature error")
    sha384 := checksum
    sha512 := checksum
    attributeDer := attributeCode.encode
    signerInfoDer := signerInfoCode.encode
    contentInfo := fun c => oidCode.encode c.contentType ++ c.content
    signedData := signedDataCode.encode
    contentInfoFromDer := fun b =>
      match oidCode.decode b with
      | some (contentType, content) => .ok ⟨contentType, content⟩
      | none => .error "ASN.1 DER message is incomplete"
    signedDataFromDer := fun b =>
      match signedDataCode.read b with
      | some sd =>
        if Canonical (plainEncodings checksum) attributeCode.encode signerInfoCode.encode sd then
          .ok sd
        else .error "SET OF ordering error"
      | none => .error "ASN.1 DER message is incomplete"
    verifyMessage := fun key _ signature _ =>
      if signature = key then .ok () else .error (.verification "signature error")
    renderTime := toString
    debugFreshness := fun
      | .ok (.current expires) => "Ok(Current " ++ toString expires ++ ")"
      | .ok (.lapsed expires) => "Ok(Lapsed " ++ toString expires ++ ")"
      | .ok .notArchived => "Ok(NotArchived)"
      | .ok .unknown => "Ok(Unknown)"
      | .error e => "Err(" ++ e ++ ")"
    setDuplicate := "SET OF contains duplicate"
    contentInfo_reads_back := by
      intro c
      rw [oidCode.decode_encode]
    signedData_reads_back := by
      intro sd h
      rw [signedDataCode.read_encode]
      exact if_pos h
    signedData_canonical := by
      intro b sd h
      split at h
      next =>
        split_ifs at h with hcanonical
        cases h
        exact hcanonical
      next => cases h
    index_reads_back := indexCode.read_encode }

def written (sd : SignedData) : Bytes :=
  plainReaders.contentInfo ⟨[1, 2, 840, 113549, 1, 7, 2], plainReaders.signedData sd⟩

def answerBy (c : Certificate) (content : Bytes) (unsignedAttrs : Option (List Attribute)) :
    SignedData :=
  messageBy c (some content) (signerBy c (checksum content) unsignedAttrs)

theorem hundred_inRange : 100 ≤ 253402300799 := by decide

def firstStamp : Bytes :=
  let archived := sampleSeal none
  let index := hashIndex plainReaders.toEncodings (.of archived.data) archived.signer
  written (answerBy (certificateUntil 2 100 hundred_inRange)
    (stampOf plainReaders.toEncodings (.of archived.data) archived.signer index 5)
    (some [indexAttribute plainReaders index]))

def archivedSeal : Signed := sampleSeal (some [⟨idAaEtsArchiveTimestampV3, [firstStamp]⟩])

def laterAuthority : Certificate := certificateUntil 3 200 (by decide)

def honest : Attempt Unit where
  stamp imprint :=
    .ok (written (answerBy laterAuthority (tstInfoCode.encode (sha256Alg, imprint, 10)) none))
  now := 10000000000
  accept _ := .ok ()

theorem archivedSeal_reads :
    parseDer plainReaders (written archivedSeal.data) = .ok archivedSeal := by
  refine toOption_eq_some.mp ?_
  decide +kernel

theorem answer_of_written {stamp : Bytes → Except SealError Bytes} {answer : SignedData}
    {sd : Bytes → SignedData} (hstamp : ∀ imprint, stamp imprint = .ok (written (sd imprint)))
    (h : answerTo plainReaders sealDer stamp = some answer) : ∃ imprint, answer = sd imprint := by
  obtain ⟨request, _, h⟩ := Option.bind_eq_some_iff.mp h
  obtain ⟨tokenDer, htoken, h⟩ := Option.bind_eq_some_iff.mp h
  rw [hstamp] at htoken
  cases htoken
  obtain ⟨info, hinfo, h⟩ := Option.bind_eq_some_iff.mp h
  unfold written at hinfo
  rw [plainReaders.contentInfo_reads_back] at hinfo
  cases hinfo
  refine ⟨request.imprint, ?_⟩
  simp only [plainReaders, signedDataCode.read_encode] at h
  split_ifs at h
  · cases h
    rfl
  · cases h

theorem honest_renewal_extends_the_seal :
    ∃ renewed, honest.renew plainReaders (written archivedSeal.data) = .ok renewed ∧
      Extends plainReaders (written archivedSeal.data) renewed.sealDer := by
  have hsome : (honest.renew plainReaders (written archivedSeal.data)).toOption.isSome := by
    decide +kernel
  obtain ⟨renewed, hrenew⟩ := ok_of_isSome hsome
  refine ⟨renewed, hrenew, ?_⟩
  refine ((renewals_extend_iff_own_index_covers plainReaders _ _ archivedSeal_reads [honest]).2 []
    honest [] renewed rfl hrenew).mpr ?_
  intro signed answer signer own index _ hanswer hmem hown
  obtain ⟨imprint, rfl⟩ := answer_of_written (fun _ => rfl) hanswer
  cases List.mem_singleton.mp hmem
  cases hown

theorem answerTo_written {stamp : Bytes → Except SealError Bytes} {request : RenewalRequest}
    {contentType : Oid} {sd : SignedData} (hrequest : prepareArchiveRenewal x sealDer = .ok request)
    (hstamp : stamp request.imprint = .ok (x.contentInfo ⟨contentType, x.signedData sd⟩))
    (hcanonical : Canonical x.toEncodings x.attributeDer x.signerInfoDer sd) :
    answerTo x sealDer stamp = some sd :=
  answerTo_eq hrequest hstamp (x.contentInfo_reads_back _) (x.signedData_reads_back hcanonical)

def emptyIndex : AtsHashIndexV3 := ⟨sha256Alg, [], [], []⟩

def ownAnswer : SignedData :=
  answerBy laterAuthority
    (stampOf plainReaders.toEncodings (.of archivedSeal.data) archivedSeal.signer emptyIndex 10)
    (some [indexAttribute plainReaders emptyIndex])

def ownIndexed : Attempt Unit where
  stamp _ := .ok (written ownAnswer)
  now := 10000000000
  accept _ := .ok ()

/-- The renewed seal passes every check, and its new archive timestamp is not over the first. -/
theorem own_index_leaves_the_first_stamp_out :
    parseDer plainReaders (written archivedSeal.data) = .ok archivedSeal ∧
    ∃ renewed, ownIndexed.renew plainReaders (written archivedSeal.data) = .ok renewed ∧
      ¬ Extends plainReaders (written archivedSeal.data) renewed.sealDer := by
  refine ⟨archivedSeal_reads, ?_⟩
  have hsome : (ownIndexed.renew plainReaders (written archivedSeal.data)).toOption.isSome := by
    decide +kernel
  obtain ⟨renewed, hrenew⟩ := ok_of_isSome hsome
  refine ⟨renewed, hrenew, ?_⟩
  intro hextends
  obtain ⟨_, request, _, _, _, _, _, hrequest, _⟩ := renew_ok hrenew
  have hcanonical : Canonical plainReaders.toEncodings plainReaders.attributeDer
      plainReaders.signerInfoDer ownAnswer := by decide +kernel
  have hstamp : ownIndexed.stamp request.imprint = .ok (plainReaders.contentInfo
      ⟨[1, 2, 840, 113549, 1, 7, 2], plainReaders.signedData ownAnswer⟩) := by rfl
  have hanswer := answerTo_written hrequest hstamp hcanonical
  have hcovers := (renew_extends_iff hrenew).mp hextends archivedSeal ownAnswer _
    (indexAttribute plainReaders emptyIndex) emptyIndex archivedSeal_reads hanswer
    (List.mem_singleton_self _) rfl (by decide +kernel) (plainReaders.index_reads_back emptyIndex)
  have hcarried : (idAaEtsArchiveTimestampV3, firstStamp) ∈ archiveValues archivedSeal.signer :=
    List.mem_filter.mpr ⟨List.mem_singleton_self _, by simp⟩
  have hnamed := hcovers _ hcarried
  unfold emptyIndex at hnamed
  cases hnamed

end Runs

end SealRenewal
