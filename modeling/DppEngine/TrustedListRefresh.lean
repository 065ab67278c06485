import DppEngine.OrderedMaps
import DppEngine.TrustedListDocuments

/-! One pass over the trusted lists, the cache it fills, and the set it publishes to the seal
verdicts.

What the servers answer and which store operations fail is the pass's environment, free at every
pointer. A refused write leaves the row as it was. -/
namespace TrustedListRefresh

open CmsSeals OrderedMaps TrustedLists TrustedListDocuments FallibleSteps

section Cache

/-- How a parsed list is stored; what is stored reads back. -/
structure Codec (History Value : Type) where
  toValue : UnverifiedTrustedList History → Except String Value
  fromValue : Value → Except String (UnverifiedTrustedList History)
  reads_back : ∀ {content value}, toValue content = .ok value → fromValue value = .ok content

inductive CachedTrustedList (Value : Type) where
  | verified (content : Value) (signedBy : String) (verifiedAt : Instant)
  | unavailable (reason : String)
  deriving DecidableEq, Repr

abbrev Cache (Value : Type) := BTreeMap String (CachedTrustedList Value)

structure UncheckedTerritory where
  territory : String
  reason : String
  deriving DecidableEq, Repr

variable {History Value : Type} (codec : Codec History Value)

def CachedTrustedList.list : CachedTrustedList Value → Option (VerifiedTrustedList History)
  | .verified content signedBy _ => (codec.fromValue content).toOption.map fun c => ⟨c, signedBy⟩
  | .unavailable _ => none

def CachedTrustedList.unchecked (territory : String) :
    CachedTrustedList Value → Option UncheckedTerritory
  | .verified content _ _ =>
    match codec.fromValue content with
    | .ok _ => none
    | .error e => some ⟨territory, "the cached copy could not be read back: " ++ e⟩
  | .unavailable reason => some ⟨territory, reason⟩

def fromCache (cached : Cache Value) :
    List (VerifiedTrustedList History) × List UncheckedTerritory :=
  (cached.entries.filterMap fun e => e.2.list codec,
    cached.entries.filterMap fun e => e.2.unchecked codec e.1)

end Cache

section Pass

/-- What stands at one pointer: the answer to the fetch, when it was checked, and whether the
store refuses the claim and the write. -/
structure Conditions where
  fetched : Except String String
  checkedAt : Instant
  claimRefused : Bool
  writeRefused : Bool

structure Pass where
  lotl : Except String String
  loadFails : Bool
  conditions : ℕ → Conditions
  reloadFails : Bool

structure Visit where
  pointer : TrustedListPointer
  conditions : Conditions

structure RefreshStats where
  verified : ℕ
  unavailable : ℕ
  unnamed : ℕ
  unwritten : ℕ
  unwrittenTerritories : List String
  deriving DecidableEq, Repr

def euLotlUrl : String := "https://ec.europa.eu/tools/lotl/eu-lotl.xml"

def fetchFailed (url e : String) : SealError := "cannot fetch the trusted list at " ++ url ++ ": " ++ e

def tslTypeNational : String := "http://uri.etsi.org/TrstSvc/TrustedList/TSLType/EUgeneric"

def tslMimeXml : String := "application/vnd.etsi.tsl+xml"

def nationalPointers (pointers : List TrustedListPointer) : List TrustedListPointer :=
  (pointers.filter fun p => p.tslType = some tslTypeNational).filter fun p =>
    p.mimeType.all fun m => m = tslMimeXml

def fetchTrustedListXml (url : String) (answer : Except String String) : Except SealError String :=
  answer.mapError (fetchFailed url)

variable {History Status Value : Type} (x : Sources History Status) (codec : Codec History Value)

def fetchLotlPointers (answer : Except String String) :
    Except SealError (List TrustedListPointer) := do
  let xml ← answer.mapError (fetchFailed euLotlUrl)
  parseLotl x xml

def storedEntry (pointer : TrustedListPointer) (checkedAt : Instant)
    (fetched : Except String String) : Except String (CachedTrustedList Value) := do
  let xml ← fetched
  let verified ← (verifyTrustedList x xml pointer).mapError fun e =>
    "did not verify against the certificates the list of trusted lists names: " ++ e.text
  let content ← (codec.toValue verified.content).mapError fun e =>
    "verified, and could not be stored: " ++ e
  pure (.verified content verified.signedBy checkedAt)

def entryFor (pointer : TrustedListPointer) (checkedAt : Instant) (fetched : Except String String) :
    CachedTrustedList Value :=
  match storedEntry x codec pointer checkedAt fetched with
  | .ok entry => entry
  | .error reason => .unavailable reason

def Visit.entry (v : Visit) : CachedTrustedList Value :=
  entryFor x codec v.pointer v.conditions.checkedAt
    ((fetchTrustedListXml v.pointer.location v.conditions.fetched).mapError fun e =>
      "could not be fetched: " ++ e)

def visits (pass : Pass) (pointers : List TrustedListPointer) : List Visit :=
  (nationalPointers pointers).zipIdx.map fun p => ⟨p.1, pass.conditions p.2⟩

def claim (held : Cache Value) (s : Cache Value × ℕ) (v : Visit) : Cache Value × ℕ :=
  match v.pointer.territory with
  | none => s
  | some territory =>
    if (held.get territory).isSome then s
    else if v.conditions.claimRefused then s
    else
      (s.1.insert territory
        (.unavailable "named by the EU list of trusted lists and not read in this pass yet"), s.2 + 1)

/-- A cache that could not be read is taken to hold nothing. -/
def claimUnheld (loadFails : Bool) (cache : Cache Value) (vs : List Visit) : Cache Value × ℕ :=
  vs.foldl (claim (if loadFails then .empty else cache)) (cache, 0)

def record (territory : String) (v : Visit) (s : Cache Value × RefreshStats) :
    Cache Value × RefreshStats :=
  let entry := v.entry x codec
  if v.conditions.writeRefused then
    (s.1, { s.2 with
      unwritten := s.2.unwritten + 1
      unwrittenTerritories := s.2.unwrittenTerritories ++ [territory] })
  else
    (s.1.insert territory entry,
      match entry with
      | .verified _ _ _ => { s.2 with verified := s.2.verified + 1 }
      | .unavailable _ => { s.2 with unavailable := s.2.unavailable + 1 })

def visit (s : Cache Value × RefreshStats) (v : Visit) : Cache Value × RefreshStats :=
  match v.pointer.territory with
  | none => (s.1, { s.2 with unnamed := s.2.unnamed + 1 })
  | some territory => record x codec territory v s

def visitAll (loadFails : Bool) (cache : Cache Value) (vs : List Visit) :
    Cache Value × RefreshStats :=
  vs.foldl (visit x codec) ((claimUnheld loadFails cache vs).1, ⟨0, 0, 0, 0, []⟩)

/-- A pass without a list of lists is abandoned before anything is written. -/
def refreshOnce (pass : Pass) (cache : Cache Value) : Option (Cache Value × RefreshStats) :=
  match fetchLotlPointers x pass.lotl with
  | .error _ => none
  | .ok pointers => some (visitAll x codec pass.loadFails cache (visits pass pointers))

end Pass

section Publishing

variable {History Status Value : Type}

structure TrustedListSet (History : Type) where
  lists : List (VerifiedTrustedList History)
  unchecked : List UncheckedTerritory
  deriving DecidableEq, Repr

/-- A territory the pass could not write is unchecked, whatever the cache says about it. -/
def admitUnwritten (set : TrustedListSet History) (territory : String) : TrustedListSet History :=
  { lists := set.lists.filter fun l => l.content.territory ≠ some territory
    unchecked := (set.unchecked.filter fun u => u.territory ≠ territory) ++
      [⟨territory, "this node could not write the result of its last pass for this territory, " ++
        "so what the cache holds is not what the pass found"⟩] }

def publish (codec : Codec History Value) (cached : Cache Value) (stats : RefreshStats) :
    TrustedListSet History :=
  stats.unwrittenTerritories.foldl admitUnwritten
    ⟨(fromCache codec cached).1, (fromCache codec cached).2⟩

structure Node (History Value : Type) where
  cache : Cache Value
  published : TrustedListSet History

inductive Event where
  | pass (pass : Pass)
  /-- A pass that was cut off after so many pointers. -/
  | interrupted (pass : Pass) (after : ℕ)
  | restart (loadFails : Bool)

variable (x : Sources History Status) (codec : Codec History Value)

def refreshInterrupted (pass : Pass) (after : ℕ) (cache : Cache Value) : Cache Value :=
  match fetchLotlPointers x pass.lotl with
  | .error _ => cache
  | .ok pointers =>
    (((visits pass pointers).take after).foldl (visit x codec)
      ((claimUnheld pass.loadFails cache (visits pass pointers)).1, ⟨0, 0, 0, 0, []⟩)).1

def step (n : Node History Value) : Event → Node History Value
  | .pass pass =>
    match refreshOnce x codec pass n.cache with
    | none => n
    | some (cache, stats) =>
      { cache, published := if pass.reloadFails then n.published else publish codec cache stats }
  | .interrupted pass after => { n with cache := refreshInterrupted x codec pass after n.cache }
  | .restart loadFails =>
    { n with published :=
        if loadFails then ⟨[], []⟩
        else ⟨(fromCache codec n.cache).1, (fromCache codec n.cache).2⟩ }

def nodeAfter (events : List Event) : Node History Value :=
  events.foldl (step x codec) ⟨.empty, ⟨[], []⟩⟩

end Publishing

section Rows

variable {History Status Value : Type} {x : Sources History Status} {codec : Codec History Value}
  {cache : Cache Value} {vs : List Visit} {v : Visit} {t : String} {row : CachedTrustedList Value}
  {l : VerifiedTrustedList History}

/-- The document fetched at this pointer verifies under it as this list. -/
def Visit.VerifiesAs (x : Sources History Status) (v : Visit) (l : VerifiedTrustedList History) :
    Prop :=
  ∃ xml, v.conditions.fetched = .ok xml ∧ verifyTrustedList x xml v.pointer = .ok l

theorem storedEntry_ok {pointer : TrustedListPointer} {checkedAt : Instant}
    {fetched : Except String String} (h : storedEntry x codec pointer checkedAt fetched = .ok row) :
    ∃ xml verified content, fetched = .ok xml ∧ verifyTrustedList x xml pointer = .ok verified ∧
      codec.toValue verified.content = .ok content ∧
      row = .verified content verified.signedBy checkedAt := by
  obtain ⟨xml, hxml, h⟩ := bind_ok h
  obtain ⟨verified, hverified, h⟩ := bind_ok h
  obtain ⟨content, hcontent, h⟩ := bind_ok h
  cases h
  exact ⟨xml, verified, content, hxml, mapError_ok hverified, mapError_ok hcontent, rfl⟩

/-- What a visit stores as a list is the list its document verified as. -/
theorem Visit.entry_list (h : (v.entry x codec).list codec = some l) : v.VerifiesAs x l := by
  unfold Visit.entry entryFor at h
  split at h
  next entry hentry =>
    obtain ⟨xml, verified, content, hxml, hverified, hcontent, rfl⟩ := storedEntry_ok hentry
    have hfetched := mapError_ok (mapError_ok hxml)
    simp only [CachedTrustedList.list, codec.reads_back hcontent, Except.toOption,
      Option.map_some, Option.some.injEq] at h
    exact ⟨xml, hfetched, h ▸ hverified⟩
  next => cases h

def Visit.Writes (v : Visit) (t : String) : Prop :=
  v.pointer.territory = some t ∧ v.conditions.writeRefused = false

instance (v : Visit) (t : String) : Decidable (v.Writes t) :=
  inferInstanceAs (Decidable (_ ∧ _))

theorem visit_get (s : Cache Value × RefreshStats) (v : Visit) (t : String) :
    (visit x codec s v).1.get t = if v.Writes t then some (v.entry x codec) else s.1.get t := by
  unfold visit
  split
  next hterritory => simp [Visit.Writes, hterritory]
  next t' hterritory =>
    unfold record
    cases hrefused : v.conditions.writeRefused with
    | true => simp [Visit.Writes, hrefused]
    | false => simp [Visit.Writes, hterritory, hrefused, BTreeMap.get_insert]

theorem visit_unwritten (s : Cache Value × RefreshStats) (v : Visit) :
    (visit x codec s v).2.unwrittenTerritories = s.2.unwrittenTerritories ++
      (if v.conditions.writeRefused then v.pointer.territory else none).toList := by
  unfold visit
  cases hterritory : v.pointer.territory with
  | none => simp
  | some t' =>
    unfold record
    cases hrefused : v.conditions.writeRefused with
    | true => simp
    | false =>
      simp only [Bool.false_eq_true, if_false, Option.toList_none, List.append_nil]
      split <;> rfl

/-- A claim leaves no list behind that was not there. -/
theorem claimUnheld_list {loadFails : Bool}
    (h : (claimUnheld loadFails cache vs).1.get t = some row)
    (hlist : row.list codec = some l) : cache.get t = some row := by
  unfold claimUnheld at h
  generalize (if loadFails then BTreeMap.empty else cache) = held at h
  generalize hstart : (cache, 0) = start at h
  rw [show cache = start.1 from hstart ▸ rfl]
  clear hstart
  induction vs generalizing start with
  | nil => exact h
  | cons v vs ih =>
    have hrest := ih _ h
    unfold claim at hrest
    split at hrest
    next => exact hrest
    next territory _ =>
      split_ifs at hrest
      next => exact hrest
      next => exact hrest
      next =>
        rw [BTreeMap.get_insert] at hrest
        split_ifs at hrest
        next =>
          cases hrest
          cases hlist
        next => exact hrest

end Rows

section Chaining

variable {History Status Value : Type} {x : Sources History Status} {codec : Codec History Value}

/-- The list was verified under a certificate that a list of lists names, and that list of lists
verifies against the pinned anchor. -/
def Chained (x : Sources History Status) (l : VerifiedTrustedList History) : Prop :=
  ∃ lotl v pointer certificate der xml path, verifyLotl x lotl = .ok v ∧ pointer ∈ v.pointers ∧
    certificate ∈ pointer.certificates ∧ x.base64Decode certificate = .ok der ∧
    x.verifySignature xml der = .ok path ∧ parseTrustedList x xml = .ok l.content ∧
    l.signedBy = x.base64Encode (x.sha256 der)

def Anchored (x : Sources History Status) (pass : Pass) : Prop :=
  ∀ xml, pass.lotl = .ok xml → ∃ v, verifyLotl x xml = .ok v

def AnchoredEvent (x : Sources History Status) : Event → Prop
  | .pass pass => Anchored x pass
  | .interrupted pass _ => Anchored x pass
  | .restart _ => True

def ChainedCache (x : Sources History Status) (codec : Codec History Value) (cache : Cache Value) :
    Prop :=
  ∀ t row l, cache.get t = some row → row.list codec = some l → Chained x l

theorem mem_visits {pass : Pass} {pointers : List TrustedListPointer} {v : Visit}
    (h : v ∈ visits pass pointers) : v.pointer ∈ pointers := by
  obtain ⟨p, hp, rfl⟩ := List.mem_map.mp h
  have hnational : p.1 ∈ nationalPointers pointers := List.fst_mem_of_mem_zipIdx hp
  exact (List.mem_filter.mp (List.mem_filter.mp hnational).1).1

theorem Visit.chained {lotl : String} {verified : VerifiedLotl} {v : Visit}
    {l : VerifiedTrustedList History} (hlotl : verifyLotl x lotl = .ok verified)
    (hpointer : v.pointer ∈ verified.pointers) (h : v.VerifiesAs x l) : Chained x l := by
  obtain ⟨xml, _, hverified⟩ := h
  obtain ⟨certificate, der, path, _, hnamed, hder, _, hpath, hcontent, hsigned⟩ :=
    verifyTrustedList_ok hverified
  exact ⟨lotl, verified, v.pointer, certificate, der, xml, path, hlotl, hpointer, hnamed, hder,
    hpath, hcontent, hsigned⟩

/-- Every pointer of a pass whose list of lists verifies is one the verified list names. -/
theorem Anchored.chained {pass : Pass} {pointers : List TrustedListPointer} {v : Visit}
    {l : VerifiedTrustedList History} (hanchored : Anchored x pass)
    (hpointers : fetchLotlPointers x pass.lotl = .ok pointers) (hv : v ∈ visits pass pointers)
    (h : v.VerifiesAs x l) : Chained x l := by
  obtain ⟨xml, hxml, hparsed⟩ := bind_ok hpointers
  obtain ⟨verified, hverified⟩ := hanchored xml (mapError_ok hxml)
  obtain ⟨_, _, _, _, _, _, _, _, hread, _⟩ := verifyLotlWith_ok hverified
  rw [hread] at hparsed
  cases hparsed
  exact Visit.chained hverified (mem_visits hv) h

theorem ChainedCache.visits {done : List Visit} {s : Cache Value × RefreshStats}
    (hs : ChainedCache x codec s.1) (hdone : ∀ v ∈ done, ∀ l, v.VerifiesAs x l → Chained x l) :
    ChainedCache x codec (done.foldl (visit x codec) s).1 := by
  induction done generalizing s with
  | nil => exact hs
  | cons v done ih =>
    refine ih ?_ fun u hu => hdone u (List.mem_cons_of_mem v hu)
    intro t row l hrow hlist
    rw [visit_get] at hrow
    split_ifs at hrow
    next =>
      cases hrow
      exact hdone v List.mem_cons_self l (Visit.entry_list hlist)
    next => exact hs t row l hrow hlist

theorem ChainedCache.claimed {loadFails : Bool} {cache : Cache Value} {vs : List Visit}
    (h : ChainedCache x codec cache) : ChainedCache x codec (claimUnheld loadFails cache vs).1 :=
  fun t row l hrow hlist => h t row l (claimUnheld_list hrow hlist) hlist

theorem ChainedCache.fromCache {cache : Cache Value} (h : ChainedCache x codec cache) :
    ∀ l ∈ (fromCache codec cache).1, Chained x l := by
  intro l hl
  obtain ⟨⟨t, row⟩, hrow, hlist⟩ := List.mem_filterMap.mp hl
  exact h t row l (BTreeMap.mem_entries.mp hrow) hlist

theorem mem_of_mem_admitted {set : TrustedListSet History} {unwritten : List String}
    {l : VerifiedTrustedList History} (h : l ∈ (unwritten.foldl admitUnwritten set).lists) :
    l ∈ set.lists := by
  induction unwritten generalizing set with
  | nil => exact h
  | cons t unwritten ih => exact (List.mem_filter.mp (ih h)).1

/-- What holds in every state reached while each list of lists served verifies. -/
structure ChainedNode (x : Sources History Status) (codec : Codec History Value)
    (n : Node History Value) : Prop where
  cache : ChainedCache x codec n.cache
  published : ∀ l ∈ n.published.lists, Chained x l

theorem ChainedNode.step {n : Node History Value} {e : Event} (h : ChainedNode x codec n)
    (he : AnchoredEvent x e) : ChainedNode x codec (step x codec n e) := by
  cases e with
  | pass pass =>
    cases hpointers : fetchLotlPointers x pass.lotl with
    | error e =>
      simp only [TrustedListRefresh.step, refreshOnce, hpointers]
      exact h
    | ok pointers =>
      simp only [TrustedListRefresh.step, refreshOnce, hpointers]
      have hcache : ChainedCache x codec
          (visitAll x codec pass.loadFails n.cache (visits pass pointers)).1 :=
        ChainedCache.visits h.cache.claimed fun v hv l hl => Anchored.chained he hpointers hv hl
      refine ⟨hcache, ?_⟩
      dsimp only
      split_ifs
      · exact h.published
      · intro l hl
        exact hcache.fromCache l (mem_of_mem_admitted hl)
  | interrupted pass after =>
    cases hpointers : fetchLotlPointers x pass.lotl with
    | error e =>
      simp only [TrustedListRefresh.step, refreshInterrupted, hpointers]
      exact h
    | ok pointers =>
      simp only [TrustedListRefresh.step, refreshInterrupted, hpointers]
      refine ⟨ChainedCache.visits h.cache.claimed fun v hv l hl => ?_, h.published⟩
      exact Anchored.chained he hpointers (List.mem_of_mem_take hv) hl
  | restart loadFails =>
    refine ⟨h.cache, ?_⟩
    unfold TrustedListRefresh.step
    dsimp only
    split_ifs
    · exact nofun
    · exact h.cache.fromCache

/-- While every list of lists that is served verifies against the pinned anchor, every list the
cache ever holds and every list a verdict ever consults chains to it. -/
theorem consulted_lists_chain_to_the_anchor (x : Sources History Status)
    (codec : Codec History Value) (events : List Event)
    (hanchored : ∀ e ∈ events, AnchoredEvent x e) :
    ChainedCache x codec (nodeAfter x codec events).cache ∧
      ∀ l ∈ (nodeAfter x codec events).published.lists, Chained x l := by
  have hnew : ChainedNode x codec (⟨.empty, ⟨[], []⟩⟩ : Node History Value) := by
    refine ⟨?_, nofun⟩
    intro t row l hrow
    cases hrow
  have hchained : ChainedNode x codec (nodeAfter x codec events) :=
    List.foldlRecOn events (TrustedListRefresh.step x codec) hnew fun n hn e he =>
      hn.step (hanchored e he)
  exact ⟨hchained.cache, hchained.published⟩

def plainCodec : Codec Bool (UnverifiedTrustedList Bool) :=
  { toValue := .ok
    fromValue := .ok
    reads_back := by
      rintro content _ ⟨⟩
      rfl }

def lotlNaming (certificate : String) (signatures : List XmlTrees.Node) : Document :=
  statusList (tsl "SchemeInformation" [tsl "PointersToOtherTSL" [tsl "OtherTSLPointer" [
    tsl "TSLLocation" [.text "https://tl.example/de.xml"],
    tsl "ServiceDigitalIdentities" [tsl "X509Certificate" [.text certificate]],
    tsl "AdditionalInformation" [tsl "SchemeTerritory" [.text "DE"],
      tsl "TSLType" [.text tslTypeNational], tsl "MimeType" [.text tslMimeXml]]]]] :: signatures)

def listSignedWith (certificate : String) : Document :=
  statusList [tsl "SchemeInformation" [tsl "SchemeTerritory" [.text "DE"]],
    signature [envelopedSignature, exclusiveC14n] certificate]

def plainPass : Pass :=
  { lotl := .ok "lotl"
    loadFails := false
    conditions := fun _ =>
      { fetched := .ok "list", checkedAt := 1735689600, claimRefused := false,
        writeRefused := false }
    reloadFails := false }

/-- An unsigned list of lists, and the list its author signed. -/
def hostileSources : Sources Bool Bool :=
  plainSources [("lotl", lotlNaming "Ag==" []), ("list", listSignedWith "Ag==")]

theorem hostile_never_anchored (lotl : String) (v : VerifiedLotl) :
    verifyLotl hostileSources lotl ≠ .ok v := by
  intro h
  obtain ⟨certificate, der, _, _, hder, hauthorised, _⟩ := verifyLotlWith_ok h
  have hsample : der = [1] ∨ der = [2] := by
    simp only [hostileSources, plainSources, List.lookup_cons, List.lookup_nil] at hder
    split at hder
    next found hfound =>
      cases hder
      split at hfound
      · exact Or.inl (Option.some.inj hfound).symm
      · split at hfound
        · exact Or.inr (Option.some.inj hfound).symm
        · cases hfound
    next => cases hder
  rcases hsample with rfl | rfl
  · revert hauthorised
    decide +kernel
  · revert hauthorised
    decide +kernel

/-- A list of lists that nobody signed decides what the verdicts consult. -/
theorem unsigned_list_of_lists_is_believed :
    ∃ l ∈ (nodeAfter hostileSources plainCodec [.pass plainPass]).published.lists,
      ¬ Chained hostileSources l := by
  refine ⟨⟨⟨some "DE", []⟩, "28G0yQD/5I1XW12lxjgEASX2XbD+PiRJS3bqmGRX2YY="⟩, ?_, ?_⟩
  · decide +kernel
  · rintro ⟨lotl, v, _, _, _, _, _, hverified, _⟩
    exact hostile_never_anchored lotl v hverified

def anchoredSources : Sources Bool Bool :=
  let plain := plainSources
    [("lotl", lotlNaming "Ag==" [signature [envelopedSignature, exclusiveC14n] "AQ=="]),
     ("list", listSignedWith "Ag==")]
  { plain with
    base64Encode := fun b =>
      if b = plain.sha256 [1] then "4KYg+7Z0c2K7kzrEQWnWdqVTREcWz18xYF8SoiuDlrE="
      else plain.base64Encode b }

theorem signed_list_of_lists_is_chained :
    (nodeAfter anchoredSources plainCodec [.pass plainPass]).published.lists ≠ [] ∧
      ∀ l ∈ (nodeAfter anchoredSources plainCodec [.pass plainPass]).published.lists,
        Chained anchoredSources l := by
  refine ⟨by decide +kernel, ?_⟩
  refine (consulted_lists_chain_to_the_anchor anchoredSources plainCodec [.pass plainPass] ?_).2
  intro e he
  cases List.mem_singleton.mp he
  rintro _ ⟨⟩
  exact ⟨⟨[pointerTo "https://tl.example/de.xml" "DE" ["Ag=="]],
    "4KYg+7Z0c2K7kzrEQWnWdqVTREcWz18xYF8SoiuDlrE=", .unknown⟩, by decide +kernel⟩

end Chaining

end TrustedListRefresh
