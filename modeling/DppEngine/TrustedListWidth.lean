import DppEngine.TrustedListRefresh
import Mathlib.Data.List.Induction

/-! What a published set of trusted lists says about its own width.

A verdict that no list names an issuer is only as wide as what was searched, so the lists consulted
and the territories admitted as unchecked have to account for every pointer of the pass between
them. -/
namespace TrustedListWidth

open CmsSeals OrderedMaps TrustedLists TrustedListDocuments TrustedListRefresh

variable {History Status Value : Type} {x : Sources History Status} {codec : Codec History Value}
  {cache cached : Cache Value} {vs : List Visit} {unwritten : List String} {t : String}
  {l : VerifiedTrustedList History}

section Published

def OwnTerritoryWritten (unwritten : List String) (l : VerifiedTrustedList History) : Prop :=
  ∀ t ∈ unwritten, l.content.territory ≠ some t

instance (unwritten : List String) (l : VerifiedTrustedList History) :
    Decidable (OwnTerritoryWritten unwritten l) :=
  inferInstanceAs (Decidable (∀ t ∈ unwritten, _))

def consulted (codec : Codec History Value) (cached : Cache Value) (unwritten : List String) :
    List (String × VerifiedTrustedList History) :=
  (cached.entries.filterMap fun e => (e.2.list codec).map fun l => (e.1, l)).filter fun e =>
    OwnTerritoryWritten unwritten e.2

theorem mem_consulted : (t, l) ∈ consulted codec cached unwritten ↔
    (∃ row, cached.get t = some row ∧ row.list codec = some l) ∧
      OwnTerritoryWritten unwritten l := by
  unfold consulted
  rw [List.mem_filter, decide_eq_true_iff, List.mem_filterMap]
  refine and_congr_left fun _ => ?_
  constructor
  · rintro ⟨⟨t', row⟩, hrow, hlist⟩
    obtain ⟨l', hl', heq⟩ := Option.map_eq_some_iff.mp hlist
    cases heq
    exact ⟨row, BTreeMap.mem_entries.mp hrow, hl'⟩
  · rintro ⟨row, hrow, hlist⟩
    exact ⟨(t, row), BTreeMap.mem_entries.mpr hrow, by rw [hlist]; rfl⟩

theorem admitted_lists (set : TrustedListSet History) :
    (unwritten.foldl admitUnwritten set).lists =
      set.lists.filter fun l => OwnTerritoryWritten unwritten l := by
  induction unwritten generalizing set with
  | nil => simp [OwnTerritoryWritten]
  | cons t unwritten ih =>
    rw [List.foldl_cons, ih, admitUnwritten, List.filter_filter]
    refine List.filter_congr fun l _ => ?_
    rw [Bool.eq_iff_iff, Bool.and_eq_true, decide_eq_true_iff, decide_eq_true_iff,
      decide_eq_true_iff]
    unfold OwnTerritoryWritten
    rw [List.forall_mem_cons, and_comm]

theorem admitted_unchecked (set : TrustedListSet History) :
    (∃ u ∈ (unwritten.foldl admitUnwritten set).unchecked, u.territory = t) ↔
      t ∈ unwritten ∨ ∃ u ∈ set.unchecked, u.territory = t := by
  induction unwritten generalizing set with
  | nil => simp
  | cons t' unwritten ih =>
    rw [List.foldl_cons, ih]
    by_cases ht : t = t'
    · subst ht
      simp [admitUnwritten]
    · constructor
      · rintro (h | ⟨u, hu, rfl⟩)
        · exact Or.inl (List.mem_cons_of_mem _ h)
        · rcases List.mem_append.mp hu with hu | hu
          · exact Or.inr ⟨u, (List.mem_filter.mp hu).1, rfl⟩
          · cases List.mem_singleton.mp hu
            exact absurd rfl ht
      · rintro (h | ⟨u, hu, rfl⟩)
        · exact Or.inl ((List.mem_cons.mp h).resolve_left ht)
        · refine Or.inr ⟨u, List.mem_append_left _ (List.mem_filter.mpr ⟨hu, ?_⟩), rfl⟩
          simpa using ht

theorem publish_lists (codec : Codec History Value) (cached : Cache Value) (stats : RefreshStats) :
    (publish codec cached stats).lists =
      (consulted codec cached stats.unwrittenTerritories).map Prod.snd := by
  have hlists : (fromCache codec cached).1 =
      (cached.entries.filterMap fun e => (e.2.list codec).map fun l => (e.1, l)).map Prod.snd := by
    rw [List.map_filterMap]
    refine List.filterMap_congr fun e _ => ?_
    cases e.2.list codec <;> rfl
  unfold publish consulted
  rw [admitted_lists, hlists, List.filter_map]
  rfl

theorem row_unchecked {row : CachedTrustedList Value} :
    (∃ u, row.unchecked codec t = some u) ↔ row.list codec = none := by
  cases row with
  | verified content signedBy verifiedAt =>
    cases h : codec.fromValue content <;>
      simp [CachedTrustedList.unchecked, CachedTrustedList.list, Except.toOption, h]
  | unavailable reason => simp [CachedTrustedList.unchecked, CachedTrustedList.list]

theorem row_unchecked_territory {row : CachedTrustedList Value} {u : UncheckedTerritory}
    (h : row.unchecked codec t = some u) : u.territory = t := by
  cases row with
  | verified content signedBy verifiedAt =>
    simp only [CachedTrustedList.unchecked] at h
    split at h
    next => cases h
    next =>
      cases h
      rfl
  | unavailable reason =>
    unfold CachedTrustedList.unchecked at h
    cases h
    rfl

/-- The territories admitted are those the pass could not write, and those of the rows that hold
no list. -/
theorem publish_unchecked (codec : Codec History Value) (cached : Cache Value)
    (stats : RefreshStats) (t : String) :
    (∃ u ∈ (publish codec cached stats).unchecked, u.territory = t) ↔
      t ∈ stats.unwrittenTerritories ∨
        ∃ row, cached.get t = some row ∧ row.list codec = none := by
  unfold publish
  rw [admitted_unchecked]
  refine or_congr_right ?_
  constructor
  · rintro ⟨u, hu, rfl⟩
    obtain ⟨⟨t, row⟩, hrow, hunchecked⟩ := List.mem_filterMap.mp hu
    rw [row_unchecked_territory hunchecked]
    exact ⟨row, BTreeMap.mem_entries.mp hrow, row_unchecked.mp ⟨u, hunchecked⟩⟩
  · rintro ⟨row, hrow, hlist⟩
    obtain ⟨u, hu⟩ := (@row_unchecked _ _ codec t row).mpr hlist
    exact ⟨u, List.mem_filterMap.mpr ⟨(t, row), BTreeMap.mem_entries.mpr hrow, hu⟩,
      row_unchecked_territory hu⟩

end Published

section Written

def unwrittenOf (vs : List Visit) : List String :=
  vs.filterMap fun v => if v.conditions.writeRefused then v.pointer.territory else none

theorem mem_unwrittenOf : t ∈ unwrittenOf vs ↔
    ∃ v ∈ vs, v.pointer.territory = some t ∧ v.conditions.writeRefused = true := by
  unfold unwrittenOf
  rw [List.mem_filterMap]
  refine exists_congr fun v => and_congr_right fun _ => ?_
  cases v.conditions.writeRefused <;> simp

/-- The row of a territory is what the last visit to write it left there. -/
theorem visits_get (s : Cache Value × RefreshStats) (vs : List Visit) (t : String) :
    (vs.foldl (visit x codec) s).1.get t =
      (((vs.filter fun v => v.Writes t).getLast?.map fun v => v.entry x codec).or (s.1.get t)) := by
  induction vs using List.reverseRecOn with
  | nil => rfl
  | append_singleton vs v ih =>
    rw [List.foldl_concat, visit_get, List.filter_append]
    by_cases hv : v.Writes t
    · simp [hv]
    · simp [hv, ih]

theorem visits_unwritten (s : Cache Value × RefreshStats) (vs : List Visit) :
    (vs.foldl (visit x codec) s).2.unwrittenTerritories =
      s.2.unwrittenTerritories ++ unwrittenOf vs := by
  induction vs generalizing s with
  | nil => simp [unwrittenOf]
  | cons v vs ih =>
    have hcons : unwrittenOf (v :: vs) =
        (if v.conditions.writeRefused then v.pointer.territory else none).toList ++
          unwrittenOf vs := by
      unfold unwrittenOf
      rw [List.filterMap_cons]
      cases (if v.conditions.writeRefused then v.pointer.territory else none) <;> rfl
    rw [List.foldl_cons, ih, visit_unwritten, List.append_assoc, hcons]

def Claims (v : Visit) (t : String) : Prop :=
  v.pointer.territory = some t ∧ v.conditions.claimRefused = false

instance (v : Visit) (t : String) : Decidable (Claims v t) := inferInstanceAs (Decidable (_ ∧ _))

theorem claim_get (held : Cache Value) (s : Cache Value × ℕ) (v : Visit) (t : String) :
    (claim held s v).1.get t =
      if held.get t = none ∧ Claims v t then
        some (.unavailable "named by the EU list of trusted lists and not read in this pass yet")
      else s.1.get t := by
  unfold claim
  split
  next hterritory => simp [Claims, hterritory]
  next t' hterritory =>
    by_cases ht : t' = t
    · subst ht
      cases hheld : held.get t' <;> cases hrefused : v.conditions.claimRefused <;>
        simp [Claims, hterritory, hrefused, BTreeMap.get_insert]
    · have hclaims : ¬ (held.get t = none ∧ Claims v t) := by
        rintro ⟨_, hsome, _⟩
        rw [hterritory] at hsome
        exact ht (Option.some.inj hsome)
      rw [if_neg hclaims]
      split_ifs
      · rfl
      · rfl
      · rw [BTreeMap.get_insert, if_neg ht]

theorem claims_get (held : Cache Value) (s : Cache Value × ℕ) (vs : List Visit) (t : String) :
    (vs.foldl (claim held) s).1.get t =
      if held.get t = none ∧ ∃ v ∈ vs, Claims v t then
        some (.unavailable "named by the EU list of trusted lists and not read in this pass yet")
      else s.1.get t := by
  induction vs using List.reverseRecOn with
  | nil => simp
  | append_singleton vs v ih =>
    rw [List.foldl_concat, claim_get, ih]
    by_cases hheld : held.get t = none
    · by_cases hv : Claims v t
      · simp [hheld, hv]
      · simp [hheld, hv]
    · simp [hheld]

end Written

section Width

def SourceOf (x : Sources History Status) (v : Visit) (e : String × VerifiedTrustedList History) :
    Prop :=
  v.pointer.territory = some e.1 ∧ v.VerifiesAs x e.2

/-- What is consulted was verified in this pass, and every pointer of the pass is consulted or
admitted. -/
structure StatesItsWidth (x : Sources History Status) (codec : Codec History Value)
    (vs : List Visit) (after : Node History Value) : Prop where
  verified : ∀ e ∈ consulted codec after.cache (unwrittenOf vs), ∃ v ∈ vs, SourceOf x v e
  admitted : ∀ v ∈ vs, (∃ e ∈ consulted codec after.cache (unwrittenOf vs), SourceOf x v e) ∨
    ∃ u ∈ after.published.unchecked, v.pointer.territory = some u.territory

def LeftStanding (loadFails : Bool) (vs : List Visit) (t : String) : Prop :=
  (∀ v ∈ vs, ¬ v.Writes t) ∧ ¬ (loadFails = true ∧ ∃ v ∈ vs, Claims v t)

def lastTo (vs : List Visit) (t : String) : Option Visit :=
  (vs.filter fun v => v.pointer.territory = some t).getLast?

structure Accounted (x : Sources History Status) (codec : Codec History Value) (loadFails : Bool)
    (cache : Cache Value) (vs : List Visit) : Prop where
  named : ∀ v ∈ vs, ∃ t, v.pointer.territory = some t
  standing : ∀ t row l, cache.get t = some row → row.list codec = some l →
    LeftStanding loadFails vs t → OwnTerritoryWritten (unwrittenOf vs) l →
    ∃ v ∈ vs, SourceOf x v (t, l)
  single : ∀ v ∈ vs, ∀ t w l, v.pointer.territory = some t → t ∉ unwrittenOf vs →
    lastTo vs t = some w → (w.entry x codec).list codec = some l →
    v.VerifiesAs x l ∧ OwnTerritoryWritten (unwrittenOf vs) l

variable {loadFails : Bool} {v : Visit}

theorem claimUnheld_get {row : CachedTrustedList Value} (hrow : cache.get t = some row)
    (hclaims : ¬ (loadFails = true ∧ ∃ v ∈ vs, Claims v t)) :
    (claimUnheld loadFails cache vs).1.get t = some row := by
  unfold claimUnheld
  rw [claims_get, if_neg, hrow]
  rintro ⟨hheld, hv⟩
  refine hclaims ⟨?_, hv⟩
  cases loadFails with
  | true => rfl
  | false =>
    rw [if_neg Bool.false_ne_true, hrow] at hheld
    cases hheld

theorem filter_writes (h : t ∉ unwrittenOf vs) :
    (vs.filter fun v => v.Writes t) = vs.filter fun v => v.pointer.territory = some t := by
  refine List.filter_congr fun v hv => ?_
  rw [decide_eq_decide]
  refine ⟨fun hw => hw.1, fun ht => ⟨ht, ?_⟩⟩
  rw [← Bool.not_eq_true]
  exact fun hrefused => h (mem_unwrittenOf.mpr ⟨v, hv, ht, hrefused⟩)

theorem visitAll_get (x : Sources History Status) (codec : Codec History Value) (loadFails : Bool)
    (cache : Cache Value) (vs : List Visit) (t : String) :
    (visitAll x codec loadFails cache vs).1.get t =
      ((vs.filter fun v => v.Writes t).getLast?.map fun v => v.entry x codec).or
        ((claimUnheld loadFails cache vs).1.get t) :=
  visits_get _ vs t

theorem visitAll_standing {row : CachedTrustedList Value} (hrow : cache.get t = some row)
    (h : LeftStanding loadFails vs t) :
    (visitAll x codec loadFails cache vs).1.get t = some row := by
  have hnone : (vs.filter fun v => v.Writes t) = [] :=
    List.filter_eq_nil_iff.mpr fun v hv => by simpa using h.1 v hv
  rw [visitAll_get, hnone]
  exact claimUnheld_get hrow h.2

theorem visitAll_last (hv : v ∈ vs) (ht : v.pointer.territory = some t) (h : t ∉ unwrittenOf vs) :
    ∃ w, lastTo vs t = some w ∧
      (visitAll x codec loadFails cache vs).1.get t = some (w.entry x codec) := by
  rw [visitAll_get, filter_writes h]
  unfold lastTo
  have hne : (vs.filter fun v => v.pointer.territory = some t) ≠ [] :=
    List.ne_nil_of_mem (List.mem_filter.mpr ⟨hv, by simpa using ht⟩)
  rw [List.getLast?_eq_some_getLast hne]
  exact ⟨_, rfl, rfl⟩

/-- What a row holds after the pass was written by a visit to it, or was there and left standing. -/
theorem visitAll_origin {row : CachedTrustedList Value} (hlist : row.list codec = some l)
    (hrow : (visitAll x codec loadFails cache vs).1.get t = some row) :
    (∃ v ∈ vs, v.pointer.territory = some t ∧ row = v.entry x codec) ∨
      cache.get t = some row ∧ LeftStanding loadFails vs t := by
  rw [visitAll_get] at hrow
  cases hlast : (vs.filter fun v => v.Writes t).getLast? with
  | some w =>
    rw [hlast] at hrow
    cases hrow
    obtain ⟨hw, hwrites⟩ := List.mem_filter.mp (List.mem_of_getLast? hlast)
    exact Or.inl ⟨w, hw, (of_decide_eq_true hwrites).1, rfl⟩
  | none =>
    rw [hlast] at hrow
    have hnone := List.filter_eq_nil_iff.mp (List.getLast?_eq_none_iff.mp hlast)
    refine Or.inr ⟨claimUnheld_list hrow hlist, fun v hv => by simpa using hnone v hv, ?_⟩
    -- a claimed row holds no list
    rintro ⟨hloadFails, hv⟩
    unfold claimUnheld at hrow
    rw [Option.map_none, Option.none_or, claims_get, if_pos hloadFails,
      if_pos ⟨BTreeMap.get_empty t, hv⟩] at hrow
    cases hrow
    cases hlist

def published (x : Sources History Status) (codec : Codec History Value) (loadFails : Bool)
    (cache : Cache Value) (vs : List Visit) : Node History Value :=
  ⟨(visitAll x codec loadFails cache vs).1,
    publish codec (visitAll x codec loadFails cache vs).1 (visitAll x codec loadFails cache vs).2⟩

theorem step_published {pass : Pass} {pointers : List TrustedListPointer}
    (hpointers : fetchLotlPointers x pass.lotl = .ok pointers) (hreload : pass.reloadFails = false)
    (n : Node History Value) :
    step x codec n (.pass pass) =
      published x codec pass.loadFails n.cache (visits pass pointers) := by
  simp only [step, refreshOnce, hpointers, hreload]
  rfl

theorem visitAll_unwritten (x : Sources History Status) (codec : Codec History Value)
    (loadFails : Bool) (cache : Cache Value) (vs : List Visit) :
    (visitAll x codec loadFails cache vs).2.unwrittenTerritories = unwrittenOf vs :=
  visits_unwritten _ vs

theorem published_lists (x : Sources History Status) (codec : Codec History Value)
    (loadFails : Bool) (cache : Cache Value) (vs : List Visit) :
    (published x codec loadFails cache vs).published.lists =
      (consulted codec (published x codec loadFails cache vs).cache (unwrittenOf vs)).map
        Prod.snd := by
  unfold published
  rw [publish_lists, visitAll_unwritten]

theorem published_unchecked :
    (∃ u ∈ (published x codec loadFails cache vs).published.unchecked, some t = some u.territory) ↔
      t ∈ unwrittenOf vs ∨ ∃ row, (visitAll x codec loadFails cache vs).1.get t = some row ∧
        row.list codec = none := by
  rw [← visitAll_unwritten x codec loadFails cache vs, ← publish_unchecked]
  simp only [Option.some.injEq, eq_comm]
  rfl

theorem mem_consulted_published : (t, l) ∈ consulted codec
      (published x codec loadFails cache vs).cache (unwrittenOf vs) ↔
    (∃ row, (visitAll x codec loadFails cache vs).1.get t = some row ∧ row.list codec = some l) ∧
      OwnTerritoryWritten (unwrittenOf vs) l :=
  mem_consulted

theorem accounted_of_statesItsWidth
    (h : StatesItsWidth x codec vs (published x codec loadFails cache vs)) :
    Accounted x codec loadFails cache vs := by
  refine ⟨?_, ?_, ?_⟩
  · intro v hv
    rcases h.admitted v hv with ⟨e, _, ht, _⟩ | ⟨u, _, ht⟩
    · exact ⟨e.1, ht⟩
    · exact ⟨u.territory, ht⟩
  · intro t row l hrow hlist hstanding hown
    refine h.verified (t, l) (mem_consulted_published.mpr ⟨⟨row, ?_, hlist⟩, hown⟩)
    exact visitAll_standing hrow hstanding
  · intro v hv t w l ht hwritten hlast hlist
    obtain ⟨w', hlast', hrow⟩ := visitAll_last hv ht hwritten
    cases hlast.symm.trans hlast'
    -- the row holds a list, so the pointer is not admitted and has to be a source
    rcases h.admitted v hv with ⟨⟨t', l'⟩, he, ht', hverifies⟩ | hunchecked
    · cases ht.symm.trans ht'
      obtain ⟨⟨row', hrow', hlist'⟩, hown⟩ := mem_consulted_published.mp he
      cases hrow.symm.trans hrow'
      cases hlist.symm.trans hlist'
      exact ⟨hverifies, hown⟩
    · rw [ht] at hunchecked
      rcases published_unchecked.mp hunchecked with hrefused | ⟨row', hrow', hnone⟩
      · exact absurd hrefused hwritten
      · cases hrow.symm.trans hrow'
        cases hlist.symm.trans hnone

theorem statesItsWidth_of_accounted (h : Accounted x codec loadFails cache vs) :
    StatesItsWidth x codec vs (published x codec loadFails cache vs) := by
  refine ⟨?_, ?_⟩
  · rintro ⟨t, l⟩ he
    obtain ⟨⟨row, hrow, hlist⟩, hown⟩ := mem_consulted_published.mp he
    rcases visitAll_origin hlist hrow with ⟨v, hv, ht, rfl⟩ | ⟨hheld, hstanding⟩
    · exact ⟨v, hv, ht, Visit.entry_list hlist⟩
    · exact h.standing t row l hheld hlist hstanding hown
  · intro v hv
    obtain ⟨t, ht⟩ := h.named v hv
    rw [ht]
    by_cases hwritten : t ∈ unwrittenOf vs
    · exact Or.inr (published_unchecked.mpr (Or.inl hwritten))
    · obtain ⟨w, hlast, hrow⟩ := visitAll_last hv ht hwritten
      cases hlist : (w.entry x codec).list codec with
      | none => exact Or.inr (published_unchecked.mpr (Or.inr ⟨_, hrow, hlist⟩))
      | some l =>
        obtain ⟨hverifies, hown⟩ := h.single v hv t w l ht hwritten hlast hlist
        exact Or.inl ⟨(t, l), mem_consulted_published.mpr ⟨⟨_, hrow, hlist⟩, hown⟩, ht, hverifies⟩

/-- A pass that publishes states its width exactly when its pointers and the rows it left
standing are accounted for; and then a set that admits nothing searched every list named. -/
theorem width_stated_iff_accounted (x : Sources History Status) (codec : Codec History Value)
    (n : Node History Value) (pass : Pass) (pointers : List TrustedListPointer)
    (hpointers : fetchLotlPointers x pass.lotl = .ok pointers)
    (hreload : pass.reloadFails = false) :
    (StatesItsWidth x codec (visits pass pointers) (step x codec n (.pass pass)) ↔
      Accounted x codec pass.loadFails n.cache (visits pass pointers)) ∧
    (step x codec n (.pass pass)).published.lists =
      (consulted codec (step x codec n (.pass pass)).cache
        (unwrittenOf (visits pass pointers))).map Prod.snd ∧
    (Accounted x codec pass.loadFails n.cache (visits pass pointers) →
      (step x codec n (.pass pass)).published.unchecked = [] →
      ∀ v ∈ visits pass pointers, ∃ l ∈ (step x codec n (.pass pass)).published.lists,
        v.VerifiesAs x l) := by
  rw [step_published hpointers hreload]
  refine ⟨⟨accounted_of_statesItsWidth, statesItsWidth_of_accounted⟩, published_lists .., ?_⟩
  intro haccounted hnone v hv
  rcases (statesItsWidth_of_accounted haccounted).admitted v hv with ⟨e, he, _, hverifies⟩ |
    ⟨u, hu, _⟩
  · refine ⟨e.2, ?_, hverifies⟩
    rw [published_lists]
    exact List.mem_map_of_mem he
  · rw [hnone] at hu
    cases hu

def dePointer : TrustedListPointer := pointerTo "https://tl.example/de.xml" "DE" ["Ag=="]

theorem anchored_pointers : fetchLotlPointers anchoredSources (.ok "lotl") = .ok [dePointer] := by
  decide +kernel

/-- A first pass whose one list verifies and is written. -/
theorem first_pass_states_its_width :
    StatesItsWidth anchoredSources plainCodec (visits plainPass [dePointer])
      (step anchoredSources plainCodec ⟨.empty, ⟨[], []⟩⟩ (.pass plainPass)) := by
  refine ((width_stated_iff_accounted anchoredSources plainCodec ⟨.empty, ⟨[], []⟩⟩ plainPass
    [dePointer] anchored_pointers rfl).1).mpr ⟨?_, ?_, ?_⟩
  · intro v hv
    cases List.mem_singleton.mp hv
    exact ⟨"DE", rfl⟩
  · intro t row l hrow
    cases hrow
  · intro v hv t w l ht _ hlast hlist
    cases List.mem_singleton.mp hv
    cases ht
    cases hlast
    exact ⟨Visit.entry_list hlist, nofun⟩

/-- The list its territory's pointer names, without a territory of its own. -/
def unlabelledSources : Sources Bool Bool :=
  plainSources
    [("lotl", lotlNaming "Ag==" [signature [envelopedSignature, exclusiveC14n] "AQ=="]),
     ("list", statusList [signature [envelopedSignature, exclusiveC14n] "Ag=="])]

def failingPass : Pass :=
  { plainPass with
    conditions := fun _ =>
      { fetched := .error "target unreachable: connection refused", checkedAt := 1735776000,
        claimRefused := false, writeRefused := true } }

/-- The stale list of a territory that could not be written is still consulted. -/
theorem unlabelled_list_outlives_its_pass :
    fetchLotlPointers unlabelledSources failingPass.lotl = .ok [dePointer] ∧
    (nodeAfter unlabelledSources plainCodec [.pass plainPass, .pass failingPass]).published.lists =
      [⟨⟨none, []⟩, "28G0yQD/5I1XW12lxjgEASX2XbD+PiRJS3bqmGRX2YY="⟩] ∧
    ¬ StatesItsWidth unlabelledSources plainCodec (visits failingPass [dePointer])
      (nodeAfter unlabelledSources plainCodec [.pass plainPass, .pass failingPass]) := by
  refine ⟨by decide +kernel, by decide +kernel, ?_⟩
  intro h
  obtain ⟨v, hv, _, xml, hxml, _⟩ :=
    h.verified ("DE", ⟨⟨none, []⟩, "28G0yQD/5I1XW12lxjgEASX2XbD+PiRJS3bqmGRX2YY="⟩)
      (by decide +kernel)
  cases List.mem_singleton.mp hv
  cases hxml

end Width

end TrustedListWidth
