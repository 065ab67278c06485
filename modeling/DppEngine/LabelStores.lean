import DppEngine.LabelClaims

/-! What a write to the passport rows does to the labels: which record each label leads
to, and that the labels of live passports keep one head. -/
namespace LabelClaims

open PassportModel (PassportStatus PassportId)
open PrintedLabels AmendedLabels

section Rows

variable {s s' : Store} {x y p q r : Passport} {i : PassportId} {f : Passport → Passport}
  {label : String × CarrierQualifier}

structure Rewritten (s s' : Store) (x y : Passport) : Prop where
  mem : x ∈ s
  rows : ∀ q, q ∈ s' ↔ q ∈ s ∧ q.id ≠ x.id ∨ q = y
  ids : (s'.map Passport.id).Nodup
  restated : Restated x y
  published : EverPublished x → EverPublished y

theorem rewritten_revise (hids : (s.map Passport.id).Nodup) (hx : x ∈ s) (hf : Restated x (f x))
    (hpublished : EverPublished x → EverPublished (f x)) :
    Rewritten s (revise s x.id f) x (f x) := by
  refine ⟨hx, fun q => mem_revise hids hx, ?_, hf, hpublished⟩
  have hsame : (revise s x.id f).map Passport.id = s.map Passport.id := by
    rw [revise, List.map_map]
    refine List.map_congr_left fun p hp => ?_
    simp only [Function.comp_apply]
    split
    next hid =>
      cases List.inj_on_of_nodup_map hids hp hx hid
      exact hf.id_eq
    next => rfl
  rwa [hsame]

theorem Rewritten.written (h : Rewritten s s' x y) : y ∈ s' := (h.rows y).mpr (.inr rfl)

theorem Rewritten.kept (h : Rewritten s s' x y) (hq : q ∈ s) (hne : q.id ≠ x.id) : q ∈ s' :=
  (h.rows q).mpr (.inl ⟨hq, hne⟩)

theorem Rewritten.image (h : Rewritten s s' x y) (hids : (s.map Passport.id).Nodup)
    (hp : p ∈ s) : ∃ p' ∈ s', Restated p p' ∧ (EverPublished p → EverPublished p') := by
  by_cases hid : p.id = x.id
  · cases List.inj_on_of_nodup_map hids hp h.mem hid
    exact ⟨y, h.written, h.restated, h.published⟩
  · exact ⟨p, h.kept hp hid, rfl, fun hep => hep⟩

theorem Rewritten.origin (h : Rewritten s s' x y) (hq : q ∈ s') : ∃ p ∈ s, Restated p q := by
  rcases (h.rows q).mp hq with ⟨hq, -⟩ | rfl
  · exact ⟨q, hq, rfl⟩
  · exact ⟨x, h.mem, h.restated⟩

theorem Rewritten.predecessor_eq (h : Rewritten s s' x y) (hids : (s.map Passport.id).Nodup) :
    predecessor s' = predecessor s := by
  funext i
  apply Option.ext
  intro j
  rw [predecessor_eq_some h.ids, predecessor_eq_some hids]
  constructor
  · rintro ⟨q, hq, rfl, hj⟩
    obtain ⟨p, hp, hpq⟩ := h.origin hq
    exact ⟨p, hp, hpq.id_eq.symm, hpq.supersedesId_eq ▸ hj⟩
  · rintro ⟨p, hp, rfl, hj⟩
    obtain ⟨q, hq, hpq, -⟩ := h.image hids hp
    exact ⟨q, hq, hpq.id_eq, hpq.supersedesId_eq.trans hj⟩

theorem Rewritten.behind_superseded (h : Rewritten s s' x y) (hy : y.status = .superseded) :
    behind s' = insert x.id (behind s) := by
  ext i
  constructor
  · rintro ⟨q, hq, rfl, hs⟩
    rcases (h.rows q).mp hq with ⟨hq, -⟩ | rfl
    · exact .inr ⟨q, hq, rfl, hs⟩
    · exact .inl h.restated.id_eq
  · rintro (rfl | ⟨q, hq, rfl, hs⟩)
    · exact ⟨y, h.written, h.restated.id_eq, hy⟩
    · by_cases hid : q.id = x.id
      · exact ⟨y, h.written, h.restated.id_eq.trans hid.symm, hy⟩
      · exact ⟨q, h.kept hq hid, rfl, hs⟩

theorem Rewritten.behind_current (h : Rewritten s s' x y) (hy : y.status ≠ .superseded) :
    behind s' = behind s \ {x.id} := by
  ext i
  constructor
  · rintro ⟨q, hq, rfl, hs⟩
    rcases (h.rows q).mp hq with ⟨hq, hid⟩ | rfl
    · exact ⟨⟨q, hq, rfl, hs⟩, hid⟩
    · exact absurd hs hy
  · rintro ⟨⟨q, hq, rfl, hs⟩, hid⟩
    exact ⟨q, h.kept hq hid, rfl, hs⟩

theorem Rewritten.named_subset (h : Rewritten s s' x y) (hids : (s.map Passport.id).Nodup) :
    named s label ⊆ named s' label := by
  rintro _ ⟨p, hp, rfl, hep, hnames⟩
  obtain ⟨q, hq, hpq, hpublished⟩ := h.image hids hp
  exact ⟨q, hq, hpq.id_eq, hpublished hep, (hpq.names label).trans hnames⟩

theorem Rewritten.named_new (h : Rewritten s s' x y) (hi : i ∈ named s' label) :
    i ∈ named s label ∨ i = x.id ∧ labelNames label x = true := by
  obtain ⟨q, hq, rfl, hep, hnames⟩ := hi
  rcases (h.rows q).mp hq with ⟨hq, -⟩ | rfl
  · exact .inl ⟨q, hq, rfl, hep, hnames⟩
  · exact .inr ⟨h.restated.id_eq, (h.restated.names label).symm.trans hnames⟩

/-- A row that is written back as published as it was leaves the names as they are. -/
theorem Rewritten.named_eq (h : Rewritten s s' x y) (hids : (s.map Passport.id).Nodup)
    (hpublished : EverPublished y → EverPublished x) : named s' label = named s label := by
  apply Set.Subset.antisymm
  · rintro _ ⟨q, hq, rfl, hep, hnames⟩
    rcases (h.rows q).mp hq with ⟨hq, -⟩ | rfl
    · exact ⟨q, hq, rfl, hep, hnames⟩
    · exact ⟨x, h.mem, h.restated.id_eq.symm, hpublished hep,
        (h.restated.names label).symm.trans hnames⟩
  · exact h.named_subset hids

theorem Rewritten.orderly (h : Rewritten s s' x y) (hs : Orderly s)
    (hstamp : y.publishedAt.isSome = true ↔ EverPublished y)
    (hclaim : y.status = .superseded → ∃ q ∈ s, EverPublished q ∧ q.supersedesId = some x.id) :
    Orderly s' := by
  constructor
  case ids => exact h.ids
  case refs =>
    intro q hq i hi
    obtain ⟨p, hp, hpq⟩ := h.origin hq
    obtain ⟨t, ht, rfl⟩ := hs.refs p hp i (hpq.supersedesId_eq ▸ hi)
    obtain ⟨t', ht', htt', -⟩ := h.image hs.ids ht
    exact ⟨t', ht', htt'.id_eq⟩
  case ranked =>
    obtain ⟨rank, hrank⟩ := hs.ranked
    refine ⟨rank, fun q hq i hi => ?_⟩
    obtain ⟨p, hp, hpq⟩ := h.origin hq
    rw [hpq.id_eq]
    exact hrank p hp i (hpq.supersedesId_eq ▸ hi)
  case stamped =>
    intro q hq
    rcases (h.rows q).mp hq with ⟨hq, -⟩ | rfl
    · exact hs.stamped q hq
    · exact hstamp
  case claimed =>
    intro q hq hsuperseded
    obtain ⟨t, ht, hep, hclaims⟩ : ∃ t ∈ s, EverPublished t ∧ t.supersedesId = some q.id := by
      rcases (h.rows q).mp hq with ⟨hq, -⟩ | rfl
      · exact hs.claimed q hq hsuperseded
      · rw [h.restated.id_eq]
        exact hclaim hsuperseded
    obtain ⟨t', ht', htt', hpublished⟩ := h.image hs.ids ht
    exact ⟨t', ht', hpublished hep, htt'.supersedesId_eq.trans hclaims⟩

end Rows

section Names

variable {s s' : Store} {x y p q : Passport} {label : String × CarrierQualifier}

/-- Every label that a live passport prints leads to one head. -/
def NamesOne (store : Store) : Prop := ∀ label, (∃ p ∈ store, Prints label p) →
  ChainHeads.OneHead (predecessor store) (behind store) (named store label)

def Unopposed (store : Store) (read : Passport) : Prop := ∀ r ∈ store, Live r → r.id ≠ read.id →
  SameLabel read r → read.supersedesId = some r.id ∨ r.supersedesId = some read.id

theorem unopposed_of_heldElsewhere (h : heldElsewhere s x = none) : Unopposed s x := by
  rintro r hr ⟨hep, hcurrent⟩ hne ⟨label, hx, hlabel⟩
  obtain ⟨hclaim, -, -⟩ := printedLabel_claims hx
  obtain ⟨-, hcarries, hprinted⟩ := printedLabel_claims hlabel
  have hholder : r ∈ findByCarrier s (.gs1 label.1) label.2 :=
    List.mem_filter.mpr ⟨hr, by simp [hcarries, hprinted]⟩
  by_contra hnot
  rw [not_or] at hnot
  have hheld : (findByCarrier s (.gs1 label.1) label.2).any (fun q =>
      q.id ≠ x.id && some q.id ≠ x.supersedesId && q.supersedesId ≠ some x.id &&
        !q.neverPublished && q.status ≠ .superseded) = true := by
    rw [List.any_eq_true]
    refine ⟨r, hholder, ?_⟩
    have hnever : r.neverPublished = false := hep
    simp [hne, hnot.2, hnever, hcurrent, Ne.symm hnot.1]
  simp only [heldElsewhere, hclaim, Claim.holders, hheld, if_true] at h
  cases h

theorem Rewritten.namesOne_of_current (h : Rewritten s s' x y) (hs : Orderly s)
    (hx : x.status ≠ .superseded) (hy : y.status ≠ .superseded)
    (hpublished : EverPublished y → EverPublished x) (hone : NamesOne s) : NamesOne s' := by
  rintro label ⟨p, hp, ⟨hep, hcurrent⟩, hlabel⟩
  have hbehind : behind s' = behind s := by
    rw [h.behind_current hy]
    exact Set.sdiff_singleton_eq_self fun hb => hx ((mem_behind hs.ids h.mem).mp hb)
  rw [h.predecessor_eq hs.ids, hbehind, h.named_eq hs.ids hpublished]
  apply hone label
  rcases (h.rows p).mp hp with ⟨hp, -⟩ | rfl
  · exact ⟨p, hp, ⟨hep, hcurrent⟩, hlabel⟩
  · exact ⟨x, h.mem, ⟨hpublished hep, hx⟩, h.restated.label.symm.trans hlabel⟩

theorem Rewritten.namesOne_of_superseded (h : Rewritten s s' x y) (hs : Orderly s)
    (hx : EverPublished x) (hy : y.status = .superseded) (hone : NamesOne s)
    (hkeeps : ∀ label, (∃ p ∈ s, p.id ≠ x.id ∧ Prints label p) → ∀ i,
      predecessor s x.id = some i →
        ¬(ChainHeads.Answers (predecessor s) (behind s) (named s label) x.id ∧
          ChainHeads.Answers (predecessor s) (behind s) (named s label) i)) : NamesOne s' := by
  rintro label ⟨p, hp, hprints⟩
  obtain ⟨rank, hrank⟩ := hs.predecessor_rank
  rw [h.predecessor_eq hs.ids, h.behind_superseded hy, h.named_eq hs.ids fun _ => hx]
  rcases (h.rows p).mp hp with ⟨hp, hid⟩ | rfl
  · apply ChainHeads.oneHead_insert hrank (hone label ⟨p, hp, hprints⟩)
    intro hanswers
    exact ⟨hanswers, fun i hi hi' => hkeeps label ⟨p, hp, hid, hprints⟩ i hi ⟨hanswers, hi'⟩⟩
  · exact absurd hy hprints.1.2

/-- What a name leads to is a live passport: the published record itself, or the published
one that a superseded record leads to. -/
theorem live_of_ends (hs : Orderly s) {i j : PassportId} (hi : ∃ p ∈ s, p.id = i ∧ EverPublished p)
    (h : ChainHeads.Ends (predecessor s) (behind s) i j) : ∃ p ∈ s, p.id = j ∧ Live p := by
  induction h with
  | here hcurrent =>
    obtain ⟨p, hp, rfl, hep⟩ := hi
    exact ⟨p, hp, rfl, hep, fun hsuper => hcurrent ((mem_behind hs.ids hp).mpr hsuper)⟩
  | step hb hsole _ ih =>
    obtain ⟨p, hp, rfl, hsuper⟩ := hb
    obtain ⟨q, hq, hep, hclaim⟩ := hs.claimed p hp hsuper
    have hid := hsole.2 q.id ((predecessor_eq_some hs.ids).mpr ⟨q, hq, rfl, hclaim⟩)
    exact ih ⟨q, hq, hid, hep⟩

theorem live_of_beside (hs : Orderly s) {i j : PassportId}
    (h : ChainHeads.Beside (predecessor s) (behind s) (named s label) i j) :
    ∃ p ∈ s, p.id = j ∧ Live p ∧ p.id ≠ i := by
  obtain ⟨_, ⟨q, hq, rfl, hep, -⟩, hpass, hends⟩ := h
  obtain ⟨p, hp, rfl, hlive⟩ := live_of_ends hs ⟨q, hq, rfl, hep⟩ hends
  refine ⟨p, hp, rfl, hlive, ?_⟩
  rintro rfl
  exact hpass hends.passes

/-- Where `x` is unopposed, a passport that prints its label is tied to it. -/
theorem joins_of_takesItsPlace (hs : Orderly s) (hx : x ∈ s) (hunopposed : Unopposed s x)
    (h : TakesItsPlace s label x) :
    ChainHeads.Joins (predecessor s) (behind s) (named s label) x.id := by
  rcases h with htied | ⟨⟨i, hi, hbeside⟩, hheads⟩
  · left
    intro j hj
    obtain ⟨r, hr, rfl, hlive, hne⟩ := live_of_beside hs hj.1
    rw [predecessor_of_mem hs.ids hx, predecessor_of_mem hs.ids hr]
    rcases htied r ⟨hr, hj⟩ with hnames | hnamed | hsame
    · exact .inl hnames
    · exact .inr hnamed
    · exact hunopposed r hr hlive hne hsame
  · right
    refine ⟨⟨i, (predecessor_of_mem hs.ids hx).trans hi, hbeside⟩, ?_⟩
    intro j k hj hk hjx hkx
    obtain ⟨r, hr, rfl, -, -⟩ := live_of_beside hs hj.1
    obtain ⟨t, ht, rfl, -, -⟩ := live_of_beside hs hk.1
    rw [predecessor_of_mem hs.ids hr] at hjx
    rw [predecessor_of_mem hs.ids ht] at hkx
    rw [hheads r t ⟨hr, hj⟩ ⟨ht, hk⟩ hjx hkx]

/-- A passport that did not answer goes live where it takes its place. -/
theorem Rewritten.namesOne_of_live (h : Rewritten s s' x y) (hs : Orderly s)
    (hy : y.status = .published) (hone : NamesOne s) (hunopposed : Unopposed s x)
    (hkeeps : ∀ label, LeadsTo s label x →
      (x.printedLabel = some label ∨ ∃ p ∈ s, Prints label p) → TakesItsPlace s label x) :
    NamesOne s' := by
  rintro label ⟨p, hp, hprints⟩
  have hcurrent : y.status ≠ .superseded := by simp [hy]
  have hnew : ∀ i ∈ named s' label, i ∈ named s label ∨ i = x.id := fun i hi =>
    (h.named_new hi).imp_right And.left
  rw [h.predecessor_eq hs.ids, h.behind_current hcurrent]
  by_cases hpass : ∃ i ∈ named s' label,
      ChainHeads.Passes (predecessor s) (behind s) i x.id
  · have hleads : LeadsTo s label x := by
      obtain ⟨i, hi, hpass⟩ := hpass
      rcases h.named_new hi with hi | ⟨-, hnames⟩
      · exact .inr ⟨i, hi, hpass⟩
      · exact .inl hnames
    have hprinted : x.printedLabel = some label ∨ ∃ p ∈ s, Prints label p := by
      rcases (h.rows p).mp hp with ⟨hp, -⟩ | rfl
      · exact .inr ⟨p, hp, hprints⟩
      · exact .inl (h.restated.label.symm.trans hprints.2)
    exact ChainHeads.oneHead_diff_of_joins (h.named_subset hs.ids) hnew hpass
      (joins_of_takesItsPlace hs h.mem hunopposed (hkeeps label hleads hprinted))
  · push Not at hpass
    have hnamed : named s' label = named s label := by
      apply Set.Subset.antisymm _ (h.named_subset hs.ids)
      intro i hi
      rcases hnew i hi with hi' | rfl
      · exact hi'
      · exact absurd (.refl _) (hpass _ hi)
    rw [hnamed] at hpass ⊢
    apply ChainHeads.oneHead_diff_of_not_passes _ hpass
    rcases (h.rows p).mp hp with ⟨hp, -⟩ | rfl
    · exact hone label ⟨p, hp, hprints⟩
    · have hself : x.id ∈ named s' label :=
        ⟨p, h.written, h.restated.id_eq, hprints.1.1, printedLabel_names hprints.2⟩
      exact absurd (.refl _) (hpass _ (hnamed ▸ hself))

theorem orderly_concat (hs : Orderly s) (hfresh : ∀ p ∈ s, p.id ≠ x.id) (hx : x.status = .draft)
    (hstamp : x.publishedAt = none) (hrefs : ∀ i, x.supersedesId = some i → ∃ p ∈ s, p.id = i) :
      Orderly (s ++ [x]) := by
  constructor
  case ids => exact concat_nodup hs.ids hfresh
  case refs =>
    intro q hq i hi
    obtain ⟨p, hp, hid⟩ : ∃ p ∈ s, p.id = i := by
      rcases mem_concat.mp hq with hq | rfl
      · exact hs.refs q hq i hi
      · exact hrefs i hi
    exact ⟨p, mem_concat.mpr (.inl hp), hid⟩
  case ranked =>
    -- the new row ranks above the one it names, and no row names the new one
    obtain ⟨rank, hrank⟩ := hs.ranked
    have hstored : ∀ p ∈ s, Function.update rank x.id ((x.supersedesId.map rank).getD 0 + 1) p.id =
        rank p.id := fun p hp => Function.update_of_ne (hfresh p hp) _ _
    refine ⟨Function.update rank x.id ((x.supersedesId.map rank).getD 0 + 1), ?_⟩
    intro q hq i hi
    rcases mem_concat.mp hq with hq | rfl
    · obtain ⟨p, hp, rfl⟩ := hs.refs q hq i hi
      rw [hstored p hp, hstored q hq]
      exact hrank q hq p.id hi
    · obtain ⟨p, hp, rfl⟩ := hrefs i hi
      rw [hstored p hp, Function.update_self, hi]
      simp
  case stamped =>
    intro p hp
    rcases mem_concat.mp hp with hp | rfl
    · exact hs.stamped p hp
    · simp [hstamp, not_everPublished_of_draft hx]
  case claimed =>
    intro p hp hsuper
    rcases mem_concat.mp hp with hp | rfl
    · obtain ⟨q, hq, h⟩ := hs.claimed p hp hsuper
      exact ⟨q, mem_concat.mpr (.inl hq), h⟩
    · cases hx.symm.trans hsuper

theorem namesOne_concat (hs : Orderly s) (hs' : Orderly (s ++ [x]))
    (hfresh : ∀ p ∈ s, p.id ≠ x.id) (hx : x.status = .draft) (hone : NamesOne s) :
    NamesOne (s ++ [x]) := by
  have hbehind : behind (s ++ [x]) = behind s := by
    ext i
    constructor
    · rintro ⟨p, hp, rfl, hsuper⟩
      rcases mem_concat.mp hp with hp | rfl
      · exact ⟨p, hp, rfl, hsuper⟩
      · cases hx.symm.trans hsuper
    · rintro ⟨p, hp, rfl, hsuper⟩
      exact ⟨p, mem_concat.mpr (.inl hp), rfl, hsuper⟩
  have hold : ∀ p ∈ s ++ [x], EverPublished p → p ∈ s := by
    intro p hp hep
    rcases mem_concat.mp hp with hp | rfl
    · exact hp
    · exact absurd hx hep.ne_draft
  rintro label ⟨p, hp, hprints⟩
  have hnamed : named (s ++ [x]) label = named s label := by
    ext i
    constructor
    · rintro ⟨q, hq, rfl, hep, hnames⟩
      exact ⟨q, hold q hq hep, rfl, hep, hnames⟩
    · rintro ⟨q, hq, rfl, h⟩
      exact ⟨q, mem_concat.mpr (.inl hq), rfl, h⟩
  rw [hbehind, hnamed]
  refine ChainHeads.oneHead_claimed (x := x.id) (fun i hi => ?_) ?_ ?_ ?_
    (hone label ⟨p, hold p hp hprints.1.1, hprints⟩)
  · apply Option.ext
    intro j
    rw [predecessor_eq_some hs'.ids, predecessor_eq_some hs.ids]
    constructor
    · rintro ⟨q, hq, rfl, hj⟩
      rcases mem_concat.mp hq with hq | rfl
      · exact ⟨q, hq, rfl, hj⟩
      · exact absurd rfl hi
    · rintro ⟨q, hq, rfl, hj⟩
      exact ⟨q, mem_concat.mpr (.inl hq), rfl, hj⟩
  · apply Option.eq_none_iff_forall_ne_some.mpr
    intro j hj
    obtain ⟨q, hq, hid, -⟩ := (predecessor_eq_some hs.ids).mp hj
    exact hfresh q hq hid
  · rintro ⟨q, hq, hid, -⟩
    exact hfresh q hq hid
  · rintro _ ⟨q, hq, rfl, hsuper⟩
    obtain ⟨t, ht, -, hclaim⟩ := hs.claimed q hq hsuper
    exact ⟨t.id, (predecessor_eq_some hs.ids).mpr ⟨t, ht, rfl, hclaim⟩⟩

end Names

end LabelClaims
