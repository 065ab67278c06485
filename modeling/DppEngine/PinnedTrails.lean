import DppEngine.AuditTrail

/-! What the last hash of an accepted audit chain pins: the whole chain.

Two accepted chains with one head agree record by record, and an accepted chain that is edited
before its head is rejected at the edit or right behind it. -/
namespace PinnedTrails

open JsonValues AuditTrail HashChains

/-- What `chain_hash` covers, the link aside. An absent `metadata` is hashed as `null`. -/
structure SameRecord (e f : PassportAuditEntry) : Prop where
  id : e.id = f.id
  passportId : e.passportId = f.passportId
  actor : e.actor = f.actor
  action : e.action = f.action
  previousStatus : e.previousStatus = f.previousStatus
  newStatus : e.newStatus = f.newStatus
  metadata : e.metadata.getD .null = f.metadata.getD .null
  timestamp : e.timestamp = f.timestamp

/-- An edit of a chain at the given place. A changed entry keeps its `entry_hash`, and whatever
else it carries is free. -/
inductive Edited : ℕ → List PassportAuditEntry → List PassportAuditEntry → Prop where
  | changed (pre : List PassportAuditEntry) (e e' : PassportAuditEntry)
      (post : List PassportAuditEntry) (hkept : e'.entryHash = e.entryHash)
      (hchanged : ¬SameRecord e e') : Edited pre.length (pre ++ e :: post) (pre ++ e' :: post)
  | deleted (pre : List PassportAuditEntry) (e f : PassportAuditEntry)
      (post : List PassportAuditEntry) :
        Edited pre.length (pre ++ e :: f :: post) (pre ++ f :: post)
  | inserted (pre : List PassportAuditEntry) (g e : PassportAuditEntry)
      (post : List PassportAuditEntry) :
        Edited pre.length (pre ++ e :: post) (pre ++ g :: e :: post)
  | swapped (pre : List PassportAuditEntry) (e : PassportAuditEntry)
      (mid : List PassportAuditEntry) (f : PassportAuditEntry) (post : List PassportAuditEntry) :
      Edited pre.length (pre ++ e :: (mid ++ f :: post)) (pre ++ f :: (mid ++ e :: post))

section Chains

variable {contentHash : ChainContent → String} {xs ys pre post : List PassportAuditEntry}
  {e f : PassportAuditEntry} {p q : String} {index i : ℕ}

theorem content_eq_iff : e.content p = f.content q ↔ SameRecord e f ∧ p = q := by
  constructor
  · intro h
    simp only [PassportAuditEntry.content, ChainContent.mk.injEq] at h
    obtain ⟨h₁, h₂, h₃, h₄, h₅, h₆, h₇, h₈, hprev⟩ := h
    exact ⟨⟨h₁, h₂, h₃, h₄, h₅, h₆, h₇, h₈⟩, hprev⟩
  · rintro ⟨⟨h₁, h₂, h₃, h₄, h₅, h₆, h₇, h₈⟩, rfl⟩
    simp only [PassportAuditEntry.content, h₁, h₂, h₃, h₄, h₅, h₆, h₇, h₈]

abbrev Chain (contentHash : ChainContent → String) (p : String)
    (entries : List PassportAuditEntry) : Prop :=
  Linked PassportAuditEntry.storedPrev PassportAuditEntry.storedHash
    (PassportAuditEntry.chainHash contentHash) p entries

abbrev headOf (entries : List PassportAuditEntry) : String :=
  tip PassportAuditEntry.storedHash genesisPrevHash entries

/-- The verifier takes an accepted beginning, and goes on from its head. -/
theorem verifyFrom_append (h : Chain contentHash p pre) :
    verifyFrom contentHash index p (pre ++ post) =
      verifyFrom contentHash (index + pre.length)
        (tip PassportAuditEntry.storedHash p pre) post := by
  induction pre generalizing index p with
  | nil => rfl
  | cons e pre ih =>
    obtain ⟨hprev, hhash, hrest⟩ := h
    rw [hhash] at hrest
    simp only [List.cons_append, verifyFrom, hprev, hhash, ne_eq, not_true_eq_false, if_false]
    rw [ih hrest, tip, hhash, List.length_cons, Nat.add_right_comm, Nat.add_assoc]

theorem broken_link (contentHash : ChainContent → String) (index : ℕ)
    (post : List PassportAuditEntry) (h : e.storedPrev ≠ p) :
    ∃ b, verifyFrom contentHash index p (e :: post) = .error b ∧ b.index = index := by
  rw [verifyFrom, if_pos h]
  exact ⟨_, rfl, rfl⟩

theorem broken_hash (index : ℕ) (post : List PassportAuditEntry)
    (h : e.storedHash ≠ e.chainHash contentHash p) :
    ∃ b, verifyFrom contentHash index p (e :: post) = .error b ∧ b.index = index := by
  by_cases hlink : e.storedPrev = p
  · rw [verifyFrom, if_neg (not_not_intro hlink), if_pos h]
    exact ⟨_, rfl, rfl⟩
  · exact broken_link contentHash index post hlink

theorem Chain.storedHash_eq (h : Chain contentHash genesisPrevHash (pre ++ e :: post)) :
    e.storedHash = contentHash (e.content (headOf pre)) := (linked_append.mp h).2.2.1

theorem headOf_getLast (h : xs.getLast? = some e) : headOf xs = e.storedHash := by
  obtain ⟨front, rfl⟩ := List.getLast?_eq_some_iff.mp h
  exact tip_concat

theorem mem_hashedContents (he : e ∈ xs) : e.content e.storedPrev ∈ hashedContents xs :=
  ⟨e, he, rfl⟩

theorem links_fixed (hfree : CollisionFreeOn contentHash (hashedContents xs ∪ hashedContents ys))
    (he : e ∈ xs) (hf : f ∈ xs ∨ f ∈ ys)
    (h : e.chainHash contentHash e.storedPrev = f.chainHash contentHash f.storedPrev) :
    SameRecord e f ∧ e.storedPrev = f.storedPrev := by
  apply content_eq_iff.mp
  apply hfree.1 (Or.inl (mem_hashedContents he)) _ h
  exact hf.imp mem_hashedContents mem_hashedContents

theorem links_forward (hfree : CollisionFreeOn contentHash (hashedContents xs ∪ hashedContents ys))
    (he : e ∈ xs ∨ e ∈ ys) : e.chainHash contentHash e.storedPrev ≠ genesisPrevHash :=
  hfree.2 _ (he.imp mem_hashedContents mem_hashedContents)

theorem headOf_ne {mid : List PassportAuditEntry}
    (hfree : CollisionFreeOn contentHash (hashedContents xs ∪ hashedContents ys))
    (hxs : xs = (pre ++ e :: mid) ++ post) (h : Chain contentHash genesisPrevHash xs) :
    headOf (pre ++ e :: mid) ≠ headOf pre := by
  subst hxs
  refine (linked_append.mp h).1.tip_ne ?_ ?_
  · intro d hd f hf heq
    exact (links_fixed hfree (List.mem_append_left _ hd) (Or.inl (List.mem_append_left _ hf)) heq).2
  · exact fun d hd => links_forward hfree (Or.inl (List.mem_append_left _ hd))

/-- An entry behind the cut points at another head than the one before the cut. -/
theorem storedPrev_ne {mid : List PassportAuditEntry}
    (hfree : CollisionFreeOn contentHash (hashedContents xs ∪ hashedContents ys))
    (hxs : xs = (pre ++ e :: mid) ++ f :: post) (h : Chain contentHash genesisPrevHash xs) :
    f.storedPrev ≠ headOf pre := by
  have hprev : f.storedPrev = headOf (pre ++ e :: mid) := by
    subst hxs
    exact Linked.prev_eq h
  rw [hprev]
  exact headOf_ne hfree hxs h

theorem chainHash_ne_headOf {g : PassportAuditEntry}
    (hfree : CollisionFreeOn contentHash (hashedContents xs ∪ hashedContents ys))
    (hxs : xs = pre ++ post) (h : Chain contentHash genesisPrevHash xs) (hg : g ∈ ys)
    (hprev : g.storedPrev = headOf pre) : g.chainHash contentHash (headOf pre) ≠ headOf pre := by
  have hmem : g.content (headOf pre) ∈ hashedContents ys := by
    rw [← hprev]
    exact mem_hashedContents hg
  rcases List.eq_nil_or_concat' pre with rfl | ⟨front, d, rfl⟩
  · exact hfree.2 _ (Or.inr hmem)
  · intro heq
    have hchain : Chain contentHash genesisPrevHash (front ++ d :: post) := by
      rw [hxs] at h
      simpa using h
    have hd : d.storedPrev = headOf front := Linked.prev_eq hchain
    have hmemd : d.content (headOf front) ∈ hashedContents xs := by
      rw [← hd, hxs]
      exact mem_hashedContents (by simp)
    have hhead : headOf (front ++ [d]) = contentHash (d.content (headOf front)) := by
      rw [← hchain.storedHash_eq]
      exact tip_concat
    have hsame : g.content (headOf (front ++ [d])) = d.content (headOf front) :=
      hfree.1 (Or.inr hmem) (Or.inl hmemd) (heq.trans hhead)
    exact headOf_ne hfree hxs h (content_eq_iff.mp hsame).2

theorem accepted_agree (hfree : CollisionFreeOn contentHash (hashedContents xs ∪ hashedContents ys))
    (hxs : Chain contentHash genesisPrevHash xs) (hys : Chain contentHash genesisPrevHash ys)
    (hhead : headOf xs = headOf ys) : List.Forall₂ SameRecord xs ys := by
  refine hxs.agree_of_tip_eq hys ?_ ?_ hhead
  · intro e he f hf heq
    obtain ⟨hrecord, hprev⟩ := links_fixed hfree he (Or.inr hf) heq
    exact ⟨hprev, hrecord⟩
  · exact fun e he => links_forward hfree he

/-- An edit is found where it is, or at the next entry. -/
theorem edited_rejected
    (hfree : CollisionFreeOn contentHash (hashedContents xs ∪ hashedContents ys))
    (h : Chain contentHash genesisPrevHash xs) (hedit : Edited i xs ys) :
    ∃ b, verifyAuditChain contentHash ys = .error b ∧ b.index ≤ i + 1 := by
  unfold verifyAuditChain
  cases hedit with
  | changed pre e e' post hkept hchanged =>
    have hpre := (linked_append.mp h).1
    have hstored : e'.storedHash = e.storedHash := by
      unfold PassportAuditEntry.storedHash
      rw [hkept]
    rw [verifyFrom_append hpre, Nat.zero_add]
    by_cases hlink : e'.storedPrev = headOf pre
    · have hhash : e'.storedHash ≠ e'.chainHash contentHash (headOf pre) := by
        intro heq
        rw [hstored, Chain.storedHash_eq h] at heq
        have hprev : e.storedPrev = headOf pre := Linked.prev_eq h
        have hmem : e.content (headOf pre) ∈ hashedContents (pre ++ e :: post) := by
          rw [← hprev]
          exact mem_hashedContents (by simp)
        have hmem' : e'.content (headOf pre) ∈ hashedContents (pre ++ e' :: post) := by
          rw [← hlink]
          exact mem_hashedContents (by simp)
        exact hchanged (content_eq_iff.mp (hfree.1 (Or.inl hmem) (Or.inr hmem') heq)).1
      obtain ⟨b, hb, hindex⟩ := broken_hash pre.length post hhash
      exact ⟨b, hb, by omega⟩
    · obtain ⟨b, hb, hindex⟩ := broken_link contentHash pre.length post hlink
      exact ⟨b, hb, by omega⟩
  | deleted pre e f post =>
    rw [verifyFrom_append (linked_append.mp h).1, Nat.zero_add]
    have hsplit : pre ++ e :: f :: post = (pre ++ e :: []) ++ f :: post := by simp
    have hne : f.storedPrev ≠ headOf pre := storedPrev_ne hfree hsplit h
    obtain ⟨b, hb, hindex⟩ := broken_link contentHash pre.length post hne
    exact ⟨b, hb, by omega⟩
  | inserted pre g e post =>
    rw [verifyFrom_append (linked_append.mp h).1, Nat.zero_add]
    by_cases hlink : g.storedPrev = headOf pre
    · by_cases hhash : g.storedHash = g.chainHash contentHash (headOf pre)
      · have hprev : e.storedPrev = headOf pre := Linked.prev_eq h
        have hne : e.storedPrev ≠ g.chainHash contentHash (headOf pre) := by
          rw [hprev]
          exact (chainHash_ne_headOf hfree rfl h (by simp) hlink).symm
        obtain ⟨b, hb, hindex⟩ := broken_link contentHash (pre.length + 1) post hne
        refine ⟨b, ?_, by omega⟩
        rw [verifyFrom, if_neg (not_not_intro hlink), if_neg (not_not_intro hhash)]
        exact hb
      · obtain ⟨b, hb, hindex⟩ := broken_hash pre.length (e :: post) hhash
        exact ⟨b, hb, by omega⟩
    · obtain ⟨b, hb, hindex⟩ := broken_link contentHash pre.length (e :: post) hlink
      exact ⟨b, hb, by omega⟩
  | swapped pre e mid f post =>
    rw [verifyFrom_append (linked_append.mp h).1, Nat.zero_add]
    have hsplit : pre ++ e :: (mid ++ f :: post) = (pre ++ e :: mid) ++ f :: post := by simp
    have hne : f.storedPrev ≠ headOf pre := storedPrev_ne hfree hsplit h
    obtain ⟨b, hb, hindex⟩ := broken_link contentHash pre.length (mid ++ e :: post) hne
    exact ⟨b, hb, by omega⟩

/-- The last hash of an accepted chain pins it: an accepted chain with that hash holds the same
records, and an edit of the chain before its last entry is rejected where it was made. -/
theorem head_pins_chain (contentHash : ChainContent → String) (xs ys : List PassportAuditEntry)
    (hfree : CollisionFreeOn contentHash (hashedContents xs ∪ hashedContents ys))
    (haccepted : verifyAuditChain contentHash xs = .ok ()) :
    (verifyAuditChain contentHash ys = .ok () → ∀ e ∈ xs.getLast?, ∀ f ∈ ys.getLast?,
      e.entryHash = f.entryHash → List.Forall₂ SameRecord xs ys) ∧
    (∀ i, Edited i xs ys →
      ∃ b, verifyAuditChain contentHash ys = .error b ∧ b.index ≤ i + 1) := by
  have hxs : Chain contentHash genesisPrevHash xs := verifyFrom_ok_iff.mp haccepted
  constructor
  · intro hother e he f hf hhash
    refine accepted_agree hfree hxs (verifyFrom_ok_iff.mp hother) ?_
    rw [headOf_getLast he, headOf_getLast hf, PassportAuditEntry.storedHash,
      PassportAuditEntry.storedHash, hhash]
  · exact fun i hedit => edited_rejected hfree hxs hedit

end Chains

section Samples

def sampleChain : List PassportAuditEntry :=
  [{ early with prevHash := some "", entryHash := some earlyDigest },
    { late with
      prevHash := some earlyDigest
      entryHash := some "5d2d1091c19a47c1f39465d78c8ac42a65d2f09087139bb0c3b811f3abfb0274" }]

def forgedEntry : PassportAuditEntry :=
  { early with actor := "somebody", prevHash := some "", entryHash := some earlyDigest }

def forgedDigest (c : ChainContent) : String :=
  if c = forgedEntry.content genesisPrevHash then lateDigest else sampleDigest c

theorem sample_forgery_is_found :
    ∃ b, verifyAuditChain forgedDigest (forgedEntry :: sampleChain.drop 1) = .error b ∧
      b.index ≤ 1 := by
  have hcontents : ∀ c ∈ hashedContents sampleChain ∪
      hashedContents (forgedEntry :: sampleChain.drop 1),
      c = early.content "" ∨ c = late.content earlyDigest ∨ c = forgedEntry.content "" := by
    rintro c (⟨r, hr, rfl⟩ | ⟨r, hr, rfl⟩)
    · simp only [sampleChain, List.mem_cons, List.not_mem_nil, or_false] at hr
      rcases hr with rfl | rfl
      · exact Or.inl rfl
      · exact Or.inr (Or.inl rfl)
    · simp only [sampleChain, List.drop_succ_cons, List.drop_zero, List.mem_cons,
        List.not_mem_nil, or_false] at hr
      rcases hr with rfl | rfl
      · exact Or.inr (Or.inr rfl)
      · exact Or.inr (Or.inl rfl)
  have hfree : CollisionFreeOn forgedDigest (hashedContents sampleChain ∪
      hashedContents (forgedEntry :: sampleChain.drop 1)) := by
    constructor
    · intro c hc d hd heq
      rcases hcontents c hc with rfl | rfl | rfl <;> rcases hcontents d hd with rfl | rfl | rfl <;>
        first | rfl | exact absurd heq (by decide +kernel)
    · intro c hc
      rcases hcontents c hc with rfl | rfl | rfl <;> decide +kernel
  exact (head_pins_chain forgedDigest sampleChain (forgedEntry :: sampleChain.drop 1) hfree
    (by decide +kernel)).2 0 (.changed [] _ forgedEntry _ rfl (fun h => by
      have := h.actor
      revert this
      decide))

end Samples

end PinnedTrails
