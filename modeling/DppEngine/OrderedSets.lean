import Mathlib

/-! Sets written down as lists in the strict order of their elements' keys. -/
namespace OrderedSets

variable {α κ : Type} [LinearOrder κ] {key : α → κ} {a : α} {l l' : List α} {fits : α → Bool}

def Ordered (key : α → κ) (l : List α) : Prop := l.Pairwise fun a b => key a < key b

def insertByKey (key : α → κ) (a : α) : List α → Option (List α)
  | [] => some [a]
  | b :: l =>
    if key a < key b then some (a :: b :: l)
    else if key a = key b then none
    else (insertByKey key a l).map fun l' => b :: l'

theorem insertByKey_perm (h : insertByKey key a l = some l') : l'.Perm (a :: l) := by
  induction l generalizing l' with
  | nil =>
    cases h
    exact .refl _
  | cons b l ih =>
    unfold insertByKey at h
    split_ifs at h
    · cases h
      exact .refl _
    · obtain ⟨m, hm, rfl⟩ := Option.map_eq_some_iff.mp h
      exact ((ih hm).cons b).trans (.swap a b l)

/-- What a list was grown by is determined. -/
theorem perm_cons_inj {b : α} (h : (a :: l).Perm (b :: l)) : a = b :=
  (Multiset.cons_inj_left (l : Multiset α)).mp (Multiset.coe_eq_coe.mpr h)

theorem insertByKey_sublist (h : insertByKey key a l = some l') : l.Sublist l' := by
  induction l generalizing l' with
  | nil => exact List.nil_sublist _
  | cons b l ih =>
    unfold insertByKey at h
    split_ifs at h
    · cases h
      exact List.sublist_cons_self _ _
    · obtain ⟨m, hm, rfl⟩ := Option.map_eq_some_iff.mp h
      exact (ih hm).cons_cons b

theorem insertByKey_ordered (hl : Ordered key l) (h : insertByKey key a l = some l') :
    Ordered key l' := by
  induction l generalizing l' with
  | nil =>
    cases h
    exact List.pairwise_singleton _ _
  | cons b l ih =>
    obtain ⟨hhead, htail⟩ := List.pairwise_cons.mp hl
    unfold insertByKey at h
    split_ifs at h with hlt heq
    · cases h
      refine List.pairwise_cons.mpr ⟨?_, hl⟩
      intro c hc
      rcases List.mem_cons.mp hc with rfl | hc
      · exact hlt
      · exact lt_trans hlt (hhead c hc)
    · obtain ⟨m, hm, rfl⟩ := Option.map_eq_some_iff.mp h
      refine List.pairwise_cons.mpr ⟨?_, ih htail hm⟩
      intro c hc
      rcases List.mem_cons.mp ((insertByKey_perm hm).mem_iff.mp hc) with rfl | hc
      · exact lt_of_le_of_ne (not_lt.mp hlt) (Ne.symm heq)
      · exact hhead c hc

/-- An element that fits is found first, unless what was found before has a smaller key. -/
theorem find?_insertByKey (hl : Ordered key l) (ha : fits a) (h : insertByKey key a l = some l') :
    (l'.find? fits = some a ∧ ∀ b, l.find? fits = some b → ¬ key b < key a) ∨
      ∃ b, l.find? fits = some b ∧ key b < key a ∧ l'.find? fits = some b := by
  induction l generalizing l' with
  | nil =>
    cases h
    exact Or.inl ⟨List.find?_cons_of_pos ha, nofun⟩
  | cons b l ih =>
    obtain ⟨hhead, htail⟩ := List.pairwise_cons.mp hl
    unfold insertByKey at h
    split_ifs at h with hlt heq
    · cases h
      refine Or.inl ⟨List.find?_cons_of_pos ha, ?_⟩
      intro c hc
      rcases List.mem_cons.mp (List.mem_of_find?_eq_some hc) with rfl | hmem
      · exact not_lt_of_gt hlt
      · exact not_lt_of_gt (lt_trans hlt (hhead c hmem))
    · obtain ⟨m, hm, rfl⟩ := Option.map_eq_some_iff.mp h
      by_cases hb : fits b
      · have hkey : key b < key a := lt_of_le_of_ne (not_lt.mp hlt) (Ne.symm heq)
        exact Or.inr ⟨b, List.find?_cons_of_pos hb, hkey, List.find?_cons_of_pos hb⟩
      · rw [List.find?_cons_of_neg hb, List.find?_cons_of_neg hb]
        exact ih htail hm

def insertAll (key : α → κ) (items : List α) : Option (List α) :=
  items.foldlM (fun set a => insertByKey key a set) []

theorem insertByKey_of_new (h : ∀ b ∈ l, key a ≠ key b) : ∃ l', insertByKey key a l = some l' := by
  induction l with
  | nil => exact ⟨[a], rfl⟩
  | cons b l ih =>
    obtain ⟨l', hl'⟩ := ih fun c hc => h c (List.mem_cons_of_mem _ hc)
    by_cases hlt : key a < key b
    · exact ⟨a :: b :: l, if_pos hlt⟩
    · refine ⟨b :: l', ?_⟩
      unfold insertByKey
      rw [if_neg hlt, if_neg (h b List.mem_cons_self), hl']
      rfl

/-- Elements of which no two have one key go in, in whatever order they are given. -/
theorem insertAll_of_nodup {items : List α} (h : (items.map key).Nodup) :
    ∃ set, insertAll key items = some set ∧ set.Perm items ∧ Ordered key set := by
  suffices hfrom : ∀ {set : List α}, Ordered key set → ((set ++ items).map key).Nodup →
      ∃ set', items.foldlM (fun set a => insertByKey key a set) set = some set' ∧
        set'.Perm (set ++ items) ∧ Ordered key set' from hfrom List.Pairwise.nil h
  clear h
  induction items with
  | nil =>
    intro set hset _
    exact ⟨set, rfl, by rw [List.append_nil], hset⟩
  | cons a items ih =>
    intro set hset hnodup
    rw [((List.perm_middle).map key).nodup_iff, List.map_cons, List.nodup_cons] at hnodup
    obtain ⟨hnew, hrest⟩ := hnodup
    have hfresh : ∀ b ∈ set, key a ≠ key b := by
      intro b hb hsame
      exact hnew (hsame ▸ List.mem_map_of_mem (List.mem_append_left _ hb))
    obtain ⟨next, hnext⟩ := insertByKey_of_new hfresh
    have hperm := insertByKey_perm hnext
    have hmoved : (next ++ items).Perm (a :: (set ++ items)) := hperm.append_right items
    have hnodup' : ((next ++ items).map key).Nodup := by
      rw [(hmoved.map key).nodup_iff, List.map_cons, List.nodup_cons]
      exact ⟨hnew, hrest⟩
    obtain ⟨last, hlast, hall, hordered⟩ := ih (insertByKey_ordered hset hnext) hnodup'
    refine ⟨last, ?_, hall.trans (hmoved.trans List.perm_middle.symm), hordered⟩
    rw [List.foldlM_cons, hnext]
    exact hlast

end OrderedSets
