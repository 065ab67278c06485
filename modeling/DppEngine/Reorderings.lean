import Mathlib.Data.List.Perm.Basic

/-! The same items in another order, and what is read off the first one that fits.

A reordering may also rearrange what is inside each item, as far as `R` allows. -/
namespace Reorderings

section Reordering

variable {α β : Type*} {R : α → α → Prop} {f : α → List β} {l l' : List α} {a b : α}

def Reordered (R : α → α → Prop) (l l' : List α) : Prop :=
  ∃ mid, l.Perm mid ∧ List.Forall₂ R mid l'

theorem Reordered.refl (hR : ∀ a, R a a) (l : List α) : Reordered R l l :=
  ⟨l, .refl l, List.forall₂_same.mpr fun a _ => hR a⟩

/-- Any item can come first, rearranged inside as `R` allows. -/
theorem Reordered.front (hR : ∀ a, R a a) (ha : a ∈ l) (hb : R a b) :
    ∃ rest, Reordered R l (b :: rest) := by
  obtain ⟨before, after, rfl⟩ := List.append_of_mem ha
  refine ⟨before ++ after, a :: (before ++ after), List.perm_middle, .cons hb ?_⟩
  exact List.forall₂_same.mpr fun a _ => hR a

theorem flatMap_perm_of_forall₂ (hf : ∀ a b, R a b → (f a).Perm (f b))
    (h : List.Forall₂ R l l') : (l.flatMap f).Perm (l'.flatMap f) := by
  induction h with
  | nil => exact .refl _
  | cons hab _ ih => exact (hf _ _ hab).append ih

theorem Reordered.flatMap_perm (hf : ∀ a b, R a b → (f a).Perm (f b))
    (h : Reordered R l l') : (l.flatMap f).Perm (l'.flatMap f) := by
  obtain ⟨mid, hperm, hsame⟩ := h
  exact (hperm.flatMap_right f).trans (flatMap_perm_of_forall₂ hf hsame)

end Reordering

section FirstMatch

variable {α : Type*} {fits good : α → Bool} {l : List α} {a b : α}

def Agree (fits good : α → Bool) (l : List α) : Prop :=
  ∀ a ∈ l, ∀ b ∈ l, fits a → fits b → good a = good b

theorem Agree.good_first (h : Agree fits good l) (ha : a ∈ l) (hfits : fits a)
    (hb : l.find? fits = some b) : good b = good a :=
  h b (List.mem_of_find?_eq_some hb) a ha (List.find?_some hb) hfits

theorem Agree.good_find? (h : Agree fits good l) (hb : l.find? fits = some b) :
    good b = l.any fun a => fits a && good a := by
  cases hgood : good b with
  | true =>
    refine (List.any_eq_true.mpr ⟨b, List.mem_of_find?_eq_some hb, ?_⟩).symm
    rw [List.find?_some hb, hgood, Bool.and_self]
  | false =>
    refine (List.any_eq_false.mpr fun a ha hboth => ?_).symm
    rw [Bool.and_eq_true] at hboth
    have := h.good_first ha hboth.1 hb
    rw [hgood, hboth.2] at this
    cases this

theorem find?_eq_none_of_false (h : ∀ a ∈ l, fits a = false) : l.find? fits = none :=
  List.find?_eq_none.mpr fun a ha => by simp [h a ha]

theorem find?_isSome_of_mem (ha : a ∈ l) (hfits : fits a) : ∃ b, l.find? fits = some b := by
  rw [← Option.isSome_iff_exists, List.find?_isSome]
  exact ⟨a, ha, hfits⟩

theorem find?_of_sole (ha : a ∈ l) (hfits : fits a) (hsole : ∀ b ∈ l, fits b → b = a) :
    l.find? fits = some a := by
  obtain ⟨b, hb⟩ := find?_isSome_of_mem ha hfits
  rw [hb, hsole b (List.mem_of_find?_eq_some hb) (List.find?_some hb)]

end FirstMatch

end Reorderings
