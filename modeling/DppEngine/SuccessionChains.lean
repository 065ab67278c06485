import Mathlib.Data.Nat.Notation

/-! Chains followed forward along a succession relation to their last element. -/
namespace SuccessionChains

variable {ι : Type*}

inductive Hops (succ : ι → ι → Prop) : ℕ → ι → ι → Prop where
  | refl (i) : Hops succ 0 i i
  | step {n i j k} : succ i j → Hops succ n j k → Hops succ (n + 1) i k

def Final (succ : ι → ι → Prop) (i : ι) : Prop := ∀ j, ¬succ i j

def Latest (succ : ι → ι → Prop) (i r : ι) : Prop := ∃ n, Hops succ n i r ∧ Final succ r

def Extended (succ : ι → ι → Prop) (p x : ι) (i j : ι) : Prop := succ i j ∨ i = p ∧ j = x

section Following

variable {succ : ι → ι → Prop} {n m : ℕ} {i j k r : ι}

theorem Hops.concat (h : Hops succ n i j) (hs : succ j k) : Hops succ (n + 1) i k := by
  induction h with
  | refl i => exact .step hs (.refl k)
  | step hs' _ ih => exact .step hs' (ih hs)

theorem Hops.append (h : Hops succ n i j) (h' : Hops succ m j k) : Hops succ (n + m) i k := by
  induction h with
  | refl i =>
    rw [Nat.zero_add]
    exact h'
  | @step n _ _ _ hs _ ih =>
    rw [Nat.add_right_comm n 1 m]
    exact .step hs (ih h')

/-- A chain that comes back can be followed for ever. -/
theorem not_hops_self_of_bounded {bound : ℕ} (h : ∀ n j, Hops succ n i j → n < bound) :
    ¬Hops succ (m + 1) i i := by
  intro hcycle
  have hlong : ∀ k, ∃ n, k ≤ n ∧ Hops succ n i i := by
    intro k
    induction k with
    | zero => exact ⟨0, Nat.le_refl 0, .refl i⟩
    | succ k ih =>
      obtain ⟨n, hn, hh⟩ := ih
      exact ⟨n + (m + 1), by omega, hh.append hcycle⟩
  obtain ⟨n, hn, hh⟩ := hlong bound
  have := h n i hh
  omega

theorem Final.hops_eq (h : Final succ i) (hh : Hops succ n i r) : n = 0 ∧ r = i := by
  cases hh with
  | refl => exact ⟨rfl, rfl⟩
  | step hs _ => exact absurd hs (h _)

variable (hone : ∀ i j k, succ i j → succ i k → j = k)
include hone

theorem hops_final_unique (h : Hops succ n i j) (hj : Final succ j) (h' : Hops succ m i k)
    (hk : Final succ k) : j = k := by
  induction h generalizing m with
  | refl i => exact (hj.hops_eq h').2.symm
  | step hs _ ih =>
    cases h' with
    | refl => exact absurd hs (hk _)
    | step hs' h' => exact ih hj (hone _ _ _ hs hs' ▸ h')

theorem Latest.unique (h : Latest succ i j) (h' : Latest succ i k) : j = k := by
  obtain ⟨n, hn, hj⟩ := h
  obtain ⟨m, hm, hk⟩ := h'
  exact hops_final_unique hone hn hj hm hk

/-- What leads to an end does not lead back to itself. -/
theorem not_hops_self (h : Hops succ n i r) (hr : Final succ r) : ¬Hops succ (m + 1) i i := by
  induction h generalizing m with
  | refl i =>
    intro hcycle
    cases hcycle with
    | step hs _ => exact hr _ hs
  | step hs _ ih =>
    intro hcycle
    cases hcycle with
    | step hs' hback =>
      cases hone _ _ _ hs hs'
      exact ih hr (hback.concat hs)

end Following

section Extending

variable {succ : ι → ι → Prop} {p x i r : ι} {n : ℕ}

theorem Hops.extend (h : Hops succ n i r) : Hops (Extended succ p x) n i r := by
  induction h with
  | refl i => exact .refl i
  | step hs _ ih => exact .step (.inl hs) ih

theorem final_extended (hr : Final succ r) (hne : r ≠ p) : Final (Extended succ p x) r := by
  rintro j (hs | ⟨rfl, -⟩)
  · exact hr j hs
  · exact hne rfl

theorem Latest.extend (h : Latest succ i r) (hne : r ≠ p) : Latest (Extended succ p x) i r := by
  obtain ⟨n, hn, hr⟩ := h
  exact ⟨n, hn.extend, final_extended hr hne⟩

/-- Whatever led to `p` now leads one further, to `x`. -/
theorem Hops.extend_last (h : Hops succ n i p) : Hops (Extended succ p x) (n + 1) i x :=
  h.extend.concat (.inr ⟨rfl, rfl⟩)

end Extending

end SuccessionChains
