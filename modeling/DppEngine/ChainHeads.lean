import Mathlib.Data.Set.Insert

/-! Which elements a set of names stands for, when some elements have been replaced.

Every element may name one predecessor. An element `behind` its successor answers for
itself no longer: the one element that names it is followed instead. What the names lead
to is headed by the elements whose own predecessor is not among the answers. -/
namespace ChainHeads

variable {ι : Type*}

def Sole (pred : ι → Option ι) (i j : ι) : Prop := pred j = some i ∧ ∀ k, pred k = some i → k = j

inductive Ends (pred : ι → Option ι) (behind : Set ι) : ι → ι → Prop where
  | here {i} : i ∉ behind → Ends pred behind i i
  | step {i j r} : i ∈ behind → Sole pred i j → Ends pred behind j r → Ends pred behind i r

inductive Passes (pred : ι → Option ι) (behind : Set ι) : ι → ι → Prop where
  | refl (i) : Passes pred behind i i
  | step {i j r} : i ∈ behind → Sole pred i j → Passes pred behind j r → Passes pred behind i r

section Definitions

variable (pred : ι → Option ι) (behind named : Set ι)

def Answers (r : ι) : Prop := ∃ q ∈ named, Ends pred behind q r

/-- The answers that do not come by way of `x`. -/
def Beside (x r : ι) : Prop :=
  ∃ q ∈ named, ¬Passes pred behind q x ∧ Ends pred behind q r

/-- Elements of `answers` whose predecessor is not one. -/
def Head (answers : ι → Prop) (r : ι) : Prop := answers r ∧ ∀ t, pred r = some t → ¬answers t

/-- Where every name can be followed to its end, one element heads the answers. -/
def OneHead : Prop :=
  (∀ q ∈ named, ∃ r, Ends pred behind q r) →
    ∀ r t, Head pred (Answers pred behind named) r → Head pred (Answers pred behind named) t → r = t

end Definitions

section Following

variable {pred : ι → Option ι} {behind : Set ι} {i j k r t x : ι} {rank : ι → ℕ}

theorem Sole.unique (h : Sole pred i j) (h' : Sole pred i k) : j = k := h'.2 j h.1

theorem Ends.not_behind (h : Ends pred behind i r) : r ∉ behind := by
  induction h with
  | here hi => exact hi
  | step _ _ _ ih => exact ih

theorem Ends.unique (h : Ends pred behind i r) (h' : Ends pred behind i t) : r = t := by
  induction h with
  | here hi =>
    cases h' with
    | here => rfl
    | step hb _ _ => exact absurd hb hi
  | step hb hs _ ih =>
    cases h' with
    | here hi => exact absurd hb hi
    | step _ hs' h' => exact ih (hs.unique hs' ▸ h')

theorem Ends.passes (h : Ends pred behind i r) : Passes pred behind i r := by
  induction h with
  | here => exact .refl _
  | step hb hs _ ih => exact .step hb hs ih

theorem Ends.rank_le (hrank : ∀ i j, pred j = some i → rank i < rank j)
    (h : Ends pred behind i r) : rank i ≤ rank r := by
  induction h with
  | here => exact Nat.le_refl _
  | step _ hs _ ih =>
    have := hrank _ _ hs.1
    omega

end Following

section Replaced

variable {pred : ι → Option ι} {behind named : Set ι} {a q r : ι} {rank : ι → ℕ}

/-- After `a` is put behind its successor, what ended at `a` ends where the successor does. -/
theorem ends_insert (hrank : ∀ i j, pred j = some i → rank i < rank j)
    (h : Ends pred (insert a behind) q r) :
    Ends pred behind q r ∧ r ≠ a ∨
      Ends pred behind q a ∧ ∃ j, Sole pred a j ∧ Ends pred behind j r := by
  induction h with
  | here hi =>
    rw [Set.mem_insert_iff, not_or] at hi
    exact .inl ⟨.here hi.2, hi.1⟩
  | @step i j r hb hs _ ih =>
    by_cases hbehind : i ∈ behind
    · rcases ih with ⟨hr, hne⟩ | ⟨ha, hj⟩
      · exact .inl ⟨.step hbehind hs hr, hne⟩
      · exact .inr ⟨.step hbehind hs ha, hj⟩
    · obtain rfl : i = a := (Set.mem_insert_iff.mp hb).resolve_right hbehind
      rcases ih with ⟨hr, -⟩ | ⟨ha, -⟩
      · exact .inr ⟨.here hbehind, j, hs, hr⟩
      · have hlt := hrank _ _ hs.1
        have hle := ha.rank_le hrank
        omega

theorem Ends.insert_behind (h : Ends pred behind q r) (hne : r ≠ a) :
    Ends pred (insert a behind) q r := by
  induction h with
  | here hi => exact .here (by simp [hne, hi])
  | step hb hs _ ih => exact .step (Set.mem_insert_of_mem _ hb) hs (ih hne)

theorem Answers.insert_behind (h : Answers pred behind named r) (hne : r ≠ a) :
    Answers pred (insert a behind) named r := by
  obtain ⟨q, hq, hr⟩ := h
  exact ⟨q, hq, hr.insert_behind hne⟩

theorem settled_of_insert (hrank : ∀ i j, pred j = some i → rank i < rank j)
    (h : ∀ q ∈ named, ∃ r, Ends pred (insert a behind) q r) :
    ∀ q ∈ named, ∃ r, Ends pred behind q r := by
  intro q hq
  obtain ⟨r, hr⟩ := h q hq
  rcases ends_insert hrank hr with ⟨hr, -⟩ | ⟨hr, -⟩
  · exact ⟨r, hr⟩
  · exact ⟨a, hr⟩

/-- Every head after `a` was put behind is where the successor of `a` ends, or was a head
before. -/
theorem head_insert (hrank : ∀ i j, pred j = some i → rank i < rank j)
    (h : Head pred (Answers pred (insert a behind) named) r) :
    (∃ j, Sole pred a j ∧ Ends pred behind j r) ∨ pred r = some a ∧ r ∉ behind ∨
      Head pred (Answers pred behind named) r ∧ r ≠ a := by
  obtain ⟨⟨q, hq, hr⟩, hpred⟩ := h
  rcases ends_insert hrank hr with ⟨hr, hne⟩ | ⟨-, hsuccessor⟩
  · by_cases hclaims : pred r = some a
    · exact .inr (.inl ⟨hclaims, hr.not_behind⟩)
    · refine .inr (.inr ⟨⟨⟨q, hq, hr⟩, fun t ht hans => ?_⟩, hne⟩)
      have hta : t ≠ a := fun heq => hclaims (heq ▸ ht)
      exact hpred t ht (hans.insert_behind hta)
  · exact .inl hsuccessor

/-- Putting a head behind its successor leaves one head. -/
theorem oneHead_insert (hrank : ∀ i j, pred j = some i → rank i < rank j)
    (h : OneHead pred behind named)
    (hhead : Answers pred behind named a → Head pred (Answers pred behind named) a) :
    OneHead pred (insert a behind) named := by
  intro hsettled
  have hold := settled_of_insert hrank hsettled
  by_cases hans : Answers pred behind named a
  · have hfirst := hhead hans
    obtain ⟨q₀, hq₀, hend⟩ := hans
    obtain ⟨e, he⟩ := hsettled q₀ hq₀
    -- `e` is where the successor of `a` ends, and every head is `e`
    obtain ⟨j, hsole, hje⟩ : ∃ j, Sole pred a j ∧ Ends pred behind j e := by
      rcases ends_insert hrank he with ⟨hr, hne⟩ | ⟨-, hj⟩
      · exact absurd (hr.unique hend) hne
      · exact hj
    have hall : ∀ r, Head pred (Answers pred (insert a behind) named) r → r = e := by
      intro r hr
      rcases head_insert hrank hr with ⟨k, hk, hr⟩ | ⟨hclaims, hbehind⟩ | ⟨hr, hne⟩
      · rw [hk.unique hsole] at hr
        exact hr.unique hje
      · obtain rfl := hsole.2 r hclaims
        exact (Ends.here hbehind).unique hje
      · exact absurd (h hold r a hr hfirst) hne
    intro r t hr ht
    rw [hall r hr, hall t ht]
  · have hsame : Answers pred (insert a behind) named = Answers pred behind named := by
      funext r
      apply propext
      constructor
      · rintro ⟨q, hq, hr⟩
        rcases ends_insert hrank hr with ⟨hr, -⟩ | ⟨hr, -⟩
        · exact ⟨q, hq, hr⟩
        · exact absurd ⟨q, hq, hr⟩ hans
      · intro hr
        exact hr.insert_behind fun heq => hans (heq ▸ hr)
    rw [hsame]
    exact h hold

end Replaced

section Revived

variable {pred : ι → Option ι} {behind named named' : Set ι} {x q r : ι}

/-- Once `x` answers for itself, what passes by `x` ends there, and nothing else changes. -/
theorem ends_diff : Ends pred (behind \ {x}) q r ↔
    Passes pred behind q x ∧ r = x ∨ ¬Passes pred behind q x ∧ Ends pred behind q r := by
  constructor
  · intro h
    induction h with
    | @here i hi =>
      by_cases hx : i = x
      · exact .inl ⟨hx ▸ .refl i, hx⟩
      · have hbehind : i ∉ behind := fun hb => hi ⟨hb, hx⟩
        refine .inr ⟨fun hpass => ?_, .here hbehind⟩
        cases hpass with
        | refl => exact hx rfl
        | step hb _ _ => exact hbehind hb
    | @step i j r hb hs _ ih =>
      rcases ih with ⟨hpass, hr⟩ | ⟨hpass, hr⟩
      · exact .inl ⟨.step hb.1 hs hpass, hr⟩
      · refine .inr ⟨fun hpass' => ?_, .step hb.1 hs hr⟩
        cases hpass' with
        | refl => exact hb.2 rfl
        | step _ hs' hrest => exact hpass (hs.unique hs' ▸ hrest)
  · rintro (⟨hpass, rfl⟩ | ⟨hpass, hr⟩)
    · induction hpass with
      | refl i => exact .here fun hb => hb.2 rfl
      | @step i j r hb hs _ ih =>
        by_cases hx : i = r
        · subst hx
          exact .here fun hb => hb.2 rfl
        · exact .step ⟨hb, hx⟩ hs ih
    · induction hr with
      | here hi => exact .here fun hb => hi hb.1
      | @step i j r hb hs _ ih =>
        have hx : i ≠ x := by
          rintro rfl
          exact hpass (.refl i)
        exact .step ⟨hb, hx⟩ hs (ih fun hrest => hpass (.step hb hs hrest))

/-- The names do not lead to `x`, and `x` is made to answer for itself: nothing changes. -/
theorem oneHead_diff_of_not_passes (h : OneHead pred behind named)
    (hpass : ∀ q ∈ named, ¬Passes pred behind q x) : OneHead pred (behind \ {x}) named := by
  have hends : ∀ q ∈ named, ∀ r, Ends pred (behind \ {x}) q r ↔ Ends pred behind q r := by
    intro q hq r
    simp [ends_diff, hpass q hq]
  have hsame : Answers pred (behind \ {x}) named = Answers pred behind named := by
    funext r
    apply propext
    constructor
    · rintro ⟨q, hq, hr⟩
      exact ⟨q, hq, (hends q hq r).mp hr⟩
    · rintro ⟨q, hq, hr⟩
      exact ⟨q, hq, (hends q hq r).mpr hr⟩
  intro hsettled
  rw [hsame]
  refine h fun q hq => ?_
  obtain ⟨r, hr⟩ := hsettled q hq
  exact ⟨r, (hends q hq r).mp hr⟩

/-- `x` joins what the names lead to already: each head names `x` or is named by it, or
`x` names an answer and the heads that do not name `x` are one. -/
def Joins (pred : ι → Option ι) (behind named : Set ι) (x : ι) : Prop :=
  (∀ r, Head pred (Beside pred behind named x) r → pred x = some r ∨ pred r = some x) ∨
    (∃ t, pred x = some t ∧ Beside pred behind named x t) ∧
      ∀ r t, Head pred (Beside pred behind named x) r → Head pred (Beside pred behind named x) t →
        pred r ≠ some x → pred t ≠ some x → r = t

theorem oneHead_diff_of_joins (hsub : named ⊆ named') (hnew : ∀ q ∈ named', q ∈ named ∨ q = x)
    (hpass : ∃ q ∈ named', Passes pred behind q x) (hjoins : Joins pred behind named x) :
    OneHead pred (behind \ {x}) named' := by
  have hanswers : ∀ r, Answers pred (behind \ {x}) named' r ↔
      r = x ∨ Beside pred behind named x r := by
    intro r
    constructor
    · rintro ⟨q, hq, hr⟩
      rcases ends_diff.mp hr with ⟨-, hx⟩ | ⟨hpass, hr⟩
      · exact .inl hx
      · rcases hnew q hq with hq | rfl
        · exact .inr ⟨q, hq, hpass, hr⟩
        · exact absurd (.refl q) hpass
    · rintro (rfl | ⟨q, hq, hpass, hr⟩)
      · obtain ⟨q, hq, hpass⟩ := hpass
        exact ⟨q, hq, ends_diff.mpr (.inl ⟨hpass, rfl⟩)⟩
      · exact ⟨q, hsub hq, ends_diff.mpr (.inr ⟨hpass, hr⟩)⟩
  -- a head is `x`, whose predecessor is no answer, or an old head that does not name `x`
  have hhead : ∀ r, Head pred (Answers pred (behind \ {x}) named') r →
      r = x ∧ (∀ t, pred x = some t → ¬Beside pred behind named x t) ∨
        Head pred (Beside pred behind named x) r ∧ pred r ≠ some x := by
    rintro r ⟨hr, hpred⟩
    rcases (hanswers r).mp hr with rfl | hr
    · exact .inl ⟨rfl, fun t ht hbeside => hpred t ht ((hanswers t).mpr (.inr hbeside))⟩
    · refine .inr ⟨⟨hr, fun t ht hbeside => hpred t ht ((hanswers t).mpr (.inr hbeside))⟩, ?_⟩
      intro hx
      exact hpred x hx ((hanswers x).mpr (.inl rfl))
  rintro - r t hr ht
  rcases hjoins with htied | ⟨⟨u, hu, hbeside⟩, hone⟩
  · have hpredecessor : ∀ r, Head pred (Beside pred behind named x) r → pred r ≠ some x →
        pred x = some r := fun r hr hne => (htied r hr).resolve_right hne
    rcases hhead r hr with ⟨rfl, hrx⟩ | ⟨hr, hrx⟩ <;> rcases hhead t ht with ⟨rfl, htx⟩ | ⟨ht, htx⟩
    · rfl
    · exact absurd ht.1 (hrx t (hpredecessor t ht htx))
    · exact absurd hr.1 (htx r (hpredecessor r hr hrx))
    · exact Option.some.inj ((hpredecessor r hr hrx).symm.trans (hpredecessor t ht htx))
  · rcases hhead r hr with ⟨rfl, hrx⟩ | ⟨hr, hrx⟩
    · exact absurd hbeside (hrx u hu)
    · rcases hhead t ht with ⟨rfl, htx⟩ | ⟨ht, htx⟩
      · exact absurd hbeside (htx u hu)
      · exact hone r t hr ht hrx htx

end Revived

section Claimed

variable {pred pred' : ι → Option ι} {behind named : Set ι} {x q r : ι}

/-- A new element `x` names a predecessor. What is behind has been named before, so a
further name can only stop it from being followed. -/
theorem oneHead_claimed (hsame : ∀ i, i ≠ x → pred' i = pred i) (hfresh : pred x = none)
    (hnamed : x ∉ named)
    (hclaimed : ∀ i ∈ behind, ∃ j, pred j = some i) (h : OneHead pred behind named) :
    OneHead pred' behind named := by
  have hsole : ∀ i j, i ∈ behind → Sole pred' i j → Sole pred i j ∧ j ≠ x := by
    intro i j hi hj
    obtain ⟨k, hk⟩ := hclaimed i hi
    have hkx : k ≠ x := by
      rintro rfl
      cases hfresh.symm.trans hk
    obtain rfl := hj.2 k ((hsame k hkx).trans hk)
    refine ⟨⟨hk, fun l hl => hj.2 l ?_⟩, hkx⟩
    have hlx : l ≠ x := by
      rintro rfl
      cases hfresh.symm.trans hl
    exact (hsame l hlx).trans hl
  have hends : ∀ q r, Ends pred' behind q r → q ≠ x → Ends pred behind q r ∧ r ≠ x := by
    intro q r hr
    induction hr with
    | here hi => exact fun hx => ⟨.here hi, hx⟩
    | step hb hj _ ih =>
      intro _
      obtain ⟨hj, hjx⟩ := hsole _ _ hb hj
      obtain ⟨hr, hrx⟩ := ih hjx
      exact ⟨.step hb hj hr, hrx⟩
  intro hsettled
  have hne : ∀ q ∈ named, q ≠ x := fun q hq hx => hnamed (hx ▸ hq)
  have hanswers : ∀ r, Answers pred' behind named r ↔ Answers pred behind named r := by
    intro r
    constructor
    · rintro ⟨q, hq, hr⟩
      exact ⟨q, hq, (hends q r hr (hne q hq)).1⟩
    · rintro ⟨q, hq, hr⟩
      obtain ⟨t, ht⟩ := hsettled q hq
      rw [hr.unique (hends q t ht (hne q hq)).1]
      exact ⟨q, hq, ht⟩
  have hhead : ∀ r, Head pred' (Answers pred' behind named) r →
      Head pred (Answers pred behind named) r := by
    rintro r ⟨⟨q, hq, hr⟩, hpred⟩
    obtain ⟨hr', hrx⟩ := hends q r hr (hne q hq)
    refine ⟨⟨q, hq, hr'⟩, fun t ht hans => ?_⟩
    exact hpred t ((hsame r hrx).trans ht) ((hanswers t).mpr hans)
  intro r t hr ht
  refine h (fun q hq => ?_) r t (hhead r hr) (hhead t ht)
  obtain ⟨r, hr⟩ := hsettled q hq
  exact ⟨r, (hends q r hr (hne q hq)).1⟩

end Claimed

end ChainHeads
