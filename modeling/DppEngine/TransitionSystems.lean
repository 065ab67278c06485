import Mathlib.Data.List.Basic

/-! Runs of a deterministic guarded transition function.

A step that is not enabled answers `none`, so an event list is one interleaving
and `run` replays it. Conditions on the steps of a run are stated on the state
before each step; no fairness or termination is assumed. -/
namespace TransitionSystems

variable {σ ε : Type*}

def run (next : σ → ε → Option σ) (s : σ) : List ε → Option σ
  | [] => some s
  | e :: es => (next s e).bind fun u => run next u es

/-- Every step the event list takes meets `cond` in the state it starts from. -/
def Along (next : σ → ε → Option σ) (cond : σ → ε → Prop) (s : σ) : List ε → Prop
  | [] => True
  | e :: es => cond s e ∧ ∀ u, next s e = some u → Along next cond u es

instance Along.decidable {next : σ → ε → Option σ} {cond : σ → ε → Prop}
    [∀ s e, Decidable (cond s e)] : ∀ s es, Decidable (Along next cond s es)
  | _, [] => .isTrue trivial
  | s, e :: es =>
    have : Decidable (∀ u, next s e = some u → Along next cond u es) :=
      match next s e with
      | none => .isTrue fun _ h => nomatch h
      | some t => @decidable_of_iff _ (Along next cond t es)
          ⟨fun h _ hu => Option.some.inj hu ▸ h, fun h => h t rfl⟩ (Along.decidable t es)
    inferInstanceAs (Decidable (_ ∧ _))

variable {next : σ → ε → Option σ} {cond cond' : σ → ε → Prop} {s u : σ} {e : ε} {es fs : List ε}

@[simp] theorem run_nil : run next s [] = some s := rfl

theorem run_cons : run next s (e :: es) = some u ↔
    ∃ t, next s e = some t ∧ run next t es = some u := by
  simp [run, Option.bind_eq_some_iff]

theorem run_append : run next s (es ++ fs) = some u ↔
    ∃ t, run next s es = some t ∧ run next t fs = some u := by
  induction es generalizing s with
  | nil => simp
  | cons e es ih =>
    simp only [List.cons_append, run_cons, ih]
    constructor
    · rintro ⟨t, ht, v, hv, hu⟩; exact ⟨v, ⟨t, ht, hv⟩, hu⟩
    · rintro ⟨v, ⟨t, ht, hv⟩, hu⟩; exact ⟨t, ht, v, hv, hu⟩

theorem run_concat : run next s (es ++ [e]) = some u ↔
    ∃ t, run next s es = some t ∧ next t e = some u := by
  simp [run_append, run_cons]

theorem along_append : Along next cond s (es ++ fs) ↔
    Along next cond s es ∧ ∀ t, run next s es = some t → Along next cond t fs := by
  induction es generalizing s with
  | nil => simp [Along]
  | cons f es ih =>
    simp only [List.cons_append, Along, ih, run_cons]
    constructor
    · rintro ⟨hf, h⟩
      exact ⟨⟨hf, fun u hu => (h u hu).1⟩, fun t ⟨u, hu, ht⟩ => (h u hu).2 t ht⟩
    · rintro ⟨⟨hf, h⟩, ht⟩
      exact ⟨hf, fun u hu => ⟨h u hu, fun t hut => ht t ⟨u, hu, hut⟩⟩⟩

theorem along_concat : Along next cond s (es ++ [e]) ↔
    Along next cond s es ∧ ∀ t, run next s es = some t → cond t e := by
  simp [along_append, Along]

theorem along_of_forall (h : ∀ e ∈ es, ∀ t, cond t e) : Along next cond s es := by
  induction es generalizing s with
  | nil => trivial
  | cons e es ih =>
    exact ⟨h e List.mem_cons_self s, fun u _ => ih fun f hf => h f (List.mem_cons_of_mem _ hf)⟩

theorem Along.drop (hc : Along next cond s (es ++ fs)) (hrun : run next s es = some u) :
    Along next cond u fs :=
  (along_append.mp hc).2 u hrun

/-- The invariant rule for runs whose steps all meet a condition. -/
theorem run_invariant {Inv : σ → Prop}
    (hstep : ∀ t e v, Inv t → cond t e → next t e = some v → Inv v)
    (hs : Inv s) (hc : Along next cond s es) (hrun : run next s es = some u) : Inv u := by
  induction es generalizing s with
  | nil => cases hrun; exact hs
  | cons e es ih =>
    obtain ⟨t, ht, hu⟩ := run_cons.mp hrun
    exact ih (hstep s e t hs hc.1 ht) (hc.2 t ht) hu

theorem along_true : ∀ {s : σ} {es : List ε}, Along next (fun _ _ => True) s es
  | _, [] => trivial
  | _, _ :: _ => ⟨trivial, fun _ _ => along_true⟩

/-- The invariant rule with no condition on the steps. -/
theorem reachable_invariant {Inv : σ → Prop}
    (hstep : ∀ t e v, Inv t → next t e = some v → Inv v)
    (hs : Inv s) (hrun : run next s es = some u) : Inv u :=
  run_invariant (fun t e v hi _ => hstep t e v hi) hs along_true hrun

/-- What every step from an invariant state guarantees, every step of a run guarantees. -/
theorem along_of_invariant {Inv : σ → Prop}
    (hstep : ∀ t e v, Inv t → cond t e → next t e = some v → Inv v)
    (hpost : ∀ t e, Inv t → cond t e → cond' t e)
    (hs : Inv s) (hc : Along next cond s es) : Along next cond' s es := by
  induction es generalizing s with
  | nil => trivial
  | cons e es ih =>
    exact ⟨hpost s e hs hc.1, fun u hu => ih (hstep s e u hs hc.1 hu) (hc.2 u hu)⟩

/-- When each step from a state with `P` keeps it exactly under `cond`, every state of a run
has `P` exactly when every step meets `cond`. -/
theorem states_iff_along {P Inv : σ → Prop} (hs : P s) (hinv : Inv s)
    (hpreserved : ∀ t e v, Inv t → next t e = some v → Inv v)
    (hstep : ∀ t e v, Inv t → P t → next t e = some v → (P v ↔ cond t e))
    (hidle : ∀ t e, next t e = none → cond t e) :
    (∀ before after t, es = before ++ after → run next s before = some t → P t) ↔
      Along next cond s es := by
  constructor
  · intro h
    induction es generalizing s with
    | nil => trivial
    | cons e es ih =>
      refine ⟨?_, ?_⟩
      · cases hnext : next s e with
        | none => exact hidle s e hnext
        | some v =>
          have hv : P v := h [e] es v rfl (run_cons.mpr ⟨v, hnext, rfl⟩)
          exact (hstep s e v hinv hs hnext).mp hv
      · intro v hnext
        have hv : P v := h [e] es v rfl (run_cons.mpr ⟨v, hnext, rfl⟩)
        refine ih hv (hpreserved s e v hinv hnext) ?_
        intro before after t heq hrun
        exact h (e :: before) after t (congrArg _ heq) (run_cons.mpr ⟨v, hnext, hrun⟩)
  · rintro h before after t rfl hrun
    induction before generalizing s with
    | nil =>
      cases hrun
      exact hs
    | cons e before ih =>
      obtain ⟨v, hnext, hrun⟩ := run_cons.mp hrun
      have hv : P v := (hstep s e v hinv hs hnext).mpr h.1
      exact ih hv (hpreserved s e v hinv hnext) (h.2 v hnext) hrun

section Exhaust

variable {μ : Type*} [WellFoundedRelation μ]

/-- Take steps for as long as one is enabled; each makes `size` smaller. -/
def exhaust (step : σ → Option σ) (size : σ → μ)
    (shrinks : ∀ s t, step s = some t → WellFoundedRelation.rel (size t) (size s)) (s : σ) : σ :=
  match _h : step s with
  | none => s
  | some t => exhaust step size shrinks t
termination_by size s
decreasing_by exact shrinks _ _ _h

variable {step : σ → Option σ} {size : σ → μ}
  {shrinks : ∀ s t, step s = some t → WellFoundedRelation.rel (size t) (size s)}

theorem exhaust_of_none (h : step s = none) : exhaust step size shrinks s = s := by
  rw [exhaust]
  split
  next => rfl
  next t ht => cases h.symm.trans ht

theorem exhaust_of_some (h : step s = some u) :
    exhaust step size shrinks s = exhaust step size shrinks u := by
  rw [exhaust]
  split
  next hn => cases hn.symm.trans h
  next t ht => cases ht.symm.trans h; rfl

theorem exhaust_done : step (exhaust step size shrinks s) = none := by
  induction s using exhaust.induct step size shrinks with
  | case1 s h => rwa [exhaust_of_none h]
  | case2 s t h ih => rwa [exhaust_of_some h]

theorem exhaust_invariant (Inv : σ → Prop) (hstep : ∀ s t, Inv s → step s = some t → Inv t)
    (hs : Inv s) : Inv (exhaust step size shrinks s) := by
  induction s using exhaust.induct step size shrinks with
  | case1 s h => rwa [exhaust_of_none h]
  | case2 s t h ih =>
    rw [exhaust_of_some h]
    exact ih (hstep s t hs h)

/-- The steps taken are finitely many: they are a run. -/
theorem exhaust_run : ∃ ticks : List Unit,
    run (fun s (_ : Unit) => step s) s ticks = some (exhaust step size shrinks s) := by
  induction s using exhaust.induct step size shrinks with
  | case1 s h => exact ⟨[], congrArg some (exhaust_of_none h).symm⟩
  | case2 s t h ih =>
    obtain ⟨ticks, hrun⟩ := ih
    refine ⟨() :: ticks, run_cons.mpr ⟨t, h, ?_⟩⟩
    rw [exhaust_of_some h, hrun]

/-- A run that ends where no step is enabled ends where `exhaust` does. -/
theorem exhaust_of_run {ticks : List Unit}
    (hrun : run (fun s (_ : Unit) => step s) s ticks = some u) (hdone : step u = none) :
    exhaust step size shrinks s = u := by
  induction ticks generalizing s with
  | nil => cases hrun; exact exhaust_of_none hdone
  | cons tick ticks ih =>
    obtain ⟨t, ht, hu⟩ := run_cons.mp hrun
    rw [exhaust_of_some ht]
    exact ih hu

end Exhaust

end TransitionSystems
