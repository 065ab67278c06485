import Mathlib.Tactic.Cases

/-! Inverting computations that can fail: what a success says about each step. -/
namespace FallibleSteps

variable {ε ε' α β : Type} {x : Except ε α}

theorem bind_ok {f : α → Except ε β} {b : β} (h : x >>= f = .ok b) :
    ∃ a, x = .ok a ∧ f a = .ok b := by
  cases x with
  | error e => cases h
  | ok a => exact ⟨a, rfl, h⟩

theorem mapError_ok {f : ε → ε'} {a : α} (h : x.mapError f = .ok a) : x = .ok a := by
  cases x with
  | error e => cases h
  | ok c =>
    cases h
    rfl

theorem bind_error {f : α → Except ε β} {e : ε} (h : x >>= f = .error e) :
    x = .error e ∨ ∃ a, x = .ok a ∧ f a = .error e := by
  cases x with
  | error e' =>
    cases h
    exact .inl rfl
  | ok a => exact .inr ⟨a, rfl, h⟩

theorem mapError_error {f : ε → ε'} {e : ε'} (h : x.mapError f = .error e) :
    ∃ e', x = .error e' ∧ e = f e' := by
  cases x with
  | error e' =>
    cases h
    exact ⟨e', rfl, rfl⟩
  | ok c => cases h

theorem toOption_eq_some {a : α} : x.toOption = some a ↔ x = .ok a := by
  cases x <;> simp [Except.toOption]

theorem ok_of_isSome (h : x.toOption.isSome) : ∃ a, x = .ok a := by
  obtain ⟨a, ha⟩ := Option.isSome_iff_exists.mp h
  exact ⟨a, toOption_eq_some.mp ha⟩

section Lists

variable {γ δ : Type*} {f : γ → Except ε δ}

theorem mapM_ok {l : List γ} (h : ∀ a ∈ l, ∃ b, f a = .ok b) :
    ∃ bs, l.mapM f = .ok bs ∧ List.Forall₂ (fun a b => f a = .ok b) l bs := by
  induction l with
  | nil => exact ⟨[], rfl, .nil⟩
  | cons a l ih =>
    obtain ⟨b, hb⟩ := h a List.mem_cons_self
    obtain ⟨bs, hbs, hall⟩ := ih fun a' ha' => h a' (List.mem_cons_of_mem _ ha')
    refine ⟨b :: bs, ?_, .cons hb hall⟩
    rw [List.mapM_cons, hb, hbs]
    rfl

end Lists

section Stateful

variable {σ : Type}

/-- The state a computation leaves, whether it succeeds or fails. -/
def after (x : EStateM ε σ α) (s : σ) : σ :=
  match x s with
  | .ok _ s' => s'
  | .error _ s' => s'

variable {x : EStateM ε σ α} {f : α → EStateM ε σ β} {s s' : σ}

theorem get_bind {g : σ → EStateM ε σ β} : (get >>= g) s = g s s := rfl

theorem set_bind {g : PUnit → EStateM ε σ β} : (set s' >>= g) s = g ⟨⟩ s' := rfl

theorem after_bind_of_ok {a : α} (h : x s = .ok a s') : after (x >>= f) s = after (f a) s' := by
  simp only [after, bind, EStateM.bind, h]

theorem after_bind_of_error {e : ε} (h : x s = .error e s') : after (x >>= f) s = s' := by
  simp only [after, bind, EStateM.bind, h]

/-- What follows a step without touching the state leaves the state of that step. -/
theorem after_bind_quiet (h : ∀ a s, after (f a) s = s) : after (x >>= f) s = after x s := by
  cases hx : x s with
  | ok a s' => rw [after_bind_of_ok hx, h, after, hx]
  | error e s' => rw [after_bind_of_error hx, after, hx]

theorem after_adaptExcept (g : ε → ε') : after (EStateM.adaptExcept g x) s = after x s := by
  unfold after EStateM.adaptExcept
  cases x s <;> rfl

theorem adaptExcept_eq_ok_iff {g : ε → ε'} {a : α} :
    EStateM.adaptExcept g x s = .ok a s' ↔ x s = .ok a s' := by
  unfold EStateM.adaptExcept
  cases x s <;> simp

theorem stateful_bind_ok {b : β} (h : (x >>= f) s = .ok b s') :
    ∃ a t, x s = .ok a t ∧ f a t = .ok b s' := by
  simp only [bind, EStateM.bind] at h
  cases hx : x s with
  | ok a t => exact ⟨a, t, rfl, by rwa [hx] at h⟩
  | error e t => rw [hx] at h; cases h

end Stateful

end FallibleSteps
