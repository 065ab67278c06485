import Mathlib.Data.List.Basic

/-! The newest of a list, under an order in which entries may tie. -/
namespace NewestEntries

variable {α : Type} {older : α → α → Bool} {l : List α} {a b m : α}

/-- Of equals the last. -/
def newer (older : α → α → Bool) (best : Option α) (a : α) : Option α :=
  match best with
  | none => some a
  | some b => if older a b then some b else some a

def newest (older : α → α → Bool) (l : List α) : Option α := l.foldl (newer older) none

/-- A strict order in which not being older is transitive too. -/
structure Ranked (older : α → α → Bool) : Prop where
  irrefl : ∀ a, ¬ older a a
  trans : ∀ {a b c}, older a b → older b c → older a c
  split : ∀ {a b} c, older a b → older a c ∨ older c b

theorem foldl_newer (h : Ranked older) (hm : l.foldl (newer older) (some b) = some m) :
    m ∈ b :: l ∧ ∀ a ∈ b :: l, ¬ older m a := by
  induction l generalizing b with
  | nil =>
    cases hm
    refine ⟨List.mem_cons_self, ?_⟩
    intro a ha
    cases List.mem_singleton.mp ha
    exact h.irrefl _
  | cons c l ih =>
    rw [List.foldl_cons, newer] at hm
    split at hm
    next hold =>
      obtain ⟨hmem, hnone⟩ := ih hm
      refine ⟨?_, ?_⟩
      · rcases List.mem_cons.mp hmem with rfl | hl
        · exact List.mem_cons_self
        · exact List.mem_cons_of_mem _ (List.mem_cons_of_mem _ hl)
      · intro a ha holder
        rcases List.mem_cons.mp ha with rfl | ha
        · exact hnone a List.mem_cons_self holder
        · rcases List.mem_cons.mp ha with rfl | ha
          · exact hnone b List.mem_cons_self (h.trans holder hold)
          · exact hnone a (List.mem_cons_of_mem _ ha) holder
    next hnot =>
      obtain ⟨hmem, hnone⟩ := ih hm
      refine ⟨List.mem_cons_of_mem _ hmem, ?_⟩
      intro a ha holder
      rcases List.mem_cons.mp ha with rfl | ha
      · rcases h.split c holder with hc | hc
        · exact hnone c List.mem_cons_self hc
        · exact hnot hc
      · exact hnone a ha holder

theorem foldl_newer_isSome (b : α) (l : List α) :
    (l.foldl (newer older) (some b)).isSome := by
  induction l generalizing b with
  | nil => rfl
  | cons c l ih =>
    rw [List.foldl_cons, newer]
    split
    · exact ih b
    · exact ih c

theorem newest_mem (h : Ranked older) (hm : newest older l = some m) :
    m ∈ l ∧ ∀ a ∈ l, ¬ older m a := by
  cases l with
  | nil => cases hm
  | cons b l => exact foldl_newer h hm

/-- Where no two entries tie, the newest is the one that none is newer than. -/
theorem newest_eq_some_iff (h : Ranked older)
    (htotal : ∀ a ∈ l, ∀ b ∈ l, a ≠ b → older a b ∨ older b a) :
    newest older l = some m ↔ m ∈ l ∧ ∀ a ∈ l, ¬ older m a := by
  refine ⟨newest_mem h, ?_⟩
  rintro ⟨hmem, hnone⟩
  cases l with
  | nil => cases hmem
  | cons b l =>
    obtain ⟨n, hn⟩ := Option.isSome_iff_exists.mp (@foldl_newer_isSome _ older b l)
    have hn : newest older (b :: l) = some n := hn
    obtain ⟨hnmem, hnnone⟩ := newest_mem h hn
    by_cases heq : n = m
    · rw [hn, heq]
    · rcases htotal n hnmem m hmem heq with hold | hold
      · exact absurd hold (hnnone m hmem)
      · exact absurd hold (hnone n hnmem)

end NewestEntries
