import Mathlib.Data.List.Sort

/-! Selecting from a list that is sorted by an order under which different elements may be equal:
insertion sort is stable, so selecting and sorting commute. -/
namespace StableSorts

variable {α : Type*} {r : α → α → Prop} [DecidableRel r] {p : α → Bool} {a b : α} {l : List α}

theorem filter_orderedInsert_of_neg (ha : p a = false) (l : List α) :
    (l.orderedInsert r a).filter p = l.filter p := by
  induction l with
  | nil => simp [ha]
  | cons b l ih =>
    by_cases hab : r a b
    · rw [List.orderedInsert_cons_of_le r l hab, List.filter_cons_of_neg (by simp [ha])]
    · rw [List.orderedInsert_of_not_le r l hab, List.filter_cons, List.filter_cons, ih]

theorem filter_orderedInsert [IsTrans α r] (ha : p a = true) (hl : l.Pairwise r) :
    (l.orderedInsert r a).filter p = (l.filter p).orderedInsert r a := by
  induction l with
  | nil => simp [ha]
  | cons b l ih =>
    obtain ⟨hb, hl⟩ := List.pairwise_cons.mp hl
    by_cases hab : r a b
    · -- `a` goes first, and is below everything that is selected
      rw [List.orderedInsert_cons_of_le r l hab, List.filter_cons_of_pos ha]
      have hall : ∀ c ∈ (b :: l).filter p, r a c := by
        intro c hc
        rcases List.mem_cons.mp (List.mem_filter.mp hc).1 with rfl | hc
        · exact hab
        · exact trans_of r hab (hb c hc)
      cases hsel : (b :: l).filter p with
      | nil => rfl
      | cons c cs =>
        rw [List.orderedInsert_cons_of_le r cs (hall c (by simp [hsel]))]
    · rw [List.orderedInsert_of_not_le r l hab, List.filter_cons, List.filter_cons, ih hl]
      by_cases hpb : p b = true
      · rw [if_pos hpb, if_pos hpb, List.orderedInsert_of_not_le r _ hab]
      · rw [if_neg hpb, if_neg hpb]

theorem filter_insertionSort [Std.Total r] [IsTrans α r] (l : List α) :
    (l.insertionSort r).filter p = (l.filter p).insertionSort r := by
  induction l with
  | nil => rfl
  | cons a l ih =>
    rw [List.insertionSort_cons]
    by_cases ha : p a = true
    · rw [filter_orderedInsert ha (List.pairwise_insertionSort r l), ih, List.filter_cons_of_pos ha,
        List.insertionSort_cons]
    · rw [filter_orderedInsert_of_neg (by simpa using ha), ih, List.filter_cons_of_neg ha]

/-- An element above all the others is sorted to the end. -/
theorem getLast?_insertionSort [Std.Total r] [IsTrans α r] (ha : a ∈ l)
    (h : ∀ b ∈ l, b ≠ a → ¬ r a b) : (l.insertionSort r).getLast? = some a := by
  have hmem : a ∈ l.insertionSort r := (List.mem_insertionSort r).mpr ha
  obtain ⟨front, last, hlast⟩ : ∃ front last, l.insertionSort r = front ++ [last] :=
    ⟨_, _, (List.dropLast_append_getLast (List.ne_nil_of_mem hmem)).symm⟩
  have hsorted := List.pairwise_insertionSort r l
  rw [hlast] at hmem hsorted
  have hin : last ∈ l := (List.mem_insertionSort r).mp (by simp [hlast])
  rw [hlast, List.getLast?_concat, Option.some.injEq]
  by_contra hne
  rcases List.mem_append.mp hmem with hfront | hend
  · exact h last hin hne ((List.pairwise_append.mp hsorted).2.2 a hfront last (by simp))
  · exact hne (List.mem_singleton.mp hend).symm

end StableSorts
