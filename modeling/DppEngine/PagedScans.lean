import Mathlib

/-! Scans of an ordered table in pages, by a cursor on the key.

Each page is the first rows behind the cursor, some of which cannot be read. The cursor moves to
the last row that could, so the unread rows at the end of a page are met again. -/
namespace PagedScans

variable {α β κ : Type} [LinearOrder κ]

def beyond (key : α → κ) (rows : List α) : Option κ → List α
  | none => rows
  | some k => rows.filter fun r => k < key r

def page (key : α → κ) (limit : ℕ) (rows : List α) (cursor : Option κ) : List α :=
  (beyond key rows cursor).take limit

/-- No readable row stands behind a whole page of rows that cannot be read. -/
def NoBlindPage (read : α → Option β) (limit : ℕ) (rows : List α) : Prop :=
  ∀ i < rows.length, limit ≤ (rows.drop i).length →
    (∀ r ∈ (rows.drop i).take limit, (read r).isNone = true) →
      ∀ r ∈ rows.drop (i + limit), (read r).isNone = true

instance (read : α → Option β) (limit : ℕ) (rows : List α) :
    Decidable (NoBlindPage read limit rows) :=
  inferInstanceAs (Decidable (∀ i < rows.length, _))

/-- The cursor stands between `done` and `rest`. -/
structure Stands (key : α → κ) (rows : List α) (cursor : Option κ) (done rest : List α) : Prop where
  split : rows = done ++ rest
  beyond : beyond key rows cursor = rest

section Facts

variable {key : α → κ} {read : α → Option β} {rows done rest : List α} {cursor : Option κ}
  {limit : ℕ} {b : β}

theorem stands_start (rows : List α) : Stands key rows none [] rows := ⟨rfl, rfl⟩

theorem beyond_key {a : α} (hsorted : (done ++ a :: rest).Pairwise fun r r' => key r < key r') :
    beyond key (done ++ a :: rest) (some (key a)) = rest := by
  obtain ⟨-, htail, hbefore⟩ := List.pairwise_append.mp hsorted
  obtain ⟨hafter, -⟩ := List.pairwise_cons.mp htail
  have hdone : done.filter (fun r => key a < key r) = [] := by
    apply List.filter_eq_nil_iff.mpr
    intro r hr
    have hlt : key r < key a := hbefore r hr a List.mem_cons_self
    simpa using le_of_lt hlt
  have hrest : rest.filter (fun r => key a < key r) = rest := by
    apply List.filter_eq_self.mpr
    intro r hr
    simpa using hafter r hr
  simp [beyond, List.filter_append, hdone, hrest]

theorem last_read (h : (rows.filterMap read).getLast? = some b) :
    ∃ before a after, rows = before ++ a :: after ∧ read a = some b ∧
      after.filterMap read = [] := by
  obtain ⟨bs, hbs⟩ := List.getLast?_eq_some_iff.mp h
  obtain ⟨l₁, l₂, rfl, -, hlast⟩ := List.filterMap_eq_append_iff.mp hbs
  obtain ⟨before, a, after, rfl, -, ha, hafter⟩ := List.filterMap_eq_cons_iff.mp hlast
  exact ⟨l₁ ++ before, a, after, by simp, ha, hafter⟩

/-- A page that reads something moves the cursor behind everything it has read, and no further. -/
theorem Stands.advance (hsorted : rows.Pairwise fun r r' => key r < key r')
    (h : Stands key rows cursor done rest)
    (hlast : ((page key limit rows cursor).filterMap read).getLast? = some b) :
    ∃ a done' rest', read a = some b ∧ Stands key rows (some (key a)) done' rest' ∧
      done'.filterMap read = done.filterMap read ++
        (page key limit rows cursor).filterMap read := by
  rw [page, h.beyond] at hlast ⊢
  obtain ⟨before, a, after, hpage, ha, hafter⟩ := last_read hlast
  have hrest : rest = before ++ a :: (after ++ rest.drop limit) := by
    calc rest = rest.take limit ++ rest.drop limit := (List.take_append_drop limit rest).symm
      _ = before ++ a :: (after ++ rest.drop limit) := by rw [hpage]; simp
  have hrows : rows = (done ++ before) ++ a :: (after ++ rest.drop limit) := by
    calc rows = done ++ rest := h.split
      _ = (done ++ before) ++ a :: (after ++ rest.drop limit) := by
        nth_rewrite 1 [hrest]
        simp
  refine ⟨a, done ++ before ++ [a], after ++ rest.drop limit, ha, ⟨?_, ?_⟩, ?_⟩
  · rw [hrows]
    simp
  · rw [hrows] at hsorted ⊢
    exact beyond_key hsorted
  · rw [hpage]
    simp [List.filterMap_append, hafter, ha]

/-- A page that reads nothing ends a scan that has read everything, unless it was blind. -/
theorem Stands.complete (h : Stands key rows cursor done rest)
    (hnothing : (page key limit rows cursor).filterMap read = [])
    (hblind : NoBlindPage read limit rows) : done.filterMap read = rows.filterMap read := by
  rw [page, h.beyond, List.filterMap_eq_nil_iff] at hnothing
  have hdrop : rows.drop done.length = rest := by
    rw [h.split]
    simp
  have hunread : rest.filterMap read = [] := by
    apply List.filterMap_eq_nil_iff.mpr
    by_cases hshort : rest.length ≤ limit
    · rwa [List.take_of_length_le hshort] at hnothing
    · have hlength : rows.length = done.length + rest.length := by rw [h.split]; simp
      have hlater := hblind done.length (by omega) (by rw [hdrop]; omega)
        (by rw [hdrop]; intro r hr; simp [hnothing r hr])
      rw [← List.drop_drop, hdrop] at hlater
      intro r hr
      rw [← List.take_append_drop limit rest] at hr
      rcases List.mem_append.mp hr with hr | hr
      · exact hnothing r hr
      · exact Option.isNone_iff_eq_none.mp (hlater r hr)
  rw [h.split, List.filterMap_append, hunread, List.append_nil]

/-- Rewriting rows under their keys leaves the cursor where it stands. -/
theorem Stands.map {f : α → α} (hkey : ∀ a, key (f a) = key a)
    (h : Stands key rows cursor done rest) :
    Stands key (rows.map f) cursor (done.map f) (rest.map f) := by
  refine ⟨by rw [h.split, List.map_append], ?_⟩
  rw [← h.beyond]
  cases cursor with
  | none => rfl
  | some k =>
    simp only [PagedScans.beyond, List.filter_map]
    congr 1
    exact List.filter_congr fun r _ => by simp [hkey]

end Facts

end PagedScans
