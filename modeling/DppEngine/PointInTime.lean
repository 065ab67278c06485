import Mathlib.Logic.Basic
import Mathlib.Order.Lattice

/-! Histories read at a moment.

A history is a first value and the changes made to it, each with its moment. The same
history is kept the other way round by an archive: the values that were replaced, each
with the moment it stopped being current, and the value that is current. The two agree
up to a relation that may change a value without a change being recorded. -/
namespace PointInTime

variable {τ α : Type*}

section Archives

variable (same : α → α → Prop)

/-- An archive holds a history: every value that a change replaced, under the moment of
that change, and the last value. -/
def Holds : α → List (τ × α) → List (τ × α) → α → Prop
  | first, [], [], current => same first current
  | first, (c, a) :: archive, (c', b) :: changes, current =>
    c = c' ∧ same first a ∧ Holds b archive changes current
  | _, _, _, _ => False

variable {same} {first current other : α} {archive changes : List (τ × α)} {c : τ}

theorem Holds.change (h : Holds same first archive changes current) (hself : same other other) :
    Holds same first (archive ++ [(c, current)]) (changes ++ [(c, other)]) other := by
  induction archive generalizing first changes with
  | nil =>
    cases changes with
    | nil => exact ⟨rfl, h, hself⟩
    | cons b changes => exact h.elim
  | cons a archive ih =>
    cases changes with
    | nil => exact h.elim
    | cons b changes => exact ⟨h.1, h.2.1, ih h.2.2⟩

/-- The current value may be replaced by one that counts as the same. -/
theorem Holds.restate (h : Holds same first archive changes current)
    (htrans : ∀ a b c, same a b → same b c → same a c) (hsame : same current other) :
    Holds same first archive changes other := by
  induction archive generalizing first changes with
  | nil =>
    cases changes with
    | nil => exact htrans _ _ _ h hsame
    | cons b changes => exact h.elim
  | cons a archive ih =>
    cases changes with
    | nil => exact h.elim
    | cons b changes => exact ⟨h.1, h.2.1, ih h.2.2⟩

theorem Holds.moments (h : Holds same first archive changes current) :
    archive.map Prod.fst = changes.map Prod.fst := by
  induction archive generalizing first changes with
  | nil =>
    cases changes with
    | nil => rfl
    | cons b changes => exact h.elim
  | cons a archive ih =>
    cases changes with
    | nil => exact h.elim
    | cons b changes => exact congrArg₂ List.cons h.1 (ih h.2.2)

end Archives

section Moments

variable [LinearOrder τ] {same : α → α → Prop} {first current other : α}
  {archive changes : List (τ × α)} {c t : τ}

/-- The value that stood at `t`: what the last change up to `t` made of it. -/
def valueAt (first : α) : List (τ × α) → τ → α
  | [], _ => first
  | (c, a) :: changes, t => if t < c then first else valueAt a changes t

/-- The archived value that was the first to stop being current after `t`, or the
current one. -/
def archivedAt (archive : List (τ × α)) (current : α) (t : τ) : α :=
  ((archive.find? fun v => t < v.1).map Prod.snd).getD current

theorem archivedAt_of_le (h : ∀ v ∈ archive, v.1 ≤ t) : archivedAt archive current t = current := by
  have hnone : archive.find? (fun v => t < v.1) = none := by
    rw [List.find?_eq_none]
    intro v hv
    simpa using h v hv
  rw [archivedAt, hnone]
  rfl

/-- An archive read at a moment gives the value that stood at it. -/
theorem Holds.same_valueAt (h : Holds same first archive changes current) (t : τ) :
    same (valueAt first changes t) (archivedAt archive current t) := by
  induction archive generalizing first changes with
  | nil =>
    cases changes with
    | nil => exact h
    | cons b changes => exact h.elim
  | cons a archive ih =>
    cases changes with
    | nil => exact h.elim
    | cons b changes =>
      obtain ⟨hmoment, hfirst, hrest⟩ := h
      have hih := ih hrest
      by_cases ht : t < b.1
      · simpa [valueAt, archivedAt, hmoment, ht] using hfirst
      · simpa [valueAt, archivedAt, hmoment, ht] using hih

theorem valueAt_concat (ht : t < c) :
    valueAt first (changes ++ [(c, other)]) t = valueAt first changes t := by
  induction changes generalizing first with
  | nil => simp [valueAt, ht]
  | cons b changes ih =>
    by_cases hb : t < b.1
    · simp [valueAt, hb]
    · simp [valueAt, hb, ih]

end Moments

section Entries

variable [LinearOrder τ] {entries before after : List (α × τ)} {p : α × τ} {t : τ} {a : α}
  {answer : Option α} {good : α → Bool}

/-- The value of a latest entry that has started by `t`, or none before the first start. -/
def Stands (entries : List (α × τ)) (t : τ) : Option α → Prop
  | none => ∀ p ∈ entries, t < p.2
  | some a => ∃ p ∈ entries, p.1 = a ∧ p.2 ≤ t ∧ ∀ q ∈ entries, q.2 ≤ t → q.2 ≤ p.2

/-- Of two entries with one start, the earlier listed. -/
def latest (t : τ) : List (α × τ) → Option (α × τ)
  | [] => none
  | p :: entries =>
    match latest t entries with
    | none => if p.2 ≤ t then some p else none
    | some q => if q.2 ≤ p.2 ∧ p.2 ≤ t then some p else some q

theorem latest_spec (t : τ) (entries : List (α × τ)) :
    (∀ p, latest t entries = some p →
      p ∈ entries ∧ p.2 ≤ t ∧ ∀ q ∈ entries, q.2 ≤ t → q.2 ≤ p.2) ∧
    (latest t entries = none → ∀ p ∈ entries, t < p.2) := by
  induction entries with
  | nil => exact ⟨nofun, fun _ => List.forall_mem_nil _⟩
  | cons e entries ih =>
    obtain ⟨hsome, hnone⟩ := ih
    unfold latest
    cases hrest : latest t entries with
    | none =>
      have hlate := hnone hrest
      by_cases he : e.2 ≤ t
      · simp only [if_pos he]
        refine ⟨?_, nofun⟩
        rintro p ⟨⟩
        refine ⟨List.mem_cons_self, he, List.forall_mem_cons.mpr ⟨fun _ => le_rfl, ?_⟩⟩
        exact fun q hq hqt => absurd hqt (not_le.mpr (hlate q hq))
      · simp only [if_neg he]
        exact ⟨nofun, fun _ => List.forall_mem_cons.mpr ⟨not_le.mp he, hlate⟩⟩
    | some q =>
      obtain ⟨hq, hqt, hmax⟩ := hsome q hrest
      by_cases he : q.2 ≤ e.2 ∧ e.2 ≤ t
      · simp only [if_pos he]
        refine ⟨?_, nofun⟩
        rintro p ⟨⟩
        refine ⟨List.mem_cons_self, he.2, List.forall_mem_cons.mpr ⟨fun _ => le_rfl, ?_⟩⟩
        exact fun r hr hrt => (hmax r hr hrt).trans he.1
      · simp only [if_neg he]
        refine ⟨?_, nofun⟩
        rintro p ⟨⟩
        refine ⟨List.mem_cons_of_mem _ hq, hqt, List.forall_mem_cons.mpr ⟨?_, hmax⟩⟩
        intro het
        rcases le_total q.2 e.2 with hle | hle
        · exact absurd ⟨hle, het⟩ he
        · exact hle

theorem stands_latest (t : τ) (entries : List (α × τ)) :
    Stands entries t ((latest t entries).map Prod.fst) := by
  obtain ⟨hsome, hnone⟩ := latest_spec t entries
  cases h : latest t entries with
  | none => exact hnone h
  | some p =>
    obtain ⟨hp, hpt, hmax⟩ := hsome p h
    exact ⟨p, hp, rfl, hpt, hmax⟩

theorem stands_own_start (h : p ∈ entries) : Stands entries p.2 (some p.1) :=
  ⟨p, h, rfl, le_rfl, fun _ _ hle => hle⟩

/-- No good value stands, without it, where an entry that is not good starts. -/
def Covered (good : α → Bool) (entries : List (α × τ)) : Prop :=
  ∀ before p after, entries = before ++ p :: after → good p.1 = false →
    ∀ a, Stands (before ++ after) p.2 (some a) → good a = false

/-- Where every entry that is not good is covered, no entry lost makes a good value stand. -/
theorem Covered.of_lost (h : Covered good (before ++ p :: after))
    (hlost : Stands (before ++ after) t (some a)) (hgood : good a = true)
    (hstands : Stands (before ++ p :: after) t answer) : answer.any good = true := by
  obtain ⟨q, hq, rfl, hqt, hqmax⟩ := hlost
  have hmem : q ∈ before ++ p :: after := by
    rcases List.mem_append.mp hq with hq | hq
    · exact List.mem_append_left _ hq
    · exact List.mem_append_right _ (List.mem_cons_of_mem _ hq)
  cases answer with
  | none => exact absurd hqt (not_le.mpr (hstands q hmem))
  | some b =>
    obtain ⟨e, he, rfl, het, hemax⟩ := hstands
    by_contra hbad
    have hbad : good e.1 = false := by simpa using hbad
    have hstart : q.2 ≤ e.2 := hemax q hmem hqt
    by_cases hep : e = p
    · subst hep
      refine absurd (h before e after rfl hbad q.1 ⟨q, hq, rfl, hstart, ?_⟩) (by simp [hgood])
      exact fun r hr hre => hqmax r hr (hre.trans het)
    · have helsewhere : e ∈ before ++ after := by
        simpa [hep] using he
      obtain ⟨before', after', hsplit⟩ := List.append_of_mem he
      have hqrest : q ∈ before' ++ after' := by
        have hne : q ≠ e := by
          rintro rfl
          exact absurd hgood (by simp [hbad])
        rw [hsplit] at hmem
        simpa [hne] using hmem
      refine absurd (h before' e after' hsplit hbad q.1 ⟨q, hqrest, rfl, hstart, ?_⟩)
        (by simp [hgood])
      exact fun r _ hre => hre.trans (hqmax e helsewhere het)

end Entries

end PointInTime
