import Mathlib.Data.List.Forall2
import Mathlib.Data.List.Induction

/-! Hash chains over an arbitrary entry type.

An entry carries the hash of its predecessor and its own, and `link` recomputes
the latter from the entry and a predecessor hash. Nothing is assumed of `link`
except where a lemma names it. -/
namespace HashChains

variable {α H : Type*} (prev hash : α → H) (link : α → H → H)

/-- Each entry points at the hash before it and carries its own recomputed hash. -/
def Linked : H → List α → Prop
  | _, [] => True
  | p, e :: es => prev e = p ∧ hash e = link e p ∧ Linked (hash e) es

/-- The hash a further entry has to point at. -/
def tip : H → List α → H
  | p, [] => p
  | _, e :: es => tip (hash e) es

variable {prev hash link} {p : H} {xs ys : List α} {e : α}

theorem tip_append : tip hash p (xs ++ ys) = tip hash (tip hash p xs) ys := by
  induction xs generalizing p with
  | nil => rfl
  | cons x xs ih => exact ih

theorem tip_concat : tip hash p (xs ++ [e]) = hash e := by simp [tip_append, tip]

theorem linked_append : Linked prev hash link p (xs ++ ys) ↔
    Linked prev hash link p xs ∧ Linked prev hash link (tip hash p xs) ys := by
  induction xs generalizing p with
  | nil => simp [Linked, tip]
  | cons x xs ih => simp only [List.cons_append, Linked, tip, ih, and_assoc]

theorem linked_concat (hl : Linked prev hash link p xs) (hp : prev e = tip hash p xs)
    (hh : hash e = link e (tip hash p xs)) : Linked prev hash link p (xs ++ [e]) :=
  linked_append.mpr ⟨hl, hp, hh, trivial⟩

/-- In a linked chain an entry points at the tip of what precedes it. -/
theorem Linked.prev_eq (h : Linked prev hash link p (xs ++ e :: ys)) :
    prev e = tip hash p xs := (linked_append.mp h).2.1

/-- Where links of entries fix what they are made from, and none leads back to the start, two
chains with one tip agree entry by entry. -/
theorem Linked.agree_of_tip_eq {R : α → α → Prop}
    (hx : Linked prev hash link p xs) (hy : Linked prev hash link p ys)
    (hfixed : ∀ e ∈ xs, ∀ f ∈ ys, link e (prev e) = link f (prev f) → prev e = prev f ∧ R e f)
    (hstart : ∀ e, e ∈ xs ∨ e ∈ ys → link e (prev e) ≠ p)
    (htip : tip hash p xs = tip hash p ys) : List.Forall₂ R xs ys := by
  have hlast : ∀ {zs : List α} {e : α}, Linked prev hash link p (zs ++ [e]) →
      prev e = tip hash p zs ∧ hash e = link e (prev e) := by
    intro zs e h
    obtain ⟨hprev, hhash, -⟩ := (linked_append.mp h).2
    exact ⟨hprev, hprev ▸ hhash⟩
  induction xs using List.reverseRecOn generalizing ys with
  | nil =>
    rcases List.eq_nil_or_concat' ys with rfl | ⟨ys, f, rfl⟩
    · exact .nil
    · rw [tip_concat, (hlast hy).2] at htip
      exact absurd htip.symm (hstart f (Or.inr (by simp)))
  | append_singleton xs e ih =>
    rcases List.eq_nil_or_concat' ys with rfl | ⟨ys, f, rfl⟩
    · rw [tip_concat, (hlast hx).2] at htip
      exact absurd htip (hstart e (Or.inl (by simp)))
    · obtain ⟨hprevx, hhashx⟩ := hlast hx
      obtain ⟨hprevy, hhashy⟩ := hlast hy
      rw [tip_concat, tip_concat, hhashx, hhashy] at htip
      obtain ⟨hprev, hR⟩ := hfixed e (by simp) f (by simp) htip
      rw [hprevx, hprevy] at hprev
      refine List.rel_append (ih (linked_append.mp hx).1 (linked_append.mp hy).1 ?_ ?_ hprev)
        (.cons hR .nil)
      · exact fun e he f hf => hfixed e (by simp [he]) f (by simp [hf])
      · exact fun e he => hstart e (by rcases he with he | he <;> simp [he])

theorem Linked.tip_ne (h : Linked prev hash link p (xs ++ e :: ys))
    (hfixed : ∀ d ∈ xs ++ e :: ys, ∀ f ∈ xs ++ e :: ys,
      link d (prev d) = link f (prev f) → prev d = prev f)
    (hstart : ∀ d ∈ xs ++ e :: ys, link d (prev d) ≠ p) :
    tip hash p (xs ++ e :: ys) ≠ tip hash p xs := by
  intro heq
  have hagree : List.Forall₂ (fun _ _ => True) (xs ++ e :: ys) xs := by
    refine h.agree_of_tip_eq (linked_append.mp h).1 ?_ ?_ heq
    · exact fun d hd f hf heq => ⟨hfixed d hd f (List.mem_append_left _ hf) heq, trivial⟩
    · rintro d (hd | hd)
      · exact hstart d hd
      · exact hstart d (List.mem_append_left _ hd)
  have hlength := hagree.length_eq
  simp at hlength

end HashChains
