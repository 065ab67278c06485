import Mathlib.Data.List.Basic
import Mathlib.Algebra.Group.Nat.Defs

/-! Optimistic writes to a revisioned cell.

A cell is absent, or holds a value and a revision that every write moves. A request
reads the cell, computes a value from what it read, and writes it over the revision it
read; the write is refused when the cell is no longer at that revision. -/
namespace OptimisticCells

structure Cell (α : Type*) where
  value : α
  revision : ℕ
  deriving DecidableEq, Repr

inductive Write (α : Type*) where
  | written (cell : Cell α)
  | stale
  | exhausted
  deriving DecidableEq, Repr

variable {α ρ : Type*}

/-- A cell read as absent is written only where there is still none; revisions stay below
`limit`. -/
def writeOver (limit : ℕ) (stored : Option (Cell α)) (base : Option ℕ) (value : α) : Write α :=
  match base, stored with
  | none, none => .written ⟨value, 0⟩
  | some revision, some cell =>
    if cell.revision = revision then
      if revision + 1 < limit then .written ⟨value, revision + 1⟩ else .exhausted
    else .stale
  | _, _ => .stale

def Older : Option (Cell α) → Option (Cell α) → Prop
  | _, none => False
  | none, some _ => True
  | some old, some cell => old.revision < cell.revision

/-- What a request has read: the cell as it is, or as it was. -/
def ReadFrom (snapshot stored : Option (Cell α)) : Prop := snapshot = stored ∨ Older snapshot stored

section Writes

variable {limit : ℕ} {stored snapshot : Option (Cell α)} {base : Option ℕ} {value : α}
  {cell : Cell α}

theorem Older.trans {a b c : Option (Cell α)} (hab : Older a b) (hbc : Older b c) : Older a c := by
  match a, b, c with
  | _, _, none => exact hbc
  | none, _, some _ => trivial
  | some _, some _, some _ => exact Nat.lt_trans hab hbc

/-- A write that goes through found the revision it names and moves it. -/
theorem writeOver_written (h : writeOver limit stored base value = .written cell) :
    stored.map Cell.revision = base ∧ cell.value = value ∧ Older stored (some cell) := by
  match base, stored, h with
  | none, none, h =>
    cases h
    exact ⟨rfl, rfl, trivial⟩
  | some revision, some old, h =>
    by_cases hrevision : old.revision = revision
    · by_cases hlimit : revision + 1 < limit
      · simp only [writeOver, hrevision, hlimit, if_true, Write.written.injEq] at h
        subst h
        refine ⟨congrArg some hrevision, rfl, ?_⟩
        change old.revision < revision + 1
        omega
      · simp [writeOver, hrevision, hlimit] at h
    · simp [writeOver, hrevision] at h

/-- So it was computed from the cell as it stands. -/
theorem writeOver_current (hread : ReadFrom snapshot stored)
    (h : writeOver limit stored (snapshot.map Cell.revision) value = .written cell) :
    snapshot = stored := by
  have hrevision := (writeOver_written h).1
  rcases hread with hsame | holder
  · exact hsame
  · match snapshot, stored, holder with
    | none, some _, _ => cases hrevision
    | some old, some new, holder =>
      have hsame : new.revision = old.revision := Option.some.inj hrevision
      have hlt : old.revision < new.revision := holder
      omega

/-- A write leaves every snapshot one of the cell as it was. -/
theorem ReadFrom.write (hread : ReadFrom snapshot stored)
    (h : writeOver limit stored base value = .written cell) : ReadFrom snapshot (some cell) := by
  have holder' := (writeOver_written h).2.2
  rcases hread with rfl | holder
  · exact .inr holder'
  · exact .inr (holder.trans holder')

end Writes

section Replays

/-- The values follow one another: each is what its request makes of the one before. -/
def Replays (step : ρ → Option α → α → Prop) : Option α → List (ρ × α) → Option α → Prop
  | first, [], last => first = last
  | first, (r, a) :: commits, last => step r first a ∧ Replays step (some a) commits last

theorem Replays.concat {step : ρ → Option α → α → Prop} {first last : Option α}
    {commits : List (ρ × α)} {r : ρ} {a : α} (h : Replays step first commits last)
    (hstep : step r last a) : Replays step first (commits ++ [(r, a)]) (some a) := by
  induction commits generalizing first with
  | nil =>
    cases h
    exact ⟨hstep, rfl⟩
  | cons c commits ih => exact ⟨h.1, ih h.2⟩

/-- What every request makes of a value that has it, every value in the history has. -/
theorem Replays.forall_commits {step : ρ → Option α → α → Prop} {P : α → Prop}
    {first last : Option α} {commits : List (ρ × α)}
    (hstep : ∀ r prev a, (∀ b ∈ prev, P b) → step r prev a → P a)
    (hfirst : ∀ b ∈ first, P b) (h : Replays step first commits last) :
    ∀ c ∈ commits, P c.2 := by
  induction commits generalizing first with
  | nil => simp
  | cons c commits ih =>
    have hc : P c.2 := hstep c.1 first c.2 hfirst h.1
    intro d hd
    rcases List.mem_cons.mp hd with rfl | hd
    · exact hc
    · exact ih (by rintro b ⟨⟩; exact hc) h.2 d hd

end Replays

end OptimisticCells
