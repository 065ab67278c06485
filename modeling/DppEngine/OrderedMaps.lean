import Mathlib.Data.List.Nodup
import Mathlib.Data.String.Basic
import Mathlib.Order.Defs.LinearOrder

/-! Finite maps in key order. The entries of a map are strictly sorted by key, so
two maps are equal exactly when they list the same entries. -/
namespace OrderedMaps

variable {κ α : Type} [LinearOrder κ]

structure BTreeMap (κ α : Type) [LinearOrder κ] where
  entries : List (κ × α)
  sorted : (entries.map Prod.fst).Pairwise (· < ·)
  deriving DecidableEq, Repr

def insertEntry (key : κ) (value : α) : List (κ × α) → List (κ × α)
  | [] => [(key, value)]
  | e :: es =>
    if key < e.1 then (key, value) :: e :: es
    else if key = e.1 then (key, value) :: es
    else e :: insertEntry key value es

theorem mem_keys_insertEntry {key k : κ} {value : α} {es : List (κ × α)}
    (h : k ∈ (insertEntry key value es).map Prod.fst) : k = key ∨ k ∈ es.map Prod.fst := by
  induction es with
  | nil => simpa [insertEntry] using h
  | cons e es ih =>
    unfold insertEntry at h
    split_ifs at h with hlt heq
    · simpa using h
    · rcases List.mem_cons.mp h with rfl | h
      · exact Or.inl rfl
      · exact Or.inr (List.mem_cons_of_mem _ h)
    · rcases List.mem_cons.mp h with rfl | h
      · exact Or.inr List.mem_cons_self
      · rcases ih h with rfl | h
        · exact Or.inl rfl
        · exact Or.inr (List.mem_cons_of_mem _ h)

theorem insertEntry_sorted {key : κ} {value : α} {es : List (κ × α)}
    (h : (es.map Prod.fst).Pairwise (· < ·)) :
    ((insertEntry key value es).map Prod.fst).Pairwise (· < ·) := by
  induction es with
  | nil => simp [insertEntry]
  | cons e es ih =>
    obtain ⟨hhead, htail⟩ := List.pairwise_cons.mp h
    unfold insertEntry
    split_ifs with hlt heq
    · refine List.pairwise_cons.mpr ⟨?_, h⟩
      intro k hk
      rcases List.mem_cons.mp hk with rfl | hk
      · exact hlt
      · exact lt_trans hlt (hhead k hk)
    · subst heq
      exact h
    · refine List.pairwise_cons.mpr ⟨?_, ih htail⟩
      intro k hk
      rcases mem_keys_insertEntry hk with rfl | hk
      · exact lt_of_le_of_ne (not_lt.mp hlt) (Ne.symm heq)
      · exact hhead k hk

namespace BTreeMap

def empty : BTreeMap κ α := ⟨[], List.Pairwise.nil⟩

def insert (m : BTreeMap κ α) (key : κ) (value : α) : BTreeMap κ α :=
  ⟨insertEntry key value m.entries, insertEntry_sorted m.sorted⟩

def get (m : BTreeMap κ α) (key : κ) : Option α :=
  (m.entries.find? fun e => e.1 = key).map Prod.snd

def keys (m : BTreeMap κ α) : List κ := m.entries.map Prod.fst

theorem get_empty (k : κ) : (empty : BTreeMap κ α).get k = none := rfl

theorem find?_insertEntry {key k : κ} {value : α} {es : List (κ × α)} :
    ((insertEntry key value es).find? fun e => e.1 = k) =
      if key = k then some (key, value) else es.find? fun e => e.1 = k := by
  by_cases hk : key = k
  · subst hk
    rw [if_pos rfl]
    induction es with
    | nil => simp [insertEntry]
    | cons e es ih =>
      unfold insertEntry
      split_ifs with hlt heq
      · simp
      · simp
      · rw [List.find?_cons_of_neg (by simpa using Ne.symm heq), ih]
  · rw [if_neg hk]
    induction es with
    | nil => simp [insertEntry, hk]
    | cons e es ih =>
      unfold insertEntry
      split_ifs with hlt heq
      · rw [List.find?_cons_of_neg (by simpa using hk)]
      · rw [List.find?_cons_of_neg (by simpa using hk),
          List.find?_cons_of_neg (by simpa [← heq] using hk)]
      · rw [List.find?_cons, List.find?_cons, ih]

theorem get_insert (m : BTreeMap κ α) (key k : κ) (value : α) :
    (m.insert key value).get k = if key = k then some value else m.get k := by
  unfold get insert
  dsimp only
  rw [find?_insertEntry]
  split_ifs <;> rfl

/-- The entries are the keys with what they map to. -/
theorem mem_entries {m : BTreeMap κ α} {k : κ} {a : α} : (k, a) ∈ m.entries ↔ m.get k = some a := by
  unfold get
  constructor
  · intro h
    have hfind : (m.entries.find? fun e => e.1 = k).isSome := by
      rw [List.find?_isSome]
      exact ⟨_, h, by simp⟩
    obtain ⟨e, he⟩ := Option.isSome_iff_exists.mp hfind
    have hkey : e.1 = k := by simpa using List.find?_some he
    have hnodup : (m.entries.map Prod.fst).Nodup := m.sorted.imp fun hlt => ne_of_lt hlt
    have heq : e = (k, a) :=
      List.inj_on_of_nodup_map hnodup (List.mem_of_find?_eq_some he) h hkey
    rw [he, heq]
    rfl
  · intro h
    obtain ⟨e, he, rfl⟩ := Option.map_eq_some_iff.mp h
    have hkey : e.1 = k := by simpa using List.find?_some he
    rw [← hkey]
    exact List.mem_of_find?_eq_some he

end BTreeMap

end OrderedMaps
