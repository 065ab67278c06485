import Mathlib.Data.List.Nodup

/-! Tables whose rows carry a primary key, and the statements that read and write them.

An insert is refused when the key is taken. An update leaves every key as it is, so what it
does to the row under a key depends on that row alone. -/
namespace KeyedTables

variable {κ ρ : Type} {key : ρ → κ}

structure Table (key : ρ → κ) where
  rows : List ρ
  unique : (rows.map key).Nodup

namespace Table

def empty : Table key := ⟨[], List.nodup_nil⟩

/-- `UPDATE … SET …`: every row is replaced by what `set` makes of it. -/
def update (t : Table key) (set : ρ → ρ) (hkey : ∀ r, key (set r) = key r) : Table key where
  rows := t.rows.map set
  unique := by simpa [Function.comp_def, hkey] using t.unique

/-- `DELETE … WHERE …`. -/
def delete (t : Table key) (cond : ρ → Bool) : Table key where
  rows := t.rows.filter fun r => !cond r
  unique := t.unique.sublist (List.filter_sublist.map key)

variable {t t' : Table key} {r r' : ρ} {k : κ}

theorem mem_update {set : ρ → ρ} {hkey : ∀ r, key (set r) = key r} :
    r ∈ (t.update set hkey).rows ↔ ∃ r₀ ∈ t.rows, set r₀ = r := by
  simp [update]

theorem mem_delete {cond : ρ → Bool} : r ∈ (t.delete cond).rows ↔ r ∈ t.rows ∧ cond r = false := by
  simp [delete]

variable [DecidableEq κ]

def put (t : Table key) (r : ρ) : Table key :=
  t.update (fun r' => if key r' = key r then r else r') fun r' => by
    split_ifs with h
    · exact h.symm
    · rfl

def get (t : Table key) (k : κ) : Option ρ := t.rows.find? fun r => key r = k

/-- `INSERT`, or `none` for a primary key violation. -/
def insert (t : Table key) (r : ρ) : Option (Table key) :=
  if h : key r ∈ t.rows.map key then none
  else some {
    rows := t.rows ++ [r]
    unique := by
      rw [List.map_append, List.map_singleton]
      exact List.nodup_append.mpr ⟨t.unique, List.nodup_singleton _, by
        rintro k hk _ hr rfl
        exact h (List.mem_singleton.mp hr ▸ hk)⟩ }

def write (t : Table key) (r : ρ) : Table key where
  rows := (t.delete fun r' => key r' = key r).rows ++ [r]
  unique := by
    rw [List.map_append, List.map_singleton]
    refine List.nodup_append.mpr ⟨(t.delete _).unique, List.nodup_singleton _, ?_⟩
    rintro k hk _ hr rfl
    obtain ⟨r', hr', hkey⟩ := List.mem_map.mp hk
    rw [List.mem_singleton.mp hr] at hkey
    exact absurd hkey (of_decide_eq_false (mem_delete.mp hr').2)

theorem get_eq_some : t.get k = some r ↔ r ∈ t.rows ∧ key r = k := by
  constructor
  · intro h
    exact ⟨List.mem_of_find?_eq_some h, by simpa using List.find?_some h⟩
  · rintro ⟨hr, rfl⟩
    cases hget : t.get (key r) with
    | none => simpa using List.find?_eq_none.mp hget r hr
    | some r' =>
      have hkey : key r' = key r := by simpa using List.find?_some hget
      exact congrArg some (List.inj_on_of_nodup_map t.unique
        (List.mem_of_find?_eq_some hget) hr hkey)

theorem get_eq_none : t.get k = none ↔ ∀ r ∈ t.rows, key r ≠ k := by
  simp [get]

@[simp] theorem get_empty : (empty : Table key).get k = none := rfl

theorem mem_of_get (h : t.get k = some r) : r ∈ t.rows := (get_eq_some.mp h).1

theorem key_of_get (h : t.get k = some r) : key r = k := (get_eq_some.mp h).2

theorem get_of_mem (h : r ∈ t.rows) : t.get (key r) = some r := get_eq_some.mpr ⟨h, rfl⟩

theorem insert_eq_some (h : t.insert r = some t') :
    t.get (key r) = none ∧ t'.rows = t.rows ++ [r] := by
  unfold insert at h
  split_ifs at h with hkey
  cases h
  refine ⟨get_eq_none.mpr fun r' hr' heq => hkey ?_, rfl⟩
  exact List.mem_map.mpr ⟨r', hr', heq⟩

theorem insert_of_get_none (h : t.get (key r) = none) : (t.insert r).isSome := by
  have hkey : key r ∉ t.rows.map key := by
    rintro hmem
    obtain ⟨r', hr', heq⟩ := List.mem_map.mp hmem
    exact get_eq_none.mp h r' hr' heq
  rw [insert, dif_neg hkey]
  rfl

theorem get_insert (h : t.insert r = some t') :
    t'.get k = if key r = k then some r else t.get k := by
  obtain ⟨hnone, hrows⟩ := insert_eq_some h
  by_cases hk : key r = k
  · subst hk
    rw [if_pos rfl]
    exact get_eq_some.mpr ⟨by simp [hrows], rfl⟩
  · rw [if_neg hk, get, get, hrows, List.find?_append]
    simp [hk]

theorem get_insert_of_some (h : t.insert r = some t') (hget : t.get k = some r') :
    t'.get k = some r' := by
  rw [get_insert h, if_neg, hget]
  rintro rfl
  rw [(insert_eq_some h).1] at hget
  cases hget

theorem get_update {set : ρ → ρ} {hkey : ∀ r, key (set r) = key r} :
    (t.update set hkey).get k = (t.get k).map set := by
  rw [get, get, update, List.find?_map]
  simp only [Function.comp_def, hkey]

theorem get_put : (t.put r).get k = if key r = k then (t.get k).map fun _ => r else t.get k := by
  rw [put, get_update]
  by_cases hk : key r = k
  · subst hk
    rw [if_pos rfl]
    cases hget : t.get (key r) with
    | none => rfl
    | some r' => simp [key_of_get hget]
  · rw [if_neg hk]
    cases hget : t.get k with
    | none => rfl
    | some r' => simp [key_of_get hget, Ne.symm hk]

theorem mem_put (h : r' ∈ (t.put r).rows) : r' = r ∨ r' ∈ t.rows ∧ key r' ≠ key r := by
  obtain ⟨r₀, hr₀, rfl⟩ := mem_update.mp h
  by_cases hk : key r₀ = key r
  · simp [hk]
  · rw [if_neg hk]
    exact .inr ⟨hr₀, hk⟩

theorem mem_put_self (h : t.get (key r) = some r') : r ∈ (t.put r).rows :=
  mem_of_get (k := key r) (by rw [get_put, if_pos rfl, h]; rfl)

theorem mem_put_of_ne (h : r' ∈ t.rows) (hne : key r' ≠ key r) : r' ∈ (t.put r).rows :=
  mem_update.mpr ⟨r', h, if_neg hne⟩

theorem get_delete {cond : ρ → Bool} :
    (t.delete cond).get k = (t.get k).filter fun r => !cond r := by
  cases hget : t.get k with
  | none =>
    refine get_eq_none.mpr fun r hr => ?_
    exact get_eq_none.mp hget r (mem_delete.mp hr).1
  | some r =>
    cases hcond : cond r with
    | false =>
      rw [Option.filter_some_pos (by simp [hcond])]
      exact get_eq_some.mpr ⟨mem_delete.mpr ⟨mem_of_get hget, hcond⟩, key_of_get hget⟩
    | true =>
      rw [Option.filter_some_neg (by simp [hcond])]
      refine get_eq_none.mpr fun r' hr' hkey => ?_
      have hr' := mem_delete.mp hr'
      have heq : t.get k = some r' := get_eq_some.mpr ⟨hr'.1, hkey⟩
      rw [hget] at heq
      cases heq
      rw [hcond] at hr'
      cases hr'.2

theorem get_write : (t.write r).get k = if key r = k then some r else t.get k := by
  split_ifs with hkey
  · exact get_eq_some.mpr ⟨List.mem_append_right _ (List.mem_singleton_self r), hkey⟩
  · have hdelete : (t.delete fun r' => key r' = key r).get k = t.get k := by
      rw [get_delete]
      cases hget : t.get k with
      | none => rfl
      | some r' =>
        refine Option.filter_some_pos ?_
        simpa [key_of_get hget] using Ne.symm hkey
    rw [← hdelete, get, write, List.find?_append, get]
    simp [hkey]

end Table

end KeyedTables
