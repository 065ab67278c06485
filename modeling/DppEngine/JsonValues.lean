import Mathlib.Data.List.Basic

/-! JSON values and JSON objects as partial maps.

A timestamp string is kept as the instant it denotes (`instant`, in nanoseconds
since the epoch), so that rendering plays no part in comparing documents. An
object value keeps its members in a list; a document is the map from its
top-level keys, on which JSONB's `||` and `-` act. -/
namespace JsonValues

inductive Json where
  | null
  | bool (b : Bool)
  | num (q : Rat)
  | str (s : String)
  | instant (t : Int)
  | arr (items : List Json)
  | obj (members : List (String × Json))
  deriving Repr, Inhabited

namespace Json

mutual

def beq : Json → Json → Bool
  | .null, .null => true
  | .bool a, .bool b => a == b
  | .num a, .num b => a == b
  | .str a, .str b => a == b
  | .instant a, .instant b => a == b
  | .arr xs, .arr ys => beqItems xs ys
  | .obj xs, .obj ys => beqMembers xs ys
  | _, _ => false

def beqItems : List Json → List Json → Bool
  | [], [] => true
  | x :: xs, y :: ys => beq x y && beqItems xs ys
  | _, _ => false

def beqMembers : List (String × Json) → List (String × Json) → Bool
  | [], [] => true
  | (k, x) :: xs, (l, y) :: ys => k == l && beq x y && beqMembers xs ys
  | _, _ => false

end

mutual

private theorem eq_of_beq : ∀ {a b : Json}, beq a b = true → a = b
  | .null, b, h => by cases b <;> simp_all [beq]
  | .bool _, b, h => by cases b <;> simp_all [beq]
  | .num _, b, h => by cases b <;> simp_all [beq]
  | .str _, b, h => by cases b <;> simp_all [beq]
  | .instant _, b, h => by cases b <;> simp_all [beq]
  | .arr xs, b, h => by
    cases b <;> simp only [beq, Bool.false_eq_true] at h
    exact congrArg _ (eq_of_beqItems h)
  | .obj xs, b, h => by
    cases b <;> simp only [beq, Bool.false_eq_true] at h
    exact congrArg _ (eq_of_beqMembers h)

private theorem eq_of_beqItems : ∀ {xs ys : List Json}, beqItems xs ys = true → xs = ys
  | [], ys, h => by cases ys <;> simp_all [beqItems]
  | x :: xs, ys, h => by
    cases ys <;> simp only [beqItems, Bool.false_eq_true, Bool.and_eq_true] at h
    rw [eq_of_beq h.1, eq_of_beqItems h.2]

private theorem eq_of_beqMembers :
    ∀ {xs ys : List (String × Json)}, beqMembers xs ys = true → xs = ys
  | [], ys, h => by cases ys <;> simp_all [beqMembers]
  | (k, x) :: xs, ys, h => by
    cases ys with
    | nil => simp [beqMembers] at h
    | cons m ys =>
      obtain ⟨l, y⟩ := m
      simp only [beqMembers, Bool.and_eq_true, beq_iff_eq] at h
      rw [h.1.1, eq_of_beq h.1.2, eq_of_beqMembers h.2]

end

mutual

private theorem beq_self : ∀ a : Json, beq a a = true
  | .null => rfl
  | .bool _ | .num _ | .str _ | .instant _ => by simp [beq]
  | .arr xs => by simpa [beq] using beqItems_self xs
  | .obj xs => by simpa [beq] using beqMembers_self xs

private theorem beqItems_self : ∀ xs : List Json, beqItems xs xs = true
  | [] => rfl
  | x :: xs => by simp [beqItems, beq_self x, beqItems_self xs]

private theorem beqMembers_self : ∀ xs : List (String × Json), beqMembers xs xs = true
  | [] => rfl
  | (k, x) :: xs => by simp [beqMembers, beq_self x, beqMembers_self xs]

end

instance : DecidableEq Json := fun a b =>
  decidable_of_iff (beq a b = true) ⟨eq_of_beq, fun h => h ▸ beq_self a⟩

def get (key : String) : Json → Option Json
  | .obj members => (members.find? fun m => m.1 = key).map Prod.snd
  | _ => none

def asStr : Json → Option String
  | .str s => some s
  | _ => none

def asArray : Json → Option (List Json)
  | .arr items => some items
  | _ => none

def asMembers : Json → Option (List (String × Json))
  | .obj members => some members
  | _ => none

def asBool : Json → Option Bool
  | .bool b => some b
  | _ => none

def asNum : Json → Option Rat
  | .num q => some q
  | _ => none

def asInstant : Json → Option Int
  | .instant t => some t
  | _ => none

end Json

/-- The members of an object. The first member with a key is the one that counts. -/
abbrev Doc := List (String × Json)

namespace Doc

def get (d : Doc) (key : String) : Option Json := d.lookup key

/-- JSONB `old || new`: a shallow merge in which `new` wins. -/
def merge (old new : Doc) : Doc := new ++ old

/-- JSONB `d - keys`. -/
def without (d : Doc) (keys : List String) : Doc := d.filter fun m => m.1 ∉ keys

def only (d : Doc) (keys : List String) : Doc := d.filter fun m => m.1 ∈ keys

def insert (d : Doc) (key : String) (value : Json) : Doc := (key, value) :: d

def remove (d : Doc) (key : String) : Doc := d.without [key]

def changedFrom (d reading : Doc) : Doc := d.filter fun m => reading.get m.1 ≠ d.get m.1

def optional (key : String) (value : Option Json) : Doc := (value.map fun v => (key, v)).toList

def SameExcept (keys : List String) (a b : Doc) : Prop :=
  ∀ m ∈ a ++ b, m.1 ∉ keys → a.get m.1 = b.get m.1

instance (keys : List String) (a b : Doc) : Decidable (SameExcept keys a b) :=
  inferInstanceAs (Decidable (∀ m ∈ a ++ b, m.1 ∉ keys → a.get m.1 = b.get m.1))

variable {a b d reading : Doc} {keys : List String} {k key : String} {v : Json}

@[simp] theorem get_nil : Doc.get [] k = none := rfl

@[simp] theorem get_cons : Doc.get ((key, v) :: d) k = if k = key then some v else d.get k := by
  by_cases h : k = key
  · simp [get, h]
  · have : (k == key) = false := by simp [h]
    simp [get, List.lookup_cons, this, h]

@[simp] theorem get_append : Doc.get (a ++ b) k = (a.get k).or (b.get k) := List.lookup_append

@[simp] theorem get_merge : (merge a b).get k = (b.get k).or (a.get k) := get_append

theorem get_filter_key (p : String → Bool) :
    Doc.get (d.filter fun m => p m.1) k = if p k then d.get k else none := by
  induction d with
  | nil => simp
  | cons m d ih =>
    obtain ⟨key, v⟩ := m
    by_cases hp : p key
    · rw [List.filter_cons_of_pos (by simpa using hp), get_cons, get_cons, ih]
      by_cases hk : k = key
      · simp [hk, hp]
      · simp [hk]
    · rw [List.filter_cons_of_neg (by simpa using hp), get_cons, ih]
      by_cases hk : k = key
      · simp [hk, hp]
      · simp [hk]

@[simp] theorem get_without : (d.without keys).get k = if k ∈ keys then none else d.get k := by
  have := get_filter_key (d := d) (k := k) (fun key => decide (key ∉ keys))
  by_cases h : k ∈ keys <;> simp_all [without]

@[simp] theorem get_only : (d.only keys).get k = if k ∈ keys then d.get k else none := by
  have := get_filter_key (d := d) (k := k) (fun key => decide (key ∈ keys))
  by_cases h : k ∈ keys <;> simp_all [only]

@[simp] theorem get_changedFrom : (d.changedFrom reading).get k =
    if reading.get k = d.get k then none else d.get k := by
  have := get_filter_key (d := d) (k := k) (fun key => decide (reading.get key ≠ d.get key))
  by_cases h : reading.get k = d.get k <;> simp_all [changedFrom]

@[simp] theorem get_insert : (d.insert key v).get k = if k = key then some v else d.get k :=
  get_cons

@[simp] theorem get_remove : (d.remove key).get k = if k = key then none else d.get k := by
  simp [remove]

@[simp] theorem get_optional {value : Option Json} :
    (optional key value).get k = if k = key then value else none := by
  cases value with
  | none => simp [optional]
  | some v => simp [optional]

theorem get_eq_none_of_not_mem (h : ∀ m ∈ d, m.1 ≠ k) : d.get k = none := by
  induction d with
  | nil => rfl
  | cons m d ih =>
    obtain ⟨key, v⟩ := m
    have hk : k ≠ key := fun hk => h (key, v) List.mem_cons_self hk.symm
    simp [hk, ih fun m hm => h m (List.mem_cons_of_mem _ hm)]

theorem sameExcept_iff : SameExcept keys a b ↔ ∀ k, k ∉ keys → a.get k = b.get k := by
  constructor
  · intro h k hk
    by_cases hmem : ∃ m ∈ a ++ b, m.1 = k
    · obtain ⟨m, hm, rfl⟩ := hmem
      exact h m hm hk
    · push Not at hmem
      rw [get_eq_none_of_not_mem fun m hm => hmem m (List.mem_append_left _ hm),
        get_eq_none_of_not_mem fun m hm => hmem m (List.mem_append_right _ hm)]
  · intro h m _ hk
    exact h m.1 hk

end Doc

end JsonValues
