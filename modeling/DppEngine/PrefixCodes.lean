import Mathlib

/-! Encodings no word of which is the beginning of another, and readers for them.

A concatenation of such words determines each of them. -/
namespace PrefixCodes

variable {α β γ : Type}

/-- Whatever follows, a word can be cut off in one way only. -/
def SelfDelimiting (f : α → List β) : Prop :=
  ∀ a b s t, f a ++ s = f b ++ t → a = b ∧ s = t

theorem SelfDelimiting.injective {f : α → List β} (hf : SelfDelimiting f) :
    Function.Injective f := by
  intro a b h
  exact (hf a b [] [] (by rw [h])).1

/-- Words with another first symbol in place of the one they share. -/
theorem SelfDelimiting.cut_retagged {f : α → List β} (hf : SelfDelimiting f) {tag tag' : β}
    {a b : α} {r q s t : List β} (ha : f a = tag :: r) (hb : f b = tag :: q)
    (h : tag' :: r ++ s = tag' :: q ++ t) : a = b ∧ s = t := by
  have hrest : r ++ s = q ++ t := (List.cons.inj h).2
  refine hf a b s t ?_
  rw [ha, hb, List.cons_append, List.cons_append, hrest]

/-- An encoding with a reader that hands back what follows the word. -/
structure Code (β α : Type) where
  encode : α → List β
  decode : List β → Option (α × List β)
  decode_encode : ∀ a s, decode (encode a ++ s) = some (a, s)

def Code.read (c : Code β α) (s : List β) : Option α :=
  match c.decode s with
  | some (a, []) => some a
  | _ => none

theorem Code.read_encode (c : Code β α) (a : α) : c.read (c.encode a) = some a := by
  have hread := c.decode_encode a []
  rw [List.append_nil] at hread
  unfold Code.read
  rw [hread]

theorem Code.selfDelimiting (c : Code β α) : SelfDelimiting c.encode := by
  intro a b s t h
  have hread := c.decode_encode a s
  rw [h, c.decode_encode b t] at hread
  cases hread
  exact ⟨rfl, rfl⟩

namespace Code

def symbol : Code β β where
  encode b := [b]
  decode
    | [] => none
    | b :: s => some (b, s)
  decode_encode _ _ := rfl

def pair (c : Code β α) (d : Code β γ) : Code β (α × γ) where
  encode p := c.encode p.1 ++ d.encode p.2
  decode s := (c.decode s).bind fun r => (d.decode r.2).map fun q => ((r.1, q.1), q.2)
  decode_encode p s := by
    rw [List.append_assoc, c.decode_encode, Option.bind_some, d.decode_encode]
    rfl

/-- The word of what the value is sent to, where it can be brought back. -/
def via (c : Code β γ) (image : α → γ) (back : γ → Option α)
    (back_image : ∀ a, back (image a) = some a) : Code β α where
  encode a := c.encode (image a)
  decode s := (c.decode s).bind fun r => (back r.1).map fun a => (a, r.2)
  decode_encode a s := by
    rw [c.decode_encode, Option.bind_some, back_image]
    rfl

def tagged [DecidableEq β] (tag : β) (c : Code β α) : Code β α where
  encode a := tag :: c.encode a
  decode
    | [] => none
    | b :: s => if b = tag then c.decode s else none
  decode_encode a s := by
    rw [List.cons_append]
    simp only [if_true]
    exact c.decode_encode a s

section Counts

def readCount : List UInt8 → Option (ℕ × List UInt8)
  | [] => none
  | b :: s => if b = 1 then (readCount s).map fun r => (r.1 + 1, r.2) else some (0, s)

theorem readCount_replicate (n : ℕ) (s : List UInt8) :
    readCount (List.replicate n 1 ++ 0 :: s) = some (n, s) := by
  induction n with
  | zero => rfl
  | succ n ih =>
    rw [List.replicate_succ, List.cons_append, readCount, if_pos rfl, ih]
    rfl

def count : Code UInt8 ℕ where
  encode n := List.replicate n 1 ++ [0]
  decode := readCount
  decode_encode n s := by
    rw [List.append_assoc]
    exact readCount_replicate n s

def readMany (c : Code UInt8 α) : ℕ → List UInt8 → Option (List α × List UInt8)
  | 0, s => some ([], s)
  | n + 1, s => (c.decode s).bind fun r => (readMany c n r.2).map fun q => (r.1 :: q.1, q.2)

theorem readMany_flatMap (c : Code UInt8 α) (l : List α) (s : List UInt8) :
    readMany c l.length (l.flatMap c.encode ++ s) = some (l, s) := by
  induction l with
  | nil => rfl
  | cons a l ih =>
    rw [List.length_cons, readMany, List.flatMap_cons, List.append_assoc, c.decode_encode,
      Option.bind_some, ih]
    rfl

/-- How many words, in this code, and then the words. -/
def counted (length : Code UInt8 ℕ) (c : Code UInt8 α) : Code UInt8 (List α) where
  encode l := length.encode l.length ++ l.flatMap c.encode
  decode s := (length.decode s).bind fun r => readMany c r.1 r.2
  decode_encode l s := by
    rw [List.append_assoc, length.decode_encode, Option.bind_some, readMany_flatMap]

/-- The octets of a number, the least first. -/
def octets : ℕ → ℕ → List UInt8
  | 0, _ => []
  | fuel + 1, n => if n = 0 then [] else UInt8.ofNat (n % 256) :: octets fuel (n / 256)

def ofOctets : List UInt8 → ℕ
  | [] => 0
  | b :: s => b.toNat + 256 * ofOctets s

theorem ofOctets_octets {fuel n : ℕ} (h : n < 256 ^ fuel) : ofOctets (octets fuel n) = n := by
  induction fuel generalizing n with
  | zero =>
    have hzero : n = 0 := by simpa using h
    rw [hzero]
    rfl
  | succ fuel ih =>
    unfold octets
    split_ifs with hzero
    · rw [hzero]
      rfl
    · have hrest : n / 256 < 256 ^ fuel := by
        rw [Nat.pow_succ] at h
        omega
      have hoctet : (UInt8.ofNat (n % 256)).toNat = n % 256 :=
        UInt8.toNat_ofNat_of_lt' (Nat.mod_lt n (by decide))
      rw [ofOctets, ih hrest, hoctet]
      omega

theorem ofOctets_octets_log2 (n : ℕ) : ofOctets (octets (n.log2 + 1) n) = n := by
  refine ofOctets_octets ?_
  calc n < 2 ^ (n.log2 + 1) := Nat.lt_log2_self
    _ ≤ 256 ^ (n.log2 + 1) := Nat.pow_le_pow_left (by decide) _

def nat : Code UInt8 ℕ :=
  (counted count symbol).via (fun n => octets (n.log2 + 1) n) (fun s => some (ofOctets s))
    fun n => congrArg some (ofOctets_octets_log2 n)

def list (c : Code UInt8 α) : Code UInt8 (List α) := counted nat c

/-- How many symbols, and then the symbols. -/
def block : Code UInt8 (List UInt8) where
  encode b := nat.encode b.length ++ b
  decode s := (nat.decode s).bind fun r =>
    if r.1 ≤ r.2.length then some (r.2.take r.1, r.2.drop r.1) else none
  decode_encode b s := by
    rw [List.append_assoc, nat.decode_encode, Option.bind_some, if_pos (by simp),
      List.take_left, List.drop_left]

def option (c : Code UInt8 α) : Code UInt8 (Option α) :=
  (counted count c).via Option.toList (fun l => if l.length ≤ 1 then some l.head? else none) (by
    rintro (_ | a) <;> rfl)

end Counts

end Code

end PrefixCodes
