import Mathlib.Data.List.Basic
import Mathlib.Tactic.Cases

/-! The compact form of signed tokens: octets in base64url without padding, and three parts
separated by dots. -/
namespace CompactTokens

section Base64Url

def alphabet : List Char :=
  ['A', 'B', 'C', 'D', 'E', 'F', 'G', 'H', 'I', 'J', 'K', 'L', 'M', 'N', 'O', 'P', 'Q', 'R', 'S',
    'T', 'U', 'V', 'W', 'X', 'Y', 'Z', 'a', 'b', 'c', 'd', 'e', 'f', 'g', 'h', 'i', 'j', 'k', 'l',
    'm', 'n', 'o', 'p', 'q', 'r', 's', 't', 'u', 'v', 'w', 'x', 'y', 'z', '0', '1', '2', '3', '4',
    '5', '6', '7', '8', '9', '-', '_']

def sextet (n : ℕ) : Char := alphabet.getD n 'A'

def sextetValue (c : Char) : ℕ := alphabet.idxOf c

def base64Url : List UInt8 → List Char
  | [] => []
  | [a] => [sextet (a.toNat / 4), sextet (a.toNat % 4 * 16)]
  | [a, b] => [sextet (a.toNat / 4), sextet (a.toNat % 4 * 16 + b.toNat / 16),
      sextet (b.toNat % 16 * 4)]
  | a :: b :: c :: rest => sextet (a.toNat / 4) :: sextet (a.toNat % 4 * 16 + b.toNat / 16) ::
      sextet (b.toNat % 16 * 4 + c.toNat / 64) :: sextet (c.toNat % 64) :: base64Url rest

def octet (n : ℕ) : UInt8 := UInt8.ofNat n

def base64UrlDecode : List Char → Option (List UInt8)
  | [] => some []
  | [_] => none
  | [w, x] => some [octet (sextetValue w * 4 + sextetValue x / 16)]
  | [w, x, y] => some [octet (sextetValue w * 4 + sextetValue x / 16),
      octet (sextetValue x % 16 * 16 + sextetValue y / 4)]
  | w :: x :: y :: z :: rest => (base64UrlDecode rest).map fun octets =>
      octet (sextetValue w * 4 + sextetValue x / 16) ::
        octet (sextetValue x % 16 * 16 + sextetValue y / 4) ::
        octet (sextetValue y % 4 * 64 + sextetValue z) :: octets

theorem sextetValue_sextet {n : ℕ} (h : n < 64) : sextetValue (sextet n) = n := by
  have hall : ∀ k : Fin 64, sextetValue (sextet k) = k := by decide +kernel
  exact hall ⟨n, h⟩

theorem sextet_ne_dot {n : ℕ} (h : n < 64) : sextet n ≠ '.' := by
  have hall : ∀ k : Fin 64, sextet k ≠ '.' := by decide +kernel
  exact hall ⟨n, h⟩

theorem octet_eq {a : UInt8} {n : ℕ} (h : n = a.toNat) : octet n = a := by
  rw [octet, h, UInt8.ofNat_toNat]

theorem base64UrlDecode_base64Url (octets : List UInt8) :
    base64UrlDecode (base64Url octets) = some octets := by
  induction octets using base64Url.induct with
  | case1 => rfl
  | case2 a =>
    have ha := a.toNat_lt
    have h₁ := sextetValue_sextet (n := a.toNat / 4) (by omega)
    have h₂ := sextetValue_sextet (n := a.toNat % 4 * 16) (by omega)
    simp only [base64Url, base64UrlDecode, h₁, h₂, Option.some.injEq, List.cons.injEq, and_true]
    exact octet_eq (by omega)
  | case3 a b =>
    have ha := a.toNat_lt
    have hb := b.toNat_lt
    have h₁ := sextetValue_sextet (n := a.toNat / 4) (by omega)
    have h₂ := sextetValue_sextet (n := a.toNat % 4 * 16 + b.toNat / 16) (by omega)
    have h₃ := sextetValue_sextet (n := b.toNat % 16 * 4) (by omega)
    simp only [base64Url, base64UrlDecode, h₁, h₂, h₃, Option.some.injEq, List.cons.injEq,
      and_true]
    exact ⟨octet_eq (by omega), octet_eq (by omega)⟩
  | case4 a b c rest ih =>
    have ha := a.toNat_lt
    have hb := b.toNat_lt
    have hc := c.toNat_lt
    have h₁ := sextetValue_sextet (n := a.toNat / 4) (by omega)
    have h₂ := sextetValue_sextet (n := a.toNat % 4 * 16 + b.toNat / 16) (by omega)
    have h₃ := sextetValue_sextet (n := b.toNat % 16 * 4 + c.toNat / 64) (by omega)
    have h₄ := sextetValue_sextet (n := c.toNat % 64) (by omega)
    simp only [base64Url, base64UrlDecode, h₁, h₂, h₃, h₄, ih, Option.map_some, Option.some.injEq,
      List.cons.injEq, and_true]
    exact ⟨octet_eq (by omega), octet_eq (by omega), octet_eq (by omega)⟩

theorem dot_notMem_base64Url (octets : List UInt8) : '.' ∉ base64Url octets := by
  induction octets using base64Url.induct with
  | case1 => simp [base64Url]
  | case2 a =>
    have ha := a.toNat_lt
    simp only [base64Url, List.mem_cons, List.not_mem_nil, or_false, not_or]
    exact ⟨(sextet_ne_dot (by omega)).symm, (sextet_ne_dot (by omega)).symm⟩
  | case3 a b =>
    have ha := a.toNat_lt
    have hb := b.toNat_lt
    simp only [base64Url, List.mem_cons, List.not_mem_nil, or_false, not_or]
    exact ⟨(sextet_ne_dot (by omega)).symm, (sextet_ne_dot (by omega)).symm,
      (sextet_ne_dot (by omega)).symm⟩
  | case4 a b c rest ih =>
    have ha := a.toNat_lt
    have hb := b.toNat_lt
    have hc := c.toNat_lt
    simp only [base64Url, List.mem_cons, not_or]
    exact ⟨(sextet_ne_dot (by omega)).symm, (sextet_ne_dot (by omega)).symm,
      (sextet_ne_dot (by omega)).symm, (sextet_ne_dot (by omega)).symm, ih⟩

theorem sextet_mem (n : ℕ) : sextet n ∈ alphabet := by
  unfold sextet
  rw [List.getD_eq_getElem?_getD]
  cases hn : alphabet[n]? with
  | none => decide
  | some c => exact List.mem_of_getElem? hn

theorem mem_alphabet_of_mem_base64Url {c : Char} {octets : List UInt8}
    (h : c ∈ base64Url octets) : c ∈ alphabet := by
  induction octets using base64Url.induct with
  | case1 => cases h
  | case2 a =>
    simp only [base64Url, List.mem_cons, List.not_mem_nil, or_false] at h
    rcases h with rfl | rfl <;> exact sextet_mem _
  | case3 a b =>
    simp only [base64Url, List.mem_cons, List.not_mem_nil, or_false] at h
    rcases h with rfl | rfl | rfl <;> exact sextet_mem _
  | case4 a b c rest ih =>
    simp only [base64Url, List.mem_cons] at h
    rcases h with rfl | rfl | rfl | rfl | h
    iterate 4 exact sextet_mem _
    exact ih h

end Base64Url

section Parts

def compact (header payload signature : List Char) : List Char :=
  header ++ '.' :: (payload ++ '.' :: signature)

theorem second_part {header payload signature : List Char} (hheader : '.' ∉ header)
    (hpayload : '.' ∉ payload) :
    ((compact header payload signature).splitOn '.')[1]? = some payload := by
  rw [compact, List.splitOn_append_cons_self_of_not_mem hheader,
    List.splitOn_append_cons_self_of_not_mem hpayload]
  rfl

end Parts

end CompactTokens
