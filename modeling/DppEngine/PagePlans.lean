import DppEngine.SubmissionLookups
import Mathlib

/-! The plan of the pages to read, in machine arithmetic.

`planPages` counts in natural numbers. Here every operation has the width it has in the source and
fails where it would not fit; the two agree, and what a plan is worth is proved of it. -/
namespace PagePlans

open SubmissionLookups (ListOrder PagePlan bothEnds planPages u32Max)

section Machine

def u64Max : ℕ := 2 ^ 64 - 1

def checkedAdd (most a b : ℕ) : Option ℕ := if a + b ≤ most then some (a + b) else none

def checkedSub (a b : ℕ) : Option ℕ := if b ≤ a then some (a - b) else none

def divCeil (most a b : ℕ) : Option ℕ :=
  if b = 0 then none else if 0 < a % b then checkedAdd most (a / b) 1 else some (a / b)

def tryFrom (most n : ℕ) : Option ℕ := if n ≤ most then some n else none

def upTo (first last : ℕ) : List ℕ := List.range' first (last - first)

/-- The loop over both ends: a page of the front past the first, then one of the back. -/
def pushPages (front back last : ℕ) : List ℕ → List ℕ → Option (List ℕ)
  | pages, [] => some pages
  | pages, i :: rest =>
    let pages := if 0 < i ∧ i < front then pages ++ [i] else pages
    if i < back then
      (checkedSub last i).bind fun page => pushPages front back last (pages ++ [page]) rest
    else pushPages front back last pages rest

/-- `plan_pages`, that has no plan where an operation does not fit. -/
def machinePlan (totalElements : Option UInt64) (pageSize : ℕ) (cap : UInt32)
    (order : ListOrder) : Option PagePlan :=
  let cap := cap.toNat
  match totalElements with
  | none => some ⟨upTo 1 cap, false⟩
  | some total =>
    let pageSize := (tryFrom u64Max (max pageSize 1)).getD u64Max
    (divCeil u64Max total.toNat pageSize).bind fun totalPages =>
      if totalPages ≤ cap then some ⟨upTo 1 ((tryFrom u32Max totalPages).getD cap), true⟩
      else
        match order with
        | .newestFirst => some ⟨upTo 1 cap, false⟩
        | .unknown =>
          (checkedSub totalPages 1).bind fun lastPage =>
            let last := (tryFrom u32Max lastPage).getD u32Max
            (divCeil u32Max cap 2).bind fun front =>
              (checkedSub cap front).bind fun back =>
                (pushPages front back last [] (upTo 0 (max front back))).map fun pages =>
                  ⟨pages, false⟩

end Machine

def pageCount (total : UInt64) (pageSize : ℕ) : ℕ := total.toNat ⌈/⌉ max pageSize 1

/-- What a plan is worth. Page 0 is read before it is made. -/
structure Sound (totalElements : Option UInt64) (pageSize : ℕ) (cap : UInt32) (order : ListOrder)
    (plan : PagePlan) : Prop where
  fits : ∀ page ∈ plan.pages, page ≤ u32Max
  distinct : (0 :: plan.pages).Nodup
  capped : (0 :: plan.pages).length ≤ max cap.toNat 1
  listed : ∀ total ∈ totalElements, ∀ page ∈ plan.pages, page < pageCount total pageSize
  covers_iff : plan.coversAll ↔ ∃ total ∈ totalElements, pageCount total pageSize ≤ cap.toNat
  covered : plan.coversAll → ∀ total ∈ totalElements, ∀ page < pageCount total pageSize,
    page ∈ 0 :: plan.pages
  bothEnds : ∀ total ∈ totalElements, order = .unknown → 1 ≤ cap.toNat →
    cap.toNat < pageCount total pageSize → pageCount total pageSize - 1 ≤ u32Max →
      ∀ page, page ∈ 0 :: plan.pages ↔
        page < cap.toNat ⌈/⌉ 2 ∨
          pageCount total pageSize - cap.toNat / 2 ≤ page ∧ page < pageCount total pageSize

section Agreement

theorem checkedSub_of_le {a b : ℕ} (h : b ≤ a) : checkedSub a b = some (a - b) := if_pos h

theorem ceil_of_rest {a b : ℕ} (hb : 0 < b) (hrest : 0 < a % b) : a ⌈/⌉ b = a / b + 1 := by
  have hdiv := Nat.div_add_mod a b
  have hmod := Nat.mod_lt a hb
  have hsum : a + b - 1 = (a % b - 1) + b * (a / b + 1) := by
    rw [Nat.mul_add, Nat.mul_one]
    omega
  rw [Nat.ceilDiv_eq_add_pred_div, hsum, Nat.add_mul_div_left _ _ hb,
    Nat.div_eq_of_lt (show a % b - 1 < b by omega), Nat.zero_add]

theorem ceil_of_no_rest {a b : ℕ} (hb : 0 < b) (hrest : a % b = 0) : a ⌈/⌉ b = a / b := by
  have hdiv := Nat.div_add_mod a b
  have hsum : a + b - 1 = (b - 1) + b * (a / b) := by omega
  rw [Nat.ceilDiv_eq_add_pred_div, hsum, Nat.add_mul_div_left _ _ hb,
    Nat.div_eq_of_lt (show b - 1 < b by omega), Nat.zero_add]

/-- The quotient has room for one more where there is a remainder. -/
theorem divCeil_eq {most a b : ℕ} (hb : 0 < b) (ha : a ≤ most) :
    divCeil most a b = some (a ⌈/⌉ b) := by
  unfold divCeil
  rw [if_neg (by omega)]
  by_cases hrest : 0 < a % b
  · have hdiv := Nat.div_add_mod a b
    have hquotient : a / b ≤ b * (a / b) := Nat.le_mul_of_pos_left _ hb
    rw [if_pos hrest, ceil_of_rest hb hrest]
    exact if_pos (by omega)
  · rw [if_neg hrest, ceil_of_no_rest hb (by omega)]

/-- Of a divisor that is as large as the number, its size does not matter. -/
theorem ceil_large {a b c : ℕ} (hb : 0 < b) (hc : 0 < c) (hab : a ≤ b) (hac : a ≤ c) :
    a ⌈/⌉ b = a ⌈/⌉ c := by
  have hsmall : ∀ n, 0 < n → a ≤ n → a ⌈/⌉ n = if a = 0 then 0 else 1 := by
    intro n hn han
    rw [Nat.ceilDiv_eq_add_pred_div]
    by_cases hzero : a = 0
    · rw [if_pos hzero]
      exact Nat.div_eq_of_lt (by omega)
    · rw [if_neg hzero]
      have hsum : a + n - 1 = (a - 1) + n * 1 := by omega
      rw [hsum, Nat.add_mul_div_left _ _ hn, Nat.div_eq_of_lt (by omega)]
  rw [hsmall b hb hab, hsmall c hc hac]

theorem tryFrom_getD {most n : ℕ} (h : n ≤ most) (other : ℕ) :
    (tryFrom most n).getD other = n := by
  unfold tryFrom
  rw [if_pos h]
  rfl

theorem tryFrom_getD_most (most n : ℕ) : (tryFrom most n).getD most = min n most := by
  unfold tryFrom
  by_cases h : n ≤ most
  · rw [if_pos h, min_eq_left h]
    rfl
  · rw [if_neg h, min_eq_right (by omega)]
    rfl

def turn (front back last i : ℕ) : List ℕ :=
  (if 0 < i ∧ i < front then [i] else []) ++ if i < back then [last - i] else []

/-- The loop subtracts nothing from the last page that is larger. -/
theorem pushPages_eq {front back last : ℕ} {pages turns : List ℕ}
    (h : ∀ i ∈ turns, i < back → i ≤ last) :
    pushPages front back last pages turns =
      some (pages ++ turns.flatMap (turn front back last)) := by
  induction turns generalizing pages with
  | nil => simp [pushPages]
  | cons i turns ih =>
    have hrest : ∀ i ∈ turns, i < back → i ≤ last := fun i hi => h i (List.mem_cons_of_mem _ hi)
    unfold pushPages
    rw [List.flatMap_cons]
    by_cases hback : i < back
    · rw [if_pos hback, checkedSub_of_le (h i List.mem_cons_self hback), Option.bind_some,
        ih hrest]
      by_cases hfront : 0 < i ∧ i < front
      · simp [turn, hback, hfront]
      · simp [turn, hback, hfront]
    · rw [if_neg hback, ih hrest]
      by_cases hfront : 0 < i ∧ i < front
      · simp [turn, hback, hfront]
      · simp [turn, hback, hfront]

theorem upTo_zero (n : ℕ) : upTo 0 n = List.range n := List.range_eq_range'.symm

theorem bothEnds_eq (front back last : ℕ) :
    bothEnds last front back = (List.range (max front back)).flatMap (turn front back last) := rfl

/-- The machine's page size makes the same number of pages. -/
theorem machine_pageCount (total : UInt64) (pageSize : ℕ) :
    divCeil u64Max total.toNat ((tryFrom u64Max (max pageSize 1)).getD u64Max) =
      some (pageCount total pageSize) := by
  have htotal : total.toNat ≤ u64Max := Nat.le_pred_of_lt total.toNat_lt
  have hpos : 0 < u64Max := by decide
  rw [tryFrom_getD_most]
  rw [divCeil_eq (by omega) htotal]
  unfold pageCount
  by_cases hsize : max pageSize 1 ≤ u64Max
  · rw [min_eq_left hsize]
  · rw [min_eq_right (by omega)]
    exact congrArg some (ceil_large hpos (by omega) htotal (by omega))

theorem planPages_pageCount (total : UInt64) (pageSize : ℕ) :
    (total.toNat + (max pageSize 1 - 1)) / max pageSize 1 = pageCount total pageSize := by
  unfold pageCount
  rw [Nat.ceilDiv_eq_add_pred_div, Nat.add_sub_assoc (le_max_right _ _)]

/-- No operation of the machine fails, and its plan is the one in natural numbers. -/
theorem machinePlan_eq (totalElements : Option UInt64) (pageSize : ℕ) (cap : UInt32)
    (order : ListOrder) :
    machinePlan totalElements pageSize cap order =
      some (planPages (totalElements.map UInt64.toNat) pageSize cap.toNat order) := by
  have hcap : cap.toNat ≤ u32Max := Nat.le_pred_of_lt cap.toNat_lt
  cases totalElements with
  | none => rfl
  | some total =>
    unfold machinePlan planPages
    dsimp only [Option.map_some]
    rw [machine_pageCount, planPages_pageCount, Option.bind_some]
    by_cases hshort : pageCount total pageSize ≤ cap.toNat
    · rw [if_pos hshort, if_pos hshort, tryFrom_getD (hshort.trans hcap)]
      rfl
    · rw [if_neg hshort, if_neg hshort]
      cases order with
      | newestFirst => rfl
      | unknown =>
        have hfront : cap.toNat ⌈/⌉ 2 = (cap.toNat + 1) / 2 := by
          rw [Nat.ceilDiv_eq_add_pred_div]
          rfl
        have hlast : ∀ i, i < cap.toNat - (cap.toNat + 1) / 2 →
            i ≤ min (pageCount total pageSize - 1) u32Max := by
          intro i hi
          have hmin : cap.toNat ≤ min (pageCount total pageSize - 1) u32Max := by
            rw [le_min_iff]
            omega
          omega
        dsimp only
        rw [checkedSub_of_le (by omega), Option.bind_some, divCeil_eq (by omega) hcap,
          Option.bind_some, hfront, checkedSub_of_le (by omega), Option.bind_some,
          tryFrom_getD_most, pushPages_eq fun i _ hi => hlast i hi, upTo_zero]
        rfl

end Agreement

section Ends

variable {front back last page : ℕ}

theorem mem_turn {i : ℕ} :
    page ∈ turn front back last i ↔
      0 < i ∧ i < front ∧ page = i ∨ i < back ∧ page = last - i := by
  unfold turn
  rw [List.mem_append]
  by_cases hfront : 0 < i ∧ i < front
  · by_cases hback : i < back
    · simp [hfront, hback]
    · simp [hfront, hback]
  · by_cases hback : i < back
    · simp [hfront, hback]
      omega
    · simp [hfront, hback]
      omega

theorem mem_bothEnds (h : back ≤ last + 1) :
    page ∈ bothEnds last front back ↔
      0 < page ∧ page < front ∨ last < page + back ∧ page ≤ last := by
  rw [bothEnds_eq, List.mem_flatMap]
  constructor
  · rintro ⟨i, _, hturn⟩
    rcases mem_turn.mp hturn with ⟨hpos, hfront, rfl⟩ | ⟨hback, rfl⟩
    · exact .inl ⟨hpos, hfront⟩
    · right
      omega
  · rintro (⟨hpos, hfront⟩ | ⟨hback, hle⟩)
    · exact ⟨page, List.mem_range.mpr (by omega), mem_turn.mpr (.inl ⟨hpos, hfront, rfl⟩)⟩
    · refine ⟨last - page, List.mem_range.mpr (by omega), mem_turn.mpr (.inr ?_)⟩
      omega

theorem bothEnds_nodup (h : front + back ≤ last + 1) : (bothEnds last front back).Nodup := by
  rw [bothEnds_eq, List.nodup_flatMap]
  constructor
  · intro i _
    unfold turn
    by_cases hfront : 0 < i ∧ i < front
    · by_cases hback : i < back
      · rw [if_pos hfront, if_pos hback]
        have hne : i ≠ last - i := by omega
        simpa using hne
      · rw [if_pos hfront, if_neg hback]
        simp
    · by_cases hback : i < back
      · rw [if_neg hfront, if_pos hback]
        simp
      · rw [if_neg hfront, if_neg hback]
        simp
  · refine List.nodup_range.imp ?_
    intro i j hne page hi hj
    rcases mem_turn.mp hi with ⟨_, hfront, rfl⟩ | ⟨hback, rfl⟩
    · rcases mem_turn.mp hj with ⟨_, _, heq⟩ | ⟨hback, heq⟩
      · exact hne heq
      · omega
    · rcases mem_turn.mp hj with ⟨_, hfront, heq⟩ | ⟨hback', heq⟩
      · omega
      · omega

theorem turns_length (n : ℕ) :
    ((List.range n).flatMap (turn front back last)).length =
      (min n front - 1) + min n back := by
  induction n with
  | zero => simp
  | succ n ih =>
    rw [List.range_succ, List.flatMap_append, List.length_append, ih, List.flatMap_singleton]
    unfold turn
    by_cases hfront : 0 < n ∧ n < front
    · by_cases hback : n < back
      · rw [if_pos hfront, if_pos hback]
        simp only [List.length_append, List.length_singleton]
        omega
      · rw [if_pos hfront, if_neg hback]
        simp only [List.length_append, List.length_singleton, List.length_nil]
        omega
    · by_cases hback : n < back
      · rw [if_neg hfront, if_pos hback]
        simp only [List.length_append, List.length_singleton, List.length_nil]
        omega
      · rw [if_neg hfront, if_neg hback]
        simp only [List.length_append, List.length_nil]
        omega

theorem bothEnds_length : (bothEnds last front back).length = (front - 1) + back := by
  rw [bothEnds_eq, turns_length, min_eq_right (le_max_left _ _), min_eq_right (le_max_right _ _)]

end Ends

section Plans

variable {page : ℕ}

theorem mem_upTo {first last : ℕ} : page ∈ upTo first last ↔ first ≤ page ∧ page < last := by
  unfold upTo
  rw [List.mem_range'_1]
  omega

theorem upTo_distinct (last : ℕ) : (0 :: upTo 1 last).Nodup := by
  refine List.nodup_cons.mpr ⟨?_, List.nodup_range'⟩
  intro hmem
  have hpos := (mem_upTo.mp hmem).1
  omega

theorem upTo_capped {last cap : ℕ} (h : last ≤ cap) :
    (0 :: upTo 1 last).length ≤ max cap 1 := by
  unfold upTo
  rw [List.length_cons, List.length_range']
  omega

/-- A list of no stated length is read from the front. -/
theorem sound_unstated (pageSize : ℕ) (cap : UInt32) (order : ListOrder) :
    Sound none pageSize cap order ⟨upTo 1 cap.toNat, false⟩ where
  fits := by
    intro page hpage
    have hcap : cap.toNat ≤ u32Max := Nat.le_pred_of_lt cap.toNat_lt
    have hlt := (mem_upTo.mp hpage).2
    omega
  distinct := upTo_distinct _
  capped := upTo_capped le_rfl
  listed := by
    intro total htotal
    cases htotal
  covers_iff := by simp
  covered := by
    intro hcovers
    cases hcovers
  bothEnds := by
    intro total htotal
    cases htotal

variable {total : UInt64} {pageSize : ℕ} {cap : UInt32} {order : ListOrder}

theorem sound_short (h : pageCount total pageSize ≤ cap.toNat) :
    Sound (some total) pageSize cap order ⟨upTo 1 (pageCount total pageSize), true⟩ where
  fits := by
    intro page hpage
    have hcap : cap.toNat ≤ u32Max := Nat.le_pred_of_lt cap.toNat_lt
    have hlt := (mem_upTo.mp hpage).2
    omega
  distinct := upTo_distinct _
  capped := upTo_capped h
  listed := by
    intro total' htotal page hpage
    cases htotal
    exact (mem_upTo.mp hpage).2
  covers_iff := by simpa using h
  covered := by
    intro _ total' htotal page hlt
    cases htotal
    by_cases hzero : page = 0
    · rw [hzero]
      exact List.mem_cons_self
    · exact List.mem_cons_of_mem _ (mem_upTo.mpr ⟨Nat.one_le_iff_ne_zero.mpr hzero, hlt⟩)
  bothEnds := by
    intro total' htotal _ _ hlong
    cases htotal
    omega

theorem sound_front (h : cap.toNat < pageCount total pageSize) :
    Sound (some total) pageSize cap .newestFirst ⟨upTo 1 cap.toNat, false⟩ where
  fits := by
    intro page hpage
    have hcap : cap.toNat ≤ u32Max := Nat.le_pred_of_lt cap.toNat_lt
    have hlt := (mem_upTo.mp hpage).2
    omega
  distinct := upTo_distinct _
  capped := upTo_capped le_rfl
  listed := by
    intro total' htotal page hpage
    cases htotal
    exact (mem_upTo.mp hpage).2.trans h
  covers_iff := by simpa using h
  covered := by
    intro hcovers
    cases hcovers
  bothEnds := by
    intro total' _ horder
    cases horder

/-- A longer list of unknown order: the two runs have room between the first page and the last. -/
theorem sound_bothEnds (h : cap.toNat < pageCount total pageSize) :
    Sound (some total) pageSize cap .unknown
      ⟨bothEnds (min (pageCount total pageSize - 1) u32Max) ((cap.toNat + 1) / 2)
        (cap.toNat - (cap.toNat + 1) / 2), false⟩ := by
  have hcap : cap.toNat ≤ u32Max := Nat.le_pred_of_lt cap.toNat_lt
  have hceil : cap.toNat ⌈/⌉ 2 = (cap.toNat + 1) / 2 := by
    rw [Nat.ceilDiv_eq_add_pred_div]
    rfl
  generalize hlast : min (pageCount total pageSize - 1) u32Max = last
  have hroom : cap.toNat ≤ last := by
    rw [← hlast, le_min_iff]
    omega
  have hlisted : last < pageCount total pageSize ∧ last ≤ u32Max := by omega
  have hmem : ∀ page, page ∈ bothEnds last ((cap.toNat + 1) / 2)
      (cap.toNat - (cap.toNat + 1) / 2) ↔
        0 < page ∧ page < (cap.toNat + 1) / 2 ∨
          last < page + (cap.toNat - (cap.toNat + 1) / 2) ∧ page ≤ last :=
    fun page => mem_bothEnds (by omega)
  constructor
  · intro page hpage
    have hends := (hmem page).mp hpage
    omega
  · refine List.nodup_cons.mpr ⟨?_, bothEnds_nodup (by omega)⟩
    intro hzero
    have hends := (hmem 0).mp hzero
    omega
  · rw [List.length_cons, bothEnds_length]
    omega
  · intro total' htotal page hpage
    cases htotal
    have hends := (hmem page).mp hpage
    omega
  · simpa using h
  · intro hcovers
    cases hcovers
  · intro total' htotal _ hpositive _ hfits page
    cases htotal
    rw [List.mem_cons, hmem, hceil]
    omega

/-- Whatever the length, the page size, the cap and the order are, the machine has a plan, and it is
sound. -/
theorem machinePlan_sound (totalElements : Option UInt64) (pageSize : ℕ) (cap : UInt32)
    (order : ListOrder) :
    ∃ plan, machinePlan totalElements pageSize cap order = some plan ∧
      Sound totalElements pageSize cap order plan := by
  refine ⟨_, machinePlan_eq totalElements pageSize cap order, ?_⟩
  cases totalElements with
  | none => exact sound_unstated pageSize cap order
  | some total =>
    unfold planPages
    dsimp only [Option.map_some]
    rw [planPages_pageCount]
    by_cases hshort : pageCount total pageSize ≤ cap.toNat
    · rw [if_pos hshort]
      exact sound_short hshort
    · rw [if_neg hshort]
      cases order with
      | newestFirst => exact sound_front (by omega)
      | unknown => exact sound_bothEnds (by omega)

example : (machinePlan (some 5000) 50 20 .unknown).map (fun plan => plan.pages.take 4) =
    some [99, 1, 98, 2] := by decide

end Plans

end PagePlans
