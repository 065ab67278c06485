import Mathlib.Data.List.Basic

/-! Markup as a reader of it takes it: what is text, what is a tag, what is a quoted value.

A document is written by `format`, from pieces that are fixed and arguments that stand between
them. Two documents from the same pieces carry the same markup when, hole by hole, their arguments
do; text without any of the four marks carries none. -/
namespace MarkupLexing

inductive Mode where
  | text
  | tag
  | doubleQuoted
  | singleQuoted
  deriving DecidableEq, Repr

def Mode.next : Mode → Char → Mode
  | .text, '<' => .tag
  | .tag, '>' => .text
  | .tag, '"' => .doubleQuoted
  | .tag, '\'' => .singleQuoted
  | .doubleQuoted, '"' => .tag
  | .singleQuoted, '\'' => .tag
  | m, _ => m

def after (m : Mode) : List Char → Mode
  | [] => m
  | c :: cs => after (m.next c) cs

/-- What is neither text nor inside a quoted value. -/
def markup (m : Mode) : List Char → List Char
  | [] => []
  | c :: cs =>
    if m ≠ .tag ∧ m.next c = m then markup (m.next c) cs else c :: markup (m.next c) cs

/-- A character that no reader outside a tag takes as markup. -/
def inert (c : Char) : Bool := !(['<', '>', '"', '\''].contains c)

variable {m : Mode} {c : Char} {cs ds : List Char} {a a' b b' : String}

@[simp] theorem after_append : after m (cs ++ ds) = after (after m cs) ds := by
  induction cs generalizing m with
  | nil => rfl
  | cons c cs ih => exact ih

@[simp] theorem markup_append :
    markup m (cs ++ ds) = markup m cs ++ markup (after m cs) ds := by
  induction cs generalizing m with
  | nil => rfl
  | cons c cs ih =>
    simp only [List.cons_append, markup, after]
    split_ifs
    · exact ih
    · rw [ih, List.cons_append]

theorem next_inert (hm : m ≠ .tag) (hc : inert c) : m.next c = m := by
  simp only [inert, List.contains_cons, List.contains_nil, Bool.or_false, Bool.not_eq_true',
    Bool.or_eq_false_iff, beq_eq_false_iff_ne, ne_eq] at hc
  obtain ⟨hopen, -, hdouble, hsingle⟩ := hc
  cases m with
  | tag => exact absurd rfl hm
  | text | doubleQuoted | singleQuoted => simp [Mode.next, hopen, hdouble, hsingle]

theorem after_inert (hm : m ≠ .tag) (hcs : cs.all inert) : after m cs = m := by
  induction cs with
  | nil => rfl
  | cons c cs ih =>
    rw [List.all_cons, Bool.and_eq_true] at hcs
    rw [after, next_inert hm hcs.1, ih hcs.2]

theorem markup_inert (hm : m ≠ .tag) (hcs : cs.all inert) : markup m cs = [] := by
  induction cs with
  | nil => rfl
  | cons c cs ih =>
    rw [List.all_cons, Bool.and_eq_true] at hcs
    have hnext : m.next c = m := next_inert hm hcs.1
    rw [markup, if_pos ⟨hm, hnext⟩, hnext, ih hcs.2]

def Inert (a : String) : Prop := a.toList.all inert

theorem Inert.append (ha : Inert a) (hb : Inert b) : Inert (a ++ b) := by
  unfold Inert at ha hb ⊢
  rw [String.toList_append, List.all_append, ha, hb]
  rfl

/-- Two texts that leave the reader as they find it and carry the same markup. -/
structure SameMarkup (m : Mode) (a b : String) : Prop where
  left : after m a.toList = m
  right : after m b.toList = m
  markup : markup m a.toList = markup m b.toList

theorem Inert.same (ha : Inert a) (hb : Inert b) (hm : m ≠ .tag) : SameMarkup m a b where
  left := after_inert hm ha
  right := after_inert hm hb
  markup := by rw [markup_inert hm ha, markup_inert hm hb]

theorem SameMarkup.append (ha : SameMarkup m a a') (hb : SameMarkup m b b') :
    SameMarkup m (a ++ b) (a' ++ b') where
  left := by rw [String.toList_append, after_append, ha.left, hb.left]
  right := by rw [String.toList_append, after_append, ha.right, hb.right]
  markup := by
    rw [String.toList_append, String.toList_append, markup_append, markup_append, ha.left,
      ha.right, ha.markup, hb.markup]

theorem SameMarkup.nil : SameMarkup m "" "" := ⟨rfl, rfl, rfl⟩

theorem SameMarkup.join {as bs : List String} (hlength : as.length = bs.length)
    (h : ∀ a ∈ as, ∀ b ∈ bs, SameMarkup m a b) :
    SameMarkup m (String.join as) (String.join bs) := by
  induction as generalizing bs with
  | nil =>
    obtain rfl : bs = [] := List.length_eq_zero_iff.mp hlength.symm
    exact SameMarkup.nil
  | cons a as ih =>
    cases bs with
    | nil => cases hlength
    | cons b bs =>
      rw [String.join_cons, String.join_cons]
      refine (h a List.mem_cons_self b List.mem_cons_self).append (ih (Nat.succ.inj hlength) ?_)
      intro a' ha b' hb
      exact h a' (List.mem_cons_of_mem a ha) b' (List.mem_cons_of_mem b hb)

def Part (a b : String) : Prop := ∃ x y, b = x ++ a ++ y

theorem Part.trans {d : String} (h : Part a b) (h' : Part b d) : Part a d := by
  obtain ⟨x, y, rfl⟩ := h
  obtain ⟨x', y', rfl⟩ := h'
  exact ⟨x' ++ x, y ++ y', by simp only [String.append_assoc]⟩

theorem Part.join {l : List String} (h : a ∈ l) : Part a (String.join l) := by
  obtain ⟨before, after, rfl⟩ := List.append_of_mem h
  exact ⟨String.join before, String.join after, by
    rw [String.join_append, String.join_cons, String.append_assoc]⟩

section Format

def format : List String → List String → String
  | [], _ => ""
  | piece :: _, [] => piece
  | piece :: pieces, arg :: args => piece ++ arg ++ format pieces args

/-- Two documents that differ in one argument at most are alike when that argument is. -/
theorem format_cancel {pieces bs : List String} (as : List String)
    (hpieces : as.length < pieces.length) :
    format pieces (as ++ a :: bs) = format pieces (as ++ b :: bs) ↔ a = b := by
  induction as generalizing pieces with
  | nil =>
    cases pieces with
    | nil => cases hpieces
    | cons piece pieces =>
      rw [List.nil_append, List.nil_append, format, format, String.append_left_inj,
        String.append_right_inj]
  | cons c as ih =>
    cases pieces with
    | nil => cases hpieces
    | cons piece pieces =>
      rw [List.cons_append, List.cons_append, format, format, String.append_right_inj]
      exact ih (Nat.lt_of_succ_lt_succ hpieces)

theorem Part.format {pieces bs : List String} (as : List String)
    (hpieces : as.length < pieces.length) :
    Part a (format pieces (as ++ a :: bs)) := by
  induction as generalizing pieces with
  | nil =>
    cases pieces with
    | nil => cases hpieces
    | cons piece pieces => exact ⟨piece, MarkupLexing.format pieces bs, rfl⟩
  | cons c as ih =>
    cases pieces with
    | nil => cases hpieces
    | cons piece pieces =>
      obtain ⟨x, y, h⟩ := ih (Nat.lt_of_succ_lt_succ hpieces)
      refine ⟨piece ++ c ++ x, y, ?_⟩
      rw [List.cons_append, MarkupLexing.format, h]
      simp only [String.append_assoc]

/-- What the reader is in after each piece, when no argument makes it leave that. -/
def holes (m : Mode) : List String → List Mode
  | [] => []
  | piece :: pieces => after m piece.toList :: holes (after m piece.toList) pieces

theorem holes_ofList {pieces : List String} :
    holes m (String.ofList cs :: pieces) = after m cs :: holes (after m cs) pieces := by
  rw [holes, String.toList_ofList]

/-- Arguments that carry the same markup, each in its hole. The last piece ends in `last`. -/
def Fills (last : Mode) : List String → List String → List Mode → Prop
  | [], [], modes => modes = [last]
  | a :: as, b :: bs, m :: modes => SameMarkup m a b ∧ Fills last as bs modes
  | _, _, _ => False

theorem format_same {pieces as bs : List String} {last : Mode}
    (h : Fills last as bs (holes m pieces)) :
    after m (format pieces as).toList = last ∧ after m (format pieces bs).toList = last ∧
      markup m (format pieces as).toList = markup m (format pieces bs).toList := by
  induction pieces generalizing m as bs with
  | nil => cases as <;> cases bs <;> simp [Fills, holes] at h
  | cons piece pieces ih =>
    cases as with
    | nil =>
      cases bs with
      | nil =>
        obtain ⟨hlast, -⟩ := List.cons.inj h
        exact ⟨hlast, hlast, rfl⟩
      | cons b bs => exact h.elim
    | cons a as =>
      cases bs with
      | nil => exact h.elim
      | cons b bs =>
        obtain ⟨hab, hrest⟩ := h
        obtain ⟨hleft, hright, hmarkup⟩ := ih hrest
        simp only [format, String.toList_append, after_append, markup_append, hab.left, hab.right,
          hab.markup, hleft, hright, hmarkup, and_self]

theorem SameMarkup.format {pieces as bs : List String} (h : Fills m as bs (holes m pieces)) :
    SameMarkup m (format pieces as) (MarkupLexing.format pieces bs) :=
  let ⟨hleft, hright, hmarkup⟩ := format_same h
  ⟨hleft, hright, hmarkup⟩

end Format

end MarkupLexing
