import Mathlib.Data.List.Forall2
import Mathlib.Data.List.Basic

/-! XML documents as trees, searched in document order.

A node is addressed by the positions of its ancestors and itself among their siblings, the root
by the empty path. -/
namespace XmlTrees

abbrev Path := List ℕ

structure QName where
  ns : Option String
  name : String
  deriving DecidableEq, Repr

structure Attribute where
  ns : Option String
  name : String
  value : String
  deriving DecidableEq, Repr

inductive Node where
  | element (tag : QName) (attributes : List Attribute) (children : List Node)
  | text (value : String)
  /-- A comment or a processing instruction. -/
  | other
  deriving Repr

section Reading

def Node.children : Node → List Node
  | .element _ _ children => children
  | _ => []

def Node.attributes : Node → List Attribute
  | .element _ attributes _ => attributes
  | _ => []

def Node.tag : Node → Option QName
  | .element tag _ _ => some tag
  | _ => none

def Node.isNamed (name : String) (n : Node) : Bool := n.tag.any fun t => t.name = name

/-- An element's text is its first child, when that is one. -/
def Node.text? : Node → Option String
  | .element _ _ (.text value :: _) => some value
  | .text value => some value
  | _ => none

def Node.at : Node → Path → Option Node
  | n, [] => some n
  | n, i :: path =>
    match n.children[i]? with
    | some c => c.at path
    | none => none

mutual
/-- The node and everything under it, in document order, each with its path from the node. -/
def Node.located : Node → List (Path × Node)
  | .element tag attributes children =>
    ([], .element tag attributes children) :: locatedFrom 0 children
  | .text value => [([], .text value)]
  | .other => [([], .other)]
def locatedFrom (i : ℕ) : List Node → List (Path × Node)
  | [] => []
  | c :: cs => (c.located.map fun e => (i :: e.1, e.2)) ++ locatedFrom (i + 1) cs
end

def Node.first (fits : Node → Bool) (n : Node) : Option (Path × Node) :=
  n.located.find? fun e => fits e.2

def Node.before (path : Path) (n : Node) : List (Path × Node) :=
  n.located.takeWhile fun e => e.1 ≠ path

def Node.removeAt : Node → Path → Node
  | .element tag attributes children, [i] => .element tag attributes (children.eraseIdx i)
  | .element tag attributes children, i :: path =>
    .element tag attributes (children.modify i fun c => c.removeAt path)
  | n, _ => n

end Reading

section Order

variable {n m : Node} {path : Path} {fits : Node → Bool}

theorem Node.at_cons (n : Node) (i : ℕ) (path : Path) :
    n.at (i :: path) = n.children[i]?.bind fun c => c.at path := by
  cases h : n.children[i]? <;> simp [Node.at, h]

theorem Node.at_singleton (n : Node) (i : ℕ) : n.at [i] = n.children[i]? := by
  unfold Node.at
  cases n.children[i]? <;> rfl

theorem Node.located_eq (n : Node) :
    n.located = ([], n) :: locatedFrom 0 n.children := by
  cases n <;> simp [Node.located, Node.children, locatedFrom]

theorem locatedFrom_append (i : ℕ) (cs ds : List Node) :
    locatedFrom i (cs ++ ds) = locatedFrom i cs ++ locatedFrom (i + cs.length) ds := by
  induction cs generalizing i with
  | nil => simp [locatedFrom]
  | cons c cs ih =>
    simp only [List.cons_append, locatedFrom, ih, List.append_assoc, List.length_cons]
    congr 3
    omega

theorem head_of_mem_locatedFrom {i : ℕ} {cs : List Node} {e : Path × Node}
    (h : e ∈ locatedFrom i cs) : ∃ j p, e.1 = j :: p ∧ i ≤ j ∧ j < i + cs.length := by
  induction cs generalizing i with
  | nil => simp [locatedFrom] at h
  | cons c cs ih =>
    simp only [locatedFrom, List.mem_append, List.mem_map] at h
    rcases h with ⟨e', _, rfl⟩ | h
    · exact ⟨i, e'.1, rfl, Nat.le_refl i, by simp⟩
    · obtain ⟨j, p, hj, hle, hlt⟩ := ih h
      refine ⟨j, p, hj, by omega, ?_⟩
      rw [List.length_cons]
      omega

theorem map_snd_locatedFrom (i : ℕ) (cs : List Node) :
    (locatedFrom i cs).map Prod.snd = cs.flatMap fun c => c.located.map Prod.snd := by
  induction cs generalizing i with
  | nil => rfl
  | cons c cs ih => simp [locatedFrom, ih, Function.comp_def]

theorem Node.map_snd_located (n : Node) :
    n.located.map Prod.snd = n :: n.children.flatMap fun c => c.located.map Prod.snd := by
  rw [Node.located_eq, List.map_cons, map_snd_locatedFrom]

theorem Node.map_snd_first (n : Node) :
    (n.first fits).map Prod.snd = (n.located.map Prod.snd).find? fits := by
  rw [List.find?_map]
  rfl

/-- An ancestor of the node taken out changes with it; the others stay as they are. -/
def pruneAt (path : Path) (e : Path × Node) : Node :=
  if e.1 <+: path then e.2.removeAt (path.drop e.1.length) else e.2

theorem map_pruneAt_of_not_prefix {l : List (Path × Node)} (h : ∀ e ∈ l, ¬ e.1 <+: path) :
    l.map (pruneAt path) = l.map Prod.snd :=
  List.map_congr_left fun e he => if_neg (h e he)

theorem pruneAt_cons (i : ℕ) (path : Path) (e : Path × Node) :
    pruneAt (i :: path) (i :: e.1, e.2) = pruneAt path e := by
  simp [pruneAt, List.cons_prefix_cons]

theorem children_split {n : Node} {i : ℕ} {c : Node} (h : n.children[i]? = some c) :
    n.children = n.children.take i ++ c :: n.children.drop (i + 1) ∧
      (n.children.take i).length = i := by
  obtain ⟨hi, rfl⟩ := List.getElem?_eq_some_iff.mp h
  refine ⟨?_, ?_⟩
  · rw [List.getElem_cons_drop, List.take_append_drop]
  · rw [List.length_take]
    omega

theorem Node.removeAt_singleton {n : Node} {i : ℕ} {c : Node} (h : n.children[i]? = some c) :
    (n.removeAt [i]).children = n.children.take i ++ n.children.drop (i + 1) := by
  cases n with
  | element tag attributes children =>
    simp only [Node.removeAt, Node.children]
    exact List.eraseIdx_eq_take_drop_succ ..
  | text _ => simp [Node.children] at h
  | other => simp [Node.children] at h

theorem Node.removeAt_cons {n : Node} {i : ℕ} {c : Node} {path : Path} (hne : path ≠ [])
    (h : n.children[i]? = some c) :
    (n.removeAt (i :: path)).children =
      n.children.take i ++ c.removeAt path :: n.children.drop (i + 1) := by
  obtain ⟨j, rest, rfl⟩ := List.exists_cons_of_ne_nil hne
  cases n with
  | element tag attributes children =>
    simp only [Node.children] at h ⊢
    obtain ⟨hi, rfl⟩ := List.getElem?_eq_some_iff.mp h
    simp only [Node.removeAt]
    exact List.modify_eq_take_cons_drop hi
  | text _ => simp [Node.children] at h
  | other => simp [Node.children] at h

theorem not_prefix_of_head_ne {i j : ℕ} {p q : Path} (h : i ≠ j) : ¬ (i :: p) <+: (j :: q) := by
  rw [List.cons_prefix_cons]
  exact fun hp => h hp.1

/-- What is under a node stands in one run, with nothing of it before or after; and without it
there is what stood before, less the node where it enclosed it, and what stood after. -/
theorem Node.located_split (h : n.at path = some m) :
    ∃ pre post, n.located = pre ++ (m.located.map fun e => (path ++ e.1, e.2)) ++ post ∧
      (∀ e ∈ pre, ¬ path <+: e.1) ∧ (∀ e ∈ post, ¬ path <+: e.1) ∧
      (path ≠ [] → (n.removeAt path).located.map Prod.snd =
        pre.map (pruneAt path) ++ post.map Prod.snd) := by
  induction path generalizing n with
  | nil =>
    cases h
    exact ⟨[], [], by simp, by simp, by simp, nofun⟩
  | cons i path ih =>
    unfold Node.at at h
    split at h
    next c hc =>
      obtain ⟨pre, post, heq, hpre, hpost, hremoved⟩ := ih h
      obtain ⟨hsplit, hlen⟩ := children_split hc
      have hleft : ∀ e ∈ locatedFrom 0 (n.children.take i), ∃ j p, e.1 = j :: p ∧ j < i := by
        intro e he
        obtain ⟨j, p, hj, _, hlt⟩ := head_of_mem_locatedFrom he
        exact ⟨j, p, hj, by omega⟩
      refine ⟨([], n) :: locatedFrom 0 (n.children.take i) ++ pre.map (fun e => (i :: e.1, e.2)),
        post.map (fun e => (i :: e.1, e.2)) ++ locatedFrom (i + 1) (n.children.drop (i + 1)),
        ?_, ?_, ?_, ?_⟩
      · rw [Node.located_eq]
        nth_rewrite 1 [hsplit]
        rw [locatedFrom_append, hlen, Nat.zero_add, locatedFrom, heq]
        simp [List.append_assoc, Function.comp_def]
      · intro e he
        simp only [List.cons_append, List.mem_cons, List.mem_append, List.mem_map] at he
        rcases he with rfl | he | ⟨e', he', rfl⟩
        · simp
        · obtain ⟨j, p, hj, hlt⟩ := hleft e he
          exact hj ▸ not_prefix_of_head_ne (by omega)
        · rw [List.cons_prefix_cons]
          exact fun hp => hpre e' he' hp.2
      · intro e he
        simp only [List.mem_append, List.mem_map] at he
        rcases he with ⟨e', he', rfl⟩ | he
        · rw [List.cons_prefix_cons]
          exact fun hp => hpost e' he' hp.2
        · obtain ⟨j, p, hj, hle, _⟩ := head_of_mem_locatedFrom he
          exact hj ▸ not_prefix_of_head_ne (by omega)
      · intro _
        have hside : (locatedFrom 0 (n.children.take i)).map (pruneAt (i :: path)) =
            (locatedFrom 0 (n.children.take i)).map Prod.snd := by
          refine map_pruneAt_of_not_prefix fun e he => ?_
          obtain ⟨j, p, hj, hlt⟩ := hleft e he
          exact hj ▸ not_prefix_of_head_ne (by omega)
        have hroot : pruneAt (i :: path) ([], n) = n.removeAt (i :: path) := by
          simp [pruneAt]
        rw [Node.map_snd_located]
        simp only [List.map_append, List.map_cons, List.map_map, hroot, hside, Function.comp_def,
          pruneAt_cons, map_snd_locatedFrom]
        by_cases hne : path = []
        · subst hne
          cases h
          have hpre : pre = [] :=
            List.eq_nil_iff_forall_not_mem.mpr fun e he => hpre e he List.nil_prefix
          have hpost : post = [] :=
            List.eq_nil_iff_forall_not_mem.mpr fun e he => hpost e he List.nil_prefix
          rw [Node.removeAt_singleton hc, hpre, hpost]
          simp
        · rw [Node.removeAt_cons hne hc, List.flatMap_append, List.flatMap_cons, hremoved hne]
          simp
    next => cases h

theorem Node.before_split (h : n.at path = some m) :
    ∃ post, n.located = n.before path ++ (m.located.map fun e => (path ++ e.1, e.2)) ++ post ∧
      (∀ e ∈ n.before path, ¬ path <+: e.1) ∧ (∀ e ∈ post, ¬ path <+: e.1) ∧
      (path ≠ [] → (n.removeAt path).located.map Prod.snd =
        (n.before path).map (pruneAt path) ++ post.map Prod.snd) := by
  obtain ⟨pre, post, heq, hpre, hpost, hremoved⟩ := Node.located_split h
  have hbefore : n.before path = pre := by
    unfold Node.before
    rw [heq, Node.located_eq m, List.append_assoc, List.takeWhile_append_of_pos]
    · simp
    · intro e he
      simp only [ne_eq, decide_eq_true_eq]
      intro hpath
      exact hpre e he (hpath ▸ List.prefix_rfl)
  rw [hbefore]
  exact ⟨post, heq, hpre, hpost, hremoved⟩

/-- What is found first is under a node exactly when nothing before the node fits, and something
under it does. -/
theorem Node.first_within_iff (h : n.at path = some m) :
    (∃ e, n.first fits = some e ∧ path <+: e.1) ↔
      (∀ e ∈ n.before path, fits e.2 = false) ∧ ∃ e ∈ m.located, fits e.2 := by
  obtain ⟨post, heq, hbefore, hpost, _⟩ := Node.before_split h
  unfold Node.first
  rw [heq, List.find?_append, List.find?_append]
  constructor
  · rintro ⟨e, he, hpath⟩
    cases hpre : (n.before path).find? fun e => fits e.2 with
    | some d =>
      rw [hpre, Option.some_or] at he
      obtain rfl := Option.some.inj he
      exact absurd hpath (hbefore _ (List.mem_of_find?_eq_some hpre))
    | none =>
      rw [hpre, Option.none_or] at he
      refine ⟨by simpa using hpre, ?_⟩
      cases hin : (m.located.map fun e => (path ++ e.1, e.2)).find? fun e => fits e.2 with
      | some d =>
        have hfits := List.find?_some hin
        obtain ⟨e', he', rfl⟩ := List.mem_map.mp (List.mem_of_find?_eq_some hin)
        exact ⟨e', he', hfits⟩
      | none =>
        rw [hin, Option.none_or] at he
        exact absurd hpath (hpost e (List.mem_of_find?_eq_some he))
  · rintro ⟨hnone, d, hd, hfits⟩
    have hpre : (n.before path).find? (fun e => fits e.2) = none :=
      List.find?_eq_none.mpr fun e he => by simp [hnone e he]
    have hin : ((m.located.map fun e => (path ++ e.1, e.2)).find? fun e => fits e.2).isSome := by
      rw [List.find?_isSome]
      exact ⟨_, List.mem_map_of_mem hd, hfits⟩
    obtain ⟨e, he⟩ := Option.isSome_iff_exists.mp hin
    obtain ⟨e', _, heq'⟩ := List.mem_map.mp (List.mem_of_find?_eq_some he)
    refine ⟨e, by rw [hpre, he]; rfl, ?_⟩
    rw [← heq']
    exact List.prefix_append path e'.1

/-- A node that fits is itself what is found first exactly when nothing before it fits. -/
theorem Node.first_eq_iff (h : n.at path = some m) (hfits : fits m) :
    n.first fits = some (path, m) ↔ ∀ e ∈ n.before path, fits e.2 = false := by
  obtain ⟨post, heq, hbefore, hpost, _⟩ := Node.before_split h
  constructor
  · intro hfirst
    exact ((Node.first_within_iff h).mp ⟨_, hfirst, List.prefix_rfl⟩).1
  · intro hnone
    have hpre : (n.before path).find? (fun e => fits e.2) = none :=
      List.find?_eq_none.mpr fun e he => by simp [hnone e he]
    unfold Node.first
    rw [heq, List.find?_append, List.find?_append, hpre, Node.located_eq m]
    simp [hfits]

end Order

section Places

variable {n m c d : Node} {path p q : Path} {name gone : String}

theorem Node.at_append (hp : n.at p = some m) : n.at (p ++ q) = m.at q := by
  induction p generalizing n with
  | nil =>
    cases hp
    rfl
  | cons i p ih =>
    rw [Node.at_cons] at hp
    obtain ⟨c, hc, hp⟩ := Option.bind_eq_some_iff.mp hp
    rw [List.cons_append, Node.at_cons, hc]
    exact ih hp

theorem eq_element_of_children {i : ℕ} (h : n.children[i]? = some c) :
    ∃ tag attributes, n = .element tag attributes n.children := by
  cases n with
  | element tag attributes children => exact ⟨tag, attributes, rfl⟩
  | text _ => simp [Node.children] at h
  | other => simp [Node.children] at h

mutual
theorem Node.at_of_mem_located : ∀ (n : Node) (e : Path × Node), e ∈ n.located → n.at e.1 = some e.2
  | .element tag attributes children, e, h => by
    rw [Node.located_eq] at h
    rcases List.mem_cons.mp h with rfl | h
    · rfl
    · obtain ⟨j, p, c, hpath, hc, hat⟩ := at_of_mem_locatedFrom children 0 e h
      rw [hpath, Node.at_cons, Nat.zero_add]
      exact Option.bind_eq_some_iff.mpr ⟨c, hc, hat⟩
  | .text _, e, h => by
    cases List.mem_singleton.mp h
    rfl
  | .other, e, h => by
    cases List.mem_singleton.mp h
    rfl
theorem at_of_mem_locatedFrom : ∀ (cs : List Node) (i : ℕ) (e : Path × Node),
    e ∈ locatedFrom i cs → ∃ j p c, e.1 = (i + j) :: p ∧ cs[j]? = some c ∧ c.at p = some e.2
  | [], _, _, h => by simp [locatedFrom] at h
  | c :: cs, i, e, h => by
    simp only [locatedFrom, List.mem_append, List.mem_map] at h
    rcases h with ⟨e', he', rfl⟩ | h
    · exact ⟨0, e'.1, c, rfl, rfl, Node.at_of_mem_located c e' he'⟩
    · obtain ⟨j, p, d, hj, hd, hat⟩ := at_of_mem_locatedFrom cs (i + 1) e h
      refine ⟨j + 1, p, d, ?_, hd, hat⟩
      rw [hj]
      congr 1
      omega
end

/-- What is taken out holds no element of a name that none before it has, where the first such
element is not inside it. -/
theorem Node.none_named_within (hd : n.at path = some m)
    (houtside : ∀ e, n.first (fun k => k.isNamed name) = some e → ¬ path <+: e.1)
    (hnone : ((n.before path).map Prod.snd).find? (fun k => k.isNamed name) = none) :
    ((m.located.map fun e => (path ++ e.1, e.2)).map Prod.snd).find? (fun k => k.isNamed name) =
      none := by
  rw [List.find?_eq_none]
  intro k hk hnamed
  simp only [List.map_map, List.mem_map, Function.comp_def] at hk
  obtain ⟨e, he, rfl⟩ := hk
  have hbefore : ∀ e ∈ n.before path, e.2.isNamed name = false := by
    intro e he
    have hother := List.find?_eq_none.mp hnone e.2 (List.mem_map_of_mem he)
    simpa using hother
  obtain ⟨first, hfirst, hwithin⟩ := (Node.first_within_iff hd).mpr ⟨hbefore, e, he, hnamed⟩
  exact houtside first hfirst hwithin

theorem Node.isNamed_ne (hname : name ≠ gone) (h : d.isNamed gone) : d.isNamed name = false := by
  obtain ⟨tag, htag, heq⟩ := (Option.any_eq_true _ _).mp h
  unfold Node.isNamed
  rw [htag, Option.any_some, of_decide_eq_true heq]
  exact decide_eq_false hname.symm

theorem Node.tag_removeAt (n : Node) (path : Path) : (n.removeAt path).tag = n.tag := by
  cases n <;> rcases path with _ | ⟨i, _ | ⟨j, path⟩⟩ <;> rfl

theorem Node.isNamed_removeAt (n : Node) (path : Path) :
    (n.removeAt path).isNamed name = n.isNamed name := by
  rw [Node.isNamed, Node.tag_removeAt, Node.isNamed]

/-- The children of another name stay, but for the one it is inside of. -/
theorem Node.named_removeAt (hat : n.at path = some d) (hd : d.isNamed gone) (hne : path ≠ [])
    (hname : name ≠ gone) :
    ((n.removeAt path).children.filter fun c => c.isNamed name) =
        n.children.filter (fun c => c.isNamed name) ∨
      ∃ i rest c r, path = i :: rest ∧ rest ≠ [] ∧ n.children[i]? = some c ∧ c.isNamed name ∧
        c.at rest = some d ∧
        n.children.filter (fun c => c.isNamed name) =
          (n.children.take i).filter (fun c => c.isNamed name) ++ c :: r ∧
        ((n.removeAt path).children.filter fun c => c.isNamed name) =
          (n.children.take i).filter (fun c => c.isNamed name) ++ c.removeAt rest :: r := by
  obtain ⟨i, rest, rfl⟩ := List.exists_cons_of_ne_nil hne
  rw [Node.at_cons] at hat
  obtain ⟨c, hc, hat⟩ := Option.bind_eq_some_iff.mp hat
  obtain ⟨hsplit, hlen⟩ := children_split hc
  have hfilter : n.children.filter (fun c => c.isNamed name) =
      (n.children.take i).filter (fun c => c.isNamed name) ++
        (c :: n.children.drop (i + 1)).filter fun c => c.isNamed name := by
    nth_rewrite 1 [hsplit]
    rw [List.filter_append]
  by_cases hrest : rest = []
  · subst hrest
    cases hat
    left
    rw [Node.removeAt_singleton hc, hfilter, List.filter_append,
      List.filter_cons_of_neg (by simp [Node.isNamed_ne hname hd])]
  · rw [Node.removeAt_cons hrest hc, hfilter, List.filter_append]
    by_cases hnamed : c.isNamed name
    · right
      refine ⟨i, rest, c, (n.children.drop (i + 1)).filter fun c => c.isNamed name, rfl, hrest,
        hc, hnamed, hat, ?_, ?_⟩
      · rw [List.filter_cons_of_pos hnamed]
      · rw [List.filter_cons_of_pos (by rw [Node.isNamed_removeAt]; exact hnamed)]
    · left
      rw [List.filter_cons_of_neg hnamed,
        List.filter_cons_of_neg (by rw [Node.isNamed_removeAt]; exact hnamed)]

end Places

section Readings

/-- A reading that finds the same when an element named `gone` is taken out, where `safe` holds of
the path it stands at. -/
def Keeps {α : Type} (gone : String) (read : Node → α) (safe : Node → Path → Prop) : Prop :=
  ∀ n path d, n.at path = some d → d.isNamed gone → path ≠ [] → safe n path →
    read (n.removeAt path) = read n

/-- Not the first child, directly in front of a text. -/
def UncoversNone (n : Node) (path : Path) : Prop :=
  path = [0] → ∀ value, n.children[1]? ≠ some (.text value)

/-- Inside a child of the name it is safe there, up to the first of these that is `found`. -/
def InUntil (name : String) (found : Node → Bool) (safe : Node → Path → Prop) (n : Node)
    (path : Path) : Prop :=
  ∀ i rest c, path = i :: rest → n.children[i]? = some c → c.isNamed name →
    (∀ b ∈ n.children.take i, b.isNamed name → found b = false) → safe c rest

def InFirst (name : String) : (Node → Path → Prop) → Node → Path → Prop :=
  InUntil name fun _ => true

def InEach (name : String) : (Node → Path → Prop) → Node → Path → Prop :=
  InUntil name fun _ => false

/-- The first element of the name is not inside it, and if it is inside that it is safe there. -/
def AtFound (name : String) (safe : Node → Path → Prop) (n : Node) (path : Path) : Prop :=
  ∀ e, n.first (fun k => k.isNamed name) = some e →
    ¬ path <+: e.1 ∧ ∀ rest, path = e.1 ++ rest → safe e.2 rest

/-- The elements of the name that are inside it are read as nothing, and inside one of them it is
safe there. -/
def AtAll {α : Type} (name : String) (read : Node → Option α) (safe : Node → Path → Prop)
    (n : Node) (path : Path) : Prop :=
  ∀ e ∈ n.located, e.2.isNamed name →
    (path <+: e.1 → read e.2 = none) ∧ ∀ rest, rest ≠ [] → path = e.1 ++ rest → safe e.2 rest

variable {α β : Type} {gone name : String} {safe safe' : Node → Path → Prop} {read : Node → α}

theorem Keeps.map (h : Keeps gone read safe) (f : α → β) :
    Keeps gone (fun n => f (read n)) safe := fun n path d hat hd hne hsafe =>
  congrArg f (h n path d hat hd hne hsafe)

theorem Keeps.congr {read' : Node → α} (h : Keeps gone read safe) (heq : ∀ n, read n = read' n) :
    Keeps gone read' safe := by
  intro n path d hat hd hne hsafe
  rw [← heq, ← heq]
  exact h n path d hat hd hne hsafe

theorem text?_of_isSome_tag {n : Node} (h : n.tag.isSome) :
    n.text? = n.children.head?.bind fun c => if c.tag.isSome then none else c.text? := by
  cases n with
  | element tag attributes children =>
    cases children with
    | nil => rfl
    | cons c children => cases c <;> rfl
  | text _ => cases h
  | other => cases h

theorem isSome_tag_of_children {n c : Node} {i : ℕ} (h : n.children[i]? = some c) :
    n.tag.isSome := by
  obtain ⟨tag, attributes, hn⟩ := eq_element_of_children h
  rw [hn]
  rfl

theorem keeps_text (gone : String) : Keeps gone Node.text? UncoversNone := by
  intro n path d hat hd hne hsafe
  obtain ⟨i, rest, rfl⟩ := List.exists_cons_of_ne_nil hne
  rw [Node.at_cons] at hat
  obtain ⟨c, hc, hat⟩ := Option.bind_eq_some_iff.mp hat
  have hn := isSome_tag_of_children hc
  obtain ⟨hsplit, hlen⟩ := children_split hc
  rw [text?_of_isSome_tag hn, text?_of_isSome_tag (by rw [Node.tag_removeAt]; exact hn)]
  have hc' : c.tag.isSome := by
    cases rest with
    | nil =>
      cases hat
      obtain ⟨tag, htag, -⟩ := (Option.any_eq_true _ _).mp hd
      rw [htag]
      rfl
    | cons j rest =>
      rw [Node.at_cons] at hat
      obtain ⟨b, hb, -⟩ := Option.bind_eq_some_iff.mp hat
      exact isSome_tag_of_children hb
  have hchildren : (n.removeAt (i :: rest)).children =
      n.children.take i ++ ((if rest = [] then [] else [c.removeAt rest]) ++
        n.children.drop (i + 1)) := by
    by_cases hrest : rest = []
    · rw [hrest, Node.removeAt_singleton hc, if_pos rfl, List.nil_append]
    · rw [Node.removeAt_cons hrest hc, if_neg hrest, List.singleton_append]
  cases i with
  | succ i =>
    have htake : (n.children.take (i + 1)).head? = n.children.head? := by
      rw [List.head?_take, if_neg (Nat.succ_ne_zero i)]
    obtain ⟨a, ha⟩ : ∃ a, n.children.head? = some a := by
      cases hhead : n.children with
      | nil => rw [hhead] at hc; cases hc
      | cons a l => exact ⟨a, rfl⟩
    rw [hchildren, List.head?_append, htake, ha, Option.some_or]
  | zero =>
    have hhead : n.children.head? = some c := by rw [List.head?_eq_getElem?, hc]
    rw [hchildren, hhead, Option.bind_some, if_pos hc', List.take_zero, List.nil_append]
    by_cases hrest : rest = []
    · rw [if_pos hrest, List.nil_append, List.head?_drop]
      cases hnext : n.children[0 + 1]? with
      | none => rfl
      | some b =>
        cases b with
        | text value => exact absurd hnext (hsafe (by rw [hrest]) value)
        | element _ _ _ => rfl
        | other => rfl
    · rw [if_neg hrest, List.singleton_append, List.head?_cons, Option.bind_some,
        if_pos (by rw [Node.tag_removeAt]; exact hc')]

/-- The children of a name that are consulted are each read the same. -/
theorem Keeps.findSome? {read : Node → Option α} (hname : name ≠ gone)
    (h : Keeps gone read safe) :
    Keeps gone (fun n => (n.children.filter fun c => c.isNamed name).findSome? read)
      (InUntil name (fun c => (read c).isSome) safe) := by
  intro n path d hat hd hne hsafe
  dsimp only
  rcases Node.named_removeAt hat hd hne hname with
    hsame | ⟨i, rest, c, r, rfl, hrest, hc, hnamed, hin, hall, hall'⟩
  · rw [hsame]
  · rw [hall, hall', List.findSome?_append, List.findSome?_append]
    cases hbefore : ((n.children.take i).filter fun c => c.isNamed name).findSome? read with
    | some a => rfl
    | none =>
      have hkeeps := h c rest d hin hd hrest (hsafe i rest c rfl hc hnamed ?_)
      · rw [List.findSome?_cons, List.findSome?_cons, hkeeps]
      · intro b hb hbnamed
        have hnone := List.findSome?_eq_none_iff.mp hbefore b (List.mem_filter.mpr ⟨hb, hbnamed⟩)
        simp [hnone]

theorem Keeps.first (hname : name ≠ gone) (h : Keeps gone read safe) :
    Keeps gone (fun n => (n.children.filter fun c => c.isNamed name).head?.map read)
      (InFirst name safe) := by
  have hfind := (h.map some).findSome? hname
  have hhead : ∀ l : List Node, l.head?.map read = l.findSome? fun c => some (read c) := by
    rintro (_ | ⟨c, l⟩) <;> rfl
  simp only [hhead]
  exact hfind

theorem Keeps.each (hname : name ≠ gone) (h : Keeps gone read safe) :
    Keeps gone (fun n => (n.children.filter fun c => c.isNamed name).map read)
      (InEach name safe) := by
  intro n path d hat hd hne hsafe
  dsimp only
  rcases Node.named_removeAt hat hd hne hname with
    hsame | ⟨i, rest, c, r, rfl, hrest, hc, hnamed, hin, hall, hall'⟩
  · rw [hsame]
  · have hkeeps := h c rest d hin hd hrest (hsafe i rest c rfl hc hnamed fun _ _ _ => rfl)
    rw [hall, hall', List.map_append, List.map_append, List.map_cons, List.map_cons, hkeeps]

/-- What stands at a path that leads on to the element taken out, less that. -/
theorem Keeps.read_pruneAt {read : Node → α} {n d : Node} {path : Path} {e : Path × Node}
    (h : Keeps gone read safe) (hat : n.at path = some d) (hd : d.isNamed gone)
    (he : e ∈ n.located) (hsafe : ∀ rest, rest ≠ [] → path = e.1 ++ rest → safe e.2 rest)
    (hapart : ¬ path <+: e.1) : read (pruneAt path e) = read e.2 := by
  unfold pruneAt
  split
  next hprefix =>
    obtain ⟨rest, rfl⟩ := hprefix
    have hrest : rest ≠ [] := by
      rintro rfl
      exact hapart (by simp)
    rw [List.drop_left]
    refine h e.2 rest d ?_ hd hrest (hsafe rest hrest rfl)
    rw [← Node.at_append (Node.at_of_mem_located n e he), hat]
  next => rfl

theorem isNamed_pruneAt (path : Path) (e : Path × Node) :
    (pruneAt path e).isNamed name = e.2.isNamed name := by
  unfold pruneAt
  split
  · exact Node.isNamed_removeAt _ _
  · rfl

theorem Keeps.found (h : Keeps gone read safe) :
    Keeps gone (fun n => (n.first fun k => k.isNamed name).map fun e => read e.2)
      (AtFound name safe) := by
  intro n path d hat hd hne hsafe
  obtain ⟨post, hlocated, hbefore, _, hremoved⟩ := Node.before_split hat
  have hread : ∀ n : Node, ((n.first fun k => k.isNamed name).map fun e => read e.2) =
      ((n.located.map Prod.snd).find? fun k => k.isNamed name).map read := by
    intro n
    rw [← Node.map_snd_first, Option.map_map]
    rfl
  have hpruned : ∀ l : List (Path × Node),
      ((l.map (pruneAt path)).find? fun k => k.isNamed name) =
        (l.find? fun e => e.2.isNamed name).map (pruneAt path) := by
    intro l
    rw [List.find?_map]
    simp only [Function.comp_def, isNamed_pruneAt]
  simp only [hread]
  rw [hremoved hne, hlocated]
  simp only [List.map_append, List.find?_append, hpruned]
  cases hfirst : (n.before path).find? fun e => e.2.isNamed name with
  | some e =>
    have hmem := List.mem_of_find?_eq_some hfirst
    have hfound : n.first (fun k => k.isNamed name) = some e := by
      unfold Node.first
      rw [hlocated, List.find?_append, List.find?_append, hfirst]
      rfl
    have hkeeps := h.read_pruneAt hat hd
      (by rw [hlocated]; exact List.mem_append_left _ (List.mem_append_left _ hmem))
      (fun rest _ hpath => (hsafe e hfound).2 rest hpath) (hbefore e hmem)
    have hsnd : ((n.before path).map Prod.snd).find? (fun k => k.isNamed name) = some e.2 := by
      rw [List.find?_map]
      simpa [Function.comp_def] using ⟨e.1, hfirst⟩
    rw [hsnd, Option.map_some, Option.some_or, Option.some_or, Option.some_or, Option.map_some,
      Option.map_some, hkeeps]
  | none =>
    have hnone : ((n.before path).map Prod.snd).find? (fun k => k.isNamed name) = none := by
      rw [List.find?_map]
      simpa [Function.comp_def] using hfirst
    have hinside := Node.none_named_within hat (fun e he => (hsafe e he).1) hnone
    rw [List.map_map] at hinside ⊢
    rw [hnone, hinside]
    rfl

theorem Keeps.all {read : Node → Option α} (h : Keeps gone read safe) :
    Keeps gone (fun n => (n.located.filter fun e => e.2.isNamed name).filterMap fun e => read e.2)
      (AtAll name read safe) := by
  intro n path d hat hd hne hsafe
  obtain ⟨post, hlocated, hbefore, hpost, hremoved⟩ := Node.before_split hat
  have hread : ∀ l : List (Path × Node), (l.filter fun e => e.2.isNamed name).filterMap
      (fun e => read e.2) = ((l.map Prod.snd).filter fun k => k.isNamed name).filterMap read := by
    intro l
    rw [List.filter_map, List.filterMap_map]
    rfl
  have hinside : (((d.located.map fun e => (path ++ e.1, e.2)).filter fun e =>
      e.2.isNamed name).filterMap fun e => read e.2) = [] := by
    refine List.filterMap_eq_nil_iff.mpr fun e he => ?_
    obtain ⟨hmem, hnamed⟩ := List.mem_filter.mp he
    have hwithin : path <+: e.1 := by
      obtain ⟨e', -, rfl⟩ := List.mem_map.mp hmem
      exact List.prefix_append path e'.1
    refine (hsafe e ?_ hnamed).1 hwithin
    rw [hlocated]
    exact List.mem_append_left _ (List.mem_append_right _ hmem)
  have hpruned : (((n.before path).map (pruneAt path)).filter fun k => k.isNamed name).filterMap
      read = ((n.before path).filter fun e => e.2.isNamed name).filterMap fun e => read e.2 := by
    rw [List.filter_map, List.filterMap_map]
    simp only [Function.comp_def, isNamed_pruneAt]
    refine List.filterMap_congr fun e he => ?_
    obtain ⟨hmem, hnamed⟩ := List.mem_filter.mp he
    have hlocated' : e ∈ n.located := by
      rw [hlocated]
      exact List.mem_append_left _ (List.mem_append_left _ hmem)
    exact h.read_pruneAt hat hd hlocated' (hsafe e hlocated' hnamed).2 (hbefore e hmem)
  simp only [hread]
  rw [hremoved hne, List.filter_append, List.filterMap_append, hpruned, ← hread n.located, hlocated,
    List.filter_append, List.filter_append, List.filterMap_append, List.filterMap_append, hinside,
    List.append_nil, ← hread post]

end Readings

end XmlTrees
