import Mathlib.Data.List.Shortlex
import Mathlib.Data.Prod.Lex
import Mathlib.Order.Lex
import Mathlib.Data.List.Lex
import Mathlib.Data.List.Induction

/-! First-in-first-out traversal of a graph of references that visits each key once.

A path records, for each reference it follows, the position at which that reference
is listed. The visit of a key then happens on the first path to it: the shortest
one, and among those the earliest listed. `Frontier` is the invariant of the queue;
its rules are the three ways the head may leave it. -/
namespace BreadthFirst

/-- References listed at the start and, for each key, by what the key names. -/
structure RefGraph (ρ κ : Type*) where
  key : ρ → κ
  roots : List ρ
  kids : κ → List ρ

abbrev Path (ρ : Type*) := List (ℕ × ρ)

section Order

variable {ρ : Type*} {p q r : Path ρ} {x y : ℕ × ρ}

def rank (p : Path ρ) : ℕ ×ₗ List ℕ := toLex (p.length, p.map Prod.fst)

def Before (p q : Path ρ) : Prop := rank p < rank q

theorem before_iff : Before p q ↔
    p.length < q.length ∨ p.length = q.length ∧ p.map Prod.fst < q.map Prod.fst :=
  Prod.Lex.toLex_lt_toLex

theorem Before.trans (h : Before p q) (h' : Before q r) : Before p r := lt_trans h h'

theorem Before.asymm (h : Before p q) : ¬Before q p := lt_asymm h

theorem before_append (hne : r ≠ []) : Before p (p ++ r) := by
  have hpos := List.length_pos_iff.mpr hne
  exact before_iff.mpr (.inl (by simp only [List.length_append]; omega))

theorem append_lt_append {a b c d : List ℕ} (hlen : a.length = b.length) (h : a < b) :
    a ++ c < b ++ d := by
  induction a generalizing b with
  | nil =>
    cases List.eq_nil_of_length_eq_zero hlen.symm
    exact absurd h (lt_irrefl _)
  | cons i a ih =>
    cases b with
    | nil => simp at hlen
    | cons j b =>
      rw [List.cons_append, List.cons_append, List.cons_lt_cons_iff]
      rcases List.cons_lt_cons_iff.mp h with hij | ⟨rfl, hab⟩
      · exact .inl hij
      · exact .inr ⟨rfl, ih (by simpa using hlen) hab⟩

theorem Before.concat (h : Before p q) : Before (p ++ [x]) (q ++ [y]) := by
  apply before_iff.mpr
  rcases before_iff.mp h with hlen | ⟨hlen, hlex⟩
  · left
    simpa using hlen
  · right
    refine ⟨by simpa using hlen, ?_⟩
    rw [List.map_append, List.map_append]
    exact append_lt_append (by simpa using hlen) hlex

theorem before_siblings (h : x.1 < y.1) : Before (p ++ [x]) (p ++ [y]) := by
  have hlast : [x.1] < [y.1] := List.cons_lt_cons_iff.mpr (.inl h)
  refine before_iff.mpr (.inr ⟨by simp, ?_⟩)
  simpa using List.append_left_lt hlast

theorem before_wf : WellFounded (Before : Path ρ → Path ρ → Prop) := by
  refine Subrelation.wf ?_ (InvImage.wf (List.map Prod.fst) (List.Shortlex.wf wellFounded_lt))
  intro p q h
  apply List.shortlex_def.mpr
  simpa [List.lt_iff_lex_lt] using before_iff.mp h

end Order

namespace RefGraph

variable {ρ κ : Type*} (g : RefGraph ρ κ)

def target (p : Path ρ) : Option κ := p.getLast?.map fun x => g.key x.2

/-- The references listed where a path ends. -/
def options (p : Path ρ) : List ρ := ((g.target p).map g.kids).getD g.roots

inductive Route : Path ρ → Prop where
  | nil : Route []
  | snoc {p x} : Route p → (g.options p)[x.1]? = some x.2 → Route (p ++ [x])

structure First (p : Path ρ) : Prop where
  route : g.Route p
  ne_nil : p ≠ []
  least : ∀ q, g.Route q → g.target q = g.target p → ¬Before q p

structure Listed (p : Path ρ) (x : ℕ × ρ) : Prop where
  source : p = [] ∨ g.First p
  entry : (g.options p)[x.1]? = some x.2

variable {g} {p q : Path ρ} {x : ℕ × ρ}

@[simp] theorem target_nil : g.target [] = none := rfl

@[simp] theorem target_concat : g.target (p ++ [x]) = some (g.key x.2) := by simp [target]

@[simp] theorem options_concat : g.options (p ++ [x]) = g.kids (g.key x.2) := by simp [options]

theorem options_congr (h : g.target p = g.target q) : g.options p = g.options q := by
  simp [options, h]

theorem route_concat : g.Route (p ++ [x]) ↔ g.Route p ∧ (g.options p)[x.1]? = some x.2 := by
  constructor
  · intro h
    generalize heq : p ++ [x] = q at h
    cases h with
    | nil => simp at heq
    | snoc hr hx =>
      obtain ⟨rfl, h1⟩ := List.append_inj' heq rfl
      cases h1
      exact ⟨hr, hx⟩
  · rintro ⟨hr, hx⟩
    exact hr.snoc hx

theorem Listed.route (h : g.Listed p x) : g.Route (p ++ [x]) := by
  rcases h.source with rfl | hp
  · exact Route.nil.snoc h.entry
  · exact hp.route.snoc h.entry

/-- A path is determined by the positions it follows. -/
theorem Route.eq_of_positions (hp : g.Route p) (hq : g.Route q)
    (h : p.map Prod.fst = q.map Prod.fst) : p = q := by
  induction hp generalizing q with
  | nil => exact (List.map_eq_nil_iff.mp h.symm).symm
  | @snoc p x hr hx ih =>
    rcases List.eq_nil_or_concat' q with rfl | ⟨q, y, rfl⟩
    · simp at h
    · obtain ⟨hq, hy⟩ := route_concat.mp hq
      rw [List.map_append, List.map_append] at h
      obtain ⟨hpos, hlast⟩ := List.append_inj' h rfl
      cases ih hq hpos
      have hfst : x.1 = y.1 := by simpa using hlast
      rw [hfst] at hx
      have hsnd : x.2 = y.2 := Option.some.inj (hx.symm.trans hy)
      rw [Prod.ext hfst hsnd]

theorem First.eq (hp : g.First p) (hq : g.First q) (h : g.target p = g.target q) : p = q := by
  have hrank : rank p = rank q :=
    le_antisymm (not_lt.mp (hp.least q hq.route h.symm)) (not_lt.mp (hq.least p hp.route h))
  have hpositions := congrArg (fun r => (ofLex r).2) hrank
  exact hp.route.eq_of_positions hq.route hpositions

theorem First.parent (h : g.First (p ++ [x])) : p = [] ∨ g.First p := by
  obtain ⟨hr, hx⟩ := route_concat.mp h.route
  by_cases hp : p = []
  · exact .inl hp
  right
  refine ⟨hr, hp, ?_⟩
  intro q hq htarget hbefore
  -- an earlier path to where `p` ends could be extended by `x` as well
  have hq' : g.Route (q ++ [x]) := hq.snoc (by rwa [options_congr htarget])
  exact h.least (q ++ [x]) hq' (by simp) hbefore.concat

theorem First.listed (h : g.First (p ++ [x])) : g.Listed p x :=
  ⟨h.parent, (route_concat.mp h.route).2⟩

theorem exists_first (hr : g.Route p) (hne : p ≠ []) :
    ∃ q, g.First q ∧ g.target q = g.target p ∧ ¬Before p q := by
  let same : Set (Path ρ) := {q | g.Route q ∧ g.target q = g.target p}
  have hsame : same.Nonempty := ⟨p, hr, rfl⟩
  obtain ⟨hroute, htarget⟩ := before_wf.min_mem same hsame
  refine ⟨before_wf.min same hsame, ⟨hroute, ?_, ?_⟩, htarget, ?_⟩
  · intro hnil
    rw [hnil] at htarget
    rcases List.eq_nil_or_concat' p with rfl | ⟨p, x, rfl⟩
    · exact hne rfl
    · simp at htarget
  · intro q hq hqt
    exact before_wf.not_lt_min same ⟨hq, hqt.trans htarget⟩
  · exact before_wf.not_lt_min same ⟨hr, rfl⟩

end RefGraph

/-- A queued reference: the path to what lists it, and its position there. -/
structure Pending (ρ : Type*) where
  source : Path ρ
  item : ℕ × ρ

def Pending.path {ρ : Type*} (e : Pending ρ) : Path ρ := e.source ++ [e.item]

def entries {ρ : Type*} (p : Path ρ) (refs : List ρ) : List (Pending ρ) :=
  refs.zipIdx.map fun x => ⟨p, (x.2, x.1)⟩

section Entries

variable {ρ : Type*} {p : Path ρ} {refs : List ρ} {e : Pending ρ}

theorem mem_entries : e ∈ entries p refs ↔ e.source = p ∧ refs[e.item.1]? = some e.item.2 := by
  simp only [entries, List.mem_map]
  constructor
  · rintro ⟨⟨r, i⟩, hx, rfl⟩
    exact ⟨rfl, List.mk_mem_zipIdx_iff_getElem?.mp hx⟩
  · rintro ⟨rfl, hx⟩
    exact ⟨(e.item.2, e.item.1), List.mk_mem_zipIdx_iff_getElem?.mpr hx, rfl⟩

theorem path_of_mem_entries (h : e ∈ entries p refs) : e.path = p ++ [e.item] := by
  rw [Pending.path, (mem_entries.mp h).1]

theorem entries_sorted : (entries p refs).Pairwise fun a b => Before a.path b.path := by
  refine List.pairwise_map.mpr ?_
  have hpositions : refs.zipIdx.Pairwise fun a b => a.2 < b.2 := by
    refine List.pairwise_map.mp ?_
    rw [List.zipIdx_map_snd]
    exact List.pairwise_lt_range'
  exact hpositions.imp fun h => before_siblings h

end Entries

/-- The queue between two visits. Every reference listed by what has been visited is
either queued or has met `H`; every visited path has met `V`; and the queue is in
path order, no older than the paths its references come from. -/
structure Frontier {ρ κ : Type*} (g : RefGraph ρ κ) (H : Path ρ → ℕ × ρ → Prop)
    (V : Path ρ → Prop) (pending : List (Pending ρ)) (seen : List κ) : Prop where
  listed : ∀ e ∈ pending, g.Listed e.source e.item
  sorted : pending.Pairwise fun a b => Before a.path b.path
  recent : ∀ a ∈ pending, ∀ b ∈ pending, Before a.source b.path
  reached : ∀ u ∈ seen, ∃ p, g.First p ∧ g.target p = some u
  visited : ∀ p, g.First p → ∀ u ∈ seen, g.target p = some u → V p
  handled : ∀ p x, g.Listed p x → (p = [] ∨ ∃ u ∈ seen, g.target p = some u) →
    ⟨p, x⟩ ∈ pending ∨ g.key x.2 ∈ seen ∧ H p x

namespace Frontier

variable {ρ κ : Type*} {g : RefGraph ρ κ} {H : Path ρ → ℕ × ρ → Prop} {V : Path ρ → Prop}
  {pending rest : List (Pending ρ)} {seen : List κ} {e : Pending ρ} {p : Path ρ}

theorem start : Frontier g H V (entries [] g.roots) [] where
  listed e he := by
    obtain ⟨hsource, hentry⟩ := mem_entries.mp he
    exact ⟨.inl hsource, by rw [hsource]; exact hentry⟩
  sorted := entries_sorted
  recent a ha b _ := by
    rw [(mem_entries.mp ha).1]
    exact before_append (p := []) (by simp)
  reached _ hu := nomatch hu
  visited _ _ _ hu := nomatch hu
  handled p x hx hp := by
    rcases hp with rfl | ⟨_, hu, _⟩
    · exact .inl (mem_entries.mpr ⟨rfl, hx.entry⟩)
    · exact nomatch hu

/-- Along a first path either its end is visited already or some prefix is queued. -/
theorem reaches (h : Frontier g H V pending seen) (hp : g.First p) :
    (∃ u ∈ seen, g.target p = some u) ∨ ∃ e ∈ pending, e.path <+: p := by
  induction p using List.reverseRecOn with
  | nil => exact absurd rfl hp.ne_nil
  | append_singleton p x ih =>
    have hstep : (p = [] ∨ ∃ u ∈ seen, g.target p = some u) →
        (∃ u ∈ seen, g.target (p ++ [x]) = some u) ∨ ∃ e ∈ pending, e.path <+: p ++ [x] := by
      intro hsource
      rcases h.handled p x hp.listed hsource with hpending | ⟨hseen, -⟩
      · exact .inr ⟨⟨p, x⟩, hpending, List.prefix_rfl⟩
      · exact .inl ⟨g.key x.2, hseen, RefGraph.target_concat⟩
    rcases hp.parent with hnil | hfirst
    · exact hstep (.inl hnil)
    · rcases ih hfirst with hseen | ⟨e, he, hprefix⟩
      · exact hstep (.inr hseen)
      · exact .inr ⟨e, he, hprefix.trans (List.prefix_append p [x])⟩

/-- The head of the queue, when its key is not visited yet, is on the first path to it. -/
theorem head_first (h : Frontier g H V (e :: rest) seen) (hnew : g.key e.item.2 ∉ seen) :
    g.First e.path := by
  have hlisted := h.listed e List.mem_cons_self
  obtain ⟨q, hq, htarget, hle⟩ := RefGraph.exists_first hlisted.route (by simp)
  have hleast : ∀ d ∈ e :: rest, ¬Before d.path e.path := by
    intro d hd
    rcases List.mem_cons.mp hd with rfl | hd
    · exact lt_irrefl _
    · exact (List.rel_of_pairwise_cons h.sorted hd).asymm
  rcases h.reaches hq with ⟨u, hu, hqu⟩ | ⟨d, hd, s, rfl⟩
  · rw [htarget, RefGraph.target_concat] at hqu
    cases hqu
    exact absurd hu hnew
  · -- the queued prefix of the first path is not before the head, and the path not after it
    by_cases hs : s = []
    · subst hs
      rw [List.append_nil] at hq htarget hle
      refine ⟨hlisted.route, by simp [Pending.path], ?_⟩
      intro r hr hrt hbefore
      have hrd := hq.least r hr (by rw [hrt, htarget]; rfl)
      exact hrd (lt_of_lt_of_le hbefore (not_lt.mp (hleast d hd)))
    · have hgt : Before d.path (d.path ++ s) := before_append hs
      exact absurd (lt_of_lt_of_le hgt (not_lt.mp hle)) (hleast d hd)

theorem skip (h : Frontier g H V (e :: rest) seen) (hseen : g.key e.item.2 ∈ seen)
    (hhead : H e.source e.item) : Frontier g H V rest seen where
  listed d hd := h.listed d (List.mem_cons_of_mem _ hd)
  sorted := h.sorted.of_cons
  recent a ha b hb := h.recent a (List.mem_cons_of_mem _ ha) b (List.mem_cons_of_mem _ hb)
  reached := h.reached
  visited := h.visited
  handled p x hx hp := by
    rcases h.handled p x hx hp with hmem | hdone
    · rcases List.mem_cons.mp hmem with rfl | hmem
      · exact .inr ⟨hseen, hhead⟩
      · exact .inl hmem
    · exact .inr hdone

theorem expand (h : Frontier g H V (e :: rest) seen) (hnew : g.key e.item.2 ∉ seen)
    (hhead : H e.source e.item) (hvisit : V e.path) :
    Frontier g H V (rest ++ entries e.path (g.kids (g.key e.item.2)))
      (g.key e.item.2 :: seen) := by
  have hfirst := h.head_first hnew
  have hend : g.target e.path = some (g.key e.item.2) := RefGraph.target_concat
  have hoptions : g.options e.path = g.kids (g.key e.item.2) := RefGraph.options_concat
  have hself : ∀ p, g.First p → g.target p = some (g.key e.item.2) → p = e.path :=
    fun p hp htarget => hp.eq hfirst (htarget.trans hend.symm)
  constructor
  case listed =>
    intro d hd
    rcases List.mem_append.mp hd with hd | hd
    · exact h.listed d (List.mem_cons_of_mem _ hd)
    · obtain ⟨hsource, hentry⟩ := mem_entries.mp hd
      rw [← hoptions] at hentry
      exact ⟨.inr (hsource ▸ hfirst), hsource ▸ hentry⟩
  case sorted =>
    refine List.pairwise_append.mpr ⟨h.sorted.of_cons, entries_sorted, ?_⟩
    intro a ha b hb
    have hsource : Before a.source e.path :=
      h.recent a (List.mem_cons_of_mem _ ha) e List.mem_cons_self
    rw [path_of_mem_entries hb]
    exact hsource.concat
  case recent =>
    intro a ha b hb
    have hchild : ∀ d ∈ entries e.path (g.kids (g.key e.item.2)), Before e.path d.path := by
      intro d hd
      rw [path_of_mem_entries hd]
      exact before_append (by simp)
    rcases List.mem_append.mp ha with ha | ha <;> rcases List.mem_append.mp hb with hb | hb
    · exact h.recent a (List.mem_cons_of_mem _ ha) b (List.mem_cons_of_mem _ hb)
    · exact (h.recent a (List.mem_cons_of_mem _ ha) e List.mem_cons_self).trans (hchild b hb)
    · rw [(mem_entries.mp ha).1]
      exact List.rel_of_pairwise_cons h.sorted hb
    · rw [(mem_entries.mp ha).1]
      exact hchild b hb
  case reached =>
    intro u hu
    rcases List.mem_cons.mp hu with rfl | hu
    · exact ⟨e.path, hfirst, hend⟩
    · exact h.reached u hu
  case visited =>
    intro p hp u hu htarget
    rcases List.mem_cons.mp hu with rfl | hu
    · exact hself p hp htarget ▸ hvisit
    · exact h.visited p hp u hu htarget
  case handled =>
    intro p x hx hp
    have hold : (p = [] ∨ ∃ u ∈ seen, g.target p = some u) →
        ⟨p, x⟩ ∈ rest ++ entries e.path (g.kids (g.key e.item.2)) ∨
          g.key x.2 ∈ g.key e.item.2 :: seen ∧ H p x := by
      intro hp
      rcases h.handled p x hx hp with hmem | ⟨hseen, hdone⟩
      · rcases List.mem_cons.mp hmem with rfl | hmem
        · exact .inr ⟨List.mem_cons_self, hhead⟩
        · exact .inl (List.mem_append_left _ hmem)
      · exact .inr ⟨List.mem_cons_of_mem _ hseen, hdone⟩
    rcases hp with hnil | ⟨u, hu, htarget⟩
    · exact hold (.inl hnil)
    · rcases List.mem_cons.mp hu with rfl | hu
      · rcases hx.source with hnil | hfirstp
        · exact hold (.inl hnil)
        · have hentry := hx.entry
          rw [hself p hfirstp htarget, hoptions] at hentry
          refine .inl (List.mem_append_right _ (mem_entries.mpr ⟨?_, hentry⟩))
          exact hself p hfirstp htarget
      · exact hold (.inr ⟨u, hu, htarget⟩)

/-- With nothing queued, everything listed has been handled and every first path visited. -/
theorem complete (h : Frontier g H V [] seen) :
    (∀ p x, g.Listed p x → g.key x.2 ∈ seen ∧ H p x) ∧
      ∀ p, g.First p → V p ∧ ∃ u ∈ seen, g.target p = some u := by
  have hreached : ∀ p, g.First p → ∃ u ∈ seen, g.target p = some u := by
    intro p hp
    rcases h.reaches hp with hseen | ⟨_, hd, _⟩
    · exact hseen
    · exact nomatch hd
  constructor
  · intro p x hx
    rcases h.handled p x hx (hx.source.imp_right (hreached p)) with hmem | hdone
    · exact nomatch hmem
    · exact hdone
  · intro p hp
    obtain ⟨u, hu, htarget⟩ := hreached p hp
    exact ⟨h.visited p hp u hu htarget, u, hu, htarget⟩

end Frontier

end BreadthFirst
