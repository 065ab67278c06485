import DppEngine.TransitionSystems
import Mathlib.Data.List.Nodup
import Mathlib.Data.List.Perm.Subperm
import Mathlib.Logic.Relation

/-! A bounded search with a stack, a set of nodes seen and the edges gathered so far.

A node is expanded the first time it is popped; one that has no entry in the graph is a
leaf. The search gives up when it has seen more nodes than its bound. -/
namespace StackSearch

open TransitionSystems Relation

variable {α : Type*}

abbrev Graph (α : Type*) := α → Option (List α)

def Edge (graph : Graph α) (a b : α) : Prop := ∃ children, graph a = some children ∧ b ∈ children

def Reach (graph : Graph α) : α → α → Prop := ReflTransGen (Edge graph)

def Reached (graph : Graph α) (seeds : List α) (a : α) : Prop := ∃ seed ∈ seeds, Reach graph seed a

section Graphs

variable {graph other : Graph α} {seeds : List α} {a b : α}

theorem Reached.seed (h : a ∈ seeds) : Reached graph seeds a := ⟨a, h, .refl⟩

theorem Reached.edge (h : Reached graph seeds a) (hab : Edge graph a b) :
    Reached graph seeds b := by
  obtain ⟨seed, hseed, hreach⟩ := h
  exact ⟨seed, hseed, hreach.tail hab⟩

theorem Reached.reach (h : Reached graph seeds a) (hab : Reach graph a b) :
    Reached graph seeds b := by
  induction hab with
  | refl => exact h
  | tail _ hedge ih => exact ih.edge hedge

/-- Graphs that have the same entries wherever one of them can lead have the same paths
there. -/
theorem reach_congr (hagree : ∀ x, Reached graph seeds x → other x = graph x)
    (ha : Reached graph seeds a) : Reach other a b ↔ Reach graph a b := by
  constructor
  · intro h
    induction h with
    | refl => exact .refl
    | tail _ hedge ih =>
      obtain ⟨children, hchildren, hmem⟩ := hedge
      exact ih.tail ⟨children, (hagree _ (ha.reach ih)).symm.trans hchildren, hmem⟩
  · intro h
    induction h with
    | refl => exact .refl
    | tail hpath hedge ih =>
      obtain ⟨children, hchildren, hmem⟩ := hedge
      exact ih.tail ⟨children, (hagree _ (ha.reach hpath)).trans hchildren, hmem⟩

end Graphs

section Replacing

variable [DecidableEq α] {graph : Graph α} {a b c p : α} {entry : Option (List α)}

def Acyclic (graph : Graph α) : Prop := ∀ a, ¬TransGen (Edge graph) a a

theorem edge_update_of_ne (ha : a ≠ p) :
    Edge (Function.update graph p entry) a b ↔ Edge graph a b := by
  simp only [Edge, Function.update_of_ne ha]

/-- Up to a node, its own entry makes no difference. -/
theorem reach_update_iff : Reach (Function.update graph p entry) a p ↔ Reach graph a p := by
  constructor
  · intro h
    induction h using ReflTransGen.head_induction_on with
    | refl => exact .refl
    | @head a b hedge _ ih =>
      by_cases ha : a = p
      · rw [ha]
        exact .refl
      · exact ih.head ((edge_update_of_ne ha).mp hedge)
  · intro h
    induction h using ReflTransGen.head_induction_on with
    | refl => exact .refl
    | @head a b hedge _ ih =>
      by_cases ha : a = p
      · rw [ha]
        exact .refl
      · exact ih.head ((edge_update_of_ne ha).mpr hedge)

/-- A node is on a cycle exactly when one of its children leads back to it. -/
theorem cycle_update_iff {children : List α} :
    TransGen (Edge (Function.update graph p (some children))) p p ↔
      ∃ child ∈ children, Reach graph child p := by
  rw [TransGen.head'_iff]
  constructor
  · rintro ⟨child, ⟨entries, hentries, hmem⟩, hback⟩
    rw [Function.update_self, Option.some.injEq] at hentries
    exact ⟨child, hentries ▸ hmem, reach_update_iff.mp hback⟩
  · rintro ⟨child, hmem, hback⟩
    exact ⟨child, ⟨children, Function.update_self .., hmem⟩, reach_update_iff.mpr hback⟩

/-- A path that an entry is replaced on goes through its node. -/
theorem transGen_update (h : TransGen (Edge (Function.update graph p entry)) a b) :
    TransGen (Edge graph) a b ∨
      Reach (Function.update graph p entry) a p ∧
        TransGen (Edge (Function.update graph p entry)) p b := by
  induction h with
  | @single b hedge =>
    by_cases ha : a = p
    · subst ha
      exact .inr ⟨.refl, .single hedge⟩
    · exact .inl (.single ((edge_update_of_ne ha).mp hedge))
  | @tail b c hpath hedge ih =>
    rcases ih with ih | ⟨hto, hfrom⟩
    · by_cases hb : b = p
      · subst hb
        exact .inr ⟨hpath.to_reflTransGen, .single hedge⟩
      · exact .inl (ih.tail ((edge_update_of_ne hb).mp hedge))
    · exact .inr ⟨hto, hfrom.tail hedge⟩

/-- Replacing an entry of an acyclic graph closes a cycle exactly when a new child leads
back to its node. -/
theorem acyclic_update_iff {children : List α} (hacyclic : Acyclic graph) :
    Acyclic (Function.update graph p (some children)) ↔
      ∀ child ∈ children, ¬Reach graph child p := by
  constructor
  · intro h child hmem hback
    exact h p (cycle_update_iff.mpr ⟨child, hmem, hback⟩)
  · intro hfree a hcycle
    rcases transGen_update hcycle with hold | ⟨hto, hfrom⟩
    · exact hacyclic a hold
    · obtain ⟨child, hmem, hback⟩ := cycle_update_iff.mp (TransGen.trans_left hfrom hto)
      exact hfree child hmem hback

end Replacing

section Search

variable [DecidableEq α]

structure Search (α : Type*) where
  stack : List α
  seen : List α
  edges : Graph α

variable (graph : Graph α) (bound : ℕ)

/-- One turn of the loop: `none` once the stack is empty or the bound is passed. -/
def step (s : Search α) : Option (Search α) :=
  if bound < s.seen.length then none
  else
    match s.stack with
    | [] => none
    | a :: stack =>
      if a ∈ s.seen then some { s with stack }
      else if bound < s.seen.length + 1 then some { s with stack, seen := a :: s.seen }
      else
        match graph a with
        | none => some { s with stack, seen := a :: s.seen }
        | some children => some {
            stack := children.reverse ++ stack
            seen := a :: s.seen
            edges := Function.update s.edges a (some children) }

/-- What a turn does: drop a node seen before, pass the bound, or expand a node. -/
theorem step_cases {s t : Search α} (h : step graph bound s = some t) :
    ∃ a stack, s.stack = a :: stack ∧ s.seen.length ≤ bound ∧
      (a ∈ s.seen ∧ t = { s with stack } ∨
        a ∉ s.seen ∧ bound < s.seen.length + 1 ∧ t = { s with stack, seen := a :: s.seen } ∨
        a ∉ s.seen ∧ s.seen.length + 1 ≤ bound ∧ t.seen = a :: s.seen ∧
          t.stack = ((graph a).getD []).reverse ++ stack ∧
          t.edges = (match graph a with
            | none => s.edges
            | some children => Function.update s.edges a (some children))) := by
  simp only [step] at h
  by_cases hover : bound < s.seen.length
  · simp [hover] at h
  cases hstack : s.stack with
  | nil => simp [hover, hstack] at h
  | cons a stack =>
    refine ⟨a, stack, rfl, by omega, ?_⟩
    by_cases hseen : a ∈ s.seen
    · simp only [hover, hstack, hseen, if_true, if_false, Option.some.injEq] at h
      exact .inl ⟨hseen, h.symm⟩
    right
    by_cases hlast : bound < s.seen.length + 1
    · simp only [hover, hstack, hseen, hlast, if_true, if_false, Option.some.injEq] at h
      exact .inl ⟨hseen, hlast, h.symm⟩
    right
    simp only [hover, hstack, hseen, hlast, if_false] at h
    cases hgraph : graph a with
    | none =>
      simp only [hgraph, Option.some.injEq] at h
      subst h
      exact ⟨hseen, by omega, rfl, rfl, rfl⟩
    | some children =>
      simp only [hgraph, Option.some.injEq] at h
      subst h
      exact ⟨hseen, by omega, rfl, rfl, rfl⟩

def size (s : Search α) : ℕ × ℕ := (bound + 1 - s.seen.length, s.stack.length)

theorem step_shrinks (s t : Search α) (h : step graph bound s = some t) :
    WellFoundedRelation.rel (size bound t) (size bound s) := by
  obtain ⟨a, stack, hstack, hbound, hturn⟩ := step_cases graph bound h
  rcases hturn with ⟨-, rfl⟩ | ⟨-, -, rfl⟩ | ⟨-, -, hseen, -, -⟩
  · simp only [size, hstack, List.length_cons]
    exact Prod.Lex.right _ (Nat.lt_succ_self _)
  · apply Prod.Lex.left
    show bound + 1 - (s.seen.length + 1) < bound + 1 - s.seen.length
    omega
  · apply Prod.Lex.left
    show bound + 1 - t.seen.length < bound + 1 - s.seen.length
    rw [hseen, List.length_cons]
    omega

def start (seeds : List α) : Search α := ⟨seeds.reverse, [], fun _ => none⟩

def finished (seeds : List α) : Search α :=
  exhaust (step graph bound) (size bound) (step_shrinks graph bound) (start seeds)

/-- The edges of every node looked up, unless there are more nodes than the bound. -/
def search (seeds : List α) : Option (Graph α) :=
  let last := finished graph bound seeds
  if bound < last.seen.length then none else some last.edges

end Search

section Correctness

variable [DecidableEq α] {graph : Graph α} {bound : ℕ} {seeds : List α} {s t : Search α}

/-- What the loop keeps: it only meets nodes it can reach, and as long as it is within its
bound every reached node is seen or still to come. -/
structure Valid (graph : Graph α) (bound : ℕ) (seeds : List α) (s : Search α) : Prop where
  nodup : s.seen.Nodup
  seen : ∀ a ∈ s.seen, Reached graph seeds a
  stack : ∀ a ∈ s.stack, Reached graph seeds a
  seeds : s.seen.length ≤ bound → ∀ a ∈ seeds, a ∈ s.stack ∨ a ∈ s.seen
  closed : s.seen.length ≤ bound → ∀ a ∈ s.seen, ∀ b, Edge graph a b → b ∈ s.stack ∨ b ∈ s.seen
  edges : s.seen.length ≤ bound → ∀ a, s.edges a = if a ∈ s.seen then graph a else none

theorem start_valid : Valid graph bound seeds (start seeds) where
  nodup := List.nodup_nil
  seen := by simp [start]
  stack a ha := .seed (by simpa [start] using ha)
  seeds _ a ha := .inl (by simpa [start] using ha)
  closed := by simp [start]
  edges := by simp [start]

theorem Valid.step (h : Valid graph bound seeds s) (hstep : step graph bound s = some t) :
    Valid graph bound seeds t := by
  obtain ⟨a, stack, hstack, hbound, hturn⟩ := step_cases graph bound hstep
  have ha : Reached graph seeds a := h.stack a (by simp [hstack])
  have hrest : ∀ b ∈ stack, Reached graph seeds b :=
    fun b hb => h.stack b (by simp [hstack, hb])
  have hreached : ∀ b ∈ a :: s.seen, Reached graph seeds b := by
    intro b hb
    rcases List.mem_cons.mp hb with rfl | hb
    · exact ha
    · exact h.seen b hb
  rcases hturn with ⟨hseen, rfl⟩ | ⟨hseen, hover, rfl⟩ | ⟨hseen, hwithin, hts, htk, hte⟩
  · -- the node was seen before, so dropping it loses nothing
    have hkeep : ∀ b, b ∈ s.stack ∨ b ∈ s.seen → b ∈ stack ∨ b ∈ s.seen := by
      intro b hb
      rw [hstack, List.mem_cons] at hb
      rcases hb with (rfl | hb) | hb
      · exact .inr hseen
      · exact .inl hb
      · exact .inr hb
    exact {
      nodup := h.nodup
      seen := h.seen
      stack := hrest
      seeds := fun hle b hb => hkeep b (h.seeds hle b hb)
      closed := fun hle b hb c hbc => hkeep c (h.closed hle b hb c hbc)
      edges := h.edges }
  · have hno : ¬(a :: s.seen).length ≤ bound := by
      rw [List.length_cons]
      omega
    exact ⟨List.nodup_cons.mpr ⟨hseen, h.nodup⟩, hreached, hrest, fun hle => absurd hle hno,
      fun hle => absurd hle hno, fun hle => absurd hle hno⟩
  · have hkeep : ∀ b, b ∈ s.stack ∨ b ∈ s.seen → b ∈ t.stack ∨ b ∈ t.seen := by
      intro b hb
      rw [hstack, List.mem_cons] at hb
      rw [hts, htk, List.mem_append, List.mem_cons]
      tauto
    have hchild : ∀ b, Edge graph a b ↔ b ∈ (graph a).getD [] := by
      intro b
      cases hgraph : graph a with
      | none => simp [Edge, hgraph]
      | some children => simp [Edge, hgraph]
    refine ⟨?_, ?_, ?_, fun _ b hb => hkeep b (h.seeds hbound b hb), ?_, ?_⟩
    · rw [hts]
      exact List.nodup_cons.mpr ⟨hseen, h.nodup⟩
    · rw [hts]
      exact hreached
    · intro b hb
      rw [htk, List.mem_append, List.mem_reverse] at hb
      rcases hb with hb | hb
      · exact ha.edge ((hchild b).mpr hb)
      · exact hrest b hb
    · intro _ b hb c hbc
      rw [hts] at hb
      rcases List.mem_cons.mp hb with rfl | hb
      · left
        rw [htk, List.mem_append, List.mem_reverse]
        exact .inl ((hchild c).mp hbc)
      · exact hkeep c (h.closed hbound b hb c hbc)
    · intro _ b
      have hold := h.edges hbound
      rw [hte, hts]
      by_cases hb : b = a
      · subst hb
        cases hgraph : graph b with
        | none => simp [hold, hseen]
        | some children => simp
      · have hmem : b ∈ a :: s.seen ↔ b ∈ s.seen := by simp [hb]
        cases hgraph : graph a with
        | none => simp [hold, hmem]
        | some children => simp [hold, hmem, Function.update_of_ne hb]

theorem finished_valid (graph : Graph α) (bound : ℕ) (seeds : List α) :
    Valid graph bound seeds (finished graph bound seeds) :=
  exhaust_invariant _ (fun _ _ h hstep => h.step hstep) start_valid

theorem finished_stack (h : (finished graph bound seeds).seen.length ≤ bound) :
    (finished graph bound seeds).stack = [] := by
  have hdone : step graph bound (finished graph bound seeds) = none := exhaust_done
  cases hstack : (finished graph bound seeds).stack with
  | nil => rfl
  | cons a stack =>
    have hover : ¬bound < (finished graph bound seeds).seen.length := by omega
    simp only [step, hover, hstack, if_false] at hdone
    by_cases hseen : a ∈ (finished graph bound seeds).seen
    · simp [hseen] at hdone
    by_cases hlast : bound < (finished graph bound seeds).seen.length + 1
    · simp [hseen, hlast] at hdone
    · cases hgraph : graph a <;> simp [hseen, hlast, hgraph] at hdone

/-- Within the bound the search has seen exactly the nodes that can be reached. -/
theorem mem_finished_seen (h : (finished graph bound seeds).seen.length ≤ bound) (a : α) :
    a ∈ (finished graph bound seeds).seen ↔ Reached graph seeds a := by
  have hvalid := finished_valid graph bound seeds
  have hstack := finished_stack h
  refine ⟨hvalid.seen a, ?_⟩
  rintro ⟨seed, hseed, hreach⟩
  induction hreach with
  | refl => simpa [hstack] using hvalid.seeds h seed hseed
  | tail _ hedge ih => simpa [hstack] using hvalid.closed h _ ih _ hedge

def TooLarge (graph : Graph α) (bound : ℕ) (seeds : List α) : Prop :=
  ∃ nodes : List α, nodes.Nodup ∧ bound < nodes.length ∧ ∀ a ∈ nodes, Reached graph seeds a

theorem search_eq_none_iff : search graph bound seeds = none ↔ TooLarge graph bound seeds := by
  have hvalid := finished_valid graph bound seeds
  by_cases hover : bound < (finished graph bound seeds).seen.length
  · simp only [search, hover, if_true, true_iff]
    exact ⟨_, hvalid.nodup, hover, hvalid.seen⟩
  · simp only [search, hover, if_false, reduceCtorEq, false_iff]
    rintro ⟨nodes, hnodup, hlength, hreached⟩
    have hsub : nodes ⊆ (finished graph bound seeds).seen :=
      fun a ha => (mem_finished_seen (by omega) a).mpr (hreached a ha)
    have hle := (hnodup.subperm hsub).length_le
    omega

/-- A search that ends has the entries of the nodes that can be reached and no others. -/
theorem search_eq_some {edges : Graph α} (h : search graph bound seeds = some edges) (a : α) :
    (Reached graph seeds a → edges a = graph a) ∧ (¬Reached graph seeds a → edges a = none) := by
  by_cases hover : bound < (finished graph bound seeds).seen.length
  · simp [search, hover] at h
  · simp only [search, hover, if_false, Option.some.injEq] at h
    have hle : (finished graph bound seeds).seen.length ≤ bound := by omega
    rw [← h, (finished_valid graph bound seeds).edges hle a]
    exact ⟨fun hr => if_pos ((mem_finished_seen hle a).mpr hr),
      fun hr => if_neg fun hmem => hr ((mem_finished_seen hle a).mp hmem)⟩

theorem reach_search {edges : Graph α} (h : search graph bound seeds = some edges) {a b : α}
    (ha : a ∈ seeds) : Reach edges a b ↔ Reach graph a b :=
  reach_congr (fun x hx => (search_eq_some h x).1 hx) (.seed ha)

end Correctness

end StackSearch
