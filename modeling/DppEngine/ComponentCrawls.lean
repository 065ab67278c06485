import DppEngine.ComponentTree

/-! The walk over component references against a fetch that answers as it pleases.

What `fetch` answers may depend on everything it was asked before, so a document may name
references that no other answer has named. The walk is run with the record of its calls and of the
references that left its queue. -/
namespace ComponentCrawls

open JsonValues TransitionSystems ComponentTree

structure Call where
  reference : PassportRef
  parentPath : List String
  answer : Option Json

def Call.path (c : Call) : List String := c.parentPath ++ [c.reference.uri]

def Call.children (dec : Decoders) (c : Call) : List PassportRef :=
  match verifyAndChildren dec (fun _ => c.answer) c.reference with
  | .ok (children, _) => children
  | .error _ => []

/-- A reference and the path of the document that lists it. -/
abbrev Entry := PassportRef × List String

def pathOf (e : Entry) : List String := e.2 ++ [e.1.uri]

/-- The walk, the references taken off its queue in order, and its calls in order. -/
structure Crawl where
  walk : Walk
  popped : List Entry
  calls : List Call

section Turns

variable (dec : Decoders) (fetch : List Call → String → Option Json) (depthCap nodeCap : ℕ)

/-- One turn of the loop of `verify_tree`, whose `fetch` knows the calls before. -/
def turn (s : Crawl) : Option Crawl :=
  match s.walk.queue with
  | [] => none
  | (reference, parentPath) :: queue =>
    let path := parentPath ++ [reference.uri]
    let w : Walk := { s.walk with queue }
    let s : Crawl := { s with popped := s.popped ++ [(reference, parentPath)] }
    some <|
      if depthCap < path.length then { s with walk := w.report (fail path .depthExceeded) }
      else if reference.uri ∈ parentPath then { s with walk := w.report (fail path .cycle) }
      else if reference.uri ∈ w.seen then { s with walk := w }
      else
        let w : Walk := { w with seen := reference.uri :: w.seen }
        if nodeCap ≤ w.fetched then { s with walk := w.report (fail path .nodeCapExceeded) }
        else
          { s with
            walk := visit dec (fetch s.calls) { w with fetched := w.fetched + 1 } reference path
            calls := s.calls ++ [⟨reference, parentPath, fetch s.calls reference.uri⟩] }

theorem turn_walk {s t : Crawl} (h : turn dec fetch depthCap nodeCap s = some t) :
    step dec (fetch s.calls) depthCap nodeCap s.walk = some t.walk := by
  revert h
  unfold turn step
  cases s.walk.queue with
  | nil => nofun
  | cons first queue =>
    intro h
    cases h
    dsimp only
    split_ifs <;> rfl

theorem turn_none {s : Crawl} :
    turn dec fetch depthCap nodeCap s = none ↔ s.walk.queue = [] := by
  unfold turn
  split
  next hq => simp [hq]
  next hq => simp [hq]

def crawlSize (s : Crawl) : ℕ × ℕ := size nodeCap s.walk

theorem turn_shrinks (s t : Crawl) (h : turn dec fetch depthCap nodeCap s = some t) :
    WellFoundedRelation.rel (crawlSize nodeCap t) (crawlSize nodeCap s) :=
  step_shrinks dec (fetch s.calls) depthCap nodeCap _ _ (turn_walk dec fetch depthCap nodeCap h)

def entry (rootRefs : List ComponentRef) : Crawl := ⟨start rootRefs, [], []⟩

/-- `verify_tree`, with the record of its calls. -/
def crawled (rootRefs : List ComponentRef) : Crawl :=
  exhaust (turn dec fetch depthCap nodeCap) (crawlSize nodeCap)
    (turn_shrinks dec fetch depthCap nodeCap) (entry rootRefs)

end Turns

section Accounts

variable {dec : Decoders} {fetch : List Call → String → Option Json} {depthCap nodeCap : ℕ}
  {rootRefs : List ComponentRef} {s t : Crawl} {e head : Entry} {queue : List Entry}

def Listed (dec : Decoders) (rootRefs : List ComponentRef) (calls : List Call) (e : Entry) : Prop :=
  (e.2 = [] ∧ ∃ c ∈ rootRefs, c.reference = e.1) ∨
    ∃ c ∈ calls, c.path = e.2 ∧ e.1 ∈ c.children dec

def Reported (s : Crawl) (path : List String) : Prop := ∃ n ∈ s.walk.nodes, n.path = path

def Visits (s : Crawl) (e : Entry) : Prop :=
  (∃ c ∈ s.calls, (c.reference, c.parentPath) = e) ∨ fail (pathOf e) .nodeCapExceeded ∈ s.walk.nodes

/-- The reference that left the queue as the `i`-th has a node, or its URI was visited before. -/
def Settled (s : Crawl) (i : ℕ) (e : Entry) : Prop :=
  Reported s (pathOf e) ∨
    ∃ j < i, ∃ e', s.popped[j]? = some e' ∧ e'.1.uri = e.1.uri ∧ Visits s e'

structure Accounted (dec : Decoders) (depthCap nodeCap : ℕ) (rootRefs : List ComponentRef)
    (s : Crawl) : Prop where
  fetched : s.walk.fetched = s.calls.length
  capped : s.calls.length ≤ nodeCap
  seen : ∀ c ∈ s.calls, c.reference.uri ∈ s.walk.seen
  once : (s.calls.map fun c => c.reference.uri).Nodup
  shallow : ∀ c ∈ s.calls, c.path.length ≤ depthCap
  called : ∀ c ∈ s.calls, (c.reference, c.parentPath) ∈ s.popped
  visited : ∀ uri ∈ s.walk.seen, ∃ (j : ℕ) (e : Entry),
    s.popped[j]? = some e ∧ e.1.uri = uri ∧ Visits s e
  settled : ∀ (i : ℕ) (e : Entry), s.popped[i]? = some e → Settled s i e
  listed : ∀ e, Listed dec rootRefs s.calls e ↔ e ∈ s.popped ++ s.walk.queue

structure Grows (s t : Crawl) : Prop where
  popped : s.popped <+: t.popped
  nodes : s.walk.nodes ⊆ t.walk.nodes
  calls : s.calls ⊆ t.calls

theorem Visits.mono (h : Visits s e) (hg : Grows s t) : Visits t e := by
  rcases h with ⟨c, hc, heq⟩ | h
  · exact .inl ⟨c, hg.calls hc, heq⟩
  · exact .inr (hg.nodes h)

theorem Settled.mono {i : ℕ} (h : Settled s i e) (hg : Grows s t) : Settled t i e := by
  rcases h with ⟨n, hn, hpath⟩ | ⟨j, hj, e', he', huri, hvisit⟩
  · exact .inl ⟨n, hg.nodes hn, hpath⟩
  · obtain ⟨tail, htail⟩ := hg.popped
    refine .inr ⟨j, hj, e', ?_, huri, hvisit.mono hg⟩
    rw [← htail, List.getElem?_append_left (List.getElem?_eq_some_iff.mp he').1, he']

theorem Accounted.turned (h : Accounted dec depthCap nodeCap rootRefs s) (hg : Grows s t)
    (hpopped : t.popped = s.popped ++ [head]) (hhead : Settled t s.popped.length head)
    (hseen : ∀ uri ∈ t.walk.seen, uri ∈ s.walk.seen ∨ uri = head.1.uri ∧ Visits t head) :
    (∀ uri ∈ t.walk.seen, ∃ (j : ℕ) (e : Entry),
      t.popped[j]? = some e ∧ e.1.uri = uri ∧ Visits t e) ∧
      ∀ (i : ℕ) (e : Entry), t.popped[i]? = some e → Settled t i e := by
  rw [hpopped]
  constructor
  · intro uri huri
    rcases hseen uri huri with hold | ⟨rfl, hvisit⟩
    · obtain ⟨j, e, he, huri, hvisit⟩ := h.visited uri hold
      refine ⟨j, e, ?_, huri, hvisit.mono hg⟩
      rw [List.getElem?_append_left (List.getElem?_eq_some_iff.mp he).1, he]
    · exact ⟨s.popped.length, head, List.getElem?_concat_length, rfl, hvisit⟩
  · intro i e he
    by_cases hi : i < s.popped.length
    · rw [List.getElem?_append_left hi] at he
      exact (h.settled i e he).mono hg
    · obtain ⟨hlt, -⟩ := List.getElem?_eq_some_iff.mp he
      have hlast : i = s.popped.length := by
        rw [List.length_append, List.length_singleton] at hlt
        omega
      subst hlast
      cases List.getElem?_concat_length.symm.trans he
      exact hhead

theorem Accounted.quiet (h : Accounted dec depthCap nodeCap rootRefs s)
    (hq : s.walk.queue = head :: queue) (hpopped : t.popped = s.popped ++ [head])
    (hqueue : t.walk.queue = queue) (hcalls : t.calls = s.calls)
    (hfetched : t.walk.fetched = s.walk.fetched) (hnodes : s.walk.nodes ⊆ t.walk.nodes)
    (hgrown : s.walk.seen ⊆ t.walk.seen)
    (hseen : ∀ uri ∈ t.walk.seen, uri ∈ s.walk.seen ∨ uri = head.1.uri ∧ Visits t head)
    (hhead : Settled t s.popped.length head) : Accounted dec depthCap nodeCap rootRefs t := by
  have hg : Grows s t := ⟨hpopped ▸ List.prefix_append _ _, hnodes, hcalls ▸ List.Subset.refl _⟩
  obtain ⟨hvisited, hsettled⟩ := h.turned hg hpopped hhead hseen
  exact {
    fetched := by rw [hfetched, hcalls, h.fetched]
    capped := by
      rw [hcalls]
      exact h.capped
    seen := by
      rw [hcalls]
      exact fun c hc => hgrown (h.seen c hc)
    once := by
      rw [hcalls]
      exact h.once
    shallow := by
      rw [hcalls]
      exact h.shallow
    called := by
      rw [hcalls]
      exact fun c hc => hg.popped.subset (h.called c hc)
    visited := hvisited
    settled := hsettled
    listed := by
      intro e
      rw [hcalls, h.listed, hpopped, hqueue, hq, List.append_assoc, List.singleton_append] }

theorem children_of_visit {w : Walk} {c : Call} (f : String → Option Json)
    (hanswer : f c.reference.uri = c.answer) :
    (visit dec f w c.reference c.path).queue =
        w.queue ++ (c.children dec).map (fun child => (child, c.path)) ∧
      ∃ new, (visit dec f w c.reference c.path).nodes = w.nodes ++ new ∧
        ∃ n ∈ new, n.path = c.path := by
  have hsame : verifyAndChildren dec f c.reference =
      verifyAndChildren dec (fun _ => c.answer) c.reference := by
    simp only [verifyAndChildren, hanswer]
  unfold visit Call.children
  rw [hsame]
  cases verifyAndChildren dec (fun _ => c.answer) c.reference with
  | error reason => exact ⟨by simp [Walk.report], _, rfl, _, List.mem_singleton_self _, rfl⟩
  | ok found => exact ⟨rfl, _, rfl, _, List.mem_cons_self, rfl⟩

theorem visit_seen {w : Walk} (f : String → Option Json) (reference : PassportRef)
    (path : List String) : (visit dec f w reference path).seen = w.seen := by
  unfold visit
  split <;> rfl

theorem listed_concat {calls : List Call} {c : Call} {e : PassportRef × List String} :
    Listed dec rootRefs (calls ++ [c]) e ↔
      Listed dec rootRefs calls e ∨
        e ∈ (c.children dec).map (fun child => (child, c.path)) := by
  have hchild : (c.path = e.2 ∧ e.1 ∈ c.children dec) ↔
      e ∈ (c.children dec).map (fun child => (child, c.path)) := by
    rw [List.mem_map]
    constructor
    · rintro ⟨hpath, hmem⟩
      exact ⟨e.1, hmem, Prod.ext rfl hpath⟩
    · rintro ⟨child, hmem, rfl⟩
      exact ⟨rfl, hmem⟩
  rw [← hchild]
  simp only [Listed, List.mem_append, List.mem_singleton, or_and_right, exists_or, exists_eq_left,
    or_assoc]

theorem Accounted.call (h : Accounted dec depthCap nodeCap rootRefs s)
    {c : Call} {w : Walk} (hq : s.walk.queue = (c.reference, c.parentPath) :: queue)
    (hanswer : c.answer = fetch s.calls c.reference.uri) (hshallow : c.path.length ≤ depthCap)
    (hnew : c.reference.uri ∉ s.walk.seen) (hroom : s.walk.fetched < nodeCap)
    (hw : w = ⟨queue, c.reference.uri :: s.walk.seen, s.walk.fetched + 1, s.walk.nodes⟩) :
    Accounted dec depthCap nodeCap rootRefs
      ⟨visit dec (fetch s.calls) w c.reference c.path,
        s.popped ++ [(c.reference, c.parentPath)], s.calls ++ [c]⟩ := by
  obtain ⟨hqueue, new, hnodes, n, hn, hpath⟩ :
      (visit dec (fetch s.calls) w c.reference c.path).queue =
        w.queue ++ (c.children dec).map (fun child => (child, c.path)) ∧ _ :=
    children_of_visit (fetch s.calls) hanswer.symm
  subst hw
  generalize ht : (⟨visit dec (fetch s.calls) ⟨queue, c.reference.uri :: s.walk.seen,
    s.walk.fetched + 1, s.walk.nodes⟩ c.reference c.path,
    s.popped ++ [(c.reference, c.parentPath)], s.calls ++ [c]⟩ : Crawl) = t
  have htnodes : t.walk.nodes = s.walk.nodes ++ new := ht ▸ hnodes
  have htqueue : t.walk.queue = queue ++ (c.children dec).map (fun child => (child, c.path)) :=
    ht ▸ hqueue
  have htseen : t.walk.seen = c.reference.uri :: s.walk.seen := ht ▸ visit_seen _ _ _
  have htfetched : t.walk.fetched = s.walk.fetched + 1 := ht ▸ visit_fetched _ _ _ _ _
  have htpopped : t.popped = s.popped ++ [(c.reference, c.parentPath)] := ht ▸ rfl
  have htcalls : t.calls = s.calls ++ [c] := ht ▸ rfl
  have hg : Grows s t := ⟨htpopped ▸ List.prefix_append _ _,
    htnodes ▸ List.subset_append_left _ _, htcalls ▸ List.subset_append_left _ _⟩
  have hcalled : ∀ c' ∈ t.calls, c' ∈ s.calls ∨ c' = c := by
    rw [htcalls]
    simp
  have hvisit : Visits t (c.reference, c.parentPath) :=
    .inl ⟨c, by simp [htcalls], rfl⟩
  have hhead : Settled t s.popped.length (c.reference, c.parentPath) :=
    .inl ⟨n, by simp [htnodes, hn], hpath⟩
  have hseen : ∀ uri ∈ t.walk.seen, uri ∈ s.walk.seen ∨
      uri = c.reference.uri ∧ Visits t (c.reference, c.parentPath) := by
    rw [htseen]
    intro uri huri
    rcases List.mem_cons.mp huri with rfl | huri
    · exact .inr ⟨rfl, hvisit⟩
    · exact .inl huri
  obtain ⟨hvisited, hsettled⟩ := h.turned hg htpopped hhead hseen
  exact {
    fetched := by rw [htfetched, htcalls, h.fetched, List.length_append, List.length_singleton]
    capped := by
      rw [htcalls, List.length_append, List.length_singleton, ← h.fetched]
      exact hroom
    seen := by
      intro c' hc'
      rw [htseen]
      rcases hcalled c' hc' with hold | rfl
      · exact List.mem_cons_of_mem _ (h.seen c' hold)
      · exact List.mem_cons_self
    once := by
      rw [htcalls, List.map_append, List.map_singleton, List.nodup_append_comm]
      refine List.nodup_cons.mpr ⟨?_, h.once⟩
      intro hmem
      obtain ⟨c', hc', huri⟩ := List.mem_map.mp hmem
      exact hnew (huri ▸ h.seen c' hc')
    shallow := by
      intro c' hc'
      rcases hcalled c' hc' with hold | rfl
      · exact h.shallow c' hold
      · exact hshallow
    called := by
      intro c' hc'
      rcases hcalled c' hc' with hold | rfl
      · exact hg.popped.subset (h.called c' hold)
      · simp [htpopped]
    visited := hvisited
    settled := hsettled
    listed := by
      intro e
      have hold := h.listed e
      rw [hq, List.mem_append, List.mem_cons] at hold
      rw [htcalls, listed_concat, hold, htpopped, htqueue]
      simp only [List.mem_append, List.mem_singleton, or_assoc] }

theorem entry_accounted : Accounted dec depthCap nodeCap rootRefs (entry rootRefs) where
  fetched := rfl
  capped := Nat.zero_le _
  seen := List.forall_mem_nil _
  once := List.nodup_nil
  shallow := List.forall_mem_nil _
  called := List.forall_mem_nil _
  visited := List.forall_mem_nil _
  settled _ _ h := by cases h
  listed e := by
    simp only [Listed, entry, start, List.nil_append, List.mem_map]
    constructor
    · rintro (⟨hpath, c, hc, href⟩ | ⟨c, hc, -⟩)
      · exact ⟨c, hc, Prod.ext href hpath.symm⟩
      · cases hc
    · rintro ⟨c, hc, rfl⟩
      exact .inl ⟨rfl, c, hc, rfl⟩

theorem turn_accounted (h : Accounted dec depthCap nodeCap rootRefs s)
    (hturn : turn dec fetch depthCap nodeCap s = some t) :
    Accounted dec depthCap nodeCap rootRefs t := by
  unfold turn at hturn
  split at hturn
  next => cases hturn
  next reference parentPath queue hq =>
    cases hturn
    have hlast : ∀ (w : Walk) (reason : RefUnverifiable),
        fail (parentPath ++ [reference.uri]) reason ∈
          (w.report (fail (parentPath ++ [reference.uri]) reason)).nodes := by
      intro w reason
      exact List.mem_append_right _ (List.mem_singleton_self _)
    dsimp only
    split_ifs with hdepth hcycle hseen hcap
    · exact h.quiet hq rfl rfl rfl rfl (List.subset_append_left _ _) (List.Subset.refl _)
        (fun uri huri => .inl huri) (.inl ⟨_, hlast _ _, rfl⟩)
    · exact h.quiet hq rfl rfl rfl rfl (List.subset_append_left _ _) (List.Subset.refl _)
        (fun uri huri => .inl huri) (.inl ⟨_, hlast _ _, rfl⟩)
    · refine h.quiet hq rfl rfl rfl rfl (List.Subset.refl _) (List.Subset.refl _)
        (fun uri huri => .inl huri) (.inr ?_)
      obtain ⟨j, e, he, huri, hvisit⟩ := h.visited _ hseen
      have hj := (List.getElem?_eq_some_iff.mp he).1
      exact ⟨j, hj, e, by rw [List.getElem?_append_left hj, he], huri, hvisit⟩
    · refine h.quiet hq rfl rfl rfl rfl (List.subset_append_left _ _) (List.subset_cons_self _ _)
        ?_ (.inl ⟨_, hlast _ _, rfl⟩)
      intro uri huri
      rcases List.mem_cons.mp huri with rfl | huri
      · exact .inr ⟨rfl, .inr (hlast _ _)⟩
      · exact .inl huri
    · exact h.call (c := ⟨reference, parentPath, fetch s.calls reference.uri⟩) hq rfl
        (not_lt.mp hdepth) hseen (not_le.mp hcap) rfl

/-- A reference is accounted for: it left the queue, and has a node unless its URI was visited
before. -/
def AccountedFor (s : Crawl) (e : Entry) : Prop := ∃ i : ℕ, s.popped[i]? = some e ∧ Settled s i e

theorem crawled_accounted :
    Accounted dec depthCap nodeCap rootRefs (crawled dec fetch depthCap nodeCap rootRefs) :=
  exhaust_invariant _ (fun _ _ => turn_accounted) entry_accounted

theorem crawled_emptied : (crawled dec fetch depthCap nodeCap rootRefs).walk.queue = [] :=
  (turn_none dec fetch depthCap nodeCap).mp exhaust_done

/-- With a fetch that does not change its answers, this is `verifyTree`'s walk. -/
theorem crawled_walk (f : String → Option Json) :
    (crawled dec (fun _ => f) depthCap nodeCap rootRefs).walk =
      finished dec f depthCap nodeCap rootRefs := by
  have hwalk : ∀ (ticks : List Unit) (s t : Crawl),
      run (fun s (_ : Unit) => turn dec (fun _ => f) depthCap nodeCap s) s ticks = some t →
      run (fun w (_ : Unit) => step dec f depthCap nodeCap w) s.walk ticks = some t.walk := by
    intro ticks
    induction ticks with
    | nil =>
      rintro s t ⟨⟩
      rfl
    | cons tick ticks ih =>
      intro s t hrun
      obtain ⟨u, hu, hrun⟩ := run_cons.mp hrun
      exact run_cons.mpr ⟨u.walk, turn_walk dec _ depthCap nodeCap hu, ih u t hrun⟩
  obtain ⟨ticks, hrun⟩ : ∃ ticks : List Unit,
      run (fun s (_ : Unit) => turn dec (fun _ => f) depthCap nodeCap s) (entry rootRefs) ticks =
        some (crawled dec (fun _ => f) depthCap nodeCap rootRefs) := exhaust_run
  refine (exhaust_of_run (hwalk ticks _ _ hrun) ?_).symm
  simp only [step]
  rw [crawled_emptied]

/-- The walk ends, within its caps, and accounts for every reference it was given. -/
theorem crawl_bounded_and_accounted (dec : Decoders) (fetch : List Call → String → Option Json)
    (depthCap nodeCap : ℕ) (rootRefs : List ComponentRef) :
    (∃ ticks : List Unit,
      run (fun s (_ : Unit) => turn dec fetch depthCap nodeCap s) (entry rootRefs) ticks =
        some (crawled dec fetch depthCap nodeCap rootRefs)) ∧
    turn dec fetch depthCap nodeCap (crawled dec fetch depthCap nodeCap rootRefs) = none ∧
    (crawled dec fetch depthCap nodeCap rootRefs).calls.length ≤ nodeCap ∧
    ((crawled dec fetch depthCap nodeCap rootRefs).calls.map fun c => c.reference.uri).Nodup ∧
    (∀ c ∈ (crawled dec fetch depthCap nodeCap rootRefs).calls, c.path.length ≤ depthCap ∧
      Listed dec rootRefs (crawled dec fetch depthCap nodeCap rootRefs).calls
        (c.reference, c.parentPath)) ∧
    (∀ c ∈ rootRefs,
      AccountedFor (crawled dec fetch depthCap nodeCap rootRefs) (c.reference, [])) ∧
    ∀ c ∈ (crawled dec fetch depthCap nodeCap rootRefs).calls, ∀ child ∈ c.children dec,
      AccountedFor (crawled dec fetch depthCap nodeCap rootRefs) (child, c.path) := by
  have h : Accounted dec depthCap nodeCap rootRefs (crawled dec fetch depthCap nodeCap rootRefs) :=
    crawled_accounted
  have hlisted : ∀ e, Listed dec rootRefs
      (crawled dec fetch depthCap nodeCap rootRefs).calls e →
        AccountedFor (crawled dec fetch depthCap nodeCap rootRefs) e := by
    intro e he
    rw [h.listed, crawled_emptied, List.append_nil] at he
    obtain ⟨i, hi⟩ := List.mem_iff_getElem?.mp he
    exact ⟨i, hi, h.settled i e hi⟩
  refine ⟨exhaust_run, exhaust_done, h.capped, h.once, ?_, ?_, ?_⟩
  · intro c hc
    refine ⟨h.shallow c hc, ?_⟩
    rw [h.listed]
    exact List.mem_append_left _ (h.called c hc)
  · intro c hc
    exact hlisted _ (.inl ⟨rfl, c, hc, rfl⟩)
  · intro c hc child hchild
    exact hlisted _ (.inr ⟨c, hc, rfl, hchild⟩)

end Accounts

end ComponentCrawls
