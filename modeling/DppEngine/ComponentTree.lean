import DppEngine.BreadthFirst
import DppEngine.JsonValues
import DppEngine.TransitionSystems
import Mathlib.Data.List.Nodup
import Mathlib.Data.List.Perm.Subperm
import Mathlib.Logic.Relation

/-! The walk over a passport's component references.

`verifyTree` follows `componentRefs` from the roots, checks each document's pin once and
reports one node per visited document and one per fault. Fetching is deterministic, so
the references form a fixed graph; what the walk reports is stated on that graph's first
paths, the ones on which breadth-first order reaches each URI. -/
namespace ComponentTree

open JsonValues TransitionSystems BreadthFirst

structure PassportRef where
  uri : String
  publicJwsHash : String
  deriving DecidableEq, Repr

/-- `quantity` and `role` qualify an edge and are not read by the walk. -/
structure ComponentRef where
  reference : PassportRef
  deriving DecidableEq, Repr

inductive RefUnverifiable where
  | unreachable | notPublished | hashMismatch | cycle | depthExceeded | nodeCapExceeded
  | malformedRef
  deriving DecidableEq, Repr

structure NodeReport where
  path : List String
  verified : Bool
  reason : Option RefUnverifiable
  deriving DecidableEq, Repr

structure TreeReport where
  verified : Bool
  nodes : List NodeReport
  deriving DecidableEq, Repr

/-- The digest behind a pin, and the decoding of one `componentRefs` entry. -/
structure Decoders where
  publicJwsHash : String → String
  readComponentRef : Json → Option ComponentRef

def defaultNodeCap : ℕ := 256

section Walk

variable (dec : Decoders) (fetch : String → Option Json)

def readRefs (i : ℕ) : List Json → List PassportRef × List ℕ
  | [] => ([], [])
  | c :: cs =>
    let (children, malformed) := readRefs (i + 1) cs
    match dec.readComponentRef c with
    | some r => (r.reference :: children, malformed)
    | none => (children, i :: malformed)

def componentRefs (json : Json) : List PassportRef × List ℕ :=
  match (json.get "componentRefs").bind Json.asArray with
  | some arr => readRefs dec 0 arr
  | none => ([], [])

def publicJwsSignature (json : Json) : Option String :=
  (json.get "publicJwsSignature").bind Json.asStr

def verifyAndChildren (reference : PassportRef) :
    Except RefUnverifiable (List PassportRef × List ℕ) :=
  match fetch reference.uri with
  | none => .error .unreachable
  | some json =>
    match publicJwsSignature json with
    | none => .error .notPublished
    | some jws =>
      if dec.publicJwsHash jws ≠ reference.publicJwsHash then .error .hashMismatch
      else .ok (componentRefs dec json)

def fail (path : List String) (reason : RefUnverifiable) : NodeReport := ⟨path, false, some reason⟩

structure Walk where
  queue : List (PassportRef × List String)
  seen : List String
  fetched : ℕ
  nodes : List NodeReport
  deriving DecidableEq, Repr

def Walk.report (w : Walk) (n : NodeReport) : Walk := { w with nodes := w.nodes ++ [n] }

def start (rootRefs : List ComponentRef) : Walk :=
  ⟨rootRefs.map fun c => (c.reference, []), [], 0, []⟩

def visit (w : Walk) (reference : PassportRef) (path : List String) : Walk :=
  match verifyAndChildren dec fetch reference with
  | .error reason => w.report (fail path reason)
  | .ok (children, malformed) =>
    let entryFault i := fail (path ++ ["componentRefs[" ++ toString i ++ "]"]) .malformedRef
    { w with
      nodes := w.nodes ++ ⟨path, true, none⟩ :: malformed.map entryFault
      queue := w.queue ++ children.map fun child => (child, path) }

variable (depthCap nodeCap : ℕ)

/-- One turn of the loop: `none` once the queue is empty. -/
def step (w : Walk) : Option Walk :=
  match w.queue with
  | [] => none
  | (reference, parentPath) :: queue =>
    let path := parentPath ++ [reference.uri]
    let w := { w with queue }
    some <|
      if depthCap < path.length then w.report (fail path .depthExceeded)
      else if reference.uri ∈ parentPath then w.report (fail path .cycle)
      else if reference.uri ∈ w.seen then w
      else
        let w := { w with seen := reference.uri :: w.seen }
        if nodeCap ≤ w.fetched then w.report (fail path .nodeCapExceeded)
        else visit dec fetch { w with fetched := w.fetched + 1 } reference path

/-- Each turn fetches one more document within the cap, or takes an entry off the queue. -/
def size (w : Walk) : ℕ × ℕ := (nodeCap - w.fetched, w.queue.length)

theorem visit_fetched (w : Walk) (reference : PassportRef) (path : List String) :
    (visit dec fetch w reference path).fetched = w.fetched := by
  unfold visit
  split <;> rfl

theorem step_shrinks (w t : Walk) (h : step dec fetch depthCap nodeCap w = some t) :
    WellFoundedRelation.rel (size nodeCap t) (size nodeCap w) := by
  have hpop : ∀ {r q t}, w.queue = r :: q → t.fetched = w.fetched → t.queue = q →
      WellFoundedRelation.rel (size nodeCap t) (size nodeCap w) := by
    intro r q t hq hfetched hqueue
    simp only [size, hq, hfetched, hqueue, List.length_cons]
    exact Prod.Lex.right _ (Nat.lt_succ_self _)
  unfold step at h
  split at h
  next => cases h
  next reference parentPath queue hq =>
    cases h
    dsimp only
    split_ifs with hdepth hcycle hseen hcap
    · exact hpop hq rfl rfl
    · exact hpop hq rfl rfl
    · exact hpop hq rfl rfl
    · exact hpop hq rfl rfl
    · apply Prod.Lex.left
      rw [visit_fetched]
      show nodeCap - (w.fetched + 1) < nodeCap - w.fetched
      omega

def finished (rootRefs : List ComponentRef) : Walk :=
  exhaust (step dec fetch depthCap nodeCap) (size nodeCap)
    (step_shrinks dec fetch depthCap nodeCap) (start rootRefs)

def verifyTree (rootRefs : List ComponentRef) : TreeReport :=
  let nodes := (finished dec fetch depthCap nodeCap rootRefs).nodes
  { verified := nodes.all NodeReport.verified, nodes }

end Walk

section Graph

variable (dec : Decoders) (fetch : String → Option Json) (rootRefs : List ComponentRef)

/-- The well-formed entries of the document at a URI, whatever pin was followed to it. -/
def childrenAt (uri : String) : List PassportRef :=
  match fetch uri with
  | some json => (componentRefs dec json).1
  | none => []

def graph : RefGraph PassportRef String where
  key := PassportRef.uri
  roots := rootRefs.map ComponentRef.reference
  kids := childrenAt dec fetch

def uris (p : Path PassportRef) : List String := p.map fun x => x.2.uri

/-- The document is there, its pin matches and all its entries are well formed. -/
def Verifies (reference : PassportRef) : Prop :=
  ∃ children, verifyAndChildren dec fetch reference = .ok (children, [])

def BackReference : Prop :=
  ∃ p x, (graph dec fetch rootRefs).Listed p x ∧ x.2.uri ∈ uris p

/-- What else the walk reports: a listed reference beyond the depth cap, a first reference
to a URI that does not verify, or more URIs than may be fetched. -/
inductive Fault (depthCap nodeCap : ℕ) : Prop where
  | tooDeep (p x) (listed : (graph dec fetch rootRefs).Listed p x) (deep : depthCap < p.length + 1)
  | unverifiable (p x) (first : (graph dec fetch rootRefs).First (p ++ [x]))
      (broken : ¬Verifies dec fetch x.2)
  | tooMany (us : List String) (nodup : us.Nodup) (many : nodeCap < us.length)
      (reached : ∀ u ∈ us, ∃ p, (graph dec fetch rootRefs).Route p ∧
        (graph dec fetch rootRefs).target p = some u)

end Graph

def Refused (dec : Decoders) (fetch : String → Option Json) (depthCap nodeCap : ℕ) (w : Walk)
    (reference : PassportRef) (parentPath : List String) : Prop :=
  depthCap < parentPath.length + 1 ∨ reference.uri ∈ parentPath ∨
    reference.uri ∉ w.seen ∧ (nodeCap ≤ w.fetched ∨ ¬Verifies dec fetch reference)

/-- What one turn does with the head of the queue. -/
inductive Turn (dec : Decoders) (fetch : String → Option Json) (depthCap nodeCap : ℕ) (w : Walk)
    (reference : PassportRef) (parentPath : List String)
    (queue : List (PassportRef × List String)) : Walk → Prop where
  | failed {t} (why : Refused dec fetch depthCap nodeCap w reference parentPath)
      (kept : w.nodes <+: t.nodes) (bad : ∃ n ∈ t.nodes, n.verified = false) :
      Turn dec fetch depthCap nodeCap w reference parentPath queue t
  | skipped (shallow : parentPath.length + 1 ≤ depthCap) (fresh : reference.uri ∉ parentPath)
      (known : reference.uri ∈ w.seen) :
      Turn dec fetch depthCap nodeCap w reference parentPath queue { w with queue }
  | visited (children) (shallow : parentPath.length + 1 ≤ depthCap)
      (fresh : reference.uri ∉ parentPath) (new : reference.uri ∉ w.seen)
      (room : w.fetched < nodeCap)
      (ok : verifyAndChildren dec fetch reference = .ok (children, [])) :
      Turn dec fetch depthCap nodeCap w reference parentPath queue
        ⟨queue ++ children.map fun c => (c, parentPath ++ [reference.uri]),
          reference.uri :: w.seen, w.fetched + 1,
          w.nodes ++ [⟨parentPath ++ [reference.uri], true, none⟩]⟩

section Turns

variable {dec : Decoders} {fetch : String → Option Json} {depthCap nodeCap : ℕ} {w t : Walk}
  {reference : PassportRef} {parentPath : List String} {queue : List (PassportRef × List String)}

theorem report_failed {u : Walk} {path : List String} {reason : RefUnverifiable}
    (hnodes : u.nodes = w.nodes)
    (why : Refused dec fetch depthCap nodeCap w reference parentPath) :
    Turn dec fetch depthCap nodeCap w reference parentPath queue (u.report (fail path reason)) := by
  refine .failed why ?_ ⟨fail path reason, ?_, rfl⟩
  · exact hnodes ▸ List.prefix_append _ _
  · simp [Walk.report]

theorem step_turn (hq : w.queue = (reference, parentPath) :: queue)
    (h : step dec fetch depthCap nodeCap w = some t) :
    Turn dec fetch depthCap nodeCap w reference parentPath queue t := by
  simp only [step, hq, Option.some.injEq, List.length_append, List.length_singleton] at h
  subst h
  split_ifs with hdepth hcycle hseen hcap
  · exact report_failed rfl (.inl hdepth)
  · exact report_failed rfl (.inr (.inl hcycle))
  · exact .skipped (by omega) hcycle hseen
  · exact report_failed rfl (.inr (.inr ⟨hseen, .inl hcap⟩))
  · unfold visit
    split
    next reason hv =>
      refine report_failed rfl (.inr (.inr ⟨hseen, .inr ?_⟩))
      rintro ⟨children, hok⟩
      cases hv.symm.trans hok
    next children malformed hv =>
      cases malformed with
      | nil => exact .visited children (by omega) hcycle hseen (by omega) hv
      | cons i malformed =>
        refine .failed (.inr (.inr ⟨hseen, .inr ?_⟩)) (List.prefix_append _ _) ?_
        · rintro ⟨children', hok⟩
          cases hv.symm.trans hok
        · exact ⟨_, List.mem_append_right _ (List.mem_cons_of_mem _ List.mem_cons_self), rfl⟩

theorem step_nil (h : step dec fetch depthCap nodeCap w = none) : w.queue = [] := by
  unfold step at h
  split at h
  next hq => exact hq
  next => cases h

end Turns

section Soundness

variable (dec : Decoders) (fetch : String → Option Json) (rootRefs : List ComponentRef)
  (depthCap nodeCap : ℕ)

def Handled (depthCap : ℕ) (p : Path PassportRef) (x : ℕ × PassportRef) : Prop :=
  p.length + 1 ≤ depthCap ∧ x.2.uri ∉ uris p

def Visited (p : Path PassportRef) : Prop :=
  ∀ q x, p = q ++ [x] → Verifies dec fetch x.2

def queued (e : Pending PassportRef) : PassportRef × List String := (e.item.2, uris e.source)

structure Clean (w : Walk) (pending : List (Pending PassportRef)) : Prop where
  queue : w.queue = pending.map queued
  frontier : Frontier (graph dec fetch rootRefs) (Handled depthCap) (Visited dec fetch) pending
    w.seen
  verified : ∀ n ∈ w.nodes, n.verified = true
  nodup : w.seen.Nodup
  fetched : w.fetched = w.seen.length
  capped : w.fetched ≤ nodeCap
  nodes : w.nodes.map (fun n => n.path.getLast?) = w.seen.reverse.map some

variable {dec fetch rootRefs depthCap nodeCap} {w t : Walk} {pending : List (Pending PassportRef)}
  {reference : PassportRef}

theorem verifyAndChildren_ok {children : List PassportRef} {malformed : List ℕ} :
    verifyAndChildren dec fetch reference = .ok (children, malformed) ↔
      ∃ json jws, fetch reference.uri = some json ∧ publicJwsSignature json = some jws ∧
        dec.publicJwsHash jws = reference.publicJwsHash ∧
        componentRefs dec json = (children, malformed) := by
  unfold verifyAndChildren
  cases hf : fetch reference.uri with
  | none => simp
  | some json =>
    cases hj : publicJwsSignature json with
    | none => simp [hj]
    | some jws =>
      by_cases hh : dec.publicJwsHash jws = reference.publicJwsHash
      · simp [hj, hh]
      · simp [hj, hh]

theorem childrenAt_of_ok {children : List PassportRef}
    (h : verifyAndChildren dec fetch reference = .ok (children, [])) :
    childrenAt dec fetch reference.uri = children := by
  obtain ⟨json, jws, hf, -, -, hrefs⟩ := verifyAndChildren_ok.mp h
  simp [childrenAt, hf, hrefs]

@[simp] theorem uris_concat (p : Path PassportRef) (x : ℕ × PassportRef) :
    uris (p ++ [x]) = uris p ++ [x.2.uri] := by simp [uris]

theorem queued_entries (p : Path PassportRef) (refs : List PassportRef) :
    (entries p refs).map queued = refs.map fun r => (r, uris p) := by
  simp only [entries, List.map_map]
  rw [← List.zipIdx_map_fst 0 refs, List.map_map]
  simp [Function.comp_def, queued]

theorem start_clean :
    Clean dec fetch rootRefs depthCap nodeCap (start rootRefs)
      (entries [] (rootRefs.map ComponentRef.reference)) where
  queue := by
    rw [queued_entries, List.map_map]
    rfl
  frontier := Frontier.start
  verified _ hn := nomatch hn
  nodup := List.nodup_nil
  fetched := rfl
  capped := Nat.zero_le _
  nodes := rfl

theorem Clean.head (h : Clean dec fetch rootRefs depthCap nodeCap w pending)
    {parentPath : List String} {queue : List (PassportRef × List String)}
    (hq : w.queue = (reference, parentPath) :: queue) :
    ∃ e rest, pending = e :: rest ∧ reference = e.item.2 ∧ parentPath = uris e.source ∧
      queue = rest.map queued := by
  cases pending with
  | nil => simp [h.queue] at hq
  | cons e rest =>
    have heq := h.queue.symm.trans hq
    simp only [List.map_cons, List.cons.injEq, queued, Prod.mk.injEq] at heq
    obtain ⟨⟨hr, hp⟩, hrest⟩ := heq
    exact ⟨e, rest, rfl, hr.symm, hp.symm, hrest.symm⟩

theorem Clean.refused {e : Pending PassportRef} {rest : List (Pending PassportRef)}
    (h : Clean dec fetch rootRefs depthCap nodeCap w (e :: rest))
    (why : Refused dec fetch depthCap nodeCap w e.item.2 (uris e.source)) :
    BackReference dec fetch rootRefs ∨ Fault dec fetch rootRefs depthCap nodeCap := by
  have hlisted := h.frontier.listed e List.mem_cons_self
  rcases why with hdeep | hback | ⟨hnew, hcap | hbroken⟩
  · right
    exact .tooDeep _ _ hlisted (by simpa [uris] using hdeep)
  · exact .inl ⟨e.source, e.item, hlisted, hback⟩
  · right
    refine .tooMany (e.item.2.uri :: w.seen) (List.nodup_cons.mpr ⟨hnew, h.nodup⟩) ?_ ?_
    · have hlength := h.fetched
      simp only [List.length_cons]
      omega
    · intro u hu
      rcases List.mem_cons.mp hu with rfl | hu
      · exact ⟨_, hlisted.route, RefGraph.target_concat⟩
      · obtain ⟨p, hp, htarget⟩ := h.frontier.reached u hu
        exact ⟨p, hp.route, htarget⟩
  · right
    exact .unverifiable e.source e.item (h.frontier.head_first hnew) hbroken

theorem step_clean (h : Clean dec fetch rootRefs depthCap nodeCap w pending)
    (hstep : step dec fetch depthCap nodeCap w = some t) :
    (∃ pending', Clean dec fetch rootRefs depthCap nodeCap t pending') ∨
      (∃ n ∈ t.nodes, n.verified = false) ∧
        (BackReference dec fetch rootRefs ∨ Fault dec fetch rootRefs depthCap nodeCap) := by
  cases hq : w.queue with
  | nil => simp [step, hq] at hstep
  | cons head queue =>
    obtain ⟨reference, parentPath⟩ := head
    obtain ⟨e, rest, rfl, rfl, rfl, rfl⟩ := h.head hq
    cases step_turn hq hstep with
    | failed why kept bad => exact .inr ⟨bad, h.refused why⟩
    | skipped shallow fresh known =>
      refine .inl ⟨rest, rfl, h.frontier.skip known ⟨?_, fresh⟩, h.verified, h.nodup, h.fetched,
        h.capped, h.nodes⟩
      simpa [uris] using shallow
    | visited children shallow fresh new room ok =>
      have hhead : Handled depthCap e.source e.item := ⟨by simpa [uris] using shallow, fresh⟩
      have hvisit : Visited dec fetch e.path := by
        intro q x heq
        obtain ⟨-, hx⟩ := List.append_inj' heq rfl
        cases hx
        exact ⟨children, ok⟩
      have hkids : (graph dec fetch rootRefs).kids e.item.2.uri = children := childrenAt_of_ok ok
      refine .inl ⟨_, ?_, h.frontier.expand new hhead hvisit, ?_, ?_, ?_, room, ?_⟩
      · rw [List.map_append, queued_entries]
        simp only [graph] at hkids ⊢
        rw [hkids, Pending.path, uris_concat]
      · intro n hn
        rcases List.mem_append.mp hn with hn | hn
        · exact h.verified n hn
        · rw [List.mem_singleton.mp hn]
      · exact List.nodup_cons.mpr ⟨new, h.nodup⟩
      · simp [h.fetched]
      · simp [h.nodes]

theorem step_nodes (hstep : step dec fetch depthCap nodeCap w = some t) :
    w.nodes <+: t.nodes := by
  cases hq : w.queue with
  | nil => simp [step, hq] at hstep
  | cons head queue =>
    cases step_turn hq hstep with
    | failed why kept bad => exact kept
    | skipped shallow fresh known => exact List.prefix_rfl
    | visited children shallow fresh new room ok => exact List.prefix_append _ _

theorem verified_iff_nodes : (verifyTree dec fetch depthCap nodeCap rootRefs).verified = true ↔
    ∀ n ∈ (finished dec fetch depthCap nodeCap rootRefs).nodes, n.verified = true :=
  List.all_eq_true

/-- A concrete walk is evaluated turn by turn. -/
theorem verified_of_run {ticks : List Unit} {last : Walk}
    (hrun : run (fun w (_ : Unit) => step dec fetch depthCap nodeCap w) (start rootRefs) ticks =
      some last)
    (hdone : step dec fetch depthCap nodeCap last = none)
    (hnodes : ∀ n ∈ last.nodes, n.verified = true) :
    (verifyTree dec fetch depthCap nodeCap rootRefs).verified = true := by
  have hlast : finished dec fetch depthCap nodeCap rootRefs = last := exhaust_of_run hrun hdone
  rw [verified_iff_nodes, hlast]
  exact hnodes

theorem Clean.finished_nil
    (h : Clean dec fetch rootRefs depthCap nodeCap (finished dec fetch depthCap nodeCap rootRefs)
      pending) : pending = [] := by
  have hdone := h.queue.symm.trans (step_nil exhaust_done)
  exact List.map_eq_nil_iff.mp hdone

theorem finished_clean_of_verified
    (hv : (verifyTree dec fetch depthCap nodeCap rootRefs).verified = true) :
    Clean dec fetch rootRefs depthCap nodeCap (finished dec fetch depthCap nodeCap rootRefs)
      [] := by
  have hrun : ∃ pending, Clean dec fetch rootRefs depthCap nodeCap
      (finished dec fetch depthCap nodeCap rootRefs) pending := by
    refine exhaust_invariant (fun w => (∀ n ∈ w.nodes, n.verified = true) →
      ∃ pending, Clean dec fetch rootRefs depthCap nodeCap w pending) ?_ ?_
      (verified_iff_nodes.mp hv)
    · intro w t ih hstep ht
      obtain ⟨pending, hw⟩ := ih fun n hn => ht n ((step_nodes hstep).subset hn)
      rcases step_clean hw hstep with hclean | ⟨⟨n, hn, hbad⟩, -⟩
      · exact hclean
      · rw [ht n hn] at hbad
        cases hbad
    · intro _
      exact ⟨_, start_clean⟩
  obtain ⟨pending, hclean⟩ := hrun
  exact hclean.finished_nil ▸ hclean

theorem finished_clean_of_faultless (hback : ¬BackReference dec fetch rootRefs)
    (hfault : ¬Fault dec fetch rootRefs depthCap nodeCap) :
    Clean dec fetch rootRefs depthCap nodeCap (finished dec fetch depthCap nodeCap rootRefs)
      [] := by
  have hrun : ∃ pending, Clean dec fetch rootRefs depthCap nodeCap
      (finished dec fetch depthCap nodeCap rootRefs) pending := by
    refine exhaust_invariant (fun w => ∃ pending,
      Clean dec fetch rootRefs depthCap nodeCap w pending) ?_ ⟨_, start_clean⟩
    rintro w t ⟨pending, hw⟩ hstep
    rcases step_clean hw hstep with hclean | ⟨-, hgraph⟩
    · exact hclean
    · exact absurd hgraph (not_or.mpr ⟨hback, hfault⟩)
  obtain ⟨pending, hclean⟩ := hrun
  exact hclean.finished_nil ▸ hclean

theorem Clean.reached (h : Clean dec fetch rootRefs depthCap nodeCap w []) {u : String} :
    u ∈ w.seen ↔ ∃ p, (graph dec fetch rootRefs).Route p ∧
      (graph dec fetch rootRefs).target p = some u := by
  constructor
  · intro hu
    obtain ⟨p, hp, htarget⟩ := h.frontier.reached u hu
    exact ⟨p, hp.route, htarget⟩
  · rintro ⟨p, hroute, htarget⟩
    have hne : p ≠ [] := by
      rintro rfl
      cases htarget
    obtain ⟨q, hq, hsame, -⟩ := RefGraph.exists_first hroute hne
    obtain ⟨-, v, hv, hvt⟩ := h.frontier.complete.2 q hq
    cases hvt.symm.trans (hsame.trans htarget)
    exact hv

theorem Clean.faultless (h : Clean dec fetch rootRefs depthCap nodeCap w []) :
    ¬BackReference dec fetch rootRefs ∧ ¬Fault dec fetch rootRefs depthCap nodeCap := by
  obtain ⟨hhandled, hvisited⟩ := h.frontier.complete
  constructor
  · rintro ⟨p, x, hx, hback⟩
    exact (hhandled p x hx).2.2 hback
  · intro hfault
    cases hfault with
    | tooDeep p x listed deep =>
      have hshallow := (hhandled p x listed).2.1
      omega
    | unverifiable p x first broken => exact broken ((hvisited _ first).1 p x rfl)
    | tooMany us nodup many reached =>
      have hsubset : us ⊆ w.seen := fun u hu => h.reached.mpr (reached u hu)
      have hlength := (List.subperm_of_subset nodup hsubset).length_le
      have hfetched := h.fetched
      have hcapped := h.capped
      omega

/-- The walk verifies exactly when the graph's first paths are in order. -/
theorem verified_iff_faultless :
    (verifyTree dec fetch depthCap nodeCap rootRefs).verified = true ↔
      ¬BackReference dec fetch rootRefs ∧ ¬Fault dec fetch rootRefs depthCap nodeCap := by
  constructor
  · intro hv
    exact (finished_clean_of_verified hv).faultless
  · rintro ⟨hback, hfault⟩
    exact verified_iff_nodes.mpr (finished_clean_of_faultless hback hfault).verified

end Soundness

section Pins

variable (dec : Decoders) (fetch : String → Option Json) (rootRefs : List ComponentRef)

def Entry (uri : String) (c : PassportRef) : Prop :=
  ∃ body arr item cref, fetch uri = some body ∧
    (body.get "componentRefs").bind Json.asArray = some arr ∧ item ∈ arr ∧
    dec.readComponentRef item = some cref ∧ cref.reference = c

inductive Edge : PassportRef → Prop where
  | root {c} : c ∈ rootRefs → Edge c.reference
  | entry {r c} : Edge r → Entry dec fetch r.uri c → Edge c

def PinMatches (r : PassportRef) : Prop :=
  ∃ body jws, fetch r.uri = some body ∧ publicJwsSignature body = some jws ∧
    dec.publicJwsHash jws = r.publicJwsHash

/-- No two reachable references to one URI carry different pins. -/
def PinsAgree : Prop :=
  ∀ r s, Edge dec fetch rootRefs r → Edge dec fetch rootRefs s → r.uri = s.uri →
    r.publicJwsHash = s.publicJwsHash

variable {dec fetch rootRefs} {depthCap nodeCap : ℕ} {r c : PassportRef} {uri : String}

theorem mem_readRefs (i : ℕ) (arr : List Json) : c ∈ (readRefs dec i arr).1 ↔
    ∃ item cref, item ∈ arr ∧ dec.readComponentRef item = some cref ∧ cref.reference = c := by
  induction arr generalizing i with
  | nil => simp [readRefs]
  | cons item arr ih =>
    cases hread : dec.readComponentRef item with
    | none => simp [readRefs, hread, ih]
    | some cref => simp [readRefs, hread, ih, eq_comm]

theorem mem_childrenAt : c ∈ childrenAt dec fetch uri ↔ Entry dec fetch uri c := by
  unfold childrenAt Entry componentRefs
  cases hf : fetch uri with
  | none => simp
  | some body =>
    cases ha : (body.get "componentRefs").bind Json.asArray with
    | none => simp [ha]
    | some arr => simp [ha, mem_readRefs]

theorem route_of_edge (h : Edge dec fetch rootRefs r) :
    ∃ p i, (graph dec fetch rootRefs).Route (p ++ [(i, r)]) := by
  induction h with
  | @root c hc =>
    have hmem : c.reference ∈ (graph dec fetch rootRefs).roots := List.mem_map_of_mem hc
    obtain ⟨i, hi⟩ := List.mem_iff_getElem?.mp hmem
    exact ⟨[], i, RefGraph.Route.nil.snoc hi⟩
  | @entry r c hr hc ih =>
    obtain ⟨p, i, hroute⟩ := ih
    obtain ⟨j, hj⟩ := List.mem_iff_getElem?.mp (mem_childrenAt.mpr hc)
    refine ⟨p ++ [(i, r)], j, hroute.snoc ?_⟩
    rw [RefGraph.options_concat]
    exact hj

theorem edge_of_route {p : Path PassportRef} {x : ℕ × PassportRef}
    (h : (graph dec fetch rootRefs).Route (p ++ [x])) : Edge dec fetch rootRefs x.2 := by
  induction p using List.reverseRecOn generalizing x with
  | nil =>
    have hx := List.mem_of_getElem? (RefGraph.route_concat.mp h).2
    obtain ⟨c, hc, hcx⟩ := List.mem_map.mp hx
    exact hcx ▸ Edge.root hc
  | append_singleton p y ih =>
    obtain ⟨hp, hx⟩ := RefGraph.route_concat.mp h
    rw [RefGraph.options_concat] at hx
    exact (ih hp).entry (mem_childrenAt.mp (List.mem_of_getElem? hx))

theorem PinMatches.of_verifies (h : Verifies dec fetch r) : PinMatches dec fetch r := by
  obtain ⟨children, hok⟩ := h
  obtain ⟨body, jws, hf, hj, hh, -⟩ := verifyAndChildren_ok.mp hok
  exact ⟨body, jws, hf, hj, hh⟩

theorem PinMatches.unique {s : PassportRef} (hr : PinMatches dec fetch r)
    (hs : PinMatches dec fetch s) (huri : r.uri = s.uri) : r.publicJwsHash = s.publicJwsHash := by
  obtain ⟨body, jws, hf, hj, hh⟩ := hr
  obtain ⟨body', jws', hf', hj', hh'⟩ := hs
  rw [huri] at hf
  cases hf.symm.trans hf'
  cases hj.symm.trans hj'
  exact hh.symm.trans hh'

/-- Some reference to every reachable URI has been checked by a walk that verified. -/
theorem checked_reference (hfault : ¬Fault dec fetch rootRefs depthCap nodeCap)
    (hr : Edge dec fetch rootRefs r) :
    ∃ s, Edge dec fetch rootRefs s ∧ s.uri = r.uri ∧ PinMatches dec fetch s := by
  obtain ⟨p, i, hroute⟩ := route_of_edge hr
  obtain ⟨q, hq, htarget, -⟩ := RefGraph.exists_first hroute (by simp)
  rcases List.eq_nil_or_concat' q with rfl | ⟨q, x, rfl⟩
  · exact absurd rfl hq.ne_nil
  · have huri : x.2.uri = r.uri := by simpa [graph] using htarget
    refine ⟨x.2, edge_of_route hq.route, huri, PinMatches.of_verifies ?_⟩
    by_contra hbroken
    exact hfault (.unverifiable q x hq hbroken)

variable (dec fetch rootRefs depthCap nodeCap) in
/-- Every reachable pin is vouched for, unless two pins of one URI differ on a graph the
walk finds no fault with: the reference met second is then skipped unchecked. -/
theorem pins_sound_iff_pins_agree :
    ((verifyTree dec fetch depthCap nodeCap rootRefs).verified = true →
      ∀ r, Edge dec fetch rootRefs r → PinMatches dec fetch r) ↔
      (PinsAgree dec fetch rootRefs ∨ BackReference dec fetch rootRefs ∨
        Fault dec fetch rootRefs depthCap nodeCap) := by
  rw [verified_iff_faultless]
  constructor
  · intro h
    by_contra hnone
    obtain ⟨hagree, hgraph⟩ := not_or.mp hnone
    have hmatch := h (not_or.mp hgraph)
    exact hagree fun r s hr hs huri => (hmatch r hr).unique (hmatch s hs) huri
  · rintro h ⟨hback, hfault⟩ r hr
    rcases h with hagree | hgraph
    · obtain ⟨s, hs, huri, body, jws, hf, hj, hh⟩ := checked_reference hfault hr
      exact ⟨body, jws, huri ▸ hf, hj, hh.trans (hagree s r hs hr huri)⟩
    · exact absurd hgraph (not_or.mpr ⟨hback, hfault⟩)

end Pins

section Samples

def aHash : String := "473fd7f90806306ee09230b49fe6b57411e9465f3ca8d87026c56ae248f548ad"

def bHash : String := "78f58b5ea5797d05b01af43af710ce85419b2c99ae902d83d056e940ec4866b4"

def otherHash : String := "6e3f617c3c37b357d89730413efbc11d67f3f080591839b711764c8914d5e781"

def sampleDecoders : Decoders where
  publicJwsHash jws :=
    if jws = "asig" then aHash else if jws = "bsig" then bHash
    else if jws = "othersig" then otherHash else ""
  readComponentRef item := do
    let reference := (item.get "reference").getD item
    let uri ← (reference.get "uri").bind Json.asStr
    let pin ← (reference.get "publicJwsHash").bind Json.asStr
    return ⟨uri, pin⟩

def sampleRef (uri pin : String) : Json := .obj [("uri", .str uri), ("publicJwsHash", .str pin)]

def sampleNode (jws : String) (refs : List Json) : Json :=
  .obj [("publicJwsSignature", .str jws), ("componentRefs", .arr refs)]

end Samples

/-- Two references to one document, the second pinned to another signature. -/
theorem second_pin_is_not_checked :
    let fetch := fun uri => if uri = "u://a" then some (sampleNode "asig" []) else none
    let roots : List ComponentRef := [⟨"u://a", aHash⟩, ⟨"u://a", otherHash⟩]
    (verifyTree sampleDecoders fetch 6 defaultNodeCap roots).verified = true ∧
      Edge sampleDecoders fetch roots ⟨"u://a", otherHash⟩ ∧
      ¬PinMatches sampleDecoders fetch ⟨"u://a", otherHash⟩ := by
  intro fetch roots
  let last := (run (fun w (_ : Unit) => step sampleDecoders fetch 6 defaultNodeCap w)
    (start roots) [(), ()]).getD (start [])
  have hrun : run (fun w (_ : Unit) => step sampleDecoders fetch 6 defaultNodeCap w)
      (start roots) [(), ()] = some last := by decide +kernel
  refine ⟨verified_of_run hrun (by decide +kernel) (by decide +kernel), ?_, ?_⟩
  · have hroot : (⟨"u://a", otherHash⟩ : ComponentRef) ∈ roots := by simp [roots]
    exact Edge.root hroot
  · rintro ⟨body, jws, hf, hj, hh⟩
    have hbody : body = sampleNode "asig" [] := by simpa [fetch] using hf.symm
    subst hbody
    have hjws : jws = "asig" := by simpa using (show some "asig" = some jws from hj).symm
    subst hjws
    exact absurd hh (by simp [sampleDecoders, aHash, otherHash])

section Cycles

variable (dec : Decoders) (fetch : String → Option Json) (rootRefs : List ComponentRef)
  (depthCap nodeCap : ℕ)

/-- Paths through the documents whose pins match. -/
inductive PinnedPath : List PassportRef → Prop where
  | root {c} : c ∈ rootRefs → PinnedPath [c.reference]
  | extend {p r c} : PinnedPath (p ++ [r]) → PinMatches dec fetch r → Entry dec fetch r.uri c →
      PinnedPath (p ++ [r] ++ [c])

def Pinned (r : PassportRef) : Prop := ∃ p, PinnedPath dec fetch rootRefs (p ++ [r])

def Next (u v : String) : Prop :=
  ∃ r c, Pinned dec fetch rootRefs r ∧ PinMatches dec fetch r ∧ Entry dec fetch r.uri c ∧
    r.uri = u ∧ c.uri = v

def Cyclic : Prop := ∃ u, Relation.TransGen (Next dec fetch rootRefs) u u

structure Tame : Prop where
  acyclic : ¬Cyclic dec fetch rootRefs
  pins : ∀ r, Pinned dec fetch rootRefs r → PinMatches dec fetch r
  wellFormed : ∀ r body arr, Pinned dec fetch rootRefs r → fetch r.uri = some body →
    (body.get "componentRefs").bind Json.asArray = some arr →
    ∀ item ∈ arr, (dec.readComponentRef item).isSome
  shallow : ∀ p, PinnedPath dec fetch rootRefs p → p.length ≤ depthCap
  few : ∀ us : List String, us.Nodup → (∀ u ∈ us, ∃ r, Pinned dec fetch rootRefs r ∧ r.uri = u) →
    us.length ≤ nodeCap

def OneNodePerUri (nodes : List NodeReport) : Prop :=
  ∃ us : List String, nodes.map (fun n => n.path.getLast?) = us.map some ∧ us.Nodup ∧
    ∀ u, u ∈ us ↔ ∃ r, Pinned dec fetch rootRefs r ∧ r.uri = u

variable {dec fetch rootRefs depthCap nodeCap} {r : PassportRef} {p : Path PassportRef}
  {x : ℕ × PassportRef}

theorem Pinned.edge (h : Pinned dec fetch rootRefs r) : Edge dec fetch rootRefs r := by
  obtain ⟨p, hp⟩ := h
  generalize heq : p ++ [r] = q at hp
  induction hp generalizing p r with
  | @root c hc =>
    have hcat : p ++ [r] = [] ++ [c.reference] := heq
    obtain ⟨-, hr⟩ := List.append_inj' hcat rfl
    cases hr
    exact Edge.root hc
  | @extend p' s c _ _ hc ih =>
    obtain ⟨-, hr⟩ := List.append_inj' heq rfl
    cases hr
    exact (ih p' rfl).entry hc

/-- Where every pin matches, pinned paths are all there is. -/
theorem pinnedPath_of_route (hpins : ∀ r, Pinned dec fetch rootRefs r → PinMatches dec fetch r)
    (h : (graph dec fetch rootRefs).Route (p ++ [x])) :
    PinnedPath dec fetch rootRefs (p.map Prod.snd ++ [x.2]) := by
  induction p using List.reverseRecOn generalizing x with
  | nil =>
    have hx := List.mem_of_getElem? (RefGraph.route_concat.mp h).2
    obtain ⟨c, hc, hcx⟩ := List.mem_map.mp hx
    exact hcx ▸ PinnedPath.root hc
  | append_singleton p y ih =>
    obtain ⟨hp, hx⟩ := RefGraph.route_concat.mp h
    rw [RefGraph.options_concat] at hx
    have hentry := mem_childrenAt.mp (List.mem_of_getElem? hx)
    rw [List.map_append]
    exact (ih hp).extend (hpins y.2 ⟨_, ih hp⟩) hentry

theorem PinnedPath.parent {q : List PassportRef} (h : PinnedPath dec fetch rootRefs (q ++ [r])) :
    q = [] ∨ ∃ q' s, q = q' ++ [s] ∧ PinnedPath dec fetch rootRefs (q' ++ [s]) ∧
      Next dec fetch rootRefs s.uri r.uri := by
  generalize heq : q ++ [r] = p at h
  cases h with
  | @root c hc =>
    have hcat : q ++ [r] = [] ++ [c.reference] := heq
    exact .inl (List.append_inj' hcat rfl).1
  | @extend p s c hp hs hc =>
    obtain ⟨hq, hr⟩ := List.append_inj' heq rfl
    cases hr
    exact .inr ⟨p, s, hq, hp, s, r, ⟨p, hp⟩, hs, hc, rfl, rfl⟩

theorem PinnedPath.leads_to {q : List PassportRef} {s : PassportRef}
    (h : PinnedPath dec fetch rootRefs (q ++ [r])) (hs : s ∈ q) :
    Relation.TransGen (Next dec fetch rootRefs) s.uri r.uri := by
  induction q using List.reverseRecOn generalizing r with
  | nil => cases hs
  | append_singleton q t ih =>
    rcases h.parent with hnil | ⟨q', t', heq, hparent, hnext⟩
    · simp at hnil
    · obtain ⟨rfl, ht⟩ := List.append_inj' heq rfl
      cases ht
      rcases List.mem_append.mp hs with hs | hs
      · exact (ih hparent hs).tail hnext
      · rw [List.mem_singleton.mp hs]
        exact .single hnext

theorem pinned_iff_reached (hpins : ∀ r, Pinned dec fetch rootRefs r → PinMatches dec fetch r)
    {u : String} : (∃ r, Pinned dec fetch rootRefs r ∧ r.uri = u) ↔
      ∃ p, (graph dec fetch rootRefs).Route p ∧ (graph dec fetch rootRefs).target p = some u := by
  constructor
  · rintro ⟨r, hr, rfl⟩
    obtain ⟨p, i, hroute⟩ := route_of_edge hr.edge
    exact ⟨_, hroute, RefGraph.target_concat⟩
  · rintro ⟨p, hroute, htarget⟩
    rcases List.eq_nil_or_concat' p with rfl | ⟨p, x, rfl⟩
    · cases htarget
    · rw [RefGraph.target_concat] at htarget
      exact ⟨x.2, ⟨_, pinnedPath_of_route hpins hroute⟩, Option.some.inj htarget⟩

theorem readRefs_wellFormed (i : ℕ) (arr : List Json)
    (h : ∀ item ∈ arr, (dec.readComponentRef item).isSome) : (readRefs dec i arr).2 = [] := by
  induction arr generalizing i with
  | nil => rfl
  | cons item arr ih =>
    obtain ⟨cref, hread⟩ := Option.isSome_iff_exists.mp (h item List.mem_cons_self)
    simp only [readRefs, hread]
    exact ih (i + 1) fun item' hitem => h item' (List.mem_cons_of_mem _ hitem)

theorem Tame.verifies (h : Tame dec fetch rootRefs depthCap nodeCap)
    (hr : Pinned dec fetch rootRefs r) : Verifies dec fetch r := by
  obtain ⟨body, jws, hf, hj, hh⟩ := h.pins r hr
  refine ⟨(componentRefs dec body).1, verifyAndChildren_ok.mpr ⟨body, jws, hf, hj, hh, ?_⟩⟩
  refine Prod.ext rfl ?_
  unfold componentRefs
  cases ha : (body.get "componentRefs").bind Json.asArray with
  | none => rfl
  | some arr => exact readRefs_wellFormed 0 arr (h.wellFormed r body arr hr hf ha)

theorem Tame.faultless (h : Tame dec fetch rootRefs depthCap nodeCap) :
    ¬BackReference dec fetch rootRefs ∧ ¬Fault dec fetch rootRefs depthCap nodeCap := by
  constructor
  · rintro ⟨p, x, hx, hback⟩
    obtain ⟨y, hy, hyx⟩ := List.mem_map.mp hback
    have hpath := pinnedPath_of_route h.pins hx.route
    have hcycle := hpath.leads_to (List.mem_map_of_mem hy)
    rw [hyx] at hcycle
    exact h.acyclic ⟨x.2.uri, hcycle⟩
  · intro hfault
    cases hfault with
    | tooDeep p x listed deep =>
      have hlength := h.shallow _ (pinnedPath_of_route h.pins listed.route)
      simp only [List.length_append, List.length_map, List.length_singleton] at hlength
      omega
    | unverifiable p x first broken =>
      exact broken (h.verifies ⟨_, pinnedPath_of_route h.pins first.route⟩)
    | tooMany us nodup many reached =>
      have hlength := h.few us nodup fun u hu => (pinned_iff_reached h.pins).mpr (reached u hu)
      omega

theorem Tame.verified (h : Tame dec fetch rootRefs depthCap nodeCap) :
    (verifyTree dec fetch depthCap nodeCap rootRefs).verified = true ∧
      OneNodePerUri dec fetch rootRefs
        (verifyTree dec fetch depthCap nodeCap rootRefs).nodes := by
  have hverified := verified_iff_faultless.mpr h.faultless
  have hclean := finished_clean_of_verified hverified
  refine ⟨hverified, _, hclean.nodes, List.nodup_reverse.mpr hclean.nodup, ?_⟩
  intro u
  rw [List.mem_reverse, hclean.reached, pinned_iff_reached h.pins]

variable (dec fetch rootRefs depthCap nodeCap) in
/-- A cycle is reported unless every reference that closes it is met from another first path,
on a graph with no other fault; a tame graph is always verified. -/
theorem cycles_reported_iff_on_first_paths :
    ((Cyclic dec fetch rootRefs →
        (verifyTree dec fetch depthCap nodeCap rootRefs).verified = false) ∧
      (Tame dec fetch rootRefs depthCap nodeCap →
        (verifyTree dec fetch depthCap nodeCap rootRefs).verified = true ∧
          OneNodePerUri dec fetch rootRefs
            (verifyTree dec fetch depthCap nodeCap rootRefs).nodes)) ↔
      (Cyclic dec fetch rootRefs →
        BackReference dec fetch rootRefs ∨ Fault dec fetch rootRefs depthCap nodeCap) := by
  have hreported : (verifyTree dec fetch depthCap nodeCap rootRefs).verified = false ↔
      (BackReference dec fetch rootRefs ∨ Fault dec fetch rootRefs depthCap nodeCap) := by
    rw [← Bool.not_eq_true, verified_iff_faultless]
    tauto
  constructor
  · rintro ⟨hcyclic, -⟩ hcycle
    exact hreported.mp (hcyclic hcycle)
  · intro hgraph
    exact ⟨fun hcycle => hreported.mpr (hgraph hcycle), Tame.verified⟩

end Cycles

/-- Two roots that name each other: each is first met as a root, so neither reference
that closes the cycle leads back to its own path. -/
theorem cycle_between_roots_verifies :
    let fetch := fun uri =>
      if uri = "u://a" then some (sampleNode "asig" [sampleRef "u://b" bHash])
      else if uri = "u://b" then some (sampleNode "bsig" [sampleRef "u://a" aHash]) else none
    let roots : List ComponentRef := [⟨"u://a", aHash⟩, ⟨"u://b", bHash⟩]
    (verifyTree sampleDecoders fetch 6 defaultNodeCap roots).verified = true ∧
      Cyclic sampleDecoders fetch roots := by
  intro fetch roots
  let ticks : List Unit := [(), (), (), ()]
  let last := (run (fun w (_ : Unit) => step sampleDecoders fetch 6 defaultNodeCap w)
    (start roots) ticks).getD (start [])
  have hrun : run (fun w (_ : Unit) => step sampleDecoders fetch 6 defaultNodeCap w)
      (start roots) ticks = some last := by decide +kernel
  refine ⟨verified_of_run hrun (by decide +kernel) (by decide +kernel), "u://a", ?_⟩
  have hroot : ∀ c ∈ roots, Pinned sampleDecoders fetch roots c.reference :=
    fun c hc => ⟨[], PinnedPath.root hc⟩
  have hab : Next sampleDecoders fetch roots "u://a" "u://b" := by
    refine ⟨⟨"u://a", aHash⟩, ⟨"u://b", bHash⟩, hroot ⟨_, _⟩ (by simp [roots]),
      ⟨_, "asig", rfl, rfl, rfl⟩, ⟨_, _, _, _, rfl, rfl, List.mem_singleton_self _, rfl, rfl⟩,
      rfl, rfl⟩
  have hba : Next sampleDecoders fetch roots "u://b" "u://a" := by
    refine ⟨⟨"u://b", bHash⟩, ⟨"u://a", aHash⟩, hroot ⟨_, _⟩ (by simp [roots]),
      ⟨_, "bsig", rfl, rfl, rfl⟩, ⟨_, _, _, _, rfl, rfl, List.mem_singleton_self _, rfl, rfl⟩,
      rfl, rfl⟩
  exact .tail (.single hab) hba

end ComponentTree
