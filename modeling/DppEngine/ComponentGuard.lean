import DppEngine.ComponentTree
import DppEngine.PassportModel
import DppEngine.StackSearch

/-! The guard on a passport's component references, and the graph they make.

A reference whose URI ends in a UUID may name a passport of this node. Before a passport is
created or updated the guard gathers the local graph below its references and refuses what
would close a cycle; the references are written later, in a step of their own. The check
of one edge is the core library's. -/
namespace ComponentGuard

open PassportModel TransitionSystems StackSearch Relation

open ComponentTree (ComponentRef)

section LocalIds

variable (parse : String → Option PassportId)

/-- The last segment of the URI, without query and fragment, when it is a UUID. -/
def localComponentId (uri : String) : Option PassportId :=
  let tail := (uri.toList.reverse.takeWhile (· ≠ '/')).reverse
  parse (String.ofList (tail.takeWhile fun c => c ≠ '?' && c ≠ '#'))

def localChildren (refs : List ComponentRef) : List PassportId :=
  refs.filterMap fun r => localComponentId parse r.reference.uri

end LocalIds

section Guard

inductive EdgeRejection where
  | cycle
  | depthExceeded
  deriving DecidableEq, Repr

/-- The core library's `check_edge` at its default depth cap. -/
structure EdgeCheck where
  depthCap : ℕ
  checkEdge : Graph PassportId → PassportId → PassportId → Except EdgeRejection Unit
  tooDeep : Graph PassportId → PassportId → PassportId → Prop
  /-- It rejects exactly what would close a cycle or pass the depth cap. -/
  rejects : ∀ edges parent child, checkEdge edges parent child ≠ .ok () ↔
    Reach edges child parent ∨ tooDeep edges parent child

def maxGraphNodes : ℕ := 256

variable (core : EdgeCheck) (parse : String → Option PassportId)

/-- What the repository answers for an id, whatever the passport's status. -/
abbrev Lookup := PassportId → Except DppError (Option (List ComponentRef))

/-- The references that can be followed: those of a passport that was found. A passport
that is absent and one whose lookup failed are leaves alike. -/
def found (lookup : Lookup) : Graph PassportId := fun id =>
  match lookup id with
  | .ok (some refs) => some (localChildren parse refs)
  | _ => none

def localComponentEdges (lookup : Lookup) (seeds : List PassportId) : Option (Graph PassportId) :=
  search (found parse lookup) maxGraphNodes seeds

def rejection (child : PassportId) : EdgeRejection → DppError
  | .cycle => .validation ""
      ("componentRefs would create a cycle via passport " ++ PassportId.text child)
  | .depthExceeded => .validation ""
      ("componentRefs exceed the maximum BOM depth of " ++ toString core.depthCap)

def checkEdges (edges : Graph PassportId) (parent : PassportId) :
    List PassportId → Except DppError Unit
  | [] => .ok ()
  | child :: children =>
    match core.checkEdge edges parent child with
    | .error e => .error (rejection core child e)
    | .ok () => checkEdges edges parent children

def guardComponentGraph (lookup : Lookup) (parent : PassportId) (refs : List ComponentRef) :
    Except DppError Unit :=
  let children := localChildren parse refs
  if children = [] then .ok ()
  else
    match localComponentEdges parse lookup children with
    | none => .error (.validation "" "componentRefs local graph too large to verify")
    | some edges => checkEdges core edges parent children

end Guard

section GuardFacts

variable {core : EdgeCheck} {parse : String → Option PassportId} {lookup : Lookup}
  {parent : PassportId} {refs : List ComponentRef}

noncomputable def gathered (graph : Graph PassportId) (seeds : List PassportId) :
    Graph PassportId := by
  classical
  exact fun id => if Reached graph seeds id then graph id else none

theorem search_eq_gathered {graph edges : Graph PassportId} {bound : ℕ} {seeds : List PassportId}
    (h : search graph bound seeds = some edges) : edges = gathered graph seeds := by
  funext id
  by_cases hreached : Reached graph seeds id
  · rw [(search_eq_some h id).1 hreached, gathered, if_pos hreached]
  · rw [(search_eq_some h id).2 hreached, gathered, if_neg hreached]

theorem checkEdges_ok {edges : Graph PassportId} {children : List PassportId} :
    checkEdges core edges parent children = .ok () ↔
      ∀ child ∈ children, core.checkEdge edges parent child = .ok () := by
  induction children with
  | nil => simp [checkEdges]
  | cons child children ih =>
    rw [checkEdges, List.forall_mem_cons, ← ih]
    cases hcheck : core.checkEdge edges parent child with
    | error e => simp
    | ok u => simp

/-- The guard passes what it can gather whole and where no reference leads back to the
parent, as far as the lookups were answered. -/
theorem guard_ok_iff :
    guardComponentGraph core parse lookup parent refs = .ok () ↔
      ¬TooLarge (found parse lookup) maxGraphNodes (localChildren parse refs) ∧
      ∀ child ∈ localChildren parse refs, ¬Reach (found parse lookup) child parent ∧
        ¬core.tooDeep (gathered (found parse lookup) (localChildren parse refs)) parent child := by
  by_cases hnone : localChildren parse refs = []
  · simp only [guardComponentGraph, hnone, if_true, List.not_mem_nil, false_imp_iff, implies_true,
      and_true, true_iff]
    rintro ⟨nodes, -, hlength, hreached⟩
    obtain ⟨id, hid⟩ := List.exists_mem_of_length_pos (Nat.zero_lt_of_lt hlength)
    obtain ⟨seed, hseed, -⟩ := hreached id hid
    cases hseed
  simp only [guardComponentGraph, hnone, if_false, localComponentEdges]
  cases hsearch : search (found parse lookup) maxGraphNodes (localChildren parse refs) with
  | none => simp [search_eq_none_iff.mp hsearch]
  | some edges =>
    have hsmall : ¬TooLarge (found parse lookup) maxGraphNodes (localChildren parse refs) := by
      rw [← search_eq_none_iff, hsearch]
      simp
    have haccepts : ∀ child ∈ localChildren parse refs,
        core.checkEdge edges parent child = .ok () ↔ ¬Reach (found parse lookup) child parent ∧
          ¬core.tooDeep (gathered (found parse lookup) (localChildren parse refs)) parent
            child := by
      intro child hchild
      have hrejects := core.rejects edges parent child
      rw [reach_search hsearch hchild, search_eq_gathered hsearch] at hrejects
      rw [search_eq_gathered hsearch, ← not_or, ← hrejects, not_not]
    simp only [checkEdges_ok, hsmall, not_false_eq_true, true_and]
    exact forall₂_congr haccepts

end GuardFacts

section FailingClosed

variable (core : EdgeCheck) (parse : String → Option PassportId)
  (store : PassportId → Option (List ComponentRef)) (failure : PassportId → Option DppError)
  (parent : PassportId) (refs : List ComponentRef)

def lookupIn : Lookup := fun id =>
  match failure id with
  | some e => .error e
  | none => .ok (store id)

def storeGraph : Graph PassportId := fun id => (store id).map (localChildren parse)

def replaced : Graph PassportId :=
  Function.update (storeGraph parse store) parent (some (localChildren parse refs))

def Consulted (id : PassportId) : Prop :=
  Reached (found parse (lookupIn store failure)) (localChildren parse refs) id

/-- A passed guard leaves the parent on no cycle, and neither a failed lookup nor a graph too
large to gather passes. -/
def FailsClosed : Prop :=
  (guardComponentGraph core parse (lookupIn store failure) parent refs = .ok () →
    ¬TransGen (Edge (replaced parse store parent refs)) parent parent) ∧
  ((∃ id, Consulted parse store failure refs id ∧ failure id ≠ none) ∨
    TooLarge (found parse (lookupIn store failure)) maxGraphNodes (localChildren parse refs) →
    guardComponentGraph core parse (lookupIn store failure) parent refs ≠ .ok ())

variable {core parse store failure parent refs}

theorem found_of_answered {id : PassportId} (h : failure id = none) :
    storeGraph parse store id = found parse (lookupIn store failure) id := by
  simp only [found, lookupIn, storeGraph, h]
  cases store id <;> rfl

/-- When every lookup on the way is answered, the guard sees every path that closes a
cycle. -/
theorem acyclic_of_answered
    (hanswered : ∀ id, Consulted parse store failure refs id → failure id = none)
    (hfree : ∀ child ∈ localChildren parse refs,
      ¬Reach (found parse (lookupIn store failure)) child parent) :
    ¬TransGen (Edge (replaced parse store parent refs)) parent parent := by
  intro hcycle
  obtain ⟨child, hchild, hback⟩ := cycle_update_iff.mp hcycle
  refine hfree child hchild ((reach_congr ?_ (.seed hchild)).mp hback)
  exact fun id hid => found_of_answered (hanswered id hid)

/-- The guard fails closed exactly where no lookup it makes fails, the graph is too large to
gather, or what it could gather is refused all the same. -/
theorem fails_closed_iff :
    FailsClosed core parse store failure parent refs ↔
      (∀ id, Consulted parse store failure refs id → failure id = none) ∨
      TooLarge (found parse (lookupIn store failure)) maxGraphNodes (localChildren parse refs) ∨
      ∃ child ∈ localChildren parse refs,
        Reach (found parse (lookupIn store failure)) child parent ∨
        core.tooDeep (gathered (found parse (lookupIn store failure)) (localChildren parse refs))
          parent child := by
  constructor
  · intro h
    by_cases hanswered : ∀ id, Consulted parse store failure refs id → failure id = none
    · exact .inl hanswered
    by_cases hlarge :
        TooLarge (found parse (lookupIn store failure)) maxGraphNodes (localChildren parse refs)
    · exact .inr (.inl hlarge)
    right; right
    push Not at hanswered
    have hrefused := h.2 (.inl hanswered)
    rw [Ne, guard_ok_iff] at hrefused
    by_contra hall
    push Not at hall
    exact hrefused ⟨hlarge, hall⟩
  · intro h
    have hrefused :
        TooLarge (found parse (lookupIn store failure)) maxGraphNodes (localChildren parse refs) →
        guardComponentGraph core parse (lookupIn store failure) parent refs ≠ .ok () := by
      intro hlarge hok
      exact (guard_ok_iff.mp hok).1 hlarge
    rcases h with hanswered | hlarge | ⟨child, hchild, hrejected⟩
    · refine ⟨fun hok => ?_, ?_⟩
      · exact acyclic_of_answered hanswered fun child hchild =>
          ((guard_ok_iff.mp hok).2 child hchild).1
      · rintro (⟨id, hid, hfailed⟩ | hlarge)
        · exact absurd (hanswered id hid) hfailed
        · exact hrefused hlarge
    · exact ⟨fun hok => absurd hok (hrefused hlarge), fun _ => hrefused hlarge⟩
    · have hnot : guardComponentGraph core parse (lookupIn store failure) parent refs ≠ .ok () := by
        intro hok
        obtain ⟨hfree, hshallow⟩ := (guard_ok_iff.mp hok).2 child hchild
        exact hrejected.elim hfree hshallow
      exact ⟨fun hok => absurd hok hnot, fun _ => hnot⟩

def within (edges : Graph PassportId) : ℕ → PassportId → PassportId → Bool
  | 0, id, target => id = target
  | depth + 1, id, target =>
    id = target || ((edges id).getD []).any fun child => within edges depth child target

def deeper (edges : Graph PassportId) : ℕ → PassportId → Bool
  | 0, id => (edges id).getD [] ≠ []
  | depth + 1, id => ((edges id).getD []).any (deeper edges depth)

theorem edge_iff_mem {edges : Graph PassportId} {a b : PassportId} :
    Edge edges a b ↔ b ∈ (edges a).getD [] := by
  cases hentry : edges a with
  | none => simp [Edge, hentry]
  | some children => simp [Edge, hentry]

theorem reach_of_within {edges : Graph PassportId} {depth : ℕ} {a b : PassportId}
    (h : within edges depth a b = true) : Reach edges a b := by
  induction depth generalizing a with
  | zero =>
    rw [of_decide_eq_true h]
    exact .refl
  | succ depth ih =>
    rw [within, Bool.or_eq_true, List.any_eq_true] at h
    rcases h with h | ⟨child, hchild, h⟩
    · rw [of_decide_eq_true h]
      exact .refl
    · exact (ih h).head (edge_iff_mem.mpr hchild)

theorem within_or_deeper {edges : Graph PassportId} {a b : PassportId} (h : Reach edges a b)
    (depth : ℕ) : within edges depth a b = true ∨ deeper edges depth a = true := by
  induction h using ReflTransGen.head_induction_on generalizing depth with
  | refl => exact .inl (by cases depth <;> simp [within])
  | @head a c hedge _ ih =>
    have hchild := edge_iff_mem.mp hedge
    cases depth with
    | zero => exact .inr (decide_eq_true (List.ne_nil_of_mem hchild))
    | succ depth =>
      rcases ih depth with h | h
      · left
        rw [within, Bool.or_eq_true, List.any_eq_true]
        exact .inr ⟨c, hchild, h⟩
      · right
        rw [deeper, List.any_eq_true]
        exact ⟨c, hchild, h⟩

def depthFirstCheck (depthCap : ℕ) : EdgeCheck where
  depthCap
  checkEdge edges parent child :=
    if within edges depthCap child parent then .error .cycle
    else if deeper edges depthCap child then .error .depthExceeded
    else .ok ()
  tooDeep edges _ child := deeper edges depthCap child = true
  rejects edges parent child := by
    by_cases hwithin : within edges depthCap child parent = true
    · simp [hwithin, reach_of_within hwithin]
    by_cases hdeeper : deeper edges depthCap child = true
    · simp [hwithin, hdeeper]
    · have hfree : ¬Reach edges child parent := fun h =>
        (within_or_deeper h depthCap).elim hwithin hdeeper
      simp [hwithin, hdeeper, hfree]

theorem guard_ok_of_leaves {depthCap : ℕ} {lookup : Lookup}
    (hleaf : ∀ child ∈ localChildren parse refs, (found parse lookup child).getD [] = [])
    (hparent : parent ∉ localChildren parse refs)
    (hfew : (localChildren parse refs).length ≤ maxGraphNodes) :
    guardComponentGraph (depthFirstCheck depthCap) parse lookup parent refs = .ok () := by
  have hstays : ∀ child ∈ localChildren parse refs, ∀ id,
      Reach (found parse lookup) child id → id = child := by
    intro child hchild id h
    rcases ReflTransGen.cases_head h with heq | ⟨next, hedge, -⟩
    · exact heq.symm
    · rw [edge_iff_mem, hleaf child hchild] at hedge
      cases hedge
  refine guard_ok_iff.mpr ⟨?_, ?_⟩
  · rintro ⟨nodes, hnodup, hlength, hreached⟩
    have hsub : nodes ⊆ localChildren parse refs := by
      intro id hid
      obtain ⟨child, hchild, hreach⟩ := hreached id hid
      rw [hstays child hchild id hreach]
      exact hchild
    have hle := (hnodup.subperm hsub).length_le
    omega
  · intro child hchild
    refine ⟨fun hreach => hparent (hstays child hchild parent hreach ▸ hchild), ?_⟩
    have hentry :
        (gathered (found parse lookup) (localChildren parse refs) child).getD [] = [] := by
      rw [gathered, if_pos (.seed hchild), hleaf child hchild]
    change ¬deeper _ depthCap child = true
    cases depthCap <;> simp [deeper, hentry]

def hexValue (c : Char) : Option ℕ :=
  if '0' ≤ c ∧ c ≤ '9' then some (c.toNat - '0'.toNat)
  else if 'a' ≤ c ∧ c ≤ 'f' then some (c.toNat - 'a'.toNat + 10)
  else if 'A' ≤ c ∧ c ≤ 'F' then some (c.toNat - 'A'.toNat + 10)
  else none

def parseHex (digits : List Char) : Option ℕ :=
  digits.foldl (fun n c => n.bind fun n => (hexValue c).map (16 * n + ·)) (some 0)

/-- A reader of UUIDs in groups of 8, 4, 4, 4 and 12 digits with hyphens between them. -/
def hyphenated (s : String) : Option PassportId :=
  let text := s.toList
  if text.length = 36 ∧ text[8]? = some '-' ∧ text[13]? = some '-' ∧ text[18]? = some '-' ∧
      text[23]? = some '-' then
    parseHex (text.take 8 ++ (text.drop 9).take 4 ++ (text.drop 14).take 4 ++
      (text.drop 19).take 4 ++ text.drop 24)
  else none

def refTo (id : PassportId) : ComponentRef :=
  ⟨⟨"https://node.example/dpp/" ++ PassportId.text id, ""⟩⟩

def pairStore : PassportId → Option (List ComponentRef)
  | 1 => some []
  | 2 => some [refTo 1]
  | _ => none

def secondUnanswered : PassportId → Option DppError
  | 2 => some (.internal "database: connection reset")
  | _ => none

theorem localChildren_refTo_one : localChildren hyphenated [refTo 1] = [1] := by decide +kernel

theorem localChildren_refTo_two : localChildren hyphenated [refTo 2] = [2] := by decide +kernel

theorem failed_lookup_passes_cycle :
    guardComponentGraph (depthFirstCheck 6) hyphenated (lookupIn pairStore secondUnanswered) 1
        [refTo 2] = .ok () ∧
      TransGen (Edge (replaced hyphenated pairStore 1 [refTo 2])) 1 1 ∧
      ¬FailsClosed (depthFirstCheck 6) hyphenated pairStore secondUnanswered 1 [refTo 2] := by
  have hok : guardComponentGraph (depthFirstCheck 6) hyphenated
      (lookupIn pairStore secondUnanswered) 1 [refTo 2] = .ok () := by
    apply guard_ok_of_leaves
    · rw [localChildren_refTo_two]
      simp [found, lookupIn, secondUnanswered]
    · rw [localChildren_refTo_two]
      decide
    · rw [localChildren_refTo_two]
      decide
  have hup : Edge (storeGraph hyphenated pairStore) 2 1 :=
    ⟨[1], congrArg some localChildren_refTo_one, by decide⟩
  have hcycle : TransGen (Edge (replaced hyphenated pairStore 1 [refTo 2])) 1 1 :=
    cycle_update_iff.mpr ⟨2, by simp [localChildren_refTo_two], .single hup⟩
  exact ⟨hok, hcycle, fun h => h.1 hok hcycle⟩

end FailingClosed

end ComponentGuard
