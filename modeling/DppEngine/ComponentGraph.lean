import DppEngine.ComponentGuard

/-! The local component graph under concurrent creates and updates.

A request runs the guard on the graph as it finds it and commits its references later;
between the two, other requests commit theirs. Every lookup succeeds. -/
namespace ComponentGraph

open PassportModel TransitionSystems StackSearch ComponentGuard Relation

open ComponentTree (ComponentRef)

abbrev Store := PassportId → Option (List ComponentRef)

inductive Request where
  | create (id : PassportId) (refs : List ComponentRef)
  /-- The references of a patch that has them. -/
  | update (id : PassportId) (patch : Option (List ComponentRef))
  deriving DecidableEq, Repr

def Request.id : Request → PassportId
  | .create id _ => id
  | .update id _ => id

def Request.refs : Request → Option (List ComponentRef)
  | .create _ refs => some refs
  | .update _ patch => patch

/-- The references the guard is asked about: those of the draft, or of the record as
patched. -/
def Request.checked (store : Store) : Request → Option (List ComponentRef)
  | .create _ refs => some refs
  | .update id patch => (store id).map patch.getD

/-- The references a commit writes: an insert finds no row, and an update changes only
what its patch applied. -/
def Request.written (store : Store) : Request → Option (List ComponentRef)
  | .create id refs => if store id = none then some refs else none
  | .update id patch => (store id).bind fun _ => patch

structure Passed where
  request : Request
  read : Store

structure State where
  store : Store
  inFlight : List Passed

inductive Event where
  | guard (request : Request)
  | commit (i : ℕ)
  deriving DecidableEq, Repr

def State.empty : State := ⟨fun _ => none, []⟩

section Steps

variable (core : EdgeCheck) (parse : String → Option PassportId)

def answered (store : Store) : Lookup := fun id => .ok (store id)

def State.next (s : State) : Event → Option State
  | .guard request =>
    match request.checked s.store with
    | none => some s
    | some refs =>
      match guardComponentGraph core parse (answered s.store) request.id refs with
      | .error _ => some s
      | .ok () => some { s with inFlight := s.inFlight ++ [⟨request, s.store⟩] }
  | .commit i =>
    match s.inFlight[i]? with
    | none => none
    | some r =>
      let inFlight := s.inFlight.eraseIdx i
      match r.request.written s.store with
      | none => some { s with inFlight }
      | some refs => some { store := Function.update s.store r.request.id (some refs), inFlight }

end Steps

section Paths

variable (parse : String → Option PassportId)

def LocalEdge (store : Store) (a b : PassportId) : Prop :=
  Edge (storeGraph parse store) a b ∧ store b ≠ none

def LocallyAcyclic (store : Store) : Prop := ∀ id, ¬TransGen (LocalEdge parse store) id id

/-- Where a commit writes references, none of them leads back to the passport along a path
that was not there when the guard read the graph. -/
def NoPathSinceRead (s : State) : Event → Prop
  | .guard _ => True
  | .commit i => ∀ r ∈ s.inFlight[i]?, ∀ refs ∈ r.request.written s.store,
      ∀ child ∈ localChildren parse refs, Reach (storeGraph parse s.store) child r.request.id →
        Reach (storeGraph parse r.read) child r.request.id

end Paths

section Runs

variable {core : EdgeCheck} {parse : String → Option PassportId} {s u : State} {e : Event}
  {store : Store}

theorem locallyAcyclic_iff : LocallyAcyclic parse store ↔ Acyclic (storeGraph parse store) := by
  constructor
  · intro h id hcycle
    refine h id ?_
    have hstored : ∀ a b, Edge (storeGraph parse store) a b → store a ≠ none := by
      rintro a b ⟨children, hchildren, -⟩ hnone
      rw [storeGraph, hnone] at hchildren
      cases hchildren
    have hlocal : ∀ a b, TransGen (Edge (storeGraph parse store)) a b → store b ≠ none →
        TransGen (LocalEdge parse store) a b := by
      intro a b hpath
      induction hpath with
      | single hedge => exact fun hb => .single ⟨hedge, hb⟩
      | tail _ hedge ih => exact fun hb => (ih (hstored _ _ hedge)).tail ⟨hedge, hb⟩
    obtain ⟨b, hedge, -⟩ := TransGen.head'_iff.mp hcycle
    exact hlocal id id hcycle (hstored _ _ hedge)
  · intro h id hcycle
    exact h id (TransGen.mono (show LocalEdge parse store ≤ Edge (storeGraph parse store) from
      fun _ _ hedge => hedge.1) id id hcycle)

theorem found_answered : found parse (answered store) = storeGraph parse store := by
  funext id
  simp only [found, answered, storeGraph]
  cases store id <;> rfl

theorem storeGraph_update (id : PassportId) (refs : List ComponentRef) :
    storeGraph parse (Function.update store id (some refs)) =
      Function.update (storeGraph parse store) id (some (localChildren parse refs)) := by
  funext x
  by_cases hx : x = id
  · subst hx
    simp [storeGraph]
  · simp [storeGraph, Function.update_of_ne hx]

theorem written_eq_refs {request : Request} {refs : List ComponentRef}
    (h : request.written store = some refs) : request.refs = some refs := by
  cases request with
  | create id new =>
    by_cases habsent : store id = none
    · rwa [Request.written, if_pos habsent] at h
    · rw [Request.written, if_neg habsent] at h
      cases h
  | update id patch =>
    obtain ⟨_, -, hpatch⟩ := Option.bind_eq_some_iff.mp h
    exact hpatch

theorem checked_eq_refs {request : Request} {checked refs : List ComponentRef}
    (h : request.checked store = some checked) (hrefs : request.refs = some refs) :
    checked = refs := by
  cases request with
  | create id new => exact Option.some.inj (h.symm.trans hrefs)
  | update id patch =>
    obtain ⟨stored, -, hchecked⟩ := Option.map_eq_some_iff.mp h
    have hpatch : patch = some refs := hrefs
    rw [← hchecked, hpatch, Option.getD_some]

def Guarded (parse : String → Option PassportId) (s : State) : Prop :=
  ∀ r ∈ s.inFlight, ∀ refs ∈ r.request.refs, ∀ child ∈ localChildren parse refs,
    ¬Reach (storeGraph parse r.read) child r.request.id

/-- What a step does to the store: nothing, or it writes the references of a request whose
guard passed. -/
theorem next_cases (h : s.next core parse e = some u) :
    u.store = s.store ∧ (∀ r ∈ u.inFlight, r ∈ s.inFlight ∨ r.read = s.store ∧
      ∃ checked, r.request.checked s.store = some checked ∧
        guardComponentGraph core parse (answered s.store) r.request.id checked = .ok ()) ∧
      (∀ i, e = .commit i → ∀ r ∈ s.inFlight[i]?, r.request.written s.store = none) ∨
    ∃ i r refs, e = .commit i ∧ s.inFlight[i]? = some r ∧
      r.request.written s.store = some refs ∧
      u = ⟨Function.update s.store r.request.id (some refs), s.inFlight.eraseIdx i⟩ := by
  cases e with
  | guard request =>
    left
    simp only [State.next] at h
    cases hchecked : request.checked s.store with
    | none =>
      simp only [hchecked, Option.some.injEq] at h
      subst h
      exact ⟨rfl, fun r hr => .inl hr, nofun⟩
    | some checked =>
      simp only [hchecked] at h
      cases hguard : guardComponentGraph core parse (answered s.store) request.id checked with
      | error error =>
        simp only [hguard, Option.some.injEq] at h
        subst h
        exact ⟨rfl, fun r hr => .inl hr, nofun⟩
      | ok _ =>
        simp only [hguard, Option.some.injEq] at h
        subst h
        refine ⟨rfl, ?_, nofun⟩
        intro r hr
        rcases List.mem_append.mp hr with hr | hr
        · exact .inl hr
        · rw [List.mem_singleton.mp hr]
          exact .inr ⟨rfl, checked, hchecked, hguard⟩
  | commit i =>
    simp only [State.next] at h
    cases hr : s.inFlight[i]? with
    | none => simp [hr] at h
    | some r =>
      simp only [hr] at h
      cases hwritten : r.request.written s.store with
      | none =>
        simp only [hwritten, Option.some.injEq] at h
        subst h
        refine .inl ⟨rfl, fun r' hr' => .inl (List.mem_of_mem_eraseIdx hr'), ?_⟩
        rintro _ ⟨⟩ r' hr'
        rw [hr] at hr'
        cases hr'
        exact hwritten
      | some refs =>
        simp only [hwritten, Option.some.injEq] at h
        exact .inr ⟨i, r, refs, rfl, hr, hwritten, h.symm⟩

theorem step_preserves_guarded (hguarded : Guarded parse s) (h : s.next core parse e = some u) :
    Guarded parse u := by
  rcases next_cases h with ⟨-, hflight, -⟩ | ⟨i, r, refs, -, -, -, rfl⟩
  · intro r hr refs hrefs child hchild
    rcases hflight r hr with hr | ⟨hread, checked, hchecked, hguard⟩
    · exact hguarded r hr refs hrefs child hchild
    · rw [checked_eq_refs hchecked hrefs] at hguard
      have hfree := ((guard_ok_iff.mp hguard).2 child hchild).1
      rwa [found_answered, ← hread] at hfree
  · exact fun r' hr' => hguarded r' (List.mem_of_mem_eraseIdx hr')

/-- A step leaves the graph acyclic exactly when no reference it writes leads back along a
path that is new since its guard read the graph. -/
theorem step_acyclic_iff (hguarded : Guarded parse s) (hacyclic : LocallyAcyclic parse s.store)
    (h : s.next core parse e = some u) : LocallyAcyclic parse u.store ↔
      NoPathSinceRead parse s e := by
  rcases next_cases h with ⟨hstore, -, hwrites⟩ | ⟨i, r, refs, rfl, hr, hwritten, rfl⟩
  · rw [hstore]
    refine iff_of_true hacyclic ?_
    cases e with
    | guard _ => trivial
    | commit i =>
      intro r hr refs hrefs
      rw [hwrites i rfl r hr] at hrefs
      cases hrefs
  · rw [locallyAcyclic_iff, storeGraph_update,
      acyclic_update_iff (locallyAcyclic_iff.mp hacyclic)]
    constructor
    · intro hfree r' hr' refs' hrefs' child hchild hback
      rw [hr] at hr'
      cases hr'
      rw [hwritten] at hrefs'
      cases hrefs'
      exact absurd hback (hfree child hchild)
    · intro hsince child hchild hback
      exact hguarded r (List.mem_of_getElem? hr) refs (written_eq_refs hwritten) child hchild
        (hsince r hr refs hwritten child hchild hback)

theorem empty_guarded : Guarded parse State.empty := by simp [Guarded, State.empty]

theorem empty_acyclic : LocallyAcyclic parse State.empty.store := by
  intro id hcycle
  obtain ⟨b, ⟨⟨children, hchildren, -⟩, -⟩, -⟩ := TransGen.head'_iff.mp hcycle
  cases hchildren

theorem noPathSinceRead_of_none (h : s.next core parse e = none) : NoPathSinceRead parse s e := by
  cases e with
  | guard _ => trivial
  | commit i =>
    intro r hr refs hrefs
    rw [Option.mem_def] at hr hrefs
    simp only [State.next, hr, hrefs] at h
    cases h

/-- Every state of a run is acyclic exactly when no commit of it writes a reference that leads
back along a path committed since its guard. -/
theorem acyclic_iff_no_path_since_read (events : List Event) :
    (∀ before after s, events = before ++ after →
      run (State.next core parse) State.empty before = some s → LocallyAcyclic parse s.store) ↔
    Along (State.next core parse) (NoPathSinceRead parse) State.empty events :=
  states_iff_along empty_acyclic empty_guarded
    (fun _ _ _ hguarded hnext => step_preserves_guarded hguarded hnext)
    (fun _ _ _ hguarded hacyclic hnext => step_acyclic_iff hguarded hacyclic hnext)
    (fun _ _ hnext => noPathSinceRead_of_none hnext)

theorem next_guard {request : Request} {refs : List ComponentRef}
    (hchecked : request.checked s.store = some refs)
    (hguard : guardComponentGraph core parse (answered s.store) request.id refs = .ok ()) :
    s.next core parse (.guard request) =
      some { s with inFlight := s.inFlight ++ [⟨request, s.store⟩] } := by
  simp only [State.next, hchecked, hguard]

theorem next_commit {i : ℕ} {r : Passed} {refs : List ComponentRef}
    (hr : s.inFlight[i]? = some r) (hwritten : r.request.written s.store = some refs) :
    s.next core parse (.commit i) =
      some ⟨Function.update s.store r.request.id (some refs), s.inFlight.eraseIdx i⟩ := by
  simp only [State.next, hr, hwritten]

def draftTwice : List Event :=
  [.guard (.create 1 []), .commit 0, .guard (.create 2 []), .commit 0]

/-- Two drafts, and two updates that each make one a component of the other: both guards
read the graph before either commits. -/
def crossedUpdates : List Event :=
  draftTwice ++
    [.guard (.update 1 (some [refTo 2])), .guard (.update 2 (some [refTo 1])), .commit 0, .commit 0]

def twoDrafts : Store := Function.update (Function.update (fun _ => none) 1 (some [])) 2 (some [])

def crossedStore : Store :=
  Function.update (Function.update twoDrafts 1 (some [refTo 2])) 2 (some [refTo 1])

theorem two_drafts_pass {parent child : PassportId} (hne : parent ≠ child)
    (hrefs : localChildren hyphenated [refTo child] = [child]) :
    guardComponentGraph (depthFirstCheck 6) hyphenated (answered twoDrafts) parent [refTo child] =
      .ok () := by
  apply guard_ok_of_leaves
  · intro id _
    rw [found_answered]
    have hdrafts : twoDrafts id = some [] ∨ twoDrafts id = none := by
      by_cases h2 : id = 2
      · exact .inl (by simp [twoDrafts, h2])
      · by_cases h1 : id = 1
        · exact .inl (by simp [twoDrafts, h1])
        · exact .inr (by simp [twoDrafts, h1, h2])
    rcases hdrafts with h | h
    · simp [storeGraph, h, localChildren]
    · simp [storeGraph, h]
  · simpa [hrefs] using hne
  · rw [hrefs]
    show 1 ≤ 256
    omega

theorem draftTwice_run : run (State.next core parse) State.empty draftTwice =
    some ⟨twoDrafts, []⟩ := by
  refine run_cons.mpr ⟨_, next_guard rfl rfl, ?_⟩
  refine run_cons.mpr ⟨_, next_commit rfl rfl, ?_⟩
  refine run_cons.mpr ⟨_, next_guard rfl rfl, ?_⟩
  refine run_cons.mpr ⟨_, next_commit rfl rfl, ?_⟩
  rfl

theorem crossed_updates_close_cycle :
    ∃ s, run (State.next (depthFirstCheck 6) hyphenated) State.empty crossedUpdates = some s ∧
      ¬LocallyAcyclic hyphenated s.store := by
  refine ⟨⟨crossedStore, []⟩, run_append.mpr ⟨_, draftTwice_run, ?_⟩, ?_⟩
  · refine run_cons.mpr
      ⟨_, next_guard rfl (two_drafts_pass (by decide) localChildren_refTo_two), ?_⟩
    refine run_cons.mpr
      ⟨_, next_guard rfl (two_drafts_pass (by decide) localChildren_refTo_one), ?_⟩
    refine run_cons.mpr ⟨_, next_commit rfl rfl, ?_⟩
    refine run_cons.mpr ⟨_, next_commit rfl rfl, ?_⟩
    rfl
  · intro h
    have hdown : Edge (storeGraph hyphenated crossedStore) 1 2 :=
      ⟨[2], congrArg some localChildren_refTo_two, by decide⟩
    have hup : Edge (storeGraph hyphenated crossedStore) 2 1 :=
      ⟨[1], congrArg some localChildren_refTo_one, by decide⟩
    exact locallyAcyclic_iff.mp h 1 (.tail (.single hdown) hup)

end Runs

end ComponentGraph
