import DppEngine.LabelRuns

/-! Whether succession is a function: the passports that name one passport in `supersedesId`.

Nothing stores that a passport has one successor. A publish asks who else holds what the passport
prints or carries, and never who else names its predecessor. Creates, updates, publishes, status
changes, amendments and supersessions run one beside the other here, step by step. -/
namespace PredecessorClaims

open PassportModel (PassportStatus PassportId DppError)
open PrintedLabels AmendedLabels TransitionSystems
open LabelClaims (Phase Operation stripe)

section System

/-- What a request has done so far, with what it has read. A publish may be the one an amendment
makes, which supersedes the predecessor next. -/
inductive Request where
  | create (body : NewPassport)
  | update (id : PassportId) (patch : Patch)
  | amend (predecessorId : PassportId) (successor : Passport)
  | amended (predecessorId successorId : PassportId)
  | publish (read : Passport) (phase : Phase) (amends : Option PassportId)
  | supersede (predecessor : Passport) (successorId : PassportId)
  | change (id : PassportId) (target : PassportStatus)
  deriving DecidableEq, Repr

structure State where
  store : Store
  requests : ℕ → Option Request
  locks : ℕ → Option ℕ

/-- One step of request `n`. `leave` is a request that ends early: a gate refuses it, its signing
or its write fails, or its caller goes away. -/
inductive Event where
  | create (n : ℕ) (body : NewPassport)
  | insert (n : ℕ) (id : PassportId)
  | update (n : ℕ) (id : PassportId) (patch : Patch)
  | patch (n : ℕ)
  | amend (n : ℕ) (id successorId : PassportId) (patch : Patch)
  | draft (n : ℕ)
  | publishSuccessor (n : ℕ)
  | publish (n : ℕ) (id : PassportId)
  | hold (n : ℕ)
  | ask (n : ℕ)
  | write (n : ℕ) (now : Int)
  | change (n : ℕ) (operation : Operation) (id : PassportId)
  | supersede (n : ℕ) (predecessorId successorId : PassportId)
  | readSuccessor (n : ℕ)
  | commit (n : ℕ)
  | leave (n : ℕ)
  deriving DecidableEq, Repr

def initial : State := ⟨[], fun _ => none, fun _ => none⟩

def State.put (s : State) (n : ℕ) (r : Request) : State :=
  { s with requests := Function.update s.requests n (some r) }

def State.unlock (s : State) (n : ℕ) : State :=
  { s with locks := fun k => if s.locks k = some n then none else s.locks k }

def State.finish (s : State) (n : ℕ) : State :=
  { s.unlock n with requests := Function.update s.requests n none }

def State.start (s : State) (n : ℕ) (r : Request) : Option State :=
  if (s.requests n).isSome then none else some (s.put n r)

def createAsks (s : State) (n : ℕ) (body : NewPassport) : Option State :=
  if carrierSerialConflict s.store body then none else s.start n (.create body)

def insertDraft (s : State) (n : ℕ) (id : PassportId) : Option State :=
  match s.requests n with
  | some (.create body) =>
    if holds s.store id then none
    else if body.supersedesId.any fun i => !holds s.store i then none
    else some (({ s with store := s.store ++ [newDraft id body] } : State).finish n)
  | _ => none

def updateReads (s : State) (n : ℕ) (id : PassportId) (patch : Patch) : Option State :=
  match findById s.store id with
  | none => none
  | some p =>
    if p.status = .draft && (applyPatch p patch).isSome then s.start n (.update id patch) else none

def patched (patch : Patch) (row : Passport) : Passport :=
  { row with identifier := patch.identifier.getD row.identifier }

def patchRow (s : State) (n : ℕ) : Option State :=
  match s.requests n with
  | some (.update id patch) =>
    if holds s.store id then
      some (({ s with store := revise s.store id (patched patch) } : State).finish n)
    else none
  | _ => none

def amendReads (s : State) (n : ℕ) (id successorId : PassportId) (patch : Patch) : Option State :=
  match findById s.store id with
  | none => none
  | some predecessor =>
    if predecessor.status.canTransitionTo .superseded then
      match draftSuccessor predecessor successorId patch with
      | none => none
      | some successor => s.start n (.amend predecessor.id successor)
    else none

/-- The successor is inserted before anything else is done. -/
def draftRow (s : State) (n : ℕ) : Option State :=
  match s.requests n with
  | some (.amend predecessorId successor) =>
    if holds s.store successor.id then none
    else some (({ s with store := s.store ++ [successor] } : State).put n
      (.amended predecessorId successor.id))
  | _ => none

def publishSuccessorReads (s : State) (n : ℕ) : Option State :=
  match s.requests n with
  | some (.amended predecessorId successorId) =>
    match findById s.store successorId with
    | none => none
    | some p =>
      if p.status.canTransitionTo .published then
        some (s.put n (.publish p .reading (some predecessorId)))
      else none
  | _ => none

def publishReads (s : State) (n : ℕ) (id : PassportId) : Option State :=
  match findById s.store id with
  | none => none
  | some p =>
    if p.status.canTransitionTo .published then s.start n (.publish p .reading none) else none

variable (hash : String → ℕ)

def hold (s : State) (n : ℕ) : Option State :=
  match s.requests n with
  | some (.publish read .reading amends) =>
    match stripe hash read with
    | none => some (s.put n (.publish read .holding amends))
    | some k =>
      if (s.locks k).isSome then none
      else some (({ s with locks := Function.update s.locks k (some n) } : State).put n
        (.publish read .holding amends))
  | _ => none

def ask (s : State) (n : ℕ) : Option State :=
  match s.requests n with
  | some (.publish read .holding amends) =>
    match heldElsewhere s.store read with
    | none => some (s.put n (.publish read .asked amends))
    | some _ => some (s.finish n)
  | _ => none

/-- The record that was read is signed and replaces the stored row; an amendment goes on. -/
def write (s : State) (n : ℕ) (now : Int) : Option State :=
  match s.requests n with
  | some (.publish read .asked amends) =>
    if holds s.store read.id then
      let written : State := { s with store := revise s.store read.id fun _ => goLive now read }
      match amends with
      | none => some (written.finish n)
      | some predecessorId =>
        some ((written.unlock n).put n (.change predecessorId .superseded))
    else none
  | _ => none

def changeReads (s : State) (n : ℕ) (operation : Operation) (id : PassportId) : Option State :=
  match findById s.store id with
  | none => none
  | some p =>
    if p.status.canTransitionTo operation.target then s.start n (.change id operation.target)
    else none

def supersedeReads (s : State) (n : ℕ) (predecessorId successorId : PassportId) : Option State :=
  if predecessorId = successorId then none
  else
    match findById s.store predecessorId with
    | none => none
    | some predecessor => s.start n (.supersede predecessor successorId)

def readSuccessor (s : State) (n : ℕ) : Option State :=
  match s.requests n with
  | some (.supersede predecessor successorId) =>
    match findById s.store successorId with
    | none => none
    | some successor =>
      if successor.status ≠ .published then none
      else if !predecessor.status.canTransitionTo .superseded then none
      else if successor.supersedesId ≠ some predecessor.id then none
      else some (s.put n (.change predecessor.id .superseded))
  | _ => none

def commit (s : State) (n : ℕ) : Option State :=
  match s.requests n with
  | some (.change id target) =>
    match findById s.store id with
    | none => none
    | some row =>
      if row.status.canTransitionTo target then
        some (({ s with store := revise s.store id (withStatus target) } : State).finish n)
      else none
  | _ => none

def next (s : State) : Event → Option State
  | .create n body => createAsks s n body
  | .insert n id => insertDraft s n id
  | .update n id patch => updateReads s n id patch
  | .patch n => patchRow s n
  | .amend n id successorId patch => amendReads s n id successorId patch
  | .draft n => draftRow s n
  | .publishSuccessor n => publishSuccessorReads s n
  | .publish n id => publishReads s n id
  | .hold n => hold hash s n
  | .ask n => ask s n
  | .write n now => write s n now
  | .change n operation id => changeReads s n operation id
  | .supersede n predecessorId successorId => supersedeReads s n predecessorId successorId
  | .readSuccessor n => readSuccessor s n
  | .commit n => commit s n
  | .leave n => if (s.requests n).isSome then some (s.finish n) else none

end System

section Succession

/-- No two records that have been published name one predecessor. -/
def OneClaimant (store : Store) : Prop :=
  ∀ p ∈ store, ∀ q ∈ store, EverPublished p → EverPublished q →
    ∀ i, p.supersedesId = some i → q.supersedesId = some i → p = q

/-- Succession is a function on the records that have been published, it is defined on every
superseded record, and the lookup of a successor among them never meets two. -/
structure Functional (store : Store) : Prop where
  one : OneClaimant store
  superseded : ∀ p ∈ store, p.status = .superseded →
    ∃ q ∈ store, (EverPublished q ∧ q.supersedesId = some p.id) ∧
      ∀ r ∈ store, EverPublished r → r.supersedesId = some p.id → r = q
  found : ∀ i, ∃ r, findSuperseding (store.filter fun p => !p.neverPublished) i = .ok r

/-- The condition on a step, read on the state before it: a record goes live as the successor of a
passport that no other record which has been published names. -/
def ClaimsAlone (s : State) (e : Event) : Prop :=
  ∀ n now read amends, e = .write n now → s.requests n = some (.publish read .asked amends) →
    ∀ x ∈ s.store, x.id = read.id → ∀ i, x.supersedesId = some i →
      ∀ q ∈ s.store, EverPublished q → q.supersedesId = some i → q = x

def Request.Sound (store : Store) : Request → Prop
  | .create _ => True
  | .update _ _ => True
  | .amend predecessorId successor => successor.supersedesId = some predecessorId ∧
      successor.status = .draft ∧ successor.publishedAt = none
  | .amended predecessorId successorId =>
      ∃ x ∈ store, x.id = successorId ∧ x.supersedesId = some predecessorId
  | .publish read _ amends => (∃ x ∈ store, x.id = read.id ∧ x.supersedesId = read.supersedesId) ∧
      ∀ i ∈ amends, read.supersedesId = some i
  | .supersede _ _ => True
  | .change id target => target ≠ .published ∧
      (target = .superseded → ∃ q ∈ store, EverPublished q ∧ q.supersedesId = some id)

structure Invariant (s : State) : Prop where
  ids : (s.store.map Passport.id).Nodup
  stamped : ∀ p ∈ s.store, p.publishedAt.isSome = true ↔ EverPublished p
  claimed : ∀ p ∈ s.store, p.status = .superseded →
    ∃ q ∈ s.store, EverPublished q ∧ q.supersedesId = some p.id
  sound : ∀ n r, s.requests n = some r → r.Sound s.store

structure Keeps (store : Store) (x y : Passport) : Prop where
  id : y.id = x.id
  supersedesId : y.supersedesId = x.supersedesId
  published : EverPublished y ↔ EverPublished x
  stamped : y.publishedAt = x.publishedAt
  superseded : y.status = .superseded → x.status = .superseded ∨
    ∃ q ∈ store, EverPublished q ∧ q.supersedesId = some x.id

inductive Rows (s : State) (e : Event) : Store → Prop where
  | same (hother : ∀ n now, e ≠ .write n now) : Rows s e s.store
  | drafted (x : Passport) (hother : ∀ n now, e ≠ .write n now)
      (hfresh : ∀ p ∈ s.store, p.id ≠ x.id) (hdraft : x.status = .draft)
      (hstamp : x.publishedAt = none) : Rows s e (s.store ++ [x])
  | kept (id : PassportId) (f : Passport → Passport) (hother : ∀ n now, e ≠ .write n now)
      (hf : ∀ x ∈ s.store, x.id = id → Keeps s.store x (f x)) : Rows s e (revise s.store id f)
  | written (n : ℕ) (now : Int) (read : Passport) (amends : Option PassportId)
      (hwrite : e = .write n now) (hr : s.requests n = some (.publish read .asked amends)) :
      Rows s e (revise s.store read.id fun _ => goLive now read)

structure Steps (s : State) (e : Event) (u : State) : Prop where
  rows : Rows s e u.store
  requests : ∀ m r, u.requests m = some r → s.requests m = some r ∨ r.Sound u.store

end Succession

section Rows

variable {s u : State} {e : Event} {n m : ℕ} {r r' : Request} {store store' : Store}
  {p q x y : Passport} {id : PassportId} {f : Passport → Passport}

theorem mem_revise_iff : q ∈ revise store id f ↔
    (q ∈ store ∧ q.id ≠ id) ∨ ∃ p ∈ store, p.id = id ∧ f p = q := by
  simp only [revise, List.mem_map]
  constructor
  · rintro ⟨p, hp, rfl⟩
    by_cases hid : p.id = id
    · rw [if_pos hid]
      exact Or.inr ⟨p, hp, hid, rfl⟩
    · rw [if_neg hid]
      exact Or.inl ⟨hp, hid⟩
  · rintro (⟨hq, hid⟩ | ⟨p, hp, hid, rfl⟩)
    · exact ⟨q, hq, if_neg hid⟩
    · exact ⟨p, hp, if_pos hid⟩

theorem revise_ids (hf : ∀ p ∈ store, p.id = id → (f p).id = p.id) :
    (revise store id f).map Passport.id = store.map Passport.id := by
  rw [revise, List.map_map]
  apply List.map_congr_left
  intro p hp
  by_cases hid : p.id = id
  · simp only [Function.comp_apply, if_pos hid]
    exact hf p hp hid
  · simp only [Function.comp_apply, if_neg hid]

theorem Invariant.eq_of_id (h : Invariant s) (hp : p ∈ s.store) (hq : q ∈ s.store)
    (hid : p.id = q.id) : p = q :=
  List.inj_on_of_nodup_map h.ids hp hq hid

theorem goLive_published (now : Int) (p : Passport) : EverPublished (goLive now p) :=
  everPublished_of_published rfl

/-- The record that a publish writes takes the place of one that names the same predecessor. -/
theorem Invariant.read (h : Invariant s) {read : Passport} {phase : Phase}
    {amends : Option PassportId} (hr : s.requests n = some (.publish read phase amends)) :
    ∀ p ∈ s.store, p.id = read.id → p.supersedesId = read.supersedesId := by
  obtain ⟨⟨x, hx, hid, hsame⟩, -⟩ := h.sound n _ hr
  intro p hp hpid
  rw [h.eq_of_id hp hx (hpid.trans hid.symm)]
  exact hsame

/-- No row is lost, moves to another predecessor or stops having been published. -/
theorem Rows.image (h : Invariant s) (hrows : Rows s e store') (hp : p ∈ s.store) :
    ∃ p' ∈ store', p'.id = p.id ∧ p'.supersedesId = p.supersedesId ∧
      (EverPublished p → EverPublished p') := by
  cases hrows with
  | same hother => exact ⟨p, hp, rfl, rfl, fun hep => hep⟩
  | drafted x hother hfresh hdraft hstamp =>
    exact ⟨p, List.mem_append_left _ hp, rfl, rfl, fun hep => hep⟩
  | kept id f hother hf =>
    by_cases hid : p.id = id
    · have hkeeps := hf p hp hid
      exact ⟨f p, mem_revise_iff.mpr (Or.inr ⟨p, hp, hid, rfl⟩), hkeeps.id, hkeeps.supersedesId,
        hkeeps.published.mpr⟩
    · exact ⟨p, mem_revise_iff.mpr (Or.inl ⟨hp, hid⟩), rfl, rfl, fun hep => hep⟩
  | written n now read amends hwrite hr =>
    by_cases hid : p.id = read.id
    · refine ⟨goLive now read, mem_revise_iff.mpr (Or.inr ⟨p, hp, hid, rfl⟩), hid.symm, ?_, ?_⟩
      · exact (h.read hr p hp hid).symm
      · exact fun _ => goLive_published now read
    · exact ⟨p, mem_revise_iff.mpr (Or.inl ⟨hp, hid⟩), rfl, rfl, fun hep => hep⟩

theorem Rows.origin (hother : ∀ n now, e ≠ .write n now) (hrows : Rows s e store')
    (hq : q ∈ store') (hep : EverPublished q) :
    ∃ p ∈ s.store, p.id = q.id ∧ p.supersedesId = q.supersedesId ∧ EverPublished p := by
  cases hrows with
  | same _ => exact ⟨q, hq, rfl, rfl, hep⟩
  | drafted x _ hfresh hdraft hstamp =>
    rcases mem_concat.mp hq with hq | rfl
    · exact ⟨q, hq, rfl, rfl, hep⟩
    · exact absurd hep (not_everPublished_of_draft hdraft)
  | kept id f _ hf =>
    rcases mem_revise_iff.mp hq with ⟨hq, -⟩ | ⟨p, hp, hid, rfl⟩
    · exact ⟨q, hq, rfl, rfl, hep⟩
    · have hkeeps := hf p hp hid
      exact ⟨p, hp, hkeeps.id.symm, hkeeps.supersedesId.symm, hkeeps.published.mp hep⟩
  | written n now read amends hwrite hr => exact absurd hwrite (hother n now)

theorem Rows.ids (h : Invariant s) (hrows : Rows s e store') :
    (store'.map Passport.id).Nodup := by
  cases hrows with
  | same _ => exact h.ids
  | drafted x _ hfresh _ _ => exact concat_nodup h.ids hfresh
  | kept id f _ hf =>
    rw [revise_ids fun p hp hid => (hf p hp hid).id]
    exact h.ids
  | written n now read amends hwrite hr =>
    rw [revise_ids]
    · exact h.ids
    · exact fun p hp hid => hid.symm

theorem Rows.stamped (h : Invariant s) (hrows : Rows s e store') :
    ∀ q ∈ store', q.publishedAt.isSome = true ↔ EverPublished q := by
  intro q hq
  cases hrows with
  | same _ => exact h.stamped q hq
  | drafted x _ hfresh hdraft hstamp =>
    rcases mem_concat.mp hq with hq | rfl
    · exact h.stamped q hq
    · rw [hstamp]
      exact iff_of_false (by simp) (not_everPublished_of_draft hdraft)
  | kept id f _ hf =>
    rcases mem_revise_iff.mp hq with ⟨hq, -⟩ | ⟨p, hp, hid, rfl⟩
    · exact h.stamped q hq
    · have hkeeps := hf p hp hid
      rw [hkeeps.stamped, hkeeps.published]
      exact h.stamped p hp
  | written n now read amends hwrite hr =>
    rcases mem_revise_iff.mp hq with ⟨hq, -⟩ | ⟨p, hp, hid, rfl⟩
    · exact h.stamped q hq
    · exact iff_of_true rfl (goLive_published now read)

theorem Rows.claimed (h : Invariant s) (hrows : Rows s e store') :
    ∀ q ∈ store', q.status = .superseded →
      ∃ r ∈ store', EverPublished r ∧ r.supersedesId = some q.id := by
  have hcarried : ∀ i, (∃ r ∈ s.store, EverPublished r ∧ r.supersedesId = some i) →
      ∃ r ∈ store', EverPublished r ∧ r.supersedesId = some i := by
    rintro i ⟨r, hr, hep, hclaim⟩
    obtain ⟨r', hr', -, hsame, hpublished⟩ := hrows.image h hr
    exact ⟨r', hr', hpublished hep, hsame.trans hclaim⟩
  intro q hq hsuper
  apply hcarried
  cases hrows with
  | same _ => exact h.claimed q hq hsuper
  | drafted x _ hfresh hdraft hstamp =>
    rcases mem_concat.mp hq with hq | rfl
    · exact h.claimed q hq hsuper
    · cases hdraft.symm.trans hsuper
  | kept id f _ hf =>
    rcases mem_revise_iff.mp hq with ⟨hq, -⟩ | ⟨p, hp, hid, rfl⟩
    · exact h.claimed q hq hsuper
    · have hkeeps := hf p hp hid
      rw [hkeeps.id]
      rcases hkeeps.superseded hsuper with hsuper | hclaim
      · exact h.claimed p hp hsuper
      · exact hclaim
  | written n now read amends hwrite hr =>
    rcases mem_revise_iff.mp hq with ⟨hq, -⟩ | ⟨p, hp, hid, rfl⟩
    · exact h.claimed q hq hsuper
    · cases hsuper

theorem Request.Sound.carried (hr : r.Sound store)
    (himage : ∀ p ∈ store, ∃ p' ∈ store', p'.id = p.id ∧ p'.supersedesId = p.supersedesId ∧
      (EverPublished p → EverPublished p')) : r.Sound store' := by
  cases r with
  | create body => trivial
  | update id patch => trivial
  | amend predecessorId successor => exact hr
  | amended predecessorId successorId =>
    obtain ⟨x, hx, hid, hclaim⟩ := hr
    obtain ⟨x', hx', hid', hsame, -⟩ := himage x hx
    exact ⟨x', hx', hid'.trans hid, hsame.trans hclaim⟩
  | publish read phase amends =>
    obtain ⟨⟨x, hx, hid, hclaim⟩, hamends⟩ := hr
    obtain ⟨x', hx', hid', hsame, -⟩ := himage x hx
    exact ⟨⟨x', hx', hid'.trans hid, hsame.trans hclaim⟩, hamends⟩
  | supersede predecessor successorId => trivial
  | change id target =>
    refine ⟨hr.1, fun hsuper => ?_⟩
    obtain ⟨q, hq, hep, hclaim⟩ := hr.2 hsuper
    obtain ⟨q', hq', -, hsame, hpublished⟩ := himage q hq
    exact ⟨q', hq', hpublished hep, hsame.trans hclaim⟩

theorem Steps.invariant (h : Invariant s) (hsteps : Steps s e u) : Invariant u where
  ids := hsteps.rows.ids h
  stamped := hsteps.rows.stamped h
  claimed := hsteps.rows.claimed h
  sound := by
    intro m r hr
    rcases hsteps.requests m r hr with hr | hr
    · exact (h.sound m r hr).carried fun p hp => hsteps.rows.image h hp
    · exact hr

theorem initial_invariant : Invariant initial := by
  constructor
  · exact List.nodup_nil
  · simp [initial]
  · simp [initial]
  · simp [initial]

end Rows

section Requests

variable {s u : State} {e : Event} {n m : ℕ} {r r' : Request} {store' : Store}
  {p q x : Passport} {id : PassportId}

theorem put_requests (h : (s.put n r).requests m = some r') :
    s.requests m = some r' ∨ r' = r := by
  by_cases hm : m = n
  · subst hm
    simp only [State.put, Function.update_self] at h
    exact Or.inr (Option.some.inj h).symm
  · simp only [State.put, Function.update_of_ne hm] at h
    exact Or.inl h

theorem finish_requests (h : (s.finish n).requests m = some r) : s.requests m = some r := by
  by_cases hm : m = n
  · subst hm
    simp only [State.finish, Function.update_self] at h
    cases h
  · simp only [State.finish, Function.update_of_ne hm] at h
    exact h

theorem steps_put (hother : ∀ n now, e ≠ .write n now) (hr : r.Sound s.store) :
    Steps s e (s.put n r) where
  rows := .same hother
  requests m r' hr' := by
    rcases put_requests hr' with hr' | rfl
    · exact Or.inl hr'
    · exact Or.inr hr

theorem steps_start (hother : ∀ n now, e ≠ .write n now) (h : s.start n r = some u)
    (hr : r.Sound s.store) : Steps s e u := by
  simp only [State.start] at h
  split at h
  · cases h
  · cases h
    exact steps_put hother hr

theorem steps_finish (hrows : Rows s e store') :
    Steps s e (({ s with store := store' } : State).finish n) where
  rows := hrows
  requests _ _ hr := Or.inl (finish_requests hr)

theorem insertDraft_steps (h : insertDraft s n id = some u) : Steps s (.insert n id) u := by
  simp only [insertDraft] at h
  split at h
  · split at h
    · cases h
    · rename_i body _ hheld
      split at h
      · cases h
      · cases h
        have hfresh : ∀ p ∈ s.store, p.id ≠ id := holds_eq_false.mp (eq_false_of_ne_true hheld)
        exact steps_finish (.drafted (newDraft id body) nofun hfresh rfl rfl)
  · cases h

theorem updateReads_steps {patch : Patch} (h : updateReads s n id patch = some u) :
    Steps s (.update n id patch) u := by
  simp only [updateReads] at h
  split at h
  · cases h
  · split at h
    · exact steps_start nofun h trivial
    · cases h

theorem patchRow_steps (h : patchRow s n = some u) : Steps s (.patch n) u := by
  simp only [patchRow] at h
  split at h
  · rename_i id patch _
    split at h
    · cases h
      exact steps_finish (.kept id (patched patch) nofun fun x _ _ =>
        ⟨rfl, rfl, Iff.rfl, rfl, fun hsuper => Or.inl hsuper⟩)
    · cases h
  · cases h

theorem draftSuccessor_claims {successorId : PassportId} {patch : Patch}
    (h : draftSuccessor p successorId patch = some x) :
    x.supersedesId = some p.id ∧ x.status = .draft ∧ x.publishedAt = none := by
  simp only [draftSuccessor, applyPatch] at h
  split at h
  · cases h
  · cases h
    exact ⟨rfl, rfl, rfl⟩

theorem amendReads_steps {successorId : PassportId} {patch : Patch}
    (h : amendReads s n id successorId patch = some u) :
    Steps s (.amend n id successorId patch) u := by
  simp only [amendReads] at h
  split at h
  · cases h
  · split at h
    · split at h
      · cases h
      · rename_i hsuccessor
        exact steps_start nofun h (draftSuccessor_claims hsuccessor)
    · cases h

theorem draftRow_steps (hi : Invariant s) (h : draftRow s n = some u) : Steps s (.draft n) u := by
  simp only [draftRow] at h
  split at h
  · rename_i predecessorId successor hr
    obtain ⟨hclaim, hdraft, hstamp⟩ := hi.sound n _ hr
    split at h
    · cases h
    · rename_i hheld
      cases h
      have hfresh : ∀ p ∈ s.store, p.id ≠ successor.id :=
        holds_eq_false.mp (eq_false_of_ne_true hheld)
      refine ⟨.drafted successor nofun hfresh hdraft hstamp, ?_⟩
      intro m r hr'
      rcases put_requests hr' with hr' | rfl
      · exact Or.inl hr'
      · exact Or.inr ⟨successor, mem_concat.mpr (Or.inr rfl), rfl, hclaim⟩
  · cases h

theorem publishSuccessorReads_steps (hi : Invariant s) (h : publishSuccessorReads s n = some u) :
    Steps s (.publishSuccessor n) u := by
  simp only [publishSuccessorReads] at h
  split at h
  · rename_i predecessorId successorId hr
    obtain ⟨x, hx, hid, hclaim⟩ := hi.sound n _ hr
    split at h
    · cases h
    · rename_i p hfind
      obtain ⟨hp, hpid⟩ := findById_some hfind
      split at h
      · cases h
        refine steps_put nofun ⟨⟨p, hp, rfl, rfl⟩, ?_⟩
        rintro _ ⟨⟩
        rw [hi.eq_of_id hp hx (hpid.trans hid.symm)]
        exact hclaim
      · cases h
  · cases h

theorem publishReads_steps (h : publishReads s n id = some u) : Steps s (.publish n id) u := by
  simp only [publishReads] at h
  split at h
  · cases h
  · rename_i p hfind
    split at h
    · exact steps_start nofun h ⟨⟨p, (findById_some hfind).1, rfl, rfl⟩, nofun⟩
    · cases h

theorem hold_steps {hash : String → ℕ} (hi : Invariant s) (h : hold hash s n = some u) :
    Steps s (.hold n) u := by
  simp only [hold] at h
  split at h
  · rename_i read amends hr
    have hread : (Request.publish read .holding amends).Sound s.store :=
      hi.sound n (.publish read .reading amends) hr
    split at h
    · cases h
      exact steps_put nofun hread
    · split at h
      · cases h
      · cases h
        refine ⟨.same nofun, ?_⟩
        intro m r hr'
        rcases put_requests hr' with hr' | rfl
        · exact Or.inl hr'
        · exact Or.inr hread
  · cases h

theorem ask_steps (hi : Invariant s) (h : ask s n = some u) : Steps s (.ask n) u := by
  simp only [ask] at h
  split at h
  · rename_i read amends hr
    have hread : (Request.publish read .asked amends).Sound s.store :=
      hi.sound n (.publish read .holding amends) hr
    split at h
    · cases h
      exact steps_put nofun hread
    · cases h
      exact steps_finish (.same nofun)
  · cases h

/-- What a publish's write does: the record that was read is there, and replaces the row. -/
theorem write_some {now : Int} (h : write s n now = some u) :
    ∃ read amends, s.requests n = some (.publish read .asked amends) ∧
      (∃ p ∈ s.store, p.id = read.id) ∧
      u.store = (revise s.store read.id fun _ => goLive now read) ∧
      ∀ m r, u.requests m = some r → s.requests m = some r ∨
        ∃ i, amends = some i ∧ r = .change i .superseded := by
  simp only [write] at h
  split at h
  · rename_i read amends hr
    split at h
    · rename_i hheld
      have hthere : ∃ p ∈ s.store, p.id = read.id := by
        simpa [AmendedLabels.holds] using hheld
      refine ⟨read, amends, hr, hthere, ?_⟩
      cases amends with
      | none =>
        cases h
        exact ⟨rfl, fun m r hr' => Or.inl (finish_requests hr')⟩
      | some i =>
        cases h
        refine ⟨rfl, ?_⟩
        intro m r hr'
        rcases put_requests hr' with hr' | rfl
        · exact Or.inl hr'
        · exact Or.inr ⟨i, rfl, rfl⟩
    · cases h
  · cases h

theorem write_steps {now : Int} (hi : Invariant s) (h : write s n now = some u) :
    Steps s (.write n now) u := by
  obtain ⟨read, amends, hr, ⟨p, hp, hid⟩, hstore, hrequests⟩ := write_some h
  constructor
  · rw [hstore]
    exact .written n now read amends rfl hr
  · intro m r hr'
    rcases hrequests m r hr' with hr' | ⟨i, hamends, rfl⟩
    · exact Or.inl hr'
    · refine Or.inr ⟨nofun, fun _ => ⟨goLive now read, ?_, goLive_published now read, ?_⟩⟩
      · rw [hstore]
        exact mem_revise_iff.mpr (Or.inr ⟨p, hp, hid, rfl⟩)
      · exact (hi.sound n _ hr).2 i hamends

theorem changeReads_steps {operation : Operation} (h : changeReads s n operation id = some u) :
    Steps s (.change n operation id) u := by
  simp only [changeReads] at h
  split at h
  · cases h
  · split at h
    · refine steps_start nofun h ⟨?_, ?_⟩
      · cases operation <;> decide
      · intro hsuper
        cases operation <;> cases hsuper
    · cases h

theorem supersedeReads_steps {predecessorId successorId : PassportId}
    (h : supersedeReads s n predecessorId successorId = some u) :
    Steps s (.supersede n predecessorId successorId) u := by
  simp only [supersedeReads] at h
  split at h
  · cases h
  · split at h
    · cases h
    · exact steps_start nofun h trivial

theorem readSuccessor_steps (h : readSuccessor s n = some u) : Steps s (.readSuccessor n) u := by
  simp only [readSuccessor] at h
  split at h
  · split at h
    · cases h
    · rename_i successor hfind
      split at h
      · cases h
      · rename_i hpublished
        split at h
        · cases h
        · split at h
          · cases h
          · rename_i hclaim
            cases h
            refine steps_put nofun ⟨nofun, fun _ => ⟨successor, (findById_some hfind).1, ?_, ?_⟩⟩
            · exact everPublished_of_published (of_not_not hpublished)
            · exact of_not_not hclaim
  · cases h

theorem commit_steps (hi : Invariant s) (h : commit s n = some u) : Steps s (.commit n) u := by
  simp only [commit] at h
  split at h
  · rename_i id target hr
    obtain ⟨htarget, hclaim⟩ := hi.sound n _ hr
    split at h
    · cases h
    · rename_i row hfind
      obtain ⟨hrow, hid⟩ := findById_some hfind
      split at h
      · rename_i hcan
        cases h
        refine steps_finish (.kept id (withStatus target) nofun fun x hx hxid => ?_)
        obtain rfl : x = row := hi.eq_of_id hx hrow (hxid.trans hid.symm)
        have hpublished := LabelClaims.everPublished_withStatus (hi.stamped x hx) hcan htarget
        refine ⟨rfl, rfl, hpublished, rfl, fun hsuper => Or.inr ?_⟩
        rw [hxid]
        exact hclaim hsuper
      · cases h
  · cases h

theorem next_steps {hash : String → ℕ} (hi : Invariant s) (h : next hash s e = some u) :
    Steps s e u := by
  cases e with
  | create n body =>
    simp only [next, createAsks] at h
    split at h
    · cases h
    · exact steps_start nofun h trivial
  | insert n id => exact insertDraft_steps h
  | update n id patch => exact updateReads_steps h
  | patch n => exact patchRow_steps h
  | amend n id successorId patch => exact amendReads_steps h
  | draft n => exact draftRow_steps hi h
  | publishSuccessor n => exact publishSuccessorReads_steps hi h
  | publish n id => exact publishReads_steps h
  | hold n => exact hold_steps hi h
  | ask n => exact ask_steps hi h
  | write n now => exact write_steps hi h
  | change n operation id => exact changeReads_steps h
  | supersede n predecessorId successorId => exact supersedeReads_steps h
  | readSuccessor n => exact readSuccessor_steps h
  | commit n => exact commit_steps hi h
  | leave n =>
    simp only [next] at h
    split at h
    · cases h
      exact steps_finish (.same nofun)
    · cases h

end Requests

section Runs

variable {hash : String → ℕ} {s u : State} {e : Event} {store : Store} {i : PassportId}

/-- Among published records, one claimant is all the lookup of a successor needs. -/
theorem findSuperseding_ok (hids : (store.map Passport.id).Nodup) (hone : OneClaimant store) :
    ∃ r, findSuperseding (store.filter fun p => !p.neverPublished) i = .ok r := by
  have hclaim : ∀ q ∈ ((store.filter fun p => !p.neverPublished).filter fun p =>
      p.supersedesId = some i), q ∈ store ∧ EverPublished q ∧ q.supersedesId = some i := by
    intro q hq
    obtain ⟨hq, hsame⟩ := List.mem_filter.mp hq
    obtain ⟨hq, hep⟩ := List.mem_filter.mp hq
    exact ⟨hq, by simpa [EverPublished] using hep, of_decide_eq_true hsame⟩
  have hnodup := ((hids.of_map _).filter (fun p => !p.neverPublished)).filter
    fun p => p.supersedesId = some i
  simp only [findSuperseding]
  cases hfound : (store.filter fun p => !p.neverPublished).filter fun p =>
      p.supersedesId = some i with
  | nil => exact ⟨none, rfl⟩
  | cons p rest =>
    cases rest with
    | nil => exact ⟨some p, rfl⟩
    | cons q rest =>
      rw [hfound] at hclaim hnodup
      obtain ⟨hp, hpep, hpclaim⟩ := hclaim p List.mem_cons_self
      obtain ⟨hq, hqep, hqclaim⟩ := hclaim q (List.mem_cons_of_mem _ List.mem_cons_self)
      have hsame := hone p hp q hq hpep hqep i hpclaim hqclaim
      rw [hsame] at hnodup
      exact absurd List.mem_cons_self (List.nodup_cons.mp hnodup).1

theorem functional_iff (h : Invariant s) : Functional s.store ↔ OneClaimant s.store := by
  constructor
  · exact Functional.one
  · intro hone
    refine ⟨hone, ?_, fun i => findSuperseding_ok h.ids hone⟩
    intro p hp hsuper
    obtain ⟨q, hq, hep, hclaim⟩ := h.claimed p hp hsuper
    exact ⟨q, hq, ⟨hep, hclaim⟩, fun r hr hrep hrclaim => hone r hr q hq hrep hep _ hrclaim hclaim⟩

/-- A step other than a publish's write keeps succession a function. -/
theorem oneClaimant_of_origin (hu : Invariant u) (hone : OneClaimant s.store)
    (horigin : ∀ q ∈ u.store, EverPublished q →
      ∃ p ∈ s.store, p.id = q.id ∧ p.supersedesId = q.supersedesId ∧ EverPublished p) :
    OneClaimant u.store := by
  intro p hp q hq hpep hqep i hpclaim hqclaim
  obtain ⟨p', hp', hpid, hpsame, hpep'⟩ := horigin p hp hpep
  obtain ⟨q', hq', hqid, hqsame, hqep'⟩ := horigin q hq hqep
  have hsame := hone p' hp' q' hq' hpep' hqep' i (hpsame.trans hpclaim) (hqsame.trans hqclaim)
  apply hu.eq_of_id hp hq
  rw [← hpid, ← hqid, hsame]

theorem step_oneClaimant (hi : Invariant s) (hone : OneClaimant s.store)
    (h : next hash s e = some u) : OneClaimant u.store ↔ ClaimsAlone s e := by
  have hsteps := next_steps hi h
  by_cases hwrite : ∃ n now, e = .write n now
  · obtain ⟨n, now, rfl⟩ := hwrite
    obtain ⟨read, amends, hr, ⟨x, hx, hxid⟩, hstore, -⟩ := write_some h
    have hlive := goLive_published now read
    have hread : goLive now read ∈ u.store := by
      rw [hstore]
      exact mem_revise_iff.mpr (Or.inr ⟨x, hx, hxid, rfl⟩)
    constructor
    · intro hone' n' now' read' amends' heq hr' y hy hyid i hclaim q hq hep hqclaim
      cases heq
      cases hr.symm.trans hr'
      apply hi.eq_of_id hq hy
      by_contra hne
      have hq' : q ∈ u.store := by
        rw [hstore]
        exact mem_revise_iff.mpr (Or.inl ⟨hq, fun hid => hne (hid.trans hyid.symm)⟩)
      have hlived : (goLive now read).supersedesId = some i :=
        (hi.read hr y hy hyid).symm.trans hclaim
      have hsame := hone' q hq' (goLive now read) hread hep hlive i hqclaim hlived
      exact hne ((congrArg Passport.id hsame).trans hyid.symm)
    · intro halone p hp q hq hpep hqep i hpclaim hqclaim
      have hrows : ∀ r ∈ u.store, r = goLive now read ∨ r ∈ s.store ∧ r.id ≠ read.id := by
        intro r hr
        rw [hstore] at hr
        rcases mem_revise_iff.mp hr with hr | ⟨-, -, -, rfl⟩
        · exact Or.inr hr
        · exact Or.inl rfl
      have halone' : ∀ i, read.supersedesId = some i → ∀ q ∈ s.store, EverPublished q →
          q.supersedesId = some i → q.id = read.id := by
        intro i hclaim q hq hep hqclaim
        have hsame := (hi.read hr x hx hxid).trans hclaim
        rw [halone n now read amends rfl hr x hx hxid i hsame q hq hep hqclaim]
        exact hxid
      rcases hrows p hp with rfl | ⟨hp, hpid⟩ <;> rcases hrows q hq with rfl | ⟨hq, hqid⟩
      · rfl
      · exact absurd (halone' i hpclaim q hq hqep hqclaim) hqid
      · exact absurd (halone' i hqclaim p hp hpep hpclaim) hpid
      · exact hone p hp q hq hpep hqep i hpclaim hqclaim
  · have hother : ∀ n now, e ≠ .write n now := fun n now heq => hwrite ⟨n, now, heq⟩
    refine iff_of_true ?_ ?_
    · apply oneClaimant_of_origin (hsteps.invariant hi) hone
      exact fun q hq hep => hsteps.rows.origin hother hq hep
    · intro n now read amends heq
      exact absurd heq (hother n now)

/-- Succession is a function in every state of a run exactly when no record goes live beside
another published record that names the same predecessor. -/
theorem succession_functional_iff (hash : String → ℕ) (es : List Event) :
    (∀ before after s, es = before ++ after → run (next hash) initial before = some s →
      Functional s.store) ↔ Along (next hash) ClaimsAlone initial es := by
  have hinitial : Functional initial.store :=
    (functional_iff initial_invariant).mpr fun p hp => absurd hp List.not_mem_nil
  refine states_iff_along (P := fun s => Functional s.store) hinitial initial_invariant
    (fun t e v hi hnext => (next_steps hi hnext).invariant hi) ?_ ?_
  · intro t e v hi hfunctional hnext
    rw [functional_iff ((next_steps hi hnext).invariant hi)]
    exact step_oneClaimant hi hfunctional.one hnext
  · intro t e hnone n now read amends heq hr x hx hxid
    subst heq
    have hheld : AmendedLabels.holds t.store read.id = true :=
      List.any_eq_true.mpr ⟨x, hx, decide_eq_true hxid⟩
    cases amends <;> simp [next, write, hr, hheld] at hnone

def published (id : PassportId) (body : NewPassport) (now : Int) : List Event :=
  [.create 0 body, .insert 0 id, .publish 0 id, .hold 0, .ask 0, .write 0 now]

def replacing (serial : String) : NewPassport :=
  { sampleBody with carrierSerial := some serial, supersedesId := some 1 }

/-- Two passports are published as the successor of the first. -/
def forked : List Event :=
  published 1 sampleBody 100 ++ published 2 (replacing "SN-2") 200 ++
    published 3 (replacing "SN-3") 300

theorem two_published_successors :
    ¬ ∀ (hash : String → ℕ) (es : List Event) (s : State),
      run (next hash) initial es = some s → Functional s.store := by
  intro h
  have hstore : (run (next String.length) initial forked).map State.store =
      some [goLive 100 (newDraft 1 sampleBody), goLive 200 (newDraft 2 (replacing "SN-2")),
        goLive 300 (newDraft 3 (replacing "SN-3"))] := by decide +kernel
  obtain ⟨s, hrun, hs⟩ := Option.map_eq_some_iff.mp hstore
  have hone := (h String.length forked s hrun).one
  rw [hs] at hone
  have hsame := hone (goLive 200 (newDraft 2 (replacing "SN-2"))) (by simp)
    (goLive 300 (newDraft 3 (replacing "SN-3"))) (by simp) (goLive_published _ _)
    (goLive_published _ _) 1 rfl rfl
  exact absurd (congrArg Passport.id hsame) (by decide)

end Runs

end PredecessorClaims
