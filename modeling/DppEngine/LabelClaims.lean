import DppEngine.AmendedLabels
import DppEngine.ChainHeads
import DppEngine.PublicDoors
import Mathlib.Data.Finset.Max

/-! Publishing under the label lock, beside every other lifecycle request.

A publish reads the passport, takes the lock its claim falls under, asks who else holds
the claim, and writes the record it read over whatever is stored. A create asks for its
serial and inserts later; a status change is checked on its own read and again on the
stored row. Any two steps of different requests may come in either order. -/
namespace LabelClaims

open PassportModel (PassportStatus PassportId DppError)
open PrintedLabels AmendedLabels TransitionSystems

section System

inductive Phase where
  | reading | holding | asked
  deriving DecidableEq, Repr

/-- What a request has done so far, with the rows it has read. -/
inductive Request where
  | create (body : NewPassport)
  | publish (read : Passport) (phase : Phase)
  | supersede (predecessor : Passport) (successorId : PassportId)
  | change (id : PassportId) (target : PassportStatus)
  deriving DecidableEq, Repr

inductive Operation where
  | suspend | retire | declareEol
  deriving DecidableEq, Repr

def Operation.target : Operation → PassportStatus
  | .suspend => .suspended
  | .retire => .retired
  | .declareEol => .deactivated

structure State where
  store : Store
  requests : ℕ → Option Request
  locks : ℕ → Option ℕ

/-- One step of request `n`. `leave` is a request that ends early: a gate refuses it, its
signing or its write fails, or its caller goes away. -/
inductive Event where
  | create (n : ℕ) (body : NewPassport)
  | insert (n : ℕ) (id : PassportId)
  | publish (n : ℕ) (id : PassportId)
  | hold (n : ℕ)
  | ask (n : ℕ)
  | write (n : ℕ) (now : Int)
  | change (n : ℕ) (operation : Operation) (id : PassportId)
  | supersede (n : ℕ) (predecessorId successorId : PassportId)
  | readSuccessor (n : ℕ)
  | commit (n : ℕ)
  | leave (n : ℕ)
  deriving DecidableEq, Repr

def stripes : ℕ := 64

variable (hash : String → ℕ)

def stripe (p : Passport) : Option ℕ := (Claim.of p).map fun claim => hash claim.key % stripes

def initial : State := ⟨[], fun _ => none, fun _ => none⟩

def State.put (s : State) (n : ℕ) (r : Request) : State :=
  { s with requests := Function.update s.requests n (some r) }

def State.finish (s : State) (n : ℕ) : State :=
  { s with
    requests := Function.update s.requests n none
    locks := fun k => if s.locks k = some n then none else s.locks k }

def State.start (s : State) (n : ℕ) (r : Request) : Option State :=
  if (s.requests n).isSome then none else some (s.put n r)

def createAsks (s : State) (n : ℕ) (body : NewPassport) : Option State :=
  if carrierSerialConflict s.store body then none else s.start n (.create body)

/-- The row is inserted when its key is new and its foreign key good. -/
def insertDraft (s : State) (n : ℕ) (id : PassportId) : Option State :=
  match s.requests n with
  | some (.create body) =>
    if holds s.store id then none
    else if body.supersedesId.any fun i => !holds s.store i then none
    else some (({ s with store := s.store ++ [newDraft id body] } : State).finish n)
  | _ => none

def publishReads (s : State) (n : ℕ) (id : PassportId) : Option State :=
  match findById s.store id with
  | none => none
  | some p =>
    if p.status.canTransitionTo .published then s.start n (.publish p .reading) else none

def hold (s : State) (n : ℕ) : Option State :=
  match s.requests n with
  | some (.publish read .reading) =>
    match stripe hash read with
    | none => some (s.put n (.publish read .holding))
    | some k =>
      if (s.locks k).isSome then none
      else some (({ s with locks := Function.update s.locks k (some n) } : State).put n
        (.publish read .holding))
  | _ => none

def ask (s : State) (n : ℕ) : Option State :=
  match s.requests n with
  | some (.publish read .holding) =>
    match heldElsewhere s.store read with
    | none => some (s.put n (.publish read .asked))
    | some _ => some (s.finish n)
  | _ => none

/-- The record that was read is signed and replaces the stored row, whose status is not
looked at again. -/
def write (s : State) (n : ℕ) (now : Int) : Option State :=
  match s.requests n with
  | some (.publish read .asked) =>
    if holds s.store read.id then
      some (({ s with store := revise s.store read.id fun _ => goLive now read } : State).finish n)
    else none
  | _ => none

def changeReads (s : State) (n : ℕ) (operation : Operation) (id : PassportId) : Option State :=
  match findById s.store id with
  | none => none
  | some p =>
    if p.status.canTransitionTo operation.target then s.start n (.change id operation.target)
    else none

def supersedeReads (s : State) (n : ℕ) (predecessorId successorId : PassportId) : Option State :=
  if predecessorId = successorId then none
  else
    match findById s.store predecessorId with
    | none => none
    | some predecessor => s.start n (.supersede predecessor successorId)

def readSuccessor (s : State) (n : ℕ) : Option State :=
  match s.requests n with
  | some (.supersede predecessor successorId) =>
    match findById s.store successorId with
    | none => none
    | some successor =>
      if successor.status ≠ .published then none
      else if !predecessor.status.canTransitionTo .superseded then none
      else if successor.supersedesId ≠ some predecessor.id then none
      else some (s.put n (.change predecessor.id .superseded))
  | _ => none

/-- The stored status has the last word. -/
def commit (s : State) (n : ℕ) : Option State :=
  match s.requests n with
  | some (.change id target) =>
    match findById s.store id with
    | none => none
    | some row =>
      if row.status.canTransitionTo target then
        some (({ s with store := revise s.store id (withStatus target) } : State).finish n)
      else none
  | _ => none

def next (s : State) : Event → Option State
  | .create n body => createAsks s n body
  | .insert n id => insertDraft s n id
  | .publish n id => publishReads s n id
  | .hold n => hold hash s n
  | .ask n => ask s n
  | .write n now => write s n now
  | .change n operation id => changeReads s n operation id
  | .supersede n predecessorId successorId => supersedeReads s n predecessorId successorId
  | .readSuccessor n => readSuccessor s n
  | .commit n => commit s n
  | .leave n => if (s.requests n).isSome then some (s.finish n) else none

end System

section Conditions

variable (store : Store)

def Live (p : Passport) : Prop := EverPublished p ∧ p.status ≠ .superseded

def predecessor (i : PassportId) : Option PassportId :=
  (findById store i).bind Passport.supersedesId

def behind : Set PassportId := { i | ∃ p ∈ store, p.id = i ∧ p.status = .superseded }

def named (label : String × CarrierQualifier) : Set PassportId :=
  { i | ∃ p ∈ store, p.id = i ∧ EverPublished p ∧ labelNames label p = true }

def Prints (label : String × CarrierQualifier) (p : Passport) : Prop :=
  Live p ∧ p.printedLabel = some label

/-- `r` heads what the label leads to, leaving out what it leads to by way of `x`. -/
def Heads (label : String × CarrierQualifier) (x r : Passport) : Prop :=
  r ∈ store ∧ ChainHeads.Head (predecessor store)
    (ChainHeads.Beside (predecessor store) (behind store) (named store label) x.id) r.id

/-- Both records print the same label, so that the publish of one asks about the other. -/
def SameLabel (x r : Passport) : Prop := ∃ label, x.printedLabel = some label ∧
  r.printedLabel = some label

/-- `x` takes its place at a label that leads to it: each head of the label's answers is
tied to `x` by `supersedesId` or prints the label `x` prints; or the record `x` names
answers the label, and the heads that do not name `x` are one. -/
def TakesItsPlace (label : String × CarrierQualifier) (x : Passport) : Prop :=
  (∀ r, Heads store label x r → x.supersedesId = some r.id ∨ r.supersedesId = some x.id ∨
      SameLabel x r) ∨
    (∃ i, x.supersedesId = some i ∧
      ChainHeads.Beside (predecessor store) (behind store) (named store label) x.id i) ∧
      ∀ r t, Heads store label x r → Heads store label x t → r.supersedesId ≠ some x.id →
        t.supersedesId ≠ some x.id → r = t

/-- The label names `x`, or a superseded record that leads to `x`. -/
def LeadsTo (label : String × CarrierQualifier) (x : Passport) : Prop :=
  labelNames label x = true ∨ ∃ i ∈ named store label,
    ChainHeads.Passes (predecessor store) (behind store) i x.id

end Conditions

/-- The condition on a step, read on the state before it. A publish that makes a passport
answer takes its place at every label that leads to it, its own and those live passports
print; a passport that is superseded, and the one it names, do not both answer a label
another live passport prints. -/
def KeepsNames (s : State) : Event → Prop
  | .write n _ => ∀ read, s.requests n = some (.publish read .asked) → ∀ x ∈ s.store,
      x.id = read.id → ¬Live x → ∀ label, LeadsTo s.store label x →
        (x.printedLabel = some label ∨ ∃ p ∈ s.store, Prints label p) →
        TakesItsPlace s.store label x
  | .commit n => ∀ id, s.requests n = some (.change id .superseded) → ∀ label,
      (∃ p ∈ s.store, p.id ≠ id ∧ Prints label p) → ∀ i, predecessor s.store id = some i →
        ¬(ChainHeads.Answers (predecessor s.store) (behind s.store) (named s.store label) id ∧
          ChainHeads.Answers (predecessor s.store) (behind s.store) (named s.store label) i)
  | _ => True

structure Orderly (store : Store) : Prop where
  ids : (store.map Passport.id).Nodup
  refs : ∀ q ∈ store, ∀ i, q.supersedesId = some i → ∃ p ∈ store, p.id = i
  ranked : ∃ rank : PassportId → ℕ, ∀ q ∈ store, ∀ i, q.supersedesId = some i → rank i < rank q.id
  stamped : ∀ p ∈ store, p.publishedAt.isSome = true ↔ EverPublished p
  claimed : ∀ p ∈ store, p.status = .superseded →
    ∃ q ∈ store, EverPublished q ∧ q.supersedesId = some p.id

section Views

variable {store : Store} {p q : Passport} {i j : PassportId} {label : String × CarrierQualifier}

theorem findById_of_mem (hids : (store.map Passport.id).Nodup) (hp : p ∈ store) :
    findById store p.id = some p := by
  cases hfind : findById store p.id with
  | none =>
    have := List.find?_eq_none.mp hfind p hp
    simp at this
  | some q =>
    obtain ⟨hq, hid⟩ := findById_some hfind
    rw [List.inj_on_of_nodup_map hids hq hp hid]

theorem predecessor_eq_some (hids : (store.map Passport.id).Nodup) :
    predecessor store i = some j ↔ ∃ p ∈ store, p.id = i ∧ p.supersedesId = some j := by
  constructor
  · intro h
    obtain ⟨p, hfind, hp⟩ := Option.bind_eq_some_iff.mp h
    obtain ⟨hmem, hid⟩ := findById_some hfind
    exact ⟨p, hmem, hid, hp⟩
  · rintro ⟨p, hp, rfl, hj⟩
    rw [predecessor, findById_of_mem hids hp]
    exact hj

theorem predecessor_of_mem (hids : (store.map Passport.id).Nodup) (hp : p ∈ store) :
    predecessor store p.id = p.supersedesId := by
  rw [predecessor, findById_of_mem hids hp]
  rfl

theorem mem_behind (hids : (store.map Passport.id).Nodup) (hp : p ∈ store) :
    p.id ∈ behind store ↔ p.status = .superseded := by
  constructor
  · rintro ⟨q, hq, hid, hs⟩
    rwa [← List.inj_on_of_nodup_map hids hq hp hid]
  · intro hs
    exact ⟨p, hp, rfl, hs⟩

theorem mem_named (hids : (store.map Passport.id).Nodup) (hp : p ∈ store) :
    p.id ∈ named store label ↔ EverPublished p ∧ labelNames label p = true := by
  constructor
  · rintro ⟨q, hq, hid, h⟩
    rwa [← List.inj_on_of_nodup_map hids hq hp hid]
  · intro h
    exact ⟨p, hp, rfl, h⟩

theorem Orderly.predecessor_rank (h : Orderly store) :
    ∃ rank : PassportId → ℕ, ∀ i j, predecessor store j = some i → rank i < rank j := by
  obtain ⟨rank, hrank⟩ := h.ranked
  refine ⟨rank, fun i j hj => ?_⟩
  obtain ⟨q, hq, rfl, hi⟩ := (predecessor_eq_some h.ids).mp hj
  exact hrank q hq i hi

theorem sole_of_soleClaimant (hids : (store.map Passport.id).Nodup)
    (h : PublicDoors.SoleClaimant store i q) : ChainHeads.Sole (predecessor store) i q.id := by
  refine ⟨(predecessor_eq_some hids).mpr ⟨q, h.1.1, rfl, h.1.2⟩, fun k hk => ?_⟩
  obtain ⟨p, hp, rfl, hclaim⟩ := (predecessor_eq_some hids).mp hk
  rw [h.2 p ⟨hp, hclaim⟩]

end Views

section Resolution

variable {store : Store} {maxHops : ℕ} {c p q r : Passport} {e : DppError}

theorem followSuccession_error {start : PassportId} {fuel : ℕ} {seen : List PassportId}
    (h : followSuccession maxHops store start fuel seen c = .error e) :
    ∃ id reason, e = .successionUnresolvable id reason := by
  induction fuel generalizing seen c with
  | zero =>
    rw [followSuccession] at h
    split at h
    · cases h
    · cases h
      exact ⟨_, _, rfl⟩
  | succ fuel ih =>
    rw [followSuccession] at h
    split at h
    · cases h
    · split at h
      next e' hfound =>
        cases h
        unfold findSuperseding at hfound
        split at hfound
        · cases hfound
        · cases hfound
        · cases hfound
          exact ⟨_, _, rfl⟩
      next => cases h
      next successor _ =>
        split at h
        · cases h
        · split at h
          · cases h
            exact ⟨_, _, rfl⟩
          · exact ih h

/-- Among orderly rows the walk ends where the chain of sole claims ends: a superseded
record is claimed by a published one, so the walk goes on from it. -/
theorem ends_of_labelEnd (h : Orderly store) (hc : c ∈ store)
    (hend : PublicDoors.LabelEnd store c r) :
    r ∈ store ∧ ChainHeads.Ends (predecessor store) (behind store) c.id r.id := by
  induction hend with
  | current hcurrent => exact ⟨hc, .here fun hb => hcurrent ((mem_behind h.ids hc).mp hb)⟩
  | unreplaced hs hun =>
    obtain ⟨successor, hmem, hep, hclaim⟩ := h.claimed _ hc hs
    rcases hun with hnone | ⟨draft, hsole, hdraft⟩
    · exact absurd ⟨hmem, hclaim⟩ (hnone successor)
    · obtain rfl := hsole.2 successor ⟨hmem, hclaim⟩
      exact absurd hdraft hep.ne_draft
  | step hs hsole _ _ ih =>
    obtain ⟨hr, hends⟩ := ih hsole.1.1
    exact ⟨hr, .step ((mem_behind h.ids hc).mpr hs) (sole_of_soleClaimant h.ids hsole) hends⟩

theorem ends_of_currentRecord (h : Orderly store) (hc : c ∈ store)
    (hrecord : currentRecord maxHops store c = .ok r) :
    r ∈ store ∧ ChainHeads.Ends (predecessor store) (behind store) c.id r.id :=
  ends_of_labelEnd h hc (PublicDoors.labelEnd_of_followSuccession h.ids hrecord)

theorem currentRecords_error {current rows : List Passport}
    (h : currentRecords maxHops store current rows = .error e) :
    ∃ id reason, e = .successionUnresolvable id reason := by
  induction rows generalizing current with
  | nil => cases h
  | cons row rows ih =>
    rw [currentRecords] at h
    split at h
    · exact ih h
    · split at h
      next e' hrow =>
        cases h
        exact followSuccession_error hrow
      next => exact ih h

/-- The records a lookup names are current by way of one record each, listed once. -/
structure Collected (maxHops : ℕ) (store : Store) (current rows result : List Passport) :
    Prop where
  kept : ∀ c ∈ current, c ∈ result
  source : ∀ c ∈ result, c ∈ current ∨
    ∃ q ∈ rows, EverPublished q ∧ currentRecord maxHops store q = .ok c
  covered : ∀ q ∈ rows, EverPublished q →
    ∃ r, currentRecord maxHops store q = .ok r ∧ ∃ c ∈ result, c.id = r.id
  ids : (current.map Passport.id).Nodup → (result.map Passport.id).Nodup

/-- One more row in front: `current'` is what the collection holds once it has been read. -/
theorem Collected.cons {current current' rows result : List Passport} {row : Passport}
    (h : Collected maxHops store current' rows result) (hkept : ∀ c ∈ current, c ∈ current')
    (hsource : ∀ c ∈ current', c ∈ current ∨
      EverPublished row ∧ currentRecord maxHops store row = .ok c)
    (hcovered : EverPublished row →
      ∃ r, currentRecord maxHops store row = .ok r ∧ ∃ c ∈ current', c.id = r.id)
    (hids : (current.map Passport.id).Nodup → (current'.map Passport.id).Nodup) :
    Collected maxHops store current (row :: rows) result := by
  refine ⟨fun c hc => h.kept c (hkept c hc), fun c hc => ?_, fun q hq hep => ?_,
    fun hcurrent => h.ids (hids hcurrent)⟩
  · rcases h.source c hc with hc | ⟨q, hq, hep, hr⟩
    · rcases hsource c hc with hc | ⟨hep, hr⟩
      · exact .inl hc
      · exact .inr ⟨row, List.mem_cons_self, hep, hr⟩
    · exact .inr ⟨q, List.mem_cons_of_mem _ hq, hep, hr⟩
  · rcases List.mem_cons.mp hq with rfl | hq
    · obtain ⟨r, hr, c, hc, hid⟩ := hcovered hep
      exact ⟨r, hr, c, h.kept c hc, hid⟩
    · exact h.covered q hq hep

theorem collected_of_currentRecords {current rows result : List Passport}
    (h : currentRecords maxHops store current rows = .ok result) :
    Collected maxHops store current rows result := by
  induction rows generalizing current with
  | nil =>
    cases h
    exact ⟨fun c hc => hc, fun c hc => .inl hc, fun q hq => absurd hq List.not_mem_nil, id⟩
  | cons row rows ih =>
    rw [currentRecords] at h
    by_cases hnever : row.neverPublished = true
    · rw [if_pos hnever] at h
      refine (ih h).cons (fun c hc => hc) (fun c hc => .inl hc) (fun hep => ?_) id
      cases hnever.symm.trans hep
    · rw [if_neg hnever] at h
      have hep : EverPublished row := eq_false_of_ne_true hnever
      cases hrow : currentRecord maxHops store row with
      | error e => simp [hrow] at h
      | ok r =>
        simp only [hrow] at h
        by_cases hseen : current.any (fun c => c.id = r.id) = true
        · rw [if_pos hseen] at h
          obtain ⟨c, hc, hid⟩ := List.any_eq_true.mp hseen
          exact (ih h).cons (fun c hc => hc) (fun c hc => .inl hc)
            (fun _ => ⟨r, hrow, c, hc, of_decide_eq_true hid⟩) id
        · rw [if_neg hseen] at h
          have hfresh : ∀ c ∈ current, c.id ≠ r.id := by simpa using hseen
          refine (ih h).cons (fun c hc => mem_concat.mpr (.inl hc)) (fun c hc => ?_)
            (fun _ => ⟨r, hrow, r, mem_concat.mpr (.inr rfl), rfl⟩)
            fun hids => concat_nodup hids hfresh
          rcases mem_concat.mp hc with hc | rfl
          · exact .inl hc
          · exact .inr ⟨hep, hrow⟩

/-- The pending successors are dropped and the heads stay, since the oldest of several
records is no successor of another. -/
theorem withoutPendingSuccessors_eq {current : List Passport} (h : Orderly store)
    (hsub : ∀ c ∈ current, c ∈ store) (hne : current ≠ []) :
    withoutPendingSuccessors current ≠ [] ∧
      ∀ c ∈ withoutPendingSuccessors current, c ∈ current ∧
        ∀ d ∈ current, c.supersedesId ≠ some d.id := by
  obtain ⟨rank, hrank⟩ := h.ranked
  obtain ⟨oldest, holdest, hleast⟩ := Finset.exists_min_image current.toFinset
    (fun c => rank c.id) (by simpa using hne)
  rw [List.mem_toFinset] at holdest
  have hhead : ∀ d ∈ current, oldest.supersedesId ≠ some d.id := by
    intro d hd hclaim
    have hlt := hrank oldest (hsub oldest holdest) d.id hclaim
    have hle := hleast d (List.mem_toFinset.mpr hd)
    omega
  have hpending : ∀ c : Passport,
      (c.supersedesId.any fun i => i ∈ current.map Passport.id) = false ↔
        ∀ d ∈ current, c.supersedesId ≠ some d.id := by
    intro c
    cases c.supersedesId with
    | none => simp
    | some i => simp [eq_comm]
  have holdestHead := (hpending oldest).mpr hhead
  have hsome : current.all (fun c => c.supersedesId.any fun i => i ∈ current.map Passport.id) =
      false := by
    rw [List.all_eq_false]
    exact ⟨oldest, holdest, ne_true_of_eq_false holdestHead⟩
  have hkept : withoutPendingSuccessors current =
      current.filter fun c => !c.supersedesId.any fun i => i ∈ current.map Passport.id := by
    simp only [withoutPendingSuccessors, hsome]
    rfl
  rw [hkept]
  constructor
  · apply List.ne_nil_of_mem
    exact List.mem_filter.mpr ⟨holdest, by rw [holdestHead]; rfl⟩
  · intro c hc
    obtain ⟨hmem, hnot⟩ := List.mem_filter.mp hc
    rw [Bool.not_eq_true'] at hnot
    exact ⟨hmem, (hpending c).mp hnot⟩

theorem withoutPendingSuccessors_sublist (current : List Passport) :
    (withoutPendingSuccessors current).Sublist current := by
  simp only [withoutPendingSuccessors]
  split
  · exact List.Sublist.refl current
  · exact List.filter_sublist

section Label

variable {label : String × CarrierQualifier} {current : List Passport} {i : PassportId}

theorem Collected.mem_store (h : Orderly store)
    (hc : Collected maxHops store [] (namedAt store (.gs1 label.1) label.2.level label.2) current)
    (hmem : c ∈ current) : c ∈ store ∧
      ChainHeads.Answers (predecessor store) (behind store) (named store label) c.id := by
  rcases hc.source c hmem with hnil | ⟨q, hq, hep, hr⟩
  · cases hnil
  · obtain ⟨hq, hnames⟩ := mem_namedAt.mp hq
    obtain ⟨hstore, hends⟩ := ends_of_currentRecord h hq hr
    exact ⟨hstore, q.id, ⟨q, hq, rfl, hep, hnames⟩, hends⟩

theorem Collected.ends (h : Orderly store)
    (hc : Collected maxHops store [] (namedAt store (.gs1 label.1) label.2.level label.2) current)
    (hi : i ∈ named store label) :
    ∃ c ∈ current, ChainHeads.Ends (predecessor store) (behind store) i c.id := by
  obtain ⟨q, hq, rfl, hep, hnames⟩ := hi
  obtain ⟨r, hr, c, hmem, hid⟩ := hc.covered q (mem_namedAt.mpr ⟨hq, hnames⟩) hep
  exact ⟨c, hmem, hid ▸ (ends_of_currentRecord h hq hr).2⟩

/-- The records kept are the heads of what the label leads to. -/
theorem Collected.head (h : Orderly store)
    (hc : Collected maxHops store [] (namedAt store (.gs1 label.1) label.2.level label.2) current)
    (hmem : c ∈ current) (hnot : ∀ d ∈ current, c.supersedesId ≠ some d.id) :
    ChainHeads.Head (predecessor store)
      (ChainHeads.Answers (predecessor store) (behind store) (named store label)) c.id := by
  obtain ⟨hstore, hanswers⟩ := hc.mem_store h hmem
  refine ⟨hanswers, ?_⟩
  rintro i hi ⟨q, hq, hends⟩
  obtain ⟨d, hd, hends'⟩ := hc.ends h hq
  rw [predecessor_of_mem h.ids hstore, hends.unique hends'] at hi
  exact hnot d hd hi

/-- A live passport's own label resolves at its own level, or its chain cannot be followed. -/
theorem currentFor_ne_internal (maxHops : ℕ) (h : Orderly store)
    (hone : ChainHeads.OneHead (predecessor store) (behind store) (named store label))
    (hp : p ∈ store) (hprints : Prints label p) :
    (∃ r, currentFor maxHops store (.gs1 label.1)
        (namedAt store (.gs1 label.1) label.2.level label.2) = .ok (some r)) ∨
      ∃ id reason, currentFor maxHops store (.gs1 label.1)
        (namedAt store (.gs1 label.1) label.2.level label.2) =
          .error (.successionUnresolvable id reason) := by
  cases hrecords : currentRecords maxHops store []
      (namedAt store (.gs1 label.1) label.2.level label.2) with
  | error e =>
    obtain ⟨id, reason, rfl⟩ := currentRecords_error hrecords
    exact .inr ⟨id, reason, by rw [currentFor, hrecords]⟩
  | ok current =>
    have hc := collected_of_currentRecords hrecords
    have hsettled : ∀ i ∈ named store label,
        ∃ r, ChainHeads.Ends (predecessor store) (behind store) i r := by
      intro i hi
      obtain ⟨c, -, hends⟩ := hc.ends h hi
      exact ⟨c.id, hends⟩
    have hne : current ≠ [] := by
      obtain ⟨c, hmem, -⟩ := hc.ends h
        ((mem_named h.ids hp).mpr ⟨hprints.1.1, printedLabel_names hprints.2⟩)
      exact List.ne_nil_of_mem hmem
    obtain ⟨hkept, hheads⟩ := withoutPendingSuccessors_eq h
      (fun c hmem => (hc.mem_store h hmem).1) hne
    have hids : ((withoutPendingSuccessors current).map Passport.id).Nodup :=
      (hc.ids List.nodup_nil).sublist ((withoutPendingSuccessors_sublist current).map _)
    have hsame : ∀ a ∈ withoutPendingSuccessors current,
        ∀ b ∈ withoutPendingSuccessors current, a.id = b.id := by
      intro a ha b hb
      obtain ⟨hamem, hanot⟩ := hheads a ha
      obtain ⟨hbmem, hbnot⟩ := hheads b hb
      exact hone hsettled a.id b.id (hc.head h hamem hanot) (hc.head h hbmem hbnot)
    rcases hlist : withoutPendingSuccessors current with _ | ⟨a, _ | ⟨b, rest⟩⟩
    · exact absurd hlist hkept
    · exact .inl ⟨a, by rw [currentFor, hrecords]; simp only [hlist]⟩
    · have hab := hsame a (by simp [hlist]) b (by simp [hlist])
      simp [hlist, hab] at hids

theorem resolveLabel_ne_internal (maxHops : ℕ) (h : Orderly store)
    (hone : ChainHeads.OneHead (predecessor store) (behind store) (named store label))
    (hp : p ∈ store) (hprints : Prints label p) (message : String) :
    resolveLabel maxHops store label.1 label.2.parts.1 label.2.parts.2 ≠
      .error (.internal message) := by
  obtain ⟨lower, hladder⟩ := labelLadder_head label.2
  rcases currentFor_ne_internal maxHops h hone hp hprints with ⟨r, hr⟩ | ⟨id, reason, herror⟩
  · simp [resolveLabel, hladder, resolveLadder, hr]
  · simp [resolveLabel, hladder, resolveLadder, herror]

end Label

end Resolution

end LabelClaims
