import DppEngine.PrintedLabels

/-! The public read by id, beside the walk a printed label takes.

A superseded passport answers with the record that replaced it. The read by id asks
for the newest claimant and stops at the first published one; the label's walk stops
at the first record that is not superseded. -/
namespace PublicDoors

open PassportModel (PassportStatus PassportId DppError)
open PrintedLabels
open SuccessionChains

section Successor

variable (store : Store)

def maxSuccessorHops : ℕ := 32

/-- The order `published_at DESC NULLS LAST, id DESC`. -/
def sortsBefore (p q : Passport) : Bool :=
  match p.publishedAt, q.publishedAt with
  | some a, some b => b < a || a = b && q.id < p.id
  | some _, none => true
  | none, some _ => false
  | none, none => q.id < p.id

def firstRow : List Passport → Option Passport
  | [] => none
  | row :: rows =>
    match firstRow rows with
    | none => some row
    | some best => if sortsBefore best row then some best else some row

def newestClaimant (id : PassportId) : Option Passport :=
  firstRow (store.filter fun p => p.supersedesId = some id)

/-- One claimant a hop, active or not, until one is published. -/
def walkSuccessors : ℕ → PassportId → Option Passport
  | 0, _ => none
  | hops + 1, cursor =>
    match newestClaimant store cursor with
    | none => none
    | some row => if row.status = .published then some row else walkSuccessors hops row.id

def successorOf (id : PassportId) : Option Passport :=
  walkSuccessors store maxSuccessorHops id

end Successor

section Handler

variable {V : Type}

inductive PublicAnswer (V : Type) where
  | view (record : Passport) (body : V) (contentLocation : Option PassportId)
  | gone (record : Passport)
  | notFound (record : Passport)
  | failed (record : Passport) (e : DppError)

def PublicAnswer.record : PublicAnswer V → Passport
  | .view record _ _ => record
  | .gone record => record
  | .notFound record => record
  | .failed record _ => record

variable (signedPublicView : Passport → Except DppError V)

def respondPublicView (record : Passport) (contentLocation : Option PassportId) :
    PublicAnswer V :=
  match signedPublicView record with
  | .ok body => .view record body contentLocation
  | .error e => .failed record e

def publicRead (store : Store) (p : Passport) : PublicAnswer V :=
  if p.status = .superseded then
    match successorOf store p.id with
    | some successor => respondPublicView signedPublicView successor (some successor.id)
    | none => respondPublicView signedPublicView p none
  else if PassportModel.servesPublicly p.status p.publishedAt then
    respondPublicView signedPublicView p none
  else if p.status = .suspended then .gone p
  else .notFound p

def publicReadHandler (store : Store) (id : PassportId) : Option (PublicAnswer V) :=
  (findById store id).map (publicRead signedPublicView store)

@[simp] theorem respondPublicView_record (record : Passport) (location : Option PassportId) :
    (respondPublicView signedPublicView record location).record = record := by
  unfold respondPublicView
  cases signedPublicView record with
  | ok body => rfl
  | error e => rfl

theorem publicRead_record {store : Store} {p : Passport} (hp : p.status = .superseded) :
    (publicRead signedPublicView store p).record = (successorOf store p.id).getD p := by
  rw [publicRead, if_pos hp]
  cases successorOf store p.id with
  | none => simp
  | some successor => simp

end Handler

section Chains

variable (store : Store)

def Claims (i : PassportId) (q : Passport) : Prop := q ∈ store ∧ q.supersedesId = some i

def Names (i j : PassportId) : Prop := ∃ q, Claims store i q ∧ q.id = j

def SoleClaimant (i : PassportId) (q : Passport) : Prop :=
  Claims store i q ∧ ∀ r, Claims store i r → r = q

def FirstClaimant (i : PassportId) (q : Passport) : Prop :=
  Claims store i q ∧ ∀ r, Claims store i r → r = q ∨ sortsBefore q r = true

/-- The tables both doors are asked about: rows have their own ids, no record has two
claimants that left the draft state, and every chain ends before either cap. -/
structure Chained (maxHops : ℕ) : Prop where
  ids : (store.map Passport.id).Nodup
  oneSuccessor : ∀ p ∈ store, ∀ q r, Claims store p.id q → Claims store p.id r →
    q.status ≠ .draft → r.status ≠ .draft → q = r
  short : ∀ p ∈ store, ∀ n j, Hops (Names store) n p.id j → n < maxSuccessorHops ∧ n < maxHops

/-- Each record on the way is claimed by one record alone; they are superseded up to the
last, which is published. -/
inductive LeadsTo : PassportId → Passport → Prop where
  | last {i q} : SoleClaimant store i q → q.status = .published → LeadsTo i q
  | step {i q r} : SoleClaimant store i q → q.status = .superseded → LeadsTo q.id r →
    LeadsTo i r

/-- `r` is the first published record that the newest claims lead to. -/
inductive PublishedAhead : PassportId → Passport → Prop where
  | here {i q} : FirstClaimant store i q → q.status = .published → PublishedAhead i q
  | beyond {i q r} : FirstClaimant store i q → q.status ≠ .published →
    PublishedAhead q.id r → PublishedAhead i r

def Unreplaced (i : PassportId) : Prop :=
  (∀ q, ¬Claims store i q) ∨ ∃ draft, SoleClaimant store i draft ∧ draft.status = .draft

def DoorsMeet (i : PassportId) : Prop :=
  (∃ r, LeadsTo store i r) ∨ Unreplaced store i ∧ ∀ r, ¬PublishedAhead store i r

inductive LabelEnd : Passport → Passport → Prop where
  | current {c} : c.status ≠ .superseded → LabelEnd c c
  | unreplaced {c} : c.status = .superseded → Unreplaced store c.id → LabelEnd c c
  | step {c q r} : c.status = .superseded → SoleClaimant store c.id q → q.status ≠ .draft →
    LabelEnd q r → LabelEnd c r

end Chains

section Picking

variable {store : Store} {p q r : Passport} {rows : List Passport} {i : PassportId}

theorem sortsBefore_asymm (h : sortsBefore p q = true) : sortsBefore q p = false := by
  grind [sortsBefore]

theorem sortsBefore_total (hne : p.id ≠ q.id) (h : sortsBefore p q = false) :
    sortsBefore q p = true := by
  grind [sortsBefore]

theorem sortsBefore_trans (hpq : sortsBefore p q = true) (hqr : sortsBefore q r = true) :
    sortsBefore p r = true := by
  grind [sortsBefore]

/-- One row comes back, and it is ordered before all the others. -/
theorem firstRow_spec (hids : (rows.map Passport.id).Nodup) :
    rows = [] ∧ firstRow rows = none ∨
      ∃ q ∈ rows, firstRow rows = some q ∧ ∀ r ∈ rows, r = q ∨ sortsBefore q r = true := by
  induction rows with
  | nil => exact .inl ⟨rfl, rfl⟩
  | cons row rows ih =>
    right
    rw [List.map_cons, List.nodup_cons] at hids
    rcases ih hids.2 with ⟨rfl, -⟩ | ⟨best, hbest, hfirst, hleast⟩
    · exact ⟨row, List.mem_cons_self, rfl, fun r hr => .inl (List.mem_singleton.mp hr)⟩
    · by_cases hbefore : sortsBefore best row = true
      · refine ⟨best, List.mem_cons_of_mem _ hbest, by simp [firstRow, hfirst, hbefore], ?_⟩
        intro r hr
        rcases List.mem_cons.mp hr with rfl | hr
        · exact .inr hbefore
        · exact hleast r hr
      · refine ⟨row, List.mem_cons_self, by simp [firstRow, hfirst, hbefore], ?_⟩
        intro r hr
        rcases List.mem_cons.mp hr with rfl | hr
        · exact .inl rfl
        · have hne : best.id ≠ row.id := by
            intro heq
            exact hids.1 (heq ▸ List.mem_map_of_mem hbest)
          have hrow := sortsBefore_total hne (eq_false_of_ne_true hbefore)
          rcases hleast r hr with rfl | hr
          · exact .inr hrow
          · exact .inr (sortsBefore_trans hrow hr)

theorem mem_claimants : q ∈ store.filter (fun p => p.supersedesId = some i) ↔
    Claims store i q := by
  rw [List.mem_filter, decide_eq_true_iff, Claims]

theorem FirstClaimant.unique (hp : FirstClaimant store i p) (hq : FirstClaimant store i q) :
    p = q := by
  rcases hp.2 q hq.1 with rfl | hpq
  · rfl
  · rcases hq.2 p hp.1 with rfl | hqp
    · rfl
    · cases hqp.symm.trans (sortsBefore_asymm hpq)

theorem SoleClaimant.first (h : SoleClaimant store i q) : FirstClaimant store i q :=
  ⟨h.1, fun r hr => .inl (h.2 r hr)⟩

theorem newestClaimant_cases (hids : (store.map Passport.id).Nodup) (i : PassportId) :
    newestClaimant store i = none ∧ (∀ q, ¬Claims store i q) ∨
      ∃ q, newestClaimant store i = some q ∧ FirstClaimant store i q := by
  have hrows : ((store.filter fun p => p.supersedesId = some i).map Passport.id).Nodup :=
    hids.sublist (List.filter_sublist.map _)
  rcases firstRow_spec hrows with ⟨hnil, hnone⟩ | ⟨q, hq, hsome, hleast⟩
  · refine .inl ⟨hnone, fun q hq => ?_⟩
    have hmem := mem_claimants.mpr hq
    rw [hnil] at hmem
    cases hmem
  · exact .inr ⟨q, hsome, mem_claimants.mp hq, fun r hr => hleast r (mem_claimants.mpr hr)⟩

theorem findSuperseding_cases (hids : (store.map Passport.id).Nodup) (i : PassportId) :
    findSuperseding store i = .ok none ∧ (∀ q, ¬Claims store i q) ∨
      (∃ q, findSuperseding store i = .ok (some q) ∧ SoleClaimant store i q) ∨
      ∃ e, findSuperseding store i = .error e ∧ ¬Unreplaced store i := by
  by_cases hclaimed : ∃ q, Claims store i q
  · by_cases hsole : ∃ q, SoleClaimant store i q
    · obtain ⟨q, hq⟩ := hsole
      exact .inr (.inl ⟨q, findSuperseding_of_unique (List.Nodup.of_map _ hids) hq.1.1 hq.1.2
        fun r hr hclaim => hq.2 r ⟨hr, hclaim⟩, hq⟩)
    · right; right
      have hnot : ¬Unreplaced store i := by
        rintro (hnone | ⟨draft, hdraft, -⟩)
        · obtain ⟨q, hq⟩ := hclaimed
          exact hnone q hq
        · exact hsole ⟨draft, hdraft⟩
      rcases hrows : store.filter (fun p => p.supersedesId = some i) with _ | ⟨a, _ | ⟨b, rest⟩⟩
      · obtain ⟨q, hq⟩ := hclaimed
        have hmem := mem_claimants.mpr hq
        rw [hrows] at hmem
        cases hmem
      · refine absurd ⟨a, ?_, fun r hr => ?_⟩ hsole
        · exact mem_claimants.mp (by simp [hrows])
        · exact List.mem_singleton.mp (hrows ▸ mem_claimants.mpr hr)
      · exact ⟨_, by rw [findSuperseding, hrows]; rfl, hnot⟩
  · push Not at hclaimed
    have hrows : store.filter (fun p => p.supersedesId = some i) = [] := by
      apply List.eq_nil_iff_forall_not_mem.mpr
      intro q hq
      exact hclaimed q (mem_claimants.mp hq)
    exact .inl ⟨by simp [findSuperseding, hrows], hclaimed⟩

end Picking

section Walks

variable {store : Store} {maxHops fuel n : ℕ} {p c q r : Passport} {i j : PassportId}

theorem names_of_claims (h : Claims store i q) : Names store i q.id := ⟨q, h, rfl⟩

/-- What a claimant reaches, the record it claims reaches one hop later. -/
theorem hops_lt_of_claims (hq : Claims store i q)
    (h : ∀ n j, Hops (Names store) n i j → n < fuel + 1) :
    ∀ n j, Hops (Names store) n q.id j → n < fuel := by
  intro n j hn
  have := h (n + 1) j (.step (names_of_claims hq) hn)
  omega

theorem not_hops_back (hq : Claims store i q)
    (h : ∀ n j, Hops (Names store) n i j → n < fuel) (hback : Hops (Names store) n q.id i) :
    False :=
  not_hops_self_of_bounded h (.step (names_of_claims hq) hback)

theorem walkSuccessors_eq_some (hids : (store.map Passport.id).Nodup)
    (h : ∀ n j, Hops (Names store) n i j → n < fuel) :
    walkSuccessors store fuel i = some r ↔ PublishedAhead store i r := by
  induction fuel generalizing i with
  | zero => exact absurd (h 0 i (.refl i)) (Nat.lt_irrefl 0)
  | succ fuel ih =>
    rcases newestClaimant_cases hids i with ⟨hnone, hclaims⟩ | ⟨q, hsome, hfirst⟩
    · constructor
      · intro hwalk
        simp [walkSuccessors, hnone] at hwalk
      · intro hahead
        cases hahead with
        | here hq _ => exact absurd hq.1 (hclaims _)
        | beyond hq _ _ => exact absurd hq.1 (hclaims _)
    · by_cases hactive : q.status = .published
      · rw [walkSuccessors, hsome]
        simp only [hactive, if_true, Option.some.injEq]
        constructor
        · rintro rfl
          exact .here hfirst hactive
        · intro hahead
          cases hahead with
          | here hq _ => exact hfirst.unique hq
          | beyond hq hne _ => exact absurd (hfirst.unique hq ▸ hactive) hne
      · rw [walkSuccessors, hsome]
        simp only [hactive, if_false]
        rw [ih (hops_lt_of_claims hfirst.1 h)]
        constructor
        · intro hahead
          exact .beyond hfirst hactive hahead
        · intro hahead
          cases hahead with
          | here hq hpub => exact absurd (hq.unique hfirst ▸ hpub) hactive
          | beyond hq _ hrest => exact hq.unique hfirst ▸ hrest

theorem labelEnd_of_current (hc : c.status ≠ .superseded) : LabelEnd store c r ↔ r = c := by
  constructor
  · intro hend
    cases hend with
    | current => rfl
    | unreplaced hs _ => exact absurd hs hc
    | step hs _ _ _ => exact absurd hs hc
  · rintro rfl
    exact .current hc

/-- Where the walk arrives is its end. -/
theorem labelEnd_of_followSuccession (hids : (store.map Passport.id).Nodup) {start : PassportId}
    {seen : List PassportId} (h : followSuccession maxHops store start fuel seen c = .ok r) :
    LabelEnd store c r := by
  induction fuel generalizing c seen with
  | zero =>
    rw [followSuccession] at h
    split at h
    next hcurrent =>
      cases h
      exact .current hcurrent
    next => cases h
  | succ fuel ih =>
    rw [followSuccession] at h
    by_cases hs : c.status = .superseded
    · rw [if_neg (not_not_intro hs)] at h
      rcases findSuperseding_cases hids c.id with
        ⟨hfound, hnone⟩ | ⟨q, hfound, hsole⟩ | ⟨e, hfound, -⟩
      · simp only [hfound] at h
        cases h
        exact .unreplaced hs (.inl hnone)
      · simp only [hfound] at h
        split at h
        next hdraft =>
          cases h
          exact .unreplaced hs (.inr ⟨q, hsole, hdraft⟩)
        next hdraft =>
          split at h
          · cases h
          · exact .step hs hsole hdraft (ih h)
      · simp only [hfound] at h
        cases h
    · rw [if_pos hs] at h
      cases h
      exact .current hs

/-- Within its hops the walk arrives. `seen` holds records behind the cursor, which short
chains never come back to. -/
theorem followSuccession_of_labelEnd (hids : (store.map Passport.id).Nodup) {start : PassportId}
    {seen : List PassportId} (h : ∀ n j, Hops (Names store) n c.id j → n < fuel)
    (hseen : ∀ a ∈ seen, ∃ m, Hops (Names store) m a c.id) (hend : LabelEnd store c r) :
    followSuccession maxHops store start fuel seen c = .ok r := by
  induction hend generalizing fuel seen with
  | @current c hcurrent =>
    cases fuel with
    | zero => simp [followSuccession, hcurrent]
    | succ fuel => simp [followSuccession, hcurrent]
  | @unreplaced c hs hun =>
    obtain ⟨fuel, rfl⟩ : ∃ m, fuel = m + 1 := ⟨fuel - 1, by have := h 0 c.id (.refl _); omega⟩
    rcases findSuperseding_cases hids c.id with
      ⟨hfound, -⟩ | ⟨q, hfound, hsole⟩ | ⟨e, -, hreplaced⟩
    · simp [followSuccession, hs, hfound]
    · rcases hun with hnone | ⟨draft, hdraft, hstatus⟩
      · exact absurd hsole.1 (hnone q)
      · obtain rfl := hdraft.2 q hsole.1
        simp [followSuccession, hs, hfound, hstatus]
    · exact absurd hun hreplaced
  | @step c q r hs hsole hdraft _ ih =>
    obtain ⟨fuel, rfl⟩ : ∃ m, fuel = m + 1 := ⟨fuel - 1, by have := h 0 c.id (.refl _); omega⟩
    have hfound := findSuperseding_of_unique (List.Nodup.of_map _ hids) hsole.1.1 hsole.1.2
      fun t ht hclaim => hsole.2 t ⟨ht, hclaim⟩
    have hfresh : q.id ∉ seen := by
      intro hmem
      obtain ⟨m, hm⟩ := hseen _ hmem
      exact not_hops_back hsole.1 h hm
    have hseen' : ∀ a ∈ q.id :: seen, ∃ m, Hops (Names store) m a q.id := by
      intro a ha
      rcases List.mem_cons.mp ha with rfl | ha
      · exact ⟨0, .refl _⟩
      · obtain ⟨m, hm⟩ := hseen a ha
        exact ⟨m + 1, hm.concat (names_of_claims hsole.1)⟩
    simp only [followSuccession, hs, hfound, hdraft, hfresh, ne_eq, not_true_eq_false, if_false]
    exact ih (hops_lt_of_claims hsole.1 h) hseen'

theorem currentRecord_eq_ok (h : Chained store maxHops) (hp : p ∈ store) :
    currentRecord maxHops store p = .ok r ↔ LabelEnd store p r := by
  constructor
  · exact labelEnd_of_followSuccession h.ids
  · apply followSuccession_of_labelEnd h.ids fun n j hn => (h.short p hp n j hn).2
    intro a ha
    rw [List.mem_singleton.mp ha]
    exact ⟨0, .refl _⟩

theorem successorOf_eq_some (h : Chained store maxHops) (hp : p ∈ store) :
    successorOf store p.id = some r ↔ PublishedAhead store p.id r :=
  walkSuccessors_eq_some h.ids fun n j hn => (h.short p hp n j hn).1

end Walks

section Agreement

variable {V : Type} {store : Store} {maxHops : ℕ} {p c q r : Passport} {i : PassportId}

theorem PublishedAhead.published (h : PublishedAhead store i r) : r.status = .published := by
  induction h with
  | here _ hpub => exact hpub
  | beyond _ _ _ ih => exact ih

theorem LeadsTo.ahead (h : LeadsTo store i r) : PublishedAhead store i r := by
  induction h with
  | last hsole hpub => exact .here hsole.first hpub
  | step hsole hs _ ih => exact .beyond hsole.first (by simp [hs]) ih

theorem LeadsTo.labelEnd (h : LeadsTo store c.id r) (hc : c.status = .superseded) :
    LabelEnd store c r := by
  generalize hi : c.id = i at h
  induction h generalizing c with
  | last hsole hpub =>
    subst hi
    exact .step hc hsole (by simp [hpub]) (.current (by simp [hpub]))
  | step hsole hs _ ih =>
    subst hi
    exact .step hc hsole (by simp [hs]) (ih hs rfl)

theorem LabelEnd.leadsTo (h : LabelEnd store c r) (hc : c.status = .superseded)
    (hr : r.status = .published) : LeadsTo store c.id r := by
  induction h with
  | current hne => exact absurd hc hne
  | unreplaced _ _ => cases hc.symm.trans hr
  | @step c q r _ hsole _ hrest ih =>
    by_cases hs : q.status = .superseded
    · exact .step hsole hs (ih hs hr)
    · cases (labelEnd_of_current hs).mp hrest
      exact .last hsole hr

theorem LabelEnd.hops (h : LabelEnd store c r) : ∃ n, Hops (Names store) n c.id r.id := by
  induction h with
  | current _ => exact ⟨0, .refl _⟩
  | unreplaced _ _ => exact ⟨0, .refl _⟩
  | step _ hsole _ _ ih =>
    obtain ⟨n, hn⟩ := ih
    exact ⟨n + 1, .step (names_of_claims hsole.1) hn⟩

theorem labelEnd_self_iff (h : Chained store maxHops) (hp : p ∈ store)
    (hs : p.status = .superseded) : LabelEnd store p p ↔ Unreplaced store p.id := by
  constructor
  · intro hend
    cases hend with
    | current hne => exact absurd hs hne
    | unreplaced _ hun => exact hun
    | step _ hsole _ hrest =>
      obtain ⟨n, hn⟩ := hrest.hops
      exact (not_hops_back hsole.1 (fun n j hn => (h.short p hp n j hn).1) hn).elim
  · intro hun
    exact .unreplaced hs hun

/-- A superseded passport read by id answers about the record its label leads to exactly
when sole claims lead from it to a published record, or when it is unreplaced and no
published record comes after it. -/
theorem doors_agree_iff (signedPublicView : Passport → Except DppError V)
    (h : Chained store maxHops) (hp : p ∈ store) (hs : p.status = .superseded) :
    currentRecord maxHops store p = .ok (publicRead signedPublicView store p).record ↔
      DoorsMeet store p.id := by
  rw [currentRecord_eq_ok h hp, publicRead_record signedPublicView hs]
  cases hsucc : successorOf store p.id with
  | none =>
    have hnone : ∀ r, ¬PublishedAhead store p.id r := by
      intro r hr
      cases hsucc.symm.trans ((successorOf_eq_some h hp).mpr hr)
    rw [Option.getD_none, labelEnd_self_iff h hp hs]
    constructor
    · intro hun
      exact .inr ⟨hun, hnone⟩
    · rintro (⟨r, hr⟩ | ⟨hun, -⟩)
      · exact absurd hr.ahead (hnone r)
      · exact hun
  | some r =>
    have hahead := (successorOf_eq_some h hp).mp hsucc
    rw [Option.getD_some]
    constructor
    · intro hend
      exact .inl ⟨r, hend.leadsTo hs hahead.published⟩
    · rintro (⟨r', hr'⟩ | ⟨-, hnone⟩)
      · have hsame := (successorOf_eq_some h hp).mpr hr'.ahead
        cases hsucc.symm.trans hsame
        exact hr'.labelEnd hs
      · exact absurd hahead (hnone r)

end Agreement

section Recall

def replaced : Passport := ⟨1, .superseded, some 100, none, none, none, none, none, none⟩

def replacement (status : PassportStatus) : Passport :=
  ⟨2, status, some 200, some 1, none, none, none, none, none⟩

def replacedBy (status : PassportStatus) : Store := [replaced, replacement status]

theorem claims_replacedBy {status : PassportStatus} {i : PassportId} {q : Passport} :
    Claims (replacedBy status) i q ↔ i = 1 ∧ q = replacement status := by
  constructor
  · rintro ⟨hq, hclaim⟩
    rcases List.mem_pair.mp hq with rfl | rfl
    · cases hclaim
    · cases hclaim
      exact ⟨rfl, rfl⟩
  · rintro ⟨rfl, rfl⟩
    exact ⟨List.mem_pair.mpr (.inr rfl), rfl⟩

theorem replacedBy_chained (status : PassportStatus) : Chained (replacedBy status) 64 := by
  constructor
  · simp [replacedBy, replaced, replacement]
  · intro p _ q r hq hr _ _
    exact (claims_replacedBy.mp hq).2.trans (claims_replacedBy.mp hr).2.symm
  · intro p _ n j hn
    cases hn with
    | refl => decide
    | step h₁ hrest =>
      obtain ⟨q, hq, rfl⟩ := h₁
      cases hrest with
      | refl => decide
      | step h₂ _ =>
        obtain ⟨r, hr, -⟩ := h₂
        rw [(claims_replacedBy.mp hq).2] at hr
        cases (claims_replacedBy.mp hr).1

theorem replaced_by_published_agrees :
    currentRecord 64 (replacedBy .published) replaced =
      .ok (publicRead (fun _ => .ok ()) (replacedBy .published) replaced).record :=
  (doors_agree_iff _ (replacedBy_chained .published) List.mem_cons_self rfl).mpr
    (.inl ⟨replacement .published, .last
      ⟨claims_replacedBy.mpr ⟨rfl, rfl⟩, fun _ hr => (claims_replacedBy.mp hr).2⟩ rfl⟩)

/-- A recalled replacement: the label reaches it, and the read by id serves the frozen
view of the passport it replaced. -/
theorem recalled_head_hidden :
    let store := replacedBy .suspended
    Chained store 64 ∧ replaced ∈ store ∧ replaced.status = .superseded ∧
      currentRecord 64 store replaced = .ok (replacement .suspended) ∧
      publicRead (fun p => .ok p.id) store replaced = .view replaced replaced.id none ∧
      currentRecord 64 store replaced ≠
        .ok (publicRead (fun p => .ok p.id) store replaced).record := by
  refine ⟨replacedBy_chained .suspended, List.mem_cons_self, rfl, ?_, ?_, ?_⟩
  · rfl
  · rfl
  · decide

end Recall

end PublicDoors
