import DppEngine.DebugTexts
import DppEngine.PassportModel
import DppEngine.SuccessionChains
import Mathlib.Data.List.Nodup
import Mathlib.Data.List.Perm.Basic

/-! The labels passports print, and the lookups that resolve them.

A passport is kept here with the fields a label, a claim or a succession reads. The
store is the table's rows in creation order, the order every lookup answers in. -/
namespace PrintedLabels

open PassportModel (PassportStatus PassportId DppError)
open SuccessionChains
open DebugTexts (quoted)

inductive ProductIdentifier where
  | gs1 (gtin : String)
  | identificationLink (link : String)
  | did (did : String)
  deriving DecidableEq, Repr

def ProductIdentifier.gtin : ProductIdentifier → Option String
  | .gs1 gtin => some gtin
  | _ => none

def ProductIdentifier.asStr : ProductIdentifier → String
  | .gs1 gtin => gtin
  | .identificationLink link => link
  | .did value => value

inductive Granularity where
  | model | batch | item
  deriving DecidableEq, Repr

inductive CarrierQualifier where
  | serial (serial : String)
  | batch (lot : String)
  | model
  deriving DecidableEq, Repr

structure Passport where
  id : PassportId
  status : PassportStatus
  publishedAt : Option Int
  supersedesId : Option PassportId
  identifier : Option ProductIdentifier
  granularity : Option Granularity
  batchId : Option String
  serialNumber : Option String
  carrierSerial : Option String
  deriving DecidableEq, Repr

namespace Passport

def effectiveCarrierSerial (p : Passport) : String :=
  p.carrierSerial.getD (PassportId.defaultCarrierSerial p.id)

/-- What the carrier prints after the GTIN: nothing for a model, the lot for a batch,
the carrier serial at item level and where no level is stated. -/
def carrierQualifier (p : Passport) : Option CarrierQualifier :=
  match p.granularity with
  | some .model => some .model
  | some .batch => p.batchId.map .batch
  | _ => some (.serial p.effectiveCarrierSerial)

def neverPublished (p : Passport) : Bool := PassportModel.neverPublished p.status p.publishedAt

def retiredDraft (p : Passport) : Bool := PassportModel.retiredDraft p.status p.publishedAt

def carries (p : Passport) (identifier : ProductIdentifier) : Bool :=
  p.identifier = some identifier

end Passport

abbrev Store := List Passport

section Lookups

variable (store : Store)

def findById (id : PassportId) : Option Passport := store.find? fun p => p.id = id

/-- A serial names the record that prints it or would print it; the other levels name
the records whose carrier prints exactly that. -/
def printedAs (qualifier : CarrierQualifier) (p : Passport) : Bool :=
  match qualifier with
  | .serial serial => p.effectiveCarrierSerial = serial
  | level => p.carrierQualifier = some level

def findByCarrier (identifier : ProductIdentifier) (qualifier : CarrierQualifier) :
    List Passport :=
  store.filter fun p => p.carries identifier && printedAs qualifier p

def findByIdentifier (identifier : ProductIdentifier) (batchId serialNumber : Option String) :
    List Passport :=
  store.filter fun p => p.carries identifier &&
    match serialNumber with
    | some serial => p.serialNumber = some serial
    | none => p.batchId = batchId && p.serialNumber.isNone

def findByProductIdentifier (identifier : ProductIdentifier) : List Passport :=
  store.filter fun p => p.carries identifier

/-- Two rows are fetched, so that a second claimant is seen. -/
def findSuperseding (id : PassportId) : Except DppError (Option Passport) :=
  match (store.filter fun p => p.supersedesId = some id).take 2 with
  | [] => .ok none
  | [p] => .ok (some p)
  | _ => .error (.successionUnresolvable (PassportId.text id)
      "more than one record claims it as their predecessor")

end Lookups

section Resolution

variable (maxSuccessionHops : ℕ) (store : Store)

def followSuccession (start : PassportId) : ℕ → List PassportId → Passport →
    Except DppError Passport
  | 0, _, cursor =>
    if cursor.status ≠ .superseded then .ok cursor
    else .error (.successionUnresolvable (PassportId.text start)
      ("the chain is longer than " ++ toString maxSuccessionHops ++ " hops"))
  | hops + 1, seen, cursor =>
    if cursor.status ≠ .superseded then .ok cursor
    else
      match findSuperseding store cursor.id with
      | .error e => .error e
      | .ok none => .ok cursor
      | .ok (some next) =>
        if next.status = .draft then .ok cursor
        else if next.id ∈ seen then
          .error (.successionUnresolvable (PassportId.text start)
            ("the chain returns to passport " ++ PassportId.text next.id ++ " — it is a cycle"))
        else followSuccession start hops (next.id :: seen) next

def currentRecord (record : Passport) : Except DppError Passport :=
  followSuccession maxSuccessionHops store record.id maxSuccessionHops [record.id] record

def currentRecords (current : List Passport) : List Passport → Except DppError (List Passport)
  | [] => .ok current
  | record :: named =>
    if record.neverPublished then currentRecords current named
    else
      match currentRecord maxSuccessionHops store record with
      | .error e => .error e
      | .ok r =>
        currentRecords (if current.any (fun c => c.id = r.id) then current else current ++ [r])
          named

def withoutPendingSuccessors (current : List Passport) : List Passport :=
  let ids := current.map Passport.id
  let pending (p : Passport) : Bool := p.supersedesId.any fun prev => prev ∈ ids
  if current.all pending then current else current.filter fun p => !pending p

def currentFor (identifier : ProductIdentifier) (named : List Passport) :
    Except DppError (Option Passport) :=
  match currentRecords maxSuccessionHops store [] named with
  | .error e => .error e
  | .ok current =>
    match withoutPendingSuccessors current with
    | [] => .ok none
    | [p] => .ok (some p)
    | several => .error (.internal ("a GS1 label for " ++ identifier.asStr ++ " names " ++
        toString several.length ++ " current passports that are not one amendment chain: " ++
        ", ".intercalate (several.map fun p => PassportId.text p.id)))

inductive LabelLevel where
  | model | batch | serial
  deriving DecidableEq, Repr

structure LabelResolution where
  passport : Passport
  requested : LabelLevel
  resolved : LabelLevel
  deriving DecidableEq, Repr

def namedAt (identifier : ProductIdentifier) (level : LabelLevel) (qualifier : CarrierQualifier) :
    List Passport :=
  findByCarrier store identifier qualifier ++
    if level = .model then findByIdentifier store identifier none none else []

def resolveLadder (identifier : ProductIdentifier) (requested : LabelLevel) :
    List (LabelLevel × CarrierQualifier) → Except DppError (Option LabelResolution)
  | [] => .ok none
  | (level, qualifier) :: ladder =>
    match currentFor maxSuccessionHops store identifier (namedAt store identifier level qualifier)
      with
    | .error e => .error e
    | .ok (some passport) => .ok (some ⟨passport, requested, level⟩)
    | .ok none => resolveLadder identifier requested ladder

def labelLadder (batch serial : Option String) : List (LabelLevel × CarrierQualifier) :=
  (serial.map fun s => (LabelLevel.serial, CarrierQualifier.serial s)).toList ++
    (batch.map fun b => (LabelLevel.batch, CarrierQualifier.batch b)).toList ++
    [(.model, .model)]

def resolveLabel (gtin : String) (batch serial : Option String) :
    Except DppError (Option LabelResolution) :=
  let ladder := labelLadder batch serial
  let requested := (ladder.head?.map Prod.fst).getD .model
  resolveLadder maxSuccessionHops store (.gs1 gtin) requested ladder

end Resolution

section Claims

structure FieldError where
  field : String
  message : String
  deriving DecidableEq, Repr

/-- What a passport claims by going live. -/
inductive Claim where
  | label (identifier : ProductIdentifier) (qualifier : CarrierQualifier)
  | identifier (identifier : ProductIdentifier)
  deriving DecidableEq, Repr

def Claim.of (p : Passport) : Option Claim :=
  match p.identifier with
  | none => none
  | some product =>
    if product.gtin.isSome then p.carrierQualifier.map (.label product)
    else some (.identifier product)

def Claim.holders (store : Store) : Claim → List Passport
  | .label product qualifier => findByCarrier store product qualifier
  | .identifier product => findByProductIdentifier store product

def CarrierQualifier.debug : CarrierQualifier → String
  | .serial value => "Serial(" ++ quoted value ++ ")"
  | .batch lot => "Batch(" ++ quoted lot ++ ")"
  | .model => "Model"

def Claim.key : Claim → String
  | .label product qualifier => product.asStr ++ "|" ++ qualifier.debug
  | .identifier product => product.asStr

def Claim.refusal : Claim → FieldError :=
  let why := "a label that names two passports resolves to neither. This passport stays a draft"
  let identifierField := "/productGroupData/productIdentifier"
  fun
  | .label _ (.serial serial) => ⟨"/carrierSerial", quoted serial ++
      " is already printed by another published passport under this GTIN, and " ++ why ++
      "; create one with another serial, or one that names the holder in supersedesId."⟩
  | .label product (.batch lot) => ⟨"/batchId", quoted lot ++
      " is already the lot of another published passport under " ++ product.asStr ++
      ", and " ++ why ++
      "; create one under another lot, or one that names the holder in supersedesId."⟩
  | .label product .model => ⟨identifierField, product.asStr ++
      " already has a published model-level passport, and " ++ why ++
      "; name the holder in supersedesId to replace it."⟩
  | .identifier product => ⟨identifierField, product.asStr ++
      " already identifies another published passport, and an identifier names one product. " ++
      "This passport stays a draft; name the holder in supersedesId to replace it."⟩

variable (store : Store)

def heldElsewhere (p : Passport) : Option FieldError :=
  match Claim.of p with
  | none => none
  | some claim =>
    let held := (claim.holders store).any fun q =>
      q.id ≠ p.id && some q.id ≠ p.supersedesId && q.supersedesId ≠ some p.id &&
        !q.neverPublished && q.status ≠ .superseded
    if held then some claim.refusal else none

def carrierSerialIsTaken (identifier : ProductIdentifier) (serial : String)
    (replaces : Option PassportId) : Bool :=
  (findByCarrier store identifier (.serial serial)).any fun p =>
    some p.id ≠ replaces && p.status ≠ .superseded && !p.retiredDraft

end Claims

section Labels

/-- The label a carrier prints: the GTIN and what follows it. -/
def Passport.printedLabel (p : Passport) : Option (String × CarrierQualifier) :=
  match p.identifier with
  | some (.gs1 gtin) => p.carrierQualifier.map fun qualifier => (gtin, qualifier)
  | _ => none

def CarrierQualifier.level : CarrierQualifier → LabelLevel
  | .serial _ => .serial
  | .batch _ => .batch
  | .model => .model

def CarrierQualifier.parts : CarrierQualifier → Option String × Option String
  | .serial value => (none, some value)
  | .batch lot => (some lot, none)
  | .model => (none, none)

def labelNames (label : String × CarrierQualifier) (q : Passport) : Bool :=
  q.carries (.gs1 label.1) &&
    (printedAs label.2 q || label.2 = .model && q.batchId.isNone && q.serialNumber.isNone)

def EverPublished (p : Passport) : Prop := p.neverPublished = false

/-- `j` names `i` as its predecessor, and both have been published. -/
def Succeeds (store : Store) (i j : PassportId) : Prop :=
  ∃ p ∈ store, ∃ q ∈ store, p.id = i ∧ q.id = j ∧ q.supersedesId = some i ∧
    EverPublished p ∧ EverPublished q

/-- A superseded record is claimed by one record only, a published one, and a published
claim is on a superseded record. -/
structure Succession (store : Store) : Prop where
  ids : (store.map Passport.id).Nodup
  claimed : ∀ p ∈ store, p.status = .superseded → ∃ q ∈ store, EverPublished q ∧
    q.supersedesId = some p.id ∧ ∀ r ∈ store, r.supersedesId = some p.id → r = q
  linked : ∀ p ∈ store, ∀ q ∈ store, EverPublished p → EverPublished q →
    q.supersedesId = some p.id → p.status = .superseded

variable {store : Store} {maxHops n : ℕ} {p q c : Passport} {i j k r : PassportId}

theorem everPublished_of_status (hdraft : p.status ≠ .draft) (hretired : p.status ≠ .retired) :
    EverPublished p := by
  simp [EverPublished, Passport.neverPublished, PassportModel.neverPublished,
    PassportModel.retiredDraft, hdraft, hretired]

theorem everPublished_of_superseded (h : p.status = .superseded) : EverPublished p :=
  everPublished_of_status (by simp [h]) (by simp [h])

theorem EverPublished.ne_draft (h : EverPublished p) : p.status ≠ .draft := by
  intro hdraft
  simp [EverPublished, Passport.neverPublished, PassportModel.neverPublished, hdraft] at h

theorem Succession.eq_of_id (h : Succession store) (hp : p ∈ store) (hq : q ∈ store)
    (hid : p.id = q.id) : p = q :=
  List.inj_on_of_nodup_map h.ids hp hq hid

theorem Succession.superseded_of_succeeds (h : Succession store) (hp : p ∈ store)
    (hs : Succeeds store p.id j) : p.status = .superseded := by
  obtain ⟨p', hp', q, hq, hid, -, hclaim, hep, heq⟩ := hs
  cases h.eq_of_id hp hp' hid.symm
  exact h.linked p hp q hq hep heq hclaim

theorem Succession.one (h : Succession store) (i j k : PassportId) (hj : Succeeds store i j)
    (hk : Succeeds store i k) : j = k := by
  obtain ⟨p, hp, q, hq, rfl, rfl, hclaim, -, -⟩ := id hj
  obtain ⟨_, _, q', hq', _, rfl, hclaim', -, -⟩ := hk
  obtain ⟨u, -, -, -, honly⟩ := h.claimed p hp (h.superseded_of_succeeds hp hj)
  rw [honly q hq hclaim, honly q' hq' hclaim']

theorem Succession.final_iff (h : Succession store) (hp : p ∈ store) :
    Final (Succeeds store) p.id ↔ p.status ≠ .superseded := by
  constructor
  · intro hfinal hs
    obtain ⟨q, hq, heq, hclaim, -⟩ := h.claimed p hp hs
    exact hfinal q.id ⟨p, hp, q, hq, rfl, rfl, hclaim, everPublished_of_superseded hs, heq⟩
  · intro hcurrent j hs
    exact hcurrent (h.superseded_of_succeeds hp hs)

theorem mem_of_hops (hp : p ∈ store) (h : Hops (Succeeds store) n p.id r) :
    ∃ c ∈ store, c.id = r := by
  generalize hi : p.id = i at h
  induction h generalizing p with
  | refl i => exact ⟨p, hp, hi⟩
  | step hs _ ih =>
    obtain ⟨_, _, q, hq, _, hid, _⟩ := hs
    exact ih hq hid

theorem findSuperseding_of_unique (hnodup : store.Nodup) (hq : q ∈ store)
    (hclaim : q.supersedesId = some i)
    (honly : ∀ r ∈ store, r.supersedesId = some i → r = q) :
    findSuperseding store i = .ok (some q) := by
  have hfilter : store.filter (fun p => p.supersedesId = some i) = [q] := by
    have hmem : ∀ r, r ∈ store.filter (fun p => p.supersedesId = some i) ↔ r = q := by
      intro r
      rw [List.mem_filter, decide_eq_true_iff]
      constructor
      · rintro ⟨hr, hr'⟩
        exact honly r hr hr'
      · rintro rfl
        exact ⟨hq, hclaim⟩
    have hperm := (List.perm_ext_iff_of_nodup (hnodup.filter _) (List.nodup_singleton q)).mpr
      fun r => (hmem r).trans List.mem_singleton.symm
    exact List.perm_singleton.mp hperm
  rw [findSuperseding, hfilter]
  rfl

/-- The walk reaches the end of the chain when its hops allow it. `seen` holds records
behind the cursor only, so the cycle test never fires. -/
theorem followSuccession_eq (h : Succession store) {start : PassportId} {fuel : ℕ}
    {seen : List PassportId} (hc : c ∈ store) (hhops : Hops (Succeeds store) n c.id r)
    (hfinal : Final (Succeeds store) r) (hfuel : n ≤ fuel)
    (hseen : ∀ a ∈ seen, ∃ m, Hops (Succeeds store) m a c.id) :
    ∃ d ∈ store, d.id = r ∧ followSuccession maxHops store start fuel seen c = .ok d := by
  induction n generalizing c fuel seen with
  | zero =>
    cases hhops
    have hcurrent := (h.final_iff hc).mp hfinal
    refine ⟨c, hc, rfl, ?_⟩
    cases fuel with
    | zero => simp [followSuccession, hcurrent]
    | succ fuel => simp [followSuccession, hcurrent]
  | succ n ih =>
    cases hhops with
    | @step _ _ j _ hs hrest =>
      have hsuperseded := h.superseded_of_succeeds hc hs
      obtain ⟨q, hq, heq, hclaim, honly⟩ := h.claimed c hc hsuperseded
      have hqs : Succeeds store c.id q.id :=
        ⟨c, hc, q, hq, rfl, rfl, hclaim, everPublished_of_superseded hsuperseded, heq⟩
      cases h.one _ _ _ hs hqs
      have hfresh : q.id ∉ seen := by
        intro hmem
        obtain ⟨m, hm⟩ := hseen _ hmem
        exact not_hops_self h.one hrest hfinal (hm.concat hqs)
      obtain ⟨fuel, rfl⟩ : ∃ m, fuel = m + 1 := ⟨fuel - 1, by omega⟩
      have hfound := findSuperseding_of_unique (List.Nodup.of_map _ h.ids) hq hclaim honly
      have hseen' : ∀ a ∈ q.id :: seen, ∃ m, Hops (Succeeds store) m a q.id := by
        intro a ha
        rcases List.mem_cons.mp ha with rfl | ha
        · exact ⟨0, .refl _⟩
        · obtain ⟨m, hm⟩ := hseen a ha
          exact ⟨m + 1, hm.concat hqs⟩
      obtain ⟨d, hd, hid, hrun⟩ := ih hq hrest (Nat.le_of_succ_le_succ hfuel) hseen'
      refine ⟨d, hd, hid, ?_⟩
      simp only [followSuccession, hsuperseded, hfound, heq.ne_draft, hfresh, ne_eq,
        not_true_eq_false, if_false]
      exact hrun

/-- Every chain that starts at a published record ends within the walk's hops. -/
def Settled (maxHops : ℕ) (store : Store) : Prop :=
  ∀ p ∈ store, EverPublished p → ∃ n r, n ≤ maxHops ∧ Hops (Succeeds store) n p.id r ∧
    Final (Succeeds store) r

theorem currentRecord_eq (h : Succession store) (hsettled : Settled maxHops store)
    (hp : p ∈ store) (hep : EverPublished p) (hc : c ∈ store)
    (hlatest : Latest (Succeeds store) p.id c.id) : currentRecord maxHops store p = .ok c := by
  obtain ⟨n, r, hn, hhops, hfinal⟩ := hsettled p hp hep
  have hr : r = c.id := Latest.unique h.one ⟨n, hhops, hfinal⟩ hlatest
  have hself : ∀ a ∈ [p.id], ∃ m, Hops (Succeeds store) m a p.id := by
    intro a ha
    rw [List.mem_singleton.mp ha]
    exact ⟨0, .refl _⟩
  obtain ⟨d, hd, hid, hrun⟩ := followSuccession_eq h hp hhops hfinal hn hself
  rw [h.eq_of_id hc hd (hr.symm.trans hid.symm)]
  exact hrun

/-- Records of one chain have one current record between them. -/
theorem currentRecords_eq (h : Succession store) (hsettled : Settled maxHops store)
    {current named : List Passport} (hsub : ∀ q ∈ named, q ∈ store) (hc : c ∈ store)
    (hlatest : ∀ q ∈ named, EverPublished q → Latest (Succeeds store) q.id c.id)
    (hcurrent : current = [c] ∨ current = [] ∧ ∃ q ∈ named, EverPublished q) :
    currentRecords maxHops store current named = .ok [c] := by
  induction named generalizing current with
  | nil =>
    rcases hcurrent with rfl | ⟨-, q, hq, -⟩
    · rfl
    · cases hq
  | cons q named ih =>
    have hsub' : ∀ q ∈ named, q ∈ store := fun q hq => hsub q (List.mem_cons_of_mem _ hq)
    have hlatest' := fun q hq => hlatest q (List.mem_cons_of_mem _ hq)
    by_cases hnever : q.neverPublished = true
    · rw [currentRecords, if_pos hnever]
      refine ih hsub' hlatest' ?_
      rcases hcurrent with hone | ⟨hnil, r, hr, her⟩
      · exact .inl hone
      · rcases List.mem_cons.mp hr with rfl | hr
        · cases hnever.symm.trans her
        · exact .inr ⟨hnil, r, hr, her⟩
    · have hep : EverPublished q := eq_false_of_ne_true hnever
      have hrecord := currentRecord_eq h hsettled (hsub q List.mem_cons_self) hep hc
        (hlatest q List.mem_cons_self hep)
      rw [currentRecords, if_neg hnever, hrecord]
      refine ih hsub' hlatest' (.inl ?_)
      rcases hcurrent with rfl | ⟨rfl, -⟩
      · simp
      · simp

theorem withoutPendingSuccessors_singleton : withoutPendingSuccessors [c] = [c] := by
  simp only [withoutPendingSuccessors, List.all_cons, List.all_nil, Bool.and_true]
  split_ifs with hpending
  · rfl
  · simpa using hpending

theorem mem_namedAt {label : String × CarrierQualifier} :
    q ∈ namedAt store (.gs1 label.1) label.2.level label.2 ↔
      q ∈ store ∧ labelNames label q = true := by
  obtain ⟨gtin, qualifier⟩ := label
  cases qualifier with
  | serial value =>
    simp [namedAt, findByCarrier, labelNames, CarrierQualifier.level]
  | batch lot =>
    simp [namedAt, findByCarrier, labelNames, CarrierQualifier.level]
  | model =>
    simp [namedAt, findByCarrier, findByIdentifier, labelNames, CarrierQualifier.level]
    tauto

/-- A record that prints a label claims it, and is found by its qualifier. -/
theorem printedLabel_claims {label : String × CarrierQualifier} (h : p.printedLabel = some label) :
    Claim.of p = some (.label (.gs1 label.1) label.2) ∧ p.carries (.gs1 label.1) = true ∧
      printedAs label.2 p = true := by
  unfold Passport.printedLabel at h
  split at h
  next gtin hid =>
    obtain ⟨qualifier, hq, rfl⟩ := Option.map_eq_some_iff.mp h
    have hprinted : printedAs qualifier p = true := by
      cases qualifier with
      | serial value =>
        unfold Passport.carrierQualifier at hq
        split at hq
        · cases hq
        · simp at hq
        · simpa [printedAs] using hq
      | batch lot => simpa [printedAs] using hq
      | model => simpa [printedAs] using hq
    refine ⟨?_, by simp [Passport.carries, hid], hprinted⟩
    simp [Claim.of, hid, ProductIdentifier.gtin, hq]
  next => cases h

theorem printedLabel_names {label : String × CarrierQualifier} (h : p.printedLabel = some label) :
    labelNames label p = true := by
  obtain ⟨-, hcarries, hprinted⟩ := printedLabel_claims h
  simp [labelNames, hcarries, hprinted]

theorem labelLadder_head (qualifier : CarrierQualifier) :
    ∃ lower, labelLadder qualifier.parts.1 qualifier.parts.2 =
      (qualifier.level, qualifier) :: lower := by
  cases qualifier with
  | serial value => exact ⟨_, rfl⟩
  | batch lot => exact ⟨_, rfl⟩
  | model => exact ⟨_, rfl⟩

/-- A label resolves at its own level to the record its chain has come to, when every
published record the label names belongs to that chain. -/
theorem resolveLabel_eq (h : Succession store) (hsettled : Settled maxHops store)
    {label : String × CarrierQualifier} (hp : p ∈ store) (hep : EverPublished p)
    (hlabel : p.printedLabel = some label) (hc : c ∈ store)
    (hlatest : ∀ q ∈ store, EverPublished q → labelNames label q = true →
      Latest (Succeeds store) q.id c.id) :
    resolveLabel maxHops store label.1 label.2.parts.1 label.2.parts.2 =
      .ok (some ⟨c, label.2.level, label.2.level⟩) := by
  have hcurrent : currentFor maxHops store (.gs1 label.1)
      (namedAt store (.gs1 label.1) label.2.level label.2) = .ok (some c) := by
    have hnamed : ∃ q ∈ namedAt store (.gs1 label.1) label.2.level label.2, EverPublished q :=
      ⟨p, mem_namedAt.mpr ⟨hp, printedLabel_names hlabel⟩, hep⟩
    have hrecords : currentRecords maxHops store []
        (namedAt store (.gs1 label.1) label.2.level label.2) = .ok [c] :=
      currentRecords_eq h hsettled (fun q hq => (mem_namedAt.mp hq).1) hc
        (fun q hq heq => hlatest q (mem_namedAt.mp hq).1 heq (mem_namedAt.mp hq).2)
        (.inr ⟨rfl, hnamed⟩)
    rw [currentFor, hrecords]
    simp only [withoutPendingSuccessors_singleton]
  obtain ⟨lower, hladder⟩ := labelLadder_head label.2
  simp only [resolveLabel, hladder, List.head?_cons, Option.map_some, Option.getD_some,
    resolveLadder, hcurrent]

end Labels

end PrintedLabels
