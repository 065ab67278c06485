import DppEngine.PrintedLabels
import DppEngine.TransitionSystems

/-! Amendment chains and the labels that lead into them.

An amendment writes a successor, publishes it and then supersedes its predecessor. A
publish that is refused leaves the successor behind as a draft, and the draft keeps
naming its predecessor. Requests run one after another; `gates` is the answer of the
checks and of the signing that publish does besides asking who holds the label. -/
namespace AmendedLabels

open PassportModel (PassportStatus PassportId)
open PrintedLabels TransitionSystems SuccessionChains

structure NewPassport where
  identifier : Option ProductIdentifier
  granularity : Option Granularity
  batchId : Option String
  serialNumber : Option String
  carrierSerial : Option String
  supersedesId : Option PassportId
  deriving DecidableEq, Repr

structure Patch where
  carrierSerial : Option String
  identifier : Option (Option ProductIdentifier)
  deriving DecidableEq, Repr

inductive Event where
  | create (id : PassportId) (body : NewPassport)
  | publish (id : PassportId) (gates : Bool) (now : Int)
  | suspend (id : PassportId)
  | amend (id successorId : PassportId) (patch : Patch) (gates committed : Bool) (now : Int)
  deriving DecidableEq, Repr

section Requests

variable (s : Store)

def holds (id : PassportId) : Bool := s.any fun p => p.id = id

def revise (id : PassportId) (f : Passport → Passport) : Store :=
  s.map fun p => if p.id = id then f p else p

def carrierSerialConflict (body : NewPassport) : Bool :=
  body.carrierSerial.any fun serial => body.identifier.any fun identifier =>
    carrierSerialIsTaken s identifier serial body.supersedesId

def newDraft (id : PassportId) (body : NewPassport) : Passport where
  id := id
  status := .draft
  publishedAt := none
  supersedesId := body.supersedesId
  identifier := body.identifier
  granularity := body.granularity
  batchId := body.batchId
  serialNumber := body.serialNumber
  carrierSerial := body.carrierSerial

/-- The row is inserted when its serial is free, its key new and its foreign key good. -/
def create (id : PassportId) (body : NewPassport) : Option Store :=
  if carrierSerialConflict s body then none
  else if holds s id then none
  else if body.supersedesId.any fun i => !holds s i then none
  else some (s ++ [newDraft id body])

def accepted (p : Passport) (gates : Bool) : Bool :=
  p.status.canTransitionTo .published && (heldElsewhere s p).isNone && gates

def goLive (now : Int) (p : Passport) : Passport :=
  { p with status := .published, publishedAt := some (p.publishedAt.getD now) }

def publish (id : PassportId) (gates : Bool) (now : Int) : Option Store :=
  match findById s id with
  | none => none
  | some p => if accepted s p gates then some (revise s id (goLive now)) else none

def withStatus (status : PassportStatus) (p : Passport) : Passport := { p with status }

def suspend (id : PassportId) : Option Store :=
  match findById s id with
  | none => none
  | some p =>
    if p.status.canTransitionTo .suspended then some (revise s id (withStatus .suspended))
    else none

def applyPatch (p : Passport) (patch : Patch) : Option Passport :=
  if patch.carrierSerial.any fun serial => serial ≠ p.effectiveCarrierSerial then none
  else some { p with identifier := patch.identifier.getD p.identifier }

def draftSuccessor (predecessor : Passport) (successorId : PassportId) (patch : Patch) :
    Option Passport :=
  let successor := { predecessor with
    id := successorId
    supersedesId := some predecessor.id
    status := .draft
    carrierSerial := some predecessor.effectiveCarrierSerial
    publishedAt := none }
  applyPatch successor patch

/-- `committed` is whether the last write, the predecessor's status, goes through. -/
def amend (id successorId : PassportId) (patch : Patch) (gates committed : Bool) (now : Int) :
    Option Store :=
  match findById s id with
  | none => none
  | some predecessor =>
    if !predecessor.status.canTransitionTo .superseded then none
    else
      match draftSuccessor predecessor successorId patch with
      | none => none
      | some successor =>
        if holds s successorId then none
        else
          let s := s ++ [successor]
          if !accepted s successor gates then some s
          else
            let s := revise s successorId (goLive now)
            if committed then some (revise s id (withStatus .superseded)) else some s

/-- A refused request is no step; an amendment whose publish is refused is one. -/
def next : Event → Option Store
  | .create id body => create s id body
  | .publish id gates now => publish s id gates now
  | .suspend id => suspend s id
  | .amend id successorId patch gates committed now =>
    amend s id successorId patch gates committed now

end Requests

section Conditions

def SharesLabel (p q : Passport) : Prop :=
  (∃ label, p.printedLabel = some label ∧ labelNames label q = true) ∨
    ∃ label, q.printedLabel = some label ∧ labelNames label p = true

/-- `x` goes live on its own: it neither names nor is named by a published record, and
shares a label with none. -/
def Alone (s : Store) (x : Passport) : Prop :=
  ∀ p ∈ s, EverPublished p →
    x.supersedesId ≠ some p.id ∧ p.supersedesId ≠ some x.id ∧ ¬SharesLabel p x

/-- `x` goes live as the one successor of `predecessor`: no record names the predecessor
already, the records behind it stay within the walk's hops, and `x` shares a label only
with the chain it continues. -/
def Continues (maxHops : ℕ) (s : Store) (predecessor : PassportId) (x : Passport) : Prop :=
  (∀ q ∈ s, q.supersedesId ≠ some predecessor) ∧
    ∀ p ∈ s, EverPublished p →
      (∀ n, Hops (Succeeds s) n p.id predecessor → n < maxHops) ∧
        (SharesLabel p x → ∃ n, Hops (Succeeds s) n p.id predecessor)

def KeepsChains (maxHops : ℕ) (s : Store) : Event → Prop
  | .create _ body => ∀ p ∈ s, body.supersedesId = some p.id → p.status ≠ .superseded
  | .publish id gates _ => ∀ x ∈ s, x.id = id → x.status = .draft → accepted s x gates = true →
      Alone s x
  | .suspend _ => True
  | .amend id successorId patch gates committed _ => ∀ p ∈ s, p.id = id →
      ∀ x, draftSuccessor p successorId patch = some x → accepted (s ++ [x]) x gates = true →
        committed = true ∧ Continues maxHops s id x

/-- Between two requests: chains are in order and within reach, and records that one
label names belong to one chain. -/
structure Coherent (maxHops : ℕ) (s : Store) : Prop extends Succession s where
  refs : ∀ q ∈ s, ∀ i, q.supersedesId = some i → ∃ p ∈ s, p.id = i
  forward : ∀ q ∈ s, q.supersedesId ≠ some q.id
  settled : Settled maxHops s
  shared : ∀ p ∈ s, ∀ q ∈ s, EverPublished p → EverPublished q → ∀ label,
    p.printedLabel = some label → labelNames label q = true →
    ∃ r, Latest (Succeeds s) p.id r ∧ Latest (Succeeds s) q.id r
  stamped : ∀ p ∈ s, p.publishedAt.isSome = true ↔ EverPublished p

end Conditions

section Rows

variable {s : Store} {maxHops : ℕ} {p q x y : Passport} {id i j : PassportId}
  {f : Passport → Passport} {now : Int}

theorem holds_eq_false : holds s id = false ↔ ∀ p ∈ s, p.id ≠ id := by
  simp [holds]

theorem findById_some (h : findById s id = some p) : p ∈ s ∧ p.id = id := by
  refine ⟨List.mem_of_find?_eq_some h, ?_⟩
  simpa using List.find?_some h

theorem mem_revise (hids : (s.map Passport.id).Nodup) (hx : x ∈ s) :
    q ∈ revise s x.id f ↔ q ∈ s ∧ q.id ≠ x.id ∨ q = f x := by
  simp only [revise, List.mem_map]
  constructor
  · rintro ⟨p, hp, rfl⟩
    by_cases hid : p.id = x.id
    · cases List.inj_on_of_nodup_map hids hp hx hid
      exact .inr (if_pos rfl)
    · rw [if_neg hid]
      exact .inl ⟨hp, hid⟩
  · rintro (⟨hq, hid⟩ | rfl)
    · exact ⟨q, hq, if_neg hid⟩
    · exact ⟨x, hx, if_pos rfl⟩

theorem revise_nodup (hids : (s.map Passport.id).Nodup) (hf : ∀ p, (f p).id = p.id) :
    ((revise s id f).map Passport.id).Nodup := by
  have hsame : (revise s id f).map Passport.id = s.map Passport.id := by
    rw [revise, List.map_map]
    refine List.map_congr_left fun p _ => ?_
    simp only [Function.comp_apply]
    split
    · exact hf p
    · rfl
  rwa [hsame]

def Restated (x y : Passport) : Prop :=
  y = { x with status := y.status, publishedAt := y.publishedAt }

theorem Restated.symm (h : Restated x y) : Restated y x := by
  obtain ⟨⟩ := x
  rw [h]
  rfl

theorem Restated.trans {z : Passport} (h : Restated x y) (h' : Restated y z) : Restated x z := by
  obtain ⟨⟩ := x
  rw [h'] at *
  rw [h]
  rfl

theorem Restated.label (h : Restated x y) : y.printedLabel = x.printedLabel := by
  rw [h]
  rfl

theorem Restated.names (h : Restated x y) (label : String × CarrierQualifier) :
    labelNames label y = labelNames label x := by
  rw [h]
  rfl

theorem Restated.id_eq (h : Restated x y) : y.id = x.id := by rw [h]

theorem Restated.supersedesId_eq (h : Restated x y) : y.supersedesId = x.supersedesId := by rw [h]

theorem succeeds_left (h : Succeeds s i j) : ∃ p ∈ s, p.id = i ∧ EverPublished p := by
  obtain ⟨p, hp, _, _, hid, _, _, hep, _⟩ := h
  exact ⟨p, hp, hid, hep⟩

theorem final_of_not_published (h : ∀ p ∈ s, p.id = i → ¬EverPublished p) :
    Final (Succeeds s) i := by
  intro j hs
  obtain ⟨p, hp, hid, hep⟩ := succeeds_left hs
  exact h p hp hid hep

theorem not_everPublished_of_draft (h : p.status = .draft) : ¬EverPublished p :=
  fun hep => hep.ne_draft h

theorem everPublished_of_published (h : p.status = .published) : EverPublished p :=
  everPublished_of_status (by simp [h]) (by simp [h])

theorem mem_concat {a : Passport} : q ∈ s ++ [a] ↔ q ∈ s ∨ q = a := by simp

theorem concat_nodup (hids : (s.map Passport.id).Nodup) (hfresh : ∀ p ∈ s, p.id ≠ x.id) :
    ((s ++ [x]).map Passport.id).Nodup := by
  rw [List.map_append]
  refine List.nodup_append.mpr ⟨hids, List.nodup_singleton _, ?_⟩
  intro i hi j hj
  obtain ⟨p, hp, rfl⟩ := List.mem_map.mp hi
  rw [List.mem_singleton.mp hj]
  exact hfresh p hp

end Rows

section Drafts

variable {s : Store} {maxHops : ℕ} {x : Passport}

theorem succeeds_concat_draft (hx : ¬EverPublished x) : Succeeds (s ++ [x]) = Succeeds s := by
  funext i j
  apply propext
  constructor
  · rintro ⟨p, hp, q, hq, hi, hj, hclaim, hep, heq⟩
    rcases mem_concat.mp hp with hp | rfl
    · rcases mem_concat.mp hq with hq | rfl
      · exact ⟨p, hp, q, hq, hi, hj, hclaim, hep, heq⟩
      · exact absurd heq hx
    · exact absurd hep hx
  · rintro ⟨p, hp, q, hq, h⟩
    exact ⟨p, List.mem_append_left _ hp, q, List.mem_append_left _ hq, h⟩

/-- A new draft leaves every chain as it was, unless it names a superseded record. -/
theorem Coherent.concat_draft (h : Coherent maxHops s) (hdraft : x.status = .draft)
    (hstamp : x.publishedAt = none) (hfresh : ∀ p ∈ s, p.id ≠ x.id)
    (hrefs : ∀ i, x.supersedesId = some i → ∃ p ∈ s, p.id = i)
    (hname : ∀ p ∈ s, x.supersedesId = some p.id → p.status ≠ .superseded) :
    Coherent maxHops (s ++ [x]) := by
  have hx : ¬EverPublished x := not_everPublished_of_draft hdraft
  have hold : ∀ {p}, p ∈ s ++ [x] → EverPublished p → p ∈ s := by
    intro p hp hep
    rcases mem_concat.mp hp with hp | rfl
    · exact hp
    · exact absurd hep hx
  have hsucc : Succeeds (s ++ [x]) = Succeeds s := succeeds_concat_draft hx
  constructor
  case toSuccession =>
    constructor
    case ids => exact concat_nodup h.ids hfresh
    case claimed =>
      intro p hp hs
      have hmem := hold hp (everPublished_of_superseded hs)
      obtain ⟨q, hq, heq, hclaim, honly⟩ := h.claimed p hmem hs
      refine ⟨q, List.mem_append_left _ hq, heq, hclaim, ?_⟩
      intro r hr hr'
      rcases mem_concat.mp hr with hr | rfl
      · exact honly r hr hr'
      · exact absurd hs (hname p hmem hr')
    case linked =>
      intro p hp q hq hep heq hclaim
      exact h.linked p (hold hp hep) q (hold hq heq) hep heq hclaim
  case refs =>
    intro q hq i hi
    have hold' : ∃ p ∈ s, p.id = i := by
      rcases mem_concat.mp hq with hq | rfl
      · exact h.refs q hq i hi
      · exact hrefs i hi
    obtain ⟨p, hp, hid⟩ := hold'
    exact ⟨p, List.mem_append_left _ hp, hid⟩
  case forward =>
    intro q hq
    rcases mem_concat.mp hq with hq | rfl
    · exact h.forward q hq
    · intro hself
      obtain ⟨p, hp, hid⟩ := hrefs q.id hself
      exact hfresh p hp hid
  case settled =>
    intro p hp hep
    rw [hsucc]
    exact h.settled p (hold hp hep) hep
  case shared =>
    intro p hp q hq hep heq label hlabel hnames
    rw [hsucc]
    exact h.shared p (hold hp hep) q (hold hq heq) hep heq label hlabel hnames
  case stamped =>
    intro p hp
    rcases mem_concat.mp hp with hp | rfl
    · exact h.stamped p hp
    · simp [hstamp, hx]

end Drafts

section Restating

variable {s s' : Store} {maxHops : ℕ} {x y : Passport}

structure Rewrite (s s' : Store) (x y : Passport) : Prop where
  mem : x ∈ s
  rows : ∀ q, q ∈ s' ↔ q ∈ s ∧ q.id ≠ x.id ∨ q = y
  restated : Restated x y
  published : EverPublished x → EverPublished y
  current : x.status ≠ .superseded ∧ y.status ≠ .superseded
  alone : ¬EverPublished x → Alone s x

theorem Rewrite.image (h : Rewrite s s' x y) {p : Passport} (hids : Succession s) (hp : p ∈ s)
    (hep : EverPublished p) : ∃ p' ∈ s', p'.id = p.id ∧ EverPublished p' ∧
      p'.supersedesId = p.supersedesId ∧ (p.id = x.id → p' = y) ∧ (p.id ≠ x.id → p' = p) := by
  by_cases hid : p.id = x.id
  · cases hids.eq_of_id hp h.mem hid
    exact ⟨y, (h.rows y).mpr (.inr rfl), h.restated.id_eq, h.published hep,
      h.restated.supersedesId_eq, fun _ => rfl, fun hne => absurd rfl hne⟩
  · exact ⟨p, (h.rows p).mpr (.inl ⟨hp, hid⟩), rfl, hep, rfl, fun heq => absurd heq hid,
      fun _ => rfl⟩

theorem Rewrite.succeeds_eq (h : Rewrite s s' x y) (hs : Coherent maxHops s) :
    Succeeds s' = Succeeds s := by
  funext i j
  apply propext
  constructor
  · rintro ⟨p, hp, q, hq, rfl, rfl, hclaim, hep, heq⟩
    have hid := h.restated.id_eq
    rcases (h.rows p).mp hp with ⟨hp, -⟩ | rfl
    · rcases (h.rows q).mp hq with ⟨hq, -⟩ | rfl
      · exact ⟨p, hp, q, hq, rfl, rfl, hclaim, hep, heq⟩
      · rw [h.restated.supersedesId_eq] at hclaim
        by_cases hx : EverPublished x
        · exact ⟨p, hp, x, h.mem, rfl, hid.symm, hclaim, hep, hx⟩
        · exact absurd hclaim (h.alone hx p hp hep).1
    · rcases (h.rows q).mp hq with ⟨hq, -⟩ | rfl
      · rw [hid] at hclaim ⊢
        by_cases hx : EverPublished x
        · exact ⟨x, h.mem, q, hq, rfl, rfl, hclaim, hx, heq⟩
        · exact absurd hclaim (h.alone hx q hq heq).2.1
      · rw [h.restated.supersedesId_eq, hid] at hclaim
        exact absurd hclaim (hs.forward x h.mem)
  · rintro ⟨p, hp, q, hq, rfl, rfl, hclaim, hep, heq⟩
    obtain ⟨p', hp', hpid, hep', -⟩ := h.image hs.toSuccession hp hep
    obtain ⟨q', hq', hqid, heq', hqs, -⟩ := h.image hs.toSuccession hq heq
    exact ⟨p', hp', q', hq', hpid, hqid, hqs.trans hclaim, hep', heq'⟩

theorem Rewrite.settled (h : Rewrite s s' x y) (hs : Coherent maxHops s) :
    Settled maxHops s' := by
  intro p hp hep
  rw [h.succeeds_eq hs]
  rcases (h.rows p).mp hp with ⟨hp, -⟩ | rfl
  · exact hs.settled p hp hep
  · rw [h.restated.id_eq]
    by_cases hx : EverPublished x
    · exact hs.settled x h.mem hx
    · refine ⟨0, x.id, Nat.zero_le _, .refl _, final_of_not_published ?_⟩
      intro q hq hid hq'
      cases hs.eq_of_id hq h.mem hid
      exact hx hq'

theorem Rewrite.succession (h : Rewrite s s' x y) (hs : Coherent maxHops s)
    (hids : (s'.map Passport.id).Nodup) : Succession s' := by
  constructor
  case ids => exact hids
  case claimed =>
    intro p hp hsuper
    rcases (h.rows p).mp hp with ⟨hp, hne⟩ | rfl
    · obtain ⟨q, hq, heq, hclaim, honly⟩ := hs.claimed p hp hsuper
      obtain ⟨q', hq', -, heq', hqs, hself, hother⟩ := h.image hs.toSuccession hq heq
      refine ⟨q', hq', heq', hqs.trans hclaim, ?_⟩
      intro r hr hr'
      rcases (h.rows r).mp hr with ⟨hr, hrne⟩ | rfl
      · cases honly r hr hr'
        exact (hother hrne).symm
      · rw [h.restated.supersedesId_eq] at hr'
        cases honly x h.mem hr'
        exact (hself rfl).symm
    · exact absurd hsuper h.current.2
  case linked =>
    intro p hp q hq hep heq hclaim
    have hsucc : Succeeds s' p.id q.id := ⟨p, hp, q, hq, rfl, rfl, hclaim, hep, heq⟩
    rw [h.succeeds_eq hs] at hsucc
    rcases (h.rows p).mp hp with ⟨hp, -⟩ | rfl
    · exact hs.superseded_of_succeeds hp hsucc
    · rw [h.restated.id_eq] at hsucc
      exact absurd (hs.superseded_of_succeeds h.mem hsucc) h.current.1

theorem Rewrite.coherent (h : Rewrite s s' x y) (hs : Coherent maxHops s)
    (hids : (s'.map Passport.id).Nodup)
    (hstamp : y.publishedAt.isSome = true ↔ EverPublished y) : Coherent maxHops s' := by
  have hsettled := h.settled hs
  constructor
  case toSuccession => exact h.succession hs hids
  case refs =>
    intro q hq i hi
    have hold : ∃ p ∈ s, p.id = i := by
      rcases (h.rows q).mp hq with ⟨hq, -⟩ | rfl
      · exact hs.refs q hq i hi
      · exact hs.refs x h.mem i (h.restated.supersedesId_eq ▸ hi)
    obtain ⟨p, hp, rfl⟩ := hold
    by_cases hid : p.id = x.id
    · exact ⟨y, (h.rows y).mpr (.inr rfl), h.restated.id_eq.trans hid.symm⟩
    · exact ⟨p, (h.rows p).mpr (.inl ⟨hp, hid⟩), rfl⟩
  case forward =>
    intro q hq
    rcases (h.rows q).mp hq with ⟨hq, -⟩ | rfl
    · exact hs.forward q hq
    · rw [h.restated.supersedesId_eq, h.restated.id_eq]
      exact hs.forward x h.mem
  case settled => exact hsettled
  case shared =>
    intro p hp q hq hep heq label hlabel hnames
    have hsucc := h.succeeds_eq hs
    rcases (h.rows p).mp hp with ⟨hp', -⟩ | rfl <;> rcases (h.rows q).mp hq with ⟨hq', -⟩ | rfl
    · rw [hsucc]
      exact hs.shared p hp' q hq' hep heq label hlabel hnames
    · rw [h.restated.names] at hnames
      by_cases hx : EverPublished x
      · rw [hsucc, h.restated.id_eq]
        exact hs.shared p hp' x h.mem hep hx label hlabel hnames
      · exact absurd (.inl ⟨label, hlabel, hnames⟩) (h.alone hx p hp' hep).2.2
    · rw [h.restated.label] at hlabel
      by_cases hx : EverPublished x
      · rw [hsucc, h.restated.id_eq]
        exact hs.shared x h.mem q hq' hx heq label hlabel hnames
      · exact absurd (.inr ⟨label, hlabel, hnames⟩) (h.alone hx q hq' heq).2.2
    · obtain ⟨n, r, -, hhops, hfinal⟩ := hsettled _ hp hep
      exact ⟨r, ⟨n, hhops, hfinal⟩, n, hhops, hfinal⟩
  case stamped =>
    intro p hp
    rcases (h.rows p).mp hp with ⟨hp, -⟩ | rfl
    · exact hs.stamped p hp
    · exact hstamp

end Restating

section Amending

variable {s s' : Store} {maxHops : ℕ} {p p' x q : Passport}

structure Amendment (maxHops : ℕ) (s s' : Store) (p p' x : Passport) : Prop where
  mem : p ∈ s
  rows : ∀ q, q ∈ s' ↔ q ∈ s ∧ q.id ≠ p.id ∨ q = p' ∨ q = x
  restated : Restated p p'
  published : EverPublished p
  current : p.status ≠ .superseded
  superseded : p'.status = .superseded
  names : x.supersedesId = some p.id
  live : EverPublished x
  last : x.status ≠ .superseded
  fresh : ∀ q ∈ s, q.id ≠ x.id
  continues : Continues maxHops s p.id x

theorem Restated.refl (q : Passport) : Restated q q := rfl

theorem Amendment.origin (h : Amendment maxHops s s' p p' x) (hq : q ∈ s') :
    q = x ∨ ∃ q₀ ∈ s, Restated q₀ q ∧ (EverPublished q → EverPublished q₀) := by
  rcases (h.rows q).mp hq with ⟨hq, -⟩ | rfl | rfl
  · exact .inr ⟨q, hq, .refl q, fun hep => hep⟩
  · exact .inr ⟨p, h.mem, h.restated, fun _ => h.published⟩
  · exact .inl rfl

theorem Amendment.image (h : Amendment maxHops s s' p p' x) (hs : Succession s) (hq : q ∈ s)
    (hep : EverPublished q) :
    ∃ q' ∈ s', Restated q q' ∧ EverPublished q' ∧ (q.id ≠ p.id → q' = q) := by
  by_cases hid : q.id = p.id
  · cases hs.eq_of_id hq h.mem hid
    exact ⟨p', (h.rows p').mpr (.inr (.inl rfl)), h.restated,
      everPublished_of_superseded h.superseded, fun hne => absurd rfl hne⟩
  · exact ⟨q, (h.rows q).mpr (.inl ⟨hq, hid⟩), .refl q, hep, fun _ => rfl⟩

theorem Amendment.succeeds_eq (h : Amendment maxHops s s' p p' x) (hs : Coherent maxHops s) :
    Succeeds s' = Extended (Succeeds s) p.id x.id := by
  funext i j
  apply propext
  constructor
  · rintro ⟨a, ha, b, hb, rfl, rfl, hclaim, hea, heb⟩
    rcases h.origin hb with rfl | ⟨b₀, hb₀, hrb, heb₀⟩
    · rw [h.names] at hclaim
      exact .inr ⟨(Option.some.inj hclaim).symm, rfl⟩
    · rw [hrb.supersedesId_eq] at hclaim
      rcases h.origin ha with rfl | ⟨a₀, ha₀, hra, hea₀⟩
      · -- the new record is named by nothing that was stored before it
        obtain ⟨c, hc, hid⟩ := hs.refs b₀ hb₀ _ hclaim
        exact absurd hid (h.fresh c hc)
      · left
        exact ⟨a₀, ha₀, b₀, hb₀, hra.id_eq.symm, hrb.id_eq.symm, hclaim, hea₀ hea, heb₀ heb⟩
  · rintro (⟨a, ha, b, hb, rfl, rfl, hclaim, hea, heb⟩ | ⟨rfl, rfl⟩)
    · obtain ⟨a', ha', hra, hea', -⟩ := h.image hs.toSuccession ha hea
      obtain ⟨b', hb', hrb, heb', -⟩ := h.image hs.toSuccession hb heb
      exact ⟨a', ha', b', hb', hra.id_eq, hrb.id_eq, hrb.supersedesId_eq.trans hclaim, hea', heb'⟩
    · exact ⟨p', (h.rows p').mpr (.inr (.inl rfl)), x, (h.rows x).mpr (.inr (.inr rfl)),
        h.restated.id_eq, rfl, h.names, everPublished_of_superseded h.superseded, h.live⟩

theorem Amendment.final_new (h : Amendment maxHops s s' p p' x) :
    Final (Extended (Succeeds s) p.id x.id) x.id := by
  refine final_extended (final_of_not_published ?_) ?_
  · intro q hq hid
    exact absurd hid (h.fresh q hq)
  · exact fun hid => h.fresh p h.mem hid.symm

/-- What led to the predecessor leads to the successor; other chains end where they did. -/
theorem Amendment.latest (h : Amendment maxHops s s' p p' x) {i r : PassportId}
    (hlatest : Latest (Succeeds s) i r) :
    Latest (Extended (Succeeds s) p.id x.id) i (if r = p.id then x.id else r) := by
  split_ifs with hr
  · subst hr
    obtain ⟨n, hn, -⟩ := hlatest
    exact ⟨n + 1, hn.extend_last, h.final_new⟩
  · exact hlatest.extend hr

theorem Amendment.settled (h : Amendment maxHops s s' p p' x) (hs : Coherent maxHops s) :
    Settled maxHops s' := by
  intro q hq hep
  rw [h.succeeds_eq hs]
  rcases h.origin hq with rfl | ⟨q₀, hq₀, hrestated, hep₀⟩
  · exact ⟨0, q.id, Nat.zero_le _, .refl _, h.final_new⟩
  · rw [hrestated.id_eq]
    obtain ⟨n, r, hn, hhops, hfinal⟩ := hs.settled q₀ hq₀ (hep₀ hep)
    by_cases hr : r = p.id
    · subst hr
      have hroom := (h.continues.2 q₀ hq₀ (hep₀ hep)).1 n hhops
      exact ⟨n + 1, x.id, hroom, hhops.extend_last, h.final_new⟩
    · exact ⟨n, r, hn, hhops.extend, final_extended hfinal hr⟩

theorem Amendment.succession (h : Amendment maxHops s s' p p' x) (hs : Coherent maxHops s)
    (hids : (s'.map Passport.id).Nodup) : Succession s' := by
  constructor
  case ids => exact hids
  case claimed =>
    intro q hq hsuper
    rcases (h.rows q).mp hq with ⟨hq, hne⟩ | rfl | rfl
    · obtain ⟨a, ha, hea, hclaim, honly⟩ := hs.claimed q hq hsuper
      obtain ⟨a', ha', hrestated, hea', hother⟩ := h.image hs.toSuccession ha hea
      refine ⟨a', ha', hea', hrestated.supersedesId_eq.trans hclaim, ?_⟩
      intro r hr hr'
      rcases (h.rows r).mp hr with ⟨hr, hrne⟩ | rfl | rfl
      · cases honly r hr hr'
        exact (hother hrne).symm
      · rw [h.restated.supersedesId_eq] at hr'
        cases honly p h.mem hr'
        rcases (h.rows a').mp ha' with ⟨-, hne'⟩ | rfl | rfl
        · exact absurd hrestated.id_eq hne'
        · rfl
        · exact absurd hrestated.id_eq.symm (h.fresh p h.mem)
      · rw [h.names] at hr'
        exact absurd (Option.some.inj hr').symm hne
    · refine ⟨x, (h.rows x).mpr (.inr (.inr rfl)), h.live, ?_, ?_⟩
      · rw [h.names, h.restated.id_eq]
      · intro r hr hr'
        rw [h.restated.id_eq] at hr'
        rcases h.origin hr with rfl | ⟨r₀, hr₀, hrestated, -⟩
        · rfl
        · rw [hrestated.supersedesId_eq] at hr'
          exact absurd hr' (h.continues.1 r₀ hr₀)
    · exact absurd hsuper h.last
  case linked =>
    intro a ha b hb hea heb hclaim
    have hsucc : Succeeds s' a.id b.id := ⟨a, ha, b, hb, rfl, rfl, hclaim, hea, heb⟩
    rw [h.succeeds_eq hs] at hsucc
    rcases (h.rows a).mp ha with ⟨ha, hne⟩ | rfl | rfl
    · rcases hsucc with hsucc | ⟨hid, -⟩
      · exact hs.superseded_of_succeeds ha hsucc
      · exact absurd hid hne
    · exact h.superseded
    · exact absurd hsucc (h.final_new b.id)

theorem Amendment.coherent (h : Amendment maxHops s s' p p' x) (hs : Coherent maxHops s)
    (hids : (s'.map Passport.id).Nodup) (hp : p'.publishedAt.isSome = true)
    (hx : x.publishedAt.isSome = true) : Coherent maxHops s' := by
  have hsettled := h.settled hs
  have hsucc := h.succeeds_eq hs
  constructor
  case toSuccession => exact h.succession hs hids
  case refs =>
    intro q hq i hi
    have hold : ∃ a ∈ s, a.id = i := by
      rcases h.origin hq with rfl | ⟨q₀, hq₀, hrestated, -⟩
      · rw [h.names] at hi
        exact ⟨p, h.mem, Option.some.inj hi⟩
      · exact hs.refs q₀ hq₀ i (hrestated.supersedesId_eq ▸ hi)
    obtain ⟨a, ha, rfl⟩ := hold
    by_cases hid : a.id = p.id
    · exact ⟨p', (h.rows p').mpr (.inr (.inl rfl)), h.restated.id_eq.trans hid.symm⟩
    · exact ⟨a, (h.rows a).mpr (.inl ⟨ha, hid⟩), rfl⟩
  case forward =>
    intro q hq
    rcases h.origin hq with rfl | ⟨q₀, hq₀, hrestated, -⟩
    · rw [h.names]
      exact fun hid => h.fresh p h.mem (Option.some.inj hid)
    · rw [hrestated.supersedesId_eq, hrestated.id_eq]
      exact hs.forward q₀ hq₀
  case settled => exact hsettled
  case shared =>
    intro a ha b hb hea heb label hlabel hnames
    rw [hsucc]
    have hnew : Latest (Extended (Succeeds s) p.id x.id) x.id x.id := ⟨0, .refl _, h.final_new⟩
    -- a record that shares the successor's label was on the chain it continues
    have hjoined : ∀ c ∈ s, EverPublished c → SharesLabel c x →
        Latest (Extended (Succeeds s) p.id x.id) c.id x.id := by
      intro c hc hec hshares
      obtain ⟨n, hn⟩ := (h.continues.2 c hc hec).2 hshares
      exact ⟨n + 1, hn.extend_last, h.final_new⟩
    rcases h.origin ha with rfl | ⟨a₀, ha₀, hra, hea₀⟩ <;>
      rcases h.origin hb with rfl | ⟨b₀, hb₀, hrb, heb₀⟩
    · exact ⟨_, hnew, hnew⟩
    · rw [hrb.names] at hnames
      rw [hrb.id_eq]
      exact ⟨_, hnew, hjoined b₀ hb₀ (heb₀ heb) (.inr ⟨label, hlabel, hnames⟩)⟩
    · rw [hra.label] at hlabel
      rw [hra.id_eq]
      exact ⟨_, hjoined a₀ ha₀ (hea₀ hea) (.inl ⟨label, hlabel, hnames⟩), hnew⟩
    · rw [hra.label] at hlabel
      rw [hrb.names] at hnames
      rw [hra.id_eq, hrb.id_eq]
      obtain ⟨r, hla, hlb⟩ := hs.shared a₀ ha₀ b₀ hb₀ (hea₀ hea) (heb₀ heb) label hlabel hnames
      exact ⟨_, h.latest hla, h.latest hlb⟩
  case stamped =>
    intro q hq
    rcases (h.rows q).mp hq with ⟨hq, -⟩ | rfl | rfl
    · exact hs.stamped q hq
    · exact iff_of_true hp (everPublished_of_superseded h.superseded)
    · exact iff_of_true hx h.live

end Amending

section Steps

variable {s s' : Store} {maxHops : ℕ} {p x : Passport} {id successorId : PassportId}
  {body : NewPassport} {patch : Patch} {gates committed : Bool} {now : Int}

theorem goLive_published (p : Passport) (now : Int) : EverPublished (goLive now p) := rfl

theorem Rewrite.of_revise (hs : Succession s) (hp : p ∈ s) {f : Passport → Passport}
    (hf : Restated p (f p)) (hpublished : EverPublished p → EverPublished (f p))
    (hcurrent : p.status ≠ .superseded) (hafter : (f p).status ≠ .superseded)
    (halone : ¬EverPublished p → Alone s p) : Rewrite s (revise s p.id f) p (f p) where
  mem := hp
  rows _ := mem_revise hs.ids hp
  restated := hf
  published := hpublished
  current := ⟨hcurrent, hafter⟩
  alone := halone

theorem create_coherent (h : Coherent maxHops s)
    (hkeeps : ∀ p ∈ s, body.supersedesId = some p.id → p.status ≠ .superseded)
    (hstep : create s id body = some s') : Coherent maxHops s' := by
  unfold create at hstep
  split_ifs at hstep with hserial hkey hforeign
  cases hstep
  have hfresh := holds_eq_false.mp (eq_false_of_ne_true hkey)
  refine h.concat_draft rfl rfl hfresh ?_ hkeeps
  intro i hi
  by_contra hnone
  have hmissing : holds s i = false := holds_eq_false.mpr fun p hp hid => hnone ⟨p, hp, hid⟩
  have hbody : body.supersedesId = some i := hi
  simp [hbody, hmissing] at hforeign

theorem publish_coherent (h : Coherent maxHops s)
    (hkeeps : ∀ x ∈ s, x.id = id → x.status = .draft → accepted s x gates = true → Alone s x)
    (hstep : publish s id gates now = some s') : Coherent maxHops s' := by
  unfold publish at hstep
  split at hstep
  next => cases hstep
  next p hfound =>
    obtain ⟨hp, rfl⟩ := findById_some hfound
    split_ifs at hstep with haccepted
    cases hstep
    have htransition : p.status.canTransitionTo .published = true := by
      simp only [accepted, Bool.and_eq_true] at haccepted
      exact haccepted.1.1
    have hcurrent : p.status ≠ .superseded := by
      intro hs
      rw [hs] at htransition
      cases htransition
    have halone : ¬EverPublished p → Alone s p := by
      intro hnever
      refine hkeeps p hp rfl ?_ haccepted
      cases hs : p.status with
      | draft => rfl
      | suspended =>
        exact absurd (everPublished_of_status (by simp [hs]) (by simp [hs])) hnever
      | _ => rw [hs] at htransition; cases htransition
    have hrewrite := Rewrite.of_revise (f := goLive now) h.toSuccession hp rfl
      (fun _ => goLive_published p now) hcurrent (by simp [goLive]) halone
    exact hrewrite.coherent h (revise_nodup h.ids fun _ => rfl)
      (iff_of_true rfl (goLive_published p now))

theorem suspend_coherent (h : Coherent maxHops s) (hstep : suspend s id = some s') :
    Coherent maxHops s' := by
  unfold suspend at hstep
  split at hstep
  next => cases hstep
  next p hfound =>
    obtain ⟨hp, rfl⟩ := findById_some hfound
    split_ifs at hstep with htransition
    cases hstep
    have hstatus : p.status = .published := by
      cases hs : p.status with
      | published => rfl
      | _ => rw [hs] at htransition; cases htransition
    have hep := everPublished_of_published hstatus
    have hafter : EverPublished (withStatus .suspended p) := rfl
    have hrewrite := Rewrite.of_revise (f := withStatus .suspended) h.toSuccession hp rfl
      (fun _ => hafter) (by simp [hstatus]) (by simp [withStatus]) (fun hnever => absurd hep hnever)
    exact hrewrite.coherent h (revise_nodup h.ids fun _ => rfl)
      (iff_of_true ((h.stamped p hp).mpr hep) hafter)

theorem draftSuccessor_some (h : draftSuccessor p successorId patch = some x) :
    x.id = successorId ∧ x.status = .draft ∧ x.publishedAt = none ∧
      x.supersedesId = some p.id := by
  simp only [draftSuccessor, applyPatch] at h
  split_ifs at h
  cases h
  exact ⟨rfl, rfl, rfl, rfl⟩

theorem amend_cases (h : amend s id successorId patch gates committed now = some s') :
    ∃ p ∈ s, p.id = id ∧ p.status = .published ∧ (∀ q ∈ s, q.id ≠ successorId) ∧
      ∃ x, draftSuccessor p successorId patch = some x ∧
        (accepted (s ++ [x]) x gates = false ∧ s' = s ++ [x] ∨
          accepted (s ++ [x]) x gates = true ∧ committed = true ∧
            s' = revise (revise (s ++ [x]) successorId (goLive now)) id (withStatus .superseded) ∨
          accepted (s ++ [x]) x gates = true ∧ committed = false) := by
  unfold amend at h
  split at h
  next => cases h
  next p hfound =>
    obtain ⟨hp, hid⟩ := findById_some hfound
    by_cases htransition : p.status.canTransitionTo .superseded = true
    · rw [if_neg (by simp [htransition])] at h
      have hstatus : p.status = .published := by
        cases hs : p.status with
        | published => rfl
        | _ => rw [hs] at htransition; cases htransition
      split at h
      next => cases h
      next x hx =>
        by_cases hkey : holds s successorId = true
        · rw [if_pos hkey] at h
          cases h
        · rw [if_neg hkey] at h
          dsimp only at h
          refine ⟨p, hp, hid, hstatus, holds_eq_false.mp (eq_false_of_ne_true hkey), x, hx, ?_⟩
          by_cases haccepted : accepted (s ++ [x]) x gates = true
          · rw [if_neg (by simp [haccepted])] at h
            cases committed with
            | true => exact .inr (.inl ⟨haccepted, rfl, (Option.some.inj h).symm⟩)
            | false => exact .inr (.inr ⟨haccepted, rfl⟩)
          · rw [if_pos (by simp [haccepted])] at h
            exact .inl ⟨eq_false_of_ne_true haccepted, (Option.some.inj h).symm⟩
    · rw [if_pos (by simp [htransition])] at h
      cases h

theorem Amendment.of_amended (now : Int) (hleft : Coherent maxHops (s ++ [x])) (hp : p ∈ s)
    (hstatus : p.status = .published) (hfresh : ∀ q ∈ s, q.id ≠ x.id)
    (hnames : x.supersedesId = some p.id) (hcontinues : Continues maxHops s p.id x) :
    Amendment maxHops s
      (revise (revise (s ++ [x]) x.id (goLive now)) p.id (withStatus .superseded)) p
      (withStatus .superseded p) (goLive now x) := by
  have hxmem : x ∈ s ++ [x] := List.mem_append_right _ List.mem_cons_self
  have hne : p.id ≠ x.id := hfresh p hp
  have hlive : ((revise (s ++ [x]) x.id (goLive now)).map Passport.id).Nodup :=
    revise_nodup hleft.ids fun _ => rfl
  have hpmem : p ∈ revise (s ++ [x]) x.id (goLive now) :=
    (mem_revise hleft.ids hxmem).mpr (.inl ⟨List.mem_append_left _ hp, hne⟩)
  constructor
  case mem => exact hp
  case rows =>
    intro q
    rw [mem_revise hlive hpmem, mem_revise hleft.ids hxmem, mem_concat]
    constructor
    · rintro (⟨⟨hq | rfl, hqx⟩ | rfl, hqp⟩ | rfl)
      · exact .inl ⟨hq, hqp⟩
      · exact absurd rfl hqx
      · exact .inr (.inr rfl)
      · exact .inr (.inl rfl)
    · rintro (⟨hq, hqp⟩ | rfl | rfl)
      · exact .inl ⟨.inl ⟨.inl hq, hfresh q hq⟩, hqp⟩
      · exact .inr rfl
      · exact .inl ⟨.inr rfl, hne.symm⟩
  case restated => rfl
  case published => exact everPublished_of_published hstatus
  case current => simp [hstatus]
  case superseded => rfl
  case names => exact hnames
  case live => exact goLive_published x now
  case last => simp [goLive]
  case fresh => exact hfresh
  case continues => exact hcontinues

theorem amend_coherent (h : Coherent maxHops s)
    (hkeeps : ∀ p ∈ s, p.id = id → ∀ x, draftSuccessor p successorId patch = some x →
      accepted (s ++ [x]) x gates = true → committed = true ∧ Continues maxHops s id x)
    (hstep : amend s id successorId patch gates committed now = some s') :
    Coherent maxHops s' := by
  obtain ⟨p, hp, rfl, hstatus, hfresh, x, hx, hcases⟩ := amend_cases hstep
  obtain ⟨rfl, hdraft, hstamp, hnames⟩ := draftSuccessor_some hx
  have hleft : Coherent maxHops (s ++ [x]) := by
    refine h.concat_draft hdraft hstamp hfresh ?_ ?_
    · intro i hi
      exact ⟨p, hp, Option.some.inj (hnames.symm.trans hi)⟩
    · intro q hq hclaim
      rw [h.eq_of_id hq hp (Option.some.inj (hclaim.symm.trans hnames)), hstatus]
      simp
  rcases hcases with ⟨-, rfl⟩ | ⟨haccepted, -, rfl⟩ | ⟨haccepted, hlost⟩
  · exact hleft
  · have hcontinues := (hkeeps p hp rfl x hx haccepted).2
    have hamended := Amendment.of_amended now hleft hp hstatus hfresh hnames hcontinues
    have hlive : ((revise (s ++ [x]) x.id (goLive now)).map Passport.id).Nodup :=
    revise_nodup hleft.ids fun _ => rfl
    refine hamended.coherent h (revise_nodup hlive fun _ => rfl) ?_ rfl
    exact (h.stamped p hp).mpr hamended.published
  · rw [(hkeeps p hp rfl x hx haccepted).1] at hlost
    cases hlost

theorem step_coherent {e : Event} (h : Coherent maxHops s) (hkeeps : KeepsChains maxHops s e)
    (hstep : next s e = some s') : Coherent maxHops s' := by
  cases e with
  | create id body => exact create_coherent h hkeeps hstep
  | publish id gates now => exact publish_coherent h hkeeps hstep
  | suspend id => exact suspend_coherent h hstep
  | amend id successorId patch gates committed now => exact amend_coherent h hkeeps hstep

theorem initial_coherent : Coherent maxHops [] := by
  constructor
  case toSuccession =>
    constructor
    · exact List.nodup_nil
    · exact fun p hp => nomatch hp
    · exact fun p hp => nomatch hp
  all_goals exact fun p hp => nomatch hp

/-- In a run whose steps all keep the chains, every label a published passport prints
resolves to the latest published successor of that passport. -/
theorem labels_reach_latest_successor (maxHops : ℕ) (es : List Event) (s : Store)
    (hrun : run next [] es = some s) (hkeeps : Along next (KeepsChains maxHops) [] es) :
    ∀ p ∈ s, p.publishedAt.isSome = true → ∀ label, p.printedLabel = some label →
      ∃ c ∈ s, Latest (Succeeds s) p.id c.id ∧
        resolveLabel maxHops s label.1 label.2.parts.1 label.2.parts.2 =
          .ok (some ⟨c, label.2.level, label.2.level⟩) := by
  have h : Coherent maxHops s :=
    run_invariant (fun _ _ _ hi hc hn => step_coherent hi hc hn) initial_coherent hkeeps hrun
  intro p hp hstamped label hlabel
  have hep := (h.stamped p hp).mp hstamped
  obtain ⟨n, r, -, hhops, hfinal⟩ := h.settled p hp hep
  obtain ⟨c, hc, hid⟩ := mem_of_hops hp hhops
  have hlatest : Latest (Succeeds s) p.id c.id := hid ▸ ⟨n, hhops, hfinal⟩
  refine ⟨c, hc, hlatest, resolveLabel_eq h.toSuccession h.settled hp hep hlabel hc ?_⟩
  intro q hq heq hnames
  obtain ⟨r', hr, hr'⟩ := h.shared p hp q hq hep heq label hlabel hnames
  exact Latest.unique h.one hr hlatest ▸ hr'

end Steps

section Samples

def sampleGtin : String := "09506000134352"

def sampleBody : NewPassport := ⟨some (.gs1 sampleGtin), none, none, none, some "SN-1", none⟩

def samplePatch : Patch := ⟨none, none⟩

def sampleDraft : Passport := newDraft 1 sampleBody

def sampleLive : Passport := goLive 100 sampleDraft

def sampleSuccessor : Passport :=
  { sampleDraft with id := 2, supersedesId := some 1 }

def sampleEvents : List Event :=
  [.create 1 sampleBody, .publish 1 true 100, .amend 1 2 samplePatch true true 200,
    .amend 2 3 samplePatch false true 300, .suspend 2]

def sampleAmended : Store := [withStatus .superseded sampleLive, goLive 200 sampleSuccessor]

theorem sample_continues : Continues 64 [sampleLive] 1 sampleSuccessor := by
  have hfinal : Final (Succeeds [sampleLive]) 1 := by
    rintro j ⟨p, -, q, hq, -, -, hclaim, -, -⟩
    rw [List.mem_singleton.mp hq] at hclaim
    cases hclaim
  constructor
  · intro q hq
    rw [List.mem_singleton.mp hq]
    exact fun hclaim => nomatch hclaim
  · intro p hp _
    rw [List.mem_singleton.mp hp]
    refine ⟨fun n hn => ?_, fun _ => ⟨0, .refl _⟩⟩
    rw [(hfinal.hops_eq hn).1]
    decide

theorem sample_keeps : Along next (KeepsChains 64) [] sampleEvents := by
  refine ⟨fun p hp => (nomatch hp), fun s₁ h₁ => ?_⟩
  cases (show next [] _ = some [sampleDraft] by decide +kernel).symm.trans h₁
  refine ⟨fun x _ _ _ _ p hp hep => ?_, fun s₂ h₂ => ?_⟩
  · rw [List.mem_singleton.mp hp] at hep
    exact absurd rfl hep.ne_draft
  cases (show next [sampleDraft] _ = some [sampleLive] by decide +kernel).symm.trans h₂
  refine ⟨fun p hp _ x hx _ => ⟨rfl, ?_⟩, fun s₃ h₃ => ?_⟩
  · rw [List.mem_singleton.mp hp] at hx
    cases hx
    exact sample_continues
  cases (show next [sampleLive] _ = some sampleAmended by decide +kernel).symm.trans h₃
  refine ⟨fun p _ _ x _ haccepted => ?_, fun s₄ h₄ => ⟨trivial, fun _ _ => trivial⟩⟩
  rw [accepted, Bool.and_false] at haccepted
  cases haccepted

theorem recalled_amendment_still_resolves :
    ∃ s, run next [] sampleEvents = some s ∧ s.length = 3 ∧
      ∀ p ∈ s, p.publishedAt.isSome = true → ∀ label, p.printedLabel = some label →
        ∃ c ∈ s, Latest (Succeeds s) p.id c.id ∧
          resolveLabel 64 s label.1 label.2.parts.1 label.2.parts.2 =
            .ok (some ⟨c, label.2.level, label.2.level⟩) := by
  have hrun : run next [] sampleEvents = some ((run next [] sampleEvents).getD []) := by
    decide +kernel
  exact ⟨_, hrun, by decide +kernel,
    labels_reach_latest_successor 64 sampleEvents _ hrun sample_keeps⟩

/-- The draft a refused amendment left makes the next, accepted one unresolvable. -/
theorem refused_draft_breaks_label :
    let s := (run next [] [.create 1 sampleBody, .publish 1 true 100,
      .amend 1 2 samplePatch false true 200, .amend 1 3 samplePatch true true 300]).getD []
    run next [] [.create 1 sampleBody, .publish 1 true 100,
      .amend 1 2 samplePatch false true 200, .amend 1 3 samplePatch true true 300] = some s ∧
      (∃ p ∈ s, p.publishedAt.isSome = true ∧
        p.printedLabel = some (sampleGtin, .serial "SN-1")) ∧
      resolveLabel 64 s sampleGtin none (some "SN-1") =
        .error (.successionUnresolvable (PassportId.text 1)
          "more than one record claims it as their predecessor") := by
  intro s
  have hrun : run next [] [.create 1 sampleBody, .publish 1 true 100,
      .amend 1 2 samplePatch false true 200, .amend 1 3 samplePatch true true 300] = some s := by
    decide +kernel
  refine ⟨hrun, ⟨goLive 300 { sampleSuccessor with id := 3 }, ?_, rfl, rfl⟩, rfl⟩
  decide +kernel

end Samples

end AmendedLabels
