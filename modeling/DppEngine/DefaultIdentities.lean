import Mathlib.Data.List.Sort
import DppEngine.KeyedTables
import DppEngine.TransitionSystems

/-! The operator's facilities and identifiers, and which of them is stamped by default.

A request is several statements, requests interleave, and a request may end between any two of its
statements. Each statement is one atomic step over the rows as they stand, the update of all live
rows included: an insert committed while that update runs, which READ COMMITTED lets it miss, is not
modelled. Facilities and operator identifiers are two tables under one design; `Kind` holds what
differs. -/
namespace DefaultIdentities

open KeyedTables TransitionSystems

variable {δ : Type}

section Statements

structure IdentityRow (δ : Type) where
  id : ℕ
  operatorId : String
  scheme : String
  value : String
  details : δ
  isDefault : Bool
  createdAt : Int
  retiredAt : Option Int
  deriving DecidableEq, Repr

/-- What is read back of a row: neither its operator nor when it was retired. -/
structure Identity (δ : Type) where
  id : ℕ
  scheme : String
  value : String
  details : δ
  isDefault : Bool
  createdAt : Int
  deriving DecidableEq, Repr

def IdentityRow.identity (row : IdentityRow δ) : Identity δ :=
  ⟨row.id, row.scheme, row.value, row.details, row.isDefault, row.createdAt⟩

structure Kind where
  entityType : String
  defaultAction : String
  not_retired : defaultAction ≠ "retired"
  duplicate : String
  defaultInUse : String
  /-- The columns of the unique index on the live rows: of operator, scheme and value. -/
  indexed : String → String → String → List String

structure FacilityDetails where
  name : String
  country : String
  address : Option String
  deriving DecidableEq, Repr

def facility : Kind where
  entityType := "facility"
  defaultAction := "set_default"
  not_retired := by decide
  duplicate := "a facility with this identifier scheme + value already exists"
  defaultInUse := "cannot retire the default facility while other facilities exist; " ++
    "set a different facility as default first"
  indexed _ scheme value := [scheme, value]

def operatorIdentifier : Kind where
  entityType := "operator_identifier"
  defaultAction := "set_primary"
  not_retired := by decide
  duplicate := "an operator identifier with this scheme + value already exists"
  defaultInUse := "cannot retire the primary operator identifier while others exist; " ++
    "set a different primary first"
  indexed operatorId scheme value := [operatorId, scheme, value]

def Kind.key (kind : Kind) (row : IdentityRow δ) : List String :=
  kind.indexed row.operatorId row.scheme row.value

abbrev IdentityTable (δ : Type) := Table fun row : IdentityRow δ => row.id

def standaloneOperatorId : String := "self_hosted"

/-- `operator_id = $1 AND retired_at IS NULL`. -/
def IdentityRow.isLive (row : IdentityRow δ) : Bool :=
  row.operatorId = standaloneOperatorId && row.retiredAt.isNone

def insertRow (kind : Kind) (t : IdentityTable δ) (row : IdentityRow δ) :
    Option (IdentityTable δ) :=
  if t.rows.any fun r => r.retiredAt.isNone && kind.key r = kind.key row then none
  else t.insert row

/-- `UPDATE … SET is_default = (id = $2)` on the live rows. -/
def setDefaultRows (t : IdentityTable δ) (id : ℕ) : IdentityTable δ :=
  t.update (fun row => if row.isLive then { row with isDefault := row.id = id } else row)
    fun row => by split_ifs <;> rfl

def isLiveRow (t : IdentityTable δ) (id : ℕ) : Bool := (t.get id).any IdentityRow.isLive

def IdentityRow.retire (row : IdentityRow δ) (now : Int) : IdentityRow δ :=
  { row with retiredAt := some now, isDefault := false }

/-- `ORDER BY is_default DESC, created_at DESC`. -/
def listsBefore (a b : IdentityRow δ) : Bool :=
  a.isDefault && !b.isDefault || a.isDefault = b.isDefault && b.createdAt ≤ a.createdAt

def list (t : IdentityTable δ) : List (IdentityRow δ) :=
  (t.rows.filter IdentityRow.isLive).insertionSort fun a b => listsBefore a b

end Statements

section Requests

structure AuditEntry (δ : Type) where
  operatorId : String
  entityType : String
  entityId : ℕ
  action : String
  actor : String
  snapshot : Option (Identity δ)
  deriving DecidableEq, Repr

inductive Answer where
  | done
  | notFound (id : ℕ)
  | validation (message : String)
  deriving DecidableEq, Repr

inductive Task (δ : Type) where
  | setDefaultOfAdded (created : Identity δ) (actor : String)
  | confirmDefault (id : ℕ) (actor : String)
  | retireListed (id : ℕ) (actor : String)
  | audit (entry : AuditEntry δ)
  deriving DecidableEq, Repr

structure Service (δ : Type) where
  table : IdentityTable δ
  audit : List (AuditEntry δ)
  tasks : List (Task δ)
  answers : List Answer

def Service.empty : Service δ := ⟨.empty, [], [], []⟩

inductive Event (δ : Type) where
  | add (row : IdentityRow δ) (actor : String)
  | setDefault (id : ℕ) (actor : String)
  | retire (id : ℕ) (actor : String)
  | proceed (task : Task δ) (now : Int)
  | stop (task : Task δ)
  deriving DecidableEq, Repr

variable (kind : Kind)

def auditOf (id : ℕ) (action actor : String) (snapshot : Option (Identity δ)) : Task δ :=
  .audit ⟨standaloneOperatorId, kind.entityType, id, action, actor, snapshot⟩

def Service.queue (s : Service δ) (task : Task δ) : Service δ :=
  { s with tasks := task :: s.tasks }

def Service.answer (s : Service δ) (answer : Answer) : Service δ :=
  { s with answers := s.answers ++ [answer] }

@[simp] theorem queue_table {s : Service δ} {task : Task δ} : (s.queue task).table = s.table := rfl

@[simp] theorem answer_table {s : Service δ} {answer : Answer} :
    (s.answer answer).table = s.table := rfl

/-- A row is inserted as no default; the flag asked for is set by a statement of its own. -/
def add (s : Service δ) (row : IdentityRow δ) (actor : String) : Service δ :=
  let created := { row with
    operatorId := standaloneOperatorId, isDefault := false, retiredAt := none }
  match insertRow kind s.table created with
  | none => s.answer (.validation kind.duplicate)
  | some table =>
    { s with table := table }.queue
      (if row.isDefault then .setDefaultOfAdded created.identity actor
      else auditOf kind row.id "added" actor (some created.identity))

/-- The update counts every live row, so it is `confirmDefault` that looks for the one named. -/
def setDefault (s : Service δ) (id : ℕ) (actor : String) : Service δ :=
  if s.table.rows.any IdentityRow.isLive then
    { s with table := setDefaultRows s.table id }.queue (.confirmDefault id actor)
  else s.answer (.notFound id)

def retire (s : Service δ) (id : ℕ) (actor : String) : Service δ :=
  let live := list s.table
  match live.find? fun row => row.id = id with
  | none => s.answer (.notFound id)
  | some row =>
    if row.isDefault && 1 < live.length then s.answer (.validation kind.defaultInUse)
    else s.queue (.retireListed id actor)

def proceed (s : Service δ) (now : Int) : Task δ → Service δ
  | .setDefaultOfAdded created actor =>
    { s with table := setDefaultRows s.table created.id }.queue
      (auditOf kind created.id "added" actor (some { created with isDefault := true }))
  | .confirmDefault id actor =>
    if isLiveRow s.table id then s.queue (auditOf kind id kind.defaultAction actor none)
    else s.answer (.notFound id)
  | .retireListed id actor =>
    match (s.table.get id).filter IdentityRow.isLive with
    | none => s.answer (.notFound id)
    | some row =>
      { s with table := s.table.put (row.retire now) }.queue
        (auditOf kind id "retired" actor (some (row.retire now).identity))
  | .audit entry => { s with audit := s.audit ++ [entry] }.answer .done

variable [DecidableEq δ]

def Service.finish (s : Service δ) (task : Task δ) : Service δ :=
  { s with tasks := s.tasks.erase task }

def next (s : Service δ) : Event δ → Option (Service δ)
  | .add row actor => some (add kind s row actor)
  | .setDefault id actor => some (setDefault s id actor)
  | .retire id actor => some (retire kind s id actor)
  | .proceed task now =>
    if task ∈ s.tasks then some (proceed kind (s.finish task) now task) else none
  | .stop task => if task ∈ s.tasks then some (s.finish task) else none

end Requests

section Tables

variable {kind : Kind} {t t' : IdentityTable δ} {row : IdentityRow δ} {id : ℕ} {now : Int}

/-- The rows are in order: one default at most, no default out of service, no identifier twice. -/
structure Coherent (kind : Kind) (t : IdentityTable δ) : Prop where
  operator : ∀ a ∈ t.rows, a.operatorId = standaloneOperatorId
  one_default : ∀ a ∈ t.rows, ∀ b ∈ t.rows, a.isDefault → b.isDefault → a = b
  default_live : ∀ a ∈ t.rows, a.isDefault → a.retiredAt = none
  one_live : ∀ a ∈ t.rows, ∀ b ∈ t.rows, a.retiredAt = none → b.retiredAt = none →
    kind.key a = kind.key b → a = b

def HasDefault (t : IdentityTable δ) : Prop := ∃ row ∈ t.rows, row.isDefault = true

theorem coherent_empty : Coherent kind (.empty : IdentityTable δ) := by
  constructor <;> simp [Table.empty]

theorem Coherent.isLive (h : Coherent kind t) (hrow : row ∈ t.rows) :
    row.isLive = row.retiredAt.isNone := by
  simp [IdentityRow.isLive, h.operator row hrow]

theorem insertRow_ok (h : insertRow kind t row = some t') :
    t.insert row = some t' ∧
      ∀ r ∈ t.rows, r.retiredAt = none → kind.key r ≠ kind.key row := by
  unfold insertRow at h
  split_ifs at h with hindex
  refine ⟨h, fun r hr hlive hkey => hindex ?_⟩
  exact List.any_eq_true.mpr ⟨r, hr, by simp [hlive, hkey]⟩

theorem Coherent.insertRow (h : Coherent kind t) (hop : row.operatorId = standaloneOperatorId)
    (hdefault : row.isDefault = false) (hins : insertRow kind t row = some t') :
    Coherent kind t' := by
  obtain ⟨hins, hindex⟩ := insertRow_ok hins
  have hmem : ∀ r ∈ t'.rows, r ∈ t.rows ∨ r = row := by
    rw [(Table.insert_eq_some hins).2]
    simp
  constructor
  · intro a ha
    rcases hmem a ha with ha | rfl
    · exact h.operator a ha
    · exact hop
  · intro a ha b hb hda hdb
    rcases hmem a ha with ha | rfl
    · rcases hmem b hb with hb | rfl
      · exact h.one_default a ha b hb hda hdb
      · rw [hdefault] at hdb
        cases hdb
    · rw [hdefault] at hda
      cases hda
  · intro a ha hda
    rcases hmem a ha with ha | rfl
    · exact h.default_live a ha hda
    · rw [hdefault] at hda
      cases hda
  · intro a ha b hb hla hlb hkey
    rcases hmem a ha with ha | rfl
    · rcases hmem b hb with hb | rfl
      · exact h.one_live a ha b hb hla hlb hkey
      · exact absurd hkey (hindex a ha hla)
    · rcases hmem b hb with hb | rfl
      · exact absurd hkey.symm (hindex b hb hlb)
      · rfl

def IdentityRow.flagged (row : IdentityRow δ) (id : ℕ) : IdentityRow δ :=
  { row with isDefault := row.retiredAt.isNone && row.id = id }

/-- A retired row has no flag for the update to pass over. -/
theorem Coherent.set_eq (h : Coherent kind t) (hrow : row ∈ t.rows) :
    (if row.isLive then { row with isDefault := row.id = id } else row) = row.flagged id := by
  have hdefault := h.default_live row hrow
  rw [h.isLive hrow]
  unfold IdentityRow.flagged
  obtain ⟨_, _, _, _, _, isDefault, _, retiredAt⟩ := row
  cases retiredAt with
  | none => simp
  | some at' => simpa using hdefault

theorem Coherent.mem_setDefaultRows (h : Coherent kind t) {r : IdentityRow δ} :
    r ∈ (setDefaultRows t id).rows ↔ ∃ r₀ ∈ t.rows, r₀.flagged id = r := by
  rw [setDefaultRows, Table.mem_update]
  constructor
  · rintro ⟨r₀, hr₀, rfl⟩
    exact ⟨r₀, hr₀, (h.set_eq hr₀).symm⟩
  · rintro ⟨r₀, hr₀, rfl⟩
    exact ⟨r₀, hr₀, h.set_eq hr₀⟩

theorem Coherent.setDefault (h : Coherent kind t) : Coherent kind (setDefaultRows t id) := by
  constructor
  · intro a ha
    obtain ⟨a₀, ha₀, rfl⟩ := h.mem_setDefaultRows.mp ha
    exact h.operator a₀ ha₀
  · intro a ha b hb hda hdb
    obtain ⟨a₀, ha₀, rfl⟩ := h.mem_setDefaultRows.mp ha
    obtain ⟨b₀, hb₀, rfl⟩ := h.mem_setDefaultRows.mp hb
    simp only [IdentityRow.flagged, Bool.and_eq_true, decide_eq_true_eq] at hda hdb
    rw [List.inj_on_of_nodup_map t.unique ha₀ hb₀ (hda.2.trans hdb.2.symm)]
  · intro a ha hda
    obtain ⟨a₀, ha₀, rfl⟩ := h.mem_setDefaultRows.mp ha
    simp only [IdentityRow.flagged, Bool.and_eq_true, Option.isNone_iff_eq_none] at hda
    exact hda.1
  · intro a ha b hb hla hlb hkey
    obtain ⟨a₀, ha₀, rfl⟩ := h.mem_setDefaultRows.mp ha
    obtain ⟨b₀, hb₀, rfl⟩ := h.mem_setDefaultRows.mp hb
    rw [h.one_live a₀ ha₀ b₀ hb₀ hla hlb hkey]

/-- After the update there is a default exactly when it names a live row. -/
theorem Coherent.hasDefault_setDefault (h : Coherent kind t) :
    HasDefault (setDefaultRows t id) ↔ isLiveRow t id = true := by
  constructor
  · rintro ⟨r, hr, hd⟩
    obtain ⟨r₀, hr₀, rfl⟩ := h.mem_setDefaultRows.mp hr
    simp only [IdentityRow.flagged, Bool.and_eq_true, decide_eq_true_eq] at hd
    have hget : t.get id = some r₀ := Table.get_eq_some.mpr ⟨hr₀, hd.2⟩
    rw [isLiveRow, hget, Option.any_some, h.isLive hr₀]
    exact hd.1
  · intro hlive
    obtain ⟨r, hget, hlive⟩ := (Option.any_eq_true _ _).mp hlive
    obtain ⟨hr, hid⟩ := Table.get_eq_some.mp hget
    rw [h.isLive hr] at hlive
    exact ⟨_, h.mem_setDefaultRows.mpr ⟨r, hr, rfl⟩, by simp [IdentityRow.flagged, hlive, hid]⟩

theorem Coherent.retire (h : Coherent kind t) (hrow : row ∈ t.rows) :
    Coherent kind (t.put (row.retire now)) := by
  have hmem : ∀ r ∈ (t.put (row.retire now)).rows, r = row.retire now ∨ r ∈ t.rows :=
    fun r hr => (Table.mem_put hr).imp_right And.left
  constructor
  · intro a ha
    rcases hmem a ha with rfl | ha
    · exact h.operator row hrow
    · exact h.operator a ha
  · intro a ha b hb hda hdb
    rcases hmem a ha with rfl | ha
    · cases hda
    · rcases hmem b hb with rfl | hb
      · cases hdb
      · exact h.one_default a ha b hb hda hdb
  · intro a ha hda
    rcases hmem a ha with rfl | ha
    · cases hda
    · exact h.default_live a ha hda
  · intro a ha b hb hla hlb hkey
    rcases hmem a ha with rfl | ha
    · cases hla
    · rcases hmem b hb with rfl | hb
      · cases hlb
      · exact h.one_live a ha b hb hla hlb hkey

theorem Coherent.hasDefault_retire (h : Coherent kind t) (hrow : row ∈ t.rows)
    (hdefault : HasDefault t) :
    HasDefault (t.put (row.retire now)) ↔ row.isDefault = false := by
  obtain ⟨d, hd, hflag⟩ := hdefault
  constructor
  · rintro ⟨r, hr, hr'⟩
    rcases Table.mem_put hr with rfl | ⟨hmem, -⟩
    · cases hr'
    · cases hflagged : row.isDefault with
      | false => rfl
      | true =>
        have hsame := h.one_default r hmem row hrow hr' hflagged
        subst hsame
        have hget := Table.get_of_mem hr
        rw [Table.get_put, if_pos (show (r.retire now).id = r.id from rfl),
          Table.get_of_mem hmem] at hget
        cases (congrArg IdentityRow.isDefault (Option.some.inj hget)).trans hr'
  · intro hother
    have hne : row.id ≠ d.id := by
      intro hid
      rw [List.inj_on_of_nodup_map t.unique hrow hd hid, hflag] at hother
      cases hother
    have hget : (t.put (row.retire now)).get d.id = some d := by
      rw [Table.get_put, if_neg (show (row.retire now).id ≠ d.id from hne), Table.get_of_mem hd]
    exact ⟨d, Table.mem_of_get hget, hflag⟩

end Tables

section Runs

variable [DecidableEq δ] {kind : Kind} {s t : Service δ} {e : Event δ} {es fs : List (Event δ)}
  {row : IdentityRow δ} {id : ℕ}

inductive Writes (kind : Kind) (s t : IdentityTable δ) : Event δ → Prop where
  | none (e : Event δ) : t = s → Writes kind s t e
  | insert (row created : IdentityRow δ) (actor : String) :
      created.operatorId = standaloneOperatorId → created.isDefault = false →
      created.retiredAt = .none → insertRow kind s created = some t →
      Writes kind s t (.add row actor)
  | default (id : ℕ) (actor : String) : t = setDefaultRows s id →
      Writes kind s t (.setDefault id actor)
  | added (created : Identity δ) (actor : String) (now : Int) : t = setDefaultRows s created.id →
      Writes kind s t (.proceed (.setDefaultOfAdded created actor) now)
  | retire (row : IdentityRow δ) (actor : String) (now : Int) :
      s.get row.id = some row → row.retiredAt = .none →
      t = s.put (row.retire now) → Writes kind s t (.proceed (.retireListed row.id actor) now)

theorem next_writes (h : next kind s e = some t) : Writes kind s.table t.table e := by
  cases e with
  | add row actor =>
    cases h
    unfold add
    dsimp only
    split
    · exact .none _ rfl
    next table hins => exact .insert row _ actor rfl rfl rfl hins
  | setDefault id actor =>
    cases h
    unfold setDefault
    split_ifs
    · exact .default id actor rfl
    · exact .none _ rfl
  | retire id actor =>
    cases h
    unfold retire
    dsimp only
    split
    · exact .none _ rfl
    · split_ifs <;> exact .none _ rfl
  | stop task =>
    simp only [next] at h
    split_ifs at h
    cases h
    exact .none _ rfl
  | proceed task now =>
    simp only [next] at h
    split_ifs at h
    cases h
    cases task with
    | setDefaultOfAdded created actor => exact .added created actor now rfl
    | confirmDefault id actor =>
      unfold proceed
      dsimp only
      split_ifs <;> exact .none _ rfl
    | audit entry => exact .none _ rfl
    | retireListed id actor =>
      unfold proceed
      dsimp only
      split
      · exact .none _ rfl
      next row hget =>
        obtain ⟨hget, hlive⟩ := Option.filter_eq_some_iff.mp hget
        obtain rfl : row.id = id := Table.key_of_get (t := s.table) hget
        simp only [IdentityRow.isLive, Bool.and_eq_true, Option.isNone_iff_eq_none] at hlive
        exact .retire row actor now hget hlive.2 rfl

theorem Coherent.next (hi : Coherent kind s.table) (h : next kind s e = some t) :
    Coherent kind t.table := by
  rcases next_writes h with ⟨_, hsame⟩ | ⟨_, _, _, hop, hdefault, -, hins⟩ | ⟨_, _, hset⟩ |
    ⟨_, _, _, hset⟩ | ⟨row, _, _, hrow, -, hput⟩
  · rwa [hsame]
  · exact hi.insertRow hop hdefault hins
  · rw [hset]
    exact hi.setDefault
  · rw [hset]
    exact hi.setDefault
  · rw [hput]
    exact hi.retire (Table.mem_of_get hrow)

/-- What is read back of both, but for the flag, is the same. -/
def Identity.SameFacts (a b : Identity δ) : Prop := { a with isDefault := b.isDefault } = b

omit [DecidableEq δ] in
theorem Identity.SameFacts.trans {a b c : Identity δ} (hab : a.SameFacts b) (hbc : b.SameFacts c) :
    a.SameFacts c := by
  unfold SameFacts at *
  rw [← hbc, ← hab]

omit [DecidableEq δ] in
theorem sameFacts_set {flag : Bool} :
    row.identity.SameFacts ({ row with isDefault := flag } : IdentityRow δ).identity := rfl

omit [DecidableEq δ] in
theorem sameFacts_retire {now : Int} : row.identity.SameFacts (row.retire now).identity := rfl

/-- A row keeps its place and its facts, and a retired one all its columns. -/
theorem next_row (h : next kind s e = some t) (hrow : s.table.get id = some row) :
    ∃ row', t.table.get id = some row' ∧ row.identity.SameFacts row'.identity ∧
      (row.retiredAt.isSome → row' = row) := by
  have hdefault {i : ℕ} : ∃ row', (setDefaultRows s.table i).get id = some row' ∧
      row.identity.SameFacts row'.identity ∧ (row.retiredAt.isSome → row' = row) := by
    rw [setDefaultRows, Table.get_update, hrow]
    refine ⟨_, rfl, ?_, fun hret => ?_⟩
    · dsimp only
      split_ifs <;> exact sameFacts_set
    · simp [IdentityRow.isLive, Option.isNone_eq_false_iff.mpr hret]
  rcases next_writes h with ⟨_, hsame⟩ | ⟨_, _, _, -, -, -, hins⟩ | ⟨_, _, hset⟩ |
    ⟨_, _, _, hset⟩ | ⟨old, _, now, hold, hlive, hput⟩
  · exact ⟨row, hsame ▸ hrow, rfl, fun _ => rfl⟩
  · exact ⟨row, Table.get_insert_of_some (insertRow_ok hins).1 hrow, rfl, fun _ => rfl⟩
  · exact hset ▸ hdefault
  · exact hset ▸ hdefault
  · by_cases hid : old.id = id
    · subst hid
      rw [hold] at hrow
      cases hrow
      refine ⟨row.retire now, ?_, sameFacts_retire, fun hret => ?_⟩
      · rw [hput, Table.get_put, if_pos (show (row.retire now).id = row.id from rfl), hold]
        rfl
      · rw [hlive] at hret
        cases hret
    · refine ⟨row, ?_, rfl, fun _ => rfl⟩
      rw [hput, Table.get_put, if_neg (show (old.retire now).id ≠ id from hid), hrow]

omit [DecidableEq δ] in
theorem added_ne_retired : "added" ≠ "retired" := by decide

/-- The entry is about a row of the table. Its snapshot gives the facts of that row, and one taken
at a retirement how the retired row stands. -/
def Recorded (t : IdentityTable δ) (entry : AuditEntry δ) : Prop :=
  ∃ row, t.get entry.entityId = some row ∧
    (∀ snapshot ∈ entry.snapshot, snapshot.SameFacts row.identity) ∧
    (entry.action = "retired" → row.retiredAt.isSome ∧ entry.snapshot = some row.identity)

def Task.Sound (t : IdentityTable δ) : Task δ → Prop
  | .audit entry => Recorded t entry
  | .setDefaultOfAdded created _ =>
    ∃ row, t.get created.id = some row ∧ created.SameFacts row.identity
  | _ => True

theorem Recorded.next {entry : AuditEntry δ} (hrec : Recorded s.table entry)
    (h : next kind s e = some t) : Recorded t.table entry := by
  obtain ⟨row, hrow, hfacts, hretired⟩ := hrec
  obtain ⟨row', hrow', hkept, hsame⟩ := next_row h hrow
  refine ⟨row', hrow', fun snapshot hmem => (hfacts snapshot hmem).trans hkept, fun hact => ?_⟩
  obtain ⟨hret, hsnapshot⟩ := hretired hact
  rw [hsame hret]
  exact ⟨hret, hsnapshot⟩

theorem Task.Sound.next {task : Task δ} (hsound : task.Sound s.table)
    (h : DefaultIdentities.next kind s e = some t) : task.Sound t.table := by
  cases task with
  | audit entry => exact Recorded.next hsound h
  | setDefaultOfAdded created actor =>
    obtain ⟨row, hrow, hfacts⟩ := hsound
    obtain ⟨row', hrow', hkept, -⟩ := next_row h hrow
    exact ⟨row', hrow', hfacts.trans hkept⟩
  | confirmDefault id actor => trivial
  | retireListed id actor => trivial

structure Inv (kind : Kind) (s : Service δ) : Prop where
  coherent : Coherent kind s.table
  audit : ∀ entry ∈ s.audit, Recorded s.table entry
  tasks : ∀ task ∈ s.tasks, task.Sound s.table

theorem next_tasks (htasks : ∀ task ∈ s.tasks, task.Sound s.table) (h : next kind s e = some t) :
    (∀ task ∈ t.tasks, task ∈ s.tasks ∨ task.Sound t.table) ∧
      ∀ entry ∈ t.audit, entry ∈ s.audit ∨ .audit entry ∈ s.tasks := by
  cases e with
  | add row actor =>
    cases h
    unfold add
    dsimp only
    split
    · exact ⟨fun _ => .inl, fun _ => .inl⟩
    next table hins =>
      refine ⟨fun task hmem => ?_, fun _ => .inl⟩
      rcases List.mem_cons.mp hmem with rfl | hmem
      · have hget := Table.get_insert (k := row.id) (insertRow_ok hins).1
        rw [if_pos rfl] at hget
        right
        split_ifs
        · exact ⟨_, hget, rfl⟩
        · refine ⟨_, hget, fun snapshot hsnap => ?_, fun hact => absurd hact added_ne_retired⟩
          cases hsnap
          rfl
      · exact .inl hmem
  | setDefault id actor =>
    cases h
    unfold setDefault
    split_ifs
    · refine ⟨fun task hmem => ?_, fun _ => .inl⟩
      rcases List.mem_cons.mp hmem with rfl | hmem
      · exact .inr trivial
      · exact .inl hmem
    · exact ⟨fun _ => .inl, fun _ => .inl⟩
  | retire id actor =>
    cases h
    unfold retire
    dsimp only
    split
    · exact ⟨fun _ => .inl, fun _ => .inl⟩
    · split_ifs
      · exact ⟨fun _ => .inl, fun _ => .inl⟩
      · refine ⟨fun task hmem => ?_, fun _ => .inl⟩
        rcases List.mem_cons.mp hmem with rfl | hmem
        · exact .inr trivial
        · exact .inl hmem
  | stop task =>
    simp only [next] at h
    split_ifs at h
    cases h
    exact ⟨fun _ hmem => .inl (List.mem_of_mem_erase hmem), fun _ => .inl⟩
  | proceed task now =>
    have hstep := h
    simp only [next] at h
    split_ifs at h with hmem
    cases h
    have hsound := htasks task hmem
    have hold (other : Task δ) (hother : other ∈ (s.finish task).tasks) : other ∈ s.tasks :=
      List.mem_of_mem_erase hother
    cases task with
    | setDefaultOfAdded created actor =>
      refine ⟨fun other hother => ?_, fun _ => .inl⟩
      rcases List.mem_cons.mp hother with rfl | hother
      · obtain ⟨row, hrow, hfacts⟩ := hsound.next hstep
        refine .inr ⟨row, hrow, fun snapshot hsnap => ?_, fun hact => absurd hact added_ne_retired⟩
        cases hsnap
        exact hfacts
      · exact .inl (hold other hother)
    | confirmDefault id actor =>
      unfold proceed
      dsimp only
      split_ifs with hlive
      · obtain ⟨row, hget, -⟩ := (Option.any_eq_true _ _).mp hlive
        refine ⟨fun other hother => ?_, fun _ => .inl⟩
        rcases List.mem_cons.mp hother with rfl | hother
        · exact .inr ⟨row, hget, fun snapshot hsnap => (nomatch hsnap),
            fun hact => absurd hact kind.not_retired⟩
        · exact .inl (hold other hother)
      · exact ⟨fun other hother => .inl (hold other hother), fun _ => .inl⟩
    | retireListed id actor =>
      unfold proceed
      dsimp only
      split
      · exact ⟨fun other hother => .inl (hold other hother), fun _ => .inl⟩
      next row hget =>
        obtain ⟨hget, -⟩ := Option.filter_eq_some_iff.mp hget
        obtain rfl : row.id = id := Table.key_of_get (t := s.table) hget
        refine ⟨fun other hother => ?_, fun _ => .inl⟩
        rcases List.mem_cons.mp hother with rfl | hother
        · refine .inr ⟨row.retire now, ?_, fun snapshot hsnap => ?_, fun _ => ⟨rfl, rfl⟩⟩
          rotate_left
          · cases hsnap
            rfl
          change (s.table.put (row.retire now)).get row.id = some (row.retire now)
          rw [Table.get_put, if_pos (show (row.retire now).id = row.id from rfl)]
          exact congrArg (Option.map fun _ => row.retire now) hget
        · exact .inl (hold other hother)
    | audit entry =>
      refine ⟨fun other hother => .inl (hold other hother), fun entry' hentry => ?_⟩
      rcases List.mem_append.mp hentry with hentry | hentry
      · exact .inl hentry
      · cases List.mem_singleton.mp hentry
        exact .inr hmem

omit [DecidableEq δ] in
theorem inv_empty : Inv kind (.empty : Service δ) :=
  ⟨coherent_empty, by simp [Service.empty], by simp [Service.empty]⟩

theorem inv_next (hi : Inv kind s) (h : next kind s e = some t) : Inv kind t := by
  obtain ⟨htasks, haudit⟩ := next_tasks hi.tasks h
  refine ⟨hi.coherent.next h, fun entry hentry => ?_, fun task htask => ?_⟩
  · rcases haudit entry hentry with hentry | htask
    · exact (hi.audit entry hentry).next h
    · exact Recorded.next (hi.tasks _ htask) h
  · rcases htasks task htask with htask | hsound
    · exact (hi.tasks task htask).next h
    · exact hsound

theorem run_inv (h : run (next kind) .empty es = some s) : Inv kind s :=
  reachable_invariant (fun _ _ _ hi h => inv_next hi h) inv_empty h

/-- However requests interleave and wherever they end: one default at most, and a live one; no
identifier live twice; every entry of the history about a row with the facts of its snapshot, and of
a retired one as it was retired. -/
theorem identities_stay_coherent (h : run (next kind) (.empty : Service δ) es = some s) :
    Coherent kind s.table ∧ (∀ entry ∈ s.audit, Recorded s.table entry) ∧
    ∀ id row t, s.table.get id = some row → row.retiredAt.isSome →
      run (next kind) s fs = some t → t.table.get id = some row := by
  have hi := run_inv h
  refine ⟨hi.coherent, hi.audit, fun id row t hrow hret ht => ?_⟩
  have hstep : ∀ u e v, u.table.get id = some row → next kind u e = some v →
      v.table.get id = some row := by
    intro u e v hu hnext
    obtain ⟨row', hrow', -, hsame⟩ := next_row hnext hu
    rw [hrow', hsame hret]
  have hend := reachable_invariant hstep hrow ht
  exact hend

/-- No update names a row that is not live, and no retirement hits the default. -/
def KeepsDefault (s : Service δ) : Event δ → Prop
  | .setDefault id _ => isLiveRow s.table id = true
  | .proceed (.setDefaultOfAdded created actor) _ =>
    .setDefaultOfAdded created actor ∈ s.tasks → isLiveRow s.table created.id = true
  | .proceed (.retireListed id actor) _ =>
    .retireListed id actor ∈ s.tasks → ∀ row, s.table.get id = some row → row.isDefault = false
  | _ => True

theorem hasDefault_next (hi : Inv kind s) (hdefault : HasDefault s.table)
    (h : next kind s e = some t) : HasDefault t.table ↔ KeepsDefault s e := by
  have hlive (row : IdentityRow δ) (hrow : row ∈ s.table.rows) (hflag : row.isDefault = true) :
      row.isLive = true := by
    rw [hi.coherent.isLive hrow, hi.coherent.default_live row hrow hflag]
    rfl
  cases e with
  | add row actor =>
    cases h
    refine iff_of_true ?_ trivial
    unfold add
    dsimp only
    split
    · exact hdefault
    next table hins =>
      obtain ⟨d, hd, hflag⟩ := hdefault
      have hget := Table.get_insert_of_some (insertRow_ok hins).1 (Table.get_of_mem hd)
      exact ⟨d, Table.mem_of_get hget, hflag⟩
  | setDefault id actor =>
    cases h
    obtain ⟨d, hd, hflag⟩ := hdefault
    have hany : s.table.rows.any IdentityRow.isLive = true :=
      List.any_eq_true.mpr ⟨d, hd, hlive d hd hflag⟩
    rw [setDefault, if_pos hany]
    exact hi.coherent.hasDefault_setDefault
  | retire id actor =>
    cases h
    refine iff_of_true ?_ trivial
    unfold retire
    dsimp only
    split
    · exact hdefault
    · split_ifs <;> exact hdefault
  | stop task =>
    simp only [next] at h
    split_ifs at h
    cases h
    exact iff_of_true hdefault trivial
  | proceed task now =>
    simp only [next] at h
    split_ifs at h with hmem
    cases h
    cases task with
    | setDefaultOfAdded created actor =>
      exact hi.coherent.hasDefault_setDefault.trans ⟨fun hlive _ => hlive, fun hlive => hlive hmem⟩
    | confirmDefault id actor =>
      refine iff_of_true ?_ trivial
      unfold proceed
      dsimp only
      split_ifs <;> exact hdefault
    | audit entry => exact iff_of_true hdefault trivial
    | retireListed id actor =>
      unfold proceed
      dsimp only
      split
      next hnone =>
        refine iff_of_true hdefault fun _ row hrow => ?_
        cases hflag : row.isDefault with
        | false => rfl
        | true =>
          have hrowLive := hlive row (Table.mem_of_get hrow) hflag
          rw [Option.filter_eq_none_iff] at hnone
          exact absurd hrowLive (hnone row hrow)
      next row hget =>
        obtain ⟨hget, -⟩ := Option.filter_eq_some_iff.mp hget
        refine (hi.coherent.hasDefault_retire (Table.mem_of_get hget) hdefault).trans ⟨?_, ?_⟩
        · intro hflag _ row' hrow'
          rw [show s.table.get id = some row from hget] at hrow'
          cases hrow'
          exact hflag
        · exact fun hkeeps => hkeeps hmem row hget

/-- Once there is a default, there is one in every later state exactly when no update names a row
that is not live (it clears the flag of all others, though the request is answered as not found)
and no retirement hits the default: the only live row, or one made the default since the request
listed the rows. -/
theorem default_kept_iff (hs : run (next kind) .empty es = some s) (hdefault : HasDefault s.table) :
    (∀ before after t, fs = before ++ after → run (next kind) s before = some t →
      HasDefault t.table) ↔ Along (next kind) KeepsDefault s fs := by
  refine states_iff_along hdefault (run_inv hs) (fun _ _ _ hi h => inv_next hi h)
    (fun _ _ _ hi hd h => hasDefault_next hi hd h) fun u e hnone => ?_
  cases e with
  | add row actor => trivial
  | setDefault id actor => cases hnone
  | retire id actor => trivial
  | stop task => trivial
  | proceed task now =>
    simp only [next] at hnone
    split_ifs at hnone with hmem
    cases task with
    | setDefaultOfAdded created actor => exact fun h => absurd h hmem
    | retireListed id actor => exact fun h => absurd h hmem
    | confirmDefault id actor => trivial
    | audit entry => trivial

end Runs

section Samples

def plant (id : ℕ) (value : String) (isDefault : Bool) : IdentityRow FacilityDetails :=
  ⟨id, standaloneOperatorId, "gln", value, ⟨"Plant", "DE", none⟩, isDefault, 10, none⟩

def addedAsDefault : List (Event FacilityDetails) :=
  [.add (plant 1 "4012345000009" true) "api-key",
    .proceed (.setDefaultOfAdded (plant 1 "4012345000009" false).identity "api-key") 11]

/-- An update that names no live row is answered as not found, and leaves no default. -/
theorem unknown_default_clears :
    ∃ s, run (next facility) .empty addedAsDefault = some s ∧
      ((∀ before after t, [.setDefault 2 "api-key"] = before ++ after →
          run (next facility) s before = some t → HasDefault t.table) ↔
        Along (next facility) KeepsDefault s [.setDefault 2 "api-key"]) := by
  have hrun : run (next facility) .empty addedAsDefault = some _ := rfl
  exact ⟨_, hrun, default_kept_iff hrun ⟨plant 1 "4012345000009" true, .head _, rfl⟩⟩

def factsOf (id : ℕ) (value action : String) (isDefault : Bool) : Task FacilityDetails :=
  auditOf facility id action "api-key" (some (plant id value isDefault).identity)

def movedAndRetired : List (Event FacilityDetails) :=
  addedAsDefault ++ [.proceed (factsOf 1 "4012345000009" "added" true) 12,
    .add (plant 2 "4012345000016" false) "api-key",
    .proceed (factsOf 2 "4012345000016" "added" false) 13,
    .setDefault 2 "api-key", .retire 1 "api-key",
    .proceed (.confirmDefault 2 "api-key") 14, .proceed (.retireListed 1 "api-key") 15,
    .proceed (factsOf 1 "4012345000009" "retired" false) 16]

/-- A third facility takes the identifier of the retired one and is made the default; then the
retired one is named as default. -/
def identifierTakenAgain : List (Event FacilityDetails) :=
  [.add (plant 3 "4012345000009" true) "api-key",
    .proceed (.setDefaultOfAdded (plant 3 "4012345000009" false).identity "api-key") 21,
    .setDefault 1 "api-key"]

theorem retired_plant_stands :
    ∃ s row t, run (next facility) .empty movedAndRetired = some s ∧
      s.audit.map (·.action) = ["added", "added", "retired"] ∧
      s.table.get 1 = some row ∧ row.retiredAt = some 15 ∧
      run (next facility) s identifierTakenAgain = some t ∧ t.table.rows.length = 3 ∧
      Coherent facility s.table ∧ (∀ entry ∈ s.audit, Recorded s.table entry) ∧
      t.table.get 1 = some row := by
  have hrun : run (next facility) .empty movedAndRetired = some _ := rfl
  obtain ⟨hcoherent, haudit, hstands⟩ : _ ∧ _ ∧ ∀ id row t, _ → _ →
      run (next facility) _ identifierTakenAgain = some t → _ := identities_stay_coherent hrun
  exact ⟨_, _, _, hrun, rfl, rfl, rfl, rfl, rfl, hcoherent, haudit, hstands 1 _ _ rfl rfl rfl⟩

end Samples

end DefaultIdentities
