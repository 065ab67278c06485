import DppEngine.FallibleSteps
import DppEngine.KeyedTables
import DppEngine.PassportModel
import DppEngine.TransitionSystems

/-! Personal data that a passport's statement names, held where it can be erased.

Each statement is one atomic step. Erasing takes two: the update that drops the content and, when
it found no content to drop, the select of the tombstone. The application role may also write the
two columns it is granted, in any row and with any values; the trigger and the check decide. -/
namespace ErasedRecords

open FallibleSteps JsonValues KeyedTables TransitionSystems
open PassportModel (PassportId DppError)

section Table

structure Columns where
  id : ℕ
  passportId : PassportId
  field : String
  content : Option Json
  storedAt : Int
  erasedAt : Option Int
  deriving DecidableEq, Repr

/-- The `personal_data_record_one_state` constraint. -/
def Columns.oneState (c : Columns) : Bool :=
  c.content.isSome && c.erasedAt.isNone || c.content.isNone && c.erasedAt.isSome

/-- The `personal_data_record_guard` trigger lets `old` become `new`. -/
def Columns.guard (old new : Columns) : Bool :=
  old.erasedAt.isNone && new.content.isNone && new.id = old.id &&
    new.passportId = old.passportId && new.field = old.field && new.storedAt = old.storedAt

/-- The columns the role is granted the update of. -/
def Columns.set (c : Columns) (content : Option Json) (erasedAt : Option Int) : Columns :=
  { c with content := content, erasedAt := erasedAt }

structure PersonalDataRow extends Columns where
  checked : toColumns.oneState = true
  deriving DecidableEq

def PersonalDataRow.write (row : PersonalDataRow) (content : Option Json)
    (erasedAt : Option Int) : Option PersonalDataRow :=
  let columns := row.toColumns.set content erasedAt
  if h : row.toColumns.guard columns = true ∧ columns.oneState = true then some ⟨columns, h.2⟩
  else none

structure ErasureReceipt where
  record : String
  passportId : PassportId
  field : String
  erasedAt : Int
  deriving DecidableEq, Repr

structure PersonalDataRecord where
  id : String
  passportId : PassportId
  field : String
  content : Json
  storedAt : Int
  deriving DecidableEq, Repr

inductive HeldRecord where
  | present (record : PersonalDataRecord)
  | erased (receipt : ErasureReceipt)
  deriving DecidableEq, Repr

def heldFrom (row : PersonalDataRow) : Except DppError HeldRecord :=
  match row.erasedAt, row.content with
  | some erasedAt, _ => .ok (.erased ⟨PassportId.text row.id, row.passportId, row.field, erasedAt⟩)
  | none, none => .error (.internal
      ("personal data record " ++ PassportId.text row.id ++ " is neither erased nor holds content"))
  | none, some content =>
    .ok (.present ⟨PassportId.text row.id, row.passportId, row.field, content, row.storedAt⟩)

def receiptFrom (row : PersonalDataRow) : Option ErasureReceipt :=
  row.erasedAt.map (ErasureReceipt.mk (PassportId.text row.id) row.passportId row.field)

variable {row row' : PersonalDataRow} {receipt : ErasureReceipt} {content : Option Json}
  {erasedAt : Option Int}

theorem checked_iff : row.content.isSome = true ↔ row.erasedAt = none := by
  have h := row.checked
  unfold Columns.oneState at h
  cases hc : row.content <;> cases he : row.erasedAt <;> simp_all

theorem write_eq_some (h : row.write content erasedAt = some row') :
    row.erasedAt = none ∧ row'.erasedAt.isSome ∧ row'.id = row.id := by
  unfold PersonalDataRow.write at h
  dsimp only at h
  split_ifs at h with hallowed
  cases h
  have hguard := hallowed.1
  have hchecked := hallowed.2
  unfold Columns.guard at hguard
  unfold Columns.oneState at hchecked
  simp only [Bool.and_eq_true, Option.isNone_iff_eq_none, decide_eq_true_eq] at hguard
  obtain ⟨⟨⟨⟨⟨hold, hnew⟩, hid⟩, -⟩, -⟩, -⟩ := hguard
  refine ⟨hold, ?_, hid⟩
  simpa [hnew] using hchecked

/-- The update that erases is one the trigger and the check let through. -/
theorem write_erased (h : row.erasedAt = none) (now : Int) :
    (row.write none (some now)).isSome := by
  have hallowed : row.toColumns.guard (row.toColumns.set none (some now)) = true := by
    simp [Columns.guard, Columns.set, h]
  rw [PersonalDataRow.write, dif_pos ⟨hallowed, rfl⟩]
  rfl

theorem heldFrom_receipt (h : receiptFrom row = some receipt) :
    heldFrom row = .ok (.erased receipt) := by
  obtain ⟨erasedAt, herased, rfl⟩ := Option.map_eq_some_iff.mp h
  simp [heldFrom, herased]

theorem heldFrom_ok (row : PersonalDataRow) : ∃ held, heldFrom row = .ok held := by
  unfold heldFrom
  cases herased : row.erasedAt with
  | some t => exact ⟨_, rfl⟩
  | none =>
    obtain ⟨content, hcontent⟩ := Option.isSome_iff_exists.mp (checked_iff.mpr herased)
    rw [hcontent]
    exact ⟨_, rfl⟩

theorem receiptFrom_isSome : (receiptFrom row).isSome = row.erasedAt.isSome := by
  simp [receiptFrom]

end Table

section Requests

structure Store where
  passports : List PassportId
  records : Table fun row : PersonalDataRow => row.id
  /-- Erasures whose update found nothing to erase. -/
  selecting : List (String × ℕ)
  /-- What each erasure was answered with, by the text it named its record with. -/
  answers : List (String × Except DppError ErasureReceipt)

def Store.empty : Store := ⟨[], .empty, [], []⟩

def unknown (record : String) : DppError :=
  .notFound ("no personal data record " ++ record ++ " is held here")

inductive Event where
  | passport (id : PassportId)
  | store (id : ℕ) (passportId : PassportId) (field : String) (content : Json) (now : Int)
  | erase (record : String) (now : Int)
  | select (record : String) (id : ℕ)
  | write (id : ℕ) (content : Option Json) (erasedAt : Option Int)
  deriving DecidableEq, Repr

/-- The statement changes the row under `id`, when there is one and it may. -/
def Store.write (s : Store) (id : ℕ) (content : Option Json) (erasedAt : Option Int) :
    Option Store :=
  ((s.records.get id).bind fun row => row.write content erasedAt).map fun row =>
    { s with records := s.records.put row }

def Store.answer (s : Store) (record : String) (answer : Except DppError ErasureReceipt) : Store :=
  { s with answers := s.answers ++ [(record, answer)] }

def present (row : PersonalDataRow) : Bool := row.erasedAt.isNone

variable (parse : String → Option ℕ)

/-- A statement the database refuses is no step. -/
def next (s : Store) : Event → Option Store
  | .passport id => some { s with passports := id :: s.passports }
  | .store id passportId field content now =>
    if passportId ∈ s.passports ∧ field ≠ "" then
      (s.records.insert ⟨⟨id, passportId, field, some content, now, none⟩, rfl⟩).map fun records =>
        { s with records := records }
    else none
  | .erase record now =>
    match parse record with
    | none => some (s.answer record (.error (unknown record)))
    | some id =>
      match (s.records.get id).filter present with
      | none => some { s with selecting := (record, id) :: s.selecting }
      | some row =>
        (row.write none (some now)).bind fun erased => (receiptFrom erased).map fun receipt =>
          { s with records := s.records.put erased }.answer record (.ok receipt)
  | .select record id =>
    if (record, id) ∈ s.selecting then
      let found := (s.records.get id).bind receiptFrom
      let answer := match found with
        | some receipt => .ok receipt
        | none => .error (unknown record)
      some ({ s with selecting := s.selecting.erase (record, id) }.answer record answer)
    else none
  | .write id content erasedAt => s.write id content erasedAt

def fetch (s : Store) (record : String) : Except DppError (Option HeldRecord) :=
  match (parse record).bind s.records.get with
  | none => .ok none
  | some row => (heldFrom row).map some

/-- `ORDER BY stored_at, id`. -/
def before (a b : PersonalDataRow) : Bool :=
  a.storedAt < b.storedAt || a.storedAt = b.storedAt && a.id ≤ b.id

def recordsFor (s : Store) (passportId : PassportId) : Except DppError (List HeldRecord) :=
  ((s.records.rows.filter fun row => row.passportId = passportId).mergeSort before).mapM heldFrom

end Requests

section Runs

variable {parse : String → Option ℕ} {s t : Store} {e : Event} {es : List Event} {id : ℕ}
  {row : PersonalDataRow} {record : String} {receipt : ErasureReceipt}

/-- Everything a step can do to the table. -/
theorem next_records (h : next parse s e = some t) :
    t.records = s.records ∨ (∃ row, s.records.insert row = some t.records) ∨
      ∃ row row' content erasedAt, s.records.get row.id = some row ∧
        row.write content erasedAt = some row' ∧ t.records = s.records.put row' := by
  cases e with
  | passport id =>
    cases h
    exact .inl rfl
  | store id passportId field content now =>
    simp only [next] at h
    split_ifs at h
    obtain ⟨records, hinsert, rfl⟩ := Option.map_eq_some_iff.mp h
    exact .inr (.inl ⟨_, hinsert⟩)
  | erase record now =>
    simp only [next] at h
    cases hparse : parse record with
    | none =>
      rw [hparse] at h
      cases h
      exact .inl rfl
    | some id =>
      simp only [hparse] at h
      cases hget : (s.records.get id).filter present with
      | none =>
        rw [hget] at h
        cases h
        exact .inl rfl
      | some row =>
        simp only [hget] at h
        obtain ⟨erased, hwrite, h⟩ := Option.bind_eq_some_iff.mp h
        obtain ⟨receipt, -, rfl⟩ := Option.map_eq_some_iff.mp h
        have hrow := (Option.filter_eq_some_iff.mp hget).1
        rw [← Table.key_of_get hrow] at hrow
        exact .inr (.inr ⟨row, erased, none, some now, hrow, hwrite, rfl⟩)
  | select record id =>
    simp only [next] at h
    split_ifs at h
    cases h
    exact .inl rfl
  | write id content erasedAt =>
    obtain ⟨row', hbind, rfl⟩ := Option.map_eq_some_iff.mp h
    obtain ⟨row, hrow, hwrite⟩ := Option.bind_eq_some_iff.mp hbind
    rw [← Table.key_of_get hrow] at hrow
    exact .inr (.inr ⟨row, row', content, erasedAt, hrow, hwrite, rfl⟩)

/-- A row keeps its place, and a tombstone keeps its columns. -/
theorem next_get (h : next parse s e = some t) (hrow : s.records.get id = some row) :
    ∃ row', t.records.get id = some row' ∧ (row.erasedAt.isSome → row' = row) := by
  rcases next_records h with hsame | ⟨new, hinsert⟩ | ⟨old, new, _, _, hold, hwrite, hput⟩
  · exact ⟨row, hsame ▸ hrow, fun _ => rfl⟩
  · exact ⟨row, Table.get_insert_of_some hinsert hrow, fun _ => rfl⟩
  · obtain ⟨hpresent, -, hid⟩ := write_eq_some hwrite
    by_cases hk : new.id = id
    · refine ⟨new, by rw [hput, Table.get_put, if_pos hk, hrow]; rfl, fun herased => ?_⟩
      rw [← hid, hk, hrow] at hold
      cases hold
      rw [hpresent] at herased
      cases herased
    · refine ⟨row, ?_, fun _ => rfl⟩
      rw [hput, Table.get_put, if_neg hk, hrow]

def Stands (parse : String → Option ℕ) (s : Store) (record : String) (receipt : ErasureReceipt) :
    Prop :=
  ∃ id row, parse record = some id ∧ s.records.get id = some row ∧ receiptFrom row = some receipt

theorem Stands.step (hstands : Stands parse s record receipt) (h : next parse s e = some t) :
    Stands parse t record receipt := by
  obtain ⟨id, row, hparse, hrow, hreceipt⟩ := hstands
  obtain ⟨row', hrow', hsame⟩ := next_get h hrow
  have herased : row.erasedAt.isSome := by
    rw [← receiptFrom_isSome, hreceipt]
    rfl
  rw [hsame herased] at hrow'
  exact ⟨id, row, hparse, hrow', hreceipt⟩

/-- What an answer says about the table as it is given. -/
def Answers (parse : String → Option ℕ) (s t : Store) (record : String) :
    Except DppError ErasureReceipt → Prop
  | .ok receipt => Stands parse t record receipt
  | .error _ => ∀ id, parse record = some id →
      (record, id) ∈ s.selecting ∧ (s.records.get id).bind receiptFrom = none

/-- A step gives at most one answer, and only an update that found no content to drop goes on to
the select. -/
theorem next_answers (hselecting : ∀ p ∈ s.selecting, parse p.1 = some p.2)
    (h : next parse s e = some t) :
    (∀ p ∈ t.selecting, p ∈ s.selecting ∨
      parse p.1 = some p.2 ∧ (s.records.get p.2).filter present = none) ∧
    (t.answers = s.answers ∨
      ∃ record answer, t.answers = s.answers ++ [(record, answer)] ∧
        Answers parse s t record answer) := by
  cases e with
  | passport id =>
    cases h
    exact ⟨fun p hp => .inl hp, .inl rfl⟩
  | store id passportId field content now =>
    simp only [next] at h
    split_ifs at h
    obtain ⟨records, -, rfl⟩ := Option.map_eq_some_iff.mp h
    exact ⟨fun p hp => .inl hp, .inl rfl⟩
  | write id content erasedAt =>
    obtain ⟨row', -, rfl⟩ := Option.map_eq_some_iff.mp h
    exact ⟨fun p hp => .inl hp, .inl rfl⟩
  | erase record now =>
    simp only [next] at h
    cases hparse : parse record with
    | none =>
      rw [hparse] at h
      cases h
      refine ⟨fun p hp => .inl hp, .inr ⟨record, _, rfl, fun id hid => ?_⟩⟩
      rw [hparse] at hid
      cases hid
    | some id =>
      simp only [hparse] at h
      cases hget : (s.records.get id).filter present with
      | none =>
        rw [hget] at h
        cases h
        refine ⟨fun p hp => ?_, .inl rfl⟩
        rcases List.mem_cons.mp hp with rfl | hp
        · exact .inr ⟨hparse, hget⟩
        · exact .inl hp
      | some row =>
        simp only [hget] at h
        obtain ⟨erased, hwrite, h⟩ := Option.bind_eq_some_iff.mp h
        obtain ⟨receipt, hreceipt, rfl⟩ := Option.map_eq_some_iff.mp h
        refine ⟨fun p hp => .inl hp, .inr ⟨record, _, rfl, id, erased, hparse, ?_, hreceipt⟩⟩
        have hrow := (Option.filter_eq_some_iff.mp hget).1
        have hkey : row.id = id := Table.key_of_get (t := s.records) hrow
        have hid : erased.id = id := (write_eq_some hwrite).2.2.trans hkey
        change (s.records.put erased).get id = some erased
        rw [Table.get_put, if_pos hid, hrow]
        rfl
  | select record id =>
    simp only [next] at h
    split_ifs at h with hmem
    cases h
    refine ⟨fun p hp => .inl (List.mem_of_mem_erase hp), .inr ⟨record, _, rfl, ?_⟩⟩
    cases hfound : (s.records.get id).bind receiptFrom with
    | some receipt =>
      obtain ⟨row, hrow, hreceipt⟩ := Option.bind_eq_some_iff.mp hfound
      exact ⟨id, row, hselecting _ hmem, hrow, hreceipt⟩
    | none =>
      intro id' hid'
      rw [hselecting _ hmem] at hid'
      cases hid'
      exact ⟨hmem, hfound⟩

structure Inv (parse : String → Option ℕ) (s : Store) : Prop where
  selecting : ∀ p ∈ s.selecting, parse p.1 = some p.2
  answers : ∀ record receipt, (record, .ok receipt) ∈ s.answers → Stands parse s record receipt

theorem inv_empty : Inv parse Store.empty := ⟨by simp [Store.empty], by simp [Store.empty]⟩

theorem inv_next (hi : Inv parse s) (h : next parse s e = some t) : Inv parse t := by
  obtain ⟨hselecting, hanswers⟩ := next_answers hi.selecting h
  constructor
  · intro p hp
    rcases hselecting p hp with hp | ⟨hparse, -⟩
    · exact hi.selecting p hp
    · exact hparse
  · intro record receipt hmem
    rcases hanswers with hsame | ⟨record', answer, happend, hanswer⟩
    · exact (hi.answers record receipt (hsame ▸ hmem)).step h
    · rw [happend] at hmem
      rcases List.mem_append.mp hmem with hmem | hmem
      · exact (hi.answers record receipt hmem).step h
      · cases List.mem_singleton.mp hmem
        exact hanswer

theorem run_inv (h : run (next parse) .empty es = some s) : Inv parse s :=
  reachable_invariant (fun _ _ _ hi h => inv_next hi h) inv_empty h

theorem Stands.unique {other : String} {receipt' : ErasureReceipt}
    (h : Stands parse s record receipt) (h' : Stands parse s other receipt')
    (hsame : parse other = parse record) : receipt' = receipt := by
  obtain ⟨id, row, hparse, hrow, hreceipt⟩ := h
  obtain ⟨id', row', hparse', hrow', hreceipt'⟩ := h'
  rw [hsame, hparse] at hparse'
  cases hparse'
  rw [hrow] at hrow'
  cases hrow'
  rw [hreceipt] at hreceipt'
  exact (Option.some.inj hreceipt').symm

theorem Stands.fetch (h : Stands parse s record receipt) :
    fetch parse s record = .ok (some (.erased receipt)) := by
  obtain ⟨id, row, hparse, hrow, hreceipt⟩ := h
  simp [ErasedRecords.fetch, hparse, hrow, heldFrom_receipt hreceipt, Except.map]

/-- A listing never fails, and shows every row of the passport. -/
theorem recordsFor_ok (s : Store) (passportId : PassportId) :
    ∃ held, recordsFor s passportId = .ok held ∧
      ∀ row ∈ s.records.rows, row.passportId = passportId →
        ∃ h ∈ held, heldFrom row = .ok h := by
  obtain ⟨held, hheld, hall⟩ := mapM_ok (f := heldFrom)
    (l := (s.records.rows.filter fun row => row.passportId = passportId).mergeSort before)
    fun row _ => heldFrom_ok row
  refine ⟨held, hheld, fun row hrow hpassport => ?_⟩
  have hmem : row ∈ (s.records.rows.filter fun row => row.passportId = passportId).mergeSort
      before := by
    rw [List.mem_mergeSort]
    simpa [hpassport] using hrow
  obtain ⟨i, hi, hget⟩ := List.mem_iff_getElem.mp hmem
  have hlt : i < held.length := hall.length_eq ▸ hi
  refine ⟨held[i], List.getElem_mem hlt, ?_⟩
  have h := (List.forall₂_iff_get.mp hall).2 i hi hlt
  simpa [hget] using h

theorem Stands.listed (h : Stands parse s record receipt) :
    ∃ held, recordsFor s receipt.passportId = .ok held ∧ .erased receipt ∈ held := by
  obtain ⟨id, row, -, hrow, hreceipt⟩ := h
  obtain ⟨held, hheld, hall⟩ := recordsFor_ok s receipt.passportId
  have hpassport : row.passportId = receipt.passportId := by
    obtain ⟨erasedAt, -, rfl⟩ := Option.map_eq_some_iff.mp hreceipt
    rfl
  obtain ⟨h, hmem, hrow'⟩ := hall row (Table.mem_of_get hrow) hpassport
  rw [heldFrom_receipt hreceipt] at hrow'
  cases hrow'
  exact ⟨held, hheld, hmem⟩

/-- Whatever else the application role runs, in any order: once an erasure was answered, its
record is a tombstone for good. Every erasure of it is answered with that one receipt, a fetch of
it finds that receipt and nothing else, and so does a listing of its passport. -/
theorem erasure_is_final (h : run (next parse) .empty es = some s)
    (hanswered : (record, .ok receipt) ∈ s.answers) :
    fetch parse s record = .ok (some (.erased receipt)) ∧
    (∀ other receipt', (other, .ok receipt') ∈ s.answers → parse other = parse record →
      receipt' = receipt) ∧
    ∃ held, recordsFor s receipt.passportId = .ok held ∧ .erased receipt ∈ held := by
  have hi := run_inv h
  have hstands := hi.answers record receipt hanswered
  refine ⟨hstands.fetch, fun other receipt' hother hsame => ?_, hstands.listed⟩
  exact hstands.unique (hi.answers other receipt' hother) hsame

def Settled (s : Store) (id : ℕ) : Prop :=
  ∃ row, s.records.get id = some row ∧ ∀ p ∈ s.selecting, p.2 = id → row.erasedAt.isSome

theorem Settled.step (hi : Inv parse s) (hsettled : Settled s id) (h : next parse s e = some t) :
    Settled t id ∧ ∃ new, t.answers = s.answers ++ new ∧
      ∀ a ∈ new, parse a.1 = some id → ∃ receipt, a.2 = .ok receipt := by
  obtain ⟨row, hrow, hselect⟩ := hsettled
  obtain ⟨hselecting, hanswers⟩ := next_answers hi.selecting h
  obtain ⟨row', hrow', hsame⟩ := next_get h hrow
  constructor
  · refine ⟨row', hrow', fun p hp hid => ?_⟩
    rcases hselecting p hp with hp | ⟨-, hnone⟩
    · have herased := hselect p hp hid
      rwa [hsame herased]
    · rw [hid, hrow] at hnone
      have herased : row.erasedAt.isSome := by
        cases hat : row.erasedAt with
        | some at' => rfl
        | none => simp [present, hat] at hnone
      rwa [hsame herased]
  · rcases hanswers with hsame' | ⟨record, answer, happend, hanswer⟩
    · exact ⟨[], by simp [hsame'], by simp⟩
    · refine ⟨[(record, answer)], happend, fun a ha hparse => ?_⟩
      cases List.mem_singleton.mp ha
      cases answer with
      | ok receipt => exact ⟨receipt, rfl⟩
      | error _ =>
        obtain ⟨hmem, hnone⟩ := hanswer id hparse
        have herased := hselect _ hmem rfl
        rw [hrow, Option.bind_some] at hnone
        rw [← receiptFrom_isSome, hnone] at herased
        cases herased

/-- The update of an erasure is never refused: it answers at once, or goes on to its select. -/
theorem erase_enabled (hparse : parse record = some id) (now : Int) :
    ∃ t, next parse s (.erase record now) = some t ∧
      ((∃ receipt, t.answers = s.answers ++ [(record, .ok receipt)]) ∨
        (record, id) ∈ t.selecting) := by
  simp only [next, hparse]
  cases hget : (s.records.get id).filter present with
  | none => exact ⟨_, rfl, .inr List.mem_cons_self⟩
  | some found =>
    obtain ⟨hfound, hpresent⟩ := Option.filter_eq_some_iff.mp hget
    obtain ⟨erased, hwrite⟩ := Option.isSome_iff_exists.mp
      (write_erased (Option.isNone_iff_eq_none.mp hpresent) now)
    have herased : (receiptFrom erased).isSome := by
      rw [receiptFrom_isSome]
      exact (write_eq_some hwrite).2.1
    obtain ⟨receipt, hreceipt⟩ := Option.isSome_iff_exists.mp herased
    refine ⟨{ s with records := s.records.put erased }.answer record (.ok receipt), ?_,
      .inl ⟨receipt, rfl⟩⟩
    simp only [hwrite, Option.bind_some, hreceipt]
    rfl

theorem Settled.select (hsettled : Settled s id) (hmem : (record, id) ∈ s.selecting) :
    ∃ t receipt, next parse s (.select record id) = some t ∧
      t.answers = s.answers ++ [(record, .ok receipt)] := by
  obtain ⟨row, hrow, hselect⟩ := hsettled
  have herased : (receiptFrom row).isSome := by
    rw [receiptFrom_isSome]
    exact hselect _ hmem rfl
  obtain ⟨receipt, hreceipt⟩ := Option.isSome_iff_exists.mp herased
  refine ⟨_, receipt, if_pos hmem, ?_⟩
  rw [hrow, Option.bind_some, hreceipt]
  rfl

/-- An erasure of a record that was held when it began is answered with a receipt, however many
erasures and other statements run between its two: its update is never refused and its select
always finds the tombstone. An erasure between its two statements in `s` is left out, since its
update may have run before the record was stored, and is then answered as not found. -/
theorem erasure_is_answered {es fs : List Event}
    (hs : run (next parse) .empty es = some s) (ht : run (next parse) s fs = some t)
    (hrow : s.records.get id = some row) (hidle : ∀ p ∈ s.selecting, p.2 ≠ id) :
    (∃ new, t.answers = s.answers ++ new ∧
      ∀ a ∈ new, parse a.1 = some id → ∃ receipt, a.2 = .ok receipt) ∧
    (∀ record now, parse record = some id → ∃ u, next parse t (.erase record now) = some u ∧
      ((∃ receipt, u.answers = t.answers ++ [(record, .ok receipt)]) ∨
        (record, id) ∈ u.selecting)) ∧
    ∀ record, (record, id) ∈ t.selecting → ∃ u receipt,
      next parse t (.select record id) = some u ∧
        u.answers = t.answers ++ [(record, .ok receipt)] := by
  have hstart : Settled s id := ⟨row, hrow, fun p hp hid => absurd hid (hidle p hp)⟩
  have hend := reachable_invariant (fun u e v (hu : Inv parse u ∧ Settled u id ∧ ∃ new,
    u.answers = s.answers ++ new ∧ ∀ a ∈ new, parse a.1 = some id → ∃ receipt, a.2 = .ok receipt)
    hnext => ?_) ⟨run_inv hs, hstart, [], by simp, by simp⟩ ht
  · obtain ⟨-, hsettled, hnew⟩ := hend
    exact ⟨hnew, fun record now hparse => erase_enabled hparse now,
      fun record hmem => hsettled.select hmem⟩
  · obtain ⟨hi, hsettled, new, happend, hnew⟩ := hu
    obtain ⟨hsettled', more, hmore, hall⟩ := hsettled.step hi hnext
    refine ⟨inv_next hi hnext, hsettled', new ++ more, ?_, fun a ha => ?_⟩
    · rw [hmore, happend, List.append_assoc]
    · rcases List.mem_append.mp ha with ha | ha
      · exact hnew a ha
      · exact hall a ha

end Runs

section Samples

def parseSeven (text : String) : Option ℕ := if text = PassportId.text 7 then some 7 else none

def stored : List Event := [.passport 1, .store 7 1 "usageHistory.negativeEvents" (.str "fire") 100]

def erasures : List Event :=
  [.erase (PassportId.text 7) 200, .erase (PassportId.text 7) 300, .select (PassportId.text 7) 7]

def erasedTwice : List Event := stored ++ erasures

def sevenErased : ErasureReceipt := ⟨PassportId.text 7, 1, "usageHistory.negativeEvents", 200⟩

theorem erased_twice_one_receipt :
    ∃ s, run (next parseSeven) .empty erasedTwice = some s ∧
      fetch parseSeven s (PassportId.text 7) = .ok (some (.erased sevenErased)) ∧
      (∀ other receipt', (other, .ok receipt') ∈ s.answers →
        parseSeven other = parseSeven (PassportId.text 7) → receipt' = sevenErased) ∧
      ∃ held, recordsFor s 1 = .ok held ∧ .erased sevenErased ∈ held := by
  have hrun : run (next parseSeven) .empty erasedTwice = some _ := rfl
  exact ⟨_, hrun, erasure_is_final hrun (.head _)⟩

theorem erasure_of_stored_record_answered :
    ∃ s t, run (next parseSeven) .empty stored = some s ∧
      run (next parseSeven) s erasures = some t ∧ t.answers.length = 2 ∧
      (∃ new, t.answers = s.answers ++ new ∧
        ∀ a ∈ new, parseSeven a.1 = some 7 → ∃ receipt, a.2 = .ok receipt) ∧
      ∃ u, next parseSeven t (.erase (PassportId.text 7) 400) = some u ∧
        ((∃ receipt, u.answers = t.answers ++ [(PassportId.text 7, .ok receipt)]) ∨
          (PassportId.text 7, 7) ∈ u.selecting) := by
  let s := (run (next parseSeven) .empty stored).getD .empty
  have hs : run (next parseSeven) .empty stored = some s := rfl
  have ht : run (next parseSeven) s erasures = some _ := rfl
  have hrow : s.records.get 7 = some _ := rfl
  obtain ⟨hanswers, herase, -⟩ := erasure_is_answered hs ht hrow fun p hp => nomatch hp
  exact ⟨s, _, hs, ht, rfl, hanswers, herase _ 400 rfl⟩

end Samples

end ErasedRecords
