import DppEngine.BatteryLookups
import DppEngine.ImportFiles

/-! The order of a file's columns, and the order a row's map is enumerated in: when neither can
matter to what becomes of a row.

The reader of the format is a parameter. A validator of another product group than batteries is any
whose answer follows from those of the row to what it asks it. -/
namespace ColumnOrders

open BatteryLookups BatteryRows FieldReaders Footprints
open ImportFiles (normalizeHeader ParseError maxRows rowOf)
open TrustedListDocuments (trim)

section Maps

theorem insert_nodup (m : HashMap) (key value : String) :
    (((key, value) :: m.entries.filter fun e => e.1 ≠ key).map Prod.fst).Nodup := by
  refine List.nodup_cons.mpr ⟨?_, ?_⟩
  · intro hmem
    obtain ⟨e, he, hkey⟩ := List.mem_map.mp hmem
    have hne := (List.mem_filter.mp he).2
    simp [hkey] at hne
  · exact m.nodup.sublist (List.filter_sublist.map Prod.fst)

def insert (m : HashMap) (key value : String) : HashMap :=
  ⟨(key, value) :: m.entries.filter fun e => e.1 ≠ key, insert_nodup m key value⟩

/-- The columns' values under their headers; of two under one header, the later. -/
def collect (columns : List (String × String)) : HashMap :=
  columns.foldl (fun m c => insert m c.1 c.2) ⟨[], List.nodup_nil⟩

/-- One map, enumerated in another order. -/
def Enumerates (m m' : HashMap) : Prop := m.entries.Perm m'.entries

end Maps

section Columns

/-- The columns whose text can be the answer: for a key those under it, for a field those under the
field itself, or else those under a header that is as good. -/
def candidates (columns : List (String × String)) : Lookup → List (String × String)
  | .get key => columns.filter fun c => c.1 = key
  | .getField field =>
    if columns.any fun c => c.1 = field then columns.filter fun c => c.1 = field
    else columns.filter fun c => normalizeKey c.1 = normalizeKey field

def Unambiguous (lookups : List Lookup) (columns : List (String × String)) : Prop :=
  ∀ l ∈ lookups, ∀ c ∈ candidates columns l, ∀ c' ∈ candidates columns l, c.2 = c'.2

def keptOf (columns : List (String × String)) : List (String × String) :=
  (columns.map (Prod.map normalizeHeader trim)).filter fun c => c.1 ≠ "" && c.2 ≠ ""

end Columns

section Files

structure Validator (R : Type) where
  asked : ℕ → Row → List Lookup
  validate : Row → ℕ → Except (List RowError) R
  asks_only : ∀ rowNum, AsksOnly answerTo (asked rowNum) (validate · rowNum)

/-- What the reader makes of a file that is parted like this: a header row, and each data row or
why it cannot be read. -/
structure Table where
  headers : List String
  records : List (Except String (List String))
  deriving DecidableEq

def newline : UInt8 := 10
def tab : UInt8 := 9
def comma : UInt8 := 44
def semicolon : UInt8 := 59

def detectDelimiter (bytes : List UInt8) : UInt8 :=
  let firstLine := bytes.takeWhile (· ≠ newline)
  if tab ∈ firstLine then tab
  else if semicolon ∈ firstLine ∧ comma ∉ firstLine then semicolon
  else comma

def readRows (headers : List String) :
    ℕ → List (Except String (List String)) → Except ParseError (List HashMap)
  | _, [] => .ok []
  | _, .error e :: _ => .error (.csv e)
  | kept, .ok record :: records =>
    let columns := rowOf (headers.map normalizeHeader) (record.map trim)
    if columns = [] then readRows headers kept records
    else if maxRows < kept + 1 then
      .error (.csv ("file contains too many rows; maximum is " ++ toString maxRows))
    else (readRows headers (kept + 1) records).map (collect columns :: ·)

def parseTable (table : Table) : Except ParseError (List HashMap) :=
  if (table.headers.map normalizeHeader).all (· = "") then .error .empty
  else readRows table.headers 0 table.records

def parseCsv (read : UInt8 → List UInt8 → Except String Table) (bytes : List UInt8) :
    Except ParseError (List HashMap) :=
  match read (detectDelimiter bytes) bytes with
  | .error e => .error (.csv e)
  | .ok table => parseTable table

inductive RowValidationError where
  | unsupportedProductGroup
  | invalid (errors : List RowError)
  deriving DecidableEq, Repr

def templateKey : BatteryCategory → String
  | .ev => "battery-ev"
  | .lmt => "battery-lmt"
  | .industrial => "battery-industrial"

def productGroupForTemplateKey (key : String) : String :=
  if key ∈ [BatteryCategory.ev, .lmt, .industrial].map templateKey then "battery" else key

end Files

section Dispatch

structure Validators (d : Domain) where
  Request : Type
  ofBattery : CreatePassportRequest d → Request
  textile : Validator Request
  steel : Validator Request
  aluminium : Validator Request
  tyre : Validator Request
  mattress : Validator Request
  furniture : Validator Request
  toy : Validator Request
  construction : Validator Request
  electronics : Validator Request
  detergent : Validator Request

def Validator.map {R R' : Type} (v : Validator R) (f : R → R') : Validator R' where
  asked := v.asked
  validate row rowNum := (v.validate row rowNum).map f
  asks_only rowNum := (v.asks_only rowNum).map (Except.map f)

def batteryValidator (d : Domain) : Validator (CreatePassportRequest d) where
  asked := batteryAsked d
  validate := validateBatteryRow d
  asks_only := asks_validateBatteryRow d

variable {d : Domain} (vs : Validators d)

def validatorOf (productGroup : String) : Option (Validator vs.Request) :=
  match productGroupForTemplateKey productGroup with
  | "battery" => some ((batteryValidator d).map vs.ofBattery)
  | "textile" => some vs.textile
  | "steel" => some vs.steel
  | "aluminium" => some vs.aluminium
  | "tyre" => some vs.tyre
  | "mattress" => some vs.mattress
  | "furniture" => some vs.furniture
  | "toy" => some vs.toy
  | "construction" => some vs.construction
  | "electronics" => some vs.electronics
  | "detergent" => some vs.detergent
  | _ => none

def validateRow (productGroup : String) (row : Row) (rowNum : ℕ) :
    Except RowValidationError vs.Request :=
  match validatorOf vs productGroup with
  | none => .error .unsupportedProductGroup
  | some v => (v.validate row rowNum).mapError .invalid

def askedOf (productGroup : String) (rowNum : ℕ) (row : Row) : List Lookup :=
  match validatorOf vs productGroup with
  | none => []
  | some v => v.asked rowNum row

/-- What is answered for each row, the rows numbered as they were kept. -/
def validateRows (productGroup : String) (rows : List HashMap) :
    List (Except RowValidationError vs.Request) :=
  (rows.zipIdx 1).map fun (m, rowNum) => validateRow vs productGroup m.row rowNum

/-- What may be answered for a file: its rows' maps may be enumerated in any order. -/
def Answers (read : UInt8 → List UInt8 → Except String Table) (productGroup : String)
    (file : List UInt8)
    (answer : Except ParseError (List (Except RowValidationError vs.Request))) : Prop :=
  match parseCsv read file with
  | .error e => answer = .error e
  | .ok rows => ∃ rows', List.Forall₂ Enumerates rows rows' ∧
      answer = .ok (validateRows vs productGroup rows')

def columnsOf (headers : List String) (records : List (Except String (List String))) :
    List (List (String × String)) :=
  (records.filterMap fun record =>
    record.toOption.map fun record => keptOf (headers.zip record)).filter (· ≠ [])

def Table.rows (table : Table) : List (List (String × String)) :=
  columnsOf table.headers table.records

/-- What its group's validator asks a row is answered alike by whichever columns the answer can
come from. -/
def Settled (productGroup : String) (rowNum : ℕ) (columns : List (String × String)) : Prop :=
  Unambiguous (askedOf vs productGroup rowNum (collect columns).row) columns

inductive SameCells (headers headers' : List String) :
    Except String (List String) → Except String (List String) → Prop where
  | read {record record'} : (headers.zip record).Perm (headers'.zip record') →
      SameCells headers headers' (.ok record) (.ok record')
  | unread {e} : SameCells headers headers' (.error e) (.error e)

structure Reordered (table table' : Table) : Prop where
  headers : table.headers.Perm table'.headers
  records : List.Forall₂ (SameCells table.headers table'.headers) table.records table'.records

end Dispatch

section Lookups

variable {m m' : HashMap} {key v field : String} {columns columns' : List (String × String)}

theorem get_eq_some_iff : m.get key = some v ↔ (key, v) ∈ m.entries := by
  constructor
  · intro h
    obtain ⟨e, hfind, rfl⟩ := Option.map_eq_some_iff.mp h
    have hkey : e.1 = key := by simpa using List.find?_some hfind
    rw [← hkey]
    exact List.mem_of_find?_eq_some hfind
  · intro h
    have hsome : (m.entries.find? fun e => e.1 = key).isSome :=
      List.find?_isSome.mpr ⟨(key, v), h, by simp⟩
    obtain ⟨e, hfind⟩ := Option.isSome_iff_exists.mp hsome
    have hkey : e.1 = key := by simpa using List.find?_some hfind
    have heq : e = (key, v) :=
      List.inj_on_of_nodup_map m.nodup (List.mem_of_find?_eq_some hfind) h hkey
    unfold HashMap.get
    rw [hfind, heq]
    rfl

theorem mem_insert {value : String} :
    (key, v) ∈ (insert m field value).entries ↔
      key = field ∧ v = value ∨ key ≠ field ∧ (key, v) ∈ m.entries := by
  simp [insert, and_comm]

theorem collect_concat (columns : List (String × String)) (c : String × String) :
    collect (columns ++ [c]) = insert (collect columns) c.1 c.2 := by
  simp [collect, List.foldl_append]

theorem collect_mem (h : (key, v) ∈ (collect columns).entries) : (key, v) ∈ columns := by
  induction columns using List.reverseRecOn with
  | nil => cases h
  | append_singleton columns c ih =>
    rw [collect_concat] at h
    rcases mem_insert.mp h with ⟨rfl, rfl⟩ | ⟨_, h⟩
    · exact List.mem_append_right _ (List.mem_singleton_self _)
    · exact List.mem_append_left _ (ih h)

theorem collect_key (h : key ∈ columns.map Prod.fst) :
    ∃ v, (key, v) ∈ (collect columns).entries := by
  induction columns using List.reverseRecOn with
  | nil => cases h
  | append_singleton columns c ih =>
    rw [collect_concat]
    by_cases hkey : key = c.1
    · exact ⟨c.2, mem_insert.mpr (.inl ⟨hkey, rfl⟩)⟩
    · have hmem : key ∈ columns.map Prod.fst := by
        rw [List.map_append, List.mem_append] at h
        exact h.resolve_right (by simpa using hkey)
      obtain ⟨v, hv⟩ := ih hmem
      exact ⟨v, mem_insert.mpr (.inr ⟨hkey, hv⟩)⟩

def asked : Lookup → String
  | .get key => key
  | .getField field => field

/-- An answer comes from a column, under a header as good as what is asked for. -/
theorem of_mem_candidates {l : Lookup} {c : String × String} (h : c ∈ candidates columns l) :
    c ∈ columns ∧ normalizeKey c.1 = normalizeKey (asked l) := by
  have hexact {key : String} (h : c ∈ columns.filter fun c => c.1 = key) :
      c ∈ columns ∧ normalizeKey c.1 = normalizeKey key := by
    obtain ⟨hmem, hkey⟩ := List.mem_filter.mp h
    exact ⟨hmem, congrArg normalizeKey (by simpa using hkey)⟩
  cases l with
  | get key => exact hexact h
  | getField field =>
    simp only [candidates] at h
    split at h
    next => exact hexact h
    next =>
      obtain ⟨hmem, hkey⟩ := List.mem_filter.mp h
      exact ⟨hmem, by simpa [asked] using hkey⟩

theorem any_of_get (hm : Enumerates (collect columns) m) (h : m.get field = some v) :
    columns.any fun c => c.1 = field := by
  have hmem : (field, v) ∈ columns := collect_mem (hm.mem_iff.mpr (get_eq_some_iff.mp h))
  exact List.any_eq_true.mpr ⟨_, hmem, by simp⟩

theorem get_mem (hm : Enumerates (collect columns) m) (h : m.get field = some v) :
    (field, v) ∈ columns.filter fun c => c.1 = field := by
  refine List.mem_filter.mpr ⟨?_, by simp⟩
  exact collect_mem (hm.mem_iff.mpr (get_eq_some_iff.mp h))

theorem get_none (hm : Enumerates (collect columns) m) (h : m.get field = none) :
    ¬columns.any fun c => c.1 = field := by
  intro hany
  obtain ⟨c, hc, hkey⟩ := List.any_eq_true.mp hany
  have hkey : c.1 = field := by simpa using hkey
  obtain ⟨v, hv⟩ := collect_key (List.mem_map_of_mem hc)
  rw [hkey] at hv
  rw [get_eq_some_iff.mpr (hm.mem_iff.mp hv)] at h
  cases h

theorem answer_mem {l : Lookup} (hm : Enumerates (collect columns) m)
    (h : answerTo m.row l = some v) : ∃ c ∈ candidates columns l, c.2 = v := by
  cases l with
  | get key => exact ⟨_, get_mem hm h, rfl⟩
  | getField field =>
    change m.getField field = some v at h
    unfold HashMap.getField at h
    simp only [candidates]
    cases hget : m.get field with
    | some w =>
      rw [hget] at h
      cases h
      rw [if_pos (any_of_get hm hget)]
      exact ⟨_, get_mem hm hget, rfl⟩
    | none =>
      rw [hget] at h
      obtain ⟨e, hfind, rfl⟩ := Option.map_eq_some_iff.mp h
      rw [if_neg (get_none hm hget)]
      refine ⟨e, List.mem_filter.mpr ⟨?_, by simpa using List.find?_some hfind⟩, rfl⟩
      exact collect_mem (hm.mem_iff.mpr (List.mem_of_find?_eq_some hfind))

theorem answer_none {l : Lookup} (hm : Enumerates (collect columns) m)
    (h : answerTo m.row l = none) : candidates columns l = [] := by
  cases l with
  | get key =>
    refine List.filter_eq_nil_iff.mpr fun c hc => ?_
    intro hkey
    exact get_none hm h (List.any_eq_true.mpr ⟨c, hc, hkey⟩)
  | getField field =>
    change m.getField field = none at h
    unfold HashMap.getField at h
    cases hget : m.get field with
    | some w =>
      rw [hget] at h
      cases h
    | none =>
      rw [hget] at h
      have hfind := List.find?_eq_none.mp (Option.map_eq_none_iff.mp h)
      simp only [candidates]
      rw [if_neg (get_none hm hget)]
      refine List.filter_eq_nil_iff.mpr ?_
      intro c hc
      obtain ⟨v, hv⟩ := collect_key (List.mem_map_of_mem hc)
      simpa using hfind _ (hm.mem_iff.mp hv)

theorem candidates_perm (h : columns.Perm columns') (l : Lookup) :
    (candidates columns l).Perm (candidates columns' l) := by
  cases l with
  | get key => exact h.filter _
  | getField field =>
    have hany : (columns.any fun c => c.1 = field) = columns'.any fun c => c.1 = field := h.any_eq
    simp only [candidates]
    rw [hany]
    split
    next => exact h.filter _
    next => exact h.filter _

/-- Headers of which no two are as good as each other are read from wherever they stand. -/
theorem unambiguous_of_nodup (h : (columns.map fun c => normalizeKey c.1).Nodup)
    (lookups : List Lookup) : Unambiguous lookups columns := by
  intro l _ c hc c' hc'
  obtain ⟨hmem, heq⟩ := of_mem_candidates hc
  obtain ⟨hmem', heq'⟩ := of_mem_candidates hc'
  rw [List.inj_on_of_nodup_map h hmem hmem' (heq.trans heq'.symm)]

/-- Where the columns each answer can come from say the same, every order answers alike. -/
theorem agree_of_unambiguous {lookups : List Lookup} (hperm : columns.Perm columns')
    (hm : Enumerates (collect columns) m) (hm' : Enumerates (collect columns') m')
    (h : Unambiguous lookups columns) : AgreeOn answerTo lookups m.row m'.row := by
  intro l hl
  have hcandidates := candidates_perm hperm l
  cases hanswer : answerTo m.row l with
  | some v =>
    obtain ⟨c, hc, rfl⟩ := answer_mem hm hanswer
    cases hanswer' : answerTo m'.row l with
    | some v' =>
      obtain ⟨c', hc', rfl⟩ := answer_mem hm' hanswer'
      rw [h l hl c hc c' (hcandidates.mem_iff.mpr hc')]
    | none =>
      rw [answer_none hm' hanswer'] at hcandidates
      rw [List.perm_nil.mp hcandidates] at hc
      cases hc
  | none =>
    cases hanswer' : answerTo m'.row l with
    | none => rfl
    | some v' =>
      obtain ⟨c', hc', _⟩ := answer_mem hm' hanswer'
      rw [answer_none hm hanswer] at hcandidates
      rw [List.nil_perm.mp hcandidates] at hc'
      cases hc'

/-- The last of the columns an answer can come from is the one it comes from. -/
theorem concat_answer {l : Lookup} {c : String × String}
    (hc : c ∈ candidates (columns ++ [c]) l) :
    answerTo (collect (columns ++ [c])).row l = some c.2 := by
  have hfirst : (collect (columns ++ [c])).entries =
      (c.1, c.2) :: (collect columns).entries.filter fun e => e.1 ≠ c.1 := by
    rw [collect_concat]
    rfl
  have hexact {key : String} (hkey : c.1 = key) :
      (collect (columns ++ [c])).get key = some c.2 := by
    refine get_eq_some_iff.mpr ?_
    rw [hfirst, ← hkey]
    exact List.mem_cons_self
  cases l with
  | get key => exact hexact (by simpa using (List.mem_filter.mp hc).2)
  | getField field =>
    change (collect (columns ++ [c])).getField field = some c.2
    simp only [candidates] at hc
    unfold HashMap.getField
    split at hc
    next => rw [hexact (by simpa using (List.mem_filter.mp hc).2)]
    next hany =>
      have hkey : normalizeKey c.1 = normalizeKey field := by simpa using (List.mem_filter.mp hc).2
      have hget : (collect (columns ++ [c])).get field = none := by
        by_contra hsome
        obtain ⟨v, hv⟩ := Option.ne_none_iff_exists'.mp hsome
        exact hany (any_of_get (.refl _) hv)
      rw [hget, hfirst, List.find?_cons_of_pos (by simpa using hkey)]
      rfl

theorem candidate_answers {cells : List (String × String)} {l : Lookup} {c : String × String}
    (hc : c ∈ candidates (keptOf cells) l) :
    ∃ cells', cells.Perm cells' ∧ answerTo (collect (keptOf cells')).row l = some c.2 := by
  obtain ⟨hmem, htext⟩ := List.mem_filter.mp (of_mem_candidates hc).1
  obtain ⟨cell, hcell, rfl⟩ := List.mem_map.mp hmem
  have hperm : cells.Perm (cells.erase cell ++ [cell]) :=
    (List.perm_cons_erase hcell).trans (List.perm_append_singleton _ _).symm
  refine ⟨_, hperm, ?_⟩
  have hlast : keptOf (cells.erase cell ++ [cell]) =
      keptOf (cells.erase cell) ++ [Prod.map normalizeHeader trim cell] := by
    have hkeep : [Prod.map normalizeHeader trim cell].filter
        (fun c => c.1 ≠ "" && c.2 ≠ "") = [Prod.map normalizeHeader trim cell] := by
      refine List.filter_eq_self.mpr ?_
      intro e he
      rw [List.mem_singleton.mp he]
      exact htext
    unfold keptOf
    rw [List.map_append, List.filter_append, List.map_singleton, hkeep]
  rw [hlast]
  refine concat_answer ?_
  rw [← hlast]
  exact (candidates_perm ((hperm.map _).filter _) l).mem_iff.mp hc

end Lookups

section Orders

variable {d : Domain} {vs : Validators d} {productGroup : String} {headers headers' : List String}

theorem rowOf_eq (headers record : List String) :
    rowOf (headers.map normalizeHeader) (record.map trim) = keptOf (headers.zip record) := by
  unfold rowOf keptOf
  rw [List.zip_map]

theorem keptOf_perm {cells cells' : List (String × String)} (h : cells.Perm cells') :
    (keptOf cells).Perm (keptOf cells') :=
  (h.map _).filter _

theorem readRows_reordered {records records' : List (Except String (List String))}
    (h : List.Forall₂ (SameCells headers headers') records records') (kept : ℕ) :
    (∃ e, readRows headers kept records = .error e ∧ readRows headers' kept records' = .error e) ∨
      ∃ rows rows', readRows headers kept records = .ok (rows.map collect) ∧
        readRows headers' kept records' = .ok (rows'.map collect) ∧
        List.Forall₂ List.Perm rows rows' ∧ rows = columnsOf headers records := by
  induction h generalizing kept with
  | nil => exact .inr ⟨[], [], rfl, rfl, .nil, rfl⟩
  | @cons record record' records records' hcells _ ih =>
    cases hcells with
    | @unread e => exact .inl ⟨_, rfl, rfl⟩
    | @read record record' hperm =>
      have hkept := keptOf_perm hperm
      unfold readRows
      rw [rowOf_eq, rowOf_eq]
      by_cases hnil : keptOf (headers.zip record) = []
      · have hnil' : keptOf (headers'.zip record') = [] := by
          rw [hnil] at hkept
          exact List.nil_perm.mp hkept
        rw [if_pos hnil, if_pos hnil']
        have hcolumns : columnsOf headers (.ok record :: records) = columnsOf headers records := by
          simp [columnsOf, Except.toOption, hnil]
        rw [hcolumns]
        exact ih kept
      · have hnil' : keptOf (headers'.zip record') ≠ [] := by
          intro hnil'
          rw [hnil'] at hkept
          exact hnil (List.perm_nil.mp hkept)
        rw [if_neg hnil, if_neg hnil']
        by_cases hmany : maxRows < kept + 1
        · rw [if_pos hmany, if_pos hmany]
          exact .inl ⟨_, rfl, rfl⟩
        · rw [if_neg hmany, if_neg hmany]
          obtain ⟨e, he, he'⟩ | ⟨rows, rows', hrows, hrows', hperms, hcolumns⟩ := ih (kept + 1)
          · rw [he, he']
            exact .inl ⟨e, rfl, rfl⟩
          · rw [hrows, hrows']
            refine .inr ⟨_ :: rows, _ :: rows', rfl, rfl, .cons hkept hperms, ?_⟩
            rw [hcolumns]
            simp [columnsOf, Except.toOption, hnil]

/-- A settled row's answers, in any order, are those of its columns as they stand. -/
theorem validateRow_eq {columns columns' : List (String × String)} {m : HashMap} {rowNum : ℕ}
    (hsettled : Settled vs productGroup rowNum columns) (hperm : columns.Perm columns')
    (hm : Enumerates (collect columns') m) :
    validateRow vs productGroup (collect columns).row rowNum =
      validateRow vs productGroup m.row rowNum := by
  have hagree : AgreeOn answerTo (askedOf vs productGroup rowNum (collect columns).row)
      (collect columns).row m.row := agree_of_unambiguous hperm (List.Perm.refl _) hm hsettled
  unfold validateRow
  unfold askedOf at hagree
  cases hvalidator : validatorOf vs productGroup with
  | none => rfl
  | some v =>
    rw [hvalidator] at hagree
    exact congrArg (Except.mapError RowValidationError.invalid)
      (v.asks_only rowNum _ _ hagree).2

theorem validateRows_eq {rows rows' : List (List (String × String))}
    (h : List.Forall₂ List.Perm rows rows') {maps maps' : List HashMap}
    (hmaps : List.Forall₂ Enumerates (rows.map collect) maps)
    (hmaps' : List.Forall₂ Enumerates (rows'.map collect) maps') {n : ℕ}
    (hsettled : ∀ row ∈ rows.zipIdx n, Settled vs productGroup row.2 row.1) :
    ((maps.zipIdx n).map fun (m, rowNum) => validateRow vs productGroup m.row rowNum) =
      (maps'.zipIdx n).map fun (m, rowNum) => validateRow vs productGroup m.row rowNum := by
  induction h generalizing maps maps' n with
  | nil =>
    cases hmaps
    cases hmaps'
    rfl
  | @cons columns columns' rows rows' hperm _ ih =>
    obtain _ | ⟨hm, hmaps⟩ := hmaps
    obtain _ | ⟨hm', hmaps'⟩ := hmaps'
    rename_i m maps m' maps'
    rw [List.zipIdx_cons, List.forall_mem_cons] at hsettled
    obtain ⟨hrow, hlater⟩ := hsettled
    have hfirst := validateRow_eq hrow (List.Perm.refl columns) hm
    have hsecond := validateRow_eq hrow hperm hm'
    rw [List.zipIdx_cons, List.zipIdx_cons, List.map_cons, List.map_cons, ih hmaps hmaps' hlater]
    exact congrArg (· :: _) (hfirst.symm.trans hsecond)

theorem parseTable_reordered {table table' : Table} (h : Reordered table table') :
    (∃ e, parseTable table = .error e ∧ parseTable table' = .error e) ∨
      ∃ rows rows', parseTable table = .ok (rows.map collect) ∧
        parseTable table' = .ok (rows'.map collect) ∧
        List.Forall₂ List.Perm rows rows' ∧ rows = table.rows := by
  have hall : (table.headers.map normalizeHeader).all (· = "") =
      (table'.headers.map normalizeHeader).all (· = "") :=
    (h.headers.map normalizeHeader).all_eq
  unfold parseTable
  rw [hall]
  split
  next => exact .inl ⟨_, rfl, rfl⟩
  next => exact readRows_reordered h.records 0

theorem answers_exist {read : UInt8 → List UInt8 → Except String Table} {file : List UInt8} :
    ∃ answer, Answers vs read productGroup file answer := by
  unfold Answers
  split
  next => exact ⟨_, rfl⟩
  next rows _ => exact ⟨_, rows, List.forall₂_same.mpr fun _ _ => List.Perm.refl _, rfl⟩

theorem answers_reordered {read : UInt8 → List UInt8 → Except String Table}
    {file file' : List UInt8} {table table' : Table}
    (hread : read (detectDelimiter file) file = .ok table)
    (hread' : read (detectDelimiter file') file' = .ok table') (horder : Reordered table table')
    (hsettled : ∀ row ∈ table.rows.zipIdx 1, Settled vs productGroup row.2 row.1)
    {answer answer' : Except ParseError (List (Except RowValidationError vs.Request))}
    (h : Answers vs read productGroup file answer)
    (h' : Answers vs read productGroup file' answer') : answer = answer' := by
  unfold Answers parseCsv at h h'
  rw [hread] at h
  rw [hread'] at h'
  dsimp only at h h'
  obtain ⟨e, he, he'⟩ | ⟨rows, rows', hrows, hrows', hperm, rfl⟩ := parseTable_reordered horder
  · rw [he] at h
    rw [he'] at h'
    exact h.trans h'.symm
  · rw [hrows] at h
    rw [hrows'] at h'
    obtain ⟨maps, hmaps, rfl⟩ := h
    obtain ⟨maps', hmaps', rfl⟩ := h'
    refine congrArg Except.ok ?_
    exact validateRows_eq hperm hmaps hmaps' hsettled

theorem askedOf_asksOnly (vs : Validators d) (productGroup : String) (rowNum : ℕ) :
    AsksOnly answerTo (askedOf vs productGroup rowNum)
      (validateRow vs productGroup · rowNum) := by
  unfold askedOf validateRow
  cases validatorOf vs productGroup with
  | none => exact .pure _
  | some v => exact (v.asks_only rowNum).map (Except.mapError RowValidationError.invalid)

end Orders

section Samples

def refusing : Validator Unit where
  asked _ _ := []
  validate _ _ := .error []
  asks_only _ := .pure _

def sampleValidators : Validators sampleDomain where
  Request := Unit
  ofBattery _ := ()
  textile := refusing
  steel := refusing
  aluminium := refusing
  tyre := refusing
  mattress := refusing
  furniture := refusing
  toy := refusing
  construction := refusing
  electronics := refusing
  detergent := refusing

def textOf (bytes : List UInt8) : String :=
  String.ofList (bytes.map fun b => Char.ofNat b.toNat)

def bytesOf (text : String) : List UInt8 := text.toList.map fun c => UInt8.ofNat c.toNat

def readLines (delimiter : UInt8) (bytes : List UInt8) : Except String Table :=
  match ((bytes.splitOn newline).filter (· ≠ [])).map fun line =>
      (line.splitOn delimiter).map fun cell => trim (textOf cell) with
  | [] => .ok ⟨[], []⟩
  | headers :: records => .ok ⟨headers, records.map .ok⟩

def fileOf (headers record : String) : List UInt8 := bytesOf (headers ++ "\n" ++ record ++ "\n")

/-- A slot without a name is not asked for its weight, which two columns then may state. -/
example : compositionAsked sampleDomain 1 "cathode" 3
    (collect [("cathode_3_weightPct", "1"), ("Cathode 3 Weight Pct", "2")]).row =
      [.getField "cathode_3_name"] := by decide +kernel

def rowErrors {R : Type} : Except RowValidationError R → List RowError
  | .error (.invalid errors) => errors
  | _ => []

/-- The same two columns, the other way round. -/
def annotatedFirst : List (String × String) :=
  [("nominalVoltageV [REQUIRED]", "x"), ("nominalVoltageV", "y")]

def annotatedLast : List (String × String) :=
  [("nominalVoltageV", "y"), ("nominalVoltageV [REQUIRED]", "x")]

end Samples

end ColumnOrders
