import DppEngine.ImportFiles

/-! The scan of a workbook before it is opened, against what the spreadsheet reader makes of the
same parts.

The archive is what the zip reader makes of it. The XML reader is a parameter; the spreadsheet
reader is read as it is taken to read: any part may be the one the workbook names. -/
namespace WorkbookGuards

open ImportFiles (ParseError)

def maxDenseCells : ℕ := 5000000

def maxDecompressedBytes : ℕ := 128 * 1024 * 1024

def maxAttrsPerTag : ℕ := 64

def u64Max : ℕ := 2 ^ 64 - 1

section Budgets

/-- The bytes a reader has still to give, and how it fails after them, if it does. -/
structure Stream where
  bytes : List UInt8
  failure : Option String
  deriving DecidableEq

/-- What a reader answers that is asked for so many bytes: some, and none only at its end. -/
inductive Stream.Read : Stream → ℕ → Except String (List UInt8) → Stream → Prop where
  | some {chunk rest failure cap} : chunk ≠ [] → chunk.length ≤ cap →
      Read ⟨chunk ++ rest, failure⟩ cap (.ok chunk) ⟨rest, failure⟩
  | eof {cap} : Read ⟨[], none⟩ cap (.ok []) ⟨[], none⟩
  | failed {e cap} : Read ⟨[], some e⟩ cap (.error e) ⟨[], some e⟩

structure LimitedReader where
  inner : Stream
  remaining : ℕ

def limitExceeded : String := "decompressed size limit exceeded"

inductive LimitedReader.Read (r : LimitedReader) (buf : ℕ) :
    Except String (List UInt8) → LimitedReader → Prop where
  | exhausted : r.remaining = 0 → Read r buf (.error limitExceeded) r
  | read {chunk inner} : r.remaining ≠ 0 →
      Stream.Read r.inner (min buf r.remaining) (.ok chunk) inner →
      Read r buf (.ok chunk) ⟨inner, r.remaining - chunk.length⟩
  | failed {e inner} : r.remaining ≠ 0 →
      Stream.Read r.inner (min buf r.remaining) (.error e) inner →
      Read r buf (.error e) ⟨inner, r.remaining⟩

/-- Reads into buffers of any size until there is nothing more, or a failure. -/
inductive LimitedReader.ReadsToEnd : LimitedReader → List UInt8 → Option String → ℕ → Prop where
  | done {r r' buf} : Read r (buf + 1) (.ok []) r' → ReadsToEnd r [] none r'.remaining
  | failed {r r' buf e} : Read r (buf + 1) (.error e) r' → ReadsToEnd r [] (some e) r'.remaining
  | step {r r' buf chunk bytes failure remaining} : Read r (buf + 1) (.ok chunk) r' → chunk ≠ [] →
      ReadsToEnd r' bytes failure remaining → ReadsToEnd r (chunk ++ bytes) failure remaining

def limited (remaining : ℕ) (s : Stream) : Stream :=
  if s.bytes.length < remaining then s else ⟨s.bytes.take remaining, some limitExceeded⟩

end Budgets

section Scan

structure Attribute where
  key : String
  value : List UInt8
  deriving DecidableEq

/-- An XML event; an attribute may be one that cannot be read. -/
inductive Event where
  | start (name : String) (attributes : List (Except String Attribute))
  | empty (name : String) (attributes : List (Except String Attribute))
  | close (name : String)
  | other

/-- An XML reader does not come to an end where what it reads fails. -/
structure XmlReader where
  events : Stream → List (Except String Event)
  fails : ∀ {s e}, s.failure = some e → ∃ message, .error message ∈ events s

def isDigit (b : UInt8) : Bool := 48 ≤ b && b ≤ 57

def isUpper (b : UInt8) : Bool := 65 ≤ b && b ≤ 90

def isLower (b : UInt8) : Bool := 97 ≤ b && b ≤ 122

def checkedValue (base : ℕ) (digit : UInt8 → ℕ) : ℕ → List UInt8 → Option ℕ
  | value, [] => some value
  | value, b :: bytes =>
    if value * base + digit b ≤ u64Max then checkedValue base digit (value * base + digit b) bytes
    else none

def letterValue (b : UInt8) : ℕ := (b - 65 + 1).toNat

/-- A byte below the first digit wraps. -/
def digitValue (b : UInt8) : ℕ := (b - 48).toNat

def parseCellRef (r : List UInt8) : Option (ℕ × ℕ) :=
  let letters := r.takeWhile fun b => !isDigit b
  let digits := r.dropWhile fun b => !isDigit b
  if letters = [] ∨ digits = [] ∨ ¬letters.all isUpper then none
  else
    match checkedValue 26 letterValue 0 letters with
    | none => some (u64Max, u64Max)
    | some col =>
      match checkedValue 10 digitValue 0 digits with
      | none => some (u64Max, u64Max)
      | some row => some (col, row)

/-- The attributes are counted, and the last of a cell that is its reference is kept. -/
def scanAttributes (isCell : Bool) :
    ℕ → Option (List UInt8) → List (Except String Attribute) →
      Except ParseError (Option (List UInt8))
  | _, r, [] => .ok r
  | count, r, attr :: attrs =>
    if maxAttrsPerTag < count + 1 then
      .error (.csv ("XLSX contains a tag with too many attributes; maximum is " ++
        toString maxAttrsPerTag))
    else
      let r := match attr with
        | .ok a => if isCell && a.key = "r" then some a.value else r
        | .error _ => r
      scanAttributes isCell (count + 1) r attrs

def saturatingMul (a b : ℕ) : ℕ := min (a * b) u64Max

def oversized (col row : ℕ) : ParseError :=
  .csv ("XLSX worksheet implies an oversized dense range (" ++ toString col ++ " cols × " ++
    toString row ++ " rows); maximum is " ++ toString maxDenseCells ++ " cells")

/-- A tag: the largest column and row seen with it. -/
def scanTag (trackDimensions : Bool) (seen : ℕ × ℕ) (name : String)
    (attributes : List (Except String Attribute)) : Except ParseError (ℕ × ℕ) :=
  match scanAttributes (trackDimensions && name = "c") 0 none attributes with
  | .error e => .error e
  | .ok r =>
    match r.bind parseCellRef with
    | none => .ok seen
    | some (col, row) =>
      let seen := (max seen.1 col, max seen.2 row)
      if saturatingMul seen.1 seen.2 > maxDenseCells then .error (oversized seen.1 seen.2)
      else .ok seen

def scanEvents (trackDimensions : Bool) :
    ℕ × ℕ → List (Except String Event) → Except ParseError Unit
  | _, [] => .ok ()
  | _, .error e :: _ => .error (.csv ("XLSX XML scan error: " ++ e))
  | seen, .ok (.start name attributes) :: events =>
    match scanTag trackDimensions seen name attributes with
    | .error e => .error e
    | .ok seen => scanEvents trackDimensions seen events
  | seen, .ok (.empty name attributes) :: events =>
    match scanTag trackDimensions seen name attributes with
    | .error e => .error e
    | .ok seen => scanEvents trackDimensions seen events
  | seen, .ok _ :: events => scanEvents trackDimensions seen events

def scanXmlEntry (xml : XmlReader) (s : Stream) (trackDimensions : Bool) :
    Except ParseError Unit :=
  scanEvents trackDimensions (0, 0) (xml.events s)

structure Entry where
  name : Except String String
  content : Stream

def endsWith (suffix name : String) : Bool := suffix.toList.isSuffixOf name.toList

def isWorksheet (name : String) : Bool :=
  "xl/worksheets/".toList.isPrefixOf name.toList && endsWith ".xml" name

def isXml (name : String) : Bool := endsWith ".xml" name || endsWith ".rels" name

def precheckEntries (xml : XmlReader) :
    ℕ → List (Except String Entry) → Except ParseError Unit
  | _, [] => .ok ()
  | _, .error e :: _ => .error (.csv ("XLSX entry error: " ++ e))
  | budget, .ok entry :: entries =>
    match entry.name with
    | .error e => .error (.csv ("XLSX entry name error: " ++ e))
    | .ok name =>
      let content := limited budget entry.content
      if isXml name then
        match scanXmlEntry xml content (isWorksheet name) with
        | .error e => .error e
        | .ok () => precheckEntries xml (budget - content.bytes.length) entries
      else
        match content.failure with
        | some e => .error (.csv ("XLSX decompression too large: " ++ e))
        | none => precheckEntries xml (budget - content.bytes.length) entries

def precheckXlsx (xml : XmlReader) (zip : Except String (List (Except String Entry))) :
    Except ParseError Unit :=
  match zip with
  | .error e => .error (.csv ("XLSX is not a valid zip: " ++ e))
  | .ok entries => precheckEntries xml maxDecompressedBytes entries

end Scan

section Spreadsheets

def localName (name : String) : String :=
  match name.toList.dropWhile (· ≠ ':') with
  | [] => name
  | _ :: rest => String.ofList rest

def firstRef : List (Except String Attribute) → Except String (Option (List UInt8))
  | [] => .ok none
  | .error e :: _ => .error e
  | .ok a :: attrs => if a.key = "r" then .ok (some a.value) else firstRef attrs

def value (base : ℕ) (digit : UInt8 → ℕ) (bytes : List UInt8) : ℕ :=
  bytes.foldl (fun n b => n * base + digit b) 0

def caselessValue (b : UInt8) : ℕ := if isLower b then (b - 97 + 1).toNat else letterValue b

/-- Letters of either case, and digits. -/
def readRef (r : List UInt8) : Option (ℕ × ℕ) :=
  let letters := r.takeWhile fun b => !isDigit b
  let digits := r.dropWhile fun b => !isDigit b
  if letters ≠ [] ∧ digits ≠ [] ∧ (letters.all fun b => isUpper b || isLower b) ∧
      digits.all isDigit then
    some (value 26 caselessValue letters, value 10 digitValue digits)
  else none

def readRow (r : List UInt8) : Option ℕ :=
  if r ≠ [] ∧ r.all isDigit then some (value 10 digitValue r) else none

/-- A cell of a sheet, as it is written and where it is. -/
structure SheetCell where
  name : String
  attributes : List (Except String Attribute)
  col : ℕ
  row : ℕ

inductive Place where
  | before | inside | after
  deriving DecidableEq, Repr

/-- Where the sheet's data is read, the row, and the columns of it that are taken. -/
structure Cursor where
  place : Place
  row : ℕ
  col : ℕ

def Cursor.opened (cur : Cursor) (name : String) (attributes : List (Except String Attribute)) :
    Option (Option SheetCell × Cursor) :=
  if localName name = "sheetData" ∧ cur.place = .before then
    some (none, { cur with place := .inside })
  else if cur.place ≠ .inside then some (none, cur)
  else if localName name = "row" then
    match firstRef attributes with
    | .error _ => none
    | .ok none => some (none, cur)
    | .ok (some r) => (readRow r).map fun row => (none, { cur with row })
  else if localName name = "c" then
    match firstRef attributes with
    | .error _ => none
    -- the next column of its row
    | .ok none => some (some ⟨name, attributes, cur.col + 1, cur.row⟩,
        { cur with col := cur.col + 1 })
    | .ok (some r) => (readRef r).map fun (col, row) =>
        (some ⟨name, attributes, col, row⟩, { cur with col })
  else some (none, cur)

def Cursor.closed (cur : Cursor) (name : String) : Cursor :=
  if cur.place ≠ .inside then cur
  else if localName name = "sheetData" then { cur with place := .after }
  else if localName name = "row" then { cur with row := cur.row + 1, col := 0 }
  else cur

def Cursor.next (cur : Cursor) : Event → Option (Option SheetCell × Cursor)
  | .start name attributes => cur.opened name attributes
  | .empty name attributes =>
    (cur.opened name attributes).map fun (cell, cur) => (cell, cur.closed name)
  | .close name => some (none, cur.closed name)
  | .other => some (none, cur)

def readCells : Cursor → List (Except String Event) → Option (List SheetCell)
  | _, [] => some []
  | _, .error _ :: _ => none
  | cur, .ok event :: events =>
    (cur.next event).bind fun (cell, cur) =>
      (readCells cur events).map fun cells => cell.toList ++ cells

def sheetCells (xml : XmlReader) (s : Stream) : Option (List SheetCell) :=
  readCells ⟨.before, 1, 0⟩ (xml.events s)

def largest (l : List ℕ) : ℕ := l.foldr max 0

def denseRange (cells : List SheetCell) : ℕ :=
  largest (cells.map (·.col)) * largest (cells.map (·.row))

def decompressed (entries : List (Except String Entry)) : ℕ :=
  (entries.map fun entry => match entry with
    | .ok entry => entry.content.bytes.length
    | .error _ => 0).sum

def lastRef (attributes : List (Except String Attribute)) : Option (List UInt8) :=
  (attributes.filterMap fun attr => match attr with
    | .ok a => if a.key = "r" then some a.value else none
    | .error _ => none).getLast?

/-- A cell without a prefix, with one reference, in capitals. -/
structure Plain (cell : SheetCell) : Prop where
  name : cell.name = "c"
  reference : ∃ r, firstRef cell.attributes = .ok (some r) ∧ lastRef cell.attributes = some r ∧
    (r.takeWhile fun b => !isDigit b).all isUpper

/-- No cell that is not counted, being in a part of another name or not plain, makes up too large a
range with any. -/
def UncountedFit (name : String) (cells : List SheetCell) : Prop :=
  ∀ a ∈ cells, ∀ b ∈ cells, ¬(isWorksheet name ∧ Plain a ∧ Plain b) →
    a.col * b.row ≤ maxDenseCells

end Spreadsheets

section Streams

/-- What comes through after a chunk that fits. -/
theorem limited_chunk {budget : ℕ} {chunk rest bytes : List UInt8}
    {failure failure' : Option String} (hle : chunk.length ≤ budget)
    (h : ⟨bytes, failure⟩ = limited (budget - chunk.length) ⟨rest, failure'⟩) :
    ⟨chunk ++ bytes, failure⟩ = limited budget ⟨chunk ++ rest, failure'⟩ := by
  unfold limited at h ⊢
  dsimp only at h ⊢
  rw [List.length_append]
  by_cases hlt : rest.length < budget - chunk.length
  · rw [if_pos hlt] at h
    cases h
    rw [if_pos (by omega)]
  · rw [if_neg hlt] at h
    cases h
    rw [if_neg (by omega), List.take_append, List.take_of_length_le hle]

/-- Whatever the sizes of the reads are, what comes through is `limited`, and the budget is less
by its length. -/
theorem readsToEnd_limited {r : LimitedReader} {bytes : List UInt8} {failure : Option String}
    {remaining : ℕ} (h : r.ReadsToEnd bytes failure remaining) :
    ⟨bytes, failure⟩ = limited r.remaining r.inner ∧
      remaining = r.remaining - bytes.length := by
  induction h with
  | @done r r' buf hread =>
    generalize hanswer : (.ok [] : Except String (List UInt8)) = answer at hread
    cases hread with
    | exhausted => cases hanswer
    | failed => cases hanswer
    | @read chunk inner hne hinner =>
      cases hanswer
      generalize r.inner = init at hinner ⊢
      cases hinner with
      | some hchunk => exact absurd rfl hchunk
      | eof =>
        refine ⟨?_, rfl⟩
        unfold limited
        exact (if_pos (Nat.pos_of_ne_zero hne)).symm
  | @failed r r' buf e hread =>
    generalize hanswer : (.error e : Except String (List UInt8)) = answer at hread
    cases hread with
    | exhausted hzero =>
      cases hanswer
      refine ⟨?_, by simp⟩
      unfold limited
      rw [hzero, if_neg (Nat.not_lt_zero _), List.take_zero]
    | read => cases hanswer
    | @failed e' inner hne hinner =>
      cases hanswer
      generalize r.inner = init at hinner ⊢
      cases hinner with
      | failed =>
        refine ⟨?_, by simp⟩
        unfold limited
        exact (if_pos (Nat.pos_of_ne_zero hne)).symm
  | @step r r' buf chunk bytes failure remaining hread hchunk _ ih =>
    generalize hanswer : (.ok chunk : Except String (List UInt8)) = answer at hread
    cases hread with
    | exhausted => cases hanswer
    | failed => cases hanswer
    | @read chunk' inner hne hinner =>
      cases hanswer
      generalize r.inner = init at hinner ⊢
      cases hinner with
      | eof => exact absurd rfl hchunk
      | @some _ _ _ _ _ hlength =>
        obtain ⟨hlimited, hremaining⟩ := ih
        have hle : chunk.length ≤ r.remaining := hlength.trans (min_le_right _ _)
        refine ⟨limited_chunk hle hlimited, ?_⟩
        rw [hremaining, List.length_append]
        dsimp only
        omega

theorem limited_ok {budget : ℕ} {s : Stream} (h : (limited budget s).failure = none) :
    limited budget s = s ∧ s.bytes.length ≤ budget := by
  unfold limited at h ⊢
  split at h
  next hlt =>
    rw [if_pos hlt]
    exact ⟨rfl, hlt.le⟩
  next => cases h

end Streams

section References

theorem checkedValue_eq {base : ℕ} {digit : UInt8 → ℕ} {n v : ℕ} {bytes : List UInt8}
    (h : checkedValue base digit n bytes = some v) :
    bytes.foldl (fun n b => n * base + digit b) n = v := by
  induction bytes generalizing n with
  | nil => exact Option.some.inj h
  | cons b bytes ih =>
    unfold checkedValue at h
    split at h
    next => exact ih h
    next => cases h

theorem isUpper_not_isLower {b : UInt8} (h : isUpper b) : isLower b = false := by
  simp only [isUpper, isLower, Bool.and_eq_true, decide_eq_true_eq, Bool.and_eq_false_iff,
    decide_eq_false_iff_not] at h ⊢
  left
  intro hle
  have hlow : (97 : UInt8).toNat ≤ b.toNat := hle
  have hhigh : b.toNat ≤ (90 : UInt8).toNat := h.2
  simp at hlow hhigh
  omega

/-- Capitals are worth the same to both readers. -/
theorem value_caseless {letters : List UInt8} (h : letters.all isUpper) :
    value 26 caselessValue letters = value 26 letterValue letters := by
  unfold value
  refine List.foldl_ext _ _ _ ?_
  intro n b hb
  unfold caselessValue
  rw [isUpper_not_isLower (List.all_eq_true.mp h b hb)]
  rfl

/-- A reference in capitals is counted where it is read, or too far out. -/
theorem parseCellRef_of_readRef {r : List UInt8} {col row : ℕ} (h : readRef r = some (col, row))
    (hupper : (r.takeWhile fun b => !isDigit b).all isUpper) :
    parseCellRef r = some (col, row) ∨ parseCellRef r = some (u64Max, u64Max) := by
  unfold readRef at h
  dsimp only at h
  split at h
  next hparts =>
    obtain ⟨hletters, hdigits, _, _⟩ := hparts
    obtain ⟨rfl, rfl⟩ := Prod.mk.inj (Option.some.inj h)
    unfold parseCellRef
    dsimp only
    rw [if_neg (by simp [hletters, hdigits, hupper])]
    split
    next => exact .inr rfl
    next col hcol =>
      split
      next => exact .inr rfl
      next row hrow =>
        left
        rw [value_caseless hupper]
        exact congrArg some (Prod.ext (checkedValue_eq hcol).symm (checkedValue_eq hrow).symm)
  next => cases h

end References

section Counting

def refOf (attr : Except String Attribute) : Option (List UInt8) :=
  match attr with
  | .ok a => if a.key = "r" then some a.value else none
  | .error _ => none

theorem lastRef_eq (attributes : List (Except String Attribute)) :
    lastRef attributes = (attributes.filterMap refOf).getLast? := rfl

theorem scanAttributes_ok {isCell : Bool} {count : ℕ} {r r' : Option (List UInt8)}
    {attributes : List (Except String Attribute)}
    (h : scanAttributes isCell count r attributes = .ok r') :
    r' = if isCell then (lastRef attributes).or r else r := by
  induction attributes generalizing count r with
  | nil =>
    cases h
    cases isCell <;> rfl
  | cons attr attributes ih =>
    unfold scanAttributes at h
    split at h
    next => cases h
    next =>
      rw [ih h]
      cases isCell with
      | false => cases attr <;> rfl
      | true =>
        rw [lastRef_eq, lastRef_eq]
        cases attr with
        | error e => rfl
        | ok a =>
          by_cases hkey : a.key = "r"
          · simp only [refOf, hkey, Bool.true_and, decide_true, if_true, List.filterMap_cons,
              List.getLast?_cons]
            cases (attributes.filterMap refOf).getLast? <;> rfl
          · simp [refOf, hkey]

def countedAt (trackDimensions : Bool) (name : String)
    (attributes : List (Except String Attribute)) : Option (ℕ × ℕ) :=
  if trackDimensions && name = "c" then (lastRef attributes).bind parseCellRef else none

def Within (pos seen : ℕ × ℕ) : Prop := pos.1 ≤ seen.1 ∧ pos.2 ≤ seen.2

theorem Within.trans {a b c : ℕ × ℕ} (h : Within a b) (h' : Within b c) : Within a c :=
  ⟨h.1.trans h'.1, h.2.trans h'.2⟩

/-- The largest column and row seen are never too far out together. -/
def Fits (seen : ℕ × ℕ) : Prop := seen.1 * seen.2 ≤ maxDenseCells

theorem fits_of_saturatingMul {seen : ℕ × ℕ}
    (h : ¬saturatingMul seen.1 seen.2 > maxDenseCells) : Fits seen := by
  unfold saturatingMul at h
  have hmin : min (seen.1 * seen.2) u64Max ≤ maxDenseCells := not_lt.mp h
  rcases min_le_iff.mp hmin with hle | hle
  · exact hle
  · exact absurd hle (by decide)

theorem scanTag_ok {trackDimensions : Bool} {seen seen' : ℕ × ℕ} {name : String}
    {attributes : List (Except String Attribute)} (hseen : Fits seen)
    (h : scanTag trackDimensions seen name attributes = .ok seen') :
    Fits seen' ∧ Within seen seen' ∧
      ∀ pos, countedAt trackDimensions name attributes = some pos → Within pos seen' := by
  unfold scanTag at h
  split at h
  next => cases h
  next r hr =>
    have hcounted : r.bind parseCellRef = countedAt trackDimensions name attributes := by
      rw [scanAttributes_ok hr]
      unfold countedAt
      split
      next => rw [Option.or_none]
      next => rfl
    rw [hcounted] at h
    cases hat : countedAt trackDimensions name attributes with
    | none =>
      rw [hat] at h
      cases h
      refine ⟨hseen, ⟨le_rfl, le_rfl⟩, ?_⟩
      intro pos hpos
      cases hpos
    | some pos =>
      rw [hat] at h
      dsimp only at h
      split at h
      next => cases h
      next hsmall =>
        cases h
        refine ⟨fits_of_saturatingMul hsmall, ⟨le_max_left _ _, le_max_left _ _⟩, ?_⟩
        intro pos' hpos
        cases hpos
        exact ⟨le_max_right _ _, le_max_right _ _⟩

def Event.tag : Event → Option (String × List (Except String Attribute))
  | .start name attributes => some (name, attributes)
  | .empty name attributes => some (name, attributes)
  | _ => none

theorem scanEvents_tag {trackDimensions : Bool} {seen : ℕ × ℕ} {event : Event}
    {tag : String × List (Except String Attribute)} (h : event.tag = some tag)
    (events : List (Except String Event)) :
    scanEvents trackDimensions seen (.ok event :: events) =
      match scanTag trackDimensions seen tag.1 tag.2 with
      | .error e => .error e
      | .ok seen => scanEvents trackDimensions seen events := by
  cases event with
  | start => cases h; rfl
  | empty => cases h; rfl
  | close => cases h
  | other => cases h

theorem scanEvents_untagged {trackDimensions : Bool} {seen : ℕ × ℕ} {event : Event}
    (h : event.tag = none) (events : List (Except String Event)) :
    scanEvents trackDimensions seen (.ok event :: events) =
      scanEvents trackDimensions seen events := by
  cases event with
  | start => cases h
  | empty => cases h
  | close => rfl
  | other => rfl

/-- An event that passes is seen, if it is a tag that is counted. -/
theorem scanEvents_step {trackDimensions : Bool} {seen : ℕ × ℕ} {event : Event}
    {events : List (Except String Event)} (hseen : Fits seen)
    (h : scanEvents trackDimensions seen (.ok event :: events) = .ok ()) :
    ∃ seen', Fits seen' ∧ Within seen seen' ∧
      (∀ tag ∈ event.tag, ∀ pos, countedAt trackDimensions tag.1 tag.2 = some pos →
        Within pos seen') ∧
      scanEvents trackDimensions seen' events = .ok () := by
  cases htag : event.tag with
  | none =>
    rw [scanEvents_untagged htag] at h
    refine ⟨seen, hseen, ⟨le_rfl, le_rfl⟩, ?_, h⟩
    intro tag hmem
    cases hmem
  | some tag =>
    rw [scanEvents_tag htag] at h
    split at h
    next => cases h
    next seen' hscan =>
      obtain ⟨hfits, hwithin, hpos⟩ := scanTag_ok hseen hscan
      refine ⟨seen', hfits, hwithin, ?_, h⟩
      intro tag' hmem
      cases hmem
      exact hpos

theorem scanEvents_ok {trackDimensions : Bool} {seen : ℕ × ℕ}
    {events : List (Except String Event)} (hseen : Fits seen)
    (h : scanEvents trackDimensions seen events = .ok ()) :
    (∀ e, .error e ∉ events) ∧ ∃ far, Fits far ∧ Within seen far ∧
      ∀ event, .ok event ∈ events → ∀ tag ∈ event.tag, ∀ pos,
        countedAt trackDimensions tag.1 tag.2 = some pos → Within pos far := by
  induction events generalizing seen with
  | nil => exact ⟨fun _ => List.not_mem_nil, seen, hseen, ⟨le_rfl, le_rfl⟩, fun _ h => by cases h⟩
  | cons item events ih =>
    cases item with
    | error e =>
      unfold scanEvents at h
      cases h
    | ok event =>
      obtain ⟨seen', hfits, hwithin, hpos, hrest⟩ := scanEvents_step hseen h
      obtain ⟨hnone, far, hfar, hle, hall⟩ := ih hfits hrest
      refine ⟨?_, far, hfar, hwithin.trans hle, ?_⟩
      · intro e he
        rcases List.mem_cons.mp he with he | he
        · cases he
        · exact hnone e he
      · intro event' hevent tag hmem pos hat
        rcases List.mem_cons.mp hevent with hevent | hevent
        · cases hevent
          exact (hpos tag hmem pos hat).trans hle
        · exact hall event' hevent tag hmem pos hat

end Counting

section Entries

variable {xml : XmlReader}

structure Passed (xml : XmlReader) (entry : Entry) (name : String) : Prop where
  named : entry.name = .ok name
  complete : entry.content.failure = none
  scanned : isXml name → scanXmlEntry xml entry.content (isWorksheet name) = .ok ()

theorem scanXmlEntry_complete {s : Stream} {trackDimensions : Bool}
    (h : scanXmlEntry xml s trackDimensions = .ok ()) : s.failure = none := by
  cases hfailure : s.failure with
  | none => rfl
  | some e =>
    obtain ⟨message, hmem⟩ := xml.fails hfailure
    have hfits : Fits (0, 0) := Nat.zero_le _
    exact absurd hmem ((scanEvents_ok hfits h).1 message)

theorem precheckEntries_step {budget : ℕ} {entry : Entry} {entries : List (Except String Entry)}
    (h : precheckEntries xml budget (.ok entry :: entries) = .ok ()) :
    (∃ name, Passed xml entry name) ∧ entry.content.bytes.length ≤ budget ∧
      precheckEntries xml (budget - entry.content.bytes.length) entries = .ok () := by
  unfold precheckEntries at h
  split at h
  next => cases h
  next name hname =>
    dsimp only at h
    split at h
    next hxml =>
      split at h
      next => cases h
      next hscan =>
        obtain ⟨hwhole, hlength⟩ := limited_ok (scanXmlEntry_complete hscan)
        have hcomplete := scanXmlEntry_complete hscan
        rw [hwhole] at h hscan hcomplete
        exact ⟨⟨name, hname, hcomplete, fun _ => hscan⟩, hlength, h⟩
    next hxml =>
      split at h
      next => cases h
      next hfailure =>
        obtain ⟨hwhole, hlength⟩ := limited_ok hfailure
        rw [hwhole] at h hfailure
        exact ⟨⟨name, hname, hfailure, fun hname => absurd hname hxml⟩, hlength, h⟩

theorem precheckEntries_ok {budget : ℕ} {entries : List (Except String Entry)}
    (h : precheckEntries xml budget entries = .ok ()) :
    decompressed entries ≤ budget ∧
      ∀ entry, .ok entry ∈ entries → ∃ name, Passed xml entry name := by
  induction entries generalizing budget with
  | nil => exact ⟨Nat.zero_le _, fun _ h => by cases h⟩
  | cons item entries ih =>
    cases item with
    | error e =>
      unfold precheckEntries at h
      cases h
    | ok entry =>
      obtain ⟨hpassed, hlength, hrest⟩ := precheckEntries_step h
      obtain ⟨hsum, hall⟩ := ih hrest
      constructor
      · unfold decompressed at hsum ⊢
        rw [List.map_cons, List.sum_cons]
        dsimp only at hsum ⊢
        omega
      · intro entry' hmem
        rcases List.mem_cons.mp hmem with hmem | hmem
        · cases hmem
          exact hpassed
        · exact hall entry' hmem

end Entries

section Ranges

theorem opened_cell {cur cur' : Cursor} {name : String}
    {attributes : List (Except String Attribute)} {cell : SheetCell}
    (h : cur.opened name attributes = some (some cell, cur')) :
    cell.name = name ∧ cell.attributes = attributes ∧
      ∀ r, firstRef attributes = .ok (some r) → readRef r = some (cell.col, cell.row) := by
  unfold Cursor.opened at h
  split at h
  next => cases h
  next =>
    split at h
    next => cases h
    next =>
      split at h
      next =>
        split at h
        next => cases h
        next => cases h
        next r _ =>
          obtain ⟨row, _, heq⟩ := Option.map_eq_some_iff.mp h
          cases heq
      next =>
        split at h
        next =>
          split at h
          next => cases h
          next hnone =>
            cases h
            refine ⟨rfl, rfl, ?_⟩
            intro r hr
            rw [hnone] at hr
            cases hr
          next r hr =>
            obtain ⟨⟨col, row⟩, hread, heq⟩ := Option.map_eq_some_iff.mp h
            cases heq
            refine ⟨rfl, rfl, ?_⟩
            intro r' hr'
            rw [hr] at hr'
            cases hr'
            exact hread
        next => cases h

theorem next_cell {cur cur' : Cursor} {event : Event} {cell : SheetCell}
    (h : cur.next event = some (some cell, cur')) :
    event.tag = some (cell.name, cell.attributes) ∧
      ∀ r, firstRef cell.attributes = .ok (some r) → readRef r = some (cell.col, cell.row) := by
  cases event with
  | start name attributes =>
    obtain ⟨rfl, rfl, href⟩ := opened_cell h
    exact ⟨rfl, href⟩
  | empty name attributes =>
    obtain ⟨⟨cell', cur''⟩, hopened, heq⟩ := Option.map_eq_some_iff.mp h
    cases heq
    obtain ⟨rfl, rfl, href⟩ := opened_cell hopened
    exact ⟨rfl, href⟩
  | close => cases h
  | other => cases h

/-- Every cell that is read is a tag's, where its reference says. -/
theorem readCells_mem {cur : Cursor} {events : List (Except String Event)}
    {cells : List SheetCell} (h : readCells cur events = some cells) {cell : SheetCell}
    (hcell : cell ∈ cells) :
    (∃ event, .ok event ∈ events ∧ event.tag = some (cell.name, cell.attributes)) ∧
      ∀ r, firstRef cell.attributes = .ok (some r) → readRef r = some (cell.col, cell.row) := by
  induction events generalizing cur cells with
  | nil =>
    cases h
    cases hcell
  | cons item events ih =>
    cases item with
    | error e => cases h
    | ok event =>
      obtain ⟨⟨first, cur'⟩, hnext, hrest⟩ := Option.bind_eq_some_iff.mp h
      obtain ⟨rest, hread, rfl⟩ := Option.map_eq_some_iff.mp hrest
      rcases List.mem_append.mp hcell with hcell | hcell
      · obtain rfl : first = some cell := Option.mem_toList.mp hcell
        obtain ⟨htag, href⟩ := next_cell hnext
        exact ⟨⟨event, List.mem_cons_self, htag⟩, href⟩
      · obtain ⟨⟨event', hevent, htag⟩, href⟩ := ih hread hcell
        exact ⟨⟨event', List.mem_cons_of_mem _ hevent, htag⟩, href⟩

theorem le_largest {l : List ℕ} {n : ℕ} (h : n ∈ l) : n ≤ largest l := by
  induction l with
  | nil => cases h
  | cons m l ih =>
    rcases List.mem_cons.mp h with rfl | h
    · exact le_max_left _ _
    · exact (ih h).trans (le_max_right _ _)

theorem largest_mem {l : List ℕ} (h : l ≠ []) : largest l ∈ l := by
  induction l with
  | nil => exact absurd rfl h
  | cons n l ih =>
    unfold largest at ih ⊢
    rw [List.foldr_cons]
    rcases max_choice n (l.foldr max 0) with hmax | hmax
    · rw [hmax]
      exact List.mem_cons_self
    · rw [hmax]
      by_cases hnil : l = []
      · subst hnil
        have hzero : n = 0 := Nat.le_zero.mp (max_eq_right_iff.mp hmax)
        exact List.mem_cons.mpr (.inl hzero.symm)
      · exact List.mem_cons_of_mem _ (ih hnil)

/-- The range is as large as a column of one cell by a row of another. -/
theorem denseRange_le_iff {cells : List SheetCell} {bound : ℕ} :
    denseRange cells ≤ bound ↔ ∀ a ∈ cells, ∀ b ∈ cells, a.col * b.row ≤ bound := by
  unfold denseRange
  constructor
  · intro h a ha b hb
    have hcol : a.col ≤ largest (cells.map (·.col)) := le_largest (List.mem_map_of_mem ha)
    have hrow : b.row ≤ largest (cells.map (·.row)) := le_largest (List.mem_map_of_mem hb)
    exact (Nat.mul_le_mul hcol hrow).trans h
  · intro h
    by_cases hnil : cells = []
    · subst hnil
      exact Nat.zero_le _
    · have hcols : cells.map (·.col) ≠ [] := by simpa using hnil
      have hrows : cells.map (·.row) ≠ [] := by simpa using hnil
      obtain ⟨a, ha, hcol⟩ := List.mem_map.mp (largest_mem hcols)
      obtain ⟨b, hb, hrow⟩ := List.mem_map.mp (largest_mem hrows)
      rw [← hcol, ← hrow]
      exact h a ha b hb

theorem isWorksheet_isXml {name : String} (h : isWorksheet name) : isXml name := by
  unfold isWorksheet at h
  unfold isXml
  simp only [Bool.and_eq_true] at h
  simp [h.2]

/-- Two plain cells of a part that is scanned as a worksheet are counted together. -/
theorem plain_fit {xml : XmlReader} {entry : Entry} {name : String} {cells : List SheetCell}
    (hpassed : Passed xml entry name) (hcells : sheetCells xml entry.content = some cells)
    (hsheet : isWorksheet name) {a b : SheetCell} (ha : a ∈ cells) (hb : b ∈ cells)
    (hplain : Plain a) (hplain' : Plain b) : a.col * b.row ≤ maxDenseCells := by
  have hscan := hpassed.scanned (isWorksheet_isXml hsheet)
  have hstart : Fits (0, 0) := Nat.zero_le _
  obtain ⟨_, far, hfar, _, hall⟩ := scanEvents_ok hstart hscan
  rw [hsheet] at hall
  have hwithin : ∀ c ∈ cells, Plain c → Within (c.col, c.row) far := by
    intro c hc hplain
    obtain ⟨⟨event, hevent, htag⟩, href⟩ := readCells_mem hcells hc
    obtain ⟨r, hfirst, hlast, hupper⟩ := hplain.reference
    have hcounted : countedAt true c.name c.attributes = parseCellRef r := by
      unfold countedAt
      rw [hplain.name, hlast]
      rfl
    rcases parseCellRef_of_readRef (href r hfirst) hupper with hparse | hparse
    · exact hall event hevent _ htag _ (hcounted.trans hparse)
    · have hout := hall event hevent _ htag _ (hcounted.trans hparse)
      have hle : u64Max * u64Max ≤ maxDenseCells :=
        (Nat.mul_le_mul hout.1 hout.2).trans hfar
      exact absurd hle (by decide)
  exact (Nat.mul_le_mul (hwithin a ha hplain).1 (hwithin b hb hplain').2).trans hfar

end Ranges

/-- A workbook that is passed is within the byte cap. A part of it that can be read spans too large
a range only by cells that are not counted. -/
theorem passed_range_bounded_iff (xml : XmlReader) (entries : List (Except String Entry))
    (h : precheckXlsx xml (.ok entries) = .ok ()) :
    decompressed entries ≤ maxDecompressedBytes ∧
      ∀ entry name cells, .ok entry ∈ entries → entry.name = .ok name →
        sheetCells xml entry.content = some cells →
          (denseRange cells ≤ maxDenseCells ↔ UncountedFit name cells) := by
  obtain ⟨hbytes, hpassed⟩ := precheckEntries_ok h
  refine ⟨hbytes, ?_⟩
  intro entry name cells hentry hname hcells
  obtain ⟨name', hentry⟩ := hpassed entry hentry
  obtain rfl : name' = name := Except.ok.inj (hentry.named.symm.trans hname)
  rw [denseRange_le_iff]
  constructor
  · intro hall a ha b hb _
    exact hall a ha b hb
  · intro huncounted a ha b hb
    by_cases hcounted : isWorksheet name' ∧ Plain a ∧ Plain b
    · exact plain_fit hentry hcells hcounted.1 ha hb hcounted.2.1 hcounted.2.2
    · exact huncounted a ha b hb hcounted

section Samples

def bytesOf (text : String) : List UInt8 := text.toList.map fun c => UInt8.ofNat c.toNat

def render : Event → List UInt8
  | .start name attributes => bytesOf ("<" ++ name) ++ attributes.flatMap written ++ bytesOf ">"
  | .empty name attributes => bytesOf ("<" ++ name) ++ attributes.flatMap written ++ bytesOf "/>"
  | .close name => bytesOf ("</" ++ name ++ ">")
  | .other => []
where
  written : Except String Attribute → List UInt8
    | .ok a => bytesOf (" " ++ a.key ++ "=\"") ++ a.value ++ bytesOf "\""
    | .error _ => []

def readerOf (document : List Event) : XmlReader where
  events s :=
    match s.failure with
    | some e => [.error e]
    | none =>
      if document.flatMap render = s.bytes then document.map .ok else [.error "syntax error"]
  fails := by
    intro s e h
    rw [h]
    exact ⟨e, List.mem_singleton_self _⟩

def refAttribute (r : String) : Except String Attribute := .ok ⟨"r", bytesOf r⟩

def sheetOf (row : String) (cells : List Event) : List Event :=
  [.start "worksheet" [], .start "sheetData" [], .start "row" [refAttribute row]] ++ cells ++
    [.close "row", .close "sheetData", .close "worksheet"]

def workbookOf (name : String) (sheet : List Event) : List (Except String Entry) :=
  [.ok ⟨.ok name, sheet.flatMap render, none⟩]

def smallSheet : List Event :=
  sheetOf "2" [.empty "c" [refAttribute "A1"], .empty "c" [refAttribute "B2"]]

def smallCells : List SheetCell :=
  [⟨"c", [refAttribute "A1"], 1, 1⟩, ⟨"c", [refAttribute "B2"], 2, 2⟩]

theorem small_sheet_bounded :
    decompressed (workbookOf "xl/worksheets/sheet1.xml" smallSheet) ≤ maxDecompressedBytes ∧
      sheetCells (readerOf smallSheet) ⟨smallSheet.flatMap render, none⟩ = some smallCells ∧
      denseRange smallCells ≤ maxDenseCells := by
  have hbounded := passed_range_bounded_iff (readerOf smallSheet)
    (workbookOf "xl/worksheets/sheet1.xml" smallSheet) (by decide +kernel)
  have hcells : sheetCells (readerOf smallSheet) ⟨smallSheet.flatMap render, none⟩ =
      some smallCells := rfl
  have hplain : ∀ c ∈ smallCells, Plain c := by
    intro c hc
    simp only [smallCells, List.mem_cons, List.not_mem_nil, or_false] at hc
    rcases hc with rfl | rfl
    · exact ⟨rfl, bytesOf "A1", rfl, rfl, by decide⟩
    · exact ⟨rfl, bytesOf "B2", rfl, rfl, by decide⟩
  have huncounted : UncountedFit "xl/worksheets/sheet1.xml" smallCells := by
    intro a ha b hb hnot
    exact absurd ⟨by decide +kernel, hplain a ha, hplain b hb⟩ hnot
  refine ⟨hbounded.1, hcells, ?_⟩
  exact (hbounded.2 _ _ _ (List.mem_singleton_self _) rfl hcells).mpr huncounted

def Escapes (name : String) (sheet : List Event) : Prop :=
  precheckXlsx (readerOf sheet) (.ok (workbookOf name sheet)) = .ok () ∧
    (sheetCells (readerOf sheet) ⟨sheet.flatMap render, none⟩).any fun cells =>
      maxDenseCells < denseRange cells

/-- A prefix, small letters, cells without a reference, and a part of another name. -/
theorem uncounted_cells_escape :
    Escapes "xl/worksheets/sheet1.xml" (sheetOf "1" [.empty "x:c" [refAttribute "XFD1048576"]]) ∧
      Escapes "xl/worksheets/sheet1.xml" (sheetOf "1" [.empty "c" [refAttribute "xfd1048576"]]) ∧
      Escapes "xl/worksheets/sheet1.xml" (sheetOf "1048576" (List.replicate 5 (.empty "c" []))) ∧
      Escapes "xl/sheets/sheet1.xml" (sheetOf "1" [.empty "c" [refAttribute "XFD1048576"]]) := by
  unfold Escapes
  decide +kernel

end Samples

end WorkbookGuards
