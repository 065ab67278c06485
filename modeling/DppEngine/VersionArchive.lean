import DppEngine.PassportRequests
import DppEngine.PointInTime
import Mathlib.Data.List.Sort

/-! The version archive: every write of a stored passport first copies the record it
replaces, and a record can be read as of any moment.

A record is read from its document and serialised again by a codec, so that the lens
chain and the defaults of a reading may be anything that leaves a field assignment
visible under its own keys only. -/
namespace VersionArchive

open JsonValues PassportModel StateChangeLog PassportRequests TransitionSystems PointInTime
  FallibleSteps

/-- `Passport::from_stored`, `to_doc`, and the assignments a status change makes. -/
structure RecordCodec (ρ : Type) where
  read : Doc → Except DppError ρ
  toDoc : ρ → Doc
  status : ρ → PassportStatus
  restate : PassportStatus → Int → ρ → ρ
  lock : ρ → ρ

structure Version where
  id : ℕ
  doc : Doc
  supersededAt : Int
  deriving DecidableEq, Repr

structure Stored where
  row : Row
  versions : List Version
  deriving DecidableEq, Repr

section StatusWrites

variable {ρ : Type} (codec : RecordCodec ρ)

/-- Copy the stored document, stamped with the database's clock. -/
def archiveStored (stored : Stored) (version : ℕ) (clock : Int) : Stored :=
  { stored with versions := stored.versions ++ [⟨version, stored.row.doc, clock⟩] }

/-- On a locked row, the members of the written record that differ from a fresh reading. -/
def sentDoc (row : Row) (p : ρ) : Except DppError Doc :=
  if row.retentionLocked then do
    let reading ← codec.read row.doc
    return (codec.toDoc (codec.lock p)).changedFrom (codec.toDoc reading)
  else return codec.toDoc p

def updateRow (row : Row) (p : ρ) (txNow : Int) : Except DppError Row := do
  let sent ← sentDoc codec row p
  passportRetentionGuard row (row.doc.merge sent)
  return {
    id := row.id
    status := column asStatus "status" sent row.status
    retentionLocked := column Json.asBool "retentionLocked" sent row.retentionLocked
    publishedAt := ((sent.get "publishedAt").bind Json.asInstant).or row.publishedAt
    updatedAt := txNow
    doc := row.doc.merge sent }

/-- `PassportWrite::Status`: the transition is checked on the locked row, which is then
archived and written. -/
def writeStatus (stored : Option Stored) (id : PassportId) (status : PassportStatus)
    (now txNow : Int) (version : ℕ) (clock : Int) : Except DppError Stored :=
  match stored with
  | none => .error (.notFound (PassportId.text id))
  | some stored => do
    let p ← codec.read stored.row.doc
    if (codec.status p).canTransitionTo status then
      let archived := archiveStored stored version clock
      let row ← updateRow codec stored.row (codec.restate status now p) txNow
      return { archived with row }
    else
      .error (.invalidTransition (codec.status p).toString status.toString)

/-- What a codec has to keep: an assignment shows under its own keys and no others. -/
structure RecordCodec.Lawful : Prop where
  status : ∀ p, (codec.toDoc p).get "status" = some (.str (codec.status p).toString)
  restate_status : ∀ s t p, codec.status (codec.restate s t p) = s
  restate : ∀ s t p k, k ≠ "status" → k ≠ "updatedAt" →
    (codec.toDoc (codec.restate s t p)).get k = (codec.toDoc p).get k
  lock_status : ∀ p, codec.status (codec.lock p) = codec.status p
  locked : ∀ p, (codec.toDoc (codec.lock p)).get "retentionLocked" = some (.bool true)
  lock : ∀ p k, k ≠ "retentionLocked" →
    (codec.toDoc (codec.lock p)).get k = (codec.toDoc p).get k

variable {codec} {p : ρ} {row : Row} {s : PassportStatus} {now txNow clock : Int}

/-- Of a status change only what differs from the reading is sent. -/
theorem sentDoc_get (s : PassportStatus) (now : Int) (hlocked : row.retentionLocked = true)
    (hread : codec.read row.doc = .ok p) :
    ∃ sent, sentDoc codec row (codec.restate s now p) = .ok sent ∧
      ∀ k, sent.get k =
        if (codec.toDoc p).get k = (codec.toDoc (codec.lock (codec.restate s now p))).get k then
          none
        else (codec.toDoc (codec.lock (codec.restate s now p))).get k := by
  refine ⟨_, ?_, fun k => Doc.get_changedFrom⟩
  rw [sentDoc, if_pos hlocked, hread]
  rfl

theorem canTransitionTo_toString_ne {a b : PassportStatus} (h : a.canTransitionTo b = true) :
    a.toString ≠ b.toString := by
  cases a <;> cases b <;> first | decide | cases h

/-- The write of a status change to a locked row goes through the guard and leaves every
member alone that it does not name. -/
theorem updateRow_restate (h : codec.Lawful) (hlocked : row.retentionLocked = true)
    (hdoc : row.doc.get "retentionLocked" = some (.bool true))
    (hread : codec.read row.doc = .ok p) (hallowed : (codec.status p).canTransitionTo s = true) :
    ∃ row', updateRow codec row (codec.restate s now p) txNow = .ok row' ∧
      Doc.SameExcept ["status", "updatedAt", "retentionLocked"] row.doc row'.doc ∧
      row'.doc.get "status" = some (.str s.toString) ∧
      row'.doc.get "retentionLocked" = some (.bool true) ∧
      passportRetentionGuard row row'.doc = .ok () := by
  obtain ⟨sent, hsent, hget⟩ := sentDoc_get s now hlocked hread
  have hframe : ∀ k, k ∉ ["status", "updatedAt", "retentionLocked"] →
      (row.doc.merge sent).get k = row.doc.get k := by
    intro k hk
    simp only [List.mem_cons, List.not_mem_nil, or_false, not_or] at hk
    have hsame : (codec.toDoc p).get k =
        (codec.toDoc (codec.lock (codec.restate s now p))).get k := by
      rw [h.lock _ _ hk.2.2, h.restate _ _ _ _ hk.1 hk.2.1]
    rw [Doc.get_merge, hget, if_pos hsame, Option.none_or]
  have hstatus : (row.doc.merge sent).get "status" = some (.str s.toString) := by
    have hnew : (codec.toDoc (codec.lock (codec.restate s now p))).get "status" =
        some (.str s.toString) := by
      rw [h.status, h.lock_status, h.restate_status]
    have hne : (codec.toDoc p).get "status" ≠ some (.str s.toString) := by
      rw [h.status]
      simpa using canTransitionTo_toString_ne hallowed
    rw [Doc.get_merge, hget, hnew, if_neg hne, Option.some_or]
  have hlock : (row.doc.merge sent).get "retentionLocked" = some (.bool true) := by
    rw [Doc.get_merge, hget, h.locked]
    split_ifs
    · rw [Option.none_or, hdoc]
    · rfl
  have hguard : passportRetentionGuard row (row.doc.merge sent) = .ok () := by
    rw [passportRetentionGuard, if_neg]
    rintro ⟨-, hchanged⟩
    refine hchanged (Doc.sameExcept_iff.mpr fun k hk => (hframe k ?_).symm)
    intro hmem
    exact hk ((by decide : ∀ k ∈ ["status", "updatedAt", "retentionLocked"], k ∈ mutableKeys) k hmem)
  refine ⟨{ id := row.id
            status := column asStatus "status" sent row.status
            retentionLocked := column Json.asBool "retentionLocked" sent row.retentionLocked
            publishedAt := ((sent.get "publishedAt").bind Json.asInstant).or row.publishedAt
            updatedAt := txNow
            doc := row.doc.merge sent }, ?_, ?_, hstatus, hlock, hguard⟩
  · simp only [updateRow, hsent, hguard, bind, Except.bind, pure, Except.pure]
  · exact Doc.sameExcept_iff.mpr fun k hk => (hframe k hk).symm

theorem writeStatus_eq {stored : Stored} {id : PassportId} {version : ℕ} {row' : Row}
    (hread : codec.read stored.row.doc = .ok p)
    (hallowed : (codec.status p).canTransitionTo s = true)
    (hrow : updateRow codec stored.row (codec.restate s now p) txNow = .ok row') :
    writeStatus codec (some stored) id s now txNow version clock =
      .ok { archiveStored stored version clock with row := row' } := by
  simp only [writeStatus, hread, hallowed, hrow, bind, Except.bind, if_true, pure, Except.pure]

/-- A status change leaves every other member of a locked document as it was, whatever the
reading made of it; the guard lets it through and the version it archives is the document
it found. -/
theorem status_write_touches_only_status (h : codec.Lawful) {versions : List Version}
    {id : PassportId} {version : ℕ} (hlocked : row.retentionLocked = true)
    (hdoc : row.doc.get "retentionLocked" = some (.bool true))
    (hread : codec.read row.doc = .ok p) (hallowed : (codec.status p).canTransitionTo s = true) :
    ∃ row', writeStatus codec (some ⟨row, versions⟩) id s now txNow version clock =
        .ok ⟨row', versions ++ [⟨version, row.doc, clock⟩]⟩ ∧
      Doc.SameExcept ["status", "updatedAt", "retentionLocked"] row.doc row'.doc ∧
      row'.doc.get "status" = some (.str s.toString) ∧
      row'.doc.get "retentionLocked" = some (.bool true) ∧
      passportRetentionGuard row row'.doc = .ok () := by
  obtain ⟨row', hrow, hspec⟩ := updateRow_restate h hlocked hdoc hread hallowed
  exact ⟨row', writeStatus_eq hread hallowed hrow, hspec⟩

end StatusWrites

section PassportRecords

variable (readContent : Doc → Except DppError Doc)

/-- The codec of the passport model, whose lens chain is `readContent`. -/
def passportCodec (id : PassportId) : RecordCodec Passport where
  read := fromStored readContent id
  toDoc := Passport.toDoc
  status := Passport.status
  restate status updatedAt p := { p with status, updatedAt }
  lock p := { p with retentionLocked := true }

theorem passportCodec_lawful (id : PassportId) : (passportCodec readContent id).Lawful where
  status p := toDoc_get_status
  restate_status _ _ _ := rfl
  restate s t p k hs hu := by
    simp [passportCodec, Passport.toDoc, Passport.typedMembers, Passport.serialises, hs, hu]
  lock_status _ := rfl
  locked p := toDoc_get_retentionLocked
  lock p k hk := by
    simp [passportCodec, Passport.toDoc, Passport.typedMembers, Passport.serialises, hk]

theorem updateRow_eq_updateInTx (row : Row) (p : Passport) (txNow : Int) :
    updateRow (passportCodec readContent row.id) row p txNow =
      updateInTx readContent (some row) p txNow := rfl

/-- The archived write leaves the row the state-change log leaves. -/
theorem writeStatus_row (isProtectedPatchField : String → Bool) (stored : Stored)
    (id : PassportId) (status : PassportStatus) (now txNow : Int) (version : ℕ) (clock : Int) :
    (writeStatus (passportCodec readContent stored.row.id) (some stored) id status now txNow
      version clock).map Stored.row =
    writePassport readContent isProtectedPatchField (some stored.row) now txNow
      (.status id status) := by
  have hread : (passportCodec readContent stored.row.id).read stored.row.doc =
      readDoc readContent stored.row := rfl
  have hstatus : ∀ p, (passportCodec readContent stored.row.id).status p = p.status :=
    fun _ => rfl
  have hrestate : ∀ p, (passportCodec readContent stored.row.id).restate status now p =
      { p with status, updatedAt := now } := fun _ => rfl
  simp only [writeStatus, writePassport, updateRow_eq_updateInTx, hread, hstatus, hrestate]
  cases readDoc readContent stored.row with
  | error e => rfl
  | ok p =>
    simp only [bind, Except.bind]
    by_cases hallowed : p.status.canTransitionTo status = true
    · simp only [hallowed, if_true]
      cases updateInTx readContent (some stored.row) { p with status, updatedAt := now } txNow with
      | error e => rfl
      | ok row => rfl
    · simp only [hallowed]
      rfl

def olderRow : Row where
  id := 7
  status := .published
  retentionLocked := true
  publishedAt := some 20
  updatedAt := 20
  doc := [("productGroup", .str "battery"), ("status", .str "active"),
    ("updatedAt", .instant 20), ("publishedAt", .instant 20), ("retentionLocked", .bool true),
    ("legacyGrade", .str "B")]

def olderReading : Passport where
  id := 7
  productGroup := "battery"
  status := .published
  supersedesId := none
  carrierSerial := none
  updatedAt := 20
  publishedAt := some 20
  retentionLocked := true
  retentionUntil := none
  facility := none
  operatorIdentifier := none
  qrCodeUrl := none
  jwsSignature := none
  publicJwsSignature := none
  disclosureSignatures := []
  qualifiedSeal := none
  content := []

theorem olderRow_reading : fromStored .ok 7 olderRow.doc = .ok olderReading := by decide +kernel

theorem older_record_suspends :
    ∃ row', writeStatus (passportCodec .ok 7) (some ⟨olderRow, []⟩) 7 .suspended 30 31 1 31 =
        .ok ⟨row', [⟨1, olderRow.doc, 31⟩]⟩ ∧
      Doc.SameExcept ["status", "updatedAt", "retentionLocked"] olderRow.doc row'.doc ∧
      row'.doc.get "status" = some (.str "suspended") ∧
      row'.doc.get "retentionLocked" = some (.bool true) ∧
      passportRetentionGuard olderRow row'.doc = .ok () :=
  status_write_touches_only_status (passportCodec_lawful .ok 7) rfl rfl
    olderRow_reading (by decide)

end PassportRecords

section Readings

/-- `StoredAt`: what one transaction under the row's share lock reads. -/
structure StoredAt where
  live : Option Doc
  version : Option Version
  readAt : Int
  deriving DecidableEq, Repr

inductive VersionAt where
  | found (v : Version)
  | live
  | beforeItExisted
  deriving DecidableEq, Repr

inductive StateAt where
  | known (live : Doc) (version : VersionAt)
  | notYet
  deriving DecidableEq, Repr

/-- `ORDER BY superseded_at ASC, id ASC`. -/
def Version.Before (a b : Version) : Prop :=
  a.supersededAt < b.supersededAt ∨ a.supersededAt = b.supersededAt ∧ a.id ≤ b.id

instance (a b : Version) : Decidable (a.Before b) := inferInstanceAs (Decidable (_ ∨ _))

/-- The first version to stop being current after `moment`. -/
def versionAt (versions : List Version) (moment : Int) : Option Version :=
  ((versions.filter fun v => decide (moment < v.supersededAt)).insertionSort Version.Before).head?

/-- The store's reading: the live record it locked, its clock, and the version. -/
def readStored (live : Option Doc) (versions : List Version) (moment readAt : Int) : StoredAt :=
  { live, version := live.bind fun _ => versionAt versions moment, readAt }

/-- `PassportService::state_at`, whose reading of the live record is `createdAt`. -/
def stateAt (createdAt : Doc → Except DppError Int) (id : PassportId) (moment : Int)
    (read : StoredAt) : Except DppError StateAt :=
  if read.readAt < moment then .ok .notYet
  else
    match read.live with
    | none => .error (.notFound (PassportId.text id))
    | some live => do
      let created ← createdAt live
      if moment < created then return .known live .beforeItExisted
      else
        match read.version with
        | some v => return .known live (.found v)
        | none => return .known live .live

def StateAt.named : StateAt → Option Doc
  | .known _ (.found v) => some v.doc
  | .known live .live => some live
  | .known _ .beforeItExisted => none
  | .notYet => none

structure Reader where
  moment : Int
  live : Doc
  readAt : Option Int
  deriving DecidableEq, Repr

structure Reading where
  moment : Int
  stored : StoredAt
  deriving DecidableEq, Repr

/-- One passport's row under changes and readings. The changes that committed are kept
beside it, each under its stamp, to say what the record was at a moment. -/
structure Archive where
  stored : Stored
  clock : Int
  writer : Option Int
  readers : List Reader
  changes : List (Int × Doc)
  readings : List Reading
  deriving DecidableEq, Repr

inductive Event where
  /-- Take the row's lock and archive the stored document, stamped by the clock. -/
  | lockRow (stamp : Int)
  | commit (version : ℕ) (row : Row)
  | rollback
  /-- `mark_sealed`, the one write that archives nothing. -/
  | markSealed (value : Json)
  | shareRow (moment : Int)
  | readClock (reader : ℕ) (now : Int)
  | readVersion (reader : ℕ)
  deriving DecidableEq, Repr

def Archive.created (row : Row) (clock : Int) : Archive where
  stored := ⟨row, []⟩
  clock
  writer := none
  readers := []
  changes := []
  readings := []

/-- The lock of a change keeps out other changes and readers, a reader's keeps out changes,
and every reading of the clock under either is later than the one before. No change sends
another moment of creation. -/
def Archive.next (s : Archive) : Event → Option Archive
  | .lockRow stamp =>
    if s.writer = none ∧ s.readers = [] ∧ s.clock < stamp then
      some { s with writer := some stamp, clock := stamp }
    else none
  | .commit version row =>
    match s.writer with
    | none => none
    | some stamp =>
      if row.doc.get "createdAt" = s.stored.row.doc.get "createdAt" then
        some { s with
          stored := { archiveStored s.stored version stamp with row }
          writer := none
          changes := s.changes ++ [(stamp, row.doc)] }
      else none
  | .rollback =>
    match s.writer with
    | none => none
    | some _ => some { s with writer := none }
  | .markSealed value =>
    if s.writer = none ∧ s.readers = [] then
      some { s with stored :=
        { s.stored with row :=
          { s.stored.row with doc := s.stored.row.doc.merge [("seal", value)] } } }
    else none
  | .shareRow moment =>
    if s.writer = none then
      some { s with readers := s.readers ++ [⟨moment, s.stored.row.doc, none⟩] }
    else none
  | .readClock reader now =>
    match s.readers[reader]? with
    | some ⟨moment, live, none⟩ =>
      if s.clock < now then
        some { s with readers := s.readers.set reader ⟨moment, live, some now⟩, clock := now }
      else none
    | _ => none
  | .readVersion reader =>
    match s.readers[reader]? with
    | some ⟨moment, live, some now⟩ =>
      some { s with
        readers := s.readers.eraseIdx reader
        readings := s.readings ++
          [⟨moment, readStored (some live) s.stored.versions moment now⟩] }
    | _ => none

end Readings

section TimeTravel

variable {initial : Doc} {s u : Archive} {e : Event}

/-- Two documents that differ at most in the seal. -/
def SameRecord (a b : Doc) : Prop := Doc.SameExcept ["seal"] a b

theorem SameRecord.refl (a : Doc) : SameRecord a a :=
  Doc.sameExcept_iff.mpr fun _ _ => rfl

theorem SameRecord.symm {a b : Doc} (h : SameRecord a b) : SameRecord b a :=
  Doc.sameExcept_iff.mpr fun k hk => (Doc.sameExcept_iff.mp h k hk).symm

theorem SameRecord.trans {a b c : Doc} (hab : SameRecord a b) (hbc : SameRecord b c) :
    SameRecord a c :=
  Doc.sameExcept_iff.mpr fun k hk =>
    (Doc.sameExcept_iff.mp hab k hk).trans (Doc.sameExcept_iff.mp hbc k hk)

theorem SameRecord.get {a b : Doc} {k : String} (h : SameRecord a b) (hk : k ≠ "seal") :
    a.get k = b.get k :=
  Doc.sameExcept_iff.mp h k (by simpa using hk)

theorem sameRecord_sealed (a : Doc) (value : Json) : SameRecord a (a.merge [("seal", value)]) := by
  apply Doc.sameExcept_iff.mpr
  intro k hk
  have hnone : Doc.get [("seal", value)] k = none := by
    have hne : (k == "seal") = false := by simpa using hk
    simp [Doc.get, List.lookup_cons, hne]
  rw [Doc.get_merge, hnone, Option.none_or]

def Version.archived (v : Version) : Int × Doc := (v.supersededAt, v.doc)

def StoredAt.document (r : StoredAt) : Option Doc := (r.version.map Version.doc).or r.live

/-- In stamp order the query's first row is the first one found. -/
theorem versionAt_eq_find {versions : List Version} (moment : Int)
    (h : versions.Pairwise fun a b => a.supersededAt < b.supersededAt) :
    versionAt versions moment = versions.find? fun v => decide (moment < v.supersededAt) := by
  have hsorted : (versions.filter fun v => decide (moment < v.supersededAt)).Pairwise
      Version.Before := (h.filter _).imp fun hab => .inl hab
  rw [versionAt, hsorted.insertionSort_eq, List.head?_filter]

theorem readStored_document {versions : List Version} {live : Doc} {moment now : Int}
    (h : versions.Pairwise fun a b => a.supersededAt < b.supersededAt) :
    (readStored (some live) versions moment now).document =
      some (archivedAt (versions.map Version.archived) live moment) := by
  simp only [readStored, StoredAt.document, Option.bind_some, versionAt_eq_find moment h,
    archivedAt, List.find?_map]
  cases hv : versions.find? fun v => decide (moment < v.supersededAt) with
  | none =>
    have hv' : versions.find? ((fun v => decide (moment < v.1)) ∘ Version.archived) = none := hv
    rw [hv']
    rfl
  | some v =>
    have hv' : versions.find? ((fun v => decide (moment < v.1)) ∘ Version.archived) = some v := hv
    rw [hv']
    rfl

/-- The archive holds the history of the row, and nobody who read the clock under the row's
lock can be overtaken by an earlier stamp. -/
structure Archive.Valid (initial : Doc) (s : Archive) : Prop where
  holds : Holds SameRecord initial (s.stored.versions.map Version.archived) s.changes
    s.stored.row.doc
  ordered : s.changes.Pairwise fun a b => a.1 < b.1
  created : s.stored.row.doc.get "createdAt" = initial.get "createdAt"
  changes : ∀ c ∈ s.changes, c.1 ≤ s.clock
  writer : ∀ stamp ∈ s.writer, s.readers = [] ∧ stamp ≤ s.clock ∧
    (∀ c ∈ s.changes, c.1 < stamp) ∧ ∀ r ∈ s.readings, r.stored.readAt < stamp
  readers : ∀ r ∈ s.readers, r.live = s.stored.row.doc ∧ ∀ now ∈ r.readAt, now ≤ s.clock
  answered : ∀ r ∈ s.readings, r.stored.readAt ≤ s.clock
  live : ∀ r ∈ s.readings, ∃ live, r.stored.live = some live ∧
    live.get "createdAt" = initial.get "createdAt"
  readings : ∀ r ∈ s.readings, r.moment ≤ r.stored.readAt →
    ∃ d, r.stored.document = some d ∧ SameRecord (valueAt initial s.changes r.moment) d

theorem writeStatus_commits {ρ : Type} {codec : RecordCodec ρ} (h : codec.Lawful) {p : ρ}
    {status : PassportStatus} {id : PassportId} {version : ℕ} {now txNow stamp : Int}
    (hwriter : s.writer = some stamp) (hlocked : s.stored.row.retentionLocked = true)
    (hdoc : s.stored.row.doc.get "retentionLocked" = some (.bool true))
    (hread : codec.read s.stored.row.doc = .ok p)
    (hallowed : (codec.status p).canTransitionTo status = true) :
    ∃ stored, writeStatus codec (some s.stored) id status now txNow version stamp = .ok stored ∧
      s.next (.commit version stored.row) = some { s with
        stored
        writer := none
        changes := s.changes ++ [(stamp, stored.row.doc)] } := by
  obtain ⟨row', hrow, hframe, -⟩ := updateRow_restate h hlocked hdoc hread hallowed
  refine ⟨_, writeStatus_eq hread hallowed hrow, ?_⟩
  have hcreated : row'.doc.get "createdAt" = s.stored.row.doc.get "createdAt" :=
    (Doc.sameExcept_iff.mp hframe "createdAt" (by decide)).symm
  simp only [Archive.next, hwriter, if_pos hcreated]

theorem Archive.created_valid (row : Row) (clock : Int) :
    (Archive.created row clock).Valid row.doc where
  holds := SameRecord.refl row.doc
  ordered := List.Pairwise.nil
  created := rfl
  changes := by simp [Archive.created]
  writer := by simp [Archive.created]
  readers := by simp [Archive.created]
  answered := by simp [Archive.created]
  live := by simp [Archive.created]
  readings := by simp [Archive.created]

theorem Archive.Valid.versions_ordered (h : s.Valid initial) :
    s.stored.versions.Pairwise fun a b => a.supersededAt < b.supersededAt := by
  have hmoments : (s.stored.versions.map Version.supersededAt) = s.changes.map Prod.fst := by
    simpa [Function.comp_def, Version.archived] using h.holds.moments
  have hordered : (s.changes.map Prod.fst).Pairwise (· < ·) := List.pairwise_map.mpr h.ordered
  rw [← hmoments] at hordered
  exact List.pairwise_map.mp hordered

theorem Archive.Valid.lockRow {stamp : Int} (h : s.Valid initial) (hreaders : s.readers = [])
    (hclock : s.clock < stamp) :
    Archive.Valid initial { s with writer := some stamp, clock := stamp } where
  holds := h.holds
  ordered := h.ordered
  created := h.created
  changes c hc := (h.changes c hc).trans hclock.le
  writer := by
    rintro _ ⟨⟩
    exact ⟨hreaders, le_refl _, fun c hc => (h.changes c hc).trans_lt hclock,
      fun r hr => (h.answered r hr).trans_lt hclock⟩
  readers r hr := absurd hr (by simp [hreaders])
  answered r hr := (h.answered r hr).trans hclock.le
  live := h.live
  readings := h.readings

/-- A change archives the live record under its stamp, later than every moment that was
answered for. -/
theorem Archive.Valid.commit {stamp : Int} {version : ℕ} {row : Row} (h : s.Valid initial)
    (hwriter : s.writer = some stamp)
    (hcreated : row.doc.get "createdAt" = s.stored.row.doc.get "createdAt") :
    Archive.Valid initial { s with
      stored := { archiveStored s.stored version stamp with row }
      writer := none
      changes := s.changes ++ [(stamp, row.doc)] } := by
  obtain ⟨hreaders, hclock, hbefore, hanswered⟩ := h.writer stamp hwriter
  constructor
  · have hchange := h.holds.change (c := stamp) (SameRecord.refl row.doc)
    simpa [archiveStored, Version.archived] using hchange
  · refine List.pairwise_append.mpr ⟨h.ordered, List.pairwise_singleton _ _, ?_⟩
    intro c hc c' hc'
    rw [List.mem_singleton.mp hc']
    exact hbefore c hc
  · exact hcreated.trans h.created
  · intro c hc
    rcases List.mem_append.mp hc with hc | hc
    · exact h.changes c hc
    · rw [List.mem_singleton.mp hc]
      exact hclock
  · rintro _ ⟨⟩
  · intro r hr
    exact absurd hr (by simp [hreaders])
  · exact h.answered
  · exact h.live
  · intro r hr hmoment
    obtain ⟨d, hd, hsame⟩ := h.readings r hr hmoment
    exact ⟨d, hd, by rwa [valueAt_concat (hmoment.trans_lt (hanswered r hr))]⟩

theorem Archive.Valid.markSealed {value : Json} (h : s.Valid initial) (hreaders : s.readers = []) :
    Archive.Valid initial { s with stored :=
      { s.stored with row :=
        { s.stored.row with doc := s.stored.row.doc.merge [("seal", value)] } } } where
  holds := h.holds.restate (fun _ _ _ => SameRecord.trans) (sameRecord_sealed _ value)
  ordered := h.ordered
  created := ((sameRecord_sealed _ value).get (by decide)).symm.trans h.created
  changes := h.changes
  writer := h.writer
  readers r hr := absurd hr (by simp [hreaders])
  answered := h.answered
  live := h.live
  readings := h.readings

theorem Archive.Valid.readClock {i : ℕ} {moment now : Int} {live : Doc} (h : s.Valid initial)
    (hreader : s.readers[i]? = some ⟨moment, live, none⟩) (hclock : s.clock < now) :
    Archive.Valid initial
      { s with readers := s.readers.set i ⟨moment, live, some now⟩, clock := now } where
  holds := h.holds
  ordered := h.ordered
  created := h.created
  changes c hc := (h.changes c hc).trans hclock.le
  writer stamp hstamp := by
    have hmem := List.mem_of_getElem? hreader
    rw [(h.writer stamp hstamp).1] at hmem
    cases hmem
  readers := by
    intro r hr
    rcases List.mem_or_eq_of_mem_set hr with hr | rfl
    · obtain ⟨hlive, hread⟩ := h.readers r hr
      exact ⟨hlive, fun t ht => (hread t ht).trans hclock.le⟩
    · refine ⟨(h.readers _ (List.mem_of_getElem? hreader)).1, ?_⟩
      rintro t ⟨⟩
      exact le_refl _
  answered r hr := (h.answered r hr).trans hclock.le
  live := h.live
  readings := h.readings

/-- A reader with the row's lock names what stood at its moment. -/
theorem Archive.Valid.readVersion {i : ℕ} {moment now : Int} {live : Doc} (h : s.Valid initial)
    (hreader : s.readers[i]? = some ⟨moment, live, some now⟩) :
    Archive.Valid initial { s with
      readers := s.readers.eraseIdx i
      readings := s.readings ++
        [⟨moment, readStored (some live) s.stored.versions moment now⟩] } := by
  have hmem := List.mem_of_getElem? hreader
  obtain ⟨hlive, hnow⟩ := h.readers _ hmem
  dsimp only at hlive
  subst hlive
  constructor
  · exact h.holds
  · exact h.ordered
  · exact h.created
  · exact h.changes
  · intro stamp hstamp
    rw [(h.writer stamp hstamp).1] at hmem
    cases hmem
  · exact fun r hr => h.readers r (List.mem_of_mem_eraseIdx hr)
  · intro r hr
    rcases List.mem_append.mp hr with hr | hr
    · exact h.answered r hr
    · rw [List.mem_singleton.mp hr]
      exact hnow now rfl
  · intro r hr
    rcases List.mem_append.mp hr with hr | hr
    · exact h.live r hr
    · rw [List.mem_singleton.mp hr]
      exact ⟨_, rfl, h.created⟩
  · intro r hr hmoment
    rcases List.mem_append.mp hr with hr | hr
    · exact h.readings r hr hmoment
    · rw [List.mem_singleton.mp hr]
      exact ⟨_, readStored_document h.versions_ordered, h.holds.same_valueAt moment⟩

theorem Archive.Valid.next (h : s.Valid initial) (hnext : s.next e = some u) :
    u.Valid initial := by
  cases e with
  | lockRow stamp =>
    obtain ⟨⟨-, hreaders, hclock⟩, ⟨⟩⟩ := Option.ite_none_right_eq_some.mp hnext
    exact h.lockRow hreaders hclock
  | commit version row =>
    simp only [Archive.next] at hnext
    cases hw : s.writer with
    | none => simp [hw] at hnext
    | some stamp =>
      rw [hw] at hnext
      obtain ⟨hcreated, ⟨⟩⟩ := Option.ite_none_right_eq_some.mp hnext
      exact h.commit hw hcreated
  | rollback =>
    simp only [Archive.next] at hnext
    cases hw : s.writer with
    | none => simp [hw] at hnext
    | some stamp =>
      rw [hw] at hnext
      cases hnext
      exact { h with writer := by rintro _ ⟨⟩ }
  | markSealed value =>
    obtain ⟨⟨-, hreaders⟩, ⟨⟩⟩ := Option.ite_none_right_eq_some.mp hnext
    exact h.markSealed hreaders
  | shareRow moment =>
    obtain ⟨hwriter, ⟨⟩⟩ := Option.ite_none_right_eq_some.mp hnext
    refine { h with writer := ?_, readers := ?_ }
    · intro stamp hstamp
      rw [hwriter] at hstamp
      cases hstamp
    · intro r hr
      rcases List.mem_append.mp hr with hr | hr
      · exact h.readers r hr
      · rw [List.mem_singleton.mp hr]
        exact ⟨rfl, nofun⟩
  | readClock i now =>
    simp only [Archive.next] at hnext
    split at hnext
    · rename_i moment live hreader
      obtain ⟨hclock, ⟨⟩⟩ := Option.ite_none_right_eq_some.mp hnext
      exact h.readClock hreader hclock
    · cases hnext
  | readVersion i =>
    simp only [Archive.next] at hnext
    split at hnext
    · rename_i moment live now hreader
      cases hnext
      exact h.readVersion hreader
    · cases hnext

/-- What the service makes of a reading: nothing before the record's creation, then the
document the store named. -/
theorem stateAt_named {createdAt : Doc → Except DppError Int} {id : PassportId} {moment : Int}
    {read : StoredAt} {live : Doc} {a : StateAt} (hknown : moment ≤ read.readAt)
    (hlive : read.live = some live) (ha : stateAt createdAt id moment read = .ok a) :
    ∃ created, createdAt live = .ok created ∧
      a.named = if moment < created then none else read.document := by
  rw [stateAt, if_neg (not_lt.mpr hknown), hlive] at ha
  obtain ⟨created, hcreated, ha⟩ := bind_ok ha
  refine ⟨created, hcreated, ?_⟩
  by_cases hbefore : moment < created
  · rw [if_pos hbefore] at ha
    cases ha
    rw [if_pos hbefore]
    rfl
  · rw [if_neg hbefore] at ha
    rw [if_neg hbefore, StoredAt.document, hlive]
    cases hversion : read.version with
    | none =>
      rw [hversion] at ha
      cases ha
      rfl
    | some v =>
      rw [hversion] at ha
      cases ha
      rfl

/-- A moment is answered the same way whenever it is asked, by the record that stood at
it. -/
theorem state_at_is_stable_and_complete {createdAt : Doc → Except DppError Int}
    (hread : ∀ d created, createdAt d = .ok created →
      d.get "createdAt" = some (.instant created))
    {row : Row} {clock : Int} {events : List Event}
    (hrun : run Archive.next (Archive.created row clock) events = some s)
    {r r' : Reading} (hr : r ∈ s.readings) (hr' : r' ∈ s.readings)
    (hmoment : r'.moment = r.moment) (hknown : r.moment ≤ r.stored.readAt)
    (hknown' : r.moment ≤ r'.stored.readAt) (id : PassportId) :
    (∃ d d', r.stored.document = some d ∧ r'.stored.document = some d' ∧ SameRecord d d') ∧
    (∀ a a', stateAt createdAt id r.moment r.stored = .ok a →
      stateAt createdAt id r.moment r'.stored = .ok a' →
      Option.Rel SameRecord a.named a'.named) ∧
    ∀ a created, stateAt createdAt id r.moment r.stored = .ok a →
      row.doc.get "createdAt" = some (.instant created) → created ≤ r.moment →
      ∃ d, a.named = some d ∧ SameRecord (valueAt row.doc s.changes r.moment) d := by
  have hvalid : s.Valid row.doc :=
    reachable_invariant (fun _ _ _ h hnext => h.next hnext) (Archive.created_valid row clock) hrun
  obtain ⟨d, hd, hvalue⟩ := hvalid.readings r hr hknown
  obtain ⟨d', hd', hvalue'⟩ := hvalid.readings r' hr' (hmoment ▸ hknown')
  rw [hmoment] at hvalue'
  obtain ⟨live, hlive, hcreated⟩ := hvalid.live r hr
  obtain ⟨live', hlive', hcreated'⟩ := hvalid.live r' hr'
  have hsame : SameRecord d d' := hvalue.symm.trans hvalue'
  refine ⟨⟨d, d', hd, hd', hsame⟩, ?_, ?_⟩
  · intro a a' ha ha'
    obtain ⟨c, hc, hnamed⟩ := stateAt_named hknown hlive ha
    obtain ⟨c', hc', hnamed'⟩ := stateAt_named hknown' hlive' ha'
    -- both live records say when the first one was created
    have hmoments : some (Json.instant c) = some (Json.instant c') := by
      rw [← hread _ _ hc, ← hread _ _ hc', hcreated, hcreated']
    cases hmoments
    rw [hnamed, hnamed', hd, hd']
    by_cases hbefore : r.moment < c
    · simp only [if_pos hbefore]
      exact .none
    · simp only [if_neg hbefore]
      exact .some hsame
  · intro a created ha hstored hafter
    obtain ⟨c, hc, hnamed⟩ := stateAt_named hknown hlive ha
    have hmoments : some (Json.instant c) = some (Json.instant created) := by
      rw [← hread _ _ hc, hcreated, hstored]
    cases hmoments
    rw [hnamed, if_neg (not_lt.mpr hafter)]
    exact ⟨d, hd, hvalue⟩

def storedCreatedAt (d : Doc) : Except DppError Int :=
  match d.get "createdAt" with
  | some (.instant created) => .ok created
  | _ => .error (.internal "missing field createdAt")

theorem storedCreatedAt_get (d : Doc) (created : Int) (h : storedCreatedAt d = .ok created) :
    d.get "createdAt" = some (.instant created) := by
  rw [storedCreatedAt] at h
  split at h
  · cases h
    assumption
  · cases h

def issuedRow : Row := { olderRow with doc := ("createdAt", .instant 10) :: olderRow.doc }

def suspendedRow : Row :=
  { issuedRow with status := .suspended, doc := ("status", .str "suspended") :: issuedRow.doc }

/-- The moment 35 is asked for before and after the change stamped 40, which a rolled back
one precedes and a seal follows. -/
def askedTwice : List Event :=
  [.lockRow 30, .rollback, .markSealed (.str "first"), .shareRow 35, .readClock 0 36,
    .readVersion 0, .lockRow 40, .commit 1 suspendedRow, .markSealed (.str "second"),
    .shareRow 35, .shareRow 45, .readClock 0 50, .readVersion 0]

def firstAsked : Reading where
  moment := 35
  stored := ⟨some (issuedRow.doc.merge [("seal", .str "first")]), none, 36⟩

def secondAsked : Reading where
  moment := 35
  stored := ⟨some (suspendedRow.doc.merge [("seal", .str "second")]),
    some ⟨1, issuedRow.doc.merge [("seal", .str "first")], 40⟩, 50⟩

theorem asked_twice_answers_alike :
    ∃ s, run Archive.next (Archive.created issuedRow 20) askedTwice = some s ∧
      s.readings = [firstAsked, secondAsked] ∧
      (∃ d d', firstAsked.stored.document = some d ∧ secondAsked.stored.document = some d' ∧
        SameRecord d d') ∧
      (∀ a a', stateAt storedCreatedAt 7 35 firstAsked.stored = .ok a →
        stateAt storedCreatedAt 7 35 secondAsked.stored = .ok a' →
        Option.Rel SameRecord a.named a'.named) ∧
      ∀ a created, stateAt storedCreatedAt 7 35 firstAsked.stored = .ok a →
        issuedRow.doc.get "createdAt" = some (.instant created) → created ≤ 35 →
        ∃ d, a.named = some d ∧ SameRecord (valueAt issuedRow.doc s.changes 35) d := by
  let s := (run Archive.next (Archive.created issuedRow 20) askedTwice).getD
    (Archive.created issuedRow 20)
  have hrun : run Archive.next (Archive.created issuedRow 20) askedTwice = some s := by
    decide +kernel
  have hreadings : s.readings = [firstAsked, secondAsked] := by decide +kernel
  exact ⟨s, hrun, hreadings,
    state_at_is_stable_and_complete storedCreatedAt_get hrun
      (show firstAsked ∈ s.readings by simp [hreadings])
      (show secondAsked ∈ s.readings by simp [hreadings]) rfl (by decide) (by decide) 7⟩

end TimeTravel

end VersionArchive
