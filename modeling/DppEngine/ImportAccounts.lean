import DppEngine.ImportLines

/-! What an import answers for the rows of the file it was given: every row is accounted for once,
under its own number, by what was found in it and answered to its calls. -/
namespace ImportAccounts

open CreateRequests ImportMatching ImportFiles ImportLines
open PassportModel (PassportId)

section Accounts

def IsBlank (texts : List String) : Prop := ∀ text ∈ texts, text = ""

variable (env : Environment) (upload : Upload)

inductive Fate where
  | rejected | created | updated | failed | unchanged | conflicting
  deriving DecidableEq, Repr

def fateOf : RowAction → Fate
  | .create => .created
  | .updateDraft => .updated
  | .conflictPublished => .conflicting
  | .unchanged => .unchanged

def reportFates (report : ImportReport) (n : ℕ) : List Fate :=
  (report.rows.filter (·.row = n)).flatMap fun r =>
    (if r.valid then [] else [.rejected]) ++ (r.action.map fateOf).toList

def isSettled : Fate → Bool
  | .rejected => true
  | .unchanged => true
  | .conflicting => true
  | .created => false
  | .updated => false
  | .failed => false

def batchFates (batch : BatchResult) (n : ℕ) : List Fate :=
  (batch.created.filter (·.row = n)).map (fun _ => .created) ++
    (batch.updated.filter (·.row = n)).map (fun _ => .updated) ++
    (batch.errors.filter (·.row = n)).map fun _ => .failed

/-- The fates of the row of a number: what a dry run reports, or what an apply has done. -/
def fates (report : ImportReport) (batch : Option BatchResult) (n : ℕ) : List Fate :=
  match batch with
  | none => reportFates report n
  | some batch => (reportFates report n).filter isSettled ++ batchFates batch n

def failedNumbers (report : ImportReport) (batch : Option BatchResult) : Finset ℕ :=
  (Finset.Icc 1 report.totalRows).filter fun n =>
    .rejected ∈ fates report batch n ∨ .failed ∈ fates report batch n

/-- The report and the batch give each kept row, under its position, what was found in its own
cells and answered to its own calls, and each row with a value in it has one fate. -/
structure Accounts (report : ImportReport) (batch : Option BatchResult) : Prop where
  total : report.totalRows = (lines upload).length
  rows : report.rows = (lines upload).map (reportRow env upload)
  answered : ∀ b ∈ batch, b = answers env upload
  once : ∀ k texts, upload.dataRows[k]? = some texts → ¬IsBlank texts →
    (fates report batch (k + 1)).length = 1

structure Responds (report : ImportReport) (batch : Option BatchResult)
    (response : SyncImportResponse) : Prop extends Accounts env upload report batch where
  totalRows : response.totalRows = report.totalRows
  created : response.created = (batch.map (·.created)).getD []
  updated : response.updated = (batch.map (·.updated)).getD []
  errors : response.errors.Perm
    ((lines upload).flatMap (refusals env upload) ++ (batch.map (·.errors)).getD [])
  errorCount : response.errorCount = (failedNumbers report batch).card

structure Tells (report : ImportReport) (batch : BatchResult) (event : ImportCompleted) :
    Prop where
  totalRows : event.totalRows = report.totalRows
  created : event.created = batch.created.length
  updated : event.updated = batch.updated.length
  failedRows : event.failedRows = (failedNumbers report (some batch)).card
  within : event.created + event.updated + event.failedRows ≤ event.totalRows

/-- A dry run has succeeded with no row. -/
def Accounted : Outcome → Prop
  | .refused _ => True
  | .dryRun report response => Responds env upload report none response ∧ response.successCount = 0
  | .sync report response batch event => Responds env upload report (some batch) response ∧
      response.successCount + response.errorCount = response.totalRows ∧ Tells report batch event
  | .async report batch event => Accounts env upload report (some batch) ∧ Tells report batch event
  | .stopped _ => False

/-- Nothing is dropped but blank rows after the last row with a value; a dry run refuses each row
for one reason; and a lookup that finds a draft to update answers with its id. -/
structure Countable (mode : ImportMode) (rawRows : List Row) : Prop where
  blanksLast : upload.rawRows.Pairwise fun a b => a = [] → b = []
  named : ∀ texts ∈ upload.dataRows, ¬IsBlank texts → rowOf upload.headers texts ≠ []
  oneFinding : mode = .dryRun → ∀ row ∈ rawRows, ∀ first others,
    env.validateRow row = .error (first, others) → others = []
  matched : mode = .apply → ∀ row ∈ validRowsOf env rawRows,
    ∀ identity ∈ identityFromRequest row.2, ∀ existing,
      env.lookup row.1 identity = .ok (some existing) →
        (classifyExisting env.fingerprint row.2 existing).action = .updateDraft →
          existing.id.isSome

end Accounts

section Collecting

variable {vault : VaultAnswers} {k : ℕ} {batch batch' : BatchResult}
  {rows : List (ℕ × CreatePassportRequest × Classification)}

/-- The batch stops exactly at a draft to be updated whose match named no id. -/
theorem runRow_eq_none_iff {n : ℕ} {req : CreatePassportRequest} {c : Classification} :
    runRow vault n req c = none ↔ c.action = .updateDraft ∧ c.existingId = none := by
  obtain ⟨action, existingId⟩ := c
  cases action <;> cases existingId <;> simp [runRow]

theorem collect_isSome_iff : (collect vault rows batch).isSome ↔
    ∀ row ∈ rows, row.2.2.action = .updateDraft → row.2.2.existingId.isSome := by
  induction rows generalizing batch with
  | nil => simp [collect]
  | cons row rows ih =>
    obtain ⟨n, req, c⟩ := row
    rw [List.forall_mem_cons, collect]
    cases hrun : runRow vault n req c with
    | none =>
      obtain ⟨haction, hid⟩ := runRow_eq_none_iff.mp hrun
      simp [haction, hid]
    | some outcome =>
      have hrow : c.action = .updateDraft → c.existingId.isSome := by
        intro haction
        by_contra hid
        rw [runRow_eq_none_iff.mpr ⟨haction, by simpa using hid⟩] at hrun
        cases hrun
      simp only [ih]
      exact ⟨fun h => ⟨hrow, h⟩, fun h => h.2⟩

/-- A result that is recorded adds one fate to its row. -/
theorem batchFates_record (n : ℕ) (result : Except VaultClientError RowOutcome) :
    (batchFates (batch.record n result) k).length =
      (batchFates batch k).length + if n = k then 1 else 0 := by
  have herror (e : VaultClientError) : (rowError n e).row = n := by cases e <;> rfl
  unfold batchFates
  by_cases hk : n = k
  · subst hk
    match result with
    | .ok (.created id) => simp [BatchResult.record]; omega
    | .ok (.updated id) => simp [BatchResult.record]; omega
    | .error e => simp [BatchResult.record, herror]; omega
  · match result with
    | .ok (.created id) => simp [BatchResult.record, hk]
    | .ok (.updated id) => simp [BatchResult.record, hk]
    | .error e => simp [BatchResult.record, herror, hk]

theorem collect_tally (h : collect vault rows batch = some batch') (k : ℕ) :
    (batchFates batch' k).length =
      (batchFates batch k).length + (rows.map Prod.fst).count k := by
  induction rows generalizing batch with
  | nil =>
    obtain rfl : batch = batch' := by simpa [collect] using h
    simp
  | cons row rows ih =>
    obtain ⟨n, req, c⟩ := row
    rw [collect] at h
    cases hrun : runRow vault n req c with
    | none => simp [hrun] at h
    | some outcome =>
      rw [hrun] at h
      rw [ih h, batchFates_record, List.map_cons, List.count_cons]
      simp only [beq_iff_eq]
      omega

end Collecting

section Fates

variable {env : Environment} {mode : ImportMode} {rawRows : List Row} {k : ℕ}
  {batch : BatchResult} {errors : List RowError}

/-- The fates a report gives the row of a number. -/
theorem reportFates_reportOf : reportFates (reportOf env mode rawRows) k =
    if k ∈ Finset.Icc 1 rawRows.length then
      (if k ∈ (validRowsOf env rawRows).map Prod.fst then [] else [.rejected]) ++
        (((classificationsOf env rawRows).lookup k).map (fateOf ·.action)).toList
    else [] := by
  have hrange : (List.range' 1 rawRows.length).filter (· = k) =
      if k ∈ Finset.Icc 1 rawRows.length then [k] else [] := by
    rw [List.filter_eq, List.count_range_1']
    by_cases hk : k ∈ Finset.Icc 1 rawRows.length
    · have := Finset.mem_Icc.mp hk
      rw [if_pos hk, if_pos (by omega)]
      rfl
    · rw [Finset.mem_Icc] at hk
      rw [if_neg (by omega), if_neg (by rwa [Finset.mem_Icc])]
      rfl
  unfold reportFates reportOf buildReportRows
  rw [List.filter_map]
  have hcomp : ((fun r : ReportRow => decide (r.row = k)) ∘ fun n =>
      { row := n
        valid := n ∈ (validRowsOf env rawRows).map Prod.fst
        action := ((classificationsOf env rawRows).lookup n).map (·.action)
        existingPassportId := ((classificationsOf env rawRows).lookup n).bind (·.existingId)
        findings := ((rowErrorsOf env rawRows).filter (·.row = n)).map
            (fun e => ⟨e.field, e.message⟩) ++
          (((validRowsOf env rawRows).lookup n).map env.lint).getD [] }) = (· = k) := rfl
  rw [hcomp, hrange]
  split
  · simp only [List.map_cons, List.map_nil, List.flatMap_cons, List.flatMap_nil, List.append_nil,
      decide_eq_true_eq, Option.map_map]
    rfl
  · rfl

theorem length_reportFates : (reportFates (reportOf env mode rawRows) k).length =
    if k ∈ Finset.Icc 1 rawRows.length then 1 else 0 := by
  rw [reportFates_reportOf]
  by_cases hk : k ∈ Finset.Icc 1 rawRows.length
  · rw [if_pos hk, if_pos hk]
    by_cases hvalid : k ∈ (validRowsOf env rawRows).map Prod.fst
    · obtain ⟨⟨n, req⟩, hrow, rfl⟩ := List.mem_map.mp hvalid
      rw [if_pos hvalid, lookup_classifications hrow]
      rfl
    · rw [if_neg hvalid, lookup_classifications_none hvalid]
      rfl
  · rw [if_neg hk, if_neg hk]
    rfl

theorem fateOf_ne (action : RowAction) : fateOf action ≠ .rejected ∧ fateOf action ≠ .failed := by
  cases action <;> exact ⟨nofun, nofun⟩

theorem rejected_mem_reportFates : .rejected ∈ reportFates (reportOf env mode rawRows) k ↔
    k ∈ (rowErrorsOf env rawRows).map (·.row) := by
  have hclass : Fate.rejected ∉
      (((classificationsOf env rawRows).lookup k).map (fateOf ·.action)).toList := by
    rw [Option.mem_toList, Option.map_eq_some_iff]
    rintro ⟨c, -, h⟩
    exact (fateOf_ne c.action).1 h
  rw [reportFates_reportOf, mem_rowErrors]
  by_cases hk : k ∈ Finset.Icc 1 rawRows.length
  · by_cases hvalid : k ∈ (validRowsOf env rawRows).map Prod.fst
    · rw [if_pos hk, if_pos hvalid, List.nil_append]
      exact iff_of_false hclass fun h => h.2 hvalid
    · rw [if_pos hk, if_neg hvalid]
      exact iff_of_true (List.mem_append_left _ (List.mem_singleton_self _)) ⟨hk, hvalid⟩
  · rw [if_neg hk]
    exact iff_of_false List.not_mem_nil fun h => hk h.1

theorem failed_notMem_reportFates : .failed ∉ reportFates (reportOf env mode rawRows) k := by
  rw [reportFates_reportOf]
  split
  · rw [List.mem_append, Option.mem_toList, Option.map_eq_some_iff]
    rintro (h | ⟨c, -, h⟩)
    · split at h <;> simp at h
    · exact (fateOf_ne c.action).2 h
  · exact List.not_mem_nil

theorem isSettled_fateOf (c : Classification) : isSettled (fateOf c.action) = !writes c := by
  obtain ⟨action, existingId⟩ := c
  cases action <;> rfl

/-- The batch gives a fate to each valid row that is not settled, and to no other. -/
theorem length_batchFates
    (h : runBatch env.vault (validRowsOf env rawRows) (classificationsOf env rawRows) =
      some batch) :
    (batchFates batch k).length = if k ∈ (validRowsOf env rawRows).map Prod.fst ∧
      writes (classificationOf (classificationsOf env rawRows) k) then 1 else 0 := by
  have htally := collect_tally h k
  rw [toRun_numbers, ((validRows_nodup env rawRows).filter _).count] at htally
  simp only [List.mem_filter] at htally
  rw [htally]
  exact Nat.zero_add _

theorem length_fates
    (h : runBatch env.vault (validRowsOf env rawRows) (classificationsOf env rawRows) =
      some batch) :
    (fates (reportOf env .apply rawRows) (some batch) k).length =
      if k ∈ Finset.Icc 1 rawRows.length then 1 else 0 := by
  rw [fates, List.length_append, length_batchFates h, reportFates_reportOf]
  by_cases hvalid : k ∈ (validRowsOf env rawRows).map Prod.fst
  · have hk := mem_validRows hvalid
    obtain ⟨⟨n, req⟩, hrow, rfl⟩ := List.mem_map.mp hvalid
    rw [if_pos hk, if_pos hk, if_pos hvalid, classificationOf, lookup_classifications hrow]
    have hsettled := isSettled_fateOf (classificationFor env n req)
    cases hwrites : writes (classificationFor env n req) <;> simp [hwrites, hsettled, hvalid]
  · rw [if_neg hvalid, lookup_classifications_none hvalid]
    simp only [hvalid, false_and, if_false, Nat.add_zero]
    split <;> rfl

theorem rejected_mem_fates : .rejected ∈ fates (reportOf env mode rawRows) (some batch) k ↔
    k ∈ (rowErrorsOf env rawRows).map (·.row) := by
  have hbatch : Fate.rejected ∉ batchFates batch k := by simp [batchFates]
  rw [fates, List.mem_append, List.mem_filter, rejected_mem_reportFates]
  simp [hbatch, isSettled]

theorem failed_mem_fates : .failed ∈ fates (reportOf env mode rawRows) (some batch) k ↔
    k ∈ batch.errors.map (·.row) := by
  rw [fates, List.mem_append, List.mem_filter]
  simp [failed_notMem_reportFates, batchFates]

theorem mem_batch
    (h : runBatch env.vault (validRowsOf env rawRows) (classificationsOf env rawRows) = some batch)
    (hk : k ∈ batch.created.map (·.row) ∨ k ∈ batch.updated.map (·.row) ∨
      k ∈ batch.errors.map (·.row)) : k ∈ Finset.Icc 1 rawRows.length := by
  have hlength := length_batchFates (k := k) h
  have hsome : 0 < (batchFates batch k).length := by
    rw [List.length_pos_iff_exists_mem]
    rcases hk with hk | hk | hk
    · exact ⟨.created, by simpa [batchFates] using hk⟩
    · exact ⟨.updated, by simpa [batchFates] using hk⟩
    · exact ⟨.failed, by simpa [batchFates] using hk⟩
  by_contra hout
  rw [if_neg fun hboth => hout (mem_validRows hboth.1)] at hlength
  omega

end Fates

section Counts

variable {env : Environment} {mode : ImportMode} {rawRows : List Row} {upload : Upload}
  {batch : BatchResult} {errors : List RowError}

theorem parse_ok (h : parse upload = .ok rawRows) :
    rawRows = upload.rawRows.filter (· ≠ []) := by
  unfold parse at h
  split at h
  · cases h
  · dsimp only at h
    split at h
    · cases h
    · exact (Except.ok.inj h).symm

/-- A report and a batch are right about the file exactly if the rows that were kept are its rows
with values, in its first positions. -/
theorem accounts_iff {batch : Option BatchResult} (hrows : rawRows = upload.rawRows.filter (· ≠ []))
    (honce : ∀ k, (fates (reportOf env mode rawRows) batch k).length =
      if k ∈ Finset.Icc 1 rawRows.length then 1 else 0)
    (hbatch : ∀ b ∈ batch, runBatch env.vault (validRowsOf env rawRows)
      (classificationsOf env rawRows) = some b) :
    Accounts env upload (reportOf env mode rawRows) batch ↔
      (upload.rawRows.Pairwise fun a b => a = [] → b = []) ∧
        ∀ texts ∈ upload.dataRows, ¬IsBlank texts → rowOf upload.headers texts ≠ [] := by
  have hrange (k : ℕ) : k ∈ Finset.Icc 1 rawRows.length ↔ k ∈ List.range' 1 rawRows.length := by
    rw [Finset.mem_Icc, List.mem_range'_1]
    omega
  constructor
  · intro h
    have hnumbers : (reportOf env mode rawRows).rows.map (·.row) =
        List.range' 1 rawRows.length := by
      simp [reportOf, buildReportRows, Function.comp_def]
    have hnumbered : List.range' 1 rawRows.length = (lines upload).map (·.position) := by
      rw [← hnumbers, h.rows, map_row_reportRow]
    have hlast : upload.rawRows.Pairwise fun a b => a = [] → b = [] := by
      rw [← numbers_eq_positions upload.rawRows 1, ← hrows, hnumbered, map_position_lines]
      rfl
    refine ⟨hlast, ?_⟩
    intro texts htexts hsome hdropped
    obtain ⟨i, hi⟩ := List.mem_iff_getElem?.mp htexts
    have hfate := h.once i texts hi hsome
    rw [honce] at hfate
    have hin : i + 1 ∈ (lines upload).map (·.position) := by
      by_contra hout
      rw [← hnumbered, ← hrange] at hout
      rw [if_neg hout] at hfate
      omega
    obtain ⟨j, texts', hj, htexts', hkept⟩ := mem_positions.mp hin
    obtain rfl : i = j := by omega
    rw [hi] at htexts'
    cases htexts'
    exact hkept hdropped
  · rintro ⟨hlast, hnamed⟩
    have hlines := lines_of_blanksLast hrows hlast
    constructor
    case total =>
      rw [length_lines, ← hrows]
      rfl
    case rows => exact report_rows_eq hlines
    case answered => exact fun b hb => runBatch_eq hlines (hbatch b hb)
    case once =>
      intro i texts hi hsome
      have hkept := hnamed texts (List.mem_of_getElem? hi) hsome
      have hin : i + 1 ∈ (lines upload).map (·.position) :=
        mem_positions.mpr ⟨i, texts, rfl, hi, hkept⟩
      rw [lines_positions hlines, ← hrange] at hin
      rw [honce, if_pos hin]

theorem card_failedRows : errors.length = (failedRows errors).card ↔
    (errors.map (·.row)).Nodup := by
  rw [failedRows, List.card_toFinset, ← List.length_map fun e : RowError => e.row]
  constructor
  · intro h
    rw [← List.dedup_eq_self]
    exact (List.dedup_sublist _).eq_of_length h.symm
  · intro h
    rw [List.dedup_eq_self.mpr h]

/-- The errors of a dry run are as many as the rows they are about exactly if no row is refused for
two reasons. -/
theorem rowErrors_nodup : ((rowErrorsOf env rawRows).map (·.row)).Nodup ↔
    ∀ row ∈ rawRows, ∀ first others, env.validateRow row = .error (first, others) →
      others = [] := by
  have hcount (k : ℕ) := validateRows_count env k rawRows 1
  have hrefused (k : ℕ) := refuseRepeated_count k (validateRows env 1 rawRows).1 []
  rw [rowErrorsOf, List.map_append, List.nodup_append, validateRows_nodup,
    refuseRepeatedCarrierSerials]
  constructor
  · exact fun h => h.1
  · intro h
    refine ⟨h, ?_, ?_⟩
    · rw [List.nodup_iff_count_le_one]
      intro k
      have hone := hcount k
      rw [← hrefused k] at hone
      split at hone <;> split at hone <;> omega
    · rintro k hinvalid _ hrepeated rfl
      have hone := hcount k
      have hpos := List.count_pos_iff.mpr hrepeated
      rw [if_pos hinvalid, ← hrefused k] at hone
      split at hone <;> omega

theorem failedNumbers_dryRun :
    failedNumbers (reportOf env mode rawRows) none = failedRows (rowErrorsOf env rawRows) := by
  ext k
  rw [failedNumbers, Finset.mem_filter, failedRows, List.mem_toFinset]
  simp only [fates, rejected_mem_reportFates, failed_notMem_reportFates, or_false]
  exact ⟨fun h => h.2, fun h => ⟨(mem_rowErrors.mp h).1, h⟩⟩

theorem failedNumbers_apply
    (h : runBatch env.vault (validRowsOf env rawRows) (classificationsOf env rawRows) =
      some batch) :
    failedNumbers (reportOf env mode rawRows) (some batch) =
      failedRows (rowErrorsOf env rawRows) ∪ failedRows batch.errors := by
  ext k
  rw [failedNumbers, Finset.mem_filter, Finset.mem_union, failedRows, failedRows, List.mem_toFinset,
    List.mem_toFinset, rejected_mem_fates, failed_mem_fates]
  refine ⟨fun hk => hk.2, fun hk => ⟨?_, hk⟩⟩
  rcases hk with hk | hk
  · exact (mem_rowErrors.mp hk).1
  · exact mem_batch h (.inr (.inr hk))

theorem failedRows_append (first second : List RowError) :
    failedRows (first ++ second) = failedRows first ∪ failedRows second := by
  rw [failedRows, List.map_append, List.toFinset_append]
  rfl

theorem length_filter_row {α : Type} (row : α → ℕ) (items : List α) (k : ℕ) :
    (items.filter (row · = k)).length = (items.map row).count k := by
  rw [List.count, List.countP_map, List.countP_eq_length_filter]
  rfl

theorem tally_le
    (h : runBatch env.vault (validRowsOf env rawRows) (classificationsOf env rawRows) =
      some batch) :
    batch.created.length + batch.updated.length +
      (failedRows (rowErrorsOf env rawRows) ∪ failedRows batch.errors).card ≤ rawRows.length := by
  have hsum (k : ℕ) : (batch.created.map (·.row) ++ batch.updated.map (·.row) ++
      (failedRows (rowErrorsOf env rawRows) ∪ failedRows batch.errors).toList).count k ≤
        (List.range' 1 rawRows.length).count k := by
    have hbatch := length_batchFates (k := k) h
    have hlength : (batchFates batch k).length = (batch.created.map (·.row)).count k +
        (batch.updated.map (·.row)).count k + (batch.errors.map (·.row)).count k := by
      simp only [batchFates, List.length_append, List.length_map, length_filter_row]
    rw [hlength] at hbatch
    rw [List.count_append, List.count_append, (Finset.nodup_toList _).count, List.count_range_1']
    simp only [Finset.mem_toList, Finset.mem_union, failedRows, List.mem_toFinset]
    by_cases hfailed : k ∈ (rowErrorsOf env rawRows).map (·.row) ∨ k ∈ batch.errors.map (·.row)
    · rw [if_pos hfailed]
      rcases hfailed with hrefused | hfailed
      · have hk := Finset.mem_Icc.mp (mem_rowErrors.mp hrefused).1
        rw [if_neg fun hboth => (mem_rowErrors.mp hrefused).2 hboth.1] at hbatch
        rw [if_pos (by omega)]
        omega
      · have hk := Finset.mem_Icc.mp (mem_batch h (.inr (.inr hfailed)))
        have hpos := List.count_pos_iff.mpr hfailed
        rw [if_pos (by omega)]
        split at hbatch <;> omega
    · rw [if_neg hfailed]
      split at hbatch
      next hboth =>
        have hk := Finset.mem_Icc.mp (mem_validRows hboth.1)
        rw [if_pos (by omega)]
        omega
      next => omega
  have hle := (List.subperm_ext_iff.mpr fun k _ => hsum k).length_le
  rw [List.length_append, List.length_append, List.length_map, List.length_map,
    Finset.length_toList, List.length_range'] at hle
  exact hle

theorem importRows_dryRun : importRows env .dryRun rawRows =
    .dryRun (reportOf env .dryRun rawRows)
      ⟨rawRows.length, 0, (rowErrorsOf env rawRows).length, [], [], rowErrorsOf env rawRows⟩ := rfl

theorem importRows_stopped
    (h : runBatch env.vault (validRowsOf env rawRows) (classificationsOf env rawRows) = none) :
    importRows env .apply rawRows = .stopped (reportOf env .apply rawRows) := by
  change (match runBatch env.vault (validRowsOf env rawRows) (classificationsOf env rawRows) with
    | none => Outcome.stopped (reportOf env .apply rawRows)
    | some batch => _) = _
  rw [h]

theorem importRows_apply
    (h : runBatch env.vault (validRowsOf env rawRows) (classificationsOf env rawRows) =
      some batch) :
    importRows env .apply rawRows =
      let event := completed rawRows.length (rowErrorsOf env rawRows) batch
      let errors := rowErrorsOf env rawRows ++ batch.errors
      if (validRowsOf env rawRows).length ≤ syncThreshold then
        .sync (reportOf env .apply rawRows)
          ⟨rawRows.length, rawRows.length - (failedRows errors).card, (failedRows errors).card,
            batch.created, batch.updated, errors⟩ batch event
      else .async (reportOf env .apply rawRows) batch event := by
  change (match runBatch env.vault (validRowsOf env rawRows) (classificationsOf env rawRows) with
    | none => Outcome.stopped (reportOf env .apply rawRows)
    | some batch => _) = _
  rw [h]
  rfl

end Counts

section Import

variable {env : Environment} {rawRows : List Row} {upload : Upload} {n : ℕ}
  {req : CreatePassportRequest}

theorem classifyExisting_existingId (fp : Fingerprint) (req : CreatePassportRequest)
    (existing : Existing) : (classifyExisting fp req existing).existingId = existing.id := by
  unfold classifyExisting
  split
  · rfl
  · split <;> rfl

/-- A draft to be updated has an id unless the answer that matched it has none. -/
theorem classificationFor_update : ((classificationFor env n req).action = .updateDraft →
    (classificationFor env n req).existingId.isSome) ↔
      ∀ identity ∈ identityFromRequest req, ∀ existing,
        env.lookup n identity = .ok (some existing) →
          (classifyExisting env.fingerprint req existing).action = .updateDraft →
            existing.id.isSome := by
  unfold classificationFor classifyRow
  cases identityFromRequest req with
  | none =>
    refine iff_of_true (fun h => RowAction.noConfusion h) fun identity h => ?_
    exact (Option.not_mem_none _ h).elim
  | some identity =>
    simp only [Option.mem_some_iff, forall_eq']
    cases env.lookup n identity with
    | error e => exact iff_of_true (fun h => RowAction.noConfusion h) fun _ h => by cases h
    | ok answer =>
      cases answer with
      | none => exact iff_of_true (fun h => RowAction.noConfusion h) fun _ h => by cases h
      | some existing =>
        have hid := classifyExisting_existingId env.fingerprint req existing
        simp [Except.toOption, hid]

theorem runBatch_isSome_iff :
    (runBatch env.vault (validRowsOf env rawRows) (classificationsOf env rawRows)).isSome ↔
      ∀ row ∈ validRowsOf env rawRows, ∀ identity ∈ identityFromRequest row.2, ∀ existing,
        env.lookup row.1 identity = .ok (some existing) →
          (classifyExisting env.fingerprint row.2 existing).action = .updateDraft →
            existing.id.isSome := by
  rw [runBatch, collect_isSome_iff]
  constructor
  · rintro h ⟨n, req⟩ hrow
    rw [← classificationFor_update]
    intro haction
    have hclass := lookup_classifications hrow
    have hrun : (n, req, classificationFor env n req) ∈
        toRun (validRowsOf env rawRows) (classificationsOf env rawRows) := by
      refine List.mem_filterMap.mpr ⟨(n, req), hrow, ?_⟩
      simp [classificationOf, hclass, writes, haction]
    exact h _ hrun haction
  · intro h row hrow
    obtain ⟨⟨n, req⟩, hvalid, hsome⟩ := List.mem_filterMap.mp hrow
    have hclass := lookup_classifications hvalid
    simp only [classificationOf, hclass, Option.getD_some, Option.ite_none_right_eq_some,
      Option.some.injEq] at hsome
    obtain ⟨-, rfl⟩ := hsome
    exact classificationFor_update.mpr (h _ hvalid)

theorem dryRun_accounted_iff (hrows : rawRows = upload.rawRows.filter (· ≠ [])) :
    Accounted env upload (importRows env .dryRun rawRows) ↔
      Countable env upload .dryRun rawRows := by
  have honce (k : ℕ) : (fates (reportOf env .dryRun rawRows) none k).length =
      if k ∈ Finset.Icc 1 rawRows.length then 1 else 0 := length_reportFates
  have haccounts : Accounts env upload (reportOf env .dryRun rawRows) none ↔ _ :=
    accounts_iff hrows honce nofun
  have hcount : (rowErrorsOf env rawRows).length =
      (failedNumbers (reportOf env .dryRun rawRows) none).card ↔
        ∀ row ∈ rawRows, ∀ first others, env.validateRow row = .error (first, others) →
          others = [] := by
    rw [failedNumbers_dryRun, card_failedRows, rowErrors_nodup]
  rw [importRows_dryRun, Accounted]
  constructor
  · rintro ⟨h, -⟩
    obtain ⟨hlast, hnamed⟩ := haccounts.mp h.toAccounts
    exact ⟨hlast, hnamed, fun _ => hcount.mp h.errorCount, nofun⟩
  · rintro ⟨hlast, hnamed, hone, -⟩
    refine ⟨⟨haccounts.mpr ⟨hlast, hnamed⟩, rfl, rfl, rfl, ?_, hcount.mpr (hone rfl)⟩, rfl⟩
    simpa using rowErrors_perm (lines_of_blanksLast hrows hlast)

theorem apply_accounted_iff (hrows : rawRows = upload.rawRows.filter (· ≠ [])) :
    Accounted env upload (importRows env .apply rawRows) ↔ Countable env upload .apply rawRows := by
  cases hbatch : runBatch env.vault (validRowsOf env rawRows) (classificationsOf env rawRows) with
  | none =>
    rw [importRows_stopped hbatch]
    refine iff_of_false id fun h => ?_
    have hsome := runBatch_isSome_iff.mpr (h.matched rfl)
    rw [hbatch] at hsome
    cases hsome
  | some batch =>
    have hmatched := runBatch_isSome_iff.mp (hbatch ▸ rfl :
      (runBatch env.vault (validRowsOf env rawRows) (classificationsOf env rawRows)).isSome)
    have hran : ∀ b ∈ some batch, runBatch env.vault (validRowsOf env rawRows)
        (classificationsOf env rawRows) = some b := by
      rintro _ ⟨⟩
      exact hbatch
    have haccounts := accounts_iff hrows (fun _ => length_fates hbatch) hran
    have hcountable : Countable env upload .apply rawRows ↔
        Accounts env upload (reportOf env .apply rawRows) (some batch) := by
      rw [haccounts]
      exact ⟨fun h => ⟨h.blanksLast, h.named⟩, fun h => ⟨h.1, h.2, nofun, fun _ => hmatched⟩⟩
    have hfailed : failedNumbers (reportOf env .apply rawRows) (some batch) = _ :=
      failedNumbers_apply hbatch
    have htally := tally_le hbatch
    have htells : Tells (reportOf env .apply rawRows) batch
        (completed rawRows.length (rowErrorsOf env rawRows) batch) :=
      ⟨rfl, rfl, rfl, by rw [hfailed]; rfl, htally⟩
    rw [hcountable, importRows_apply hbatch]
    dsimp only
    split
    · refine ⟨fun h => h.1.toAccounts, fun h => ⟨⟨h, rfl, rfl, rfl, ?_, ?_⟩, ?_, htells⟩⟩
      · have hlast := (haccounts.mp h).1
        exact (rowErrors_perm (lines_of_blanksLast hrows hlast)).append_right batch.errors
      · rw [hfailed, ← failedRows_append]
      · dsimp only
        rw [failedRows_append]
        omega
    · exact ⟨fun h => h.1, fun h => ⟨h, htells⟩⟩

/-- An import accounts for every row of a file exactly if only blank rows after the last are
dropped, a dry run finds one fault in a row at most, and no draft is matched without its id. -/
theorem import_accounts_iff (env : Environment) (mode : ImportMode) (upload : Upload) :
    Accounted env upload (importFile env mode upload) ↔
      ∀ rawRows, parse upload = .ok rawRows → rawRows ≠ [] →
        Countable env upload mode rawRows := by
  unfold importFile
  cases hparse : parse upload with
  | error e => cases e <;> exact iff_of_true trivial nofun
  | ok rawRows =>
    simp only [Except.ok.injEq, forall_eq']
    cases rawRows with
    | nil => exact iff_of_true trivial fun h => (h rfl).elim
    | cons row rows =>
      have hrows := parse_ok hparse
      simp only [ne_eq, reduceCtorEq, not_false_eq_true, forall_const]
      cases mode with
      | dryRun => exact dryRun_accounted_iff hrows
      | apply => exact apply_accounted_iff hrows

def blankFirst : Upload := .csv ["productName", "batchId"] [["", ""], ["Coat", ""]]

def accepting : Environment where
  validateRow _ := .ok sampleRequest
  lint _ := []
  fingerprint := ⟨Comparable, inferInstance, id, Function.injective_id⟩
  lookup _ _ := .ok none
  vault := ⟨fun _ _ _ => .ok (some "passport"), fun _ _ _ _ => .ok ()⟩

/-- The passport created from the second row of the sheet is reported for the first. -/
theorem blank_row_shifts_numbers :
    ¬Accounted accepting blankFirst (importFile accepting .apply blankFirst) := by
  intro h
  have hparse : parse blankFirst = .ok [[("productName", "Coat")]] := by decide +kernel
  have hlines : (lines blankFirst).map (·.position) = [2] := by decide +kernel
  unfold importFile at h
  rw [hparse] at h
  have hnumbers := congrArg (List.map (·.row)) h.1.rows
  rw [map_row_reportRow, hlines] at hnumbers
  have hone : [1] = [2] := hnumbers
  cases hone

end Import

end ImportAccounts
