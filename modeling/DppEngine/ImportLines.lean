import DppEngine.ImportFiles
import Mathlib.Data.List.Find
import Mathlib.Data.List.Perm.Basic
import Mathlib.Order.Interval.Finset.Nat

/-! The rows of an imported file at their positions, and what an import finds in each of them and is
answered for it.

A row is judged by its own cells and by the labels of the rows above it. Where blank rows stand
only at the end, the report and the batch of an import are these verdicts and answers. -/
namespace ImportLines

open CreateRequests ImportMatching ImportFiles

section Lines

/-- A row that is kept, at its position among the data rows. Its calls are told from those of other
rows by how many rows were kept up to it. -/
structure Line where
  position : ℕ
  call : ℕ
  row : Row

def kept (upload : Upload) : List (Row × ℕ) :=
  (upload.rawRows.zipIdx 1).filter fun (row, _) => row ≠ []

def lines (upload : Upload) : List Line :=
  ((kept upload).zipIdx 1).map fun ((row, position), call) => ⟨position, call, row⟩

/-- What a row matches, where its own lookup fails as where it finds nothing. -/
def classificationFor (env : Environment) (n : ℕ) (req : CreatePassportRequest) : Classification :=
  (classifyRow env.fingerprint (env.lookup n) req).toOption.getD ⟨.create, none⟩

variable (env : Environment) (upload : Upload)

/-- The error of a row that states the label of a row above it, which it names by its number. -/
def repeatAmong (rows : Rows) (n : ℕ) (req : CreatePassportRequest) : Option RowError :=
  (statedLabel req).bind fun label =>
    (rows.find? fun above => above.1 < n && statedLabel above.2 = some label).map fun above =>
      repeatedSerial n label above.1

def requests : Rows :=
  (lines upload).filterMap fun l => (env.validateRow l.row).toOption.map fun req =>
    (l.position, req)

def verdict (l : Line) : Except (RowError × List RowError) CreatePassportRequest :=
  match env.validateRow l.row with
  | .error (first, others) =>
    let error (f : Finding) : RowError := ⟨l.position, f.field, f.message⟩
    .error (error first, others.map error)
  | .ok req =>
    match repeatAmong (requests env upload) l.position req with
    | some error => .error (error, [])
    | none => .ok req

def refusals (l : Line) : List RowError :=
  match verdict env upload l with
  | .error (first, others) => first :: others
  | .ok _ => []

def reportRow (l : Line) : ReportRow :=
  match verdict env upload l with
  | .error (first, others) =>
    ⟨l.position, false, none, none, (first :: others).map fun e => ⟨e.field, e.message⟩⟩
  | .ok req =>
    let classification := classificationFor env l.call req
    ⟨l.position, true, some classification.action, classification.existingId, env.lint req⟩

def answer (l : Line) : Option (Except VaultClientError RowOutcome) :=
  match verdict env upload l with
  | .error _ => none
  | .ok req =>
    let classification := classificationFor env l.call req
    if writes classification then runRow env.vault l.call req classification else none

def recorded (batch : BatchResult) (l : Line) : BatchResult :=
  match answer env upload l with
  | none => batch
  | some result => batch.record l.position result

def answers : BatchResult := (lines upload).foldl (recorded env upload) ⟨[], [], []⟩

end Lines

section Counting

variable {env : Environment} {n k : ℕ} {rows : List Row}

theorem validateRows_ok {row : Row} {req : CreatePassportRequest}
    (h : env.validateRow row = .ok req) : validateRows env n (row :: rows) =
      ((n, req) :: (validateRows env (n + 1) rows).1, (validateRows env (n + 1) rows).2) := by
  simp [validateRows, h]

theorem validateRows_error {row : Row} {first : Finding} {others : List Finding}
    (h : env.validateRow row = .error (first, others)) : validateRows env n (row :: rows) =
      ((validateRows env (n + 1) rows).1,
        (first :: others).map (fun f => ⟨n, f.field, f.message⟩) ++
        (validateRows env (n + 1) rows).2) := by
  simp [validateRows, h]

theorem rows_of_findings (n : ℕ) (findings : List Finding) :
    (findings.map fun f => (⟨n, f.field, f.message⟩ : RowError)).map (·.row) =
      List.replicate findings.length n := by
  induction findings with
  | nil => rfl
  | cons finding findings ih => rw [List.map_cons, List.map_cons, ih]; rfl

/-- Each row of a stretch of numbers is valid once or refused. -/
theorem validateRows_count (env : Environment) (k : ℕ) (rows : List Row) (n : ℕ) :
    ((validateRows env n rows).1.map Prod.fst).count k +
      (if k ∈ (validateRows env n rows).2.map (·.row) then 1 else 0) =
        if n ≤ k ∧ k < n + rows.length then 1 else 0 := by
  induction rows generalizing n with
  | nil => simp [validateRows]
  | cons row rows ih =>
    have hih := ih (n + 1)
    have hlater : n + 1 ≤ k ∧ k < n + 1 + rows.length ↔
        k ≠ n ∧ n ≤ k ∧ k < n + (rows.length + 1) := by omega
    simp only [hlater] at hih
    cases hrow : env.validateRow row with
    | ok req =>
      rw [validateRows_ok hrow, List.map_cons, List.count_cons, List.length_cons,
        Nat.add_right_comm,
        hih]
      by_cases hk : n = k
      · subst hk
        simp
      · simp [hk, Ne.symm hk]
    | error findings =>
      obtain ⟨first, others⟩ := findings
      rw [validateRows_error hrow, List.length_cons, List.map_append, rows_of_findings]
      by_cases hk : k = n
      · subst hk
        have hnone : ((validateRows env (k + 1) rows).1.map Prod.fst).count k = 0 := by
          simp only [ne_eq, not_true_eq_false, false_and, if_false] at hih
          omega
        simp [hnone]
      · simpa [List.mem_replicate, hk] using hih

theorem validateRows_errors_ge {e : RowError} (h : e ∈ (validateRows env n rows).2) :
    n ≤ e.row := by
  have hcount := validateRows_count env e.row rows n
  rw [if_pos (List.mem_map_of_mem h)] at hcount
  by_contra hlt
  rw [if_neg fun hrange => hlt hrange.1] at hcount
  omega

/-- No number is listed twice exactly if no row is refused for two reasons. -/
theorem validateRows_nodup (env : Environment) (rows : List Row) (n : ℕ) :
    ((validateRows env n rows).2.map (·.row)).Nodup ↔ ∀ row ∈ rows, ∀ first others,
      env.validateRow row = .error (first, others) → others = [] := by
  induction rows generalizing n with
  | nil => simp [validateRows]
  | cons row rows ih =>
    cases hrow : env.validateRow row with
    | ok req =>
      rw [validateRows_ok hrow, ih (n + 1)]
      simp [hrow]
    | error findings =>
      obtain ⟨first, others⟩ := findings
      rw [validateRows_error hrow, List.map_append, rows_of_findings, List.nodup_append, ih (n + 1),
        List.forall_mem_cons]
      have hlater : ∀ m ∈ (validateRows env (n + 1) rows).2.map (·.row), n ≠ m := by
        intro m hm
        obtain ⟨e, he, rfl⟩ := List.mem_map.mp hm
        have := validateRows_errors_ge he
        omega
      constructor
      · rintro ⟨hone, hrest, -⟩
        refine ⟨?_, hrest⟩
        intro first' others' h'
        obtain ⟨rfl, rfl⟩ : first = first' ∧ others = others' := by simpa [hrow] using h'
        have hlen := List.nodup_replicate.mp hone
        exact List.eq_nil_of_length_eq_zero (by simpa using hlen)
      · rintro ⟨hone, hrest⟩
        have hnil := hone first others hrow
        subst hnil
        refine ⟨by simp, hrest, ?_⟩
        intro a ha b hb
        rw [(List.mem_replicate.mp ha).2]
        exact hlater b hb

/-- The rows that state a repeated serial are taken out, each with one error. -/
theorem refuseRepeated_count (k : ℕ) (rows : Rows) (seen : List ((String × String) × ℕ)) :
    ((refuseRepeated seen rows).1.map Prod.fst).count k +
      ((refuseRepeated seen rows).2.map (·.row)).count k = (rows.map Prod.fst).count k := by
  induction rows generalizing seen with
  | nil => rfl
  | cons row rows ih =>
    obtain ⟨n, req⟩ := row
    have hstep : ∃ seen', refuseRepeated seen ((n, req) :: rows) =
          ((n, req) :: (refuseRepeated seen' rows).1, (refuseRepeated seen' rows).2) ∨
        ∃ e : RowError, e.row = n ∧ refuseRepeated seen ((n, req) :: rows) =
          ((refuseRepeated seen' rows).1, e :: (refuseRepeated seen' rows).2) := by
      rw [refuseRepeated]
      split
      · exact ⟨seen, .inl rfl⟩
      next label _ =>
        split
        · exact ⟨seen, .inr ⟨_, rfl, rfl⟩⟩
        · exact ⟨(label, n) :: seen, .inl rfl⟩
    obtain ⟨seen', hkept | ⟨e, he, hrefused⟩⟩ := hstep
    · have hih := ih seen'
      rw [hkept]
      simp only [List.map_cons, List.count_cons]
      omega
    · have hih := ih seen'
      rw [hrefused]
      simp only [List.map_cons, List.count_cons, he]
      omega

end Counting

section Positions

variable {upload : Upload} {k : ℕ}

/-- The rows that are kept are numbered by their positions exactly if no row that is kept follows
one that is not. -/
theorem numbers_eq_positions (rows : List Row) (start : ℕ) :
    List.range' start (rows.filter (· ≠ [])).length =
        ((rows.zipIdx start).filter fun (row, _) => row ≠ []).map Prod.snd ↔
      rows.Pairwise fun a b => a = [] → b = [] := by
  induction rows generalizing start with
  | nil => simp
  | cons row rows ih =>
    rw [List.pairwise_cons, ← ih (start + 1)]
    by_cases hrow : row = []
    · have hdrop : (List.filter (fun (r, _) => decide (r ≠ [])) ((row :: rows).zipIdx start)) =
          (rows.zipIdx (start + 1)).filter fun (r, _) => r ≠ [] := by
        simp [List.zipIdx_cons, hrow]
      rw [hdrop, List.filter_cons_of_neg (by simpa using hrow)]
      have hbound : ∀ m ∈ ((rows.zipIdx (start + 1)).filter fun (r, _) => r ≠ []).map Prod.snd,
          start + 1 ≤ m := by
        intro m hm
        obtain ⟨⟨r, m⟩, hmem, rfl⟩ := List.mem_map.mp hm
        exact (List.mem_zipIdx (List.mem_of_mem_filter hmem)).1
      constructor
      · intro h
        have hnone : rows.filter (· ≠ []) = [] := by
          by_contra hsome
          have hpos := List.length_pos_of_ne_nil hsome
          have hstart : start ∈ List.range' start (rows.filter (· ≠ [])).length := by
            rw [List.mem_range'_1]
            omega
          rw [h] at hstart
          have := hbound start hstart
          omega
        have hblank : ∀ r ∈ rows, r = [] := by simpa using hnone
        refine ⟨fun b hb _ => hblank b hb, ?_⟩
        rw [hnone] at h ⊢
        exact h
      · rintro ⟨hblank, h⟩
        have hnone : rows.filter (· ≠ []) = [] := by simpa [hrow] using hblank
        rw [hnone] at h ⊢
        exact h
    · have hkeep : (List.filter (fun (r, _) => decide (r ≠ [])) ((row :: rows).zipIdx start)) =
          (row, start) :: (rows.zipIdx (start + 1)).filter fun (r, _) => r ≠ [] := by
        simp [List.zipIdx_cons, hrow]
      rw [hkeep, List.filter_cons_of_pos (by simpa using hrow), List.length_cons, List.range'_succ,
        List.map_cons]
      simp [hrow]

theorem map_position_lines (upload : Upload) :
    (lines upload).map (·.position) = (kept upload).map Prod.snd := by
  have hindexed := List.zipIdx_map_fst 1 (kept upload)
  conv_rhs => rw [← hindexed]
  rw [lines, List.map_map, List.map_map]
  rfl

theorem mem_positions : k ∈ (lines upload).map (·.position) ↔
    ∃ i texts, k = i + 1 ∧ upload.dataRows[i]? = some texts ∧ rowOf upload.headers texts ≠ [] := by
  rw [map_position_lines]
  unfold kept Upload.rawRows
  constructor
  · intro h
    obtain ⟨⟨row, m⟩, hmem, rfl⟩ := List.mem_map.mp h
    obtain ⟨hidx, hrow⟩ := List.mem_filter.mp hmem
    rw [List.mk_mem_zipIdx_iff_le_and_getElem?_sub, List.getElem?_map,
      Option.map_eq_some_iff] at hidx
    obtain ⟨hle, texts, htexts, rfl⟩ := hidx
    exact ⟨m - 1, texts, by simp only; omega, htexts, by simpa using hrow⟩
  · rintro ⟨i, texts, rfl, htexts, hrow⟩
    refine List.mem_map.mpr ⟨(rowOf upload.headers texts, i + 1), List.mem_filter.mpr ⟨?_, ?_⟩, rfl⟩
    · rw [List.mk_mem_zipIdx_iff_le_and_getElem?_sub]
      simp [htexts]
    · simpa using hrow

theorem map_row_kept (upload : Upload) :
    (kept upload).map Prod.fst = upload.rawRows.filter (· ≠ []) := by
  have hindexed := List.zipIdx_map_fst 1 upload.rawRows
  conv_rhs => rw [← hindexed, List.filter_map]
  rfl

theorem length_lines (upload : Upload) :
    (lines upload).length = (upload.rawRows.filter (· ≠ [])).length := by
  rw [lines, List.length_map, List.length_zipIdx, ← map_row_kept, List.length_map]

/-- Where only blank rows at the end are dropped, a row's position is the number of rows kept up to
it. -/
theorem lines_of_blanksLast {rawRows : List Row} (hrows : rawRows = upload.rawRows.filter (· ≠ []))
    (hlast : upload.rawRows.Pairwise fun a b => a = [] → b = []) :
    lines upload = (rawRows.zipIdx 1).map fun (row, n) => ⟨n, n, row⟩ := by
  have hnumbers := (numbers_eq_positions upload.rawRows 1).mpr hlast
  have hkept : kept upload = rawRows.zipIdx 1 := by
    rw [List.zipIdx_eq_zip_range', hrows, hnumbers]
    exact List.zip_of_prod (map_row_kept upload) rfl
  have hcalls (rows : List Row) (n : ℕ) :
      (rows.zipIdx n).zipIdx n = (rows.zipIdx n).map fun line => (line, line.2) := by
    induction rows generalizing n with
    | nil => rfl
    | cons row rows ih => simp [List.zipIdx_cons, ih]
  rw [lines, hkept, hcalls, List.map_map]
  rfl

end Positions

section Verdicts

variable {env : Environment} {upload : Upload} {rawRows : List Row} {done rows : Rows} {n : ℕ}
  {req : CreatePassportRequest} {l : Line}

def invalid (env : Environment) (l : Line) : List RowError :=
  match env.validateRow l.row with
  | .error (first, others) => (first :: others).map fun f => ⟨l.position, f.field, f.message⟩
  | .ok _ => []

def repeated (env : Environment) (upload : Upload) (l : Line) : Option RowError :=
  (env.validateRow l.row).toOption.bind (repeatAmong (requests env upload) l.position)

theorem refusals_eq : refusals env upload l = invalid env l ++ (repeated env upload l).toList := by
  unfold refusals verdict invalid repeated
  cases env.validateRow l.row with
  | error findings => simp [Except.toOption]
  | ok req =>
    simp only [Except.toOption, Option.bind_some, List.nil_append]
    cases repeatAmong (requests env upload) l.position req <;> rfl

theorem validateRows_requests (env : Environment) (rows : List Row) (n : ℕ) :
    (validateRows env n rows).1 = (rows.zipIdx n).filterMap fun (row, m) =>
      (env.validateRow row).toOption.map fun req => (m, req) := by
  induction rows generalizing n with
  | nil => rfl
  | cons row rows ih =>
    cases hrow : env.validateRow row with
    | ok req => simp [validateRows_ok hrow, ih, List.zipIdx_cons, hrow, Except.toOption]
    | error findings =>
      obtain ⟨first, others⟩ := findings
      simp [validateRows_error hrow, ih, List.zipIdx_cons, hrow, Except.toOption]

theorem validateRows_findings (env : Environment) (rows : List Row) (n : ℕ) :
    (validateRows env n rows).2 =
      (rows.zipIdx n).flatMap fun (row, m) => invalid env ⟨m, m, row⟩ := by
  induction rows generalizing n with
  | nil => rfl
  | cons row rows ih =>
    cases hrow : env.validateRow row with
    | ok req => simp [validateRows_ok hrow, ih, List.zipIdx_cons, invalid, hrow]
    | error findings =>
      obtain ⟨first, others⟩ := findings
      simp [validateRows_error hrow, ih, List.zipIdx_cons, invalid, hrow]

/-- In rows of rising numbers those of a lower number stand above. -/
theorem find?_above {p : ℕ × CreatePassportRequest → Bool}
    (hrising : ((done ++ (n, req) :: rows).map Prod.fst).Pairwise (· < ·)) :
    (done ++ (n, req) :: rows).find? (fun above => above.1 < n && p above) = done.find? p := by
  rw [List.map_append, List.map_cons, List.pairwise_append, List.pairwise_cons] at hrising
  obtain ⟨-, ⟨hbelow, -⟩, habove⟩ := hrising
  have hrest : ((n, req) :: rows).find? (fun above => above.1 < n && p above) = none := by
    rw [List.find?_eq_none]
    intro row hrow
    rcases List.mem_cons.mp hrow with rfl | hlater
    · simp
    · have := hbelow row.1 (List.mem_map_of_mem hlater)
      simp only [Bool.and_eq_true, decide_eq_true_eq, not_and]
      omega
  rw [List.find?_append, hrest, Option.or_none]
  refine List.find?_congr fun row hrow => ?_
  have := habove row.1 (List.mem_map_of_mem hrow) n List.mem_cons_self
  simp [this]

/-- The check knows a label by the first row done that states it, so that it refuses the rows that
repeat one. -/
theorem refuseRepeated_eq {seen : List ((String × String) × ℕ)}
    (hseen : ∀ label, seen.lookup label =
      (done.find? fun above => statedLabel above.2 = some label).map Prod.fst)
    (hrising : ((done ++ rows).map Prod.fst).Pairwise (· < ·)) :
    refuseRepeated seen rows =
      (rows.filter fun row => repeatAmong (done ++ rows) row.1 row.2 = none,
        rows.filterMap fun row => repeatAmong (done ++ rows) row.1 row.2) := by
  induction rows generalizing done seen with
  | nil => rfl
  | cons row rows ih =>
    obtain ⟨n, req⟩ := row
    have hsplit : done ++ (n, req) :: rows = (done ++ [(n, req)]) ++ rows := by simp
    have hrow : repeatAmong (done ++ (n, req) :: rows) n req = (statedLabel req).bind fun label =>
        (seen.lookup label).map (repeatedSerial n label) := by
      unfold repeatAmong
      refine congrArg _ (funext fun label => ?_)
      rw [find?_above hrising, hseen, Option.map_map]
      rfl
    -- What the check knows after the row is by the first of the rows done and the row.
    have hnext (label : String × String) :
        ((done ++ [(n, req)]).find? fun above => statedLabel above.2 = some label).map Prod.fst =
          (seen.lookup label).or (if statedLabel req = some label then some n else none) := by
      rw [List.find?_append, Option.map_or, hseen]
      congr 1
      by_cases hstates : statedLabel req = some label <;> simp [hstates]
    rw [hsplit] at hrising
    cases hlabel : statedLabel req with
    | none =>
      have hknown (label : String × String) : seen.lookup label =
          ((done ++ [(n, req)]).find? fun above => statedLabel above.2 = some label).map
            Prod.fst := by
        rw [hnext, hlabel]
        simp
      have hih := ih hknown hrising
      rw [← hsplit] at hih
      simp [refuseRepeated, hlabel, hrow, hih]
    | some label =>
      cases hfirst : seen.lookup label with
      | some first =>
        have hknown (other : String × String) : seen.lookup other =
            ((done ++ [(n, req)]).find? fun above => statedLabel above.2 = some other).map
              Prod.fst := by
          rw [hnext, hlabel]
          by_cases hsame : label = other
          · subst hsame
            simp [hfirst]
          · simp [hsame]
        have hih := ih hknown hrising
        rw [← hsplit] at hih
        simp [refuseRepeated, hlabel, hfirst, hrow, hih]
      | none =>
        have hknown (other : String × String) : ((label, n) :: seen).lookup other =
            ((done ++ [(n, req)]).find? fun above => statedLabel above.2 = some other).map
              Prod.fst := by
          rw [hnext, hlabel, List.lookup_cons]
          by_cases hsame : label = other
          · subst hsame
            simp [hfirst]
          · simp [hsame, beq_false_of_ne (Ne.symm hsame)]
        have hih := ih hknown hrising
        rw [← hsplit] at hih
        simp [refuseRepeated, hlabel, hfirst, hrow, hih]

theorem refuseRepeatedCarrierSerials_eq (hrising : (rows.map Prod.fst).Pairwise (· < ·)) :
    refuseRepeatedCarrierSerials rows =
      (rows.filter fun row => repeatAmong rows row.1 row.2 = none,
        rows.filterMap fun row => repeatAmong rows row.1 row.2) := by
  have hseen (label : String × String) : ([] : List ((String × String) × ℕ)).lookup label =
      (([] : Rows).find? fun above => statedLabel above.2 = some label).map Prod.fst := rfl
  exact refuseRepeated_eq hseen hrising

theorem invalid_row (l : Line) : ∀ e ∈ invalid env l, e.row = l.position := by
  intro e he
  unfold invalid at he
  split at he
  · obtain ⟨f, -, rfl⟩ := List.mem_map.mp he
    rfl
  · cases he

theorem repeated_row (l : Line) : ∀ e ∈ (repeated env upload l).toList, e.row = l.position := by
  intro e he
  rw [Option.mem_toList, repeated, Option.bind_eq_some_iff] at he
  obtain ⟨req, -, hrepeat⟩ := he
  rw [repeatAmong, Option.bind_eq_some_iff] at hrepeat
  obtain ⟨label, -, hrepeat⟩ := hrepeat
  obtain ⟨above, -, rfl⟩ := Option.map_eq_some_iff.mp hrepeat
  rfl

end Verdicts

section Tally

variable {env : Environment} {mode : ImportMode} {rawRows : List Row} {k n : ℕ}
  {req : CreatePassportRequest}

def validRowsOf (env : Environment) (rawRows : List Row) : Rows :=
  (refuseRepeatedCarrierSerials (validateRows env 1 rawRows).1).1

def rowErrorsOf (env : Environment) (rawRows : List Row) : List RowError :=
  (validateRows env 1 rawRows).2 ++
    (refuseRepeatedCarrierSerials (validateRows env 1 rawRows).1).2

def classificationsOf (env : Environment) (rawRows : List Row) : List (ℕ × Classification) :=
  classifyBatch env.fingerprint env.lookup (validRowsOf env rawRows)

def reportOf (env : Environment) (mode : ImportMode) (rawRows : List Row) : ImportReport where
  mode := mode
  totalRows := rawRows.length
  rows := buildReportRows env rawRows.length (validRowsOf env rawRows) (rowErrorsOf env rawRows)
    (classificationsOf env rawRows)

/-- Each number up to the total is a valid row's or an error's. -/
theorem rows_tally (env : Environment) (rawRows : List Row) (k : ℕ) :
    ((validRowsOf env rawRows).map Prod.fst).count k +
      (if k ∈ (rowErrorsOf env rawRows).map (·.row) then 1 else 0) =
        if k ∈ Finset.Icc 1 rawRows.length then 1 else 0 := by
  have hvalidated := validateRows_count env k rawRows 1
  have hrefused := refuseRepeated_count k (validateRows env 1 rawRows).1 []
  have hrange : 1 ≤ k ∧ k < 1 + rawRows.length ↔ k ∈ Finset.Icc 1 rawRows.length := by
    rw [Finset.mem_Icc]
    omega
  simp only [hrange] at hvalidated
  rw [← hvalidated, ← hrefused]
  have hmem : k ∈ (rowErrorsOf env rawRows).map (·.row) ↔
      k ∈ (validateRows env 1 rawRows).2.map (·.row) ∨
        0 < ((refuseRepeated [] (validateRows env 1 rawRows).1).2.map (·.row)).count k := by
    rw [rowErrorsOf, List.map_append, List.mem_append, List.count_pos_iff,
      refuseRepeatedCarrierSerials]
  have hle : ((validateRows env 1 rawRows).1.map Prod.fst).count k +
      (if k ∈ (validateRows env 1 rawRows).2.map (·.row) then 1 else 0) ≤ 1 := by
    rw [hvalidated]
    split <;> omega
  rw [← hrefused] at hle
  simp only [hmem, validRowsOf, refuseRepeatedCarrierSerials]
  by_cases hinvalid : k ∈ (validateRows env 1 rawRows).2.map (·.row)
  · rw [if_pos hinvalid] at hle ⊢
    rw [if_pos (.inl hinvalid)]
    omega
  · rw [if_neg hinvalid] at hle ⊢
    by_cases hrepeated :
      0 < ((refuseRepeated [] (validateRows env 1 rawRows).1).2.map (·.row)).count k
    · rw [if_pos (.inr hrepeated)]
      omega
    · rw [if_neg (by rintro (h | h) <;> contradiction)]
      omega

theorem validRows_nodup (env : Environment) (rawRows : List Row) :
    ((validRowsOf env rawRows).map Prod.fst).Nodup := by
  rw [List.nodup_iff_count_le_one]
  intro k
  have htally := rows_tally env rawRows k
  split at htally <;> split at htally <;> omega

theorem mem_rowErrors : k ∈ (rowErrorsOf env rawRows).map (·.row) ↔
    k ∈ Finset.Icc 1 rawRows.length ∧ k ∉ (validRowsOf env rawRows).map Prod.fst := by
  have htally := rows_tally env rawRows k
  rw [← List.count_eq_zero]
  by_cases hk : k ∈ Finset.Icc 1 rawRows.length
  · rw [if_pos hk] at htally
    by_cases herror : k ∈ (rowErrorsOf env rawRows).map (·.row)
    · rw [if_pos herror] at htally
      exact iff_of_true herror ⟨hk, by omega⟩
    · rw [if_neg herror] at htally
      exact iff_of_false herror (by omega)
  · rw [if_neg hk] at htally
    refine iff_of_false (fun herror => ?_) (fun h => hk h.1)
    rw [if_pos herror] at htally
    omega

theorem mem_validRows (h : k ∈ (validRowsOf env rawRows).map Prod.fst) :
    k ∈ Finset.Icc 1 rawRows.length := by
  have htally := rows_tally env rawRows k
  have hpos := List.count_pos_iff.mpr h
  by_contra hk
  rw [if_neg hk] at htally
  omega

theorem lookup_classifications (h : (n, req) ∈ validRowsOf env rawRows) :
    (classificationsOf env rawRows).lookup n = some (classificationFor env n req) :=
  lookup_classifyBatch (validRows_nodup env rawRows) h

theorem lookup_classifications_none (h : k ∉ (validRowsOf env rawRows).map Prod.fst) :
    (classificationsOf env rawRows).lookup k = none := by
  rw [List.lookup_eq_none_iff]
  intro p hp
  obtain ⟨row, hrow, rfl⟩ := List.mem_map.mp hp
  have hne : k ≠ row.1 := fun heq => h (heq ▸ List.mem_map_of_mem hrow)
  simpa using hne

end Tally

section Provenance

variable {env : Environment} {mode : ImportMode} {upload : Upload} {rawRows : List Row}
  {req : CreatePassportRequest} {l : Line}

/-- The part of a list that is about one of the keys it was gathered under. -/
theorem filter_flatMap_key {α β : Type*} {items : List α} {entries : α → List β} {key : α → ℕ}
    {row : β → ℕ} (hkeys : (items.map key).Nodup) (hrows : ∀ a, ∀ e ∈ entries a, row e = key a)
    {a : α} (ha : a ∈ items) : (items.flatMap entries).filter (row · = key a) = entries a := by
  have hown : (entries a).filter (row · = key a) = entries a :=
    List.filter_eq_self.mpr fun e he => decide_eq_true (hrows a e he)
  have hother {b : α} (hne : key b ≠ key a) : (entries b).filter (row · = key a) = [] := by
    refine List.filter_eq_nil_iff.mpr fun e he => ?_
    rw [hrows b e he]
    simpa using hne
  induction items with
  | nil => cases ha
  | cons item items ih =>
    rw [List.map_cons, List.nodup_cons] at hkeys
    rw [List.flatMap_cons, List.filter_append]
    rcases List.mem_cons.mp ha with rfl | hlater
    · have hrest : (items.flatMap entries).filter (row · = key a) = [] := by
        rw [List.filter_flatMap, List.flatMap_eq_nil_iff]
        intro b hb
        exact hother fun heq => hkeys.1 (heq ▸ List.mem_map_of_mem hb)
      rw [hown, hrest, List.append_nil]
    · have hne : key item ≠ key a := fun heq => hkeys.1 (heq ▸ List.mem_map_of_mem hlater)
      rw [hother hne, List.nil_append, ih hkeys.2 hlater]

variable (hlines : lines upload = (rawRows.zipIdx 1).map fun (row, n) => ⟨n, n, row⟩)

include hlines

theorem lines_positions : (lines upload).map (·.position) = List.range' 1 rawRows.length := by
  rw [hlines, List.map_map, ← List.zipIdx_map_snd 1 rawRows]
  rfl

theorem lines_nodup : ((lines upload).map (·.position)).Nodup := by
  rw [lines_positions hlines]
  exact List.nodup_range'

theorem call_eq (hl : l ∈ lines upload) : l.call = l.position := by
  rw [hlines] at hl
  obtain ⟨⟨row, n⟩, -, rfl⟩ := List.mem_map.mp hl
  rfl

theorem validated_eq : (validateRows env 1 rawRows).1 = requests env upload := by
  rw [validateRows_requests, requests, hlines, List.filterMap_map]
  rfl

theorem requests_rising : ((requests env upload).map Prod.fst).Pairwise (· < ·) := by
  have hsub : ((requests env upload).map Prod.fst).Sublist ((lines upload).map (·.position)) := by
    have hone (l : Line) : ((env.validateRow l.row).toOption.map fun req => (l.position, req)).map
        Prod.fst = ((env.validateRow l.row).toOption.map fun _ => l.position) := by
      cases env.validateRow l.row <;> rfl
    rw [requests, List.map_filterMap]
    simp only [hone]
    generalize lines upload = ls
    induction ls with
    | nil => exact .slnil
    | cons l ls ih =>
      cases hrow : (env.validateRow l.row).toOption with
      | none => simpa [List.filterMap_cons, hrow] using ih.cons l.position
      | some req => simpa [List.filterMap_cons, hrow] using ih.cons_cons l.position
  rw [lines_positions hlines] at hsub
  exact List.Pairwise.sublist hsub List.pairwise_lt_range'

theorem refuseRepeated_requests : refuseRepeatedCarrierSerials (validateRows env 1 rawRows).1 =
    ((requests env upload).filter fun row => repeatAmong (requests env upload) row.1 row.2 = none,
      (requests env upload).filterMap fun row =>
        repeatAmong (requests env upload) row.1 row.2) := by
  rw [validated_eq hlines]
  exact refuseRepeatedCarrierSerials_eq (requests_rising hlines)

/-- The rows the vault is asked about are those whose verdict is a request. -/
theorem validRows_eq : validRowsOf env rawRows = (lines upload).filterMap fun l =>
    (verdict env upload l).toOption.map fun req => (l.position, req) := by
  have hsplit (all : Rows) : ((requests env upload).filter fun row =>
      repeatAmong all row.1 row.2 = none) = (lines upload).filterMap fun l =>
        ((env.validateRow l.row).toOption.map fun req => (l.position, req)).filter fun row =>
          repeatAmong all row.1 row.2 = none := by
    rw [requests, List.filter_filterMap]
  rw [validRowsOf, refuseRepeated_requests hlines, hsplit]
  refine List.filterMap_congr fun l _ => ?_
  unfold verdict
  cases env.validateRow l.row with
  | error findings => rfl
  | ok req =>
    simp only [Except.toOption, Option.map_some]
    cases hrepeat : repeatAmong (requests env upload) l.position req <;>
      simp [Option.filter, hrepeat]

theorem rowErrors_eq : rowErrorsOf env rawRows =
    (lines upload).flatMap (invalid env) ++ (lines upload).flatMap fun l =>
      (repeated env upload l).toList := by
  have hsplit (all : Rows) : ((requests env upload).filterMap fun row =>
      repeatAmong all row.1 row.2) = (lines upload).filterMap fun l =>
        ((env.validateRow l.row).toOption.map fun req => (l.position, req)).bind fun row =>
          repeatAmong all row.1 row.2 := by
    rw [requests, List.filterMap_filterMap]
  have hrepeated (l : Line) : (((env.validateRow l.row).toOption.map fun req =>
      (l.position, req)).bind fun row => repeatAmong (requests env upload) row.1 row.2) =
        repeated env upload l := by
    unfold repeated
    cases env.validateRow l.row <;> rfl
  rw [rowErrorsOf, refuseRepeated_requests hlines, hsplit, validateRows_findings,
    ← List.filterMap_eq_flatMap_toList]
  simp only [hrepeated]
  rw [hlines, List.flatMap_map]

theorem rowErrors_perm :
    (rowErrorsOf env rawRows).Perm ((lines upload).flatMap (refusals env upload)) := by
  rw [rowErrors_eq hlines, List.flatMap_congr fun l _ => refusals_eq]
  exact List.flatMap_append_perm ..

theorem rowErrors_filter (hl : l ∈ lines upload) :
    (rowErrorsOf env rawRows).filter (·.row = l.position) = refusals env upload l := by
  rw [rowErrors_eq hlines, List.filter_append, refusals_eq,
    filter_flatMap_key (lines_nodup hlines) invalid_row hl,
    filter_flatMap_key (lines_nodup hlines) repeated_row hl]

theorem mem_validRows_of_verdict (hl : l ∈ lines upload) (hreq : verdict env upload l = .ok req) :
    (l.position, req) ∈ validRowsOf env rawRows := by
  rw [validRows_eq hlines]
  exact List.mem_filterMap.mpr ⟨l, hl, by rw [hreq]; rfl⟩

theorem verdict_of_mem_validRows (hl : l ∈ lines upload)
    (hvalid : l.position ∈ (validRowsOf env rawRows).map Prod.fst) :
    ∃ req, verdict env upload l = .ok req := by
  rw [validRows_eq hlines] at hvalid
  obtain ⟨row, hrow, hposition⟩ := List.mem_map.mp hvalid
  obtain ⟨l', hl', hrow⟩ := List.mem_filterMap.mp hrow
  obtain ⟨req, hreq, rfl⟩ := Option.map_eq_some_iff.mp hrow
  obtain rfl := List.inj_on_of_nodup_map (lines_nodup hlines) hl' hl hposition
  cases hverdict : verdict env upload l' with
  | error errors => simp [hverdict, Except.toOption] at hreq
  | ok req => exact ⟨req, rfl⟩

theorem lookup_validRows (hl : l ∈ lines upload) (hreq : verdict env upload l = .ok req) :
    (validRowsOf env rawRows).lookup l.position = some req := by
  obtain ⟨above, below, hsplit⟩ :=
    List.append_of_mem (mem_validRows_of_verdict hlines hl hreq)
  have hnodup := validRows_nodup env rawRows
  rw [hsplit, List.map_append, List.nodup_append] at hnodup
  refine List.lookup_eq_some_iff.mpr ⟨above, below, hsplit, fun row hrow => ?_⟩
  have hne := hnodup.2.2 row.1 (List.mem_map_of_mem hrow) l.position List.mem_cons_self
  simpa using Ne.symm hne

/-- The report gives each row its own verdict. -/
theorem report_rows_eq :
    (reportOf env mode rawRows).rows = (lines upload).map (reportRow env upload) := by
  unfold reportOf buildReportRows
  rw [← lines_positions hlines, List.map_map]
  refine List.map_congr_left fun l hl => ?_
  simp only [Function.comp_apply, rowErrors_filter hlines hl]
  unfold reportRow refusals
  cases hverdict : verdict env upload l with
  | error errors =>
    have hinvalid : l.position ∉ (validRowsOf env rawRows).map Prod.fst := by
      intro hvalid
      obtain ⟨req, hreq⟩ := verdict_of_mem_validRows hlines hl hvalid
      cases hverdict.symm.trans hreq
    have hnone : (validRowsOf env rawRows).lookup l.position = none := by
      rw [List.lookup_eq_none_iff]
      intro row hrow
      have hne : l.position ≠ row.1 := fun heq => hinvalid (heq ▸ List.mem_map_of_mem hrow)
      simpa using hne
    simp only [hinvalid, decide_false, lookup_classifications_none hinvalid, hnone]
    simp
  | ok req =>
    have hvalid := mem_validRows_of_verdict hlines hl hverdict
    have hnumber : l.position ∈ (validRowsOf env rawRows).map Prod.fst :=
      List.mem_map_of_mem hvalid
    simp only [hnumber, decide_true, lookup_classifications hvalid,
      lookup_validRows hlines hl hverdict,
      call_eq hlines hl]
    simp

omit hlines in
theorem map_row_reportRow : ((lines upload).map (reportRow env upload)).map (·.row) =
    (lines upload).map (·.position) := by
  rw [List.map_map]
  refine List.map_congr_left fun l _ => ?_
  simp only [Function.comp_apply, reportRow]
  split <;> rfl

end Provenance

section Batches

variable {env : Environment} {upload : Upload} {rawRows : List Row} {batch batch' : BatchResult}

def due (env : Environment) (upload : Upload) (l : Line) :
    Option (ℕ × CreatePassportRequest × Classification) :=
  (verdict env upload l).toOption.bind fun req =>
    if writes (classificationFor env l.call req) then
      some (l.position, req, classificationFor env l.call req)
    else none

theorem answer_eq {l : Line} : answer env upload l =
    (due env upload l).bind fun row => runRow env.vault l.call row.2.1 row.2.2 := by
  unfold answer due
  cases verdict env upload l with
  | error errors => rfl
  | ok req =>
    simp only [Except.toOption, Option.bind_some]
    split <;> rfl

theorem due_number {l : Line} {n : ℕ} {req : CreatePassportRequest} {c : Classification}
    (h : due env upload l = some (n, req, c)) : n = l.position := by
  obtain ⟨req', -, h⟩ := Option.bind_eq_some_iff.mp h
  split at h
  · cases h
    rfl
  · cases h

theorem toRun_eq (hlines : lines upload = (rawRows.zipIdx 1).map fun (row, n) => ⟨n, n, row⟩) :
    toRun (validRowsOf env rawRows) (classificationsOf env rawRows) =
      (lines upload).filterMap (due env upload) := by
  conv_lhs => rw [toRun, validRows_eq hlines, List.filterMap_filterMap]
  refine List.filterMap_congr fun l hl => ?_
  unfold due
  cases hverdict : verdict env upload l with
  | error errors => rfl
  | ok req =>
    have hclass := lookup_classifications (mem_validRows_of_verdict hlines hl hverdict)
    simp only [Except.toOption, Option.map_some, Option.bind_some, classificationOf, hclass,
      Option.getD_some, call_eq hlines hl]

/-- The batch records, row by row, what the vault answers for the row. -/
theorem collect_eq {ls : List Line} (hcalls : ∀ l ∈ ls, l.call = l.position)
    (h : collect env.vault (ls.filterMap (due env upload)) batch = some batch') :
    batch' = ls.foldl (recorded env upload) batch := by
  induction ls generalizing batch with
  | nil => exact (Option.some.inj h).symm
  | cons l ls ih =>
    have hcall := hcalls l List.mem_cons_self
    have hlater : ∀ l' ∈ ls, l'.call = l'.position := fun l' hl' =>
      hcalls l' (List.mem_cons_of_mem _ hl')
    rw [List.foldl_cons]
    cases hdue : due env upload l with
    | none =>
      have hrecorded : recorded env upload batch l = batch := by
        rw [recorded, answer_eq, hdue]
        rfl
      rw [hrecorded]
      exact ih hlater (by rwa [List.filterMap_cons_none hdue] at h)
    | some row =>
      obtain ⟨n, req, c⟩ := row
      obtain rfl := due_number hdue
      rw [List.filterMap_cons_some hdue, collect] at h
      cases hrun : runRow env.vault l.position req c with
      | none => simp [hrun] at h
      | some result =>
        have hrecorded : recorded env upload batch l = batch.record l.position result := by
          rw [recorded, answer_eq, hdue]
          simp only [Option.bind_some, hcall, hrun]
        rw [hrun] at h
        rw [hrecorded]
        exact ih hlater h

/-- What the batch names is what the vault answered to the calls of the rows named. -/
theorem runBatch_eq (hlines : lines upload = (rawRows.zipIdx 1).map fun (row, n) => ⟨n, n, row⟩)
    (h : runBatch env.vault (validRowsOf env rawRows) (classificationsOf env rawRows) =
      some batch) :
    batch = answers env upload := by
  rw [runBatch, toRun_eq hlines] at h
  exact collect_eq (fun l hl => call_eq hlines hl) h

end Batches

end ImportLines
