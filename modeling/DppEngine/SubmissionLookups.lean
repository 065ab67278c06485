import DppEngine.RegistryDrain
import DppEngine.TrustedListDocuments

/-! Finding a submission again by the unique product identifier it was made under.

The registry lists the operator's tasks a page at a time, and new tasks may be put in front between
two reads. A finished task has a result, which names the passports of its submission. -/
namespace SubmissionLookups

open RegistryDrain (SubmissionReport SubmissionLookup)
open TrustedListDocuments (trim)
open FallibleSteps

section Dashboard

inductive SubmissionOutcome where
  | processing | success | failure
  | other (wire : String)
  deriving DecidableEq, Repr

inductive PassportOutcome where
  | rejected
  | other (wire : String)
  deriving DecidableEq, Repr

structure PassportResult where
  uniqueProductIdentifier : String
  outcome : Option PassportOutcome
  registrationIdentifier : Option String
  errorCode : Option String
  deriving DecidableEq, Repr

/-- `report` is the list of its item details. -/
structure ResultPayload where
  outcomeResult : Option SubmissionOutcome
  report : Option (List PassportResult)
  deriving DecidableEq, Repr

structure TaskResult where
  status : Option SubmissionOutcome
  resultPayload : Option ResultPayload
  deriving DecidableEq, Repr

inductive TaskId where
  | text (id : String)
  | number (digits : String)
  | other
  deriving DecidableEq, Repr

structure Task where
  taskId : TaskId
  correlationId : Option String
  taskType : Option String
  status : Option SubmissionOutcome
  submittedAt : Option String
  deriving DecidableEq, Repr

def registrationTaskType : String := "DPP_REGISTRATION"

/-- A task that names no type is read as a registration. -/
def Task.isRegistration (task : Task) : Bool := task.taskType.all (· = registrationTaskType)

def Task.isFinished (task : Task) : Bool :=
  task.status = some .success || task.status = some .failure

def Task.idSegment (task : Task) : Option String :=
  match task.taskId with
  | .text id => if trim id = "" then none else some id
  | .number digits => some digits
  | .other => none

def TaskResult.itemDetails (result : TaskResult) : List PassportResult :=
  (result.resultPayload.bind (·.report)).getD []

def TaskResult.uniqueProductIdentifiers (result : TaskResult) : List String :=
  result.itemDetails.map (·.uniqueProductIdentifier)

/-- The outcome in the spelling of the result, else in that of the task. -/
def TaskResult.outcome (result : TaskResult) : Option SubmissionOutcome :=
  (result.resultPayload.bind (·.outcomeResult)).or result.status

def TaskResult.isComplete (result : TaskResult) : Bool :=
  result.outcome = some .failure ||
    (!result.itemDetails.isEmpty && result.itemDetails.all fun item =>
    item.outcome = some .rejected || item.registrationIdentifier.any fun id => trim id ≠ "")

def registered : List PassportResult → SubmissionReport
  | [only] =>
    let unnamed := .unrecognised "SUCCESS, with no registration identifier for the passport"
    if only.outcome = some .rejected then
      .unrecognised "SUCCESS, with 1 passport results for a submission of one"
    else
      match only.registrationIdentifier.map trim with
      | some id => if id = "" then unnamed else .registered id
      | none => unnamed
  | results => .unrecognised ("SUCCESS, with " ++ toString results.length ++
      " passport results for a submission of one")

def refusal (results : List PassportResult) : String :=
  match results.findSome? (·.errorCode) with
  | some code => "the registry refused the submission: " ++ code
  | none => "the registry refused the submission and named no error for this passport"

def reportFor (task : Task) (result : Option TaskResult) : SubmissionReport :=
  let results := (result.map (·.itemDetails)).getD []
  match (result.bind (·.outcome)).or task.status with
  | none => .processing
  | some .processing => .processing
  | some .success => registered results
  | some .failure => .refused (refusal results)
  | some (.other wire) => .unrecognised wire

inductive ListOrder where
  | newestFirst | unknown
  deriving DecidableEq, Repr

/-- One time that cannot be read leaves none. -/
def orderOf (parseRfc3339 : String → Option Int) (tasks : List Task) : ListOrder :=
  let times := ((tasks.filterMap (·.submittedAt)).mapM parseRfc3339).getD []
  let pairs := times.zip times.tail
  if 2 ≤ times.length ∧ (pairs.all fun (a, b) => b ≤ a) ∧ (pairs.any fun (a, b) => b < a) then
    .newestFirst
  else .unknown

structure PagePlan where
  pages : List ℕ
  coversAll : Bool
  deriving DecidableEq, Repr

def u32Max : ℕ := 2 ^ 32 - 1

def bothEnds (last front back : ℕ) : List ℕ :=
  (List.range (max front back)).flatMap fun i =>
    (if 0 < i ∧ i < front then [i] else []) ++ if i < back then [last - i] else []

def planPages (totalElements : Option ℕ) (pageSize cap : ℕ) (order : ListOrder) : PagePlan :=
  match totalElements with
  | none => ⟨List.range' 1 (cap - 1), false⟩
  | some total =>
    let totalPages := (total + (max pageSize 1 - 1)) / max pageSize 1
    if totalPages ≤ cap then ⟨List.range' 1 (totalPages - 1), true⟩
    else
      match order with
      | .newestFirst => ⟨List.range' 1 (cap - 1), false⟩
      | .unknown =>
        let front := (cap + 1) / 2
        ⟨bothEnds (min (totalPages - 1) u32Max) front (cap - front), false⟩

end Dashboard

section Registry

structure TaskPage where
  content : List Task
  totalElements : Option ℕ
  deriving DecidableEq, Repr

/-- What the registry holds and answers while a lookup runs. `tasks` is the list when its first page
is read, `arrivals k` what is put in front of it between the reads `k` and `k + 1`, under correlation
ids of its own. The registry pages the list as it likes, and a call may fail for good. -/
structure Registry where
  tasks : List Task
  arrivals : ℕ → List Task
  fresh : ∀ k, ∀ t ∈ arrivals k, ∀ t' ∈ tasks, t.correlationId = t'.correlationId →
    t.correlationId = none
  pageLength : ℕ → ℕ
  statesTotal : Bool
  pageOutage : ℕ → Option String
  result : String → TaskResult
  resultOutage : String → Option String
  parseRfc3339 : String → Option Int

def Registry.listAt (registry : Registry) : ℕ → List Task
  | 0 => registry.tasks
  | k + 1 => registry.arrivals k ++ registry.listAt k

def Registry.taskPage (registry : Registry) (k page : ℕ) : Except String TaskPage :=
  match registry.pageOutage k with
  | some e => .error e
  | none =>
    let tasks := registry.listAt k
    let length := registry.pageLength k
    .ok ⟨(tasks.drop (page * length)).take length,
      if registry.statesTotal then some tasks.length else none⟩

/-- The results a node has kept: whole ones, as the registry still has them. -/
structure Kept (registry : Registry) where
  entries : List (String × TaskResult)
  whole : ∀ e ∈ entries, e.2 = registry.result e.1 ∧ e.2.isComplete = true

def finishedResultsKept : ℕ := 2048

variable {registry : Registry}

def Kept.get (kept : Kept registry) (id : String) : Option TaskResult := kept.entries.lookup id

def Kept.insert (kept : Kept registry) (id : String)
    (h : (registry.result id).isComplete = true) : Kept registry where
  entries := (id, registry.result id) ::
    if finishedResultsKept ≤ kept.entries.length then [] else kept.entries
  whole := by
    intro e he
    rcases List.mem_cons.mp he with rfl | he
    · exact ⟨rfl, h⟩
    · split at he
      · cases he
      · exact kept.whole e he

/-- Only a complete result is kept. -/
def Kept.learn (kept : Kept registry) (id : String) : Kept registry :=
  if h : (registry.result id).isComplete = true then kept.insert id h else kept

def readFinishedResult (kept : Kept registry) (id : String) :
    Except String (TaskResult × Kept registry) :=
  match registry.resultOutage id with
  | some e => .error e
  | none => .ok (registry.result id, kept.learn id)

end Registry

section Lookup

def taskPageSize : ℕ := 50

def maxTaskPages : ℕ := 20

def maxResultReads : ℕ := 100

structure TaskSearch where
  tasks : List Task
  hit : Option ℕ
  complete : Bool
  deriving DecidableEq, Repr

def readPages (registry : Registry) (isHit : Task → Bool) (totalUnknown : Bool) (k : ℕ)
    (tasks : List Task) (complete : Bool) : List ℕ → Except String TaskSearch
  | [] => .ok ⟨tasks, none, complete⟩
  | page :: pages => do
    let more := (← registry.taskPage k page).content
    match (more.findIdx? isHit).map (tasks.length + ·) with
    | some at' => .ok ⟨tasks ++ more, some at', complete⟩
    | none =>
      if totalUnknown && more.length < taskPageSize then .ok ⟨tasks ++ more, none, true⟩
      else readPages registry isHit totalUnknown (k + 1) (tasks ++ more) complete pages

def searchTasks (registry : Registry) (isHit : Task → Bool) : Except String TaskSearch := do
  let first ← registry.taskPage 0 0
  let total := first.totalElements
  let plan := planPages total taskPageSize maxTaskPages
    (orderOf registry.parseRfc3339 first.content)
  let hit := first.content.findIdx? isHit
  let firstWasLast := total.isNone && first.content.length < taskPageSize
  let complete := firstWasLast || plan.coversAll
  if hit.isNone && !firstWasLast then
    readPages registry isHit total.isNone 1 first.content complete plan.pages
  else .ok ⟨first.content, hit, complete⟩

structure Reading (registry : Registry) where
  exhaustive : Bool
  found : List (Task × TaskResult)
  seen : List String
  networkReads : ℕ
  kept : Kept registry

variable {registry : Registry}

def Reading.judge (r : Reading registry) (upi : String) (task : Task) (result : TaskResult) :
    Reading registry :=
  if upi ∈ result.uniqueProductIdentifiers then { r with found := r.found ++ [(task, result)] }
  else r

/-- The registration tasks in the order they were read. -/
def consult (upi : String) : List Task → Reading registry → Except String (Reading registry)
  | [], r => .ok r
  | task :: tasks, r =>
    if !task.isFinished then consult upi tasks { r with exhaustive := false }
    else
      match task.idSegment, task.correlationId with
      | some id, some correlationId =>
        if correlationId ∈ r.seen then consult upi tasks r
        else
          let r := { r with seen := correlationId :: r.seen }
          match r.kept.get id with
          | some result => consult upi tasks (r.judge upi task result)
          | none =>
            if r.networkReads < maxResultReads then
              match readFinishedResult r.kept id with
              | .error e => .error e
              | .ok (result, kept) =>
                let r := { r with networkReads := r.networkReads + 1, kept }
                consult upi tasks (r.judge upi task result)
            else consult upi tasks { r with exhaustive := false }
      | _, _ => consult upi tasks { r with exhaustive := false }

def findSubmission (registry : Registry) (kept : Kept registry) (upi : String) :
    Except String SubmissionLookup := do
  let search ← searchTasks registry fun _ => false
  let r ← consult upi (search.tasks.filter (·.isRegistration)) ⟨search.complete, [], [], 0, kept⟩
  match r.found with
  | [] => .ok (.notFound r.exhaustive)
  | [(task, result)] =>
    if !r.exhaustive then .ok (.notFound r.exhaustive)
    else .ok (.found (task.correlationId.getD "") (reportFor task (some result)))
  | several => .ok (.ambiguous (several.filterMap (·.1.correlationId)))

end Lookup

section Truth

variable (registry : Registry) (upi : String)

def Registry.resultOf (task : Task) : Option TaskResult :=
  if task.isFinished then task.idSegment.map registry.result else none

/-- A task is a submission of the identifier that its result names. -/
def Reports (task : Task) : Prop :=
  ∃ result ∈ registry.resultOf task, upi ∈ result.uniqueProductIdentifiers

/-- A task that is no submission of the identifier and cannot turn out to be one. -/
def RuledOut (task : Task) : Prop :=
  ∃ result ∈ registry.resultOf task, result.isComplete = true ∧
    upi ∉ result.uniqueProductIdentifiers

/-- A task that has named its passports, and they are different. -/
def NamesOthers (task : Task) : Prop :=
  ∃ result ∈ registry.resultOf task, result.itemDetails ≠ [] ∧
    upi ∉ result.uniqueProductIdentifiers

def Registry.registrations : List Task := registry.tasks.filter (·.isRegistration)

/-- A definite answer is right about the tasks that were on the list when its first page was
read. -/
def Truthful : Except String SubmissionLookup → Prop
  | .ok (.notFound true) => ∀ task ∈ registry.registrations, RuledOut registry upi task
  | .ok (.found correlationId _) => ∃ task ∈ registry.registrations, Reports registry upi task ∧
      task.correlationId = some correlationId ∧
      ∀ other ∈ registry.registrations, other ≠ task → NamesOthers registry upi other
  | _ => True

def firsts (seen : List String) : List Task → List Task
  | [] => []
  | task :: tasks =>
    match task.correlationId with
    | none => firsts seen tasks
    | some correlationId =>
      if correlationId ∈ seen then firsts seen tasks
      else task :: firsts (correlationId :: seen) tasks

def candidates (listed : List Task) : List Task := firsts [] (listed.filter (·.isRegistration))

structure Legible (task : Task) : Prop where
  finished : task.isFinished = true
  readable : task.idSegment.isSome
  named : task.correlationId.isSome

def Answered {registry : Registry} : ℕ → Kept registry → List Task → Prop
  | _, _, [] => True
  | left, kept, task :: tasks => ∃ id ∈ task.idSegment,
      if (kept.get id).isSome then Answered left kept tasks
      else ∃ left', left = left' + 1 ∧ registry.resultOutage id = none ∧
        Answered left' (kept.learn id) tasks

/-- Nothing keeps a lookup from a definite answer: the pages it reads count as the whole list, and
each registration on them has a result that it can read. -/
structure Definite {registry : Registry} (kept : Kept registry) (listed : List Task) : Prop where
  counted : ∃ search, searchTasks registry (fun _ => false) = .ok search ∧
    search.tasks = listed ∧ search.complete = true
  legible : ∀ task ∈ listed, task.isRegistration = true → Legible task
  answered : Answered maxResultReads kept (candidates listed)

/-- The registrations of the list that are not told apart: on no page that was read, or behind
another task with their correlation id. -/
def Overlooked (listed : List Task) (task : Task) : Prop :=
  task ∈ registry.registrations ∧ task ∉ candidates listed

/-- What a definite answer takes for granted. -/
structure Sound (listed : List Task) : Prop where
  absent : (∀ task ∈ candidates listed, ¬Reports registry upi task) →
    (∀ task ∈ candidates listed, task ∈ registry.tasks →
      ∃ result ∈ registry.resultOf task, result.isComplete = true) ∧
    ∀ task, Overlooked registry listed task → RuledOut registry upi task
  unique : ∀ task ∈ candidates listed, Reports registry upi task →
    (∀ other ∈ candidates listed, other ≠ task → ¬Reports registry upi other) →
      task ∈ registry.tasks ∧
      (∀ other ∈ candidates listed, other ∈ registry.tasks → other ≠ task →
        ∃ result ∈ registry.resultOf other, result.itemDetails ≠ []) ∧
      ∀ other, Overlooked registry listed other → NamesOthers registry upi other

end Truth

section Consulting

variable {registry : Registry} {upi : String} {kept : Kept registry} {task : Task}
  {tasks listed : List Task} {seen : List String} {r r' : Reading registry}

theorem Kept.get_eq {id : String} {result : TaskResult} (h : kept.get id = some result) :
    result = registry.result id := by
  obtain ⟨before, after, hentries, -⟩ := List.lookup_eq_some_iff.mp h
  have hmem : (id, result) ∈ kept.entries := by simp [hentries]
  exact (kept.whole _ hmem).1

theorem legible_resultOf (registry : Registry) (h : Legible task) :
    ∃ id correlationId, task.idSegment = some id ∧ task.correlationId = some correlationId ∧
      registry.resultOf task = some (registry.result id) := by
  obtain ⟨id, hid⟩ := Option.isSome_iff_exists.mp h.readable
  obtain ⟨correlationId, hcorrelation⟩ := Option.isSome_iff_exists.mp h.named
  refine ⟨id, correlationId, hid, hcorrelation, ?_⟩
  rw [Registry.resultOf, if_pos h.finished, hid]
  rfl

def reporting (registry : Registry) (upi : String) (tasks : List Task) : List (Task × TaskResult) :=
  tasks.filterMap fun task => (registry.resultOf task).bind fun result =>
    if upi ∈ result.uniqueProductIdentifiers then some (task, result) else none

theorem judge_found (r : Reading registry) (result : TaskResult) :
    (r.judge upi task result).found = r.found ++
      if upi ∈ result.uniqueProductIdentifiers then [(task, result)] else [] := by
  unfold Reading.judge
  split
  · rfl
  · exact (List.append_nil _).symm

@[simp] theorem judge_exhaustive (r : Reading registry) (result : TaskResult) :
    (r.judge upi task result).exhaustive = r.exhaustive := by
  unfold Reading.judge
  split <;> rfl

@[simp] theorem judge_seen (r : Reading registry) (result : TaskResult) :
    (r.judge upi task result).seen = r.seen := by
  unfold Reading.judge
  split <;> rfl

@[simp] theorem judge_networkReads (r : Reading registry) (result : TaskResult) :
    (r.judge upi task result).networkReads = r.networkReads := by
  unfold Reading.judge
  split <;> rfl

@[simp] theorem judge_kept (r : Reading registry) (result : TaskResult) :
    (r.judge upi task result).kept = r.kept := by
  unfold Reading.judge
  split <;> rfl

/-- A lookup that has missed something does not forget it. -/
theorem consult_exhaustive (h : consult upi tasks r = .ok r') (hr : r'.exhaustive = true) :
    r.exhaustive = true := by
  induction tasks generalizing r with
  | nil =>
    cases h
    exact hr
  | cons task tasks ih =>
    unfold consult at h
    split at h
    · cases ih h
    · split at h
      · split at h
        · exact ih h
        · dsimp only at h
          split at h
          · have := ih h
            simpa using this
          · split at h
            · split at h
              · cases h
              · have := ih h
                simpa using this
            · cases ih h
      · cases ih h

theorem firsts_seen {correlationId : String} (h : task.correlationId = some correlationId)
    (hseen : correlationId ∈ seen) : firsts seen (task :: tasks) = firsts seen tasks := by
  rw [firsts, h]
  exact if_pos hseen

theorem firsts_new {correlationId : String} (h : task.correlationId = some correlationId)
    (hseen : correlationId ∉ seen) :
    firsts seen (task :: tasks) = task :: firsts (correlationId :: seen) tasks := by
  rw [firsts, h]
  exact if_neg hseen

theorem reporting_cons {result : TaskResult} (h : registry.resultOf task = some result) :
    reporting registry upi (task :: tasks) =
      (if upi ∈ result.uniqueProductIdentifiers then [(task, result)] else []) ++
        reporting registry upi tasks := by
  unfold reporting
  rw [List.filterMap_cons, h, Option.bind_some]
  by_cases hupi : upi ∈ result.uniqueProductIdentifiers
  · rw [if_pos hupi, if_pos hupi]
    rfl
  · rw [if_neg hupi, if_neg hupi]
    rfl

theorem consult_illegible (h : ¬Legible task) :
    consult upi (task :: tasks) r = consult upi tasks { r with exhaustive := false } := by
  rw [consult]
  cases hfinished : task.isFinished with
  | false => rfl
  | true =>
    cases hid : task.idSegment with
    | none => rfl
    | some id =>
      cases hcorrelation : task.correlationId with
      | none => rfl
      | some correlationId =>
        exact (h ⟨hfinished, by rw [hid]; rfl, by rw [hcorrelation]; rfl⟩).elim

theorem consult_legible {id correlationId : String} (hfinished : task.isFinished = true)
    (hid : task.idSegment = some id) (hcorrelation : task.correlationId = some correlationId) :
    consult upi (task :: tasks) r =
      if correlationId ∈ r.seen then consult upi tasks r
      else
        let r := { r with seen := correlationId :: r.seen }
        match r.kept.get id with
        | some result => consult upi tasks (r.judge upi task result)
        | none =>
          if r.networkReads < maxResultReads then
            match readFinishedResult r.kept id with
            | .error e => .error e
            | .ok (result, kept) =>
              let r := { r with networkReads := r.networkReads + 1, kept }
              consult upi tasks (r.judge upi task result)
          else consult upi tasks { r with exhaustive := false } := by
  rw [consult, hfinished, hid, hcorrelation]
  rfl

/-- A lookup misses nothing exactly if every task is legible and its results can be had; then it
has found the first tasks of their correlation ids that report the identifier. -/
theorem consult_definite_iff {found : List (Task × TaskResult)} :
    (∃ r', consult upi tasks r = .ok r' ∧ r'.exhaustive = true ∧ r'.found = found) ↔
      r.exhaustive = true ∧ (∀ task ∈ tasks, Legible task) ∧
        Answered (maxResultReads - r.networkReads) r.kept (firsts r.seen tasks) ∧
          found = r.found ++ reporting registry upi (firsts r.seen tasks) := by
  induction tasks generalizing r with
  | nil =>
    have hnone : reporting registry upi (firsts r.seen []) = [] := rfl
    rw [hnone, List.append_nil]
    constructor
    · rintro ⟨_, ⟨⟩, hr, rfl⟩
      exact ⟨hr, List.forall_mem_nil _, trivial, rfl⟩
    · rintro ⟨hr, -, -, rfl⟩
      exact ⟨r, rfl, hr, rfl⟩
  | cons task tasks ih =>
    by_cases hlegible : Legible task
    · obtain ⟨id, correlationId, hid, hcorrelation, hresult⟩ :=
        legible_resultOf registry hlegible
      have hall : (∀ t ∈ task :: tasks, Legible t) ↔ ∀ t ∈ tasks, Legible t := by
        rw [List.forall_mem_cons]
        exact and_iff_right hlegible
      rw [consult_legible hlegible.finished hid hcorrelation, hall]
      by_cases hseen : correlationId ∈ r.seen
      · rw [if_pos hseen, firsts_seen hcorrelation hseen]
        exact ih
      · rw [if_neg hseen, firsts_new hcorrelation hseen, reporting_cons hresult]
        dsimp only
        cases hkept : r.kept.get id with
        | some result =>
          obtain rfl := Kept.get_eq hkept
          have hanswered : Answered (maxResultReads - r.networkReads) r.kept
              (task :: firsts (correlationId :: r.seen) tasks) ↔
                Answered (maxResultReads - r.networkReads) r.kept
                  (firsts (correlationId :: r.seen) tasks) := by
            simp [Answered, hid, hkept]
          rw [hanswered]
          dsimp only
          rw [ih]
          simp only [judge_found, judge_exhaustive, judge_seen, judge_networkReads, judge_kept,
            List.append_assoc]
        | none =>
          dsimp only
          by_cases hbudget : r.networkReads < maxResultReads
          · rw [if_pos hbudget]
            have hleft : maxResultReads - r.networkReads =
              maxResultReads - (r.networkReads + 1) + 1 := by omega
            cases houtage : registry.resultOutage id with
            | some e =>
              refine iff_of_false ?_ ?_
              · rintro ⟨r', h, -⟩
                rw [readFinishedResult, houtage] at h
                cases h
              · rintro ⟨-, -, hanswered, -⟩
                simp [Answered, hid, hkept, houtage] at hanswered
            | none =>
              have hanswered : Answered (maxResultReads - r.networkReads) r.kept
                  (task :: firsts (correlationId :: r.seen) tasks) ↔
                    Answered (maxResultReads - (r.networkReads + 1)) (r.kept.learn id)
                      (firsts (correlationId :: r.seen) tasks) := by
                rw [hleft]
                simp [Answered, hid, hkept, houtage]
              rw [hanswered, readFinishedResult, houtage]
              dsimp only
              rw [ih]
              simp only [judge_found, judge_exhaustive, judge_seen, judge_networkReads, judge_kept,
                List.append_assoc]
          · rw [if_neg hbudget]
            refine iff_of_false ?_ ?_
            · rintro ⟨r', h, hr', -⟩
              cases consult_exhaustive h hr'
            · rintro ⟨-, -, hanswered, -⟩
              have hnone : maxResultReads - r.networkReads = 0 := by omega
              simp [Answered, hid, hkept, hnone] at hanswered
    · rw [consult_illegible hlegible]
      refine iff_of_false ?_ fun h => hlegible (h.2.1 task List.mem_cons_self)
      rintro ⟨r', h, hr', -⟩
      cases consult_exhaustive h hr'

end Consulting

section Listing

variable {registry : Registry} {task : Task} {tasks : List Task} {search : TaskSearch}

theorem mem_listAt {k : ℕ} (h : task ∈ registry.listAt k) :
    task ∈ registry.tasks ∨ ∃ j, task ∈ registry.arrivals j := by
  induction k with
  | zero => exact .inl h
  | succ k ih =>
    rcases List.mem_append.mp h with harrived | hbefore
    · exact .inr ⟨k, harrived⟩
    · exact ih hbefore

theorem mem_taskPage {k page : ℕ} {answer : TaskPage} (h : registry.taskPage k page = .ok answer)
    (htask : task ∈ answer.content) : task ∈ registry.listAt k := by
  unfold Registry.taskPage at h
  split at h
  · cases h
  · cases h
    exact List.mem_of_mem_drop (List.mem_of_mem_take htask)

/-- A lookup reads what the registry lists, then or later. -/
theorem mem_readPages {isHit : Task → Bool} {totalUnknown complete : Bool} {k : ℕ} {pages : List ℕ}
    (h : readPages registry isHit totalUnknown k tasks complete pages = .ok search)
    (htasks : ∀ t ∈ tasks, ∃ j, t ∈ registry.listAt j) (htask : task ∈ search.tasks) :
    ∃ j, task ∈ registry.listAt j := by
  induction pages generalizing k tasks with
  | nil =>
    cases h
    exact htasks task htask
  | cons page pages ih =>
    obtain ⟨answer, hpage, h⟩ := bind_ok h
    have hmore : ∀ t ∈ tasks ++ answer.content, ∃ j, t ∈ registry.listAt j := by
      intro t ht
      rcases List.mem_append.mp ht with ht | ht
      · exact htasks t ht
      · exact ⟨k, mem_taskPage hpage ht⟩
    dsimp only at h
    split at h
    · cases h
      exact hmore task htask
    · split at h
      · cases h
        exact hmore task htask
      · exact ih h hmore

theorem mem_searchTasks {isHit : Task → Bool} (h : searchTasks registry isHit = .ok search)
    (htask : task ∈ search.tasks) : ∃ j, task ∈ registry.listAt j := by
  obtain ⟨first, hfirst, h⟩ := bind_ok h
  have hlisted : ∀ t ∈ first.content, ∃ j, t ∈ registry.listAt j := fun t ht =>
    ⟨0, mem_taskPage hfirst ht⟩
  dsimp only at h
  split at h
  · exact mem_readPages h hlisted htask
  · cases h
    exact hlisted task htask

structure Still (registry : Registry) : Prop where
  full : ∀ k, registry.pageLength k = taskPageSize
  quiet : ∀ k, registry.arrivals k = []

theorem Still.listAt (h : Still registry) (k : ℕ) : registry.listAt k = registry.tasks := by
  induction k with
  | zero => rfl
  | succ k ih => rw [Registry.listAt, h.quiet, ih, List.nil_append]

theorem Still.page (h : Still registry) {k page : ℕ} {answer : TaskPage}
    (hpage : registry.taskPage k page = .ok answer) :
    answer.content = (registry.tasks.drop (page * taskPageSize)).take taskPageSize ∧
      answer.totalElements = if registry.statesTotal then some registry.tasks.length else none := by
  unfold Registry.taskPage at hpage
  split at hpage
  · cases hpage
  · cases hpage
    rw [h.listAt, h.full]
    exact ⟨rfl, rfl⟩

/-- Pages read in their order make up the front of the list, or all of it where one is short. -/
theorem Still.readPages (h : Still registry) {totalUnknown complete : Bool} {k count : ℕ}
    (hread : readPages registry (fun _ => false) totalUnknown k
      (registry.tasks.take (k * taskPageSize)) complete (List.range' k count) = .ok search) :
    search.tasks = registry.tasks ∨ search.complete = complete ∧
      search.tasks = registry.tasks.take ((k + count) * taskPageSize) := by
  induction count generalizing k with
  | zero =>
    cases hread
    exact .inr ⟨rfl, rfl⟩
  | succ count ih =>
    rw [List.range'_succ] at hread
    obtain ⟨answer, hpage, hread⟩ := bind_ok hread
    obtain ⟨hcontent, -⟩ := h.page hpage
    have hfront : registry.tasks.take (k * taskPageSize) ++ answer.content =
        registry.tasks.take ((k + 1) * taskPageSize) := by
      rw [hcontent, Nat.add_mul, Nat.one_mul, List.take_add]
    have hnohit : answer.content.findIdx? (fun _ => false) = none := by simp
    dsimp only at hread
    rw [hfront, hnohit] at hread
    dsimp only [Option.map_none] at hread
    split at hread
    next hshort =>
      cases hread
      have hlength : answer.content.length < taskPageSize := by
        simp only [Bool.and_eq_true, decide_eq_true_eq] at hshort
        exact hshort.2
      rw [hcontent, List.length_take, List.length_drop] at hlength
      refine .inl (List.take_of_length_le ?_)
      rw [Nat.add_mul, Nat.one_mul]
      omega
    next =>
      have hrest := ih hread
      rwa [Nat.add_assoc, Nat.add_comm 1 count] at hrest

/-- Of a list whose length is known, a page that is short says nothing. -/
theorem readPages_complete {isHit : Task → Bool} {complete : Bool} {k : ℕ} {pages : List ℕ}
    (h : readPages registry isHit false k tasks complete pages = .ok search) :
    search.complete = complete := by
  induction pages generalizing k tasks with
  | nil =>
    cases h
    rfl
  | cons page pages ih =>
    obtain ⟨answer, -, h⟩ := bind_ok h
    dsimp only at h
    split at h
    · cases h
      rfl
    · rw [Bool.false_and] at h
      exact ih h

/-- A plan that covers a list reads its pages in their order. -/
theorem planPages_covers {total pageSize cap : ℕ} {order : ListOrder}
    (h : (planPages (some total) pageSize cap order).coversAll = true) :
    (planPages (some total) pageSize cap order).pages =
      List.range' 1 ((total + (max pageSize 1 - 1)) / max pageSize 1 - 1) := by
  unfold planPages at h ⊢
  dsimp only at h ⊢
  split at h
  next hcap => rw [if_pos hcap]
  next => cases order <;> cases h

/-- A search of such a registry that counts the list as covered has read it. -/
theorem Still.covered (h : Still registry)
    (hsearch : searchTasks registry (fun _ => false) = .ok search)
    (hcomplete : search.complete = true) : search.tasks = registry.tasks := by
  obtain ⟨first, hfirst, hsearch⟩ := bind_ok hsearch
  obtain ⟨hcontent, htotal⟩ := h.page hfirst
  rw [Nat.zero_mul, List.drop_zero] at hcontent
  have hfront : first.content = registry.tasks.take (1 * taskPageSize) := by
    rw [hcontent, Nat.one_mul]
  have hnohit : first.content.findIdx? (fun _ => false) = none := by simp
  dsimp only at hsearch
  rw [hnohit, htotal] at hsearch
  cases hstates : registry.statesTotal with
  | true =>
    simp only [hstates, if_true, Option.isNone_some, Option.isNone_none, Bool.false_and,
      Bool.not_false, Bool.and_self, Bool.false_or] at hsearch
    have hcovers := (readPages_complete hsearch).symm.trans hcomplete
    rw [planPages_covers hcovers, hfront] at hsearch
    rcases h.readPages hsearch with hall | ⟨-, hread⟩
    · exact hall
    · rw [hread]
      refine List.take_of_length_le ?_
      have hsize : taskPageSize = 50 := rfl
      rw [hsize, Nat.max_eq_left (by omega : 1 ≤ 50)]
      omega
  | false =>
    simp only [hstates, Option.isNone_none, Bool.true_and] at hsearch
    by_cases hshort : first.content.length < taskPageSize
    · simp only [hshort, decide_true, Bool.false_eq_true, if_false] at hsearch
      cases hsearch
      rw [hcontent, List.length_take] at hshort
      rw [hcontent]
      exact List.take_of_length_le (by omega)
    · simp only [hshort, decide_false] at hsearch
      rw [hfront] at hsearch
      rcases h.readPages hsearch with hall | ⟨huncovered, -⟩
      · exact hall
      · rw [hcomplete] at huncovered
        cases huncovered

end Listing

section Candidates

variable {registry : Registry} {upi : String} {task : Task} {tasks listed : List Task}
  {seen : List String}

theorem mem_firsts (h : task ∈ firsts seen tasks) :
    task ∈ tasks ∧ ∀ correlationId ∈ seen, task.correlationId ≠ some correlationId := by
  induction tasks generalizing seen with
  | nil => cases h
  | cons head tasks ih =>
    unfold firsts at h
    split at h
    · obtain ⟨hmem, hseen⟩ := ih h
      exact ⟨List.mem_cons_of_mem _ hmem, hseen⟩
    next correlationId hhead =>
      split at h
      · obtain ⟨hmem, hseen⟩ := ih h
        exact ⟨List.mem_cons_of_mem _ hmem, hseen⟩
      next hnew =>
        rcases List.mem_cons.mp h with rfl | hlater
        · refine ⟨List.mem_cons_self, ?_⟩
          intro c hc heq
          rw [hhead] at heq
          cases heq
          exact hnew hc
        · obtain ⟨hmem, hseen⟩ := ih hlater
          exact ⟨List.mem_cons_of_mem _ hmem, fun c hc => hseen c (List.mem_cons_of_mem _ hc)⟩

theorem firsts_nodup (seen : List String) (tasks : List Task) : (firsts seen tasks).Nodup := by
  induction tasks generalizing seen with
  | nil => exact List.nodup_nil
  | cons head tasks ih =>
    unfold firsts
    split
    · exact ih seen
    next correlationId hhead =>
      split
      · exact ih seen
      · refine List.nodup_cons.mpr ⟨fun hmem => ?_, ih _⟩
        exact (mem_firsts hmem).2 correlationId List.mem_cons_self hhead

theorem firsts_of_nodup (hnamed : ∀ t ∈ tasks, t.correlationId.isSome)
    (hnodup : (tasks.map (·.correlationId)).Nodup)
    (hnew : ∀ t ∈ tasks, ∀ correlationId ∈ seen, t.correlationId ≠ some correlationId) :
    firsts seen tasks = tasks := by
  induction tasks generalizing seen with
  | nil => rfl
  | cons task tasks ih =>
    obtain ⟨correlationId, hcorrelation⟩ :=
      Option.isSome_iff_exists.mp (hnamed task List.mem_cons_self)
    have hunseen : correlationId ∉ seen := fun hseen =>
      hnew task List.mem_cons_self correlationId hseen hcorrelation
    obtain ⟨hhead, hrest⟩ := List.nodup_cons.mp hnodup
    rw [firsts_new hcorrelation hunseen,
      ih (fun t ht => hnamed t (List.mem_cons_of_mem _ ht)) hrest]
    intro t ht c hc heq
    rcases List.mem_cons.mp hc with rfl | hc
    · exact hhead (List.mem_map.mpr ⟨t, ht, heq.trans hcorrelation.symm⟩)
    · exact hnew t (List.mem_cons_of_mem _ ht) c hc heq

theorem mem_candidates (h : task ∈ candidates listed) :
    task ∈ listed ∧ task.isRegistration = true :=
  List.mem_filter.mp (mem_firsts h).1

theorem mem_reporting {result : TaskResult} : (task, result) ∈ reporting registry upi tasks ↔
    task ∈ tasks ∧ registry.resultOf task = some result ∧
      upi ∈ result.uniqueProductIdentifiers := by
  unfold reporting
  rw [List.mem_filterMap]
  constructor
  · rintro ⟨other, hmem, hsome⟩
    obtain ⟨found, hfound, hupi⟩ := Option.bind_eq_some_iff.mp hsome
    split at hupi
    next hin =>
      cases hupi
      exact ⟨hmem, hfound, hin⟩
    next => cases hupi
  · rintro ⟨hmem, hresult, hupi⟩
    refine ⟨task, hmem, ?_⟩
    rw [hresult, Option.bind_some, if_pos hupi]

theorem reports_iff_mem (hmem : task ∈ tasks) :
    Reports registry upi task ↔ ∃ result, (task, result) ∈ reporting registry upi tasks := by
  constructor
  · rintro ⟨result, hresult, hupi⟩
    exact ⟨result, mem_reporting.mpr ⟨hmem, hresult, hupi⟩⟩
  · rintro ⟨result, h⟩
    obtain ⟨-, hresult, hupi⟩ := mem_reporting.mp h
    exact ⟨result, hresult, hupi⟩

theorem reporting_nodup (registry : Registry) (upi : String) (h : tasks.Nodup) :
    ((reporting registry upi tasks).map Prod.fst).Nodup := by
  induction tasks with
  | nil => exact List.nodup_nil
  | cons task tasks ih =>
    obtain ⟨hnew, hrest⟩ := List.nodup_cons.mp h
    cases hresult : registry.resultOf task with
    | none =>
      have hskip : reporting registry upi (task :: tasks) = reporting registry upi tasks := by
        simp [reporting, hresult]
      rw [hskip]
      exact ih hrest
    | some result =>
      rw [reporting_cons hresult]
      split
      · refine List.nodup_cons.mpr ⟨?_, ih hrest⟩
        intro hmem
        obtain ⟨⟨other, found⟩, hother, rfl⟩ := List.mem_map.mp hmem
        exact hnew (mem_reporting.mp hother).1
      · exact ih hrest

end Candidates

section Answers

variable {registry : Registry} {kept : Kept registry} {upi : String} {task : Task}
  {listed : List Task} {answer : Except String SubmissionLookup}

def answerTo : List (Task × TaskResult) → SubmissionLookup
  | [] => .notFound true
  | [(task, result)] => .found (task.correlationId.getD "") (reportFor task (some result))
  | several => .ambiguous (several.filterMap (·.1.correlationId))

theorem find_definite (h : Definite kept listed) : findSubmission registry kept upi =
    .ok (answerTo (reporting registry upi (candidates listed))) := by
  obtain ⟨search, hsearch, rfl, hcomplete⟩ := h.counted
  have hlegible : ∀ t ∈ search.tasks.filter (·.isRegistration), Legible t := fun t ht =>
    h.legible t (List.mem_filter.mp ht).1 (List.mem_filter.mp ht).2
  obtain ⟨r, hr, hexhaustive, hfound⟩ := consult_definite_iff (r := ⟨true, [], [], 0, kept⟩).mpr
    ⟨rfl, hlegible, h.answered, rfl⟩
  rw [List.nil_append] at hfound
  unfold findSubmission
  rw [hsearch]
  simp only [bind, Except.bind]
  rw [hcomplete, hr]
  dsimp only
  rw [hfound, hexhaustive]
  unfold candidates
  rcases reporting registry upi (firsts [] (search.tasks.filter (·.isRegistration))) with
    _ | ⟨⟨task, result⟩, _ | ⟨second, rest⟩⟩
  · rfl
  · rfl
  · rfl

theorem find_indefinite (h : ∀ listed, ¬Definite kept listed) :
    Truthful registry upi (findSubmission registry kept upi) := by
  unfold findSubmission
  cases hsearch : searchTasks registry fun _ => false with
  | error e => trivial
  | ok search =>
    simp only [bind, Except.bind]
    cases hr : consult upi (search.tasks.filter (·.isRegistration))
        (⟨search.complete, [], [], 0, kept⟩ : Reading registry) with
    | error e => trivial
    | ok r =>
      have hmissed : r.exhaustive = false := by
        by_contra hexhaustive
        rw [Bool.not_eq_false] at hexhaustive
        obtain ⟨hcomplete, hlegible, hanswered, -⟩ :=
          consult_definite_iff.mp ⟨r, hr, hexhaustive, rfl⟩
        exact h search.tasks
          { counted := ⟨search, hsearch, rfl, hcomplete⟩
            legible := fun t ht hkind => hlegible t (List.mem_filter.mpr ⟨ht, hkind⟩)
            answered := hanswered }
      dsimp only
      rw [hmissed]
      rcases r.found with _ | ⟨⟨task, result⟩, _ | ⟨second, rest⟩⟩ <;> trivial

theorem mem_registrations : task ∈ registry.registrations ↔
    task ∈ registry.tasks ∧ task.isRegistration = true := List.mem_filter

/-- Nothing reports the identifier: the answer is right if what was read is whole and what was
not read is ruled out. -/
theorem truthful_notFound_iff
    (hnone : ∀ t ∈ candidates listed, ¬Reports registry upi t) :
    Truthful registry upi (.ok (.notFound true)) ↔ Sound registry upi listed := by
  constructor
  · intro hruled
    constructor
    case absent =>
      refine fun _ => ⟨fun t ht htasks => ?_, fun t ht => hruled t ht.1⟩
      obtain ⟨result, hresult, hcomplete, -⟩ :=
        hruled t (mem_registrations.mpr ⟨htasks, (mem_candidates ht).2⟩)
      exact ⟨result, hresult, hcomplete⟩
    case unique => exact fun t ht hreports => (hnone t ht hreports).elim
  · intro hsound t ht
    obtain ⟨hcomplete, hoverlooked⟩ := hsound.absent hnone
    by_cases hcandidate : t ∈ candidates listed
    · obtain ⟨result, hresult, hwhole⟩ := hcomplete t hcandidate (mem_registrations.mp ht).1
      exact ⟨result, hresult, hwhole, fun hupi => hnone t hcandidate ⟨result, hresult, hupi⟩⟩
    · exact hoverlooked t ⟨ht, hcandidate⟩

/-- A task of the list is not answered for by one that came later. -/
theorem candidate_on_list (h : Definite kept listed) (htask : task ∈ candidates listed)
    {other : Task} (hother : other ∈ registry.tasks)
    (hsame : other.correlationId = some (task.correlationId.getD "")) : task ∈ registry.tasks := by
  obtain ⟨hlisted, hkind⟩ := mem_candidates htask
  obtain ⟨search, hsearch, rfl, -⟩ := h.counted
  obtain ⟨k, hk⟩ := mem_searchTasks hsearch hlisted
  obtain ⟨correlationId, hcorrelation⟩ :=
    Option.isSome_iff_exists.mp (h.legible task hlisted hkind).named
  rcases mem_listAt hk with hmem | ⟨j, hnew⟩
  · exact hmem
  · rw [hcorrelation, Option.getD_some] at hsame
    have hfresh := registry.fresh j task hnew other hother (hcorrelation.trans hsame.symm)
    rw [hcorrelation] at hfresh
    cases hfresh

theorem truthful_found_iff (h : Definite kept listed) {report : SubmissionReport}
    (htask : task ∈ candidates listed) (hreports : Reports registry upi task)
    (honly : ∀ t ∈ candidates listed, t ≠ task → ¬Reports registry upi t) :
    Truthful registry upi (.ok (.found (task.correlationId.getD "") report)) ↔
      Sound registry upi listed := by
  have hkind := (mem_candidates htask).2
  constructor
  · rintro ⟨t, ht, -, hsame, hothers⟩
    have hmem := candidate_on_list h htask (mem_registrations.mp ht).1 hsame
    have heq : t = task := by
      by_contra hne
      obtain ⟨result, hresult, -, hupi⟩ :=
        hothers task (mem_registrations.mpr ⟨hmem, hkind⟩) (Ne.symm hne)
      obtain ⟨result', hresult', hupi'⟩ := hreports
      cases Option.mem_unique hresult hresult'
      exact hupi hupi'
    subst heq
    constructor
    case absent => exact fun hnone => (hnone t htask hreports).elim
    case unique =>
      intro m hm hmreports _
      have hmt : m = t := by
        by_contra hne
        exact honly m hm hne hmreports
      subst hmt
      refine ⟨hmem, fun other hother hlist hne => ?_, fun other hother => ?_⟩
      · obtain ⟨result, hresult, hnames, -⟩ :=
          hothers other (mem_registrations.mpr ⟨hlist, (mem_candidates hother).2⟩) hne
        exact ⟨result, hresult, hnames⟩
      · refine hothers other hother.1 ?_
        rintro rfl
        exact hother.2 htask
  · intro hsound
    obtain ⟨hmem, hnamed, hoverlooked⟩ := hsound.unique task htask hreports honly
    obtain ⟨correlationId, hcorrelation⟩ := Option.isSome_iff_exists.mp
      (h.legible task (mem_candidates htask).1 hkind).named
    refine ⟨task, mem_registrations.mpr ⟨hmem, hkind⟩, hreports, ?_, fun other hother hne => ?_⟩
    · rw [hcorrelation]
      rfl
    · by_cases hcandidate : other ∈ candidates listed
      · obtain ⟨result, hresult, hnames⟩ :=
          hnamed other hcandidate (mem_registrations.mp hother).1 hne
        exact ⟨result, hresult, hnames,
          fun hupi => honly other hcandidate hne ⟨result, hresult, hupi⟩⟩
      · exact hoverlooked other ⟨hother, hcandidate⟩

theorem truthful_definite_iff (h : Definite kept listed) :
    Truthful registry upi (findSubmission registry kept upi) ↔ Sound registry upi listed := by
  have hnodup : ((reporting registry upi (candidates listed)).map Prod.fst).Nodup :=
    reporting_nodup registry upi (firsts_nodup [] _)
  rw [find_definite h]
  match hfound : reporting registry upi (candidates listed) with
  | [] =>
    refine truthful_notFound_iff fun t ht hreports => ?_
    obtain ⟨result, hresult⟩ := (reports_iff_mem ht).mp hreports
    rw [hfound] at hresult
    cases hresult
  | [(task, result)] =>
    have hmem : (task, result) ∈ reporting registry upi (candidates listed) := by
      rw [hfound]
      exact List.mem_singleton_self _
    obtain ⟨htask, hresult, hupi⟩ := mem_reporting.mp hmem
    refine truthful_found_iff h htask ⟨result, hresult, hupi⟩ fun t ht hne hreports => ?_
    obtain ⟨other, hother⟩ := (reports_iff_mem ht).mp hreports
    rw [hfound, List.mem_singleton] at hother
    exact hne (congrArg Prod.fst hother)
  | first :: second :: rest =>
    rw [hfound] at hnodup
    have hdifferent : first.1 ≠ second.1 := by
      intro heq
      simp [heq] at hnodup
    have hreports : ∀ e ∈ first :: second :: rest, e.1 ∈ candidates listed ∧
        Reports registry upi e.1 := by
      intro e he
      rw [← hfound] at he
      obtain ⟨htask, hresult, hupi⟩ := mem_reporting.mp he
      exact ⟨htask, e.2, hresult, hupi⟩
    have hfirst := hreports first List.mem_cons_self
    have hsecond := hreports second (List.mem_cons_of_mem _ List.mem_cons_self)
    refine iff_of_true trivial ⟨fun hnone => (hnone _ hfirst.1 hfirst.2).elim, ?_⟩
    intro t _ _ honly
    by_cases heq : first.1 = t
    · exact (honly second.1 hsecond.1 (fun h2 => hdifferent (heq.trans h2.symm)) hsecond.2).elim
    · exact (honly first.1 hfirst.1 heq hfirst.2).elim

/-- A lookup is right exactly when what it takes for granted holds, wherever nothing keeps it from a
definite answer. -/
theorem lookup_truthful_iff (registry : Registry) (kept : Kept registry) (upi : String) :
    Truthful registry upi (findSubmission registry kept upi) ↔
      ∀ listed, Definite kept listed → Sound registry upi listed := by
  constructor
  · intro h listed hdefinite
    exact (truthful_definite_iff hdefinite).mp h
  · intro h
    by_cases hdefinite : ∃ listed, Definite kept listed
    · obtain ⟨listed, hlisted⟩ := hdefinite
      exact (truthful_definite_iff hlisted).mpr (h listed hlisted)
    · exact find_indefinite fun listed hlisted => hdefinite ⟨listed, hlisted⟩

/-- A lookup is right about a registry that stands still, tells its submissions apart and has whole
results. -/
theorem lookup_of_still (h : Still registry)
    (hdistinct : (registry.registrations.map (·.correlationId)).Nodup)
    (hwhole : ∀ t ∈ registry.registrations, ∀ result ∈ registry.resultOf t,
      result.isComplete = true ∧ result.itemDetails ≠ []) :
    Truthful registry upi (findSubmission registry kept upi) := by
  by_cases hdefinite : ∃ listed, Definite kept listed
  · obtain ⟨listed, hlisted⟩ := hdefinite
    obtain ⟨search, hsearch, rfl, hcomplete⟩ := hlisted.counted
    have hread := h.covered hsearch hcomplete
    have hlegible : ∀ t ∈ registry.registrations, Legible t := by
      intro t ht
      obtain ⟨hmem, hkind⟩ := mem_registrations.mp ht
      exact hlisted.legible t (hread ▸ hmem) hkind
    have hcandidates : candidates search.tasks = registry.registrations := by
      rw [candidates, hread]
      exact firsts_of_nodup (fun t ht => (hlegible t ht).named) hdistinct
        fun _ _ => List.forall_mem_nil _
    have hresult : ∀ t ∈ registry.registrations, ∃ result ∈ registry.resultOf t,
        result.isComplete = true ∧ result.itemDetails ≠ [] := by
      intro t ht
      obtain ⟨id, -, -, -, hresult⟩ := legible_resultOf registry (hlegible t ht)
      exact ⟨_, hresult, hwhole t ht _ hresult⟩
    have hnone (t : Task) : ¬Overlooked registry search.tasks t := fun ht =>
      ht.2 (hcandidates ▸ ht.1)
    rw [truthful_definite_iff hlisted]
    constructor
    case absent =>
      refine fun _ => ⟨fun t ht _ => ?_, fun t ht => (hnone t ht).elim⟩
      obtain ⟨result, hmem, hcomplete, -⟩ := hresult t (hcandidates ▸ ht)
      exact ⟨result, hmem, hcomplete⟩
    case unique =>
      intro t ht _ _
      have hlist := (mem_registrations.mp (hcandidates ▸ ht)).1
      refine ⟨hlist, fun other hother _ _ => ?_, fun other hother => (hnone other hother).elim⟩
      obtain ⟨result, hmem, -, hnames⟩ := hresult other (hcandidates ▸ hother)
      exact ⟨result, hmem, hnames⟩
  · exact find_indefinite fun listed hlisted => hdefinite ⟨listed, hlisted⟩

def finishedTask : Task := ⟨.text "7", some "CORR-1", some registrationTaskType, some .success, none⟩

def reportless : Registry where
  tasks := [finishedTask]
  arrivals _ := []
  fresh := nofun
  pageLength _ := 50
  statesTotal := true
  pageOutage _ := none
  result _ := ⟨some .success, none⟩
  resultOutage _ := none
  parseRfc3339 _ := none

/-- A result that names no passport yet is taken for one that names others. -/
theorem unnamed_result_reads_as_absent :
    ¬Truthful reportless "https://id.example.com/01/09506000134352"
      (findSubmission reportless ⟨[], nofun⟩ "https://id.example.com/01/09506000134352") := by
  have hanswer : findSubmission reportless ⟨[], nofun⟩ "https://id.example.com/01/09506000134352" =
      .ok (.notFound true) := by decide +kernel
  rw [hanswer]
  intro h
  obtain ⟨result, hresult, hcomplete, -⟩ := h finishedTask (by decide)
  have hempty : reportless.resultOf finishedTask = some ⟨some .success, none⟩ := by rfl
  cases Option.mem_unique hresult hempty
  exact absurd hcomplete (by decide)

end Answers

end SubmissionLookups
