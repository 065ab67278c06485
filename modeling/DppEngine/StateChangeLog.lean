import DppEngine.AuditTrail
import DppEngine.PassportModel

/-! The state-change log: one transaction writes the passport row and appends the
audit entry. Every transaction holds the row lock, so each is one atomic step on
the stored row. Scalar columns are projections of the document; those no modelled
query reads are left out. -/
namespace StateChangeLog

open JsonValues PassportModel AuditTrail FallibleSteps

structure Row where
  id : PassportId
  status : PassportStatus
  retentionLocked : Bool
  publishedAt : Option Int
  updatedAt : Int
  doc : Doc
  deriving DecidableEq, Repr

inductive PassportWrite where
  | insert (passport : Passport)
  | replace (passport : Passport)
  | status (id : PassportId) (status : PassportStatus)
  | patch (id : PassportId) (delta : Doc)
  deriving DecidableEq, Repr

structure StateChange where
  passport : PassportWrite
  audit : PassportAuditEntry
  deriving DecidableEq, Repr

structure Store where
  row : Option Row
  trail : List PassportAuditEntry
  deriving DecidableEq, Repr

def mutableKeys : List String :=
  ["status", "jwsSignature", "publicJwsSignature", "disclosureSignatures", "seal", "qrCodeUrl",
    "publishedAt", "retentionLocked", "updatedAt", "lintResult"]

/-- The trigger on every update of a passport row. -/
def passportRetentionGuard (old : Row) (new : Doc) : Except DppError Unit :=
  if old.retentionLocked ∧ ¬ Doc.SameExcept mutableKeys old.doc new then .error .retentionLocked
  else .ok ()

/-- `COALESCE` of what the written document projects onto the stored column. -/
def column {α : Type} (read : Json → Option α) (key : String) (written : Doc) (stored : α) : α :=
  ((written.get key).bind read).getD stored

section Writes

variable (readContent : Doc → Except DppError Doc)

def readDoc (row : Row) : Except DppError Passport := fromStored readContent row.id row.doc

/-- What an update sends: the whole record for a draft, and on a locked row only
the members that differ from a fresh reading of it. -/
def writtenDoc (row : Row) (p : Passport) : Except DppError Doc :=
  if row.retentionLocked then do
    let reading ← readDoc readContent row
    return ({ p with retentionLocked := true } : Passport).toDoc.changedFrom reading.toDoc
  else return p.toDoc

def updateInTx (stored : Option Row) (p : Passport) (txNow : Int) : Except DppError Row :=
  match stored with
  | none => .error (.notFound (PassportId.text p.id))
  | some row => do
    let written ← writtenDoc readContent row p
    passportRetentionGuard row (row.doc.merge written)
    return {
      id := row.id
      status := column asStatus "status" written row.status
      retentionLocked := column Json.asBool "retentionLocked" written row.retentionLocked
      publishedAt := ((written.get "publishedAt").bind Json.asInstant).or row.publishedAt
      updatedAt := txNow
      doc := row.doc.merge written }

def insertPassportInTx (stored : Option Row) (p : Passport) (txNow : Int) :
    Except DppError Row :=
  match stored with
  | some _ => .error (.internal "database: duplicate key value violates unique constraint")
  | none => .ok {
      id := p.id
      status := column asStatus "status" p.toDoc .draft
      retentionLocked := column Json.asBool "retentionLocked" p.toDoc false
      publishedAt := (p.toDoc.get "publishedAt").bind Json.asInstant
      updatedAt := txNow
      doc := p.toDoc }

-- `dpp_domain::PROTECTED_PATCH_FIELDS`, with `componentRefs` taken out.
variable (isProtectedPatchField : String → Bool)

def refuseProtected (delta : Doc) : Except DppError Unit :=
  match (delta.map Prod.fst).filter isProtectedPatchField with
  | [] => .ok ()
  | forbidden => .error (.validation ""
      ("patch_fields cannot modify protected field(s): " ++
        String.intercalate ", " (forbidden.insertionSort (· ≤ ·))))

/-- A `null` removes the key. -/
def applyDelta (doc delta : Doc) : Doc :=
  delta.foldl (fun d m => if m.2 = .null then d.remove m.1 else d.insert m.1 m.2) doc

def patchInTx (stored : Option Row) (id : PassportId) (delta : Doc) (txNow : Int) :
    Except DppError Row := do
  refuseProtected isProtectedPatchField delta
  match stored with
  | none => .error (.notFound (PassportId.text id))
  | some row =>
    let doc := applyDelta row.doc delta
    let _ ← fromStored readContent row.id doc
    passportRetentionGuard row doc
    return { row with doc, updatedAt := txNow }

def writePassport (stored : Option Row) (now txNow : Int) : PassportWrite → Except DppError Row
  | .insert p => insertPassportInTx stored p txNow
  | .replace p => updateInTx readContent stored p txNow
  | .status id status =>
    match stored with
    | none => .error (.notFound (PassportId.text id))
    | some row => do
      let p ← readDoc readContent row
      if p.status.canTransitionTo status then
        updateInTx readContent (some row) { p with status, updatedAt := now } txNow
      else
        .error (.invalidTransition p.status.toString status.toString)
  | .patch id delta => patchInTx readContent isProtectedPatchField stored id delta txNow

variable (contentHash : ChainContent → String)

def commit (store : Store) (now txNow : Int) (change : StateChange) : Except DppError Store := do
  let row ← writePassport readContent isProtectedPatchField store.row now txNow change.passport
  return { row := some row, trail := appendInTx contentHash store.trail change.audit }

end Writes

section WriteFacts

variable {readContent : Doc → Except DppError Doc} {isProtectedPatchField : String → Bool}
  {row row' : Row} {p : Passport} {written : Doc} {now txNow : Int}

/-- A locked row stays locked whatever the write says. -/
def effective (row : Row) (p : Passport) : Passport :=
  if row.retentionLocked then { p with retentionLocked := true } else p

theorem updateInTx_ok (h : updateInTx readContent (some row) p txNow = .ok row') :
    ∃ written, writtenDoc readContent row p = .ok written ∧
      passportRetentionGuard row (row.doc.merge written) = .ok () ∧
      row' = { id := row.id
               status := column asStatus "status" written row.status
               retentionLocked := column Json.asBool "retentionLocked" written row.retentionLocked
               publishedAt := ((written.get "publishedAt").bind Json.asInstant).or row.publishedAt
               updatedAt := txNow
               doc := row.doc.merge written } := by
  obtain ⟨written, hw, h⟩ := bind_ok h
  obtain ⟨_, hg, h⟩ := bind_ok h
  cases h
  exact ⟨written, hw, hg, rfl⟩

/-- What is sent of a member: on a locked row, nothing that the reading already has. -/
theorem writtenDoc_get (h : writtenDoc readContent row p = .ok written) (k : String) :
    written.get k = (effective row p).toDoc.get k ∨
    (written.get k = none ∧ ∃ reading, readDoc readContent row = .ok reading ∧
      reading.toDoc.get k = (effective row p).toDoc.get k) := by
  unfold writtenDoc at h
  by_cases hl : row.retentionLocked
  · rw [if_pos hl] at h
    obtain ⟨reading, hr, h⟩ := bind_ok h
    simp only [pure, Except.pure, Except.ok.injEq] at h
    subst h
    by_cases hk : reading.toDoc.get k = (effective row p).toDoc.get k
    · refine Or.inr ⟨?_, reading, hr, hk⟩
      simp only [effective, hl, if_true] at hk
      simp [hk]
    · refine Or.inl ?_
      simp only [effective, hl, if_true] at hk ⊢
      simp [hk]
  · rw [if_neg hl] at h
    simp only [pure, Except.pure, Except.ok.injEq] at h
    exact Or.inl (by simp [effective, hl, h])

/-- A typed member of the merged document is the written record's, or, where that has
none, the stored one. -/
theorem merged_field {α : Type} (read : Json → Option α) (write : α → Json) (key : String)
    (field : Passport → Option α) (hwrite : ∀ a, read (write a) = some a)
    (hdoc : ∀ q : Passport, q.toDoc.get key = (field q).map write)
    (hread : ∀ q, readDoc readContent row = .ok q → (row.doc.get key).bind read = field q)
    (h : writtenDoc readContent row p = .ok written) :
    ((row.doc.merge written).get key).bind read =
      (field (effective row p)).or ((row.doc.get key).bind read) := by
  rw [Doc.get_merge]
  rcases writtenDoc_get h key with hw | ⟨hw, reading, hr, hk⟩
  · rw [hw, hdoc]
    cases hf : field (effective row p) with
    | none => simp
    | some a => simp [hwrite]
  · have hfield : field reading = field (effective row p) := by
      rw [hdoc, hdoc] at hk
      cases ha : field reading with
      | none => cases hb : field (effective row p) <;> simp_all
      | some a =>
        cases hb : field (effective row p) with
        | none => simp [ha, hb] at hk
        | some b =>
          have hab : write a = write b := by simpa [ha, hb] using hk
          have := hwrite a
          rw [hab, hwrite b] at this
          exact this.symm
    rw [hw, Option.none_or, hread reading hr, ← hfield, Option.or_self]

def statusOf (doc : Doc) : Option PassportStatus := (doc.get "status").bind asStatus
def lockedOf (doc : Doc) : Option Bool := (doc.get "retentionLocked").bind Json.asBool
def publishedAtOf (doc : Doc) : Option Int := (doc.get "publishedAt").bind Json.asInstant
def retentionUntilOf (doc : Doc) : Option Int := (doc.get "retentionUntil").bind Json.asInstant
def productGroupOf (doc : Doc) : Option String := (doc.get "productGroup").bind Json.asStr
/-- `doc->>'jwsSignature'`, where the member is a text or null, as every write of a record here
leaves it. -/
def jwsOf (doc : Doc) : Option String := (doc.get "jwsSignature").bind Json.asStr
def sealOf (doc : Doc) : Option Json := (doc.get "seal").bind nonNull

/-- The scalar columns are projections of the document. -/
structure Row.Coherent (row : Row) : Prop where
  status : statusOf row.doc = some row.status
  locked : lockedOf row.doc = some row.retentionLocked
  published : publishedAtOf row.doc = row.publishedAt

theorem merged_status (h : writtenDoc readContent row p = .ok written) :
    statusOf (row.doc.merge written) = some p.status := by
  have := merged_field asStatus (fun s => .str s.toString) "status"
    (fun q => some q.status) (fun s => by simp [asStatus, Json.asStr])
    (fun q => by simp) (fun q hq => (fromStored_ok hq).status) h
  rw [statusOf, this]
  by_cases hl : row.retentionLocked <;> simp [effective, hl]

theorem merged_locked (h : writtenDoc readContent row p = .ok written) :
    lockedOf (row.doc.merge written) = some (row.retentionLocked || p.retentionLocked) := by
  have := merged_field Json.asBool .bool "retentionLocked"
    (fun q => some q.retentionLocked) (fun _ => rfl) (fun q => by simp)
    (fun q hq => (fromStored_ok hq).locked) h
  rw [lockedOf, this]
  by_cases hl : row.retentionLocked <;> simp [effective, hl]

theorem merged_publishedAt (h : writtenDoc readContent row p = .ok written) :
    publishedAtOf (row.doc.merge written) = p.publishedAt.or (publishedAtOf row.doc) := by
  have := merged_field Json.asInstant .instant "publishedAt"
    Passport.publishedAt (fun _ => rfl) (fun q => toDoc_get_publishedAt)
    (fun q hq => (fromStored_ok hq).published) h
  rw [publishedAtOf, this]
  by_cases hl : row.retentionLocked <;> simp [effective, hl, publishedAtOf]

theorem merged_retentionUntil (h : writtenDoc readContent row p = .ok written) :
    retentionUntilOf (row.doc.merge written) = p.retentionUntil.or (retentionUntilOf row.doc) := by
  have := merged_field Json.asInstant .instant "retentionUntil"
    Passport.retentionUntil (fun _ => rfl) (fun q => toDoc_get_retentionUntil)
    (fun q hq => (fromStored_ok hq).deadline) h
  rw [retentionUntilOf, this]
  by_cases hl : row.retentionLocked <;> simp [effective, hl, retentionUntilOf]

theorem merged_productGroup (h : writtenDoc readContent row p = .ok written) :
    productGroupOf (row.doc.merge written) = some p.productGroup := by
  have := merged_field Json.asStr .str "productGroup"
    (fun q => some q.productGroup) (fun _ => rfl) (fun q => by simp)
    (fun q hq => (fromStored_ok hq).group) h
  rw [productGroupOf, this]
  by_cases hl : row.retentionLocked <;> simp [effective, hl]

theorem merged_jws (h : writtenDoc readContent row p = .ok written) :
    jwsOf (row.doc.merge written) = p.jwsSignature.or (jwsOf row.doc) := by
  have := merged_field Json.asStr .str "jwsSignature" Passport.jwsSignature (fun _ => rfl)
    (fun q => toDoc_get_jwsSignature) (fun q hq => (fromStored_ok hq).jws) h
  rw [jwsOf, this]
  by_cases hl : row.retentionLocked <;> simp [effective, hl, jwsOf]

/-- A reading never yields a `null` seal, so the records that are written carry none. -/
theorem merged_seal (hp : p.qualifiedSeal.bind nonNull = p.qualifiedSeal)
    (h : writtenDoc readContent row p = .ok written) :
    sealOf (row.doc.merge written) = p.qualifiedSeal.or (sealOf row.doc) := by
  have heff : (effective row p).toDoc.get "seal" = p.qualifiedSeal := by
    by_cases hl : row.retentionLocked <;> simp [effective, hl]
  rw [sealOf, Doc.get_merge]
  rcases writtenDoc_get h "seal" with hw | ⟨hw, reading, hr, hk⟩
  · rw [hw, heff]
    cases hq : p.qualifiedSeal with
    | none => rfl
    | some v => simpa [hq] using hp
  · have hseal : sealOf row.doc = p.qualifiedSeal := by
      rw [heff, toDoc_get_seal] at hk
      exact (fromStored_ok hr).sealed.trans hk
    rw [hw, Option.none_or, hseal, Option.or_self]
    exact hseal

private theorem column_eq {α : Type} {read : Json → Option α} {key : String} {a s : α}
    (hm : ((row.doc.merge written).get key).bind read = some a)
    (hs : (row.doc.get key).bind read = some s) : column read key written s = a := by
  unfold column
  rw [Doc.get_merge] at hm
  cases hw : written.get key with
  | none =>
    rw [hw, Option.none_or, hs] at hm
    simpa using hm
  | some v =>
    rw [hw, Option.some_or, Option.bind_some] at hm
    simp [hm]

private theorem publishedAt_column (hs : publishedAtOf row.doc = row.publishedAt)
    (h : writtenDoc readContent row p = .ok written) :
    ((written.get "publishedAt").bind Json.asInstant).or row.publishedAt =
      p.publishedAt.or row.publishedAt := by
  have hm := merged_publishedAt h
  rw [publishedAtOf, Doc.get_merge, hs] at hm
  rcases writtenDoc_get h "publishedAt" with hw | ⟨hw, -⟩
  · have heff : (effective row p).publishedAt = p.publishedAt := by
      by_cases hl : row.retentionLocked <;> simp [effective, hl]
    rw [hw, toDoc_get_publishedAt, heff]
    cases p.publishedAt <;> simp [Json.asInstant]
  · rw [hw, Option.none_or] at hm
    rw [hw, ← hm]
    exact hs.symm

/-- An update leaves the columns and the typed members as the written record has
them, except that it neither clears a date nor unlocks a row. -/
structure Updated (row : Row) (p : Passport) (txNow : Int) (row' : Row) : Prop where
  id : row'.id = row.id
  stamp : row'.updatedAt = txNow
  coherent : row'.Coherent
  status : row'.status = p.status
  locked : row'.retentionLocked = (row.retentionLocked || p.retentionLocked)
  published : row'.publishedAt = p.publishedAt.or row.publishedAt
  deadline : retentionUntilOf row'.doc = p.retentionUntil.or (retentionUntilOf row.doc)
  group : productGroupOf row'.doc = some p.productGroup
  jws : jwsOf row'.doc = p.jwsSignature.or (jwsOf row.doc)
  sealed : p.qualifiedSeal.bind nonNull = p.qualifiedSeal →
    sealOf row'.doc = p.qualifiedSeal.or (sealOf row.doc)

theorem updateInTx_updated (hc : row.Coherent)
    (h : updateInTx readContent (some row) p txNow = .ok row') : Updated row p txNow row' := by
  obtain ⟨written, hw, -, rfl⟩ := updateInTx_ok h
  have hstatus := column_eq (merged_status hw) hc.status
  have hlocked := column_eq (merged_locked hw) hc.locked
  have hpublished := publishedAt_column hc.published hw
  refine ⟨rfl, rfl, ⟨?_, ?_, ?_⟩, hstatus, hlocked, hpublished, merged_retentionUntil hw,
    merged_productGroup hw, merged_jws hw, fun hp => merged_seal hp hw⟩
  · exact (merged_status hw).trans (congrArg some hstatus.symm)
  · exact (merged_locked hw).trans (congrArg some hlocked.symm)
  · rw [merged_publishedAt hw, hpublished, hc.published]

theorem applyDelta_get {doc delta : Doc} {k : String} (hk : ∀ m ∈ delta, m.1 ≠ k) :
    (applyDelta doc delta).get k = doc.get k := by
  induction delta generalizing doc with
  | nil => rfl
  | cons m delta ih =>
    have hne : k ≠ m.1 := fun h => hk m List.mem_cons_self h.symm
    rw [applyDelta, List.foldl_cons, ← applyDelta, ih fun n hn => hk n (List.mem_cons_of_mem _ hn)]
    by_cases hnull : m.2 = .null
    · simp [hnull, hne]
    · simp [hnull, hne]

/-- A patch that names no typed member leaves every typed member and column alone. -/
theorem patchInTx_ok (id : PassportId) {delta : Doc} (hkeys : ∀ m ∈ delta, m.1 ∉ typedKeys)
    (h : patchInTx readContent isProtectedPatchField (some row) id delta txNow = .ok row') :
    row' = { row with doc := row'.doc, updatedAt := txNow } ∧
      ∀ k ∈ typedKeys, row'.doc.get k = row.doc.get k := by
  obtain ⟨_, -, h⟩ := bind_ok h
  obtain ⟨_, -, h⟩ := bind_ok h
  obtain ⟨_, -, h⟩ := bind_ok h
  cases h
  exact ⟨rfl, fun k hk => applyDelta_get fun m hm heq => hkeys m hm (heq ▸ hk)⟩

end WriteFacts

end StateChangeLog
