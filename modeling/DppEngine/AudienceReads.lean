import DppEngine.CompactTokens
import DppEngine.VersionArchive
import Mathlib.Logic.Relation

/-! The read of a passport for an audience, of the live record and of the record that stood at a
moment.

The moment of a change is the stamp of the database's clock under which it is archived; a first
publish also writes the service's clock into the record. The reading of a stored document is the
core library's and is a parameter. -/
namespace AudienceReads

open JsonValues PassportModel StateChangeLog VersionArchive TransitionSystems PointInTime

section Records

structure Record where
  status : PassportStatus
  publishedAt : Option Int
  createdAt : Int
  productGroup : String
  productCategory : Option String
  publicJwsSignature : Option String
  disclosureSignatures : Doc
  deriving DecidableEq, Repr

def Record.neverPublished (p : Record) : Bool := PassportModel.neverPublished p.status p.publishedAt

inductive Audience where
  | publicAudience | legitimateInterest | authority
  deriving DecidableEq, Repr

inductive OutOfScope where
  | productGroup | productCategory | noProductCategory
  deriving DecidableEq, Repr

/-- A verified credential: who vouched for whom, and what it grants on a product. -/
structure VerifiedCredential where
  issuer : String
  holder : String
  holderName : String
  audienceFor : String → Option String → Except OutOfScope Audience

structure PastRead where
  asOf : Int
  version : Option ℕ
  deriving DecidableEq, Repr

structure AccessEntry where
  passportId : PassportId
  issuerDid : String
  holderDid : String
  holderName : String
  disclosureSet : String
  disclosureClasses : List String
  productGroup : String
  past : Option PastRead
  deriving DecidableEq, Repr

structure Node where
  passportId : PassportId
  readRecord : Doc → Except DppError Record
  disclosureKey : Audience → String
  disclosureClasses : Audience → List String
  parseJson : List UInt8 → Except String Json
  parseRfc3339 : String → Option Int
  verifiesCredentials : Bool
  append : AccessEntry → Except DppError Unit

inductive Reply where
  | ok (view : Json) (miss : Option OutOfScope)
  | problem (status : ℕ) (detail : String) (miss : Option OutOfScope)
  deriving DecidableEq, Repr

def Reply.status : Reply → ℕ
  | .ok _ _ => 200
  | .problem status _ _ => status

def Reply.Alike (a b : Reply) : Prop := a.status = b.status ∧ (a.status = 200 → a = b)

instance (a b : Reply) : Decidable (a.Alike b) := inferInstanceAs (Decidable (_ ∧ (_ → _)))

def notFound (detail : String) : Reply := .problem 404 detail none

def internalError : Reply := .problem 500 "An internal error occurred." none

end Records

section Views

variable (node : Node)

def signedPayload (name jws : String) : Except DppError (List (String × Json)) :=
  match (jws.toList.splitOn '.')[1]? with
  | none => .error (.internal (name ++ " is not a compact JWS"))
  | some payload =>
    match CompactTokens.base64UrlDecode payload with
    | none => .error (.internal (name ++ " payload not base64url"))
    | some bytes =>
      match node.parseJson bytes with
      | .error e => .error (.internal (name ++ " payload not JSON: " ++ e))
      | .ok view =>
        let signedId := ((view.get "id").bind Json.asStr).getD ""
        if signedId ≠ PassportId.text node.passportId then
          .error (.internal (name ++ " payload is for passport " ++ signedId ++ ", not " ++
            PassportId.text node.passportId))
        else .ok ((Json.asMembers view).getD [])

def signedPublicView (p : Record) : Except DppError Json :=
  match p.publicJwsSignature with
  | none => .error (.internal "published passport has no public signature")
  | some jws => do
    let view ← signedPayload node "public signature" jws
    return .obj (Doc.insert view "publicJwsSignature" (.str jws))

def signedAudienceView (p : Record) (audience : Audience) : Except DppError Json :=
  let key := node.disclosureKey audience
  match (p.disclosureSignatures.get key).bind Json.asStr with
  | none =>
    .error (.internal ("published passport has no signature for disclosure set " ++ key))
  | some jws => do
    let view ← signedPayload node key jws
    return .obj (Doc.insert (Doc.insert view "disclosureJwsSignature" (.str jws))
      "disclosureSet" (.str key))

def served : Except DppError Json → Option OutOfScope → Reply
  | .ok view, miss => .ok view miss
  | .error _, _ => internalError

def recordAccess (p : Record) (credential : VerifiedCredential) (granted : Audience)
    (past : Option PastRead) : Except DppError Unit :=
  node.append {
    passportId := node.passportId
    issuerDid := credential.issuer
    holderDid := credential.holder
    holderName := credential.holderName
    disclosureSet := node.disclosureKey granted
    disclosureClasses := node.disclosureClasses granted
    productGroup := p.productGroup
    past }

def scopeOf (credential : Option VerifiedCredential) (p : Record) : Except OutOfScope Audience :=
  match credential with
  | some c => c.audienceFor p.productGroup p.productCategory
  | none => .ok .publicAudience

def grantedOf : Except OutOfScope Audience → Audience
  | .ok audience => audience
  | .error _ => .publicAudience

def missOf : Except OutOfScope Audience → Option OutOfScope
  | .ok _ => none
  | .error miss => some miss

def audienceRead (credential : Option VerifiedCredential) (row : Option Doc) : Reply :=
  match row.map node.readRecord with
  | none => notFound "DPP not found or not published."
  | some (.error (.notFound _)) => notFound "DPP not found."
  | some (.error _) => internalError
  | some (.ok p) =>
    match p.status with
    | .published =>
      let scope := scopeOf credential p
      let audience := grantedOf scope
      match credential.elim (.ok ()) fun c => recordAccess node p c audience none with
      | .error _ => internalError
      | .ok () =>
        if audience = .publicAudience then served (signedPublicView node p) (missOf scope)
        else served (signedAudienceView node p audience) none
    | .suspended => .problem 410 "This passport has been suspended." none
    | _ => notFound "DPP not found or not published."

def recordAt (live : Record) (at_ : Int) (version : VersionAt) :
    Except Reply (Record × Option ℕ) :=
  match version with
  | .beforeItExisted => .error (notFound ("That moment is before this passport was created, so " ++
      "nothing was its state then."))
  | version =>
    -- The first publish is by the service's clock, the moment asked for by the database's.
    if live.publishedAt.any fun first => at_ < first then
      .error (notFound "No published version of this passport covers that moment.")
    else
      match version with
      | .found v =>
        match node.readRecord v.doc with
        | .ok p => .ok (p, some v.id)
        | .error _ => .error internalError
      | _ => .ok (live, none)

def servePast (credential : VerifiedCredential) (audience : Audience) (at_ : Int)
    (record : Record) (version : Option ℕ) : Reply :=
  match record.status with
  | .published =>
    match recordAccess node record credential audience (some ⟨at_, version⟩) with
    | .error _ => internalError
    | .ok () => served (signedAudienceView node record audience) none
  | .suspended => .problem 410 "This passport was suspended at that moment." none
  | _ => notFound "No published version of this passport covers that moment."

/-- The read of a past moment; `read` is what the store answers for it. -/
def readAsOf (credential : Option VerifiedCredential) (rawAsOf : String) (read : StoredAt) :
    Reply :=
  match credential with
  | none => .problem 401 (if node.verifiesCredentials then
      "A past version is read with an access credential in the X-DPP-Credential header."
    else "This node does not verify access credentials, so it cannot serve a past version.") none
  | some credential =>
    match node.parseRfc3339 rawAsOf with
    | none => .problem 422 "asOf must be an RFC 3339 timestamp." none
    | some at_ =>
      match stateAt (fun d => (node.readRecord d).map Record.createdAt) node.passportId at_
          read with
      | .ok .notYet =>
        .problem 422 "asOf must not be in the future: nothing is yet its state then." none
      | .error (.notFound _) => notFound "DPP not found or not published."
      | .error _ => internalError
      | .ok (.known live version) =>
        match node.readRecord live with
        | .error _ => internalError
        | .ok live =>
          if live.neverPublished then notFound "DPP not found or not published."
          else
            let scope := scopeOf (some credential) live
            let audience := grantedOf scope
            if audience = .publicAudience then
              match recordAccess node live credential audience (some ⟨at_, none⟩) with
              | .error _ => internalError
              | .ok () => .problem 403 ("This credential grants no access to this passport " ++
                  "beyond the public view, and a past version is read only with one that does.")
                  (missOf scope)
            else
              match recordAt node live at_ version with
              | .error reply => reply
              | .ok (record, version) => servePast node credential audience at_ record version

end Views

section Lifecycle

/-- What a write of the passport makes of the record: a draft is edited, a publish signs anew and
stamps the first one's moment, and any other change of status changes nothing else. -/
inductive Change (a : Record) : Record → Prop
  | edit {b : Record} : a.status = .draft → b.status = .draft → b.publishedAt = a.publishedAt →
      b.createdAt = a.createdAt → Change a b
  | publish (now : Int) (publicJws : Option String) (signatures : Doc) :
      a.status.canTransitionTo .published = true →
      Change a { a with
        status := .published
        publishedAt := a.publishedAt.or (some now)
        publicJwsSignature := publicJws
        disclosureSignatures := signatures }
  | restate {s : PassportStatus} : a.status.canTransitionTo s = true → s ≠ .published →
      Change a { a with status := s }

def Record.Dated (p : Record) : Prop :=
  p.status ∈ [.published, .suspended, .superseded, .deactivated] → p.publishedAt.isSome = true

structure Record.Keeps (a b : Record) : Prop where
  status : b.status ≠ .draft
  publishedAt : b.publishedAt = a.publishedAt
  createdAt : b.createdAt = a.createdAt
  productGroup : b.productGroup = a.productGroup
  productCategory : b.productCategory = a.productCategory

def Record.Served (p : Record) : Prop := p.status = .published ∨ p.status = .suspended

variable {a b : Record}

theorem Change.dated (h : Change a b) (ha : a.Dated) : b.Dated := by
  cases h with
  | edit _ hdraft =>
    intro hb
    rw [hdraft] at hb
    exact absurd hb (by decide)
  | publish now =>
    intro _
    cases a.publishedAt <;> rfl
  | @restate s hallowed hs =>
    intro hb
    apply ha
    change s ∈ _ at hb
    revert hallowed hs hb
    cases a.status <;> cases s <;> decide

theorem Change.keeps {c : Record} (h : Change b c) (hkeeps : Record.Keeps a b)
    (hdated : a.publishedAt.isSome = true) : Record.Keeps a c := by
  cases h with
  | edit hdraft => exact absurd hdraft hkeeps.status
  | publish now =>
    refine ⟨by simp, ?_, hkeeps.createdAt, hkeeps.productGroup, hkeeps.productCategory⟩
    rw [hkeeps.publishedAt]
    exact Option.or_of_isSome hdated
  | @restate s hallowed hs =>
    refine ⟨?_, hkeeps.publishedAt, hkeeps.createdAt, hkeeps.productGroup,
      hkeeps.productCategory⟩
    change s ≠ .draft
    rintro rfl
    revert hallowed
    cases b.status <;> decide

theorem Record.Served.dated (h : a.Served) (hdated : a.Dated) : a.publishedAt.isSome = true := by
  apply hdated
  rcases h with h | h <;> rw [h] <;> decide

theorem Record.Served.keeps (h : a.Served) (hdated : a.Dated)
    (hchanges : Relation.ReflTransGen Change a b) : Record.Keeps a b := by
  have hsome := h.dated hdated
  induction hchanges with
  | refl =>
    refine ⟨?_, rfl, rfl, rfl, rfl⟩
    rcases h with h | h <;> rw [h] <;> decide
  | tail _ hchange ih => exact hchange.keeps ih hsome

theorem dated_of_changes (hdated : a.Dated) (hchanges : Relation.ReflTransGen Change a b) :
    b.Dated := by
  induction hchanges with
  | refl => exact hdated
  | tail _ hchange ih => exact hchange.dated ih

theorem Record.Keeps.published (h : Record.Keeps a b) (hsome : a.publishedAt.isSome = true) :
    b.neverPublished = false := by
  have hb : b.publishedAt.isSome = true := h.publishedAt ▸ hsome
  simp [Record.neverPublished, PassportModel.neverPublished, PassportModel.retiredDraft, h.status,
    Option.isNone_eq_false_iff.mpr hb]

def recordOf (createdAt : Doc → Int) (productCategory : Doc → Option String) (p : Passport) :
    Record where
  status := p.status
  publishedAt := p.publishedAt
  createdAt := createdAt p.content
  productGroup := p.productGroup
  productCategory := productCategory p.content
  publicJwsSignature := p.publicJwsSignature
  disclosureSignatures := p.disclosureSignatures

end Lifecycle

section Writers

open PassportRequests

variable {sv : Services} {now : Int} {p q : Passport} {payload view : Doc}
  (createdAt : Doc → Int) (productCategory : Doc → Option String)

theorem backfillRegistryIdentity_record
    (registry : Option (Option (String × String) × Option Json)) :
    recordOf createdAt productCategory (backfillRegistryIdentity p registry) =
      recordOf createdAt productCategory p := by
  cases registry with
  | none => rfl
  | some answer =>
    by_cases hdraft : p.status = .draft <;> simp [backfillRegistryIdentity, hdraft, recordOf]

theorem publish_change {answers : PublishAnswers}
    (h : publish sv now p answers = .ok (q, payload, view)) :
    Change (recordOf createdAt productCategory p) (recordOf createdAt productCategory q) := by
  obtain ⟨hallowed, moved, signed, jws, publicJws, signatures, hmoved, hstamped, _, _, _, _, _,
    rfl⟩ := publish_steps h
  have hsigned : recordOf createdAt productCategory signed =
      recordOf createdAt productCategory moved := by
    unfold stampPublishObligations at hstamped
    obtain ⟨url, -, hstamped⟩ := FallibleSteps.bind_ok hstamped
    cases hstamped
    simp only [recordOf]
    split <;> rfl
  have hmoved : recordOf createdAt productCategory moved =
      { recordOf createdAt productCategory (backfillRegistryIdentity p answers.registry) with
        status := .published
        publishedAt :=
          (backfillRegistryIdentity p answers.registry).publishedAt.or (some now) } := by
    unfold transitionToPublished at hmoved
    obtain ⟨_, -, hmoved⟩ := FallibleSteps.bind_ok hmoved
    cases hmoved
    rfl
  have hdated : (backfillRegistryIdentity p answers.registry).publishedAt = p.publishedAt :=
    congrArg Record.publishedAt
      (backfillRegistryIdentity_record createdAt productCategory answers.registry)
  rw [backfillRegistryIdentity_record, hdated] at hmoved
  rw [hmoved] at hsigned
  have hwritten : recordOf createdAt productCategory { signed with
      jwsSignature := some jws
      publicJwsSignature := some publicJws
      disclosureSignatures := signatures } =
      { recordOf createdAt productCategory p with
        status := .published
        publishedAt := p.publishedAt.or (some now)
        publicJwsSignature := some publicJws
        disclosureSignatures := signatures } := by
    have hwith := congrArg (fun r : Record => { r with
      publicJwsSignature := some publicJws
      disclosureSignatures := signatures }) hsigned
    exact hwith
  rw [hwritten]
  exact .publish now _ _ hallowed

theorem restate_change {s : PassportStatus} (hallowed : p.status.canTransitionTo s = true)
    (hs : s ≠ .published) (updatedAt : Int) :
    Change (recordOf createdAt productCategory p)
      (recordOf createdAt productCategory { p with status := s, updatedAt }) :=
  .restate hallowed hs

end Writers

section Runs

/-- A live read: when the database ran it, the record it read, and whether a change that had
taken its stamp was not committed yet. -/
structure LiveRead where
  moment : Int
  doc : Doc
  held : Bool
  deriving DecidableEq, Repr

structure Watched where
  archive : Archive
  reads : List LiveRead
  deriving DecidableEq, Repr

inductive Watch where
  | archive (e : Event)
  /-- A read of the row takes no lock. -/
  | liveRead (now : Int)
  deriving DecidableEq, Repr

def Watched.next (s : Watched) : Watch → Option Watched
  | .archive e => (s.archive.next e).map fun archive => { s with archive }
  | .liveRead now =>
    if s.archive.clock < now then
      some {
        archive := { s.archive with clock := now }
        reads := s.reads ++ [⟨now, s.archive.stored.row.doc, s.archive.writer.isSome⟩] }
    else none

def Watched.created (row : Row) (clock : Int) : Watched := ⟨Archive.created row clock, []⟩

variable (readRecord : Doc → Except DppError Record)

def Watched.Lifecycle (s : Watched) : Watch → Prop
  | .archive (.commit _ row) => ∃ a b, readRecord s.archive.stored.row.doc = .ok a ∧
      readRecord row.doc = .ok b ∧ Change a b
  | _ => True

def Became (d live : Doc) : Prop :=
  ∃ a b, readRecord d = .ok a ∧ readRecord live = .ok b ∧ Relation.ReflTransGen Change a b

structure Watched.Valid (initial : Doc) (s : Watched) : Prop where
  archive : s.archive.Valid initial
  clock : ∀ l ∈ s.reads, l.moment ≤ s.archive.clock
  reads : ∀ l ∈ s.reads, l.held = false →
    SameRecord (valueAt initial s.archive.changes l.moment) l.doc ∧
      ∀ stamp ∈ s.archive.writer, l.moment < stamp
  dated : ∃ p, readRecord s.archive.stored.row.doc = .ok p ∧ p.Dated
  readable : ∀ l ∈ s.reads, ∃ p, readRecord l.doc = .ok p ∧ p.Dated
  versions : ∀ v ∈ s.archive.stored.versions, Became readRecord v.doc s.archive.stored.row.doc
  readings : ∀ r ∈ s.archive.readings, ∀ d, r.stored.document = some d →
    ∃ live, r.stored.live = some live ∧ Became readRecord d live

variable {readRecord} {initial : Doc} {s u : Watched} {w : Watch}

theorem Became.refl {d : Doc} {p : Record} (h : readRecord d = .ok p) : Became readRecord d d :=
  ⟨p, p, h, h, .refl⟩

theorem Became.tail {d live : Doc} {a b : Record} {new : Doc} (h : Became readRecord d live)
    (ha : readRecord live = .ok a) (hb : readRecord new = .ok b) (hchange : Change a b) :
    Became readRecord d new := by
  obtain ⟨first, last, hfirst, hlast, hchanges⟩ := h
  cases hlast.symm.trans ha
  exact ⟨first, b, hfirst, hb, hchanges.tail hchange⟩

theorem Became.restated {d live new : Doc} (h : Became readRecord d live)
    (hsame : readRecord new = readRecord live) : Became readRecord d new := by
  obtain ⟨a, b, ha, hb, hchanges⟩ := h
  exact ⟨a, b, ha, hsame.trans hb, hchanges⟩

theorem mem_of_versionAt {versions : List Version} {moment : Int} {v : Version}
    (h : versionAt versions moment = some v) : v ∈ versions := by
  have hmem := List.mem_of_mem_head? h
  rw [List.mem_insertionSort] at hmem
  exact List.mem_of_mem_filter hmem

theorem archive_valid_tick {s : Archive} {now : Int} (h : s.Valid initial)
    (hclock : s.clock < now) : Archive.Valid initial { s with clock := now } where
  holds := h.holds
  ordered := h.ordered
  created := h.created
  changes c hc := (h.changes c hc).trans hclock.le
  writer stamp hstamp := by
    obtain ⟨hreaders, hle, hbefore, hanswered⟩ := h.writer stamp hstamp
    exact ⟨hreaders, hle.trans hclock.le, hbefore, hanswered⟩
  readers r hr := by
    obtain ⟨hlive, hread⟩ := h.readers r hr
    exact ⟨hlive, fun t ht => (hread t ht).trans hclock.le⟩
  answered r hr := (h.answered r hr).trans hclock.le
  live := h.live
  readings := h.readings

theorem same_row_of_clock_lt {s : Archive} {now : Int} (h : s.Valid initial)
    (hclock : s.clock < now) : SameRecord (valueAt initial s.changes now) s.stored.row.doc := by
  have hsame := h.holds.same_valueAt now
  rwa [archivedAt_of_le] at hsame
  intro v hv
  have hmoment : v.1 ∈ s.changes.map Prod.fst := by
    rw [← h.holds.moments]
    exact List.mem_map_of_mem hv
  obtain ⟨c, hc, hsame⟩ := List.mem_map.mp hmoment
  rw [← hsame]
  exact (h.changes c hc).trans hclock.le

theorem Watched.Valid.liveRead {now : Int} (h : s.Valid readRecord initial)
    (hclock : s.archive.clock < now) : Watched.Valid readRecord initial {
      archive := { s.archive with clock := now }
      reads := s.reads ++ [⟨now, s.archive.stored.row.doc, s.archive.writer.isSome⟩] } where
  archive := archive_valid_tick h.archive hclock
  clock := by
    intro l hl
    rcases List.mem_append.mp hl with hl | hl
    · exact (h.clock l hl).trans hclock.le
    · rw [List.mem_singleton.mp hl]
  reads := by
    intro l hl hheld
    rcases List.mem_append.mp hl with hl | hl
    · exact h.reads l hl hheld
    · rw [List.mem_singleton.mp hl] at hheld ⊢
      have hsame := same_row_of_clock_lt h.archive hclock
      refine ⟨hsame, fun stamp hstamp => ?_⟩
      rw [Option.mem_def.mp hstamp] at hheld
      cases hheld
  dated := h.dated
  readable := by
    intro l hl
    rcases List.mem_append.mp hl with hl | hl
    · exact h.readable l hl
    · rw [List.mem_singleton.mp hl]
      exact h.dated
  versions := h.versions
  readings := h.readings

theorem Watched.Valid.commit {stamp : Int} {version : ℕ} {row : Row}
    (h : s.Valid readRecord initial) (hwriter : s.archive.writer = some stamp)
    (hcreated : row.doc.get "createdAt" = s.archive.stored.row.doc.get "createdAt")
    (hlife : s.Lifecycle readRecord (.archive (.commit version row))) :
    Watched.Valid readRecord initial { s with
      archive := { s.archive with
        stored := { archiveStored s.archive.stored version stamp with row }
        writer := none
        changes := s.archive.changes ++ [(stamp, row.doc)] } } := by
  obtain ⟨a, b, ha, hb, hchange⟩ := hlife
  obtain ⟨p, hp, hdated⟩ := h.dated
  cases hp.symm.trans ha
  refine ⟨h.archive.commit hwriter hcreated, h.clock, ?_, ⟨b, hb, hchange.dated hdated⟩,
    h.readable, ?_, h.readings⟩
  · intro l hl hheld
    obtain ⟨hsame, hbefore⟩ := h.reads l hl hheld
    refine ⟨?_, by simp⟩
    rw [valueAt_concat (hbefore stamp hwriter)]
    exact hsame
  · intro v hv
    rcases List.mem_append.mp hv with hv | hv
    · exact (h.versions v hv).tail ha hb hchange
    · rw [List.mem_singleton.mp hv]
      exact (Became.refl ha).tail ha hb hchange

theorem Watched.Valid.readVersion {i : ℕ} {moment now : Int} {live : Doc}
    (h : s.Valid readRecord initial)
    (hreader : s.archive.readers[i]? = some ⟨moment, live, some now⟩) :
    Watched.Valid readRecord initial { s with
      archive := { s.archive with
        readers := s.archive.readers.eraseIdx i
        readings := s.archive.readings ++
          [⟨moment, readStored (some live) s.archive.stored.versions moment now⟩] } } := by
  obtain ⟨p, hp, -⟩ := h.dated
  have hlive := (h.archive.readers _ (List.mem_of_getElem? hreader)).1
  dsimp only at hlive
  refine ⟨h.archive.readVersion hreader, h.clock, h.reads, h.dated, h.readable, h.versions, ?_⟩
  intro r hr d hd
  rcases List.mem_append.mp hr with hr | hr
  · exact h.readings r hr d hd
  · rw [List.mem_singleton.mp hr] at hd ⊢
    refine ⟨live, rfl, ?_⟩
    subst hlive
    simp only [readStored, StoredAt.document, Option.bind_some] at hd
    cases hv : versionAt s.archive.stored.versions moment with
    | none =>
      rw [hv] at hd
      cases hd
      exact .refl hp
    | some v =>
      rw [hv] at hd
      cases hd
      exact h.versions v (mem_of_versionAt hv)

theorem Watched.Valid.next (hseal : ∀ a b, SameRecord a b → readRecord a = readRecord b)
    (h : s.Valid readRecord initial) (hlife : s.Lifecycle readRecord w)
    (hnext : s.next w = some u) : u.Valid readRecord initial := by
  cases w with
  | liveRead now =>
    obtain ⟨hclock, ⟨⟩⟩ := Option.ite_none_right_eq_some.mp hnext
    exact h.liveRead hclock
  | archive e =>
    obtain ⟨t, ht, ⟨⟩⟩ := Option.map_eq_some_iff.mp hnext
    have hvalid := h.archive.next ht
    cases e with
    | lockRow stamp =>
      obtain ⟨⟨-, -, hclock⟩, ⟨⟩⟩ := Option.ite_none_right_eq_some.mp ht
      refine { h with archive := hvalid, clock := ?_, reads := ?_ }
      · exact fun l hl => (h.clock l hl).trans hclock.le
      · intro l hl hheld
        refine ⟨(h.reads l hl hheld).1, ?_⟩
        rintro _ ⟨⟩
        exact (h.clock l hl).trans_lt hclock
    | commit version row =>
      simp only [Archive.next] at ht
      cases hw : s.archive.writer with
      | none => simp [hw] at ht
      | some stamp =>
        rw [hw] at ht
        obtain ⟨hcreated, ⟨⟩⟩ := Option.ite_none_right_eq_some.mp ht
        exact h.commit hw hcreated hlife
    | rollback =>
      simp only [Archive.next] at ht
      cases hw : s.archive.writer with
      | none => simp [hw] at ht
      | some stamp =>
        rw [hw] at ht
        cases ht
        refine { h with archive := hvalid, reads := ?_ }
        exact fun l hl hheld => ⟨(h.reads l hl hheld).1, by simp⟩
    | markSealed value =>
      obtain ⟨-, ⟨⟩⟩ := Option.ite_none_right_eq_some.mp ht
      have hread := hseal _ _ (sameRecord_sealed s.archive.stored.row.doc value)
      obtain ⟨p, hp, hdated⟩ := h.dated
      exact { h with
        archive := hvalid
        dated := ⟨p, hread.symm.trans hp, hdated⟩
        versions := fun v hv => (h.versions v hv).restated hread.symm }
    | shareRow moment =>
      obtain ⟨-, ⟨⟩⟩ := Option.ite_none_right_eq_some.mp ht
      exact { h with archive := hvalid }
    | readClock i now =>
      simp only [Archive.next] at ht
      split at ht
      · obtain ⟨hclock, ⟨⟩⟩ := Option.ite_none_right_eq_some.mp ht
        exact { h with
          archive := hvalid
          clock := fun l hl => (h.clock l hl).trans hclock.le }
      · cases ht
    | readVersion i =>
      simp only [Archive.next] at ht
      split at ht
      · rename_i moment live now hreader
        cases ht
        exact h.readVersion hreader
      · cases ht

end Runs

section Comparison

variable {node : Node} {credential : VerifiedCredential} {audience : Audience} {p : Record}
  {moment : Int}

/-- A moment at which the record was served already, and which the clock of the service, that
stamped its creation and its first publish, had not reached. -/
def Record.Early (p : Record) (moment : Int) : Prop :=
  p.Served ∧ (moment < p.createdAt ∨ ∃ first ∈ p.publishedAt, moment < first)

theorem servePast_unserved {version : Option ℕ} (h : ¬p.Served) :
    servePast node credential audience moment p version =
      notFound "No published version of this passport covers that moment." := by
  unfold servePast
  split
  next hstatus => exact absurd (.inl hstatus) h
  next hstatus => exact absurd (.inr hstatus) h
  next => rfl

theorem audienceRead_unserved {d : Doc} (hd : node.readRecord d = .ok p) (h : ¬p.Served) :
    audienceRead node (some credential) (some d) =
      notFound "DPP not found or not published." := by
  simp only [audienceRead, Option.map_some, hd]
  split
  next hstatus => exact absurd (.inl hstatus) h
  next hstatus => exact absurd (.inr hstatus) h
  next => rfl

theorem audienceRead_status_ne {d : Doc} (hd : node.readRecord d = .ok p) (h : p.Served)
    (hscope : scopeOf (some credential) p = .ok audience) (helevated : audience ≠ .publicAudience)
    (hrecorded : ∀ entry, node.append entry = .ok ()) :
    (audienceRead node (some credential) (some d)).status ≠ 404 := by
  simp only [audienceRead, Option.map_some, hd]
  rcases h with h | h
  · simp only [h, hscope, grantedOf, Option.elim_some, recordAccess, hrecorded, if_neg helevated]
    cases signedAudienceView node p audience <;> simp [served, Reply.status, internalError]
  · simp [h, Reply.status]

theorem servePast_alike {d : Doc} {version : Option ℕ} (hd : node.readRecord d = .ok p)
    (h : p.Served) (hscope : scopeOf (some credential) p = .ok audience)
    (helevated : audience ≠ .publicAudience) (hrecorded : ∀ entry, node.append entry = .ok ()) :
    (servePast node credential audience moment p version).Alike
      (audienceRead node (some credential) (some d)) := by
  simp only [audienceRead, servePast, Option.map_some, hd]
  rcases h with h | h
  · simp only [h, hscope, grantedOf, Option.elim_some, recordAccess, hrecorded, if_neg helevated]
    exact ⟨rfl, fun _ => rfl⟩
  · simp only [h]
    exact ⟨rfl, fun hstatus => absurd hstatus (by simp [Reply.status])⟩

theorem stateAt_known {read : StoredAt} {live : Doc} (hknown : moment ≤ read.readAt)
    (hlive : read.live = some live) (hp : node.readRecord live = .ok p) :
    stateAt (fun d => (node.readRecord d).map Record.createdAt) node.passportId moment read =
      .ok (.known live (if moment < p.createdAt then .beforeItExisted
        else read.version.elim .live .found)) := by
  rw [stateAt, if_neg (not_lt.mpr hknown), hlive]
  simp only [hp, Except.map, bind, Except.bind, pure, Except.pure]
  by_cases hbefore : moment < p.createdAt
  · simp [hbefore]
  · simp only [hbefore, if_false]
    cases read.version <;> rfl

/-- A moment is answered by the record that stood at it, unless the service's clock had not
reached its creation or its first publish. -/
theorem recordAt_spec {read : StoredAt} {live d : Doc} {lp : Record} (hlive : read.live = some live)
    (hlp : node.readRecord live = .ok lp) (hd : read.document = some d)
    (hp : node.readRecord d = .ok p) :
    let early := moment < lp.createdAt ∨ ∃ first ∈ lp.publishedAt, moment < first
    let version := if moment < lp.createdAt then .beforeItExisted
      else read.version.elim .live .found
    (early → ∃ detail, recordAt node lp moment version = .error (notFound detail)) ∧
      (¬early → ∃ v, recordAt node lp moment version = .ok (p, v)) := by
  intro early version
  by_cases hbefore : moment < lp.createdAt
  · simp only [version, if_pos hbefore]
    exact ⟨fun _ => ⟨_, rfl⟩, fun hnot => absurd (.inl hbefore) hnot⟩
  · have hany : (lp.publishedAt.any fun first => moment < first) = true ↔
        ∃ first ∈ lp.publishedAt, moment < first := by
      cases lp.publishedAt <;> simp
    simp only [version, if_neg hbefore]
    constructor
    · intro hearly
      have hfirst := hany.mpr (hearly.resolve_left hbefore)
      cases read.version <;> exact ⟨_, by simp only [Option.elim, recordAt, if_pos hfirst]; rfl⟩
    · intro hnot
      have hfirst : ¬(lp.publishedAt.any fun first => moment < first) = true :=
        fun hfirst => hnot (.inr (hany.mp hfirst))
      rw [StoredAt.document, hlive] at hd
      cases hversion : read.version with
      | none =>
        rw [hversion] at hd
        cases hd
        cases hlp.symm.trans hp
        exact ⟨none, by simp only [Option.elim, recordAt, if_neg hfirst]⟩
      | some v =>
        rw [hversion] at hd
        cases hd
        exact ⟨some v.id, by simp only [Option.elim, recordAt, if_neg hfirst, hp]⟩

/-- What the comparison takes of the node: a reading of a document does not depend on the seal,
and the trail takes every entry. -/
structure Node.Reliable (node : Node) : Prop where
  sealed : ∀ a b, SameRecord a b → node.readRecord a = node.readRecord b
  recorded : ∀ entry, node.append entry = .ok ()

/-- A past moment is asked for at which a live read was made, with a credential that grants more
than the public view of the passport. -/
structure Asked (node : Node) (s : Watched) (credential : VerifiedCredential) (l : LiveRead)
    (rawAsOf : String) (r : Reading) : Prop where
  live : l ∈ s.reads
  reading : r ∈ s.archive.readings
  moment : r.moment = l.moment
  later : r.moment ≤ r.stored.readAt
  text : node.parseRfc3339 rawAsOf = some r.moment
  elevated : ∃ live p audience, r.stored.live = some live ∧ node.readRecord live = .ok p ∧
    scopeOf (some credential) p = .ok audience ∧ audience ≠ .publicAudience

theorem alike_iff_of_became {rawAsOf : String} {r : Reading} {live d : Doc} {lp : Record}
    (hnode : node.Reliable) (hlater : r.moment ≤ r.stored.readAt)
    (htext : node.parseRfc3339 rawAsOf = some r.moment) (hlive : r.stored.live = some live)
    (hlp : node.readRecord live = .ok lp) (hscope : scopeOf (some credential) lp = .ok audience)
    (helevated : audience ≠ .publicAudience) (hdocument : r.stored.document = some d)
    (hp : node.readRecord d = .ok p) (hdated : p.Dated)
    (hchanges : Relation.ReflTransGen Change p lp) :
    (readAsOf node (some credential) rawAsOf r.stored).Alike
        (audienceRead node (some credential) (some d)) ↔ ¬p.Early r.moment := by
  obtain ⟨hearly, hrecord⟩ := @recordAt_spec node p r.moment _ _ _ _ hlive hlp hdocument hp
  have hread : readAsOf node (some credential) rawAsOf r.stored =
      if lp.neverPublished then notFound "DPP not found or not published."
      else match recordAt node lp r.moment (if r.moment < lp.createdAt then .beforeItExisted
          else r.stored.version.elim .live .found) with
        | .error reply => reply
        | .ok (record, version) => servePast node credential audience r.moment record version := by
    simp only [readAsOf, htext, stateAt_known hlater hlive hlp, hlp, hscope, grantedOf,
      if_neg helevated]
  by_cases hserved : p.Served
  · have hkeeps := hserved.keeps hdated hchanges
    have hpublished := hkeeps.published (hserved.dated hdated)
    have hscope' : scopeOf (some credential) p = .ok audience := by
      rw [← hscope]
      simp only [scopeOf, hkeeps.productGroup, hkeeps.productCategory]
    rw [hpublished, if_neg Bool.false_ne_true] at hread
    rw [hkeeps.createdAt, hkeeps.publishedAt] at hearly hrecord
    by_cases he : r.moment < p.createdAt ∨ ∃ first ∈ p.publishedAt, r.moment < first
    · obtain ⟨detail, hdetail⟩ := hearly he
      rw [hkeeps.createdAt, hdetail] at hread
      refine iff_of_false (fun halike => ?_) (not_not.mpr ⟨hserved, he⟩)
      rw [hread] at halike
      exact audienceRead_status_ne hp hserved hscope' helevated hnode.recorded halike.1.symm
    · obtain ⟨v, hv⟩ := hrecord he
      rw [hkeeps.createdAt, hv] at hread
      refine iff_of_true ?_ (fun h => he h.2)
      rw [hread]
      exact servePast_alike hp hserved hscope' helevated hnode.recorded
  · refine iff_of_true ?_ (fun h => hserved h.1)
    rw [audienceRead_unserved hp hserved, hread]
    by_cases hnever : lp.neverPublished = true
    · rw [if_pos hnever]
      exact ⟨rfl, fun _ => rfl⟩
    · rw [if_neg hnever]
      have hnotFound : ∀ detail, (notFound detail).Alike
          (notFound "DPP not found or not published.") :=
        fun detail => ⟨rfl, fun h => absurd h (by simp [notFound, Reply.status])⟩
      by_cases he : r.moment < lp.createdAt ∨ ∃ first ∈ lp.publishedAt, r.moment < first
      · obtain ⟨detail, hdetail⟩ := hearly he
        rw [hdetail]
        exact hnotFound _
      · obtain ⟨v, hv⟩ := hrecord he
        rw [hv]
        simp only [servePast_unserved hserved]
        exact hnotFound _

/-- In every run, a past moment is read as it was read then exactly when the service's clock had
reached the record's creation and first publish, if it was served; a live read while a stamped
change was not committed is left out. -/
theorem past_read_agrees_iff {row : Row} {clock : Int} {events : List Watch} {s : Watched}
    (hnode : node.Reliable) {first : Record} (hfirst : node.readRecord row.doc = .ok first)
    (hdated : first.Dated) (hrun : run Watched.next (Watched.created row clock) events = some s)
    (hlife : Along Watched.next (Watched.Lifecycle node.readRecord) (Watched.created row clock)
      events)
    {l : LiveRead} {rawAsOf : String} {r : Reading}
    (hasked : Asked node s credential l rawAsOf r) (hheld : l.held = false) :
    ∃ p, node.readRecord l.doc = .ok p ∧
      ((readAsOf node (some credential) rawAsOf r.stored).Alike
        (audienceRead node (some credential) (some l.doc)) ↔ ¬p.Early l.moment) := by
  have hcreated : Watched.Valid node.readRecord row.doc (Watched.created row clock) :=
    ⟨Archive.created_valid row clock, List.forall_mem_nil _, List.forall_mem_nil _,
      ⟨first, hfirst, hdated⟩, List.forall_mem_nil _, List.forall_mem_nil _,
      List.forall_mem_nil _⟩
  have hvalid : s.Valid node.readRecord row.doc :=
    run_invariant (fun _ _ _ h hcond hnext => h.next hnode.sealed hcond hnext) hcreated hlife hrun
  obtain ⟨hl, hr, hmoment, hlater, htext, live, lp, audience, hlive, hlp, hscope, helevated⟩ :=
    hasked
  obtain ⟨p, hp, hdated⟩ := hvalid.readable l hl
  obtain ⟨d, hdocument, hvalue⟩ := hvalid.archive.readings r hr hlater
  rw [hmoment] at hvalue
  have hsame : SameRecord d l.doc := hvalue.symm.trans (hvalid.reads l hl hheld).1
  have hd : node.readRecord d = .ok p := (hnode.sealed _ _ hsame).trans hp
  obtain ⟨live', hlive', a, b, ha, hb, hchanges⟩ := hvalid.readings r hr d hdocument
  cases hlive.symm.trans hlive'
  cases hd.symm.trans ha
  cases hlp.symm.trans hb
  refine ⟨p, hp, ?_⟩
  have hread : audienceRead node (some credential) (some l.doc) =
      audienceRead node (some credential) (some d) := by
    simp only [audienceRead, Option.map_some, hp, hd]
  rw [hread, ← hmoment]
  exact alike_iff_of_became hnode hlater htext hlive hlp hscope helevated hdocument hd hdated
    hchanges

end Comparison

section Samples

def storedRecord (d : Doc) : Except DppError Record := do
  let status ← required asStatus d "status"
  let publishedAt ← optionalField Json.asInstant d "publishedAt"
  let createdAt ← required Json.asInstant d "createdAt"
  let productGroup ← required Json.asStr d "productGroup"
  let batteryType := ((d.get "productGroupData").bind (Json.get "batteryType")).bind Json.asStr
  let publicJwsSignature ← optionalField Json.asStr d "publicJwsSignature"
  let disclosureSignatures ← optionalField Json.asMembers d "disclosureSignatures"
  return { status, publishedAt, createdAt, productGroup, productCategory := batteryType,
           publicJwsSignature, disclosureSignatures := disclosureSignatures.getD [] }

theorem storedRecord_sealed (a b : Doc) (h : SameRecord a b) : storedRecord a = storedRecord b := by
  simp only [storedRecord, required, optionalField, h.get (k := "status") (by decide),
    h.get (k := "publishedAt") (by decide), h.get (k := "createdAt") (by decide),
    h.get (k := "productGroup") (by decide), h.get (k := "productGroupData") (by decide),
    h.get (k := "publicJwsSignature") (by decide),
    h.get (k := "disclosureSignatures") (by decide)]

def batteryView : Json := .obj [("id", .str (PassportId.text 7))]

def batteryNode : Node where
  passportId := 7
  readRecord := storedRecord
  disclosureKey
    | .publicAudience => "public"
    | .legitimateInterest => "public+restricted+individual"
    | .authority => "public+restricted+conformity"
  disclosureClasses
    | .publicAudience => ["public"]
    | .legitimateInterest => ["public", "restricted", "individual"]
    | .authority => ["public", "restricted", "conformity"]
  parseJson bytes := if bytes = [1] then .ok batteryView else .error "expected value"
  parseRfc3339 text :=
    if text = "1970-01-01T00:00:00.000000022Z" then some 22
    else if text = "1970-01-01T00:00:00.000000027Z" then some 27
    else none
  verifiesCredentials := true
  append _ := .ok ()

theorem batteryNode_reliable : batteryNode.Reliable := ⟨storedRecord_sealed, fun _ => rfl⟩

def repairer : VerifiedCredential where
  issuer := "did:web:authority.example"
  holder := "did:web:repair.example"
  holderName := "Repair Co"
  audienceFor group _ :=
    if group = "battery" then .ok .legitimateInterest else .error .productGroup

def batteryDraft : Row where
  id := 7
  status := .draft
  retentionLocked := false
  publishedAt := none
  updatedAt := 10
  doc := [("status", .str "draft"), ("createdAt", .instant 10), ("productGroup", .str "battery")]

/-- Published by a service whose clock is five ahead of the database's. -/
def batteryPublished : Row where
  id := 7
  status := .published
  retentionLocked := true
  publishedAt := some 25
  updatedAt := 20
  doc := [("status", .str "active"), ("createdAt", .instant 10), ("productGroup", .str "battery"),
    ("publishedAt", .instant 25),
    ("disclosureSignatures", .obj [("public+restricted+individual", .str "e30.AQ.c2ln")])]

/-- The publish is stamped 20. The passport is read at 22 and 27, and each moment is asked for
later. -/
def askedAfterPublish : List Watch :=
  [.archive (.lockRow 20), .archive (.commit 1 batteryPublished), .liveRead 22, .liveRead 27,
    .archive (.shareRow 22), .archive (.shareRow 27), .archive (.readClock 0 30),
    .archive (.readVersion 0), .archive (.readClock 0 31), .archive (.readVersion 0)]

def readAt22 : LiveRead := ⟨22, batteryPublished.doc, false⟩

def readAt27 : LiveRead := ⟨27, batteryPublished.doc, false⟩

def asked22 : Reading := ⟨22, ⟨some batteryPublished.doc, none, 30⟩⟩

def asked27 : Reading := ⟨27, ⟨some batteryPublished.doc, none, 31⟩⟩

def watchedBattery : Watched :=
  (run Watched.next (Watched.created batteryDraft 10) askedAfterPublish).getD
    (Watched.created batteryDraft 10)

theorem run_askedAfterPublish :
    run Watched.next (Watched.created batteryDraft 10) askedAfterPublish = some watchedBattery := by
  decide +kernel

theorem watchedBattery_reads : watchedBattery.reads = [readAt22, readAt27] := by decide +kernel

theorem watchedBattery_readings : watchedBattery.archive.readings = [asked22, asked27] := by
  decide +kernel

def batteryRecord : Record where
  status := .draft
  publishedAt := none
  createdAt := 10
  productGroup := "battery"
  productCategory := none
  publicJwsSignature := none
  disclosureSignatures := []

theorem batteryDraft_read : storedRecord batteryDraft.doc = .ok batteryRecord := by decide +kernel

theorem batteryPublished_read :
    storedRecord batteryPublished.doc = .ok { batteryRecord with
      status := .published
      publishedAt := some 25
      disclosureSignatures := [("public+restricted+individual", .str "e30.AQ.c2ln")] } := by
  decide +kernel

theorem lifecycle_askedAfterPublish :
    Along Watched.next (Watched.Lifecycle storedRecord) (Watched.created batteryDraft 10)
      askedAfterPublish := by
  refine ⟨trivial, ?_⟩
  rintro _ ⟨⟩
  refine ⟨⟨batteryRecord, _, batteryDraft_read, batteryPublished_read,
    .publish 25 none _ (by decide)⟩, ?_⟩
  rintro _ ⟨⟩
  exact ⟨trivial, fun _ _ => ⟨trivial, fun _ _ => ⟨trivial, fun _ _ => ⟨trivial, fun _ _ =>
    ⟨trivial, fun _ _ => ⟨trivial, fun _ _ => ⟨trivial, fun _ _ => ⟨trivial, fun _ _ =>
      trivial⟩⟩⟩⟩⟩⟩⟩⟩

theorem asked_at_22 : Asked batteryNode watchedBattery repairer readAt22
    "1970-01-01T00:00:00.000000022Z" asked22 where
  live := by simp [watchedBattery_reads]
  reading := by simp [watchedBattery_readings]
  moment := rfl
  later := by decide
  text := by decide
  elevated := ⟨_, _, .legitimateInterest, rfl, batteryPublished_read, rfl, by decide⟩

theorem asked_at_27 : Asked batteryNode watchedBattery repairer readAt27
    "1970-01-01T00:00:00.000000027Z" asked27 where
  live := by simp [watchedBattery_reads]
  reading := by simp [watchedBattery_readings]
  moment := rfl
  later := by decide
  text := by decide
  elevated := ⟨_, _, .legitimateInterest, rfl, batteryPublished_read, rfl, by decide⟩

theorem read_at_27_agrees : ∃ p, storedRecord batteryPublished.doc = .ok p ∧
    ((readAsOf batteryNode (some repairer) "1970-01-01T00:00:00.000000027Z" asked27.stored).Alike
      (audienceRead batteryNode (some repairer) (some batteryPublished.doc)) ↔ ¬p.Early 27) :=
  past_read_agrees_iff batteryNode_reliable batteryDraft_read (fun h => absurd h (by decide))
    run_askedAfterPublish lifecycle_askedAfterPublish asked_at_27 rfl

/-- Read at 22 the published passport was served; asked later for 22, it is said not to have been
published yet. -/
theorem read_at_22_differs :
    run Watched.next (Watched.created batteryDraft 10) askedAfterPublish = some watchedBattery ∧
      Along Watched.next (Watched.Lifecycle storedRecord) (Watched.created batteryDraft 10)
        askedAfterPublish ∧
      Asked batteryNode watchedBattery repairer readAt22 "1970-01-01T00:00:00.000000022Z" asked22 ∧
      (audienceRead batteryNode (some repairer) (some readAt22.doc)).status = 200 ∧
      (readAsOf batteryNode (some repairer) "1970-01-01T00:00:00.000000022Z"
        asked22.stored).status = 404 := by
  refine ⟨run_askedAfterPublish, lifecycle_askedAfterPublish, asked_at_22, ?_, ?_⟩
  · decide +kernel
  · decide +kernel

end Samples

end AudienceReads
