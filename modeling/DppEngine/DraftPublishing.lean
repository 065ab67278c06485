import DppEngine.PassportRequests

/-! Draft updates against a publish of the same passport. Publish signs the record it
read and merges its serialisation over whatever is stored when it commits; a key it
does not send keeps the stored value. -/
namespace DraftPublishing

open JsonValues PassportModel StateChangeLog PassportRequests TransitionSystems FallibleSteps

/-- The keys the record models whose value the signature covers for good. -/
def guardedKeys : List String := passportKeys.filter (· ∉ mutableKeys)

def PublishedAsSigned (sv : Services) (s : State) : Event → Prop
  | .commit i began => ∀ r ∈ s.inFlight[i]?, ∀ _p ∈ r.replacement,
      ∀ store ∈ (commit sv.readContent sv.isProtectedPatchField sv.contentHash s.store s.now began
        r.change).toOption,
      ∃ payload ∈ signedPayload r.change.audit, ∀ row ∈ store.row, ∀ k ∈ guardedKeys,
        row.doc.get k = payload.get k
  | _ => True

/-- Where a publish commits, a guarded key it does not send is stored with the value it
signed; on a draft row, which is sent whole, that is: it is not stored at all. -/
def PublishSendsWhatIsStored (sv : Services) (s : State) : Event → Prop
  | .commit i _ => ∀ r ∈ s.inFlight[i]?, ∀ p ∈ r.replacement, ∀ row ∈ s.store.row,
      ∀ written ∈ (writtenDoc sv.readContent row p).toOption,
      passportRetentionGuard row (row.doc.merge written) = .ok () →
      ∀ k ∈ guardedKeys, written.get k = none → row.doc.get k = p.toDoc.get k
  | _ => True

instance (sv : Services) : ∀ s e, Decidable (PublishedAsSigned sv s e)
  | s, .commit i began => inferInstanceAs (Decidable (∀ r ∈ s.inFlight[i]?, ∀ _p ∈ r.replacement,
      ∀ store ∈ (commit sv.readContent sv.isProtectedPatchField sv.contentHash s.store s.now began
        r.change).toOption,
      ∃ payload ∈ signedPayload r.change.audit, ∀ row ∈ store.row, ∀ k ∈ guardedKeys,
        row.doc.get k = payload.get k))
  | _, .tick _ => .isTrue trivial
  | _, .read _ _ => .isTrue trivial

variable {sv : Services} {s : State} {e : Event} {row row' : Row} {p : Passport} {written : Doc}
  {k : String} {group : String}

theorem not_mutable_of_guarded (hk : k ∈ guardedKeys) : k ∉ mutableKeys := by
  simpa using (List.mem_filter.mp hk).2

private theorem effective_get (hk : k ∉ mutableKeys) :
    (effective row p).toDoc.get k = p.toDoc.get k := by
  have hlocked : k ≠ "retentionLocked" := by rintro rfl; exact hk (by decide)
  by_cases hl : row.retentionLocked
  · simp [effective, hl, Passport.toDoc, Passport.typedMembers, Passport.serialises, hlocked]
  · simp [effective, hl]

/-- What is stored under a guarded key once the write has been merged. -/
theorem merged_guarded_iff (hw : writtenDoc sv.readContent row p = .ok written)
    (hk : k ∈ guardedKeys) :
    (row.doc.merge written).get k = p.toDoc.get k ↔
      (written.get k = none → row.doc.get k = p.toDoc.get k) := by
  rw [Doc.get_merge]
  cases hwk : written.get k with
  | none => simp
  | some v =>
    have hv : p.toDoc.get k = some v := by
      rcases writtenDoc_get hw k with hsent | ⟨hnone, -⟩
      · rw [← effective_get (not_mutable_of_guarded hk), ← hsent, hwk]
      · rw [hwk] at hnone
        cases hnone
    simp [hv]

private theorem commit_replace_ok {r : Request} {began : Int} {store : Store}
    (hrow : s.store.row = some row) (hp : r.change.passport = .replace p)
    (h : commit sv.readContent sv.isProtectedPatchField sv.contentHash s.store s.now began
      r.change = .ok store) :
    ∃ written, writtenDoc sv.readContent row p = .ok written ∧
      passportRetentionGuard row (row.doc.merge written) = .ok () ∧
      store.row.map (·.doc) = some (row.doc.merge written) := by
  obtain ⟨row', hw, h⟩ := bind_ok h
  cases h
  rw [hrow, hp] at hw
  obtain ⟨written, hwritten, hguard, rfl⟩ := updateInTx_ok hw
  exact ⟨written, hwritten, hguard, rfl⟩

private theorem commit_of_written {r : Request} (began : Int)
    (hrow : s.store.row = some row) (hp : r.change.passport = .replace p)
    (hw : writtenDoc sv.readContent row p = .ok written)
    (hg : passportRetentionGuard row (row.doc.merge written) = .ok ()) :
    ∃ store, commit sv.readContent sv.isProtectedPatchField sv.contentHash s.store s.now began
      r.change = .ok store ∧ ∃ row', store.row = some row' ∧ row'.doc = row.doc.merge written := by
  have hupdate : ∃ row', writePassport sv.readContent sv.isProtectedPatchField s.store.row s.now
      began r.change.passport = .ok row' ∧ row'.doc = row.doc.merge written := by
    rw [hrow, hp]
    exact ⟨_, by simp only [writePassport, updateInTx, hw, hg, bind, Except.bind]; rfl, rfl⟩
  obtain ⟨row', hrow', hdoc⟩ := hupdate
  exact ⟨_, by simp only [commit, hrow', bind, Except.bind]; rfl, row', rfl, hdoc⟩

/-- One commit: the stored record is the signed payload exactly when nothing the
publish leaves unsent is stored with another value. -/
theorem step_published_as_signed_iff (hi : Invariant sv group s) :
    PublishedAsSigned sv s e ↔ PublishSendsWhatIsStored sv s e := by
  cases e with
  | tick t => exact Iff.rfl
  | read caller op => exact Iff.rfl
  | commit i began =>
    obtain ⟨row, hrow, -⟩ := hi.row
    constructor
    · intro h r hr p hp row₁ hrow₁ written hw hg k hk
      obtain rfl : row = row₁ := Option.some.inj (hrow.symm.trans hrow₁)
      obtain ⟨store, hcommit, row', hrow', hdoc⟩ :=
        commit_of_written began hrow (replacement_eq hp) (toOption_eq_some.mp hw) hg
      obtain ⟨payload, hpayload, hstored⟩ := h r hr p hp store (toOption_eq_some.mpr hcommit)
      have hwf := (hi.requests r (List.mem_of_getElem? hr)).1
      obtain ⟨-, -, -, signed, hsigned, hagree⟩ := hwf.of_replace (replacement_eq hp)
      obtain rfl : payload = signed := Option.some.inj (hpayload.symm.trans hsigned)
      have := hstored row' hrow' k hk
      rw [hdoc, ← hagree k (not_mutable_of_guarded hk)] at this
      exact (merged_guarded_iff (toOption_eq_some.mp hw) hk).mp this
    · intro h r hr p hp store hstore
      have hwf := (hi.requests r (List.mem_of_getElem? hr)).1
      obtain ⟨-, -, -, payload, hpayload, hagree⟩ := hwf.of_replace (replacement_eq hp)
      obtain ⟨written, hw, hg, hdoc⟩ :=
        commit_replace_ok hrow (replacement_eq hp) (toOption_eq_some.mp hstore)
      refine ⟨payload, hpayload, fun row' hrow' k hk => ?_⟩
      have hrow'doc : row'.doc = row.doc.merge written := by
        rw [show store.row = some row' from hrow'] at hdoc
        exact Option.some.inj hdoc
      rw [hrow'doc, ← hagree k (not_mutable_of_guarded hk)]
      exact (merged_guarded_iff hw hk).mpr
        (h r hr p hp row hrow written (toOption_eq_some.mpr hw) hg k hk)

/-- In every interleaving, every publish leaves exactly the payload it signed exactly
when every publish that commits sends every guarded key that is stored otherwise. -/
theorem published_as_signed_iff_sends_what_is_stored (sv : Services) (d : Draft) (now : Int)
    (es : List Event) :
    Along (next sv) (PublishedAsSigned sv) (initial d now) es ↔
      Along (next sv) (PublishSendsWhatIsStored sv) (initial d now) es := by
  have hinit : Invariant sv d.1.productGroup (initial d now) := initial_invariant d now
  constructor
  · exact along_of_invariant (fun _ _ _ hi _ hstep => step_preserves_invariant hi hstep)
      (fun _ _ hi hc => (step_published_as_signed_iff hi).mp hc) hinit
  · exact along_of_invariant (fun _ _ _ hi _ hstep => step_preserves_invariant hi hstep)
      (fun _ _ hi hc => (step_published_as_signed_iff hi).mpr hc) hinit

/-- An update that adds the carbon footprint commits while the publish is signing. -/
def updateWhileSigning : List Event :=
  [.read (sampleCaller 1) (.publish signedAnswers),
    .read (sampleCaller 2) (.update (.obj [("co2ePerUnit", .num 12)]) none),
    .commit 1 sampleNow, .commit 0 sampleNow]

theorem unsigned_field_survives_publish :
    ¬ ∀ (sv : Services) (d : Draft) (now : Int) (es : List Event),
      Along (next sv) (PublishedAsSigned sv) (initial d now) es := by
  intro h
  exact absurd (h sampleServices sampleDraft sampleNow updateWhileSigning) (by decide +kernel)

end DraftPublishing
