import DppEngine.LabelStores

/-! Whole runs of the label requests: what each request in flight relies on, the lock that
keeps it true, and the labels of live passports in every state. -/
namespace LabelClaims

open PassportModel (PassportStatus PassportId)
open PrintedLabels AmendedLabels TransitionSystems

section Requests

def Request.Sound (store : Store) : Request → Prop
  | .create _ => True
  | .publish read phase => (∃ x ∈ store, Restated x read) ∧ (phase = .asked → Unopposed store read)
  | .supersede _ _ => True
  | .change id target => target ≠ .published ∧
      (target = .superseded → ∃ q ∈ store, EverPublished q ∧ q.supersedesId = some id)

variable (hash : String → ℕ)

def Holds (s : State) (n : ℕ) : Request → Prop
  | .publish read phase => phase ≠ .reading → ∀ k, stripe hash read = some k → s.locks k = some n
  | _ => True

structure Invariant (s : State) : Prop where
  orderly : Orderly s.store
  namesOne : NamesOne s.store
  sound : ∀ n r, s.requests n = some r → r.Sound s.store
  holds : ∀ n r, s.requests n = some r → Holds hash s n r

variable {hash} {s u : State} {n m : ℕ} {r : Request} {store' : Store} {x y read p : Passport}

theorem initial_invariant : Invariant hash initial := by
  constructor
  · constructor
    · exact List.nodup_nil
    · intro q hq
      cases hq
    · exact ⟨fun _ => 0, fun q hq => absurd hq List.not_mem_nil⟩
    · intro p hp
      cases hp
    · intro p hp
      cases hp
  · rintro label ⟨p, hp, -⟩
    cases hp
  · intro n r hr
    cases hr
  · intro n r hr
    cases hr

theorem put_requests {r' : Request} (h : (s.put n r).requests m = some r') :
    m = n ∧ r' = r ∨ s.requests m = some r' := by
  by_cases hm : m = n
  · subst hm
    simp only [State.put, Function.update_self] at h
    exact .inl ⟨rfl, (Option.some.inj h).symm⟩
  · simp only [State.put, Function.update_of_ne hm] at h
    exact .inr h

theorem finish_requests (h : (s.finish n).requests m = some r) : m ≠ n ∧ s.requests m = some r := by
  by_cases hm : m = n
  · subst hm
    simp only [State.finish, Function.update_self] at h
    cases h
  · simp only [State.finish, Function.update_of_ne hm] at h
    exact ⟨hm, h⟩

theorem Invariant.put (hi : Invariant hash s) (hsound : r.Sound s.store)
    (hholds : Holds hash s n r) :
    Invariant hash (s.put n r) := by
  refine ⟨hi.orderly, hi.namesOne, fun m r' hr' => ?_, fun m r' hr' => ?_⟩
  · rcases put_requests hr' with ⟨-, rfl⟩ | hr'
    · exact hsound
    · exact hi.sound m r' hr'
  · rcases put_requests hr' with ⟨rfl, rfl⟩ | hr'
    · exact hholds
    · exact hi.holds m r' hr'

theorem Holds.finish (h : Holds hash s m r) (hne : m ≠ n) : Holds hash (s.finish n) m r := by
  cases r with
  | publish read phase =>
    intro hphase k hk
    have hlock := h hphase k hk
    have hother : s.locks k ≠ some n := by
      rw [hlock]
      exact fun heq => hne (Option.some.inj heq)
    simp only [State.finish, if_neg hother]
    exact hlock
  | _ => trivial

theorem Invariant.finish (hi : Invariant hash s) (horderly : Orderly store')
    (hone : NamesOne store')
    (hsound : ∀ m r, m ≠ n → s.requests m = some r → r.Sound store') :
    Invariant hash (({ s with store := store' } : State).finish n) := by
  refine ⟨horderly, hone, fun m r hr => ?_, fun m r hr => ?_⟩
  · obtain ⟨hne, hr⟩ := finish_requests hr
    exact hsound m r hne hr
  · obtain ⟨hne, hr⟩ := finish_requests hr
    exact (hi.holds m r hr).finish hne

theorem Invariant.leave (hi : Invariant hash s) (n : ℕ) : Invariant hash (s.finish n) :=
  hi.finish hi.orderly hi.namesOne fun m r _ hr => hi.sound m r hr

theorem Invariant.start (hi : Invariant hash s) (hstart : s.start n r = some u)
    (hsound : r.Sound s.store) (hholds : Holds hash s n r) : Invariant hash u := by
  unfold State.start at hstart
  split at hstart
  · cases hstart
  · cases hstart
    exact hi.put hsound hholds

/-- Rows are kept and none but `y` goes live: what a request relies on is still there,
unless it prints the label `y` prints. -/
theorem Request.Sound.mono {store : Store} (h : r.Sound store)
    (himage : ∀ p ∈ store, ∃ p' ∈ store', Restated p p' ∧ (EverPublished p → EverPublished p'))
    (hlive : ∀ p' ∈ store', Live p' → (∃ p ∈ store, Live p ∧ Restated p p') ∨
      ∀ read, r = .publish read .asked → ¬SameLabel read p') : r.Sound store' := by
  cases r with
  | create => trivial
  | supersede => trivial
  | change id target =>
    refine ⟨h.1, fun htarget => ?_⟩
    obtain ⟨q, hq, hep, hclaim⟩ := h.2 htarget
    obtain ⟨q', hq', hqq', hpublished⟩ := himage q hq
    exact ⟨q', hq', hpublished hep, hqq'.supersedesId_eq.trans hclaim⟩
  | publish read phase =>
    obtain ⟨⟨x, hx, hread⟩, hunopposed⟩ := h
    obtain ⟨x', hx', hxx', -⟩ := himage x hx
    refine ⟨⟨x', hx', hxx'.symm.trans hread⟩, ?_⟩
    rintro rfl p' hp' hlive' hne ⟨label, hlabel, hlabel'⟩
    rcases hlive p' hp' hlive' with ⟨p, hp, hplive, hpp'⟩ | hother
    · rw [hpp'.id_eq] at hne ⊢
      rw [hpp'.supersedesId_eq]
      exact hunopposed rfl p hp hplive hne ⟨label, hlabel, hpp'.label.symm.trans hlabel'⟩
    · exact absurd ⟨label, hlabel, hlabel'⟩ (hother read rfl)

end Requests

section Steps

variable {hash : String → ℕ} {s u : State} {n m : ℕ} {x y read p : Passport} {id : PassportId}
  {now : Int} {target : PassportStatus}

theorem insertDraft_invariant (hi : Invariant hash s) (h : insertDraft s n id = some u) :
    Invariant hash u := by
  unfold insertDraft at h
  split at h
  next body hr =>
    split at h
    · cases h
    next hheld =>
      split at h
      · cases h
      next hrefs =>
        cases h
        have hfresh : ∀ p ∈ s.store, p.id ≠ id := holds_eq_false.mp (eq_false_of_ne_true hheld)
        have hnamed : ∀ i, body.supersedesId = some i → ∃ p ∈ s.store, p.id = i := by
          intro i hbody
          simpa [hbody, AmendedLabels.holds] using hrefs
        have horderly := orderly_concat (x := newDraft id body) hi.orderly hfresh rfl rfl hnamed
        refine hi.finish horderly (namesOne_concat hi.orderly horderly hfresh rfl hi.namesOne) ?_
        intro m r _ hr
        refine (hi.sound m r hr).mono ?_ ?_
        · intro p hp
          exact ⟨p, mem_concat.mpr (.inl hp), rfl, fun hep => hep⟩
        · intro p hp hlive
          rcases mem_concat.mp hp with hp | rfl
          · exact .inl ⟨p, hp, hlive, rfl⟩
          · exact absurd rfl hlive.1.ne_draft
  next => cases h

theorem hold_invariant (hi : Invariant hash s) (h : hold hash s n = some u) :
    Invariant hash u := by
  unfold hold at h
  split at h
  next read hr =>
    have hread : (Request.publish read .holding).Sound s.store :=
      ⟨(hi.sound n _ hr).1, fun hphase => by cases hphase⟩
    split at h
    next hnone =>
      cases h
      refine hi.put hread ?_
      intro _ k hk
      cases hnone.symm.trans hk
    next k hstripe =>
      split at h
      · cases h
      next hfree =>
        cases h
        have hunheld : s.locks k = none := by simpa using hfree
        have hi' : Invariant hash { s with locks := Function.update s.locks k (some n) } := by
          refine ⟨hi.orderly, hi.namesOne, hi.sound, fun m r hm => ?_⟩
          have hholds := hi.holds m r hm
          cases r with
          | publish read phase =>
            intro hphase j hj
            have hlock := hholds hphase j hj
            have hne : j ≠ k := by
              rintro rfl
              cases hunheld.symm.trans hlock
            exact (Function.update_of_ne hne _ _).trans hlock
          | _ => trivial
        refine hi'.put hread ?_
        intro _ j hj
        cases hstripe.symm.trans hj
        exact Function.update_self ..
  next => cases h

theorem ask_invariant (hi : Invariant hash s) (h : ask s n = some u) : Invariant hash u := by
  unfold ask at h
  split at h
  next read hr =>
    split at h
    next hheld =>
      cases h
      refine hi.put ⟨(hi.sound n _ hr).1, fun _ => unopposed_of_heldElsewhere hheld⟩ ?_
      intro _ k hk
      exact hi.holds n _ hr (by simp) k hk
    next =>
      cases h
      exact hi.leave n
  next => cases h

theorem stripe_of_sameLabel (hash : String → ℕ) (h : SameLabel x y) :
    ∃ k, stripe hash x = some k ∧ stripe hash y = some k := by
  obtain ⟨label, hx, hy⟩ := h
  refine ⟨hash (Claim.key (.label (.gs1 label.1) label.2)) % stripes, ?_, ?_⟩
  · rw [stripe, (printedLabel_claims hx).1]
    rfl
  · rw [stripe, (printedLabel_claims hy).1]
    rfl

theorem Unopposed.of_restated {store : Store} (h : Unopposed store read) (hread : Restated x read) :
    Unopposed store x := by
  rintro r hr hlive hne ⟨label, hx, hlabel⟩
  have := h r hr hlive (hread.id_eq ▸ hne) ⟨label, hread.label.trans hx, hlabel⟩
  rwa [hread.id_eq, hread.supersedesId_eq] at this

/-- Two publishes of one label do not both hold its lock. -/
theorem Invariant.one_holder (hi : Invariant hash s) (hn : s.requests n = some (.publish x .asked))
    (hm : s.requests m = some (.publish y .asked)) (h : SameLabel x y) : n = m := by
  obtain ⟨k, hx, hy⟩ := stripe_of_sameLabel hash h
  have hlock := hi.holds n _ hn (by simp) k hx
  have hlock' := hi.holds m _ hm (by simp) k hy
  exact Option.some.inj (hlock.symm.trans hlock')

theorem write_invariant (hi : Invariant hash s) (hkeeps : KeepsNames s (.write n now))
    (h : write s n now = some u) : Invariant hash u := by
  unfold write at h
  split at h
  next read hr =>
    split at h
    next =>
      cases h
      obtain ⟨⟨x, hx, hread⟩, hunopposed⟩ := hi.sound n _ hr
      have hrestated : Restated x (goLive now read) := hread.trans rfl
      have hpublished : (goLive now read).status = .published := rfl
      have hep : EverPublished (goLive now read) := everPublished_of_published hpublished
      have hcurrent : (goLive now read).status ≠ .superseded := by simp [hpublished]
      rw [hread.id_eq]
      have hrows : Rewritten s.store (revise s.store x.id fun _ => goLive now read) x
          (goLive now read) := rewritten_revise hi.orderly.ids hx hrestated fun _ => hep
      have horderly := hrows.orderly hi.orderly (iff_of_true rfl hep)
        fun hsuper => absurd hsuper hcurrent
      refine hi.finish horderly ?_ ?_
      · by_cases hlive : Live x
        · exact hrows.namesOne_of_current hi.orderly hlive.2 hcurrent (fun _ => hlive.1) hi.namesOne
        · exact hrows.namesOne_of_live hi.orderly hpublished hi.namesOne
            ((hunopposed rfl).of_restated hread)
            (hkeeps read hr x hx hread.id_eq.symm hlive)
      · intro m r hne hm
        refine (hi.sound m r hm).mono (fun p hp => hrows.image hi.orderly.ids hp) ?_
        intro p hp hlive
        rcases (hrows.rows p).mp hp with ⟨hp, -⟩ | rfl
        · exact .inl ⟨p, hp, hlive, rfl⟩
        · -- the lock keeps every other publish of this label out
          right
          rintro read' rfl ⟨label, hlabel, hlabel'⟩
          exact hne (hi.one_holder hm hr ⟨label, hlabel, hlabel'⟩)
    next => cases h
  next => cases h

theorem everPublished_withStatus (hstamp : x.publishedAt.isSome = true ↔ EverPublished x)
    (hcan : x.status.canTransitionTo target = true) (htarget : target ≠ .published) :
    EverPublished (withStatus target x) ↔ EverPublished x := by
  cases hx : x.status <;> cases target <;>
    simp_all [EverPublished, Passport.neverPublished, PassportModel.neverPublished,
      PassportModel.retiredDraft, withStatus, PassportStatus.canTransitionTo]

theorem commit_invariant (hi : Invariant hash s) (hkeeps : KeepsNames s (.commit n))
    (h : commit s n = some u) : Invariant hash u := by
  unfold commit at h
  split at h
  next id target hr =>
    split at h
    next => cases h
    next x hfind =>
      obtain ⟨hx, rfl⟩ := findById_some hfind
      split at h
      next hcan =>
        cases h
        obtain ⟨htarget, hclaim⟩ := hi.sound n _ hr
        have hiff := everPublished_withStatus (hi.orderly.stamped x hx) hcan htarget
        have hcurrent : x.status ≠ .superseded := by
          intro hsuper
          rw [hsuper] at hcan
          cases hcan
        have hrows : Rewritten s.store (revise s.store x.id (withStatus target)) x
            (withStatus target x) := rewritten_revise hi.orderly.ids hx rfl hiff.mpr
        have horderly := hrows.orderly hi.orderly ((hi.orderly.stamped x hx).trans hiff.symm)
          fun hsuper => hclaim hsuper
        refine hi.finish horderly ?_ ?_
        · by_cases hsuper : target = .superseded
          · subst hsuper
            have hep : EverPublished x := hiff.mp (everPublished_of_superseded rfl)
            exact hrows.namesOne_of_superseded hi.orderly hep rfl hi.namesOne (hkeeps x.id hr)
          · exact hrows.namesOne_of_current hi.orderly hcurrent hsuper hiff.mp hi.namesOne
        · intro m r _ hm
          refine (hi.sound m r hm).mono (fun p hp => hrows.image hi.orderly.ids hp) ?_
          intro p hp hlive
          rcases (hrows.rows p).mp hp with ⟨hp, -⟩ | rfl
          · exact .inl ⟨p, hp, hlive, rfl⟩
          · exact .inl ⟨x, hx, ⟨hiff.mp hlive.1, hcurrent⟩, rfl⟩
      next => cases h
  next => cases h

theorem publishReads_invariant (hi : Invariant hash s) (h : publishReads s n id = some u) :
    Invariant hash u := by
  unfold publishReads at h
  split at h
  next => cases h
  next p hfind =>
    split at h
    · refine hi.start h ⟨⟨p, (findById_some hfind).1, rfl⟩, fun hphase => ?_⟩ fun hphase => ?_
      · cases hphase
      · exact absurd rfl hphase
    · cases h

theorem changeReads_invariant {operation : Operation} (hi : Invariant hash s)
    (h : changeReads s n operation id = some u) : Invariant hash u := by
  unfold changeReads at h
  split at h
  next => cases h
  next =>
    split at h
    · refine hi.start h ⟨?_, ?_⟩ trivial
      · cases operation <;> decide
      · intro hsuper
        cases operation <;> cases hsuper
    · cases h

theorem readSuccessor_invariant (hi : Invariant hash s) (h : readSuccessor s n = some u) :
    Invariant hash u := by
  unfold readSuccessor at h
  split at h
  next predecessor successorId _ =>
    split at h
    next => cases h
    next successor hfind =>
      split at h
      · cases h
      next hpublished =>
        split at h
        · cases h
        · split at h
          · cases h
          next hclaim =>
            cases h
            have hep := everPublished_of_published (of_not_not hpublished)
            refine hi.put ⟨by decide, fun _ => ?_⟩ trivial
            exact ⟨successor, (findById_some hfind).1, hep, of_not_not hclaim⟩
  next => cases h

theorem step_invariant {e : Event} (hi : Invariant hash s) (hkeeps : KeepsNames s e)
    (h : next hash s e = some u) : Invariant hash u := by
  cases e with
  | create n body =>
    simp only [next, createAsks] at h
    split at h
    · cases h
    · exact hi.start h trivial trivial
  | insert n id => exact insertDraft_invariant hi h
  | publish n id => exact publishReads_invariant hi h
  | hold n => exact hold_invariant hi h
  | ask n => exact ask_invariant hi h
  | write n now => exact write_invariant hi hkeeps h
  | change n operation id => exact changeReads_invariant hi h
  | supersede n predecessorId successorId =>
    simp only [next, supersedeReads] at h
    split at h
    · cases h
    · split at h
      · cases h
      · exact hi.start h trivial trivial
  | readSuccessor n => exact readSuccessor_invariant hi h
  | commit n => exact commit_invariant hi hkeeps h
  | leave n =>
    simp only [next] at h
    split at h
    · cases h
      exact hi.leave n
    · cases h

end Steps

section Runs

/-- In every interleaving whose publishes take their place and whose supersessions leave
no other answer behind, the label of a live passport never names several. -/
theorem live_labels_name_one (hash : String → ℕ) (maxHops : ℕ) (es : List Event) (s : State)
    (hrun : run (next hash) initial es = some s)
    (hkeeps : Along (next hash) KeepsNames initial es) :
    ∀ p ∈ s.store, EverPublished p → p.status ≠ .superseded → ∀ label,
      p.printedLabel = some label → ∀ message,
        resolveLabel maxHops s.store label.1 label.2.parts.1 label.2.parts.2 ≠
          .error (.internal message) := by
  have hi : Invariant hash s :=
    run_invariant (fun _ _ _ hi hkeeps hstep => step_invariant hi hkeeps hstep)
      initial_invariant hkeeps hrun
  intro p hp hep hcurrent label hlabel message
  exact resolveLabel_ne_internal maxHops hi.orderly
    (hi.namesOne label ⟨p, hp, ⟨hep, hcurrent⟩, hlabel⟩) hp ⟨⟨hep, hcurrent⟩, hlabel⟩ message

def drafted (id : PassportId) (body : NewPassport) : List Event :=
  [.create 0 body, .insert 0 id, .publish 0 id, .hold 0, .ask 0]

def replacement (serial : String) : NewPassport :=
  { sampleBody with carrierSerial := some serial, supersedesId := some 1 }

def superseded (serial : String) : List Event :=
  drafted 1 sampleBody ++ [.write 0 100] ++ drafted 2 (replacement serial) ++ [.write 0 200] ++
    [.supersede 0 1 2, .readSuccessor 0] ++ [.commit 0]

theorem drafted_keeps {s : State} {id : PassportId} {body : NewPassport} :
    Along (next String.length) KeepsNames s (drafted id body) := by
  refine along_of_forall fun e he t => ?_
  simp only [drafted, List.mem_cons, List.not_mem_nil, or_false] at he
  rcases he with rfl | rfl | rfl | rfl | rfl <;> trivial

/-- Among records that all print one label, or name one another, a publish takes its place. -/
theorem takesItsPlace_of_tied {store : Store} {label : String × CarrierQualifier} {x : Passport}
    (h : ∀ r ∈ store, x.supersedesId = some r.id ∨ SameLabel x r) :
      TakesItsPlace store label x := by
  left
  rintro r ⟨hr, -⟩
  rcases h r hr with hnames | hsame
  · exact .inl hnames
  · exact .inr (.inr hsame)

theorem store_of_run {es : List Event} {store : Store} {s : State}
    (h : (run (next String.length) initial es).map State.store = some store)
    (hs : run (next String.length) initial es = some s) : s.store = store := by
  rw [hs] at h
  exact Option.some.inj h

def firstLive : Passport := goLive 100 (newDraft 1 sampleBody)

theorem superseded_keeps : Along (next String.length) KeepsNames initial (superseded "SN-1") := by
  have hlabel : ∀ p : Passport, p.printedLabel = some (sampleGtin, .serial "SN-1") →
      SameLabel p p := fun p hp => ⟨_, hp, hp⟩
  refine along_concat.mpr ⟨along_append.mpr ⟨along_concat.mpr ⟨along_append.mpr
    ⟨along_concat.mpr ⟨drafted_keeps, ?first⟩, fun _ _ => drafted_keeps⟩, ?second⟩,
    fun _ _ => ⟨trivial, fun _ _ => ⟨trivial, fun _ _ => trivial⟩⟩⟩, ?third⟩
  case first =>
    intro s hs read _ x hx _ _ label _ _
    have hstore : s.store = [newDraft 1 sampleBody] := store_of_run (by decide +kernel) hs
    rw [hstore] at hx ⊢
    obtain rfl := List.mem_singleton.mp hx
    refine takesItsPlace_of_tied fun r hr => ?_
    rw [List.mem_singleton.mp hr]
    exact .inr (hlabel _ rfl)
  case second =>
    intro s hs read _ x hx _ hlive label _ _
    have hstore : s.store = [firstLive, newDraft 2 (replacement "SN-1")] :=
      store_of_run (by decide +kernel) hs
    rw [hstore] at hx ⊢
    rcases List.mem_pair.mp hx with rfl | rfl
    · exact absurd ⟨rfl, by decide⟩ hlive
    · refine takesItsPlace_of_tied fun r hr => ?_
      rcases List.mem_pair.mp hr with rfl | rfl
      · exact .inl rfl
      · exact .inr (hlabel _ rfl)
  case third =>
    intro s hs id hid label _ i hi
    have hstore : s.store = [firstLive, goLive 200 (newDraft 2 (replacement "SN-1"))] :=
      store_of_run (by decide +kernel) hs
    have hrequest : (run (next String.length) initial
        (drafted 1 sampleBody ++ [.write 0 100] ++ drafted 2 (replacement "SN-1") ++
          [.write 0 200] ++ [.supersede 0 1 2, .readSuccessor 0])).map (·.requests 0) =
        some (some (.change 1 .superseded)) := by decide +kernel
    rw [hs] at hrequest
    cases hid.symm.trans (Option.some.inj hrequest)
    rw [hstore] at hi
    cases hi

theorem replaced_label_names_one :
    ∃ s, run (next String.length) initial (superseded "SN-1") = some s ∧
      s.store = [withStatus .superseded firstLive, goLive 200 (newDraft 2 (replacement "SN-1"))] ∧
      ∀ p ∈ s.store, EverPublished p → p.status ≠ .superseded → ∀ label,
        p.printedLabel = some label → ∀ message,
          resolveLabel 64 s.store label.1 label.2.parts.1 label.2.parts.2 ≠
            .error (.internal message) := by
  have hrun : (run (next String.length) initial (superseded "SN-1")).isSome = true := by
    decide +kernel
  obtain ⟨s, hs⟩ := Option.isSome_iff_exists.mp hrun
  exact ⟨s, hs, store_of_run (by decide +kernel) hs,
    live_labels_name_one String.length 64 _ s hs superseded_keeps⟩

/-- A successor that prints another serial leaves the old label to a third passport. -/
def reused : List Event := superseded "SN-2" ++ drafted 3 sampleBody ++ [.write 0 300]

/-- The first passport's label leads to its successor, and the third prints it too. -/
theorem freed_label_names_two :
    ∃ s, run (next String.length) initial reused = some s ∧
      (∃ p ∈ s.store, EverPublished p ∧ p.status ≠ .superseded ∧
        p.printedLabel = some (sampleGtin, .serial "SN-1")) ∧
      ∃ message, resolveLabel 64 s.store sampleGtin none (some "SN-1") =
        .error (.internal message) := by
  have hrun : (run (next String.length) initial reused).isSome = true := by decide +kernel
  obtain ⟨s, hs⟩ := Option.isSome_iff_exists.mp hrun
  have hstore : s.store = [withStatus .superseded firstLive,
      goLive 200 (newDraft 2 (replacement "SN-2")), goLive 300 (newDraft 3 sampleBody)] :=
    store_of_run (by decide +kernel) hs
  refine ⟨s, hs, ?_⟩
  rw [hstore]
  exact ⟨⟨goLive 300 (newDraft 3 sampleBody), by simp, rfl, by decide, rfl⟩, _, rfl⟩

end Runs

end LabelClaims
