import DppEngine.JsonValues
import DppEngine.TransitionSystems

/-! The active ruleset of a node and the reloads that replace it.

Boot, the poller and the admin route all call `reload`: it fetches a bundle outside the swap
mutex, then verifies and installs it while it holds the mutex. What the verification of a bundle
rests on outside this repository is a parameter. -/
namespace RulesetChannel

open JsonValues TransitionSystems

structure RulesetManifest where
  bundleVersion : String
  effectiveDate : Int
  actCitations : List String
  schemaVersions : List (String × String)
  contentSha256 : String
  deriving DecidableEq, Repr

structure SignedBundle where
  manifestJws : String
  content : Json
  deriving DecidableEq, Repr

inductive RulesetProvenance where
  | verified
  | localBaseline
  deriving DecidableEq, Repr

structure RulesetAcceptance where
  manifest : RulesetManifest
  content : Json
  provenance : RulesetProvenance
  deriving DecidableEq, Repr

def RulesetAcceptance.version (a : RulesetAcceptance) : String := a.manifest.bundleVersion

/-- What a bundle is held against: the clock, and a ruleset that was published. -/
structure AcceptancePolicy where
  now : Int
  inForce : Option RulesetManifest
  deriving DecidableEq, Repr

inductive RulesetError where
  | notYetEffective (text : String)
  | superseded (text : String)
  | other (text : String)
  deriving DecidableEq, Repr

structure RulesetReload where
  rulesetVersion : String
  changed : Bool
  deriving DecidableEq, Repr

inductive RulesetReloadError where
  | notConfigured
  | unavailable (text : String)
  | notYetEffective (text : String)
  | superseded (text : String)
  | rejected (text : String)
  deriving DecidableEq, Repr

def reloadError : RulesetError → RulesetReloadError
  | .notYetEffective text => .notYetEffective text
  | .superseded text => .superseded text
  | .other text => .rejected text

/-- The manifest a bundle is compared with: never that of the compiled-in baseline. -/
def RulesetAcceptance.inForce (a : RulesetAcceptance) : Option RulesetManifest :=
  match a.provenance with
  | .verified => some a.manifest
  | .localBaseline => none

abbrev VerifyBundle :=
  SignedBundle → String → AcceptancePolicy → Except RulesetError RulesetAcceptance

/-- What is relied on of the verification: it takes the authentic bundles that are effective and
not older than the one in force, and answers with their own manifest and content. -/
structure Verifies (verifyBundle : VerifyBundle)
    (authentic : SignedBundle → String → Option RulesetManifest) : Prop where
  ok_iff : ∀ bundle key policy a, verifyBundle bundle key policy = .ok a ↔
    authentic bundle key = some a.manifest ∧ a.content = bundle.content ∧
    a.provenance = .verified ∧ a.manifest.effectiveDate ≤ policy.now ∧
    ∀ m ∈ policy.inForce, m.effectiveDate ≤ a.manifest.effectiveDate

section Reloads

variable (verifyBundle : VerifyBundle)

/-- `verify_and_install`, between its reading of the active ruleset and its write. -/
def verifyAndInstall (bundle : SignedBundle) (publisherPubkey : String)
    (inEffect : RulesetAcceptance) (now : Int) :
    Except RulesetError (RulesetAcceptance × RulesetReload) := do
  let accepted ← verifyBundle bundle publisherPubkey ⟨now, inEffect.inForce⟩
  let changed := inEffect.manifest.contentSha256 ≠ accepted.manifest.contentSha256 ∨
    inEffect.version ≠ accepted.version
  return (accepted, ⟨accepted.version, changed⟩)

inductive Trigger where
  | boot
  | poll
  | admin
  deriving DecidableEq, Repr

/-- A reload before it has the mutex: still fetching, or with what it fetched. -/
structure Reload where
  trigger : Trigger
  fetched : Option SignedBundle
  deriving DecidableEq, Repr

/-- The reload that holds the mutex, and the ruleset it read in effect. -/
structure Swap where
  trigger : Trigger
  bundle : SignedBundle
  inEffect : RulesetAcceptance
  deriving DecidableEq, Repr

abbrev Answer := Trigger × Except RulesetReloadError RulesetReload

structure State where
  current : RulesetAcceptance
  swap : Option Swap
  reloads : List Reload
  answers : List Answer

inductive Event where
  | reload (trigger : Trigger)
  /-- The channel's answer: a failure, nothing new, or a bundle. -/
  | fetch (i : ℕ) (offered : Except String (Option SignedBundle))
  /-- Take the mutex and read the ruleset in effect. -/
  | lock (i : ℕ)
  /-- Verify, install, answer and let the mutex go. -/
  | install (now : Int)
  /-- The caller goes away while the fetch is running. -/
  | abandon (i : ℕ)

def State.initial (baseline : RulesetAcceptance) : State := ⟨baseline, none, [], []⟩

def State.answer (s : State) (trigger : Trigger)
    (result : Except RulesetReloadError RulesetReload) : State :=
  { s with answers := s.answers ++ [(trigger, result)] }

def State.drop (s : State) (i : ℕ) : State := { s with reloads := s.reloads.eraseIdx i }

/-- `channel` is the publisher key pinned for the configured channel, if there is one. -/
def State.next (channel : Option String) (s : State) : Event → Option State
  | .reload trigger =>
    match channel with
    | none => some (s.answer trigger (.error .notConfigured))
    | some _ => some { s with reloads := s.reloads ++ [⟨trigger, none⟩] }
  | .fetch i offered =>
    match s.reloads[i]? with
    | some ⟨trigger, none⟩ =>
      match offered with
      | .error text => some ((s.drop i).answer trigger (.error (.unavailable text)))
      | .ok none => some ((s.drop i).answer trigger (.ok ⟨s.current.version, false⟩))
      | .ok (some bundle) => some { s with reloads := s.reloads.set i ⟨trigger, some bundle⟩ }
    | _ => none
  | .lock i =>
    match s.swap, s.reloads[i]? with
    | none, some ⟨trigger, some bundle⟩ =>
      some { s.drop i with swap := some ⟨trigger, bundle, s.current⟩ }
    | _, _ => none
  | .install now =>
    match channel, s.swap with
    | some key, some held =>
      let released := { s with swap := none }
      match verifyAndInstall verifyBundle held.bundle key held.inEffect now with
      | .error e => some (released.answer held.trigger (.error (reloadError e)))
      | .ok (accepted, result) =>
        some ({ released with current := accepted }.answer held.trigger (.ok result))
    | _, _ => none
  | .abandon i =>
    match s.reloads[i]? with
    | some ⟨_, none⟩ => some (s.drop i)
    | _ => none

end Reloads

section Histories

variable {verifyBundle : VerifyBundle}
  {authentic : SignedBundle → String → Option RulesetManifest} {channel : Option String}
  {s t u : State} {e : Event} {baseline : RulesetAcceptance}

def HeldCurrent (s : State) : Prop := ∀ held ∈ s.swap, held.inEffect = s.current

structure Installed (s u : State) : Prop where
  verified : u.current.provenance = .verified
  notOlder : ∀ m ∈ s.current.inForce, m.effectiveDate ≤ u.current.manifest.effectiveDate
  answered : ∃ trigger result, u.answers = s.answers ++ [(trigger, .ok result)]

theorem next_cases (hv : Verifies verifyBundle authentic) (h : HeldCurrent s)
    (hnext : s.next verifyBundle channel e = some u) :
    (Installed s u ∧ u.swap = none) ∨ (u.current = s.current ∧ HeldCurrent u) := by
  cases e with
  | reload trigger =>
    right
    cases channel with
    | none =>
      cases hnext
      exact ⟨rfl, h⟩
    | some key =>
      cases hnext
      exact ⟨rfl, h⟩
  | fetch i offered =>
    right
    simp only [State.next] at hnext
    split at hnext
    · split at hnext <;> cases hnext <;> exact ⟨rfl, h⟩
    · cases hnext
  | lock i =>
    right
    simp only [State.next] at hnext
    split at hnext
    · cases hnext
      refine ⟨rfl, ?_⟩
      rintro _ ⟨⟩
      rfl
    · cases hnext
  | install now =>
    simp only [State.next] at hnext
    split at hnext
    · rename_i key held hheld
      cases hverified : verifyBundle held.bundle key ⟨now, held.inEffect.inForce⟩ with
      | error error =>
        right
        simp only [verifyAndInstall, hverified, bind, Except.bind, Option.some.injEq] at hnext
        cases hnext
        refine ⟨rfl, ?_⟩
        rintro _ ⟨⟩
      | ok accepted =>
        left
        simp only [verifyAndInstall, hverified, bind, Except.bind, pure, Except.pure,
          Option.some.injEq] at hnext
        cases hnext
        obtain ⟨-, -, hprovenance, -, hdate⟩ := (hv.ok_iff _ _ _ _).mp hverified
        rw [h held hheld] at hdate
        exact ⟨⟨hprovenance, hdate, _, _, rfl⟩, rfl⟩
    · cases hnext
  | abandon i =>
    right
    simp only [State.next] at hnext
    split at hnext
    · cases hnext
      exact ⟨rfl, h⟩
    · cases hnext

theorem step_heldCurrent (hv : Verifies verifyBundle authentic) (h : HeldCurrent s)
    (hnext : s.next verifyBundle channel e = some u) : HeldCurrent u := by
  rcases next_cases hv h hnext with ⟨-, hfree⟩ | ⟨-, hheld⟩
  · intro held hheld
    rw [hfree] at hheld
    cases hheld
  · exact hheld

/-- A step that answers with an error leaves the ruleset in effect alone. -/
theorem refused_unchanged (hv : Verifies verifyBundle authentic) (h : HeldCurrent s)
    (hnext : s.next verifyBundle channel e = some u) {trigger : Trigger}
    {error : RulesetReloadError} (hrefused : u.answers = s.answers ++ [(trigger, .error error)]) :
    u.current = s.current := by
  rcases next_cases hv h hnext with ⟨hinstalled, -⟩ | ⟨hcurrent, -⟩
  · obtain ⟨trigger', result, hanswered⟩ := hinstalled.answered
    have hsame := List.append_cancel_left (hanswered.symm.trans hrefused)
    cases hsame
  · exact hcurrent

/-- The later state has a verified ruleset that is not older, if the earlier one has one. -/
def NotBefore (s t : State) : Prop :=
  ∀ m ∈ s.current.inForce, ∃ m' ∈ t.current.inForce, m.effectiveDate ≤ m'.effectiveDate

theorem NotBefore.refl (s : State) : NotBefore s s := fun m hm => ⟨m, hm, Int.le_refl _⟩

theorem NotBefore.trans (hst : NotBefore s t) (htu : NotBefore t u) : NotBefore s u := by
  intro m hm
  obtain ⟨m', hm', hle⟩ := hst m hm
  obtain ⟨m'', hm'', hle'⟩ := htu m' hm'
  exact ⟨m'', hm'', Int.le_trans hle hle'⟩

theorem step_notBefore (hv : Verifies verifyBundle authentic) (h : HeldCurrent s)
    (hnext : s.next verifyBundle channel e = some u) : NotBefore s u := by
  rcases next_cases hv h hnext with ⟨hinstalled, -⟩ | ⟨hcurrent, -⟩
  · intro m hm
    have hin : u.current.inForce = some u.current.manifest := by
      rw [RulesetAcceptance.inForce, hinstalled.verified]
    exact ⟨_, hin, hinstalled.notOlder m hm⟩
  · intro m hm
    rw [← hcurrent] at hm
    exact ⟨m, hm, Int.le_refl _⟩

theorem run_notBefore (hv : Verifies verifyBundle authentic) (h : HeldCurrent s)
    {events : List Event} (hrun : run (State.next verifyBundle channel) s events = some t) :
    NotBefore s t ∧ HeldCurrent t := by
  have hstep : ∀ v e w, NotBefore s v ∧ HeldCurrent v →
      State.next verifyBundle channel v e = some w → NotBefore s w ∧ HeldCurrent w := by
    rintro v e w ⟨hbefore, hheld⟩ hnext
    exact ⟨hbefore.trans (step_notBefore hv hheld hnext), step_heldCurrent hv hheld hnext⟩
  have hboth := reachable_invariant hstep ⟨.refl s, h⟩ hrun
  exact hboth

theorem reachable_heldCurrent (hv : Verifies verifyBundle authentic) {events : List Event}
    (hrun : run (State.next verifyBundle channel) (.initial baseline) events = some s) :
    HeldCurrent s := by
  have hinitial : HeldCurrent (.initial baseline) := by rintro _ ⟨⟩
  exact (run_notBefore hv hinitial hrun).2

/-- No rollback: the date in force never decreases, a ruleset comes back after another only while
its own date is in force, and a refusal changes nothing. -/
theorem ruleset_never_rolls_back (verifyBundle : VerifyBundle)
    (authentic : SignedBundle → String → Option RulesetManifest)
    (hv : Verifies verifyBundle authentic) (channel : Option String) (baseline : RulesetAcceptance)
    (before : List Event) (s : State)
    (hrun : run (State.next verifyBundle channel) (.initial baseline) before = some s) :
    (∀ after t, run (State.next verifyBundle channel) s after = some t →
      ∀ m ∈ s.current.inForce, ∃ m' ∈ t.current.inForce, m.effectiveDate ≤ m'.effectiveDate) ∧
    (∀ middle after t u, run (State.next verifyBundle channel) s middle = some t →
      run (State.next verifyBundle channel) t after = some u →
      s.current.provenance = .verified → u.current = s.current →
      t.current.provenance = .verified ∧
        t.current.manifest.effectiveDate = s.current.manifest.effectiveDate) ∧
    (∀ e u trigger error, s.next verifyBundle channel e = some u →
      u.answers = s.answers ++ [(trigger, .error error)] → u.current = s.current) := by
  have hheld := reachable_heldCurrent hv hrun
  refine ⟨?_, ?_, ?_⟩
  · intro after t hafter
    exact (run_notBefore hv hheld hafter).1
  · intro middle after t u hmiddle hafter hverified hback
    obtain ⟨hst, hheld'⟩ := run_notBefore hv hheld hmiddle
    obtain ⟨htu, -⟩ := run_notBefore hv hheld' hafter
    have hs : s.current.inForce = some s.current.manifest := by
      rw [RulesetAcceptance.inForce, hverified]
    obtain ⟨m, hm, hle⟩ := hst _ hs
    obtain ⟨m', hm', hle'⟩ := htu m hm
    have ht : t.current.provenance = .verified ∧ t.current.manifest = m := by
      cases hprovenance : t.current.provenance with
      | verified =>
        simp only [RulesetAcceptance.inForce, hprovenance, Option.mem_some_iff] at hm
        exact ⟨rfl, hm⟩
      | localBaseline => simp [RulesetAcceptance.inForce, hprovenance] at hm
    have hsame : m' = s.current.manifest := by
      rw [hback, hs] at hm'
      exact (Option.some.inj hm').symm
    rw [hsame] at hle'
    refine ⟨ht.1, ?_⟩
    rw [ht.2]
    omega
  · intro e u trigger error hnext hrefused
    exact refused_unchanged hv hheld hnext hrefused

end Histories

section Samples

def sampleManifest (version : String) (effectiveDate : Int) : RulesetManifest where
  bundleVersion := version
  effectiveDate := effectiveDate
  actCitations := ["Regulation (EU) 2024/1781"]
  schemaVersions := []
  contentSha256 := version

def sampleAuthentic (bundle : SignedBundle) (key : String) : Option RulesetManifest :=
  if key = "publisher" then
    if bundle = ⟨"jws-1", .num 5⟩ then some (sampleManifest "2026-Q3.1" 100)
    else if bundle = ⟨"jws-2", .num 7⟩ then some (sampleManifest "2026-Q3.2" 100)
    else none
  else none

def sampleVerify : VerifyBundle := fun bundle key policy =>
  match sampleAuthentic bundle key with
  | none => .error (.other "signature verification failed")
  | some m =>
    if policy.now < m.effectiveDate then .error (.notYetEffective "not yet effective")
    else if policy.inForce.any fun f => m.effectiveDate < f.effectiveDate then
      .error (.superseded "superseded")
    else .ok ⟨m, bundle.content, .verified⟩

theorem sampleVerify_verifies : Verifies sampleVerify sampleAuthentic where
  ok_iff bundle key policy a := by
    obtain ⟨manifest, content, provenance⟩ := a
    cases hm : sampleAuthentic bundle key with
    | none => simp [sampleVerify, hm]
    | some m =>
      simp only [sampleVerify, hm]
      constructor
      · intro h
        split_ifs at h with hnow hdate
        cases h
        refine ⟨rfl, rfl, rfl, by omega, ?_⟩
        intro f hf
        by_contra hlt
        apply hdate
        rw [Option.mem_def.mp hf]
        simpa using hlt
      · rintro ⟨hmanifest, hcontent, hprovenance, hnow, hdate⟩
        simp only [Option.some.injEq] at hmanifest
        subst hmanifest
        rw [if_neg (by simpa using hnow), if_neg]
        · simp_all
        · intro hany
          cases hforce : policy.inForce with
          | none => simp [hforce] at hany
          | some f =>
            have hle := hdate f hforce
            simp only [hforce, Option.any_some, decide_eq_true_eq] at hany
            omega

def sampleBaseline : RulesetAcceptance := ⟨sampleManifest "baseline" 150, .obj [], .localBaseline⟩

def adopt (bundle : SignedBundle) : List Event :=
  [.reload .poll, .fetch 0 (.ok (some bundle)), .lock 0, .install 200]

theorem corrected_ruleset_stays_in_force :
    ∃ s, run (State.next sampleVerify (some "publisher")) (.initial sampleBaseline)
        (adopt ⟨"jws-1", .num 5⟩) = some s ∧
      (∀ after t, run (State.next sampleVerify (some "publisher")) s after = some t →
        ∀ m ∈ s.current.inForce, ∃ m' ∈ t.current.inForce, m.effectiveDate ≤ m'.effectiveDate) ∧
      (∀ middle after t u, run (State.next sampleVerify (some "publisher")) s middle = some t →
        run (State.next sampleVerify (some "publisher")) t after = some u →
        s.current.provenance = .verified → u.current = s.current →
        t.current.provenance = .verified ∧
          t.current.manifest.effectiveDate = s.current.manifest.effectiveDate) ∧
      (∀ e u trigger error, s.next sampleVerify (some "publisher") e = some u →
        u.answers = s.answers ++ [(trigger, .error error)] → u.current = s.current) := by
  let s := (run (State.next sampleVerify (some "publisher")) (.initial sampleBaseline)
    (adopt ⟨"jws-1", .num 5⟩)).getD (.initial sampleBaseline)
  have hrun : run (State.next sampleVerify (some "publisher")) (.initial sampleBaseline)
      (adopt ⟨"jws-1", .num 5⟩) = some s := by rfl
  exact ⟨s, hrun, ruleset_never_rolls_back sampleVerify sampleAuthentic sampleVerify_verifies
    (some "publisher") sampleBaseline (adopt ⟨"jws-1", .num 5⟩) s hrun⟩

theorem displaced_ruleset_comes_back :
    ¬ ∀ (verifyBundle : VerifyBundle)
      (authentic : SignedBundle → String → Option RulesetManifest),
      Verifies verifyBundle authentic → ∀ channel baseline before middle after s t u,
      run (State.next verifyBundle channel) (.initial baseline) before = some s →
      run (State.next verifyBundle channel) s middle = some t →
      run (State.next verifyBundle channel) t after = some u →
      s.current.provenance = .verified → t.current.provenance = .verified →
      t.current ≠ s.current → u.current ≠ s.current := by
  intro h
  let first := (run (State.next sampleVerify (some "publisher")) (.initial sampleBaseline)
    (adopt ⟨"jws-1", .num 5⟩)).getD (.initial sampleBaseline)
  let second := (run (State.next sampleVerify (some "publisher")) first
    (adopt ⟨"jws-2", .num 7⟩)).getD (.initial sampleBaseline)
  let third := (run (State.next sampleVerify (some "publisher")) second
    (adopt ⟨"jws-1", .num 5⟩)).getD (.initial sampleBaseline)
  have hfirst : run (State.next sampleVerify (some "publisher")) (.initial sampleBaseline)
      (adopt ⟨"jws-1", .num 5⟩) = some first := by rfl
  have hsecond : run (State.next sampleVerify (some "publisher")) first
      (adopt ⟨"jws-2", .num 7⟩) = some second := by rfl
  have hthird : run (State.next sampleVerify (some "publisher")) second
      (adopt ⟨"jws-1", .num 5⟩) = some third := by rfl
  have hverified : first.current.provenance = .verified ∧
      second.current.provenance = .verified := by
    decide +kernel
  have hdiffers : second.current ≠ first.current := by decide +kernel
  have hback : third.current = first.current := by decide +kernel
  exact h sampleVerify sampleAuthentic sampleVerify_verifies (some "publisher") sampleBaseline
    _ _ _ first second third hfirst hsecond hthird hverified.1 hverified.2 hdiffers hback

end Samples

end RulesetChannel
