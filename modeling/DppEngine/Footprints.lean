import Mathlib.Data.List.Basic

/-! What a function asks of the environment it is given.

An environment answers questions. A function asks only certain ones if it cannot tell two
environments apart that answer those alike; which question comes next may depend on the answers so
far. -/
namespace Footprints

variable {ρ Q A ι α β : Type*} {answer : ρ → Q → A}

def AgreeOn (answer : ρ → Q → A) (questions : List Q) (r r' : ρ) : Prop :=
  ∀ q ∈ questions, answer r q = answer r' q

/-- From the answers to the questions that are asked follow the result, and the questions. -/
def AsksOnly (answer : ρ → Q → A) (asked : ρ → List Q) (f : ρ → α) : Prop :=
  ∀ r r', AgreeOn answer (asked r) r r' → asked r = asked r' ∧ f r = f r'

def transcript (answer : ρ → Q → A) (asked : ρ → List Q) (r : ρ) : List (Q × A) :=
  (asked r).map fun q => (q, answer r q)

theorem agreeOn_append {first second : List Q} {r r' : ρ} :
    AgreeOn answer (first ++ second) r r' ↔
      AgreeOn answer first r r' ∧ AgreeOn answer second r r' :=
  List.forall_mem_append

theorem AgreeOn.subset {questions more : List Q} {r r' : ρ} (h : AgreeOn answer more r r')
    (hsub : questions ⊆ more) : AgreeOn answer questions r r' :=
  fun q hq => h q (hsub hq)

section Rules

variable {asked : ρ → List Q} {f : ρ → α}

theorem AsksOnly.question (q : Q) : AsksOnly answer (fun _ => [q]) (answer · q) :=
  fun _ _ h => ⟨rfl, h q (List.mem_singleton_self q)⟩

theorem AsksOnly.pure (a : α) : AsksOnly answer (fun _ => []) fun _ => a :=
  fun _ _ _ => ⟨rfl, rfl⟩

theorem AsksOnly.map (h : AsksOnly answer asked f) (g : α → β) :
    AsksOnly answer asked fun r => g (f r) :=
  fun r r' hagree => ⟨(h r r' hagree).1, congrArg g (h r r' hagree).2⟩

/-- What is asked next may depend on what the first questions led to. -/
theorem AsksOnly.followedBy {more : ρ → List Q} {g : ρ → β} (h : AsksOnly answer asked f)
    (hmore : ∀ r r', f r = f r' → AgreeOn answer (more r) r r' → more r = more r' ∧ g r = g r') :
    AsksOnly answer (fun r => asked r ++ more r) g := by
  intro r r' hagree
  obtain ⟨hfirst, hsecond⟩ := agreeOn_append.mp hagree
  obtain ⟨hasked, hf⟩ := h r r' hfirst
  obtain ⟨hrest, hg⟩ := hmore r r' hf hsecond
  exact ⟨congrArg₂ (· ++ ·) hasked hrest, hg⟩

theorem AsksOnly.and {more : ρ → List Q} {g : ρ → β} (h : AsksOnly answer asked f)
    (hmore : AsksOnly answer more g) :
    AsksOnly answer (fun r => asked r ++ more r) fun r => (f r, g r) := by
  refine h.followedBy fun r r' hf hagree => ?_
  obtain ⟨hrest, hg⟩ := hmore r r' hagree
  exact ⟨hrest, congrArg₂ Prod.mk hf hg⟩

theorem AsksOnly.each {items : List ι} {asked : ι → ρ → List Q} {f : ι → ρ → α}
    (h : ∀ i ∈ items, AsksOnly answer (asked i) (f i)) :
    AsksOnly answer (fun r => items.flatMap (asked · r)) fun r => items.map (f · r) := by
  intro r r' hagree
  have hitem : ∀ i ∈ items, asked i r = asked i r' ∧ f i r = f i r' := by
    intro i hi
    exact h i hi r r' fun q hq => hagree q (List.mem_flatMap_of_mem hi hq)
  constructor
  · exact List.flatMap_congr fun i hi => (hitem i hi).1
  · exact List.map_congr_left fun i hi => (hitem i hi).2

def askedUntil (asked : ι → ρ → List Q) (stops : ι → ρ → Bool) : List ι → ρ → List Q
  | [], _ => []
  | i :: items, r => asked i r ++ if stops i r then [] else askedUntil asked stops items r

theorem AsksOnly.findSome? {asked : ι → ρ → List Q} {f : ι → ρ → Option α}
    (h : ∀ i, AsksOnly answer (asked i) (f i)) (items : List ι) :
    AsksOnly answer (askedUntil asked (fun i r => (f i r).isSome) items) fun r =>
      items.findSome? (f · r) := by
  induction items with
  | nil => exact .pure none
  | cons i items ih =>
    refine (h i).followedBy fun r r' hf hagree => ?_
    obtain hnone | ⟨a, hsome⟩ := (f i r).eq_none_or_eq_some
    · simp only [hnone] at hagree
      simp only [List.findSome?_cons, ← hf, hnone]
      exact ih r r' hagree
    · simp only [List.findSome?_cons, ← hf, hsome, Option.isSome_some, if_true, and_self]

theorem AsksOnly.any {asked : ι → ρ → List Q} {stops : ι → ρ → Bool}
    (h : ∀ i, AsksOnly answer (asked i) (stops i)) (items : List ι) :
    AsksOnly answer (askedUntil asked stops items) fun r => items.any (stops · r) := by
  induction items with
  | nil => exact .pure false
  | cons i items ih =>
    refine (h i).followedBy fun r r' hstops hagree => ?_
    cases hstop : stops i r with
    | true => simp only [List.any_cons, ← hstops, hstop, if_true, Bool.true_or, and_self]
    | false =>
      simp only [hstop] at hagree
      simp only [List.any_cons, ← hstops, hstop, Bool.false_or]
      exact ih r r' hagree

/-- Two environments are told apart by the transcript exactly if they answer a question that is
asked differently. -/
theorem AsksOnly.transcript_eq_iff (h : AsksOnly answer asked f) {r r' : ρ} :
    transcript answer asked r = transcript answer asked r' ↔ AgreeOn answer (asked r) r r' := by
  constructor
  · intro heq
    have hasked : asked r = asked r' := by
      have hfirst := congrArg (List.map Prod.fst) heq
      simpa [transcript, Function.comp_def] using hfirst
    unfold transcript at heq
    rw [← hasked] at heq
    intro q hq
    exact congrArg Prod.snd (List.map_inj_left.mp heq q hq)
  · intro hagree
    unfold transcript
    rw [← (h r r' hagree).1]
    exact List.map_congr_left fun q hq => by rw [hagree q hq]

end Rules

end Footprints
