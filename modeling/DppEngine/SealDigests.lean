import DppEngine.NewestEntries
import DppEngine.SealOutbox

/-! Which digest a stored seal was bought over, as the outbox answers it.

A row does not say whether its seal is the one on the passport: the newest sealed row is taken to
be. Ids are drawn when a row is inserted and say nothing about the order of insertion, and
`now()` is when a transaction began, which need not be the order transactions write in. -/
namespace SealDigests

open JsonValues NewestEntries PassportModel StateChangeLog TransitionSystems
open SealOutbox hiding State Event enqueue rearmSealed sealedDigest next initial

section Operations

structure Entry where
  id : ℕ
  row : OutboxRow
  deriving DecidableEq, Repr

structure State where
  passport : Row
  table : List Entry
  /-- The entry whose seal the passport carries; none while the seal is not from this outbox. -/
  writer : Option ℕ
  deriving DecidableEq, Repr

inductive Event where
  /-- The id is the one the insertion draws, where it comes to one. -/
  | enqueue (id : ℕ) (payloadHash : String) (now : Int)
  | enqueueUnsealed (id : ℕ) (cooldown now : Int)
  | markSealed (id : ℕ) (envelope : Doc) (now : Int)
  | markAttemptFailed (id : ℕ) (message : String) (now : Int) (jitter : ℕ)
  | markExhausted (id : ℕ) (message : String) (now : Int)
  | rearmSealed (payloadHash reason : String) (now : Int)
  /-- A renewal, of the seal of this value. -/
  | replaceSeal (current : String) (renewed : Doc) (now : Int)
  deriving Repr

/-- An exhausted row of this digest is re-armed; a new digest gets a row of its own. -/
def enqueue (id : ℕ) (payloadHash : String) (now : Int) (table : List Entry) :
    Option (List Entry) :=
  if table.any (·.row.payloadHash = payloadHash) then
    some (table.map fun e =>
      if e.row.payloadHash = payloadHash ∧ e.row.status = .exhausted then
        { e with row := { e.row with
          status := .pending, attempts := 0, nextAttemptAt := now, message := none } }
      else e)
  else if table.any (·.id = id) then none
  else some (table ++ [⟨id, payloadHash, .pending, 0, now, none, none, none⟩])

/-- The row of this id, changed; an id that is not there is an error. -/
def update (id : ℕ) (change : OutboxRow → OutboxRow) (table : List Entry) : Option (List Entry) :=
  if table.any (·.id = id) then
    some (table.map fun e => if e.id = id then { e with row := change e.row } else e)
  else none

def rearmSealed (payloadHash reason : String) (now : Int) (table : List Entry) : List Entry :=
  table.map fun e =>
    if e.row.payloadHash = payloadHash ∧ e.row.status = .sealed then
      { e with row := { e.row with
        status := .pending, attempts := 0, nextAttemptAt := now, message := some reason } }
    else e

/-- By `sealed_at`, a row without one being the newest, and by id among equals. -/
def older (sealedAt : Option Int) (id : ℕ) (sealedAt' : Option Int) (id' : ℕ) : Bool :=
  match sealedAt, sealedAt' with
  | none, none => id < id'
  | none, some _ => false
  | some _, none => true
  | some t, some t' => t < t' || (t = t' && id < id')

def Entry.older (e f : Entry) : Bool := SealDigests.older e.row.sealedAt e.id f.row.sealedAt f.id

def sealedDigest (table : List Entry) : Option String :=
  (newest Entry.older (table.filter (·.row.status = .sealed))).map (·.row.payloadHash)

def sealValueOf (row : Row) : Option String :=
  (envelopeOf row.doc).bind fun envelope => (envelope.get "sealValue").bind Json.asStr

def next (digestForJws : String → String) (s : State) : Event → Option State
  | .enqueue id payloadHash now =>
    (enqueue id payloadHash now s.table).map fun table => { s with table }
  | .enqueueUnsealed id cooldown now =>
    match unsealed now cooldown s.passport (s.table.map (·.row)) with
    | none => some s
    | some jws => (enqueue id (digestForJws jws) now s.table).map fun table => { s with table }
  | .markSealed id envelope now =>
    (update id (markRowSealed now) s.table).map fun table =>
      ⟨setSeal now s.passport envelope, table, some id⟩
  | .markAttemptFailed id message now jitter =>
    (update id (markAttemptFailed now jitter message) s.table).map fun table => { s with table }
  | .markExhausted id message now =>
    (update id (markExhausted now message) s.table).map fun table => { s with table }
  | .rearmSealed payloadHash reason now =>
    some { s with table := rearmSealed payloadHash reason now s.table }
  | .replaceSeal current renewed now =>
    if sealValueOf s.passport = some current then
      some { s with passport := setSeal now s.passport renewed }
    else some s

def initial (passport : Row) : State := ⟨passport, [], none⟩

/-- The digest answered for the stored seal is that of the row that bought it. -/
def NamesTheSeal (s : State) : Prop :=
  ∀ e ∈ s.table, s.writer = some e.id → sealedDigest s.table = some e.row.payloadHash

/-- The row behind the stored seal stays sealed, and a seal is written by the row that is then the
newest. -/
def KeepsTheOrder (s : State) : Event → Prop
  | .markSealed id _ now => ∀ e ∈ s.table, e.id = id →
      ∀ other ∈ s.table, other.id ≠ id → other.row.status = .sealed →
        older other.row.sealedAt other.id (some now) id
  | .markExhausted id _ _ => ∀ e ∈ s.table, e.id = id → s.writer ≠ some id
  | .rearmSealed payloadHash _ _ => ∀ e ∈ s.table, s.writer = some e.id →
      e.row.payloadHash ≠ payloadHash
  | _ => True

end Operations

section Facts

variable {s : State} {table : List Entry} {e f : Entry} {g : Entry → Entry}

theorem older_ranked : Ranked Entry.older where
  irrefl e := by
    unfold Entry.older older
    cases e.row.sealedAt <;> simp
  trans := by
    intro a b c
    unfold Entry.older older
    cases a.row.sealedAt <;> cases b.row.sealedAt <;> cases c.row.sealedAt <;> simp <;> omega
  split := by
    intro a b c
    unfold Entry.older older
    cases a.row.sealedAt <;> cases b.row.sealedAt <;> cases c.row.sealedAt <;> simp <;> omega

theorem older_total (h : e.id ≠ f.id) : e.older f ∨ f.older e := by
  unfold Entry.older older
  cases e.row.sealedAt <;> cases f.row.sealedAt <;> simp <;> omega

/-- Every row has its own id and its own digest, and the seal's row is there. -/
structure Invariant (s : State) : Prop where
  ids : ∀ e ∈ s.table, ∀ f ∈ s.table, e.id = f.id → e = f
  hashes : ∀ e ∈ s.table, ∀ f ∈ s.table, e.row.payloadHash = f.row.payloadHash → e = f
  writer : ∀ w ∈ s.writer, ∃ e ∈ s.table, e.id = w

def IsNewest (table : List Entry) (e : Entry) : Prop :=
  e.row.status = .sealed ∧ ∀ o ∈ table, o.row.status = .sealed → ¬ e.older o

theorem sealedDigest_eq_some (h : Invariant s) (he : e ∈ s.table) :
    sealedDigest s.table = some e.row.payloadHash ↔ IsNewest s.table e := by
  have htotal : ∀ a ∈ s.table.filter (·.row.status = .sealed),
      ∀ b ∈ s.table.filter (·.row.status = .sealed), a ≠ b → a.older b ∨ b.older a := by
    intro a ha b hb hne
    refine older_total fun hid => hne ?_
    exact h.ids a (List.mem_filter.mp ha).1 b (List.mem_filter.mp hb).1 hid
  have hnewest := @newest_eq_some_iff _ _ (s.table.filter (·.row.status = .sealed)) e
    older_ranked htotal
  unfold sealedDigest
  constructor
  · intro hdigest
    obtain ⟨m, hm, hhash⟩ := Option.map_eq_some_iff.mp hdigest
    obtain ⟨hmem, _⟩ := newest_mem older_ranked hm
    cases h.hashes m (List.mem_filter.mp hmem).1 e he hhash
    obtain ⟨hsealed, hnone⟩ := hnewest.mp hm
    refine ⟨by simpa using (List.mem_filter.mp hsealed).2, ?_⟩
    intro o ho hstatus
    exact hnone o (List.mem_filter.mpr ⟨ho, by simpa using hstatus⟩)
  · rintro ⟨hsealed, hnone⟩
    have hm := hnewest.mpr ⟨List.mem_filter.mpr ⟨he, by simpa using hsealed⟩, fun o ho =>
      hnone o (List.mem_filter.mp ho).1 (by simpa using (List.mem_filter.mp ho).2)⟩
    rw [hm]
    rfl

theorem names_iff (h : Invariant s) :
    NamesTheSeal s ↔ ∀ e ∈ s.table, s.writer = some e.id → IsNewest s.table e := by
  constructor
  · intro hnames e he hw
    exact (sealedDigest_eq_some h he).mp (hnames e he hw)
  · intro hnewest e he hw
    exact (sealedDigest_eq_some h he).mpr (hnewest e he hw)

def KeepsKeys (g : Entry → Entry) : Prop :=
  ∀ e, (g e).id = e.id ∧ (g e).row.payloadHash = e.row.payloadHash

theorem invariant_map (h : Invariant s) (hg : KeepsKeys g) {passport : Row} {writer : Option ℕ}
    (hwriter : ∀ w ∈ writer, ∃ e ∈ s.table, e.id = w) :
    Invariant ⟨passport, s.table.map g, writer⟩ where
  ids := by
    intro e he f hf hid
    obtain ⟨a, ha, rfl⟩ := List.mem_map.mp he
    obtain ⟨b, hb, rfl⟩ := List.mem_map.mp hf
    rw [(hg a).1, (hg b).1] at hid
    rw [h.ids a ha b hb hid]
  hashes := by
    intro e he f hf hhash
    obtain ⟨a, ha, rfl⟩ := List.mem_map.mp he
    obtain ⟨b, hb, rfl⟩ := List.mem_map.mp hf
    rw [(hg a).2, (hg b).2] at hhash
    rw [h.hashes a ha b hb hhash]
  writer := by
    intro w hw
    obtain ⟨e, he, hid⟩ := hwriter w hw
    exact ⟨g e, List.mem_map_of_mem he, (hg e).1.trans hid⟩

/-- Rows sealed as before, and when they were. -/
theorem names_of_same_seals (h : Invariant s) (hg : KeepsKeys g)
    (hsame : ∀ e, ((g e).row.status = .sealed ↔ e.row.status = .sealed) ∧
      (g e).row.sealedAt = e.row.sealedAt) (hnames : NamesTheSeal s) :
    NamesTheSeal { s with table := s.table.map g } := by
  rw [names_iff (invariant_map h hg h.writer)]
  rw [names_iff h] at hnames
  intro e he hw
  obtain ⟨a, ha, rfl⟩ := List.mem_map.mp he
  obtain ⟨hsealed, hnone⟩ := hnames a ha (by rw [← (hg a).1]; exact hw)
  refine ⟨(hsame a).1.mpr hsealed, ?_⟩
  intro o ho hstatus
  obtain ⟨b, hb, rfl⟩ := List.mem_map.mp ho
  have hnot := hnone b hb ((hsame b).1.mp hstatus)
  unfold Entry.older at hnot ⊢
  rwa [(hsame a).2, (hsame b).2, (hg a).1, (hg b).1]

/-- Rows that stop being sealed leave the answer right exactly when the seal's row is not one. -/
theorem names_of_unsealed (h : Invariant s) (hg : KeepsKeys g) {p : Entry → Prop}
    (hkept : ∀ e, ¬ p e → g e = e) (hunsealed : ∀ e, p e → (g e).row.status ≠ .sealed)
    (hnames : NamesTheSeal s) :
    NamesTheSeal { s with table := s.table.map g } ↔
      ∀ e ∈ s.table, s.writer = some e.id → ¬ p e := by
  rw [names_iff (invariant_map h hg h.writer)]
  rw [names_iff h] at hnames
  constructor
  · intro hafter e he hw hp
    have hw' : s.writer = some (g e).id := by rw [(hg e).1]; exact hw
    exact hunsealed e hp (hafter (g e) (List.mem_map_of_mem he) hw').1
  · intro hnot e he hw
    obtain ⟨a, ha, rfl⟩ := List.mem_map.mp he
    have hwa : s.writer = some a.id := by rw [← (hg a).1]; exact hw
    have hkeep := hkept a (hnot a ha hwa)
    rw [hkeep]
    refine ⟨(hnames a ha hwa).1, ?_⟩
    intro o ho hstatus
    obtain ⟨b, hb, rfl⟩ := List.mem_map.mp ho
    by_cases hpb : p b
    · exact absurd hstatus (hunsealed b hpb)
    · rw [hkept b hpb] at hstatus ⊢
      exact (hnames a ha hwa).2 b hb hstatus

end Facts

section Steps

variable {s u : State} {table' : List Entry} {id : ℕ} {change : OutboxRow → OutboxRow}
  {payloadHash : String} {now : Int} {digestForJws : String → String} {ev : Event}

theorem update_eq {table : List Entry} (h : update id change table = some table') :
    (∃ e ∈ table, e.id = id) ∧
      table' = table.map fun e => if e.id = id then { e with row := change e.row } else e := by
  unfold update at h
  split at h
  next hfound =>
    cases h
    exact ⟨by simpa using hfound, rfl⟩
  next => cases h

theorem keepsKeys_update (hchange : ∀ row, (change row).payloadHash = row.payloadHash) :
    KeepsKeys fun e => if e.id = id then { e with row := change e.row } else e := by
  intro e
  dsimp only
  split
  · exact ⟨rfl, hchange e.row⟩
  · exact ⟨rfl, rfl⟩

theorem append_preserves (h : Invariant s) {new : Entry} (hid : ∀ e ∈ s.table, e.id ≠ new.id)
    (hhash : ∀ e ∈ s.table, e.row.payloadHash ≠ new.row.payloadHash) :
    Invariant { s with table := s.table ++ [new] } where
  ids := by
    intro e he f hf heq
    rcases List.mem_append.mp he with he | he <;> rcases List.mem_append.mp hf with hf | hf
    · exact h.ids e he f hf heq
    · cases List.mem_singleton.mp hf
      exact absurd heq (hid e he)
    · cases List.mem_singleton.mp he
      exact absurd heq.symm (hid f hf)
    · rw [List.mem_singleton.mp he, List.mem_singleton.mp hf]
  hashes := by
    intro e he f hf heq
    rcases List.mem_append.mp he with he | he <;> rcases List.mem_append.mp hf with hf | hf
    · exact h.hashes e he f hf heq
    · cases List.mem_singleton.mp hf
      exact absurd heq (hhash e he)
    · cases List.mem_singleton.mp he
      exact absurd heq.symm (hhash f hf)
    · rw [List.mem_singleton.mp he, List.mem_singleton.mp hf]
  writer := by
    intro w hw
    obtain ⟨e, he, hwid⟩ := h.writer w hw
    exact ⟨e, List.mem_append_left _ he, hwid⟩

theorem enqueue_preserves (h : Invariant s)
    (hq : enqueue id payloadHash now s.table = some table') :
    Invariant { s with table := table' } ∧
      (NamesTheSeal s → NamesTheSeal { s with table := table' }) := by
  unfold enqueue at hq
  split at hq
  next =>
    cases hq
    have hkeys : KeepsKeys fun e =>
        if e.row.payloadHash = payloadHash ∧ e.row.status = .exhausted then
          { e with row := { e.row with
            status := .pending, attempts := 0, nextAttemptAt := now, message := none } }
        else e := by
      intro e
      dsimp only
      split <;> exact ⟨rfl, rfl⟩
    refine ⟨invariant_map h hkeys h.writer, names_of_same_seals h hkeys ?_⟩
    intro e
    dsimp only
    split
    next hexhausted => simp [hexhausted.2]
    next => exact ⟨Iff.rfl, rfl⟩
  next hnew =>
    split at hq
    next => cases hq
    next hfresh =>
      cases hq
      have hid : ∀ e ∈ s.table, e.id ≠ id := by simpa using hfresh
      have hhash : ∀ e ∈ s.table, e.row.payloadHash ≠ payloadHash := by simpa using hnew
      have hinv := @append_preserves s h ⟨id, payloadHash, .pending, 0, now, none, none, none⟩
        hid hhash
      refine ⟨hinv, ?_⟩
      intro hnames
      rw [names_iff hinv]
      rw [names_iff h] at hnames
      intro e he hw
      rcases List.mem_append.mp he with he | he
      · refine ⟨(hnames e he hw).1, ?_⟩
        intro o ho hstatus
        rcases List.mem_append.mp ho with ho | ho
        · exact (hnames e he hw).2 o ho hstatus
        · cases List.mem_singleton.mp ho
          cases hstatus
      · cases List.mem_singleton.mp he
        obtain ⟨w, hwmem, hwid⟩ := h.writer id hw
        exact absurd hwid (hid w hwmem)

/-- A seal is answered for right exactly when its row is then the newest. -/
theorem markSealed_names_iff (h : Invariant s) {envelope : Doc}
    (hu : update id (markRowSealed now) s.table = some table') :
    Invariant ⟨setSeal now s.passport envelope, table', some id⟩ ∧
      (NamesTheSeal ⟨setSeal now s.passport envelope, table', some id⟩ ↔
        KeepsTheOrder s (.markSealed id envelope now)) := by
  obtain ⟨⟨w, hw, hwid⟩, rfl⟩ := update_eq hu
  have hkeys := @keepsKeys_update id (markRowSealed now) fun _ => rfl
  have hinv := @invariant_map s _ h hkeys (setSeal now s.passport envelope) (some id) (by
    intro v hv
    cases hv
    exact ⟨w, hw, hwid⟩)
  refine ⟨hinv, ?_⟩
  rw [names_iff hinv]
  constructor
  · intro hnames e he heid other hother hne hsealed
    have hnew := hnames { w with row := markRowSealed now w.row }
      (List.mem_map.mpr ⟨w, hw, if_pos hwid⟩) (congrArg some hwid.symm)
    have hnot := hnew.2 other (List.mem_map.mpr ⟨other, hother, if_neg hne⟩) hsealed
    have htotal := @older_total other { w with row := markRowSealed now w.row }
      (fun hid => hne (hid.trans hwid))
    rcases htotal with hold | hold
    · rw [← hwid]
      exact hold
    · exact absurd hold hnot
  · intro hkeeps e he hwriter
    obtain ⟨a, ha, rfl⟩ := List.mem_map.mp he
    have haid : a.id = id := by
      rw [← (hkeys a).1]
      exact (Option.some.inj hwriter).symm
    rw [if_pos haid]
    refine ⟨rfl, ?_⟩
    intro o ho hsealed hold
    obtain ⟨b, hb, rfl⟩ := List.mem_map.mp ho
    by_cases hbid : b.id = id
    · cases h.ids b hb a ha (hbid.trans haid.symm)
      rw [if_pos hbid] at hold
      exact older_ranked.irrefl _ hold
    · rw [if_neg hbid] at hold hsealed
      have hless := hkeeps a ha haid b hb hbid hsealed
      rw [← haid] at hless
      have hboth :=
        older_ranked.trans (a := b) (b := { a with row := markRowSealed now a.row }) hless
        hold
      exact older_ranked.irrefl _ hboth

theorem step_preserves (h : Invariant s) (hs : next digestForJws s ev = some u) :
    Invariant u ∧ (NamesTheSeal s → (NamesTheSeal u ↔ KeepsTheOrder s ev)) := by
  cases ev with
  | enqueue id payloadHash now =>
    obtain ⟨table, htable, rfl⟩ := Option.map_eq_some_iff.mp hs
    obtain ⟨hinv, hnames⟩ := enqueue_preserves h htable
    exact ⟨hinv, fun hn => ⟨fun _ => trivial, fun _ => hnames hn⟩⟩
  | enqueueUnsealed id cooldown now =>
    simp only [next] at hs
    split at hs
    next =>
      cases hs
      exact ⟨h, fun hn => ⟨fun _ => trivial, fun _ => hn⟩⟩
    next jws _ =>
      obtain ⟨table, htable, rfl⟩ := Option.map_eq_some_iff.mp hs
      obtain ⟨hinv, hnames⟩ := enqueue_preserves h htable
      exact ⟨hinv, fun hn => ⟨fun _ => trivial, fun _ => hnames hn⟩⟩
  | markSealed id envelope now =>
    obtain ⟨table, htable, rfl⟩ := Option.map_eq_some_iff.mp hs
    obtain ⟨hinv, hnames⟩ := @markSealed_names_iff s table id now h envelope htable
    exact ⟨hinv, fun _ => hnames⟩
  | markAttemptFailed id message now jitter =>
    obtain ⟨table, htable, rfl⟩ := Option.map_eq_some_iff.mp hs
    obtain ⟨_, rfl⟩ := update_eq htable
    have hkeys := @keepsKeys_update id (markAttemptFailed now jitter message) fun _ => rfl
    refine ⟨invariant_map h hkeys h.writer, fun hn => ⟨fun _ => trivial, fun _ => ?_⟩⟩
    refine names_of_same_seals h hkeys ?_ hn
    intro e
    split <;> exact ⟨Iff.rfl, rfl⟩
  | markExhausted id message now =>
    obtain ⟨table, htable, rfl⟩ := Option.map_eq_some_iff.mp hs
    obtain ⟨_, rfl⟩ := update_eq htable
    have hkeys := @keepsKeys_update id (markExhausted now message) fun _ => rfl
    refine ⟨invariant_map h hkeys h.writer, fun hn => ?_⟩
    have hiff := names_of_unsealed h hkeys (p := fun e => e.id = id) (fun e he => if_neg he)
      (fun e he => by simp [he, markExhausted]) hn
    refine hiff.trans ?_
    constructor
    · intro hnot e he hid hw
      exact hnot e he (hid ▸ hw) hid
    · intro hnot e he hw hid
      exact hnot e he hid (hid ▸ hw)
  | rearmSealed payloadHash reason now =>
    cases hs
    have hkeys : KeepsKeys fun e =>
        if e.row.payloadHash = payloadHash ∧ e.row.status = .sealed then
          { e with row := { e.row with
            status := .pending, attempts := 0, nextAttemptAt := now, message := some reason } }
        else e := by
      intro e
      dsimp only
      split <;> exact ⟨rfl, rfl⟩
    refine ⟨invariant_map h hkeys h.writer, fun hn => ?_⟩
    have hiff := names_of_unsealed h hkeys
      (p := fun e => e.row.payloadHash = payloadHash ∧ e.row.status = .sealed)
      (fun e he => if_neg he) (fun e he => by simp [he]) hn
    refine hiff.trans ?_
    rw [names_iff h] at hn
    constructor
    · intro hnot e he hw heq
      exact hnot e he hw ⟨heq, (hn e he hw).1⟩
    · intro hnot e he hw hp
      exact hnot e he hw hp.1
  | replaceSeal current renewed now =>
    simp only [next] at hs
    split at hs
    · cases hs
      exact ⟨⟨h.ids, h.hashes, h.writer⟩, fun hn => ⟨fun _ => trivial, fun _ => hn⟩⟩
    · cases hs
      exact ⟨h, fun hn => ⟨fun _ => trivial, fun _ => hn⟩⟩

theorem refused_keepsTheOrder (hs : next digestForJws s ev = none) : KeepsTheOrder s ev := by
  have hmissing : ∀ {change : OutboxRow → OutboxRow} {id : ℕ}, update id change s.table = none →
      ∀ e ∈ s.table, e.id ≠ id := by
    intro change id hu
    unfold update at hu
    split at hu
    next => cases hu
    next hnone => simpa using hnone
  cases ev with
  | markSealed id envelope now =>
    intro e he hid
    exact absurd hid (hmissing (Option.map_eq_none_iff.mp hs) e he)
  | markExhausted id message now =>
    intro e he hid
    exact absurd hid (hmissing (Option.map_eq_none_iff.mp hs) e he)
  | rearmSealed payloadHash reason now => cases hs
  | enqueue id payloadHash now => trivial
  | enqueueUnsealed id cooldown now => trivial
  | markAttemptFailed id message now jitter => trivial
  | replaceSeal current renewed now => trivial

/-- In every state of a run the answer is the digest the stored seal was bought over, exactly when
no step takes the seal's row out of the sealed ones and each seal is written by the row that is
then the newest. -/
theorem sealed_digest_names_the_seal_iff_order_kept (digestForJws : String → String)
    (passport : Row) (es : List Event) :
    (∀ before after t, es = before ++ after →
        run (next digestForJws) (initial passport) before = some t → NamesTheSeal t) ↔
      Along (next digestForJws) KeepsTheOrder (initial passport) es := by
  have hinv : Invariant (initial passport) := ⟨nofun, nofun, nofun⟩
  have hnames : NamesTheSeal (initial passport) := nofun
  exact states_iff_along hnames hinv (fun _ _ _ hi hs => (step_preserves hi hs).1)
    (fun _ _ _ hi hn hs => (step_preserves hi hs).2 hn) fun _ _ hs => refused_keepsTheOrder hs

instance (s : State) : Decidable (NamesTheSeal s) :=
  inferInstanceAs (Decidable (∀ e ∈ s.table, s.writer = some e.id →
    sealedDigest s.table = some e.row.payloadHash))

def samplePassport : Row :=
  ⟨1, .published, true, some 0, 0, [("jwsSignature", .str "eyJhbGciOiJFZERTQSJ9.full2.sig2")]⟩

/-- Both signatures are sealed, and the second seal is re-armed because it does not verify. -/
def rearmedSeal : List Event :=
  [.enqueue 1 firstDigest 0, .markSealed 1 (sampleEnvelope firstDigest) 10,
    .enqueue 2 secondDigest 20, .markSealed 2 (sampleEnvelope secondDigest) 30,
    .rearmSealed secondDigest "stored seal did not verify" 40]

/-- Until it is bought again, the stored seal is answered for with the digest of the first. -/
theorem rearmed_seal_is_answered_for_with_the_first :
    ¬ ∀ (digestForJws : String → String) (passport : Row) (es : List Event),
      ∀ before after t, es = before ++ after →
        run (next digestForJws) (initial passport) before = some t → NamesTheSeal t := by
  intro h
  have hfails : ((run (next id) (initial samplePassport) rearmedSeal).any
      fun t => ¬ NamesTheSeal t) = true := by decide +kernel
  obtain ⟨t, hrun, hnot⟩ := (Option.any_eq_true _ _).mp hfails
  exact of_decide_eq_true hnot
    (h id samplePassport rearmedSeal rearmedSeal [] t (List.append_nil _).symm hrun)

end Steps

end SealDigests
