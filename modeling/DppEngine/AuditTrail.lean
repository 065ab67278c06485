import DppEngine.DebugTexts
import DppEngine.HashChains
import DppEngine.JsonValues
import DppEngine.TransitionSystems
import Mathlib.Data.List.Induction
import Mathlib.Data.List.Perm.Basic
import Mathlib.Data.List.Sort
import Mathlib.Data.Prod.Lex
import Mathlib.Data.Int.Order.Basic

/-! The per-passport audit trail: stamping, chaining under the advisory lock,
reading back and verifying.

An entry gets its id and timestamp when it is built, outside every lock. Inside
the lock it is linked to the row newest by `(ts, id)`. Readers replay the rows
in `(ts, id)` order. Critical sections are atomic and their order is arbitrary. -/
namespace AuditTrail

open JsonValues TransitionSystems HashChains
open DebugTexts (quoted)

/-- A 128-bit identifier by its value, which is also its order in the database. -/
abbrev Uuid := ℕ

structure PassportAuditEntry where
  id : Uuid
  passportId : String
  actor : String
  action : String
  previousStatus : Option String
  newStatus : Option String
  metadata : Option Json
  timestamp : Int
  requestId : Option String
  prevHash : Option String
  entryHash : Option String
  deriving DecidableEq, Repr

def genesisPrevHash : String := ""

def PassportAuditEntry.new (id : Uuid) (now : Int) (passportId action actor : String)
    (previousStatus newStatus : Option String) : PassportAuditEntry :=
  ⟨id, passportId, actor, action, previousStatus, newStatus, none, now, none, none, none⟩

def PassportAuditEntry.withMetadata (e : PassportAuditEntry) (metadata : Json) :
    PassportAuditEntry := { e with metadata := some metadata }

/-- The members of the object `chain_hash` canonicalises. An absent optional
member is `null` there, so `metadata` is the value it is hashed as. -/
structure ChainContent where
  id : Uuid
  passportId : String
  actor : String
  action : String
  previousStatus : Option String
  newStatus : Option String
  metadata : Json
  timestamp : Int
  prevHash : String
  deriving DecidableEq, Repr

def PassportAuditEntry.content (e : PassportAuditEntry) (prevHash : String) : ChainContent :=
  ⟨e.id, e.passportId, e.actor, e.action, e.previousStatus, e.newStatus,
    e.metadata.getD .null, e.timestamp, prevHash⟩

structure AuditChainBreak where
  index : ℕ
  passportId : String
  reason : String
  deriving DecidableEq, Repr

def PassportAuditEntry.storedPrev (e : PassportAuditEntry) : String :=
  e.prevHash.getD genesisPrevHash

def PassportAuditEntry.storedHash (e : PassportAuditEntry) : String := e.entryHash.getD ""

/-- Postgres keeps microseconds. The microseconds of a timestamp are always in
range, so the conversion back never fails. -/
def truncateMicros (t : Int) : Int := t / 1000 * 1000

/-- The order of every query over the trail: `ts`, then `id`. -/
def PassportAuditEntry.key (e : PassportAuditEntry) : ℤ ×ₗ ℕ := toLex (e.timestamp, e.id)

def OlderEq (a b : PassportAuditEntry) : Prop := a.key ≤ b.key
def NewerEq (a b : PassportAuditEntry) : Prop := b.key ≤ a.key

instance : DecidableRel OlderEq := fun a b => inferInstanceAs (Decidable (a.key ≤ b.key))
instance : DecidableRel NewerEq := fun a b => inferInstanceAs (Decidable (b.key ≤ a.key))
instance : Std.Total OlderEq := ⟨fun a b => le_total a.key b.key⟩
instance : Std.Total NewerEq := ⟨fun a b => le_total b.key a.key⟩
instance : IsTrans PassportAuditEntry OlderEq := ⟨fun _ _ _ h k => le_trans h k⟩
instance : IsTrans PassportAuditEntry NewerEq := ⟨fun _ _ _ h k => le_trans k h⟩

/-- The entry as `append_in_tx` hashes and stores it, before it is linked. -/
def PassportAuditEntry.normalised (e : PassportAuditEntry) : PassportAuditEntry :=
  { e with timestamp := truncateMicros e.timestamp }

section Chain

-- `dpp_rules::canonical::content_hash`, applied to the canonical object.
variable (contentHash : ChainContent → String)

def PassportAuditEntry.chainHash (e : PassportAuditEntry) (prevHash : String) : String :=
  contentHash (e.content prevHash)

def verifyFrom (index : ℕ) (expectedPrev : String) :
    List PassportAuditEntry → Except AuditChainBreak Unit
  | [] => .ok ()
  | e :: es =>
    if e.storedPrev ≠ expectedPrev then
      .error ⟨index, e.passportId, "prev_hash link broken: stored " ++ quoted e.storedPrev ++
        ", expected " ++ quoted expectedPrev⟩
    else if e.storedHash ≠ e.chainHash contentHash expectedPrev then
      .error ⟨index, e.passportId, "entry_hash mismatch — content tampered"⟩
    else verifyFrom (index + 1) (e.chainHash contentHash expectedPrev) es

def verifyAuditChain (entries : List PassportAuditEntry) : Except AuditChainBreak Unit :=
  verifyFrom contentHash 0 genesisPrevHash entries

def rowsOf (table : List PassportAuditEntry) (passportId : String) : List PassportAuditEntry :=
  table.filter fun r => r.passportId = passportId

/-- `ORDER BY ts ASC, id ASC`. -/
def listByPassport (table : List PassportAuditEntry) (passportId : String) :
    List PassportAuditEntry := (rowsOf table passportId).insertionSort OlderEq

/-- `ORDER BY ts DESC, id DESC LIMIT 1`. -/
def newest (rows : List PassportAuditEntry) : Option PassportAuditEntry :=
  (rows.insertionSort NewerEq).head?

/-- A row without a hash predates the chain and links like an empty table. -/
def headHash (rows : List PassportAuditEntry) : String :=
  ((newest rows).bind (·.entryHash)).getD genesisPrevHash

def chained (rows : List PassportAuditEntry) (e : PassportAuditEntry) : PassportAuditEntry :=
  { e.normalised with
    prevHash := some (headHash rows)
    entryHash := some (e.normalised.chainHash contentHash (headHash rows)) }

/-- The critical section: everything between taking the advisory lock and commit. -/
def appendInTx (table : List PassportAuditEntry) (e : PassportAuditEntry) :
    List PassportAuditEntry :=
  table ++ [chained contentHash (rowsOf table e.passportId) e]

end Chain

structure State where
  inFlight : List PassportAuditEntry
  table : List PassportAuditEntry
  deriving DecidableEq, Repr

def initial : State := ⟨[], []⟩

inductive Event where
  | stamp (e : PassportAuditEntry)
  | append (i : ℕ)
  deriving DecidableEq, Repr

/-- Ids come from `Uuid::now_v7` and are never repeated. Timestamps are arbitrary:
they come from a clock that is read outside the lock. -/
def next (contentHash : ChainContent → String) (s : State) : Event → Option State
  | .stamp e =>
    if e.id ∉ s.inFlight.map (·.id) ∧ e.id ∉ s.table.map (·.id) then
      some { s with inFlight := s.inFlight ++ [e] }
    else none
  | .append i =>
    s.inFlight[i]?.map fun e =>
      { inFlight := s.inFlight.eraseIdx i, table := appendInTx contentHash s.table e }

/-- The entry an append commits sorts after every row of its passport. -/
def AppendsNewest (s : State) : Event → Prop
  | .stamp _ => True
  | .append i => ∀ e, s.inFlight[i]? = some e →
      ∀ r ∈ rowsOf s.table e.passportId, r.key < e.normalised.key

instance : ∀ s ev, Decidable (AppendsNewest s ev)
  | _, .stamp _ => .isTrue trivial
  | s, .append i => inferInstanceAs (Decidable (∀ e, s.inFlight[i]? = some e →
      ∀ r ∈ rowsOf s.table e.passportId, r.key < e.normalised.key))

section Reading

variable {contentHash : ChainContent → String} {rows : List PassportAuditEntry}
  {e m : PassportAuditEntry}

/-- Acceptance is the chain being linked from the genesis hash, wherever it is cut. -/
theorem verifyFrom_ok_iff {entries : List PassportAuditEntry} {index : ℕ} {p : String} :
    verifyFrom contentHash index p entries = .ok () ↔
      Linked PassportAuditEntry.storedPrev PassportAuditEntry.storedHash
        (PassportAuditEntry.chainHash contentHash) p entries := by
  induction entries generalizing index p with
  | nil => simp [verifyFrom, Linked]
  | cons e es ih =>
    unfold verifyFrom Linked
    split_ifs with hp hh
    · simp [hp]
    · simp [hh]
    · rw [ih]
      push Not at hp hh
      simp [hp, hh]

theorem newest_mem (h : newest rows = some m) : m ∈ rows :=
  (List.mem_insertionSort NewerEq).mp (List.mem_of_mem_head? h)

theorem newest_ge (h : newest rows = some m) {r : PassportAuditEntry} (hr : r ∈ rows) :
    r.key ≤ m.key := by
  have hs := List.pairwise_insertionSort NewerEq rows
  have hmem : r ∈ rows.insertionSort NewerEq := (List.mem_insertionSort NewerEq).mpr hr
  unfold newest at h
  cases hl : rows.insertionSort NewerEq with
  | nil => rw [hl] at h; simp at h
  | cons x xs =>
    rw [hl] at h hs hmem
    obtain rfl : x = m := by simpa using h
    rcases List.mem_cons.mp hmem with rfl | hx
    · exact le_rfl
    · exact (List.pairwise_cons.mp hs).1 r hx

theorem newest_isSome (hr : e ∈ rows) : ∃ m, newest rows = some m := by
  unfold newest
  cases hl : rows.insertionSort NewerEq with
  | nil => exact absurd ((List.mem_insertionSort NewerEq).mpr hr) (by simp [hl])
  | cons x xs => exact ⟨x, by simp⟩

def WellChained (contentHash : ChainContent → String) (rows : List PassportAuditEntry) : Prop :=
  ∀ pre e post, rows = pre ++ e :: post →
    e.prevHash = some (headHash pre) ∧
    e.entryHash = some (e.chainHash contentHash (headHash pre))

def InOrder (rows : List PassportAuditEntry) : Prop :=
  rows.Pairwise fun a b => a.key < b.key

theorem WellChained.entry_eq (h : WellChained contentHash rows) (he : e ∈ rows) :
    ∃ p, e.prevHash = some p ∧ e.entryHash = some (e.chainHash contentHash p) := by
  obtain ⟨pre, post, hsplit⟩ := List.append_of_mem he
  exact ⟨headHash pre, h pre e post hsplit⟩

theorem WellChained.pre {post : List PassportAuditEntry}
    (h : WellChained contentHash (rows ++ post)) : WellChained contentHash rows := by
  intro a e b hsplit
  exact h a e (b ++ post) (by simp [hsplit])

private theorem concat_split {α : Type*} {xs pre post : List α} {x y : α}
    (h : xs ++ [x] = pre ++ y :: post) :
    (pre = xs ∧ y = x ∧ post = []) ∨ ∃ post', post = post' ++ [x] ∧ xs = pre ++ y :: post' := by
  rcases List.eq_nil_or_concat' post with rfl | ⟨q, z, rfl⟩
  · obtain ⟨hpre, hy⟩ := List.append_inj' h rfl
    exact Or.inl ⟨hpre.symm, by simpa using hy.symm, rfl⟩
  · obtain ⟨hpre, hz⟩ := List.append_inj' (show xs ++ [x] = (pre ++ y :: q) ++ [z] by simpa using h)
      rfl
    obtain rfl : x = z := by simpa using hz
    exact Or.inr ⟨q, rfl, hpre⟩

theorem wellChained_concat : WellChained contentHash (rows ++ [e]) ↔
    WellChained contentHash rows ∧ e.prevHash = some (headHash rows) ∧
      e.entryHash = some (e.chainHash contentHash (headHash rows)) := by
  constructor
  · intro h
    exact ⟨h.pre, h rows e [] rfl⟩
  · rintro ⟨h, hp, hh⟩ pre f post hsplit
    rcases concat_split hsplit with ⟨rfl, rfl, -⟩ | ⟨post', -, hrows⟩
    · exact ⟨hp, hh⟩
    · exact h pre f post' hrows

theorem inOrder_concat : InOrder (rows ++ [e]) ↔ InOrder rows ∧ ∀ r ∈ rows, r.key < e.key := by
  simp [InOrder, List.pairwise_append]

theorem InOrder.newest_concat (h : InOrder (rows ++ [e])) : newest (rows ++ [e]) = some e := by
  obtain ⟨m, hm⟩ := newest_isSome (show e ∈ rows ++ [e] by simp)
  rcases List.mem_append.mp (newest_mem hm) with hr | hr
  · have hlt := (inOrder_concat.mp h).2 m hr
    have hge := newest_ge hm (show e ∈ rows ++ [e] by simp)
    exact absurd (lt_of_lt_of_le hlt hge) (lt_irrefl _)
  · rw [hm, List.mem_singleton.mp hr]

theorem InOrder.headHash_eq (h : InOrder rows) :
    headHash rows = tip PassportAuditEntry.storedHash genesisPrevHash rows := by
  rcases List.eq_nil_or_concat' rows with rfl | ⟨rest, e, rfl⟩
  · rfl
  · rw [headHash, h.newest_concat, tip_concat]
    rfl

theorem WellChained.linked (hw : WellChained contentHash rows) (ho : InOrder rows) :
    Linked PassportAuditEntry.storedPrev PassportAuditEntry.storedHash
      (PassportAuditEntry.chainHash contentHash) genesisPrevHash rows := by
  induction rows using List.reverseRecOn with
  | nil => trivial
  | append_singleton rows e ih =>
    obtain ⟨hrows, hprev, hhash⟩ := wellChained_concat.mp hw
    have horder := (inOrder_concat.mp ho).1
    apply linked_concat (ih hrows horder)
    · rw [← horder.headHash_eq]; simp [PassportAuditEntry.storedPrev, hprev]
    · rw [← horder.headHash_eq]; simp [PassportAuditEntry.storedHash, hhash]

def hashedContents (rows : List PassportAuditEntry) : Set ChainContent :=
  { c | ∃ r ∈ rows, c = r.content r.storedPrev }

/-- No two of the contents share a hash, and none hashes to the empty string that
stands for genesis. -/
def CollisionFreeOn (contentHash : ChainContent → String) (contents : Set ChainContent) : Prop :=
  Set.InjOn contentHash contents ∧ ∀ c ∈ contents, contentHash c ≠ genesisPrevHash

theorem WellChained.storedHash_eq (h : WellChained contentHash rows) (he : e ∈ rows) :
    e.storedHash = contentHash (e.content e.storedPrev) := by
  obtain ⟨p, hp, hh⟩ := h.entry_eq he
  simp [PassportAuditEntry.storedHash, PassportAuditEntry.storedPrev, hp, hh,
    PassportAuditEntry.chainHash]

theorem WellChained.eq_of_storedHash_eq (hc : CollisionFreeOn contentHash (hashedContents rows))
    (hw : WellChained contentHash rows) (hid : (rows.map (·.id)).Nodup) (he : e ∈ rows)
    (hm : m ∈ rows) (heq : e.storedHash = m.storedHash) : e = m := by
  rw [hw.storedHash_eq he, hw.storedHash_eq hm] at heq
  have hcontent := hc.1 ⟨e, he, rfl⟩ ⟨m, hm, rfl⟩ heq
  exact List.inj_on_of_nodup_map hid he hm (congrArg ChainContent.id hcontent)

/-- An inversion is visible in the replay: the late row names a hash that no row
sorted before it carries. -/
theorem WellChained.inOrder_of_linked
    (hc : CollisionFreeOn contentHash (hashedContents rows))
    (hw : WellChained contentHash rows) (hid : (rows.map (·.id)).Nodup)
    (hl : Linked PassportAuditEntry.storedPrev PassportAuditEntry.storedHash
      (PassportAuditEntry.chainHash contentHash) genesisPrevHash (rows.insertionSort OlderEq)) :
    InOrder rows := by
  by_contra hno
  obtain ⟨pre, e, post, hrows, r, hr, hnlt⟩ :
      ∃ pre e post, rows = pre ++ e :: post ∧ ∃ r ∈ pre, ¬ r.key < e.key := by
    by_contra hall
    push Not at hall
    apply hno
    exact List.pairwise_iff_forall_sublist.mpr fun {a b} hab => by
      obtain ⟨xs, ys, hxy, ha, hb⟩ := List.cons_sublist_iff.mp hab
      obtain ⟨us, vs, rfl⟩ := List.append_of_mem (List.singleton_sublist.mp hb)
      exact hall (xs ++ us) b vs (by simp [hxy]) a (List.mem_append_left _ ha)
  obtain ⟨m, hm⟩ := newest_isSome hr
  have hmem : m ∈ rows := by rw [hrows]; exact List.mem_append_left _ (newest_mem hm)
  have hemem : e ∈ rows := by rw [hrows]; simp
  have hge : e.key ≤ m.key := le_trans (not_lt.mp hnlt) (newest_ge hm hr)
  have hne : e ≠ m := by
    rintro rfl
    rw [hrows, List.map_append, List.nodup_append] at hid
    exact hid.2.2 _ (List.mem_map_of_mem (newest_mem hm)) _ (by simp) rfl
  have hprev : e.storedPrev = m.storedHash := by
    obtain ⟨p, -, hp⟩ := hw.entry_eq hmem
    have := (hw pre e post hrows).1
    simp [PassportAuditEntry.storedPrev, PassportAuditEntry.storedHash, this, headHash, hm, hp]
  have hsorted := List.pairwise_insertionSort OlderEq rows
  obtain ⟨a, b, hab⟩ := List.append_of_mem ((List.mem_insertionSort OlderEq).mpr hemem)
  rw [hab] at hl hsorted
  have htip := hl.prev_eq
  rw [hprev] at htip
  -- Either nothing sorts before `e`, or the row before it carries the hash of `m`.
  rcases List.eq_nil_or_concat' a with rfl | ⟨a', p, rfl⟩
  · apply hc.2 _ ⟨m, hmem, rfl⟩
    rw [← hw.storedHash_eq hmem, htip]
    rfl
  · rw [tip_concat] at htip
    have hpmem : p ∈ rows := by
      apply (List.mem_insertionSort OlderEq).mp
      rw [hab]; simp
    have hpm : m = p := hw.eq_of_storedHash_eq hc hid hmem hpmem htip
    have hpe : p.key ≤ e.key := by
      have := List.pairwise_append.mp hsorted
      exact this.2.2 p (by simp) e (by simp)
    rw [← hpm] at hpe
    have hkey : e.key = m.key := le_antisymm hge hpe
    apply hne
    have hids : e.id = m.id := by
      have := congrArg (fun k => (ofLex k).2) hkey
      simpa [PassportAuditEntry.key] using this
    exact List.inj_on_of_nodup_map hid hemem hmem hids

end Reading

section Runs

variable {contentHash : ChainContent → String} {s u : State} {es : List Event}

theorem rowsOf_append (table : List PassportAuditEntry) (e : PassportAuditEntry)
    (pid : String) : rowsOf (appendInTx contentHash table e) pid =
      if e.passportId = pid then
        rowsOf table pid ++ [chained contentHash (rowsOf table pid) e]
      else rowsOf table pid := by
  unfold appendInTx
  split_ifs with h
  · subst h; simp [rowsOf, chained, PassportAuditEntry.normalised]
  · simp [rowsOf, chained, PassportAuditEntry.normalised, h]

/-- Ids stay distinct across rows and entries still in flight, and every row was
linked to the newest row of its passport. -/
structure Invariant (contentHash : ChainContent → String) (s : State) : Prop where
  chained : ∀ pid, WellChained contentHash (rowsOf s.table pid)
  ids : (s.table.map (·.id) ++ s.inFlight.map (·.id)).Nodup

private theorem initial_invariant : Invariant contentHash initial :=
  ⟨fun _ pre e post h => by simp [initial, rowsOf] at h, by simp [initial]⟩

theorem step_preserves_invariant (h : Invariant contentHash s) {ev : Event}
    (hstep : next contentHash s ev = some u) : Invariant contentHash u := by
  cases ev with
  | stamp e =>
    simp only [next] at hstep
    split_ifs at hstep with hfresh
    cases hstep
    refine ⟨h.chained, ?_⟩
    simp only [List.map_append, List.map_cons, List.map_nil, ← List.append_assoc]
    rw [List.nodup_append]
    refine ⟨h.ids, by simp, ?_⟩
    rintro x hx y hy rfl
    obtain rfl : x = e.id := by simpa using hy
    rcases List.mem_append.mp hx with hx | hx
    · exact hfresh.2 hx
    · exact hfresh.1 hx
  | append i =>
    simp only [next, Option.map_eq_some_iff] at hstep
    obtain ⟨e, he, rfl⟩ := hstep
    constructor
    · intro pid
      rw [rowsOf_append]
      split_ifs with hp
      · exact wellChained_concat.mpr ⟨h.chained pid, rfl, rfl⟩
      · exact h.chained pid
    · obtain ⟨hi, rfl⟩ := List.getElem?_eq_some_iff.mp he
      have hperm : (s.inFlight[i] :: s.inFlight.eraseIdx i).Perm s.inFlight :=
        List.getElem_cons_eraseIdx_perm hi
      refine (List.Perm.nodup_iff ?_).mpr h.ids
      have := (hperm.map (·.id)).append_left (s.table.map (·.id))
      simpa [appendInTx, chained, PassportAuditEntry.normalised] using this

theorem run_preserves_invariant (hrun : run (next contentHash) initial es = some s) :
    Invariant contentHash s :=
  reachable_invariant (fun _ _ _ h hstep => step_preserves_invariant h hstep)
    initial_invariant hrun

/-- Appends that each commit the newest entry are rows committed in order. -/
theorem along_appendsNewest_iff (hrun : run (next contentHash) initial es = some s) :
    Along (next contentHash) AppendsNewest initial es ↔
      ∀ pid, InOrder (rowsOf s.table pid) := by
  induction es using List.reverseRecOn generalizing s with
  | nil => cases hrun; simp [Along, initial, rowsOf, InOrder]
  | append_singleton es ev ih =>
    obtain ⟨t, ht, hstep⟩ := run_concat.mp hrun
    rw [along_concat, ih ht]
    have hlast : (∀ t', run (next contentHash) initial es = some t' → AppendsNewest t' ev) ↔
        AppendsNewest t ev :=
      ⟨fun h => h t ht, fun h t' ht' => Option.some.inj (ht.symm.trans ht') ▸ h⟩
    rw [hlast]
    cases ev with
    | stamp e =>
      simp only [next] at hstep
      split_ifs at hstep
      cases hstep
      simp [AppendsNewest]
    | append i =>
      simp only [next, Option.map_eq_some_iff] at hstep
      obtain ⟨e, he, rfl⟩ := hstep
      have hkey : ∀ rows, (chained contentHash rows e).key = e.normalised.key := fun _ => rfl
      constructor
      · rintro ⟨hrows, hnew⟩ pid
        rw [rowsOf_append]
        split_ifs with hp
        · refine inOrder_concat.mpr ⟨hrows pid, fun r hr => ?_⟩
          rw [hkey]
          exact hnew e he r (hp ▸ hr)
        · exact hrows pid
      · intro hall
        refine ⟨fun pid => ?_, fun f hf r hr => ?_⟩
        · have := hall pid
          rw [rowsOf_append] at this
          split_ifs at this with hp
          · exact (inOrder_concat.mp this).1
          · exact this
        · obtain rfl : e = f := Option.some.inj (he.symm.trans hf)
          have := hall e.passportId
          rw [rowsOf_append, if_pos rfl] at this
          rw [← hkey]
          exact (inOrder_concat.mp this).2 r hr

/-- The trail of every passport verifies when every append committed an entry newer
than the rows it found, and, unless two of the hashed contents collide, only then.
The order in which entries were stamped plays no other part. -/
theorem trail_accepted_iff_appends_newest (contentHash : ChainContent → String)
    (es : List Event) (s : State) (hrun : run (next contentHash) initial es = some s) :
    (Along (next contentHash) AppendsNewest initial es →
      ∀ pid, verifyAuditChain contentHash (listByPassport s.table pid) = .ok ()) ∧
    ((∀ pid, CollisionFreeOn contentHash (hashedContents (rowsOf s.table pid))) →
      (∀ pid, verifyAuditChain contentHash (listByPassport s.table pid) = .ok ()) →
      Along (next contentHash) AppendsNewest initial es) := by
  have hinv := run_preserves_invariant hrun
  rw [along_appendsNewest_iff hrun]
  constructor
  · intro horder pid
    have hsorted : listByPassport s.table pid = rowsOf s.table pid :=
      List.Pairwise.insertionSort_eq ((horder pid).imp fun h => le_of_lt h)
    rw [hsorted]
    exact verifyFrom_ok_iff.mpr ((hinv.chained pid).linked (horder pid))
  · intro hfree haccepted pid
    have hids : ((rowsOf s.table pid).map (·.id)).Nodup :=
      (List.nodup_append.mp hinv.ids).1.sublist (List.filter_sublist.map _)
    exact (hinv.chained pid).inOrder_of_linked (hfree pid) hids
      (verifyFrom_ok_iff.mp (haccepted pid))

end Runs

section Samples

def samplePassport : String := "0197f3a2-7b1c-7def-8abc-0123456789ab"

def early : PassportAuditEntry :=
  .new 0x019b76daabe870008000000000000001 1767225601000000000 samplePassport "updated" "operator"
    (some "draft") (some "draft")

def late : PassportAuditEntry :=
  .new 0x019b76daafd070008000000000000002 1767225602000000000 samplePassport "updated" "operator"
    (some "draft") (some "draft")

def earlyDigest : String := "d374ded75b744155a46402916d393cfb6ce592ae5b7a599ae549d55f826ea2e7"
def lateDigest : String := "17f16006ca90c058c588eb839284ea6fba4634e9e112b12a3a142cc1ff1903fd"

/-- The digests SHA-256 gives the four contents two appends of these entries can hash. -/
def sampleDigest (c : ChainContent) : String :=
  if c = early.content genesisPrevHash then earlyDigest
  else if c = late.content genesisPrevHash then lateDigest
  else if c = late.content earlyDigest then
    "5d2d1091c19a47c1f39465d78c8ac42a65d2f09087139bb0c3b811f3abfb0274"
  else if c = early.content lateDigest then
    "6ec44bd6c5a659da2779b045b59244508fb0ce17208af4bfade879a0f478f1ff"
  else ""

def inOrderRun : List Event := [.stamp early, .stamp late, .append 0, .append 0]

def overtakenRun : List Event := [.stamp early, .stamp late, .append 1, .append 0]

theorem in_order_trail_accepted : ∃ s, run (next sampleDigest) initial inOrderRun = some s ∧
    s.table.map (·.id) = [early.id, late.id] ∧
    ∀ pid, verifyAuditChain sampleDigest (listByPassport s.table pid) = .ok () := by
  have hrun : run (next sampleDigest) initial inOrderRun =
      some ((run (next sampleDigest) initial inOrderRun).getD initial) := by decide +kernel
  refine ⟨_, hrun, by decide +kernel, ?_⟩
  exact (trail_accepted_iff_appends_newest sampleDigest inOrderRun _ hrun).1 (by decide +kernel)

theorem overtaken_append_breaks_trail :
    ¬ ∀ s, run (next sampleDigest) initial overtakenRun = some s →
      ∀ pid, verifyAuditChain sampleDigest (listByPassport s.table pid) = .ok () := by
  intro h
  have hrun : run (next sampleDigest) initial overtakenRun =
      some ((run (next sampleDigest) initial overtakenRun).getD initial) := by decide +kernel
  exact absurd (h _ hrun samplePassport) (by decide +kernel)

end Samples

end AuditTrail
