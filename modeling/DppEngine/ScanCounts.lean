import DppEngine.IdempotencyKeys
import DppEngine.TransitionSystems
import Mathlib

/-! Scan and QR-render counts between the resolver's memory and the node's tables.

The resolver has at most one delivery in progress and holds at most one batch. The network
may lose, delay, repeat and reorder what was sent; whatever stands between the two parties
may answer in the node's place, but never with a success. The key a batch travels under is
minted when it is drained and names no other batch.

The node's record of an applied batch is written with it and never lapses. A claim that
came to nothing does lapse. -/
namespace ScanCounts

open TransitionSystems
open IdempotencyKeys (StatusCode Response Codec)

section Counters

variable {κ : Type*} [DecidableEq κ]

def maxTrackedKeys : ℕ := 50000

/-- A counter map; no count depends on the order of its keys. -/
abbrev Counts (κ : Type*) := List (κ × ℕ)

def increment : Counts κ → κ → Option (Counts κ)
  | [], _ => none
  | (k, n) :: m, key =>
    if k = key then some ((k, n + 1) :: m) else (increment m key).map ((k, n) :: ·)

def bump (m : Counts κ) (key : κ) : Counts κ :=
  match increment m key with
  | some m => m
  | none => if m.length < maxTrackedKeys then m ++ [(key, 1)] else m

def tracks (m : Counts κ) (key : κ) : Bool :=
  (increment m key).isSome || m.length < maxTrackedKeys

def total (p : κ → Bool) (m : Counts κ) : ℕ := (m.map fun e => if p e.1 then e.2 else 0).sum

theorem total_increment {p : κ → Bool} {m m' : Counts κ} {key : κ}
    (h : increment m key = some m') : total p m' = total p m + if p key then 1 else 0 := by
  induction m generalizing m' with
  | nil => cases h
  | cons e m ih =>
    obtain ⟨k, n⟩ := e
    simp only [increment] at h
    split at h
    next hk =>
      cases h
      subst hk
      simp only [total, List.map_cons, List.sum_cons]
      split <;> omega
    next =>
      obtain ⟨m₁, hm₁, rfl⟩ := Option.map_eq_some_iff.mp h
      have := ih hm₁
      simp only [total, List.map_cons, List.sum_cons] at this ⊢
      omega

theorem total_bump (p : κ → Bool) (m : Counts κ) (key : κ) :
    total p (bump m key) = total p m + if tracks m key && p key then 1 else 0 := by
  unfold bump tracks
  cases h : increment m key with
  | some m' => simp [total_increment h]
  | none =>
    by_cases hlen : m.length < maxTrackedKeys
    · simp [hlen, total]
    · simp [hlen]

end Counters

section Batches

inductive ScanVariant where
  | html
  | json
  deriving DecidableEq, Repr

def ScanVariant.asDb : ScanVariant → String
  | .html => "html"
  | .json => "json"

theorem ScanVariant.asDb_injective : Function.Injective ScanVariant.asDb := by
  intro a b h
  cases a <;> cases b <;> simp_all [asDb]

abbrev Day := Int

structure ScanBatchEntry where
  dppId : String
  day : Day
  variant : ScanVariant
  count : ℕ
  deriving DecidableEq, Repr

structure QrRenderBatchEntry where
  dppId : String
  day : Day
  count : ℕ
  deriving DecidableEq, Repr

structure ScanBatch where
  scans : List ScanBatchEntry
  qrRenders : List QrRenderBatchEntry
  flushIntervalSecs : Option ℕ
  deriving DecidableEq, Repr

def ScanBatch.isEmpty (b : ScanBatch) : Bool := b.scans.isEmpty && b.qrRenders.isEmpty

structure KeyedBatch where
  id : ℕ
  batch : ScanBatch
  deriving DecidableEq, Repr

structure ScanCounter where
  scans : Counts (String × Day × ScanVariant)
  qrRenders : Counts (String × Day)
  pending : Option KeyedBatch
  flushIntervalSecs : Option ℕ
  deriving DecidableEq, Repr

def ScanCounter.withFlushInterval (secs : Option ℕ) : ScanCounter := ⟨[], [], none, secs⟩

def ScanCounter.recordScan (c : ScanCounter) (dppId : String) (variant : ScanVariant)
    (today : Day) : ScanCounter :=
  { c with scans := bump c.scans (dppId, today, variant) }

def ScanCounter.recordQrRender (c : ScanCounter) (dppId : String) (today : Day) : ScanCounter :=
  { c with qrRenders := bump c.qrRenders (dppId, today) }

def ScanCounter.drain (c : ScanCounter) : ScanBatch × ScanCounter :=
  (⟨c.scans.map fun e => ⟨e.1.1, e.1.2.1, e.1.2.2, e.2⟩,
    c.qrRenders.map fun e => ⟨e.1.1, e.1.2, e.2⟩, c.flushIntervalSecs⟩,
    { c with scans := [], qrRenders := [] })

/-- The batch to send now, under the id minted for it if a window is drained. -/
def ScanCounter.nextFlush (c : ScanCounter) (id : ℕ) : KeyedBatch × ScanCounter :=
  match c.pending with
  | some held => (held, c)
  | none => (⟨id, c.drain.1⟩, c.drain.2)

def ScanCounter.hold (c : ScanCounter) (b : KeyedBatch) : ScanCounter :=
  if b.batch.isEmpty then c else { c with pending := some b }

def ScanCounter.clearPending (c : ScanCounter) : ScanCounter := { c with pending := none }

instance : DecidableEq StatusCode :=
  inferInstanceAs (DecidableEq { n : ℕ // 100 ≤ n ∧ n ≤ 999 })

abbrev Reply := Option StatusCode

def isSuccess (s : StatusCode) : Bool := 200 ≤ s.1 && s.1 ≤ 299

def isClientError (s : StatusCode) : Bool := 400 ≤ s.1 && s.1 ≤ 499

/-- The end of `flush_once`, once the delivery of `b` is answered or has failed. -/
def ScanCounter.settle (c : ScanCounter) (b : KeyedBatch) : Reply → ScanCounter
  | some s =>
    if isSuccess s then c.clearPending
    else if isClientError s then (if s.1 = 409 then c.hold b else c.clearPending)
    else c.hold b
  | none => c.hold b

end Batches

section Tables

variable {Uuid : Type} [DecidableEq Uuid] (parse : String → Option Uuid)

structure ScanIncrement (Uuid : Type) where
  dppId : Uuid
  day : Day
  variant : String
  count : ℕ

structure QrRenderIncrement (Uuid : Type) where
  dppId : Uuid
  day : Day
  count : ℕ

/-- The two counter tables; a row that is not there counts nothing. -/
structure Tables (Uuid : Type) where
  scanTelemetry : Uuid × Day × String → ℕ
  qrRender : Uuid × Day → ℕ

def Tables.empty : Tables Uuid := ⟨fun _ => 0, fun _ => 0⟩

/-- Both upserts in one transaction, each over the sums of the batch's rows by key. -/
def Tables.recordBatch (t : Tables Uuid) (scans : List (ScanIncrement Uuid))
    (qrRenders : List (QrRenderIncrement Uuid)) : Tables Uuid :=
  if scans.isEmpty && qrRenders.isEmpty then t
  else
    ⟨fun key => t.scanTelemetry key +
        (scans.map fun s => if (s.dppId, s.day, s.variant) = key then s.count else 0).sum,
      fun key => t.qrRender key +
        (qrRenders.map fun q => if (q.dppId, q.day) = key then q.count else 0).sum⟩

def ScanBatchEntry.toIncrement (s : ScanBatchEntry) : Option (ScanIncrement Uuid) :=
  (parse s.dppId).map fun id => ⟨id, s.day, s.variant.asDb, s.count⟩

def QrRenderBatchEntry.toIncrement (q : QrRenderBatchEntry) : Option (QrRenderIncrement Uuid) :=
  (parse q.dppId).map fun id => ⟨id, q.day, q.count⟩

/-- Rows whose passport id does not parse are left out. -/
def Tables.ingestBatch (t : Tables Uuid) (batch : ScanBatch) : Tables Uuid :=
  t.recordBatch (batch.scans.filterMap (ScanBatchEntry.toIncrement parse))
    (batch.qrRenders.filterMap (QrRenderBatchEntry.toIncrement parse))

inductive Counter (Uuid : Type) where
  | scans (dppId : Uuid) (day : Day) (variant : ScanVariant)
  | qrRenders (dppId : Uuid) (day : Day)
  deriving DecidableEq

def Tables.count (t : Tables Uuid) : Counter Uuid → ℕ
  | .scans id day variant => t.scanTelemetry (id, day, variant.asDb)
  | .qrRenders id day => t.qrRender (id, day)

def scanCounter (key : String × Day × ScanVariant) : Option (Counter Uuid) :=
  (parse key.1).map fun id => .scans id key.2.1 key.2.2

def qrRenderCounter (key : String × Day) : Option (Counter Uuid) :=
  (parse key.1).map fun id => .qrRenders id key.2

def ScanBatch.amount (batch : ScanBatch) (c : Counter Uuid) : ℕ :=
  (batch.scans.map fun s =>
      if scanCounter parse (s.dppId, s.day, s.variant) = some c then s.count else 0).sum +
    (batch.qrRenders.map fun q =>
      if qrRenderCounter parse (q.dppId, q.day) = some c then q.count else 0).sum

def ScanCounter.live (counter : ScanCounter) (c : Counter Uuid) : ℕ :=
  total (fun key => scanCounter parse key = some c) counter.scans +
    total (fun key => qrRenderCounter parse key = some c) counter.qrRenders

variable {parse}

theorem sum_filterMap {α β : Type*} (f : α → Option β) (g : β → ℕ) (l : List α) :
    ((l.filterMap f).map g).sum = (l.map fun a => ((f a).map g).getD 0).sum := by
  induction l with
  | nil => rfl
  | cons a l ih =>
    cases h : f a with
    | none => simp [h, ih]
    | some b => simp [h, ih]

theorem scanIncrement_amount (s : ScanBatchEntry) (id : Uuid) (day : Day) (v : ScanVariant) :
    (((s.toIncrement parse).map fun i =>
      if (i.dppId, i.day, i.variant) = (id, day, v.asDb) then i.count else 0).getD 0) =
      if scanCounter parse (s.dppId, s.day, s.variant) = some (.scans id day v) then s.count
      else 0 := by
  unfold ScanBatchEntry.toIncrement scanCounter
  cases parse s.dppId with
  | none => simp
  | some u => simp [ScanVariant.asDb_injective.eq_iff]

theorem qrRenderIncrement_amount (q : QrRenderBatchEntry) (id : Uuid) (day : Day) :
    (((q.toIncrement parse).map fun i =>
      if (i.dppId, i.day) = (id, day) then i.count else 0).getD 0) =
      if qrRenderCounter parse (q.dppId, q.day) = some (.qrRenders id day) then q.count
      else 0 := by
  unfold QrRenderBatchEntry.toIncrement qrRenderCounter
  cases parse q.dppId with
  | none => simp
  | some u => simp

theorem recordBatch_count (t : Tables Uuid) (scans : List (ScanIncrement Uuid))
    (qrRenders : List (QrRenderIncrement Uuid)) (c : Counter Uuid) :
    (t.recordBatch scans qrRenders).count c = t.count c +
      match c with
      | .scans id day v => (scans.map fun s =>
          if (s.dppId, s.day, s.variant) = (id, day, v.asDb) then s.count else 0).sum
      | .qrRenders id day =>
          (qrRenders.map fun q => if (q.dppId, q.day) = (id, day) then q.count else 0).sum := by
  unfold Tables.recordBatch
  split
  next h =>
    obtain ⟨hs, hq⟩ := Bool.and_eq_true_iff.mp h
    rw [List.isEmpty_iff.mp hs, List.isEmpty_iff.mp hq]
    cases c <;> rfl
  next => cases c <;> rfl

omit [DecidableEq Uuid] in
theorem scanCounter_ne_qrRenders (key : String × Day × ScanVariant) (id : Uuid) (day : Day) :
    scanCounter parse key ≠ some (.qrRenders id day) := by
  unfold scanCounter
  cases parse key.1 <;> simp

omit [DecidableEq Uuid] in
theorem qrRenderCounter_ne_scans (key : String × Day) (id : Uuid) (day : Day)
    (v : ScanVariant) : qrRenderCounter parse key ≠ some (.scans id day v) := by
  unfold qrRenderCounter
  cases parse key.1 <;> simp

/-- The ingest adds exactly what the batch carries for each counter. -/
theorem ingestBatch_count (t : Tables Uuid) (batch : ScanBatch) (c : Counter Uuid) :
    (t.ingestBatch parse batch).count c = t.count c + batch.amount parse c := by
  unfold Tables.ingestBatch ScanBatch.amount
  rw [recordBatch_count]
  cases c with
  | scans id day v =>
    simp only [sum_filterMap, scanIncrement_amount]
    simp [qrRenderCounter_ne_scans]
  | qrRenders id day =>
    simp only [sum_filterMap, qrRenderIncrement_amount]
    simp [scanCounter_ne_qrRenders]

theorem amount_of_isEmpty {batch : ScanBatch} (h : batch.isEmpty = true) (c : Counter Uuid) :
    batch.amount parse c = 0 := by
  obtain ⟨hs, hq⟩ := Bool.and_eq_true_iff.mp h
  simp [ScanBatch.amount, List.isEmpty_iff.mp hs, List.isEmpty_iff.mp hq]

theorem drain_amount (counter : ScanCounter) (c : Counter Uuid) :
    counter.drain.1.amount parse c = counter.live parse c := by
  simp [ScanCounter.drain, ScanBatch.amount, ScanCounter.live, total, Function.comp_def]

theorem drain_live (counter : ScanCounter) (c : Counter Uuid) :
    counter.drain.2.live parse c = 0 := by
  simp [ScanCounter.drain, ScanCounter.live, total]

end Tables

section Worlds

variable {Uuid : Type} [DecidableEq Uuid] (parse : String → Option Uuid) (codec : Codec)

/-- The node's row for a key: the attempt that claimed it, or what was answered for good. -/
inductive Row where
  | inFlight (batch : KeyedBatch)
  | completed (batch : KeyedBatch) (status : StatusCode)

def Row.batch : Row → KeyedBatch
  | .inFlight b => b
  | .completed b _ => b

inductive Recorded where
  | scan (key : String × Day × ScanVariant)
  | qrRender (key : String × Day)
  deriving DecidableEq, Repr

def Recorded.counter : Recorded → Option (Counter Uuid)
  | .scan key => scanCounter parse key
  | .qrRender key => qrRenderCounter parse key

omit [DecidableEq Uuid] in
theorem Recorded.counter_scan (key : String × Day × ScanVariant) :
    (Recorded.scan key).counter parse = scanCounter parse key := rfl

omit [DecidableEq Uuid] in
theorem Recorded.counter_qrRender (key : String × Day) :
    (Recorded.qrRender key).counter parse = qrRenderCounter parse key := rfl

/-- `drained` has each batch once, however often it is sent; `answers` are the node's own.
`recorded` and `letGo` are kept for the record: the events counted, and the batches the
resolver gave up on. -/
structure World (Uuid : Type) where
  resolver : ScanCounter
  sending : Option KeyedBatch
  drained : List KeyedBatch
  answers : List (ℕ × StatusCode)
  rows : ℕ → Option Row
  tables : Tables Uuid
  recorded : List Recorded
  letGo : List KeyedBatch

def World.initial (flushIntervalSecs : Option ℕ) : World Uuid :=
  ⟨.withFlushInterval flushIntervalSecs, none, [], [], fun _ => none, .empty, [], []⟩

inductive Event where
  | recordScan (dppId : String) (variant : ScanVariant) (today : Day)
  | recordQrRender (dppId : String) (today : Day)
  | flush
  /-- An attempt reaches the node's middleware. -/
  | arrive (batch : KeyedBatch)
  /-- The handler commits a claimed batch. -/
  | apply (id : ℕ)
  /-- The handler answers a claimed batch without having committed it. -/
  | refuse (id : ℕ) (response : Response)
  | lapse (id : ℕ)
  | answer (reply : Reply)

def World.letsGo : Reply → Bool
  | some s => isClientError s && s.1 ≠ 409
  | none => false

def noContent : StatusCode := ⟨204, by decide⟩

def conflict : StatusCode := ⟨409, by decide⟩

def unprocessable : StatusCode := ⟨422, by decide⟩

/-- The middleware's reading of the row a key has: `none` grants the claim. -/
def claimOrReplay (row : Option Row) (b : KeyedBatch) : Option StatusCode :=
  match row with
  | none => none
  | some row =>
    if row.batch.batch ≠ b.batch then some unprocessable
    else
      match row with
      | .inFlight _ => some conflict
      | .completed _ s => some s

def World.arrive (w : World Uuid) (b : KeyedBatch) : World Uuid :=
  match claimOrReplay (w.rows b.id) b with
  | none => { w with rows := Function.update w.rows b.id (some (.inFlight b)) }
  | some s => { w with answers := (b.id, s) :: w.answers }

def World.commit (w : World Uuid) (b : KeyedBatch) : World Uuid :=
  { w with
    rows := Function.update w.rows b.id (some (.completed b noContent))
    tables := w.tables.ingestBatch parse b.batch
    answers := (b.id, noContent) :: w.answers }

def World.refuse (w : World Uuid) (b : KeyedBatch) (r : Response) : World Uuid :=
  { w with
    rows := Function.update w.rows b.id
      (match IdempotencyKeys.outcome codec .verbatim r with
      | .release => none
      | .record _ => some (.completed b r.status))
    answers := (b.id, r.status) :: w.answers }

def World.next (w : World Uuid) : Event → Option (World Uuid)
  | .recordScan dppId variant today =>
    some { w with
      resolver := w.resolver.recordScan dppId variant today
      recorded :=
        if tracks w.resolver.scans (dppId, today, variant) then
          .scan (dppId, today, variant) :: w.recorded
        else w.recorded }
  | .recordQrRender dppId today =>
    some { w with
      resolver := w.resolver.recordQrRender dppId today
      recorded :=
        if tracks w.resolver.qrRenders (dppId, today) then .qrRender (dppId, today) :: w.recorded
        else w.recorded }
  | .flush =>
    match w.sending with
    | some _ => none
    | none =>
      let (b, resolver) := w.resolver.nextFlush w.drained.length
      some { w with
        resolver
        sending := some b
        drained := if w.resolver.pending.isSome then w.drained else w.drained ++ [b] }
  | .arrive b => if b ∈ w.drained then some (w.arrive b) else none
  | .apply id =>
    match w.rows id with
    | some (.inFlight b) => some (w.commit parse b)
    | _ => none
  | .refuse id r =>
    match w.rows id with
    | some (.inFlight b) => if isSuccess r.status then none else some (w.refuse codec b r)
    | _ => none
  | .lapse id =>
    match w.rows id with
    | some (.inFlight _) => some { w with rows := Function.update w.rows id none }
    | _ => none
  | .answer reply =>
    match w.sending with
    | none => none
    | some b =>
      -- A success is only ever the node's own.
      if reply.any fun s => isSuccess s && (b.id, s) ∉ w.answers then none
      else
        some { w with
          resolver := w.resolver.settle b reply
          sending := none
          letGo := if World.letsGo reply then b :: w.letGo else w.letGo }

def World.recordedCount (w : World Uuid) (c : Counter Uuid) : ℕ :=
  w.recorded.countP fun e => e.counter parse = some c

def Row.settled : Row → Bool
  | .inFlight _ => false
  | .completed _ _ => true

def Row.applied : Row → Bool
  | .inFlight _ => false
  | .completed _ s => isSuccess s

def World.settled (w : World Uuid) (id : ℕ) : Bool := (w.rows id).any Row.settled

def World.applied (w : World Uuid) (id : ℕ) : Bool := (w.rows id).any Row.applied

def World.due (w : World Uuid) (c : Counter Uuid) (b : KeyedBatch) : ℕ :=
  if w.applied b.id then 0 else b.batch.amount parse c

def World.held (w : World Uuid) (c : Counter Uuid) : ℕ :=
  (w.resolver.pending.toList.map (w.due parse c)).sum

def World.refused (w : World Uuid) (c : Counter Uuid) : ℕ :=
  (w.letGo.map fun b => if w.settled b.id then w.due parse c b else 0).sum

/-- Exactly-once delivery, in one state: no counter is ahead of what was recorded; between
deliveries every recorded event is counted, held, live, or was refused for good; and nothing
was given up that a resend could still have delivered. -/
structure World.Delivered (w : World Uuid) : Prop where
  neverExceeds : ∀ c, w.tables.count c ≤ w.recordedCount parse c
  accounted : w.sending = none → ∀ c, w.recordedCount parse c =
    w.tables.count c + w.held parse c + w.resolver.live parse c + w.refused parse c
  noneDropped : ∀ b ∈ w.letGo, b.batch.isEmpty = false → w.settled b.id = true

/-- No counts are answered with a client error other than `409` that the node has not
recorded for them: a `429`, whose claim the middleware releases, or a refusal from anything
ahead of it. -/
def World.AnsweredForGood (w : World Uuid) : Event → Prop
  | .answer (some s) => ∀ b, w.sending = some b → b.batch.isEmpty = false →
      World.letsGo (some s) = true → w.settled b.id = true
  | _ => True

end Worlds

section Sums

variable {α : Type*}

theorem sum_map_update {l : List α} {f g : α → ℕ} {b : α} {n : ℕ} (hl : l.Nodup) (hb : b ∈ l)
    (hfb : f b = g b + n) (hoff : ∀ x ∈ l, x ≠ b → f x = g x) :
    (l.map f).sum = (l.map g).sum + n := by
  induction l with
  | nil => cases hb
  | cons a l ih =>
    obtain ⟨ha, hl⟩ := List.nodup_cons.mp hl
    simp only [List.map_cons, List.sum_cons]
    by_cases hab : a = b
    · subst hab
      have hrest : l.map f = l.map g := List.map_congr_left fun x hx =>
        hoff x (List.mem_cons_of_mem _ hx) fun h => ha (h ▸ hx)
      rw [hrest, hfb]
      omega
    · have hbl : b ∈ l := (List.mem_cons.mp hb).resolve_left (Ne.symm hab)
      rw [hoff a List.mem_cons_self hab,
        ih hl hbl fun x hx => hoff x (List.mem_cons_of_mem _ hx)]
      omega

theorem sum_map_of_part [DecidableEq α] {l part : List α} (g : α → ℕ) (hl : l.Nodup)
    (hpart : part.Nodup) (hsub : ∀ x ∈ part, x ∈ l) :
    (l.map fun x => if x ∈ part then g x else 0).sum = (part.map g).sum := by
  induction part with
  | nil => simp
  | cons a part ih =>
    obtain ⟨ha, hpart⟩ := List.nodup_cons.mp hpart
    rw [List.map_cons, List.sum_cons,
      ← ih hpart fun x hx => hsub x (List.mem_cons_of_mem _ hx), Nat.add_comm]
    refine sum_map_update hl (hsub a List.mem_cons_self) ?_ ?_
    · simp [ha]
    · intro x _ hx
      simp [hx]

end Sums

section Invariants

variable {Uuid : Type} [DecidableEq Uuid] {parse : String → Option Uuid} {codec : Codec}
  {w v : World Uuid} {b : KeyedBatch}

structure Invariant (parse : String → Option Uuid) (w : World Uuid) : Prop where
  ids : w.drained.map KeyedBatch.id = List.range w.drained.length
  pending : ∀ b, w.resolver.pending = some b → b ∈ w.drained ∧ b ∉ w.letGo
  sending : ∀ b, w.sending = some b → b ∈ w.drained ∧ b ∉ w.letGo
  alone : ∀ b b', w.sending = some b → w.resolver.pending = some b' → b = b'
  letGo : w.letGo.Nodup ∧ ∀ b ∈ w.letGo, b ∈ w.drained
  rows : ∀ id r, w.rows id = some r → r.batch ∈ w.drained ∧ r.batch.id = id
  answers : ∀ id s, (id, s) ∈ w.answers → isSuccess s = true → w.applied id = true
  placed : ∀ b ∈ w.drained, w.sending = some b ∨ w.resolver.pending = some b ∨ b ∈ w.letGo ∨
    w.applied b.id = true ∨ b.batch.isEmpty = true
  recorded : ∀ c, w.recordedCount parse c =
    (w.drained.map fun b => b.batch.amount parse c).sum + w.resolver.live parse c
  counted : ∀ c, w.tables.count c =
    (w.drained.map fun b => if w.applied b.id then b.batch.amount parse c else 0).sum

theorem Invariant.drained_nodup (h : Invariant parse w) : w.drained.Nodup :=
  List.Nodup.of_map _ (h.ids ▸ List.nodup_range)

theorem Invariant.eq_of_id (h : Invariant parse w) {b b' : KeyedBatch} (hb : b ∈ w.drained)
    (hb' : b' ∈ w.drained) (hid : b.id = b'.id) : b = b' :=
  List.inj_on_of_nodup_map (h.ids ▸ List.nodup_range) hb hb' hid

theorem initial_invariant (secs : Option ℕ) :
    Invariant parse (World.initial secs : World Uuid) where
  ids := rfl
  pending _ h := nomatch h
  sending _ h := nomatch h
  alone _ _ h := nomatch h
  letGo := ⟨List.nodup_nil, nofun⟩
  rows _ _ h := nomatch h
  answers _ _ h := nomatch h
  placed := nofun
  recorded c := by
    simp [World.initial, World.recordedCount, ScanCounter.withFlushInterval, ScanCounter.live,
      total]
  counted c := by cases c <;> rfl

theorem neverExceeds_of_invariant (h : Invariant parse w) (c : Counter Uuid) :
    w.tables.count c ≤ w.recordedCount parse c := by
  rw [h.counted, h.recorded]
  have hle : (w.drained.map fun b => if w.applied b.id then b.batch.amount parse c else 0).sum ≤
      (w.drained.map fun b => b.batch.amount parse c).sum := by
    refine List.sum_le_sum fun b _ => ?_
    split <;> omega
  omega

theorem accounted_of_invariant (h : Invariant parse w) (hidle : w.sending = none)
    (hnone : ∀ b ∈ w.letGo, b.batch.isEmpty = false → w.settled b.id = true)
    (c : Counter Uuid) : w.recordedCount parse c =
      w.tables.count c + w.held parse c + w.resolver.live parse c + w.refused parse c := by
  have hheld : w.held parse c = (w.drained.map fun b =>
      if b ∈ w.resolver.pending.toList then w.due parse c b else 0).sum := by
    refine (sum_map_of_part _ h.drained_nodup ?_ ?_).symm
    · cases w.resolver.pending <;> simp
    · exact fun b hb => (h.pending b (Option.mem_toList.mp hb)).1
  have hrefused : w.refused parse c = (w.drained.map fun b =>
      if b ∈ w.letGo then (if w.settled b.id then w.due parse c b else 0) else 0).sum :=
    (sum_map_of_part _ h.drained_nodup h.letGo.1 h.letGo.2).symm
  have hsplit : ∀ b ∈ w.drained, b.batch.amount parse c =
      (if w.applied b.id then b.batch.amount parse c else 0) +
        (if b ∈ w.resolver.pending.toList then w.due parse c b else 0) +
        (if b ∈ w.letGo then (if w.settled b.id then w.due parse c b else 0) else 0) := by
    intro b hb
    cases hempty : b.batch.isEmpty with
    | true => simp [World.due, amount_of_isEmpty hempty]
    | false =>
      cases happlied : w.applied b.id with
      | true => simp [World.due, happlied]
      | false =>
        rcases h.placed b hb with hs | hp | hl | ha | he
        · rw [hidle] at hs
          cases hs
        · simp [World.due, happlied, hp, (h.pending b hp).2]
        · have hnp : w.resolver.pending ≠ some b := fun hp => (h.pending b hp).2 hl
          simp [World.due, happlied, hl, hnone b hl hempty, hnp]
        · rw [happlied] at ha
          cases ha
        · rw [hempty] at he
          cases he
  rw [h.recorded, h.counted, hheld, hrefused, List.map_congr_left hsplit, List.sum_map_add,
    List.sum_map_add]
  omega

theorem recordScan_invariant (h : Invariant parse w) (dppId : String) (variant : ScanVariant)
    (today : Day) (hv : w.next parse codec (.recordScan dppId variant today) = some v) :
    Invariant parse v := by
  cases hv
  refine { h with recorded := fun c => ?_ }
  have hlive := total_bump (fun key => scanCounter parse key = some c) w.resolver.scans
    (dppId, today, variant)
  have hrec := h.recorded c
  simp only [World.recordedCount, ScanCounter.live, ScanCounter.recordScan] at hrec ⊢
  rw [hlive]
  cases tracks w.resolver.scans (dppId, today, variant) with
  | false => simpa using hrec
  | true =>
    by_cases hc : scanCounter parse (dppId, today, variant) = some c
    · simp only [if_true, List.countP_cons, Recorded.counter_scan, Bool.true_and, hc, decide_true]
      omega
    · simp only [if_true, List.countP_cons, Recorded.counter_scan, Bool.true_and, hc,
        decide_false]
      omega

theorem recordQrRender_invariant (h : Invariant parse w) (dppId : String) (today : Day)
    (hv : w.next parse codec (.recordQrRender dppId today) = some v) : Invariant parse v := by
  cases hv
  refine { h with recorded := fun c => ?_ }
  have hlive := total_bump (fun key => qrRenderCounter parse key = some c) w.resolver.qrRenders
    (dppId, today)
  have hrec := h.recorded c
  simp only [World.recordedCount, ScanCounter.live, ScanCounter.recordQrRender] at hrec ⊢
  rw [hlive]
  cases tracks w.resolver.qrRenders (dppId, today) with
  | false => simpa using hrec
  | true =>
    by_cases hc : qrRenderCounter parse (dppId, today) = some c
    · simp only [if_true, List.countP_cons, Recorded.counter_qrRender, Bool.true_and, hc,
        decide_true]
      omega
    · simp only [if_true, List.countP_cons, Recorded.counter_qrRender, Bool.true_and, hc,
        decide_false]
      omega

theorem resend_invariant (h : Invariant parse w) (hp : w.resolver.pending = some b) :
    Invariant parse { w with sending := some b } :=
  { h with
    sending := fun b' hb' => by cases hb'; exact h.pending b hp
    alone := fun b' b'' hb' hb'' => by
      cases hb'
      exact Option.some.inj (hp.symm.trans hb'')
    placed := fun b' hb' => by
      rcases h.placed b' hb' with hs | hrest
      · exact Or.inr (Or.inl (by rw [← h.alone b' b hs hp] at hp; exact hp))
      · exact Or.inr hrest }

/-- An id that was never minted names nothing at the node. -/
theorem Invariant.fresh (h : Invariant parse w) : w.applied w.drained.length = false := by
  cases hrow : w.rows w.drained.length with
  | none => simp [World.applied, hrow]
  | some r =>
    obtain ⟨hmem, hid⟩ := h.rows _ r hrow
    have hrange : r.batch.id ∈ w.drained.map KeyedBatch.id := List.mem_map_of_mem hmem
    rw [h.ids, List.mem_range, hid] at hrange
    omega

theorem drain_invariant (h : Invariant parse w) (hs : w.sending = none)
    (hp : w.resolver.pending = none) (hb : b = ⟨w.drained.length, w.resolver.drain.1⟩) :
    Invariant parse { w with
      resolver := w.resolver.drain.2
      sending := some b
      drained := w.drained ++ [b] } := by
  have hid : b.id = w.drained.length := by rw [hb]
  have hnew : b ∉ w.drained := by
    intro hmem
    have hrange : b.id ∈ w.drained.map KeyedBatch.id := List.mem_map_of_mem hmem
    rw [h.ids, List.mem_range, hid] at hrange
    omega
  have hnotLetGo : b ∉ w.letGo := fun hl => hnew (h.letGo.2 b hl)
  refine
    { ids := ?_
      pending := fun b' hb' => absurd (hp.symm.trans hb') nofun
      sending := fun b' hb' => ?_
      alone := fun _ b' _ hb' => absurd (hp.symm.trans hb') nofun
      letGo := ⟨h.letGo.1, fun b' hb' => List.mem_append_left _ (h.letGo.2 b' hb')⟩
      rows := fun id r hr => ⟨List.mem_append_left _ (h.rows id r hr).1, (h.rows id r hr).2⟩
      answers := h.answers
      placed := fun b' hb' => ?_
      recorded := fun c => ?_
      counted := fun c => ?_ }
  · simp [h.ids, hid, List.range_succ]
  · cases hb'
    exact ⟨List.mem_append_right _ (List.mem_singleton_self _), hnotLetGo⟩
  · rcases List.mem_append.mp hb' with hold | hb'
    · rcases h.placed b' hold with hs' | hp' | hrest
      · cases hs.symm.trans hs'
      · cases hp.symm.trans hp'
      · exact Or.inr (Or.inr hrest)
    · exact Or.inl (congrArg some (List.mem_singleton.mp hb').symm)
  · have hrec := h.recorded c
    have hamount : b.batch.amount parse c = w.resolver.live parse c := by rw [hb, drain_amount]
    simp only [List.map_append, List.sum_append, List.map_singleton, List.sum_singleton,
      drain_live, hamount]
    exact hrec
  · have hunapplied : w.applied b.id = false := by rw [hid]; exact h.fresh
    have hcount := h.counted c
    simp only [List.map_append, List.sum_append, List.map_singleton, List.sum_singleton]
    change w.tables.count c = _ + if w.applied b.id then _ else 0
    rw [hunapplied]
    exact hcount

theorem flush_invariant (h : Invariant parse w) (hv : w.next parse codec .flush = some v) :
    Invariant parse v := by
  simp only [World.next] at hv
  split at hv
  next => cases hv
  next hs =>
    cases hp : w.resolver.pending with
    | some b =>
      simp only [ScanCounter.nextFlush, hp, Option.isSome_some, if_true] at hv
      cases hv
      exact resend_invariant h hp
    | none =>
      simp only [ScanCounter.nextFlush, hp, Option.isSome_none, Bool.false_eq_true,
        if_false] at hv
      cases hv
      exact drain_invariant h hs hp rfl

/-- A row may change in every way but one without a count changing. -/
theorem rowChange_invariant (h : Invariant parse w) (hb : b ∈ w.drained) {row : Option Row}
    {answers : List (ℕ × StatusCode)} (hunapplied : w.applied b.id = false)
    (hrow : ∀ r, row = some r → r.batch = b ∧ r.applied = false)
    (hanswers : ∀ id s, (id, s) ∈ answers → isSuccess s = true → (id, s) ∈ w.answers) :
    Invariant parse { w with rows := Function.update w.rows b.id row, answers } := by
  have happlied : ∀ id, World.applied { w with
      rows := Function.update w.rows b.id row, answers } id = w.applied id := by
    intro id
    by_cases hid : id = b.id
    · subst hid
      rw [hunapplied]
      cases row with
      | none => simp [World.applied]
      | some r => simp [World.applied, (hrow r rfl).2]
    · simp [World.applied, Function.update_of_ne hid]
  refine
    { h with
      rows := fun id r hr => ?_
      answers := fun id s hs hok => ?_
      placed := fun b' hb' => ?_
      counted := fun c => ?_ }
  · change Function.update w.rows b.id row id = some r at hr
    by_cases hid : id = b.id
    · subst hid
      rw [Function.update_self] at hr
      rw [(hrow r hr).1]
      exact ⟨hb, rfl⟩
    · rw [Function.update_of_ne hid] at hr
      exact h.rows id r hr
  · rw [happlied]
    exact h.answers id s (hanswers id s hs hok) hok
  · rw [happlied]
    exact h.placed b' hb'
  · simp only [happlied]
    exact h.counted c

omit [DecidableEq Uuid] in
theorem applied_of_inFlight {id : ℕ} (hrow : w.rows id = some (.inFlight b)) :
    w.applied id = false := by simp [World.applied, hrow, Row.applied]

theorem arrive_invariant (h : Invariant parse w) (hb : b ∈ w.drained) :
    Invariant parse (w.arrive b) := by
  unfold World.arrive
  cases hrow : w.rows b.id with
  | none =>
    have hunapplied : w.applied b.id = false := by simp [World.applied, hrow]
    refine rowChange_invariant h hb hunapplied (fun r hr => ?_) fun _ _ hs _ => hs
    cases hr
    exact ⟨rfl, rfl⟩
  | some row =>
    cases hclaim : claimOrReplay (some row) b with
    | none =>
      unfold claimOrReplay at hclaim
      split at hclaim
      next heq => cases heq
      next => split at hclaim <;> [cases hclaim; split at hclaim <;> cases hclaim]
    | some s =>
      refine { h with answers := fun id t ht hok => ?_ }
      rcases List.mem_cons.mp ht with heq | ht
      · cases heq
        -- Of the three answers only a replay can be a success.
        simp only [claimOrReplay] at hclaim
        split at hclaim
        next => cases hclaim; exact absurd hok (by decide)
        next =>
          cases row with
          | inFlight b' => cases hclaim; exact absurd hok (by decide)
          | completed b' s' =>
            cases hclaim
            change w.applied b.id = true
            simp [World.applied, hrow, Row.applied, hok]
      · exact h.answers id t ht hok

theorem commit_invariant (h : Invariant parse w) (hrow : w.rows b.id = some (.inFlight b)) :
    Invariant parse (w.commit parse b) := by
  have hb : b ∈ w.drained := (h.rows b.id _ hrow).1
  have happlied : ∀ id, (w.commit parse b).applied id = (id = b.id || w.applied id) := by
    intro id
    by_cases hid : id = b.id
    · subst hid
      simp [World.applied, World.commit, Row.applied, isSuccess, noContent]
    · simp [World.applied, World.commit, hid]
  refine
    { h with
      rows := fun id r hr => ?_
      answers := fun id s hs hok => ?_
      placed := fun b' hb' => ?_
      counted := fun c => ?_ }
  · change Function.update w.rows b.id _ id = some r at hr
    by_cases hid : id = b.id
    · subst hid
      rw [Function.update_self] at hr
      cases hr
      exact ⟨hb, rfl⟩
    · rw [Function.update_of_ne hid] at hr
      exact h.rows id r hr
  · rw [happlied]
    rcases List.mem_cons.mp hs with heq | hs
    · cases heq
      simp
    · simp [h.answers id s hs hok]
  · rw [happlied]
    rcases h.placed b' hb' with hs | hp | hl | ha | he
    · exact Or.inl hs
    · exact Or.inr (Or.inl hp)
    · exact Or.inr (Or.inr (Or.inl hl))
    · exact Or.inr (Or.inr (Or.inr (Or.inl (by simp [ha]))))
    · exact Or.inr (Or.inr (Or.inr (Or.inr he)))
  · have hcount : (w.commit parse b).tables.count c =
        w.tables.count c + b.batch.amount parse c := ingestBatch_count _ _ c
    rw [hcount, h.counted c]
    refine (sum_map_update h.drained_nodup hb ?_ fun x hx hne => ?_).symm
    · simp [happlied, applied_of_inFlight hrow]
    · have hid : x.id ≠ b.id := fun heq => hne (h.eq_of_id hx hb heq)
      simp [happlied, hid]

theorem refuse_invariant (h : Invariant parse w) (hrow : w.rows b.id = some (.inFlight b))
    {r : Response} (hr : isSuccess r.status = false) : Invariant parse (w.refuse codec b r) := by
  refine rowChange_invariant h (h.rows b.id _ hrow).1 (applied_of_inFlight hrow) ?_ ?_
  · intro row hrow'
    split at hrow'
    next => cases hrow'
    next => cases hrow'; exact ⟨rfl, hr⟩
  · intro id s hs hok
    rcases List.mem_cons.mp hs with heq | hs
    · cases heq
      rw [hr] at hok
      cases hok
    · exact hs

theorem settle_pending (counter : ScanCounter) (reply : Reply) (b' : KeyedBatch)
    (h : (counter.settle b reply).pending = some b') :
    b' = b ∧ World.letsGo reply = false ∨ counter.pending = some b' ∧ b.batch.isEmpty = true := by
  have hhold : ∀ {c : ScanCounter}, (c.hold b).pending = some b' →
      b' = b ∨ c.pending = some b' ∧ b.batch.isEmpty = true := by
    intro c hc
    unfold ScanCounter.hold at hc
    split at hc
    next he => exact Or.inr ⟨hc, he⟩
    next => exact Or.inl (Option.some.inj hc).symm
  cases reply with
  | none => exact (hhold h).imp (fun he => ⟨he, rfl⟩) id
  | some s =>
    simp only [ScanCounter.settle] at h
    split at h
    next => cases h
    next =>
      split at h
      next hclient =>
        split at h
        next h409 => exact (hhold h).imp (fun he => ⟨he, by simp [World.letsGo, h409]⟩) id
        next => cases h
      next hclient =>
        exact (hhold h).imp (fun he => ⟨he, by simp [World.letsGo, hclient]⟩) id

theorem not_success_of_letsGo {s : StatusCode} (h : World.letsGo (some s) = true) :
    isSuccess s = false := by
  have hclient := (Bool.and_eq_true_iff.mp h).1
  simp only [isClientError, Bool.and_eq_true, decide_eq_true_eq] at hclient
  simp only [isSuccess, Bool.and_eq_false_iff, decide_eq_false_iff_not]
  omega

theorem settle_live (counter : ScanCounter) (reply : Reply) (c : Counter Uuid) :
    (counter.settle b reply).live parse c = counter.live parse c := by
  unfold ScanCounter.settle ScanCounter.hold ScanCounter.clearPending
  repeat' split
  all_goals rfl

theorem settle_keeps (counter : ScanCounter) (reply : Reply)
    (h : (counter.settle b reply).pending ≠ some b) :
    World.letsGo reply = true ∨ b.batch.isEmpty = true ∨
      ∃ s, reply = some s ∧ isSuccess s = true := by
  have hhold : ∀ {c : ScanCounter}, (c.hold b).pending ≠ some b → b.batch.isEmpty = true := by
    intro c hc
    unfold ScanCounter.hold at hc
    split at hc
    next he => exact he
    next => exact absurd rfl hc
  cases reply with
  | none => exact Or.inr (Or.inl (hhold h))
  | some s =>
    simp only [ScanCounter.settle] at h
    split at h
    next hs => exact Or.inr (Or.inr ⟨s, rfl, hs⟩)
    next =>
      split at h
      next hclient =>
        split at h
        next => exact Or.inr (Or.inl (hhold h))
        next h409 => exact Or.inl (by simp [World.letsGo, hclient, h409])
      next => exact Or.inr (Or.inl (hhold h))

theorem answer_invariant (h : Invariant parse w) (hs : w.sending = some b) {reply : Reply}
    (hown : ∀ s, reply = some s → isSuccess s = true → (b.id, s) ∈ w.answers) :
    Invariant parse { w with
      resolver := w.resolver.settle b reply
      sending := none
      letGo := if World.letsGo reply then b :: w.letGo else w.letGo } := by
  obtain ⟨hb, hfree⟩ := h.sending b hs
  refine
    { ids := h.ids
      pending := fun b' hb' => ?_
      sending := fun _ hb' => nomatch hb'
      alone := fun _ _ hb' => nomatch hb'
      letGo := ?_
      rows := h.rows
      answers := h.answers
      placed := fun b' hb' => ?_
      recorded := fun c => ?_
      counted := h.counted }
  · rcases settle_pending _ _ _ hb' with ⟨rfl, hkept⟩ | ⟨hp, -⟩
    · simpa [hkept] using ⟨hb, hfree⟩
    · cases h.alone b b' hs hp
      cases hgo : World.letsGo reply with
      | false => simpa using ⟨hb, hfree⟩
      | true =>
        -- A reply that gives the batch up clears what was pending.
        exfalso
        cases reply with
        | none => cases hgo
        | some s =>
          obtain ⟨hclient, hne⟩ := Bool.and_eq_true_iff.mp hgo
          simp [ScanCounter.settle, not_success_of_letsGo hgo, hclient, of_decide_eq_true hne,
            ScanCounter.clearPending] at hb'
  · split
    · exact ⟨List.nodup_cons.mpr ⟨hfree, h.letGo.1⟩, fun b' hb' =>
        (List.mem_cons.mp hb').elim (fun he => he ▸ hb) (h.letGo.2 b')⟩
    · exact h.letGo
  · by_cases hp : (w.resolver.settle b reply).pending = some b'
    · exact Or.inr (Or.inl hp)
    · by_cases hbb : b' = b
      · subst hbb
        rcases settle_keeps _ _ hp with hgo | hempty | ⟨s, hs', hok⟩
        · exact Or.inr (Or.inr (Or.inl (by simp [hgo])))
        · exact Or.inr (Or.inr (Or.inr (Or.inr hempty)))
        · exact Or.inr (Or.inr (Or.inr (Or.inl (h.answers _ s (hown s hs' hok) hok))))
      · rcases h.placed b' hb' with hs' | hp' | hl | hrest
        · exact absurd (Option.some.inj (hs.symm.trans hs')).symm hbb
        · exact absurd (h.alone b b' hs hp').symm hbb
        · refine Or.inr (Or.inr (Or.inl ?_))
          split
          · exact List.mem_cons_of_mem _ hl
          · exact hl
        · exact Or.inr (Or.inr (Or.inr hrest))
  · rw [settle_live]
    exact h.recorded c

theorem next_answer {reply : Reply} (hv : w.next parse codec (.answer reply) = some v) :
    ∃ b, w.sending = some b ∧
      (∀ s, reply = some s → isSuccess s = true → (b.id, s) ∈ w.answers) ∧
      v = { w with
        resolver := w.resolver.settle b reply
        sending := none
        letGo := if World.letsGo reply then b :: w.letGo else w.letGo } := by
  simp only [World.next] at hv
  split at hv
  next => cases hv
  next b hs =>
    split at hv
    next => cases hv
    next hguard =>
      refine ⟨b, hs, ?_, (Option.some.inj hv).symm⟩
      rintro s rfl hok
      by_contra hmem
      exact hguard (by simp [hok, hmem])

theorem step_preserves_invariant {e : Event} (h : Invariant parse w)
    (hv : w.next parse codec e = some v) : Invariant parse v := by
  cases e with
  | recordScan dppId variant today => exact recordScan_invariant h dppId variant today hv
  | recordQrRender dppId today => exact recordQrRender_invariant h dppId today hv
  | flush => exact flush_invariant h hv
  | arrive b =>
    simp only [World.next] at hv
    split at hv
    next hb => cases hv; exact arrive_invariant h hb
    next => cases hv
  | apply id =>
    simp only [World.next] at hv
    split at hv
    next b hrow =>
      cases hv
      cases (h.rows id _ hrow).2
      exact commit_invariant h hrow
    next => cases hv
  | refuse id r =>
    simp only [World.next] at hv
    split at hv
    next b hrow =>
      split at hv
      next => cases hv
      next hr =>
        cases hv
        cases (h.rows id _ hrow).2
        exact refuse_invariant h hrow (Bool.eq_false_iff.mpr hr)
    next => cases hv
  | lapse id =>
    simp only [World.next] at hv
    split at hv
    next b hrow =>
      cases hv
      obtain ⟨hb, hid⟩ := h.rows id _ hrow
      cases hid
      exact rowChange_invariant h hb (applied_of_inFlight hrow) (fun _ hr => nomatch hr)
        fun _ _ hs _ => hs
    next => cases hv
  | answer reply =>
    obtain ⟨b, hs, hown, rfl⟩ := next_answer hv
    exact answer_invariant h hs hown

omit [DecidableEq Uuid] in
theorem settled_update {id key : ℕ} {row : Option Row} (hid : w.settled id = true)
    (hkey : w.settled key = false) :
    ((Function.update w.rows key row) id).any Row.settled = true := by
  have hne : id ≠ key := by
    rintro rfl
    rw [hid] at hkey
    cases hkey
  rw [Function.update_of_ne hne]
  exact hid

omit [DecidableEq Uuid] in
theorem not_settled_of_inFlight {key : ℕ} (hrow : w.rows key = some (.inFlight b)) :
    w.settled key = false := by
  simp [World.settled, hrow, Row.settled]

omit [DecidableEq Uuid] in
theorem not_settled_of_claimed (hclaim : claimOrReplay (w.rows b.id) b = none) :
    w.settled b.id = false := by
  cases hrow : w.rows b.id with
  | none => simp [World.settled, hrow]
  | some row =>
    rw [hrow] at hclaim
    simp only [claimOrReplay] at hclaim
    split at hclaim <;> [cases hclaim; split at hclaim <;> cases hclaim]

/-- What the node has answered for good stays so. -/
theorem settled_of_step {e : Event} (h : Invariant parse w)
    (hv : w.next parse codec e = some v) {id : ℕ}
    (hid : w.settled id = true) : v.settled id = true := by
  cases e with
  | recordScan dppId variant today => cases hv; exact hid
  | recordQrRender dppId today => cases hv; exact hid
  | flush =>
    simp only [World.next] at hv
    split at hv <;> cases hv
    exact hid
  | arrive b =>
    simp only [World.next, World.arrive] at hv
    split at hv
    next =>
      cases hv
      split
      next hclaim => exact settled_update hid (not_settled_of_claimed hclaim)
      next => exact hid
    next => cases hv
  | apply key =>
    simp only [World.next] at hv
    split at hv
    next b hrow =>
      cases hv
      cases (h.rows key _ hrow).2
      exact settled_update hid (not_settled_of_inFlight hrow)
    next => cases hv
  | refuse key r =>
    simp only [World.next] at hv
    split at hv
    next b hrow =>
      split at hv
      next => cases hv
      next =>
        cases hv
        cases (h.rows key _ hrow).2
        exact settled_update hid (not_settled_of_inFlight hrow)
    next => cases hv
  | lapse key =>
    simp only [World.next] at hv
    split at hv
    next b hrow => cases hv; exact settled_update hid (not_settled_of_inFlight hrow)
    next => cases hv
  | answer reply =>
    obtain ⟨b, -, -, rfl⟩ := next_answer hv
    exact hid

theorem delivered_iff (h : Invariant parse w) : w.Delivered parse ↔
    ∀ b ∈ w.letGo, b.batch.isEmpty = false → w.settled b.id = true :=
  ⟨fun hd => hd.noneDropped, fun hnone =>
    ⟨neverExceeds_of_invariant h, fun hidle => accounted_of_invariant h hidle hnone, hnone⟩⟩

theorem letGo_of_step {e : Event} (hv : w.next parse codec e = some v)
    (hb : b ∈ v.letGo) : b ∈ w.letGo ∨
      ∃ s, e = .answer (some s) ∧ w.sending = some b ∧ World.letsGo (some s) = true := by
  cases e with
  | recordScan dppId variant today => cases hv; exact Or.inl hb
  | recordQrRender dppId today => cases hv; exact Or.inl hb
  | flush =>
    simp only [World.next] at hv
    split at hv <;> cases hv
    exact Or.inl hb
  | arrive b' =>
    simp only [World.next, World.arrive] at hv
    split at hv
    next =>
      cases hv
      split at hb <;> exact Or.inl hb
    next => cases hv
  | apply id =>
    simp only [World.next] at hv
    split at hv <;> cases hv
    exact Or.inl hb
  | refuse id r =>
    simp only [World.next] at hv
    split at hv
    next =>
      split at hv <;> cases hv
      exact Or.inl hb
    next => cases hv
  | lapse id =>
    simp only [World.next] at hv
    split at hv <;> cases hv
    exact Or.inl hb
  | answer reply =>
    obtain ⟨b', hs, -, rfl⟩ := next_answer hv
    cases reply with
    | none => exact Or.inl hb
    | some s =>
      cases hgo : World.letsGo (some s) with
      | false =>
        rw [hgo, if_neg Bool.false_ne_true] at hb
        exact Or.inl hb
      | true =>
        rw [hgo, if_pos rfl] at hb
        rcases List.mem_cons.mp hb with rfl | hb
        · exact Or.inr ⟨s, rfl, hs, hgo⟩
        · exact Or.inl hb

theorem step_delivered_iff {e : Event} (h : Invariant parse w) (hw : w.Delivered parse)
    (hv : w.next parse codec e = some v) : v.Delivered parse ↔ w.AnsweredForGood e := by
  rw [delivered_iff (step_preserves_invariant h hv)]
  constructor
  · intro hnone
    cases e with
    | answer reply =>
      cases reply with
      | none => trivial
      | some s =>
        intro b hs hfull hgo
        obtain ⟨b', hs', -, rfl⟩ := next_answer hv
        cases hs.symm.trans hs'
        exact hnone b (by simp [hgo]) hfull
    | _ => trivial
  · intro hcond b hb hfull
    rcases letGo_of_step hv hb with hold | ⟨s, rfl, hs, hgo⟩
    · exact settled_of_step h hv (hw.noneDropped b hold hfull)
    · exact settled_of_step h hv (hcond b hs hfull hgo)

/-- Every state of a run delivers exactly once, as far as it has come, exactly when no counts
are answered with a client error, other than `409`, that the node did not record for them. -/
theorem exactly_once_iff_answered_for_good (parse : String → Option Uuid) (codec : Codec)
    (secs : Option ℕ) (es : List Event) :
    (∀ before after w, es = before ++ after →
        run (World.next parse codec) (World.initial secs) before = some w → w.Delivered parse) ↔
      Along (World.next parse codec) World.AnsweredForGood (World.initial secs) es := by
  refine states_iff_along ?_ (initial_invariant secs)
    (fun _ _ _ h hv => step_preserves_invariant h hv)
    (fun _ _ _ h hw hv => step_delivered_iff h hw hv) ?_
  · exact (delivered_iff (initial_invariant secs)).mpr nofun
  · intro w e hnone
    cases e with
    | answer reply =>
      cases reply with
      | none => trivial
      | some s =>
        intro b hs _ hgo
        simp [World.next, hs, not_success_of_letsGo hgo] at hnone
    | _ => trivial

end Invariants

section Throttled

def sampleId : String := "0197a3c2-0000-7000-8000-000000000001"

def sampleParse (s : String) : Option ℕ :=
  if s = sampleId then some 0x0197a3c2000070008000000000000001 else none

def sampleCodec : Codec := ⟨fun _ => "", fun _ bytes => bytes⟩

def tooManyRequests : StatusCode := ⟨429, by decide⟩

/-- One scan, sent and throttled by the node, which releases the key for the retry. -/
def throttled : List Event :=
  [.recordScan sampleId .html 20000, .flush,
    .arrive ⟨0, ⟨[⟨sampleId, 20000, .html, 1⟩], [], some 300⟩⟩,
    .refuse 0 ⟨tooManyRequests, none, []⟩, .answer (some tooManyRequests)]

def sampleCounter : Counter ℕ := .scans 0x0197a3c2000070008000000000000001 20000 .html

theorem throttled_batch_is_dropped :
    ∃ w, run (World.next sampleParse sampleCodec) (World.initial (some 300)) throttled = some w ∧
      w.sending = none ∧ w.recordedCount sampleParse sampleCounter = 1 ∧
      w.tables.count sampleCounter = 0 ∧ w.held sampleParse sampleCounter = 0 ∧
      w.resolver.live sampleParse sampleCounter = 0 ∧ w.settled 0 = false ∧
      ¬ w.Delivered sampleParse := by
  refine ⟨_, rfl, rfl, by decide, by decide, by decide, by decide, by decide, fun h => ?_⟩
  exact absurd (h.noneDropped _ (List.mem_singleton_self _) (by decide)) (by decide)

end Throttled

end ScanCounts
