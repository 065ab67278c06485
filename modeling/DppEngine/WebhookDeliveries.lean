import DppEngine.OutboundTargets
import DppEngine.TransitionSystems

/-! Webhook subscriptions and the outbox of their deliveries.

A state change queues its deliveries in the transaction that makes it. A drain pass reads the rows
that are due and works through what it read; passes overlap, a mark may be lost and a pass may end
anywhere. What names, addresses and receivers answer comes with each delivery. -/
namespace WebhookDeliveries

open OutboundTargets TransitionSystems

section Tables

inductive WebhookDeliveryStatus where
  | pending | delivered | exhausted
  deriving DecidableEq, Repr

/-- The id of a subscription is its place in the table. -/
structure WebhookSubscription where
  url : String
  secret : String
  events : List String
  active : Bool
  deriving DecidableEq, Repr

def WebhookSubscription.takes (sub : WebhookSubscription) (eventType : String) : Bool :=
  sub.active && (eventType ∈ sub.events || "*" ∈ sub.events)

/-- What queued a row: the fan-out of a state change, or the `test` endpoint. -/
inductive Origin where
  | change (fanOut : ℕ)
  | test
  deriving DecidableEq, Repr

/-- The columns no update touches, and where the row comes from. -/
structure Queued where
  subscriptionId : ℕ
  eventType : String
  body : String
  origin : Origin
  deriving DecidableEq, Repr

/-- The id of a delivery is its place in the table. -/
structure WebhookDelivery extends Queued where
  status : WebhookDeliveryStatus
  attempts : ℕ
  nextAttemptAt : Int
  message : Option String
  deriving DecidableEq, Repr

def Queued.insert (now : Int) (queued : Queued) : WebhookDelivery :=
  { queued with status := .pending, attempts := 0, nextAttemptAt := now, message := none }

structure FanOut where
  eventType : String
  body : String
  subscriptions : List WebhookSubscription
  deriving DecidableEq, Repr

/-- `INSERT … SELECT id, $1, $2 FROM webhook_subscription WHERE …`. -/
def FanOut.rows (fanOut : FanOut) (change : ℕ) : List Queued :=
  ((List.range fanOut.subscriptions.length).filter fun id =>
    fanOut.subscriptions[id]?.any (·.takes fanOut.eventType)).map fun id =>
      ⟨id, fanOut.eventType, fanOut.body, .change change⟩

end Tables

section Drain

structure WebhookDeliveryRow where
  deliveryId : ℕ
  subscriptionId : ℕ
  url : String
  secret : String
  eventType : String
  body : String
  attempts : ℕ
  deriving DecidableEq, Repr

/-- The configuration of the drain, and the texts of its libraries: the hexadecimal HMAC-SHA256
of a message under a key, and a status code as it is printed. -/
structure Node where
  allowPrivate : Bool
  batch : ℕ
  hmac : String → String → String
  statusText : ℕ → String

def maxAttempts : ℕ := 8

def signatureHeader (node : Node) (secret : String) (timestamp : Int) (body : String) : String :=
  "t=" ++ toString timestamp ++ ",v1=" ++
    node.hmac secret (toString timestamp ++ "." ++ body)

structure Request where
  url : String
  contentType : String
  signature : String
  delivery : ℕ
  event : String
  body : String
  deriving DecidableEq, Repr

def request (node : Node) (timestamp : Int) (row : WebhookDeliveryRow) : Request where
  url := row.url
  contentType := "application/json"
  signature := signatureHeader node row.secret timestamp row.body
  delivery := row.deliveryId
  event := row.eventType
  body := row.body

inductive Mark where
  | delivered
  | attemptFailed (message : String)
  | exhausted (message : String)
  deriving DecidableEq, Repr

def backoffSeconds (attempts : ℕ) : ℕ := min (2 ^ (attempts + 1)) 3600

/-- Moments are in microseconds; `jitter` is in thousandths, between 750 and 1250. No mark looks at
the status it replaces. -/
def Mark.apply (now : Int) (jitter : ℕ) (d : WebhookDelivery) : Mark → WebhookDelivery
  | .delivered => { d with status := .delivered, attempts := d.attempts + 1, message := none }
  | .attemptFailed message =>
    { d with
      attempts := d.attempts + 1
      message := some message
      nextAttemptAt := now + backoffSeconds d.attempts * jitter * 1000 }
  | .exhausted message =>
    { d with status := .exhausted, attempts := d.attempts + 1, message := some message }

/-- `attempts` is the number the pass read, which may be behind the row's. -/
def backOffOrExhaust (attempts : ℕ) (reason : String) : Mark :=
  if attempts + 1 ≥ maxAttempts then .exhausted ("max attempts reached: " ++ reason)
  else .attemptFailed reason

def fetchErrorText : FetchError → String
  | .refused r => "target refused by the outbound guard: " ++ r
  | .unreachable r => "target unreachable: " ++ r
  | .body r => "response body rejected: " ++ r

inductive Outcome where
  | blocked (e : FetchError)
  | answered (answer : Except String Response)

def outcome (node : Node) (net : Network) (row : WebhookDeliveryRow) : Outcome :=
  match clientForTarget net guardedClient row.url node.allowPrivate (idle 0) with
  | .error e _ => .blocked e
  | .ok client act =>
    match client.send net row.url act with
    | .error e _ => .answered (.error e)
    | .ok response _ => .answered (.ok response)

def Outcome.mark (node : Node) (attempts : ℕ) : Outcome → Mark
  | .blocked e => .exhausted ("blocked target: " ++ fetchErrorText e)
  | .answered (.ok response) =>
    if response.isSuccess then .delivered
    else backOffOrExhaust attempts ("receiver returned " ++ node.statusText response.status)
  | .answered (.error e) => backOffOrExhaust attempts e

end Drain

section System

structure Transaction where
  fanOut : ℕ
  rows : List WebhookDelivery
  deriving DecidableEq, Repr

structure Exchange where
  request : Request
  answer : Except String Response

structure Block where
  delivery : ℕ
  url : String
  net : Network

/-- The two tables and the work under way; then the record of what happened. -/
structure State where
  clock : Int
  subscriptions : List WebhookSubscription
  deliveries : List WebhookDelivery
  inFlight : List Transaction
  passes : List (List WebhookDeliveryRow)
  fanOuts : List FanOut
  committed : List ℕ
  sent : List Exchange
  blocked : List Block

def start (clock : Int) : State := ⟨clock, [], [], [], [], [], [], [], []⟩

structure Attempt where
  pass : ℕ
  net : Network
  timestamp : Int
  jitter : ℕ
  lost : Bool

inductive Event where
  | tick (t : Int)
  | create (url secret : String) (events : List String)
  | deactivate (id : ℕ)
  | fanOut (began : Int) (eventType body : String)
  | commit (fanOut : ℕ)
  | rollback (fanOut : ℕ)
  | enqueueFor (id : ℕ) (eventType body : String)
  | due (ids : List ℕ)
  | deliver (a : Attempt)

def State.row? (s : State) (id : ℕ) : Option WebhookDeliveryRow := do
  let d ← s.deliveries[id]?
  let sub ← s.subscriptions[d.subscriptionId]?
  return ⟨id, d.subscriptionId, sub.url, sub.secret, d.eventType, d.body, d.attempts⟩

def State.isDue (s : State) (id : ℕ) : Bool :=
  s.deliveries[id]?.any fun d => d.status = .pending && d.nextAttemptAt ≤ s.clock

def State.nextAttemptAt (s : State) (id : ℕ) : Int :=
  (s.deliveries[id]?.map WebhookDelivery.nextAttemptAt).getD 0

/-- The answers of `due`: `ORDER BY next_attempt_at ASC LIMIT`, with ties in any order. -/
def State.IsDueBatch (s : State) (limit : ℕ) (ids : List ℕ) : Prop :=
  ids.Nodup ∧ (∀ id ∈ ids, s.isDue id) ∧
    ids.Pairwise (fun i j => s.nextAttemptAt i ≤ s.nextAttemptAt j) ∧
    ids.length = min limit ((List.range s.deliveries.length).countP s.isDue) ∧
    ∀ id ∈ List.range s.deliveries.length, s.isDue id → id ∉ ids →
      ∀ j ∈ ids, s.nextAttemptAt j ≤ s.nextAttemptAt id

instance (s : State) (limit : ℕ) (ids : List ℕ) : Decidable (s.IsDueBatch limit ids) :=
  inferInstanceAs (Decidable (_ ∧ _ ∧ _ ∧ _ ∧ _))

def State.drainRow (s : State) (node : Node) (a : Attempt) (row : WebhookDeliveryRow) : State :=
  let outcome := outcome node a.net row
  let mark := outcome.mark node row.attempts
  { s with
    deliveries :=
      if a.lost then s.deliveries
      else s.deliveries.modify row.deliveryId fun d => mark.apply s.clock a.jitter d
    sent := s.sent ++
      match outcome with
      | .blocked _ => []
      | .answered answer => [⟨request node a.timestamp row, answer⟩]
    blocked := s.blocked ++
      match outcome with
      | .blocked _ => [⟨row.deliveryId, row.url, a.net⟩]
      | .answered _ => [] }

def next (node : Node) (s : State) : Event → Option State
  | .tick t => if s.clock ≤ t then some { s with clock := t } else none
  | .create url secret events =>
    some { s with subscriptions := s.subscriptions ++ [⟨url, secret, events, true⟩] }
  | .deactivate id =>
    some { s with
      subscriptions := s.subscriptions.modify id fun sub => { sub with active := false } }
  | .fanOut began eventType body =>
    let fanOut : FanOut := ⟨eventType, body, s.subscriptions⟩
    let change := s.fanOuts.length
    if began ≤ s.clock then
      some { s with
        fanOuts := s.fanOuts ++ [fanOut]
        inFlight := s.inFlight ++ [⟨change, (fanOut.rows change).map (Queued.insert began)⟩] }
    else none
  | .commit change =>
    (s.inFlight.find? (·.fanOut = change)).map fun tx =>
      { s with
        deliveries := s.deliveries ++ tx.rows
        inFlight := s.inFlight.filter (·.fanOut ≠ change)
        committed := s.committed ++ [change] }
  | .rollback change => some { s with inFlight := s.inFlight.filter (·.fanOut ≠ change) }
  | .enqueueFor id eventType body =>
    let queued := s.subscriptions[id]?.toList.map fun _ => ⟨id, eventType, body, .test⟩
    some { s with deliveries := s.deliveries ++ queued.map (Queued.insert s.clock) }
  | .due ids =>
    if s.IsDueBatch node.batch ids then
      some { s with passes := s.passes ++ [ids.filterMap s.row?] }
    else none
  | .deliver a =>
    match s.passes[a.pass]? with
    | some (row :: rest) =>
      some { s.drainRow node a row with passes := s.passes.set a.pass rest }
    | _ => none

end System

section Growth

variable {node : Node} {s t u : State} {e : Event}

@[simp] theorem Mark.apply_toQueued (now : Int) (jitter : ℕ) (d : WebhookDelivery) (m : Mark) :
    (m.apply now jitter d).toQueued = d.toQueued := by
  cases m <;> rfl

@[simp] theorem Mark.apply_attempts (now : Int) (jitter : ℕ) (d : WebhookDelivery) (m : Mark) :
    (m.apply now jitter d).attempts = d.attempts + 1 := by
  cases m <;> rfl

@[simp] theorem map_toQueued_insert (now : Int) (rows : List Queued) :
    (rows.map (Queued.insert now)).map WebhookDelivery.toQueued = rows := by
  rw [List.map_map]
  exact List.map_id rows

/-- What no step takes back: a subscription keeps its receiver and is never switched on again, a
row keeps what it was queued with, and the record only grows. -/
structure Grows (s t : State) : Prop where
  subscriptions : ∀ (i : ℕ) (sub : WebhookSubscription), s.subscriptions[i]? = some sub →
    ∃ sub' : WebhookSubscription, t.subscriptions[i]? = some sub' ∧ sub'.url = sub.url ∧
      sub'.secret = sub.secret ∧ (sub.active = false → sub'.active = false)
  deliveries : ∀ (i : ℕ) (d : WebhookDelivery), s.deliveries[i]? = some d →
    ∃ d' : WebhookDelivery, t.deliveries[i]? = some d' ∧ d'.toQueued = d.toQueued ∧
      d.attempts ≤ d'.attempts
  fanOuts : s.fanOuts <+: t.fanOuts
  sent : s.sent ⊆ t.sent
  blocked : s.blocked ⊆ t.blocked

theorem Grows.refl (s : State) : Grows s s where
  subscriptions _ sub h := ⟨sub, h, rfl, rfl, id⟩
  deliveries _ d h := ⟨d, h, rfl, le_rfl⟩
  fanOuts := List.prefix_rfl
  sent := List.Subset.refl _
  blocked := List.Subset.refl _

theorem Grows.trans (h : Grows s t) (h' : Grows t u) : Grows s u where
  subscriptions i sub hi := by
    obtain ⟨sub₁, hi, hurl, hsecret, hactive⟩ := h.subscriptions i sub hi
    obtain ⟨sub₂, hi, hurl', hsecret', hactive'⟩ := h'.subscriptions i sub₁ hi
    exact ⟨sub₂, hi, hurl'.trans hurl, hsecret'.trans hsecret, fun h => hactive' (hactive h)⟩
  deliveries i d hi := by
    obtain ⟨d₁, hi, hqueued, hle⟩ := h.deliveries i d hi
    obtain ⟨d₂, hi, hqueued', hle'⟩ := h'.deliveries i d₁ hi
    exact ⟨d₂, hi, hqueued'.trans hqueued, hle.trans hle'⟩
  fanOuts := h.fanOuts.trans h'.fanOuts
  sent := List.Subset.trans h.sent h'.sent
  blocked := List.Subset.trans h.blocked h'.blocked

/-- A mark changes one row, and nothing it was queued with. -/
theorem drainRow_deliveries (a : Attempt) (row : WebhookDeliveryRow) {i : ℕ} {d : WebhookDelivery}
    (h : s.deliveries[i]? = some d) : (s.drainRow node a row).deliveries[i]? =
      some (if a.lost = false ∧ row.deliveryId = i then
        ((outcome node a.net row).mark node row.attempts).apply s.clock a.jitter d else d) := by
  simp only [State.drainRow]
  cases a.lost with
  | true => simpa using h
  | false =>
    by_cases hi : row.deliveryId = i
    · simp [hi, h]
    · simp [hi, h]

theorem drainRow_grows (a : Attempt) (row : WebhookDeliveryRow) (passes) :
    Grows s { s.drainRow node a row with passes } where
  subscriptions _ sub h := ⟨sub, h, rfl, rfl, id⟩
  deliveries i d h := by
    refine ⟨_, drainRow_deliveries a row h, ?_⟩
    split
    · simp
    · simp
  fanOuts := List.prefix_rfl
  sent := List.subset_append_left _ _
  blocked := List.subset_append_left _ _

theorem getElem?_append_of_some {α : Type} {l l' : List α} {i : ℕ} {a : α} (h : l[i]? = some a) :
    (l ++ l')[i]? = some a := by
  rw [List.getElem?_append_left (List.getElem?_eq_some_iff.mp h).1, h]

theorem next_grows (h : next node s e = some t) : Grows s t := by
  have hs := Grows.refl s
  cases e with
  | tick m =>
    simp only [next, Option.ite_none_right_eq_some, Option.some.injEq] at h
    rw [← h.2]
    exact { hs with }
  | create url secret events =>
    cases h
    exact { hs with
      subscriptions := fun i sub hi => ⟨sub, getElem?_append_of_some hi, rfl, rfl, id⟩ }
  | deactivate id =>
    cases h
    refine { hs with subscriptions := ?_ }
    intro i sub hi
    refine ⟨if id = i then { sub with active := false } else sub, ?_, ?_⟩
    · by_cases hid : id = i
      · simp [hid, hi]
      · simp [hid, hi]
    · split
      · exact ⟨rfl, rfl, fun _ => rfl⟩
      · exact ⟨rfl, rfl, fun h => h⟩
  | fanOut began eventType body =>
    simp only [next, Option.ite_none_right_eq_some, Option.some.injEq] at h
    rw [← h.2]
    exact { hs with fanOuts := List.prefix_append _ _ }
  | commit change =>
    obtain ⟨tx, -, rfl⟩ := Option.map_eq_some_iff.mp h
    exact { hs with deliveries := fun i d hi => ⟨d, getElem?_append_of_some hi, rfl, le_rfl⟩ }
  | rollback change =>
    cases h
    exact { hs with }
  | enqueueFor id eventType body =>
    cases h
    exact { hs with deliveries := fun i d hi => ⟨d, getElem?_append_of_some hi, rfl, le_rfl⟩ }
  | due ids =>
    simp only [next, Option.ite_none_right_eq_some, Option.some.injEq] at h
    rw [← h.2]
    exact { hs with }
  | deliver a =>
    simp only [next] at h
    split at h
    next row rest _ =>
      cases h
      exact drainRow_grows a row _
    next => cases h

theorem run_grows {es : List Event} (h : run (next node) s es = some t) : Grows s t := by
  have hstep : ∀ u e v, Grows s u → next node u e = some v → Grows s v :=
    fun _ _ _ hu hnext => hu.trans (next_grows hnext)
  exact reachable_invariant hstep (.refl s) h

end Growth

section Refusals

variable {node : Node} {net : Network} {raw : String}

def addressesOf (net : Network) (port : ℕ) : Option Host → List IpAddr
  | none => []
  | some (.ipv4 ip) => [.v4 ip]
  | some (.ipv6 ip) => [.v6 ip]
  | some (.domain name) =>
    match net.lookupHost 0 name port with
    | .error _ => []
    | .ok addrs => addrs.map SocketAddr.ip

def refuses (net : Network) (raw : String) : Bool :=
  match net.parseUrl raw with
  | .error _ => true
  | .ok url => url.scheme ≠ "https" || url.host.isNone ||
      (addressesOf net (url.portOrKnownDefault.getD 443) url.host).any ipIsDisallowed

/-- A name has no answer, or an answer with no address in it. -/
def unresolved (net : Network) (raw : String) : Bool :=
  match net.parseUrl raw with
  | .error _ => false
  | .ok url => url.host.isSome &&
      (addressesOf net (url.portOrKnownDefault.getD 443) url.host).isEmpty

theorem approval_of_addresses {port : ℕ} {host : Host}
    (hsome : addressesOf net port (some host) ≠ [])
    (hpublic : ∀ ip ∈ addressesOf net port (some host), ipIsDisallowed ip = false) :
    ∃ target s', Approval net port (idle 0) (some host) target s' := by
  cases host with
  | ipv4 ip => exact ⟨_, _, .literal rfl (hpublic _ (List.mem_singleton_self _))⟩
  | ipv6 ip => exact ⟨_, _, .literal rfl (hpublic _ (List.mem_singleton_self _))⟩
  | domain name =>
    simp only [addressesOf] at hsome hpublic
    cases hanswer : net.lookupHost 0 name port with
    | error e => simp [hanswer] at hsome
    | ok addrs =>
      simp only [hanswer, ne_eq, List.map_eq_nil_iff] at hsome hpublic
      exact ⟨_, _, .named hanswer hsome fun addr haddr => hpublic _ (List.mem_map_of_mem haddr)⟩

/-- The guard stops a delivery for a target it refuses, or for want of an answer. -/
theorem blocked_reason {row : WebhookDeliveryRow} {e : FetchError}
    (h : outcome node net row = .blocked e) :
    refuses net row.url = true ∨ unresolved net row.url = true := by
  by_contra hnot
  obtain ⟨hfine, hanswered⟩ := not_or.mp hnot
  obtain ⟨client, act, hclient⟩ : ∃ client act,
      clientForTarget net guardedClient row.url node.allowPrivate (idle 0) = .ok client act := by
    unfold clientForTarget
    by_cases hprivate : node.allowPrivate = true
    · rw [if_pos hprivate]
      exact ⟨_, _, rfl⟩
    · rw [if_neg hprivate]
      unfold refuses at hfine
      unfold unresolved at hanswered
      cases hurl : net.parseUrl row.url with
      | error e => simp [hurl] at hfine
      | ok url =>
        simp only [hurl, Bool.or_eq_true, decide_eq_true_eq, not_or, not_not, List.any_eq_true,
          not_exists, not_and, Bool.not_eq_true] at hfine
        obtain ⟨⟨hscheme, hhost⟩, hpublic⟩ := hfine
        obtain ⟨host, hhost⟩ := Option.isSome_iff_exists.mp (by simpa using hhost)
        rw [hhost] at hpublic
        obtain ⟨target, s', happroval⟩ := approval_of_addresses
          (by simpa [hurl, hhost] using hanswered) hpublic
        have hguard : resolvePublicTarget net row.url (idle 0) = .ok target s' :=
          resolvePublicTarget_ok_iff.mpr ⟨url, hurl, hscheme, hhost ▸ happroval⟩
        refine ⟨boundClient net guardedClient target, s', ?_⟩
        simp only [pinnedClientFor, bind, EStateM.bind, EStateM.adaptExcept, hguard]
        rfl
  simp only [outcome, hclient] at h
  split at h <;> cases h

end Refusals

section Accounts

variable {node : Node} {s t : State} {e : Event}

theorem mem_rows {f : FanOut} {change : ℕ} {q : Queued} : q ∈ f.rows change ↔
    (f.subscriptions[q.subscriptionId]?).any (·.takes f.eventType) = true ∧
      q = ⟨q.subscriptionId, f.eventType, f.body, .change change⟩ := by
  simp only [FanOut.rows, List.mem_map, List.mem_filter, List.mem_range]
  constructor
  · rintro ⟨id, ⟨-, htakes⟩, rfl⟩
    exact ⟨htakes, rfl⟩
  · rintro ⟨htakes, hq⟩
    refine ⟨q.subscriptionId, ⟨?_, htakes⟩, hq.symm⟩
    by_contra hlt
    rw [List.getElem?_eq_none (not_lt.mp hlt)] at htakes
    cases htakes

theorem filter_range_eq (p : ℕ → Bool) (n i : ℕ) :
    ((List.range n).filter p).filter (· = i) = if i < n ∧ p i = true then [i] else [] := by
  rw [List.filter_filter]
  induction n with
  | zero => simp
  | succ n ih =>
    rw [List.range_succ, List.filter_append, ih]
    by_cases hi : i = n
    · subst hi
      by_cases hp : p i = true <;> simp [hp]
    · have hlt : i < n + 1 ↔ i < n := by omega
      simp [hlt, Ne.symm hi]

/-- A fan-out has one row for a subscription that takes it, and none for another. -/
theorem rows_for (f : FanOut) (change i : ℕ) : (f.rows change).filter (·.subscriptionId = i) =
    if (f.subscriptions[i]?).any (·.takes f.eventType) then
      [⟨i, f.eventType, f.body, .change change⟩] else [] := by
  have hlt : (f.subscriptions[i]?).any (·.takes f.eventType) = true →
      i < f.subscriptions.length := by
    intro htakes
    by_contra hlt
    rw [List.getElem?_eq_none (not_lt.mp hlt)] at htakes
    cases htakes
  rw [FanOut.rows, List.filter_map]
  simp only [Function.comp_def, filter_range_eq]
  by_cases htakes : (f.subscriptions[i]?).any (·.takes f.eventType) = true
  · rw [if_pos ⟨hlt htakes, htakes⟩, if_pos htakes]
    rfl
  · rw [if_neg (fun h => htakes h.2), if_neg htakes]
    rfl

def State.rowsOf (s : State) (change : ℕ) : List Queued :=
  (s.deliveries.map WebhookDelivery.toQueued).filter (·.origin = .change change)

structure Accounted (s : State) : Prop where
  inFlight : ∀ tx ∈ s.inFlight, tx.fanOut ∉ s.committed ∧
    ∃ f, s.fanOuts[tx.fanOut]? = some f ∧ tx.rows.map WebhookDelivery.toQueued = f.rows tx.fanOut
  committed : ∀ change ∈ s.committed, change < s.fanOuts.length
  queued : ∀ change ∈ s.committed, ∀ f, s.fanOuts[change]? = some f →
    s.rowsOf change = f.rows change
  unqueued : ∀ change, change ∉ s.committed → s.rowsOf change = []

theorem start_accounted (clock : Int) : Accounted (start clock) where
  inFlight := List.forall_mem_nil _
  committed := List.forall_mem_nil _
  queued := List.forall_mem_nil _
  unqueued _ _ := rfl

theorem Accounted.of_same (h : Accounted s)
    (hrows : ∀ change, t.rowsOf change = s.rowsOf change) (hflight : t.inFlight ⊆ s.inFlight)
    (hfans : t.fanOuts = s.fanOuts) (hdone : t.committed = s.committed) : Accounted t where
  inFlight tx htx := by
    rw [hfans, hdone]
    exact h.inFlight tx (hflight htx)
  committed := by
    rw [hfans, hdone]
    exact h.committed
  queued := by
    rw [hfans, hdone]
    intro change hchange f hf
    rw [hrows, h.queued change hchange f hf]
  unqueued := by
    rw [hdone]
    intro change hchange
    rw [hrows, h.unqueued change hchange]

theorem rowsOf_modify {f : WebhookDelivery → WebhookDelivery}
    (hf : ∀ d, (f d).toQueued = d.toQueued) (l : List WebhookDelivery) (i : ℕ) :
    (l.modify i f).map WebhookDelivery.toQueued = l.map WebhookDelivery.toQueued := by
  apply List.ext_getElem?
  intro j
  rw [List.getElem?_map, List.getElem?_map, List.getElem?_modify]
  cases l[j]? with
  | none => rfl
  | some d => by_cases hij : i = j <;> simp [hij, hf]

theorem drainRow_rowsOf (a : Attempt) (row : WebhookDeliveryRow) (passes) (change : ℕ) :
    State.rowsOf { s.drainRow node a row with passes } change = s.rowsOf change := by
  simp only [State.rowsOf, State.drainRow]
  split
  · rfl
  · rw [rowsOf_modify fun d => Mark.apply_toQueued _ _ d _]

theorem filter_origin_rows (f : FanOut) (k change : ℕ) :
    (f.rows k).filter (·.origin = .change change) = if change = k then f.rows k else [] := by
  split
  next heq =>
    rw [List.filter_eq_self]
    intro q hq
    rw [(mem_rows.mp hq).2, heq]
    exact decide_eq_true rfl
  next hne =>
    rw [List.filter_eq_nil_iff]
    intro q hq
    rw [(mem_rows.mp hq).2]
    simpa using Ne.symm hne

theorem next_accounted (hs : Accounted s) (h : next node s e = some t) : Accounted t := by
  cases e with
  | tick m =>
    simp only [next, Option.ite_none_right_eq_some, Option.some.injEq] at h
    rw [← h.2]
    exact { hs with }
  | create url secret events =>
    cases h
    exact { hs with }
  | deactivate id =>
    cases h
    exact { hs with }
  | fanOut began eventType body =>
    simp only [next, Option.ite_none_right_eq_some, Option.some.injEq] at h
    rw [← h.2]
    exact {
      inFlight := by
        intro tx htx
        rcases List.mem_append.mp htx with htx | htx
        · obtain ⟨hnew, f, hf, hrows⟩ := hs.inFlight tx htx
          exact ⟨hnew, f, getElem?_append_of_some hf, hrows⟩
        · rw [List.mem_singleton.mp htx]
          refine ⟨fun hdone => lt_irrefl _ (hs.committed _ hdone), _, ?_, map_toQueued_insert _ _⟩
          exact List.getElem?_concat_length
      committed := by
        intro change hchange
        rw [List.length_append]
        exact Nat.lt_add_right _ (hs.committed change hchange)
      queued := by
        intro change hchange f hf
        rw [List.getElem?_append_left (hs.committed change hchange)] at hf
        exact hs.queued change hchange f hf
      unqueued := hs.unqueued }
  | commit k =>
    obtain ⟨tx, htx, rfl⟩ := Option.map_eq_some_iff.mp h
    have hk : tx.fanOut = k := by simpa using List.find?_some htx
    obtain ⟨hopen, f, hf, hrows⟩ := hs.inFlight tx (List.mem_of_find?_eq_some htx)
    rw [hk] at hopen hf hrows
    -- the transaction's rows join the table, and they are those of its own change
    have hqueued : ∀ change, ((s.deliveries ++ tx.rows).map WebhookDelivery.toQueued).filter
        (·.origin = .change change) =
          s.rowsOf change ++ if change = k then f.rows k else [] := by
      intro change
      rw [List.map_append, List.filter_append, hrows, filter_origin_rows]
      rfl
    exact {
      inFlight := by
        intro tx' htx'
        obtain ⟨htx', hne⟩ := List.mem_filter.mp htx'
        obtain ⟨hopen', hrest⟩ := hs.inFlight tx' htx'
        refine ⟨?_, hrest⟩
        simp only [List.mem_append, List.mem_singleton, not_or]
        exact ⟨hopen', by simpa using hne⟩
      committed := by
        intro change hchange
        rcases List.mem_append.mp hchange with hchange | hchange
        · exact hs.committed change hchange
        · rw [List.mem_singleton.mp hchange]
          exact (List.getElem?_eq_some_iff.mp hf).1
      queued := by
        intro change hchange f' hf'
        refine (hqueued change).trans ?_
        by_cases heq : change = k
        · subst heq
          cases hf.symm.trans hf'
          rw [hs.unqueued change hopen, if_pos rfl, List.nil_append]
        · have hold : change ∈ s.committed := by
            simpa [heq] using hchange
          rw [if_neg heq, List.append_nil]
          exact hs.queued change hold f' hf'
      unqueued := by
        intro change hchange
        simp only [List.mem_append, List.mem_singleton, not_or] at hchange
        refine (hqueued change).trans ?_
        rw [if_neg hchange.2, List.append_nil, hs.unqueued change hchange.1] }
  | rollback k =>
    cases h
    exact hs.of_same (fun _ => rfl) (List.filter_subset_self _) rfl rfl
  | enqueueFor id eventType body =>
    cases h
    refine hs.of_same (fun change => ?_) (List.Subset.refl _) rfl rfl
    simp only [State.rowsOf, List.map_append, map_toQueued_insert, List.filter_append]
    -- a test is no change's
    cases s.subscriptions[id]? <;> exact List.append_nil _
  | due ids =>
    simp only [next, Option.ite_none_right_eq_some, Option.some.injEq] at h
    rw [← h.2]
    exact { hs with }
  | deliver a =>
    simp only [next] at h
    split at h
    next row rest _ =>
      cases h
      exact hs.of_same (drainRow_rowsOf a row _) (List.Subset.refl _) rfl rfl
    next => cases h

end Accounts

section Verdicts

variable {node : Node} {s t : State} {e : Event} {row : WebhookDeliveryRow}

def Current (s : State) (row : WebhookDeliveryRow) : Prop :=
  ∃ d sub, s.deliveries[row.deliveryId]? = some d ∧ s.subscriptions[d.subscriptionId]? = some sub ∧
    row = ⟨row.deliveryId, d.subscriptionId, sub.url, sub.secret, d.eventType, d.body,
      row.attempts⟩ ∧ row.attempts ≤ d.attempts

theorem current_of_row? {id : ℕ} (h : s.row? id = some row) : Current s row := by
  obtain ⟨d, hd, h⟩ := Option.bind_eq_some_iff.mp h
  obtain ⟨sub, hsub, h⟩ := Option.bind_eq_some_iff.mp h
  cases h
  exact ⟨d, sub, hd, hsub, rfl, le_rfl⟩

theorem Current.mono (h : Current s row) (hg : Grows s t) : Current t row := by
  obtain ⟨d, sub, hd, hsub, hrow, hle⟩ := h
  obtain ⟨d', hd', hqueued, hle'⟩ := hg.deliveries _ d hd
  obtain ⟨sub', hsub', hurl, hsecret, -⟩ := hg.subscriptions _ sub hsub
  refine ⟨d', sub', hd', by rw [hqueued]; exact hsub', ?_, hle.trans hle'⟩
  rw [hqueued, hurl, hsecret]
  exact hrow

def Exchange.Accepted (x : Exchange) : Prop :=
  ∃ response, x.answer = .ok response ∧ response.isSuccess = true

theorem Outcome.mark_cases (node : Node) (o : Outcome) (attempts : ℕ) :
    (∃ response, o = .answered (.ok response) ∧ response.isSuccess = true ∧
      o.mark node attempts = .delivered) ∨
    (∃ message, o.mark node attempts = .attemptFailed message) ∨
    ∃ message, o.mark node attempts = .exhausted message ∧
      (maxAttempts ≤ attempts + 1 ∨ ∃ e, o = .blocked e) := by
  have hcapped : ∀ reason, (∃ message, backOffOrExhaust attempts reason = .attemptFailed message) ∨
      ∃ message, backOffOrExhaust attempts reason = .exhausted message ∧
        maxAttempts ≤ attempts + 1 := by
    intro reason
    unfold backOffOrExhaust
    by_cases hcap : attempts + 1 ≥ maxAttempts
    · rw [if_pos hcap]
      exact .inr ⟨_, rfl, hcap⟩
    · rw [if_neg hcap]
      exact .inl ⟨_, rfl⟩
  cases o with
  | blocked e => exact .inr (.inr ⟨_, rfl, .inr ⟨e, rfl⟩⟩)
  | answered answer =>
    cases answer with
    | error reason =>
      rcases hcapped reason with ⟨message, h⟩ | ⟨message, h, hcap⟩
      · exact .inr (.inl ⟨message, h⟩)
      · exact .inr (.inr ⟨message, h, .inl hcap⟩)
    | ok response =>
      simp only [Outcome.mark]
      by_cases hok : response.isSuccess = true
      · rw [if_pos hok]
        exact .inl ⟨response, rfl, hok, rfl⟩
      · rw [if_neg hok]
        rcases hcapped ("receiver returned " ++ node.statusText response.status) with
          ⟨message, h⟩ | ⟨message, h, hcap⟩
        · exact .inr (.inl ⟨message, h⟩)
        · exact .inr (.inr ⟨message, h, .inl hcap⟩)

structure Explained (node : Node) (s : State) : Prop where
  inFlight : ∀ tx ∈ s.inFlight, ∀ d ∈ tx.rows, d.status = .pending
  passes : ∀ pass ∈ s.passes, ∀ row ∈ pass, Current s row
  sent : ∀ x ∈ s.sent, ∃ row timestamp, Current s row ∧ x.request = request node timestamp row
  blocked : ∀ b ∈ s.blocked, (refuses b.net b.url = true ∨ unresolved b.net b.url = true) ∧
    ∃ row, Current s row ∧ b.delivery = row.deliveryId ∧ b.url = row.url
  delivered : ∀ i d, s.deliveries[i]? = some d → d.status = .delivered →
    ∃ x ∈ s.sent, x.request.delivery = i ∧ x.Accepted
  exhausted : ∀ i d, s.deliveries[i]? = some d → d.status = .exhausted →
    maxAttempts ≤ d.attempts ∨ ∃ b ∈ s.blocked, b.delivery = i

theorem start_explained (clock : Int) : Explained node (start clock) where
  inFlight := List.forall_mem_nil _
  passes := List.forall_mem_nil _
  sent := List.forall_mem_nil _
  blocked := List.forall_mem_nil _
  delivered _ _ h := by cases h
  exhausted _ _ h := by cases h

theorem Explained.passes_mono (h : Explained node s) (hg : Grows s t)
    {pass : List WebhookDeliveryRow} (hpass : pass ∈ s.passes) : ∀ row ∈ pass, Current t row :=
  fun row hrow => (h.passes pass hpass row hrow).mono hg

theorem Explained.of_queued (h : Explained node s) (hg : Grows s t) {new : List WebhookDelivery}
    (hrows : t.deliveries = s.deliveries ++ new) (hnew : ∀ d ∈ new, d.status = .pending)
    (hflight : ∀ tx ∈ t.inFlight, ∀ d ∈ tx.rows, d.status = .pending)
    (hpasses : ∀ pass ∈ t.passes, ∀ row ∈ pass, Current t row)
    (hsent : t.sent = s.sent) (hblocked : t.blocked = s.blocked) : Explained node t := by
  have hold : ∀ (i : ℕ) (d : WebhookDelivery), t.deliveries[i]? = some d → d.status ≠ .pending →
      s.deliveries[i]? = some d := by
    intro i d hd hne
    rw [hrows] at hd
    by_cases hi : i < s.deliveries.length
    · rwa [List.getElem?_append_left hi] at hd
    · rw [List.getElem?_append_right (not_lt.mp hi)] at hd
      exact absurd (hnew d (List.mem_of_getElem? hd)) hne
  exact {
    inFlight := hflight
    passes := hpasses
    sent := by
      rw [hsent]
      intro x hx
      obtain ⟨row, timestamp, hrow, hreq⟩ := h.sent x hx
      exact ⟨row, timestamp, hrow.mono hg, hreq⟩
    blocked := by
      rw [hblocked]
      intro b hb
      obtain ⟨hwhy, row, hrow, hof⟩ := h.blocked b hb
      exact ⟨hwhy, row, hrow.mono hg, hof⟩
    delivered := by
      rw [hsent]
      intro i d hd hstatus
      exact h.delivered i d (hold i d hd (by simp [hstatus])) hstatus
    exhausted := by
      rw [hblocked]
      intro i d hd hstatus
      exact h.exhausted i d (hold i d hd (by simp [hstatus])) hstatus }

theorem of_drainRow {a : Attempt} {i : ℕ} {d' : WebhookDelivery}
    (h : (s.drainRow node a row).deliveries[i]? = some d') :
    ∃ d, s.deliveries[i]? = some d ∧ (d' = d ∨ row.deliveryId = i ∧
      d' = ((outcome node a.net row).mark node row.attempts).apply s.clock a.jitter d) := by
  cases hd : s.deliveries[i]? with
  | some d =>
    rw [drainRow_deliveries a row hd] at h
    refine ⟨d, rfl, ?_⟩
    split at h
    next hmarked => exact .inr ⟨hmarked.2, (Option.some.inj h).symm⟩
    next => exact .inl (Option.some.inj h).symm
  | none =>
    have hlen : (s.drainRow node a row).deliveries.length = s.deliveries.length := by
      simp only [State.drainRow]
      split
      · rfl
      · exact List.length_modify ..
    rw [List.getElem?_eq_none (hlen ▸ List.getElem?_eq_none_iff.mp hd)] at h
    cases h

theorem drainRow_explained (h : Explained node s) {a : Attempt} {rest : List WebhookDeliveryRow}
    (hpass : s.passes[a.pass]? = some (row :: rest)) :
    Explained node { s.drainRow node a row with passes := s.passes.set a.pass rest } := by
  have hg : Grows s { s.drainRow node a row with passes := s.passes.set a.pass rest } :=
    drainRow_grows a row _
  have hmem := List.mem_of_getElem? hpass
  have hrow : Current s row := h.passes _ hmem row List.mem_cons_self
  obtain ⟨d₀, sub₀, hd₀, -, -, hle⟩ := hrow
  exact {
    inFlight := h.inFlight
    passes := by
      intro pass hp
      rcases List.mem_or_eq_of_mem_set hp with hp | rfl
      · exact h.passes_mono hg hp
      · exact fun r hr => h.passes_mono hg hmem r (List.mem_cons_of_mem _ hr)
    sent := by
      intro x hx
      rcases List.mem_append.mp hx with hx | hx
      · obtain ⟨r, timestamp, hr, hreq⟩ := h.sent x hx
        exact ⟨r, timestamp, hr.mono hg, hreq⟩
      · split at hx
        next => cases hx
        next answer _ =>
          rw [List.mem_singleton.mp hx]
          exact ⟨row, a.timestamp, h.passes_mono hg hmem row List.mem_cons_self, rfl⟩
    blocked := by
      intro b hb
      rcases List.mem_append.mp hb with hb | hb
      · obtain ⟨hwhy, r, hr, hof⟩ := h.blocked b hb
        exact ⟨hwhy, r, hr.mono hg, hof⟩
      · split at hb
        next e heq =>
          rw [List.mem_singleton.mp hb]
          exact ⟨blocked_reason heq, row, h.passes_mono hg hmem row List.mem_cons_self, rfl, rfl⟩
        next => cases hb
    delivered := by
      intro i d' hd' hstatus
      obtain ⟨d, hd, rfl | ⟨rfl, rfl⟩⟩ := of_drainRow hd'
      · obtain ⟨x, hx, hfacts⟩ := h.delivered i d' hd hstatus
        exact ⟨x, List.mem_append_left _ hx, hfacts⟩
      · rcases Outcome.mark_cases node (outcome node a.net row) row.attempts with
          ⟨response, ho, hok, hm⟩ | ⟨message, hm⟩ | ⟨message, hm, -⟩
        · refine ⟨⟨request node a.timestamp row, .ok response⟩, ?_, rfl, response, rfl, hok⟩
          apply List.mem_append_right
          simp only [ho]
          exact List.mem_singleton_self _
        · rw [hm] at hstatus
          obtain ⟨x, hx, hfacts⟩ := h.delivered _ d hd hstatus
          exact ⟨x, List.mem_append_left _ hx, hfacts⟩
        · rw [hm] at hstatus
          cases hstatus
    exhausted := by
      intro i d' hd' hstatus
      obtain ⟨d, hd, rfl | ⟨rfl, rfl⟩⟩ := of_drainRow hd'
      · rcases h.exhausted i d' hd hstatus with hcap | ⟨b, hb, hbi⟩
        · exact .inl hcap
        · exact .inr ⟨b, List.mem_append_left _ hb, hbi⟩
      · rw [Mark.apply_attempts]
        rcases Outcome.mark_cases node (outcome node a.net row) row.attempts with
          ⟨response, -, -, hm⟩ | ⟨message, hm⟩ | ⟨message, -, hcap | ⟨e, ho⟩⟩
        · rw [hm] at hstatus
          cases hstatus
        · rw [hm] at hstatus
          rcases h.exhausted _ d hd hstatus with hcap | ⟨b, hb, hbi⟩
          · exact .inl (Nat.le_succ_of_le hcap)
          · exact .inr ⟨b, List.mem_append_left _ hb, hbi⟩
        · -- the row has at least the attempts the pass read
          cases hd₀.symm.trans hd
          exact .inl (hcap.trans (Nat.succ_le_succ hle))
        · refine .inr ⟨⟨row.deliveryId, row.url, a.net⟩, ?_, rfl⟩
          apply List.mem_append_right
          simp only [ho]
          exact List.mem_singleton_self _ }

theorem next_explained (h : Explained node s) (hnext : next node s e = some t) :
    Explained node t := by
  have hg := next_grows hnext
  cases e with
  | tick m =>
    simp only [next, Option.ite_none_right_eq_some, Option.some.injEq] at hnext
    obtain ⟨-, rfl⟩ := hnext
    exact h.of_queued hg (List.append_nil _).symm (List.forall_mem_nil _) h.inFlight
      (fun pass hp => h.passes_mono hg hp) rfl rfl
  | create url secret events =>
    cases hnext
    exact h.of_queued hg (List.append_nil _).symm (List.forall_mem_nil _) h.inFlight
      (fun pass hp => h.passes_mono hg hp) rfl rfl
  | deactivate id =>
    cases hnext
    exact h.of_queued hg (List.append_nil _).symm (List.forall_mem_nil _) h.inFlight
      (fun pass hp => h.passes_mono hg hp) rfl rfl
  | fanOut began eventType body =>
    simp only [next, Option.ite_none_right_eq_some, Option.some.injEq] at hnext
    obtain ⟨-, rfl⟩ := hnext
    refine h.of_queued hg (List.append_nil _).symm (List.forall_mem_nil _) ?_
      (fun pass hp => h.passes_mono hg hp) rfl rfl
    intro tx htx d hd
    rcases List.mem_append.mp htx with htx | htx
    · exact h.inFlight tx htx d hd
    · rw [List.mem_singleton.mp htx] at hd
      obtain ⟨q, -, rfl⟩ := List.mem_map.mp hd
      rfl
  | commit change =>
    obtain ⟨tx, htx, rfl⟩ := Option.map_eq_some_iff.mp hnext
    refine h.of_queued hg rfl (h.inFlight tx (List.mem_of_find?_eq_some htx)) ?_
      (fun pass hp => h.passes_mono hg hp) rfl rfl
    exact fun tx' htx' => h.inFlight tx' (List.mem_of_mem_filter htx')
  | rollback change =>
    cases hnext
    exact h.of_queued hg (List.append_nil _).symm (List.forall_mem_nil _)
      (fun tx htx => h.inFlight tx (List.mem_of_mem_filter htx))
      (fun pass hp => h.passes_mono hg hp) rfl rfl
  | enqueueFor id eventType body =>
    cases hnext
    refine h.of_queued hg rfl ?_ h.inFlight (fun pass hp => h.passes_mono hg hp) rfl rfl
    intro d hd
    obtain ⟨q, -, rfl⟩ := List.mem_map.mp hd
    rfl
  | due ids =>
    simp only [next, Option.ite_none_right_eq_some, Option.some.injEq] at hnext
    obtain ⟨-, rfl⟩ := hnext
    refine h.of_queued hg (List.append_nil _).symm (List.forall_mem_nil _) h.inFlight ?_ rfl rfl
    intro pass hp row hrow
    rcases List.mem_append.mp hp with hp | hp
    · exact h.passes_mono hg hp row hrow
    · rw [List.mem_singleton.mp hp] at hrow
      obtain ⟨id, -, hid⟩ := List.mem_filterMap.mp hrow
      exact (current_of_row? hid).mono hg
  | deliver a =>
    simp only [next] at hnext
    split at hnext
    next row rest hpass =>
      cases hnext
      exact drainRow_explained h hpass
    next => cases hnext

end Verdicts

section Runs

variable {node : Node} {clock : Int} {es : List Event} {s t u : State} {e : Event}

def State.rowsFor (s : State) (change i : ℕ) : List Queued :=
  (s.rowsOf change).filter (·.subscriptionId = i)

def State.Knows (s : State) : Origin → Prop
  | .change change => change < s.fanOuts.length
  | .test => True

/-- A committed change has exactly one row for a subscription that took it when it fanned out, with
its type and its body, and none for another. -/
def QueuesEachChange (node : Node) (clock : Int) (es : List Event) (u : State) : Prop :=
  ∀ before began eventType body after s, es = before ++ .fanOut began eventType body :: after →
    run (next node) (start clock) before = some s → s.fanOuts.length ∈ u.committed →
    ∀ i, u.rowsFor s.fanOuts.length i =
      if (s.subscriptions[i]?).any (·.takes eventType) then
        [⟨i, eventType, body, .change s.fanOuts.length⟩]
      else []

/-- A delivered row's own body was answered with a 2xx. -/
def DeliversWhatIsAccepted (u : State) : Prop :=
  ∀ (i : ℕ) (d : WebhookDelivery), u.deliveries[i]? = some d → d.status = .delivered →
    ∃ x ∈ u.sent, x.request.delivery = i ∧ x.request.body = d.body ∧ x.Accepted

/-- A row whose name was answered at each check is exhausted by its attempts, or because its
subscription's target was refused. -/
def ExhaustsForCause (u : State) : Prop :=
  ∀ (i : ℕ) (d : WebhookDelivery), u.deliveries[i]? = some d → d.status = .exhausted →
    (∀ b ∈ u.blocked, b.delivery = i → unresolved b.net b.url = false) →
    maxAttempts ≤ d.attempts ∨ ∃ b ∈ u.blocked, b.delivery = i ∧ refuses b.net b.url = true ∧
      u.subscriptions[d.subscriptionId]?.any (·.url = b.url) = true

/-- Of changes that fan out once a subscription is inactive, nothing is queued for it, and nothing
is sent but what is queued. -/
def SilentOnceInactive (node : Node) (clock : Int) (es : List Event) (u : State) : Prop :=
  ∀ before after s, es = before ++ after → run (next node) (start clock) before = some s →
    ∀ (i : ℕ) (sub : WebhookSubscription), s.subscriptions[i]? = some sub → sub.active = false →
      (∀ d ∈ u.deliveries, d.subscriptionId = i → s.Knows d.origin) ∧
      ∀ x ∈ u.sent, ∃ d, u.deliveries[x.request.delivery]? = some d ∧ x.request.body = d.body ∧
        (d.subscriptionId = i → s.Knows d.origin)

theorem run_accounted (h : run (next node) (start clock) es = some u) : Accounted u :=
  reachable_invariant (fun _ _ _ ht hnext => next_accounted ht hnext) (start_accounted clock) h

theorem run_explained (h : run (next node) (start clock) es = some u) : Explained node u :=
  reachable_invariant (fun _ _ _ ht hnext => next_explained ht hnext) (start_explained clock) h

theorem next_fanOuts (h : next node s e = some t) : t.fanOuts = s.fanOuts ∨
    ∃ eventType body, t.fanOuts = s.fanOuts ++ [⟨eventType, body, s.subscriptions⟩] := by
  cases e with
  | fanOut began eventType body =>
    simp only [next, Option.ite_none_right_eq_some, Option.some.injEq] at h
    rw [← h.2]
    exact .inr ⟨_, _, rfl⟩
  | commit change =>
    obtain ⟨tx, -, rfl⟩ := Option.map_eq_some_iff.mp h
    exact .inl rfl
  | deliver a =>
    simp only [next] at h
    split at h
    next => cases h; exact .inl rfl
    next => cases h
  | tick m | due ids =>
    simp only [next, Option.ite_none_right_eq_some, Option.some.injEq] at h
    rw [← h.2]
    exact .inl rfl
  | create _ _ _ | deactivate _ | rollback _ | enqueueFor _ _ _ =>
    cases h
    exact .inl rfl

/-- A fan-out that comes later does not take an inactive subscription. -/
theorem later_fanOut_skips {i : ℕ} {sub : WebhookSubscription} (hi : s.subscriptions[i]? = some sub)
    (hoff : sub.active = false) (h : run (next node) s es = some u) :
    ∀ change f, s.fanOuts.length ≤ change → u.fanOuts[change]? = some f →
      (f.subscriptions[i]?).any (·.takes f.eventType) = false := by
  have hstep : ∀ t e v, (Grows s t ∧ ∀ change f, s.fanOuts.length ≤ change →
      t.fanOuts[change]? = some f → (f.subscriptions[i]?).any (·.takes f.eventType) = false) →
      next node t e = some v → Grows s v ∧ ∀ change f, s.fanOuts.length ≤ change →
        v.fanOuts[change]? = some f →
          (f.subscriptions[i]?).any (·.takes f.eventType) = false := by
    rintro t e v ⟨hg, hskips⟩ hnext
    refine ⟨hg.trans (next_grows hnext), ?_⟩
    intro change f hle hf
    rcases next_fanOuts hnext with hsame | ⟨eventType, body, hone⟩
    · exact hskips change f hle (hsame ▸ hf)
    · rw [hone] at hf
      by_cases hlt : change < t.fanOuts.length
      · rw [List.getElem?_append_left hlt] at hf
        exact hskips change f hle hf
      · rw [List.getElem?_append_right (not_lt.mp hlt)] at hf
        rw [List.mem_singleton.mp (List.mem_of_getElem? hf)]
        obtain ⟨sub', hi', -, -, hoff'⟩ := hg.subscriptions i sub hi
        simp [hi', WebhookSubscription.takes, hoff' hoff]
  have hstart : ∀ change f, s.fanOuts.length ≤ change → s.fanOuts[change]? = some f →
      (f.subscriptions[i]?).any (·.takes f.eventType) = false := by
    intro change f hle hf
    rw [List.getElem?_eq_none hle] at hf
    cases hf
  exact (reachable_invariant hstep ⟨.refl s, hstart⟩ h).2

theorem queuesEachChange (h : run (next node) (start clock) es = some u) :
    QueuesEachChange node clock es u := by
  rintro before began eventType body after s rfl hbefore hcommitted i
  have hu := run_accounted h
  obtain ⟨s', hs', hafter⟩ := run_append.mp h
  cases hbefore.symm.trans hs'
  obtain ⟨t, ht, hrest⟩ := run_cons.mp hafter
  have hfan : t.fanOuts[s.fanOuts.length]? = some ⟨eventType, body, s.subscriptions⟩ := by
    simp only [next, Option.ite_none_right_eq_some, Option.some.injEq] at ht
    rw [← ht.2]
    exact List.getElem?_concat_length
  obtain ⟨tail, htail⟩ := (run_grows hrest).fanOuts
  have hfan : u.fanOuts[s.fanOuts.length]? = some ⟨eventType, body, s.subscriptions⟩ := by
    rw [← htail]
    exact getElem?_append_of_some hfan
  rw [State.rowsFor, hu.queued _ hcommitted _ hfan, rows_for]

theorem silentOnceInactive (h : run (next node) (start clock) es = some u) :
    SilentOnceInactive node clock es u := by
  rintro before after s rfl hbefore i sub hi hoff
  have hu := run_accounted h
  have hwhy := run_explained h
  obtain ⟨s', hs', hafter⟩ := run_append.mp h
  cases hbefore.symm.trans hs'
  have hknown : ∀ d ∈ u.deliveries, d.subscriptionId = i → s.Knows d.origin := by
    intro d hd hdi
    cases horigin : d.origin with
    | test => trivial
    | change change =>
      change change < s.fanOuts.length
      by_contra hlate
      have hrow : d.toQueued ∈ u.rowsOf change := by
        apply List.mem_filter.mpr
        exact ⟨List.mem_map_of_mem hd, decide_eq_true horigin⟩
      by_cases hdone : change ∈ u.committed
      · have hfan := List.getElem?_eq_getElem (hu.committed change hdone)
        rw [hu.queued change hdone _ hfan] at hrow
        have htakes := (mem_rows.mp hrow).1
        rw [hdi, later_fanOut_skips hi hoff hafter change _ (not_lt.mp hlate) hfan] at htakes
        cases htakes
      · rw [hu.unqueued change hdone] at hrow
        cases hrow
  refine ⟨hknown, ?_⟩
  intro x hx
  obtain ⟨row, timestamp, ⟨d, sub', hd, -, hrow, -⟩, hreq⟩ := hwhy.sent x hx
  rw [hreq]
  refine ⟨d, hd, ?_, hknown d (List.mem_of_getElem? hd)⟩
  rw [hrow]
  rfl

theorem deliversWhatIsAccepted (h : run (next node) (start clock) es = some u) :
    DeliversWhatIsAccepted u := by
  intro i d hd hstatus
  have hwhy := run_explained h
  obtain ⟨x, hx, hxi, haccepted⟩ := hwhy.delivered i d hd hstatus
  obtain ⟨row, timestamp, ⟨d', sub, hd', -, hrow, -⟩, hreq⟩ := hwhy.sent x hx
  refine ⟨x, hx, hxi, ?_, haccepted⟩
  have hrowi : row.deliveryId = i := by rwa [hreq] at hxi
  cases hd.symm.trans (hrowi ▸ hd')
  rw [hreq, hrow]
  rfl

theorem exhaustsForCause (h : run (next node) (start clock) es = some u) : ExhaustsForCause u := by
  intro i d hd hstatus hanswered
  have hwhy := run_explained h
  rcases hwhy.exhausted i d hd hstatus with hcap | ⟨b, hb, hbi⟩
  · exact .inl hcap
  · obtain ⟨hreason, row, ⟨d', sub, hd', hsub, hrow, -⟩, hof, hurl⟩ := hwhy.blocked b hb
    cases hd.symm.trans (hbi ▸ hof ▸ hd')
    have hrefuses : refuses b.net b.url = true := by
      rw [hanswered b hb hbi] at hreason
      exact hreason.resolve_right Bool.false_ne_true
    refine .inr ⟨b, hb, hbi, hrefuses, ?_⟩
    rw [hsub, hurl, hrow]
    exact decide_eq_true rfl

/-- Deliveries over any interleaving of changes, subscriptions and passes. -/
theorem deliveries_settled (node : Node) (clock : Int) (es : List Event) (u : State)
    (h : run (next node) (start clock) es = some u) :
    QueuesEachChange node clock es u ∧ DeliversWhatIsAccepted u ∧ ExhaustsForCause u ∧
      SilentOnceInactive node clock es u :=
  ⟨queuesEachChange h, deliversWhatIsAccepted h, exhaustsForCause h, silentOnceInactive h⟩

end Runs

section Samples

def plainNode : Node := ⟨false, 20, fun _ _ => "", fun _ => "204 No Content"⟩

def acceptingNetwork : Network :=
  { alternatingNetwork with respond := fun _ _ => .ok ⟨204, []⟩ }

def subscribe : Event := .create "https://status.example/hook" "whsec_1" ["*"]

def changeDelivered : List Event :=
  [subscribe, .fanOut 0 "dpp.passport.published" "published", .commit 0, .due [0],
    .deliver ⟨0, acceptingNetwork, 1700000000, 1000, false⟩]

theorem change_delivered_settled : ∃ u, run (next plainNode) (start 0) changeDelivered = some u ∧
    u.deliveries.map WebhookDelivery.status = [.delivered] ∧
    (QueuesEachChange plainNode 0 changeDelivered u ∧ DeliversWhatIsAccepted u ∧
      ExhaustsForCause u ∧ SilentOnceInactive plainNode 0 changeDelivered u) :=
  ⟨_, rfl, by decide +kernel, deliveries_settled plainNode 0 changeDelivered _ rfl⟩

/-- A subscription that comes between the fan-out and the commit is active and gets no row, and a
pass that starts after a deactivation delivers what was queued. -/
theorem late_subscription_and_retired_receiver :
    (∃ s t, run (next plainNode) (start 0)
        [.fanOut 0 "dpp.passport.published" "published", subscribe] = some s ∧
      (s.subscriptions[0]?).any (·.takes "dpp.passport.published") = true ∧
      next plainNode s (.commit 0) = some t ∧ t.rowsFor 0 0 = []) ∧
    ∃ s t, run (next plainNode) (start 0)
        [subscribe, .fanOut 0 "dpp.passport.published" "published", .commit 0, .deactivate 0] =
          some s ∧
      s.subscriptions.map WebhookSubscription.active = [false] ∧ s.sent.length = 0 ∧
      run (next plainNode) s
        [.due [0], .deliver ⟨0, acceptingNetwork, 1700000000, 1000, false⟩] = some t ∧
      t.sent.map (fun x => (x.request.delivery, x.request.body)) = [(0, "published")] ∧
      t.deliveries.map (·.subscriptionId) = [0] :=
  ⟨⟨_, _, rfl, by decide +kernel, rfl, by decide +kernel⟩,
    ⟨_, _, rfl, by decide +kernel, by decide +kernel, rfl, by decide +kernel, by decide +kernel⟩⟩

end Samples

end WebhookDeliveries
