import DppEngine.CompactTokens
import DppEngine.KeyedTables
import DppEngine.SealOutbox
import DppEngine.TransitionSystems
import DppEngine.TrustedListDocuments

/-! API keys, from their creation to their revocation, and the requests they authenticate.

A request authenticates by reading the key table, notes the use of the key, and then does what it
asks for; each of these is one atomic step and requests interleave. The two reads of a refused
token are one step: the second only chooses the text that is logged. -/
namespace ApiKeyAccess

open CompactTokens KeyedTables TransitionSystems
open SealOutbox (eqIgnoreAsciiCase)
open TrustedListDocuments (trim)

section Keys

inductive ApiKeyScope where
  | read | write | admin
  deriving DecidableEq, Repr

namespace ApiKeyScope

def isAdmin (scope : ApiKeyScope) : Bool := scope = admin

def asStr : ApiKeyScope → String
  | read => "read"
  | write => "write"
  | admin => "admin"

def fromScopes (scopes : List String) : ApiKeyScope :=
  if "admin" ∈ scopes then admin else if "write" ∈ scopes then write else read

@[simp] theorem fromScopes_asStr (scope : ApiKeyScope) : fromScopes [scope.asStr] = scope := by
  cases scope <;> rfl

end ApiKeyScope

structure ApiKey where
  id : ℕ
  name : String
  keyPrefix : String
  isActive : Bool
  scope : ApiKeyScope
  createdAt : Int
  lastUsedAt : Option Int
  expiresAt : Option Int
  deriving DecidableEq, Repr

structure CreatedApiKeyResponse where
  key : ApiKey
  secret : String
  deriving DecidableEq, Repr

structure ApiKeyRow where
  id : ℕ
  name : String
  keyHash : String
  keyPrefix : String
  isActive : Bool
  scopes : Option (List String)
  createdAt : Int
  lastUsedAt : Option Int
  expiresAt : Option Int
  deriving DecidableEq, Repr

abbrev ApiKeyTable := Table ApiKeyRow.id

def ApiKeyRow.scope (row : ApiKeyRow) : ApiKeyScope := .fromScopes (row.scopes.getD [])

def keyFromRow (row : ApiKeyRow) : ApiKey :=
  ⟨row.id, row.name, row.keyPrefix, row.isActive, row.scope, row.createdAt, row.lastUsedAt,
    row.expiresAt⟩

def keyPrefixText : String := "odal_sk_"

def keyPrefixLen : ℕ := 12

def lookupPrefix (secret : String) : String := String.ofList (secret.toList.take keyPrefixLen)

def generateSecret (random : List UInt8) : String :=
  keyPrefixText ++ String.ofList (base64Url random)

def ApiKeyRow.isUsable (row : ApiKeyRow) (now : Int) : Bool :=
  row.isActive && row.expiresAt.all fun at' => now < at'

def findActiveByPrefix (t : ApiKeyTable) (keyPrefix : String) (now : Int) : Option ApiKeyRow :=
  t.rows.find? fun row => row.keyPrefix = keyPrefix && row.isUsable now

def findAnyByPrefix (t : ApiKeyTable) (keyPrefix : String) : Option ApiKeyRow :=
  t.rows.find? fun row => row.keyPrefix = keyPrefix

/-- The unique columns are the id, the name and the prefix. -/
def insertKey (t : ApiKeyTable) (row : ApiKeyRow) : Option ApiKeyTable :=
  if t.rows.any fun r => r.name = row.name || r.keyPrefix = row.keyPrefix then none
  else t.insert row

end Keys

section Authentication

/-- Digests and encodings of the libraries, and the local administrator of the configuration:
user name and password. -/
structure Config where
  sha256Hex : String → String
  /-- Standard base64 of UTF-8 text. -/
  decodeBasic : String → Option String
  admin : Option (String × String)

structure AuthContext where
  userId : String
  scope : ApiKeyScope
  keyId : Option ℕ
  deriving DecidableEq, Repr

inductive AuthError where
  | missing
  | invalid (reason : String)
  | suspended
  deriving DecidableEq, Repr

abbrev Provider := String → Except AuthError AuthContext

/-- The table as the lookup of a key reads it, or why it cannot. -/
abbrev KeysRead := Except String ApiKeyTable

def apiKeyProvider (cfg : Config) (keys : KeysRead) (now : Int) : Provider := fun token =>
  match keys with
  | .error e => .error (.invalid ("key lookup failed: " ++ e))
  | .ok t =>
    match findActiveByPrefix t (lookupPrefix token) now with
    | some row =>
      if row.keyHash = cfg.sha256Hex token then .ok ⟨"api-key", row.scope, some row.id⟩
      else .error (.invalid "invalid API key")
    | none =>
      match findAnyByPrefix t (lookupPrefix token) with
      | some row =>
        if !row.isActive then .error (.invalid "API key has been revoked")
        else if row.expiresAt.any fun at' => at' < now then
          .error (.invalid "API key has expired")
        else .error (.invalid "unknown API key")
      | none => .error (.invalid "unknown API key")

/-- The first provider to accept the token decides; a suspension ends the search. -/
def compositeProvider (providers : List Provider) : Provider := fun token =>
  go token .missing providers
where
  go (token : String) (lastErr : AuthError) : List Provider → Except AuthError AuthContext
    | [] => .error lastErr
    | provider :: providers =>
      match provider token with
      | .ok ctx => .ok ctx
      | .error .suspended => .error .suspended
      | .error e => go token e providers

def splitOnce (sep : Char) (text : String) : Option (String × String) :=
  if sep ∈ text.toList then
    some (String.ofList (text.toList.takeWhile (· ≠ sep)),
      String.ofList ((text.toList.dropWhile (· ≠ sep)).drop 1))
  else none

def localProvider (cfg : Config) (admin : String × String) : Provider := fun token =>
  match (cfg.decodeBasic token).bind (splitOnce ':') with
  | none => .error (.invalid "invalid credentials")
  | some (user, pass) =>
    if user = admin.1 && cfg.sha256Hex pass = cfg.sha256Hex admin.2 then .ok ⟨"admin", .admin, none⟩
    else .error (.invalid "invalid credentials")

inductive Credential where
  | bearer (token : String)
  | basic (token : String)
  deriving DecidableEq, Repr

def extractCredential (header : Option String) : Option Credential :=
  header.bind fun text => (splitOnce ' ' text).bind fun (scheme, credential) =>
    if eqIgnoreAsciiCase scheme "bearer" then some (.bearer credential)
    else if eqIgnoreAsciiCase scheme "basic" then some (.basic credential)
    else none

def route (cfg : Config) (keys : KeysRead) (now : Int) : Credential → Except AuthError AuthContext
  | .bearer token => compositeProvider [apiKeyProvider cfg keys now] token
  | .basic token =>
    match cfg.admin with
    | some admin => localProvider cfg admin token
    | none => .error (.invalid "local admin auth is not configured")

/-- `auth_middleware`, up to the handler: the context it hands on, or the answer it gives. -/
def authMiddleware (cfg : Config) (keys : KeysRead) (now : Int) (header : Option String) :
    Except (ℕ × String) AuthContext :=
  match extractCredential header with
  | none => .error (401, "Missing or invalid Authorization header.")
  | some credential =>
    match route cfg keys now credential with
    | .ok ctx => .ok ctx
    | .error .suspended => .error (403, "Operator account is suspended.")
    | .error _ => .error (401, "Invalid or expired token.")

end Authentication

section Requests

inductive Operation where
  | list
  | create (name : String) (scope : Option ApiKeyScope) (expiresAt : Option Int)
  /-- The id in the path, if it is one. -/
  | revoke (id : Option ℕ)
  deriving DecidableEq, Repr

inductive Answer where
  | refused (status : ℕ) (detail : String)
  | listed (keys : List ApiKey)
  | created (response : CreatedApiKeyResponse)
  | noContent
  deriving DecidableEq, Repr

/-- What a request that was let in has left to do. -/
inductive Task where
  | touch (ctx : AuthContext) (id : ℕ) (op : Operation)
  | perform (ctx : AuthContext) (op : Operation)
  deriving DecidableEq, Repr

structure Node where
  table : ApiKeyTable
  tasks : List Task
  created : List CreatedApiKeyResponse
  revoked : List ℕ
  answers : List Answer

def Node.empty : Node := ⟨.empty, [], [], [], []⟩

/-- `request` takes why the lookup of its key fails, if it does, and `proceed` what the step draws:
the clock, an identifier and random octets. -/
inductive Event where
  | request (header : Option String) (op : Operation) (now : Int) (failure : Option String)
  | proceed (task : Task) (now : Int) (id : ℕ) (random : List UInt8)
  | stop (task : Task)
  deriving DecidableEq, Repr

def Node.answer (s : Node) (answer : Answer) : Node := { s with answers := s.answers ++ [answer] }

def Node.queue (s : Node) (task : Task) : Node := { s with tasks := task :: s.tasks }

def Node.finish (s : Node) (task : Task) : Node := { s with tasks := s.tasks.erase task }

def Node.keysRead (s : Node) (failure : Option String) : KeysRead :=
  match failure with
  | none => .ok s.table
  | some e => .error e

def request (cfg : Config) (s : Node) (header : Option String) (op : Operation) (now : Int)
    (failure : Option String) : Node :=
  match authMiddleware cfg (s.keysRead failure) now header with
  | .error (status, detail) => s.answer (.refused status detail)
  | .ok ctx =>
    match ctx.keyId with
    | some id => s.queue (.touch ctx id op)
    | none => s.queue (.perform ctx op)

def lastUsedResolution : Int := 300000000

def ApiKeyRow.touch (row : ApiKeyRow) (now : Int) : ApiKeyRow :=
  if row.lastUsedAt.all fun at' => at' < now - lastUsedResolution then
    { row with lastUsedAt := some now }
  else row

def ApiKeyRow.deactivate (row : ApiKeyRow) : ApiKeyRow := { row with isActive := false }

@[simp] theorem deactivate_id (row : ApiKeyRow) : row.deactivate.id = row.id := rfl

@[simp] theorem deactivate_isActive (row : ApiKeyRow) : row.deactivate.isActive = false := rfl

/-- `UPDATE … SET last_used_at = now()` where it is older than the resolution. -/
def touchLastUsed (t : ApiKeyTable) (id : ℕ) (now : Int) : ApiKeyTable :=
  t.update (fun row => if row.id = id then row.touch now else row) fun row => by
    unfold ApiKeyRow.touch
    split_ifs <;> rfl

def newKey (cfg : Config) (name : String) (scope : ApiKeyScope) (expiresAt : Option Int)
    (now : Int) (id : ℕ) (secret : String) : ApiKeyRow :=
  ⟨id, name, cfg.sha256Hex secret, lookupPrefix secret, true, some [scope.asStr], now, none,
    expiresAt⟩

def create (cfg : Config) (s : Node) (name : String) (scope : ApiKeyScope)
    (expiresAt : Option Int) (now : Int) (id : ℕ) (random : List UInt8) : Node :=
  if trim name = "" then s.answer (.refused 422 "API key name is required")
  else
    let row := newKey cfg (trim name) scope expiresAt now id (generateSecret random)
    match insertKey s.table row with
    | none => s.answer (.refused 500 "An internal error occurred.")
    | some table =>
      let response := ⟨keyFromRow row, generateSecret random⟩
      { s with table := table, created := s.created ++ [response] }.answer (.created response)

def revoke (s : Node) (ctx : AuthContext) (id : ℕ) : Node :=
  if ctx.keyId = some id then
    s.answer (.refused 409 ("Cannot revoke the API key you are currently authenticating with. " ++
      "Authenticate with a different key (or admin credentials), then revoke this one."))
  else
    match s.table.get id with
    | none => s.answer (.refused 404 "API key not found")
    | some row =>
      { s with
        table := s.table.put row.deactivate
        revoked := s.revoked ++ [id] }.answer .noContent

def listActive (t : ApiKeyTable) : List ApiKey :=
  (((t.rows.filter ApiKeyRow.isActive).mergeSort fun a b => b.createdAt ≤ a.createdAt)).map
    keyFromRow

def perform (cfg : Config) (s : Node) (ctx : AuthContext) (now : Int) (id : ℕ)
    (random : List UInt8) (op : Operation) : Node :=
  if ctx.scope.isAdmin then
    match op with
    | .list => s.answer (.listed (listActive s.table))
    | .create name scope expiresAt =>
      create cfg s name (scope.getD .admin) expiresAt now id random
    | .revoke none => s.answer (.refused 400 "Invalid api-key id")
    | .revoke (some target) => revoke s ctx target
  else s.answer (.refused 403 "This operation requires an admin-scoped credential.")

def next (cfg : Config) (s : Node) : Event → Option Node
  | .request header op now failure => some (request cfg s header op now failure)
  | .proceed task now id random =>
    if task ∈ s.tasks then
      match task with
      | .touch ctx key op =>
        some (({ s with table := touchLastUsed s.table key now }.finish task).queue
          (.perform ctx op))
      | .perform ctx op => some (perform cfg (s.finish task) ctx now id random op)
    else none
  | .stop task => if task ∈ s.tasks then some (s.finish task) else none

end Requests

section Tables

variable {cfg : Config} {t t' : ApiKeyTable} {row : ApiKeyRow} {keyPrefix token : String}
  {now : Int} {ctx : AuthContext}

def OnePrefix (t : ApiKeyTable) : Prop :=
  ∀ a ∈ t.rows, ∀ b ∈ t.rows, a.keyPrefix = b.keyPrefix → a = b

theorem findActiveByPrefix_eq_some (hone : OnePrefix t) :
    findActiveByPrefix t keyPrefix now = some row ↔
      row ∈ t.rows ∧ row.keyPrefix = keyPrefix ∧ row.isUsable now = true := by
  constructor
  · intro h
    have hprop := List.find?_some h
    simp only [Bool.and_eq_true, decide_eq_true_eq] at hprop
    exact ⟨List.mem_of_find?_eq_some h, hprop⟩
  · rintro ⟨hrow, hkey, husable⟩
    cases hfind : findActiveByPrefix t keyPrefix now with
    | none =>
      have hnone := List.find?_eq_none.mp hfind row hrow
      simp [hkey, husable] at hnone
    | some row' =>
      have hprop := List.find?_some hfind
      simp only [Bool.and_eq_true, decide_eq_true_eq] at hprop
      rw [hone row' (List.mem_of_find?_eq_some hfind) row hrow (hprop.1.trans hkey.symm)]

theorem apiKeyProvider_ok (hone : OnePrefix t) :
    apiKeyProvider cfg (.ok t) now token = .ok ctx ↔
      ∃ row ∈ t.rows, row.keyPrefix = lookupPrefix token ∧ row.isUsable now = true ∧
        row.keyHash = cfg.sha256Hex token ∧ ctx = ⟨"api-key", row.scope, some row.id⟩ := by
  unfold apiKeyProvider
  dsimp only
  cases hfind : findActiveByPrefix t (lookupPrefix token) now with
  | some row =>
    obtain ⟨hrow, hkey, husable⟩ := (findActiveByPrefix_eq_some hone).mp hfind
    dsimp only
    constructor
    · intro h
      split_ifs at h with hhash
      cases h
      exact ⟨row, hrow, hkey, husable, hhash, rfl⟩
    · rintro ⟨row', hrow', hkey', -, hhash, rfl⟩
      rw [hone row' hrow' row hrow (hkey'.trans hkey.symm)] at hhash ⊢
      rw [if_pos hhash]
  | none =>
    dsimp only
    constructor
    · intro h
      split at h
      · split_ifs at h
      · cases h
    · rintro ⟨row, hrow, hkey, husable, -⟩
      rw [(findActiveByPrefix_eq_some hone).mpr ⟨hrow, hkey, husable⟩] at hfind
      cases hfind

theorem compositeProvider_singleton {provider : Provider} :
    compositeProvider [provider] token = .ok ctx ↔ provider token = .ok ctx := by
  unfold compositeProvider compositeProvider.go
  cases h : provider token with
  | ok c => simp
  | error e => cases e <;> simp [compositeProvider.go]

theorem insertKey_ok (h : insertKey t row = some t') :
    t.insert row = some t' ∧ ∀ r ∈ t.rows, r.keyPrefix ≠ row.keyPrefix := by
  unfold insertKey at h
  split_ifs at h with hunique
  refine ⟨h, fun r hr hsame => hunique ?_⟩
  exact List.any_eq_true.mpr ⟨r, hr, by simp [hsame]⟩

theorem OnePrefix.insertKey (hone : OnePrefix t) (h : insertKey t row = some t') :
    OnePrefix t' := by
  obtain ⟨hins, hfresh⟩ := insertKey_ok h
  intro a ha b hb hsame
  rw [(Table.insert_eq_some hins).2] at ha hb
  rcases List.mem_append.mp ha with ha | ha <;> rcases List.mem_append.mp hb with hb | hb
  · exact hone a ha b hb hsame
  · cases List.mem_singleton.mp hb
    exact absurd hsame (hfresh a ha)
  · cases List.mem_singleton.mp ha
    exact absurd hsame.symm (hfresh b hb)
  · cases List.mem_singleton.mp ha
    cases List.mem_singleton.mp hb
    rfl

theorem OnePrefix.update (hone : OnePrefix t) {set : ApiKeyRow → ApiKeyRow}
    {hid : ∀ r, (set r).id = r.id} (hkey : ∀ r ∈ t.rows, (set r).keyPrefix = r.keyPrefix) :
    OnePrefix (t.update set hid) := by
  intro a ha b hb hsame
  obtain ⟨a₀, ha₀, rfl⟩ := Table.mem_update.mp ha
  obtain ⟨b₀, hb₀, rfl⟩ := Table.mem_update.mp hb
  rw [hkey a₀ ha₀, hkey b₀ hb₀] at hsame
  rw [hone a₀ ha₀ b₀ hb₀ hsame]

end Tables

section Runs

variable {cfg : Config} {s t : Node} {e : Event} {es fs : List Event} {id : ℕ} {row : ApiKeyRow}
  {ctx : AuthContext} {now : Int}

structure Issued (cfg : Config) (revoked : List ℕ) (c : CreatedApiKeyResponse) (r : ApiKeyRow) :
    Prop where
  id : r.id = c.key.id
  hash : r.keyHash = cfg.sha256Hex c.secret
  lookup : r.keyPrefix = lookupPrefix c.secret
  scope : r.scope = c.key.scope
  expiry : r.expiresAt = c.key.expiresAt
  active : r.isActive = true ↔ r.id ∉ revoked

inductive Effect (cfg : Config) (s t : Node) : Event → Prop
  | none (e : Event) : t.table = s.table → t.created = s.created → t.revoked = s.revoked →
      Effect cfg s t e
  | touch (e : Event) (id : ℕ) (now : Int) : t.table = touchLastUsed s.table id now →
      t.created = s.created → t.revoked = s.revoked → Effect cfg s t e
  | create (e : Event) (row : ApiKeyRow) (c : CreatedApiKeyResponse) :
      Issued cfg [] c row → insertKey s.table row = some t.table →
      t.created = s.created ++ [c] → t.revoked = s.revoked → Effect cfg s t e
  | revoke (ctx : AuthContext) (row : ApiKeyRow) (now : Int) (id : ℕ) (random : List UInt8) :
      .perform ctx (.revoke (some row.id)) ∈ s.tasks → ctx.keyId ≠ some row.id →
      ctx.scope.isAdmin = true →
      s.table.get row.id = some row → t.table = s.table.put row.deactivate →
      t.created = s.created → t.revoked = s.revoked ++ [row.id] →
      Effect cfg s t (.proceed (.perform ctx (.revoke (some row.id))) now id random)

theorem newKey_issued {name : String} {scope : ApiKeyScope} {expiresAt : Option Int}
    {secret : String} :
    Issued cfg [] ⟨keyFromRow (newKey cfg name scope expiresAt now id secret), secret⟩
      (newKey cfg name scope expiresAt now id secret) :=
  ⟨rfl, rfl, rfl, rfl, rfl, by simp [newKey]⟩

theorem next_effect (h : next cfg s e = some t) : Effect cfg s t e := by
  cases e with
  | request header op now failure =>
    cases h
    unfold request
    split
    · exact .none _ rfl rfl rfl
    · split <;> exact .none _ rfl rfl rfl
  | stop task =>
    simp only [next] at h
    split_ifs at h
    cases h
    exact .none _ rfl rfl rfl
  | proceed task now id random =>
    simp only [next] at h
    split_ifs at h with hmem
    cases task with
    | touch ctx key op =>
      cases h
      exact .touch _ key now rfl rfl rfl
    | perform ctx op =>
      cases h
      unfold perform
      split_ifs with hadmin
      · cases op with
        | list => exact .none _ rfl rfl rfl
        | create name scope expiresAt =>
          dsimp only
          unfold create
          split_ifs
          · exact .none _ rfl rfl rfl
          · dsimp only
            split
            · exact .none _ rfl rfl rfl
            next table hins => exact .create _ _ _ newKey_issued hins rfl rfl
        | revoke target =>
          cases target with
          | none => exact .none _ rfl rfl rfl
          | some target =>
            dsimp only
            unfold revoke
            split_ifs with hself
            · exact .none _ rfl rfl rfl
            · split
              · exact .none _ rfl rfl rfl
              next row hget =>
                have hget : s.table.get target = some row := hget
                obtain rfl : row.id = target := Table.key_of_get hget
                exact .revoke ctx row now id random hmem hself hadmin hget rfl rfl rfl
      · exact .none _ rfl rfl rfl

structure Inv (cfg : Config) (s : Node) : Prop where
  onePrefix : OnePrefix s.table
  rows : ∀ r ∈ s.table.rows, ∃ c ∈ s.created, Issued cfg s.revoked c r
  created : ∀ c ∈ s.created, ∃ r ∈ s.table.rows, Issued cfg s.revoked c r
  revoked : ∀ id ∈ s.revoked, (s.table.get id).isSome

theorem inv_empty : Inv cfg .empty := by
  constructor <;> simp [Node.empty, Table.empty, OnePrefix]

theorem touch_issued {revoked : List ℕ} {c : CreatedApiKeyResponse}
    (h : Issued cfg revoked c row) (k : ℕ) :
    Issued cfg revoked c (if row.id = k then row.touch now else row) := by
  unfold ApiKeyRow.touch
  split_ifs <;> exact ⟨h.id, h.hash, h.lookup, h.scope, h.expiry, h.active⟩

theorem get_isSome_next (h : Effect cfg s t e) (hget : (s.table.get id).isSome) :
    (t.table.get id).isSome := by
  obtain ⟨row, hrow⟩ := Option.isSome_iff_exists.mp hget
  cases h with
  | none _ htable => rwa [htable]
  | touch _ k now htable =>
    rw [htable, touchLastUsed, Table.get_update, hrow]
    rfl
  | create _ row c _ hins =>
    rw [Table.get_insert_of_some (insertKey_ok hins).1 hrow]
    rfl
  | revoke ctx row now k random _ _ _ _ htable =>
    rw [htable, Table.get_put, hrow]
    split_ifs <;> rfl

theorem Issued.of_fresh {revoked : List ℕ} {c : CreatedApiKeyResponse}
    (h : Issued cfg [] c row) (hfresh : row.id ∉ revoked) : Issued cfg revoked c row :=
  ⟨h.id, h.hash, h.lookup, h.scope, h.expiry,
    iff_of_true (h.active.mpr (List.not_mem_nil)) hfresh⟩

theorem Issued.revoke {revoked : List ℕ} {c : CreatedApiKeyResponse}
    (h : Issued cfg revoked c row) :
    Issued cfg (revoked ++ [row.id]) c row.deactivate :=
  ⟨h.id, h.hash, h.lookup, h.scope, h.expiry, by simp⟩

theorem Issued.of_ne {revoked : List ℕ} {c : CreatedApiKeyResponse}
    (h : Issued cfg revoked c row) (hne : row.id ≠ id) : Issued cfg (revoked ++ [id]) c row :=
  ⟨h.id, h.hash, h.lookup, h.scope, h.expiry, h.active.trans (by simp [hne])⟩

theorem inv_next (hi : Inv cfg s) (hnext : next cfg s e = some t) : Inv cfg t := by
  have heffect := next_effect hnext
  have hsome (id : ℕ) : (s.table.get id).isSome → (t.table.get id).isSome :=
    get_isSome_next heffect
  cases heffect with
  | none _ htable hcreated hrevoked =>
    constructor
    · rw [htable]
      exact hi.onePrefix
    · rw [htable, hcreated, hrevoked]
      exact hi.rows
    · rw [htable, hcreated, hrevoked]
      exact hi.created
    · rw [htable, hrevoked]
      exact hi.revoked
  | touch _ k now htable hcreated hrevoked =>
    constructor
    · rw [htable]
      refine hi.onePrefix.update fun r _ => ?_
      unfold ApiKeyRow.touch
      split_ifs <;> rfl
    · intro r hr
      rw [htable] at hr
      obtain ⟨r₀, hr₀, rfl⟩ := Table.mem_update.mp hr
      obtain ⟨c, hc, hissued⟩ := hi.rows r₀ hr₀
      rw [hcreated, hrevoked]
      exact ⟨c, hc, touch_issued hissued k⟩
    · intro c hc
      rw [hcreated] at hc
      obtain ⟨r, hr, hissued⟩ := hi.created c hc
      rw [htable, hrevoked]
      exact ⟨_, Table.mem_update.mpr ⟨r, hr, rfl⟩, touch_issued hissued k⟩
    · intro id hid
      exact hsome id (hi.revoked id (hrevoked ▸ hid))
  | create _ row c hissued hins hcreated hrevoked =>
    obtain ⟨hinsert, -⟩ := insertKey_ok hins
    obtain ⟨hnone, hrows⟩ := Table.insert_eq_some hinsert
    have hfresh : row.id ∉ s.revoked := by
      intro hid
      have hget := hi.revoked row.id hid
      rw [hnone] at hget
      cases hget
    have hnew := hissued.of_fresh hfresh
    constructor
    · exact hi.onePrefix.insertKey hins
    · intro r hr
      rw [hrows] at hr
      rw [hcreated, hrevoked]
      rcases List.mem_append.mp hr with hr | hr
      · obtain ⟨c', hc', hissued'⟩ := hi.rows r hr
        exact ⟨c', List.mem_append_left _ hc', hissued'⟩
      · cases List.mem_singleton.mp hr
        exact ⟨c, by simp, hnew⟩
    · intro c' hc'
      rw [hcreated] at hc'
      rw [hrows, hrevoked]
      rcases List.mem_append.mp hc' with hc' | hc'
      · obtain ⟨r, hr, hissued'⟩ := hi.created c' hc'
        exact ⟨r, List.mem_append_left _ hr, hissued'⟩
      · cases List.mem_singleton.mp hc'
        exact ⟨row, by simp, hnew⟩
    · intro id hid
      exact hsome id (hi.revoked id (hrevoked ▸ hid))
  | revoke ctx row now k random _ _ _ hget htable hcreated hrevoked =>
    have hself : row.deactivate ∈ t.table.rows := by
      rw [htable]
      exact Table.mem_put_self (r := row.deactivate) hget
    constructor
    · rw [htable]
      refine hi.onePrefix.update fun r hr => ?_
      by_cases hid : r.id = row.deactivate.id
      · rw [if_pos hid, List.inj_on_of_nodup_map s.table.unique hr (Table.mem_of_get hget) hid]
        rfl
      · rw [if_neg hid]
    · intro r hr
      rw [htable] at hr
      rw [hcreated, hrevoked]
      rcases Table.mem_put hr with rfl | ⟨hr, hne⟩
      · obtain ⟨c, hc, hissued⟩ := hi.rows row (Table.mem_of_get hget)
        exact ⟨c, hc, hissued.revoke⟩
      · obtain ⟨c, hc, hissued⟩ := hi.rows r hr
        exact ⟨c, hc, hissued.of_ne hne⟩
    · intro c hc
      rw [hcreated] at hc
      obtain ⟨r, hr, hissued⟩ := hi.created c hc
      rw [hrevoked]
      by_cases hid : r.id = row.id
      · rw [List.inj_on_of_nodup_map s.table.unique hr (Table.mem_of_get hget) hid] at hissued
        exact ⟨_, hself, hissued.revoke⟩
      · refine ⟨r, ?_, hissued.of_ne hid⟩
        rw [htable]
        exact Table.mem_put_of_ne hr hid
    · intro id hid
      rw [hrevoked] at hid
      rcases List.mem_append.mp hid with hid | hid
      · exact hsome id (hi.revoked id hid)
      · cases List.mem_singleton.mp hid
        exact hsome row.id (by rw [hget]; rfl)

theorem run_inv (h : run (next cfg) .empty es = some s) : Inv cfg s :=
  reachable_invariant (fun _ _ _ hi h => inv_next hi h) inv_empty h

/-- The token is the secret of a key, as far as the digest and the prefix tell, and the key is
neither revoked nor past its expiry. -/
def BearerGrants (cfg : Config) (s : Node) (now : Int) (token : String) (ctx : AuthContext) :
    Prop :=
  ∃ c ∈ s.created, lookupPrefix c.secret = lookupPrefix token ∧
    cfg.sha256Hex c.secret = cfg.sha256Hex token ∧ c.key.id ∉ s.revoked ∧
    (∀ at' ∈ c.key.expiresAt, now < at') ∧ ctx = ⟨"api-key", c.key.scope, some c.key.id⟩

def BasicGrants (cfg : Config) (token : String) (ctx : AuthContext) : Prop :=
  ∃ user password given, cfg.admin = some (user, password) ∧
    (cfg.decodeBasic token).bind (splitOnce ':') = some (user, given) ∧
    cfg.sha256Hex given = cfg.sha256Hex password ∧ ctx = ⟨"admin", .admin, none⟩

theorem Inv.bearer (hi : Inv cfg s) {token : String} :
    route cfg (.ok s.table) now (.bearer token) = .ok ctx ↔ BearerGrants cfg s now token ctx := by
  rw [route, compositeProvider_singleton, apiKeyProvider_ok hi.onePrefix]
  constructor
  · rintro ⟨row, hrow, hkey, husable, hhash, rfl⟩
    obtain ⟨c, hc, hissued⟩ := hi.rows row hrow
    simp only [ApiKeyRow.isUsable, Bool.and_eq_true, Option.all_eq_true, decide_eq_true_eq]
      at husable
    refine ⟨c, hc, hissued.lookup ▸ hkey, hissued.hash ▸ hhash, ?_, ?_, ?_⟩
    · rw [← hissued.id]
      exact hissued.active.mp husable.1
    · rw [← hissued.expiry]
      exact husable.2
    · rw [hissued.scope, hissued.id]
  · rintro ⟨c, hc, hkey, hhash, hrevoked, hexpiry, rfl⟩
    obtain ⟨row, hrow, hissued⟩ := hi.created c hc
    refine ⟨row, hrow, hissued.lookup.trans hkey, ?_, hissued.hash.trans hhash, ?_⟩
    · simp only [ApiKeyRow.isUsable, Bool.and_eq_true, Option.all_eq_true, decide_eq_true_eq]
      rw [hissued.active, hissued.id, hissued.expiry]
      exact ⟨hrevoked, hexpiry⟩
    · rw [hissued.scope, hissued.id]

theorem route_bearer_error {e token : String} :
    route cfg (.error e) now (.bearer token) = .error (.invalid ("key lookup failed: " ++ e)) :=
  rfl

theorem route_basic {keys : KeysRead} {token : String} :
    route cfg keys now (.basic token) = .ok ctx ↔ BasicGrants cfg token ctx := by
  unfold route BasicGrants
  cases cfg.admin with
  | none => simp
  | some admin =>
    dsimp only
    unfold localProvider
    constructor
    · intro h
      split at h
      · cases h
      next user given hsplit =>
        split_ifs at h with hadmin
        cases h
        simp only [Bool.and_eq_true, decide_eq_true_eq] at hadmin
        exact ⟨admin.1, admin.2, given, rfl, hadmin.1 ▸ hsplit, hadmin.2, rfl⟩
    · rintro ⟨user, password, given, hadmin, hsplit, hhash, rfl⟩
      cases hadmin
      simp [hsplit, hhash]

theorem authMiddleware_ok {keys : KeysRead} {header : Option String} :
    authMiddleware cfg keys now header = .ok ctx ↔
      ∃ credential, extractCredential header = some credential ∧
        route cfg keys now credential = .ok ctx := by
  unfold authMiddleware
  cases extractCredential header with
  | none => simp
  | some credential =>
    cases hroute : route cfg keys now credential with
    | ok c => simp [hroute]
    | error e => cases e <;> simp [hroute]

/-- In every state the node can reach, a request is let in exactly on the secret of a key, up to its
digest, that was created, has not been revoked and is not past its expiry, with the scope it was
created with, or on the local administrator's own credentials. When the lookup of the key fails,
only the administrator is let in. -/
theorem let_in_iff {header : Option String} (h : run (next cfg) .empty es = some s)
    (failure : Option String) :
    authMiddleware cfg (s.keysRead failure) now header = .ok ctx ↔
      ∃ credential, extractCredential header = some credential ∧
        match credential with
        | .bearer token => failure = none ∧ BearerGrants cfg s now token ctx
        | .basic token => BasicGrants cfg token ctx := by
  rw [authMiddleware_ok]
  refine exists_congr fun credential => and_congr_right fun _ => ?_
  cases credential with
  | bearer token =>
    cases failure with
    | none => exact (run_inv h).bearer.trans (by simp)
    | some e => simp [Node.keysRead, route_bearer_error]
  | basic token => exact route_basic

def Task.context : Task → AuthContext
  | .touch ctx _ _ => ctx
  | .perform ctx _ => ctx

def Keyed (t : ApiKeyTable) (ctx : AuthContext) : Prop :=
  ∀ k ∈ ctx.keyId, ∃ row, t.get k = some row ∧ row.scope = ctx.scope

theorem next_row (h : next cfg s e = some t) (hrow : s.table.get id = some row) :
    ∃ row', t.table.get id = some row' ∧ row'.scope = row.scope := by
  cases next_effect h with
  | none _ htable => exact ⟨row, by rw [htable, hrow], rfl⟩
  | touch _ k now htable =>
    refine ⟨_, by rw [htable, touchLastUsed, Table.get_update, hrow]; rfl, ?_⟩
    dsimp only
    unfold ApiKeyRow.touch
    split_ifs <;> rfl
  | create _ new c _ hins =>
    exact ⟨row, Table.get_insert_of_some (insertKey_ok hins).1 hrow, rfl⟩
  | revoke ctx old now k random _ _ _ hget htable =>
    by_cases hid : old.id = id
    · subst hid
      rw [hget] at hrow
      cases hrow
      refine ⟨row.deactivate, ?_, rfl⟩
      rw [htable, Table.get_put, if_pos (show row.deactivate.id = row.id from rfl), hget]
      rfl
    · refine ⟨row, ?_, rfl⟩
      rw [htable, Table.get_put, if_neg (show old.deactivate.id ≠ id from hid), hrow]

theorem Keyed.next (hkeyed : Keyed s.table ctx) (h : next cfg s e = some t) :
    Keyed t.table ctx := by
  intro k hk
  obtain ⟨row, hrow, hscope⟩ := hkeyed k hk
  obtain ⟨row', hrow', hscope'⟩ := next_row h hrow
  exact ⟨row', hrow', hscope'.trans hscope⟩

theorem next_tasks (hi : Inv cfg s) (h : next cfg s e = some t) :
    ∀ task ∈ t.tasks, (∃ old ∈ s.tasks, task.context = old.context) ∨
      Keyed s.table task.context := by
  cases e with
  | request header op now failure =>
    cases h
    unfold request
    split
    · exact fun task hmem => .inl ⟨task, hmem, rfl⟩
    next ctx hctx =>
      have hkeyed : Keyed s.table ctx := by
        intro k hk
        obtain ⟨credential, -, hroute⟩ := authMiddleware_ok.mp hctx
        cases credential with
        | bearer token =>
          cases failure with
          | some e =>
            rw [Node.keysRead, route_bearer_error] at hroute
            cases hroute
          | none =>
            rw [Node.keysRead, route, compositeProvider_singleton,
              apiKeyProvider_ok hi.onePrefix] at hroute
            obtain ⟨row, hrow, -, -, -, rfl⟩ := hroute
            cases hk
            exact ⟨row, Table.get_of_mem hrow, rfl⟩
        | basic token =>
          obtain ⟨_, _, _, -, -, -, rfl⟩ := route_basic.mp hroute
          cases hk
      have hqueue (new : Task) (hnew : new.context = ctx) (task : Task)
          (hmem : task ∈ (s.queue new).tasks) :
          (∃ old ∈ s.tasks, task.context = old.context) ∨ Keyed s.table task.context := by
        rcases List.mem_cons.mp hmem with rfl | hmem
        · exact .inr (hnew ▸ hkeyed)
        · exact .inl ⟨task, hmem, rfl⟩
      split
      · exact hqueue _ rfl
      · exact hqueue _ rfl
  | stop task =>
    simp only [next] at h
    split_ifs at h
    cases h
    exact fun other hother => .inl ⟨other, List.mem_of_mem_erase hother, rfl⟩
  | proceed task now id random =>
    simp only [next] at h
    split_ifs at h with hmem
    have hold (other : Task) (hother : other ∈ (s.finish task).tasks) :
        (∃ old ∈ s.tasks, other.context = old.context) ∨ Keyed s.table other.context :=
      .inl ⟨other, List.mem_of_mem_erase hother, rfl⟩
    cases task with
    | touch ctx key op =>
      cases h
      intro other hother
      rcases List.mem_cons.mp hother with rfl | hother
      · exact .inl ⟨_, hmem, rfl⟩
      · exact hold other hother
    | perform ctx op =>
      cases h
      have htasks : (perform cfg (s.finish (.perform ctx op)) ctx now id random op).tasks =
          (s.finish (.perform ctx op)).tasks := by
        unfold perform create revoke
        split_ifs
        · cases op with
          | list => rfl
          | create name scope expiresAt =>
            dsimp only
            split_ifs
            · rfl
            · split <;> rfl
          | revoke target =>
            cases target with
            | none => rfl
            | some target =>
              dsimp only
              split_ifs
              · rfl
              · split <;> rfl
        · rfl
      rw [htasks]
      exact hold

theorem keyed_next (hi : Inv cfg s) (hkeyed : ∀ task ∈ s.tasks, Keyed s.table task.context)
    (h : next cfg s e = some t) : ∀ task ∈ t.tasks, Keyed t.table task.context := by
  intro task htask
  rcases next_tasks hi h task htask with ⟨old, hold, hsame⟩ | hnew
  · rw [hsame]
    exact (hkeyed old hold).next h
  · exact hnew.next h

theorem tasks_keyed (h : run (next cfg) .empty es = some s) :
    ∀ task ∈ s.tasks, Keyed s.table task.context := by
  refine (reachable_invariant
    (fun u e v (hu : Inv cfg u ∧ ∀ task ∈ u.tasks, Keyed u.table task.context) hnext => ?_)
    ⟨inv_empty, by simp [Node.empty]⟩ h).2
  obtain ⟨hi, hkeyed⟩ := hu
  exact ⟨inv_next hi hnext, keyed_next hi hkeyed hnext⟩

def SomeAdmin (t : ApiKeyTable) : Prop :=
  ∃ row ∈ t.rows, row.isActive = true ∧ row.scope = .admin

/-- A revocation that is carried out is made with a key that is itself still active. -/
def RevokerStands (s : Node) : Event → Prop
  | .proceed (.perform ctx (.revoke (some target))) _ _ _ =>
    ctx.scope.isAdmin = true → ctx.keyId ≠ some target → (s.table.get target).isSome = true →
      ∃ k ∈ ctx.keyId, ∃ row, s.table.get k = some row ∧ row.isActive = true
  | _ => True

theorem someAdmin_next (hkeyed : ∀ task ∈ s.tasks, Keyed s.table task.context)
    (hadmin : SomeAdmin s.table) (hstands : RevokerStands s e) (h : next cfg s e = some t) :
    SomeAdmin t.table := by
  obtain ⟨admin, hmem, hactive, hscope⟩ := hadmin
  cases next_effect h with
  | none _ htable =>
    rw [htable]
    exact ⟨admin, hmem, hactive, hscope⟩
  | touch _ k now htable =>
    rw [htable]
    refine ⟨_, Table.mem_update.mpr ⟨admin, hmem, rfl⟩, ?_⟩
    unfold ApiKeyRow.touch
    split_ifs <;> exact ⟨hactive, hscope⟩
  | create _ row c _ hins =>
    have hget := Table.get_insert_of_some (insertKey_ok hins).1 (Table.get_of_mem hmem)
    exact ⟨admin, Table.mem_of_get hget, hactive, hscope⟩
  | revoke ctx row now id random htask hself hisAdmin hget htable =>
    obtain ⟨k, hk, revoker, hrevoker, hstill⟩ := hstands hisAdmin hself (by rw [hget]; rfl)
    obtain ⟨row', hrow', hscope'⟩ := hkeyed _ htask k hk
    rw [hrevoker] at hrow'
    cases hrow'
    have hne : revoker.id ≠ row.id := by
      intro hsame
      have hkey : revoker.id = k := Table.key_of_get (t := s.table) hrevoker
      rw [← hsame, hkey] at hself
      exact hself hk
    rw [htable]
    refine ⟨revoker, Table.mem_put_of_ne (Table.mem_of_get hrevoker) hne, hstill, ?_⟩
    rw [hscope']
    change ctx.scope = .admin
    simpa [ApiKeyScope.isAdmin] using hisAdmin

/-- As long as every revocation that is carried out is made with a key still active then, as it is
when requests run one at a time, an admin key stays active: the guard against revoking oneself
keeps one key standing. -/
theorem revocations_leave_an_admin (hs : run (next cfg) .empty es = some s)
    (hadmin : SomeAdmin s.table) (halong : Along (next cfg) RevokerStands s fs)
    (ht : run (next cfg) s fs = some t) : SomeAdmin t.table := by
  refine (run_invariant (fun u e v (hu : Inv cfg u ∧
    (∀ task ∈ u.tasks, Keyed u.table task.context) ∧ SomeAdmin u.table) hstands hnext => ?_)
    ⟨run_inv hs, tasks_keyed hs, hadmin⟩ halong ht).2.2
  obtain ⟨hi, hkeyed, hadmin⟩ := hu
  exact ⟨inv_next hi hnext, keyed_next hi hkeyed hnext,
    someAdmin_next hkeyed hadmin hstands hnext⟩

end Runs

section Samples

def sampleConfig : Config where
  sha256Hex text := "sha256:" ++ text
  decodeBasic text := if text = "YWRtaW46c2VjcmV0" then some "admin:secret" else none
  admin := some ("admin", "secret")

def issueFirstKey : List Event :=
  [.request (some "Basic YWRtaW46c2VjcmV0") (.create "ci" none none) 10 none,
    .proceed (.perform ⟨"admin", .admin, none⟩ (.create "ci" none none)) 11 1 [1, 2, 3]]

def issueTwoKeys : List Event :=
  issueFirstKey ++ [.request (some "Basic YWRtaW46c2VjcmV0") (.create "cd" none none) 12 none,
    .proceed (.perform ⟨"admin", .admin, none⟩ (.create "cd" none none)) 13 2 [4, 5, 6]]

theorem first_key_lets_in :
    ∃ s, run (next sampleConfig) .empty issueFirstKey = some s ∧
      authMiddleware sampleConfig (s.keysRead none) 20 (some "Bearer odal_sk_AQID") =
        .ok ⟨"api-key", .admin, some 1⟩ := by
  have hrun : run (next sampleConfig) .empty issueFirstKey = some _ := rfl
  refine ⟨_, hrun, (let_in_iff hrun none).mpr ⟨.bearer "odal_sk_AQID", by decide, rfl, ?_⟩⟩
  exact ⟨_, .head _, by decide, by decide, List.not_mem_nil, nofun, rfl⟩

def firstRevokesSecond : List Event :=
  [.request (some "Bearer odal_sk_AQID") (.revoke (some 2)) 20 none,
    .proceed (.touch ⟨"api-key", .admin, some 1⟩ 1 (.revoke (some 2))) 21 0 [],
    .proceed (.perform ⟨"api-key", .admin, some 1⟩ (.revoke (some 2))) 22 0 []]

theorem first_key_revokes_the_second :
    ∃ s t, run (next sampleConfig) .empty issueTwoKeys = some s ∧
      run (next sampleConfig) s firstRevokesSecond = some t ∧ SomeAdmin t.table := by
  let s := (run (next sampleConfig) .empty issueTwoKeys).getD .empty
  have hs : run (next sampleConfig) .empty issueTwoKeys = some s := rfl
  have ht : run (next sampleConfig) s firstRevokesSecond = some _ := rfl
  have hadmin : SomeAdmin s.table := ⟨_, .head _, rfl, rfl⟩
  have halong : Along (next sampleConfig) RevokerStands s firstRevokesSecond := by
    refine ⟨trivial, fun u hu => ?_⟩
    cases hu
    refine ⟨trivial, fun u hu => ?_⟩
    cases hu
    refine ⟨fun _ _ _ => ⟨1, rfl, _, rfl, rfl⟩, fun u hu => ?_⟩
    cases hu
    trivial
  exact ⟨s, _, hs, ht, revocations_leave_an_admin hs hadmin halong ht⟩

end Samples

end ApiKeyAccess
