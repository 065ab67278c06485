import DppEngine.CreateRequests

/-! Requests to targets that a subscription, an issuer or a credential names.

The guard resolves a name and approves the addresses it found. A connection is held to them only
where its client is pinned to that answer. A URL's parser, the name servers and the peers are
parameters. -/
namespace OutboundTargets

open JsonValues FallibleSteps

section Addresses

structure Ipv4Addr where
  (a b c d : UInt8)
  deriving DecidableEq, Repr

structure Ipv6Addr where
  (s₀ s₁ s₂ s₃ s₄ s₅ s₆ s₇ : UInt16)
  deriving DecidableEq, Repr

inductive IpAddr where
  | v4 (ip : Ipv4Addr)
  | v6 (ip : Ipv6Addr)
  deriving DecidableEq, Repr

/-- The address as a literal of a request body is judged. -/
def IpAddr.literal : IpAddr → CreateRequests.Host
  | .v4 ⟨a, b, c, d⟩ => .ipv4 a.toNat b.toNat c.toNat d.toNat
  | .v6 ⟨s₀, s₁, s₂, s₃, s₄, s₅, s₆, s₇⟩ =>
    .ipv6 [s₀.toNat, s₁.toNat, s₂.toNat, s₃.toNat, s₄.toNat, s₅.toNat, s₆.toNat, s₇.toNat]

def ipIsDisallowed (ip : IpAddr) : Bool := CreateRequests.ipIsDisallowed ip.literal

def Ipv6Addr.unspecified : Ipv6Addr := ⟨0, 0, 0, 0, 0, 0, 0, 0⟩

/-- The ways an IPv6 address stands for an IPv4 one. -/
inductive Embedding where
  | mapped | compatible | nat64 | sixToFour
  deriving DecidableEq, Repr

def Ipv4Addr.ofSegments (high low : UInt16) : Ipv4Addr :=
  ⟨.ofNat (high.toNat / 256), .ofNat (high.toNat % 256), .ofNat (low.toNat / 256),
    .ofNat (low.toNat % 256)⟩

/-- `::ffff:0:0/96`, `::/96`, `64:ff9b::/96` and `2002::/16`. -/
def Ipv6Addr.embedded (ip : Ipv6Addr) : Embedding → Option Ipv4Addr
  | .mapped =>
    if ip = ⟨0, 0, 0, 0, 0, 0xFFFF, ip.s₆, ip.s₇⟩ then some (.ofSegments ip.s₆ ip.s₇) else none
  | .compatible =>
    if ip = ⟨0, 0, 0, 0, 0, 0, ip.s₆, ip.s₇⟩ then some (.ofSegments ip.s₆ ip.s₇) else none
  | .nat64 =>
    if ip = ⟨0x64, 0xFF9B, 0, 0, 0, 0, ip.s₆, ip.s₇⟩ then some (.ofSegments ip.s₆ ip.s₇) else none
  | .sixToFour => if ip.s₀ = 0x2002 then some (.ofSegments ip.s₁ ip.s₂) else none

end Addresses

section Targets

structure SocketAddr where
  ip : IpAddr
  port : ℕ
  deriving DecidableEq, Repr

inductive Host where
  | domain (name : String)
  | ipv4 (ip : Ipv4Addr)
  | ipv6 (ip : Ipv6Addr)
  deriving DecidableEq, Repr

def Host.ip? : Host → Option IpAddr
  | .domain _ => none
  | .ipv4 ip => some (.v4 ip)
  | .ipv6 ip => some (.v6 ip)

structure Url where
  scheme : String
  host : Option Host
  portOrKnownDefault : Option ℕ
  deriving DecidableEq, Repr

structure Response where
  status : ℕ
  body : List UInt8
  deriving DecidableEq, Repr

/-- URLs and addresses as texts, names as they are resolved (each time anew), and the peers. A
name in an `https` URL is never the text of an address. -/
structure Network where
  parseUrl : String → Except String Url
  showIp : IpAddr → String
  isIpText : String → Bool
  lookupHost : ℕ → String → ℕ → Except String (List SocketAddr)
  reach : ℕ → List SocketAddr → List SocketAddr
  respond : ℕ → String → Except String Response
  parseJson : List UInt8 → Except String Json
  literal_text : ∀ ip, isIpText (showIp ip) = true
  domain_text : ∀ raw url name, parseUrl raw = .ok url → url.scheme = "https" →
    url.host = some (.domain name) → isIpText name = false
  reach_subset : ∀ n offered, reach n offered ⊆ offered

/-- What one request did: the names it had resolved, the addresses the guard approved for it, and
the addresses it connected to. -/
structure Activity where
  resolutions : ℕ
  approved : List IpAddr
  opened : List SocketAddr
  deriving DecidableEq, Repr

abbrev Outbound (ε : Type) := EStateM ε Activity

structure CheckedTarget where
  host : String
  port : ℕ
  addrs : List SocketAddr
  deriving DecidableEq, Repr

/-- The addresses a client was told to use for a host, instead of resolving it. -/
structure Client where
  overrides : String → Option (List SocketAddr)

/-- The one override of a host is replaced by a later one. -/
def Client.resolve (client : Client) (host : String) (addr : SocketAddr) : Client :=
  ⟨Function.update client.overrides host (some [addr])⟩

def guardedClient : Client := ⟨fun _ => none⟩

end Targets

section Guard

variable (net : Network)

def lookupHost (host : String) (port : ℕ) : Outbound String (List SocketAddr) := do
  let s ← get
  set { s with resolutions := s.resolutions + 1 }
  match net.lookupHost s.resolutions host port with
  | .error e => throw e
  | .ok addrs => return addrs

def rejectIfDisallowed (ip : IpAddr) : Outbound String Unit :=
  if ipIsDisallowed ip then throw ("host is a non-public address (" ++ net.showIp ip ++ ")")
  else modify fun s => { s with approved := s.approved ++ [ip] }

def rejectAllDisallowed : List SocketAddr → Outbound String Unit
  | [] => return
  | addr :: addrs => do
    rejectIfDisallowed net addr.ip
    rejectAllDisallowed addrs

def parseUrl (raw : String) : Outbound String Url :=
  match net.parseUrl raw with
  | .error e => throw ("invalid URL: " ++ e)
  | .ok url => return url

/-- Every address is judged, not just the first. -/
def checkHost (port : ℕ) : Option Host → Outbound String CheckedTarget
  | none => throw "no host"
  | some (.ipv4 ip) => do
    rejectIfDisallowed net (.v4 ip)
    return ⟨net.showIp (.v4 ip), port, [⟨.v4 ip, port⟩]⟩
  | some (.ipv6 ip) => do
    rejectIfDisallowed net (.v6 ip)
    return ⟨net.showIp (.v6 ip), port, [⟨.v6 ip, port⟩]⟩
  | some (.domain host) => do
    let addrs ← EStateM.adaptExcept ("DNS resolution failed: " ++ ·) (lookupHost net host port)
    if addrs = [] then throw "host did not resolve"
    rejectAllDisallowed net addrs
    return ⟨host, port, addrs⟩

def resolvePublicTarget (raw : String) : Outbound String CheckedTarget := do
  let url ← parseUrl net raw
  if url.scheme ≠ "https" then throw "scheme is not https"
  checkHost net (url.portOrKnownDefault.getD 443) url.host

def assertPublicTarget (raw : String) : Outbound String Unit := do
  let _ ← resolvePublicTarget net raw

def CheckedTarget.isLiteral (target : CheckedTarget) : Bool := net.isIpText target.host

end Guard

section Requests

inductive FetchError where
  | refused (reason : String)
  | unreachable (reason : String)
  | body (reason : String)
  deriving DecidableEq, Repr

variable (net : Network)

def connect (offered : List SocketAddr) : Outbound String Unit :=
  modify fun s => { s with opened := s.opened ++ net.reach s.resolutions offered }

/-- A client connects to the address of a literal, to what it was told for a name, or to what the
name resolves to now. -/
def Client.connectHost (client : Client) (port : ℕ) : Option Host → Outbound String Unit
  | none => throw "no host"
  | some (.ipv4 ip) => connect net [⟨.v4 ip, port⟩]
  | some (.ipv6 ip) => connect net [⟨.v6 ip, port⟩]
  | some (.domain host) =>
    match client.overrides host with
    | some addrs => connect net addrs
    | none => do
      let addrs ← lookupHost net host port
      connect net addrs

def readResponse (raw : String) : Outbound String Response := do
  let s ← get
  match net.respond s.resolutions raw with
  | .error e => throw e
  | .ok response => return response

/-- One request. A redirect is an answer like any other: it is not followed. -/
def Client.send (client : Client) (raw : String) : Outbound String Response := do
  let url ← parseUrl net raw
  client.connectHost net (url.portOrKnownDefault.getD 443) url.host
  readResponse net raw

def pinnedClient (target : CheckedTarget) : Client :=
  target.addrs.foldl (fun client addr => client.resolve target.host addr) guardedClient

def boundClient (shared : Client) (target : CheckedTarget) : Client :=
  if target.isLiteral net then shared else pinnedClient target

def pinnedClientFor (shared : Client) (raw : String) : Outbound FetchError Client := do
  let target ← EStateM.adaptExcept .refused (resolvePublicTarget net raw)
  return boundClient net shared target

def Response.isSuccess (response : Response) : Bool :=
  200 ≤ response.status && response.status < 300

def guardedGet (shared : Client) (raw : String) : Outbound FetchError Response := do
  let target ← EStateM.adaptExcept .refused (resolvePublicTarget net raw)
  let response ← EStateM.adaptExcept .unreachable ((boundClient net shared target).send net raw)
  if !response.isSuccess then throw (.unreachable ("HTTP " ++ toString response.status))
  return response

def readCapped (response : Response) (maxBytes : ℕ) : Outbound FetchError (List UInt8) :=
  if maxBytes < response.body.length then
    throw (.body ("response exceeded the " ++ toString maxBytes ++ "-byte cap"))
  else return response.body

def fetchJson (shared : Client) (raw : String) (maxBytes : ℕ) : Outbound FetchError Json := do
  let response ← guardedGet net shared raw
  let bytes ← readCapped response maxBytes
  match net.parseJson bytes with
  | .error e => throw (.body e)
  | .ok json => return json

def fetchText (shared : Client) (raw : String) (maxBytes : ℕ) : Outbound FetchError String := do
  let response ← guardedGet net shared raw
  let bytes ← readCapped response maxBytes
  match String.fromUTF8? ⟨bytes.toArray⟩ with
  | none => throw (.body "body is not UTF-8")
  | some text => return text

/-- The client of a webhook delivery: the shared one where private targets are allowed. -/
def clientForTarget (shared : Client) (raw : String) (allowPrivate : Bool) :
    Outbound FetchError Client :=
  if allowPrivate then return shared else pinnedClientFor net shared raw

def deliver (raw : String) (allowPrivate : Bool) : Outbound FetchError Response := do
  let client ← clientForTarget net guardedClient raw allowPrivate
  EStateM.adaptExcept .unreachable (client.send net raw)

end Requests

section Directory

def maxBody : ℕ := 256 * 1024

/-- `did:web:host:a:b` is served at `https://host/a/b/did.json`. -/
def didWebUrl (did : String) : Option String := do
  let rest ← did.dropPrefix? "did:web:"
  let parts := rest.toString.splitOn ":"
  let host ← parts.head?.filter (· ≠ "")
  let host := host.replace "%3A" ":"
  match parts.tail with
  | [] => return "https://" ++ host ++ "/.well-known/did.json"
  | path => return "https://" ++ host ++ "/" ++ "/".intercalate path ++ "/did.json"

/-- The node's own DID with its document, and the documents fetched within the last five minutes. -/
structure HttpCredentialDirectory where
  localIssuer : Option (String × Option Json)
  cached : String → Option Json

variable (net : Network)

/-- `none` of the source is a failure with no reason. -/
def orNone {α : Type} : Option α → Outbound Unit α
  | none => throw ()
  | some a => return a

def HttpCredentialDirectory.didDocument (directory : HttpCredentialDirectory) (did : String) :
    Outbound Unit Json :=
  match directory.localIssuer.filter (·.1 = did) with
  | some (_, own) => orNone own
  | none =>
    match directory.cached did with
    | some doc => return doc
    | none => do
      let url ← orNone (didWebUrl did)
      EStateM.adaptExcept (fun _ => ()) (fetchJson net guardedClient url maxBody)

def encodedListOf (body : Json) : Option String :=
  match (body.get "credentialSubject").bind (·.get "encodedList") with
  | some (.str encoded) => some encoded
  | _ => none

def fetchStatusListFor {StatusList : Type} (decode : String → Option StatusList)
    (http : Client) (url : Option String) : Outbound Unit StatusList := do
  let url ← orNone url
  let response ← EStateM.adaptExcept (fun _ => ()) (http.send net url)
  if !response.isSuccess then throw ()
  let body ← orNone (net.parseJson response.body).toOption
  let encoded ← orNone (encodedListOf body)
  orNone (decode encoded)

def statusList {StatusList : Type} (decode : String → Option StatusList) (url : Option String) :
    Outbound Unit StatusList := do
  if let some raw := url then
    EStateM.adaptExcept (fun _ => ()) (assertPublicTarget net raw)
  fetchStatusListFor net decode guardedClient url

end Directory

section Approvals

variable {net : Network} {s s' : Activity} {raw : String}

/-- What the guard's approval of a host says: a literal it judged itself, or a name with every
address of one answer. -/
inductive Approval (net : Network) (port : ℕ) (s : Activity) :
    Option Host → CheckedTarget → Activity → Prop
  | literal {host : Host} {ip : IpAddr} : host.ip? = some ip → ipIsDisallowed ip = false →
      Approval net port s (some host) ⟨net.showIp ip, port, [⟨ip, port⟩]⟩
        { s with approved := s.approved ++ [ip] }
  | named {name : String} {addrs : List SocketAddr} :
      net.lookupHost s.resolutions name port = .ok addrs → addrs ≠ [] →
      (∀ addr ∈ addrs, ipIsDisallowed addr.ip = false) →
      Approval net port s (some (.domain name)) ⟨name, port, addrs⟩
        { s with
          resolutions := s.resolutions + 1
          approved := s.approved ++ addrs.map SocketAddr.ip }

theorem rejectIfDisallowed_eq (ip : IpAddr) : rejectIfDisallowed net ip s =
    if ipIsDisallowed ip then .error ("host is a non-public address (" ++ net.showIp ip ++ ")") s
    else .ok () { s with approved := s.approved ++ [ip] } := by
  unfold rejectIfDisallowed
  split <;> rfl

theorem rejectIfDisallowed_opened (ip : IpAddr) :
    (after (rejectIfDisallowed net ip) s).opened = s.opened := by
  rw [after, rejectIfDisallowed_eq]
  by_cases h : ipIsDisallowed ip = true
  · rw [if_pos h]
  · rw [if_neg h]

theorem rejectAllDisallowed_ok_iff {addrs : List SocketAddr} {u : Unit} :
    rejectAllDisallowed net addrs s = .ok u s' ↔
      (∀ addr ∈ addrs, ipIsDisallowed addr.ip = false) ∧
        s' = { s with approved := s.approved ++ addrs.map SocketAddr.ip } := by
  induction addrs generalizing s with
  | nil =>
    simp only [rejectAllDisallowed, pure, EStateM.pure, EStateM.Result.ok.injEq, true_and,
      List.map_nil, List.append_nil]
    exact ⟨fun h => ⟨List.forall_mem_nil _, h.symm⟩, fun h => h.2.symm⟩
  | cons addr addrs ih =>
    simp only [rejectAllDisallowed, bind, EStateM.bind, rejectIfDisallowed_eq]
    by_cases h : ipIsDisallowed addr.ip = true
    · simp [h]
    · simp [h, ih]

theorem rejectAllDisallowed_opened (addrs : List SocketAddr) :
    (after (rejectAllDisallowed net addrs) s).opened = s.opened := by
  induction addrs generalizing s with
  | nil => rfl
  | cons addr addrs ih =>
    simp only [rejectAllDisallowed]
    by_cases h : ipIsDisallowed addr.ip = true
    · rw [after_bind_of_error (by rw [rejectIfDisallowed_eq, if_pos h])]
    · rw [after_bind_of_ok (by rw [rejectIfDisallowed_eq, if_neg h]), ih]

theorem parseUrl_eq (raw : String) : parseUrl net raw s =
    match net.parseUrl raw with
    | .error e => .error ("invalid URL: " ++ e) s
    | .ok url => .ok url s := by
  unfold parseUrl
  cases net.parseUrl raw <;> rfl

theorem lookupHost_eq (host : String) (port : ℕ) : lookupHost net host port s =
    match net.lookupHost s.resolutions host port with
    | .error e => .error e { s with resolutions := s.resolutions + 1 }
    | .ok addrs => .ok addrs { s with resolutions := s.resolutions + 1 } := by
  unfold lookupHost
  rw [get_bind, set_bind]
  cases net.lookupHost s.resolutions host port <;> rfl

theorem checkHost_ok {port : ℕ} {host : Option Host} {target : CheckedTarget}
    (h : checkHost net port host s = .ok target s') : Approval net port s host target s' := by
  have hliteral : ∀ {host : Host} {ip : IpAddr}, host.ip? = some ip →
      (rejectIfDisallowed net ip >>= fun _ =>
        (pure ⟨net.showIp ip, port, [⟨ip, port⟩]⟩ : Outbound String CheckedTarget)) s =
          .ok target s' → Approval net port s (some host) target s' := by
    intro host ip hip h
    obtain ⟨u, t, hjudged, h⟩ := stateful_bind_ok h
    rw [rejectIfDisallowed_eq] at hjudged
    split at hjudged
    next => cases hjudged
    next hallowed =>
      cases hjudged
      cases h
      exact .literal hip (by simpa using hallowed)
  cases host with
  | none => cases h
  | some host =>
    cases host with
    | ipv4 ip => exact hliteral rfl h
    | ipv6 ip => exact hliteral rfl h
    | domain name =>
      obtain ⟨addrs, t, hlookup, h⟩ := stateful_bind_ok h
      rw [adaptExcept_eq_ok_iff, lookupHost_eq] at hlookup
      cases hanswer : net.lookupHost s.resolutions name port with
      | error e =>
        rw [hanswer] at hlookup
        cases hlookup
      | ok answer =>
        rw [hanswer] at hlookup
        cases hlookup
        by_cases hne : addrs = []
        · rw [if_pos hne] at h
          cases h
        · rw [if_neg hne] at h
          obtain ⟨u, t, hall, h⟩ := stateful_bind_ok h
          obtain ⟨hallowed, rfl⟩ := rejectAllDisallowed_ok_iff.mp hall
          cases h
          exact .named hanswer hne hallowed

theorem checkHost_of_approval {port : ℕ} {host : Option Host} {target : CheckedTarget}
    (h : Approval net port s host target s') : checkHost net port host s = .ok target s' := by
  cases h with
  | @literal host ip hip hallowed =>
    have hjudged : rejectIfDisallowed net ip s =
        .ok () { s with approved := s.approved ++ [ip] } := by
      rw [rejectIfDisallowed_eq, if_neg (by simp [hallowed])]
    cases host with
    | domain name => cases hip
    | ipv4 ip =>
      cases hip
      simp only [checkHost, bind, EStateM.bind, hjudged]
      rfl
    | ipv6 ip =>
      cases hip
      simp only [checkHost, bind, EStateM.bind, hjudged]
      rfl
  | @named name addrs hanswer hne hall =>
    have hlookup : EStateM.adaptExcept ("DNS resolution failed: " ++ ·)
        (lookupHost net name port) s = .ok addrs { s with resolutions := s.resolutions + 1 } := by
      rw [adaptExcept_eq_ok_iff, lookupHost_eq, hanswer]
    have hjudged : rejectAllDisallowed net addrs { s with resolutions := s.resolutions + 1 } =
        .ok () _ :=
      rejectAllDisallowed_ok_iff.mpr ⟨hall, rfl⟩
    simp only [checkHost, bind, EStateM.bind, hlookup, if_neg hne, hjudged]
    rfl

/-- The guard opens nothing. -/
theorem checkHost_opened (port : ℕ) (host : Option Host) :
    (after (checkHost net port host) s).opened = s.opened := by
  have hliteral : ∀ ip : IpAddr, (after (rejectIfDisallowed net ip >>= fun _ =>
      (pure ⟨net.showIp ip, port, [⟨ip, port⟩]⟩ : Outbound String CheckedTarget)) s).opened =
        s.opened := by
    intro ip
    rw [after_bind_quiet fun _ _ => rfl, rejectIfDisallowed_opened]
  cases host with
  | none => rfl
  | some host =>
    cases host with
    | ipv4 ip => exact hliteral (.v4 ip)
    | ipv6 ip => exact hliteral (.v6 ip)
    | domain name =>
      simp only [checkHost]
      cases hanswer : net.lookupHost s.resolutions name port with
      | error e =>
        have hfailed : EStateM.adaptExcept ("DNS resolution failed: " ++ ·)
            (lookupHost net name port) s =
            .error ("DNS resolution failed: " ++ e)
              { s with resolutions := s.resolutions + 1 } := by
          simp only [EStateM.adaptExcept, lookupHost_eq, hanswer]
        rw [after_bind_of_error hfailed]
      | ok addrs =>
        rw [after_bind_of_ok (adaptExcept_eq_ok_iff.mpr (by rw [lookupHost_eq, hanswer]))]
        by_cases hne : addrs = []
        · rw [if_pos hne]
          rfl
        · rw [if_neg hne, after_bind_quiet fun _ _ => rfl, rejectAllDisallowed_opened]

/-- The guard approves the host of an `https` URL or no target at all. -/
theorem resolvePublicTarget_ok_iff {target : CheckedTarget} :
    resolvePublicTarget net raw s = .ok target s' ↔ ∃ url, net.parseUrl raw = .ok url ∧
      url.scheme = "https" ∧
      Approval net (url.portOrKnownDefault.getD 443) s url.host target s' := by
  unfold resolvePublicTarget
  simp only [bind, EStateM.bind, parseUrl_eq]
  cases net.parseUrl raw with
  | error e => simp
  | ok url =>
    by_cases hscheme : url.scheme = "https"
    · simp only [hscheme, ne_eq, not_true_eq_false, if_false]
      constructor
      · intro h
        exact ⟨url, rfl, hscheme, checkHost_ok h⟩
      · rintro ⟨url', ⟨⟩, -, h⟩
        exact checkHost_of_approval h
    · simp only [hscheme, ne_eq, not_false_eq_true, if_true]
      constructor
      · intro h
        cases h
      · rintro ⟨url', ⟨⟩, h, -⟩
        exact absurd h hscheme

theorem resolvePublicTarget_opened (raw : String) :
    (after (resolvePublicTarget net raw) s).opened = s.opened := by
  unfold resolvePublicTarget
  cases hurl : net.parseUrl raw with
  | error e => rw [after_bind_of_error (by rw [parseUrl_eq, hurl])]
  | ok url =>
    rw [after_bind_of_ok (by rw [parseUrl_eq, hurl])]
    by_cases hscheme : url.scheme ≠ "https"
    · rw [if_pos hscheme]
      rfl
    · rw [if_neg hscheme]
      exact checkHost_opened _ _

end Approvals

section Connections

variable {net : Network} {s s' : Activity} {raw : String} {url : Url}

def dialled (net : Network) (client : Client) (port : ℕ) (s : Activity) :
    Option Host → List SocketAddr
  | none => []
  | some (.ipv4 ip) => net.reach s.resolutions [⟨.v4 ip, port⟩]
  | some (.ipv6 ip) => net.reach s.resolutions [⟨.v6 ip, port⟩]
  | some (.domain host) =>
    match client.overrides host with
    | some addrs => net.reach s.resolutions addrs
    | none =>
      match net.lookupHost s.resolutions host port with
      | .error _ => []
      | .ok addrs => net.reach (s.resolutions + 1) addrs

theorem connectHost_spec (client : Client) (port : ℕ) (host : Option Host) :
    (after (client.connectHost net port host) s).opened =
        s.opened ++ dialled net client port s host ∧
      (after (client.connectHost net port host) s).approved = s.approved := by
  cases host with
  | none => exact ⟨(List.append_nil _).symm, rfl⟩
  | some host =>
    cases host with
    | ipv4 ip => exact ⟨rfl, rfl⟩
    | ipv6 ip => exact ⟨rfl, rfl⟩
    | domain name =>
      simp only [Client.connectHost, dialled]
      cases client.overrides name with
      | some addrs => exact ⟨rfl, rfl⟩
      | none =>
        cases hanswer : net.lookupHost s.resolutions name port with
        | error e =>
          rw [after_bind_of_error (by rw [lookupHost_eq, hanswer])]
          exact ⟨(List.append_nil _).symm, rfl⟩
        | ok addrs =>
          rw [after_bind_of_ok (by rw [lookupHost_eq, hanswer])]
          exact ⟨rfl, rfl⟩

/-- A request connects where its client does for the host, and reads the answer. -/
theorem send_spec (client : Client) (hurl : net.parseUrl raw = .ok url) :
    (after (client.send net raw) s).opened =
        s.opened ++ dialled net client (url.portOrKnownDefault.getD 443) s url.host ∧
      (after (client.send net raw) s).approved = s.approved := by
  have hquiet : ∀ (u : Unit) t, after (readResponse net raw) t = t := by
    intro _ t
    unfold after readResponse
    rw [get_bind]
    cases net.respond t.resolutions raw <;> rfl
  rw [Client.send, after_bind_of_ok (by rw [parseUrl_eq, hurl]), after_bind_quiet hquiet]
  exact connectHost_spec client _ _

end Connections

section Confinement

variable {net : Network} {n : ℕ} {raw : String}

def idle (n : ℕ) : Activity := ⟨n, [], []⟩

def Confined (act : Activity) : Prop :=
  ∀ addr ∈ act.opened, addr.ip ∈ act.approved ∧ ipIsDisallowed addr.ip = false

theorem Confined.of_opened_nil {act : Activity} (h : act.opened = []) : Confined act := by
  intro addr haddr
  rw [h] at haddr
  cases haddr

/-- The last address of an answer is the one a client is pinned to. -/
theorem pinnedClient_overrides {host : String} {port : ℕ} {addrs : List SocketAddr}
    (hne : addrs ≠ []) :
    ∃ addr ∈ addrs, (pinnedClient ⟨host, port, addrs⟩).overrides host = some [addr] := by
  obtain ⟨init, last, rfl⟩ := (List.eq_nil_or_concat _).resolve_left hne
  refine ⟨last, by simp, ?_⟩
  simp only [pinnedClient, List.concat_eq_append, List.foldl_append, List.foldl_cons,
    List.foldl_nil, Client.resolve]
  exact Function.update_self ..

theorem Approval.opened {s s' : Activity} {port : ℕ} {host : Option Host}
    {target : CheckedTarget} (h : Approval net port s host target s') : s'.opened = s.opened := by
  cases h <;> rfl

/-- A client that is bound to an approval connects to what was approved. -/
theorem Approval.confines {s s' : Activity} {port : ℕ} {host : Option Host}
    {target : CheckedTarget} {shared : Client} (h : Approval net port s host target s')
    (hnamed : ∀ name, host = some (.domain name) → net.isIpText name = false) :
    ∀ addr ∈ dialled net (boundClient net shared target) port s' host,
      addr.ip ∈ s'.approved ∧ ipIsDisallowed addr.ip = false := by
  cases h with
  | @literal host ip hip hallowed =>
    have hone : ∀ addr ∈ net.reach s.resolutions [⟨ip, port⟩],
        addr.ip ∈ s.approved ++ [ip] ∧ ipIsDisallowed addr.ip = false := by
      intro addr haddr
      have hsame := List.mem_singleton.mp (net.reach_subset _ _ haddr)
      rw [hsame]
      exact ⟨by simp, hallowed⟩
    cases host with
    | domain name => cases hip
    | ipv4 ip =>
      cases hip
      exact hone
    | ipv6 ip =>
      cases hip
      exact hone
  | @named name addrs hanswer hne hall =>
    have hpinned : boundClient net shared ⟨name, port, addrs⟩ =
        pinnedClient ⟨name, port, addrs⟩ := by
      rw [boundClient, CheckedTarget.isLiteral, hnamed name rfl, if_neg Bool.false_ne_true]
    obtain ⟨pin, hpin, hoverride⟩ : ∃ pin ∈ addrs,
        (pinnedClient ⟨name, port, addrs⟩).overrides name = some [pin] :=
      pinnedClient_overrides hne
    intro addr haddr
    simp only [hpinned, dialled, hoverride] at haddr
    rw [List.mem_singleton.mp (net.reach_subset _ _ haddr)]
    exact ⟨List.mem_append_right _ (List.mem_map_of_mem hpin), hall pin hpin⟩

theorem confined_of_bound {ε β : Type} {f : String → ε} {k : CheckedTarget → Outbound ε β}
    {shared : Client} (hsend : ∀ target s,
      after (k target) s = after ((boundClient net shared target).send net raw) s) :
    Confined (after (EStateM.adaptExcept f (resolvePublicTarget net raw) >>= k) (idle n)) := by
  cases hguard : EStateM.adaptExcept f (resolvePublicTarget net raw) (idle n) with
  | error e s' =>
    apply Confined.of_opened_nil
    have hopened : (after (resolvePublicTarget net raw) (idle n)).opened = [] :=
      resolvePublicTarget_opened raw
    rw [← after_adaptExcept f, after, hguard] at hopened
    rw [after_bind_of_error hguard]
    exact hopened
  | ok target s' =>
    obtain ⟨url, hurl, hscheme, happroval⟩ :=
      resolvePublicTarget_ok_iff.mp (adaptExcept_eq_ok_iff.mp hguard)
    have hopened : s'.opened = [] := happroval.opened
    obtain ⟨hsent, happroved⟩ :=
      send_spec (s := s') (boundClient net shared target) hurl
    rw [after_bind_of_ok hguard, hsend]
    intro addr haddr
    rw [hsent, hopened, List.nil_append] at haddr
    rw [happroved]
    exact happroval.confines (fun name => net.domain_text raw url name hurl hscheme) addr haddr

theorem guardedGet_confined (shared : Client) :
    Confined (after (guardedGet net shared raw) (idle n)) := by
  apply confined_of_bound
  intro target s
  rw [after_bind_quiet, after_adaptExcept]
  intro response t
  by_cases h : (!response.isSuccess) = true
  · rw [if_pos h]
    rfl
  · rw [if_neg h]
    rfl

theorem readCapped_quiet (response : Response) (maxBytes : ℕ) (s : Activity) :
    after (readCapped response maxBytes) s = s := by
  unfold readCapped
  by_cases h : maxBytes < response.body.length
  · rw [if_pos h]
    rfl
  · rw [if_neg h]
    rfl

theorem fetchJson_confined (shared : Client) (maxBytes : ℕ) :
    Confined (after (fetchJson net shared raw maxBytes) (idle n)) := by
  rw [fetchJson, after_bind_quiet]
  · exact guardedGet_confined shared
  · intro response s
    rw [after_bind_quiet, readCapped_quiet]
    intro bytes t
    cases net.parseJson bytes <;> rfl

theorem fetchText_confined (shared : Client) (maxBytes : ℕ) :
    Confined (after (fetchText net shared raw maxBytes) (idle n)) := by
  rw [fetchText, after_bind_quiet]
  · exact guardedGet_confined shared
  · intro response s
    rw [after_bind_quiet, readCapped_quiet]
    intro bytes t
    cases String.fromUTF8? ⟨bytes.toArray⟩ <;> rfl

theorem deliver_confined : Confined (after (deliver net raw false) (idle n)) := by
  simp only [deliver, clientForTarget, Bool.false_eq_true, if_false, pinnedClientFor, bind_assoc,
    pure_bind]
  apply confined_of_bound
  intro target s
  rw [after_adaptExcept]

theorem didDocument_confined (directory : HttpCredentialDirectory) (did : String) :
    Confined (after (directory.didDocument net did) (idle n)) := by
  unfold HttpCredentialDirectory.didDocument
  cases directory.localIssuer.filter (·.1 = did) with
  | some own =>
    obtain ⟨_, own⟩ := own
    apply Confined.of_opened_nil
    cases own <;> rfl
  | none =>
    cases directory.cached did with
    | some doc => exact Confined.of_opened_nil rfl
    | none =>
      cases didWebUrl did with
      | none => exact Confined.of_opened_nil rfl
      | some url =>
        change Confined (after (EStateM.adaptExcept _ _) _)
        rw [after_adaptExcept]
        exact fetchJson_confined _ _

/-- A name that answers with one address when the guard asks and with another when the client
does. -/
inductive Rebinds (net : Network) (n : ℕ) (raw : String) : Prop
  | mk {url : Url} {name : String} {first second : List SocketAddr} {addr : SocketAddr} :
      net.parseUrl raw = .ok url → url.scheme = "https" → url.host = some (.domain name) →
      net.lookupHost n name (url.portOrKnownDefault.getD 443) = .ok first → first ≠ [] →
      (∀ a ∈ first, ipIsDisallowed a.ip = false) →
      net.lookupHost (n + 1) name (url.portOrKnownDefault.getD 443) = .ok second →
      addr ∈ net.reach (n + 2) second → addr.ip ∉ first.map SocketAddr.ip → Rebinds net n raw

/-- After the guard's approval, a client that is pinned to nothing stays with what was approved
exactly when the name does not answer anew. -/
theorem approval_dialled_iff {url : Url} {target : CheckedTarget} {s' : Activity}
    (hurl : net.parseUrl raw = .ok url) (hscheme : url.scheme = "https")
    (happroval :
      Approval net (url.portOrKnownDefault.getD 443) (idle n) url.host target s') :
    (∀ addr ∈ dialled net guardedClient (url.portOrKnownDefault.getD 443) s' url.host,
      addr.ip ∈ s'.approved ∧ ipIsDisallowed addr.ip = false) ↔ ¬Rebinds net n raw := by
  have hconfines : ∀ addr ∈ dialled net (boundClient net guardedClient target)
      (url.portOrKnownDefault.getD 443) s' url.host,
      addr.ip ∈ s'.approved ∧ ipIsDisallowed addr.ip = false :=
    happroval.confines fun name => net.domain_text raw url name hurl hscheme
  generalize hhost : url.host = host at happroval hconfines
  cases happroval with
  | @literal host ip hip hallowed =>
    have hliteral : boundClient net guardedClient
        ⟨net.showIp ip, url.portOrKnownDefault.getD 443,
          [⟨ip, url.portOrKnownDefault.getD 443⟩]⟩ = guardedClient := by
      rw [boundClient, CheckedTarget.isLiteral, net.literal_text, if_pos rfl]
    rw [hliteral] at hconfines
    refine iff_of_true hconfines ?_
    rintro ⟨hurl', -, hhost', -⟩
    cases hurl.symm.trans hurl'
    rw [hhost] at hhost'
    cases hhost'
    cases hip
  | @named name first hfirst hne hall =>
    constructor
    · intro hconfined hrebinds
      cases hrebinds with
      | @mk url' name' first' second addr hurl' _ hhost' hfirst' _ _ hsecond hmem hfresh =>
        cases hurl.symm.trans hurl'
        cases hhost.symm.trans hhost'
        cases hfirst.symm.trans hfirst'
        have hdialled : addr ∈ dialled net guardedClient (url.portOrKnownDefault.getD 443)
            { idle n with
              resolutions := (idle n).resolutions + 1
              approved := (idle n).approved ++ first.map SocketAddr.ip } (some (.domain name)) := by
          simp only [dialled, guardedClient, idle, hsecond]
          exact hmem
        exact hfresh (hconfined addr hdialled).1
    · intro hstays addr haddr
      simp only [dialled, guardedClient, idle] at haddr
      cases hsecond : net.lookupHost (n + 1) name (url.portOrKnownDefault.getD 443) with
      | error e =>
        rw [hsecond] at haddr
        cases haddr
      | ok second =>
        rw [hsecond] at haddr
        have happroved : addr.ip ∈ first.map SocketAddr.ip := by
          by_contra hfresh
          exact hstays ⟨hurl, hscheme, hhost, hfirst, hne, hall, hsecond, haddr, hfresh⟩
        obtain ⟨checked, hchecked, hsame⟩ := List.mem_map.mp happroved
        exact ⟨happroved, hsame ▸ hall checked hchecked⟩

theorem orNone_quiet {α : Type} (a : Option α) (s : Activity) : after (orNone a) s = s := by
  cases a <;> rfl

theorem fetchStatusListFor_after {StatusList : Type} (decode : String → Option StatusList)
    (http : Client) (s : Activity) :
    after (fetchStatusListFor net decode http (some raw)) s = after (http.send net raw) s := by
  change after (EStateM.adaptExcept _ (http.send net raw) >>= _) s = _
  rw [after_bind_quiet, after_adaptExcept]
  intro response t
  by_cases h : (!response.isSuccess) = true
  · rw [if_pos h]
    rfl
  · rw [if_neg h]
    change after (orNone _ >>= fun body => orNone (encodedListOf body) >>= fun encoded =>
      orNone (decode encoded)) t = t
    rw [after_bind_quiet, orNone_quiet]
    intro body t
    rw [after_bind_quiet, orNone_quiet]
    exact fun encoded t => orNone_quiet _ t

/-- The verdict on a status list's address is about the first of two resolutions. -/
theorem statusList_confined_iff {StatusList : Type} (decode : String → Option StatusList) :
    Confined (after (statusList net decode (some raw)) (idle n)) ↔ ¬Rebinds net n raw := by
  have hrefused : ∀ {e s'}, resolvePublicTarget net raw (idle n) = .error e s' →
      ¬Rebinds net n raw := by
    intro e s' herror h
    cases h with
    | @mk url name first second addr hurl hscheme hhost hfirst hne hall _ _ _ =>
      have hok := resolvePublicTarget_ok_iff.mpr
        ⟨url, hurl, hscheme, hhost ▸ Approval.named (s := idle n) hfirst hne hall⟩
      cases herror.symm.trans hok
  simp only [statusList]
  cases hguard : resolvePublicTarget net raw (idle n) with
  | error e s' =>
    have hassert : EStateM.adaptExcept (fun _ => ()) (assertPublicTarget net raw) (idle n) =
        .error () s' := by
      simp only [EStateM.adaptExcept, assertPublicTarget, bind, EStateM.bind, hguard]
    rw [after_bind_of_error hassert]
    have hopened : (after (resolvePublicTarget net raw) (idle n)).opened = [] :=
      resolvePublicTarget_opened raw
    rw [after, hguard] at hopened
    exact iff_of_true (Confined.of_opened_nil hopened) (hrefused hguard)
  | ok target s' =>
    have hassert : EStateM.adaptExcept (fun _ => ()) (assertPublicTarget net raw) (idle n) =
        .ok () s' := by
      simp only [EStateM.adaptExcept, assertPublicTarget, bind, EStateM.bind, hguard, pure,
        EStateM.pure]
    obtain ⟨url, hurl, hscheme, happroval⟩ := resolvePublicTarget_ok_iff.mp hguard
    obtain ⟨hsent, happroved⟩ := send_spec (s := s') guardedClient hurl
    rw [happroval.opened, idle, List.nil_append] at hsent
    rw [after_bind_of_ok hassert, fetchStatusListFor_after, Confined, hsent, happroved]
    exact approval_dialled_iff hurl hscheme happroval

end Confinement

section Requests

/-- What the node fetches or delivers without having chosen the target. -/
inductive Request where
  | webhook (url : String) (allowPrivate : Bool)
  | issuerDid (did : String)
  | statusList (url : Option String)
  | json (url : String) (maxBytes : ℕ)
  | text (url : String) (maxBytes : ℕ)
  deriving DecidableEq, Repr

variable (net : Network) (directory : HttpCredentialDirectory) {StatusList : Type}
  (decode : String → Option StatusList)

def Request.perform : Request → Activity → Activity
  | .webhook url allowPrivate => after (deliver net url allowPrivate)
  | .issuerDid did => after (directory.didDocument net did)
  | .statusList url => after (OutboundTargets.statusList net decode url)
  | .json url maxBytes => after (fetchJson net guardedClient url maxBytes)
  | .text url maxBytes => after (fetchText net guardedClient url maxBytes)

def Request.allowsPrivate : Request → Bool
  | .webhook _ allowPrivate => allowPrivate
  | _ => false

def Request.Rebinds (n : ℕ) : Request → Prop
  | .statusList (some url) => OutboundTargets.Rebinds net n url
  | _ => False

variable {net directory decode}

/-- What the guard promises of a request, unless private targets are allowed for it. -/
def Request.Guarded (net : Network) (directory : HttpCredentialDirectory)
    (decode : String → Option StatusList) (n : ℕ) (r : Request) : Prop :=
  r.allowsPrivate = false → Confined (r.perform net directory decode (idle n))

theorem Request.guarded_iff {r : Request} {n : ℕ} :
    r.Guarded net directory decode n ↔ ¬r.Rebinds net n := by
  cases r with
  | webhook url allowPrivate =>
    refine iff_of_true (fun hprivate => ?_) id
    cases hprivate
    exact deliver_confined
  | issuerDid did => exact iff_of_true (fun _ => didDocument_confined directory did) id
  | json url maxBytes => exact iff_of_true (fun _ => fetchJson_confined _ maxBytes) id
  | text url maxBytes => exact iff_of_true (fun _ => fetchText_confined _ maxBytes) id
  | statusList url =>
    cases url with
    | none => exact iff_of_true (fun _ => Confined.of_opened_nil rfl) id
    | some url => exact (forall_prop_of_true rfl).trans (statusList_confined_iff decode)

end Requests

section EmbeddedAddresses

variable {ip : Ipv6Addr} {v4 : Ipv4Addr} {high low : UInt16}

/-- No disallowed IPv4 address hides in an allowed IPv6 one. -/
def Ipv6Addr.Judged (ip : Ipv6Addr) : Prop :=
  ∀ form v4, ip.embedded form = some v4 → ipIsDisallowed (.v4 v4) = true →
    ipIsDisallowed (.v6 ip) = true

theorem toNat_ofNat_of_lt {n : ℕ} (h : n < 256) : (UInt8.ofNat n).toNat = n := by
  rw [UInt8.toNat_ofNat']
  omega

theorem mapped_disallowed : ipIsDisallowed (.v6 ⟨0, 0, 0, 0, 0, 0xFFFF, high, low⟩) =
    ipIsDisallowed (.v4 (.ofSegments high low)) := by
  have hhigh := high.toNat_lt
  have hlow := low.toNat_lt
  simp only [ipIsDisallowed, IpAddr.literal, Ipv4Addr.ofSegments]
  rw [toNat_ofNat_of_lt (by omega), toNat_ofNat_of_lt (by omega), toNat_ofNat_of_lt (by omega),
    toNat_ofNat_of_lt (by omega)]
  rfl

/-- An address that starts with no refused prefix and maps none is refused only for what it is. -/
theorem disallowed_cases (hfirst : ip.s₀ = 0 ∨ ip.s₀ = 0x64 ∨ ip.s₀ = 0x2002)
    (hunmapped : ip.s₀ = 0 → ip.s₅ = 0) (h : ipIsDisallowed (.v6 ip) = true) :
    ip = .unspecified ∨ ip = ⟨0, 0, 0, 0, 0, 0, 0, 1⟩ := by
  obtain ⟨s₀, s₁, s₂, s₃, s₄, s₅, s₆, s₇⟩ := ip
  simp only [ipIsDisallowed, IpAddr.literal, CreateRequests.ipIsDisallowed] at h
  split at h
  next hsegments =>
    simp only [List.cons.injEq, ← UInt16.toNat_zero, UInt16.toNat_inj] at hsegments
    obtain ⟨rfl, rfl, rfl, rfl, rfl, rfl, rfl, rfl, -⟩ := hsegments
    exact .inl rfl
  next hsegments =>
    simp only [List.cons.injEq, ← UInt16.toNat_zero, ← UInt16.toNat_one,
      UInt16.toNat_inj] at hsegments
    obtain ⟨rfl, rfl, rfl, rfl, rfl, rfl, rfl, rfl, -⟩ := hsegments
    exact .inr rfl
  next hsegments =>
    simp only [List.cons.injEq, ← UInt16.toNat_zero, UInt16.toNat_inj] at hsegments
    have hzero := hunmapped hsegments.1
    simp only at hzero
    rw [hzero] at hsegments
    exact absurd hsegments.2.2.2.2.2.1 (by decide)
  next first rest _ _ _ hsegments =>
    -- None of the three first segments is multicast, unique local or link local.
    simp only [List.cons.injEq] at hsegments
    rw [← hsegments.1] at h
    rcases hfirst with hfirst | hfirst | hfirst
    all_goals
      simp only at hfirst
      rw [hfirst] at h
      exact absurd h (by decide)
  next hsegments => cases hsegments

theorem embedded_cases {form : Embedding} (hform : form ≠ .mapped)
    (h : ip.embedded form = some v4) (hip : ipIsDisallowed (.v6 ip) = true) :
    ip = .unspecified ∨ v4 = ⟨0, 0, 0, 1⟩ := by
  cases form with
  | mapped => exact absurd rfl hform
  | compatible =>
    obtain ⟨hsame, ⟨⟩⟩ := Option.ite_none_right_eq_some.mp h
    rcases disallowed_cases (.inl (congrArg Ipv6Addr.s₀ hsame))
      (fun _ => congrArg Ipv6Addr.s₅ hsame) hip with rfl | rfl
    · exact .inl rfl
    · exact .inr (by decide)
  | nat64 =>
    obtain ⟨hsame, -⟩ := Option.ite_none_right_eq_some.mp h
    have hfirst : ip.s₀ = 0x64 := congrArg Ipv6Addr.s₀ hsame
    rcases disallowed_cases (.inr (.inl hfirst))
      (fun hzero => absurd (hzero.symm.trans hfirst) (by decide)) hip with rfl | rfl
    · exact .inl rfl
    · exact absurd hfirst (by decide)
  | sixToFour =>
    obtain ⟨hfirst, -⟩ := Option.ite_none_right_eq_some.mp h
    rcases disallowed_cases (.inr (.inr hfirst))
      (fun hzero => absurd (hzero.symm.trans hfirst) (by decide)) hip with rfl | rfl
    · exact .inl rfl
    · exact absurd hfirst (by decide)

theorem Ipv6Addr.judged_iff : ip.Judged ↔
    ∀ form v4, form ≠ .mapped → ip.embedded form = some v4 → ipIsDisallowed (.v4 v4) = true →
      ip = .unspecified := by
  constructor
  · intro h form v4 hform hembedded hv4
    refine (embedded_cases hform hembedded (h form v4 hembedded hv4)).resolve_right ?_
    rintro rfl
    exact absurd hv4 (by decide)
  · intro h form v4 hembedded hv4
    by_cases hform : form = .mapped
    · rw [hform] at hembedded
      obtain ⟨hsame, ⟨⟩⟩ := Option.ite_none_right_eq_some.mp hembedded
      rw [hsame, mapped_disallowed]
      exact hv4
    · rw [h form v4 hform hembedded hv4]
      decide

end EmbeddedAddresses

/-- A request stays with the addresses the guard approved for it unless a status list's host
answers anew, and an embedded address is judged where it is mapped. -/
theorem guard_holds_iff (net : Network) (directory : HttpCredentialDirectory)
    {StatusList : Type} (decode : String → Option StatusList) :
    (∀ n (r : Request), r.Guarded net directory decode n ↔ ¬r.Rebinds net n) ∧
      ∀ ip : Ipv6Addr, ip.Judged ↔ ∀ form v4, form ≠ .mapped → ip.embedded form = some v4 →
        ipIsDisallowed (.v4 v4) = true → ip = .unspecified :=
  ⟨fun _ _ => Request.guarded_iff, fun _ => Ipv6Addr.judged_iff⟩

section Samples

def publicAddr : SocketAddr := ⟨.v4 ⟨93, 184, 216, 34⟩, 443⟩

def metadataAddr : SocketAddr := ⟨.v4 ⟨169, 254, 169, 254⟩, 443⟩

def separated (separator : Char) (first : ℕ) (rest : List ℕ) : List Char :=
  Nat.toDigits 10 first ++ rest.flatMap fun part => separator :: Nat.toDigits 10 part

def sampleText : IpAddr → String
  | .v4 ⟨a, b, c, d⟩ => .ofList (separated '.' a.toNat [b.toNat, c.toNat, d.toNat])
  | .v6 ip => .ofList (separated ':' ip.s₀.toNat
      ([ip.s₁, ip.s₂, ip.s₃, ip.s₄, ip.s₅, ip.s₆, ip.s₇].map UInt16.toNat))

def isAddressChar (c : Char) : Bool := c.isDigit || c = '.' || c = ':'

theorem separated_chars {separator : Char} (h : isAddressChar separator = true) (first : ℕ)
    (rest : List ℕ) : (separated separator first rest).all isAddressChar = true := by
  have hdigit : ∀ {n c}, c ∈ Nat.toDigits 10 n → isAddressChar c = true := by
    intro n c hc
    simp [isAddressChar, Nat.isDigit_of_mem_toDigits (by decide) (by decide) hc]
  rw [List.all_eq_true]
  intro c hc
  rcases List.mem_append.mp hc with hc | hc
  · exact hdigit hc
  · obtain ⟨part, -, hc⟩ := List.mem_flatMap.mp hc
    rcases List.mem_cons.mp hc with rfl | hc
    · exact h
    · exact hdigit hc

def alternatingNetwork : Network where
  parseUrl _ := .ok ⟨"https", some (.domain "status.example"), some 443⟩
  showIp := sampleText
  isIpText text := text.toList.all isAddressChar
  lookupHost n _ _ := .ok [if n % 2 = 0 then publicAddr else metadataAddr]
  reach _ offered := offered
  respond _ _ := .error "connection reset"
  parseJson _ := .error "unexpected end of input"
  literal_text ip := by
    cases ip <;> simp only [sampleText, String.toList_ofList]
    · exact separated_chars (by decide) _ _
    · exact separated_chars (by decide) _ _
  domain_text := by
    rintro _ _ _ ⟨⟩ _ ⟨⟩
    decide
  reach_subset _ _ := List.Subset.refl _

def plainDirectory : HttpCredentialDirectory := ⟨none, fun _ => none⟩

/-- The name answers the guard with a public address and the client with the metadata service's,
which as a NAT64 address is no address to refuse. -/
theorem rebound_status_list_is_fetched :
    ¬Request.Guarded alternatingNetwork plainDirectory (fun _ => (none : Option Unit)) 0
        (.statusList (some "https://status.example/list")) ∧
      ¬(⟨0x64, 0xFF9B, 0, 0, 0, 0, 0xA9FE, 0xA9FE⟩ : Ipv6Addr).Judged := by
  constructor
  · intro h
    exact absurd (h rfl metadataAddr (by decide)).2 (by decide)
  · intro h
    exact absurd (h .nat64 ⟨169, 254, 169, 254⟩ (by decide) (by decide)) (by decide)

end Samples

end OutboundTargets
