import DppEngine.TransitionSystems
import Mathlib.Logic.Function.Basic

/-! Operators' signing keys, rotated while requests sign with them.

The key store locks each of its calls and nothing across two of them. A signing request reads it
four times: whether the operator has a key, the key's name, the key that signs, and the name
again. A rotation archives the current key and then generates the next one. Requests interleave
call by call; a restart forgets the requests and keeps the store. No two keys drawn are alike. -/
namespace RotatedKeys

open TransitionSystems

section Store

/-- What the callers rely on. Generating overwrites the current key; archiving keeps it beside. -/
structure KeyStore (σ Key : Type) where
  publicKey : σ → String → Option Key
  archived : σ → String → List Key
  generateKey : σ → String → Key → σ
  archiveKey : σ → String → Option σ
  publicKey_generateKey : ∀ s op key op',
    publicKey (generateKey s op key) op' = if op' = op then some key else publicKey s op'
  archived_generateKey : ∀ s op key, archived (generateKey s op key) = archived s
  publicKey_archiveKey : ∀ s op t, archiveKey s op = some t → publicKey t = publicKey s
  archived_archiveKey : ∀ s op t, archiveKey s op = some t → ∀ op' key,
    key ∈ archived t op' ↔ key ∈ archived s op' ∨ op' = op ∧ publicKey s op = some key

structure Naming (Key : Type) where
  did : String
  thumbprintUri : Key → Except String String
  injective : ∀ key key' uri,
    thumbprintUri key = .ok uri → thumbprintUri key' = .ok uri → key = key'

def Naming.methodUrl {Key : Type} (naming : Naming Key) (key : Key) : Except String String :=
  (naming.thumbprintUri key).map fun uri => naming.did ++ "#" ++ uri

theorem Naming.methodUrl_inj {Key : Type} {naming : Naming Key} {key key' : Key} {kid : String}
    (h : naming.methodUrl key = .ok kid) (h' : naming.methodUrl key' = .ok kid) : key = key' := by
  unfold Naming.methodUrl at h h'
  cases huri : naming.thumbprintUri key with
  | error e => rw [huri] at h; cases h
  | ok uri =>
    cases huri' : naming.thumbprintUri key' with
    | error e => rw [huri'] at h'; cases h'
    | ok uri' =>
      rw [huri] at h
      rw [huri'] at h'
      have hkid := Except.ok.inj (h.trans h'.symm)
      obtain rfl := String.append_right_inj _ |>.mp hkid
      exact naming.injective key key' uri huri huri'

end Store

section Requests

def isValidOperatorId (id : String) : Bool :=
  1 ≤ id.utf8ByteSize && id.utf8ByteSize ≤ 64 &&
    id.toList.all fun c => c.isAlphanum || c == '.' || c == '_' || c == ':' || c == '-'

structure InternalSignRequest where
  operatorId : String
  passportId : String
  payload : String
  deriving DecidableEq, Repr

/-- A compact JWS: the name it gives its key, the key that made it, and what it is over. -/
structure Token (Key P : Type) where
  operatorId : String
  kid : String
  signer : Key
  payload : P
  deriving DecidableEq, Repr

inductive Answer (Key P : Type) where
  | signed (token : Token Key P)
  | rotated (operatorId newKeyId : String) (newKey : Key)
  | unprocessable (detail : String)
  | badRequest (detail : String)
  | internalError (detail : String)
  deriving DecidableEq, Repr

inductive Phase (Key P : Type) where
  | provisioning (operatorId : String) (payload : P)
  | naming (operatorId : String) (payload : P)
  | signing (operatorId : String) (payload : P) (kid : String)
  | confirming (token : Token Key P)
  | generating (operatorId : String)
  | documenting (operatorId : String) (newKey : Key)
  deriving DecidableEq, Repr

structure Service (σ Key P : Type) where
  store : σ
  /-- Every key that was ever drawn. -/
  drawn : List Key
  requests : ℕ → Option (Phase Key P)
  answers : List (Answer Key P)

/-- A call that may fail says whether it did, with the library's text; a generated key is drawn. -/
inductive Event (Key : Type) where
  | sign (i : ℕ) (body : InternalSignRequest)
  | provision (i : ℕ) (key : Option Key)
  | name (i : ℕ)
  | make (i : ℕ) (fails : Bool) (text : String)
  | confirm (i : ℕ)
  | rotate (i : ℕ) (operatorId : String) (fails : Bool)
  | generate (i : ℕ) (key : Except String Key)
  | document (i : ℕ) (text : String)
  | restart

inductive Decoded (P : Type) where
  | notBase64
  | notJson
  | value (payload : P)
  deriving DecidableEq, Repr

variable {σ Key P : Type} [DecidableEq Key]

structure Environment (σ Key P : Type) where
  keyStore : KeyStore σ Key
  naming : Naming Key
  decode : String → Decoded P

variable (env : Environment σ Key P)

namespace Service

def answer (s : Service σ Key P) (i : ℕ) (a : Answer Key P) : Service σ Key P :=
  { s with requests := Function.update s.requests i none, answers := a :: s.answers }

def goOn (s : Service σ Key P) (i : ℕ) (phase : Phase Key P) : Service σ Key P :=
  { s with requests := Function.update s.requests i (some phase) }

def generateKey (s : Service σ Key P) (operatorId : String) (key : Key) : Service σ Key P :=
  { s with store := env.keyStore.generateKey s.store operatorId key, drawn := key :: s.drawn }

def publicKey (s : Service σ Key P) : String → Option Key := env.keyStore.publicKey s.store

def archived (s : Service σ Key P) : String → List Key := env.keyStore.archived s.store

def verificationMethodUrl (s : Service σ Key P) (operatorId : String) : Except String String :=
  match s.publicKey env operatorId with
  | none => .error ("no key found for " ++ operatorId)
  | some key => env.naming.methodUrl key

end Service

def operatorIdRefusal : String := "operator_id must be 1-64 characters of [A-Za-z0-9._:-]"

def beginSign (s : Service σ Key P) (i : ℕ) (body : InternalSignRequest) : Service σ Key P :=
  if !isValidOperatorId body.operatorId then s.answer i (.unprocessable operatorIdRefusal)
  else if body.passportId.isEmpty || body.payload.isEmpty then
    s.answer i (.unprocessable "passport_id and payload are required")
  else match env.decode body.payload with
    | .notBase64 => s.answer i (.badRequest "payload must be valid base64")
    | .notJson => s.answer i (.badRequest "decoded payload is not valid JSON")
    | .value payload =>
      if (s.publicKey env body.operatorId).isSome then s.goOn i (.naming body.operatorId payload)
      else s.goOn i (.provisioning body.operatorId payload)

def beginRotate (s : Service σ Key P) (i : ℕ) (operatorId : String) (fails : Bool) :
    Service σ Key P :=
  if !isValidOperatorId operatorId then s.answer i (.unprocessable operatorIdRefusal)
  else match (if fails then none else env.keyStore.archiveKey s.store operatorId) with
    | none => s.answer i (.internalError
        "could not archive the current signing key; rotation aborted to avoid losing it")
    | some store => { s with store := store }.goOn i (.generating operatorId)

def next (s : Service σ Key P) : Event Key → Option (Service σ Key P)
  | .sign i body => if s.requests i = none then some (beginSign env s i body) else none
  | .rotate i operatorId fails =>
    if s.requests i = none then some (beginRotate env s i operatorId fails) else none
  | .provision i drawn =>
    match s.requests i, drawn with
    | some (.provisioning _ _), none =>
      some (s.answer i (.internalError "failed to provision signing key"))
    | some (.provisioning operatorId payload), some key =>
      if key ∈ s.drawn then none
      else some ((s.generateKey env operatorId key).goOn i (.naming operatorId payload))
    | _, _ => none
  | .name i =>
    match s.requests i with
    | some (.naming operatorId payload) =>
      match s.verificationMethodUrl env operatorId with
      | .error text => some (s.answer i (.internalError text))
      | .ok kid => some (s.goOn i (.signing operatorId payload kid))
    | _ => none
  | .make i fails text =>
    match s.requests i with
    | some (.signing operatorId payload kid) =>
      match (if fails then none else s.publicKey env operatorId) with
      | none => some (s.answer i (.internalError text))
      | some key => some (s.goOn i (.confirming ⟨operatorId, kid, key, payload⟩))
    | _ => none
  | .confirm i =>
    match s.requests i with
    | some (.confirming token) =>
      match s.verificationMethodUrl env token.operatorId with
      | .error text => some (s.answer i (.internalError text))
      | .ok kid =>
        if kid = token.kid then some (s.answer i (.signed token))
        else some (s.answer i
          (.internalError "the signing key was rotated while signing; retry"))
    | _ => none
  | .generate i drawn =>
    match s.requests i, drawn with
    | some (.generating _), .error text => some (s.answer i (.internalError text))
    | some (.generating operatorId), .ok key =>
      if key ∈ s.drawn then none
      else some ((s.generateKey env operatorId key).goOn i (.documenting operatorId key))
    | _, _ => none
  | .document i text =>
    match s.requests i with
    | some (.documenting operatorId newKey) =>
      match s.verificationMethodUrl env operatorId with
      | .error _ => some (s.answer i (.internalError text))
      | .ok newKeyId => some (s.answer i (.rotated operatorId newKeyId newKey))
    | _ => none
  | .restart => some { s with requests := fun _ => none }

inductive Generates (s : Service σ Key P) (operatorId : String) (key : Key) : Event Key → Prop
  | provision {i : ℕ} {payload : P} (h : s.requests i = some (.provisioning operatorId payload)) :
    Generates s operatorId key (.provision i (some key))
  | rotate {i : ℕ} (h : s.requests i = some (.generating operatorId)) :
    Generates s operatorId key (.generate i (.ok key))

inductive Moved (s : Service σ Key P) (e : Event Key) : Service σ Key P → Prop
  | answered (i : ℕ) (a : Answer Key P)
    (h : ∀ token, a = .signed token → s.requests i = some (.confirming token) ∧
      s.verificationMethodUrl env token.operatorId = .ok token.kid) : Moved s e (s.answer i a)
  | provisions (i : ℕ) (operatorId : String) (payload : P)
    (h : s.publicKey env operatorId = none) (he : ∃ body, e = .sign i body ∧
      body.operatorId = operatorId) :
    Moved s e (s.goOn i (.provisioning operatorId payload))
  | names (i : ℕ) (operatorId : String) (payload : P) :
    Moved s e (s.goOn i (.naming operatorId payload))
  | signs (i : ℕ) (operatorId : String) (payload : P) (kid : String)
    (h : s.verificationMethodUrl env operatorId = .ok kid) :
    Moved s e (s.goOn i (.signing operatorId payload kid))
  | confirms (i : ℕ) (token : Token Key P)
    (hphase : s.requests i = some (.signing token.operatorId token.payload token.kid))
    (hsigner : s.publicKey env token.operatorId = some token.signer) :
    Moved s e (s.goOn i (.confirming token))
  | archives (i : ℕ) (operatorId : String) (store : σ)
    (he : ∃ fails, e = .rotate i operatorId fails)
    (h : env.keyStore.archiveKey s.store operatorId = some store) :
    Moved s e (({ s with store := store } : Service σ Key P).goOn i (.generating operatorId))
  | generates (i : ℕ) (operatorId : String) (key : Key) (phase : Phase Key P)
    (h : Generates s operatorId key e) (hfresh : key ∉ s.drawn)
    (hphase : s.requests i = some (.generating operatorId) ∧ phase = .documenting operatorId key ∨
      ∃ payload, s.requests i = some (.provisioning operatorId payload) ∧
        phase = .naming operatorId payload) :
    Moved s e ((s.generateKey env operatorId key).goOn i phase)
  | restarts : Moved s e { s with requests := fun _ => none }

variable {env} {s u : Service σ Key P} {e : Event Key}

theorem moved_of_next (h : next env s e = some u) : Moved env s e u := by
  cases e with
  | sign i body =>
    simp only [next] at h
    split at h
    · cases h
      unfold beginSign
      split
      · exact .answered i _ (by rintro token ⟨⟩)
      · split
        · exact .answered i _ (by rintro token ⟨⟩)
        · split
          · exact .answered i _ (by rintro token ⟨⟩)
          · exact .answered i _ (by rintro token ⟨⟩)
          · split_ifs with hkey
            · exact .names i _ _
            · exact .provisions i _ _ (by simpa using hkey) ⟨body, rfl, rfl⟩
    · cases h
  | rotate i operatorId fails =>
    simp only [next] at h
    split at h
    · cases h
      unfold beginRotate
      split
      · exact .answered i _ (by rintro token ⟨⟩)
      · cases fails with
        | true => exact .answered i _ (by rintro token ⟨⟩)
        | false =>
          rw [if_neg Bool.false_ne_true]
          split
          · exact .answered i _ (by rintro token ⟨⟩)
          · rename_i store hstore
            exact .archives i operatorId store ⟨false, rfl⟩ hstore
    · cases h
  | provision i drawn =>
    simp only [next] at h
    split at h
    · cases h
      exact .answered i _ (by rintro token ⟨⟩)
    · rename_i operatorId payload key hphase
      split_ifs at h with hdrawn
      cases h
      exact .generates i operatorId key _ (.provision hphase) hdrawn (.inr ⟨payload, hphase, rfl⟩)
    · cases h
  | name i =>
    simp only [next] at h
    split at h
    · rename_i operatorId payload hphase
      split at h
      · cases h
        exact .answered i _ (by rintro token ⟨⟩)
      · rename_i kid hkid
        cases h
        exact .signs i operatorId payload kid hkid
    · cases h
  | make i fails text =>
    simp only [next] at h
    split at h
    · rename_i operatorId payload kid hphase
      split at h
      · cases h
        exact .answered i _ (by rintro token ⟨⟩)
      · rename_i key hkey
        cases h
        split_ifs at hkey
        exact .confirms i ⟨operatorId, kid, key, payload⟩ hphase hkey
    · cases h
  | confirm i =>
    simp only [next] at h
    split at h
    · rename_i token hphase
      split at h
      · cases h
        exact .answered i _ (by rintro token ⟨⟩)
      · rename_i kid hkid
        split_ifs at h with heq
        · cases h
          refine .answered i _ ?_
          rintro token' ⟨⟩
          exact ⟨hphase, hkid.trans (congrArg _ heq)⟩
        · cases h
          exact .answered i _ (by rintro token ⟨⟩)
    · cases h
  | generate i drawn =>
    simp only [next] at h
    split at h
    · cases h
      exact .answered i _ (by rintro token ⟨⟩)
    · rename_i operatorId key hphase
      split_ifs at h with hdrawn
      cases h
      exact .generates i operatorId key _ (.rotate hphase) hdrawn (.inl ⟨hphase, rfl⟩)
    · cases h
  | document i text =>
    simp only [next] at h
    split at h
    · split at h
      · cases h
        exact .answered i _ (by rintro token ⟨⟩)
      · cases h
        exact .answered i _ (by rintro token ⟨⟩)
    · cases h
  | restart =>
    cases h
    exact .restarts

end Requests

section Safety

variable {σ Key P : Type} {env : Environment σ Key P} {s u : Service σ Key P} {e : Event Key}
  {i j : ℕ} {operatorId kid : String} {phase phase' : Phase Key P} {a : Answer Key P}
  {token : Token Key P} {events : List (Event Key)}

def Service.issued (s : Service σ Key P) : List (Token Key P) :=
  s.answers.filterMap fun a => match a with
    | .signed token => some token
    | _ => none

theorem mem_issued : token ∈ s.issued ↔ .signed token ∈ s.answers := by
  simp only [Service.issued, List.mem_filterMap]
  constructor
  · rintro ⟨a, ha, htoken⟩
    cases a <;> cases htoken
    exact ha
  · intro h
    exact ⟨_, h, rfl⟩

structure Started (env : Environment σ Key P) (s : Service σ Key P) : Prop where
  requests : s.requests = fun _ => none
  answers : s.answers = []
  drawn : ∀ op key, s.publicKey env op = some key → key ∈ s.drawn

/-- A name that a request has read is a drawn key's, and a key that signs under another key's name
does so when the named one is no longer current. -/
structure Named (env : Environment σ Key P) (s : Service σ Key P) : Prop where
  drawn : ∀ op key, s.publicKey env op = some key → key ∈ s.drawn
  signing : ∀ i op payload kid, s.requests i = some (.signing op payload kid) →
    ∃ key ∈ s.drawn, env.naming.methodUrl key = .ok kid
  confirming : ∀ i token, s.requests i = some (.confirming token) →
    ∃ key ∈ s.drawn, env.naming.methodUrl key = .ok token.kid ∧
      (token.signer = key ∨ s.publicKey env token.operatorId ≠ some key)
  issued : ∀ token ∈ s.issued, env.naming.methodUrl token.signer = .ok token.kid

theorem goOn_eq_some (h : (s.goOn i phase).requests j = some phase') :
    j = i ∧ phase' = phase ∨ s.requests j = some phase' := by
  by_cases hj : j = i
  · subst hj
    simp only [Service.goOn, Function.update_self] at h
    exact .inl ⟨rfl, (Option.some.inj h).symm⟩
  · simp only [Service.goOn, Function.update_of_ne hj] at h
    exact .inr h

theorem answer_eq_some (h : (s.answer i a).requests j = some phase) :
    s.requests j = some phase := by
  by_cases hj : j = i
  · subst hj
    simp only [Service.answer, Function.update_self] at h
    cases h
  · simpa only [Service.answer, Function.update_of_ne hj] using h

theorem url_eq_ok (h : s.verificationMethodUrl env operatorId = .ok kid) :
    ∃ key, s.publicKey env operatorId = some key ∧ env.naming.methodUrl key = .ok kid := by
  unfold Service.verificationMethodUrl at h
  cases hkey : s.publicKey env operatorId with
  | none => rw [hkey] at h; cases h
  | some key =>
    rw [hkey] at h
    exact ⟨key, rfl, h⟩

theorem named_started (h : Started env s) : Named env s where
  drawn := h.drawn
  signing := by simp [h.requests]
  confirming := by simp [h.requests]
  issued := by simp [Service.issued, h.answers]

/-- The name that is read again is the signer's: the named key is current, so it has always been. -/
theorem signer_of_confirming (h : Named env s) (hphase : s.requests i = some (.confirming token))
    (hurl : s.verificationMethodUrl env token.operatorId = .ok token.kid) :
    s.publicKey env token.operatorId = some token.signer ∧
      env.naming.methodUrl token.signer = .ok token.kid := by
  obtain ⟨key, -, hkey, hsigner⟩ := h.confirming i token hphase
  obtain ⟨current, hcurrent, hcurrentUrl⟩ := url_eq_ok hurl
  obtain rfl := Naming.methodUrl_inj hcurrentUrl hkey
  rcases hsigner with rfl | hne
  · exact ⟨hcurrent, hkey⟩
  · exact absurd hcurrent hne

theorem named_answer (h : Named env s) (ha : ∀ token, a = .signed token →
    s.requests i = some (.confirming token) ∧
      s.verificationMethodUrl env token.operatorId = .ok token.kid) : Named env (s.answer i a) where
  drawn := h.drawn
  signing j op payload kid hj := h.signing j op payload kid (answer_eq_some hj)
  confirming j token hj := h.confirming j token (answer_eq_some hj)
  issued token htoken := by
    rcases List.mem_cons.mp (mem_issued.mp htoken) with hsigned | hold
    · obtain ⟨hphase, hurl⟩ := ha token hsigned.symm
      exact (signer_of_confirming h hphase hurl).2
    · exact h.issued token (mem_issued.mpr hold)

theorem named_goOn (h : Named env s)
    (hsigning : ∀ op payload kid, phase = .signing op payload kid →
      ∃ key ∈ s.drawn, env.naming.methodUrl key = .ok kid)
    (hconfirming : ∀ token, phase = .confirming token →
      ∃ key ∈ s.drawn, env.naming.methodUrl key = .ok token.kid ∧
        (token.signer = key ∨ s.publicKey env token.operatorId ≠ some key)) :
    Named env (s.goOn i phase) where
  drawn := h.drawn
  signing j op payload kid hj := by
    rcases goOn_eq_some hj with ⟨-, hphase⟩ | hj
    · exact hsigning op payload kid hphase.symm
    · exact h.signing j op payload kid hj
  confirming j token hj := by
    rcases goOn_eq_some hj with ⟨-, hphase⟩ | hj
    · exact hconfirming token hphase.symm
    · exact h.confirming j token hj
  issued := h.issued

theorem named_archived {store : σ} (h : Named env s)
    (hstore : env.keyStore.archiveKey s.store operatorId = some store) :
    Named env { s with store := store } := by
  have hkeys : env.keyStore.publicKey store = env.keyStore.publicKey s.store :=
    env.keyStore.publicKey_archiveKey _ _ _ hstore
  constructor
  · intro op key hkey
    exact h.drawn op key (by rwa [Service.publicKey, ← hkeys])
  · exact h.signing
  · intro j token hj
    obtain ⟨key, hdrawn, hurl, hsigner⟩ := h.confirming j token hj
    exact ⟨key, hdrawn, hurl, by rwa [Service.publicKey, hkeys]⟩
  · exact h.issued

theorem publicKey_generateKey {key : Key} {op : String} :
    (s.generateKey env operatorId key).publicKey env op =
      if op = operatorId then some key else s.publicKey env op :=
  env.keyStore.publicKey_generateKey s.store operatorId key op

theorem named_generated {key : Key} (h : Named env s) (hfresh : key ∉ s.drawn) :
    Named env (s.generateKey env operatorId key) := by
  constructor
  · intro op key' hkey'
    rw [publicKey_generateKey] at hkey'
    split_ifs at hkey'
    · obtain rfl := Option.some.inj hkey'
      exact List.mem_cons_self
    · exact List.mem_cons_of_mem _ (h.drawn op key' hkey')
  · intro j op payload kid hj
    obtain ⟨named, hnamed, hurl⟩ := h.signing j op payload kid hj
    exact ⟨named, List.mem_cons_of_mem _ hnamed, hurl⟩
  · intro j token hj
    obtain ⟨named, hnamed, hurl, hsigner⟩ := h.confirming j token hj
    refine ⟨named, List.mem_cons_of_mem _ hnamed, hurl, hsigner.imp_right fun hne => ?_⟩
    rw [publicKey_generateKey]
    split_ifs
    · rintro ⟨⟩
      exact hfresh hnamed
    · exact hne
  · exact h.issued

theorem named_step [DecidableEq Key] (h : Named env s) (hnext : next env s e = some u) :
    Named env u := by
  cases moved_of_next hnext with
  | answered i a ha => exact named_answer h ha
  | provisions i op payload => exact named_goOn h (by rintro _ _ _ ⟨⟩) (by rintro _ ⟨⟩)
  | names i op payload => exact named_goOn h (by rintro _ _ _ ⟨⟩) (by rintro _ ⟨⟩)
  | signs i op payload kid hkid =>
    refine named_goOn h ?_ (by rintro _ ⟨⟩)
    rintro _ _ _ ⟨⟩
    obtain ⟨key, hkey, hurl⟩ := url_eq_ok hkid
    exact ⟨key, h.drawn op key hkey, hurl⟩
  | confirms i token hphase hsigner =>
    refine named_goOn h (by rintro _ _ _ ⟨⟩) ?_
    rintro _ ⟨⟩
    obtain ⟨key, hdrawn, hurl⟩ := h.signing i _ _ _ hphase
    refine ⟨key, hdrawn, hurl, ?_⟩
    by_cases hkey : token.signer = key
    · exact .inl hkey
    · exact .inr fun hcurrent => hkey (Option.some.inj (hsigner.symm.trans hcurrent))
  | archives i op store _ hstore =>
    exact named_goOn (named_archived h hstore) (by rintro _ _ _ ⟨⟩) (by rintro _ ⟨⟩)
  | generates i op key phase _ hfresh hphase =>
    refine named_goOn (named_generated h hfresh) ?_ ?_
    · rintro _ _ _ rfl
      rcases hphase with ⟨-, hphase⟩ | ⟨_, -, hphase⟩ <;> cases hphase
    · rintro _ rfl
      rcases hphase with ⟨-, hphase⟩ | ⟨_, -, hphase⟩ <;> cases hphase
  | restarts => exact ⟨h.drawn, by rintro _ _ _ _ ⟨⟩, by rintro _ _ ⟨⟩, h.issued⟩

section Samples

def sampleStore : KeyStore (String → Option String × List String) String where
  publicKey s op := (s op).1
  archived s op := (s op).2
  generateKey s op key := Function.update s op (some key, (s op).2)
  archiveKey s op := (s op).1.map fun key => Function.update s op (some key, key :: (s op).2)
  publicKey_generateKey s op key op' := by
    by_cases h : op' = op
    · subst h
      simp
    · simp [h]
  archived_generateKey s op key := by
    funext op'
    by_cases h : op' = op
    · subst h
      simp
    · simp [h]
  publicKey_archiveKey s op t h := by
    obtain ⟨key, hkey, rfl⟩ := Option.map_eq_some_iff.mp h
    funext op'
    by_cases hop : op' = op
    · subst hop
      simp [hkey]
    · simp [hop]
  archived_archiveKey s op t h op' key' := by
    obtain ⟨key, hkey, rfl⟩ := Option.map_eq_some_iff.mp h
    by_cases hop : op' = op
    · subst hop
      simp [hkey, eq_comm, or_comm]
    · simp [hop]

def sampleEnvironment : Environment (String → Option String × List String) String String where
  keyStore := sampleStore
  naming :=
    { did := "did:web:id"
      thumbprintUri := fun key => .ok key
      injective := fun _ _ _ h h' => Except.ok.inj (h.trans h'.symm) }
  decode text := if text = "bnVsbA==" then .value "null" else .notBase64

def sampleStart : Service (String → Option String × List String) String String :=
  ⟨fun _ => (none, []), [], fun _ => none, []⟩

theorem sampleStart_started : Started sampleEnvironment sampleStart :=
  ⟨rfl, rfl, by rintro _ _ ⟨⟩⟩

def signing : InternalSignRequest := ⟨"root", "1", "bnVsbA=="⟩

end Samples

/-- However requests and rotations interleave, a token that is returned names the key that made
it. -/
theorem issued_names_its_signer [DecidableEq Key] (hs : Started env s)
    (hrun : run (next env) s events = some u) :
    ∀ token ∈ u.issued, env.naming.methodUrl token.signer = .ok token.kid := by
  have hnamed : Named env u :=
    reachable_invariant (fun _ _ _ => named_step) (named_started hs) hrun
  exact hnamed.issued

def rotatedWhileSigning : List (Event String) :=
  [.sign 0 signing, .provision 0 (some "a"), .name 0, .rotate 1 "root" false,
    .generate 1 (.ok "b"), .make 0 false "", .confirm 0, .sign 2 signing, .name 2,
    .make 2 false "", .confirm 2]

theorem signed_after_rotation_names_its_signer : ∃ u,
    run (next sampleEnvironment) sampleStart rotatedWhileSigning = some u ∧
      u.issued = [⟨"root", "did:web:id#b", "b", "null"⟩] ∧
      ∀ token ∈ u.issued, sampleEnvironment.naming.methodUrl token.signer = .ok token.kid := by
  have hrun : run (next sampleEnvironment) sampleStart rotatedWhileSigning = some _ := rfl
  exact ⟨_, hrun, rfl, issued_names_its_signer sampleStart_started hrun⟩

end Safety

section Custody

variable {σ Key P : Type} {env : Environment σ Key P} {s u : Service σ Key P} {e : Event Key}
  {i j : ℕ} {operatorId : String} {phase : Phase Key P} {key : Key} {token : Token Key P}
  {events : List (Event Key)}

def Service.Holds (env : Environment σ Key P) (s : Service σ Key P) (token : Token Key P) : Prop :=
  s.publicKey env token.operatorId = some token.signer ∨
    token.signer ∈ s.archived env token.operatorId

def AllHeld (env : Environment σ Key P) (s : Service σ Key P) : Prop :=
  ∀ token ∈ s.issued, s.Holds env token

/-- The key that is overwritten is archived, or no token that was returned is its. -/
def Spares (env : Environment σ Key P) (s : Service σ Key P) (e : Event Key) : Prop :=
  ∀ operatorId key, Generates s operatorId key e → key ∉ s.drawn → ∀ token ∈ s.issued,
    token.operatorId = operatorId → s.publicKey env operatorId = some token.signer →
      token.signer ∈ s.archived env operatorId

theorem archived_generateKey :
    (s.generateKey env operatorId key).archived env = s.archived env :=
  env.keyStore.archived_generateKey s.store operatorId key

theorem holds_archived {store : σ}
    (hstore : env.keyStore.archiveKey s.store operatorId = some store) (h : s.Holds env token) :
    ({ s with store := store } : Service σ Key P).Holds env token := by
  have hkeys := env.keyStore.publicKey_archiveKey _ _ _ hstore
  rcases h with hcurrent | harchived
  · refine .inl ?_
    rwa [Service.publicKey, hkeys]
  · exact .inr ((env.keyStore.archived_archiveKey _ _ _ hstore _ _).mpr (.inl harchived))

theorem holds_generated (hnamed : Named env s) (hfresh : key ∉ s.drawn) (h : s.Holds env token) :
    (s.generateKey env operatorId key).Holds env token ↔
      (token.operatorId = operatorId → s.publicKey env operatorId = some token.signer →
        token.signer ∈ s.archived env operatorId) := by
  unfold Service.Holds
  rw [publicKey_generateKey, archived_generateKey]
  by_cases hop : token.operatorId = operatorId
  · subst hop
    rw [if_pos rfl]
    constructor
    · rintro (hcurrent | harchived) - hsigner
      · obtain rfl := Option.some.inj hcurrent
        exact absurd (hnamed.drawn _ _ hsigner) hfresh
      · exact harchived
    · intro hspared
      rcases h with hcurrent | harchived
      · exact .inr (hspared rfl hcurrent)
      · exact .inr harchived
  · rw [if_neg hop]
    exact ⟨fun _ h => absurd h hop, fun _ => h⟩

variable [DecidableEq Key]

theorem next_of_generates (env : Environment σ Key P) (h : Generates s operatorId key e)
    (hfresh : key ∉ s.drawn) :
    ∃ i phase, next env s e = some ((s.generateKey env operatorId key).goOn i phase) := by
  cases h with
  | @provision i payload hphase =>
    exact ⟨i, .naming operatorId payload, by simp only [next, hphase, if_neg hfresh]⟩
  | @rotate i hphase =>
    exact ⟨i, .documenting operatorId key, by simp only [next, hphase, if_neg hfresh]⟩

theorem allHeld_idle (hnamed : Named env s) (h : AllHeld env s) (hnext : next env s e = some u)
    (hidle : ∀ operatorId key, Generates s operatorId key e → key ∈ s.drawn) : AllHeld env u := by
  cases moved_of_next hnext with
  | answered i a ha =>
    intro token htoken
    rcases List.mem_cons.mp (mem_issued.mp htoken) with hsigned | hold
    · obtain ⟨hphase, hurl⟩ := ha token hsigned.symm
      exact .inl (signer_of_confirming hnamed hphase hurl).1
    · exact h token (mem_issued.mpr hold)
  | archives i op store _ hstore => exact fun token htoken => holds_archived hstore (h token htoken)
  | generates i op key phase hgenerates hfresh _ => exact absurd (hidle op key hgenerates) hfresh
  | provisions | names | signs | confirms | restarts => exact h

theorem allHeld_step (hnamed : Named env s) (h : AllHeld env s) (hnext : next env s e = some u) :
    AllHeld env u ↔ Spares env s e := by
  by_cases hidle : ∀ operatorId key, Generates s operatorId key e → key ∈ s.drawn
  · refine iff_of_true (allHeld_idle hnamed h hnext hidle) ?_
    intro operatorId key hgenerates hfresh
    exact absurd (hidle operatorId key hgenerates) hfresh
  · push Not at hidle
    obtain ⟨operatorId, key, hgenerates, hfresh⟩ := hidle
    obtain ⟨i, phase, hgenerated⟩ := next_of_generates env hgenerates hfresh
    obtain rfl := Option.some.inj (hnext.symm.trans hgenerated)
    have hheld : ∀ token ∈ s.issued, (s.generateKey env operatorId key).Holds env token ↔ _ :=
      fun token htoken => holds_generated hnamed hfresh (h token htoken)
    constructor
    · intro hall operatorId' key' hgenerates' _ token htoken
      obtain ⟨rfl, rfl⟩ : operatorId' = operatorId ∧ key' = key := by
        cases hgenerates <;> cases hgenerates' <;> simp_all
      exact (hheld token htoken).mp (hall token htoken)
    · intro hspares token htoken
      exact (hheld token htoken).mpr (hspares operatorId key hgenerates hfresh token htoken)

/-- Every returned token's key stays in the DID document, exactly in the runs that overwrite no
key with tokens to its name that is not archived. -/
theorem all_held_iff (hs : Started env s) :
    (∀ before after t, events = before ++ after → run (next env) s before = some t →
      AllHeld env t) ↔ Along (next env) (Spares env) s events := by
  refine states_iff_along (P := AllHeld env) ?_ (named_started hs) (fun _ _ _ => named_step)
    (fun t e v (hnamed : Named env t) hall => allHeld_step hnamed hall) ?_
  · intro token htoken
    simp [Service.issued, hs.answers] at htoken
  · intro t e hnext operatorId key hgenerates hfresh
    obtain ⟨i, phase, hgenerated⟩ := next_of_generates env hgenerates hfresh
    rw [hnext] at hgenerated
    cases hgenerated

/-- Two rotations that both archive the first key: the second overwrites what the first drew. -/
def overlapping : List (Event String) :=
  [.sign 0 signing, .provision 0 (some "a"), .rotate 1 "root" false, .rotate 2 "root" false,
    .generate 1 (.ok "b"), .name 0, .make 0 false "", .confirm 0, .generate 2 (.ok "c")]

theorem overlapping_rotations_lose_a_key :
    ¬Along (next sampleEnvironment) (Spares sampleEnvironment) sampleStart overlapping := by
  intro h
  have hrun : run (next sampleEnvironment) sampleStart overlapping = some _ := rfl
  have hheld := (all_held_iff sampleStart_started).mpr h overlapping [] _ rfl hrun
    ⟨"root", "did:web:id#b", "b", "null"⟩ List.mem_cons_self
  rcases hheld with hcurrent | harchived
  · exact absurd hcurrent (by decide)
  · exact absurd harchived (by decide)

end Custody

section Serial

variable {σ Key P : Type} {env : Environment σ Key P} {s u : Service σ Key P} {e : Event Key}
  {i j : ℕ} {operatorId : String} {phase : Phase Key P} {key : Key} {token : Token Key P}
  {events : List (Event Key)}

def Service.Changing (s : Service σ Key P) (i : ℕ) (operatorId : String) : Prop :=
  s.requests i = some (.generating operatorId) ∨
    ∃ payload, s.requests i = some (.provisioning operatorId payload)

/-- A request that will generate an operator's key begins when no other is about to. -/
def Alone (env : Environment σ Key P) (s : Service σ Key P) : Event Key → Prop
  | .sign _ body => s.publicKey env body.operatorId = none → ∀ j, ¬s.Changing j body.operatorId
  | .rotate _ operatorId _ => ∀ j, ¬s.Changing j operatorId
  | _ => True

structure Serial (env : Environment σ Key P) (s : Service σ Key P) : Prop where
  one : ∀ i j op, s.Changing i op → s.Changing j op → i = j
  generating : ∀ i op key, s.requests i = some (.generating op) → s.publicKey env op = some key →
    key ∈ s.archived env op
  provisioning : ∀ i op payload, s.requests i = some (.provisioning op payload) →
    s.publicKey env op = none

theorem serial_started (h : Started env s) : Serial env s where
  one := by simp [Service.Changing, h.requests]
  generating := by simp [h.requests]
  provisioning := by simp [h.requests]

/-- A request that goes on to anything but generating leaves fewer that are about to. -/
theorem serial_fewer (h : Serial env s)
    (hkeep : ∀ j op, u.requests j = some (.generating op) → s.requests j = some (.generating op))
    (hkeep' : ∀ j op payload, u.requests j = some (.provisioning op payload) →
      s.requests j = some (.provisioning op payload))
    (hstore : u.store = s.store) : Serial env u := by
  have hchanging : ∀ {j op}, u.Changing j op → s.Changing j op := by
    rintro j op (hgenerating | ⟨payload, hprovisioning⟩)
    · exact .inl (hkeep j op hgenerating)
    · exact .inr ⟨payload, hkeep' j op payload hprovisioning⟩
  constructor
  · exact fun i j op hi hj => h.one i j op (hchanging hi) (hchanging hj)
  · intro i op key hi
    rw [Service.publicKey, Service.archived, hstore]
    exact h.generating i op key (hkeep i op hi)
  · intro i op payload hi
    rw [Service.publicKey, hstore]
    exact h.provisioning i op payload (hkeep' i op payload hi)

theorem changing_goOn (h : (s.goOn i phase).Changing j operatorId) :
    j = i ∧ (phase = .generating operatorId ∨ ∃ payload, phase = .provisioning operatorId payload) ∨
      s.Changing j operatorId := by
  rcases h with hgenerating | ⟨payload, hprovisioning⟩
  · rcases goOn_eq_some hgenerating with ⟨rfl, hphase⟩ | hold
    · exact .inl ⟨rfl, .inl hphase.symm⟩
    · exact .inr (.inl hold)
  · rcases goOn_eq_some hprovisioning with ⟨rfl, hphase⟩ | hold
    · exact .inl ⟨rfl, .inr ⟨payload, hphase.symm⟩⟩
    · exact .inr (.inr ⟨payload, hold⟩)

theorem one_goOn (h : ∀ i j op, s.Changing i op → s.Changing j op → i = j)
    (halone : ∀ j, ¬s.Changing j operatorId)
    (hphase : ∀ op, phase = .generating op ∨ (∃ payload, phase = .provisioning op payload) →
      op = operatorId) :
    ∀ j k op, (s.goOn i phase).Changing j op → (s.goOn i phase).Changing k op → j = k := by
  intro j k op hj hk
  rcases changing_goOn hj with ⟨rfl, hnew⟩ | hjOld
  · obtain rfl := hphase op hnew
    rcases changing_goOn hk with ⟨rfl, -⟩ | hkOld
    · rfl
    · exact absurd hkOld (halone k)
  · rcases changing_goOn hk with ⟨-, hnew⟩ | hkOld
    · obtain rfl := hphase op hnew
      exact absurd hjOld (halone j)
    · exact h j k op hjOld hkOld

variable [DecidableEq Key]

theorem serial_step (h : Serial env s) (halone : Alone env s e) (hnext : next env s e = some u) :
    Serial env u := by
  have hother : ∀ {i phase}, (∀ op, phase ≠ .generating op) →
      (∀ op payload, phase ≠ .provisioning op payload) → Serial env (s.goOn i phase) := by
    intro i phase hgenerating hprovisioning
    refine serial_fewer h ?_ ?_ rfl
    · intro j op hj
      exact (goOn_eq_some hj).resolve_left fun ⟨_, hphase⟩ => hgenerating op hphase.symm
    · intro j op payload hj
      exact (goOn_eq_some hj).resolve_left fun ⟨_, hphase⟩ => hprovisioning op payload hphase.symm
  cases moved_of_next hnext with
  | answered i a _ =>
    exact serial_fewer h (fun j op => answer_eq_some) (fun j op payload => answer_eq_some) rfl
  | names | signs | confirms => exact hother (by rintro _ ⟨⟩) (by rintro _ _ ⟨⟩)
  | restarts => exact ⟨by rintro _ _ _ (⟨⟨⟩⟩ | ⟨_, ⟨⟩⟩), by rintro _ _ _ ⟨⟩, by rintro _ _ _ ⟨⟩⟩
  | provisions i op payload hnone he =>
    obtain ⟨body, rfl, rfl⟩ := he
    constructor
    · refine one_goOn h.one (halone hnone) ?_
      rintro op (⟨⟨⟩⟩ | ⟨_, ⟨⟩⟩)
      rfl
    · intro j op key hj
      rcases goOn_eq_some hj with ⟨-, ⟨⟩⟩ | hj
      exact h.generating j op key hj
    · intro j op payload' hj
      rcases goOn_eq_some hj with ⟨-, ⟨⟩⟩ | hj
      · exact hnone
      · exact h.provisioning j op payload' hj
  | archives i op store he hstore =>
    obtain ⟨fails, rfl⟩ := he
    have hkeys := env.keyStore.publicKey_archiveKey _ _ _ hstore
    have hold := env.keyStore.archived_archiveKey _ _ _ hstore
    constructor
    · refine one_goOn h.one halone ?_
      rintro op (⟨⟨⟩⟩ | ⟨_, ⟨⟩⟩)
      rfl
    · intro j op key hj hkey
      refine (hold op key).mpr ?_
      have hcurrent : s.publicKey env op = some key := by rwa [Service.publicKey, ← hkeys]
      rcases goOn_eq_some hj with ⟨-, ⟨⟩⟩ | hj
      · exact .inr ⟨rfl, hcurrent⟩
      · exact .inl (h.generating j op key hj hcurrent)
    · intro j op payload hj
      rcases goOn_eq_some hj with ⟨-, ⟨⟩⟩ | hj
      have hnone := h.provisioning j op payload hj
      rwa [Service.publicKey, ← hkeys] at hnone
  | generates i op key phase _ hfresh hphase =>
    have hself : s.Changing i op := hphase.imp (fun h => h.1) fun ⟨payload, h, _⟩ => ⟨payload, h⟩
    have hnew : ∀ op',
        ¬(phase = .generating op' ∨ ∃ payload, phase = .provisioning op' payload) := by
      rintro op' (rfl | ⟨payload', rfl⟩)
      · rcases hphase with ⟨-, ⟨⟩⟩ | ⟨_, -, ⟨⟩⟩
      · rcases hphase with ⟨-, ⟨⟩⟩ | ⟨_, -, ⟨⟩⟩
    have hback : ∀ {j op'}, ((s.generateKey env op key).goOn i phase).Changing j op' →
        op' ≠ op ∧ s.Changing j op' ∧ j ≠ i := by
      intro j op' hj
      have hne : j ≠ i := by
        rintro rfl
        rcases changing_goOn hj with ⟨-, hphase'⟩ | hold
        · exact hnew op' hphase'
        · simp only [Service.Changing, Service.goOn, Function.update_self, Option.some.injEq] at hj
          exact hnew op' hj
      have hold : s.Changing j op' := by
        rcases changing_goOn hj with ⟨hji, -⟩ | hold
        · exact absurd hji hne
        · exact hold
      refine ⟨?_, hold, hne⟩
      rintro rfl
      exact hne (h.one j i op' hold hself)
    have hkeep : ∀ {op'}, op' ≠ op →
        ((s.generateKey env op key).goOn i phase).publicKey env op' = s.publicKey env op' :=
      fun hop => publicKey_generateKey.trans (if_neg hop)
    constructor
    · exact fun j k op' hj hk => h.one j k op' (hback hj).2.1 (hback hk).2.1
    · intro j op' key' hj hkey'
      obtain ⟨hop, -, hne⟩ := hback (.inl hj)
      rw [hkeep hop] at hkey'
      have hold := (goOn_eq_some hj).resolve_left fun hji => hne hji.1
      exact archived_generateKey (s := s) ▸ h.generating j op' key' hold hkey'
    · intro j op' payload hj
      obtain ⟨hop, -, hne⟩ := hback (.inr ⟨payload, hj⟩)
      rw [hkeep hop]
      exact h.provisioning j op' payload ((goOn_eq_some hj).resolve_left fun hji => hne hji.1)

omit [DecidableEq Key] in
/-- What a run of requests one at a time does to an operator's key loses none. -/
theorem spares_of_serial (h : Serial env s) : Spares env s e := by
  intro operatorId key hgenerates _ token _ hop hcurrent
  cases hgenerates with
  | provision hphase =>
    rw [h.provisioning _ _ _ hphase] at hcurrent
    cases hcurrent
  | rotate hphase => exact h.generating _ _ _ hphase hcurrent

/-- As long as requests that generate an operator's key follow one another, the key of every
token that was returned stays in the DID document. -/
theorem held_one_at_a_time (hs : Started env s)
    (halone : Along (next env) (Alone env) s events) (hrun : run (next env) s events = some u) :
    AllHeld env u := by
  have hspares : Along (next env) (Spares env) s events :=
    along_of_invariant (fun _ _ _ => serial_step)
      (fun _ _ (h : Serial env _) _ => spares_of_serial h) (serial_started hs) halone
  exact (all_held_iff hs).mpr hspares events [] u (List.append_nil events).symm hrun

def signOnce : List (Event String) :=
  [.sign 0 signing, .provision 0 (some "a"), .name 0, .make 0 false "", .confirm 0]

def rotateOnce : List (Event String) :=
  [.rotate 1 "root" false, .generate 1 (.ok "b"), .document 1 ""]

theorem signed_then_rotated_is_held : ∃ u,
    run (next sampleEnvironment) sampleStart (signOnce ++ rotateOnce) = some u ∧
      u.issued = [⟨"root", "did:web:id#a", "a", "null"⟩] ∧ AllHeld sampleEnvironment u := by
  have hbegin : beginSign sampleEnvironment sampleStart 0 signing =
      sampleStart.goOn 0 (.provisioning "root" "null") := rfl
  have halone : Along (next sampleEnvironment) (Alone sampleEnvironment) sampleStart
      (signOnce ++ rotateOnce) := by
    refine along_append.mpr ⟨⟨?_, fun _ _ => ⟨trivial, fun _ _ => ⟨trivial, fun _ _ =>
      ⟨trivial, fun _ _ => ⟨trivial, fun _ _ => trivial⟩⟩⟩⟩⟩, ?_⟩
    · rintro - j (⟨⟨⟩⟩ | ⟨_, ⟨⟩⟩)
    · rintro t ⟨⟩
      refine ⟨fun j => ?_, fun _ _ => ⟨trivial, fun _ _ => ⟨trivial, fun _ _ => trivial⟩⟩⟩
      by_cases hj : j = 0
      · subst hj
        rintro (⟨⟨⟩⟩ | ⟨_, ⟨⟩⟩)
      · have hidle : sampleStart.requests j = none := rfl
        simp [Service.Changing, Service.answer, Service.goOn, Service.generateKey, hj, hbegin,
          hidle]
  have hrun : run (next sampleEnvironment) sampleStart (signOnce ++ rotateOnce) = some _ := rfl
  exact ⟨_, hrun, rfl, held_one_at_a_time sampleStart_started halone hrun⟩

end Serial

end RotatedKeys
