import DppEngine.AuditTrail
import DppEngine.OrderedMaps

/-! Compact JWS tokens checked against DID documents, and the transfer chain, whose
records carry two such tokens each.

`Libraries` holds what the verifier calls outside this repository: key resolution and
signature verification, the canonical bytes and hashes of JSON, and the transfer
record's own signing payload. -/
namespace SignedTokens

open JsonValues AuditTrail OrderedMaps

structure OperatorRef where
  did : String
  members : Doc
  deriving DecidableEq, Repr

def OperatorRef.toJson (o : OperatorRef) : Json := .obj (("did", .str o.did) :: o.members)

structure TransferRecord where
  transferId : String
  passportId : String
  fromOperator : OperatorRef
  toOperator : OperatorRef
  reason : Json
  initiatedAt : Int
  completedAt : Option Int
  rejectedAt : Option Int
  cancelledAt : Option Int
  fromSignature : Option String
  nodeAcceptanceAttestation : Option String
  notes : Option String := none
  deriving DecidableEq, Repr

structure TransferChain where
  transfers : List TransferRecord
  deriving DecidableEq, Repr

structure Libraries where
  /-- The key the document publishes under the method the token's `kid` names. -/
  resolveVerificationKey : Json → String → Option String
  verifyJws : String → String → Except String Bool
  base64UrlDecode : String → Except String (List UInt8)
  canonicalize : Json → Except String (List UInt8)
  contentHash : Json → Except String String
  chainContentHash : ChainContent → String
  signingPayload : TransferRecord → Json
  transferChainJson : TransferChain → Json
  readEnvelope : Json → Except String Doc
  renderJson : Json → String

section Tokens

variable (lib : Libraries)

def resolvePublicKey (jws : String) (didDocument : Json) : Option String :=
  lib.resolveVerificationKey didDocument jws

/-- `jws.split('.').nth(1)`. -/
def payloadSegment (jws : String) : Option String :=
  ((jws.toList.splitOn '.')[1]?).map String.ofList

def decodePayloadBytes (jws : String) : Except String (List UInt8) :=
  match payloadSegment jws with
  | none => .error "JWS has no payload segment"
  | some segment =>
    match lib.base64UrlDecode segment with
    | .ok bytes => .ok bytes
    | .error e => .error ("payload base64: " ++ e)

def verifyJwsContent (jws publicKey : String) (expected : Json) : Except String Bool :=
  match lib.verifyJws jws publicKey with
  | .error e => .error e
  | .ok false => .ok false
  | .ok true => do
    let actual ← decodePayloadBytes lib jws
    let expectedBytes ← lib.canonicalize expected
    return actual = expectedBytes

end Tokens

section Transfers

variable (lib : Libraries)

def acceptancePayload (r : TransferRecord) : Json :=
  .obj [("attests", .str "acceptance"), ("transferId", .str r.transferId),
    ("passportId", .str r.passportId), ("fromOperator", r.fromOperator.toJson),
    ("toOperator", r.toOperator.toJson), ("reason", r.reason),
    ("initiatedAt", .instant r.initiatedAt)]

/-- `from` is the outgoing operator's signature, `acceptance` the hosting node's. -/
inductive TransferSignatureIssue where
  | «from» (reason : String)
  | acceptance (reason : String)
  deriving DecidableEq, Repr

structure TransferChainBreak where
  index : ℕ
  issue : TransferSignatureIssue
  deriving DecidableEq, Repr

def checkSignature (did jws : String) (payload : Json) (didDocuments : BTreeMap String Json) :
    Except String Unit :=
  match didDocuments.get did with
  | none => .error ("no DID document available for " ++ did ++ " — cannot verify")
  | some doc =>
    match resolvePublicKey lib jws doc with
    | none => .error ("no usable assertion key found in DID document for " ++ did)
    | some key =>
      match verifyJwsContent lib jws key payload with
      | .ok true => .ok ()
      | .ok false => .error ("signature does not verify against " ++ did ++
          "'s key, or covers different content than the transfer terms")
      | .error e => .error ("malformed signature: " ++ e)

def TransferRecord.isCompleted (r : TransferRecord) : Bool :=
  r.completedAt.isSome && r.rejectedAt.isNone && r.cancelledAt.isNone

/-- A signature that is there must verify; only a completed record may not miss one. -/
def checkPresent (signature : Option String) (completed : Bool) (missing : String)
    (check : String → Except String Unit) : Except String Unit :=
  match signature with
  | some jws => check jws
  | none => if completed then .error missing else .ok ()

def checkRecord (didDocuments : BTreeMap String Json) (nodeDid : String) (r : TransferRecord) :
    Except TransferSignatureIssue Unit := do
  (checkPresent r.fromSignature r.isCompleted
    "completed transfer is missing the from-operator signature" fun jws =>
      checkSignature lib r.fromOperator.did jws (lib.signingPayload r) didDocuments).mapError .from
  (checkPresent r.nodeAcceptanceAttestation r.isCompleted
    "completed transfer is missing the node's acceptance attestation" fun jws =>
      checkSignature lib nodeDid jws (acceptancePayload r) didDocuments).mapError .acceptance

def verifyTransfers (didDocuments : BTreeMap String Json) (nodeDid : String) (index : ℕ) :
    List TransferRecord → Except TransferChainBreak Unit
  | [] => .ok ()
  | r :: rs =>
    match checkRecord lib didDocuments nodeDid r with
    | .error issue => .error ⟨index, issue⟩
    | .ok () => verifyTransfers didDocuments nodeDid (index + 1) rs

def verifyTransferChain (chain : TransferChain) (didDocuments : BTreeMap String Json)
    (nodeDid : String) : Except TransferChainBreak Unit :=
  verifyTransfers lib didDocuments nodeDid 0 chain.transfers

end Transfers

/-- What is relied on of the signature scheme: a token has at most one key that made
it, and a key accepts exactly the tokens it made. -/
structure Signatures (lib : Libraries) where
  signer : String → Option String
  accepts : ∀ jws key, lib.verifyJws jws key = .ok true ↔ signer jws = some key

/-- The token is made over the canonical bytes of `payload`, by the key `doc` publishes
under the `kid` the token itself names. -/
structure HonestToken (lib : Libraries) (sig : Signatures lib) (doc : Json) (jws : String)
    (payload : Json) : Prop where
  key : ∃ key, resolvePublicKey lib jws doc = some key ∧ sig.signer jws = some key
  content : ∃ bytes, decodePayloadBytes lib jws = .ok bytes ∧ lib.canonicalize payload = .ok bytes

section TokenFacts

variable {lib : Libraries} {sig : Signatures lib} {doc payload : Json} {jws key : String}

theorem payloadSegment_ofList {chars : List Char} (h : jws = String.ofList chars) :
    payloadSegment jws = ((chars.splitOn '.')[1]?).map String.ofList := by
  rw [payloadSegment, h, String.toList_ofList]

/-- An honest token passes under a key exactly when that key is the one it names. -/
theorem HonestToken.verifies_iff (h : HonestToken lib sig doc jws payload) :
    verifyJwsContent lib jws key payload = .ok true ↔ resolvePublicKey lib jws doc = some key := by
  obtain ⟨key', hresolved, hsigner⟩ := h.key
  obtain ⟨bytes, hactual, hexpected⟩ := h.content
  have haccepts := sig.accepts jws key
  rw [hresolved, ← hsigner, ← haccepts]
  unfold verifyJwsContent
  cases hv : lib.verifyJws jws key with
  | error e => simp
  | ok b =>
    cases b with
    | false => simp
    | true => simp [hactual, hexpected, bind, Except.bind, pure, Except.pure]

end TokenFacts

end SignedTokens
