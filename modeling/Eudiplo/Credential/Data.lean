import Eudiplo.Concurrency.System
import Eudiplo.Shared.Values
import Eudiplo.Storage.Table

/-!
# Nonces and deferred transactions

The two tables behind the credential endpoint, `nonce_entity` and
`deferred_transaction_entity`, with the calls of their repositories, and the questions the
endpoint puts to the outside: access tokens, key proofs, and the issuing of credentials.
-/

namespace Eudiplo

/-! ## Rows -/

structure CredentialNonce where
  tenantId : String
  nonce : String
  expiresAt : Time
  deriving DecidableEq

def CredentialNonce.key (n : CredentialNonce) : String × String := (n.tenantId, n.nonce)

inductive DeferredTransactionStatus where
  | pending
  | ready
  | retrieved
  | expired
  | failed
  deriving DecidableEq

/-- `DeferredTransactionData`. -/
structure DeferredTransaction where
  transactionId : String
  tenantId : String
  sessionId : String
  credentialConfigurationId : String
  issuanceSetId : Option String := none
  holderCnf : Json
  status : DeferredTransactionStatus
  credential : Option String := none
  errorMessage : Option String := none
  interval : Nat
  expiresAt : Time

/-! ## Requests and errors -/

inductive ProofType where
  | jwt
  | attestation
  deriving DecidableEq

/-- `${proofType}`. -/
def ProofType.text : ProofType → String
  | .jwt => "jwt"
  | .attestation => "attestation"

structure ParsedCredentialRequest where
  tenantId : String
  accessToken : String
  proofType : ProofType
  proofs : List String
  body : String := ""
  deriving DecidableEq

/-- What the access token, the session and the claims webhook say about a request. -/
structure AuthorizedCredentialRequest where
  sessionId : String
  credentialConfigurationId : String
  issuanceSetId : Option String
  /-- `claimsResult.deferred`, with the interval the webhook asked for. -/
  deferred : Option (Option Nat)
  claims : Json

inductive CredentialError where
  /-- `CredentialRequestException` -/
  | credentialRequest (error : String) (error_description : String)
  /-- `DeferredCredentialException` -/
  | deferredCredential (error : String) (error_description : String) (interval : Option Nat)
  /-- `NotFoundException`, `SessionNotFound` and other errors of the parts around. -/
  | other (message : String)
  deriving DecidableEq

/-- `new CredentialRequestException("invalid_proof", description)`. -/
def CredentialError.invalidProof (description : String) : CredentialError :=
  .credentialRequest "invalid_proof" description

/-- `new CredentialRequestException("invalid_nonce", description)`. -/
def CredentialError.invalidNonce (description : String) : CredentialError :=
  .credentialRequest "invalid_nonce" description

/-- `new DeferredCredentialException("invalid_transaction_id", description)`. -/
def CredentialError.invalidTransactionId (description : String) : CredentialError :=
  .deferredCredential "invalid_transaction_id" description none

/-! ## Calls -/

/-- `CredentialNonceRepository`. -/
inductive NonceCall where
  | save (nonce : CredentialNonce)
  | find (tenantId nonce : String)
  | delete (tenantId nonce : String)
  | deleteExpired (before : Time)
  deriving DecidableEq

/-- `DeferredTransactionRepository`; `markReady` and `markFailed` are an update and a `find`. -/
inductive TransactionCall where
  | create (transaction : DeferredTransaction)
  | findPending (tenantId transactionId : String)
  | find (tenantId transactionId : String)
  | markReady (tenantId transactionId credential : String)
  | markFailed (tenantId transactionId errorMessage : String)
  | markRetrieved (tenantId transactionId : String)
  | markExpired (tenantId transactionId : String)
  | deleteExpired (now : Time)

inductive CredentialQuestion where
  /-- Everything before the nonces: the access token, its session, the claims. -/
  | authorize (q : ParsedCredentialRequest)
  /-- The keys a valid proof attests. -/
  | verifyProof (tenantId proof : String) (proofType : ProofType)
  /-- `assertKeyAttestationRequirements` for a verified proof. -/
  | keyAttestation (tenantId proof credentialConfigurationId : String)
  /-- `IssueCredentialsFromProofs`. -/
  | issueCredentials (q : ParsedCredentialRequest) (authorized : AuthorizedCredentialRequest)
  /-- The access token of a poll; the answer is its payload. -/
  | verifyAccessToken (tenantId accessToken : String)
  | belongsToSession (tenantId : String) (token : Json) (sessionId : String)
  | resolveAuthorizedConfiguration (credentialConfigurationId : String) (token : Json)
  | getSession (tenantId sessionId : String)
  /-- `DeferredCredentialIssuer.issue`. -/
  | issueDeferred (credentialConfigurationId : String) (holderCnf : Json) (session : String)
      (claims : Json) (issuanceSetId : Option String)

abbrev CredentialQuestion.Result : CredentialQuestion → Type
  | .authorize _ => Except CredentialError AuthorizedCredentialRequest
  | .verifyProof .. => Except CredentialError (List Json)
  | .keyAttestation .. => Except CredentialError Unit
  | .issueCredentials .. => Except CredentialError (List String)
  | .verifyAccessToken .. => Except CredentialError Json
  | .belongsToSession .. => Bool
  | .resolveAuthorizedConfiguration .. => Except CredentialError Unit
  | .getSession .. => Except CredentialError String
  | .issueDeferred .. => Except CredentialError String

inductive CredentialCall where
  | nonces (c : NonceCall)
  | transactions (c : TransactionCall)
  /-- `new Date()` -/
  | now
  /-- `v4()` -/
  | uuid
  | ask (q : CredentialQuestion)

abbrev NonceCall.Result : NonceCall → Type
  | .find .. => Option CredentialNonce
  | .delete .. => Bool
  | .save _ | .deleteExpired _ => Unit

abbrev TransactionCall.Result : TransactionCall → Type
  | .findPending .. | .find .. => Option DeferredTransaction
  | .markRetrieved .. => Bool
  | _ => Unit

abbrev CredentialCall.Result : CredentialCall → Type
  | .nonces c => c.Result
  | .transactions c => c.Result
  | .now => Time
  | .uuid => String
  | .ask q => q.Result

/-! ## The store -/

/-- The code around the endpoints: how proofs are decoded, the values `v4` draws, and the
answers to questions, which may differ from one question to the next. -/
structure CredentialWorld where
  /-- `decodeJwt(proof).nonce`; `none` where the proof cannot be decoded. -/
  decodeNonce : String → Option (Option String)
  uuid : Nat → String
  uuid_injective : Function.Injective uuid
  answer : (q : CredentialQuestion) → Nat → q.Result

/-- The two tables, the clock, and how many values were drawn and questions asked. -/
structure CredentialStore where
  clock : Time
  nonces : Storage.Table CredentialNonce.key
  transactions : Storage.Table DeferredTransaction.transactionId
  draws : Nat := 0
  asked : Nat := 0

def NonceCall.answer : (c : NonceCall) → Storage.Table CredentialNonce.key →
    c.Result × Storage.Table CredentialNonce.key
  | .save n, t => ((), t.upsert n (fun r => { r with expiresAt := n.expiresAt }) fun _ => rfl)
  | .find tenantId nonce, t => (t.get (tenantId, nonce), t)
  | .delete tenantId nonce, t =>
    ((t.get (tenantId, nonce)).isSome, t.deleteWhere fun r => r.key == (tenantId, nonce))
  | .deleteExpired before, t => ((), t.deleteWhere fun r => decide (r.expiresAt < before))

/-- The row the `where` of a call selects. -/
def DeferredTransaction.selects (tenantId transactionId : String) (r : DeferredTransaction) :
    Bool :=
  r.tenantId == tenantId && r.transactionId == transactionId

def TransactionCall.answer : (c : TransactionCall) →
    Storage.Table DeferredTransaction.transactionId →
    c.Result × Storage.Table DeferredTransaction.transactionId
  | .create transaction, t =>
    ((), t.upsert transaction
      (fun r => { transaction with transactionId := r.transactionId }) fun _ => rfl)
  | .findPending tenantId id, t =>
    (t.find fun r => r.selects tenantId id && r.status == .pending, t)
  | .find tenantId id, t => (t.find fun r => r.selects tenantId id, t)
  | .markReady tenantId id credential, t =>
    ((), t.updateWhere (fun r => r.selects tenantId id)
      (fun r => { r with status := .ready, credential := some credential }) fun _ => rfl)
  | .markFailed tenantId id errorMessage, t =>
    ((), t.updateWhere (fun r => r.selects tenantId id)
      (fun r => { r with status := .failed, errorMessage := some errorMessage }) fun _ => rfl)
  | .markRetrieved tenantId id, t =>
    (decide (0 < t.count fun r => r.selects tenantId id && r.status == .ready),
      t.updateWhere (fun r => r.selects tenantId id && r.status == .ready)
        (fun r => { r with status := .retrieved }) fun _ => rfl)
  | .markExpired tenantId id, t =>
    ((), t.updateWhere (fun r => r.selects tenantId id)
      (fun r => { r with status := .expired }) fun _ => rfl)
  | .deleteExpired now, t => ((), t.deleteWhere fun r => decide (r.expiresAt < now))

/-- **What the store answers to a call.** -/
def CredentialCall.answer (w : CredentialWorld) :
    (c : CredentialCall) → CredentialStore → c.Result × CredentialStore
  | .nonces c, s => ((c.answer s.nonces).1, { s with nonces := (c.answer s.nonces).2 })
  | .transactions c, s =>
    ((c.answer s.transactions).1, { s with transactions := (c.answer s.transactions).2 })
  | .now, s => (s.clock, s)
  | .uuid, s => (w.uuid s.draws, { s with draws := s.draws + 1 })
  | .ask q, s => (w.answer q s.asked, { s with asked := s.asked + 1 })

end Eudiplo
