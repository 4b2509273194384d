import Eudiplo.Credential.Data

/-!
# The credential and deferred credential endpoints

`NonceService`, `ValidateAndConsumeCredentialNonces`, the nonce and transaction side of
`Oid4vciService.getCredential`, `DeferredCredentialService`, `CompleteDeferredCredential`
and `FailDeferredCredential`, and the two cleanup jobs.
-/

namespace Eudiplo

open Concurrency Prog

abbrev CredentialProg := Prog CredentialCall.Result CredentialError

def nonceRepository (c : NonceCall) : CredentialProg c.Result :=
  invoke (CredentialCall.nonces c)

def transactions (c : TransactionCall) : CredentialProg c.Result :=
  invoke (CredentialCall.transactions c)

/-- `new Date()`. -/
def credentialNow : CredentialProg Time := invoke CredentialCall.now

/-- `v4()`. -/
def uuid : CredentialProg String := invoke CredentialCall.uuid

def askCredential (q : CredentialQuestion) : CredentialProg q.Result :=
  invoke (CredentialCall.ask q)

/-! ## Nonces -/

/-- `NonceService.issue`. -/
def issueNonce (tenantId : String) : CredentialProg String := do
  let nonce ← uuid
  let now ← credentialNow
  let () ← nonceRepository (.save { nonce, tenantId, expiresAt := now + 10 * 60 * 1000 })
  return nonce

def proofNonce (w : CredentialWorld) (proofType : ProofType) (proof : String) :
    Except CredentialError String :=
  match w.decodeNonce proof with
  | none => .error (.other "Invalid JWT")
  | some nonce =>
    if truthy nonce then .ok (nonce.getD "")
    else .error (.invalidProof ("All " ++ proofType.text ++ " key proofs must contain a nonce " ++
      "when the nonce endpoint is offered"))

/-- Consume one nonce: `find`, the expiry, and the `delete` that decides. -/
def consumeNonce (tenantId : String) (now : Time) (nonce : String) : CredentialProg Unit := do
  match ← nonceRepository (.find tenantId nonce) with
  | none =>
    fail (.invalidNonce "The nonce in the key proof is invalid or has already been used")
  | some stored =>
    if stored.expiresAt < now then do
      let _ ← nonceRepository (.delete tenantId nonce)
      fail (.invalidNonce "The nonce in the key proof has expired")
    else do
      let consumed ← nonceRepository (.delete tenantId nonce)
      ensure consumed
        (.invalidNonce "The nonce in the key proof is invalid or has already been used")

def uniqueNonces (w : CredentialWorld) (proofType : ProofType) (proofs : List String) :
    Except CredentialError (List String) :=
  (proofs.mapM (proofNonce w proofType)).map List.eraseDups

/-- `ValidateAndConsumeCredentialNonces.execute`. -/
def validateAndConsume (w : CredentialWorld) (proofs : List String) (proofType : ProofType)
    (tenantId : String) : CredentialProg Unit := do
  let now ← credentialNow
  let nonces ← ofExcept (uniqueNonces w proofType proofs)
  each (consumeNonce tenantId now) nonces

/-- `CredentialNonceCleanupJob.cleanup`. -/
def cleanupNonces : CredentialProg Unit := do
  let now ← credentialNow
  nonceRepository (.deleteExpired now)

/-! ## The credential endpoint -/

inductive CredentialAnswer where
  | nonce (c_nonce : String)
  | issued (credentials : List String)
  | deferred (transaction_id : String) (interval : Nat)
  | credential (credential : String)
  | transaction (transaction : Option DeferredTransaction)
  | done

/-- The lifetime of a deferred transaction (a day of the server's time zone, which is taken
to have 24 hours). -/
def deferredTransactionTtlHours : Nat := 24

def singleProof (proofs : List String) : Except CredentialError String :=
  match proofs with
  | [proof] =>
    if proof != "" then .ok proof
    else .error (.invalidProof "No key proof was provided for deferred issuance")
  | _ => .error (.invalidProof "Deferred issuance requires exactly one key proof")

def singleHolderKey (proofType : ProofType) (holderKeys : List Json) :
    Except CredentialError Unit :=
  match proofType, holderKeys with
  | .jwt, _ => .ok ()
  | .attestation, [] =>
    .error (.invalidProof "Attestation proof does not contain any attested keys")
  | .attestation, [_] => .ok ()
  | .attestation, _ :: _ :: _ =>
    .error (.invalidProof "Deferred issuance supports exactly one attested key")

def createDeferredTransaction (w : CredentialWorld) (q : ParsedCredentialRequest)
    (authorized : AuthorizedCredentialRequest) (interval : Nat) :
    CredentialProg CredentialAnswer := do
  let proof ← ofExcept (singleProof q.proofs)
  let nonce ← getOrFail (.other "Invalid JWT") (w.decodeNonce proof)
  ensure (truthy nonce)
    (.invalidProof "Key proof must contain a nonce when deferred issuance is requested")
  -- delete the nonce to prevent reuse
  let nonceDeleted ← nonceRepository (.delete q.tenantId (nonce.getD ""))
  ensure nonceDeleted
    (.invalidNonce "The nonce in the key proof is invalid or has already been used")
  let verified ← askCredential (.verifyProof q.tenantId proof q.proofType)
  let holderKeys ← ofExcept verified
  ofExcept (singleHolderKey q.proofType holderKeys)
  let attested ← askCredential
    (.keyAttestation q.tenantId proof authorized.credentialConfigurationId)
  ofExcept attested
  let transactionId ← uuid
  let now ← credentialNow
  let () ← transactions (.create {
    transactionId, tenantId := q.tenantId, sessionId := authorized.sessionId
    credentialConfigurationId := authorized.credentialConfigurationId
    issuanceSetId := authorized.issuanceSetId, holderCnf := holderKeys.headD .null
    status := .pending, interval
    expiresAt := now.plusSeconds (deferredTransactionTtlHours * 60 * 60) })
  return .deferred transactionId interval

/-- **`Oid4vciService.getCredential`**, from its nonces on. -/
def getCredentialResponse (w : CredentialWorld) (q : ParsedCredentialRequest) :
    CredentialProg CredentialAnswer := do
  let answer ← askCredential (.authorize q)
  let authorized ← ofExcept answer
  match authorized.deferred with
  | some interval => createDeferredTransaction w q authorized (interval.getD 5)
  | none => do
    validateAndConsume w q.proofs q.proofType q.tenantId
    let credentials ← askCredential (.issueCredentials q authorized)
    let credentials ← ofExcept credentials
    return .issued credentials

/-! ## The deferred credential endpoint -/

inductive DeferredCredentialRetrieval where
  | expire
  | pending (interval : Nat)
  | failed (message : String)
  | expired (message : String)
  | retrieved (message : String)
  | unavailable (message : String)
  | ready (credential : String)
  deriving DecidableEq

/-- `ResolveDeferredCredentialRetrieval.execute`. -/
def resolveDeferredCredentialRetrieval (transaction : DeferredTransaction) (now : Time) :
    DeferredCredentialRetrieval :=
  if transaction.expiresAt < now then .expire
  else match transaction.status with
    | .pending => .pending transaction.interval
    | .failed =>
      .failed
        ((orElse transaction.errorMessage (some "The credential issuance has failed")).getD "")
    | .expired => .expired "The transaction has expired"
    | .retrieved => .retrieved "The credential has already been retrieved"
    | .ready =>
      if truthy transaction.credential then .ready (transaction.credential.getD "")
      else .unavailable "Credential is marked as ready but not available"

structure DeferredCredentialRequest where
  tenantId : String
  accessToken : String
  transaction_id : String

def polledTransaction (q : DeferredCredentialRequest) (token : Json) :
    CredentialProg DeferredTransaction := do
  match ← transactions (.find q.tenantId q.transaction_id) with
  | none => fail (.invalidTransactionId "The transaction_id is invalid or has expired")
  | some transaction => do
    let belongs ← askCredential (.belongsToSession q.tenantId token transaction.sessionId)
    ensure belongs (.invalidTransactionId "The transaction_id is invalid or has expired")
    return transaction

def getDeferredCredential (q : DeferredCredentialRequest) : CredentialProg CredentialAnswer := do
  let verified ← askCredential (.verifyAccessToken q.tenantId q.accessToken)
  let token ← ofExcept verified
  let transaction ← polledTransaction q token
  let resolved ← askCredential
    (.resolveAuthorizedConfiguration transaction.credentialConfigurationId token)
  ofExcept resolved
  let now ← credentialNow
  match resolveDeferredCredentialRetrieval transaction now with
  | .expire => do
    let () ← transactions (.markExpired q.tenantId q.transaction_id)
    fail (.invalidTransactionId "The transaction has expired")
  | .pending interval =>
    fail (.deferredCredential "issuance_pending" "The credential issuance is still pending"
      (some interval))
  | .failed message => fail (.invalidTransactionId message)
  | .expired message => fail (.invalidTransactionId message)
  | .retrieved message => fail (.invalidTransactionId message)
  | .unavailable message => fail (.invalidTransactionId message)
  | .ready credential => do
    let retrieved ← transactions (.markRetrieved q.tenantId q.transaction_id)
    ensure retrieved (.invalidTransactionId "The credential has already been retrieved")
    return .credential credential

/-! ## Completing and failing -/

structure CompleteDeferredCredentialInput where
  tenantId : String
  transactionId : String
  claims : Json

/-- `this.find(…)` after an update; the row has to be there. -/
def updatedTransaction (tenantId transactionId : String) : CredentialProg CredentialAnswer := do
  match ← transactions (.find tenantId transactionId) with
  | none => fail (.other "Deferred transaction disappeared")
  | some transaction => return .transaction (some transaction)

/-- **`CompleteDeferredCredential.execute`**. -/
def completeDeferredCredential (q : CompleteDeferredCredentialInput) :
    CredentialProg CredentialAnswer := do
  match ← transactions (.findPending q.tenantId q.transactionId) with
  | none => return .transaction none
  | some transaction => do
    let found ← askCredential (.getSession transaction.tenantId transaction.sessionId)
    let session ← ofExcept found
    let issued ← askCredential (.issueDeferred transaction.credentialConfigurationId
      transaction.holderCnf session q.claims transaction.issuanceSetId)
    let credential ← ofExcept issued
    let () ← transactions (.markReady q.tenantId q.transactionId credential)
    updatedTransaction q.tenantId q.transactionId

/-- **`FailDeferredCredential.execute`**. -/
def failDeferredCredential (tenantId transactionId : String) (errorMessage : Option String) :
    CredentialProg CredentialAnswer := do
  match ← transactions (.find tenantId transactionId) with
  | none => return .transaction none
  | some _ => do
    let () ← transactions (.markFailed tenantId transactionId
      (errorMessage.getD "Transaction marked as failed"))
    updatedTransaction tenantId transactionId

/-- `DeferredTransactionCleanupJob.cleanup`. -/
def cleanupTransactions : CredentialProg Unit := do
  let now ← credentialNow
  transactions (.deleteExpired now)

/-! ## The system -/

inductive CredentialEndpointRequest where
  | nonce (tenantId : String)
  | credential (q : ParsedCredentialRequest)
  | deferredCredential (q : DeferredCredentialRequest)
  | complete (q : CompleteDeferredCredentialInput)
  | fail (tenantId transactionId : String) (errorMessage : Option String)
  | cleanupNonces
  | cleanupTransactions

def CredentialEndpointRequest.program (w : CredentialWorld) :
    CredentialEndpointRequest → CredentialProg CredentialAnswer
  | .nonce tenantId => do
    let nonce ← issueNonce tenantId
    return .nonce nonce
  | .credential q => getCredentialResponse w q
  | .deferredCredential q => getDeferredCredential q
  | .complete q => completeDeferredCredential q
  | .fail tenantId transactionId errorMessage =>
    failDeferredCredential tenantId transactionId errorMessage
  | .cleanupNonces => do
    Eudiplo.cleanupNonces
    return .done
  | .cleanupTransactions => do
    Eudiplo.cleanupTransactions
    return .done

/-- **The credential endpoints under any number of requests.** -/
def credentialEndpoints (w : CredentialWorld) :
    System CredentialCall.Result CredentialStore Nat CredentialEndpointRequest CredentialError
      CredentialAnswer where
  answer := CredentialCall.answer w
  drift milliseconds s := { s with clock := s.clock + milliseconds }
  program := CredentialEndpointRequest.program w

end Eudiplo
