import Eudiplo.Shared.Values

/-!
# Sessions

One row of the `session` table serves an issuance offer, a wallet-initiated
issuance and a presentation request alike.  `Session` has the columns the modelled
operations read or write, under their column names.

`SessionUpdate` is what an `UPDATE` sets: an absent property (`none`) leaves its column as it is.
-/

namespace Eudiplo

/-- `SessionStatus` (`session-state.ts`). -/
inductive SessionStatus where
  | active
  | fetched
  | completed
  | expired
  | failed
  | cancelled
  deriving DecidableEq

/-- `TERMINAL_STATUSES`: a wallet can no longer redeem the session. -/
def isTerminalStatus : SessionStatus → Bool
  | .completed | .failed | .expired | .cancelled => true
  | .active | .fetched => false

/-- `OPEN_SESSION_STATUSES`: every status that is not terminal. -/
def openSessionStatuses : List SessionStatus :=
  [.active, .fetched, .completed, .expired, .failed, .cancelled].filter
    fun status => !isTerminalStatus status

@[simp] theorem mem_openSessionStatuses {status : SessionStatus} :
    status ∈ openSessionStatuses ↔ isTerminalStatus status = false := by
  cases status <;> decide

/-- `SessionAuthorization`: the parameters of a (pushed) authorization request. -/
structure AuthorizeQueries where
  issuer_state : Option String := none
  response_type : Option String := none
  client_id : Option String := none
  redirect_uri : Option String := none
  scope : Option String := none
  code_challenge : Option String := none
  code_challenge_method : Option String := none
  dpop_jkt : Option String := none
  request_uri : Option String := none
  state : Option String := none
  authorization_details : Option Json := none

/-- `flow` of an offer request. -/
inductive OfferFlow where
  | authorization_code
  | pre_authorized_code
  deriving DecidableEq

inductive ClaimSource where
  | inline (claims : Json)
  | attributeProvider (attributeProviderId : String)
  | webhook (url : String)

/-- `SessionOfferRequest`: the request an offer was created from. -/
structure OfferRequest where
  flow : OfferFlow
  tx_code : Option String := none
  tx_code_description : Option String := none
  credentialConfigurationIds : List String := []
  authorization_server : Option String := none
  credentialClaims : List (String × ClaimSource) := []
  webhookEndpointId : Option String := none
  offerLifetimeSeconds : Option Nat := none
  reference : Option String := none

inductive NotificationEvent where
  | credential_accepted
  | credential_failure
  | credential_deleted
  deriving DecidableEq

/-- `Notification`: one issued credential the wallet may report on. -/
structure Notification where
  id : String
  event : Option NotificationEvent := none
  eventDescription : Option String := none
  credentialConfigurationId : String
  deriving DecidableEq

/-- A row of the `session` table. -/
structure Session where
  id : String
  tenantId : String
  createdAt : Time
  expiresAt : Option Time := none
  useDcApi : Bool := false
  dcApiProtocol : Option String := none
  browserOrigin : Option String := none
  reference : Option String := none
  status : SessionStatus := .active
  authorization_code : Option String := none
  authorization_code_expires_at : Option Time := none
  dpop_jkt : Option String := none
  client_key_jkt : Option String := none
  refresh_token : Option String := none
  refresh_token_expires_at : Option Time := none
  request_uri : Option String := none
  request_uri_expires_at : Option Time := none
  auth_queries : Option AuthorizeQueries := none
  offer : Option Json := none
  offerUrl : Option String := none
  credentialPayload : Option OfferRequest := none
  credentialConfigurationIds : Option (List String) := none
  webhookEndpointId : Option String := none
  notifications : List Notification := []
  requestId : Option String := none
  requestUrl : Option String := none
  requestObject : Option String := none
  responseEncryptionPrivateJwk : Option String := none
  credentials : Option (List Json) := none
  vp_nonce : Option String := none
  clientId : Option String := none
  walletNonce : Option String := none
  responseCode : Option String := none
  responseUri : Option String := none
  redirectUri : Option String := none
  parsedWebhook : Option String := none
  transaction_data : Option Json := none
  authorizationServerId : Option String := none
  errorReason : Option String := none
  failureCode : Option String := none
  outcome : Option Json := none
  txCodeFailedAttempts : Nat := 0
  consumed : Bool := false
  consumedAt : Option Time := none

/-- `SessionUpdate`: the columns an `UPDATE` sets. -/
structure SessionUpdate where
  expiresAt : Option Time := none
  useDcApi : Option Bool := none
  dcApiProtocol : Option String := none
  browserOrigin : Option String := none
  reference : Option String := none
  status : Option SessionStatus := none
  authorization_code : Option String := none
  authorization_code_expires_at : Option Time := none
  dpop_jkt : Option String := none
  client_key_jkt : Option String := none
  refresh_token : Option String := none
  refresh_token_expires_at : Option Time := none
  request_uri : Option String := none
  request_uri_expires_at : Option Time := none
  auth_queries : Option AuthorizeQueries := none
  offer : Option Json := none
  offerUrl : Option String := none
  credentialPayload : Option OfferRequest := none
  credentialConfigurationIds : Option (List String) := none
  webhookEndpointId : Option String := none
  notifications : Option (List Notification) := none
  requestId : Option String := none
  requestUrl : Option String := none
  requestObject : Option String := none
  responseEncryptionPrivateJwk : Option (Option String) := none
  credentials : Option (List Json) := none
  vp_nonce : Option String := none
  clientId : Option String := none
  walletNonce : Option String := none
  responseCode : Option String := none
  responseUri : Option String := none
  redirectUri : Option (Option String) := none
  parsedWebhook : Option String := none
  transaction_data : Option Json := none
  authorizationServerId : Option String := none
  errorReason : Option String := none
  failureCode : Option String := none
  outcome : Option Json := none
  consumed : Option Bool := none
  consumedAt : Option Time := none

/-- The row after an `UPDATE`. -/
def Session.apply (s : Session) (u : SessionUpdate) : Session :=
  { s with
    expiresAt := u.expiresAt.or s.expiresAt
    useDcApi := u.useDcApi.getD s.useDcApi
    dcApiProtocol := u.dcApiProtocol.or s.dcApiProtocol
    browserOrigin := u.browserOrigin.or s.browserOrigin
    reference := u.reference.or s.reference
    status := u.status.getD s.status
    authorization_code := u.authorization_code.or s.authorization_code
    authorization_code_expires_at :=
      u.authorization_code_expires_at.or s.authorization_code_expires_at
    dpop_jkt := u.dpop_jkt.or s.dpop_jkt
    client_key_jkt := u.client_key_jkt.or s.client_key_jkt
    refresh_token := u.refresh_token.or s.refresh_token
    refresh_token_expires_at := u.refresh_token_expires_at.or s.refresh_token_expires_at
    request_uri := u.request_uri.or s.request_uri
    request_uri_expires_at := u.request_uri_expires_at.or s.request_uri_expires_at
    auth_queries := u.auth_queries.or s.auth_queries
    offer := u.offer.or s.offer
    offerUrl := u.offerUrl.or s.offerUrl
    credentialPayload := u.credentialPayload.or s.credentialPayload
    credentialConfigurationIds :=
      u.credentialConfigurationIds.or s.credentialConfigurationIds
    webhookEndpointId := u.webhookEndpointId.or s.webhookEndpointId
    notifications := u.notifications.getD s.notifications
    requestId := u.requestId.or s.requestId
    requestUrl := u.requestUrl.or s.requestUrl
    requestObject := u.requestObject.or s.requestObject
    responseEncryptionPrivateJwk :=
      u.responseEncryptionPrivateJwk.getD s.responseEncryptionPrivateJwk
    credentials := u.credentials.or s.credentials
    vp_nonce := u.vp_nonce.or s.vp_nonce
    clientId := u.clientId.or s.clientId
    walletNonce := u.walletNonce.or s.walletNonce
    responseCode := u.responseCode.or s.responseCode
    responseUri := u.responseUri.or s.responseUri
    redirectUri := u.redirectUri.getD s.redirectUri
    parsedWebhook := u.parsedWebhook.or s.parsedWebhook
    transaction_data := u.transaction_data.or s.transaction_data
    authorizationServerId := u.authorizationServerId.or s.authorizationServerId
    errorReason := u.errorReason.or s.errorReason
    failureCode := u.failureCode.or s.failureCode
    outcome := u.outcome.or s.outcome
    consumed := u.consumed.getD s.consumed
    consumedAt := u.consumedAt.or s.consumedAt }

@[simp] theorem Session.apply_id (s : Session) (u : SessionUpdate) : (s.apply u).id = s.id := rfl

@[simp] theorem Session.apply_tenantId (s : Session) (u : SessionUpdate) :
    (s.apply u).tenantId = s.tenantId := rfl

@[simp] theorem Session.apply_createdAt (s : Session) (u : SessionUpdate) :
    (s.apply u).createdAt = s.createdAt := rfl

@[simp] theorem Session.apply_txCodeFailedAttempts (s : Session) (u : SessionUpdate) :
    (s.apply u).txCodeFailedAttempts = s.txCodeFailedAttempts := rfl

/-- `stateUpdate`: a terminal status also drops the response decryption key. -/
def stateUpdate (status : SessionStatus) : SessionUpdate :=
  { status := some status
    responseEncryptionPrivateJwk := if isTerminalStatus status then some none else none }

/-- `assertSessionUsable`: why a wallet may not redeem the session, if it may not. -/
def sessionUnusable (session : Session) (now : Time) : Option SessionStatus :=
  if isTerminalStatus session.status then some session.status
  else
    match session.expiresAt with
    | some expiresAt => if expiresAt ≤ now then some .expired else none
    | none => none

end Eudiplo
