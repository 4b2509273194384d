import Eudiplo.Backend.Effects

/-!
# What each request can write

`Writes r c` says that the handler of request `r` may make call `c`; queries are
always allowed.  `program_writes` proves it of every handler, whatever its calls are
answered, so a claim about runs only looks at the writes listed here and reads a
handler's text only where the order of its calls matters.
-/

namespace Eudiplo

open Concurrency Prog

/-! ## Queries and updates -/

def SessionCall.isQuery : SessionCall → Bool
  | .findForTenant .. | .findByIdForInternalFlow _ | .findForWalletRequest _
  | .findIso18013Session _ | .findByAuthorizationCode .. | .findByRefreshToken ..
  | .findByRequestUri .. | .findExpiredSessionsForMaintenance _ => true
  | _ => false

def Call.isQuery : Call → Bool
  | .session c => c.isQuery
  | .interactive (.findForTenant ..) => true
  | .interactive _ => false
  | .chained (.save _) => false
  | .chained _ => true
  | .env (.ask (.verifyPreAuthorizedCode _)) => false
  | .env _ => true

theorem SessionCall.row_of_isQuery {c : SessionCall} (h : c.isQuery = true) (clock : Time)
    (k : String) (s : Option Session) : c.row clock k s = s := by
  cases c <;> first | rfl | cases h

theorem SessionCall.not_applies_of_isQuery {c : SessionCall} (h : c.isQuery = true)
    {clock : Time} {s : Session} {u : SessionUpdate} : ¬c.Applies clock s u := by
  cases c <;> first | exact id | cases h

/-- The update leaves codes, tokens, their bindings and the offer alone. -/
structure SessionUpdate.KeepsGrants (u : SessionUpdate) : Prop where
  authorization_code : u.authorization_code = none := by rfl
  authorization_code_expires_at : u.authorization_code_expires_at = none := by rfl
  dpop_jkt : u.dpop_jkt = none := by rfl
  client_key_jkt : u.client_key_jkt = none := by rfl
  refresh_token : u.refresh_token = none := by rfl
  refresh_token_expires_at : u.refresh_token_expires_at = none := by rfl
  request_uri : u.request_uri = none := by rfl
  request_uri_expires_at : u.request_uri_expires_at = none := by rfl
  auth_queries : u.auth_queries = none := by rfl
  credentialPayload : u.credentialPayload = none := by rfl

/-- The update also leaves the status and the consumption alone. -/
structure SessionUpdate.Bookkeeping (u : SessionUpdate) : Prop extends u.KeepsGrants where
  status : u.status = none := by rfl
  consumed : u.consumed = none := by rfl

/-- The outcome of a presentation: completed and consumed, or failed. -/
structure SessionUpdate.PresentationOutcome (u : SessionUpdate) : Prop
    extends u.KeepsGrants where
  outcome : (u.status = some .completed ∧ u.consumed = some true) ∨
    (u.status = some .failed ∧ u.consumed = none)
  expiresAt : u.expiresAt = none := by rfl
  requestId : u.requestId = none := by rfl

theorem SessionUpdate.KeepsGrants.of_eq {u : SessionUpdate}
    (h : u = { u with
      authorization_code := none, authorization_code_expires_at := none, dpop_jkt := none
      client_key_jkt := none, refresh_token := none, refresh_token_expires_at := none
      request_uri := none, request_uri_expires_at := none, auth_queries := none
      credentialPayload := none }) : u.KeepsGrants := by
  rw [h]
  exact {}

theorem SessionUpdate.Bookkeeping.of_eq {u : SessionUpdate}
    (h : u = { u with
      authorization_code := none, authorization_code_expires_at := none, dpop_jkt := none
      client_key_jkt := none, refresh_token := none, refresh_token_expires_at := none
      request_uri := none, request_uri_expires_at := none, auth_queries := none
      credentialPayload := none, status := none, consumed := none }) : u.Bookkeeping := by
  rw [h]
  exact {}

theorem SessionUpdate.PresentationOutcome.of_eq {u : SessionUpdate}
    (h : u = { u with
      authorization_code := none, authorization_code_expires_at := none, dpop_jkt := none
      client_key_jkt := none, refresh_token := none, refresh_token_expires_at := none
      request_uri := none, request_uri_expires_at := none, auth_queries := none
      credentialPayload := none, expiresAt := none, requestId := none })
    (houtcome : (u.status = some .completed ∧ u.consumed = some true) ∨
      (u.status = some .failed ∧ u.consumed = none)) : u.PresentationOutcome := by
  rw [h] at houtcome ⊢
  exact { outcome := houtcome }

theorem stateUpdate_keepsGrants (status : SessionStatus) : (stateUpdate status).KeepsGrants :=
  .of_eq rfl

/-! ## The writes of a request -/

def Request.presents : Request → Bool
  | .presentation .. | .deviceResponse .. | .interactiveFollowUp .. => true
  | _ => false

def Request.fetches : Request → Bool
  | .credential _ | .retrievePresentation .. => true
  | _ => false

/-- Requests that write into sessions what no authorization decision reads. -/
def Request.keepsBooks : Request → Bool
  | .createOffer .. | .interactiveInitial .. | .interactiveFollowUp .. | .credential _
  | .notification _ | .createPresentation .. | .retrievePresentation ..
  | .managedAuthorize .. | .verifierCallback .. => true
  | _ => false

def Request.notifies : Request → Bool
  | .credential _ | .notification _ => true
  | _ => false

def Request.opens : Request → Bool
  | .interactiveInitial .. | .interactiveFollowUp .. | .createPresentation ..
  | .managedAuthorize .. => true
  | _ => false

def Request.isInteractive : Request → Bool
  | .interactiveInitial .. | .interactiveFollowUp .. | .completeWeb .. => true
  | _ => false

def Request.isHosted : Request → Bool
  | .hostedPar .. | .chainedAuthorize _ | .managedAuthorize .. | .upstreamCallback _
  | .verifierCallback .. | .hostedToken .. => true
  | _ => false

def boundCodeUpdate (s : InteractiveAuthSession) (code : String) (t : Time) : SessionUpdate :=
  { authorization_code := some code
    authorization_code_expires_at := some (t.plusSeconds authorizationCodeLifetimeSeconds)
    auth_queries := some
      { code_challenge := s.codeChallenge
        code_challenge_method := s.codeChallengeMethod } }

def issuedCodeUpdate (code : String) (t : Time) : SessionUpdate :=
  { authorization_code := some code
    authorization_code_expires_at := some (t.plusSeconds authorizationCodeLifetimeSeconds) }

/-- **Routine calls**: queries, bookkeeping, presentations, and the tables of the other
endpoints. -/
inductive Routine : Request → Call → Prop where
  | query {r : Request} {c : Call} (h : c.isQuery = true) : Routine r c
  | bookkeeping {r : Request} {tenantId id : String} {u : SessionUpdate}
      (hr : r.keepsBooks = true) (h : u.Bookkeeping) (hid : u.requestId = none)
      (hn : u.notifications = none ∨ r.notifies = true) :
    Routine r (.session (.updateForTenant tenantId id u))
  | opening {r : Request} {tenantId id : String} {u : SessionUpdate} (hr : r.opens = true)
      (h : u.Bookkeeping) (hn : u.notifications = none) :
    Routine r (.session (.create id tenantId u))
  | present {r : Request} {tenantId id : String} {u : SessionUpdate} (hr : r.presents = true)
      (h : u.PresentationOutcome) (hn : u.notifications = none) :
    Routine r (.session (.updateUnconsumedForTenant tenantId id u))
  | fetched {r : Request} {tenantId id : String} (hr : r.fetches = true) :
    Routine r (.session (.changeStateFrom tenantId id [.active] (stateUpdate .fetched)))
  | interactive {r : Request} {c : InteractiveCall} (hr : r.isInteractive = true) :
    Routine r (.interactive c)
  | hosted {r : Request} {c : ChainedCall} (hr : r.isHosted = true) : Routine r (.chained c)

/-- **The calls a request can make**: routine ones, and the ones it is there for. -/
inductive Writes : Request → Call → Prop where
  | routine {r : Request} {c : Call} (h : Routine r c) : Writes r c
  | offer {tenantId id : String} {request : OfferRequest} {code server : Option String}
      {expiresAt : Option Time} :
    Writes (.createOffer tenantId request)
      (.session (.create id tenantId (offerSession request code server expiresAt)))
  | push {q : PushedAuthorizationRequest} {id uri : String} {expiresAt : Time}
      {jkt : Option String} :
    Writes (.pushAuthorization q)
      (.session (.updateForTenant q.tenantId id (parValues q uri expiresAt jkt)))
  | pushNew {q : PushedAuthorizationRequest} {id uri : String} {expiresAt : Time}
      {jkt : Option String} :
    Writes (.pushAuthorization q)
      (.session (.create id q.tenantId (parValues q uri expiresAt jkt)))
  | redeemUri {q : AuthorizeRequest} {id : String} {expiresAt t : Time} :
    Writes (.authorize q) (.session (.consumeRequestUri q.tenantId id expiresAt t))
  | issueCode {q : AuthorizeRequest} {id code : String} {t : Time} :
    Writes (.authorize q)
      (.session (.updateForTenant q.tenantId id (issuedCodeUpdate code t)))
  | evaluate {q : AccessTokenRequest} {v : VerifyPreAuthorizedCode} :
    Writes (.token q) (.env (.ask (.verifyPreAuthorizedCode v)))
  | attempt {q : AccessTokenRequest} {id : String} :
    Writes (.token q) (.session (.incrementFailedTxCodeAttempts q.tenantId id))
  | redeem {q : AccessTokenRequest} {tenantId id : String} {p : PreparedToken}
      {e : Option Time} :
    Writes (.token q) (.session (.updateUnconsumedForTenant tenantId id (redeemUpdate p e)))
  | bindCode {tenantId id : String} {q : InteractiveFollowUpRequest}
      {s : InteractiveAuthSession} {code : String} {t : Time} :
    Writes (.interactiveFollowUp tenantId q)
      (.session (.updateForTenant s.tenantId id (boundCodeUpdate s code t)))
  | notified {q : NotificationRequest} {tenantId id : String} :
    Writes (.notification q) (.session (.changeState tenantId id (stateUpdate q.event.status)))
  | cancelled {command : CancelSessionCommand} {tenantId id : String} :
    Writes (.cancel command)
      (.session (.updateUnconsumedForTenant tenantId id (stateUpdate .cancelled)))
  | overdue {tenantId id : String} :
    Writes .cleanup
      (.session (.changeStateFrom tenantId id openSessionStatuses (stateUpdate .expired)))
  | outlived {tenantId : String} {cutoff : Time} :
    Writes .cleanup (.session (.deleteSessionsCreatedBefore tenantId cutoff))
  | anonymized {tenantId : String} {cutoff : Time} :
    Writes .cleanup (.session (.anonymizeSessionsCreatedBefore tenantId cutoff))
  | orphaned {known : List String} {cutoff : Time} :
    Writes .cleanup (.session (.deleteOrphanedSessionsCreatedBefore known cutoff))

/-! ## Awaiting one call -/

section Awaits

variable {P : Call → Prop}

@[simp] theorem only_sessions {c : SessionCall} : (sessions c).Only P ↔ P (.session c) :=
  only_invoke

@[simp] theorem only_interactiveSessions {c : InteractiveCall} :
    (interactiveSessions c).Only P ↔ P (.interactive c) := only_invoke

@[simp] theorem only_chainedSessions {c : ChainedCall} :
    (chainedSessions c).Only P ↔ P (.chained c) := only_invoke

@[simp] theorem only_now : now.Only P ↔ P (.env .now) := only_invoke

@[simp] theorem only_fresh : fresh.Only P ↔ P (.env .fresh) := only_invoke

theorem only_ask {q : Question} (h : P (.env (.ask q))) : (ask q).Only P :=
  Only.bind (only_invoke.mpr h) fun _ => only_ofExcept _

theorem only_orThrow {α : Type} {p : Api α} {e : ApiError} (h : p.Only P) :
    (orThrow p e).Only P :=
  h.attempt.bind fun r => by cases r <;> trivial

theorem only_orUndefined {p : Api Session} (h : p.Only P) : (orUndefined p).Only P := by
  refine h.attempt.bind fun r => ?_
  rcases r with (_ | _ | _ | _ | _ | _ | _) | _ <;> trivial

theorem only_lookup {key : Option String} {find : String → Api (Option Session)}
    (h : ∀ k, (find k).Only P) : (lookup key find).Only P :=
  Only.ensure fun _ => Only.bind (h _) fun _ => only_getOrFail _ _

end Awaits

/-! ## Handlers that only read -/

/-- Handlers and parts of handlers that make no writes. -/
abbrev Reads {α : Type} (p : Api α) : Prop := p.Only fun c => c.isQuery = true

theorem Reads.routine {α : Type} {p : Api α} (h : Reads p) (r : Request) :
    p.Only (Routine r) :=
  Only.mono (fun _ => Routine.query) h

theorem only_routine {α : Type} {p : Api α} {r : Request} (h : p.Only (Routine r)) :
    p.Only (Writes r) :=
  h.mono fun _ => Writes.routine

theorem Reads.writes {α : Type} {p : Api α} (h : Reads p) (r : Request) : p.Only (Writes r) :=
  only_routine (h.routine r)

@[simp] theorem reads_now : Reads now := only_now.mpr rfl

@[simp] theorem reads_fresh : Reads fresh := only_fresh.mpr rfl

theorem reads_ask (q : Question) (h : (Call.env (.ask q)).isQuery = true) :
    Reads (ask q) := only_ask h

theorem reads_getForTenant (tenantId : String) (id : Option String)
    (scope : Option SessionType) : Reads (getForTenant tenantId id scope) :=
  only_lookup fun _ => only_sessions.mpr rfl

theorem reads_getForWalletRequest (nonce : String) : Reads (getForWalletRequest nonce) :=
  only_lookup fun _ => only_sessions.mpr rfl

theorem reads_getForInternalFlow (id : String) : Reads (getForInternalFlow id) :=
  only_lookup fun _ => only_sessions.mpr rfl

theorem reads_getIso18013 (id : String) : Reads (getIso18013 id) :=
  only_lookup fun _ => only_sessions.mpr rfl

theorem reads_findSession (tenantId : String) (parsed : ParsedAccessTokenRequest) :
    Reads (findSession tenantId parsed) := by
  unfold findSession
  split
  · exact only_orThrow (only_lookup fun _ => only_sessions.mpr rfl)
  · exact only_orThrow (only_lookup fun _ => only_sessions.mpr rfl)

theorem reads_assertCodeRedeemable (grant : Grant) (session : Session) :
    Reads (assertCodeRedeemable grant session) := by
  unfold assertCodeRedeemable
  split
  · trivial
  · exact Only.ensure fun _ => reads_now.bind fun _ =>
      Only.bind (only_ofExcept _) fun _ => only_ensure _ _

theorem reads_verifyClientAttestation (w : World) (tenantId : String)
    (config : IssuanceConfiguration) (attestation : Option ClientAttestation)
    (toError : String → ApiError) :
    Reads (verifyClientAttestation w tenantId config attestation toError) :=
  (reads_ask _ rfl).bind fun r => by cases r <;> trivial

theorem reads_tokenConfiguration (tenantId : String) (grant : Grant) :
    Reads (tokenConfiguration tenantId grant) :=
  (reads_ask _ rfl).bind fun _ => Only.ensure fun _ =>
    (reads_ask _ rfl).bind fun _ =>
    trivial

theorem reads_signingKeyId (tenantId : String) (configured : Option String) :
    Reads (signingKeyId tenantId configured) := by
  unfold signingKeyId
  split
  · trivial
  · exact reads_ask _ rfl

theorem reads_createTokenResponse (w : World) (q : AccessTokenRequest)
    (parsed : ParsedAccessTokenRequest) (session : Session) (config : IssuanceConfiguration)
    (dpopJkt : Option String) :
    Reads (createTokenResponse w q parsed session config dpopJkt) :=
  (reads_signingKeyId _ _).bind fun _ => (reads_ask _ rfl).bind fun _ =>
    Only.bind (only_ofExcept _) fun _ => (reads_ask _ rfl).bind fun r => by cases r <;> trivial

theorem reads_issuedRefreshExpiry (config : IssuanceConfiguration) (response : TokenResponse) :
    Reads (issuedRefreshExpiry config response) := by
  unfold issuedRefreshExpiry
  split
  · exact reads_now.bind fun _ => trivial
  · trivial

theorem reads_hostedServerConfig (tenantId : String) (server : HostedServer) :
    Reads (hostedServerConfig tenantId server) :=
  (reads_ask _ rfl).bind fun _ => only_getOrFail _ _

theorem reads_resolveWebhook (session : Session) (endpointId : Option String) :
    Reads (resolveWebhook session endpointId) := by
  unfold resolveWebhook
  split
  · trivial
  · split
    · exact reads_ask _ rfl
    · trivial

theorem reads_resolveSessionWebhook (session : Session) :
    Reads (resolveSessionWebhook session) := by
  refine Only.bind ?_ fun _ => reads_resolveWebhook _ _
  unfold sessionWebhookEndpoint
  split
  · trivial
  · exact (reads_ask _ rfl).bind fun _ => trivial
  · trivial

theorem reads_resolveFailureWebhook (session : Session) :
    Reads (resolveFailureWebhook session) :=
  (reads_resolveSessionWebhook session).attempt.bind fun r => by cases r <;> trivial

theorem reads_publishResult (webhook : Option String) (sessionId : String)
    (status : SessionStatus) : Reads (publishResult webhook sessionId status) := by
  unfold publishResult
  split
  · trivial
  · exact (reads_ask _ rfl).attempt.bind fun r => by cases r <;> trivial

/-! ## The built-in authorization server -/

theorem reads_newAuthorizationCode (flow : OfferFlow) : Reads (newAuthorizationCode flow) := by
  unfold newAuthorizationCode
  split
  · exact reads_fresh.bind fun _ => trivial
  · trivial

theorem reads_validateOfferClaims (tenantId : String) (request : OfferRequest) :
    Reads (validateOfferClaims tenantId request) := by
  refine Only.each fun (id, source) _ => ?_
  cases source with
  | inline claims => exact reads_ask _ rfl
  | attributeProvider id => trivial
  | webhook url => trivial

theorem reads_offerExpiry (tenantId : String) (request : OfferRequest) :
    Reads (offerExpiry tenantId request) := by
  refine Only.bind ?_ fun seconds => ?_
  · unfold offerLifetimeSeconds
    split
    · trivial
    · exact (reads_ask _ rfl).bind fun _ => trivial
  · split
    · exact reads_now.bind fun _ => trivial
    · trivial

theorem writes_createCredentialOffer (tenantId : String) (request : OfferRequest) :
    (createCredentialOffer tenantId request).Only (Writes (.createOffer tenantId request)) := by
  unfold createCredentialOffer
  refine (reads_fresh.writes _).bind fun id => ((reads_ask _ rfl).writes _).bind fun selected =>
    ((reads_newAuthorizationCode _).writes _).bind fun code =>
    Only.bind (only_ofExcept _) fun grants =>
    ((reads_validateOfferClaims _ _).writes _).bind fun _ =>
    ((reads_offerExpiry _ _).writes _).bind fun expiresAt =>
    Only.bind (only_sessions.mpr .offer) fun session =>
    ((reads_ask _ rfl).writes _).bind fun encoded => ?_
  exact Only.bind (only_sessions.mpr
    (.routine (.bookkeeping rfl (.of_eq rfl) rfl (.inl rfl)))) fun _ => trivial

theorem reads_verifyPushedRequest (w : World) (q : PushedAuthorizationRequest) :
    Reads (verifyPushedRequest w q) :=
  (reads_ask _ rfl).bind fun _ => (reads_ask _ rfl).bind fun _ =>
    (reads_verifyClientAttestation _ _ _ _ _).bind fun _ =>
    Only.bind (only_ofExcept _) fun _ => (reads_ask _ rfl).bind fun r => by cases r <;> trivial

theorem reads_assertIssuerStateRedeemable (q : PushedAuthorizationRequest) :
    Reads (assertIssuerStateRedeemable q) := by
  unfold assertIssuerStateRedeemable
  split
  · refine (only_orUndefined (reads_getForTenant _ _ _)).bind fun offer => ?_
    split
    · exact reads_now.bind fun _ => only_ofExcept _
    · trivial
  · trivial

theorem writes_pushAuthorizationRequest (w : World) (q : PushedAuthorizationRequest) :
    (pushAuthorizationRequest w q).Only (Writes (.pushAuthorization q)) := by
  unfold pushAuthorizationRequest
  refine ((reads_verifyPushedRequest w q).writes _).bind fun _ =>
    ((reads_assertIssuerStateRedeemable q).writes _).bind fun _ =>
    (reads_fresh.writes _).bind fun _ => (reads_now.writes _).bind fun _ =>
    Only.bind ?_ fun _ => trivial
  refine Only.bind (Only.onlyIf (only_sessions.mpr .push)) fun bound => ?_
  split
  · exact (reads_fresh.writes _).bind fun _ =>
      Only.bind (only_sessions.mpr .pushNew) fun _ => trivial
  · trivial

theorem reads_getByRequestUri (tenantId uri : String) :
    Reads (orThrow (getByRequestUri tenantId uri)
      (.oauthError .invalid_request_uri "Unknown request_uri")) :=
  only_orThrow (only_lookup fun _ => only_sessions.mpr rfl)

theorem writes_authorizePushedRequest (w : World) (q : AuthorizeRequest) :
    (authorizePushedRequest w q).Only (Writes (.authorize q)) := by
  have hredeem (s : Session) :
      (redeemRequestUri q.tenantId s).Only (Writes (.authorize q)) := by
    refine (reads_now.writes _).bind fun t => ?_
    split
    · exact only_sessions.mpr .redeemUri
    · trivial
  have hissue (s : Session) : (issueCode q.tenantId s).Only (Writes (.authorize q)) :=
    (reads_fresh.writes _).bind fun _ => (reads_now.writes _).bind fun _ =>
      Only.bind (only_sessions.mpr .issueCode) fun _ => trivial
  unfold authorizePushedRequest
  refine Only.ensure fun _ => ((reads_getByRequestUri _ _).writes _).bind fun s =>
    Only.bind (only_ofExcept _) fun _ => ?_
  split
  · trivial
  · refine (reads_now.writes _).bind fun t => ?_
    split
    · trivial
    · trivial
    · refine (hredeem s).bind fun redeemed => ?_
      split
      · exact (hissue s).bind fun _ => trivial
      · trivial

/-- The calls that verify a grant: it counts attempts and changes nothing else. -/
inductive Verifies (q : AccessTokenRequest) : Call → Prop where
  | query {c : Call} (h : c.isQuery = true) : Verifies q c
  | evaluate {v : VerifyPreAuthorizedCode} :
    Verifies q (.env (.ask (.verifyPreAuthorizedCode v)))
  | attempt {id : String} :
    Verifies q (.session (.incrementFailedTxCodeAttempts q.tenantId id))

theorem Verifies.writes {q : AccessTokenRequest} {c : Call} (h : Verifies q c) :
    Writes (.token q) c := by
  cases h with
  | query h => exact .routine (.query h)
  | evaluate => exact .evaluate
  | attempt => exact .attempt

theorem verifies_verifyGrant (q : AccessTokenRequest) (parsed : ParsedAccessTokenRequest)
    (s : Session) (config : IssuanceConfiguration) :
    (verifyGrant q parsed s config).Only (Verifies q) := by
  have hask (question : Question) (h : (Call.env (.ask question)).isQuery = true) :
      (ask question).Only (Verifies q) :=
    Only.mono (fun _ => Verifies.query) (reads_ask question h)
  have herror (e : LibraryError) (n : Nat) (tx : Option String) :
      (preAuthorizedCodeError e q.tenantId s n tx).Only (Verifies q) := by
    unfold preAuthorizedCodeError
    simp only
    split
    · refine Only.bind (Only.bind (only_sessions.mpr .attempt) fun n =>
        Only.bind (only_getOrFail _ _) fun _ => trivial) fun r => ?_
      split <;> trivial
    · trivial
  unfold verifyGrant
  split
  · refine Only.ensure fun _ => (hask _ rfl).bind fun _ =>
      Only.bind (only_ask .evaluate) fun r => ?_
    cases r with
    | ok dpop => trivial
    | error e => exact herror e _ _
  · exact (hask _ rfl).bind fun r => by cases r <;> trivial
  · exact (hask _ rfl).bind fun r => by cases r <;> trivial

theorem writes_prepareToken (w : World) (q : AccessTokenRequest) :
    (prepareToken w q).Only (Writes (.token q)) := by
  have hverify (parsed : ParsedAccessTokenRequest) (s : Session)
      (config : IssuanceConfiguration) :
      (verifyGrant q parsed s config).Only (Writes (.token q)) :=
    Only.mono (fun _ => Verifies.writes) (verifies_verifyGrant q parsed s config)
  unfold prepareToken
  exact Only.bind (only_ofExcept _) fun _ => ((reads_findSession _ _).writes _).bind fun _ =>
    ((reads_assertCodeRedeemable _ _).writes _).bind fun _ =>
    ((reads_tokenConfiguration _ _).writes _).bind fun _ =>
    ((reads_verifyClientAttestation _ _ _ _ _).writes _).bind fun _ =>
    Only.bind (only_ofExcept _) fun _ => Only.bind (only_ofExcept _) fun _ =>
    Only.bind (only_ofExcept _) fun _ => Only.bind (only_ofExcept _) fun _ =>
    (hverify _ _ _).bind fun _ =>
    ((reads_createTokenResponse _ _ _ _ _ _).writes _).bind fun _ => trivial

theorem writes_exchangeAccessToken (w : World) (q : AccessTokenRequest) :
    (exchangeAccessToken w q).Only (Writes (.token q)) := by
  refine (writes_prepareToken w q).bind fun p => ?_
  unfold commitToken
  split
  · trivial
  · exact ((reads_issuedRefreshExpiry _ _).writes _).bind fun _ =>
      Only.bind (only_sessions.mpr .redeem) fun _ =>
      Only.ensure fun _ => trivial

/-! ## Presentations -/

section Presentations

variable {r : Request}

theorem routine_createAuthorizationRequest (hr : r.keepsBooks = true) (sessionId : String)
    (noRedirect : Bool) :
    (createAuthorizationRequest sessionId noRedirect).Only (Routine r) := by
  unfold createAuthorizationRequest
  refine ((reads_getForInternalFlow _).routine _).bind fun s =>
    Only.bind (Only.onlyIf (only_sessions.mpr
      (.bookkeeping hr (.of_eq rfl) rfl (.inl rfl)))) fun _ =>
    ((reads_ask _ rfl).routine _).bind fun config => (reads_fresh.routine _).bind fun nonce =>
    Only.bind (only_sessions.mpr (.bookkeeping hr (.of_eq rfl) rfl (.inl rfl))) fun _ =>
    ((reads_ask _ rfl).routine _).bind fun key => ?_
  exact Only.bind (only_sessions.mpr (.bookkeeping hr (.of_eq rfl) rfl (.inl rfl))) fun _ =>
    (reads_ask _ rfl).routine _

theorem routine_createRequest (hr : r.keepsBooks = true) (ho : r.opens = true) (w : World)
    (requestId : String) (values : PresentationRequestOptions) (tenantId : String)
    (useDcApi : Bool) :
    (createRequest w requestId values tenantId useDcApi).Only (Routine r) := by
  have hwebhook (config : PresentationConfig) :
      Reads (onlyIf (truthy config.webhookEndpointId) none
        (ask (.webhookEndpoint tenantId config.webhookEndpointId))) :=
    Only.onlyIf (reads_ask _ rfl)
  have hsession : Reads (requestSession values) := by
    unfold requestSession
    split
    · trivial
    · exact reads_fresh
  unfold createRequest
  refine ((reads_ask _ rfl).routine _).bind fun config => (hsession.routine _).bind fun id => ?_
  split
  · refine Only.ensure fun _ => (reads_fresh.routine _).bind fun walletNonce =>
      (reads_fresh.routine _).bind fun nonce => ((reads_ask _ rfl).routine _).bind fun _ =>
      (reads_now.routine _).bind fun t => ?_
    split
    · exact ((hwebhook config).routine _).bind fun _ =>
        Only.bind (only_sessions.mpr (.opening ho (.of_eq rfl) rfl)) fun _ => trivial
    · exact Only.bind (only_sessions.mpr
        (.bookkeeping hr (.of_eq rfl) rfl (.inl rfl))) fun _ => trivial
  · refine (reads_fresh.routine _).bind fun walletNonce =>
      ((reads_ask _ rfl).routine _).bind fun _ =>
      (reads_now.routine _).bind fun t => ?_
    split
    · exact ((hwebhook config).routine _).bind fun _ =>
        Only.bind (only_sessions.mpr (.opening ho (.of_eq rfl) rfl)) fun _ =>
        (routine_createAuthorizationRequest hr _ _).bind fun _ =>
        Only.bind (only_sessions.mpr (.bookkeeping hr (.of_eq rfl) rfl (.inl rfl))) fun _ => trivial
    · exact Only.bind (only_sessions.mpr
        (.bookkeeping hr (.of_eq rfl) rfl (.inl rfl))) fun _ => trivial

theorem routine_retrievePresentationRequest (nonce : String) (noRedirect : Bool) :
    (retrievePresentationRequest nonce noRedirect).Only
      (Routine (.retrievePresentation nonce noRedirect)) := by
  have hserve (s : Session) : (serveRequestObject s noRedirect).Only
      (Routine (.retrievePresentation nonce noRedirect)) := by
    unfold serveRequestObject
    split
    · exact Only.bind (Only.onlyIf
        (only_sessions.mpr (.bookkeeping rfl (.of_eq rfl) rfl (.inl rfl)))) fun _ => trivial
    · exact (routine_createAuthorizationRequest rfl _ _).bind fun _ =>
        Only.bind (only_sessions.mpr
          (.bookkeeping rfl (.of_eq rfl) rfl (.inl rfl))) fun _ => trivial
  unfold retrievePresentationRequest
  exact ((reads_getForWalletRequest _).routine _).bind fun s => (reads_now.routine _).bind fun _ =>
    Only.bind (only_ofExcept _) fun _ => (hserve s).bind fun _ =>
    Only.bind (only_sessions.mpr (.fetched rfl)) fun _ => trivial

/-- The calls that answer the request of session `k`: its outcome is the only write. -/
inductive Responds (k : String) : Call → Prop where
  | query {c : Call} (h : c.isQuery = true) : Responds k c
  | outcome {tenantId : String} {u : SessionUpdate} (h : u.PresentationOutcome)
      (hn : u.notifications = none) :
    Responds k (.session (.updateUnconsumedForTenant tenantId k u))

theorem Responds.routine (hr : r.presents = true) {k : String} {c : Call} (h : Responds k c) :
    Routine r c := by
  cases h with
  | query h => exact .query h
  | outcome h hn => exact .present hr h hn

theorem Reads.responds {α : Type} {p : Api α} (h : Reads p) (k : String) : p.Only (Responds k) :=
  h.mono fun _ => .query

theorem responds_failPresentation (session : Session) (failure : PresentationFailure)
    (webhook : Option String) :
    (failPresentation session failure webhook).Only (Responds session.id) := by
  unfold failPresentation
  refine Only.bind (only_sessions.mpr (.outcome (.of_eq rfl (.inr ⟨rfl, rfl⟩)) rfl)) fun b => ?_
  split
  · exact ((reads_publishResult _ _ _).responds _).bind fun _ => trivial
  · trivial

theorem responds_handleWalletError (session : Session) (e : WalletError) :
    (handleWalletError session e).Only (Responds session.id) := by
  unfold handleWalletError
  refine ((reads_resolveFailureWebhook _).responds _).bind fun _ =>
    (responds_failPresentation _ _ _).bind fun failure => ?_
  cases failure with
  | none => trivial
  | some redirect =>
    simp only
    split <;> trivial

theorem responds_rejectPresentation (session : Session) (failure : PresentationFailure)
    (webhook : Option String) :
    (rejectPresentation session failure webhook).Only (Responds session.id) := by
  refine (responds_failPresentation _ _ _).bind fun recorded => ?_
  simp only
  split <;> trivial

theorem responds_processPresentation (session : Session) (sendResponse : Bool) (token : Json)
    (state : Option String) :
    (processPresentation session sendResponse token state).Only (Responds session.id) := by
  have hcomplete (cs : List Json) (code : String) :
      (completePresentation session cs code).Only (Responds session.id) :=
    (reads_now.responds _).bind fun t =>
      Only.bind (only_sessions.mpr (.outcome (.of_eq rfl (.inl ⟨rfl, rfl⟩)) rfl)) fun _ =>
      only_ensure _ _
  unfold processPresentation
  refine ((reads_ask _ rfl).responds _).bind fun config =>
    ((reads_resolveWebhook _ _).responds _).bind fun webhook =>
    ((reads_ask _ rfl).responds _).bind fun result => ?_
  cases result with
  | error failure => exact responds_rejectPresentation _ _ _
  | ok credentials =>
    refine (reads_fresh.responds _).bind fun code => ?_
    split
    · exact responds_rejectPresentation _ _ _
    · refine (hcomplete _ _).bind fun _ => ((reads_publishResult _ _ _).responds _).bind
        fun published => ?_
      simp only
      split
      · trivial
      · split <;> trivial

theorem reads_decryptAuthorizationResponse (w : World) (session : Session)
    (body : AuthorizationResponse) : Reads (decryptAuthorizationResponse w session body) := by
  unfold decryptAuthorizationResponse
  split
  · split
    · trivial
    · split <;> trivial
    · trivial
  · exact Only.ensure fun _ => reads_ask _ rfl

theorem routine_getResponse (hr : r.presents = true) (w : World) (body : AuthorizationResponse)
    (nonce : String) : (getResponse w body nonce).Only (Routine r) := by
  unfold getResponse
  refine ((reads_getForWalletRequest _).routine _).bind fun s =>
    Only.ensure fun _ => (reads_now.routine _).bind fun t =>
    Only.bind (only_ofExcept _) fun _ => ?_
  split
  · exact (responds_handleWalletError _ _).mono fun _ => Responds.routine hr
  · refine ((reads_decryptAuthorizationResponse w s body).routine _).bind fun decrypted => ?_
    cases decrypted with
    | walletError e => exact (responds_handleWalletError _ _).mono fun _ => Responds.routine hr
    | malformed issues => trivial
    | vpToken token state =>
      exact Only.ensure fun _ =>
        (responds_processPresentation _ _ _ _).mono fun _ => Responds.routine hr

theorem routine_processDeviceResponse (hr : r.presents = true) (sessionId encrypted : String) :
    (processDeviceResponse sessionId encrypted).Only (Routine r) := by
  have hfail (s : Session) (reason : String) (failure : PresentationFailure) :
      (failDeviceSession s reason failure).Only (Routine r) := by
    unfold failDeviceSession
    refine Only.bind (only_sessions.mpr
      (.present hr (.of_eq rfl (.inr ⟨rfl, rfl⟩)) rfl)) fun b => ?_
    split
    · exact ((reads_resolveFailureWebhook _).routine _).bind fun _ =>
        ((reads_publishResult _ _ _).routine _).bind fun _ => trivial
    · trivial
  have hcomplete (s : Session) (cs : List Json) (code : String) :
      (completeDeviceSession s cs code).Only (Routine r) :=
    (reads_now.routine _).bind fun t =>
      Only.bind (only_sessions.mpr (.present hr (.of_eq rfl (.inl ⟨rfl, rfl⟩)) rfl)) fun _ =>
      only_ensure _ _
  unfold processDeviceResponse
  refine (Reads.routine (only_orThrow (reads_getIso18013 _)) _).bind fun s =>
    Only.ensure fun _ => (reads_now.routine _).bind fun t =>
    Only.bind (only_ofExcept _) fun _ => ((reads_ask _ rfl).routine _).bind fun opened => ?_
  cases opened with
  | error reason => exact (hfail _ _ _).bind fun _ => trivial
  | ok token =>
    refine ((reads_ask _ rfl).routine _).bind fun config => ((reads_ask _ rfl).routine _).bind
      fun result => ?_
    cases result with
    | error failure => exact (hfail _ _ _).bind fun _ => trivial
    | ok credentials =>
      refine (reads_fresh.routine _).bind fun code => (hcomplete _ _ _).bind fun _ =>
        ((reads_resolveSessionWebhook _).routine _).bind fun _ =>
        ((reads_publishResult _ _ _).routine _).bind fun published => ?_
      simp only
      split <;> trivial

end Presentations

/-! ## Credentials, cancellation and maintenance -/

theorem routine_getCredential (q : CredentialRequest) :
    (getCredential q).Only (Routine (.credential q)) := by
  have hsession : Reads (tokenSession q.tenantId q.accessToken) :=
    (reads_ask _ rfl).bind fun _ => reads_getForTenant _ _ _
  unfold getCredential
  refine (hsession.routine _).bind fun s => ((reads_ask _ rfl).routine _).bind fun result => ?_
  cases result with
  | deferred transactionId => trivial
  | issued configurationId response =>
    exact (reads_fresh.routine _).bind fun _ =>
      Only.bind (only_sessions.mpr (.bookkeeping rfl (.of_eq rfl) rfl (.inr rfl))) fun _ =>
      Only.bind (only_sessions.mpr (.fetched rfl)) fun _ => trivial

theorem writes_handleNotification (q : NotificationRequest) :
    (handleNotification q).Only (Writes (.notification q)) := by
  have hsession : Reads (notificationSession q) := by
    refine (only_orUndefined ((reads_ask _ rfl).bind fun _ => reads_getForTenant _ _ _)).bind
      fun s => ?_
    cases s <;> trivial
  unfold handleNotification
  refine (hsession.writes _).bind fun s => ?_
  unfold handleCredentialNotification recordCredentialNotification
  refine Only.bind (Only.bind (only_getOrFail _ _) fun n =>
      Only.bind (only_sessions.mpr (.routine (.bookkeeping rfl (.of_eq rfl) rfl (.inr rfl))))
        fun _ => trivial) fun n =>
    (Reads.writes (Only.onlyIf (reads_ask _ rfl)) _).bind fun endpoint =>
    Only.bind (only_sessions.mpr .notified) fun _ => ?_
  cases endpoint with
  | none => trivial
  | some url =>
    exact (Reads.writes (Only.attempt (reads_ask _ rfl)) _).bind fun result => by
      cases result <;> trivial

theorem writes_cancelSession (command : CancelSessionCommand) :
    (cancelSession command).Only (Writes (.cancel command)) := by
  unfold cancelSession
  refine ((reads_getForTenant _ _ _).writes _).bind fun s =>
    Only.bind (only_sessions.mpr .cancelled) fun cancelled => ?_
  split
  · exact (reads_ask _ rfl).writes _
  · exact ((reads_getForTenant _ _ _).writes _).bind fun _ => trivial

theorem writes_cleanupSessions : cleanupSessions.Only (Writes .cleanup) := by
  have hexpire (s : SessionRef) : (expireSession s).Only (Writes .cleanup) := by
    refine Only.bind ?_ fun _ => trivial
    unfold changeStateExecuteFrom
    split
    · trivial
    · exact only_sessions.mpr .overdue
  have htenant (tenant : TenantRetention) : (cleanupTenant tenant).Only (Writes .cleanup) := by
    refine (reads_now.writes _).bind fun t => ?_
    simp only
    split
    · exact Only.bind (only_sessions.mpr .anonymized) fun _ => trivial
    · exact Only.bind (only_sessions.mpr .outlived) fun _ => trivial
  have horphans (tenants : List TenantRetention) (ttl : Nat) :
      (cleanupOrphans tenants ttl).Only (Writes .cleanup) := by
    unfold cleanupOrphans
    split
    · trivial
    · exact (reads_now.writes _).bind fun _ =>
        Only.bind (only_sessions.mpr .orphaned) fun _ => trivial
  unfold cleanupSessions
  exact (reads_now.writes _).bind fun before =>
    Only.bind (only_sessions.mpr (.routine (.query rfl))) fun expired =>
    (Only.each fun s _ => hexpire s).bind fun _ =>
      ((reads_ask _ rfl).writes _).bind fun retention =>
    (Only.each fun tenant _ => htenant tenant).bind fun _ => horphans _ _

/-! ## The interactive authorization endpoint -/

section Interactive

variable {r : Request}

theorem routine_startPresentation (hr : r.keepsBooks = true) (ho : r.opens = true) (w : World)
    (authSession tenantId configId : String) :
    (startPresentation w authSession tenantId configId).Only (Routine r) := by
  refine (Only.attempt ?_).bind fun result => ?_
  · exact Only.bind (only_sessions.mpr (.opening ho (.of_eq rfl) rfl)) fun _ =>
      routine_createRequest hr ho _ _ _ _ _
  · cases result <;> trivial

theorem routine_startWeb (hr : r.isInteractive = true) (authSession tenantId : String) :
    (startWeb authSession tenantId).Only (Routine r) :=
  (reads_fresh.routine _).bind fun _ => (reads_now.routine _).bind fun _ =>
    Only.bind (only_interactiveSessions.mpr (.interactive hr)) fun _ => trivial

theorem routine_executeIaeAction (hr : r.isInteractive = true) (hb : r.keepsBooks = true)
    (ho : r.opens = true) (w : World) (authSession tenantId : String) (action : IaeAction)
    (supportedTypes : String) :
    (executeIaeAction w authSession tenantId action supportedTypes).Only (Routine r) := by
  unfold executeIaeAction
  split
  · split
    · exact routine_startPresentation hb ho _ _ _ _
    · trivial
  · split
    · exact routine_startWeb hr _ _
    · trivial

theorem reads_offerRedemptionError (tenantId issuerState : String) :
    Reads (offerRedemptionError tenantId issuerState) := by
  unfold offerRedemptionError
  refine (only_orUndefined (reads_getForTenant _ _ _)).bind fun offer => ?_
  cases offer with
  | none => trivial
  | some offer =>
    simp only
    split
    · trivial
    · exact reads_now.bind fun t => by split <;> trivial

theorem reads_configuredActions (tenantId : String) (details : Option (List Json)) :
    Reads (configuredActions tenantId details) := by
  unfold configuredActions
  split
  · split
    · trivial
    · exact (reads_ask _ rfl).bind fun actions => by split <;> trivial
  · trivial

theorem reads_fallbackPresentationConfig (tenantId : String) (details : Option (List Json)) :
    Reads (fallbackPresentationConfig tenantId details) := by
  unfold fallbackPresentationConfig
  refine Only.bind ?_ fun actions => ?_
  · unfold requestedActions
    split
    · exact reads_ask _ rfl
    · trivial
  · simp only
    split
    · trivial
    · exact (reads_ask _ rfl).bind fun _ => trivial

theorem routine_handleInitialRequest (w : World) (tenantId : String)
    (q : InteractiveInitialRequest) :
    (handleInitialRequest w tenantId q).Only (Routine (.interactiveInitial tenantId q)) := by
  have hfallback (authSession : String) : (startFallbackPresentation w authSession tenantId
      q.authorization_details).Only (Routine (.interactiveInitial tenantId q)) := by
    refine (Reads.routine (Only.attempt (reads_fallbackPresentationConfig _ _)) _).bind
      fun config => ?_
    split
    · exact routine_startPresentation rfl rfl _ _ _ _
    · trivial
    · trivial
  have hfirst (authSession : String) (actions : Option (List IaeAction)) :
      (startFirst w q tenantId authSession actions).Only
        (Routine (.interactiveInitial tenantId q)) := by
    unfold startFirst
    split
    · exact routine_executeIaeAction rfl rfl rfl _ _ _ _ _
    · split
      · exact hfallback _
      · split
        · exact routine_startWeb rfl _ _
        · trivial
  have hissuer : Reads (issuerStateError tenantId q.issuer_state) := by
    unfold issuerStateError
    split
    · exact reads_offerRedemptionError _ _
    · trivial
  unfold handleInitialRequest
  split
  · trivial
  · split
    · trivial
    · refine (hissuer.routine _).bind fun error => ?_
      cases error with
      | some error => trivial
      | none =>
        exact ((reads_configuredActions _ _).routine _).bind fun actions =>
          (reads_fresh.routine _).bind fun _ => (reads_now.routine _).bind fun _ =>
          (reads_fresh.routine _).bind fun _ =>
          Only.bind (only_interactiveSessions.mpr (.interactive rfl)) fun _ => hfirst _ _

theorem routine_handleOpenid4vpResponse (w : World) (tenantId : String)
    (q : InteractiveFollowUpRequest) (response : String) (s : InteractiveAuthSession) :
    (handleOpenid4vpResponse w response s).Only (Routine (.interactiveFollowUp tenantId q)) := by
  have hpresentation : Reads (presentationSession s.tenantId s.authSession) :=
    only_orUndefined (reads_getForTenant _ _ _)
  have hsubmit (p : Session) (r : AuthorizationResponse) :
      (submitPresentation w p r).Only (Routine (.interactiveFollowUp tenantId q)) := by
    unfold submitPresentation
    split
    · trivial
    · exact (routine_getResponse rfl w r _).attempt.bind fun _ => trivial
  unfold handleOpenid4vpResponse
  split
  · trivial
  · refine (hpresentation.routine _).bind fun presentation => ?_
    cases presentation with
    | none => trivial
    | some presentation =>
      refine (hsubmit _ _).bind fun _ => (hpresentation.routine _).bind fun verified => ?_
      cases verified with
      | none => trivial
      | some verified =>
        simp only
        split
        · trivial
        · exact Only.bind (only_interactiveSessions.mpr (.interactive rfl)) fun _ =>
            Only.bind (Only.onlyIf
              (only_sessions.mpr (.bookkeeping rfl (.of_eq rfl) rfl (.inl rfl)))) fun _ => trivial

theorem writes_issueAuthorizationCode (s : InteractiveAuthSession) (tenantId : String)
    (q : InteractiveFollowUpRequest) :
    (issueAuthorizationCode s).Only (Writes (.interactiveFollowUp tenantId q)) := by
  have hbind (code : String) :
      (bindCodeToOffer s code).Only (Writes (.interactiveFollowUp tenantId q)) :=
    (reads_now.writes _).bind fun t => only_sessions.mpr .bindCode
  exact (reads_fresh.writes _).bind fun code =>
    Only.bind (only_interactiveSessions.mpr (.routine (.interactive rfl))) fun _ =>
    Only.bind (Only.onlyIf (hbind code)) fun _ => trivial

theorem writes_completeStep (w : World) (s : InteractiveAuthSession) (type : InteractionType)
    (data : Option String) (tenantId : String) (q : InteractiveFollowUpRequest) :
    (completeStep w s type data tenantId).Only (Writes (.interactiveFollowUp tenantId q)) := by
  refine (reads_now.writes _).bind fun completedAt => ?_
  unfold advanceOrComplete
  split
  · exact Only.bind (only_interactiveSessions.mpr (.routine (.interactive rfl))) fun _ =>
      only_routine (routine_executeIaeAction rfl rfl rfl _ _ _ _ _)
  · exact Only.bind (only_interactiveSessions.mpr (.routine (.interactive rfl))) fun _ =>
      writes_issueAuthorizationCode s tenantId q

theorem routine_validateAuthSession (hr : r.isInteractive = true)
    (tenantId authSession : String) :
    (validateAuthSession tenantId authSession).Only (Routine r) := by
  refine Only.bind (only_interactiveSessions.mpr (.query rfl)) fun s => ?_
  cases s with
  | none => trivial
  | some s =>
    refine (reads_now.routine _).bind fun t => ?_
    split
    · exact Only.bind (only_interactiveSessions.mpr (.interactive hr)) fun _ => trivial
    · trivial

theorem writes_handleFollowUpRequest (w : World) (tenantId : String)
    (q : InteractiveFollowUpRequest) :
    (handleFollowUpRequest w tenantId q).Only (Writes (.interactiveFollowUp tenantId q)) := by
  unfold handleFollowUpRequest
  refine (only_routine (routine_validateAuthSession rfl _ _)).bind fun validated => ?_
  cases validated with
  | error response => trivial
  | ok s =>
    simp only
    split
    · trivial
    · split
      · split
        · trivial
        · refine (only_routine (routine_handleOpenid4vpResponse w tenantId q _ s)).bind
            fun result => ?_
          cases result with
          | error response => trivial
          | ok _ => exact writes_completeStep w s _ _ tenantId q
      · split
        · split
          · trivial
          · split
            · trivial
            · exact writes_completeStep w s _ _ tenantId q
        · trivial

theorem routine_completeWebAuthorization (tenantId authSession : String) :
    (completeWebAuthorization tenantId authSession).Only
      (Routine (.completeWeb tenantId authSession)) := by
  refine Only.bind (only_interactiveSessions.mpr (.query rfl)) fun s => ?_
  cases s with
  | none => trivial
  | some s =>
    refine (reads_now.routine _).bind fun t => ?_
    split
    · trivial
    · exact only_interactiveSessions.mpr (.interactive rfl)

end Interactive

/-! ## The hosted authorization servers -/

section Hosted

variable {r : Request}

theorem reads_verifyWalletAttestation (w : World) (tenantId : String) (server : HostedServer)
    (config : AuthorizationServerConfig) (attestation : Option ClientAttestation) :
    Reads (verifyWalletAttestation w tenantId server config attestation) :=
  (reads_ask _ rfl).bind fun _ => (reads_ask _ rfl).bind fun result => by cases result <;> trivial

theorem routine_hostedPar (w : World) (server : HostedServer) (q : HostedPar)
    (hr : r.isHosted = true) : (hostedPar w server q).Only (Routine r) := by
  have hissuer : Reads (resolveIssuerState q.tenantId q.request.issuer_state) := by
    unfold resolveIssuerState
    split
    · exact (only_orThrow (reads_getForTenant _ _ _)).bind fun s => reads_now.bind fun t =>
        Only.ensure fun _ => trivial
    · exact reads_fresh
  unfold hostedPar
  exact ((reads_hostedServerConfig _ _).routine _).bind fun config =>
    Only.ensure fun _ => Only.bind (only_ofExcept _) fun _ =>
    ((reads_ask _ rfl).routine _).bind fun dpopJkt => Only.ensure fun _ =>
    ((reads_verifyWalletAttestation _ _ _ _ _).routine _).bind fun _ =>
    (hissuer.routine _).bind fun issuerState => (reads_fresh.routine _).bind fun id =>
    (reads_now.routine _).bind fun t =>
    Only.bind (only_chainedSessions.mpr (.hosted hr)) fun _ => trivial

theorem routine_saveExpired (session : ChainedAsSession) (hr : r.isHosted = true) :
    (saveExpired session).Only (Routine r) := only_chainedSessions.mpr (.hosted hr)

theorem routine_pushedSession (q : HostedAuthorize) (hr : r.isHosted = true) :
    (pushedSession q).Only (Routine r) := by
  unfold pushedSession
  refine Only.bind (only_ofExcept _) fun id => Only.bind (only_chainedSessions.mpr (.query rfl))
    fun found => Only.bind (only_getOrFail _ _) fun s => Only.ensure fun _ =>
    (reads_now.routine _).bind fun t => ?_
  split
  · exact (routine_saveExpired _ hr).bind fun _ => trivial
  · trivial

theorem routine_chainedAuthorize (w : World) (q : HostedAuthorize) :
    (chainedAuthorize w q).Only (Routine (.chainedAuthorize q)) := by
  unfold chainedAuthorize
  exact ((reads_hostedServerConfig _ _).routine _).bind fun config =>
    Only.bind (only_getOrFail _ _) fun upstream => (routine_pushedSession q rfl).bind fun s =>
    ((reads_ask _ rfl).routine _).bind fun _ => (reads_fresh.routine _).bind fun _ =>
    (reads_fresh.routine _).bind fun _ => (reads_fresh.routine _).bind fun _ =>
    Only.bind (only_chainedSessions.mpr (.hosted rfl)) fun _ => trivial

theorem routine_managedAuthorize (w : World) (id : String) (q : HostedAuthorize) :
    (managedAuthorize w id q).Only (Routine (.managedAuthorize id q)) := by
  unfold managedAuthorize
  refine ((reads_hostedServerConfig _ _).routine _).bind fun config =>
    (routine_pushedSession q rfl).bind fun s =>
    Only.bind (only_chainedSessions.mpr (.hosted rfl)) fun _ => ?_
  exact Only.bind (only_sessions.mpr (.opening rfl (.of_eq rfl) rfl)) fun _ =>
    (routine_createRequest rfl rfl _ _ _ _ _).bind fun _ => trivial

theorem routine_authorizeSession (session : ChainedAsSession) (issuer : Option String)
    (hr : r.isHosted = true) : (authorizeSession session issuer).Only (Routine r) :=
  (reads_fresh.routine _).bind fun _ => (reads_now.routine _).bind fun _ =>
    Only.bind (only_chainedSessions.mpr (.hosted hr)) fun _ => trivial

theorem routine_upstreamCallback (w : World) (q : UpstreamCallback) :
    (upstreamCallback w q).Only (Routine (.upstreamCallback q)) := by
  have herror : (handleUpstreamError q).Only (Routine (.upstreamCallback q)) := by
    refine Only.bind (only_chainedSessions.mpr (.query rfl)) fun found => ?_
    cases found with
    | none => trivial
    | some s => exact (routine_saveExpired _ rfl).bind fun _ => trivial
  unfold upstreamCallback
  split
  · exact herror
  · refine Only.bind (only_chainedSessions.mpr (.query rfl)) fun found =>
      Only.bind (only_getOrFail _ _) fun s =>
      ((reads_hostedServerConfig _ _).routine _).bind fun config =>
      Only.bind (only_getOrFail _ _) fun upstream => ((reads_ask _ rfl).routine _).bind fun _ =>
      (Reads.routine (Only.attempt (reads_ask _ rfl)) _).bind fun exchange => ?_
    cases exchange with
    | error e => exact (routine_saveExpired _ rfl).bind fun _ => trivial
    | ok tokens => exact routine_authorizeSession _ _ rfl

theorem routine_verifierCallback (w : World) (id : String) (q : VerifierCallback) :
    (verifierCallback w id q).Only (Routine (.verifierCallback id q)) := by
  unfold verifierCallback
  refine ((reads_hostedServerConfig _ _).routine _).bind fun config =>
    Only.bind (only_chainedSessions.mpr (.query rfl)) fun found =>
    Only.bind (only_getOrFail _ _) fun s => ?_
  split
  · exact (routine_saveExpired _ rfl).bind fun _ => trivial
  · refine ((reads_getForTenant _ _ _).routine _).bind fun verifier => ?_
    split
    · exact (routine_saveExpired _ rfl).bind fun _ => trivial
    · exact Only.bind (Only.onlyIf
        (only_sessions.mpr (.bookkeeping rfl (.of_eq rfl) rfl (.inl rfl)))) fun _ =>
        routine_authorizeSession _ _ rfl

theorem routine_prepareHostedToken (w : World) (server : HostedServer) (q : HostedToken)
    (hr : r.isHosted = true) : (prepareHostedToken w server q).Only (Routine r) := by
  have hsession (policy : RefreshTokenPolicy) :
      Reads (resolveSessionForTokenRequest q.tenantId q.request policy) := by
    unfold resolveSessionForTokenRequest
    split
    · exact Only.ensure fun _ => Only.ensure fun _ =>
        Only.bind (only_chainedSessions.mpr rfl) fun _ => Only.bind (only_getOrFail _ _) fun _ =>
        reads_now.bind fun _ => Only.ensure fun _ => trivial
    · exact Only.ensure fun _ => Only.bind (only_chainedSessions.mpr rfl)
        fun _ => only_getOrFail _ _
  have hvalid (s : ChainedAsSession) :
      (assertTokenRequestSessionValid w s q.request).Only (Routine r) := by
    refine (reads_now.routine _).bind fun t => ?_
    split
    · exact (routine_saveExpired _ hr).bind fun _ => trivial
    · refine Only.ensure fun _ => ?_
      split
      · exact only_ofExcept _
      · trivial
  have hpayload (s : ChainedAsSession) (n : Nat) (jti : String) (jkt : Option String) :
      Reads (hostedTokenPayload w q.tenantId server s n jti jkt) := by
    refine reads_now.bind fun t => ?_
    simp only
    split
    · trivial
    · unfold withPresentedClaims
      split
      · trivial
      · exact (reads_getForTenant _ _ _).attempt.bind fun result => by cases result <;> trivial
  unfold prepareHostedToken
  exact ((reads_hostedServerConfig _ _).routine _).bind fun config =>
    Only.ensure fun _ =>
    ((reads_verifyWalletAttestation _ _ _ _ _).routine _).bind fun _ =>
    ((hsession _).routine _).bind fun s => (hvalid s).bind fun _ =>
    (Reads.routine (reads_ask _ rfl) _).bind fun dpopJkt => (reads_fresh.routine _).bind fun jti =>
    ((hpayload _ _ _ _).routine _).bind fun payload =>
    ((reads_signingKeyId _ _).routine _).bind fun keyId =>
      ((reads_ask _ rfl).routine _).bind fun _ =>
    ((reads_ask _ rfl).routine _).bind fun _ => trivial

theorem routine_hostedToken (w : World) (server : HostedServer) (q : HostedToken)
    (hr : r.isHosted = true) : (hostedToken w server q).Only (Routine r) := by
  have hrefresh (s : ChainedAsSession) (policy : RefreshTokenPolicy) (grantType : String) :
      Reads (issueRefreshToken s policy grantType) := by
    unfold issueRefreshToken
    split
    · refine Only.bind ?_ fun expiresAt => reads_fresh.bind fun _ => trivial
      unfold issuedRefreshTokenExpiry
      split
      · trivial
      · exact reads_now.bind fun _ => trivial
    · trivial
  refine (routine_prepareHostedToken w server q hr).bind fun p => ?_
  exact ((hrefresh _ _ _).routine _).bind fun issued => (reads_now.routine _).bind fun t =>
    Only.bind (only_chainedSessions.mpr (.hosted hr)) fun _ => trivial

end Hosted

/-! ## The backend -/

/-- **Every handler makes only the writes of its request**, whatever it is answered. -/
theorem program_writes (w : World) (r : Request) : (program w r).Only (Writes r) := by
  have answering_only {α : Type} {f : α → Response} {p : Api α} (h : p.Only (Writes r)) :
      (answering f p).Only (Writes r) := h.bind fun _ => trivial
  have interactive_only {p : Api InteractiveResponse} (h : p.Only (Writes r)) :
      (interactiveProgram p).Only (Writes r) :=
    h.attempt.bind fun result => by cases result <;> trivial
  cases r with
  | createOffer tenantId request =>
    exact answering_only (writes_createCredentialOffer tenantId request)
  | pushAuthorization q => exact answering_only (writes_pushAuthorizationRequest w q)
  | authorize q => exact answering_only (writes_authorizePushedRequest w q)
  | token q => exact answering_only (writes_exchangeAccessToken w q)
  | interactiveInitial tenantId q =>
    exact answering_only (interactive_only
      (only_routine (routine_handleInitialRequest w tenantId q)))
  | interactiveFollowUp tenantId q =>
    exact answering_only (interactive_only (writes_handleFollowUpRequest w tenantId q))
  | completeWeb tenantId authSession =>
    exact answering_only (only_routine (routine_completeWebAuthorization tenantId authSession))
  | credential q => exact answering_only (only_routine (routine_getCredential q))
  | notification q => exact answering_only (writes_handleNotification q)
  | createPresentation tenantId requestId values useDcApi =>
    exact answering_only (only_routine
      (routine_createRequest rfl rfl w requestId values tenantId useDcApi))
  | retrievePresentation nonce noRedirect =>
    exact answering_only (only_routine (routine_retrievePresentationRequest nonce noRedirect))
  | presentation body nonce =>
    exact answering_only (only_routine (routine_getResponse rfl w body nonce))
  | deviceResponse sessionId encrypted =>
    exact answering_only (only_routine (routine_processDeviceResponse rfl sessionId encrypted))
  | cancel command => exact answering_only (writes_cancelSession command)
  | cleanup => exact answering_only writes_cleanupSessions
  | hostedPar server q =>
    cases server with
    | chained => exact answering_only (only_routine (routine_hostedPar w .chained q rfl))
    | managed id => exact answering_only (only_routine (routine_hostedPar w (.managed id) q rfl))
  | chainedAuthorize q => exact answering_only (only_routine (routine_chainedAuthorize w q))
  | managedAuthorize id q => exact answering_only (only_routine (routine_managedAuthorize w id q))
  | upstreamCallback q => exact answering_only (only_routine (routine_upstreamCallback w q))
  | verifierCallback id q => exact answering_only (only_routine (routine_verifierCallback w id q))
  | hostedToken server q =>
    cases server with
    | chained => exact answering_only (only_routine (routine_hostedToken w .chained q rfl))
    | managed id => exact answering_only (only_routine (routine_hostedToken w (.managed id) q rfl))

end Eudiplo
