import Eudiplo.OAuth.ExchangeAccessToken

/-!
# Offers, pushed requests and the authorization endpoint

`CreateCredentialOffer`, `PushAuthorizationRequest` and `AuthorizePushedRequest`: the
handlers that put codes and their bindings into the session an access token is later
exchanged for.  A redirect URL is kept as its parts.
-/

namespace Eudiplo

open Concurrency Prog

/-! ## Credential offers -/

/-- The member `tx_code` of a pre-authorized code grant. -/
def txCodeGrant (request : OfferRequest) : List (String × Json) :=
  match request.tx_code with
  | some txCode =>
    if txCode == "" then []
    else
      [("tx_code", .obj
        [("input_mode", .str (if txCode.toList.all Char.isDigit then "numeric" else "text")),
          ("length", .num txCode.length 0),
          ("description", (request.tx_code_description.map Json.str).getD .null)])]
  | none => []

/-- `BuildCredentialOfferGrants`: a pre-authorized code for the pre-authorized flow, the
session id as issuer_state otherwise. -/
def credentialOfferGrants (request : OfferRequest) (issuerState : String)
    (authorizationCode : Option String) (authorizationServer : String) :
    Except ApiError Json :=
  match request.flow, authorizationCode with
  | .pre_authorized_code, some code =>
    .ok (.obj [("urn:ietf:params:oauth:grant-type:pre-authorized_code",
      .obj (("pre-authorized_code", .str code) :: txCodeGrant request ++
        [("authorization_server", .str authorizationServer)]))])
  | .pre_authorized_code, none =>
    .error (.http 500 "Pre-authorized credential offers require an authorization code" none)
  | .authorization_code, _ =>
    .ok (.obj [("authorization_code",
      .obj [("issuer_state", .str issuerState),
        ("authorization_server", .str authorizationServer)])])

/-- A created offer: its session, its URI and its pre-authorized code, if it has one. -/
structure CreatedOffer where
  session : String
  uri : String
  preAuthorizedCode : Option String

def newAuthorizationCode (flow : OfferFlow) : Api (Option String) :=
  match flow with
  | .pre_authorized_code => do
    let code ← fresh
    return some code
  | .authorization_code => ret none

def validateOfferClaims (tenantId : String) (request : OfferRequest) : Api Unit :=
  each (fun (configurationId, source) =>
    match source with
    | .inline claims => ask (.validateClaims tenantId configurationId claims)
    | _ => ret ()) request.credentialClaims

def offerLifetimeSeconds (tenantId : String) (request : OfferRequest) : Api (Option Nat) :=
  match request.offerLifetimeSeconds with
  | some seconds => ret (some seconds)
  | none => do
    let config ← ask (.issuanceConfiguration tenantId)
    return config.offerLifetimeSeconds

def offerExpiry (tenantId : String) (request : OfferRequest) : Api (Option Time) := do
  match ← offerLifetimeSeconds tenantId request with
  | some (seconds + 1) => do
    let t ← now
    return some (t.plusSeconds (seconds + 1))
  | _ => return none

def offerSession (request : OfferRequest) (authorizationCode sessionServerId : Option String)
    (expiresAt : Option Time) : SessionUpdate where
  credentialPayload := some request
  credentialConfigurationIds := some request.credentialConfigurationIds
  reference := request.reference
  authorization_code := authorizationCode
  webhookEndpointId := request.webhookEndpointId
  authorizationServerId := sessionServerId
  expiresAt := expiresAt

/-- **`CreateCredentialOffer.execute`.** -/
def createCredentialOffer (tenantId : String) (request : OfferRequest) : Api CreatedOffer := do
  let id ← fresh
  let (issuer, sessionServerId) ←
    ask (.selectAuthorizationServer tenantId request.authorization_server)
  let authorizationCode ← newAuthorizationCode request.flow
  let grants ← ofExcept (credentialOfferGrants request id authorizationCode issuer)
  validateOfferClaims tenantId request
  let expiresAt ← offerExpiry tenantId request
  let session ← createSession id tenantId
    (offerSession request authorizationCode sessionServerId expiresAt)
  let (object, uri) ← ask (.encodeOffer session request.credentialConfigurationIds grants)
  let _ ← updateForTenant tenantId id { offer := some object, offerUrl := some uri }
  return { session := session.id, uri, preAuthorizedCode := authorizationCode }

/-! ## Pushed authorization requests -/

/-- `PAR_REQUEST_URI_LIFETIME_SECONDS`. -/
def parRequestUriLifetimeSeconds : Nat := 60

/-- `AUTHORIZATION_CODE_LIFETIME_SECONDS`. -/
def authorizationCodeLifetimeSeconds : Nat := 60

/-- `pushedAuthorizationRequestUriPrefix`. -/
def requestUriPrefix : String := "urn:ietf:params:oauth:request_uri:"

def assertValidPushedAuthorizationRequest (body : AuthorizeQueries) : Except ApiError Unit :=
  if truthy body.request_uri then
    .error (.invalidRequest "The request_uri parameter must not be sent to the PAR endpoint")
  else if body.response_type != some "code" then
    .error (.oauthError .unsupported_response_type "Only response_type 'code' is supported")
  else if !truthy body.client_id then
    .error (.invalidRequest "Missing required parameter: client_id")
  else if !truthy body.redirect_uri then
    .error (.invalidRequest "Missing required parameter: redirect_uri")
  else assertS256CodeChallenge body.code_challenge body.code_challenge_method

theorem assertValidPushedAuthorizationRequest_ok {body : AuthorizeQueries}
    (h : assertValidPushedAuthorizationRequest body = .ok ()) :
    truthy body.client_id = true ∧ truthy body.redirect_uri = true := by
  unfold assertValidPushedAuthorizationRequest at h
  cases hclient : truthy body.client_id <;> cases huri : truthy body.redirect_uri <;>
    simp [hclient, huri] at h ⊢
  all_goals split at h <;> (try split at h) <;> cases h

structure PushedAuthorizationRequest where
  tenantId : String
  body : AuthorizeQueries
  request : RequestLike
  dpopJwt : Option String := none
  clientAttestation : Option ClientAttestation := none

structure PushedResponse where
  expires_in : Nat
  request_uri : String

/-- The checks of a pushed request; the result is the DPoP thumbprint it is bound to. -/
def verifyPushedRequest (w : World) (q : PushedAuthorizationRequest) : Api (Option String) := do
  let config ← ask (.issuanceConfiguration q.tenantId)
  let _ ← ask (.builtInMetadata q.tenantId)
  verifyClientAttestation w q.tenantId config q.clientAttestation fun _ =>
    .oauthError .invalid_client "Client attestation validation failed"
  ofExcept (assertValidPushedAuthorizationRequest q.body)
  let r ← ask (.verifyPushedAuthorizationRequest
    { authorizationRequest := q.body
      request := q.request
      dpop :=
        { required :=
            ((findBuiltInAuthorizationServer config).bind (·.requireDPoP)).getD false
          jwt := q.dpopJwt }
      jwkThumbprint := q.body.dpop_jkt })
  orLibraryError r

/-- An issuer_state names the offer a pushed request redeems: it must be redeemable, but a
session that does not exist is no error. -/
def assertIssuerStateRedeemable (q : PushedAuthorizationRequest) : Api Unit :=
  if truthy q.body.issuer_state then do
    let offer ← orUndefined (getForTenant q.tenantId q.body.issuer_state none)
    match offer with
    | some session => do
      let t ← now
      ofExcept (assertOfferRedeemable session t .invalid_request)
    | none => return ()
  else ret ()

/-- `parValues`: what a pushed request writes into its session. -/
def parValues (q : PushedAuthorizationRequest) (request_uri : String) (expiresAt : Time)
    (dpopJkt : Option String) : SessionUpdate where
  request_uri := some request_uri
  request_uri_expires_at := some expiresAt
  auth_queries := some q.body
  dpop_jkt := dpopJkt

def storePushedRequest (q : PushedAuthorizationRequest) (values : SessionUpdate) : Api Unit := do
  let bound ← onlyIf (truthy q.body.issuer_state) 0
    (updateForTenant q.tenantId (q.body.issuer_state.getD "") values)
  if bound == 0 then do
    let id ← fresh
    let _ ← createSession id q.tenantId values
    return ()
  else return ()

/-- **`PushAuthorizationRequest.execute`.** -/
def pushAuthorizationRequest (w : World) (q : PushedAuthorizationRequest) :
    Api PushedResponse := do
  let dpopJkt ← verifyPushedRequest w q
  assertIssuerStateRedeemable q
  let request_uri := requestUriPrefix ++ (← fresh)
  let t ← now
  storePushedRequest q
    (parValues q request_uri (t.plusSeconds parRequestUriLifetimeSeconds) dpopJkt)
  return { expires_in := parRequestUriLifetimeSeconds, request_uri }

/-! ## The authorization endpoint -/

structure AuthorizationRedirect where
  redirectUri : String
  code : Option String := none
  error : Option (OAuthErrorCode × String) := none
  state : Option String := none
  iss : String

/-- `AuthorizePushedRequest.execute`'s arguments. -/
structure AuthorizeRequest where
  tenantId : String
  request_uri : Option String
  client_id : Option String

/-- `consumeRequestUri` on the expiry the snapshot has. -/
def redeemRequestUri (tenantId : String) (session : Session) : Api Bool := do
  let t ← now
  match session.request_uri_expires_at with
  | some expiresAt => sessions (.consumeRequestUri tenantId session.id expiresAt t)
  | none => return false

def issueCode (tenantId : String) (session : Session) : Api String := do
  let code ← fresh
  let t ← now
  let _ ← updateForTenant tenantId session.id
    { authorization_code := some code
      authorization_code_expires_at := some (t.plusSeconds authorizationCodeLifetimeSeconds) }
  return code

def boundRedirectUri (session : Session) : Except ApiError String :=
  match session.auth_queries.bind (·.redirect_uri) with
  | some uri =>
    if uri == "" then
      .error (.oauthError .invalid_request_uri "request_uri has no redirect_uri bound")
    else .ok uri
  | none => .error (.oauthError .invalid_request_uri "request_uri has no redirect_uri bound")

/-- **`AuthorizePushedRequest.execute`.** -/
def authorizePushedRequest (w : World) (q : AuthorizeRequest) : Api AuthorizationRedirect := do
  ensure (truthy q.request_uri) .requestUriMissing
  let session ← orThrow (getByRequestUri q.tenantId (q.request_uri.getD ""))
    (.oauthError .invalid_request_uri "Unknown request_uri")
  let redirectUri ← ofExcept (boundRedirectUri session)
  let redirect : AuthorizationRedirect :=
    { redirectUri
      state := session.auth_queries.bind (·.state)
      iss := builtInAuthorizationServerIssuer w q.tenantId }
  if q.client_id != session.auth_queries.bind (·.client_id) then
    return { redirect with
      error := some (.invalid_request,
        "client_id does not match the pushed authorization request") }
  else do
    let t ← now
    match assertOfferRedeemable session t .invalid_request with
    | .error (.oauth code description _) =>
      return { redirect with error := some (code, description.getD "") }
    | .error e => fail e
    | .ok _ => do
      let redeemed ← redeemRequestUri q.tenantId session
      if redeemed then do
        let code ← issueCode q.tenantId session
        return { redirect with code := some code }
      else
        return { redirect with
          error := some (.invalid_request_uri,
            "request_uri is expired or was already used") }

end Eudiplo
