import Eudiplo.Session.Operations

/-!
# The token endpoint of the built-in authorization server

`ExchangeAccessToken.execute` (`exchange-access-token.ts`), cut where the source cuts it:
`prepareToken` is everything up to the token response (find the session, check the request against
it, verify the grant, create the response), `commitToken` the single-use update after it.
-/

namespace Eudiplo

open Concurrency Prog

structure AccessTokenRequest where
  tenantId : String
  body : AccessTokenBody
  request : RequestLike

def builtInAuthorizationServerIssuer (w : World) (tenantId : String) : String :=
  w.publicUrl ++ "/issuers/" ++ tenantId

/-- `parseAccessTokenRequest`, with the error the endpoint gives a malformed request. -/
def parseTokenRequest (w : World) (q : AccessTokenRequest) :
    Except ApiError ParsedAccessTokenRequest :=
  match w.parseAccessTokenRequest q.body q.request with
  | .ok parsed => .ok parsed
  | .error e =>
    .error (.invalidRequest ((describeLibraryError e).getD (describeMalformedTokenRequest q.body)))

def ParsedAccessTokenRequest.code (parsed : ParsedAccessTokenRequest) : Option String :=
  parsed.accessTokenRequest.preAuthorizedCode.or parsed.accessTokenRequest.code

/-- `findSession`: authorization_code and pre-authorized_code share the code column. -/
def findSession (tenantId : String) (parsed : ParsedAccessTokenRequest) : Api Session :=
  match parsed.grant with
  | .refreshToken token =>
    orThrow (getByRefreshToken tenantId token)
      (.invalidGrant "The provided refresh_token is invalid or expired")
  | _ =>
    orThrow (getByAuthorizationCode tenantId parsed.code)
      (.invalidGrant "The provided authorization code is invalid or expired")

def alreadyUsed : ApiError := .invalidGrant "The credential offer has already been used"

def Session.flow (s : Session) : Option OfferFlow := s.credentialPayload.map (·.flow)

/-- The `tx_code` of the offer a session belongs to. -/
def Session.txCode (s : Session) : Option String := s.credentialPayload.bind (·.tx_code)

/-- Single use, offer lifetime and grant type of a code; refresh tokens skip them. -/
def assertCodeRedeemable (grant : Grant) (session : Session) : Api Unit :=
  if grant.isRefresh then ret ()
  else do
    ensure (!session.consumed) alreadyUsed
    let t ← now
    ofExcept (assertOfferRedeemable session t .invalid_grant)
    ensure (codeIssuedForGrant grant session.flow) codeNotIssuedForGrant

def verifyClientAttestation (w : World) (tenantId : String) (config : IssuanceConfiguration)
    (attestation : Option ClientAttestation) (toError : String → ApiError) : Api Unit := do
  let server := findBuiltInAuthorizationServer config
  match ← ask (.verifyClientAttestation tenantId attestation
      (builtInAuthorizationServerIssuer w tenantId) (walletAttestationRequired config server)
      (walletProviderTrustLists config server)) with
  | .ok _ => return ()
  | .error message => fail (toError message)

/-- `clientAttestationJwt` of a request. -/
def ParsedAccessTokenRequest.attestationJwt (parsed : ParsedAccessTokenRequest) :
    Option String :=
  parsed.clientAttestation.map (·.clientAttestationJwt)

/-- `clientInstanceKeyThumbprint` of a request's attestation. -/
def clientKeyJkt (w : World) (parsed : ParsedAccessTokenRequest) : Option String :=
  if truthy parsed.attestationJwt then
    w.jwtKeyThumbprint (parsed.attestationJwt.getD "")
  else none

/-- The `sub` of a request's attestation. -/
def attestedClientId (w : World) (parsed : ParsedAccessTokenRequest) : Option String :=
  if truthy parsed.attestationJwt then w.jwtSubject (parsed.attestationJwt.getD "") else none

def assertClientKey (w : World) (parsed : ParsedAccessTokenRequest) (session : Session) :
    Except ApiError Unit :=
  if parsed.grant.isRefresh && truthy session.client_key_jkt &&
      session.client_key_jkt != clientKeyJkt w parsed then
    .error (.invalidGrant "The refresh_token is bound to a different client instance")
  else .ok ()

def assertClient (w : World) (q : AccessTokenRequest) (parsed : ParsedAccessTokenRequest)
    (session : Session) : Except ApiError Unit :=
  if parsed.grant.isPreAuthorized then .ok ()
  else
    assertIssuedToClient (session.auth_queries.bind (·.client_id)) q.body.client_id
      (attestedClientId w parsed)

def assertRedirectUri (q : AccessTokenRequest) (parsed : ParsedAccessTokenRequest)
    (session : Session) : Except ApiError Unit :=
  let boundRedirectUri := session.auth_queries.bind (·.redirect_uri)
  if parsed.grant.isAuthorizationCode && q.body.redirect_uri.isSome &&
      boundRedirectUri.isSome && q.body.redirect_uri != boundRedirectUri then
    .error (.invalidGrant "redirect_uri does not match the authorization request")
  else .ok ()

/-- Every authorization code is bound to an S256 challenge. -/
def assertPkce (w : World) (q : AccessTokenRequest) (parsed : ParsedAccessTokenRequest)
    (session : Session) : Except ApiError Unit :=
  if parsed.grant.isAuthorizationCode &&
      checkS256Pkce w.s256 (session.auth_queries.bind (·.code_challenge))
        (session.auth_queries.bind (·.code_challenge_method)) q.body.code_verifier
        != .valid then
    .error (.invalidGrant "PKCE verification failed")
  else .ok ()

/-! ## Verification by the library -/

/-- `wrongTxCode`: does this library error report a wrong transaction code? -/
def wrongTxCode (e : LibraryError) (expectedTxCode providedTxCode : Option String) : Bool :=
  let errorCode := toTokenErrorCode (e.responseError.or e.error)
  errorCode == .invalid_tx_code ||
    (errorCode == .invalid_grant && truthy expectedTxCode && truthy providedTxCode &&
      providedTxCode != expectedTxCode)

/-- `preAuthorizedCodeError`: a wrong `tx_code` is counted and may lock the code. -/
def preAuthorizedCodeError (e : LibraryError) (tenantId : String) (session : Session)
    (maxAttempts : Nat) (providedTxCode : Option String) : Api (Option String) := do
  let error := ApiError.oauth (toTokenErrorCode (e.responseError.or e.error))
    (describeLibraryError e) false
  if wrongTxCode e session.txCode providedTxCode then do
    let (_, locked) ← recordFailedTxCodeAttempt tenantId session.id maxAttempts
    if locked then fail (.invalidGrant txCodeLockedDescription) else fail error
  else fail error

def preAuthorizedCodeQuery (q : AccessTokenRequest) (parsed : ParsedAccessTokenRequest)
    (session : Session) (config : IssuanceConfiguration) (ttl : Nat) :
    VerifyPreAuthorizedCode where
  grant := parsed.grant
  accessTokenRequest := parsed.accessTokenRequest
  request := q.request
  dpop := { required := (builtInAccessTokenSettings config).dpopRequired, jwt := parsed.dpopJwt }
  expectedPreAuthorizedCode := session.authorization_code
  expectedTxCode := session.txCode
  preAuthorizedCodeExpiresAt := preAuthorizedCodeExpiresAt session.createdAt ttl

/-- The lockout check, then the library; a failed verification may count an attempt. -/
def verifyPreAuthorizedCode (q : AccessTokenRequest) (parsed : ParsedAccessTokenRequest)
    (txCode : Option String) (session : Session) (config : IssuanceConfiguration) :
    Api (Option String) := do
  ensure
    (!(truthy session.txCode && isTxCodeLocked session.txCodeFailedAttempts config.maxAttempts))
    (.invalidGrant txCodeLockedDescription)
  let ttl ← ask (.sessionTtlSeconds q.tenantId)
  match ← ask (.verifyPreAuthorizedCode (preAuthorizedCodeQuery q parsed session config ttl)) with
  | .ok dpop => return dpop
  | .error e => preAuthorizedCodeError e q.tenantId session config.maxAttempts txCode

def authorizationCodeQuery (q : AccessTokenRequest) (parsed : ParsedAccessTokenRequest)
    (session : Session) (config : IssuanceConfiguration) : VerifyAuthorizationCode where
  grant := parsed.grant
  accessTokenRequest := parsed.accessTokenRequest
  request := q.request
  dpop :=
    { required := (builtInAccessTokenSettings config).dpopRequired
      jwt := parsed.dpopJwt
      expectedJwkThumbprint := session.dpop_jkt }
  expectedCode := session.authorization_code
  codeExpiresAt := session.authorization_code_expires_at
  codeChallenge := session.auth_queries.bind (·.code_challenge)
  codeVerifier := parsed.pkceCodeVerifier

/-- The library request of a refresh token: an attested client may use a new DPoP key. -/
def refreshTokenQuery (q : AccessTokenRequest) (parsed : ParsedAccessTokenRequest)
    (session : Session) (config : IssuanceConfiguration) : VerifyRefreshToken where
  grant := parsed.grant
  accessTokenRequest := parsed.accessTokenRequest
  request := q.request
  dpop :=
    { required := (builtInAccessTokenSettings config).dpopRequired || truthy session.dpop_jkt
      jwt := parsed.dpopJwt
      expectedJwkThumbprint := if truthy parsed.attestationJwt then none else session.dpop_jkt }
  expectedRefreshToken := session.refresh_token
  refreshTokenExpiresAt :=
    enforcedRefreshTokenExpiry session.refresh_token_expires_at session.createdAt
      (resolveRefreshTokenPolicy config)

def orLibraryError {α : Type} (r : Except LibraryError α) : Api α :=
  match r with
  | .ok a => ret a
  | .error e => fail (oauthErrorFromLibrary e)

/-- Verify the grant; the result is the thumbprint of the DPoP proof's key. -/
def verifyGrant (q : AccessTokenRequest) (parsed : ParsedAccessTokenRequest)
    (session : Session) (config : IssuanceConfiguration) : Api (Option String) :=
  match parsed.grant with
  | .preAuthorizedCode _ txCode => verifyPreAuthorizedCode q parsed txCode session config
  | .authorizationCode _ => do
    let r ← ask (.verifyAuthorizationCode (authorizationCodeQuery q parsed session config))
    orLibraryError r
  | .refreshToken _ => do
    let r ← ask (.verifyRefreshToken (refreshTokenQuery q parsed session config))
    orLibraryError r

/-! ## The token response -/

def signingKeyId (tenantId : String) (configured : Option String) : Api String :=
  if truthy configured then ret (configured.getD "") else ask (.defaultKeyId tenantId)

def tokenResponseFailed : ApiError :=
  .invalidRequest "Failed to create access token response"

/-- `createAccessTokenResponse`: no refresh token for a refresh grant. -/
def createTokenResponse (w : World) (q : AccessTokenRequest)
    (parsed : ParsedAccessTokenRequest) (session : Session) (config : IssuanceConfiguration)
    (dpopJkt : Option String) : Api TokenResponse := do
  let settings := builtInAccessTokenSettings config
  let keyId ← signingKeyId q.tenantId settings.signingKeyId
  let publicJwk ← ask (.publicJwk q.tenantId keyId)
  let details ← ofExcept (authorizationDetailsForToken w.parseJson session)
  let r ← ask (.createAccessTokenResponse
    { audience := w.publicUrl ++ "/issuers/" ++ q.tenantId
      publicJwk
      kid := keyId
      subject := session.id
      expiresInSeconds := settings.lifetimeSeconds
      authorizationServer := builtInAuthorizationServerIssuer w q.tenantId
      clientId := q.body.client_id
      dpopJkt
      refreshToken := (resolveRefreshTokenPolicy config).enabled && !parsed.grant.isRefresh
      tokenAuthorizationDetails := details
      responseAuthorizationDetails :=
        if walletSeesAuthorizationDetails parsed.grant session then details else none })
  match r with
  | .ok response => return response
  | .error _ => fail tokenResponseFailed

/-- What `commitToken` needs of a request that passed every check. -/
structure PreparedToken where
  parsed : ParsedAccessTokenRequest
  session : Session
  config : IssuanceConfiguration
  dpopJkt : Option String
  clientKeyJkt : Option String
  response : TokenResponse

def tokenConfiguration (tenantId : String) (grant : Grant) : Api IssuanceConfiguration := do
  let config ← ask (.issuanceConfiguration tenantId)
  ensure (!(grant.isRefresh && !(resolveRefreshTokenPolicy config).enabled))
    (.oauthError .unsupported_grant_type
      "Refresh tokens are disabled for this authorization server")
  let _ ← ask (.builtInMetadata tenantId)
  return config

def prepareToken (w : World) (q : AccessTokenRequest) : Api PreparedToken := do
  let parsed ← ofExcept (parseTokenRequest w q)
  let session ← findSession q.tenantId parsed
  assertCodeRedeemable parsed.grant session
  let config ← tokenConfiguration q.tenantId parsed.grant
  verifyClientAttestation w q.tenantId config parsed.clientAttestation fun message =>
    .oauth .invalid_client (some message) true
  ofExcept (assertClientKey w parsed session)
  ofExcept (assertClient w q parsed session)
  ofExcept (assertRedirectUri q parsed session)
  ofExcept (assertPkce w q parsed session)
  let dpopJkt ← verifyGrant q parsed session config
  let response ← createTokenResponse w q parsed session config dpopJkt
  return { parsed, session, config, dpopJkt, clientKeyJkt := clientKeyJkt w parsed, response }

/-! ## Single use -/

def issuedRefreshExpiry (config : IssuanceConfiguration) (response : TokenResponse) :
    Api (Option Time) :=
  if truthy response.refresh_token then do
    let t ← now
    return some (refreshTokenExpiresAt (resolveRefreshTokenPolicy config) t)
  else ret none

def redeemUpdate (p : PreparedToken) (refreshExpiry : Option Time) : SessionUpdate :=
  { consumed := some true
    dpop_jkt := p.dpopJkt.or p.session.dpop_jkt
    client_key_jkt := p.clientKeyJkt
    refresh_token := if truthy p.response.refresh_token then p.response.refresh_token else none
    refresh_token_expires_at :=
      if truthy p.response.refresh_token then refreshExpiry else none }

/-- Of concurrent requests for one code, only the first may mark the session consumed. -/
def commitToken (p : PreparedToken) : Api TokenResponse :=
  if p.parsed.grant.isRefresh then ret p.response
  else do
    let refreshExpiry ← issuedRefreshExpiry p.config p.response
    let redeemed ←
      updateIfUnconsumed p.session.tenantId p.session.id (redeemUpdate p refreshExpiry)
    ensure redeemed alreadyUsed
    return p.response

/-- **`ExchangeAccessToken.execute`.** -/
def exchangeAccessToken (w : World) (q : AccessTokenRequest) : Api TokenResponse := do
  let prepared ← prepareToken w q
  commitToken prepared

end Eudiplo
