import Eudiplo.OAuth.Authorization
import Eudiplo.Presentation.Operations

/-!
# The hosted authorization servers

`ChainedAsService` and `AuthorizationServersService`: a tenant's chained authorization server, in
front of an upstream OIDC provider, and its managed OID4VP servers, which authenticate by a
presentation.  Their PAR and token endpoints do the same steps (`chained-as-token.util.ts`); each
keeps its own definition here, as the shared one at its own server.
-/

namespace Eudiplo

open Concurrency Prog

/-! ## Servers and their configuration -/

/-- `SESSION_LIFETIME_SECONDS`. -/
def hostedSessionLifetimeSeconds : Nat := 600

/-- `AUTH_CODE_LIFETIME_SECONDS`. -/
def hostedCodeLifetimeSeconds : Nat := 300

/-- `getChainedAsBaseUrl` and `getAuthorizationServerBaseUrl`: the issuer of a server. -/
def hostedIssuer (w : World) (tenantId : String) : HostedServer → String
  | .chained => w.publicUrl ++ "/issuers/" ++ tenantId ++ "/chained-as"
  | .managed id => w.publicUrl ++ "/issuers/" ++ tenantId ++ "/authorization-servers/" ++ id

/-- `getChainedAsConfig`: the first enabled chained entry with an upstream. -/
def findChainedServer (config : IssuanceConfiguration) : Option AuthorizationServerConfig :=
  (config.authorizationServers.getD []).find? fun server =>
    server.enabled != some false && server.type == .chained && server.id != "" &&
      server.upstream.isSome

/-- `getAuthorizationServerConfig`: the enabled OID4VP entry with this id. -/
def findManagedServer (config : IssuanceConfiguration) (id : String) :
    Option AuthorizationServerConfig :=
  (config.authorizationServers.getD []).find? fun server =>
    server.enabled != some false && server.type == .oid4vp && server.id != "" &&
      truthy server.presentationConfigId && server.id == id

def serverNotConfigured : HostedServer → ApiError
  | .chained => .http 404 "Chained Authorization Server is not enabled for this tenant" none
  | .managed id =>
    .http 404 ("Authorization server '" ++ id ++ "' is not configured for this tenant") none

def hostedServerConfig (tenantId : String) (server : HostedServer) :
    Api AuthorizationServerConfig := do
  let config ← ask (.issuanceConfiguration tenantId)
  getOrFail (serverNotConfigured server)
    (match server with
      | .chained => findChainedServer config
      | .managed id => findManagedServer config id)

def verifyWalletAttestation (w : World) (tenantId : String) (server : HostedServer)
    (config : AuthorizationServerConfig) (attestation : Option ClientAttestation) :
    Api Unit := do
  let issuanceConfig ← ask (.issuanceConfiguration tenantId)
  match ← ask (.verifyClientAttestation tenantId attestation (hostedIssuer w tenantId server)
      (walletAttestationRequired issuanceConfig (some config))
      (walletProviderTrustLists issuanceConfig (some config))) with
  | .ok _ => return ()
  | .error message => fail (.http 401 message none)

/-! ## Redirects to the wallet -/

/-- `buildAuthorizationCodeRedirect` and `buildAuthorizationErrorRedirect`. -/
structure WalletRedirect where
  redirectUri : String
  code : Option String := none
  error : Option (String × Option String) := none
  issuer : Option String := none
  state : Option String := none

def errorToWallet (session : ChainedAsSession) (error : String) (description : Option String) :
    WalletRedirect where
  redirectUri := session.redirectUri
  error := some (error, description)
  state := session.walletState

def saveExpired (session : ChainedAsSession) : Api Unit :=
  chainedSessions (.save { session with status := .expired })

/-! ## Pushed requests -/

structure HostedPar where
  tenantId : String
  request : HostedParRequest
  dpopJwt : Option String := none
  clientAttestation : Option ClientAttestation := none

/-- The errors of `assertS256CodeChallenge`, as HTTP 400. -/
def assertPkceCodeChallenge (codeChallenge codeChallengeMethod : Option String) :
    Except ApiError Unit :=
  match assertS256CodeChallenge codeChallenge codeChallengeMethod with
  | .ok u => .ok u
  | .error (.oauth _ description _) => .error (.http 400 "invalid_request" description)
  | .error e => .error e

/-- The issuer_state must name a session that can still be redeemed; one is generated when
none is given. -/
def resolveIssuerState (tenantId : String) (issuerState : Option String) : Api String :=
  if truthy issuerState then do
    let session ← orThrow (getForTenant tenantId issuerState none)
      (badRequest "Invalid issuer_state")
    let t ← now
    ensure (sessionUnusable session t).isNone (badRequest "Invalid issuer_state")
    return issuerState.getD ""
  else fresh

def newChainedAsSession (q : HostedPar) (id issuerState : String) (dpopJkt : Option String)
    (vpPresentationConfigId : Option String) (t : Time) : ChainedAsSession where
  id
  tenantId := q.tenantId
  status := .pending_authorize
  issuerState
  clientId := q.request.client_id
  redirectUri := q.request.redirect_uri
  codeChallenge := q.request.code_challenge
  codeChallengeMethod := q.request.code_challenge_method
  walletState := q.request.state
  scope := q.request.scope
  authorizationDetails := q.request.authorization_details
  dpopJkt
  vpPresentationConfigId
  createdAt := t
  expiresAt := t.plusSeconds hostedSessionLifetimeSeconds

/-- `handlePar` of both services: only a managed server stores its presentation. -/
def hostedPar (w : World) (server : HostedServer) (q : HostedPar) : Api PushedResponse := do
  let config ← hostedServerConfig q.tenantId server
  ensure (q.request.response_type == "code")
    (badRequest "Invalid response_type, must be \"code\"")
  ofExcept (assertPkceCodeChallenge q.request.code_challenge q.request.code_challenge_method)
  let dpopJkt ← ask (.verifyDpopProof (hostedIssuer w q.tenantId server) "par"
    { required := false, jwt := q.dpopJwt })
  ensure (!(config.requireDPoP.getD false && !truthy dpopJkt)) (badRequest "DPoP is required")
  verifyWalletAttestation w q.tenantId server config q.clientAttestation
  let issuerState ← resolveIssuerState q.tenantId q.request.issuer_state
  let id ← fresh
  let t ← now
  chainedSessions (.save (newChainedAsSession q id issuerState dpopJkt
    (match server with
      | .chained => none
      | .managed _ => config.presentationConfigId) t))
  return { request_uri := requestUriPrefix ++ id, expires_in := hostedSessionLifetimeSeconds }

/-- **`ChainedAsService.handlePar`.** -/
def chainedPar (w : World) (q : HostedPar) : Api PushedResponse := hostedPar w .chained q

/-- **`AuthorizationServersService.handlePar`.** -/
def managedPar (w : World) (id : String) (q : HostedPar) : Api PushedResponse :=
  hostedPar w (.managed id) q

/-! ## Authorization requests -/

structure HostedAuthorize where
  tenantId : String
  client_id : String
  request_uri : String

def requestUriSession (requestUri : String) : Except ApiError String :=
  if requestUriPrefix.toList.isPrefixOf requestUri.toList then
    .ok (String.ofList (requestUri.toList.drop requestUriPrefix.toList.length))
  else .error (badRequest "Invalid request_uri format")

/-- The pushed session an authorization request names, of the same client and not
expired. -/
def pushedSession (q : HostedAuthorize) : Api ChainedAsSession := do
  let id ← ofExcept (requestUriSession q.request_uri)
  let found ← chainedSessions (.findForTenant q.tenantId id .pending_authorize)
  let session ← getOrFail (badRequest "Invalid or expired request_uri") found
  ensure (session.clientId == q.client_id) (badRequest "Client ID mismatch")
  let t ← now
  if session.expiresAt < t then do
    saveExpired session
    fail (badRequest "Session expired")
  else return session

structure UpstreamRedirect where
  authorization_endpoint : String
  client_id : String
  redirect_uri : String
  scopes : List String
  state : String
  nonce : String
  code_challenge : String

def chainedUpstream (config : AuthorizationServerConfig) : Api UpstreamConfig :=
  getOrFail (badRequest "Upstream OIDC provider not configured") config.upstream

/-- **`ChainedAsService.handleAuthorize`.** -/
def chainedAuthorize (w : World) (q : HostedAuthorize) : Api UpstreamRedirect := do
  let config ← hostedServerConfig q.tenantId .chained
  let upstream ← chainedUpstream config
  let session ← pushedSession q
  let discovery ← ask (.discovery q.tenantId upstream.issuer)
  let upstreamState ← fresh
  let upstreamNonce ← fresh
  let upstreamCodeVerifier ← fresh
  chainedSessions (.save
    { session with
      status := .pending_upstream_callback
      upstreamState := some upstreamState
      upstreamNonce := some upstreamNonce
      upstreamCodeVerifier := some upstreamCodeVerifier })
  return {
    authorization_endpoint := discovery.authorization_endpoint
    client_id := upstream.clientId
    redirect_uri := hostedIssuer w q.tenantId .chained ++ "/callback"
    scopes := upstream.scopes
    state := upstreamState
    nonce := upstreamNonce
    code_challenge := w.s256 upstreamCodeVerifier }

structure ManagedRedirect where
  uri : String
  immediate : Bool

/-- **`AuthorizationServersService.handleAuthorize`**: the verifier session has the
identifier of the session and asks for the presentation configured for this server. -/
def managedAuthorize (w : World) (id : String) (q : HostedAuthorize) : Api ManagedRedirect := do
  let config ← hostedServerConfig q.tenantId (.managed id)
  let session ← pushedSession q
  chainedSessions (.save { session with status := .pending_vp_callback })
  let callbackUrl :=
    hostedIssuer w q.tenantId (.managed id) ++ "/vp-callback?cas=" ++ session.id
  let presentationConfigId := config.presentationConfigId.getD ""
  let _ ← createSession session.id q.tenantId
    { requestId := some presentationConfigId, redirectUri := some (some callbackUrl) }
  let offer ← createRequest w presentationConfigId
    { session := some session.id, redirectUri := some callbackUrl } q.tenantId false
  return {
    uri := "openid4vp://?" ++ offer.uri
    immediate := config.immediateWalletRedirect != some false }

/-! ## Callbacks -/

structure UpstreamCallback where
  tenantId : String
  code : String
  state : String
  error : Option String := none
  errorDescription : Option String := none

def handleUpstreamError (q : UpstreamCallback) : Api WalletRedirect := do
  match ← chainedSessions (.findByUpstreamState q.tenantId q.state none) with
  | some session => do
    saveExpired session
    return errorToWallet session (q.error.getD "") q.errorDescription
  | none => fail (badRequest "Invalid callback state")

def authorizedSession (session : ChainedAsSession) (code : String) (t : Time) :
    ChainedAsSession :=
  { session with
    status := .authorized
    authorizationCode := some code
    authorizationCodeExpiresAt := some (t.plusSeconds hostedCodeLifetimeSeconds) }

def authorizeSession (session : ChainedAsSession) (issuer : Option String) :
    Api WalletRedirect := do
  let code ← fresh
  let t ← now
  chainedSessions (.save (authorizedSession session code t))
  return { redirectUri := session.redirectUri, code := some code, issuer,
           state := session.walletState }

/-- **`ChainedAsService.handleUpstreamCallback`.** -/
def upstreamCallback (w : World) (q : UpstreamCallback) : Api WalletRedirect :=
  if truthy q.error then handleUpstreamError q
  else do
    let found ← chainedSessions
      (.findByUpstreamState q.tenantId q.state (some .pending_upstream_callback))
    let session ← getOrFail (badRequest "Invalid or expired callback state") found
    let config ← hostedServerConfig q.tenantId .chained
    let upstream ← chainedUpstream config
    let discovery ← ask (.discovery q.tenantId upstream.issuer)
    let exchange ← (ask (.exchangeUpstreamCode
      { tokenEndpoint := discovery.token_endpoint
        code := q.code
        redirectUri := hostedIssuer w q.tenantId .chained ++ "/callback"
        clientId := upstream.clientId
        codeVerifier := session.upstreamCodeVerifier })).attempt
    match exchange with
    | .error _ => do
      saveExpired session
      return errorToWallet session "server_error"
        (some "Failed to exchange code with upstream provider")
    | .ok tokens =>
      authorizeSession
        { session with
          upstreamIdTokenClaims := tokens.idTokenClaims.or session.upstreamIdTokenClaims
          upstreamAccessTokenClaims := some tokens.accessTokenClaims } none

structure VerifierCallback where
  tenantId : String
  cas : String
  responseCode : Option String := none
  error : Option String := none
  errorDescription : Option String := none

/-- **`AuthorizationServersService.handleVerifierCallback`**: the presentation must be
complete and the caller must know its response code. -/
def verifierCallback (w : World) (id : String) (q : VerifierCallback) : Api WalletRedirect := do
  let _ ← hostedServerConfig q.tenantId (.managed id)
  let found ← chainedSessions (.findForTenant q.tenantId q.cas .pending_vp_callback)
  let session ← getOrFail (badRequest "Invalid or expired callback session") found
  if truthy q.error then do
    saveExpired session
    return errorToWallet session (q.error.getD "") q.errorDescription
  else do
    let verifierSession ← getForTenant session.tenantId (some session.id) none
    if verifierSession.status != .completed || !truthy q.responseCode ||
        verifierSession.responseCode != q.responseCode then do
      saveExpired session
      return errorToWallet session "invalid_request"
        (some "OID4VP verification did not complete successfully")
    else do
      let _ ← onlyIf (session.issuerState != "" && verifierSession.credentials.isSome) 0
        (updateForTenant session.tenantId session.issuerState
          { credentials := verifierSession.credentials })
      authorizeSession { session with vpResponseCode := q.responseCode }
        (some (hostedIssuer w q.tenantId (.managed id)))

/-! ## Token requests -/

structure HostedToken where
  tenantId : String
  request : HostedTokenRequest
  dpopJwt : Option String := none
  clientAttestation : Option ClientAttestation := none

def resolveSessionForTokenRequest (tenantId : String) (request : HostedTokenRequest)
    (policy : RefreshTokenPolicy) : Api ChainedAsSession :=
  if request.grant_type == "refresh_token" then do
    ensure policy.enabled (.http 400 "unsupported_grant_type"
      (some "Refresh tokens are disabled for this authorization server"))
    ensure (truthy request.refresh_token)
      (badRequest "refresh_token is required for refresh_token grant")
    let found ← chainedSessions
      (.findByRefreshToken tenantId (request.refresh_token.getD ""))
    let session ← getOrFail (.http 401 "Invalid or expired refresh_token" none) found
    let t ← now
    ensure (t ≤ enforcedRefreshTokenExpiry session.refreshTokenExpiresAt session.createdAt policy)
      (.http 401 "refresh_token has expired" none)
    return session
  else do
    ensure (truthy request.code) (badRequest "code is required for authorization_code grant")
    let found ← chainedSessions (.findAuthorizedByCode tenantId (request.code.getD ""))
    getOrFail (.http 401 "Invalid authorization code" none) found

def verifyPkceCodeChallenge (s256 : String → String)
    (codeChallenge codeChallengeMethod codeVerifier : Option String) : Except ApiError Unit :=
  match checkS256Pkce s256 codeChallenge codeChallengeMethod codeVerifier with
  | .valid => .ok ()
  | .mismatch => .error (.http 401 "Invalid code_verifier" none)
  | .missing_verifier => .error (badRequest "code_verifier is required")
  | .missing_challenge => .error (badRequest "PKCE with S256 is required")

/-- `assertTokenRequestSessionValid`: an expired code expires its session. -/
def assertTokenRequestSessionValid (w : World) (session : ChainedAsSession)
    (request : HostedTokenRequest) : Api Unit := do
  let t ← now
  if request.grant_type == "authorization_code" &&
      session.authorizationCodeExpiresAt.any (· < t) then do
    saveExpired session
    fail (.http 401 "Authorization code expired" none)
  else do
    ensure (!(truthy request.redirect_uri && request.redirect_uri != some session.redirectUri))
      (badRequest "redirect_uri mismatch")
    if request.grant_type == "authorization_code" then
      ofExcept (verifyPkceCodeChallenge w.s256 session.codeChallenge
        session.codeChallengeMethod request.code_verifier)
    else return ()

/-- `resolveTokenBinding`: the thumbprint of a verified proof, which then binds the
session. -/
def resolveTokenBinding (w : World) (tenantId : String) (server : HostedServer)
    (requireDPoP : Option Bool) (session : ChainedAsSession) (dpopJwt : Option String) :
    Api (Option String) :=
  ask (.verifyDpopProof (hostedIssuer w tenantId server) "token"
    { required := requireDPoP.getD false || truthy session.dpopJkt
      jwt := dpopJwt
      expectedJwkThumbprint := session.dpopJkt })

def buildAccessTokenPayload (w : World) (tenantId : String) (server : HostedServer)
    (session : ChainedAsSession) (tokenLifetime : Nat) (jti : String) (dpopJkt : Option String)
    (t : Time) : HostedTokenPayload where
  iss := hostedIssuer w tenantId server
  sub := session.clientId
  aud := w.publicUrl ++ "/issuers/" ++ tenantId
  iat := t / 1000
  exp := t / 1000 + tokenLifetime
  jti
  issuer_state := session.issuerState
  cnfJkt := dpopJkt
  authorization_details :=
    if (session.authorizationDetails.getD []).isEmpty then none else session.authorizationDetails

def TokenClaims.member (claims : TokenClaims) (name : String) : Option Json :=
  (claims.find? fun m => m.1 == name).map (·.2)

/-- `buildTokenPayload` of the chained server: with the upstream identity. -/
def withUpstreamIdentity (payload : HostedTokenPayload) (session : ChainedAsSession) :
    HostedTokenPayload :=
  match session.upstreamIdTokenClaims with
  | some claims =>
    { payload with
      upstream_sub := claims.member "sub"
      upstream_iss := claims.member "iss" }
  | none => payload

/-- `presentedClaims`: the disclosed claims of all verified credentials. -/
def presentedClaims (credentials : Option (List Json)) : Option TokenClaims :=
  let claims := (credentials.getD []).flatMap fun c =>
    match c.field? "claims", c.field? "values" with
    | some (.obj members), _ => members
    | none, some (.arr (.obj members :: _)) => members
    | none, some (.obj members) => members
    | _, _ => []
  if claims.isEmpty then none else some claims

/-- What the holder presented lives on the issuance session; a token without one carries
nothing. -/
def withPresentedClaims (payload : HostedTokenPayload) (session : ChainedAsSession)
    (tenantId : String) : Api HostedTokenPayload :=
  if session.issuerState == "" then ret payload
  else do
    match ← (getForTenant tenantId (some session.issuerState) none).attempt with
    | .ok issuanceSession =>
      return { payload with presented_claims := presentedClaims issuanceSession.credentials }
    | .error _ => return payload

def hostedTokenPayload (w : World) (tenantId : String) (server : HostedServer)
    (session : ChainedAsSession) (tokenLifetime : Nat) (jti : String)
    (dpopJkt : Option String) : Api HostedTokenPayload := do
  let t ← now
  let payload := buildAccessTokenPayload w tenantId server session tokenLifetime jti dpopJkt t
  match server with
  | .chained => return withUpstreamIdentity payload session
  | .managed _ => withPresentedClaims payload session tenantId

/-- `retainSessionForIssuedTokens`: keep the session as long as its tokens. -/
def retainSession (session : ChainedAsSession) (accessTokenExpiresAt : Time) :
    ChainedAsSession :=
  { session with
    expiresAt := max (max session.expiresAt accessTokenExpiresAt)
      (session.refreshTokenExpiresAt.getD 0) }

/-- The expiry of an issued refresh token: a refreshed token keeps that of the redeemed
one, so refreshing never extends the authorization. -/
def issuedRefreshTokenExpiry (session : ChainedAsSession) (policy : RefreshTokenPolicy)
    (grantType : String) : Api Time :=
  if grantType == "refresh_token" then
    ret (enforcedRefreshTokenExpiry session.refreshTokenExpiresAt session.createdAt policy)
  else do
    let t ← now
    return refreshTokenExpiresAt policy t

/-- `issueRefreshTokenIfEnabled`: the new refresh token replaces the session's. -/
def issueRefreshToken (session : ChainedAsSession) (policy : RefreshTokenPolicy)
    (grantType : String) : Api (ChainedAsSession × Option String) :=
  if policy.enabled then do
    let expiresAt ← issuedRefreshTokenExpiry session policy grantType
    let refreshToken ← fresh
    return ({ session with
      refreshTokenExpiresAt := some expiresAt
      refreshToken := some refreshToken }, some refreshToken)
  else ret (session, none)

def hostedTokenLifetime (config : AuthorizationServerConfig) : Nat :=
  match config.token.bind (·.lifetimeSeconds) with
  | some (n + 1) => n + 1
  | _ => 3600

/-- A token request that passed every check: the session it read and what it may get. -/
structure PreparedHostedToken where
  config : AuthorizationServerConfig
  session : ChainedAsSession
  dpopJkt : Option String
  jti : String
  accessToken : String

def prepareHostedToken (w : World) (server : HostedServer) (q : HostedToken) :
    Api PreparedHostedToken := do
  let config ← hostedServerConfig q.tenantId server
  ensure (q.request.grant_type == "authorization_code" ||
      q.request.grant_type == "refresh_token")
    (badRequest "Invalid grant_type, must be \"authorization_code\" or \"refresh_token\"")
  verifyWalletAttestation w q.tenantId server config q.clientAttestation
  let session ←
    resolveSessionForTokenRequest q.tenantId q.request (refreshTokenPolicy config.token)
  assertTokenRequestSessionValid w session q.request
  let dpopJkt ← resolveTokenBinding w q.tenantId server config.requireDPoP session q.dpopJwt
  let jti ← fresh
  let payload ← hostedTokenPayload w q.tenantId server session (hostedTokenLifetime config) jti
    dpopJkt
  let keyId ← signingKeyId q.tenantId (config.token.bind (·.signingKeyId))
  let _ ← ask (.publicJwk q.tenantId keyId)
  let accessToken ← ask (.signJwt q.tenantId keyId payload)
  return { config, session, dpopJkt, jti, accessToken }

def issuedSession (p : PreparedHostedToken) : ChainedAsSession :=
  { p.session with
    status := .token_issued
    dpopJkt := p.dpopJkt.or p.session.dpopJkt
    accessTokenJti := some p.jti }

def commitHostedToken (p : PreparedHostedToken) (grantType : String) : Api TokenResponse := do
  let (session, refreshToken) ←
    issueRefreshToken (issuedSession p) (refreshTokenPolicy p.config.token) grantType
  let t ← now
  let tokenLifetime := hostedTokenLifetime p.config
  chainedSessions (.save (retainSession session (t.plusSeconds tokenLifetime)))
  return {
    access_token := p.accessToken
    token_type := if p.dpopJkt.isSome then "DPoP" else "Bearer"
    expires_in := tokenLifetime
    scope := session.scope
    authorization_details :=
      if (session.authorizationDetails.getD []).isEmpty then none
      else session.authorizationDetails
    refresh_token := refreshToken }

/-- `handleToken` of both services. -/
def hostedToken (w : World) (server : HostedServer) (q : HostedToken) : Api TokenResponse := do
  let prepared ← prepareHostedToken w server q
  commitHostedToken prepared q.request.grant_type

/-- **`ChainedAsService.handleToken`.** -/
def chainedToken (w : World) (q : HostedToken) : Api TokenResponse := hostedToken w .chained q

/-- **`AuthorizationServersService.handleToken`.** -/
def managedToken (w : World) (id : String) (q : HostedToken) : Api TokenResponse :=
  hostedToken w (.managed id) q

end Eudiplo
