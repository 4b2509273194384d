import Eudiplo.OAuth.Library

/-!
# Sessions of the hosted authorization servers

The chained authorization server and the managed OID4VP servers of a tenant keep
their wallet sessions in one table (`chained-as-session.ts`).  A save writes the
whole entity.
-/

namespace Eudiplo

/-- `ChainedAsSessionStatus`. -/
inductive ChainedAsStatus where
  | pending_authorize
  | pending_upstream_callback
  | pending_vp_callback
  | authorized
  | token_issued
  | expired
  deriving DecidableEq

abbrev TokenClaims := List (String × Json)

structure ChainedAsSession where
  id : String
  tenantId : String
  status : ChainedAsStatus
  issuerState : String
  clientId : String
  redirectUri : String
  codeChallenge : Option String := none
  codeChallengeMethod : Option String := none
  walletState : Option String := none
  scope : Option String := none
  authorizationDetails : Option (List Json) := none
  dpopJkt : Option String := none
  upstreamState : Option String := none
  upstreamNonce : Option String := none
  upstreamCodeVerifier : Option String := none
  vpPresentationConfigId : Option String := none
  vpResponseCode : Option String := none
  upstreamIdTokenClaims : Option TokenClaims := none
  upstreamAccessTokenClaims : Option TokenClaims := none
  authorizationCode : Option String := none
  authorizationCodeExpiresAt : Option Time := none
  accessTokenJti : Option String := none
  refreshToken : Option String := none
  refreshTokenExpiresAt : Option Time := none
  createdAt : Time
  expiresAt : Time

/-- **The servers of a tenant that share the table**: its chained one, and any number of
managed ones by id. -/
inductive HostedServer where
  | chained
  | managed (id : String)
  deriving DecidableEq

/-- `ChainedAsParRequestDto`. -/
structure HostedParRequest where
  response_type : String
  client_id : String
  redirect_uri : String
  code_challenge : Option String := none
  code_challenge_method : Option String := none
  state : Option String := none
  scope : Option String := none
  issuer_state : Option String := none
  authorization_details : Option (List Json) := none

/-- `ChainedAsTokenRequestDto`. -/
structure HostedTokenRequest where
  grant_type : String
  code : Option String := none
  refresh_token : Option String := none
  redirect_uri : Option String := none
  code_verifier : Option String := none

/-- `OidcDiscoveryDocument`, as far as it is used. -/
structure OidcDiscovery where
  authorization_endpoint : String
  token_endpoint : String

/-- What the upstream token endpoint is asked (`exchangeUpstreamCode`). -/
structure UpstreamExchange where
  tokenEndpoint : String
  code : String
  redirectUri : String
  clientId : String
  codeVerifier : Option String

structure UpstreamTokens where
  idTokenClaims : Option TokenClaims
  accessTokenClaims : TokenClaims

structure HostedTokenPayload where
  iss : String
  sub : String
  aud : String
  iat : Nat
  exp : Nat
  jti : String
  issuer_state : String
  cnfJkt : Option String := none
  authorization_details : Option (List Json) := none
  upstream_sub : Option Json := none
  upstream_iss : Option Json := none
  presented_claims : Option TokenClaims := none

end Eudiplo
