import Eudiplo.OAuth.TokenGrantRules

/-!
# What the OAuth library is asked

The token and PAR endpoints hand parsing, DPoP proofs and the comparison of codes to
a library.  These are the requests the endpoints pass it, member for member as far
as an answer can depend on them, and what it answers.
-/

namespace Eudiplo

/-- `RequestLike`: the HTTP request as the client saw it. -/
structure RequestLike where
  url : String
  headers : List (String × String) := []

structure AccessTokenBody where
  grant_type : Option String := none
  code : Option String := none
  preAuthorizedCode : Option String := none
  tx_code : Option String := none
  refresh_token : Option String := none
  client_id : Option String := none
  redirect_uri : Option String := none
  code_verifier : Option String := none

/-- `ClientAttestation`: the wallet attestation and its proof of possession. -/
structure ClientAttestation where
  clientAttestationJwt : String
  clientAttestationPopJwt : Option String := none

structure ParsedAccessTokenRequest where
  grant : Grant
  accessTokenRequest : AccessTokenBody
  clientAttestation : Option ClientAttestation := none
  dpopJwt : Option String := none
  pkceCodeVerifier : Option String := none

structure DpopCheck where
  required : Bool
  jwt : Option String
  expectedJwkThumbprint : Option String := none

/-- `verifyPreAuthorizedCodeAccessTokenRequest`. -/
structure VerifyPreAuthorizedCode where
  grant : Grant
  accessTokenRequest : AccessTokenBody
  request : RequestLike
  dpop : DpopCheck
  expectedPreAuthorizedCode : Option String
  expectedTxCode : Option String
  preAuthorizedCodeExpiresAt : Time

/-- `verifyAuthorizationCodeAccessTokenRequest`. -/
structure VerifyAuthorizationCode where
  grant : Grant
  accessTokenRequest : AccessTokenBody
  request : RequestLike
  dpop : DpopCheck
  expectedCode : Option String
  codeExpiresAt : Option Time
  codeChallenge : Option String
  codeVerifier : Option String

/-- `verifyRefreshTokenAccessTokenRequest`. -/
structure VerifyRefreshToken where
  grant : Grant
  accessTokenRequest : AccessTokenBody
  request : RequestLike
  dpop : DpopCheck
  expectedRefreshToken : Option String
  refreshTokenExpiresAt : Time

/-- `verifyPushedAuthorizationRequest`. -/
structure VerifyPushedAuthorizationRequest where
  authorizationRequest : AuthorizeQueries
  request : RequestLike
  dpop : DpopCheck
  jwkThumbprint : Option String

/-- `createAccessTokenResponse`. -/
structure CreateAccessTokenResponse where
  audience : String
  publicJwk : Json
  kid : String
  subject : String
  expiresInSeconds : Nat
  authorizationServer : String
  clientId : Option String
  dpopJkt : Option String
  refreshToken : Bool
  tokenAuthorizationDetails : Option (List Json)
  responseAuthorizationDetails : Option (List Json)

structure TokenResponse where
  access_token : String
  token_type : String
  expires_in : Nat
  refresh_token : Option String := none
  scope : Option String := none
  authorization_details : Option (List Json) := none

def describeMalformedTokenRequest (body : AccessTokenBody) : String :=
  if !truthy body.grant_type then "Missing required parameter: grant_type"
  else if body.grant_type == some "authorization_code" && body.code.isNone then
    "Missing required parameter: code"
  else if body.grant_type == some "urn:ietf:params:oauth:grant-type:pre-authorized_code" &&
      body.preAuthorizedCode.isNone then
    "Missing required parameter: pre-authorized_code"
  else if body.grant_type == some "refresh_token" && body.refresh_token.isNone then
    "Missing required parameter: refresh_token"
  else "Invalid token request for grant_type: " ++ body.grant_type.getD ""

end Eudiplo
