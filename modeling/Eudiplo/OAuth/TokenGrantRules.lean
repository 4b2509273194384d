import Eudiplo.OAuth.Errors

/-!
# Rules of the token endpoint

`token-grant-rules.ts` and `pkce.ts`: the decisions of the token endpoint that need
no repository.  A check that throws in the source is an `Except` here.
-/

namespace Eudiplo

/-! ## Configuration -/

/-- `token` settings of a hosted authorization server. -/
structure TokenSettings where
  lifetimeSeconds : Option Nat := none
  signingKeyId : Option String := none
  refreshTokenEnabled : Option Bool := none
  refreshTokenExpiresInSeconds : Option Nat := none

inductive AuthorizationServerType where
  | builtIn
  | chained
  | oid4vp
  | external
  deriving DecidableEq

structure UpstreamConfig where
  issuer : String
  clientId : String
  scopes : List String := ["openid"]

structure AuthorizationServerConfig where
  id : String
  type : AuthorizationServerType
  enabled : Option Bool := none
  token : Option TokenSettings := none
  requireDPoP : Option Bool := none
  walletAttestationRequired : Option Bool := none
  walletProviderTrustLists : Option (List String) := none
  presentationConfigId : Option String := none
  immediateWalletRedirect : Option Bool := none
  upstream : Option UpstreamConfig := none

structure IssuanceConfiguration where
  authorizationServers : Option (List AuthorizationServerConfig) := none
  signingKeyId : Option String := none
  dPopRequired : Option Bool := none
  txCodeMaxAttempts : Option Nat := none
  walletAttestationRequired : Option Bool := none
  walletProviderTrustLists : Option (List String) := none
  offerLifetimeSeconds : Option Nat := none

/-- `DEFAULT_TX_CODE_MAX_ATTEMPTS`. -/
def defaultTxCodeMaxAttempts : Nat := 5

/-- `TX_CODE_LOCKED_DESCRIPTION`. -/
def txCodeLockedDescription : String :=
  "Too many failed tx_code attempts. The pre-authorized code has been invalidated."

/-- `ACCESS_TOKEN_LIFETIME_SECONDS`: five minutes. -/
def accessTokenLifetimeSeconds : Nat := 300

/-- `DEFAULT_REFRESH_TOKEN_LIFETIME_SECONDS`: 30 days. -/
def defaultRefreshTokenLifetimeSeconds : Nat := 2592000

/-- The configured number of wrong `tx_code`s after which a code is locked. -/
def IssuanceConfiguration.maxAttempts (config : IssuanceConfiguration) : Nat :=
  config.txCodeMaxAttempts.getD defaultTxCodeMaxAttempts

structure RefreshTokenPolicy where
  enabled : Bool
  expiresInSeconds : Nat

/-- `refreshTokenPolicy`: enabled unless switched off, for 30 days by default. -/
def refreshTokenPolicy (token : Option TokenSettings) : RefreshTokenPolicy where
  enabled := (token.bind (·.refreshTokenEnabled)) != some false
  expiresInSeconds :=
    (token.bind (·.refreshTokenExpiresInSeconds)).getD defaultRefreshTokenLifetimeSeconds

def refreshTokenExpiresAt (policy : RefreshTokenPolicy) (issuedAt : Time) : Time :=
  issuedAt.plusSeconds policy.expiresInSeconds

/-- `enforcedRefreshTokenExpiry`: a token stored without an expiry still expires. -/
def enforcedRefreshTokenExpiry (storedExpiresAt : Option Time) (sessionCreatedAt : Time)
    (policy : RefreshTokenPolicy) : Time :=
  storedExpiresAt.getD (refreshTokenExpiresAt policy sessionCreatedAt)

/-- `findBuiltInAuthorizationServer`: the enabled `built-in` entry, if configured. -/
def findBuiltInAuthorizationServer (config : IssuanceConfiguration) :
    Option AuthorizationServerConfig :=
  (config.authorizationServers.getD []).find? fun candidate =>
    candidate.enabled != some false && candidate.type == .builtIn

/-- `resolveRefreshTokenPolicy`: the policy of the built-in server. -/
def resolveRefreshTokenPolicy (config : IssuanceConfiguration) : RefreshTokenPolicy :=
  refreshTokenPolicy ((findBuiltInAuthorizationServer config).bind (·.token))

/-- `BuiltInAccessTokenSettings`. -/
structure AccessTokenSettings where
  lifetimeSeconds : Nat
  signingKeyId : Option String
  dpopRequired : Bool

/-- `builtInAccessTokenSettings`: an empty key id selects the next one. -/
def builtInAccessTokenSettings (config : IssuanceConfiguration) : AccessTokenSettings :=
  let server := findBuiltInAuthorizationServer config
  let token := server.bind (·.token)
  { lifetimeSeconds := (token.bind (·.lifetimeSeconds)).getD accessTokenLifetimeSeconds
    signingKeyId :=
      let configured := orElse (token.bind (·.signingKeyId)) config.signingKeyId
      if truthy configured then configured else none
    dpopRequired :=
      config.dPopRequired.getD false || (server.bind (·.requireDPoP)).getD false }

/-- `resolveWalletAttestationPolicy`: the server entry, then the issuance setting. -/
def walletAttestationRequired (config : IssuanceConfiguration)
    (server : Option AuthorizationServerConfig) : Bool :=
  ((server.bind (·.walletAttestationRequired)).or config.walletAttestationRequired).getD false

/-- The trust lists of `resolveWalletAttestationPolicy`. -/
def walletProviderTrustLists (config : IssuanceConfiguration)
    (server : Option AuthorizationServerConfig) : List String :=
  ((server.bind (·.walletProviderTrustLists)).or config.walletProviderTrustLists).getD []

/-! ## Grants -/

inductive Grant where
  | authorizationCode (code : String)
  | preAuthorizedCode (code : String) (txCode : Option String)
  | refreshToken (token : String)
  deriving DecidableEq

namespace Grant

/-- `isRefreshGrant`. -/
def isRefresh : Grant → Bool
  | refreshToken _ => true
  | _ => false

/-- `grantType === preAuthorizedCodeGrantIdentifier`. -/
def isPreAuthorized : Grant → Bool
  | preAuthorizedCode _ _ => true
  | _ => false

/-- `grantType === authorizationCodeGrantIdentifier`. -/
def isAuthorizationCode : Grant → Bool
  | authorizationCode _ => true
  | _ => false

theorem isRefresh_of_isPreAuthorized {grant : Grant} (h : grant.isPreAuthorized = true) :
    grant.isRefresh = false := by
  cases grant with
  | preAuthorizedCode code txCode => rfl
  | authorizationCode code => cases h
  | refreshToken token => cases h

theorem of_isAuthorizationCode {grant : Grant} (h : grant.isAuthorizationCode = true) :
    grant.isRefresh = false ∧ grant.isPreAuthorized = false := by
  cases grant with
  | authorizationCode code => exact ⟨rfl, rfl⟩
  | preAuthorizedCode code txCode => cases h
  | refreshToken token => cases h

end Grant

def isTxCodeLocked (failedAttempts maxAttempts : Nat) : Bool := maxAttempts ≤ failedAttempts

/-- `assertCodeIssuedForGrant`: a code is redeemable with the grant of its offer's flow. -/
def codeIssuedForGrant (grant : Grant) (offerFlow : Option OfferFlow) : Bool :=
  grant.isPreAuthorized == (offerFlow == some .pre_authorized_code)

/-- The description `assertCodeIssuedForGrant` rejects with. -/
def codeNotIssuedForGrant : ApiError :=
  .invalidGrant "The provided code was not issued for this grant_type"

/-- `assertIssuedToClient`: an attested client id takes precedence over `client_id`, and a
client id nobody presented is not compared. -/
def assertIssuedToClient (expectedClientId requestClientId attestedClientId : Option String) :
    Except ApiError Unit :=
  if truthy requestClientId && truthy attestedClientId &&
      requestClientId != attestedClientId then
    .error (.oauthError .invalid_client "client_id does not match the client attestation")
  else
    let presentedClientId := attestedClientId.or requestClientId
    if truthy expectedClientId && truthy presentedClientId &&
        presentedClientId != expectedClientId then
      .error (.invalidGrant "The authorization code was issued to another client")
    else .ok ()

theorem assertIssuedToClient_ok {expected request attested : Option String}
    (h : assertIssuedToClient expected request attested = .ok ())
    (hexpected : truthy expected = true) {client : String}
    (hpresented : attested.or request = some client) (hne : client ≠ "") :
    expected = some client := by
  have htruthy : truthy (some client) = true := truthy_iff.mpr ⟨client, rfl, hne⟩
  unfold assertIssuedToClient at h
  split at h
  · cases h
  · by_contra hother
    simp [hpresented, htruthy, hexpected, Ne.symm hother] at h

/-- `preAuthorizedCodeExpiresAt`: the issuance session's lifetime. -/
def preAuthorizedCodeExpiresAt (sessionCreatedAt : Time) (sessionTtlSeconds : Nat) : Time :=
  sessionCreatedAt.plusSeconds sessionTtlSeconds

/-! ## PKCE -/

/-- `PkceCheck`, with the case `checkS256Pkce` adds. -/
inductive PkceCheck where
  | valid
  | missing_verifier
  | mismatch
  | missing_challenge
  deriving DecidableEq

def assertS256CodeChallenge (codeChallenge codeChallengeMethod : Option String) :
    Except ApiError Unit :=
  if !truthy codeChallenge then
    .error (.invalidRequest "Missing required parameter: code_challenge")
  else if codeChallengeMethod != some "S256" then
    .error (.invalidRequest "Only code_challenge_method 'S256' is supported")
  else .ok ()

/-- `checkPkce`; `s256` is `base64url(sha256(·))`. -/
def checkPkce (s256 : String → String)
    (codeChallenge codeChallengeMethod codeVerifier : Option String) : PkceCheck :=
  if !truthy codeChallenge then .valid
  else if !truthy codeVerifier then .missing_verifier
  else
    let verifier := codeVerifier.getD ""
    let expectedChallenge :=
      if codeChallengeMethod == some "S256" then s256 verifier else verifier
    if some expectedChallenge == codeChallenge then .valid else .mismatch

/-- `checkS256Pkce`: a code without an `S256` challenge is never redeemable. -/
def checkS256Pkce (s256 : String → String)
    (codeChallenge codeChallengeMethod codeVerifier : Option String) : PkceCheck :=
  if !truthy codeChallenge || codeChallengeMethod != some "S256" then .missing_challenge
  else checkPkce s256 codeChallenge codeChallengeMethod codeVerifier

/-- **What a passed `S256` check means.** -/
theorem checkS256Pkce_valid {s256 : String → String} {challenge method verifier : Option String} :
    checkS256Pkce s256 challenge method verifier = .valid ↔
      truthy challenge = true ∧ method = some "S256" ∧
        ∃ v, verifier = some v ∧ v ≠ "" ∧ challenge = some (s256 v) := by
  unfold checkS256Pkce checkPkce
  by_cases hc : truthy challenge = true
  · by_cases hm : method = some "S256"
    · rcases verifier with _ | v
      · simp [hc, hm]
      · by_cases hv : v = ""
        · simp [hc, hm, hv]
        · by_cases he : challenge = some (s256 v)
          · simp [hm, hv, he, he ▸ hc]
          · have he' : ¬some (s256 v) = challenge := fun h => he h.symm
            simp [hc, hm, hv, he, he']
    · simp [hc, hm]
  · simp [hc]

/-! ## Authorization details -/

/-- The entries of `authorization_details` the request asked for, if it sent a list or a
string that parses to one. -/
def requestedDetails (parseJson : String → Option Json) (raw : Option Json) :
    Option (List Json) :=
  match raw with
  | some (.str s) => (parseJson s).bind Json.arr?
  | some v => v.arr?
  | none => none

/-- One entry of the token's `authorization_details`. -/
def credentialDetail (configurationId : String) : Json :=
  .obj [("type", .str "openid_credential"),
    ("credential_configuration_id", .str configurationId),
    ("credential_identifiers", .arr [.str configurationId])]

def requestedIds (requested : List Json) : List String :=
  requested.filterMap fun ad =>
    match ad.field? "type", ad.field? "credential_configuration_id" with
    | some (.str "openid_credential"), some (.str id) => if id != "" then some id else none
    | _, _ => none

/-- `authorizationDetailsForToken`: the requested credentials, or else the offered ones. -/
def authorizationDetailsForToken (parseJson : String → Option Json) (session : Session) :
    Except ApiError (Option (List Json)) :=
  match requestedDetails parseJson (session.auth_queries.bind (·.authorization_details)) with
  | some (ad :: ads) =>
    if (ad :: ads).any Json.isNull then .error (.http 500 "Internal server error" none)
    else .ok (some ((requestedIds (ad :: ads)).map credentialDetail))
  | _ =>
    match session.credentialPayload.map (·.credentialConfigurationIds) with
    | some (id :: ids) => .ok (some ((id :: ids).map credentialDetail))
    | _ => .ok none

/-- `walletSeesAuthorizationDetails`: not in the pre-authorized code flow. -/
def walletSeesAuthorizationDetails (grant : Grant) (session : Session) : Bool :=
  !(grant.isPreAuthorized ||
    session.credentialPayload.map (·.flow) == some .pre_authorized_code)

end Eudiplo
