import Eudiplo.Backend.Effects

/-!
# A deployment to run

A concrete `World` under which schedules are evaluated.  Its library compares what
the real one compares: codes, transaction codes, required and expected DPoP keys.
Signatures are always valid, a DPoP proof or an attestation is written as the key or
client it belongs to, and the n-th random value is a string of length `n`.
-/

namespace Eudiplo

open Concurrency Storage

structure Setup where
  config : IssuanceConfiguration := {}
  actions : List IaeAction := []
  retention : List TenantRetention := []

namespace Deployment

def libraryError (code : String) : LibraryError := { responseError := some code }

/-- A proof names its key; a required proof must be there, an expected key must match. -/
def verifyDpop (d : DpopCheck) : Except LibraryError (Option String) :=
  match d.jwt with
  | none => if d.required then .error (libraryError "invalid_dpop_proof") else .ok none
  | some key =>
    if d.expectedJwkThumbprint.all (· == key) then .ok (some key)
    else .error (libraryError "invalid_dpop_proof")

def verifyPreAuthorizedCode (q : VerifyPreAuthorizedCode) : Except LibraryError (Option String) :=
  match q.grant with
  | .preAuthorizedCode code txCode =>
    if some code != q.expectedPreAuthorizedCode then .error (libraryError "invalid_grant")
    else if q.expectedTxCode.isSome && txCode != q.expectedTxCode then
      .error (libraryError "invalid_grant")
    else verifyDpop q.dpop
  | _ => .error (libraryError "invalid_request")

def verifyAuthorizationCode (q : VerifyAuthorizationCode) : Except LibraryError (Option String) :=
  if q.grant == .authorizationCode (q.expectedCode.getD "") then verifyDpop q.dpop
  else .error (libraryError "invalid_grant")

def verifyRefreshToken (q : VerifyRefreshToken) : Except LibraryError (Option String) :=
  if q.grant == .refreshToken (q.expectedRefreshToken.getD "") then verifyDpop q.dpop
  else .error (libraryError "invalid_grant")

/-- A string of length `n`. -/
def unary (n : Nat) : String := String.ofList (List.replicate n 'x')

theorem unary_injective : Function.Injective unary := by
  intro m n h
  have hlist := congrArg String.toList h
  simpa [unary] using hlist

/-- The token response of the `n`-th consultation. -/
def tokenResponse (n : Nat) (q : CreateAccessTokenResponse) : TokenResponse where
  access_token := "at-" ++ unary n
  token_type := if q.dpopJkt.isSome then "DPoP" else "Bearer"
  expires_in := q.expiresInSeconds
  refresh_token := if q.refreshToken then some ("rt-" ++ unary n) else none

/-- The deployment's answer to its `n`-th question. -/
def answer (setup : Setup) (n : Nat) : (q : Question) → Except ApiError q.Payload
  | .issuanceConfiguration _ => .ok setup.config
  | .builtInMetadata _ => .ok ()
  | .verifyClientAttestation .. => .ok (.ok ())
  | .verifyPreAuthorizedCode q => .ok (verifyPreAuthorizedCode q)
  | .verifyAuthorizationCode q => .ok (verifyAuthorizationCode q)
  | .verifyRefreshToken q => .ok (verifyRefreshToken q)
  | .verifyPushedAuthorizationRequest q => .ok (verifyDpop q.dpop)
  | .createAccessTokenResponse q => .ok (.ok (tokenResponse n q))
  | .sessionTtlSeconds _ => .ok 86400
  | .defaultKeyId _ => .ok "key"
  | .publicJwk .. => .ok .null
  | .selectAuthorizationServer tenantId _ => .ok (tenantId, none)
  | .validateClaims .. => .ok ()
  | .encodeOffer .. => .ok (.null, "openid-credential-offer://")
  | .presentationConfig requestId _ => .ok { id := requestId }
  | .presentationConfigIds _ => .ok []
  | .requestParameters .. => .ok ("x509_hash:client", "request")
  | .encryptionKeyPair => .ok ⟨"jwk", "jwk"⟩
  | .signAuthorizationRequest .. => .ok "request-object"
  | .decryptResponse response _ _ => .ok (.vpToken (.obj [(response, .arr [.str response])]) none)
  | .verifyPresentation q => .ok (.ok [q.token])
  | .openDeviceResponse .. => .ok (.error "not used")
  | .publishResult .. => .ok none
  | .webhookEndpoint .. => .ok none
  | .publishNotification .. => .ok ()
  | .recordCancellation .. => .ok ()
  | .tenantRetention => .ok (setup.retention, 86400)
  | .credentialActions .. => .ok (some setup.actions)
  | .verifyDpopProof _ _ dpop => .ok dpop.jwt
  | .discovery .. => .ok ⟨"authorization-endpoint", "token-endpoint"⟩
  | .exchangeUpstreamCode _ => .ok ⟨some [("sub", .str "user")], []⟩
  | .signJwt .. => .ok ("jwt-" ++ unary n)
  | .tokenSession _ accessToken => .ok accessToken
  | .issueCredentials .. => .ok (.issued "configuration" "credentials")

/-- The grant a token request's `grant_type` announces. -/
def parseGrant (body : AccessTokenBody) : Except LibraryError Grant :=
  match body.grant_type, body.code, body.preAuthorizedCode, body.refresh_token with
  | some "authorization_code", some code, _, _ => .ok (.authorizationCode code)
  | some "urn:ietf:params:oauth:grant-type:pre-authorized_code", _, some code, _ =>
    .ok (.preAuthorizedCode code body.tx_code)
  | some "refresh_token", _, _, some token => .ok (.refreshToken token)
  | _, _, _, _ => .error (libraryError "invalid_request")

def header (request : RequestLike) (name : String) : Option String :=
  (request.headers.find? fun h => h.1 == name).map (·.2)

def parseAccessTokenRequest (body : AccessTokenBody) (request : RequestLike) :
    Except LibraryError ParsedAccessTokenRequest := do
  let grant ← parseGrant body
  return {
    grant
    accessTokenRequest := body
    clientAttestation := (header request "OAuth-Client-Attestation").map fun jwt => ⟨jwt, none⟩
    dpopJwt := header request "DPoP"
    pkceCodeVerifier := body.code_verifier }

end Deployment

/-- **The deployment** of a setup. -/
def deployment (setup : Setup) : World where
  publicUrl := "https://issuer"
  random := Deployment.unary
  random_injective := Deployment.unary_injective
  s256 verifier := "s256-" ++ verifier
  parseJson _ := none
  jwtSubject jwt := some jwt
  jwtKeyThumbprint jwt := some jwt
  parseAccessTokenRequest := Deployment.parseAccessTokenRequest
  parseAuthorizationResponse response := some { response := some response }
  answer := Deployment.answer setup

def freshStore : Store := ⟨1000000, 1, 0, Table.empty, Table.empty, Table.empty⟩

namespace Deployment

/-- Let a request arrive and finish before anything else happens. -/
def serve (tid : Nat) (r : Request) (calls : Nat) : Schedule :=
  .arrive r :: List.replicate calls (.resume tid)

def play (setup : Setup) (ms : Schedule) : Backend :=
  (backend (deployment setup)).run (.start freshStore) ms

/-- A wallet pushes a request for the session `issuerState`; it proves the verifier `v` by
the challenge `s256-v`, and shows this DPoP proof. -/
def pushProved (tid : Nat) (issuerState verifier : String) (dpopJwt : Option String) :
    Schedule :=
  serve tid (.pushAuthorization
    { tenantId := "tenant"
      body :=
        { issuer_state := some issuerState
          response_type := some "code"
          client_id := some "wallet"
          redirect_uri := some "wallet://callback"
          code_challenge := some ("s256-" ++ verifier)
          code_challenge_method := some "S256" }
      request := ⟨"par", []⟩
      dpopJwt }) 10

/-- A wallet pushes a request without a DPoP proof. -/
def push (tid : Nat) (issuerState verifier : String) : Schedule :=
  pushProved tid issuerState verifier none

/-- The user agent follows the pushed request whose fresh value is `unary n`. -/
def authorize (tid n : Nat) : Schedule :=
  serve tid (.authorize
    { tenantId := "tenant"
      client_id := some "wallet"
      request_uri := some (requestUriPrefix ++ unary n) }) 7

def tokenRequest (body : AccessTokenBody) (headers : List (String × String)) : Request :=
  .token { tenantId := "tenant", body, request := ⟨"token", headers⟩ }

/-- A token request for the authorization code `unary n`. -/
def codeGrant (n : Nat) (verifier : String) : AccessTokenBody :=
  { grant_type := some "authorization_code"
    code := some (unary n)
    code_verifier := some verifier }

/-- A token request for the pre-authorized code `unary n`. -/
def preAuthorizedGrant (n : Nat) (txCode : Option String) : AccessTokenBody :=
  { grant_type := some "urn:ietf:params:oauth:grant-type:pre-authorized_code"
    preAuthorizedCode := some (unary n)
    tx_code := txCode }

def refreshGrant (token : String) : AccessTokenBody :=
  { grant_type := some "refresh_token"
    refresh_token := some token }

/-- An issuer creates an offer: its session is `unary n` for the next value `n`, and in the
pre-authorized flow its code is `unary (n + 1)`. -/
def offer (tid : Nat) (flow : OfferFlow) (txCode : Option String) : Schedule :=
  serve tid (.createOffer "tenant"
    { flow, tx_code := txCode, credentialConfigurationIds := ["configuration"] }) 9

/-- What thread `tid` has answered. -/
def answered (c : Backend) (tid : Nat) : Option Response :=
  (c.threads[tid]?).bind fun t => t.body.response?

theorem answers_of_any {c : Backend} {r : Request} (tid : Nat) (check : Response → Bool)
    (hr : c.global.requests[tid]? = some r) (h : (answered c tid).any check = true) :
    ∃ a, check a = true ∧ c.Answers tid r a := by
  obtain ⟨a, ha, hcheck⟩ := (Option.any_eq_true _ _).mp h
  exact ⟨a, hcheck, Config.answers_of_response hr ha⟩

end Deployment

end Eudiplo
