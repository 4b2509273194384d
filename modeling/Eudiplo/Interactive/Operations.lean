import Eudiplo.OAuth.Authorization
import Eudiplo.Presentation.Operations

/-!
# The interactive authorization endpoint

`InteractiveAuthorizationService` (`interactive-authorization.service.ts`): a wallet
works through the configured actions of a credential, a presentation or a web
interaction each, and gets one authorization code at the end.  A follow-up reads the
auth session once and decides everything from that snapshot.
-/

namespace Eudiplo

open Concurrency Prog

/-- An `invalid_request` answer. -/
def interactiveInvalid (description : String) : InteractiveResponse :=
  .error "invalid_request" (some description)

/-- An `access_denied` answer. -/
def interactiveDenied (description : String) : InteractiveResponse :=
  .error "access_denied" (some description)

def OAuthErrorCode.name : OAuthErrorCode → String
  | .invalid_request => "invalid_request"
  | .invalid_client => "invalid_client"
  | .invalid_grant => "invalid_grant"
  | .unauthorized_client => "unauthorized_client"
  | .unsupported_grant_type => "unsupported_grant_type"
  | .invalid_scope => "invalid_scope"
  | .invalid_tx_code => "invalid_tx_code"
  | .invalid_dpop_proof => "invalid_dpop_proof"
  | .unsupported_response_type => "unsupported_response_type"
  | .invalid_request_uri => "invalid_request_uri"

def interactiveError : ApiError → InteractiveResponse
  | .oauth code description _ => .error code.name description
  | .http 400 message _ => interactiveInvalid message
  | .http _ message _ => .error "server_error" (some message)
  | _ => .error "server_error" none

/-! ## Starting an interaction -/

/-- `createOpenid4vpInteractionResponseForConfig`: the verifier session of an auth session
has its identifier; an existing one is reused. -/
def startPresentation (w : World) (authSession tenantId presentationConfigId : String) :
    Api InteractiveResponse := do
  let attempt : Api PresentationOffer := do
    let _ ← createSession authSession tenantId { requestId := some presentationConfigId }
    createRequest w presentationConfigId { session := some authSession } tenantId false
  match ← attempt.attempt with
  | .ok offer => return .presentation authSession offer.uri
  | .error _ => return .error "server_error" (some "Failed to create presentation request")

/-- `createRedirectToWebResponseForUrl`. -/
def startWeb (authSession tenantId : String) : Api InteractiveResponse := do
  let requestUri := requestUriPrefix ++ (← fresh)
  let t ← now
  let _ ← interactiveSessions (.updateForTenant tenantId authSession
    { requestUri := some requestUri, parExpiresAt := some (t.plusSeconds 600) })
  return .web authSession requestUri 600

def executeIaeAction (w : World) (authSession tenantId : String) (action : IaeAction)
    (supportedTypes : String) : Api InteractiveResponse :=
  match action with
  | .openid4vp_presentation presentationConfigId _ =>
    if supportsInteraction supportedTypes .openid4vp_presentation then
      startPresentation w authSession tenantId presentationConfigId
    else ret (interactiveInvalid
      "Wallet does not support openid4vp_presentation interaction type")
  | .redirect_to_web _ _ =>
    if supportsInteraction supportedTypes .redirect_to_web then startWeb authSession tenantId
    else ret (interactiveInvalid "Wallet does not support redirect_to_web interaction type")

def requestedActions (tenantId : String) (details : Option (List Json)) :
    Api (Option (List IaeAction)) :=
  match (details.bind List.head?).bind (·.field? "credential_configuration_id") with
  | some (.str id) => ask (.credentialActions id tenantId)
  | _ => ret none

/-- The configuration of a presentation without a configured action: the first action of
the requested credential, else the tenant's first configuration. -/
def fallbackPresentationConfig (tenantId : String) (details : Option (List Json)) :
    Api (Option String) := do
  let actions ← requestedActions tenantId details
  let configured := (actions.getD []).findSome? fun
    | .openid4vp_presentation id _ => some id
    | .redirect_to_web _ _ => none
  if truthy configured then return configured
  else do
    let ids ← ask (.presentationConfigIds tenantId)
    return ids.head?

/-- `createOpenid4vpInteractionResponse`. -/
def startFallbackPresentation (w : World) (authSession tenantId : String)
    (details : Option (List Json)) : Api InteractiveResponse := do
  match ← (fallbackPresentationConfig tenantId details).attempt with
  | .ok (some id) => startPresentation w authSession tenantId id
  | .ok none => return .error "server_error" (some "No presentation configuration available")
  | .error _ => return .error "server_error" (some "Failed to create presentation request")

/-! ## Initial requests -/

/-- `offerRedemptionError`: an issuer_state must name an authorization code offer that can
still be redeemed. -/
def offerRedemptionError (tenantId : String) (issuerState : String) :
    Api (Option InteractiveResponse) := do
  match ← orUndefined (getForTenant tenantId (some issuerState) none) with
  | none => return some (interactiveInvalid "Invalid issuer_state")
  | some offer =>
    if offer.flow == some .pre_authorized_code then
      return some (interactiveInvalid "Invalid issuer_state")
    else do
      let t ← now
      match assertOfferRedeemable offer t .invalid_request with
      | .ok _ => return none
      | .error e => return some (interactiveError e)

def configuredActions (tenantId : String) (details : Option (List Json)) :
    Api (Option (List IaeAction)) := do
  match (details.bind List.head?).bind (·.field? "credential_configuration_id") with
  | some (.str id) =>
    if id == "" then return none
    else do
      match ← ask (.credentialActions id tenantId) with
      | some (action :: actions) => return some (action :: actions)
      | _ => return none
  | _ => return none

/-- The row an initial request creates: at the first step, valid for ten minutes. -/
def newAuthSession (q : InteractiveInitialRequest) (tenantId id authSession : String)
    (iaeActions : Option (List IaeAction)) (t : Time) : InteractiveAuthSession where
  id
  authSession
  tenantId
  clientId := q.client_id
  redirectUri := q.redirect_uri
  scope := q.scope
  codeChallenge := q.code_challenge
  codeChallengeMethod := q.code_challenge_method
  issuerState := q.issuer_state
  state := q.state
  authorizationDetails := q.authorization_details
  interactionTypesSupported := q.interaction_types_supported
  iaeActions
  currentStepIndex := 0
  expiresAt := t.plusSeconds 600
  status := .pending

/-- The error of an initial request's issuer_state, if it has one and it is not usable. -/
def issuerStateError (tenantId : String) (issuerState : Option String) :
    Api (Option InteractiveResponse) :=
  if truthy issuerState then offerRedemptionError tenantId (issuerState.getD "") else ret none

def startFirst (w : World) (q : InteractiveInitialRequest) (tenantId authSession : String)
    (iaeActions : Option (List IaeAction)) : Api InteractiveResponse :=
  match iaeActions with
  | some (action :: _) =>
    executeIaeAction w authSession tenantId action q.interaction_types_supported
  | _ =>
    if supportsInteraction q.interaction_types_supported .openid4vp_presentation then
      startFallbackPresentation w authSession tenantId q.authorization_details
    else if supportsInteraction q.interaction_types_supported .redirect_to_web then
      startWeb authSession tenantId
    else ret (interactiveInvalid "No supported interaction type available")

/-- **`handleInitialRequest`.** -/
def handleInitialRequest (w : World) (tenantId : String) (q : InteractiveInitialRequest) :
    Api InteractiveResponse :=
  if q.client_id == "" then
    ret (interactiveInvalid "Missing required parameter: client_id")
  else
    match assertS256CodeChallenge q.code_challenge q.code_challenge_method with
    | .error e => ret (interactiveError e)
    | .ok _ => do
      match ← issuerStateError tenantId q.issuer_state with
      | some error => return error
      | none => do
        let iaeActions ← configuredActions tenantId q.authorization_details
        let authSession ← fresh
        let t ← now
        let id ← fresh
        interactiveSessions (.create (newAuthSession q tenantId id authSession iaeActions t))
        startFirst w q tenantId authSession iaeActions

/-! ## Follow-ups -/

/-- `presentationSession`: the verifier session of an auth session. -/
def presentationSession (tenantId authSession : String) : Api (Option Session) :=
  orUndefined (getForTenant tenantId (some authSession) none)

/-- Hand the wallet's response to the verifier unless it already completed; a rejected
response is only logged. -/
def submitPresentation (w : World) (presentation : Session) (response : AuthorizationResponse) :
    Api Unit :=
  if presentation.status == .completed then ret ()
  else do
    let _ ← (getResponse w response (presentation.walletNonce.getD presentation.id)).attempt
    return ()

/-- `handleOpenid4vpResponse`: only a verified presentation completes the step. -/
def handleOpenid4vpResponse (w : World) (openid4vpResponse : String)
    (s : InteractiveAuthSession) : Api (Except InteractiveResponse Unit) := do
  match w.parseAuthorizationResponse openid4vpResponse with
  | none => return .error (interactiveInvalid "Invalid openid4vp_response format")
  | some response => do
    match ← presentationSession s.tenantId s.authSession with
    | none =>
      return .error (interactiveInvalid "No presentation was requested for this auth_session")
    | some presentation => do
      submitPresentation w presentation response
      match ← presentationSession s.tenantId s.authSession with
      | none => return .error (interactiveDenied "The presentation could not be verified")
      | some verified =>
        if verified.status != .completed then
          return .error (interactiveDenied "The presentation could not be verified")
        else do
          interactiveSessions (.update s.id
            { status := some .presentation_received
              presentationData := some openid4vpResponse })
          let _ ← onlyIf (truthy s.issuerState && verified.credentials.isSome) 0
            (updateForTenant s.tenantId (s.issuerState.getD "")
              { credentials := verified.credentials })
          return .ok ()

/-- `handleCodeVerifier`: the wallet proves its challenge and the web interaction is done. -/
def handleCodeVerifier (w : World) (codeVerifier : String) (s : InteractiveAuthSession) :
    Except InteractiveResponse Unit :=
  if !truthy s.codeChallenge then
    .error (interactiveInvalid "No code_challenge was provided in initial request")
  else if checkS256Pkce w.s256 s.codeChallenge s.codeChallengeMethod (some codeVerifier)
      != .valid then
    .error (.error "invalid_grant" (some "Invalid code_verifier"))
  else if s.status != .web_auth_completed then
    .error (interactiveDenied "Web authorization not completed")
  else .ok ()

def bindCodeToOffer (s : InteractiveAuthSession) (authorizationCode : String) : Api Nat := do
  let t ← now
  updateForTenant s.tenantId (s.issuerState.getD "")
    { authorization_code := some authorizationCode
      authorization_code_expires_at := some (t.plusSeconds authorizationCodeLifetimeSeconds)
      auth_queries := some
        { code_challenge := s.codeChallenge
          code_challenge_method := s.codeChallengeMethod } }

/-- `issueAuthorizationCode`: into the auth session, then into the offer's session. -/
def issueAuthorizationCode (s : InteractiveAuthSession) : Api InteractiveResponse := do
  let authorizationCode ← fresh
  interactiveSessions (.update s.id
    { authorizationCode := some authorizationCode, status := some .code_issued })
  let _ ← onlyIf (truthy s.issuerState) 0 (bindCodeToOffer s authorizationCode)
  return .code authorizationCode

/-- `advanceOrComplete`: the next configured action, or the code after the last one. -/
def advanceOrComplete (w : World) (s : InteractiveAuthSession) (steps : List CompletedStep)
    (tenantId : String) : Api InteractiveResponse :=
  match (s.iaeActions.bind fun actions => actions[s.currentStepIndex + 1]?) with
  | some action => do
    interactiveSessions (.update s.id
      { currentStepIndex := some (s.currentStepIndex + 1)
        completedStepsData := some steps
        status := some .pending })
    executeIaeAction w s.authSession tenantId action s.interactionTypesSupported
  | none => do
    interactiveSessions (.update s.id
      { completedStepsData := some steps, status := some .all_steps_completed })
    issueAuthorizationCode s

def completeStep (w : World) (s : InteractiveAuthSession) (type : InteractionType)
    (data : Option String) (tenantId : String) : Api InteractiveResponse := do
  let completedAt ← now
  let step : CompletedStep := { stepIndex := s.currentStepIndex, type, data, completedAt }
  advanceOrComplete w s (s.completedStepsData ++ [step]) tenantId

/-- `validateAuthSession`: an expired auth session is deleted. -/
def validateAuthSession (tenantId authSession : String) :
    Api (Except InteractiveResponse InteractiveAuthSession) := do
  match ← interactiveSessions (.findForTenant tenantId authSession) with
  | none => return .error (interactiveInvalid "Invalid or expired auth_session")
  | some s => do
    let t ← now
    if s.expiresAt < t then do
      interactiveSessions (.delete s.id)
      return .error (interactiveInvalid "Auth session has expired")
    else return .ok s

def unexpectedInteraction (type : InteractionType) : InteractiveResponse :=
  interactiveInvalid ("The current step does not expect a " ++ type.identifier ++ " response")

/-- **`handleFollowUpRequest`.** -/
def handleFollowUpRequest (w : World) (tenantId : String) (q : InteractiveFollowUpRequest) :
    Api InteractiveResponse := do
  match ← validateAuthSession tenantId q.auth_session with
  | .error response => return response
  | .ok s =>
    if truthy s.authorizationCode then
      return interactiveInvalid "The auth_session was already used"
    else if truthy q.openid4vp_response then
      if currentInteraction s != some .openid4vp_presentation then
        return unexpectedInteraction .openid4vp_presentation
      else do
        match ← handleOpenid4vpResponse w (q.openid4vp_response.getD "") s with
        | .error response => return response
        | .ok _ => completeStep w s .openid4vp_presentation q.openid4vp_response tenantId
    else if truthy q.code_verifier then
      if currentInteraction s != some .redirect_to_web then
        return unexpectedInteraction .redirect_to_web
      else
        match handleCodeVerifier w (q.code_verifier.getD "") s with
        | .error response => return response
        | .ok _ => completeStep w s .redirect_to_web none tenantId
    else return interactiveInvalid "Missing openid4vp_response or code_verifier"

/-! ## Completing a web interaction -/

/-- **`completeWebAuthorization`**: the issuer's backend reports that the user finished. -/
def completeWebAuthorization (tenantId authSession : String) : Api Bool := do
  match ← interactiveSessions (.findForTenant tenantId authSession) with
  | none => return false
  | some s => do
    let t ← now
    if s.expiresAt < t || currentInteraction s != some .redirect_to_web then return false
    else
      interactiveSessions (.updateForTenant tenantId authSession
        { status := some .web_auth_completed })

end Eudiplo
