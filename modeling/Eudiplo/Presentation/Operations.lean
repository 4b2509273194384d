import Eudiplo.Session.Operations

/-!
# Presentation requests and responses

The session side of the verifier: `Oid4vpService.createRequest`, `getResponse` and
`RetrievePresentationRequest`, and `Iso18013Service.processResponse`.  A response is
completed or failed by the conditional update alone; whether a presentation is valid
is asked of the outside.
-/

namespace Eudiplo

open Concurrency Prog

/-! ## Recording an outcome -/

def presentationAlreadyUsed : ApiError :=
  badRequest "The presentation offer has already been used"

/-- `SessionOutcome` of a completed presentation. -/
def successOutcome (credentials : List Json) : Json :=
  .obj [("result", .str "success"),
    ("credentials", .arr (credentials.map fun c =>
      .obj [("id", (c.field? "id").getD .null), ("verified", .bool true)]))]

/-- `SessionOutcome` of a failed presentation. -/
def failureOutcome (failure : PresentationFailure) : Json :=
  .obj <|
    ("result", .str "failed") ::
      (if truthy failure.code then [("error", Json.str (failure.code.getD ""))] else []) ++
      [("message", .str failure.message)] ++
      (failure.credential.map fun c => ("credentials", Json.arr [c])).toList

def completeUpdate (credentials : List Json) (responseCode : String) (consumedAt : Time) :
    SessionUpdate where
  credentials := some credentials
  status := some .completed
  responseCode := some responseCode
  consumed := some true
  consumedAt := some consumedAt
  responseEncryptionPrivateJwk := some none
  outcome := some (successOutcome credentials)

def failUpdate (failure : PresentationFailure) : SessionUpdate where
  status := some .failed
  errorReason := some failure.message
  responseEncryptionPrivateJwk := some none
  failureCode := if truthy failure.code then failure.code else none
  outcome := some (failureOutcome failure)

/-- Best-effort delivery of a result: the redirect URI the webhook returned, if any. -/
def publishResult (webhook : Option String) (sessionId : String) (status : SessionStatus) :
    Api (Option String) :=
  match webhook with
  | none => ret none
  | some _ => do
    match ← (ask (.publishResult sessionId status)).attempt with
    | .ok redirectUri => return if truthy redirectUri then redirectUri else none
    | .error _ => return none

/-- `FailPresentationResponse.execute`: the redirect URI of the webhook, or nothing when no
session was updated. -/
def failPresentation (session : Session) (failure : PresentationFailure)
    (webhook : Option String) : Api (Option (Option String)) := do
  let failed ← updateIfUnconsumed session.tenantId session.id (failUpdate failure)
  if failed then do
    let redirectUri ← publishResult webhook session.id .failed
    return some redirectUri
  else return none

/-- `CompletePresentationResponse.execute`. -/
def completePresentation (session : Session) (credentials : List Json)
    (responseCode : String) : Api Unit := do
  let t ← now
  let completed ← updateIfUnconsumed session.tenantId session.id
    (completeUpdate credentials responseCode t)
  ensure completed presentationAlreadyUsed

def completeDeviceSession (session : Session) (credentials : List Json)
    (responseCode : String) : Api Unit := do
  let t ← now
  let completed ← updateIfUnconsumed session.tenantId session.id
    { completeUpdate credentials responseCode t with responseEncryptionPrivateJwk := none }
  ensure completed presentationAlreadyUsed

/-! ## Creating and serving a request -/

def resolveWebhook (session : Session) (endpointId : Option String) : Api (Option String) :=
  match session.parsedWebhook with
  | some url => ret (some url)
  | none =>
    if truthy endpointId then ask (.webhookEndpoint session.tenantId endpointId) else ret none

/-- `createAuthorizationRequest`: a new nonce and a new response key for the session. -/
def createAuthorizationRequest (sessionId : String) (noRedirect : Bool) : Api String := do
  let session ← getForInternalFlow sessionId
  let _ ← onlyIf noRedirect 0
    (updateForTenant session.tenantId session.id { redirectUri := some none })
  let config ← ask (.presentationConfig (session.requestId.getD "") session.tenantId)
  let nonce ← fresh
  let _ ← updateForTenant session.tenantId session.id { vp_nonce := some nonce }
  let key ← ask .encryptionKeyPair
  let _ ← updateForTenant session.tenantId session.id
    { responseEncryptionPrivateJwk := some (some key.privateJwk) }
  ask (.signAuthorizationRequest config session nonce key.publicJwk)

/-- What a new request writes into the session it is created for: the wallet-facing nonce,
the request and its lifetime. -/
def requestUpdate (walletNonce uri clientId : String) (expiresAt : Time) (useDcApi : Bool) :
    SessionUpdate where
  walletNonce := some walletNonce
  requestUrl := some ("openid4vp://?" ++ uri)
  expiresAt := some expiresAt
  useDcApi := some useDcApi
  clientId := some clientId

/-- What a fresh session of a request has beside `requestUpdate`. -/
def freshRequestUpdate (w : World) (config : PresentationConfig)
    (values : PresentationRequestOptions) (requestId walletNonce : String)
    (webhook : Option String) (u : SessionUpdate) : SessionUpdate :=
  { u with
    webhookEndpointId := config.webhookEndpointId
    parsedWebhook := values.webhook.or webhook
    redirectUri := (values.redirectUri.or config.redirectUri).map some
    requestId := some requestId
    reference := values.reference
    responseUri :=
      if u.useDcApi == some true then none
      else some (w.publicUrl ++ "/presentations/" ++ walletNonce ++ "/oid4vp")
    transaction_data := values.transaction_data.or config.transaction_data }

/-- `createRedirectUriRequest`: an unsigned request passed by value, with its own nonce. -/
def createRedirectUriRequest (w : World) (config : PresentationConfig)
    (values : PresentationRequestOptions) (tenantId requestId id : String) :
    Api PresentationOffer := do
  let walletNonce ← fresh
  let nonce ← fresh
  let responseUri := w.publicUrl ++ "/presentations/" ++ walletNonce ++ "/oid4vp"
  let (_, uri) ← ask (.requestParameters config walletNonce)
  let t ← now
  let update := { requestUpdate walletNonce uri ("redirect_uri:" ++ responseUri)
      (t.plusSeconds (config.lifeTime.getD 300)) false with
    responseUri := some responseUri
    vp_nonce := some nonce }
  if values.session.isNone then do
    let webhook ← onlyIf (truthy config.webhookEndpointId) none
      (ask (.webhookEndpoint tenantId config.webhookEndpointId))
    let _ ← createSession id tenantId
      (freshRequestUpdate w config values requestId walletNonce webhook update)
    return { uri, session := id }
  else do
    let _ ← updateForTenant tenantId id update
    return { uri, session := id }

/-- A signed request, referenced by the wallet nonce: a fresh session gets its request
object at once, an existing one only the new nonce and lifetime. -/
def createSignedRequest (w : World) (config : PresentationConfig)
    (values : PresentationRequestOptions) (tenantId requestId id : String) (useDcApi : Bool) :
    Api PresentationOffer := do
  let walletNonce ← fresh
  let (clientId, uri) ← ask (.requestParameters config walletNonce)
  let t ← now
  let update := requestUpdate walletNonce uri clientId
    (t.plusSeconds (config.lifeTime.getD 300)) useDcApi
  if values.session.isNone then do
    let webhook ← onlyIf (truthy config.webhookEndpointId) none
      (ask (.webhookEndpoint tenantId config.webhookEndpointId))
    let session ← createSession id tenantId
      (freshRequestUpdate w config values requestId walletNonce webhook update)
    let signedJwt ← createAuthorizationRequest session.id false
    let _ ← updateForTenant tenantId id { requestObject := some signedJwt }
    return { uri, session := id }
  else do
    let _ ← updateForTenant tenantId id update
    return { uri, session := id }

/-- `values.session || v4()`. -/
def requestSession (values : PresentationRequestOptions) : Api String :=
  if truthy values.session then ret (values.session.getD "") else fresh

/-- **`Oid4vpService.createRequest`.** -/
def createRequest (w : World) (requestId : String) (values : PresentationRequestOptions)
    (tenantId : String) (useDcApi : Bool) : Api PresentationOffer := do
  let config ← ask (.presentationConfig requestId tenantId)
  let id ← requestSession values
  if values.redirectUriScheme.getD config.redirectUriScheme then do
    ensure (!useDcApi) (badRequest ("The redirect_uri client identifier scheme cannot be used " ++
      "with the Digital Credentials API"))
    createRedirectUriRequest w config values tenantId requestId id
  else createSignedRequest w config values tenantId requestId id useDcApi

/-- `assertSessionUsable`, as HTTP 400. -/
def assertUsable (session : Session) (t : Time) : Except ApiError Unit :=
  match sessionUnusable session t with
  | none => .ok ()
  | some reason => .error (badRequest (sessionNotUsableMessage reason))

def serveRequestObject (session : Session) (noRedirect : Bool) : Api String :=
  match session.requestObject with
  | some requestObject => do
    let _ ← onlyIf noRedirect 0
      (updateForTenant session.tenantId session.id { redirectUri := some none })
    return requestObject
  | none => do
    let requestObject ← createAuthorizationRequest session.id noRedirect
    let _ ← updateForTenant session.tenantId session.id
      { requestObject := some requestObject }
    return requestObject

/-- **`RetrievePresentationRequest.execute`**: an active session becomes fetched. -/
def retrievePresentationRequest (nonce : String) (noRedirect : Bool) : Api String := do
  let session ← getForWalletRequest nonce
  let t ← now
  ofExcept (assertUsable session t)
  let requestObject ← serveRequestObject session noRedirect
  let _ ← changeStateExecuteFrom session.ref [.active] .fetched
  return requestObject

/-! ## Answering a request -/

inductive PresentationReply where
  | redirect (r : PresentationRedirect)
  | credentials (cs : List Json)
  | empty

def errorRedirect (redirectUri sessionId error : String) (description : Option String) :
    PresentationRedirect where
  redirectUri
  sessionId
  params := ("error", error) ::
    (if truthy description then [("error_description", description.getD "")] else [])

def sessionWebhookEndpoint (session : Session) : Api (Option String) :=
  match session.webhookEndpointId, session.requestId with
  | some id, _ => ret (some id)
  | none, some requestId => do
    let config ← ask (.presentationConfig requestId session.tenantId)
    return config.webhookEndpointId
  | none, none => ret none

def resolveSessionWebhook (session : Session) : Api (Option String) := do
  let endpointId ← sessionWebhookEndpoint session
  resolveWebhook session endpointId

/-- `resolveFailureWebhook`: best effort. -/
def resolveFailureWebhook (session : Session) : Api (Option String) := do
  match ← (resolveSessionWebhook session).attempt with
  | .ok webhook => return webhook
  | .error _ => return none

/-- `Iso18013Service.failSession`: recorded first, then reported. -/
def failDeviceSession (session : Session) (reason : String) (failure : PresentationFailure) :
    Api Unit := do
  let updated ← updateIfUnconsumed session.tenantId session.id
    { failUpdate failure with
      responseEncryptionPrivateJwk := none
      errorReason := some reason }
  if updated then do
    let webhook ← resolveFailureWebhook session
    let _ ← publishResult webhook session.id .failed
    return ()
  else return ()

/-- `handleWalletError`: a wallet that declined fails the session. -/
def handleWalletError (session : Session) (e : WalletError) : Api PresentationReply := do
  let message := match e.error_description with
    | some description => if description == "" then e.error else e.error ++ ": " ++ description
    | none => e.error
  let webhook ← resolveFailureWebhook session
  let failure ← failPresentation session
    { message := "Wallet error: " ++ message, code := some e.error } webhook
  match failure with
  | none => fail presentationAlreadyUsed
  | some redirect =>
    let target := orElse redirect session.redirectUri
    if truthy target then
      return .redirect (errorRedirect (target.getD "") session.id e.error e.error_description)
    else return .empty

/-- The decrypted response: an unencrypted `direct_post` under the redirect_uri scheme, a JWE
otherwise. -/
def decryptAuthorizationResponse (w : World) (session : Session) (body : AuthorizationResponse) :
    Api DecryptedResponse :=
  if "redirect_uri:".toList.isPrefixOf (session.clientId.getD "").toList then
    match body.vp_token with
    | none => fail (badRequest "Missing vp_token in authorization response")
    | some (.str s) =>
      match w.parseJson s with
      | some token => ret (.vpToken token body.state)
      | none => fail (badRequest "Invalid vp_token in authorization response: not valid JSON")
    | some token => ret (.vpToken token body.state)
  else do
    ensure (truthy body.response)
      (badRequest "Missing response field in authorization response")
    ask (.decryptResponse (body.response.getD "") session.tenantId
      session.responseEncryptionPrivateJwk)

def stateMismatch : PresentationFailure where
  message := "Presentation validation failed: State mismatch: response state does not match " ++
    "expected value"

def rejectPresentation (session : Session) (failure : PresentationFailure)
    (webhook : Option String) : Api PresentationReply := do
  let recorded ← failPresentation session failure webhook
  let target := orElse (recorded.getD none) session.redirectUri
  if truthy target then
    fail (.http 400 (target.getD "") (some failure.message))
  else fail (.http 400 "" none)

/-- Verify, check the state and complete; a concurrent response that won is reported as
used. -/
def processPresentation (session : Session) (sendResponse : Bool) (token : Json)
    (state : Option String) : Api PresentationReply := do
  let config ← ask (.presentationConfig (session.requestId.getD "") session.tenantId)
  let webhook ← resolveWebhook session (session.webhookEndpointId.or config.webhookEndpointId)
  match ← ask (.verifyPresentation { config, session, token }) with
  | .error failure => rejectPresentation session failure webhook
  | .ok credentials => do
    let responseCode ← fresh
    if truthy state && state != some (session.walletNonce.getD session.id) then
      rejectPresentation session stateMismatch webhook
    else do
      completePresentation session credentials responseCode
      let published ← publishResult webhook session.id .completed
      let target := orElse published session.redirectUri
      if truthy target then
        return .redirect
          { redirectUri := target.getD ""
            sessionId := session.id
            params := [("response_code", responseCode)] }
      else if sendResponse then return .credentials credentials
      else return .empty

/-- **`Oid4vpService.getResponse`.** -/
def getResponse (w : World) (body : AuthorizationResponse) (nonce : String) :
    Api PresentationReply := do
  let session ← getForWalletRequest nonce
  ensure (!session.consumed) presentationAlreadyUsed
  let t ← now
  ofExcept (assertUsable session t)
  match body.walletError? with
  | some e => handleWalletError session e
  | none => do
    match ← decryptAuthorizationResponse w session body with
    | .walletError e => handleWalletError session e
    | .malformed issues =>
      fail (badRequest ("Invalid authorization response: " ++ issues))
    | .vpToken token state => do
      ensure (validVpToken token) (badRequest "Invalid authorization response: vp_token")
      processPresentation session body.sendResponse token state

/-- **`Iso18013Service.processResponse`.** -/
def processDeviceResponse (sessionId encrypted : String) : Api PresentationReply := do
  let session ← orThrow (getIso18013 sessionId) (.http 404 "ISO 18013-7 session not found" none)
  ensure (!session.consumed) presentationAlreadyUsed
  let t ← now
  ofExcept (assertUsable session t)
  match ← ask (.openDeviceResponse session encrypted) with
  | .error reason => do
    failDeviceSession session reason { message := "HPKE decryption failed" }
    fail (badRequest "HPKE decryption failed")
  | .ok token => do
    let config ← ask (.presentationConfig (session.requestId.getD "") session.tenantId)
    match ← ask (.verifyPresentation { config, session, token }) with
    | .error failure => do
      failDeviceSession session failure.message failure
      fail (.http 400 (failure.code.getD "") (some failure.message))
    | .ok credentials => do
      let responseCode ← fresh
      completeDeviceSession session credentials responseCode
      let webhook ← resolveSessionWebhook session
      let published ← publishResult webhook session.id .completed
      let target := orElse published session.redirectUri
      if truthy target then
        return .redirect
          { redirectUri := target.getD ""
            sessionId := session.id
            params := [("response_code", responseCode)] }
      else return .empty

end Eudiplo
