import Eudiplo.Keys.KeyChains
import Eudiplo.Presentation.Operations

/-!
# ISO 18013-7 offers

`Iso18013Service`: an offer advertises the tenant's encryption key and keeps a nonce; when
the response arrives, key and transcript are computed again from the tenant's encryption
key at that moment.  A response that cannot be opened fails the session.
-/

namespace Eudiplo

open Concurrency Prog

/-- What `createOffer` is called with. -/
structure OfferCall where
  requestId : String
  tenantId : String
  origin : String
  webhook : Option String := none
  reference : Option String := none
  deriving DecidableEq

/-- `Iso18013Offer`, without its empty URIs. -/
structure Iso18013Offer where
  session : String
  device_request : String
  encryption_info : String
  deriving DecidableEq

namespace Iso18013Service

def offeredRequest (requestId : String) (config : OfferConfig) : Except ApiError DeviceRequest :=
  match offerRequest requestId config.query with
  | .ok request => .ok request
  | .error (.badRequest message) => .error (Eudiplo.badRequest message)
  | .error _ => .error (Eudiplo.badRequest "")

def readerAuth (q : OfferCall) (config : OfferConfig) (request : DeviceRequest)
    (encryptionInfo : String) : KeyApi (Option String) :=
  if config.readerAuth then do
    let signed ← askKeys
      (.readerAuth q.tenantId config.accessKeyChainId request encryptionInfo q.origin)
    return some signed
  else ret none

def resolveWebhookFromEndpoint (webhookEndpointId : Option String) (tenantId : String) :
    KeyApi (Option String) :=
  if truthy webhookEndpointId then askKeys (.webhookEndpoint webhookEndpointId tenantId)
  else ret none

def offerSession (q : OfferCall) (config : OfferConfig) (nonce : String) (expiresAt : Time)
    (webhook : Option String) : SessionUpdate where
  requestId := some q.requestId
  reference := q.reference
  useDcApi := some true
  dcApiProtocol := some "iso-18013-7"
  browserOrigin := some q.origin
  vp_nonce := some nonce
  webhookEndpointId := config.webhookEndpointId
  parsedWebhook := webhook
  redirectUri := config.redirectUri.map some
  expiresAt := some expiresAt
  status := some .active

/-- **`createOffer`.** -/
def createOffer (w : KeyWorld) (q : OfferCall) : KeyApi Iso18013Offer := do
  let config ← askKeys (.presentationConfig q.requestId q.tenantId)
  let pubJwk ← EncryptionService.getEncryptionPublicKey q.tenantId
  let nonce ← askKeys .randomBytes
  let sessionId ← keyUuid
  let request ← ofExcept (offeredRequest q.requestId config)
  let encryptionInfo := w.buildEncryptionInfo pubJwk.x pubJwk.y nonce
  let signed ← readerAuth q config request encryptionInfo
  let now ← keyNow
  let endpointWebhook ← resolveWebhookFromEndpoint config.webhookEndpointId q.tenantId
  let _ ← isoSessions (.create sessionId q.tenantId
    (offerSession q config nonce (now.plusSeconds (config.lifeTime.getD 300))
      (q.webhook.or endpointWebhook)))
  return { session := sessionId
           device_request := w.encodeDeviceRequest request signed
           encryption_info := encryptionInfo }

def resolveSessionWebhook (session : Session) : KeyApi (Option String) :=
  match session.parsedWebhook with
  | some webhook => ret (some webhook)
  | none => resolveWebhookFromEndpoint session.webhookEndpointId session.tenantId

/-- `publishResult`: best effort. -/
def publishResult (webhook : Option String) (session : Session) (status : SessionStatus) :
    KeyApi (Option String) :=
  match webhook with
  | none => ret none
  | some _ => do
    let published ← (askKeys (.publishResult session status)).attempt
    return published.toOption.join

def failedUpdate (reason : String) (failure : PresentationFailure) : SessionUpdate :=
  { failUpdate failure with
    responseEncryptionPrivateJwk := none
    errorReason := some reason }

/-- `failSession`: recorded first, then reported. -/
def failSession (session : Session) (reason : String) (failure : PresentationFailure) :
    KeyApi Unit := do
  let updated ← isoSessions (.updateUnconsumedForTenant session.tenantId session.id
    (failedUpdate reason failure))
  if updated then do
    let webhook ← (resolveSessionWebhook session).attempt
    let _ ← publishResult webhook.toOption.join session .failed
    return ()
  else return ()

/-- The decryption of `processResponse`: with the private key, and the transcript of the
encryption info that key and the stored nonce give. -/
def openResponse (w : KeyWorld) (session : Session) (privJwk : Jwk) (enc cipherText : String) :
    Except String String :=
  let encryptionInfo := w.buildEncryptionInfo privJwk.x privJwk.y (session.vp_nonce.getD "")
  w.hpkeOpen enc cipherText privJwk (w.hpkeInfo encryptionInfo (session.browserOrigin.getD ""))

def hpkeFailure : PresentationFailure := { message := "HPKE decryption failed" }

def completeResponse (session : Session) (deviceResponse : String) :
    KeyApi (Option String) := do
  match ← askKeys (.verifyDeviceResponse session deviceResponse) with
  | .error failure => do
    failSession session failure.message failure
    fail (.http 400 (failure.code.getD "") (some failure.message))
  | .ok credentials => do
    let responseCode ← keyUuid
    let now ← keyNow
    let completed ← isoSessions (.updateUnconsumedForTenant session.tenantId session.id
      { completeUpdate credentials responseCode now with responseEncryptionPrivateJwk := none })
    ensure completed presentationAlreadyUsed
    let webhook ← resolveSessionWebhook session
    let published ← publishResult webhook session .completed
    let target := orElse published session.redirectUri
    return if truthy target then some (target.getD "" ++ "?response_code=" ++ responseCode)
      else none

/-- **`processResponse`.** -/
def processResponse (w : KeyWorld) (sessionId encrypted : String) : KeyApi (Option String) := do
  match ← isoSessions (.findIso18013Session sessionId) with
  | none => fail (.http 404 "ISO 18013-7 session not found" none)
  | some session => do
    ensure (!session.consumed) presentationAlreadyUsed
    let now ← keyNow
    ofExcept (assertUsable session now)
    let privJwk ← EncryptionService.getEncryptionPrivateJwk session.tenantId
    match w.parseEncryptedResponse encrypted with
    | .error message => fail (badRequest ("Invalid EncryptedResponse: " ++ message))
    | .ok (enc, cipherText) =>
      match openResponse w session privJwk enc cipherText with
      | .error message => do
        failSession session ("HPKE decryption failed: " ++ message) hpkeFailure
        fail (badRequest "HPKE decryption failed")
      | .ok deviceResponse => completeResponse session deviceResponse

end Iso18013Service

end Eudiplo
