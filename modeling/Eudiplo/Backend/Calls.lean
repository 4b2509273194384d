import Eudiplo.Concurrency.System
import Eudiplo.HostedAs.Data
import Eudiplo.Interactive.Data
import Eudiplo.Presentation.Data
import Eudiplo.Storage.Table

/-!
# The calls a handler awaits

A handler of the backend awaits four kinds of things, and `Call` has a constructor
group for each:

- the session repository (`SessionCall`, `typeorm-session.repository.ts`);
- the repository of interactive authorization sessions (`InteractiveCall`);
- the repository of the hosted authorization servers (`ChainedCall`);
- everything else (`EnvCall`): the clock, a fresh random value, and `Question`s to
  code outside the model: libraries, signing keys, configuration, upstream servers.
-/

namespace Eudiplo

open Storage

/-! ## Questions -/

inductive Question where
  | issuanceConfiguration (tenantId : String)
  | builtInMetadata (tenantId : String)
  | verifyClientAttestation (tenantId : String) (attestation : Option ClientAttestation)
      (expectedAudience : String) (required : Bool) (trustLists : List String)
  | verifyPreAuthorizedCode (q : VerifyPreAuthorizedCode)
  | verifyAuthorizationCode (q : VerifyAuthorizationCode)
  | verifyRefreshToken (q : VerifyRefreshToken)
  | verifyPushedAuthorizationRequest (q : VerifyPushedAuthorizationRequest)
  | createAccessTokenResponse (q : CreateAccessTokenResponse)
  | sessionTtlSeconds (tenantId : String)
  | defaultKeyId (tenantId : String)
  | publicJwk (tenantId keyId : String)
  | selectAuthorizationServer (tenantId : String) (requested : Option String)
  | validateClaims (tenantId configurationId : String) (claims : Json)
  | encodeOffer (session : Session) (configurationIds : List String) (grants : Json)
  | presentationConfig (requestId tenantId : String)
  | presentationConfigIds (tenantId : String)
  | requestParameters (config : PresentationConfig) (walletNonce : String)
  | encryptionKeyPair
  | signAuthorizationRequest (config : PresentationConfig) (session : Session)
      (nonce publicJwk : String)
  | decryptResponse (response tenantId : String) (key : Option String)
  | verifyPresentation (q : VerifyPresentation)
  | openDeviceResponse (session : Session) (encrypted : String)
  | publishResult (sessionId : String) (status : SessionStatus)
  | webhookEndpoint (tenantId : String) (webhookEndpointId : Option String)
  | publishNotification (session : Session) (notification : Notification)
  | recordCancellation (tenantId sessionId : String) (reason : Option String)
  | tenantRetention
  | credentialActions (credentialConfigurationId tenantId : String)
  | verifyDpopProof (issuer endpoint : String) (dpop : DpopCheck)
  | discovery (tenantId issuer : String)
  | exchangeUpstreamCode (q : UpstreamExchange)
  | signJwt (tenantId keyId : String) (payload : HostedTokenPayload)
  | tokenSession (tenantId accessToken : String)
  | issueCredentials (session : Session) (body : String)

/-- A tenant's session retention: its identifier, time to live and whether its expired
sessions are anonymized rather than deleted. -/
structure TenantRetention where
  tenantId : String
  ttlSeconds : Nat
  anonymize : Bool

/-- What the issuance pipeline does with a credential request: issue credentials of a
configuration, or defer them. -/
inductive IssuanceResult where
  | issued (credentialConfigurationId credentialResponse : String)
  | deferred (transactionId : String)

abbrev Question.Payload : Question → Type
  | .issuanceConfiguration _ => IssuanceConfiguration
  | .builtInMetadata _ => Unit
  | .verifyClientAttestation .. => Except String Unit
  | .verifyPreAuthorizedCode _ => Except LibraryError (Option String)
  | .verifyAuthorizationCode _ => Except LibraryError (Option String)
  | .verifyRefreshToken _ => Except LibraryError (Option String)
  | .verifyPushedAuthorizationRequest _ => Except LibraryError (Option String)
  | .createAccessTokenResponse _ => Except LibraryError TokenResponse
  | .sessionTtlSeconds _ => Nat
  | .defaultKeyId _ => String
  | .publicJwk .. => Json
  | .selectAuthorizationServer .. => String × Option String
  | .validateClaims .. => Unit
  | .encodeOffer .. => Json × String
  | .presentationConfig .. => PresentationConfig
  | .presentationConfigIds _ => List String
  | .requestParameters .. => String × String
  | .encryptionKeyPair => EncryptionKeyPair
  | .signAuthorizationRequest .. => String
  | .decryptResponse .. => DecryptedResponse
  | .verifyPresentation _ => Except PresentationFailure (List Json)
  | .openDeviceResponse .. => Except String Json
  | .publishResult .. => Option String
  | .webhookEndpoint .. => Option String
  | .publishNotification .. => Unit
  | .recordCancellation .. => Unit
  | .tenantRetention => List TenantRetention × Nat
  | .credentialActions .. => Option (List IaeAction)
  | .verifyDpopProof .. => Option String
  | .discovery .. => OidcDiscovery
  | .exchangeUpstreamCode _ => UpstreamTokens
  | .signJwt .. => String
  | .tokenSession .. => String
  | .issueCredentials .. => IssuanceResult

/-! ## Repository calls -/

/-- `SessionType`: the scope of a management request. -/
inductive SessionType where
  | issuance
  | presentation
  deriving DecidableEq

/-- The methods of `SessionRepository`. -/
inductive SessionCall where
  | create (id tenantId : String) (u : SessionUpdate)
  | updateForTenant (tenantId id : String) (u : SessionUpdate)
  | updateUnconsumedForTenant (tenantId id : String) (u : SessionUpdate)
  | consumeRequestUri (tenantId id : String) (expiresAt now : Time)
  | findForTenant (tenantId id : String) (type : Option SessionType)
  | findByIdForInternalFlow (id : String)
  | findForWalletRequest (walletNonce : String)
  | findIso18013Session (id : String)
  | findByAuthorizationCode (tenantId code : String)
  | findByRefreshToken (tenantId token : String)
  | findByRequestUri (tenantId uri : String)
  | incrementFailedTxCodeAttempts (tenantId id : String)
  | changeState (tenantId id : String) (u : SessionUpdate)
  | changeStateFrom (tenantId id : String) (from_ : List SessionStatus) (u : SessionUpdate)
  | findExpiredSessionsForMaintenance (before : Time)
  | deleteSessionsCreatedBefore (tenantId : String) (cutoff : Time)
  | anonymizeSessionsCreatedBefore (tenantId : String) (cutoff : Time)
  | deleteOrphanedSessionsCreatedBefore (knownTenantIds : List String) (cutoff : Time)

/-- `SessionLifecycleContext`: the identity of a session. -/
structure SessionRef where
  id : String
  tenantId : String
  requestId : Option String := none
  deriving DecidableEq

/-- Results of `SessionRepository`. -/
abbrev SessionCall.Reply : SessionCall → Type
  | .create .. => Session
  | .updateForTenant .. => Nat
  | .updateUnconsumedForTenant .. => Bool
  | .consumeRequestUri .. => Bool
  | .findForTenant .. => Option Session
  | .findByIdForInternalFlow _ => Option Session
  | .findForWalletRequest _ => Option Session
  | .findIso18013Session _ => Option Session
  | .findByAuthorizationCode .. => Option Session
  | .findByRefreshToken .. => Option Session
  | .findByRequestUri .. => Option Session
  | .incrementFailedTxCodeAttempts .. => Option Nat
  | .changeState .. => Unit
  | .changeStateFrom .. => Bool
  | .findExpiredSessionsForMaintenance _ => List SessionRef
  | .deleteSessionsCreatedBefore .. => Nat
  | .anonymizeSessionsCreatedBefore .. => Nat
  | .deleteOrphanedSessionsCreatedBefore .. => Nat

/-- The methods of `InteractiveAuthSessionRepository`. -/
inductive InteractiveCall where
  | create (s : InteractiveAuthSession)
  | findForTenant (tenantId authSession : String)
  | update (id : String) (changes : InteractiveAuthSessionUpdate)
  | updateForTenant (tenantId authSession : String) (changes : InteractiveAuthSessionUpdate)
  | delete (id : String)

/-- Results of `InteractiveAuthSessionRepository`. -/
abbrev InteractiveCall.Reply : InteractiveCall → Type
  | .create _ => Unit
  | .findForTenant .. => Option InteractiveAuthSession
  | .update .. => Unit
  | .updateForTenant .. => Bool
  | .delete _ => Unit

/-- The methods of `ChainedAsSessionRepository`. -/
inductive ChainedCall where
  | save (s : ChainedAsSession)
  | findForTenant (tenantId id : String) (status : ChainedAsStatus)
  | findByUpstreamState (tenantId upstreamState : String) (status : Option ChainedAsStatus)
  | findAuthorizedByCode (tenantId code : String)
  | findByRefreshToken (tenantId refreshToken : String)

/-- Results of `ChainedAsSessionRepository`. -/
abbrev ChainedCall.Reply : ChainedCall → Type
  | .save _ => Unit
  | .findForTenant .. => Option ChainedAsSession
  | .findByUpstreamState .. => Option ChainedAsSession
  | .findAuthorizedByCode .. => Option ChainedAsSession
  | .findByRefreshToken .. => Option ChainedAsSession

inductive EnvCall where
  /-- `new Date()`. -/
  | now
  /-- `randomUUID()`, `v4()`, `randomBytes(32)`: a value nobody has seen. -/
  | fresh
  /-- A question to code outside the model. -/
  | ask (q : Question)

/-- Results of environment calls; a question may also make its handler throw. -/
abbrev EnvCall.Reply : EnvCall → Type
  | .now => Time
  | .fresh => String
  | .ask q => Except ApiError q.Payload

inductive Call where
  | session (c : SessionCall)
  | interactive (c : InteractiveCall)
  | chained (c : ChainedCall)
  | env (c : EnvCall)

abbrev Reply : Call → Type
  | .session c => c.Reply
  | .interactive c => c.Reply
  | .chained c => c.Reply
  | .env c => c.Reply

/-- **Handlers of the backend**: programs over these calls that may throw. -/
abbrev Api (α : Type) := Concurrency.Prog Reply ApiError α

end Eudiplo
