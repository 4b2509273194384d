import Eudiplo.OAuth.Errors

/-!
# Presentation requests and responses

The configuration a presentation request is created from and the responses a wallet
posts to it.  What the verifier concludes from a decrypted response is asked of
`VerifyPresentation`: the credential formats and trust checks behind it are not part
of the session logic modelled here.
-/

namespace Eudiplo

structure PresentationConfig where
  id : String
  lifeTime : Option Nat := none
  webhookEndpointId : Option String := none
  redirectUri : Option String := none
  accessKeyChainId : Option String := none
  transaction_data : Option Json := none
  redirectUriScheme : Bool := false
  dcql_query : Json := .null

/-- `AuthorizationResponse`: what a wallet posts. -/
structure AuthorizationResponse where
  response : Option String := none
  vp_token : Option Json := none
  error : Option String := none
  error_description : Option String := none
  error_uri : Option String := none
  state : Option String := none
  sendResponse : Bool := false

structure WalletError where
  error : String
  error_description : Option String := none

/-- A decrypted authorization response: an error, or a `vp_token` with its state. -/
inductive DecryptedResponse where
  | walletError (e : WalletError)
  | vpToken (token : Json) (state : Option String)
  | malformed (issues : String)

/-- `generateEphemeralEncryptionKeyPair`: the key a response is encrypted to. -/
structure EncryptionKeyPair where
  publicJwk : String
  privateJwk : String

/-- `verifyPresentationResponse`: is `token` a valid answer to `session`'s request under
`config`? -/
structure VerifyPresentation where
  config : PresentationConfig
  session : Session
  token : Json

/-- Why a presentation was rejected: a message for the wallet, a failure code, and the
outcome of the credential that failed. -/
structure PresentationFailure where
  message : String
  code : Option String := none
  credential : Option Json := none

/-- `PresentationRequestOptions`: the session a request is created for (a new one when
absent) and the caller's overrides. -/
structure PresentationRequestOptions where
  session : Option String := none
  redirectUri : Option String := none
  webhook : Option String := none
  reference : Option String := none
  redirectUriScheme : Option Bool := none
  transaction_data : Option Json := none

/-- `OfferResponse`: the request the wallet is invoked with. -/
structure PresentationOffer where
  uri : String
  session : String

/-- `AuthResponseSchema`: every credential id maps to a non-empty array of strings. -/
def validVpToken : Json → Bool
  | .obj members => members.all fun m =>
      match m.2 with
      | .arr items => !items.isEmpty && items.all fun i => i.str?.isSome
      | _ => false
  | _ => false

structure PresentationRedirect where
  redirectUri : String
  sessionId : String
  params : List (String × String)

/-- `isWalletErrorResponse` on a posted body. -/
def AuthorizationResponse.walletError? (body : AuthorizationResponse) : Option WalletError :=
  body.error.map fun error => ⟨error, body.error_description⟩

/-- `sessionNotUsableException`: HTTP 400. -/
def sessionNotUsableMessage (reason : SessionStatus) : String :=
  match reason with
  | .expired => "The session has expired"
  | .completed => "The session is already completed"
  | .failed => "The session is already failed"
  | .cancelled => "The session is already cancelled"
  | .active => "The session is already active"
  | .fetched => "The session is already fetched"

/-- `new BadRequestException(message)`. -/
def badRequest (message : String) : ApiError := .http 400 message none

end Eudiplo
