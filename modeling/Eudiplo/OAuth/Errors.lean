import Eudiplo.Session.Data

/-!
# Errors

`OAuthError` (`oauth-error.ts`) is what the built-in authorization server rejects a
request with; `ApiError` collects it with the errors of the other handlers.  Server
side log details are left out: no client ever sees them.

The OAuth library reports failures as objects of several shapes; `LibraryError` has
the members `token-errors.ts` looks at.
-/

namespace Eudiplo

inductive OAuthErrorCode where
  | invalid_request
  | invalid_client
  | invalid_grant
  | unauthorized_client
  | unsupported_grant_type
  | invalid_scope
  | invalid_tx_code
  | invalid_dpop_proof
  | unsupported_response_type
  | invalid_request_uri
  deriving DecidableEq

inductive NotCancellableReason where
  | status (status : SessionStatus)
  | redeemed
  deriving DecidableEq

inductive ApiError where
  | oauth (code : OAuthErrorCode) (description : Option String)
      (clientAuthenticationFailed : Bool)
  | sessionNotFound
  | sessionNotCancellable (reason : NotCancellableReason)
  | sessionAttemptTargetNotFound
  | credentialNotificationNotFound (notificationId : String)
  | requestUriMissing
  | http (status : Nat) (error : String) (description : Option String)
  deriving DecidableEq

namespace ApiError

/-- `new OAuthError(code, description)`. -/
def oauthError (code : OAuthErrorCode) (description : String) : ApiError :=
  .oauth code (some description) false

/-- `new OAuthError("invalid_grant", description)`. -/
def invalidGrant (description : String) : ApiError := oauthError .invalid_grant description

/-- `new OAuthError("invalid_request", description)`. -/
def invalidRequest (description : String) : ApiError :=
  oauthError .invalid_request description

end ApiError

/-- An error thrown by the OAuth library: `errorResponse.error`, `error`, and the
descriptions in the order `describeLibraryError` tries them. -/
structure LibraryError where
  responseError : Option String := none
  error : Option String := none
  responseDescription : Option String := none
  errorDescription : Option String := none
  message : Option String := none
  causeMessage : Option String := none
  deriving DecidableEq

/-- `toTokenErrorCode`: the OAuth token error code for an error code of the library. -/
def toTokenErrorCode (errorCode : Option String) : OAuthErrorCode :=
  match errorCode with
  | none => .invalid_request
  | some code =>
    if code == "" then .invalid_request
    else if code == "invalid_grant" then .invalid_grant
    else if code == "invalid_client" then .invalid_client
    else if code == "invalid_request" then .invalid_request
    else if code == "invalid_tx_code" then .invalid_tx_code
    else if code == "invalid_dpop_proof" then .invalid_dpop_proof
    else if includes code "tx_code" || includes code "transaction" then .invalid_tx_code
    else if includes code "pre-authorized" || includes code "pre_authorized" then .invalid_grant
    else .invalid_request

/-- `describeLibraryError`: the best description of a library error, if it has one. -/
def describeLibraryError (e : LibraryError) : Option String :=
  if nonEmpty e.responseDescription then e.responseDescription
  else if nonEmpty e.errorDescription then e.errorDescription
  else if nonEmpty e.message then e.message
  else if nonEmpty e.causeMessage then e.causeMessage
  else none

def oauthErrorFromLibrary (e : LibraryError) : ApiError :=
  .oauth (toTokenErrorCode e.responseError) (describeLibraryError e) false

/-- `assertOfferRedeemable` (`offer-redemption.ts`). -/
def assertOfferRedeemable (session : Session) (now : Time) (code : OAuthErrorCode) :
    Except ApiError Unit :=
  match sessionUnusable session now with
  | none => .ok ()
  | some .expired => .error (.oauthError code "The credential offer has expired")
  | some _ => .error (.oauthError code "The credential offer is no longer valid")

theorem assertOfferRedeemable_eq_ok {session : Session} {now : Time} {code : OAuthErrorCode}
    {u : Unit} :
    assertOfferRedeemable session now code = .ok u ↔ sessionUnusable session now = none := by
  unfold assertOfferRedeemable
  split <;> simp_all

end Eudiplo
