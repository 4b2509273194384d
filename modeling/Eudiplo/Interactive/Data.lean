import Eudiplo.OAuth.TokenGrantRules

/-!
# Interactive authorization sessions

The rows of the interactive authorization endpoint (`interactive-auth-session.ts`).
The columns holding serialized JSON (`iaeActions`, `completedStepsData`) hold the
values here: writing and reading them back is the identity.
-/

namespace Eudiplo

/-- `IaeAction`: one configured step. -/
inductive IaeAction where
  | openid4vp_presentation (presentationConfigId : String) (label : Option String)
  | redirect_to_web (url : Option String) (description : Option String)
  deriving DecidableEq

/-- `InteractionType`: what a step asks the wallet to do. -/
inductive InteractionType where
  | openid4vp_presentation
  | redirect_to_web
  deriving DecidableEq

def IaeAction.interaction : IaeAction → InteractionType
  | openid4vp_presentation _ _ => .openid4vp_presentation
  | redirect_to_web _ _ => .redirect_to_web

/-- The identifier of an interaction type in `interaction_types_supported`. -/
def InteractionType.identifier : InteractionType → String
  | openid4vp_presentation => "openid4vp_presentation"
  | redirect_to_web => "redirect_to_web"

/-- The `status` column. -/
inductive InteractiveStatus where
  | pending
  | all_steps_completed
  | presentation_received
  | web_auth_completed
  | code_issued
  deriving DecidableEq

/-- One entry of `completedStepsData`. -/
structure CompletedStep where
  stepIndex : Nat
  type : InteractionType
  data : Option String := none
  completedAt : Time
  deriving DecidableEq

structure InteractiveAuthSession where
  id : String
  authSession : String
  tenantId : String
  clientId : String
  redirectUri : Option String := none
  scope : Option String := none
  codeChallenge : Option String := none
  codeChallengeMethod : Option String := none
  issuerState : Option String := none
  state : Option String := none
  authorizationDetails : Option (List Json) := none
  interactionTypesSupported : String
  status : InteractiveStatus
  requestUri : Option String := none
  parExpiresAt : Option Time := none
  presentationData : Option String := none
  iaeActions : Option (List IaeAction) := none
  currentStepIndex : Nat
  completedStepsData : List CompletedStep := []
  authorizationCode : Option String := none
  expiresAt : Time

/-- `InteractiveAuthSessionUpdate`: absent members keep their column. -/
structure InteractiveAuthSessionUpdate where
  status : Option InteractiveStatus := none
  requestUri : Option String := none
  parExpiresAt : Option Time := none
  presentationData : Option String := none
  currentStepIndex : Option Nat := none
  completedStepsData : Option (List CompletedStep) := none
  authorizationCode : Option String := none

def InteractiveAuthSession.apply (s : InteractiveAuthSession)
    (u : InteractiveAuthSessionUpdate) : InteractiveAuthSession :=
  { s with
    status := u.status.getD s.status
    requestUri := u.requestUri.or s.requestUri
    parExpiresAt := u.parExpiresAt.or s.parExpiresAt
    presentationData := u.presentationData.or s.presentationData
    currentStepIndex := u.currentStepIndex.getD s.currentStepIndex
    completedStepsData := u.completedStepsData.getD s.completedStepsData
    authorizationCode := u.authorizationCode.or s.authorizationCode }

@[simp] theorem InteractiveAuthSession.apply_id (s : InteractiveAuthSession)
    (u : InteractiveAuthSessionUpdate) : (s.apply u).id = s.id := rfl

@[simp] theorem InteractiveAuthSession.apply_authSession (s : InteractiveAuthSession)
    (u : InteractiveAuthSessionUpdate) : (s.apply u).authSession = s.authSession := rfl

/-- `s.split(",").map((t) => t.trim())`, on characters. -/
def splitTrim (s : List Char) : List (List Char) :=
  (s.splitOn ',').map fun t =>
    ((t.dropWhile Char.isWhitespace).reverse.dropWhile Char.isWhitespace).reverse

/-- `supportedTypes.includes(type)`. -/
def supportsInteraction (interactionTypesSupported : String) (type : InteractionType) : Bool :=
  (splitTrim interactionTypesSupported.toList).contains type.identifier.toList

/-- `currentInteraction`: the configured action's, otherwise the one the initial request
chose. -/
def currentInteraction (s : InteractiveAuthSession) : Option InteractionType :=
  match s.iaeActions with
  | some actions => actions[s.currentStepIndex]?.map IaeAction.interaction
  | none =>
    [InteractionType.openid4vp_presentation, .redirect_to_web].find?
      (supportsInteraction s.interactionTypesSupported)

/-- What an initial request carries (`InteractiveAuthInitialRequest`). -/
structure InteractiveInitialRequest where
  client_id : String
  interaction_types_supported : String
  redirect_uri : Option String := none
  scope : Option String := none
  code_challenge : Option String := none
  code_challenge_method : Option String := none
  authorization_details : Option (List Json) := none
  state : Option String := none
  issuer_state : Option String := none

/-- What a follow-up carries (`InteractiveAuthFollowUpRequest`). -/
structure InteractiveFollowUpRequest where
  auth_session : String
  openid4vp_response : Option String := none
  code_verifier : Option String := none

/-- `InteractiveAuthorizationResponse`. -/
inductive InteractiveResponse where
  | presentation (auth_session : String) (request : String)
  | web (auth_session : String) (request_uri : String) (expires_in : Nat)
  | code (code : String)
  | error (error : String) (error_description : Option String)
  deriving DecidableEq

end Eudiplo
