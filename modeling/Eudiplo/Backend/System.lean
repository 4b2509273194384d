import Eudiplo.HostedAs.Operations
import Eudiplo.Interactive.Operations
import Eudiplo.Issuance.Operations

/-!
# The backend as a system

`Request` is everything a client, an operator or the maintenance timer can ask of the
modelled endpoints, `program` the handler of each, and `backend w` the system of all
of them over one store.  A claim about "every interleaving" quantifies over the
schedules of `backend w`.
-/

namespace Eudiplo

open Concurrency Prog

inductive Request where
  | createOffer (tenantId : String) (request : OfferRequest)
  | pushAuthorization (q : PushedAuthorizationRequest)
  | authorize (q : AuthorizeRequest)
  | token (q : AccessTokenRequest)
  | interactiveInitial (tenantId : String) (q : InteractiveInitialRequest)
  | interactiveFollowUp (tenantId : String) (q : InteractiveFollowUpRequest)
  | completeWeb (tenantId authSession : String)
  | credential (q : CredentialRequest)
  | notification (q : NotificationRequest)
  | createPresentation (tenantId requestId : String) (values : PresentationRequestOptions)
      (useDcApi : Bool)
  | retrievePresentation (nonce : String) (noRedirect : Bool)
  | presentation (body : AuthorizationResponse) (nonce : String)
  | deviceResponse (sessionId encrypted : String)
  | cancel (command : CancelSessionCommand)
  | cleanup
  | hostedPar (server : HostedServer) (q : HostedPar)
  | chainedAuthorize (q : HostedAuthorize)
  | managedAuthorize (id : String) (q : HostedAuthorize)
  | upstreamCallback (q : UpstreamCallback)
  | verifierCallback (id : String) (q : VerifierCallback)
  | hostedToken (server : HostedServer) (q : HostedToken)

inductive Response where
  | offer (r : CreatedOffer)
  | pushed (r : PushedResponse)
  | redirect (r : AuthorizationRedirect)
  | token (r : TokenResponse)
  | interactive (r : InteractiveResponse)
  | webCompleted (updated : Bool)
  | credential (r : CredentialResponse)
  | notified (publicationFailed : Bool)
  | presentationOffer (r : PresentationOffer)
  | requestObject (r : String)
  | presentation (r : PresentationReply)
  | upstream (r : UpstreamRedirect)
  | managedRedirect (r : ManagedRedirect)
  | wallet (r : WalletRedirect)
  | done

/-- Is it a token response? -/
def Response.isToken : Response → Bool
  | .token _ => true
  | _ => false

/-- Does it issue this refresh token? -/
def Response.isTokenWith (rt : String) : Response → Bool
  | .token r => r.refresh_token == some rt
  | _ => false

/-- Does it push a request under this uri? -/
def Response.isPushedAs (uri : String) : Response → Bool
  | .pushed r => r.request_uri == uri
  | _ => false

/-- Does it redirect with this code? -/
def Response.isRedirectWith (code : String) : Response → Bool
  | .redirect r => r.code == some code
  | _ => false

def hostedParProgram (w : World) (server : HostedServer) (q : HostedPar) : Api PushedResponse :=
  match server with
  | .chained => chainedPar w q
  | .managed id => managedPar w id q

def hostedTokenProgram (w : World) (server : HostedServer) (q : HostedToken) :
    Api TokenResponse :=
  match server with
  | .chained => chainedToken w q
  | .managed id => managedToken w id q

/-- `handleRequest` of the interactive endpoint: an error is an answer. -/
def interactiveProgram (p : Api InteractiveResponse) : Api InteractiveResponse := do
  match ← p.attempt with
  | .ok r => return r
  | .error e => return interactiveError e

def answering {α : Type} (f : α → Response) (p : Api α) : Api Response :=
  p.bind fun a => ret (f a)

/-- **The handler of every request.** -/
def program (w : World) : Request → Api Response
  | .createOffer tenantId request => answering .offer (createCredentialOffer tenantId request)
  | .pushAuthorization q => answering .pushed (pushAuthorizationRequest w q)
  | .authorize q => answering .redirect (authorizePushedRequest w q)
  | .token q => answering .token (exchangeAccessToken w q)
  | .interactiveInitial tenantId q =>
    answering .interactive (interactiveProgram (handleInitialRequest w tenantId q))
  | .interactiveFollowUp tenantId q =>
    answering .interactive (interactiveProgram (handleFollowUpRequest w tenantId q))
  | .completeWeb tenantId authSession =>
    answering .webCompleted (completeWebAuthorization tenantId authSession)
  | .credential q => answering .credential (getCredential q)
  | .notification q => answering .notified (handleNotification q)
  | .createPresentation tenantId requestId values useDcApi =>
    answering .presentationOffer (createRequest w requestId values tenantId useDcApi)
  | .retrievePresentation nonce noRedirect =>
    answering .requestObject (retrievePresentationRequest nonce noRedirect)
  | .presentation body nonce => answering .presentation (getResponse w body nonce)
  | .deviceResponse sessionId encrypted =>
    answering .presentation (processDeviceResponse sessionId encrypted)
  | .cancel command => answering (fun _ => .done) (cancelSession command)
  | .cleanup => answering (fun _ => .done) cleanupSessions
  | .hostedPar server q => answering .pushed (hostedParProgram w server q)
  | .chainedAuthorize q => answering .upstream (chainedAuthorize w q)
  | .managedAuthorize id q => answering .managedRedirect (managedAuthorize w id q)
  | .upstreamCallback q => answering .wallet (upstreamCallback w q)
  | .verifierCallback id q => answering .wallet (verifierCallback w id q)
  | .hostedToken server q => answering .token (hostedTokenProgram w server q)

/-- **The backend**: its surroundings let time pass. -/
def backend (w : World) : System Reply Store Nat Request ApiError Response where
  answer := answer w
  drift := passTime
  program := program w

abbrev State := Global Reply Store Request

abbrev Backend := Config Reply Store Request ApiError Response

/-- A schedule of the backend; a drift of `n` lets `n` milliseconds pass. -/
abbrev Schedule := List (Move Nat Request)

abbrev Answered := Event Reply

end Eudiplo
