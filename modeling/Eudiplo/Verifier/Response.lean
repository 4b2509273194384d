import Eudiplo.Verifier.Formats

/-!
# Verifying a presentation response

`VerifyPresentationResponse` for OID4VP, and the same decision of `processResponse` for ISO
18013-7 once the response is decrypted.  Both ask the formats; they build the trust options
separately.
-/

namespace Eudiplo

/-! ## Inputs -/

structure SessionData where
  id : String
  tenantId : String
  useDcApi : Bool := false
  requestObject : Option String := none
  vp_nonce : Option String := none
  clientId : Option String := none
  responseUri : Option String := none
  skewSeconds : Option Nat := none
  deriving DecidableEq

/-- `PresentationQuery`: the parts of a configuration the verification reads. -/
structure PresentationQuery where
  tenantId : String
  statusCheckMode : Option RevocationCheckMode := none
  skewSeconds : Option Nat := none
  dcql_query : DcqlQuery
  deriving DecidableEq

/-- A `vp_token`: the presentations of every credential id. -/
abbrev VpToken := List (String × List String)

/-- **What the verification asks.** -/
structure ResponseWorld extends FormatWorld where
  publicUrl : String
  /-- `decodeJwt` of a request object. -/
  decodeRequestObject : String → Except String SignedRequest

/-- A verifier with no trust lists, whose libraries verify nothing. -/
def ResponseWorld.empty : ResponseWorld where
  getVerifierX509Der := fun _ _ => .error "Trust list not found"
  managedUrl := fun _ trustListId => trustListId
  cached := fun _ => none
  collect := fun _ => .ok { entities := [] }
  federationTrusts := fun _ _ => false
  encodeURIComponent := id
  parsesX5c := fun _ => true
  matchIssuer := fun _ _ => .ok ()
  sdJwt := fun _ _ _ => .error ⟨none, "Invalid SD JWT", false⟩
  decodeDeviceResponse := fun _ => .error "Invalid device response"
  deviceAuth := fun _ _ _ => .error ⟨"device_auth_failed", "", false⟩
  issuerAndStatus := fun _ _ _ => .ok ()
  hash := fun _ data => data
  decodeTransactionData := fun _ => none
  httpOrigin := some
  publicUrl := "https://verifier.example"
  decodeRequestObject := fun _ => .error "Invalid JWT"

/-! ## Transaction data -/

/-- `credential_ids?.includes(credentialId)` of a decoded entry; what has no `includes` is a
`TypeError`. -/
def includesCredential (credentialId : String) : Option Json → Except VerifyError Bool
  | none | some .null => .ok false
  | some (.arr items) => .ok (items.any fun item => item.str? == some credentialId)
  | some (.str s) => .ok (decide (credentialId.toList <:+: s.toList))
  | some _ => .error (.other "credential_ids?.includes is not a function")

/-- Does an entry name a credential? -/
def namesCredential (w : FormatWorld) (credentialId encoded : String) : Except VerifyError Bool :=
  includesCredential credentialId
    ((w.decodeTransactionData encoded).bind (Json.field? "credential_ids"))

/-- `filter` with a callback that may throw. -/
def filterEntries (keeps : String → Except VerifyError Bool) :
    List String → Except VerifyError (List String)
  | [] => .ok []
  | entry :: entries => do
    let keep ← keeps entry
    let rest ← filterEntries keeps entries
    return if keep then entry :: rest else rest

def transactionDataFor (w : FormatWorld) (transactionData : Option (List String))
    (credentialId : String) : Except VerifyError (Option (List String)) :=
  match transactionData with
  | none => .ok none
  | some entries => some <$> filterEntries (namesCredential w credentialId) entries

/-- `type?.startsWith("urn:eudi:sca:")` of a decoded entry. -/
def isTs12 (w : FormatWorld) (encoded : String) : Except VerifyError Bool :=
  match (w.decodeTransactionData encoded).bind (Json.field? "type") with
  | none | some .null => .ok false
  | some (.str type) => .ok ("urn:eudi:sca:".toList.isPrefixOf type.toList)
  | some _ => .error (.other "type?.startsWith is not a function")

/-! ## OID4VP -/

def requestOf (w : ResponseWorld) (session : SessionData) :
    Except VerifyError (Option SignedRequest) :=
  match session.requestObject with
  | none => .ok none
  | some requestObject =>
    match w.decodeRequestObject requestObject with
    | .ok request => .ok (some request)
    | .error message => .error (.other message)

def presentationBinding (session : SessionData) (request : Option SignedRequest) :
    PresentationBinding :=
  .openid4vp session.useDcApi session.vp_nonce session.clientId session.responseUri request

def resolveAuthorities (w : ResponseWorld) (tenantId hostTenant : String)
    (authorities : Option (List DcqlTrustedAuthority)) : Except VerifyError (List TrustListRef) :=
  match resolveTrustListRefsForTenant w.toTrustWorld (trustListAuthorities authorities) tenantId
      (w.publicUrl ++ "/issuers/" ++ hostTenant) with
  | .ok trustLists => .ok trustLists
  | .error message => .error (.badRequest message)

def presentationOptions (w : ResponseWorld) (query : PresentationQuery) (session : SessionData)
    (request : Option SignedRequest) (credentialQuery : DcqlCredentialQuery) :
    Except VerifyError VerifierOptions := do
  let transactionData ← transactionDataFor w.toFormatWorld (request.bind (·.transaction_data))
    credentialQuery.id
  let trustLists ← resolveAuthorities w session.tenantId query.tenantId
    credentialQuery.trusted_authorities
  let ts12 ← (transactionData.getD []).anyM (isTs12 w.toFormatWorld)
  return { verifierTrustOptions trustLists (some session.tenantId)
             credentialQuery.trusted_authorities query.statusCheckMode
             (session.skewSeconds.or query.skewSeconds) with
           transactionData
           ts12TransactionData := ts12 }

/-- `requestedFormat`, or the format of the query without a request object. -/
def presentationFormat (request : Option SignedRequest) (credentialQuery : DcqlCredentialQuery) :
    Except VerifyError String :=
  match request with
  | none => .ok credentialQuery.format
  | some request =>
    match request.formats.find? fun c => c.1 == credentialQuery.id with
    | some c => .ok c.2
    | none => .error (.other "Cannot read properties of undefined (reading 'format')")

def acceptResult (credentialQuery : DcqlCredentialQuery) : CredentialResult →
    Except VerifyError Json
  | .failed failure _ => .error (.credentialFailed credentialQuery.id failure)
  | .verified claims _ missing mismatched claimSetSatisfied =>
    if !mismatched.isEmpty then
      .error (.incomplete (claimValueMismatchViolation credentialQuery.id mismatched))
    else if claimSetSatisfied == some false then
      .error (.incomplete (claimSetNotSatisfied credentialQuery))
    else if !missing.isEmpty then
      .error (.incomplete (missingClaimsViolation credentialQuery.id missing))
    else .ok claims

def presentationContext (session : SessionData) (request : Option SignedRequest)
    (credentialQuery : DcqlCredentialQuery) (options : VerifierOptions)
    (selections : List (List DcqlClaimQuery)) : CredentialContext where
  credentialId := credentialQuery.id
  binding := presentationBinding session request
  options
  claims := credentialQuery.claims
  claimSets := if (credentialQuery.claim_sets.getD []).isEmpty then none else some selections

def verifyOne (w : ResponseWorld) (format : String) (credentialQuery : DcqlCredentialQuery)
    (context : CredentialContext) (credential : String) : Except VerifyError Json := do
  let result ← verifyFormat w.toFormatWorld format credential context
  acceptResult credentialQuery result

/-- `claimSelections`, whose error is thrown. -/
def selectionsOf (credentialQuery : DcqlCredentialQuery) :
    Except VerifyError (List (List DcqlClaimQuery)) :=
  match claimSelections credentialQuery with
  | .ok selections => .ok selections
  | .error message => .error (.other message)

def verifyQuery (w : ResponseWorld) (query : PresentationQuery) (session : SessionData)
    (request : Option SignedRequest) (presented : List String)
    (credentialQuery : DcqlCredentialQuery) : Except VerifyError (List Json) := do
  require (credentialQuery.multiple || presented.length ≤ 1)
    (.multipleNotAllowed credentialQuery.id presented.length)
  let options ← presentationOptions w query session request credentialQuery
  let format ← presentationFormat request credentialQuery
  let selections ← selectionsOf credentialQuery
  presented.mapM (verifyOne w format credentialQuery
    (presentationContext session request credentialQuery options selections))

def verifyPresented (w : ResponseWorld) (query : PresentationQuery) (session : SessionData)
    (request : Option SignedRequest) (entry : String × List String) :
    Except VerifyError (String × List Json) :=
  match query.dcql_query.find? entry.1 with
  | none => .error (.unknownCredential entry.1)
  | some credentialQuery =>
    (fun values => (entry.1, values)) <$>
      verifyQuery w query session request entry.2 credentialQuery

def presentedOf (vpToken : VpToken) : VpToken := vpToken.filter fun entry => !entry.2.isEmpty

def requireCredentials (received : List String) (query : DcqlQuery) : Except VerifyError Unit :=
  match findMissingCredentials received query with
  | some violation => .error (.incomplete violation)
  | none => .ok ()

def execute (w : ResponseWorld) (vpToken : VpToken) (query : PresentationQuery)
    (session : SessionData) : Except VerifyError (List (String × List Json)) := do
  requireCredentials ((presentedOf vpToken).map (·.1)) query.dcql_query
  let request ← requestOf w session
  (presentedOf vpToken).mapM (verifyPresented w query session request)

/-! ## ISO 18013-7 -/

/-- The options `processResponse` verifies with: without the tenant. -/
def iso18013Options (w : ResponseWorld) (config : PresentationQuery) (session : SessionData)
    (mdocCred : DcqlCredentialQuery) : Except VerifyError VerifierOptions := do
  let trustLists ← resolveAuthorities w session.tenantId session.tenantId
    mdocCred.trusted_authorities
  return verifierTrustOptions trustLists none mdocCred.trusted_authorities
    (config.statusCheckMode.or (some .strict)) (session.skewSeconds.or config.skewSeconds)

def mdocQuery (config : PresentationQuery) : Option DcqlCredentialQuery :=
  config.dcql_query.credentials.find? fun c => c.format == "mso_mdoc"

def offerElement (namespaces : List (String × List String)) (ns element : String) :
    List (String × List String) :=
  if namespaces.any fun n => n.1 == ns && n.2.contains element then namespaces
  else addElement ns element namespaces

def offerPath (docType : String) (namespaces : List (String × List String)) :
    List String → List (String × List String)
  | [] => namespaces
  | [name] => offerElement namespaces docType name
  | ns :: name :: _ => offerElement namespaces ns name

/-- **The device request of `createOffer`**: for the doctype and the claims of the mdoc query. -/
def offerRequest (requestId : String) (config : PresentationQuery) :
    Except VerifyError DeviceRequest :=
  match mdocQuery config with
  | none => .error (.badRequest
      ("Presentation config \"" ++ requestId ++ "\" has no mso_mdoc credential"))
  | some mdocCred =>
    if truthy mdocCred.typed.doctype_value then
      let docType := mdocCred.typed.doctype_value.getD ""
      .ok { docType
            namespaces :=
              match ((mdocCred.claims.getD []).map (·.path)).foldl (offerPath docType) [] with
              | [] => [(docType, [])]
              | namespaces => namespaces }
    else .error (.badRequest ("Presentation config \"" ++ requestId ++
      "\" mso_mdoc credential has no meta.doctype_value"))

/-- **The verification of `processResponse`**, of a decrypted device response. -/
def processResponse (w : ResponseWorld) (config : PresentationQuery) (session : SessionData)
    (sessionTranscript deviceResponse : String) : Except VerifyError CredentialResult :=
  match mdocQuery config with
  | none => .error (.badRequest "No mso_mdoc credential in config")
  | some mdocCred => do
    let options ← iso18013Options w config session mdocCred
    return mdocFormat w.toFormatWorld deviceResponse {
      credentialId := mdocCred.id
      binding := .iso18013 sessionTranscript
      options
      claims := mdocCred.claims }

end Eudiplo
