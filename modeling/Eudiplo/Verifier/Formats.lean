import Eudiplo.Verifier.Trust

/-!
# The credential formats of the verifier

SD-JWT VC and mdoc: each format derives its holder binding from the request, asks its library,
and checks what the library does not.  The libraries are parameters; `FormatWorld.sdJwt` stands
for one call of the SD-JWT library with the callbacks of the service.
-/

namespace Eudiplo

/-! ## Bindings -/

structure SignedRequest where
  nonce : Option String := none
  client_id : Option String := none
  response_uri : Option String := none
  response_mode : Option String := none
  expected_origins : List String := []
  transaction_data : Option (List String) := none
  /-- `dcql_query.credentials`: id and format. -/
  formats : List (String × String) := []
  /-- The thumbprint of the encryption key in `client_metadata`. -/
  jwkThumbprint : Option String := none
  deriving DecidableEq

inductive PresentationBinding where
  | openid4vp (useDcApi : Bool) (sessionNonce sessionClientId sessionResponseUri : Option String)
      (request : Option SignedRequest)
  | iso18013 (sessionTranscript : String)
  deriving DecidableEq

/-- `CredentialVerificationContext`. -/
structure CredentialContext where
  credentialId : String
  binding : PresentationBinding
  options : VerifierOptions
  claims : Option (List DcqlClaimQuery)
  claimSets : Option (List (List DcqlClaimQuery)) := none

/-! ## Results -/

structure CredentialFailure where
  type : String
  reason : Option String := none
  message : String := ""
  deriving DecidableEq

/-- `CredentialVerificationResult`. -/
inductive CredentialResult where
  | verified (claims : Json) (docType : Option String)
      (missingClaims mismatchedClaims : List String)
      (claimSetSatisfied : Option Bool)
  | failed (failure : CredentialFailure) (docType : Option String)

structure KbPayload where
  nonce : String
  aud : Option String := none
  transaction_data_hashes : Option (List String) := none
  transaction_data_hashes_alg : Option String := none
  jti : Option String := none
  response_mode : Option String := none
  /-- `amr`: the keys of its objects. -/
  amr : Option (List (List String)) := none
  deriving DecidableEq

/-- What the SD-JWT library returns: the authenticated payload, and the key-binding JWT when it
was verified. -/
structure SdJwtResult where
  payload : Json
  kb : Option KbPayload

structure SdJwtFailure where
  captured : Option CredentialFailure
  message : String
  statusListUnavailable : Bool := false

structure SdJwtOptions where
  requiredClaimKeys : List String
  keyBindingNonce : Option String
  keyBindingAudience : Option String
  options : VerifierOptions

structure MdocDocument where
  docType : String
  /-- The claims of every namespace. -/
  namespaces : List (String × List (String × Json))
  x5chain : List String

inductive MdocTranscript where
  | openid4vp (nonce clientId responseUri responseMode : String) (jwkThumbprint : Option String)
  | dcApi (nonce origin : String) (jwkThumbprint : Option String)
  | iso18013 (sessionTranscript : String)
  deriving DecidableEq

/-- `DeviceRequest`: the doctype and the requested elements. -/
structure DeviceRequest where
  docType : String
  namespaces : List (String × List String)
  deriving DecidableEq

structure MdocFailure where
  type : String
  message : String
  revocationListUnavailable : Bool := false

structure MdocAnchors where
  issuance : List String
  status : Option (List String)
  deriving DecidableEq

/-- **The libraries.** The result of the mdoc library is that of its check of the device
signature over request and transcript, then that of its checks of issuer and status. -/
structure FormatWorld extends TrustWorld where
  sdJwt : (credential : String) → SdJwtOptions → (statusCheck : Bool) →
    Except SdJwtFailure SdJwtResult
  decodeDeviceResponse : (vp : String) → Except String (Option MdocDocument)
  deviceAuth : (vp : String) → DeviceRequest → MdocTranscript → Except MdocFailure Unit
  issuerAndStatus : (vp : String) → MdocAnchors → (disableStatusValidation : Bool) →
    Except MdocFailure Unit
  /-- `base64url.encode(createHash(algorithm).update(data).digest())` -/
  hash : (algorithm data : String) → String
  /-- `JSON.parse(base64url.decode(encoded))`, when that succeeds. -/
  decodeTransactionData : String → Option Json
  /-- The origin of an `http:` or `https:` URL. -/
  httpOrigin : String → Option String

/-! ## SD-JWT VC -/

inductive VerifyError where
  | incomplete (violation : IncompletePresentation)
  | unknownCredential (credentialId : String)
  | multipleNotAllowed (credentialId : String) (count : Nat)
  | credentialFailed (credentialId : String) (failure : CredentialFailure)
  | badRequest (message : String)
  | other (message : String)
  deriving DecidableEq

def require (check : Bool) (e : VerifyError) : Except VerifyError Unit :=
  if check then .ok () else .error e

def algoMap : String → Option String
  | "sha-256" => some "sha256"
  | "sha-384" => some "sha384"
  | "sha-512" => some "sha512"
  | _ => none

/-- Does the `i`-th hash belong to the `i`-th entry, from `i` on? -/
def checkHashes (w : FormatWorld) (algorithm : String) :
    Nat → List String → List String → Except VerifyError Unit
  | i, entry :: entries, hash :: hashes => do
    require (hash == w.hash algorithm entry)
      (.badRequest ("Transaction data hash mismatch at index " ++ toString i))
    checkHashes w algorithm (i + 1) entries hashes
  | _, _, _ => .ok ()

def validateTransactionDataHashes (w : FormatWorld) (result : SdJwtResult)
    (transactionData : List String) : Except VerifyError Unit :=
  match result.kb with
  | none => .error (.badRequest "Transaction data was provided but KB-JWT is missing")
  | some kb =>
    match kb.transaction_data_hashes with
    | none => .error (.badRequest
        "Transaction data was provided but KB-JWT does not contain transaction_data_hashes")
    | some hashes => do
      require (hashes.length == transactionData.length) (.badRequest
        ("Transaction data hash count mismatch: expected " ++ toString transactionData.length ++
          ", received " ++ toString hashes.length))
      match algoMap (kb.transaction_data_hashes_alg.getD "sha-256") with
      | none => .error (.badRequest ("Unsupported transaction_data_hashes_alg: " ++
          kb.transaction_data_hashes_alg.getD "sha-256"))
      | some algorithm => checkHashes w algorithm 0 transactionData hashes

/-- The factor categories an `amr` array names. -/
def factorCategories (amr : List (List String)) : List String :=
  ["knowledge", "possession", "inherence"].filter fun key => amr.any (·.contains key)

def validateTs12KeyBinding (result : SdJwtResult) (expectedResponseMode : Option String) :
    Except VerifyError Unit := do
  require ((result.kb.bind (·.jti)).any (!·.isEmpty))
    (.badRequest "TS12 KB-JWT requires a non-empty jti")
  require (result.kb.bind (·.response_mode) == expectedResponseMode)
    (.badRequest "TS12 KB-JWT response_mode does not match the request")
  require (result.kb.bind (·.transaction_data_hashes_alg) == some "sha-256")
    (.badRequest "TS12 KB-JWT requires transaction_data_hashes_alg sha-256")
  require (result.kb.bind (·.amr)).isSome (.badRequest "TS12 KB-JWT requires an amr array")
  require (2 ≤ (factorCategories ((result.kb.bind (·.amr)).getD [])).length)
    (.badRequest "TS12 KB-JWT amr requires at least two distinct SCA factor categories")

def checkStatusMechanism (result : SdJwtResult) (failClosed : Bool) : Except VerifyError Unit :=
  match Json.field? "status" result.payload with
  | none => .ok ()
  | some status => require ((Json.field? "status_list" status).isSome || !failClosed) (.badRequest
      ("The credential's status claim contains no supported status mechanism, " ++
        "so its status could not be checked"))

def sdJwtLibrary (w : FormatWorld) (credential : String) (options : SdJwtOptions) :
    Except SdJwtFailure SdJwtResult :=
  let policy := options.options.revocation
  if !policy.enabled then w.sdJwt credential options false
  else if policy.failClosed then w.sdJwt credential options true
  else
    match w.sdJwt credential options true with
    | .ok result => .ok result
    | .error failure =>
      if failure.statusListUnavailable then w.sdJwt credential options false else .error failure

def checkIf (asked : Bool) (check : Except VerifyError Unit) : Except VerifyError Unit :=
  if asked then check else .ok ()

def checkResult (w : FormatWorld) (options : VerifierOptions)
    (keyBindingResponseMode : Option String) (result : SdJwtResult) : Except VerifyError Unit := do
  checkIf options.revocation.enabled (checkStatusMechanism result options.revocation.failClosed)
  checkIf (!(options.transactionData.getD []).isEmpty)
    (validateTransactionDataHashes w result (options.transactionData.getD []))
  checkIf options.ts12TransactionData (validateTs12KeyBinding result keyBindingResponseMode)

/-- `SdjwtvcverifierService.verify`: an error is the captured reason, or another one. -/
def sdJwtVerify (w : FormatWorld) (credential : String) (options : SdJwtOptions)
    (keyBindingResponseMode : Option String) :
    Except (CredentialFailure ⊕ VerifyError) SdJwtResult :=
  match sdJwtLibrary w credential options with
  | .error failure =>
    match failure.captured with
    | some captured => .error (.inl captured)
    | none => .error (.inr (.other failure.message))
  | .ok result =>
    match checkResult w options.options keyBindingResponseMode result with
    | .error e => .error (.inr e)
    | .ok () => .ok result

def normalizeDcApiOrigin (w : FormatWorld) (origin : Option String) : Option String :=
  let trimmed := trimText (origin.getD "")
  if trimmed.isEmpty then none
  else
    let rest := if "origin:".toList.isPrefixOf trimmed.toList then
      String.ofList (trimmed.toList.drop 7) else trimmed
    w.httpOrigin rest

def keyBindingAudience (w : FormatWorld) (useDcApi : Bool) (sessionClientId : Option String)
    (request : Option SignedRequest) : Option String :=
  let defaultAudience := (request.bind (·.client_id)).or sessionClientId
  if !useDcApi then defaultAudience
  else
    match normalizeDcApiOrigin w (request.bind (·.expected_origins.head?)) with
    | some origin => some ("origin:" ++ origin)
    | none => defaultAudience

def sdJwtResult (context : CredentialContext) (result : SdJwtResult) : CredentialResult :=
  let results := (context.claimSets.getD [context.claims.getD []]).map
    (evaluateClaimSelection result.payload)
  let satisfied := results.any isClaimSelectionSatisfied
  .verified result.payload none
    (if context.claimSets.isSome then [] else (results.head?.map (·.missing)).getD [])
    (if satisfied then [] else (results.flatMap (·.mismatched)).dedup)
    (context.claimSets.map fun _ => satisfied)

def sdJwtOptions (w : FormatWorld) (context : CredentialContext) (useDcApi : Bool)
    (sessionNonce sessionClientId : Option String) (request : Option SignedRequest) :
    SdJwtOptions where
  requiredClaimKeys :=
    if context.claimSets.isSome then [] else (context.claims.getD []).map fun c => dottedPath c.path
  keyBindingNonce := sessionNonce
  keyBindingAudience := keyBindingAudience w useDcApi sessionClientId request
  options := context.options

@[simp] theorem sdJwtOptions_keyBindingAudience (w : FormatWorld) (context : CredentialContext)
    (useDcApi : Bool) (sessionNonce sessionClientId : Option String)
    (request : Option SignedRequest) :
    (sdJwtOptions w context useDcApi sessionNonce sessionClientId request).keyBindingAudience =
      keyBindingAudience w useDcApi sessionClientId request := rfl

/-- **`SdJwtCredentialVerifierFormat.verify`**. -/
def sdJwtFormat (w : FormatWorld) (credential : String) (context : CredentialContext) :
    Except VerifyError CredentialResult :=
  match context.binding with
  | .iso18013 _ => .error (.other "SD-JWT VC cannot be verified for protocol 'iso-18013-7'")
  | .openid4vp useDcApi sessionNonce sessionClientId _ request =>
    match sdJwtVerify w credential
        (sdJwtOptions w context useDcApi sessionNonce sessionClientId request)
        (request.bind (·.response_mode)) with
    | .error (.inl failure) => .ok (.failed failure none)
    | .error (.inr e) => .error e
    | .ok result => .ok (sdJwtResult context result)

/-! ## mdoc -/

def addElement (namespace_ element : String) :
    List (String × List String) → List (String × List String)
  | [] => [(namespace_, [element])]
  | (ns, elements) :: rest =>
    if ns = namespace_ then (ns, elements ++ [element]) :: rest
    else (ns, elements) :: addElement namespace_ element rest

def addPath (docType : String) (namespaces : List (String × List String)) :
    List String → List (String × List String)
  | [] => namespaces
  | [name] => addElement docType name namespaces
  | ns :: names => addElement ns (dottedPath names) namespaces

/-- **`buildDeviceRequest`**: for the doctype of the presented document. -/
def buildDeviceRequest (docType : String) (paths : Option (List (List String)))
    (claimsByNamespace : List (String × List (String × Json))) : DeviceRequest where
  docType
  namespaces :=
    match (paths.getD []).foldl (addPath docType) [] with
    | [] => (claimsByNamespace.filter fun ns => !ns.2.isEmpty).map fun ns => (ns.1, ns.2.map (·.1))
    | namespaces => namespaces

/-- `buildTrustedCertificates`. -/
def buildAnchors (w : FormatWorld) (options : VerifierOptions) (x5chain : List String)
    (attachStatus : Bool) : MdocAnchors :=
  let trusted := trustedCertificates w.toTrustWorld options.trustListSource true
  let trustedStatus := trustedCertificates w.toTrustWorld options.trustListSource false
  let issuance := if trusted.isEmpty then x5chain else trusted
  let status := if trustedStatus.isEmpty then issuance else trustedStatus
  { issuance
    status := if attachStatus && !status.isEmpty then some status else none }

def verifyDeviceResponse (w : FormatWorld) (vp : String) (request : DeviceRequest)
    (transcript : MdocTranscript) (anchors : MdocAnchors) (disableStatusValidation : Bool) :
    Except MdocFailure Unit := do
  w.deviceAuth vp request transcript
  w.issuerAndStatus vp anchors disableStatusValidation

def mdocLibrary (w : FormatWorld) (vp : String) (document : MdocDocument) (request : DeviceRequest)
    (transcript : MdocTranscript) (options : VerifierOptions) : Except MdocFailure Unit :=
  let policy := options.revocation
  match verifyDeviceResponse w vp request transcript
      (buildAnchors w options document.x5chain true) (!policy.enabled) with
  | .ok () => .ok ()
  | .error failure =>
    if !policy.enabled || policy.failClosed || !failure.revocationListUnavailable then
      .error failure
    else verifyDeviceResponse w vp request transcript
      (buildAnchors w options document.x5chain false) true

/-- **`MdocverifierService.verify`**: the document that was verified, or a failure. -/
def mdocVerify (w : FormatWorld) (vp : String) (transcript : MdocTranscript)
    (options : VerifierOptions) (paths : Option (List (List String))) :
    Except CredentialFailure MdocDocument :=
  match w.decodeDeviceResponse vp with
  | .error message => .error ⟨"verification_error", some message, ""⟩
  | .ok none =>
    .error ⟨"verification_error", some "mDOC document not found in device response", ""⟩
  | .ok (some document) =>
    match mdocLibrary w vp document
        (buildDeviceRequest document.docType paths document.namespaces) transcript options with
    | .error failure => .error ⟨failure.type, some failure.message, ""⟩
    | .ok () =>
      match validateChain w.toTrustWorld document.x5chain options with
      | .error code => .error ⟨code, none, ""⟩
      | .ok () => .ok document

/-- `sessionData`. -/
def mdocTranscript : PresentationBinding → MdocTranscript
  | .iso18013 sessionTranscript => .iso18013 sessionTranscript
  | .openid4vp useDcApi sessionNonce sessionClientId sessionResponseUri request =>
    let nonce := ((request.bind (·.nonce)).or sessionNonce).getD "undefined"
    let thumbprint := request.bind (·.jwkThumbprint)
    if useDcApi then
      .dcApi nonce ((request.bind (·.expected_origins.head?)).getD "") thumbprint
    else
      .openid4vp nonce (((request.bind (·.client_id)).or sessionClientId).getD "undefined")
        (((request.bind (·.response_uri)).or sessionResponseUri).getD "undefined")
        ((request.bind (·.response_mode)).getD "direct_post.jwt") thumbprint

def MdocDocument.claims (document : MdocDocument) : List (String × Json) :=
  document.namespaces.reverse.flatMap (·.2)

/-- `verifyClaimSets`: the first option that verifies and is disclosed, with the last failure and
the last verified option so far. -/
def verifyClaimSets (w : FormatWorld) (vp : String) (context : CredentialContext) :
    Option CredentialFailure → Option MdocDocument → List String →
      List (List DcqlClaimQuery) → CredentialResult
  | some failure, _, _, [] => .failed failure none
  | none, document, mismatched, [] =>
    .verified (.obj ((document.map (·.claims)).getD [])) (document.map (·.docType)) []
      mismatched.dedup (some false)
  | failure, last, mismatched, selected :: sets =>
    match mdocVerify w vp (mdocTranscript context.binding) context.options
        (some (selected.map (·.path))) with
    | .error failure => verifyClaimSets w vp context (some failure) last mismatched sets
    | .ok document =>
      let check := evaluateMdocClaimSelection document.claims selected
      if isClaimSelectionSatisfied check then
        .verified (.obj document.claims) (some document.docType) [] [] (some true)
      else verifyClaimSets w vp context failure (some document)
        (mismatched ++ check.mismatched) sets

/-- **`MdocCredentialVerifierFormat.verify`**. -/
def mdocFormat (w : FormatWorld) (vp : String) (context : CredentialContext) : CredentialResult :=
  match context.claimSets with
  | some sets => verifyClaimSets w vp context none none [] sets
  | none =>
    match mdocVerify w vp (mdocTranscript context.binding) context.options
        (context.claims.map fun claims => claims.map (·.path)) with
    | .error failure => .failed failure none
    | .ok document =>
      let check := evaluateMdocClaimSelection document.claims (context.claims.getD [])
      .verified (.obj document.claims) (some document.docType) check.missing check.mismatched none

def verifyFormat (w : FormatWorld) (format credential : String) (context : CredentialContext) :
    Except VerifyError CredentialResult :=
  if format = "dc+sd-jwt" then sdJwtFormat w credential context
  else if format = "mso_mdoc" then .ok (mdocFormat w credential context)
  else .error (.other ("Unsupported credential verifier format '" ++ format ++ "'"))

end Eudiplo
