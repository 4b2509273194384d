import Eudiplo.Portability.Ownership

/-!
# Exporting a configuration bundle

`ConfigBundleService.exportBundle`: each stored entity is mapped to the spec of a document, brought
into a canonical form and redacted by the sensitive paths of its kind.  The assets are not of the
configuration and stand for themselves.
-/

namespace Eudiplo

open Storage

namespace Portability

/-! ## Canonical form -/

/-- `OMITTED_FIELDS`. -/
def omittedFields : List String :=
  ["tenant", "tenantId", "createdAt", "updatedAt", "registrationCertificateCache",
    "readerAuthCache", "jwt", "cwt", "list", "statusList", "previousJwk", "previousCertificate",
    "previousKeyExpiry", "lastRotatedAt"]

/-- Entries by their keys, as `localeCompare` orders them. -/
def sortEntries {α : Type} (localeLE : String → String → Bool) (entries : List (String × α)) :
    List (String × α) :=
  entries.mergeSort fun left right => localeLE left.1 right.1

mutual

/-- `canonicalize`; that the entries are sorted first or last makes no difference. -/
def canonicalize (localeLE : String → String → Bool) : Json → Json
  | .arr items => .arr (canonicalItems localeLE items)
  | .obj members => .obj (sortEntries localeLE (canonicalMembers localeLE members))
  | value => value

def canonicalItems (localeLE : String → String → Bool) : List Json → List Json
  | [] => []
  | item :: items => canonicalize localeLE item :: canonicalItems localeLE items

def canonicalMembers (localeLE : String → String → Bool) :
    List (String × Json) → List (String × Json)
  | [] => []
  | (key, item) :: members =>
    if omittedFields.contains key then canonicalMembers localeLE members
    else (key, canonicalize localeLE item) :: canonicalMembers localeLE members

end

/-! ## Paths -/

abbrev DottedPath := List (List Char)

/-- `split(".")`. -/
def segments : List Char → DottedPath
  | [] => [[]]
  | c :: cs =>
    if c = '.' then [] :: segments cs
    else
      match segments cs with
      | [] => [[c]]
      | part :: parts => (c :: part) :: parts

def extendPath (path : DottedPath) (key : String) : DottedPath :=
  (if path = [[]] then [] else path) ++ segments key.toList

/-- `pathMatches`, on paths that are split. -/
def pathMatches : DottedPath → DottedPath → Bool
  | [], [] => true
  | part :: pattern, segment :: path =>
    (part == ['*'] || part == segment) && pathMatches pattern path
  | _, _ => false

/-- Does one of the patterns match? -/
def matchesAny (patterns : List String) (path : DottedPath) : Bool :=
  patterns.any fun pattern => pathMatches (segments pattern.toList) path

/-! ## Redaction -/

/-- `ConfigBundleRequirement`. -/
structure Requirement where
  code : String
  resource : ResourceRef
  path : String
  placeholder : Option String := none
  message : String

def ConfigResourceKind.name : ConfigResourceKind → String
  | .Tenant => "Tenant"
  | .Client => "Client"
  | .KmsConfig => "KmsConfig"
  | .KeyChain => "KeyChain"
  | .RegistrarConfig => "RegistrarConfig"
  | .IssuanceConfig => "IssuanceConfig"
  | .CredentialConfig => "CredentialConfig"
  | .PresentationConfig => "PresentationConfig"
  | .AttributeProvider => "AttributeProvider"
  | .WebhookEndpoint => "WebhookEndpoint"
  | .TrustList => "TrustList"
  | .StatusList => "StatusList"

def underscored : List Char → List Char
  | [] => []
  | c :: cs =>
    if c.isAlphanum then c :: underscored cs else '_' :: (underscored cs).dropWhile (· == '_')

def placeholder (ref : ResourceRef) (path : String) : String :=
  let text := underscored (ref.kind.name ++ "_" ++ ref.id ++ "_" ++ path).toList
  let trimmed := ((text.dropWhile (· == '_')).reverse.dropWhile (· == '_')).reverse
  String.ofList (trimmed.map Char.toUpper)

def joined (separator : Char) (path : DottedPath) : String :=
  String.ofList (path.intersperse [separator]).flatten

def placeholderValue (name : String) : Json :=
  .str (String.ofList ['$', Char.ofNat 123] ++ name ++ String.ofList [Char.ofNat 125])

def secretRequired (ref : ResourceRef) (path : DottedPath) : Requirement :=
  let name := placeholder ref (joined '.' path)
  { code := "SECRET_REQUIRED"
    resource := ref
    path := "/spec/" ++ joined '/' path
    placeholder := some name
    message := "Supply " ++ name ++ " in the target environment." }

mutual

/-- `redact`: the value without its secrets, and what the target has to supply. -/
def redact (patterns : List String) (ref : ResourceRef) (path : DottedPath) :
    Json → Json × List Requirement
  | .arr items =>
    let (items, requirements) := redactItems patterns ref path 0 items
    (.arr items, requirements)
  | .obj members =>
    let (members, requirements) := redactMembers patterns ref path members
    (.obj members, requirements)
  | value => (value, [])

def redactItems (patterns : List String) (ref : ResourceRef) (path : DottedPath) (index : Nat) :
    List Json → List Json × List Requirement
  | [] => ([], [])
  | item :: items =>
    let (item, first) := redact patterns ref (extendPath path (toString index)) item
    let (items, rest) := redactItems patterns ref path (index + 1) items
    (item :: items, first ++ rest)

def redactMembers (patterns : List String) (ref : ResourceRef) (path : DottedPath) :
    List (String × Json) → List (String × Json) × List Requirement
  | [] => ([], [])
  | (key, item) :: members =>
    let itemPath := extendPath path key
    let (item, first) :=
      if matchesAny patterns itemPath then
        (placeholderValue (placeholder ref (joined '.' itemPath)), [secretRequired ref itemPath])
      else redact patterns ref itemPath item
    let (members, rest) := redactMembers patterns ref path members
    ((key, item) :: members, first ++ rest)

end

mutual

/-- `rewrite` of `assetReferenceRewriter`: the URL of a stored file becomes its name. -/
def rewriteAssets (fileName : String → String) : Json → Json
  | .str text => .str (fileName text)
  | .arr items => .arr (rewriteItems fileName items)
  | .obj members => .obj (rewriteMembers fileName members)
  | value => value

def rewriteItems (fileName : String → String) : List Json → List Json
  | [] => []
  | item :: items => rewriteAssets fileName item :: rewriteItems fileName items

def rewriteMembers (fileName : String → String) : List (String × Json) → List (String × Json)
  | [] => []
  | (key, item) :: members => (key, rewriteAssets fileName item) :: rewriteMembers fileName members

end

/-- `KMS_SECRET_PATHS`. -/
def kmsSecretPaths : List String :=
  ["providers.*.vaultToken", "providers.*.secretAccessKey", "providers.*.pin",
    "providers.*.auth.token", "providers.*.auth.clientSecret", "providers.*.clientSecret",
    "providers.*.sad", "providers.*.authorizeAuthData.*.value"]

/-- `sensitivePaths` of the registry. -/
def sensitivePaths : ConfigResourceKind → List String
  | .Client => ["secret"]
  | .KmsConfig => kmsSecretPaths
  | .KeyChain => ["keySource.jwk"]
  | .RegistrarConfig => ["clientSecret", "password"]
  | .AttributeProvider => ["auth.config.value"]
  | .WebhookEndpoint => ["auth.config.value"]
  | _ => []

/-! ## Entities -/

/-- A column of an entity, `null` where it has no value. -/
def column (entity : Json) (name : String) : Json := (entity.field? name).getD .null

/-- `value ?? undefined`. -/
def orUndefined : Json → Option Json
  | .null => none
  | value => some value

def record (members : List (String × Option Json)) : Json :=
  .obj (members.filterMap fun member => member.2.map fun value => (member.1, value))

/-- `ClientEntity`; an empty hash of the secret is none. -/
structure ClientEntity where
  clientId : String
  description : Json := .null
  roles : Json
  allowedPresentationConfigs : Json := .null
  allowedIssuanceConfigs : Json := .null
  secret : Option String := none

/-- `KeyChainEntity`, without the previous key. -/
structure KeyChainEntity where
  id : String
  description : Json := .null
  usageType : Json
  kmsProvider : Json
  externalKeyId : Option String := none
  rootExternalKeyId : Json := .null
  rootJwk : Json := .null
  rootCertificate : Json := .null
  activeJwk : Json
  activeCertificate : Json := .null
  rotationEnabled : Json
  rotationIntervalDays : Json := .null
  certValidityDays : Json := .null

/-- An entry of `authorizationServers` of the issuance configuration; `members` are all but the
`upstream` and the removed `vp`. -/
structure AuthorizationServer where
  members : List (String × Json)
  upstream : Option Json := none
  vp : Option Json := none

/-- **The stored configuration of a tenant**, as far as it is exported. -/
structure StoredConfiguration where
  tenant : Json
  clients : List ClientEntity := []
  kms : Option Json := none
  keyChains : List KeyChainEntity := []
  registrar : Option Json := none
  issuance : Option (Json × Option (List AuthorizationServer)) := none
  credentialConfigs : List (String × Json) := []
  presentationConfigs : List (String × Json) := []
  attributeProviders : List (String × Json) := []
  webhookEndpoints : List (String × Json) := []
  trustLists : List (String × Json) := []
  statusLists : List (String × Json) := []
  metadata : ResourceRef → ConfigMetadata

/-! ## Specs -/

def usesRemovedChainedVp (server : AuthorizationServer) : Bool :=
  ((Json.obj server.members).field? "type" >>= Json.str?) == some "chained" && server.vp.isSome

def withoutRemovedChainedVp (servers : List AuthorizationServer) : List AuthorizationServer :=
  servers.filterMap fun server =>
    if !usesRemovedChainedVp server then some server
    else if server.upstream.isSome then some { server with vp := none }
    else none

def AuthorizationServer.json (server : AuthorizationServer) : Json :=
  .obj (server.members ++
    [("upstream", server.upstream), ("vp", server.vp)].filterMap fun member =>
      member.2.map fun value => (member.1, value))

/-- The members that `toPublicJwk` drops. -/
def privateJwkMembers : List String := ["d", "p", "q", "dp", "dq", "qi", "k"]

def toPublicJwk : Json → Option Json
  | .obj members => some (.obj (members.filter fun member => !privateJwkMembers.contains member.1))
  | _ => none

def KeyChainEntity.hasInternalCa (keyChain : KeyChainEntity) : Bool :=
  (orUndefined keyChain.rootJwk).isSome && (orUndefined keyChain.rootCertificate).isSome

def keySourceSpec (keyChain : KeyChainEntity) : Json :=
  let publicJwk :=
    toPublicJwk (if keyChain.hasInternalCa then keyChain.rootJwk else keyChain.activeJwk)
  if truthy keyChain.externalKeyId then
    let externalKeyId := keyChain.externalKeyId.map Json.str
    record [("type", some (.str "external-reference")), ("provider", some keyChain.kmsProvider),
      ("externalKeyId", if keyChain.hasInternalCa then some keyChain.rootExternalKeyId
        else externalKeyId),
      ("publicJwk", publicJwk),
      ("activeExternalKeyId", if keyChain.hasInternalCa then externalKeyId else none),
      ("activePublicJwk", if keyChain.hasInternalCa then toPublicJwk keyChain.activeJwk else none)]
  else record [("type", some (.str "required")), ("publicJwk", publicJwk)]

def keyChainSpec (keyChain : KeyChainEntity) : Json :=
  record [("id", some (.str keyChain.id)), ("description", some keyChain.description),
    ("usageType", some keyChain.usageType), ("kmsProvider", some keyChain.kmsProvider),
    ("keySource", some (keySourceSpec keyChain)),
    ("crt", some (.arr [if keyChain.hasInternalCa then keyChain.rootCertificate
      else keyChain.activeCertificate])),
    ("activeCertificate", if keyChain.hasInternalCa then some keyChain.activeCertificate else none),
    ("rotationPolicy", some (.obj [("enabled", keyChain.rotationEnabled),
      ("intervalDays", keyChain.rotationIntervalDays),
      ("certValidityDays", keyChain.certValidityDays)]))]

def columns (entity : Json) (names : List String) : List (String × Option Json) :=
  names.map fun name => (name, some (column entity name))

/-- `canonicalEntitySpec` of the registrar. -/
def registrarSpec (entity : Json) : Json :=
  record (columns entity ["registrarUrl", "oidcUrl", "clientId", "clientSecret", "username",
    "password", "registrationCertificateDefaults"])

/-- `canonicalEntitySpec` of the issuance configuration. -/
def issuanceSpec (entity : Json) (servers : Option (List AuthorizationServer)) : Json :=
  record (columns entity ["batchSize", "dPopRequired", "walletAttestationRequired"] ++
    [("walletProviderTrustLists", orUndefined (column entity "walletProviderTrustLists")),
      ("signingKeyId", orUndefined (column entity "signingKeyId")),
      ("authorizationServers", some ((servers.map fun servers =>
        Json.arr ((withoutRemovedChainedVp servers).map AuthorizationServer.json)).getD .null))] ++
    columns entity ["federation", "registrationCertificate", "display",
      "notificationEndpointEnabled", "credentialResponseEncryption",
      "credentialRequestEncryption", "txCodeMaxAttempts"] ++
    [("offerLifetimeSeconds", orUndefined (column entity "offerLifetimeSeconds"))])

/-- `canonicalEntitySpec` of a credential configuration. -/
def credentialSpec (entity : Json) : Json :=
  record (columns entity ["id", "description", "config", "fields", "attributeProviderId",
      "webhookEndpointId", "vct", "keyBinding"] ++
    [("keyChainId", orUndefined (column entity "keyChainId"))] ++
    columns entity ["statusManagement", "iaeActions", "sdJwtTrustFormat"] ++
    [("lifeTime", orUndefined (column entity "lifeTime"))] ++
    columns entity ["schemaMeta", "embeddedDisclosurePolicy"])

/-- `canonicalEntitySpec` of a presentation configuration. -/
def presentationSpec (entity : Json) : Json :=
  record (columns entity ["id", "description"] ++
    [("lifeTime", orUndefined (column entity "lifeTime"))] ++
    columns entity ["skewSeconds", "statusCheckMode", "dcql_query", "transaction_data",
      "registration_cert", "webhookEndpointId", "attached", "redirectUri", "accessKeyChainId",
      "readerAuth"])

/-- `canonicalEntitySpec` of an attribute provider or a webhook endpoint. -/
def endpointSpec (entity : Json) : Json :=
  record (columns entity ["id", "name", "description", "url", "auth"])

def tenantSpec (tenant : Json) : Json :=
  record (columns tenant ["name", "description"] ++
    [("sessionConfig", orUndefined (column tenant "sessionConfig")),
      ("statusListConfig", orUndefined (column tenant "statusListConfig"))])

def trustListSpec (entity : Json) : Json :=
  record (columns entity ["id", "description", "keyChainId"] ++
    [("entities", some ((orUndefined (column entity "entityConfig")).getD (.arr [])))] ++
    columns entity ["data"])

def statusListSpec (entity : Json) : Json :=
  record (columns entity ["id", "credentialConfigurationId", "keyChainId"] ++
    [("capacity", some (.num (((column entity "elements").arr?).getD []).length 0))] ++
    columns entity ["bits"])

/-! ## The bundle -/

/-- **What an export asks of the platform.** -/
structure ExportWorld where
  /-- `left.localeCompare(right) <= 0`. -/
  localeLE : String → String → Bool
  /-- The filename of the public URL of a stored file; any other text stays. -/
  fileName : String → String
  /-- Are clients managed by an OIDC provider? -/
  oidc : Bool

/-- What `addDocument` is called with, and the requirements that precede it. -/
structure Entry where
  ref : ResourceRef
  before : List Requirement := []
  spec : Json
  redacted : Bool := true

structure ExportedDocument where
  ref : ResourceRef
  generation : Nat
  ownership : ConfigOwnership
  spec : Json

structure ExportedBundle where
  documents : List ExportedDocument
  requirements : List Requirement

def clientEntry (oidc : Bool) (client : ClientEntity) : Entry :=
  let ref : ResourceRef := ⟨.Client, client.clientId⟩
  let name := placeholder ref "secret"
  let withSecret := truthy client.secret || oidc
  { ref
    before := if withSecret then
      [{ code := "CLIENT_SECRET_REQUIRED"
         resource := ref
         path := "/spec/secret"
         placeholder := some name
         message := "Client secrets are one-way hashed. Supply a replacement or set secret to " ++
           "!generate during import." }]
    else []
    spec := record [("clientId", some (.str client.clientId)),
      ("description", some client.description), ("roles", some client.roles),
      ("allowedPresentationConfigs", some client.allowedPresentationConfigs),
      ("allowedIssuanceConfigs", some client.allowedIssuanceConfigs),
      ("secret", if withSecret then some (placeholderValue name) else none)]
    redacted := false }

def keyChainEntry (keyChain : KeyChainEntity) : Entry :=
  let ref : ResourceRef := ⟨.KeyChain, keyChain.id⟩
  { ref
    before := if truthy keyChain.externalKeyId then [] else
      [{ code := "PRIVATE_KEY_REQUIRED"
         resource := ref
         path := "/spec/keySource"
         message := "Safe export does not include database-held private keys. Supply the key " ++
           "material or regenerate explicitly." }]
    spec := keyChainSpec keyChain
    redacted := false }

def issuanceEntry (issuance : Json × Option (List AuthorizationServer)) : Entry :=
  { ref := ⟨.IssuanceConfig, "issuance"⟩, spec := issuanceSpec issuance.1 issuance.2 }

def entriesOf (kind : ConfigResourceKind) (spec : Json → Json) (entities : List (String × Json)) :
    List Entry :=
  entities.map fun entity => { ref := ⟨kind, entity.1⟩, spec := spec entity.2 }

def entries (w : ExportWorld) (store : StoredConfiguration) : List Entry :=
  [{ ref := ⟨.Tenant, "tenant"⟩, spec := tenantSpec store.tenant }] ++
    store.clients.map (clientEntry w.oidc) ++
    store.kms.toList.map (fun kms => { ref := ⟨.KmsConfig, "kms"⟩, spec := kms }) ++
    store.keyChains.map keyChainEntry ++
    store.registrar.toList.map (fun entity =>
      { ref := ⟨.RegistrarConfig, "registrar"⟩, spec := registrarSpec entity }) ++
    store.issuance.toList.map issuanceEntry ++
    entriesOf .CredentialConfig credentialSpec store.credentialConfigs ++
    entriesOf .PresentationConfig presentationSpec store.presentationConfigs ++
    entriesOf .AttributeProvider endpointSpec store.attributeProviders ++
    entriesOf .WebhookEndpoint endpointSpec store.webhookEndpoints ++
    entriesOf .TrustList trustListSpec store.trustLists ++
    entriesOf .StatusList statusListSpec store.statusLists

def exportSpec (w : ExportWorld) (entry : Entry) : Json × List Requirement :=
  let canonical := canonicalize w.localeLE entry.spec
  let (spec, requirements) :=
    if entry.redacted then redact (sensitivePaths entry.ref.kind) entry.ref [] canonical
    else (canonical, [])
  (rewriteAssets w.fileName spec, requirements)

/-- `addDocument`; that a resource is detached is not exported. -/
def exportEntry (w : ExportWorld) (metadata : ResourceRef → ConfigMetadata) (entry : Entry) :
    ExportedDocument × List Requirement :=
  let (spec, requirements) := exportSpec w entry
  let ownership := (metadata entry.ref).ownership
  ({ ref := entry.ref
     generation := (metadata entry.ref).generation
     ownership := if ownership = .detached then .unmanaged else ownership
     spec }, entry.before ++ requirements)

/-- **`exportBundle`**, without the assets, and without what the manifest repeats. -/
def exportBundle (w : ExportWorld) (store : StoredConfiguration) : ExportedBundle :=
  let exported := (entries w store).map (exportEntry w store.metadata)
  { documents := (exported.map (·.1)).mergeSort fun left right =>
      w.localeLE (left.ref.kind.name ++ "/" ++ left.ref.id)
        (right.ref.kind.name ++ "/" ++ right.ref.id)
    requirements := exported.flatMap (·.2) }

end Portability

end Eudiplo
