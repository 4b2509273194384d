import Eudiplo.Verifier.Dcql

/-!
# Which issuers a verifier trusts

The trust lists and federation anchors of a credential query, resolved for a tenant, and the
chain of an issuer checked against them.  X.509 paths, trust-list downloads and the federation
are parameters.
-/

namespace Eudiplo

/-! ## Options -/

inductive RevocationCheckMode where
  | disabled
  | bestEffort
  | strict
  deriving DecidableEq

structure RevocationPolicy where
  enabled : Bool
  failClosed : Bool
  deriving DecidableEq

/-- `revocationModeToPolicy`: strict by default. -/
def revocationModeToPolicy : Option RevocationCheckMode → RevocationPolicy
  | some .disabled => ⟨false, false⟩
  | some .bestEffort => ⟨true, false⟩
  | some .strict | none => ⟨true, true⟩

/-- `TrustListSource`; the accepted service types are the same for all. -/
structure TrustListSource where
  lotes : List TrustListRef
  tenantId : Option String
  deriving DecidableEq

/-- `FederationTrustSource` of mode `federation-only`. -/
structure FederationTrustSource where
  trustAnchors : List String
  deriving DecidableEq

structure VerifierOptions where
  trustListSource : TrustListSource
  federationTrustSource : Option FederationTrustSource
  requireX5c : Bool := true
  revocation : RevocationPolicy
  skewSeconds : Nat
  transactionData : Option (List String) := none
  ts12TransactionData : Bool := false
  deriving DecidableEq

def trustListAuthorities (authorities : Option (List DcqlTrustedAuthority)) : List TrustListRef :=
  ((authorities.getD []).findSome? fun
    | .etsi_tl values => some values
    | .openid_federation _ => none).getD []

def federationAnchors (authorities : Option (List DcqlTrustedAuthority)) : List String :=
  ((authorities.getD []).findSome? fun
    | .etsi_tl _ => none
    | .openid_federation values => some values).getD []

def DEFAULT_VERIFIER_SKEW_SECONDS : Nat := 60

def verifierTrustOptions (trustLists : List TrustListRef) (tenantId : Option String)
    (authorities : Option (List DcqlTrustedAuthority))
    (statusCheckMode : Option RevocationCheckMode) (skewSeconds : Option Nat) :
    VerifierOptions where
  trustListSource := ⟨trustLists, tenantId⟩
  federationTrustSource :=
    if !(federationAnchors authorities).isEmpty && trustLists.isEmpty then
      some ⟨federationAnchors authorities⟩
    else none
  revocation := revocationModeToPolicy statusCheckMode
  skewSeconds := skewSeconds.getD DEFAULT_VERIFIER_SKEW_SECONDS

/-! ## Trust stores -/

structure TrustedService where
  issuance : Bool
  certValue : String
  deriving DecidableEq

/-- `BuiltTrustStore`: the trusted entities with their services. -/
structure TrustStore where
  entities : List (List TrustedService)
  stale : Bool := false
  deriving DecidableEq

/-- **The trust state**: managed lists, downloads and cached stores, certificates and the
federation. -/
structure TrustWorld where
  /-- `trustListService.getVerifierX509Der`, which throws when there is no such list. -/
  getVerifierX509Der : (tenantId trustListId : String) → Except String String
  /-- The address of a managed list, for verification. -/
  managedUrl : (tenantId trustListId : String) → String
  /-- A store cached less than five minutes ago. -/
  cached : TrustListSource → Option TrustStore
  /-- `collectTrustedEntities`. -/
  collect : List TrustListRef → Except String TrustStore
  /-- `evaluateCertificateEntityTrust`. -/
  federationTrusts : List String → FederationTrustSource → Bool
  encodeURIComponent : String → String
  /-- Do the certificates of a chain parse? -/
  parsesX5c : List String → Bool
  /-- Path building, validity and the match with an issuance service; the error of the step that
  fails. -/
  matchIssuer : List String → TrustStore → Except String Unit

/-- `trim`. -/
def trimText (s : String) : String :=
  String.ofList ((s.toList.dropWhile Char.isWhitespace).reverse.dropWhile Char.isWhitespace).reverse

/-- `resolveTrustListRefsForTenant`, for one reference; the error is an
`InvalidTrustedAuthoritiesError`, or the one of the look-up. -/
def resolveTrustListRef (w : TrustWorld) (tenantId tenantHost : String) (ref : TrustListRef) :
    Except String TrustListRef :=
  match ref.trustListId.filter fun id => !id.isEmpty with
  | some id =>
    if (trimText id).isEmpty then
      .error "trusted_authorities values trustListId must not be empty"
    else do
      let der ← w.getVerifierX509Der tenantId (trimText id)
      return { trustListId := some (trimText id)
               url := some (tenantHost ++ "/trust-list/" ++ w.encodeURIComponent (trimText id))
               verifierX509Der := some der }
  | none =>
    match (ref.url.map fun url => url.replace "<TENANT_URL>" tenantHost).filter (!·.isEmpty) with
    | some url => .ok { ref with
        url := some url
        trustListId := none }
    | none => .error "trusted_authorities values url is required when trustListId is not set"

def resolveTrustListRefsForTenant (w : TrustWorld) (refs : List TrustListRef)
    (tenantId tenantHost : String) : Except String (List TrustListRef) :=
  refs.mapM (resolveTrustListRef w tenantId tenantHost)

/-- `getTrustStore` resolves managed lists once more. -/
def resolveManaged (w : TrustWorld) (tenantId : Option String) (ref : TrustListRef) :
    Except String TrustListRef :=
  match ref.trustListId with
  | none => .ok ref
  | some id =>
    match tenantId.filter (!·.isEmpty) with
    | some tenant =>
      if (trimText id).isEmpty then
        .error "Managed trust lists require a tenant and a non-empty trustListId"
      else do
        let der ← w.getVerifierX509Der tenant (trimText id)
        return { url := some (w.managedUrl tenant (trimText id))
                 verifierX509Der := some der }
    | none => .error "Managed trust lists require a tenant and a non-empty trustListId"

def getTrustStore (w : TrustWorld) (source : TrustListSource) : Except String TrustStore := do
  let lotes ← source.lotes.mapM (resolveManaged w source.tenantId)
  match w.cached ⟨lotes, source.tenantId⟩ with
  | some store => return store
  | none => w.collect lotes

/-- `getTrustStoreIfConfigured`: an error is a `TrustListUnavailableError`. -/
def getTrustStoreIfConfigured (w : TrustWorld) (source : TrustListSource) :
    Except String (Option TrustStore) :=
  if source.lotes.isEmpty then .ok none
  else
    match getTrustStore w source with
    | .error message => .error ("Failed to load configured trust store: " ++ message)
    | .ok store =>
      if store.stale then .error "Configured trust list is stale (NextUpdate in the past)"
      else .ok (some store)

/-- The certificates of the issuance or of the revocation services, or none when the store
cannot be loaded. -/
def trustedCertificates (w : TrustWorld) (source : TrustListSource)
    (issuance : Bool) : List String :=
  match getTrustStoreIfConfigured w source with
  | .ok (some store) =>
    (store.entities.flatten.filter fun s => s.issuance == issuance).map (·.certValue)
  | _ => []

/-- **`validateChain`**: the error code, when the issuer is not trusted. -/
def validateChain (w : TrustWorld) (x5c : List String) (options : VerifierOptions) :
    Except String Unit :=
  if x5c.isEmpty then
    if options.requireX5c then .error "x5c_required" else .ok ()
  else if !w.parsesX5c x5c then .error "invalid_x5c"
  else
    match options.federationTrustSource with
    | some source =>
      if w.federationTrusts x5c source then .ok () else .error "federation_trust_failed"
    | none =>
      match getTrustStoreIfConfigured w options.trustListSource with
      | .error _ => .error "trust_list_unavailable"
      | .ok none => .ok ()
      | .ok (some store) => w.matchIssuer x5c store

end Eudiplo
