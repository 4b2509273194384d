import Eudiplo.Verifier.Acceptance

/-!
# The chain of an issuer

`CredentialChainValidationService.validateChain` with every trust source it supports: trust lists
with their cache, federation modes with and without an enforced policy, and pinned certificates.
Loading a list, evaluating an entity and building an X.509 path are parameters.
-/

namespace Eudiplo

open Results

namespace ChainValidation

/-! ## Data -/

structure Certificate where
  der : String
  notBefore : Time
  notAfter : Time
  /-- BasicConstraints CA. -/
  ca : Bool := false
  deriving DecidableEq

/-- `TrustedEntityServiceCert`. -/
structure ServiceCert where
  serviceTypeIdentifier : String
  certValue : String
  deriving DecidableEq

structure TrustedEntity where
  entityId : Option String := none
  services : List ServiceCert
  deriving DecidableEq

structure VerifiedTrustList where
  nextUpdate : Option String := none
  entities : List TrustedEntity
  deriving DecidableEq

structure BuiltTrustStore where
  fetchedAt : Time
  nextUpdate : Option String
  entities : List TrustedEntity
  deriving DecidableEq

/-- `TrustListSource`, with the accepted service types. -/
structure LoteSource where
  tenantId : Option String := none
  lotes : List TrustListRef
  acceptedServiceTypes : Option (List String) := none
  deriving DecidableEq

inductive FederationTrustMode where
  | federationOnly
  | loteOnly
  | hybrid
  deriving DecidableEq

/-- `FederationTrustSource`; an anchor is its entity id. -/
structure FederationSource where
  mode : Option FederationTrustMode := none
  trustAnchors : List String
  enforceSigningPolicy : Option Bool := none
  deriving DecidableEq

structure FederationTrustEvaluation where
  trusted : Bool
  reason : String
  deriving DecidableEq

inductive PinnedCertMode where
  | leaf
  | pathEnd
  deriving DecidableEq

structure ChainValidationPolicy where
  requireX5c : Bool := false
  pinnedCertMode : PinnedCertMode := .leaf
  serviceTypeFilter : String := "/Issuance"
  federationTrustSource : Option FederationSource := none
  deriving DecidableEq

inductive MatchMode where
  | ca
  | leafPinned
  | pathEndPinned
  deriving DecidableEq

structure MatchedTrustedEntity where
  entity : TrustedEntity
  issuanceCert : Certificate
  matchMode : MatchMode
  revocationCert : Option Certificate := none
  deriving DecidableEq

/-- `ChainValidationResult`, without the details of an error. -/
structure ChainValidationResult where
  verified : Bool
  matchedEntity : Option MatchedTrustedEntity := none
  error : Option String := none
  deriving DecidableEq

/-- **What the validation asks.**  A list is loaded at a time, since its store is kept; an entity is
evaluated by its federation, whose failures are evaluations that do not trust it. -/
structure ChainWorld where
  now : Time
  getVerifierX509Der : (tenantId trustListId : String) → Except String String
  managedUrl : (tenantId trustListId : String) → String
  loadVerified : Time → TrustListRef → Except String VerifiedTrustList
  /-- `new Date(text).getTime()`, unless that is not a number. -/
  parseDate : String → Option Time
  /-- `tryExtractEntityIdFromLeaf`. -/
  extractEntityId : String → Option String
  evaluateEntityTrust : (entityId : String) → FederationSource → FederationTrustEvaluation
  /-- `new X509Certificate(entry)` of an `x5c` entry. -/
  parseCertificate : String → Option Certificate
  certFromBase64Der : String → Option Certificate
  /-- `X509ChainBuilder.build` over a pool of certificates. -/
  build : (pool : List Certificate) → (leaf : Certificate) → Except String (List Certificate)
  /-- `getThumbprint("SHA-256")`, as bytes. -/
  thumbprint : Certificate → List Nat
  build_leaf : ∀ pool leaf path, build pool leaf = .ok path → path.head? = some leaf
  thumbprint_injective : Function.Injective thumbprint

variable (w : ChainWorld)

/-! ## Trust lists -/

def serviceTypeMatches (serviceType acceptedType : String) : Bool :=
  if serviceType == acceptedType then true
  else if "/".toList.isPrefixOf acceptedType.toList then
    acceptedType.toList.isSuffixOf serviceType.toList
  else if "/Issuance".toList.isSuffixOf acceptedType.toList ||
      "/Revocation".toList.isSuffixOf acceptedType.toList then false
  else (acceptedType ++ "/").toList.isPrefixOf serviceType.toList

/-- Is one of the services of an entity accepted? -/
def acceptsEntity (acceptedServiceTypes : Option (List String)) (entity : TrustedEntity) : Bool :=
  acceptedServiceTypes.all fun accepted =>
    entity.services.any fun s => accepted.any (serviceTypeMatches s.serviceTypeIdentifier)

def loadLists (t : Time) (source : LoteSource) : Except String (List VerifiedTrustList) :=
  source.lotes.mapM (w.loadVerified t)

/-- **`CollectTrustedEntities.execute`**: the first `nextUpdate` that is given, and the accepted
entities of all lists. -/
def collectTrustedEntities (t : Time) (source : LoteSource) : Except String VerifiedTrustList := do
  let lists ← loadLists w t source
  return {
    nextUpdate := lists.findSome? (·.nextUpdate)
    entities := (lists.flatMap (·.entities)).filter (acceptsEntity source.acceptedServiceTypes) }

def resolveManagedRef (tenantId : Option String) (ref : TrustListRef) :
    Except String TrustListRef :=
  match ref.trustListId with
  | none => .ok ref
  | some id =>
    match tenantId.filter (!·.isEmpty) with
    | some tenant =>
      if (trimText id).isEmpty then
        .error "Managed trust lists require a tenant and a non-empty trustListId"
      else do
        let der ← w.getVerifierX509Der tenant (trimText id)
        return { url := some (w.managedUrl tenant (trimText id))
                 verifierX509Der := some der }
    | none => .error "Managed trust lists require a tenant and a non-empty trustListId"

def resolveLotes (source : LoteSource) : Except String LoteSource := do
  let lotes ← source.lotes.mapM (resolveManagedRef w source.tenantId)
  return { source with lotes }

/-- `cacheTtlMs` of a trust store. -/
def cacheTtlMs : Nat := 5 * 60 * 1000

/-- **A store and the source it was collected from**: what the cache holds. -/
structure CachedStore where
  source : LoteSource
  store : BuiltTrustStore
  collected : collectTrustedEntities w store.fetchedAt source =
    .ok ⟨store.nextUpdate, store.entities⟩

/-- **`TrustStoreService.getTrustStore`**: from the cache, else collected now. -/
def getTrustStore (cache : List (CachedStore w)) (source : LoteSource) :
    Except String (CachedStore w) := do
  let source ← resolveLotes w source
  match cache.find? fun c => c.source == source && w.now - c.store.fetchedAt < cacheTtlMs with
  | some cached => return cached
  | none =>
    match h : collectTrustedEntities w w.now source with
    | .ok list => return ⟨source, ⟨w.now, list.nextUpdate, list.entities⟩, h⟩
    | .error message => .error message

/-- `getTrustStoreIfConfigured`: an error is a `TrustListUnavailableError`. -/
def getTrustStoreIfConfigured (cache : List (CachedStore w)) (source : Option LoteSource) :
    Except String (Option (CachedStore w)) :=
  match source.filter fun source => !source.lotes.isEmpty with
  | none => .ok none
  | some source =>
    match getTrustStore w cache source with
    | .error message => .error ("Failed to load configured trust store: " ++ message)
    | .ok cached =>
      if (cached.store.nextUpdate.bind w.parseDate).any (· < w.now) then
        .error ("Configured trust list is stale (NextUpdate in the past: " ++
          cached.store.nextUpdate.getD "" ++ ")")
      else .ok (some cached)

/-! ## Federation -/

def getMode (source : Option FederationSource) : FederationTrustMode :=
  (source.bind (·.mode)).getD .hybrid

def isEnabled (source : Option FederationSource) : Bool :=
  source.any fun source => !source.trustAnchors.isEmpty

def shouldUseLote (source : Option FederationSource) : Bool :=
  getMode source == .loteOnly || getMode source == .hybrid

def shouldUseFederation (source : Option FederationSource) : Bool :=
  getMode source == .federationOnly || getMode source == .hybrid

def evaluateCertificateEntityTrust (x5c : List String) (source : Option FederationSource) :
    FederationTrustEvaluation :=
  if !shouldUseFederation source then ⟨true, "federation disabled by mode"⟩
  else
    match source.filter fun source => !source.trustAnchors.isEmpty with
    | none => ⟨false, "federation mode requires trust anchors, none configured"⟩
    | some source =>
      match x5c with
      | [] => ⟨false, "federation mode requires x5c for entity extraction"⟩
      | leaf :: _ =>
        match w.extractEntityId leaf with
        | none => ⟨false, "could not extract entity id from certificate SAN/CN"⟩
        | some leafEntityId => w.evaluateEntityTrust leafEntityId source

def enforceFederationPolicy (source : Option FederationSource) : Bool :=
  getMode source == .federationOnly ||
    (getMode source == .hybrid && source.bind (·.enforceSigningPolicy) == some true)

/-! ## Matching -/

/-- Does a service have the type that is looked for? -/
def matchesFilter (serviceTypeFilter : String) (s : ServiceCert) : Bool :=
  if "/".toList.isPrefixOf serviceTypeFilter.toList then
    serviceTypeFilter.toList.isSuffixOf s.serviceTypeIdentifier.toList
  else serviceTypeMatches s.serviceTypeIdentifier serviceTypeFilter

def matchCert (pinnedMode : PinnedCertMode) (leaf last listed : Certificate) : Option MatchMode :=
  if listed.ca then
    if w.thumbprint listed == w.thumbprint last then some .ca else none
  else if pinnedMode == .leaf && w.thumbprint listed == w.thumbprint leaf then some .leafPinned
  else if pinnedMode == .pathEnd && w.thumbprint listed == w.thumbprint last then
    some .pathEndPinned
  else none

def listedCert (certValue : String) : Except String Certificate :=
  match w.certFromBase64Der certValue with
  | some cert => .ok cert
  | none => .error "Cannot parse certificate"

def revocationCertOf (entity : TrustedEntity) : Except String (Option Certificate) :=
  match entity.services.find? fun s =>
      s.serviceTypeIdentifier == "http://uri.etsi.org/19602/SvcType/EAA/Revocation" with
  | some s => some <$> listedCert w s.certValue
  | none => .ok none

def matchServices (pinnedMode : PinnedCertMode) (leaf last : Certificate) (entity : TrustedEntity) :
    List ServiceCert → Except String (Option MatchedTrustedEntity)
  | [] => .ok none
  | svc :: services => do
    let issuanceCert ← listedCert w svc.certValue
    match matchCert w pinnedMode leaf last issuanceCert with
    | some matchMode => do
      let revocationCert ← revocationCertOf w entity
      return some { entity, issuanceCert, matchMode, revocationCert }
    | none => matchServices pinnedMode leaf last entity services

def pathMatchesTrustedEntities (leaf last : Certificate) (pinnedMode : PinnedCertMode)
    (serviceTypeFilter : String) :
    List TrustedEntity → Except String (Option MatchedTrustedEntity)
  | [] => .ok none
  | entity :: entities => do
    match ← matchServices w pinnedMode leaf last entity
        (entity.services.filter (matchesFilter serviceTypeFilter)) with
    | some matched => return some matched
    | none => pathMatchesTrustedEntities leaf last pinnedMode serviceTypeFilter entities

/-! ## Validation -/

def refused (error : String) : ChainValidationResult where
  verified := false
  error := some error

def federationDecides (trusted : Bool) (error : String) : ChainValidationResult :=
  if trusted then { verified := true } else refused error

def isTimeValid (cert : Certificate) (now : Time) : Bool :=
  cert.notBefore ≤ now && now ≤ cert.notAfter

def trustAnchors (store : BuiltTrustStore) : List Certificate :=
  (store.entities.flatMap (·.services)).filterMap fun s => w.certFromBase64Der s.certValue

def validatePath (presented : List Certificate) (leaf : Certificate) (store : BuiltTrustStore)
    (policy : ChainValidationPolicy) (enforced trusted : Bool) :
    Except String ChainValidationResult :=
  match w.build (presented ++ trustAnchors w store) leaf with
  | .error _ =>
    .ok (if enforced && trusted then { verified := true } else refused "chain_build_failed")
  | .ok path =>
    if !path.all fun cert => isTimeValid cert w.now then .ok (refused "certificate_expired")
    else do
      let matched ← pathMatchesTrustedEntities w leaf (path.getLast?.getD leaf)
        policy.pinnedCertMode policy.serviceTypeFilter store.entities
      match matched with
      | none => return if enforced && trusted then { verified := true }
          else refused "no_trusted_entity_match"
      | some matchedEntity =>
        return if enforced && !trusted then refused "federation_trust_failed"
          else { verified := true, matchedEntity }

def validateLote (cache : List (CachedStore w)) (presented : List Certificate) (leaf : Certificate)
    (source : Option LoteSource) (policy : ChainValidationPolicy) (trusted : Bool) :
    Except String ChainValidationResult :=
  let federation := policy.federationTrustSource
  let enforced := enforceFederationPolicy federation
  match getTrustStoreIfConfigured w cache source with
  | .error _ =>
    .ok (if enforced then federationDecides trusted "trust_list_unavailable"
      else refused "trust_list_unavailable")
  | .ok none =>
    .ok (if enforced || (shouldUseFederation federation && isEnabled federation) then
        federationDecides trusted "federation_trust_failed"
      else { verified := true })
  | .ok (some cached) => validatePath w presented leaf cached.store policy enforced trusted

def validateChain (cache : List (CachedStore w)) (x5c : List String) (source : Option LoteSource)
    (policy : ChainValidationPolicy) : Except String ChainValidationResult :=
  if x5c.isEmpty then
    .ok (if policy.requireX5c then refused "x5c_required" else { verified := true })
  else
    match x5c.mapM w.parseCertificate with
    | none | some [] => .ok (refused "invalid_x5c")
    | some (leaf :: chain) =>
      let federation := policy.federationTrustSource
      let trusted := shouldUseFederation federation &&
        (evaluateCertificateEntityTrust w x5c federation).trusted
      if shouldUseLote federation then
        validateLote w cache (leaf :: chain) leaf source policy trusted
      else .ok (federationDecides trusted "federation_trust_failed")

end ChainValidation

end Eudiplo
