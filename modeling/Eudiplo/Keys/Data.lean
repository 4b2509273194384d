import Eudiplo.Backend.Calls

/-!
# Key chains and managed trust lists

The rows of `key_chain`, `trust_list` and `trust_list_version`, with the documents a trust
list is published as.  A JWK keeps its key material only; a key of an external KMS has no
private part.  The text of a certificate chain is the list of its PEM blocks, leaf first.
-/

namespace Eudiplo

/-! ## Key chains -/

inductive KeyUsageType where
  | access
  | attestation
  | trustList
  | statusList
  | encrypt
  deriving DecidableEq

inductive KeyUsage where
  | sign
  | encrypt
  deriving DecidableEq

/-- A P-256 key as a JWK; `d` is there where the private key is. -/
structure Jwk where
  kid : Option String := none
  x : String
  y : String
  d : Option String := none
  deriving DecidableEq

/-- `getPublicJwk`: without the private part. -/
def Jwk.getPublicJwk (jwk : Jwk) : Jwk := { jwk with d := none }

/-- `KmsAdapter`: the provider and whether it keeps its keys in the database. -/
structure KmsAdapter where
  providerId : String
  db : Bool
  deriving DecidableEq

structure KmsKeyRef where
  privateJwk : Option Jwk := none
  publicJwk : Jwk
  externalKeyId : Option String := none
  deriving DecidableEq

structure KeyChainEntity where
  id : String
  tenantId : String
  description : Option String := none
  usageType : KeyUsageType
  usage : KeyUsage := .sign
  kmsProvider : String := "db"
  externalKeyId : Option String := none
  rootExternalKeyId : Option String := none
  rootJwk : Option Jwk := none
  rootCertificate : Option String := none
  activeJwk : Jwk
  activeCertificate : List String
  rotationEnabled : Bool := false
  rotationIntervalDays : Option Nat := none
  certValidityDays : Option Nat := none
  lastRotatedAt : Option Time := none
  previousJwk : Option Jwk := none
  previousCertificate : Option (List String) := none
  previousKeyExpiry : Option Time := none
  createdAt : Time := 0
  deriving DecidableEq

abbrev TenantKey := String × String

def KeyChainEntity.key (kc : KeyChainEntity) : TenantKey := (kc.tenantId, kc.id)

/-- `hasInternalCa`, with the root it finds. -/
def KeyChainEntity.internalCa (kc : KeyChainEntity) : Option (Jwk × String) :=
  kc.rootJwk.bind fun jwk => kc.rootCertificate.map fun certificate => (jwk, certificate)

/-- `storedKeyForEntity`: the private JWK of a database key, the public one otherwise. -/
def storedKeyForEntity (adapter : KmsAdapter) (ref : KmsKeyRef) : Jwk :=
  if adapter.db then ref.privateJwk.getD ref.publicJwk else ref.publicJwk

def refForStoredKey (adapter : KmsAdapter) (storedJwk : Jwk) (externalKeyId : Option String) :
    KmsKeyRef :=
  if adapter.db then { privateJwk := some storedJwk, publicJwk := storedJwk.getPublicJwk }
  else { externalKeyId := externalKeyId.or storedJwk.kid, publicJwk := storedJwk }

/-- `refFromEntity`: the reference to the active key. -/
def KeyChainEntity.ref (adapter : KmsAdapter) (kc : KeyChainEntity) : KmsKeyRef :=
  refForStoredKey adapter kc.activeJwk kc.externalKeyId

/-- `Date` arithmetic in days. -/
def Time.plusDays (t : Time) (days : Nat) : Time := t + days * 24 * 60 * 60 * 1000

/-! ## Trust lists -/

structure TrustListEntityInfo where
  name : String
  lang : Option String := none
  uri : Option String := none
  country : Option String := none
  locality : Option String := none
  postalCode : Option String := none
  streetAddress : Option String := none
  contactUri : Option String := none
  deriving DecidableEq

/-- `providerType` of an entity. -/
inductive ProviderType where
  | attestationProvider
  | walletProvider
  deriving DecidableEq

inductive TrustListCertificates where
  | internal (issuerKeyChainId revocationKeyChainId : String)
  | external (issuerCertPem revocationCertPem : String)
  deriving DecidableEq

structure TrustListEntity where
  certificates : TrustListCertificates
  providerType : Option ProviderType := none
  info : TrustListEntityInfo
  deriving DecidableEq

structure TrustListCreateDto where
  id : Option String := none
  description : Option String := none
  keyChainId : Option String := none
  entities : List TrustListEntity
  deriving DecidableEq

structure LoTEService where
  name : String
  lang : String
  type : String
  certificate : String
  deriving DecidableEq

structure LoTETrustedEntity where
  name : String
  lang : String
  services : List LoTEService
  infoUri : Option String
  country : String
  locality : String
  postalCode : String
  streetAddress : String
  postalLang : String
  email : Option String
  deriving DecidableEq

/-- `ListAndSchemeInformation`; a `NextUpdate` that cannot be read is `none`. -/
structure ListAndSchemeInformation where
  schemeOperatorName : String
  loTEType : String
  statusDeterminationApproach : String
  schemeTypeCommunityRules : String
  schemeTerritory : String
  listIssueDateTime : Time
  nextUpdate : Option Time
  loTESequenceNumber : Nat
  deriving DecidableEq

/-- `LoTE`: a list of trusted entities. -/
structure LoTE where
  listAndSchemeInformation : ListAndSchemeInformation
  trustedEntitiesList : List LoTETrustedEntity
  deriving DecidableEq

inductive TrustListData where
  | document (lote : LoTE)
  | legacy (lote : LoTE)
  | unreadable
  deriving DecidableEq

def storedLoTE : Option TrustListData → Option LoTE
  | some (.document lote) => some lote
  | some (.legacy lote) => some lote
  | _ => none

structure TrustList where
  id : String
  description : Option String := none
  tenantId : String
  keyChainId : String
  data : Option TrustListData := none
  entityConfig : Option (List TrustListEntity) := none
  sequenceNumber : Nat := 1
  jwt : String
  deriving DecidableEq

def TrustList.key (t : TrustList) : TenantKey := (t.tenantId, t.id)

def TrustList.keyChain (t : TrustList) : TenantKey := (t.tenantId, t.keyChainId)

structure TrustListVersion where
  trustListId : String
  tenantId : String
  sequenceNumber : Nat
  data : TrustListData
  entityConfig : Option (List TrustListEntity)
  jwt : String
  deriving DecidableEq

def TrustListVersion.key (v : TrustListVersion) : TenantKey := (v.tenantId, v.trustListId)

structure TrustListVersionChanges where
  sequenceNumber : Nat
  data : TrustListData
  jwt : String
  description : Option String := none
  keyChainId : Option String := none
  entityConfig : Option (List TrustListEntity) := none
  deriving DecidableEq

/-- `x || 1`. -/
def orOne (n : Nat) : Nat := if n == 0 then 1 else n

/-- The row after an `UPDATE` with the changes. -/
def TrustList.publish (t : TrustList) (changes : TrustListVersionChanges) : TrustList :=
  { t with
    sequenceNumber := changes.sequenceNumber
    data := some changes.data
    jwt := changes.jwt
    description := changes.description.or t.description
    keyChainId := changes.keyChainId.getD t.keyChainId
    entityConfig := changes.entityConfig.or t.entityConfig }

def TrustList.version (t : TrustList) : TrustListVersion where
  trustListId := t.id
  tenantId := t.tenantId
  sequenceNumber := orOne t.sequenceNumber
  data := t.data.getD .unreadable
  entityConfig := t.entityConfig
  jwt := t.jwt

@[simp] theorem TrustList.publish_key (t : TrustList) (changes : TrustListVersionChanges) :
    (t.publish changes).key = t.key := rfl

@[simp] theorem TrustList.version_key (t : TrustList) : t.version.key = t.key := rfl

/-- `TRUST_LIST_VALIDITY_MS`. -/
def trustListValidityMs : Nat := 30 * 24 * 60 * 60 * 1000

/-- `TRUST_LIST_RENEWAL_WINDOW_MS`. -/
def trustListRenewalWindowMs : Nat := trustListValidityMs / 3

def trustListNextUpdate (issuedAt : Time) : Time := issuedAt + trustListValidityMs

def isTrustListRenewalDue (nextUpdate : Option Time) (now : Time) : Bool :=
  nextUpdate.all fun expiresAt => expiresAt ≤ now + trustListRenewalWindowMs

end Eudiplo
