import Eudiplo.Keys.KeyChains

/-!
# Managed trust lists

`TrustListService`: a list is built from the entities of a request, signed with a key chain
of the tenant and saved, or published as the next version of the list it replaces.  The
renewal job re-issues what is stored.  The signed JWT is stored with the list, while the
certificate a verifier pins is looked up when it is asked for.
-/

namespace Eudiplo

open Concurrency Prog

namespace TrustListService

def findOne (tenantId id : String) : KeyApi TrustList := do
  let found ← trustLists (.findOne (tenantId, id))
  getOrFail (.http 404 "Could not find any entity of type \"TrustList\"" none) found

def validatePem (pem fieldName : String) : KeyApi Unit := do
  ensure (nonEmpty (some pem)) (badRequest (fieldName ++ " is required"))
  let parsed ← (askKeys (.parseCertificate pem)).attempt
  ensure parsed.toBool (badRequest (fieldName ++ " is not a valid X.509 certificate"))

def validateEntity (entity : TrustListEntity) : KeyApi Unit :=
  match entity.certificates with
  | .external issuerCertPem revocationCertPem => do
    validatePem issuerCertPem "issuerCertPem"
    validatePem revocationCertPem "revocationCertPem"
  | .internal _ _ => ret ()

def signingCert (tenantId : String) (config : TrustListCreateDto) (existing : Option TrustList) :
    KeyApi CertificateInfo :=
  if truthy config.keyChainId then do
    let cert ← CertService.getCertificateById tenantId (config.keyChainId.getD "")
    ensure (cert.keyChain.usageType == .trustList)
      (badRequest ("Key chain " ++ config.keyChainId.getD "" ++
        " is not valid for Trust List usage (key lacks TrustList usage)"))
    return cert
  else if truthy (existing.map (·.keyChainId)) then
    CertService.getCertificateById tenantId ((existing.map (·.keyChainId)).getD "")
  else CertService.find tenantId .trustList

/-- `ServiceTypeIdentifier`. -/
def serviceTypeIdentifier (walletProvider revocation : Bool) : String :=
  match walletProvider, revocation with
  | true, false => "http://uri.etsi.org/19602/SvcType/WalletSolution/Issuance"
  | true, true => "http://uri.etsi.org/19602/SvcType/WalletSolution/Revocation"
  | false, false => "http://uri.etsi.org/19602/SvcType/EAA/Issuance"
  | false, true => "http://uri.etsi.org/19602/SvcType/EAA/Revocation"

def serviceName (walletProvider revocation : Bool) : String :=
  (if walletProvider then "Wallet" else "EAA") ++
    if revocation then "-Revocation-Service" else "-Issuance-Service"

def createEntityFromData (issuerCertBase64 revocationCertBase64 : String)
    (info : TrustListEntityInfo) (providerType : Option ProviderType) : LoTETrustedEntity :=
  let lang := (orElse info.lang (some "en")).getD ""
  let walletProvider := providerType == some .walletProvider
  { name := info.name
    lang
    services := [
      { name := serviceName walletProvider false, lang
        type := serviceTypeIdentifier walletProvider false, certificate := issuerCertBase64 },
      { name := serviceName walletProvider true, lang
        type := serviceTypeIdentifier walletProvider true, certificate := revocationCertBase64 }]
    infoUri := if truthy info.uri then info.uri else none
    country := (orElse info.country (some "EU")).getD ""
    locality := info.locality.getD ""
    postalCode := info.postalCode.getD ""
    streetAddress := info.streetAddress.getD ""
    postalLang := String.ofList (lang.toList.takeWhile (· != '-'))
    email := if truthy info.contactUri then info.contactUri else none }

/-- `formatCertEntity`: the trust anchor of a key chain, its last certificate. -/
def formatCertEntity (cert : CertificateInfo) : KeyApi String := do
  let anchorPem ← getOrFail (.http 500 "The key chain has no certificate" none) cert.crt.getLast?
  return formatPem anchorPem

def createEntity (tenantId : String) (entity : TrustListEntity) : KeyApi LoTETrustedEntity :=
  match entity.certificates with
  | .internal issuerKeyChainId revocationKeyChainId => do
    let issuerCert ← CertService.getCertificateById tenantId issuerKeyChainId
    let revocationCert ← CertService.getCertificateById tenantId revocationKeyChainId
    let issuer ← formatCertEntity issuerCert
    let revocation ← formatCertEntity revocationCert
    return createEntityFromData issuer revocation entity.info entity.providerType
  | .external issuerCertPem revocationCertPem =>
    ret (createEntityFromData (formatPem issuerCertPem) (formatPem revocationCertPem) entity.info
      entity.providerType)

def createEntities (tenantId : String) : List TrustListEntity → KeyApi (List LoTETrustedEntity)
  | [] => ret []
  | entity :: entities => do
    let published ← createEntity tenantId entity
    let rest ← createEntities tenantId entities
    return published :: rest

def createList (tenantName : String) (entities : List LoTETrustedEntity) (sequenceNumber : Nat)
    (walletProviders : Bool) (issuedAt : Time) : LoTE where
  listAndSchemeInformation := {
    schemeOperatorName := tenantName
    loTEType :=
      if walletProviders then "http://uri.etsi.org/19602/LoTEType/EUWalletProvidersList"
      else "http://uri.etsi.org/19602/LoTEType/EUEAAProvidersList"
    statusDeterminationApproach :=
      if walletProviders then "http://uri.etsi.org/19602/WalletProvidersList/StatusDetn/EU"
      else "http://uri.etsi.org/19602/EUEAAProvidersList/StatusDetn/EU"
    schemeTypeCommunityRules :=
      if walletProviders then "http://uri.etsi.org/19602/WalletProvidersList/schemerules/EU"
      else "http://uri.etsi.org/19602/EUEAAProviders/schemerules/EU"
    schemeTerritory := "EU"
    listIssueDateTime := issuedAt
    nextUpdate := some (trustListNextUpdate issuedAt)
    loTESequenceNumber := sequenceNumber }
  trustedEntitiesList := entities

/-- `generateJwt`: the certificates and the signer are looked up one after the other. -/
def generateJwt (tenantId keyChainId : String) (lote : LoTE) : KeyApi String := do
  let cert ← CertService.getCertificateById tenantId keyChainId
  let keyChain ← KeyChainService.getEntity tenantId cert.id
  let adapter ← askKeys (.resolveProvider (some keyChain.kmsProvider) keyChain.tenantId)
  askKeys (.signLoTE lote cert.id adapter (keyChain.ref adapter) cert.crt)

/-- `every(providerType === "wallet-provider")`. -/
def walletProvidersOnly (config : TrustListCreateDto) : Bool :=
  config.entities.all (·.providerType == some .walletProvider)

def newListId (config : TrustListCreateDto) : KeyApi String :=
  match config.id with
  | some id => ret id
  | none => keyUuid

/-- **`buildAndSaveTrustList`** of a new list. -/
def createTrustList (config : TrustListCreateDto) (tenantId tenantName : String) :
    KeyApi TrustList := do
  each validateEntity config.entities
  let cert ← signingCert tenantId config none
  let id ← newListId config
  let entries ← createEntities tenantId config.entities
  let issuedAt ← keyNow
  let lote := createList tenantName entries 1 (walletProvidersOnly config) issuedAt
  let jwt ← generateJwt tenantId cert.id lote
  let row : TrustList := {
    id, tenantId
    description := config.description
    keyChainId := cert.id
    entityConfig := some config.entities
    sequenceNumber := 1
    data := some (.document lote)
    jwt }
  let () ← trustLists (.save row)
  return row

/-- **`buildAndSaveTrustList`** of the next version of a list. -/
def replaceTrustList (config : TrustListCreateDto) (tenantId tenantName : String)
    (existing : TrustList) : KeyApi TrustList := do
  each validateEntity config.entities
  let cert ← signingCert tenantId config (some existing)
  let sequenceNumber := orOne existing.sequenceNumber + 1
  let entries ← createEntities tenantId config.entities
  let issuedAt ← keyNow
  let lote := createList tenantName entries sequenceNumber (walletProvidersOnly config) issuedAt
  let jwt ← generateJwt existing.tenantId cert.id lote
  let published ← trustLists (.publishNextVersion existing {
    sequenceNumber, jwt
    data := .document lote
    description := config.description
    keyChainId := some cert.id
    entityConfig := some config.entities })
  ensure published (.http 409 ("Trust list " ++ existing.id ++
    " was modified concurrently; retry the update") none)
  findOne existing.tenantId existing.id

/-- `create`, for a tenant that is at hand. -/
def create (config : TrustListCreateDto) (tenantId tenantName : String) : KeyApi TrustList :=
  createTrustList config tenantId tenantName

def update (tenantId id : String) (values : TrustListCreateDto) : KeyApi TrustList := do
  let existing ← findOne tenantId id
  let tenantName ← askKeys (.tenant tenantId)
  replaceTrustList values tenantId tenantName existing

def renewedLoTE (lote : LoTE) (sequenceNumber : Nat) (now : Time) : LoTE :=
  { lote with
    listAndSchemeInformation := { lote.listAndSchemeInformation with
      loTESequenceNumber := sequenceNumber
      listIssueDateTime := now
      nextUpdate := some (trustListNextUpdate now) } }

def renew (trustList : TrustList) (lote : LoTE) (now : Time) : KeyApi Bool := do
  let sequenceNumber := orOne trustList.sequenceNumber + 1
  let renewed := renewedLoTE lote sequenceNumber now
  let jwt ← generateJwt trustList.tenantId trustList.keyChainId renewed
  trustLists (.publishNextVersion trustList { sequenceNumber, data := .document renewed, jwt })

def renewIfDue (now : Time) (trustList : TrustList) : KeyApi Unit :=
  match storedLoTE trustList.data with
  | none => ret ()
  | some lote =>
    if isTrustListRenewalDue lote.listAndSchemeInformation.nextUpdate now then do
      let _ ← (renew trustList lote now).attempt
      return ()
    else ret ()

/-- **`renewDueTrustLists`**; a failed renewal does not stop the others. -/
def renewDueTrustLists : KeyApi Unit := do
  let now ← keyNow
  let lists ← trustLists .find
  each (renewIfDue now) lists

def remove (tenantId id : String) : KeyApi Unit := trustLists (.delete (tenantId, id))

def importTrustList (updateExisting : Bool) (tenantId id : String) (config : TrustListCreateDto) :
    KeyApi Unit := do
  let found ← trustLists (.findOne (tenantId, id))
  if found.isSome && !updateExisting then return ()
  else do
    let () ← onlyIf found.isSome () (trustLists (.delete (tenantId, id)))
    let tenantName ← askKeys (.tenant tenantId)
    let _ ← createTrustList { config with id := some id } tenantId tenantName
    return ()

def applyTrustList (tenantId id : String) (spec : TrustListCreateDto) : KeyApi Unit := do
  let tenantName ← askKeys (.tenant tenantId)
  let found ← trustLists (.findOne (tenantId, id))
  if found.isSome then do
    let _ ← update tenantId id { spec with id := some id }
    return ()
  else do
    let _ ← create { spec with id := some id } tenantId tenantName
    return ()

def getJwt (tenantId id : String) : KeyApi String := do
  let trustList ← findOne tenantId id
  return trustList.jwt

/-- `getVerifierX509Der`: the leaf certificate of the key chain, as it is now. -/
def getVerifierX509Der (tenantId id : String) : KeyApi String := do
  let trustList ← findOne tenantId id
  let cert ← CertService.getCertificateById tenantId trustList.keyChainId
  let leaf ← getOrFail (.http 500 "The key chain has no certificate" none) cert.crt.head?
  return formatPem leaf

end TrustListService

end Eudiplo
