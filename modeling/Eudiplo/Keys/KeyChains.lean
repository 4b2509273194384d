import Eudiplo.Keys.Calls

/-!
# The key chain services

`KeyChainService`, `KeyChainImportService`, `KeyRotationService`, and the look-ups of
`CertService` and `EncryptionService`.  A rotation keeps the replaced key as the previous
one; nothing is told to those who signed or advertised with it.

Days of the server's time zone are taken to have 24 hours.
-/

namespace Eudiplo

open Concurrency Prog

/-- `CertificateInfo`: the certificates of a key chain, leaf first, and the row itself. -/
structure CertificateInfo where
  id : String
  crt : List String
  keyChain : KeyChainEntity

/-- `s.replaceAll(sub, "")`, where `skip` characters of an occurrence are still to drop. -/
def removeAll (sub : List Char) (skip : Nat) : List Char → List Char
  | [] => []
  | c :: cs =>
    match skip with
    | skip + 1 => removeAll sub skip cs
    | 0 =>
      if sub.isPrefixOf (c :: cs) then removeAll sub (sub.length - 1) cs
      else c :: removeAll sub 0 cs

/-- `formatPem`: base64 DER, without the headers and line breaks. -/
def formatPem (pem : String) : String :=
  let body := removeAll "-----END CERTIFICATE-----".toList 0
    (removeAll "-----BEGIN CERTIFICATE-----".toList 0 pem.toList)
  String.ofList (body.filter fun c => c != '\r' && c != '\n')

/-- `certificateNotBefore`: the start of the hour. -/
def certificateNotBefore (now : Time) : Time := now / (60 * 60 * 1000) * (60 * 60 * 1000)

/-! ## Requests -/

inductive KeyChainType where
  | internalChain
  | standalone
  deriving DecidableEq

/-- `rotationPolicy` of a request. -/
structure RotationPolicy where
  enabled : Option Bool := none
  intervalDays : Option Nat := none
  certValidityDays : Option Nat := none
  deriving DecidableEq

structure KeyChainCreateDto where
  type : KeyChainType
  usageType : KeyUsageType
  description : Option String := none
  kmsProvider : Option String := none
  rotationPolicy : Option RotationPolicy := none
  deriving DecidableEq

structure KeyChainUpdateDto where
  description : Option String := none
  rotationPolicy : Option RotationPolicy := none
  activeCertificate : Option (List String) := none
  deriving DecidableEq

/-- `KeyChainImportDto`, with its key and certificates decoded. -/
structure KeyChainImportDto where
  id : Option String := none
  usageType : KeyUsageType
  description : Option String := none
  kmsProvider : Option String := none
  key : Jwk
  crt : List String := []
  rotationPolicy : Option RotationPolicy := none
  deriving DecidableEq

/-- `x || default`, for a number of days. -/
def daysOr (default : Nat) : Option Nat → Nat
  | some 0 => default
  | some days => days
  | none => default

namespace KeyChainService

def getEntity (tenantId id : String) : KeyApi KeyChainEntity := do
  let found ← keyChains (.findOne (tenantId, id))
  getOrFail (.http 404 ("Key chain " ++ id ++ " not found") none) found

def findByUsageType (tenantId : String) (usageType : KeyUsageType) (keyId : Option String) :
    KeyApi KeyChainEntity := do
  let found ← keyChains (.findByUsageType tenantId usageType keyId)
  getOrFail (.http 404 "No key chain found" none) found

/-- `createInternalChain`: a root, and an active key it signs the certificate of. -/
def createInternalChain (tenantId id : String) (usageType : KeyUsageType) (adapter : KmsAdapter)
    (subjectCN : String) (notBefore notAfter : Time) : KeyApi KeyChainEntity := do
  let root ← askKeys (.generateKey adapter (id ++ "-root"))
  let rootCertificate ← askKeys (.selfSignedCert true adapter root (subjectCN ++ " Root CA")
    notBefore (notBefore.plusDays (10 * 365)))
  let active ← askKeys (.generateKey adapter (id ++ "-active"))
  let chain ← askKeys (.caSignedCert adapter root rootCertificate active.publicJwk subjectCN
    notBefore notAfter)
  return { id, tenantId, usageType
           rootJwk := some (storedKeyForEntity adapter root)
           rootExternalKeyId := root.externalKeyId
           rootCertificate := some rootCertificate
           activeJwk := storedKeyForEntity adapter active
           activeCertificate := chain
           externalKeyId := active.externalKeyId }

def createStandaloneKey (tenantId id : String) (usageType : KeyUsageType) (adapter : KmsAdapter)
    (subjectCN : String) (notBefore notAfter : Time) : KeyApi KeyChainEntity := do
  let key ← askKeys (.generateKey adapter (id ++ "-active"))
  let certificate ← askKeys (.selfSignedCert false adapter key subjectCN notBefore notAfter)
  return { id, tenantId, usageType
           activeJwk := storedKeyForEntity adapter key
           activeCertificate := [certificate]
           externalKeyId := key.externalKeyId }

def createKeyChain : KeyChainType → (tenantId id : String) → KeyUsageType → KmsAdapter →
    (subjectCN : String) → (notBefore notAfter : Time) → KeyApi KeyChainEntity
  | .internalChain => createInternalChain
  | .standalone => createStandaloneKey

def createWithId (tenantId id : String) (dto : KeyChainCreateDto) : KeyApi Unit := do
  let subjectCN ← askKeys (.tenant tenantId)
  let now ← keyNow
  let policy := dto.rotationPolicy.getD {}
  let notAfter := now.plusDays (daysOr 365 policy.certValidityDays)
  let adapter ← askKeys (.resolveProvider dto.kmsProvider tenantId)
  let keyChain ← createKeyChain dto.type tenantId id dto.usageType adapter subjectCN
    (certificateNotBefore now) notAfter
  let row := { keyChain with
    usage := .sign
    description := dto.description
    kmsProvider := adapter.providerId
    rotationEnabled := policy.enabled.getD false
    rotationIntervalDays := policy.intervalDays
    certValidityDays := policy.certValidityDays }
  keyChains (.save row fun _ => row)

def create (tenantId : String) (dto : KeyChainCreateDto) : KeyApi String := do
  let id ← keyUuid
  createWithId tenantId id dto
  return id

/-- `deleteExternalKeyMaterial`: best effort. -/
def deleteExternalKeyMaterial (keyChain : KeyChainEntity) : KeyApi Unit := do
  let _ ← attempt do
    let adapter ← askKeys (.resolveProvider (some keyChain.kmsProvider) keyChain.tenantId)
    askKeys (.deleteKey adapter (keyChain.ref adapter))
  return ()

/-- `regenerate`: new material under the old id. -/
def regenerate (tenantId id : String) (dto : KeyChainCreateDto) : KeyApi Unit := do
  let previous ← keyChains (.findOne (tenantId, id))
  let temporaryId ← keyUuid
  createWithId tenantId temporaryId dto
  let generated ← getEntity tenantId temporaryId
  let () ← keyChains (.save { generated with id } fun _ => generated)
  let () ← keyChains (.delete (tenantId, temporaryId))
  match previous with
  | some previous => deleteExternalKeyMaterial previous
  | none => return ()

def createStandalone (tenantId : String) (description : Option String)
    (usageType : KeyUsageType) (privateKey : Jwk) : KeyApi String := do
  let id ← keyUuid
  let row : KeyChainEntity := {
    id, tenantId, usageType
    usage := .encrypt
    description := orElse description (some "Encryption key")
    activeJwk := { privateKey with kid := orElse privateKey.kid (some (id ++ "-active")) }
    activeCertificate := [] }
  let () ← keyChains (.save row fun _ => row)
  return id

def update (tenantId id : String) (dto : KeyChainUpdateDto) : KeyApi Unit := do
  let _ ← getEntity tenantId id
  let policy := dto.rotationPolicy.getD {}
  keyChains (.update (tenantId, id) fun kc => { kc with
    description := dto.description.or kc.description
    rotationEnabled := policy.enabled.getD kc.rotationEnabled
    rotationIntervalDays := policy.intervalDays.or kc.rotationIntervalDays
    certValidityDays := policy.certValidityDays.or kc.certValidityDays
    activeCertificate := dto.activeCertificate.getD kc.activeCertificate })

def delete (tenantId id : String) : KeyApi Unit := do
  let keyChain ← getEntity tenantId id
  deleteExternalKeyMaterial keyChain
  keyChains (.delete (tenantId, id))

def rotatedCertificate (keyChain : KeyChainEntity) (adapter : KmsAdapter) (newKey : KmsKeyRef)
    (subjectCN : String) (notBefore notAfter : Time) : KeyApi (List String) :=
  match keyChain.internalCa with
  | some (rootJwk, rootCertificate) => do
    let chain ← askKeys (.caSignedCert adapter
      (refForStoredKey adapter rootJwk keyChain.rootExternalKeyId) rootCertificate
      newKey.publicJwk subjectCN notBefore notAfter)
    return chain
  | none => do
    let certificate ← askKeys (.selfSignedCert false adapter newKey subjectCN notBefore notAfter)
    return [certificate]

/-- **`rotate`.** -/
def rotate (tenantId id : String) : KeyApi Unit := do
  let keyChain ← getEntity tenantId id
  let subjectCN ← askKeys (.tenant tenantId)
  let now ← keyNow
  let notAfter := now.plusDays (daysOr 365 keyChain.certValidityDays)
  let adapter ← askKeys (.resolveProvider (some keyChain.kmsProvider) keyChain.tenantId)
  let stamp ← keyNow
  let newKey ← askKeys (.generateKey adapter (id ++ "-" ++ toString stamp))
  let newCertificate ← rotatedCertificate keyChain adapter newKey subjectCN
    (certificateNotBefore now) notAfter
  keyChains (.update (tenantId, id) fun kc => { kc with
    activeJwk := storedKeyForEntity adapter newKey
    activeCertificate := newCertificate
    externalKeyId := newKey.externalKeyId.or kc.externalKeyId
    previousJwk := some keyChain.activeJwk
    previousCertificate := some keyChain.activeCertificate
    previousKeyExpiry := some (now.plusDays 30)
    lastRotatedAt := some now })

/-- `findKeyChainNeedingRotation`: which rotating key chains are due. -/
def rotationDue (now : Time) (kc : KeyChainEntity) : Bool :=
  match kc.rotationIntervalDays with
  | none => false
  | some days => days != 0 && (kc.lastRotatedAt.getD kc.createdAt).plusDays days ≤ now

/-- `checkForRotation`: the daily job; a failed rotation does not stop the others. -/
def checkForRotation : KeyApi Unit := do
  let now ← keyNow
  let rotating ← keyChains .findRotating
  each (fun kc => do
    let _ ← (rotate kc.tenantId kc.id).attempt
    return ()) (rotating.filter (rotationDue now))

/-! ## Import -/

def importedCertificate (adapter : KmsAdapter) (key : KmsKeyRef) (subjectCN : String)
    (crt : List String) : KeyApi (List String) :=
  match crt with
  | leaf :: _ => do
    askKeys (.validateImported leaf key.publicJwk)
    return crt
  | [] => do
    let now ← keyNow
    let certificate ← askKeys (.selfSignedCert false adapter key subjectCN
      (certificateNotBefore now) (now.plusDays 365))
    return [certificate]

def importedRoot (adapter : KmsAdapter) (root : KmsKeyRef) (subjectCN : String) (now : Time)
    (crt : List String) : KeyApi String :=
  match crt.getLast? with
  | some certificate => ret certificate
  | none => askKeys (.selfSignedCert true adapter root (subjectCN ++ " Root CA")
      (certificateNotBefore now) (now.plusDays (10 * 365)))

/-- `importKeyChain` without a rotation policy: the key becomes the active key. -/
def importActive (tenantId id subjectCN : String) (adapter : KmsAdapter) (privateKey : Jwk)
    (dto : KeyChainImportDto) : KeyApi Unit := do
  let active ← askKeys (.importKey adapter (privateKey.kid.getD "") privateKey)
  let activeCertificate ← importedCertificate adapter active subjectCN dto.crt
  let set (kc : KeyChainEntity) : KeyChainEntity := { kc with
    usageType := dto.usageType
    usage := .sign
    description := dto.description.or kc.description
    kmsProvider := adapter.providerId
    activeJwk := storedKeyForEntity adapter active
    activeCertificate
    externalKeyId := active.externalKeyId
    rootJwk := none
    rootCertificate := none
    rootExternalKeyId := none
    rotationEnabled := false
    rotationIntervalDays := none
    certValidityDays := none }
  keyChains (.save (set { id, tenantId, usageType := dto.usageType
                          activeJwk := privateKey, activeCertificate }) set)

/-- `importKeyChainWithRotation`: the key becomes the root of a new active key. -/
def importKeyChainWithRotation (tenantId id subjectCN : String) (adapter : KmsAdapter)
    (rootKey : Jwk) (policy : RotationPolicy) (dto : KeyChainImportDto) : KeyApi Unit := do
  let now ← keyNow
  let certValidityDays := daysOr 365 policy.certValidityDays
  let root ← askKeys (.importKey adapter (rootKey.kid.getD "") rootKey)
  let rootCertificate ← importedRoot adapter root subjectCN now dto.crt
  askKeys (.validateImported rootCertificate root.publicJwk)
  let stamp ← keyNow
  let active ← askKeys (.generateKey adapter (id ++ "-active-" ++ toString stamp))
  let chain ← askKeys (.caSignedCert adapter root rootCertificate active.publicJwk subjectCN
    (certificateNotBefore now) (now.plusDays certValidityDays))
  let set (kc : KeyChainEntity) : KeyChainEntity := { kc with
    usageType := dto.usageType
    usage := .sign
    description := dto.description.or kc.description
    kmsProvider := adapter.providerId
    rootJwk := some (storedKeyForEntity adapter root)
    rootExternalKeyId := root.externalKeyId
    rootCertificate := some rootCertificate
    activeJwk := storedKeyForEntity adapter active
    activeCertificate := chain
    externalKeyId := active.externalKeyId
    rotationEnabled := true
    rotationIntervalDays := some (daysOr 90 policy.intervalDays)
    certValidityDays := some certValidityDays }
  keyChains (.save (set { id, tenantId, usageType := dto.usageType
                          activeJwk := rootKey, activeCertificate := [] }) set)

def importId (dto : KeyChainImportDto) : KeyApi String :=
  if truthy dto.id then ret (dto.id.getD "") else keyUuid

/-- The kid of an imported key; an external adapter must not overwrite the active key. -/
def importKid (id : String) (replacing : Bool) (dto : KeyChainImportDto) : KeyApi String :=
  if replacing then do
    let suffix ← keyUuid
    return id ++ "-import-" ++ suffix
  else ret ((orElse dto.key.kid (some (id ++ "-active"))).getD "")

/-- **`importKeyChain`.** -/
def importKeyChain (tenantId : String) (dto : KeyChainImportDto) : KeyApi String := do
  let id ← importId dto
  let subjectCN ← askKeys (.tenant tenantId)
  let replacing ← keyChains (.findOne (tenantId, id))
  let adapter ← askKeys (.resolveProvider dto.kmsProvider tenantId)
  let kid ← importKid id (replacing.isSome && !adapter.db) dto
  let privateKey := { dto.key with kid := some kid }
  let policy := dto.rotationPolicy.getD {}
  if policy.enabled.getD false then do
    importKeyChainWithRotation tenantId id subjectCN adapter privateKey policy dto
    return id
  else do
    importActive tenantId id subjectCN adapter privateKey dto
    return id

end KeyChainService

/-! ## Certificates and encryption keys -/

namespace CertService

def certificateInfo (keyChain : KeyChainEntity) : CertificateInfo where
  id := keyChain.id
  crt := keyChain.activeCertificate
  keyChain := keyChain

def getCertificateById (tenantId certId : String) : KeyApi CertificateInfo := do
  let keyChain ← KeyChainService.getEntity tenantId certId
  return certificateInfo keyChain

/-- `find`, with its validation; `findOrCreate` is the same. -/
def find (tenantId : String) (type : KeyUsageType) : KeyApi CertificateInfo := do
  let keyChain ← KeyChainService.findByUsageType tenantId type none
  askKeys (.validateCertificate keyChain)
  return certificateInfo keyChain

end CertService

namespace EncryptionService

/-- `getEncryptionPrivateJwk`: the active key of some encryption key chain of the tenant. -/
def getEncryptionPrivateJwk (tenantId : String) : KeyApi Jwk := do
  let keyChain ← KeyChainService.findByUsageType tenantId .encrypt none
  return keyChain.activeJwk

/-- `getEncryptionPublicKey`: the public part of the same. -/
def getEncryptionPublicKey (tenantId : String) : KeyApi Jwk := do
  let keyChain ← KeyChainService.findByUsageType tenantId .encrypt none
  return { keyChain.activeJwk with d := none, kid := some keyChain.id }

def onTenantInit (tenantId : String) : KeyApi String := do
  let privateKey ← askKeys .generateKeyPair
  KeyChainService.createStandalone tenantId (some "Encryption key") .encrypt privateKey

end EncryptionService

end Eudiplo
