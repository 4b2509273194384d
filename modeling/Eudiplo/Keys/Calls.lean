import Eudiplo.Backend.Store
import Eudiplo.Keys.Data
import Eudiplo.Verifier.Response

/-!
# What the key, trust list and ISO 18013-7 services await

The repositories of key chains, trust lists and sessions, the clock, randomness, and
questions to code outside the model: KMS adapters, certificate builders, the signing of a
list, the stored presentation configuration, and what becomes of a decrypted device
response.
-/

namespace Eudiplo

open Storage

/-! ## Questions -/

/-- What `createOffer` reads of a presentation configuration. -/
structure OfferConfig where
  query : PresentationQuery
  readerAuth : Bool := false
  accessKeyChainId : Option String := none
  lifeTime : Option Nat := none
  webhookEndpointId : Option String := none
  redirectUri : Option String := none
  skewSeconds : Option Nat := none

inductive KeyQuestion where
  /-- `tenantRepository.findOneByOrFail`; the answer is the tenant's name. -/
  | tenant (tenantId : String)
  | resolveProvider (kmsProvider : Option String) (tenantId : String)
  | generateKey (adapter : KmsAdapter) (kid : String)
  | importKey (adapter : KmsAdapter) (kid : String) (privateJwk : Jwk)
  /-- `generateKeyPair("ECDH-ES", …)`: the private key. -/
  | generateKeyPair
  | deleteKey (adapter : KmsAdapter) (ref : KmsKeyRef)
  /-- A self-signed certificate, of a certificate authority or of a key. -/
  | selfSignedCert (ca : Bool) (adapter : KmsAdapter) (ref : KmsKeyRef) (subjectCN : String)
      (notBefore notAfter : Time)
  | caSignedCert (caAdapter : KmsAdapter) (caRef : KmsKeyRef) (caCertPem : String)
      (subjectPublicJwk : Jwk) (subjectCN : String) (notBefore notAfter : Time)
  /-- The checks of an imported certificate against its key. -/
  | validateImported (certificate : String) (publicJwk : Jwk)
  /-- `validateCertificate`: expiry and revocation. -/
  | validateCertificate (keyChain : KeyChainEntity)
  /-- `new X509Certificate(pem)`. -/
  | parseCertificate (pem : String)
  | signLoTE (lote : LoTE) (keyId : String) (adapter : KmsAdapter) (signer : KmsKeyRef)
      (certificates : List String)
  /-- `randomBytes(16)`, in hexadecimal. -/
  | randomBytes
  | presentationConfig (requestId tenantId : String)
  | webhookEndpoint (webhookEndpointId : Option String) (tenantId : String)
  /-- `buildReaderAuthForOffer`. -/
  | readerAuth (tenantId : String) (accessKeyChainId : Option String) (request : DeviceRequest)
      (encryptionInfo origin : String)
  /-- The verification of a decrypted device response. -/
  | verifyDeviceResponse (session : Session) (deviceResponse : String)
  | publishResult (session : Session) (status : SessionStatus)

abbrev KeyQuestion.Payload : KeyQuestion → Type
  | .tenant _ => String
  | .resolveProvider .. => KmsAdapter
  | .generateKey .. => KmsKeyRef
  | .importKey .. => KmsKeyRef
  | .generateKeyPair => Jwk
  | .deleteKey .. => Unit
  | .selfSignedCert .. => String
  | .caSignedCert .. => List String
  | .validateImported .. => Unit
  | .validateCertificate _ => Unit
  | .parseCertificate _ => Unit
  | .signLoTE .. => String
  | .randomBytes => String
  | .presentationConfig .. => OfferConfig
  | .webhookEndpoint .. => Option String
  | .readerAuth .. => String
  | .verifyDeviceResponse .. => Except PresentationFailure (List Json)
  | .publishResult .. => Option String

/-! ## Repository calls -/

/-- The repository of key chains; a save merges into the row that has its key, an update
changes columns. -/
inductive KeyChainCall where
  | findOne (key : TenantKey)
  /-- `findOne` by tenant and usage type: some row, in no particular order. -/
  | findByUsageType (tenantId : String) (usageType : KeyUsageType) (keyId : Option String)
  | findRotating
  | save (row : KeyChainEntity) (merge : KeyChainEntity → KeyChainEntity)
  | update (key : TenantKey) (set : KeyChainEntity → KeyChainEntity)
  | delete (key : TenantKey)

abbrev KeyChainCall.Reply : KeyChainCall → Type
  | .findOne _ => Option KeyChainEntity
  | .findByUsageType .. => Option KeyChainEntity
  | .findRotating => List KeyChainEntity
  | .save .. | .update .. | .delete _ => Unit

inductive TrustListCall where
  | findOne (key : TenantKey)
  | find
  | save (row : TrustList)
  | delete (key : TenantKey)
  | publishNextVersion (previous : TrustList) (changes : TrustListVersionChanges)

abbrev TrustListCall.Reply : TrustListCall → Type
  | .findOne _ => Option TrustList
  | .find => List TrustList
  | .save _ | .delete _ => Unit
  | .publishNextVersion .. => Bool

inductive KeyCall where
  | keyChains (c : KeyChainCall)
  | lists (c : TrustListCall)
  | session (c : SessionCall)
  | now
  | uuid
  | ask (q : KeyQuestion)

abbrev KeyCall.Reply : KeyCall → Type
  | .keyChains c => c.Reply
  | .lists c => c.Reply
  | .session c => c.Reply
  | .now => Time
  | .uuid => String
  | .ask q => Except ApiError q.Payload

abbrev KeyApi (α : Type) := Concurrency.Prog KeyCall.Reply ApiError α

/-! ## The store -/

/-- **Everything outside the model.** -/
structure KeyWorld where
  answer : Nat → (q : KeyQuestion) → Except ApiError q.Payload
  uuid : Nat → String
  uuid_injective : Function.Injective uuid
  /-- Which of several rows a `findOne` without an order yields, this time. -/
  pick : Nat → List KeyChainEntity → Option KeyChainEntity
  pick_mem : ∀ {n rows kc}, pick n rows = some kc → kc ∈ rows
  /-- `buildEncryptionInfo`, in base64url. -/
  buildEncryptionInfo : (x y nonce : String) → String
  /-- `buildIsoMdocDcApiTranscript(…).hpkeInfo`. -/
  hpkeInfo : (encryptionInfo origin : String) → String
  /-- `buildDeviceRequestCbor`, in base64url. -/
  encodeDeviceRequest : DeviceRequest → (readerAuth : Option String) → String
  /-- `parseEncryptedResponse`: the encapsulated key and the ciphertext. -/
  parseEncryptedResponse : String → Except String (String × String)
  hpkeOpen : (enc cipherText : String) → Jwk → (info : String) → Except String String

/-- The tables, the clock, and how many values were drawn and questions asked. -/
structure KeyStore where
  clock : Time
  keyChains : Table KeyChainEntity.key
  lists : Table TrustList.key
  /-- The version history, newest first. -/
  versions : List TrustListVersion := []
  sessions : SessionTable
  draws : Nat := 0
  consults : Nat := 0

def keepingKey (set : KeyChainEntity → KeyChainEntity) (kc : KeyChainEntity) : KeyChainEntity :=
  { set kc with id := kc.id, tenantId := kc.tenantId }

/-- A saved list over the row that has its key: columns that are not given stay. -/
def mergeTrustList (row t : TrustList) : TrustList :=
  { row with
    id := t.id
    tenantId := t.tenantId
    description := row.description.or t.description
    entityConfig := row.entityConfig.or t.entityConfig }

/-- The store without the lists matching `p` and without their versions. -/
def KeyStore.deleteLists (s : KeyStore) (p : TrustList → Bool) : KeyStore :=
  { s with
    lists := s.lists.deleteWhere p
    versions := s.versions.filter fun v => !(s.lists.get v.key).any p }

def ofUsageType (tenantId : String) (usageType : KeyUsageType) (keyId : Option String)
    (kc : KeyChainEntity) : Bool :=
  kc.tenantId == tenantId && kc.usageType == usageType && keyId.all (kc.id == ·)

def KeyChainCall.answer (w : KeyWorld) (s : KeyStore) : (c : KeyChainCall) → c.Reply × KeyStore
  | .findOne key => (s.keyChains.get key, s)
  | .findByUsageType tenantId usageType keyId =>
    (w.pick s.consults (s.keyChains.select (ofUsageType tenantId usageType keyId)),
      { s with consults := s.consults + 1 })
  | .findRotating => (s.keyChains.select (·.rotationEnabled), s)
  | .save row merge =>
    ((), { s with
      keyChains := s.keyChains.upsert { row with createdAt := s.clock } (keepingKey merge)
        fun _ => rfl })
  | .update key set =>
    ((), { s with
      keyChains := s.keyChains.updateWhere (·.key == key) (keepingKey set) fun _ => rfl })
  | .delete key =>
    ((), { s.deleteLists (·.keyChain == key) with
      keyChains := s.keyChains.deleteWhere (·.key == key) })

/-- The condition of `publishNextVersion`: the row is still the one that was read. -/
def unchangedSince (previous t : TrustList) : Bool :=
  t.key == previous.key && t.sequenceNumber == previous.sequenceNumber

def TrustListCall.answer (s : KeyStore) : (c : TrustListCall) → c.Reply × KeyStore
  | .findOne key => (s.lists.get key, s)
  | .find => (s.lists.rows, s)
  | .save row => ((), { s with lists := s.lists.upsert row (mergeTrustList row) fun _ => rfl })
  | .delete key => ((), s.deleteLists (·.key == key))
  | .publishNextVersion previous changes =>
    if 0 < s.lists.count (unchangedSince previous) then
      (true, { s with
        lists := s.lists.updateWhere (unchangedSince previous) (·.publish changes) fun _ => rfl
        versions := previous.version :: s.versions })
    else (false, s)

/-- **One answered call.** -/
def KeyCall.answer (w : KeyWorld) : (c : KeyCall) → KeyStore → c.Reply × KeyStore
  | .keyChains c, s => c.answer w s
  | .lists c, s => c.answer s
  | .session c, s =>
    (c.reply s.clock s.sessions, { s with sessions := c.effect s.clock s.sessions })
  | .now, s => (s.clock, s)
  | .uuid, s => (w.uuid s.draws, { s with draws := s.draws + 1 })
  | .ask q, s => (w.answer s.consults q, { s with consults := s.consults + 1 })

/-! ## Awaiting -/

open Concurrency Prog

def keyChains (c : KeyChainCall) : KeyApi c.Reply := invoke (KeyCall.keyChains c)

def trustLists (c : TrustListCall) : KeyApi c.Reply := invoke (KeyCall.lists c)

def isoSessions (c : SessionCall) : KeyApi c.Reply := invoke (KeyCall.session c)

/-- `new Date()`. -/
def keyNow : KeyApi Time := invoke KeyCall.now

/-- `v4()`, `randomUUID()`. -/
def keyUuid : KeyApi String := invoke KeyCall.uuid

def askKeys (q : KeyQuestion) : KeyApi q.Payload := do
  let answer ← invoke (KeyCall.ask q)
  ofExcept answer

end Eudiplo
