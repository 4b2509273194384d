import Eudiplo.Shared.Faults

/-!
# Regenerating a key chain

`KeyChainService.regenerate` with `createWithId`, `delete` and `deleteExternalKeyMaterial`, over the
rows of a tenant and the keys its external KMS providers hold.  Every call to the database, a
provider or the certificate builder may fail: `Step` names it and the faults say what becomes of
it.
-/

namespace Eudiplo

open Faults (Outcome Run)

namespace KeyChainRegenerate

/-- The members of a stored key that are looked at; the key of the `db` provider is private. -/
structure Jwk where
  kid : String
  publicKey : Nat
  deriving DecidableEq

/-- `KeyChainEntity`: the members that are looked at. -/
structure KeyChainRow where
  kmsProvider : String
  activeJwk : Jwk
  activeCertificate : Nat
  externalKeyId : Option String
  rootJwk : Option Jwk := none
  rootExternalKeyId : Option String := none
  rootCertificate : Option Nat := none
  deriving DecidableEq

/-- Where an adapter keeps keys: in the row, or outside (`capabilities.canDelete`). -/
inductive KeyStorage where
  | db
  | external (canDelete : Bool)
  deriving DecidableEq

structure KmsAdapter where
  providerId : String
  storage : KeyStorage

structure KeyStore where
  rows : String → Option KeyChainRow
  keys : String → List (String × Nat)

structure KeyWorld where
  registry : String → Option KmsAdapter
  registered : ∀ provider adapter, registry provider = some adapter →
    adapter.providerId = provider
  temporaryId : String
  rootKey : Jwk
  activeKey : Jwk

structure KeyChainCreateDto where
  internalChain : Bool
  kmsProvider : String

/-- The calls of `regenerate`. -/
inductive Step where
  | findPrevious
  | findTenant
  | generateRoot
  | certifyRoot
  | generateActive
  | certifyActive
  | saveTemporary
  | findGenerated
  | save
  | deleteTemporary
  | findTemporary
  | deleteTemporaryKey
  | deleteTemporaryRow
  | deletePreviousKey
  deriving DecidableEq

variable (w : KeyWorld) (faults : Step → Outcome)

namespace KeyStore

def held (s : KeyStore) (provider name : String) : Option Nat :=
  ((s.keys provider).find? fun key => key.1 == name).map (·.2)

def setRow (s : KeyStore) (id : String) (row : Option KeyChainRow) : KeyStore :=
  { s with rows := fun other => if other = id then row else s.rows other }

def addKey (s : KeyStore) (provider : String) (key : Jwk) : KeyStore :=
  { s with keys := fun other =>
      if other = provider then s.keys other ++ [(key.kid, key.publicKey)] else s.keys other }

def removeKey (s : KeyStore) (provider name : String) : KeyStore :=
  { s with keys := fun other =>
      if other = provider then (s.keys other).filter fun key => key.1 != name else s.keys other }

end KeyStore

/-- `refForStoredKey`: the name of a stored key at an external provider. -/
def keyName (row : KeyChainRow) : String := row.externalKeyId.getD row.activeJwk.kid

def signingKey (s : KeyStore) (row : KeyChainRow) : Option Nat :=
  (w.registry row.kmsProvider).bind fun adapter =>
    match adapter.storage with
    | .db => some row.activeJwk.publicKey
    | .external _ => s.held adapter.providerId (keyName row)

/-! ## Creation -/

/-- `adapter.generateKey`: an external provider holds the new key. -/
def generateKey (step : Step) (adapter : KmsAdapter) (key : Jwk) :
    Run KeyStore (Jwk × Option String) :=
  .call (faults step) fun s =>
    match adapter.storage with
    | .db => ((key, none), s)
    | .external _ => ((key, some key.kid), s.addKey adapter.providerId key)

def certify (step : Step) (key : Jwk) : Run KeyStore Nat :=
  .call (faults step) fun s => (key.publicKey, s)

def createStandaloneKey (adapter : KmsAdapter) : Run KeyStore KeyChainRow := do
  let mat ← generateKey faults .generateActive adapter w.activeKey
  let certificate ← certify faults .certifyActive mat.1
  return {
    kmsProvider := adapter.providerId
    activeJwk := mat.1
    activeCertificate := certificate
    externalKeyId := mat.2 }

def createInternalChain (adapter : KmsAdapter) : Run KeyStore KeyChainRow := do
  let rootMat ← generateKey faults .generateRoot adapter w.rootKey
  let rootCertificate ← certify faults .certifyRoot rootMat.1
  let active ← createStandaloneKey w faults adapter
  return { active with
    rootJwk := some rootMat.1
    rootExternalKeyId := rootMat.2
    rootCertificate := some rootCertificate }

def createMaterial (dto : KeyChainCreateDto) (adapter : KmsAdapter) : Run KeyStore KeyChainRow :=
  if dto.internalChain then createInternalChain w faults adapter
  else createStandaloneKey w faults adapter

/-- `createWithId` with the temporary id. -/
def createWithId (dto : KeyChainCreateDto) : Run KeyStore Unit := do
  Run.call (faults .findTenant) fun s => ((), s)
  let adapter ← Run.orFail fun _ => w.registry dto.kmsProvider
  let keyChain ← createMaterial w faults dto adapter
  Run.call (faults .saveTemporary) fun s => ((), s.setRow w.temporaryId (some keyChain))

/-! ## Deletion -/

/-- `adapter.deleteKey` of a provider that deletes. -/
def deleteKey (step : Step) (adapter : KmsAdapter) (name : String) : Run KeyStore Unit :=
  match adapter.storage with
  | .external true => .call (faults step) fun s => ((), s.removeKey adapter.providerId name)
  | _ => .call (faults step) fun s => ((), s)

/-- `deleteExternalKeyMaterial`: a failure is logged. -/
def deleteExternalKeyMaterial (step : Step) (row : KeyChainRow) : Run KeyStore Unit :=
  .ignoring do
    let adapter ← Run.orFail fun _ => w.registry row.kmsProvider
    deleteKey faults step adapter (keyName row)

/-- `delete` of the temporary chain. -/
def deleteTemporary : Run KeyStore Unit := do
  let found ← Run.call (faults .findTemporary) fun s => (s.rows w.temporaryId, s)
  let row ← Run.orFail fun _ => found
  deleteExternalKeyMaterial w faults .deleteTemporaryKey row
  Run.call (faults .deleteTemporaryRow) fun s => ((), s.setRow w.temporaryId none)

/-! ## `regenerate` -/

/-- The body of the `try` block: the new material is saved under the id of the chain. -/
def swapRows (id : String) (generated : KeyChainRow) : Run KeyStore Unit := do
  Run.call (faults .save) fun s => ((), s.setRow id (some generated))
  Run.call (faults .deleteTemporary) fun s => ((), s.setRow w.temporaryId none)

def replacePrevious (id : String) (previous : Option KeyChainRow) : Run KeyStore Unit := do
  let found ← Run.call (faults .findGenerated) fun s => (s.rows w.temporaryId, s)
  let generated ← Run.orFail fun _ => found
  Run.rethrowAfter (swapRows w faults id generated) (deleteTemporary w faults)
  previous.elim (pure ()) (deleteExternalKeyMaterial w faults .deletePreviousKey)

def regenerate (id : String) (dto : KeyChainCreateDto) : Run KeyStore Unit := do
  let previous ← Run.call (faults .findPrevious) fun s => (s.rows id, s)
  createWithId w faults dto
  replacePrevious w faults id previous

end KeyChainRegenerate

end Eudiplo
