import Eudiplo.Concurrency.System
import Eudiplo.Shared.Values
import Eudiplo.Storage.Table

/-!
# Presentation configurations and their registration certificates

The table `presentation_config`, whose rows the service creates, updates and deletes, and whose
cached registration certificate is refreshed in the background and when a request needs one.

A row is a function from its columns.  Timestamps and audit logs are left out, and so is the
queueing of the background refresh: a schedule lets it arrive at any time.
-/

namespace Eudiplo

open Concurrency Prog

/-! ## Rows -/

inductive ConfigColumn where
  | description
  | lifeTime
  | skewSeconds
  | statusCheckMode
  | dcql_query
  | transaction_data
  | registration_cert
  | webhookEndpointId
  | clientIdScheme
  | attached
  | redirectUri
  | accessKeyChainId
  | readerAuth
  deriving DecidableEq

/-- The values of the columns; `null` where there is none. -/
abbrev ConfigFields := ConfigColumn → Json

/-- The values a body or a `save` gives. -/
abbrev ConfigChanges := ConfigColumn → Option Json

def ConfigFields.with (changes : ConfigChanges) (fields : ConfigFields) : ConfigFields :=
  fun c => (changes c).getD (fields c)

def ConfigFields.defaults : ConfigFields
  | .lifeTime => .num 300 0
  | .skewSeconds => .num 60 0
  | .statusCheckMode => .str "strict"
  | _ => .null

def ConfigFields.all (fields : ConfigFields) : ConfigChanges := fun c => some (fields c)

@[simp] theorem with_all (fields old : ConfigFields) : old.with fields.all = fields := rfl

/-- `RegistrationCertCache`; its fingerprint of the authorized credentials is never compared. -/
structure RegistrationCertCache where
  jwt : String
  dcqlFingerprint : String
  specFingerprint : String
  expiresAt : Option Nat

abbrev ConfigKey := String × String

/-- `PresentationConfig`, as it is stored. -/
structure PresentationConfigEntity where
  id : String
  tenantId : String
  fields : ConfigFields
  registrationCertCache : Option RegistrationCertCache

def PresentationConfigEntity.key (r : PresentationConfigEntity) : ConfigKey := (r.id, r.tenantId)

/-- `if (x)` on a JSON column. -/
def Json.isSet : Json → Bool
  | .null => false
  | _ => true

/-! ## Calls -/

inductive ConfigSave where
  | store
  | update
  | refresh
  deriving DecidableEq

/-- `Repository<PresentationConfig>`. -/
inductive ConfigCall where
  | findOneBy (key : ConfigKey)
  | save (kind : ConfigSave) (key : ConfigKey) (changes : ConfigChanges)
      (cache : Option RegistrationCertCache)
  /-- `update({ id, tenantId }, { registrationCertCache })`. -/
  | updateCache (key : ConfigKey) (cache : RegistrationCertCache)
  | delete (key : ConfigKey)

abbrev ConfigCall.Result : ConfigCall → Type
  | .findOneBy _ => Option PresentationConfigEntity
  | _ => Unit

structure ResolvedCertificate where
  jwt : String
  exp : Option Nat

inductive ConfigError where
  | conflict (message : String)
  | badRequest (message : String)
  | other (message : String)
  deriving DecidableEq

inductive CertificateCall where
  | configs (c : ConfigCall)
  /-- `Date.now()` -/
  | now
  | isEnabledForTenant (tenantId : String)
  /-- `resolveRegistrationCertificate(spec, dcqlQuery, …)`. -/
  | resolve (spec dcql : Json) (tenantId : String) (accessKeyChainId : Json)

abbrev CertificateCall.Result : CertificateCall → Type
  | .configs c => c.Result
  | .now => Time
  | .isEnabledForTenant _ => Bool
  | .resolve .. => Except ConfigError ResolvedCertificate

/-! ## The store -/

/-- **The deployment**: the fingerprints and the query with its tenant's URL, which are
functions of their arguments, and the registrar. -/
structure CertificateWorld where
  computeDcqlFingerprint : Json → String
  computeSpecFingerprint : Json → String
  /-- `resolveTenantUrl`, with its fallback. -/
  resolveTenantUrl : (tenantId : String) → Json → Json
  /-- The query a presentation request sends: tenant URL resolved, trusted authorities by
  policy. -/
  requestQuery : (tenantId : String) → Json → Json
  isEnabled : Nat → String → Bool
  resolve : Nat → Json → Json → Except ConfigError ResolvedCertificate

abbrev ConfigTable := Storage.Table PresentationConfigEntity.key

/-- The table, the clock, and how many questions were asked. -/
structure CertificateStore where
  clock : Time
  configs : ConfigTable
  asked : Nat := 0

def insertedConfig (key : ConfigKey) (changes : ConfigChanges)
    (cache : Option RegistrationCertCache) : PresentationConfigEntity where
  id := key.1
  tenantId := key.2
  fields := ConfigFields.defaults.with changes
  registrationCertCache := cache

/-- What the repository answers: `save` writes the columns it is given, and inserts the row
when it is gone. -/
def ConfigCall.answer (t : ConfigTable) : (c : ConfigCall) → c.Result × ConfigTable
  | .findOneBy key => (t.get key, t)
  | .save _ key changes cache =>
    ((), t.upsert (insertedConfig key changes cache)
      (fun r => { r with fields := r.fields.with changes, registrationCertCache := cache })
      fun _ => rfl)
  | .updateCache key cache =>
    ((), t.updateWhere (·.key == key) (fun r => { r with registrationCertCache := some cache })
      fun _ => rfl)
  | .delete key => ((), t.deleteWhere (·.key == key))

/-- **What the store answers to a call.** -/
def CertificateCall.answer (w : CertificateWorld) :
    (c : CertificateCall) → CertificateStore → c.Result × CertificateStore
  | .configs c, s => ((c.answer s.configs).1, { s with configs := (c.answer s.configs).2 })
  | .now, s => (s.clock, s)
  | .isEnabledForTenant tenantId, s =>
      (w.isEnabled s.asked tenantId, { s with asked := s.asked + 1 })
  | .resolve spec dcql _ _, s => (w.resolve s.asked spec dcql, { s with asked := s.asked + 1 })

/-! ## The handlers -/

abbrev ConfigProg := Prog CertificateCall.Result ConfigError

def configs (c : ConfigCall) : ConfigProg c.Result := invoke (CertificateCall.configs c)

def CACHE_EXPIRY_SKEW_SECONDS : Nat := 60

/-- `isCacheValid`, at a time in seconds. -/
def isCacheValid (cache : Option RegistrationCertCache) (dcqlFingerprint specFingerprint : String)
    (now : Nat) : Bool :=
  cache.any fun c =>
    c.dcqlFingerprint == dcqlFingerprint && c.specFingerprint == specFingerprint &&
      c.expiresAt.all fun exp => exp > now + CACHE_EXPIRY_SKEW_SECONDS

def getPresentationConfig (key : ConfigKey) : ConfigProg PresentationConfigEntity := do
  let row ← configs (.findOneBy key)
  getOrFail (.conflict ("Request ID " ++ key.1 ++ " not found")) row

def toCache (resolved : ResolvedCertificate) (dcqlFingerprint specFingerprint : String) :
    RegistrationCertCache where
  jwt := resolved.jwt
  dcqlFingerprint
  specFingerprint
  expiresAt := resolved.exp

def storePresentationConfig (key : ConfigKey) (body : ConfigChanges) : ConfigProg Unit :=
  configs (.save .store key body none)

/-- Does the body of an update touch what the certificate was issued for? -/
def cacheRelevantChanged (body : ConfigChanges) : Bool :=
  (body .registration_cert).isSome || (body .dcql_query).isSome

/-- The cache `updatePresentationConfig` saves. -/
def mergedCache (existing : PresentationConfigEntity) (body : ConfigChanges) :
    Option RegistrationCertCache :=
  if !(existing.fields.with body .registration_cert).isSet then none
  else if cacheRelevantChanged body then none
  else existing.registrationCertCache

/-- `updatePresentationConfig`: read, merge and save all columns. -/
def updatePresentationConfig (key : ConfigKey) (body : ConfigChanges) : ConfigProg Unit := do
  let existing ← getPresentationConfig key
  configs (.save .update key (existing.fields.with body).all (mergedCache existing body))

def deletePresentationConfig (key : ConfigKey) : ConfigProg Unit := do
  let _ ← getPresentationConfig key
  configs (.delete key)

/-- The certificate `refreshCache` resolves, or none after a failure of the registrar; a
configuration error is thrown. -/
def resolveForCache (w : CertificateWorld) (row : PresentationConfigEntity) :
    ConfigProg (Option RegistrationCertCache) := do
  let resolved ← invoke (CertificateCall.resolve (row.fields .registration_cert)
    (w.resolveTenantUrl row.tenantId (row.fields .dcql_query)) row.tenantId
    (row.fields .accessKeyChainId))
  match resolved with
  | .ok resolved => return some (toCache resolved
      (w.computeDcqlFingerprint (row.fields .dcql_query))
      (w.computeSpecFingerprint (row.fields .registration_cert)))
  | .error (.badRequest message) => fail (.badRequest message)
  | .error _ => return none

/-- `refreshCache`, for a row with a `registration_cert`. -/
def refreshCache (w : CertificateWorld) (row : PresentationConfigEntity) :
    ConfigProg (Option RegistrationCertCache) := do
  let time ← invoke CertificateCall.now
  if isCacheValid row.registrationCertCache
      (w.computeDcqlFingerprint (row.fields .dcql_query))
      (w.computeSpecFingerprint (row.fields .registration_cert)) (time / 1000) then
    return row.registrationCertCache
  else resolveForCache w row

def refreshRow (w : CertificateWorld) (key : ConfigKey) :
    Option PresentationConfigEntity → ConfigProg Unit
  | none => return ()
  | some latest =>
    onlyIf (latest.fields .registration_cert).isSet () do
      let cache ← refreshCache w latest
      configs (.save .refresh key latest.fields.all cache)

/-- **`refreshAsync`**: read the row, ask the registrar, write the whole row back. -/
def refreshAsync (w : CertificateWorld) (key : ConfigKey) : ConfigProg Unit := do
  let latest ← configs (.findOneBy key)
  refreshRow w key latest

/-- `getOrIssueRegistrationCertificate`, after its checks. -/
def cachedOrIssued (w : CertificateWorld) (key : ConfigKey) (config : PresentationConfigEntity) :
    ConfigProg (Option String) := do
  let dcqlFingerprint := w.computeDcqlFingerprint (config.fields .dcql_query)
  let specFingerprint := w.computeSpecFingerprint (config.fields .registration_cert)
  let time ← invoke CertificateCall.now
  if isCacheValid config.registrationCertCache dcqlFingerprint specFingerprint (time / 1000) then
    return config.registrationCertCache.map (·.jwt)
  else
    let answer ← invoke (CertificateCall.resolve (config.fields .registration_cert)
      (w.requestQuery config.tenantId (config.fields .dcql_query)) config.tenantId
      (config.fields .accessKeyChainId))
    let resolved ← ofExcept answer
    let () ← configs (.updateCache key (toCache resolved dcqlFingerprint specFingerprint))
    return some resolved.jwt

def registrationCertificate (w : CertificateWorld) (key : ConfigKey) :
    ConfigProg (Option String) := do
  let config ← getPresentationConfig key
  onlyIf (config.fields .registration_cert).isSet none do
    let enabled ← invoke (CertificateCall.isEnabledForTenant key.2)
    onlyIf enabled none (cachedOrIssued w key config)

inductive ConfigRequest where
  | store (key : ConfigKey) (body : ConfigChanges)
  | update (key : ConfigKey) (body : ConfigChanges)
  | delete (key : ConfigKey)
  | refresh (key : ConfigKey)
  | certificate (key : ConfigKey)

inductive ConfigAnswer where
  | done
  | certificate (jwt : Option String)
  deriving DecidableEq

def ConfigRequest.program (w : CertificateWorld) : ConfigRequest → ConfigProg ConfigAnswer
  | .store key body => do
    let () ← storePresentationConfig key body
    return .done
  | .update key body => do
    let () ← updatePresentationConfig key body
    return .done
  | .delete key => do
    let () ← deletePresentationConfig key
    return .done
  | .refresh key => do
    let _ ← attempt (refreshAsync w key)
    return .done
  | .certificate key => do
    let jwt ← registrationCertificate w key
    return .certificate jwt

/-- **The presentation configurations**: any number of requests over one table. -/
def presentationConfigs (w : CertificateWorld) :
    System CertificateCall.Result CertificateStore Nat ConfigRequest ConfigError ConfigAnswer where
  answer := CertificateCall.answer w
  drift milliseconds s := { s with clock := s.clock + milliseconds }
  program := ConfigRequest.program w

end Eudiplo
