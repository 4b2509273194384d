import Eudiplo.Shared.Values
import Eudiplo.Storage.Table
import Eudiplo.Shared.Results

/-!
# Credential configurations

`CredentialConfigService` and the ways a configuration reaches it: the endpoints that create, change
and delete one, the import of a configuration file and the application of a bundle document.

`save` writes what a document does not leave out and keeps the other columns of a stored row; a
row that is inserted takes the defaults of its columns.
-/

namespace Eudiplo

open Storage

inductive Member (α : Type) where
  | omitted
  | null
  | given (value : α)

namespace Member

variable {α : Type}

/-- `value ?? undefined`. -/
def toOption : Member α → Option α
  | given value => some value
  | _ => none

/-- `{...stored, ...document}` on one member. -/
def overlay (member stored : Member α) : Member α :=
  match member with
  | omitted => stored
  | member => member

/-- What a saved document leaves in a column that holds `stored`. -/
def column (member : Member α) (stored : Option α) : Option α :=
  match member with
  | omitted => stored
  | null => none
  | given value => some value

def ofColumn : Option α → Member α
  | none => null
  | some value => given value

/-- `null` for a member that is not nullable counts as leaving it out. -/
def dropNull : Member α → Member α
  | null => omitted
  | member => member

end Member

namespace CredentialConfigs

structure ActiveCredentialPolicy where
  enabled : Bool
deriving DecidableEq

inductive IaeAction where
  | openid4vpPresentation (presentationConfigId : String)
  | redirectToWeb
deriving DecidableEq

/-- `CredentialConfigCreate` and `CredentialConfigUpdate`; `members` are those that no check of the
service reads. -/
structure ConfigDocument where
  id : String
  activeCredentials : Member ActiveCredentialPolicy
  statusManagement : Member Bool
  keyChainId : Member String
  iaeActions : Member (List IaeAction)
  members : List (String × Json)

/-- A row of `credential_config`. -/
structure CredentialConfig where
  tenantId : String
  id : String
  activeCredentials : Option ActiveCredentialPolicy
  statusManagement : Bool
  keyChainId : Option String
  iaeActions : Option (List IaeAction)
  columns : List (String × Json)

def CredentialConfig.key (row : CredentialConfig) : String × String := (row.tenantId, row.id)

def CredentialConfig.defaults (tenantId id : String) : CredentialConfig where
  tenantId := tenantId
  id := id
  activeCredentials := none
  statusManagement := false
  keyChainId := none
  iaeActions := none
  columns := []

def CredentialConfig.replacing (row stored : CredentialConfig) : CredentialConfig :=
  { row with tenantId := stored.tenantId, id := stored.id }

theorem CredentialConfig.key_replacing (row stored : CredentialConfig) :
    (row.replacing stored).key = stored.key := rfl

abbrev Configs := Table CredentialConfig.key

structure Services where
  /-- `CredentialConfigCreateSchema`, up to its refinement. -/
  schemaAccepts : ConfigDocument → Bool
  replaceImageReferences : String → List (String × Json) → Except String (List (String × Json))
  /-- `certService.find` for an attestation key. -/
  findCert : String → String → Except String Unit
  hasPresentationConfig : String → String → Bool
  /-- The constraints of the remaining columns. -/
  storable : CredentialConfig → Bool

variable (services : Services)

/-! ## Checks -/

def activeCredentialsLackStatusManagement (activeCredentials : Member ActiveCredentialPolicy)
    (statusManagement : Member Bool) : Bool :=
  activeCredentials.toOption.any (·.enabled) && !statusManagement.toOption.getD false

def assertActiveCredentialsEnforceable (activeCredentials : Member ActiveCredentialPolicy)
    (statusManagement : Member Bool) : Except String Unit :=
  if activeCredentialsLackStatusManagement activeCredentials statusManagement then
    .error "statusManagement must be enabled when activeCredentials is enabled."
  else .ok ()

def validateAttestationKeyChain (tenantId : String) (keyChainId : Option String) :
    Except String Unit :=
  match keyChainId with
  | none => .ok ()
  | some keyId => if keyId = "" then .ok () else services.findCert tenantId keyId

def validateIaeActions (tenantId : String) (iaeActions : Member (List IaeAction)) :
    Except String Unit :=
  (iaeActions.toOption.getD []).forM fun
    | .openid4vpPresentation presentationConfigId =>
      if services.hasPresentationConfig tenantId presentationConfigId then .ok ()
      else .error (s!"IAE action references presentation config '{presentationConfigId}' " ++
        "which does not exist")
    | .redirectToWeb => .ok ()

/-! ## The repository -/

/-- The row that a save leaves; `statusManagement` is not nullable. -/
def written (document : ConfigDocument) (stored : CredentialConfig) : Option CredentialConfig :=
  (document.statusManagement.column (some stored.statusManagement)).map fun statusManagement =>
    { stored with
      activeCredentials := document.activeCredentials.column stored.activeCredentials
      statusManagement := statusManagement
      keyChainId := document.keyChainId.column stored.keyChainId
      iaeActions := document.iaeActions.column stored.iaeActions
      columns := document.members ++ stored.columns.filter fun column =>
        document.members.all fun member => member.1 != column.1 }

/-- `repository.save`: a stored row is merged, a new one inserted. -/
def save (configs : Configs) (tenantId : String) (document : ConfigDocument) :
    Except String Configs :=
  match written document ((configs.get (tenantId, document.id)).getD
      (.defaults tenantId document.id)) with
  | none => .error "NOT NULL constraint failed"
  | some row =>
    if services.storable row then
      .ok (configs.upsert row row.replacing row.key_replacing)
    else .error "constraint failed"

/-! ## The service -/

def store (tenantId : String) (config : ConfigDocument) (skipValidation : Bool)
    (configs : Configs) : Except String Configs := do
  assertActiveCredentialsEnforceable config.activeCredentials config.statusManagement
  let members ← services.replaceImageReferences tenantId config.members
  validateAttestationKeyChain services tenantId config.keyChainId.toOption
  (if skipValidation then .ok () else validateIaeActions services tenantId config.iaeActions)
  save services configs tenantId { config with members := members }

/-- The policy check of an update looks at the merged values, when the update touches them. -/
def assertUpdateEnforceable (config : ConfigDocument) (existing : CredentialConfig) :
    Except String Unit :=
  match config.activeCredentials, config.statusManagement with
  | .omitted, .omitted => .ok ()
  | activeCredentials, statusManagement =>
    assertActiveCredentialsEnforceable
      (activeCredentials.overlay (.ofColumn existing.activeCredentials))
      (statusManagement.overlay (.given existing.statusManagement))

/-- `{...existing, ...config, id}`. -/
def spread (existing : CredentialConfig) (config : ConfigDocument) (id : String) :
    ConfigDocument where
  id := id
  activeCredentials := config.activeCredentials.overlay (.ofColumn existing.activeCredentials)
  statusManagement := config.statusManagement.overlay (.given existing.statusManagement)
  keyChainId := config.keyChainId.overlay (.ofColumn existing.keyChainId)
  iaeActions := config.iaeActions.overlay (.ofColumn existing.iaeActions)
  members := config.members ++
    existing.columns.filter fun column => config.members.all fun member => member.1 != column.1

def getById (tenantId id : String) (configs : Configs) : Except String CredentialConfig :=
  match configs.get (tenantId, id) with
  | none => .error "Credential configuration not found"
  | some row => .ok row

def update (tenantId id : String) (config : ConfigDocument) (configs : Configs) :
    Except String Configs := do
  let members ← services.replaceImageReferences tenantId config.members
  validateIaeActions services tenantId config.iaeActions
  let existing ← getById tenantId id configs
  assertUpdateEnforceable config existing
  validateAttestationKeyChain services tenantId
    (config.keyChainId.overlay (.ofColumn existing.keyChainId)).toOption
  save services configs tenantId (spread existing { config with members := members } id)

def deleteForTenant (tenantId id : String) (configs : Configs) : Configs :=
  configs.deleteWhere fun row => row.key == (tenantId, id)

def delete (tenantId id : String) (configs : Configs) : Except String Configs := do
  let _ ← getById tenantId id configs
  return deleteForTenant tenantId id configs

/-! ## Entry points -/

/-- The body that `createConfigBodyPipe` passes on for a create. -/
def createBody (body : ConfigDocument) : Except String ConfigDocument :=
  let document := { body with
    statusManagement := body.statusManagement.dropNull
    keyChainId := body.keyChainId.dropNull }
  if services.schemaAccepts document then
    (assertActiveCredentialsEnforceable document.activeCredentials
      document.statusManagement).map fun _ => document
  else .error "Validation failed"

/-- `POST /issuer/credentials`. -/
def storeCredentialConfiguration (tenantId : String) (body : ConfigDocument) (configs : Configs) :
    Except String Configs := do
  let document ← createBody services body
  store services tenantId document false configs

/-- `processCredentialConfig`: a linked schema is kept unless the file says otherwise. -/
def processCredentialConfig (tenantId : String) (config : ConfigDocument) (configs : Configs) :
    Except String Configs := do
  let members ← services.replaceImageReferences tenantId config.members
  validateAttestationKeyChain services tenantId config.keyChainId.toOption
  let schemaMeta := (configs.get (tenantId, config.id)).elim [] fun existing =>
    existing.columns.filter fun column => column.1 == "schemaMeta"
  let kept := if members.any (·.1 == "schemaMeta") then [] else schemaMeta
  store services tenantId { config with members := members ++ kept } true configs

/-- One file of `importConfigsForTenant`; an error is logged and the next file follows. -/
def importFile (updateExisting : Bool) (tenantId : String) (config : ConfigDocument)
    (configs : Configs) : Configs :=
  if !services.schemaAccepts config ||
      activeCredentialsLackStatusManagement config.activeCredentials config.statusManagement then
    configs
  else if (configs.get (tenantId, config.id)).isSome then
    if updateExisting then
      -- The deletion stays when the file is refused afterwards.
      let remaining := deleteForTenant tenantId config.id configs
      (processCredentialConfig services tenantId config remaining).toOption.getD remaining
    else configs
  else (processCredentialConfig services tenantId config configs).toOption.getD configs

inductive Operation where
  | create (tenantId : String) (body : ConfigDocument)
  | applyDocument (tenantId : String) (spec : ConfigDocument)
  | importFile (updateExisting : Bool) (tenantId : String) (config : ConfigDocument)
  | update (tenantId id : String) (config : ConfigDocument)
  | delete (tenantId id : String)

def perform : Operation → Configs → Except String Configs
  | .create tenantId body, configs => storeCredentialConfiguration services tenantId body configs
  | .applyDocument tenantId spec, configs => store services tenantId spec true configs
  | .importFile updateExisting tenantId config, configs =>
    .ok (importFile services updateExisting tenantId config configs)
  | .update tenantId id config, configs => update services tenantId id config configs
  | .delete tenantId id, configs => delete tenantId id configs

def step (operation : Operation) (configs : Configs) : Configs :=
  (perform services operation configs).toOption.getD configs

end CredentialConfigs

end Eudiplo

/-!
# The active-credential limit and status management

A limit that cannot be enforced is refused: `store` checks the document it is given, `update` the
values after the merge.  The two agree unless a stored row supplies what a document leaves out, so
the state to look at is the row that a save leaves (`written_enforceable`).  A document that turns
status management off and leaves out the policy passes the check of `store` and keeps a stored
policy that is enabled; no other step can leave such a row.
-/

namespace Eudiplo

open Storage Results

namespace CredentialConfigs

variable {services : Services} {configs configs' : Configs} {document config : ConfigDocument}
  {row stored : CredentialConfig} {tenantId id : String}

def CredentialConfig.PolicyEnabled (row : CredentialConfig) : Prop :=
  row.activeCredentials.any (·.enabled) = true

instance (row : CredentialConfig) : Decidable row.PolicyEnabled := by
  unfold CredentialConfig.PolicyEnabled; infer_instance

/-- A row whose limit can be enforced. -/
def CredentialConfig.Enforceable (row : CredentialConfig) : Prop :=
  row.PolicyEnabled → row.statusManagement = true

/-- **No stored configuration** has its policy enabled while status management is off. -/
def AllEnforceable (configs : Configs) : Prop :=
  ∀ tenantId id row, configs.get (tenantId, id) = some row → row.Enforceable

/-- The document turns status management off and leaves the policy out. -/
def ConfigDocument.DropsStatus (document : ConfigDocument) : Prop :=
  document.statusManagement = .given false ∧ document.activeCredentials = .omitted

/-- The condition on a step: a document that is stored does not turn status management off under a
stored policy that it leaves out. -/
def KeepsPolicy (configs : Configs) : Operation → Prop
  | .create tenantId document | .applyDocument tenantId document =>
    ∀ row, configs.get (tenantId, document.id) = some row → row.PolicyEnabled →
      ¬ document.DropsStatus
  | _ => True

inductive Reached (services : Services) : Configs → Prop where
  | start : Reached services Table.empty
  | step {configs : Configs} (operation : Operation) (h : Reached services configs)
      (hkeeps : KeepsPolicy configs operation) :
      Reached services (step services operation configs)

/-! ## What the checks say -/

theorem assert_ok {activeCredentials : Member ActiveCredentialPolicy}
    {statusManagement : Member Bool} :
    assertActiveCredentialsEnforceable activeCredentials statusManagement = .ok () ↔
      (activeCredentials.toOption.any (·.enabled) = true →
        statusManagement = .given true) := by
  unfold assertActiveCredentialsEnforceable activeCredentialsLackStatusManagement
  cases hpolicy : activeCredentials.toOption.any (·.enabled) with
  | false => simp
  | true =>
    rcases statusManagement with _ | _ | status
    · simp [Member.toOption]
    · simp [Member.toOption]
    · cases status <;> simp [Member.toOption]

/-! ## What a save leaves -/

theorem save_ok (h : save services configs tenantId document = .ok configs') :
    ∃ row, written document ((configs.get (tenantId, document.id)).getD
        (.defaults tenantId document.id)) = some row ∧
      ∀ key, configs'.get key =
        if (tenantId, document.id) = key then some row else configs.get key := by
  unfold save at h
  split at h
  · cases h
  next row hrow =>
  split at h
  · have hkey : row.key = (tenantId, document.id) := by
      obtain ⟨status, -, rfl⟩ := Option.map_eq_some_iff.mp hrow
      cases hget : configs.get (tenantId, document.id) with
      | none => rfl
      | some stored =>
        show stored.key = _
        exact Table.get_key hget
    refine ⟨row, hrow, fun key => ?_⟩
    rw [← Except.ok.inj h, Table.get_upsert, hkey]
    split
    · next heq =>
      subst heq
      cases hget : configs.get (tenantId, document.id) with
      | none => rfl
      | some stored =>
        have hstored : (stored.tenantId, stored.id) = (row.tenantId, row.id) :=
          (Table.get_key hget).trans hkey.symm
        obtain ⟨htenant, hid⟩ := Prod.mk.inj hstored
        show some (row.replacing stored) = some row
        rw [CredentialConfig.replacing, htenant, hid]
    · rfl
  · cases h

/-- **The row that a save leaves** has an enforceable limit, if the policy it is given does and
nothing that is left out supplies another. -/
theorem written_enforceable (hwritten : written document stored = some row)
    (hchecked : assertActiveCredentialsEnforceable document.activeCredentials
      document.statusManagement = .ok ())
    (hstored : stored.Enforceable) (hkeeps : stored.PolicyEnabled → ¬ document.DropsStatus) :
    row.Enforceable := by
  obtain ⟨status, hstatus, rfl⟩ := Option.map_eq_some_iff.mp hwritten
  intro (henabled : (document.activeCredentials.column stored.activeCredentials).any _ = true)
  show status = true
  cases hpolicy : document.activeCredentials with
  | null => rw [hpolicy] at henabled; exact (nomatch henabled)
  | given policy =>
    have hgiven := assert_ok.mp hchecked (by rw [hpolicy] at henabled ⊢; exact henabled)
    rw [hgiven] at hstatus
    exact (Option.some.inj hstatus).symm
  | omitted =>
    -- The stored policy stays, so what matters is what happens to the status.
    rw [hpolicy] at henabled
    cases hgiven : document.statusManagement with
    | null => rw [hgiven] at hstatus; exact (nomatch hstatus)
    | omitted =>
      rw [hgiven] at hstatus
      exact (Option.some.inj hstatus).symm.trans (hstored henabled)
    | given value =>
      rw [hgiven] at hstatus
      cases value with
      | true => exact (Option.some.inj hstatus).symm
      | false => exact (hkeeps henabled ⟨hgiven, hpolicy⟩).elim

theorem written_unenforceable (hwritten : written document stored = some row)
    (henabled : stored.PolicyEnabled) (hdrops : document.DropsStatus) : ¬ row.Enforceable := by
  obtain ⟨status, hstatus, rfl⟩ := Option.map_eq_some_iff.mp hwritten
  intro h
  have htrue : status = true := h (by
    show (document.activeCredentials.column stored.activeCredentials).any _ = true
    rw [hdrops.2]
    exact henabled)
  rw [hdrops.1, htrue] at hstatus
  exact Bool.false_ne_true (Option.some.inj hstatus)

/-! ## What a step leaves -/

theorem defaults_enforceable : (CredentialConfig.defaults tenantId id).Enforceable :=
  fun h => (nomatch h)

theorem stored_enforceable (hall : AllEnforceable configs) :
    ((configs.get (tenantId, id)).getD (.defaults tenantId id)).Enforceable := by
  cases hget : configs.get (tenantId, id) with
  | none => exact defaults_enforceable
  | some row => exact hall _ _ _ hget

theorem save_enforceable (hall : AllEnforceable configs)
    (hsave : save services configs tenantId document = .ok configs')
    (hchecked : assertActiveCredentialsEnforceable document.activeCredentials
      document.statusManagement = .ok ())
    (hkeeps : ∀ row, configs.get (tenantId, document.id) = some row → row.PolicyEnabled →
      ¬ document.DropsStatus) : AllEnforceable configs' := by
  obtain ⟨row, hwritten, hget⟩ := save_ok hsave
  intro tenant id other hother
  rw [hget] at hother
  split at hother
  · rw [← Option.some.inj hother]
    refine written_enforceable hwritten hchecked (stored_enforceable hall) ?_
    cases hstored : configs.get (tenantId, document.id) with
    | none => exact fun h => by cases h
    | some stored => exact hkeeps stored hstored
  · exact hall _ _ _ hother

theorem store_ok {skipValidation : Bool}
    (h : store services tenantId document skipValidation configs = .ok configs') :
    assertActiveCredentialsEnforceable document.activeCredentials document.statusManagement =
        .ok () ∧
      ∃ members, save services configs tenantId { document with members := members } =
        .ok configs' := by
  obtain ⟨⟨⟩, hchecked, h⟩ := bind_eq_ok.mp h
  obtain ⟨members, -, h⟩ := bind_eq_ok.mp h
  obtain ⟨-, -, h⟩ := bind_eq_ok.mp h
  obtain ⟨-, -, h⟩ := bind_eq_ok.mp h
  exact ⟨hchecked, members, h⟩

theorem store_enforceable {skipValidation : Bool} (hall : AllEnforceable configs)
    (h : store services tenantId document skipValidation configs = .ok configs')
    (hkeeps : ∀ row, configs.get (tenantId, document.id) = some row → row.PolicyEnabled →
      ¬ document.DropsStatus) : AllEnforceable configs' := by
  obtain ⟨hchecked, members, hsave⟩ := store_ok h
  exact save_enforceable hall hsave hchecked hkeeps

theorem createBody_ok {body : ConfigDocument} (h : createBody services body = .ok document) :
    document.id = body.id ∧ (document.DropsStatus ↔ body.DropsStatus) := by
  unfold createBody at h
  dsimp only at h
  split at h
  · cases hcheck : assertActiveCredentialsEnforceable body.activeCredentials
        body.statusManagement.dropNull with
    | error e => rw [hcheck] at h; cases h
    | ok _ =>
      rw [hcheck] at h
      rw [← Except.ok.inj h]
      refine ⟨rfl, and_congr_left fun _ => ?_⟩
      show body.statusManagement.dropNull = _ ↔ _
      cases body.statusManagement <;> simp [Member.dropNull]
  · cases h

theorem deleteForTenant_get {tenant other : String} {row : CredentialConfig}
    (h : (deleteForTenant tenantId id configs).get (tenant, other) = some row) :
    configs.get (tenant, other) = some row ∧ (tenant, other) ≠ (tenantId, id) := by
  rw [deleteForTenant, Table.get_deleteWhere, Option.filter_eq_some_iff] at h
  refine ⟨h.1, fun heq => ?_⟩
  rw [← heq, ← Table.get_key h.1] at h
  simp at h

theorem deleteForTenant_enforceable (hall : AllEnforceable configs) :
    AllEnforceable (deleteForTenant tenantId id configs) :=
  fun _ _ _ h => hall _ _ _ (deleteForTenant_get h).1

/-- A file is stored only where no row is left, so nothing is merged. -/
theorem processCredentialConfig_enforceable (hall : AllEnforceable configs)
    (hnone : configs.get (tenantId, config.id) = none) :
    AllEnforceable
      ((processCredentialConfig services tenantId config configs).toOption.getD configs) := by
  cases h : processCredentialConfig services tenantId config configs with
  | error e => exact hall
  | ok configs' =>
    obtain ⟨members, -, h⟩ := bind_eq_ok.mp h
    obtain ⟨-, -, h⟩ := bind_eq_ok.mp h
    exact store_enforceable hall h fun row hrow => (nomatch hnone.symm.trans hrow)

theorem importFile_enforceable {updateExisting : Bool} (hall : AllEnforceable configs) :
    AllEnforceable (importFile services updateExisting tenantId config configs) := by
  unfold importFile
  split
  · exact hall
  split
  · split
    · refine processCredentialConfig_enforceable (deleteForTenant_enforceable hall) ?_
      exact Option.eq_none_iff_forall_ne_some.mpr fun row h => (deleteForTenant_get h).2 rfl
    · exact hall
  next h =>
    exact processCredentialConfig_enforceable hall (Option.not_isSome_iff_eq_none.mp h)

theorem update_enforceable (hall : AllEnforceable configs)
    (h : update services tenantId id config configs = .ok configs') : AllEnforceable configs' := by
  obtain ⟨members, -, h⟩ := bind_eq_ok.mp h
  obtain ⟨-, -, h⟩ := bind_eq_ok.mp h
  obtain ⟨existing, hexisting, h⟩ := bind_eq_ok.mp h
  obtain ⟨⟨⟩, hchecked, h⟩ := bind_eq_ok.mp h
  obtain ⟨-, -, h⟩ := bind_eq_ok.mp h
  have hget : configs.get (tenantId, id) = some existing := by
    unfold getById at hexisting
    split at hexisting
    · cases hexisting
    next hget => rw [hget, Except.ok.inj hexisting]
  refine save_enforceable hall h ?_ fun _ _ _ hdrops => ?_
  · show assertActiveCredentialsEnforceable (config.activeCredentials.overlay _)
      (config.statusManagement.overlay _) = .ok ()
    unfold assertUpdateEnforceable at hchecked
    split at hchecked
    · next hpolicy hstatus =>
      -- Neither is touched: the stored row is written back.
      rw [hpolicy, hstatus, assert_ok]
      intro henabled
      refine congrArg Member.given (hall _ _ _ hget ?_)
      show existing.activeCredentials.any _ = true
      cases hstored : existing.activeCredentials with
      | none => rw [hstored] at henabled; cases henabled
      | some policy => rw [hstored] at henabled; exact henabled
    · exact hchecked
  · -- What is saved leaves no policy out.
    have homitted : config.activeCredentials.overlay (.ofColumn existing.activeCredentials) =
      .omitted := hdrops.2
    cases hpolicy : config.activeCredentials <;>
      cases hstored : existing.activeCredentials <;>
      rw [hpolicy, hstored] at homitted <;> cases homitted

theorem perform_enforceable {operation : Operation} (hall : AllEnforceable configs)
    (hkeeps : KeepsPolicy configs operation)
    (h : perform services operation configs = .ok configs') : AllEnforceable configs' := by
  cases operation with
  | create tenantId body =>
    obtain ⟨document, hbody, hstore⟩ := bind_eq_ok.mp h
    obtain ⟨hid, hdrops⟩ := createBody_ok hbody
    exact store_enforceable hall hstore fun row hrow henabled =>
      mt hdrops.mp (hkeeps row (hid ▸ hrow) henabled)
  | applyDocument tenantId spec => exact store_enforceable hall h hkeeps
  | importFile updateExisting tenantId config =>
    rw [← Except.ok.inj h]
    exact importFile_enforceable hall
  | update tenantId id config => exact update_enforceable hall h
  | delete tenantId id =>
    obtain ⟨row, -, h⟩ := bind_eq_ok.mp h
    rw [← Except.ok.inj h]
    exact deleteForTenant_enforceable hall

/-- **Along every run** whose steps meet the condition, every limit can be enforced. -/
theorem reached_enforceable (h : Reached services configs) : AllEnforceable configs := by
  induction h with
  | start => exact fun _ _ _ h => (nomatch h)
  | @step configs operation h hkeeps ih =>
    unfold CredentialConfigs.step
    cases hperform : perform services operation configs with
    | error e => exact ih
    | ok configs' => exact perform_enforceable ih hkeeps hperform

theorem store_unenforceable {skipValidation : Bool}
    (h : store services tenantId document skipValidation configs = .ok configs')
    (hstored : configs.get (tenantId, document.id) = some stored)
    (henabled : stored.PolicyEnabled) (hdrops : document.DropsStatus) :
    ¬ AllEnforceable configs' := by
  obtain ⟨-, members, hsave⟩ := store_ok h
  obtain ⟨row, hwritten, hget⟩ := save_ok hsave
  rw [show (configs.get (tenantId, ({ document with members := members } : ConfigDocument).id)) =
    some stored from hstored] at hwritten
  intro hall
  exact written_unenforceable hwritten henabled hdrops
    (hall tenantId document.id row (by rw [hget, if_pos rfl]))

theorem perform_unenforceable {operation : Operation} (hbreaks : ¬ KeepsPolicy configs operation)
    (h : perform services operation configs = .ok configs') : ¬ AllEnforceable configs' := by
  cases operation with
  | create tenantId body =>
    obtain ⟨document, hbody, hstore⟩ := bind_eq_ok.mp h
    obtain ⟨hid, hdrops⟩ := createBody_ok hbody
    simp only [KeepsPolicy, not_forall, not_not] at hbreaks
    obtain ⟨row, hrow, henabled, hbody⟩ := hbreaks
    exact store_unenforceable hstore (hid ▸ hrow) henabled (hdrops.mpr hbody)
  | applyDocument tenantId spec =>
    simp only [KeepsPolicy, not_forall, not_not] at hbreaks
    obtain ⟨row, hrow, henabled, hdrops⟩ := hbreaks
    exact store_unenforceable h hrow henabled hdrops
  | importFile updateExisting tenantId config => exact (hbreaks trivial).elim
  | update tenantId id config => exact (hbreaks trivial).elim
  | delete tenantId id => exact (hbreaks trivial).elim

/-! ## A run that drops the status -/

def acceptingServices : Services where
  schemaAccepts _ := true
  replaceImageReferences _ members := .ok members
  findCert _ _ := .ok ()
  hasPresentationConfig _ _ := true
  storable _ := true

/-- A document of the configuration `pid`. -/
def pidDocument (activeCredentials : Member ActiveCredentialPolicy)
    (statusManagement : Member Bool) : ConfigDocument where
  id := "pid"
  activeCredentials := activeCredentials
  statusManagement := statusManagement
  keyChainId := .omitted
  iaeActions := .omitted
  members := []

def createdPid : Configs :=
  step acceptingServices (.create "demo" (pidDocument (.given ⟨true⟩) (.given true))) Table.empty

/-- It is posted again with status management off; the policy is left out. -/
def replacedPid : Configs :=
  step acceptingServices (.create "demo" (pidDocument .omitted (.given false))) createdPid

end CredentialConfigs

open CredentialConfigs

/-- **Active-credential limits and status management**: in every state that is reached by steps that
meet the condition, no configuration has its policy enabled while status management is off; a step
against the condition that is not refused leaves one that does. -/
theorem active_credentials_enforceable (services : Services) :
    (∀ configs, Reached services configs → AllEnforceable configs) ∧
    ∀ configs configs' operation, ¬ KeepsPolicy configs operation →
      perform services operation configs = .ok configs' → ¬ AllEnforceable configs' :=
  ⟨fun _ h => reached_enforceable h, fun _ _ _ hbreaks h => perform_unenforceable hbreaks h⟩

/-- The condition holds of the first step and fails of the second. -/
theorem active_credentials_pid : AllEnforceable createdPid ∧ ¬ AllEnforceable replacedPid := by
  have hcreated : Reached acceptingServices createdPid :=
    .step _ .start fun _ h => (nomatch h)
  have hbreaks : ¬ KeepsPolicy createdPid
      (.create "demo" (pidDocument .omitted (.given false))) :=
    fun hkeeps => hkeeps _ rfl rfl ⟨rfl, rfl⟩
  exact ⟨(active_credentials_enforceable acceptingServices).1 _ hcreated,
    (active_credentials_enforceable acceptingServices).2 _ _ _ hbreaks rfl⟩

/-- Creating and replacing one configuration leaves its limit without status management. -/
theorem replaced_policy_unenforceable :
    (replacedPid.get ("demo", "pid")).map
        (fun row => (row.activeCredentials, row.statusManagement)) =
      some (some ⟨true⟩, false) ∧ ¬ AllEnforceable replacedPid := by
  have hrow : (replacedPid.get ("demo", "pid")).map
      (fun row => (row.activeCredentials, row.statusManagement)) =
        some (some ⟨true⟩, false) := by decide
  refine ⟨hrow, fun hall => ?_⟩
  obtain ⟨row, hget, hvalues⟩ := Option.map_eq_some_iff.mp hrow
  obtain ⟨hpolicy, hstatus⟩ := Prod.mk.inj hvalues
  have htrue := hall _ _ _ hget (by show row.activeCredentials.any _ = true; rw [hpolicy]; rfl)
  exact Bool.false_ne_true (hstatus.symm.trans htrue)

end Eudiplo
