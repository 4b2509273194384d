import Eudiplo.Concurrency.System
import Eudiplo.Shared.Values
import Eudiplo.Storage.Table

/-!
# API clients and users

The table `client_entity` whose primary key is the client id alone, and, in deployments with
an external OIDC provider, the clients, users and role mappings of the Keycloak realm.
Emails of users, protocol mappers and OAuth switches of Keycloak clients are left out: no
decision is made on them.
-/

namespace Eudiplo

/-! ## Roles and tokens -/

inductive Role where
  | presentations
  | presentationRequest
  | issuances
  | issuanceOffer
  | clients
  | users
  | tenants
  | tenantAdmin
  | registrar
  deriving DecidableEq

def Role.text : Role → String
  | .presentations => "presentation:manage"
  | .presentationRequest => "presentation:request"
  | .issuances => "issuance:manage"
  | .issuanceOffer => "issuance:offer"
  | .clients => "clients:manage"
  | .users => "users:manage"
  | .tenants => "tenants:manage"
  | .tenantAdmin => "tenant:admin"
  | .registrar => "registrar:manage"

/-- `privilegedRoles`: the two roles a manager may not hand out. -/
def Role.privileged (r : Role) : Bool := r == .tenants || r == .tenantAdmin

def isPrivilegedName (name : String) : Bool :=
  name == Role.tenants.text || name == Role.tenantAdmin.text

theorem isPrivilegedName_text (r : Role) : isPrivilegedName r.text = r.privileged := by
  cases r <;> decide

/-- `TokenPayload`, with `entity?.id` as the tenant. -/
structure TokenPayload where
  tenantId : Option String
  roles : List Role
  deriving DecidableEq

inductive AuthError where
  | forbidden (message : String)
  | notFound (message : String)
  | conflict (message : String)
  | badRequest (message : String)
  | notImplemented (message : String)
  /-- `EntityNotFoundError` -/
  | entityNotFound
  | other (message : String)
  deriving DecidableEq

/-! ## Requests -/

structure CreateClient where
  clientId : String
  secret : Option String := none
  description : Option String := none
  roles : List Role
  allowedPresentationConfigs : Option (Option (List String)) := none
  allowedIssuanceConfigs : Option (Option (List String)) := none
  deriving DecidableEq

/-- `UpdateClient`: an absent member leaves its column alone. -/
structure UpdateClient where
  description : Option String := none
  roles : Option (List Role) := none
  allowedPresentationConfigs : Option (Option (List String)) := none
  allowedIssuanceConfigs : Option (Option (List String)) := none
  deriving DecidableEq

structure CreateUser where
  username : String
  roles : List Role
  enabled : Option Bool := none
  deriving DecidableEq

structure UpdateUser where
  roles : Option (List Role) := none
  enabled : Option Bool := none
  password : Option String := none
  deriving DecidableEq

/-- `CreateTenant`, with what concerns its first client. -/
structure CreateTenant where
  id : String
  roles : Option (List Role) := none
  deriving DecidableEq

/-- A `Client` document of a configuration bundle: its spec, whose secret may be
`"!generate"`. -/
structure ClientDocument where
  spec : CreateClient
  deriving DecidableEq

def ClientDocument.resourceId (d : ClientDocument) : String := d.spec.clientId

/-- What the plan of a bundle import lets happen to clients: the documents it writes, and the
clients it deletes. -/
structure ClientPlan where
  writes : List String
  deletes : List String

/-- `ConfigImportMode`, and imports switched off. -/
inductive ImportMode where
  | disabled
  | create
  | upsert
  | replace
  deriving DecidableEq

/-- What a client file of a tenant's configuration folder holds once it is read, migrated and
validated. -/
structure ClientFile where
  data : CreateClient
  generation : Nat

/-! ## Rows -/

structure ClientEntity where
  clientId : String
  secret : Option String
  tenantId : Option String
  description : Option String
  roles : List Role
  allowedPresentationConfigs : Option (List String)
  allowedIssuanceConfigs : Option (List String)
  deriving DecidableEq

/-- The columns a `save` or an `update` names. -/
structure ClientColumns where
  secret : Option String := none
  tenantId : Option String := none
  description : Option String := none
  roles : Option (List Role) := none
  allowedPresentationConfigs : Option (Option (List String)) := none
  allowedIssuanceConfigs : Option (Option (List String)) := none

structure KcClient where
  id : String
  clientId : String
  description : Option String
  secret : Option String
  /-- `attributes.tenant_id` -/
  tenantOwner : Option String
  serviceAccountUserId : String
  deriving DecidableEq

structure KcUser where
  id : String
  username : String
  enabled : Bool
  /-- `attributes.tenant_id` -/
  tenantOwner : Option String
  password : Option String
  realmRoles : List String
  deriving DecidableEq

/-! ## Calls -/

/-- Whose rows a query selects: any, those of no tenant (`IsNull()`), or those of one. -/
inductive TenantFilter where
  | any
  | isNull
  | is (tenantId : String)
  deriving DecidableEq

/-- Does the filter select this row? -/
def TenantFilter.selects (f : TenantFilter) (r : ClientEntity) : Bool :=
  match f with
  | .any => true
  | .isNull => r.tenantId == none
  | .is tenantId => r.tenantId == some tenantId

/-- `Repository<ClientEntity>`. -/
inductive ClientCall where
  | findOne (clientId : String) (tenant : TenantFilter)
  | countBy (clientId tenantId : String)
  | save (clientId : String) (columns : ClientColumns)
  | update (clientId : String) (tenant : TenantFilter) (columns : ClientColumns)
  | delete (clientId tenantId : String)

abbrev ClientCall.Result : ClientCall → Type
  | .findOne .. => Option ClientEntity
  | .countBy .. => Nat
  | .save .. => ClientEntity
  | .update .. => Unit
  | .delete .. => Unit

/-- `kc.clients`, `kc.users` and `kc.roles`. -/
inductive KeycloakCall where
  | findClient (clientId : String)
  | createClient (clientId : String) (description secret : Option String) (tenantOwner : String)
  /-- `update` in `addClient`: description and owner. -/
  | reconcileClient (id : String) (description : Option String) (tenantOwner : String)
  /-- `update` in `updateClient`: the description. -/
  | describeClient (id : String) (description : Option String)
  /-- `update` in `setClientSecret`. -/
  | setClientSecret (id secret : String)
  | generateNewClientSecret (id : String)
  | getServiceAccountUser (id : String)
  | delClient (id : String)
  | findUserByName (username : String)
  | findUser (id : String)
  | createUser (username : String) (enabled : Bool) (tenantOwner : String)
  | updateUser (id : String) (enabled : Option Bool) (tenantOwner : String)
  | resetPassword (id password : String)
  | delUser (id : String)
  | findRoles
  | createRole (name : String)
  | listRealmRoleMappings (id : String)
  | addRealmRoleMappings (id : String) (roles : List String)
  | delRealmRoleMappings (id : String) (roles : List String)
  deriving DecidableEq

/-- What Keycloak answers; `none` where it refuses or finds nothing. -/
abbrev KeycloakCall.Result : KeycloakCall → Type
  | .findClient _ => Option KcClient
  | .createClient .. => Option String
  | .generateNewClientSecret _ => String
  | .getServiceAccountUser _ => Option KcUser
  | .findUserByName _ => Option KcUser
  | .findUser _ => Option KcUser
  | .createUser .. => Option String
  | .findRoles => List String
  | .listRealmRoleMappings _ => List String
  | _ => Unit

inductive AuthQuestion where
  /-- The files `readdirSync` lists in the folder of a tenant's clients; a file that cannot be
  read, migrated or validated is an error. -/
  | clientFiles (tenantId : String)
  /-- `ownershipService.get(tenantId, "Client", clientId)`. -/
  | storedGeneration (tenantId clientId : String)
  | markApplied (tenantId clientId : String)
  | removeOwnership (tenantId clientId : String)
  /-- The journal entry and the plan of a bundle import. -/
  | planBundle (tenantId : String) (documents : List ClientDocument) (mode : ImportMode)
  /-- `tenantRepository.save` and `setUpTenant`. -/
  | saveTenant (data : CreateTenant)

abbrev AuthQuestion.Payload : AuthQuestion → Type
  | .clientFiles _ => List (Except AuthError ClientFile)
  | .storedGeneration .. => Nat
  | .planBundle .. => ClientPlan
  | _ => Unit

inductive AuthCall where
  | clients (c : ClientCall)
  | keycloak (c : KeycloakCall)
  /-- `randomBytes`, as text. -/
  | random
  /-- `bcrypt.hash`. -/
  | hash (secret : String)
  | ask (q : AuthQuestion)

abbrev AuthCall.Result : AuthCall → Type
  | .clients c => c.Result
  | .keycloak c => c.Result
  | .random => String
  | .hash _ => String
  | .ask q => Except AuthError q.Payload

/-! ## The store -/

/-- **The deployment**: its settings, randomness, and the parts around it. -/
structure AuthWorld where
  /-- `OIDC` is configured: clients and users live in Keycloak. -/
  oidc : Bool
  authClientId : String
  authClientSecret : String
  importMode : ImportMode
  /-- `CONFIG_VARIABLE_STRICT` is `"abort"`. -/
  strictAbort : Bool
  random : Nat → String
  hash : Nat → String → String
  /-- The ids Keycloak gives to new clients and users. -/
  kcId : Nat → String
  answer : (q : AuthQuestion) → Nat → Except AuthError q.Payload

abbrev ClientTable := Storage.Table ClientEntity.clientId

abbrev KcClientTable := Storage.Table KcClient.id

abbrev KcUserTable := Storage.Table KcUser.id

/-- The table, the realm, and how often values were drawn and questions asked. -/
structure AuthStore where
  clients : ClientTable
  kcClients : KcClientTable
  kcUsers : KcUserTable
  kcRoles : List String
  draws : Nat := 0
  asked : Nat := 0

def ClientEntity.with (columns : ClientColumns) (r : ClientEntity) : ClientEntity :=
  { r with
    secret := columns.secret.or r.secret
    tenantId := columns.tenantId.or r.tenantId
    description := columns.description.or r.description
    roles := columns.roles.getD r.roles
    allowedPresentationConfigs :=
      columns.allowedPresentationConfigs.getD r.allowedPresentationConfigs
    allowedIssuanceConfigs := columns.allowedIssuanceConfigs.getD r.allowedIssuanceConfigs }

def ClientColumns.row (clientId : String) (columns : ClientColumns) : ClientEntity where
  clientId
  secret := columns.secret
  tenantId := columns.tenantId
  description := columns.description
  roles := columns.roles.getD []
  allowedPresentationConfigs := columns.allowedPresentationConfigs.join
  allowedIssuanceConfigs := columns.allowedIssuanceConfigs.join

/-- The row `save` leaves under a client id. -/
def savedRow (t : ClientTable) (clientId : String) (columns : ClientColumns) : ClientEntity :=
  (t.get clientId).elim (columns.row clientId) (·.with columns)

/-- Does an `update` or a `delete` select this row? -/
def selectsClient (clientId : String) (tenant : TenantFilter) (r : ClientEntity) : Bool :=
  r.clientId == clientId && tenant.selects r

def ClientCall.answer (t : ClientTable) : (c : ClientCall) → c.Result × ClientTable
  | .findOne clientId tenant => (t.find (selectsClient clientId tenant), t)
  | .countBy clientId tenantId => (t.count (selectsClient clientId (.is tenantId)), t)
  | .save clientId columns =>
    (savedRow t clientId columns,
      t.upsert (columns.row clientId) (·.with columns) fun _ => rfl)
  | .update clientId tenant columns =>
    ((), t.updateWhere (selectsClient clientId tenant) (·.with columns) fun _ => rfl)
  | .delete clientId tenantId => ((), t.deleteWhere (selectsClient clientId (.is tenantId)))

def AuthStore.updateKcClient (s : AuthStore) (id : String) (f : KcClient → KcClient)
    (hf : ∀ r, (f r).id = r.id) : AuthStore :=
  { s with kcClients := s.kcClients.updateWhere (·.id == id) f hf }

def AuthStore.updateKcUser (s : AuthStore) (id : String) (f : KcUser → KcUser)
    (hf : ∀ r, (f r).id = r.id) : AuthStore :=
  { s with kcUsers := s.kcUsers.updateWhere (·.id == id) f hf }

def AuthStore.serviceAccount (s : AuthStore) (id : String) : Option KcUser :=
  (s.kcClients.get id).bind fun c => s.kcUsers.get c.serviceAccountUserId

/-- What Keycloak answers. A new client or user gets an id that is free, a new client with it
a service account, and neither has roles. -/
def KeycloakCall.answer (w : AuthWorld) (s : AuthStore) : (c : KeycloakCall) → c.Result × AuthStore
  | .findClient clientId => (s.kcClients.find (·.clientId == clientId), s)
  | .createClient clientId description secret tenantOwner =>
    if (s.kcClients.find (·.clientId == clientId)).isSome ||
        (s.kcClients.get (w.kcId s.draws)).isSome || (s.kcUsers.get (w.kcId s.draws)).isSome then
      (none, { s with draws := s.draws + 1 })
    else (some (w.kcId s.draws), { s with
      draws := s.draws + 2
      kcClients := s.kcClients.upsert
        { id := w.kcId s.draws, clientId, description
          secret := secret.or (some (w.random (s.draws + 1)))
          tenantOwner := some tenantOwner, serviceAccountUserId := w.kcId s.draws }
        id fun _ => rfl
      kcUsers := s.kcUsers.upsert
        { id := w.kcId s.draws, username := "service-account-" ++ clientId, enabled := true
          tenantOwner := none, password := none, realmRoles := [] } id fun _ => rfl })
  | .reconcileClient id description tenantOwner =>
    ((), s.updateKcClient id (fun r => { r with
      description := description.or r.description, tenantOwner := some tenantOwner })
      fun _ => rfl)
  | .describeClient id description =>
    ((), s.updateKcClient id (fun r => { r with description := description.or r.description })
      fun _ => rfl)
  | .setClientSecret id secret =>
    ((), s.updateKcClient id (fun r => { r with secret := some secret }) fun _ => rfl)
  | .generateNewClientSecret id =>
    (w.random s.draws,
      { s.updateKcClient id (fun r => { r with secret := some (w.random s.draws) })
          fun _ => rfl with
        draws := s.draws + 1 })
  | .getServiceAccountUser id => (s.serviceAccount id, s)
  | .delClient id =>
    ((), { s with
      kcClients := s.kcClients.deleteWhere (·.id == id)
      kcUsers := s.kcUsers.deleteWhere fun u =>
        (s.kcClients.get id).any fun c => c.serviceAccountUserId == u.id })
  | .findUserByName username => (s.kcUsers.find (·.username == username), s)
  | .findUser id => (s.kcUsers.get id, s)
  | .createUser username enabled tenantOwner =>
    if (s.kcUsers.find (·.username == username)).isSome ||
        (s.kcUsers.get (w.kcId s.draws)).isSome then
      (none, { s with draws := s.draws + 1 })
    else (some (w.kcId s.draws), { s with
      draws := s.draws + 1
      kcUsers := s.kcUsers.upsert
        { id := w.kcId s.draws, username, enabled, tenantOwner := some tenantOwner
          password := none, realmRoles := [] } id fun _ => rfl })
  | .updateUser id enabled tenantOwner =>
    ((), s.updateKcUser id (fun u => { u with
      enabled := enabled.getD u.enabled, tenantOwner := some tenantOwner }) fun _ => rfl)
  | .resetPassword id password =>
    ((), s.updateKcUser id (fun u => { u with password := some password }) fun _ => rfl)
  | .delUser id => ((), { s with kcUsers := s.kcUsers.deleteWhere (·.id == id) })
  | .findRoles => (s.kcRoles, s)
  | .createRole name => ((), { s with kcRoles := s.kcRoles ++ [name] })
  | .listRealmRoleMappings id => (((s.kcUsers.get id).map (·.realmRoles)).getD [], s)
  | .addRealmRoleMappings id roles =>
    ((), s.updateKcUser id (fun u => { u with realmRoles := u.realmRoles ++ roles }) fun _ => rfl)
  | .delRealmRoleMappings id roles =>
    ((), s.updateKcUser id
      (fun u => { u with realmRoles := u.realmRoles.filter fun r => !roles.contains r })
      fun _ => rfl)

/-- **What the store answers to a call.** -/
def AuthCall.answer (w : AuthWorld) : (c : AuthCall) → AuthStore → c.Result × AuthStore
  | .clients c, s => ((c.answer s.clients).1, { s with clients := (c.answer s.clients).2 })
  | .keycloak c, s => c.answer w s
  | .random, s => (w.random s.draws, { s with draws := s.draws + 1 })
  | .hash secret, s => (w.hash s.draws secret, { s with draws := s.draws + 1 })
  | .ask q, s => (w.answer q s.asked, { s with asked := s.asked + 1 })

end Eudiplo
