import Eudiplo.Auth.Data

/-!
# Managing clients and users

`InternalClientsProvider` keeps clients in the backend's own table, `KeycloakClientsProvider`
and `KeycloakUsersProvider` keep them in the realm.  Over them: the client and user
controllers, the application of configuration bundles, the import of client files, the
creation of tenants with their first client, and the bootstrap of the root client.
-/

namespace Eudiplo

open Concurrency Prog

abbrev AuthProg := Prog AuthCall.Result AuthError

def clientRepo (c : ClientCall) : AuthProg c.Result := invoke (AuthCall.clients c)

def kc (c : KeycloakCall) : AuthProg c.Result := invoke (AuthCall.keycloak c)

def askAuth (q : AuthQuestion) : AuthProg q.Payload := (invoke (AuthCall.ask q)).bind ofExcept

/-- `findOneByOrFail`. -/
def findClientOrFail (clientId : String) (tenant : TenantFilter) : AuthProg ClientEntity :=
  (clientRepo (.findOne clientId tenant)).bind (getOrFail .entityNotFound)

structure CreatedClient where
  clientId : String
  roles : List Role
  clientSecret : Option String
  deriving DecidableEq

inductive ManagementAnswer where
  | client (created : CreatedClient)
  | secret (secret : String)
  | user (id : String) (temporaryPassword : Option String)
  /-- `generatedSecrets` -/
  | imported (generatedSecrets : List (String × String))
  | done
  deriving DecidableEq

structure ClientsProvider where
  addClient : String → CreateClient → AuthProg CreatedClient
  updateClient : String → String → UpdateClient → AuthProg (Option CreatedClient)
  /-- No tenant stands for the `null` of a tenant manager. -/
  rotateClientSecret : Option String → String → AuthProg String
  setClientSecret : String → String → String → AuthProg Unit
  removeClient : String → String → AuthProg Unit
  importForTenant : String → AuthProg Unit

/-! ## Importing client files -/

/-- One file of `importConfigsForTenant`. -/
def importConfigFile (w : AuthWorld) (tenantId : String)
    (checkExists : String → CreateClient → AuthProg Bool)
    (deleteExisting processItem : String → CreateClient → AuthProg Unit)
    (file : Except AuthError ClientFile) : AuthProg Unit := do
  let file ← ofExcept file
  let found ← checkExists tenantId file.data
  let () ← onlyIf found () do
    let stored ← askAuth (.storedGeneration tenantId file.data.clientId)
    ensure (stored ≤ file.generation) (.other ("Stale configuration generation " ++
      toString file.generation ++ "; stored generation is " ++ toString stored))
  onlyIf (!(found && w.importMode == .create)) () do
    let () ← onlyIf found () (deleteExisting tenantId file.data)
    let () ← processItem tenantId file.data
    askAuth (.markApplied tenantId file.data.clientId)

/-- `ConfigImportService.importConfigsForTenant` for clients. -/
def importConfigsForTenant (w : AuthWorld) (tenantId : String)
    (checkExists : String → CreateClient → AuthProg Bool)
    (deleteExisting processItem : String → CreateClient → AuthProg Unit) : AuthProg Unit :=
  onlyIf (w.importMode != .disabled) () do
    let files ← askAuth (.clientFiles tenantId)
    each (fun file => do
      match ← attempt
        (importConfigFile w tenantId checkExists deleteExisting processItem file) with
      | .ok () => return ()
      | .error e => if w.strictAbort then fail e else return ()) files

/-! ## `InternalClientsProvider` -/

namespace InternalClients

/-- The columns of `{ ...dto, secret, tenant: { id: tenantId } }`. -/
def columnsOf (tenantId : String) (dto : CreateClient) (hashedSecret : String) :
    ClientColumns where
  secret := some hashedSecret
  tenantId := some tenantId
  description := dto.description
  roles := some dto.roles
  allowedPresentationConfigs := dto.allowedPresentationConfigs
  allowedIssuanceConfigs := dto.allowedIssuanceConfigs

/-- The columns of an `UpdateClient`. -/
def columnsOfUpdate (dto : UpdateClient) : ClientColumns where
  description := dto.description
  roles := dto.roles
  allowedPresentationConfigs := dto.allowedPresentationConfigs
  allowedIssuanceConfigs := dto.allowedIssuanceConfigs

/-- `dto.secret ?? randomBytes(32).toString("hex")`. -/
def secretOrRandom : Option String → AuthProg String
  | some secret => return secret
  | none => invoke AuthCall.random

def addClient (tenantId : String) (dto : CreateClient) : AuthProg CreatedClient := do
  let secret ← secretOrRandom dto.secret
  let hashedSecret ← invoke (AuthCall.hash secret)
  let entity ← clientRepo (.save dto.clientId (columnsOf tenantId dto hashedSecret))
  return { clientId := entity.clientId, roles := entity.roles, clientSecret := some secret }

def updateClient (tenantId clientId : String) (dto : UpdateClient) :
    AuthProg (Option CreatedClient) := do
  let () ← clientRepo (.update clientId (.is tenantId) (columnsOfUpdate dto))
  return none

/-- The filter of the `whereClause` of `rotateClientSecret`. -/
def rotationFilter : Option String → TenantFilter
  | some tenantId => if tenantId == "" then .any else .is tenantId
  | none => .any

/-- `rotateClientSecret`: the check looks at the tenant, the update does not. -/
def rotateClientSecret (tenantId : Option String) (clientId : String) : AuthProg String := do
  let _ ← findClientOrFail clientId (rotationFilter tenantId)
  let newSecret ← invoke AuthCall.random
  let hashedSecret ← invoke (AuthCall.hash newSecret)
  let () ← clientRepo (.update clientId .any { secret := some hashedSecret })
  return newSecret

def setClientSecret (tenantId clientId secret : String) : AuthProg Unit := do
  let _ ← findClientOrFail clientId (.is tenantId)
  let hashedSecret ← invoke (AuthCall.hash secret)
  clientRepo (.update clientId (.is tenantId) { secret := some hashedSecret })

def removeClient (tenantId clientId : String) : AuthProg Unit :=
  clientRepo (.delete clientId tenantId)

/-- `checkExists` of the import. -/
def checkExists (tenantId : String) (data : CreateClient) : AuthProg Bool := do
  let row ← clientRepo (.findOne data.clientId (.is tenantId))
  return row.isSome

/-- `processItem` of the import. -/
def processItem (tenantId : String) (data : CreateClient) : AuthProg Unit := do
  let secret ← secretOrRandom data.secret
  let hashedSecret ← invoke (AuthCall.hash secret)
  let _ ← clientRepo (.save data.clientId (columnsOf tenantId data hashedSecret))
  return ()

def importForTenant (w : AuthWorld) (tenantId : String) : AuthProg Unit :=
  importConfigsForTenant w tenantId checkExists
    (fun tenantId data => removeClient tenantId data.clientId) processItem

def onApplicationBootstrap (w : AuthWorld) : AuthProg Unit := do
  let existingAdmin ← clientRepo (.findOne w.authClientId .isNull)
  onlyIf existingAdmin.isNone () do
    let hashedSecret ← invoke (AuthCall.hash w.authClientSecret)
    let _ ← clientRepo (.save w.authClientId {
      secret := some hashedSecret
      description := some "Admin client for tenant management"
      roles := some [.tenants] })
    return ()

end InternalClients

def internalClients (w : AuthWorld) : ClientsProvider where
  addClient := InternalClients.addClient
  updateClient := InternalClients.updateClient
  rotateClientSecret := InternalClients.rotateClientSecret
  setClientSecret := InternalClients.setClientSecret
  removeClient := InternalClients.removeClient
  importForTenant := InternalClients.importForTenant w

/-! ## `KeycloakClientsProvider` -/

namespace KeycloakClients

/-- `ensureTenantOwnership`: a client nobody owns passes. -/
def ensureTenantOwnership (tenantId : String) (client : KcClient) (action : String) :
    AuthProg Unit :=
  ensure (!truthy client.tenantOwner || client.tenantOwner == some tenantId)
    (.conflict ("Client '" ++ client.clientId ++ "' is managed by tenant '" ++
      client.tenantOwner.getD "" ++ "' and cannot be " ++ action ++ " by tenant '" ++
      tenantId ++ "'."))

def toAssign (allRealmRoles : List String) (roles : List Role) : List String :=
  (roles.map Role.text).filter allRealmRoles.contains

def assignRoles (userId : String) (roles : List String) : AuthProg Unit :=
  onlyIf (!roles.isEmpty) () (kc (.addRealmRoleMappings userId roles))

def createOrReconcile (tenantId : String) (dto : CreateClient) : AuthProg (String × Bool) := do
  match ← kc (.createClient dto.clientId dto.description dto.secret tenantId) with
  | some id => return (id, true)
  | none =>
    let existing ← kc (.findClient dto.clientId)
    let client ← getOrFail (.other "Request failed with status code 409") existing
    let () ← ensureTenantOwnership tenantId client "updated"
    let () ← kc (.reconcileClient client.id dto.description tenantId)
    return (client.id, false)

/-- The secret `addClient` returns. -/
def createdSecret (dto : CreateClient) (id : String) (createdNow : Bool) :
    AuthProg (Option String) := do
  if truthy dto.secret then return dto.secret
  else if createdNow then
    let value ← kc (.generateNewClientSecret id)
    return some value
  else return none

def mirrorColumns (tenantId : String) (dto : CreateClient) : ClientColumns where
  tenantId := some tenantId
  description := dto.description
  roles := some dto.roles
  allowedPresentationConfigs := dto.allowedPresentationConfigs
  allowedIssuanceConfigs := dto.allowedIssuanceConfigs

def addClient (tenantId : String) (dto : CreateClient) : AuthProg CreatedClient := do
  let (id, createdNow) ← createOrReconcile tenantId dto
  let secret ← createdSecret dto id createdNow
  let found ← kc (.getServiceAccountUser id)
  let svcUser ← getOrFail (.other "Request failed with status code 404") found
  let allRealmRoles ← kc .findRoles
  let () ← assignRoles svcUser.id (toAssign allRealmRoles dto.roles)
  let _ ← clientRepo (.save dto.clientId (mirrorColumns tenantId dto))
  return { clientId := dto.clientId, roles := dto.roles, clientSecret := secret }

/-- What `updateClient` recreates in Keycloak from the mirror row. -/
def recreated (clientId : String) (dto : UpdateClient) (client : ClientEntity) :
    CreateClient where
  clientId
  description := dto.description.or client.description
  roles := dto.roles.getD client.roles
  allowedPresentationConfigs :=
    some (dto.allowedPresentationConfigs.join.or client.allowedPresentationConfigs)
  allowedIssuanceConfigs :=
    some (dto.allowedIssuanceConfigs.join.or client.allowedIssuanceConfigs)

def replaceRoles (userId : String) (newRoles : List Role) : AuthProg Unit := do
  let allRealmRoles ← kc .findRoles
  let currentRoles ← kc (.listRealmRoleMappings userId)
  let toRemove := currentRoles.filter fun r => !(newRoles.map Role.text).contains r
  let () ← onlyIf (!toRemove.isEmpty) () (kc (.delRealmRoleMappings userId toRemove))
  assignRoles userId (toAssign allRealmRoles newRoles)

def updateClient (tenantId clientId : String) (dto : UpdateClient) :
    AuthProg (Option CreatedClient) := do
  let client ← findClientOrFail clientId (.is tenantId)
  match ← kc (.findClient clientId) with
  | none =>
    let () ← clientRepo (.delete clientId tenantId)
    let created ← addClient tenantId (recreated clientId dto client)
    return some created
  | some kcClient =>
    let () ← ensureTenantOwnership tenantId kcClient "updated"
    let found ← kc (.getServiceAccountUser kcClient.id)
    let svcUser ← getOrFail (.other "Request failed with status code 404") found
    let () ← replaceRoles svcUser.id (dto.roles.getD [])
    let () ← kc (.describeClient kcClient.id (dto.description.or client.description))
    let () ← clientRepo (.update clientId (.is tenantId) (InternalClients.columnsOfUpdate dto))
    let _ ← findClientOrFail clientId (.is tenantId)
    return none

def findKcClient (clientId : String) : AuthProg KcClient :=
  (kc (.findClient clientId)).bind
    (getOrFail (.other ("Client " ++ clientId ++ " not found in Keycloak")))

def rotateClientSecret (tenantId : Option String) (clientId : String) : AuthProg String := do
  let kcClient ← findKcClient clientId
  let () ← onlyIf (truthy tenantId) ()
    (ensureTenantOwnership (tenantId.getD "") kcClient "rotated (secret)")
  kc (.generateNewClientSecret kcClient.id)

def setClientSecret (tenantId clientId secret : String) : AuthProg Unit := do
  let client ← findKcClient clientId
  let () ← ensureTenantOwnership tenantId client "updated (secret)"
  kc (.setClientSecret client.id secret)

def delKcClient (tenantId : String) : Option KcClient → AuthProg Unit
  | some kcClient => do
    let () ← ensureTenantOwnership tenantId kcClient "deleted"
    kc (.delClient kcClient.id)
  | none => return ()

def removeClient (tenantId clientId : String) : AuthProg Unit := do
  let found ← kc (.findClient clientId)
  let () ← delKcClient tenantId found
  clientRepo (.delete clientId tenantId)

/-- `checkExists` of the import: any tenant's client counts. -/
def checkExists (_tenantId : String) (data : CreateClient) : AuthProg Bool := do
  let row ← clientRepo (.findOne data.clientId .any)
  return row.isSome

def importForTenant (w : AuthWorld) (tenantId : String) : AuthProg Unit :=
  importConfigsForTenant w tenantId checkExists
    (fun tenantId data => removeClient tenantId data.clientId)
    fun tenantId data => do
      let _ ← addClient tenantId data
      return ()

end KeycloakClients

def keycloakClients (w : AuthWorld) : ClientsProvider where
  addClient := KeycloakClients.addClient
  updateClient := KeycloakClients.updateClient
  rotateClientSecret := KeycloakClients.rotateClientSecret
  setClientSecret := KeycloakClients.setClientSecret
  removeClient := KeycloakClients.removeClient
  importForTenant := KeycloakClients.importForTenant w

/-- `CLIENTS_PROVIDER`. -/
def clientsProvider (w : AuthWorld) : ClientsProvider :=
  if w.oidc then keycloakClients w else internalClients w

/-! ## `KeycloakUsersProvider` -/

namespace KeycloakUsers

/-- `ensureTenantOwnership`: a user nobody owns is refused. -/
def ensureTenantOwnership (tenantId : String) (user : KcUser) (action : String) :
    AuthProg Unit := do
  let () ← ensure (truthy user.tenantOwner)
    (.conflict ("User '" ++ user.username ++ "' has no tenant ownership metadata and cannot be " ++
      action ++ " by tenant '" ++ tenantId ++ "'."))
  ensure (user.tenantOwner == some tenantId)
    (.conflict ("User '" ++ user.username ++ "' is managed by tenant '" ++
      user.tenantOwner.getD "" ++ "' and cannot be " ++ action ++ " by tenant '" ++ tenantId ++
      "'."))

def findUser (userId : String) : AuthProg KcUser :=
  (kc (.findUser userId)).bind (getOrFail (.notFound ("User '" ++ userId ++ "' not found")))

/-- `getUser`, for what its callers use of it. -/
def getUser (tenantId userId : String) : AuthProg KcUser := do
  let user ← findUser userId
  let () ← ensureTenantOwnership tenantId user "viewed"
  let realmRoles ← kc (.listRealmRoleMappings userId)
  return { user with realmRoles }

def allRoles : List Role :=
  [.tenants, .issuanceOffer, .issuances, .presentationRequest, .presentations, .clients, .users,
    .registrar, .tenantAdmin]

def ensureRealmRoles (requestedRoles : List Role) : AuthProg Unit := do
  let existingRoles ← kc .findRoles
  let targetRoles := if requestedRoles.isEmpty then allRoles else requestedRoles
  each (fun name => kc (.createRole name))
    ((targetRoles.map Role.text).filter fun name => !existingRoles.contains name)

def syncRoles (userId : String) (nextRoles : List Role) : AuthProg Unit := do
  let () ← ensureRealmRoles nextRoles
  let allRealmRoles ← kc .findRoles
  let currentRoles ← kc (.listRealmRoleMappings userId)
  let desired := KeycloakClients.toAssign allRealmRoles nextRoles
  let toRemove := currentRoles.filter fun r => !(nextRoles.map Role.text).contains r
  let toAdd := desired.filter fun r => !currentRoles.contains r
  let () ← onlyIf (!toRemove.isEmpty) () (kc (.delRealmRoleMappings userId toRemove))
  KeycloakClients.assignRoles userId toAdd

/-- `if (dto.roles) await this.syncRoles(userId, dto.roles)`. -/
def syncGivenRoles (userId : String) : Option (List Role) → AuthProg Unit
  | some roles => syncRoles userId roles
  | none => return ()

def addUser (tenantId : String) (dto : CreateUser) : AuthProg ManagementAnswer := do
  let existing ← kc (.findUserByName dto.username)
  let () ← ensure existing.isNone (.conflict ("User '" ++ dto.username ++ "' already exists"))
  let created ← kc (.createUser dto.username (dto.enabled.getD true) tenantId)
  let userId ← getOrFail (.other "Request failed with status code 409") created
  let () ← kc (.updateUser userId none tenantId)
  let temporaryPassword ← invoke AuthCall.random
  let () ← kc (.resetPassword userId temporaryPassword)
  let () ← syncRoles userId dto.roles
  let user ← getUser tenantId userId
  return .user user.id (some temporaryPassword)

def updateUser (tenantId userId : String) (dto : UpdateUser) : AuthProg ManagementAnswer := do
  let user ← findUser userId
  let () ← ensureTenantOwnership tenantId user "updated"
  let () ← kc (.updateUser userId (some (dto.enabled.getD user.enabled)) tenantId)
  let () ← onlyIf (truthy dto.password) () (kc (.resetPassword userId (dto.password.getD "")))
  let () ← syncGivenRoles userId dto.roles
  let user ← getUser tenantId userId
  return .user user.id none

def removeUser (tenantId userId : String) : AuthProg ManagementAnswer := do
  match ← kc (.findUser userId) with
  | none => return .done
  | some user =>
    let () ← ensureTenantOwnership tenantId user "deleted"
    let () ← kc (.delUser userId)
    return .done

end KeycloakUsers

/-- `InternalUsersProvider.unsupported`. -/
def usersUnsupported : AuthProg ManagementAnswer :=
  fail (.notImplemented ("Human user management is only available when EUDIPLO is configured " ++
    "with an external OIDC provider."))

/-! ## The controllers -/

/-- `RolesGuard`. -/
def secured (token : TokenPayload) (required : List Role) : AuthProg Unit :=
  ensure (required.any token.roles.contains) (.forbidden "Forbidden resource")

def requireTenantContext (token : TokenPayload) : AuthProg String := do
  let () ← ensure (truthy token.tenantId) (.forbidden
    "This endpoint requires a tenant context. Use a tenant-bound account.")
  return token.tenantId.getD ""

/-- May the holder of this token hand out these roles? -/
def mayAssign (token : TokenPayload) (roles : List Role) : Bool :=
  !(roles.any Role.privileged && !token.roles.contains .tenants)

def cannotAssign : AuthError :=
  .forbidden "Cannot assign tenant:manage role without having tenant:manage privileges"

def createClient (p : ClientsProvider) (token : TokenPayload) (dto : CreateClient) :
    AuthProg ManagementAnswer := do
  let () ← secured token [.clients]
  let tenantId ← requireTenantContext token
  let () ← ensure (mayAssign token dto.roles) cannotAssign
  let created ← p.addClient tenantId dto
  return .client created

def updateClient (p : ClientsProvider) (token : TokenPayload) (id : String) (dto : UpdateClient) :
    AuthProg ManagementAnswer := do
  let () ← secured token [.clients]
  let tenantId ← requireTenantContext token
  let () ← ensure (mayAssign token (dto.roles.getD [])) cannotAssign
  match ← p.updateClient tenantId id dto with
  | some created => return .client created
  | none => return .done

def rotationTenant (token : TokenPayload) : AuthProg (Option String) :=
  if token.roles.contains .tenants then return none
  else (requireTenantContext token).bind fun tenantId => return some tenantId

def rotateClientSecret (p : ClientsProvider) (token : TokenPayload) (id : String) :
    AuthProg ManagementAnswer := do
  let () ← secured token [.clients, .tenants]
  let tenantId ← rotationTenant token
  let secret ← p.rotateClientSecret tenantId id
  return .secret secret

def deleteClient (p : ClientsProvider) (token : TokenPayload) (id : String) :
    AuthProg ManagementAnswer := do
  let () ← secured token [.clients]
  let tenantId ← requireTenantContext token
  let () ← p.removeClient tenantId id
  return .done

def createUser (w : AuthWorld) (token : TokenPayload) (dto : CreateUser) :
    AuthProg ManagementAnswer := do
  let () ← secured token [.users]
  let tenantId ← requireTenantContext token
  let () ← ensure (mayAssign token dto.roles) cannotAssign
  if w.oidc then KeycloakUsers.addUser tenantId dto else usersUnsupported

def updateUser (w : AuthWorld) (token : TokenPayload) (id : String) (dto : UpdateUser) :
    AuthProg ManagementAnswer := do
  let () ← secured token [.users]
  let tenantId ← requireTenantContext token
  let () ← ensure (mayAssign token (dto.roles.getD [])) cannotAssign
  if w.oidc then KeycloakUsers.updateUser tenantId id dto else usersUnsupported

def deleteUser (w : AuthWorld) (token : TokenPayload) (id : String) :
    AuthProg ManagementAnswer := do
  let () ← secured token [.users]
  let tenantId ← requireTenantContext token
  if w.oidc then KeycloakUsers.removeUser tenantId id else usersUnsupported

/-! ## Configuration bundles -/

def ClientDocument.update (d : ClientDocument) : UpdateClient where
  description := d.spec.description
  roles := some d.spec.roles
  allowedPresentationConfigs := d.spec.allowedPresentationConfigs
  allowedIssuanceConfigs := d.spec.allowedIssuanceConfigs

def ClientDocument.generated (d : ClientDocument) : Bool := d.spec.secret == some "!generate"

/-- `applyDocument` where the client exists. -/
def applyExisting (p : ClientsProvider) (tenantId : String) (d : ClientDocument) :
    AuthProg (List (String × String)) := do
  let _ ← p.updateClient tenantId d.resourceId d.update
  if d.generated then
    let value ← p.rotateClientSecret (some tenantId) d.resourceId
    return [(d.resourceId, value)]
  else
    let () ← onlyIf (truthy d.spec.secret) ()
      (p.setClientSecret tenantId d.resourceId (d.spec.secret.getD ""))
    return []

/-- `applyDocument` where the client does not exist. -/
def applyNew (p : ClientsProvider) (tenantId : String) (d : ClientDocument) :
    AuthProg (List (String × String)) := do
  if d.generated then
    let secret ← invoke AuthCall.random
    let _ ← p.addClient tenantId { d.spec with secret := some secret }
    return [(d.resourceId, secret)]
  else
    let _ ← p.addClient tenantId d.spec
    return []

/-- `applyDocument` for a client. -/
def applyDocument (p : ClientsProvider) (tenantId : String) (d : ClientDocument) :
    AuthProg (List (String × String)) := do
  let count ← clientRepo (.countBy d.resourceId tenantId)
  if count > 0 then applyExisting p tenantId d else applyNew p tenantId d

def applyDocuments (p : ClientsProvider) (tenantId : String) :
    List ClientDocument → AuthProg (List (String × String))
  | [] => return []
  | d :: ds => do
    let secrets ← applyDocument p tenantId d
    let () ← askAuth (.markApplied tenantId d.resourceId)
    let more ← applyDocuments p tenantId ds
    return secrets ++ more

/-- `applyLocked`, for the clients of a bundle. -/
def applyBundle (p : ClientsProvider) (tenantId : String) (documents : List ClientDocument)
    (mode : ImportMode) : AuthProg ManagementAnswer := do
  let plan ← askAuth (.planBundle tenantId documents mode)
  let secrets ← applyDocuments p tenantId
    (documents.filter fun d => plan.writes.contains d.resourceId)
  let () ← each (fun id => do
    let () ← p.removeClient tenantId id
    askAuth (.removeOwnership tenantId id)) plan.deletes
  return .imported secrets

/-- `/^[a-f0-9]{64}$/.test(planFingerprint)`. -/
def isFingerprint (s : String) : Bool :=
  s.length == 64 && s.toList.all fun c => ('a' ≤ c && c ≤ 'f') || ('0' ≤ c && c ≤ '9')

/-- `ConfigPortabilityController.import` and `importArchive`. -/
def importBundle (p : ClientsProvider) (token : TokenPayload) (documents : List ClientDocument)
    (mode : ImportMode) (confirmReplace : Bool) (planFingerprint : String) :
    AuthProg ManagementAnswer := do
  let () ← secured token [.tenants, .tenantAdmin]
  let () ← ensure (documents.all fun d => mayAssign token d.spec.roles) cannotAssign
  let () ← ensure (mode != .replace || confirmReplace)
    (.badRequest "replace mode requires confirmReplace=true")
  let tenantId ← requireTenantContext token
  let () ← ensure (isFingerprint planFingerprint)
    (.badRequest "A planFingerprint from a reviewed plan is required")
  applyBundle p tenantId documents mode

/-! ## Tenants -/

def tenantAdminClient (data : CreateTenant) : CreateClient where
  clientId := data.id ++ "-admin"
  description := some ("auto generated admin client for tenant " ++ data.id)
  roles := .clients :: data.roles.getD []

def createTenant (p : ClientsProvider) (token : TokenPayload) (data : CreateTenant) :
    AuthProg ManagementAnswer := do
  let () ← secured token [.tenants]
  let () ← askAuth (.saveTenant data)
  if data.roles.isSome then
    let created ← p.addClient data.id (tenantAdminClient data)
    return .client created
  else return .done

/-! ## The system -/

inductive ManagementRequest where
  | createClient (token : TokenPayload) (dto : CreateClient)
  | updateClient (token : TokenPayload) (id : String) (dto : UpdateClient)
  | rotateClientSecret (token : TokenPayload) (id : String)
  | deleteClient (token : TokenPayload) (id : String)
  | createUser (token : TokenPayload) (dto : CreateUser)
  | updateUser (token : TokenPayload) (id : String) (dto : UpdateUser)
  | deleteUser (token : TokenPayload) (id : String)
  | importBundle (token : TokenPayload) (documents : List ClientDocument) (mode : ImportMode)
      (confirmReplace : Bool) (planFingerprint : String)
  | createTenant (token : TokenPayload) (data : CreateTenant)
  | importForTenant (tenantId : String)
  | onApplicationBootstrap

def ManagementRequest.program (w : AuthWorld) : ManagementRequest → AuthProg ManagementAnswer
  | .createClient token dto => Eudiplo.createClient (clientsProvider w) token dto
  | .updateClient token id dto => Eudiplo.updateClient (clientsProvider w) token id dto
  | .rotateClientSecret token id => Eudiplo.rotateClientSecret (clientsProvider w) token id
  | .deleteClient token id => Eudiplo.deleteClient (clientsProvider w) token id
  | .createUser token dto => Eudiplo.createUser w token dto
  | .updateUser token id dto => Eudiplo.updateUser w token id dto
  | .deleteUser token id => Eudiplo.deleteUser w token id
  | .importBundle token documents mode confirmReplace planFingerprint =>
    Eudiplo.importBundle (clientsProvider w) token documents mode confirmReplace planFingerprint
  | .createTenant token data => Eudiplo.createTenant (clientsProvider w) token data
  | .importForTenant tenantId => do
    let () ← (clientsProvider w).importForTenant tenantId
    return .done
  | .onApplicationBootstrap => do
    let () ← onlyIf (!w.oidc) () (InternalClients.onApplicationBootstrap w)
    return .done

/-- **The management of clients and users**: any number of requests over one store. -/
def clientManagement (w : AuthWorld) :
    System AuthCall.Result AuthStore Unit ManagementRequest AuthError ManagementAnswer where
  answer := AuthCall.answer w
  drift _ s := s
  program := ManagementRequest.program w

end Eudiplo
