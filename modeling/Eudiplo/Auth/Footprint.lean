import Eudiplo.Auth.Operations

/-!
# What a management operation may touch

An operation for tenant `B` that may hand out the roles in `R` saves clients of `B` only,
selects its updates and deletions by `B` or by client id alone, and names only roles in `R`
(`Within B R`).  This is read off the handlers, whatever they are answered.
-/

namespace Eudiplo

open Concurrency Prog

abbrev AuthState := Global AuthCall.Result AuthStore ManagementRequest

abbrev AuthConfiguration :=
  Config AuthCall.Result AuthStore ManagementRequest AuthError ManagementAnswer

abbrev AuthSchedule := List (Move Unit ManagementRequest)

def ManagementRequest.tenant? : ManagementRequest → Option String
  | .createClient token _ | .updateClient token _ _ | .deleteClient token _
  | .createUser token _ | .updateUser token _ _ | .deleteUser token _
  | .importBundle token _ _ _ _ => token.tenantId
  | .rotateClientSecret token _ => if token.roles.contains .tenants then none else token.tenantId
  | .createTenant _ data => some data.id
  | .importForTenant tenantId => some tenantId
  | .onApplicationBootstrap => none

variable {w : AuthWorld} {B : String} {R : Role → Prop}

/-- The realm roles are those of roles in `R`. -/
def NamesIn (R : Role → Prop) (names : List String) : Prop :=
  ∀ name ∈ names, ∃ r, R r ∧ r.text = name

/-- The roles are in `R`. -/
def RolesIn (R : Role → Prop) (roles : List Role) : Prop := ∀ r ∈ roles, R r

/-- **What an operation for `B` touches.** -/
def Within (B : String) (R : Role → Prop) : AuthCall → Prop
  | .clients (.save _ columns) =>
    columns.tenantId = some B ∧ ∃ roles, columns.roles = some roles ∧ RolesIn R roles
  | .clients (.update _ tenant columns) =>
    (tenant = .any ∨ tenant = .is B) ∧ RolesIn R (columns.roles.getD [])
  | .clients (.delete _ tenantId) => tenantId = B
  | .keycloak (.addRealmRoleMappings _ names) => NamesIn R names
  | _ => True

namespace Footprint

theorem namesIn_toAssign {roles : List Role} (h : RolesIn R roles) (all : List String) :
    NamesIn R (KeycloakClients.toAssign all roles) := by
  intro name hname
  obtain ⟨hname, -⟩ := List.mem_filter.mp hname
  obtain ⟨r, hr, rfl⟩ := List.mem_map.mp hname
  exact ⟨r, h r hr, rfl⟩

theorem namesIn_filter {names : List String} (h : NamesIn R names) (p : String → Bool) :
    NamesIn R (names.filter p) := fun name hname => h name (List.mem_filter.mp hname).1

theorem only_find (clientId : String) (tenant : TenantFilter) :
    (clientRepo (.findOne clientId tenant)).Only (Within B R) := ⟨trivial, fun _ => trivial⟩

theorem only_save {columns : ClientColumns} {roles : List Role} (clientId : String)
    (h : columns.tenantId = some B) (hsome : columns.roles = some roles)
    (hroles : RolesIn R roles) :
    (clientRepo (.save clientId columns)).Only (Within B R) :=
  ⟨⟨h, roles, hsome, hroles⟩, fun _ => trivial⟩

theorem only_update {columns : ClientColumns} (clientId : String)
    (hroles : RolesIn R (columns.roles.getD [])) :
    (clientRepo (.update clientId (.is B) columns)).Only (Within B R) :=
  ⟨⟨.inr rfl, hroles⟩, fun _ => trivial⟩

theorem only_updateSecret (clientId : String) {tenant : TenantFilter} (secret : String)
    (h : tenant = .any ∨ tenant = .is B) :
    (clientRepo (.update clientId tenant { secret := some secret })).Only (Within B R) :=
  ⟨⟨h, fun _ hnone => (List.not_mem_nil hnone).elim⟩, fun _ => trivial⟩

theorem only_delete (clientId : String) :
    (clientRepo (.delete clientId B)).Only (Within B R) := ⟨rfl, fun _ => trivial⟩

theorem only_kc (c : KeycloakCall) (h : Within B R (.keycloak c)) :
    (kc c).Only (Within B R) := ⟨h, fun _ => trivial⟩

theorem kc_bind {α : Type} {c : KeycloakCall} {k : c.Result → AuthProg α}
    (h : Within B R (.keycloak c)) (hk : ∀ a, (k a).Only (Within B R)) :
    ((kc c).bind k).Only (Within B R) := (only_kc c h).bind hk

theorem only_addRoles (userId : String) {names : List String} (h : NamesIn R names) :
    (kc (.addRealmRoleMappings userId names)).Only (Within B R) := ⟨h, fun _ => trivial⟩

theorem only_random : (invoke AuthCall.random : AuthProg String).Only (Within B R) :=
  ⟨trivial, fun _ => trivial⟩

theorem only_hash (secret : String) :
    (invoke (AuthCall.hash secret) : AuthProg String).Only (Within B R) :=
  ⟨trivial, fun _ => trivial⟩

theorem only_ask (q : AuthQuestion) : (askAuth q).Only (Within B R) :=
  Only.bind ⟨trivial, fun _ => trivial⟩ fun _ => only_ofExcept _

theorem only_findClientOrFail (clientId : String) (f : TenantFilter) :
    (findClientOrFail clientId f).Only (Within B R) :=
  (only_find _ _).bind fun _ => only_getOrFail _ _

theorem only_findKcClient (clientId : String) :
    (KeycloakClients.findKcClient clientId).Only (Within B R) :=
  kc_bind trivial fun _ => only_getOrFail _ _

theorem only_secretOrRandom (secret : Option String) :
    (InternalClients.secretOrRandom secret).Only (Within B R) := by
  cases secret with
  | some secret => trivial
  | none => exact only_random

/-! ## The providers -/

/-- A provider whose operations for `B` stay within what is `B`'s. -/
structure ProviderWithin (p : ClientsProvider) (B : String) (R : Role → Prop) : Prop where
  addClient : ∀ dto, RolesIn R dto.roles → (p.addClient B dto).Only (Within B R)
  rotateClientSecret : ∀ id, (p.rotateClientSecret (some B) id).Only (Within B R)
  setClientSecret : ∀ id secret, (p.setClientSecret B id secret).Only (Within B R)
  removeClient : ∀ id, (p.removeClient B id).Only (Within B R)

theorem internal_within (w : AuthWorld) (B : String) (R : Role → Prop) :
    ProviderWithin (internalClients w) B R where
  addClient _ hroles :=
    (only_secretOrRandom _).bind fun _ => (only_hash _).bind fun _ =>
      (only_save _ rfl rfl hroles).bind fun _ => only_ret _
  rotateClientSecret _ :=
    (only_findClientOrFail _ _).bind fun _ => only_random.bind fun _ => (only_hash _).bind fun _ =>
      (only_updateSecret _ _ (.inl rfl)).bind fun _ => only_ret _
  setClientSecret _ _ :=
    (only_findClientOrFail _ _).bind fun _ => (only_hash _).bind fun _ =>
      only_updateSecret _ _ (.inr rfl)
  removeClient _ := only_delete _

theorem internal_updateClient (id : String) {dto : UpdateClient}
    (hroles : RolesIn R (dto.roles.getD [])) :
    (InternalClients.updateClient B id dto).Only (Within B R) :=
  (only_update _ hroles).bind fun _ => only_ret _

theorem keycloak_ownership (client : KcClient) (action : String) :
    (KeycloakClients.ensureTenantOwnership B client action).Only (Within B R) := only_ensure _ _

theorem keycloak_addClient (dto : CreateClient) (hroles : RolesIn R dto.roles) :
    (KeycloakClients.addClient B dto).Only (Within B R) := by
  have hcreate : (KeycloakClients.createOrReconcile B dto).Only (Within B R) := by
    refine kc_bind trivial fun created => ?_
    cases created with
    | some id => trivial
    | none =>
      refine kc_bind trivial fun _ => (only_getOrFail _ _).bind fun client => ?_
      exact (keycloak_ownership _ _).bind fun _ => kc_bind trivial fun _ => only_ret _
  have hsecret (id : String) (createdNow : Bool) :
      (KeycloakClients.createdSecret dto id createdNow).Only (Within B R) := by
    unfold KeycloakClients.createdSecret
    split
    · trivial
    · split
      · exact kc_bind trivial fun _ => only_ret _
      · trivial
  refine hcreate.bind fun ⟨id, createdNow⟩ => (hsecret id createdNow).bind fun secret => ?_
  refine kc_bind trivial fun _ => (only_getOrFail _ _).bind fun user => kc_bind trivial ?_
  intro all
  refine (only_addRoles _ (namesIn_toAssign hroles all)).onlyIf.bind fun _ => ?_
  exact (only_save _ rfl rfl hroles).bind fun _ => only_ret _

theorem keycloak_removeClient (id : String) :
    (KeycloakClients.removeClient B id).Only (Within B R) := by
  refine kc_bind trivial fun found => Only.bind ?_ fun _ => only_delete _
  cases found with
  | none => trivial
  | some client => exact (keycloak_ownership _ _).bind fun _ => only_kc _ trivial

theorem keycloak_replaceRoles (userId : String) {roles : List Role} (hroles : RolesIn R roles) :
    (KeycloakClients.replaceRoles userId roles).Only (Within B R) := by
  refine kc_bind trivial fun all => kc_bind trivial fun _ => ?_
  refine (only_kc _ (by trivial)).onlyIf.bind fun _ => ?_
  exact (only_addRoles _ (namesIn_toAssign hroles all)).onlyIf

theorem keycloak_updateFound (kcClient : KcClient) (client : ClientEntity) (id : String)
    {dto : UpdateClient} (hroles : RolesIn R (dto.roles.getD [])) :
    ((KeycloakClients.ensureTenantOwnership B kcClient "updated").bind fun _ =>
      (kc (.getServiceAccountUser kcClient.id)).bind fun found =>
      (getOrFail (.other "Request failed with status code 404") found).bind fun svcUser =>
      (KeycloakClients.replaceRoles svcUser.id (dto.roles.getD [])).bind fun _ =>
      (kc (.describeClient kcClient.id (dto.description.or client.description))).bind fun _ =>
      (clientRepo (.update id (.is B) (InternalClients.columnsOfUpdate dto))).bind fun _ =>
      (findClientOrFail id (.is B)).bind fun _ =>
        (ret none : AuthProg (Option CreatedClient))).Only (Within B R) := by
  refine (keycloak_ownership _ _).bind fun _ => kc_bind trivial fun _ => ?_
  refine (only_getOrFail _ _).bind fun user => (keycloak_replaceRoles _ hroles).bind fun _ => ?_
  exact kc_bind trivial fun _ => (only_update _ hroles).bind fun _ =>
    (only_findClientOrFail _ _).bind fun _ => only_ret _

theorem keycloak_updateClient (hR : ∀ r, R r) (id : String) (dto : UpdateClient) :
    (KeycloakClients.updateClient B id dto).Only (Within B R) := by
  refine (only_findClientOrFail _ _).bind fun client => kc_bind trivial fun found => ?_
  cases found with
  | none =>
    exact (only_delete _).bind fun _ => (keycloak_addClient _ fun r _ => hR r).bind fun _ =>
      only_ret _
  | some kcClient => exact keycloak_updateFound kcClient client id fun r _ => hR r

theorem keycloak_within (w : AuthWorld) (B : String) (R : Role → Prop) :
    ProviderWithin (keycloakClients w) B R where
  addClient := keycloak_addClient
  rotateClientSecret _ :=
    (only_findKcClient _).bind fun client =>
      (keycloak_ownership client _).onlyIf.bind fun _ => only_kc _ trivial
  setClientSecret _ _ :=
    (only_findKcClient _).bind fun _ => (keycloak_ownership _ _).bind fun _ => only_kc _ trivial
  removeClient := keycloak_removeClient

theorem provider_within (w : AuthWorld) (B : String) (R : Role → Prop) :
    ProviderWithin (clientsProvider w) B R := by
  unfold clientsProvider
  split
  · exact keycloak_within w B R
  · exact internal_within w B R

theorem provider_updateClient (hR : ∀ r, R r) (id : String) (dto : UpdateClient) :
    ((clientsProvider w).updateClient B id dto).Only (Within B R) := by
  unfold clientsProvider
  split
  · exact keycloak_updateClient hR id dto
  · exact internal_updateClient id fun r _ => hR r

theorem only_import {checkExists : String → CreateClient → AuthProg Bool}
    {deleteExisting processItem : String → CreateClient → AuthProg Unit}
    (hcheck : ∀ data, (checkExists B data).Only (Within B R))
    (hdelete : ∀ data, (deleteExisting B data).Only (Within B R))
    (hprocess : ∀ data, (processItem B data).Only (Within B R)) :
    (importConfigsForTenant w B checkExists deleteExisting processItem).Only (Within B R) := by
  have hfile (file : Except AuthError ClientFile) :
      (importConfigFile w B checkExists deleteExisting processItem file).Only (Within B R) := by
    refine (only_ofExcept _).bind fun file => (hcheck _).bind fun found => ?_
    have hstored := (only_ask (B := B) (R := R) (.storedGeneration B file.data.clientId)).bind
      (f := fun stored => ensure (stored ≤ file.generation) (.other
        ("Stale configuration generation " ++ toString file.generation ++
          "; stored generation is " ++ toString stored))) fun _ => only_ensure _ _
    refine hstored.onlyIf.bind fun _ => .onlyIf ?_
    exact (hdelete _).onlyIf.bind fun _ => (hprocess _).bind fun _ => only_ask _
  refine .onlyIf ((only_ask _).bind fun files => .each fun file _ => ?_)
  refine (hfile file).attempt.bind fun outcome => ?_
  cases outcome with
  | ok _ => trivial
  | error e =>
    show (if w.strictAbort then fail e else ret () : AuthProg Unit).Only (Within B R)
    split <;> trivial

theorem provider_import (hR : ∀ r, R r) :
    ((clientsProvider w).importForTenant B).Only (Within B R) := by
  unfold clientsProvider
  split
  · refine only_import (fun _ => (only_find _ _).bind fun _ => only_ret _)
      (fun _ => keycloak_removeClient _) fun data => ?_
    exact (keycloak_addClient data fun r _ => hR r).bind fun _ => only_ret _
  · refine only_import (fun _ => (only_find _ _).bind fun _ => only_ret _)
      (fun _ => only_delete _) fun data => ?_
    exact (only_secretOrRandom _).bind fun _ => (only_hash _).bind fun _ =>
      (only_save _ rfl rfl fun r _ => hR r).bind fun _ => only_ret _

/-! ## The users -/

theorem only_userOwnership (user : KcUser) (action : String) :
    (KeycloakUsers.ensureTenantOwnership B user action).Only (Within B R) :=
  (only_ensure _ _).bind fun _ => only_ensure _ _

theorem only_findUser (userId : String) : (KeycloakUsers.findUser userId).Only (Within B R) :=
  kc_bind trivial fun _ => only_getOrFail _ _

theorem only_getUser (userId : String) : (KeycloakUsers.getUser B userId).Only (Within B R) :=
  (only_findUser _).bind fun _ => (only_userOwnership _ _).bind fun _ => kc_bind trivial fun _ =>
    only_ret _

theorem only_syncRoles (userId : String) {roles : List Role} (hroles : RolesIn R roles) :
    (KeycloakUsers.syncRoles userId roles).Only (Within B R) := by
  have hensure : (KeycloakUsers.ensureRealmRoles roles).Only (Within B R) :=
    kc_bind trivial fun _ => .each fun _ _ => only_kc _ trivial
  refine hensure.bind fun _ => kc_bind trivial fun all => kc_bind trivial fun current => ?_
  refine (only_kc _ (by trivial)).onlyIf.bind fun _ => Only.onlyIf ?_
  exact only_addRoles _ (namesIn_filter (namesIn_toAssign hroles all) _)

theorem only_addUser (dto : CreateUser) (hroles : RolesIn R dto.roles) :
    (KeycloakUsers.addUser B dto).Only (Within B R) := by
  refine kc_bind trivial fun _ => (only_ensure _ _).bind fun _ => kc_bind trivial fun _ => ?_
  refine (only_getOrFail _ _).bind fun userId => kc_bind trivial fun _ =>
    only_random.bind fun _ => ?_
  refine kc_bind trivial fun _ => (only_syncRoles _ hroles).bind fun _ => ?_
  exact (only_getUser _).bind fun _ => only_ret _

theorem only_updateUser (id : String) (dto : UpdateUser) (hroles : RolesIn R (dto.roles.getD [])) :
    (KeycloakUsers.updateUser B id dto).Only (Within B R) := by
  have hsync : (KeycloakUsers.syncGivenRoles id dto.roles).Only (Within B R) := by
    cases hdto : dto.roles with
    | some roles => exact only_syncRoles _ (by simpa [hdto] using hroles)
    | none => trivial
  refine (only_findUser _).bind fun _ => (only_userOwnership _ _).bind fun _ => ?_
  refine kc_bind trivial fun _ => (only_kc _ (by trivial)).onlyIf.bind fun _ => ?_
  refine hsync.bind fun _ => ?_
  exact (only_getUser _).bind fun _ => only_ret _

theorem only_removeUser (id : String) : (KeycloakUsers.removeUser B id).Only (Within B R) := by
  refine kc_bind trivial fun found => ?_
  cases found with
  | none => trivial
  | some user =>
    exact (only_userOwnership _ _).bind fun _ => kc_bind trivial fun _ => only_ret _

theorem only_usersProvider {p : AuthProg ManagementAnswer} (hp : p.Only (Within B R)) :
    (if w.oidc then p else usersUnsupported).Only (Within B R) := by
  split
  · exact hp
  · trivial

/-! ## The requests -/

theorem only_requireTenant {P : AuthCall → Prop} {token : TokenPayload} {α : Type}
    {f : String → AuthProg α} (hf : (f (token.tenantId.getD "")).Only P) :
    ((requireTenantContext token).bind f).Only P := by
  unfold requireTenantContext
  rw [bind_eq, Prog.bind_assoc]
  exact (only_ensure _ _).bind fun _ => hf

section

variable {token : TokenPayload} {p : ClientsProvider}

theorem only_createClient (hp : ProviderWithin p (token.tenantId.getD "") R) (dto : CreateClient)
    (hroles : mayAssign token dto.roles = true → RolesIn R dto.roles) :
    (createClient p token dto).Only (Within (token.tenantId.getD "") R) :=
  Only.ensure fun _ => only_requireTenant (.ensure fun hmay =>
    (hp.addClient _ (hroles hmay)).bind fun _ => only_ret _)

theorem only_rotateClientSecret (hp : ProviderWithin p (token.tenantId.getD "") R)
    (hmanager : token.roles.contains .tenants ≠ true) (id : String) :
    (rotateClientSecret p token id).Only (Within (token.tenantId.getD "") R) := by
  refine Only.ensure fun _ => ?_
  rw [rotationTenant, if_neg hmanager, bind_eq, Prog.bind_assoc]
  exact only_requireTenant ((hp.rotateClientSecret id).bind fun _ => only_ret _)

theorem only_deleteClient (hp : ProviderWithin p (token.tenantId.getD "") R) (id : String) :
    (deleteClient p token id).Only (Within (token.tenantId.getD "") R) :=
  Only.ensure fun _ => only_requireTenant ((hp.removeClient _).bind fun _ => only_ret _)

theorem only_createUser (dto : CreateUser)
    (hroles : mayAssign token dto.roles = true → RolesIn R dto.roles) :
    (createUser w token dto).Only (Within (token.tenantId.getD "") R) :=
  Only.ensure fun _ => only_requireTenant (.ensure fun hmay =>
    only_usersProvider (only_addUser _ (hroles hmay)))

theorem only_patchUser (id : String) (dto : UpdateUser)
    (hroles : mayAssign token (dto.roles.getD []) = true → RolesIn R (dto.roles.getD [])) :
    (updateUser w token id dto).Only (Within (token.tenantId.getD "") R) :=
  Only.ensure fun _ => only_requireTenant (.ensure fun hmay =>
    only_usersProvider (only_updateUser _ _ (hroles hmay)))

theorem only_deleteUser (id : String) :
    (deleteUser w token id).Only (Within (token.tenantId.getD "") R) :=
  Only.ensure fun _ => only_requireTenant (only_usersProvider (only_removeUser _))

end

theorem only_applyNew {p : ClientsProvider} (hp : ProviderWithin p B R) (d : ClientDocument)
    (hroles : RolesIn R d.spec.roles) : (applyNew p B d).Only (Within B R) := by
  unfold applyNew
  split
  · refine only_random.bind fun secret => Only.bind (hp.addClient _ ?_) fun _ => only_ret _
    exact hroles
  · exact (hp.addClient _ hroles).bind fun _ => only_ret _

theorem only_applySecret {p : ClientsProvider} (hp : ProviderWithin p B R) (d : ClientDocument) :
    (if d.generated then
      (p.rotateClientSecret (some B) d.resourceId).bind fun value =>
        (ret [(d.resourceId, value)] : AuthProg (List (String × String)))
    else (onlyIf (truthy d.spec.secret) ()
      (p.setClientSecret B d.resourceId (d.spec.secret.getD ""))).bind fun _ => ret []).Only
        (Within B R) := by
  split
  · exact (hp.rotateClientSecret _).bind fun _ => only_ret _
  · exact (hp.setClientSecret _ _).onlyIf.bind fun _ => only_ret _

theorem only_countBy (clientId : String) :
    (clientRepo (.countBy clientId B)).Only (Within B R) := ⟨trivial, fun _ => trivial⟩

theorem only_applyDocuments (hR : ∀ r, R r) (ds : List ClientDocument) :
    (applyDocuments (clientsProvider w) B ds).Only (Within B R) := by
  have hp := provider_within w B R
  have hdocument (d : ClientDocument) :
      (applyDocument (clientsProvider w) B d).Only (Within B R) := by
    refine (only_countBy _).bind fun count => ?_
    show (if count > 0 then applyExisting _ B d else applyNew _ B d).Only (Within B R)
    split
    · exact (provider_updateClient hR _ _).bind fun _ => only_applySecret hp d
    · exact only_applyNew hp d fun r _ => hR r
  induction ds with
  | nil => trivial
  | cons d ds ih =>
    exact (hdocument d).bind fun _ => (only_ask _).bind fun _ => ih.bind fun _ => only_ret _

theorem only_deletions {p : ClientsProvider} (hp : ProviderWithin p B R) (ids : List String) :
    (each (fun id => (p.removeClient B id).bind fun _ => askAuth (.removeOwnership B id)) ids).Only
      (Within B R) := .each fun _ _ => (hp.removeClient _).bind fun _ => only_ask _

/-- **An operation for `B` stays within what is `B`'s**, whatever its roles. -/
theorem only_program (w : AuthWorld) (hR : ∀ r, R r) {r : ManagementRequest}
    (hr : r.tenant? = some B) : (r.program w).Only (Within B R) := by
  have hp := provider_within w B R
  have hB {token : TokenPayload} (h : token.tenantId = some B) : B = token.tenantId.getD "" := by
    rw [h, Option.getD_some]
  cases r with
  | createClient token dto =>
    rw [hB hr] at hp ⊢
    exact only_createClient hp dto fun _ r _ => hR r
  | updateClient token id dto =>
    rw [hB hr]
    refine Only.ensure fun _ => only_requireTenant (.ensure fun _ => ?_)
    refine (provider_updateClient hR _ _).bind fun created => ?_
    cases created <;> trivial
  | rotateClientSecret token id =>
    by_cases hmanager : token.roles.contains .tenants = true
    · rw [ManagementRequest.tenant?, if_pos hmanager] at hr
      cases hr
    · rw [ManagementRequest.tenant?, if_neg hmanager] at hr
      rw [hB hr] at hp ⊢
      exact only_rotateClientSecret hp hmanager id
  | deleteClient token id =>
    rw [hB hr] at hp ⊢
    exact only_deleteClient hp id
  | createUser token dto =>
    rw [hB hr]
    exact only_createUser dto fun _ r _ => hR r
  | updateUser token id dto =>
    rw [hB hr]
    exact only_patchUser id dto fun _ r _ => hR r
  | deleteUser token id =>
    rw [hB hr]
    exact only_deleteUser id
  | importBundle token documents mode confirmReplace planFingerprint =>
    rw [hB hr] at hp ⊢
    refine Only.ensure fun _ => .ensure fun _ => .ensure fun _ => only_requireTenant ?_
    refine Only.ensure fun _ => (only_ask _).bind fun plan => ?_
    exact (only_applyDocuments hR _).bind fun _ => (only_deletions hp _).bind fun _ => only_ret _
  | createTenant token data =>
    cases hr
    refine Only.ensure fun _ => (only_ask _).bind fun _ => ?_
    show (if data.roles.isSome then _ else _ : AuthProg _).Only _
    split
    · exact (hp.addClient _ fun r _ => hR r).bind fun _ => only_ret _
    · trivial
  | importForTenant tenantId =>
    cases hr
    exact (provider_import hR).bind fun _ => only_ret _
  | onApplicationBootstrap => cases hr

end Footprint

end Eudiplo
