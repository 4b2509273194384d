import Eudiplo.Auth.Deployment
import Eudiplo.Auth.Footprint
import Eudiplo.Concurrency.Order
import Eudiplo.Concurrency.RelyGuarantee

/-!
# Can client and user managers gain privileged roles?

The controllers look at the roles a request names.  Rotating a secret, setting a password and
importing a secret name none and act on whoever the target is: `not_managers_confined` is a
client manager who rotates the secret of a client with `tenant:admin`.  In Keycloak an update
of a client that Keycloak has lost recreates it with the roles of its stored row and returns
its new secret.

`managers_confined` holds for every run in which no secret is given to a principal that holds
one of the two roles, and no stored role of that kind is given again.
-/

namespace Eudiplo

open Concurrency Prog Discipline Storage

/-! ## The claim -/

/-- Whoever can hold roles: clients of the backend, and clients and users of the realm. -/
inductive Principal where
  | client (clientId : String)
  | kcClient (id : String)
  | kcUser (id : String)
  deriving DecidableEq

def AuthStore.rolesOf (s : AuthStore) : Principal → List String
  | .client clientId => (s.clients.get clientId).elim [] fun row => row.roles.map Role.text
  | .kcClient id => (s.serviceAccount id).elim [] KcUser.realmRoles
  | .kcUser id => (s.kcUsers.get id).elim [] KcUser.realmRoles

/-- The principal holds `tenants:manage` or `tenant:admin`. -/
def AuthStore.privileged (s : AuthStore) (p : Principal) : Bool :=
  (s.rolesOf p).any isPrivilegedName

/-- Answered in `s`, the call gives a principal a secret that the caller chose or drew. -/
def AuthCall.GivesSecret (w : AuthWorld) (s : AuthStore) : AuthCall → Principal → Prop
  | .clients (.save clientId columns), p => columns.secret.isSome ∧ p = .client clientId
  | .clients (.update clientId tenant columns), p =>
    columns.secret.isSome ∧ p = .client clientId ∧
      ∃ row, s.clients.get clientId = some row ∧ tenant.selects row = true
  | .keycloak (.createClient clientId description secret owner), p =>
    ∃ id, (KeycloakCall.answer w s (.createClient clientId description secret owner)).1 =
      some id ∧ p = .kcClient id
  | .keycloak (.setClientSecret id _), p | .keycloak (.generateNewClientSecret id), p =>
    p = .kcClient id
  | .keycloak (.resetPassword id _), p => p = .kcUser id
  | _, _ => False

/-- A management request with a token that does not carry `tenants:manage`. -/
def ManagementRequest.byManager : ManagementRequest → Prop
  | .createClient token _ | .updateClient token _ _ | .rotateClientSecret token _
  | .deleteClient token _ | .createUser token _ | .updateUser token _ _ | .deleteUser token _
  | .importBundle token _ _ _ _ => Role.tenants ∉ token.roles
  | _ => False

/-- **Managers are confined** in a run: whoever holds one of the two roles at its end held it
at its start, and was given no secret along it. -/
structure ManagersConfined (w : AuthWorld) (st : AuthStore) (ms : AuthSchedule) : Prop where
  assigned : ∀ p role, isPrivilegedName role = true →
    role ∈ ((clientManagement w).run (.start st) ms).store.rolesOf p → role ∈ st.rolesOf p
  unknown : ∀ ms₁ ms₂ t op p, ms = ms₁ ++ .resume t :: ms₂ →
    System.waiting ((clientManagement w).run (.start st) ms₁) t = some op →
    op.GivesSecret w ((clientManagement w).run (.start st) ms₁).store p →
    ((clientManagement w).run (.start st) ms).store.privileged p = false

/-- Thread `t` read this row of the client table. -/
def ReadsClient (g : AuthState) (t : Nat) (row : ClientEntity) : Prop :=
  ∃ clientId tenant, g.Made t (.clients (.findOne clientId tenant)) (some row)

def AuthCall.assigns : AuthCall → List String
  | .clients (.save _ columns) | .clients (.update _ _ columns) =>
    (columns.roles.getD []).map Role.text
  | .keycloak (.addRealmRoleMappings _ names) => names
  | _ => []

/-- **The condition**: a principal that is given a secret, other than by being saved anew,
holds neither role, and no thread gives again such a role that it read from a stored row. -/
structure SparesPrivileged (w : AuthWorld) (g : AuthState) (tid : Nat) (op : AuthCall) :
    Prop where
  target : ∀ p, op.GivesSecret w g.store p → (∀ clientId columns,
    op ≠ .clients (.save clientId columns)) → g.store.privileged p = false
  stored : ∀ row, ReadsClient g tid row → ∀ r ∈ row.roles, r.privileged = true →
    r.text ∉ op.assigns

namespace PrivilegedRoles

variable {w : AuthWorld} {g g' : AuthState} {tid : Nat} {op : AuthCall} {s : AuthStore}

/-! ## One step -/

theorem privileged_eq_false {p : Principal} :
    s.privileged p = false ↔ ∀ role ∈ s.rolesOf p, isPrivilegedName role = false := by
  simp [AuthStore.privileged]

/-- The call hands out neither of the two roles. -/
def AssignsNone (op : AuthCall) : Prop := ∀ name ∈ op.assigns, isPrivilegedName name = false

/-- **A role of the two that someone holds after a call was held before it.** -/
def Backwards (s s' : AuthStore) : Prop :=
  ∀ p role, isPrivilegedName role = true → role ∈ s'.rolesOf p → role ∈ s.rolesOf p

theorem Backwards.refl (s : AuthStore) : Backwards s s := fun _ _ _ h => h

theorem Backwards.trans {s' s'' : AuthStore} (h : Backwards s s') (h' : Backwards s' s'') :
    Backwards s s'' := fun p role hrole hin => h p role hrole (h' p role hrole hin)

theorem Backwards.privileged {s' : AuthStore} (h : Backwards s s') {p : Principal}
    (hp : s.privileged p = false) : s'.privileged p = false := by
  rw [privileged_eq_false] at hp ⊢
  intro role hrole
  by_contra hpriv
  have hpriv : isPrivilegedName role = true := by simpa using hpriv
  rw [hp role (h p role hpriv hrole)] at hpriv
  cases hpriv

theorem not_named {names : List String} (h : ∀ name ∈ names, isPrivilegedName name = false)
    {role : String} (hrole : isPrivilegedName role = true) : role ∉ names := by
  intro hin
  rw [h role hin] at hrole
  cases hrole

theorem backwards_clients (hnone : AssignsNone op) {c : ClientCall} (hop : op = .clients c) :
    Backwards s (op.answer w s).2 := by
  subst hop
  intro p role hrole hin
  cases p with
  | kcClient id => exact hin
  | kcUser id => exact hin
  | client k =>
    cases c with
    | findOne clientId tenant => exact hin
    | countBy clientId tenantId => exact hin
    | save clientId columns =>
      have hget : ((AuthCall.clients (.save clientId columns)).answer w s).2.clients.get k = _ :=
        Table.get_upsert s.clients (columns.row clientId) (·.with columns) (fun _ => rfl) k
      simp only [AuthStore.rolesOf, hget] at hin ⊢
      split at hin
      · rename_i hk
        obtain rfl : clientId = k := hk
        have hnew := not_named hnone hrole
        simp only [AuthCall.assigns] at hnew
        -- a new client has the roles of the call, an old one also where the call has none
        cases hrow : s.clients.get clientId with
        | none =>
          simp only [hrow, Option.elim] at hin
          exact absurd hin hnew
        | some row =>
          cases hroles : columns.roles with
          | none => simpa [hrow, ClientEntity.with, hroles] using hin
          | some roles =>
            simp only [hroles, Option.getD_some] at hnew
            simp only [hrow, Option.elim, ClientEntity.with, hroles, Option.getD_some] at hin
            exact absurd hin hnew
      · exact hin
    | update clientId tenant columns =>
      have hget : ((AuthCall.clients (.update clientId tenant columns)).answer w s).2.clients.get k
          = (s.clients.get k).map _ :=
        Table.get_updateWhere s.clients _ (·.with columns) (fun _ => rfl) k
      have hnew := not_named hnone hrole
      simp only [AuthStore.rolesOf, hget] at hin ⊢
      cases hrow : s.clients.get k with
      | none => simp [hrow] at hin
      | some row =>
        simp only [hrow, Option.map_some, Option.elim] at hin ⊢
        split at hin
        · cases hroles : columns.roles with
          | none => simpa [ClientEntity.with, hroles] using hin
          | some roles =>
            simp only [AuthCall.assigns, hroles, Option.getD_some] at hnew
            simp only [ClientEntity.with, hroles, Option.getD_some] at hin
            exact absurd hin hnew
        · exact hin
    | delete clientId tenantId =>
      have hget : ((AuthCall.clients (.delete clientId tenantId)).answer w s).2.clients.get k = _ :=
        Table.get_deleteWhere s.clients _ k
      simp only [AuthStore.rolesOf, hget] at hin ⊢
      cases hrow : s.clients.get k with
      | none => simp [hrow] at hin
      | some row =>
        rw [hrow, Option.filter_some] at hin
        split at hin
        · exact hin
        · cases hin

/-- The privileged roles of the users of the realm, after a call, are ones they held. -/
def UsersBackwards (s s' : AuthStore) : Prop :=
  ∀ id u', s'.kcUsers.get id = some u' → ∀ role ∈ u'.realmRoles, isPrivilegedName role = true →
    ∃ u, s.kcUsers.get id = some u ∧ role ∈ u.realmRoles

/-- A client of the realm keeps its service account, and a new one gets a new account. -/
def AccountsKept (s s' : AuthStore) : Prop :=
  ∀ id c', s'.kcClients.get id = some c' →
    (∃ c, s.kcClients.get id = some c ∧ c.serviceAccountUserId = c'.serviceAccountUserId) ∨
      s.kcUsers.get c'.serviceAccountUserId = none

theorem UsersBackwards.of_eq {s' : AuthStore} (h : s'.kcUsers = s.kcUsers) :
    UsersBackwards s s' := fun _ u' hu' _ hrole _ => ⟨u', h ▸ hu', hrole⟩

theorem AccountsKept.of_eq {s' : AuthStore} (h : s'.kcClients = s.kcClients) :
    AccountsKept s s' := fun _ c' hc' => .inl ⟨c', h ▸ hc', rfl⟩

theorem backwards_of_parts {s' : AuthStore} (hclients : s'.clients = s.clients)
    (husers : UsersBackwards s s') (haccounts : AccountsKept s s') : Backwards s s' := by
  intro p role hrole hin
  cases p with
  | client k => simpa [AuthStore.rolesOf, hclients] using hin
  | kcUser id =>
    simp only [AuthStore.rolesOf] at hin ⊢
    cases hu' : s'.kcUsers.get id with
    | none => simp [hu'] at hin
    | some u' =>
      rw [hu'] at hin
      obtain ⟨u, hu, hmem⟩ := husers id u' hu' role hin hrole
      rw [hu]
      exact hmem
  | kcClient id =>
    simp only [AuthStore.rolesOf, AuthStore.serviceAccount] at hin ⊢
    cases hc' : s'.kcClients.get id with
    | none => simp [hc'] at hin
    | some c' =>
      rw [hc', Option.bind_some] at hin
      cases hu' : s'.kcUsers.get c'.serviceAccountUserId with
      | none => simp [hu'] at hin
      | some u' =>
        rw [hu'] at hin
        obtain ⟨u, hu, hmem⟩ := husers _ u' hu' role hin hrole
        rcases haccounts id c' hc' with ⟨c, hc, hsvc⟩ | hfree
        · rw [hc, Option.bind_some, hsvc, hu]
          exact hmem
        · rw [hu] at hfree
          cases hfree

theorem usersBackwards_update {s : AuthStore} {id : String} {f : KcUser → KcUser}
    {hf : ∀ r, (f r).id = r.id}
    (h : ∀ u, ∀ role ∈ (f u).realmRoles, isPrivilegedName role = true → role ∈ u.realmRoles) :
    UsersBackwards s (s.updateKcUser id f hf) := by
  intro k u' hu' role hrole hpriv
  have hget := (Table.get_updateWhere s.kcUsers (·.id == id) f hf k).symm.trans hu'
  obtain ⟨u, hu, rfl⟩ := Option.map_eq_some_iff.mp hget
  refine ⟨u, hu, ?_⟩
  split at hrole
  · exact h u role hrole hpriv
  · exact hrole

theorem accountsKept_update {s : AuthStore} {id : String} {f : KcClient → KcClient}
    {hf : ∀ r, (f r).id = r.id}
    (h : ∀ c, (f c).serviceAccountUserId = c.serviceAccountUserId) :
    AccountsKept s (s.updateKcClient id f hf) := by
  intro k c' hc'
  have hget := (Table.get_updateWhere s.kcClients (·.id == id) f hf k).symm.trans hc'
  obtain ⟨c, hc, rfl⟩ := Option.map_eq_some_iff.mp hget
  refine .inl ⟨c, hc, ?_⟩
  split
  · exact (h c).symm
  · rfl

theorem usersBackwards_delete {s s' : AuthStore} {q : KcUser → Bool}
    (h : s'.kcUsers = s.kcUsers.deleteWhere q) : UsersBackwards s s' := by
  intro k u' hu' role hrole _
  rw [h, Table.get_deleteWhere, Option.filter_eq_some_iff] at hu'
  exact ⟨u', hu'.1, hrole⟩

theorem usersBackwards_create {s s' : AuthStore} {new : KcUser} (hnew : new.realmRoles = [])
    (h : s'.kcUsers = s.kcUsers.upsert new id fun _ => rfl) (hfree : s.kcUsers.get new.id = none) :
    UsersBackwards s s' := by
  intro k u' hu' role hrole _
  rw [h, Table.get_upsert] at hu'
  split at hu'
  · rename_i hk
    subst hk
    rw [hfree] at hu'
    cases hu'
    simp [hnew] at hrole
  · exact ⟨u', hu', hrole⟩

theorem backwards_keycloak (hnone : AssignsNone op) {c : KeycloakCall} (hop : op = .keycloak c) :
    Backwards s (op.answer w s).2 := by
  subst hop
  cases c with
  | createClient clientId description secret owner =>
    simp only [AuthCall.answer, KeycloakCall.answer]
    split
    · exact .refl s
    · rename_i hfree
      simp only [Bool.or_eq_true, not_or, Bool.not_eq_true, Option.isSome_eq_false_iff,
        Option.isNone_iff_eq_none] at hfree
      refine backwards_of_parts rfl (usersBackwards_create rfl rfl hfree.2) fun k c' hc' => ?_
      rw [Table.get_upsert] at hc'
      split at hc'
      · rename_i hk
        rw [← hk, hfree.1.2] at hc'
        cases hc'
        exact .inr hfree.2
      · exact .inl ⟨c', hc', rfl⟩
  | createUser username enabled owner =>
    simp only [AuthCall.answer, KeycloakCall.answer]
    split
    · exact .refl s
    · rename_i hfree
      simp only [Bool.or_eq_true, not_or, Bool.not_eq_true, Option.isSome_eq_false_iff,
        Option.isNone_iff_eq_none] at hfree
      exact backwards_of_parts rfl (usersBackwards_create rfl rfl hfree.2) (.of_eq rfl)
  | reconcileClient id description owner =>
    exact backwards_of_parts rfl (.of_eq rfl) (accountsKept_update fun _ => rfl)
  | describeClient id description =>
    exact backwards_of_parts rfl (.of_eq rfl) (accountsKept_update fun _ => rfl)
  | setClientSecret id secret =>
    exact backwards_of_parts rfl (.of_eq rfl) (accountsKept_update fun _ => rfl)
  | generateNewClientSecret id =>
    refine backwards_of_parts rfl (.of_eq rfl) ?_
    have hkept : AccountsKept s (s.updateKcClient id
        (fun c => { c with secret := some (w.random s.draws) }) fun _ => rfl) :=
      accountsKept_update fun _ => rfl
    exact hkept
  | delClient id =>
    refine backwards_of_parts rfl (usersBackwards_delete rfl) fun k c' hc' => ?_
    have hget := (Table.get_deleteWhere s.kcClients _ k).symm.trans hc'
    exact .inl ⟨c', (Option.filter_eq_some_iff.mp hget).1, rfl⟩
  | updateUser id enabled owner =>
    exact backwards_of_parts rfl (usersBackwards_update fun _ _ h _ => h) (.of_eq rfl)
  | resetPassword id password =>
    exact backwards_of_parts rfl (usersBackwards_update fun _ _ h _ => h) (.of_eq rfl)
  | delUser id => exact backwards_of_parts rfl (usersBackwards_delete rfl) (.of_eq rfl)
  | addRealmRoleMappings id names =>
    refine backwards_of_parts rfl (usersBackwards_update fun u role hrole hpriv => ?_) (.of_eq rfl)
    exact (List.mem_append.mp hrole).resolve_right (not_named hnone hpriv)
  | delRealmRoleMappings id names =>
    refine backwards_of_parts rfl (usersBackwards_update fun u role hrole _ => ?_) (.of_eq rfl)
    exact (List.mem_filter.mp hrole).1
  | findClient _ | getServiceAccountUser _ | findUserByName _ | findUser _ | findRoles
  | createRole _ | listRealmRoleMappings _ =>
    exact backwards_of_parts rfl (.of_eq rfl) (.of_eq rfl)

/-- **One call that hands out neither role.** -/
theorem backwards_answer (hnone : AssignsNone op) : Backwards s (op.answer w s).2 := by
  cases hop : op with
  | clients c => exact hop ▸ backwards_clients hnone hop
  | keycloak c => exact hop ▸ backwards_keycloak hnone hop
  | random => exact .refl s
  | hash secret => exact .refl s
  | ask q => exact .refl s

/-- **Whoever is given a secret holds neither role after the call.** -/
theorem given_unprivileged (hnone : AssignsNone op)
    (hspares : ∀ p, op.GivesSecret w s p → (∀ clientId columns,
      op ≠ .clients (.save clientId columns)) → s.privileged p = false) {p : Principal}
    (hp : op.GivesSecret w s p) (hroles : ∀ clientId columns,
      op = .clients (.save clientId columns) → columns.roles.isSome = true) :
    (op.answer w s).2.privileged p = false := by
  by_cases hop : ∃ clientId columns, op = .clients (.save clientId columns)
  · obtain ⟨clientId, columns, rfl⟩ := hop
    obtain ⟨-, rfl⟩ := hp
    obtain ⟨roles, hsome⟩ := Option.isSome_iff_exists.mp (hroles _ _ rfl)
    rw [privileged_eq_false]
    have hget : ((AuthCall.clients (.save clientId columns)).answer w s).2.clients.get clientId
        = _ := Table.get_upsert s.clients (columns.row clientId) (·.with columns)
          (fun _ => rfl) clientId
    have hkey : (columns.row clientId).clientId = clientId := rfl
    rw [if_pos hkey] at hget
    intro role hrole
    refine hnone role ?_
    simp only [AuthStore.rolesOf, hget, Option.elim] at hrole
    simp only [AuthCall.assigns, hsome, Option.getD_some]
    cases hrow : s.clients.get clientId with
    | none => simpa [hrow, ClientColumns.row, hsome] using hrole
    | some row => simpa [hrow, ClientEntity.with, hsome] using hrole
  · refine (backwards_answer hnone).privileged (hspares p hp fun clientId columns h => ?_)
    exact hop ⟨clientId, columns, h⟩

/-! ## What the handlers hand out -/

/-- Thread `t` may name the role: it is neither of the two, or was read from a stored row. -/
def Given (g : AuthState) (t : Nat) (r : Role) : Prop :=
  r.privileged = true → ∃ row, ReadsClient g t row ∧ r ∈ row.roles

theorem Given.extends {r : Role} (h : Given g tid r) (hext : g.Extends g') : Given g' tid r := by
  intro hpriv
  obtain ⟨row, ⟨clientId, tenant, hmade⟩, hr⟩ := h hpriv
  exact ⟨row, ⟨clientId, tenant, hmade.extends hext⟩, hr⟩

/-- **What a thread may hand out**, and that it saves a client with roles. -/
structure HandsOut (g : AuthState) (tid : Nat) (op : AuthCall) : Prop where
  roles : ∀ name ∈ op.assigns, isPrivilegedName name = true → ∃ r, Given g tid r ∧ r.text = name
  saves : ∀ clientId columns, op = .clients (.save clientId columns) →
    columns.roles.isSome = true

theorem handsOut_of_within {B : String} {R : Role → Prop} (h : Within B R op)
    (hR : ∀ r, R r → Given g tid r) : HandsOut g tid op := by
  refine ⟨fun name hname _ => ?_, fun clientId columns hop => ?_⟩
  · cases op with
    | clients c =>
      cases c with
      | save clientId columns =>
        obtain ⟨-, roles, hsome, hroles⟩ := h
        rw [AuthCall.assigns, hsome, Option.getD_some] at hname
        obtain ⟨r, hr, rfl⟩ := List.mem_map.mp hname
        exact ⟨r, hR r (hroles r hr), rfl⟩
      | update clientId tenant columns =>
        obtain ⟨r, hr, rfl⟩ := List.mem_map.mp hname
        exact ⟨r, hR r (h.2 r hr), rfl⟩
      | _ => cases hname
    | keycloak c =>
      cases c with
      | addRealmRoleMappings id names =>
        obtain ⟨r, hr, rfl⟩ := h name hname
        exact ⟨r, hR r hr, rfl⟩
      | _ => cases hname
    | _ => cases hname
  · subst hop
    obtain ⟨-, roles, hsome, -⟩ := h
    rw [hsome]
    rfl

/-- **The discipline of the managers.** -/
def grants (w : AuthWorld) : Discipline (clientManagement w) where
  inv _ := True
  rely _ _ _ := True
  admits _ _ _ := True
  may := HandsOut
  allowed := ManagementRequest.byManager
  post _ _ _ _ := True
  rely_refl _ _ := trivial
  rely_trans _ _ := trivial
  step _ _ _ _ := ⟨trivial, fun _ _ => trivial⟩
  arrive _ _ := ⟨trivial, fun _ _ => trivial⟩
  pass _ _ := ⟨trivial, fun _ => trivial⟩

variable {r : ManagementRequest} {B : String}

theorem safe_of_within {α : Type} {p : AuthProg α} (hg : (grants w).At tid r g)
    (hp : p.Only (Within B (Given g tid))) :
    (grants w).Safe tid (fun _ _ => True) p g :=
  .of_only hg hp fun _ _ hext _ hop _ => handsOut_of_within hop fun _ hr => hr.extends hext

theorem findClientOrFail_safe (hg : (grants w).At tid r g) (clientId : String)
    (tenant : TenantFilter) :
    (grants w).Safe tid (fun g' row => ReadsClient g' tid row)
      (findClientOrFail clientId tenant) g := by
  refine Safe.of_yields hg (Footprint.only_findClientOrFail (B := "")
    (R := fun _ => False) clientId tenant) (fun _ _ _ _ hop _ => handsOut_of_within hop
    fun _ hr => hr.elim) ?_
  have hfound : (clientManagement w).Yields tid
      (fun g' found => g'.Made tid (.clients (.findOne clientId tenant)) found)
      (clientRepo (.findOne clientId tenant)) g := System.yields_invoke _
  refine hfound.bind fun found g' _ hmade => ?_
  cases found with
  | none => trivial
  | some row => exact fun g'' hext => ⟨clientId, tenant, hmade.extends hext⟩

theorem keycloak_updateClient_safe (hg : (grants w).At tid r g) (id : String)
    {dto : UpdateClient} (hroles : RolesIn (Given g tid) (dto.roles.getD [])) :
    (grants w).Safe tid (fun _ _ => True) (KeycloakClients.updateClient B id dto) g := by
  refine (findClientOrFail_safe hg id _).bind hg fun client g' hext hg' hread => ?_
  refine (safe_of_within (B := B) hg' (Footprint.only_kc _ (by trivial))).bind hg'
    fun found g'' hext' hg'' _ => ?_
  have hroles'' : RolesIn (Given g'' tid) (dto.roles.getD []) :=
    fun r hr => (hroles r hr).extends (hext.trans hext')
  refine safe_of_within (B := B) hg'' ?_
  cases found with
  | none =>
    -- the roles of the request, or else those of the row that was read
    refine (Footprint.only_delete _).bind fun _ => ?_
    refine (Footprint.keycloak_addClient _ fun r hr => ?_).bind fun _ => only_ret _
    cases hdto : dto.roles with
    | some roles => exact hroles'' r (by simpa [KeycloakClients.recreated, hdto] using hr)
    | none =>
      obtain ⟨clientId, tenant, hmade⟩ := hread
      refine fun _ => ⟨client, ⟨clientId, tenant, hmade.extends hext'⟩, ?_⟩
      simpa [KeycloakClients.recreated, hdto] using hr
  | some kcClient => exact Footprint.keycloak_updateFound kcClient client id hroles''

theorem provider_updateClient_safe (hg : (grants w).At tid r g) (id : String)
    {dto : UpdateClient} (hroles : RolesIn (Given g tid) (dto.roles.getD [])) :
    (grants w).Safe tid (fun _ _ => True) ((clientsProvider w).updateClient B id dto) g := by
  unfold clientsProvider
  split
  · exact keycloak_updateClient_safe hg id hroles
  · exact safe_of_within hg (Footprint.internal_updateClient id hroles)

theorem applyDocuments_safe (hg : (grants w).At tid r g) {ds : List ClientDocument}
    (hroles : ∀ d ∈ ds, ∀ role ∈ d.spec.roles, role.privileged = false) :
    (grants w).Safe tid (fun _ _ => True) (applyDocuments (clientsProvider w) B ds) g := by
  have hgiven (g : AuthState) {d : ClientDocument} (hd : d ∈ ds) :
      RolesIn (Given g tid) d.spec.roles := fun role hrole hpriv => by
    rw [hroles d hd role hrole] at hpriv
    cases hpriv
  have hdocument {d : ClientDocument} (hd : d ∈ ds) {g : AuthState}
      (hg : (grants w).At tid r g) :
      (grants w).Safe tid (fun _ _ => True) (applyDocument (clientsProvider w) B d) g := by
    refine (safe_of_within (B := B) hg (Footprint.only_countBy _)).bind hg
      fun count g' _ hg' _ => ?_
    show (grants w).Safe tid _ (if count > 0 then applyExisting _ B d else applyNew _ B d) g'
    split
    · have hupdate : RolesIn (Given g' tid) (d.update.roles.getD []) := hgiven g' hd
      refine (provider_updateClient_safe hg' _ hupdate).bind hg' fun _ g'' _ hg'' _ => ?_
      exact safe_of_within hg'' (Footprint.only_applySecret (Footprint.provider_within w B _) d)
    · exact safe_of_within hg' (Footprint.only_applyNew (Footprint.provider_within w B _) d
        (hgiven g' hd))
  induction ds generalizing g with
  | nil => exact fun _ _ => trivial
  | cons d ds ih =>
    refine (hdocument List.mem_cons_self hg).bind hg fun _ g₁ _ hg₁ _ => ?_
    refine (safe_of_within (B := B) hg₁ (Footprint.only_ask _)).bind hg₁ fun _ g₂ _ hg₂ _ => ?_
    have hrest := ih hg₂ (fun d hd => hroles d (List.mem_cons_of_mem _ hd))
      (fun g _ hd => hgiven g (List.mem_cons_of_mem _ hd))
      fun hd _ hg => hdocument (List.mem_cons_of_mem _ hd) hg
    exact hrest.bind hg₂ fun _ _ _ _ _ => fun _ _ => trivial

theorem unprivileged_of_mayAssign {token : TokenPayload} (htoken : Role.tenants ∉ token.roles)
    {roles : List Role} (h : mayAssign token roles = true) :
    ∀ role ∈ roles, role.privileged = false := by
  have hcontains : token.roles.contains .tenants = false := by simpa using htoken
  simpa [mayAssign, hcontains, htoken] using h

theorem given_of_mayAssign {token : TokenPayload} (htoken : Role.tenants ∉ token.roles)
    {roles : List Role} (h : mayAssign token roles = true) (g : AuthState) (tid : Nat) :
    RolesIn (Given g tid) roles := by
  intro role hrole hpriv
  rw [unprivileged_of_mayAssign htoken h role hrole] at hpriv
  cases hpriv

/-- **Every management request is served safely.** -/
theorem managers_safe (w : AuthWorld) : (grants w).Verified := by
  intro g r _ hallowed hg
  cases r with
  | createClient token dto =>
    exact safe_of_within hg (Footprint.only_createClient (Footprint.provider_within w _ _) dto
      fun hmay => given_of_mayAssign hallowed hmay _ _)
  | updateClient token id dto =>
    refine Safe.ensure fun _ => ?_
    refine (safe_of_within (B := "") (p := requireTenantContext token) hg ?_).bind hg
      fun B g' _ hg' _ => ?_
    · exact (only_ensure _ _).bind fun _ => only_ret _
    · refine Safe.ensure fun hmay => ?_
      refine (provider_updateClient_safe hg' id (given_of_mayAssign hallowed hmay _ _)).bind hg'
        fun created g'' _ _ _ => ?_
      cases created <;> exact fun _ _ => trivial
  | rotateClientSecret token id =>
    have htoken : Role.tenants ∉ token.roles := hallowed
    exact safe_of_within hg (Footprint.only_rotateClientSecret (Footprint.provider_within w _ _)
      (by simpa using htoken) id)
  | deleteClient token id =>
    exact safe_of_within hg (Footprint.only_deleteClient (Footprint.provider_within w _ _) id)
  | createUser token dto =>
    exact safe_of_within hg (Footprint.only_createUser dto
      fun hmay => given_of_mayAssign hallowed hmay _ _)
  | updateUser token id dto =>
    exact safe_of_within hg (Footprint.only_patchUser id dto
      fun hmay => given_of_mayAssign hallowed hmay _ _)
  | deleteUser token id => exact safe_of_within hg (Footprint.only_deleteUser id)
  | importBundle token documents mode confirmReplace planFingerprint =>
    refine Safe.ensure fun _ => Safe.ensure fun hmay => ?_
    refine Safe.ensure fun _ => ?_
    refine (safe_of_within (B := "") (p := requireTenantContext token) hg ?_).bind hg
      fun B g₁ _ hg₁ _ => ?_
    · exact (only_ensure _ _).bind fun _ => only_ret _
    · refine Safe.ensure fun _ => ?_
      refine (safe_of_within (B := B) hg₁ (Footprint.only_ask _)).bind hg₁ fun plan g₂ _ hg₂ _ => ?_
      -- what the plan writes is among the documents whose roles were checked
      have hroles : ∀ d ∈ documents.filter fun d => plan.writes.contains d.resourceId,
          ∀ role ∈ d.spec.roles, role.privileged = false := fun d hd =>
        unprivileged_of_mayAssign hallowed
          (List.all_eq_true.mp hmay d (List.mem_filter.mp hd).1)
      refine (applyDocuments_safe hg₂ hroles).bind hg₂ fun _ g₃ _ hg₃ _ => ?_
      exact safe_of_within hg₃ ((Footprint.only_deletions (Footprint.provider_within w B _)
        _).bind fun _ => only_ret _)
  | createTenant token data => exact hallowed.elim
  | importForTenant tenantId => exact hallowed.elim
  | onApplicationBootstrap => exact hallowed.elim

theorem assignsNone_of_spares (hout : HandsOut g tid op) (hspares : SparesPrivileged w g tid op) :
    AssignsNone op := by
  intro name hname
  by_contra hpriv
  obtain ⟨r, hgiven, rfl⟩ := hout.roles name hname (by simpa using hpriv)
  have hr : r.privileged = true := by
    rw [← isPrivilegedName_text]
    simpa using hpriv
  obtain ⟨row, hread, hin⟩ := hgiven hr
  exact hspares.stored row hread r hin hr hname

/-- **No run gives one of the two roles to anyone.** -/
theorem backwards_run {c : AuthConfiguration} {ms : List (Move Unit ManagementRequest)}
    (h : (clientManagement w).Guarded (fun g tid op => HandsOut g tid op ∧
      SparesPrivileged w g tid op) c ms) :
    Backwards c.store ((clientManagement w).run c ms).store :=
  h.keeps (K := fun g => Backwards c.store g.store) (.refl _)
    (fun hok hK => hK.trans (backwards_answer (assignsNone_of_spares hok.1 hok.2)))
    (fun _ hK => hK) fun _ hK => hK

end PrivilegedRoles

open PrivilegedRoles

/-- **Client and user managers do not gain the two privileged roles**, nor the secrets of those
who hold them, in every run of theirs that spares privileged principals. -/
theorem managers_confined (w : AuthWorld) (st : AuthStore) (ms : AuthSchedule)
    (hmanagers : System.Arrivals ManagementRequest.byManager ms)
    (hspares : (clientManagement w).Guarded (SparesPrivileged w) (.start st) ms) :
    ManagersConfined w st ms := by
  have hadmits : (clientManagement w).Guarded (grants w).admits (.start st) ms :=
    System.guarded_of_forall (fun _ _ _ => trivial) (.start st) ms
  have hguard := (Discipline.run_guarded (managers_safe w)
    (Discipline.holds_start (D := grants w) (s := st) trivial) hmanagers hadmits).and hspares
  have hguard : (clientManagement w).Guarded (fun g tid op => HandsOut g tid op ∧
      SparesPrivileged w g tid op) (.start st) ms :=
    hguard.mono fun _ _ _ h => ⟨h.1.2, h.2⟩
  refine ⟨fun p role hrole hin => backwards_run hguard p role hrole hin, ?_⟩
  rintro ms₁ ms₂ t op p rfl hwait hgives
  obtain ⟨r, k, hget⟩ := System.waiting_eq_some hwait
  obtain ⟨hout, hspare⟩ := hguard.at hget
  have hnone := assignsNone_of_spares hout hspare
  have hgiven := given_unprivileged hnone hspare.target hgives hout.saves
  -- from the step on, the principal gains neither role
  have hrest := (System.guarded_append.mp hguard).2.2
  have hstore := congrArg Global.store (System.step_waiting (M := clientManagement w) hwait)
  rw [System.run_append]
  refine (backwards_run hrest).privileged ?_
  exact (congrArg (fun s : AuthStore => s.privileged p) hstore).trans hgiven

def sparesPrivileged (g : AuthState) (_ : Nat) : AuthCall → Bool
  | .clients (.update clientId tenant columns) =>
    !g.store.privileged (.client clientId) &&
      (AuthCall.clients (.update clientId tenant columns)).assigns.all (!isPrivilegedName ·)
  | .keycloak _ => false
  | op => op.assigns.all (!isPrivilegedName ·)

theorem sparesPrivileged_sound (w : AuthWorld) (g : AuthState) (tid : Nat) (op : AuthCall)
    (h : sparesPrivileged g tid op = true) : SparesPrivileged w g tid op := by
  have hassigns : op.assigns.all (!isPrivilegedName ·) = true := by
    rcases op with (_ | _ | _ | _ | _) | _ | _ | _ | _
    all_goals first
      | exact h
      | exact (Bool.and_eq_true_iff.mp h).2
      | cases h
  refine ⟨fun p hp hsave => ?_, fun row _ r _ hr hin => ?_⟩
  · rcases op with (_ | _ | _ | _ | _) | _ | _ | _ | _
    case clients.update clientId tenant columns =>
      obtain ⟨-, rfl, -⟩ := hp
      simpa using (Bool.and_eq_true_iff.mp h).1
    case clients.save clientId columns => exact absurd rfl (hsave clientId columns)
    case keycloak c => cases h
    all_goals exact hp.elim
  · have hnot := List.all_eq_true.mp hassigns _ hin
    rw [isPrivilegedName_text, hr] at hnot
    cases hnot

namespace PrivilegedRoles

def boss : ClientEntity := AuthDeployment.client "boss" "a" [.tenantAdmin]

def everyday : AuthSchedule :=
  AuthDeployment.serve 0 (.createClient (AuthDeployment.manager "a")
    { clientId := "shop", roles := [.issuanceOffer] }) 3 ++
  AuthDeployment.serve 1 (.rotateClientSecret (AuthDeployment.manager "a") "shop") 4

/-- A client manager rotates the secret of the tenant's administrator. -/
def promotion : AuthSchedule :=
  AuthDeployment.serve 0 (.rotateClientSecret (AuthDeployment.manager "a") "boss") 4

end PrivilegedRoles

/-- The condition can be met: a manager creates a client and rotates its secret. -/
theorem managers_confined_everyday :
    ManagersConfined (AuthDeployment.world false) (AuthDeployment.store boss) everyday := by
  refine managers_confined _ _ _ (fun r hr => ?_)
    (System.guarded_of_checks (sparesPrivileged_sound _) (by decide +kernel))
  simp only [everyday, AuthDeployment.serve, List.replicate, List.cons_append, List.nil_append,
    List.mem_cons, Move.arrive.injEq, reduceCtorEq, List.not_mem_nil, or_false, false_or] at hr
  rcases hr with rfl | rfl <;> exact (by decide : Role.tenants ∉ [Role.clients, Role.users])

/-- **A client manager learns the secret of an administrator**: rotating asks for no roles. -/
theorem not_managers_confined :
    ¬ManagersConfined (AuthDeployment.world false) (AuthDeployment.store boss) promotion := by
  intro h
  have hboss := h.unknown (promotion.take 4) [] 0 _ (.client "boss") rfl rfl
    ⟨rfl, rfl, boss, rfl, rfl⟩
  exact absurd hboss (by decide +kernel)

end Eudiplo
