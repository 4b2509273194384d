import Eudiplo.Auth.Deployment
import Eudiplo.Auth.Footprint
import Eudiplo.Concurrency.Evidence
import Eudiplo.Concurrency.Order

/-!
# Are API clients isolated between tenants?

The primary key of a client is its id alone, and `save` under an id that is taken updates the
row that has it.  `addClient`, the file import, and through them bundles and new tenants save
without looking at whose the id is: `not_clients_isolated` is a tenant that takes over the
client of another.  `rotateClientSecret` checks the tenant and then updates by id alone.

`clients_isolated` holds for every run in which each save and each secret rotation for a
tenant finds the id free or its own.
-/

namespace Eudiplo

open Concurrency Prog Storage

/-! ## The claim -/

/-- The client id belongs to another tenant than `B`, or to none. -/
def TakenElsewhere (s : AuthStore) (B clientId : String) : Prop :=
  ∃ row, s.clients.get clientId = some row ∧ row.tenantId ≠ some B

/-- A step from `s` to `s'` performed for tenant `B` leaves the clients of others alone. -/
structure LeavesOthers (B : String) (s s' : AuthStore) : Prop where
  foreign : ∀ k row, s.clients.get k = some row → row.tenantId ≠ some B →
    s'.clients.get k = some row
  created : ∀ k row, s.clients.get k = none → s'.clients.get k = some row →
    row.tenantId = some B

theorem LeavesOthers.refl (B : String) (s : AuthStore) : LeavesOthers B s s :=
  ⟨fun _ _ h _ => h, fun _ _ hnone hrow => (nomatch hnone.symm.trans hrow)⟩

/-- **Clients are isolated** along a run: no step of an operation for `B` touches the client
of another tenant or of none, and a creation that is answered saved its client while the id was
not taken elsewhere. -/
structure ClientsIsolated (w : AuthWorld) (st : AuthStore) (ms : AuthSchedule) : Prop where
  steps : ∀ ms₁ ms₂ t r B, ms = ms₁ ++ .resume t :: ms₂ →
    ((clientManagement w).run (.start st) ms₁).global.requests[t]? = some r →
    r.tenant? = some B → LeavesOthers B ((clientManagement w).run (.start st) ms₁).store
      ((clientManagement w).run (.start st) (ms₁ ++ [.resume t])).store
  refused : ∀ t token dto a B,
    ((clientManagement w).run (.start st) ms).Answers t (.createClient token dto) a →
    token.tenantId = some B → ∃ ms₁ ms₂ columns, ms = ms₁ ++ .resume t :: ms₂ ∧
      System.waiting ((clientManagement w).run (.start st) ms₁) t =
        some (.clients (.save dto.clientId columns)) ∧
      ¬TakenElsewhere ((clientManagement w).run (.start st) ms₁).store B dto.clientId

def AuthCall.writesById? : AuthCall → Option String
  | .clients (.save clientId _) => some clientId
  | .clients (.update clientId .any _) => some clientId
  | _ => none

/-- **The condition**: a save, and the update of a rotation, for tenant `B` finds the id free
or `B`'s own. -/
def FindsOwn (g : AuthState) (tid : Nat) (op : AuthCall) : Prop :=
  ∀ r B clientId, g.requests[tid]? = some r → r.tenant? = some B →
    op.writesById? = some clientId → ¬TakenElsewhere g.store B clientId

namespace ClientIsolation

variable {w : AuthWorld} {tid : Nat} {B : String}

/-! ## One step -/

theorem get_save (t : ClientTable) (clientId : String) (columns : ClientColumns) (k : String) :
    (ClientCall.answer t (.save clientId columns)).2.get k =
      if clientId = k then some (savedRow t clientId columns) else t.get k := by
  have hget := Table.get_upsert t (columns.row clientId) (·.with columns) (fun _ => rfl) k
  refine hget.trans ?_
  show (if clientId = k then _ else _) = _
  by_cases hk : clientId = k
  · subst hk
    rw [if_pos rfl, if_pos rfl]
    rfl
  · rw [if_neg hk, if_neg hk]

theorem leavesOthers_of_within {op : AuthCall} {s : AuthStore} (hin : Within B (fun _ => True) op)
    (hown : ∀ clientId, op.writesById? = some clientId → ¬TakenElsewhere s B clientId) :
    LeavesOthers B s (op.answer w s).2 := by
  by_cases hop : ∃ c, op = .clients c
  · obtain ⟨c, rfl⟩ := hop
    cases c with
    | findOne clientId tenant =>
      exact ⟨fun _ _ h _ => h, fun _ _ hnone hrow => (nomatch hnone.symm.trans hrow)⟩
    | countBy clientId tenantId =>
      exact ⟨fun _ _ h _ => h, fun _ _ hnone hrow => (nomatch hnone.symm.trans hrow)⟩
    | save clientId columns =>
      have hget (k : String) :
          ((AuthCall.clients (.save clientId columns)).answer w s).2.clients.get
          k = _ := get_save s.clients clientId columns k
      refine ⟨fun k row hrow hforeign => ?_, fun k row hnone hrow => ?_⟩
      · rw [hget, if_neg]
        · exact hrow
        · -- a foreign row of this name would make the name taken
          rintro rfl
          exact hown clientId rfl ⟨row, hrow, hforeign⟩
      · rw [hget] at hrow
        split at hrow
        · rename_i hk
          subst hk
          cases hrow
          rw [savedRow, hnone]
          exact hin.1
        · rw [hnone] at hrow
          cases hrow
    | update clientId tenant columns =>
      have hget (k : String) : ((AuthCall.clients (.update clientId tenant columns)).answer w
          s).2.clients.get k = (s.clients.get k).map _ :=
        Table.get_updateWhere s.clients _ (·.with columns) (fun _ => rfl) k
      refine ⟨fun k row hrow hforeign => ?_, fun k row hnone hrow => ?_⟩
      · rw [hget, hrow, Option.map_some, if_neg]
        intro hsel
        simp only [selectsClient, Bool.and_eq_true, beq_iff_eq] at hsel
        -- without a tenant in the filter the name decides, with one the tenant
        rcases hin.1 with rfl | rfl
        · have hk := Table.get_key hrow
          exact hown clientId rfl ⟨row, by rw [← hsel.1, hk]; exact hrow, hforeign⟩
        · exact hforeign (by simpa [TenantFilter.selects] using hsel.2)
      · rw [hget, hnone] at hrow
        cases hrow
    | delete clientId tenantId =>
      have hget (k : String) : ((AuthCall.clients (.delete clientId tenantId)).answer w
          s).2.clients.get k = _ := Table.get_deleteWhere s.clients _ k
      refine ⟨fun k row hrow hforeign => ?_, fun k row hnone hrow => ?_⟩
      · rw [hget, hrow, Option.filter_some, if_pos]
        have htenant : tenantId = B := hin
        simp [selectsClient, TenantFilter.selects, htenant, hforeign]
      · rw [hget, hnone] at hrow
        cases hrow
  · have hframe : (op.answer w s).2.clients = s.clients := by
      cases op with
      | clients c => exact absurd ⟨c, rfl⟩ hop
      | keycloak c =>
        cases c <;> try rfl
        all_goals
          simp only [AuthCall.answer, KeycloakCall.answer]
          split <;> rfl
      | _ => rfl
    refine ⟨fun k row hrow _ => hframe ▸ hrow, fun k row hnone hrow => ?_⟩
    rw [hframe, hnone] at hrow
    cases hrow

/-! ## Creations -/

/-- Thread `t` has saved a client under this id. -/
def Saved (g : AuthState) (t : Nat) (clientId : String) : Prop :=
  ∃ columns entity, g.Made t (.clients (.save clientId columns)) entity

theorem addClient_yields (w : AuthWorld) (t : Nat) (B : String) (dto : CreateClient)
    (g : AuthState) : (clientManagement w).Yields t (fun g' _ => Saved g' t dto.clientId)
      ((clientsProvider w).addClient B dto) g := by
  have hsave {g : AuthState} (columns : ClientColumns) :
      (clientManagement w).Yields t (fun g' _ => Saved g' t dto.clientId)
        (clientRepo (.save dto.clientId columns)) g := by
    have hmade : (clientManagement w).Yields t
        (fun g' a => g'.Made t (.clients (.save dto.clientId columns)) a)
        (clientRepo (.save dto.clientId columns)) g := System.yields_invoke _
    exact hmade.imp fun entity _ _ h => ⟨columns, entity, h⟩
  have hret {g : AuthState} {created : CreatedClient} (h : Saved g t dto.clientId) :
      (clientManagement w).Yields t (fun g' _ => Saved g' t dto.clientId)
        (ret created : AuthProg CreatedClient) g := by
    obtain ⟨columns, entity, hmade⟩ := h
    exact fun g' hext => ⟨columns, entity, hmade.extends hext⟩
  unfold clientsProvider
  split
  · refine System.Yields.skip fun ⟨id, createdNow⟩ _ _ => .skip fun _ _ _ => .skip fun _ _ _ => ?_
    refine .skip fun _ _ _ => .skip fun _ _ _ => .skip fun _ _ _ => ?_
    exact (hsave _).bind fun _ _ _ h => hret h
  · refine System.Yields.skip fun _ _ _ => .skip fun _ _ _ => ?_
    exact (hsave _).bind fun _ _ _ h => hret h

def CreationSaved (t : Nat) : ManagementRequest → AuthState → ManagementAnswer → Prop
  | .createClient _ dto, g, _ => Saved g t dto.clientId
  | _, _, _ => True

theorem creation_yields (w : AuthWorld) (t : Nat) (r : ManagementRequest) (g : AuthState) :
    (clientManagement w).Yields t (CreationSaved t r) (r.program w) g := by
  cases r with
  | createClient token dto =>
    refine System.Yields.skip fun _ _ _ => .skip fun tenantId _ _ => .skip fun _ _ _ => ?_
    refine (addClient_yields w t tenantId dto _).bind fun created g' _ hsaved => ?_
    obtain ⟨columns, entity, hmade⟩ := hsaved
    exact fun g'' hext => ⟨columns, entity, hmade.extends hext⟩
  | _ => exact System.yields_true _

end ClientIsolation

open ClientIsolation

/-- **API clients are isolated between tenants** in every run in which whoever saves a client or
updates a secret for a tenant finds the id free or that tenant's own. -/
theorem clients_isolated (w : AuthWorld) (st : AuthStore) (ms : AuthSchedule)
    (hown : (clientManagement w).Guarded FindsOwn (.start st) ms) : ClientsIsolated w st ms := by
  have hfoot (r : ManagementRequest) :
      (r.program w).Only fun op => ∀ B, r.tenant? = some B → Within B (fun _ => True) op := by
    cases hr : r.tenant? with
    | none => exact (only_true _).mono fun _ _ _ h => nomatch h
    | some B =>
      refine (Footprint.only_program w (fun _ => trivial) hr).mono fun op hop B' hB' => ?_
      cases hB'
      exact hop
  refine ⟨fun ms₁ ms₂ t r B hms hreq hr => ?_, fun t token dto a B hans hB => ?_⟩
  · rw [System.run_append]
    rcases System.step_resume_cases (M := clientManagement w)
      ((clientManagement w).run (.start st) ms₁) t with hidle | ⟨r', op, k, hget, hglob, -⟩
    · show LeavesOthers B _ ((clientManagement w).step _ (.resume t)).store
      rw [hidle]
      exact .refl B _
    · -- the thread takes a call within its footprint
      have hr' : r' = r := Option.some.inj ((Config.global_request hget).symm.trans hreq)
      subst hr'
      have honly := (System.Footed.run hfoot (System.footed_start _ st) ms₁ t _ hget).1 B hr
      have hown := (hms ▸ hown).at hget
      have hstore := congrArg Global.store hglob
      refine cast (congrArg (LeavesOthers B _) hstore.symm) (leavesOthers_of_within honly ?_)
      exact fun clientId hop => hown r' B clientId hreq hr hop
  · obtain ⟨columns, entity, hmade⟩ := System.run_yields (Q := CreationSaved)
      (fun t r g => creation_yields w t r g) hans
    obtain ⟨ms₁, ms₂, r, k, rfl, hget, -⟩ := System.run_event hmade List.not_mem_nil
    have hreq := Config.global_request hget
    have hext := System.extends_run (M := clientManagement w)
      ((clientManagement w).run (.start st) ms₁) (.resume t :: ms₂)
    rw [← System.run_append] at hext
    obtain rfl : r = .createClient token dto :=
      Option.some.inj ((hext.request hreq).symm.trans (Config.global_request hans))
    have hwait : System.waiting ((clientManagement w).run (.start st) ms₁) t =
        some (.clients (.save dto.clientId columns)) := by
      rw [System.waiting, hget]
    exact ⟨ms₁, ms₂, columns, rfl, hwait, hown.at hget _ B _ hreq hB rfl⟩

def findsOwn (g : AuthState) (tid : Nat) (op : AuthCall) : Bool :=
  match g.requests[tid]?.bind ManagementRequest.tenant?, op.writesById? with
  | some B, some clientId => (g.store.clients.get clientId).all (·.tenantId == some B)
  | _, _ => true

theorem findsOwn_sound (g : AuthState) (tid : Nat) (op : AuthCall)
    (h : findsOwn g tid op = true) : FindsOwn g tid op := by
  rintro r B clientId hreq hr hop ⟨row, hrow, hforeign⟩
  rw [findsOwn, hreq, Option.bind_some, hr, hop] at h
  simp only [hrow, Option.all_some, beq_iff_eq] at h
  exact hforeign h

namespace ClientIsolation

/-- Tenant `a` has the client `acme`. -/
def acme : ClientEntity := AuthDeployment.client "acme" "a" [.issuanceOffer]

/-- Tenant `a` updates its client, and tenant `b` creates one of its own. -/
def apart : AuthSchedule :=
  AuthDeployment.serve 0 (.updateClient (AuthDeployment.manager "a") "acme"
    { roles := some [.issuances] }) 1 ++
  AuthDeployment.serve 1 (.createClient (AuthDeployment.manager "b")
    { clientId := "shop", roles := [.issuanceOffer] }) 3

/-- Tenant `b` creates a client under the id of tenant `a`'s. -/
def takeover : AuthSchedule :=
  AuthDeployment.serve 0 (.createClient (AuthDeployment.manager "b")
    { clientId := "acme", roles := [.issuanceOffer] }) 3

end ClientIsolation

/-- The condition can be met: two tenants manage their clients. -/
theorem clients_isolated_apart :
    ClientsIsolated (AuthDeployment.world false) (AuthDeployment.store acme) apart :=
  clients_isolated _ _ _ (System.guarded_of_checks findsOwn_sound (by decide +kernel))

/-- **A tenant takes over the client of another**: the row of `acme` gets the secret, the roles
and the tenant of the creation. -/
theorem not_clients_isolated :
    ¬ClientsIsolated (AuthDeployment.world false) (AuthDeployment.store acme) takeover := by
  intro h
  have hsteps := h.steps (takeover.take 3) [] 0 _ "b" rfl rfl rfl
  have hrow := hsteps.foreign "acme" acme rfl (by decide)
  exact absurd hrow (by decide +kernel)

end Eudiplo
