import Eudiplo.Concurrency.Embed
import Eudiplo.Auth.Deployment
import Eudiplo.Auth.Footprint
import Eudiplo.Concurrency.Replay

/-!
# Tokens of clients and the offers made with them

`AuthService.getOAuth2Token`, `JwtStrategy.validate`, and the checks with which the two offer
controllers start.  A token carries the client id, the tenant and the roles it was issued with;
the lists of configurations the client may use are loaded anew for every call.

The signature and the expiry of a token are checked before: a request comes with its payload.
-/

namespace Eudiplo

open Concurrency Prog

/-- The payload of a token; `oidcSub` is the claim that `OIDC_SUB` names. -/
structure InternalTokenPayload where
  tenant_id : Option String := none
  sub : Option String := none
  azp : Option String := none
  client_id : Option String := none
  oidcSub : Option String := none
  roles : Option (List Role) := none
  /-- `realm_access.roles` -/
  realmRoles : Option (List Role) := none
  deriving DecidableEq

inductive OfferBody where
  | presentation (requestId : String)
  | issuance (credentialConfigurationIds : List String)
  deriving DecidableEq

def OfferBody.configurations : OfferBody → List String
  | .presentation requestId => [requestId]
  | .issuance credentialConfigurationIds => credentialConfigurationIds

/-- `TokenPayload`, with the client it carries. -/
structure OfferUser extends TokenPayload where
  client : Option ClientEntity

/-! ## Calls -/

inductive OfferOp where
  | management (c : AuthCall)
  | getTenant (id : Option String)
  | getClientById (clientId : String)
  /-- `bcrypt.compare`. -/
  | compare (secret hash : String)
  | createOffer (tenantId : String) (body : OfferBody)

abbrev OfferOp.Result : OfferOp → Type
  | .management c => c.Result
  | .getTenant _ => Except AuthError String
  | .getClientById _ => Except AuthError (Option ClientEntity)
  | .compare .. => Bool
  | .createOffer .. => Except AuthError Unit

abbrev OfferProg := Prog OfferOp.Result AuthError

/-- The deployment: the management endpoints, the tenants, which look-ups of clients fail, and
what becomes of an offer. -/
structure OfferWorld where
  auth : AuthWorld
  getTenant : Nat → Option String → Except AuthError String
  lookup : Nat → Except AuthError Unit
  compare : (secret hash : String) → Bool
  createOffer : Nat → (tenantId : String) → OfferBody → Except AuthError Unit

/-- The store of the management endpoints, and how many calls were answered. -/
structure OfferStore where
  auth : AuthStore
  answered : Nat := 0

/-- **One answered call.** -/
def OfferOp.answer (w : OfferWorld) : (op : OfferOp) → OfferStore → op.Result × OfferStore
  | .management c, s => ((c.answer w.auth s.auth).1, { s with auth := (c.answer w.auth s.auth).2 })
  | .getTenant id, s => (w.getTenant s.answered id, { s with answered := s.answered + 1 })
  | .getClientById clientId, s =>
    ((w.lookup s.answered).map fun _ => s.auth.clients.get clientId,
      { s with answered := s.answered + 1 })
  | .compare secret hash, s => (w.compare secret hash, s)
  | .createOffer tenantId body, s =>
    (w.createOffer s.answered tenantId body, { s with answered := s.answered + 1 })

def ofManagement {α : Type} (p : AuthProg α) : OfferProg α :=
  p.embed OfferOp.management fun _ r => r

/-! ## `AuthService` -/

def validateClientCredentials (clientId clientSecret : String) :
    OfferProg (Option ClientEntity) := do
  match ← ofManagement (clientRepo (.findOne clientId .any)) with
  | none => return none
  | some client =>
    if truthy client.secret then do
      let isValid ← invoke (OfferOp.compare clientSecret (client.secret.getD ""))
      return if isValid then some client else none
    else return none

/-- `getOAuth2Token`, with the credentials it extracts: access and refresh token have one
payload. -/
def getOAuth2Token (w : OfferWorld) (clientId clientSecret : String) :
    OfferProg InternalTokenPayload := do
  ensure (!w.auth.oidc) (.other ("OAuth2 token endpoint is not available when using external " ++
    "OIDC provider. Use your external OIDC provider for authentication."))
  ensure (truthy (some clientId) && truthy (some clientSecret)) (.other
    ("Client credentials must be provided either in Authorization header (Basic auth) or " ++
      "request body"))
  let validated ← validateClientCredentials clientId clientSecret
  let client ← getOrFail (.other "Invalid client credentials") validated
  return { roles := some client.roles, tenant_id := client.tenantId, sub := some clientId }

/-! ## `JwtStrategy` -/

def InternalTokenPayload.tenant (w : OfferWorld) (payload : InternalTokenPayload) :
    Option String := if w.auth.oidc then payload.oidcSub else payload.tenant_id

def InternalTokenPayload.clientId (payload : InternalTokenPayload) : Option String :=
  orElse (orElse payload.azp payload.client_id) payload.sub

def loadClient (clientId : Option String) : OfferProg (Option ClientEntity) :=
  if truthy clientId then do
    let loaded ← invoke (OfferOp.getClientById (clientId.getD ""))
    return loaded.toOption.join
  else ret none

/-- **`validate`.** -/
def validate (w : OfferWorld) (payload : InternalTokenPayload) : OfferProg OfferUser := do
  let tenant ← invoke (OfferOp.getTenant (payload.tenant w))
  let client ← loadClient payload.clientId
  return { tenantId := tenant.toOption
           roles := (payload.roles.or payload.realmRoles).getD []
           client }

/-! ## The offer controllers -/

def OfferBody.required : OfferBody → List Role
  | .presentation _ => [.presentationRequest, .presentations]
  | .issuance _ => [.issuanceOffer]

def OfferBody.allowed (body : OfferBody) (client : ClientEntity) : Option (List String) :=
  match body with
  | .presentation _ => client.allowedPresentationConfigs
  | .issuance _ => client.allowedIssuanceConfigs

def unauthorized (body : OfferBody) (client : Option ClientEntity) : List String :=
  match client.bind body.allowed with
  | none | some [] => []
  | some allowed => body.configurations.filter fun id => !allowed.contains id

def unauthorizedMessage (body : OfferBody) (ids : List String) : String :=
  match body with
  | .presentation requestId =>
    "Client is not authorized to use presentation config: " ++ requestId
  | .issuance _ =>
    "Client is not authorized to use issuance config(s): " ++ ", ".intercalate ids

/-- **`getOffer`** of `VerifierOfferController` and of `CredentialOfferController`, behind the
guards. -/
def getOffer (w : OfferWorld) (payload : InternalTokenPayload) (body : OfferBody) :
    OfferProg Unit := do
  let user ← validate w payload
  ensure (body.required.any user.roles.contains) (.forbidden "Forbidden resource")
  ensure (unauthorized body user.client).isEmpty
    (.forbidden (unauthorizedMessage body (unauthorized body user.client)))
  let tenantId ← getOrFail (.other "Cannot read properties of undefined (reading 'id')")
    user.tenantId
  let created ← invoke (OfferOp.createOffer tenantId body)
  ofExcept created

/-! ## The system -/

inductive OfferEndpoint where
  | management (r : ManagementRequest)
  | token (clientId clientSecret : String)
  | offer (payload : InternalTokenPayload) (body : OfferBody)

inductive OfferAnswer where
  | management (a : ManagementAnswer)
  | token (payload : InternalTokenPayload)
  | created
  deriving DecidableEq

def OfferEndpoint.program (w : OfferWorld) : OfferEndpoint → OfferProg OfferAnswer
  | .management r => (ofManagement (r.program w.auth)).bind fun a => ret (.management a)
  | .token clientId clientSecret =>
    (getOAuth2Token w clientId clientSecret).bind fun payload => ret (.token payload)
  | .offer payload body => (getOffer w payload body).bind fun _ => ret .created

/-- **Clients, their tokens and their offers**, under any number of requests. -/
def offerEndpoints (w : OfferWorld) :
    System OfferOp.Result OfferStore Unit OfferEndpoint AuthError OfferAnswer where
  answer := OfferOp.answer w
  drift _ s := s
  program := OfferEndpoint.program w

end Eudiplo

/-!
# Do restricted clients stay restricted?

A token names its client, and every call loads that client's lists again.  A client that is
gone, or that could not be loaded, has no lists, which is what a client without restrictions
has; and the client is loaded by its id, whose row may be another tenant's by then.
`not_clients_restricted` deletes a restricted client and keeps using its token.

`clients_restricted` holds for every run in which whoever creates an offer has loaded a client
that is still stored for the tenant of the token, with a list that admits no less.
-/

namespace Eudiplo

open Concurrency Prog Storage

abbrev OfferState := Global OfferOp.Result OfferStore OfferEndpoint

abbrev OfferSchedule := List (Move Unit OfferEndpoint)

/-! ## The claim -/

/-- **An allow-list admits a configuration**: a missing or empty one admits all. -/
def Admits : Option (List String) → String → Prop
  | none, _ | some [], _ => True
  | some allowed, id => id ∈ allowed

/-- Thread `u` creates this offer next, with a token of client `c` of tenant `t`. -/
structure CreatesOffer (w : OfferWorld) (ms : OfferSchedule) (st : OfferStore) (u : Nat)
    (c t : String) (body : OfferBody) : Prop where
  request : ∃ payload, payload.clientId = some c ∧ payload.tenant w = some t ∧
    ((offerEndpoints w).run (.start st) ms).global.requests[u]? = some (.offer payload body)
  waits : ∃ tenantId, System.waiting ((offerEndpoints w).run (.start st) ms) u =
    some (.createOffer tenantId body)

/-- **Restricted clients stay restricted** along a run: an offer that is created with a token of
client `c` of tenant `t` names what the lists of the stored client `(t, c)` admit at that moment,
and its client was loaded. -/
def ClientsRestricted (w : OfferWorld) (st : OfferStore) (ms : OfferSchedule) : Prop :=
  ∀ ms₁ ms₂ u c t body, ms = ms₁ ++ .resume u :: ms₂ → CreatesOffer w ms₁ st u c t body →
    (∃ loaded, ((offerEndpoints w).run (.start st) ms₁).global.Made u (.getClientById c)
      (.ok (some loaded))) ∧
    ∃ row, ((offerEndpoints w).run (.start st) ms₁).store.auth.clients.get c = some row ∧
      row.tenantId = some t ∧ ∀ id ∈ body.configurations, Admits (body.allowed row) id

/-- **The condition**: who creates an offer has loaded a client that is still stored for the
tenant of the token, and whose list admits what the loaded one admits. -/
def KeepsRestrictions (w : OfferWorld) (g : OfferState) (u : Nat) : OfferOp → Prop
  | .createOffer _ body => ∀ payload, g.requests[u]? = some (.offer payload body) →
    ∀ c t, payload.clientId = some c → payload.tenant w = some t →
      ∃ loaded row, g.Made u (.getClientById c) (.ok (some loaded)) ∧
        g.store.auth.clients.get c = some row ∧ row.tenantId = some t ∧
        ∀ id, Admits (body.allowed loaded) id → Admits (body.allowed row) id
  | _ => True

/-! ## The check -/

theorem admits_of_unauthorized {body : OfferBody} {client : ClientEntity}
    (h : (unauthorized body (some client)).isEmpty = true) :
    ∀ id ∈ body.configurations, Admits (body.allowed client) id := by
  intro id hid
  rw [unauthorized, Option.bind_some] at h
  cases hallowed : body.allowed client with
  | none => trivial
  | some allowed =>
    cases allowed with
    | nil => trivial
    | cons a as =>
      rw [hallowed] at h
      have hnone := List.filter_eq_nil_iff.mp (List.isEmpty_iff.mp h) id hid
      show id ∈ a :: as
      simpa only [Bool.not_eq_true', Bool.not_eq_false, List.contains_iff_mem] using hnone

/-! ## The handlers -/

variable {w : OfferWorld} {es : List (Event OfferOp.Result)}

theorem ran_loadClient {c : String} {client : Option ClientEntity} {u : Nat} {row : ClientEntity}
    (h : (loadClient (some c)).Ran es (.ret client))
    (hrow : (⟨u, .getClientById c, .ok (some row)⟩ : Event OfferOp.Result) ∈ es) :
    client = some row := by
  unfold loadClient at h
  split at h
  · obtain ⟨answer, es₁, none₁, rfl, hcall, hret⟩ := Ran.returned h
    obtain ⟨t, rfl⟩ := hcall.of_invoke
    obtain ⟨rfl, hret⟩ := hret.of_ret
    cases hret
    cases List.mem_singleton.mp hrow
    rfl
  · obtain ⟨rfl, -⟩ := h.of_ret
    exact (List.not_mem_nil hrow).elim

def OfferOp.Prepares : OfferOp → Prop
  | .createOffer .. => False
  | _ => True

theorem loadClient_prepares (clientId : Option String) :
    (loadClient clientId).Only OfferOp.Prepares := by
  unfold loadClient
  split
  · exact Only.await trivial fun _ => trivial
  · trivial

theorem validate_prepares (payload : InternalTokenPayload) :
    (validate w payload).Only OfferOp.Prepares :=
  Only.await trivial fun _ => (loadClient_prepares _).bind fun _ => trivial

theorem ran_validate {payload : InternalTokenPayload} {user : OfferUser} {c : String} {u : Nat}
    {row : ClientEntity} (h : (validate w payload).Ran es (.ret user))
    (hc : payload.clientId = some c)
    (hrow : (⟨u, .getClientById c, .ok (some row)⟩ : Event OfferOp.Result) ∈ es) :
    user.client = some row := by
  obtain ⟨tenant, es₁, rest₁, rfl, htenant, h₁⟩ := Ran.returned h
  obtain ⟨t₁, rfl⟩ := htenant.of_invoke
  obtain ⟨client, es₂, none₂, rfl, hclient, hret⟩ := Ran.returned h₁
  obtain ⟨rfl, hret⟩ := hret.of_ret
  cases hret
  rw [hc] at hclient
  simp only [List.append_nil, List.cons_append, List.nil_append, List.mem_cons] at hrow
  rcases hrow with heq | hrow
  · cases congrArg Event.op heq
  · exact ran_loadClient hclient hrow

/-- **An offer that is about to be created** passed the check with the client that was loaded. -/
theorem ran_getOffer {payload : InternalTokenPayload} {body body' : OfferBody} {tenantId : String}
    {k : OfferOp.Result (.createOffer tenantId body') → OfferProg Unit}
    (h : (getOffer w payload body).Ran es (.call (.createOffer tenantId body') k)) :
    ∃ user es₁ es₂, es = es₁ ++ es₂ ∧ (validate w payload).Ran es₁ (.ret user) ∧
      (unauthorized body user.client).isEmpty = true ∧ ∀ e ∈ es₂, ∃ tenantId,
        e.op = .createOffer tenantId body := by
  obtain ⟨user, es₁, es₂, rfl, hvalid, h₁⟩ := Ran.past h (validate_prepares payload) id
  rcases h₁.of_ensure with ⟨-, h₂⟩ | ⟨-, hq⟩
  · rcases h₂.of_ensure with ⟨hcheck, h₃⟩ | ⟨-, hq⟩
    · refine ⟨user, es₁, es₂, rfl, hvalid, hcheck, ?_⟩
      -- nothing but the creation is called from here on
      refine h₃.only (P := fun op => ∃ tenantId, op = .createOffer tenantId body) ?_
      exact Only.require fun tenantId _ => Only.await ⟨tenantId, rfl⟩ fun _ => only_ofExcept _
    · cases hq
  · cases hq

/-- **The check of a thread that creates an offer**: the client it loaded admits the request. -/
theorem CreatesOffer.admitted {ms : OfferSchedule} {st : OfferStore} {u : Nat} {c t : String}
    {body : OfferBody} (h : CreatesOffer w ms st u c t body) {loaded : ClientEntity}
    (hloaded : ((offerEndpoints w).run (.start st) ms).global.Made u (.getClientById c)
      (.ok (some loaded))) :
    ∀ id ∈ body.configurations, Admits (body.allowed loaded) id := by
  obtain ⟨payload, hc, -, hreq⟩ := h.request
  obtain ⟨tenantId, hwaits⟩ := h.waits
  obtain ⟨r, k, hget⟩ := System.waiting_eq_some hwaits
  obtain rfl : r = .offer payload body :=
    Option.some.inj ((Config.global_request hget).symm.trans hreq)
  have hran := (System.replays_run st ms).ran u _ hget
  obtain ⟨p', hgot, hq⟩ := Ran.of_map hran
  cases p' with
  | ret a => cases hq
  | fail e => cases hq
  | call op k' =>
    cases hq
    obtain ⟨user, es₁, es₂, hes, hvalid, hcheck, hrest⟩ := ran_getOffer hgot
    have hmem := made_iff_eventsOf.mp hloaded
    rw [hes] at hmem
    have hclient : user.client = some loaded := by
      rcases List.mem_append.mp hmem with hfirst | hlast
      · exact ran_validate hvalid hc hfirst
      · obtain ⟨_, hop⟩ := hrest _ hlast
        cases hop
    rw [hclient] at hcheck
    exact admits_of_unauthorized hcheck

/-! ## The runs -/

/-- The condition, evaluated: the stored list has what the loaded one has, or is empty. -/
def keepsRestrictions (w : OfferWorld) (g : OfferState) (u : Nat) (op : OfferOp) : Bool :=
  match op, g.requests[u]? with
  | .createOffer _ body, some (.offer payload _) =>
    match payload.clientId, payload.tenant w with
    | some c, some t => g.trace.any fun e => e.tid == u && match e with
      | ⟨_, .getClientById c', .ok (some loaded)⟩ => c' == c &&
        (g.store.auth.clients.get c).any fun row =>
          row.tenantId == some t && body.allowed row == body.allowed loaded
      | _ => false
    | _, _ => true
  | _, _ => true

theorem keepsRestrictions_sound (w : OfferWorld) (g : OfferState) (u : Nat) (op : OfferOp)
    (h : keepsRestrictions w g u op = true) : KeepsRestrictions w g u op := by
  cases op with
  | createOffer tenantId body =>
    intro payload hreq c t hc ht
    simp only [keepsRestrictions, hreq, hc, ht] at h
    obtain ⟨e, he, hcheck⟩ := List.any_eq_true.mp h
    obtain ⟨htid, hcheck⟩ := Bool.and_eq_true_iff.mp hcheck
    split at hcheck
    · rename_i tid loaded_id loaded _
      obtain ⟨hid, hcheck⟩ := Bool.and_eq_true_iff.mp hcheck
      obtain ⟨row, hrow, hsame⟩ := (Option.any_eq_true _ _).mp hcheck
      obtain ⟨htenant, hlist⟩ := Bool.and_eq_true_iff.mp hsame
      have htid : tid = u := eq_of_beq htid
      have hid : loaded_id = c := eq_of_beq hid
      subst htid
      subst hid
      refine ⟨loaded, row, he, hrow, eq_of_beq htenant, fun id hid => ?_⟩
      rwa [eq_of_beq hlist]
    · cases hcheck
  | _ => trivial

namespace RestrictedClients

/-- A world with the tenants `a` and `b`, in which every look-up succeeds. -/
def world : OfferWorld where
  auth := AuthDeployment.world false
  getTenant _ id := match id with
    | some "a" => .ok "a"
    | some "b" => .ok "b"
    | _ => .error .entityNotFound
  lookup _ := .ok ()
  compare secret hash := hash == "hash of " ++ secret
  createOffer _ _ _ := .ok ()

/-- The client `shop` of tenant `a` may request the presentation `age` only. -/
def shop : ClientEntity :=
  { AuthDeployment.client "shop" "a" [.presentationRequest] with
    allowedPresentationConfigs := some ["age"] }

def store : OfferStore := { auth := AuthDeployment.store shop }

/-- The token `shop` gets. -/
def token : InternalTokenPayload :=
  { tenant_id := some "a", sub := some "shop", roles := some [.presentationRequest] }

/-- A request arrives as thread `t` and takes `n` calls. -/
def serve (t : Nat) (r : OfferEndpoint) (n : Nat) : OfferSchedule :=
  .arrive r :: List.replicate n (.resume t)

/-- `shop` gets a token, and requests the presentation it may request. -/
def inBounds : OfferSchedule :=
  serve 0 (.token "shop" "secret") 2 ++ serve 1 (.offer token (.presentation "age")) 3

/-- `shop` gets a token, is deleted, and requests another presentation. -/
def deletedMeanwhile : OfferSchedule :=
  serve 0 (.token "shop" "secret") 2 ++
  serve 1 (.management (.deleteClient (AuthDeployment.manager "a") "shop")) 1 ++
  serve 2 (.offer token (.presentation "passport")) 3

end RestrictedClients

open RestrictedClients

end Eudiplo
