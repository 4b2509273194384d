import Eudiplo.Backend.Calls

/-!
# The store and how it answers

`Store` is everything handlers share: the clock, the three tables, and two counters
that make randomness and the outside deterministic functions of the run.

`World` is what a run does not determine: the random values, in the order they are drawn, and what
code outside the model answers, as a function of how often it was asked.  Random values are
pairwise different, which is all that is assumed of them.
-/

namespace Eudiplo

open Storage

abbrev SessionTable := Table Session.id

abbrev InteractiveTable := Table InteractiveAuthSession.id

abbrev ChainedTable := Table ChainedAsSession.id

structure Store where
  clock : Time
  draws : Nat
  consults : Nat
  sessions : SessionTable
  interactive : InteractiveTable
  chained : ChainedTable

/-- **The outside**: random values, pure library functions, and the answers to questions
by the number of questions asked before. -/
structure World where
  publicUrl : String
  random : Nat → String
  random_injective : Function.Injective random
  /-- `base64url(sha256(·))`. -/
  s256 : String → String
  parseJson : String → Option Json
  /-- `decodeJwt(jwt).sub`. -/
  jwtSubject : String → Option String
  /-- The thumbprint of `decodeJwt(jwt).cnf.jwk`. -/
  jwtKeyThumbprint : String → Option String
  parseAccessTokenRequest :
    AccessTokenBody → RequestLike → Except LibraryError ParsedAccessTokenRequest
  parseAuthorizationResponse : String → Option AuthorizationResponse
  answer : Nat → (q : Question) → Except ApiError q.Payload

/-! ## The session repository -/

/-- `typeWhere`: the rows of one session type. -/
def typeWhere (type : Option SessionType) (s : Session) : Bool :=
  match type with
  | some .issuance => s.requestId.isNone
  | some .presentation => s.requestId.isSome
  | none => true

/-- The condition `{ tenantId, id }`. -/
def ofTenant (tenantId id : String) (s : Session) : Bool :=
  s.tenantId == tenantId && s.id == id

/-- The condition of `updateUnconsumedForTenant`: open, not consumed and not expired. -/
def unconsumed (now : Time) (s : Session) : Bool :=
  !s.consumed && !isTerminalStatus s.status && s.expiresAt.all (now < ·)

/-- The condition of `findExpiredSessionsForMaintenance`: presentation requests that are
open, and issuance offers that are active and not redeemed. -/
def expiredForMaintenance (before : Time) (s : Session) : Bool :=
  s.expiresAt.any (· < before) &&
    ((s.requestId.isSome && !isTerminalStatus s.status) ||
      (s.requestId.isNone && s.status == .active && !s.consumed))

/-- Has the row anything to anonymize? -/
def Session.hasPersonalData (s : Session) : Bool :=
  s.credentials.isSome || s.credentialPayload.isSome || s.auth_queries.isSome ||
    s.offer.isSome || s.requestObject.isSome || s.responseEncryptionPrivateJwk.isSome

def Session.anonymize (s : Session) : Session :=
  { s with
    credentials := none
    credentialPayload := none
    auth_queries := none
    offer := none
    requestObject := none
    responseEncryptionPrivateJwk := none }

/-- One more failed `tx_code` attempt. -/
def Session.countFailedTxCode (s : Session) : Session :=
  { s with txCodeFailedAttempts := s.txCodeFailedAttempts + 1 }

/-- A row a `create` inserts: the given columns over the defaults. -/
def newSession (id tenantId : String) (createdAt : Time) (u : SessionUpdate) : Session :=
  ({ id, tenantId, createdAt } : Session).apply u

/-- A row a `create` merges into: columns that are not given stay. -/
def mergeSession (tenantId : String) (u : SessionUpdate) (s : Session) : Session :=
  { s.apply u with tenantId }

/-- Update the rows of `t` matching `p`. -/
def updateRows (t : SessionTable) (p : Session → Bool) (u : SessionUpdate) : SessionTable :=
  t.updateWhere p (·.apply u) fun _ => rfl

def SessionCall.effect (clock : Time) (t : SessionTable) : SessionCall → SessionTable
  | .create id tenantId u =>
    t.upsert (newSession id tenantId clock u) (mergeSession tenantId u) fun _ => rfl
  | .updateForTenant tenantId id u => updateRows t (ofTenant tenantId id) u
  | .updateUnconsumedForTenant tenantId id u =>
    updateRows t (fun s => ofTenant tenantId id s && unconsumed clock s) u
  | .consumeRequestUri tenantId id expiresAt now =>
    if expiresAt ≤ now then t
    else
      updateRows t
        (fun s => ofTenant tenantId id s && s.request_uri_expires_at == some expiresAt)
        { request_uri_expires_at := some now }
  | .incrementFailedTxCodeAttempts tenantId id =>
    t.updateWhere (ofTenant tenantId id) Session.countFailedTxCode fun _ => rfl
  | .changeState tenantId id u => updateRows t (ofTenant tenantId id) u
  | .changeStateFrom tenantId id from_ u =>
    updateRows t (fun s => ofTenant tenantId id s && from_.contains s.status) u
  | .deleteSessionsCreatedBefore tenantId cutoff =>
    t.deleteWhere fun s => s.tenantId == tenantId && s.createdAt < cutoff
  | .anonymizeSessionsCreatedBefore tenantId cutoff =>
    t.updateWhere (fun s => s.tenantId == tenantId && s.createdAt < cutoff && s.hasPersonalData)
      Session.anonymize fun _ => rfl
  | .deleteOrphanedSessionsCreatedBefore knownTenantIds cutoff =>
    if knownTenantIds.isEmpty then t
    else t.deleteWhere fun s => !knownTenantIds.contains s.tenantId && s.createdAt < cutoff
  | _ => t

def SessionCall.reply (clock : Time) (t : SessionTable) : (c : SessionCall) → c.Reply
  | .create id tenantId u =>
    ((t.get id).map (mergeSession tenantId u)).getD (newSession id tenantId clock u)
  | .updateForTenant tenantId id _ => t.count (ofTenant tenantId id)
  | .updateUnconsumedForTenant tenantId id _ =>
    0 < t.count fun s => ofTenant tenantId id s && unconsumed clock s
  | .consumeRequestUri tenantId id expiresAt now =>
    now < expiresAt &&
      0 < t.count fun s => ofTenant tenantId id s && s.request_uri_expires_at == some expiresAt
  | .findForTenant tenantId id type => t.find fun s => ofTenant tenantId id s && typeWhere type s
  | .findByIdForInternalFlow id => t.find fun s => s.id == id
  | .findForWalletRequest walletNonce =>
    (t.find fun s => s.walletNonce == some walletNonce).or (t.find fun s => s.id == walletNonce)
  | .findIso18013Session id => t.find fun s => s.id == id && s.dcApiProtocol == some "iso-18013-7"
  | .findByAuthorizationCode tenantId code =>
    t.find fun s => s.tenantId == tenantId && s.authorization_code == some code
  | .findByRefreshToken tenantId token =>
    t.find fun s => s.tenantId == tenantId && s.refresh_token == some token
  | .findByRequestUri tenantId uri =>
    t.find fun s => s.tenantId == tenantId && s.request_uri == some uri
  | .incrementFailedTxCodeAttempts tenantId id =>
    (t.find (ofTenant tenantId id)).map (·.txCodeFailedAttempts + 1)
  | .changeState _ _ _ => ()
  | .changeStateFrom tenantId id from_ _ =>
    0 < t.count fun s => ofTenant tenantId id s && from_.contains s.status
  | .findExpiredSessionsForMaintenance before =>
    (t.select (expiredForMaintenance before)).map fun s => ⟨s.id, s.tenantId, s.requestId⟩
  | .deleteSessionsCreatedBefore tenantId cutoff =>
    t.count fun s => s.tenantId == tenantId && s.createdAt < cutoff
  | .anonymizeSessionsCreatedBefore tenantId cutoff =>
    t.count fun s => s.tenantId == tenantId && s.createdAt < cutoff && s.hasPersonalData
  | .deleteOrphanedSessionsCreatedBefore knownTenantIds cutoff =>
    if knownTenantIds.isEmpty then 0
    else t.count fun s => !knownTenantIds.contains s.tenantId && s.createdAt < cutoff

/-! ## The other repositories -/

/-- The table after a call of the interactive session repository; the primary key of a
created row is a fresh value. -/
def InteractiveCall.effect (t : InteractiveTable) : InteractiveCall → InteractiveTable
  | .create s => t.upsert s (fun old => { s with id := old.id }) fun _ => rfl
  | .findForTenant _ _ => t
  | .update id changes => t.updateWhere (·.id == id) (·.apply changes) fun _ => rfl
  | .updateForTenant tenantId authSession changes =>
    t.updateWhere (fun s => s.tenantId == tenantId && s.authSession == authSession)
      (·.apply changes) fun _ => rfl
  | .delete id => t.deleteWhere (·.id == id)

def InteractiveCall.reply (t : InteractiveTable) : (c : InteractiveCall) → c.Reply
  | .create _ => ()
  | .findForTenant tenantId authSession =>
    t.find fun s => s.tenantId == tenantId && s.authSession == authSession
  | .update _ _ => ()
  | .updateForTenant tenantId authSession _ =>
    0 < t.count fun s => s.tenantId == tenantId && s.authSession == authSession
  | .delete _ => ()

/-- The table after a call of the hosted servers' repository: a save writes the whole
entity. -/
def ChainedCall.effect (t : ChainedTable) : ChainedCall → ChainedTable
  | .save s => t.upsert s (fun old => { s with id := old.id }) fun _ => rfl
  | _ => t

def ChainedCall.reply (t : ChainedTable) : (c : ChainedCall) → c.Reply
  | .save _ => ()
  | .findForTenant tenantId id status =>
    t.find fun s => s.tenantId == tenantId && s.id == id && s.status == status
  | .findByUpstreamState tenantId upstreamState status =>
    t.find fun s => s.tenantId == tenantId && s.upstreamState == some upstreamState &&
      status.all (s.status == ·)
  | .findAuthorizedByCode tenantId code =>
    t.find fun s => s.tenantId == tenantId && s.authorizationCode == some code &&
      s.status == .authorized
  | .findByRefreshToken tenantId refreshToken =>
    t.find fun s => s.tenantId == tenantId && s.refreshToken == some refreshToken

/-! ## Answering a call -/

/-- **One answered call.** -/
def answer (w : World) : (c : Call) → Store → Reply c × Store
  | .session c, st =>
    (c.reply st.clock st.sessions, { st with sessions := c.effect st.clock st.sessions })
  | .interactive c, st =>
    (c.reply st.interactive, { st with interactive := c.effect st.interactive })
  | .chained c, st => (c.reply st.chained, { st with chained := c.effect st.chained })
  | .env .now, st => (st.clock, st)
  | .env .fresh, st => (w.random st.draws, { st with draws := st.draws + 1 })
  | .env (.ask q), st => (w.answer st.consults q, { st with consults := st.consults + 1 })

def passTime (elapsed : Nat) (st : Store) : Store := { st with clock := st.clock + elapsed }

end Eudiplo
