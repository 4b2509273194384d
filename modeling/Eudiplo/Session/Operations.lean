import Eudiplo.Backend.Store

/-!
# Session operations

`SessionStore`, `CreateSession`, `ChangeSessionState`, `RecordFailedTxCodeAttempt`,
`CancelSession` and `CleanupSessions` (`session/application`).  Published events and
log lines are left out where nothing is awaited for them.
-/

namespace Eudiplo

open Concurrency Prog

/-! ## Awaiting one call -/

def sessions (c : SessionCall) : Api c.Reply := invoke (Call.session c)

def interactiveSessions (c : InteractiveCall) : Api c.Reply := invoke (Call.interactive c)

def chainedSessions (c : ChainedCall) : Api c.Reply := invoke (Call.chained c)

/-- `new Date()`. -/
def now : Api Time := invoke (Call.env .now)

def fresh : Api String := invoke (Call.env .fresh)

/-- Ask code outside the model; it may make the handler throw. -/
def ask (q : Question) : Api q.Payload :=
  (invoke (Call.env (.ask q)) : Api (Except ApiError q.Payload)).bind ofExcept

/-! ## `SessionStore` -/

/-- `lookup`: an empty key is never looked up, a missing session is an error. -/
def lookup (key : Option String) (find : String → Api (Option Session)) : Api Session := do
  ensure (truthy key) .sessionNotFound
  let session ← find (key.getD "")
  getOrFail .sessionNotFound session

def getForTenant (tenantId : String) (sessionId : Option String)
    (scope : Option SessionType) : Api Session :=
  lookup sessionId fun id => sessions (.findForTenant tenantId id scope)

def getByAuthorizationCode (tenantId : String) (code : Option String) : Api Session :=
  lookup code fun value => sessions (.findByAuthorizationCode tenantId value)

def getByRefreshToken (tenantId : String) (token : String) : Api Session :=
  lookup (some token) fun value => sessions (.findByRefreshToken tenantId value)

def getByRequestUri (tenantId : String) (uri : String) : Api Session :=
  lookup (some uri) fun value => sessions (.findByRequestUri tenantId value)

def getForWalletRequest (nonce : String) : Api Session :=
  lookup (some nonce) fun value => sessions (.findForWalletRequest value)

def getForInternalFlow (sessionId : String) : Api Session :=
  lookup (some sessionId) fun id => sessions (.findByIdForInternalFlow id)

def getIso18013 (sessionId : String) : Api Session :=
  lookup (some sessionId) fun id => sessions (.findIso18013Session id)

def updateForTenant (tenantId sessionId : String) (update : SessionUpdate) : Api Nat :=
  sessions (.updateForTenant tenantId sessionId update)

def updateIfUnconsumed (tenantId sessionId : String) (update : SessionUpdate) : Api Bool :=
  sessions (.updateUnconsumedForTenant tenantId sessionId update)

/-- The error of `p` replaced by `e` (`.catch(() => { throw e })`). -/
def orThrow {α : Type} (p : Api α) (e : ApiError) : Api α := do
  match ← p.attempt with
  | .ok a => return a
  | .error _ => fail e

/-- A missing session read as `undefined`; other errors stay errors. -/
def orUndefined (p : Api Session) : Api (Option Session) := do
  match ← p.attempt with
  | .ok session => return some session
  | .error .sessionNotFound => return none
  | .error e => fail e

/-- `CreateSession.execute`. -/
def createSession (id tenantId : String) (update : SessionUpdate) : Api Session :=
  sessions (.create id tenantId update)

/-! ## `ChangeSessionState` and `RecordFailedTxCodeAttempt` -/

/-- `ChangeSessionState.execute`. -/
def changeStateExecute (session : Session) (status : SessionStatus) : Api Unit :=
  sessions (.changeState session.tenantId session.id (stateUpdate status))

/-- `ChangeSessionState.executeFrom`. -/
def changeStateExecuteFrom (session : SessionRef) (from_ : List SessionStatus)
    (status : SessionStatus) : Api Bool :=
  if from_.isEmpty then ret false
  else sessions (.changeStateFrom session.tenantId session.id from_ (stateUpdate status))

def Session.ref (s : Session) : SessionRef := ⟨s.id, s.tenantId, s.requestId⟩

/-- `RecordFailedTxCodeAttempt.execute`: the attempts so far, and whether they lock the
code. -/
def recordFailedTxCodeAttempt (tenantId sessionId : String) (maxAttempts : Nat) :
    Api (Nat × Bool) := do
  let failedAttempts ← sessions (.incrementFailedTxCodeAttempts tenantId sessionId)
  let n ← getOrFail .sessionAttemptTargetNotFound failedAttempts
  return (n, decide (maxAttempts ≤ n))

/-! ## `CancelSession` -/

structure CancelSessionCommand where
  tenantId : String
  sessionId : String
  scope : Option SessionType := none
  reason : Option String := none

def notCancellableReason (session : Session) : NotCancellableReason :=
  if isTerminalStatus session.status then .status session.status
  else if session.consumed then .redeemed
  else .status .expired

/-- `CancelSession.execute`. -/
def cancelSession (command : CancelSessionCommand) : Api Unit := do
  let session ← getForTenant command.tenantId (some command.sessionId) command.scope
  -- the same conditional update as the token exchange and the presentation response
  let cancelled ←
    updateIfUnconsumed session.tenantId session.id (stateUpdate .cancelled)
  if cancelled then
    ask (.recordCancellation session.tenantId session.id command.reason)
  else do
    let current ← getForTenant command.tenantId (some command.sessionId) command.scope
    fail (.sessionNotCancellable (notCancellableReason current))

/-! ## `CleanupSessions` -/

/-- One tenant's retention: anonymize or delete what is older than its time to live. -/
def cleanupTenant (tenant : TenantRetention) : Api Unit := do
  let cutoff := (← now) - tenant.ttlSeconds * 1000
  if tenant.anonymize then do
    let _ ← sessions (.anonymizeSessionsCreatedBefore tenant.tenantId cutoff)
    return ()
  else do
    let _ ← sessions (.deleteSessionsCreatedBefore tenant.tenantId cutoff)
    return ()

/-- One overdue session: a session finished since the selection keeps its final state. -/
def expireSession (session : SessionRef) : Api Unit := do
  let _ ← changeStateExecuteFrom session openSessionStatuses .expired
  return ()

/-- Sessions of tenants that no longer exist; skipped when no tenant is known. -/
def cleanupOrphans (tenants : List TenantRetention) (defaultTtlSeconds : Nat) : Api Unit := do
  if tenants.isEmpty then return ()
  else do
    let cutoff := (← now) - defaultTtlSeconds * 1000
    let _ ← sessions
      (.deleteOrphanedSessionsCreatedBefore (tenants.map (·.tenantId)) cutoff)
    return ()

/-- `CleanupSessions.execute`. -/
def cleanupSessions : Api Unit := do
  let before ← now
  let expired ← sessions (.findExpiredSessionsForMaintenance before)
  each expireSession expired
  let (tenants, defaultTtlSeconds) ← ask .tenantRetention
  each cleanupTenant tenants
  cleanupOrphans tenants defaultTtlSeconds

end Eudiplo
