import Eudiplo.Session.Operations

/-!
# The credential and notification endpoints

The session side of `Oid4vciService.getCredential` and `handleNotification`: the
session an access token belongs to, the list of notifications a wallet may report on,
and the status changes.  Verifying the token and issuing the credentials are asked of
the outside.
-/

namespace Eudiplo

open Concurrency Prog

structure CredentialRequest where
  tenantId : String
  accessToken : String
  body : String

def tokenSession (tenantId accessToken : String) : Api Session := do
  let sessionId ← ask (.tokenSession tenantId accessToken)
  getForTenant tenantId (some sessionId) none

structure CredentialResponse where
  body : String
  notification_id : Option String := none

/-- **`Oid4vciService.getCredential`**: only the first issuance moves the session on. -/
def getCredential (q : CredentialRequest) : Api CredentialResponse := do
  let session ← tokenSession q.tenantId q.accessToken
  match ← ask (.issueCredentials session q.body) with
  | .deferred transactionId => return { body := transactionId }
  | .issued credentialConfigurationId credentialResponse => do
    let notificationId ← fresh
    let _ ← updateForTenant session.tenantId session.id
      { notifications :=
          some (session.notifications ++ [{ id := notificationId, credentialConfigurationId }]) }
    let _ ← changeStateExecuteFrom session.ref [.active] .fetched
    return { body := credentialResponse, notification_id := some notificationId }

structure NotificationRequest where
  tenantId : String
  accessToken : String
  notification_id : String
  event : NotificationEvent
  event_description : Option String := none

def recordEvent (notifications : List Notification) (id : String) (event : NotificationEvent)
    (description : Option String) : List Notification :=
  match notifications with
  | [] => []
  | n :: ns =>
    if n.id == id then { n with event := some event, eventDescription := description } :: ns
    else n :: recordEvent ns id event description

theorem find_recordEvent_same {ns : List Notification} {id : String} {n : Notification}
    (event : NotificationEvent) (description : Option String)
    (h : ns.find? (·.id == id) = some n) :
    (recordEvent ns id event description).find? (·.id == id) =
      some { n with event := some event, eventDescription := description } := by
  induction ns with
  | nil => cases h
  | cons m ns ih =>
    by_cases hid : (m.id == id) = true
    · simp only [List.find?_cons, hid] at h
      cases h
      rw [recordEvent, if_pos hid]
      simp only [List.find?_cons, hid]
    · simp only [recordEvent, if_neg hid]
      rw [Bool.not_eq_true] at hid
      simp only [List.find?_cons, hid] at h ⊢
      exact ih h

theorem find_recordEvent_other {id id' : String} (hne : id ≠ id') (ns : List Notification)
    (event : NotificationEvent) (description : Option String) :
    (recordEvent ns id' event description).find? (·.id == id) = ns.find? (·.id == id) := by
  induction ns with
  | nil => rfl
  | cons m ns ih =>
    by_cases hid : (m.id == id') = true
    · have hother : (m.id == id) = false := by
        rw [beq_iff_eq] at hid
        rw [beq_eq_false_iff_ne]
        exact fun h => hne (h.symm.trans hid)
      simp only [recordEvent, if_pos hid, List.find?_cons, hother]
    · simp only [recordEvent, if_neg hid, List.find?_cons, ih]

/-- `RecordCredentialNotification.execute`. -/
def recordCredentialNotification (session : Session) (q : NotificationRequest) :
    Api Notification := do
  let notification ← getOrFail (.credentialNotificationNotFound q.notification_id)
    (session.notifications.find? (·.id == q.notification_id))
  let _ ← updateForTenant session.tenantId session.id
    { notifications :=
        some (recordEvent session.notifications q.notification_id q.event q.event_description) }
  return { notification with event := some q.event, eventDescription := q.event_description }

def NotificationEvent.status : NotificationEvent → SessionStatus
  | .credential_accepted => .completed
  | _ => .failed

/-- `HandleCredentialNotification.execute`: is the event's delivery known to have failed? -/
def handleCredentialNotification (session : Session) (q : NotificationRequest) : Api Bool := do
  let notification ← recordCredentialNotification session q
  let endpoint ← onlyIf (truthy session.webhookEndpointId) none
    (ask (.webhookEndpoint session.tenantId session.webhookEndpointId))
  changeStateExecute session q.event.status
  match endpoint with
  | none => return false
  | some _ => do
    match ← (ask (.publishNotification session notification)).attempt with
    | .ok _ => return false
    | .error _ => return true

def notificationSession (q : NotificationRequest) : Api Session := do
  match ← orUndefined (tokenSession q.tenantId q.accessToken) with
  | some session => return session
  | none => fail (.credentialNotificationNotFound q.notification_id)

/-- **`Oid4vciService.handleNotification`.** -/
def handleNotification (q : NotificationRequest) : Api Bool := do
  let session ← notificationSession q
  handleCredentialNotification session q

end Eudiplo
