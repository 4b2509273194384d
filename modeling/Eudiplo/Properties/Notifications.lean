import Eudiplo.Backend.Deployment
import Eudiplo.Backend.Footprint
import Eudiplo.Concurrency.Order
import Eudiplo.Concurrency.RelyGuarantee

/-!
# Do the notifications of a session survive overlapping requests?

The credential and the notification endpoint both read the `notifications` of a session,
change the list in memory and write the whole list back.  A request that reads before
another has written undoes that write: a `notification_id` that went to the wallet is
forgotten, or an acknowledged event is (`not_notifications_kept`).

`notifications_kept` holds for the runs in which the stored list is, at each of these writes,
still the list the writer read.
-/

namespace Eudiplo

open Concurrency Prog Discipline Storage

/-! ## The claim -/

/-- The session `(tenantId, k)` exists. -/
def HasSession (g : State) (tenantId k : String) : Prop :=
  ∃ row, g.store.sessions.get k = some row ∧ row.tenantId = tenantId

/-- The session exists from `c` on, along the whole schedule. -/
def SessionStays (w : World) (tenantId k : String) (c : Backend) (ms : Schedule) : Prop :=
  (backend w).Guarded (fun g _ _ => HasSession g tenantId k) c ms ∧
    HasSession ((backend w).run c ms).global tenantId k

def Session.notification (s : Session) (id : String) : Option Notification :=
  s.notifications.find? (·.id == id)

/-- The event is a write of notifications by thread `t`. -/
def WritesNotifications (t : Nat) (e : Answered) : Prop :=
  ∃ tenantId k u l n, e = ⟨t, .session (.updateForTenant tenantId k u), n⟩ ∧
    u.notifications = some l

/-- Thread `t'` is thread `t`, or wrote after it. -/
def NotBefore (g : State) (t t' : Nat) : Prop :=
  t' = t ∨ ∃ newer older e e', g.trace = newer ++ e' :: older ∧ e ∈ older ∧
    WritesNotifications t e ∧ WritesNotifications t' e'

/-- The entry carries what thread `t`, or a later request about the same id, reported. -/
def CarriesReport (g : State) (t : Nat) (entry : Notification) : Prop :=
  ∃ t' q, g.requests[t']? = some (.notification q) ∧ q.notification_id = entry.id ∧
    entry.event = some q.event ∧ entry.eventDescription = q.event_description ∧
    NotBefore g t t'

/-- **Notifications are not lost**: from the look-up of its session on, as long as the
session exists, a returned `notification_id` is known to it, and an acknowledged event is
recorded with its id. -/
structure NotificationsKept (w : World) (st : Store) (ms : Schedule) : Prop where
  returned : ∀ ms₁ ms₂ t q r tenantId k n, ms = ms₁ ++ .resume t :: ms₂ →
    System.waiting ((backend w).run (.start st) ms₁) t =
      some (.session (.findForTenant tenantId k none)) →
    SessionStays w tenantId k ((backend w).run (.start st) ms₁) (.resume t :: ms₂) →
    ((backend w).run (.start st) ms).Answers t (.credential q) (.credential r) →
    r.notification_id = some n →
    ∃ row, ((backend w).run (.start st) ms).store.sessions.get k = some row ∧
      (row.notification n).isSome
  acknowledged : ∀ ms₁ ms₂ t q b tenantId k, ms = ms₁ ++ .resume t :: ms₂ →
    System.waiting ((backend w).run (.start st) ms₁) t =
      some (.session (.findForTenant tenantId k none)) →
    SessionStays w tenantId k ((backend w).run (.start st) ms₁) (.resume t :: ms₂) →
    ((backend w).run (.start st) ms).Answers t (.notification q) (.notified b) →
    ∃ row entry, ((backend w).run (.start st) ms).store.sessions.get k = some row ∧
      row.notification q.notification_id = some entry ∧
      CarriesReport ((backend w).run (.start st) ms).global t entry

/-- Thread `t` found the session `s` under `(tenantId, k)`. -/
def FindsSession (g : State) (t : Nat) (tenantId k : String) (s : Session) : Prop :=
  g.Made t (.session (.findForTenant tenantId k none)) (some s)

/-- **The condition**: where a thread writes the notifications of a session, the stored ones
are those it read. -/
def NotesCurrent (g : State) (tid : Nat) (op : Call) : Prop :=
  ∀ tenantId k u l s row, op = .session (.updateForTenant tenantId k u) →
    u.notifications = some l → FindsSession g tid tenantId k s →
    g.store.sessions.get k = some row → row.tenantId = tenantId →
    row.notifications = s.notifications

namespace Notifications

variable {w : World} {g g' : State} {tid t : Nat} {op : Call} {r : Request}

/-! ## The lists a request writes -/

/-- **The list a request writes**, from the one it read. -/
inductive NotedBy : Request → List Notification → List Notification → Prop where
  | issued (q : CredentialRequest) (ns : List Notification) (n : Notification) :
    NotedBy (.credential q) ns (ns ++ [n])
  | reported {q : NotificationRequest} {ns : List Notification} {n : Notification}
      (h : ns.find? (·.id == q.notification_id) = some n) :
    NotedBy (.notification q) ns
      (recordEvent ns q.notification_id q.event q.event_description)

/-- **An entry stays**, and changes only by a report on its id. -/
theorem NotedBy.find {ns ns' : List Notification} {id : String} {entry : Notification}
    (h : NotedBy r ns ns') (hentry : ns.find? (·.id == id) = some entry) :
    ns'.find? (·.id == id) = some entry ∨
      ∃ q, r = .notification q ∧ q.notification_id = id ∧
        ns'.find? (·.id == id) =
          some { entry with event := some q.event, eventDescription := q.event_description } := by
  cases h with
  | issued q ns n =>
    left
    rw [List.find?_append, hentry, Option.some_or]
  | @reported q ns n hn =>
    by_cases hid : q.notification_id = id
    · subst hid
      exact .inr ⟨q, rfl, rfl, find_recordEvent_same _ _ hentry⟩
    · left
      rw [find_recordEvent_other (Ne.symm hid), hentry]

theorem NotedBy.reports {q : NotificationRequest} {ns ns' : List Notification}
    (h : NotedBy (.notification q) ns ns') :
    ∃ entry, ns'.find? (·.id == q.notification_id) = some entry ∧
      entry.id = q.notification_id ∧ entry.event = some q.event ∧
      entry.eventDescription = q.event_description := by
  cases h with
  | @reported _ _ n hn =>
    refine ⟨_, find_recordEvent_same _ _ hn, ?_, rfl, rfl⟩
    simpa using List.find?_some hn

/-! ## The discipline -/

def isLookUp : Answered → Prop
  | ⟨_, .session (.findForTenant ..), _⟩ => True
  | _ => False

/-- `s` is the one session thread `t` looked up. -/
structure LooksOnce (t : Nat) (tenantId k : String) (s : Session) (g : State) : Prop where
  found : FindsSession g t tenantId k s
  only : ∀ e ∈ g.trace, e.tid = t → isLookUp e →
    e = ⟨t, .session (.findForTenant tenantId k none), some s⟩

theorem LooksOnce.quiet {tenantId k : String} {s : Session} (h : LooksOnce t tenantId k s g)
    (hext : g.Extends g') (hq : g.Quiet t g') : LooksOnce t tenantId k s g' :=
  ⟨h.found.extends hext, fun e he ht => h.only e (hq e he ht) ht⟩

theorem LooksOnce.after {tenantId k : String} {s : Session} (h : LooksOnce t tenantId k s g)
    (hop : ¬isLookUp ⟨t, op, ((backend w).answer op g.store).1⟩) :
    LooksOnce t tenantId k s ((backend w).after g t op) := by
  refine ⟨h.found.extends (System.extends_after _ _ _), fun e he ht hlook => ?_⟩
  rcases List.mem_cons.mp he with rfl | hold
  · exact absurd hlook hop
  · exact h.only e hold ht hlook

/-- **What a thread may call**: it writes notifications only into the session it looked up,
out of the list it read there; and it looks one session up. -/
def NotesMay (g : State) (tid : Nat) : Call → Prop
  | .session (.create _ _ u) | .session (.updateUnconsumedForTenant _ _ u)
  | .session (.changeState _ _ u) | .session (.changeStateFrom _ _ _ u) => u.notifications = none
  | .session (.updateForTenant tenantId k u) => ∀ l, u.notifications = some l →
    ∃ r s, g.requests[tid]? = some r ∧ LooksOnce tid tenantId k s g ∧
      NotedBy r s.notifications l
  | .session (.findForTenant ..) =>
    ∀ r, g.requests[tid]? = some r → r.notifies = true → g.Avoids tid isLookUp
  | _ => True

/-- **The invariant**: who has written notifications has looked the session up. -/
structure NotesInv (g : State) : Prop where
  numbered : g.Numbered
  looked : ∀ t tenantId k u l n, g.Made t (.session (.updateForTenant tenantId k u)) n →
    u.notifications = some l → ∃ s, FindsSession g t tenantId k s

/-- Thread `t` wrote the notifications `l` into the session it looked up. -/
def Noted (g : State) (t : Nat) (l : List Notification) : Prop :=
  ∃ tenantId k s u n, LooksOnce t tenantId k s g ∧ u.notifications = some l ∧
    g.Made t (.session (.updateForTenant tenantId k u)) n

theorem Noted.quiet {l : List Notification} (h : Noted g t l) (hext : g.Extends g')
    (hq : g.Quiet t g') : Noted g' t l := by
  obtain ⟨tenantId, k, s, u, n, hlooks, hl, hmade⟩ := h
  exact ⟨tenantId, k, s, u, n, hlooks.quiet hext hq, hl, hmade.extends hext⟩

def NotesPost (t : Nat) : Request → State → Response → Prop
  | .credential _, g, .credential r => ∀ id, r.notification_id = some id →
    ∃ l, Noted g t l ∧ (l.find? (·.id == id)).isSome = true
  | .notification _, g, .notified _ => ∃ l, Noted g t l
  | _, _, _ => True

theorem inv_after (hinv : NotesInv g) (hr : g.requests[tid]? = some r) (hmay : NotesMay g tid op) :
    NotesInv ((backend w).after g tid op) := by
  have hext := System.extends_after (M := backend w) g tid op
  refine ⟨hinv.numbered.after hr, fun t tenantId k u l n hmade hl => ?_⟩
  rcases List.mem_cons.mp hmade with heq | hold
  · injection heq with ht hop _
    subst ht
    subst hop
    obtain ⟨_, s, _, hlooks, _⟩ := hmay l hl
    exact ⟨s, hlooks.found.extends hext⟩
  · obtain ⟨s, hs⟩ := hinv.looked t tenantId k u l n hold hl
    exact ⟨s, hs.extends hext⟩

/-- **The discipline of notifications.** -/
def notes (w : World) : Discipline (backend w) where
  inv := NotesInv
  rely t g g' := g.Quiet t g'
  admits _ _ _ := True
  may := NotesMay
  allowed _ := True
  post := NotesPost
  rely_refl t g := .refl t g
  rely_trans h h' := h.trans h'
  step hinv hr _ hmay := ⟨inv_after hinv hr hmay, fun _ hne => Global.quiet_after hne⟩
  arrive {g r} hinv _ :=
    ⟨⟨hinv.numbered.arrive r, hinv.looked⟩, fun t _ => Global.quiet_arrive t g r⟩
  pass {g} n hinv :=
    ⟨⟨hinv.numbered.pass n, hinv.looked⟩, fun t => Global.quiet_pass t g n⟩

/-! ## The handlers -/

def Calm : Call → Prop
  | .session (.create ..) | .session (.updateForTenant ..)
  | .session (.updateUnconsumedForTenant ..) | .session (.findForTenant ..) => False
  | .session (.changeState _ _ u) | .session (.changeStateFrom _ _ _ u) => u.notifications = none
  | _ => True

theorem may_of_calm (h : Calm op) : NotesMay g tid op := by
  rcases op with c | _ | _ | _
  · cases c with
    | create id tenantId u => exact h.elim
    | updateForTenant tenantId id u => exact h.elim
    | updateUnconsumedForTenant tenantId id u => exact h.elim
    | findForTenant tenantId id type => exact h.elim
    | changeState tenantId id u => exact h
    | changeStateFrom tenantId id from_ u => exact h
    | _ => trivial
  all_goals trivial

theorem calm_ask (q : Question) : (ask q).Only Calm :=
  only_ask trivial

section Handlers

theorem looksOnce_after {tenantId k : String} {s : Session} (hnone : g.Avoids t isLookUp)
    (h : (SessionCall.findForTenant tenantId k none).reply g.store.clock g.store.sessions =
      some s) :
    LooksOnce t s.tenantId s.id s
      ((backend w).after g t (.session (.findForTenant tenantId k none))) := by
  have hmatch := (Table.find_some h).2
  rw [Bool.and_eq_true, ofTenant_iff] at hmatch
  obtain ⟨⟨rfl, rfl⟩, -⟩ := hmatch
  have hevent : (⟨t, .session (.findForTenant s.tenantId s.id none),
      (SessionCall.findForTenant s.tenantId s.id none).reply g.store.clock g.store.sessions⟩ :
      Answered) = ⟨t, .session (.findForTenant s.tenantId s.id none), some s⟩ := by rw [h]
  refine ⟨?_, fun e he ht hlook => ?_⟩
  · rw [FindsSession, Global.Made, ← hevent]
    exact List.mem_cons_self
  · rcases List.mem_cons.mp he with rfl | hold
    · exact hevent
    · exact absurd hlook (hnone e hold ht)

/-- **The session of a token**, looked up once. -/
theorem safe_tokenSession (tenantId accessToken : String)
    (hnone : g.Avoids t isLookUp) :
    (notes w).Safe t (fun g' s => LooksOnce t s.tenantId s.id s g')
      (tokenSession tenantId accessToken) g := by
  refine Safe.call fun g₁ hl₁ _ => ⟨trivial, Safe.ofExcept fun k _ =>
    Safe.ensure fun _ => Safe.call fun g₂ hl₂ _ => ?_⟩
  have hnone₁ : ((backend w).after g₁ t (.env (.ask (.tokenSession tenantId accessToken)))).Avoids
      t isLookUp := (hnone.later hl₁.rely).after id
  have hnone₂ := hnone₁.later hl₂.rely
  refine ⟨fun _ _ _ => hnone₂, Safe.require fun s hs g₃ hl₃ => ?_⟩
  exact (looksOnce_after hnone₂ hs).quiet hl₃.hist hl₃.rely

theorem safe_calm {α : Type} {p : Api α} {tenantId k : String} {s : Session}
    (hg : (notes w).At t r g) (hp : p.Only Calm) (h : LooksOnce t tenantId k s g) :
    (notes w).Safe t (fun g' _ => LooksOnce t tenantId k s g') p g := by
  refine (Safe.keep (Q := fun _ _ => True) hg hp
    (fun _ _ _ _ hop _ => may_of_calm hop) h (fun hl hlooks => hlooks.quiet hl.hist hl.rely)
    (fun {_ op} hop hlooks => hlooks.after fun hlook => ?_) (System.yields_true p)).imp hg ?_
  · rcases op with c | _ | _ | _
    · cases c <;> first | exact hop.elim | exact hlook.elim
    all_goals exact hlook.elim
  · exact fun _ _ _ _ hdone => hdone.1

/-- **Writing a list** made from the one that was read. -/
theorem safe_updateNotifications {s : Session} {l : List Notification}
    (hg : (notes w).At t r g) (h : LooksOnce t s.tenantId s.id s g)
    (hl : NotedBy r s.notifications l) :
    (notes w).Safe t (fun g' _ => Noted g' t l)
      (updateForTenant s.tenantId s.id { notifications := some l }) g := by
  refine Safe.invoke fun g₁ hl₁ _ => ⟨fun l' hl' => ?_, fun g₂ hl₂ => ?_⟩
  · cases hl'
    exact ⟨r, s, (hg.later hl₁).request, h.quiet hl₁.hist hl₁.rely, hl⟩
  · have hlooks : LooksOnce t s.tenantId s.id s ((backend w).after g₁ t
        (.session (.updateForTenant s.tenantId s.id { notifications := some l }))) :=
      (h.quiet hl₁.hist hl₁.rely).after id
    exact ⟨_, _, s, _, _, hlooks.quiet hl₂.hist hl₂.rely, rfl,
      (System.after_made _ _ _).extends hl₂.hist⟩

theorem safe_noted {α : Type} {p : Api α} {l : List Notification} (hg : (notes w).At t r g)
    (hp : p.Only Calm) (h : Noted g t l) : (notes w).Safe t (fun g' _ => Noted g' t l) p g := by
  obtain ⟨tenantId, k, s, u, n, hlooks, hl, hmade⟩ := h
  refine (safe_calm hg hp hlooks).imp hg fun _ g' hext _ hlooks' => ?_
  exact ⟨tenantId, k, s, u, n, hlooks', hl, hmade.extends hext⟩

/-- **A returned `notification_id` was noted.** -/
theorem safe_getCredential {q : CredentialRequest} (hg : (notes w).At t (.credential q) g)
    (hnone : g.Avoids t isLookUp) :
    (notes w).Safe t (fun g' a => NotesPost t (.credential q) g' (.credential a))
      (getCredential q) g := by
  refine (safe_tokenSession _ _ hnone).bind hg fun s g₁ _ hg₁ hlooks => ?_
  refine (safe_calm hg₁ (calm_ask _) hlooks).bind hg₁ fun result g₂ _ hg₂ hlooks₂ => ?_
  cases result with
  | deferred transactionId => exact Safe.ret fun _ _ _ h => nomatch h
  | issued configurationId body =>
    refine (safe_calm hg₂ (only_fresh.mpr trivial) hlooks₂).bind hg₂ fun id g₃ _ hg₃ hlooks₃ => ?_
    refine (safe_updateNotifications hg₃ hlooks₃ (.issued q _ _)).bind hg₃
      fun _ g₄ _ hg₄ hnoted => ?_
    have hcalm : (changeStateExecuteFrom s.ref [.active] .fetched).Only Calm :=
      only_sessions.mpr rfl
    refine (safe_noted hg₄ hcalm hnoted).bind hg₄ fun _ g₅ _ _ hnoted₅ =>
      Safe.ret fun g₆ hl₆ id' hid => ?_
    obtain rfl : id = id' := Option.some.inj hid
    refine ⟨_, hnoted₅.quiet hl₆.hist hl₆.rely, ?_⟩
    rw [List.find?_isSome]
    exact ⟨_, List.mem_append_right _ List.mem_cons_self, beq_self_eq_true _⟩

theorem safe_orUndefined {p : Api Session} {Q : State → Session → Prop}
    (hg : (notes w).At t r g) (hp : (notes w).Safe t Q p g)
    (hquiet : ∀ {g g' s}, (notes w).Later t g g' → Q g s → Q g' s) :
    (notes w).Safe t (fun g' o => ∀ s, o = some s → Q g' s) (orUndefined p) g := by
  refine hp.attempt.bind hg fun result g₁ _ _ hdone => ?_
  cases result with
  | ok s =>
    refine Safe.ret fun g₂ hl₂ s' hs' => ?_
    cases hs'
    exact hquiet hl₂ (hdone s rfl)
  | error e =>
    cases e with
    | sessionNotFound => exact Safe.ret fun _ _ _ hnone => nomatch hnone
    | _ => trivial

theorem safe_notificationSession (q : NotificationRequest) (hg : (notes w).At t r g)
    (hnone : g.Avoids t isLookUp) :
    (notes w).Safe t (fun g' s => LooksOnce t s.tenantId s.id s g') (notificationSession q) g := by
  refine (safe_orUndefined hg (safe_tokenSession _ _ hnone)
    fun hl hlooks => hlooks.quiet hl.hist hl.rely).bind hg fun found g₁ _ _ hfound => ?_
  cases found with
  | none => trivial
  | some s =>
    exact Safe.ret fun g₂ hl₂ => (hfound s rfl).quiet hl₂.hist hl₂.rely

theorem calm_resolveEndpoint (session : Session) :
    (onlyIf (truthy session.webhookEndpointId) none
      (ask (.webhookEndpoint session.tenantId session.webhookEndpointId))).Only Calm :=
  Only.onlyIf (calm_ask _)

/-- **An acknowledged event was noted.** -/
theorem safe_handleNotification {q : NotificationRequest}
    (hg : (notes w).At t (.notification q) g) (hnone : g.Avoids t isLookUp) :
    (notes w).Safe t (fun g' _ => ∃ l, Noted g' t l) (handleNotification q) g := by
  refine (safe_notificationSession q hg hnone).bind hg fun s g₁ _ hg₁ hlooks => ?_
  have hrecord : (notes w).Safe t (fun g' _ => ∃ l, Noted g' t l)
      (recordCredentialNotification s q) g₁ := by
    refine Safe.getOrFail fun n hn => ?_
    refine (safe_updateNotifications hg₁ hlooks (.reported hn)).bind hg₁ fun _ g₂ _ _ hnoted =>
      Safe.ret fun g₃ hl₃ => ⟨_, hnoted.quiet hl₃.hist hl₃.rely⟩
  refine hrecord.bind hg₁ fun n g₂ _ hg₂ hnoted => ?_
  obtain ⟨l, hnoted⟩ := hnoted
  refine (safe_noted hg₂ (calm_resolveEndpoint s) hnoted).bind hg₂
    fun endpoint g₃ _ hg₃ hnoted₃ => ?_
  have hstate : (changeStateExecute s q.event.status).Only Calm := only_sessions.mpr rfl
  refine (safe_noted hg₃ hstate hnoted₃).bind hg₃ fun _ g₄ _ hg₄ hnoted₄ => ?_
  cases endpoint with
  | none => exact Safe.ret fun g₅ hl₅ => ⟨l, hnoted₄.quiet hl₅.hist hl₅.rely⟩
  | some url =>
    refine (safe_noted hg₄ (Only.attempt (calm_ask _)) hnoted₄).bind hg₄
      fun result g₅ _ _ hnoted₅ => ?_
    cases result <;>
      exact Safe.ret fun g₆ hl₆ => ⟨l, hnoted₅.quiet hl₆.hist hl₆.rely⟩

theorem may_of_writes (hr : g.requests[t]? = some r) (hn : r.notifies = false)
    (h : Writes r op) : NotesMay g t op := by
  have hupdate {tenantId id : String} {u : SessionUpdate} (hu : u.notifications = none) :
      NotesMay g t (.session (.updateForTenant tenantId id u)) := by
    intro l hl
    rw [hu] at hl
    cases hl
  cases h with
  | routine h =>
    cases h with
    | query h =>
      rcases op with c | _ | _ | _
      · cases c with
        | findForTenant tenantId id type =>
          intro r' hr' hn'
          obtain rfl := Option.some.inj (hr.symm.trans hr')
          rw [hn] at hn'
          cases hn'
        | _ => trivial
      all_goals trivial
    | bookkeeping _ _ _ hnone => exact hupdate (hnone.resolve_right fun h => by simp [hn] at h)
    | opening _ _ hnone => exact hnone
    | present _ _ hnone => exact hnone
    | fetched _ => exact rfl
    | interactive _ => trivial
    | hosted _ => trivial
  | offer => exact rfl
  | push => exact hupdate rfl
  | pushNew => exact rfl
  | issueCode => exact hupdate rfl
  | bindCode => exact hupdate rfl
  | redeem => exact rfl
  | notified => exact rfl
  | cancelled => exact rfl
  | overdue => exact rfl
  | _ => trivial

end Handlers

/-- **Every request follows the discipline.** -/
theorem notes_verified (w : World) : (notes w).Verified := by
  intro g r hinv _ hg
  have hnone := (hinv.numbered.silent r).avoids isLookUp
  cases hn : r.notifies with
  | false =>
    have hsafe := Safe.of_only (D := notes w) hg (program_writes w r)
      fun _ _ _ hg' hop _ => may_of_writes hg'.request hn hop
    refine hsafe.imp hg fun a g' _ _ _ => ?_
    cases r with
    | credential q => cases hn
    | notification q => cases hn
    | _ => trivial
  | true =>
    cases r with
    | credential q =>
      exact (safe_getCredential hg hnone).bind hg fun a g₁ _ _ hpost =>
        Safe.ret fun g₂ hl₂ id hid => by
          obtain ⟨l, hnoted, hfound⟩ := hpost id hid
          exact ⟨l, hnoted.quiet hl₂.hist hl₂.rely, hfound⟩
    | notification q =>
      exact (safe_handleNotification hg hnone).bind hg fun a g₁ _ _ hpost =>
        Safe.ret fun g₂ hl₂ => by
          obtain ⟨l, hnoted⟩ := hpost
          exact ⟨l, hnoted.quiet hl₂.hist hl₂.rely⟩
    | _ => cases hn

/-! ## The list of a session along a run -/

theorem apply_notifications {s : Session} {u : SessionUpdate} (h : u.notifications = none) :
    (s.apply u).notifications = s.notifications := by
  show u.notifications.getD s.notifications = s.notifications
  rw [h, Option.getD_none]

/-- **What a call makes of the list of a session**: what it writes there, or what was there. -/
theorem notifications_after {k : String} {s s' : Session} (hmay : NotesMay g tid op)
    (hs : g.store.sessions.get k = some s)
    (hs' : ((backend w).after g tid op).store.sessions.get k = some s') :
    (∃ u, op = .session (.updateForTenant s.tenantId k u) ∧
      u.notifications = some s'.notifications) ∨
    (s'.notifications = s.notifications ∧
      ∀ u, op = .session (.updateForTenant s.tenantId k u) → u.notifications = none) := by
  have hid := Table.get_key hs
  -- the list is in no other update
  by_cases hwrite : ∃ u l, op = .session (.updateForTenant s.tenantId k u) ∧
      u.notifications = some l
  · obtain ⟨u, l, rfl, hl⟩ := hwrite
    have hrow : (SessionCall.updateForTenant s.tenantId k u).row g.store.clock k
        (g.store.sessions.get k) = some s' := by
      rw [← SessionCall.get_effect]
      exact hs'
    rw [hs] at hrow
    have hmatch : ofTenant s.tenantId k s = true := ofTenant_iff.mpr ⟨rfl, hid⟩
    simp only [SessionCall.row, Option.map_some, if_pos hmatch] at hrow
    obtain rfl := Option.some.inj hrow
    refine .inl ⟨u, rfl, ?_⟩
    show u.notifications = some (u.notifications.getD s.notifications)
    rw [hl, Option.getD_some]
  · right
    have hnone (u) (hop : op = .session (.updateForTenant s.tenantId k u)) :
        u.notifications = none := by
      cases hu : u.notifications with
      | none => rfl
      | some l => exact absurd ⟨u, l, hop, hu⟩ hwrite
    refine ⟨?_, hnone⟩
    rcases session_after hs' with ⟨s₀, hs₀, hsame | ⟨c, rfl, hchange⟩⟩ | ⟨_, _, _, hfree, _⟩
    · obtain rfl := Option.some.inj (hs.symm.trans hs₀)
      rw [hsame]
    · obtain rfl := Option.some.inj (hs.symm.trans hs₀)
      cases hchange with
      | same => rfl
      | counted h => rfl
      | anonymized => rfl
      | merged h => exact apply_notifications hmay
      | @updated _ u h =>
        refine apply_notifications ?_
        cases c with
        | updateForTenant tenantId id u' =>
          obtain ⟨rfl, rfl, rfl⟩ := h
          exact hnone _ (by rw [hid])
        | updateUnconsumedForTenant tenantId id u' => exact h.1 ▸ hmay
        | consumeRequestUri tenantId id expiresAt now => exact h.1 ▸ rfl
        | changeState tenantId id u' => exact h.1 ▸ hmay
        | changeStateFrom tenantId id from_ u' => exact h.1 ▸ hmay
        | _ => exact h.elim
    · rw [hs] at hfree
      cases hfree

/-- **A written list grows out of the stored one.** -/
theorem noted_by {k : String} {s s' : Session} (hmay : NotesMay g tid op)
    (hcur : NotesCurrent g tid op) (hs : g.store.sessions.get k = some s)
    (hs' : ((backend w).after g tid op).store.sessions.get k = some s') :
    (∃ u r, op = .session (.updateForTenant s.tenantId k u) ∧
      u.notifications = some s'.notifications ∧ g.requests[tid]? = some r ∧
      NotedBy r s.notifications s'.notifications) ∨
    (s'.notifications = s.notifications ∧
      ∀ u, op = .session (.updateForTenant s.tenantId k u) → u.notifications = none) := by
  refine (notifications_after hmay hs hs').imp_left fun ⟨u, hop, hu⟩ => ?_
  subst hop
  obtain ⟨r, s₀, hr, hlooks, hnoted⟩ := hmay _ hu
  have hsame := hcur s.tenantId k u _ s₀ s rfl hu hlooks.found hs rfl
  exact ⟨u, r, rfl, hu, hr, hsame ▸ hnoted⟩

theorem made_after {op' : Call} {a : Reply op'}
    (h : ((backend w).after g tid op).Made t op' a) : (t = tid ∧ op' = op) ∨ g.Made t op' a := by
  rcases List.mem_cons.mp h with heq | hold
  · injection heq with ht hop _
    exact .inl ⟨ht, hop⟩
  · exact .inr hold

/-- A list with `n` that thread `t` wrote into the session: the session knows `n`. -/
def KeepsId (t : Nat) (tenantId k n : String) (g : State) : Prop :=
  ∀ u l a, g.Made t (.session (.updateForTenant tenantId k u)) a → u.notifications = some l →
    (l.find? (·.id == n)).isSome = true →
    ∀ row, g.store.sessions.get k = some row → row.tenantId = tenantId →
      (row.notification n).isSome = true

theorem KeepsId.after {tenantId k n : String} (h : KeepsId t tenantId k n g)
    (hmay : NotesMay g tid op) (hcur : NotesCurrent g tid op) (hhas : HasSession g tenantId k) :
    KeepsId t tenantId k n ((backend w).after g tid op) := by
  obtain ⟨s, hs, rfl⟩ := hhas
  intro u l a hmade hu hl s' hs' _
  rcases noted_by hmay hcur hs hs' with ⟨u', r, rfl, hu', -, hnoted⟩ | ⟨hsame, hnone⟩
  · rcases made_after hmade with ⟨rfl, hop⟩ | hold
    · cases hop
      obtain rfl := Option.some.inj (hu.symm.trans hu')
      exact hl
    · obtain ⟨entry, hentry⟩ := Option.isSome_iff_exists.mp (h u l a hold hu hl s hs rfl)
      rcases hnoted.find hentry with hkept | ⟨_, _, _, hchanged⟩
      · rw [Session.notification, hkept]
        rfl
      · rw [Session.notification, hchanged]
        rfl
  · rcases made_after hmade with ⟨rfl, rfl⟩ | hold
    · rw [hnone u rfl] at hu
      cases hu
    · rw [Session.notification, hsame]
      exact h u l a hold hu hl s hs rfl

theorem NotBefore.extends {t t' : Nat} (h : NotBefore g t t') (hext : g.Extends g') :
    NotBefore g' t t' := by
  rcases h with rfl | ⟨newer, older, e, e', htrace, he, hw, hw'⟩
  · exact .inl rfl
  · obtain ⟨more, hmore⟩ := hext.trace
    refine .inr ⟨more ++ newer, older, e, e', ?_, he, hw, hw'⟩
    rw [← hmore, htrace, List.append_assoc]

theorem carries_extends {entry : Notification} (h : CarriesReport g t entry)
    (hext : g.Extends g') : CarriesReport g' t entry := by
  obtain ⟨t', q, hreq, hid, hevent, hdescription, hnot⟩ := h
  exact ⟨t', q, hext.request hreq, hid, hevent, hdescription, NotBefore.extends hnot hext⟩

/-- Thread `t` wrote the session after a report: its entry carries that report, or a later
one. -/
structure KeepsReport (t : Nat) (tenantId k : String) (q : NotificationRequest) (g : State) :
    Prop where
  request : g.requests[t]? = some (.notification q)
  kept : ∀ u l a, g.Made t (.session (.updateForTenant tenantId k u)) a →
    u.notifications = some l →
    ∀ row, g.store.sessions.get k = some row → row.tenantId = tenantId →
      ∃ entry, row.notification q.notification_id = some entry ∧ CarriesReport g t entry

theorem KeepsReport.after {tenantId k : String} {q : NotificationRequest}
    (h : KeepsReport t tenantId k q g) (hmay : NotesMay g tid op) (hcur : NotesCurrent g tid op)
    (hhas : HasSession g tenantId k) :
    KeepsReport t tenantId k q ((backend w).after g tid op) := by
  obtain ⟨s, hs, rfl⟩ := hhas
  have hext := System.extends_after (M := backend w) g tid op
  refine ⟨h.request, fun u l a hmade hu s' hs' _ => ?_⟩
  rcases noted_by hmay hcur hs hs' with ⟨u', r, rfl, hu', hr, hnoted⟩ | ⟨hsame, hnone⟩
  · rcases made_after hmade with ⟨rfl, hop⟩ | hold
    · -- the report itself
      obtain rfl := Option.some.inj (hr.symm.trans h.request)
      obtain ⟨entry, hentry, hid, hevent, hdescription⟩ := hnoted.reports
      exact ⟨entry, hentry, t, q, hr, hid.symm, hevent, hdescription, .inl rfl⟩
    · obtain ⟨entry, hentry, hcarries⟩ := h.kept u l a hold hu s hs rfl
      rcases hnoted.find hentry with hkept | ⟨q', rfl, hid, hchanged⟩
      · exact ⟨entry, hkept, carries_extends hcarries hext⟩
      · -- a later report on the same id
        have hentryid : entry.id = q.notification_id := by
          simpa using List.find?_some hentry
        refine ⟨_, hchanged, tid, q', hr, hid.trans hentryid.symm, rfl, rfl, .inr ?_⟩
        exact ⟨[], g.trace, _, _, rfl, hold, ⟨_, _, u, l, a, rfl, hu⟩,
          ⟨_, _, u', _, _, rfl, hu'⟩⟩
  · rcases made_after hmade with ⟨rfl, rfl⟩ | hold
    · rw [hnone u rfl] at hu
      cases hu
    · obtain ⟨entry, hentry, hcarries⟩ := h.kept u l a hold hu s hs rfl
      refine ⟨entry, ?_, carries_extends hcarries hext⟩
      rw [Session.notification, hsame]
      exact hentry

theorem KeepsReport.arrive {tenantId k : String} {q : NotificationRequest}
    (h : KeepsReport t tenantId k q g) (r : Request) : KeepsReport t tenantId k q (g.arrive r) := by
  have hext := Global.extends_arrive g r
  refine ⟨hext.request h.request, fun u l a hmade hu row hrow htenant => ?_⟩
  obtain ⟨entry, hentry, hcarries⟩ := h.kept u l a hmade hu row hrow htenant
  exact ⟨entry, hentry, carries_extends hcarries hext⟩

theorem KeepsReport.pass {tenantId k : String} {q : NotificationRequest}
    (h : KeepsReport t tenantId k q g) (e : Nat) :
    KeepsReport t tenantId k q ((backend w).pass g e) := by
  refine ⟨h.request, fun u l a hmade hu row hrow htenant => ?_⟩
  obtain ⟨entry, hentry, hcarries⟩ := h.kept u l a hmade hu row hrow htenant
  exact ⟨entry, hentry, carries_extends hcarries (System.extends_pass g e)⟩

theorem inv_start (st : Store) : NotesInv ⟨st, [], []⟩ :=
  ⟨Global.numbered_start st, fun _ _ _ _ _ _ h _ => (List.not_mem_nil h).elim⟩

/-- **From the look-up of its session on**, a thread keeps what it notes there: the calls
meet the condition, the thread has noted nothing yet, and what it notes later it notes in
this session. -/
theorem of_lookUp {st : Store} {ms₁ ms₂ : Schedule} {tenantId k : String}
    (hcur : (backend w).Guarded NotesCurrent (.start st) (ms₁ ++ .resume t :: ms₂))
    (hwait : System.waiting ((backend w).run (.start st) ms₁) t =
      some (.session (.findForTenant tenantId k none)))
    (hr : ((backend w).run (.start st) (ms₁ ++ .resume t :: ms₂)).global.requests[t]? = some r)
    (hn : r.notifies = true) :
    (backend w).Guarded (fun g tid op => NotesCurrent g tid op ∧ NotesMay g tid op)
        ((backend w).run (.start st) ms₁) (.resume t :: ms₂) ∧
      ((backend w).run (.start st) ms₁).global.requests[t]? = some r ∧
      (∀ u l a, ((backend w).run (.start st) ms₁).global.Made t
        (.session (.updateForTenant tenantId k u)) a → u.notifications ≠ some l) ∧
      ∀ l, Noted ((backend w).run (.start st) (ms₁ ++ .resume t :: ms₂)).global t l →
        ∃ u a, u.notifications = some l ∧
          ((backend w).run (.start st) (ms₁ ++ .resume t :: ms₂)).global.Made t
            (.session (.updateForTenant tenantId k u)) a := by
  have hguarded := hcur.and (Discipline.run_guarded (notes_verified w)
    (Discipline.holds_start (inv_start st)) (fun _ _ => trivial)
    (System.guarded_of_forall (fun _ _ _ => trivial) _ (ms₁ ++ .resume t :: ms₂)))
  have htail := (System.guarded_append.mp hguarded).2
  obtain ⟨r', next, hget⟩ := System.waiting_eq_some hwait
  obtain ⟨-, hinv, hmay⟩ := htail.1 t r' _ next rfl hget
  have hext := System.extends_run (M := backend w) ((backend w).run (.start st) ms₁)
    (.resume t :: ms₂)
  rw [← System.run_append] at hext
  have hreq := Config.global_request hget
  obtain rfl := Option.some.inj ((hext.request hreq).symm.trans hr)
  refine ⟨htail.mono fun _ _ _ h => ⟨h.1, h.2.2⟩, hreq, fun u l a hmade hu => ?_,
    fun l hnoted => ?_⟩
  · -- a thread that has written has looked up before
    obtain ⟨s, hs⟩ := hinv.looked t tenantId k u l a hmade hu
    exact hmay r' hreq hn _ hs rfl trivial
  · obtain ⟨tenantId', k', s, u, a, hlooks, hu, hmade⟩ := hnoted
    have hevent := System.waiting_event (M := backend w) hwait ms₂
    rw [← System.run_append] at hevent
    have hsame := hlooks.only _ hevent rfl trivial
    injection hsame with _ hop _
    cases hop
    exact ⟨u, a, hu, hmade⟩

end Notifications

open Notifications in
/-- **No notification is lost** in every run in which the list a thread replaces is the list
it read. -/
theorem notifications_kept (w : World) (st : Store) (ms : Schedule)
    (hcur : (backend w).Guarded NotesCurrent (.start st) ms) : NotificationsKept w st ms := by
  have hholds := Discipline.run_holds (notes_verified w)
    (Discipline.holds_start (inv_start st)) (fun _ _ => trivial)
    (System.guarded_of_forall (fun _ _ _ => trivial) _ ms)
  constructor
  · rintro ms₁ ms₂ t q r tenantId k n rfl hwait ⟨hstays, hhas⟩ ha hn
    obtain ⟨htail, -, hfresh, hhere⟩ := of_lookUp hcur hwait (Config.global_request ha) rfl
    obtain ⟨l, hnoted, hfound⟩ := hholds.answer ha n hn
    obtain ⟨u, a, hu, hmade⟩ := hhere l hnoted
    have hkeep := (htail.and hstays).keeps (K := KeepsId t tenantId k n)
      (fun u l a h hu => absurd hu (hfresh u l a h))
      (fun hok h => h.after hok.1.2 hok.1.1 hok.2) (fun _ h => h) (fun _ h => h)
    rw [← System.run_append] at hkeep hhas
    obtain ⟨row, hrow, htenant⟩ := hhas
    exact ⟨row, hrow, hkeep u l a hmade hu hfound row hrow htenant⟩
  · rintro ms₁ ms₂ t q b tenantId k rfl hwait ⟨hstays, hhas⟩ ha
    obtain ⟨htail, hreq, hfresh, hhere⟩ := of_lookUp hcur hwait (Config.global_request ha) rfl
    obtain ⟨l, hnoted⟩ := hholds.answer ha
    obtain ⟨u, a, hu, hmade⟩ := hhere l hnoted
    have hstart : KeepsReport t tenantId k q ((backend w).run (.start st) ms₁).global :=
      ⟨hreq, fun u l a h hu => absurd hu (hfresh u l a h)⟩
    have hkeep := (htail.and hstays).keeps hstart
      (fun hok h => h.after hok.1.2 hok.1.1 hok.2) (fun r h => h.arrive r) (fun e h => h.pass e)
    rw [← System.run_append] at hkeep hhas
    obtain ⟨row, hrow, htenant⟩ := hhas
    obtain ⟨entry, hentry, hcarries⟩ := hkeep.kept u l a hmade hu row hrow htenant
    exact ⟨row, entry, hrow, hentry, hcarries⟩

/-! ## Two runs -/

namespace Notifications

open Deployment

/-- A credential request for the offer's session, which is `unary 1`. -/
def credential : Request :=
  .credential { tenantId := "tenant", accessToken := unary 1, body := "" }

/-- A report on the first issued credential, whose notification has the id `unary 3`. -/
def report (event : NotificationEvent) : Request :=
  .notification { tenantId := "tenant", accessToken := unary 1, notification_id := unary 3, event }

/-- Two credentials are issued, and two reports made on the first, one after the other. -/
def oneByOne : Schedule :=
  offer 0 .pre_authorized_code none ++ serve 1 credential 6 ++ serve 2 credential 6 ++
    serve 3 (report .credential_accepted) 4 ++ serve 4 (report .credential_deleted) 4

def hasThird : Response → Bool
  | .credential r => r.notification_id == some (unary 3)
  | _ => false

/-- An offer, and two credential requests of which the first has looked the session up. -/
def lookedUp : Schedule :=
  offer 0 .pre_authorized_code none ++ serve 1 credential 2 ++ [.arrive credential, .resume 2]

/-- The second request looks the session up and finishes; then the first one does. -/
def overlapping : Schedule :=
  lookedUp ++ .resume 2 :: (List.replicate 4 (.resume 2) ++ List.replicate 4 (.resume 1))

/-- If the event is a look-up of the session by this thread, it found this list. -/
def found (tid : Nat) (tenantId k : String) (ns : List Notification) : Answered → Bool
  | ⟨t, .session (.findForTenant tenantId' k' none), some s⟩ =>
    t != tid || tenantId' != tenantId || k' != k || ns == s.notifications
  | _ => true

/-- `NotesCurrent`, evaluated. -/
def notesCurrent (g : State) (tid : Nat) : Call → Bool
  | .session (.updateForTenant tenantId k u) => u.notifications.isNone ||
    (g.store.sessions.get k).all fun row =>
      row.tenantId != tenantId || g.trace.all (found tid tenantId k row.notifications)
  | _ => true

theorem notesCurrent_sound (g : State) (tid : Nat) (op : Call)
    (h : notesCurrent g tid op = true) : NotesCurrent g tid op := by
  rintro tenantId k u l s row rfl hl hfinds hrow htenant
  have hevents : g.trace.all (found tid tenantId k row.notifications) = true := by
    simpa only [notesCurrent, hl, hrow, htenant, Option.isNone_some, Bool.false_or,
      Option.all_some, bne_self_eq_false] using h
  simpa [found] using List.all_eq_true.mp hevents _ hfinds

/-- `HasSession`, evaluated. -/
def hasSession (tenantId k : String) (g : State) : Bool :=
  (g.store.sessions.get k).any fun row => row.tenantId == tenantId

theorem hasSession_sound {tenantId k : String} {g : State} (h : hasSession tenantId k g = true) :
    HasSession g tenantId k := by
  obtain ⟨row, hrow, htenant⟩ := (Option.any_eq_true _ _).mp h
  exact ⟨row, hrow, by simpa using htenant⟩

theorem stays_of_checks {w : World} {tenantId k : String} {c : Backend} {ms : Schedule}
    (h : (backend w).checks (fun g _ _ => hasSession tenantId k g) c ms = true)
    (h' : hasSession tenantId k ((backend w).run c ms).global = true) :
    SessionStays w tenantId k c ms :=
  ⟨System.guarded_of_checks (fun _ _ _ => hasSession_sound) h, hasSession_sound h'⟩

end Notifications

/-- Requests that do not overlap keep what they note, as the theorem says. -/
theorem notifications_kept_of_oneByOne :
    NotificationsKept (deployment {}) freshStore Notifications.oneByOne :=
  notifications_kept _ _ _
    (System.guarded_of_checks Notifications.notesCurrent_sound (by decide +kernel))

/-- **An overlapping credential request forgets an id**: it writes the list it had read
before the other request added its notification. -/
theorem not_notifications_kept :
    ¬NotificationsKept (deployment {}) freshStore Notifications.overlapping := by
  intro h
  obtain ⟨a, hid, ha⟩ := Deployment.answers_of_any
    (c := Deployment.play {} Notifications.overlapping) (r := Notifications.credential) 2
    Notifications.hasThird rfl (by decide +kernel)
  cases a with
  | credential r =>
    obtain ⟨row, hrow, hknown⟩ := h.returned Notifications.lookedUp _ 2 _ r "tenant"
      (Deployment.unary 1) (Deployment.unary 3) rfl rfl
      (Notifications.stays_of_checks (by decide +kernel) (by decide +kernel)) ha
      (by simpa [Notifications.hasThird] using hid)
    have hlost : ((Deployment.play {} Notifications.overlapping).store.sessions.get
        (Deployment.unary 1)).all (fun row =>
          (row.notification (Deployment.unary 3)).isNone) = true := by decide +kernel
    have hsome : (Deployment.play {} Notifications.overlapping).store.sessions.get
        (Deployment.unary 1) = some row := hrow
    rw [hsome, Option.all_some] at hlost
    rw [Option.isNone_iff_eq_none.mp hlost] at hknown
    cases hknown
  | _ => cases hid

end Eudiplo
