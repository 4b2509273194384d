import Eudiplo.Backend.Deployment
import Eudiplo.Backend.Equality
import Eudiplo.Backend.Footprint
import Eudiplo.Concurrency.Replay
import Eudiplo.Concurrency.Twins
import Eudiplo.Credential.Effects

/-!
# What retention leaves of personal data

`CleanupSessions` deletes or anonymizes the rows of the session table.  Claims and presented
credentials are stored in two further tables: an interactive authorization keeps the response the
wallet submitted, a deferred transaction the credential that is ready.

`retention_erases` compares two runs that differ only in such data, up to and with a cleanup for
which every session is overdue: they leave the same rows, if no interactive authorization stored a
response and no transaction was made ready.
-/

namespace Eudiplo

open Concurrency Prog Storage

/-! ## Runs that differ only in data -/

def SessionUpdate.veil (u : SessionUpdate) : SessionUpdate :=
  { u with credentialPayload := none, credentials := none }

def Session.veil (s : Session) : Session :=
  { s with credentialPayload := none, credentials := none }

def SessionCall.veil : SessionCall → SessionCall
  | .create id tenantId u => .create id tenantId u.veil
  | .updateForTenant tenantId id u => .updateForTenant tenantId id u.veil
  | .updateUnconsumedForTenant tenantId id u => .updateUnconsumedForTenant tenantId id u.veil
  | .changeState tenantId id u => .changeState tenantId id u.veil
  | .changeStateFrom tenantId id from_ u => .changeStateFrom tenantId id from_ u.veil
  | c => c

def CompletedStep.veil (s : CompletedStep) : CompletedStep := { s with data := none }

def InteractiveAuthSessionUpdate.veil (u : InteractiveAuthSessionUpdate) :
    InteractiveAuthSessionUpdate :=
  { u with
    presentationData := none
    completedStepsData := u.completedStepsData.map (·.map CompletedStep.veil) }

def InteractiveAuthSession.veil (s : InteractiveAuthSession) : InteractiveAuthSession :=
  { s with
    presentationData := none
    completedStepsData := s.completedStepsData.map CompletedStep.veil }

def InteractiveCall.veil : InteractiveCall → InteractiveCall
  | .create s => .create s.veil
  | .update id u => .update id u.veil
  | .updateForTenant tenantId authSession u => .updateForTenant tenantId authSession u.veil
  | c => c

def TransactionCall.veil : TransactionCall → TransactionCall
  | .create transaction => .create { transaction with credential := none }
  | .markReady tenantId transactionId _ => .markReady tenantId transactionId ""
  | c => c

def Call.Alike : Call → Call → Prop
  | .session c₁, .session c₂ => c₁.veil = c₂.veil
  | .interactive c₁, .interactive c₂ => c₁.veil = c₂.veil
  | .chained _, .chained _ => True
  | .env _, .env _ => True
  | _, _ => False

def CredentialCall.Alike : CredentialCall → CredentialCall → Prop
  | .nonces _, .nonces _ => True
  | .transactions c₁, .transactions c₂ => c₁.veil = c₂.veil
  | .now, .now | .uuid, .uuid | .ask _, .ask _ => True
  | _, _ => False

/-! ## The cleanup -/

/-- A cleanup that no other flow writes beside: it arrives as request `t`, and time may pass
between its calls. -/
def cleaning (t : Nat) (pauses : List (Option Nat)) : Schedule :=
  .arrive .cleanup :: pauses.map (System.alone t)

def beforeCleanup (w : World) (st : Store) (ms : Schedule) : Backend :=
  (backend w).run (.start st) ms

def withCleanup (w : World) (st : Store) (ms : Schedule) (pauses : List (Option Nat)) : Schedule :=
  ms ++ cleaning (beforeCleanup w st ms).threads.length pauses

def afterCleanup (w : World) (st : Store) (ms : Schedule) (pauses : List (Option Nat)) : Backend :=
  (backend w).run (.start st) (withCleanup w st ms pauses)

/-- The retention that request `t` was told: the tenants' and the default. -/
def retentionOf (t : Nat) : Answered → Option (List TenantRetention × Nat)
  | ⟨tid, .env (.ask .tenantRetention), .ok r⟩ => if tid = t then some r else none
  | _ => none

/-- **The cutoff of the session's tenant is later than its creation**: the tenant's own, or the
default one where the tenant is not among those known. -/
def Session.overdue (clock : Time) (r : List TenantRetention × Nat) (s : Session) : Bool :=
  (r.1.any fun tenant =>
    tenant.tenantId == s.tenantId && s.createdAt < clock - tenant.ttlSeconds * 1000) ||
  (!r.1.isEmpty && (!(r.1.map (·.tenantId)).contains s.tenantId &&
    s.createdAt < clock - r.2 * 1000))

/-- **The cleanup ran to its end**, with a cutoff later than the creation of every session. -/
structure CleansUp (w : World) (st : Store) (ms : Schedule) (pauses : List (Option Nat)) :
    Prop where
  returned : ((afterCleanup w st ms pauses).threads[(beforeCleanup w st ms).threads.length]?.bind
    fun thread => thread.body.response?).isSome = true
  overdue : ∀ r ∈ (afterCleanup w st ms pauses).trace.filterMap
      (retentionOf (beforeCleanup w st ms).threads.length),
    ∀ s ∈ (beforeCleanup w st ms).store.sessions.rows,
      s.overdue (beforeCleanup w st ms).store.clock r = true

/-! ## The claim -/

/-- **Two runs that differ only in claim values and presented credentials**, of the flows and of
the deferred transactions, with a cleanup after the flows. -/
structure DifferInData (w₁ w₂ : World) (st : Store) (ms₁ ms₂ : Schedule)
    (pauses : List (Option Nat)) (v₁ v₂ : CredentialWorld) (cst : CredentialStore)
    (ns₁ ns₂ : CredentialSchedule) : Prop where
  flows : System.Twins (backend w₁) (backend w₂) Call.Alike (.start st) (.start st)
    (withCleanup w₁ st ms₁ pauses) (withCleanup w₂ st ms₂ pauses)
  deferred : System.Twins (credentialEndpoints v₁) (credentialEndpoints v₂) CredentialCall.Alike
    (.start cst) (.start cst) ns₁ ns₂
  cleaned₁ : CleansUp w₁ st ms₁ pauses
  cleaned₂ : CleansUp w₂ st ms₂ pauses

/-- **The stored rows are equal** in both runs. -/
structure SameRows (b₁ b₂ : Store) (d₁ d₂ : CredentialStore) : Prop where
  sessions : ∀ k, b₁.sessions.get k = b₂.sessions.get k
  interactive : ∀ k, b₁.interactive.get k = b₂.interactive.get k
  transactions : ∀ k, d₁.transactions.get k = d₂.transactions.get k

/-! ## The condition -/

/-- Does the row keep what a wallet presented? -/
def InteractiveAuthSession.keepsPresentation (s : InteractiveAuthSession) : Bool :=
  s.presentationData.isSome || s.completedStepsData.any (·.data.isSome)

/-- Does the update store what a wallet presented? -/
def InteractiveAuthSessionUpdate.storesPresentation (u : InteractiveAuthSessionUpdate) : Bool :=
  u.presentationData.isSome || u.completedStepsData.any (·.any (·.data.isSome))

/-- Does the call store what a wallet presented in an interactive authorization? -/
def Call.storesPresentation : Call → Bool
  | .interactive (.create s) => s.keepsPresentation
  | .interactive (.update _ u) | .interactive (.updateForTenant _ _ u) => u.storesPresentation
  | _ => false

/-- Does the call store the credential of a deferred transaction? -/
def CredentialCall.storesCredential : CredentialCall → Bool
  | .transactions (.create transaction) => transaction.credential.isSome
  | .transactions (.markReady ..) => true
  | _ => false

/-- **The condition**: no interactive authorization stores what the wallet presented, and no
deferred transaction becomes ready. -/
structure KeepsNothing (w : World) (st : Store) (ms : Schedule) (pauses : List (Option Nat))
    (v : CredentialWorld) (cst : CredentialStore) (ns : CredentialSchedule) : Prop where
  flows : (backend w).Guarded (fun _ _ op => op.storesPresentation = false) (.start st)
    (withCleanup w st ms pauses)
  deferred : (credentialEndpoints v).Guarded (fun _ _ op => op.storesCredential = false)
    (.start cst) ns

namespace Retention

variable {w w₁ w₂ : World}

/-! ## Two runs, row by row -/

@[simp] theorem veil_apply (s : Session) (u : SessionUpdate) :
    (s.apply u).veil = s.veil.apply u.veil := rfl

@[simp] theorem veil_newSession (id tenantId : String) (t : Time) (u : SessionUpdate) :
    (newSession id tenantId t u).veil = newSession id tenantId t u.veil := rfl

@[simp] theorem veil_mergeSession (tenantId : String) (u : SessionUpdate) (s : Session) :
    (mergeSession tenantId u s).veil = mergeSession tenantId u.veil s.veil := rfl

theorem anonymize_of_clean {s : Session} (h : s.hasPersonalData = false) : s.anonymize = s := by
  simp only [Session.hasPersonalData, Bool.or_eq_false_iff, Option.isSome_eq_false_iff,
    Option.isNone_iff_eq_none] at h
  obtain ⟨⟨⟨⟨⟨hcredentials, hpayload⟩, hqueries⟩, hoffer⟩, hobject⟩, hkey⟩ := h
  cases s
  simp_all [Session.anonymize]

theorem anonymized_iff (p : Bool) (s : Session) :
    (if (p && s.hasPersonalData) = true then s.anonymize else s) =
      if p then s.anonymize else s := by
  cases hdata : s.hasPersonalData with
  | true => rw [Bool.and_true]
  | false =>
    rw [Bool.and_false, if_neg Bool.false_ne_true, anonymize_of_clean hdata, ite_self]

theorem veil_changed (p : Session → Bool) (hp : ∀ s, p s.veil = p s) (f f' : Session → Session)
    (hf : ∀ s, (f s).veil = (f' s.veil).veil) (o : Option Session) :
    (o.map fun s => if p s then f s else s).map Session.veil =
      ((o.map Session.veil).map fun s => if p s then f' s else s).map Session.veil := by
  cases o with
  | none => rfl
  | some s =>
    simp only [Option.map_some, hp]
    by_cases h : p s = true
    · rw [if_pos h, if_pos h, hf s]
    · rw [if_neg h, if_neg h]
      rfl

theorem veil_filter (p : Session → Bool) (hp : ∀ s, p s.veil = p s) (o : Option Session) :
    (o.filter p).map Session.veil = ((o.map Session.veil).filter p).map Session.veil := by
  cases o with
  | none => rfl
  | some s =>
    simp only [Option.filter_some, Option.map_some, hp]
    by_cases h : p s = true
    · rw [if_pos h, if_pos h]
      rfl
    · rw [if_neg h, if_neg h]

/-- **Veiling a row and a call veils what the call makes of the row.** -/
theorem veil_row (clock : Time) (k : String) (o : Option Session) (c : SessionCall) :
    (c.row clock k o).map Session.veil =
      (c.veil.row clock k (o.map Session.veil)).map Session.veil := by
  have hsame : o.map Session.veil = (o.map Session.veil).map Session.veil := by cases o <;> rfl
  have hupdated (p : Session → Bool) (hp : ∀ s, p s.veil = p s) (u : SessionUpdate) :
      (o.map fun s => if p s then s.apply u else s).map Session.veil =
        ((o.map Session.veil).map fun s => if p s then s.apply u.veil else s).map Session.veil :=
    veil_changed p hp (·.apply u) (·.apply u.veil) (fun _ => rfl) o
  cases c with
  | create id tenantId u =>
    by_cases hid : id = k
    · simp only [SessionCall.row, SessionCall.veil, if_pos hid]
      cases o <;> rfl
    · simp only [SessionCall.row, SessionCall.veil, if_neg hid]
      exact hsame
  | updateForTenant tenantId id u => exact hupdated _ (fun _ => rfl) u
  | updateUnconsumedForTenant tenantId id u => exact hupdated _ (fun _ => rfl) u
  | consumeRequestUri tenantId id expiresAt now =>
    by_cases hle : expiresAt ≤ now
    · simp only [SessionCall.row, SessionCall.veil, if_pos hle]
      exact hsame
    · simp only [SessionCall.row, SessionCall.veil, if_neg hle]
      exact hupdated (fun s => ofTenant tenantId id s && s.request_uri_expires_at == some expiresAt)
        (fun _ => rfl) _
  | changeState tenantId id u => exact hupdated _ (fun _ => rfl) u
  | changeStateFrom tenantId id from_ u => exact hupdated _ (fun _ => rfl) u
  | incrementFailedTxCodeAttempts tenantId id =>
    exact veil_changed (ofTenant tenantId id) (fun _ => rfl) Session.countFailedTxCode
      Session.countFailedTxCode (fun _ => rfl) o
  | deleteSessionsCreatedBefore tenantId cutoff => exact veil_filter _ (fun _ => rfl) o
  | anonymizeSessionsCreatedBefore tenantId cutoff =>
    simp only [SessionCall.row, SessionCall.veil, anonymized_iff]
    exact veil_changed (fun s => s.tenantId == tenantId && s.createdAt < cutoff) (fun _ => rfl) _
      Session.anonymize (fun _ => rfl) o
  | deleteOrphanedSessionsCreatedBefore known cutoff =>
    by_cases hempty : known.isEmpty = true
    · simp only [SessionCall.row, SessionCall.veil, if_pos hempty]
      exact hsame
    · simp only [SessionCall.row, SessionCall.veil, if_neg hempty]
      exact veil_filter _ (fun _ => rfl) o
  | _ => exact hsame

/-! ## Two runs, call by call -/

/-- The sessions of two stores, up to claims and presented credentials. -/
structure SessionsAlike (s₁ s₂ : Store) : Prop where
  clock : s₁.clock = s₂.clock
  rows : ∀ k, (s₁.sessions.get k).map Session.veil = (s₂.sessions.get k).map Session.veil

theorem sessionsAlike_answer {op₁ op₂ : Call} {s₁ s₂ : Store} (hop : op₁.Alike op₂)
    (h : SessionsAlike s₁ s₂) : SessionsAlike (answer w₁ op₁ s₁).2 (answer w₂ op₂ s₂).2 := by
  refine ⟨?_, fun k => ?_⟩
  · rw [answer_clock, answer_clock]
    exact h.clock
  cases op₁ with
  | session c₁ =>
    cases op₂ with
    | session c₂ =>
      have hveil : c₁.veil = c₂.veil := hop
      rw [answer_session, answer_session]
      show ((c₁.effect _ _).get k).map Session.veil = ((c₂.effect _ _).get k).map Session.veil
      rw [SessionCall.get_effect, SessionCall.get_effect, veil_row, veil_row _ _ _ c₂, hveil,
        h.clock, h.rows k]
    | _ => exact hop.elim
  | interactive c₁ =>
    cases op₂ with
    | interactive c₂ => exact h.rows k
    | _ => exact hop.elim
  | chained c₁ =>
    cases op₂ with
    | chained c₂ => exact h.rows k
    | _ => exact hop.elim
  | env c₁ =>
    cases op₂ with
    | env c₂ =>
      rw [sessions_frame rfl, sessions_frame rfl]
      exact h.rows k
    | _ => exact hop.elim

theorem veil_steps {steps : List CompletedStep} (h : steps.any (·.data.isSome) = false) :
    steps.map CompletedStep.veil = steps := by
  have hveil (step : CompletedStep) (hmem : step ∈ steps) : step.veil = step := by
    have hnone : step.data = none := by
      have := List.any_eq_false.mp h step hmem
      simpa using this
    cases step
    cases hnone
    rfl
  rw [List.map_congr_left hveil, List.map_id']

theorem veil_interactiveUpdate {u : InteractiveAuthSessionUpdate}
    (h : u.storesPresentation = false) : u.veil = u := by
  obtain ⟨hdata, hsteps⟩ := Bool.or_eq_false_iff.mp h
  obtain ⟨status, uri, expiry, data, index, steps, code⟩ := u
  obtain rfl : data = none := by simpa using hdata
  cases steps with
  | none => rfl
  | some steps => simp only [InteractiveAuthSessionUpdate.veil, Option.map_some, veil_steps hsteps]

/-- **A call that stores nothing presented** is as veiling leaves it. -/
theorem veil_interactiveCall {c : InteractiveCall}
    (h : (Call.interactive c).storesPresentation = false) : c.veil = c := by
  cases c with
  | create s =>
    obtain ⟨hdata, hsteps⟩ := Bool.or_eq_false_iff.mp h
    have hnone : s.presentationData = none := by simpa using hdata
    have hveil : s.veil = s := by
      rw [InteractiveAuthSession.veil, veil_steps hsteps]
      cases s
      cases hnone
      rfl
    rw [InteractiveCall.veil, hveil]
  | findForTenant tenantId authSession => rfl
  | update id u => rw [InteractiveCall.veil, veil_interactiveUpdate h]
  | updateForTenant tenantId authSession u =>
    rw [InteractiveCall.veil, veil_interactiveUpdate h]
  | delete id => rfl

theorem interactive_answer {op₁ op₂ : Call} {s₁ s₂ : Store} (hop : op₁.Alike op₂)
    (h₁ : op₁.storesPresentation = false) (h₂ : op₂.storesPresentation = false)
    (h : s₁.interactive = s₂.interactive) :
    (answer w₁ op₁ s₁).2.interactive = (answer w₂ op₂ s₂).2.interactive := by
  cases op₁ with
  | session c₁ =>
    cases op₂ with
    | session c₂ => exact h
    | _ => exact hop.elim
  | interactive c₁ =>
    cases op₂ with
    | interactive c₂ =>
      have hveil : c₁.veil = c₂.veil := hop
      rw [veil_interactiveCall h₁, veil_interactiveCall h₂] at hveil
      rw [answer_interactive, answer_interactive, hveil, h]
    | _ => exact hop.elim
  | chained c₁ =>
    cases op₂ with
    | chained c₂ => exact h
    | _ => exact hop.elim
  | env c₁ =>
    cases op₂ with
    | env c₂ =>
      have hframe {w : World} (c : EnvCall) (s : Store) :
          (answer w (.env c) s).2.interactive = s.interactive :=
        interactive_frame (c := .env c) (fun _ he => nomatch he) s
      rw [hframe, hframe, h]
    | _ => exact hop.elim

theorem veil_transactionCall {c : TransactionCall}
    (h : (CredentialCall.transactions c).storesCredential = false) : c.veil = c := by
  cases c with
  | create transaction =>
    have hnone : transaction.credential = none := by simpa [CredentialCall.storesCredential] using h
    cases transaction
    cases hnone
    rfl
  | markReady => cases h
  | _ => rfl

theorem transactions_answer {v₁ v₂ : CredentialWorld} {op₁ op₂ : CredentialCall}
    {s₁ s₂ : CredentialStore} (hop : op₁.Alike op₂) (h₁ : op₁.storesCredential = false)
    (h₂ : op₂.storesCredential = false) (h : s₁.transactions = s₂.transactions) :
    (op₁.answer v₁ s₁).2.transactions = (op₂.answer v₂ s₂).2.transactions := by
  cases op₁ with
  | transactions c₁ =>
    cases op₂ with
    | transactions c₂ =>
      have hveil : c₁.veil = c₂.veil := hop
      rw [veil_transactionCall h₁, veil_transactionCall h₂] at hveil
      subst hveil
      exact congrArg (fun t => (c₁.answer t).2) h
    | _ => exact hop.elim
  | _ =>
    cases op₂ with
    | transactions c₂ => exact hop.elim
    | _ => exact h

/-! ## A cleanup that runs alone -/

def Sweeps (tenantId : String) (createdAt : Time) : SessionCall → Prop
  | .deleteSessionsCreatedBefore swept cutoff
  | .anonymizeSessionsCreatedBefore swept cutoff => tenantId = swept ∧ createdAt < cutoff
  | .deleteOrphanedSessionsCreatedBefore known cutoff =>
    known.isEmpty = false ∧ known.contains tenantId = false ∧ createdAt < cutoff
  | _ => False

/-- What a call of the cleanup leaves of a row. -/
structure Tidied (c : SessionCall) (s s' : Session) : Prop where
  tenantId : s'.tenantId = s.tenantId
  createdAt : s'.createdAt = s.createdAt
  clean : s.hasPersonalData = false ∨ Sweeps s.tenantId s.createdAt c → s'.hasPersonalData = false

theorem row_none_of_cleanup {c : SessionCall} (h : Writes .cleanup (.session c)) (clock : Time)
    (k : String) : c.row clock k none = none := by
  cases h with
  | routine hroutine =>
    cases hroutine with
    | query hquery => exact SessionCall.row_of_isQuery hquery clock k none
    | bookkeeping hr => cases hr
    | opening hr => cases hr
    | present hr => cases hr
    | fetched hr => cases hr
  | overdue => rfl
  | outlived => rfl
  | anonymized => rfl
  | orphaned =>
    simp only [SessionCall.row]
    split <;> rfl

theorem tidied_row {c : SessionCall} {clock : Time} {k : String} {s s' : Session}
    (h : Writes .cleanup (.session c)) (hrow : c.row clock k (some s) = some s') :
    Tidied c s s' := by
  cases h with
  | routine hroutine =>
    cases hroutine with
    | query hquery =>
      rw [SessionCall.row_of_isQuery hquery] at hrow
      cases hrow
      refine ⟨rfl, rfl, fun hclean => hclean.elim id fun hsweeps => ?_⟩
      cases c <;> first | exact hsweeps.elim | cases hquery
    | bookkeeping hr => cases hr
    | opening hr => cases hr
    | present hr => cases hr
    | fetched hr => cases hr
  | @overdue tenantId sessionId =>
    simp only [SessionCall.row, Option.map_some, Option.some.injEq] at hrow
    split at hrow
    · subst hrow
      refine ⟨rfl, rfl, fun hclean => hclean.elim (fun hclean => ?_) fun hsweeps => hsweeps.elim⟩
      -- the state update only drops the response key
      have hdata : (s.apply (stateUpdate .expired)).hasPersonalData =
          (s.credentials.isSome || s.credentialPayload.isSome || s.auth_queries.isSome ||
            s.offer.isSome || s.requestObject.isSome || false) := rfl
      rw [hdata, Bool.or_false]
      exact (Bool.or_eq_false_iff.mp hclean).1
    · subst hrow
      exact ⟨rfl, rfl, fun hclean => hclean.elim id fun hsweeps => hsweeps.elim⟩
  | @outlived tenantId cutoff =>
    rw [SessionCall.row] at hrow
    obtain ⟨heq, hkeep⟩ := Option.filter_eq_some_iff.mp hrow
    cases heq
    refine ⟨rfl, rfl, fun hclean => hclean.elim id fun hsweeps => ?_⟩
    simp [hsweeps.1, hsweeps.2] at hkeep
  | @anonymized tenantId cutoff =>
    simp only [SessionCall.row, anonymized_iff, Option.map_some, Option.some.injEq] at hrow
    split at hrow
    · subst hrow
      exact ⟨rfl, rfl, fun _ => rfl⟩
    · rename_i hnot
      subst hrow
      refine ⟨rfl, rfl, fun hclean => hclean.elim id fun hsweeps => ?_⟩
      simp [hsweeps.1, hsweeps.2] at hnot
  | @orphaned known cutoff =>
    by_cases hempty : known.isEmpty = true
    · rw [SessionCall.row, if_pos hempty] at hrow
      cases hrow
      refine ⟨rfl, rfl, fun hclean => hclean.elim id fun hsweeps => ?_⟩
      rw [hsweeps.1] at hempty
      cases hempty
    · rw [SessionCall.row, if_neg hempty] at hrow
      obtain ⟨heq, hkeep⟩ := Option.filter_eq_some_iff.mp hrow
      cases heq
      refine ⟨rfl, rfl, fun hclean => hclean.elim id fun hsweeps => ?_⟩
      rw [hsweeps.2.1] at hkeep
      simp [hsweeps.2.2] at hkeep

/-- **What holds along a cleanup**: its rows are those of before, and those its calls have swept
hold no personal data. -/
structure Swept (before : State) (t : Nat) (g : State) : Prop where
  cleaning : g.requests[t]? = some .cleanup
  clock : before.store.clock ≤ g.store.clock
  times : ∀ n, g.Made t (.env .now) n → before.store.clock ≤ n
  rows : ∀ k s', g.store.sessions.get k = some s' → ∃ s, before.store.sessions.get k = some s ∧
    s'.tenantId = s.tenantId ∧ s'.createdAt = s.createdAt
  swept : ∀ c r k s, g.Made t (.session c) r → Sweeps s.tenantId s.createdAt c →
    g.store.sessions.get k = some s → s.hasPersonalData = false

theorem swept_after {before g : State} {t : Nat} {op : Call} (h : Swept before t g)
    (hop : Writes .cleanup op) : Swept before t ((backend w).after g t op) := by
  have hext : g.Extends ((backend w).after g t op) := System.extends_after _ _ _
  -- a row comes from the row before, and keeps what the cutoffs look at
  have hrow (k : String) (s' : Session)
      (hs' : ((backend w).after g t op).store.sessions.get k = some s') :
      ∃ s, g.store.sessions.get k = some s ∧ s'.tenantId = s.tenantId ∧
        s'.createdAt = s.createdAt ∧ (s.hasPersonalData = false → s'.hasPersonalData = false) ∧
        ∀ c, op = .session c → Sweeps s'.tenantId s'.createdAt c → s'.hasPersonalData = false := by
    cases op with
    | session c =>
      have hget : c.row g.store.clock k (g.store.sessions.get k) = some s' :=
        (SessionCall.get_effect _ _ c k).symm.trans hs'
      cases hold : g.store.sessions.get k with
      | none =>
        rw [hold, row_none_of_cleanup hop] at hget
        cases hget
      | some s =>
        rw [hold] at hget
        have htidied := tidied_row hop hget
        refine ⟨s, rfl, htidied.tenantId, htidied.createdAt,
          fun hclean => htidied.clean (.inl hclean), fun c' hc hsweeps => htidied.clean (.inr ?_)⟩
        cases hc
        rwa [htidied.tenantId, htidied.createdAt] at hsweeps
    | interactive c => exact ⟨s', hs', rfl, rfl, id, fun _ hc => nomatch hc⟩
    | chained c => exact ⟨s', hs', rfl, rfl, id, fun _ hc => nomatch hc⟩
    | env c =>
      have hsame : ((backend w).after g t (.env c)).store.sessions = g.store.sessions :=
        sessions_frame rfl _
      rw [hsame] at hs'
      exact ⟨s', hs', rfl, rfl, id, fun _ hc => nomatch hc⟩
  refine ⟨hext.request h.cleaning, ?_, fun n hmade => ?_, fun k s' hs' => ?_,
    fun c r k s' hmade hsweeps hs' => ?_⟩
  · show _ ≤ (answer w op g.store).2.clock
    rw [answer_clock]
    exact h.clock
  · rcases List.mem_cons.mp hmade with heq | hold
    · injection heq with _ hop hres
      subst hop
      exact eq_of_heq hres ▸ h.clock
    · exact h.times n hold
  · obtain ⟨s, hs, htenant, hcreated, -, -⟩ := hrow k s' hs'
    obtain ⟨s₀, hs₀, htenant₀, hcreated₀⟩ := h.rows k s hs
    exact ⟨s₀, hs₀, htenant.trans htenant₀, hcreated.trans hcreated₀⟩
  · obtain ⟨s, hs, htenant, hcreated, hclean, hsweep⟩ := hrow k s' hs'
    rcases List.mem_cons.mp hmade with heq | hold
    · injection heq with _ hop
      exact hsweep c hop.symm hsweeps
    · rw [htenant, hcreated] at hsweeps
      exact hclean (h.swept c r k s hold hsweeps hs)

/-- A call was taken and answered with `a`. -/
def Took (es : List Answered) (op : Call) (a : Reply op) : Prop := ∃ tid, ⟨tid, op, a⟩ ∈ es

theorem Took.mono {es es' : List Answered} {op : Call} {a : Reply op} (h : Took es op a)
    (hsub : es ⊆ es') : Took es' op a := by
  obtain ⟨tid, hmem⟩ := h
  exact ⟨tid, hsub hmem⟩

/-- **One tenant's turn**: it reads the time, and sweeps what is older than its cutoff. -/
theorem took_cleanupTenant {tenant : TenantRetention} {es : List Answered}
    (h : Ran (cleanupTenant tenant) es (.ret ())) :
    ∃ n c a, Took es (.env .now) n ∧ Took es (.session c) a ∧
      ∀ createdAt, createdAt < n - tenant.ttlSeconds * 1000 →
        Sweeps tenant.tenantId createdAt c := by
  obtain ⟨n, es₁, es₂, rfl, hnow, hrest⟩ := Ran.returned h
  obtain ⟨tid, rfl⟩ := hnow.of_invoke
  have htime : Took ([⟨tid, .env .now, n⟩] ++ es₂) (.env .now) n := ⟨tid, by simp⟩
  dsimp only at hrest
  split at hrest
  · obtain ⟨a, es₃, es₄, rfl, hcall, -⟩ := Ran.returned hrest
    obtain ⟨tid', rfl⟩ := hcall.of_invoke
    exact ⟨n, .anonymizeSessionsCreatedBefore _ _, a, htime, ⟨tid', by simp⟩,
      fun createdAt hlt => ⟨rfl, hlt⟩⟩
  · obtain ⟨a, es₃, es₄, rfl, hcall, -⟩ := Ran.returned hrest
    obtain ⟨tid', rfl⟩ := hcall.of_invoke
    exact ⟨n, .deleteSessionsCreatedBefore _ _, a, htime, ⟨tid', by simp⟩,
      fun createdAt hlt => ⟨rfl, hlt⟩⟩

theorem took_cleanupOrphans {tenants : List TenantRetention} {ttl : Nat} {es : List Answered}
    (h : Ran (cleanupOrphans tenants ttl) es (.ret ())) (hsome : tenants.isEmpty = false) :
    ∃ n c a, Took es (.env .now) n ∧ Took es (.session c) a ∧
      ∀ tenantId createdAt, (tenants.map (·.tenantId)).contains tenantId = false →
        createdAt < n - ttl * 1000 → Sweeps tenantId createdAt c := by
  rw [cleanupOrphans, if_neg (Bool.not_eq_true _ ▸ hsome)] at h
  obtain ⟨n, es₁, es₂, rfl, hnow, hrest⟩ := Ran.returned h
  obtain ⟨tid, rfl⟩ := hnow.of_invoke
  obtain ⟨a, es₃, es₄, rfl, hcall, -⟩ := Ran.returned hrest
  obtain ⟨tid', rfl⟩ := hcall.of_invoke
  refine ⟨n, .deleteOrphanedSessionsCreatedBefore (tenants.map (·.tenantId)) (n - ttl * 1000), a,
    ⟨tid, by simp⟩, ⟨tid', by simp⟩, fun tenantId createdAt hknown hlt => ?_⟩
  exact ⟨by simpa using hsome, hknown, hlt⟩

/-- **A cleanup that has returned** was told the retention, and swept by it. -/
theorem took_cleanup {es : List Answered} {a : Response}
    (h : Ran (program w .cleanup) es (.ret a)) :
    ∃ r, Took es (.env (.ask .tenantRetention)) (.ok r) ∧
      ∀ clock s, Session.overdue clock r s = true →
        (∀ n, Took es (.env .now) n → clock ≤ n) →
        ∃ c a', Took es (.session c) a' ∧ Sweeps s.tenantId s.createdAt c := by
  obtain ⟨_, es₁, es₂, hes₁, hcleanup, -⟩ := Ran.returned h
  obtain ⟨_, es₃, es₄, hes₂, -, hfind⟩ := Ran.returned hcleanup
  obtain ⟨_, es₅, es₆, hes₃, -, hexpire⟩ := Ran.returned hfind
  obtain ⟨_, es₇, es₈, hes₄, -, hretention⟩ := Ran.returned hexpire
  obtain ⟨⟨tenants, ttl⟩, es₉, es₁₀, hes₅, hask, hturns⟩ := Ran.returned hretention
  have hsub : es₉ ++ es₁₀ ⊆ es := fun e he => by
    rw [hes₁, hes₂, hes₃, hes₄, hes₅]
    simp only [List.mem_append] at he ⊢
    tauto
  obtain ⟨told, es₁₁, es₁₂, rfl, hasked, htold⟩ := Ran.returned hask
  obtain ⟨tid, rfl⟩ := hasked.of_invoke
  obtain ⟨rfl, rfl⟩ := htold.of_ofExcept
  obtain ⟨_, es₁₃, es₁₄, rfl, htenants, horphans⟩ := Ran.returned hturns
  refine ⟨(tenants, ttl), ⟨tid, hsub (by simp)⟩, fun clock s hover htimes => ?_⟩
  rcases Bool.or_eq_true_iff.mp hover with hown | hdefault
  · -- the tenant's own cutoff
    obtain ⟨tenant, hmem, htenant⟩ := List.any_eq_true.mp hown
    rw [Bool.and_eq_true, beq_iff_eq, decide_eq_true_iff] at htenant
    obtain ⟨es', hturn, hran⟩ := Ran.of_each htenants hmem
    obtain ⟨n, c, a', hn, hc, hsweeps⟩ := took_cleanupTenant hran
    have hall : es' ⊆ es := fun e he => hsub (by simp [hturn he])
    refine ⟨c, a', hc.mono hall, htenant.1 ▸ hsweeps _ (Nat.lt_of_lt_of_le htenant.2 ?_)⟩
    exact Nat.sub_le_sub_right (htimes n (hn.mono hall)) _
  · -- the default one: nobody knows the tenant
    rw [Bool.and_eq_true, Bool.and_eq_true, Bool.not_eq_true', Bool.not_eq_true',
      decide_eq_true_iff] at hdefault
    obtain ⟨hsome, hknown, hlt⟩ := hdefault
    obtain ⟨n, c, a', hn, hc, hsweeps⟩ := took_cleanupOrphans horphans hsome
    have hall : es₁₄ ⊆ es := fun e he => hsub (by simp [he])
    refine ⟨c, a', hc.mono hall, hsweeps _ _ hknown (Nat.lt_of_lt_of_le hlt ?_)⟩
    exact Nat.sub_le_sub_right (htimes n (hn.mono hall)) _

/-! ## What the cleanup leaves -/

section Cleaned

variable {st : Store} {ms : Schedule} {pauses : List (Option Nat)}

theorem swept_cleanup : Swept (beforeCleanup w st ms).global (beforeCleanup w st ms).threads.length
    (afterCleanup w st ms pauses).global := by
  have hreplays : System.Replays (backend w) (beforeCleanup w st ms) := System.replays_run st ms
  have hfooted : System.Footed Writes (beforeCleanup w st ms) :=
    (System.footed_start Writes st).run (program_writes w) ms
  have hguarded := (System.guarded_alone (M := backend w)
    ((backend w).step (beforeCleanup w st ms) (.arrive .cleanup))
    (beforeCleanup w st ms).threads.length pauses).and
    (System.Footed.guarded (program_writes w)
      (hfooted.step (program_writes w) (.arrive .cleanup)) _)
  have hrun : afterCleanup w st ms pauses = (backend w).run (beforeCleanup w st ms)
      (cleaning (beforeCleanup w st ms).threads.length pauses) := System.run_append _ _ _
  rw [hrun]
  refine hguarded.keeps ?_ (fun {g tid op} hok hswept => ?_) (fun {g} r hswept => ?_)
    fun {g} e hswept => ?_
  · have hnew (op : Call) (a : Reply op) :
        ¬(beforeCleanup w st ms).global.Made (beforeCleanup w st ms).threads.length op a :=
      fun hmade => Nat.lt_irrefl _ (hreplays.numbered _ hmade)
    rw [System.step_arrive_global]
    refine ⟨?_, Nat.le_refl _, fun n hmade => absurd hmade (hnew _ n),
      fun k s hs => ⟨s, hs, rfl, rfl⟩, fun c r k s hmade => absurd hmade (hnew _ r)⟩
    simpa using Global.arrive_request (beforeCleanup w st ms).global Request.cleanup
  · obtain ⟨rfl, r, hr, hwrites⟩ := hok
    rw [hswept.cleaning] at hr
    cases hr
    exact swept_after hswept hwrites
  · exact ⟨(Global.extends_arrive g r).request hswept.cleaning, hswept.clock, hswept.times,
      hswept.rows, hswept.swept⟩
  · exact ⟨hswept.cleaning, Nat.le_trans hswept.clock (Nat.le_add_right _ e), hswept.times,
      hswept.rows, hswept.swept⟩

/-- **After the cleanup no session holds personal data.** -/
theorem clean_after (h : CleansUp w st ms pauses) {k : String} {s : Session}
    (hs : (afterCleanup w st ms pauses).store.sessions.get k = some s) :
    s.hasPersonalData = false := by
  have hswept : Swept _ _ (afterCleanup w st ms pauses).global := swept_cleanup
  have hreplays : System.Replays (backend w) (afterCleanup w st ms pauses) :=
    System.replays_run st _
  obtain ⟨a, ha⟩ := Option.isSome_iff_exists.mp h.returned
  obtain ⟨r, ⟨tid, htold⟩, hsweep⟩ :=
    took_cleanup (w := w) (hreplays.answered (Config.answers_of_response hswept.cleaning ha))
  have hown {op : Call} {a : Reply op} (htook : Took
      (eventsOf (beforeCleanup w st ms).threads.length (afterCleanup w st ms pauses).trace) op a) :
      (afterCleanup w st ms pauses).global.Made (beforeCleanup w st ms).threads.length op a := by
    obtain ⟨tid, hmem⟩ := htook
    have htid : tid = _ := (mem_eventsOf.mp hmem).2
    exact made_iff_eventsOf.mpr (htid ▸ hmem)
  obtain ⟨s₀, hs₀, htenant, hcreated⟩ := hswept.rows k s hs
  have hover := h.overdue r (List.mem_filterMap.mpr ⟨_, (mem_eventsOf.mp htold).1, by
    simp [retentionOf, show tid = _ from (mem_eventsOf.mp htold).2]⟩) s₀
    (Table.get_eq_some.mp hs₀).1
  obtain ⟨c, a', htook, hsweeps⟩ :=
    hsweep _ s₀ hover fun n hn => hswept.times n (hown hn)
  rw [← htenant, ← hcreated] at hsweeps
  exact hswept.swept c a' k s (hown htook) hsweeps hs

end Cleaned

end Retention

open Retention

namespace Retention

open Deployment

/-- A tenant that keeps its sessions for a minute, and then anonymizes them. -/
def retaining : World :=
  deployment
    { actions := [.openid4vp_presentation "pid" none]
      retention := [⟨"tenant", 60, true⟩] }

def offerAndPresent (claim : String) (response : String) : Schedule :=
  serve 0 (.createOffer "tenant"
    { flow := .pre_authorized_code
      credentialConfigurationIds := ["configuration"]
      credentialClaims := [("configuration", .inline (.str claim))] }) 9 ++
  serve 1 (.createPresentation "tenant" "pid" {} false) 14 ++
  serve 2 (.retrievePresentation (unary 3) false) 4 ++
  serve 3 (.presentation { response := some response } (unary 3)) 9 ++
  [.drift 100000]

def withoutPauses : List (Option Nat) := List.replicate 12 none

def presentInteractively (response : String) : Schedule :=
  serve 0 (.interactiveInitial "tenant"
    { client_id := "wallet"
      interaction_types_supported := "openid4vp_presentation"
      code_challenge := some "s256-v"
      code_challenge_method := some "S256"
      authorization_details :=
        some [.obj [("credential_configuration_id", .str "configuration")]] }) 13 ++
  serve 1 (.interactiveFollowUp "tenant"
    { auth_session := unary 1, openid4vp_response := some response }) 20 ++
  [.drift 100000]

def deferred : CredentialSchedule :=
  CredentialDeployment.serve 0 (.nonce "tenant") 3 ++
  CredentialDeployment.serve 1 (.credential
    { tenantId := "tenant"
      accessToken := "token"
      proofType := .jwt
      proofs := ["u"]
      body := "deferred" }) 8

def alike : Call → Call → Bool
  | .session c₁, .session c₂ => c₁.veil = c₂.veil
  | .interactive c₁, .interactive c₂ => c₁.veil = c₂.veil
  | .chained _, .chained _ | .env _, .env _ => true
  | _, _ => false

theorem alike_sound (op₁ op₂ : Call) (h : alike op₁ op₂ = true) : op₁.Alike op₂ := by
  cases op₁ with
  | session c₁ =>
    cases op₂ with
    | session c₂ =>
      have hveil : c₁.veil = c₂.veil := decide_eq_true_iff.mp h
      exact hveil
    | _ => cases h
  | interactive c₁ =>
    cases op₂ with
    | interactive c₂ =>
      have hveil : c₁.veil = c₂.veil := decide_eq_true_iff.mp h
      exact hveil
    | _ => cases h
  | chained c₁ => cases op₂ <;> trivial
  | env c₁ => cases op₂ <;> trivial

def credentialAlike : CredentialCall → CredentialCall → Bool
  | .nonces _, .nonces _ => true
  | .transactions c₁, .transactions c₂ => c₁.veil = c₂.veil
  | .now, .now | .uuid, .uuid | .ask _, .ask _ => true
  | _, _ => false

theorem credentialAlike_sound (op₁ op₂ : CredentialCall) (h : credentialAlike op₁ op₂ = true) :
    op₁.Alike op₂ := by
  cases op₁ with
  | transactions c₁ =>
    cases op₂ with
    | transactions c₂ =>
      have hveil : c₁.veil = c₂.veil := decide_eq_true_iff.mp h
      exact hveil
    | _ => cases h
  | _ => cases op₂ <;> trivial

theorem differInData (ms₁ ms₂ : Schedule) (ns : CredentialSchedule)
    (hflows : System.twinned (backend retaining) (backend retaining) alike (.start freshStore)
      (.start freshStore) (withCleanup retaining freshStore ms₁ withoutPauses)
      (withCleanup retaining freshStore ms₂ withoutPauses) = true)
    (hdeferred : System.twinned (credentialEndpoints CredentialDeployment.world)
      (credentialEndpoints CredentialDeployment.world) credentialAlike
      (.start CredentialDeployment.fresh) (.start CredentialDeployment.fresh) ns ns = true)
    (h₁ : CleansUp retaining freshStore ms₁ withoutPauses)
    (h₂ : CleansUp retaining freshStore ms₂ withoutPauses) :
    DifferInData retaining retaining freshStore ms₁ ms₂ withoutPauses CredentialDeployment.world
      CredentialDeployment.world CredentialDeployment.fresh ns ns :=
  ⟨.of_twinned alike_sound hflows, .of_twinned credentialAlike_sound hdeferred, h₁, h₂⟩

theorem keepsNothing {ms : Schedule} {ns : CredentialSchedule}
    (hflows : (backend retaining).checks (fun _ _ op => !op.storesPresentation) (.start freshStore)
      (withCleanup retaining freshStore ms withoutPauses) = true)
    (hdeferred : (credentialEndpoints CredentialDeployment.world).checks
      (fun _ _ op => !op.storesCredential) (.start CredentialDeployment.fresh) ns = true) :
    KeepsNothing retaining freshStore ms withoutPauses CredentialDeployment.world
      CredentialDeployment.fresh ns :=
  ⟨System.guarded_of_checks (fun _ _ _ h => (Bool.not_eq_true' _).mp h) hflows,
    System.guarded_of_checks (fun _ _ _ h => (Bool.not_eq_true' _).mp h) hdeferred⟩

end Retention

end Eudiplo
