import Eudiplo.Backend.Deployment
import Eudiplo.Backend.Footprint
import Mathlib.Data.List.Induction
import Mathlib.Data.List.Infix

/-!
# What a session never takes back

A session that was consumed stays consumed, the wrong `tx_code` values counted for it are never
forgotten, and it keeps the time of its creation, which decides when it is erased
(`session_progress`).  Its status, its consumption and that count change only by the requests
that are there for it, and nothing makes it active again (`session_changes`).
-/

namespace Eudiplo

open Concurrency Storage

/-- What is left of a session is at least what there was. -/
structure Session.Progress (s s' : Session) : Prop where
  createdAt : s'.createdAt = s.createdAt
  attempts : s.txCodeFailedAttempts ≤ s'.txCodeFailedAttempts
  consumed : s.consumed = true → s'.consumed = true

/-- A request that sets this status: no request sets `active`. -/
def Request.MaySet (r : Request) (status : SessionStatus) : Prop :=
  (status = .cancelled ∧ ∃ command, r = .cancel command) ∨ (status = .expired ∧ r = .cleanup) ∨
    (status = .fetched ∧ r.fetches = true) ∨
    ((status = .completed ∨ status = .failed) ∧ (r.presents = true ∨ ∃ q, r = .notification q))

/-- **A change that is due to a request.** -/
structure Session.ChangedBy (r : Request) (s s' : Session) : Prop where
  status : s'.status = s.status ∨ r.MaySet s'.status
  consumed : s'.consumed = s.consumed ∨ r.presents = true ∨ ∃ q, r = .token q
  attempts : s'.txCodeFailedAttempts = s.txCodeFailedAttempts ∨ ∃ q, r = .token q

namespace SessionProgress

variable {w : World} {s s' s'' : Session} {u : SessionUpdate} {r : Request} {c : SessionCall}

theorem refl (s : Session) : s.Progress s := ⟨rfl, Nat.le_refl _, id⟩

theorem trans (h : s.Progress s') (h' : s'.Progress s'') : s.Progress s'' :=
  ⟨h'.createdAt.trans h.createdAt, Nat.le_trans h.attempts h'.attempts, h'.consumed ∘ h.consumed⟩

/-- What a request may write of status and consumption. -/
structure Allowed (r : Request) (u : SessionUpdate) : Prop where
  status : u.status = none ∨ ∃ status, u.status = some status ∧ r.MaySet status
  consumed : u.consumed = none ∨ u.consumed = some true ∧ (r.presents = true ∨ ∃ q, r = .token q)

theorem allowed_state {status : SessionStatus} (h : r.MaySet status) :
    Allowed r (stateUpdate status) := ⟨.inr ⟨status, rfl, h⟩, .inl rfl⟩

theorem allowed_create {id tenantId : String}
    (h : Writes r (.session (.create id tenantId u))) : Allowed r u := by
  cases h with
  | routine h =>
    cases h with
    | query hquery => cases hquery
    | opening _ hu => exact ⟨.inl hu.status, .inl hu.consumed⟩
  | offer | pushNew => exact ⟨.inl rfl, .inl rfl⟩

theorem allowed_of_present (hr : r.presents = true) (hu : u.PresentationOutcome) :
    Allowed r u := by
  have hset {status : SessionStatus} (h : status = .completed ∨ status = .failed) :
      r.MaySet status := .inr (.inr (.inr ⟨h, .inl hr⟩))
  rcases hu.outcome with ⟨hstatus, hconsumed⟩ | ⟨hstatus, hconsumed⟩
  · exact ⟨.inr ⟨_, hstatus, hset (.inl rfl)⟩, .inr ⟨hconsumed, .inl hr⟩⟩
  · exact ⟨.inr ⟨_, hstatus, hset (.inr rfl)⟩, .inl hconsumed⟩

/-- **What a call of a request writes is allowed to it.** -/
theorem allowed_applies {clock : Time} (h : Writes r (.session c)) (hc : c.Applies clock s u) :
    Allowed r u := by
  cases h with
  | routine h =>
    cases h with
    | query hquery => exact absurd hc (SessionCall.not_applies_of_isQuery hquery)
    | bookkeeping _ hu => exact hc.1 ▸ ⟨.inl hu.status, .inl hu.consumed⟩
    | opening => exact hc.elim
    | present hr hu => exact hc.1 ▸ allowed_of_present hr hu
    | fetched hr => exact hc.1 ▸ allowed_state (.inr (.inr (.inl ⟨rfl, hr⟩)))
  | push | redeemUri | issueCode | bindCode => exact hc.1 ▸ ⟨.inl rfl, .inl rfl⟩
  | redeem => exact hc.1 ▸ ⟨.inl rfl, .inr ⟨rfl, .inr ⟨_, rfl⟩⟩⟩
  | @notified q =>
    refine hc.1 ▸ allowed_state (.inr (.inr (.inr ⟨?_, .inr ⟨_, rfl⟩⟩)))
    cases q.event <;> simp [NotificationEvent.status]
  | cancelled => exact hc.1 ▸ allowed_state (.inl ⟨rfl, _, rfl⟩)
  | overdue => exact hc.1 ▸ allowed_state (.inr (.inl ⟨rfl, rfl⟩))
  | offer | pushNew | attempt | outlived | anonymized | orphaned => exact hc.elim

theorem progress_apply (s : Session) (h : Allowed r u) : s.Progress (s.apply u) where
  createdAt := rfl
  attempts := Nat.le_refl _
  consumed hs := by
    show u.consumed.getD s.consumed = true
    rcases h.consumed with hu | ⟨hu, -⟩
    · rw [hu]
      exact hs
    · rw [hu]
      rfl

theorem changed_apply (s : Session) (h : Allowed r u) : s.ChangedBy r (s.apply u) where
  status := by
    show u.status.getD s.status = s.status ∨ r.MaySet (u.status.getD s.status)
    rcases h.status with hu | ⟨status, hu, hset⟩
    · exact .inl (by rw [hu]; rfl)
    · exact .inr (by rw [hu]; exact hset)
  consumed := by
    show u.consumed.getD s.consumed = s.consumed ∨ _
    rcases h.consumed with hu | ⟨-, hr⟩
    · exact .inl (by rw [hu]; rfl)
    · exact .inr hr
  attempts := .inl rfl

theorem token_of_counts {tenantId id : String}
    (h : Writes r (.session (.incrementFailedTxCodeAttempts tenantId id))) :
    ∃ q, r = .token q := by
  cases h with
  | routine h =>
    cases h with
    | query h => cases h
  | attempt => exact ⟨_, rfl⟩

/-- **One move keeps what a session has**, and is due to a request. -/
theorem moved {c : Backend} (hc : System.Footed Writes c) (m : Move Nat Request)
    {k : String} (hs : c.store.sessions.get k = some s)
    (hs' : ((backend w).step c m).store.sessions.get k = some s') :
    s.Progress s' ∧ (s' = s ∨ ∃ tid r p, m = .resume tid ∧ c.threads[tid]? = some ⟨r, p⟩ ∧
      s.ChangedBy r s') := by
  rcases session_step (w := w) c m k with hsame | ⟨tid, r, op, next, hm, hget, hrow⟩
  · obtain rfl := Option.some.inj (hs.symm.trans (hsame.symm.trans hs'))
    exact ⟨refl s, .inl rfl⟩
  · have hwrites := (hc tid _ hget).1
    have hdue (h : s.ChangedBy r s') : s' = s ∨ ∃ tid r p, m = .resume tid ∧
        c.threads[tid]? = some ⟨r, p⟩ ∧ s.ChangedBy r s' := .inr ⟨tid, r, _, hm, hget, h⟩
    rw [hrow, hs] at hs'
    cases SessionCall.row_some (Table.get_key hs) hs' with
    | same => exact ⟨refl s, .inl rfl⟩
    | updated hu =>
      have hallowed := allowed_applies hwrites hu
      exact ⟨progress_apply s hallowed, hdue (changed_apply s hallowed)⟩
    | merged _ =>
      have hallowed := allowed_create hwrites
      have hchanged := changed_apply s hallowed
      exact ⟨⟨rfl, Nat.le_refl _, (progress_apply s hallowed).consumed⟩,
        hdue ⟨hchanged.status, hchanged.consumed, .inl rfl⟩⟩
    | counted _ =>
      exact ⟨⟨rfl, Nat.le_succ _, id⟩, hdue ⟨.inl rfl, .inl rfl, .inr (token_of_counts hwrites)⟩⟩
    | anonymized => exact ⟨⟨rfl, Nat.le_refl _, id⟩, hdue ⟨.inl rfl, .inl rfl, .inl rfl⟩⟩

theorem footed_run (w : World) (st : Store) (ms : List (Move Nat Request)) :
    System.Footed Writes ((backend w).run (.start st) ms) :=
  System.Footed.run (program_writes w) (System.footed_start Writes st) ms

end SessionProgress

open SessionProgress

/-- **A session takes nothing back**: in every run, from one time to a later one, as long as its
row is there all the time between. -/
theorem session_progress (w : World) (st : Store) (ms₁ ms₂ : List (Move Nat Request)) (k : String)
    (s s' : Session) (hs : ((backend w).run (.start st) ms₁).store.sessions.get k = some s)
    (hs' : ((backend w).run (.start st) (ms₁ ++ ms₂)).store.sessions.get k = some s')
    (hthere : ∀ between, between <+: ms₂ →
      (((backend w).run (.start st) (ms₁ ++ between)).store.sessions.get k).isSome = true) :
    s.Progress s' := by
  induction ms₂ using List.reverseRecOn generalizing s' with
  | nil =>
    rw [List.append_nil] at hs'
    obtain rfl := Option.some.inj (hs.symm.trans hs')
    exact refl s
  | append_singleton ms₂ m ih =>
    obtain ⟨middle, hmiddle⟩ := Option.isSome_iff_exists.mp (hthere ms₂ (List.prefix_append _ _))
    have hbefore := ih middle hmiddle fun between hbelow =>
      hthere between (hbelow.trans (List.prefix_append _ _))
    rw [← List.append_assoc, System.run_append] at hs'
    exact trans hbefore (moved (footed_run w st (ms₁ ++ ms₂)) m hmiddle hs').1

namespace SessionProgress

open Deployment

/-- A wallet tries a wrong `tx_code`, and thread 1 counts it next. -/
def compared : Schedule :=
  offer 0 .pre_authorized_code (some "1234") ++
    (serve 1 (tokenRequest (preAuthorizedGrant 2 (some "0000")) []) 14).take 8

theorem counted : ∃ s s' : Session, (play {} compared).store.sessions.get (unary 1) = some s ∧
    (play {} (compared ++ [.resume 1])).store.sessions.get (unary 1) = some s' ∧
      s.txCodeFailedAttempts = 0 ∧ s'.txCodeFailedAttempts = 1 := by
  have hbefore : ((play {} compared).store.sessions.get (unary 1)).map
      (·.txCodeFailedAttempts) = some 0 := by decide +kernel
  have hafter : ((play {} (compared ++ [.resume 1])).store.sessions.get (unary 1)).map
      (·.txCodeFailedAttempts) = some 1 := by decide +kernel
  obtain ⟨s, hs, hzero⟩ := Option.map_eq_some_iff.mp hbefore
  obtain ⟨s', hs', hone⟩ := Option.map_eq_some_iff.mp hafter
  exact ⟨s, s', hs, hs', hzero, hone⟩

end SessionProgress

theorem session_progress_of_attempt : ∃ s s' : Session,
    s.txCodeFailedAttempts = 0 ∧ s'.txCodeFailedAttempts = 1 ∧ s.Progress s' := by
  obtain ⟨s, s', hs, hs', hzero, hone⟩ := counted
  refine ⟨s, s', hzero, hone, session_progress _ _ compared [.resume 1] _ s s' hs hs' fun between
    hbetween => ?_⟩
  rcases List.prefix_concat_iff.mp (show between <+: [] ++ [.resume 1] from hbetween) with
    rfl | hnil
  · exact hs' ▸ rfl
  · rw [List.prefix_nil.mp hnil, List.append_nil]
    exact hs ▸ rfl

end Eudiplo
