import Eudiplo.Backend.Deployment
import Eudiplo.Backend.Footprint

/-!
# Terminal statuses

`session-state.ts` calls `completed`, `failed`, `expired` and `cancelled` terminal.
Every status write of the backend but one is conditional on the session being open.
The exception is `HandleCredentialNotification`: it sets the status its event stands
for whatever the stored one is, so a session can be moved out of a terminal status by
a late or repeated notification, and by nothing else.
-/

namespace Eudiplo

open Concurrency Storage

variable {w : World}

/-- The status of the session with identifier `k`. -/
def statusOf (c : Backend) (k : String) : Option SessionStatus :=
  (c.store.sessions.get k).map (·.status)

/-- **Terminal statuses are final** from `c` along `ms`: a session that is not deleted keeps
the terminal status it has. -/
def StatusFinal (w : World) (c : Backend) (ms : Schedule) : Prop :=
  ∀ k status, statusOf c k = some status → isTerminalStatus status = true →
    (∀ n ≤ ms.length, (statusOf ((backend w).run c (ms.take n)) k).isSome = true) →
    statusOf ((backend w).run c ms) k = some status

def NotificationFits (g : State) (_ : Nat) : Call → Prop
  | .session (.changeState tenantId id u) =>
    ∀ s, g.store.sessions.get id = some s → s.tenantId = tenantId →
      isTerminalStatus s.status = true → u.status = some s.status
  | _ => True

theorem apply_status_of_none {s : Session} {u : SessionUpdate} (h : u.status = none) :
    (s.apply u).status = s.status := by
  show u.status.getD s.status = s.status
  rw [h]
  rfl

/-- **What one write does to a terminal status**: nothing, unless it is a notification's. -/
theorem status_kept {r : Request} {c : SessionCall} {g : State} {tid : Nat} {s s' : Session}
    (hw : Writes r (.session c)) (hfits : NotificationFits g tid (.session c))
    (hs : g.store.sessions.get s.id = some s) (hterm : isTerminalStatus s.status = true)
    (hs' : RowChange g.store.clock s c s') : s'.status = s.status := by
  cases hs' with
  | same => rfl
  | counted h => rfl
  | anonymized => rfl
  | merged h =>
    cases hw with
    | routine hw =>
      cases hw with
      | query h => cases h
      | opening hr h => exact apply_status_of_none (s := s) h.status
    | offer => rfl
    | pushNew => rfl
  | @updated _ u h =>
    -- the conditional update and the guarded changes ask for an open session
    have closed {now : Time} (hopen : unconsumed now s = true) : False := by
      rw [unconsumed_iff, hterm] at hopen
      exact absurd hopen.2.1 (by decide)
    cases hw with
    | routine hw =>
      cases hw with
      | query hq => exact absurd h (SessionCall.not_applies_of_isQuery hq)
      | bookkeeping hr hb => exact apply_status_of_none (h.1 ▸ hb.status)
      | opening hr hb => exact h.elim
      | present hr ho => exact (closed h.2.2.2).elim
      | fetched hr =>
        have hactive : s.status = .active := List.mem_singleton.mp h.2.2.2
        rw [hactive] at hterm
        cases hterm
    | offer => exact h.elim
    | pushNew => exact h.elim
    | attempt => exact h.elim
    | outlived => exact h.elim
    | orphaned => exact h.elim
    | anonymized => exact h.elim
    | push => exact apply_status_of_none (h.1 ▸ rfl)
    | redeemUri => exact apply_status_of_none (h.1 ▸ rfl)
    | issueCode => exact apply_status_of_none (h.1 ▸ rfl)
    | bindCode => exact apply_status_of_none (h.1 ▸ rfl)
    | redeem => exact (closed h.2.2.2).elim
    | cancelled => exact (closed h.2.2.2).elim
    | overdue =>
      have hopen := mem_openSessionStatuses.mp h.2.2.2
      rw [hterm] at hopen
      cases hopen
    | notified =>
      have hset := hfits s (h.2.2 ▸ hs) h.2.1 hterm
      show u.status.getD s.status = s.status
      rw [← h.1, hset]
      rfl

theorem status_step {c : Backend} (hc : System.Footed Writes c) {m : Move Nat Request}
    (hfits : ∀ tid r op next, m = .resume tid → c.threads[tid]? = some ⟨r, .call op next⟩ →
      NotificationFits c.global tid op)
    {k : String} {status : SessionStatus} (hstatus : statusOf c k = some status)
    (hterm : isTerminalStatus status = true)
    (hkept : (statusOf ((backend w).step c m) k).isSome = true) :
    statusOf ((backend w).step c m) k = some status := by
  obtain ⟨s, hs, rfl⟩ := Option.map_eq_some_iff.mp hstatus
  obtain ⟨s', hs'⟩ := Option.isSome_iff_exists.mp (by simpa [statusOf] using hkept)
  have hid : s.id = k := Table.get_key hs
  have hkeep : s'.status = s.status := by
    rcases session_step (w := w) c m k with h | ⟨tid, r, op, next, hm, hget, h⟩
    · rw [h, hs] at hs'
      rw [Option.some.inj hs']
    · rw [h, hs] at hs'
      exact status_kept (hc tid _ hget).1 (hfits tid r _ next hm hget) (hid ▸ hs) hterm
        (SessionCall.row_some hid hs')
  unfold statusOf
  rw [hs', Option.map_some, hkeep]

/-- **Terminal statuses are final** in every run whose notifications fit: whatever has
happened before, and whatever arrives afterwards. -/
theorem terminal_status_final (w : World) (st : Store) (before after : Schedule)
    (hfits : (backend w).Guarded NotificationFits ((backend w).run (.start st) before) after) :
    StatusFinal w ((backend w).run (.start st) before) after := by
  have hfoot := System.Footed.run (M := backend w) (program_writes w)
    (System.footed_start Writes st) before
  generalize (backend w).run (.start st) before = c at hfits hfoot
  intro k status hstatus hterm hkept
  induction after generalizing c with
  | nil => exact hstatus
  | cons m ms ih =>
    have hstep := status_step (w := w) hfoot hfits.1 hstatus hterm
      (hkept 1 (Nat.succ_le_succ (Nat.zero_le _)))
    refine ih _ hfits.2 (hfoot.step (program_writes w) m) hstep fun n hn => ?_
    exact hkept (n + 1) (Nat.succ_le_succ hn)

/-! ## A run that fits, and one that does not -/

namespace TerminalStatus

open Deployment

/-- An offer whose credential was issued; the access token names the session. -/
def issued : Schedule :=
  serve 0 (.createOffer "tenant" { flow := .pre_authorized_code }) 10 ++
  serve 1 (.credential { tenantId := "tenant", accessToken := unary 1, body := "" }) 7

/-- The wallet reports on the issued credential, whose notification has the id `unary 3`. -/
def report (tid : Nat) (event : NotificationEvent) : Schedule :=
  serve tid (.notification
    { tenantId := "tenant", accessToken := unary 1, notification_id := unary 3, event }) 5

def cancel (tid : Nat) : Schedule :=
  serve tid (.cancel { tenantId := "tenant", sessionId := unary 1 }) 4

/-- `NotificationFits`, evaluated. -/
def notificationFits (g : State) (_ : Nat) : Call → Bool
  | .session (.changeState _ id u) =>
    (g.store.sessions.get id).all fun s =>
      !isTerminalStatus s.status || u.status == some s.status
  | _ => true

theorem notificationFits_sound (g : State) (tid : Nat) (op : Call)
    (h : notificationFits g tid op = true) : NotificationFits g tid op := by
  rcases op with (_ | _ | _ | _ | _ | _ | _ | _ | _ | _ | _ | _ | ⟨tenantId, id, u⟩ | _ | _ |
    _ | _ | _) | _ | _ | _
  case session.changeState =>
    intro s hs htenant hterm
    simpa [notificationFits, hs, hterm] using h
  all_goals trivial

end TerminalStatus

/-- A repeated acceptance and a late cancellation leave an accepted offer completed. -/
theorem terminal_status_final_of_accepted :
    StatusFinal (deployment {})
      ((backend (deployment {})).run (.start freshStore) TerminalStatus.issued)
      (TerminalStatus.report 2 .credential_accepted ++
        TerminalStatus.report 3 .credential_accepted ++ TerminalStatus.cancel 4) :=
  terminal_status_final _ _ _ _
    (System.guarded_of_checks TerminalStatus.notificationFits_sound (by decide +kernel))

/-- **A late notification revives a cancelled session**: the offer was cancelled, and an
acceptance the wallet reports afterwards makes it completed. -/
theorem not_terminal_status_final :
    ¬∀ (w : World) (st : Store) (before after : Schedule),
      StatusFinal w ((backend w).run (.start st) before) after := by
  intro h
  have hfinal := h (deployment {}) freshStore (TerminalStatus.issued ++ TerminalStatus.cancel 2)
    (TerminalStatus.report 3 .credential_accepted) (Deployment.unary 1) .cancelled
    (by decide +kernel) rfl (by decide +kernel)
  exact absurd hfinal (by decide +kernel)

end Eudiplo
