import Eudiplo.Backend.Footprint

/-!
# Reading the history of a run

The history keeps every answered call with its answer, so what has happened to a session can be
counted.

`writeOf k` is the update an event applied to session `k`, and `columns_after` the one
fact invariants about codes and pushed requests are proved from: a column holds what
the newest event that wrote it put there.
-/

namespace Eudiplo

open Concurrency Storage

variable {k : String}

/-- The conditional update of session `k` that took effect. -/
def commits (k : String) : Answered → Bool
  | ⟨_, .session (.updateUnconsumedForTenant _ id _), won⟩ => won && id == k
  | _ => false

/-- The redemption of a code of session `k`: it consumes the session and leaves its
status alone. -/
def redeems (k : String) : Answered → Bool
  | ⟨_, .session (.updateUnconsumedForTenant _ id u), won⟩ =>
    won && id == k && u.consumed == some true && u.status.isNone
  | _ => false

/-- A failed `tx_code` attempt that was counted for session `k`. -/
def recordsAttempt (k : String) : Answered → Bool
  | ⟨_, .session (.incrementFailedTxCodeAttempts _ id), n⟩ => id == k && n.isSome
  | _ => false

/-- The `tx_code` sent with a pre-authorized code. -/
def Grant.txCode : Grant → Option String
  | preAuthorizedCode _ txCode => txCode
  | _ => none

/-- A `tx_code` that was evaluated for the pre-authorized code `code` and found wrong. -/
def evaluatesWrong (code : String) : Answered → Bool
  | ⟨_, .env (.ask (.verifyPreAuthorizedCode q)), .ok (.error e)⟩ =>
    q.expectedPreAuthorizedCode == some code && wrongTxCode e q.expectedTxCode q.grant.txCode
  | _ => false

theorem commits_event {e : Answered} (h : commits k e = true) :
    ∃ tid tenantId u, e = ⟨tid, .session (.updateUnconsumedForTenant tenantId k u), true⟩ := by
  obtain ⟨tid, op, res⟩ := e
  rcases op with (_ | _ | ⟨tenantId, id, u⟩ | _ | _ | _ | _ | _ | _ | _ | _ | _ | _ | _ | _ | _ |
    _ | _) | _ | _ | _
  case session.updateUnconsumedForTenant =>
    simp only [commits, Bool.and_eq_true, beq_iff_eq] at h
    obtain ⟨rfl, rfl⟩ := h
    exact ⟨tid, tenantId, u, rfl⟩
  all_goals cases h

theorem redeems_event {e : Answered} (h : redeems k e = true) :
    ∃ tid tenantId u, e = ⟨tid, .session (.updateUnconsumedForTenant tenantId k u), true⟩ ∧
      u.consumed = some true ∧ u.status = none := by
  obtain ⟨tid, op, res⟩ := e
  rcases op with (_ | _ | ⟨tenantId, id, u⟩ | _ | _ | _ | _ | _ | _ | _ | _ | _ | _ | _ | _ | _ |
    _ | _) | _ | _ | _
  case session.updateUnconsumedForTenant =>
    simp only [redeems, Bool.and_eq_true, beq_iff_eq, Option.isNone_iff_eq_none] at h
    obtain ⟨⟨⟨rfl, rfl⟩, hconsumed⟩, hstatus⟩ := h
    exact ⟨tid, tenantId, u, rfl, hconsumed, hstatus⟩
  all_goals cases h

theorem commits_of_redeems {e : Answered} (h : redeems k e = true) : commits k e = true := by
  obtain ⟨tid, tenantId, u, rfl, -⟩ := redeems_event h
  simp [commits]

theorem recordsAttempt_event {tid : Nat} {op : Call} {res : Reply op}
    (h : recordsAttempt k ⟨tid, op, res⟩ = true) :
    ∃ tenantId, op = .session (.incrementFailedTxCodeAttempts tenantId k) := by
  unfold recordsAttempt at h
  split at h
  · rename_i tenantId id n heq
    injection heq with _ hop _
    rw [Bool.and_eq_true, beq_iff_eq] at h
    exact ⟨tenantId, h.1 ▸ hop⟩
  · cases h

theorem evaluatesWrong_event {code : String} {tid : Nat} {op : Call} {res : Reply op}
    (h : evaluatesWrong code ⟨tid, op, res⟩ = true) :
    ∃ q, op = .env (.ask (.verifyPreAuthorizedCode q)) ∧
      q.expectedPreAuthorizedCode = some code := by
  unfold evaluatesWrong at h
  split at h
  · rename_i q e heq
    injection heq with _ hop _
    rw [Bool.and_eq_true, beq_iff_eq] at h
    exact ⟨q, hop, h.1⟩
  · cases h

/-! ## What an event wrote -/

/-- The update an event applied to session `k`, where it can write a code or a pushed
request: a statement that affected no row wrote nothing. -/
def writeOf (k : String) : Answered → Option SessionUpdate
  | ⟨_, .session (.create id _ u), _⟩ => if id = k then some u else none
  | ⟨_, .session (.updateForTenant _ id u), n⟩ => if id = k ∧ n ≠ 0 then some u else none
  | ⟨_, .session (.consumeRequestUri _ id _ t), won⟩ =>
    if id = k ∧ won = true then some { request_uri_expires_at := some t } else none
  | _ => none

theorem writeOf_some {tid : Nat} {op : Call} {res : Reply op} {u : SessionUpdate}
    (h : writeOf k ⟨tid, op, res⟩ = some u) :
    (∃ tenantId, op = .session (.create k tenantId u)) ∨
      (∃ tenantId, op = .session (.updateForTenant tenantId k u)) ∨
      ∃ tenantId e t, op = .session (.consumeRequestUri tenantId k e t) ∧
        u = { request_uri_expires_at := some t } := by
  unfold writeOf at h
  split at h
  · rename_i id tenantId u' _ heq
    injection heq with _ hop _
    obtain ⟨rfl, hu⟩ := Option.ite_none_right_eq_some.mp h
    cases hu
    exact .inl ⟨tenantId, hop⟩
  · rename_i tenantId id u' n heq
    injection heq with _ hop _
    obtain ⟨⟨rfl, -⟩, hu⟩ := Option.ite_none_right_eq_some.mp h
    cases hu
    exact .inr (.inl ⟨tenantId, hop⟩)
  · rename_i tenantId id e t won heq
    injection heq with _ hop _
    obtain ⟨⟨rfl, -⟩, hu⟩ := Option.ite_none_right_eq_some.mp h
    exact .inr (.inr ⟨tenantId, e, t, hop, (Option.some.inj hu).symm⟩)
  · cases h

theorem writeOf_key {k' : String} {e : Answered} {u u' : SessionUpdate}
    (h : writeOf k e = some u) (h' : writeOf k' e = some u') : k = k' := by
  obtain ⟨tid, op, res⟩ := e
  rcases writeOf_some h with ⟨_, rfl⟩ | ⟨_, rfl⟩ | ⟨_, _, _, rfl, -⟩
  all_goals
    rcases writeOf_some h' with ⟨_, heq⟩ | ⟨_, heq⟩ | ⟨_, _, _, heq, -⟩
    all_goals cases heq
    all_goals rfl

theorem write_kinds {r : Request} {tid : Nat} {op : Call} {res : Reply op} {u : SessionUpdate}
    (hw : Writes r op) (h : writeOf k ⟨tid, op, res⟩ = some u) :
    (∃ q uri expiry jkt, r = .pushAuthorization q ∧ u = parValues q uri expiry jkt) ∨
      (∃ tenantId e t, op = .session (.consumeRequestUri tenantId k e t) ∧
        u = { request_uri_expires_at := some t }) ∨
      (u.request_uri = none ∧ u.request_uri_expires_at = none) := by
  rcases writeOf_some h with ⟨_, rfl⟩ | ⟨_, rfl⟩ | hconsume
  · cases hw with
    | routine hw =>
      cases hw with
      | query hq => cases hq
      | opening _ h => exact .inr (.inr ⟨h.request_uri, h.request_uri_expires_at⟩)
    | offer => exact .inr (.inr ⟨rfl, rfl⟩)
    | pushNew => exact .inl ⟨_, _, _, _, rfl, rfl⟩
  · cases hw with
    | routine hw =>
      cases hw with
      | query hq => cases hq
      | bookkeeping _ h => exact .inr (.inr ⟨h.request_uri, h.request_uri_expires_at⟩)
    | push => exact .inl ⟨_, _, _, _, rfl, rfl⟩
    | issueCode => exact .inr (.inr ⟨rfl, rfl⟩)
    | bindCode => exact .inr (.inr ⟨rfl, rfl⟩)
  · exact .inr (.inl hconsume)

/-- A row's code and pushed request come from the update, or else from the row before;
anonymizing also removes the authorization parameters. -/
structure ColumnsFrom (old : Option Session) (u : Option SessionUpdate) (s' : Session) :
    Prop where
  request_uri : s'.request_uri = (u.bind (·.request_uri)).or (old.bind (·.request_uri))
  request_uri_expires_at : s'.request_uri_expires_at =
    (u.bind (·.request_uri_expires_at)).or (old.bind (·.request_uri_expires_at))
  authorization_code : s'.authorization_code =
    (u.bind (·.authorization_code)).or (old.bind (·.authorization_code))
  auth_queries : s'.auth_queries = none ∨
    s'.auth_queries = (u.bind (·.auth_queries)).or (old.bind (·.auth_queries))

theorem ColumnsFrom.same (s : Session) : ColumnsFrom (some s) none s :=
  ⟨rfl, rfl, rfl, .inr rfl⟩

theorem ColumnsFrom.applied (s : Session) (u : SessionUpdate) :
    ColumnsFrom (some s) (some u) (s.apply u) := ⟨rfl, rfl, rfl, .inr rfl⟩

/-- The update writes neither a code nor a pushed request. -/
structure SessionUpdate.KeepsRequest (u : SessionUpdate) : Prop where
  request_uri : u.request_uri = none := by rfl
  request_uri_expires_at : u.request_uri_expires_at = none := by rfl
  authorization_code : u.authorization_code = none := by rfl
  auth_queries : u.auth_queries = none := by rfl

theorem SessionUpdate.KeepsGrants.keepsRequest {u : SessionUpdate} (h : u.KeepsGrants) :
    u.KeepsRequest :=
  ⟨h.request_uri, h.request_uri_expires_at, h.authorization_code, h.auth_queries⟩

theorem ColumnsFrom.kept (s : Session) {u : SessionUpdate} (h : u.KeepsRequest) :
    ColumnsFrom (some s) none (s.apply u) := by
  refine ⟨?_, ?_, ?_, .inr ?_⟩
  · show u.request_uri.or s.request_uri = s.request_uri
    rw [h.request_uri, Option.none_or]
  · show u.request_uri_expires_at.or s.request_uri_expires_at = s.request_uri_expires_at
    rw [h.request_uri_expires_at, Option.none_or]
  · show u.authorization_code.or s.authorization_code = s.authorization_code
    rw [h.authorization_code, Option.none_or]
  · show u.auth_queries.or s.auth_queries = s.auth_queries
    rw [h.auth_queries, Option.none_or]

theorem writes_keepsRequest {r : Request} {c : SessionCall} {clock : Time} {s : Session}
    {u : SessionUpdate} (hw : Writes r (.session c)) (h : c.Applies clock s u)
    (hupdate : ∀ tenantId id u, c ≠ .updateForTenant tenantId id u)
    (hconsume : ∀ tenantId id e t, c ≠ .consumeRequestUri tenantId id e t) :
    u.KeepsRequest := by
  cases hw with
  | routine hw =>
    cases hw with
    | query hq => exact absurd h (SessionCall.not_applies_of_isQuery hq)
    | bookkeeping _ _ => exact absurd rfl (hupdate _ _ _)
    | opening _ _ => exact h.elim
    | present _ ho => exact h.1 ▸ ho.keepsRequest
    | fetched _ => exact h.1 ▸ (stateUpdate_keepsGrants _).keepsRequest
  | redeem => exact h.1 ▸ ⟨rfl, rfl, rfl, rfl⟩
  | cancelled => exact h.1 ▸ (stateUpdate_keepsGrants _).keepsRequest
  | notified => exact h.1 ▸ (stateUpdate_keepsGrants _).keepsRequest
  | overdue => exact h.1 ▸ (stateUpdate_keepsGrants _).keepsRequest
  | push => exact absurd rfl (hupdate _ _ _)
  | issueCode => exact absurd rfl (hupdate _ _ _)
  | bindCode => exact absurd rfl (hupdate _ _ _)
  | redeemUri => exact absurd rfl (hconsume _ _ _ _)
  | _ => exact h.elim

variable {w : World}

theorem columns_kept {r : Request} {c : SessionCall} {clock : Time} {old : Option Session}
    {s' : Session} (hw : Writes r (.session c)) (hid : ∀ s, old = some s → s.id = k)
    (hrow : c.row clock k old = some s')
    (hcreate : ∀ id tenantId u, c ≠ .create id tenantId u)
    (hupdate : ∀ tenantId id u, c ≠ .updateForTenant tenantId id u)
    (hconsume : ∀ tenantId id e t, c ≠ .consumeRequestUri tenantId id e t) :
    ColumnsFrom old none s' := by
  cases old with
  | none =>
    obtain ⟨tenantId, u, rfl, -⟩ := SessionCall.row_none hrow
    exact absurd rfl (hcreate k tenantId u)
  | some s =>
    cases SessionCall.row_some (hid s rfl) hrow with
    | same => exact .same s'
    | updated h => exact .kept s (writes_keepsRequest hw h hupdate hconsume)
    | counted h => exact ⟨rfl, rfl, rfl, .inr rfl⟩
    | anonymized => exact ⟨rfl, rfl, rfl, .inl rfl⟩
    | merged h => exact absurd rfl (hcreate _ _ _)

theorem updateForTenant_reply {clock : Time} {t : SessionTable} {tenantId id : String}
    {u : SessionUpdate} :
    (SessionCall.updateForTenant tenantId id u).reply clock t ≠ 0 ↔
      ∃ s, t.get id = some s ∧ ofTenant tenantId id s = true := by
  show t.count (ofTenant tenantId id) ≠ 0 ↔ _
  rw [← Nat.pos_iff_ne_zero]
  exact Table.count_pos_of_key fun s hs => (ofTenant_iff.mp hs).2

theorem consumeRequestUri_reply {clock : Time} {t : SessionTable} {tenantId id : String}
    {e n : Time} :
    (SessionCall.consumeRequestUri tenantId id e n).reply clock t = true ↔
      n < e ∧ ∃ s, t.get id = some s ∧ ofTenant tenantId id s = true ∧
        s.request_uri_expires_at = some e := by
  show (decide (n < e) && decide (0 < t.count _)) = true ↔ _
  rw [Bool.and_eq_true, decide_eq_true_iff, decide_eq_true_iff]
  refine and_congr_right fun _ => ?_
  rw [Table.count_pos_of_key (k := id)]
  · simp only [Bool.and_eq_true, beq_iff_eq]
  · intro s h
    rw [Bool.and_eq_true] at h
    exact (ofTenant_iff.mp h.1).2

/-- **Every column holds what the newest event that wrote it put there.** -/
theorem columns_after {g : State} {tid : Nat} {op : Call} {r : Request} {s' : Session}
    (hw : Writes r op) (hs' : ((backend w).after g tid op).store.sessions.get k = some s') :
    ColumnsFrom (g.store.sessions.get k)
      (writeOf k ⟨tid, op, ((backend w).answer op g.store).1⟩) s' := by
  have hid : ∀ s, g.store.sessions.get k = some s → s.id = k := fun s hs => Table.get_key hs
  rcases op with c | c | c | c
  · -- of the four repositories only that of the sessions writes columns
    have hrow : c.row g.store.clock k (g.store.sessions.get k) = some s' := by
      rw [← SessionCall.get_effect]
      exact hs'
    cases c with
    | create id tenantId u =>
      show ColumnsFrom _ (if id = k then some u else none) s'
      rw [SessionCall.row] at hrow
      by_cases hk : id = k
      · rw [if_pos hk] at hrow ⊢
        cases Option.some.inj hrow
        cases g.store.sessions.get k with
        | none => exact ⟨rfl, rfl, rfl, .inr rfl⟩
        | some s => exact ⟨rfl, rfl, rfl, .inr rfl⟩
      · rw [if_neg hk] at hrow ⊢
        exact hrow ▸ .same s'
    | updateForTenant tenantId id u =>
      show ColumnsFrom _ (if id = k ∧ (SessionCall.updateForTenant tenantId id u).reply
        g.store.clock g.store.sessions ≠ 0 then some u else none) s'
      cases hget : g.store.sessions.get k with
      | none =>
        rw [hget] at hrow
        cases hrow
      | some s =>
        rw [hget] at hrow
        have hrow : (if ofTenant tenantId id s then s.apply u else s) = s' :=
          Option.some.inj hrow
        rw [← hrow]
        -- a row is affected exactly where it is of the tenant
        by_cases hmatch : ofTenant tenantId id s = true
        · have hk : id = k := (ofTenant_iff.mp hmatch).2.symm.trans (hid s hget)
          rw [if_pos hmatch, if_pos ⟨hk, updateForTenant_reply.mpr ⟨s, hk ▸ hget, hmatch⟩⟩]
          exact .applied s u
        · rw [if_neg hmatch, if_neg]
          · exact .same s
          · rintro ⟨rfl, haffected⟩
            obtain ⟨s₀, hs₀, hmatch₀⟩ := updateForTenant_reply.mp haffected
            exact hmatch (Option.some.inj (hs₀.symm.trans hget) ▸ hmatch₀)
    | consumeRequestUri tenantId id e n =>
      show ColumnsFrom _ (if id = k ∧ (SessionCall.consumeRequestUri tenantId id e n).reply
        g.store.clock g.store.sessions = true then
        some { request_uri_expires_at := some n } else none) s'
      by_cases hle : e ≤ n
      · -- it has expired, and the update selects no row
        rw [SessionCall.row, if_pos hle] at hrow
        rw [hrow, if_neg fun h =>
          absurd (consumeRequestUri_reply.mp h.2).1 (Nat.not_lt.mpr hle)]
        exact .same s'
      · rw [SessionCall.row, if_neg hle] at hrow
        cases hget : g.store.sessions.get k with
        | none =>
          rw [hget] at hrow
          cases hrow
        | some s =>
          rw [hget] at hrow
          have hrow : (if ofTenant tenantId id s && s.request_uri_expires_at == some e then
              s.apply { request_uri_expires_at := some n } else s) = s' := Option.some.inj hrow
          rw [← hrow]
          by_cases hmatch : (ofTenant tenantId id s && s.request_uri_expires_at == some e) = true
          · rw [if_pos hmatch]
            rw [Bool.and_eq_true, beq_iff_eq] at hmatch
            have hk : id = k := (ofTenant_iff.mp hmatch.1).2.symm.trans (hid s hget)
            rw [if_pos ⟨hk, consumeRequestUri_reply.mpr
              ⟨Nat.lt_of_not_le hle, s, hk ▸ hget, hmatch⟩⟩]
            exact .applied s _
          · rw [if_neg hmatch, if_neg]
            · exact .same s
            · rintro ⟨rfl, hwon⟩
              obtain ⟨-, s₀, hs₀, hmatch₀, hexpiry₀⟩ := consumeRequestUri_reply.mp hwon
              cases Option.some.inj (hs₀.symm.trans hget)
              rw [hmatch₀, hexpiry₀] at hmatch
              simp at hmatch
    | _ => exact columns_kept hw hid hrow (by simp) (by simp) (by simp)
  · have hsame : g.store.sessions.get k = some s' := hs'
    exact hsame ▸ .same s'
  · have hsame : g.store.sessions.get k = some s' := hs'
    exact hsame ▸ .same s'
  · rw [System.after_store, backend_answer, sessions_frame rfl] at hs'
    exact hs' ▸ .same s'

end Eudiplo
