import Eudiplo.Backend.System

/-!
# What a call does, said once

Every call of the session repository treats each row on its own: `SessionCall.row` is
what it makes of the row under one key, and `get_effect` says that this is all it
does.  An invariant about session rows is therefore a fact about `row`, proved by
cases on the call, and no proof looks at tables again.
-/

namespace Eudiplo

open Concurrency Storage

/-- What a call of the session repository makes of the row with identifier `k`. -/
def SessionCall.row (clock : Time) (k : String) (s : Option Session) :
    SessionCall → Option Session
  | .create id tenantId u =>
    if id = k then some (s.elim (newSession id tenantId clock u) (mergeSession tenantId u)) else s
  | .updateForTenant tenantId id u =>
    s.map fun s => if ofTenant tenantId id s then s.apply u else s
  | .updateUnconsumedForTenant tenantId id u =>
    s.map fun s => if ofTenant tenantId id s && unconsumed clock s then s.apply u else s
  | .consumeRequestUri tenantId id expiresAt now =>
    if expiresAt ≤ now then s
    else
      s.map fun s =>
        if ofTenant tenantId id s && s.request_uri_expires_at == some expiresAt then
          s.apply { request_uri_expires_at := some now }
        else s
  | .incrementFailedTxCodeAttempts tenantId id =>
    s.map fun s => if ofTenant tenantId id s then s.countFailedTxCode else s
  | .changeState tenantId id u =>
    s.map fun s => if ofTenant tenantId id s then s.apply u else s
  | .changeStateFrom tenantId id from_ u =>
    s.map fun s => if ofTenant tenantId id s && from_.contains s.status then s.apply u else s
  | .deleteSessionsCreatedBefore tenantId cutoff =>
    s.filter fun s => !(s.tenantId == tenantId && s.createdAt < cutoff)
  | .anonymizeSessionsCreatedBefore tenantId cutoff =>
    s.map fun s =>
      if s.tenantId == tenantId && s.createdAt < cutoff && s.hasPersonalData then s.anonymize
      else s
  | .deleteOrphanedSessionsCreatedBefore knownTenantIds cutoff =>
    if knownTenantIds.isEmpty then s
    else s.filter fun s => !(!knownTenantIds.contains s.tenantId && s.createdAt < cutoff)
  | _ => s

theorem get_updateRows (t : SessionTable) (p : Session → Bool) (u : SessionUpdate) (k : String) :
    (updateRows t p u).get k = (t.get k).map fun s => if p s then s.apply u else s :=
  Table.get_updateWhere t p (·.apply u) (fun _ => rfl) k

/-- **A call of the session repository acts row by row.** -/
theorem SessionCall.get_effect (clock : Time) (t : SessionTable) (c : SessionCall)
    (k : String) : (c.effect clock t).get k = c.row clock k (t.get k) := by
  cases c with
  | create id tenantId u =>
    exact Table.get_upsert t (newSession id tenantId clock u) (mergeSession tenantId u)
      (fun _ => rfl) k
  | updateForTenant tenantId id u => exact get_updateRows t _ u k
  | updateUnconsumedForTenant tenantId id u => exact get_updateRows t _ u k
  | consumeRequestUri tenantId id expiresAt now =>
    by_cases h : expiresAt ≤ now
    · simp only [SessionCall.effect, SessionCall.row, if_pos h]
    · simp only [SessionCall.effect, SessionCall.row, if_neg h, get_updateRows]
  | incrementFailedTxCodeAttempts tenantId id =>
    exact Table.get_updateWhere t _ Session.countFailedTxCode (fun _ => rfl) k
  | changeState tenantId id u => exact get_updateRows t _ u k
  | changeStateFrom tenantId id from_ u => exact get_updateRows t _ u k
  | deleteSessionsCreatedBefore tenantId cutoff => exact Table.get_deleteWhere t _ k
  | anonymizeSessionsCreatedBefore tenantId cutoff =>
    exact Table.get_updateWhere t _ Session.anonymize (fun _ => rfl) k
  | deleteOrphanedSessionsCreatedBefore knownTenantIds cutoff =>
    by_cases h : knownTenantIds.isEmpty = true
    · simp only [SessionCall.effect, SessionCall.row, if_pos h]
    · simp only [SessionCall.effect, SessionCall.row, if_neg h]
      exact Table.get_deleteWhere t _ k
  | _ => rfl

/-! ## What becomes of a row -/

@[simp] theorem unconsumed_iff {clock : Time} {s : Session} :
    unconsumed clock s = true ↔ s.consumed = false ∧ isTerminalStatus s.status = false ∧
      ∀ t, s.expiresAt = some t → clock < t := by
  unfold unconsumed
  cases s.expiresAt <;> simp [and_assoc]

@[simp] theorem ofTenant_iff {tenantId id : String} {s : Session} :
    ofTenant tenantId id s = true ↔ s.tenantId = tenantId ∧ s.id = id := by
  simp [ofTenant]

/-- The call applies `u` to the row `s`: it carries `u`, and its condition holds of `s`. -/
def SessionCall.Applies (clock : Time) (s : Session) (u : SessionUpdate) : SessionCall → Prop
  | .updateForTenant tenantId id u' => u' = u ∧ s.tenantId = tenantId ∧ s.id = id
  | .updateUnconsumedForTenant tenantId id u' =>
    u' = u ∧ s.tenantId = tenantId ∧ s.id = id ∧ unconsumed clock s = true
  | .consumeRequestUri tenantId id expiresAt now =>
    { request_uri_expires_at := some now } = u ∧ s.tenantId = tenantId ∧ s.id = id ∧
      s.request_uri_expires_at = some expiresAt ∧ now < expiresAt
  | .changeState tenantId id u' => u' = u ∧ s.tenantId = tenantId ∧ s.id = id
  | .changeStateFrom tenantId id from_ u' =>
    u' = u ∧ s.tenantId = tenantId ∧ s.id = id ∧ s.status ∈ from_
  | _ => False

/-- **What a call can make of a present row** that it does not delete. -/
inductive RowChange (clock : Time) (s : Session) : SessionCall → Session → Prop where
  | same {c : SessionCall} : RowChange clock s c s
  | updated {c : SessionCall} {u : SessionUpdate} (h : c.Applies clock s u) :
    RowChange clock s c (s.apply u)
  | merged {id tenantId : String} {u : SessionUpdate} (h : s.id = id) :
    RowChange clock s (.create id tenantId u) (mergeSession tenantId u s)
  | counted {tenantId id : String} (h : s.tenantId = tenantId ∧ s.id = id) :
    RowChange clock s (.incrementFailedTxCodeAttempts tenantId id) s.countFailedTxCode
  | anonymized {tenantId : String} {cutoff : Time} :
    RowChange clock s (.anonymizeSessionsCreatedBefore tenantId cutoff) s.anonymize

theorem RowChange.of_update {clock : Time} {s s' : Session} {c : SessionCall}
    (p : Session → Bool) {u : SessionUpdate}
    (h : (some s).map (fun s => if p s then s.apply u else s) = some s')
    (hp : p s = true → c.Applies clock s u) : RowChange clock s c s' := by
  simp only [Option.map_some, Option.some.injEq] at h
  by_cases hm : p s = true
  · rw [if_pos hm] at h
    exact h ▸ .updated (hp hm)
  · rw [if_neg hm] at h
    exact h ▸ .same

theorem RowChange.of_filter {clock : Time} {s s' : Session} {c : SessionCall}
    (p : Session → Bool) (h : (some s).filter p = some s') : RowChange clock s c s' :=
  Option.some.inj (Option.filter_eq_some_iff.mp h).1 ▸ .same

/-- **Inversion**: how the row a call leaves came about. -/
theorem SessionCall.row_some {clock : Time} {k : String} {s s' : Session} {c : SessionCall}
    (hs : s.id = k) (h : c.row clock k (some s) = some s') : RowChange clock s c s' := by
  cases c with
  | create id tenantId u =>
    by_cases hid : id = k
    · rw [SessionCall.row, if_pos hid] at h
      exact Option.some.inj h ▸ .merged (hs.trans hid.symm)
    · rw [SessionCall.row, if_neg hid] at h
      exact Option.some.inj h ▸ .same
  | updateForTenant tenantId id u =>
    exact .of_update (ofTenant tenantId id) h fun hp => ⟨rfl, ofTenant_iff.mp hp⟩
  | updateUnconsumedForTenant tenantId id u =>
    refine .of_update (fun s => ofTenant tenantId id s && unconsumed clock s) h fun hp => ?_
    rw [Bool.and_eq_true, ofTenant_iff] at hp
    exact ⟨rfl, hp.1.1, hp.1.2, hp.2⟩
  | consumeRequestUri tenantId id expiresAt now =>
    -- an expiry that has passed selects no row
    by_cases hle : expiresAt ≤ now
    · rw [SessionCall.row, if_pos hle] at h
      exact Option.some.inj h ▸ .same
    · rw [SessionCall.row, if_neg hle] at h
      refine .of_update (fun s => ofTenant tenantId id s &&
        s.request_uri_expires_at == some expiresAt) h fun hp => ?_
      rw [Bool.and_eq_true, ofTenant_iff, beq_iff_eq] at hp
      exact ⟨rfl, hp.1.1, hp.1.2, hp.2, Nat.lt_of_not_le hle⟩
  | incrementFailedTxCodeAttempts tenantId id =>
    simp only [SessionCall.row, Option.map_some, Option.some.injEq] at h
    by_cases hm : ofTenant tenantId id s = true
    · rw [if_pos hm] at h
      exact h ▸ .counted (ofTenant_iff.mp hm)
    · rw [if_neg hm] at h
      exact h ▸ .same
  | changeState tenantId id u =>
    exact .of_update (ofTenant tenantId id) h fun hp => ⟨rfl, ofTenant_iff.mp hp⟩
  | changeStateFrom tenantId id from_ u =>
    refine .of_update (fun s => ofTenant tenantId id s && from_.contains s.status) h
      fun hp => ?_
    rw [Bool.and_eq_true, ofTenant_iff, List.contains_iff_mem] at hp
    exact ⟨rfl, hp.1.1, hp.1.2, hp.2⟩
  | deleteSessionsCreatedBefore tenantId cutoff =>
    exact .of_filter (fun s => !(s.tenantId == tenantId && s.createdAt < cutoff)) h
  | anonymizeSessionsCreatedBefore tenantId cutoff =>
    simp only [SessionCall.row, Option.map_some, Option.some.injEq] at h
    split at h
    · exact h ▸ .anonymized
    · exact h ▸ .same
  | deleteOrphanedSessionsCreatedBefore knownTenantIds cutoff =>
    by_cases hempty : knownTenantIds.isEmpty = true
    · rw [SessionCall.row, if_pos hempty] at h
      exact Option.some.inj h ▸ .same
    · rw [SessionCall.row, if_neg hempty] at h
      exact .of_filter _ h
  | _ => exact Option.some.inj h ▸ .same

theorem SessionCall.row_none {clock : Time} {k : String} {s' : Session} {c : SessionCall}
    (h : c.row clock k none = some s') :
    ∃ tenantId u, c = .create k tenantId u ∧ s' = newSession k tenantId clock u := by
  cases c with
  | create id tenantId u =>
    by_cases hid : id = k
    · subst hid
      rw [SessionCall.row, if_pos rfl] at h
      exact ⟨tenantId, u, rfl, (Option.some.inj h).symm⟩
    · rw [SessionCall.row, if_neg hid] at h
      cases h
  | consumeRequestUri tenantId id expiresAt now =>
    simp only [SessionCall.row] at h
    split at h <;> cases h
  | deleteOrphanedSessionsCreatedBefore knownTenantIds cutoff =>
    simp only [SessionCall.row] at h
    split at h <;> cases h
  | _ => cases h

theorem updateUnconsumed_reply {clock : Time} {t : SessionTable} {tenantId id : String}
    {u : SessionUpdate} :
    (SessionCall.updateUnconsumedForTenant tenantId id u).reply clock t = true ↔
      ∃ s, t.get id = some s ∧ s.tenantId = tenantId ∧ unconsumed clock s = true := by
  show decide (0 < t.count _) = true ↔ _
  rw [decide_eq_true_iff, Table.count_pos_of_key (k := id)]
  · constructor
    · rintro ⟨s, hs, h⟩
      simp only [ofTenant, Bool.and_eq_true, beq_iff_eq] at h
      exact ⟨s, hs, h.1.1, h.2⟩
    · rintro ⟨s, hs, rfl, h⟩
      exact ⟨s, hs, by simp [ofTenant, h, Table.get_key hs]⟩
  · intro s h
    simp only [ofTenant, Bool.and_eq_true, beq_iff_eq] at h
    exact h.1.2

theorem incrementFailedTxCodeAttempts_reply (clock : Time) {t : SessionTable}
    {tenantId id : String} :
    ((SessionCall.incrementFailedTxCodeAttempts tenantId id).reply clock t).isSome = true ↔
      ∃ s, t.get id = some s ∧ ofTenant tenantId id s = true := by
  show ((t.find (ofTenant tenantId id)).map _).isSome = true ↔ _
  rw [Option.isSome_map]
  exact Table.find_isSome_of_key fun s hs => (ofTenant_iff.mp hs).2

/-! ## Frames -/

variable {w : World}

@[simp] theorem answer_session (c : SessionCall) (st : Store) :
    answer w (.session c) st =
      (c.reply st.clock st.sessions, { st with sessions := c.effect st.clock st.sessions }) := rfl

@[simp] theorem answer_interactive (c : InteractiveCall) (st : Store) :
    answer w (.interactive c) st =
      (c.reply st.interactive, { st with interactive := c.effect st.interactive }) := rfl

@[simp] theorem answer_chained (c : ChainedCall) (st : Store) :
    answer w (.chained c) st =
      (c.reply st.chained, { st with chained := c.effect st.chained }) := rfl

/-- Is a call one of the session repository? -/
def Call.isSession : Call → Bool
  | .session _ => true
  | _ => false

theorem sessions_frame {c : Call} (h : c.isSession = false) (st : Store) :
    (answer w c st).2.sessions = st.sessions := by
  rcases c with c | c | c | (_ | _ | _)
  · cases h
  all_goals rfl

theorem interactive_frame {c : Call} (h : ∀ i, c ≠ .interactive i) (st : Store) :
    (answer w c st).2.interactive = st.interactive := by
  rcases c with c | c | c | (_ | _ | _)
  · rfl
  · exact absurd rfl (h c)
  all_goals rfl

@[simp] theorem answer_clock (c : Call) (st : Store) : (answer w c st).2.clock = st.clock := by
  rcases c with c | c | c | (_ | _ | _) <;> rfl

theorem answer_draws (c : Call) (st : Store) :
    st.draws ≤ (answer w c st).2.draws := by
  rcases c with c | c | c | (_ | _ | _)
  all_goals first | exact Nat.le_refl _ | exact Nat.le_succ _

@[simp] theorem passTime_sessions (n : Nat) (st : Store) :
    (passTime n st).sessions = st.sessions := rfl

@[simp] theorem passTime_interactive (n : Nat) (st : Store) :
    (passTime n st).interactive = st.interactive := rfl

@[simp] theorem passTime_chained (n : Nat) (st : Store) :
    (passTime n st).chained = st.chained := rfl

@[simp] theorem passTime_draws (n : Nat) (st : Store) : (passTime n st).draws = st.draws := rfl

@[simp] theorem passTime_clock (n : Nat) (st : Store) :
    (passTime n st).clock = st.clock + n := rfl

@[simp] theorem backend_answer : (backend w).answer = answer w := rfl

@[simp] theorem backend_drift : (backend w).drift = passTime := rfl

theorem found_row {clock : Time} {t : SessionTable} {nonce : String} {s : Session}
    (h : (SessionCall.findForWalletRequest nonce).reply clock t = some s) :
    t.get s.id = some s := by
  rcases Option.or_eq_some_iff.mp h with hfind | ⟨-, hfind⟩
  · exact (Table.find_some hfind).1
  · exact (Table.find_some hfind).1

/-- **Where the row under `k` comes from** after one answered call. -/
theorem session_after {g : State} {tid : Nat} {op : Call} {k : String} {s' : Session}
    (h : ((backend w).after g tid op).store.sessions.get k = some s') :
    (∃ s, g.store.sessions.get k = some s ∧
      (s' = s ∨ ∃ c, op = .session c ∧ RowChange g.store.clock s c s')) ∨
      ∃ tenantId u, op = .session (.create k tenantId u) ∧ g.store.sessions.get k = none ∧
        s' = newSession k tenantId g.store.clock u := by
  cases op with
  | session c =>
    have hrow : c.row g.store.clock k (g.store.sessions.get k) = some s' := by
      rw [← SessionCall.get_effect]
      exact h
    cases hget : g.store.sessions.get k with
    | none =>
      rw [hget] at hrow
      obtain ⟨tenantId, u, rfl, rfl⟩ := SessionCall.row_none hrow
      exact .inr ⟨tenantId, u, rfl, rfl, rfl⟩
    | some s =>
      rw [hget] at hrow
      exact .inl ⟨s, rfl, .inr ⟨c, rfl, SessionCall.row_some (Table.get_key hget) hrow⟩⟩
  | interactive c => exact .inl ⟨s', h, .inl rfl⟩
  | chained c => exact .inl ⟨s', h, .inl rfl⟩
  | env c =>
    have hsame : (answer w (.env c) g.store).2.sessions = g.store.sessions := sessions_frame rfl _
    exact .inl ⟨s', hsame ▸ h, .inl rfl⟩

/-- **What a move does to the session with identifier `k`**: nothing, or what one waiting
call of the session repository makes of it. -/
theorem session_step (c : Backend) (m : Move Nat Request) (k : String) :
    ((backend w).step c m).store.sessions.get k = c.store.sessions.get k ∨
      ∃ tid r op next, m = .resume tid ∧ c.threads[tid]? = some ⟨r, .call (.session op) next⟩ ∧
        ((backend w).step c m).store.sessions.get k =
          op.row c.store.clock k (c.store.sessions.get k) := by
  cases m with
  | arrive r => exact .inl rfl
  | drift n => exact .inl rfl
  | resume tid =>
    rcases System.step_resume_cases (M := backend w) c tid with h | ⟨r, op, next, hget, hg, -⟩
    · rw [h]
      exact .inl rfl
    · have hstore : ((backend w).step c (.resume tid)).store = (answer w op c.store).2 :=
        congrArg Global.store hg
      rw [hstore]
      cases op with
      | session op =>
        exact .inr ⟨tid, r, op, next, rfl, hget, SessionCall.get_effect _ _ _ _⟩
      | interactive op => exact .inl rfl
      | chained op => exact .inl rfl
      | env op => exact .inl (by rw [sessions_frame rfl])

end Eudiplo
