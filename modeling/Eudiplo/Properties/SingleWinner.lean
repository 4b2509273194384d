import Eudiplo.Backend.Deployment
import Eudiplo.Backend.History
import Eudiplo.Backend.TokenEvidence
import Eudiplo.Concurrency.RelyGuarantee

/-!
# A single winner per session

Token requests, presentation responses, cancellations and the maintenance timer race
for a session.  The first three commit through one conditional update, which asks for
a row that is open, not consumed and not expired, and leaves a row that is consumed
or terminal: so at most one of them ever commits (`RaceInv.once`).

The timer does not go through that update.  It selects overdue sessions first and expires them one
by one later, so its safety is a fact about what stays true in between: an overdue offer cannot be
redeemed any more, because redeeming asks for an expiry in the future (`Steady`).
-/

namespace Eudiplo

open Concurrency Prog Discipline Storage

variable {w : World} {k : String}

/-! ## The property -/

def Request.races : Request → Bool
  | .token _ | .presentation .. | .deviceResponse .. | .cancel _ | .cleanup => true
  | _ => false

/-- The expiry of a session has passed. -/
def Overdue (s : Session) (clock : Time) : Prop := ∃ t, s.expiresAt = some t ∧ t < clock

/-- **A single winner**, in a state of the backend: of all redemptions, completions,
failures and cancellations of session `k` at most one committed; a token response for a
code comes from the one that redeemed it; a session that is cancelled, failed or expired
has yielded none; and whatever move comes next, the session becomes expired only when it
is overdue and was not consumed. -/
structure SingleWinner (w : World) (k : String) (c : Backend) : Prop where
  one_commit : c.trace.countP (commits k) ≤ 1
  winner : ∀ tid q r, c.Answers tid (.token q) (.token r) → ∀ parsed,
    parseTokenRequest w q = .ok parsed → parsed.grant.isRefresh = false →
    ∃ code s, parsed.code = some code ∧
      c.global.Made tid (.session (.findByAuthorizationCode q.tenantId code)) (some s) ∧
      ∃ e ∈ c.trace, e.tid = tid ∧ redeems s.id e = true
  barred : ∀ s, c.store.sessions.get k = some s →
    s.status ∈ [SessionStatus.cancelled, .failed, .expired] →
    ∀ e ∈ c.trace, redeems k e = false
  expires : ∀ m s s', c.store.sessions.get k = some s →
    ((backend w).step c m).store.sessions.get k = some s' → s.status ≠ .expired →
    s'.status = .expired → s.consumed = false ∧ Overdue s c.store.clock

/-! ## The discipline -/

/-- An update that ends the race: it consumes the session, or it sets a terminal status. -/
structure Finishing (u : SessionUpdate) : Prop where
  finishes : u.consumed = some true ∨ ∃ x, u.status = some x ∧ isTerminalStatus x = true
  consumed : u.consumed ≠ some false
  status : u.status ≠ some .expired
  expiresAt : u.expiresAt = none
  requestId : u.requestId = none

def RaceMay (k : String) (g : State) : Call → Prop
  | .session (.create ..) | .session (.updateForTenant ..) | .session (.consumeRequestUri ..)
  | .session (.changeState ..) => False
  | .session (.updateUnconsumedForTenant _ _ u) => Finishing u
  | .session (.changeStateFrom _ id from_ u) =>
    from_ = openSessionStatuses ∧ u = stateUpdate .expired ∧
      (id = k → ∀ s, g.store.sessions.get k = some s →
        s.consumed = false ∧ Overdue s g.store.clock)
  | _ => True

/-- **The invariant of the race.** -/
structure RaceInv (k : String) (g : State) : Prop where
  once : g.trace.countP (commits k) ≤ 1
  settled : ∀ e ∈ g.trace, commits k e = true → ∀ s, g.store.sessions.get k = some s →
    s.consumed = true ∨ isTerminalStatus s.status = true
  redeemed : ∀ e ∈ g.trace, redeems k e = true → ∀ s, g.store.sessions.get k = some s →
    s.consumed = true ∧ isTerminalStatus s.status = false
  issuance : ∀ s, g.store.sessions.get k = some s → s.requestId = none

/-- **What no call changes**: the expiry, and for an overdue session whether it is
consumed. -/
structure Steady (k : String) (g g' : State) : Prop where
  clock : g.store.clock ≤ g'.store.clock
  row : ∀ s', g'.store.sessions.get k = some s' → ∃ s, g.store.sessions.get k = some s ∧
    s'.expiresAt = s.expiresAt ∧ (Overdue s g.store.clock → s'.consumed = s.consumed)

theorem Steady.refl (g : State) : Steady k g g :=
  ⟨Nat.le_refl _, fun s' hs' => ⟨s', hs', rfl, fun _ => rfl⟩⟩

theorem Steady.trans {g₁ g₂ g₃ : State} (h : Steady k g₁ g₂) (h' : Steady k g₂ g₃) :
    Steady k g₁ g₃ := by
  refine ⟨Nat.le_trans h.clock h'.clock, fun s₃ hs₃ => ?_⟩
  obtain ⟨s₂, hs₂, hexp₂, hcon₂⟩ := h'.row s₃ hs₃
  obtain ⟨s₁, hs₁, hexp₁, hcon₁⟩ := h.row s₂ hs₂
  refine ⟨s₁, hs₁, hexp₂.trans hexp₁, fun hover => ?_⟩
  obtain ⟨t, ht, hlt⟩ := hover
  have hover₂ : Overdue s₂ g₂.store.clock :=
    ⟨t, hexp₁.trans ht, Nat.lt_of_lt_of_le hlt h.clock⟩
  exact (hcon₂ hover₂).trans (hcon₁ ⟨t, ht, hlt⟩)

theorem race_change {g : State} {op : SessionCall} {s s' : Session}
    (hmay : RaceMay k g (.session op)) (hs : s.id = k)
    (h : RowChange g.store.clock s op s') :
    (s'.consumed = s.consumed ∧ s'.status = s.status ∧ s'.expiresAt = s.expiresAt ∧
        s'.requestId = s.requestId) ∨
      (∃ tenantId u, op = .updateUnconsumedForTenant tenantId k u ∧ Finishing u ∧
        unconsumed g.store.clock s = true ∧ s' = s.apply u) ∨
      (isTerminalStatus s.status = false ∧ s' = s.apply (stateUpdate .expired) ∧
        ∀ s, g.store.sessions.get k = some s → s.consumed = false ∧ Overdue s g.store.clock) := by
  cases h with
  | same => exact .inl ⟨rfl, rfl, rfl, rfl⟩
  | counted h => exact .inl ⟨rfl, rfl, rfl, rfl⟩
  | anonymized => exact .inl ⟨rfl, rfl, rfl, rfl⟩
  | merged h => exact hmay.elim
  | @updated _ u h =>
    cases op with
    | updateForTenant tenantId id u' => exact hmay.elim
    | consumeRequestUri tenantId id expiresAt now => exact hmay.elim
    | changeState tenantId id u' => exact hmay.elim
    | updateUnconsumedForTenant tenantId id u' =>
      obtain ⟨rfl, -, rfl, hun⟩ := h
      exact .inr (.inl ⟨tenantId, u', by rw [hs], hmay, hun, rfl⟩)
    | changeStateFrom tenantId id from_ u' =>
      obtain ⟨rfl, -, rfl, hopen⟩ := h
      obtain ⟨rfl, rfl, hdue⟩ := hmay
      exact .inr (.inr ⟨mem_openSessionStatuses.mp hopen, rfl, hdue hs⟩)
    | _ => exact h.elim

theorem race_row {g : State} {tid : Nat} {op : Call} {s' : Session} (hmay : RaceMay k g op)
    (h : ((backend w).after g tid op).store.sessions.get k = some s') :
    ∃ s, g.store.sessions.get k = some s ∧
      ((s'.consumed = s.consumed ∧ s'.status = s.status ∧ s'.expiresAt = s.expiresAt ∧
          s'.requestId = s.requestId) ∨
        (∃ tenantId u, op = .session (.updateUnconsumedForTenant tenantId k u) ∧ Finishing u ∧
          unconsumed g.store.clock s = true ∧ s' = s.apply u) ∨
        (isTerminalStatus s.status = false ∧ s' = s.apply (stateUpdate .expired) ∧
          s.consumed = false ∧ Overdue s g.store.clock)) := by
  rcases session_after h with ⟨s, hs, hsame | ⟨c, rfl, hc⟩⟩ | ⟨tenantId, u, rfl, -⟩
  · exact ⟨s, hs, .inl ⟨by rw [hsame], by rw [hsame], by rw [hsame], by rw [hsame]⟩⟩
  · refine ⟨s, hs, ?_⟩
    rcases race_change hmay (Table.get_key hs) hc with hsame | ⟨tenantId, u, rfl, hu⟩ | hdue
    · exact .inl hsame
    · exact .inr (.inl ⟨tenantId, u, rfl, hu⟩)
    · exact .inr (.inr ⟨hdue.1, hdue.2.1, hdue.2.2 s hs⟩)
  · exact hmay.elim

theorem commit_row {g : State} {tid : Nat} {op : Call}
    (h : commits k ⟨tid, op, (answer w op g.store).1⟩ = true) :
    ∃ tenantId u s, op = .session (.updateUnconsumedForTenant tenantId k u) ∧
      g.store.sessions.get k = some s ∧ unconsumed g.store.clock s = true ∧
      ((backend w).after g tid op).store.sessions.get k = some (s.apply u) := by
  obtain ⟨tid', tenantId, u, heq⟩ := commits_event h
  injection heq with _ hop hres
  subst hop
  have hwon : (SessionCall.updateUnconsumedForTenant tenantId k u).reply g.store.clock
      g.store.sessions = true := eq_of_heq hres
  obtain ⟨s, hs, htenant, hun⟩ := updateUnconsumed_reply.mp hwon
  refine ⟨tenantId, u, s, rfl, hs, hun, ?_⟩
  have hrow := SessionCall.get_effect g.store.clock g.store.sessions
    (.updateUnconsumedForTenant tenantId k u) k
  have hmatch : ofTenant tenantId k s = true := ofTenant_iff.mpr ⟨htenant, Table.get_key hs⟩
  show (SessionCall.effect _ _ _).get k = _
  rw [hrow, hs]
  simp only [SessionCall.row, Option.map_some, hmatch, hun, Bool.and_self, if_true]

theorem no_commit_before {g : State} (hinv : RaceInv k g) {s : Session}
    (hs : g.store.sessions.get k = some s) (hun : unconsumed g.store.clock s = true)
    {e : Answered} (he : e ∈ g.trace) : commits k e = false := by
  by_contra hcommit
  rw [Bool.not_eq_false] at hcommit
  rw [unconsumed_iff] at hun
  rcases hinv.settled e he hcommit s hs with hconsumed | hterm
  · rw [hun.1] at hconsumed
    cases hconsumed
  · rw [hun.2.1] at hterm
    cases hterm

theorem commits_once_after {g : State} {tid : Nat} {op : Call} (hinv : RaceInv k g) :
    ((backend w).after g tid op).trace.countP (commits k) ≤ 1 := by
  show (List.countP _ (⟨tid, op, (answer w op g.store).1⟩ :: g.trace)) ≤ 1
  rw [List.countP_cons]
  by_cases hnew : commits k ⟨tid, op, (answer w op g.store).1⟩ = true
  · obtain ⟨tenantId, u, s, -, hs, hun, -⟩ := commit_row (w := w) hnew
    have hzero : g.trace.countP (commits k) = 0 :=
      List.countP_eq_zero.mpr fun e he => by simp [no_commit_before hinv hs hun he]
    refine Nat.le_of_eq ?_
    rw [hzero, if_pos hnew]
  · rw [if_neg hnew]
    exact hinv.once

theorem settled_after {g : State} {tid : Nat} {op : Call} (hinv : RaceInv k g)
    (hmay : RaceMay k g op) {e : Answered} (he : e ∈ ((backend w).after g tid op).trace)
    (hcommit : commits k e = true) {s' : Session}
    (hs' : ((backend w).after g tid op).store.sessions.get k = some s') :
    s'.consumed = true ∨ isTerminalStatus s'.status = true := by
  rcases List.mem_cons.mp he with rfl | he
  · -- the new commit has just finished the row
    obtain ⟨tenantId, u, s, rfl, hs, hun, hrow⟩ := commit_row (w := w) hcommit
    have hfin : Finishing u := hmay
    rw [hrow] at hs'
    cases hs'
    rcases hfin.finishes with hconsumed | ⟨x, hx, hterm⟩
    · left
      show u.consumed.getD s.consumed = true
      rw [hconsumed]
      rfl
    · right
      show isTerminalStatus (u.status.getD s.status) = true
      rw [hx]
      exact hterm
  · obtain ⟨s, hs, hsame | ⟨tenantId, u, -, -, hun, -⟩ | ⟨-, rfl, -⟩⟩ := race_row hmay hs'
    · rw [hsame.1, hsame.2.1]
      exact hinv.settled e he hcommit s hs
    · rw [no_commit_before hinv hs hun he] at hcommit
      cases hcommit
    · exact .inr rfl

theorem redeemed_after {g : State} {tid : Nat} {op : Call} (hinv : RaceInv k g)
    (hmay : RaceMay k g op) {e : Answered} (he : e ∈ ((backend w).after g tid op).trace)
    (hredeem : redeems k e = true) {s' : Session}
    (hs' : ((backend w).after g tid op).store.sessions.get k = some s') :
    s'.consumed = true ∧ isTerminalStatus s'.status = false := by
  rcases List.mem_cons.mp he with rfl | he
  · obtain ⟨tid', tenantId', u', heq, hconsumed, hstatus⟩ := redeems_event hredeem
    obtain ⟨tenantId, u, s, rfl, hs, hun, hrow⟩ :=
      commit_row (w := w) (commits_of_redeems hredeem)
    injection heq with _ hop _
    cases hop
    rw [hrow] at hs'
    cases hs'
    rw [unconsumed_iff] at hun
    constructor
    · show u'.consumed.getD s.consumed = true
      rw [hconsumed]
      rfl
    · show isTerminalStatus (u'.status.getD s.status) = false
      rw [hstatus]
      exact hun.2.1
  · obtain ⟨s, hs, hsame | ⟨tenantId, u, -, -, hun, -⟩ | ⟨-, -, hconsumed, -⟩⟩ :=
      race_row hmay hs'
    · rw [hsame.1, hsame.2.1]
      exact hinv.redeemed e he hredeem s hs
    · have hno := no_commit_before hinv hs hun he
      rw [commits_of_redeems hredeem] at hno
      cases hno
    · -- the timer only expires what was not consumed
      rw [(hinv.redeemed e he hredeem s hs).1] at hconsumed
      cases hconsumed

theorem issuance_after {g : State} {tid : Nat} {op : Call} (hinv : RaceInv k g)
    (hmay : RaceMay k g op) {s' : Session}
    (hs' : ((backend w).after g tid op).store.sessions.get k = some s') : s'.requestId = none := by
  obtain ⟨s, hs, hsame | ⟨tenantId, u, -, hfin, -, rfl⟩ | ⟨-, rfl, -⟩⟩ := race_row hmay hs'
  · rw [hsame.2.2.2]
    exact hinv.issuance s hs
  · show u.requestId.or s.requestId = none
    rw [hfin.requestId]
    exact hinv.issuance s hs
  · exact hinv.issuance s hs

/-- **One call keeps the invariant of the race.** -/
theorem race_after {g : State} {tid : Nat} {op : Call} (hinv : RaceInv k g)
    (hmay : RaceMay k g op) : RaceInv k ((backend w).after g tid op) where
  once := commits_once_after hinv
  settled _ he hcommit _ hs' := settled_after hinv hmay he hcommit hs'
  redeemed _ he hredeem _ hs' := redeemed_after hinv hmay he hredeem hs'
  issuance _ hs' := issuance_after hinv hmay hs'

/-- **No call of the race moves an expiry or consumes an overdue session.** -/
theorem steady_after {g : State} {tid : Nat} {op : Call} (hmay : RaceMay k g op) :
    Steady k g ((backend w).after g tid op) := by
  refine ⟨Nat.le_of_eq (answer_clock op g.store).symm, fun s' hs' => ?_⟩
  obtain ⟨s, hs, hsame | ⟨tenantId, u, -, hfin, hun, rfl⟩ | ⟨-, rfl, -⟩⟩ := race_row hmay hs'
  · exact ⟨s, hs, hsame.2.2.1, fun _ => hsame.1⟩
  · refine ⟨s, hs, ?_, fun hover => ?_⟩
    · show u.expiresAt.or s.expiresAt = s.expiresAt
      rw [hfin.expiresAt]
      rfl
    · -- the conditional update asks for an expiry in the future
      obtain ⟨t, ht, hlt⟩ := hover
      have hfuture := (unconsumed_iff.mp hun).2.2 t ht
      exact absurd hfuture (Nat.not_lt.mpr (Nat.le_of_lt hlt))
  · exact ⟨s, hs, rfl, fun _ => rfl⟩

/-- The race for session `k`. -/
def race (w : World) (k : String) : Discipline (backend w) where
  inv := RaceInv k
  rely := fun _ => Steady k
  admits := fun _ _ _ => True
  may := fun g _ op => RaceMay k g op
  allowed := fun r => r.races = true
  post := fun _ _ _ _ => True
  rely_refl := fun _ => Steady.refl
  rely_trans := Steady.trans
  step := fun hinv _ _ hmay => ⟨race_after hinv hmay, fun _ _ => steady_after hmay⟩
  arrive := fun {g _} hinv _ =>
    ⟨⟨hinv.once, hinv.settled, hinv.redeemed, hinv.issuance⟩,
      fun _ _ => ⟨Nat.le_refl _, (Steady.refl g).row⟩⟩
  pass := fun {g} _ hinv => ⟨⟨hinv.once, hinv.settled, hinv.redeemed, hinv.issuance⟩,
    fun _ => ⟨Nat.le_add_right _ _, (Steady.refl g).row⟩⟩

/-! ## The handlers -/

theorem finishing_redeem (p : PreparedToken) (e : Option Time) : Finishing (redeemUpdate p e) :=
  ⟨.inl rfl, nofun, nofun, rfl, rfl⟩

theorem finishing_cancel : Finishing (stateUpdate .cancelled) :=
  ⟨.inr ⟨_, rfl, rfl⟩, nofun, nofun, rfl, rfl⟩

theorem finishing_outcome {u : SessionUpdate} (h : u.PresentationOutcome) : Finishing u := by
  rcases h.outcome with ⟨hstatus, hconsumed⟩ | ⟨hstatus, hconsumed⟩
  · exact ⟨.inl hconsumed, by simp [hconsumed], by simp [hstatus], h.expiresAt, h.requestId⟩
  · exact ⟨.inr ⟨_, hstatus, rfl⟩, by simp [hconsumed], by simp [hstatus], h.expiresAt,
      h.requestId⟩

theorem race_may_query {g : State} {c : Call} (h : c.isQuery = true) : RaceMay k g c := by
  rcases c with c | _ | _ | _
  · cases c <;> trivial
  all_goals trivial

theorem Request.races_only {r : Request} (h : r.races = true) :
    r.keepsBooks = false ∧ r.opens = false ∧ r.fetches = false := by
  cases r <;> simp_all [Request.races, Request.keepsBooks, Request.opens, Request.fetches]

theorem race_may_writes {g : State} {r : Request} {c : Call} (hr : r.races = true)
    (hcleanup : r ≠ .cleanup) (h : Writes r c) : RaceMay k g c := by
  cases h with
  | routine h =>
    cases h with
    | query h => exact race_may_query h
    | present _ h => exact finishing_outcome h
    | interactive _ => trivial
    | hosted _ => trivial
    | bookkeeping hk _ =>
      rw [(Request.races_only hr).1] at hk
      cases hk
    | opening ho _ =>
      rw [(Request.races_only hr).2.1] at ho
      cases ho
    | fetched hf =>
      rw [(Request.races_only hr).2.2] at hf
      cases hf
  | redeem => exact finishing_redeem _ _
  | cancelled => exact finishing_cancel
  | overdue => exact absurd rfl hcleanup
  | evaluate => trivial
  | attempt => trivial
  | outlived => trivial
  | anonymized => trivial
  | orphaned => trivial
  | _ => cases hr

/-- Session `k`, if it is still there, is overdue and not consumed. -/
def Due (k : String) (g : State) : Prop :=
  ∀ s, g.store.sessions.get k = some s → s.consumed = false ∧ Overdue s g.store.clock

theorem Due.steady {g g' : State} (h : Due k g) (hs : Steady k g g') : Due k g' := by
  intro s' hs'
  obtain ⟨s, hget, hexp, hcon⟩ := hs.row s' hs'
  obtain ⟨hconsumed, t, ht, hlt⟩ := h s hget
  exact ⟨(hcon ⟨t, ht, hlt⟩).trans hconsumed, t, hexp.trans ht, Nat.lt_of_lt_of_le hlt hs.clock⟩

theorem due_of_selected {g : State} (hinv : RaceInv k g) {before : Time}
    (hbefore : before ≤ g.store.clock) {s : SessionRef} (hk : s.id = k)
    (hs : s ∈ (SessionCall.findExpiredSessionsForMaintenance before).reply g.store.clock
      g.store.sessions) : Due k g := by
  intro row hrow
  obtain ⟨s', hs', rfl⟩ := List.mem_map.mp hs
  obtain ⟨hget, hmatch⟩ := Table.mem_select.mp hs'
  have hk' : s'.id = k := hk
  rw [hk', hrow] at hget
  cases hget
  rw [expiredForMaintenance, hinv.issuance row hrow] at hmatch
  simp only [Option.isSome_none, Bool.false_and, Option.isNone_none, Bool.true_and,
    Bool.false_or, Bool.and_eq_true, Option.any_eq_true, decide_eq_true_eq, beq_iff_eq,
    Bool.not_eq_true'] at hmatch
  obtain ⟨⟨t, ht, hlt⟩, -, hconsumed⟩ := hmatch
  exact ⟨hconsumed, t, ht, Nat.lt_of_lt_of_le hlt hbefore⟩

/-- **The timer is safe**: what it selected stays due until it expires it. -/
theorem safe_cleanup {tid : Nat} {g : State} (hg : (race w k).At tid .cleanup g) :
    (race w k).Safe tid (fun _ _ => True) cleanupSessions g := by
  have hnow : (race w k).Safe tid (fun g' before => before ≤ g'.store.clock) now g :=
    Safe.invoke fun g' _ _ => ⟨trivial, fun g'' hl => hl.rely.clock⟩
  refine hnow.bind hg fun before g₁ _ hg₁ hbefore => ?_
  have hselect : (race w k).Safe tid (fun g' due => (∃ s ∈ due, s.id = k) → Due k g')
      (sessions (.findExpiredSessionsForMaintenance before)) g₁ := by
    refine Safe.invoke fun g' hl _ => ⟨trivial, fun g'' hl' => ?_⟩
    rintro ⟨s, hs, hk⟩
    have hdue := due_of_selected hl.inv (Nat.le_trans hbefore hl.rely.clock) hk hs
    have hquery : Steady k g' ((backend w).after g' tid
      (.session (.findExpiredSessionsForMaintenance before))) := steady_after trivial
    exact hdue.steady (hquery.trans hl'.rely)
  refine hselect.bind hg₁ fun due g₂ _ hg₂ hdue => ?_
  have hexpire : (race w k).Safe tid (fun g' _ => (∃ s ∈ due, s.id = k) → Due k g')
      (each expireSession due) g₂ := by
    refine Safe.each hg₂ hdue (fun hl h hk => (h hk).steady hl.rely) ?_
    intro s hs g' hg' hK
    have hchange : (race w k).Safe tid (fun g'' _ => (∃ s ∈ due, s.id = k) → Due k g'')
        (sessions (.changeStateFrom s.tenantId s.id openSessionStatuses
          (stateUpdate .expired))) g' := by
      refine Safe.invoke fun g'' hl _ => ?_
      have hmay : RaceMay k g'' (.session (.changeStateFrom s.tenantId s.id openSessionStatuses
          (stateUpdate .expired))) :=
        ⟨rfl, rfl, fun hk => (hK ⟨s, hs, hk⟩).steady hl.rely⟩
      refine ⟨hmay, fun g₃ hl' hk => ?_⟩
      exact (hK hk).steady ((hl.rely.trans (steady_after hmay)).trans hl'.rely)
    exact hchange.bind hg' fun _ g'' _ hg'' hK' =>
      Safe.ret fun g₃ hl hk => (hK' hk).steady hl.rely
  -- retention only deletes and anonymizes
  refine hexpire.bind hg₂ fun _ g₃ _ hg₃ _ => ?_
  have htenant (tenant : TenantRetention) :
      (cleanupTenant tenant).Only fun op => ∀ g, RaceMay k g op := by
    refine Only.bind (only_now.mpr fun _ => trivial) fun t => ?_
    simp only
    split
    · exact Only.bind (only_sessions.mpr fun _ => trivial) fun _ => trivial
    · exact Only.bind (only_sessions.mpr fun _ => trivial) fun _ => trivial
  have horphans (tenants : List TenantRetention) (ttl : Nat) :
      (cleanupOrphans tenants ttl).Only fun op => ∀ g, RaceMay k g op := by
    unfold cleanupOrphans
    split
    · trivial
    · exact Only.bind (only_now.mpr fun _ => trivial) fun _ =>
        Only.bind (only_sessions.mpr fun _ => trivial) fun _ => trivial
  have hretention : ((ask .tenantRetention).bind fun retention =>
      (each cleanupTenant retention.1).bind fun _ =>
        cleanupOrphans retention.1 retention.2).Only fun op => ∀ g, RaceMay k g op :=
    Only.bind (only_ask fun _ => trivial) fun retention =>
      (Only.each fun tenant _ => htenant tenant).bind fun _ => horphans _ _
  exact Safe.of_only hg₃ hretention fun g' op _ _ hop _ => hop g'

/-- **Every racing request keeps to the race.** -/
theorem race_verified : (race w k).Verified := by
  intro g r _ hr hg
  by_cases hcleanup : r = .cleanup
  · subst hcleanup
    exact (safe_cleanup hg).bind hg fun _ g' _ _ _ => Safe.ret fun _ _ => trivial
  · exact Safe.of_only hg (program_writes w r) fun g' op _ _ hop _ =>
      race_may_writes hr hcleanup hop

/-! ## Every run -/

theorem expires_due {c : Backend} (hc : (race w k).Holds c) {m : Move Nat Request}
    {s s' : Session} (hs : c.store.sessions.get k = some s)
    (hs' : ((backend w).step c m).store.sessions.get k = some s') (hopen : s.status ≠ .expired)
    (hexpired : s'.status = .expired) : s.consumed = false ∧ Overdue s c.store.clock := by
  have same (h : some s = some s') : s.consumed = false ∧ Overdue s c.store.clock :=
    absurd (Option.some.inj h ▸ hexpired) hopen
  cases m with
  | arrive r => exact same (hs ▸ hs')
  | drift n => exact same (hs ▸ hs')
  | resume tid =>
    rcases System.step_resume_cases (M := backend w) c tid with hidle | ⟨r, op, next, hget, hg, -⟩
    · rw [hidle] at hs'
      exact same (hs ▸ hs')
    · have hmay : RaceMay k c.global op :=
        (hc.safe tid _ hget c.global (Discipline.Later.refl hc.inv) trivial).1
      have hafter : ((backend w).after c.global tid op).store.sessions.get k = some s' := by
        rw [← hg]
        exact hs'
      obtain ⟨row, hrow, hsame | ⟨tenantId, u, -, hfin, hun, rfl⟩ | ⟨-, -, hdue⟩⟩ :=
        race_row hmay hafter
      · cases Option.some.inj (hs.symm.trans hrow)
        exact absurd (hsame.2.1 ▸ hexpired) hopen
      · cases Option.some.inj (hs.symm.trans hrow)
        have hset : u.status.getD s.status = .expired := hexpired
        cases hstatus : u.status with
        | none =>
          rw [hstatus] at hset
          exact absurd hset hopen
        | some x =>
          rw [hstatus] at hset
          exact absurd (hstatus.trans (congrArg some hset)) hfin.status
      · cases Option.some.inj (hs.symm.trans hrow)
        exact hdue

namespace SingleWinner

open Deployment

/-- A pre-authorized offer: session `unary 1`, code `unary 2`. -/
def offered : Store := (play {} (offer 0 .pre_authorized_code none)).store

/-- Two token requests, a cancellation and the timer, call by call in turn. -/
def contest : Schedule :=
  [.arrive (tokenRequest (preAuthorizedGrant 2 none) []),
    .arrive (tokenRequest (preAuthorizedGrant 2 none) []),
    .arrive (.cancel { tenantId := "tenant", sessionId := unary 1 }), .arrive .cleanup] ++
  (List.replicate 14 [.resume 0, .resume 1, .resume 3]).flatten ++ List.replicate 5 (.resume 2)

/-- A presentation request that a pushed request names as its issuer_state: session
`unary 1`, code `unary 5`. -/
def presentationWithCode : Store :=
  (play {} (serve 0 (.createPresentation "tenant" "config" {} false) 15 ++
    push 1 (unary 1) "verifier" ++ authorize 2 4)).store

def redeemedThenDue : Schedule :=
  serve 0 (tokenRequest (codeGrant 5 "verifier") []) 14 ++ [.drift 400000] ++ serve 1 .cleanup 6

end SingleWinner

end Eudiplo
