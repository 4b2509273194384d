import Eudiplo.Backend.Deployment
import Eudiplo.Backend.Footprint
import Eudiplo.Backend.TokenEvidence
import Eudiplo.Concurrency.Provenance
import Eudiplo.Concurrency.RelyGuarantee

/-!
# The key a refresh token is bound to

A refresh token of a public client is bound to the DPoP key of the request it was
issued to, and the binding lives in the column `dpop_jkt` of its session.  Redeeming
the code writes it once, but two things get past it: a pushed request that names the
redeemed session writes its own thumbprint into the column, and a refresh request with
a client attestation is not compared with the column at all.  In every run in which
neither happens to a bound token the binding is kept (`bound_tokens`).
-/

namespace Eudiplo

open Concurrency Prog Discipline Storage

variable {w : World} {k rt : String} {g : State} {tid : Nat} {op : Call} {r : Request}

/-! ## What the library is relied on for -/

/-- No refresh token is issued twice. -/
def DistinctTokens (w : World) : Prop :=
  ∀ m n q q' r r' rt, w.answer m (.createAccessTokenResponse q) = .ok (.ok r) →
    w.answer n (.createAccessTokenResponse q') = .ok (.ok r') →
    r.refresh_token = some rt → r'.refresh_token = some rt → m = n

/-- A required proof is made by the key that is expected. -/
def ChecksExpectedKey (w : World) : Prop :=
  ∀ n q proved k, w.answer n (.verifyRefreshToken q) = .ok (.ok proved) →
    q.dpop.required = true → q.dpop.expectedJwkThumbprint = some k → proved = some k

/-! ## The property -/

/-- The event stored refresh token `rt` in session `k`, by update `u`. -/
def Stores (e : Answered) (k : String) (u : SessionUpdate) (rt : String) : Prop :=
  ∃ tid tenantId, e = ⟨tid, .session (.updateUnconsumedForTenant tenantId k u), true⟩ ∧
    u.refresh_token = some rt

/-- **Thread `t` issued `rt` to a public client, bound to the key `jkt`**: its request had no
attestation, and it stored the token beside the key's thumbprint. -/
def IssuesTo (w : World) (c : Backend) (t : Nat) (rt jkt : String) : Prop :=
  rt ≠ "" ∧ jkt ≠ "" ∧
    ∃ q r parsed, c.Answers t (.token q) (.token r) ∧ parseTokenRequest w q = .ok parsed ∧
      parsed.grant.isRefresh = false ∧ truthy parsed.attestationJwt = false ∧
      r.refresh_token = some rt ∧
      ∃ e ∈ c.trace, ∃ k u, Stores e k u rt ∧ e.tid = t ∧ u.dpop_jkt = some jkt

/-- **Bound tokens**: a refresh request is answered only if the library found it proved by the
key the token was bound to, and the session it finds still names that key. -/
structure BoundTokens (w : World) (c : Backend) : Prop where
  by_key : ∀ t rt jkt, IssuesTo w c t rt jkt →
    ∀ t' q r parsed, c.Answers t' (.token q) (.token r) → parseTokenRequest w q = .ok parsed →
    parsed.grant = .refreshToken rt →
    ∃ query, query.dpop.jwt = parsed.dpopJwt ∧ query.grant = .refreshToken rt ∧
      c.global.Made t' (.env (.ask (.verifyRefreshToken query))) (.ok (.ok (some jkt)))
  kept : ∀ t rt jkt, IssuesTo w c t rt jkt → ∀ t' tenantId s,
    c.global.Made t' (.session (.findByRefreshToken tenantId rt)) (some s) →
    s.dpop_jkt = some jkt

/-- The session holds a refresh token of a public client that is bound to `jkt`. -/
structure BoundSession (s : Session) (jkt : String) : Prop where
  refresh_token : s.refresh_token.isSome = true
  client_key_jkt : s.client_key_jkt = none
  dpop_jkt : s.dpop_jkt = some jkt

/-- The call writes the thumbprint `jkt` into the row `s`. -/
def SessionCall.WritesKey (s : Session) (jkt : String) : SessionCall → Prop
  | .updateForTenant tenantId id u => s.tenantId = tenantId ∧ s.id = id ∧ u.dpop_jkt = some jkt
  | .create id _ u => s.id = id ∧ u.dpop_jkt = some jkt
  | _ => False

/-- A thumbprint written into a session with a bound token is the one it is bound to, and a
refresh request with an attestation does not find such a session. -/
structure BindingFits (w : World) (g : State) (tid : Nat) (op : Call) : Prop where
  written : ∀ c s jkt jkt', op = .session c → g.store.sessions.get s.id = some s →
    c.WritesKey s jkt' → BoundSession s jkt → jkt' = jkt
  attested : ∀ tenantId token q parsed s jkt, op = .session (.findByRefreshToken tenantId token) →
    g.requests[tid]? = some (.token q) → parseTokenRequest w q = .ok parsed →
    truthy parsed.attestationJwt = true →
    (SessionCall.findByRefreshToken tenantId token).reply g.store.clock g.store.sessions =
      some s → ¬BoundSession s jkt

/-! ## The discipline -/

def mintedToken : Answered → Option String
  | ⟨_, .env (.ask (.createAccessTokenResponse _)), .ok (.ok r)⟩ => r.refresh_token
  | _ => none

theorem mintedToken_answer {st : Store}
    (h : mintedToken ⟨tid, op, (answer w op st).1⟩ = some rt) :
    ∃ q r, op = .env (.ask (.createAccessTokenResponse q)) ∧
      w.answer st.consults (.createAccessTokenResponse q) = .ok (.ok r) ∧
      r.refresh_token = some rt := by
  rcases op with c | c | c | (_ | _ | question)
  case env.ask =>
    cases question with
    | createAccessTokenResponse q =>
      change mintedToken ⟨tid, .env (.ask (.createAccessTokenResponse q)),
        w.answer st.consults (.createAccessTokenResponse q)⟩ = _ at h
      rcases hanswer : w.answer st.consults (.createAccessTokenResponse q) with e | e | r
      · rw [hanswer] at h
        cases h
      · rw [hanswer] at h
        cases h
      · rw [hanswer] at h
        exact ⟨q, r, rfl, hanswer, h⟩
    | _ => cases h
  all_goals cases h

theorem answer_consults (c : Call) (st : Store) :
    st.consults ≤ (answer w c st).2.consults := by
  rcases c with c | c | c | (_ | _ | _)
  all_goals first | exact Nat.le_refl _ | exact Nat.le_succ _

/-- **Refresh tokens are minted once.** -/
def tokens (w : World) (h : DistinctTokens w) : Mint (backend w) String where
  value := mintedToken
  past st rt := ∀ i, st.consults ≤ i → ∀ q r,
    w.answer i (.createAccessTokenResponse q) = .ok (.ok r) → r.refresh_token ≠ some rt
  new := fun hv hpast => by
    obtain ⟨q, r, -, hanswer, hrt⟩ := mintedToken_answer hv
    exact hpast _ (Nat.le_refl _) q r hanswer hrt
  minted := fun {_ _ st _} hv i hi q r hanswer hrt => by
    obtain ⟨q₀, r₀, rfl, hanswer₀, hrt₀⟩ := mintedToken_answer hv
    have hnext : st.consults + 1 ≤ i := hi
    have hsame := h _ _ _ _ _ _ _ hanswer₀ hanswer hrt₀ hrt
    omega
  answer := fun hpast i hi => hpast i (Nat.le_trans (answer_consults _ _) hi)
  drift := fun hpast => hpast

/-- No event has stored `rt`. -/
def NotStored (g : State) (rt : String) : Prop := ∀ e ∈ g.trace, ∀ k u, ¬Stores e k u rt

def TokenMay (w : World) (h : DistinctTokens w) (g : State) (tid : Nat) : Call → Prop
  | .session (.updateUnconsumedForTenant _ _ u) => ∀ rt, u.refresh_token = some rt →
    rt ≠ "" ∧ (tokens w h).Minted g tid rt ∧ NotStored g rt
  | _ => True

/-- The session's refresh token was stored by an event, and what that event bound it to is
still there. -/
def TokenFrom (g : State) (k : String) (s : Session) : Prop :=
  ∀ rt, s.refresh_token = some rt → ∃ e ∈ g.trace, ∃ u, Stores e k u rt ∧ s.consumed = true ∧
    s.client_key_jkt = u.client_key_jkt ∧
    (u.client_key_jkt = none → ∀ jkt, u.dpop_jkt = some jkt → s.dpop_jkt = some jkt)

/-- **The invariant.** -/
structure TokenInv (w : World) (h : DistinctTokens w) (g : State) : Prop where
  minted : (tokens w h).Once g
  unused : ∀ k s, g.store.sessions.get k = some s → s.consumed = false →
    s.refresh_token = none ∧ s.client_key_jkt = none
  rows : ∀ k s, g.store.sessions.get k = some s → TokenFrom g k s
  found : ∀ t tenantId rt s, g.Made t (.session (.findByRefreshToken tenantId rt)) (some s) →
    s.refresh_token = some rt ∧ TokenFrom g s.id s ∧ ∃ r, g.requests[t]? = some r ∧
      ∀ q parsed jkt, r = .token q → parseTokenRequest w q = .ok parsed →
        truthy parsed.attestationJwt = true → ¬BoundSession s jkt
  stored : ∀ e ∈ g.trace, ∀ k u rt, Stores e k u rt → (tokens w h).Minted g e.tid rt
  once : ∀ e ∈ g.trace, ∀ e' ∈ g.trace, ∀ k k' u u' rt, Stores e k u rt → Stores e' k' u' rt →
    e = e'

/-! ## One call -/

/-- Columns a refresh token depends on stay. -/
structure KeepsToken (s s' : Session) : Prop where
  refresh_token : s'.refresh_token = s.refresh_token
  client_key_jkt : s'.client_key_jkt = s.client_key_jkt
  consumed : s'.consumed = s.consumed

structure SessionUpdate.KeepsToken (u : SessionUpdate) : Prop where
  refresh_token : u.refresh_token = none := by rfl
  client_key_jkt : u.client_key_jkt = none := by rfl
  consumed : u.consumed = none := by rfl

theorem SessionUpdate.Bookkeeping.keepsToken {u : SessionUpdate} (h : u.Bookkeeping) :
    u.KeepsToken := ⟨h.refresh_token, h.client_key_jkt, h.consumed⟩

theorem SessionUpdate.KeepsToken.apply {u : SessionUpdate} (h : u.KeepsToken) (s : Session) :
    Eudiplo.KeepsToken s (s.apply u) := by
  refine ⟨?_, ?_, ?_⟩
  · show u.refresh_token.or s.refresh_token = s.refresh_token
    rw [h.refresh_token, Option.none_or]
  · show u.client_key_jkt.or s.client_key_jkt = s.client_key_jkt
    rw [h.client_key_jkt, Option.none_or]
  · show u.consumed.getD s.consumed = s.consumed
    rw [h.consumed, Option.getD_none]

theorem writes_update_keepsToken {tenantId id : String} {u : SessionUpdate}
    (h : Writes r (.session (.updateForTenant tenantId id u))) : u.KeepsToken := by
  cases h with
  | routine h =>
    cases h with
    | query h => cases h
    | bookkeeping _ h => exact h.keepsToken
  | push => exact ⟨rfl, rfl, rfl⟩
  | issueCode => exact ⟨rfl, rfl, rfl⟩
  | bindCode => exact ⟨rfl, rfl, rfl⟩

theorem writes_create_keepsToken {tenantId id : String} {u : SessionUpdate}
    (h : Writes r (.session (.create id tenantId u))) : u.KeepsToken := by
  cases h with
  | routine h =>
    cases h with
    | query h => cases h
    | opening _ h => exact h.keepsToken
  | offer => exact ⟨rfl, rfl, rfl⟩
  | pushNew => exact ⟨rfl, rfl, rfl⟩

theorem apply_dpop_jkt (s : Session) (u : SessionUpdate) :
    (s.apply u).dpop_jkt = s.dpop_jkt ∨
      ∃ jkt, u.dpop_jkt = some jkt ∧ (s.apply u).dpop_jkt = some jkt := by
  cases hu : u.dpop_jkt with
  | none => exact .inl (show u.dpop_jkt.or s.dpop_jkt = s.dpop_jkt by rw [hu, Option.none_or])
  | some jkt => exact .inr ⟨jkt, rfl, show u.dpop_jkt.or s.dpop_jkt = some jkt by rw [hu]; rfl⟩

/-- **What becomes of a session's token**: a conditional update of an unconsumed session, or
at most another thumbprint. -/
theorem token_change {c : SessionCall} {clock : Time} {s s' : Session}
    (hw : Writes r (.session c)) (h : RowChange clock s c s') :
    (∃ u, c = .updateUnconsumedForTenant s.tenantId s.id u ∧ unconsumed clock s = true ∧
      s' = s.apply u) ∨
      (KeepsToken s s' ∧
        (s'.dpop_jkt = s.dpop_jkt ∨ ∃ jkt, c.WritesKey s jkt ∧ s'.dpop_jkt = some jkt)) := by
  cases h with
  | same => exact .inr ⟨⟨rfl, rfl, rfl⟩, .inl rfl⟩
  | counted h => exact .inr ⟨⟨rfl, rfl, rfl⟩, .inl rfl⟩
  | anonymized => exact .inr ⟨⟨rfl, rfl, rfl⟩, .inl rfl⟩
  | @merged id tenantId u h =>
    have hkeeps := (writes_create_keepsToken hw).apply s
    refine .inr ⟨⟨hkeeps.refresh_token, hkeeps.client_key_jkt, hkeeps.consumed⟩, ?_⟩
    rcases apply_dpop_jkt s u with hsame | ⟨jkt, hu, hs'⟩
    · exact .inl hsame
    · exact .inr ⟨jkt, ⟨h, hu⟩, hs'⟩
  | @updated _ u h =>
    cases c with
    | updateForTenant tenantId id u' =>
      obtain ⟨rfl, htenant, hid⟩ := h
      refine .inr ⟨(writes_update_keepsToken hw).apply s, ?_⟩
      rcases apply_dpop_jkt s u' with hsame | ⟨jkt, hu, hs'⟩
      · exact .inl hsame
      · exact .inr ⟨jkt, ⟨htenant, hid, hu⟩, hs'⟩
    | updateUnconsumedForTenant tenantId id u' =>
      obtain ⟨rfl, rfl, rfl, hun⟩ := h
      exact .inl ⟨u', rfl, hun, rfl⟩
    | consumeRequestUri tenantId id expiresAt now =>
      obtain ⟨rfl, -⟩ := h
      exact .inr ⟨⟨rfl, rfl, rfl⟩, .inl rfl⟩
    | changeState tenantId id u' =>
      obtain ⟨rfl, -⟩ := h
      -- of the requests only a notification does this, with a status alone
      cases hw with
      | routine hw =>
        cases hw with
        | query hq => cases hq
      | notified => exact .inr ⟨⟨rfl, rfl, rfl⟩, .inl rfl⟩
    | changeStateFrom tenantId id from_ u' =>
      obtain ⟨rfl, -⟩ := h
      cases hw with
      | routine hw =>
        cases hw with
        | query hq => cases hq
        | fetched _ => exact .inr ⟨⟨rfl, rfl, rfl⟩, .inl rfl⟩
      | overdue => exact .inr ⟨⟨rfl, rfl, rfl⟩, .inl rfl⟩
    | _ => exact h.elim

theorem writes_redeem {tenantId id : String} {u : SessionUpdate}
    (h : Writes r (.session (.updateUnconsumedForTenant tenantId id u))) :
    u.consumed = some true ∨ (u.refresh_token = none ∧ u.client_key_jkt = none) := by
  cases h with
  | routine h =>
    cases h with
    | query h => cases h
    | present _ h => exact .inr ⟨h.refresh_token, h.client_key_jkt⟩
  | redeem => exact .inl rfl
  | cancelled => exact .inr ⟨rfl, rfl⟩

theorem stores_after (tid : Nat) {s : Session} {u : SessionUpdate}
    (hs : g.store.sessions.get k = some s) (hun : unconsumed g.store.clock s = true)
    (hrt : u.refresh_token = some rt) :
    ∃ e ∈ ((backend w).after g tid
      (.session (.updateUnconsumedForTenant s.tenantId s.id u))).trace, Stores e k u rt := by
  have hid : s.id = k := Table.get_key hs
  subst hid
  have hwon : (SessionCall.updateUnconsumedForTenant s.tenantId s.id u).reply g.store.clock
      g.store.sessions = true := updateUnconsumed_reply.mpr ⟨s, hs, rfl, hun⟩
  refine ⟨_, List.mem_cons_self, tid, s.tenantId, ?_, hrt⟩
  show (⟨tid, .session (.updateUnconsumedForTenant s.tenantId s.id u),
    (SessionCall.updateUnconsumedForTenant s.tenantId s.id u).reply g.store.clock
      g.store.sessions⟩ : Answered) = _
  rw [hwon]

theorem TokenFrom.extends {g' : State} {s : Session} (h : TokenFrom g k s) (he : g.Extends g') :
    TokenFrom g' k s := by
  intro rt hrt
  obtain ⟨e, hmem, u, hstores, hrest⟩ := h rt hrt
  exact ⟨e, he.event hmem, u, hstores, hrest⟩

variable {hd : DistinctTokens w}

/-- **An unconsumed session has no token**, one call later. -/
theorem unused_after (hinv : TokenInv w hd g) (hw : Writes r op) {s' : Session}
    (hs' : ((backend w).after g tid op).store.sessions.get k = some s')
    (hconsumed : s'.consumed = false) : s'.refresh_token = none ∧ s'.client_key_jkt = none := by
  rcases session_after hs' with ⟨s, hs, rfl | ⟨c, rfl, hc⟩⟩ | ⟨tenantId, u, rfl, -, rfl⟩
  · exact hinv.unused k _ hs hconsumed
  · rcases token_change hw hc with ⟨u, rfl, hun, rfl⟩ | ⟨hkeeps, -⟩
    · obtain ⟨hnone, hkey⟩ := hinv.unused k s hs (unconsumed_iff.mp hun).1
      rcases writes_redeem hw with hredeem | ⟨hrt, hjkt⟩
      · -- the redemption consumes
        have hnot : u.consumed.getD s.consumed = false := hconsumed
        rw [hredeem] at hnot
        cases hnot
      · constructor
        · show u.refresh_token.or s.refresh_token = none
          rw [hrt, hnone, Option.none_or]
        · show u.client_key_jkt.or s.client_key_jkt = none
          rw [hjkt, hkey, Option.none_or]
    · rw [hkeeps.refresh_token, hkeeps.client_key_jkt]
      exact hinv.unused k s hs (hkeeps.consumed ▸ hconsumed)
  · have hkeeps := writes_create_keepsToken hw
    constructor
    · show u.refresh_token.or none = none
      rw [hkeeps.refresh_token, Option.none_or]
    · show u.client_key_jkt.or none = none
      rw [hkeeps.client_key_jkt, Option.none_or]

/-- **A stored token is still bound as it was stored**, one call later. -/
theorem rows_after (hinv : TokenInv w hd g) (hw : Writes r op) (hfits : BindingFits w g tid op)
    {s' : Session} (hs' : ((backend w).after g tid op).store.sessions.get k = some s') :
    TokenFrom ((backend w).after g tid op) k s' := by
  have hext := System.extends_after (M := backend w) g tid op
  rcases session_after hs' with ⟨s, hs, rfl | ⟨c, rfl, hc⟩⟩ | ⟨tenantId, u, rfl, -, rfl⟩
  · exact (hinv.rows k _ hs).extends hext
  · rcases token_change hw hc with ⟨u, rfl, hun, rfl⟩ | ⟨hkeeps, hdpop⟩
    · -- the token is stored by this call
      obtain ⟨hnone, hkey⟩ := hinv.unused k s hs (unconsumed_iff.mp hun).1
      intro rt hrt
      have hu : u.refresh_token = some rt := by
        have hor : u.refresh_token.or s.refresh_token = some rt := hrt
        rwa [hnone, Option.or_none] at hor
      obtain ⟨e, he, hstores⟩ := stores_after (w := w) tid hs hun hu
      refine ⟨e, he, u, hstores, ?_, ?_, fun _ jkt hjkt => ?_⟩
      · rcases writes_redeem hw with hredeem | ⟨hno, -⟩
        · show u.consumed.getD s.consumed = true
          rw [hredeem]
          rfl
        · rw [hno] at hu
          cases hu
      · show u.client_key_jkt.or s.client_key_jkt = u.client_key_jkt
        rw [hkey, Option.or_none]
      · show u.dpop_jkt.or s.dpop_jkt = some jkt
        rw [hjkt]
        rfl
    · intro rt hrt
      rw [hkeeps.refresh_token] at hrt
      obtain ⟨e, he, u, hstores, hconsumed, hkey, hbound⟩ := hinv.rows k s hs rt hrt
      refine ⟨e, hext.event he, u, hstores, hkeeps.consumed.trans hconsumed,
        hkeeps.client_key_jkt.trans hkey, fun hpublic jkt hjkt => ?_⟩
      have hold := hbound hpublic jkt hjkt
      rcases hdpop with hsame | ⟨jkt', hwrites, hnew⟩
      · exact hsame.trans hold
      · -- what is written is what was there
        have hrow : g.store.sessions.get s.id = some s := by
          rw [Table.get_key hs]
          exact hs
        rw [hnew, hfits.written c s jkt jkt' rfl hrow hwrites
          ⟨by rw [hrt]; rfl, hkey.trans hpublic, hold⟩]
  · intro rt hrt
    have hor : u.refresh_token.or none = some rt := hrt
    rw [(writes_create_keepsToken hw).refresh_token, Option.none_or] at hor
    cases hor

theorem found_after (hinv : TokenInv w hd g) (hreq : g.requests[tid]? = some r)
    (hfits : BindingFits w g tid op) {t : Nat} {tenantId : String} {s : Session}
    (h : ((backend w).after g tid op).Made t (.session (.findByRefreshToken tenantId rt))
      (some s)) :
    s.refresh_token = some rt ∧ TokenFrom ((backend w).after g tid op) s.id s ∧
      ∃ r, g.requests[t]? = some r ∧ ∀ q parsed jkt, r = .token q →
        parseTokenRequest w q = .ok parsed → truthy parsed.attestationJwt = true →
        ¬BoundSession s jkt := by
  have hext := System.extends_after (M := backend w) g tid op
  rcases List.mem_cons.mp h with heq | hold
  · injection heq with htid hop hres
    subst htid
    subst hop
    have hfind : (SessionCall.findByRefreshToken tenantId rt).reply g.store.clock
        g.store.sessions = some s := (eq_of_heq hres).symm
    obtain ⟨hget, hmatch⟩ := Table.find_some hfind
    simp only [Bool.and_eq_true, beq_iff_eq] at hmatch
    refine ⟨hmatch.2, (hinv.rows s.id s hget).extends hext, r, hreq, ?_⟩
    rintro q parsed jkt rfl hparsed hattested
    exact hfits.attested tenantId rt q parsed s jkt rfl hreq hparsed hattested hfind
  · obtain ⟨hrt, hfrom, hattested⟩ := hinv.found t tenantId rt s hold
    exact ⟨hrt, hfrom.extends hext, hattested⟩

theorem may_of_stores (hmay : TokenMay w hd g tid op) {u : SessionUpdate}
    (h : Stores ⟨tid, op, ((backend w).answer op g.store).1⟩ k u rt) :
    rt ≠ "" ∧ (tokens w hd).Minted g tid rt ∧ NotStored g rt := by
  obtain ⟨tid', tenantId, heq, hrt⟩ := h
  injection heq with _ hop _
  subst hop
  exact hmay rt hrt

/-- **A token is stored once**, one call later. -/
theorem token_once_after (hinv : TokenInv w hd g) (hmay : TokenMay w hd g tid op)
    {e e' : Answered} (he : e ∈ ((backend w).after g tid op).trace)
    (he' : e' ∈ ((backend w).after g tid op).trace) {k k' : String} {u u' : SessionUpdate}
    (h : Stores e k u rt) (h' : Stores e' k' u' rt) : e = e' := by
  rcases List.mem_cons.mp he with rfl | hold
  · rcases List.mem_cons.mp he' with rfl | hold'
    · rfl
    · exact absurd h' ((may_of_stores hmay h).2.2 e' hold' k' u')
  · rcases List.mem_cons.mp he' with rfl | hold'
    · exact absurd h ((may_of_stores hmay h').2.2 e hold k u)
    · exact hinv.once e hold e' hold' k k' u u' rt h h'

/-- What other threads leave to thread `tid`: nobody stores a token that `tid` was issued. -/
structure TokenRely (w : World) (hd : DistinctTokens w) (tid : Nat) (g g' : State) : Prop where
  hist : g.Extends g'
  tokens : ∀ rt, (tokens w hd).Minted g tid rt → NotStored g rt → NotStored g' rt

theorem token_rely {t : Nat} (hne : t ≠ tid) (hinv : TokenInv w hd g)
    (hmay : TokenMay w hd g tid op) : TokenRely w hd t g ((backend w).after g tid op) := by
  refine ⟨System.extends_after _ _ _, fun rt hminted hnot e he k u hstores => ?_⟩
  rcases List.mem_cons.mp he with rfl | hold
  · exact hne (hinv.minted.unique hminted (may_of_stores hmay hstores).2.1)
  · exact hnot e hold k u hstores

def bindings (w : World) (hd : DistinctTokens w) : Discipline (backend w) where
  inv := TokenInv w hd
  rely := TokenRely w hd
  admits := fun g tid op => BindingFits w g tid op ∧ ∃ r, g.requests[tid]? = some r ∧ Writes r op
  may := TokenMay w hd
  allowed := fun _ => True
  post := fun _ _ _ _ => True
  rely_refl := fun _ g => ⟨.refl g, fun _ _ h => h⟩
  rely_trans := fun h h' => ⟨h.hist.trans h'.hist, fun rt hminted hnot =>
    h'.tokens rt (hminted.extends h.hist) (h.tokens rt hminted hnot)⟩
  step := fun {g tid r op} hinv hreq hadm hmay => by
    obtain ⟨hfits, r', hreq', hw⟩ := hadm
    have hext := System.extends_after (M := backend w) g tid op
    refine ⟨?_, fun t hne => token_rely hne hinv hmay⟩
    exact {
      minted := hinv.minted.after tid op
      unused := fun _ _ => unused_after hinv hw
      rows := fun _ _ => rows_after hinv hw hfits
      found := fun _ _ _ _ => found_after hinv hreq hfits
      stored := fun e he k u rt hstores => by
        rcases List.mem_cons.mp he with rfl | hold
        · exact (may_of_stores hmay hstores).2.1.extends hext
        · exact (hinv.stored e hold k u rt hstores).extends hext
      once := fun _ he _ he' _ _ _ _ _ => token_once_after hinv hmay he he' }
  arrive := fun {g r} hinv _ => by
    have hext := Global.extends_arrive g r
    refine ⟨?_, fun t _ => ⟨hext, fun _ _ h => h⟩⟩
    exact {
      minted := hinv.minted.arrive r
      unused := hinv.unused
      rows := hinv.rows
      found := fun t tenantId rt s hmade => by
        obtain ⟨hrt, hfrom, r', hreq, hattested⟩ := hinv.found t tenantId rt s hmade
        exact ⟨hrt, hfrom, r', hext.request hreq, hattested⟩
      stored := hinv.stored
      once := hinv.once }
  pass := fun {g} n hinv => by
    have hext := System.extends_pass (M := backend w) g n
    refine ⟨?_, fun t => ⟨hext, fun _ _ h => h⟩⟩
    exact {
      minted := hinv.minted.pass n
      unused := hinv.unused
      rows := hinv.rows
      found := hinv.found
      stored := hinv.stored
      once := hinv.once }

/-! ## The handlers -/

theorem token_may_query {c : Call} (h : c.isQuery = true) : TokenMay w hd g tid c := by
  rcases c with c | _ | _ | _
  · cases c <;> trivial
  all_goals trivial

theorem token_may_verifies {q : AccessTokenRequest} {c : Call} (h : Verifies q c) :
    TokenMay w hd g tid c := by
  cases h with
  | query h => exact token_may_query h
  | evaluate => trivial
  | attempt => trivial

theorem token_may_writes {c : Call} (hr : ∀ q, r ≠ .token q) (h : Writes r c) :
    TokenMay w hd g tid c := by
  cases h with
  | routine h =>
    cases h with
    | query h => exact token_may_query h
    | present _ h =>
      intro rt hrt
      rw [h.refresh_token] at hrt
      cases hrt
    | _ => trivial
  | redeem => exact absurd rfl (hr _)
  | cancelled => exact fun _ hrt => nomatch hrt
  | _ => trivial

theorem bindings_verifies {α : Type} {q : AccessTokenRequest} {p : Api α}
    (hg : (bindings w hd).At tid r g) (hp : p.Only (Verifies q)) :
    (bindings w hd).Safe tid (fun _ _ => True) p g :=
  Safe.of_only hg hp fun _ _ _ _ hop _ => token_may_verifies hop

theorem bindings_reads {α : Type} {p : Api α} (hg : (bindings w hd).At tid r g)
    (hp : Reads p) : (bindings w hd).Safe tid (fun _ _ => True) p g :=
  Safe.of_only hg hp fun _ _ _ _ hop _ => token_may_query hop

/-- The thread was issued every refresh token of the response, and nobody has stored it. -/
def FreshToken (w : World) (hd : DistinctTokens w) (g : State) (tid : Nat) (r : TokenResponse) :
    Prop :=
  ∀ rt, r.refresh_token = some rt → (tokens w hd).Minted g tid rt ∧ NotStored g rt

theorem FreshToken.later {g' : State} {response : TokenResponse}
    (h : FreshToken w hd g tid response) (hl : (bindings w hd).Later tid g g') :
    FreshToken w hd g' tid response := fun rt hrt =>
  ⟨(h rt hrt).1.extends hl.hist, hl.rely.tokens rt (h rt hrt).1 (h rt hrt).2⟩

/-- **A created response has a fresh refresh token**, if it has one. -/
theorem bindings_createAccessTokenResponse (query : CreateAccessTokenResponse) :
    (bindings w hd).Safe tid
      (fun g' a => ∀ response, a = .ok response → FreshToken w hd g' tid response)
      (ask (.createAccessTokenResponse query)) g := by
  intro g' hl hadm
  refine ⟨trivial, ?_⟩
  cases hanswer : ((backend w).answer (.env (.ask (.createAccessTokenResponse query)))
    g'.store).1 with
  | error e => trivial
  | ok a =>
    intro g'' hl' response hresponse
    refine FreshToken.later (fun rt hrt => ?_) hl'
    have hvalue : mintedToken ⟨tid, .env (.ask (.createAccessTokenResponse query)),
        ((backend w).answer (.env (.ask (.createAccessTokenResponse query))) g'.store).1⟩ =
        some rt := by
      rw [hanswer, hresponse]
      exact hrt
    refine ⟨Mint.minted_after hvalue, fun e he k u hstores => ?_⟩
    rcases List.mem_cons.mp he with rfl | hold
    · obtain ⟨_, _, heq, -⟩ := hstores
      injection heq with _ hop _
      cases hop
    · exact hl.inv.minted.not_minted hvalue (hl.inv.stored e hold k u rt hstores)

/-- **A prepared token is fresh.** -/
theorem bindings_prepareToken {q : AccessTokenRequest}
    (hg : (bindings w hd).At tid (.token q) g) :
    (bindings w hd).Safe tid (fun g' p => FreshToken w hd g' tid p.response)
      (prepareToken w q) g := by
  unfold prepareToken
  refine Safe.ofExcept fun parsed _ => ?_
  refine (bindings_reads hg (reads_findSession _ _)).bind hg fun s g₁ _ hg₁ _ => ?_
  refine (bindings_reads hg₁ (reads_assertCodeRedeemable _ _)).bind hg₁ fun _ g₂ _ hg₂ _ => ?_
  refine (bindings_reads hg₂ (reads_tokenConfiguration _ _)).bind hg₂ fun config g₃ _ hg₃ _ => ?_
  refine (bindings_reads hg₃ (reads_verifyClientAttestation _ _ _ _ _)).bind hg₃
    fun _ g₄ _ hg₄ _ => ?_
  refine Safe.ofExcept fun _ _ => Safe.ofExcept fun _ _ =>
    Safe.ofExcept fun _ _ => Safe.ofExcept fun _ _ => ?_
  refine (bindings_verifies hg₄ (verifies_verifyGrant q parsed s config)).bind hg₄
    fun dpopJkt g₅ _ hg₅ _ => ?_
  have hcreate : (bindings w hd).Safe tid (fun g' response => FreshToken w hd g' tid response)
      (createTokenResponse w q parsed s config dpopJkt) g₅ := by
    unfold createTokenResponse
    refine (bindings_reads hg₅ (reads_signingKeyId _ _)).bind hg₅ fun keyId g₆ _ hg₆ _ => ?_
    refine (bindings_reads hg₆ (reads_ask _ rfl)).bind hg₆ fun jwk g₇ _ hg₇ _ => ?_
    refine Safe.ofExcept fun details _ => ?_
    refine (bindings_createAccessTokenResponse _).bind hg₇ fun answer g₈ _ _ hfresh => ?_
    cases answer with
    | ok response => exact fun g' hl => (hfresh response rfl).later hl
    | error e => trivial
  exact hcreate.bind hg₅ fun response g₆ _ _ hfresh => Safe.ret fun g' hl =>
    FreshToken.later hfresh hl

theorem bindings_exchangeAccessToken {q : AccessTokenRequest}
    (hg : (bindings w hd).At tid (.token q) g) :
    (bindings w hd).Safe tid (fun _ _ => True) (exchangeAccessToken w q) g := by
  refine (bindings_prepareToken hg).bind hg fun p g₁ _ hg₁ hfresh => ?_
  unfold commitToken
  split
  · exact fun _ _ => trivial
  · have hexpiry : (bindings w hd).Safe tid
        (fun g' _ => FreshToken w hd g' tid p.response ∧ True)
        (issuedRefreshExpiry p.config p.response) g₁ := by
      refine Safe.keep hg₁ (reads_issuedRefreshExpiry _ _)
        (fun _ _ _ _ hop _ => token_may_query hop) hfresh (fun hl hK => hK.later hl)
        (fun {g' op} hop hK rt hrt => ?_) (System.yields_true _)
      refine ⟨(hK rt hrt).1.extends (System.extends_after _ _ _), fun e he k u hstores => ?_⟩
      rcases List.mem_cons.mp he with rfl | hold
      · obtain ⟨_, _, heq, -⟩ := hstores
        injection heq with _ hop' _
        subst hop'
        cases hop
      · exact (hK rt hrt).2 e hold k u hstores
    refine hexpiry.bind hg₁ fun expiry g₂ _ hg₂ hK => ?_
    have hredeem : (bindings w hd).Safe tid (fun _ _ => True)
        (updateIfUnconsumed p.session.tenantId p.session.id (redeemUpdate p expiry)) g₂ := by
      refine Safe.invoke fun g' hl _ => ⟨fun rt hrt => ?_, fun _ _ => trivial⟩
      -- only a token that is not empty is stored
      have hstored : (if truthy p.response.refresh_token then p.response.refresh_token
        else none) = some rt := hrt
      split at hstored
      · rename_i htruthy
        obtain ⟨rt', hrt', hne⟩ := truthy_iff.mp htruthy
        cases hrt'.symm.trans hstored
        exact ⟨hne, hK.1.later hl rt hstored⟩
      · cases hstored
    exact hredeem.bind hg₂ fun won g₃ _ _ _ => Safe.ensure fun _ =>
      Safe.ret fun _ _ => trivial

/-- **Every request keeps to the discipline.** -/
theorem bindings_verified (hd : DistinctTokens w) : (bindings w hd).Verified := by
  intro g r _ _ hg
  by_cases htoken : ∃ q, r = .token q
  · obtain ⟨q, rfl⟩ := htoken
    exact (bindings_exchangeAccessToken hg).bind hg fun _ _ _ _ _ =>
      Safe.ret fun _ _ => trivial
  · exact Safe.of_only hg (program_writes w r) fun _ _ _ _ hop _ =>
      token_may_writes (fun q h => htoken ⟨q, h⟩) hop

/-! ## Every run -/

theorem Stores.update {e : Answered} {k' : String} {u u' : SessionUpdate} {rt' : String}
    (h : Stores e k u rt) (h' : Stores e k' u' rt') : u = u' := by
  obtain ⟨tid, tenantId, rfl, -⟩ := h
  obtain ⟨tid', tenantId', heq, -⟩ := h'
  injection heq with _ hop _
  cases hop
  rfl

theorem IssuesTo.public {c : Backend} (hinv : TokenInv w hd c.global) {t : Nat} {jkt : String}
    (hevidence : ∀ q r, c.Answers t (.token q) (.token r) → ∃ p, TokenIssued w c.global t q r p)
    (h : IssuesTo w c t rt jkt) :
    ∃ e ∈ c.trace, ∃ k u, Stores e k u rt ∧ u.client_key_jkt = none ∧ u.dpop_jkt = some jkt := by
  obtain ⟨hne, -, q, r, parsed, hanswer, hparsed, hcode, hpublic, hrt, e, he, k, u, hstores, -,
    hjkt⟩ := h
  obtain ⟨p, hp⟩ := hevidence q r hanswer
  obtain rfl : p.parsed = parsed := Except.ok.inj (hp.passed.parsed.symm.trans hparsed)
  obtain ⟨expiry, hredeemed⟩ := hp.redeemed hcode
  have hresponse : p.response.refresh_token = some rt := by rw [← hp.response, hrt]
  have htruthy : truthy p.response.refresh_token = true :=
    truthy_iff.mpr ⟨rt, hresponse, hne⟩
  -- the redemption of this thread is the event that stored the token
  have hown : Stores ⟨t, .session (.updateUnconsumedForTenant p.session.tenantId p.session.id
      (redeemUpdate p expiry)), true⟩ p.session.id (redeemUpdate p expiry) rt := by
    refine ⟨t, p.session.tenantId, rfl, ?_⟩
    show (if truthy p.response.refresh_token then p.response.refresh_token else none) = some rt
    rw [if_pos htruthy, hresponse]
  have hsame := hinv.once e he _ hredeemed k _ u _ rt hstores hown
  subst hsame
  refine ⟨_, hredeemed, k, u, hstores, ?_, hjkt⟩
  rw [hstores.update hown]
  show p.clientKeyJkt = none
  rw [hp.passed.key]
  unfold clientKeyJkt
  rw [if_neg (by rw [hpublic]; exact Bool.false_ne_true)]

theorem bound_of_found {c : Backend} (hinv : TokenInv w hd c.global) {e : Answered}
    {u : SessionUpdate} {jkt : String} (he : e ∈ c.trace) (hstores : Stores e k u rt)
    (hpublic : u.client_key_jkt = none) (hjkt : u.dpop_jkt = some jkt) {t : Nat}
    {tenantId : String} {s : Session}
    (hfound : c.global.Made t (.session (.findByRefreshToken tenantId rt)) (some s)) :
    BoundSession s jkt := by
  obtain ⟨hrt, hfrom, -⟩ := hinv.found t tenantId rt s hfound
  obtain ⟨e', he', u', hstores', -, hkey, hbound⟩ := hfrom rt hrt
  have hsame := hinv.once e he e' he' k s.id u u' rt hstores hstores'
  subst hsame
  obtain rfl := hstores.update hstores'
  exact ⟨by rw [hrt]; rfl, hkey.trans hpublic, hbound hpublic jkt hjkt⟩

/-- **Bound tokens stay bound**, in every run in which thumbprints written into sessions with
a bound token are the stored ones and no request with an attestation refreshes one. -/
theorem bound_tokens (w : World) (st : Store) (ms : Schedule) (hdistinct : DistinctTokens w)
    (hchecks : ChecksExpectedKey w) (hempty : st.sessions = Table.empty)
    (hfits : (backend w).Guarded (BindingFits w) (.start st) ms) :
    BoundTokens w ((backend w).run (.start st) ms) := by
  have hrow (k : String) : st.sessions.get k = none := by
    rw [hempty]
    rfl
  have hstart : TokenInv w hdistinct (⟨st, [], []⟩ : State) := {
    minted := .start st
    unused := fun k s hs => nomatch (hrow k).symm.trans hs
    rows := fun k s hs => nomatch (hrow k).symm.trans hs
    found := fun t tenantId rt s hmade => nomatch hmade
    stored := fun e he => nomatch he
    once := fun e he => nomatch he }
  have hadmits := hfits.and (System.Footed.guarded (M := backend w) (program_writes w)
    (System.footed_start Writes st) ms)
  have hinv := (Discipline.run_holds (bindings_verified hdistinct)
    (Discipline.holds_start hstart) (fun _ _ => trivial) hadmits).inv
  refine ⟨fun t rt jkt hissues t' q r parsed hanswer hparsed hgrant => ?_,
    fun t rt jkt hissues t' tenantId s hfound => ?_⟩
  · have hne := hissues.2.1
    obtain ⟨e, he, k, u, hstores, hpublic, hjkt⟩ := hissues.public hinv fun _ _ => token_issued
    obtain ⟨p, hp⟩ := token_issued hanswer
    obtain rfl : p.parsed = parsed := Except.ok.inj (hp.passed.parsed.symm.trans hparsed)
    have hfound := hp.passed.found
    rw [FoundSession, hgrant] at hfound
    have hbound := bound_of_found hinv he hstores hpublic hjkt hfound
    have hnotattested : truthy p.parsed.attestationJwt = false := by
      obtain ⟨-, -, r', hreq, hattested⟩ := hinv.found t' _ rt _ hfound
      by_contra hyes
      rw [Bool.not_eq_false] at hyes
      cases hreq.symm.trans (Config.global_request hanswer)
      exact hattested q p.parsed jkt rfl hparsed hyes hbound
    have hverified := hp.passed.verified
    rw [VerifiedGrant, hgrant] at hverified
    obtain ⟨s', hs'⟩ := System.run_answered hverified
    have hlibrary : w.answer s'.consults
        (.verifyRefreshToken (refreshTokenQuery q p.parsed p.session p.config)) =
        .ok (.ok p.dpopJkt) := hs'.symm
    -- the key is expected, and so is a proof
    have hrequired : (refreshTokenQuery q p.parsed p.session p.config).dpop.required = true := by
      show (_ || truthy p.session.dpop_jkt) = true
      rw [hbound.dpop_jkt, truthy_iff.mpr ⟨jkt, rfl, hne⟩, Bool.or_true]
    have hexpected : (refreshTokenQuery q p.parsed p.session p.config).dpop.expectedJwkThumbprint =
        some jkt := by
      show (if truthy p.parsed.attestationJwt then none else p.session.dpop_jkt) = some jkt
      rw [hnotattested, hbound.dpop_jkt]
      rfl
    have hproved := hchecks _ _ _ _ hlibrary hrequired hexpected
    rw [hproved] at hverified
    exact ⟨_, rfl, hgrant, hverified⟩
  · obtain ⟨e, he, k, u, hstores, hpublic, hjkt⟩ := hissues.public hinv fun _ _ => token_issued
    exact (bound_of_found hinv he hstores hpublic hjkt hfound).dpop_jkt

/-! ## A bound token, and two ways to loosen it -/

namespace RefreshBinding

open Deployment

/-- A pre-authorized offer is redeemed with a proof by `key`; the refresh token is the one of
the tenth question. -/
def issue : Schedule :=
  offer 0 .pre_authorized_code none ++
  serve 1 (tokenRequest (preAuthorizedGrant 2 none) [("DPoP", "key")]) 14

/-- The refresh token `issue` issues. -/
def issued : String := "rt-" ++ unary 10

def refreshed : Schedule :=
  issue ++ pushProved 2 "" "verifier" (some "other") ++
  serve 3 (tokenRequest (refreshGrant issued) [("DPoP", "key")]) 12

/-- A request pushed to the redeemed session with another key binds the token to that key. -/
def rebound : Schedule :=
  issue ++ pushProved 2 (unary 1) "verifier" (some "other") ++
  serve 3 (tokenRequest (refreshGrant issued) [("DPoP", "other")]) 12

/-- A request with an attestation refreshes the token of a public client by another key. -/
def attested : Schedule :=
  issue ++ serve 2 (tokenRequest (refreshGrant issued)
    [("DPoP", "other"), ("OAuth-Client-Attestation", "client")]) 12

/-- The event stored `rt` for thread `t`, bound to `jkt`. -/
def storesBound (t : Nat) (rt jkt : String) : Answered → Bool
  | ⟨t', .session (.updateUnconsumedForTenant _ _ u), won⟩ =>
    t' == t && won && u.refresh_token == some rt && u.dpop_jkt == some jkt
  | _ => false

/-- The library found a refresh request of thread `t` proved by `jkt`. -/
def provesKey (t : Nat) (jkt : String) : Answered → Bool
  | ⟨t', .env (.ask (.verifyRefreshToken _)), .ok (.ok proved)⟩ =>
    t' == t && proved == some jkt
  | _ => false

def redeemsPublicly (w : World) (q : AccessTokenRequest) : Bool :=
  match parseTokenRequest w q with
  | .ok parsed => !parsed.grant.isRefresh && !truthy parsed.attestationJwt
  | .error _ => false

theorem issuesTo_of_any {c : Backend} (t : Nat) (rt jkt : String) {q : AccessTokenRequest}
    (hr : c.global.requests[t]? = some (.token q)) (hpublic : redeemsPublicly w q = true)
    (hanswered : (answered c t).any (Response.isTokenWith rt) = true)
    (hstored : c.trace.any (storesBound t rt jkt) = true) (hrt : rt ≠ "") (hjkt : jkt ≠ "") :
    IssuesTo w c t rt jkt := by
  obtain ⟨a, hcheck, hanswers⟩ := answers_of_any t _ hr hanswered
  obtain ⟨⟨t', op, res⟩, he, hstores⟩ := List.any_eq_true.mp hstored
  obtain ⟨parsed, hparsed, hcode, hpublic⟩ : ∃ parsed, parseTokenRequest w q = .ok parsed ∧
      parsed.grant.isRefresh = false ∧ truthy parsed.attestationJwt = false := by
    unfold redeemsPublicly at hpublic
    split at hpublic
    · rename_i parsed hparsed
      rw [Bool.and_eq_true, Bool.not_eq_true', Bool.not_eq_true'] at hpublic
      exact ⟨parsed, hparsed, hpublic⟩
    · cases hpublic
  cases a with
  | token r =>
    refine ⟨hrt, hjkt, q, r, parsed, hanswers, hparsed, hcode, hpublic, beq_iff_eq.mp hcheck, ?_⟩
    rcases op with (_ | _ | ⟨tenantId, id, u⟩ | _ | _ | _ | _ | _ | _ | _ | _ | _ | _ | _ | _ |
      _ | _ | _) | _ | _ | _
    case session.updateUnconsumedForTenant =>
      simp only [storesBound, Bool.and_eq_true, beq_iff_eq] at hstores
      obtain ⟨⟨⟨rfl, rfl⟩, hurt⟩, hujkt⟩ := hstores
      exact ⟨_, he, id, u, ⟨t', tenantId, rfl, hurt⟩, rfl, hujkt⟩
    all_goals cases hstores
  | _ => cases hcheck

theorem not_bound_of_any {c : Backend} {t : Nat} (t' : Nat) {jkt : String} {q : AccessTokenRequest}
    {parsed : ParsedAccessTokenRequest} (hissues : IssuesTo w c t rt jkt)
    (hr : c.global.requests[t']? = some (.token q))
    (hparsed : parseTokenRequest w q = .ok parsed) (hgrant : parsed.grant = .refreshToken rt)
    (hanswered : (answered c t').any Response.isToken = true)
    (hproved : c.trace.any (provesKey t' jkt) = false) : ¬BoundTokens w c := by
  intro hbound
  obtain ⟨a, hcheck, hanswers⟩ := answers_of_any t' _ hr hanswered
  cases a with
  | token r =>
    obtain ⟨query, -, -, hmade⟩ :=
      hbound.by_key t rt jkt hissues t' q r parsed hanswers hparsed hgrant
    have hyes : c.trace.any (provesKey t' jkt) = true :=
      List.any_eq_true.mpr ⟨_, hmade, by simp [provesKey]⟩
    rw [hproved] at hyes
    cases hyes
  | _ => cases hcheck

theorem distinctTokens (setup : Setup) : DistinctTokens (deployment setup) := by
  intro m n q q' r r' rt hm hn hr hr'
  cases hm
  cases hn
  have htoken (i : Nat) (q : CreateAccessTokenResponse)
      (h : (tokenResponse i q).refresh_token = some rt) : rt = "rt-" ++ unary i := by
    have hif : (if q.refreshToken then some ("rt-" ++ unary i) else none) = some rt := h
    split at hif
    · exact (Option.some.inj hif).symm
    · cases hif
  have heq : "rt-" ++ unary m = "rt-" ++ unary n := (htoken m q hr).symm.trans (htoken n q' hr')
  exact unary_injective ((String.append_right_inj _).mp heq)

theorem checksExpectedKey (setup : Setup) : ChecksExpectedKey (deployment setup) := by
  intro n q proved key h hrequired hexpected
  have hverify : verifyRefreshToken q = .ok proved := Except.ok.inj h
  unfold verifyRefreshToken at hverify
  split at hverify
  · unfold verifyDpop at hverify
    rw [hrequired, hexpected] at hverify
    split at hverify
    · cases hverify
    · split at hverify
      · rename_i hsame
        cases hverify
        exact congrArg some (by simpa using hsame : key = _).symm
      · cases hverify
  · cases hverify

/-- `BindingFits`, evaluated. -/
def bindingFits (w : World) (g : State) (tid : Nat) : Call → Bool
  | .session (.updateForTenant tenantId id u) =>
    u.dpop_jkt.isNone || (g.store.sessions.get id).all fun s =>
      s.tenantId != tenantId || s.refresh_token.isNone || s.client_key_jkt.isSome ||
        s.dpop_jkt.isNone || u.dpop_jkt == s.dpop_jkt
  | .session (.create id _ u) =>
    u.dpop_jkt.isNone || (g.store.sessions.get id).all fun s =>
      s.refresh_token.isNone || s.client_key_jkt.isSome || s.dpop_jkt.isNone ||
        u.dpop_jkt == s.dpop_jkt
  | .session (.findByRefreshToken ..) =>
    match g.requests[tid]? with
    | some (.token q) =>
      match parseTokenRequest w q with
      | .ok parsed => !truthy parsed.attestationJwt
      | .error _ => true
    | _ => true
  | _ => true

theorem bindingFits_sound (g : State) (tid : Nat) (op : Call)
    (h : bindingFits w g tid op = true) : BindingFits w g tid op := by
  refine ⟨?_, ?_⟩
  · rintro c s jkt jkt' rfl hs hwrites ⟨hrt, hkey, hjkt⟩
    have hholds : s.refresh_token.isNone = false := by rw [← Option.not_isSome, hrt]; rfl
    cases c with
    | updateForTenant tenantId id u =>
      obtain ⟨rfl, rfl, hu⟩ := hwrites
      simpa [bindingFits, hs, hu, hkey, hjkt, hholds] using h
    | create id tenantId u =>
      obtain ⟨rfl, hu⟩ := hwrites
      simpa [bindingFits, hs, hu, hkey, hjkt, hholds] using h
    | _ => exact hwrites.elim
  · rintro tenantId token q parsed s jkt rfl hreq hparsed hattested - -
    simp [bindingFits, hreq, hparsed, hattested] at h

end RefreshBinding

/-- A token is refreshed by its key while another key is pushed elsewhere. -/
theorem bound_tokens_of_refreshed :
    BoundTokens (deployment {})
      ((backend (deployment {})).run (.start freshStore) RefreshBinding.refreshed) :=
  bound_tokens _ _ _ (RefreshBinding.distinctTokens {}) (RefreshBinding.checksExpectedKey {}) rfl
    (System.guarded_of_checks RefreshBinding.bindingFits_sound (by decide +kernel))

/-- **A bound token is refreshed by another key**: after a request with that key was pushed to
its session, and by a request with an attestation. -/
theorem not_bound_tokens :
    ¬BoundTokens (deployment {})
        ((backend (deployment {})).run (.start freshStore) RefreshBinding.rebound) ∧
      ¬BoundTokens (deployment {})
        ((backend (deployment {})).run (.start freshStore) RefreshBinding.attested) := by
  constructor
  · have hrequests := System.run_requests (M := backend (deployment {})) (.start freshStore)
      RefreshBinding.rebound
    have hissues := RefreshBinding.issuesTo_of_any (w := deployment {}) 1
      RefreshBinding.issued "key"
      (by rw [hrequests]; rfl) rfl (by decide +kernel) (by decide +kernel) (by decide) (by decide)
    exact RefreshBinding.not_bound_of_any 3 hissues (by rw [hrequests]; rfl) rfl rfl
      (by decide +kernel) (by decide +kernel)
  · have hrequests := System.run_requests (M := backend (deployment {})) (.start freshStore)
      RefreshBinding.attested
    have hissues := RefreshBinding.issuesTo_of_any (w := deployment {}) 1
      RefreshBinding.issued "key"
      (by rw [hrequests]; rfl) rfl (by decide +kernel) (by decide +kernel) (by decide) (by decide)
    exact RefreshBinding.not_bound_of_any 2 hissues (by rw [hrequests]; rfl) rfl rfl
      (by decide +kernel) (by decide +kernel)

end Eudiplo
