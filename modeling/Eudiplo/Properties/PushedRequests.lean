import Eudiplo.Backend.CodeProvenance
import Eudiplo.Backend.Deployment
import Eudiplo.Backend.History

/-!
# Codes and the pushed requests they are issued for

A pushed request lives in columns of a session, and a later push for the same issuer_state writes
over them.  A code is redeemed against whatever these columns hold when the token request looks
the session up, so it is bound to its own pushed request as long as the columns have not been
written again (`PushedCodes.bound`).

A request_uri is consumed by a compare-and-set whose version is the expiry timestamp.
-/

namespace Eudiplo

open Concurrency Prog Discipline Storage

variable {w : World} {k uri : String} {g : State} {tid : Nat} {op : Call}

/-! ## Reading pushes off the history -/

/-- The event stored a pushed request in session `k`: its request_uri and its expiry. -/
def pushes (k uri : String) (expiry : Time) (e : Answered) : Bool :=
  (writeOf k e).any fun u =>
    u.request_uri == some uri && u.request_uri_expires_at == some expiry

/-- The event wrote authorization parameters into session `k`. -/
def rewrites (k : String) (e : Answered) : Bool := (writeOf k e).any (·.auth_queries.isSome)

/-- The event stored this expiry timestamp in session `k`. -/
def storesExpiry (k : String) (expiry : Time) (e : Answered) : Bool :=
  (writeOf k e).any (·.request_uri_expires_at == some expiry)

/-- The event consumed the request_uri of session `k` at this version. -/
def consumes (k : String) (expiry : Time) : Answered → Bool
  | ⟨_, .session (.consumeRequestUri _ id e _), won⟩ => won && id == k && e == expiry
  | _ => false

/-- How often a timestamp was stored in session `k`. -/
def expiryWrites (k : String) (expiry : Time) (trace : List Answered) : Nat :=
  trace.countP (storesExpiry k expiry)

/-! ## The property -/

/-- **The token request presents what the pushed request bound**: a verifier of its
challenge, and no other client id or redirect_uri. -/
structure BoundTo (w : World) (body : AuthorizeQueries) (q : AccessTokenRequest)
    (parsed : ParsedAccessTokenRequest) : Prop where
  verifier : ∃ v, q.body.code_verifier = some v ∧ body.code_challenge = some (w.s256 v)
  client : ∀ client, (attestedClientId w parsed).or q.body.client_id = some client →
    client ≠ "" → body.client_id = some client
  redirect : ∀ uri, q.body.redirect_uri = some uri → body.redirect_uri = some uri

/-- **The authorization endpoint handed out a code** for this request_uri. -/
def HandsOut (c : Backend) (tid : Nat) (uri code : String) : Prop :=
  ∃ q redirect, c.Answers tid (.authorize q) (.redirect redirect) ∧
    q.request_uri = some uri ∧ redirect.code = some code

/-- The event is the lookup by which token request `q` of thread `tid` found session `s`. -/
def LooksUp (tid : Nat) (q : AccessTokenRequest) (code : String) (s : Session) (e : Answered) :
    Prop :=
  e = ⟨tid, .session (.findByAuthorizationCode q.tenantId code), some s⟩

/-- **Codes of pushed requests**: a code handed out for `uri` is redeemed in the session the
request with that uri was pushed to, and by what that request bound, unless the
authorization parameters of the session were written again before the lookup; a uri yields
one code, unless its expiry timestamp was stored more than once; and it is consumed at a
clock reading before its expiry. -/
structure PushedCodes (w : World) (c : Backend) : Prop where
  bound : ∀ t uri code, HandsOut c t uri code →
    ∀ tid q r, c.Answers tid (.token q) (.token r) → ∀ parsed,
    parseTokenRequest w q = .ok parsed → parsed.grant.isAuthorizationCode = true →
    parsed.code = some code →
    ∃ pushed push expiry s lookup newer mid older,
      c.global.requests[push.tid]? = some (.pushAuthorization pushed) ∧
      pushes s.id uri expiry push = true ∧ LooksUp tid q code s lookup ∧
      c.trace = newer ++ lookup :: (mid ++ push :: older) ∧
      (BoundTo w pushed.body q parsed ∨ ∃ e ∈ mid, rewrites s.id e = true)
  once : ∀ t t' uri code code', HandsOut c t uri code → HandsOut c t' uri code' →
    t = t' ∨ ∃ push ∈ c.trace, ∃ k expiry, pushes k uri expiry push = true ∧
      2 ≤ expiryWrites k expiry c.trace
  in_time : ∀ t uri code, HandsOut c t uri code →
    ∃ push ∈ c.trace, ∃ k expiry clock tenantId, pushes k uri expiry push = true ∧
      c.global.Made t (.session (.consumeRequestUri tenantId k expiry clock)) true ∧
      c.global.Made t (.env .now) clock ∧ clock < expiry

/-! ## The discipline -/

/-- No request has been pushed under this uri. -/
def NotPushed (g : State) (uri : String) : Prop :=
  ∀ e ∈ g.trace, ∀ k expiry, pushes k uri expiry e = false

/-- Some request has been pushed to session `k` under this uri. -/
def Pushed (g : State) (k uri : String) (expiry : Time) : Prop :=
  ∃ e ∈ g.trace, pushes k uri expiry e = true

/-- A request pushed under this uri: it is valid, and the uri was drawn for it. -/
def PushFits (g : State) (tid : Nat) (uri : String) : Prop :=
  ∃ q v, g.requests[tid]? = some (.pushAuthorization q) ∧
    assertValidPushedAuthorizationRequest q.body = .ok () ∧ uri = requestUriPrefix ++ v ∧
    Drew g tid v ∧ NotPushed g uri

/-- A uri is pushed once, and an expiry is replaced by a past clock reading only. -/
def PushMay (g : State) (tid : Nat) : Call → Prop
  | .session (.create _ _ u) | .session (.updateForTenant _ _ u) =>
    ∀ uri, u.request_uri = some uri → PushFits g tid uri
  | .session (.consumeRequestUri _ _ _ t) => t ≤ g.store.clock
  | _ => True

/-- What is known of every call anyway (`codes_guarded`). -/
def CodeKnown (w : World) (g : State) (tid : Nat) (op : Call) : Prop :=
  DrawnOnce w g ∧ CodeMay g tid op ∧ ∃ r, g.requests[tid]? = some r ∧ Writes r op

/-- The code was drawn by some request; if that is one of the authorization endpoint, the
uri it was for had been pushed to session `k`. -/
def CodeFor (requests : List Request) (trace : List Answered) (k code : String) : Prop :=
  ∃ t r, requests[t]? = some r ∧ (⟨t, .env .fresh, code⟩ : Answered) ∈ trace ∧
    ∀ q, r = .authorize q → ∃ uri expiry, q.request_uri = some uri ∧
      ∃ e ∈ trace, pushes k uri expiry e = true

/-- The parameters in the row are those of the newest write to them, if there are any. -/
def QueriesFrom (trace : List Answered) (k : String) (s : Session) : Prop :=
  ∀ newer e older u, trace = newer ++ e :: older → writeOf k e = some u →
    u.auth_queries.isSome = true → (∀ e' ∈ newer, rewrites k e' = false) →
    s.auth_queries = none ∨ s.auth_queries = u.auth_queries

/-- A stored request_uri was pushed to its session, and its expiry is the pushed one or has
passed. -/
def UriFrom (g : State) (k : String) (s : Session) : Prop :=
  ∀ uri, s.request_uri = some uri → ∃ expiry, Pushed g k uri expiry ∧
    ∀ t, s.request_uri_expires_at = some t → t = expiry ∨ t ≤ g.store.clock

/-- One if session `k` has this expiry. -/
def holdsExpiry (g : State) (k : String) (expiry : Time) : Nat :=
  if (g.store.sessions.get k).any (·.request_uri_expires_at == some expiry) then 1 else 0

/-- **The invariant.** -/
structure PushInv (g : State) : Prop where
  uris : ∀ k s, g.store.sessions.get k = some s → UriFrom g k s
  codes : ∀ k s code, g.store.sessions.get k = some s → s.authorization_code = some code →
    CodeFor g.requests g.trace k code
  queries : ∀ k s, g.store.sessions.get k = some s → QueriesFrom g.trace k s
  found_uri : ∀ t tenantId uri s,
    g.Made t (.session (.findByRequestUri tenantId uri)) (some s) →
    s.request_uri = some uri ∧ UriFrom g s.id s
  found_code : ∀ newer t tenantId code s older,
    g.trace = newer ++ ⟨t, .session (.findByAuthorizationCode tenantId code), some s⟩ :: older →
    CodeFor g.requests older s.id code ∧ QueriesFrom older s.id s
  pushed : ∀ e ∈ g.trace, ∀ k uri expiry, pushes k uri expiry e = true →
    ∃ q v, g.requests[e.tid]? = some (.pushAuthorization q) ∧
      assertValidPushedAuthorizationRequest q.body = .ok () ∧
      (∀ u, writeOf k e = some u → u.auth_queries = some q.body) ∧
      uri = requestUriPrefix ++ v ∧ Drew g e.tid v
  once : ∀ e ∈ g.trace, ∀ e' ∈ g.trace, ∀ k k' uri expiry expiry',
    pushes k uri expiry e = true → pushes k' uri expiry' e' = true →
    k = k' ∧ expiry = expiry'
  consumed : ∀ k expiry, g.trace.countP (consumes k expiry) + holdsExpiry g k expiry ≤
    expiryWrites k expiry g.trace

/-! ## One call -/

abbrev eventOf (w : World) (g : State) (tid : Nat) (op : Call) : Answered :=
  ⟨tid, op, ((backend w).answer op g.store).1⟩

theorem pushes_iff {expiry : Time} {e : Answered} :
    pushes k uri expiry e = true ↔ ∃ u, writeOf k e = some u ∧ u.request_uri = some uri ∧
      u.request_uri_expires_at = some expiry := by
  simp only [pushes, Option.any_eq_true, Bool.and_eq_true, beq_iff_eq]

theorem Pushed.extends {g' : State} {expiry : Time} (h : Pushed g k uri expiry)
    (he : g.Extends g') : Pushed g' k uri expiry := by
  obtain ⟨e, hmem, hpush⟩ := h
  exact ⟨e, he.event hmem, hpush⟩

theorem CodeFor.extends {requests requests' : List Request} {trace trace' : List Answered}
    {code : String} (h : CodeFor requests trace k code)
    (hr : ∀ (t : Nat) (r : Request), requests[t]? = some r → requests'[t]? = some r)
    (ht : ∀ e ∈ trace, e ∈ trace') : CodeFor requests' trace' k code := by
  obtain ⟨t, r, hreq, hdrew, hpushed⟩ := h
  refine ⟨t, r, hr t r hreq, ht _ hdrew, fun q hq => ?_⟩
  obtain ⟨uri, expiry, huri, e, he, hpush⟩ := hpushed q hq
  exact ⟨uri, expiry, huri, e, ht e he, hpush⟩

theorem UriFrom.later {g' : State} {s : Session} (h : UriFrom g k s) (he : g.Extends g')
    (hclock : g.store.clock ≤ g'.store.clock) : UriFrom g' k s := by
  intro uri huri
  obtain ⟨expiry, hpushed, hexpiry⟩ := h uri huri
  refine ⟨expiry, hpushed.extends he, fun t ht => ?_⟩
  rcases hexpiry t ht with heq | hle
  · exact .inl heq
  · exact .inr (Nat.le_trans hle hclock)

/-- **A stored uri was pushed**, one call later. -/
theorem uris_after {r : Request} (hinv : PushInv g) (hw : Writes r op)
    (hmay : PushMay g tid op) {s' : Session}
    (hs' : ((backend w).after g tid op).store.sessions.get k = some s') :
    UriFrom ((backend w).after g tid op) k s' := by
  have hext := System.extends_after (M := backend w) g tid op
  have hclock : ((backend w).after g tid op).store.clock = g.store.clock := answer_clock op g.store
  have hcols := columns_after hw hs'
  intro uri huri
  rw [hcols.request_uri] at huri
  -- an event that leaves the uri alone leaves it as it was pushed
  have kept (hnone : ∀ u, writeOf k (eventOf w g tid op) = some u → u.request_uri = none)
      (hexpiry : ∀ u t, writeOf k (eventOf w g tid op) = some u →
        u.request_uri_expires_at = some t → t ≤ g.store.clock) :
      ∃ expiry, Pushed ((backend w).after g tid op) k uri expiry ∧
        ∀ t, s'.request_uri_expires_at = some t →
          t = expiry ∨ t ≤ ((backend w).after g tid op).store.clock := by
    have hold : (g.store.sessions.get k).bind (·.request_uri) = some uri := by
      cases hwrite : writeOf k (eventOf w g tid op) with
      | none =>
        rw [hwrite] at huri
        exact huri
      | some u =>
        rw [hwrite] at huri
        simpa [hnone u hwrite] using huri
    obtain ⟨s, hs, hsuri⟩ := Option.bind_eq_some_iff.mp hold
    obtain ⟨expiry, hpushed, hle⟩ := hinv.uris k s hs uri hsuri
    refine ⟨expiry, hpushed.extends hext, fun t ht => ?_⟩
    rw [hcols.request_uri_expires_at] at ht
    rw [hclock]
    rcases Option.or_eq_some_iff.mp ht with hnew | ⟨-, hsame⟩
    · obtain ⟨u, hwrite, hu⟩ := Option.bind_eq_some_iff.mp hnew
      exact .inr (hexpiry u t hwrite hu)
    · rw [hs] at hsame
      exact hle t hsame
  cases hwrite : writeOf k (eventOf w g tid op) with
  | none =>
    have hnothing {u : SessionUpdate} (h : writeOf k (eventOf w g tid op) = some u) : False := by
      rw [hwrite] at h
      cases h
    exact kept (fun u h => (hnothing h).elim) fun u t h => (hnothing h).elim
  | some u =>
    rcases write_kinds hw hwrite with ⟨q, uri', expiry, jkt, -, rfl⟩ | ⟨tenantId, e, t, rfl, rfl⟩ |
      ⟨hnone, hexpiry⟩
    · -- the push itself
      rw [hwrite] at huri
      cases huri
      refine ⟨expiry, ⟨_, List.mem_cons_self, pushes_iff.mpr ⟨_, hwrite, rfl, rfl⟩⟩, fun t ht => ?_⟩
      rw [hcols.request_uri_expires_at, hwrite] at ht
      cases ht
      exact .inl rfl
    · -- a consumption leaves a past clock reading
      refine kept (fun u h => ?_) fun u t' h ht' => ?_
      · cases Option.some.inj (hwrite.symm.trans h)
        rfl
      · cases Option.some.inj (hwrite.symm.trans h)
        cases ht'
        exact hmay
    · refine kept (fun u' h => ?_) fun u' t h ht => ?_
      · cases Option.some.inj (hwrite.symm.trans h)
        exact hnone
      · cases Option.some.inj (hwrite.symm.trans h)
        rw [hexpiry] at ht
        cases ht

/-- **A stored code was drawn, and its uri pushed**, one call later. -/
theorem codes_after (hinv : PushInv g) (hknown : CodeKnown w g tid op) {s' : Session}
    {code : String} (hs' : ((backend w).after g tid op).store.sessions.get k = some s')
    (hcode : s'.authorization_code = some code) :
    CodeFor g.requests ((backend w).after g tid op).trace k code := by
  obtain ⟨-, hcodemay, r, hreq, hw⟩ := hknown
  have hext := System.extends_after (M := backend w) g tid op
  rw [(columns_after hw hs').authorization_code] at hcode
  rcases Option.or_eq_some_iff.mp hcode with hnew | ⟨-, hold⟩
  · -- the code was written by this call
    obtain ⟨u, hwrite, hu⟩ := Option.bind_eq_some_iff.mp hnew
    rcases writeOf_some hwrite with ⟨tenantId, rfl⟩ | ⟨tenantId, rfl⟩ | ⟨_, _, _, rfl, rfl⟩
    · have hdrew : Drew g tid code := hcodemay code hu
      refine ⟨tid, r, hreq, hext.event hdrew, fun q hq => ?_⟩
      subst hq
      cases hw with
      | routine hw =>
        cases hw with
        | query hq => cases hq
        | opening ho _ => cases ho
    · obtain ⟨hdrew, hfound⟩ := hcodemay code hu
      refine ⟨tid, r, hreq, hext.event hdrew, fun q hq => ?_⟩
      obtain ⟨uri, s, huri, hmade, hid⟩ := hfound q (hq ▸ hreq)
      obtain ⟨hstored, hfrom⟩ := hinv.found_uri tid q.tenantId uri s hmade
      obtain ⟨expiry, ⟨e, he, hpush⟩, -⟩ := hfrom uri hstored
      exact ⟨uri, expiry, huri, e, hext.event he, hid ▸ hpush⟩
    · cases hu
  · obtain ⟨s, hs, hsame⟩ := Option.bind_eq_some_iff.mp hold
    exact (hinv.codes k s code hs hsame).extends (fun _ _ h => h) fun _ => hext.event

/-- **The parameters are those of the newest write**, one call later. -/
theorem queries_after {r : Request} (hinv : PushInv g) (hw : Writes r op) {s' : Session}
    (hs' : ((backend w).after g tid op).store.sessions.get k = some s') :
    QueriesFrom ((backend w).after g tid op).trace k s' := by
  have hcols := columns_after hw hs'
  rintro newer e older u htrace hwrite hqueries hquiet
  cases newer with
  | nil =>
    -- the newest write is this call
    obtain ⟨rfl, -⟩ := List.cons.inj htrace
    rw [hwrite] at hcols
    rcases hcols.auth_queries with hnone | hsame
    · exact .inl hnone
    · obtain ⟨body, hbody⟩ := Option.isSome_iff_exists.mp hqueries
      refine .inr (hsame.trans ?_)
      show u.auth_queries.or _ = _
      rw [hbody]
      rfl
  | cons e' newer =>
    obtain ⟨rfl, htail⟩ := List.cons.inj htrace
    have hkept : (writeOf k (eventOf w g tid op)).bind (·.auth_queries) = none := by
      have hthis := hquiet _ List.mem_cons_self
      unfold rewrites at hthis
      cases hw' : writeOf k (eventOf w g tid op) with
      | none => rfl
      | some u' =>
        rw [hw'] at hthis
        simpa using hthis
    rcases hcols.auth_queries with hnone | hsame
    · exact .inl hnone
    · rw [hkept, Option.none_or] at hsame
      cases hget : g.store.sessions.get k with
      | none =>
        rw [hget] at hsame
        exact .inl hsame
      | some s =>
        rw [hget] at hsame
        have hold := hinv.queries k s hget newer e older u htail hwrite hqueries
          fun e'' he'' => hquiet e'' (List.mem_cons_of_mem _ he'')
        show s'.auth_queries = none ∨ s'.auth_queries = u.auth_queries
        rw [show s'.auth_queries = s.auth_queries from hsame]
        exact hold

theorem found_uri_after (hinv : PushInv g) {t : Nat} {tenantId uri : String} {s : Session}
    (h : ((backend w).after g tid op).Made t (.session (.findByRequestUri tenantId uri))
      (some s)) :
    s.request_uri = some uri ∧ UriFrom ((backend w).after g tid op) s.id s := by
  have hext := System.extends_after (M := backend w) g tid op
  have hclock : g.store.clock ≤ ((backend w).after g tid op).store.clock :=
    Nat.le_of_eq (answer_clock op g.store).symm
  rcases List.mem_cons.mp h with heq | hold
  · injection heq with _ hop hres
    subst hop
    have hfind : (SessionCall.findByRequestUri tenantId uri).reply g.store.clock
        g.store.sessions = some s := (eq_of_heq hres).symm
    obtain ⟨hget, hmatch⟩ := Table.find_some hfind
    simp only [Bool.and_eq_true, beq_iff_eq] at hmatch
    exact ⟨hmatch.2, (hinv.uris s.id s hget).later hext hclock⟩
  · obtain ⟨hstored, hfrom⟩ := hinv.found_uri t tenantId uri s hold
    exact ⟨hstored, hfrom.later hext hclock⟩

theorem found_code_after (hinv : PushInv g) {newer older : List Answered} {t : Nat}
    {tenantId code : String} {s : Session}
    (h : ((backend w).after g tid op).trace =
      newer ++ ⟨t, .session (.findByAuthorizationCode tenantId code), some s⟩ :: older) :
    CodeFor g.requests older s.id code ∧ QueriesFrom older s.id s := by
  cases newer with
  | nil =>
    obtain ⟨heq, rfl⟩ := List.cons.inj h
    injection heq with _ hop hres
    subst hop
    have hfind : (SessionCall.findByAuthorizationCode tenantId code).reply g.store.clock
        g.store.sessions = some s := eq_of_heq hres
    obtain ⟨hget, hmatch⟩ := Table.find_some hfind
    simp only [Bool.and_eq_true, beq_iff_eq] at hmatch
    exact ⟨hinv.codes s.id s code hget hmatch.2, hinv.queries s.id s hget⟩
  | cons e newer => exact hinv.found_code newer t tenantId code s older (List.cons.inj h).2

theorem push_after {r : Request} (hreq : g.requests[tid]? = some r) (hw : Writes r op)
    (hmay : PushMay g tid op) {expiry : Time}
    (h : pushes k uri expiry (eventOf w g tid op) = true) :
    PushFits g tid uri ∧ ∃ q jkt, g.requests[tid]? = some (.pushAuthorization q) ∧
      writeOf k (eventOf w g tid op) = some (parValues q uri expiry jkt) := by
  obtain ⟨u, hwrite, huri, hexpiry⟩ := pushes_iff.mp h
  have hfits : PushFits g tid uri := by
    rcases writeOf_some hwrite with ⟨tenantId, rfl⟩ | ⟨tenantId, rfl⟩ | ⟨_, _, _, rfl, rfl⟩
    · exact hmay uri huri
    · exact hmay uri huri
    · cases huri
  rcases write_kinds hw hwrite with ⟨q, uri', expiry', jkt, rfl, rfl⟩ | ⟨_, _, _, -, rfl⟩ |
    ⟨hnone, -⟩
  · cases huri
    cases hexpiry
    exact ⟨hfits, q, jkt, hreq, hwrite⟩
  · cases huri
  · rw [hnone] at huri
    cases huri

/-- **Every push is valid and its uri drawn for it**, one call later. -/
theorem pushed_after {r : Request} (hinv : PushInv g) (hreq : g.requests[tid]? = some r)
    (hw : Writes r op) (hmay : PushMay g tid op) {e : Answered}
    (he : e ∈ ((backend w).after g tid op).trace) {expiry : Time}
    (h : pushes k uri expiry e = true) :
    ∃ q v, g.requests[e.tid]? = some (.pushAuthorization q) ∧
      assertValidPushedAuthorizationRequest q.body = .ok () ∧
      (∀ u, writeOf k e = some u → u.auth_queries = some q.body) ∧
      uri = requestUriPrefix ++ v ∧ Drew ((backend w).after g tid op) e.tid v := by
  have hext := System.extends_after (M := backend w) g tid op
  rcases List.mem_cons.mp he with rfl | hold
  · obtain ⟨⟨q, v, hq, hvalid, huri, hdrew, -⟩, q', jkt, hq', hwrite⟩ :=
      push_after hreq hw hmay h
    cases hq.symm.trans hq'
    refine ⟨q, v, hq, hvalid, fun u hu => ?_, huri, hdrew.extends hext⟩
    cases Option.some.inj (hwrite.symm.trans hu)
    rfl
  · obtain ⟨q, v, hq, hvalid, hbody, huri, hdrew⟩ := hinv.pushed e hold k uri expiry h
    exact ⟨q, v, hq, hvalid, hbody, huri, hdrew.extends hext⟩

/-- **A uri is pushed once**, one call later. -/
theorem once_after {r : Request} (hinv : PushInv g) (hreq : g.requests[tid]? = some r)
    (hw : Writes r op) (hmay : PushMay g tid op) {e e' : Answered}
    (he : e ∈ ((backend w).after g tid op).trace)
    (he' : e' ∈ ((backend w).after g tid op).trace) {k' : String} {expiry expiry' : Time}
    (h : pushes k uri expiry e = true) (h' : pushes k' uri expiry' e' = true) :
    k = k' ∧ expiry = expiry' := by
  -- a uri that is pushed now has not been pushed before
  have fresh {k k' : String} {x x' : Time} {e : Answered}
      (hnow : pushes k uri x (eventOf w g tid op) = true) (hold : e ∈ g.trace)
      (hbefore : pushes k' uri x' e = true) : False := by
    obtain ⟨⟨q, v, -, -, -, -, hnot⟩, -⟩ := push_after hreq hw hmay hnow
    rw [hnot e hold k' x'] at hbefore
    cases hbefore
  rcases List.mem_cons.mp he with rfl | hold
  · rcases List.mem_cons.mp he' with rfl | hold'
    · obtain ⟨u, hu, -, hx⟩ := pushes_iff.mp h
      obtain ⟨u', hu', -, hx'⟩ := pushes_iff.mp h'
      obtain rfl := writeOf_key hu hu'
      cases Option.some.inj (hu.symm.trans hu')
      exact ⟨rfl, Option.some.inj (hx.symm.trans hx')⟩
    · exact (fresh h hold' h').elim
  · rcases List.mem_cons.mp he' with rfl | hold'
    · exact (fresh h' hold h).elim
    · exact hinv.once e hold e' hold' k k' uri expiry expiry' h h'

theorem consumes_event {expiry : Time} {e : Answered} (h : consumes k expiry e = true) :
    ∃ tid tenantId t, e = ⟨tid, .session (.consumeRequestUri tenantId k expiry t), true⟩ := by
  unfold consumes at h
  split at h
  · rename_i tid tenantId id expiry' t won
    rw [Bool.and_eq_true, Bool.and_eq_true, beq_iff_eq, beq_iff_eq] at h
    obtain ⟨⟨rfl, rfl⟩, rfl⟩ := h
    exact ⟨tid, tenantId, t, rfl⟩
  · cases h

theorem consume_row {r : Request} (hw : Writes r op) {k : String} {expiry : Time}
    (hconsume : consumes k expiry (eventOf w g tid op) = true) :
    holdsExpiry g k expiry = 1 ∧ holdsExpiry ((backend w).after g tid op) k expiry = 0 := by
  obtain ⟨_, tenantId, t, heq⟩ := consumes_event hconsume
  injection heq with _ hop hres
  subst hop
  have hwon : (SessionCall.consumeRequestUri tenantId k expiry t).reply g.store.clock
      g.store.sessions = true := eq_of_heq hres
  obtain ⟨hlt, s, hs, -, hexpiry⟩ := consumeRequestUri_reply.mp hwon
  have hwrite : writeOf k (eventOf w g tid (.session (.consumeRequestUri tenantId k expiry t))) =
      some { request_uri_expires_at := some t } := if_pos ⟨rfl, hwon⟩
  constructor
  · unfold holdsExpiry
    rw [hs, if_pos]
    simp [hexpiry]
  · unfold holdsExpiry
    rw [if_neg]
    intro hany
    obtain ⟨s', hs', heq⟩ := (Option.any_eq_true _ _).mp hany
    have hcols := (columns_after hw hs').request_uri_expires_at
    rw [hwrite, beq_iff_eq.mp heq] at hcols
    exact absurd (Option.some.inj hcols) (Nat.ne_of_gt hlt)

theorem holdsExpiry_after {r : Request} (hw : Writes r op) (k : String) (expiry : Time) :
    holdsExpiry ((backend w).after g tid op) k expiry ≤ holdsExpiry g k expiry +
      if storesExpiry k expiry (eventOf w g tid op) = true then 1 else 0 := by
  unfold holdsExpiry
  split
  · rename_i hany
    obtain ⟨s', hs', heq⟩ := (Option.any_eq_true _ _).mp hany
    have hcols := (columns_after hw hs').request_uri_expires_at
    rw [beq_iff_eq.mp heq] at hcols
    rcases Option.or_eq_some_iff.mp hcols.symm with hnew | ⟨-, hsame⟩
    · obtain ⟨u, hu, hx⟩ := Option.bind_eq_some_iff.mp hnew
      have hstores : storesExpiry k expiry (eventOf w g tid op) = true :=
        (Option.any_eq_true _ _).mpr ⟨u, hu, by simp [hx]⟩
      rw [if_pos hstores]
      omega
    · obtain ⟨s, hs, hx⟩ := Option.bind_eq_some_iff.mp hsame
      have hbefore : (g.store.sessions.get k).any
          (·.request_uri_expires_at == some expiry) = true :=
        (Option.any_eq_true _ _).mpr ⟨s, hs, by simp [hx]⟩
      rw [if_pos hbefore]
      omega
  · omega

/-- **A version is consumed once for every time it was stored**, one call later. -/
theorem consumed_after {r : Request} (hinv : PushInv g) (hw : Writes r op) (k : String)
    (expiry : Time) :
    ((backend w).after g tid op).trace.countP (consumes k expiry) +
        holdsExpiry ((backend w).after g tid op) k expiry ≤
      expiryWrites k expiry ((backend w).after g tid op).trace := by
  have hold : g.trace.countP (consumes k expiry) + holdsExpiry g k expiry ≤
      g.trace.countP (storesExpiry k expiry) := hinv.consumed k expiry
  show List.countP _ (eventOf w g tid op :: g.trace) + _ ≤
    List.countP _ (eventOf w g tid op :: g.trace)
  rw [List.countP_cons, List.countP_cons]
  by_cases hconsume : consumes k expiry (eventOf w g tid op) = true
  · obtain ⟨hbefore, hafter⟩ := consume_row hw hconsume
    rw [if_pos hconsume, hafter]
    omega
  · have hafter : holdsExpiry ((backend w).after g tid op) k expiry ≤ holdsExpiry g k expiry +
        if storesExpiry k expiry (eventOf w g tid op) = true then 1 else 0 :=
      holdsExpiry_after hw k expiry
    rw [if_neg hconsume]
    omega

/-- What other threads leave to thread `tid`: time goes on, and nobody pushes under a uri
that `tid` has drawn. -/
structure PushRely (tid : Nat) (g g' : State) : Prop where
  hist : g.Extends g'
  clock : g.store.clock ≤ g'.store.clock
  uris : ∀ v, Drew g tid v → NotPushed g (requestUriPrefix ++ v) →
    NotPushed g' (requestUriPrefix ++ v)

theorem push_rely {t : Nat} (hne : t ≠ tid) (hknown : CodeKnown w g tid op)
    (hmay : PushMay g tid op) : PushRely t g ((backend w).after g tid op) := by
  obtain ⟨hdrawn, -, r, hreq, hw⟩ := hknown
  refine ⟨System.extends_after _ _ _, Nat.le_of_eq (answer_clock op g.store).symm,
    fun v hdrew hnot e he k expiry => ?_⟩
  rcases List.mem_cons.mp he with rfl | hold
  · by_contra hpush
    rw [Bool.not_eq_false] at hpush
    obtain ⟨⟨q, v', -, -, huri, hdrew', -⟩, -⟩ := push_after hreq hw hmay hpush
    obtain rfl := (String.append_right_inj requestUriPrefix).mp huri
    exact hne (drew_unique hdrawn hdrew hdrew')
  · exact hnot e hold k expiry

/-- Thread `tid` consumed the request_uri at the version it had been pushed with, and at a
clock reading before that expiry. -/
def Consumed (g : State) (tid : Nat) (uri : String) : Prop :=
  ∃ k expiry t tenantId, Pushed g k uri expiry ∧
    g.Made tid (.session (.consumeRequestUri tenantId k expiry t)) true ∧
    g.Made tid (.env .now) t ∧ t < expiry

/-- What a redirect with a code shows. -/
def PushPost (tid : Nat) (r : Request) (g : State) (a : Response) : Prop :=
  ∀ q redirect uri code, r = .authorize q → a = .redirect redirect →
    q.request_uri = some uri → redirect.code = some code → Drew g tid code ∧ Consumed g tid uri

def pushing (w : World) : Discipline (backend w) where
  inv := PushInv
  rely := PushRely
  admits := CodeKnown w
  may := PushMay
  allowed := fun _ => True
  post := PushPost
  rely_refl := fun _ g => ⟨.refl g, Nat.le_refl _, fun _ _ h => h⟩
  rely_trans := fun h h' => ⟨h.hist.trans h'.hist, Nat.le_trans h.clock h'.clock,
    fun v hdrew hnot => h'.uris v (hdrew.extends h.hist) (h.uris v hdrew hnot)⟩
  step := fun {g tid r op} hinv hreq hknown hmay => by
    obtain ⟨r', hreq', hw⟩ := hknown.2.2
    cases hreq.symm.trans hreq'
    refine ⟨?_, fun t hne => push_rely hne hknown hmay⟩
    exact {
      uris := fun _ _ => uris_after hinv hw hmay
      codes := fun _ _ _ => codes_after hinv hknown
      queries := fun _ _ => queries_after hinv hw
      found_uri := fun _ _ _ _ => found_uri_after hinv
      found_code := fun _ _ _ _ _ _ => found_code_after hinv
      pushed := fun _ he _ _ _ => pushed_after hinv hreq hw hmay he
      once := fun _ he _ he' _ _ _ _ _ => once_after hinv hreq hw hmay he he'
      consumed := consumed_after hinv hw }
  arrive := fun {g r} hinv _ => by
    have hext := Global.extends_arrive g r
    have hreq (t : Nat) (r' : Request) (h : g.requests[t]? = some r') :
        (g.arrive r).requests[t]? = some r' := hext.request h
    refine ⟨?_, fun t _ => ⟨hext, Nat.le_refl _, fun _ _ h => h⟩⟩
    exact {
      uris := fun k s hs => (hinv.uris k s hs).later hext (Nat.le_refl _)
      codes := fun k s code hs hcode => (hinv.codes k s code hs hcode).extends hreq fun _ h => h
      queries := hinv.queries
      found_uri := fun t tenantId uri s h =>
        ⟨(hinv.found_uri t tenantId uri s h).1,
          (hinv.found_uri t tenantId uri s h).2.later hext (Nat.le_refl _)⟩
      found_code := fun newer t tenantId code s older h =>
        ⟨(hinv.found_code newer t tenantId code s older h).1.extends hreq fun _ h => h,
          (hinv.found_code newer t tenantId code s older h).2⟩
      pushed := fun e he k uri expiry h => by
        obtain ⟨q, v, hq, hrest⟩ := hinv.pushed e he k uri expiry h
        exact ⟨q, v, hreq _ _ hq, hrest⟩
      once := hinv.once
      consumed := hinv.consumed }
  pass := fun {g} n hinv => by
    have hext := System.extends_pass (M := backend w) g n
    have hclock : g.store.clock ≤ ((backend w).pass g n).store.clock := Nat.le_add_right _ _
    refine ⟨?_, fun t => ⟨hext, hclock, fun _ _ h => h⟩⟩
    exact {
      uris := fun k s hs => (hinv.uris k s hs).later hext hclock
      codes := hinv.codes
      queries := hinv.queries
      found_uri := fun t tenantId uri s h =>
        ⟨(hinv.found_uri t tenantId uri s h).1,
          (hinv.found_uri t tenantId uri s h).2.later hext hclock⟩
      found_code := hinv.found_code
      pushed := hinv.pushed
      once := hinv.once
      consumed := hinv.consumed }

/-! ## The handlers -/

variable {r : Request}

theorem push_may_query {c : Call} (h : c.isQuery = true) : PushMay g tid c := by
  rcases c with c | _ | _ | _
  · cases c <;> trivial
  all_goals trivial

theorem push_may_of_none {u : SessionUpdate} (h : u.request_uri = none) :
    ∀ uri, u.request_uri = some uri → PushFits g tid uri := by
  intro uri huri
  rw [h] at huri
  cases huri

theorem push_may_routine {c : Call} (h : Routine r c) : PushMay g tid c := by
  cases h with
  | query h => exact push_may_query h
  | bookkeeping _ h => exact push_may_of_none h.request_uri
  | opening _ h => exact push_may_of_none h.request_uri
  | _ => trivial

theorem push_may_writes {c : Call} (hpush : ∀ q, r ≠ .pushAuthorization q)
    (hauthorize : ∀ q, r ≠ .authorize q) (h : Writes r c) : PushMay g tid c := by
  cases h with
  | routine h => exact push_may_routine h
  | push => exact absurd rfl (hpush _)
  | pushNew => exact absurd rfl (hpush _)
  | redeemUri => exact absurd rfl (hauthorize _)
  | issueCode => exact push_may_of_none rfl
  | offer => exact push_may_of_none rfl
  | bindCode => exact push_may_of_none rfl
  | _ => trivial

theorem pushing_reads {α : Type} {p : Api α} {Q : State → α → Prop}
    (hg : (pushing w).At tid r g) (hp : Reads p) (hy : (backend w).Yields tid Q p g) :
    (pushing w).Safe tid Q p g :=
  Safe.of_yields hg hp (fun _ _ _ _ hop _ => push_may_query hop) hy

theorem writeOf_query {res : Reply op} (h : op.isQuery = true) :
    writeOf k ⟨tid, op, res⟩ = none := by
  by_contra hwrite
  obtain ⟨u, hu⟩ := Option.ne_none_iff_exists'.mp hwrite
  rcases writeOf_some hu with ⟨_, rfl⟩ | ⟨_, rfl⟩ | ⟨_, _, _, rfl, -⟩
  all_goals cases h

theorem NotPushed.after (h : NotPushed g uri)
    (hwrite : ∀ k, writeOf k (eventOf w g tid op) = none) :
    NotPushed ((backend w).after g tid op) uri := by
  intro e he k expiry
  rcases List.mem_cons.mp he with rfl | hold
  · show (writeOf k (eventOf w g tid op)).any _ = false
    rw [hwrite k]
    rfl
  · exact h e hold k expiry

/-- **A drawn value makes a uri that has not been pushed.** -/
theorem pushing_fresh :
    (pushing w).Safe tid (fun g' v => Drew g' tid v ∧ NotPushed g' (requestUriPrefix ++ v))
      fresh g := by
  refine Safe.invoke fun g' hl hknown => ⟨trivial, fun g'' hl' => ?_⟩
  have hdrew : Drew ((backend w).after g' tid (.env .fresh)) tid (w.random g'.store.draws) :=
    List.mem_cons_self
  refine ⟨hdrew.extends hl'.hist, hl'.rely.uris _ hdrew fun e he k expiry => ?_⟩
  by_contra hpush
  rw [Bool.not_eq_false] at hpush
  rcases List.mem_cons.mp he with rfl | hold
  · obtain ⟨u, hu, -⟩ := pushes_iff.mp hpush
    cases hu
  · -- a pushed uri was drawn, so it is not the next value
    obtain ⟨q, v, -, -, -, huri, hdrawn⟩ := hl.inv.pushed e hold k _ expiry hpush
    obtain rfl := (String.append_right_inj requestUriPrefix).mp huri
    exact not_drew_next hknown.1 _ hdrawn

theorem yields_verifyPushedRequest (q : PushedAuthorizationRequest) :
    (backend w).Yields tid (fun _ _ => assertValidPushedAuthorizationRequest q.body = .ok ())
      (verifyPushedRequest w q) g := by
  unfold verifyPushedRequest
  exact .skip fun _ _ _ => .skip fun _ _ _ => .skip fun _ _ _ => .ofExcept fun _ hvalid =>
    (System.yields_true _).imp fun _ _ _ _ => hvalid

/-- **The push is safe**: whichever of its two writes takes effect, it is the first one
under its uri. -/
theorem pushing_storePushedRequest {q : PushedAuthorizationRequest} {v : String} {t : Time}
    {jkt : Option String} (hg : (pushing w).At tid (.pushAuthorization q) g)
    (hvalid : assertValidPushedAuthorizationRequest q.body = .ok ()) (hdrew : Drew g tid v)
    (hnot : NotPushed g (requestUriPrefix ++ v)) :
    (pushing w).Safe tid (fun _ _ => True)
      (storePushedRequest q (parValues q (requestUriPrefix ++ v) t jkt)) g := by
  have hfits {g' : State} (hg' : (pushing w).At tid (.pushAuthorization q) g')
      (hdrew' : Drew g' tid v) (hnot' : NotPushed g' (requestUriPrefix ++ v)) :
      ∀ uri, (parValues q (requestUriPrefix ++ v) t jkt).request_uri = some uri →
        PushFits g' tid uri := by
    intro uri huri
    cases huri
    exact ⟨q, v, hg'.request, hvalid, rfl, hdrew', hnot'⟩
  -- the update of the issuer_state's session; it may affect no row
  have hupdate : (pushing w).Safe tid
      (fun g' n => n = 0 → Drew g' tid v ∧ NotPushed g' (requestUriPrefix ++ v))
      (onlyIf (truthy q.body.issuer_state) 0 (updateForTenant q.tenantId
        (q.body.issuer_state.getD "") (parValues q (requestUriPrefix ++ v) t jkt))) g := by
    cases truthy q.body.issuer_state with
    | false =>
      exact fun g' hl _ => ⟨hdrew.extends hl.hist, hl.rely.uris v hdrew hnot⟩
    | true =>
      refine Safe.invoke fun g' hl _ => ⟨?_, fun g'' hl' hzero => ?_⟩
      · exact hfits (hg.later hl) (hdrew.extends hl.hist) (hl.rely.uris v hdrew hnot)
      · have hdrew' : Drew ((backend w).after g' tid (.session (.updateForTenant q.tenantId
            (q.body.issuer_state.getD "") (parValues q (requestUriPrefix ++ v) t jkt)))) tid v :=
          (hdrew.extends hl.hist).extends (System.extends_after _ _ _)
        refine ⟨hdrew'.extends hl'.hist, hl'.rely.uris v hdrew' ?_⟩
        refine (hl.rely.uris v hdrew hnot).after fun k => if_neg ?_
        exact fun h => h.2 hzero
  unfold storePushedRequest
  refine hupdate.bind hg fun n g₁ _ hg₁ hn => ?_
  split
  · rename_i hzero
    obtain ⟨hdrew₁, hnot₁⟩ := hn (beq_iff_eq.mp hzero)
    have hid : (pushing w).Safe tid (fun g' _ => (Drew g' tid v ∧
        NotPushed g' (requestUriPrefix ++ v)) ∧ True) fresh g₁ := by
      refine Safe.keep hg₁ reads_fresh (fun _ _ _ _ hop _ => push_may_query hop)
        ⟨hdrew₁, hnot₁⟩ (fun hl hK => ?_) (fun hop hK => ?_) (System.yields_true _)
      · exact ⟨hK.1.extends hl.hist, hl.rely.uris v hK.1 hK.2⟩
      · exact ⟨hK.1.extends (System.extends_after _ _ _),
          hK.2.after fun k => writeOf_query hop⟩
    refine hid.bind hg₁ fun id g₂ _ hg₂ hK => ?_
    have hcreate : (pushing w).Safe tid (fun _ _ => True) (createSession id q.tenantId
        (parValues q (requestUriPrefix ++ v) t jkt)) g₂ := by
      refine Safe.invoke fun g' hl _ => ⟨?_, fun _ _ => trivial⟩
      exact hfits (hg₂.later hl) (hK.1.1.extends hl.hist) (hl.rely.uris v hK.1.1 hK.1.2)
    exact hcreate.bind hg₂ fun _ _ _ _ _ => Safe.ret fun _ _ => trivial
  · exact fun _ _ => trivial

theorem pushing_pushAuthorizationRequest {q : PushedAuthorizationRequest}
    (hg : (pushing w).At tid (.pushAuthorization q) g) :
    (pushing w).Safe tid (fun _ _ => True) (pushAuthorizationRequest w q) g := by
  unfold pushAuthorizationRequest
  refine (pushing_reads hg (reads_verifyPushedRequest w q) (yields_verifyPushedRequest q)).bind hg
    fun jkt g₁ _ hg₁ hvalid => ?_
  refine (pushing_reads hg₁ (reads_assertIssuerStateRedeemable q) (System.yields_true _)).bind
    hg₁ fun _ g₂ _ hg₂ _ => ?_
  refine pushing_fresh.bind hg₂ fun v g₃ _ hg₃ hv => ?_
  have hnow : (pushing w).Safe tid (fun g' _ => (Drew g' tid v ∧
      NotPushed g' (requestUriPrefix ++ v)) ∧ True) now g₃ := by
    refine Safe.keep hg₃ reads_now (fun _ _ _ _ hop _ => push_may_query hop) hv
      (fun hl hK => ?_) (fun hop hK => ?_) (System.yields_true _)
    · exact ⟨hK.1.extends hl.hist, hl.rely.uris v hK.1 hK.2⟩
    · exact ⟨hK.1.extends (System.extends_after _ _ _),
        hK.2.after fun k => writeOf_query hop⟩
  refine hnow.bind hg₃ fun t g₄ _ hg₄ hK => ?_
  exact (pushing_storePushedRequest hg₄ hvalid hK.1.1 hK.1.2).bind hg₄ fun _ _ _ _ _ =>
    Safe.ret fun _ _ => trivial

theorem Consumed.extends {g' : State} (h : Consumed g tid uri) (he : g.Extends g') :
    Consumed g' tid uri := by
  obtain ⟨k, expiry, t, tenantId, hpushed, hmade, hnow, hlt⟩ := h
  exact ⟨k, expiry, t, tenantId, hpushed.extends he, hmade.extends he, hnow.extends he, hlt⟩

/-- **A uri is consumed at the version it was pushed with**: the snapshot has that expiry,
or one that has passed and is not redeemed. -/
theorem pushing_redeemRequestUri {tenantId : String} {s : Session}
    (hg : (pushing w).At tid r g) (huri : s.request_uri = some uri) (hfrom : UriFrom g s.id s) :
    (pushing w).Safe tid (fun g' won => won = true → Consumed g' tid uri)
      (redeemRequestUri tenantId s) g := by
  have hnow : (pushing w).Safe tid (fun g' t => g'.Made tid (.env .now) t ∧
      g.store.clock ≤ t ∧ t ≤ g'.store.clock) now g := by
    refine Safe.invoke fun g' hl _ => ⟨trivial, fun g'' hl' => ?_⟩
    exact ⟨hl'.hist.event List.mem_cons_self, hl.rely.clock, hl'.rely.clock⟩
  unfold redeemRequestUri
  refine hnow.bind hg fun t g₁ he₁ hg₁ ⟨hmade, hle, hclock⟩ => ?_
  cases hexpires : s.request_uri_expires_at with
  | none => exact fun _ _ hwon => nomatch hwon
  | some e =>
    refine Safe.invoke fun g₂ hl _ =>
      ⟨Nat.le_trans hclock hl.rely.clock, fun g₃ hl' hwon => ?_⟩
    have hext : g₁.Extends g₃ := (hl.hist.trans (System.extends_after _ _ _)).trans hl'.hist
    have hconsumed : g₃.Made tid (.session (.consumeRequestUri tenantId s.id e t)) true :=
      hl'.hist.event (hwon ▸ List.mem_cons_self)
    have hwon' : (SessionCall.consumeRequestUri tenantId s.id e t).reply g₂.store.clock
        g₂.store.sessions = true := hwon
    obtain ⟨hlt, -⟩ := consumeRequestUri_reply.mp hwon'
    obtain ⟨expiry, hpushed, hold⟩ := hfrom uri huri
    rcases hold e hexpires with rfl | hpast
    · exact ⟨s.id, e, t, tenantId, hpushed.extends (he₁.trans hext), hconsumed,
        hmade.extends hext, hlt⟩
    · exact absurd hlt (Nat.not_lt.mpr (Nat.le_trans hpast hle))

/-- **A redirect with a code consumed its request_uri.** -/
theorem pushing_authorizePushedRequest {q : AuthorizeRequest}
    (hg : (pushing w).At tid (.authorize q) g) :
    (pushing w).Safe tid (fun g' redirect => ∀ uri code, q.request_uri = some uri →
      redirect.code = some code → Drew g' tid code ∧ Consumed g' tid uri)
      (authorizePushedRequest w q) g := by
  unfold authorizePushedRequest
  refine Safe.ensure fun huri => ?_
  obtain ⟨uri, hsome, -⟩ := truthy_iff.mp huri
  rw [hsome]
  refine (pushing_reads hg (reads_getByRequestUri _ _) (yields_getByRequestUri _ _ _)).bind hg
    fun s g₁ _ hg₁ hfound => Safe.ofExcept fun redirectUri _ => ?_
  obtain ⟨hstored, hfrom⟩ := hg₁.inv.found_uri _ _ _ _ hfound
  -- no code, nothing to show
  have refused {g' : State} {redirect : AuthorizationRedirect} (hcode : redirect.code = none) :
      (pushing w).Safe tid (fun g' redirect => ∀ uri' code, some uri = some uri' →
        redirect.code = some code → Drew g' tid code ∧ Consumed g' tid uri')
        (.ret redirect : Api AuthorizationRedirect) g' := by
    intro _ _ uri' code _ h
    rw [hcode] at h
    cases h
  split
  · exact refused rfl
  · have hnow : (pushing w).Safe tid (fun g' _ => UriFrom g' s.id s ∧ True) now g₁ := by
      refine Safe.keep hg₁ reads_now (fun _ _ _ _ hop _ => push_may_query hop) hfrom
        (fun hl hK => hK.later hl.hist hl.rely.clock) (fun hop hK => ?_) (System.yields_true _)
      exact hK.later (System.extends_after _ _ _) (Nat.le_of_eq (answer_clock _ _).symm)
    refine hnow.bind hg₁ fun t g₂ _ hg₂ ⟨hfrom₂, _⟩ => ?_
    split
    · exact refused rfl
    · trivial
    · refine (pushing_redeemRequestUri hg₂ hstored hfrom₂).bind hg₂
        fun redeemed g₃ _ hg₃ hconsumed => ?_
      split
      · rename_i hwon
        unfold issueCode
        refine Safe.bind hg₃ (R := fun g' code => Drew g' tid code) ?_ ?_
        · refine (pushing_reads hg₃ reads_fresh yields_fresh).bind hg₃
            fun code g₄ _ hg₄ hdrew => ?_
          refine (pushing_reads hg₄ reads_now (System.yields_true _)).bind hg₄
            fun t' g₅ he₅ hg₅ _ => ?_
          have hwrite : (pushing w).Safe tid (fun _ _ => True) (updateForTenant q.tenantId s.id
              (issuedCodeUpdate code t')) g₅ :=
            Safe.invoke fun _ _ _ => ⟨push_may_of_none rfl, fun _ _ => trivial⟩
          exact hwrite.bind hg₅ fun _ g₆ he₆ _ _ => Safe.ret fun g₇ hl =>
            Drew.extends hdrew ((he₅.trans he₆).trans hl.hist)
        · intro code g₄ he₄ _ hdrew g₅ hl uri' code' huri' hcode'
          cases huri'
          cases hcode'
          exact ⟨hdrew.extends hl.hist, (hconsumed hwon).extends (he₄.trans hl.hist)⟩
      · exact refused rfl

/-- **Every request keeps to the discipline.** -/
theorem pushing_verified : (pushing w).Verified := by
  intro g r _ _ hg
  by_cases hpush : ∃ q, r = .pushAuthorization q
  · obtain ⟨q, rfl⟩ := hpush
    refine (pushing_pushAuthorizationRequest hg).bind hg fun _ _ _ _ _ => ?_
    exact Safe.ret fun _ _ _ _ _ _ hr => nomatch hr
  · by_cases hauthorize : ∃ q, r = .authorize q
    · obtain ⟨q, rfl⟩ := hauthorize
      refine (pushing_authorizePushedRequest hg).bind hg fun redirect g₁ _ _ hpost => ?_
      refine Safe.ret fun g₂ hl q' redirect' uri code hq ha huri hcode => ?_
      cases hq
      cases ha
      obtain ⟨hdrew, hconsumed⟩ := hpost uri code huri hcode
      exact ⟨hdrew.extends hl.hist, hconsumed.extends hl.hist⟩
    · refine (Safe.of_only hg (program_writes w r) fun g' op _ _ hop _ =>
        push_may_writes (fun q h => hpush ⟨q, h⟩) (fun q h => hauthorize ⟨q, h⟩) hop).imp hg ?_
      exact fun _ _ _ _ _ q _ _ _ hr => absurd ⟨q, hr⟩ hauthorize

/-! ## Every run -/

theorem bound_of_checks {q : AccessTokenRequest} {p : PreparedToken} {body : AuthorizeQueries}
    (hpassed : PassedChecks w g tid q p) (hcode : p.parsed.grant.isAuthorizationCode = true)
    (hvalid : assertValidPushedAuthorizationRequest body = .ok ())
    (hqueries : p.session.auth_queries = none ∨ p.session.auth_queries = some body) :
    BoundTo w body q p.parsed := by
  have hpkce : checkS256Pkce w.s256 (p.session.auth_queries.bind (·.code_challenge))
      (p.session.auth_queries.bind (·.code_challenge_method)) q.body.code_verifier = .valid := by
    have hcheck := hpassed.pkce
    unfold assertPkce at hcheck
    rw [hcode, Bool.true_and] at hcheck
    split at hcheck
    · cases hcheck
    · rename_i hsame
      simpa using hsame
  obtain ⟨-, hmethod, v, hv, -, hchallenge⟩ := checkS256Pkce_valid.mp hpkce
  rcases hqueries with hnone | hbody
  · -- without parameters there is no challenge
    rw [hnone] at hmethod
    cases hmethod
  · rw [hbody] at hchallenge
    obtain ⟨hclient, hredirect⟩ := assertValidPushedAuthorizationRequest_ok hvalid
    refine ⟨⟨v, hv, hchallenge⟩, fun client hpresented hne => ?_, fun uri huri => ?_⟩
    · have hcheck := hpassed.client
      unfold assertClient at hcheck
      rw [hbody] at hcheck
      split at hcheck
      · rename_i hpre
        rw [(Grant.of_isAuthorizationCode hcode).2] at hpre
        cases hpre
      · exact assertIssuedToClient_ok hcheck hclient hpresented hne
    · have hcheck := hpassed.redirectUri
      unfold assertRedirectUri at hcheck
      obtain ⟨bound, hbound, -⟩ := truthy_iff.mp hredirect
      rw [hcode, huri, hbody, Option.bind_some, hbound] at hcheck
      by_contra hother
      rw [hbound] at hother
      have hdiffer : uri ≠ bound := fun h => hother (h ▸ rfl)
      simp [hdiffer] at hcheck

theorem HandsOut.shows {c : Backend} (hc : (pushing w).Holds c) {t : Nat} {code : String}
    (h : HandsOut c t uri code) : Drew c.global t code ∧ Consumed c.global t uri := by
  obtain ⟨q, redirect, hanswer, huri, hcode⟩ := h
  exact hc.answer hanswer q redirect uri code rfl rfl huri hcode

/-- **A code is redeemed as its request was pushed**, unless the row was written again. -/
theorem bound_of_holds {c : Backend} (hc : (pushing w).Holds c) (hdrawn : DrawnOnce w c.global)
    {t : Nat} {code : String} (hout : HandsOut c t uri code) {q : AccessTokenRequest}
    {p : PreparedToken} (hp : PassedChecks w c.global tid q p)
    (hgrant : p.parsed.grant.isAuthorizationCode = true) (hcode : p.parsed.code = some code) :
    ∃ pushed push expiry s lookup newer mid older,
      c.global.requests[push.tid]? = some (.pushAuthorization pushed) ∧
      pushes s.id uri expiry push = true ∧ LooksUp tid q code s lookup ∧
      c.trace = newer ++ lookup :: (mid ++ push :: older) ∧
      (BoundTo w pushed.body q p.parsed ∨ ∃ e ∈ mid, rewrites s.id e = true) := by
  obtain ⟨code', hcode', -, hfound⟩ := hp.found.code (Grant.of_isAuthorizationCode hgrant).1
  cases hcode.symm.trans hcode'
  obtain ⟨newer, older, hsplit⟩ := List.append_of_mem hfound
  obtain ⟨⟨t', r', hreq', hdrew', hpushed⟩, hqueries⟩ :=
    hc.inv.found_code newer tid q.tenantId code p.session older hsplit
  -- the code in the row was drawn by the thread that handed it out
  obtain ⟨q', redirect, hanswer, huri, -⟩ := id hout
  have hthread : t = t' := by
    refine drew_unique hdrawn (hout.shows hc).1 ?_
    show (_ : Answered) ∈ c.global.trace
    rw [hsplit]
    exact List.mem_append_right _ (List.mem_cons_of_mem _ hdrew')
  subst hthread
  have hserves : r' = .authorize q' :=
    Option.some.inj (hreq'.symm.trans (Config.global_request hanswer))
  obtain ⟨uri', expiry, huri', push, hpush, hpushes⟩ := hpushed q' hserves
  cases huri.symm.trans huri'
  obtain ⟨mid, oldest, rfl⟩ := List.append_of_mem hpush
  have hevent : push ∈ c.global.trace := by
    rw [hsplit]
    exact List.mem_append_right _ (List.mem_cons_of_mem _ hpush)
  obtain ⟨pushed, v, hreq, hvalid, hbody, -, -⟩ :=
    hc.inv.pushed push hevent p.session.id uri expiry hpushes
  refine ⟨pushed, push, expiry, p.session, _, newer, mid, oldest, hreq, hpushes, rfl, hsplit, ?_⟩
  by_cases hrewritten : ∃ e ∈ mid, rewrites p.session.id e = true
  · exact .inr hrewritten
  · refine .inl (bound_of_checks hp hgrant hvalid ?_)
    obtain ⟨u, hwrite, -⟩ := pushes_iff.mp hpushes
    have hsame := hbody u hwrite
    rw [← hsame]
    refine hqueries mid push oldest u rfl hwrite (by rw [hsame]; rfl) fun e he => ?_
    exact Bool.not_eq_true _ ▸ fun h => hrewritten ⟨e, he, h⟩

/-- **A uri yields one code**, unless its version was stored twice. -/
theorem once_of_holds {c : Backend} (hc : (pushing w).Holds c) {t t' : Nat}
    {code code' : String} (hout : HandsOut c t uri code) (hout' : HandsOut c t' uri code') :
    t = t' ∨ ∃ push ∈ c.trace, ∃ k expiry, pushes k uri expiry push = true ∧
      2 ≤ expiryWrites k expiry c.trace := by
  by_cases hne : t = t'
  · exact .inl hne
  · -- both consumed the version the uri was pushed with
    obtain ⟨k, expiry, clock, tenantId, ⟨push, hpush, hpushes⟩, hmade, -⟩ := (hout.shows hc).2
    obtain ⟨k', expiry', clock', tenantId', ⟨push', hpush', hpushes'⟩, hmade', -⟩ :=
      (hout'.shows hc).2
    obtain ⟨rfl, rfl⟩ := hc.inv.once push hpush push' hpush' k k' uri expiry expiry'
      hpushes hpushes'
    have htwice : 2 ≤ c.global.trace.countP (consumes k expiry) :=
      Global.two_le_countP (fun heq => hne (congrArg Event.tid heq)) hmade hmade'
        (by simp [consumes]) (by simp [consumes])
    have hle := hc.inv.consumed k expiry
    exact .inr ⟨push, hpush, k, expiry, hpushes, by
      show 2 ≤ expiryWrites k expiry c.global.trace
      omega⟩

/-- **Codes of pushed requests**, in every run. -/
theorem pushed_codes (w : World) (st : Store) (ms : Schedule)
    (hempty : st.sessions = Table.empty) :
    PushedCodes w ((backend w).run (.start st) ms) := by
  have hrow (k : String) : st.sessions.get k = none := by
    rw [hempty]
    rfl
  have hinv : PushInv (⟨st, [], []⟩ : State) := {
    uris := fun k s hs => nomatch (hrow k).symm.trans hs
    codes := fun k s code hs => nomatch (hrow k).symm.trans hs
    queries := fun k s hs => nomatch (hrow k).symm.trans hs
    found_uri := fun t tenantId uri s hm => nomatch hm
    found_code := fun newer t tenantId code s older h => by
      cases newer <;> cases h
    pushed := fun e he => nomatch he
    once := fun e he => nomatch he
    consumed := fun k expiry => by simp [holdsExpiry, hrow] }
  have hholds := Discipline.run_holds pushing_verified (Discipline.holds_start hinv)
    (fun _ _ => trivial) (codes_guarded w st ms)
  refine ⟨fun t uri code hout tid q r hr parsed hparsed hgrant hcode => ?_,
    fun t t' uri code code' => once_of_holds hholds, fun t uri code hout => ?_⟩
  · obtain ⟨p, hp⟩ := token_issued hr
    obtain rfl : p.parsed = parsed := Except.ok.inj (hp.passed.parsed.symm.trans hparsed)
    exact bound_of_holds hholds (drawn_once w st ms) hout hp.passed hgrant hcode
  · obtain ⟨k, expiry, clock, tenantId, ⟨push, hpush, hpushes⟩, hmade, hnow, hlt⟩ :=
      (hout.shows hholds).2
    exact ⟨push, hpush, k, expiry, clock, tenantId, hpushes, hmade, hnow, hlt⟩

/-! ## Where the code and its pushed request come apart -/

/-- Token requests for a code present what the request pushed under its uri requires. -/
def RedeemedAs (w : World) (requires : AuthorizeQueries → AccessTokenRequest → Prop)
    (c : Backend) : Prop :=
  ∀ t uri code, HandsOut c t uri code →
    ∀ t' pushed response, c.Answers t' (.pushAuthorization pushed) (.pushed response) →
    response.request_uri = uri →
    ∀ tid q r, c.Answers tid (.token q) (.token r) →
    ∀ parsed, parseTokenRequest w q = .ok parsed → parsed.grant.isAuthorizationCode = true →
    parsed.code = some code → requires pushed.body q

/-- The client id and the redirect_uri that were pushed. -/
def SameClient (body : AuthorizeQueries) (q : AccessTokenRequest) : Prop :=
  q.body.client_id = body.client_id ∧ q.body.redirect_uri = body.redirect_uri

/-- A verifier of the challenge that was pushed. -/
def SameVerifier (w : World) (body : AuthorizeQueries) (q : AccessTokenRequest) : Prop :=
  ∃ v, q.body.code_verifier = some v ∧ body.code_challenge = some (w.s256 v)

def OneCode (c : Backend) : Prop :=
  ∀ t t' uri code code', HandsOut c t uri code → HandsOut c t' uri code' → code = code'

/-- It holds of every run from a store without sessions. -/
def EveryRun (P : World → Backend → Prop) : Prop :=
  ∀ (w : World) (st : Store) (ms : Schedule), st.sessions = Table.empty →
    P w ((backend w).run (.start st) ms)

namespace PushedRequests

open Deployment

/-- A request is pushed and authorized, and its code is redeemed with the verifier alone. -/
def verifierOnly : Schedule :=
  push 0 "" "verifier" ++ authorize 1 1 ++
  serve 2 (tokenRequest (codeGrant 3 "verifier") []) 14

/-- A second request is pushed to the same session while the code of the first one is out,
and the code is redeemed with the verifier of the second. -/
def pushedAgain : Schedule :=
  offer 0 .authorization_code none ++ push 1 (unary 1) "verifier" ++ authorize 2 2 ++
  push 3 (unary 1) "other" ++ serve 4 (tokenRequest (codeGrant 3 "other") []) 14

/-- A request that an authorization request has found is consumed by another one, and a
second push within the same millisecond puts its version back. -/
def sameVersion : Schedule :=
  offer 0 .authorization_code none ++ push 1 (unary 1) "verifier" ++
  (authorize 2 2).take 2 ++ authorize 3 2 ++ push 4 (unary 1) "verifier" ++
  (authorize 2 2).drop 2

theorem handsOut_of_any {c : Backend} (t : Nat) (code : String) {q : AuthorizeRequest}
    (hr : c.global.requests[t]? = some (.authorize q)) (huri : q.request_uri = some uri)
    (h : (answered c t).any (Response.isRedirectWith code) = true) : HandsOut c t uri code := by
  obtain ⟨a, hcheck, hanswers⟩ := answers_of_any t _ hr h
  cases a with
  | redirect redirect => exact ⟨q, redirect, hanswers, huri, beq_iff_eq.mp hcheck⟩
  | _ => cases hcheck

theorem requires_of_redeemed {requires : AuthorizeQueries → AccessTokenRequest → Prop}
    {c : Backend} (h : RedeemedAs w requires c) {t : Nat} (t' tid : Nat) {code : String}
    (hout : HandsOut c t uri code) {pushed : PushedAuthorizationRequest}
    (hpush : c.global.requests[t']? = some (.pushAuthorization pushed))
    (huri : (answered c t').any (Response.isPushedAs uri) = true) {q : AccessTokenRequest}
    (htoken : c.global.requests[tid]? = some (.token q))
    (hanswered : (answered c tid).any Response.isToken = true)
    {parsed : ParsedAccessTokenRequest} (hparsed : parseTokenRequest w q = .ok parsed)
    (hgrant : parsed.grant.isAuthorizationCode = true) (hcode : parsed.code = some code) :
    requires pushed.body q := by
  obtain ⟨a, hcheck, hpushed⟩ := answers_of_any t' _ hpush huri
  obtain ⟨b, htokens, hredeemed⟩ := answers_of_any tid _ htoken hanswered
  cases a with
  | pushed response =>
    cases b with
    | token r =>
      exact h t uri code hout t' pushed response hpushed (beq_iff_eq.mp hcheck) tid q r hredeemed
        parsed hparsed hgrant hcode
    | _ => cases htokens
  | _ => cases hcheck

end PushedRequests

/-- A request is pushed, authorized and redeemed. -/
theorem pushed_codes_of_verifierOnly :
    PushedCodes (deployment {})
      ((backend (deployment {})).run (.start freshStore) PushedRequests.verifierOnly) :=
  pushed_codes _ _ _ rfl

/-- **What was pushed need not be presented again**: neither the client id and the
redirect_uri, nor, once another request was pushed to the session, the verifier; and one
uri can yield two codes. -/
theorem not_redeemed_as_pushed :
    (¬EveryRun fun w c => RedeemedAs w SameClient c) ∧
      (¬EveryRun fun w c => RedeemedAs w (SameVerifier w) c) ∧ ¬EveryRun fun _ c => OneCode c := by
  refine ⟨fun h => ?_, fun h => ?_, fun h => ?_⟩
  · have hrequests := System.run_requests (M := backend (deployment {})) (.start freshStore)
      PushedRequests.verifierOnly
    have hout := PushedRequests.handsOut_of_any 1 (Deployment.unary 3)
      (by rw [hrequests]; rfl) rfl (by decide +kernel)
    have hsame := PushedRequests.requires_of_redeemed (h _ freshStore _ rfl) 0 2 hout
      (by rw [hrequests]; rfl) (by decide +kernel) (by rw [hrequests]; rfl) (by decide +kernel)
      rfl rfl rfl
    cases hsame.1
  · have hrequests := System.run_requests (M := backend (deployment {})) (.start freshStore)
      PushedRequests.pushedAgain
    have hout := PushedRequests.handsOut_of_any 2 (Deployment.unary 3)
      (by rw [hrequests]; rfl) rfl (by decide +kernel)
    obtain ⟨v, hv, hchallenge⟩ := PushedRequests.requires_of_redeemed (h _ freshStore _ rfl) 1 4
      hout (by rw [hrequests]; rfl) (by decide +kernel) (by rw [hrequests]; rfl)
      (by decide +kernel) rfl rfl rfl
    cases hv
    exact absurd (Option.some.inj hchallenge) (by decide)
  · have hrequests := System.run_requests (M := backend (deployment {})) (.start freshStore)
      PushedRequests.sameVersion
    have hout := PushedRequests.handsOut_of_any 2 (Deployment.unary 5)
      (by rw [hrequests]; rfl) rfl (by decide +kernel)
    have hout' := PushedRequests.handsOut_of_any 3 (Deployment.unary 3)
      (by rw [hrequests]; rfl) rfl (by decide +kernel)
    exact absurd (h _ freshStore _ rfl 2 3 _ _ _ hout hout') (by decide)

end Eudiplo
