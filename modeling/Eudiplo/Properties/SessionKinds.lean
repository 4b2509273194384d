import Eudiplo.Backend.Deployment
import Eudiplo.Backend.Footprint
import Eudiplo.Backend.Freshness
import Eudiplo.Backend.TokenEvidence
import Eudiplo.Concurrency.Order
import Eudiplo.Concurrency.RelyGuarantee

/-!
# Do issuance endpoints act only on issuance sessions?

Issuance offers and presentation requests share one table, and the issuance side looks sessions up
by what a caller sends.  An interactive authorization works on a presentation request of its own,
which its follow-ups start, submit to and complete; everything else has no business there
(`not_kinds_apart` shows the former, and a pushed request that names a presentation request as its
`issuer_state`).

`kinds_apart` is about every run of the four endpoints in which no look-up leads to a presentation
request and new identifiers are new.
-/

namespace Eudiplo

open Concurrency Prog Discipline Storage

/-! ## The claim -/

def Request.isIssuanceEndpoint : Request → Bool
  | .pushAuthorization _ | .authorize _ | .token _ | .interactiveInitial ..
  | .interactiveFollowUp .. => true
  | _ => false

/-- There is no presentation request under `k`. -/
def NoPresentation (g : State) (k : String) : Prop :=
  ∀ s, g.store.sessions.get k = some s → s.requestId = none

/-- **Sessions are kept apart by their kind** along a run: no call changes a presentation request,
except what `own` excepts, and neither codes nor tokens are bound to one. -/
structure KindsApart (w : World) (st : Store) (ms : Schedule)
    (own : State → Nat → String → Prop) : Prop where
  unchanged : ∀ ms₁ ms₂ u, ms = ms₁ ++ .resume u :: ms₂ → ∀ k s,
    ((backend w).run (.start st) ms₁).store.sessions.get k = some s → s.requestId.isSome = true →
      ¬own ((backend w).run (.start st) ms₁).global u k →
        ((backend w).run (.start st) (ms₁ ++ [.resume u])).store.sessions.get k = some s
  codes : ∀ t tenantId k u n, ((backend w).run (.start st) ms).global.Made t
    (.session (.updateForTenant tenantId k u)) n → u.authorization_code.isSome = true →
      NoPresentation ((backend w).run (.start st) ms).global k
  tokens : ∀ t q r, ((backend w).run (.start st) ms).Answers t (.token q) (.token r) →
    ∃ asked, ((backend w).run (.start st) ms).global.Made t
      (.env (.ask (.createAccessTokenResponse asked))) (.ok (.ok r)) ∧
        NoPresentation ((backend w).run (.start st) ms).global asked.subject

/-- **The verifier session of an interactive request**: the one of the auth session it opened or
found, or the one whose request the submitted response answers. -/
structure OwnVerifier (g : State) (t : Nat) (k : String) : Prop where
  request : ∃ r, g.requests[t]? = some r ∧ r.isInteractive = true
  session : Drew g t k ∨
    (∃ tenantId a s, g.Made t (.interactive (.findForTenant tenantId a)) (some s) ∧
      s.authSession = k) ∨
    ∃ nonce s, g.Made t (.session (.findForWalletRequest nonce)) (some s) ∧ s.id = k

/-! ## The condition -/

/-- **Thread `t` serves session `k`**: it looked `k` up by what its caller sent. -/
inductive Serves (g : State) (t : Nat) (k : String) : Prop where
  | issuerState {q : PushedAuthorizationRequest} {found : Option Session}
      (hr : g.requests[t]? = some (.pushAuthorization q))
      (h : g.Made t (.session (.findForTenant q.tenantId k none)) found)
  | requestUri {tenantId uri : String} {s : Session}
      (h : g.Made t (.session (.findByRequestUri tenantId uri)) (some s)) (hid : s.id = k)
  | code {tenantId code : String} {s : Session}
      (h : g.Made t (.session (.findByAuthorizationCode tenantId code)) (some s)) (hid : s.id = k)
  | refreshToken {tenantId token : String} {s : Session}
      (h : g.Made t (.session (.findByRefreshToken tenantId token)) (some s)) (hid : s.id = k)
  | authSession {tenantId a : String} {s : InteractiveAuthSession}
      (h : g.Made t (.interactive (.findForTenant tenantId a)) (some s))
      (hs : s.issuerState = some k)

/-- **The condition**: no issuer_state, request_uri, code or refresh token leads to a presentation
request, and the identifier of a new session is new, except for a further presentation of the same
auth session. -/
def LeadsToIssuance (g : State) (t : Nat) : Call → Prop
  | .session (.findForTenant _ k _) =>
    (∃ q, g.requests[t]? = some (.pushAuthorization q)) → NoPresentation g k
  | .session (.findByRequestUri tenantId uri) => ∀ s,
    (SessionCall.findByRequestUri tenantId uri).reply g.store.clock g.store.sessions = some s →
      NoPresentation g s.id
  | .session (.findByAuthorizationCode tenantId code) => ∀ s,
    (SessionCall.findByAuthorizationCode tenantId code).reply g.store.clock g.store.sessions =
      some s → NoPresentation g s.id
  | .session (.findByRefreshToken tenantId token) => ∀ s,
    (SessionCall.findByRefreshToken tenantId token).reply g.store.clock g.store.sessions = some s →
      NoPresentation g s.id
  | .interactive (.findForTenant tenantId a) => ∀ s k,
    (InteractiveCall.findForTenant tenantId a).reply g.store.interactive = some s →
      s.issuerState = some k → NoPresentation g k
  | .session (.create k _ u) =>
    if u.requestId.isSome = true then
      (∃ s, g.store.sessions.get k = some s ∧ s.requestId.isSome = true) ∨
        g.store.sessions.get k = none ∧ ∀ t', ¬Serves g t' k
    else g.store.sessions.get k = none
  | _ => True

theorem OwnVerifier.extends {g g' : State} {t : Nat} {k : String} (h : OwnVerifier g t k)
    (he : g.Extends g') : OwnVerifier g' t k := by
  obtain ⟨r, hr, hinteractive⟩ := h.request
  refine ⟨⟨r, he.request hr, hinteractive⟩, h.session.imp (fun hdrew => Drew.extends hdrew he) ?_⟩
  rintro (⟨tenantId, a, s, hmade, hs⟩ | ⟨nonce, s, hmade, hs⟩)
  · exact .inl ⟨tenantId, a, s, hmade.extends he, hs⟩
  · exact .inr ⟨nonce, s, hmade.extends he, hs⟩

theorem Serves.extends {g g' : State} {t : Nat} {k : String} (h : Serves g t k)
    (he : g.Extends g') :
    Serves g' t k := by
  cases h with
  | issuerState hr h => exact .issuerState (he.request hr) (h.extends he)
  | requestUri h hid => exact .requestUri (h.extends he) hid
  | code h hid => exact .code (h.extends he) hid
  | refreshToken h hid => exact .refreshToken (h.extends he) hid
  | authSession h hs => exact .authSession (h.extends he) hs

namespace SessionKinds

variable {w : World} {g g' : State} {tid t : Nat} {k : String} {op : Call} {r : Request}

/-! ## What the endpoints write -/

/-- The call updates session `k` and leaves its kind alone. -/
def Updates (k : String) : SessionCall → Prop
  | .updateForTenant _ id u | .updateUnconsumedForTenant _ id u => id = k ∧ u.requestId = none
  | .consumeRequestUri _ id _ _ | .incrementFailedTxCodeAttempts _ id => id = k
  | _ => False

def KeepsCode : SessionCall → Prop
  | .updateForTenant _ _ u => u.authorization_code = none
  | _ => True

/-- **What a thread may do**: look, work on its auth session, create a session, and write to the
sessions it serves or to its own verifier session. -/
inductive KindsMay (g : State) (t : Nat) : Call → Prop where
  | query {c : Call} (h : c.isQuery = true) : KindsMay g t c
  | evaluate {v : VerifyPreAuthorizedCode} : KindsMay g t (.env (.ask (.verifyPreAuthorizedCode v)))
  | interactive {c : InteractiveCall} : KindsMay g t (.interactive c)
  | store {k tenantId : String} {u : SessionUpdate} (h : u.requestId = none) :
    KindsMay g t (.session (.create k tenantId u))
  | start {k tenantId : String} {u : SessionUpdate} (h : OwnVerifier g t k) :
    KindsMay g t (.session (.create k tenantId u))
  | serve {c : SessionCall} {k : String} (hc : Updates k c) (h : Serves g t k) :
    KindsMay g t (.session c)
  | verify {c : SessionCall} {k : String} (hc : Updates k c) (hkeep : KeepsCode c)
      (h : OwnVerifier g t k) : KindsMay g t (.session c)

/-! ## One call -/

theorem sessions_of_may (h : KindsMay g tid op) (hop : ∀ c, op = .session c → c.isQuery = true) :
    ((backend w).after g tid op).store.sessions.get k = g.store.sessions.get k := by
  cases op with
  | session c =>
    refine (SessionCall.get_effect _ _ c k).trans ?_
    exact SessionCall.row_of_isQuery (hop c rfl) _ _ _
  | interactive c => rfl
  | chained c => rfl
  | env c =>
    have hsame : ((backend w).after g tid (.env c)).store.sessions = g.store.sessions :=
      sessions_frame rfl _
    rw [hsame]

theorem serves_after (hadm : LeadsToIssuance g tid op)
    (h : Serves ((backend w).after g tid op) t k) :
    Serves g t k ∨ op.isQuery = true ∧ NoPresentation g k := by
  cases h with
  | issuerState hr h =>
    rcases List.mem_cons.mp h with heq | hold
    · injection heq with ht hop
      subst ht hop
      exact .inr ⟨rfl, hadm ⟨_, hr⟩⟩
    · exact .inl (.issuerState hr hold)
  | requestUri h hid =>
    rcases List.mem_cons.mp h with heq | hold
    · injection heq with ht hop hres
      subst hop hid
      exact .inr ⟨rfl, hadm _ (eq_of_heq hres).symm⟩
    · exact .inl (.requestUri hold hid)
  | code h hid =>
    rcases List.mem_cons.mp h with heq | hold
    · injection heq with ht hop hres
      subst hop hid
      exact .inr ⟨rfl, hadm _ (eq_of_heq hres).symm⟩
    · exact .inl (.code hold hid)
  | refreshToken h hid =>
    rcases List.mem_cons.mp h with heq | hold
    · injection heq with ht hop hres
      subst hop hid
      exact .inr ⟨rfl, hadm _ (eq_of_heq hres).symm⟩
    · exact .inl (.refreshToken hold hid)
  | authSession h hs =>
    rcases List.mem_cons.mp h with heq | hold
    · injection heq with ht hop hres
      subst hop
      exact .inr ⟨rfl, hadm _ _ (eq_of_heq hres).symm hs⟩
    · exact .inl (.authSession hold hs)

/-- **No call turns a session that somebody serves into a presentation request.** -/
theorem noPresentation_after (hadm : LeadsToIssuance g tid op) (hmay : KindsMay g tid op)
    (hserves : Serves g t k) (h : NoPresentation g k) :
    NoPresentation ((backend w).after g tid op) k := by
  intro s' hs'
  rcases session_after hs' with ⟨s, hs, rfl | ⟨c, rfl, hchange⟩⟩ | ⟨tenantId, u, rfl, hnone, rfl⟩
  · exact h s' hs
  · have hkind := h s hs
    cases hchange with
    | same => exact hkind
    | counted => exact hkind
    | anonymized => exact hkind
    | @updated _ u happlies =>
      have hu : u.requestId = none := by
        cases hmay with
        | query hquery => exact absurd happlies (SessionCall.not_applies_of_isQuery hquery)
        | store => exact happlies.elim
        | start => exact happlies.elim
        | serve hc | verify hc =>
          cases c with
          | updateForTenant => exact happlies.1 ▸ hc.2
          | updateUnconsumedForTenant => exact happlies.1 ▸ hc.2
          | consumeRequestUri => exact happlies.1 ▸ rfl
          | _ => first | exact hc.elim | exact happlies.elim
      have heq : (s.apply u).requestId = u.requestId.or s.requestId := rfl
      rw [heq, hu, hkind]
      rfl
    | @merged id tenantId u hid =>
      -- a creation under this identifier would have found it free, or a presentation request
      have hkey : s.id = k := Table.get_key hs
      obtain rfl : id = k := hid.symm.trans hkey
      simp only [LeadsToIssuance] at hadm
      split at hadm
      · rcases hadm with ⟨s₀, hs₀, hsome⟩ | ⟨hnone, -⟩
        · rw [h s₀ hs₀] at hsome
          cases hsome
        · cases hs.symm.trans hnone
      · cases hs.symm.trans hadm
  · simp only [LeadsToIssuance] at hadm
    split at hadm
    · rcases hadm with ⟨s₀, hs₀, -⟩ | ⟨-, hfresh⟩
      · cases hnone.symm.trans hs₀
      · exact absurd hserves (hfresh t)
    · rename_i hu
      have heq : (newSession k tenantId g.store.clock u).requestId = u.requestId.or none := rfl
      rw [heq, Option.or_none]
      exact Option.not_isSome_iff_eq_none.mp hu

/-- **The invariant**: nobody serves a presentation request, and codes are stored by who serves. -/
structure KindsInv (g : State) : Prop where
  numbered : g.Numbered
  served : ∀ t k, Serves g t k → NoPresentation g k
  codes : ∀ t tenantId k u n, g.Made t (.session (.updateForTenant tenantId k u)) n →
    u.authorization_code.isSome = true → Serves g t k

theorem kinds_after (hinv : KindsInv g) (hr : g.requests[tid]? = some r)
    (hadm : LeadsToIssuance g tid op) (hmay : KindsMay g tid op) :
    KindsInv ((backend w).after g tid op) := by
  have hext : g.Extends ((backend w).after g tid op) := System.extends_after _ _ _
  refine ⟨hinv.numbered.after hr, fun t k h => ?_, fun t tenantId k u n hmade hu => ?_⟩
  · rcases serves_after hadm h with hold | ⟨hquery, hkind⟩
    · exact noPresentation_after hadm hmay hold (hinv.served t k hold)
    · intro s hs
      refine hkind s ?_
      rwa [sessions_of_may hmay] at hs
      rintro c rfl
      exact hquery
  · rcases List.mem_cons.mp hmade with heq | hold
    · injection heq with ht hop
      subst ht hop
      cases hmay with
      | query hquery => cases hquery
      | serve hc h =>
        obtain ⟨rfl, -⟩ := hc
        exact h.extends hext
      | verify hc hkeep =>
        rw [show u.authorization_code = none from hkeep] at hu
        cases hu
    · exact (hinv.codes t tenantId k u n hold hu).extends hext

theorem serves_arrive (hinv : KindsInv g) (h : Serves (g.arrive r) t k) : Serves g t k := by
  cases h with
  | issuerState hr h =>
    have hlt : t < g.requests.length := hinv.numbered _ h
    have hsame : (g.arrive r).requests[t]? = g.requests[t]? := List.getElem?_append_left hlt
    exact .issuerState (hsame.symm.trans hr) h
  | requestUri h hid => exact .requestUri h hid
  | code h hid => exact .code h hid
  | refreshToken h hid => exact .refreshToken h hid
  | authSession h hs => exact .authSession h hs

theorem serves_pass {e : Nat} (h : Serves ((backend w).pass g e) t k) : Serves g t k := by
  cases h with
  | issuerState hr h => exact .issuerState hr h
  | requestUri h hid => exact .requestUri h hid
  | code h hid => exact .code h hid
  | refreshToken h hid => exact .refreshToken h hid
  | authSession h hs => exact .authSession h hs

/-- **The discipline of the kinds.** -/
def kinds (w : World) : Discipline (backend w) where
  inv := KindsInv
  rely _ _ _ := True
  admits := LeadsToIssuance
  may := KindsMay
  allowed r := r.isIssuanceEndpoint = true
  post _ _ _ _ := True
  rely_refl _ _ := trivial
  rely_trans _ _ := trivial
  step hinv hr hadm hmay := ⟨kinds_after hinv hr hadm hmay, fun _ _ => trivial⟩
  arrive {_ r} hinv _ := ⟨⟨hinv.numbered.arrive r,
    fun t k h => hinv.served t k (serves_arrive hinv h),
    fun t tenantId k u n hmade hu =>
      (hinv.codes t tenantId k u n hmade hu).extends (Global.extends_arrive _ r)⟩,
    fun _ _ => trivial⟩
  pass e hinv := ⟨⟨hinv.numbered.pass e, fun t k h => hinv.served t k (serves_pass h),
    fun t tenantId k u n hmade hu =>
      (hinv.codes t tenantId k u n hmade hu).extends (System.extends_pass _ e)⟩, fun _ => trivial⟩

/-! ## Parts of handlers -/

/-- The calls that work on session `k`: its kind stays, and it gets no code. -/
inductive Works (k : String) : Call → Prop where
  | query {c : Call} (h : c.isQuery = true) : Works k c
  | evaluate {v : VerifyPreAuthorizedCode} : Works k (.env (.ask (.verifyPreAuthorizedCode v)))
  | updates {c : SessionCall} (hc : Updates k c) (hkeep : KeepsCode c) : Works k (.session c)

theorem Works.of_responds (h : Responds k op) : Works k op := by
  cases h with
  | query h => exact .query h
  | outcome h => exact .updates ⟨rfl, h.requestId⟩ trivial

variable {α : Type} {p : Api α}

theorem safe_reads (hg : (kinds w).At tid r g) (hp : Reads p) :
    (kinds w).Safe tid (fun _ _ => True) p g :=
  .of_only hg hp fun _ _ _ _ h _ => .query h

theorem safe_yields {Q : State → α → Prop} (hg : (kinds w).At tid r g) (hp : Reads p)
    (hy : (backend w).Yields tid Q p g) : (kinds w).Safe tid Q p g :=
  .of_yields hg hp (fun _ _ _ _ h _ => .query h) hy

theorem safe_serving (hg : (kinds w).At tid r g) (h : Serves g tid k) (hp : p.Only (Works k)) :
    (kinds w).Safe tid (fun _ _ => True) p g := by
  refine .of_only hg hp fun g' op he _ hop _ => ?_
  cases hop with
  | query h => exact .query h
  | evaluate => exact .evaluate
  | updates hc => exact .serve hc (h.extends he)

theorem safe_verifying (hg : (kinds w).At tid r g) (h : OwnVerifier g tid k)
    (hp : p.Only (Works k)) : (kinds w).Safe tid (fun _ _ => True) p g := by
  refine .of_only hg hp fun g' op he _ hop _ => ?_
  cases hop with
  | query h => exact .query h
  | evaluate => exact .evaluate
  | updates hc hkeep => exact .verify hc hkeep (h.extends he)

theorem safe_interactive (c : InteractiveCall) :
    (kinds w).Safe tid (fun _ _ => True) (interactiveSessions c) g :=
  Safe.invoke fun _ _ _ => ⟨.interactive, fun _ _ => trivial⟩

theorem safe_write (h : Serves g tid k) {c : SessionCall} (hc : Updates k c) :
    (kinds w).Safe tid (fun _ _ => True) (sessions c) g :=
  Safe.invoke fun _ hl _ => ⟨.serve hc (h.extends hl.hist), fun _ _ => trivial⟩

theorem safe_ret {a : α} : (kinds w).Safe tid (fun _ _ => True) (ret a : Api α) g :=
  Safe.ret fun _ _ => trivial

/-! ## Pushed requests -/

theorem orUndefined_getForTenant {tenantId : String} {key : Option String}
    {type : Option SessionType} (h : truthy key = true) :
    orUndefined (getForTenant tenantId key type) =
      sessions (.findForTenant tenantId (key.getD "") type) := by
  unfold orUndefined getForTenant lookup
  rw [h]
  show call _ _ = call _ _
  congr 1
  funext found
  cases found <;> rfl

theorem safe_assertIssuerStateRedeemable {q : PushedAuthorizationRequest}
    (hg : (kinds w).At tid (.pushAuthorization q) g) :
    (kinds w).Safe tid (fun g' _ => truthy q.body.issuer_state = true →
      Serves g' tid (q.body.issuer_state.getD "")) (assertIssuerStateRedeemable q) g := by
  refine safe_yields hg (reads_assertIssuerStateRedeemable q) ?_
  unfold assertIssuerStateRedeemable
  split
  · rename_i htruthy
    rw [orUndefined_getForTenant htruthy]
    refine (yields_sessions _).bind fun found g₁ he₁ hmade => ?_
    have hserves : Serves g₁ tid (q.body.issuer_state.getD "") :=
      .issuerState (he₁.request hg.request) hmade
    exact (System.yields_true _).imp fun _ g' he _ _ => hserves.extends he
  · rename_i hfalse
    exact System.Yields.ret fun _ _ htruthy => absurd htruthy hfalse

theorem safe_pushAuthorizationRequest {q : PushedAuthorizationRequest}
    (hg : (kinds w).At tid (.pushAuthorization q) g) :
    (kinds w).Safe tid (fun _ _ => True) (pushAuthorizationRequest w q) g := by
  unfold pushAuthorizationRequest
  refine (safe_reads hg (reads_verifyPushedRequest w q)).bind hg fun jkt g₁ _ hg₁ _ => ?_
  refine (safe_assertIssuerStateRedeemable hg₁).bind hg₁ fun _ g₂ _ hg₂ hserves => ?_
  refine (safe_reads hg₂ reads_fresh).bind hg₂ fun uri g₃ he₃ hg₃ _ => ?_
  refine (safe_reads hg₃ reads_now).bind hg₃ fun t g₄ he₄ hg₄ _ => ?_
  have hstore (values : SessionUpdate) (hkind : values.requestId = none) :
      (kinds w).Safe tid (fun _ _ => True) (storePushedRequest q values) g₄ := by
    have hbound : (kinds w).Safe tid (fun _ _ => True) (onlyIf (truthy q.body.issuer_state) 0
        (updateForTenant q.tenantId (q.body.issuer_state.getD "") values)) g₄ := by
      cases htruthy : truthy q.body.issuer_state with
      | false => exact safe_ret
      | true => exact safe_write (((hserves htruthy).extends he₃).extends he₄) ⟨rfl, hkind⟩
    refine hbound.bind hg₄ fun bound g₅ _ hg₅ _ => ?_
    split
    · -- a session of its own
      refine (safe_reads hg₅ reads_fresh).bind hg₅ fun id g₆ _ hg₆ _ => ?_
      have hcreate : (kinds w).Safe tid (fun _ _ => True) (createSession id q.tenantId values) g₆ :=
        Safe.invoke fun _ _ _ => ⟨.store hkind, fun _ _ => trivial⟩
      exact hcreate.bind hg₆ fun _ _ _ _ _ => safe_ret
    · exact safe_ret
  exact (hstore _ rfl).bind hg₄ fun _ _ _ _ _ => safe_ret

/-! ## The authorization endpoint -/

theorem safe_authorizePushedRequest {q : AuthorizeRequest} (hg : (kinds w).At tid r g) :
    (kinds w).Safe tid (fun _ _ => True) (authorizePushedRequest w q) g := by
  have hfind : (kinds w).Safe tid (fun g' s => Serves g' tid s.id)
      (orThrow (getByRequestUri q.tenantId (q.request_uri.getD ""))
        (.oauthError .invalid_request_uri "Unknown request_uri")) g := by
    refine safe_yields hg (only_orThrow (only_lookup fun _ => only_sessions.mpr rfl)) ?_
    refine yields_orThrow (fun _ _ _ he h => h.extends he) ?_
    refine (yields_lookup (fun k g' s => g'.Made tid (.session (.findByRequestUri q.tenantId k)) s)
      (fun _ _ _ _ he h => h.extends he) fun _ _ => yields_sessions _).imp ?_
    rintro s g' - ⟨k, -, -, hmade⟩
    exact .requestUri hmade rfl
  unfold authorizePushedRequest
  refine Safe.ensure fun _ => hfind.bind hg fun s g₁ _ hg₁ hserves => ?_
  refine Safe.ofExcept fun uri _ => ?_
  have hredeem {g' : State} (hg' : (kinds w).At tid r g') (h : Serves g' tid s.id) :
      (kinds w).Safe tid (fun _ _ => True) (redeemRequestUri q.tenantId s) g' := by
    refine (safe_reads hg' reads_now).bind hg' fun t g₂ he₂ hg₂ _ => ?_
    split
    · exact safe_write (h.extends he₂) rfl
    · exact safe_ret
  have hissue {g' : State} (hg' : (kinds w).At tid r g') (h : Serves g' tid s.id) :
      (kinds w).Safe tid (fun _ _ => True) (issueCode q.tenantId s) g' := by
    refine (safe_reads hg' reads_fresh).bind hg' fun code g₂ he₂ hg₂ _ => ?_
    refine (safe_reads hg₂ reads_now).bind hg₂ fun t g₃ he₃ hg₃ _ => ?_
    have hwrite : (kinds w).Safe tid (fun _ _ => True) (updateForTenant q.tenantId s.id
        (issuedCodeUpdate code t)) g₃ := safe_write ((h.extends he₂).extends he₃) ⟨rfl, rfl⟩
    exact hwrite.bind hg₃ fun _ _ _ _ _ => safe_ret
  split
  · exact safe_ret
  · refine (safe_reads hg₁ reads_now).bind hg₁ fun t g₂ he₂ hg₂ _ => ?_
    split
    · exact safe_ret
    · trivial
    · refine (hredeem hg₂ (hserves.extends he₂)).bind hg₂ fun redeemed g₃ he₃ hg₃ _ => ?_
      split
      · refine (hissue hg₃ ((hserves.extends he₂).extends he₃)).bind hg₃ fun _ _ _ _ _ => ?_
        exact safe_ret
      · exact safe_ret

/-! ## The token endpoint -/

theorem serves_of_found {q : AccessTokenRequest} {parsed : ParsedAccessTokenRequest} {s : Session}
    (h : FoundSession g t q parsed s) : Serves g t s.id := by
  unfold FoundSession at h
  split at h
  · exact .refreshToken h rfl
  · obtain ⟨code, -, -, hmade⟩ := h
    exact .code hmade rfl

theorem works_verifyGrant (q : AccessTokenRequest) (parsed : ParsedAccessTokenRequest)
    (s : Session) (config : IssuanceConfiguration) :
    (verifyGrant q parsed s config).Only (Works s.id) := by
  have hask (question : Question) (h : (Call.env (.ask question)).isQuery = true) :
      (ask question).Only (Works s.id) := Only.mono (fun _ => Works.query) (reads_ask question h)
  have herror (e : LibraryError) (n : Nat) (tx : Option String) :
      (preAuthorizedCodeError e q.tenantId s n tx).Only (Works s.id) := by
    unfold preAuthorizedCodeError
    simp only
    split
    · refine Only.bind (Only.bind (only_sessions.mpr (.updates rfl trivial)) fun n =>
        Only.bind (only_getOrFail _ _) fun _ => trivial) fun r => ?_
      split <;> trivial
    · trivial
  unfold verifyGrant
  split
  · refine Only.ensure fun _ => (hask _ rfl).bind fun _ =>
      Only.bind (only_ask .evaluate) fun r => ?_
    cases r with
    | ok dpop => trivial
    | error e => exact herror e _ _
  · exact (hask _ rfl).bind fun r => by cases r <;> trivial
  · exact (hask _ rfl).bind fun r => by cases r <;> trivial

theorem safe_exchangeAccessToken {q : AccessTokenRequest} (hg : (kinds w).At tid r g) :
    (kinds w).Safe tid (fun _ _ => True) (exchangeAccessToken w q) g := by
  have hprepare : (kinds w).Safe tid
      (fun g' p => Serves g' tid p.session.id) (prepareToken w q) g := by
    unfold prepareToken
    refine Safe.ofExcept fun parsed _ => ?_
    have hfind := safe_yields hg (reads_findSession q.tenantId parsed) (yields_findSession q parsed)
    refine hfind.bind hg fun s g₁ _ hg₁ hfound => ?_
    have hserves := serves_of_found hfound
    refine (safe_reads hg₁ (reads_assertCodeRedeemable _ _)).bind hg₁ fun _ g₂ he₂ hg₂ _ => ?_
    refine (safe_reads hg₂ (reads_tokenConfiguration _ _)).bind hg₂ fun config g₃ he₃ hg₃ _ => ?_
    refine (safe_reads hg₃ (reads_verifyClientAttestation _ _ _ _ _)).bind hg₃
      fun _ g₄ he₄ hg₄ _ => ?_
    refine Safe.ofExcept fun _ _ => Safe.ofExcept fun _ _ =>
      Safe.ofExcept fun _ _ => Safe.ofExcept fun _ _ => ?_
    have h₄ : Serves g₄ tid s.id := hserves.extends ((he₂.trans he₃).trans he₄)
    refine (safe_serving hg₄ h₄ (works_verifyGrant q parsed s config)).bind hg₄
      fun dpopJkt g₅ he₅ hg₅ _ => ?_
    refine (safe_reads hg₅ (reads_createTokenResponse _ _ _ _ _ _)).bind hg₅
      fun response g₆ he₆ _ _ => ?_
    exact Safe.ret fun g₇ hl => ((h₄.extends he₅).extends he₆).extends hl.hist
  unfold exchangeAccessToken
  refine hprepare.bind hg fun p g₁ _ hg₁ hserves => ?_
  unfold commitToken
  split
  · exact safe_ret
  · refine (safe_reads hg₁ (reads_issuedRefreshExpiry _ _)).bind hg₁ fun expiry g₂ he₂ hg₂ _ => ?_
    have hredeem : (kinds w).Safe tid (fun _ _ => True) (updateIfUnconsumed p.session.tenantId
        p.session.id (redeemUpdate p expiry)) g₂ := safe_write (hserves.extends he₂) ⟨rfl, rfl⟩
    exact hredeem.bind hg₂ fun _ _ _ _ _ => Safe.ensure fun _ => safe_ret

/-! ## The interactive endpoint -/

theorem safe_startPresentation (hg : (kinds w).At tid r g) (hr : r.isInteractive = true)
    {authSession : String} (hown : OwnVerifier g tid authSession) (tenantId configId : String) :
    (kinds w).Safe tid (fun _ _ => True) (startPresentation w authSession tenantId configId) g := by
  -- the presentation is of the auth session, or of a session of a fresh id
  have hsession {g' : State} (hg' : (kinds w).At tid r g') (h : OwnVerifier g' tid authSession) :
      (kinds w).Safe tid (fun g'' id => OwnVerifier g'' tid id)
        (requestSession { session := some authSession }) g' := by
    unfold requestSession
    split
    · exact Safe.ret fun _ hl => h.extends hl.hist
    · refine safe_yields hg' reads_fresh (yields_fresh.imp fun id g'' he hmade => ?_)
      exact ⟨⟨r, he.request hg'.request, hr⟩, .inl hmade⟩
  have hrequest {g' : State} (hg' : (kinds w).At tid r g') (h : OwnVerifier g' tid authSession) :
      (kinds w).Safe tid (fun _ _ => True)
        (createRequest w configId { session := some authSession } tenantId false) g' := by
    unfold createRequest
    refine (safe_reads hg' (reads_ask _ rfl)).bind hg' fun config g₁ he₁ hg₁ _ => ?_
    refine (hsession hg₁ (h.extends he₁)).bind hg₁ fun id g₂ _ hg₂ hid => ?_
    have hupdate (update : SessionUpdate) (uri : String) (hkind : update.requestId = none)
        (hkeep : update.authorization_code = none) :
        (do let _ ← updateForTenant tenantId id update
            return ({ uri, session := id } : PresentationOffer)).Only (Works id) :=
      Only.bind (only_sessions.mpr (.updates ⟨rfl, hkind⟩ hkeep)) fun _ => trivial
    have hreads {β : Type} {p : Api β} (hp : Reads p) : p.Only (Works id) :=
      hp.mono fun _ => .query
    refine safe_verifying hg₂ hid ?_
    split
    · refine Only.ensure fun _ => (hreads reads_fresh).bind fun walletNonce =>
        (hreads reads_fresh).bind fun nonce => (hreads (reads_ask _ rfl)).bind fun _ =>
        (hreads reads_now).bind fun t => ?_
      split
      · rename_i hnone
        cases hnone
      · exact hupdate _ _ rfl rfl
    · refine (hreads reads_fresh).bind fun walletNonce => (hreads (reads_ask _ rfl)).bind fun _ =>
        (hreads reads_now).bind fun t => ?_
      split
      · rename_i hnone
        cases hnone
      · exact hupdate _ _ rfl rfl
  have hcreate : (kinds w).Safe tid (fun g' _ => OwnVerifier g' tid authSession)
      (createSession authSession tenantId { requestId := some configId }) g := by
    refine Safe.invoke fun g' hl _ => ?_
    have hown' := hown.extends hl.hist
    exact ⟨.start hown', fun g'' hl' =>
      (hown'.extends (System.extends_after _ _ _)).extends hl'.hist⟩
  have hattempt : (kinds w).Safe tid (fun _ _ => True) (do
      let _ ← createSession authSession tenantId { requestId := some configId }
      createRequest w configId { session := some authSession } tenantId false) g :=
    hcreate.bind hg fun _ g' _ hg' h => hrequest hg' h
  unfold startPresentation
  refine hattempt.attempt.bind hg fun result g' _ _ _ => ?_
  cases result <;> exact safe_ret

theorem safe_startWeb (hg : (kinds w).At tid r g) (authSession tenantId : String) :
    (kinds w).Safe tid (fun _ _ => True) (startWeb authSession tenantId) g := by
  unfold startWeb
  refine (safe_reads hg reads_fresh).bind hg fun uri g₁ _ hg₁ _ => ?_
  refine (safe_reads hg₁ reads_now).bind hg₁ fun t g₂ _ hg₂ _ => ?_
  exact (safe_interactive _).bind hg₂ fun _ _ _ _ _ => safe_ret

theorem safe_executeIaeAction (hg : (kinds w).At tid r g) (hr : r.isInteractive = true)
    {authSession : String} (hown : OwnVerifier g tid authSession) (tenantId : String)
    (action : IaeAction) (supportedTypes : String) :
    (kinds w).Safe tid (fun _ _ => True)
      (executeIaeAction w authSession tenantId action supportedTypes) g := by
  unfold executeIaeAction
  split
  · split
    · exact safe_startPresentation hg hr hown _ _
    · exact safe_ret
  · split
    · exact safe_startWeb hg _ _
    · exact safe_ret

theorem safe_startFirst {q : InteractiveInitialRequest} (hg : (kinds w).At tid r g)
    (hr : r.isInteractive = true) {authSession : String} (hown : OwnVerifier g tid authSession)
    (tenantId : String) (actions : Option (List IaeAction)) :
    (kinds w).Safe tid (fun _ _ => True) (startFirst w q tenantId authSession actions) g := by
  have hfallback : (kinds w).Safe tid (fun _ _ => True)
      (startFallbackPresentation w authSession tenantId q.authorization_details) g := by
    unfold startFallbackPresentation
    refine (safe_reads hg (Only.attempt (reads_fallbackPresentationConfig _ _))).bind hg
      fun config g₁ he₁ hg₁ _ => ?_
    split
    · exact safe_startPresentation hg₁ hr (hown.extends he₁) _ _
    · exact safe_ret
    · exact safe_ret
  unfold startFirst
  split
  · exact safe_executeIaeAction hg hr hown _ _ _
  · split
    · exact hfallback
    · split
      · exact safe_startWeb hg _ _
      · exact safe_ret

theorem safe_handleInitialRequest {q : InteractiveInitialRequest} (hg : (kinds w).At tid r g)
    (hr : r.isInteractive = true) (tenantId : String) :
    (kinds w).Safe tid (fun _ _ => True) (handleInitialRequest w tenantId q) g := by
  have hissuer : Reads (issuerStateError tenantId q.issuer_state) := by
    unfold issuerStateError
    split
    · exact reads_offerRedemptionError _ _
    · trivial
  unfold handleInitialRequest
  split
  · exact safe_ret
  · split
    · exact safe_ret
    · refine (safe_reads hg hissuer).bind hg fun error g₁ _ hg₁ _ => ?_
      cases error with
      | some error => exact safe_ret
      | none =>
        refine (safe_reads hg₁ (reads_configuredActions _ _)).bind hg₁ fun actions g₂ _ hg₂ _ => ?_
        refine (safe_yields hg₂ reads_fresh yields_fresh).bind hg₂
          fun authSession g₃ _ hg₃ hdrew => ?_
        -- the auth session that was drawn is the thread's own
        have hown : OwnVerifier g₃ tid authSession := ⟨⟨r, hg₃.request, hr⟩, .inl hdrew⟩
        refine (safe_reads hg₃ reads_now).bind hg₃ fun t g₄ he₄ hg₄ _ => ?_
        refine (safe_reads hg₄ reads_fresh).bind hg₄ fun id g₅ he₅ hg₅ _ => ?_
        refine (safe_interactive _).bind hg₅ fun _ g₆ he₆ hg₆ _ => ?_
        exact safe_startFirst hg₆ hr (((hown.extends he₄).extends he₅).extends he₆) _ _

/-! ## Follow-ups -/

def FoundAuth (g : State) (t : Nat) (s : InteractiveAuthSession) : Prop :=
  ∃ tenantId a, g.Made t (.interactive (.findForTenant tenantId a)) (some s)

theorem FoundAuth.extends {s : InteractiveAuthSession} (h : FoundAuth g t s)
    (he : g.Extends g') : FoundAuth g' t s := by
  obtain ⟨tenantId, a, hmade⟩ := h
  exact ⟨tenantId, a, hmade.extends he⟩

theorem FoundAuth.own {s : InteractiveAuthSession} (h : FoundAuth g t s)
    (hg : (kinds w).At t r g) (hr : r.isInteractive = true) : OwnVerifier g t s.authSession := by
  obtain ⟨tenantId, a, hmade⟩ := h
  exact ⟨⟨r, hg.request, hr⟩, .inr (.inl ⟨tenantId, a, s, hmade, rfl⟩)⟩

theorem FoundAuth.serves {s : InteractiveAuthSession} (h : FoundAuth g t s)
    (hs : truthy s.issuerState = true) : Serves g t (s.issuerState.getD "") := by
  obtain ⟨tenantId, a, hmade⟩ := h
  obtain ⟨issuerState, heq, -⟩ := truthy_iff.mp hs
  exact .authSession hmade (by rw [heq]; rfl)

theorem safe_getResponse (hg : (kinds w).At tid r g) (hr : r.isInteractive = true)
    (body : AuthorizationResponse) (nonce : String) :
    (kinds w).Safe tid (fun _ _ => True) (getResponse w body nonce) g := by
  have hfind : (kinds w).Safe tid (fun g' s => OwnVerifier g' tid s.id)
      (getForWalletRequest nonce) g := by
    refine safe_yields hg (reads_getForWalletRequest nonce) ?_
    refine (yields_lookup (fun k g' s => g'.Made tid (.session (.findForWalletRequest k)) s)
      (fun _ _ _ _ he h => h.extends he) fun _ _ => yields_sessions _).imp ?_
    rintro s g' he ⟨k, -, -, hmade⟩
    exact ⟨⟨r, he.request hg.request, hr⟩, .inr (.inr ⟨k, s, hmade, rfl⟩)⟩
  unfold getResponse
  refine hfind.bind hg fun s g₁ _ hg₁ hown => safe_verifying hg₁ hown ?_
  have hreads {β : Type} {p : Api β} (hp : Reads p) : p.Only (Works s.id) := hp.mono fun _ => .query
  have herror (e : WalletError) : (handleWalletError s e).Only (Works s.id) :=
    (responds_handleWalletError s e).mono fun _ => .of_responds
  refine Only.ensure fun _ => (hreads reads_now).bind fun t =>
    Only.bind (only_ofExcept _) fun _ => ?_
  split
  · exact herror _
  · refine (hreads (reads_decryptAuthorizationResponse w s body)).bind fun decrypted => ?_
    cases decrypted with
    | walletError e => exact herror e
    | malformed issues => trivial
    | vpToken token state =>
      exact Only.ensure fun _ =>
        (responds_processPresentation _ _ _ _).mono fun _ => .of_responds

theorem safe_handleOpenid4vpResponse (hg : (kinds w).At tid r g) (hr : r.isInteractive = true)
    {s : InteractiveAuthSession} (hfound : FoundAuth g tid s) (response : String) :
    (kinds w).Safe tid (fun _ _ => True) (handleOpenid4vpResponse w response s) g := by
  have hpresentation : Reads (presentationSession s.tenantId s.authSession) :=
    only_orUndefined (reads_getForTenant _ _ _)
  have hsubmit {g' : State} (hg' : (kinds w).At tid r g') (p : Session)
      (body : AuthorizationResponse) :
      (kinds w).Safe tid (fun _ _ => True) (submitPresentation w p body) g' := by
    unfold submitPresentation
    split
    · exact safe_ret
    · exact (safe_getResponse hg' hr body _).attempt.bind hg' fun _ _ _ _ _ => safe_ret
  unfold handleOpenid4vpResponse
  split
  · exact safe_ret
  · refine (safe_reads hg hpresentation).bind hg fun presentation g₁ he₁ hg₁ _ => ?_
    cases presentation with
    | none => exact safe_ret
    | some presentation =>
      refine (hsubmit hg₁ _ _).bind hg₁ fun _ g₂ he₂ hg₂ _ => ?_
      refine (safe_reads hg₂ hpresentation).bind hg₂ fun verified g₃ he₃ hg₃ _ => ?_
      cases verified with
      | none => exact safe_ret
      | some verified =>
        simp only
        split
        · exact safe_ret
        · refine (safe_interactive _).bind hg₃ fun _ g₄ he₄ hg₄ _ => ?_
          have hfound' : FoundAuth g₄ tid s :=
            hfound.extends (((he₁.trans he₂).trans he₃).trans he₄)
          have hcopy : (kinds w).Safe tid (fun _ _ => True)
              (onlyIf (truthy s.issuerState && verified.credentials.isSome) 0
                (updateForTenant s.tenantId (s.issuerState.getD "")
                  { credentials := verified.credentials })) g₄ := by
            cases hcheck : truthy s.issuerState && verified.credentials.isSome with
            | false => exact safe_ret
            | true =>
              exact safe_write (hfound'.serves (Bool.and_eq_true_iff.mp hcheck).1) ⟨rfl, rfl⟩
          exact hcopy.bind hg₄ fun _ _ _ _ _ => safe_ret

theorem safe_completeStep (hg : (kinds w).At tid r g) (hr : r.isInteractive = true)
    {s : InteractiveAuthSession} (hfound : FoundAuth g tid s) (type : InteractionType)
    (data : Option String) (tenantId : String) :
    (kinds w).Safe tid (fun _ _ => True) (completeStep w s type data tenantId) g := by
  have hissue {g' : State} (hg' : (kinds w).At tid r g') (h : FoundAuth g' tid s) :
      (kinds w).Safe tid (fun _ _ => True) (issueAuthorizationCode s) g' := by
    unfold issueAuthorizationCode
    refine (safe_reads hg' reads_fresh).bind hg' fun code g₁ he₁ hg₁ _ => ?_
    refine (safe_interactive _).bind hg₁ fun _ g₂ he₂ hg₂ _ => ?_
    have hbind : (kinds w).Safe tid (fun _ _ => True)
        (onlyIf (truthy s.issuerState) 0 (bindCodeToOffer s code)) g₂ := by
      cases htruthy : truthy s.issuerState with
      | false => exact safe_ret
      | true =>
        have hserves := ((h.extends he₁).extends he₂).serves htruthy
        refine (safe_reads hg₂ reads_now).bind hg₂ fun t g₃ he₃ _ _ => ?_
        exact safe_write (hserves.extends he₃) ⟨rfl, rfl⟩
    exact hbind.bind hg₂ fun _ _ _ _ _ => safe_ret
  unfold completeStep
  refine (safe_reads hg reads_now).bind hg fun t g₁ he₁ hg₁ _ => ?_
  unfold advanceOrComplete
  split
  · refine (safe_interactive _).bind hg₁ fun _ g₂ he₂ hg₂ _ => ?_
    exact safe_executeIaeAction hg₂ hr (((hfound.extends he₁).extends he₂).own hg₂ hr) _ _ _
  · refine (safe_interactive _).bind hg₁ fun _ g₂ he₂ hg₂ _ => ?_
    exact hissue hg₂ ((hfound.extends he₁).extends he₂)

theorem safe_validateAuthSession (hg : (kinds w).At tid r g) (tenantId authSession : String) :
    (kinds w).Safe tid (fun g' found => ∀ s, found = .ok s → FoundAuth g' tid s)
      (validateAuthSession tenantId authSession) g := by
  have hfind : (kinds w).Safe tid (fun g' found => ∀ s, found = some s → FoundAuth g' tid s)
      (interactiveSessions (.findForTenant tenantId authSession)) g := by
    have hmade : (backend w).Yields tid (fun g' found =>
        g'.Made tid (.interactive (.findForTenant tenantId authSession)) found)
        (interactiveSessions (.findForTenant tenantId authSession)) g := System.yields_invoke _
    refine safe_yields hg (only_interactiveSessions.mpr rfl) (hmade.imp ?_)
    rintro found g' - hmade s rfl
    exact ⟨tenantId, authSession, hmade⟩
  unfold validateAuthSession
  refine hfind.bind hg fun found g₁ _ hg₁ hfound => ?_
  cases found with
  | none => exact Safe.ret fun _ _ _ h => nomatch h
  | some s =>
    refine (safe_reads hg₁ reads_now).bind hg₁ fun t g₂ he₂ hg₂ _ => ?_
    split
    · refine (safe_interactive _).bind hg₂ fun _ _ _ _ _ => ?_
      exact Safe.ret fun _ _ _ h => nomatch h
    · refine Safe.ret fun g₃ hl s' hs => ?_
      cases hs
      exact ((hfound s rfl).extends he₂).extends hl.hist

theorem safe_handleFollowUpRequest {q : InteractiveFollowUpRequest}
    (hg : (kinds w).At tid r g) (hr : r.isInteractive = true) (tenantId : String) :
    (kinds w).Safe tid (fun _ _ => True) (handleFollowUpRequest w tenantId q) g := by
  unfold handleFollowUpRequest
  refine (safe_validateAuthSession hg _ _).bind hg fun validated g₁ _ hg₁ hfound => ?_
  cases validated with
  | error response => exact safe_ret
  | ok s =>
    have hs : FoundAuth g₁ tid s := hfound s rfl
    simp only
    split
    · exact safe_ret
    · split
      · split
        · exact safe_ret
        · refine (safe_handleOpenid4vpResponse hg₁ hr hs _).bind hg₁ fun result g₂ he₂ hg₂ _ => ?_
          cases result with
          | error response => exact safe_ret
          | ok _ => exact safe_completeStep hg₂ hr (hs.extends he₂) _ _ _
      · split
        · split
          · exact safe_ret
          · split
            · exact safe_ret
            · exact safe_completeStep hg₁ hr hs _ _ _
        · exact safe_ret

theorem safe_interactiveProgram {p : Api InteractiveResponse} (hg : (kinds w).At tid r g)
    (h : (kinds w).Safe tid (fun _ _ => True) p g) :
    (kinds w).Safe tid (fun _ _ => True) (interactiveProgram p) g := by
  unfold interactiveProgram
  refine h.attempt.bind hg fun result _ _ _ _ => ?_
  cases result <;> exact safe_ret

/-- **The four endpoints keep to the discipline.** -/
theorem kinds_verified (w : World) : (kinds w).Verified := by
  intro g r _ hallowed hg
  have hanswer {α : Type} {f : α → Response} {p : Api α}
      (h : (kinds w).Safe g.requests.length (fun _ _ => True) p (g.arrive r)) :
      (kinds w).Safe g.requests.length (fun _ _ => True) (answering f p) (g.arrive r) :=
    h.bind hg fun _ _ _ _ _ => safe_ret
  cases r with
  | pushAuthorization q => exact hanswer (safe_pushAuthorizationRequest hg)
  | authorize q => exact hanswer (safe_authorizePushedRequest hg)
  | token q => exact hanswer (safe_exchangeAccessToken hg)
  | interactiveInitial tenantId q =>
    exact hanswer (safe_interactiveProgram hg (safe_handleInitialRequest hg rfl tenantId))
  | interactiveFollowUp tenantId q =>
    exact hanswer (safe_interactiveProgram hg (safe_handleFollowUpRequest hg rfl tenantId))
  | _ => cases hallowed

/-! ## The runs -/

theorem row_updates {clock : Time} {c : SessionCall} {k' : String} {s : Session}
    (hc : Updates k' c) (hs : s.id = k) (hne : k' ≠ k) :
    c.row clock k (some s) = some s := by
  have hother {tenantId : String} : ofTenant tenantId k' s = false := by
    rw [Bool.eq_false_iff]
    exact fun h => hne ((ofTenant_iff.mp h).2.symm.trans hs)
  cases c with
  | updateForTenant tenantId id u =>
    obtain ⟨rfl, -⟩ := hc
    rw [SessionCall.row, Option.map_some, hother, if_neg Bool.false_ne_true]
  | updateUnconsumedForTenant tenantId id u =>
    obtain ⟨rfl, -⟩ := hc
    rw [SessionCall.row, Option.map_some, hother, Bool.false_and, if_neg Bool.false_ne_true]
  | consumeRequestUri tenantId id expiresAt t =>
    obtain rfl : id = k' := hc
    rw [SessionCall.row, Option.map_some, hother, Bool.false_and,
      if_neg Bool.false_ne_true, ite_self]
  | incrementFailedTxCodeAttempts tenantId id =>
    obtain rfl : id = k' := hc
    rw [SessionCall.row, Option.map_some, hother, if_neg Bool.false_ne_true]
  | _ => exact hc.elim

/-- **One call leaves a presentation request alone** that is not the thread's own. -/
theorem unchanged_after (hinv : KindsInv g) (hadm : LeadsToIssuance g tid op)
    (hmay : KindsMay g tid op) {s : Session} (hs : g.store.sessions.get k = some s)
    (hkind : s.requestId.isSome = true) (hown : ¬OwnVerifier g tid k) :
    ((backend w).after g tid op).store.sessions.get k = some s := by
  have hsame (hop : ∀ c, op = .session c → c.isQuery = true) :
      ((backend w).after g tid op).store.sessions.get k = some s :=
    (sessions_of_may hmay hop).trans hs
  have hrow (c : SessionCall) (hop : op = .session c)
      (h : c.row g.store.clock k (some s) = some s) :
      ((backend w).after g tid op).store.sessions.get k = some s := by
    subst hop
    refine (SessionCall.get_effect _ _ c k).trans ?_
    rw [hs]
    exact h
  have hid : s.id = k := Table.get_key hs
  cases hmay with
  | query h =>
    refine hsame ?_
    rintro c rfl
    exact h
  | evaluate => exact hsame fun _ h => nomatch h
  | interactive => exact hsame fun _ h => nomatch h
  | @store k' tenantId u hu =>
    -- a session of its own is a new one
    refine hrow _ rfl (if_neg ?_)
    rintro rfl
    have hnew : g.store.sessions.get k' = none := by simpa [LeadsToIssuance, hu] using hadm
    cases hs.symm.trans hnew
  | @start k' tenantId u h =>
    refine hrow _ rfl (if_neg ?_)
    rintro rfl
    exact hown h
  | @serve c k' hc h =>
    refine hrow c rfl (row_updates hc hid ?_)
    rintro rfl
    rw [hinv.served tid k' h s hs] at hkind
    cases hkind
  | @verify c k' hc _ h =>
    refine hrow c rfl (row_updates hc hid ?_)
    rintro rfl
    exact hown h

/-- **A token has the session it was looked up by as its subject.** -/
theorem yields_subject (q : AccessTokenRequest) :
    (backend w).Yields tid (fun g' r => ∃ asked, Serves g' tid asked.subject ∧
      g'.Made tid (.env (.ask (.createAccessTokenResponse asked))) (.ok (.ok r)))
      (exchangeAccessToken w q) g := by
  have hresponse (g : State) (parsed : ParsedAccessTokenRequest) (s : Session)
      (config : IssuanceConfiguration) (dpopJkt : Option String) :
      (backend w).Yields tid (fun g' r => ∃ asked : CreateAccessTokenResponse,
        asked.subject = s.id ∧
        g'.Made tid (.env (.ask (.createAccessTokenResponse asked))) (.ok (.ok r)))
        (createTokenResponse w q parsed s config dpopJkt) g := by
    refine .skip fun keyId g₁ _ => .skip fun jwk g₂ _ => .ofExcept fun details _ =>
      (yields_ask _).bind fun r g₃ _ hr => ?_
    cases r with
    | ok response => exact fun g₄ he => ⟨_, rfl, hr.extends he⟩
    | error e => trivial
  have hprepare : (backend w).Yields tid (fun g' p => ∃ asked, Serves g' tid asked.subject ∧
      g'.Made tid (.env (.ask (.createAccessTokenResponse asked))) (.ok (.ok p.response)))
      (prepareToken w q) g := by
    unfold prepareToken
    refine .ofExcept fun parsed _ => (yields_findSession q parsed).bind fun s g₁ _ hfound => ?_
    have hserves := serves_of_found hfound
    refine .skip fun _ g₂ he₂ => .skip fun config g₃ he₃ => .skip fun _ g₄ he₄ => ?_
    refine .ofExcept fun _ _ => .ofExcept fun _ _ => .ofExcept fun _ _ => .ofExcept fun _ _ => ?_
    refine .skip fun dpopJkt g₅ he₅ => (hresponse g₅ parsed s config dpopJkt).bind ?_
    rintro response g₆ he₆ ⟨asked, hsubject, hmade⟩ g₇ he₇
    have h₆ := hserves.extends ((((he₂.trans he₃).trans he₄).trans he₅).trans he₆)
    exact ⟨asked, hsubject ▸ h₆.extends he₇, hmade.extends he₇⟩
  unfold exchangeAccessToken
  refine hprepare.bind ?_
  rintro p g₁ - ⟨asked, hserves, hmade⟩
  have hkept {g' : State} (he : g₁.Extends g') : ∃ asked, Serves g' tid asked.subject ∧
      g'.Made tid (.env (.ask (.createAccessTokenResponse asked))) (.ok (.ok p.response)) :=
    ⟨asked, hserves.extends he, hmade.extends he⟩
  unfold commitToken
  split
  · exact fun g' he => hkept he
  · refine .skip fun _ g₂ he₂ => .skip fun _ g₃ he₃ => .ensure fun _ => ?_
    exact fun g₄ he₄ => hkept ((he₂.trans he₃).trans he₄)

/-- What a token response is bound to. -/
def SubjectPromise (tid : Nat) (r : Request) (g : State) (a : Response) : Prop :=
  ∀ q response, r = .token q → a = .token response →
    ∃ asked, Serves g tid asked.subject ∧
      g.Made tid (.env (.ask (.createAccessTokenResponse asked))) (.ok (.ok response))

theorem subject_promised (tid : Nat) (r : Request) (g : State) :
    (backend w).Yields tid (SubjectPromise tid r) ((backend w).program r) g := by
  by_cases hr : ∃ q, r = .token q
  · obtain ⟨q, rfl⟩ := hr
    refine (yields_subject q).bind ?_
    rintro response g₁ - ⟨asked, hserves, hmade⟩ g₂ he q' response' hq hresponse
    cases hresponse
    exact ⟨asked, hserves.extends he, hmade.extends he⟩
  · exact (System.yields_true _).imp fun _ _ _ _ q _ hq => absurd ⟨q, hq⟩ hr

end SessionKinds

open SessionKinds Deployment

/-- **Issuance endpoints act on issuance sessions**, the verifier sessions of interactive
authorization apart, in every run of the four endpoints in which no look-up leads to a presentation
request and new identifiers are new. -/
theorem kinds_apart (w : World) (st : Store) (ms : Schedule)
    (hendpoints : System.Arrivals (fun r => r.isIssuanceEndpoint = true) ms)
    (hadm : (backend w).Guarded LeadsToIssuance (.start st) ms) :
    KindsApart w st ms OwnVerifier := by
  have hstart : KindsInv (⟨st, [], []⟩ : State) := by
    refine ⟨Global.numbered_start st, fun t k h => ?_, fun _ _ _ _ _ h => (List.not_mem_nil h).elim⟩
    cases h with
    | issuerState _ h => exact (List.not_mem_nil h).elim
    | requestUri h | code h | refreshToken h | authSession h => exact (List.not_mem_nil h).elim
  have hholds := Discipline.run_holds (kinds_verified w)
    (Discipline.holds_start hstart) hendpoints hadm
  refine ⟨?_, fun t tenantId k u n hmade hu => ?_, fun t q r hanswers => ?_⟩
  · rintro ms₁ ms₂ u rfl k s hs hkind hown
    rw [System.run_append]
    rcases System.step_resume_cases (M := backend w) ((backend w).run (.start st) ms₁) u with
      hidle | ⟨r, op, next, hget, hglob, -⟩
    · show ((backend w).step _ (.resume u)).store.sessions.get k = some s
      rw [hidle]
      exact hs
    · have hguarded := Discipline.run_guarded (kinds_verified w) (Discipline.holds_start hstart)
        hendpoints hadm
      obtain ⟨hinv, hmay⟩ := hguarded.at hget
      have hsame := unchanged_after (w := w) hinv (hadm.at hget) hmay hs hkind hown
      rw [← hglob] at hsame
      exact hsame
  · exact hholds.inv.served t k (hholds.inv.codes t tenantId k u n hmade hu)
  · obtain ⟨asked, hserves, hmade⟩ :=
      System.run_yields (Q := SubjectPromise) subject_promised hanswers q r rfl rfl
    exact ⟨asked, hmade, hholds.inv.served t asked.subject hserves⟩

namespace SessionKinds

open Deployment

/-! ## Runs -/

/-- Has the event led its thread to session `k`? -/
def leadsTo (k : String) : Answered → Bool
  | ⟨_, .session (.findForTenant _ k' _), _⟩ => k' == k
  | ⟨_, .session (.findByRequestUri ..), some s⟩
  | ⟨_, .session (.findByAuthorizationCode ..), some s⟩
  | ⟨_, .session (.findByRefreshToken ..), some s⟩ => s.id == k
  | ⟨_, .interactive (.findForTenant ..), some s⟩ => s.issuerState == some k
  | _ => false

theorem leadsTo_of_serves (h : Serves g t k) : ∃ e ∈ g.trace, leadsTo k e = true := by
  cases h with
  | issuerState _ h => exact ⟨_, h, beq_self_eq_true k⟩
  | requestUri h hid | code h hid | refreshToken h hid => exact ⟨_, h, beq_iff_eq.mpr hid⟩
  | authSession h hs => exact ⟨_, h, beq_iff_eq.mpr hs⟩

/-- `NoPresentation`, evaluated. -/
def noPresentation (g : State) (k : String) : Bool :=
  (g.store.sessions.get k).all fun s => s.requestId.isNone

theorem noPresentation_sound (h : noPresentation g k = true) : NoPresentation g k := by
  intro s hs
  rw [noPresentation, hs] at h
  exact Option.isNone_iff_eq_none.mp h

def leadsToIssuance (g : State) (t : Nat) : Call → Bool
  | .session (.findForTenant _ k _) =>
    match g.requests[t]? with
    | some (.pushAuthorization _) => noPresentation g k
    | _ => true
  | .session (.findByRequestUri tenantId uri) =>
    ((SessionCall.findByRequestUri tenantId uri).reply g.store.clock g.store.sessions).all fun s =>
      noPresentation g s.id
  | .session (.findByAuthorizationCode tenantId code) =>
    ((SessionCall.findByAuthorizationCode tenantId code).reply g.store.clock g.store.sessions).all
      fun s => noPresentation g s.id
  | .session (.findByRefreshToken tenantId token) =>
    ((SessionCall.findByRefreshToken tenantId token).reply g.store.clock g.store.sessions).all
      fun s => noPresentation g s.id
  | .interactive (.findForTenant tenantId a) =>
    ((InteractiveCall.findForTenant tenantId a).reply g.store.interactive).all fun s =>
      s.issuerState.all (noPresentation g)
  | .session (.create k _ u) =>
    if u.requestId.isSome then
      (g.store.sessions.get k).any (·.requestId.isSome) ||
        ((g.store.sessions.get k).isNone && g.trace.all fun e => !leadsTo k e)
    else (g.store.sessions.get k).isNone
  | _ => true

theorem all_sound {β : Type} {o : Option β} {check : β → Bool} (h : o.all check = true) {b : β}
    (hb : o = some b) : check b = true := by
  subst hb
  exact h

theorem leadsToIssuance_sound (g : State) (t : Nat) (op : Call)
    (h : leadsToIssuance g t op = true) : LeadsToIssuance g t op := by
  cases op with
  | session c =>
    cases c with
    | findForTenant tenantId k type =>
      rintro ⟨q, hq⟩
      rw [leadsToIssuance, hq] at h
      exact noPresentation_sound h
    | findByRequestUri => exact fun s hs => noPresentation_sound (all_sound h hs)
    | findByAuthorizationCode => exact fun s hs => noPresentation_sound (all_sound h hs)
    | findByRefreshToken => exact fun s hs => noPresentation_sound (all_sound h hs)
    | create k tenantId u =>
      rw [leadsToIssuance] at h
      rw [LeadsToIssuance]
      split
      · rename_i hu
        rw [if_pos hu] at h
        rcases Bool.or_eq_true_iff.mp h with htaken | hnew
        · exact .inl ((Option.any_eq_true _ _).mp htaken)
        · obtain ⟨hnone, hall⟩ := Bool.and_eq_true_iff.mp hnew
          refine .inr ⟨Option.isNone_iff_eq_none.mp hnone, fun t' hserves => ?_⟩
          obtain ⟨e, he, hleads⟩ := leadsTo_of_serves hserves
          have hnot := List.all_eq_true.mp hall e he
          rw [hleads] at hnot
          cases hnot
      · rename_i hu
        rw [if_neg hu] at h
        exact Option.isNone_iff_eq_none.mp h
    | _ => trivial
  | interactive c =>
    cases c with
    | findForTenant tenantId a =>
      intro s k hs hk
      exact noPresentation_sound (all_sound (all_sound h hs) hk)
    | _ => trivial
  | chained c => trivial
  | env c => trivial

def presenting : World := deployment { actions := [.openid4vp_presentation "pid" none] }

def offerAndRequest : Store :=
  { freshStore with
    sessions := (Table.single
      { id := "running"
        tenantId := "tenant"
        createdAt := 0
        requestId := some "pid"
        walletNonce := some "nonce" }).upsert
      { id := "offer"
        tenantId := "tenant"
        createdAt := 0
        credentialPayload := some
          { flow := .authorization_code, credentialConfigurationIds := ["configuration"] } }
      id fun _ => rfl }

def openAuthSession : Schedule :=
  serve 0 (.interactiveInitial "tenant"
    { client_id := "wallet"
      interaction_types_supported := "openid4vp_presentation"
      code_challenge := some "s256-v"
      code_challenge_method := some "S256"
      authorization_details :=
        some [.obj [("credential_configuration_id", .str "configuration")]]
      issuer_state := some "offer" }) 13

def interactively : Schedule :=
  openAuthSession ++
  serve 1 (.interactiveFollowUp "tenant"
    { auth_session := unary 1, openid4vp_response := some "response" }) 20 ++
  serve 2 (tokenRequest (codeGrant 5 "v") []) 11

end SessionKinds

/-- A wallet that presents and is issued a token; the presentation request beside it is not
touched. -/
theorem kinds_apart_interactively : KindsApart presenting offerAndRequest interactively
    OwnVerifier :=
  kinds_apart _ _ _ (System.arrivals_of_all (by decide))
    (System.guarded_of_checks leadsToIssuance_sound (by decide +kernel))

/-- **Presentation requests are changed**: by the auth session they belong to, as an interactive
authorization is meant to work, and by a pushed request that names one as its issuer_state. -/
theorem not_kinds_apart :
    ¬KindsApart presenting offerAndRequest openAuthSession (fun _ _ _ => False) ∧
      ¬KindsApart presenting offerAndRequest (push 0 "running" "v") fun _ _ _ => False := by
  have hchanged (ms₁ ms₂ : Schedule) (k : String)
      (hkind : (((backend presenting).run (.start offerAndRequest) ms₁).store.sessions.get k).any
        (·.requestId.isSome) = true)
      (hdiffers : (((backend presenting).run (.start offerAndRequest) ms₁).store.sessions.get k).map
          (fun s => (s.walletNonce, s.request_uri)) ≠
        (((backend presenting).run (.start offerAndRequest)
          (ms₁ ++ [.resume 0])).store.sessions.get k).map fun s => (s.walletNonce, s.request_uri)) :
      ¬KindsApart presenting offerAndRequest (ms₁ ++ .resume 0 :: ms₂) fun _ _ _ => False := by
    intro h
    obtain ⟨s, hs, hsome⟩ := (Option.any_eq_true _ _).mp hkind
    have hsame := h.unchanged ms₁ ms₂ 0 rfl k s hs hsome id
    rw [hs, hsame] at hdiffers
    exact hdiffers rfl
  exact ⟨hchanged (openAuthSession.take 13) [] (unary 1) (by decide +kernel) (by decide +kernel),
    hchanged ((push 0 "running" "v").take 9) [.resume 0] "running" (by decide +kernel)
      (by decide +kernel)⟩

end Eudiplo
