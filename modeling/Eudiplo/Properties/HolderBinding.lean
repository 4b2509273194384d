import Eudiplo.Backend.CodeProvenance
import Eudiplo.Backend.Deployment
import Eudiplo.Verifier.Acceptance

/-!
# Is holder binding always enforced?

The key-binding JWT of an SD-JWT VC is verified against the nonce of the session, and only if
there is one.  A request for an existing session stores no nonce before its request object is
fetched, so a response that is posted before is accepted without a key-binding JWT:
`not_holder_bound`.

`holder_bound` holds for every run of requests, retrievals and responses in which a response with
an SD-JWT VC is verified for a session that has a nonce, and a client id or an expected origin: then
a completed session has a key-binding JWT over a nonce that was generated for this session before.
-/

namespace Eudiplo

open Concurrency Prog Discipline Storage Results

/-! ## The verifier of the backend -/

def Json.strings : Json → List String
  | .arr items => items.filterMap Json.str?
  | _ => []

/-- A posted `vp_token`. -/
def vpTokenOf : Json → VpToken
  | .obj members => members.map fun m => (m.1, m.2.strings)
  | _ => []

def sessionDataOf (s : Session) (skewSeconds : Option Nat) : SessionData where
  id := s.id
  tenantId := s.tenantId
  useDcApi := s.useDcApi
  requestObject := s.requestObject
  vp_nonce := s.vp_nonce
  clientId := s.clientId
  responseUri := s.responseUri
  skewSeconds

/-- **The verification a backend asks for** is `VerifyPresentationResponse`, and its SD-JWT library
checks the key-binding JWT when it is given a nonce. -/
structure PresentationVerifier (w : World) where
  world : ResponseWorld
  query : PresentationConfig → PresentationQuery
  skewSeconds : Session → Option Nat
  /-- The JWT is signed by the `cnf` key of the credential. -/
  signedByHolder : (credential : String) → KbPayload → Prop
  verifies : ∀ n q credentials, w.answer n (.verifyPresentation q) = .ok (.ok credentials) →
    ∃ out, execute world (vpTokenOf q.token) (query q.config)
      (sessionDataOf q.session (skewSeconds q.session)) = .ok out
  keyBinding : ∀ credential options status result nonce,
    world.sdJwt credential options status = .ok result → options.keyBindingNonce = some nonce →
      nonce ≠ "" → ∃ kb, result.kb = some kb ∧ signedByHolder credential kb ∧ kb.nonce = nonce ∧
        ∀ aud, options.keyBindingAudience = some aud → kb.aud = some aud

/-! ## The claim -/

/-- Thread `t` wrote nonce `n` into session `k`. -/
def WroteNonce (g : State) (t : Nat) (k n : String) : Prop :=
  ∃ u : SessionUpdate, u.vp_nonce = some n ∧
    ((∃ tenantId m, g.Made t (.session (.updateForTenant tenantId k u)) m) ∨
      ∃ tenantId s, g.Made t (.session (.create k tenantId u)) s)

/-- **The verifier generated the nonce for this session**: who wrote it has drawn it. -/
def NonceIssued (g : State) (k n : String) : Prop := ∃ t, Drew g t n ∧ WroteNonce g t k n

variable {w : World}

/-- The credential came with a key-binding JWT over a nonce issued for the session and over the
client id or the expected origin of the request. -/
def HolderBound (v : PresentationVerifier w) (g : State) (s : Session) (credential : String) :
    Prop :=
  ∃ request options status result kb aud,
    requestOf v.world (sessionDataOf s (v.skewSeconds s)) = .ok request ∧
    v.world.sdJwt credential options status = .ok result ∧ result.kb = some kb ∧
    v.signedByHolder credential kb ∧ NonceIssued g s.id kb.nonce ∧
    keyBindingAudience v.world.toFormatWorld s.useDcApi s.clientId request = some aud ∧
    kb.aud = some aud

/-- `credential` is presented as an SD-JWT VC. -/
def PresentsSdJwt (v : PresentationVerifier w) (q : VerifyPresentation) (credential : String) :
    Prop :=
  ∃ request credentialQuery, ∃ presented ∈ presentedOf (vpTokenOf q.token),
    requestOf v.world (sessionDataOf q.session (v.skewSeconds q.session)) = .ok request ∧
    (v.query q.config).dcql_query.find? presented.1 = some credentialQuery ∧
    presentationFormat request credentialQuery = .ok "dc+sd-jwt" ∧ credential ∈ presented.2

/-- The call writes `u` into session `k`. -/
def SavesTo (k : String) (u : SessionUpdate) : Call → Prop
  | .session (.create id _ u') | .session (.updateForTenant _ id u')
  | .session (.updateUnconsumedForTenant _ id u') | .session (.changeState _ id u')
  | .session (.changeStateFrom _ id _ u') => id = k ∧ u' = u
  | _ => False

/-- **Holder binding is enforced**: who completes a session has verified a response to it and stores
its credentials, and every SD-JWT VC of a verified response is bound by what happened before. -/
structure HolderBindingEnforced (v : PresentationVerifier w) (g : State) : Prop where
  verified : ∀ t op a k u, g.Made t op a → SavesTo k u op → u.status = some .completed →
    ∃ q credentials, g.Made t (.env (.ask (.verifyPresentation q))) (.ok (.ok credentials)) ∧
      q.session.id = k ∧ u.credentials = some credentials
  bound : ∀ later past t q credentials, g.trace = later ++
      (⟨t, .env (.ask (.verifyPresentation q)), .ok (.ok credentials)⟩ : Answered) :: past →
    ∀ credential, PresentsSdJwt v q credential →
      HolderBound v { g with trace := past } q.session credential

def Request.isPresentationFlow : Request → Bool
  | .createPresentation .. | .retrievePresentation .. | .presentation .. => true
  | _ => false

/-! ## The condition -/

/-- The session has a nonce, and an audience is expected. -/
def KnowsBinding (v : PresentationVerifier w) (s : Session) : Prop :=
  (∃ n, s.vp_nonce = some n ∧ n ≠ "") ∧
    ∀ request, requestOf v.world (sessionDataOf s (v.skewSeconds s)) = .ok request →
      (keyBindingAudience v.world.toFormatWorld s.useDcApi s.clientId request).isSome = true

/-- **The condition**: a response with an SD-JWT VC is verified for a session that has both. -/
def VerifiedWithNonce (v : PresentationVerifier w) (_ : State) (_ : Nat) : Call → Prop
  | .env (.ask (.verifyPresentation q)) =>
    (∃ credential, PresentsSdJwt v q credential) → KnowsBinding v q.session
  | _ => True

namespace HolderBinding

variable {v : PresentationVerifier w} {g g' : State} {tid t : Nat} {k n : String} {op : Call}

theorem NonceIssued.extends (h : NonceIssued g k n) (he : g.Extends g') : NonceIssued g' k n := by
  obtain ⟨t, hdrew, u, hu, hwrote⟩ := h
  refine ⟨t, Drew.extends hdrew he, u, hu, hwrote.imp ?_ ?_⟩
  · rintro ⟨tenantId, m, hmade⟩
    exact ⟨tenantId, m, hmade.extends he⟩
  · rintro ⟨tenantId, s, hmade⟩
    exact ⟨tenantId, s, hmade.extends he⟩

/-! ## What the flow writes -/

inductive Harmless : Call → Prop where
  | query {c : Call} (h : c.isQuery = true) (hne : ∀ q, c ≠ .env (.ask (.verifyPresentation q))) :
    Harmless c
  | update {tenantId k : String} {u : SessionUpdate} (h : u.vp_nonce = none)
      (hs : u.status = none) :
    Harmless (.session (.updateForTenant tenantId k u))
  | fail {tenantId k : String} {u : SessionUpdate} (h : u.vp_nonce = none)
      (hs : u.status ≠ some .completed) :
    Harmless (.session (.updateUnconsumedForTenant tenantId k u))
  | fetched {tenantId k : String} {from_ : List SessionStatus} :
    Harmless (.session (.changeStateFrom tenantId k from_ (stateUpdate .fetched)))

/-- **What a thread may do**: store a nonce it has drawn, verify a response to a session it has
found, and complete a session after that. -/
inductive BindingMay (g : State) (tid : Nat) : Call → Prop where
  | harmless {c : Call} (h : Harmless c) : BindingMay g tid c
  | create {tenantId k : String} {u : SessionUpdate} (hs : u.status = none)
      (h : ∀ n, u.vp_nonce = some n → Drew g tid n) :
    BindingMay g tid (.session (.create k tenantId u))
  | update {tenantId k : String} {u : SessionUpdate} (hs : u.status = none)
      (h : ∀ n, u.vp_nonce = some n → Drew g tid n) :
    BindingMay g tid (.session (.updateForTenant tenantId k u))
  | verify {q : VerifyPresentation}
      (h : ∃ nonce, g.Made tid (.session (.findForWalletRequest nonce)) (some q.session)) :
    BindingMay g tid (.env (.ask (.verifyPresentation q)))
  | complete {tenantId k : String} {u : SessionUpdate} (hu : u.vp_nonce = none)
      (h : ∃ q credentials, g.Made tid (.env (.ask (.verifyPresentation q)))
        (.ok (.ok credentials)) ∧
        q.session.id = k ∧ u.credentials = some credentials) :
    BindingMay g tid (.session (.updateUnconsumedForTenant tenantId k u))

theorem apply_vp_nonce {s : Session} {u : SessionUpdate} (h : (s.apply u).vp_nonce = some n) :
    u.vp_nonce = some n ∨ s.vp_nonce = some n := by
  have heq : (s.apply u).vp_nonce = u.vp_nonce.or s.vp_nonce := rfl
  rw [heq] at h
  exact (Option.or_eq_some_iff.mp h).imp_right (·.2)

/-- **The nonce of a row** was there before, or the call stored it. -/
theorem nonce_after {s' : Session}
    (hs' : ((backend w).after g tid op).store.sessions.get k = some s')
    (hn : s'.vp_nonce = some n) :
    (∃ s, g.store.sessions.get k = some s ∧ s.vp_nonce = some n) ∨
      ∃ u, SavesTo k u op ∧ u.vp_nonce = some n := by
  rcases session_after hs' with ⟨s, hs, hsame | ⟨c, rfl, hchange⟩⟩ | ⟨tenantId, u, rfl, -, rfl⟩
  · exact .inl ⟨s, hs, hsame ▸ hn⟩
  · have hid : s.id = k := Table.get_key hs
    cases hchange with
    | same => exact .inl ⟨s', hs, hn⟩
    | counted => exact .inl ⟨s, hs, hn⟩
    | anonymized => exact .inl ⟨s, hs, hn⟩
    | merged h =>
      exact (apply_vp_nonce (s := s) hn).symm.imp (⟨s, hs, ·⟩) (⟨_, ⟨h.symm.trans hid, rfl⟩, ·⟩)
    | @updated _ u h =>
      refine (apply_vp_nonce (s := s) hn).symm.imp (⟨s, hs, ·⟩) fun hu => ⟨u, ?_, hu⟩
      cases c with
      | updateForTenant => exact ⟨h.2.2.symm.trans hid, h.1⟩
      | updateUnconsumedForTenant => exact ⟨h.2.2.1.symm.trans hid, h.1⟩
      | consumeRequestUri =>
        rw [← h.1] at hu
        cases hu
      | changeState => exact ⟨h.2.2.symm.trans hid, h.1⟩
      | changeStateFrom => exact ⟨h.2.2.1.symm.trans hid, h.1⟩
      | _ => exact h.elim
  · exact .inr ⟨u, ⟨rfl, rfl⟩, (apply_vp_nonce hn).resolve_right fun h => nomatch h⟩

theorem issued_after {u : SessionUpdate} (hmay : BindingMay g tid op) (h : SavesTo k u op)
    (hn : u.vp_nonce = some n) : NonceIssued ((backend w).after g tid op) k n := by
  have hext : g.Extends ((backend w).after g tid op) := System.extends_after _ _ _
  cases hmay with
  | harmless hop =>
    cases hop with
    | query hquery =>
      cases op with
      | session c => cases c <;> first | exact h.elim | cases hquery
      | _ => exact h.elim
    | update hnone => cases hnone.symm.trans (h.2 ▸ hn)
    | fail hnone => cases hnone.symm.trans (h.2 ▸ hn)
    | fetched =>
      obtain ⟨-, rfl⟩ := h
      cases hn
  | create _ hdrew =>
    obtain ⟨rfl, rfl⟩ := h
    exact ⟨tid, Drew.extends (hdrew n hn) hext, _, hn, .inr ⟨_, _, System.after_made _ _ _⟩⟩
  | update _ hdrew =>
    obtain ⟨rfl, rfl⟩ := h
    exact ⟨tid, Drew.extends (hdrew n hn) hext, _, hn, .inl ⟨_, _, System.after_made _ _ _⟩⟩
  | verify => exact h.elim
  | complete hnone => cases hnone.symm.trans (h.2 ▸ hn)

theorem completed_after {u : SessionUpdate} (hmay : BindingMay g tid op) (h : SavesTo k u op)
    (hs : u.status = some .completed) : ∃ q credentials,
      g.Made tid (.env (.ask (.verifyPresentation q))) (.ok (.ok credentials)) ∧
        q.session.id = k ∧ u.credentials = some credentials := by
  cases hmay with
  | harmless hop =>
    cases hop with
    | query hquery =>
      cases op with
      | session c => cases c <;> first | exact h.elim | cases hquery
      | _ => exact h.elim
    | update _ hnone => cases hnone.symm.trans (h.2 ▸ hs)
    | fail _ hne => exact absurd (h.2 ▸ hs) hne
    | fetched =>
      obtain ⟨-, rfl⟩ := h
      cases hs
  | create hnone => cases hnone.symm.trans (h.2 ▸ hs)
  | update hnone => cases hnone.symm.trans (h.2 ▸ hs)
  | verify => exact h.elim
  | complete _ hverified =>
    obtain ⟨rfl, rfl⟩ := h
    exact hverified

/-! ## The discipline -/

/-- **The invariant**: the nonces of rows and of sessions that were found are issued, those of
sessions a response was verified for were issued before, and who completes a session has verified a
response to it. -/
structure BindingInv (v : PresentationVerifier w) (g : State) : Prop where
  rows : ∀ k s n, g.store.sessions.get k = some s → s.vp_nonce = some n → NonceIssued g k n
  found : ∀ t nonce s n, g.Made t (.session (.findForWalletRequest nonce)) (some s) →
    s.vp_nonce = some n → NonceIssued g s.id n
  asked : ∀ later past t q a, g.trace = later ++
      (⟨t, .env (.ask (.verifyPresentation q)), a⟩ : Answered) :: past →
    ((∃ credential, PresentsSdJwt v q credential) → KnowsBinding v q.session) ∧
      ∀ n, q.session.vp_nonce = some n → NonceIssued { g with trace := past } q.session.id n
  completed : ∀ t op a k u, g.Made t op a → SavesTo k u op → u.status = some .completed →
    ∃ q credentials, g.Made t (.env (.ask (.verifyPresentation q))) (.ok (.ok credentials)) ∧
      q.session.id = k ∧ u.credentials = some credentials

/-- **One call keeps the invariant.** -/
theorem binding_after (hinv : BindingInv v g) (hadmits : VerifiedWithNonce v g tid op)
    (hmay : BindingMay g tid op) : BindingInv v ((backend w).after g tid op) := by
  have hext : g.Extends ((backend w).after g tid op) := System.extends_after _ _ _
  constructor
  · intro k s n hs hn
    rcases nonce_after hs hn with ⟨s₀, hs₀, hn₀⟩ | ⟨u, hwrites, hu⟩
    · exact NonceIssued.extends (hinv.rows k s₀ n hs₀ hn₀) hext
    · exact issued_after hmay hwrites hu
  · intro t nonce s n hmade hn
    rcases List.mem_cons.mp hmade with heq | hold
    · injection heq with _ hop hres
      subst hop
      have hreply : (SessionCall.findForWalletRequest nonce).reply g.store.clock g.store.sessions =
          some s := (eq_of_heq hres).symm
      exact NonceIssued.extends (hinv.rows _ s n (found_row hreply) hn) hext
    · exact NonceIssued.extends (hinv.found t nonce s n hold hn) hext
  · intro later past t q a htrace
    cases later with
    | nil =>
      -- the newest event: what was found of the session is still in the history
      injection htrace with heq hpast
      injection heq with _ hop
      subst hop hpast
      refine ⟨hadmits, fun n hn => ?_⟩
      cases hmay with
      | harmless hop =>
        cases hop with
        | query _ hne => exact absurd rfl (hne q)
      | verify h =>
        obtain ⟨nonce, hfound⟩ := h
        exact hinv.found tid nonce q.session n hfound hn
    | cons e later =>
      injection htrace with _ hold
      exact hinv.asked later past t q a hold
  · intro t op' a k u hmade hwrites hstatus
    rcases List.mem_cons.mp hmade with heq | hold
    · injection heq with ht hop
      subst hop ht
      obtain ⟨q, credentials, hverified, hid⟩ := completed_after hmay hwrites hstatus
      exact ⟨q, credentials, hverified.extends hext, hid⟩
    · obtain ⟨q, credentials, hverified, hid⟩ := hinv.completed t op' a k u hold hwrites hstatus
      exact ⟨q, credentials, hverified.extends hext, hid⟩

theorem binding_same (hinv : BindingInv v g) (htrace : g'.trace = g.trace)
    (hrows : g'.store.sessions = g.store.sessions) : BindingInv v g' := by
  have hissued {k n : String} (h : NonceIssued g k n) : NonceIssued g' k n := by
    unfold NonceIssued Drew WroteNonce Global.Made at *
    rwa [htrace]
  have hmade {t : Nat} {op : Call} {a : Reply op} (h : g'.Made t op a) : g.Made t op a := by
    unfold Global.Made at *
    rwa [← htrace]
  refine ⟨fun k s n hs hn => hissued (hinv.rows k s n (hrows ▸ hs) hn),
    fun t nonce s n h hn => hissued (hinv.found t nonce s n (hmade h) hn),
    fun later past t q a h => hinv.asked later past t q a (htrace ▸ h),
    fun t op a k u h hwrites hstatus => ?_⟩
  obtain ⟨q, credentials, hverified, hid⟩ :=
    hinv.completed t op a k u (hmade h) hwrites hstatus
  refine ⟨q, credentials, ?_, hid⟩
  unfold Global.Made at *
  rwa [htrace]

/-- **The discipline of holder binding.** -/
def holders (v : PresentationVerifier w) : Discipline (backend w) where
  inv := BindingInv v
  rely := fun _ _ _ => True
  admits := VerifiedWithNonce v
  may := BindingMay
  allowed := fun r => r.isPresentationFlow = true
  post := fun _ _ _ _ => True
  rely_refl := fun _ _ => trivial
  rely_trans := fun _ _ => trivial
  step := fun hinv _ hadmits hmay => ⟨binding_after hinv hadmits hmay, fun _ _ => trivial⟩
  arrive := fun hinv _ => ⟨binding_same hinv rfl rfl, fun _ _ => trivial⟩
  pass := fun _ hinv => ⟨binding_same hinv rfl rfl, fun _ => trivial⟩

/-! ## Requests and retrievals -/

variable {r : Request}

theorem safe_harmless {α : Type} {p : Api α} {Q : State → α → Prop}
    (hg : (holders v).At tid r g) (hp : p.Only Harmless) (hy : (backend w).Yields tid Q p g) :
    (holders v).Safe tid Q p g :=
  Safe.of_yields hg hp (fun _ _ _ _ hop _ => .harmless hop) hy

theorem safe_passing {α : Type} {p : Api α} (hg : (holders v).At tid r g)
    (hp : p.Only Harmless) : (holders v).Safe tid (fun _ _ => True) p g :=
  safe_harmless hg hp (System.yields_true p)

theorem harmless_now : now.Only Harmless := only_now.mpr (.query rfl fun _ h => nomatch h)

theorem harmless_fresh : fresh.Only Harmless := only_fresh.mpr (.query rfl fun _ h => nomatch h)

theorem harmless_sessions {c : SessionCall} (h : c.isQuery = true) : (sessions c).Only Harmless :=
  only_sessions.mpr (.query h fun _ h => nomatch h)

def Question.isVerification : Question → Bool
  | .verifyPresentation _ => true
  | _ => false

theorem harmless_ask {q : Question} (h : (Call.env (.ask q)).isQuery = true)
    (hne : Question.isVerification q = false) : (ask q).Only Harmless :=
  only_ask (.query h fun v heq => by
    cases heq
    cases hne)

theorem harmless_update {tenantId : String} {u : SessionUpdate} (h : u.vp_nonce = none)
    (hs : u.status = none) : (updateForTenant tenantId k u).Only Harmless :=
  only_sessions.mpr (.update h hs)

theorem safe_storeNonce {tenantId : String} {u : SessionUpdate} (hs : u.status = none)
    (h : ∀ n, u.vp_nonce = some n → Drew g tid n) :
    (holders v).Safe tid (fun _ _ => True) (updateForTenant tenantId k u) g :=
  Safe.invoke fun _ hl _ =>
    ⟨.update hs fun n hn => Drew.extends (h n hn) hl.hist, fun _ _ => trivial⟩

theorem safe_createSession {tenantId : String} {u : SessionUpdate} (hs : u.status = none)
    (h : ∀ n, u.vp_nonce = some n → Drew g tid n) :
    (holders v).Safe tid (fun _ _ => True) (createSession k tenantId u) g :=
  Safe.invoke fun _ hl _ =>
    ⟨.create hs fun n hn => Drew.extends (h n hn) hl.hist, fun _ _ => trivial⟩

theorem safe_createAuthorizationRequest (hg : (holders v).At tid r g) (noRedirect : Bool) :
    (holders v).Safe tid (fun _ _ => True) (createAuthorizationRequest k noRedirect) g := by
  unfold createAuthorizationRequest
  refine (safe_passing hg (only_lookup fun _ => harmless_sessions rfl)).bind hg
    fun session g₁ _ hg₁ _ => ?_
  refine (safe_passing hg₁ (Only.onlyIf (harmless_update rfl rfl))).bind hg₁ fun _ g₂ _ hg₂ _ => ?_
  refine (safe_passing hg₂ (harmless_ask rfl rfl)).bind hg₂
    fun config g₃ _ hg₃ _ => ?_
  refine (safe_harmless hg₃ harmless_fresh yields_fresh).bind hg₃ fun nonce g₄ _ hg₄ hdrew => ?_
  refine (safe_storeNonce rfl fun n hn => ?_).bind hg₄ fun _ g₅ _ hg₅ _ => ?_
  · cases hn
    exact hdrew
  · refine safe_passing hg₅ ((harmless_ask rfl rfl).bind fun key => ?_)
    exact Only.bind (harmless_update rfl rfl) fun _ => harmless_ask rfl rfl

theorem harmless_webhook (config : PresentationConfig) (tenantId : String) :
    (onlyIf (truthy config.webhookEndpointId) none
      (ask (.webhookEndpoint tenantId config.webhookEndpointId))).Only Harmless :=
  Only.onlyIf (harmless_ask rfl rfl)

theorem safe_createRedirectUriRequest (hg : (holders v).At tid r g) (config : PresentationConfig)
    (values : PresentationRequestOptions) (tenantId requestId : String) :
    (holders v).Safe tid (fun _ _ => True)
      (createRedirectUriRequest w config values tenantId requestId k) g := by
  unfold createRedirectUriRequest
  refine (safe_passing hg harmless_fresh).bind hg fun walletNonce g₁ _ hg₁ _ => ?_
  refine (safe_harmless hg₁ harmless_fresh yields_fresh).bind hg₁ fun nonce g₂ _ hg₂ hdrew => ?_
  refine (safe_passing hg₂ (harmless_ask rfl rfl)).bind hg₂
    fun parameters g₃ he₃ hg₃ _ => ?_
  refine (safe_passing hg₃ harmless_now).bind hg₃ fun t g₄ he₄ hg₄ _ => ?_
  have hdrawn {g' : State} (he : g₄.Extends g') : ∀ n, some nonce = some n → Drew g' tid n := by
    rintro n ⟨⟩
    exact Drew.extends hdrew ((he₃.trans he₄).trans he)
  split
  · refine (safe_passing hg₄ (harmless_webhook config tenantId)).bind hg₄ fun _ g₅ he₅ hg₅ _ => ?_
    refine (safe_createSession rfl (hdrawn he₅)).bind hg₅ fun _ _ _ _ _ => ?_
    exact Safe.ret fun _ _ => trivial
  · refine (safe_storeNonce rfl (hdrawn (.refl _))).bind hg₄ fun _ _ _ _ _ => ?_
    exact Safe.ret fun _ _ => trivial

theorem safe_createSignedRequest (hg : (holders v).At tid r g) (config : PresentationConfig)
    (values : PresentationRequestOptions) (tenantId requestId : String) (useDcApi : Bool) :
    (holders v).Safe tid (fun _ _ => True)
      (createSignedRequest w config values tenantId requestId k useDcApi) g := by
  unfold createSignedRequest
  refine (safe_passing hg harmless_fresh).bind hg fun walletNonce g₁ _ hg₁ _ => ?_
  refine (safe_passing hg₁ (harmless_ask rfl rfl)).bind hg₁
    fun parameters g₂ _ hg₂ _ => ?_
  refine (safe_passing hg₂ harmless_now).bind hg₂ fun t g₃ _ hg₃ _ => ?_
  split
  · refine (safe_passing hg₃ (harmless_webhook config tenantId)).bind hg₃ fun _ g₄ _ hg₄ _ => ?_
    have hnone : (freshRequestUpdate w config values requestId walletNonce ‹_›
        (requestUpdate walletNonce parameters.2 parameters.1
          (t.plusSeconds (config.lifeTime.getD 300)) useDcApi)).vp_nonce = none := rfl
    refine (safe_createSession rfl fun n hn => nomatch hnone.symm.trans hn).bind hg₄
      fun session g₅ _ hg₅ _ => ?_
    refine (safe_createAuthorizationRequest hg₅ false).bind hg₅ fun jwt g₆ _ hg₆ _ => ?_
    exact safe_passing hg₆ (Only.bind (harmless_update rfl rfl) fun _ => trivial)
  · exact safe_passing hg₃ (Only.bind (harmless_update rfl rfl) fun _ => trivial)

theorem safe_createRequest (hg : (holders v).At tid r g) (requestId tenantId : String)
    (values : PresentationRequestOptions) (useDcApi : Bool) :
    (holders v).Safe tid (fun _ _ => True)
    (createRequest w requestId values tenantId useDcApi) g := by
  have hsession : (requestSession values).Only Harmless := by
    unfold requestSession
    split
    · trivial
    · exact harmless_fresh
  unfold createRequest
  refine (safe_passing hg (harmless_ask rfl rfl)).bind hg
    fun config g₁ _ hg₁ _ => ?_
  refine (safe_passing hg₁ hsession).bind hg₁ fun id g₂ _ hg₂ _ => ?_
  split
  · exact Safe.ensure fun _ => safe_createRedirectUriRequest hg₂ config values
      tenantId requestId
  · exact safe_createSignedRequest hg₂ config values tenantId requestId useDcApi

theorem safe_retrieve (hg : (holders v).At tid r g) (nonce : String) (noRedirect : Bool) :
    (holders v).Safe tid (fun _ _ => True) (retrievePresentationRequest nonce noRedirect) g := by
  unfold retrievePresentationRequest
  refine (safe_passing hg (only_lookup fun _ => harmless_sessions rfl)).bind hg
    fun session g₁ _ hg₁ _ => ?_
  refine (safe_passing hg₁ harmless_now).bind hg₁ fun t g₂ _ hg₂ _ => ?_
  refine Safe.ofExcept fun _ _ => ?_
  have hserve : (holders v).Safe tid (fun _ _ => True)
      (serveRequestObject session noRedirect) g₂ := by
    unfold serveRequestObject
    split
    · exact safe_passing hg₂ (Only.bind (Only.onlyIf (harmless_update rfl rfl)) fun _ => trivial)
    · refine (safe_createAuthorizationRequest hg₂ noRedirect).bind hg₂ fun _ g₃ _ hg₃ _ => ?_
      exact safe_passing hg₃ (Only.bind (harmless_update rfl rfl) fun _ => trivial)
  refine hserve.bind hg₂ fun _ g₃ _ hg₃ _ => safe_passing hg₃ ?_
  exact Only.bind (only_sessions.mpr .fetched) fun _ => trivial

/-! ## Responses -/

theorem harmless_resolveWebhook (session : Session) (endpointId : Option String) :
    (resolveWebhook session endpointId).Only Harmless := by
  unfold resolveWebhook
  split
  · trivial
  · split
    · exact harmless_ask rfl rfl
    · trivial

theorem harmless_publishResult (webhook : Option String) (sessionId : String)
    (status : SessionStatus) : (publishResult webhook sessionId status).Only Harmless := by
  unfold publishResult
  split
  · trivial
  · refine (harmless_ask rfl rfl).attempt.bind fun answered => ?_
    cases answered with
    | ok redirectUri =>
      simp only
      split <;> trivial
    | error e => trivial

theorem harmless_failPresentation (session : Session) (failure : PresentationFailure)
    (webhook : Option String) : (failPresentation session failure webhook).Only Harmless := by
  have hstatus : (failUpdate failure).status ≠ some .completed := fun h => by cases h
  unfold failPresentation
  refine Only.bind (only_sessions.mpr (.fail rfl hstatus)) fun failed => ?_
  split
  · exact (harmless_publishResult _ _ _).bind fun _ => trivial
  · trivial

theorem harmless_rejectPresentation (session : Session) (failure : PresentationFailure)
    (webhook : Option String) : (rejectPresentation session failure webhook).Only Harmless := by
  refine (harmless_failPresentation _ _ _).bind fun recorded => ?_
  simp only
  split <;> trivial

theorem harmless_handleWalletError (session : Session) (e : WalletError) :
    (handleWalletError session e).Only Harmless := by
  have hendpoint : (sessionWebhookEndpoint session).Only Harmless := by
    unfold sessionWebhookEndpoint
    split
    · trivial
    · exact (harmless_ask rfl rfl).bind fun _ => trivial
    · trivial
  have hwebhook : (resolveFailureWebhook session).Only Harmless :=
    (hendpoint.bind fun _ => harmless_resolveWebhook _ _).attempt.bind fun answered => by
      cases answered <;> trivial
  unfold handleWalletError
  refine hwebhook.bind fun _ => (harmless_failPresentation _ _ _).bind fun failure => ?_
  cases failure with
  | none => trivial
  | some redirect =>
    simp only
    split <;> trivial

theorem harmless_decrypt (session : Session) (body : AuthorizationResponse) :
    (decryptAuthorizationResponse w session body).Only Harmless := by
  unfold decryptAuthorizationResponse
  split
  · split
    · trivial
    · split <;> trivial
    · trivial
  · exact Only.ensure fun _ => harmless_ask rfl rfl

/-- The thread found the session under the identifier of the wallet. -/
def FoundByWallet (g : State) (tid : Nat) (s : Session) : Prop :=
  ∃ nonce, g.Made tid (.session (.findForWalletRequest nonce)) (some s)

theorem FoundByWallet.extends {s : Session} (h : FoundByWallet g tid s) (he : g.Extends g') :
    FoundByWallet g' tid s := by
  obtain ⟨nonce, hmade⟩ := h
  exact ⟨nonce, hmade.extends he⟩

/-- **A session is completed by who verified a response to it.** -/
theorem safe_processPresentation (hg : (holders v).At tid r g) {s : Session}
    (hfound : FoundByWallet g tid s) (sendResponse : Bool) (token : Json) (state : Option String) :
    (holders v).Safe tid (fun _ _ => True) (processPresentation s sendResponse token state) g := by
  unfold processPresentation
  refine (safe_passing hg (harmless_ask rfl rfl)).bind hg fun config g₁ he₁ hg₁ _ => ?_
  refine (safe_passing hg₁ (harmless_resolveWebhook _ _)).bind hg₁ fun webhook g₂ he₂ hg₂ _ => ?_
  have hverify : (holders v).Safe tid (fun g' a =>
      g'.Made tid (.env (.ask (.verifyPresentation ⟨config, s, token⟩))) (.ok a))
      (ask (.verifyPresentation ⟨config, s, token⟩)) g₂ := by
    have hcall : (holders v).Safe tid (fun g' a =>
        g'.Made tid (.env (.ask (.verifyPresentation ⟨config, s, token⟩))) a)
        (Prog.invoke (Call.env (.ask (.verifyPresentation ⟨config, s, token⟩)))) g₂ :=
      Safe.invoke fun g' hl _ =>
        ⟨.verify (hfound.extends ((he₁.trans he₂).trans hl.hist)),
        fun g'' hl' => (System.after_made _ _ _).extends hl'.hist⟩
    refine hcall.bind hg₂ fun a g' _ _ ha => ?_
    cases a with
    | ok a => exact Safe.ret fun g'' hl => ha.extends hl.hist
    | error e => trivial
  refine hverify.bind hg₂ fun verified g₃ _ hg₃ hmade => ?_
  cases verified with
  | error failure => exact safe_passing hg₃ (harmless_rejectPresentation _ _ _)
  | ok credentials =>
    refine (safe_passing hg₃ harmless_fresh).bind hg₃ fun responseCode g₄ he₄ hg₄ _ => ?_
    split
    · exact safe_passing hg₄ (harmless_rejectPresentation _ _ _)
    · have hcomplete : (holders v).Safe tid (fun _ _ => True)
          (completePresentation s credentials responseCode) g₄ := by
        unfold completePresentation
        refine (safe_passing hg₄ harmless_now).bind hg₄ fun t g₅ he₅ hg₅ _ => ?_
        have hupdate : (holders v).Safe tid (fun _ _ => True) (updateIfUnconsumed s.tenantId s.id
            (completeUpdate credentials responseCode t)) g₅ :=
          Safe.invoke fun g' hl _ => ⟨.complete rfl ⟨_, credentials,
            hmade.extends ((he₄.trans he₅).trans hl.hist), rfl, rfl⟩, fun _ _ => trivial⟩
        exact hupdate.bind hg₅ fun _ _ _ _ _ => Safe.check fun _ _ _ => trivial
      refine hcomplete.bind hg₄ fun _ g₅ _ hg₅ _ => safe_passing hg₅ ?_
      refine (harmless_publishResult _ _ _).bind fun published => ?_
      simp only
      split
      · trivial
      · split <;> trivial

theorem safe_getResponse (hg : (holders v).At tid r g) (body : AuthorizationResponse)
    (nonce : String) : (holders v).Safe tid (fun _ _ => True) (getResponse w body nonce) g := by
  have hfind : (holders v).Safe tid (fun g' s => FoundByWallet g' tid s)
      (getForWalletRequest nonce) g := by
    refine safe_harmless hg (only_lookup fun _ => harmless_sessions rfl) ?_
    refine (yields_lookup (fun k g' s => g'.Made tid (.session (.findForWalletRequest k)) s)
      (fun _ _ _ _ he h => h.extends he) fun _ _ => yields_sessions _).imp ?_
    rintro s g' - ⟨k, -, -, hmade⟩
    exact ⟨k, hmade⟩
  unfold getResponse
  refine hfind.bind hg fun s g₁ _ hg₁ hfound => Safe.ensure fun _ => ?_
  refine (safe_passing hg₁ harmless_now).bind hg₁ fun t g₂ he₂ hg₂ _ => ?_
  refine Safe.ofExcept fun _ _ => ?_
  split
  · exact safe_passing hg₂ (harmless_handleWalletError _ _)
  · refine (safe_passing hg₂ (harmless_decrypt _ _)).bind hg₂ fun decrypted g₃ he₃ hg₃ _ => ?_
    cases decrypted with
    | walletError e => exact safe_passing hg₃ (harmless_handleWalletError _ _)
    | malformed issues => trivial
    | vpToken token state =>
      refine Safe.ensure fun _ => ?_
      exact safe_processPresentation hg₃ ((hfound.extends he₂).extends he₃) _ _ _

/-- **Every request keeps to the discipline.** -/
theorem holders_verified : (holders v).Verified := by
  intro g r _ hallowed hg
  cases r with
  | createPresentation tenantId requestId values useDcApi =>
    exact (safe_createRequest hg requestId tenantId values useDcApi).bind hg fun _ _ _ _ _ =>
      Safe.ret fun _ _ => trivial
  | retrievePresentation nonce noRedirect =>
    exact (safe_retrieve hg nonce noRedirect).bind hg fun _ _ _ _ _ =>
      Safe.ret fun _ _ => trivial
  | presentation body nonce =>
    exact (safe_getResponse hg body nonce).bind hg fun _ _ _ _ _ =>
      Safe.ret fun _ _ => trivial
  | _ => cases hallowed

/-! ## What was verified -/

/-- **A verified SD-JWT VC is bound** if the session has a nonce that was issued. -/
theorem bound_of_verified {q : VerifyPresentation} {credentials : List Json} {credential : String}
    {m : Nat} (hanswer : w.answer m (.verifyPresentation q) = .ok (.ok credentials))
    (hknows : KnowsBinding v q.session)
    (hissued : ∀ n, q.session.vp_nonce = some n → NonceIssued g q.session.id n)
    (hpresents : PresentsSdJwt v q credential) : HolderBound v g q.session credential := by
  obtain ⟨request, credentialQuery, presented, hpresented, hrequest, hfind, hformat, hcredential⟩ :=
    hpresents
  obtain ⟨-, request', hrequest', haccepted⟩ :=
    execute_accepts.mp (v.verifies m q credentials hanswer)
  obtain rfl : request' = request := Except.ok.inj (hrequest'.symm.trans hrequest)
  obtain ⟨credentialQuery', options, format, selections, hfind', haccepted⟩ :=
    haccepted presented hpresented
  obtain rfl := Option.some.inj (hfind.symm.trans hfind')
  obtain rfl := Except.ok.inj (haccepted.sent.symm.trans hformat)
  obtain ⟨claims, hverified⟩ := haccepted.credentials credential hcredential
  obtain ⟨_, _, _, _, _, result, hbinding, hverify, -⟩ := sdJwt_of_verifyOne hverified
  cases hbinding
  obtain ⟨⟨status, hlibrary⟩, -⟩ := of_sdJwtVerify hverify
  obtain ⟨⟨n, hn, hne⟩, haudience⟩ := hknows
  obtain ⟨aud, haud⟩ := Option.isSome_iff_exists.mp (haudience request' hrequest)
  obtain ⟨kb, hkb, hsigned, hnonce, hkbAud⟩ := v.keyBinding _ _ _ _ n hlibrary hn hne
  have hrecorded : NonceIssued g q.session.id kb.nonce := by
    rw [hnonce]
    exact hissued n hn
  refine ⟨request', _, status, result, kb, aud, hrequest, hlibrary, hkb, hsigned, hrecorded, haud,
    hkbAud aud ?_⟩
  rw [sdJwtOptions_keyBindingAudience]
  exact haud

end HolderBinding

open HolderBinding

/-- **Holder binding is enforced** in every run in which a response with an SD-JWT VC is verified
for a session that has a nonce and an expected audience. -/
theorem holder_bound (v : PresentationVerifier w) (st : Store) (ms : Schedule)
    (hstart : ∀ k s, st.sessions.get k = some s → s.vp_nonce = none)
    (hflow : System.Arrivals (fun r => r.isPresentationFlow = true) ms)
    (hnonce : (backend w).Guarded (VerifiedWithNonce v) (.start st) ms) :
    HolderBindingEnforced v ((backend w).run (.start st) ms).global := by
  have hinv : BindingInv v (⟨st, [], []⟩ : State) := by
    refine ⟨fun k s n hs hn => ?_, fun _ _ _ _ h => (List.not_mem_nil h).elim,
      fun later past _ _ _ h => ?_, fun _ _ _ _ _ h => (List.not_mem_nil h).elim⟩
    · cases (hstart k s hs).symm.trans hn
    · exact absurd h.symm (by simp)
  have hholds := Discipline.run_holds holders_verified (Discipline.holds_start hinv) hflow hnonce
  refine ⟨hholds.inv.completed, fun later past t q credentials htrace credential hpresents => ?_⟩
  obtain ⟨hknows, hissued⟩ := hholds.inv.asked later past t q _ htrace
  have hevent : (⟨t, .env (.ask (.verifyPresentation q)), .ok (.ok credentials)⟩ : Answered) ∈
      ((backend w).run (.start st) ms).global.trace := by
    rw [htrace]
    simp
  obtain ⟨s', hres⟩ := System.run_answered hevent
  exact bound_of_verified hres.symm (hknows ⟨credential, hpresents⟩) hissued hpresents

namespace HolderBinding

open Deployment

/-! ## A run with and a run without a nonce -/

/-- A library that asks for a key-binding JWT when it is given a nonce. -/
def library (credential : String) (options : SdJwtOptions) :
    Except SdJwtFailure SdJwtResult :=
  match options.keyBindingNonce with
  | none => .ok ⟨.obj [], none⟩
  | some nonce =>
    if credential = "sd-jwt~kb" then
      .ok ⟨.obj [], some { nonce, aud := options.keyBindingAudience }⟩
    else .error ⟨none, "Key Binding JWT is missing", false⟩

def verifyingWorld : ResponseWorld :=
  { ResponseWorld.empty with
    sdJwt := fun credential options _ => library credential options
    decodeRequestObject := fun _ => .ok { formats := [("pid", "dc+sd-jwt")] } }

def pidQuery : PresentationQuery where
  tenantId := "tenant"
  dcql_query := { credentials := [{ id := "pid", format := "dc+sd-jwt" }] }

def verified (q : VerifyPresentation) : Except VerifyError (List (String × List Json)) :=
  execute verifyingWorld (vpTokenOf q.token) pidQuery (sessionDataOf q.session none)

def judged (q : VerifyPresentation) : Except PresentationFailure (List Json) :=
  match verified q with
  | .ok _ => .ok [q.token]
  | .error _ => .error { message := "Presentation validation failed" }

def verifying : World :=
  { deployment {} with
    answer := fun n q => match q with
      | .decryptResponse response _ _ => .ok (.vpToken (.obj [("pid", .arr [.str response])]) none)
      | .verifyPresentation q => .ok (judged q)
      | q => Deployment.answer {} n q }

def verifyingVerifier : PresentationVerifier verifying where
  world := verifyingWorld
  query _ := pidQuery
  skewSeconds _ := none
  signedByHolder credential _ := credential = "sd-jwt~kb"
  verifies := by
    intro n q credentials h
    have hjudged : judged q = .ok credentials := Except.ok.inj h
    show ∃ out, verified q = .ok out
    unfold judged at hjudged
    split at hjudged
    · rename_i out hverified
      exact ⟨out, hverified⟩
    · cases hjudged
  keyBinding := by
    intro credential options status result nonce h hnonce _
    change library credential options = .ok result at h
    unfold library at h
    rw [hnonce] at h
    dsimp only at h
    split at h
    · rename_i hcredential
      cases h
      exact ⟨_, rfl, hcredential, rfl, fun aud haud => haud⟩
    · cases h

/-- A session of an interactive step: its request has not been created yet. -/
def awaiting : Store :=
  { freshStore with
    sessions := Table.single
      { id := "session"
        tenantId := "tenant"
        createdAt := 0
        requestId := some "pid" } }

def answered : Schedule :=
  serve 0 (.createPresentation "tenant" "pid" {} false) 14 ++
    serve 1 (.retrievePresentation (unary 1) false) 4 ++
      serve 2 (.presentation { response := some "sd-jwt~kb" } (unary 1)) 9

/-- Create a request for the session, and answer it before the request object is made. -/
def unfetched : Schedule :=
  serve 0 (.createPresentation "tenant" "pid" { session := some "session" } false) 6 ++
    serve 1 (.presentation { response := some "sd-jwt" } "session") 9

def verifiedWithNonce (_ : State) (_ : Nat) : Call → Bool
  | .env (.ask (.verifyPresentation q)) =>
    q.session.vp_nonce.any (!·.isEmpty) && !q.session.useDcApi && q.session.clientId.isSome
  | _ => true

theorem verifiedWithNonce_sound (g : State) (tid : Nat) (op : Call)
    (h : verifiedWithNonce g tid op = true) : VerifiedWithNonce verifyingVerifier g tid op := by
  unfold verifiedWithNonce at h
  split at h
  · rename_i q
    rw [Bool.and_eq_true, Bool.and_eq_true] at h
    obtain ⟨⟨hnonce, hdcApi⟩, hclient⟩ := h
    obtain ⟨n, hn, hne⟩ := (Option.any_eq_true _ _).mp hnonce
    refine fun _ => ⟨⟨n, hn, fun heq => by simp [heq] at hne⟩, fun request _ => ?_⟩
    obtain ⟨clientId, hclientId⟩ := Option.isSome_iff_exists.mp hclient
    unfold keyBindingAudience
    simp only [hdcApi, if_true, hclientId]
    cases request.bind (·.client_id) <;> rfl
  · rename_i hother
    unfold VerifiedWithNonce
    split
    · exact absurd rfl (hother _)
    · trivial

/-- Was a response with an SD-JWT VC without key binding verified? -/
def acceptsUnbound : Answered → Bool
  | ⟨_, .env (.ask (.verifyPresentation q)), .ok (.ok _)⟩ =>
    vpTokenOf q.token == [("pid", ["sd-jwt"])] && q.session.requestObject.isNone
  | _ => false

end HolderBinding

/-- The request of a new session is answered. -/
theorem holder_bound_answered : HolderBindingEnforced verifyingVerifier
    ((backend verifying).run (.start freshStore) HolderBinding.answered).global := by
  refine holder_bound verifyingVerifier freshStore HolderBinding.answered
    (fun _ _ hs => by cases hs) (System.arrivals_of_all (by decide))
    (System.guarded_of_checks verifiedWithNonce_sound (by decide +kernel))

/-- **A credential without key binding completes the session** whose request object was not made
before the response. -/
theorem not_holder_bound :
    (((backend verifying).run (.start awaiting) unfetched).store.sessions.get "session").any
      (fun s => s.status == .completed) = true ∧
    ¬HolderBindingEnforced verifyingVerifier
      ((backend verifying).run (.start awaiting) unfetched).global := by
  refine ⟨by decide +kernel, fun h => ?_⟩
  have hany :
      ((backend verifying).run (.start awaiting) unfetched).trace.any acceptsUnbound = true := by
    decide +kernel
  obtain ⟨e, he, hunbound⟩ := List.any_eq_true.mp hany
  obtain ⟨later, past, htrace⟩ := List.append_of_mem he
  unfold acceptsUnbound at hunbound
  split at hunbound
  · rename_i t q credentials
    rw [Bool.and_eq_true, beq_iff_eq, Option.isNone_iff_eq_none] at hunbound
    obtain ⟨htoken, hobject⟩ := hunbound
    have hpresents : PresentsSdJwt verifyingVerifier q "sd-jwt" := by
      refine ⟨none, { id := "pid", format := "dc+sd-jwt" }, ("pid", ["sd-jwt"]), ?_, ?_, rfl, rfl,
        List.mem_cons_self⟩
      · rw [htoken]
        decide
      · unfold requestOf sessionDataOf
        rw [hobject]
    obtain ⟨request, options, status, result, kb, aud, -, -, -, hsigned, -⟩ :=
      h.bound later past t q credentials htrace "sd-jwt" hpresents
    have hbound : "sd-jwt" = "sd-jwt~kb" := hsigned
    exact absurd hbound (by decide)
  · cases hunbound

end Eudiplo
