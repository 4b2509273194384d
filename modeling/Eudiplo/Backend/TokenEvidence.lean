import Eudiplo.Backend.Effects
import Eudiplo.Concurrency.Evidence

/-!
# What a token response is evidence of

A token response shows, in the history, the session its request found, every check
that session passed, the verification of the grant, and, unless the grant was a
refresh token, the single-use update.  `token_issued` is the one place where the text
of `ExchangeAccessToken` is read for this.
-/

namespace Eudiplo

open Concurrency Prog System

variable {w : World} {tid : Nat} {g : State}

def FoundSession (g : State) (tid : Nat) (q : AccessTokenRequest)
    (parsed : ParsedAccessTokenRequest) (s : Session) : Prop :=
  match parsed.grant with
  | .refreshToken token =>
    g.Made tid (.session (.findByRefreshToken q.tenantId token)) (some s)
  | _ => ∃ code, parsed.code = some code ∧ code ≠ "" ∧
    g.Made tid (.session (.findByAuthorizationCode q.tenantId code)) (some s)

theorem FoundSession.code {q : AccessTokenRequest} {parsed : ParsedAccessTokenRequest}
    {s : Session} (h : FoundSession g tid q parsed s) (hr : parsed.grant.isRefresh = false) :
    ∃ code, parsed.code = some code ∧ code ≠ "" ∧
      g.Made tid (.session (.findByAuthorizationCode q.tenantId code)) (some s) := by
  unfold FoundSession at h
  split at h
  · rename_i heq
    rw [heq] at hr
    cases hr
  · exact h

/-- The library accepted the grant; a `tx_code` was looked at only below the lock. -/
def VerifiedGrant (g : State) (tid : Nat) (q : AccessTokenRequest)
    (parsed : ParsedAccessTokenRequest) (s : Session) (config : IssuanceConfiguration)
    (dpopJkt : Option String) : Prop :=
  match parsed.grant with
  | .preAuthorizedCode _ _ =>
    (truthy s.txCode = true → s.txCodeFailedAttempts < config.maxAttempts) ∧
      ∃ ttl, g.Made tid
        (.env (.ask (.verifyPreAuthorizedCode (preAuthorizedCodeQuery q parsed s config ttl))))
        (.ok (.ok dpopJkt))
  | .authorizationCode _ => g.Made tid
      (.env (.ask (.verifyAuthorizationCode (authorizationCodeQuery q parsed s config))))
      (.ok (.ok dpopJkt))
  | .refreshToken _ => g.Made tid
      (.env (.ask (.verifyRefreshToken (refreshTokenQuery q parsed s config))))
      (.ok (.ok dpopJkt))

/-- Single use, lifetime and grant type of a code, at the time a thread looked. -/
def CodeRedeemable (g : State) (tid : Nat) (grant : Grant) (s : Session) : Prop :=
  s.consumed = false ∧ codeIssuedForGrant grant s.flow = true ∧
    ∃ t, g.Made tid (.env .now) t ∧ sessionUnusable s t = none

/-- **A token request that passed every check.** -/
structure PassedChecks (w : World) (g : State) (tid : Nat) (q : AccessTokenRequest)
    (p : PreparedToken) : Prop where
  parsed : parseTokenRequest w q = .ok p.parsed
  found : FoundSession g tid q p.parsed p.session
  redeemable : p.parsed.grant.isRefresh = false → CodeRedeemable g tid p.parsed.grant p.session
  configured : g.Made tid (.env (.ask (.issuanceConfiguration q.tenantId))) (.ok p.config)
  clientKey : assertClientKey w p.parsed p.session = .ok ()
  client : assertClient w q p.parsed p.session = .ok ()
  redirectUri : assertRedirectUri q p.parsed p.session = .ok ()
  pkce : assertPkce w q p.parsed p.session = .ok ()
  verified : VerifiedGrant g tid q p.parsed p.session p.config p.dpopJkt
  key : p.clientKeyJkt = clientKeyJkt w p.parsed
  response : ∃ query, g.Made tid (.env (.ask (.createAccessTokenResponse query)))
    (.ok (.ok p.response))

/-! ## Awaiting one call -/

theorem yields_sessions (c : SessionCall) :
    (backend w).Yields tid (fun g' a => g'.Made tid (.session c) a) (sessions c) g :=
  yields_invoke _

theorem yields_now :
    (backend w).Yields tid (fun g' t => g'.Made tid (.env .now) t) now g := yields_invoke _

theorem yields_fresh :
    (backend w).Yields tid (fun g' v => g'.Made tid (.env .fresh) v) fresh g := yields_invoke _

theorem yields_ask (q : Question) :
    (backend w).Yields tid (fun g' a => g'.Made tid (.env (.ask q)) (.ok a)) (ask q) g := by
  refine (yields_invoke _).bind fun a g' _ ha => ?_
  cases a with
  | ok a => exact fun g'' he => ha.extends he
  | error e => trivial

theorem yields_lookup (R : String → State → Option Session → Prop)
    (hR : ∀ k g' g'' s, g'.Extends g'' → R k g' s → R k g'' s) {key : Option String}
    {find : String → Api (Option Session)}
    (h : ∀ k g', (backend w).Yields tid (R k) (find k) g') :
    (backend w).Yields tid (fun g' s => ∃ k, key = some k ∧ k ≠ "" ∧ R k g' (some s))
      (lookup key find) g := by
  refine .ensure fun hkey => ?_
  obtain ⟨k, rfl, hne⟩ := truthy_iff.mp hkey
  refine (h k g).bind fun found g' _ hfound => ?_
  cases found with
  | none => trivial
  | some s => exact fun g'' he => ⟨k, rfl, hne, hR k g' g'' _ he hfound⟩

theorem yields_getByAuthorizationCode (tenantId : String) (code : Option String) :
    (backend w).Yields tid (fun g' s => ∃ k, code = some k ∧ k ≠ "" ∧
      g'.Made tid (.session (.findByAuthorizationCode tenantId k)) (some s))
      (getByAuthorizationCode tenantId code) g :=
  yields_lookup (fun k g' s => g'.Made tid (.session (.findByAuthorizationCode tenantId k)) s)
    (fun _ _ _ _ he h => h.extends he) fun _ _ => yields_sessions _

theorem yields_getByRefreshToken (tenantId token : String) :
    (backend w).Yields tid (fun g' s =>
      g'.Made tid (.session (.findByRefreshToken tenantId token)) (some s))
      (getByRefreshToken tenantId token) g := by
  refine (yields_lookup (fun k g' s =>
    g'.Made tid (.session (.findByRefreshToken tenantId k)) s)
    (fun _ _ _ _ he h => h.extends he) fun _ _ => yields_sessions _).imp ?_
  rintro s g' - ⟨k, hk, -, hmade⟩
  cases hk
  exact hmade

theorem yields_orThrow {α : Type} {p : Api α} {e : ApiError} {Q : State → α → Prop}
    (hQ : ∀ g' g'' a, g'.Extends g'' → Q g' a → Q g'' a) (h : (backend w).Yields tid Q p g) :
    (backend w).Yields tid Q (orThrow p e) g := by
  refine h.attempt.bind fun r g' _ hr => ?_
  cases r with
  | ok a => exact fun g'' he => hQ g' g'' a he (hr a rfl)
  | error e => trivial

/-! ## The token endpoint -/

theorem yields_findSession (q : AccessTokenRequest) (parsed : ParsedAccessTokenRequest) :
    (backend w).Yields tid (fun g' s => FoundSession g' tid q parsed s)
      (findSession q.tenantId parsed) g := by
  have hcode (e : ApiError) : (backend w).Yields tid
      (fun g' s => ∃ code, parsed.code = some code ∧ code ≠ "" ∧
        g'.Made tid (.session (.findByAuthorizationCode q.tenantId code)) (some s))
      (orThrow (getByAuthorizationCode q.tenantId parsed.code) e) g :=
    yields_orThrow (fun _ _ _ he ⟨k, hk, hne, h⟩ => ⟨k, hk, hne, h.extends he⟩)
      (yields_getByAuthorizationCode q.tenantId parsed.code)
  unfold findSession FoundSession
  cases parsed.grant with
  | refreshToken token =>
    exact yields_orThrow (fun _ _ _ he h => h.extends he) (yields_getByRefreshToken _ _)
  | authorizationCode code => exact hcode _
  | preAuthorizedCode code txCode => exact hcode _

theorem yields_assertCodeRedeemable (grant : Grant) (s : Session) :
    (backend w).Yields tid
      (fun g' _ => grant.isRefresh = false → CodeRedeemable g' tid grant s)
      (assertCodeRedeemable grant s) g := by
  unfold assertCodeRedeemable
  split
  · rename_i hrefresh
    exact fun _ _ hcode => by rw [hrefresh] at hcode; cases hcode
  · refine .ensure fun hconsumed => yields_now.bind fun t g' _ ht => .ofExcept fun u hu => ?_
    by_cases hflow : codeIssuedForGrant grant s.flow = true
    · rw [hflow]
      exact fun g'' he _ => ⟨by simpa using hconsumed, hflow, t, ht.extends he,
        assertOfferRedeemable_eq_ok.mp hu⟩
    · rw [Bool.not_eq_true] at hflow
      rw [hflow]
      trivial

theorem yields_preAuthorizedCodeError {Q : State → Option String → Prop} (e : LibraryError)
    (tenantId : String) (s : Session) (maxAttempts : Nat) (txCode : Option String) :
    (backend w).Yields tid Q (preAuthorizedCodeError e tenantId s maxAttempts txCode) g := by
  unfold preAuthorizedCodeError
  simp only
  split
  · refine .skip fun attempts g' _ => ?_
    split <;> trivial
  · trivial

theorem yields_verifyGrant (q : AccessTokenRequest) (parsed : ParsedAccessTokenRequest)
    (s : Session) (config : IssuanceConfiguration) :
    (backend w).Yields tid (fun g' dpopJkt => VerifiedGrant g' tid q parsed s config dpopJkt)
      (verifyGrant q parsed s config) g := by
  unfold verifyGrant VerifiedGrant
  cases parsed.grant with
  | preAuthorizedCode code txCode =>
    refine .ensure fun hlock => (yields_ask _).bind fun ttl g' _ _ =>
      (yields_ask _).bind fun r g'' _ hr => ?_
    have hbelow : truthy s.txCode = true → s.txCodeFailedAttempts < config.maxAttempts := by
      intro htx
      simpa [htx, isTxCodeLocked] using hlock
    cases r with
    | ok dpopJkt => exact fun g₃ he => ⟨hbelow, ttl, hr.extends he⟩
    | error e => exact yields_preAuthorizedCodeError e q.tenantId s config.maxAttempts txCode
  | authorizationCode code =>
    refine (yields_ask _).bind fun r g' _ hr => ?_
    cases r with
    | ok dpopJkt => exact fun g'' he => hr.extends he
    | error e => trivial
  | refreshToken token =>
    refine (yields_ask _).bind fun r g' _ hr => ?_
    cases r with
    | ok dpopJkt => exact fun g'' he => hr.extends he
    | error e => trivial

theorem VerifiedGrant.extends {g g' : State} {q : AccessTokenRequest}
    {parsed : ParsedAccessTokenRequest} {s : Session} {config : IssuanceConfiguration}
    {dpopJkt : Option String} (h : VerifiedGrant g tid q parsed s config dpopJkt)
    (he : g.Extends g') : VerifiedGrant g' tid q parsed s config dpopJkt := by
  unfold VerifiedGrant at h ⊢
  cases hgrant : parsed.grant with
  | preAuthorizedCode code txCode =>
    rw [hgrant] at h
    obtain ⟨hlock, ttl, hmade⟩ := h
    exact ⟨hlock, ttl, hmade.extends he⟩
  | authorizationCode code =>
    rw [hgrant] at h
    exact Global.Made.extends h he
  | refreshToken token =>
    rw [hgrant] at h
    exact Global.Made.extends h he

theorem FoundSession.extends {g g' : State} {q : AccessTokenRequest}
    {parsed : ParsedAccessTokenRequest} {s : Session} (h : FoundSession g tid q parsed s)
    (he : g.Extends g') : FoundSession g' tid q parsed s := by
  unfold FoundSession at h ⊢
  split at h
  · exact Global.Made.extends h he
  · obtain ⟨code, hcode, hne, hmade⟩ := h
    exact ⟨code, hcode, hne, hmade.extends he⟩

theorem CodeRedeemable.extends {g g' : State} {grant : Grant} {s : Session}
    (h : CodeRedeemable g tid grant s) (he : g.Extends g') : CodeRedeemable g' tid grant s := by
  obtain ⟨hconsumed, hflow, t, ht, husable⟩ := h
  exact ⟨hconsumed, hflow, t, ht.extends he, husable⟩

theorem PassedChecks.extends {g g' : State} {q : AccessTokenRequest} {p : PreparedToken}
    (h : PassedChecks w g tid q p) (he : g.Extends g') : PassedChecks w g' tid q p :=
  { h with
    found := h.found.extends he
    redeemable := fun hcode => (h.redeemable hcode).extends he
    configured := h.configured.extends he
    verified := h.verified.extends he
    response := h.response.imp fun _ hmade => hmade.extends he }

theorem yields_tokenConfiguration (tenantId : String) (grant : Grant) :
    (backend w).Yields tid (fun g' config =>
      g'.Made tid (.env (.ask (.issuanceConfiguration tenantId))) (.ok config))
      (tokenConfiguration tenantId grant) g := by
  refine (yields_ask _).bind fun config g' _ hconfig => .ensure fun _ => .skip fun _ g'' he => ?_
  exact fun g₃ he' => hconfig.extends (he.trans he')

theorem yields_createTokenResponse (q : AccessTokenRequest) (parsed : ParsedAccessTokenRequest)
    (s : Session) (config : IssuanceConfiguration) (dpopJkt : Option String) :
    (backend w).Yields tid (fun g' response => ∃ query,
      g'.Made tid (.env (.ask (.createAccessTokenResponse query))) (.ok (.ok response)))
      (createTokenResponse w q parsed s config dpopJkt) g := by
  refine .skip fun keyId g₁ _ => .skip fun jwk g₂ _ => .ofExcept fun details _ =>
    (yields_ask _).bind fun r g₃ _ hr => ?_
  cases r with
  | ok response => exact fun g₄ he => ⟨_, hr.extends he⟩
  | error e => trivial

/-- **A prepared token passed every check.** -/
theorem yields_prepareToken (q : AccessTokenRequest) :
    (backend w).Yields tid (fun g' p => PassedChecks w g' tid q p) (prepareToken w q) g := by
  unfold prepareToken
  refine .ofExcept fun parsed hparsed => (yields_findSession q parsed).bind
    fun s g₁ _ hfound => (yields_assertCodeRedeemable parsed.grant s).bind
    fun _ g₂ he₂ hredeemable => (yields_tokenConfiguration _ _).bind
    fun config g₃ he₃ hconfig => .skip fun _ g₄ he₄ => .ofExcept fun _ hkey =>
    .ofExcept fun _ hclient => .ofExcept fun _ huri => .ofExcept fun _ hpkce =>
    (yields_verifyGrant q parsed s config).bind fun dpopJkt g₅ he₅ hverified =>
    (yields_createTokenResponse q parsed s config dpopJkt).bind
    fun response g₆ he₆ ⟨query, hresponse⟩ => ?_
  have h₅ : g₁.Extends g₅ := ((he₂.trans he₃).trans he₄).trans he₅
  intro g₇ he₇
  exact {
    parsed := hparsed
    found := (hfound.extends h₅).extends (he₆.trans he₇)
    redeemable := fun hcode =>
      (hredeemable hcode).extends (((he₃.trans he₄).trans he₅).trans (he₆.trans he₇))
    configured := hconfig.extends ((he₄.trans he₅).trans (he₆.trans he₇))
    clientKey := hkey
    client := hclient
    redirectUri := huri
    pkce := hpkce
    verified := hverified.extends (he₆.trans he₇)
    key := rfl
    response := ⟨query, hresponse.extends he₇⟩ }

/-- The thread redeemed the code of the session it had found. -/
def Redeemed (g : State) (tid : Nat) (p : PreparedToken) : Prop :=
  ∃ refreshExpiry, g.Made tid (.session (.updateUnconsumedForTenant p.session.tenantId
    p.session.id (redeemUpdate p refreshExpiry))) true

/-- **A token response**: the request passed every check, and it redeemed the code it was
for. -/
structure TokenIssued (w : World) (g : State) (tid : Nat) (q : AccessTokenRequest)
    (r : TokenResponse) (p : PreparedToken) : Prop where
  passed : PassedChecks w g tid q p
  response : r = p.response
  redeemed : p.parsed.grant.isRefresh = false → Redeemed g tid p

theorem yields_exchangeAccessToken (q : AccessTokenRequest) :
    (backend w).Yields tid (fun g' r => ∃ p, TokenIssued w g' tid q r p)
      (exchangeAccessToken w q) g := by
  refine (yields_prepareToken q).bind fun p g₁ _ hp => ?_
  unfold commitToken
  split
  · rename_i hrefresh
    exact fun g₂ he => ⟨p, hp.extends he, rfl, fun hcode => by rw [hrefresh] at hcode; cases hcode⟩
  · refine .skip fun expiry g₂ he₂ => (yields_sessions _).bind fun won g₃ he₃ hwon =>
      .ensure fun hcheck => ?_
    cases hcheck
    exact fun g₄ he₄ => ⟨p, hp.extends ((he₂.trans he₃).trans he₄), rfl,
      fun _ => ⟨expiry, hwon.extends he₄⟩⟩

/-- What the answers of the token endpoint promise; other answers promise nothing here. -/
def TokenPromise (w : World) (tid : Nat) (req : Request) (g : State) (a : Response) : Prop :=
  ∀ q r, req = .token q → a = .token r → ∃ p, TokenIssued w g tid q r p

/-- **What a token response is evidence of**, in every run. -/
theorem token_issued {st : Store} {ms : Schedule} {q : AccessTokenRequest} {r : TokenResponse}
    (h : ((backend w).run (.start st) ms).Answers tid (.token q) (.token r)) :
    ∃ p, TokenIssued w ((backend w).run (.start st) ms).global tid q r p := by
  have hpromise : ∀ tid req g, (backend w).Yields tid (TokenPromise w tid req)
      ((backend w).program req) g := by
    intro tid req g
    by_cases hreq : ∃ q, req = .token q
    · obtain ⟨q, rfl⟩ := hreq
      refine (yields_exchangeAccessToken q).bind fun r g' _ ⟨p, hp⟩ => ?_
      intro g'' he q' r' hq hr
      cases hq
      cases hr
      exact ⟨p, hp.passed.extends he, hp.response, fun hcode =>
        (hp.redeemed hcode).imp fun _ hmade => hmade.extends he⟩
    · exact (yields_true _).imp fun a g' _ _ q r hq => absurd ⟨q, hq⟩ hreq
  exact run_yields hpromise h q r rfl rfl

end Eudiplo
