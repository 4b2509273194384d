import Eudiplo.Concurrency.Alone
import Eudiplo.HostedAs.Operations

/-!
# How long a hosted session lives

The grants of one session as steps of its row, and `deleteExpired`, which the clean-up job
calls.  What a grant saves is what `commitHostedToken` saves (`commitHostedToken_refreshing`,
`commitHostedToken_redeeming`), and what lets it through is what
`resolveSessionForTokenRequest` checks (`resolve_refresh`).
-/

namespace Eudiplo

open Concurrency Prog Storage

/-! ## Grants -/

/-- The row with a refresh token that is accepted until `refreshExpiry`. -/
def ChainedAsSession.withRefreshToken (session : ChainedAsSession) (refreshExpiry : Time)
    (refreshToken : String) : ChainedAsSession :=
  { session with
    refreshTokenExpiresAt := some refreshExpiry
    refreshToken := some refreshToken }

/-- The expiry of the refresh token a grant issues at `issuedAt`. -/
def grantedRefreshExpiry (policy : RefreshTokenPolicy) (session : ChainedAsSession)
    (grantType : String) (issuedAt : Time) : Time :=
  if grantType == "refresh_token" then
    enforcedRefreshTokenExpiry session.refreshTokenExpiresAt session.createdAt policy
  else refreshTokenExpiresAt policy issuedAt

/-- **The row a grant saves**: the refresh token is issued at `issuedAt`, the row is saved at
`committedAt`. -/
def grantedSession (p : PreparedHostedToken) (grantType : String) (issuedAt committedAt : Time)
    (refreshToken : String) : ChainedAsSession :=
  let policy := refreshTokenPolicy p.config.token
  let session := issuedSession p
  retainSession
    (if policy.enabled then
      session.withRefreshToken (grantedRefreshExpiry policy session grantType issuedAt) refreshToken
    else session)
    (committedAt.plusSeconds (hostedTokenLifetime p.config))

theorem grantedSession_enabled {p : PreparedHostedToken} {grantType : String}
    {issuedAt committedAt : Time} {refreshToken : String}
    (henabled : (refreshTokenPolicy p.config.token).enabled = true) :
    grantedSession p grantType issuedAt committedAt refreshToken =
      retainSession ((issuedSession p).withRefreshToken
        (grantedRefreshExpiry (refreshTokenPolicy p.config.token) (issuedSession p) grantType
          issuedAt) refreshToken) (committedAt.plusSeconds (hostedTokenLifetime p.config)) := by
  rw [grantedSession, if_pos henabled]

theorem grantedSession_disabled {p : PreparedHostedToken} {grantType : String}
    {issuedAt committedAt : Time} {refreshToken : String}
    (hdisabled : (refreshTokenPolicy p.config.token).enabled = false) :
    grantedSession p grantType issuedAt committedAt refreshToken =
      retainSession (issuedSession p)
        (committedAt.plusSeconds (hostedTokenLifetime p.config)) := by
  rw [grantedSession, if_neg (by simp [hdisabled])]

/-- The answer of a grant whose row is `session`. -/
def hostedTokenResponse (p : PreparedHostedToken) (session : ChainedAsSession)
    (refreshToken : Option String) : TokenResponse where
  access_token := p.accessToken
  token_type := if p.dpopJkt.isSome then "DPoP" else "Bearer"
  expires_in := hostedTokenLifetime p.config
  scope := session.scope
  authorization_details :=
    if (session.authorizationDetails.getD []).isEmpty then none else session.authorizationDetails
  refresh_token := refreshToken

def saveAndAnswer (session : ChainedAsSession) (response : TokenResponse) : Api TokenResponse := do
  chainedSessions (.save session)
  return response

theorem commitHostedToken_refreshing (p : PreparedHostedToken) (issuedAt : Time)
    (henabled : (refreshTokenPolicy p.config.token).enabled = true) :
    commitHostedToken p "refresh_token" = (fresh : Api String).bind fun refreshToken =>
      (now : Api Time).bind fun t =>
        saveAndAnswer (grantedSession p "refresh_token" issuedAt t refreshToken)
          (hostedTokenResponse p (issuedSession p) (some refreshToken)) := by
  simp only [commitHostedToken, issueRefreshToken, henabled, if_true,
    grantedSession_enabled henabled]
  rfl

theorem commitHostedToken_redeeming (p : PreparedHostedToken)
    (henabled : (refreshTokenPolicy p.config.token).enabled = true) :
    commitHostedToken p "authorization_code" = (now : Api Time).bind fun issuedAt =>
      (fresh : Api String).bind fun refreshToken => (now : Api Time).bind fun t =>
        saveAndAnswer (grantedSession p "authorization_code" issuedAt t refreshToken)
          (hostedTokenResponse p (issuedSession p) (some refreshToken)) := by
  simp only [commitHostedToken, issueRefreshToken, henabled, if_true,
    grantedSession_enabled henabled]
  rfl

theorem commitHostedToken_disabled (p : PreparedHostedToken) (grantType : String)
    (issuedAt : Time) (refreshToken : String)
    (hdisabled : (refreshTokenPolicy p.config.token).enabled = false) :
    commitHostedToken p grantType = (now : Api Time).bind fun t =>
      saveAndAnswer (grantedSession p grantType issuedAt t refreshToken)
        (hostedTokenResponse p (issuedSession p) none) := by
  simp only [commitHostedToken, issueRefreshToken, hdisabled, grantedSession_disabled hdisabled,
    Bool.false_eq_true, if_false]
  rfl

/-! ## What lets a grant through -/

/-- A refresh token of the row is accepted at `t`. -/
def acceptsRefreshToken (policy : RefreshTokenPolicy) (row : ChainedAsSession)
    (refreshToken : String) (t : Time) : Bool :=
  policy.enabled && refreshToken != "" && row.refreshToken == some refreshToken &&
    decide (t ≤ enforcedRefreshTokenExpiry row.refreshTokenExpiresAt row.createdAt policy)

/-- The code of the row can be redeemed at `t`. -/
def acceptsCode (row : ChainedAsSession) (t : Time) : Bool :=
  row.status == .authorized && !(row.authorizationCodeExpiresAt.any (· < t))

/-- **The row of a refresh request**: the one that has the token, while it is accepted. -/
theorem resolve_refresh {w : World} {st : Store} {tenantId refreshToken : String}
    {request : HostedTokenRequest} {policy : RefreshTokenPolicy} {row : ChainedAsSession}
    (hgrant : request.grant_type = "refresh_token")
    (htoken : request.refresh_token = some refreshToken) :
    AnswersAlone (answer w) (resolveSessionForTokenRequest tenantId request policy) st row ↔
      (ChainedCall.findByRefreshToken tenantId refreshToken).reply st.chained = some row ∧
        acceptsRefreshToken policy row refreshToken st.clock = true := by
  have hstored {found : ChainedAsSession}
      (hfound : (ChainedCall.findByRefreshToken tenantId refreshToken).reply st.chained =
        some found) : found.refreshToken = some refreshToken := by
    have hmatch := (Table.find_some hfound).2
    simp only [Bool.and_eq_true, beq_iff_eq] at hmatch
    exact hmatch.2
  have hrefresh : (request.grant_type == "refresh_token") = true := by simp [hgrant]
  rw [resolveSessionForTokenRequest, if_pos hrefresh, htoken]
  cases henabled : policy.enabled with
  | false => simp [acceptsRefreshToken, henabled, ensure]
  | true =>
    by_cases hempty : refreshToken = ""
    · simp [acceptsRefreshToken, hempty, ensure, truthy]
    · rw [show truthy (some refreshToken) = true by simp [truthy, hempty]]
      show AnswersAlone (answer w) ((getOrFail _
        ((ChainedCall.findByRefreshToken tenantId refreshToken).reply st.chained)).bind _) st row ↔
          _
      cases hfound : (ChainedCall.findByRefreshToken tenantId refreshToken).reply st.chained with
      | none => simp [getOrFail]
      | some found =>
        show AnswersAlone (answer w) ((ensure (decide (st.clock ≤ enforcedRefreshTokenExpiry
          found.refreshTokenExpiresAt found.createdAt policy)) _).bind fun _ => .ret found) st row ↔
            _
        by_cases hin : st.clock ≤ enforcedRefreshTokenExpiry found.refreshTokenExpiresAt
            found.createdAt policy
        · rw [decide_eq_true hin]
          show found = row ↔ _
          constructor
          · rintro rfl
            simp [acceptsRefreshToken, henabled, hempty, hstored hfound, hin]
          · exact fun h => Option.some.inj h.1
        · rw [decide_eq_false hin]
          show False ↔ _
          refine ⟨False.elim, ?_⟩
          rintro ⟨heq, haccepts⟩
          obtain rfl := Option.some.inj heq
          simp [acceptsRefreshToken, hin] at haccepts

/-! ## The clean-up -/

/-- The conditions of `deleteExpired` on a row. -/
def isDeletedExpired (now : Time) (row : ChainedAsSession) : Bool :=
  let expired (t : Time) := decide (t < now)
  -- Refresh tokens stored without an expiry are kept for the default lifetime.
  let legacyRefreshCutoff := now - defaultRefreshTokenLifetimeSeconds * 1000
  (expired row.expiresAt && row.refreshToken.isNone) ||
    (expired row.expiresAt && row.refreshTokenExpiresAt.any expired) ||
    (expired row.expiresAt && row.refreshTokenExpiresAt.isNone &&
      decide (row.createdAt < legacyRefreshCutoff))

def deleteExpired (now : Time) (t : ChainedTable) : ChainedTable × Nat :=
  (t.deleteWhere (isDeletedExpired now), t.count (isDeletedExpired now))

/-! ## A session over time -/

/-- The instant a token signed at `signedAt` expires. -/
def accessTokenExpiry (config : AuthorizationServerConfig) (signedAt : Time) : Time :=
  (signedAt / 1000 + hostedTokenLifetime config) * 1000

structure GrantRun where
  checkedAt : Time
  signedAt : Time
  issuedAt : Time
  committedAt : Time
  checked : checkedAt ≤ signedAt
  signed : signedAt ≤ issuedAt
  issued : issuedAt ≤ committedAt
  dpopJkt : Option String
  jti : String
  accessToken : String
  refreshToken : String

def GrantRun.prepared (g : GrantRun) (config : AuthorizationServerConfig)
    (session : ChainedAsSession) : PreparedHostedToken where
  config
  session
  dpopJkt := g.dpopJkt
  jti := g.jti
  accessToken := g.accessToken

/-- The row of a session, if it is still there, when its access tokens expire, and the
refresh token expiry of every grant, the last one first. -/
structure Lifeline where
  row : Option ChainedAsSession
  accessExpiries : List Time := []
  refreshExpiries : List Time := []

inductive SessionStep where
  | code (g : GrantRun)
  | refresh (refreshToken : String) (g : GrantRun)
  | deleteExpired (now : Time)

def Lifeline.grant (config : AuthorizationServerConfig) (l : Lifeline) (session : ChainedAsSession)
    (grantType : String) (g : GrantRun) : Lifeline where
  row := some (grantedSession (g.prepared config session) grantType g.issuedAt g.committedAt
    g.refreshToken)
  accessExpiries := accessTokenExpiry config g.signedAt :: l.accessExpiries
  refreshExpiries :=
    if (refreshTokenPolicy config.token).enabled then
      grantedRefreshExpiry (refreshTokenPolicy config.token) session grantType g.issuedAt ::
        l.refreshExpiries
    else l.refreshExpiries

def Lifeline.step (config : AuthorizationServerConfig) (l : Lifeline) : SessionStep → Lifeline
  | .code g =>
    match l.row with
    | some session =>
      if acceptsCode session g.checkedAt then l.grant config session "authorization_code" g
      else if session.status == .authorized then
        { l with row := some { session with status := .expired } }
      else l
    | none => l
  | .refresh refreshToken g =>
    match l.row with
    | some session =>
      if acceptsRefreshToken (refreshTokenPolicy config.token) session refreshToken g.checkedAt then
        l.grant config session "refresh_token" g
      else l
    | none => l
  | .deleteExpired now => { l with row := l.row.filter fun row => !isDeletedExpired now row }

/-- **A session over time.** -/
def Lifeline.run (config : AuthorizationServerConfig) (l : Lifeline) (steps : List SessionStep) :
    Lifeline := steps.foldl (Lifeline.step config) l

end Eudiplo

/-!
# How the lifetimes of a hosted session nest

A refresh keeps the expiry that the first grant fixed, and the row outlives every access
token.  `deleteExpired` keeps a row without a stored refresh expiry for thirty days, where
its refresh token is accepted for the lifetime of the policy: the row of such a session is
kept long enough exactly if the policy is not longer, or the row itself lives as long
(`lifetimes_nest_iff`).
-/

namespace Eudiplo

/-! ## The claim -/

/-- **The lifetimes nest**: every grant has the refresh expiry of the first one, the session
lives at least as long as its access tokens, and `deleteExpired` takes the row only when it
accepts no refresh token. -/
structure LifetimesNest (config : AuthorizationServerConfig) (l : Lifeline) : Prop where
  fixed : ∀ e ∈ l.refreshExpiries, l.refreshExpiries.getLast? = some e
  retained : ∀ session, l.row = some session → ∀ e ∈ l.accessExpiries, e ≤ session.expiresAt
  usable : ∀ session now, l.row = some session → isDeletedExpired now session = true →
    ∀ refreshToken,
      acceptsRefreshToken (refreshTokenPolicy config.token) session refreshToken now = false

/-- **The condition** on a row: it has no refresh token that is accepted, or its expiry is
stored, or the policy is not longer than the default one, or the row lives as long. -/
def KeptLongEnough (config : AuthorizationServerConfig) (session : ChainedAsSession) : Prop :=
  let policy := refreshTokenPolicy config.token
  policy.enabled = false ∨ truthy session.refreshToken = false ∨
    session.refreshTokenExpiresAt.isSome = true ∨
    policy.expiresInSeconds ≤ defaultRefreshTokenLifetimeSeconds ∨
    refreshTokenExpiresAt policy session.createdAt ≤ session.expiresAt

namespace HostedLifetime

variable {config : AuthorizationServerConfig} {l : Lifeline} {session : ChainedAsSession}
  {now : Time}

/-! ## Deletion -/

theorem isDeletedExpired_iff : isDeletedExpired now session = true ↔
    session.expiresAt < now ∧ (session.refreshToken = none ∨
      (∃ e, session.refreshTokenExpiresAt = some e ∧ e < now) ∨
      (session.refreshTokenExpiresAt = none ∧
        session.createdAt < now - defaultRefreshTokenLifetimeSeconds * 1000)) := by
  simp only [isDeletedExpired, Bool.or_eq_true, Bool.and_eq_true, decide_eq_true_eq,
    Option.isNone_iff_eq_none, Option.any_eq_true]
  constructor
  · rintro ((⟨hexpired, hnone⟩ | ⟨hexpired, hpast⟩) | ⟨⟨hexpired, hnone⟩, hlegacy⟩)
    · exact ⟨hexpired, .inl hnone⟩
    · exact ⟨hexpired, .inr (.inl hpast)⟩
    · exact ⟨hexpired, .inr (.inr ⟨hnone, hlegacy⟩)⟩
  · rintro ⟨hexpired, hnone | hpast | ⟨hnone, hlegacy⟩⟩
    · exact .inl (.inl ⟨hexpired, hnone⟩)
    · exact .inl (.inr ⟨hexpired, hpast⟩)
    · exact .inr ⟨⟨hexpired, hnone⟩, hlegacy⟩

/-- **What accepting a refresh token takes.** -/
theorem acceptsRefreshToken_iff {policy : RefreshTokenPolicy} {refreshToken : String} :
    acceptsRefreshToken policy session refreshToken now = true ↔
      policy.enabled = true ∧ refreshToken ≠ "" ∧ session.refreshToken = some refreshToken ∧
        now ≤ enforcedRefreshTokenExpiry session.refreshTokenExpiresAt session.createdAt
          policy := by
  simp only [acceptsRefreshToken, Bool.and_eq_true, bne_iff_ne, beq_iff_eq, decide_eq_true_eq,
    and_assoc]

/-- **Which rows are deleted too early.** -/
theorem usable_iff : (∀ now, isDeletedExpired now session = true → ∀ refreshToken,
      acceptsRefreshToken (refreshTokenPolicy config.token) session refreshToken now = false) ↔
    KeptLongEnough config session := by
  have hcutoff (t t' : Time) : t < t' - defaultRefreshTokenLifetimeSeconds * 1000 ↔
      t + defaultRefreshTokenLifetimeSeconds * 1000 < t' := Nat.lt_sub_iff_add_lt
  constructor
  · intro husable
    by_contra hkept
    simp only [KeptLongEnough, not_or, Bool.not_eq_false, Bool.not_eq_true,
      Option.isSome_eq_false_iff, Option.isNone_iff_eq_none, Nat.not_le] at hkept
    obtain ⟨henabled, htruthy, hstored, hlonger, houtlived⟩ := hkept
    -- The last instant at which the policy accepts the token.
    have hdeleted : isDeletedExpired
        (refreshTokenExpiresAt (refreshTokenPolicy config.token) session.createdAt) session =
          true := by
      refine isDeletedExpired_iff.mpr ⟨houtlived, .inr (.inr ⟨hstored, (hcutoff _ _).mpr ?_⟩)⟩
      exact Nat.add_lt_add_left (Nat.mul_lt_mul_of_pos_right hlonger (by decide)) _
    cases htoken : session.refreshToken with
    | none => simp [htoken] at htruthy
    | some refreshToken =>
      have hrejected := husable _ hdeleted refreshToken
      have haccepts : acceptsRefreshToken (refreshTokenPolicy config.token) session refreshToken
          (refreshTokenExpiresAt (refreshTokenPolicy config.token) session.createdAt) = true := by
        refine acceptsRefreshToken_iff.mpr
          ⟨henabled, by simpa [htoken, truthy] using htruthy, htoken, ?_⟩
        rw [hstored]
        exact Nat.le_refl _
      rw [haccepts] at hrejected
      cases hrejected
  · intro hkept now hdeleted refreshToken
    rw [Bool.eq_false_iff]
    intro haccepts
    obtain ⟨henabled, hne, htoken, hin⟩ := acceptsRefreshToken_iff.mp haccepts
    obtain ⟨hexpired, hwhy⟩ := isDeletedExpired_iff.mp hdeleted
    rcases hwhy with hnone | ⟨e, he, hpast⟩ | ⟨hnone, hlegacy⟩
    · rw [htoken] at hnone
      cases hnone
    · rw [he] at hin
      exact absurd hpast (Nat.not_lt.mpr hin)
    · rw [hnone] at hin
      have hlater := (hcutoff _ _).mp hlegacy
      rcases hkept with hdisabled | hfalsy | hstored | hshort | hlives
      · rw [henabled] at hdisabled
        cases hdisabled
      · simp [htoken, truthy, hne] at hfalsy
      · rw [hnone] at hstored
        cases hstored
      · have hle : session.createdAt + (refreshTokenPolicy config.token).expiresInSeconds * 1000 ≤
            session.createdAt + defaultRefreshTokenLifetimeSeconds * 1000 :=
          Nat.add_le_add_left (Nat.mul_le_mul_right _ hshort) _
        exact absurd (Nat.lt_of_lt_of_le hlater hin) (Nat.not_lt.mpr hle)
      · exact absurd (Nat.lt_of_lt_of_le hexpired hin) (Nat.not_lt.mpr hlives)

/-! ## The invariant -/

/-- What every state of a session satisfies. -/
structure Inv (config : AuthorizationServerConfig) (l : Lifeline) : Prop where
  fixed : ∀ e ∈ l.refreshExpiries, l.refreshExpiries.getLast? = some e
  stored : ∀ session, l.row = some session → l.refreshExpiries ≠ [] →
    session.status ≠ .authorized ∧ session.refreshTokenExpiresAt = l.refreshExpiries.getLast?
  retained : ∀ session, l.row = some session → ∀ e ∈ l.accessExpiries, e ≤ session.expiresAt
  kept : ∀ session, l.row = some session → KeptLongEnough config session
  /-- Without refresh tokens no grant has an expiry. -/
  silent : (refreshTokenPolicy config.token).enabled = false → l.refreshExpiries = []

theorem Inv.nest (h : Inv config l) : LifetimesNest config l :=
  ⟨h.fixed, h.retained, fun session now hrow hdeleted =>
    usable_iff.mpr (h.kept session hrow) now hdeleted⟩

theorem accessTokenExpiry_le (g : GrantRun) :
    accessTokenExpiry config g.signedAt ≤
      g.committedAt.plusSeconds (hostedTokenLifetime config) := by
  have hsigned := g.signed
  have hissued := g.issued
  unfold accessTokenExpiry Time.plusSeconds Time at *
  omega

theorem keptLongEnough_granted {p : PreparedHostedToken} {grantType refreshToken : String}
    {issuedAt committedAt : Time} :
    KeptLongEnough p.config (grantedSession p grantType issuedAt committedAt refreshToken) := by
  cases henabled : (refreshTokenPolicy p.config.token).enabled with
  | false => exact .inl henabled
  | true =>
    rw [grantedSession_enabled henabled]
    exact .inr (.inr (.inl rfl))

theorem status_granted {p : PreparedHostedToken} {grantType refreshToken : String}
    {issuedAt committedAt : Time} :
    (grantedSession p grantType issuedAt committedAt refreshToken).status = .token_issued := by
  cases henabled : (refreshTokenPolicy p.config.token).enabled with
  | false =>
    rw [grantedSession_disabled henabled]
    rfl
  | true =>
    rw [grantedSession_enabled henabled]
    rfl

theorem expiresAt_granted (p : PreparedHostedToken) (grantType : String)
    (issuedAt committedAt : Time) (refreshToken : String) :
    p.session.expiresAt ≤
        (grantedSession p grantType issuedAt committedAt refreshToken).expiresAt ∧
      committedAt.plusSeconds (hostedTokenLifetime p.config) ≤
        (grantedSession p grantType issuedAt committedAt refreshToken).expiresAt := by
  have hretains (s : ChainedAsSession) (t : Time) :
      s.expiresAt ≤ (retainSession s t).expiresAt ∧ t ≤ (retainSession s t).expiresAt :=
    ⟨Nat.le_trans (Nat.le_max_left _ _) (Nat.le_max_left _ _),
      Nat.le_trans (Nat.le_max_right _ _) (Nat.le_max_left _ _)⟩
  cases henabled : (refreshTokenPolicy p.config.token).enabled with
  | false =>
    rw [grantedSession_disabled henabled]
    exact hretains (issuedSession p) _
  | true =>
    rw [grantedSession_enabled henabled]
    exact hretains ((issuedSession p).withRefreshToken _ _) _

theorem getLast?_more {first : Time} {log : List Time}
    (hfirst : ∀ e, log.getLast? = some e → e = first) : (first :: log).getLast? = some first := by
  cases log with
  | nil => rfl
  | cons e log =>
    rw [List.getLast?_cons_cons]
    have hlast : (e :: log).getLast? = some ((e :: log).getLast (List.cons_ne_nil _ _)) :=
      List.getLast?_eq_some_getLast _
    rw [hlast, hfirst _ hlast]

/-- **A grant keeps the invariant**, if the refresh expiry it enforces is the first one's. -/
theorem Inv.grant (h : Inv config l) (hrow : l.row = some session) {grantType : String}
    {g : GrantRun} (hfirst : ∀ e, l.refreshExpiries.getLast? = some e →
      e = grantedRefreshExpiry (refreshTokenPolicy config.token) session grantType g.issuedAt) :
    Inv config (l.grant config session grantType g) := by
  refine ⟨?_, ?_, ?_, ?_, ?_⟩
  · intro e he
    cases henabled : (refreshTokenPolicy config.token).enabled with
    | false =>
      simp only [Lifeline.grant, henabled, h.silent henabled] at he
      cases he
    | true =>
      simp only [Lifeline.grant, henabled, if_true] at he ⊢
      rw [getLast?_more hfirst]
      rcases List.mem_cons.mp he with rfl | hbefore
      · rfl
      · rw [hfirst e (h.fixed e hbefore)]
  · intro s hs hne
    cases hs
    refine ⟨by simp [status_granted], ?_⟩
    cases henabled : (refreshTokenPolicy config.token).enabled with
    | false =>
      simp only [Lifeline.grant, henabled, h.silent henabled] at hne
      exact (hne rfl).elim
    | true =>
      simp only [Lifeline.grant, henabled, if_true]
      rw [getLast?_more hfirst, grantedSession_enabled (p := g.prepared config session) henabled]
      rfl
  · intro s hs e he
    cases hs
    obtain ⟨hold, hnew⟩ := expiresAt_granted (g.prepared config session) grantType g.issuedAt
      g.committedAt g.refreshToken
    rcases List.mem_cons.mp he with rfl | hbefore
    · exact Nat.le_trans (accessTokenExpiry_le g) hnew
    · exact Nat.le_trans (h.retained session hrow e hbefore) hold
  · intro s hs
    cases hs
    exact keptLongEnough_granted (p := g.prepared config session)
  · intro hdisabled
    simp [Lifeline.grant, hdisabled, h.silent hdisabled]

/-- A row that changes neither its expiries nor its refresh token, and is not authorized
again. -/
theorem Inv.mono (h : Inv config l) {row : Option ChainedAsSession}
    (hrow : ∀ session, row = some session → ∃ before, l.row = some before ∧
      (session = before ∨ session = { before with status := .expired })) :
    Inv config { l with row } := by
  refine ⟨h.fixed, ?_, ?_, ?_, h.silent⟩
  · intro session hsession hne
    obtain ⟨before, hbefore, rfl | rfl⟩ := hrow session hsession
    · exact h.stored _ hbefore hne
    · exact ⟨nofun, (h.stored before hbefore hne).2⟩
  · intro session hsession
    obtain ⟨before, hbefore, rfl | rfl⟩ := hrow session hsession
    · exact h.retained _ hbefore
    · exact h.retained before hbefore
  · intro session hsession
    obtain ⟨before, hbefore, rfl | rfl⟩ := hrow session hsession
    · exact h.kept _ hbefore
    · exact h.kept before hbefore

/-- **Every step keeps the invariant.** -/
theorem Inv.step (h : Inv config l) (step : SessionStep) : Inv config (l.step config step) := by
  cases step with
  | code g =>
    simp only [Lifeline.step]
    split
    · rename_i session hrow
      split
      · rename_i haccepts
        refine h.grant hrow fun e he => ?_
        -- A session that is authorized has had no grant.
        have hauthorized : session.status = .authorized := by
          simp only [acceptsCode, Bool.and_eq_true, beq_iff_eq] at haccepts
          exact haccepts.1
        have hne : l.refreshExpiries ≠ [] := by
          rintro hnil
          rw [hnil] at he
          cases he
        exact absurd hauthorized (h.stored session hrow hne).1
      · split
        · exact h.mono fun s hs => ⟨session, hrow, .inr (Option.some.inj hs).symm⟩
        · exact h
    · exact h
  | refresh refreshToken g =>
    simp only [Lifeline.step]
    split
    · rename_i session hrow
      split
      · refine h.grant hrow fun e he => ?_
        have hne : l.refreshExpiries ≠ [] := by
          rintro hnil
          rw [hnil] at he
          cases he
        have hstored := (h.stored session hrow hne).2
        rw [he] at hstored
        simp [grantedRefreshExpiry, enforcedRefreshTokenExpiry, hstored]
      · exact h
    · exact h
  | deleteExpired now =>
    refine h.mono fun s hs => ⟨s, ?_, .inl rfl⟩
    exact (Option.filter_eq_some_iff.mp hs).1

theorem Inv.run (h : Inv config l) (steps : List SessionStep) :
    Inv config (l.run config steps) := by
  induction steps generalizing l with
  | nil => exact h
  | cons step steps ih => exact ih (h.step step)

theorem inv_start (hkept : KeptLongEnough config session) : Inv config { row := some session } := by
  refine ⟨fun e he => (nomatch he), fun s _ hne => (hne rfl).elim, fun s _ e he => (nomatch he),
    fun s hs => ?_, fun _ => rfl⟩
  cases hs
  exact hkept

end HostedLifetime

/-! ## The result -/

open HostedLifetime in
/-- **The lifetimes of a session nest in every run** exactly if its row is kept long
enough. -/
theorem lifetimes_nest_iff (config : AuthorizationServerConfig) (session : ChainedAsSession) :
    (∀ steps, LifetimesNest config (Lifeline.run config { row := some session } steps)) ↔
      KeptLongEnough config session := by
  constructor
  · intro hnest
    exact usable_iff.mp fun now => (hnest []).usable session now rfl
  · exact fun hkept steps => ((inv_start hkept).run steps).nest

namespace HostedLifetime

def ninetyDays : AuthorizationServerConfig where
  id := "chained"
  type := .chained
  token := some { refreshTokenExpiresInSeconds := some 7776000 }

/-- A session that was issued its refresh token before the expiry was stored. -/
def legacySession : ChainedAsSession where
  id := "session"
  tenantId := "tenant"
  status := .token_issued
  issuerState := "state"
  clientId := "wallet"
  redirectUri := "https://wallet/cb"
  refreshToken := some "refresh"
  createdAt := 0
  expiresAt := 600000

def fortyDays : Time := 3456000000

end HostedLifetime

open HostedLifetime in
/-- After forty days the row is deleted, fifty days before its refresh token expires. -/
theorem lifetimes_not_nested :
    (Lifeline.run ninetyDays { row := some legacySession } [.deleteExpired fortyDays]).row = none ∧
      acceptsRefreshToken (refreshTokenPolicy ninetyDays.token) legacySession "refresh" fortyDays =
        true ∧
      ¬LifetimesNest ninetyDays (Lifeline.run ninetyDays { row := some legacySession } []) := by
  have hdeleted : isDeletedExpired fortyDays legacySession = true := by decide +kernel
  have haccepts : acceptsRefreshToken (refreshTokenPolicy ninetyDays.token) legacySession "refresh"
      fortyDays = true := by decide +kernel
  refine ⟨?_, haccepts, ?_⟩
  · show (some legacySession).filter (fun row => !isDeletedExpired fortyDays row) = none
    simp [hdeleted]
  · intro hnest
    rw [hnest.usable legacySession fortyDays rfl hdeleted "refresh"] at haccepts
    cases haccepts

end Eudiplo
