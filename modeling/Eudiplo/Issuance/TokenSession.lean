import Eudiplo.Shared.Values
import Eudiplo.Shared.Results

/-!
# The session of an access token

`CorrelateCredentialTokenSession`: which session a verified access token names, and the two ways
to ask for it, by loading the session and by comparing with a session id.
-/

namespace Eudiplo

namespace TokenSession

inductive AuthorizationServerTokenKind where
  | local
  | chained
  | external
  deriving DecidableEq

structure CredentialTokenIssuers where
  localIssuer : String
  chainedIssuer : String
  hasChainedAuthorizationServer : Bool
  managedAuthorizationServerIssuers : List String

/-- `ClassifyAuthorizationServerToken.execute`. -/
def classify (issuers : CredentialTokenIssuers) (tokenIssuer : String) :
    AuthorizationServerTokenKind :=
  if tokenIssuer == issuers.localIssuer then .local
  else if (issuers.hasChainedAuthorizationServer && tokenIssuer == issuers.chainedIssuer) ||
      issuers.managedAuthorizationServerIssuers.contains tokenIssuer then .chained
  else .external

/-- `VerifiedCredentialToken`: `iss` and `sub` are strings, any other claim may be anything. -/
structure VerifiedCredentialToken where
  iss : String
  sub : String
  claims : List (String × Json)

/-- `token[claim]`. -/
def VerifiedCredentialToken.claim? (token : VerifiedCredentialToken) (name : String) :
    Option Json :=
  if name == "iss" then some (.str token.iss)
  else if name == "sub" then some (.str token.sub)
  else (token.claims.find? fun claim => claim.1 == name).map (·.2)

/-- `if (value)`. -/
def isTruthy : Option Json → Bool
  | none => false
  | some .null => false
  | some (.bool b) => b
  | some (.num mantissa _) => mantissa != 0
  | some (.str s) => s != ""
  | some (.arr _) => true
  | some (.obj _) => true

structure ExternalCredentialAuthorizationServer where
  id : String
  bindingClaim : Option String

structure ExternalServer where
  advertised : Bool
  configuration : Option ExternalCredentialAuthorizationServer

structure SessionData where
  id : String
  authorizationServerId : Option String
  externalIssuer : Option String
  externalSubject : Option String
  deriving DecidableEq

inductive Failure where
  | denied (message : String)
  | sessionNotFound
  | other (message : String)
  deriving DecidableEq

structure Sources where
  tokenIssuers : Except Failure CredentialTokenIssuers
  externalServer : String → Except Failure ExternalServer
  findForTenant : Json → Except Failure (Option SessionData)

def Sources.getForTenant (sources : Sources) (sessionId : Json) : Except Failure SessionData :=
  if isTruthy (some sessionId) then do
    match ← sources.findForTenant sessionId with
    | some session => .ok session
    | none => .error .sessionNotFound
  else .error .sessionNotFound

inductive CredentialTokenSessionReference where
  | local (sessionId : Json)
  | chained (sessionId : Json) (viaChainedIssuer : Bool)
  | external (sessionId : Json) (authorizationServerId bindingClaim : String)

def CredentialTokenSessionReference.sessionId : CredentialTokenSessionReference → Json
  | .local sessionId => sessionId
  | .chained sessionId _ => sessionId
  | .external sessionId _ _ => sessionId

def missingBindingClaim (iss : String) (bindingClaim : Option String) : Failure :=
  .denied ("External authorization server '" ++ iss ++
    "' is missing the configured session-binding claim '" ++ bindingClaim.getD "<unset>" ++ "'")

variable (sources : Sources) (token : VerifiedCredentialToken)

def chainedReference (issuers : CredentialTokenIssuers) :
    Except Failure CredentialTokenSessionReference :=
  let issuerState := token.claim? "issuer_state"
  if isTruthy issuerState then
    .ok (.chained (issuerState.getD .null) (token.iss == issuers.chainedIssuer))
  else .error (.denied "Chained AS token is missing issuer_state claim")

def externalReference : Except Failure CredentialTokenSessionReference := do
  let server ← sources.externalServer token.iss
  if !server.advertised then
    .error (.denied ("Token issuer '" ++ token.iss ++
      "' is not a configured authorization server"))
  else
    match server.configuration with
    | none => .error (.denied ("Token issuer '" ++ token.iss ++
        "' is not a configured external authorization server"))
    | some configuration =>
      let bindingValue := token.claim? (configuration.bindingClaim.getD "")
      if truthy configuration.bindingClaim && isTruthy bindingValue then
        .ok (.external (bindingValue.getD .null) configuration.id
          (configuration.bindingClaim.getD ""))
      else .error (missingBindingClaim token.iss configuration.bindingClaim)

def execute : Except Failure CredentialTokenSessionReference := do
  let issuers ← sources.tokenIssuers
  match classify issuers token.iss with
  | .chained => chainedReference token issuers
  | .external => externalReference sources token
  | .local => .ok (.local (.str token.sub))

/-- `isBoundTo`: external tokens must carry the identity bound to the session. -/
def isBoundTo (reference : CredentialTokenSessionReference) (token : VerifiedCredentialToken)
    (session : SessionData) : Bool :=
  if reference.sessionId.str? != some session.id then false
  else
    match reference with
    | .external _ authorizationServerId _ =>
      session.authorizationServerId == some authorizationServerId &&
        session.externalIssuer == some token.iss && session.externalSubject == some token.sub
    | _ => true

def resolveSession : Except Failure SessionData := do
  let reference ← execute sources token
  let session ← sources.getForTenant reference.sessionId
  if isBoundTo reference token session then .ok session
  else .error (.denied "The access token is not associated with a valid session")

def belongs (reference : CredentialTokenSessionReference) (sessionId : String) :
    Except Failure Bool :=
  if reference.sessionId.str? != some sessionId then .ok false
  else
    match reference with
    | .external .. =>
      match sources.getForTenant (.str sessionId) with
      | .ok session => .ok (isBoundTo reference token session)
      | .error .sessionNotFound => .ok false
      | .error failure => .error failure
    | _ => .ok true

def belongsToSession (sessionId : String) : Except Failure Bool :=
  match execute sources token with
  | .ok reference => belongs sources token reference sessionId
  | .error (.denied _) => .ok false
  | .error failure => .error failure

end TokenSession

end Eudiplo

/-!
# Do the two correlations of a token agree?

Loading the session of a token and comparing the token with a session id go by the same
reference, but only an external token makes the comparison load the session: a local or chained
token belongs to a session that does not exist any more.
-/

namespace Eudiplo

open Results

namespace TokenSession

variable {sources : Sources} {token : VerifiedCredentialToken} {s : String}
  {reference : CredentialTokenSessionReference} {session : SessionData}

/-- **The two correlations agree** on a token and a session id. -/
def CorrelationsAgree (sources : Sources) (token : VerifiedCredentialToken) (s : String) : Prop :=
  belongsToSession sources token s = .ok true ↔
    ∃ session, resolveSession sources token = .ok session ∧ session.id = s

/-- The token is a local one whose subject, or a chained one whose `issuer_state`, is the id. -/
inductive NamesDirectly (sources : Sources) (token : VerifiedCredentialToken) (s : String) :
    Prop where
  | local {issuers : CredentialTokenIssuers} : sources.tokenIssuers = .ok issuers →
      classify issuers token.iss = .local → token.sub = s → NamesDirectly sources token s
  | chained {issuers : CredentialTokenIssuers} : sources.tokenIssuers = .ok issuers →
      classify issuers token.iss = .chained → s ≠ "" →
      token.claim? "issuer_state" = some (.str s) → NamesDirectly sources token s

/-- The store has the session, under exactly this id. -/
def Stored (sources : Sources) (s : String) : Prop :=
  ∃ session, sources.getForTenant (.str s) = .ok session ∧ session.id = s

theorem eq_str_of_str? {v : Json} (h : v.str? = some s) : v = .str s := by
  cases v with
  | str s' => exact congrArg _ (Option.some.inj h)
  | _ => cases h

def CredentialTokenSessionReference.direct : CredentialTokenSessionReference → Bool
  | .external .. => false
  | _ => true

theorem externalReference_spec (h : externalReference sources token = .ok reference) :
    reference.direct = false := by
  obtain ⟨server, -, h⟩ := bind_eq_ok.mp h
  split at h
  · cases h
  · split at h
    · cases h
    · dsimp only at h
      split at h
      · cases h
        rfl
      · cases h

/-- **Who names a session directly**: a reference that is not external comes from the subject
of a local token or from the `issuer_state` of a chained one. -/
theorem namesDirectly_iff :
    NamesDirectly sources token s ↔ ∃ reference, execute sources token = .ok reference ∧
      reference.direct = true ∧ reference.sessionId = .str s := by
  constructor
  · rintro (⟨hissuers, hkind, hsub⟩ | @⟨issuers, hissuers, hkind, hs, hstate⟩)
    · refine ⟨.local (.str token.sub), ?_, rfl, congrArg _ hsub⟩
      exact bind_eq_ok.mpr ⟨_, hissuers, by rw [hkind]⟩
    · refine ⟨.chained (.str s) (token.iss == issuers.chainedIssuer),
        bind_eq_ok.mpr ⟨_, hissuers, ?_⟩, rfl, rfl⟩
      rw [hkind]
      dsimp only
      rw [chainedReference, hstate, if_pos (by simpa [isTruthy] using hs)]
      rfl
  · rintro ⟨reference, hexecute, hdirect, hid⟩
    obtain ⟨issuers, hissuers, h⟩ := bind_eq_ok.mp hexecute
    cases hkind : classify issuers token.iss with
    | «local» =>
      rw [hkind] at h
      obtain rfl := Except.ok.inj h
      exact .local hissuers hkind (Json.str.inj hid)
    | chained =>
      rw [hkind] at h
      dsimp only at h
      unfold chainedReference at h
      dsimp only at h
      split at h
      · rename_i htruthy
        obtain rfl := Except.ok.inj h
        cases hstate : token.claim? "issuer_state" with
        | none =>
          rw [hstate] at htruthy
          cases htruthy
        | some v =>
          rw [hstate] at hid htruthy
          obtain rfl : v = .str s := hid
          exact .chained hissuers hkind (by simpa [isTruthy] using htruthy) hstate
      · cases h
    | external =>
      rw [hkind] at h
      rw [externalReference_spec h] at hdirect
      cases hdirect

theorem resolveSession_iff :
    resolveSession sources token = .ok session ↔ ∃ reference,
      execute sources token = .ok reference ∧
      sources.getForTenant reference.sessionId = .ok session ∧
      isBoundTo reference token session = true := by
  constructor
  · intro h
    obtain ⟨reference, hexecute, h⟩ := bind_eq_ok.mp h
    obtain ⟨found, hfound, h⟩ := bind_eq_ok.mp h
    split at h
    · rename_i hbound
      obtain rfl := Except.ok.inj h
      exact ⟨reference, hexecute, hfound, hbound⟩
    · cases h
  · rintro ⟨reference, hexecute, hfound, hbound⟩
    exact bind_eq_ok.mpr ⟨_, hexecute, bind_eq_ok.mpr ⟨_, hfound, if_pos hbound⟩⟩

theorem belongsToSession_iff :
    belongsToSession sources token s = .ok true ↔ ∃ reference,
      execute sources token = .ok reference ∧ reference.sessionId = .str s ∧
      (reference.direct = true ∨ ∃ session, sources.getForTenant (.str s) = .ok session ∧
        isBoundTo reference token session = true) := by
  unfold belongsToSession
  cases hexecute : execute sources token with
  | error failure => cases failure <;> simp
  | ok reference =>
    by_cases hid : reference.sessionId.str? = some s
    · have heq := eq_str_of_str? hid
      have hne : (reference.sessionId.str? != some s) = false := by simp [hid]
      cases reference with
      | external sessionId server claim =>
        simp only [belongs, hne, Bool.false_eq_true, if_false]
        constructor
        · intro h
          split at h
          · rename_i session hfound
            exact ⟨_, rfl, heq, .inr ⟨session, hfound, Except.ok.inj h⟩⟩
          · cases h
          · cases h
        · rintro ⟨_, hreference, -, hdirect | ⟨session, hfound, hbound⟩⟩
          · obtain rfl := Except.ok.inj hreference
            cases hdirect
          · obtain rfl := Except.ok.inj hreference
            rw [hfound]
            exact congrArg _ hbound
      | «local» sessionId =>
        simp only [belongs, hne, Bool.false_eq_true, if_false, true_iff]
        exact ⟨_, rfl, heq, .inl rfl⟩
      | chained sessionId via =>
        simp only [belongs, hne, Bool.false_eq_true, if_false, true_iff]
        exact ⟨_, rfl, heq, .inl rfl⟩
    · have hne : (reference.sessionId.str? != some s) = true := by simp [hid]
      simp only [belongs, hne, if_true]
      refine iff_of_false (fun h => by cases h) ?_
      rintro ⟨_, hreference, hs, -⟩
      obtain rfl := Except.ok.inj hreference
      rw [hs] at hid
      exact hid rfl

theorem id_of_bound (h : isBoundTo reference token session = true) :
    reference.sessionId = .str session.id := by
  unfold isBoundTo at h
  split at h
  · cases h
  · rename_i hid
    exact eq_str_of_str? (by simpa using hid)

theorem bound_of_direct (hdirect : reference.direct = true)
    (hid : reference.sessionId = .str session.id) : isBoundTo reference token session = true := by
  have hstr : reference.sessionId.str? = some session.id := by rw [hid]; rfl
  cases reference with
  | external => cases hdirect
  | «local» => simpa [isBoundTo] using hstr
  | chained => simpa [isBoundTo] using hstr

/-- **The two correlations agree** on a token and a session id if and only if the token does not
name the id directly, as a local or a chained token does, or the session is stored. -/
theorem correlations_agree_iff (sources : Sources) (token : VerifiedCredentialToken)
    (s : String) :
    CorrelationsAgree sources token s ↔ (NamesDirectly sources token s → Stored sources s) := by
  rw [CorrelationsAgree, belongsToSession_iff]
  constructor
  · intro hagree hnames
    obtain ⟨reference, hexecute, hdirect, hid⟩ := namesDirectly_iff.mp hnames
    obtain ⟨session, hsession, hs⟩ := hagree.mp ⟨reference, hexecute, hid, .inl hdirect⟩
    obtain ⟨reference', hexecute', hfound, -⟩ := resolveSession_iff.mp hsession
    obtain rfl := Except.ok.inj (hexecute'.symm.trans hexecute)
    rw [hid] at hfound
    exact ⟨session, hfound, hs⟩
  · intro hstored
    constructor
    · rintro ⟨reference, hexecute, hid, hdirect | ⟨session, hfound, hbound⟩⟩
      · obtain ⟨session, hfound, hs⟩ :=
          hstored (namesDirectly_iff.mpr ⟨reference, hexecute, hdirect, hid⟩)
        refine ⟨session, resolveSession_iff.mpr ⟨reference, hexecute, hid ▸ hfound, ?_⟩, hs⟩
        exact bound_of_direct hdirect (by rw [hid, hs])
      · have hsession := Json.str.inj ((id_of_bound hbound).symm.trans hid)
        exact ⟨session, resolveSession_iff.mpr ⟨reference, hexecute, hid ▸ hfound, hbound⟩,
          hsession⟩
    · rintro ⟨session, hsession, hs⟩
      obtain ⟨reference, hexecute, hfound, hbound⟩ := resolveSession_iff.mp hsession
      have hid : reference.sessionId = .str s := by rw [id_of_bound hbound, hs]
      exact ⟨reference, hexecute, hid, .inr ⟨session, hid ▸ hfound, hbound⟩⟩

def emptyTenant : Sources where
  tokenIssuers := .ok
    { localIssuer := "https://issuer.example", chainedIssuer := "https://issuer.example/chained-as"
      hasChainedAuthorizationServer := false, managedAuthorizationServerIssuers := [] }
  externalServer := fun _ => .ok { advertised := false, configuration := none }
  findForTenant := fun _ => .ok none

/-- **A local token belongs to a session that has been deleted**, though no session is found for
it. -/
theorem belongs_to_deleted_session :
    belongsToSession emptyTenant ⟨"https://issuer.example", "session", []⟩ "session" = .ok true ∧
    resolveSession emptyTenant ⟨"https://issuer.example", "session", []⟩ =
      .error .sessionNotFound ∧
    ¬CorrelationsAgree emptyTenant ⟨"https://issuer.example", "session", []⟩ "session" := by
  have hbelongs : belongsToSession emptyTenant ⟨"https://issuer.example", "session", []⟩
      "session" = .ok true := rfl
  have hresolve : resolveSession emptyTenant ⟨"https://issuer.example", "session", []⟩ =
      .error .sessionNotFound := rfl
  refine ⟨hbelongs, hresolve, fun hagree => ?_⟩
  obtain ⟨session, hsession, -⟩ := hagree.mp hbelongs
  rw [hresolve] at hsession
  cases hsession

end TokenSession

end Eudiplo
