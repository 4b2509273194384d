import Eudiplo.OAuth.TokenGrantRules
import Eudiplo.Verifier.Acceptance

/-!
# Which configuration a token authorises

`ResolveAuthorizedCredentialConfiguration`: the configuration that a credential request names, by an
identifier of the token or by its id, and whether the token's `authorization_details` list it.
-/

namespace Eudiplo

namespace CredentialAuthorization

/-- `CredentialAuthorizationErrorCode`. -/
inductive ErrorCode where
  | invalid_credential_request
  | unknown_credential_identifier
  deriving DecidableEq

/-- `CredentialAuthorizationError`. -/
structure Error where
  code : ErrorCode
  message : String
  deriving DecidableEq

/-- `ResolveAuthorizedCredentialConfigurationInput`. -/
structure Input where
  credentialIdentifier : Option String := none
  credentialConfigurationId : Option String := none
  authorizationDetails : Option Json := none

/-- Does a detail carry this credential identifier? -/
def carries (credentialIdentifier : String) (detail : Json) : Bool :=
  ((detail.field? "credential_identifiers").bind Json.arr?).any fun identifiers =>
    identifiers.any fun identifier => identifier.str? == some credentialIdentifier

def resolveIdentifier (credentialIdentifier : String) (authorizationDetails : Option Json) :
    Except Error String :=
  let details := (authorizationDetails.bind Json.arr?).getD []
  match (details.find? (carries credentialIdentifier)).bind
      fun matching => (matching.field? "credential_configuration_id").bind Json.str? with
  | some id => .ok id
  | none => .error ⟨.unknown_credential_identifier,
      "Credential identifier '" ++ credentialIdentifier ++ "' is unknown"⟩

/-- The configurations that details of type `openid_credential` name. -/
def authorizedIds (details : List Json) : List String :=
  (details.filter fun detail => (detail.field? "type").bind Json.str? == some "openid_credential")
    |>.filterMap fun detail => (detail.field? "credential_configuration_id").bind Json.str?

/-- `enforceAuthorizationDetails`: no list and an empty one restrict nothing. -/
def enforceAuthorizationDetails (authorizationDetails : Option Json)
    (requestedCredentialConfigurationId : String) : Except Error Unit :=
  match (authorizationDetails.bind Json.arr?).getD [] with
  | [] => .ok ()
  | details =>
    if (authorizedIds details).isEmpty then
      .error ⟨.invalid_credential_request,
        "Access token is not authorized for any credential configuration"⟩
    else if (authorizedIds details).contains requestedCredentialConfigurationId then .ok ()
    else .error ⟨.invalid_credential_request,
      "Access token is not authorized for credential_configuration_id '" ++
        requestedCredentialConfigurationId ++ "'"⟩

def requestedConfiguration (input : Input) : Except Error (Option String) :=
  if truthy input.credentialIdentifier then
    some <$> resolveIdentifier (input.credentialIdentifier.getD "") input.authorizationDetails
  else .ok input.credentialConfigurationId

def authorize (authorizationDetails : Option Json) (credentialConfigurationId : Option String) :
    Except Error String :=
  if truthy credentialConfigurationId then do
    enforceAuthorizationDetails authorizationDetails (credentialConfigurationId.getD "")
    return credentialConfigurationId.getD ""
  else .error ⟨.invalid_credential_request, "Credential configuration identifier is missing"⟩

def execute (input : Input) : Except Error String := do
  let credentialConfigurationId ← requestedConfiguration input
  authorize input.authorizationDetails credentialConfigurationId

end CredentialAuthorization

end Eudiplo

/-!
# Do authorization details grant no more than requested?

The token endpoint keeps the valid entries of a request, without comparing them with the offer, and
an empty list restricts nothing at the credential endpoint: `details_grant_what_is_offered`.
-/

namespace Eudiplo

namespace CredentialAuthorization

/-! ## The claim -/

/-- The request asks for this configuration: by its identifier, else by its id. -/
def Names (input : Input) (id : String) : Prop :=
  id ≠ "" ∧ (if truthy input.credentialIdentifier then input.credentialIdentifier
    else input.credentialConfigurationId) = some id

def Input.under (input : Input) (details : Option (List Json)) : Input :=
  { input with authorizationDetails := details.map .arr }

def listedIds (details : Option (List Json)) : List String := authorizedIds (details.getD [])

/-- **An unrestricted token**: it authorises every configuration. -/
def Unrestricted (details : Option (List Json)) : Prop :=
  ∀ id, id ≠ "" →
    execute (Input.under { credentialConfigurationId := some id } details) = .ok id

variable (parseJson : String → Option Json) (session : Session)

def requested : List Json :=
  (requestedDetails parseJson (session.auth_queries.bind (·.authorization_details))).getD []

def offered : List String := (session.credentialPayload.map (·.credentialConfigurationIds)).getD []

/-- **The details grant what is requested and offered**: a request without a valid entry that is
offered gives no unrestricted token, and a token authorises the configurations that it lists and
that are offered. -/
structure GrantsOffered : Prop where
  restricted : ∀ details, authorizationDetailsForToken parseJson session = .ok details →
    requested parseJson session ≠ [] →
    (∀ id ∈ requestedIds (requested parseJson session), id ∉ offered session) →
    ¬Unrestricted details
  exact : ∀ details, authorizationDetailsForToken parseJson session = .ok details →
    ∀ input id, execute (Input.under input details) = .ok id ↔
      Names input id ∧ id ∈ listedIds details ∧ id ∈ offered session

/-- **Requested within the offer**: an entry is `null`, so that there is no token; or some entry is
valid and all valid ones are offered; without entries, the offer names a configuration. -/
def WithinOffer : Prop :=
  if requested parseJson session = [] then offered session ≠ []
  else (requested parseJson session).any Json.isNull = true ∨
    requestedIds (requested parseJson session) ≠ [] ∧
      ∀ id ∈ requestedIds (requested parseJson session), id ∈ offered session

variable {parseJson session} {details : Option (List Json)} {input : Input} {id : String}

/-! ## Tokens -/

theorem authorizationDetailsForToken_eq : authorizationDetailsForToken parseJson session =
    if requested parseJson session = [] then
      .ok (if offered session = [] then none else some ((offered session).map credentialDetail))
    else if (requested parseJson session).any Json.isNull then
      .error (.http 500 "Internal server error" none)
    else .ok (some ((requestedIds (requested parseJson session)).map credentialDetail)) := by
  unfold authorizationDetailsForToken requested
  unfold offered
  generalize session.credentialPayload.map (·.credentialConfigurationIds) = ids
  generalize requestedDetails parseJson (session.auth_queries.bind (·.authorization_details)) = ads
  rcases ads with _ | _ | ⟨ad, ads⟩
  · rcases ids with _ | _ | ⟨id, ids⟩ <;> rfl
  · rcases ids with _ | _ | ⟨id, ids⟩ <;> rfl
  · rw [Option.getD_some, if_neg (List.cons_ne_nil ad ads)]

theorem authorizedIds_map (ids : List String) : authorizedIds (ids.map credentialDetail) = ids := by
  induction ids with
  | nil => rfl
  | cons id ids ih =>
    show id :: authorizedIds (ids.map credentialDetail) = _
    rw [ih]

theorem requestedIds_ne_empty {ads : List Json} (h : id ∈ requestedIds ads) : id ≠ "" := by
  obtain ⟨ad, -, had⟩ := List.mem_filterMap.mp h
  split at had
  · split at had
    · rename_i hne
      obtain rfl := Option.some.inj had
      simpa using hne
    · cases had
  · cases had

/-! ## Requests -/

theorem carries_credentialDetail (identifier : String) :
    carries identifier (credentialDetail id) = (id == identifier) := by
  show (some id == some identifier || false) = _
  rw [Bool.or_false]
  rfl

theorem resolveIdentifier_map (ids : List String) (identifier : String) :
    resolveIdentifier identifier (some (.arr (ids.map credentialDetail))) = .ok id ↔
      identifier = id ∧ id ∈ ids := by
  have hfind : (ids.map credentialDetail).find? (carries identifier) =
      (ids.find? (· == identifier)).map credentialDetail := by
    rw [List.find?_map]
    exact congrArg (Option.map credentialDetail)
      (congrArg (ids.find? ·) (funext fun id => carries_credentialDetail identifier))
  unfold resolveIdentifier
  show (match ((ids.map credentialDetail).find? (carries identifier)).bind
      fun matching => (matching.field? "credential_configuration_id").bind Json.str? with
    | some id => Except.ok id
    | none => _) = _ ↔ _
  rw [hfind]
  cases hid : ids.find? (· == identifier) with
  | none =>
    refine ⟨nofun, ?_⟩
    rintro ⟨rfl, hmem⟩
    exact absurd (beq_self_eq_true identifier) (List.find?_eq_none.mp hid identifier hmem)
  | some found =>
    have hfound := List.find?_some hid
    rw [beq_iff_eq] at hfound
    subst hfound
    constructor
    · intro h
      obtain rfl : found = id := Except.ok.inj h
      exact ⟨rfl, List.mem_of_find?_eq_some hid⟩
    · rintro ⟨rfl, -⟩
      rfl

theorem enforce_map {ids : List String} (hne : ids ≠ []) :
    enforceAuthorizationDetails (some (.arr (ids.map credentialDetail))) id = .ok () ↔
      id ∈ ids := by
  obtain ⟨first, rest, rfl⟩ := List.exists_cons_of_ne_nil hne
  have hids := authorizedIds_map (first :: rest)
  unfold enforceAuthorizationDetails
  rw [List.map_cons] at hids ⊢
  dsimp only [Option.bind_some, Json.arr?, Option.getD_some]
  rw [hids, if_neg (by simp)]
  split
  · rename_i hcontains
    exact ⟨fun _ => List.contains_iff_mem.mp hcontains, fun _ => rfl⟩
  · rename_i hcontains
    exact ⟨nofun, fun hmem => absurd (List.contains_iff_mem.mpr hmem) hcontains⟩

theorem unrestricted_of_empty (h : details.getD [] = []) : Unrestricted details := by
  intro id hne
  have htruthy : truthy (some id) = true := truthy_iff.mpr ⟨id, rfl, hne⟩
  have hauthorize (authorizationDetails : Option Json)
      (hnone : (authorizationDetails.bind Json.arr?).getD [] = []) :
      authorize authorizationDetails (some id) = .ok id := by
    unfold authorize enforceAuthorizationDetails
    rw [if_pos htruthy, hnone]
    rfl
  cases details with
  | none => exact hauthorize none rfl
  | some details =>
    obtain rfl : details = [] := h
    exact hauthorize (some (.arr [])) rfl

theorem authorize_iff {ids : List String} (hne : ids ≠ []) {named : Option String} :
    authorize (some (.arr (ids.map credentialDetail))) named = .ok id ↔
      id ≠ "" ∧ named = some id ∧ id ∈ ids := by
  unfold authorize
  cases htruthy : truthy named with
  | false =>
    refine ⟨nofun, ?_⟩
    rintro ⟨hid, rfl, -⟩
    rw [truthy_iff.mpr ⟨id, rfl, hid⟩] at htruthy
    cases htruthy
  | true =>
    obtain ⟨name, rfl, hname⟩ := truthy_iff.mp htruthy
    rw [if_pos rfl, Option.getD_some, Results.bind_eq_ok]
    constructor
    · rintro ⟨_, henforced, hid⟩
      obtain rfl := Except.ok.inj hid
      exact ⟨hname, rfl, (enforce_map hne).mp henforced⟩
    · rintro ⟨-, hid, hmem⟩
      obtain rfl := Option.some.inj hid
      exact ⟨(), (enforce_map hne).mpr hmem, rfl⟩

/-- **What a token with a list authorises**: what the request names and the list contains. -/
theorem execute_iff {ids : List String} (hne : ids ≠ []) :
    execute (Input.under input (some (ids.map credentialDetail))) = .ok id ↔
      Names input id ∧ id ∈ ids := by
  unfold execute Names
  rw [Results.bind_eq_ok]
  unfold requestedConfiguration Input.under
  dsimp only [Option.map_some]
  split
  · rename_i htruthy
    obtain ⟨identifier, hidentifier, -⟩ := truthy_iff.mp htruthy
    rw [hidentifier, Option.getD_some]
    constructor
    · rintro ⟨named, hresolved, h⟩
      obtain ⟨hid, rfl, hmem⟩ := (authorize_iff hne).mp h
      cases hname : resolveIdentifier identifier (some (.arr (ids.map credentialDetail))) with
      | error e => rw [hname] at hresolved; cases hresolved
      | ok name =>
        rw [hname] at hresolved
        cases Except.ok.inj hresolved
        exact ⟨⟨hid, congrArg some ((resolveIdentifier_map ids identifier).mp hname).1⟩, hmem⟩
    · rintro ⟨⟨hid, hnames⟩, hmem⟩
      obtain rfl := Option.some.inj hnames
      refine ⟨some identifier, ?_, (authorize_iff hne).mpr ⟨hid, rfl, hmem⟩⟩
      rw [(resolveIdentifier_map ids identifier).mpr ⟨rfl, hmem⟩]
      rfl
  · constructor
    · rintro ⟨named, hnamed, h⟩
      obtain ⟨hid, rfl, hmem⟩ := (authorize_iff hne).mp h
      exact ⟨⟨hid, Except.ok.inj hnamed⟩, hmem⟩
    · rintro ⟨⟨hid, hnames⟩, hmem⟩
      exact ⟨some id, congrArg Except.ok hnames, (authorize_iff hne).mpr ⟨hid, rfl, hmem⟩⟩

theorem exact_of_ids {ids : List String} (hne : ids ≠ [])
    (hoffered : ∀ id ∈ ids, id ∈ offered session) :
    execute (Input.under input (some (ids.map credentialDetail))) = .ok id ↔
      Names input id ∧ id ∈ listedIds (some (ids.map credentialDetail)) ∧ id ∈ offered session := by
  rw [execute_iff hne]
  unfold listedIds
  rw [Option.getD_some, authorizedIds_map]
  exact ⟨fun h => ⟨h.1, h.2, hoffered id h.2⟩, fun h => ⟨h.1, h.2.1⟩⟩

end CredentialAuthorization

open CredentialAuthorization

/-- **Authorization details grant no more than requested and offered**, exactly when the request
stays within the offer. -/
theorem details_grant_what_is_offered (parseJson : String → Option Json) (session : Session) :
    GrantsOffered parseJson session ↔ WithinOffer parseJson session := by
  have heq : authorizationDetailsForToken parseJson session = _ := authorizationDetailsForToken_eq
  unfold WithinOffer
  by_cases hrequested : requested parseJson session = []
  · rw [if_pos hrequested] at heq ⊢
    constructor
    · -- without an offer there is no list, and everything is authorised
      intro h hoffered
      rw [if_pos hoffered] at heq
      have hpid := (h.exact none heq { credentialConfigurationId := some "pid" } "pid").mp
        (unrestricted_of_empty rfl "pid" (by decide))
      exact List.not_mem_nil hpid.2.1
    · intro hoffered
      rw [if_neg hoffered] at heq
      refine ⟨fun _ _ h => absurd hrequested h, fun details hdetails input id => ?_⟩
      obtain rfl := Except.ok.inj (hdetails.symm.trans heq)
      exact exact_of_ids hoffered fun _ h => h
  · rw [if_neg hrequested] at heq ⊢
    cases hnull : (requested parseJson session).any Json.isNull with
    | true =>
      rw [hnull, if_pos rfl] at heq
      refine ⟨fun _ => .inl rfl, fun _ => ⟨fun details h => ?_, fun details h => ?_⟩⟩ <;>
        cases heq.symm.trans h
    | false =>
      rw [hnull, if_neg (by decide)] at heq
      constructor
      · intro h
        have hne : requestedIds (requested parseJson session) ≠ [] := fun hnil =>
          h.restricted _ heq hrequested (by rw [hnil]; exact fun _ h => (List.not_mem_nil h).elim)
            (unrestricted_of_empty (by rw [hnil]; rfl))
        refine .inr ⟨hne, fun id hid => ?_⟩
        have hnames : Names { credentialConfigurationId := some id } id :=
          ⟨requestedIds_ne_empty hid, rfl⟩
        exact ((h.exact _ heq _ id).mp ((execute_iff hne).mpr ⟨hnames, hid⟩)).2.2
      · rintro (hno | ⟨hne, hoffered⟩)
        · cases hno
        · refine ⟨fun details _ _ hfiltered => ?_, fun details hdetails input id => ?_⟩
          · obtain ⟨id, hid⟩ := List.exists_mem_of_ne_nil _ hne
            exact absurd (hoffered id hid) (hfiltered id hid)
          · obtain rfl := Except.ok.inj (hdetails.symm.trans heq)
            exact exact_of_ids hne hoffered

namespace CredentialAuthorization

def requesting (details : List Json) : Session where
  id := "session"
  tenantId := "tenant"
  createdAt := 0
  credentialPayload := some {
    flow := .authorization_code
    credentialConfigurationIds := ["pid"] }
  auth_queries := some { authorization_details := some (.arr details) }

end CredentialAuthorization

/-- **An entry of another type gives an unrestricted token**, and a configuration that is not
offered is authorised. -/
theorem not_details_grant_what_is_offered :
    (authorizationDetailsForToken (fun _ => none)
        (requesting [.obj [("type", .str "openid4vp")]]) = .ok (some []) ∧
      Unrestricted (some []) ∧
      ¬GrantsOffered (fun _ => none) (requesting [.obj [("type", .str "openid4vp")]])) ∧
    ¬GrantsOffered (fun _ => none) (requesting [credentialDetail "admin"]) := by
  refine ⟨⟨rfl, unrestricted_of_empty rfl, fun h => ?_⟩, fun h => ?_⟩
  · exact h.restricted (some []) rfl (List.cons_ne_nil _ _) (by decide) (unrestricted_of_empty rfl)
  · have hadmin := (h.exact (some [credentialDetail "admin"]) rfl
      { credentialConfigurationId := some "admin" } "admin").mp (by rfl)
    exact absurd hadmin.2.2 (by decide)

end Eudiplo
