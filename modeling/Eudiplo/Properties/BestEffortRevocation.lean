import Eudiplo.Verifier.RevocationPolicy

/-!
# What best-effort revocation skips

Mdocs skip the status check exactly if the list could not be fetched, since the class of the error
is recorded.  SD-JWT VCs read the message of the error, and skip it for any list whose refusal has
the words of an unavailable one (`Misread`): a URI of the credential can have them. -/

namespace Eudiplo

namespace RevocationPolicy

/-! ## Unavailable lists -/

theorem lowerCase_append (a b : List Char) : lowerCase (a ++ b) = lowerCase a ++ lowerCase b :=
  List.flatMap_append

theorem includes_append {text : List Char} {word : String} (rest : List Char)
    (h : includes text word = true) : includes (text ++ rest) word = true := by
  unfold includes at h ⊢
  rw [decide_eq_true_eq] at h ⊢
  exact h.trans (List.prefix_append text rest).isInfix

theorem includes_of_split {text : List Char} {word : String} (before behind : List Char)
    (h : text = before ++ word.toList ++ behind) : includes text word = true :=
  decide_eq_true ⟨before, behind, h.symm⟩

theorem includes_fetch :
    includes (lowerCase "Failed to fetch status list from ".toList) "status list" = true ∧
      includes (lowerCase "Failed to fetch status list from ".toList) "failed to fetch" = true :=
  ⟨includes_of_split "failed to fetch ".toList " from ".toList rfl,
    includes_of_split [] " status list from ".toList rfl⟩

theorem isStatusListUnavailableError_fetch (uri message : String) :
    isStatusListUnavailableError
      ("Failed to fetch status list from " ++ uri ++ ": " ++ message) = true := by
  unfold isStatusListUnavailableError
  simp only [String.toList_append, lowerCase_append, List.append_assoc]
  rw [Bool.and_eq_true, List.any_eq_true, List.any_eq_true]
  refine ⟨⟨"status list", List.mem_cons_self, includes_append _ includes_fetch.1⟩,
    ⟨"failed to fetch", ?_, includes_append _ includes_fetch.2⟩⟩
  simp [availabilityWords]

/-- A status list that could not be fetched. -/
def Unfetched {Token : Type} (server : StatusServer) (cached : String → Option Token)
    (accept uri : String) : Prop :=
  cached uri = none ∧ ∃ message, server.get uri accept = .error message

variable {server : StatusServer} {uri : String}

/-- **Unavailable is what could not be fetched**, as a JWT. -/
theorem getStatusListJwt_unavailable :
    (∃ message, getStatusListJwt server uri = .error ⟨message, true⟩) ↔
      Unfetched server server.cachedJwts "application/statuslist+jwt" uri := by
  unfold getStatusListJwt Unfetched fetchStatusListToken
  cases server.cachedJwts uri with
  | some cached => exact iff_of_false (by rintro ⟨_, h⟩; cases h) (by rintro ⟨h, _⟩; cases h)
  | none =>
    cases server.get uri "application/statuslist+jwt" with
    | error message => exact iff_of_true ⟨_, rfl⟩ ⟨rfl, message, rfl⟩
    | ok response =>
      refine iff_of_false ?_ (by rintro ⟨_, _, h⟩; cases h)
      rintro ⟨message, h⟩
      dsimp only at h
      split at h
      · cases h
      · simp only [bind, Except.bind] at h
        cases hdecode : server.decodeJwt response.text <;> rw [hdecode] at h <;> cases h

theorem getStatusListJwt_message {message : String}
    (h : getStatusListJwt server uri = .error ⟨message, true⟩) :
    isStatusListUnavailableError message = true := by
  obtain ⟨hcached, error, herror⟩ := getStatusListJwt_unavailable.mp ⟨message, h⟩
  unfold getStatusListJwt fetchStatusListToken at h
  rw [hcached, herror] at h
  obtain ⟨rfl, -⟩ := JsError.mk.inj (Except.error.inj h)
  exact isStatusListUnavailableError_fetch uri error

theorem mdocFetch_unavailable {kind : ListKind} :
    (∃ message, mdocFetch server kind uri = .error ⟨message, true⟩) ↔
      match kind with
      | .statusList => Unfetched server server.cachedCwts STATUS_LIST_CWT uri
      | .identifierList => ∃ message, server.get uri "application/identifierlist+cwt" =
          .error message := by
  unfold mdocFetch
  cases kind with
  | statusList =>
    dsimp only
    unfold getStatusListCwt Unfetched fetchStatusListToken
    cases server.cachedCwts uri with
    | some cached => exact iff_of_false (by rintro ⟨_, h⟩; cases h) (by rintro ⟨h, _⟩; cases h)
    | none =>
      cases server.get uri STATUS_LIST_CWT with
      | error message => exact iff_of_true ⟨_, rfl⟩ ⟨rfl, message, rfl⟩
      | ok response =>
        refine iff_of_false ?_ (by rintro ⟨_, _, h⟩; cases h)
        rintro ⟨message, h⟩
        dsimp only at h
        split at h
        · simp only [bind, Except.bind] at h
          cases hdecode : server.decodeCwt response.bytes <;> rw [hdecode] at h <;> cases h
        · cases h
  | identifierList =>
    dsimp only
    cases server.get uri "application/identifierlist+cwt" with
    | error message => exact iff_of_true ⟨_, rfl⟩ ⟨message, rfl⟩
    | ok response => exact iff_of_false (by rintro ⟨_, h⟩; cases h) (by rintro ⟨_, h⟩; cases h)

/-! ## The state of a list -/

inductive ListState where
  | unnamed
  | valid
  | unavailable (message : String)
  | refused (message : String)

def Library.listState {Token : Type} (library : Library Token) (credential : library.Credential)
    (fetch : Option (Except JsError Token)) : ListState :=
  match fetch with
  | none => .unnamed
  | some (.ok token) =>
    if library.ShowsValid credential token then .valid
    else .refused (library.complaint credential token)
  | some (.error error) =>
    if error.unavailable then .unavailable error.message else .refused error.message

section States

variable {Token : Type} {library : Library Token} {credential : library.Credential}
  {fetch : Option (Except JsError Token)} {message : String}

theorem listState_unnamed : library.listState credential fetch = .unnamed ↔ fetch = none := by
  unfold Library.listState
  match fetch with
  | none => exact iff_of_true rfl rfl
  | some (.ok token) =>
    refine iff_of_false ?_ fun h => (nomatch h)
    dsimp only
    split <;> exact fun h => (nomatch h)
  | some (.error error) =>
    refine iff_of_false ?_ fun h => (nomatch h)
    dsimp only
    split <;> exact fun h => (nomatch h)

theorem listState_valid : library.listState credential fetch = .valid ↔
    ∃ token, fetch = some (.ok token) ∧ library.ShowsValid credential token := by
  unfold Library.listState
  match fetch with
  | none => exact iff_of_false (fun h => (nomatch h)) fun ⟨_, h, _⟩ => (nomatch h)
  | some (.ok token) =>
    by_cases hvalid : library.ShowsValid credential token
    · simp [hvalid]
    · simp [hvalid]
  | some (.error error) =>
    refine iff_of_false ?_ fun ⟨_, h, _⟩ => (nomatch h)
    dsimp only
    split <;> exact fun h => (nomatch h)

theorem listState_unavailable : library.listState credential fetch = .unavailable message ↔
    fetch = some (.error ⟨message, true⟩) := by
  unfold Library.listState
  match fetch with
  | none => exact iff_of_false (fun h => (nomatch h)) fun h => (nomatch h)
  | some (.ok token) =>
    refine iff_of_false ?_ fun h => (nomatch h)
    dsimp only
    split <;> exact fun h => (nomatch h)
  | some (.error ⟨other, unavailable⟩) => cases unavailable <;> simp

theorem listState_refused : library.listState credential fetch = .refused message ↔
    fetch = some (.error ⟨message, false⟩) ∨ ∃ token, fetch = some (.ok token) ∧
      ¬library.ShowsValid credential token ∧ library.complaint credential token = message := by
  unfold Library.listState
  match fetch with
  | none => exact iff_of_false (fun h => (nomatch h)) (by simp)
  | some (.ok token) =>
    by_cases hvalid : library.ShowsValid credential token
    · simp [hvalid]
    · simp [hvalid]
  | some (.error ⟨other, unavailable⟩) => cases unavailable <;> simp

end States

def ListState.result : ListState → Except JsError Unit
  | .unnamed | .valid => .ok ()
  | .unavailable message => .error ⟨message, true⟩
  | .refused message => .error ⟨message, false⟩

theorem Library.verify_eq {Token : Type} (library : Library Token) {credential : library.Credential}
    (fetch : Option (Except JsError Token)) (hbase : library.verifyBase credential = .ok ()) :
    library.verify credential fetch = (library.listState credential fetch).result := by
  unfold Library.verify Library.listState
  rw [hbase]
  match fetch with
  | none => rfl
  | some (.ok token) =>
    dsimp only
    split <;> rfl
  | some (.error ⟨message, unavailable⟩) => cases unavailable <;> rfl

theorem Library.verify_base {Token : Type} (library : Library Token)
    {credential : library.Credential} {message : String} (fetch : Option (Except JsError Token))
    (hbase : library.verifyBase credential = .error message) :
    library.verify credential fetch = .error ⟨message, false⟩ := by
  unfold Library.verify
  rw [hbase]

/-- Is a credential accepted? -/
def Accepts (result : Except JsError Accepted) : Prop := ∃ accepted, result = .ok accepted

/-! ## SD-JWT VCs -/

section SdJwt

variable {library : SdJwtLibrary} {policy : Policy} {credential : library.Credential}

def sdJwtFetch (server : StatusServer) (claim : StatusClaim) : Option (Except JsError String) :=
  match claim with
  | .statusList uri => some (getStatusListJwt server uri)
  | _ => none

def sdJwtState (server : StatusServer) (library : SdJwtLibrary)
    (credential : library.Credential) : ListState :=
  library.listState credential (sdJwtFetch server (library.statusClaim credential))

theorem verifyWithStatusMode_eq (enabled : Bool) (hbase : library.verifyBase credential = .ok ()) :
    verifyWithStatusMode server library enabled credential =
      (if enabled then sdJwtState server library credential else .unnamed).result.map
        fun _ => ⟨enabled⟩ := by
  unfold verifyWithStatusMode
  rw [Library.verify_eq _ _ hbase]
  cases enabled with
  | false => rfl
  | true =>
    unfold sdJwtState sdJwtFetch
    cases library.statusClaim credential <;> rfl

theorem verifyWithStatusMode_base {message : String} (enabled : Bool)
    (hbase : library.verifyBase credential = .error message) :
    verifyWithStatusMode server library enabled credential = .error ⟨message, false⟩ := by
  unfold verifyWithStatusMode
  rw [Library.verify_base _ _ hbase]
  rfl

def Passes (policy : Policy) (claim : StatusClaim) : ListState → Prop
  | .unnamed => claim = .absent ∨ policy.failClosed = false
  | .valid => True
  | .unavailable message | .refused message =>
    policy.failClosed = false ∧ isStatusListUnavailableError message = true

theorem verifyInMode_eq (hbase : library.verifyBase credential = .ok ()) :
    verifyInMode server library policy credential =
      if policy.enabled then
        match sdJwtState server library credential with
        | .unnamed | .valid => .ok ⟨true⟩
        | .unavailable message =>
          if policy.failClosed = false ∧ isStatusListUnavailableError message = true then
            .ok ⟨false⟩
          else .error ⟨message, true⟩
        | .refused message =>
          if policy.failClosed = false ∧ isStatusListUnavailableError message = true then
            .ok ⟨false⟩
          else .error ⟨message, false⟩
      else .ok ⟨false⟩ := by
  obtain ⟨enabled, failClosed⟩ := policy
  unfold verifyInMode
  simp only [verifyWithStatusMode_eq _ hbase]
  cases enabled with
  | false => rfl
  | true =>
    cases failClosed with
    | true => cases sdJwtState server library credential <;> rfl
    | false =>
      cases sdJwtState server library credential with
      | unnamed => rfl
      | valid => rfl
      | unavailable message =>
        cases h : isStatusListUnavailableError message <;>
          simp [ListState.result, Except.map, h]
      | refused message =>
        cases h : isStatusListUnavailableError message <;>
          simp [ListState.result, Except.map, h]

theorem verifySdJwt_base {message : String}
    (hbase : library.verifyBase credential = .error message) :
    ¬Accepts (verifySdJwt server library policy credential) := by
  have hmode : ∃ error, verifyInMode server library policy credential = .error error := by
    unfold verifyInMode
    simp only [verifyWithStatusMode_base _ hbase]
    split
    · exact ⟨_, rfl⟩
    · split
      · exact ⟨_, rfl⟩
      · split
        · exact ⟨_, rfl⟩
        · exact ⟨_, rfl⟩
  obtain ⟨error, hmode⟩ := hmode
  rintro ⟨accepted, h⟩
  unfold verifySdJwt at h
  rw [hmode] at h
  cases h

/-- **Which SD-JWT VCs are accepted**, and whether their status was checked. -/
theorem verifySdJwt_ok {accepted : Accepted} :
    verifySdJwt server library policy credential = .ok accepted ↔
      library.verifyBase credential = .ok () ∧
        verifyInMode server library policy credential = .ok accepted ∧
        (policy.enabled = true → library.statusClaim credential = .unsupported →
          policy.failClosed = false) := by
  cases hbase : library.verifyBase credential with
  | error message =>
    exact iff_of_false (fun h => verifySdJwt_base hbase ⟨accepted, h⟩) fun ⟨h, _⟩ => (nomatch h)
  | ok _ =>
    rw [and_iff_right rfl]
    unfold verifySdJwt
    obtain ⟨enabled, failClosed⟩ := policy
    cases hmode : verifyInMode server library ⟨enabled, failClosed⟩ credential with
    | error error => exact iff_of_false (fun h => (nomatch h)) fun ⟨h, _⟩ => (nomatch h)
    | ok mode =>
      cases enabled <;> cases failClosed <;> cases hclaim : library.statusClaim credential <;>
        simp [checkStatusMechanism, bind, Except.bind, pure, Except.pure]

/-- **Which SD-JWT VCs are accepted.** -/
theorem accepts_sdJwt : Accepts (verifySdJwt server library policy credential) ↔
    library.verifyBase credential = .ok () ∧ (policy.enabled = true →
      Passes policy (library.statusClaim credential) (sdJwtState server library credential)) := by
  unfold Accepts
  simp only [verifySdJwt_ok, exists_and_left]
  refine and_congr_right fun hbase => ?_
  rw [verifyInMode_eq hbase]
  obtain ⟨enabled, failClosed⟩ := policy
  cases enabled with
  | false => simp
  | true =>
    cases hclaim : library.statusClaim credential with
    | absent =>
      have hstate : sdJwtState server library credential = .unnamed := by
        unfold sdJwtState
        rw [hclaim]
        rfl
      simp [hstate, Passes]
    | unsupported =>
      have hstate : sdJwtState server library credential = .unnamed := by
        unfold sdJwtState
        rw [hclaim]
        rfl
      simp [hstate, Passes]
    | statusList uri =>
      cases hstate : sdJwtState server library credential with
      | unnamed =>
        have hnone := listState_unnamed.mp hstate
        rw [hclaim] at hnone
        cases hnone
      | valid => simp [Passes]
      | unavailable message =>
        by_cases hcond : failClosed = false ∧ isStatusListUnavailableError message = true
        · simp [Passes, hcond]
        · simp [Passes, hcond]
      | refused message =>
        by_cases hcond : failClosed = false ∧ isStatusListUnavailableError message = true
        · simp [Passes, hcond]
        · simp [Passes, hcond]

theorem verifySdJwt_list {accepted : Accepted} {uri : String} (henabled : policy.enabled = true)
    (hclaim : library.statusClaim credential = .statusList uri)
    (h : verifySdJwt server library policy credential = .ok accepted) :
    (accepted.statusChecked = true ∧ ∃ token, getStatusListJwt server uri = .ok token ∧
        library.ShowsValid credential token) ∨
      (accepted.statusChecked = false ∧ policy.failClosed = false ∧ ∃ message,
        (sdJwtState server library credential = .unavailable message ∨
          sdJwtState server library credential = .refused message) ∧
        isStatusListUnavailableError message = true) := by
  obtain ⟨hbase, hmode, -⟩ := verifySdJwt_ok.mp h
  rw [verifyInMode_eq hbase, if_pos henabled] at hmode
  cases hstate : sdJwtState server library credential with
  | unnamed =>
    have hnone := listState_unnamed.mp hstate
    rw [hclaim] at hnone
    cases hnone
  | valid =>
    obtain ⟨token, htoken, hvalid⟩ := listState_valid.mp hstate
    rw [hclaim] at htoken
    rw [hstate] at hmode
    obtain rfl := Except.ok.inj hmode
    exact .inl ⟨rfl, token, Option.some.inj htoken, hvalid⟩
  | unavailable message =>
    rw [hstate] at hmode
    dsimp only at hmode
    split at hmode
    · rename_i hcond
      obtain rfl := Except.ok.inj hmode
      exact .inr ⟨rfl, hcond.1, message, .inl rfl, hcond.2⟩
    · cases hmode
  | refused message =>
    rw [hstate] at hmode
    dsimp only at hmode
    split at hmode
    · rename_i hcond
      obtain rfl := Except.ok.inj hmode
      exact .inr ⟨rfl, hcond.1, message, .inr rfl, hcond.2⟩
    · cases hmode

end SdJwt

/-! ## Mdocs -/

section Mdoc

variable {library : MdocLibrary} {policy : Policy} {credential : library.Credential}

def mdocState (server : StatusServer) (library : MdocLibrary)
    (credential : library.Credential) : ListState :=
  library.listState credential ((library.listRef credential).map fun ref =>
    mdocFetch server ref.1 ref.2)

theorem verifyDeviceResponse_eq (disabled : Bool)
    (hbase : library.verifyBase credential = .ok ()) :
    verifyDeviceResponse server library disabled credential =
      (if disabled then .unnamed else mdocState server library credential).result.map
        fun _ => ⟨!disabled⟩ := by
  unfold verifyDeviceResponse
  rw [Library.verify_eq _ _ hbase]
  cases disabled with
  | true => rfl
  | false =>
    unfold mdocState
    cases library.listRef credential <;> rfl

/-- **Which mdocs are accepted**, and whether their status was checked. -/
theorem verifyMdoc_ok {accepted : Accepted} :
    verifyMdoc server library policy credential = .ok accepted ↔
      library.verifyBase credential = .ok () ∧
        if policy.enabled then
          match mdocState server library credential with
          | .unnamed | .valid => accepted = ⟨true⟩
          | .unavailable _ => policy.failClosed = false ∧ accepted = ⟨false⟩
          | .refused _ => False
        else accepted = ⟨false⟩ := by
  obtain ⟨enabled, failClosed⟩ := policy
  cases hbase : library.verifyBase credential with
  | error message =>
    refine iff_of_false ?_ fun ⟨h, _⟩ => (nomatch h)
    unfold verifyMdoc verifyDeviceResponse
    rw [Library.verify_base _ _ hbase]
    simp [bind, Except.bind]
  | ok _ =>
    rw [and_iff_right rfl]
    unfold verifyMdoc
    simp only [verifyDeviceResponse_eq _ hbase]
    cases enabled with
    | false => simp [ListState.result, Except.map, eq_comm]
    | true =>
      cases mdocState server library credential <;> cases failClosed <;>
        simp [ListState.result, Except.map, eq_comm]

theorem verifyMdoc_list {kind : ListKind} {uri : String} {accepted : Accepted}
    (henabled : policy.enabled = true) (href : library.listRef credential = some (kind, uri))
    (h : verifyMdoc server library policy credential = .ok accepted) :
    (accepted.statusChecked = true ∧ ∃ token, mdocFetch server kind uri = .ok token ∧
      library.ShowsValid credential token) ∨
    (accepted.statusChecked = false ∧ policy.failClosed = false ∧
      ∃ message, mdocFetch server kind uri = .error ⟨message, true⟩) := by
  obtain ⟨-, hstate⟩ := verifyMdoc_ok.mp h
  rw [if_pos henabled] at hstate
  split at hstate
  · rename_i hunnamed
    have hnone := listState_unnamed.mp hunnamed
    rw [href] at hnone
    cases hnone
  · rename_i hvalid
    obtain ⟨token, htoken, hshows⟩ := listState_valid.mp hvalid
    rw [href] at htoken
    exact .inl ⟨by rw [hstate], token, Option.some.inj htoken, hshows⟩
  · rename_i message hunavailable
    have hfetch := listState_unavailable.mp hunavailable
    rw [href] at hfetch
    exact .inr ⟨by rw [hstate.2], hstate.1, message, Option.some.inj hfetch⟩
  · exact hstate.elim

end Mdoc

/-! ## The claim -/

variable (server)

/-- **What is asked of an SD-JWT VC** that names a status: in strict mode its list shows it as
valid, and in best-effort mode only a list that could not be fetched is skipped. -/
structure SdJwtSound (library : SdJwtLibrary) (policy : Policy)
    (credential : library.Credential) : Prop where
  strict : policy.enabled = true → policy.failClosed = true →
    Accepts (verifySdJwt server library policy credential) →
    library.statusClaim credential ≠ .absent → ∃ uri token,
      library.statusClaim credential = .statusList uri ∧
        getStatusListJwt server uri = .ok token ∧ library.ShowsValid credential token
  bestEffort : policy.enabled = true → policy.failClosed = false → ∀ accepted uri,
    verifySdJwt server library policy credential = .ok accepted →
    library.statusClaim credential = .statusList uri →
    (accepted.statusChecked = true ∧ ∃ token, getStatusListJwt server uri = .ok token ∧
      library.ShowsValid credential token) ∨
    (accepted.statusChecked = false ∧
      Unfetched server server.cachedJwts "application/statuslist+jwt" uri)

/-- A list of an mdoc that could not be fetched. -/
def MdocUnfetched (kind : ListKind) (uri : String) : Prop :=
  match kind with
  | .statusList => Unfetched server server.cachedCwts STATUS_LIST_CWT uri
  | .identifierList => ∃ message, server.get uri "application/identifierlist+cwt" = .error message

/-- **What is asked of an mdoc.** -/
structure MdocSound (library : MdocLibrary) (policy : Policy)
    (credential : library.Credential) : Prop where
  strict : policy.enabled = true → policy.failClosed = true → ∀ kind uri,
    Accepts (verifyMdoc server library policy credential) →
    library.listRef credential = some (kind, uri) → ∃ token,
      mdocFetch server kind uri = .ok token ∧ library.ShowsValid credential token
  bestEffort : policy.enabled = true → policy.failClosed = false → ∀ accepted kind uri,
    verifyMdoc server library policy credential = .ok accepted →
    library.listRef credential = some (kind, uri) →
    (accepted.statusChecked = true ∧ ∃ token, mdocFetch server kind uri = .ok token ∧
      library.ShowsValid credential token) ∨
    (accepted.statusChecked = false ∧ MdocUnfetched server kind uri)

/-- An SD-JWT VC and an mdoc of the same sort: both pass the other checks or neither does, and they
name no list, or lists at one URI that are fetched and valid for both or for neither. -/
structure Corresponds (library : SdJwtLibrary) (library' : MdocLibrary)
    (credential : library.Credential) (credential' : library'.Credential) : Prop where
  base : library.verifyBase credential = .ok () ↔ library'.verifyBase credential' = .ok ()
  lists : (library.statusClaim credential = .absent ∧ library'.listRef credential' = none) ∨
    ∃ uri, library.statusClaim credential = .statusList uri ∧
      library'.listRef credential' = some (.statusList, uri) ∧
      (Unfetched server server.cachedJwts "application/statuslist+jwt" uri ↔
        Unfetched server server.cachedCwts STATUS_LIST_CWT uri) ∧
      ((∃ token, getStatusListJwt server uri = .ok token ∧ library.ShowsValid credential token) ↔
        ∃ token, getStatusListCwt server uri = .ok token ∧ library'.ShowsValid credential' token)

/-- **A refusal that is misread**: in best-effort mode, a fetched list of an SD-JWT VC is refused
with a message that has the words of an unavailable one. -/
structure Misread (library : SdJwtLibrary) (policy : Policy)
    (credential : library.Credential) : Prop where
  enabled : policy.enabled = true
  bestEffort : policy.failClosed = false
  base : library.verifyBase credential = .ok ()
  refused : ∃ uri message, library.statusClaim credential = .statusList uri ∧
    (getStatusListJwt server uri = .error ⟨message, false⟩ ∨ ∃ token,
      getStatusListJwt server uri = .ok token ∧ ¬library.ShowsValid credential token ∧
        library.complaint credential token = message) ∧
    isStatusListUnavailableError message = true

variable {server}

theorem mdocSound (library : MdocLibrary) (policy : Policy) (credential : library.Credential) :
    MdocSound server library policy credential := by
  constructor
  · rintro henabled hclosed kind uri ⟨accepted, h⟩ href
    obtain ⟨-, hvalid⟩ | ⟨-, hopen, -⟩ := verifyMdoc_list henabled href h
    · exact hvalid
    · exact absurd (hclosed.symm.trans hopen) Bool.true_eq_false.mp
  · intro henabled _ accepted kind uri h href
    obtain hvalid | ⟨hskipped, -, hfetch⟩ := verifyMdoc_list henabled href h
    · exact .inl hvalid
    · exact .inr ⟨hskipped, mdocFetch_unavailable.mp hfetch⟩

theorem sdJwtSound {library : SdJwtLibrary} {policy : Policy} {credential : library.Credential}
    (h : ¬Misread server library policy credential) :
    SdJwtSound server library policy credential := by
  constructor
  · rintro henabled hclosed haccepts hnamed
    obtain ⟨accepted, haccepted⟩ := haccepts
    cases hclaim : library.statusClaim credential with
    | absent => exact absurd hclaim hnamed
    | unsupported =>
      have hopen := (verifySdJwt_ok.mp haccepted).2.2 henabled hclaim
      exact absurd (hclosed.symm.trans hopen) Bool.true_eq_false.mp
    | statusList uri =>
      obtain ⟨-, token, htoken, hshows⟩ | ⟨-, hopen, -⟩ :=
        verifySdJwt_list henabled hclaim haccepted
      · exact ⟨uri, token, rfl, htoken, hshows⟩
      · exact absurd (hclosed.symm.trans hopen) Bool.true_eq_false.mp
  · intro henabled hopen accepted uri haccepted hclaim
    obtain hvalid | ⟨hskipped, -, message, hstate | hstate, hwords⟩ :=
      verifySdJwt_list henabled hclaim haccepted
    · exact .inl hvalid
    · have hfetch := listState_unavailable.mp hstate
      rw [hclaim] at hfetch
      exact .inr ⟨hskipped, getStatusListJwt_unavailable.mp ⟨message, Option.some.inj hfetch⟩⟩
    · have hfetch := listState_refused.mp hstate
      rw [hclaim] at hfetch
      refine absurd ⟨henabled, hopen, (verifySdJwt_ok.mp haccepted).1, uri, message, hclaim, ?_,
        hwords⟩ h
      exact hfetch.imp Option.some.inj fun ⟨token, htoken, hrefused⟩ =>
        ⟨token, Option.some.inj htoken, hrefused⟩

theorem Misread.skipped {library : SdJwtLibrary} {policy : Policy}
    {credential : library.Credential} (h : Misread server library policy credential) :
    verifySdJwt server library policy credential = .ok ⟨false⟩ := by
  obtain ⟨uri, message, hclaim, hrefused, hwords⟩ := h.refused
  have hstate : sdJwtState server library credential = .refused message := by
    refine listState_refused.mpr ?_
    rw [hclaim]
    exact hrefused.imp (congrArg some) fun ⟨token, htoken, hrefused⟩ =>
      ⟨token, congrArg some htoken, hrefused⟩
  refine verifySdJwt_ok.mpr ⟨h.base, ?_, fun _ _ => h.bestEffort⟩
  rw [verifyInMode_eq h.base, if_pos h.enabled, hstate]
  exact if_pos ⟨h.bestEffort, hwords⟩

/-! ## Decisions -/

theorem accepts_sdJwt_list {library : SdJwtLibrary} {policy : Policy}
    {credential : library.Credential} {uri : String}
    (h : ¬Misread server library policy credential)
    (hclaim : library.statusClaim credential = .statusList uri) :
    Accepts (verifySdJwt server library policy credential) ↔
      library.verifyBase credential = .ok () ∧ (policy.enabled = true →
        (∃ token, getStatusListJwt server uri = .ok token ∧ library.ShowsValid credential token) ∨
        (policy.failClosed = false ∧
          Unfetched server server.cachedJwts "application/statuslist+jwt" uri)) := by
  constructor
  · rintro ⟨accepted, haccepted⟩
    refine ⟨(verifySdJwt_ok.mp haccepted).1, fun henabled => ?_⟩
    cases hclosed : policy.failClosed with
    | true =>
      obtain ⟨uri', token, hclaim', hvalid⟩ := (sdJwtSound h).strict henabled hclosed
        ⟨accepted, haccepted⟩ (hclaim ▸ fun habsent => (nomatch habsent))
      cases hclaim.symm.trans hclaim'
      exact .inl ⟨token, hvalid⟩
    | false =>
      exact ((sdJwtSound h).bestEffort henabled hclosed accepted uri haccepted hclaim).imp (·.2)
        fun hskipped => ⟨rfl, hskipped.2⟩
  · rintro ⟨hbase, hlist⟩
    refine accepts_sdJwt.mpr ⟨hbase, fun henabled => ?_⟩
    obtain ⟨token, htoken, hshows⟩ | ⟨hopen, hunfetched⟩ := hlist henabled
    · have hstate : sdJwtState server library credential = .valid :=
        listState_valid.mpr ⟨token, by rw [hclaim]; exact congrArg some htoken, hshows⟩
      rw [hstate]
      trivial
    · obtain ⟨message, hmessage⟩ := getStatusListJwt_unavailable.mpr hunfetched
      have hstate : sdJwtState server library credential = .unavailable message :=
        listState_unavailable.mpr (by rw [hclaim]; exact congrArg some hmessage)
      rw [hstate]
      exact ⟨hopen, getStatusListJwt_message hmessage⟩

theorem accepts_mdoc_list {library : MdocLibrary} {policy : Policy}
    {credential : library.Credential} {kind : ListKind} {uri : String}
    (href : library.listRef credential = some (kind, uri)) :
    Accepts (verifyMdoc server library policy credential) ↔
      library.verifyBase credential = .ok () ∧ (policy.enabled = true →
        (∃ token, mdocFetch server kind uri = .ok token ∧ library.ShowsValid credential token) ∨
        (policy.failClosed = false ∧ MdocUnfetched server kind uri)) := by
  constructor
  · rintro ⟨accepted, haccepted⟩
    refine ⟨(verifyMdoc_ok.mp haccepted).1, fun henabled => ?_⟩
    obtain ⟨-, hvalid⟩ | ⟨-, hopen, hfetch⟩ := verifyMdoc_list henabled href haccepted
    · exact .inl hvalid
    · exact .inr ⟨hopen, mdocFetch_unavailable.mp hfetch⟩
  · rintro ⟨hbase, hlist⟩
    unfold Accepts
    simp only [verifyMdoc_ok, hbase, true_and]
    cases henabled : policy.enabled with
    | false => exact ⟨_, rfl⟩
    | true =>
      obtain ⟨token, htoken, hshows⟩ | ⟨hopen, hunfetched⟩ := hlist henabled
      · have hstate : mdocState server library credential = .valid :=
          listState_valid.mpr ⟨token, by rw [href]; exact congrArg some htoken, hshows⟩
        refine ⟨⟨true⟩, ?_⟩
        rw [if_pos rfl, hstate]
      · obtain ⟨message, hmessage⟩ := mdocFetch_unavailable.mpr hunfetched
        have hstate : mdocState server library credential = .unavailable message :=
          listState_unavailable.mpr (by rw [href]; exact congrArg some hmessage)
        refine ⟨⟨false⟩, ?_⟩
        rw [if_pos rfl, hstate]
        exact ⟨hopen, rfl⟩

/-- **Both formats decide alike.** -/
theorem accepts_alike {library : SdJwtLibrary} {library' : MdocLibrary} {policy : Policy}
    {credential : library.Credential} {credential' : library'.Credential}
    (h : ¬Misread server library policy credential)
    (hcorresponds : Corresponds server library library' credential credential') :
    Accepts (verifySdJwt server library policy credential) ↔
      Accepts (verifyMdoc server library' policy credential') := by
  obtain ⟨hbase, ⟨habsent, hnone⟩ | ⟨uri, hclaim, href, hunfetched, hvalid⟩⟩ := hcorresponds
  · have hstate : sdJwtState server library credential = .unnamed :=
      listState_unnamed.mpr (by rw [habsent]; rfl)
    have hstate' : mdocState server library' credential' = .unnamed :=
      listState_unnamed.mpr (by rw [hnone]; rfl)
    rw [accepts_sdJwt, hstate, habsent]
    unfold Accepts
    simp only [verifyMdoc_ok, hstate', exists_and_left, ← hbase]
    refine and_congr_right fun _ => iff_of_true (fun _ => .inl rfl) ?_
    split <;> exact ⟨_, rfl⟩
  · rw [accepts_sdJwt_list h hclaim, accepts_mdoc_list href, hbase, hunfetched, hvalid]
    rfl

end RevocationPolicy

open RevocationPolicy

end Eudiplo
