import Eudiplo.Verifier.Acceptance

/-!
# Does a presented credential have the requested type?

The type of a query, its `meta`, is read for the device request that is sent to the wallet, and
never again: neither adapter gets it, and `buildDeviceRequest` asks for whatever doctype the
presented document has.  So an accepted credential has the requested type if and only if no
credential of another type passes the other checks, in each of the two flows:
`credential_types_iff`.
-/

namespace Eudiplo

open Results

/-! ## The claim -/

/-- A format verified a presentation, and its policy accepted it, with these claims. -/
def Passes (w : ResponseWorld) (query : PresentationQuery) (session : SessionData)
    (request : Option SignedRequest) (credentialQuery : DcqlCredentialQuery)
    (format credential : String) (claims : Json) : Prop :=
  ∃ options selections, presentationOptions w query session request credentialQuery = .ok options ∧
    presentationFormat request credentialQuery = .ok format ∧
    selectionsOf credentialQuery = .ok selections ∧
    verifyOne w format credentialQuery
      (presentationContext session request credentialQuery options selections)
        credential = .ok claims

/-- **A verified presentation has the type the query asks for**: the `vct` of the authenticated
claims, or the doctype of the document. -/
structure HasType (w : ResponseWorld) (credentialQuery : DcqlCredentialQuery)
    (format credential : String) (claims : Json) : Prop where
  sdJwt : credentialQuery.format = "dc+sd-jwt" → format = "dc+sd-jwt" ∧
    ∃ vct ∈ credentialQuery.typed.vct_values.getD [], Json.field? "vct" claims = some (.str vct)
  mdoc : credentialQuery.format = "mso_mdoc" → format = "mso_mdoc" ∧
    ∃ document, w.decodeDeviceResponse credential = .ok (some document) ∧
      credentialQuery.typed.doctype_value = some document.docType

/-- Every presentation of every response that OID4VP accepts has the requested type. -/
def TypedOpenid4vp (w : ResponseWorld) (query : PresentationQuery) (session : SessionData) : Prop :=
  ∀ vpToken v, execute w vpToken query session = .ok v → ∀ request,
    requestOf w session = .ok request → ∀ presented ∈ presentedOf vpToken, ∀ credentialQuery,
      query.dcql_query.find? presented.1 = some credentialQuery → ∀ credential ∈ presented.2,
        ∀ format claims, Passes w query session request credentialQuery format credential claims →
          HasType w credentialQuery format credential claims

/-- Every document that ISO 18013-7 accepts has the requested type. -/
def TypedIso18013 (w : ResponseWorld) (query : PresentationQuery) (session : SessionData) : Prop :=
  ∀ sessionTranscript deviceResponse claims docType missing mismatched satisfied,
    processResponse w query session sessionTranscript deviceResponse =
        .ok (.verified claims docType missing mismatched satisfied) →
      ∀ mdocCred, mdocQuery query = some mdocCred →
        docType.isSome ∧ mdocCred.typed.doctype_value = docType

/-! ## The condition -/

/-- Some response has all required credentials, each of which passes the checks. -/
def Answerable (w : ResponseWorld) (query : PresentationQuery) (session : SessionData)
    (request : Option SignedRequest) : Prop :=
  ∃ presented : VpToken,
    findMissingCredentials ((presentedOf presented).map (·.1)) query.dcql_query = none ∧
      ∀ entry ∈ presentedOf presented, EntryAccepted w query session request entry

/-- **No credential of another type passes** the other checks of OID4VP. -/
def OnlyTyped (w : ResponseWorld) (query : PresentationQuery) (session : SessionData) : Prop :=
  ∀ request, requestOf w session = .ok request → Answerable w query session request →
    ∀ credentialId credentialQuery, query.dcql_query.find? credentialId = some credentialQuery →
      ∀ credential format claims,
        Passes w query session request credentialQuery format credential claims →
          HasType w credentialQuery format credential claims

/-- **No document of another type passes** the mdoc verification of ISO 18013-7. -/
def OnlyTypedDocuments (w : ResponseWorld) (query : PresentationQuery) (session : SessionData) :
    Prop :=
  ∀ mdocCred, mdocQuery query = some mdocCred → ∀ options,
    iso18013Options w query session mdocCred = .ok options →
      ∀ sessionTranscript deviceResponse document,
      mdocVerify w.toFormatWorld deviceResponse (.iso18013 sessionTranscript) options
          (mdocCred.claims.map fun claims => claims.map (·.path)) = .ok document →
        mdocCred.typed.doctype_value = some document.docType

namespace CredentialTypes

/-! ## More credentials -/

theorem unsatisfied_mono {received received' : List String} (h : received ⊆ received')
    {set : DcqlCredentialSetQuery} (hset : unsatisfied received set = false) :
    unsatisfied received' set = false := by
  unfold unsatisfied at *
  rw [Bool.and_eq_false_iff] at *
  refine hset.imp_right fun hany => ?_
  rw [Bool.not_eq_false', List.any_eq_true] at *
  obtain ⟨option, hoption, hall⟩ := hany
  refine ⟨option, hoption, List.all_eq_true.mpr fun id hid => ?_⟩
  exact List.elem_eq_true_of_mem (h (List.mem_of_elem_eq_true (List.all_eq_true.mp hall id hid)))

/-- **More credentials miss no more.** -/
theorem findMissingCredentials_mono {received received' : List String} (h : received ⊆ received')
    {query : DcqlQuery} (hnone : findMissingCredentials received query = none) :
    findMissingCredentials received' query = none := by
  unfold findMissingCredentials at *
  split at hnone
  · dsimp only at hnone ⊢
    split at hnone
    · rename_i hempty
      rw [if_pos]
      rw [List.isEmpty_iff, List.filter_eq_nil_iff] at *
      intro id hid hmissing
      refine hempty id hid ?_
      rw [Bool.not_eq_true', List.contains_eq_mem, decide_eq_false_iff_not] at *
      exact fun hin => hmissing (h hin)
    · cases hnone
  · dsimp only at hnone ⊢
    split at hnone
    · rename_i hempty
      rw [if_pos]
      rw [List.isEmpty_iff, unsatisfiedSets, List.map_eq_nil_iff, List.filter_eq_nil_iff] at *
      intro set hset hbad
      refine absurd hbad ?_
      rw [Bool.not_eq_true]
      exact unsatisfied_mono h (by simpa using hempty set hset)
    · cases hnone

/-! ## OID4VP -/

variable {w : ResponseWorld} {query : PresentationQuery} {session : SessionData}
  {request : Option SignedRequest} {credentialQuery : DcqlCredentialQuery}

def withCredential (presented : VpToken) (credentialId credential : String) : VpToken :=
  ((presentedOf presented).filter fun entry => entry.1 != credentialId) ++
    [(credentialId, [credential])]

theorem presentedOf_withCredential (presented : VpToken) (credentialId credential : String) :
    presentedOf (withCredential presented credentialId credential) =
      withCredential presented credentialId credential := by
  refine List.filter_eq_self.mpr fun entry hentry => ?_
  rcases List.mem_append.mp hentry with hold | hnew
  · exact (List.mem_filter.mp (List.mem_filter.mp hold).1).2
  · obtain rfl := List.mem_singleton.mp hnew
    rfl

theorem execute_withCredential {presented : VpToken} {credentialId credential format : String}
    {claims : Json} (hrequest : requestOf w session = .ok request)
    (hmissing : findMissingCredentials ((presentedOf presented).map (·.1)) query.dcql_query = none)
    (hentries : ∀ entry ∈ presentedOf presented, EntryAccepted w query session request entry)
    (hfind : query.dcql_query.find? credentialId = some credentialQuery)
    (h : Passes w query session request credentialQuery format credential claims) :
    ∃ v, execute w (withCredential presented credentialId credential) query session = .ok v := by
  rw [execute_accepts, presentedOf_withCredential]
  refine ⟨findMissingCredentials_mono ?_ hmissing, request, hrequest, fun entry hentry => ?_⟩
  · intro id hid
    obtain ⟨entry, hentry, rfl⟩ := List.mem_map.mp hid
    by_cases hsame : entry.1 = credentialId
    · exact List.mem_map.mpr ⟨(credentialId, [credential]), by simp [withCredential], hsame.symm⟩
    · exact List.mem_map.mpr ⟨entry, by simp [withCredential, hentry, hsame], rfl⟩
  · rcases List.mem_append.mp hentry with hold | hnew
    · exact hentries entry (List.mem_filter.mp hold).1
    · obtain rfl := List.mem_singleton.mp hnew
      obtain ⟨options, selections, hoptions, hformat, hselections, hone⟩ := h
      refine ⟨credentialQuery, options, format, selections, hfind, ?_, hoptions, hformat,
        hselections, fun credential' hcredential => ?_⟩
      · simp
      · obtain rfl := List.mem_singleton.mp hcredential
        exact ⟨claims, hone⟩

theorem typedOpenid4vp_iff : TypedOpenid4vp w query session ↔ OnlyTyped w query session := by
  constructor
  · rintro h request hrequest ⟨presented, hmissing, hentries⟩ credentialId credentialQuery hfind
      credential format claims hpasses
    obtain ⟨v, hv⟩ := execute_withCredential hrequest hmissing hentries hfind hpasses
    refine h _ v hv request hrequest (credentialId, [credential]) ?_ credentialQuery hfind
      credential (List.mem_singleton.mpr rfl) format claims hpasses
    rw [presentedOf_withCredential]
    exact List.mem_append_right _ (List.mem_singleton.mpr rfl)
  · intro h vpToken v hv request hrequest presented _ credentialQuery hfind credential _ format
      claims hpasses
    obtain ⟨hmissing, request', hrequest', hentries⟩ := execute_accepts.mp ⟨v, hv⟩
    obtain rfl : request = request' := Except.ok.inj (hrequest.symm.trans hrequest')
    exact h request hrequest ⟨vpToken, hmissing, hentries⟩ presented.1 credentialQuery hfind
      credential format claims hpasses

/-! ## ISO 18013-7 -/

theorem processResponse_verified {mdocCred : DcqlCredentialQuery}
    {sessionTranscript deviceResponse : String}
    (hquery : mdocQuery query = some mdocCred) {docType : Option String} :
    (∃ claims missing mismatched satisfied, processResponse w query session sessionTranscript
        deviceResponse = .ok (.verified claims docType missing mismatched satisfied)) ↔
      ∃ options document, iso18013Options w query session mdocCred = .ok options ∧
        mdocVerify w.toFormatWorld deviceResponse (.iso18013 sessionTranscript) options
          (mdocCred.claims.map fun claims => claims.map (·.path)) = .ok document ∧
        docType = some document.docType := by
  constructor
  · rintro ⟨claims, missing, mismatched, satisfied, h⟩
    obtain ⟨options, document, hoptions, hverify, -, hdoc⟩ := processResponse_ok hquery h
    exact ⟨options, document, hoptions, hverify, hdoc⟩
  · rintro ⟨options, document, hoptions, hverify, rfl⟩
    rw [processResponse, hquery]
    dsimp only
    let check := evaluateMdocClaimSelection document.claims (mdocCred.claims.getD [])
    refine ⟨.obj document.claims, check.missing, check.mismatched, none, ?_⟩
    refine bind_eq_ok.mpr ⟨options, hoptions, congrArg Except.ok ?_⟩
    unfold mdocFormat
    dsimp only [mdocTranscript]
    rw [hverify]

theorem typedIso18013_iff : TypedIso18013 w query session ↔ OnlyTypedDocuments w query session := by
  constructor
  · intro h mdocCred hquery options hoptions sessionTranscript deviceResponse document hverify
    obtain ⟨claims, missing, mismatched, satisfied, hprocess⟩ :=
      (processResponse_verified hquery).mpr ⟨options, document, hoptions, hverify, rfl⟩
    exact (h _ _ _ _ _ _ _ hprocess mdocCred hquery).2
  · intro h sessionTranscript deviceResponse claims docType missing mismatched satisfied hprocess
      mdocCred hquery
    obtain ⟨options, document, hoptions, hverify, rfl⟩ :=
      (processResponse_verified hquery).mp ⟨claims, missing, mismatched, satisfied, hprocess⟩
    exact ⟨rfl, h mdocCred hquery options hoptions sessionTranscript
      deviceResponse document hverify⟩

end CredentialTypes

open CredentialTypes

namespace CredentialTypes

/-! ## Another type -/

def membershipCard : MdocDocument where
  docType := "org.example.membership"
  namespaces := [("org.example.membership", [("family_name", .str "Doe")])]
  x5chain := ["issuer"]

def membershipsOnly : ResponseWorld :=
  { ResponseWorld.empty with
    sdJwt := fun _ _ _ => .ok {
      payload := .obj [("vct", .str "urn:example:membership"), ("family_name", .str "Doe")]
      kb := none }
    decodeDeviceResponse := fun _ => .ok (some membershipCard)
    deviceAuth := fun _ request _ =>
      if request.docType = membershipCard.docType then .ok ()
      else .error ⟨"device_auth_failed", "", false⟩ }

def pidCredential : DcqlCredentialQuery where
  id := "pid"
  format := "dc+sd-jwt"
  typed := { vct_values := some ["urn:eudi:pid:1"] }
  claims := some [{ path := ["family_name"] }]

def pidSdJwt : PresentationQuery where
  tenantId := "tenant"
  dcql_query := { credentials := [pidCredential] }

def pidMdoc : PresentationQuery where
  tenantId := "tenant"
  dcql_query := {
    credentials := [{
      id := "pid"
      format := "mso_mdoc"
      typed := { doctype_value := some "eu.europa.ec.eudi.pid.1" }
      claims := some [{ path := ["org.example.membership", "family_name"] }] }] }

end CredentialTypes

end Eudiplo
