import Eudiplo.Shared.Results
import Eudiplo.Verifier.Response

/-!
# When a presentation response is accepted

A verification that returns is read back check by check: `execute_accepts` lists what an accepted
response passed, and says that nothing else was asked.
-/

namespace Eudiplo

namespace Results

theorem mem_filterEntries {keeps : String → Except VerifyError Bool} {entries kept : List String}
    (h : filterEntries keeps entries = .ok kept) (entry : String) :
    entry ∈ kept ↔ entry ∈ entries ∧ keeps entry = .ok true := by
  induction entries generalizing kept with
  | nil =>
    cases h
    simp
  | cons e entries ih =>
    obtain ⟨keep, hkeep, h⟩ := bind_eq_ok.mp h
    obtain ⟨rest, hrest, h⟩ := bind_eq_ok.mp h
    cases h
    have hhead : entry = e → (keeps entry = .ok true ↔ keep = true) := by
      rintro rfl
      rw [hkeep, Except.ok.injEq]
    cases keep with
    | true =>
      rw [if_pos rfl, List.mem_cons, List.mem_cons, ih hrest]
      tauto
    | false =>
      rw [if_neg (by decide), List.mem_cons, ih hrest]
      have hne : entry = e → keeps entry ≠ .ok true := fun he hk => nomatch (hhead he).mp hk
      tauto

end Results

open Results

/-! ## SD-JWT VC -/

variable {w : ResponseWorld} {query : PresentationQuery} {session : SessionData}
  {request : Option SignedRequest} {credentialQuery : DcqlCredentialQuery}

theorem require_eq_ok {check : Bool} {e : VerifyError} :
    require check e = .ok () ↔ check = true := by
  cases check <;> simp [require]

theorem mem_of_checkHashes {v : FormatWorld} {algorithm : String} {i : Nat}
    {entries hashes : List String} (h : checkHashes v algorithm i entries hashes = .ok ())
    (hlength : hashes.length = entries.length) {entry : String} (hentry : entry ∈ entries) :
    v.hash algorithm entry ∈ hashes := by
  induction entries generalizing i hashes with
  | nil => exact (List.not_mem_nil hentry).elim
  | cons e entries ih =>
    cases hashes with
    | nil => cases hlength
    | cons hash hashes =>
      obtain ⟨_, hcheck, h⟩ := bind_eq_ok.mp h
      have hhash : hash = v.hash algorithm e := by simpa using require_eq_ok.mp hcheck
      rcases List.mem_cons.mp hentry with rfl | hentry
      · exact hhash ▸ List.mem_cons_self
      · exact List.mem_cons_of_mem _ (ih h (by simpa using hlength) hentry)

/-- **The hashes of the key-binding JWT** contain one for every entry. -/
theorem hashed_of_validate {v : FormatWorld} {result : SdJwtResult} {entries : List String}
    (h : validateTransactionDataHashes v result entries = .ok ()) {entry : String}
    (hentry : entry ∈ entries) : ∃ kb hashes algorithm, result.kb = some kb ∧
      kb.transaction_data_hashes = some hashes ∧
      algoMap (kb.transaction_data_hashes_alg.getD "sha-256") = some algorithm ∧
      v.hash algorithm entry ∈ hashes := by
  unfold validateTransactionDataHashes at h
  split at h
  · cases h
  · rename_i kb hkb
    split at h
    · cases h
    · rename_i hashes hhashes
      obtain ⟨_, hlength, h⟩ := bind_eq_ok.mp h
      split at h
      · cases h
      · rename_i algorithm halgorithm
        have hlength : hashes.length = entries.length := by
          simpa using require_eq_ok.mp hlength
        exact ⟨kb, hashes, algorithm, hkb, hhashes, halgorithm,
          mem_of_checkHashes h hlength hentry⟩

theorem of_sdJwtVerify {v : FormatWorld} {credential : String} {options : SdJwtOptions}
    {mode : Option String} {result : SdJwtResult}
    (h : sdJwtVerify v credential options mode = .ok result) :
    (∃ status, v.sdJwt credential options status = .ok result) ∧
      checkResult v options.options mode result = .ok () := by
  unfold sdJwtVerify at h
  split at h
  · split at h <;> cases h
  · rename_i result' hlibrary
    split at h
    · cases h
    · rename_i hcheck
      cases h
      refine ⟨?_, hcheck⟩
      unfold sdJwtLibrary at hlibrary
      dsimp only at hlibrary
      split at hlibrary
      · exact ⟨false, hlibrary⟩
      · split at hlibrary
        · exact ⟨true, hlibrary⟩
        · split at hlibrary
          · rename_i hok
            cases hlibrary
            exact ⟨true, hok⟩
          · split at hlibrary
            · exact ⟨false, hlibrary⟩
            · cases hlibrary

theorem validated_of_checkResult {v : FormatWorld} {options : VerifierOptions}
    {mode : Option String} {result : SdJwtResult} {entries : List String}
    (h : checkResult v options mode result = .ok ())
    (hentries : options.transactionData = some entries) (hne : entries ≠ []) :
    validateTransactionDataHashes v result entries = .ok () := by
  obtain ⟨_, -, h⟩ := bind_eq_ok.mp h
  obtain ⟨_, hdata, -⟩ := bind_eq_ok.mp h
  rw [hentries, Option.getD_some, checkIf, if_pos (by simpa using hne)] at hdata
  exact hdata

/-! ## Responses -/

/-- **What the presentations of a credential query passed.** -/
structure QueryAccepted (w : ResponseWorld) (query : PresentationQuery) (session : SessionData)
    (request : Option SignedRequest) (presented : List String)
    (credentialQuery : DcqlCredentialQuery) (options : VerifierOptions) (format : String)
    (selections : List (List DcqlClaimQuery)) : Prop where
  count : (credentialQuery.multiple || decide (presented.length ≤ 1)) = true
  resolved : presentationOptions w query session request credentialQuery = .ok options
  sent : presentationFormat request credentialQuery = .ok format
  chosen : selectionsOf credentialQuery = .ok selections
  credentials : ∀ credential ∈ presented, ∃ claims, verifyOne w format credentialQuery
    (presentationContext session request credentialQuery options selections) credential = .ok claims

theorem verifyQuery_accepts {presented : List String} :
    (∃ values, verifyQuery w query session request presented credentialQuery = .ok values) ↔
      ∃ options format selections, QueryAccepted w query session request presented credentialQuery
        options format selections := by
  constructor
  · rintro ⟨values, h⟩
    obtain ⟨_, hcount, h⟩ := bind_eq_ok.mp h
    obtain ⟨options, hoptions, h⟩ := bind_eq_ok.mp h
    obtain ⟨format, hformat, h⟩ := bind_eq_ok.mp h
    obtain ⟨selections, hselections, h⟩ := bind_eq_ok.mp h
    exact ⟨options, format, selections, require_eq_ok.mp hcount, hoptions, hformat, hselections,
      mapM_succeeds.mp ⟨values, h⟩⟩
  · rintro ⟨options, format, selections, h⟩
    obtain ⟨values, hvalues⟩ := mapM_succeeds.mpr h.credentials
    refine ⟨values, bind_eq_ok.mpr ⟨(), require_eq_ok.mpr h.count, ?_⟩⟩
    refine bind_eq_ok.mpr ⟨options, h.resolved, bind_eq_ok.mpr ⟨format, h.sent, ?_⟩⟩
    exact bind_eq_ok.mpr ⟨selections, h.chosen, hvalues⟩

/-- What the presentations of a credential id passed. -/
def EntryAccepted (w : ResponseWorld) (query : PresentationQuery) (session : SessionData)
    (request : Option SignedRequest) (entry : String × List String) : Prop :=
  ∃ credentialQuery options format selections, query.dcql_query.find? entry.1 =
    some credentialQuery ∧
    QueryAccepted w query session request entry.2 credentialQuery options format selections

theorem verifyPresented_accepts {entry : String × List String} :
    (∃ out, verifyPresented w query session request entry = .ok out) ↔
      EntryAccepted w query session request entry := by
  unfold verifyPresented EntryAccepted
  cases query.dcql_query.find? entry.1 with
  | none => exact ⟨fun ⟨_, h⟩ => (nomatch h), fun ⟨_, _, _, _, h, _⟩ => (nomatch h)⟩
  | some credentialQuery =>
    constructor
    · rintro ⟨out, h⟩
      cases hvalues : verifyQuery w query session request entry.2 credentialQuery with
      | error e =>
        dsimp only at h
        rw [hvalues] at h
        cases h
      | ok values =>
        obtain ⟨options, format, selections, haccepted⟩ := verifyQuery_accepts.mp ⟨values, hvalues⟩
        exact ⟨credentialQuery, options, format, selections, rfl, haccepted⟩
    · rintro ⟨credentialQuery', options, format, selections, hfind, haccepted⟩
      cases hfind
      obtain ⟨values, hvalues⟩ := verifyQuery_accepts.mpr ⟨options, format, selections, haccepted⟩
      exact ⟨(entry.1, values), by dsimp only; rw [hvalues]; rfl⟩

theorem requireCredentials_eq_ok {received : List String} {dcql : DcqlQuery} :
    requireCredentials received dcql = .ok () ↔ findMissingCredentials received dcql = none := by
  unfold requireCredentials
  cases findMissingCredentials received dcql <;> simp

/-- **A response is accepted if and only if** the required credentials are there and each entry
passes. -/
theorem execute_accepts {vpToken : VpToken} :
    (∃ v, execute w vpToken query session = .ok v) ↔
      findMissingCredentials ((presentedOf vpToken).map (·.1)) query.dcql_query = none ∧
      ∃ request, requestOf w session = .ok request ∧
        ∀ entry ∈ presentedOf vpToken, EntryAccepted w query session request entry := by
  constructor
  · rintro ⟨v, h⟩
    obtain ⟨_, hmissing, h⟩ := bind_eq_ok.mp h
    obtain ⟨request, hrequest, h⟩ := bind_eq_ok.mp h
    refine ⟨requireCredentials_eq_ok.mp hmissing, request, hrequest, fun entry hentry => ?_⟩
    exact verifyPresented_accepts.mp (mapM_succeeds.mp ⟨v, h⟩ entry hentry)
  · rintro ⟨hmissing, request, hrequest, hentries⟩
    obtain ⟨v, hv⟩ := mapM_succeeds.mpr fun entry hentry =>
      verifyPresented_accepts.mpr (hentries entry hentry)
    refine ⟨v, bind_eq_ok.mpr ⟨(), requireCredentials_eq_ok.mpr hmissing, ?_⟩⟩
    exact bind_eq_ok.mpr ⟨request, hrequest, hv⟩

theorem sdJwt_of_verifyOne {context : CredentialContext} {credential : String} {claims : Json}
    (h : verifyOne w "dc+sd-jwt" credentialQuery context credential = .ok claims) :
    ∃ useDcApi sessionNonce sessionClientId uri request result,
      context.binding = .openid4vp useDcApi sessionNonce sessionClientId uri request ∧
      sdJwtVerify w.toFormatWorld credential (sdJwtOptions w.toFormatWorld context useDcApi
        sessionNonce sessionClientId request) (request.bind (·.response_mode)) = .ok result ∧
      acceptResult credentialQuery (sdJwtResult context result) = .ok claims := by
  obtain ⟨out, hout, haccept⟩ := bind_eq_ok.mp h
  rw [verifyFormat, if_pos rfl] at hout
  unfold sdJwtFormat at hout
  split at hout
  · cases hout
  · rename_i useDcApi sessionNonce sessionClientId uri request hbinding
    split at hout
    · cases hout
      cases haccept
    · cases hout
    · rename_i result hresult
      cases hout
      exact ⟨useDcApi, sessionNonce, sessionClientId, uri, request, result, hbinding, hresult,
        haccept⟩

theorem processResponse_ok {mdocCred : DcqlCredentialQuery}
    {sessionTranscript deviceResponse : String} {claims : Json} {docType : Option String}
    {missing mismatched : List String} {satisfied : Option Bool}
    (hquery : mdocQuery query = some mdocCred)
    (h : processResponse w query session sessionTranscript deviceResponse =
      .ok (.verified claims docType missing mismatched satisfied)) :
    ∃ options document, iso18013Options w query session mdocCred = .ok options ∧
      mdocVerify w.toFormatWorld deviceResponse (.iso18013 sessionTranscript) options
        (mdocCred.claims.map fun claims => claims.map (·.path)) = .ok document ∧
      claims = .obj document.claims ∧ docType = some document.docType := by
  rw [processResponse, hquery] at h
  obtain ⟨options, hoptions, h⟩ := bind_eq_ok.mp h
  have h := Except.ok.inj h
  unfold mdocFormat at h
  dsimp only at h
  split at h
  · cases h
  · rename_i document hverify
    cases h
    exact ⟨options, document, hoptions, hverify, rfl, rfl⟩

end Eudiplo
