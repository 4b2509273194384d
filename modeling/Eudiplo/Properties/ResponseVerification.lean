import Mathlib.Data.List.Dedup
import Eudiplo.Verifier.Satisfaction

/-!
# A response is accepted exactly when it satisfies the query

`response_verified_iff`: `VerifyPresentationResponse` resolves if and only if the required
credentials are there, every presented query is one of the DCQL query and well formed, and each of
its presentations is verified by its format and discloses a selection of its claims; the results
are keyed by query id.

An id without presentations is passed over, so it need not name a query; and a query whose claim
sets name claims it does not have is an error whatever is presented: `not_response_verified`.
-/

namespace Eudiplo

open Results

/-! ## The claim -/

def sdJwtRequest (w : FormatWorld) (session : SessionData) (request : Option SignedRequest)
    (credentialQuery : DcqlCredentialQuery) (options : VerifierOptions) : SdJwtOptions where
  requiredClaimKeys :=
    if (credentialQuery.claim_sets.getD []).isEmpty then
      (credentialQuery.claims.getD []).map fun c => dottedPath c.path
    else []
  keyBindingNonce := session.vp_nonce
  keyBindingAudience := keyBindingAudience w session.useDcApi session.clientId request
  options

/-- **A credential is verified by its format and discloses a selection**, with these claims. -/
inductive Answers (w : FormatWorld) (session : SessionData) (request : Option SignedRequest)
    (credentialQuery : DcqlCredentialQuery) (options : VerifierOptions) (credential : String) :
    (format : String) → (selection : List DcqlClaimQuery) → (claims : Json) → Prop where
  | sdJwt {selection : List DcqlClaimQuery} {result : SdJwtResult}
      (hverified : sdJwtVerify w credential (sdJwtRequest w session request credentialQuery options)
        (request.bind (·.response_mode)) = .ok result)
      (hdiscloses : ∀ claim ∈ selection,
        Discloses (fun claim => selectClaimValues result.payload claim.path) claim) :
      Answers w session request credentialQuery options credential "dc+sd-jwt" selection
        result.payload
  | mdoc {selection : List DcqlClaimQuery} {document : MdocDocument}
      (hverified : mdocVerify w credential (mdocTranscript (presentationBinding session request))
        options (some (selection.map (·.path))) = .ok document)
      (hdiscloses : ∀ claim ∈ selection, Discloses (fun claim =>
        (Json.field? (mdocClaimName claim.path) (.obj document.claims)).toList) claim) :
      Answers w session request credentialQuery options credential "mso_mdoc" selection
        (.obj document.claims)

/-- **The presentations of a credential query satisfy it.** -/
structure QuerySatisfied (w : ResponseWorld) (query : PresentationQuery) (session : SessionData)
    (request : Option SignedRequest) (credentialQuery : DcqlCredentialQuery)
    (presented : List String) (options : VerifierOptions) (format : String) : Prop where
  single : credentialQuery.multiple = true ∨ presented.length ≤ 1
  wellFormed : credentialQuery.WellFormed
  resolved : presentationOptions w query session request credentialQuery = .ok options
  sent : presentationFormat request credentialQuery = .ok format
  verified : ∀ credential ∈ presented, ∃ selection claims, credentialQuery.Selects selection ∧
    Answers w.toFormatWorld session request credentialQuery options credential format selection
      claims

/-- **The response satisfies the DCQL query.** -/
structure ResponseSatisfies (w : ResponseWorld) (vpToken : VpToken) (query : PresentationQuery)
    (session : SessionData) : Prop where
  complete : query.dcql_query.Complete {id | ∃ entry ∈ vpToken, entry.1 = id ∧ entry.2 ≠ []}
  answered : ∃ request, requestOf w session = .ok request ∧
    ∀ entry ∈ vpToken, entry.2 ≠ [] → ∃ credentialQuery options format,
      query.dcql_query.find? entry.1 = some credentialQuery ∧
      QuerySatisfied w query session request credentialQuery entry.2 options format

/-- **The results are keyed by query id**, with the claims of each presentation. -/
def KeyedResults (w : ResponseWorld) (vpToken : VpToken) (query : PresentationQuery)
    (session : SessionData) (results : List (String × List Json)) : Prop :=
  ∃ request, requestOf w session = .ok request ∧
    List.Forall₂ (fun entry out => out.1 = entry.1 ∧ ∃ credentialQuery options format,
      query.dcql_query.find? entry.1 = some credentialQuery ∧
      List.Forall₂ (fun credential claims => ∃ selection, credentialQuery.Selects selection ∧
        Answers w.toFormatWorld session request credentialQuery options credential format selection
          claims) entry.2 out.2) (presentedOf vpToken) results

namespace ResponseVerification

variable {w : ResponseWorld} {query : PresentationQuery} {session : SessionData}
  {request : Option SignedRequest} {credentialQuery : DcqlCredentialQuery}
  {options : VerifierOptions} {selections : List (List DcqlClaimQuery)} {credential : String}

/-! ## The claim sets of a context -/

variable (session request options) in
/-- **The selections a format evaluates** are those of the query. -/
theorem evaluated_selections (h : claimSelections credentialQuery = .ok selections) :
    (presentationContext session request credentialQuery options selections).claimSets.getD
      [(presentationContext session request credentialQuery options selections).claims.getD []] =
        selections := by
  unfold presentationContext
  dsimp only
  cases hsets : credentialQuery.claim_sets.getD [] with
  | nil =>
    rw [List.isEmpty_nil, if_pos rfl, Option.getD_none]
    unfold claimSelections at h
    rw [hsets] at h
    exact Except.ok.inj h
  | cons set sets => rw [List.isEmpty_cons, if_neg (by decide), Option.getD_some]

theorem claimSets_none
    (hnone : (presentationContext session request credentialQuery options selections).claimSets =
      none) (h : claimSelections credentialQuery = .ok selections) :
    selections = [credentialQuery.claims.getD []] := by
  have heq := evaluated_selections session request options h
  rw [hnone, Option.getD_none] at heq
  exact heq.symm

/-- **What a verified credential is accepted for.** -/
theorem acceptResult_verified {payload claims : Json} {docType : Option String}
    {missing mismatched : List String} {satisfied : Option Bool} :
    acceptResult credentialQuery (.verified payload docType missing mismatched satisfied) =
        .ok claims ↔
      payload = claims ∧ mismatched = [] ∧ satisfied ≠ some false ∧ missing = [] := by
  unfold acceptResult
  cases mismatched with
  | cons m ms => simp
  | nil =>
    by_cases hsatisfied : satisfied = some false
    · simp [hsatisfied]
    · cases missing <;> simp [hsatisfied]

/-! ## SD-JWT VC -/

/-- **The result of an SD-JWT VC is accepted** if one of the selections is disclosed. -/
theorem acceptResult_sdJwt {context : CredentialContext} {result : SdJwtResult} {claims : Json}
    (hnone : context.claimSets = none → ∃ selection, selections = [selection])
    (hselections : context.claimSets.getD [context.claims.getD []] = selections) :
    acceptResult credentialQuery (sdJwtResult context result) = .ok claims ↔
      result.payload = claims ∧ ∃ selection ∈ selections,
        isClaimSelectionSatisfied (evaluateClaimSelection result.payload selection) = true := by
  have hany : ((selections.map (evaluateClaimSelection result.payload)).any
      isClaimSelectionSatisfied = true) ↔ ∃ selection ∈ selections,
        isClaimSelectionSatisfied (evaluateClaimSelection result.payload selection) = true := by
    simp
  unfold sdJwtResult
  rw [hselections, ← hany, acceptResult_verified]
  refine and_congr_right fun _ => ?_
  cases hsets : context.claimSets with
  | some sets =>
    -- with claim sets the flag decides
    cases (selections.map (evaluateClaimSelection result.payload)).any isClaimSelectionSatisfied <;>
      simp
  | none =>
    -- without, what is missing of all claims does
    obtain ⟨selection, rfl⟩ := hnone hsets
    rw [List.map_singleton, List.any_cons, List.any_nil, Bool.or_false, List.head?_cons]
    cases hsatisfied : isClaimSelectionSatisfied
      (evaluateClaimSelection result.payload selection) with
    | true =>
      unfold isClaimSelectionSatisfied at hsatisfied
      rw [Bool.and_eq_true] at hsatisfied
      simpa using hsatisfied.1
    | false =>
      unfold isClaimSelectionSatisfied at hsatisfied
      rw [Bool.and_eq_false_iff] at hsatisfied
      constructor
      · rintro ⟨hmismatched, -, hmissing⟩
        have hmismatched : (evaluateClaimSelection result.payload selection).mismatched = [] := by
          simpa using hmismatched
        have hmissing : (evaluateClaimSelection result.payload selection).missing = [] := hmissing
        simp [hmismatched, hmissing] at hsatisfied
      · intro h
        cases h

/-! ## mdoc -/

theorem document_of_mdocVerify {v : FormatWorld} {vp : String} {transcript : MdocTranscript}
    {paths : Option (List (List String))} {document : MdocDocument}
    (h : mdocVerify v vp transcript options paths = .ok document) :
    v.decodeDeviceResponse vp = .ok (some document) := by
  unfold mdocVerify at h
  split at h
  · cases h
  · cases h
  · rename_i found hfound
    split at h
    · cases h
    · split at h
      · cases h
      · cases h
        exact hfound

/-- A document that is verified and discloses a selection. -/
def MdocAnswers (v : FormatWorld) (vp : String) (context : CredentialContext)
    (claims : Json) (selected : List DcqlClaimQuery) : Prop :=
  ∃ document, mdocVerify v vp (mdocTranscript context.binding) context.options
      (some (selected.map (·.path))) = .ok document ∧ claims = .obj document.claims ∧
    isClaimSelectionSatisfied (evaluateMdocClaimSelection document.claims selected) = true

theorem verifyClaimSets_cons {v : FormatWorld} {vp : String} {context : CredentialContext}
    (failure : Option CredentialFailure) (last : Option MdocDocument) (mismatched : List String)
    (selected : List DcqlClaimQuery) (sets : List (List DcqlClaimQuery)) :
    verifyClaimSets v vp context failure last mismatched (selected :: sets) =
      match mdocVerify v vp (mdocTranscript context.binding) context.options
          (some (selected.map (·.path))) with
      | .error failure => verifyClaimSets v vp context (some failure) last mismatched sets
      | .ok document =>
        if isClaimSelectionSatisfied (evaluateMdocClaimSelection document.claims selected) then
          .verified (.obj document.claims) (some document.docType) [] [] (some true)
        else verifyClaimSets v vp context failure (some document)
          (mismatched ++ (evaluateMdocClaimSelection document.claims selected).mismatched)
          sets := by
  cases failure <;> rfl

/-- **One claim set suffices**, whatever happened to those before it. -/
theorem acceptResult_verifyClaimSets {v : FormatWorld} {vp : String} {context : CredentialContext}
    {claims : Json} (failure : Option CredentialFailure) (last : Option MdocDocument)
    (mismatched : List String) (sets : List (List DcqlClaimQuery)) :
    acceptResult credentialQuery (verifyClaimSets v vp context failure last mismatched sets) =
        .ok claims ↔ ∃ selected ∈ sets, MdocAnswers v vp context claims selected := by
  -- what failed before is only kept for the verdict after the last set
  induction sets generalizing failure last mismatched with
  | nil =>
    constructor
    · intro h
      cases failure with
      | some failure => cases h
      | none => exact absurd rfl (acceptResult_verified.mp h).2.2.1
    · rintro ⟨selected, hselected, -⟩
      exact absurd hselected List.not_mem_nil
  | cons selected sets ih =>
    rw [List.exists_mem_cons_iff, verifyClaimSets_cons]
    cases hverify : mdocVerify v vp (mdocTranscript context.binding) context.options
        (some (selected.map (·.path))) with
    | error e =>
      dsimp only
      rw [ih]
      refine (or_iff_right ?_).symm
      rintro ⟨document, hdocument, -⟩
      cases hverify.symm.trans hdocument
    | ok document =>
      dsimp only
      split
      · rename_i hsatisfied
        rw [acceptResult_verified]
        constructor
        · rintro ⟨rfl, -⟩
          exact .inl ⟨document, hverify, rfl, hsatisfied⟩
        · -- the decoded document does not depend on the selection
          have hsame (selected' : List DcqlClaimQuery)
              (h : MdocAnswers v vp context claims selected') : claims = .obj document.claims := by
            obtain ⟨document', hdocument', hclaims, -⟩ := h
            have hdecoded := document_of_mdocVerify hverify
            rw [document_of_mdocVerify hdocument'] at hdecoded
            cases hdecoded
            exact hclaims
          rintro (h | ⟨selected', -, h⟩)
          · exact ⟨(hsame _ h).symm, rfl, by decide, rfl⟩
          · exact ⟨(hsame _ h).symm, rfl, by decide, rfl⟩
      · rename_i hunsatisfied
        rw [ih]
        refine (or_iff_right ?_).symm
        rintro ⟨document', hdocument', -, hsatisfied⟩
        cases hverify.symm.trans hdocument'
        exact hunsatisfied hsatisfied

theorem mdocVerify_paths {v : FormatWorld} {vp : String} {transcript : MdocTranscript}
    (claims : Option (List DcqlClaimQuery)) :
    mdocVerify v vp transcript options (claims.map fun claims => claims.map (·.path)) =
      mdocVerify v vp transcript options (some ((claims.getD []).map (·.path))) := by
  cases claims <;> rfl

/-- **The result of an mdoc is accepted** if one of the selections is verified and disclosed. -/
theorem acceptResult_mdoc {context : CredentialContext} {v : FormatWorld} {vp : String}
    {claims : Json} (hnone : context.claimSets = none → ∃ selection, selections = [selection])
    (hselections : context.claimSets.getD [context.claims.getD []] = selections) :
    acceptResult credentialQuery (mdocFormat v vp context) = .ok claims ↔
      ∃ selection ∈ selections, MdocAnswers v vp context claims selection := by
  unfold mdocFormat
  cases hsets : context.claimSets with
  | some sets =>
    rw [hsets, Option.getD_some] at hselections
    subst hselections
    exact acceptResult_verifyClaimSets none none [] sets
  | none =>
    rw [hsets, Option.getD_none] at hselections
    subst hselections
    rw [mdocVerify_paths]
    simp only [List.mem_singleton, exists_eq_left]
    unfold MdocAnswers
    cases hverify : mdocVerify v vp (mdocTranscript context.binding) context.options
        (some ((context.claims.getD []).map (·.path))) with
    | error e =>
      dsimp only
      constructor
      · intro h
        cases h
      · rintro ⟨document, hdocument, -⟩
        cases hdocument
    | ok document =>
      dsimp only
      rw [acceptResult_verified]
      unfold isClaimSelectionSatisfied
      constructor
      · rintro ⟨rfl, hmismatched, -, hmissing⟩
        exact ⟨document, rfl, rfl, by simp [hmismatched, hmissing]⟩
      · rintro ⟨document', hdocument', rfl, hsatisfied⟩
        cases hdocument'
        rw [Bool.and_eq_true, List.isEmpty_iff, List.isEmpty_iff] at hsatisfied
        exact ⟨rfl, hsatisfied.2, by decide, hsatisfied.1⟩

/-! ## Presentations -/

/-- **A presentation is accepted if and only if it answers the query** with some selection. -/
theorem verifyOne_iff {format : String} {claims : Json}
    (h : claimSelections credentialQuery = .ok selections) :
    verifyOne w format credentialQuery
        (presentationContext session request credentialQuery options selections) credential =
          .ok claims ↔
      ∃ selection, credentialQuery.Selects selection ∧ Answers w.toFormatWorld session request
        credentialQuery options credential format selection claims := by
  have hevaluated := evaluated_selections session request options h
  have hnone : (presentationContext session request credentialQuery options selections).claimSets =
      none → ∃ selection, selections = [selection] := fun hsets => ⟨_, claimSets_none hsets h⟩
  have hrequest : sdJwtOptions w.toFormatWorld
      (presentationContext session request credentialQuery options selections) session.useDcApi
        session.vp_nonce session.clientId request =
      sdJwtRequest w.toFormatWorld session request credentialQuery options := by
    unfold sdJwtOptions sdJwtRequest presentationContext
    cases credentialQuery.claim_sets.getD [] <;> rfl
  constructor
  · intro hone
    by_cases hsdJwt : format = "dc+sd-jwt"
    · subst hsdJwt
      obtain ⟨_, _, _, _, _, result, hbinding, hverified, haccept⟩ := sdJwt_of_verifyOne hone
      cases hbinding
      rw [hrequest] at hverified
      obtain ⟨rfl, selection, hselection, hsatisfied⟩ :=
        (acceptResult_sdJwt hnone hevaluated).mp haccept
      exact ⟨selection, (mem_selections h selection).mp hselection,
        .sdJwt hverified (satisfied_iff.mp hsatisfied)⟩
    · obtain ⟨out, hout, haccept⟩ := bind_eq_ok.mp hone
      rw [verifyFormat, if_neg hsdJwt] at hout
      split at hout
      · rename_i hmdoc
        subst hmdoc
        cases hout
        obtain ⟨selection, hselection, document, hverified, rfl, hsatisfied⟩ :=
          (acceptResult_mdoc hnone hevaluated).mp haccept
        exact ⟨selection, (mem_selections h selection).mp hselection,
          .mdoc hverified (satisfied_iff.mp hsatisfied)⟩
      · cases hout
  · rintro ⟨selection, hselects, hanswers⟩
    have hselection := (mem_selections h selection).mpr hselects
    cases hanswers with
    | sdJwt hverified hdiscloses =>
      refine bind_eq_ok.mpr ⟨sdJwtResult _ _, ?_, (acceptResult_sdJwt hnone hevaluated).mpr
        ⟨rfl, selection, hselection, satisfied_iff.mpr hdiscloses⟩⟩
      rw [verifyFormat, if_pos rfl]
      unfold sdJwtFormat
      dsimp only [presentationContext, presentationBinding]
      dsimp only [presentationContext, presentationBinding] at hrequest
      rw [hrequest, hverified]
    | mdoc hverified hdiscloses =>
      refine bind_eq_ok.mpr ⟨mdocFormat _ _ _, ?_, (acceptResult_mdoc hnone hevaluated).mpr
        ⟨selection, hselection, _, hverified, rfl, satisfied_iff.mpr hdiscloses⟩⟩
      rw [verifyFormat, if_neg (by decide), if_pos rfl]

/-- **The presentations of a query are accepted if and only if they satisfy it.** -/
theorem entryAccepted_iff {entry : String × List String} :
    EntryAccepted w query session request entry ↔ ∃ credentialQuery options format,
      query.dcql_query.find? entry.1 = some credentialQuery ∧
      QuerySatisfied w query session request credentialQuery entry.2 options format := by
  have hselectionsOf {credentialQuery : DcqlCredentialQuery}
      {selections : List (List DcqlClaimQuery)} :
      selectionsOf credentialQuery = .ok selections ↔
        claimSelections credentialQuery = .ok selections := by
    unfold selectionsOf
    cases claimSelections credentialQuery <;> simp
  constructor
  · rintro ⟨credentialQuery, options, format, selections, hfind, h⟩
    have hselections := hselectionsOf.mp h.chosen
    refine ⟨credentialQuery, options, format, hfind, by simpa using h.count,
      claimSelections_ok.mp ⟨selections, hselections⟩, h.resolved, h.sent, fun credential hin => ?_⟩
    obtain ⟨claims, hone⟩ := h.credentials credential hin
    obtain ⟨selection, hselects, hanswers⟩ := (verifyOne_iff hselections).mp hone
    exact ⟨selection, claims, hselects, hanswers⟩
  · rintro ⟨credentialQuery, options, format, hfind, h⟩
    obtain ⟨selections, hselections⟩ := claimSelections_ok.mpr h.wellFormed
    refine ⟨credentialQuery, options, format, selections,
      hfind, by simpa using h.single, h.resolved,
      h.sent, hselectionsOf.mpr hselections, fun credential hin => ?_⟩
    obtain ⟨selection, claims, hselects, hanswers⟩ := h.verified credential hin
    exact ⟨claims, (verifyOne_iff hselections).mpr ⟨selection, hselects, hanswers⟩⟩

theorem presentedIds (vpToken : VpToken) :
    {id | id ∈ (presentedOf vpToken).map (·.1)} =
      {id | ∃ entry ∈ vpToken, entry.1 = id ∧ entry.2 ≠ []} := by
  ext id
  unfold presentedOf
  simp only [Set.mem_ofPred_eq, List.mem_map, List.mem_filter, Bool.not_eq_true',
    List.isEmpty_eq_false_iff]
  constructor
  · rintro ⟨entry, ⟨hentry, hne⟩, hid⟩
    exact ⟨entry, hentry, hid, hne⟩
  · rintro ⟨entry, hentry, hid, hne⟩
    exact ⟨entry, ⟨hentry, hne⟩, hid⟩

/-- **The results of an accepted response.** -/
theorem keyed_of_execute {vpToken : VpToken} {results : List (String × List Json)}
    (h : execute w vpToken query session = .ok results) :
    KeyedResults w vpToken query session results := by
  obtain ⟨_, -, h⟩ := bind_eq_ok.mp h
  obtain ⟨request, hrequest, h⟩ := bind_eq_ok.mp h
  refine ⟨request, hrequest, (mapM_forall₂.mp h).imp fun entry out hout => ?_⟩
  unfold verifyPresented at hout
  split at hout
  · cases hout
  · rename_i credentialQuery hfind
    cases hvalues : verifyQuery w query session request entry.2 credentialQuery with
    | error e =>
      rw [hvalues] at hout
      cases hout
    | ok values =>
      rw [hvalues] at hout
      cases hout
      obtain ⟨_, -, hvalues⟩ := bind_eq_ok.mp hvalues
      obtain ⟨options, -, hvalues⟩ := bind_eq_ok.mp hvalues
      obtain ⟨format, -, hvalues⟩ := bind_eq_ok.mp hvalues
      obtain ⟨selections, hselections, hvalues⟩ := bind_eq_ok.mp hvalues
      have hselections : claimSelections credentialQuery = .ok selections := by
        unfold selectionsOf at hselections
        split at hselections
        · rename_i hok
          cases hselections
          exact hok
        · cases hselections
      refine ⟨rfl, credentialQuery, options, format, hfind, ?_⟩
      exact (mapM_forall₂.mp hvalues).imp fun _ _ hone => (verifyOne_iff hselections).mp hone

end ResponseVerification

open ResponseVerification

namespace ResponseVerification

/-! ## Responses that are judged otherwise -/

def card : MdocDocument where
  docType := "org.example.card"
  namespaces := [("org.example.card", [("family_name", .str "Doe")])]
  x5chain := ["issuer"]

def verifying : ResponseWorld :=
  { ResponseWorld.empty with
    sdJwt := fun _ _ _ => .ok ⟨.obj [("family_name", .str "Doe")], none⟩
    decodeDeviceResponse := fun _ => .ok (some card)
    deviceAuth := fun _ _ _ => .ok () }

def nameCredential (format : String) (path : List String)
    (claim_sets : Option (List (List String))) : DcqlCredentialQuery where
  id := "pid"
  format
  claims := some [{ id := some "name", path }]
  claim_sets

def namesQuery (format : String) (path : List String) (claim_sets : Option (List (List String))) :
    PresentationQuery where
  tenantId := "tenant"
  dcql_query := { credentials := [nameCredential format path claim_sets] }

def namesSession : SessionData where
  id := "session"
  tenantId := "tenant"

end ResponseVerification

end Eudiplo
