import Eudiplo.Verifier.CredentialSignature
import Eudiplo.Properties.ResponseVerification
import Eudiplo.Properties.DeviceResponses

/-!
# Are trusted authorities enforced?

Of the trust lists and of the federation anchors of a query the first entry decides, also when it
has no values, and without a list and an anchor every issuer is accepted:
`trusted_authorities_enforced` says for which queries an accepted issuer has been checked.
-/

namespace Eudiplo

open Results CredentialSignature

namespace CredentialSignature

/-! ## The claim -/

variable (w : IssuerWorld)

/-- **A credential is accepted** under this query, with these options and this chain of its
issuer: in a response to an OID4VP request, or in a device response of ISO 18013-7. -/
inductive Accepted (credentialQuery : DcqlCredentialQuery) (options : VerifierOptions)
    (x5c : List String) : Prop
  | openid4vp {vpToken : VpToken} {query : PresentationQuery} {session : SessionData}
      {v : List (String × List Json)} {request : Option SignedRequest}
      {presented : String × List String} {format credential : String}
      (haccepted : execute w.toResponseWorld vpToken query session = .ok v)
      (hrequest : requestOf w.toResponseWorld session = .ok request)
      (hpresented : presented ∈ presentedOf vpToken)
      (hquery : query.dcql_query.find? presented.1 = some credentialQuery)
      (hoptions : presentationOptions w.toResponseWorld query session request credentialQuery =
        .ok options)
      (hformat : presentationFormat request credentialQuery = .ok format)
      (hcredential : credential ∈ presented.2)
      (hchain : issuerChain w format credential = some x5c) :
      Accepted credentialQuery options x5c
  | iso18013 {config : PresentationQuery} {session : SessionData}
      {sessionTranscript deviceResponse : String} {claims : Json} {docType : Option String}
      {missing mismatched : List String} {satisfied : Option Bool}
      (hquery : mdocQuery config = some credentialQuery)
      (haccepted : processResponse w.toResponseWorld config session sessionTranscript
        deviceResponse = .ok (.verified claims docType missing mismatched satisfied))
      (hoptions : iso18013Options w.toResponseWorld config session credentialQuery = .ok options)
      (hchain : issuerChain w "mso_mdoc" deviceResponse = some x5c) :
      Accepted credentialQuery options x5c

/-- **The issuer was checked** against the trust lists of an entry of the query, or against the
federation anchors of one. -/
inductive IssuerChecked (credentialQuery : DcqlCredentialQuery) (options : VerifierOptions)
    (x5c : List String) : Prop
  | byList {refs : List TrustListRef} {tenantId tenantHost : String} {store : TrustStore}
      (hentry : .etsi_tl refs ∈ credentialQuery.trusted_authorities.getD [])
      (hresolved : resolveTrustListRefsForTenant w.toTrustWorld refs tenantId tenantHost =
        .ok options.trustListSource.lotes)
      (hne : options.trustListSource.lotes ≠ [])
      (hstore : getTrustStoreIfConfigured w.toTrustWorld options.trustListSource =
        .ok (some store))
      (hmatch : w.matchIssuer x5c store = .ok ()) :
      IssuerChecked credentialQuery options x5c
  | byAnchor {source : FederationTrustSource}
      (hsource : options.federationTrustSource = some source)
      (hentry : .openid_federation source.trustAnchors ∈
        credentialQuery.trusted_authorities.getD [])
      (hne : source.trustAnchors ≠ [])
      (htrusts : w.federationTrusts x5c source = true) :
      IssuerChecked credentialQuery options x5c

/-- **Trusted authorities are enforced**: the issuer was checked, and was not accepted because
nothing is configured. -/
structure Enforced (credentialQuery : DcqlCredentialQuery) (options : VerifierOptions)
    (x5c : List String) : Prop where
  checked : IssuerChecked w credentialQuery options x5c
  configured : ¬(options.federationTrustSource = none ∧
    getTrustStoreIfConfigured w.toTrustWorld options.trustListSource = .ok none)

/-- **A deciding entry has a value**: the first trust list entry, or the first federation entry. -/
def DecidingEntry (credentialQuery : DcqlCredentialQuery) : Prop :=
  trustListAuthorities credentialQuery.trusted_authorities ≠ [] ∨
    federationAnchors credentialQuery.trusted_authorities ≠ []

variable {w} {credentialQuery : DcqlCredentialQuery} {options : VerifierOptions}
  {x5c : List String}

/-! ## Entries -/

theorem mem_of_findSome {α : Type} {f : DcqlTrustedAuthority → Option (List α)}
    {entry : List α → DcqlTrustedAuthority} (hf : ∀ a values, f a = some values → a = entry values)
    {authorities : List DcqlTrustedAuthority} (hne : (authorities.findSome? f).getD [] ≠ []) :
    entry ((authorities.findSome? f).getD []) ∈ authorities := by
  cases hfirst : authorities.findSome? f with
  | none =>
    rw [hfirst] at hne
    exact absurd rfl hne
  | some values =>
    obtain ⟨a, ha, hvalues⟩ := List.exists_of_findSome?_eq_some hfirst
    rw [Option.getD_some, ← hf a values hvalues]
    exact ha

theorem mem_of_trustListAuthorities {authorities : Option (List DcqlTrustedAuthority)}
    (hne : trustListAuthorities authorities ≠ []) :
    .etsi_tl (trustListAuthorities authorities) ∈ authorities.getD [] :=
  mem_of_findSome (fun a values h => by cases a <;> cases h; rfl) hne

theorem mem_of_federationAnchors {authorities : Option (List DcqlTrustedAuthority)}
    (hne : federationAnchors authorities ≠ []) :
    .openid_federation (federationAnchors authorities) ∈ authorities.getD [] :=
  mem_of_findSome (fun a values h => by cases a <;> cases h; rfl) hne

/-! ## Options -/

/-- **Options built from a query**: its first trust lists resolved, its first anchors without any,
and a chain is required. -/
structure BuiltFrom (w : IssuerWorld) (credentialQuery : DcqlCredentialQuery)
    (options : VerifierOptions) : Prop where
  lotes : ∃ tenantId tenantHost, resolveTrustListRefsForTenant w.toTrustWorld
    (trustListAuthorities credentialQuery.trusted_authorities) tenantId tenantHost =
      .ok options.trustListSource.lotes
  federation : options.federationTrustSource =
    if !(federationAnchors credentialQuery.trusted_authorities).isEmpty &&
        options.trustListSource.lotes.isEmpty then
      some ⟨federationAnchors credentialQuery.trusted_authorities⟩
    else none
  requireX5c : options.requireX5c = true

theorem resolveAuthorities_ok {tenantId hostTenant : String}
    {authorities : Option (List DcqlTrustedAuthority)} {lotes : List TrustListRef}
    (h : resolveAuthorities w.toResponseWorld tenantId hostTenant authorities = .ok lotes) :
    resolveTrustListRefsForTenant w.toTrustWorld (trustListAuthorities authorities) tenantId
      (w.publicUrl ++ "/issuers/" ++ hostTenant) = .ok lotes := by
  unfold resolveAuthorities at h
  split at h
  · rename_i trustLists hlists
    rw [hlists, Except.ok.inj h]
  · cases h

theorem builtFrom_presentationOptions {query : PresentationQuery} {session : SessionData}
    {request : Option SignedRequest}
    (h : presentationOptions w.toResponseWorld query session request credentialQuery =
      .ok options) : BuiltFrom w credentialQuery options := by
  obtain ⟨transactionData, -, h⟩ := bind_eq_ok.mp h
  obtain ⟨lotes, hlotes, h⟩ := bind_eq_ok.mp h
  obtain ⟨ts12, -, h⟩ := bind_eq_ok.mp h
  obtain rfl := Except.ok.inj h
  exact ⟨⟨_, _, resolveAuthorities_ok hlotes⟩, rfl, rfl⟩

theorem builtFrom_iso18013Options {config : PresentationQuery} {session : SessionData}
    (h : iso18013Options w.toResponseWorld config session credentialQuery = .ok options) :
    BuiltFrom w credentialQuery options := by
  obtain ⟨lotes, hlotes, h⟩ := bind_eq_ok.mp h
  obtain rfl := Except.ok.inj h
  exact ⟨⟨_, _, resolveAuthorities_ok hlotes⟩, rfl, rfl⟩

theorem BuiltFrom.lotes_eq_nil (h : BuiltFrom w credentialQuery options) :
    options.trustListSource.lotes = [] ↔
      trustListAuthorities credentialQuery.trusted_authorities = [] := by
  obtain ⟨tenantId, tenantHost, hresolved⟩ := h.lotes
  have hlength := (mapM_forall₂.mp hresolved).length_eq
  rw [← List.length_eq_zero_iff, ← List.length_eq_zero_iff, hlength]

theorem getTrustStoreIfConfigured_none_iff {source : TrustListSource} :
    getTrustStoreIfConfigured w.toTrustWorld source = .ok none ↔ source.lotes = [] := by
  unfold getTrustStoreIfConfigured
  cases hlotes : source.lotes with
  | nil => exact ⟨fun _ => rfl, fun _ => rfl⟩
  | cons ref refs =>
    rw [List.isEmpty_cons, if_neg (by decide)]
    refine ⟨fun h => ?_, nofun⟩
    split at h
    · cases h
    · split at h <;> cases h

theorem checks_of_validateChain (hrequire : options.requireX5c = true)
    (h : validateChain w.toTrustWorld x5c options = .ok ()) :
    (∀ source, options.federationTrustSource = some source →
        w.federationTrusts x5c source = true) ∧
      (options.federationTrustSource = none → options.trustListSource.lotes ≠ [] →
        ∃ store, getTrustStoreIfConfigured w.toTrustWorld options.trustListSource =
          .ok (some store) ∧ w.matchIssuer x5c store = .ok ()) := by
  unfold validateChain at h
  rw [hrequire] at h
  split at h
  · cases h
  · split at h
    · cases h
    · split at h
      · rename_i source hsource
        split at h
        · rename_i htrusts
          refine ⟨fun source' hsource' => ?_, fun hnone => ?_⟩
          · obtain rfl := Option.some.inj (hsource.symm.trans hsource')
            exact htrusts
          · rw [hsource] at hnone
            cases hnone
        · cases h
      · rename_i hnone
        refine ⟨fun source hsource => ?_, fun _ hne => ?_⟩
        · rw [hnone] at hsource
          cases hsource
        · split at h
          · cases h
          · rename_i hstore
            exact absurd (getTrustStoreIfConfigured_none_iff.mp hstore) hne
          · rename_i store hstore
            exact ⟨store, hstore, h⟩

/-- **A validated chain was checked**, when the deciding entry of its query has a value. -/
theorem enforced_iff (hbuilt : BuiltFrom w credentialQuery options)
    (h : validateChain w.toTrustWorld x5c options = .ok ()) :
    Enforced w credentialQuery options x5c ↔ DecidingEntry credentialQuery := by
  obtain ⟨hfederation, hlists⟩ := checks_of_validateChain hbuilt.requireX5c h
  have hsource := hbuilt.federation
  constructor
  · rintro ⟨hchecked, -⟩
    cases hchecked with
    | byList _ _ hne _ _ => exact .inl fun hnil => hne (hbuilt.lotes_eq_nil.mpr hnil)
    | byAnchor hsome _ _ _ =>
      refine .inr fun hnil => ?_
      rw [hsome, hnil] at hsource
      cases hsource
  · intro hentry
    by_cases hlotes : options.trustListSource.lotes = []
    · -- no list: the anchors decide
      have hanchors : federationAnchors credentialQuery.trusted_authorities ≠ [] :=
        hentry.resolve_left fun hne => hne (hbuilt.lotes_eq_nil.mp hlotes)
      have hempty : (federationAnchors credentialQuery.trusted_authorities).isEmpty = false := by
        simpa using hanchors
      rw [hlotes, hempty] at hsource
      refine ⟨.byAnchor hsource (mem_of_federationAnchors hanchors) hanchors
        (hfederation _ hsource), fun hnone => ?_⟩
      rw [hsource] at hnone
      cases hnone.1
    · have hempty : options.trustListSource.lotes.isEmpty = false := by simpa using hlotes
      rw [hempty, Bool.and_false] at hsource
      obtain ⟨store, hstore, hmatch⟩ := hlists hsource hlotes
      obtain ⟨tenantId, tenantHost, hresolved⟩ := hbuilt.lotes
      have hrefs : trustListAuthorities credentialQuery.trusted_authorities ≠ [] := fun hnil =>
        hlotes (hbuilt.lotes_eq_nil.mpr hnil)
      exact ⟨.byList (mem_of_trustListAuthorities hrefs) hresolved hlotes hstore hmatch,
        fun hnone => hlotes (getTrustStoreIfConfigured_none_iff.mp hnone.2)⟩

/-! ## Accepted credentials -/

theorem chain_of_mdocVerify {vp : String} {transcript : MdocTranscript}
    {paths : Option (List (List String))} {document : MdocDocument}
    (h : mdocVerify w.toFormatWorld vp transcript options paths = .ok document)
    (hchain : issuerChain w "mso_mdoc" vp = some x5c) : x5c = document.x5chain := by
  unfold issuerChain at hchain
  rw [if_neg (by decide)] at hchain
  unfold mdocVerify at h
  split at h
  · cases h
  · cases h
  · rename_i found hfound
    rw [hfound] at hchain
    split at h
    · cases h
    · split at h
      · cases h
      · cases h
        exact (Option.some.inj hchain).symm

theorem validated_of_answers {session : SessionData} {request : Option SignedRequest}
    {format credential : String} {selection : List DcqlClaimQuery} {claims : Json}
    (h : Answers w.toFormatWorld session request credentialQuery options credential format
      selection claims) (hchain : issuerChain w format credential = some x5c) :
    validateChain w.toTrustWorld x5c options = .ok () := by
  cases h with
  | sdJwt hverified _ =>
    obtain ⟨⟨status, hlibrary⟩, -⟩ := of_sdJwtVerify hverified
    obtain ⟨header, hheader, hvalid⟩ :=
      validated_of_verifyCredential (w.sdJwt_verifies _ _ _ _ hlibrary)
    unfold issuerChain at hchain
    rw [if_pos rfl, hheader] at hchain
    rw [← Option.some.inj hchain]
    exact hvalid
  | mdoc hverified _ =>
    rw [chain_of_mdocVerify hverified hchain]
    exact DeviceResponses.validated_of_mdocVerify hverified

/-- **The chain of an accepted credential** was validated with options built from its query. -/
theorem Accepted.validated (h : Accepted w credentialQuery options x5c) :
    BuiltFrom w credentialQuery options ∧ validateChain w.toTrustWorld x5c options = .ok () := by
  cases h with
  | openid4vp haccepted hrequest hpresented hquery hoptions hformat hcredential hchain =>
    refine ⟨builtFrom_presentationOptions hoptions, ?_⟩
    obtain ⟨-, request', hrequest', hentries⟩ := execute_accepts.mp ⟨_, haccepted⟩
    obtain rfl := Except.ok.inj (hrequest'.symm.trans hrequest)
    obtain ⟨credentialQuery', options', format', selections, hquery', hquery''⟩ :=
      hentries _ hpresented
    obtain rfl := Option.some.inj (hquery'.symm.trans hquery)
    obtain rfl := Except.ok.inj (hquery''.resolved.symm.trans hoptions)
    obtain rfl := Except.ok.inj (hquery''.sent.symm.trans hformat)
    have hselections : claimSelections credentialQuery' = .ok selections := by
      have hchosen := hquery''.chosen
      unfold selectionsOf at hchosen
      split at hchosen
      · rename_i found hfound
        rw [hfound, Except.ok.inj hchosen]
      · cases hchosen
    obtain ⟨claims, hclaims⟩ := hquery''.credentials _ hcredential
    obtain ⟨selection, -, hanswers⟩ := (ResponseVerification.verifyOne_iff hselections).mp hclaims
    exact validated_of_answers hanswers hchain
  | iso18013 hquery haccepted hoptions hchain =>
    refine ⟨builtFrom_iso18013Options hoptions, ?_⟩
    obtain ⟨options', document, hoptions', hverified, -⟩ := processResponse_ok hquery haccepted
    obtain rfl := Except.ok.inj (hoptions'.symm.trans hoptions)
    rw [chain_of_mdocVerify hverified hchain]
    exact DeviceResponses.validated_of_mdocVerify hverified

end CredentialSignature

/-- **Trusted authorities are enforced** for an accepted credential, exactly when the first trust
list entry or the first federation entry of its query has a value. -/
theorem trusted_authorities_enforced (w : IssuerWorld) (credentialQuery : DcqlCredentialQuery)
    (options : VerifierOptions) (x5c : List String)
    (h : Accepted w credentialQuery options x5c) :
    Enforced w credentialQuery options x5c ↔ DecidingEntry credentialQuery :=
  enforced_iff h.validated.1 h.validated.2

namespace CredentialSignature

/-! ## Entries without values -/

def licence : MdocDocument where
  docType := "org.iso.18013.5.1.mDL"
  namespaces := [("org.iso.18013.5.1", [("family_name", .str "Doe")])]
  x5chain := ["issuer"]

/-- A verifier that accepts the licence, and no SD-JWT VC. -/
def licensing : IssuerWorld :=
  { DeviceResponses.accepting ResponseWorld.empty licence with
    parseHeader := fun _ => .error "Invalid JWT"
    nodeCertificate := fun _ => .error "Invalid certificate"
    exportKey := fun _ => .error "Invalid key"
    getVerifier := fun _ => .error "Invalid key"
    issuerJwt := fun credential => (credential, "")
    sdJwt_verifies := fun _ _ _ _ h => nomatch h }

def licenceQuery (authorities : List DcqlTrustedAuthority) : DcqlCredentialQuery where
  id := "mdl"
  format := "mso_mdoc"
  typed := { doctype_value := some "org.iso.18013.5.1.mDL" }
  trusted_authorities := some authorities

def licenceConfig (authorities : List DcqlTrustedAuthority) : PresentationQuery where
  tenantId := "tenant"
  dcql_query := { credentials := [licenceQuery authorities] }

def licenceSession : SessionData where
  id := "session"
  tenantId := "tenant"

/-- **A licence is accepted** although nothing is asked of its issuer, and nothing is configured. -/
def AcceptsUnchecked (authorities : List DcqlTrustedAuthority) : Prop :=
  ∃ options, Accepted licensing (licenceQuery authorities) options ["issuer"] ∧
    ¬IssuerChecked licensing (licenceQuery authorities) options ["issuer"] ∧
    options.federationTrustSource = none ∧
    getTrustStoreIfConfigured licensing.toTrustWorld options.trustListSource = .ok none

theorem not_issuerChecked (hlists : options.trustListSource.lotes = [])
    (hsource : options.federationTrustSource = none) :
    ¬IssuerChecked w credentialQuery options x5c := by
  intro hchecked
  cases hchecked with
  | byList _ _ hne _ _ => exact hne hlists
  | byAnchor hsome _ _ _ => cases hsource.symm.trans hsome

end CredentialSignature

/-- An issuer of the federation of the query. -/
theorem trusted_authorities_enforced_federation :
    ∃ options, Enforced licensing (licenceQuery [.openid_federation ["https://anchor.example"]])
      options ["issuer"] := by
  have haccepted : Accepted licensing
      (licenceQuery [.openid_federation ["https://anchor.example"]]) _ ["issuer"] :=
    @Accepted.iso18013 _ _ _ _ (licenceConfig [.openid_federation ["https://anchor.example"]])
      licenceSession "" "" _ _ _ _ _ rfl rfl rfl rfl
  exact ⟨_, (trusted_authorities_enforced licensing _ _ _ haccepted).mpr (.inr (by decide))⟩

/-- **An empty list before another**, and **a federation entry without anchors**, accept an issuer
that nothing was asked of. -/
theorem not_trusted_authorities_enforced :
    AcceptsUnchecked [.etsi_tl [], .etsi_tl [{ url := some "https://lists.example" }]] ∧
      AcceptsUnchecked [.openid_federation []] := by
  constructor
  · exact ⟨_, @Accepted.iso18013 _ _ _ _ (licenceConfig [.etsi_tl [],
      .etsi_tl [{ url := some "https://lists.example" }]]) licenceSession "" "" _ _ _ _ _
      rfl rfl rfl rfl, not_issuerChecked rfl rfl, rfl, rfl⟩
  · exact ⟨_, @Accepted.iso18013 _ _ _ _ (licenceConfig [.openid_federation []]) licenceSession
      "" "" _ _ _ _ _ rfl rfl rfl rfl, not_issuerChecked rfl rfl, rfl, rfl⟩

end Eudiplo
