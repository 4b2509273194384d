import Eudiplo.Verifier.Acceptance

/-!
# Do both flows judge an mdoc alike?

OID4VP and ISO 18013-7 build their options from the same configuration, but `processResponse`
leaves the tenant out of them.  Managed lists are resolved again when the trust store is loaded,
and without a tenant that fails: ISO 18013-7 rejects every document of such a configuration.

`flows_agree_iff`: the flows judge alike if and only if they load the same trust store.
-/

namespace Eudiplo

open Results

/-! ## Decisions -/

def decision : CredentialResult → Option CredentialFailure
  | .verified .. => none
  | .failed failure _ => some failure

def openid4vpDecision (w : ResponseWorld) (config : PresentationQuery) (session : SessionData)
    (request : Option SignedRequest) (credentialQuery : DcqlCredentialQuery) (vp : String) :
    Except VerifyError (Option CredentialFailure) := do
  let options ← presentationOptions w config session request credentialQuery
  let format ← presentationFormat request credentialQuery
  let selections ← selectionsOf credentialQuery
  let result ← verifyFormat w.toFormatWorld format vp
    (presentationContext session request credentialQuery options selections)
  return decision result

def iso18013Decision (w : ResponseWorld) (config : PresentationQuery) (session : SessionData)
    (sessionTranscript deviceResponse : String) : Except VerifyError (Option CredentialFailure) :=
  decision <$> processResponse w config session sessionTranscript deviceResponse

/-! ## The claim -/

/-- The same trust lists, whatever certificates, federation and revocation state there is. -/
structure SameTrustLists (w w' : ResponseWorld) : Prop where
  getVerifierX509Der : w'.getVerifierX509Der = w.getVerifierX509Der
  managedUrl : w'.managedUrl = w.managedUrl
  cached : w'.cached = w.cached
  collect : w'.collect = w.collect
  encodeURIComponent : w'.encodeURIComponent = w.encodeURIComponent
  publicUrl : w'.publicUrl = w.publicUrl

/-- **A document is presented in both flows**, each time bound to the transcript of the flow and
with all requested elements. -/
structure PresentedInBoth (w : ResponseWorld) (session : SessionData)
    (request : Option SignedRequest) (credentialQuery : DcqlCredentialQuery)
    (vp sessionTranscript deviceResponse : String) (document : MdocDocument) : Prop where
  format : presentationFormat request credentialQuery = .ok "mso_mdoc"
  openid4vp : w.decodeDeviceResponse vp = .ok (some document)
  iso18013 : w.decodeDeviceResponse deviceResponse = .ok (some document)
  sameIssuer : w.issuerAndStatus vp = w.issuerAndStatus deviceResponse
  boundOpenid4vp : ∀ paths, w.deviceAuth vp
    (buildDeviceRequest document.docType paths document.namespaces)
    (mdocTranscript (presentationBinding session request)) = .ok ()
  boundIso18013 : ∀ paths, w.deviceAuth deviceResponse
    (buildDeviceRequest document.docType paths document.namespaces)
    (.iso18013 sessionTranscript) = .ok ()
  discloses :
    (evaluateMdocClaimSelection document.claims (credentialQuery.claims.getD [])).missing = []

/-- **Both flows judge an mdoc alike**, for every document and every state of certificates,
federation and revocation. -/
def FlowsAgree (w : ResponseWorld) (config : PresentationQuery) : Prop :=
  ∀ w', SameTrustLists w w' → ∀ credentialQuery, mdocQuery config = some credentialQuery →
    ∀ session, session.tenantId = config.tenantId →
      ∀ request vp sessionTranscript deviceResponse document, PresentedInBoth w' session request
          credentialQuery vp sessionTranscript deviceResponse document →
        ∀ openid4vp iso18013,
          openid4vpDecision w' config session request credentialQuery vp = .ok openid4vp →
          iso18013Decision w' config session sessionTranscript deviceResponse = .ok iso18013 →
            openid4vp = iso18013

/-! ## The condition -/

def loadedStore (w : TrustWorld) (tenantId : Option String) (lists : List TrustListRef) :
    Option TrustStore :=
  ((w.cached ⟨lists, tenantId⟩).or (w.collect lists).toOption).filter (!·.stale)

/-- **The flows load the same trust store**: OID4VP loads none when a list is managed, and the
store of external lists is the same with and without the tenant. -/
def SameStore (w : TrustWorld) (tenantId : String) (lists : List TrustListRef) : Prop :=
  if lists.any (·.trustListId.isSome) then
    ∀ store, getTrustStoreIfConfigured w ⟨lists, some tenantId⟩ ≠ .ok (some store)
  else lists = [] ∨ loadedStore w (some tenantId) lists = loadedStore w none lists

/-- The flows load the same store for the trust lists of a configuration, if these resolve, and the
claim sets do. -/
def StoresAgree (w : ResponseWorld) (config : PresentationQuery) : Prop :=
  ∀ credentialQuery, mdocQuery config = some credentialQuery →
    (∃ selections, selectionsOf credentialQuery = .ok selections) → ∀ lists,
      resolveAuthorities w config.tenantId config.tenantId credentialQuery.trusted_authorities =
          .ok lists →
        SameStore w.toTrustWorld config.tenantId lists

namespace FlowAgreement

/-! ## Trust stores -/

def usedStore (w : TrustWorld) (source : TrustListSource) : Option (Option TrustStore) :=
  (getTrustStoreIfConfigured w source).toOption

theorem resolveManaged_external (w : TrustWorld) (tenantId : Option String)
    {lists : List TrustListRef} (h : lists.any (·.trustListId.isSome) = false) :
    lists.mapM (resolveManaged w tenantId) = .ok lists := by
  induction lists with
  | nil => rfl
  | cons ref lists ih =>
    rw [List.any_cons, Bool.or_eq_false_iff] at h
    have hnone : ref.trustListId = none := by simpa using h.1
    have href : resolveManaged w tenantId ref = .ok ref := by
      unfold resolveManaged
      rw [hnone]
    rw [List.mapM_cons, href, ih h.2]
    rfl

/-- **Without a tenant managed lists are not resolved.** -/
theorem resolveManaged_managed (w : TrustWorld) {lists : List TrustListRef}
    (h : lists.any (·.trustListId.isSome) = true) {resolved : List TrustListRef} :
    lists.mapM (resolveManaged w none) ≠ .ok resolved := by
  intro hresolved
  obtain ⟨ref, href, hmanaged⟩ := List.any_eq_true.mp h
  obtain ⟨id, hid⟩ := Option.isSome_iff_exists.mp hmanaged
  obtain ⟨_, hone⟩ := mapM_succeeds.mp ⟨resolved, hresolved⟩ ref href
  unfold resolveManaged at hone
  rw [hid] at hone
  cases hone

theorem ok_of_usedStore {w : TrustWorld} {source : TrustListSource} {store : Option TrustStore}
    (h : usedStore w source = some store) : getTrustStoreIfConfigured w source = .ok store := by
  unfold usedStore at h
  cases hstore : getTrustStoreIfConfigured w source with
  | error message =>
    rw [hstore] at h
    cases h
  | ok out =>
    rw [hstore] at h
    cases h
    rfl

theorem getTrustStore_external (w : TrustWorld) (tenantId : Option String)
    {lists : List TrustListRef} (h : lists.any (·.trustListId.isSome) = false) :
    (getTrustStore w ⟨lists, tenantId⟩).toOption =
      (w.cached ⟨lists, tenantId⟩).or (w.collect lists).toOption := by
  unfold getTrustStore
  rw [resolveManaged_external w tenantId h]
  simp only [bind, Except.bind]
  cases w.cached ⟨lists, tenantId⟩ <;> rfl

theorem usedStore_configured (w : TrustWorld) {source : TrustListSource} (hne : source.lotes ≠ []) :
    usedStore w source = ((getTrustStore w source).toOption.filter (!·.stale)).map some := by
  unfold usedStore getTrustStoreIfConfigured
  rw [if_neg (by simpa using hne)]
  cases getTrustStore w source with
  | error message => rfl
  | ok store =>
    cases hstale : store.stale <;> simp [Except.toOption, Option.filter, hstale]

theorem usedStore_external (w : TrustWorld) (tenantId : Option String) {lists : List TrustListRef}
    (h : lists.any (·.trustListId.isSome) = false) (hne : lists ≠ []) :
    usedStore w ⟨lists, tenantId⟩ = (loadedStore w tenantId lists).map some := by
  rw [usedStore_configured w hne, getTrustStore_external w tenantId h]
  rfl

theorem usedStore_managed (w : TrustWorld) {lists : List TrustListRef}
    (h : lists.any (·.trustListId.isSome) = true) : usedStore w ⟨lists, none⟩ = none := by
  have hne : lists ≠ [] := by
    rintro rfl
    cases h
  rw [usedStore_configured w hne]
  unfold getTrustStore
  cases hresolved : lists.mapM (resolveManaged w none) with
  | error message => rfl
  | ok resolved => exact absurd hresolved (resolveManaged_managed w h)

/-- **The condition says that the used stores are the same.** -/
theorem sameStore_iff (w : TrustWorld) (tenantId : String) (lists : List TrustListRef) :
    SameStore w tenantId lists ↔
      usedStore w ⟨lists, some tenantId⟩ = usedStore w ⟨lists, none⟩ := by
  unfold SameStore
  split
  · rename_i hmanaged
    rw [usedStore_managed w hmanaged]
    have hne : lists ≠ [] := by
      rintro rfl
      cases hmanaged
    constructor
    · intro h
      rw [usedStore_configured w hne, Option.map_eq_none_iff]
      refine Option.eq_none_iff_forall_ne_some.mpr fun store hstore => h store ?_
      refine ok_of_usedStore ?_
      rw [usedStore_configured w hne, hstore]
      rfl
    · intro h store hstore
      unfold usedStore at h
      rw [hstore] at h
      cases h
  · rename_i hexternal
    have hexternal : lists.any (·.trustListId.isSome) = false := by simpa using hexternal
    by_cases hne : lists = []
    · rw [hne]
      exact ⟨fun _ => rfl, fun _ => .inl rfl⟩
    · rw [usedStore_external w _ hexternal hne, usedStore_external w _ hexternal hne,
        Option.map_inj_right fun _ _ => Option.some.inj]
      exact or_iff_right hne

/-! ## mdoc verification -/

/-- Options that judge an issuer alike. -/
structure SameJudgement (w : TrustWorld) (options options' : VerifierOptions) : Prop where
  revocation : options.revocation = options'.revocation
  requireX5c : options.requireX5c = options'.requireX5c
  federation : options.federationTrustSource = options'.federationTrustSource
  store : usedStore w options.trustListSource = usedStore w options'.trustListSource

variable {w : FormatWorld} {options options' : VerifierOptions}

theorem trustedCertificates_of_used (v : TrustWorld) (source : TrustListSource) (issuance : Bool) :
    trustedCertificates v source issuance = match usedStore v source with
      | some (some store) =>
        (store.entities.flatten.filter fun s => s.issuance == issuance).map (·.certValue)
      | _ => [] := by
  unfold trustedCertificates usedStore
  cases getTrustStoreIfConfigured v source with
  | error message => rfl
  | ok store => cases store <;> rfl

theorem validateChain_congr (h : SameJudgement w.toTrustWorld options options')
    (x5c : List String) :
    validateChain w.toTrustWorld x5c options = validateChain w.toTrustWorld x5c options' := by
  have hstore := h.store
  unfold usedStore at hstore
  unfold validateChain
  rw [h.requireX5c, h.federation]
  cases hleft : getTrustStoreIfConfigured w.toTrustWorld options.trustListSource <;>
    cases hright : getTrustStoreIfConfigured w.toTrustWorld options'.trustListSource <;>
    rw [hleft, hright] at hstore <;> cases hstore
  all_goals rfl

theorem buildAnchors_congr (h : SameJudgement w.toTrustWorld options options')
    (x5chain : List String) (attachStatus : Bool) :
    buildAnchors w options x5chain attachStatus = buildAnchors w options' x5chain attachStatus := by
  unfold buildAnchors
  simp only [trustedCertificates_of_used, h.store]

structure BoundTo (w : FormatWorld) (vp : String) (transcript : MdocTranscript)
    (document : MdocDocument) : Prop where
  decoded : w.decodeDeviceResponse vp = .ok (some document)
  bound : ∀ paths, w.deviceAuth vp
    (buildDeviceRequest document.docType paths document.namespaces) transcript = .ok ()

/-- **Bound presentations of one document are judged alike** by options that judge alike, whatever
elements are asked for. -/
theorem mdocVerify_congr {vp vp' : String} {transcript transcript' : MdocTranscript}
    {document : MdocDocument} (hbound : BoundTo w vp transcript document)
    (hbound' : BoundTo w vp' transcript' document)
    (hissuer : w.issuerAndStatus vp = w.issuerAndStatus vp')
    (h : SameJudgement w.toTrustWorld options options')
    (paths paths' : Option (List (List String))) :
    mdocVerify w vp transcript options paths = mdocVerify w vp' transcript' options' paths' := by
  have hlibrary : mdocLibrary w vp document
        (buildDeviceRequest document.docType paths document.namespaces) transcript options =
      mdocLibrary w vp' document
        (buildDeviceRequest document.docType paths' document.namespaces) transcript' options' := by
    unfold mdocLibrary verifyDeviceResponse
    rw [hbound.bound, hbound'.bound, hissuer, h.revocation, buildAnchors_congr h,
      buildAnchors_congr h]
  unfold mdocVerify
  rw [hbound.decoded, hbound'.decoded]
  dsimp only
  rw [hlibrary, validateChain_congr h]

def verdict : Except CredentialFailure MdocDocument → Option CredentialFailure
  | .error failure => some failure
  | .ok _ => none

theorem verifyClaimSets_failed {vp : String} {context : CredentialContext}
    {failure : CredentialFailure} {sets : List (List DcqlClaimQuery)}
    (h : ∀ paths, mdocVerify w vp (mdocTranscript context.binding) context.options paths =
      .error failure) (last : Option MdocDocument) (mismatched : List String) :
    verifyClaimSets w vp context (some failure) last mismatched sets = .failed failure none := by
  induction sets generalizing last mismatched with
  | nil => rfl
  | cons selected sets ih =>
    unfold verifyClaimSets
    rw [h]
    exact ih last mismatched

theorem verifyClaimSets_verified {vp : String} {context : CredentialContext}
    {document : MdocDocument} {sets : List (List DcqlClaimQuery)}
    (h : ∀ paths, mdocVerify w vp (mdocTranscript context.binding) context.options paths =
      .ok document) (last : Option MdocDocument) (mismatched : List String) :
    decision (verifyClaimSets w vp context none last mismatched sets) = none := by
  induction sets generalizing last mismatched with
  | nil => rfl
  | cons selected sets ih =>
    unfold verifyClaimSets
    rw [h]
    dsimp only
    split
    · rfl
    · exact ih _ _

/-- **The decision of the mdoc format** is that of the verification. -/
theorem decision_mdocFormat {vp : String} {context : CredentialContext} {document : MdocDocument}
    (hbound : BoundTo w vp (mdocTranscript context.binding) document)
    (hsets : context.claimSets ≠ some []) :
    decision (mdocFormat w vp context) =
      verdict (mdocVerify w vp (mdocTranscript context.binding) context.options none) := by
  have hall : ∀ paths, mdocVerify w vp (mdocTranscript context.binding) context.options paths =
      mdocVerify w vp (mdocTranscript context.binding) context.options none := fun paths =>
    mdocVerify_congr hbound hbound rfl ⟨rfl, rfl, rfl, rfl⟩ paths none
  unfold mdocFormat
  cases hcontext : context.claimSets with
  | none =>
    dsimp only
    rw [hall]
    cases mdocVerify w vp (mdocTranscript context.binding) context.options none <;> rfl
  | some sets =>
    dsimp only
    cases hout : mdocVerify w vp (mdocTranscript context.binding) context.options none with
    | error failure =>
      have hfailed : ∀ paths, mdocVerify w vp (mdocTranscript context.binding) context.options
          paths = .error failure := fun paths => (hall paths).trans hout
      cases sets with
      | nil => exact absurd hcontext hsets
      | cons selected sets =>
        unfold verifyClaimSets
        rw [hfailed]
        dsimp only
        rw [verifyClaimSets_failed hfailed]
        rfl
    | ok document' => exact verifyClaimSets_verified (fun paths => (hall paths).trans hout) none []

/-! ## The options of the flows -/

section Flows

variable {w : ResponseWorld} {config : PresentationQuery} {session : SessionData}
  {request : Option SignedRequest} {credentialQuery : DcqlCredentialQuery}

theorem sameJudgement {options options' : VerifierOptions}
    (htenant : session.tenantId = config.tenantId)
    (h : presentationOptions w config session request credentialQuery = .ok options)
    (h' : iso18013Options w config session credentialQuery = .ok options') :
    ∃ lists, resolveAuthorities w config.tenantId config.tenantId
        credentialQuery.trusted_authorities = .ok lists ∧
      (SameStore w.toTrustWorld config.tenantId lists →
        SameJudgement w.toTrustWorld options options') := by
  obtain ⟨data, -, h⟩ := bind_eq_ok.mp h
  obtain ⟨lists, hlists, h⟩ := bind_eq_ok.mp h
  obtain ⟨ts12, -, h⟩ := bind_eq_ok.mp h
  obtain ⟨lists', hlists', h'⟩ := bind_eq_ok.mp h'
  cases h
  cases h'
  rw [htenant] at hlists hlists'
  obtain rfl : lists = lists' := Except.ok.inj (hlists.symm.trans hlists')
  refine ⟨lists, hlists, fun hsame => ⟨?_, rfl, rfl, ?_⟩⟩
  · -- strict is the default of both
    cases config.statusCheckMode <;>
      simp [verifierTrustOptions, revocationModeToPolicy]
  · rw [htenant]
    exact (sameStore_iff _ _ _).mp hsame

theorem selections_ne_nil {selections : List (List DcqlClaimQuery)}
    (h : selectionsOf credentialQuery = .ok selections) : selections ≠ [] := by
  unfold selectionsOf claimSelections at h
  rintro rfl
  cases hsets : credentialQuery.claim_sets.getD [] with
  | nil =>
    rw [hsets] at h
    cases h
  | cons set sets =>
    rw [hsets] at h
    dsimp only at h
    rw [List.mapM_cons] at h
    split at h
    · rename_i hok
      obtain ⟨_, -, hok⟩ := bind_eq_ok.mp hok
      obtain ⟨_, -, hok⟩ := bind_eq_ok.mp hok
      cases h
      cases hok
    · cases h

theorem openid4vp_decides {vp sessionTranscript deviceResponse : String} {document : MdocDocument}
    {out : Option CredentialFailure}
    (hboth : PresentedInBoth w session request credentialQuery vp sessionTranscript deviceResponse
      document) (h : openid4vpDecision w config session request credentialQuery vp = .ok out) :
    ∃ options, presentationOptions w config session request credentialQuery = .ok options ∧
      out = verdict (mdocVerify w.toFormatWorld vp
        (mdocTranscript (presentationBinding session request)) options none) := by
  obtain ⟨options, hoptions, h⟩ := bind_eq_ok.mp h
  obtain ⟨format, hformat, h⟩ := bind_eq_ok.mp h
  obtain ⟨selections, hselections, h⟩ := bind_eq_ok.mp h
  obtain ⟨result, hresult, h⟩ := bind_eq_ok.mp h
  obtain rfl : format = "mso_mdoc" := Except.ok.inj (hformat.symm.trans hboth.format)
  rw [verifyFormat, if_neg (by decide), if_pos rfl] at hresult
  cases hresult
  refine ⟨options, hoptions, (Except.ok.inj h).symm.trans ?_⟩
  refine decision_mdocFormat ⟨hboth.openid4vp, hboth.boundOpenid4vp⟩ ?_
  unfold presentationContext
  split
  · intro hnone
    cases hnone
  · exact fun hnil => selections_ne_nil hselections (Option.some.inj hnil)

theorem iso18013_decides {vp sessionTranscript deviceResponse : String} {document : MdocDocument}
    {out : Option CredentialFailure} (hquery : mdocQuery config = some credentialQuery)
    (hboth : PresentedInBoth w session request credentialQuery vp sessionTranscript deviceResponse
      document) (h : iso18013Decision w config session sessionTranscript deviceResponse = .ok out) :
    ∃ options, iso18013Options w config session credentialQuery = .ok options ∧
      out = verdict (mdocVerify w.toFormatWorld deviceResponse (.iso18013 sessionTranscript)
        options none) := by
  unfold iso18013Decision processResponse at h
  rw [hquery] at h
  dsimp only at h
  cases hoptions : iso18013Options w config session credentialQuery with
  | error e =>
    rw [hoptions] at h
    cases h
  | ok options =>
    rw [hoptions] at h
    refine ⟨options, rfl, (Except.ok.inj h).symm.trans ?_⟩
    exact decision_mdocFormat ⟨hboth.iso18013, hboth.boundIso18013⟩ (fun h => nomatch h)

/-- **With the same store the flows decide alike.** -/
theorem decisions_agree {vp sessionTranscript deviceResponse : String} {document : MdocDocument}
    {openid4vp iso18013 : Option CredentialFailure}
    (hstores : StoresAgree w config) (hquery : mdocQuery config = some credentialQuery)
    (htenant : session.tenantId = config.tenantId)
    (hboth : PresentedInBoth w session request credentialQuery vp sessionTranscript deviceResponse
      document)
    (h : openid4vpDecision w config session request credentialQuery vp = .ok openid4vp)
    (h' : iso18013Decision w config session sessionTranscript deviceResponse = .ok iso18013) :
    openid4vp = iso18013 := by
  have hselections : ∃ selections, selectionsOf credentialQuery = .ok selections := by
    obtain ⟨_, -, h⟩ := bind_eq_ok.mp h
    obtain ⟨_, -, h⟩ := bind_eq_ok.mp h
    obtain ⟨selections, hselections, -⟩ := bind_eq_ok.mp h
    exact ⟨selections, hselections⟩
  obtain ⟨options, hoptions, rfl⟩ := openid4vp_decides hboth h
  obtain ⟨options', hoptions', rfl⟩ := iso18013_decides hquery hboth h'
  obtain ⟨lists, hlists, hjudge⟩ := sameJudgement htenant hoptions hoptions'
  have hsame := hstores credentialQuery hquery hselections lists hlists
  rw [mdocVerify_congr ⟨hboth.openid4vp, hboth.boundOpenid4vp⟩
    ⟨hboth.iso18013, hboth.boundIso18013⟩ hboth.sameIssuer (hjudge hsame) none none]

end Flows

/-! ## The same trust lists -/

section SameLists

variable {w w' : ResponseWorld} {config : PresentationQuery}

theorem getTrustStoreIfConfigured_same (h : SameTrustLists w w') (source : TrustListSource) :
    getTrustStoreIfConfigured w'.toTrustWorld source =
      getTrustStoreIfConfigured w.toTrustWorld source := by
  have hmanaged : resolveManaged w'.toTrustWorld = resolveManaged w.toTrustWorld := by
    funext tenantId ref
    unfold resolveManaged
    rw [h.getVerifierX509Der, h.managedUrl]
  unfold getTrustStoreIfConfigured getTrustStore
  rw [hmanaged, h.cached, h.collect]

theorem resolveAuthorities_same (h : SameTrustLists w w') :
    resolveAuthorities w' = resolveAuthorities w := by
  have href : resolveTrustListRef w'.toTrustWorld = resolveTrustListRef w.toTrustWorld := by
    funext tenantId tenantHost ref
    unfold resolveTrustListRef
    rw [h.getVerifierX509Der, h.encodeURIComponent]
  funext tenantId hostTenant authorities
  unfold resolveAuthorities resolveTrustListRefsForTenant
  rw [href, h.publicUrl]

theorem storesAgree_same (h : SameTrustLists w w') (hstores : StoresAgree w config) :
    StoresAgree w' config := by
  intro credentialQuery hquery hselections lists hlists
  rw [resolveAuthorities_same h] at hlists
  have hsame := hstores credentialQuery hquery hselections lists hlists
  rw [sameStore_iff] at hsame ⊢
  unfold usedStore at hsame ⊢
  rwa [getTrustStoreIfConfigured_same h, getTrustStoreIfConfigured_same h]

end SameLists

/-! ## Stores that differ -/

def disclosing (credentialQuery : DcqlCredentialQuery) : MdocDocument where
  docType := credentialQuery.typed.doctype_value.getD ""
  namespaces := [("", (credentialQuery.claims.getD []).map fun c => (mdocClaimName c.path, .null))]
  x5chain := ["issuer"]

theorem evaluate_missing_eq_nil {disclosedValues : DcqlClaimQuery → List Json}
    {claims : List DcqlClaimQuery} (h : ∀ claim ∈ claims, disclosedValues claim ≠ []) :
    (evaluate disclosedValues claims).missing = [] := by
  induction claims with
  | nil => rfl
  | cons claim claims ih =>
    have ih := ih fun claim hclaim => h claim (List.mem_cons_of_mem _ hclaim)
    unfold evaluate
    dsimp only
    rw [if_neg (by simpa using h claim List.mem_cons_self)]
    split <;> exact ih

theorem disclosing_discloses (credentialQuery : DcqlCredentialQuery) :
    (evaluateMdocClaimSelection (disclosing credentialQuery).claims
      (credentialQuery.claims.getD [])).missing = [] := by
  refine evaluate_missing_eq_nil fun claim hclaim => ?_
  have hmem : (mdocClaimName claim.path, Json.null) ∈ (disclosing credentialQuery).claims := by
    simpa [disclosing, MdocDocument.claims] using ⟨claim, hclaim, rfl⟩
  have hsome : ((disclosing credentialQuery).claims.find? fun m =>
      m.1 == mdocClaimName claim.path).isSome := by
    rw [List.find?_isSome]
    exact ⟨_, hmem, beq_self_eq_true _⟩
  obtain ⟨member, hmember⟩ := Option.isSome_iff_exists.mp hsome
  simp [Json.field?, hmember]

def trustingOnly (w : ResponseWorld) (trusted : TrustStore)
    (document : MdocDocument) : ResponseWorld :=
  { w with
    decodeDeviceResponse := fun _ => .ok (some document)
    deviceAuth := fun _ _ _ => .ok ()
    issuerAndStatus := fun _ _ _ => .ok ()
    parsesX5c := fun _ => true
    matchIssuer := fun _ store => if store = trusted then .ok () else .error "issuer_not_trusted" }

section Distinguished

variable {w : ResponseWorld} {document : MdocDocument} {trusted : TrustStore}

theorem sameTrustLists_trustingOnly : SameTrustLists w (trustingOnly w trusted document) :=
  ⟨rfl, rfl, rfl, rfl, rfl, rfl⟩

theorem presentedInBoth_trustingOnly {session : SessionData} {credentialQuery : DcqlCredentialQuery}
    (hformat : credentialQuery.format = "mso_mdoc") :
    PresentedInBoth (trustingOnly w trusted (disclosing credentialQuery)) session
      none credentialQuery
      "vp" "transcript" "response" (disclosing credentialQuery) where
  format := congrArg Except.ok hformat
  openid4vp := rfl
  iso18013 := rfl
  sameIssuer := rfl
  boundOpenid4vp := fun _ => rfl
  boundIso18013 := fun _ => rfl
  discloses := disclosing_discloses credentialQuery

/-- **Such a verifier accepts a document** if and only if it loads the store. -/
theorem verdict_trustingOnly {vp : String} {transcript : MdocTranscript} {options : VerifierOptions}
    (hchain : document.x5chain ≠ []) (hfederation : options.federationTrustSource = none)
    (hstore : usedStore w.toTrustWorld options.trustListSource ≠ some none) :
    verdict (mdocVerify (trustingOnly w trusted document).toFormatWorld vp
      transcript options none) =
        none ↔ usedStore w.toTrustWorld options.trustListSource = some (some trusted) := by
  have hlibrary : ∀ request, mdocLibrary (trustingOnly w trusted document).toFormatWorld vp document
      request transcript options = .ok () := fun _ => rfl
  have hload : getTrustStoreIfConfigured (trustingOnly w trusted document).toTrustWorld =
      getTrustStoreIfConfigured w.toTrustWorld := rfl
  unfold usedStore at hstore ⊢
  unfold mdocVerify
  have hdecoded :
      (trustingOnly w trusted document).decodeDeviceResponse vp = .ok (some document) := rfl
  rw [hdecoded]
  dsimp only
  rw [hlibrary]
  dsimp only
  unfold validateChain
  have hparses : ¬(!(trustingOnly w trusted document).parsesX5c document.x5chain) = true := by
    simp [trustingOnly]
  rw [if_neg (by simpa using hchain), if_neg hparses, hfederation]
  dsimp only
  rw [hload]
  cases hleft : getTrustStoreIfConfigured w.toTrustWorld options.trustListSource with
  | error message => simp [verdict, Except.toOption]
  | ok store =>
    cases store with
    | none =>
      rw [hleft] at hstore
      exact absurd rfl hstore
    | some store =>
      by_cases heq : store = trusted
      · simp [trustingOnly, verdict, Except.toOption, heq]
      · simp [trustingOnly, verdict, Except.toOption, heq]

end Distinguished

theorem usedStore_ne_none (v : TrustWorld) {source : TrustListSource} (hne : source.lotes ≠ []) :
    usedStore v source ≠ some none := by
  rw [usedStore_configured v hne]
  cases (getTrustStore v source).toOption.filter (!·.stale) <;> simp

section Reached

variable {v : ResponseWorld} {config : PresentationQuery} {session : SessionData}
  {credentialQuery : DcqlCredentialQuery} {lists : List TrustListRef} {options : VerifierOptions}

theorem presentationOptions_unrequested
    (hlists : resolveAuthorities v session.tenantId config.tenantId
      credentialQuery.trusted_authorities = .ok lists) (hne : lists ≠ []) :
    ∃ options, presentationOptions v config session none credentialQuery = .ok options ∧
      options.trustListSource = ⟨lists, some session.tenantId⟩ ∧
      options.federationTrustSource = none := by
  refine ⟨_, bind_eq_ok.mpr ⟨none, rfl, bind_eq_ok.mpr ⟨lists, hlists, rfl⟩⟩, rfl, ?_⟩
  simp [verifierTrustOptions, hne]

variable (config session) in
theorem iso18013Options_resolved
    (hlists : resolveAuthorities v session.tenantId session.tenantId
      credentialQuery.trusted_authorities = .ok lists) (hne : lists ≠ []) :
    ∃ options, iso18013Options v config session credentialQuery = .ok options ∧
      options.trustListSource = ⟨lists, none⟩ ∧ options.federationTrustSource = none := by
  refine ⟨_, bind_eq_ok.mpr ⟨lists, hlists, rfl⟩, rfl, ?_⟩
  simp [verifierTrustOptions, hne]

theorem openid4vp_reached {selections : List (List DcqlClaimQuery)}
    (hoptions : presentationOptions v config session none credentialQuery = .ok options)
    (hformat : credentialQuery.format = "mso_mdoc")
    (hselections : selectionsOf credentialQuery = .ok selections) (vp : String) :
    ∃ out, openid4vpDecision v config session none credentialQuery vp = .ok out := by
  have hsent : presentationFormat none credentialQuery = .ok "mso_mdoc" :=
    congrArg Except.ok hformat
  unfold openid4vpDecision
  rw [hoptions, hsent, hselections]
  exact ⟨_, rfl⟩

theorem iso18013_reached (hoptions : iso18013Options v config session credentialQuery = .ok options)
    (hquery : mdocQuery config = some credentialQuery) (sessionTranscript deviceResponse : String) :
    ∃ out, iso18013Decision v config session sessionTranscript deviceResponse = .ok out := by
  unfold iso18013Decision processResponse
  rw [hquery]
  dsimp only
  rw [hoptions]
  exact ⟨_, rfl⟩

end Reached

theorem used_iff_used {w : ResponseWorld} {config : PresentationQuery}
    {credentialQuery : DcqlCredentialQuery} {selections : List (List DcqlClaimQuery)}
    {lists : List TrustListRef} (h : FlowsAgree w config)
    (hquery : mdocQuery config = some credentialQuery)
    (hselections : selectionsOf credentialQuery = .ok selections)
    (hlists : resolveAuthorities w config.tenantId config.tenantId
      credentialQuery.trusted_authorities = .ok lists) (hne : lists ≠ []) (trusted : TrustStore) :
    usedStore w.toTrustWorld ⟨lists, some config.tenantId⟩ = some (some trusted) ↔
      usedStore w.toTrustWorld ⟨lists, none⟩ = some (some trusted) := by
  have hformat : credentialQuery.format = "mso_mdoc" := by
    unfold mdocQuery at hquery
    simpa using List.find?_some hquery
  let v := trustingOnly w trusted (disclosing credentialQuery)
  let session : SessionData := { id := "", tenantId := config.tenantId }
  have hboth : PresentedInBoth v session none credentialQuery "vp" "transcript" "response"
      (disclosing credentialQuery) := presentedInBoth_trustingOnly hformat
  have hlists' : resolveAuthorities v session.tenantId config.tenantId
      credentialQuery.trusted_authorities = .ok lists := by
    rw [resolveAuthorities_same (sameTrustLists_trustingOnly (w := w))]
    exact hlists
  obtain ⟨options, hoptions, hsource, hfederation⟩ := presentationOptions_unrequested hlists' hne
  obtain ⟨options', hoptions', hsource', hfederation'⟩ := iso18013Options_resolved
    config session hlists' hne
  obtain ⟨out, hout⟩ := openid4vp_reached hoptions hformat hselections "vp"
  obtain ⟨out', hout'⟩ := iso18013_reached hoptions' hquery "transcript" "response"
  -- a verifier that trusts this store alone decides by the store that the flow uses
  have hagree := h v sameTrustLists_trustingOnly credentialQuery hquery session rfl none "vp"
    "transcript" "response" _ hboth out out' hout hout'
  obtain ⟨_, hsame, rfl⟩ := openid4vp_decides hboth hout
  obtain rfl := Except.ok.inj (hsame.symm.trans hoptions)
  obtain ⟨_, hsame', rfl⟩ := iso18013_decides hquery hboth hout'
  obtain rfl := Except.ok.inj (hsame'.symm.trans hoptions')
  have hstore : ∀ tenantId, usedStore w.toTrustWorld ⟨lists, tenantId⟩ ≠ some none :=
    fun _ => usedStore_ne_none _ hne
  have hchain : (disclosing credentialQuery).x5chain ≠ [] := List.cons_ne_nil _ _
  have hleft : verdict (mdocVerify v.toFormatWorld "vp"
      (mdocTranscript (presentationBinding session none)) _ none) = none ↔ _ :=
    verdict_trustingOnly hchain hfederation (hsource ▸ hstore _)
  have hright : verdict (mdocVerify v.toFormatWorld "response" (.iso18013 "transcript") _ none) =
      none ↔ _ :=
    verdict_trustingOnly hchain hfederation' (hsource' ▸ hstore _)
  rw [hsource] at hleft
  rw [hsource'] at hright
  rw [hagree] at hleft
  exact hleft.symm.trans hright

theorem storesAgree_of_agree {w : ResponseWorld} {config : PresentationQuery}
    (h : FlowsAgree w config) : StoresAgree w config := by
  rintro credentialQuery hquery ⟨selections, hselections⟩ lists hlists
  rw [sameStore_iff]
  by_cases hne : lists = []
  · rw [hne]
    rfl
  · have hiff := used_iff_used h hquery hselections hlists hne
    have hleft := usedStore_ne_none w.toTrustWorld
      (show (⟨lists, some config.tenantId⟩ : TrustListSource).lotes ≠ [] from hne)
    have hright := usedStore_ne_none w.toTrustWorld
      (show (⟨lists, none⟩ : TrustListSource).lotes ≠ [] from hne)
    cases hstore : usedStore w.toTrustWorld ⟨lists, some config.tenantId⟩ with
    | some store =>
      cases store with
      | none => exact absurd hstore hleft
      | some store => exact ((hiff store).mp hstore).symm
    | none =>
      cases hother : usedStore w.toTrustWorld ⟨lists, none⟩ with
      | none => rfl
      | some store =>
        cases store with
        | none => exact absurd hother hright
        | some store =>
          rw [(hiff store).mpr hother] at hstore
          cases hstore

end FlowAgreement

open FlowAgreement

/-- **The flows judge an mdoc alike** if and only if they load the same trust store. -/
theorem flows_agree_iff (w : ResponseWorld) (config : PresentationQuery) :
    FlowsAgree w config ↔ StoresAgree w config := by
  constructor
  · exact storesAgree_of_agree
  · intro hstores w' hsame credentialQuery hquery session htenant request vp sessionTranscript
      deviceResponse document hboth openid4vp iso18013 hopenid4vp hiso18013
    exact decisions_agree (storesAgree_same hsame hstores) hquery htenant hboth hopenid4vp hiso18013

namespace FlowAgreement

/-! ## A managed list -/

def licence : MdocDocument where
  docType := "org.iso.18013.5.1.mDL"
  namespaces := []
  x5chain := ["issuer"]

def managedList : ResponseWorld :=
  { ResponseWorld.empty with
    getVerifierX509Der := fun _ _ => .ok "list signer"
    collect := fun _ => .ok { entities := [[⟨true, "issuer"⟩]] }
    decodeDeviceResponse := fun _ => .ok (some licence)
    deviceAuth := fun _ _ _ => .ok () }

def licenceQuery : PresentationQuery where
  tenantId := "tenant"
  dcql_query := {
    credentials := [{
      id := "mdl"
      format := "mso_mdoc"
      typed := { doctype_value := some "org.iso.18013.5.1.mDL" }
      trusted_authorities := some [.etsi_tl [{ trustListId := some "list" }]] }] }

theorem licence_presented (session : SessionData) (credentialQuery : DcqlCredentialQuery)
    (h : mdocQuery licenceQuery = some credentialQuery) :
    PresentedInBoth managedList session none credentialQuery "vp"
      "transcript" "response" licence := by
  cases h
  exact ⟨rfl, rfl, rfl, rfl, fun _ => rfl, fun _ => rfl, rfl⟩

end FlowAgreement

/-- **OID4VP accepts the licence and ISO 18013-7 does not**: its trust list is unavailable. -/
theorem not_flows_agree : ¬FlowsAgree managedList licenceQuery := by
  intro h
  have hagree := h managedList ⟨rfl, rfl, rfl, rfl, rfl, rfl⟩ _ rfl
    { id := "session", tenantId := "tenant" } rfl none "vp" "transcript" "response" licence
    (licence_presented _ _ rfl) none (some ⟨"trust_list_unavailable", none, ""⟩) rfl rfl
  cases hagree

end Eudiplo
