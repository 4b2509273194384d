import Eudiplo.Verifier.Matching

/-!
# Does the chain validation fail closed?

`chain_fails_closed`: a chain that is reported as verified is backed by the trust lists, by the
federation, or by the absence of both, as the mode says.

A mode that is not set is hybrid, and with an enforced policy the federation alone decides then,
also when a list could not be loaded; and in hybrid mode nothing is checked when neither lists nor
anchors are configured: `not_chain_fails_closed`.
-/

namespace Eudiplo

open Results ChainValidation

/-! ## The claim -/

variable (w : ChainWorld)

/-- **The issuer is in the trust lists**: every list was loaded, now or less than the cache's
lifetime ago, and a valid path from the presented leaf ends at, or is pinned by, a certificate of a
loaded entity. -/
structure ListedIssuer (x5c : List String) (source : LoteSource) (policy : ChainValidationPolicy)
    (resolved : LoteSource) (t : Time) (lists : List VerifiedTrustList) (leaf : Certificate)
    (path : List Certificate) (listed : Certificate) : Prop where
  resolves : resolveLotes w source = .ok resolved
  recent : w.now - t < cacheTtlMs
  loaded : List.Forall₂ (fun ref list => w.loadVerified t ref = .ok list) resolved.lotes lists
  presented : (x5c.head?.bind w.parseCertificate) = some leaf
  built : ∃ pool, w.build pool leaf = .ok path
  valid : ∀ cert ∈ path, cert.notBefore ≤ w.now ∧ w.now ≤ cert.notAfter
  ofEntity : ∃ list ∈ lists, ∃ entity ∈ list.entities, ∃ s ∈ entity.services,
    matchesFilter policy.serviceTypeFilter s = true ∧ w.certFromBase64Der s.certValue = some listed
  anchored : listed.ca = true → path.getLast? = some listed
  pinnedLeaf : listed.ca = false → policy.pinnedCertMode = .leaf → path.head? = some listed
  pinnedEnd : listed.ca = false → policy.pinnedCertMode = .pathEnd → path.getLast? = some listed

/-- The trust lists vouch for the issuer. -/
def LoteVerified (x5c : List String) (source : Option LoteSource)
    (policy : ChainValidationPolicy) : Prop :=
  ∃ s resolved t lists leaf path listed, source = some s ∧
    ListedIssuer w x5c s policy resolved t lists leaf path listed

def FederationTrusted (x5c : List String) (policy : ChainValidationPolicy) : Prop :=
  isEnabled policy.federationTrustSource = true ∧
    (evaluateCertificateEntityTrust w x5c policy.federationTrustSource).trusted = true

def NamesList (source : Option LoteSource) : Prop := ∃ s, source = some s ∧ s.lotes ≠ []

/-- The signing policy of the federation is enforced. -/
def Enforces (policy : ChainValidationPolicy) : Prop :=
  policy.federationTrustSource.bind (·.enforceSigningPolicy) = some true

/-- **A verified chain is backed** as its mode says; an unset mode is hybrid. -/
structure FailsClosed (x5c : List String) (source : Option LoteSource)
    (policy : ChainValidationPolicy) : Prop where
  lists : NamesList source → (getMode policy.federationTrustSource = .loteOnly ∨
      policy.federationTrustSource.bind (·.mode) = none ∧ ¬Enforces policy) →
    LoteVerified w x5c source policy
  federation : (getMode policy.federationTrustSource = .federationOnly ∨
      getMode policy.federationTrustSource = .hybrid ∧ Enforces policy) →
    FederationTrusted w x5c policy
  hybrid : getMode policy.federationTrustSource = .hybrid → ¬Enforces policy →
    LoteVerified w x5c source policy ∨ FederationTrusted w x5c policy ∨
      ¬NamesList source ∧ isEnabled policy.federationTrustSource = false

namespace ChainValidation

variable {w} {x5c : List String} {source : Option LoteSource} {policy : ChainValidationPolicy}
  {cache : List (CachedStore w)} {result : ChainValidationResult}

/-! ## Trust stores -/

theorem CachedStore.loaded (c : CachedStore w) : ∃ lists,
    List.Forall₂ (fun ref list => w.loadVerified c.store.fetchedAt ref = .ok list) c.source.lotes
      lists ∧
      ∀ entity ∈ c.store.entities, ∃ list ∈ lists, entity ∈ list.entities := by
  obtain ⟨lists, hlists, h⟩ := bind_eq_ok.mp c.collected
  refine ⟨lists, mapM_forall₂.mp hlists, fun entity hentity => ?_⟩
  have hstore : (lists.flatMap (·.entities)).filter
      (acceptsEntity c.source.acceptedServiceTypes) = c.store.entities :=
    congrArg VerifiedTrustList.entities (Except.ok.inj h)
  rw [← hstore] at hentity
  obtain ⟨list, hlist, hin⟩ := List.mem_flatMap.mp (List.mem_filter.mp hentity).1
  exact ⟨list, hlist, hin⟩

/-- **A store that is used** was collected from the resolved source, recently. -/
theorem getTrustStore_ok {s : LoteSource} {c : CachedStore w}
    (h : getTrustStore w cache s = .ok c) :
    resolveLotes w s = .ok c.source ∧ w.now - c.store.fetchedAt < cacheTtlMs := by
  obtain ⟨hresolved, hfound | ⟨-, hnow⟩⟩ := getTrustStore_iff.mp h
  · have hrecent := List.find?_some hfound
    rw [Bool.and_eq_true, decide_eq_true_eq] at hrecent
    exact ⟨hresolved, hrecent.2⟩
  · refine ⟨hresolved, ?_⟩
    simp [hnow, cacheTtlMs]

theorem getTrustStoreIfConfigured_none (h : getTrustStoreIfConfigured w cache source = .ok none) :
    ¬NamesList source := by
  rintro ⟨s, rfl, hne⟩
  unfold getTrustStoreIfConfigured at h
  rw [Option.filter_some_pos (by simpa using hne)] at h
  dsimp only at h
  split at h
  · cases h
  · split at h <;> cases h

/-! ## Matching -/

variable {leaf last : Certificate}

theorem matchServices_some {entity : TrustedEntity} {services : List ServiceCert}
    {matched : MatchedTrustedEntity}
    (h : matchServices w policy.pinnedCertMode leaf last entity services = .ok (some matched)) :
    ∃ s ∈ services, ∃ listed, w.certFromBase64Der s.certValue = some listed ∧
      (matchCert w policy.pinnedCertMode leaf last listed).isSome = true := by
  induction services with
  | nil => cases h
  | cons s services ih =>
    obtain ⟨listed, hlisted, h⟩ := bind_eq_ok.mp h
    have hcert : w.certFromBase64Der s.certValue = some listed := by
      unfold listedCert at hlisted
      split at hlisted
      · rename_i cert hcert
        rw [hcert, Except.ok.inj hlisted]
      · cases hlisted
    cases hmatch : matchCert w policy.pinnedCertMode leaf last listed with
    | some mode => exact ⟨s, List.mem_cons_self, listed, hcert, by rw [hmatch]; rfl⟩
    | none =>
      rw [hmatch] at h
      obtain ⟨s', hs', hrest⟩ := ih h
      exact ⟨s', List.mem_cons_of_mem _ hs', hrest⟩

theorem pathMatchesTrustedEntities_some {entities : List TrustedEntity}
    {matched : MatchedTrustedEntity}
    (h : pathMatchesTrustedEntities w leaf last policy.pinnedCertMode policy.serviceTypeFilter
      entities = .ok (some matched)) :
    ∃ entity ∈ entities, ∃ s ∈ entity.services, matchesFilter policy.serviceTypeFilter s = true ∧
      ∃ listed, w.certFromBase64Der s.certValue = some listed ∧
        (matchCert w policy.pinnedCertMode leaf last listed).isSome = true := by
  induction entities with
  | nil => cases h
  | cons entity entities ih =>
    obtain ⟨found, hfound, h⟩ := bind_eq_ok.mp h
    cases found with
    | some matched' =>
      obtain ⟨s, hs, hlisted⟩ := matchServices_some hfound
      obtain ⟨hs, hfilter⟩ := List.mem_filter.mp hs
      exact ⟨entity, List.mem_cons_self, s, hs, hfilter, hlisted⟩
    | none =>
      obtain ⟨entity', hentity', hrest⟩ := ih h
      exact ⟨entity', List.mem_cons_of_mem _ hentity', hrest⟩

/-- **A certificate that matches** is the end of the path, or its leaf. -/
theorem matchCert_isSome {listed : Certificate}
    (h : (matchCert w policy.pinnedCertMode leaf last listed).isSome = true) :
    (listed.ca = true → last = listed) ∧
      (listed.ca = false → policy.pinnedCertMode = .leaf → leaf = listed) ∧
      (listed.ca = false → policy.pinnedCertMode = .pathEnd → last = listed) := by
  have hsame {a b : Certificate} (heq : (w.thumbprint a == w.thumbprint b) = true) : b = a :=
    (w.thumbprint_injective (beq_iff_eq.mp heq)).symm
  unfold matchCert at h
  cases hca : listed.ca with
  | true =>
    rw [hca, if_pos rfl] at h
    split at h
    · rename_i heq
      exact ⟨fun _ => hsame heq, fun hno => (nomatch hno), fun hno => (nomatch hno)⟩
    · cases h
  | false =>
    rw [hca, if_neg (by decide)] at h
    cases hmode : policy.pinnedCertMode with
    | leaf =>
      rw [hmode] at h
      refine ⟨fun hno => (nomatch hno), fun _ _ => ?_, fun _ hno => (nomatch hno)⟩
      split at h
      · rename_i heq
        exact hsame (Bool.and_eq_true_iff.mp heq).2
      · cases h
    | pathEnd =>
      rw [hmode] at h
      refine ⟨fun hno => (nomatch hno), fun _ hno => (nomatch hno), fun _ _ => ?_⟩
      rw [if_neg (by simp)] at h
      split at h
      · rename_i heq
        exact hsame (Bool.and_eq_true_iff.mp heq).2
      · cases h

/-! ## Verified chains -/

/-- A verified path is trusted by the federation where the policy is enforced, and matched with an
entity where it is not. -/
theorem matchedEntity_of_verified {presented : List Certificate} {store : BuiltTrustStore}
    {enforced trusted : Bool}
    (h : validatePath w presented leaf store policy enforced trusted = .ok result)
    (hverified : result.verified = true) :
    (enforced = true → trusted = true) ∧
      (enforced = false → ∃ m, result.matchedEntity = some m) := by
  have hdeferred {error : String}
      (hresult : (if enforced && trusted then { verified := true } else refused error) = result) :
      enforced = true ∧ trusted = true := by
    subst hresult
    split at hverified
    · rename_i hboth
      exact Bool.and_eq_true_iff.mp hboth
    · cases hverified
  unfold validatePath at h
  split at h
  · obtain ⟨henforced, htrusted⟩ := hdeferred (Except.ok.inj h)
    exact ⟨fun _ => htrusted, fun hno => by rw [henforced] at hno; cases hno⟩
  · split at h
    · obtain rfl := Except.ok.inj h
      cases hverified
    · obtain ⟨matched, -, h⟩ := bind_eq_ok.mp h
      cases matched with
      | none =>
        obtain ⟨henforced, htrusted⟩ := hdeferred (Except.ok.inj h)
        exact ⟨fun _ => htrusted, fun hno => by rw [henforced] at hno; cases hno⟩
      | some matched =>
        obtain rfl := Except.ok.inj h
        refine ⟨fun henforced => ?_, fun hopen => ⟨matched, ?_⟩⟩
        · cases trusted with
          | true => rfl
          | false =>
            rw [henforced] at hverified
            cases hverified
        · rw [hopen]
          rfl

/-- **A verified path**: under an enforced policy the federation trusts the issuer, else the path is
valid and matches a listed certificate. -/
theorem validatePath_verified {presented : List Certificate} {store : BuiltTrustStore}
    {enforced trusted : Bool}
    (h : validatePath w presented leaf store policy enforced trusted = .ok result)
    (hverified : result.verified = true) :
    (enforced = true → trusted = true) ∧ (enforced = false → ∃ path listed,
      (∃ pool, w.build pool leaf = .ok path) ∧
      (∀ cert ∈ path, cert.notBefore ≤ w.now ∧ w.now ≤ cert.notAfter) ∧
      (∃ entity ∈ store.entities, ∃ s ∈ entity.services,
        matchesFilter policy.serviceTypeFilter s = true ∧
          w.certFromBase64Der s.certValue = some listed) ∧
      (listed.ca = true → path.getLast? = some listed) ∧
      (listed.ca = false → policy.pinnedCertMode = .leaf → path.head? = some listed) ∧
      (listed.ca = false → policy.pinnedCertMode = .pathEnd → path.getLast? = some listed)) := by
  obtain ⟨henforced, hopen⟩ := matchedEntity_of_verified h hverified
  refine ⟨henforced, fun hno => ?_⟩
  obtain ⟨m, hm⟩ := hopen hno
  obtain ⟨path, hpath, hvalid, hmatched, -⟩ := validatePath_iff.mp ⟨result, h, hverified, hm⟩
  obtain ⟨entity, hentity, s, hs, hfilter, listed, hlisted, hmatch⟩ :=
    pathMatchesTrustedEntities_some hmatched
  obtain ⟨hca, hleaf, hend⟩ := matchCert_isSome hmatch
  have hhead : path.head? = some leaf := w.build_leaf _ _ _ hpath
  have hlast : path.getLast? = some (path.getLast?.getD leaf) := by
    cases path with
    | nil => cases hhead
    | cons cert path => rw [List.getLast?_cons]; rfl
  refine ⟨path, listed, ⟨_, hpath⟩, fun cert hcert => ?_,
    ⟨entity, hentity, s, hs, hfilter, hlisted⟩, fun h => ?_, fun h h' => ?_, fun h h' => ?_⟩
  · have hnow := hvalid cert hcert
    unfold isTimeValid at hnow
    rw [Bool.and_eq_true, decide_eq_true_eq, decide_eq_true_eq] at hnow
    exact hnow
  · rw [hlast, hca h]
  · rw [hhead, hleaf h h']
  · rw [hlast, hend h h']

theorem trusted_of_federationDecides {trusted : Bool} {error : String}
    (h : (federationDecides trusted error).verified = true) : trusted = true := by
  cases trusted with
  | true => rfl
  | false => cases h

/-- **A verified chain of a mode that uses lists.** -/
theorem validateLote_verified {presented : List Certificate} {trusted : Bool}
    (hleaf : (x5c.head?.bind w.parseCertificate) = some leaf)
    (h : validateLote w cache presented leaf source policy trusted = .ok result)
    (hverified : result.verified = true) :
    (enforceFederationPolicy policy.federationTrustSource = true → trusted = true) ∧
      (enforceFederationPolicy policy.federationTrustSource = false →
        LoteVerified w x5c source policy ∨ ¬NamesList source ∧
          (shouldUseFederation policy.federationTrustSource = true →
            isEnabled policy.federationTrustSource = true → trusted = true)) := by
  unfold validateLote at h
  dsimp only at h
  split at h
  · obtain rfl := Except.ok.inj h
    split at hverified
    · rename_i henforced
      exact ⟨fun _ => trusted_of_federationDecides hverified,
        fun hno => by rw [henforced] at hno; cases hno⟩
    · cases hverified
  · rename_i hstore
    obtain rfl := Except.ok.inj h
    refine ⟨fun henforced => ?_, fun hopen => .inr ⟨getTrustStoreIfConfigured_none hstore, ?_⟩⟩
    · rw [henforced, Bool.true_or, if_pos rfl] at hverified
      exact trusted_of_federationDecides hverified
    · intro hfederation henabled
      rw [hfederation, henabled, Bool.and_true, Bool.or_true, if_pos rfl] at hverified
      exact trusted_of_federationDecides hverified
  · rename_i c hstore
    obtain ⟨henforced, hopen⟩ := validatePath_verified h hverified
    refine ⟨henforced, fun hno => .inl ?_⟩
    obtain ⟨⟨s, rfl, -, hc⟩, -⟩ := getTrustStoreIfConfigured_iff.mp hstore
    obtain ⟨hresolved, hrecent⟩ := getTrustStore_ok hc
    obtain ⟨lists, hlists, hentities⟩ := c.loaded
    obtain ⟨path, listed, hbuilt, hvalid, ⟨entity, hentity, service, hlisted⟩, hca,
      hleafPin, hendPin⟩ :=
      hopen hno
    obtain ⟨list, hlist, hin⟩ := hentities entity hentity
    exact ⟨s, c.source, c.store.fetchedAt, lists, leaf, path, listed, rfl,
      hresolved, hrecent, hlists,
      hleaf, hbuilt, hvalid, ⟨list, hlist, entity, hin, service, hlisted⟩, hca, hleafPin, hendPin⟩

end ChainValidation

namespace ChainValidation

variable {w : ChainWorld} {x5c : List String} {source : Option LoteSource}
  {policy : ChainValidationPolicy} {cache : List (CachedStore w)} {result : ChainValidationResult}

theorem federationTrusted_of (h : (shouldUseFederation policy.federationTrustSource &&
    (evaluateCertificateEntityTrust w x5c policy.federationTrustSource).trusted) = true) :
    FederationTrusted w x5c policy := by
  rw [Bool.and_eq_true] at h
  refine ⟨?_, h.2⟩
  have htrusted := h.2
  unfold evaluateCertificateEntityTrust at htrusted
  rw [h.1, Bool.not_true, if_neg (by decide)] at htrusted
  split at htrusted
  · cases htrusted
  · rename_i federation hfederation
    obtain ⟨hsome, hne⟩ := Option.filter_eq_some_iff.mp hfederation
    unfold isEnabled
    rw [hsome]
    exact hne

theorem validateChain_verified (hrequire : policy.requireX5c = true)
    (h : ChainValidation.validateChain w cache x5c source policy = .ok result)
    (hverified : result.verified = true) : ∃ leaf chain,
      (x5c.head?.bind w.parseCertificate) = some leaf ∧
      ((shouldUseLote policy.federationTrustSource = true ∧
          validateLote w cache (leaf :: chain) leaf source policy
            (shouldUseFederation policy.federationTrustSource &&
              (evaluateCertificateEntityTrust w x5c policy.federationTrustSource).trusted) =
                .ok result) ∨
        shouldUseLote policy.federationTrustSource = false ∧ FederationTrusted w x5c policy) := by
  unfold ChainValidation.validateChain at h
  cases x5c with
  | nil =>
    rw [List.isEmpty_nil, if_pos rfl, hrequire, if_pos rfl] at h
    obtain rfl := Except.ok.inj h
    cases hverified
  | cons entry entries =>
    rw [List.isEmpty_cons, if_neg (by decide)] at h
    split at h
    · obtain rfl := Except.ok.inj h
      cases hverified
    · obtain rfl := Except.ok.inj h
      cases hverified
    · rename_i leaf chain hparsed
      rw [List.mapM_cons] at hparsed
      obtain ⟨leaf', hleaf, hparsed⟩ := Option.bind_eq_some_iff.mp hparsed
      obtain ⟨chain', -, hparsed⟩ := Option.bind_eq_some_iff.mp hparsed
      cases hparsed
      refine ⟨leaf, chain, hleaf, ?_⟩
      dsimp only at h
      split at h
      · rename_i hlote
        exact .inl ⟨hlote, h⟩
      · rename_i hlote
        refine .inr ⟨by simpa using hlote, federationTrusted_of ?_⟩
        obtain rfl := Except.ok.inj h
        exact trusted_of_federationDecides hverified

theorem enforceFederationPolicy_iff
    (hlote : shouldUseLote policy.federationTrustSource = true) :
    enforceFederationPolicy policy.federationTrustSource = true ↔
      getMode policy.federationTrustSource = .hybrid ∧ Enforces policy := by
  unfold enforceFederationPolicy Enforces
  unfold shouldUseLote at hlote
  cases hmode : getMode policy.federationTrustSource <;> simp_all

theorem getMode_of_not_lote (hlote : shouldUseLote policy.federationTrustSource = false) :
    getMode policy.federationTrustSource = .federationOnly := by
  unfold shouldUseLote at hlote
  cases hmode : getMode policy.federationTrustSource <;> simp_all

theorem getMode_of_unset (hnone : policy.federationTrustSource.bind (·.mode) = none) :
    getMode policy.federationTrustSource = .hybrid := by
  unfold getMode
  rw [hnone]
  rfl

end ChainValidation

/-- **The chain validation fails closed**, with `requireX5c` as the verifiers set it. -/
theorem chain_fails_closed (w : ChainWorld) (cache : List (CachedStore w)) (x5c : List String)
    (source : Option LoteSource) (policy : ChainValidationPolicy) (result : ChainValidationResult)
    (hrequire : policy.requireX5c = true)
    (h : ChainValidation.validateChain w cache x5c source policy = .ok result)
    (hverified : result.verified = true) : FailsClosed w x5c source policy := by
  obtain ⟨leaf, chain, hleaf, ⟨hlote, h⟩ | ⟨hlote, htrusted⟩⟩ :=
    validateChain_verified hrequire h hverified
  · obtain ⟨henforced, hopen⟩ := validateLote_verified hleaf h hverified
    have henforces := enforceFederationPolicy_iff hlote
    constructor
    · rintro hnames hmode
      have hno : enforceFederationPolicy policy.federationTrustSource = false := by
        rw [← Bool.not_eq_true, henforces]
        rintro ⟨hhybrid, hpolicy⟩
        rcases hmode with hmode | ⟨-, hmode⟩
        · rw [hmode] at hhybrid
          cases hhybrid
        · exact hmode hpolicy
      exact (hopen hno).resolve_right fun hnone => hnone.1 hnames
    · rintro (hmode | hboth)
      · unfold shouldUseLote at hlote
        rw [hmode] at hlote
        cases hlote
      · exact federationTrusted_of (henforced (henforces.mpr hboth))
    · intro hhybrid hpolicy
      have hno : enforceFederationPolicy policy.federationTrustSource = false := by
        rw [← Bool.not_eq_true, henforces]
        exact fun hboth => hpolicy hboth.2
      rcases hopen hno with hlists | ⟨hnone, hfederation⟩
      · exact .inl hlists
      · refine .inr ?_
        cases henabled : isEnabled policy.federationTrustSource with
        | true =>
          refine .inl (federationTrusted_of (hfederation ?_ henabled))
          unfold shouldUseFederation
          rw [hhybrid]
          rfl
        | false => exact .inr ⟨hnone, rfl⟩
  · -- without lists the federation has trusted the issuer
    have hmode := getMode_of_not_lote hlote
    refine ⟨fun _ hlists => ?_, fun _ => htrusted, fun hhybrid => ?_⟩
    · rcases hlists with hlists | ⟨hlists, -⟩
      · rw [hmode] at hlists
        cases hlists
      · rw [getMode_of_unset hlists] at hmode
        cases hmode
    · rw [hmode] at hhybrid
      cases hhybrid

namespace ChainValidation

/-! ## Chains that nothing or the federation alone vouches for -/

def issuerCert : Certificate where
  der := "issuer"
  notBefore := 0
  notAfter := 100

/-- One list with the issuer's certificate, which can be loaded or not, and a federation that
trusts every issuer. -/
def trusting (loads : Bool) : ChainWorld where
  now := 50
  getVerifierX509Der := fun _ _ => .ok "der"
  managedUrl := fun _ trustListId => trustListId
  loadVerified := fun _ _ =>
    if loads then
      .ok {
        entities :=
          [{ services := [⟨"http://uri.etsi.org/19602/SvcType/PID/Issuance", "issuer"⟩] }] }
    else .error "fetch failed"
  parseDate := fun _ => none
  extractEntityId := some
  evaluateEntityTrust := fun _ _ => ⟨true, "trusted"⟩
  parseCertificate := fun der => if der = "issuer" then some issuerCert else none
  certFromBase64Der := fun der => if der = "issuer" then some issuerCert else none
  build := fun _ leaf => .ok [leaf]
  thumbprint := fun cert =>
    cert.notBefore :: cert.notAfter :: cert.ca.toNat :: cert.der.toList.map Char.toNat
  build_leaf := by
    intro pool leaf path h
    obtain rfl := Except.ok.inj h
    rfl
  thumbprint_injective := by
    rintro ⟨der, notBefore, notAfter, ca⟩ ⟨der', notBefore', notAfter', ca'⟩ h
    simp only [List.cons.injEq] at h
    obtain ⟨hbefore, hafter, hca, hder⟩ := h
    have hder : der = der' := String.toList_injective
      (List.map_injective_iff.mpr (fun _ _ => Char.toNat_inj.mp) hder)
    have hca : ca = ca' := by cases ca <;> cases ca' <;> first | rfl | cases hca
    rw [hbefore, hafter, hca, hder]

def oneList : LoteSource where
  lotes := [{ url := some "https://lists.example" }]

def policyWith (federation : Option FederationSource) : ChainValidationPolicy where
  requireX5c := true
  federationTrustSource := federation

end ChainValidation

/-- A listed issuer, and no federation. -/
theorem chain_fails_closed_listed :
    FailsClosed (trusting true) ["issuer"] (some oneList) (policyWith none) :=
  chain_fails_closed (trusting true) [] ["issuer"] (some oneList) (policyWith none) _ rfl
    (by rfl) rfl

/-- **Nothing is checked** in hybrid mode without lists and anchors; and with an enforced policy **a
list that cannot be loaded is passed over** in the mode that is not set. -/
theorem not_chain_fails_closed :
    (∃ result, ChainValidation.validateChain (trusting true) [] ["issuer"] none
        (policyWith (some { mode := some .hybrid, trustAnchors := [] })) = .ok result ∧
      result.verified = true ∧
      ¬LoteVerified (trusting true) ["issuer"] none
        (policyWith (some { mode := some .hybrid, trustAnchors := [] })) ∧
      ¬FederationTrusted (trusting true) ["issuer"]
        (policyWith (some { mode := some .hybrid, trustAnchors := [] }))) ∧
    ∃ result, ChainValidation.validateChain (trusting false) [] ["issuer"] (some oneList)
        (policyWith (some { trustAnchors := ["anchor"], enforceSigningPolicy := some true })) =
          .ok result ∧
      result.verified = true ∧
      ¬LoteVerified (trusting false) ["issuer"] (some oneList)
        (policyWith (some { trustAnchors := ["anchor"], enforceSigningPolicy := some true })) := by
  refine ⟨⟨_, rfl, rfl, ?_, ?_⟩, _, rfl, rfl, ?_⟩
  · rintro ⟨s, _, _, _, _, _, _, hs, -⟩
    cases hs
  · rintro ⟨henabled, -⟩
    cases henabled
  · rintro ⟨s, resolved, t, lists, _, _, _, hs, h⟩
    cases hs
    obtain rfl := Except.ok.inj h.resolves
    obtain ⟨list, _, hlist, -⟩ := List.forall₂_cons_left_iff.mp h.loaded
    cases hlist

end Eudiplo
