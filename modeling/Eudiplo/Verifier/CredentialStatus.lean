import Eudiplo.Verifier.CredentialSignature
import Eudiplo.Properties.UnparsedEntries

/-!
# The signer of a status list

`SdjwtvcverifierService.verifyStatusList`, which verifies the token of a status list under the key
of its header, and `CredentialChainValidationService.verifyStatusListSignature`, which compares the
entity of that key with the entity of the credential's issuer.
-/

namespace Eudiplo

open ChainValidation CredentialSignature

namespace CredentialStatus

/-! ## Data -/

/-- **What the verification of a status list token asks.** -/
structure TokenWorld extends ChainWorld, HeaderKeys

/-- `VerifierOptions`, as far as the trust in certificates depends on them. -/
structure TrustOptions where
  trustListSource : Option LoteSource := none
  requireX5c : Option Bool := none
  pinnedCertMode : Option PinnedCertMode := none
  federationTrustSource : Option FederationSource := none
  deriving DecidableEq

def issuerPolicy (options : TrustOptions) : ChainValidationPolicy where
  requireX5c := options.requireX5c.getD false
  pinnedCertMode := options.pinnedCertMode.getD .leaf
  serviceTypeFilter := "/Issuance"
  federationTrustSource := options.federationTrustSource

def statusPolicy (options : TrustOptions) : ChainValidationPolicy where
  pinnedCertMode := options.pinnedCertMode.getD .leaf
  serviceTypeFilter := "/Revocation"
  federationTrustSource := options.federationTrustSource

variable (w : TokenWorld)

/-! ## Functions -/

def verifyStatusListSignature (cache : List (CachedStore w.toChainWorld))
    (x5c : Option (List String)) (matchedEntity : Option MatchedTrustedEntity)
    (options : TrustOptions) : Except String Bool :=
  match matchedEntity with
  | none => .ok true
  | some m =>
    if m.revocationCert.isNone then .ok true
    else if (x5c.getD []).isEmpty then .ok false
    else do
      let result ← ChainValidation.validateChain w.toChainWorld cache (x5c.getD [])
        options.trustListSource (statusPolicy options)
      return result.verified &&
        result.matchedEntity.all fun status => status.entity.entityId == m.entity.entityId

/-- The steps of `verifyStatusList`, which may throw. -/
def statusListSteps (cache : List (CachedStore w.toChainWorld)) (data signature : String)
    (options : TrustOptions) (matchedEntity : Option MatchedTrustedEntity) :
    Except String Bool := do
  let header ← w.parseHeader data
  let publicKey ← resolvePublicKey w.toHeaderKeys header
  let verifier ← w.getVerifier publicKey
  match verifier data signature with
  | .error _ => return false
  -- `.then(() => true)`, whatever the verifier resolves to
  | .ok _ => verifyStatusListSignature w cache header.x5c matchedEntity options

def verifyStatusList (cache : List (CachedStore w.toChainWorld)) (data signature : String)
    (options : TrustOptions) (matchedEntity : Option MatchedTrustedEntity) : Bool :=
  match statusListSteps w cache data signature options matchedEntity with
  | .ok verified => verified
  | .error _ => false

/-! ## Accepted tokens -/

/-- **The steps of an accepted token**: its header and its key, the answer of the verifier, and what
was asked of its chain. -/
structure AcceptedToken (cache : List (CachedStore w.toChainWorld)) (data signature : String)
    (options : TrustOptions) (matchedEntity : Option MatchedTrustedEntity) (x5c : List String)
    (answer : Bool) : Prop where
  verifier : ∃ publicKey verifier, w.parseHeader data = .ok ⟨some x5c⟩ ∧
    resolvePublicKey w.toHeaderKeys ⟨some x5c⟩ = .ok publicKey ∧
    w.getVerifier publicKey = .ok verifier ∧ verifier data signature = .ok answer
  chain : ∀ m, matchedEntity = some m → m.revocationCert.isSome = true → ∃ result,
    ChainValidation.validateChain w.toChainWorld cache x5c options.trustListSource
      (statusPolicy options) = .ok result ∧ result.verified = true ∧
    ∀ m', result.matchedEntity = some m' → m'.entity.entityId = m.entity.entityId

variable {w} {cache : List (CachedStore w.toChainWorld)} {data signature : String}
  {options : TrustOptions} {matchedEntity : Option MatchedTrustedEntity}

open Results in
theorem acceptedToken_of
    (h : verifyStatusList w cache data signature options matchedEntity = true) : ∃ x5c answer,
      AcceptedToken w cache data signature options matchedEntity x5c answer := by
  unfold verifyStatusList at h
  split at h
  · rename_i verified hsteps
    subst h
    obtain ⟨header, hheader, hsteps⟩ := bind_eq_ok.mp hsteps
    obtain ⟨publicKey, hkey, hsteps⟩ := bind_eq_ok.mp hsteps
    obtain ⟨verifier, hverifier, hsteps⟩ := bind_eq_ok.mp hsteps
    split at hsteps
    · cases hsteps
    · rename_i answer hanswer
      cases hx5c : header.x5c with
      | none =>
        unfold resolvePublicKey at hkey
        rw [hx5c] at hkey
        cases hkey
      | some x5c =>
        have heq : header = ⟨some x5c⟩ := by rw [← hx5c]
        subst heq
        refine ⟨x5c, answer, ⟨publicKey, verifier, hheader, hkey, hverifier, hanswer⟩, ?_⟩
        rintro m rfl hcert
        unfold verifyStatusListSignature at hsteps
        dsimp only at hsteps
        rw [Option.isNone_eq_false_iff.mpr hcert, if_neg (by decide)] at hsteps
        split at hsteps
        · cases hsteps
        · obtain ⟨result, hresult, hsteps⟩ := bind_eq_ok.mp hsteps
          have hboth := Bool.and_eq_true_iff.mp (Except.ok.inj hsteps)
          refine ⟨result, hresult, hboth.1, fun m' hm' => ?_⟩
          have hid := hboth.2
          rw [hm'] at hid
          exact beq_iff_eq.mp hid
  · cases h

end CredentialStatus

end Eudiplo

/-!
# Who signs the status list of a credential?

A status list token is accepted when its verifier does not throw, and is compared with the issuer's
entity only when that entity lists a service of type `EAA/Revocation`: `signed_by_own_entity` says
which accepted tokens are signed by the revocation service of the issuer's own entity.
-/

namespace Eudiplo

open Results ChainValidation CredentialSignature CredentialStatus

namespace CredentialStatus

/-! ## The claim -/

def revocationTypes : List String := [
  "http://uri.etsi.org/19602/SvcType/PID/Revocation",
  "http://uri.etsi.org/19602/SvcType/EAA/Revocation",
  "http://uri.etsi.org/19602/SvcType/PubEAA/Revocation"]

def IsRevocationService (s : ServiceCert) : Prop := s.serviceTypeIdentifier ∈ revocationTypes

instance (s : ServiceCert) : Decidable (IsRevocationService s) :=
  inferInstanceAs (Decidable (_ ∈ revocationTypes))

def ListsRevocation (entity : TrustedEntity) : Prop :=
  ∃ s ∈ entity.services, IsRevocationService s

/-- The same entity: by its id, and without one by what is listed of it. -/
def SameEntity (entity entity' : TrustedEntity) : Prop :=
  entity'.entityId = entity.entityId ∧ (entity.entityId = none → entity' = entity)

variable (w : TokenWorld)

/-- **The issuer resolved** to this entity, or to none. -/
def IssuerResolved (cache : List (CachedStore w.toChainWorld)) (x5c : List String)
    (options : TrustOptions) (matchedEntity : Option MatchedTrustedEntity) : Prop :=
  ∃ result, ChainValidation.validateChain w.toChainWorld cache x5c options.trustListSource
      (issuerPolicy options) = .ok result ∧ result.verified = true ∧
    result.matchedEntity = matchedEntity

/-- **The signature verifies** under the key of the header's certificate. -/
def SignatureVerifies (data signature : String) : Prop :=
  ∃ header publicKey verifier, w.parseHeader data = .ok header ∧
    resolvePublicKey w.toHeaderKeys header = .ok publicKey ∧
    w.getVerifier publicKey = .ok verifier ∧ verifier data signature = .ok true

/-- **The chain of a token resolves to a revocation service** of the same entity. -/
def ResolvesToOwn (cache : List (CachedStore w.toChainWorld)) (x5c : List String)
    (options : TrustOptions) (entity : TrustedEntity) : Prop :=
  ∃ m s, VerifiedThrough w.toChainWorld cache x5c options.trustListSource (statusPolicy options) m ∧
    CheckedBy w.toChainWorld cache x5c options.trustListSource (statusPolicy options) m s ∧
    IsRevocationService s ∧ SameEntity entity m.entity

/-- **Signed by the issuer's entity**: what is asked of an accepted token. -/
structure SignedByOwnEntity (cache : List (CachedStore w.toChainWorld)) (data signature : String)
    (options : TrustOptions) (matchedEntity : Option MatchedTrustedEntity) : Prop where
  signature : SignatureVerifies w data signature
  entity : ∀ m, matchedEntity = some m → ListsRevocation m.entity → ∃ x5c,
    w.parseHeader data = .ok ⟨some x5c⟩ ∧ ResolvesToOwn w cache x5c options m.entity

/-! ## When it holds -/

/-- **The lists match the chain** with this service: the mode uses them, they are not stale, and the
path stops at the service. -/
def ListsMatch (cache : List (CachedStore w.toChainWorld)) (x5c : List String)
    (source : Option LoteSource) (policy : ChainValidationPolicy) (m : MatchedTrustedEntity)
    (s : ServiceCert) : Prop :=
  ∃ cached leaf path, shouldUseLote policy.federationTrustSource = true ∧ NamesList source ∧
    ¬IsStale w.toChainWorld cached.store.nextUpdate ∧
    ChecksPath w.toChainWorld cache x5c source cached leaf path ∧
    MatchedService w.toChainWorld (endsOf policy leaf path) policy.serviceTypeFilter
      cached.store.entities m s

/-- **No check is passed over**: the verifier does not resolve to `false`; an entity that lists a
revocation service lists one of type `EAA/Revocation`, or the token is its own all the same; and the
lists match the token with a revocation service of an accepted family, of no other entity without an
id. -/
structure ChecksApply (cache : List (CachedStore w.toChainWorld)) (data signature : String)
    (options : TrustOptions) (matchedEntity : Option MatchedTrustedEntity) : Prop where
  answer : ∀ header publicKey verifier, w.parseHeader data = .ok header →
    resolvePublicKey w.toHeaderKeys header = .ok publicKey →
    w.getVerifier publicKey = .ok verifier → verifier data signature ≠ .ok false
  unlisted : ∀ m x5c, matchedEntity = some m → ListsRevocation m.entity →
    w.parseHeader data = .ok ⟨some x5c⟩ → getRevocationCert m.entity = none →
    ResolvesToOwn w cache x5c options m.entity
  listed : ∀ m x5c, matchedEntity = some m → w.parseHeader data = .ok ⟨some x5c⟩ →
    getRevocationCert m.entity ≠ none →
    ∃ m' s, ListsMatch w cache x5c options.trustListSource (statusPolicy options) m' s ∧
      IsRevocationService s ∧ (m.entity.entityId = none → m'.entity = m.entity)

variable {w} {cache : List (CachedStore w.toChainWorld)} {x5c : List String}
  {source : Option LoteSource} {policy : ChainValidationPolicy} {m : MatchedTrustedEntity}
  {s : ServiceCert} {options : TrustOptions} {data signature : String}
  {matchedEntity : Option MatchedTrustedEntity} {result : ChainValidationResult}

/-- **A verified chain that the lists match** is verified through their entity. -/
theorem ListsMatch.verifiedThrough (h : ListsMatch w cache x5c source policy m s)
    (hresult : ChainValidation.validateChain w.toChainWorld cache x5c source policy = .ok result)
    (hverified : result.verified = true) :
    result.matchedEntity = some m := by
  obtain ⟨cached, leaf, path, hlote, ⟨s', rfl, hne⟩, hfresh, hpath, hs⟩ := h
  obtain ⟨⟨s'', hs'', hstore⟩, chain, hpresented, hbuilt⟩ := hpath
  obtain rfl := Option.some.inj hs''
  have hconfigured := getTrustStoreIfConfigured_iff.mpr ⟨⟨s', rfl, hne, hstore⟩, hfresh⟩
  have hmatched := (pathMatchesTrustedEntities_iff (p := endsOf policy leaf path)).mpr ⟨s, hs⟩
  unfold ChainValidation.validateChain at hresult
  have hempty : x5c.isEmpty = false := by
    cases x5c with
    | nil => cases hpresented
    | cons _ _ => rfl
  rw [hempty, if_neg (by decide), hpresented] at hresult
  dsimp only at hresult
  rw [hlote, if_pos rfl] at hresult
  unfold validateLote at hresult
  dsimp only at hresult
  rw [hconfigured] at hresult
  dsimp only at hresult
  unfold validatePath at hresult
  rw [hbuilt] at hresult
  dsimp only at hresult
  split at hresult
  · obtain rfl := Except.ok.inj hresult
    cases hverified
  · obtain ⟨matched, hmatched', hresult⟩ := bind_eq_ok.mp hresult
    obtain rfl := Except.ok.inj (hmatched'.symm.trans hmatched)
    obtain rfl := Except.ok.inj hresult
    split at hverified
    · cases hverified
    · rename_i hfederation
      rw [if_neg hfederation]

theorem listsMatch_of_verified
    (h : VerifiedThrough w.toChainWorld cache x5c source policy m) :
    ∃ s, ListsMatch w cache x5c source policy m s := by
  obtain ⟨leaf, chain, cached, path, hmatched, hfresh⟩ := verifiedThrough_iff.mp h
  obtain ⟨s, hs⟩ := hmatched.matchedService
  obtain ⟨src, hsrc, hne, -⟩ := hmatched.store
  exact ⟨s, cached, leaf, path, hmatched.usesLists, ⟨src, hsrc, hne⟩, hfresh, hmatched.checksPath,
    hs⟩

theorem ListsMatch.checkedBy (h : ListsMatch w cache x5c source policy m s) :
    CheckedBy w.toChainWorld cache x5c source policy m s := by
  obtain ⟨cached, leaf, path, -, -, -, hpath, hs⟩ := h
  exact ⟨cached, leaf, path, hpath, hs⟩

theorem IssuerResolved.revocationCert {cache' : List (CachedStore w.toChainWorld)}
    (h : IssuerResolved w cache' x5c options (some m)) :
    m.revocationCert.isSome = true ↔ getRevocationCert m.entity ≠ none := by
  obtain ⟨result, hresult, hverified, hm⟩ := h
  obtain ⟨s, cached, leaf, path, -, hs⟩ := checkedBy_of_verified ⟨result, hresult, hverified, hm⟩
  have hrevocation := hs.revocation
  unfold revocationCertOf at hrevocation
  unfold getRevocationCert
  split at hrevocation
  · rename_i svc hsvc
    rw [hsvc]
    cases hlisted : listedCert w.toChainWorld svc.certValue with
    | error message => rw [hlisted] at hrevocation; cases hrevocation
    | ok cert =>
      rw [hlisted] at hrevocation
      rw [← Except.ok.inj hrevocation]
      exact ⟨nofun, fun _ => rfl⟩
  · rename_i hnone
    rw [hnone, ← Except.ok.inj hrevocation]
    exact ⟨nofun, fun h => absurd rfl h⟩

end CredentialStatus

/-- **An accepted token is signed by the issuer's entity**, exactly when no check is passed over. -/
theorem signed_by_own_entity (w : TokenWorld) (cache cache' : List (CachedStore w.toChainWorld))
    (data signature : String) (issuerChain : List String) (options : TrustOptions)
    (matchedEntity : Option MatchedTrustedEntity)
    (hissuer : IssuerResolved w cache' issuerChain options matchedEntity)
    (haccepted : verifyStatusList w cache data signature options matchedEntity = true) :
    SignedByOwnEntity w cache data signature options matchedEntity ↔
      ChecksApply w cache data signature options matchedEntity := by
  obtain ⟨x5c, answer, hverifier, hchain⟩ := acceptedToken_of haccepted
  obtain ⟨publicKey, verifier, hheader, hkey, hgetVerifier, hanswer⟩ := hverifier
  constructor
  · rintro ⟨⟨header, key, v, hheader', hkey', hv, htrue⟩, hown⟩
    obtain rfl := Except.ok.inj (hheader'.symm.trans hheader)
    obtain rfl := Except.ok.inj (hkey'.symm.trans hkey)
    obtain rfl := Except.ok.inj (hv.symm.trans hgetVerifier)
    refine ⟨fun header' key' v' h h' h'' hfalse => ?_, fun m x5c' hm hlists hx5c' hnone => ?_,
      fun m x5c' hm hx5c' hsome => ?_⟩
    · obtain rfl := Except.ok.inj (h.symm.trans hheader)
      obtain rfl := Except.ok.inj (h'.symm.trans hkey)
      obtain rfl := Except.ok.inj (h''.symm.trans hgetVerifier)
      cases htrue.symm.trans hfalse
    · obtain ⟨x5c'', hx5c'', hresolves⟩ := hown m hm hlists
      cases Except.ok.inj (hx5c'.symm.trans hx5c'')
      exact hresolves
    · obtain ⟨svc, hsvc⟩ := Option.ne_none_iff_exists'.mp hsome
      have hlists : ListsRevocation m.entity := by
        refine ⟨svc, List.mem_of_find?_eq_some hsvc, ?_⟩
        have htype := List.find?_some hsvc
        rw [beq_iff_eq] at htype
        unfold IsRevocationService
        rw [htype]
        decide
      obtain ⟨x5c'', hx5c'', m', s, hverified, hchecked, hs, hsame⟩ := hown m hm hlists
      cases Except.ok.inj (hx5c'.symm.trans hx5c'')
      obtain ⟨s', hs'⟩ := listsMatch_of_verified hverified
      obtain rfl := hs'.checkedBy.unique hchecked
      exact ⟨m', s', hs', hs, hsame.2⟩
  · rintro ⟨hfalse, hunlisted, hlisted⟩
    refine ⟨⟨_, publicKey, verifier, hheader, hkey, hgetVerifier, ?_⟩, fun m hm hlists => ?_⟩
    · cases answer with
      | true => exact hanswer
      | false => exact absurd hanswer (hfalse _ publicKey verifier hheader hkey hgetVerifier)
    · refine ⟨x5c, hheader, ?_⟩
      subst hm
      by_cases hcert : getRevocationCert m.entity = none
      · exact hunlisted m x5c rfl hlists hheader hcert
      · obtain ⟨m', s, hmatch, hs, hentity⟩ := hlisted m x5c rfl hheader hcert
        obtain ⟨result, hresult, hverified, hid⟩ :=
          hchain m rfl (hissuer.revocationCert.mpr hcert)
        have hm' := hmatch.verifiedThrough hresult hverified
        exact ⟨m', s, ⟨result, hresult, hverified, hm'⟩, hmatch.checkedBy, hs, hid m' hm', hentity⟩

namespace CredentialStatus

/-! ## Tokens of others -/

def signerCert (der : String) : Certificate where
  der := der
  notBefore := 0
  notAfter := 100

/-- Lists with these entities; the header of a token names its certificate, and its verifier answers
whether it is signed. -/
def listing (entities : List TrustedEntity) : TokenWorld where
  toChainWorld :=
    { trusting true with
      loadVerified := fun _ _ => .ok { entities }
      parseCertificate := fun der => some (signerCert der)
      certFromBase64Der := fun der => some (signerCert der) }
  parseHeader := fun data => .ok ⟨some [data]⟩
  nodeCertificate := .ok
  exportKey := .ok
  getVerifier := fun _ => .ok fun _ signature => .ok (signature == "signed")

def issuerOf (family : String) : TrustedEntity where
  services := [
    ⟨"http://uri.etsi.org/19602/SvcType/" ++ family ++ "/Issuance", "issuer"⟩,
    ⟨"http://uri.etsi.org/19602/SvcType/" ++ family ++ "/Revocation", "revoker"⟩]

def otherEntity : TrustedEntity where
  services := [⟨"http://uri.etsi.org/19602/SvcType/EAA/Revocation", "other"⟩]

def listed : TrustOptions where
  trustListSource := some oneList

def matchedIssuer (family : String) (revocationCert : Option Certificate) : MatchedTrustedEntity :=
  ⟨issuerOf family, signerCert "issuer", .leafPinned, revocationCert⟩

theorem eaa_resolved : IssuerResolved (listing [issuerOf "EAA", otherEntity]) [] ["issuer"] listed
    (some (matchedIssuer "EAA" (some (signerCert "revoker")))) := ⟨_, by rfl, rfl, rfl⟩

end CredentialStatus

/-- A token of the issuer's own revocation service. -/
theorem signed_by_own_entity_eaa :
    SignedByOwnEntity (listing [issuerOf "EAA", otherEntity]) [] "revoker" "signed" listed
      (some (matchedIssuer "EAA" (some (signerCert "revoker")))) := by
  refine (signed_by_own_entity (listing [issuerOf "EAA", otherEntity]) [] [] "revoker" "signed"
    ["issuer"] listed _ eaa_resolved (by rfl)).mpr ⟨?_, ?_, ?_⟩
  · rintro header publicKey verifier - - hverifier hfalse
    obtain rfl := Except.ok.inj hverifier
    exact absurd (Except.ok.inj hfalse) (by decide)
  · rintro m x5c hm - - hnone
    obtain rfl := Option.some.inj hm
    exact absurd hnone (by decide)
  · rintro m x5c hm hx5c -
    obtain rfl := Option.some.inj hm
    cases Except.ok.inj hx5c
    have hverified : VerifiedThrough (listing [issuerOf "EAA", otherEntity]).toChainWorld []
        ["revoker"] listed.trustListSource (statusPolicy listed)
        ⟨issuerOf "EAA", signerCert "revoker", .leafPinned, some (signerCert "revoker")⟩ :=
      ⟨_, by rfl, rfl, rfl⟩
    obtain ⟨s, hs⟩ := listsMatch_of_verified hverified
    refine ⟨_, s, hs, ?_, fun _ => rfl⟩
    obtain ⟨hmem, htype⟩ := hs.checkedBy.mem
    rcases List.mem_pair.mp hmem with rfl | rfl
    · exact absurd htype (by decide)
    · decide

/-- **Tokens of others are accepted**: with a verifier that resolves to `false`; of any signer, for
a Pub-EAA issuer; and of another entity, when neither has an id. -/
theorem not_signed_by_own_entity :
    (IssuerResolved (listing []) [] [] {} none ∧
      verifyStatusList (listing []) [] "revoker" "forged" {} none = true ∧
      ¬SignedByOwnEntity (listing []) [] "revoker" "forged" {} none) ∧
    (IssuerResolved (listing [issuerOf "PubEAA"]) [] ["issuer"] listed
        (some (matchedIssuer "PubEAA" none)) ∧
      verifyStatusList (listing [issuerOf "PubEAA"]) [] "other" "signed" listed
        (some (matchedIssuer "PubEAA" none)) = true ∧
      ¬SignedByOwnEntity (listing [issuerOf "PubEAA"]) [] "other" "signed" listed
        (some (matchedIssuer "PubEAA" none))) ∧
    IssuerResolved (listing [issuerOf "EAA", otherEntity]) [] ["issuer"] listed
        (some (matchedIssuer "EAA" (some (signerCert "revoker")))) ∧
      verifyStatusList (listing [issuerOf "EAA", otherEntity]) [] "other" "signed" listed
        (some (matchedIssuer "EAA" (some (signerCert "revoker")))) = true ∧
      ¬SignedByOwnEntity (listing [issuerOf "EAA", otherEntity]) [] "other" "signed" listed
        (some (matchedIssuer "EAA" (some (signerCert "revoker")))) := by
  refine ⟨⟨⟨_, by rfl, rfl, rfl⟩, by rfl, ?_⟩, ⟨⟨_, by rfl, rfl, rfl⟩, by rfl, ?_⟩, eaa_resolved,
    by rfl, ?_⟩
  · rintro ⟨⟨header, publicKey, verifier, -, -, hverifier, htrue⟩, -⟩
    obtain rfl := Except.ok.inj hverifier
    exact absurd (Except.ok.inj htrue) (by decide)
  · rintro ⟨-, hown⟩
    obtain ⟨x5c, hx5c, m, s, ⟨result, hresult, hverified, -⟩, -⟩ :=
      hown _ rfl ⟨_, List.mem_cons_of_mem _ List.mem_cons_self, by decide⟩
    cases Except.ok.inj hx5c
    have hrefused : ChainValidation.validateChain (listing [issuerOf "PubEAA"]).toChainWorld []
        ["other"] listed.trustListSource (statusPolicy listed) =
          .ok (refused "no_trusted_entity_match") := by rfl
    obtain rfl := Except.ok.inj (hrefused.symm.trans hresult)
    cases hverified
  · rintro ⟨-, hown⟩
    obtain ⟨x5c, hx5c, m, s, ⟨result, hresult, -, hm⟩, -, -, -, hsame⟩ :=
      hown _ rfl ⟨_, List.mem_cons_of_mem _ List.mem_cons_self, by decide⟩
    cases Except.ok.inj hx5c
    have hother : ChainValidation.validateChain
        (listing [issuerOf "EAA", otherEntity]).toChainWorld [] ["other"] listed.trustListSource
        (statusPolicy listed) = .ok ⟨true, some ⟨otherEntity, signerCert "other", .leafPinned,
          some (signerCert "other")⟩, none⟩ := by rfl
    obtain rfl := Except.ok.inj (hother.symm.trans hresult)
    obtain rfl := Option.some.inj hm
    exact absurd (hsame rfl) (by decide)

end Eudiplo
