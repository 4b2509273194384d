import Eudiplo.Properties.ChainValidation
import Mathlib.Data.List.Chain

/-!
# Do only CA certificates issue?

The chain builder follows issuer names and signatures through the presented and the listed
certificates, and the validation looks at the CA flag of a listed certificate only. So
`only_authorities_issue` needs a pool without a rogue issuer: a certificate without the flag that
stands between the leaf and what the lists match.
-/

namespace Eudiplo

open ChainValidation

/-! ## Builders -/

/-- **An issuance path**: from the leaf each certificate is issued by the next, which is one of the
pool. -/
structure IssuancePath (issuedBy : Certificate → Certificate → Prop) (pool : List Certificate)
    (leaf : Certificate) (path : List Certificate) : Prop where
  head : path.head? = some leaf
  linked : path.IsChain issuedBy
  pooled : ∀ cert ∈ path.tail, cert ∈ pool

/-- **What is known of the chain builder**: it returns an issuance path. -/
structure ChainBuilder (issuedBy : Certificate → Certificate → Prop) where
  build : List Certificate → Certificate → Except String (List Certificate)
  sound : ∀ pool leaf path, build pool leaf = .ok path → IssuancePath issuedBy pool leaf path

variable {issuedBy : Certificate → Certificate → Prop}

def ChainValidation.ChainWorld.using (w : ChainWorld) (builder : ChainBuilder issuedBy) :
    ChainWorld :=
  { w with
    build := builder.build
    build_leaf := fun pool leaf path h => (builder.sound pool leaf path h).head }

def ChainValidation.CachedStore.using {w : ChainWorld} (builder : ChainBuilder issuedBy)
    (c : CachedStore w) : CachedStore (w.using builder) where
  source := c.source
  store := c.store
  collected := c.collected

/-! ## The claim -/

/-- **Every issuer of the path is a CA**: when the chain is verified through an entity, the path it
was verified by has the CA flag on each certificate above the leaf. -/
def OnlyAuthoritiesIssue (w : ChainWorld) (cache : List (CachedStore w)) (x5c : List String)
    (source : Option LoteSource) (policy : ChainValidationPolicy) : Prop :=
  ∀ m, VerifiedThrough w cache x5c source policy m → ∀ leaf chain cached path,
    x5c.mapM w.parseCertificate = some (leaf :: chain) →
    ChainValidation.getTrustStoreIfConfigured w cache source = .ok (some cached) →
    w.build (leaf :: chain ++ trustAnchors w cached.store) leaf = .ok path →
    ∀ cert ∈ path.tail, cert.ca = true

def StepsUp (w : ChainWorld) (issuedBy : Certificate → Certificate → Prop)
    (pool : List Certificate) (cert issuer : Certificate) : Prop :=
  issuedBy cert issuer ∧ issuer ∈ pool ∧ isTimeValid issuer w.now = true

/-- **A rogue issuer**: a certificate without the CA flag on the way from the leaf up to a
certificate with which the store matches. -/
structure RogueIssuer (w : ChainWorld) (issuedBy : Certificate → Certificate → Prop)
    (x5c : List String) (policy : ChainValidationPolicy) (store : BuiltTrustStore)
    (rogue : Certificate) : Prop where
  notCa : rogue.ca = false
  between : ∃ leaf chain last m, x5c.mapM w.parseCertificate = some (leaf :: chain) ∧
    isTimeValid leaf w.now = true ∧
    Relation.TransGen (StepsUp w issuedBy (leaf :: chain ++ trustAnchors w store)) leaf rogue ∧
    Relation.ReflTransGen (StepsUp w issuedBy (leaf :: chain ++ trustAnchors w store)) rogue last ∧
    pathMatchesTrustedEntities w leaf last policy.pinnedCertMode policy.serviceTypeFilter
      store.entities = .ok (some m)

/-- Do the mode and the federation leave the decision to the lists? -/
def ListsDecide (w : ChainWorld) (x5c : List String) (policy : ChainValidationPolicy) : Prop :=
  shouldUseLote policy.federationTrustSource = true ∧
    (enforceFederationPolicy policy.federationTrustSource = true →
      (shouldUseFederation policy.federationTrustSource &&
        (evaluateCertificateEntityTrust w x5c policy.federationTrustSource).trusted) = true)

/-! ## Paths -/

section Chains

variable {α : Type*} {r : α → α → Prop} {a b : α} {l : List α}

theorem reaches_of_mem_chain (h : (a :: l).IsChain r) (hb : b ∈ l) :
    Relation.TransGen r a b ∧ Relation.ReflTransGen r b ((a :: l).getLast?.getD a) := by
  obtain ⟨pre, post, rfl⟩ := List.append_of_mem hb
  rw [← List.cons_append, List.isChain_append] at h
  obtain ⟨hpre, hpost, hlink⟩ := h
  have hup : Relation.ReflTransGen r a ((a :: pre).getLast (List.cons_ne_nil a pre)) :=
    List.relationReflTransGen_of_exists_isChain_cons pre hpre rfl
  have hdown : Relation.ReflTransGen r b ((b :: post).getLast (List.cons_ne_nil b post)) :=
    List.relationReflTransGen_of_exists_isChain_cons post hpost rfl
  refine ⟨Relation.TransGen.tail' hup (hlink _ ?_ b rfl), ?_⟩
  · rw [List.getLast?_eq_getLast_of_ne_nil]
    rfl
  · have hlast : (a :: (pre ++ b :: post)).getLast?.getD a =
        (b :: post).getLast (List.cons_ne_nil b post) := by
      rw [← List.cons_append, List.getLast?_append_of_ne_nil _ (List.cons_ne_nil b post),
        List.getLast?_eq_getLast_of_ne_nil (List.cons_ne_nil b post)]
      rfl
    rw [hlast]
    exact hdown

theorem rel_of_mem_chain (h : (a :: l).IsChain r) (hb : b ∈ l) : ∃ c, r c b := by
  obtain ⟨c, -, hc⟩ := Relation.TransGen.tail'_iff.mp (reaches_of_mem_chain h hb).1
  exact ⟨c, hc⟩

theorem exists_chain_through {c : α} (hup : Relation.TransGen r a b)
    (hdown : Relation.ReflTransGen r b c) :
    ∃ l, (a :: l).IsChain r ∧ b ∈ l ∧ (a :: l).getLast?.getD a = c := by
  obtain ⟨x, hx, hlink⟩ := Relation.TransGen.tail'_iff.mp hup
  obtain ⟨pre, hpre, hlast⟩ := List.exists_isChain_cons_of_relationReflTransGen hx
  obtain ⟨post, hpost, hend⟩ := List.exists_isChain_cons_of_relationReflTransGen hdown
  refine ⟨pre ++ b :: post, ?_, by simp, ?_⟩
  · rw [← List.cons_append]
    refine List.isChain_append.mpr ⟨hpre, hpost, fun y hy z hz => ?_⟩
    rw [List.getLast?_eq_getLast_of_ne_nil (List.cons_ne_nil a pre), hlast] at hy
    obtain rfl := Option.some.inj hy
    obtain rfl := Option.some.inj hz
    exact hlink
  · rw [← List.cons_append, List.getLast?_append_of_ne_nil _ (List.cons_ne_nil b post),
      List.getLast?_eq_getLast_of_ne_nil (List.cons_ne_nil b post), hend]
    rfl

end Chains

variable {w : ChainWorld}

theorem IssuancePath.steps {pool rest : List Certificate} {leaf : Certificate}
    (h : IssuancePath issuedBy pool leaf (leaf :: rest))
    (hvalid : ∀ cert ∈ rest, isTimeValid cert w.now = true) :
    (leaf :: rest).IsChain (StepsUp w issuedBy pool) :=
  h.linked.imp_of_mem_tail_imp fun _ issuer _ hissuer hlink =>
    ⟨hlink, h.pooled issuer hissuer, hvalid issuer hissuer⟩

theorem IssuancePath.of_steps {pool rest : List Certificate} {leaf : Certificate}
    (h : (leaf :: rest).IsChain (StepsUp w issuedBy pool)) :
    IssuancePath issuedBy pool leaf (leaf :: rest) ∧
      ∀ cert ∈ rest, isTimeValid cert w.now = true := by
  refine ⟨⟨rfl, h.imp fun _ _ hstep => hstep.1, fun cert hcert => ?_⟩, fun cert hcert => ?_⟩
  · obtain ⟨_, hstep⟩ := rel_of_mem_chain h hcert
    exact hstep.2.1
  · obtain ⟨_, hstep⟩ := rel_of_mem_chain h hcert
    exact hstep.2.2

/-- **A builder that returns one issuance path**, for one leaf and pool. -/
def ChainBuilder.constant (pool : List Certificate) (leaf : Certificate) (path : List Certificate)
    (h : IssuancePath issuedBy pool leaf path) : ChainBuilder issuedBy where
  build := fun pool' leaf' => if pool' = pool ∧ leaf' = leaf then .ok path else .error "no path"
  sound := by
    intro pool' leaf' path' hbuild
    split at hbuild
    · rename_i heq
      obtain ⟨rfl, rfl⟩ := heq
      obtain rfl := Except.ok.inj hbuild
      exact h
    · cases hbuild

/-! ## Stores and builders -/

variable {cache : List (CachedStore w)} {source : Option LoteSource}

theorem CachedStore.using_inj (builder : ChainBuilder issuedBy) {c c' : CachedStore w}
    (h : c.using builder = c'.using builder) : c = c' := by
  obtain ⟨src, store, hcollected⟩ := c
  obtain ⟨src', store', hcollected'⟩ := c'
  obtain ⟨rfl, rfl⟩ := CachedStore.mk.inj h
  rfl

theorem getTrustStore_using (builder : ChainBuilder issuedBy) {s : LoteSource}
    {c : CachedStore w} : ChainValidation.getTrustStore (w.using builder)
      (cache.map (CachedStore.using builder)) s = .ok (c.using builder) ↔
        ChainValidation.getTrustStore w cache s = .ok c := by
  have hfind (p : CachedStore (w.using builder) → Bool) :
      (cache.map (CachedStore.using builder)).find? p =
        (cache.find? (p ∘ CachedStore.using builder)).map (CachedStore.using builder) :=
    List.find?_map
  rw [getTrustStore_iff, getTrustStore_iff, hfind, Option.map_eq_none_iff]
  refine and_congr Iff.rfl (or_congr ⟨fun h => ?_, fun h => ?_⟩ Iff.rfl)
  · obtain ⟨c', hc', heq⟩ := Option.map_eq_some_iff.mp h
    obtain rfl := CachedStore.using_inj builder heq
    exact hc'
  · exact Option.map_eq_some_iff.mpr ⟨c, h, rfl⟩

theorem getTrustStoreIfConfigured_using (builder : ChainBuilder issuedBy) {c : CachedStore w} :
    ChainValidation.getTrustStoreIfConfigured (w.using builder)
      (cache.map (CachedStore.using builder)) source = .ok (some (c.using builder)) ↔
        ChainValidation.getTrustStoreIfConfigured w cache source = .ok (some c) := by
  rw [getTrustStoreIfConfigured_iff, getTrustStoreIfConfigured_iff]
  refine and_congr (exists_congr fun s => and_congr Iff.rfl (and_congr Iff.rfl ?_)) Iff.rfl
  exact getTrustStore_using builder

theorem matchServices_using (builder : ChainBuilder issuedBy) (pinnedMode : PinnedCertMode)
    (leaf last : Certificate) (entity : TrustedEntity) (services : List ServiceCert) :
    matchServices (w.using builder) pinnedMode leaf last entity services =
      matchServices w pinnedMode leaf last entity services := by
  induction services with
  | nil => rfl
  | cons svc services ih =>
    unfold matchServices
    rw [ih]
    rfl

theorem pathMatchesTrustedEntities_using (builder : ChainBuilder issuedBy)
    (leaf last : Certificate) (pinnedMode : PinnedCertMode) (serviceTypeFilter : String)
    (entities : List TrustedEntity) :
    pathMatchesTrustedEntities (w.using builder) leaf last pinnedMode serviceTypeFilter entities =
      pathMatchesTrustedEntities w leaf last pinnedMode serviceTypeFilter entities := by
  induction entities with
  | nil => rfl
  | cons entity entities ih =>
    unfold pathMatchesTrustedEntities
    rw [ih, matchServices_using]

/-- **Every issuer of an accepted path is a CA**, whichever path the builder takes, exactly when
the lists do not decide or no rogue issuer leads up to what they match. -/
theorem only_authorities_issue (w : ChainWorld) (issuedBy : Certificate → Certificate → Prop)
    (cache : List (CachedStore w)) (x5c : List String) (source : Option LoteSource)
    (policy : ChainValidationPolicy) :
    (∀ builder : ChainBuilder issuedBy, OnlyAuthoritiesIssue (w.using builder)
      (cache.map (CachedStore.using builder)) x5c source policy) ↔
    (ListsDecide w x5c policy → ∀ cached,
      ChainValidation.getTrustStoreIfConfigured w cache source = .ok (some cached) →
        ∀ rogue, ¬RogueIssuer w issuedBy x5c policy cached.store rogue) := by
  constructor
  · rintro h ⟨hlists, hfederation⟩ cached hstore rogue ⟨hrogue, hbetween⟩
    obtain ⟨leaf, chain, last, m, hparsed, hleaf, hup, hdown, hmatched⟩ := hbetween
    -- a builder may return the way through the rogue issuer
    obtain ⟨rest, hsteps, hmem, hlast⟩ := exists_chain_through hup hdown
    obtain ⟨hpath, hvalid⟩ := IssuancePath.of_steps hsteps
    let builder := ChainBuilder.constant _ leaf (leaf :: rest) hpath
    have hstore' := (getTrustStoreIfConfigured_using builder).mpr hstore
    have hbuilt : (w.using builder).build
        (leaf :: chain ++ trustAnchors (w.using builder) (cached.using builder).store) leaf =
          .ok (leaf :: rest) := if_pos ⟨rfl, rfl⟩
    obtain ⟨hused, hfresh⟩ := getTrustStoreIfConfigured_iff.mp hstore'
    have hverified : VerifiedThrough (w.using builder) (cache.map (CachedStore.using builder)) x5c
        source policy m := by
      refine verifiedThrough_iff.mpr ⟨leaf, chain, cached.using builder, leaf :: rest,
        ⟨hparsed, hlists, hused, hbuilt, ?_, ?_, hfederation⟩, hfresh⟩
      · rintro cert (_ | ⟨_, hcert⟩)
        · exact hleaf
        · exact hvalid cert hcert
      · rw [pathMatchesTrustedEntities_using, hlast]
        exact hmatched
    have hca := h builder m hverified leaf chain _ _ hparsed hstore' hbuilt rogue hmem
    rw [hrogue] at hca
    cases hca
  · intro h builder m hverified leaf chain cached' path hparsed hstore' hbuilt cert hcert
    obtain ⟨leaf', chain', cached'', path', hm, hfresh⟩ := verifiedThrough_iff.mp hverified
    -- the verdict was reached with this leaf, this store and this path
    have hsame : leaf' :: chain' = leaf :: chain :=
      Option.some.inj (hm.presented.symm.trans hparsed)
    obtain ⟨rfl, rfl⟩ := List.cons.inj hsame
    have hstore'' := getTrustStoreIfConfigured_iff.mpr ⟨hm.store, hfresh⟩
    rw [hstore'] at hstore''
    obtain rfl := Option.some.inj (Except.ok.inj hstore'')
    obtain rfl := Except.ok.inj (hm.built.symm.trans hbuilt)
    obtain ⟨src, store, hcollected⟩ := cached'
    have hstore : ChainValidation.getTrustStoreIfConfigured w cache source =
        .ok (some ⟨src, store, hcollected⟩) := (getTrustStoreIfConfigured_using builder).mp hstore'
    have hpath := builder.sound _ _ _ hm.built
    cases path' with
    | nil => cases hcert
    | cons first rest =>
      obtain rfl := Option.some.inj hpath.head
      have hsteps : (first :: rest).IsChain (StepsUp w issuedBy _) := hpath.steps fun cert hcert =>
        hm.valid cert (List.mem_cons_of_mem _ hcert)
      obtain ⟨hup, hdown⟩ := reaches_of_mem_chain hsteps hcert
      cases hca : cert.ca with
      | true => rfl
      | false =>
        have hmatched := hm.matched
        rw [pathMatchesTrustedEntities_using] at hmatched
        exact absurd ⟨hca, first, chain', _, m, hparsed, hm.valid first List.mem_cons_self, hup,
          hdown, hmatched⟩ (h ⟨hm.usesLists, hm.federation⟩ _ hstore cert)

namespace ChainValidation

/-! ## A holder who issues -/

def certOf (der : String) (ca : Bool) : Certificate where
  der := der
  notBefore := 0
  notAfter := 100
  ca := ca

def bazaarCert : String → Option Certificate
  | "root" => some (certOf "root" true)
  | "shop" => some (certOf "shop" false)
  | "forged" => some (certOf "forged" false)
  | _ => none

def bazaar : ChainWorld :=
  { trusting true with
    loadVerified := fun _ _ => .ok {
      entities := [{ services := [⟨"http://uri.etsi.org/19602/SvcType/PID/Issuance", "root"⟩] }] }
    parseCertificate := bazaarCert
    certFromBase64Der := bazaarCert }

def bazaarIssuedBy (cert issuer : Certificate) : Prop :=
  (cert.der, issuer.der) ∈ [("forged", "shop"), ("shop", "root"), ("root", "root")]

theorem bazaar_path : IssuancePath bazaarIssuedBy
    [certOf "forged" false, certOf "shop" false, certOf "root" true] (certOf "forged" false)
    [certOf "forged" false, certOf "shop" false, certOf "root" true] where
  head := rfl
  linked := by
    unfold bazaarIssuedBy
    decide
  pooled := by decide

end ChainValidation

/-- **A forged issuer is accepted**: the shop's certificate is no CA, and the chain with a
certificate that the shop has signed is verified through the root. -/
theorem not_only_authorities_issue :
    ¬∀ builder : ChainBuilder bazaarIssuedBy, OnlyAuthoritiesIssue (bazaar.using builder) []
      ["forged", "shop"] (some oneList) (policyWith none) := by
  intro h
  have hverified : VerifiedThrough (bazaar.using (ChainBuilder.constant _ _ _ bazaar_path)) []
      ["forged", "shop"] (some oneList) (policyWith none)
      ⟨{ services := [⟨"http://uri.etsi.org/19602/SvcType/PID/Issuance", "root"⟩] },
        certOf "root" true, .ca, none⟩ := ⟨_, by rfl, rfl, rfl⟩
  have hca := h _ _ hverified (certOf "forged" false) [certOf "shop" false] _ _ rfl (by rfl)
    (by rfl) (certOf "shop" false) (by decide)
  cases hca

end Eudiplo
