import Eudiplo.Verifier.Chain

/-!
# Chains that a trusted entity vouches for

What `validateChain` has checked when it reports a matched entity: `verifiedThrough_iff` reads a
verdict back as `Vouched`, and `getTrustStore_iff` reads a store back as cached or just collected.
-/

namespace Eudiplo

open Results

namespace ChainValidation

variable (w : ChainWorld)

/-- **The chain is verified through this entity.** -/
def VerifiedThrough (cache : List (CachedStore w)) (x5c : List String) (source : Option LoteSource)
    (policy : ChainValidationPolicy) (m : MatchedTrustedEntity) : Prop :=
  ∃ result, validateChain w cache x5c source policy = .ok result ∧ result.verified = true ∧
    result.matchedEntity = some m

/-- Has the `NextUpdate` of a list or a store passed? -/
def IsStale (nextUpdate : Option String) : Prop :=
  (nextUpdate.bind w.parseDate).any (· < w.now) = true

instance (nextUpdate : Option String) : Decidable (IsStale w nextUpdate) :=
  inferInstanceAs (Decidable (_ = true))

/-- **The chain is matched** with an entity of a store: all that is asked of it but the age of the
store. -/
structure Matched (cache : List (CachedStore w)) (x5c : List String) (source : Option LoteSource)
    (policy : ChainValidationPolicy) (leaf : Certificate) (chain : List Certificate)
    (cached : CachedStore w) (path : List Certificate) (m : MatchedTrustedEntity) : Prop where
  presented : x5c.mapM w.parseCertificate = some (leaf :: chain)
  usesLists : shouldUseLote policy.federationTrustSource = true
  store : ∃ s, source = some s ∧ s.lotes ≠ [] ∧ getTrustStore w cache s = .ok cached
  built : w.build (leaf :: chain ++ trustAnchors w cached.store) leaf = .ok path
  valid : ∀ cert ∈ path, isTimeValid cert w.now = true
  matched : pathMatchesTrustedEntities w leaf (path.getLast?.getD leaf) policy.pinnedCertMode
    policy.serviceTypeFilter cached.store.entities = .ok (some m)
  federation : enforceFederationPolicy policy.federationTrustSource = true →
    (shouldUseFederation policy.federationTrustSource &&
      (evaluateCertificateEntityTrust w x5c policy.federationTrustSource).trusted) = true

variable {w} {cache : List (CachedStore w)} {x5c : List String} {source : Option LoteSource}
  {policy : ChainValidationPolicy} {m : MatchedTrustedEntity}

/-! ## Trust stores -/

/-- **A store** is one of the cache, or is collected now. -/
theorem getTrustStore_iff {s : LoteSource} {c : CachedStore w} :
    getTrustStore w cache s = .ok c ↔ resolveLotes w s = .ok c.source ∧
      (cache.find? (fun c' => c'.source == c.source &&
          w.now - c'.store.fetchedAt < cacheTtlMs) = some c ∨
        cache.find? (fun c' => c'.source == c.source &&
          w.now - c'.store.fetchedAt < cacheTtlMs) = none ∧ c.store.fetchedAt = w.now) := by
  constructor
  · intro h
    obtain ⟨resolved, hresolved, h⟩ := bind_eq_ok.mp h
    split at h
    · rename_i cached hcached
      obtain rfl := Except.ok.inj h
      have hfound := List.find?_some hcached
      rw [Bool.and_eq_true, beq_iff_eq] at hfound
      rw [hfound.1]
      exact ⟨hresolved, .inl hcached⟩
    · rename_i hnone
      split at h
      · obtain rfl := Except.ok.inj h
        exact ⟨hresolved, .inr ⟨hnone, rfl⟩⟩
      · cases h
  · rintro ⟨hresolved, hcase⟩
    unfold getTrustStore
    refine bind_eq_ok.mpr ⟨c.source, hresolved, ?_⟩
    rcases hcase with hfound | ⟨hnone, hnow⟩
    · rw [hfound]
      rfl
    · rw [hnone]
      dsimp only
      obtain ⟨src, ⟨fetchedAt, nextUpdate, entities⟩, hcollected⟩ := c
      dsimp only at hnow hcollected ⊢
      subst hnow
      split
      · rename_i list hlist
        rw [hcollected] at hlist
        obtain rfl := Except.ok.inj hlist
        rfl
      · rename_i hlist
        rw [hcollected] at hlist
        cases hlist

/-- **A store that is used** is not stale. -/
theorem getTrustStoreIfConfigured_iff {c : CachedStore w} :
    getTrustStoreIfConfigured w cache source = .ok (some c) ↔
      (∃ s, source = some s ∧ s.lotes ≠ [] ∧ getTrustStore w cache s = .ok c) ∧
        ¬IsStale w c.store.nextUpdate := by
  unfold getTrustStoreIfConfigured
  constructor
  · intro h
    split at h
    · cases h
    · rename_i s hs
      obtain ⟨hsource, hne⟩ := Option.filter_eq_some_iff.mp hs
      split at h
      · cases h
      · rename_i cached hcached
        split at h
        · cases h
        · rename_i hfresh
          cases h
          exact ⟨⟨s, hsource, by simpa using hne, hcached⟩, hfresh⟩
  · rintro ⟨⟨s, rfl, hne, hs⟩, hfresh⟩
    rw [Option.filter_some_pos (by simpa using hne)]
    dsimp only
    rw [hs]
    exact if_neg hfresh

/-! ## Verified chains -/

theorem validatePath_iff {presented : List Certificate} {leaf : Certificate}
    {store : BuiltTrustStore} {enforced trusted : Bool} :
    (∃ result, validatePath w presented leaf store policy enforced trusted = .ok result ∧
        result.verified = true ∧ result.matchedEntity = some m) ↔
      ∃ path, w.build (presented ++ trustAnchors w store) leaf = .ok path ∧
        (∀ cert ∈ path, isTimeValid cert w.now = true) ∧
        pathMatchesTrustedEntities w leaf (path.getLast?.getD leaf) policy.pinnedCertMode
          policy.serviceTypeFilter store.entities = .ok (some m) ∧
        (enforced = true → trusted = true) := by
  unfold validatePath
  constructor
  · rintro ⟨result, h, hverified, hm⟩
    split at h
    · obtain rfl := Except.ok.inj h
      split at hm <;> cases hm
    · rename_i path hpath
      split at h
      · obtain rfl := Except.ok.inj h
        cases hverified
      · rename_i hvalid
        obtain ⟨matched, hmatched, h⟩ := bind_eq_ok.mp h
        cases matched with
        | none =>
          obtain rfl := Except.ok.inj h
          split at hm <;> cases hm
        | some matched =>
          obtain rfl := Except.ok.inj h
          split at hm
          · cases hm
          · rename_i hfederation
            cases hm
            refine ⟨path, hpath, ?_, hmatched, fun henforced => ?_⟩
            · simpa using hvalid
            · simpa [henforced] using hfederation
  · rintro ⟨path, hpath, hvalid, hmatched, hfederation⟩
    have hall : (path.all fun cert => isTimeValid cert w.now) = true := List.all_eq_true.mpr hvalid
    -- the federation has the last word, and does not object
    have hpolicy : (enforced && !trusted) = false := by
      cases enforced with
      | false => rfl
      | true => rw [hfederation rfl]; rfl
    rw [hpath]
    dsimp only
    rw [hall, hmatched, if_neg (by decide)]
    exact ⟨_, rfl, by rw [if_neg (by rw [hpolicy]; decide)], by
      rw [if_neg (by rw [hpolicy]; decide)]⟩

@[simp] theorem federationDecides_matchedEntity {trusted : Bool} {error : String} :
    (federationDecides trusted error).matchedEntity = none := by
  cases trusted <;> rfl

theorem validateLote_iff {presented : List Certificate} {leaf : Certificate} {trusted : Bool} :
    (∃ result, validateLote w cache presented leaf source policy trusted = .ok result ∧
        result.verified = true ∧ result.matchedEntity = some m) ↔
      ∃ cached, getTrustStoreIfConfigured w cache source = .ok (some cached) ∧
        ∃ result, validatePath w presented leaf cached.store policy
            (enforceFederationPolicy policy.federationTrustSource) trusted = .ok result ∧
          result.verified = true ∧ result.matchedEntity = some m := by
  unfold validateLote
  constructor
  · rintro ⟨result, h, hverified, hm⟩
    dsimp only at h
    split at h
    · -- no store: at most the federation decides
      obtain rfl := Except.ok.inj h
      split at hm
      · rw [federationDecides_matchedEntity] at hm
        cases hm
      · cases hm
    · -- no lists: again the federation, or nobody
      obtain rfl := Except.ok.inj h
      split at hm
      · rw [federationDecides_matchedEntity] at hm
        cases hm
      · cases hm
    · rename_i cached hstore
      exact ⟨cached, hstore, result, h, hverified, hm⟩
  · rintro ⟨cached, hstore, result, h, hresult⟩
    refine ⟨result, ?_, hresult⟩
    dsimp only
    rw [hstore]
    exact h

/-- **What a verdict through an entity stands for**: the chain is matched, and the store was not
stale. -/
theorem verifiedThrough_iff : VerifiedThrough w cache x5c source policy m ↔
    ∃ leaf chain cached path, Matched w cache x5c source policy leaf chain cached path m ∧
      ¬IsStale w cached.store.nextUpdate := by
  constructor
  · -- without a chain, lists or a store there is no matched entity
    rintro ⟨result, h, hverified, hm⟩
    unfold validateChain at h
    split at h
    · obtain rfl := Except.ok.inj h
      split at hm <;> cases hm
    · split at h
      · obtain rfl := Except.ok.inj h
        cases hm
      · obtain rfl := Except.ok.inj h
        cases hm
      · rename_i leaf chain hparsed
        dsimp only at h
        split at h
        · rename_i hlote
          obtain ⟨cached, hstore, hverdict⟩ := validateLote_iff.mp ⟨result, h, hverified, hm⟩
          obtain ⟨hstore, hfresh⟩ := getTrustStoreIfConfigured_iff.mp hstore
          obtain ⟨path, hpath, hvalid, hmatched, hfederation⟩ := validatePath_iff.mp hverdict
          exact ⟨leaf, chain, cached, path,
            ⟨hparsed, hlote, hstore, hpath, hvalid, hmatched, hfederation⟩, hfresh⟩
        · obtain rfl := Except.ok.inj h
          rw [federationDecides_matchedEntity] at hm
          cases hm
  · rintro ⟨leaf, chain, cached, path, h, hfresh⟩
    have hverdict := validatePath_iff.mpr ⟨path, h.built, h.valid, h.matched, h.federation⟩
    obtain ⟨result, hresult, hrest⟩ := validateLote_iff.mpr
      ⟨cached, getTrustStoreIfConfigured_iff.mpr ⟨h.store, hfresh⟩, hverdict⟩
    refine ⟨result, ?_, hrest⟩
    unfold validateChain
    have hne : x5c.isEmpty = false := by
      cases x5c with
      | nil => cases h.presented
      | cons _ _ => rfl
    rw [hne, if_neg (by decide), h.presented]
    dsimp only
    rw [h.usesLists, if_pos rfl]
    exact hresult

end ChainValidation

end Eudiplo
