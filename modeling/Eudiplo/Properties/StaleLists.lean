import Eudiplo.Properties.ChainValidation
import Mathlib.Data.List.Induction

/-!
# Are stale lists left out?

The lists of a source are merged into one store, whose `NextUpdate` is the first that a list gives.
A list that is not the first dated one is used after its own `NextUpdate`:
`stale_lists_are_left_out` says when that cannot happen.
-/

namespace Eudiplo

open Results ChainValidation

namespace ChainValidation

variable (w : ChainWorld)

def acceptedEntities (source : LoteSource) (lists : List VerifiedTrustList) : List TrustedEntity :=
  (lists.flatMap (·.entities)).filter (acceptsEntity source.acceptedServiceTypes)

/-- **The match comes from this list**: no list before it has an entity that matches the path. -/
structure FromList (policy : ChainValidationPolicy) (leaf : Certificate) (path : List Certificate)
    (source : LoteSource) (m : MatchedTrustedEntity) (before : List VerifiedTrustList)
    (list : VerifiedTrustList) : Prop where
  notBefore : pathMatchesTrustedEntities w leaf (path.getLast?.getD leaf) policy.pinnedCertMode
    policy.serviceTypeFilter (acceptedEntities source before) = .ok none
  matched : pathMatchesTrustedEntities w leaf (path.getLast?.getD leaf) policy.pinnedCertMode
    policy.serviceTypeFilter (acceptedEntities source [list]) = .ok (some m)

/-- **A list of the store that the chain is matched with**, at this place among the lists. -/
structure MatchedList (cache : List (CachedStore w)) (x5c : List String)
    (source : Option LoteSource) (policy : ChainValidationPolicy) (lists : List VerifiedTrustList)
    (m : MatchedTrustedEntity) (list : VerifiedTrustList) : Prop where
  chain : ∃ leaf chain cached path, Matched w cache x5c source policy leaf chain cached path m ∧
    loadLists w cached.store.fetchedAt cached.source = .ok lists ∧
    ∃ before after, lists = before ++ list :: after ∧
      FromList w policy leaf path cached.source m before list

end ChainValidation

/-! ## The claim -/

/-- **No chain is verified through an entity of a stale list**: of the lists that the store was
collected from, the one whose entity is reported has no `NextUpdate` in the past. -/
def NeverThroughStaleList (w : ChainWorld) (cache : List (CachedStore w)) (x5c : List String)
    (source : Option LoteSource) (policy : ChainValidationPolicy) : Prop :=
  ∀ m, VerifiedThrough w cache x5c source policy m → ∀ lists list,
    MatchedList w cache x5c source policy lists m list → ¬IsStale w list.nextUpdate

namespace ChainValidation

variable {w : ChainWorld} {cache : List (CachedStore w)} {x5c : List String}
  {source : Option LoteSource} {policy : ChainValidationPolicy} {m : MatchedTrustedEntity}

theorem CachedStore.lists_of (c : CachedStore w) {lists : List VerifiedTrustList}
    (h : loadLists w c.store.fetchedAt c.source = .ok lists) :
    c.store.nextUpdate = lists.findSome? (·.nextUpdate) ∧
      c.store.entities = acceptedEntities c.source lists := by
  obtain ⟨lists', hlists', hcollected⟩ := bind_eq_ok.mp c.collected
  obtain rfl := Except.ok.inj (hlists'.symm.trans h)
  have hstore := VerifiedTrustList.mk.inj (Except.ok.inj hcollected)
  exact ⟨hstore.1.symm, hstore.2.symm⟩

variable {leaf last : Certificate} {pinnedMode : PinnedCertMode} {serviceTypeFilter : String}

end ChainValidation

/-- **A stale list never makes an issuer trusted**, exactly when the first `NextUpdate` that the
lists give has passed whenever that of the matched list has. -/
theorem stale_lists_are_left_out (w : ChainWorld) (cache : List (CachedStore w))
    (x5c : List String) (source : Option LoteSource) (policy : ChainValidationPolicy) :
    NeverThroughStaleList w cache x5c source policy ↔ ∀ lists m list,
      MatchedList w cache x5c source policy lists m list → IsStale w list.nextUpdate →
        IsStale w (lists.findSome? (·.nextUpdate)) := by
  constructor
  · intro h lists m list hlist hstale
    by_contra hfirst
    obtain ⟨leaf, chain, cached, path, hmatched, hlists, hfrom⟩ := hlist.chain
    have hverified : VerifiedThrough w cache x5c source policy m := by
      refine verifiedThrough_iff.mpr ⟨leaf, chain, cached, path, hmatched, ?_⟩
      rw [(cached.lists_of hlists).1]
      exact hfirst
    exact h m hverified lists list hlist hstale
  · intro h m hverified lists list hlist hstale
    have hfirst := h lists m list hlist hstale
    obtain ⟨leaf, chain, cached, path, hmatched, hlists, -⟩ := hlist.chain
    obtain ⟨leaf', chain', cached', path', hmatched', hfresh⟩ := verifiedThrough_iff.mp hverified
    obtain ⟨s, hs, -, hstore⟩ := hmatched.store
    obtain ⟨s', hs', -, hstore'⟩ := hmatched'.store
    obtain rfl := Option.some.inj (hs.symm.trans hs')
    obtain rfl := Except.ok.inj (hstore.symm.trans hstore')
    rw [(cached.lists_of hlists).1] at hfresh
    exact hfresh hfirst

namespace ChainValidation

/-! ## A fresh list in front of a stale one -/

def freshList : VerifiedTrustList where
  nextUpdate := some "2030"
  entities := []

def staleList : VerifiedTrustList where
  nextUpdate := some "2020"
  entities := [{ services := [⟨"http://uri.etsi.org/19602/SvcType/PID/Issuance", "issuer"⟩] }]

/-- Two dated lists, and a clock between their dates. -/
def outdated : ChainWorld :=
  { trusting true with
    loadVerified := fun _ ref => .ok (if ref.url = some "fresh" then freshList else staleList)
    parseDate := fun text => if text = "2020" then some 20 else some 100 }

def twoLists : LoteSource where
  lotes := [{ url := some "fresh" }, { url := some "stale" }]

end ChainValidation

/-- **An issuer of a stale list is trusted** behind a fresh list. -/
theorem not_stale_lists_are_left_out :
    ¬NeverThroughStaleList outdated [] ["issuer"] (some twoLists) (policyWith none) := by
  intro h
  let entity : TrustedEntity :=
    { services := [⟨"http://uri.etsi.org/19602/SvcType/PID/Issuance", "issuer"⟩] }
  have hverified : VerifiedThrough outdated [] ["issuer"] (some twoLists) (policyWith none)
      ⟨entity, issuerCert, .leafPinned, none⟩ := ⟨_, by rfl, rfl, rfl⟩
  have hmatched : Matched outdated [] ["issuer"] (some twoLists) (policyWith none) issuerCert []
      ⟨twoLists, ⟨50, some "2030", [entity]⟩, by rfl⟩ [issuerCert]
      ⟨entity, issuerCert, .leafPinned, none⟩ :=
    ⟨rfl, rfl, ⟨twoLists, rfl, by decide, by rfl⟩, rfl, by decide, by rfl, nofun⟩
  have hlist : MatchedList outdated [] ["issuer"] (some twoLists) (policyWith none)
      [freshList, staleList] ⟨entity, issuerCert, .leafPinned, none⟩ staleList :=
    ⟨issuerCert, [], _, _, hmatched, by rfl, [freshList], [], rfl, by rfl, by rfl⟩
  exact h _ hverified _ _ hlist (by decide)

end Eudiplo
