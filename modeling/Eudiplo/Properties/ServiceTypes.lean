import Eudiplo.Verifier.Services
import Eudiplo.Properties.ChainValidation

/-!
# Are only accepted service types matched?

A store keeps the entities that have a service of an accepted type, with all their services, and a
path is then matched with every service of the sought type: `only_accepted_types_match` says when
the service that matches has an accepted type.
-/

namespace Eudiplo

open Results ChainValidation

namespace ChainValidation

/-- Does a service have a type that the source accepts? -/
def hasAcceptedType (source : LoteSource) (s : ServiceCert) : Bool :=
  source.acceptedServiceTypes.all fun accepted =>
    accepted.any (serviceTypeMatches s.serviceTypeIdentifier)

end ChainValidation

/-! ## The claim -/

/-- **Accepted by its type**: the service whose certificate matched has one of the types that the
source accepts. -/
def MatchesAcceptedType (w : ChainWorld) (cache : List (CachedStore w)) (x5c : List String)
    (source : LoteSource) (policy : ChainValidationPolicy) (m : MatchedTrustedEntity) : Prop :=
  ∀ s, CheckedBy w cache x5c (some source) policy m s → hasAcceptedType source s = true

/-- **Other services come later**: a service of the sought type that matches the path without having
an accepted type stands behind one that has such a type and matches. -/
def OtherTypesComeLater (w : ChainWorld) (p : PathEnds) (serviceTypeFilter : String)
    (source : LoteSource) (entities : List TrustedEntity) : Prop :=
  ∀ before x after, soughtServices serviceTypeFilter entities = before ++ x :: after →
    matchesPath w p x.2 = true → hasAcceptedType source x.2 = false →
    ∃ y ∈ before, matchesPath w p y.2 = true ∧ hasAcceptedType source y.2 = true

namespace ChainValidation

variable {w : ChainWorld} {p : PathEnds} {serviceTypeFilter : String} {source : LoteSource}
  {entities : List TrustedEntity} {m : MatchedTrustedEntity} {s : ServiceCert}

theorem MatchedService.accepted_iff (h : MatchedService w p serviceTypeFilter entities m s) :
    hasAcceptedType source s = true ↔
      OtherTypesComeLater w p serviceTypeFilter source entities := by
  obtain ⟨hmatches, front, back, hsplit, hfront⟩ :=
    List.find?_eq_some_iff_append.mp h.firstMatching
  have hnone (y) (hy : y ∈ front) : ChainValidation.matchesPath w p y.2 ≠ true := fun hy' => by
    have hno := hfront y hy
    rw [hy'] at hno
    cases hno
  constructor
  · intro haccepted before x after hsplit' hx hother
    have hne : x ≠ (m.entity, s) := by
      rintro rfl
      rw [haccepted] at hother
      cases hother
    rcases List.append_eq_append_iff.mp (hsplit.symm.trans hsplit') with
      ⟨rest, rfl, hrest⟩ | ⟨rest, rfl, hrest⟩
    · -- `x` stands behind the first match, which is accepted
      cases rest with
      | nil => exact absurd (List.cons.inj hrest).1.symm hne
      | cons y rest =>
        obtain ⟨rfl, -⟩ := List.cons.inj hrest
        exact ⟨_, List.mem_append_right front List.mem_cons_self, hmatches, haccepted⟩
    · -- no match stands before the first
      cases rest with
      | nil => exact absurd (List.cons.inj hrest).1 hne
      | cons y rest =>
        obtain ⟨rfl, -⟩ := List.cons.inj hrest
        exact absurd hx (hnone _ (List.mem_append_right before List.mem_cons_self))
  · intro hlater
    by_contra hother
    obtain ⟨y, hy, hy', -⟩ :=
      hlater front (m.entity, s) back hsplit hmatches (Bool.eq_false_iff.mpr hother)
    exact hnone y hy hy'

end ChainValidation

/-- **An issuer is trusted by an accepted service type**, exactly when the services of other types
that match its path come later. -/
theorem verified_by_accepted_type (w : ChainWorld) (cache : List (CachedStore w))
    (x5c : List String) (source : LoteSource) (policy : ChainValidationPolicy)
    (m : MatchedTrustedEntity)
    (hverified : VerifiedThrough w cache x5c (some source) policy m) :
    MatchesAcceptedType w cache x5c source policy m ↔ ∀ cached leaf path,
      ChecksPath w cache x5c (some source) cached leaf path →
      OtherTypesComeLater w (endsOf policy leaf path) policy.serviceTypeFilter source
        cached.store.entities := by
  obtain ⟨s, cached, leaf, path, hpath, hs⟩ := checkedBy_of_verified hverified
  constructor
  · intro h cached' leaf' path' hpath'
    obtain ⟨rfl, rfl, rfl⟩ := hpath.unique hpath'
    exact hs.accepted_iff.mp (h s ⟨cached, leaf, path, hpath, hs⟩)
  · rintro h s' ⟨cached', leaf', path', hpath', hs'⟩
    exact hs'.accepted_iff.mpr (h cached' leaf' path' hpath')

namespace ChainValidation

/-! ## A wallet provider that also issues -/

/-- An entity with a service certificate for wallet solutions and another one for PIDs; the first is
the presented one, or the second. -/
def walletProvider (issues : Bool) : TrustedEntity where
  services := [
    ⟨"http://uri.etsi.org/19602/SvcType/WalletSolution/Issuance",
      if issues then "other" else "issuer"⟩,
    ⟨"http://uri.etsi.org/19602/SvcType/PID/Issuance", if issues then "issuer" else "other"⟩]

def otherCert : Certificate where
  der := "other"
  notBefore := 0
  notAfter := 100

def mixedServices (issues : Bool) : ChainWorld :=
  { trusting true with
    loadVerified := fun _ _ => .ok { entities := [walletProvider issues] }
    certFromBase64Der := fun der =>
      if der = "issuer" then some issuerCert else if der = "other" then some otherCert else none }

def issuanceSource : LoteSource :=
  { oneList with
    acceptedServiceTypes := some [
      "http://uri.etsi.org/19602/SvcType/EAA/Issuance",
      "http://uri.etsi.org/19602/SvcType/PID/Issuance",
      "http://uri.etsi.org/19602/SvcType/PubEAA/Issuance"] }

theorem walletProvider_verified (issues : Bool) : VerifiedThrough (mixedServices issues) []
    ["issuer"] (some issuanceSource) (policyWith none)
    ⟨walletProvider issues, issuerCert, .leafPinned, none⟩ := by
  cases issues <;> exact ⟨_, by rfl, rfl, rfl⟩

theorem walletProvider_path (issues : Bool) : ∃ cached,
    ChecksPath (mixedServices issues) [] ["issuer"] (some issuanceSource) cached issuerCert
      [issuerCert] ∧ cached.store.entities = [walletProvider issues] := by
  refine ⟨⟨issuanceSource, ⟨50, none, [walletProvider issues]⟩, by cases issues <;> rfl⟩,
    ⟨⟨issuanceSource, rfl, by cases issues <;> rfl⟩, [], by cases issues <;> rfl, rfl⟩, rfl⟩

end ChainValidation

/-- The PID service of an entity is an accepted one. -/
theorem verified_by_accepted_type_pid :
    MatchesAcceptedType (mixedServices true) [] ["issuer"] issuanceSource (policyWith none)
      ⟨walletProvider true, issuerCert, .leafPinned, none⟩ := by
  refine (verified_by_accepted_type (mixedServices true) [] ["issuer"] issuanceSource
    (policyWith none) _ (walletProvider_verified true)).mpr ?_
  intro cached leaf path hpath
  obtain ⟨cached', hpath', hentities⟩ := walletProvider_path true
  obtain ⟨rfl, rfl, rfl⟩ := hpath'.unique hpath
  rw [hentities]
  refine MatchedService.accepted_iff (m := ⟨walletProvider true, issuerCert, .leafPinned, none⟩)
    (s := ⟨"http://uri.etsi.org/19602/SvcType/PID/Issuance", "issuer"⟩) ?_ |>.mp (by decide)
  exact ⟨by decide, by decide, by decide, by rfl⟩

/-- **A wallet provider's certificate makes it a trusted issuer**, beside a service that issues
PIDs. -/
theorem not_verified_by_accepted_type :
    VerifiedThrough (mixedServices false) [] ["issuer"] (some issuanceSource) (policyWith none)
        ⟨walletProvider false, issuerCert, .leafPinned, none⟩ ∧
      ¬MatchesAcceptedType (mixedServices false) [] ["issuer"] issuanceSource (policyWith none)
        ⟨walletProvider false, issuerCert, .leafPinned, none⟩ := by
  refine ⟨walletProvider_verified false, fun h => ?_⟩
  obtain ⟨cached, hpath, hentities⟩ := walletProvider_path false
  have hs : MatchedService (mixedServices false) (endsOf (policyWith none) issuerCert [issuerCert])
      "/Issuance" cached.store.entities
      ⟨walletProvider false, issuerCert, .leafPinned, none⟩
      ⟨"http://uri.etsi.org/19602/SvcType/WalletSolution/Issuance", "issuer"⟩ := by
    rw [hentities]
    exact ⟨by decide, by decide, by decide, by rfl⟩
  have haccepted := h _ ⟨cached, issuerCert, [issuerCert], hpath, hs⟩
  exact absurd haccepted (by decide)

end Eudiplo
