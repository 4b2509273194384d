import Eudiplo.Shared.Interspersed
import Eudiplo.Verifier.Services
import Eudiplo.Properties.ChainValidation

/-!
# Do unusable list entries disable the others?

Trust anchors that do not parse are left out when a path is built, but not when it is matched: the
services of the sought type are parsed in list order, and the first one that fails ends the
validation.  `verified_beside_unparsed_entries` says which entries can be added to a store.
-/

namespace Eudiplo

open Results ChainValidation

namespace ChainValidation

variable (w : ChainWorld)

/-! ## Larger stores -/

/-- An entity with services added whose certificates do not parse. -/
def ExtendsEntity (entity entity' : TrustedEntity) : Prop :=
  entity'.entityId = entity.entityId ∧
    Interspersed (fun s => ¬Parses w s) Eq entity.services entity'.services

/-- **A store with entries added** whose certificates do not parse: whole entities, and services of
the entities it has. -/
structure ExtendsStore (store store' : BuiltTrustStore) : Prop where
  nextUpdate : store'.nextUpdate = store.nextUpdate
  entities : Interspersed (fun entity => ∀ s ∈ entity.services, ¬Parses w s) (ExtendsEntity w)
    store.entities store'.entities

def getRevocationCert (entity : TrustedEntity) : Option ServiceCert :=
  entity.services.find? fun s =>
    s.serviceTypeIdentifier == "http://uri.etsi.org/19602/SvcType/EAA/Revocation"

/-- **What does not parse comes later**: no such service is tried before one that matches, and the
revocation service of the first match is not one of them. -/
structure UnparsedComeLater (serviceTypeFilter : String) (p : PathEnds)
    (entities : List TrustedEntity) : Prop where
  services : ∀ before x after, soughtServices serviceTypeFilter entities = before ++ x :: after →
    ¬Parses w x.2 → ∃ y ∈ before, matchesPath w p y.2 = true
  revocation : ∀ entity s s', (soughtServices serviceTypeFilter entities).find?
      (fun x => matchesPath w p x.2) = some (entity, s) →
    getRevocationCert entity = some s' → Parses w s'

end ChainValidation

/-! ## The claim -/

/-- **The chain stays verified** through the entity, with what was added to it. -/
def StaysVerified (w : ChainWorld) (cache : List (CachedStore w)) (x5c : List String)
    (source : Option LoteSource) (policy : ChainValidationPolicy) (m : MatchedTrustedEntity) :
    Prop :=
  ∃ m', VerifiedThrough w cache x5c source policy m' ∧ ExtendsEntity w m.entity m'.entity

namespace ChainValidation

variable {w : ChainWorld} {p : PathEnds} {serviceTypeFilter : String}
  {entities entities' : List TrustedEntity} {m : MatchedTrustedEntity} {s : ServiceCert}

/-! ## Matches with what does not parse -/

theorem revocationCertOf_ok {entity : TrustedEntity} :
    (∃ cert, revocationCertOf w entity = .ok cert) ↔
      ∀ s, getRevocationCert entity = some s → Parses w s := by
  unfold revocationCertOf getRevocationCert
  cases hfind : entity.services.find? fun s =>
      s.serviceTypeIdentifier == "http://uri.etsi.org/19602/SvcType/EAA/Revocation" with
  | none => exact ⟨fun _ => nofun, fun _ => ⟨none, rfl⟩⟩
  | some s =>
    unfold Parses listedCert
    cases hcert : w.certFromBase64Der s.certValue with
    | none =>
      constructor
      · rintro ⟨cert, h⟩
        simp only [hcert] at h
        cases h
      · intro h
        have hparses := h s rfl
        rw [hcert] at hparses
        cases hparses
    | some cert =>
      refine ⟨fun _ s' hs' => ?_, fun _ => ⟨some cert, by simp only [hcert]; rfl⟩⟩
      cases hs'
      rw [hcert]
      rfl

theorem MatchedService.unparsedComeLater (h : MatchedService w p serviceTypeFilter entities m s) :
    UnparsedComeLater w serviceTypeFilter p entities := by
  constructor
  · intro before x after hsplit hparses
    by_contra hnone
    push Not at hnone
    -- then the search stops at `x` or before it, and at no match
    have hstops : stopsAt w p x.2 = true := by
      unfold stopsAt
      rw [decide_eq_false hparses]
      rfl
    have hfirst := h.first
    simp only [hsplit, List.find?_append, List.find?_cons, hstops] at hfirst
    cases hbefore : before.find? fun x => stopsAt w p x.2 with
    | none =>
      rw [hbefore] at hfirst
      cases hfirst
      exact hparses (parses_of_matchesPath h.matchesPath)
    | some y =>
      rw [hbefore] at hfirst
      cases hfirst
      exact hnone _ (List.mem_of_find?_eq_some hbefore) h.matchesPath
  · intro entity s' s'' hfirst hs''
    obtain ⟨rfl, -⟩ := Prod.mk.inj (Option.some.inj (h.firstMatching.symm.trans hfirst))
    exact revocationCertOf_ok.mp ⟨_, h.revocation⟩ s'' hs''

/-- **The first service that matches is found**, when what does not parse comes later. -/
theorem exists_matchedService {entity : TrustedEntity}
    (hfirst : (soughtServices serviceTypeFilter entities).find?
      (fun x => matchesPath w p x.2) = some (entity, s))
    (hlater : UnparsedComeLater w serviceTypeFilter p entities) :
    ∃ m, m.entity = entity ∧ MatchedService w p serviceTypeFilter entities m s := by
  obtain ⟨hmatches, before, after, hsplit, hbefore⟩ := List.find?_eq_some_iff_append.mp hfirst
  obtain ⟨cert, hcert, hmatch⟩ := matchesPath_iff.mp hmatches
  obtain ⟨matchMode, hmode⟩ := Option.isSome_iff_exists.mp hmatch
  obtain ⟨revocationCert, hrevocation⟩ := revocationCertOf_ok.mpr fun s' hs' =>
    hlater.revocation entity s s' hfirst hs'
  refine ⟨⟨entity, cert, matchMode, revocationCert⟩, rfl, ?_, hcert, hmode, hrevocation⟩
  refine List.find?_eq_some_iff_append.mpr
    ⟨stopsAt_of_matchesPath hmatches, before, after, hsplit, fun y hy => ?_⟩
  -- a service before the first match is passed over, unless it does not parse
  have hno : matchesPath w p y.2 = false := Bool.not_eq_true' _ ▸ hbefore y hy
  have hparses : Parses w y.2 := by
    by_contra hparses
    obtain ⟨front, back, rfl⟩ := List.append_of_mem hy
    rw [List.append_assoc, List.cons_append] at hsplit
    obtain ⟨z, hz, hmatches'⟩ := hlater.services front y _ hsplit hparses
    have hno' := hbefore z (List.mem_append_left _ hz)
    rw [hmatches'] at hno'
    cases hno'
  rw [stopsAt_eq_false.mpr ⟨hparses, hno⟩]
  rfl

/-! ## Matches in a larger store -/

theorem soughtServices_extends {store store' : BuiltTrustStore} (h : ExtendsStore w store store') :
    Interspersed (fun x => ¬Parses w x.2)
      (fun x y : TrustedEntity × ServiceCert => ExtendsEntity w x.1 y.1 ∧ x.2 = y.2)
      (soughtServices serviceTypeFilter store.entities)
      (soughtServices serviceTypeFilter store'.entities) := by
  refine h.entities.flatMap (fun entity entity' hentity => ?_) fun entity hbad y hy => ?_
  · refine Interspersed.map (hentity.2.filter fun s s' hs => by rw [hs]) ?_ fun s hs => hs
    exact fun s s' hs => ⟨hentity, hs⟩
  · obtain ⟨s, hs, rfl⟩ := List.mem_map.mp hy
    exact hbad s (List.mem_filter.mp hs).1

theorem trustAnchors_extends {store store' : BuiltTrustStore} (h : ExtendsStore w store store') :
    trustAnchors w store' = trustAnchors w store := by
  have hservices : Interspersed (fun s => ¬Parses w s) Eq
      (store.entities.flatMap (·.services)) (store'.entities.flatMap (·.services)) :=
    h.entities.flatMap (fun _ _ hentity => hentity.2) fun _ hbad s hs => hbad s hs
  refine (hservices.filterMap_eq (fun s s' hs => by rw [hs]) fun s hs => ?_).symm
  exact Option.not_isSome_iff_eq_none.mp hs

theorem firstMatching_extends {store store' : BuiltTrustStore} {entity : TrustedEntity}
    (h : ExtendsStore w store store')
    (hfirst : (soughtServices serviceTypeFilter store.entities).find?
      (fun x => matchesPath w p x.2) = some (entity, s)) :
    ∃ entity', ExtendsEntity w entity entity' ∧
      (soughtServices serviceTypeFilter store'.entities).find? (fun x => matchesPath w p x.2) =
        some (entity', s) := by
  have hbad (y : TrustedEntity × ServiceCert) (hy : ¬Parses w y.2) :
      matchesPath w p y.2 = false :=
    Bool.eq_false_iff.mpr fun hmatches => hy (parses_of_matchesPath hmatches)
  obtain ⟨⟨entity', s'⟩, hfirst', hentity, rfl⟩ := (soughtServices_extends h).find?_eq_some
    (fun x y hxy => by rw [hxy.2]) hbad hfirst
  exact ⟨entity', hentity, hfirst'⟩

end ChainValidation

/-- **A larger store still verifies** a chain, exactly when what does not parse comes later than the
first match. -/
theorem verified_beside_unparsed_entries (w : ChainWorld) (cache cache' : List (CachedStore w))
    (x5c : List String) (source : Option LoteSource) (policy : ChainValidationPolicy)
    (m : MatchedTrustedEntity) (cached cached' : CachedStore w)
    (hverified : VerifiedThrough w cache x5c source policy m)
    (hstore : UsesStore w cache source cached) (hstore' : UsesStore w cache' source cached')
    (hextends : ExtendsStore w cached.store cached'.store) :
    StaysVerified w cache' x5c source policy m ↔ ∀ leaf path,
      ChecksPath w cache x5c source cached leaf path →
      UnparsedComeLater w policy.serviceTypeFilter (endsOf policy leaf path)
        cached'.store.entities := by
  constructor
  · rintro ⟨m', hverified', -⟩ leaf path hpath
    obtain ⟨svc, c, leaf', path', hpath', hsvc⟩ := checkedBy_of_verified hverified'
    obtain rfl := hpath'.store.unique hstore'
    -- both stores have the same trust anchors, and so the same path
    obtain ⟨chain, hpresented, hbuilt⟩ := hpath.built
    obtain ⟨chain', hpresented', hbuilt'⟩ := hpath'.built
    obtain ⟨rfl, rfl⟩ := List.cons.inj (Option.some.inj (hpresented'.symm.trans hpresented))
    rw [trustAnchors_extends hextends] at hbuilt'
    obtain rfl := Except.ok.inj (hbuilt'.symm.trans hbuilt)
    exact hsvc.unparsedComeLater
  · intro hlater
    obtain ⟨leaf, chain, c, path, h, hfresh⟩ := verifiedThrough_iff.mp hverified
    obtain rfl := h.checksPath.store.unique hstore
    obtain ⟨svc, hsvc⟩ := h.matchedService
    obtain ⟨entity', hentity, hfirst⟩ := firstMatching_extends hextends hsvc.firstMatching
    obtain ⟨m', rfl, hm'⟩ := exists_matchedService hfirst (hlater leaf path h.checksPath)
    refine ⟨m', verifiedThrough_iff.mpr ⟨leaf, chain, cached', path, ?_, ?_⟩, hentity⟩
    · obtain ⟨s, hs, hne, -⟩ := h.store
      obtain ⟨s', hs', hc'⟩ := hstore'
      obtain rfl := Option.some.inj (hs.symm.trans hs')
      refine { h with store := ⟨s, hs, hne, hc'⟩, built := ?_, matched := ?_ }
      · rw [trustAnchors_extends hextends]
        exact h.built
      · exact (pathMatchesTrustedEntities_iff (p := endsOf policy leaf path)).mpr ⟨svc, hm'⟩
    · rw [hextends.nextUpdate]
      exact hfresh

namespace ChainValidation

/-! ## A malformed entry in front -/

def listedEntity : TrustedEntity where
  services := [⟨"http://uri.etsi.org/19602/SvcType/PID/Issuance", "issuer"⟩]

def malformedEntry : TrustedEntity where
  services := [⟨"http://uri.etsi.org/19602/SvcType/PID/Issuance", "AAAA"⟩]

/-- A list to which an entry is added at the current time: in front, or at the end. -/
def republished (inFront : Bool) : ChainWorld :=
  { trusting true with
    loadVerified := fun t _ => .ok {
      entities :=
        if t < 50 then [listedEntity]
        else if inFront then [malformedEntry, listedEntity]
        else [listedEntity, malformedEntry] } }

def storeBefore (inFront : Bool) : CachedStore (republished inFront) :=
  ⟨oneList, ⟨49, none, [listedEntity]⟩, by rfl⟩

def storeAfter (inFront : Bool) : CachedStore (republished inFront) :=
  ⟨oneList, ⟨50, none,
      if inFront then [malformedEntry, listedEntity] else [listedEntity, malformedEntry]⟩,
    by cases inFront <;> rfl⟩

theorem verifiedBefore (inFront : Bool) : VerifiedThrough (republished inFront)
    [storeBefore inFront] ["issuer"] (some oneList) (policyWith none)
    ⟨listedEntity, issuerCert, .leafPinned, none⟩ := ⟨_, by cases inFront <;> rfl, rfl, rfl⟩

theorem listedEntity_extends (inFront : Bool) :
    ExtendsEntity (republished inFront) listedEntity listedEntity :=
  ⟨rfl, .kept rfl .nil⟩

theorem storeAfter_extends (inFront : Bool) : ExtendsStore (republished inFront)
    (storeBefore inFront).store (storeAfter inFront).store := by
  have hmalformed : ∀ s ∈ malformedEntry.services, ¬Parses (republished inFront) s := by
    cases inFront <;> decide
  refine ⟨rfl, ?_⟩
  cases inFront with
  | true => exact .added hmalformed (.kept (listedEntity_extends true) .nil)
  | false => exact .kept (listedEntity_extends false) (.added hmalformed .nil)

end ChainValidation

/-- An entry that is added at the end does no harm. -/
theorem verified_beside_unparsed_entries_behind :
    StaysVerified (republished false) [] ["issuer"] (some oneList) (policyWith none)
      ⟨listedEntity, issuerCert, .leafPinned, none⟩ := by
  refine (verified_beside_unparsed_entries (republished false) [storeBefore false] [] ["issuer"]
    (some oneList) (policyWith none) _ (storeBefore false) (storeAfter false)
    (verifiedBefore false) ⟨oneList, rfl, by rfl⟩ ⟨oneList, rfl, by rfl⟩
    (storeAfter_extends false)).mpr ?_
  intro leaf path hpath
  obtain ⟨chain, hpresented, hbuilt⟩ := hpath.built
  obtain ⟨rfl, rfl⟩ := List.cons.inj (Option.some.inj hpresented)
  obtain rfl := Except.ok.inj hbuilt
  have hmatched : pathMatchesTrustedEntities (republished false) issuerCert issuerCert .leaf
      "/Issuance" (storeAfter false).store.entities =
        .ok (some ⟨listedEntity, issuerCert, .leafPinned, none⟩) := by rfl
  obtain ⟨s, hs⟩ := (pathMatchesTrustedEntities_iff
    (p := endsOf (policyWith none) issuerCert [issuerCert])).mp hmatched
  exact hs.unparsedComeLater

/-- **A malformed entry in front** of a list disables it: the validation fails. -/
theorem not_verified_beside_unparsed_entries :
    VerifiedThrough (republished true) [storeBefore true] ["issuer"] (some oneList)
        (policyWith none) ⟨listedEntity, issuerCert, .leafPinned, none⟩ ∧
      UsesStore (republished true) [storeBefore true] (some oneList) (storeBefore true) ∧
      UsesStore (republished true) [] (some oneList) (storeAfter true) ∧
      ExtendsStore (republished true) (storeBefore true).store (storeAfter true).store ∧
      ¬StaysVerified (republished true) [] ["issuer"] (some oneList) (policyWith none)
        ⟨listedEntity, issuerCert, .leafPinned, none⟩ := by
  refine ⟨verifiedBefore true, ⟨oneList, rfl, by rfl⟩, ⟨oneList, rfl, by rfl⟩,
    storeAfter_extends true, ?_⟩
  rintro ⟨m', ⟨result, hresult, -⟩, -⟩
  have herror : ChainValidation.validateChain (republished true) [] ["issuer"] (some oneList)
      (policyWith none) = .error "Cannot parse certificate" := by rfl
  rw [herror] at hresult
  cases hresult

end Eudiplo
