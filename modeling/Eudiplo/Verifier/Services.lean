import Eudiplo.Verifier.Matching

/-!
# The service that a path is matched with

`pathMatchesTrustedEntities` tries the services of the sought type one after the other and stops at
the first that matches the path, or whose certificate does not parse
(`pathMatchesTrustedEntities_iff`).
-/

namespace Eudiplo

open Results

namespace ChainValidation

def soughtServices (serviceTypeFilter : String) (entities : List TrustedEntity) :
    List (TrustedEntity × ServiceCert) :=
  entities.flatMap fun entity =>
    (entity.services.filter (matchesFilter serviceTypeFilter)).map fun s => (entity, s)

variable (w : ChainWorld)

/-- Does the certificate of a service parse? -/
def Parses (s : ServiceCert) : Prop := (w.certFromBase64Der s.certValue).isSome = true

instance (s : ServiceCert) : Decidable (Parses w s) := inferInstanceAs (Decidable (_ = true))

/-- **What a path is compared with**: its leaf and its end, under a pinning mode. -/
structure PathEnds where
  leaf : Certificate
  last : Certificate
  pinnedMode : PinnedCertMode

def endsOf (policy : ChainValidationPolicy) (leaf : Certificate) (path : List Certificate) :
    PathEnds :=
  ⟨leaf, path.getLast?.getD leaf, policy.pinnedCertMode⟩

variable (p : PathEnds)

/-- Does a service match the path? -/
def matchesPath (s : ServiceCert) : Bool :=
  (w.certFromBase64Der s.certValue).any fun cert =>
    (matchCert w p.pinnedMode p.leaf p.last cert).isSome

def stopsAt (s : ServiceCert) : Bool := !decide (Parses w s) || matchesPath w p s

/-- **The service whose certificate matched**, of the entity that is reported. -/
structure MatchedService (serviceTypeFilter : String) (entities : List TrustedEntity)
    (m : MatchedTrustedEntity) (s : ServiceCert) : Prop where
  first : (soughtServices serviceTypeFilter entities).find? (fun x => stopsAt w p x.2) =
    some (m.entity, s)
  parses : w.certFromBase64Der s.certValue = some m.issuanceCert
  mode : matchCert w p.pinnedMode p.leaf p.last m.issuanceCert = some m.matchMode
  revocation : revocationCertOf w m.entity = .ok m.revocationCert

variable {w p} {serviceTypeFilter : String} {entities : List TrustedEntity}
  {m : MatchedTrustedEntity} {s : ServiceCert}

theorem soughtServices_cons (entity : TrustedEntity) :
    soughtServices serviceTypeFilter (entity :: entities) =
      (entity.services.filter (matchesFilter serviceTypeFilter)).map (fun s => (entity, s)) ++
        soughtServices serviceTypeFilter entities := List.flatMap_cons

theorem mem_soughtServices {entity : TrustedEntity} :
    (entity, s) ∈ soughtServices serviceTypeFilter entities ↔
      entity ∈ entities ∧ s ∈ entity.services ∧ matchesFilter serviceTypeFilter s = true := by
  unfold soughtServices
  rw [List.mem_flatMap]
  constructor
  · rintro ⟨entity', hentity, hs⟩
    obtain ⟨s', hs', heq⟩ := List.mem_map.mp hs
    cases heq
    exact ⟨hentity, List.mem_filter.mp hs'⟩
  · rintro ⟨hentity, hs⟩
    exact ⟨entity, hentity, List.mem_map.mpr ⟨s, List.mem_filter.mpr hs, rfl⟩⟩

/-! ## One service -/

theorem listedCert_ok {certValue : String} {cert : Certificate} :
    listedCert w certValue = .ok cert ↔ w.certFromBase64Der certValue = some cert := by
  unfold listedCert
  split
  · rename_i cert' hcert
    rw [hcert, Except.ok.injEq, Option.some.injEq]
  · rename_i hnone
    rw [hnone]
    exact ⟨nofun, nofun⟩

theorem parses_of_matchesPath (h : matchesPath w p s = true) : Parses w s := by
  unfold matchesPath at h
  unfold Parses
  cases hcert : w.certFromBase64Der s.certValue with
  | none => rw [hcert] at h; cases h
  | some cert => rfl

theorem matchesPath_iff : matchesPath w p s = true ↔
    ∃ cert, w.certFromBase64Der s.certValue = some cert ∧
      (matchCert w p.pinnedMode p.leaf p.last cert).isSome = true := by
  unfold matchesPath
  rw [Option.any_eq_true]

theorem stopsAt_eq_false : stopsAt w p s = false ↔ Parses w s ∧ matchesPath w p s = false := by
  unfold stopsAt
  rw [Bool.or_eq_false_iff, Bool.not_eq_false', decide_eq_true_eq]

theorem stopsAt_of_matchesPath (h : matchesPath w p s = true) : stopsAt w p s = true := by
  unfold stopsAt
  rw [h, Bool.or_true]

theorem MatchedService.matchesPath (h : MatchedService w p serviceTypeFilter entities m s) :
    matchesPath w p s = true :=
  matchesPath_iff.mpr ⟨m.issuanceCert, h.parses, by rw [h.mode]; rfl⟩

/-! ## All services -/

variable {entity : TrustedEntity} {services : List ServiceCert} {cert : Certificate}

theorem matchServices_unparsed (hcert : w.certFromBase64Der s.certValue = none) :
    matchServices w p.pinnedMode p.leaf p.last entity (s :: services) =
      .error "Cannot parse certificate" := by
  have herror : listedCert w s.certValue = .error "Cannot parse certificate" := by
    unfold listedCert
    rw [hcert]
  unfold matchServices
  rw [herror]
  rfl

theorem matchServices_passed (hcert : w.certFromBase64Der s.certValue = some cert)
    (hmatch : matchCert w p.pinnedMode p.leaf p.last cert = none) :
    matchServices w p.pinnedMode p.leaf p.last entity (s :: services) =
      matchServices w p.pinnedMode p.leaf p.last entity services := by
  rw [matchServices, listedCert_ok.mpr hcert]
  simp only [bind, Except.bind, hmatch]

theorem matchServices_matched {matchMode : MatchMode}
    (hcert : w.certFromBase64Der s.certValue = some cert)
    (hmatch : matchCert w p.pinnedMode p.leaf p.last cert = some matchMode) :
    matchServices w p.pinnedMode p.leaf p.last entity (s :: services) =
      revocationCertOf w entity >>= fun revocationCert =>
        .ok (some ⟨entity, cert, matchMode, revocationCert⟩) := by
  rw [matchServices, listedCert_ok.mpr hcert]
  simp only [bind, Except.bind, hmatch]
  rfl

theorem matchServices_iff (services : List ServiceCert) :
    (matchServices w p.pinnedMode p.leaf p.last entity services = .ok none ↔
      services.find? (stopsAt w p) = none) ∧
    (matchServices w p.pinnedMode p.leaf p.last entity services = .ok (some m) ↔
      m.entity = entity ∧ ∃ s, services.find? (stopsAt w p) = some s ∧
        w.certFromBase64Der s.certValue = some m.issuanceCert ∧
        matchCert w p.pinnedMode p.leaf p.last m.issuanceCert = some m.matchMode ∧
        revocationCertOf w entity = .ok m.revocationCert) := by
  induction services with
  | nil =>
    refine ⟨⟨fun _ => rfl, fun _ => rfl⟩, nofun, ?_⟩
    rintro ⟨-, s, hs, -⟩
    cases hs
  | cons svc services ih =>
    cases hcert : w.certFromBase64Der svc.certValue with
    | none =>
      have hstops : stopsAt w p svc = true := by simp [stopsAt, Parses, hcert]
      rw [matchServices_unparsed hcert, List.find?_cons_of_pos hstops]
      refine ⟨⟨nofun, nofun⟩, nofun, ?_⟩
      rintro ⟨-, s, hs, hparses, -⟩
      cases hs
      rw [hcert] at hparses
      cases hparses
    | some cert =>
      cases hmatch : matchCert w p.pinnedMode p.leaf p.last cert with
      | none =>
        have hpasses : stopsAt w p svc = false := by
          simp [stopsAt, Parses, matchesPath, hcert, hmatch]
        rw [matchServices_passed hcert hmatch, List.find?_cons_of_neg (by rw [hpasses]; decide)]
        exact ih
      | some matchMode =>
        have hstops : stopsAt w p svc = true := by simp [stopsAt, matchesPath, hcert, hmatch]
        rw [matchServices_matched hcert hmatch, List.find?_cons_of_pos hstops, bind_eq_ok,
          bind_eq_ok]
        constructor
        · refine ⟨?_, nofun⟩
          rintro ⟨revocationCert, -, h⟩
          cases h
        · constructor
          · rintro ⟨revocationCert, hrevocation, h⟩
            cases h
            exact ⟨rfl, svc, rfl, hcert, hmatch, hrevocation⟩
          · rintro ⟨rfl, s, hs, hparses, hmode, hrevocation⟩
            cases hs
            obtain rfl := Option.some.inj (hcert.symm.trans hparses)
            obtain rfl := Option.some.inj (hmatch.symm.trans hmode)
            exact ⟨m.revocationCert, hrevocation, rfl⟩

/-- **The match of a path** is with the first sought service that matches or does not parse. -/
theorem pathMatchesTrustedEntities_iff :
    pathMatchesTrustedEntities w p.leaf p.last p.pinnedMode serviceTypeFilter entities =
      .ok (some m) ↔ ∃ s, MatchedService w p serviceTypeFilter entities m s := by
  induction entities with
  | nil =>
    refine ⟨nofun, ?_⟩
    rintro ⟨s, hs⟩
    cases hs.first
  | cons entity entities ih =>
    have hone :
        (matchServices w p.pinnedMode p.leaf p.last entity
            (entity.services.filter (matchesFilter serviceTypeFilter)) = .ok none ↔ _) ∧ _ :=
      matchServices_iff (m := m) _
    have hfind : (soughtServices serviceTypeFilter (entity :: entities)).find?
        (fun x => stopsAt w p x.2) =
        (((entity.services.filter (matchesFilter serviceTypeFilter)).find? (stopsAt w p)).map
          fun s => (entity, s)).or
            ((soughtServices serviceTypeFilter entities).find? fun x => stopsAt w p x.2) := by
      rw [soughtServices_cons, List.find?_append, List.find?_map]
      rfl
    unfold pathMatchesTrustedEntities
    rw [bind_eq_ok]
    constructor
    · rintro ⟨found, hfound, h⟩
      cases found with
      | none =>
        obtain ⟨s, hs⟩ := ih.mp h
        refine ⟨s, ?_, hs.parses, hs.mode, hs.revocation⟩
        rw [hfind, hone.1.mp hfound]
        exact hs.first
      | some m' =>
        obtain rfl := Option.some.inj (Except.ok.inj h)
        obtain ⟨hentity, s, hs, hparses, hmode, hrevocation⟩ := hone.2.mp hfound
        refine ⟨s, ?_, hparses, hmode, by rw [hentity]; exact hrevocation⟩
        rw [hfind, hs, hentity]
        rfl
    · rintro ⟨s, hs⟩
      have hfirst := hs.first
      rw [hfind] at hfirst
      cases hfound : (entity.services.filter (matchesFilter serviceTypeFilter)).find?
          (stopsAt w p) with
      | none =>
        rw [hfound] at hfirst
        exact ⟨none, hone.1.mpr hfound, ih.mpr ⟨s, hfirst, hs.parses, hs.mode, hs.revocation⟩⟩
      | some s' =>
        rw [hfound] at hfirst
        cases hfirst
        exact ⟨some m, hone.2.mpr ⟨rfl, s, hfound, hs.parses, hs.mode, hs.revocation⟩, rfl⟩

/-- **The first service that matches** is the one that the search stops at, when it finds a
match. -/
theorem MatchedService.firstMatching (h : MatchedService w p serviceTypeFilter entities m s) :
    (soughtServices serviceTypeFilter entities).find? (fun x => ChainValidation.matchesPath w p x.2)
      = some (m.entity, s) := by
  obtain ⟨-, before, after, hsplit, hbefore⟩ := List.find?_eq_some_iff_append.mp h.first
  refine List.find?_eq_some_iff_append.mpr ⟨h.matchesPath, before, after, hsplit, fun x hx => ?_⟩
  have hpasses : stopsAt w p x.2 = false := Bool.not_eq_true' _ ▸ hbefore x hx
  rw [(stopsAt_eq_false.mp hpasses).2]
  rfl

theorem MatchedService.unique {m' : MatchedTrustedEntity} {s' : ServiceCert}
    (h : MatchedService w p serviceTypeFilter entities m s)
    (h' : MatchedService w p serviceTypeFilter entities m' s') : m = m' ∧ s = s' := by
  have hfirst := Option.some.inj (h.first.symm.trans h'.first)
  obtain ⟨hentity, rfl⟩ := Prod.mk.inj hfirst
  have hcert := Option.some.inj (h.parses.symm.trans h'.parses)
  have hmode := h.mode.symm.trans (hcert ▸ h'.mode)
  have hrevocation := h.revocation.symm.trans (hentity ▸ h'.revocation)
  cases m
  cases m'
  cases hentity
  cases hcert
  cases hmode
  cases hrevocation
  exact ⟨rfl, rfl⟩

/-! ## The path of a chain -/

/-- The store of a source, from this cache or collected now. -/
def UsesStore (w : ChainWorld) (cache : List (CachedStore w)) (source : Option LoteSource)
    (cached : CachedStore w) : Prop :=
  ∃ s, source = some s ∧ getTrustStore w cache s = .ok cached

/-- **The path by which a chain is checked** against a store. -/
structure ChecksPath (w : ChainWorld) (cache : List (CachedStore w)) (x5c : List String)
    (source : Option LoteSource) (cached : CachedStore w) (leaf : Certificate)
    (path : List Certificate) : Prop where
  store : UsesStore w cache source cached
  built : ∃ chain, x5c.mapM w.parseCertificate = some (leaf :: chain) ∧
    w.build (leaf :: chain ++ trustAnchors w cached.store) leaf = .ok path

/-- **The chain is checked by this service**: the search stops at it, and reports its entity. -/
def CheckedBy (w : ChainWorld) (cache : List (CachedStore w)) (x5c : List String)
    (source : Option LoteSource) (policy : ChainValidationPolicy) (m : MatchedTrustedEntity)
    (s : ServiceCert) : Prop :=
  ∃ cached leaf path, ChecksPath w cache x5c source cached leaf path ∧
    MatchedService w (endsOf policy leaf path) policy.serviceTypeFilter cached.store.entities m s

variable {cache : List (CachedStore w)} {x5c : List String} {source : Option LoteSource}
  {cached : CachedStore w} {policy : ChainValidationPolicy} {leaf : Certificate}
  {path : List Certificate}

theorem UsesStore.unique {cached' : CachedStore w} (h : UsesStore w cache source cached)
    (h' : UsesStore w cache source cached') : cached = cached' := by
  obtain ⟨s, rfl, hstore⟩ := h
  obtain ⟨s', hs, hstore'⟩ := h'
  obtain rfl := Option.some.inj hs
  exact Except.ok.inj (hstore.symm.trans hstore')

theorem ChecksPath.unique {cached' : CachedStore w} {leaf' : Certificate}
    {path' : List Certificate} (h : ChecksPath w cache x5c source cached leaf path)
    (h' : ChecksPath w cache x5c source cached' leaf' path') :
    cached = cached' ∧ leaf = leaf' ∧ path = path' := by
  obtain rfl := h.store.unique h'.store
  obtain ⟨chain, hpresented, hbuilt⟩ := h.built
  obtain ⟨chain', hpresented', hbuilt'⟩ := h'.built
  obtain ⟨rfl, rfl⟩ := List.cons.inj (Option.some.inj (hpresented.symm.trans hpresented'))
  exact ⟨rfl, rfl, Except.ok.inj (hbuilt.symm.trans hbuilt')⟩

theorem Matched.checksPath {chain : List Certificate}
    (h : Matched w cache x5c source policy leaf chain cached path m) :
    ChecksPath w cache x5c source cached leaf path := by
  obtain ⟨s, hs, -, hstore⟩ := h.store
  exact ⟨⟨s, hs, hstore⟩, chain, h.presented, h.built⟩

theorem Matched.matchedService {chain : List Certificate}
    (h : Matched w cache x5c source policy leaf chain cached path m) :
    ∃ s, MatchedService w (endsOf policy leaf path) policy.serviceTypeFilter
      cached.store.entities m s :=
  (pathMatchesTrustedEntities_iff (p := endsOf policy leaf path)).mp h.matched

/-- **A chain that is verified through an entity** is checked by one of its services. -/
theorem checkedBy_of_verified (h : VerifiedThrough w cache x5c source policy m) :
    ∃ s, CheckedBy w cache x5c source policy m s := by
  obtain ⟨leaf, chain, cached, path, hmatched, -⟩ := verifiedThrough_iff.mp h
  obtain ⟨s, hs⟩ := hmatched.matchedService
  exact ⟨s, cached, leaf, path, hmatched.checksPath, hs⟩

theorem CheckedBy.unique {s' : ServiceCert} (h : CheckedBy w cache x5c source policy m s)
    (h' : CheckedBy w cache x5c source policy m s') : s = s' := by
  obtain ⟨cached, leaf, path, hpath, hs⟩ := h
  obtain ⟨cached', leaf', path', hpath', hs'⟩ := h'
  obtain ⟨rfl, rfl, rfl⟩ := hpath.unique hpath'
  exact (hs.unique hs').2

theorem CheckedBy.mem (h : CheckedBy w cache x5c source policy m s) :
    s ∈ m.entity.services ∧ matchesFilter policy.serviceTypeFilter s = true := by
  obtain ⟨cached, leaf, path, -, hs⟩ := h
  exact (mem_soughtServices.mp (List.mem_of_find?_eq_some hs.first)).2

end ChainValidation

end Eudiplo
