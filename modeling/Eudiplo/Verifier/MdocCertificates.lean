import Eudiplo.Verifier.Chain

/-!
# The trusted certificates of an mdoc

`getTrustedCertificateBuffers`, `getTrustedStatusCertificateBuffers` and `buildTrustedCertificates`,
which hands the certificates of all entities to the mdoc library in one entry.  Reading a
certificate and building a chain are parameters. -/

namespace Eudiplo

open ChainValidation

namespace MdocStatus

abbrev Der := String

/-- **The X.509 library**: `rawData` of a listed certificate, and of the bytes of one, which are
their own. -/
structure X509 where
  Chain : Type
  rawData : String → Option Der
  parse : Der → Option Der
  chainsTo : Chain → Der → Prop
  parse_rawData : ∀ certValue der, rawData certValue = some der → parse der = some der

variable (x : X509)

/-- The certificates of the services of an entity whose type ends so; those that cannot be parsed
are left out. -/
def serviceCerts (suffix : String) (entity : TrustedEntity) : List Der :=
  let services := entity.services.filter fun s =>
    suffix.toList.isSuffixOf s.serviceTypeIdentifier.toList
  services.filterMap fun s => x.rawData s.certValue

def getTrustedCertificateBuffers (store : Option BuiltTrustStore) : List Der :=
  match store with
  | none => []
  | some store => store.entities.flatMap (serviceCerts x "/Issuance")

def getTrustedStatusCertificateBuffers (store : Option BuiltTrustStore) : List Der :=
  match store with
  | none => []
  | some store => store.entities.flatMap (serviceCerts x "/Revocation")

def normalizeDer (certificate : Der) : Der :=
  (x.parse certificate).getD certificate

structure TrustedCertificates where
  issuance : List Der
  status : Option (List Der)

def buildTrustedCertificates (trustedAnchors trustedStatusAnchors : List Der)
    (issuerX5Chain : Option (List Der)) (attachStatus : Bool) : List TrustedCertificates :=
  let issuanceAnchorsRaw :=
    if trustedAnchors.length > 0 then trustedAnchors else issuerX5Chain.getD []
  let issuanceAnchors := issuanceAnchorsRaw.map (normalizeDer x)
  let statusAnchorsForMdocRaw :=
    if trustedStatusAnchors.length > 0 then trustedStatusAnchors else issuanceAnchorsRaw
  let statusAnchorsForMdoc := statusAnchorsForMdocRaw.map (normalizeDer x)
  if issuanceAnchors.length > 0 then
    [⟨issuanceAnchors,
      if attachStatus ∧ statusAnchorsForMdoc.length > 0 then some statusAnchorsForMdoc else none⟩]
  else []

/-- The trusted certificates of `verify`, from the trust store and the chain of the document. -/
def mdocTrustedCertificates (store : Option BuiltTrustStore) (issuerX5Chain : Option (List Der))
    (attachStatus : Bool) : List TrustedCertificates :=
  buildTrustedCertificates x (getTrustedCertificateBuffers x store)
    (getTrustedStatusCertificateBuffers x store) issuerX5Chain attachStatus

/-- **The mdoc library accepts a status token**: it chains to a status certificate of an entry that
has an issuance certificate the document chains to. -/
def AcceptsStatus (entries : List TrustedCertificates) (document token : x.Chain) : Prop :=
  ∃ entry ∈ entries, (∃ c ∈ entry.issuance, x.chainsTo document c) ∧
    ∃ c ∈ entry.status.getD [], x.chainsTo token c

end MdocStatus

end Eudiplo

/-!
# Who signs the status list of an mdoc?

The status certificates of all entities are in one entry, so a token of the revocation service of
any of them is accepted.  It is one of the issuer's own entity exactly if no other entity has a
revocation service for which the own one does not speak (`OwnRevocation`). -/

namespace Eudiplo

open ChainValidation

namespace MdocStatus

variable {x : X509} {store : BuiltTrustStore} {entity : TrustedEntity}
  {issuerX5Chain : Option (List Der)} {document token : x.Chain} {attachStatus : Bool}

/-! ## The claim -/

def ListsRevocation (entity : TrustedEntity) : Prop :=
  ∃ s ∈ entity.services, "/Revocation".toList.isSuffixOf s.serviceTypeIdentifier.toList = true

variable (x) in
/-- **The issuer resolves to an entity** of the store that lists a revocation service: the document
chains to its issuance service. -/
structure ResolvesTo (store : BuiltTrustStore) (document : x.Chain) (entity : TrustedEntity) :
    Prop where
  listed : entity ∈ store.entities
  chains : ∃ c ∈ serviceCerts x "/Issuance" entity, x.chainsTo document c
  revocation : ListsRevocation entity

variable (x) in
def OfRevocation (entity : TrustedEntity) (token : x.Chain) : Prop :=
  ∃ c ∈ serviceCerts x "/Revocation" entity, x.chainsTo token c

variable (x) in
/-- **The own service speaks for all**: a token of another entity's revocation service is one of its
own too.  If no revocation certificate can be parsed, there is none at all, and the issuance
certificates that stand in for them have no tokens. -/
structure OwnRevocation (store : BuiltTrustStore) (entity : TrustedEntity) : Prop where
  others : ∀ other ∈ store.entities, ∀ token, OfRevocation x other token →
    OfRevocation x entity token
  fallback : (∀ other ∈ store.entities, serviceCerts x "/Revocation" other = []) →
    ∀ other ∈ store.entities, ∀ c ∈ serviceCerts x "/Issuance" other, ∀ token,
      ¬x.chainsTo token c

/-! ## Anchors -/

theorem normalizeDer_of_mem {suffix : String} {c : Der} (h : c ∈ serviceCerts x suffix entity) :
    normalizeDer x c = c := by
  obtain ⟨s, -, hs⟩ := List.mem_filterMap.mp h
  unfold normalizeDer
  rw [x.parse_rawData _ _ hs]
  rfl

theorem map_normalizeDer {suffix : String} (entities : List TrustedEntity) :
    (entities.flatMap (serviceCerts x suffix)).map (normalizeDer x) =
      entities.flatMap (serviceCerts x suffix) := by
  refine (List.map_congr_left fun c hc => ?_).trans (List.map_id _)
  obtain ⟨other, -, hmem⟩ := List.mem_flatMap.mp hc
  exact normalizeDer_of_mem hmem

theorem exists_flatMap {suffix : String} {entities : List TrustedEntity} :
    (∃ c ∈ entities.flatMap (serviceCerts x suffix), x.chainsTo token c) ↔
      ∃ other ∈ entities, ∃ c ∈ serviceCerts x suffix other, x.chainsTo token c := by
  constructor
  · rintro ⟨c, hc, htoken⟩
    obtain ⟨other, hother, hmem⟩ := List.mem_flatMap.mp hc
    exact ⟨other, hother, c, hmem, htoken⟩
  · rintro ⟨other, hother, c, hmem, htoken⟩
    exact ⟨c, List.mem_flatMap.mpr ⟨other, hother, hmem⟩, htoken⟩

/-- **Which tokens are accepted**: those of the revocation certificates of all entities, or of all
issuance certificates if there are none of the former. -/
theorem acceptsStatus_iff (h : ResolvesTo x store document entity) :
    AcceptsStatus x (mdocTrustedCertificates x (some store) issuerX5Chain attachStatus) document
      token ↔
      attachStatus = true ∧ if store.entities.flatMap (serviceCerts x "/Revocation") = [] then
          ∃ other ∈ store.entities, ∃ c ∈ serviceCerts x "/Issuance" other, x.chainsTo token c
        else ∃ other ∈ store.entities, OfRevocation x other token := by
  obtain ⟨anchor, hanchor, hdocument⟩ := h.chains
  have hmem : anchor ∈ store.entities.flatMap (serviceCerts x "/Issuance") :=
    List.mem_flatMap.mpr ⟨entity, h.listed, hanchor⟩
  have hpos := List.length_pos_of_mem hmem
  unfold mdocTrustedCertificates buildTrustedCertificates getTrustedCertificateBuffers
    getTrustedStatusCertificateBuffers AcceptsStatus OfRevocation
  simp only [if_pos hpos, map_normalizeDer, List.mem_singleton, exists_eq_left]
  rw [and_iff_right ⟨anchor, hmem, hdocument⟩]
  by_cases hnone : store.entities.flatMap (serviceCerts x "/Revocation") = []
  · simp only [hnone, List.length_nil, Nat.lt_irrefl, gt_iff_lt, if_false, if_true,
      map_normalizeDer, hpos, and_true]
    cases attachStatus with
    | false => simp
    | true => exact exists_flatMap.trans (and_iff_right rfl).symm
  · have hpos' := List.length_pos_of_ne_nil hnone
    simp only [hnone, gt_iff_lt, if_false, if_true, map_normalizeDer, hpos', and_true]
    cases attachStatus with
    | false => simp
    | true => exact exists_flatMap.trans (and_iff_right rfl).symm

theorem acceptsStatus_of_listed {other : TrustedEntity} (h : ResolvesTo x store document entity)
    (hother : other ∈ store.entities) (htoken : OfRevocation x other token) :
    AcceptsStatus x (mdocTrustedCertificates x (some store) issuerX5Chain true) document token := by
  have ⟨c, hc, _⟩ := htoken
  refine (acceptsStatus_iff h).mpr ⟨rfl, ?_⟩
  rw [if_neg (List.ne_nil_of_mem (List.mem_flatMap.mpr ⟨other, hother, hc⟩))]
  exact ⟨other, hother, htoken⟩

end MdocStatus

open MdocStatus

/-- **A status token is one of the issuer's own entity**, exactly if its revocation service speaks
for those of all others. -/
theorem mdoc_status_of_own_entity (x : X509) (store : BuiltTrustStore)
    (issuerX5Chain : Option (List Der)) (document : x.Chain) (entity : TrustedEntity)
    (hissuer : ResolvesTo x store document entity) :
    (∀ attachStatus token,
      AcceptsStatus x (mdocTrustedCertificates x (some store) issuerX5Chain attachStatus) document
        token → OfRevocation x entity token) ↔ OwnRevocation x store entity := by
  constructor
  · intro h
    constructor
    · exact fun other hother token htoken =>
        h true token (acceptsStatus_of_listed hissuer hother htoken)
    · intro hnone other hother c hc token htoken
      obtain ⟨own, hown, -⟩ := h true token ((acceptsStatus_iff hissuer).mpr ⟨rfl, by
        rw [if_pos (List.flatMap_eq_nil_iff.mpr hnone)]
        exact ⟨other, hother, c, hc, htoken⟩⟩)
      rw [hnone entity hissuer.listed] at hown
      cases hown
  · rintro ⟨hothers, hfallback⟩ attachStatus token haccepted
    obtain ⟨-, h⟩ := (acceptsStatus_iff hissuer).mp haccepted
    split at h
    · rename_i hnone
      obtain ⟨other, hother, c, hc, htoken⟩ := h
      exact absurd htoken (hfallback (List.flatMap_eq_nil_iff.mp hnone) other hother c hc token)
    · obtain ⟨other, hother, htoken⟩ := h
      exact hothers other hother token htoken

namespace MdocStatus

/-! ## Tokens of others -/

def named : X509 where
  Chain := String
  rawData := some
  parse := some
  chainsTo := fun chain der => chain = der
  parse_rawData := fun _ _ _ => rfl

def entityOf (name : String) : TrustedEntity where
  entityId := some name
  services := [
    ⟨"http://uri.etsi.org/19602/SvcType/EAA/Issuance", name ++ " issuer"⟩,
    ⟨"http://uri.etsi.org/19602/SvcType/EAA/Revocation", name ++ " revoker"⟩]

def storeOf (entities : List TrustedEntity) : BuiltTrustStore := ⟨0, none, entities⟩

theorem serviceCerts_entityOf (name : String) :
    serviceCerts named "/Issuance" (entityOf name) = [name ++ " issuer"] ∧
      serviceCerts named "/Revocation" (entityOf name) = [name ++ " revoker"] := by
  have hissuance : "/Issuance".toList.isSuffixOf
      "http://uri.etsi.org/19602/SvcType/EAA/Issuance".toList = true := by decide
  have hother : "/Issuance".toList.isSuffixOf
      "http://uri.etsi.org/19602/SvcType/EAA/Revocation".toList = false := by decide
  have hrevocation : "/Revocation".toList.isSuffixOf
      "http://uri.etsi.org/19602/SvcType/EAA/Revocation".toList = true := by decide
  have hother' : "/Revocation".toList.isSuffixOf
      "http://uri.etsi.org/19602/SvcType/EAA/Issuance".toList = false := by decide
  unfold serviceCerts entityOf
  constructor
  · simp only [List.filter_cons, hissuance, hother]
    rfl
  · simp only [List.filter_cons, hrevocation, hother']
    rfl

theorem listsRevocation_entityOf (name : String) : ListsRevocation (entityOf name) := by
  have hrevocation : "/Revocation".toList.isSuffixOf
      "http://uri.etsi.org/19602/SvcType/EAA/Revocation".toList = true := by decide
  exact ⟨_, List.mem_cons_of_mem _ List.mem_cons_self, hrevocation⟩

theorem resolvesTo_entityOf {name : String} {entities : List TrustedEntity}
    (h : entityOf name ∈ entities) :
    ResolvesTo named (storeOf entities) (name ++ " issuer") (entityOf name) := by
  refine ⟨h, ⟨name ++ " issuer", ?_, rfl⟩, listsRevocation_entityOf name⟩
  rw [(serviceCerts_entityOf name).1]
  exact List.mem_singleton_self _

end MdocStatus

/-- A store with one entity. -/
theorem mdoc_status_of_own_entity_alone :
    OwnRevocation named (storeOf [entityOf "a"]) (entityOf "a") ∧ ∀ attachStatus token,
      AcceptsStatus named (mdocTrustedCertificates named (some (storeOf [entityOf "a"])) none
        attachStatus) "a issuer" token → OfRevocation named (entityOf "a") token := by
  have hown : OwnRevocation named (storeOf [entityOf "a"]) (entityOf "a") := by
    constructor
    · intro other hother token htoken
      obtain rfl := List.mem_singleton.mp hother
      exact htoken
    · intro hnone
      have h := hnone (entityOf "a") List.mem_cons_self
      rw [(serviceCerts_entityOf "a").2] at h
      cases h
  exact ⟨hown, (mdoc_status_of_own_entity named (storeOf [entityOf "a"]) none "a issuer"
    (entityOf "a") (resolvesTo_entityOf List.mem_cons_self)).mpr hown⟩

/-- A token of another entity's revocation service is accepted. -/
theorem not_mdoc_status_of_own_entity :
    ¬∀ (x : X509) (store : BuiltTrustStore) (issuerX5Chain : Option (List Der))
      (document : x.Chain) (entity : TrustedEntity), ResolvesTo x store document entity →
      ∀ attachStatus token,
        AcceptsStatus x (mdocTrustedCertificates x (some store) issuerX5Chain attachStatus) document
          token → OfRevocation x entity token := by
  intro h
  have hresolves : ResolvesTo named (storeOf [entityOf "a", entityOf "b"]) "a issuer"
      (entityOf "a") := resolvesTo_entityOf List.mem_cons_self
  have hother : OfRevocation named (entityOf "b") "b revoker" :=
    ⟨"b revoker", by rw [(serviceCerts_entityOf "b").2]; exact List.mem_singleton_self _, rfl⟩
  obtain ⟨c, hc, htoken⟩ := h named (storeOf [entityOf "a", entityOf "b"]) none "a issuer"
    (entityOf "a") hresolves true "b revoker"
    (acceptsStatus_of_listed hresolves (List.mem_cons_of_mem _ List.mem_cons_self) hother)
  rw [(serviceCerts_entityOf "a").2] at hc
  have hc' : c = "a revoker" := List.mem_singleton.mp hc
  have htoken' : "b revoker" = c := htoken
  exact absurd (htoken'.trans hc') (by decide)

end Eudiplo
