import Eudiplo.Properties.IssuingCertificates
import Eudiplo.Shared.Base64
import Eudiplo.Verifier.Services

/-!
# The hints a wallet is given for a trust list

`credentialIssuerAuthorityKeyIdentifiers` takes the key identifier of a listed CA, and the authority
of a pinned certificate.  A chain that climbs to a CA over presented and listed issuers has one of
the values (`exists_step`); one that begins with the CA, or that the verifier completes, may have
none.
-/

namespace Eudiplo

open ChainValidation

namespace WalletHints

structure IssuerAuthorityKeyIdentifiers where
  values : List String
  complete : Bool

/-- **What is read** of certificates and managed lists. -/
structure Reader where
  /-- `new X509Certificate` of a PEM text, or of the bytes of a base64 text. -/
  parseCertificate : String → Option Certificate
  /-- `keyId` of the extension, whose text is hexadecimal. -/
  subjectKeyIdentifier : Certificate → Option (List UInt8)
  authorityKeyIdentifier : Certificate → Option (List UInt8)
  /-- The parsed content of a managed list. -/
  storedEntities : (tenantId trustListId : String) → Except String (List TrustedEntity)
  encodeURIComponent : String → String

variable (k : Reader)

def isIssuance (s : ServiceCert) : Bool :=
  ["PID", "EAA", "PubEAA"].any fun family => serviceTypeMatches s.serviceTypeIdentifier
    ("http://uri.etsi.org/19602/SvcType/" ++ family ++ "/Issuance")

def keyIdentifier (keyId : Option (List UInt8)) : Option String :=
  (keyId.filter (!·.isEmpty)).map fun bytes => String.ofList
    (((Base64.encode bytes).filter (· ≠ '=')).map fun c =>
      if c = '+' then '-' else if c = '/' then '_' else c)

def ski (cert : Certificate) : Option String := keyIdentifier (k.subjectKeyIdentifier cert)

def aki (cert : Certificate) : Option String := keyIdentifier (k.authorityKeyIdentifier cert)

/-- `add` of a set, in insertion order. -/
def addValue (values : List String) : Option String → List String
  | none => values
  | some value => if value ∈ values then values else values ++ [value]

def readService (r : IssuerAuthorityKeyIdentifiers) (s : ServiceCert) :
    IssuerAuthorityKeyIdentifiers :=
  if isIssuance s then
    match k.parseCertificate s.certValue with
    | none => { r with complete := false }
    | some cert =>
      let values := addValue r.values (ski k cert)
      if cert.ca then ⟨values, r.complete && (ski k cert).isSome⟩
      else ⟨addValue values (aki k cert), r.complete && (aki k cert).isSome⟩
  else r

/-- **`credentialIssuerAuthorityKeyIdentifiers`**. -/
def credentialIssuerAuthorityKeyIdentifiers (entities : List TrustedEntity) :
    IssuerAuthorityKeyIdentifiers :=
  (entities.flatMap (·.services)).foldl (readService k) ⟨[], true⟩

variable {w : ChainWorld} (cache : List (CachedStore w)) (tenantId tenantHost : String)
  (ref : TrustListRef) (refs : List TrustListRef)

def getListedEntities : Except String (List TrustedEntity) :=
  match ref.trustListId with
  | none => (fun cached => cached.store.entities) <$>
      ChainValidation.getTrustStore w cache { tenantId := some tenantId, lotes := [ref] }
  | some id => k.storedEntities tenantId (trimText id)

def authorityKeyIdentifiers : IssuerAuthorityKeyIdentifiers :=
  match getListedEntities k cache tenantId ref with
  | .ok entities => credentialIssuerAuthorityKeyIdentifiers k entities
  | .error _ => ⟨[], false⟩

def listUrl : Option String :=
  match (ref.trustListId.map trimText).filter (!·.isEmpty) with
  | some id => some (tenantHost ++ "/trust-list/" ++ k.encodeURIComponent id)
  | none => ref.url.filter (!·.isEmpty)

def unresolvedUrl : Option String :=
  let r := authorityKeyIdentifiers k cache tenantId ref
  if r.complete && !r.values.isEmpty then none else listUrl k tenantHost ref

structure WalletTrustedAuthority where
  type : String
  values : List String

def authority (type : String) (values : List String) : List WalletTrustedAuthority :=
  if values.isEmpty then [] else [⟨type, values⟩]

/-- **`toWalletAuthorities`**. -/
def toWalletAuthorities : List WalletTrustedAuthority :=
  authority "aki" ((refs.flatMap fun ref => (authorityKeyIdentifiers k cache tenantId ref).values)
    |>.foldl (fun values value => addValue values (some value)) []) ++
  authority "etsi_tl" (refs.filterMap (unresolvedUrl k cache tenantId tenantHost))

/-! ## The claim -/

def Listed (w : ChainWorld) (entities : List TrustedEntity) (cert : Certificate) : Prop :=
  ∃ entity ∈ entities, ∃ s ∈ entity.services, isIssuance s = true ∧
    w.certFromBase64Der s.certValue = some cert

/-- **What is assumed of key identifiers**: an authority is the key of the issuer, whoever is below
a listed CA names one, and both parsers read the same certificate. -/
structure KeysFollow (w : ChainWorld) (issuedBy : Certificate → Certificate → Prop)
    (entities : List TrustedEntity) : Prop where
  issuer : ∀ cert issuer value, issuedBy cert issuer → aki k cert = some value →
    ski k issuer = some value
  below : ∀ cert ca, Listed w entities ca → ca.ca = true → Relation.TransGen issuedBy cert ca →
    (aki k cert).isSome = true
  parsed : ∀ text cert cert', k.parseCertificate text = some cert →
    w.certFromBase64Der text = some cert' → cert = cert'

variable (w) in
/-- **The chain is verified through an issuance service of the list**, as a CA or a pinned leaf. -/
structure AcceptedThrough (entities : List TrustedEntity) (cache : List (CachedStore w))
    (x5c : List String) (source : Option LoteSource) (policy : ChainValidationPolicy)
    (m : MatchedTrustedEntity) : Prop where
  verified : VerifiedThrough w cache x5c source policy m
  listed : m.entity ∈ entities
  service : ∃ s, CheckedBy w cache x5c source policy m s ∧ isIssuance s = true
  mode : m.matchMode ≠ .pathEndPinned

def Presented (w : ChainWorld) (x5c : List String) (cert : Certificate) : Prop :=
  ∃ chain, x5c.mapM w.parseCertificate = some chain ∧ cert ∈ chain

/-- **A presented certificate has one of the values** as its authority. -/
def Hinted (w : ChainWorld) (values : List String) (x5c : List String) : Prop :=
  ∃ cert, Presented w x5c cert ∧ ∃ value ∈ values, aki k cert = some value

variable (w) in
/-- **The chain climbs to a CA**: it does not begin with it, and each certificate of the path is
presented, or listed for issuance. -/
def Climbs (entities : List TrustedEntity) (cache : List (CachedStore w)) (x5c : List String)
    (source : Option LoteSource) (m : MatchedTrustedEntity) : Prop :=
  m.matchMode = .ca → ∀ cached leaf path, ChecksPath w cache x5c source cached leaf path →
    leaf ≠ m.issuanceCert ∧ ∀ cert ∈ path, Presented w x5c cert ∨ Listed w entities cert

/-- **A list is not dropped**: its values are sent, and its URL unless they are complete. -/
def ListKept : Prop :=
  let r := authorityKeyIdentifiers k cache tenantId ref
  let sent (type value : String) := ∃ a ∈ toWalletAuthorities k cache tenantId tenantHost refs,
    a.type = type ∧ value ∈ a.values
  (∀ value ∈ r.values, sent "aki" value) ∧
    (r.complete = true ∧ r.values ≠ [] ∨ ∀ url ∈ listUrl k tenantHost ref, sent "etsi_tl" url)

/-! ## The values -/

section Values

variable {k} {r : IssuerAuthorityKeyIdentifiers} {s : ServiceCert} {cert : Certificate}
  {values : List String} {entities : List TrustedEntity} {v : String}
  {issuedBy : Certificate → Certificate → Prop}

theorem mem_addValue {value : Option String} :
    v ∈ addValue values value ↔ v ∈ values ∨ value = some v := by
  cases value with
  | none => simp [addValue]
  | some value =>
    by_cases hmem : value ∈ values <;> simp [addValue, hmem, eq_comm]
    rintro rfl
    exact hmem

theorem mem_addValues (vs values : List String) :
    v ∈ vs.foldl (fun values value => addValue values (some value)) values ↔
      v ∈ values ∨ v ∈ vs := by
  induction vs generalizing values with
  | nil => simp
  | cons value vs ih =>
    rw [List.foldl_cons, ih, mem_addValue, List.mem_cons, or_assoc, Option.some.injEq,
      eq_comm (a := v)]

variable (k) in
/-- The values hold the key of a certificate, and the authority of a pinned one. -/
structure Covers (values : List String) (cert : Certificate) : Prop where
  key : ∀ v, ski k cert = some v → v ∈ values
  authority : cert.ca = false → ∃ v ∈ values, aki k cert = some v

/-- **One service**: what is complete after it was before it, and its certificate is covered. -/
theorem readService_spec (h : (readService k r s).complete = true) :
    r.complete = true ∧ r.values ⊆ (readService k r s).values ∧ (isIssuance s = true →
      ∃ cert, k.parseCertificate s.certValue = some cert ∧
        Covers k (readService k r s).values cert) := by
  unfold readService at h ⊢
  cases hissuance : isIssuance s with
  | false => simpa [hissuance] using h
  | true =>
    rw [hissuance, if_pos rfl] at h
    rw [if_pos rfl]
    cases hcert : k.parseCertificate s.certValue with
    | none => simp [hcert] at h
    | some cert =>
      simp only [hcert] at h ⊢
      split at h <;> rename_i hca <;> rw [Bool.and_eq_true] at h
      · rw [if_pos hca]
        exact ⟨h.1, fun v hv => mem_addValue.mpr (.inl hv), fun _ => ⟨cert, rfl,
          fun v hv => mem_addValue.mpr (.inr hv), fun hnot => absurd (hca.symm.trans hnot) nofun⟩⟩
      · rw [if_neg hca]
        obtain ⟨value, hvalue⟩ := Option.isSome_iff_exists.mp h.2
        exact ⟨h.1, fun v hv => mem_addValue.mpr (.inl (mem_addValue.mpr (.inl hv))), fun _ =>
          ⟨cert, rfl, fun v hv => mem_addValue.mpr (.inl (mem_addValue.mpr (.inr hv))),
            fun _ => ⟨value, mem_addValue.mpr (.inr hvalue), hvalue⟩⟩⟩

theorem readServices_spec {services : List ServiceCert}
    (h : (services.foldl (readService k) r).complete = true) :
    r.complete = true ∧ r.values ⊆ (services.foldl (readService k) r).values ∧
      ∀ s ∈ services, isIssuance s = true → ∃ cert, k.parseCertificate s.certValue = some cert ∧
        Covers k (services.foldl (readService k) r).values cert := by
  induction services generalizing r with
  | nil => exact ⟨h, fun _ hv => hv, fun s hs => absurd hs List.not_mem_nil⟩
  | cons s services ih =>
    rw [List.foldl_cons] at h ⊢
    obtain ⟨hcomplete, hsubset, hrest⟩ := ih h
    obtain ⟨hbefore, hfirst, hcovered⟩ := readService_spec hcomplete
    refine ⟨hbefore, fun v hv => hsubset (hfirst hv), ?_⟩
    rintro s' (_ | ⟨_, hs'⟩) hissuance
    · obtain ⟨cert, hcert, hkey, hauthority⟩ := hcovered hissuance
      refine ⟨cert, hcert, fun v hv => hsubset (hkey v hv), fun hca => ?_⟩
      obtain ⟨v, hv, haki⟩ := hauthority hca
      exact ⟨v, hsubset hv, haki⟩
    · exact hrest s' hs' hissuance

/-- **A list whose values are complete** covers its issuance certificates. -/
theorem covers_listed (hkeys : KeysFollow k w issuedBy entities)
    (hcomplete : (credentialIssuerAuthorityKeyIdentifiers k entities).complete = true)
    (h : Listed w entities cert) :
    Covers k (credentialIssuerAuthorityKeyIdentifiers k entities).values cert := by
  obtain ⟨entity, hentity, s, hs, hissuance, hcert⟩ := h
  obtain ⟨-, -, hall⟩ := readServices_spec hcomplete
  obtain ⟨cert', hparsed, hcovers⟩ :=
    hall s (List.mem_flatMap.mpr ⟨entity, hentity, hs⟩) hissuance
  rwa [hkeys.parsed _ _ _ hparsed hcert] at hcovers

/-- **Each list is kept.** -/
theorem listKept {cache : List (CachedStore w)} {ref : TrustListRef} (href : ref ∈ refs) :
    ListKept k cache tenantId tenantHost ref refs := by
  have hsent {type v : String} {values : List String} (hv : v ∈ values) :
      ⟨type, values⟩ ∈ authority type values := by
    rw [authority, if_neg (by simpa using List.ne_nil_of_mem hv)]
    exact List.mem_singleton_self _
  constructor
  · intro value hvalue
    have hflat := List.mem_flatMap (f := fun ref => (authorityKeyIdentifiers k cache tenantId
      ref).values) |>.mpr ⟨ref, href, hvalue⟩
    have hmem := (mem_addValues _ []).mpr (.inr hflat)
    exact ⟨_, List.mem_append_left _ (hsent hmem), rfl, hmem⟩
  · by_cases hcovered : unresolvedUrl k cache tenantId tenantHost ref = listUrl k tenantHost ref
    · refine .inr fun url hurl => ?_
      have hmem := List.mem_filterMap.mpr ⟨ref, href, hcovered.trans hurl⟩
      exact ⟨_, List.mem_append_right _ (hsent hmem), rfl, hmem⟩
    · unfold unresolvedUrl at hcovered
      exact .inl (by simpa using (ite_ne_right_iff.mp hcovered).1)

/-! ## The path -/

/-- On a path from a presented certificate to a listed one, all of whose certificates are one or the
other, there is a step from the presented to the listed. -/
theorem exists_step {α : Type} {r : α → α → Prop} {presented listed : α → Prop} {a b : α}
    {path : List α} (hlinked : (a :: b :: path).IsChain r) (hfirst : presented a)
    (hlast : listed ((b :: path).getLast (List.cons_ne_nil b path)))
    (hall : ∀ c ∈ b :: path, presented c ∨ listed c) :
    ∃ c d, presented c ∧ r c d ∧ listed d ∧
      Relation.ReflTransGen r d ((b :: path).getLast (List.cons_ne_nil b path)) := by
  induction path generalizing a b with
  | nil => exact ⟨a, b, hfirst, hlinked.rel, hlast, .refl⟩
  | cons d path ih =>
    obtain ⟨hstep, hrest⟩ := List.isChain_cons_cons.mp hlinked
    obtain hpresented | hlisted := hall b List.mem_cons_self
    · exact ih hrest hpresented hlast fun c hc => hall c (List.mem_cons_of_mem b hc)
    · exact ⟨a, b, hfirst, hstep, hlisted,
        List.relationReflTransGen_of_exists_isChain_cons _ hrest rfl⟩

/-- **Whoever climbs is hinted at.** -/
theorem hinted_of_climbs {builder : ChainBuilder issuedBy}
    {cache : List (CachedStore (w.using builder))} {x5c : List String} {source : Option LoteSource}
    {policy : ChainValidationPolicy} {m : MatchedTrustedEntity}
    (hkeys : KeysFollow k w issuedBy entities)
    (hcomplete : (credentialIssuerAuthorityKeyIdentifiers k entities).complete = true)
    (h : AcceptedThrough (w.using builder) entities cache x5c source policy m)
    (hclimbs : Climbs (w.using builder) entities cache x5c source m) :
    Hinted k w (credentialIssuerAuthorityKeyIdentifiers k entities).values x5c := by
  obtain ⟨s, hchecked, hissuance⟩ := h.service
  have hservice := hchecked.mem.1
  obtain ⟨cached, leaf, path, hpath, hs⟩ := hchecked
  obtain ⟨chain, hpresented, hbuilt⟩ := hpath.built
  obtain ⟨hhead, hlinked, -⟩ := builder.sound _ _ _ hbuilt
  obtain ⟨rest, rfl⟩ := List.head?_eq_some_iff.mp hhead
  have hlisted : Listed w entities m.issuanceCert :=
    ⟨m.entity, h.listed, s, hservice, hissuance, hs.parses⟩
  have hleaf : Presented w x5c leaf := ⟨_, hpresented, List.mem_cons_self⟩
  have hmode := hs.mode
  unfold matchCert endsOf at hmode
  cases hca : m.issuanceCert.ca with
  | false =>
    -- pinned: it is the leaf, whose authority is one of the values
    have heq : m.issuanceCert = leaf := by
      rw [hca, if_neg (by simp)] at hmode
      split at hmode
      · rename_i heq
        exact w.thumbprint_injective (eq_of_beq (Bool.and_eq_true_iff.mp heq).2)
      · split at hmode
        · exact absurd (Option.some.inj hmode).symm h.mode
        · cases hmode
    exact ⟨leaf, hleaf, heq ▸ (covers_listed hkeys hcomplete hlisted).authority hca⟩
  | true =>
    -- a CA: some presented certificate is issued by a listed one
    rw [hca, if_pos rfl] at hmode
    split at hmode
    · rename_i heq
      have hend : m.issuanceCert = (leaf :: rest).getLast?.getD leaf :=
        w.thumbprint_injective (eq_of_beq heq)
      obtain ⟨hne, hall⟩ := hclimbs (Option.some.inj hmode).symm _ _ _ hpath
      cases rest with
      | nil => exact absurd hend.symm hne
      | cons b rest =>
        rw [List.getLast?_cons_cons, List.getLast?_eq_getLast_of_ne_nil (List.cons_ne_nil b rest),
          Option.getD_some] at hend
        obtain ⟨cert, issuer, hcert, hissued, hissuer, hup⟩ := exists_step hlinked hleaf
          (hend ▸ hlisted) fun c hc => hall c (List.mem_cons_of_mem leaf hc)
        obtain ⟨v, haki⟩ := Option.isSome_iff_exists.mp
          (hkeys.below _ _ hlisted hca (.head' hissued (hend ▸ hup)))
        exact ⟨cert, hcert, v, (covers_listed hkeys hcomplete hissuer).key v
          (hkeys.issuer _ _ _ hissued haki), haki⟩
    · cases hmode

end Values

/-! ## A list with a root -/

def market : TrustedEntity where
  services := [⟨"http://uri.etsi.org/19602/SvcType/PID/Issuance", "root"⟩,
    ⟨"http://uri.etsi.org/19602/SvcType/PID/Revocation", "shop"⟩]

def marketWorld : ChainWorld :=
  { bazaar with loadVerified := fun _ _ => .ok { entities := [market] } }

/-- Who is below whom. -/
def below (cert issuer : Certificate) : Prop :=
  (cert.der, issuer.der) ∈ [("forged", "shop"), ("shop", "root")]

def marketReader : Reader where
  parseCertificate := bazaarCert
  subjectKeyIdentifier := fun cert => some [if cert.der = "root" then 1 else 2]
  authorityKeyIdentifier := fun cert =>
    if cert.der = "root" then none else some [if cert.der = "shop" then 1 else 2]
  storedEntities := fun _ _ => .ok [market]
  encodeURIComponent := id

theorem keysFollow_market : KeysFollow marketReader marketWorld below [market] where
  issuer := by
    rintro ⟨der, _⟩ ⟨der', _⟩ v hbelow haki
    simp only [below, List.mem_cons, Prod.mk.injEq, List.not_mem_nil, or_false] at hbelow
    obtain ⟨rfl, rfl⟩ | ⟨rfl, rfl⟩ := hbelow <;> exact haki
  below := by
    rintro ⟨der, _⟩ ca - - hup
    obtain ⟨⟨der', _⟩, hbelow, -⟩ := Relation.TransGen.head'_iff.mp hup
    simp only [below, List.mem_cons, Prod.mk.injEq, List.not_mem_nil, or_false] at hbelow
    obtain ⟨rfl, -⟩ | ⟨rfl, -⟩ := hbelow <;> rfl
  parsed := fun text cert cert' h h' => Option.some.inj (h.symm.trans h')

theorem accepted {x5c : List String} {builder : ChainBuilder below}
    (h : VerifiedThrough (marketWorld.using builder) [] x5c (some oneList) (policyWith none)
      ⟨market, certOf "root" true, .ca, none⟩) :
    AcceptedThrough (marketWorld.using builder) [market] [] x5c (some oneList) (policyWith none)
      ⟨market, certOf "root" true, .ca, none⟩ := by
  obtain ⟨s, hs⟩ := checkedBy_of_verified h
  refine ⟨h, List.mem_singleton_self _, ⟨s, hs, ?_⟩, nofun⟩
  obtain ⟨hmem, htype⟩ := hs.mem
  rcases List.mem_pair.mp hmem with rfl | rfl
  · decide
  · exact absurd htype (by decide)

theorem root_path : IssuancePath below [certOf "root" true, certOf "root" true, certOf "shop" false]
    (certOf "root" true) [certOf "root" true] := ⟨rfl, by simp, by simp⟩

theorem forged_path (shop : List Certificate) : IssuancePath below
    (certOf "forged" false :: shop ++ [certOf "root" true, certOf "shop" false])
    (certOf "forged" false)
    [certOf "forged" false, certOf "shop" false, certOf "root" true] where
  head := rfl
  linked := by
    unfold below
    decide
  pooled := by simp

end WalletHints

open WalletHints

/-- **The hints cover a chain that climbs** to a listed CA or begins with a pinned leaf, and no list
is dropped. -/
theorem wallet_hints_cover (w : ChainWorld) {issuedBy : Certificate → Certificate → Prop}
    (builder : ChainBuilder issuedBy) (k : Reader) :
    (∀ entities cache x5c source policy m, KeysFollow k w issuedBy entities →
      (credentialIssuerAuthorityKeyIdentifiers k entities).complete = true →
      AcceptedThrough (w.using builder) entities cache x5c source policy m →
      Climbs (w.using builder) entities cache x5c source m →
      Hinted k w (credentialIssuerAuthorityKeyIdentifiers k entities).values x5c) ∧
    ∀ (cache : List (CachedStore w)) tenantId tenantHost refs, ∀ ref ∈ refs,
      ListKept k cache tenantId tenantHost ref refs :=
  ⟨fun _ _ _ _ _ _ hkeys hcomplete h => hinted_of_climbs hkeys hcomplete h,
    fun _ _ _ _ _ => listKept _ _ _⟩

/-- The shop's certificate is presented. -/
theorem wallet_hints_cover_shop : Hinted marketReader marketWorld
    (credentialIssuerAuthorityKeyIdentifiers marketReader [market]).values ["forged", "shop"] := by
  refine (wallet_hints_cover marketWorld (.constant _ _ _ (forged_path [certOf "shop" false]))
    marketReader).1 [market] [] ["forged", "shop"] (some oneList) (policyWith none) _
    keysFollow_market (by rfl) (accepted ⟨_, by rfl, rfl, rfl⟩) ?_
  intro _ cached leaf path hpath
  obtain ⟨chain, hchain, hbuilt⟩ := hpath.built
  cases hchain
  dsimp only [ChainWorld.using, ChainBuilder.constant] at hbuilt
  split at hbuilt <;> cases hbuilt
  refine ⟨by decide, ?_⟩
  rintro cert (_ | ⟨_, _ | ⟨_, _ | ⟨_, ⟨⟩⟩⟩⟩)
  · exact .inl ⟨_, rfl, .head _⟩
  · exact .inl ⟨_, rfl, .tail _ (.head _)⟩
  · exact .inr ⟨market, .head _, _, .head _, by decide, rfl⟩

/-- **Nobody is hinted at** when the root is presented, or the shop's certificate is not. -/
theorem not_wallet_hints_cover :
    KeysFollow marketReader marketWorld below [market] ∧
    (credentialIssuerAuthorityKeyIdentifiers marketReader [market]).complete = true ∧
    ∀ der ∈ ["root", "forged"], ∃ builder : ChainBuilder below, ∃ m,
      AcceptedThrough (marketWorld.using builder) [market] [] [der] (some oneList)
        (policyWith none) m ∧
      ¬Hinted marketReader marketWorld
        (credentialIssuerAuthorityKeyIdentifiers marketReader [market]).values [der] := by
  refine ⟨keysFollow_market, by rfl, ?_⟩
  rintro der (_ | ⟨_, _ | ⟨_, ⟨⟩⟩⟩)
  · refine ⟨.constant _ _ _ root_path, _, accepted ⟨_, by rfl, rfl, rfl⟩, ?_⟩
    rintro ⟨cert, ⟨chain, hchain, hcert⟩, v, -, haki⟩
    cases hchain
    cases List.mem_singleton.mp hcert
    cases haki
  · refine ⟨.constant _ _ _ (forged_path []), _, accepted ⟨_, by rfl, rfl, rfl⟩, ?_⟩
    rintro ⟨cert, ⟨chain, hchain, hcert⟩, v, hv, haki⟩
    cases hchain
    cases List.mem_singleton.mp hcert
    cases haki
    exact absurd hv (by decide)

end Eudiplo
