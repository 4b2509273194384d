import Eudiplo.Portability.ResourceRoutes

/-!
# The guard finds the resource of a request
-/

namespace Eudiplo

open Portability ImportJournal

namespace ResourceRoutes

variable (numeral : Int → Nat → String)

def RouteMatch.target (found : RouteMatch) : Target := ⟨found.ref, found.tenantId⟩

/-- **The guard finds what the handler changes.** -/
def Guarded (method : MutatingMethod) (path : String) (body : Json) (target : Target) : Prop :=
  (matchRoute numeral method path body).map RouteMatch.target = some target

/-- No pattern in front of those of items takes this segment for something else. -/
structure Free (body : Json) (item : String) : Prop where
  bundles : ¬StartsBundles item
  sessionConfig : item ≠ "session-config"
  statusListConfig : item ≠ "status-list-config"
  tenant : item = "tenant" → namedId numeral "id" body = none

/-- The path of an item also ends like the one that creates such a resource, and the body names
the item. -/
def NamedInBody (kind : ConfigResourceKind) (segments : List String) (body : Json) (id : String) :
    Prop :=
  ∃ route ∈ collectionRoutes, route.2.1 = kind ∧ (∃ base ∈ route.1, base <:+ segments) ∧
    namedId numeral route.2.2 body = some id

/-- **The path is spelled as the guard spells it**: literals in lower case, parameters that are
their own decoding and no literal of another pattern, and a created resource is named in the body as
it is stored. -/
def Route.Plain (route : Route) (segments : List String) (body : Json) (target : Target) : Prop :=
  match route.action with
  | .singleton _ => segments = route.base
  | .item =>
    -- a path may also be found as that of a creation, if the body happens to name the item
    (segments = route.base ++ [target.ref.id] ∧ Free numeral body target.ref.id ∧
      (route.kind = .KeyChain → target.ref.id ≠ "import")) ∨
    NamedInBody numeral route.kind segments body target.ref.id
  | .tenantItem =>
    (∃ id, target.tenantId = some id ∧ segments = ["tenant", id] ∧ ¬StartsBundles id) ∨
    (segments.getLast? = some "tenant" ∧ namedId numeral "id" body = target.tenantId)
  | .rotateSecret => segments = ["client", target.ref.id, "rotate-secret"] ∧
      ¬StartsBundles target.ref.id ∧ target.ref.id ≠ "tenant"
  | .create field _ =>
    -- an import in another case is found as a key of that name
    (segments = route.base ∧ namedId numeral field body = some target.ref.id) ∨
    (route.base = ["key-chain", "import"] ∧ segments = ["key-chain", target.ref.id] ∧
      target.ref.id ≠ "import")
  | .createTenant => segments = ["tenant"] ∧ namedId numeral "id" body = target.tenantId
  | .generate _ =>
    (segments = route.base ∧ namedId numeral "id" body = some target.ref.id) ∨
    (route.base = ["key-chain", "import"] ∧ segments = ["key-chain", target.ref.id] ∧
      target.ref.id ≠ "import")

/-! ## Literals -/

def literals : List String :=
  ["tenant", "key-chain", "providers", "config", "issuer", "registrar", "session-config",
    "status-list-config", "client", "rotate-secret", "credentials", "verifier",
    "attribute-providers", "webhook-endpoints", "import", "trust-list", "status-lists"]

variable {numeral} {segment literal : String}

theorem SameLetters.ne_literals (h : SameLetters segment literal) :
    ∀ other ∈ literals, ¬SameLetters other literal → segment ≠ other :=
  fun _ _ hne heq => hne (heq ▸ h)

theorem SameLetters.not_startsBundles (h : SameLetters segment literal)
    (hliteral : ¬StartsBundles literal) : ¬StartsBundles segment := by
  intro hstarts
  refine hliteral ?_
  have hmap := List.IsPrefix.map Char.toLower hstarts
  rw [h] at hmap
  exact hmap

/-! ## The patterns -/

theorem goesOn_iff {base rest : List String} :
    goesOn base rest = true ↔ ∃ post, post ≠ [] ∧ rest = base ++ post := by
  induction base generalizing rest with
  | nil =>
    rw [goesOn, Bool.not_eq_true', List.isEmpty_eq_false_iff]
    exact ⟨fun h => ⟨rest, h, rfl⟩, fun ⟨_, hpost, h⟩ => h ▸ hpost⟩
  | cons b base ih =>
    cases rest with
    | nil => simp [goesOn]
    | cons t rest =>
      rw [goesOn, Bool.and_eq_true, ih, beq_iff_eq]
      constructor
      · rintro ⟨rfl, post, hpost, rfl⟩
        exact ⟨post, hpost, rfl⟩
      · rintro ⟨post, hpost, h⟩
        obtain ⟨rfl, rfl⟩ := List.cons.inj h
        exact ⟨rfl, post, hpost, rfl⟩

theorem endsIn_iff {base segments : List String} :
    endsIn base segments = true ↔ ∃ pre, pre ≠ [] ∧ segments = pre ++ base := by
  rw [endsIn, goesOn_iff]
  constructor
  · rintro ⟨post, hpost, h⟩
    refine ⟨post.reverse, fun hnil => hpost (List.reverse_eq_nil_iff.mp hnil), ?_⟩
    rw [← List.reverse_reverse segments, h, List.reverse_append, List.reverse_reverse]
  · rintro ⟨pre, hpre, rfl⟩
    exact ⟨pre.reverse, fun hnil => hpre (List.reverse_eq_nil_iff.mp hnil),
      List.reverse_append⟩

theorem endsIn_api {base segments : List String} {api : String} (h : api ∉ base) :
    endsIn base ("" :: api :: segments) = true ↔ base <:+ segments := by
  rw [endsIn_iff]
  constructor
  · rintro ⟨pre, hpre, hsegments⟩
    match pre, hpre with
    | [first], _ =>
      refine absurd ?_ h
      rw [← show api :: segments = base from (List.cons.inj hsegments).2]
      exact List.mem_cons_self
    | first :: second :: pre, _ =>
      exact ⟨pre, (List.cons.inj (List.cons.inj hsegments).2).2.symm⟩
  · rintro ⟨pre, rfl⟩
    exact ⟨"" :: api :: pre, nofun, rfl⟩

/-! ## Creation -/

theorem collection_unique : ∀ route ∈ collectionRoutes, ∀ base ∈ route.1,
    ∀ route' ∈ collectionRoutes, ∀ base' ∈ route'.1, base.getLast? = base'.getLast? →
      route = route' := by
  decide +kernel

theorem collection_base : ∀ route ∈ collectionRoutes, ∀ base ∈ route.1,
    base ≠ [] ∧ ∀ literal ∈ base, literal ∈ literals := by
  decide +kernel

theorem findSome?_of_unique {α β : Type} {f : α → Option β} {l : List α} {a : α} {b : β}
    (hmem : a ∈ l) (ha : f a = some b) (h : ∀ a' ∈ l, ∀ b', f a' = some b' → b' = b) :
    l.findSome? f = some b := by
  cases hfind : l.findSome? f with
  | none => exact absurd ha (by rw [List.findSome?_eq_none_iff.mp hfind a hmem]; nofun)
  | some b' =>
    obtain ⟨a', hmem', ha'⟩ := List.exists_of_findSome?_eq_some hfind
    rw [h a' hmem' b' ha']

variable {method : MutatingMethod} {body : Json} {api : String} {segments : List String}
  {kind : ConfigResourceKind} {id : String}

theorem getLast?_of_suffix {base segments : List String} (hbase : base ≠ [])
    (h : base <:+ segments) : segments.getLast? = base.getLast? := by
  obtain ⟨pre, rfl⟩ := h
  rw [List.getLast?_append, List.getLast?_eq_some_getLast hbase, Option.some_or]

theorem api_ne_literals (hapi : SameLetters api "api") : ∀ other ∈ literals, api ≠ other :=
  fun other hmem => hapi.ne_literals other hmem
    ((by decide : ∀ literal ∈ literals, ¬SameLetters literal "api") other hmem)

/-- **A creation is found by the id in its body.** -/
theorem matchCollection_iff (hapi : SameLetters api "api") :
    (matchCollection numeral ("" :: api :: segments) body).map RouteMatch.target =
        some ⟨⟨kind, id⟩, none⟩ ↔
      NamedInBody numeral kind segments body id := by
  have hends : ∀ route ∈ collectionRoutes,
      (route.1.any (endsIn · ("" :: api :: segments)) = true ↔
        ∃ base ∈ route.1, base <:+ segments) := by
    intro route hroute
    rw [List.any_eq_true]
    refine exists_congr fun base => and_congr_right fun hbase => endsIn_api fun hmem => ?_
    exact api_ne_literals hapi api ((collection_base route hroute base hbase).2 api hmem) rfl
  -- the routes whose patterns match are one
  have hunique : ∀ route ∈ collectionRoutes, ∀ route' ∈ collectionRoutes,
      (∃ base ∈ route.1, base <:+ segments) → (∃ base ∈ route'.1, base <:+ segments) →
        route = route' := by
    rintro route hroute route' hroute' ⟨base, hbase, hsuffix⟩ ⟨base', hbase', hsuffix'⟩
    refine collection_unique route hroute base hbase route' hroute' base' hbase' ?_
    rw [← getLast?_of_suffix (collection_base route hroute base hbase).1 hsuffix,
      getLast?_of_suffix (collection_base route' hroute' base' hbase').1 hsuffix']
  constructor
  · intro h
    obtain ⟨found, hfound, htarget⟩ := Option.map_eq_some_iff.mp h
    obtain ⟨route, hroute, hmatch⟩ := List.exists_of_findSome?_eq_some hfound
    split at hmatch
    · rename_i hany
      obtain ⟨id', hnamed, rfl⟩ := Option.map_eq_some_iff.mp hmatch
      cases htarget
      exact ⟨route, hroute, rfl, (hends route hroute).mp hany, hnamed⟩
    · cases hmatch
  · rintro ⟨route, hroute, rfl, hbase, hnamed⟩
    have hfound : matchCollection numeral ("" :: api :: segments) body =
        some ⟨⟨route.2.1, id⟩, true, none⟩ := by
      refine findSome?_of_unique hroute ?_ fun route' hroute' found hfound => ?_
      · rw [if_pos ((hends route hroute).mpr hbase), hnamed]
        rfl
      · split at hfound
        · rename_i hany
          obtain rfl := hunique route hroute route' hroute' hbase ((hends route' hroute').mp hany)
          rw [hnamed] at hfound
          exact (Option.some.inj hfound).symm
        · cases hfound
    rw [hfound]
    rfl

/-! ## The patterns before -/

theorem matchTenant_item {pre : List String} {collection item : String}
    (hcollection : collection ≠ "tenant") :
    matchTenant numeral (pre ++ [collection, item]) body =
      if item = "tenant" then
        (namedId numeral "id" body).map fun id => ⟨⟨.Tenant, "tenant"⟩, true, some id⟩
      else none := by
  simp [matchTenant, itemIn, endsIn, goesOn, hcollection]

theorem matchSingleton_item {pre : List String} {collection item : String}
    (hissuer : collection ≠ "issuer") (hregistrar : collection ≠ "registrar")
    (hproviders : collection ≠ "providers") :
    matchSingleton method (pre ++ [collection, item]) =
      if item = "session-config" ∨ item = "status-list-config" then
        some ⟨⟨.Tenant, "tenant"⟩, method = .POST, none⟩
      else none := by
  by_cases hsession : item = "session-config"
  · simp [matchSingleton, singletonRoutes, endsIn, goesOn, hsession]
  · by_cases hstatus : item = "status-list-config"
    · simp [matchSingleton, singletonRoutes, endsIn, goesOn, hstatus]
    · simp [matchSingleton, singletonRoutes, endsIn, goesOn, hsession, hstatus, hissuer,
        hregistrar, hproviders]

theorem collection_last : ∀ route ∈ collectionRoutes, ∀ base ∈ route.1, ∀ last ∈ base.getLast?,
    ¬StartsBundles last ∧ last ≠ "tenant" ∧ last ≠ "session-config" ∧
      last ≠ "status-list-config" ∧ decodeURIComponent last = some last := by
  decide +kernel

theorem NamedInBody.last {pre : List String} {item : String}
    (h : NamedInBody numeral kind (pre ++ [item]) body id) :
    ¬StartsBundles item ∧ item ≠ "tenant" ∧ item ≠ "session-config" ∧
      item ≠ "status-list-config" ∧ decodeURIComponent item = some item := by
  obtain ⟨route, hroute, -, ⟨base, hbase, hsuffix⟩, -⟩ := h
  refine collection_last route hroute base hbase item ?_
  rw [← getLast?_of_suffix (collection_base route hroute base hbase).1 hsuffix,
    List.getLast?_append]
  rfl

/-! ## Items -/

/-- What stands in front of the patterns of items: a free item is left to them, and another one is
taken for a tenant or for a bundle. -/
theorem matchSegments_front {pre : List String} {collection item : String}
    {rest : Option RouteMatch}
    (hapi : ¬StartsBundles api) (hpre : ∀ segment ∈ pre ++ [collection], ¬StartsBundles segment)
    (htenant : collection ≠ "tenant") (hissuer : collection ≠ "issuer")
    (hregistrar : collection ≠ "registrar") (hproviders : collection ≠ "providers")
    (hkind : kind ≠ .Tenant)
    (hrest : (matchItem ("" :: api :: pre ++ [collection, item]) <|>
      matchCollection numeral ("" :: api :: pre ++ [collection, item]) body) = rest) :
    (matchSegments numeral method ("" :: api :: pre ++ [collection, item]) body).map
        RouteMatch.target = some ⟨⟨kind, id⟩, none⟩ ↔
      Free numeral body item ∧ rest.map RouteMatch.target = some ⟨⟨kind, id⟩, none⟩ := by
  have hstarts : (∃ segment ∈ ("" :: api :: pre ++ [collection, item]).tail,
      StartsBundles segment) ↔ StartsBundles item := by
    constructor
    · rintro ⟨segment, hmem, hsegment⟩
      have hmem' : segment = api ∨ segment ∈ pre ++ [collection] ∨ segment = item := by
        simpa [or_assoc] using hmem
      obtain rfl | hmem' | rfl := hmem'
      · exact absurd hsegment hapi
      · exact absurd hsegment (hpre segment hmem')
      · exact hsegment
    · exact fun h => ⟨item, by simp, h⟩
  unfold matchSegments
  by_cases hbundles : StartsBundles item
  · rw [if_pos (hstarts.mpr hbundles)]
    exact ⟨nofun, fun h => absurd hbundles h.1.bundles⟩
  rw [if_neg (mt hstarts.mp hbundles), hrest, matchTenant_item htenant,
    matchSingleton_item hissuer hregistrar hproviders]
  have hother : ∀ {result : Option RouteMatch} (found : RouteMatch), result = some found →
      found.ref.kind = .Tenant → ¬(result.map RouteMatch.target = some ⟨⟨kind, id⟩, none⟩) := by
    rintro result found rfl hfound h
    have href := congrArg (·.ref.kind) (Option.some.inj h)
    exact hkind (href.symm.trans hfound)
  by_cases hsingleton : item = "session-config" ∨ item = "status-list-config"
  · have hitem : item ≠ "tenant" := by
      rintro rfl
      exact absurd hsingleton (by decide)
    rw [if_neg hitem, if_pos hsingleton]
    exact ⟨fun h => absurd h (hother _ rfl rfl), fun h => absurd hsingleton
      (not_or.mpr ⟨h.1.sessionConfig, h.1.statusListConfig⟩)⟩
  obtain ⟨hsession, hstatus⟩ := not_or.mp hsingleton
  rw [if_neg hsingleton]
  by_cases hitem : item = "tenant"
  · rw [if_pos hitem]
    cases hnamed : namedId numeral "id" body with
    | some tenantId =>
      exact ⟨fun h => absurd h (hother _ rfl rfl), fun h => nomatch
        hnamed.symm.trans (h.1.tenant hitem)⟩
    | none => exact ⟨fun h => ⟨⟨hbundles, hsession, hstatus, fun _ => hnamed⟩, h⟩, fun h => h.2⟩
  · rw [if_neg hitem]
    exact ⟨fun h => ⟨⟨hbundles, hsession, hstatus, fun h => absurd h hitem⟩, h⟩, fun h => h.2⟩

theorem NamedInBody.free {pre : List String} {item : String}
    (h : NamedInBody numeral kind (pre ++ [item]) body id) :
    Free numeral body item ∧ decodeURIComponent item = some item :=
  ⟨⟨h.last.1, h.last.2.2.1, h.last.2.2.2.1, fun htenant => absurd htenant h.last.2.1⟩,
    h.last.2.2.2.2⟩

/-- **A path that ends with an item** is guarded if its own pattern matches, and the item is free;
or as a creation. -/
theorem matchSegments_item {pre : List String} {collection item : String} (own : Prop)
    [Decidable own] (hapi : SameLetters api "api")
    (hpre : ∀ segment ∈ pre ++ [collection], ¬StartsBundles segment)
    (htenant : collection ≠ "tenant") (hissuer : collection ≠ "issuer")
    (hregistrar : collection ≠ "registrar") (hproviders : collection ≠ "providers")
    (hkind : kind ≠ .Tenant) (hid : decodeURIComponent item = some id)
    (hmatch : matchItem ("" :: api :: pre ++ [collection, item]) =
      if own then some ⟨⟨kind, item⟩, false, none⟩ else none) :
    (matchSegments numeral method ("" :: api :: pre ++ [collection, item]) body).map
        RouteMatch.target = some ⟨⟨kind, id⟩, none⟩ ↔
      (own ∧ item = id ∧ Free numeral body id) ∨
        NamedInBody numeral kind (pre ++ [collection, item]) body id := by
  have hsplit : pre ++ [collection, item] = (pre ++ [collection]) ++ [item] := by
    rw [List.append_assoc, List.singleton_append]
  rw [matchSegments_front (hapi.not_startsBundles (by decide)) hpre htenant hissuer hregistrar
    hproviders hkind rfl, hmatch]
  by_cases hown : own
  · rw [if_pos hown]
    have htarget : (some (⟨⟨kind, item⟩, false, none⟩ : RouteMatch) <|>
        matchCollection numeral ("" :: api :: pre ++ [collection, item]) body).map
          RouteMatch.target = some ⟨⟨kind, id⟩, none⟩ ↔ item = id :=
      ⟨fun h => congrArg (·.ref.id) (Option.some.inj h), fun h => h ▸ rfl⟩
    rw [htarget]
    constructor
    · rintro ⟨hfree, rfl⟩
      exact .inl ⟨hown, rfl, hfree⟩
    · rintro (⟨-, rfl, hfree⟩ | hnamed)
      · exact ⟨hfree, rfl⟩
      · rw [hsplit] at hnamed
        exact ⟨hnamed.free.1, Option.some.inj (hnamed.free.2.symm.trans hid)⟩
  · rw [if_neg hown]
    have htarget : (none <|>
        matchCollection numeral ("" :: api :: pre ++ [collection, item]) body).map
          RouteMatch.target = some ⟨⟨kind, id⟩, none⟩ ↔
        NamedInBody numeral kind (pre ++ [collection, item]) body id :=
      matchCollection_iff hapi
    rw [htarget]
    constructor
    · exact fun h => .inr h.2
    · rintro (h | hnamed)
      · exact absurd h.1 hown
      · refine ⟨?_, hnamed⟩
        rw [hsplit] at hnamed
        exact hnamed.free.1

/-! ## The patterns of items -/

def singleBases : List (String × ConfigResourceKind) :=
  [("client", .Client), ("trust-list", .TrustList), ("status-lists", .StatusList)]

def doubleBases : List (String × String × ConfigResourceKind) :=
  [("issuer", "credentials", .CredentialConfig), ("verifier", "config", .PresentationConfig),
    ("issuer", "attribute-providers", .AttributeProvider),
    ("issuer", "webhook-endpoints", .WebhookEndpoint)]

theorem matchItem_single {collection item : String} (hbase : (literal, kind) ∈ singleBases)
    (hapi : SameLetters api "api") (hcollection : SameLetters collection literal)
    (hitem : item ≠ "") :
    matchItem ("" :: api :: [] ++ [collection, item]) =
      if collection = literal then some ⟨⟨kind, item⟩, false, none⟩ else none := by
  have hapi' := api_ne_literals hapi
  have hother := hcollection.ne_literals
  simp only [literals, List.forall_mem_cons, List.not_mem_nil] at hapi'
  simp only [singleBases, List.mem_cons, Prod.mk.injEq, List.not_mem_nil, or_false] at hbase
  by_cases hspelled : collection = literal
  · subst hspelled
    obtain ⟨rfl, rfl⟩ | ⟨rfl, rfl⟩ | ⟨rfl, rfl⟩ := hbase <;>
      simp [matchItem, itemRoutes, clientItem, keyChainItem, itemIn, goesOn, hitem, hapi']
  · obtain ⟨rfl, rfl⟩ | ⟨rfl, rfl⟩ | ⟨rfl, rfl⟩ := hbase <;>
      simp +decide only [literals, List.forall_mem_cons, List.not_mem_nil] at hother <;>
      simp [matchItem, itemRoutes, clientItem, keyChainItem, itemIn, goesOn, hspelled, hapi',
        hother]

theorem matchItem_keyChain {collection item : String} (hapi : SameLetters api "api")
    (hcollection : SameLetters collection "key-chain") (hitem : item ≠ "") :
    matchItem ("" :: api :: [] ++ [collection, item]) =
      if collection = "key-chain" ∧ item ≠ "import" then some ⟨⟨.KeyChain, item⟩, false, none⟩
      else none := by
  have hapi' := api_ne_literals hapi
  have hother := hcollection.ne_literals
  simp only [literals, List.forall_mem_cons, List.not_mem_nil] at hapi'
  simp +decide only [literals, List.forall_mem_cons, List.not_mem_nil] at hother
  by_cases hspelled : collection = "key-chain"
  · by_cases himport : item = "import"
    · simp [matchItem, itemRoutes, clientItem, keyChainItem, itemIn, goesOn, hspelled, himport]
    · simp [matchItem, itemRoutes, clientItem, keyChainItem, itemIn, goesOn, hspelled, himport,
        hitem, hapi']
  · simp [matchItem, itemRoutes, clientItem, keyChainItem, itemIn, goesOn, hspelled, hapi', hother]

theorem matchItem_double {first second collection item : String}
    (hbase : (literal, second, kind) ∈ doubleBases) (hfirst : SameLetters first literal)
    (hcollection : SameLetters collection second)
    (hitem : item ≠ "") :
    matchItem ("" :: api :: [first] ++ [collection, item]) =
      if first = literal ∧ collection = second then some ⟨⟨kind, item⟩, false, none⟩
      else none := by
  have hfirst' := hfirst.ne_literals
  have hother := hcollection.ne_literals
  simp only [doubleBases, List.mem_cons, Prod.mk.injEq, List.not_mem_nil, or_false] at hbase
  by_cases hspelled : first = literal ∧ collection = second
  · obtain ⟨rfl, rfl⟩ := hspelled
    obtain ⟨rfl, rfl, rfl⟩ | ⟨rfl, rfl, rfl⟩ | ⟨rfl, rfl, rfl⟩ | ⟨rfl, rfl, rfl⟩ := hbase <;>
      simp [matchItem, itemRoutes, clientItem, itemIn, goesOn, hitem]
  · rw [if_neg hspelled]
    obtain ⟨rfl, rfl, rfl⟩ | ⟨rfl, rfl, rfl⟩ | ⟨rfl, rfl, rfl⟩ | ⟨rfl, rfl, rfl⟩ := hbase <;>
      simp +decide only [literals, List.forall_mem_cons, List.not_mem_nil] at hfirst' hother <;>
      obtain hne | hne := not_and_or.mp hspelled <;>
      simp [matchItem, itemRoutes, clientItem, keyChainItem, itemIn, goesOn, hne, hfirst', hother]

/-! ## Tenants -/

theorem tenantId_of_rest {rest : List String} {found : RouteMatch}
    (h : (matchSingleton method rest <|> matchItem rest <|>
      matchCollection numeral rest body) = some found) : found.tenantId = none := by
  simp only [Option.orElse_eq_orElse, Option.orElse_eq_or] at h
  obtain h | ⟨-, h⟩ := Option.or_eq_some_iff.mp h
  · obtain ⟨route, -, hroute⟩ := List.exists_of_findSome?_eq_some h
    split at hroute
    · cases hroute
      rfl
    · cases hroute
  obtain h | ⟨-, h⟩ := Option.or_eq_some_iff.mp h
  · obtain ⟨route, -, hroute⟩ := List.exists_of_findSome?_eq_some h
    obtain ⟨id, -, rfl⟩ := Option.map_eq_some_iff.mp hroute
    rfl
  · obtain ⟨route, -, hroute⟩ := List.exists_of_findSome?_eq_some h
    split at hroute
    · obtain ⟨id, -, rfl⟩ := Option.map_eq_some_iff.mp hroute
      rfl
    · cases hroute

theorem matchSegments_tenant {rest : List String}
    (hbundles : ¬∃ segment ∈ rest.tail, StartsBundles segment) :
    (matchSegments numeral method rest body).map RouteMatch.target =
        some ⟨⟨.Tenant, "tenant"⟩, some id⟩ ↔
      (matchTenant numeral rest body).map RouteMatch.target =
        some ⟨⟨.Tenant, "tenant"⟩, some id⟩ := by
  unfold matchSegments
  rw [if_neg hbundles]
  cases htenant : matchTenant numeral rest body with
  | some found => rfl
  | none =>
    refine ⟨fun h => ?_, nofun⟩
    obtain ⟨found, hfound, htarget⟩ := Option.map_eq_some_iff.mp h
    cases (tenantId_of_rest hfound).symm.trans (congrArg Target.tenantId htarget)

theorem matchSegments_tenantItem {collection item : String} (hapi : SameLetters api "api")
    (hcollection : SameLetters collection "tenant") (hitem : item ≠ "")
    (hid : decodeURIComponent item = some id) :
    (matchSegments numeral method ["", api, collection, item] body).map RouteMatch.target =
        some ⟨⟨.Tenant, "tenant"⟩, some id⟩ ↔
      (collection = "tenant" ∧ item = id ∧ ¬StartsBundles id) ∨
        (item = "tenant" ∧ namedId numeral "id" body = some id) := by
  have hbapi := hapi.not_startsBundles (by decide)
  have hbcollection := hcollection.not_startsBundles (by decide)
  have hdecoded : item = "tenant" → item = id := by
    rintro rfl
    exact Option.some.inj ((by decide +kernel : decodeURIComponent "tenant" =
      some "tenant").symm.trans hid)
  by_cases hbundles : StartsBundles item
  · have hnone : matchSegments numeral method ["", api, collection, item] body = none :=
      if_pos ⟨item, by simp, hbundles⟩
    rw [hnone]
    refine ⟨nofun, ?_⟩
    rintro (⟨-, rfl, hfree⟩ | ⟨rfl, -⟩)
    · exact absurd hbundles hfree
    · exact absurd hbundles (by decide)
  rw [matchSegments_tenant (by simp [hbapi, hbcollection, hbundles])]
  by_cases hspelled : collection = "tenant"
  · have hfound : matchTenant numeral ["", api, collection, item] body =
        some ⟨⟨.Tenant, "tenant"⟩, false, some item⟩ := by
      simp [matchTenant, itemIn, goesOn, hspelled, hitem]
    rw [hfound]
    constructor
    · intro h
      obtain rfl := Option.some.inj (congrArg Target.tenantId (Option.some.inj h))
      exact .inl ⟨hspelled, rfl, hbundles⟩
    · rintro (⟨-, rfl, -⟩ | ⟨rfl, -⟩)
      · rfl
      · rw [← hdecoded rfl]
        rfl
  · rw [show ["", api, collection, item] = ["", api] ++ [collection, item] from rfl,
      matchTenant_item hspelled]
    by_cases htenant : item = "tenant"
    · rw [if_pos htenant, Option.map_map]
      constructor
      · intro h
        obtain ⟨tenantId, hnamed, htarget⟩ := Option.map_eq_some_iff.mp h
        cases htarget
        exact .inr ⟨htenant, hnamed⟩
      · rintro (⟨h, -⟩ | ⟨-, hnamed⟩)
        · exact absurd h hspelled
        · rw [hnamed]
          rfl
    · rw [if_neg htenant]
      exact ⟨nofun, fun h => h.elim (fun h => absurd h.1 hspelled) fun h => absurd h.1 htenant⟩

theorem matchSegments_createTenant {collection : String} (hapi : SameLetters api "api")
    (hcollection : SameLetters collection "tenant") :
    (matchSegments numeral method ["", api, collection] body).map RouteMatch.target =
        some ⟨⟨.Tenant, "tenant"⟩, some id⟩ ↔
      collection = "tenant" ∧ namedId numeral "id" body = some id := by
  have hbapi := hapi.not_startsBundles (by decide)
  have hbcollection := hcollection.not_startsBundles (by decide)
  have htenant := api_ne_literals hapi "tenant" (by decide)
  rw [matchSegments_tenant (by simp [hbapi, hbcollection])]
  by_cases hspelled : collection = "tenant"
  · have hfound : matchTenant numeral ["", api, collection] body =
        (namedId numeral "id" body).map fun id => ⟨⟨.Tenant, "tenant"⟩, true, some id⟩ := by
      simp [matchTenant, itemIn, endsIn, goesOn, hspelled, htenant]
    rw [hfound, Option.map_map]
    constructor
    · intro h
      obtain ⟨tenantId, hnamed, htarget⟩ := Option.map_eq_some_iff.mp h
      cases htarget
      exact ⟨hspelled, hnamed⟩
    · rintro ⟨-, hnamed⟩
      rw [hnamed]
      rfl
  · have hnone : matchTenant numeral ["", api, collection] body = none := by
      simp [matchTenant, itemIn, endsIn, goesOn, hspelled, htenant]
    rw [hnone]
    exact ⟨nofun, fun h => absurd h.1 hspelled⟩

/-! ## Creations and resources that are one of their kind -/

theorem spells_nil (h : Spells [] segments) : segments = [] := List.forall₂_nil_right_iff.mp h

theorem spells_cons {base : List String} (h : Spells (literal :: base) segments) :
    ∃ segment rest, segments = segment :: rest ∧ SameLetters segment literal ∧
      Spells base rest := by
  obtain ⟨segment, rest, hsegment, hrest, rfl⟩ := List.forall₂_cons_right_iff.mp h
  exact ⟨segment, rest, rfl, hsegment, hrest⟩

theorem matchSegments_single {collection : String}
    (hbase : (literal, kind) ∈ ("key-chain", .KeyChain) :: singleBases)
    (hapi : SameLetters api "api") (hcollection : SameLetters collection literal) :
    matchSegments numeral method ["", api, collection] body =
      matchCollection numeral ["", api, collection] body := by
  have hapi' := api_ne_literals hapi
  have hother := hcollection.ne_literals
  have hbapi := hapi.not_startsBundles (by decide)
  simp only [literals, List.forall_mem_cons, List.not_mem_nil] at hapi'
  simp only [singleBases, List.mem_cons, Prod.mk.injEq, List.not_mem_nil, or_false] at hbase
  have hfront : matchTenant numeral ["", api, collection] body = none ∧
      matchSingleton method ["", api, collection] = none ∧
      matchItem ["", api, collection] = none ∧ ¬StartsBundles collection := by
    obtain ⟨rfl, rfl⟩ | ⟨rfl, rfl⟩ | ⟨rfl, rfl⟩ | ⟨rfl, rfl⟩ := hbase <;>
      simp +decide only [literals, List.forall_mem_cons, List.not_mem_nil] at hother <;>
      simp [matchTenant, matchSingleton, singletonRoutes, endsIn, matchItem, itemRoutes, clientItem,
        keyChainItem, itemIn, goesOn, hapi', hother, hcollection.not_startsBundles (by decide)]
  obtain ⟨htenant, hsingleton, hitem, hbcollection⟩ := hfront
  rw [matchSegments, if_neg (by simp [hbapi, hbcollection]), htenant, hsingleton, hitem]
  rfl

theorem matchSegments_double {first second collection : String}
    (hbase : (literal, second, kind) ∈ doubleBases) (hapi : SameLetters api "api")
    (hfirst : SameLetters first literal) (hcollection : SameLetters collection second) :
    matchSegments numeral method ["", api, first, collection] body =
      matchCollection numeral ["", api, first, collection] body := by
  have hapi' := api_ne_literals hapi
  have hfirst' := hfirst.ne_literals
  have hother := hcollection.ne_literals
  have hbapi := hapi.not_startsBundles (by decide)
  simp only [literals, List.forall_mem_cons, List.not_mem_nil] at hapi'
  simp only [doubleBases, List.mem_cons, Prod.mk.injEq, List.not_mem_nil, or_false] at hbase
  have hfront : matchTenant numeral ["", api, first, collection] body = none ∧
      matchSingleton method ["", api, first, collection] = none ∧
      matchItem ["", api, first, collection] = none ∧ ¬StartsBundles first ∧
      ¬StartsBundles collection := by
    obtain ⟨rfl, rfl, rfl⟩ | ⟨rfl, rfl, rfl⟩ | ⟨rfl, rfl, rfl⟩ | ⟨rfl, rfl, rfl⟩ := hbase <;>
      simp +decide only [literals, List.forall_mem_cons, List.not_mem_nil] at hfirst' hother <;>
      simp [matchTenant, matchSingleton, singletonRoutes, endsIn, matchItem, itemRoutes, clientItem,
        keyChainItem, itemIn, goesOn, hapi', hfirst', hother, hfirst.not_startsBundles (by decide),
        hcollection.not_startsBundles (by decide)]
  obtain ⟨htenant, hsingleton, hitem, hbfirst, hbcollection⟩ := hfront
  rw [matchSegments, if_neg (by simp [hbapi, hbfirst, hbcollection]), htenant, hsingleton, hitem]
  rfl

theorem collection_base_unique : ∀ route ∈ collectionRoutes, ∀ base ∈ route.1,
    ∀ route' ∈ collectionRoutes, ∀ base' ∈ route'.1, ∀ last ∈ base.getLast?,
      ∀ last' ∈ base'.getLast?, SameLetters last' last → base' = base := by
  decide +kernel

theorem Spells.getLast? {base : List String} {last : String} (h : Spells base segments)
    (hlast : segments.getLast? = some last) :
    ∃ literal ∈ base.getLast?, SameLetters last literal := by
  have hmap : segments.map (fun segment => segment.toList.map Char.toLower) =
      base.map String.toList := by
    clear hlast
    induction h with
    | nil => rfl
    | cons hsegment _ ih => exact congrArg₂ List.cons hsegment ih
  have hlast' := congrArg List.getLast? hmap
  rw [List.getLast?_map, List.getLast?_map, hlast] at hlast'
  obtain ⟨literal, hliteral, heq⟩ := Option.map_eq_some_iff.mp hlast'.symm
  exact ⟨literal, hliteral, heq.symm⟩

theorem namedInBody_of_spells {route : List (List String) × ConfigResourceKind × String}
    {base : List String} (hroute : route ∈ collectionRoutes) (hbase : base ∈ route.1)
    (hspells : Spells base segments) :
    NamedInBody numeral route.2.1 segments body id ↔
      segments = base ∧ namedId numeral route.2.2 body = some id := by
  constructor
  · rintro ⟨route', hroute', hkind, ⟨base', hbase', hsuffix⟩, hnamed⟩
    have hne := (collection_base route' hroute' base' hbase').1
    have hlast := getLast?_of_suffix hne hsuffix
    rw [List.getLast?_eq_some_getLast hne] at hlast
    obtain ⟨literal, hliteral, hletters⟩ := hspells.getLast? hlast
    obtain rfl := collection_base_unique route hroute base hbase route' hroute' base' hbase'
      literal hliteral _ (List.getLast?_eq_some_getLast hne) hletters
    obtain rfl := collection_unique route hroute base' hbase route' hroute' base' hbase' rfl
    exact ⟨(hsuffix.eq_of_length hspells.length_eq.symm).symm, hnamed⟩
  · rintro ⟨rfl, hnamed⟩
    exact ⟨route, hroute, rfl, ⟨_, hbase, List.suffix_rfl⟩, hnamed⟩

/-- **The import of a key** whose last literal is in another case is read as one of a key of that
name. -/
theorem matchSegments_import {collection last : String} (hapi : SameLetters api "api")
    (hcollection : SameLetters collection "key-chain") (hlast : SameLetters last "import") :
    (matchSegments numeral method ["", api, collection, last] body).map RouteMatch.target =
        some ⟨⟨.KeyChain, id⟩, none⟩ ↔
      (collection = "key-chain" ∧ last = "import" ∧ namedId numeral "id" body = some id) ∨
        (collection = "key-chain" ∧ last = id ∧ id ≠ "import") := by
  have hother := hlast.ne_literals
  simp +decide only [literals, List.forall_mem_cons, List.not_mem_nil] at hother
  have hbcollection := hcollection.not_startsBundles (by decide)
  have hother' := hcollection.ne_literals
  simp +decide only [literals, List.forall_mem_cons, List.not_mem_nil] at hother'
  have hempty : last ≠ "" := by
    rintro rfl
    exact absurd hlast (by decide)
  have hfree : Free numeral body last := by
    refine ⟨hlast.not_startsBundles (by decide), ?_, ?_, ?_⟩ <;> simp [hother]
  have hfront : (matchSegments numeral method ("" :: api :: [] ++ [collection, last]) body).map
      RouteMatch.target = some ⟨⟨.KeyChain, id⟩, none⟩ ↔ Free numeral body last ∧
        ((if collection = "key-chain" ∧ last ≠ "import" then
          some (⟨⟨.KeyChain, last⟩, false, none⟩ : RouteMatch) else none) <|>
            matchCollection numeral ("" :: api :: [] ++ [collection, last]) body).map
              RouteMatch.target = some ⟨⟨.KeyChain, id⟩, none⟩ :=
    matchSegments_front (hapi.not_startsBundles (by decide)) (by simpa using hbcollection)
      (by simp [hother']) (by simp [hother']) (by simp [hother']) (by simp [hother']) (by decide)
      (by rw [matchItem_keyChain hapi hcollection hempty])
  refine hfront.trans ((and_iff_right hfree).trans ?_)
  by_cases hitem : collection = "key-chain" ∧ last ≠ "import"
  · rw [if_pos hitem]
    constructor
    · intro h
      obtain rfl := congrArg (·.ref.id) (Option.some.inj h)
      exact .inr ⟨hitem.1, rfl, hitem.2⟩
    · rintro (⟨-, h, -⟩ | ⟨-, rfl, -⟩)
      · exact absurd h hitem.2
      · rfl
  · rw [if_neg hitem]
    refine (matchCollection_iff hapi).trans ?_
    have himport : ([["key-chain"], ["key-chain", "import"]], ConfigResourceKind.KeyChain, "id") ∈
        collectionRoutes := by decide
    have hspells : Spells ["key-chain", "import"] [collection, last] :=
      .cons hcollection (.cons hlast .nil)
    refine (namedInBody_of_spells himport (by decide) hspells).trans ?_
    constructor
    · rintro ⟨h, hnamed⟩
      have hhead := (List.cons.inj h).1
      have htail := (List.cons.inj (List.cons.inj h).2).1
      exact .inl ⟨hhead, htail, hnamed⟩
    · rintro (⟨rfl, rfl, hnamed⟩ | ⟨h, rfl, hid⟩)
      · exact ⟨rfl, hnamed⟩
      · exact absurd ⟨h, hid⟩ hitem

/-- What the patterns make of the path of a resource that is one of its kind. -/
structure SingletonFound (numeral : Int → Nat → String) (method : MutatingMethod)
    (api : String) (segments : List String) (body : Json) (base : List String)
    (ref : ResourceRef) : Prop where
  bundles : ¬∃ segment ∈ segments, StartsBundles segment
  tenant : matchTenant numeral ("" :: api :: segments) body = none
  found : segments = base →
    matchSingleton method ("" :: api :: segments) = some ⟨ref, method = .POST, none⟩
  singleton : segments ≠ base → matchSingleton method ("" :: api :: segments) = none
  item : segments ≠ base → matchItem ("" :: api :: segments) = none
  collection : segments ≠ base → matchCollection numeral ("" :: api :: segments) body = none

theorem singletonFound_single {segment : String}
    (hbase : literal = "session-config" ∨ literal = "status-list-config")
    (hapi : SameLetters api "api") (hsegment : SameLetters segment literal) :
    SingletonFound numeral method api [segment] body [literal] ⟨.Tenant, "tenant"⟩ := by
  have hapi' := api_ne_literals hapi
  have hother := hsegment.ne_literals
  simp only [literals, List.forall_mem_cons, List.not_mem_nil] at hapi'
  obtain rfl | rfl := hbase
  all_goals
    simp +decide only [literals, List.forall_mem_cons, List.not_mem_nil] at hother
    refine ⟨?_, ?_, fun heq => ?_, fun hne => ?_, fun _ => ?_, fun _ => ?_⟩
    · simp [hsegment.not_startsBundles (by decide)]
    · simp [matchTenant, itemIn, goesOn, endsIn, hapi', hother]
    · simp [heq, matchSingleton, singletonRoutes, endsIn, goesOn]
    · simp [matchSingleton, singletonRoutes, endsIn, goesOn, hother,
        mt (congrArg fun segment => [segment]) hne]
    · simp [matchItem, itemRoutes, clientItem, keyChainItem, itemIn, goesOn, hapi', hother]
    · simp [matchCollection, collectionRoutes, endsIn, goesOn, hother]

theorem singletonFound_double {first second : String} {ref : ResourceRef}
    (hbase : (literal, ref) ∈ [("issuer", ⟨.IssuanceConfig, "issuance"⟩),
      ("registrar", (⟨.RegistrarConfig, "registrar"⟩ : ResourceRef))])
    (hfirst : SameLetters first literal) (hsecond : SameLetters second "config") :
    SingletonFound numeral method api [first, second] body [literal, "config"] ref := by
  have hother := hfirst.ne_literals
  have hother' := hsecond.ne_literals
  simp +decide only [literals, List.forall_mem_cons, List.not_mem_nil] at hother'
  simp only [List.mem_cons, Prod.mk.injEq, List.not_mem_nil, or_false] at hbase
  obtain ⟨rfl, rfl⟩ | ⟨rfl, rfl⟩ := hbase
  all_goals
    simp +decide only [literals, List.forall_mem_cons, List.not_mem_nil] at hother
    refine ⟨?_, ?_, fun heq => ?_, fun hne => ?_, fun _ => ?_, fun _ => ?_⟩
    · simp [hfirst.not_startsBundles (by decide), hsecond.not_startsBundles (by decide)]
    · simp [matchTenant, itemIn, goesOn, endsIn, hother, hother']
    · simp [heq, matchSingleton, singletonRoutes, endsIn, goesOn]
    · have hspelled : second = "config" → first ≠ _ := fun h h' => hne (by rw [h, h'])
      simpa [matchSingleton, singletonRoutes, endsIn, goesOn, hother, hother'] using hspelled
    · simp [matchItem, itemRoutes, clientItem, keyChainItem, itemIn, goesOn, hother, hother']
    · simp [matchCollection, collectionRoutes, endsIn, goesOn, hother, hother']

theorem singletonFound_providers {first second third : String}
    (hfirst : SameLetters first "key-chain") (hsecond : SameLetters second "providers")
    (hthird : SameLetters third "config") :
    SingletonFound numeral method api [first, second, third] body
      ["key-chain", "providers", "config"] ⟨.KmsConfig, "kms"⟩ := by
  have hother := hsecond.ne_literals
  have hother' := hthird.ne_literals
  simp +decide only [literals, List.forall_mem_cons, List.not_mem_nil] at hother hother'
  refine ⟨?_, ?_, fun heq => ?_, fun hne => ?_, fun _ => ?_, fun _ => ?_⟩
  · simp [hfirst.not_startsBundles (by decide), hsecond.not_startsBundles (by decide),
      hthird.not_startsBundles (by decide)]
  · simp [matchTenant, itemIn, goesOn, endsIn, hother, hother']
  · simp [heq, matchSingleton, singletonRoutes, endsIn, goesOn]
  · have hspelled : third = "config" → second = "providers" → first ≠ "key-chain" :=
      fun h h' h'' => hne (by rw [h, h', h''])
    simpa [matchSingleton, singletonRoutes, endsIn, goesOn, hother, hother'] using hspelled
  · simp [matchItem, itemRoutes, clientItem, keyChainItem, itemIn, goesOn, hother, hother']
  · simp [matchCollection, collectionRoutes, endsIn, goesOn, hother, hother']

theorem singletonFound {base : List String} {ref : ResourceRef}
    (hbase : (base, ref) ∈ singletonRoutes) (hapi : SameLetters api "api")
    (hspells : Spells base segments) :
    SingletonFound numeral method api segments body base ref := by
  simp only [singletonRoutes, List.mem_cons, Prod.mk.injEq, List.not_mem_nil, or_false] at hbase
  obtain ⟨rfl, rfl⟩ | ⟨rfl, rfl⟩ | ⟨rfl, rfl⟩ | ⟨rfl, rfl⟩ | ⟨rfl, rfl⟩ := hbase
  all_goals obtain ⟨first, rest, rfl, hfirst, hrest⟩ := spells_cons hspells
  · obtain ⟨second, rest, rfl, hsecond, hrest⟩ := spells_cons hrest
    obtain ⟨third, rest, rfl, hthird, hrest⟩ := spells_cons hrest
    obtain rfl := spells_nil hrest
    exact singletonFound_providers hfirst hsecond hthird
  · obtain ⟨second, rest, rfl, hsecond, hrest⟩ := spells_cons hrest
    obtain rfl := spells_nil hrest
    exact singletonFound_double (by simp) hfirst hsecond
  · obtain ⟨second, rest, rfl, hsecond, hrest⟩ := spells_cons hrest
    obtain rfl := spells_nil hrest
    exact singletonFound_double (by simp) hfirst hsecond
  · obtain rfl := spells_nil hrest
    exact singletonFound_single (.inl rfl) hapi hfirst
  · obtain rfl := spells_nil hrest
    exact singletonFound_single (.inr rfl) hapi hfirst

/-- **The path of a resource that is one of its kind** is guarded if it is spelled in lower case. -/
theorem matchSegments_singleton {base : List String} {ref : ResourceRef}
    (hbase : (base, ref) ∈ singletonRoutes) (hapi : SameLetters api "api")
    (hspells : Spells base segments) :
    (matchSegments numeral method ("" :: api :: segments) body).map RouteMatch.target =
        some ⟨ref, none⟩ ↔ segments = base := by
  have hfound : SingletonFound numeral method api segments body base ref :=
    singletonFound hbase hapi hspells
  have hnone : ¬∃ segment ∈ ("" :: api :: segments).tail, StartsBundles segment := by
    rintro ⟨segment, hmem, hsegment⟩
    obtain rfl | hmem := List.mem_cons.mp hmem
    · exact hapi.not_startsBundles (by decide) hsegment
    · exact hfound.bundles ⟨segment, hmem, hsegment⟩
  rw [matchSegments, if_neg hnone, hfound.tenant]
  by_cases hspelled : segments = base
  · rw [hfound.found hspelled]
    exact iff_of_true rfl hspelled
  · rw [hfound.singleton hspelled, hfound.item hspelled, hfound.collection hspelled]
    exact iff_of_false nofun hspelled

/-! ## Client secrets -/

theorem collection_rotate : ∀ route ∈ collectionRoutes, ∀ base ∈ route.1,
    ∀ last ∈ base.getLast?, ¬SameLetters last "rotate-secret" := by
  decide +kernel

theorem itemRoutes_client : ∀ route ∈ itemRoutes, route.2 = .Client → route.1 = clientItem := by
  intro route hroute hkind
  simp only [itemRoutes, List.mem_cons, List.not_mem_nil, or_false] at hroute
  obtain rfl | rfl | rfl | rfl | rfl | rfl | rfl | rfl := hroute
  · rfl
  all_goals cases hkind

theorem clientItem_rotate (api collection : String) {item last : String} (hitem : item ≠ "")
    (hlast : SameLetters last "rotate-secret") :
    clientItem ["", api, collection, item, last] =
      if collection = "client" ∧ last = "rotate-secret" then some item
      else if item = "client" then some last else none := by
  have hempty : last ≠ "" := by
    rintro rfl
    exact absurd hlast (by decide)
  by_cases hrotate : last = "rotate-secret"
  · by_cases hcollection : collection = "client" <;>
      by_cases hclient : item = "client" <;>
      simp [clientItem, itemIn, goesOn, hrotate, hcollection, hclient, hitem]
  · by_cases hclient : item = "client" <;>
      simp [clientItem, itemIn, goesOn, hrotate, hclient, hempty]

theorem matchSegments_rotate {collection item last : String} (hapi : SameLetters api "api")
    (hcollection : SameLetters collection "client") (hlast : SameLetters last "rotate-secret")
    (hitem : item ≠ "") (hid : decodeURIComponent item = some id) :
    (matchSegments numeral method ["", api, collection, item, last] body).map RouteMatch.target =
        some ⟨⟨.Client, id⟩, none⟩ ↔
      collection = "client" ∧ item = id ∧ last = "rotate-secret" ∧ ¬StartsBundles id ∧
        id ≠ "tenant" := by
  have hbapi := hapi.not_startsBundles (by decide)
  have hbcollection := hcollection.not_startsBundles (by decide)
  have hblast := hlast.not_startsBundles (by decide)
  have hother := hlast.ne_literals
  simp +decide only [literals, List.forall_mem_cons, List.not_mem_nil] at hother
  have hempty : last ≠ "" := by
    rintro rfl
    exact absurd hlast (by decide)
  by_cases hbundles : StartsBundles item
  · have hnone : matchSegments numeral method ["", api, collection, item, last] body = none :=
      if_pos ⟨item, by simp, hbundles⟩
    rw [hnone]
    refine iff_of_false nofun ?_
    rintro ⟨-, rfl, -, hfree, -⟩
    exact hfree hbundles
  rw [matchSegments, if_neg (by simp [hbapi, hbcollection, hblast, hbundles])]
  by_cases htenant : item = "tenant"
  · have hfound : matchTenant numeral ["", api, collection, item, last] body =
        some ⟨⟨.Tenant, "tenant"⟩, false, some last⟩ := by
      simp [matchTenant, itemIn, goesOn, htenant, hempty]
    rw [hfound]
    refine iff_of_false (fun h => ?_) ?_
    · cases Option.some.inj h
    · rintro ⟨-, rfl, -, -, hne⟩
      exact hne htenant
  have hnone : matchTenant numeral ["", api, collection, item, last] body = none := by
    simp [matchTenant, itemIn, endsIn, goesOn, htenant, hother]
  have hsingleton : matchSingleton method ["", api, collection, item, last] = none := by
    simp [matchSingleton, singletonRoutes, endsIn, goesOn, hother]
  rw [hnone, hsingleton]
  have hclient := clientItem_rotate api collection hitem hlast
  by_cases hspelled : collection = "client" ∧ last = "rotate-secret"
  · rw [if_pos hspelled] at hclient
    have hfound : matchItem ["", api, collection, item, last] =
        some ⟨⟨.Client, item⟩, false, none⟩ := by
      simp [matchItem, itemRoutes, hclient]
    rw [hfound]
    constructor
    · intro h
      obtain rfl := congrArg (·.ref.id) (Option.some.inj h)
      exact ⟨hspelled.1, rfl, hspelled.2, hbundles, htenant⟩
    · rintro ⟨-, rfl, -⟩
      rfl
  · rw [if_neg hspelled] at hclient
    refine iff_of_false (fun h => ?_) fun h => hspelled ⟨h.1, h.2.2.1⟩
    obtain ⟨found, hfound, htarget⟩ := Option.map_eq_some_iff.mp h
    simp only [Option.orElse_eq_orElse, Option.orElse_eq_or, Option.none_or] at hfound
    obtain hmatch | ⟨-, hmatch⟩ := Option.or_eq_some_iff.mp hfound
    · -- the shorter match names the last segment, of a client called `client`
      obtain ⟨route, hroute, hitem'⟩ := List.exists_of_findSome?_eq_some hmatch
      obtain ⟨name, hname, rfl⟩ := Option.map_eq_some_iff.mp hitem'
      have href := congrArg Target.ref htarget
      have hkind : route.2 = .Client := congrArg ResourceRef.kind href
      have hid' : name = id := congrArg ResourceRef.id href
      rw [itemRoutes_client route hroute hkind, hclient] at hname
      split at hname
      · rename_i heq
        have hdecoded : decodeURIComponent "client" = some "client" := by decide +kernel
        rw [heq, hdecoded] at hid
        have hlast' : last = "client" :=
          (Option.some.inj hname).trans (hid'.trans (Option.some.inj hid).symm)
        simp [hlast'] at hother
      · cases hname
    · -- and no collection ends so
      have hcreate : (matchCollection numeral ["", api, collection, item, last] body).map
          RouteMatch.target = some ⟨⟨.Client, id⟩, none⟩ := by
        rw [hmatch, ← htarget]
        rfl
      obtain ⟨route, hroute, -, ⟨base, hbase, hsuffix⟩, -⟩ := (matchCollection_iff hapi).mp hcreate
      have hne := (collection_base route hroute base hbase).1
      have hends := getLast?_of_suffix hne hsuffix
      exact collection_rotate route hroute base hbase last hends.symm hlast

/-! ## The handlers -/

/-- The handlers, as the guard's patterns tell them apart. -/
def Route.isListed (route : Route) : Bool :=
  match route.action with
  | .singleton id => (route.base, ⟨route.kind, id⟩) ∈ singletonRoutes
  | .item => (singleBases.any fun base => route.base = [base.1] ∧ route.kind = base.2) ||
      (route.base = ["key-chain"] ∧ route.kind = .KeyChain) ||
      doubleBases.any fun base => route.base = [base.1, base.2.1] ∧ route.kind = base.2.2
  | .tenantItem => route.base = ["tenant"] ∧ route.kind = .Tenant
  | .rotateSecret => route.base = ["client"] ∧ route.kind = .Client
  | .createTenant => route.base = ["tenant"] ∧ route.kind = .Tenant
  | .create field _ => collectionRoutes.any fun collection =>
      route.base ∈ collection.1 ∧ route.kind = collection.2.1 ∧ field = collection.2.2
  | .generate _ => collectionRoutes.any fun collection =>
      route.base ∈ collection.1 ∧ route.kind = collection.2.1 ∧ "id" = collection.2.2

theorem configRoutes_listed : ∀ route ∈ configRoutes, route.isListed = true := by
  decide +kernel

theorem collectionRoutes_bases : ∀ route ∈ collectionRoutes, ∀ base ∈ route.1,
    (∃ entry ∈ ("key-chain", .KeyChain) :: singleBases, base = [entry.1]) ∨
      (∃ entry ∈ doubleBases, base = [entry.1, entry.2.1]) ∨
        base = ["key-chain", "import"] ∧ route.2.1 = .KeyChain ∧ route.2.2 = "id" := by
  decide +kernel

/-- **A creation** is guarded if its base is spelled in lower case, and its body names the id. -/
theorem matchSegments_create {route : List (List String) × ConfigResourceKind × String}
    {base : List String} (hroute : route ∈ collectionRoutes) (hbase : base ∈ route.1)
    (hapi : SameLetters api "api") (hspells : Spells base segments) :
    (matchSegments numeral method ("" :: api :: segments) body).map RouteMatch.target =
        some ⟨⟨route.2.1, id⟩, none⟩ ↔
      (segments = base ∧ namedId numeral route.2.2 body = some id) ∨
        (base = ["key-chain", "import"] ∧ segments = ["key-chain", id] ∧ id ≠ "import") := by
  have hcreate : ((matchCollection numeral ("" :: api :: segments) body).map RouteMatch.target =
      some ⟨⟨route.2.1, id⟩, none⟩) ↔
        segments = base ∧ namedId numeral route.2.2 body = some id :=
    (matchCollection_iff hapi).trans (namedInBody_of_spells hroute hbase hspells)
  obtain ⟨⟨literal, kind⟩, hentry, rfl⟩ | ⟨⟨literal, second, kind⟩, hentry, rfl⟩ |
    ⟨rfl, hkind, hfield⟩ := collectionRoutes_bases route hroute base hbase
  · obtain ⟨collection, rest, rfl, hcollection, hrest⟩ := spells_cons hspells
    obtain rfl := spells_nil hrest
    rw [matchSegments_single hentry hapi hcollection, hcreate]
    simp
  · obtain ⟨first, rest, rfl, hfirst, hrest⟩ := spells_cons hspells
    obtain ⟨collection, rest, rfl, hcollection, hrest⟩ := spells_cons hrest
    obtain rfl := spells_nil hrest
    rw [matchSegments_double hentry hapi hfirst hcollection, hcreate]
    have hne : [literal, second] ≠ ["key-chain", "import"] :=
      (by decide : ∀ entry ∈ doubleBases, [entry.1, entry.2.1] ≠ ["key-chain", "import"]) _ hentry
    simp [hne]
  · obtain ⟨collection, rest, rfl, hcollection, hrest⟩ := spells_cons hspells
    obtain ⟨last, rest, rfl, hlast, hrest⟩ := spells_cons hrest
    obtain rfl := spells_nil hrest
    rw [hkind, hfield, matchSegments_import hapi hcollection hlast]
    simp [and_assoc]

theorem SameLetters.ne_front (h : SameLetters segment literal)
    (hliteral : literal ∈ "key-chain" :: (singleBases.map (·.1) ++ doubleBases.map (·.2.1))) :
    ¬StartsBundles segment ∧ segment ≠ "tenant" ∧ segment ≠ "issuer" ∧ segment ≠ "registrar" ∧
      segment ≠ "providers" := by
  have hfront : ∀ literal ∈ "key-chain" :: (singleBases.map (·.1) ++ doubleBases.map (·.2.1)),
      ¬StartsBundles literal ∧ ¬SameLetters "tenant" literal ∧ ¬SameLetters "issuer" literal ∧
        ¬SameLetters "registrar" literal ∧ ¬SameLetters "providers" literal := by
    decide
  obtain ⟨hbundles, htenant, hissuer, hregistrar, hproviders⟩ := hfront literal hliteral
  have hne := h.ne_literals
  exact ⟨h.not_startsBundles hbundles, hne _ (by decide) htenant, hne _ (by decide) hissuer,
    hne _ (by decide) hregistrar, hne _ (by decide) hproviders⟩

/-- **An item** is guarded if its path is plain. -/
theorem matchSegments_listedItem {base : List String} {item : String}
    (hlisted : (⟨method, base, kind, .item⟩ : Route).isListed = true)
    (hapi : SameLetters api "api") (hspells : Spells base segments) (hitem : item ≠ "")
    (hid : decodeURIComponent item = some id) :
    (matchSegments numeral method ("" :: api :: (segments ++ [item])) body).map RouteMatch.target =
        some ⟨⟨kind, id⟩, none⟩ ↔
      (segments ++ [item] = base ++ [id] ∧ Free numeral body id ∧
        (kind = .KeyChain → id ≠ "import")) ∨
        NamedInBody numeral kind (segments ++ [item]) body id := by
  simp only [Route.isListed, Bool.or_eq_true, List.any_eq_true, decide_eq_true_eq] at hlisted
  obtain (⟨⟨literal, kind'⟩, hentry, rfl, rfl⟩ | ⟨rfl, rfl⟩) |
    ⟨⟨literal, second, kind'⟩, hentry, rfl, rfl⟩ := hlisted
  · obtain ⟨collection, rest, rfl, hcollection, hrest⟩ := spells_cons hspells
    obtain rfl := spells_nil hrest
    obtain ⟨hbcollection, htenant, hissuer, hregistrar, hproviders⟩ := hcollection.ne_front
      (List.mem_cons_of_mem _ (List.mem_append_left _ (List.mem_map_of_mem hentry)))
    obtain ⟨hkind, hkeyChain⟩ := (by decide : ∀ entry ∈ singleBases, entry.2 ≠ .Tenant ∧
      entry.2 ≠ .KeyChain) _ hentry
    refine (matchSegments_item (collection = literal) hapi (by simpa using hbcollection) htenant
      hissuer hregistrar hproviders hkind hid
      (matchItem_single hentry hapi hcollection hitem)).trans (or_congr_left ?_)
    constructor
    · rintro ⟨rfl, rfl, hfree⟩
      exact ⟨rfl, hfree, fun h => absurd h hkeyChain⟩
    · rintro ⟨hspelled, hfree, -⟩
      obtain ⟨rfl, h⟩ := List.cons.inj hspelled
      exact ⟨rfl, (List.cons.inj h).1, hfree⟩
  · obtain ⟨collection, rest, rfl, hcollection, hrest⟩ := spells_cons hspells
    obtain rfl := spells_nil hrest
    obtain ⟨hbcollection, htenant, hissuer, hregistrar, hproviders⟩ :=
      hcollection.ne_front List.mem_cons_self
    refine (matchSegments_item (collection = "key-chain" ∧ item ≠ "import") hapi
      (by simpa using hbcollection) htenant hissuer hregistrar hproviders (by decide) hid
      (matchItem_keyChain hapi hcollection hitem)).trans (or_congr_left ?_)
    constructor
    · rintro ⟨⟨rfl, himport⟩, rfl, hfree⟩
      exact ⟨rfl, hfree, fun _ => himport⟩
    · rintro ⟨hspelled, hfree, himport⟩
      obtain ⟨rfl, h⟩ := List.cons.inj hspelled
      obtain ⟨rfl, -⟩ := List.cons.inj h
      exact ⟨⟨rfl, himport rfl⟩, rfl, hfree⟩
  · obtain ⟨first, rest, rfl, hfirst, hrest⟩ := spells_cons hspells
    obtain ⟨collection, rest, rfl, hcollection, hrest⟩ := spells_cons hrest
    obtain rfl := spells_nil hrest
    obtain ⟨hbcollection, htenant, hissuer, hregistrar, hproviders⟩ := hcollection.ne_front
      (List.mem_cons_of_mem _ (List.mem_append_right _ (List.mem_map_of_mem hentry)))
    obtain ⟨hkind, hkeyChain, hbliteral⟩ := (by decide : ∀ entry ∈ doubleBases,
      entry.2.2 ≠ .Tenant ∧ entry.2.2 ≠ .KeyChain ∧ ¬StartsBundles entry.1) _ hentry
    refine (matchSegments_item (first = literal ∧ collection = second) hapi
      (by simpa using ⟨hfirst.not_startsBundles hbliteral, hbcollection⟩) htenant hissuer
      hregistrar hproviders hkind hid
      (matchItem_double hentry hfirst hcollection hitem)).trans (or_congr_left ?_)
    constructor
    · rintro ⟨⟨rfl, rfl⟩, rfl, hfree⟩
      exact ⟨rfl, hfree, fun h => absurd h hkeyChain⟩
    · rintro ⟨hspelled, hfree, -⟩
      have htail := (List.cons.inj hspelled).2
      exact ⟨⟨(List.cons.inj hspelled).1, (List.cons.inj htail).1⟩,
        (List.cons.inj (List.cons.inj htail).2).1, hfree⟩

/-- **What a handler changes is found** exactly by plain paths. -/
theorem guarded_iff {route : Route} {target : Target} (hlisted : route.isListed = true)
    (hapi : SameLetters api "api") (hhandles : route.Handles segments body target) :
    (matchSegments numeral route.method ("" :: api :: segments) body).map RouteMatch.target =
        some target ↔ route.Plain numeral segments body target := by
  obtain ⟨method, base, kind, action⟩ := route
  cases action with
  | singleton id =>
    obtain ⟨hspells, rfl⟩ := hhandles
    exact matchSegments_singleton (of_decide_eq_true hlisted) hapi hspells
  | item =>
    obtain ⟨segments, item, id, rfl, hspells, hitem, hid, rfl⟩ := hhandles
    exact matchSegments_listedItem hlisted hapi hspells hitem hid
  | tenantItem =>
    obtain ⟨segments, item, id, rfl, hspells, hitem, hid, rfl⟩ := hhandles
    obtain ⟨rfl, rfl⟩ := of_decide_eq_true hlisted
    obtain ⟨collection, rest, rfl, hcollection, hrest⟩ := spells_cons hspells
    obtain rfl := spells_nil hrest
    refine (matchSegments_tenantItem hapi hcollection hitem hid).trans (or_congr ?_ ?_)
    · constructor
      · rintro ⟨rfl, rfl, hfree⟩
        exact ⟨_, rfl, rfl, hfree⟩
      · rintro ⟨id', hid', hspelled, hfree⟩
        obtain rfl := Option.some.inj hid'
        obtain ⟨rfl, h⟩ := List.cons.inj hspelled
        exact ⟨rfl, (List.cons.inj h).1, hfree⟩
    · simp
  | rotateSecret =>
    obtain ⟨segments, item, last, id, rfl, hspells, hlast, hitem, hid, rfl⟩ := hhandles
    obtain ⟨rfl, rfl⟩ := of_decide_eq_true hlisted
    obtain ⟨collection, rest, rfl, hcollection, hrest⟩ := spells_cons hspells
    obtain rfl := spells_nil hrest
    refine (matchSegments_rotate hapi hcollection hlast hitem hid).trans ?_
    constructor
    · rintro ⟨rfl, rfl, rfl, hfree, htenant⟩
      exact ⟨rfl, hfree, htenant⟩
    · rintro ⟨hspelled, hfree, htenant⟩
      have htail := (List.cons.inj hspelled).2
      exact ⟨(List.cons.inj hspelled).1, (List.cons.inj htail).1,
        (List.cons.inj (List.cons.inj htail).2).1, hfree, htenant⟩
  | create field trims =>
    obtain ⟨hspells, id, -, -, rfl⟩ := hhandles
    obtain ⟨collection, hcollection, hmatch⟩ := List.any_eq_true.mp hlisted
    obtain ⟨hbase, rfl, rfl⟩ := of_decide_eq_true hmatch
    exact matchSegments_create hcollection hbase hapi hspells
  | createTenant =>
    obtain ⟨hspells, id, -, -, rfl⟩ := hhandles
    obtain ⟨rfl, rfl⟩ := of_decide_eq_true hlisted
    obtain ⟨collection, rest, rfl, hcollection, hrest⟩ := spells_cons hspells
    obtain rfl := spells_nil hrest
    refine (matchSegments_createTenant hapi hcollection).trans (and_congr_left' ?_)
    simp
  | generate field =>
    obtain ⟨hspells, -, id, rfl⟩ := hhandles
    obtain ⟨collection, hcollection, hmatch⟩ := List.any_eq_true.mp hlisted
    obtain ⟨hbase, rfl, hfield⟩ := of_decide_eq_true hmatch
    have hcreate : (matchSegments numeral method ("" :: api :: segments) body).map
        RouteMatch.target = some ⟨⟨collection.2.1, id⟩, none⟩ ↔ _ :=
      matchSegments_create hcollection hbase hapi hspells
    rw [← hfield] at hcreate
    exact hcreate

variable (numeral) in
/-- **The request is refused** while the resource is managed by a file, and else runs under the lock
of the tenant: the one it names, or its token's. -/
def Protected (method : MutatingMethod) (path : String) (body : Json) (target : Target) : Prop :=
  ∀ tenants entity outcome tenantId, target.tenantId.or entity = some tenantId → tenantId ≠ "" →
    ∃ mutation, interceptRequest numeral tenants method path body entity outcome =
        some (tenantId, mutation) ∧
      mutation.matched = some target.ref ∧
      ((metadataOf (tenants tenantId) target.ref).ownership = .fileManaged →
        ∃ error, mutation.mutability = .error error)

theorem Guarded.protected {path : String} {target : Target}
    (h : Guarded numeral method path body target) : Protected numeral method path body target := by
  intro tenants entity outcome tenantId htenant hne
  obtain ⟨found, hfound, rfl⟩ := Option.map_eq_some_iff.mp h
  have hor : found.tenantId.or entity = some tenantId := htenant
  refine ⟨{
    matched := some found.ref
    assetUpload := method = .POST ∧
      (pathSegments path = ["", "storage"] ∨ pathSegments path = ["", "api", "storage"])
    delete := method = .DELETE
    mutability := (assertMutable (tenants tenantId) found.ref).mapError .thrown
    outcome }, ?_, rfl, fun hmanaged =>
      ⟨.thrown "Detach it before changing it through the API or UI.", ?_⟩⟩
  · unfold interceptRequest
    rw [hfound]
    dsimp only [Option.bind_some]
    rw [hor]
    dsimp only
    rw [if_neg hne, if_neg (by simp)]
    rfl
  · show (assertMutable (tenants tenantId) found.target.ref).mapError _ = _
    rw [assertMutable, if_pos hmanaged]
    rfl

end ResourceRoutes

open ResourceRoutes

end Eudiplo
