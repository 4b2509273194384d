import Eudiplo.Portability.ImportJournal
import Eudiplo.Verifier.Trust

/-!
# The routes of configuration resources

`ConfigResourceRouteService`: the guard of file-managed resources finds the resource of a request
with patterns of its own over the path, all of them anchored at its end.  A pattern
`/\/a\/b\/([^/]+)\/?$/` is about the last segments of the path, one slash at the end aside, so a
path is read as its segments.
-/

namespace Eudiplo

open Portability ImportJournal

namespace ResourceRoutes

/-! ## Paths -/

/-- What stands between the slashes of a path; one slash at the end is ignored. -/
def pathSegments (path : String) : List String :=
  let pieces := (path.toList.splitOn '/').map String.ofList
  if pieces.getLast? = some "" then pieces.dropLast else pieces

/-- `path.includes("/config-bundles")`: a segment starts so. -/
def StartsBundles (segment : String) : Prop := "config-bundles".toList <+: segment.toList

instance (segment : String) : Decidable (StartsBundles segment) :=
  inferInstanceAs (Decidable (_ <+: _))

/-- Does a path start with these segments, and go on? (Of reversed segments: the slash in front of
a pattern is the path's.) -/
def goesOn : List String → List String → Bool
  | [], rest => !rest.isEmpty
  | b :: base, t :: rest => t == b && goesOn base rest
  | _ :: _, [] => false

/-- `/\/base\/?$/.test(path)`. -/
def endsIn (base segments : List String) : Bool := goesOn base.reverse segments.reverse

/-- `/\/base\/([^/]+)\/?$/.exec(path)?.[1]`. -/
def itemIn (base segments : List String) : Option String :=
  match segments.reverse with
  | [] => none
  | item :: rest => if item ≠ "" ∧ goesOn base.reverse rest then some item else none

/-- `/\/client\/([^/]+)(?:\/rotate-secret)?\/?$/`: the leftmost match is the longer one. -/
def clientItem (segments : List String) : Option String :=
  (if segments.getLast? = some "rotate-secret" then itemIn ["client"] segments.dropLast
    else none) <|> itemIn ["client"] segments

/-- `/\/key-chain\/(?!import\/?$)([^/]+)\/?$/`. -/
def keyChainItem (segments : List String) : Option String :=
  (itemIn ["key-chain"] segments).filter (· ≠ "import")

/-! ## The guard's route matcher -/

/-- `ConfigResourceRouteMatch`. -/
structure RouteMatch where
  ref : ResourceRef
  create : Bool
  tenantId : Option String := none
  deriving DecidableEq

inductive MutatingMethod where
  | POST
  | PUT
  | PATCH
  | DELETE
  deriving DecidableEq

section
variable (numeral : Int → Nat → String)

mutual
/-- `String(v)`, with the numerals of the language. -/
def jsonText : Json → String
  | .null => "null"
  | .bool b => if b then "true" else "false"
  | .num mantissa exponent => numeral mantissa exponent
  | .str s => s
  | .arr items => String.intercalate "," (jsonTexts items)
  | .obj _ => "[object Object]"

/-- The items that `join` puts together; `null` is nothing. -/
def jsonTexts : List Json → List String
  | [] => []
  | .null :: items => "" :: jsonTexts items
  | item :: items => jsonText item :: jsonTexts items
end

/-- The condition `if (v)`. -/
def isTruthy : Json → Bool
  | .null => false
  | .bool b => b
  | .num mantissa _ => mantissa != 0
  | .str s => s != ""
  | .arr _ => true
  | .obj _ => true

/-- The id that a body names: `String(body?.[field])`, if it is truthy. -/
def namedId (field : String) (body : Json) : Option String :=
  ((body.field? field).filter isTruthy).map (jsonText numeral)

def singletonRoutes : List (List String × ResourceRef) :=
  [(["key-chain", "providers", "config"], ⟨.KmsConfig, "kms"⟩),
    (["issuer", "config"], ⟨.IssuanceConfig, "issuance"⟩),
    (["registrar", "config"], ⟨.RegistrarConfig, "registrar"⟩),
    (["session-config"], ⟨.Tenant, "tenant"⟩),
    (["status-list-config"], ⟨.Tenant, "tenant"⟩)]

def itemRoutes : List ((List String → Option String) × ConfigResourceKind) :=
  [(clientItem, .Client),
    (itemIn ["issuer", "credentials"], .CredentialConfig),
    (itemIn ["verifier", "config"], .PresentationConfig),
    (itemIn ["issuer", "attribute-providers"], .AttributeProvider),
    (itemIn ["issuer", "webhook-endpoints"], .WebhookEndpoint),
    (keyChainItem, .KeyChain),
    (itemIn ["trust-list"], .TrustList),
    (itemIn ["status-lists"], .StatusList)]

/-- `collectionRoutes`; `(?:\/import)?` makes the two bases of key chains. -/
def collectionRoutes : List (List (List String) × ConfigResourceKind × String) :=
  [([["client"]], .Client, "clientId"),
    ([["issuer", "credentials"]], .CredentialConfig, "id"),
    ([["verifier", "config"]], .PresentationConfig, "id"),
    ([["issuer", "attribute-providers"]], .AttributeProvider, "id"),
    ([["issuer", "webhook-endpoints"]], .WebhookEndpoint, "id"),
    ([["key-chain"], ["key-chain", "import"]], .KeyChain, "id"),
    ([["trust-list"]], .TrustList, "id"),
    ([["status-lists"]], .StatusList, "id")]

/-- The tenant of `/tenant/:id`, before all other routes. -/
def matchTenant (segments : List String) (body : Json) : Option RouteMatch :=
  ((itemIn ["tenant"] segments).map fun id => ⟨⟨.Tenant, "tenant"⟩, false, some id⟩) <|>
    if endsIn ["tenant"] segments then
      (namedId numeral "id" body).map fun id => ⟨⟨.Tenant, "tenant"⟩, true, some id⟩
    else none

def matchSingleton (method : MutatingMethod) (segments : List String) : Option RouteMatch :=
  singletonRoutes.findSome? fun route =>
    if endsIn route.1 segments then some ⟨route.2, method = .POST, none⟩ else none

def matchItem (segments : List String) : Option RouteMatch :=
  itemRoutes.findSome? fun route =>
    (route.1 segments).map fun id => ⟨⟨route.2, id⟩, false, none⟩

def matchCollection (segments : List String) (body : Json) : Option RouteMatch :=
  collectionRoutes.findSome? fun route =>
    if route.1.any (endsIn · segments) then
      (namedId numeral route.2.2 body).map fun id => ⟨⟨route.2.1, id⟩, true, none⟩
    else none

/-- **`match`**, of the segments of the path. -/
def matchSegments (method : MutatingMethod) (segments : List String) (body : Json) :
    Option RouteMatch :=
  if ∃ segment ∈ segments.tail, StartsBundles segment then none
  else matchTenant numeral segments body <|> matchSingleton method segments <|>
    matchItem segments <|> matchCollection numeral segments body

/-- **`match`**. -/
def matchRoute (method : MutatingMethod) (path : String) (body : Json) : Option RouteMatch :=
  matchSegments numeral method (pathSegments path) body

/-! ## The interceptor -/

/-- `ConfigGenerationInterceptor.intercept`: the tenant whose lock a request takes, and what is
changed under it; `none` for a request that goes to its handler at once. -/
def interceptRequest (tenants : String → TenantState) (method : MutatingMethod) (path : String)
    (body : Json) (entity : Option String) (outcome : Nat → Except JournalError Unit) :
    Option (String × ApiMutation) :=
  let found := matchRoute numeral method path body
  let assetUpload := method = .POST ∧
    (pathSegments path = ["", "storage"] ∨ pathSegments path = ["", "api", "storage"])
  match (found.bind (·.tenantId)).or entity with
  | none => none
  | some tenantId =>
    if tenantId = "" then none
    else if found.isNone ∧ ¬assetUpload then none
    else some (tenantId, {
      matched := found.map (·.ref)
      assetUpload
      delete := method = .DELETE
      mutability := match found with
        | none => .ok ()
        | some found => (assertMutable (tenants tenantId) found.ref).mapError .thrown
      outcome })

end

/-! ## The router -/

def hexDigit? (c : Char) : Option UInt8 :=
  if c.isDigit then some (UInt8.ofNat (c.toNat - '0'.toNat))
  else if 'a' ≤ c ∧ c ≤ 'f' then some (UInt8.ofNat (c.toNat - 'a'.toNat + 10))
  else if 'A' ≤ c ∧ c ≤ 'F' then some (UInt8.ofNat (c.toNat - 'A'.toNat + 10))
  else none

def unescape : List Char → Option (List UInt8)
  | [] => some []
  | ['%'] => none
  | ['%', _] => none
  | '%' :: high :: low :: rest => do
    let high ← hexDigit? high
    let low ← hexDigit? low
    let bytes ← unescape rest
    return (high * 16 + low) :: bytes
  | c :: rest => do
    let bytes ← unescape rest
    return String.utf8EncodeChar c ++ bytes

def decodeURIComponent (s : String) : Option String := do
  let bytes ← unescape s.toList
  String.fromUTF8? ⟨bytes.toArray⟩

/-- A segment is a literal of a route in any case. -/
def SameLetters (segment literal : String) : Prop :=
  segment.toList.map Char.toLower = literal.toList

instance (segment literal : String) : Decidable (SameLetters segment literal) :=
  inferInstanceAs (Decidable (_ = _))

/-- Segments that a router reads as the literals of a route. -/
def Spells (base segments : List String) : Prop := List.Forall₂ SameLetters segments base

inductive Action where
  /-- Changes the one resource of its kind. -/
  | singleton (id : String)
  /-- Changes the resource of the parameter. -/
  | item
  /-- Changes the tenant of the parameter. -/
  | tenantItem
  /-- `:id/rotate-secret`. -/
  | rotateSecret
  /-- Stores a resource under the id in its body, which some schemas trim. -/
  | create (field : String) (trims : Bool)
  /-- Stores the tenant in its body. -/
  | createTenant
  /-- Stores a resource under a new id, unless its body has one in this field. -/
  | generate (field : Option String)
  deriving DecidableEq

/-- A handler of a configuration resource, with its path after `/api`. -/
structure Route where
  method : MutatingMethod
  base : List String
  kind : ConfigResourceKind
  action : Action
  deriving DecidableEq

def itemHandlers (base : List String) (kind : ConfigResourceKind)
    (methods : List MutatingMethod) : List Route :=
  methods.map fun method => ⟨method, base, kind, .item⟩

/-- **The mutating handlers of configuration resources**, controller by controller. -/
def configRoutes : List Route :=
  -- `TenantController`
  [⟨.POST, ["tenant"], .Tenant, .createTenant⟩, ⟨.PATCH, ["tenant"], .Tenant, .tenantItem⟩,
    ⟨.DELETE, ["tenant"], .Tenant, .tenantItem⟩] ++
  -- `SessionConfigController`, `StatusListConfigController`
  [⟨.PUT, ["session-config"], .Tenant, .singleton "tenant"⟩,
    ⟨.DELETE, ["session-config"], .Tenant, .singleton "tenant"⟩,
    ⟨.PUT, ["status-list-config"], .Tenant, .singleton "tenant"⟩,
    ⟨.DELETE, ["status-list-config"], .Tenant, .singleton "tenant"⟩] ++
  -- `RegistrarController`, `IssuanceConfigController`
  [⟨.POST, ["registrar", "config"], .RegistrarConfig, .singleton "registrar"⟩,
    ⟨.PATCH, ["registrar", "config"], .RegistrarConfig, .singleton "registrar"⟩,
    ⟨.DELETE, ["registrar", "config"], .RegistrarConfig, .singleton "registrar"⟩,
    ⟨.POST, ["issuer", "config"], .IssuanceConfig, .singleton "issuance"⟩] ++
  -- `ClientController`
  ⟨.POST, ["client"], .Client, .create "clientId" true⟩ ::
  ⟨.POST, ["client"], .Client, .rotateSecret⟩ ::
  itemHandlers ["client"] .Client [.PATCH, .DELETE] ++
  -- `KeyChainController`
  [⟨.PUT, ["key-chain", "providers", "config"], .KmsConfig, .singleton "kms"⟩,
    ⟨.DELETE, ["key-chain", "providers", "config"], .KmsConfig, .singleton "kms"⟩,
    ⟨.POST, ["key-chain"], .KeyChain, .generate none⟩,
    ⟨.POST, ["key-chain", "import"], .KeyChain, .create "id" false⟩,
    ⟨.POST, ["key-chain", "import"], .KeyChain, .generate (some "id")⟩] ++
  itemHandlers ["key-chain"] .KeyChain [.PUT, .DELETE] ++
  -- `TrustListController`
  [⟨.POST, ["trust-list"], .TrustList, .create "id" false⟩,
    ⟨.POST, ["trust-list"], .TrustList, .generate (some "id")⟩] ++
  itemHandlers ["trust-list"] .TrustList [.PUT, .DELETE] ++
  -- `CredentialConfigController`, `PresentationsController`
  ⟨.POST, ["issuer", "credentials"], .CredentialConfig, .create "id" false⟩ ::
  itemHandlers ["issuer", "credentials"] .CredentialConfig [.PATCH, .DELETE] ++
  ⟨.POST, ["verifier", "config"], .PresentationConfig, .create "id" false⟩ ::
  itemHandlers ["verifier", "config"] .PresentationConfig [.PATCH, .DELETE] ++
  -- `AttributeProviderController`, `WebhookEndpointController`
  ⟨.POST, ["issuer", "attribute-providers"], .AttributeProvider, .create "id" false⟩ ::
  itemHandlers ["issuer", "attribute-providers"] .AttributeProvider [.PATCH, .DELETE] ++
  ⟨.POST, ["issuer", "webhook-endpoints"], .WebhookEndpoint, .create "id" false⟩ ::
  itemHandlers ["issuer", "webhook-endpoints"] .WebhookEndpoint [.PATCH, .DELETE] ++
  -- `StatusListManagementController`
  ⟨.POST, ["status-lists"], .StatusList, .generate none⟩ ::
  itemHandlers ["status-lists"] .StatusList [.PATCH, .DELETE]

/-- The resource that a handler changes, and the tenant that its request names; a handler of no
named tenant changes the token's. -/
structure Target where
  ref : ResourceRef
  tenantId : Option String
  deriving DecidableEq

/-- **What a handler changes**, of the segments after `/api`; a parameter is not empty, and
percent-decoded. -/
def Route.Handles (route : Route) (segments : List String) (body : Json) (target : Target) : Prop :=
  match route.action with
  | .singleton id => Spells route.base segments ∧ target = ⟨⟨route.kind, id⟩, none⟩
  | .item => ∃ base item id, segments = base ++ [item] ∧ Spells route.base base ∧ item ≠ "" ∧
      decodeURIComponent item = some id ∧ target = ⟨⟨route.kind, id⟩, none⟩
  | .tenantItem => ∃ base item id, segments = base ++ [item] ∧ Spells route.base base ∧
      item ≠ "" ∧ decodeURIComponent item = some id ∧ target = ⟨⟨route.kind, "tenant"⟩, some id⟩
  | .rotateSecret => ∃ base item rotate id, segments = base ++ [item, rotate] ∧
      Spells route.base base ∧ SameLetters rotate "rotate-secret" ∧ item ≠ "" ∧
      decodeURIComponent item = some id ∧ target = ⟨⟨route.kind, id⟩, none⟩
  | .create field trims => Spells route.base segments ∧ ∃ id, body.field? field = some (.str id) ∧
      (if trims then trimText id else id) ≠ "" ∧
      target = ⟨⟨route.kind, if trims then trimText id else id⟩, none⟩
  | .createTenant => Spells route.base segments ∧ ∃ id, body.field? "id" = some (.str id) ∧
      trimText id ≠ "" ∧ target = ⟨⟨route.kind, "tenant"⟩, some (trimText id)⟩
  | .generate field => Spells route.base segments ∧
      (∀ name, field = some name → (body.field? name).all (!isTruthy ·)) ∧
      ∃ id, target = ⟨⟨route.kind, id⟩, none⟩

/-- **The router dispatches** a path to a handler: literals are read in any case, and one slash at
the end is ignored. -/
def Route.Dispatches (route : Route) (path : String) (body : Json) (target : Target) : Prop :=
  ∃ api segments, pathSegments path = "" :: api :: segments ∧ SameLetters api "api" ∧
    route.Handles segments body target

end ResourceRoutes

end Eudiplo
