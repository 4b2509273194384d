import Eudiplo.Portability.Ownership

/-!
# Importing a configuration bundle

`ConfigBundleService.plan` and `ConfigBundleApplyService.apply`: what a bundle would do to a
tenant, and the operations it does one after the other.  Validating a document, comparing it with
the stored resource and the importer of its kind are parameters.
-/

namespace Eudiplo

open Storage

namespace Portability

/-! ## Data -/

/-- `ConfigImportMode`, of an import that is done. -/
inductive ConfigImportMode where
  | create
  | upsert
  | replace
  deriving DecidableEq

structure ConfigDocument where
  ref : ResourceRef
  /-- `metadata.generation`. -/
  generation : Option Nat := none
  spec : Json

def ConfigDocument.generationOf (document : ConfigDocument) : Nat := document.generation.getD 1

/-- **What an import asks of the kinds of resources.** -/
structure PortabilityWorld where
  /-- Has the document an error or a missing input, among the stored specs? -/
  blocked : (ResourceRef → Option Json) → ConfigDocument → Bool
  /-- `compareDocument`: would the import leave the stored spec as it is? -/
  unchanged : (current : Json) → ConfigDocument → Bool
  /-- The spec that `applyDocument` stores over the current one, unless the importer throws. -/
  store : (current : Option Json) → ConfigDocument → Option Json
  /-- Does the service of the kind refuse to delete the resource? -/
  refusesDeletion : TenantState → ResourceRef → Bool

def storingWorld : PortabilityWorld where
  blocked _ _ := false
  unchanged _ _ := false
  store _ document := some document.spec
  refusesDeletion _ _ := false

inductive PlanAction where
  | create
  | update
  | unchanged
  | skip
  | blocked
  deriving DecidableEq

/-- `ConfigImportPlanItem` of a document. -/
structure PlanItem where
  document : ConfigDocument
  action : PlanAction
  metadataChanged : Bool

/-- `ConfigImportPlan`. -/
structure ImportPlan where
  items : List PlanItem
  deletions : List ResourceRef
  applicable : Bool

/-! ## References -/

/-- `referenceFields`: the kind that a field of this name refers to. -/
def referenceTarget (key : String) : Option ConfigResourceKind :=
  let normalizedKey := key.toLower
  if "keychainid".toList.isSuffixOf normalizedKey.toList then some .KeyChain
  else
    match normalizedKey with
    | "signingkeyid" => some .KeyChain
    | "credentialconfigid" => some .CredentialConfig
    | "credentialconfigurationid" => some .CredentialConfig
    | "presentationconfigid" => some .PresentationConfig
    | "webhookendpointid" => some .WebhookEndpoint
    | "attributeproviderid" => some .AttributeProvider
    | "trustlistid" => some .TrustList
    | _ => none

/-- `arrayReferenceFields`. -/
def arrayReferenceTarget (key : String) : Option ConfigResourceKind :=
  match key.toLower with
  | "allowedpresentationconfigs" => some .PresentationConfig
  | "allowedissuanceconfigs" => some .CredentialConfig
  | _ => none

def referenceTo (kind : ConfigResourceKind) : Json → List ResourceRef
  | .str id => if id.isEmpty then [] else [⟨kind, id⟩]
  | _ => []

def fieldReferences (key : String) (item : Json) : List ResourceRef :=
  ((referenceTarget key).map fun kind => referenceTo kind item).getD [] ++
    ((arrayReferenceTarget key).map fun kind =>
      ((item.arr?).getD []).flatMap (referenceTo kind)).getD []

mutual

/-- `visit` of `validateReferences`: all references in a spec. -/
def references : Json → List ResourceRef
  | .arr items => itemReferences items
  | .obj members => memberReferences members
  | _ => []

def itemReferences : List Json → List ResourceRef
  | [] => []
  | item :: items => references item ++ itemReferences items

def memberReferences : List (String × Json) → List ResourceRef
  | [] => []
  | (key, item) :: members =>
    fieldReferences key item ++ references item ++ memberReferences members

end

/-! ## The plan -/

variable (w : PortabilityWorld)

/-- Is the import one of a folder at startup? -/
def startupFolder (source : String) : Bool := "folder:".toList.isPrefixOf source.toList

def skipsDetached (s : TenantState) (source : String) (reattach : Bool)
    (document : ConfigDocument) : Bool :=
  s.stores document.ref && !reattach && (metadataOf s document.ref).ownership == .detached &&
    sourceInScope (metadataOf s document.ref).source source

def isStaleGeneration (s : TenantState) (source : String) (reattach : Bool)
    (document : ConfigDocument) : Bool :=
  !skipsDetached s source reattach document && s.stores document.ref && !reattach &&
    decide (document.generationOf < (metadataOf s document.ref).generation)

/-- **The item of a document.** -/
def planDocument (s : TenantState) (mode : ConfigImportMode) (source : String) (reattach : Bool)
    (document : ConfigDocument) : PlanItem :=
  let metadata := metadataOf s document.ref
  let stale := isStaleGeneration s source reattach document
  let skipDiverged := skipsDetached s source reattach document || (stale && startupFolder source)
  let skipExisting := s.stores document.ref && mode == .create && !skipDiverged
  let blocked := w.blocked s.spec? document || (stale && !startupFolder source)
  let unchanged := mode != .create && !skipDiverged &&
    (s.spec? document.ref).any fun current => w.unchanged current document
  { document
    action :=
      if blocked then .blocked
      else if skipExisting || skipDiverged then .skip
      else if unchanged then .unchanged
      else if s.stores document.ref then .update
      else .create
    metadataChanged := metadata.ownership != .fileManaged || metadata.source != some source ||
      metadata.generation != document.generationOf }

/-- `listManagedBySourceScope`, without the tenant and what the bundle has. -/
def planDeletions (s : TenantState) (mode : ConfigImportMode) (source : String)
    (documents : List ConfigDocument) : List ResourceRef :=
  if mode = .replace then
    (s.ownership.select fun m => m.ownership == .fileManaged && sourceInScope m.source source &&
      m.ref.kind != .Tenant && !(documents.any fun document => document.ref == m.ref)).map (·.ref)
  else []

/-- Is there such a resource, in the tenant or the bundle, after the deletions? -/
def isAvailable (s : TenantState) (deletions : List ResourceRef) (documents : List ConfigDocument)
    (ref : ResourceRef) : Bool :=
  (s.stores ref || documents.any fun document => document.ref == ref) && !deletions.contains ref

/-- **`ConfigBundleService.plan`**; a bundle with a resource twice is no bundle. -/
def plan (s : TenantState) (mode : ConfigImportMode) (source : String) (reattach : Bool)
    (documents : List ConfigDocument) : ImportPlan :=
  let items := documents.map (planDocument w s mode source reattach)
  let deletions := planDeletions s mode source documents
  { items
    deletions
    applicable := decide ((documents.map (·.ref)).Nodup) &&
      items.all (fun item => item.action != .blocked) &&
      documents.all fun document =>
        (references document.spec).all (isAvailable s deletions documents) }

/-! ## The operations -/

inductive Operation where
  | resource (document : ConfigDocument)
  | ownership (ref : ResourceRef) (generation : Nat)
  | resourceAndOwnership (document : ConfigDocument)
  | delete (ref : ResourceRef)
  | deleteOwnership (ref : ResourceRef)

def importPhase : ConfigResourceKind → Nat
  | .Tenant => 0
  | .KmsConfig => 10
  | .KeyChain => 20
  | .Client => 30
  | .RegistrarConfig => 40
  | .AttributeProvider => 50
  | .WebhookEndpoint => 60
  | .IssuanceConfig => 70
  | .CredentialConfig => 80
  | .TrustList => 90
  | .PresentationConfig => 100
  | .StatusList => 110

def itemOperations (source : String) (item : PlanItem) : List Operation :=
  let document := item.document
  let write := item.action == .create || item.action == .update
  let own := Operation.ownership document.ref document.generationOf
  if !write && !(item.action == .unchanged && item.metadataChanged) then []
  else if write && document.ref.kind == .Tenant then [.resourceAndOwnership document]
  else if write && !(document.ref.kind == .KmsConfig && startupFolder source) then
    [.resource document, own]
  else [own]

def operations (source : String) (p : ImportPlan) : List Operation :=
  (p.items.mergeSort fun left right =>
      importPhase left.document.ref.kind ≤ importPhase right.document.ref.kind).flatMap
    (itemOperations source) ++
  (p.deletions.mergeSort fun left right => importPhase right.kind ≤ importPhase left.kind).flatMap
    fun ref => [.delete ref, .deleteOwnership ref]

def keyChainOf (row : StoredResource) : Option String :=
  if row.ref.kind = .TrustList then row.spec.field? "keyChainId" >>= Json.str? else none

def deleteResource (s : TenantState) (ref : ResourceRef) : TenantState :=
  { s with
    resources := s.resources.deleteWhere fun row =>
      row.ref == ref || (ref.kind == .KeyChain && keyChainOf row == some ref.id) }

def runOperation (source : String) (reattach : Bool) (s : TenantState) :
    Operation → Except String TenantState
  | .resource document =>
    match w.store (s.spec? document.ref) document with
    | some spec => .ok (s.putSpec document.ref spec)
    | none => .error "Configuration apply stopped."
  | .ownership ref generation => markApplied s ref generation source reattach
  | .resourceAndOwnership document =>
    match w.store (s.spec? document.ref) document with
    | some spec =>
      markApplied (s.putSpec document.ref spec) document.ref document.generationOf source reattach
    | none => .error "Configuration apply stopped."
  | .delete ref =>
    if ref.kind = .Tenant then .error "Replace mode cannot delete a tenant"
    else if w.refusesDeletion s ref then .error "Configuration apply stopped."
    else .ok (deleteResource s ref)
  | .deleteOwnership ref => .ok (s.removeMetadata ref)

def runOperations (source : String) (reattach : Bool) :
    TenantState → List Operation → TenantState × Option String
  | s, [] => (s, none)
  | s, operation :: rest =>
    match runOperation w source reattach s operation with
    | .ok s' => runOperations source reattach s' rest
    | .error message => (s, some message)

/-- **`ConfigBundleApplyService.apply`**, which plans again and may fail half-way. -/
def applyBundle (s : TenantState) (mode : ConfigImportMode) (source : String) (reattach : Bool)
    (documents : List ConfigDocument) : TenantState × Option String :=
  let p := plan w s mode source reattach documents
  if !p.applicable then (s, some "Configuration bundle has blocking issues")
  else runOperations w source reattach s (operations source p)

end Portability

end Eudiplo
