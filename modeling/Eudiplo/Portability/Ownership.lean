import Eudiplo.Shared.Values
import Eudiplo.Storage.Table

/-!
# Who owns a configuration resource

`ConfigOwnershipService`: each resource of a tenant is unmanaged, managed by a file source, or
detached from one, with a generation.  The tenant is implied; its lock serializes the operations.
-/

namespace Eudiplo

open Storage

namespace Portability

/-! ## Data -/

inductive ConfigResourceKind where
  | Tenant
  | Client
  | KmsConfig
  | KeyChain
  | RegistrarConfig
  | IssuanceConfig
  | CredentialConfig
  | PresentationConfig
  | AttributeProvider
  | WebhookEndpoint
  | TrustList
  | StatusList
  deriving DecidableEq

structure ResourceRef where
  kind : ConfigResourceKind
  id : String
  deriving DecidableEq

inductive ConfigOwnership where
  | unmanaged
  | fileManaged
  | detached
  deriving DecidableEq

/-- `ConfigResourceMetadataEntity`. -/
structure ConfigMetadata where
  ref : ResourceRef
  ownership : ConfigOwnership
  generation : Nat
  source : Option String := none
  deriving DecidableEq

structure StoredResource where
  ref : ResourceRef
  spec : Json

/-- **The configuration of a tenant**: its resources, and who owns them. -/
structure TenantState where
  resources : Table StoredResource.ref
  ownership : Table ConfigMetadata.ref

namespace TenantState

def spec? (s : TenantState) (ref : ResourceRef) : Option Json := (s.resources.get ref).map (·.spec)

/-- Does the resource exist? -/
def stores (s : TenantState) (ref : ResourceRef) : Bool := (s.spec? ref).isSome

def putSpec (s : TenantState) (ref : ResourceRef) (spec : Json) : TenantState :=
  { s with
    resources :=
      s.resources.upsert ⟨ref, spec⟩ (fun row => { row with spec := spec }) (fun _ => rfl) }

def putMetadata (s : TenantState) (m : ConfigMetadata) : TenantState :=
  { s with
    ownership := s.ownership.upsert m (fun row => { m with ref := row.ref }) (fun _ => rfl) }

/-- `remove`. -/
def removeMetadata (s : TenantState) (ref : ResourceRef) : TenantState :=
  { s with ownership := s.ownership.deleteWhere fun m => m.ref == ref }

@[simp] theorem spec?_putSpec (s : TenantState) (ref ref' : ResourceRef) (spec : Json) :
    (s.putSpec ref spec).spec? ref' = if ref = ref' then some spec else s.spec? ref' := by
  unfold spec? putSpec
  dsimp only
  rw [Table.get_upsert]
  by_cases h : ref = ref'
  · rw [if_pos h, if_pos h]
    cases s.resources.get ref' <;> rfl
  · rw [if_neg h, if_neg h]

@[simp] theorem ownership_putSpec (s : TenantState) (ref : ResourceRef) (spec : Json) :
    (s.putSpec ref spec).ownership = s.ownership := rfl

@[simp] theorem spec?_putMetadata (s : TenantState) (m : ConfigMetadata) (ref : ResourceRef) :
    (s.putMetadata m).spec? ref = s.spec? ref := rfl

@[simp] theorem get_putMetadata (s : TenantState) (m : ConfigMetadata) (ref : ResourceRef) :
    (s.putMetadata m).ownership.get ref =
      if m.ref = ref then some m else s.ownership.get ref := by
  unfold putMetadata
  dsimp only
  rw [Table.get_upsert]
  by_cases h : m.ref = ref
  · rw [if_pos h, if_pos h]
    cases hget : s.ownership.get ref with
    | none => rfl
    | some row =>
      have hrow : row.ref = m.ref := (Table.get_key hget).trans h.symm
      show some { m with ref := row.ref } = some m
      rw [hrow]
  · rw [if_neg h, if_neg h]

@[simp] theorem spec?_removeMetadata (s : TenantState) (ref ref' : ResourceRef) :
    (s.removeMetadata ref).spec? ref' = s.spec? ref' := rfl

@[simp] theorem get_removeMetadata (s : TenantState) (ref ref' : ResourceRef) :
    (s.removeMetadata ref).ownership.get ref' =
      if ref' = ref then none else s.ownership.get ref' := by
  unfold removeMetadata
  dsimp only
  rw [Table.get_deleteWhere]
  by_cases h : ref' = ref
  · rw [if_pos h]
    refine Option.filter_eq_none_iff.mpr fun m hm => ?_
    simp [Table.get_key hm, h]
  · rw [if_neg h]
    cases hget : s.ownership.get ref' with
    | none => rfl
    | some m => exact Option.filter_some_pos (by simp [Table.get_key hget, h])

end TenantState

/-! ## Sources -/

def trimSeparators (folder : List Char) : List Char :=
  (folder.reverse.dropWhile fun c => c == '/' || c == Char.ofNat 92).reverse

/-- `sourceInScope`: the source itself, or a file below the folder of a folder source. -/
def sourceInScope (entrySource : Option String) (source : String) : Bool :=
  match entrySource with
  | none => false
  | some entrySource =>
    if entrySource.isEmpty then false
    else if entrySource == source then true
    else if !"folder:".toList.isPrefixOf source.toList then false
    else
      let folder := trimSeparators (source.toList.drop "folder:".length)
      (folder ++ ['/']).isPrefixOf entrySource.toList ||
        (folder ++ [Char.ofNat 92]).isPrefixOf entrySource.toList

/-! ## The service -/

/-- `get`: a resource without a row is unmanaged. -/
def metadataOf (s : TenantState) (ref : ResourceRef) : ConfigMetadata :=
  (s.ownership.get ref).getD { ref, ownership := .unmanaged, generation := 1 }

theorem metadataOf_of_get {s : TenantState} {ref : ResourceRef} {m : ConfigMetadata}
    (h : s.ownership.get ref = some m) : metadataOf s ref = m := by
  unfold metadataOf
  rw [h]
  rfl

theorem metadataOf_congr {s s' : TenantState} {ref : ResourceRef}
    (h : s'.ownership.get ref = s.ownership.get ref) : metadataOf s' ref = metadataOf s ref := by
  unfold metadataOf
  rw [h]

/-- `markApplied` of an import: the resource is managed by the source. -/
def markApplied (s : TenantState) (ref : ResourceRef) (generation : Nat) (source : String)
    (allowGenerationReset : Bool) : Except String TenantState :=
  if !allowGenerationReset && generation < (metadataOf s ref).generation then
    .error "has stale generation"
  else .ok (s.putMetadata { ref, ownership := .fileManaged, generation, source := some source })

/-- `detach`: the former source stays. -/
def detach (s : TenantState) (ref : ResourceRef) : Except String TenantState :=
  let current := metadataOf s ref
  match current.ownership with
  | .detached => .ok s
  | .unmanaged => .error "is not file-managed and cannot be detached."
  | .fileManaged => .ok (s.putMetadata { current with ownership := .detached, ref })

def assertMutable (s : TenantState) (ref : ResourceRef) : Except String Unit :=
  if (metadataOf s ref).ownership = .fileManaged then
    .error "Detach it before changing it through the API or UI."
  else .ok ()

/-- `recordApiMutation`: a detached resource stays detached. -/
def recordApiMutation (s : TenantState) (ref : ResourceRef) (create : Bool) : TenantState :=
  let stored := s.ownership.get ref
  let isDetached := stored.any fun m => m.ownership == .detached
  s.putMetadata {
    ref
    ownership := if isDetached then .detached else .unmanaged
    generation := if create && stored.isNone then 1
      else ((stored.map (·.generation)).getD 1) + 1
    source := if isDetached then stored.bind (·.source) else none }

end Portability

end Eudiplo
