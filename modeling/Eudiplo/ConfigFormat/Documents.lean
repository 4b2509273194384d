import Eudiplo.Portability.Export
import Eudiplo.Shared.Results
import Mathlib

/-!
# Configuration documents

`resolveConfigIdentity`, `resourceId` and `normalizeDocument`: the kind and the version of a
document are those of its schema, and its id is in its spec.  Documents are parsed JSON.
-/

namespace Eudiplo

open Portability

namespace ConfigFormat

abbrev Checked (α : Type) := Except String α

/-! ## Identity -/

/-- The file of a kind in `CONFIG_FORMATS`, and its version. -/
def configFormat : ConfigResourceKind → String × Nat
  | .Tenant => ("TenantConfigFile", 1)
  | .Client => ("ClientConfigFile", 1)
  | .KmsConfig => ("KmsConfigFile", 1)
  | .KeyChain => ("KeyChainConfigFile", 1)
  | .RegistrarConfig => ("RegistrarConfigFile", 1)
  | .IssuanceConfig => ("IssuanceConfigFile", 3)
  | .CredentialConfig => ("CredentialConfigFile", 1)
  | .PresentationConfig => ("PresentationConfigFile", 3)
  | .AttributeProvider => ("AttributeProviderConfigFile", 1)
  | .WebhookEndpoint => ("WebhookEndpointConfigFile", 1)
  | .TrustList => ("TrustListConfigFile", 1)
  | .StatusList => ("StatusListConfigFile", 1)

/-- `CONFIG_RESOURCE_KINDS`. -/
def configResourceKinds : List ConfigResourceKind :=
  [.Tenant, .Client, .KmsConfig, .KeyChain, .RegistrarConfig, .IssuanceConfig, .CredentialConfig,
    .PresentationConfig, .AttributeProvider, .WebhookEndpoint, .TrustList, .StatusList]

/-- `CONFIG_SINGLETON_IDS`. -/
def singletonId : ConfigResourceKind → Option String
  | .Tenant => some "tenant"
  | .KmsConfig => some "kms"
  | .RegistrarConfig => some "registrar"
  | .IssuanceConfig => some "issuance"
  | _ => none

/-- `Number.MAX_SAFE_INTEGER`. -/
def maxSafeInteger : Nat := 2 ^ 53 - 1

def digitsValue (digits : List Char) : Nat :=
  digits.foldl (fun n c => n * 10 + (c.toNat - '0'.toNat)) 0

def afterPrefix (pre text : List Char) : Option (List Char) :=
  if pre.isPrefixOf text then some (text.drop pre.length) else none

/-- The groups of the schema pattern
`/^https:\/\/eudiplo\.dev\/schemas\/v([1-9][0-9]*)\/([A-Za-z]+)\.schema\.json$/`. -/
def schemaGroups (schema : String) : Option (List Char × List Char) := do
  let text ← afterPrefix "https://eudiplo.dev/schemas/v".toList schema.toList
  let digits := text.takeWhile Char.isDigit
  let text ← afterPrefix ['/'] (text.dropWhile Char.isDigit)
  let file := text.takeWhile Char.isAlpha
  if text.dropWhile Char.isAlpha = ".schema.json".toList ∧ file ≠ [] ∧
      digits.head?.all (· == '0') = false then
    some (digits, file)
  else none

structure ConfigIdentity where
  kind : ConfigResourceKind
  version : Nat
  deriving DecidableEq

def resolveConfigIdentity (input : Json) : Checked ConfigIdentity :=
  match input.field? "$schema" with
  | some (.str schema) =>
    match schemaGroups schema with
    | none => .error ("Unknown configuration schema: " ++ schema)
    | some (digits, file) =>
      match configResourceKinds.find? fun kind => (configFormat kind).1.toList == file with
      | none => .error ("Unknown configuration schema: " ++ schema)
      | some kind =>
        if maxSafeInteger < digitsValue digits then
          .error ("Unknown configuration schema: " ++ schema)
        else if (configFormat kind).2 < digitsValue digits then
          .error (kind.name ++ " version " ++ toString (digitsValue digits) ++
            " is newer than supported version " ++ toString (configFormat kind).2)
        else .ok ⟨kind, digitsValue digits⟩
  | _ => .error "$schema must be a canonical EUDIPLO schema URL"

def specId (kind : ConfigResourceKind) (spec : Option Json) : Checked String :=
  match singletonId kind with
  | some id => .ok id
  | none =>
    let field := if kind = .Client then "clientId" else "id"
    match (spec.bind (Json.field? field)).bind Json.str? with
    | some id =>
      if nonEmpty (some id) then .ok id
      else .error ("Configuration spec." ++ field ++ " is required")
    | none => .error ("Configuration spec." ++ field ++ " is required")

def resourceId (input : Json) : Checked String := do
  let identity ← resolveConfigIdentity input
  specId identity.kind (input.field? "spec")

/-! ## Normal form -/

/-- `ConfigDocument`: its schema is the one of the kind and the version. -/
structure ConfigDocument where
  kind : ConfigResourceKind
  version : Nat
  metadata : List (String × Json)
  spec : List (String × Json)

/-- Is a number an integer that is safe and at least one? -/
def isPositiveInteger : Json → Bool
  | .num mantissa exponent =>
    mantissa % 10 ^ exponent == 0 && 1 ≤ mantissa / 10 ^ exponent &&
      mantissa / 10 ^ exponent ≤ maxSafeInteger
  | _ => false

/-- `["unmanaged", "file-managed"].includes(String(v))`: the text of an array of one item is the
text of the item. -/
def isOwnership : Json → Bool
  | .str s => s == "unmanaged" || s == "file-managed"
  | .arr [item] => isOwnership item
  | _ => false

def checkMetadata (metadata : List (String × Json)) : Checked Unit :=
  let unknown := (metadata.map (·.1)).filter fun key => !(["generation", "ownership"].contains key)
  if unknown ≠ [] then
    .error ("Invalid configuration metadata: unsupported propert" ++
      (if unknown.length = 1 then "y " else "ies ") ++ String.intercalate ", " unknown)
  else if !((Json.obj metadata).field? "generation").all isPositiveInteger then
    .error "Invalid configuration metadata: generation must be a positive integer"
  else if !((Json.obj metadata).field? "ownership").all isOwnership then
    .error "Invalid configuration metadata: ownership must be unmanaged or file-managed"
  else .ok ()

/-- `input.metadata ?? {}`. -/
def metadataOf (input : Json) : Json :=
  match input.field? "metadata" with
  | none | some .null => .obj []
  | some metadata => metadata

/-- The rest of `normalizeDocument`, once the schema is known. -/
def normalizeAs (identity : ConfigIdentity) (input : Json) (members : List (String × Json)) :
    Checked ConfigDocument :=
  if members.any fun member => !(["$schema", "kind", "metadata", "spec"].contains member.1) then
    .error "Unknown configuration envelope property"
  else
    match metadataOf input, input.field? "spec" with
    | .obj metadata, some (.obj spec) => do
      checkMetadata metadata
      let _ ← specId identity.kind (some (.obj spec))
      if ((input.field? "kind").all fun kind => kind.str? == some identity.kind.name) = true then
        return ⟨identity.kind, identity.version, metadata, spec⟩
      else .error "kind conflicts with $schema"
    | _, _ => .error "An object spec and valid metadata are required"

def normalizeDocument (input : Json) : Checked ConfigDocument :=
  match input with
  | .obj members => do
    let identity ← resolveConfigIdentity input
    normalizeAs identity input members
  | _ => .error "Invalid configuration document envelope"

theorem identity_of_normalizeDocument {input : Json} {document : ConfigDocument}
    (h : normalizeDocument input = .ok document) :
    resolveConfigIdentity input = .ok ⟨document.kind, document.version⟩ := by
  unfold normalizeDocument at h
  split at h
  · obtain ⟨identity, hidentity, h⟩ := Results.bind_eq_ok.mp h
    rw [hidentity]
    unfold normalizeAs at h
    split at h
    · cases h
    · split at h
      · obtain ⟨_, _, h⟩ := Results.bind_eq_ok.mp h
        obtain ⟨_, _, h⟩ := Results.bind_eq_ok.mp h
        split at h
        · cases h
          rfl
        · cases h
      · cases h
  · cases h

end ConfigFormat

end Eudiplo
