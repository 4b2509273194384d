import Eudiplo.Portability.Export
import Eudiplo.ConfigFormat.Placeholders

/-!
# Credentials of a KMS configuration

`redactKmsConfig`, `restoreKmsSecrets` and `updateTenantConfig`: a walk through a configuration
replaces the value of each credential field, and a redacted value of an update is replaced by the
stored one of the provider with the same id and type.
-/

namespace Eudiplo

open Portability Placeholders

namespace KmsSecrets

/-! ## Paths -/

inductive PathKey where
  | index (i : Nat)
  | key (name : String)
  deriving DecidableEq

def PathKey.text : PathKey → String
  | .index i => toString i
  | .key name => name

def isSecretPath (path : List PathKey) : Bool :=
  kmsSecretPaths.any fun pattern =>
    pathMatches (segments pattern.toList) (path.map fun key => key.text.toList)

def at? : List PathKey → Json → Option Json
  | [], value => some value
  | key :: path, .obj members => ((Json.obj members).field? key.text).bind (at? path)
  | .index i :: path, .arr items => items[i]?.bind (at? path)
  | _ :: _, _ => none

/-! ## The walk -/

section Walk

variable {m : Type → Type} [Monad m] (replace : Json → List PathKey → m Json)

mutual

def mapSecrets (path : List PathKey) : Json → m Json
  | .arr items => do
    let items ← mapSecretItems path 0 items
    return .arr items
  | .obj members => do
    let members ← mapSecretMembers path members
    return .obj members
  | value => return value

def mapSecretItems (path : List PathKey) (index : Nat) : List Json → m (List Json)
  | [] => return []
  | item :: items => do
    let item ← mapSecrets (path ++ [.index index]) item
    let items ← mapSecretItems path (index + 1) items
    return item :: items

def mapSecretMembers (path : List PathKey) : List (String × Json) → m (List (String × Json))
  | [] => return []
  | (key, item) :: members => do
    let item ← if isSecretPath (path ++ [.key key]) then replace item (path ++ [.key key])
      else mapSecrets (path ++ [.key key]) item
    let members ← mapSecretMembers path members
    return (key, item) :: members

end

end Walk

/-! ## Redacting -/

/-- `KMS_REDACTED_SECRET`. -/
def kmsRedactedSecret : String := "<redacted>"

/-- `ENV_PLACEHOLDER.test`. -/
def isEnvPlaceholder (text : String) : Bool :=
  match text.toList with
  | '$' :: '\x7b' :: rest =>
    rest.getLast? == some '\x7d' && !rest.dropLast.isEmpty && rest.dropLast.all isVariableChar
  | _ => false

def redactSecret (keepEnvPlaceholders : Bool) (secret : Json) : Json :=
  match secret with
  | .str text =>
    if keepEnvPlaceholders && isEnvPlaceholder text then secret else .str kmsRedactedSecret
  | _ => .str kmsRedactedSecret

def redactKmsConfig (keepEnvPlaceholders : Bool) (config : Json) : Json :=
  Id.run (mapSecrets (fun secret _ => pure (redactSecret keepEnvPlaceholders secret)) [] config)

/-! ## Restoring -/

/-- `secret === KMS_REDACTED_SECRET`. -/
def isRedacted : Json → Bool
  | .str text => text == kmsRedactedSecret
  | _ => false

def idOf (provider : Json) : Option String := (provider.field? "id").bind Json.str?

def typeOf (provider : Json) : Option String := (provider.field? "type").bind Json.str?

mutual

def Distinct : Json → Prop
  | .arr items => DistinctItems items
  | .obj members => (members.map (·.1)).Nodup ∧ DistinctMembers members
  | _ => True

def DistinctItems : List Json → Prop
  | [] => True
  | item :: items => Distinct item ∧ DistinctItems items

def DistinctMembers : List (String × Json) → Prop
  | [] => True
  | (_, item) :: members => Distinct item ∧ DistinctMembers members

end

/-- **A stored configuration**: a value of the schema, whose providers have an id and a type each,
and the ids differ. -/
structure StoredConfig where
  value : Json
  distinct : Distinct value
  providers : List Json
  listed : value.field? "providers" = some (.arr providers)
  identified : ∀ provider ∈ providers, (idOf provider).isSome ∧ (typeOf provider).isSome
  unique : (providers.map idOf).Nodup

/-- `storedProviders.get`: the last provider of an id. -/
def storedProvider (stored : Option StoredConfig) (id : Option String) : Option Json :=
  ((stored.map (·.providers)).getD []).reverse.find? fun provider =>
    idOf provider == id && id.isSome

/-- The message of a `KmsSecretNotStoredError`. -/
def notStored (provider : Json) (index : PathKey) (field : List PathKey) : String :=
  "providers[" ++ index.text ++ "] ('" ++ (idOf provider).getD "undefined" ++ "')." ++
    String.intercalate "." (field.map PathKey.text) ++ " is '" ++ kmsRedactedSecret ++
    "' but the tenant KMS configuration stores no value for it; send the credential"

def restoreSecret (update : Json) (stored : Option StoredConfig) (secret : Json)
    (path : List PathKey) : Except String Json :=
  if !isRedacted secret then .ok secret
  else
    match path with
    | first :: index :: field =>
      let provider := (at? [first, index] update).getD .null
      let storedSecret := (storedProvider stored (idOf provider)).bind fun storedProvider =>
        if typeOf storedProvider = typeOf provider then at? field storedProvider else none
      match storedSecret with
      | none => .error (notStored provider index field)
      | some storedSecret =>
        if isRedacted storedSecret then .error (notStored provider index field)
        else .ok storedSecret
    | _ => .error ""

def restoreKmsSecrets (update : Json) (stored : Option StoredConfig) : Except String Json :=
  mapSecrets (restoreSecret update stored) [] update

/-! ## Updates -/

inductive UpdateError where
  | badRequest (message : String)
  | notFound (message : String)
  | other (message : String)

/-- **What an update asks**: the folder of the configuration, how its file is read, the schema, and
the effective configuration after the file was written. -/
structure KmsTenantWorld where
  configFolder : Bool
  getTenantConfig : Option Json → Except String (Option StoredConfig)
  validateConfig : Json → Except String Json
  getEffectiveConfig : Json → Except String Json

/-- `saveTenantConfig`, and the file after it. -/
def saveTenantConfig (w : KmsTenantWorld) (file : Option Json) (config : Json) :
    Except UpdateError Json × Option Json :=
  if !w.configFolder then (.error (.notFound "CONFIG_FOLDER is not configured"), file)
  else
    match w.validateConfig config with
    | .error message => (.error (.badRequest message), file)
    | .ok validated => ((w.getEffectiveConfig validated).mapError UpdateError.other, some validated)

/-- **`updateTenantConfig`**, and the file after it. -/
def updateTenantConfig (w : KmsTenantWorld) (file : Option Json) (config : Json) :
    Except UpdateError Json × Option Json :=
  match w.getTenantConfig file with
  | .error message => (.error (.other message), file)
  | .ok stored =>
    match restoreKmsSecrets config stored with
    | .error message => (.error (.badRequest message), file)
    | .ok restored => saveTenantConfig w file restored

end KmsSecrets

end Eudiplo
