import Eudiplo.ConfigFormat.Documents

/-!
# Serialized documents

`schemaUrl` and `serializeDocument`, and `normalizeDocument` on values with identities: an array or
an object of the input has one, and `structuredClone` gives each of its copies a new one.
-/

namespace Eudiplo

open Portability

namespace ConfigFormat

def schemaUrl (kind : ConfigResourceKind) (version : Nat) : String :=
  "https://eudiplo.dev/schemas/v" ++ toString version ++ "/" ++ (configFormat kind).1 ++
    ".schema.json"

def ConfigDocument.toJson (document : ConfigDocument) : Json :=
  .obj [("$schema", .str (schemaUrl document.kind document.version)),
    ("kind", .str document.kind.name), ("metadata", .obj document.metadata),
    ("spec", .obj document.spec)]

def ConfigDocument.toFile (document : ConfigDocument) : Json :=
  .obj (("$schema", .str (schemaUrl document.kind document.version)) ::
    (if document.metadata = [] then [] else [("metadata", .obj document.metadata)]) ++
    [("spec", .obj document.spec)])

def serializeDocument (input : Json) : Checked Json := do
  let document ← normalizeDocument input
  return document.toFile

/-! ## Identities -/

inductive RefJson where
  | null
  | bool (b : Bool)
  | num (mantissa : Int) (exponent : Nat)
  | str (s : String)
  | arr (id : Nat) (items : List RefJson)
  | obj (id : Nat) (members : List (String × RefJson))

namespace RefJson

mutual

def erase : RefJson → Json
  | null => .null
  | bool b => .bool b
  | num mantissa exponent => .num mantissa exponent
  | str s => .str s
  | arr _ items => .arr (eraseItems items)
  | obj _ members => .obj (eraseMembers members)

def eraseItems : List RefJson → List Json
  | [] => []
  | item :: items => item.erase :: eraseItems items

def eraseMembers : List (String × RefJson) → List (String × Json)
  | [] => []
  | (name, v) :: members => (name, v.erase) :: eraseMembers members

end

mutual

def ids : RefJson → List Nat
  | arr id items => id :: idsItems items
  | obj id members => id :: idsMembers members
  | _ => []

def idsItems : List RefJson → List Nat
  | [] => []
  | item :: items => item.ids ++ idsItems items

def idsMembers : List (String × RefJson) → List Nat
  | [] => []
  | (_, v) :: members => v.ids ++ idsMembers members

end

mutual

/-- `structuredClone`, and the next identity. -/
def clone (next : Nat) : RefJson → RefJson × Nat
  | null => (null, next)
  | bool b => (bool b, next)
  | num mantissa exponent => (num mantissa exponent, next)
  | str s => (str s, next)
  | arr _ items =>
    let copies := cloneItems (next + 1) items
    (arr next copies.1, copies.2)
  | obj _ members =>
    let copies := cloneMembers (next + 1) members
    (obj next copies.1, copies.2)

def cloneItems (next : Nat) : List RefJson → List RefJson × Nat
  | [] => ([], next)
  | item :: items =>
    let copy := item.clone next
    let copies := cloneItems copy.2 items
    (copy.1 :: copies.1, copies.2)

def cloneMembers (next : Nat) : List (String × RefJson) → List (String × RefJson) × Nat
  | [] => ([], next)
  | (name, v) :: members =>
    let copy := v.clone next
    let copies := cloneMembers copy.2 members
    ((name, copy.1) :: copies.1, copies.2)

end

def field? (name : String) : RefJson → Option RefJson
  | obj _ members => (members.find? fun member => member.1 == name).map (·.2)
  | _ => none

end RefJson

structure RefDocument where
  kind : ConfigResourceKind
  version : Nat
  metadata : RefJson
  spec : RefJson

/-- `input.metadata ?? {}`, where the literal is new. -/
def metadataRef (next : Nat) (input : RefJson) : RefJson :=
  match input.field? "metadata" with
  | none | some .null => .obj next []
  | some metadata => metadata

/-- **`normalizeDocument`** on values with identities: the spec and the metadata are cloned. -/
def normalizeRefs (next : Nat) (input : RefJson) : Checked (RefDocument × Nat) := do
  let document ← normalizeDocument input.erase
  let spec := ((input.field? "spec").getD .null).clone (next + 1)
  let metadata := (metadataRef next input).clone spec.2
  return (⟨document.kind, document.version, metadata.1, spec.1⟩, metadata.2)

/-- Has an object members? -/
def RefJson.hasMembers : RefJson → Bool
  | .obj _ (_ :: _) => true
  | _ => false

/-- **`serializeDocument`** on values with identities: the file is a new object with the clones. -/
def serializeRefs (next : Nat) (input : RefJson) : Checked (RefJson × Nat) := do
  let normalized ← normalizeRefs next input
  let document := normalized.1
  return (.obj normalized.2 (("$schema", .str (schemaUrl document.kind document.version)) ::
    (if document.metadata.hasMembers then [("metadata", document.metadata)] else []) ++
    [("spec", document.spec)]), normalized.2 + 1)

end ConfigFormat

end Eudiplo
