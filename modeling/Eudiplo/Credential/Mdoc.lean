import Eudiplo.Shared.Values

/-!
# The claims of an mdoc

`addClaimsToIssuer` of the mdoc issuer, over the field definitions of a credential configuration:
static defaults are grouped by the namespace of their field, and the resolved claims are put into
the default namespace, except those whose name is a namespace with defaults.
-/

namespace Eudiplo

namespace Mdoc

/-! ## Data -/

/-- An element of a claim path: a name, a position of an array, or `null` for all positions. -/
inductive Segment where
  | name (s : String)
  | index (i : Nat)
  | all
  deriving DecidableEq

/-- `ClaimFieldDefinition`, as far as the claims are concerned. -/
inductive ClaimFieldDefinition where
  | field (path : List Segment) (isArray : Bool) (declaredNamespace : Option String)
      (defaultValue : Option Json) (children : List ClaimFieldDefinition)

structure Field where
  path : List Segment
  declaredNamespace : Option String
  defaultValue : Option Json
  hasChildren : Bool

/-- A JavaScript object: the value of a name is the first. -/
abbrev Members := List (String × Json)

/-! ## Fields -/

/-- `resolveChildPath`: a path that already starts with the parent's stays. -/
def resolveChildPath (parentPath : List Segment) (parentIsArray : Bool)
    (childPath : List Segment) : List Segment :=
  if parentPath.isPrefixOf childPath then childPath
  else
    match parentIsArray, childPath with
    | true, .name _ :: _ => parentPath ++ .all :: childPath
    | _, _ => parentPath ++ childPath

mutual

def flattenField (path : List Segment) : ClaimFieldDefinition → List Field
  | .field _ isArray declaredNamespace defaultValue children =>
    { path, declaredNamespace, defaultValue, hasChildren := !children.isEmpty } ::
      flattenChildren path isArray children

def flattenChildren (parentPath : List Segment) (parentIsArray : Bool) :
    List ClaimFieldDefinition → List Field
  | [] => []
  | .field path isArray declaredNamespace defaultValue children :: rest =>
    flattenField (resolveChildPath parentPath parentIsArray path)
        (.field path isArray declaredNamespace defaultValue children) ++
      flattenChildren parentPath parentIsArray rest

end

def flattenFields (fields : List ClaimFieldDefinition) : List Field :=
  fields.flatMap fun
    | .field path isArray declaredNamespace defaultValue children =>
      flattenField path (.field path isArray declaredNamespace defaultValue children)

/-- `getFieldNamespace`: the declared one, or the first name of a longer path; an empty name is
none. -/
def getFieldNamespace (f : Field) : Option String :=
  if truthy f.declaredNamespace then f.declaredNamespace
  else
    match f.path with
    | .name first :: _ :: _ => if first = "" then none else some first
    | _ => none

def segmentToKey : Segment → String
  | .name s => s
  | .index i => toString i
  | .all => "*"

def normalizedPath (fieldNamespace : String) (path : List Segment) : List Segment :=
  match path with
  | [] => []
  | first :: rest => if segmentToKey first = fieldNamespace then rest else first :: rest

/-! ## Values -/

/-- `{ ...object, [key]: value }`. -/
def setKey (members : Members) (key : String) (value : Json) : Members :=
  (key, value) :: members.filter (·.1 ≠ key)

/-- `{ ...left, ...right }`. -/
def spread (left right : Members) : Members :=
  right ++ left.filter fun m => (right.lookup m.1).isNone

/-- `items[i] = value`, on an array that may be shorter. -/
def setItem (items : List Json) (i : Nat) (value : Json) : List Json :=
  (items ++ List.replicate (i + 1 - items.length) Json.null).set i value

def childOf (current : Option Json) (next : List Segment) : Json :=
  match current with
  | some (.arr items) => .arr items
  | some (.obj members) => .obj members
  | _ =>
    match next with
    | .index _ :: _ => .arr []
    | _ => .obj []

/-- `Number(text)`, of the decimal text of a position; the empty text is zero. -/
def positionOf (text : String) : Option Nat :=
  if text.isEmpty then some 0
  else if text.toList.all Char.isDigit then text.toNat?
  else none

def getArrayIndex : Segment → Option Nat
  | .index i => some i
  | .name s => positionOf s
  | .all => none

def setValueAtPath : Json → List Segment → Json → Json
  | target, [], _ => target
  | .arr items, segment :: rest, value =>
    match getArrayIndex segment with
    | none => .arr items
    | some i => .arr (setItem items i
        (if rest.isEmpty then value else setValueAtPath (childOf items[i]? rest) rest value))
  | .obj members, segment :: rest, value =>
    .obj (setKey members (segmentToKey segment)
      (if rest.isEmpty then value
      else setValueAtPath (childOf (members.lookup (segmentToKey segment)) rest) rest value))
  | other, _ :: _, _ => other

def membersOf : Json → Members
  | .obj members => members
  | _ => []

/-! ## Namespaces -/

abbrev Namespaces := List (String × Members)

def elementsOf (namespaces : Namespaces) (ns : String) : Members :=
  (namespaces.lookup ns).getD []

def putNamespace (namespaces : Namespaces) (ns : String) (elements : Members) : Namespaces :=
  (ns, elements) :: namespaces.filter (·.1 ≠ ns)

def addDefault (byNamespace : Namespaces) (f : Field) : Namespaces :=
  match getFieldNamespace f, f.defaultValue with
  | some ns, some defaultValue =>
    putNamespace byNamespace ns (membersOf (setValueAtPath (.obj (elementsOf byNamespace ns))
      (normalizedPath ns f.path) defaultValue))
  | _, _ => byNamespace

/-- **`buildClaimsByNamespace`**: the static defaults. -/
def buildClaimsByNamespace (fields : List ClaimFieldDefinition) : Namespaces :=
  (flattenFields fields).foldl addDefault []

def defaultNamespaceClaims (fields : List ClaimFieldDefinition) (claims : Members) : Members :=
  claims.filter fun m => ((buildClaimsByNamespace fields).lookup m.1).isNone

/-- **`addClaimsToIssuer`**: the namespaces that are added to the mdoc. -/
def addClaimsToIssuer (fields : List ClaimFieldDefinition) (defaultNamespace : String)
    (claims : Members) : Namespaces :=
  let claimsByNamespace := buildClaimsByNamespace fields
  let kept := defaultNamespaceClaims fields claims
  let merged :=
    if kept.isEmpty then claimsByNamespace
    else putNamespace claimsByNamespace defaultNamespace
      (spread (elementsOf claimsByNamespace defaultNamespace) kept)
  merged.filter fun entry => !entry.2.isEmpty

def getDefaultNamespace (docType : String) : String :=
  if docType = "org.iso.18013.5.1.mDL" then "org.iso.18013.5.1" else docType

end Mdoc

end Eudiplo
