import Eudiplo.Credential.Mdoc

/-!
# What is derived from claim fields

`utils/derive.ts` of the credential configurations: claims, disclosure frame and JSON schema of a
list of field definitions, which are flattened first.  A JavaScript object is its own members; the
members that an object inherits and the sharing of objects between results are left out.
-/

namespace Eudiplo

namespace Derive

open Mdoc

/-! ## Fields -/

inductive FieldType where
  | string
  | number
  | integer
  | boolean
  | object
  | array
  deriving DecidableEq

def FieldType.text : FieldType → String
  | string => "string"
  | number => "number"
  | integer => "integer"
  | boolean => "boolean"
  | object => "object"
  | array => "array"

structure FieldDisplay where
  locale : String
  name : String

structure Field where
  path : List Segment
  type : FieldType
  defaultValue : Option Json
  mandatory : Bool
  disclosable : Bool
  declaredNamespace : Option String
  display : List FieldDisplay
  constraints : Members

inductive ClaimFieldDefinition where
  | field (own : Field) (children : List ClaimFieldDefinition)

/-- `resolveChildPath`: a path that already starts with the parent's stays; a name below an array
is one of its items. -/
def resolveChildPath (parentPath : List Segment) (parentType : FieldType)
    (childPath : List Segment) : List Segment :=
  if parentPath.isPrefixOf childPath then childPath
  else
    match parentType, childPath with
    | .array, .name _ :: _ => parentPath ++ .all :: childPath
    | _, _ => parentPath ++ childPath

mutual

def flattenField (path : List Segment) : ClaimFieldDefinition → List Field
  | .field own children => { own with path := path } :: flattenChildren path own.type children

def flattenChildren (parentPath : List Segment) (parentType : FieldType) :
    List ClaimFieldDefinition → List Field
  | [] => []
  | .field own children :: rest =>
    flattenField (resolveChildPath parentPath parentType own.path) (.field own children) ++
      flattenChildren parentPath parentType rest

end

def flattenFields (fields : List ClaimFieldDefinition) : List Field :=
  fields.flatMap fun
    | .field own children => flattenField own.path (.field own children)

def getFieldNamespace (field : Field) : Option String :=
  if truthy field.declaredNamespace then field.declaredNamespace
  else
    match field.path with
    | .name first :: _ :: _ => some first
    | _ => none

/-! ## Claims -/

def addClaim (claims : Json) (field : Field) : Json :=
  match field.defaultValue with
  | none => claims
  | some defaultValue => setValueAtPath claims field.path defaultValue

def buildClaims (fields : List ClaimFieldDefinition) : Json :=
  (flattenFields fields).foldl addClaim (.obj [])

def addDefault (byNamespace : Namespaces) (field : Field) : Namespaces :=
  match getFieldNamespace field, field.defaultValue with
  | some ns, some defaultValue =>
    if ns = "" then byNamespace
    else putNamespace byNamespace ns (membersOf (setValueAtPath (.obj (elementsOf byNamespace ns))
      (normalizedPath ns field.path) defaultValue))
  | _, _ => byNamespace

def buildClaimsByNamespace (fields : List ClaimFieldDefinition) : Namespaces :=
  (flattenFields fields).foldl addDefault []

/-! ## Disclosure frame -/

/-- A value in a disclosure frame: the names under `_sd`, or an object. -/
inductive FrameValue where
  | names (sd : List String)
  | node (members : List (String × FrameValue))

abbrev Frame := List (String × FrameValue)

namespace Frame

/-- The object under a key; anything else is replaced by an empty one. -/
def child (frame : Frame) (key : String) : Frame :=
  match frame.lookup key with
  | some (.node members) => members
  | _ => []

/-- The names under `_sd`. -/
def disclosed (frame : Frame) : List String :=
  match frame.lookup "_sd" with
  | some (.names sd) => sd
  | _ => []

def set (frame : Frame) (key : String) (value : FrameValue) : Frame :=
  (key, value) :: frame.filter (·.1 ≠ key)

/-- Adds a name to `_sd` once. -/
def addDisclosure (leaf : String) (frame : Frame) : Frame :=
  if leaf ∈ frame.disclosed then frame else frame.set "_sd" (.names (frame.disclosed ++ [leaf]))

/-- `ensureFrameNode`, and what is done at its node. -/
def atNode (update : Frame → Frame) (frame : Frame) : List Segment → Frame
  | [] => update frame
  | segment :: rest =>
    frame.set (segmentToKey segment)
      (.node (atNode update (frame.child (segmentToKey segment)) rest))

end Frame

def addToFrame (frame : Option Frame) (field : Field) : Option Frame :=
  match field.disclosable, field.path.getLast? with
  | true, some leaf =>
    some ((frame.getD []).atNode (Frame.addDisclosure (segmentToKey leaf)) field.path.dropLast)
  | _, _ => frame

def buildDisclosureFrame (fields : List ClaimFieldDefinition) : Option Frame :=
  (flattenFields fields).foldl addToFrame none

/-! ## JSON schema -/

def isArrayPathSegment : Segment → Bool
  | .name _ => false
  | _ => true

def deleteKeys (node : Members) (keys : List String) : Members :=
  node.filter fun member => !keys.contains member.1

def typeOf (node : Members) : Option String := (node.lookup "type").bind Json.str?

def strictObject : Members :=
  [("type", .str "object"), ("properties", .obj []), ("additionalProperties", .bool false)]

def markObjectStrict (node : Members) : Members :=
  if typeOf node = some "object" ∧ (node.lookup "additionalProperties").isNone then
    setKey node "additionalProperties" (.bool false)
  else node

def asArray (node : Members) : Members :=
  deleteKeys (setKey node "type" (.str "array")) ["properties", "additionalProperties", "required"]

/-- `cursor.properties ??= {}`; a value without members ends in a type error. -/
def propertiesOf (node : Members) : Option Members :=
  match node.lookup "properties" with
  | none => some []
  | some .null => some []
  | some (.obj properties) => some properties
  | some _ => none

/-- A value that `!value` replaces. -/
def isFalsy : Json → Bool
  | .null => true
  | .bool b => !b
  | .num mantissa _ => mantissa = 0
  | .str s => s = ""
  | _ => false

def propertySchema (properties : Members) (key : String) : Option Members :=
  match properties.lookup key with
  | none => some strictObject
  | some (.obj node) => some node
  | some value => if isFalsy value then some strictObject else none

def itemSchema (node : Members) : Members :=
  match node.lookup "items" with
  | some (.obj items) => items
  | _ => strictObject

/-- `ensureSchemaNode`, and what is done at its node. -/
def atSchemaNode (update : Members → Option Members) : Members → List Segment → Option Members
  | node, [] => update node
  | node, segment :: rest =>
    if isArrayPathSegment segment then
      let array := if typeOf node = some "array" then node else asArray node
      (atSchemaNode update (markObjectStrict (itemSchema array)) rest).map fun items =>
        setKey array "items" (.obj items)
    else do
      let properties ← propertiesOf node
      let child ← propertySchema properties (segmentToKey segment)
      let child ← atSchemaNode update (markObjectStrict child) rest
      return setKey node "properties" (.obj (setKey properties (segmentToKey segment) (.obj child)))

def stripNonObjectKeywords (schema : Members) : Members :=
  match typeOf schema with
  | none => schema
  | some type =>
    if type = "" ∨ type = "object" then schema
    else deleteKeys schema ["properties", "additionalProperties", "required"]

def keepMember (kept : Bool) (existing merged : Members) (key : String) : Members :=
  match kept, existing.lookup key with
  | true, some value => setKey merged key value
  | _, _ => merged

def mergeLeafSchema (existing next : Members) : Members :=
  let hasProperties := match existing.lookup "properties" with
    | some (.obj properties) => !properties.isEmpty
    | _ => false
  let hasRequired := match existing.lookup "required" with
    | some (.arr required) => !required.isEmpty
    | _ => false
  let merged := keepMember hasProperties existing next "properties"
  let merged := keepMember (next.lookup "additionalProperties").isNone existing merged
    "additionalProperties"
  stripNonObjectKeywords (keepMember hasRequired existing merged "required")

def getDisplayTitle (display : List FieldDisplay) : Option String :=
  (display.find? fun entry => "en".toList.isPrefixOf (entry.locale.toLower.toList)).map (·.name)
    |>.or (display.head?.map (·.name))

def buildLeafSchema (field : Field) : Members :=
  let leafSchema := setKey field.constraints "type" (.str field.type.text)
  match getDisplayTitle field.display with
  | none => leafSchema
  | some title => if title = "" then leafSchema else setKey leafSchema "title" (.str title)

def addRequired (parent : Members) (key : String) : Members :=
  let required := ((parent.lookup "required").bind Json.arr?).getD []
  if required.any fun entry => entry.str? == some key then parent
  else setKey parent "required" (.arr (required ++ [.str key]))

def mergeArrayLeafSchema (parent leafSchema : Members) : Members :=
  let array := asArray parent
  match array.lookup "items" with
  | some (.obj items) => setKey array "items" (.obj (mergeLeafSchema items leafSchema))
  | _ => setKey array "items" (.obj leafSchema)

def mergeObjectLeafSchema (parent : Members) (key : String) (leafSchema : Members)
    (mandatory : Bool) : Option Members :=
  (propertiesOf parent).map fun properties =>
    let merged := match properties.lookup key with
      | some (.obj existing) => mergeLeafSchema existing leafSchema
      | _ => leafSchema
    let parent := setKey parent "properties" (.obj (setKey properties key (.obj merged)))
    if mandatory then addRequired parent key else parent

/-- `applyLeafSchema`; a field without a path is passed over. -/
def applyLeafSchema (root : Members) (field : Field) : Option Members :=
  match field.path.getLast? with
  | none => some root
  | some leaf =>
    atSchemaNode (fun parent =>
      if isArrayPathSegment leaf then some (mergeArrayLeafSchema parent (buildLeafSchema field))
      else mergeObjectLeafSchema parent (segmentToKey leaf) (buildLeafSchema field) field.mandatory)
      root field.path.dropLast

def schemaRoot : Members :=
  ("$schema", .str "https://json-schema.org/draft/2020-12/schema") :: strictObject

def buildJsonSchema (fields : List ClaimFieldDefinition) : Option Members :=
  (flattenFields fields).foldlM applyLeafSchema schemaRoot

end Derive

end Eudiplo
