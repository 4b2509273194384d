import Eudiplo.Credential.Derive
import Eudiplo.Properties.MdocClaims

/-!
# What the SDK derives from claim fields

`config/derive.ts` of the SDK: its own copy of the functions of the backend.  It refuses a relative
path below an array that starts with a wildcard and goes on, and a field without a declared
namespace is in none.
-/

namespace Eudiplo

namespace SdkDerive

open Derive (ClaimFieldDefinition Field FieldType Frame)
open Mdoc (Segment segmentToKey Members Namespaces setKey setItem childOf positionOf membersOf
  elementsOf putNamespace normalizedPath)

/-- `resolveChildPath`; `none` is the error. -/
def resolveChildPath (parentPath : List Segment) (parentType : FieldType)
    (childPath : List Segment) : Option (List Segment) :=
  if parentPath.isPrefixOf childPath then some childPath
  else
    match parentType, childPath with
    | .array, .all :: _ :: _ => none
    | .array, [.all] => some (parentPath ++ [.all])
    | .array, .name s :: rest => some (parentPath ++ .all :: .name s :: rest)
    | _, _ => some (parentPath ++ childPath)

mutual

def flattenField (path : List Segment) : ClaimFieldDefinition → Option (List Field)
  | .field own children =>
    (flattenChildren path own.type children).map fun flat => { own with path := path } :: flat

def flattenChildren (parentPath : List Segment) (parentType : FieldType) :
    List ClaimFieldDefinition → Option (List Field)
  | [] => some []
  | .field own children :: rest =>
    (resolveChildPath parentPath parentType own.path).bind fun path =>
      (flattenField path (.field own children)).bind fun flat =>
        (flattenChildren parentPath parentType rest).map fun later => flat ++ later

end

def flattenFields : List ClaimFieldDefinition → Option (List Field)
  | [] => some []
  | .field own children :: rest =>
    (flattenField own.path (.field own children)).bind fun flat =>
      (flattenFields rest).map fun later => flat ++ later

def arrayIndex : Segment → Option Nat
  | .index i => some i
  | segment => positionOf (segmentToKey segment)

def setValueAtPath : Json → List Segment → Json → Json
  | target, [], _ => target
  | .arr items, segment :: rest, value =>
    match arrayIndex segment with
    | none => .arr items
    | some i => .arr (setItem items i
        (if rest.isEmpty then value else setValueAtPath (childOf items[i]? rest) rest value))
  | .obj members, segment :: rest, value =>
    .obj (setKey members (segmentToKey segment)
      (if rest.isEmpty then value
      else setValueAtPath (childOf (members.lookup (segmentToKey segment)) rest) rest value))
  | other, _ :: _, _ => other

def addClaim (claims : Json) (field : Field) : Json :=
  match field.defaultValue with
  | none => claims
  | some defaultValue => setValueAtPath claims field.path defaultValue

def buildClaims (fields : List ClaimFieldDefinition) : Option Json :=
  (flattenFields fields).map fun flat => flat.foldl addClaim (.obj [])

/-- **`buildDisclosureFrame`**, whose body is the backend's. -/
def buildDisclosureFrame (fields : List ClaimFieldDefinition) : Option (Option Frame) :=
  (flattenFields fields).map fun flat => flat.foldl Derive.addToFrame none

def addDefault (byNamespace : Namespaces) (field : Field) : Namespaces :=
  match field.declaredNamespace, field.defaultValue with
  | some ns, some defaultValue =>
    if ns = "" then byNamespace
    else putNamespace byNamespace ns (membersOf (setValueAtPath (.obj (elementsOf byNamespace ns))
      (normalizedPath ns field.path) defaultValue))
  | _, _ => byNamespace

def buildClaimsByNamespace (fields : List ClaimFieldDefinition) : Option Namespaces :=
  (flattenFields fields).map fun flat => flat.foldl addDefault []

end SdkDerive

end Eudiplo

/-!
# The artifacts of the backend and of the SDK

Both flatten the fields first.  The SDK refuses a child of an array whose relative path starts
with a wildcard and goes on; where it does not, the flattened fields are the same
(`flattenFields_eq`), and claims and frame are folds of the same steps over them.
-/

namespace Eudiplo

namespace SdkDerive

open Derive (ClaimFieldDefinition Field FieldType Frame)
open Mdoc (Segment segmentToKey Members Namespaces putNamespace)

variable {fields : List ClaimFieldDefinition} {path : List Segment}

/-- A relative path below an array that starts with a wildcard and goes on. -/
def LeadingWildcard (parentPath : List Segment) (parentType : FieldType)
    (childPath : List Segment) : Prop :=
  parentPath.isPrefixOf childPath = false ∧ parentType = .array ∧
    ∃ segment rest, childPath = .all :: segment :: rest

mutual

def Relative (path : List Segment) : ClaimFieldDefinition → Prop
  | .field own children => RelativeChildren path own.type children

def RelativeChildren (parentPath : List Segment) (parentType : FieldType) :
    List ClaimFieldDefinition → Prop
  | [] => True
  | .field own children :: rest =>
    ¬ LeadingWildcard parentPath parentType own.path ∧
      Relative (Derive.resolveChildPath parentPath parentType own.path) (.field own children) ∧
      RelativeChildren parentPath parentType rest

end

/-- **No relative path below an array** starts with a wildcard and goes on. -/
def RelativePaths (fields : List ClaimFieldDefinition) : Prop :=
  ∀ field ∈ fields, match field with
    | .field own children => Relative own.path (.field own children)

/-- The path of a field says of no namespace that it does not declare. -/
def NamespaceDeclared (field : Field) : Prop :=
  truthy field.declaredNamespace = true ∨
    ∀ ns, Derive.getFieldNamespace field = some ns → ns = ""

/-- **Every default** is in the namespace that its field declares. -/
def NamespacesDeclared (fields : List ClaimFieldDefinition) : Prop :=
  ∀ field ∈ Derive.flattenFields fields, field.defaultValue.isSome = true →
    NamespaceDeclared field

/-- Both return the same value, or both reject; the backend rejects nothing. -/
def Agree {α : Type} (sdk : Option α) (backend : α) : Prop := sdk = some backend

/-! ## Flattening -/

theorem resolveChildPath_eq {parentPath childPath : List Segment} {parentType : FieldType}
    (h : ¬ LeadingWildcard parentPath parentType childPath) :
    resolveChildPath parentPath parentType childPath =
      some (Derive.resolveChildPath parentPath parentType childPath) := by
  unfold resolveChildPath Derive.resolveChildPath
  split
  · rfl
  next hrelative =>
  split
  · next segment rest =>
    exact (h ⟨eq_false_of_ne_true hrelative, rfl, segment, rest, rfl⟩).elim
  · rfl
  · rfl
  · next hleading hitem hname =>
    split
    · next s rest => exact (hname s rest rfl rfl).elim
    · rfl

theorem resolveChildPath_none {parentPath childPath : List Segment} {parentType : FieldType}
    (h : LeadingWildcard parentPath parentType childPath) :
    resolveChildPath parentPath parentType childPath = none := by
  obtain ⟨hrelative, rfl, segment, rest, rfl⟩ := h
  unfold resolveChildPath
  rw [hrelative]
  rfl

mutual

theorem flattenField_eq (path : List Segment) : (field : ClaimFieldDefinition) →
    Relative path field → flattenField path field = some (Derive.flattenField path field)
  | .field own children, h => by
    rw [Relative] at h
    rw [flattenField, flattenChildren_eq path own.type children h, Derive.flattenField]
    rfl

theorem flattenChildren_eq (parentPath : List Segment) (parentType : FieldType) :
    (children : List ClaimFieldDefinition) → RelativeChildren parentPath parentType children →
      flattenChildren parentPath parentType children =
        some (Derive.flattenChildren parentPath parentType children)
  | [], _ => rfl
  | .field own children :: rest, h => by
    rw [RelativeChildren] at h
    obtain ⟨hpath, hfield, hrest⟩ := h
    rw [flattenChildren, resolveChildPath_eq hpath, Option.bind_some,
      flattenField_eq _ (.field own children) hfield, Option.bind_some,
      flattenChildren_eq parentPath parentType rest hrest, Derive.flattenChildren]
    rfl

end

mutual

theorem flattenField_relative (path : List Segment) : (field : ClaimFieldDefinition) →
    (flattenField path field).isSome = true → Relative path field
  | .field own children, h => by
    rw [flattenField, Option.isSome_map] at h
    rw [Relative]
    exact flattenChildren_relative path own.type children h

theorem flattenChildren_relative (parentPath : List Segment) (parentType : FieldType) :
    (children : List ClaimFieldDefinition) →
      (flattenChildren parentPath parentType children).isSome = true →
        RelativeChildren parentPath parentType children
  | [], _ => by rw [RelativeChildren]; trivial
  | .field own children :: rest, h => by
    rw [RelativeChildren]
    have hpath : ¬ LeadingWildcard parentPath parentType own.path := fun hleading => by
      rw [flattenChildren, resolveChildPath_none hleading] at h
      exact (nomatch h)
    rw [flattenChildren, resolveChildPath_eq hpath, Option.bind_some] at h
    obtain ⟨later, hlater⟩ := Option.isSome_iff_exists.mp h
    obtain ⟨flat, hflat, hmap⟩ := Option.bind_eq_some_iff.mp hlater
    obtain ⟨rest', hrest, -⟩ := Option.map_eq_some_iff.mp hmap
    exact ⟨hpath, flattenField_relative _ (.field own children) (by rw [hflat]; rfl),
      flattenChildren_relative parentPath parentType rest (by rw [hrest]; rfl)⟩

end

/-- **The SDK flattens as the backend**, or rejects. -/
theorem flattenFields_eq (h : RelativePaths fields) :
    flattenFields fields = some (Derive.flattenFields fields) := by
  induction fields with
  | nil => rfl
  | cons field fields ih =>
    obtain ⟨own, children⟩ := field
    have hfield : Relative own.path (.field own children) := h _ List.mem_cons_self
    rw [flattenFields, flattenField_eq _ _ hfield, Option.bind_some,
      ih fun other hother => h other (List.mem_cons_of_mem _ hother)]
    rfl

theorem relativePaths_of_flattenFields (h : (flattenFields fields).isSome = true) :
    RelativePaths fields := by
  induction fields with
  | nil => exact fun field hfield => absurd hfield List.not_mem_nil
  | cons field fields ih =>
    obtain ⟨own, children⟩ := field
    rw [flattenFields] at h
    obtain ⟨all, hall⟩ := Option.isSome_iff_exists.mp h
    obtain ⟨flat, hflat, hmap⟩ := Option.bind_eq_some_iff.mp hall
    obtain ⟨later, hlater, -⟩ := Option.map_eq_some_iff.mp hmap
    intro other hother
    rcases List.mem_cons.mp hother with rfl | hother
    · exact flattenField_relative own.path (.field own children) (by rw [hflat]; rfl)
    · exact ih (by rw [hlater]; rfl) other hother

theorem relativePaths_of_map {α : Type} {build : List Field → α} {result : α}
    (h : (flattenFields fields).map build = some result) : RelativePaths fields := by
  obtain ⟨flat, hflat, -⟩ := Option.map_eq_some_iff.mp h
  refine relativePaths_of_flattenFields ?_
  rw [hflat]
  rfl

/-! ## Values -/

theorem arrayIndex_eq (segment : Segment) : arrayIndex segment = Mdoc.getArrayIndex segment := by
  cases segment with
  | name s => rfl
  | index i => rfl
  | all => decide

theorem setValueAtPath_eq (target : Json) (path : List Segment) (value : Json) :
    setValueAtPath target path value = Mdoc.setValueAtPath target path value := by
  induction path generalizing target with
  | nil => cases target <;> rfl
  | cons segment path ih =>
    cases target with
    | arr items =>
      rw [setValueAtPath, Mdoc.setValueAtPath, arrayIndex_eq]
      cases Mdoc.getArrayIndex segment with
      | none => rfl
      | some i => simp only [ih]
    | obj members => rw [setValueAtPath, Mdoc.setValueAtPath, ih]
    | null => rfl
    | bool b => rfl
    | num m e => rfl
    | str s => rfl

theorem addClaim_eq : addClaim = Derive.addClaim := by
  funext claims field
  unfold addClaim Derive.addClaim
  cases field.defaultValue with
  | none => rfl
  | some defaultValue => exact setValueAtPath_eq claims field.path defaultValue

theorem buildClaims_agree_iff :
    Agree (buildClaims fields) (Derive.buildClaims fields) ↔ RelativePaths fields := by
  refine ⟨relativePaths_of_map, fun h => ?_⟩
  rw [Agree, buildClaims, flattenFields_eq h, addClaim_eq]
  rfl

theorem buildDisclosureFrame_agree_iff :
    Agree (buildDisclosureFrame fields) (Derive.buildDisclosureFrame fields) ↔
      RelativePaths fields := by
  refine ⟨relativePaths_of_map, fun h => ?_⟩
  rw [Agree, buildDisclosureFrame, flattenFields_eq h]
  rfl

/-! ## Namespaces -/

def addIn (ns : Option String) (byNamespace : Namespaces) (field : Field) : Namespaces :=
  match ns, field.defaultValue with
  | some ns, some defaultValue =>
    if ns = "" then byNamespace
    else putNamespace byNamespace ns (Mdoc.membersOf (Mdoc.setValueAtPath
      (.obj (Mdoc.elementsOf byNamespace ns)) (Mdoc.normalizedPath ns field.path) defaultValue))
  | _, _ => byNamespace

theorem addDefault_eq (byNamespace : Namespaces) (field : Field) :
    addDefault byNamespace field = addIn field.declaredNamespace byNamespace field := by
  unfold addDefault addIn
  cases field.declaredNamespace with
  | none => rfl
  | some ns =>
    cases field.defaultValue with
    | none => rfl
    | some defaultValue => simp only [setValueAtPath_eq]

theorem derive_addDefault_eq (byNamespace : Namespaces) (field : Field) :
    Derive.addDefault byNamespace field =
      addIn (Derive.getFieldNamespace field) byNamespace field := rfl

theorem addIn_of_unnamed {ns : Option String} (h : ∀ name, ns = some name → name = "")
    (byNamespace : Namespaces) (field : Field) : addIn ns byNamespace field = byNamespace := by
  unfold addIn
  split
  · next name _ _ => rw [if_pos (h name rfl)]
  · rfl

theorem addDefault_agree {field : Field}
    (h : field.defaultValue.isSome = true → NamespaceDeclared field) (byNamespace : Namespaces) :
    addDefault byNamespace field = Derive.addDefault byNamespace field := by
  rw [addDefault_eq, derive_addDefault_eq]
  cases hdefault : field.defaultValue with
  | none =>
    unfold addIn
    rw [hdefault]
    cases field.declaredNamespace <;> cases Derive.getFieldNamespace field <;> rfl
  | some defaultValue =>
    by_cases htruthy : truthy field.declaredNamespace = true
    · rw [Derive.getFieldNamespace, if_pos htruthy]
    · have hderived := (h (by rw [hdefault]; rfl)).resolve_left htruthy
      rw [addIn_of_unnamed hderived, addIn_of_unnamed]
      intro name hname
      by_contra hne
      exact htruthy (truthy_iff.mpr ⟨name, hname, hne⟩)

theorem lookup_putNamespace (namespaces : Namespaces) (ns name : String) (elements : Members) :
    (putNamespace namespaces ns elements).lookup name =
      if name = ns then some elements else namespaces.lookup name := by
  unfold putNamespace
  rw [List.lookup_cons]
  by_cases h : name = ns
  · rw [if_pos h, beq_iff_eq.mpr h]
  · rw [if_neg h, beq_eq_false_iff_ne.mpr h,
      Mdoc.lookup_filter_key fun other => decide (other ≠ ns), if_pos (by simpa using h)]

theorem isSome_lookup_foldl (nsOf : Field → Option String) {flat : List Field}
    {byNamespace : Namespaces} {name : String} :
    ((flat.foldl (fun acc field => addIn (nsOf field) acc field) byNamespace).lookup
        name).isSome = true ↔
      (byNamespace.lookup name).isSome = true ∨
        ∃ field ∈ flat, field.defaultValue.isSome = true ∧ nsOf field = some name ∧ name ≠ "" := by
  induction flat generalizing byNamespace with
  | nil => simp
  | cons field flat ih =>
    rw [List.foldl_cons, ih, List.exists_mem_cons_iff, ← or_assoc]
    refine or_congr_left ?_
    unfold addIn
    split
    · next ns defaultValue hns hdefault =>
      rw [hdefault, hns]
      by_cases hempty : ns = ""
      · rw [if_pos hempty]
        refine ⟨.inl, fun h => h.elim id fun ⟨_, hname, hne⟩ => ?_⟩
        exact (hne (Option.some.inj hname ▸ hempty)).elim
      · rw [if_neg hempty, lookup_putNamespace]
        by_cases hname : name = ns
        · rw [if_pos hname, hname]
          exact ⟨fun _ => .inr ⟨rfl, rfl, hempty⟩, fun _ => rfl⟩
        · rw [if_neg hname]
          refine ⟨.inl, fun h => h.elim id fun ⟨_, heq, _⟩ => ?_⟩
          exact (hname (Option.some.inj heq).symm).elim
    · next hnone =>
      refine ⟨.inl, fun h => h.elim id fun ⟨hdefault, hns, _⟩ => ?_⟩
      obtain ⟨defaultValue, hdefault⟩ := Option.isSome_iff_exists.mp hdefault
      exact (hnone _ _ hns hdefault).elim

theorem declared_of_agree
    (h : Agree (buildClaimsByNamespace fields) (Derive.buildClaimsByNamespace fields)) :
    ∀ field ∈ Derive.flattenFields fields, field.defaultValue.isSome = true →
      ∀ ns, Derive.getFieldNamespace field = some ns → ns ≠ "" →
        ∃ other ∈ Derive.flattenFields fields, other.defaultValue.isSome = true ∧
          other.declaredNamespace = some ns := by
  intro field hfield hdefault ns hns hne
  have hpaths : RelativePaths fields := relativePaths_of_map h
  rw [Agree, buildClaimsByNamespace, flattenFields_eq hpaths] at h
  have heq := Option.some.inj h
  have hbackend : (((Derive.flattenFields fields).foldl (fun acc field =>
      addIn (Derive.getFieldNamespace field) acc field) []).lookup ns).isSome = true :=
    (isSome_lookup_foldl Derive.getFieldNamespace).mpr
      (.inr ⟨field, hfield, hdefault, hns, hne⟩)
  have hsdk : (addDefault : Namespaces → Field → Namespaces) =
      fun acc field => addIn field.declaredNamespace acc field :=
    funext fun acc => funext fun field => addDefault_eq acc field
  rw [hsdk] at heq
  change ((Derive.buildClaimsByNamespace fields).lookup ns).isSome = true at hbackend
  rw [← heq, isSome_lookup_foldl] at hbackend
  obtain ⟨other, hother, hsome, hdeclared, -⟩ := hbackend.resolve_left nofun
  exact ⟨other, hother, hsome, hdeclared⟩

theorem buildClaimsByNamespace_agree (hpaths : RelativePaths fields)
    (hdeclared : NamespacesDeclared fields) :
    Agree (buildClaimsByNamespace fields) (Derive.buildClaimsByNamespace fields) := by
  rw [Agree, buildClaimsByNamespace, flattenFields_eq hpaths]
  exact congrArg some (List.foldl_ext _ _ _ fun byNamespace field hfield =>
    addDefault_agree (hdeclared field hfield) byNamespace)

/-! ## Fields of each kind -/

def wildcardPaths : List ClaimFieldDefinition :=
  [.field ⟨[.name "addresses"], .array, none, false, false, none, [], []⟩
    [.field ⟨[.all, .name "city"], .string, none, false, false, none, [], []⟩ []]]

def namespacePath : List ClaimFieldDefinition :=
  [.field ⟨[.name "org.iso", .name "age"], .integer, some (.num 18 0), false, false, none, [], []⟩
    []]

def declaredNamespace : List ClaimFieldDefinition :=
  [.field ⟨[.name "org.iso", .name "age"], .integer, some (.num 18 0), false, true,
    some "org.iso", [], []⟩ []]

end SdkDerive

open SdkDerive

end Eudiplo
