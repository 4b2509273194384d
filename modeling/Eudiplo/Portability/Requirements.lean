import Eudiplo.Portability.Outcome
import Eudiplo.Properties.PlaceholderScan

/-!
# Inputs that a document still needs

`collectUnresolvedRequirements` of the bundle planner: placeholders that were left in the spec, by a
pattern that a string must match from its start to its end, and private keys that are not there.
-/

namespace Eudiplo

namespace Portability

open Patterns

def isRequirementChar (c : Char) : Bool :=
  ('A' ≤ c && c ≤ 'Z') || ('0' ≤ c && c ≤ '9') || c == '_'

/-- `\$\x7b[A-Z0-9_]+(?::[^\x7d]*)?\x7d`, without the anchors. -/
def requirementPattern : Pattern Char :=
  .seq (.letter (· == '$')) (.seq (.letter (· == '\x7b'))
    (.seq (.seq (.letter isRequirementChar) (.run isRequirementChar))
      (.seq (.optional (.seq (.letter (· == ':')) (.run (· != '\x7d')))) (.letter (· == '\x7d')))))

def isRequirement (s : String) : Bool :=
  (outcomes requirementPattern s.toList).any fun outcome => outcome.rest.isEmpty

/-- `ConfigMigrationIssue`, of the severity `required-input`. -/
structure RequiredInput where
  code : String
  path : String
  message : String
  resource : ResourceRef
  deriving DecidableEq

def secretRequirement (resource : ResourceRef) (path value : String) : RequiredInput where
  code := "SECRET_REQUIRED"
  path := path
  message := "Resolve " ++ value ++ " before applying this resource."
  resource := resource

def privateKeyRequirement (resource : ResourceRef) : RequiredInput where
  code := "PRIVATE_KEY_REQUIRED"
  path := "/spec/keySource"
  message := "Supply private key material, an accessible external KMS reference, or explicitly " ++
    "regenerate the key."
  resource := resource

mutual

/-- `visit`, of `collectUnresolvedRequirements`. -/
def requirementsIn (resource : ResourceRef) (path : String) : Json → List RequiredInput
  | .str s =>
    if s ≠ "!generate" ∧ isRequirement s = true then [secretRequirement resource path s] else []
  | .arr items => itemRequirements resource path 0 items
  | .obj members => memberRequirements resource path members
  | _ => []

def itemRequirements (resource : ResourceRef) (path : String) (i : Nat) :
    List Json → List RequiredInput
  | [] => []
  | item :: items =>
    requirementsIn resource (path ++ "/" ++ toString i) item ++
      itemRequirements resource path (i + 1) items

def memberRequirements (resource : ResourceRef) (path : String) :
    List (String × Json) → List RequiredInput
  | [] => []
  | (key, item) :: members =>
    requirementsIn resource (path ++ "/" ++ key) item ++ memberRequirements resource path members

end

/-- Does a key chain still need its private key? -/
def needsPrivateKey (document : ConfigDocument) : Bool :=
  document.ref.kind == .KeyChain &&
    (((document.spec.field? "keySource").bind (·.field? "type")).bind Json.str? == some "required")

def collectUnresolvedRequirements (document : ConfigDocument) : List RequiredInput :=
  requirementsIn document.ref "/spec" document.spec ++
    (if needsPrivateKey document then [privateKeyRequirement document.ref] else [])

/-- The planner's checks together: a document is blocked by a requirement, or by what another check
says. -/
def collecting (w : PortabilityWorld) : PortabilityWorld :=
  { w with
    blocked := fun stored document =>
      w.blocked stored document || !(collectUnresolvedRequirements document).isEmpty }

end Portability

end Eudiplo

/-!
# Placeholders that pass planning

The planner blocks a document that has a string which is a placeholder as a whole.  A placeholder
that is embedded in a longer string is a placeholder for the resolution, and no requirement for the
planner; so an applicable plan has no placeholder without a fallback in what it applies if and only
if each string that contains one is a placeholder as a whole.
-/

namespace Eudiplo

namespace Portability

open Patterns Placeholders

variable {w : PortabilityWorld} {s : TenantState} {mode : ConfigImportMode} {source : String}
  {reattach : Bool} {documents : List ConfigDocument} {document : ConfigDocument} {text : String}

/-- The string contains a placeholder without a fallback. -/
def HasOpenPlaceholder (text : String) : Prop :=
  ∃ outcome, .found outcome ∈ search placeholderPattern text.toList ∧
    (placeholderOf outcome).fallback = none

def specStrings (document : ConfigDocument) : List String :=
  (stringsOf "/spec" document.spec).map (·.2)

def appliedDocuments (p : ImportPlan) : List ConfigDocument :=
  (p.items.filter fun item => item.action == .create || item.action == .update).map (·.document)

mutual

theorem mem_requirementsIn {resource : ResourceRef} (path path' : String) :
    (value : Json) → text ∈ (stringsOf path value).map (·.2) → isRequirement text = true →
      text ≠ "!generate" → requirementsIn resource path' value ≠ []
  | .str s, hmem, hwhole, hgenerate => by
    rw [stringsOf, List.map_singleton, List.mem_singleton] at hmem
    rw [requirementsIn, ← show text = s from hmem, if_pos ⟨hgenerate, hwhole⟩]
    exact List.cons_ne_nil _ _
  | .arr items, hmem, hwhole, hgenerate => by
    rw [stringsOf] at hmem
    rw [requirementsIn]
    exact mem_itemRequirements path path' 0 0 items hmem hwhole hgenerate
  | .obj members, hmem, hwhole, hgenerate => by
    rw [stringsOf] at hmem
    rw [requirementsIn]
    exact mem_memberRequirements path path' members hmem hwhole hgenerate
  | .null, hmem, _, _ => absurd hmem List.not_mem_nil
  | .bool _, hmem, _, _ => absurd hmem List.not_mem_nil
  | .num _ _, hmem, _, _ => absurd hmem List.not_mem_nil

theorem mem_itemRequirements {resource : ResourceRef} (path path' : String) (i i' : Nat) :
    (items : List Json) → text ∈ (itemStrings path i items).map (·.2) →
      isRequirement text = true → text ≠ "!generate" →
        itemRequirements resource path' i' items ≠ []
  | [], hmem, _, _ => absurd hmem List.not_mem_nil
  | item :: items, hmem, hwhole, hgenerate => by
    rw [itemStrings, List.map_append] at hmem
    rw [itemRequirements]
    rcases List.mem_append.mp hmem with hitem | hitems
    · exact List.append_ne_nil_of_left_ne_nil
        (mem_requirementsIn _ _ item hitem hwhole hgenerate) _
    · exact List.append_ne_nil_of_right_ne_nil _
        (mem_itemRequirements _ _ _ _ items hitems hwhole hgenerate)

theorem mem_memberRequirements {resource : ResourceRef} (path path' : String) :
    (members : List (String × Json)) → text ∈ (memberStrings path members).map (·.2) →
      isRequirement text = true → text ≠ "!generate" →
        memberRequirements resource path' members ≠ []
  | [], hmem, _, _ => absurd hmem List.not_mem_nil
  | (key, item) :: members, hmem, hwhole, hgenerate => by
    rw [memberStrings, List.map_append] at hmem
    rw [memberRequirements]
    rcases List.mem_append.mp hmem with hitem | hmembers
    · exact List.append_ne_nil_of_left_ne_nil
        (mem_requirementsIn _ _ item hitem hwhole hgenerate) _
    · exact List.append_ne_nil_of_right_ne_nil _
        (mem_memberRequirements _ _ members hmembers hwhole hgenerate)

end

theorem not_requirement_generate : isRequirement "!generate" = false := by decide

theorem blocked_of_requirement (htext : text ∈ specStrings document)
    (hwhole : isRequirement text = true) :
    (planDocument (collecting w) s mode source reattach document).action = .blocked := by
  have hgenerate : text ≠ "!generate" := by
    rintro rfl
    rw [not_requirement_generate] at hwhole
    exact (nomatch hwhole)
  have hissues : collectUnresolvedRequirements document ≠ [] :=
    List.append_ne_nil_of_left_ne_nil
      (mem_requirementsIn _ _ document.spec htext hwhole hgenerate) _
  have hblocked : (collecting w).blocked s.spec? document = true := by
    show (w.blocked s.spec? document || !(collectUnresolvedRequirements document).isEmpty) = true
    rw [List.isEmpty_eq_false_iff.mpr hissues, Bool.not_false, Bool.or_true]
  unfold planDocument
  simp only [hblocked, Bool.true_or, if_true]

theorem mem_of_applied
    (h : document ∈ appliedDocuments (plan w s mode source reattach documents)) :
    document ∈ documents := by
  obtain ⟨item, hitem, rfl⟩ := List.mem_map.mp h
  obtain ⟨document, hdocument, rfl⟩ := List.mem_map.mp (List.mem_filter.mp hitem).1
  exact hdocument

theorem not_requirement_of_applicable
    (h : (plan (collecting w) s mode source reattach documents).applicable = true)
    (hdocument : document ∈ appliedDocuments (plan (collecting w) s mode source reattach documents))
    (htext : text ∈ specStrings document) : isRequirement text = false := by
  by_contra hwhole
  exact not_blocked_of_applicable h (mem_of_applied hdocument)
    (blocked_of_requirement htext (Bool.not_eq_false _ ▸ hwhole))

/-! ## An embedded placeholder -/

def embeddedDocument : ConfigDocument where
  ref := ⟨.WebhookEndpoint, "hook"⟩
  spec := .obj [("url", .str "https://$\x7bHOST\x7d/claims")]

def plainDocument : ConfigDocument where
  ref := ⟨.WebhookEndpoint, "hook"⟩
  spec := .obj [("url", .str "https://host")]

theorem embedded_open : HasOpenPlaceholder "https://$\x7bHOST\x7d/claims" := by
  have hopener : findOpener "https://$\x7bHOST\x7d/claims".toList =
      some ("https://".toList, "HOST\x7d/claims".toList) := by decide
  have hattempt : attempt "HOST\x7d/claims".toList =
      .found ⟨"$\x7bHOST\x7d".toList, "HOST".toList, none⟩ "/claims".toList := rfl
  obtain ⟨outcome, hplaceholder, hsearch⟩ := search_found hattempt
  refine ⟨outcome, ?_, by rw [hplaceholder]⟩
  rw [search_opener hopener, hsearch]
  exact List.mem_append_right _ List.mem_cons_self

/-- **Placeholders and planning**: what an applicable plan would apply has no placeholder without a
fallback if and only if each of its strings that contains one is a placeholder as a whole. -/
theorem applicable_resolved (w : PortabilityWorld) (s : TenantState) (mode : ConfigImportMode)
    (source : String) (reattach : Bool) (documents : List ConfigDocument)
    (happlicable : (plan (collecting w) s mode source reattach documents).applicable = true) :
    (∀ document ∈ appliedDocuments (plan (collecting w) s mode source reattach documents),
      ∀ text ∈ specStrings document, ¬ HasOpenPlaceholder text) ↔
    ∀ document ∈ appliedDocuments (plan (collecting w) s mode source reattach documents),
      ∀ text ∈ specStrings document, HasOpenPlaceholder text → isRequirement text = true := by
  constructor
  · intro h document hdocument text htext hopen
    exact (h document hdocument text htext hopen).elim
  · intro h document hdocument text htext hopen
    have hwhole := h document hdocument text htext hopen
    rw [not_requirement_of_applicable happlicable hdocument htext] at hwhole
    exact (nomatch hwhole)

theorem applicable_resolved_plain :
    (∀ document ∈ appliedDocuments (plan (collecting storingWorld) ⟨.empty, .empty⟩ .create
        "bundle:t" false [plainDocument]),
      ∀ text ∈ specStrings document, ¬ HasOpenPlaceholder text) ↔
    ∀ document ∈ appliedDocuments (plan (collecting storingWorld) ⟨.empty, .empty⟩ .create
        "bundle:t" false [plainDocument]),
      ∀ text ∈ specStrings document, HasOpenPlaceholder text → isRequirement text = true :=
  applicable_resolved storingWorld ⟨.empty, .empty⟩ .create "bundle:t" false [plainDocument]
    (by decide +kernel)

/-- The plan of the endpoint with the embedded placeholder is applicable. -/
theorem embedded_placeholder_applicable :
    (plan (collecting storingWorld) ⟨.empty, .empty⟩ .create "bundle:t" false
      [embeddedDocument]).applicable = true ∧
    ∃ document ∈ appliedDocuments (plan (collecting storingWorld) ⟨.empty, .empty⟩ .create
      "bundle:t" false [embeddedDocument]),
      ∃ text ∈ specStrings document, HasOpenPlaceholder text := by
  have happlied : ((appliedDocuments (plan (collecting storingWorld) ⟨.empty, .empty⟩ .create
      "bundle:t" false [embeddedDocument])).map (·.ref)) = [embeddedDocument.ref] := by
    decide +kernel
  have hmem : embeddedDocument.ref ∈ (appliedDocuments (plan (collecting storingWorld)
      ⟨.empty, .empty⟩ .create "bundle:t" false [embeddedDocument])).map (·.ref) := by
    rw [happlied]
    exact List.mem_singleton_self _
  obtain ⟨document, hdocument, -⟩ := List.mem_map.mp hmem
  obtain rfl := List.mem_singleton.mp (mem_of_applied hdocument)
  exact ⟨by decide +kernel, _, hdocument, _, List.mem_singleton_self _, embedded_open⟩

end Portability

end Eudiplo
