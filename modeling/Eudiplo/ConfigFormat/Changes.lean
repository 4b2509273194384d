import Eudiplo.Portability.Export
import Mathlib.Data.List.Dedup
import Mathlib.Data.Multiset.Sort
import Mathlib.Data.String.Basic
import Mathlib.Tactic.ByContra

/-!
# Changes between configurations

`stableConfigJson` and `configChanges`.  A missing value is `none`.  The texts of primitive values
and the order of keys are parameters. -/

namespace Eudiplo

open Portability

namespace ConfigChanges

/-! ## Texts -/

structure KeyOrder where
  sort : List String → List String
  perm : ∀ keys, (sort keys).Perm keys
  canonical : ∀ keys keys', keys.Perm keys' → sort keys = sort keys'

/-- **`JSON.stringify`**, as far as it is not of arrays and objects: the text of a primitive value,
a quoted key, and the order of the properties of a new object; and `sort` of keys. -/
structure JsonText where
  primitive : Json → String
  quote : String → String
  propertyOrder : KeyOrder
  sortKeys : KeyOrder

variable (t : JsonText)

def entryText (key : String) (entries : List (String × String)) : Option String :=
  (entries.find? fun entry => entry.1 == key).map (·.2)

def objectText (entries : List (String × String)) : String :=
  "\x7b" ++ String.intercalate "," ((t.propertyOrder.sort (entries.map (·.1)).dedup).map fun key =>
    t.quote key ++ ":" ++ (entryText key entries).getD "") ++ "\x7d"

def arrayText (items : List String) : String :=
  "[" ++ String.intercalate "," items ++ "]"

mutual

def stableText : Json → String
  | .arr items => arrayText (stableItems items)
  | .obj members => objectText t (stableMembers members)
  | value => t.primitive value

def stableItems : List Json → List String
  | [] => []
  | item :: items => stableText item :: stableItems items

def stableMembers : List (String × Json) → List (String × String)
  | [] => []
  | (key, item) :: members => (key, stableText item) :: stableMembers members

end

/-- **`stableConfigJson`**; a missing value has no text. -/
def stableConfigJson (value : Option Json) : Option String := value.map (stableText t)

/-! ## Sensitive paths -/

/-- `split`. -/
def splitAt (separator : Char) : List Char → List (List Char)
  | [] => [[]]
  | c :: cs =>
    if c = separator then [] :: splitAt separator cs
    else
      match splitAt separator cs with
      | [] => [[c]]
      | part :: parts => (c :: part) :: parts

def sensitiveNames : List String :=
  ["secret", "password", "apikey", "accesstoken", "refreshtoken", "authorization", "token",
    "vaulttoken", "clientsecret", "secretaccesskey", "pin", "sad", "authorizeauthdata", "auth",
    "keysource", "key", "privatekey", "jwk", "activejwk"]

/-- `replace(/^.../, "")`. -/
def withoutPrefix (pre text : List Char) : List Char :=
  if pre.isPrefixOf text then text.drop pre.length else text

/-- Does a pattern match the start of a path?  A star matches a part that is not there, too. -/
def patternMatches (parts actual : List (List Char)) : Bool :=
  match parts, actual with
  | [], _ => true
  | part :: parts, [] => part == ['*'] && patternMatches parts []
  | part :: parts, segment :: actual =>
    (part == ['*'] || part == segment) && patternMatches parts actual

/-- **`sensitive`**: a part of the path is one of the names, in upper or lower case, or a pattern
matches it. -/
def sensitive (sensitivePaths : List String) (path : String) : Bool :=
  (splitAt '/' path.toList).any (fun part =>
      sensitiveNames.any fun name => name.toList == part.map Char.toLower) ||
    sensitivePaths.any fun pattern =>
      patternMatches (splitAt '.' pattern.toList) (splitAt '/'
        (withoutPrefix "/".toList (withoutPrefix "/spec/".toList path.toList)))

/-! ## Changes -/

structure ConfigChange where
  path : String
  before : Option Json
  after : Option Json
  redacted : Bool

def isObject : Option Json → Bool
  | some (.obj _) => true
  | _ => false

def isArray : Option Json → Bool
  | some (.arr _) => true
  | _ => false

def keysOf : Option Json → List String
  | some (.obj members) => members.map (·.1)
  | _ => []

def itemsOf : Option Json → List Json
  | some (.arr items) => items
  | _ => []

/-- `value?.[key]`. -/
def member (key : String) (value : Option Json) : Option Json := value.bind (Json.field? key)

/-- `value?.[i]`. -/
def item (i : Nat) (value : Option Json) : Option Json := (itemsOf value)[i]?

/-- `replaceAll("~", "~0").replaceAll("/", "~1")`. -/
def escapeKey (key : String) : String :=
  String.ofList (key.toList.flatMap fun c =>
    if c = '~' then ['~', '0'] else if c = '/' then ['~', '1'] else [c])

def areObjects (left right : Option Json) : Bool :=
  (isObject left || left.isNone) && (isObject right || right.isNone) &&
    (isObject left || isObject right)

def areArrays (left right : Option Json) : Bool :=
  (isArray left || left.isNone) && (isArray right || right.isNone)

def changed (path : String) : ConfigChange :=
  ⟨path, some (.str "[changed]"), some (.str "[changed]"), true⟩

/-- `visit`, to a depth. -/
def visit (sensitivePaths : List String) :
    Nat → Option Json → Option Json → String → List ConfigChange
  | 0, _, _, _ => []
  | depth + 1, left, right, path =>
    if stableConfigJson t left = stableConfigJson t right then []
    else if sensitive sensitivePaths path then
      [⟨if path = "" then "/" else path, left.map fun _ => .str "[redacted]",
        right.map fun _ => .str "[redacted]", true⟩]
    else if areObjects left right then
      (t.sortKeys.sort (keysOf left ++ keysOf right).dedup).flatMap fun key =>
        visit sensitivePaths depth (member key left) (member key right)
          (path ++ "/" ++ escapeKey key)
    else if isArray left || isArray right then
      if areArrays left right then
        (List.range (max (itemsOf left).length (itemsOf right).length)).flatMap fun i =>
          visit sensitivePaths depth (item i left) (item i right) (path ++ "/" ++ toString i)
      else [changed path]
    else if isObject left || isObject right then [changed path]
    else [⟨if path = "" then "/" else path, left, right, false⟩]

mutual

def depthOf : Json → Nat
  | .arr items => depthOfItems items + 1
  | .obj members => depthOfMembers members + 1
  | _ => 1

def depthOfItems : List Json → Nat
  | [] => 0
  | item :: items => max (depthOf item) (depthOfItems items)

def depthOfMembers : List (String × Json) → Nat
  | [] => 0
  | (_, item) :: members => max (depthOf item) (depthOfMembers members)

end

def optionDepth (value : Option Json) : Nat := (value.map depthOf).getD 0

/-- **`configChanges`**: `visit`, as deep as the values are. -/
def configChanges (before after : Option Json) (sensitivePaths : List String) (start : String) :
    List ConfigChange :=
  visit t sensitivePaths (max (optionDepth before) (optionDepth after) + 1) before after start

end ConfigChanges

end Eudiplo

/-!
# What a report of changes shows

A report shows a value only at a path no part of which is sensitive (`configChanges_shown`).  It is
empty for equal texts, and also for values that differ only by containers without a primitive value
that are missing on one side (`Unreported`): an empty object has no keys to visit.
-/

namespace Eudiplo

open Portability

namespace ConfigChanges

section Reports

variable {t : JsonText} {sensitivePaths : List String} {left right : Option Json} {path : String}

/-! ## Unreported changes -/

variable (t sensitivePaths) in
/-- **A change that is not reported**: the texts differ at a path that is not sensitive, both values
are objects or missing, or both are arrays or missing, and nothing below is reported. -/
inductive Unreported : Option Json → Option Json → String → Prop
  | objects {left right : Option Json} {path : String} :
    stableConfigJson t left ≠ stableConfigJson t right → sensitive sensitivePaths path = false →
    areObjects left right = true →
    (∀ key, stableConfigJson t (member key left) ≠ stableConfigJson t (member key right) →
      Unreported (member key left) (member key right) (path ++ "/" ++ escapeKey key)) →
    Unreported left right path
  | arrays {left right : Option Json} {path : String} :
    stableConfigJson t left ≠ stableConfigJson t right → sensitive sensitivePaths path = false →
    areObjects left right = false → (isArray left || isArray right) = true →
    areArrays left right = true →
    (∀ i, stableConfigJson t (item i left) ≠ stableConfigJson t (item i right) →
      Unreported (item i left) (item i right) (path ++ "/" ++ toString i)) →
    Unreported left right path

theorem Unreported.differs (h : Unreported t sensitivePaths left right path) :
    stableConfigJson t left ≠ stableConfigJson t right := by
  cases h with
  | objects hdiff => exact hdiff
  | arrays hdiff => exact hdiff

theorem Unreported.notSensitive (h : Unreported t sensitivePaths left right path) :
    sensitive sensitivePaths path = false := by
  cases h with
  | objects _ hopen => exact hopen
  | arrays _ hopen => exact hopen

/-! ## Depth -/

theorem depth_field? {members : List (String × Json)} {key : String} {v : Json}
    (h : (Json.obj members).field? key = some v) : depthOf v ≤ depthOfMembers members := by
  obtain ⟨found, hfound, rfl⟩ := Option.map_eq_some_iff.mp h
  have hmem := List.mem_of_find?_eq_some hfound
  clear h hfound
  induction members with
  | nil => cases hmem
  | cons member members ih =>
    obtain ⟨name, other⟩ := member
    rw [depthOfMembers]
    obtain rfl | hmem := List.mem_cons.mp hmem
    · exact Nat.le_max_left _ _
    · exact Nat.le_trans (ih hmem) (Nat.le_max_right _ _)

theorem depth_getElem? {items : List Json} {i : Nat} {v : Json} (h : items[i]? = some v) :
    depthOf v ≤ depthOfItems items := by
  have hmem := List.mem_of_getElem? h
  clear h
  induction items with
  | nil => cases hmem
  | cons item items ih =>
    rw [depthOfItems]
    obtain rfl | hmem := List.mem_cons.mp hmem
    · exact Nat.le_max_left _ _
    · exact Nat.le_trans (ih hmem) (Nat.le_max_right _ _)

theorem optionDepth_member {depth : Nat} (key : String) (v : Option Json)
    (h : optionDepth v ≤ depth + 1) : optionDepth (member key v) ≤ depth := by
  cases hmember : member key v with
  | none => exact Nat.zero_le _
  | some w =>
    obtain ⟨parent, rfl, hfield⟩ := Option.bind_eq_some_iff.mp hmember
    cases parent with
    | obj members => exact Nat.le_trans (depth_field? hfield) (Nat.le_of_succ_le_succ h)
    | null => cases hfield
    | bool b => cases hfield
    | num m e => cases hfield
    | str s => cases hfield
    | arr items => cases hfield

theorem optionDepth_item {depth : Nat} (i : Nat) (v : Option Json)
    (h : optionDepth v ≤ depth + 1) : optionDepth (item i v) ≤ depth := by
  cases hitem : item i v with
  | none => exact Nat.zero_le _
  | some w =>
    unfold item itemsOf at hitem
    split at hitem
    · exact Nat.le_trans (depth_getElem? hitem) (Nat.le_of_succ_le_succ h)
    · cases hitem

theorem optionDepth_zero {v : Option Json} (h : optionDepth v ≤ 0) : v = none := by
  cases v with
  | none => rfl
  | some w => cases w <;> exact absurd h (Nat.not_succ_le_zero _)

theorem member_eq_none {key : String} {v : Option Json} (h : key ∉ keysOf v) :
    member key v = none := by
  match v with
  | some (.obj members) =>
    refine Option.map_eq_none_iff.mpr (List.find?_eq_none.mpr fun found hfound hkey => h ?_)
    exact List.mem_map.mpr ⟨found, hfound, beq_iff_eq.mp hkey⟩
  | none => rfl
  | some .null | some (.bool _) | some (.num _ _) | some (.str _) | some (.arr _) => rfl

theorem item_eq_none {i : Nat} {v : Option Json} (h : (itemsOf v).length ≤ i) :
    item i v = none := List.getElem?_eq_none h

/-! ## Completeness -/

/-- **When nothing is reported.** -/
theorem visit_eq_nil {depth : Nat} (hleft : optionDepth left ≤ depth)
    (hright : optionDepth right ≤ depth) :
    visit t sensitivePaths (depth + 1) left right path = [] ↔
      stableConfigJson t left = stableConfigJson t right ∨
        Unreported t sensitivePaths left right path := by
  induction depth generalizing left right path with
  | zero =>
    obtain rfl := optionDepth_zero hleft
    obtain rfl := optionDepth_zero hright
    exact iff_of_true (if_pos rfl) (.inl rfl)
  | succ depth ih =>
    rw [visit]
    by_cases heq : stableConfigJson t left = stableConfigJson t right
    · rw [if_pos heq]
      exact iff_of_true rfl (.inl heq)
    rw [if_neg heq, or_iff_right heq]
    by_cases hsensitive : sensitive sensitivePaths path = true
    · rw [if_pos hsensitive]
      exact iff_of_false (List.cons_ne_nil _ _) fun h =>
        absurd (hsensitive.symm.trans h.notSensitive) Bool.true_eq_false.mp
    rw [if_neg hsensitive]
    have hopen := Bool.eq_false_iff.mpr hsensitive
    by_cases hobjects : areObjects left right = true
    · rw [if_pos hobjects, List.flatMap_eq_nil_iff]
      constructor
      · intro h
        refine .objects heq hopen hobjects fun key => or_iff_not_imp_left.mp ?_
        by_cases hkey : key ∈ keysOf left ++ keysOf right
        · have hmem := (t.sortKeys.perm _).mem_iff.mpr (List.mem_dedup.mpr hkey)
          exact (ih (optionDepth_member key left hleft) (optionDepth_member key right hright)).mp
            (h key hmem)
        · rw [List.mem_append, not_or] at hkey
          rw [member_eq_none hkey.1, member_eq_none hkey.2]
          exact .inl rfl
      · intro h key _
        cases h with
        | objects _ _ _ hbelow =>
          exact (ih (optionDepth_member key left hleft)
            (optionDepth_member key right hright)).mpr (or_iff_not_imp_left.mpr (hbelow key))
        | arrays _ _ hnot => exact absurd (hobjects.symm.trans hnot) Bool.true_eq_false.mp
    rw [if_neg hobjects]
    have hnotObjects := Bool.eq_false_iff.mpr hobjects
    by_cases harray : (isArray left || isArray right) = true
    · rw [if_pos harray]
      by_cases harrays : areArrays left right = true
      · rw [if_pos harrays, List.flatMap_eq_nil_iff]
        constructor
        · intro h
          refine .arrays heq hopen hnotObjects harray harrays fun i =>
            or_iff_not_imp_left.mp ?_
          by_cases hi : i < max (itemsOf left).length (itemsOf right).length
          · exact (ih (optionDepth_item i left hleft) (optionDepth_item i right hright)).mp
              (h i (List.mem_range.mpr hi))
          · rw [item_eq_none (Nat.le_trans (Nat.le_max_left _ _) (Nat.le_of_not_lt hi)),
              item_eq_none (Nat.le_trans (Nat.le_max_right _ _) (Nat.le_of_not_lt hi))]
            exact .inl rfl
        · intro h i _
          cases h with
          | objects _ _ hobject => exact absurd hobject hobjects
          | arrays _ _ _ _ _ hbelow =>
            exact (ih (optionDepth_item i left hleft)
              (optionDepth_item i right hright)).mpr (or_iff_not_imp_left.mpr (hbelow i))
      · rw [if_neg harrays]
        refine iff_of_false (List.cons_ne_nil _ _) fun h => ?_
        cases h with
        | objects _ _ hobject => exact hobjects hobject
        | arrays _ _ _ _ hboth => exact harrays hboth
    · rw [if_neg harray]
      have hnot : ¬Unreported t sensitivePaths left right path := by
        intro h
        cases h with
        | objects _ _ hobject => exact hobjects hobject
        | arrays _ _ _ heither => exact harray heither
      split
      · exact iff_of_false (List.cons_ne_nil _ _) hnot
      · exact iff_of_false (List.cons_ne_nil _ _) hnot

/-! ## Secrecy -/

variable (sensitivePaths) in
/-- **Values that are reached**: each path on the way to them is not sensitive. -/
inductive Reached (before after : Option Json) (start : String) :
    Option Json → Option Json → String → Prop
  | start : Reached before after start before after start
  | key {left right : Option Json} {path : String} (key : String) :
    Reached before after start left right path → sensitive sensitivePaths path = false →
    Reached before after start (member key left) (member key right) (path ++ "/" ++ escapeKey key)
  | index {left right : Option Json} {path : String} (i : Nat) :
    Reached before after start left right path → sensitive sensitivePaths path = false →
    Reached before after start (item i left) (item i right) (path ++ "/" ++ toString i)

def IsMarker (value : Option Json) : Prop :=
  value = none ∨ value = some (.str "[redacted]") ∨ value = some (.str "[changed]")

variable (sensitivePaths) in
/-- **What a change shows**: markers, or two values at a path that is not sensitive and neither are
the paths above it, of which none is an array or an object. -/
def Shows (before after : Option Json) (start : String) (change : ConfigChange) : Prop :=
  (change.redacted = true ∧ IsMarker change.before ∧ IsMarker change.after) ∨
    (change.redacted = false ∧ ∃ path, sensitive sensitivePaths path = false ∧
      Reached sensitivePaths before after start change.before change.after path ∧
      (isObject change.before || isObject change.after) = false ∧
      (isArray change.before || isArray change.after) = false)

theorem isMarker_redacted (value : Option Json) :
    IsMarker (value.map fun _ => .str "[redacted]") := by
  cases value with
  | none => exact .inl rfl
  | some v => exact .inr (.inl rfl)

theorem shows_changed {before after : Option Json} {start : String} :
    Shows sensitivePaths before after start (changed path) :=
  .inl ⟨rfl, .inr (.inr rfl), .inr (.inr rfl)⟩

theorem visit_shows {before after : Option Json} {start : String} {depth : Nat}
    (hreached : Reached sensitivePaths before after start left right path) :
    ∀ change ∈ visit t sensitivePaths depth left right path,
      Shows sensitivePaths before after start change := by
  induction depth generalizing left right path with
  | zero => exact fun _ h => nomatch h
  | succ depth ih =>
    intro change hchange
    rw [visit] at hchange
    split at hchange
    · cases hchange
    split at hchange
    · obtain rfl := List.mem_singleton.mp hchange
      exact .inl ⟨rfl, isMarker_redacted left, isMarker_redacted right⟩
    rename_i hsensitive
    have hopen := Bool.eq_false_iff.mpr hsensitive
    split at hchange
    · obtain ⟨key, _, hmem⟩ := List.mem_flatMap.mp hchange
      exact ih (.key key hreached hopen) change hmem
    split at hchange
    · split at hchange
      · obtain ⟨i, _, hmem⟩ := List.mem_flatMap.mp hchange
        exact ih (.index i hreached hopen) change hmem
      · exact List.mem_singleton.mp hchange ▸ shows_changed
    rename_i harray
    split at hchange
    · exact List.mem_singleton.mp hchange ▸ shows_changed
    · rename_i hobject
      obtain rfl := List.mem_singleton.mp hchange
      exact .inr ⟨rfl, path, hopen, hreached, Bool.eq_false_iff.mpr hobject,
        Bool.eq_false_iff.mpr harray⟩

/-- **No report shows a sensitive value.** -/
theorem configChanges_shown (before after : Option Json) (start : String) :
    ∀ change ∈ configChanges t before after sensitivePaths start,
      Shows sensitivePaths before after start change :=
  visit_shows .start

end Reports

end ConfigChanges

open ConfigChanges

namespace ConfigChanges

def characterOrder : KeyOrder where
  sort keys := Multiset.sort (keys : Multiset String) (· ≤ ·)
  perm keys := Multiset.coe_eq_coe.mp (Multiset.sort_eq _ _)
  canonical _ _ h := by rw [Multiset.coe_eq_coe.mpr h]

theorem unreported_empty (t : JsonText) : Unreported t [] none (some (.obj [])) "" := by
  refine .objects (fun h => (nomatch h)) ?_ rfl fun key hne => absurd rfl hne
  simp [sensitive, splitAt, sensitiveNames]

end ConfigChanges

end Eudiplo
