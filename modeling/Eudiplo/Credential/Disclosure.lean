import Eudiplo.Credential.Derive
import Eudiplo.Properties.MdocClaims
import Mathlib.Data.List.Forall2

/-!
# Packing with a disclosure frame

How the SD-JWT library packs a claims object: it follows the keys of the frame through the members
of objects and the positions of arrays, and replaces by digests what `_sd` lists.  The entries of
`_sd` are names; whether the library takes the name of a position for the position is a parameter.
-/

namespace Eudiplo

namespace Disclosure

open Derive
open Mdoc (Segment segmentToKey)

inductive Packed where
  | digest
  | clear (value : Json)
  | arr (items : List Packed)
  | obj (members : List (String × Packed))

inductive Step where
  | key (name : String)
  | position (i : Nat)
  deriving DecidableEq

def Step.frameKey : Step → String
  | key name => name
  | position i => toString i

/-- The object that the library follows; `_sd` is no key of a claim. -/
def follow (frame : Frame) (key : String) : Frame := if key = "_sd" then [] else frame.child key

mutual

/-- **The payload** of a value under a frame. -/
def pack (namesPositions : Bool) (frame : Frame) : Json → Packed
  | .arr items => .arr (packItems namesPositions frame 0 items)
  | .obj members => .obj (packMembers namesPositions frame members)
  | value => .clear value

def packItems (namesPositions : Bool) (frame : Frame) (i : Nat) : List Json → List Packed
  | [] => []
  | item :: items =>
    (if namesPositions && decide (toString i ∈ frame.disclosed) then .digest
      else pack namesPositions (follow frame (toString i)) item) ::
      packItems namesPositions frame (i + 1) items

def packMembers (namesPositions : Bool) (frame : Frame) :
    List (String × Json) → List (String × Packed)
  | [] => []
  | (name, item) :: members =>
    (name, if name ∈ frame.disclosed then .digest
      else pack namesPositions (follow frame name) item) ::
      packMembers namesPositions frame members

end

def valueAt : Json → List Step → Option Json
  | value, [] => some value
  | .obj members, .key name :: rest => (members.lookup name).bind (valueAt · rest)
  | .arr items, .position i :: rest => items[i]?.bind (valueAt · rest)
  | _, _ :: _ => none

def packedAt : Packed → List Step → Option Packed
  | packed, [] => some packed
  | .obj members, .key name :: rest => (members.lookup name).bind (packedAt · rest)
  | .arr items, .position i :: rest => items[i]?.bind (packedAt · rest)
  | _, _ :: _ => none

def packedClaims (namesPositions : Bool) (fields : List ClaimFieldDefinition) (claims : Json) :
    Packed :=
  pack namesPositions ((buildDisclosureFrame fields).getD []) claims

def Selects : Segment → Step → Prop
  | .name s, .key name => s = name
  | .index i, .position j => i = j
  | .all, .position _ => True
  | _, _ => False

end Disclosure

end Eudiplo

/-!
# What a disclosure frame conceals

A position of the claims is concealed where the frame lists a step on the way to it.  The names
that the frame lists below a path of keys are those of the disclosable fields with these keys
(`disclosed_build`), so a field conceals the positions that it spells out.
-/

namespace Eudiplo

namespace Disclosure

open Derive
open Mdoc (Segment segmentToKey lookup_filter_key)

variable {np : Bool} {frame : Frame} {fields : List ClaimFieldDefinition} {claims : Json}
  {key leaf : String} {keys : List String}

/-- The payload has a value at the position. -/
def InClear (packed : Packed) (position : List Step) : Prop :=
  ∃ y, packedAt packed position = some y ∧ y ≠ .digest

/-- A step that an entry of `_sd` can conceal. -/
def Listed (namesPositions : Bool) : Step → Prop
  | .key _ => True
  | .position _ => namesPositions = true

/-- A field that `buildDisclosureFrame` does not pass over. -/
def isDisclosed (field : Field) : Bool := field.disclosable && !field.path.isEmpty

def disclosable (fields : List ClaimFieldDefinition) : List Field :=
  (flattenFields fields).filter isDisclosed

def Matched (claims : Json) (field : Field) (position : List Step) : Prop :=
  List.Forall₂ Selects field.path position ∧ (valueAt claims position).isSome = true

/-- **The payload conceals** what a disclosable field matches. -/
def Conceals (namesPositions : Bool) (fields : List ClaimFieldDefinition) (claims : Json) : Prop :=
  ∀ field ∈ disclosable fields, ∀ position, Matched claims field position →
    ¬ InClear (packedClaims namesPositions fields claims) position

/-- The field spells out the position or one above it, and ends where `_sd` can conceal. -/
def SpellsOut (namesPositions : Bool) (field : Field) (position : List Step) : Prop :=
  ∃ before step rest, position = before ++ step :: rest ∧
    field.path.map segmentToKey = before.map Step.frameKey ++ [step.frameKey] ∧
    Listed namesPositions step

/-- **What a disclosable field matches** is spelled out by one. -/
def SpelledOut (namesPositions : Bool) (fields : List ClaimFieldDefinition) (claims : Json) :
    Prop :=
  ∀ field ∈ disclosable fields, ∀ position, Matched claims field position →
    ∃ other ∈ disclosable fields, SpellsOut namesPositions other position

/-- No disclosable field has a name of the frame format, or the prototype, on its way. -/
def PlainNames (fields : List ClaimFieldDefinition) : Prop :=
  ∀ field ∈ disclosable fields, ∀ segment ∈ field.path.dropLast,
    segmentToKey segment ≠ "_sd" ∧ segmentToKey segment ≠ "__proto__"

/-! ## Frames -/

def nodeAt (frame : Frame) (keys : List String) : Frame := keys.foldl follow frame

theorem lookup_set (value : FrameValue) (other : String) :
    (frame.set key value).lookup other =
      if other = key then some value else frame.lookup other := by
  unfold Frame.set
  rw [List.lookup_cons]
  by_cases h : other = key
  · rw [if_pos h, beq_iff_eq.mpr h]
  · rw [if_neg h, beq_eq_false_iff_ne.mpr h, lookup_filter_key fun name => decide (name ≠ key),
      if_pos (by simpa using h)]

theorem follow_set_self (members : Frame) (h : key ≠ "_sd") :
    follow (frame.set key (.node members)) key = members := by
  unfold follow Frame.child
  rw [if_neg h, lookup_set, if_pos rfl]

theorem follow_set_other (value : FrameValue) {other : String} (h : other ≠ key) :
    follow (frame.set key value) other = follow frame other := by
  unfold follow Frame.child
  rw [lookup_set, if_neg h]

theorem disclosed_set_other (value : FrameValue) (h : key ≠ "_sd") :
    (frame.set key value).disclosed = frame.disclosed := by
  unfold Frame.disclosed
  rw [lookup_set, if_neg h.symm]

theorem follow_addDisclosure (other : String) :
    follow (frame.addDisclosure leaf) other = follow frame other := by
  unfold Frame.addDisclosure
  split
  · rfl
  · by_cases h : other = "_sd"
    · unfold follow
      rw [if_pos h, if_pos h]
    · exact follow_set_other _ h

theorem disclosed_set_self (sd : List String) :
    (frame.set "_sd" (.names sd)).disclosed = sd := by
  unfold Frame.disclosed
  rw [lookup_set, if_pos rfl]

theorem mem_disclosed_addDisclosure {name : String} :
    name ∈ (frame.addDisclosure leaf).disclosed ↔ name ∈ frame.disclosed ∨ name = leaf := by
  unfold Frame.addDisclosure
  split
  · next hmem => exact ⟨.inl, fun h => h.elim id fun heq => heq ▸ hmem⟩
  · rw [disclosed_set_self, List.mem_append, List.mem_singleton]

/-- **One field in a frame**: its leaf is listed at its own node, and nothing else changes. -/
theorem mem_disclosed_atNode {path : List Segment} {name : String}
    (hplain : ∀ segment ∈ path, segmentToKey segment ≠ "_sd") :
    name ∈ (nodeAt (frame.atNode (Frame.addDisclosure leaf) path) keys).disclosed ↔
      name ∈ (nodeAt frame keys).disclosed ∨ keys = path.map segmentToKey ∧ name = leaf := by
  induction path generalizing frame keys with
  | nil =>
    cases keys with
    | nil =>
      show name ∈ (frame.addDisclosure leaf).disclosed ↔ _
      rw [mem_disclosed_addDisclosure]
      exact or_congr_right ⟨fun h => ⟨rfl, h⟩, And.right⟩
    | cons key keys =>
      show name ∈ (nodeAt (follow (frame.addDisclosure leaf) key) keys).disclosed ↔ _
      rw [follow_addDisclosure]
      exact ⟨.inl, fun h => h.elim id fun h => (nomatch h.1)⟩
  | cons segment path ih =>
    have hsegment := hplain segment List.mem_cons_self
    have hpath := fun other hother => hplain other (List.mem_cons_of_mem _ hother)
    cases keys with
    | nil =>
      show name ∈ (frame.set (segmentToKey segment) _).disclosed ↔ _
      rw [disclosed_set_other _ hsegment]
      exact ⟨.inl, fun h => h.elim id fun h => (nomatch h.1)⟩
    | cons key keys =>
      show name ∈ (nodeAt (follow (frame.set (segmentToKey segment) _) key) keys).disclosed ↔
        name ∈ (nodeAt (follow frame key) keys).disclosed ∨ _
      by_cases hkey : key = segmentToKey segment
      · have hchild : follow frame key = frame.child (segmentToKey segment) := by
          rw [hkey, follow, if_neg hsegment]
        rw [hkey, follow_set_self _ hsegment, ih hpath, ← hkey, hchild, List.map_cons]
        simp [hkey]
      · rw [follow_set_other _ hkey]
        refine ⟨.inl, fun h => h.elim id fun h => ?_⟩
        exact absurd (List.cons.inj h.1).1 hkey

theorem mem_disclosed_addToFrame {field : Field} {frame : Option Frame} {name : String}
    (hfield : field.disclosable = true) (hpath : field.path ≠ [])
    (hplain : ∀ segment ∈ field.path.dropLast, segmentToKey segment ≠ "_sd") :
    name ∈ (nodeAt ((addToFrame frame field).getD []) keys).disclosed ↔
      name ∈ (nodeAt (frame.getD []) keys).disclosed ∨
        field.path.map segmentToKey = keys ++ [name] := by
  obtain ⟨before, last, hsplit⟩ : ∃ before last, field.path = before ++ [last] :=
    ⟨_, _, (List.dropLast_append_getLast hpath).symm⟩
  have hadd : addToFrame frame field =
      some ((frame.getD []).atNode (Frame.addDisclosure (segmentToKey last)) before) := by
    unfold addToFrame
    rw [hfield, hsplit, List.getLast?_concat, List.dropLast_concat]
  rw [hsplit, List.dropLast_concat] at hplain
  rw [hadd, Option.getD_some, mem_disclosed_atNode hplain, hsplit, List.map_append,
    List.map_singleton]
  refine or_congr_right ⟨fun ⟨hkeys, hname⟩ => by rw [hkeys, hname], fun heq => ?_⟩
  obtain ⟨hkeys, hname⟩ := List.append_inj' heq rfl
  exact ⟨hkeys.symm, (List.cons.inj hname).1.symm⟩

/-- **The names of the frame** are the leaves of the disclosable fields. -/
theorem mem_disclosed_foldl {flat : List Field} {frame : Option Frame} {name : String}
    (hplain : ∀ field ∈ flat.filter isDisclosed,
      ∀ segment ∈ field.path.dropLast, segmentToKey segment ≠ "_sd") :
    name ∈ (nodeAt ((flat.foldl addToFrame frame).getD []) keys).disclosed ↔
      name ∈ (nodeAt (frame.getD []) keys).disclosed ∨
        ∃ field ∈ flat.filter isDisclosed,
          field.path.map segmentToKey = keys ++ [name] := by
  induction flat generalizing frame with
  | nil => simp
  | cons field flat ih =>
    rw [List.foldl_cons]
    by_cases hfield : isDisclosed field = true
    · rw [List.filter_cons_of_pos hfield] at hplain ⊢
      obtain ⟨hdisclosable, hpath⟩ := Bool.and_eq_true_iff.mp hfield
      rw [ih fun other hother => hplain other (List.mem_cons_of_mem _ hother),
        mem_disclosed_addToFrame hdisclosable (by simpa using hpath)
          (hplain field List.mem_cons_self), List.exists_mem_cons_iff, or_assoc]
    · rw [List.filter_cons_of_neg hfield] at hplain ⊢
      have hadd : addToFrame frame field = frame := by
        unfold addToFrame
        cases hdisclosable : field.disclosable with
        | false => rfl
        | true =>
          have hnil : field.path = [] := by simpa [isDisclosed, hdisclosable] using hfield
          rw [hnil]
          rfl
      rw [hadd, ih hplain]

theorem nodeAt_nil : nodeAt [] keys = [] := by
  induction keys with
  | nil => rfl
  | cons key keys ih =>
    have hfollow : follow [] key = [] := by
      unfold follow Frame.child
      split <;> rfl
    show nodeAt (follow [] key) keys = []
    rw [hfollow, ih]

theorem mem_disclosed_build {name : String} (hplain : PlainNames fields) :
    name ∈ (nodeAt ((buildDisclosureFrame fields).getD []) keys).disclosed ↔
      ∃ field ∈ disclosable fields, field.path.map segmentToKey = keys ++ [name] := by
  have hfold : name ∈ (nodeAt ((buildDisclosureFrame fields).getD []) keys).disclosed ↔
      name ∈ (nodeAt [] keys).disclosed ∨
        ∃ field ∈ disclosable fields, field.path.map segmentToKey = keys ++ [name] :=
    mem_disclosed_foldl fun field hfield segment hsegment =>
      (hplain field hfield segment hsegment).1
  rw [nodeAt_nil] at hfold
  exact hfold.trans ⟨fun h => h.elim (fun h => absurd h List.not_mem_nil) id, .inr⟩

/-! ## Packing -/

def HiddenBy (namesPositions : Bool) : Frame → List Step → Prop
  | _, [] => False
  | frame, step :: rest =>
    (step.frameKey ∈ frame.disclosed ∧ Listed namesPositions step) ∨
      HiddenBy namesPositions (follow frame step.frameKey) rest

theorem hiddenBy_iff {position : List Step} :
    HiddenBy np frame position ↔ ∃ before step rest, position = before ++ step :: rest ∧
      step.frameKey ∈ (nodeAt frame (before.map Step.frameKey)).disclosed ∧ Listed np step := by
  induction position generalizing frame with
  | nil => simp [HiddenBy]
  | cons step position ih =>
    rw [HiddenBy, ih]
    constructor
    · rintro (⟨hmem, hlisted⟩ | ⟨before, other, rest, rfl, hmem, hlisted⟩)
      · exact ⟨[], step, position, rfl, hmem, hlisted⟩
      · exact ⟨step :: before, other, rest, rfl, hmem, hlisted⟩
    · rintro ⟨before, other, rest, heq, hmem, hlisted⟩
      cases before with
      | nil =>
        obtain ⟨rfl, rfl⟩ := List.cons.inj heq
        exact .inl ⟨hmem, hlisted⟩
      | cons first before =>
        obtain ⟨rfl, rfl⟩ := List.cons.inj heq
        exact .inr ⟨before, other, rest, rfl, hmem, hlisted⟩

theorem lookup_packMembers (name : String) (members : List (String × Json)) :
    (packMembers np frame members).lookup name =
      (members.lookup name).map fun item =>
        if name ∈ frame.disclosed then .digest else pack np (follow frame name) item := by
  induction members with
  | nil => rfl
  | cons member members ih =>
    rw [packMembers, List.lookup_cons, List.lookup_cons, ih]
    cases h : name == member.1 with
    | true => rw [beq_iff_eq.mp h]; rfl
    | false => rfl

theorem getElem?_packItems (i j : Nat) (items : List Json) :
    (packItems np frame i items)[j]? = items[j]?.map fun item =>
      if np && decide (toString (i + j) ∈ frame.disclosed) then .digest
      else pack np (follow frame (toString (i + j))) item := by
  induction items generalizing i j with
  | nil => rfl
  | cons item items ih =>
    rw [packItems]
    cases j with
    | zero => rfl
    | succ j =>
      rw [List.getElem?_cons_succ, List.getElem?_cons_succ, ih]
      rw [Nat.add_right_comm i 1 j, Nat.add_assoc]

theorem pack_ne_digest (value : Json) : pack np frame value ≠ .digest := by
  cases value <;> exact nofun

theorem not_inClear_digest (position : List Step) : ¬ InClear .digest position := by
  rintro ⟨y, hat, hclear⟩
  cases position with
  | nil => exact hclear (Option.some.inj hat).symm
  | cons step position => cases step <;> exact (nomatch hat)

theorem inClear_bind {packed : Option Packed} {rest : List Step} :
    (∃ y, packed.bind (packedAt · rest) = some y ∧ y ≠ .digest) ↔
      ∃ p, packed = some p ∧ InClear p rest := by
  cases packed with
  | none => simp
  | some p => simp [InClear]

theorem inClear_listed {listed : Prop} [Decidable listed] {packed : Packed} {rest : List Step} :
    (∃ p, some (if listed then .digest else packed) = some p ∧ InClear p rest) ↔
      ¬ listed ∧ InClear packed rest := by
  constructor
  · rintro ⟨p, hp, hclear⟩
    rw [← Option.some.inj hp] at hclear
    split at hclear
    · exact (not_inClear_digest rest hclear).elim
    next hlisted => exact ⟨hlisted, hclear⟩
  · rintro ⟨hlisted, hclear⟩
    exact ⟨packed, by rw [if_neg hlisted], hclear⟩

/-- **A position with a value** is in clear text if and only if no step to it is listed. -/
theorem inClear_pack_iff {position : List Step} {value : Json}
    (h : (valueAt value position).isSome = true) :
    InClear (pack np frame value) position ↔ ¬ HiddenBy np frame position := by
  induction position generalizing frame value with
  | nil => exact ⟨fun _ => id, fun _ => ⟨_, rfl, pack_ne_digest value⟩⟩
  | cons step position ih =>
    rw [HiddenBy, not_or]
    cases value with
    | obj members =>
      cases step with
      | position i => exact (nomatch h)
      | key name =>
        show (∃ y, ((packMembers np frame members).lookup name).bind (packedAt · position) =
          some y ∧ y ≠ .digest) ↔ _
        change ((members.lookup name).bind (valueAt · position)).isSome = true at h
        rw [inClear_bind, lookup_packMembers]
        cases hitem : members.lookup name with
        | none => rw [hitem] at h; exact (nomatch h)
        | some item =>
          rw [hitem] at h
          show (∃ p, some (if name ∈ frame.disclosed then .digest
            else pack np (follow frame name) item) = some p ∧ _) ↔
              ¬ (name ∈ frame.disclosed ∧ True) ∧ _
          rw [inClear_listed, ih h, and_true]
          rfl
    | arr items =>
      cases step with
      | key name => exact (nomatch h)
      | position i =>
        show (∃ y, ((packItems np frame 0 items)[i]?).bind (packedAt · position) =
          some y ∧ y ≠ .digest) ↔ _
        change (items[i]?.bind (valueAt · position)).isSome = true at h
        rw [inClear_bind, getElem?_packItems, Nat.zero_add]
        cases hitem : items[i]? with
        | none => rw [hitem] at h; exact (nomatch h)
        | some item =>
          rw [hitem] at h
          show (∃ p, some (if np && decide (toString i ∈ frame.disclosed) then .digest
            else pack np (follow frame (toString i)) item) = some p ∧ _) ↔
              ¬ (toString i ∈ frame.disclosed ∧ np = true) ∧ _
          rw [inClear_listed, ih h, Bool.and_eq_true, decide_eq_true_iff, and_comm (a := np = true)]
          rfl
    | null => cases step <;> exact (nomatch h)
    | bool b => cases step <;> exact (nomatch h)
    | num m e => cases step <;> exact (nomatch h)
    | str s => cases step <;> exact (nomatch h)

theorem hiddenBy_build (hplain : PlainNames fields) {position : List Step} :
    HiddenBy np ((buildDisclosureFrame fields).getD []) position ↔
      ∃ field ∈ disclosable fields, SpellsOut np field position := by
  rw [hiddenBy_iff]
  constructor
  · rintro ⟨before, step, rest, heq, hmem, hlisted⟩
    obtain ⟨field, hfield, hpath⟩ := (mem_disclosed_build hplain).mp hmem
    exact ⟨field, hfield, before, step, rest, heq, hpath, hlisted⟩
  · rintro ⟨field, hfield, before, step, rest, heq, hpath, hlisted⟩
    exact ⟨before, step, rest, heq, (mem_disclosed_build hplain).mpr ⟨field, hfield, hpath⟩,
      hlisted⟩

/-! ## Fields that conceal what they match -/

/-- **A payload conceals** what disclosable fields match if and only if they spell it out. -/
theorem conceals_iff (hplain : PlainNames fields) :
    Conceals np fields claims ↔ SpelledOut np fields claims := by
  refine forall₂_congr fun field _ => forall₂_congr fun position hmatched => ?_
  rw [packedClaims, inClear_pack_iff hmatched.2, not_not, hiddenBy_build hplain]

/-! ## Nationalities -/

def nationalities : List ClaimFieldDefinition :=
  [.field ⟨[.name "nationalities"], .array, none, false, false, none, [], []⟩
    [.field ⟨[.all], .string, none, false, true, none, [], []⟩ []]]

def familyName : List ClaimFieldDefinition :=
  [.field ⟨[.name "family_name"], .string, none, false, true, none, [], []⟩ []]

end Disclosure

open Disclosure Derive

end Eudiplo
