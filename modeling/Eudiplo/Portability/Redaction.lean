import Eudiplo.Portability.Export

/-!
# What an export does not show

Two values that differ only where a pattern matches are redacted to the same value.  Without
redaction they are exported alike exactly where each of their members is.
-/

namespace Eudiplo

namespace Portability

variable {le : String → String → Bool} {α β : Type}

/-! ## Sorting by keys -/

def SameKeys (l : List (String × α)) (l' : List (String × β)) : Prop :=
  List.Forall₂ (fun a b => a.1 = b.1) l l'

theorem exists_pairs {R : α → β → Prop} {l : List α} {l' : List β} (h : List.Forall₂ R l l') :
    ∃ pairs : List (α × β), pairs.map (·.1) = l ∧ pairs.map (·.2) = l' ∧
      ∀ p ∈ pairs, R p.1 p.2 := by
  induction h with
  | nil => exact ⟨[], rfl, rfl, nofun⟩
  | @cons a b l l' hab _ ih =>
    obtain ⟨pairs, rfl, rfl, hpairs⟩ := ih
    refine ⟨(a, b) :: pairs, rfl, rfl, fun p hp => ?_⟩
    rcases List.mem_cons.mp hp with rfl | hp
    · exact hab
    · exact hpairs p hp

theorem forall₂_of_pairs {R : α → β → Prop} {pairs : List (α × β)}
    (h : ∀ p ∈ pairs, R p.1 p.2) : List.Forall₂ R (pairs.map (·.1)) (pairs.map (·.2)) := by
  induction pairs with
  | nil => exact .nil
  | cons p pairs ih =>
    exact .cons (h p List.mem_cons_self) (ih fun p hp => h p (List.mem_cons_of_mem _ hp))

theorem mergeSort_pairs (le : String → String → Bool) {key : α → String} {key' : β → String}
    {pairs : List (α × β)}
    (h : ∀ p ∈ pairs, key p.1 = key' p.2) :
    (pairs.map (·.1)).mergeSort (fun left right => le (key left) (key right)) =
        (pairs.mergeSort fun left right => le (key left.1) (key right.1)).map (·.1) ∧
      (pairs.map (·.2)).mergeSort (fun left right => le (key' left) (key' right)) =
        (pairs.mergeSort fun left right => le (key left.1) (key right.1)).map (·.2) := by
  constructor
  · exact (List.map_mergeSort (f := Prod.fst) fun _ _ _ _ => rfl).symm
  · refine (List.map_mergeSort (f := Prod.snd) fun a ha b hb => ?_).symm
    rw [h a ha, h b hb]

/-- **Related entries** stay related when they are sorted. -/
theorem forall₂_sortEntries {R : String × α → String × β → Prop} {l : List (String × α)}
    {l' : List (String × β)} (hR : ∀ a b, R a b → a.1 = b.1) (h : List.Forall₂ R l l') :
    List.Forall₂ R (sortEntries le l) (sortEntries le l') := by
  obtain ⟨pairs, rfl, rfl, hpairs⟩ := exists_pairs h
  have hkeys : ∀ p ∈ pairs, Prod.fst p.1 = Prod.fst p.2 := fun p hp => hR p.1 p.2 (hpairs p hp)
  obtain ⟨hfst, hsnd⟩ := mergeSort_pairs le hkeys
  unfold sortEntries
  rw [hfst, hsnd]
  exact forall₂_of_pairs fun p hp => hpairs p (List.mem_mergeSort.mp hp)

theorem map_sortEntries {f : String × α → String × β} (hf : ∀ member, (f member).1 = member.1)
    (l : List (String × α)) : (sortEntries le l).map f = sortEntries le (l.map f) := by
  refine List.map_mergeSort fun a _ b _ => ?_
  rw [hf a, hf b]

/-- **Lists of the same keys** are equal when they are so sorted by them. -/
theorem mergeSort_inj {key : α → String} {l l' : List α}
    (hkeys : List.Forall₂ (fun a b => key a = key b) l l')
    (h : l.mergeSort (fun left right => le (key left) (key right)) =
      l'.mergeSort fun left right => le (key left) (key right)) : l = l' := by
  obtain ⟨pairs, rfl, rfl, hpairs⟩ := exists_pairs hkeys
  obtain ⟨hfst, hsnd⟩ := mergeSort_pairs le hpairs
  rw [hfst, hsnd] at h
  refine List.map_congr_left fun p hp => ?_
  exact List.map_inj_left.mp h p (List.mem_mergeSort.mpr hp)

/-! ## Redacted values -/

mutual

/-- **The two values differ only** where one of the patterns matches. -/
def DiffersOnlyAt (patterns : List String) : DottedPath → Json → Json → Prop
  | path, .arr items, .arr items' => ItemsDiffer patterns path 0 items items'
  | path, .obj members, .obj members' => MembersDiffer patterns path members members'
  | _, value, value' => value = value'

def ItemsDiffer (patterns : List String) : DottedPath → Nat → List Json → List Json → Prop
  | _, _, [], [] => True
  | path, index, item :: items, item' :: items' =>
    DiffersOnlyAt patterns (extendPath path (toString index)) item item' ∧
      ItemsDiffer patterns path (index + 1) items items'
  | _, _, _, _ => False

def MembersDiffer (patterns : List String) :
    DottedPath → List (String × Json) → List (String × Json) → Prop
  | _, [], [] => True
  | path, (key, item) :: members, (key', item') :: members' =>
    key = key' ∧
      (matchesAny patterns (extendPath path key) = true ∨
        DiffersOnlyAt patterns (extendPath path key) item item') ∧
      MembersDiffer patterns path members members'
  | _, _, _ => False

end

mutual

theorem DiffersOnlyAt.refl (patterns : List String) :
    ∀ (path : DottedPath) (value : Json), DiffersOnlyAt patterns path value value
  | path, .arr items => by
    simp only [DiffersOnlyAt]
    exact ItemsDiffer.refl patterns path 0 items
  | path, .obj members => by
    simp only [DiffersOnlyAt]
    exact MembersDiffer.refl patterns path members
  | _, .null => by simp only [DiffersOnlyAt]
  | _, .bool _ => by simp only [DiffersOnlyAt]
  | _, .num _ _ => by simp only [DiffersOnlyAt]
  | _, .str _ => by simp only [DiffersOnlyAt]

theorem ItemsDiffer.refl (patterns : List String) :
    ∀ (path : DottedPath) (index : Nat) (items : List Json),
      ItemsDiffer patterns path index items items
  | _, _, [] => by simp only [ItemsDiffer]
  | path, index, item :: items => by
    simp only [ItemsDiffer]
    exact ⟨DiffersOnlyAt.refl patterns _ item, ItemsDiffer.refl patterns path _ items⟩

theorem MembersDiffer.refl (patterns : List String) :
    ∀ (path : DottedPath) (members : List (String × Json)),
      MembersDiffer patterns path members members
  | _, [] => by simp only [MembersDiffer]
  | path, (key, item) :: members => by
    simp only [MembersDiffer]
    exact ⟨trivial, .inr (DiffersOnlyAt.refl patterns _ item),
      MembersDiffer.refl patterns path members⟩

end

/-- What `redact` makes of a member, and what it requires. -/
def redactEntry (patterns : List String) (ref : ResourceRef) (path : DottedPath)
    (member : String × Json) : Json × List Requirement :=
  let itemPath := extendPath path member.1
  if matchesAny patterns itemPath then
    (placeholderValue (placeholder ref (joined '.' itemPath)), [secretRequired ref itemPath])
  else redact patterns ref itemPath member.2

def RedactedAlike (patterns : List String) (ref : ResourceRef) (path : DottedPath)
    (member member' : String × Json) : Prop :=
  member.1 = member'.1 ∧
    redactEntry patterns ref path member = redactEntry patterns ref path member'

variable {patterns : List String} {ref : ResourceRef}

theorem redactMembers_congr {path : DottedPath} {members members' : List (String × Json)}
    (h : List.Forall₂ (RedactedAlike patterns ref path) members members') :
    redactMembers patterns ref path members = redactMembers patterns ref path members' := by
  induction h with
  | nil => rfl
  | @cons member member' members members' hmember _ ih =>
    obtain ⟨key, item⟩ := member
    obtain ⟨key', item'⟩ := member'
    obtain ⟨rfl, heq⟩ := hmember
    unfold redactEntry at heq
    dsimp only at heq
    simp only [redactMembers, heq, ih]

mutual

/-- **Values that differ only where a pattern matches** are redacted to the same value. -/
theorem redact_canonicalize_eq : ∀ {path : DottedPath} {value value' : Json},
    DiffersOnlyAt patterns path value value' →
      redact patterns ref path (canonicalize le value) =
        redact patterns ref path (canonicalize le value')
  | path, .arr items, value', h => by
    cases value' with
    | arr items' =>
      simp only [DiffersOnlyAt] at h
      simp only [canonicalize, redact, redactItems_canonical_eq h]
    | _ =>
      simp only [DiffersOnlyAt] at h
      cases h
  | path, .obj members, value', h => by
    cases value' with
    | obj members' =>
      simp only [DiffersOnlyAt] at h
      -- the keys are the same, so both are sorted by the same permutation
      have hsorted : List.Forall₂ (RedactedAlike patterns ref path)
          (sortEntries le (canonicalMembers le members))
          (sortEntries le (canonicalMembers le members')) :=
        forall₂_sortEntries (fun _ _ hmember => hmember.1) (canonicalMembers_alike h)
      simp only [canonicalize, redact, redactMembers_congr hsorted]
    | _ =>
      simp only [DiffersOnlyAt] at h
      cases h
  | _, .null, value', h => by
    simp only [DiffersOnlyAt] at h
    rw [h]
  | _, .bool _, value', h => by
    simp only [DiffersOnlyAt] at h
    rw [h]
  | _, .num _ _, value', h => by
    simp only [DiffersOnlyAt] at h
    rw [h]
  | _, .str _, value', h => by
    simp only [DiffersOnlyAt] at h
    rw [h]

theorem redactItems_canonical_eq : ∀ {path : DottedPath} {index : Nat} {items items' : List Json},
    ItemsDiffer patterns path index items items' →
      redactItems patterns ref path index (canonicalItems le items) =
        redactItems patterns ref path index (canonicalItems le items')
  | _, _, [], items', h => by
    cases items' with
    | nil => rfl
    | cons => simp only [ItemsDiffer] at h
  | path, index, item :: items, items', h => by
    cases items' with
    | nil => simp only [ItemsDiffer] at h
    | cons item' items' =>
      simp only [ItemsDiffer] at h
      simp only [canonicalItems, redactItems, redact_canonicalize_eq h.1,
        redactItems_canonical_eq h.2]

theorem canonicalMembers_alike : ∀ {path : DottedPath} {members members' : List (String × Json)},
    MembersDiffer patterns path members members' →
      List.Forall₂ (RedactedAlike patterns ref path) (canonicalMembers le members)
        (canonicalMembers le members')
  | _, [], members', h => by
    cases members' with
    | nil => exact .nil
    | cons => simp only [MembersDiffer] at h
  | path, (key, item) :: members, members', h => by
    cases members' with
    | nil => simp only [MembersDiffer] at h
    | cons member' members' =>
      obtain ⟨key', item'⟩ := member'
      simp only [MembersDiffer] at h
      obtain ⟨rfl, hitem, hmembers⟩ := h
      simp only [canonicalMembers]
      split
      · -- an omitted field may differ in any way
        exact canonicalMembers_alike hmembers
      · refine .cons ⟨rfl, ?_⟩ (canonicalMembers_alike hmembers)
        unfold redactEntry
        dsimp only
        rcases hitem with hmatch | hdiffers
        · rw [if_pos hmatch, if_pos hmatch]
        · rw [redact_canonicalize_eq hdiffers]

end

/-! ## Values that are exported as they are -/

variable (w : ExportWorld)

def exportedValue (value : Json) : Json := rewriteAssets w.fileName (canonicalize w.localeLE value)

def exportedMembers (members : List (String × Json)) : List (String × Json) :=
  (members.filter fun member => !omittedFields.contains member.1).map fun member =>
    (member.1, exportedValue w member.2)

variable {w}

theorem rewriteMembers_eq (fileName : String → String) (members : List (String × Json)) :
    rewriteMembers fileName members =
      members.map fun member => (member.1, rewriteAssets fileName member.2) := by
  induction members with
  | nil => rfl
  | cons member members ih => simp only [rewriteMembers, List.map_cons, ih]

theorem rewriteItems_eq (fileName : String → String) (items : List Json) :
    rewriteItems fileName items = items.map (rewriteAssets fileName) := by
  induction items with
  | nil => rfl
  | cons item items ih => simp only [rewriteItems, List.map_cons, ih]

theorem canonicalItems_eq (items : List Json) :
    canonicalItems le items = items.map (canonicalize le) := by
  induction items with
  | nil => rfl
  | cons item items ih => simp only [canonicalItems, List.map_cons, ih]

theorem canonicalMembers_eq (members : List (String × Json)) : canonicalMembers le members =
    (members.filter fun member => !omittedFields.contains member.1).map fun member =>
      (member.1, canonicalize le member.2) := by
  induction members with
  | nil => rfl
  | cons member members ih =>
    simp only [canonicalMembers]
    rw [List.filter_cons]
    cases omittedFields.contains member.1 with
    | true => exact ih
    | false =>
      rw [if_neg Bool.false_ne_true, ih]
      rfl

theorem exportedValue_obj (members : List (String × Json)) :
    exportedValue w (.obj members) = .obj (sortEntries w.localeLE (exportedMembers w members)) := by
  unfold exportedValue exportedMembers
  simp only [canonicalize, rewriteAssets]
  rw [rewriteMembers_eq,
    map_sortEntries (f := fun member => (member.1, rewriteAssets w.fileName member.2)) fun _ => rfl,
    canonicalMembers_eq, List.map_map]
  rfl

theorem exportedValue_arr (items : List Json) :
    exportedValue w (.arr items) = .arr (items.map (exportedValue w)) := by
  unfold exportedValue
  simp only [canonicalize, rewriteAssets]
  rw [rewriteItems_eq, canonicalItems_eq, List.map_map]
  rfl

theorem map_eq_iff_forall₂ {f : α → β} {l l' : List α} :
    l.map f = l'.map f ↔ List.Forall₂ (fun a b => f a = f b) l l' := by
  rw [← List.forall₂_eq_eq_eq, List.forall₂_map_left_iff, List.forall₂_map_right_iff]

/-- **An array** is exported alike exactly where each of its items is. -/
theorem exportedValue_arr_iff {items items' : List Json} :
    exportedValue w (.arr items) = exportedValue w (.arr items') ↔
      List.Forall₂ (fun item item' => exportedValue w item = exportedValue w item') items
        items' := by
  rw [exportedValue_arr, exportedValue_arr, Json.arr.injEq]
  exact map_eq_iff_forall₂

theorem SameKeys.filter {members members' : List (String × Json)} (h : SameKeys members members')
    (p : String → Bool) : SameKeys (members.filter fun member => p member.1)
      (members'.filter fun member => p member.1) := by
  induction h with
  | nil => exact .nil
  | @cons member member' members members' hkey _ ih =>
    rw [List.filter_cons, List.filter_cons, ← hkey]
    split
    · exact .cons hkey ih
    · exact ih

/-- Two members that are exported alike, or not at all. -/
def ExportedAlike (w : ExportWorld) (member member' : String × Json) : Prop :=
  omittedFields.contains member.1 = true ∨ exportedValue w member.2 = exportedValue w member'.2

theorem exportedMembers_iff {members members' : List (String × Json)}
    (hkeys : SameKeys members members') : exportedMembers w members = exportedMembers w members' ↔
      List.Forall₂ (ExportedAlike w) members members' := by
  induction hkeys with
  | nil => exact ⟨fun _ => .nil, fun _ => rfl⟩
  | @cons member member' members members' hkey _ ih =>
    rw [List.forall₂_cons, ← ih]
    unfold exportedMembers ExportedAlike
    rw [List.filter_cons, List.filter_cons, ← hkey]
    cases omittedFields.contains member.1 with
    | true => exact ⟨fun h => ⟨.inl rfl, h⟩, fun h => h.2⟩
    | false =>
      rw [Bool.not_false, if_pos rfl, if_pos rfl, List.map_cons, List.map_cons, List.cons.injEq,
        Prod.mk.injEq]
      exact ⟨fun h => ⟨.inr h.1.2, h.2⟩, fun h => ⟨⟨hkey, h.1.resolve_left nofun⟩, h.2⟩⟩

/-- **An object** of the same keys is exported alike exactly where each of its members is. -/
theorem exportedValue_obj_iff {members members' : List (String × Json)}
    (hkeys : SameKeys members members') :
    exportedValue w (.obj members) = exportedValue w (.obj members') ↔
      List.Forall₂ (ExportedAlike w) members members' := by
  rw [exportedValue_obj, exportedValue_obj, Json.obj.injEq, ← exportedMembers_iff hkeys]
  constructor
  · intro h
    -- sorting by the same keys loses nothing
    refine mergeSort_inj ?_ h
    unfold exportedMembers
    rw [List.forall₂_map_left_iff, List.forall₂_map_right_iff]
    exact hkeys.filter fun key => !omittedFields.contains key
  · intro h
    rw [h]

theorem sameKeys_record {members members' : List (String × Option Json)}
    (h : List.Forall₂ (fun a b => a.1 = b.1 ∧ a.2.isSome = b.2.isSome) members members') :
    SameKeys (members.filterMap fun member => member.2.map fun value => (member.1, value))
      (members'.filterMap fun member => member.2.map fun value => (member.1, value)) := by
  induction h with
  | nil => exact .nil
  | @cons a b members members' hab _ ih =>
    obtain ⟨key, value⟩ := a
    obtain ⟨key', value'⟩ := b
    obtain ⟨rfl, hdefined⟩ := hab
    cases value with
    | none =>
      cases value' with
      | none => exact ih
      | some value' => cases hdefined
    | some value =>
      cases value' with
      | none => cases hdefined
      | some value' => exact .cons rfl ih

/-- **A record** of the same defined members is exported alike exactly where each member is. -/
theorem exportedValue_record_iff {members members' : List (String × Option Json)}
    (h : List.Forall₂ (fun a b => a.1 = b.1 ∧ a.2.isSome = b.2.isSome) members members') :
    exportedValue w (record members) = exportedValue w (record members') ↔
      List.Forall₂ (fun a b => omittedFields.contains a.1 = true ∨
        a.2.map (exportedValue w) = b.2.map (exportedValue w)) members members' := by
  unfold record
  rw [exportedValue_obj_iff (sameKeys_record h)]
  induction h with
  | nil => exact ⟨fun _ => .nil, fun _ => .nil⟩
  | @cons a b members members' hab _ ih =>
    obtain ⟨key, value⟩ := a
    obtain ⟨key', value'⟩ := b
    obtain ⟨rfl, hdefined⟩ := hab
    rw [List.forall₂_cons]
    cases value with
    | none =>
      cases value' with
      | none => exact ⟨fun h => ⟨.inr rfl, ih.mp h⟩, fun h => ih.mpr h.2⟩
      | some value' => cases hdefined
    | some value =>
      cases value' with
      | none => cases hdefined
      | some value' =>
        simp only [List.filterMap_cons, Option.map_some, List.forall₂_cons, ExportedAlike,
          Option.some.injEq]
        exact and_congr_right fun _ => ih

mutual

theorem redact_nil (ref : ResourceRef) :
    ∀ (path : DottedPath) (value : Json), redact [] ref path value = (value, [])
  | path, .arr items => by simp only [redact, redactItems_nil ref path 0 items]
  | path, .obj members => by simp only [redact, redactMembers_nil ref path members]
  | _, .null => rfl
  | _, .bool _ => rfl
  | _, .num _ _ => rfl
  | _, .str _ => rfl

theorem redactItems_nil (ref : ResourceRef) :
    ∀ (path : DottedPath) (index : Nat) (items : List Json),
      redactItems [] ref path index items = (items, [])
  | _, _, [] => rfl
  | path, index, item :: items => by
    simp only [redactItems, redact_nil ref _ item, redactItems_nil ref path _ items,
      List.append_nil]

theorem redactMembers_nil (ref : ResourceRef) :
    ∀ (path : DottedPath) (members : List (String × Json)),
      redactMembers [] ref path members = (members, [])
  | _, [] => rfl
  | path, (key, item) :: members => by
    have hnone : matchesAny [] (extendPath path key) = false := rfl
    simp only [redactMembers, hnone, Bool.false_eq_true, if_false, redact_nil ref _ item,
      redactMembers_nil ref path members, List.append_nil]

end

end Portability

end Eudiplo
