import Eudiplo.ConfigFormat.Serialize
import Mathlib.Data.List.TakeWhile
import Mathlib.Tactic

/-!
# Which documents are accepted

`normalizeDocument` accepts the envelopes that it should (`Enveloped`), and two more kinds of
metadata (`CoercedMetadata`): `null`, which `??` takes for absent, and an ownership in an array,
which `String` turns into its item.  What it accepts it and `serializeDocument` keep (`Canonical`),
in new objects.
-/

namespace Eudiplo

open Portability Results

namespace ConfigFormat

/-! ## Schemas -/

theorem afterPrefix_eq_some {pre text rest : List Char} :
    afterPrefix pre text = some rest ↔ text = pre ++ rest := by
  unfold afterPrefix
  split
  · rename_i h
    obtain ⟨other, rfl⟩ := List.isPrefixOf_iff_prefix.mp h
    rw [List.drop_left, Option.some_inj, List.append_cancel_left_eq]
  · rename_i h
    refine ⟨fun h => (nomatch h), ?_⟩
    rintro rfl
    exact absurd (List.isPrefixOf_iff_prefix.mpr (List.prefix_append _ _)) h

theorem takeWhile_stop {p : Char → Bool} {run : List Char} {c : Char} (hrun : ∀ a ∈ run, p a)
    (rest : List Char) (hstop : p c = false) : (run ++ c :: rest).takeWhile p = run ∧
      (run ++ c :: rest).dropWhile p = c :: rest := by
  rw [List.takeWhile_append_of_pos hrun, List.dropWhile_append_of_pos hrun]
  simp [hstop]

/-- **The groups of a schema**: it has digits that do not begin with a zero, and letters. -/
theorem schemaGroups_eq_some {schema : String} {digits file : List Char} :
    schemaGroups schema = some (digits, file) ↔
      (schema.toList = "https://eudiplo.dev/schemas/v".toList ++ (digits ++
        ('/' :: (file ++ ".schema.json".toList))) ∧ (∀ c ∈ digits, c.isDigit) ∧
          (∀ c ∈ file, c.isAlpha)) ∧ file ≠ [] ∧ digits.head?.all (· == '0') = false := by
  unfold schemaGroups
  simp only [Option.bind_eq_bind, Option.bind_eq_some_iff, afterPrefix_eq_some]
  constructor
  · rintro ⟨text, hschema, rest, hslash, h⟩
    split at h
    · rename_i hcond
      obtain ⟨rfl, rfl⟩ := Prod.mk.inj (Option.some.inj h)
      obtain ⟨hsuffix, hfile, hzero⟩ := hcond
      refine ⟨⟨?_, fun c hc => List.mem_takeWhile_imp hc, fun c hc => List.mem_takeWhile_imp hc⟩,
        hfile, hzero⟩
      rw [hschema, ← hsuffix, List.takeWhile_append_dropWhile]
      have hrest : '/' :: rest = text.dropWhile Char.isDigit := hslash.symm
      rw [hrest, List.takeWhile_append_dropWhile]
    · cases h
  · rintro ⟨⟨hschema, hdigits, hfile⟩, hne, hzero⟩
    obtain ⟨htake, hdrop⟩ := takeWhile_stop hdigits (file ++ ".schema.json".toList)
      (show Char.isDigit '/' = false by decide)
    have hsuffix : ".schema.json".toList = '.' :: "schema.json".toList := by decide
    obtain ⟨htake', hdrop'⟩ := takeWhile_stop hfile "schema.json".toList
      (show Char.isAlpha '.' = false by decide)
    rw [← hsuffix] at htake' hdrop'
    refine ⟨_, hschema, file ++ ".schema.json".toList, hdrop, ?_⟩
    rw [htake, htake', hdrop', if_pos ⟨rfl, hne, hzero⟩]

theorem le_foldl_digits (digits : List Char) (n : Nat) :
    n ≤ digits.foldl (fun n c => n * 10 + (c.toNat - '0'.toNat)) n := by
  induction digits generalizing n with
  | nil => exact Nat.le_refl n
  | cons c digits ih =>
    have hle : n ≤ n * 10 + (c.toNat - '0'.toNat) := by omega
    exact Nat.le_trans hle (ih _)

theorem digit_toNat {c : Char} (h : c.isDigit) : 48 ≤ c.toNat ∧ c.toNat ≤ 57 := by
  simpa [Char.isDigit, UInt32.le_iff_toNat_le] using h

theorem singleton_of_digitsValue {digits : List Char} (hdigits : ∀ c ∈ digits, c.isDigit)
    (hzero : digits.head?.all (· == '0') = false) (hlt : digitsValue digits < 10) :
    digits = (toString (digitsValue digits)).toList ∧ 1 ≤ digitsValue digits := by
  match digits with
  | [] => cases hzero
  | [c] =>
    obtain ⟨hlow, hhigh⟩ := digit_toNat (hdigits c List.mem_cons_self)
    have hne : c ≠ '0' := by simpa using hzero
    have hvalue : digitsValue [c] = c.toNat - 48 := by simp [digitsValue]
    have hne' : c.toNat ≠ 48 := fun h => hne (Char.toNat_inj.mp h)
    rw [hvalue]
    refine ⟨?_, by omega⟩
    have hlt' : c.toNat - 48 < 10 := by omega
    have hstring : (toString (c.toNat - 48)).toList = [Nat.digitChar (c.toNat - 48)] := by
      rw [Nat.toString_eq_ofList_toDigits, String.toList_ofList, Nat.toDigits_of_lt_base hlt']
    rw [hstring]
    have hchar : c = Char.ofNat c.toNat := (Char.ofNat_toNat c).symm
    generalize c.toNat = k at *
    subst hchar
    interval_cases k <;> rfl
  | c :: d :: digits =>
    have hne : c ≠ '0' := by simpa using hzero
    obtain ⟨hlow, -⟩ := digit_toNat (hdigits c List.mem_cons_self)
    have hne' : c.toNat ≠ 48 := fun h => hne (Char.toNat_inj.mp h)
    have hle := le_foldl_digits digits
      ((0 * 10 + (c.toNat - '0'.toNat)) * 10 + (d.toNat - '0'.toNat))
    have hzeroNat : '0'.toNat = 48 := rfl
    simp only [digitsValue, List.foldl_cons] at hlt
    omega

theorem version_lt_ten (kind : ConfigResourceKind) : (configFormat kind).2 < 10 := by
  cases kind <;> decide

theorem file_alpha (kind : ConfigResourceKind) :
    (∀ c ∈ (configFormat kind).1.toList, c.isAlpha) ∧ (configFormat kind).1.toList ≠ [] := by
  have hall : (configFormat kind).1.toList.all Char.isAlpha = true := by cases kind <;> rfl
  have hne : (configFormat kind).1.toList.isEmpty = false := by cases kind <;> rfl
  exact ⟨List.all_eq_true.mp hall, List.isEmpty_eq_false_iff.mp hne⟩

theorem find_kind {file : List Char} {kind : ConfigResourceKind} :
    (configResourceKinds.find? fun kind => (configFormat kind).1.toList == file) = some kind ↔
      file = (configFormat kind).1.toList := by
  constructor
  · intro h
    have hfound : ((configFormat kind).1.toList == file) = true :=
      List.find?_some (p := fun kind => (configFormat kind).1.toList == file) h
    exact (beq_iff_eq.mp hfound).symm
  · rintro rfl
    cases kind <;> decide

/-- **Which schemas are known**: those of a supported version of a kind. -/
theorem resolveConfigIdentity_ok {input : Json} {kind : ConfigResourceKind} {version : Nat} :
    resolveConfigIdentity input = .ok ⟨kind, version⟩ ↔
      input.field? "$schema" = some (.str (schemaUrl kind version)) ∧
        1 ≤ version ∧ version ≤ (configFormat kind).2 := by
  have hsafe : ∀ {n : Nat}, n < 10 → ¬maxSafeInteger < n := fun hlt h => by
    have : maxSafeInteger = 9007199254740991 := rfl
    omega
  constructor
  · intro h
    unfold resolveConfigIdentity at h
    split at h
    · rename_i schema hschema
      split at h
      · cases h
      · rename_i digits file hgroups
        split at h
        · cases h
        · rename_i kind' hkind
          split at h
          · cases h
          · split at h
            · cases h
            · rename_i hsupported
              obtain ⟨rfl, rfl⟩ := ConfigIdentity.mk.inj (Except.ok.inj h)
              have hle := Nat.le_of_not_lt hsupported
              obtain ⟨⟨hlist, hdigits, -⟩, -, hzero⟩ := schemaGroups_eq_some.mp hgroups
              obtain ⟨htext, hpos⟩ := singleton_of_digitsValue hdigits hzero
                (Nat.lt_of_le_of_lt hle (version_lt_ten kind'))
              obtain rfl := find_kind.mp hkind
              refine ⟨hschema.trans (congrArg (fun s => some (Json.str s)) ?_), hpos, hle⟩
              refine String.toList_inj.mp (hlist.trans ?_)
              unfold schemaUrl
              rw [String.toList_append, String.toList_append, String.toList_append,
                String.toList_append, ← htext]
              simp
    · cases h
  · rintro ⟨hschema, hpos, hle⟩
    have hlt := Nat.lt_of_le_of_lt hle (version_lt_ten kind)
    have htext : (toString version).toList = [Nat.digitChar version] := by
      rw [Nat.toString_eq_ofList_toDigits, String.toList_ofList, Nat.toDigits_of_lt_base hlt]
    have hdigit : (Nat.digitChar version).isDigit = true ∧ Nat.digitChar version ≠ '0' ∧
        digitsValue [Nat.digitChar version] = version := by
      clear hschema hle htext
      interval_cases version <;> decide
    have hgroups : schemaGroups (schemaUrl kind version) =
        some ([Nat.digitChar version], (configFormat kind).1.toList) := by
      refine schemaGroups_eq_some.mpr ⟨⟨?_, ?_, (file_alpha kind).1⟩, (file_alpha kind).2, ?_⟩
      · unfold schemaUrl
        rw [String.toList_append, String.toList_append, String.toList_append,
          String.toList_append, htext]
        simp
      · intro c hc
        rw [List.mem_singleton.mp hc]
        exact hdigit.1
      · simpa using hdigit.2.1
    unfold resolveConfigIdentity
    rw [hschema]
    simp only [hgroups, find_kind.mpr rfl, hdigit.2.2, if_neg (hsafe hlt),
      if_neg (Nat.not_lt.mpr hle)]

/-! ## Envelopes -/

/-- An id that can be resolved: the one of the kind, or a text in the spec that is not blank. -/
def Identified (kind : ConfigResourceKind) (spec : List (String × Json)) : Prop :=
  (singletonId kind).isSome ∨
    ∃ id, (Json.obj spec).field? (if kind = .Client then "clientId" else "id") = some (.str id) ∧
      nonEmpty (some id) = true

/-- **An envelope**, with metadata of some sort: an object with a known schema, no other keys than
those of an envelope, an object spec with an id, and a kind that is absent or the one of the
schema. -/
structure EnvelopeWith (metadataOk : Option Json → Prop) (members : List (String × Json))
    (kind : ConfigResourceKind) (version : Nat) (spec : List (String × Json)) : Prop where
  schema : (Json.obj members).field? "$schema" = some (.str (schemaUrl kind version))
  positive : 1 ≤ version
  supported : version ≤ (configFormat kind).2
  keys : ∀ member ∈ members, member.1 ∈ ["$schema", "kind", "metadata", "spec"]
  object : (Json.obj members).field? "spec" = some (.obj spec)
  identified : Identified kind spec
  agrees : (Json.obj members).field? "kind" = none ∨
    (Json.obj members).field? "kind" = some (.str kind.name)
  metadata : metadataOk ((Json.obj members).field? "metadata")

def StrictMetadata : Option Json → Prop
  | none => True
  | some (.obj metadata) => (∀ member ∈ metadata, member.1 ∈ ["generation", "ownership"]) ∧
      ((Json.obj metadata).field? "generation").all isPositiveInteger = true ∧
      ∀ ownership, (Json.obj metadata).field? "ownership" = some ownership →
        ownership = .str "unmanaged" ∨ ownership = .str "file-managed"
  | some _ => False

/-- Metadata that is `null`, or whose ownership is one of the two texts in an array. -/
def CoercedMetadata : Option Json → Prop
  | some .null => True
  | some (.obj metadata) => (∀ member ∈ metadata, member.1 ∈ ["generation", "ownership"]) ∧
      ((Json.obj metadata).field? "generation").all isPositiveInteger = true ∧
      ∃ items, (Json.obj metadata).field? "ownership" = some (.arr items) ∧
        isOwnership (.arr items) = true
  | _ => False

/-- What the claim of a document is. -/
def Enveloped (metadataOk : Option Json → Prop) (input : Json) : Prop :=
  ∃ members kind version spec, input = .obj members ∧
    EnvelopeWith metadataOk members kind version spec

theorem specId_ok {kind : ConfigResourceKind} {spec : List (String × Json)} :
    (∃ id, specId kind (some (.obj spec)) = .ok id) ↔ Identified kind spec := by
  unfold specId Identified
  cases singletonId kind with
  | some id => exact iff_of_true ⟨id, rfl⟩ (.inl rfl)
  | none =>
    simp only [Option.isSome_none, Bool.false_eq_true, false_or, Option.bind_some]
    cases hfield : (Json.obj spec).field? (if kind = .Client then "clientId" else "id") with
    | none => exact iff_of_false (fun ⟨_, h⟩ => (nomatch h)) fun ⟨_, h, _⟩ => (nomatch h)
    | some v =>
      cases v with
      | str id =>
        simp only [Option.bind_some, Json.str?, Option.some.injEq, Json.str.injEq,
          exists_eq_left']
        split
        · rename_i hid
          exact iff_of_true ⟨id, rfl⟩ hid
        · rename_i hid
          exact iff_of_false (fun ⟨_, h⟩ => (nomatch h)) hid
      | null => exact iff_of_false (fun ⟨_, h⟩ => (nomatch h)) fun ⟨_, h, _⟩ => (nomatch h)
      | bool b => exact iff_of_false (fun ⟨_, h⟩ => (nomatch h)) fun ⟨_, h, _⟩ => (nomatch h)
      | num m e => exact iff_of_false (fun ⟨_, h⟩ => (nomatch h)) fun ⟨_, h, _⟩ => (nomatch h)
      | arr items => exact iff_of_false (fun ⟨_, h⟩ => (nomatch h)) fun ⟨_, h, _⟩ => (nomatch h)
      | obj members => exact iff_of_false (fun ⟨_, h⟩ => (nomatch h)) fun ⟨_, h, _⟩ => (nomatch h)

theorem known_keys {keys : List String} {members : List (String × Json)} :
    (members.any fun member => !(keys.contains member.1)) = false ↔
      ∀ member ∈ members, member.1 ∈ keys := by
  simp

theorem unknown_keys {keys : List String} {members : List (String × Json)} :
    (members.map (·.1)).filter (fun key => !(keys.contains key)) = [] ↔
      ∀ member ∈ members, member.1 ∈ keys := by
  simp

theorem checkMetadata_ok {metadata : List (String × Json)} :
    checkMetadata metadata = .ok () ↔
      (∀ member ∈ metadata, member.1 ∈ ["generation", "ownership"]) ∧
        ((Json.obj metadata).field? "generation").all isPositiveInteger = true ∧
        ((Json.obj metadata).field? "ownership").all isOwnership = true := by
  unfold checkMetadata
  simp only [ne_eq, unknown_keys, Bool.not_eq_true']
  split
  · rename_i h
    exact iff_of_false (fun h => (nomatch h)) fun hall => h hall.1
  · rename_i h
    rw [and_iff_right (not_not.mp h)]
    split
    · rename_i hgeneration
      exact iff_of_false (fun h => (nomatch h)) fun hall => by
        rw [hgeneration] at hall
        exact nomatch hall.1
    · rename_i hgeneration
      rw [and_iff_right (Bool.of_not_eq_false hgeneration)]
      split
      · rename_i hownership
        exact iff_of_false (fun h => (nomatch h)) fun hall => by
          rw [hownership] at hall
          cases hall
      · rename_i hownership
        exact iff_of_true rfl (Bool.of_not_eq_false hownership)

def AcceptedMetadata (metadata : Option Json) : Prop :=
  StrictMetadata metadata ∨ CoercedMetadata metadata

theorem isOwnership_iff {v : Json} : isOwnership v = true ↔
    (v = .str "unmanaged" ∨ v = .str "file-managed") ∨
      ∃ items, v = .arr items ∧ isOwnership (.arr items) = true := by
  cases v with
  | str s => simp [isOwnership]
  | arr items => simp
  | null => simp [isOwnership]
  | bool b => simp [isOwnership]
  | num m e => simp [isOwnership]
  | obj members => simp [isOwnership]

theorem acceptedMetadata_obj {metadata : List (String × Json)} :
    AcceptedMetadata (some (.obj metadata)) ↔ checkMetadata metadata = .ok () := by
  rw [checkMetadata_ok]
  unfold AcceptedMetadata StrictMetadata CoercedMetadata
  rw [← and_or_left, ← and_or_left]
  refine and_congr_right fun _ => and_congr_right fun _ => ?_
  cases (Json.obj metadata).field? "ownership" with
  | none => simp
  | some ownership =>
    rw [Option.all_some, isOwnership_iff]
    simp only [Option.some.injEq, forall_eq']

/-- **Which documents are accepted**: the envelopes, with metadata that is strict or coerced. -/
theorem normalizeDocument_ok {input : Json} {document : ConfigDocument} :
    normalizeDocument input = .ok document ↔ ∃ members, input = .obj members ∧
      EnvelopeWith AcceptedMetadata members document.kind document.version document.spec ∧
        metadataOf input = .obj document.metadata := by
  cases input with
  | obj members =>
    simp only [Json.obj.injEq, exists_eq_left']
    unfold normalizeDocument
    rw [bind_eq_ok]
    constructor
    · rintro ⟨⟨kind, version⟩, hidentity, h⟩
      obtain ⟨hschema, hpos, hle⟩ := resolveConfigIdentity_ok.mp hidentity
      unfold normalizeAs at h
      split at h
      · cases h
      · rename_i hkeys
        split at h
        · rename_i metadata spec hmetadata hspec
          obtain ⟨_, hcheck, h⟩ := bind_eq_ok.mp h
          obtain ⟨id, hid, h⟩ := bind_eq_ok.mp h
          split at h
          · rename_i hkind
            obtain rfl := Except.ok.inj h
            refine ⟨⟨hschema, hpos, hle, ?_, hspec, specId_ok.mp ⟨id, hid⟩, ?_, ?_⟩, hmetadata⟩
            · exact known_keys.mp (Bool.eq_false_iff.mpr hkeys)
            · cases hfield : (Json.obj members).field? "kind" with
              | none => exact .inl rfl
              | some v =>
                rw [hfield] at hkind
                cases v <;> simp_all [Json.str?]
            · rw [metadataOf] at hmetadata
              split at hmetadata
              · rename_i hnone
                rw [hnone]
                exact .inl trivial
              · rename_i hnull
                rw [hnull]
                exact .inr trivial
              · rename_i v _ hsome
                rw [hsome, hmetadata]
                exact acceptedMetadata_obj.mpr hcheck
          · cases h
        · cases h
    · rintro ⟨⟨hschema, hpos, hle, hkeys, hspec, hidentified, hkind, haccepted⟩, hmetadata⟩
      refine ⟨⟨document.kind, document.version⟩,
        resolveConfigIdentity_ok.mpr ⟨hschema, hpos, hle⟩, ?_⟩
      have hcheck : checkMetadata document.metadata = .ok () := by
        rw [metadataOf] at hmetadata
        split at hmetadata
        · rw [(Json.obj.inj hmetadata).symm]
          rfl
        · rw [(Json.obj.inj hmetadata).symm]
          rfl
        · rename_i v _ hsome
          rw [hsome, hmetadata] at haccepted
          exact acceptedMetadata_obj.mp haccepted
      obtain ⟨id, hid⟩ := specId_ok.mpr hidentified
      unfold normalizeAs
      rw [if_neg (Bool.eq_false_iff.mp (known_keys.mpr hkeys))]
      simp only [hmetadata, hspec]
      refine bind_eq_ok.mpr ⟨(), hcheck, bind_eq_ok.mpr ⟨id, hid, ?_⟩⟩
      have hagrees : ((Json.obj members).field? "kind").all
          (fun kind => kind.str? == some document.kind.name) = true := by
        obtain h | h := hkind <;> rw [h] <;> simp [Json.str?]
      exact if_pos hagrees
  | null => exact iff_of_false (fun h => by cases h) (by rintro ⟨_, h, _⟩; cases h)
  | bool b => exact iff_of_false (fun h => by cases h) (by rintro ⟨_, h, _⟩; cases h)
  | num m e => exact iff_of_false (fun h => by cases h) (by rintro ⟨_, h, _⟩; cases h)
  | str s => exact iff_of_false (fun h => by cases h) (by rintro ⟨_, h, _⟩; cases h)
  | arr items => exact iff_of_false (fun h => by cases h) (by rintro ⟨_, h, _⟩; cases h)

/-! ## Normal form -/

structure ConfigDocument.WellFormed (document : ConfigDocument) : Prop where
  positive : 1 ≤ document.version
  supported : document.version ≤ (configFormat document.kind).2
  identified : Identified document.kind document.spec
  metadata : AcceptedMetadata (some (.obj document.metadata))

theorem acceptedMetadata_nil : AcceptedMetadata (some (.obj [])) :=
  acceptedMetadata_obj.mpr rfl

theorem wellFormed_of_normalizeDocument {input : Json} {document : ConfigDocument}
    (h : normalizeDocument input = .ok document) : document.WellFormed := by
  obtain ⟨members, rfl, henvelope, hmetadata⟩ := normalizeDocument_ok.mp h
  refine ⟨henvelope.positive, henvelope.supported, henvelope.identified, ?_⟩
  have haccepted := henvelope.metadata
  rw [metadataOf] at hmetadata
  split at hmetadata
  · exact hmetadata ▸ acceptedMetadata_nil
  · exact hmetadata ▸ acceptedMetadata_nil
  · rename_i v _ hsome
    rw [hsome, hmetadata] at haccepted
    exact haccepted

theorem normalizeDocument_toJson {document : ConfigDocument} (h : document.WellFormed) :
    normalizeDocument document.toJson = .ok document := by
  refine normalizeDocument_ok.mpr ⟨_, rfl, ⟨rfl, h.positive, h.supported, ?_, rfl, h.identified,
    .inr rfl, h.metadata⟩, rfl⟩
  simp

theorem normalizeDocument_toFile {document : ConfigDocument} (h : document.WellFormed) :
    normalizeDocument document.toFile = .ok document := by
  unfold ConfigDocument.toFile
  by_cases hempty : document.metadata = []
  · rw [if_pos hempty]
    refine normalizeDocument_ok.mpr ⟨_, rfl, ⟨rfl, h.positive, h.supported, ?_, rfl, h.identified,
      .inl rfl, .inl trivial⟩, congrArg Json.obj hempty.symm⟩
    simp
  · rw [if_neg hempty]
    refine normalizeDocument_ok.mpr ⟨_, rfl, ⟨rfl, h.positive, h.supported, ?_, rfl, h.identified,
      .inl rfl, h.metadata⟩, rfl⟩
    simp

theorem serializeDocument_of_normalizeDocument {input : Json} {document : ConfigDocument}
    (h : normalizeDocument input = .ok document) :
    serializeDocument input = .ok document.toFile := by
  unfold serializeDocument
  rw [h]
  rfl

theorem metadata_toFile (document : ConfigDocument) :
    (document.toFile.field? "metadata").getD (.obj []) = .obj document.metadata := by
  unfold ConfigDocument.toFile
  by_cases hempty : document.metadata = []
  · rw [if_pos hempty, hempty]
    rfl
  · rw [if_neg hempty]
    rfl

theorem spec_toFile (document : ConfigDocument) :
    document.toFile.field? "spec" = some (.obj document.spec) := by
  unfold ConfigDocument.toFile
  by_cases hempty : document.metadata = []
  · rw [if_pos hempty]
    rfl
  · rw [if_neg hempty]
    rfl

/-! ## Clones -/

namespace RefJson

mutual

theorem clone_spec (v : RefJson) (next : Nat) : (v.clone next).1.erase = v.erase ∧
    next ≤ (v.clone next).2 ∧ ∀ id ∈ (v.clone next).1.ids, next ≤ id := by
  cases v with
  | null => exact ⟨rfl, Nat.le_refl _, fun _ hid => nomatch hid⟩
  | bool b => exact ⟨rfl, Nat.le_refl _, fun _ hid => nomatch hid⟩
  | num m e => exact ⟨rfl, Nat.le_refl _, fun _ hid => nomatch hid⟩
  | str s => exact ⟨rfl, Nat.le_refl _, fun _ hid => nomatch hid⟩
  | arr id items =>
    obtain ⟨herase, hle, hids⟩ := cloneItems_spec items (next + 1)
    refine ⟨congrArg Json.arr herase, Nat.le_trans (Nat.le_succ next) hle, ?_⟩
    intro id hid
    obtain rfl | hid := List.mem_cons.mp hid
    · exact Nat.le_refl _
    · exact Nat.le_trans (Nat.le_succ next) (hids id hid)
  | obj id members =>
    obtain ⟨herase, hle, hids⟩ := cloneMembers_spec members (next + 1)
    refine ⟨congrArg Json.obj herase, Nat.le_trans (Nat.le_succ next) hle, ?_⟩
    intro id hid
    obtain rfl | hid := List.mem_cons.mp hid
    · exact Nat.le_refl _
    · exact Nat.le_trans (Nat.le_succ next) (hids id hid)

theorem cloneItems_spec (items : List RefJson) (next : Nat) :
    eraseItems (cloneItems next items).1 = eraseItems items ∧
      next ≤ (cloneItems next items).2 ∧ ∀ id ∈ idsItems (cloneItems next items).1, next ≤ id := by
  cases items with
  | nil => exact ⟨rfl, Nat.le_refl _, fun _ hid => nomatch hid⟩
  | cons item items =>
    obtain ⟨herase, hle, hids⟩ := clone_spec item next
    obtain ⟨herase', hle', hids'⟩ := cloneItems_spec items (item.clone next).2
    refine ⟨congrArg₂ List.cons herase herase', Nat.le_trans hle hle', ?_⟩
    intro id hid
    obtain hid | hid := List.mem_append.mp hid
    · exact hids id hid
    · exact Nat.le_trans hle (hids' id hid)

theorem cloneMembers_spec (members : List (String × RefJson)) (next : Nat) :
    eraseMembers (cloneMembers next members).1 = eraseMembers members ∧
      next ≤ (cloneMembers next members).2 ∧
        ∀ id ∈ idsMembers (cloneMembers next members).1, next ≤ id := by
  match members with
  | [] => exact ⟨rfl, Nat.le_refl _, fun _ hid => nomatch hid⟩
  | (name, v) :: members =>
    obtain ⟨herase, hle, hids⟩ := clone_spec v next
    obtain ⟨herase', hle', hids'⟩ := cloneMembers_spec members (v.clone next).2
    refine ⟨congrArg₂ List.cons (congrArg (Prod.mk name) herase) herase',
      Nat.le_trans hle hle', ?_⟩
    intro id hid
    obtain hid | hid := List.mem_append.mp hid
    · exact hids id hid
    · exact Nat.le_trans hle (hids' id hid)

end

theorem field?_erase (name : String) (v : RefJson) :
    v.erase.field? name = (v.field? name).map erase := by
  cases v with
  | obj id members =>
    show ((eraseMembers members).find? _).map _ = ((members.find? _).map _).map _
    induction members with
    | nil => rfl
    | cons member members ih =>
      obtain ⟨key, v⟩ := member
      unfold eraseMembers
      rw [List.find?_cons, List.find?_cons]
      cases key == name with
      | true => rfl
      | false => exact ih
  | null => rfl
  | bool b => rfl
  | num m e => rfl
  | str s => rfl
  | arr id items => rfl

end RefJson

theorem erase_metadataRef (next : Nat) (v : RefJson) :
    (metadataRef next v).erase = metadataOf v.erase := by
  unfold metadataRef metadataOf
  rw [RefJson.field?_erase]
  cases v.field? "metadata" with
  | none => rfl
  | some metadata => cases metadata <;> rfl

/-- **A normalized document has the values of the input**, in new objects. -/
theorem normalizeRefs_fresh {v : RefJson} {document : ConfigDocument} (next : Nat)
    (h : normalizeDocument v.erase = .ok document) :
    ∃ refs next', normalizeRefs next v = .ok (refs, next') ∧ next ≤ next' ∧
      refs.kind = document.kind ∧ refs.version = document.version ∧
      refs.metadata.erase = .obj document.metadata ∧ refs.spec.erase = .obj document.spec ∧
      ∀ id ∈ refs.metadata.ids ++ refs.spec.ids, next ≤ id := by
  obtain ⟨members, hmembers, henvelope, hmetadata⟩ := normalizeDocument_ok.mp h
  obtain ⟨hspec, hle, hids⟩ := RefJson.clone_spec ((v.field? "spec").getD .null) (next + 1)
  obtain ⟨hmetadata', hle', hids'⟩ := RefJson.clone_spec (metadataRef next v)
    (((v.field? "spec").getD .null).clone (next + 1)).2
  refine ⟨_, _, bind_eq_ok.mpr ⟨document, h, rfl⟩, ?_, rfl, rfl, ?_, ?_, ?_⟩
  · exact Nat.le_trans (Nat.le_succ next) (Nat.le_trans hle hle')
  · rw [hmetadata', erase_metadataRef, hmetadata]
  · have hobject := henvelope.object
    rw [← hmembers, RefJson.field?_erase] at hobject
    obtain ⟨spec, hfield, herase⟩ := Option.map_eq_some_iff.mp hobject
    rw [hspec, hfield]
    exact herase
  · intro id hid
    obtain hid | hid := List.mem_append.mp hid
    · exact Nat.le_trans (Nat.le_trans (Nat.le_succ next) hle) (hids' id hid)
    · exact Nat.le_trans (Nat.le_succ next) (hids id hid)

theorem hasMembers_eq {metadata : RefJson} {members : List (String × Json)}
    (h : metadata.erase = .obj members) : metadata.hasMembers = true ↔ members ≠ [] := by
  match metadata with
  | .obj _ [] => 
    obtain rfl := Json.obj.inj h
    exact iff_of_false (fun h => (nomatch h)) fun h => h rfl
  | .obj _ ((_, _) :: _) =>
    obtain rfl := Json.obj.inj h
    exact iff_of_true rfl fun h => (nomatch h)

/-- **So has its file.** -/
theorem serializeRefs_fresh {v : RefJson} {document : ConfigDocument} (next : Nat)
    (h : normalizeDocument v.erase = .ok document) :
    ∃ file next', serializeRefs next v = .ok (file, next') ∧ file.erase = document.toFile ∧
      ∀ id ∈ file.ids, next ≤ id := by
  obtain ⟨refs, next', hrefs, hle, hkind, hversion, hmetadata, hspec, hids⟩ :=
    normalizeRefs_fresh next h
  refine ⟨_, _, bind_eq_ok.mpr ⟨_, hrefs, rfl⟩, ?_, ?_⟩
  · show Json.obj (RefJson.eraseMembers _) = document.toFile
    unfold ConfigDocument.toFile
    by_cases hempty : document.metadata = []
    · have hmembers : ¬refs.metadata.hasMembers = true := fun h =>
        (hasMembers_eq hmetadata).mp h hempty
      rw [if_pos hempty, if_neg hmembers, hkind, hversion]
      simp only [List.nil_append, List.cons_append, RefJson.eraseMembers, RefJson.erase, hspec]
    · rw [if_neg hempty, if_pos ((hasMembers_eq hmetadata).mpr hempty), hkind, hversion]
      simp only [List.nil_append, List.cons_append, RefJson.eraseMembers, RefJson.erase, hspec,
        hmetadata]
  · intro id hid
    by_cases hmembers : refs.metadata.hasMembers = true
    · rw [if_pos hmembers] at hid
      simp only [RefJson.ids, RefJson.idsMembers, List.cons_append, List.nil_append,
        List.append_nil, List.mem_cons, List.mem_append] at hid
      obtain rfl | hid := hid
      · exact hle
      · exact hids id (List.mem_append.mpr hid)
    · rw [if_neg hmembers] at hid
      simp only [RefJson.ids, RefJson.idsMembers, List.cons_append, List.nil_append,
        List.append_nil, List.mem_cons] at hid
      obtain rfl | hid := hid
      · exact hle
      · exact hids id (List.mem_append_right _ hid)

/-! ## Canonical documents -/

/-- **What is kept of an accepted document**: its spec and its metadata, which neither function
changes when it is applied again or after the other, in objects that are not of the input. -/
structure Canonical (v : RefJson) (document : ConfigDocument) : Prop where
  spec : v.erase.field? "spec" = some (.obj document.spec)
  metadata : (v.erase.field? "metadata").getD (.obj []) = .obj document.metadata
  serialized : serializeDocument v.erase = .ok document.toFile
  specFile : document.toFile.field? "spec" = some (.obj document.spec)
  metadataFile : (document.toFile.field? "metadata").getD (.obj []) = .obj document.metadata
  normalizeAgain : normalizeDocument document.toJson = .ok document
  serializeNormalized : serializeDocument document.toJson = .ok document.toFile
  serializeAgain : serializeDocument document.toFile = .ok document.toFile
  fresh : ∀ next, (∀ id ∈ v.ids, id < next) → ∃ refs next',
    normalizeRefs next v = .ok (refs, next') ∧
    refs.metadata.erase = .obj document.metadata ∧ refs.spec.erase = .obj document.spec ∧
    ∀ id ∈ refs.metadata.ids ++ refs.spec.ids, id ∉ v.ids
  freshFile : ∀ next, (∀ id ∈ v.ids, id < next) → ∃ file next',
    serializeRefs next v = .ok (file, next') ∧ file.erase = document.toFile ∧
    ∀ id ∈ file.ids, id ∉ v.ids

theorem canonical_of_normalizeDocument {v : RefJson} {document : ConfigDocument}
    (h : normalizeDocument v.erase = .ok document)
    (hnull : v.erase.field? "metadata" ≠ some .null) : Canonical v document := by
  have hwell := wellFormed_of_normalizeDocument h
  obtain ⟨members, hmembers, henvelope, hmetadata⟩ := normalizeDocument_ok.mp h
  have hnew : ∀ {next : Nat} {ids : List Nat}, (∀ id ∈ v.ids, id < next) →
      (∀ id ∈ ids, next ≤ id) → ∀ id ∈ ids, id ∉ v.ids := fun hold hnew id hid hmem =>
    Nat.lt_irrefl id (Nat.lt_of_lt_of_le (hold id hmem) (hnew id hid))
  refine ⟨hmembers ▸ henvelope.object, ?_, serializeDocument_of_normalizeDocument h,
    spec_toFile document, metadata_toFile document, normalizeDocument_toJson hwell,
    serializeDocument_of_normalizeDocument (normalizeDocument_toJson hwell),
    serializeDocument_of_normalizeDocument (normalizeDocument_toFile hwell), ?_, ?_⟩
  · rw [metadataOf] at hmetadata
    split at hmetadata
    · rename_i hnone
      rw [hnone]
      exact hmetadata
    · rename_i h
      exact absurd h hnull
    · rename_i metadata _ hsome
      rw [hsome]
      exact hmetadata
  · intro next hold
    obtain ⟨refs, next', hrefs, _, _, _, hmetadata, hspec, hids⟩ :=
      normalizeRefs_fresh next h
    exact ⟨refs, next', hrefs, hmetadata, hspec, hnew hold hids⟩
  · intro next hold
    obtain ⟨file, next', hfile, herase, hids⟩ := serializeRefs_fresh next h
    exact ⟨file, next', hfile, herase, hnew hold hids⟩

theorem not_strict_of_coerced {metadata : Option Json} (h : CoercedMetadata metadata) :
    ¬StrictMetadata metadata := by
  intro hstrict
  match metadata with
  | some .null => exact hstrict
  | some (.obj _) =>
    obtain ⟨_, _, items, hitems, _⟩ := h
    obtain h | h := hstrict.2.2 _ hitems <;> cases h

end ConfigFormat

end Eudiplo
