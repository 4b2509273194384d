import Mathlib.Data.Char
import Eudiplo.Network.Address
import Eudiplo.Session.Data
import Eudiplo.Shared.PrefixRange
import Mathlib.Tactic

/-!
# Searching sessions

The identifiers that a search term can match (`session-search.ts`) and the filter that the
repository builds from them. Session ids are UUIDs; one database compares them as texts, the
other as 128-bit numbers.
-/

namespace Eudiplo

namespace SessionSearch

open Network (Text toLowerCase)

def UUID_TEMPLATE : Text := "xxxxxxxx-xxxx-xxxx-xxxx-xxxxxxxxxxxx".toList

/-- `/[0-9a-f]/`. -/
def isHexDigit (char : Char) : Bool :=
  (decide ('0' ≤ char) && decide (char ≤ '9')) || (decide ('a' ≤ char) && decide (char ≤ 'f'))

def fits (template : Option Char) (char : Char) : Bool :=
  if template == some '-' then char == '-' else isHexDigit char

def isUuidPrefix (value : Text) : Bool :=
  if value.length == 0 || decide (value.length > UUID_TEMPLATE.length) then false
  else (toLowerCase value).zipIdx.all fun (char, index) => fits UUID_TEMPLATE[index]? char

/-- `replaceAll("x", digit)`. -/
def fillDigits (digit : Char) (template : Text) : Text :=
  template.map fun char => if char == 'x' then digit else char

def uuidPrefixRange (idPrefix : Text) : Text × Text :=
  let value := toLowerCase idPrefix
  let fill (digit : Char) := value ++ fillDigits digit (UUID_TEMPLATE.drop value.length)
  (fill '0', fill 'f')

/-- A canonical UUID in lower case. -/
def IsUuid (id : Text) : Prop :=
  List.Forall₂ (fun template char => fits (some template) char = true) UUID_TEMPLATE id

/-! ## The two databases -/

def hexValue (char : Char) : ℕ :=
  if char ≤ '9' then char.toNat - '0'.toNat else char.toNat - 'a'.toNat + 10

def uuidDigits (id : Text) : List ℕ := (id.filter fun char => char != '-').map hexValue

def uuidNumber (id : Text) : ℕ := PrefixRange.numeral 16 (uuidDigits id)

end SessionSearch

end Eudiplo

/-!
# Searching sessions by prefix is exact

The range of a prefix holds exactly the UUIDs that start with it, as texts and as numbers,
because on UUIDs both orders are the same.
-/

namespace Eudiplo

namespace SessionSearch

open Network (Text toLowerCase)
open PrefixRange

variable {p u v : Text} {template : Text} {digit char : Char}

theorem template_chars : ∀ char ∈ UUID_TEMPLATE, char = 'x' ∨ char = '-' := by
  have hall : (UUID_TEMPLATE.all fun char => decide (char = 'x' ∨ char = '-')) = true := by
    decide +kernel
  exact fun char hchar => of_decide_eq_true (List.all_eq_true.mp hall char hchar)

abbrev Fits (template value : Text) : Prop :=
  List.Forall₂ (fun t char => fits (some t) char = true) template value

theorem isHexDigit_iff :
    isHexDigit char = true ↔ ('0' ≤ char ∧ char ≤ '9') ∨ ('a' ≤ char ∧ char ≤ 'f') := by
  simp [isHexDigit]

theorem fits_hyphen : fits (some '-') char = true ↔ char = '-' := by
  rw [fits, if_pos (beq_self_eq_true _), beq_iff_eq]

theorem fits_digit : fits (some 'x') char = true ↔ isHexDigit char = true := by
  rw [fits, if_neg (by decide)]

theorem hexDigit_bounds (h : isHexDigit char = true) : '0' ≤ char ∧ char ≤ 'f' := by
  rcases isHexDigit_iff.mp h with ⟨hlo, hhi⟩ | ⟨hlo, hhi⟩
  · have hle : '9' ≤ 'f' := by decide
    exact ⟨hlo, hhi.trans hle⟩
  · have hle : '0' ≤ 'a' := by decide
    exact ⟨hle.trans hlo, hhi⟩

def bounds (template : Text) : List (Char × Char) :=
  template.map fun t => (if t == 'x' then '0' else t, if t == 'x' then 'f' else t)

theorem fst_bounds : (bounds template).map Prod.fst = fillDigits '0' template := by
  rw [bounds, List.map_map]
  rfl

theorem snd_bounds : (bounds template).map Prod.snd = fillDigits 'f' template := by
  rw [bounds, List.map_map]
  rfl

theorem Fits.shaped (h : Fits template u) (hchars : ∀ char ∈ template, char = 'x' ∨ char = '-') :
    Shaped (bounds template) u := by
  induction h with
  | nil => exact .nil
  | @cons t c ts cs hc _ ih =>
    refine .cons ?_ (ih fun char hmem => hchars char (List.mem_cons_of_mem _ hmem))
    rcases hchars t List.mem_cons_self with rfl | rfl
    · exact hexDigit_bounds (fits_digit.mp hc)
    · rw [fits_hyphen.mp hc]
      exact ⟨le_rfl, le_rfl⟩

theorem uuidPrefixRange_eq (p : Text) :
    uuidPrefixRange p =
      (toLowerCase p ++ ((bounds UUID_TEMPLATE).map Prod.fst).drop (toLowerCase p).length,
        toLowerCase p ++ ((bounds UUID_TEMPLATE).map Prod.snd).drop (toLowerCase p).length) := by
  rw [fst_bounds, snd_bounds]
  simp only [uuidPrefixRange, fillDigits, List.map_drop]

/-- **As texts**, the UUIDs between the bounds of a prefix are those that start with it. -/
theorem between_texts (p : Text) (hu : IsUuid u) :
    ((uuidPrefixRange p).1 ≤ u ∧ u ≤ (uuidPrefixRange p).2) ↔ toLowerCase p <+: u := by
  rw [uuidPrefixRange_eq]
  exact between_iff (toLowerCase p) (Fits.shaped hu template_chars)

/-! ## The bounds are UUIDs -/

theorem fits_fill (hdigit : isHexDigit digit = true)
    (hchars : ∀ char ∈ template, char = 'x' ∨ char = '-') :
    Fits template (fillDigits digit template) := by
  induction template with
  | nil => exact .nil
  | cons t ts ih =>
    refine .cons ?_ (ih fun char hmem => hchars char (List.mem_cons_of_mem _ hmem))
    rcases hchars t List.mem_cons_self with rfl | rfl
    · exact fits_digit.mpr hdigit
    · exact fits_hyphen.mpr rfl

theorem fits_of_all (k : ℕ) (hlength : k + p.length ≤ UUID_TEMPLATE.length)
    (h : ((p.zipIdx k).all fun (char, index) => fits UUID_TEMPLATE[index]? char) = true) :
    Fits ((UUID_TEMPLATE.drop k).take p.length) p := by
  induction p generalizing k with
  | nil => simp
  | cons char p ih =>
    rw [List.zipIdx_cons, List.all_cons, Bool.and_eq_true] at h
    rw [List.length_cons] at hlength
    have hk : k < UUID_TEMPLATE.length := by omega
    rw [List.drop_eq_getElem_cons hk, List.length_cons, List.take_succ_cons]
    refine .cons ?_ (ih (k + 1) (by omega) h.2)
    rw [← List.getElem?_eq_getElem hk]
    exact h.1

theorem length_toLowerCase : (toLowerCase p).length = p.length := List.length_map ..

theorem fits_prefix (h : isUuidPrefix p = true) :
    p.length ≤ UUID_TEMPLATE.length ∧ Fits (UUID_TEMPLATE.take p.length) (toLowerCase p) := by
  rw [isUuidPrefix] at h
  split at h
  · cases h
  · rename_i hlength
    have hle : p.length ≤ UUID_TEMPLATE.length := by simp at hlength; omega
    have hfits := fits_of_all 0 (by rw [length_toLowerCase]; omega) h
    rw [length_toLowerCase] at hfits
    exact ⟨hle, hfits⟩

theorem range_isUuid (h : isUuidPrefix p = true) :
    IsUuid (uuidPrefixRange p).1 ∧ IsUuid (uuidPrefixRange p).2 := by
  obtain ⟨hlength, hfits⟩ := fits_prefix h
  have hfill : ∀ digit, isHexDigit digit = true →
      IsUuid (toLowerCase p ++ fillDigits digit (UUID_TEMPLATE.drop p.length)) := by
    intro digit hdigit
    have hrest : Fits _ (fillDigits digit (UUID_TEMPLATE.drop p.length)) :=
      fits_fill hdigit fun char hmem => template_chars char (List.mem_of_mem_drop hmem)
    have happend : Fits (UUID_TEMPLATE.take p.length ++ UUID_TEMPLATE.drop p.length)
        (toLowerCase p ++ fillDigits digit (UUID_TEMPLATE.drop p.length)) :=
      List.rel_append hfits hrest
    rwa [List.take_append_drop] at happend
  simp only [uuidPrefixRange, length_toLowerCase]
  exact ⟨hfill '0' (by decide), hfill 'f' (by decide)⟩

/-! ## Both orders agree on UUIDs -/

theorem hexValue_bounds (h : isHexDigit char = true) :
    (char ≤ '9' ∧ 48 ≤ char.toNat ∧ char.toNat ≤ 57 ∧ hexValue char = char.toNat - 48) ∨
      (¬char ≤ '9' ∧ 97 ≤ char.toNat ∧ char.toNat ≤ 102 ∧
        hexValue char = char.toNat - 97 + 10) := by
  rcases isHexDigit_iff.mp h with ⟨hlo, hhi⟩ | ⟨hlo, hhi⟩
  · exact .inl ⟨hhi, hlo, hhi, if_pos hhi⟩
  · have hlt : '9' < 'a' := by decide
    have hnot : ¬char ≤ '9' := not_le.mpr (hlt.trans_le hlo)
    exact .inr ⟨hnot, hlo, hhi, if_neg hnot⟩

theorem hexValue_lt (h : isHexDigit char = true) : hexValue char < 16 := by
  rcases hexValue_bounds h with ⟨-, h₁, h₂, heq⟩ | ⟨-, h₁, h₂, heq⟩ <;> omega

theorem char_lt_iff_hexValue {c d : Char} (hc : isHexDigit c = true) (hd : isHexDigit d = true) :
    c < d ↔ hexValue c < hexValue d := by
  have hlt : c < d ↔ c.toNat < d.toNat := Iff.rfl
  rw [hlt]
  rcases hexValue_bounds hc with ⟨-, h₁, h₂, heq⟩ | ⟨-, h₁, h₂, heq⟩ <;>
    rcases hexValue_bounds hd with ⟨-, h₃, h₄, heq'⟩ | ⟨-, h₃, h₄, heq'⟩ <;> omega

theorem char_eq_iff_hexValue {c d : Char} (hc : isHexDigit c = true) (hd : isHexDigit d = true) :
    c = d ↔ hexValue c = hexValue d := by
  constructor
  · exact congrArg _
  · intro h
    rcases lt_trichotomy c d with hlt | heq | hlt
    · exact absurd h ((char_lt_iff_hexValue hc hd).mp hlt).ne
    · exact heq
    · exact absurd h ((char_lt_iff_hexValue hd hc).mp hlt).ne'

theorem hexDigit_ne_hyphen (h : isHexDigit char = true) : (char != '-') = true := by
  rw [bne_iff_ne]
  rintro rfl
  exact absurd h (by decide)

theorem uuidDigits_hyphen : uuidDigits ('-' :: u) = uuidDigits u := rfl

theorem uuidDigits_digit (h : isHexDigit char = true) :
    uuidDigits (char :: u) = hexValue char :: uuidDigits u := by
  have hfilter : (char :: u).filter (fun char => char != '-') =
      char :: u.filter fun char => char != '-' :=
    List.filter_cons_of_pos (hexDigit_ne_hyphen h)
  rw [uuidDigits, hfilter, List.map_cons, uuidDigits]

theorem digits_order (hchars : ∀ char ∈ template, char = 'x' ∨ char = '-')
    (hu : Fits template u) (hv : Fits template v) :
    (uuidDigits u).length = (uuidDigits v).length ∧ (∀ d ∈ uuidDigits u, d < 16) ∧
      (uuidDigits u ≤ uuidDigits v ↔ u ≤ v) := by
  induction hu generalizing v with
  | nil =>
    cases hv
    exact ⟨rfl, fun _ h => (nomatch h), iff_of_true le_rfl le_rfl⟩
  | @cons t c ts cs hc _ ih =>
    cases hv with
    | @cons _ d _ ds hd htail =>
      obtain ⟨hlength, hlt, horder⟩ :=
        ih (fun char hmem => hchars char (List.mem_cons_of_mem _ hmem)) htail
      rcases hchars t List.mem_cons_self with rfl | rfl
      · have hc := fits_digit.mp hc
        have hd := fits_digit.mp hd
        rw [uuidDigits_digit hc, uuidDigits_digit hd]
        refine ⟨congrArg Nat.succ hlength, ?_, ?_⟩
        · exact List.forall_mem_cons.mpr ⟨hexValue_lt hc, hlt⟩
        · rw [cons_le_cons_iff, cons_le_cons_iff, horder, char_lt_iff_hexValue hc hd,
            char_eq_iff_hexValue hc hd]
      · obtain rfl := fits_hyphen.mp hc
        obtain rfl := fits_hyphen.mp hd
        refine ⟨hlength, hlt, ?_⟩
        rw [uuidDigits_hyphen, uuidDigits_hyphen, horder, cons_le_cons_iff]
        simp

/-- **As numbers UUIDs are ordered as they are as texts.** -/
theorem uuidNumber_le_iff (hu : IsUuid u) (hv : IsUuid v) :
    uuidNumber u ≤ uuidNumber v ↔ u ≤ v := by
  obtain ⟨hlength, hlt, horder⟩ := digits_order template_chars hu hv
  obtain ⟨-, hlt', -⟩ := digits_order template_chars hv hu
  rw [uuidNumber, uuidNumber, numeral_le_iff (by decide) hlength hlt hlt', horder]

/-! ## The range of a prefix -/

/-- **The range of a prefix is exact**: a UUID lies between the bounds, as a text and as a
number, if and only if it starts with the prefix in lower case. -/
theorem range_exact {p u : Text} (hp : isUuidPrefix p = true) (hu : IsUuid u) :
    (((uuidPrefixRange p).1 ≤ u ∧ u ≤ (uuidPrefixRange p).2) ↔ toLowerCase p <+: u) ∧
    ((uuidNumber (uuidPrefixRange p).1 ≤ uuidNumber u ∧
      uuidNumber u ≤ uuidNumber (uuidPrefixRange p).2) ↔ toLowerCase p <+: u) := by
  obtain ⟨hfrom, hto⟩ := range_isUuid hp
  rw [uuidNumber_le_iff hfrom hu, uuidNumber_le_iff hu hto]
  exact ⟨between_texts p hu, between_texts p hu⟩

theorem range_exact_session :
    (((uuidPrefixRange "3F2A9c1e-7".toList).1 ≤ "3f2a9c1e-7b4d-4e2f-9a1b-0c3d5e7f9a1b".toList ∧
      "3f2a9c1e-7b4d-4e2f-9a1b-0c3d5e7f9a1b".toList ≤ (uuidPrefixRange "3F2A9c1e-7".toList).2) ↔
        toLowerCase "3F2A9c1e-7".toList <+: "3f2a9c1e-7b4d-4e2f-9a1b-0c3d5e7f9a1b".toList) ∧
    ((uuidNumber (uuidPrefixRange "3F2A9c1e-7".toList).1 ≤
        uuidNumber "3f2a9c1e-7b4d-4e2f-9a1b-0c3d5e7f9a1b".toList ∧
      uuidNumber "3f2a9c1e-7b4d-4e2f-9a1b-0c3d5e7f9a1b".toList ≤
        uuidNumber (uuidPrefixRange "3F2A9c1e-7".toList).2) ↔
        toLowerCase "3F2A9c1e-7".toList <+: "3f2a9c1e-7b4d-4e2f-9a1b-0c3d5e7f9a1b".toList) :=
  range_exact (by decide +kernel) (by unfold IsUuid; decide +kernel)

end SessionSearch

end Eudiplo
