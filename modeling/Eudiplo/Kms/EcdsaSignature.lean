import Eudiplo.Shared.Base64
import Eudiplo.Shared.Der
import Eudiplo.Shared.Values

/-!
# Signatures of a remote key store

AWS KMS signs in DER, and a CSC provider in DER or with the two numbers side by side; JOSE and
COSE have them side by side.  `derEcdsaToRaw` is the same in both adapters.  It reads beyond its
bytes and at positions that are no numbers, as the language lets it, so it is modelled for all
bytes; a DER signature is read exactly (`derEcdsaToRaw_iff`).
-/

namespace Eudiplo

namespace EcdsaSignature

/-! ## The reader -/

/-- An index of a byte array, or `NaN`. -/
abbrev Position := Option Int

inductive EcdsaError where
  | error (message : String)
  | rangeError
  deriving DecidableEq

/-- `der[offset]`. -/
def byteAt (der : List UInt8) : Position → Option UInt8
  | some offset => if 0 ≤ offset then der[offset.toNat]? else none
  | none => none

def next (offset : Position) : Position := offset.map (· + 1)

def advance (offset len : Position) : Position := do return (← offset) + (← len)

/-- `(len << 8) | octet` in 32 bits; a missing octet counts as zero. -/
def shiftIn (len : Int) (octet : Option UInt8) : Int :=
  Int.bmod (len * 256 + (octet.getD 0).toNat) (2 ^ 32)

def longLength (der : List UInt8) : Nat → Int → Position → Int × Position
  | 0, len, offset => (len, offset)
  | n + 1, len, offset => longLength der n (shiftIn len (byteAt der offset)) (next offset)

/-- A length in its short or long form, and the position after it. -/
def readLength (der : List UInt8) (offset : Position) : Position × Position :=
  match byteAt der offset with
  | none => (none, next offset)
  | some first =>
    if first.toNat < 128 then (some first.toNat, next offset)
    else (longLength der (first.toNat - 128) 0 (next offset)).map some id

/-- An argument of `subarray`: a negative one counts from the end. -/
def clamp (length : Nat) : Position → Nat
  | none => 0
  | some index => if index < 0 then (length + index).toNat else min index.toNat length

def subarray (der : List UInt8) (first last : Position) : List UInt8 :=
  (der.take (clamp der.length last)).drop (clamp der.length first)

/-- Strip the zero that keeps an integer positive. -/
def stripZero (coordLength : Nat) (value : List UInt8) : List UInt8 :=
  if coordLength < value.length ∧ value.head? = some 0 then value.tail else value

def readInt (der : List UInt8) (coordLength : Nat) (offset : Position) :
    Except EcdsaError (List UInt8 × Position) :=
  if byteAt der offset = some 0x02 then
    let (len, start) := readLength der (next offset)
    .ok (stripZero coordLength (subarray der start (advance start len)), advance start len)
  else .error (.error "Invalid ECDSA signature: missing INTEGER tag")

/-- `out.set(source, offset)`. -/
def setBytes (out source : List UInt8) (offset : Int) : Except EcdsaError (List UInt8) :=
  if offset < 0 ∨ out.length < source.length + offset then .error .rangeError
  else .ok (out.take offset.toNat ++ source ++ out.drop (offset.toNat + source.length))

def derEcdsaToRaw (der : List UInt8) (coordLength : Nat) : Except EcdsaError (List UInt8) :=
  if byteAt der (some 0) = some 0x30 then do
    let (r, offset) ← readInt der coordLength (readLength der (some 1)).2
    let (s, _) ← readInt der coordLength offset
    let out ← setBytes (List.replicate (coordLength * 2) 0) r (coordLength - r.length)
    setBytes out s (coordLength * 2 - s.length)
  else .error (.error "Invalid ECDSA signature: missing SEQUENCE tag")

/-! ## A CSC provider -/

/-- `response.data` of `signatures/signHash`. -/
structure SignHashResponse where
  signatures : Option (List String) := none
  signature : Option String := none

def SignHashResponse.encoded (response : SignHashResponse) : Option String :=
  (response.signatures.bind (·.head?)).or response.signature

/-- `Buffer.from(text, "base64")`: it reads the base64 of some bytes; of other texts it reads
something. -/
structure Base64Buffer where
  decode : String → List UInt8
  decode_encode : ∀ bytes, decode (String.ofList (Base64.encode bytes)) = bytes

/-- A letter of the alphabet for URLs, in the other one. -/
def standardLetter (c : Char) : Char := if c = '-' then '+' else if c = '_' then '/' else c

def base64UrlOrBase64ToBytes (buffer : Base64Buffer) (s : String) : List UInt8 :=
  let normalized := s.toList.map standardLetter
  buffer.decode (String.ofList
    (normalized ++ List.replicate ((4 - normalized.length % 4) % 4) '='))

/-- **`sign`** of the CSC adapter, from the answer of the provider on. -/
def signatureOf (buffer : Base64Buffer) (providerId : String) (response : SignHashResponse) :
    Except EcdsaError (List UInt8) :=
  match response.encoded.filter (· ≠ "") with
  | none => .error (.error
    ("CscKmsAdapter[" ++ providerId ++ "]: signatures/signHash returned no signature"))
  | some encoded =>
    let signatureBytes := base64UrlOrBase64ToBytes buffer encoded
    if signatureBytes.length = 64 then .ok signatureBytes
    else if signatureBytes.head? = some 0x30 then derEcdsaToRaw signatureBytes 32
    else .error (.error ("CscKmsAdapter[" ++ providerId ++
      "]: unsupported signature format returned by CSC provider"))

/-! ## Signatures -/

/-- The content of an `INTEGER` that is not negative. -/
def integerContent (n : ℕ) : List UInt8 :=
  match Der.bigEndian n with
  | [] => [0]
  | first :: rest => if first.toNat < 128 then first :: rest else 0 :: first :: rest

/-- `ECDSA-Sig-Value`. -/
def sigValue (r s : ℕ) : List UInt8 :=
  Der.tlv 0x30 (Der.tlv 0x02 (integerContent r) ++ Der.tlv 0x02 (integerContent s))

def coordinate (coordLength n : ℕ) : List UInt8 :=
  List.replicate (coordLength - (Der.bigEndian n).length) 0 ++ Der.bigEndian n

def rawSignature (coordLength r s : ℕ) : List UInt8 :=
  coordinate coordLength r ++ coordinate coordLength s

/-- A text for some bytes: in either alphabet, with or without the padding. -/
def IsBase64 (text : String) (bytes : List UInt8) : Prop :=
  text.toList.map standardLetter = Base64.encode bytes ∨
    text.toList.map standardLetter = (Base64.encode bytes).filter (· ≠ '=')

/-! ## Octets -/

variable {before after content octets der : List UInt8} {n r s coordLength : ℕ}

theorem foldl_bigEndian (n : ℕ) :
    (Der.bigEndian n).foldl (fun len octet => len * 256 + octet.toNat) 0 = n := by
  rw [Der.bigEndian, List.foldl_map, List.foldl_reverse]
  conv_rhs => rw [← Nat.ofDigits_digits 256 n, Nat.ofDigits_eq_foldr]
  have hdigits : ∀ d ∈ Nat.digits 256 n, d < 256 := fun d hd =>
    Nat.digits_lt_base (by decide) hd
  revert hdigits
  induction Nat.digits 256 n with
  | nil => exact fun _ => rfl
  | cons d ds ih =>
    intro hdigits
    have hd : (UInt8.ofNat d).toNat = d := by
      rw [UInt8.toNat_ofNat']
      exact Nat.mod_eq_of_lt (hdigits d List.mem_cons_self)
    rw [List.foldr_cons, List.foldr_cons, ih fun d' hd' => hdigits d' (List.mem_cons_of_mem d hd'),
      hd]
    simp only [Nat.cast_id]
    ring

theorem le_foldl (octets : List UInt8) (len : ℕ) :
    len ≤ octets.foldl (fun len octet => len * 256 + octet.toNat) len := by
  induction octets generalizing len with
  | nil => exact le_rfl
  | cons octet octets ih => exact le_trans (by omega) (ih (len * 256 + octet.toNat))

theorem byteAt_append (before after : List UInt8) (b : UInt8) :
    byteAt (before ++ b :: after) (some before.length) = some b := by
  have hpos : (0 : Int) ≤ before.length := Int.natCast_nonneg _
  rw [byteAt, if_pos hpos, Int.toNat_natCast, List.getElem?_append_right le_rfl, Nat.sub_self]
  rfl

theorem next_length (before : List UInt8) (b : UInt8) :
    next (some (before.length : Int)) = some ((before ++ [b]).length : Int) := by simp [next]

theorem advance_natCast (offset len : ℕ) :
    advance (some (offset : Int)) (some (len : Int)) = some ((offset + len : ℕ) : Int) := rfl

/-- **A long length is read exactly**, unless it has more than 31 bits. -/
theorem longLength_append (before after : List UInt8) (len : ℕ)
    (hlen : octets.foldl (fun len octet => len * 256 + octet.toNat) len < 2 ^ 31) :
    longLength (before ++ octets ++ after) octets.length len (some before.length) =
      (((octets.foldl (fun len octet => len * 256 + octet.toNat) len : ℕ) : Int),
        some ((before.length + octets.length : ℕ) : Int)) := by
  induction octets generalizing before len with
  | nil => simp [longLength]
  | cons octet octets ih =>
    have hshift : shiftIn len (some octet) = ((len * 256 + octet.toNat : ℕ) : Int) := by
      have hbound := lt_of_le_of_lt (le_foldl octets (len * 256 + octet.toNat)) hlen
      rw [shiftIn, Option.getD_some]
      push_cast
      exact Int.bmod_eq_of_le (by omega) (by omega)
    have hsplit : before ++ octet :: octets ++ after = before ++ [octet] ++ octets ++ after := by
      simp
    have hbyte : byteAt (before ++ octet :: octets ++ after) (some before.length) = some octet := by
      rw [List.append_assoc, List.cons_append]
      exact byteAt_append before _ octet
    rw [List.length_cons, longLength, hbyte, hshift, hsplit, next_length before octet,
      ih (before ++ [octet]) _ hlen]
    simp
    omega

/-- **A length is read exactly**, unless it has more than 31 bits. -/
theorem readLength_append (before after : List UInt8) (hn : n < 2 ^ 31) :
    readLength (before ++ Der.length n ++ after) (some before.length) =
      (some (n : Int), some ((before.length + (Der.length n).length : ℕ) : Int)) := by
  unfold Der.length
  split
  · rename_i hshort
    have hoctet : (UInt8.ofNat n).toNat = n := by
      rw [UInt8.toNat_ofNat']
      omega
    rw [readLength, List.append_assoc, List.singleton_append, byteAt_append]
    simp [hoctet, hshort, next]
  · have hlength : (Der.bigEndian n).length ≤ 4 :=
      Der.length_bigEndian_le (hn.trans (by decide))
    have hoctet : (UInt8.ofNat (128 + (Der.bigEndian n).length)).toNat =
        128 + (Der.bigEndian n).length := by
      rw [UInt8.toNat_ofNat']
      omega
    generalize UInt8.ofNat (128 + (Der.bigEndian n).length) = first at hoctet ⊢
    have hfold := foldl_bigEndian n
    have hlong := longLength_append (before ++ [first]) after 0 (hfold.symm ▸ hn)
    rw [hfold] at hlong
    have hsplit : before ++ first :: Der.bigEndian n ++ after =
        before ++ [first] ++ Der.bigEndian n ++ after := by simp
    have hbyte := byteAt_append before (Der.bigEndian n ++ after) first
    rw [← List.cons_append, ← List.append_assoc] at hbyte
    rw [readLength, hbyte]
    show (if first.toNat < 128 then _ else _) = _
    rw [hoctet, if_neg (by omega), Nat.add_sub_cancel_left, hsplit, next_length before first]
    refine (congrArg (Prod.map some id) hlong).trans ?_
    simp
    omega

theorem clamp_natCast {length : ℕ} (h : n ≤ length) : clamp length (some (n : Int)) = n := by
  rw [clamp, if_neg (by omega), Int.toNat_natCast, Nat.min_eq_left h]

theorem subarray_append (before content after : List UInt8) :
    subarray (before ++ content ++ after) (some (before.length : Int))
      (some ((before.length + content.length : ℕ) : Int)) = content := by
  have hlength : (before ++ content ++ after).length =
      before.length + content.length + after.length := by
    simp [Nat.add_assoc]
  rw [subarray, clamp_natCast (by omega), clamp_natCast (by omega), List.append_assoc,
    List.take_append, List.drop_append]
  simp

/-- **An integer is read exactly**, up to the zero before it. -/
theorem readInt_append (coordLength : ℕ) (before after : List UInt8)
    (hcontent : content.length < 2 ^ 31) :
    readInt (before ++ Der.tlv 0x02 content ++ after) coordLength (some before.length) =
      .ok (stripZero coordLength content,
        some ((before.length + (Der.tlv 0x02 content).length : ℕ) : Int)) := by
  have htag : byteAt (before ++ Der.tlv 0x02 content ++ after) (some before.length) =
      some 0x02 := by
    rw [Der.tlv, List.cons_append, List.append_assoc, List.cons_append]
    exact byteAt_append before _ _
  have hlength := readLength_append (before ++ [0x02]) (content ++ after) hcontent
  have hsplit : before ++ Der.tlv 0x02 content ++ after =
      before ++ [0x02] ++ Der.length content.length ++ (content ++ after) := by
    simp [Der.tlv]
  have hvalue := subarray_append (before ++ [0x02] ++ Der.length content.length) content after
  rw [List.append_assoc _ content after, ← hsplit] at hvalue
  have hstart : (before ++ [0x02] : List UInt8).length + (Der.length content.length).length =
      (before ++ [0x02] ++ Der.length content.length).length := List.length_append.symm
  rw [hstart, ← hsplit] at hlength
  rw [readInt, if_pos htag, next_length before 0x02, hlength]
  show Except.ok (stripZero coordLength (subarray _ _ (advance _ _)), advance _ _) = _
  rw [advance_natCast, hvalue]
  simp [Der.tlv, Nat.add_comm, Nat.add_left_comm]

/-! ## Coordinates -/

theorem length_bigEndian_le_iff :
    (Der.bigEndian n).length ≤ coordLength ↔ n < 256 ^ coordLength := by
  rw [Der.bigEndian, List.length_map, List.length_reverse]
  exact Nat.digits_length_le_iff (by decide) n

theorem length_integerContent (n : ℕ) :
    (Der.bigEndian n).length ≤ (integerContent n).length ∧
      (integerContent n).length ≤ (Der.bigEndian n).length + 1 := by
  unfold integerContent
  split
  · rename_i hempty
    simp [hempty]
  · rename_i first rest hoctets
    rw [hoctets]
    split <;> simp

/-- **What is left of an integer that fits is its coordinate**, but for zeros before it. -/
theorem stripZero_integerContent (hn : n < 256 ^ coordLength) :
    (stripZero coordLength (integerContent n)).length ≤ coordLength ∧
      List.replicate (coordLength - (stripZero coordLength (integerContent n)).length) 0 ++
        stripZero coordLength (integerContent n) = coordinate coordLength n := by
  have hlength := length_bigEndian_le_iff.mpr hn
  unfold coordinate integerContent
  split
  · rename_i hempty
    cases coordLength with
    | zero => simp [stripZero, hempty]
    | succ k => simp [stripZero, hempty, List.replicate_succ']
  · rename_i first rest hoctets
    rw [hoctets] at hlength ⊢
    split
    · rw [stripZero, if_neg fun h => absurd h.1 (Nat.not_lt.mpr hlength)]
      exact ⟨hlength, rfl⟩
    · by_cases hfull : (first :: rest).length = coordLength
      · rw [stripZero, if_pos ⟨by rw [List.length_cons]; omega, rfl⟩]
        exact ⟨hlength, rfl⟩
      · have hroom : (first :: rest).length + 1 ≤ coordLength := by omega
        rw [stripZero, if_neg fun h => absurd h.1 (Nat.not_lt.mpr hroom)]
        obtain ⟨k, rfl⟩ := Nat.exists_eq_add_of_le hroom
        refine ⟨hroom, ?_⟩
        have hk : (first :: rest).length + 1 + k - (0 :: first :: rest).length = k := by
          simp only [List.length_cons]
          omega
        have hk' : (first :: rest).length + 1 + k - (first :: rest).length = k + 1 := by omega
        rw [hk, hk', List.replicate_succ', List.append_assoc]
        rfl

theorem length_coordinate (hn : n < 256 ^ coordLength) :
    (coordinate coordLength n).length = coordLength := by
  have hlength := length_bigEndian_le_iff.mpr hn
  rw [coordinate, List.length_append, List.length_replicate]
  omega

theorem setBytes_append {k : ℕ} (before after : List UInt8) (h : content.length ≤ k) :
    setBytes (before ++ (List.replicate k 0 ++ after)) content
        ((before.length + k : ℕ) - content.length) =
      .ok (before ++ (List.replicate (k - content.length) 0 ++ content ++ after)) := by
  have hoffset : ((before.length + k : ℕ) : Int) - content.length =
      ((before.length + (k - content.length) : ℕ) : Int) := by omega
  have hzeros : List.replicate k (0 : UInt8) =
      List.replicate (k - content.length) 0 ++ List.replicate content.length 0 := by
    rw [List.replicate_append_replicate, Nat.sub_add_cancel h]
  rw [setBytes, hoffset, if_neg, Int.toNat_natCast, hzeros]
  · have htake : before.length ≤ before.length + (k - content.length) := Nat.le_add_right _ _
    simp [List.take_append, List.drop_append, List.take_of_length_le htake,
      List.drop_eq_nil_of_le, Nat.add_assoc]
  · simp only [List.length_append, List.length_replicate]
    omega

/-! ## A DER signature -/

theorem length_length_le (hn : n < 2 ^ 31) : (Der.length n).length ≤ 5 := by
  unfold Der.length
  split
  · exact (by decide : 1 ≤ 5)
  · have hlength : (Der.bigEndian n).length ≤ 4 :=
      Der.length_bigEndian_le (hn.trans (by decide))
    rw [List.length_cons]
    omega

/-- **Reading a DER signature** comes down to the contents `a` and `b` of its two integers. -/
theorem derEcdsaToRaw_tlv {a b : List UInt8} (after : List UInt8) (coordLength : ℕ)
    (ha : a.length < 2 ^ 29) (hb : b.length < 2 ^ 29) :
    derEcdsaToRaw (Der.tlv 0x30 (Der.tlv 0x02 a ++ Der.tlv 0x02 b) ++ after) coordLength = (do
      let out ← setBytes (List.replicate (coordLength * 2) 0) (stripZero coordLength a)
        (coordLength - (stripZero coordLength a).length)
      setBytes out (stripZero coordLength b)
        (coordLength * 2 - (stripZero coordLength b).length)) := by
  have hla := length_length_le (ha.trans (by decide))
  have hlb := length_length_le (hb.trans (by decide))
  have hbody : (Der.tlv 0x02 a ++ Der.tlv 0x02 b).length < 2 ^ 31 := by
    simp only [Der.tlv, List.length_append, List.length_cons]
    omega
  have hsplit : Der.tlv 0x30 (Der.tlv 0x02 a ++ Der.tlv 0x02 b) ++ after =
      [0x30] ++ Der.length (Der.tlv 0x02 a ++ Der.tlv 0x02 b).length ++
        (Der.tlv 0x02 a ++ (Der.tlv 0x02 b ++ after)) := by
    simp [Der.tlv]
  generalize (Der.tlv 0x02 a ++ Der.tlv 0x02 b).length = size at hbody hsplit
  have hone : (some 1 : Position) = some (([0x30] : List UInt8).length : Int) := rfl
  have hsequence := readLength_append [0x30] (Der.tlv 0x02 a ++ (Der.tlv 0x02 b ++ after)) hbody
  have hreadA := readInt_append coordLength ([0x30] ++ Der.length size) (Der.tlv 0x02 b ++ after)
    (ha.trans (by decide))
  have hreadB := readInt_append coordLength ([0x30] ++ Der.length size ++ Der.tlv 0x02 a) after
    (hb.trans (by decide))
  rw [← List.length_append] at hreadA hsequence
  rw [List.append_assoc] at hreadA
  rw [List.append_assoc, List.append_assoc] at hreadB
  rw [hsplit, derEcdsaToRaw]
  refine (if_pos (byteAt_append [] _ 0x30)).trans ?_
  rw [hone, hsequence, hreadA]
  simp only [bind, Except.bind]
  rw [hreadB]

theorem length_content_lt (hn : (Der.bigEndian n).length ≤ 2 ^ 28) :
    (integerContent n).length < 2 ^ 29 := by
  have hcontent := (length_integerContent n).2
  omega

/-- **A DER signature is read exactly**, whatever stands behind it. -/
theorem derEcdsaToRaw_fits (after : List UInt8) (hr : r < 256 ^ coordLength)
    (hs : s < 256 ^ coordLength) (hsizeR : (Der.bigEndian r).length ≤ 2 ^ 28)
    (hsizeS : (Der.bigEndian s).length ≤ 2 ^ 28) :
    derEcdsaToRaw (sigValue r s ++ after) coordLength = .ok (rawSignature coordLength r s) := by
  have hlr := (stripZero_integerContent hr).1
  have hls := (stripZero_integerContent hs).1
  have hsetR := setBytes_append [] (List.replicate coordLength 0) hlr
  have hsetS := setBytes_append (coordinate coordLength r) [] hls
  rw [(stripZero_integerContent hr).2, List.nil_append, List.nil_append,
    List.replicate_append_replicate, List.length_nil, Nat.zero_add, ← Nat.mul_two] at hsetR
  rw [List.append_nil, List.append_nil, (stripZero_integerContent hs).2, length_coordinate hr,
    ← Nat.mul_two] at hsetS
  rw [sigValue, derEcdsaToRaw_tlv after coordLength (length_content_lt hsizeR)
    (length_content_lt hsizeS), hsetR]
  push_cast at hsetS
  exact hsetS

theorem length_setBytes {out source result : List UInt8} {offset : Int}
    (h : setBytes out source offset = .ok result) : result.length = out.length := by
  unfold setBytes at h
  split at h
  · cases h
  · rename_i hroom
    cases h
    simp only [List.length_append, List.length_take, List.length_drop]
    omega

theorem length_of_read {raw : List UInt8} (hsizeR : (Der.bigEndian r).length ≤ 2 ^ 28)
    (hsizeS : (Der.bigEndian s).length ≤ 2 ^ 28)
    (h : derEcdsaToRaw (sigValue r s ++ after) coordLength = .ok raw) :
    raw.length = coordLength * 2 := by
  rw [sigValue, derEcdsaToRaw_tlv after coordLength (length_content_lt hsizeR)
    (length_content_lt hsizeS)] at h
  simp only [bind, Except.bind] at h
  split at h
  · cases h
  · rename_i out hout
    rw [length_setBytes h, length_setBytes hout, List.length_replicate]

/-! ## Texts -/

theorem padded_encode (bytes : List UInt8) :
    (Base64.encode bytes).filter (· ≠ '=') ++ List.replicate
        ((4 - ((Base64.encode bytes).filter (· ≠ '=')).length % 4) % 4) '=' =
      Base64.encode bytes ∧ (Base64.encode bytes).length % 4 = 0 := by
  have hletter {n : ℕ} (hn : n < 64) : Base64.letter n ≠ '=' :=
    beq_eq_false_iff_ne.mp (Base64.letter_ne hn)
  induction bytes using Base64.encode.induct with
  | case1 => exact ⟨rfl, rfl⟩
  | case2 a =>
    have ha := a.toNat_lt
    simp (disch := omega) [Base64.encode, hletter, List.filter_cons]
  | case3 a b =>
    have ha := a.toNat_lt
    have hb := b.toNat_lt
    simp (disch := omega) [Base64.encode, hletter, List.filter_cons]
  | case4 a b c rest ih =>
    have ha := a.toNat_lt
    have hb := b.toNat_lt
    have hc := c.toNat_lt
    have hmod (k : ℕ) : (k + 1 + 1 + 1 + 1) % 4 = k % 4 := by omega
    simpa (disch := omega) [Base64.encode, hletter, List.filter_cons, hmod] using ih

/-- **Every text for some bytes is read as these.** -/
theorem toBytes_of_isBase64 (buffer : Base64Buffer) {text : String} {bytes : List UInt8}
    (h : IsBase64 text bytes) : base64UrlOrBase64ToBytes buffer text = bytes := by
  obtain ⟨hpadded, hlength⟩ := padded_encode bytes
  have hread : text.toList.map standardLetter ++ List.replicate
      ((4 - (text.toList.map standardLetter).length % 4) % 4) '=' = Base64.encode bytes := by
    rcases h with h | h
    · rw [h, hlength]
      exact List.append_nil _
    · rw [h]
      exact hpadded
  show buffer.decode (String.ofList _) = bytes
  rw [hread]
  exact buffer.decode_encode bytes

theorem ne_empty_of_isBase64 {text : String} {bytes : List UInt8} (h : IsBase64 text bytes)
    (hne : bytes ≠ []) : text ≠ "" := by
  rintro rfl
  have hpadded := (padded_encode bytes).1
  have hempty : Base64.encode bytes = [] := by
    rcases h with h | h
    · exact h.symm
    · rw [← h] at hpadded
      exact hpadded.symm
  cases bytes with
  | nil => exact hne rfl
  | cons a rest =>
    have hdecode := Base64.decode_encode (a :: rest)
    rw [hempty] at hdecode
    cases hdecode

theorem signatureOf_eq (buffer : Base64Buffer) (providerId : String) {response : SignHashResponse}
    {text : String} {first : UInt8} {rest : List UInt8} (hencoded : response.encoded = some text)
    (htext : IsBase64 text (first :: rest)) :
    signatureOf buffer providerId response =
      if (first :: rest).length = 64 then .ok (first :: rest)
      else if some first = some 0x30 then derEcdsaToRaw (first :: rest) 32
      else .error (.error ("CscKmsAdapter[" ++ providerId ++
        "]: unsupported signature format returned by CSC provider")) := by
  have hne := ne_empty_of_isBase64 htext (List.cons_ne_nil _ _)
  rw [signatureOf, hencoded, Option.filter_some, if_pos (decide_eq_true hne)]
  show (if (base64UrlOrBase64ToBytes buffer text).length = 64 then _ else _) = _
  rw [toBytes_of_isBase64 buffer htext]
  rfl

theorem length_rawSignature (coordLength r s : ℕ) :
    (rawSignature coordLength r s).length =
      max coordLength (Der.bigEndian r).length + max coordLength (Der.bigEndian s).length := by
  simp only [rawSignature, coordinate, List.length_append, List.length_replicate]
  omega

theorem bigEndian_small (hn : n < 256 ^ 32) : (Der.bigEndian n).length ≤ 2 ^ 28 :=
  (Der.length_bigEndian_le hn).trans (by decide)

theorem sigValue_short (h : (sigValue r s).length = 64) :
    ∃ a b : UInt8, sigValue r s =
      0x30 :: a :: 0x02 :: b :: (integerContent r ++ Der.tlv 0x02 (integerContent s)) := by
  have hshort {tag : UInt8} {content : List UInt8} (hcontent : content.length < 128) :
      Der.tlv tag content = tag :: UInt8.ofNat content.length :: content := by
    rw [Der.tlv, Der.length, if_pos hcontent]
    rfl
  have hbody := Der.length_tlv_le 0x30
    (Der.tlv 0x02 (integerContent r) ++ Der.tlv 0x02 (integerContent s))
  have hr := Der.length_tlv_le 0x02 (integerContent r)
  rw [sigValue] at h
  rw [h] at hbody
  rw [sigValue, hshort (by omega)]
  rw [List.length_append] at hbody
  generalize UInt8.ofNat (Der.tlv 0x02 (integerContent r) ++
    Der.tlv 0x02 (integerContent s)).length = a
  exact ⟨a, _, by rw [hshort (by omega)]; rfl⟩

/-- **A DER signature of 64 bytes is not its raw form**: the first four of its bytes would be
repeated throughout the first coordinate, and the second one begins with a zero. -/
theorem sigValue_ne_raw (hr : r < 256 ^ 32) (h : (sigValue r s).length = 64) :
    sigValue r s ≠ rawSignature 32 r s := by
  intro heq
  obtain ⟨a, b, hvalue⟩ := sigValue_short h
  have hlr := length_coordinate hr
  -- the first byte is not a zero, so the first coordinate has no zeros before it
  have hcoord : coordinate 32 r = Der.bigEndian r := by
    rw [coordinate]
    cases hk : 32 - (Der.bigEndian r).length with
    | zero => rfl
    | succ k =>
      rw [rawSignature, coordinate, hk, hvalue, List.replicate_succ] at heq
      have hhead := congrArg List.head? heq
      simp at hhead
  have hcontent : integerContent r = coordinate 32 r := by
    rw [hcoord, integerContent]
    rw [hvalue, rawSignature, hcoord] at heq
    cases hoctets : Der.bigEndian r with
    | nil => rw [hcoord, hoctets] at hlr; cases hlr
    | cons first rest =>
      rw [hoctets] at heq
      have hfirst : (0x30 : UInt8) = first := (List.cons.inj heq).1
      subst hfirst
      rfl
  have hshift (i : ℕ) (hi : i < 32) : (sigValue r s)[i + 4]? = (sigValue r s)[i]? := by
    conv_lhs => rw [hvalue]
    conv_rhs => rw [heq, rawSignature]
    rw [hcontent, List.getElem?_append_left (by omega)]
    simp only [List.getElem?_cons_succ]
    exact List.getElem?_append_left (by omega)
  have hlast : (sigValue r s)[32]? = some 0x30 := by
    rw [hshift 28 (by decide), hshift 24 (by decide), hshift 20 (by decide),
      hshift 16 (by decide), hshift 12 (by decide), hshift 8 (by decide), hshift 4 (by decide),
      hshift 0 (by decide), hvalue]
    rfl
  have hzero : (sigValue r s)[32]? = some 0 := by
    have hlength : (integerContent s).length < 32 := by
      have hsum := h
      rw [hvalue, hcontent] at hsum
      simp only [List.length_cons, List.length_append, hlr, Der.tlv] at hsum
      omega
    have hoctets := (length_integerContent s).1
    rw [heq, rawSignature, List.getElem?_append_right (by omega), hlr, coordinate]
    obtain ⟨k, hk⟩ := Nat.exists_eq_succ_of_ne_zero (n := 32 - (Der.bigEndian s).length) (by omega)
    rw [hk, List.replicate_succ]
    rfl
  rw [hlast] at hzero
  cases hzero

end EcdsaSignature

open EcdsaSignature

/-- **A DER signature becomes the raw one exactly if both numbers fit a coordinate**, whatever
stands behind it. -/
theorem derEcdsaToRaw_iff (r s coordLength : ℕ) (after : List UInt8)
    (hsizeR : (Der.bigEndian r).length ≤ 2 ^ 28) (hsizeS : (Der.bigEndian s).length ≤ 2 ^ 28) :
    derEcdsaToRaw (sigValue r s ++ after) coordLength = .ok (rawSignature coordLength r s) ↔
      r < 256 ^ coordLength ∧ s < 256 ^ coordLength := by
  constructor
  · intro h
    have hlength := length_of_read hsizeR hsizeS h
    rw [length_rawSignature] at hlength
    rw [← length_bigEndian_le_iff, ← length_bigEndian_le_iff]
    omega
  · rintro ⟨hr, hs⟩
    exact derEcdsaToRaw_fits after hr hs hsizeR hsizeS

theorem derEcdsaToRaw_iff_small :
    derEcdsaToRaw (sigValue 1 200 ++ [0]) 32 = .ok (rawSignature 32 1 200) ↔
      1 < 256 ^ 32 ∧ 200 < 256 ^ 32 :=
  derEcdsaToRaw_iff 1 200 32 [0] (bigEndian_small (by norm_num)) (bigEndian_small (by norm_num))

/-- **A CSC signature is understood**, in whatever base64 the provider writes it: in its raw form,
and in DER exactly if the encoding is not 64 bytes long, as a raw signature is. -/
theorem csc_signatures_understood (buffer : Base64Buffer) (providerId : String)
    (response : SignHashResponse) (text : String) (bytes : List UInt8) (r s : ℕ)
    (hr : r < 256 ^ 32) (hs : s < 256 ^ 32) (hencoded : response.encoded = some text)
    (htext : IsBase64 text bytes) :
    (bytes = rawSignature 32 r s →
      signatureOf buffer providerId response = .ok (rawSignature 32 r s)) ∧
    (bytes = sigValue r s →
      (signatureOf buffer providerId response = .ok (rawSignature 32 r s) ↔
        (sigValue r s).length ≠ 64)) := by
  have hraw : (rawSignature 32 r s).length = 64 := by
    rw [rawSignature, List.length_append, length_coordinate hr, length_coordinate hs]
  constructor
  · rintro rfl
    obtain ⟨first, rest, hcons⟩ := List.exists_cons_of_length_eq_add_one hraw
    rw [hcons] at htext
    rw [signatureOf_eq buffer providerId hencoded htext, ← hcons, if_pos hraw]
  · rintro rfl
    have hcons : sigValue r s = 0x30 :: (sigValue r s).tail := rfl
    have hread := signatureOf_eq buffer providerId hencoded (hcons ▸ htext)
    rw [← hcons] at hread
    have hder : derEcdsaToRaw (sigValue r s) 32 = .ok (rawSignature 32 r s) := by
      have hfits := derEcdsaToRaw_fits [] hr hs (bigEndian_small hr) (bigEndian_small hs)
      rwa [List.append_nil] at hfits
    rw [hread]
    by_cases hlength : (sigValue r s).length = 64
    · rw [if_pos hlength]
      refine ⟨fun h => absurd (Except.ok.inj h) (sigValue_ne_raw hr hlength),
        fun h => absurd hlength h⟩
    · rw [if_neg hlength, if_pos rfl, hder]
      exact ⟨fun _ => hlength, fun _ => rfl⟩

/-- A reader of base64 that reads nothing else. -/
def strictBuffer : Base64Buffer where
  decode text := (Base64.decode text.toList).getD []
  decode_encode bytes := by rw [String.toList_ofList, Base64.decode_encode]; rfl

theorem csc_signatures_understood_der :
    signatureOf strictBuffer "csc" { signatures := some ["MAYCAQECAQE"] } =
      .ok (rawSignature 32 1 1) := by
  have hvalue : sigValue 1 1 = [0x30, 6, 0x02, 1, 1, 0x02, 1, 1] := by
    simp [sigValue, integerContent, Der.tlv, Der.length, Der.bigEndian]
  have hboth := csc_signatures_understood strictBuffer "csc" { signatures := some ["MAYCAQECAQE"] }
    "MAYCAQECAQE" (sigValue 1 1) 1 1 (by norm_num) (by norm_num) rfl (.inr (by rw [hvalue]; rfl))
  exact (hboth.2 rfl).mpr (by rw [hvalue]; decide)

end Eudiplo
