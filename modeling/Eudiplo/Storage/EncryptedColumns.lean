import Eudiplo.Shared.Base64
import Eudiplo.Shared.Results
import Mathlib.Tactic

/-!
# Encrypted columns

`DataEncryptionService` and the two column transformers.  A written text has three parts in base64
between colons; a text of the time before begins with a character that no such part has
(`isEncrypted_encrypt`, `not_isEncrypted`).  Node's cipher and buffers and `JSON` are parameters.
-/

namespace Eudiplo

open Results

namespace EncryptedColumns

/-- **Node's `crypto` and `Buffer`** under one key: what is decrypted under a full tag was
encrypted, and a text is read back from its base64 and from its bytes. -/
structure Crypto where
  /-- `Cipheriv`: the authentication tag and the ciphertext. -/
  encipher : (iv plain : List UInt8) → List UInt8 × List UInt8
  /-- What the service was called with so far, and the `randomBytes` it drew. -/
  encrypted : (iv : List UInt8) → String → Prop
  /-- `Decipheriv`, after `setAuthTag`. -/
  decipher : (iv tag ciphertext : List UInt8) → Except String (List UInt8)
  decipher_ok : ∀ iv tag ciphertext plain, tag.length = 16 →
    (decipher iv tag ciphertext = .ok plain ↔ ∃ s, encrypted iv s ∧ plain = s.toUTF8.data.toList ∧
      encipher iv plain = (tag, ciphertext))
  tag_length : ∀ iv plain, (encipher iv plain).1.length = 16
  /-- `Buffer.from(text, "base64")`, which reads any text. -/
  fromBase64 : List Char → List UInt8
  fromBase64_encode : ∀ bytes, fromBase64 (Base64.encode bytes) = bytes
  /-- `buffer.toString("utf8")` -/
  toUtf8 : List UInt8 → String
  toUtf8_bytes : ∀ s : String, toUtf8 s.toUTF8.data.toList = s

inductive JsonKind where
  | object | array | string | scalar
  deriving DecidableEq

/-- **`JSON`**, on the values that are not null. -/
structure JsonText where
  Value : Type
  kind : Value → JsonKind
  stringify : Value → String
  parse : String → Except String Value
  parse_stringify : ∀ v, parse (stringify v) = .ok v
  /-- How the text of an object, an array and a string begins. -/
  stringify_head : ∀ v, kind v ≠ .scalar → ∃ c rest, (stringify v).toList = c :: rest ∧
    c ∈ ['\x7b', '[', '"']

variable (crypto : Crypto) (json : JsonText)

/-! ## `DataEncryptionService` -/

/-- `encrypt`, with the `randomBytes` it draws. -/
def encrypt (iv : List UInt8) (plaintext : String) : String :=
  let enciphered := crypto.encipher iv plaintext.toUTF8.data.toList
  String.ofList ([':'].intercalate
    [Base64.encode iv, Base64.encode enciphered.1, Base64.encode enciphered.2])

def decrypt (encryptedValue : String) : Except String String :=
  match encryptedValue.toList.splitOn ':' with
  | [ivBase64, authTagBase64, ciphertextBase64] =>
    let authTag := crypto.fromBase64 authTagBase64
    if authTag.length = 16 then do
      let decrypted ← crypto.decipher (crypto.fromBase64 ivBase64) authTag
        (crypto.fromBase64 ciphertextBase64)
      return crypto.toUtf8 decrypted
    else .error s!"Invalid authentication tag length: {authTag.length}"
  | _ => .error "Invalid encrypted value format"

def encryptJson (iv : List UInt8) (value : json.Value) : String :=
  encrypt crypto iv (json.stringify value)

def decryptJson (encryptedValue : String) : Except String json.Value := do
  let text ← decrypt crypto encryptedValue
  json.parse text

def isBase64Char (c : Char) : Bool := c.isAlphanum || c == '+' || c == '/'

/-- `/^[A-Za-z0-9+/]*={0,2}$/`. -/
def looksBase64 (part : List Char) : Bool :=
  [[], ['='], ['=', '=']].contains (part.dropWhile isBase64Char)

def isEncrypted (value : String) : Bool :=
  let parts := value.toList.splitOn ':'
  parts.length == 3 && parts.all looksBase64

/-! ## The transformers -/

inductive Read where
  | value (v : json.Value)
  | text (s : String)

/-- `EncryptedJsonTransformer.to`. -/
def jsonTo (iv : List UInt8) (value : Option json.Value) : Option String :=
  value.map (encryptJson crypto json iv)

/-- `EncryptedJsonTransformer.from`. -/
def jsonFrom (value : Option String) : Except String (Option (Read json)) :=
  match value with
  | none => .ok none
  | some value =>
    if isEncrypted value then (decryptJson crypto json value).map fun v => some (.value v)
    else
      match json.parse value with
      | .ok v => .ok (some (.value v))
      | .error _ => .ok (some (.text value))

/-- `EncryptedStringTransformer.to`. -/
def stringTo (iv : List UInt8) (value : Option String) : Option String :=
  value.map (encrypt crypto iv)

/-- `EncryptedStringTransformer.from`. -/
def stringFrom (value : Option String) : Except String (Option String) :=
  match value with
  | none => .ok none
  | some value =>
    if isEncrypted value then (decrypt crypto value).map some else .ok (some value)

/-! ## Base64 -/

variable {crypto} {json} {iv : List UInt8} {s : String}

theorem isBase64Char_letter (n : Nat) : isBase64Char (Base64.letter n) = true := by
  have hall : Base64.alphabet.all isBase64Char = true := by decide +kernel
  unfold Base64.letter
  rw [List.getD_eq_getElem?_getD]
  cases hletter : Base64.alphabet[n]? with
  | none => decide
  | some c => exact List.all_eq_true.mp hall _ (List.mem_of_getElem? hletter)

theorem looksBase64_encode (bytes : List UInt8) : looksBase64 (Base64.encode bytes) = true := by
  have hpad : isBase64Char '=' = false := rfl
  unfold looksBase64
  induction bytes using Base64.encode.induct with
  | case1 => rfl
  | case2 a => simp [Base64.encode, List.dropWhile, isBase64Char_letter, hpad]
  | case3 a b => simp [Base64.encode, List.dropWhile, isBase64Char_letter, hpad]
  | case4 a b c rest ih => simpa [Base64.encode, List.dropWhile, isBase64Char_letter] using ih

theorem mem_of_looksBase64 {part : List Char} (h : looksBase64 part = true) {c : Char}
    (hc : c ∈ part) : isBase64Char c = true ∨ c = '=' := by
  rw [← List.takeWhile_append_dropWhile (p := isBase64Char) (l := part)] at hc
  obtain htaken | hrest := List.mem_append.mp hc
  · exact .inl (List.all_eq_true.mp List.all_takeWhile _ htaken)
  · unfold looksBase64 at h
    generalize part.dropWhile isBase64Char = tail at h hrest
    right
    simp only [List.contains_eq_mem, decide_eq_true_eq, List.mem_cons, List.not_mem_nil,
      or_false] at h
    obtain rfl | rfl | rfl := h <;> simp at hrest <;> exact hrest

theorem colon_notMem (bytes : List UInt8) : ':' ∉ Base64.encode bytes := by
  intro h
  obtain h | h := mem_of_looksBase64 (looksBase64_encode bytes) h <;> cases h

/-! ## The two formats -/

theorem splitOn_encrypt : (encrypt crypto iv s).toList.splitOn ':' =
    [Base64.encode iv, Base64.encode (crypto.encipher iv s.toUTF8.data.toList).1,
      Base64.encode (crypto.encipher iv s.toUTF8.data.toList).2] := by
  unfold encrypt
  rw [String.toList_ofList, List.splitOn_intercalate]
  · simp [colon_notMem]
  · simp

/-- **A written text is recognised.** -/
theorem isEncrypted_encrypt : isEncrypted (encrypt crypto iv s) = true := by
  unfold isEncrypted
  rw [splitOn_encrypt]
  simp [looksBase64_encode]

/-- **A text of the time before is not.** -/
theorem not_isEncrypted {c : Char} {rest : List Char} (h : s.toList = c :: rest)
    (hc : c ∈ ['\x7b', '[', '"']) : isEncrypted s = false := by
  rw [Bool.eq_false_iff]
  intro hencrypted
  unfold isEncrypted at hencrypted
  rw [Bool.and_eq_true, List.all_eq_true] at hencrypted
  have hbase : isBase64Char c = false ∧ c ≠ '=' ∧ c ≠ ':' := by
    simp only [List.mem_cons, List.not_mem_nil, or_false] at hc
    obtain rfl | rfl | rfl := hc <;> decide
  -- the first part begins as the text does
  rw [h, List.splitOn_cons_eq_if_modifyHead, if_neg (by simpa using hbase.2.2)] at hencrypted
  obtain ⟨part, parts, hparts⟩ := List.exists_cons_of_ne_nil (List.splitOn_ne_nil ':' rest)
  rw [hparts, List.modifyHead_cons] at hencrypted
  obtain hletter | hpad := mem_of_looksBase64 (hencrypted.2 _ List.mem_cons_self)
    (List.mem_cons_self (a := c))
  · exact Bool.false_ne_true (hbase.1.symm.trans hletter)
  · exact hbase.2.1 hpad

theorem decrypt_encrypt (h : crypto.encrypted iv s) :
    decrypt crypto (encrypt crypto iv s) = .ok s := by
  unfold decrypt
  rw [splitOn_encrypt]
  dsimp only
  rw [crypto.fromBase64_encode, crypto.fromBase64_encode, crypto.fromBase64_encode,
    if_pos (crypto.tag_length _ _)]
  refine bind_eq_ok.mpr ⟨s.toUTF8.data.toList, ?_, ?_⟩
  · exact (crypto.decipher_ok _ _ _ _ (crypto.tag_length _ _)).mpr ⟨s, h, rfl, rfl⟩
  · rw [crypto.toUtf8_bytes]
    rfl

/-- **What is decrypted was encrypted**, with the iv and under the tag of the text. -/
theorem encrypted_of_decrypt {text : String} (h : decrypt crypto text = .ok s) :
    ∃ iv, crypto.encrypted iv s := by
  unfold decrypt at h
  split at h
  · dsimp only at h
    split at h
    · rename_i hlength
      obtain ⟨plain, hplain, h⟩ := bind_eq_ok.mp h
      obtain ⟨t, ht, rfl, -⟩ := (crypto.decipher_ok _ _ _ _ hlength).mp hplain
      rw [crypto.toUtf8_bytes] at h
      cases h
      exact ⟨_, ht⟩
    · cases h
  · cases h

def oneText : Crypto where
  encipher _ plain := (List.replicate 16 0, plain)
  encrypted _ s := s = "secret"
  decipher _ tag ciphertext :=
    if tag = List.replicate 16 0 ∧ ciphertext = "secret".toUTF8.data.toList then .ok ciphertext
    else .error "Unsupported state or unable to authenticate data"
  decipher_ok iv tag ciphertext plain htag := by
    constructor
    · intro h
      split at h
      · rename_i htext
        cases h
        exact ⟨_, rfl, htext.2, Prod.ext htext.1.symm rfl⟩
      · cases h
    · rintro ⟨s, rfl, rfl, h⟩
      cases h
      exact if_pos ⟨rfl, rfl⟩
  tag_length _ _ := by simp
  fromBase64 text := (Base64.decode text).getD []
  fromBase64_encode bytes := by simp [Base64.decode_encode]
  toUtf8 bytes := (String.fromUTF8? ⟨bytes.toArray⟩).getD ""
  toUtf8_bytes s := by
    have hread : String.fromUTF8? ⟨s.toUTF8.data.toList.toArray⟩ = some s := dif_pos s.isValidUTF8
    rw [hread]
    rfl

example : decrypt oneText (encrypt oneText [1] "secret") = .ok "secret" := decrypt_encrypt rfl

end EncryptedColumns

open EncryptedColumns

end Eudiplo
