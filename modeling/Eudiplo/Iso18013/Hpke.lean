import Eudiplo.Shared.HpkeBase

/-!
# Opening a response in the browser flow

`hpke.ts`: HPKE base mode with DHKEM(P-256, HKDF-SHA256), HKDF-SHA256 and AES-128-GCM.  HMAC, ECDH
and AES are the primitives; the loops, labels and slices are the code's own.  A call that throws is
`none`.
-/

namespace Eudiplo

namespace Iso18013

open Hpke (Bytes Primitives label)

/-- `KEM_ID`, `KDF_ID`, `AEAD_ID`. -/
def KEM_ID : Nat := 0x0010
def KDF_ID : Nat := 0x0001
def AEAD_ID : Nat := 0x0001

/-- The loop of `i2osp`, from the last byte: `b[i] = n & 0xff; n >>>= 8`. -/
def i2osp (n : Nat) : Nat → Bytes
  | 0 => []
  | len + 1 => i2osp (n >>> 8) len ++ [UInt8.ofNat (n &&& 0xff)]

def hpkeSuiteId : Bytes := label "HPKE" ++ i2osp KEM_ID 2 ++ i2osp KDF_ID 2 ++ i2osp AEAD_ID 2

def kemSuiteId : Bytes := label "KEM" ++ i2osp KEM_ID 2

variable (P : Primitives)

/-- `hkdfExtract`: a salt that is missing or empty is 32 zeros. -/
def hkdfExtract (salt : Option Bytes) (ikm : Bytes) : Bytes :=
  let realSalt := match salt with
    | some salt => if 0 < salt.length then salt else List.replicate 32 0
    | none => List.replicate 32 0
  P.hmac realSalt ikm

/-- The loop of `hkdfExpand`: the last block, the counter and what is written. -/
def hkdfExpandLoop (prk info : Bytes) (len : Nat) : Nat → Bytes → Nat → Bytes → Bytes
  | 0, _, _, out => out
  | rounds + 1, t, n, out =>
    if out.length < len then
      let t := P.hmac prk (t ++ info ++ [UInt8.ofNat n])
      let take := min t.length (len - out.length)
      hkdfExpandLoop prk info len rounds t (n + 1) (out ++ t.take take)
    else out

/-- `hkdfExpand`: a round writes at least a byte. -/
def hkdfExpand (prk info : Bytes) (len : Nat) : Bytes := hkdfExpandLoop P prk info len len [] 1 []

def labeledExtract (suiteId : Bytes) (salt : Option Bytes) (text : String) (ikm : Bytes) : Bytes :=
  hkdfExtract P salt (label "HPKE-v1" ++ suiteId ++ label text ++ ikm)

def labeledExpand (suiteId prk : Bytes) (text : String) (info : Bytes) (len : Nat) : Bytes :=
  hkdfExpand P prk (i2osp len 2 ++ label "HPKE-v1" ++ suiteId ++ label text ++ info) len

structure RecipientKey where
  x : Bytes
  y : Bytes
  d : Bytes
  serialized : [0x04] ++ x ++ y = P.publicKey d

variable {P}

def dhkemDecap (encKey : Bytes) (recipient : RecipientKey P) : Option Bytes := do
  let dhOutput ← P.dh recipient.d encKey
  let pk_r := [0x04] ++ recipient.x ++ recipient.y
  let kemContext := encKey ++ pk_r
  let eaePrk := labeledExtract P kemSuiteId none "eae_prk" dhOutput
  return labeledExpand P kemSuiteId eaePrk "shared_secret" kemContext 32

variable (P) in
def keySchedule (sharedSecret info : Bytes) : Bytes × Bytes :=
  let mode := [0x00]
  let pskIdHash := labeledExtract P hpkeSuiteId none "psk_id_hash" []
  let infoHash := labeledExtract P hpkeSuiteId none "info_hash" info
  let ksContext := mode ++ pskIdHash ++ infoHash
  let secret := labeledExtract P hpkeSuiteId (some sharedSecret) "secret" []
  (labeledExpand P hpkeSuiteId secret "key" ksContext 16,
    labeledExpand P hpkeSuiteId secret "base_nonce" ksContext 12)

/-- The lengths that `setAuthTag` takes for GCM, when none is configured. -/
def validTagLength (n : Nat) : Bool := n == 4 || n == 8 || (12 ≤ n && n ≤ 16)

variable (P) in
/-- `createDecipheriv`, `setAuthTag`, `update` and `final`: only as many bytes of the tag as are
given are compared. -/
def decipher (keys : Bytes × Bytes) (authTag aad encrypted : Bytes) : Option Bytes :=
  if !validTagLength authTag.length then none
  else if (P.tag keys.1 keys.2 aad encrypted).take authTag.length = authTag then
    some (P.cipher keys.1 keys.2 encrypted)
  else none

/-- `b.subarray(-n)` and `b.subarray(0, -n)`: of a shorter text, all of it and nothing. -/
def subarrayLast (n : Nat) (b : Bytes) : Bytes := b.drop (b.length - n)
def subarrayFront (n : Nat) (b : Bytes) : Bytes := b.take (b.length - n)

/-- **`hpkeOpen`**. -/
def hpkeOpen (encKey ciphertext : Bytes) (recipient : RecipientKey P) (info aad : Bytes) :
    Option Bytes := do
  let sharedSecret ← dhkemDecap encKey recipient
  let keys := keySchedule P sharedSecret info
  let authTag := subarrayLast 16 ciphertext
  let encrypted := subarrayFront 16 ciphertext
  decipher P keys authTag aad encrypted

end Iso18013

end Eudiplo

/-!
# What is opened was sealed

`hpkeOpen` computes the secret, the key and the nonce of RFC 9180 (`dhkemDecap_eq`,
`keySchedule_eq`): one round of `hkdfExpand` for one block of HKDF (`hkdfExpand_eq`).

It cuts the tag off the end, and compares as many bytes as it has cut off.  A text of fewer than 16
bytes is a tag alone, a shorter one than sealing makes, and is accepted for its length.
-/

namespace Eudiplo

open Hpke (Bytes Primitives Suite label)

namespace Iso18013

def suite : Suite := ⟨KEM_ID, KDF_ID, AEAD_ID⟩

theorem i2osp_eq (n len : Nat) : i2osp n len = Hpke.i2osp n len := by
  have hlast : ∀ len n, Hpke.i2osp n (len + 1) =
      Hpke.i2osp (n / 256) len ++ [UInt8.ofNat n] := by
    intro len
    induction len with
    | zero => intro n; simp [Hpke.i2osp]
    | succ len ih =>
      intro n
      rw [Hpke.i2osp, ih n, Hpke.i2osp, Nat.div_div_eq_div_mul, ← Nat.pow_succ']
      rfl
  induction len generalizing n with
  | zero => rfl
  | succ len ih =>
    have hbyte : UInt8.ofNat (n &&& 0xff) = UInt8.ofNat n := by
      rw [show 0xff = 2 ^ 8 - 1 from rfl, Nat.and_two_pow_sub_one_eq_mod]
      exact UInt8.ofNat_mod_size
    rw [i2osp, ih, hbyte, Nat.shiftRight_eq_div_pow]
    exact (hlast len n).symm

theorem hpkeSuiteId_eq : hpkeSuiteId = suite.hpke := by
  rw [hpkeSuiteId, i2osp_eq, i2osp_eq, i2osp_eq]
  rfl

theorem kemSuiteId_eq : kemSuiteId = suite.kem := by
  rw [kemSuiteId, i2osp_eq]
  rfl

section

variable (P : Primitives)

theorem hkdfExtract_none (ikm : Bytes) : hkdfExtract P none ikm = Hpke.extract P [] ikm :=
  P.hmac_zeros ikm

theorem hkdfExtract_some {salt : Bytes} (h : 0 < salt.length) (ikm : Bytes) :
    hkdfExtract P (some salt) ikm = Hpke.extract P salt ikm := by
  simp only [hkdfExtract, if_pos h]
  rfl

theorem hkdfExpandLoop_eq (prk info : Bytes) (len rounds n : Nat)
    (henough : len ≤ 32 * n + rounds) :
    hkdfExpandLoop P prk info len rounds (Hpke.block P prk info n) (n + 1)
      ((Hpke.blocks P prk info n).take len) = Hpke.expand P prk info len := by
  induction rounds generalizing n with
  | zero => exact (Hpke.expand_eq P prk info henough).symm
  | succ rounds ih =>
    have hlength := Hpke.length_blocks P prk info n
    have hlength' := P.hmac_length prk (Hpke.block P prk info n ++ info ++ [UInt8.ofNat (n + 1)])
    rw [hkdfExpandLoop]
    split
    · rename_i hshort
      -- every block so far is written in full
      have hn : 32 * n < len := by
        rw [List.length_take, hlength] at hshort
        omega
      have hfull : (Hpke.blocks P prk info n).take len = Hpke.blocks P prk info n :=
        List.take_of_length_le (by omega)
      have hnext : (Hpke.blocks P prk info n).take len ++ (Hpke.block P prk info (n + 1)).take
            (min (Hpke.block P prk info (n + 1)).length
              (len - ((Hpke.blocks P prk info n).take len).length)) =
          (Hpke.blocks P prk info (n + 1)).take len := by
        rw [hfull, Nat.min_comm, ← List.take_eq_take_min, Hpke.blocks, List.take_append, hfull]
      change hkdfExpandLoop P prk info len rounds (Hpke.block P prk info (n + 1)) (n + 1 + 1)
        (_ ++ (Hpke.block P prk info (n + 1)).take
          (min (Hpke.block P prk info (n + 1)).length _)) = _
      rw [hnext]
      exact ih (n + 1) (by omega)
    · rename_i hlong
      have hn : len ≤ 32 * n := by
        rw [List.length_take, hlength] at hlong
        omega
      exact (Hpke.expand_eq P prk info hn).symm

theorem hkdfExpand_eq (prk info : Bytes) (len : Nat) :
    hkdfExpand P prk info len = Hpke.expand P prk info len := by
  have h := hkdfExpandLoop_eq P prk info len len 0 (by omega)
  rwa [Hpke.blocks, List.take_nil] at h

theorem labeledExtract_none (suiteId : Bytes) (text : String) (ikm : Bytes) :
    labeledExtract P suiteId none text ikm = Hpke.labeledExtract P suiteId [] text ikm :=
  hkdfExtract_none P _

theorem labeledExpand_eq (suiteId prk : Bytes) (text : String) (info : Bytes) (len : Nat) :
    labeledExpand P suiteId prk text info len =
      Hpke.labeledExpand P suiteId prk text info len := by
  rw [labeledExpand, hkdfExpand_eq, i2osp_eq]
  rfl

end

variable {P : Primitives}

theorem dhkemDecap_eq (encKey : Bytes) (recipient : RecipientKey P) :
    dhkemDecap encKey recipient = Hpke.decap P suite encKey recipient.d := by
  unfold dhkemDecap Hpke.decap
  cases P.dh recipient.d encKey with
  | none => rfl
  | some dh =>
    simp only [Option.bind_eq_bind, Option.bind_some, Option.map_some, Option.pure_def]
    rw [recipient.serialized, labeledExpand_eq, labeledExtract_none, kemSuiteId_eq]
    rfl

theorem length_extractAndExpand (dh kemContext : Bytes) :
    0 < (Hpke.extractAndExpand P suite dh kemContext).length := by
  unfold Hpke.extractAndExpand Hpke.labeledExpand Hpke.expand
  rw [List.length_take, Hpke.length_blocks]
  decide

theorem keySchedule_eq {sharedSecret : Bytes} (h : 0 < sharedSecret.length) (info : Bytes) :
    keySchedule P sharedSecret info = Hpke.keySchedule P suite sharedSecret info := by
  have hsecret : labeledExtract P suite.hpke (some sharedSecret) "secret" [] =
      Hpke.labeledExtract P suite.hpke sharedSecret "secret" [] := hkdfExtract_some P h _
  unfold keySchedule Hpke.keySchedule
  simp only [labeledExpand_eq, labeledExtract_none, hpkeSuiteId_eq, hsecret]

/-! ## Opening -/

theorem decap_length {encKey secret : Bytes} {recipient : RecipientKey P}
    (h : dhkemDecap encKey recipient = some secret) : 0 < secret.length := by
  rw [dhkemDecap_eq] at h
  obtain ⟨dh, -, rfl⟩ := Option.map_eq_some_iff.mp h
  exact length_extractAndExpand dh _

theorem decipher_full {keys : Bytes × Bytes} {aad c p : Bytes} (h : 16 ≤ c.length) :
    decipher P keys (subarrayLast 16 c) aad (subarrayFront 16 c) = some p ↔
      c = Hpke.sealWith P keys aad p := by
  have hlast : (subarrayLast 16 c).length = 16 := by
    rw [subarrayLast, List.length_drop]
    omega
  have hsplit : subarrayFront 16 c ++ subarrayLast 16 c = c := List.take_append_drop _ _
  have hseal : Hpke.sealWith P keys aad p = subarrayFront 16 c ++ subarrayLast 16 c ↔
      P.tag keys.1 keys.2 aad (subarrayFront 16 c) = subarrayLast 16 c ∧
        P.cipher keys.1 keys.2 (subarrayFront 16 c) = p := Hpke.sealWith_eq_iff P hlast
  rw [hsplit] at hseal
  have htag := P.tag_length keys.1 keys.2 aad (subarrayFront 16 c)
  rw [eq_comm (b := Hpke.sealWith P keys aad p), hseal, decipher, hlast, if_neg (by decide),
    List.take_of_length_le (Nat.le_of_eq htag)]
  constructor
  · intro h
    split at h
    · rename_i heq
      exact ⟨heq, Option.some.inj h⟩
    · cases h
  · rintro ⟨heq, rfl⟩
    rw [if_pos heq]

theorem decipher_short {keys : Bytes × Bytes} {aad c : Bytes} (h : c.length < 16) :
    decipher P keys (subarrayLast 16 c) aad (subarrayFront 16 c) =
      if validTagLength c.length = true ∧ (P.tag keys.1 keys.2 aad []).take c.length = c then
        some (P.cipher keys.1 keys.2 [])
      else none := by
  have hlast : subarrayLast 16 c = c := by
    rw [subarrayLast, Nat.sub_eq_zero_of_le h.le, List.drop_zero]
  have hfront : subarrayFront 16 c = [] := by
    rw [subarrayFront, Nat.sub_eq_zero_of_le h.le, List.take_zero]
  rw [hlast, hfront, decipher]
  cases hvalid : validTagLength c.length with
  | false => simp
  | true => simp

/-- **Opening**: what is opened was sealed for these inputs, by a sender with this encapsulated
key. -/
def OpensSealed (recipient : RecipientKey P) (encKey info aad c : Bytes) : Prop :=
  ∀ p, hpkeOpen encKey c recipient info aad = some p ↔
    ∃ skE, P.publicKey skE = encKey ∧
      Hpke.sealBase P suite skE (P.publicKey recipient.d) info aad p = some c

theorem sealed_iff {recipient : RecipientKey P} {encKey info aad c p : Bytes} :
    (∃ skE, P.publicKey skE = encKey ∧
        Hpke.sealBase P suite skE (P.publicKey recipient.d) info aad p = some c) ↔
      (∃ skE, P.publicKey skE = encKey) ∧ ∃ secret, dhkemDecap encKey recipient = some secret ∧
        c = Hpke.sealWith P (keySchedule P secret info) aad p := by
  constructor
  · rintro ⟨skE, rfl, hseal⟩
    obtain ⟨secret, hsecret, rfl⟩ := Option.map_eq_some_iff.mp hseal
    rw [← Hpke.decap_publicKey, ← dhkemDecap_eq] at hsecret
    exact ⟨⟨skE, rfl⟩, secret, hsecret, by rw [keySchedule_eq (decap_length hsecret)]⟩
  · rintro ⟨⟨skE, rfl⟩, secret, hsecret, rfl⟩
    have hkeys := keySchedule_eq (P := P) (decap_length hsecret) info
    rw [dhkemDecap_eq, Hpke.decap_publicKey] at hsecret
    refine ⟨skE, rfl, ?_⟩
    rw [Hpke.sealBase, hsecret, Option.map_some, hkeys]

theorem hpkeOpen_of_decap {recipient : RecipientKey P} {encKey secret : Bytes}
    (h : dhkemDecap encKey recipient = some secret) (c info aad : Bytes) :
    hpkeOpen encKey c recipient info aad = decipher P (keySchedule P secret info)
      (subarrayLast 16 c) aad (subarrayFront 16 c) := by
  rw [hpkeOpen, h]
  rfl

end Iso18013

open Iso18013

/-- **Texts of a length are opened as RFC 9180 says**, exactly when the encapsulated key is refused,
the length is none of a tag, or the key is a public one and the text long enough for a full
tag. -/
theorem hpkeOpen_sealed {P : Primitives} (recipient : RecipientKey P)
    (encKey info aad : Bytes) (n : Nat) :
    (∀ c : Bytes, c.length = n → OpensSealed recipient encKey info aad c) ↔
      P.dh recipient.d encKey = none ∨ (n < 16 ∧ validTagLength n = false) ∨
        (16 ≤ n ∧ ∃ skE, P.publicKey skE = encKey) := by
  cases hdh : P.dh recipient.d encKey with
  | none =>
    refine iff_of_true (fun c _ p => iff_of_false ?_ ?_) (.inl rfl)
    · intro h
      rw [hpkeOpen, dhkemDecap, hdh] at h
      cases h
    · rw [sealed_iff]
      rintro ⟨-, secret, h, -⟩
      rw [dhkemDecap, hdh] at h
      cases h
  | some dh =>
    obtain ⟨secret, hsecret⟩ : ∃ secret, dhkemDecap encKey recipient = some secret := by
      rw [dhkemDecap, hdh]
      exact ⟨_, rfl⟩
    have hunique : ∀ {c p : Bytes}, (∃ secret', dhkemDecap encKey recipient = some secret' ∧
        c = Hpke.sealWith P (keySchedule P secret' info) aad p) ↔
          c = Hpke.sealWith P (keySchedule P secret info) aad p := by
      intro c p
      rw [hsecret]
      exact ⟨fun ⟨_, h, hc⟩ => by cases h; exact hc, fun hc => ⟨secret, rfl, hc⟩⟩
    constructor
    · intro h
      by_cases hn : n < 16
      · -- a tag cut to a length that is taken opens to the empty text
        refine .inr (.inl ⟨hn, Bool.eq_false_iff.mpr fun hvalid => ?_⟩)
        let keys := keySchedule P secret info
        have hlength : ((P.tag keys.1 keys.2 aad []).take n).length = n := by
          rw [List.length_take, P.tag_length]
          omega
        have hopen : hpkeOpen encKey ((P.tag keys.1 keys.2 aad []).take n) recipient info aad =
            some (P.cipher keys.1 keys.2 []) := by
          rw [hpkeOpen_of_decap hsecret, decipher_short (by rw [hlength]; exact hn), hlength]
          exact if_pos ⟨hvalid, rfl⟩
        obtain ⟨skE, -, hseal⟩ := (h _ hlength _).mp hopen
        obtain ⟨secret', -, heq⟩ := Option.map_eq_some_iff.mp hseal
        have hlong := Hpke.length_sealWith P (Hpke.keySchedule P suite secret' info) aad
          (P.cipher keys.1 keys.2 [])
        rw [heq, hlength] at hlong
        omega
      · -- a text of the length that is opened has a sender
        have hn : 16 ≤ n := Nat.le_of_not_lt hn
        let keys := keySchedule P secret info
        let front : Bytes := List.replicate (n - 16) 0
        have hsealed : Hpke.sealWith P keys aad (P.cipher keys.1 keys.2 front) =
            front ++ P.tag keys.1 keys.2 aad front :=
          (Hpke.sealWith_eq_iff P (P.tag_length _ _ _ _)).mpr ⟨rfl, rfl⟩
        have hlength : (Hpke.sealWith P keys aad (P.cipher keys.1 keys.2 front)).length = n := by
          rw [hsealed, List.length_append, P.tag_length, List.length_replicate]
          omega
        have hopen := (hpkeOpen_of_decap hsecret _ info aad).trans
          ((decipher_full (by rw [hlength]; exact hn)).mpr rfl)
        obtain ⟨skE, hskE, -⟩ := (h _ hlength _).mp hopen
        exact .inr (.inr ⟨hn, skE, hskE⟩)
    · rintro (h | ⟨hn, hvalid⟩ | ⟨hn, hpublic⟩) c rfl p
      · cases h
      · rw [hpkeOpen_of_decap hsecret, decipher_short hn, sealed_iff, hunique, hvalid]
        refine iff_of_false (by simp) fun ⟨_, hseal⟩ => ?_
        have hlong := Hpke.length_sealWith P (keySchedule P secret info) aad p
        rw [← hseal] at hlong
        omega
      · rw [hpkeOpen_of_decap hsecret, decipher_full hn, sealed_iff, hunique]
        exact (and_iff_right hpublic).symm

namespace Iso18013

def plainPrimitives : Primitives where
  hmac _ _ := List.replicate 32 0
  publicKey _ := [0x04]
  dh _ _ := some []
  cipher _ _ text := text
  tag _ _ _ _ := List.replicate 16 0
  hmac_length _ _ := rfl
  hmac_zeros _ := rfl
  dh_agree _ _ := rfl
  cipher_cipher _ _ _ := rfl
  tag_length _ _ _ _ := rfl

def plainKey : RecipientKey plainPrimitives where
  x := []
  y := []
  d := []
  serialized := rfl

end Iso18013

/-- **Four bytes of a tag** are opened. -/
theorem not_hpkeOpen_sealed :
    hpkeOpen [0x04] [0, 0, 0, 0] plainKey [] [] = some [] ∧
      ¬OpensSealed plainKey [0x04] [] [] [0, 0, 0, 0] := by
  have hopen : hpkeOpen [0x04] [0, 0, 0, 0] plainKey [] [] = some [] := rfl
  refine ⟨hopen, fun h => ?_⟩
  obtain ⟨skE, -, hseal⟩ := (h []).mp hopen
  obtain ⟨secret, -, heq⟩ := Option.map_eq_some_iff.mp hseal
  have hlong := Hpke.length_sealWith plainPrimitives
    (Hpke.keySchedule plainPrimitives suite secret []) [] []
  rw [heq] at hlong
  exact absurd hlong (by decide)

end Eudiplo
