import Mathlib.Data.Nat.Digits.Lemmas

/-!
# DER

The distinguished encoding of a value: its tag, the length of its content, and the content.
-/

namespace Eudiplo

namespace Der

/-- The octets of a number, the most significant first, none of them superfluous. -/
def bigEndian (n : ℕ) : List UInt8 := (Nat.digits 256 n).reverse.map UInt8.ofNat

def length (n : ℕ) : List UInt8 :=
  if n < 128 then [UInt8.ofNat n]
  else UInt8.ofNat (128 + (bigEndian n).length) :: bigEndian n

def tlv (tag : UInt8) (content : List UInt8) : List UInt8 := tag :: length content.length ++ content

variable {n m : ℕ}

theorem length_tlv_le (tag : UInt8) (content : List UInt8) :
    content.length ≤ (tlv tag content).length := by
  rw [tlv, List.length_append]
  omega

theorem length_bigEndian_le (h : n < 256 ^ m) : (bigEndian n).length ≤ m := by
  rw [bigEndian, List.length_map, List.length_reverse]
  exact (Nat.digits_length_le_iff (by decide) n).mpr h

theorem seven_octets (h : n < 2 ^ 53) (hlength : (bigEndian n).length = 7) :
    ∃ c cs, bigEndian n = c :: cs ∧ c.toNat < 32 ∧ cs.length ≤ 6 := by
  rw [bigEndian, List.length_map] at hlength
  obtain ⟨d, ds, hds⟩ := List.exists_cons_of_length_eq_add_one hlength
  have hsix : ds.length = 6 := by
    rw [hds] at hlength
    exact Nat.succ.inj hlength
  have hdigits : Nat.digits 256 n = ds.reverse ++ [d] := by
    rw [← List.reverse_cons, ← hds, List.reverse_reverse]
  -- the leading digit counts 256 ^ 6
  have hvalue : n = Nat.ofDigits 256 ds.reverse + 256 ^ 6 * d := by
    conv_lhs => rw [← Nat.ofDigits_digits 256 n]
    rw [hdigits, Nat.ofDigits_append, List.length_reverse, hsix, Nat.ofDigits_singleton]
  have hd : d < 32 := by omega
  refine ⟨UInt8.ofNat d, ds.map UInt8.ofNat, by rw [bigEndian, hds, List.map_cons], ?_, ?_⟩
  · rw [UInt8.toNat_ofNat']
    omega
  · rw [List.length_map]
    exact hsix.le

/-- **Where the length octets are printable or may be read as text**: a first octet that is not
in ASCII or stands alone, perhaps one octet below 32, and at most six octets more. -/
theorem length_shape (h : n < 2 ^ 53) :
    (∃ b, length n = [b]) ∨ ∃ b bs, length n = b :: bs ∧ 128 ≤ b.toNat ∧
      (bs.length ≤ 6 ∨ ∃ c cs, bs = c :: cs ∧ c.toNat < 32 ∧ cs.length ≤ 6) := by
  unfold length
  split
  · exact .inl ⟨_, rfl⟩
  · have hseven : (bigEndian n).length ≤ 7 := length_bigEndian_le (h.trans (by decide))
    refine .inr ⟨_, _, rfl, ?_, ?_⟩
    · rw [UInt8.toNat_ofNat']
      omega
    · by_cases hsix : (bigEndian n).length ≤ 6
      · exact .inl hsix
      · exact .inr (seven_octets h (by omega))

end Der

end Eudiplo
