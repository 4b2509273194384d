import Mathlib.Data.List.Basic
import Mathlib.Algebra.Order.Ring.Nat

/-!
# Decoding UTF-8 with replacement

The decoder of `TextDecoder("utf-8", { fatal: false })`: a malformed sequence becomes one
replacement character, and the byte that ends it is read again.
-/

namespace Eudiplo

namespace Utf8Decoder

/-- The bytes a sequence still needs, its code point so far, and the bounds of its next byte. -/
structure State where
  needed : ℕ
  point : ℕ
  lower : ℕ
  upper : ℕ
  deriving DecidableEq

def State.initial : State := { needed := 0, point := 0, lower := 0x80, upper := 0xBF }

def replacement : Char := Char.ofNat 0xFFFD

def start (byte : ℕ) : List Char × State :=
  if byte < 0x80 then ([Char.ofNat byte], .initial)
  else if 0xC2 ≤ byte ∧ byte ≤ 0xDF then
    ([], { needed := 1, point := byte - 0xC0, lower := 0x80, upper := 0xBF })
  else if 0xE0 ≤ byte ∧ byte ≤ 0xEF then
    ([], { needed := 2, point := byte - 0xE0
           lower := if byte = 0xE0 then 0xA0 else 0x80
           upper := if byte = 0xED then 0x9F else 0xBF })
  else if 0xF0 ≤ byte ∧ byte ≤ 0xF4 then
    ([], { needed := 3, point := byte - 0xF0
           lower := if byte = 0xF0 then 0x90 else 0x80
           upper := if byte = 0xF4 then 0x8F else 0xBF })
  else ([replacement], .initial)

def step (s : State) (byte : ℕ) : List Char × State :=
  if s.needed = 0 then start byte
  else if s.lower ≤ byte ∧ byte ≤ s.upper then
    if s.needed = 1 then ([Char.ofNat (s.point * 64 + (byte - 0x80))], .initial)
    else ([], { needed := s.needed - 1, point := s.point * 64 + (byte - 0x80)
                lower := 0x80, upper := 0xBF })
  -- the byte does not belong to the sequence and is read again
  else (replacement :: (start byte).1, (start byte).2)

def decodeFrom (s : State) : List UInt8 → List Char
  | [] => if s.needed = 0 then [] else [replacement]
  | byte :: bytes => (step s byte.toNat).1 ++ decodeFrom (step s byte.toNat).2 bytes

/-- `decode`: a byte order mark at the start is left out. -/
def decode (bytes : List UInt8) : List Char :=
  decodeFrom .initial
    (if [0xEF, 0xBB, 0xBF].isPrefixOf bytes then bytes.drop 3 else bytes)

/-! ## What a decoded text consists of -/

theorem step_initial (byte : ℕ) : step .initial byte = start byte := if_pos rfl

/-- The sequence in progress ends in a character outside ASCII, whatever bytes complete it. -/
structure Wide (s : State) : Prop where
  needed : 0 < s.needed
  lower : 128 ≤ s.lower
  point : 128 ≤ (s.point * 64 + (s.lower - 128)) * 64 ^ (s.needed - 1)

/-- What the first byte of a sequence does: it is a character of ASCII, it stands for the
replacement character, or it begins a sequence. -/
theorem start_cases (byte : ℕ) :
    (byte < 128 ∧ start byte = ([Char.ofNat byte], .initial)) ∨
    (128 ≤ byte ∧ start byte = ([replacement], .initial)) ∨
    (128 ≤ byte ∧ (start byte).1 = [] ∧ Wide (start byte).2) := by
  unfold start
  split
  · exact .inl ⟨‹_›, rfl⟩
  · rename_i hbyte
    have hle : 128 ≤ byte := by omega
    split
    · refine .inr (.inr ⟨hle, rfl, ⟨Nat.one_pos, le_rfl, ?_⟩⟩)
      show 128 ≤ ((byte - 192) * 64 + (128 - 128)) * 64 ^ 0
      omega
    split
    · refine .inr (.inr ⟨hle, rfl, ⟨Nat.two_pos, ?_, ?_⟩⟩)
      · show 128 ≤ if byte = 224 then 160 else 128
        split <;> omega
      · show 128 ≤ ((byte - 224) * 64 + ((if byte = 224 then 160 else 128) - 128)) * 64 ^ 1
        split <;> omega
    split
    · refine .inr (.inr ⟨hle, rfl, ⟨Nat.succ_pos 2, ?_, ?_⟩⟩)
      · show 128 ≤ if byte = 240 then 144 else 128
        split <;> omega
      · show 128 ≤ ((byte - 240) * 64 + ((if byte = 240 then 144 else 128) - 128)) * 64 ^ 2
        split <;> omega
    · exact .inr (.inl ⟨hle, rfl⟩)

/-- What a byte does to a sequence in progress: it ends it in a character outside ASCII, it goes
on, or it does not belong to it. -/
theorem step_cases {s : State} (h : Wide s) (byte : ℕ) :
    (128 ≤ byte ∧ ∃ point, 128 ≤ point ∧ step s byte = ([Char.ofNat point], .initial)) ∨
    (128 ≤ byte ∧ (step s byte).1 = [] ∧ Wide (step s byte).2) ∨
    step s byte = (replacement :: (start byte).1, (start byte).2) := by
  obtain ⟨hneeded, hlower, hpoint⟩ := h
  rw [step, if_neg hneeded.ne']
  split
  · rename_i hrange
    have hle : 128 ≤ byte := hlower.trans hrange.1
    have hgrows : s.point * 64 + (s.lower - 128) ≤ s.point * 64 + (byte - 128) := by omega
    split
    · rename_i hone
      rw [hone, Nat.sub_self, Nat.pow_zero, Nat.mul_one] at hpoint
      exact .inl ⟨hle, _, hpoint.trans hgrows, rfl⟩
    · rename_i hmore
      refine .inr (.inl ⟨hle, rfl, ⟨Nat.sub_pos_of_lt (by omega), le_rfl, ?_⟩⟩)
      show 128 ≤ ((s.point * 64 + (byte - 128)) * 64 + (128 - 128)) * 64 ^ (s.needed - 1 - 1)
      obtain ⟨k, hk⟩ : ∃ k, s.needed = k + 2 := ⟨s.needed - 2, by omega⟩
      have hpow : (64 : ℕ) ^ (s.needed - 1) = 64 * 64 ^ (s.needed - 1 - 1) := by
        rw [hk]
        exact pow_succ' 64 k
      calc 128 ≤ (s.point * 64 + (s.lower - 128)) * 64 ^ (s.needed - 1) := hpoint
        _ ≤ (s.point * 64 + (byte - 128)) * 64 ^ (s.needed - 1) := Nat.mul_le_mul_right _ hgrows
        _ = _ := by rw [hpow, Nat.sub_self, Nat.add_zero, Nat.mul_assoc]
  · exact .inr (.inr rfl)

end Utf8Decoder

end Eudiplo
