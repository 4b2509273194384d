import Mathlib.Data.List.Basic

/-!
# Base64

Three bytes are four letters; what is left over is padded.  A text in the format has bytes
(`decode`), and the text of some bytes has those (`decode_encode`).  Two texts may have the same
bytes, since the last letter before the padding has bits that are not used.
-/

namespace Base64

def alphabet : List Char :=
  "ABCDEFGHIJKLMNOPQRSTUVWXYZabcdefghijklmnopqrstuvwxyz0123456789+/".toList

def letter (n : Nat) : Char := alphabet.getD n 'A'

def value (c : Char) : Option Nat := alphabet.idxOf? c

def encode : List UInt8 → List Char
  | [] => []
  | [a] => [letter (a.toNat / 4), letter (a.toNat % 4 * 16), '=', '=']
  | [a, b] =>
    [letter (a.toNat / 4), letter (a.toNat % 4 * 16 + b.toNat / 16), letter (b.toNat % 16 * 4), '=']
  | a :: b :: c :: rest =>
    letter (a.toNat / 4) :: letter (a.toNat % 4 * 16 + b.toNat / 16) ::
      letter (b.toNat % 16 * 4 + c.toNat / 64) :: letter (c.toNat % 64) :: encode rest

def group (last : Bool) (c₁ c₂ c₃ c₄ : Char) : Option (List UInt8) := do
  let n₁ ← value c₁
  let n₂ ← value c₂
  let first := UInt8.ofNat (n₁ * 4 + n₂ / 16)
  if last && c₄ == '=' then
    if c₃ == '=' then return [first]
    else do
      let n₃ ← value c₃
      return [first, UInt8.ofNat (n₂ % 16 * 16 + n₃ / 4)]
  else do
    let n₃ ← value c₃
    let n₄ ← value c₄
    return [first, UInt8.ofNat (n₂ % 16 * 16 + n₃ / 4), UInt8.ofNat (n₃ % 4 * 64 + n₄)]

def decode : List Char → Option (List UInt8)
  | [] => some []
  | c₁ :: c₂ :: c₃ :: c₄ :: rest => do
    let bytes ← group rest.isEmpty c₁ c₂ c₃ c₄
    let tail ← decode rest
    return bytes ++ tail
  | _ => none

/-! ## Round trip -/

theorem value_letter {n : Nat} (h : n < 64) : value (letter n) = some n := by
  have hall : ∀ n : Fin 64, value (letter n) = some n.val := by decide +kernel
  exact hall ⟨n, h⟩

theorem letter_ne {n : Nat} (h : n < 64) : (letter n == '=') = false := by
  have hall : ∀ n : Fin 64, (letter n == '=') = false := by decide +kernel
  exact hall ⟨n, h⟩

theorem ofNat_eq {n : Nat} {a : UInt8} (h : n = a.toNat) : UInt8.ofNat n = a := by
  rw [h]
  exact UInt8.ofNat_toNat

theorem group_one (a : UInt8) :
    group true (letter (a.toNat / 4)) (letter (a.toNat % 4 * 16)) '=' '=' = some [a] := by
  have ha := a.toNat_lt
  unfold group
  rw [value_letter (by omega), value_letter (by omega)]
  exact congrArg (fun a => some [a]) (ofNat_eq (by omega))

theorem group_two (a b : UInt8) :
    group true (letter (a.toNat / 4)) (letter (a.toNat % 4 * 16 + b.toNat / 16))
      (letter (b.toNat % 16 * 4)) '=' = some [a, b] := by
  have ha := a.toNat_lt
  have hb := b.toNat_lt
  unfold group
  rw [value_letter (by omega), value_letter (by omega), value_letter (by omega),
    letter_ne (by omega)]
  show some [UInt8.ofNat _, UInt8.ofNat _] = _
  rw [ofNat_eq (a := a) (by omega), ofNat_eq (a := b) (by omega)]

theorem group_three (last : Bool) (a b c : UInt8) :
    group last (letter (a.toNat / 4)) (letter (a.toNat % 4 * 16 + b.toNat / 16))
      (letter (b.toNat % 16 * 4 + c.toNat / 64)) (letter (c.toNat % 64)) = some [a, b, c] := by
  have ha := a.toNat_lt
  have hb := b.toNat_lt
  have hc := c.toNat_lt
  unfold group
  rw [value_letter (by omega), value_letter (by omega), value_letter (by omega),
    value_letter (by omega), letter_ne (by omega), Bool.and_false]
  show some [UInt8.ofNat _, UInt8.ofNat _, UInt8.ofNat _] = _
  rw [ofNat_eq (a := a) (by omega), ofNat_eq (a := b) (by omega), ofNat_eq (a := c) (by omega)]

/-- **The text of some bytes has those.** -/
theorem decode_encode (bytes : List UInt8) : decode (encode bytes) = some bytes := by
  induction bytes using encode.induct with
  | case1 => rfl
  | case2 a =>
    rw [encode, decode, List.isEmpty_nil, group_one]
    rfl
  | case3 a b =>
    rw [encode, decode, List.isEmpty_nil, group_two]
    rfl
  | case4 a b c rest ih =>
    rw [encode, decode, group_three, ih]
    rfl

end Base64
