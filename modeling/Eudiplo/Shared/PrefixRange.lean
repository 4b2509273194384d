import Mathlib.Data.Nat.Digits.Lemmas
import Mathlib.Data.List.Forall2

/-!
# Texts between two fillings of a prefix

Over any linear order, the texts of a fixed shape that start with a prefix are those between
the prefix filled with the least and with the greatest letters. For numerals of one length the
order of texts is the order of numbers.
-/

namespace Eudiplo

namespace PrefixRange

variable {α : Type} [LinearOrder α] {bounds : List (α × α)} {xs ys : List α}

/-- The text has the shape: one letter between each pair of bounds. -/
abbrev Shaped (bounds : List (α × α)) (xs : List α) : Prop :=
  List.Forall₂ (fun b x => b.1 ≤ x ∧ x ≤ b.2) bounds xs

theorem cons_le_cons_iff {x y : α} : x :: xs ≤ y :: ys ↔ x < y ∨ x = y ∧ xs ≤ ys := by
  rw [← not_lt, List.cons_lt_cons_iff, not_or, not_lt, not_and, not_lt]
  constructor
  · rintro ⟨hle, hrest⟩
    rcases hle.lt_or_eq with hlt | heq
    · exact .inl hlt
    · exact .inr ⟨heq, hrest heq.symm⟩
  · rintro (hlt | ⟨rfl, hle⟩)
    · exact ⟨hlt.le, fun heq => absurd heq hlt.ne'⟩
    · exact ⟨le_rfl, fun _ => hle⟩

theorem lower_le (h : Shaped bounds xs) : bounds.map Prod.fst ≤ xs := by
  induction h with
  | nil => exact le_rfl
  | cons hx _ ih =>
    rw [List.map_cons, cons_le_cons_iff]
    rcases hx.1.lt_or_eq with hlt | heq
    · exact .inl hlt
    · exact .inr ⟨heq, ih⟩

theorem le_upper (h : Shaped bounds xs) : xs ≤ bounds.map Prod.snd := by
  induction h with
  | nil => exact le_rfl
  | cons hx _ ih =>
    rw [List.map_cons, cons_le_cons_iff]
    rcases hx.2.lt_or_eq with hlt | heq
    · exact .inl hlt
    · exact .inr ⟨heq, ih⟩

/-- **Between the two fillings of a prefix** lie the texts that start with it. -/
theorem between_iff (p : List α) (h : Shaped bounds xs) :
    (p ++ (bounds.map Prod.fst).drop p.length ≤ xs ∧
      xs ≤ p ++ (bounds.map Prod.snd).drop p.length) ↔ p <+: xs := by
  induction p generalizing bounds xs with
  | nil => exact ⟨fun _ => List.nil_prefix, fun _ => ⟨lower_le h, le_upper h⟩⟩
  | cons a p ih =>
    cases h with
    | nil =>
      refine ⟨fun ⟨hle, _⟩ => absurd hle (not_le.mpr ?_), fun hp => absurd hp (by simp)⟩
      exact List.nil_lt_cons ..
    | @cons b x bounds xs hx htail =>
      have hrest := ih htail
      simp only [List.map_cons, List.length_cons, List.drop_succ_cons, List.cons_append,
        cons_le_cons_iff, List.cons_prefix_cons]
      rw [← hrest]
      constructor
      · rintro ⟨hlo | ⟨rfl, hlo⟩, hhi | ⟨heq, hhi⟩⟩
        · exact absurd hlo hhi.not_gt
        · exact absurd heq hlo.ne'
        · exact absurd rfl hhi.ne'
        · exact ⟨rfl, hlo, hhi⟩
      · rintro ⟨rfl, hlo, hhi⟩
        exact ⟨.inr ⟨rfl, hlo⟩, .inr ⟨rfl, hhi⟩⟩

/-! ## Numerals -/

variable {b : ℕ} {ds es : List ℕ}

def numeral (b : ℕ) (ds : List ℕ) : ℕ := Nat.ofDigits b ds.reverse

theorem numeral_cons (d : ℕ) : numeral b (d :: ds) = d * b ^ ds.length + numeral b ds := by
  rw [numeral, List.reverse_cons, Nat.ofDigits_append, Nat.ofDigits_singleton, List.length_reverse,
    numeral, Nat.add_comm, Nat.mul_comm]

theorem numeral_lt (h : ∀ d ∈ ds, d < b) (hb : 1 < b) : numeral b ds < b ^ ds.length := by
  have hlt := Nat.ofDigits_lt_base_pow_length hb (fun d hd => h d (List.mem_reverse.mp hd))
  rwa [List.length_reverse] at hlt

/-- **Numerals of one length** are ordered like their texts. -/
theorem numeral_le_iff (hb : 1 < b) (hlength : ds.length = es.length) (hds : ∀ d ∈ ds, d < b)
    (hes : ∀ e ∈ es, e < b) : numeral b ds ≤ numeral b es ↔ ds ≤ es := by
  induction ds generalizing es with
  | nil =>
    obtain rfl := List.length_eq_zero_iff.mp hlength.symm
    exact ⟨fun _ => le_rfl, fun _ => le_rfl⟩
  | cons d ds ih =>
    cases es with
    | nil => cases hlength
    | cons e es =>
      have hlength' : ds.length = es.length := Nat.succ.inj hlength
      have hrest := ih hlength' (fun x hx => hds x (List.mem_cons_of_mem _ hx))
        (fun x hx => hes x (List.mem_cons_of_mem _ hx))
      have hd := numeral_lt (fun x hx => hds x (List.mem_cons_of_mem _ hx)) hb
      have he := numeral_lt (fun x hx => hes x (List.mem_cons_of_mem _ hx)) hb
      rw [numeral_cons, numeral_cons, cons_le_cons_iff, ← hrest, hlength']
      rw [hlength'] at hd
      rcases lt_trichotomy d e with hlt | rfl | hlt
      · have hmul : (d + 1) * b ^ es.length ≤ e * b ^ es.length := Nat.mul_le_mul_right _ hlt
        have hsplit : (d + 1) * b ^ es.length = d * b ^ es.length + b ^ es.length := by ring
        constructor
        · exact fun _ => .inl hlt
        · intro _
          omega
      · simp
      · have hmul : (e + 1) * b ^ es.length ≤ d * b ^ es.length := Nat.mul_le_mul_right _ hlt
        have hsplit : (e + 1) * b ^ es.length = e * b ^ es.length + b ^ es.length := by ring
        constructor
        · intro _
          omega
        · rintro (hlt' | ⟨rfl, -⟩)
          · omega
          · omega

end PrefixRange

end Eudiplo
