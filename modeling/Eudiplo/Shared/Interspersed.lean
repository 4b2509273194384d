import Mathlib.Data.List.Basic

/-!
# Lists with further elements put in

`Interspersed bad r l l'`: `l'` is `l` with each element replaced by one that it is related to, and
with any number of `bad` elements put in at any places.  Operations that ignore the bad elements
do not see the difference.
-/

namespace Eudiplo

/-- `l` with bad elements put in at any places. -/
inductive Interspersed {α β : Type*} (bad : β → Prop) (r : α → β → Prop) :
    List α → List β → Prop
  | nil : Interspersed bad r [] []
  | kept {a b l l'} : r a b → Interspersed bad r l l' → Interspersed bad r (a :: l) (b :: l')
  | added {b l l'} : bad b → Interspersed bad r l l' → Interspersed bad r l (b :: l')

namespace Interspersed

variable {α β γ δ : Type*} {bad : β → Prop} {r : α → β → Prop} {l k : List α} {l' k' : List β}
  {bad' : δ → Prop} {r' : γ → δ → Prop}

theorem append (h : Interspersed bad r l l') (h' : Interspersed bad r k k') :
    Interspersed bad r (l ++ k) (l' ++ k') := by
  induction h with
  | nil => exact h'
  | kept hr _ ih => exact .kept hr ih
  | added hb _ ih => exact .added hb ih

theorem of_forall_bad (h : ∀ b ∈ l', bad b) : Interspersed bad r [] l' := by
  induction l' with
  | nil => exact .nil
  | cons b l' ih =>
    exact .added (h b List.mem_cons_self) (ih fun b' hb' => h b' (List.mem_cons_of_mem b hb'))

theorem map {f : α → γ} {g : β → δ} (h : Interspersed bad r l l')
    (hr : ∀ a b, r a b → r' (f a) (g b)) (hbad : ∀ b, bad b → bad' (g b)) :
    Interspersed bad' r' (l.map f) (l'.map g) := by
  induction h with
  | nil => exact .nil
  | kept hab _ ih => exact .kept (hr _ _ hab) ih
  | added hb _ ih => exact .added (hbad _ hb) ih

theorem flatMap {f : α → List γ} {g : β → List δ} (h : Interspersed bad r l l')
    (hr : ∀ a b, r a b → Interspersed bad' r' (f a) (g b))
    (hbad : ∀ b, bad b → ∀ y ∈ g b, bad' y) :
    Interspersed bad' r' (l.flatMap f) (l'.flatMap g) := by
  induction h with
  | nil => exact .nil
  | kept hab _ ih =>
    rw [List.flatMap_cons, List.flatMap_cons]
    exact (hr _ _ hab).append ih
  | added hb _ ih =>
    rw [List.flatMap_cons]
    exact (of_forall_bad (hbad _ hb)).append ih

theorem filter {p : α → Bool} {q : β → Bool} (h : Interspersed bad r l l')
    (hr : ∀ a b, r a b → p a = q b) : Interspersed bad r (l.filter p) (l'.filter q) := by
  induction h with
  | nil => exact .nil
  | @kept a b _ _ hab _ ih =>
    rw [List.filter_cons, List.filter_cons, hr a b hab]
    split
    · exact .kept hab ih
    · exact ih
  | @added b _ _ hb _ ih =>
    rw [List.filter_cons]
    split
    · exact .added hb ih
    · exact ih

theorem filterMap_eq {f : α → Option γ} {g : β → Option γ} (h : Interspersed bad r l l')
    (hr : ∀ a b, r a b → f a = g b) (hbad : ∀ b, bad b → g b = none) :
    l.filterMap f = l'.filterMap g := by
  induction h with
  | nil => rfl
  | @kept a b _ _ hab _ ih => rw [List.filterMap_cons, List.filterMap_cons, hr a b hab, ih]
  | @added b _ _ hb _ ih => rw [List.filterMap_cons, hbad b hb]; exact ih

/-- **The first element with a property** that no bad one has is still the first. -/
theorem find?_eq_some {p : α → Bool} {q : β → Bool} {a : α} (h : Interspersed bad r l l')
    (hr : ∀ a b, r a b → p a = q b) (hbad : ∀ b, bad b → q b = false)
    (hfind : l.find? p = some a) : ∃ b, l'.find? q = some b ∧ r a b := by
  induction h with
  | nil => cases hfind
  | @kept a' b l l' hab _ ih =>
    cases hp : p a' with
    | true =>
      rw [List.find?_cons_of_pos hp] at hfind
      cases hfind
      exact ⟨b, List.find?_cons_of_pos (by rw [← hr a b hab, hp]), hab⟩
    | false =>
      rw [List.find?_cons_of_neg (by rw [hp]; decide)] at hfind
      rw [List.find?_cons_of_neg (by rw [← hr a' b hab, hp]; decide)]
      exact ih hfind
  | @added b l l' hb _ ih =>
    rw [List.find?_cons_of_neg (by rw [hbad b hb]; decide)]
    exact ih hfind

end Interspersed

end Eudiplo
