import Mathlib.Data.Set.Basic
import Mathlib.Order.Basic

/-!
# Goals within a number of hops

Whether a goal can be reached along a relation within a bound, and what a table of the depths
at which a search has seen each node says about it.
-/

namespace Eudiplo

variable {α : Type} {hop : α → α → Prop} {goal : Set α} {n m d : ℕ} {x y : α}

/-- Some node of `goal` can be reached from the node in at most so many hops. -/
inductive WithinHops (hop : α → α → Prop) (goal : Set α) : ℕ → α → Prop where
  | goal {n : ℕ} {x : α} : x ∈ goal → WithinHops hop goal n x
  | hop {n : ℕ} {x y : α} : hop x y → WithinHops hop goal n y → WithinHops hop goal (n + 1) x

/-- The depth at which a search has seen a node is at most `d`. -/
def SeenBy (seen : α → Option ℕ) (d : ℕ) (x : α) : Prop := ∃ e ≤ d, seen x = some e

/-- The neighbours of a node seen at depth `d` have been seen too, and no goal is among them;
nodes at the last depth have no such obligation. -/
def ClosedAt (hop : α → α → Prop) (goal : Set α) (last : ℕ) (seen : α → Option ℕ) (x : α)
    (d : ℕ) : Prop :=
  d < last → ∀ y, hop x y → y ∉ goal ∧ SeenBy seen (d + 1) y

variable {last : ℕ} {seen seen' : α → Option ℕ}

theorem SeenBy.mono (h : SeenBy seen d x) (hle : d ≤ m) : SeenBy seen m x := by
  obtain ⟨e, he, hx⟩ := h
  exact ⟨e, he.trans hle, hx⟩

theorem SeenBy.later (hlater : ∀ x d, seen x = some d → SeenBy seen' d x)
    (h : SeenBy seen d x) : SeenBy seen' d x := by
  obtain ⟨e, he, hx⟩ := h
  exact (hlater x e hx).mono he

theorem ClosedAt.later (hlater : ∀ x d, seen x = some d → SeenBy seen' d x)
    (h : ClosedAt hop goal last seen x d) : ClosedAt hop goal last seen' x d := by
  intro hd y hy
  obtain ⟨hgoal, hseen⟩ := h hd y hy
  exact ⟨hgoal, hseen.later hlater⟩

/-- **A closed table has no goal left**: from a node seen at depth `d` no goal can be reached
in the hops that remain. -/
theorem not_withinHops_of_closed
    (hclosed : ∀ x d, seen x = some d → ClosedAt hop goal last seen x d)
    (hseen : SeenBy seen d x) (hx : x ∉ goal) (hd : d + n ≤ last) : ¬WithinHops hop goal n x := by
  intro h
  induction h generalizing d with
  | goal hgoal => exact hx hgoal
  | hop hxy _ ih =>
    obtain ⟨e, he, hxe⟩ := hseen
    obtain ⟨hy, hyseen⟩ := hclosed _ _ hxe (by omega) _ hxy
    exact ih hyseen hy (by omega)

end Eudiplo
