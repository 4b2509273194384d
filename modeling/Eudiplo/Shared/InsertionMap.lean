import Mathlib.Data.List.Nodup
import Mathlib.Tactic.Common

/-!
# Maps that remember the order of insertion

A map as the list of its entries, oldest first.  Setting a key that is there keeps its place;
a key that is deleted and set again comes last.
-/

namespace InsertionMap

variable {κ α : Type} {m m' : List (κ × α)} {key k : κ} {a : α}

/-- No key stands twice. -/
def Distinct (m : List (κ × α)) : Prop := (m.map (·.1)).Nodup

theorem Distinct.sublist (h : Distinct m) (hsub : m'.Sublist m) : Distinct m' :=
  List.Nodup.sublist (hsub.map _) h

theorem Distinct.notin {x : κ × α} (h : Distinct (x :: m)) : ∀ y ∈ m, y.1 ≠ x.1 := by
  intro y hy heq
  exact (List.nodup_cons.mp h).1 (List.mem_map.mpr ⟨y, hy, heq⟩)

variable [DecidableEq κ]

def set (m : List (κ × α)) (key : κ) (a : α) : List (κ × α) :=
  if (m.lookup key).isSome then m.map fun x => if x.1 = key then (key, a) else x
  else m ++ [(key, a)]

def delete (m : List (κ × α)) (key : κ) : List (κ × α) := m.filter fun x => x.1 != key

theorem mem_of_lookup (h : m.lookup key = some a) : (key, a) ∈ m := by
  obtain ⟨before, after, rfl, -⟩ := List.lookup_eq_some_iff.mp h
  exact List.mem_append_right _ List.mem_cons_self

theorem lookup_eq_none : m.lookup key = none ↔ ∀ x ∈ m, x.1 ≠ key := by
  rw [List.lookup_eq_none_iff]
  exact forall₂_congr fun x _ => bne_iff_ne.trans ne_comm

/-- **An entry of a map** is found under its key. -/
theorem lookup_of_mem (h : Distinct m) (hmem : (key, a) ∈ m) : m.lookup key = some a := by
  induction m with
  | nil => exact (List.not_mem_nil hmem).elim
  | cons x rest ih =>
    obtain ⟨k, b⟩ := x
    rcases List.mem_cons.mp hmem with heq | htail
    · cases heq
      exact List.lookup_cons_self
    · have hne : key ≠ k := h.notin _ htail
      rw [List.lookup_cons, beq_eq_false_iff_ne.mpr hne]
      exact ih (List.nodup_cons.mp h).2 htail

theorem lookup_sublist (h : Distinct m) (hsub : m'.Sublist m) (hlookup : m'.lookup key = some a) :
    m.lookup key = some a :=
  lookup_of_mem h (hsub.subset (mem_of_lookup hlookup))

/-! ## Deleting -/

theorem delete_sublist : (delete m key).Sublist m := List.filter_sublist

theorem delete_of_absent (h : m.lookup key = none) : delete m key = m :=
  List.filter_eq_self.mpr fun x hx => bne_iff_ne.mpr (lookup_eq_none.mp h x hx)

@[simp] theorem lookup_delete_self : (delete m key).lookup key = none :=
  lookup_eq_none.mpr fun _ hx => bne_iff_ne.mp (List.mem_filter.mp hx).2

theorem lookup_delete_other (h : k ≠ key) : (delete m key).lookup k = m.lookup k := by
  induction m with
  | nil => rfl
  | cons x rest ih =>
    obtain ⟨k', b⟩ := x
    by_cases hk : k' = key
    · subst hk
      rw [delete, List.filter_cons_of_neg (by simp), List.lookup_cons, beq_eq_false_iff_ne.mpr h]
      exact ih
    · rw [delete, List.filter_cons_of_pos (by simpa using hk), List.lookup_cons, List.lookup_cons]
      split
      · rfl
      · exact ih

theorem delete_cons_self {x : κ × α} (h : Distinct (x :: m)) : delete (x :: m) x.1 = m := by
  rw [delete, List.filter_cons_of_neg (by simp)]
  exact delete_of_absent (lookup_eq_none.mpr h.notin)

/-! ## Setting -/

theorem set_of_absent (h : m.lookup key = none) : set m key a = m ++ [(key, a)] := by
  rw [set, h]
  rfl

@[simp] theorem set_delete : set (delete m key) key a = delete m key ++ [(key, a)] :=
  set_of_absent lookup_delete_self

theorem Distinct.append (h : Distinct m) (habsent : m.lookup key = none) :
    Distinct (m ++ [(key, a)]) := by
  rw [Distinct, List.map_append, List.nodup_append]
  refine ⟨h, by simp, fun x hx y hy => ?_⟩
  obtain ⟨e, he, rfl⟩ := List.mem_map.mp hx
  rw [List.mem_singleton.mp hy]
  exact lookup_eq_none.mp habsent e he

theorem lookup_append_self (h : m.lookup key = none) :
    (m ++ [(key, a)]).lookup key = some a := by
  rw [List.lookup_append, h]
  exact List.lookup_cons_self

theorem lookup_append_other (h : k ≠ key) : (m ++ [(key, a)]).lookup k = m.lookup k := by
  rw [List.lookup_append, List.lookup_cons, beq_eq_false_iff_ne.mpr h]
  exact Option.or_none

/-- **A key that is deleted and set again** comes last, and nothing else changes. -/
theorem touch_perm (h : Distinct m) (hlookup : m.lookup key = some a) :
    (delete m key ++ [(key, a)]).Perm m := by
  induction m with
  | nil => cases hlookup
  | cons x rest ih =>
    obtain ⟨k, b⟩ := x
    by_cases hk : key = k
    · subst hk
      obtain rfl : b = a := Option.some.inj (List.lookup_cons_self.symm.trans hlookup)
      rw [delete_cons_self h]
      exact List.perm_append_singleton _ _
    · rw [List.lookup_cons, beq_eq_false_iff_ne.mpr hk] at hlookup
      rw [delete, List.filter_cons_of_pos (by simpa using Ne.symm hk)]
      exact (ih (List.nodup_cons.mp h).2 hlookup).cons _

end InsertionMap
