import Mathlib.Data.List.Basic

/-!
# The pieces of a list

What `List.splitOn` makes of a list: its pieces have the elements of the list, but for the
separator.
-/

variable {α : Type*} [BEq α] [LawfulBEq α] {x a : α} {l piece : List α}

theorem List.of_mem_splitOn (h : piece ∈ l.splitOn x) (ha : a ∈ piece) : a ∈ l ∧ a ≠ x := by
  induction l generalizing piece with
  | nil =>
    rw [splitOn_nil, mem_singleton] at h
    subst h
    cases ha
  | cons c l ih =>
    rw [splitOn_cons_eq_if_modifyHead] at h
    split at h
    · rcases mem_cons.mp h with rfl | h
      · cases ha
      · exact ⟨mem_cons_of_mem c (ih h ha).1, (ih h ha).2⟩
    · rename_i hc
      cases hsplit : l.splitOn x with
      | nil => exact absurd hsplit (splitOn_ne_nil _ _)
      | cons first more =>
        rw [hsplit] at h ih
        rcases mem_cons.mp h with rfl | h
        · rcases mem_cons.mp ha with rfl | ha
          · exact ⟨mem_cons_self, fun heq => hc (beq_iff_eq.mpr heq)⟩
          · exact ⟨mem_cons_of_mem c (ih mem_cons_self ha).1, (ih mem_cons_self ha).2⟩
        · exact ⟨mem_cons_of_mem c (ih (mem_cons_of_mem _ h) ha).1,
            (ih (mem_cons_of_mem _ h) ha).2⟩
