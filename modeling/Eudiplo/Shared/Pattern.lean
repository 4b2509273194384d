import Mathlib.Data.List.Basic

/-!
# Patterns and their leftmost matches

Regular expressions over any alphabet, as far as they need no repetition but runs of letters, with
the backtracking semantics: `outcomes` lists how a pattern can match at the start of a text, the
preferred way first, and `matchAt` takes the first.  `search` goes through a text from left to right
and cuts it into the matches and the letters between them.
-/

namespace Patterns

variable {α β : Type}

/-- Letters of a set, runs of them (the longest first), and patterns built from these. -/
inductive Pattern (α : Type) where
  | letter (p : α → Bool)
  | run (p : α → Bool)
  | seq (first second : Pattern α)
  | optional (body : Pattern α)
  | group (n : Nat) (body : Pattern α)

structure Outcome (α : Type) where
  matched : List α
  groups : List (Nat × List α)
  rest : List α

namespace Outcome

def andThen (first second : Outcome α) : Outcome α :=
  ⟨first.matched ++ second.matched, first.groups ++ second.groups, second.rest⟩

def capture (n : Nat) (outcome : Outcome α) : Outcome α :=
  { outcome with groups := (n, outcome.matched) :: outcome.groups }

end Outcome

def runs (p : α → Bool) : List α → List (List α × List α)
  | [] => [([], [])]
  | a :: text =>
    (if p a then (runs p text).map fun run => (a :: run.1, run.2) else []) ++ [([], a :: text)]

/-- **How a pattern matches** at the start of a text, the preferred way first. -/
def outcomes : Pattern α → List α → List (Outcome α)
  | .letter _, [] => []
  | .letter p, a :: text => if p a then [⟨[a], [], text⟩] else []
  | .run p, text => (runs p text).map fun run => ⟨run.1, [], run.2⟩
  | .seq first second, text =>
    (outcomes first text).flatMap fun outcome =>
      (outcomes second outcome.rest).map outcome.andThen
  | .optional body, text => outcomes body text ++ [⟨[], [], text⟩]
  | .group n body, text => (outcomes body text).map (Outcome.capture n)

def matchAt (pattern : Pattern α) (text : List α) : Option (Outcome α) :=
  (outcomes pattern text).head?

inductive Piece (α : Type) where
  | plain (a : α)
  | found (outcome : Outcome α)

/-- **Global search** from left to right; an empty match is passed over. -/
def search (pattern : Pattern α) : List α → List (Piece α)
  | [] => []
  | a :: text =>
    match matchAt pattern (a :: text) with
    | none => .plain a :: search pattern text
    | some outcome =>
      if outcome.rest.length ≤ text.length then .found outcome :: search pattern outcome.rest
      else .plain a :: search pattern text
termination_by text => text.length

/-! ## Outcomes -/

section

variable {text : List α} {p : α → Bool}

theorem flatMap_runs (next : List α → List α → List β)
    (hnext : ∀ run a text, p a = true → next run (a :: text) = []) (text : List α) :
    ((runs p text).flatMap fun run => next run.1 run.2) =
      next (text.takeWhile p) (text.dropWhile p) := by
  induction text generalizing next with
  | nil => simp [runs]
  | cons a text ih =>
    by_cases h : p a = true
    · have hshorter := ih (fun run rest => next (a :: run) rest) fun run => hnext (a :: run)
      rw [runs, if_pos h, List.flatMap_append, List.flatMap_map, hshorter,
        List.takeWhile_cons_of_pos h, List.dropWhile_cons_of_pos h]
      simp [hnext [] a text h]
    · rw [runs, if_neg h, List.takeWhile_cons_of_neg h, List.dropWhile_cons_of_neg h]
      simp

theorem outcomes_letter_nil : outcomes (.letter p) [] = [] := rfl

theorem outcomes_letter_pos {a : α} (h : p a = true) :
    outcomes (.letter p) (a :: text) = [⟨[a], [], text⟩] := if_pos h

theorem outcomes_letter_neg {a : α} (h : ¬ p a = true) :
    outcomes (.letter p) (a :: text) = [] := if_neg h

theorem outcomes_seq (first second : Pattern α) :
    outcomes (.seq first second) text = (outcomes first text).flatMap fun outcome =>
      (outcomes second outcome.rest).map outcome.andThen := rfl

theorem outcomes_optional (body : Pattern α) :
    outcomes (.optional body) text = outcomes body text ++ [⟨[], [], text⟩] := rfl

theorem outcomes_seq_letter_nil {next : Pattern α} :
    outcomes (.seq (.letter p) next) [] = [] := by
  rw [outcomes_seq, outcomes_letter_nil]
  rfl

theorem outcomes_seq_letter_pos {a : α} {next : Pattern α} (h : p a = true) :
    outcomes (.seq (.letter p) next) (a :: text) =
      (outcomes next text).map (Outcome.andThen ⟨[a], [], text⟩) := by
  rw [outcomes_seq, outcomes_letter_pos h, List.flatMap_singleton]

theorem outcomes_seq_letter_neg {a : α} {next : Pattern α} (h : ¬ p a = true) :
    outcomes (.seq (.letter p) next) (a :: text) = [] := by
  rw [outcomes_seq, outcomes_letter_neg h]
  rfl

theorem andThen_assoc (first second third : Outcome α) :
    (first.andThen second).andThen third = first.andThen (second.andThen third) := by
  unfold Outcome.andThen
  rw [List.append_assoc, List.append_assoc]

theorem outcomes_seq_assoc (first second third : Pattern α) :
    outcomes (.seq (.seq first second) third) text =
      outcomes (.seq first (.seq second third)) text := by
  rw [outcomes_seq, outcomes_seq, outcomes_seq, List.flatMap_assoc]
  refine List.flatMap_congr fun outcome _ => ?_
  rw [outcomes_seq, List.flatMap_map, List.map_flatMap]
  refine List.flatMap_congr fun outcome' _ => ?_
  rw [List.map_map]
  exact List.map_congr_left fun outcome'' _ => andThen_assoc _ _ _

theorem outcomes_seq_optional (body next : Pattern α) :
    outcomes (.seq (.optional body) next) text =
      outcomes (.seq body next) text ++ outcomes next text := by
  rw [outcomes_seq, outcomes_optional, outcomes_seq, List.flatMap_append, List.flatMap_singleton]
  exact congrArg _ (List.map_id _)

end

/-! ## Search -/

section

variable {pattern : Pattern α} {text : List α}

theorem search_nil : search pattern [] = [] := by rw [search]

theorem search_cons_none {a : α} (h : matchAt pattern (a :: text) = none) :
    search pattern (a :: text) = .plain a :: search pattern text := by rw [search, h]

theorem search_cons_found {a : α} {outcome : Outcome α}
    (h : matchAt pattern (a :: text) = some outcome)
    (hrest : outcome.rest.length ≤ text.length) :
    search pattern (a :: text) = .found outcome :: search pattern outcome.rest := by
  rw [search, h]
  exact if_pos hrest

theorem search_append (before rest : List α)
    (h : ∀ a skipped, (∃ taken, before = taken ++ a :: skipped) →
      matchAt pattern (a :: skipped ++ rest) = none) :
    search pattern (before ++ rest) = before.map .plain ++ search pattern rest := by
  induction before with
  | nil => rfl
  | cons a before ih =>
    have hnone := h a before ⟨[], rfl⟩
    rw [List.cons_append] at hnone ⊢
    rw [search_cons_none hnone, ih fun b skipped ⟨taken, htaken⟩ =>
      h b skipped ⟨a :: taken, by rw [htaken]; rfl⟩]
    rfl

theorem search_plain (h : ∀ a skipped, (∃ taken, text = taken ++ a :: skipped) →
    matchAt pattern (a :: skipped) = none) : search pattern text = text.map .plain := by
  have happend : search pattern (text ++ []) = text.map .plain ++ search pattern [] :=
    search_append text [] fun a skipped htaken => by
      rw [List.append_nil]
      exact h a skipped htaken
  rw [List.append_nil, search_nil, List.append_nil] at happend
  exact happend

end

end Patterns
