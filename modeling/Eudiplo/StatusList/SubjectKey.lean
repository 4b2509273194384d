import Mathlib.Data.List.Basic

/-!
# The message of a subject key

`SubjectKeyService.deriveSubjectKey` hashes the parts of an authorization identity, joined by `|`.
Two identities have one message exactly if they consist of the same pieces, cut at every `|`
(`message_eq_iff`).  So different ones are told apart unless separators inside their parts stand
for those between them.
-/

namespace Eudiplo

namespace SubjectKeys

/-- The parameters of `deriveSubjectKey`. -/
structure Params where
  tenantId : String
  credentialConfigurationId : String
  iss : String
  sub : String
  deriving DecidableEq

def Params.parts (params : Params) : List String :=
  [params.tenantId, params.credentialConfigurationId, params.iss, params.sub]

def Params.message (params : Params) : String := "|".intercalate params.parts

/-- **`deriveSubjectKey`**, with the digest of a message under the key of the process. -/
def deriveSubjectKey (digest : String → String) (params : Params) : String :=
  digest params.message

/-! ## Lists that are joined by a separator -/

section Join

variable {α : Type} [DecidableEq α] {x : α}

theorem splitOn_intercalate_any (ls : List (List α)) (hls : ls ≠ []) :
    ([x].intercalate ls).splitOn x = ls.flatMap (List.splitOn x) := by
  induction ls with
  | nil => exact absurd rfl hls
  | cons l ls ih =>
    cases ls with
    | nil => simp
    | cons l' ls =>
      rw [List.intercalate_cons_cons, List.append_assoc, List.singleton_append,
        List.splitOn_append_cons_self, ih (List.cons_ne_nil _ _)]
      rfl

theorem intercalate_eq_iff {ls ls' : List (List α)} (hls : ls ≠ []) (hls' : ls' ≠ []) :
    [x].intercalate ls = [x].intercalate ls' ↔
      ls.flatMap (List.splitOn x) = ls'.flatMap (List.splitOn x) := by
  constructor
  · intro h
    rw [← splitOn_intercalate_any ls hls, ← splitOn_intercalate_any ls' hls', h]
  · intro h
    rw [← splitOn_intercalate_any ls hls, ← splitOn_intercalate_any ls' hls'] at h
    have hjoined := congrArg ([x].intercalate ·) h
    simpa only [List.intercalate_splitOn] using hjoined

theorem length_splitOn (l : List α) : (l.splitOn x).length = l.count x + 1 := by
  induction l with
  | nil => rfl
  | cons a l ih =>
    rw [List.splitOn_cons_eq_if_modifyHead]
    by_cases h : a = x
    · simp [h, ih]
    · simp [h, ih, Ne.symm]

theorem eq_of_flatMap_splitOn {ls ls' : List (List α)}
    (hpieces : ls.flatMap (List.splitOn x) = ls'.flatMap (List.splitOn x))
    (hcounts : ls.map (List.count x) = ls'.map (List.count x)) : ls = ls' := by
  induction ls generalizing ls' with
  | nil =>
    cases ls' with
    | nil => rfl
    | cons l' ls' => cases hcounts
  | cons l ls ih =>
    cases ls' with
    | nil => cases hcounts
    | cons l' ls' =>
      obtain ⟨hcount, hcounts⟩ := List.cons.inj hcounts
      have hlength : (l.splitOn x).length = (l'.splitOn x).length := by
        rw [length_splitOn, length_splitOn, hcount]
      obtain ⟨hl, hls⟩ := List.append_inj hpieces hlength
      have hjoined := congrArg ([x].intercalate ·) hl
      simp only [List.intercalate_splitOn] at hjoined
      rw [hjoined, ih hls hcounts]

end Join

/-! ## The claim -/

def Params.pieces (params : Params) : List (List Char) :=
  (params.parts.map String.toList).flatMap (List.splitOn '|')

def Params.separators (params : Params) : List Nat :=
  (params.parts.map String.toList).map (List.count '|')

/-- **One message is one sequence of pieces.** -/
theorem message_eq_iff {p q : Params} : p.message = q.message ↔ p.pieces = q.pieces := by
  unfold Params.message
  rw [← String.toList_inj, String.toList_intercalate, String.toList_intercalate]
  exact intercalate_eq_iff (List.cons_ne_nil _ _) (List.cons_ne_nil _ _)

theorem eq_of_pieces {p q : Params} (hpieces : p.pieces = q.pieces)
    (hseparators : p.separators = q.separators) : p = q := by
  have hparts : p.parts = q.parts :=
    (List.map_inj_right fun _ _ => String.toList_inj.mp).mp
      (eq_of_flatMap_splitOn hpieces hseparators)
  obtain ⟨tenantId, configuration, iss, sub⟩ := p
  obtain ⟨tenantId', configuration', iss', sub'⟩ := q
  simp only [Params.parts, List.cons.injEq, and_true] at hparts
  obtain ⟨rfl, rfl, rfl, rfl⟩ := hparts
  rfl

end SubjectKeys

open SubjectKeys

/-- **Subjects are told apart**, exactly unless they consist of the same pieces with the separators
elsewhere. -/
theorem subject_keys_separate (p q : Params) :
    (p.message = q.message → p = q) ↔ (p.pieces = q.pieces → p.separators = q.separators) := by
  rw [message_eq_iff]
  constructor
  · intro h hpieces
    rw [h hpieces]
  · exact fun h hpieces => eq_of_pieces hpieces (h hpieces)

/-- Two tenants with one message. -/
theorem not_subject_keys_separate : ¬∀ p q : Params, p ≠ q → p.message ≠ q.message := by
  intro h
  exact h ⟨"a", "b|c", "https://as", "user"⟩ ⟨"a|b", "c", "https://as", "user"⟩ (by decide) rfl

end Eudiplo
