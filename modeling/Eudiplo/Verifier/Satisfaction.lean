import Mathlib.Data.Set.Basic
import Eudiplo.Verifier.Acceptance

/-!
# What satisfies a DCQL query

The meaning of a query, apart from how a response is checked: which credentials it requires, which
claims a presentation may select, and when these are disclosed with a requested value.  The checks
of `dcql-claim-policy` are shown to decide it.
-/

namespace Eudiplo

open Results

/-! ## Credentials -/

/-- **An option of the set has all of its credentials.** -/
def DcqlCredentialSetQuery.SatisfiedBy (set : DcqlCredentialSetQuery) (received : Set String) :
    Prop :=
  ∃ option ∈ set.options, ∀ id ∈ option, id ∈ received

/-- **The required credentials are there**: those of every required set, or of every query when
there are no sets. -/
structure DcqlQuery.Complete (query : DcqlQuery) (received : Set String) : Prop where
  sets : ∀ set ∈ query.credential_sets.getD [], set.required ≠ some false → set.SatisfiedBy received
  queries : query.credential_sets.getD [] = [] → ∀ c ∈ query.credentials, c.id ∈ received

/-! ## Claims -/

structure Discloses (disclosedValues : DcqlClaimQuery → List Json) (claim : DcqlClaimQuery) :
    Prop where
  disclosed : disclosedValues claim ≠ []
  requested : ∀ values, claim.values = some values →
    ∃ value ∈ disclosedValues claim, ∃ r ∈ values, r.matches value = true

/-- `claim` is what `claimId` stands for in the claim sets: the last one with this id. -/
def DcqlCredentialQuery.Defines (credential : DcqlCredentialQuery) (claimId : String)
    (claim : DcqlClaimQuery) : Prop :=
  nonEmpty claim.id = true ∧ claim.id = some claimId ∧
    ∃ before after, credential.claims.getD [] = before ++ claim :: after ∧
      ∀ other ∈ after, ¬(nonEmpty other.id = true ∧ other.id = some claimId)

/-- **A selection of the query**: one of its claim sets, or all claims when there are none. -/
inductive DcqlCredentialQuery.Selects (credential : DcqlCredentialQuery) :
    List DcqlClaimQuery → Prop where
  | all (h : credential.claim_sets.getD [] = []) : Selects credential (credential.claims.getD [])
  | oneOf {set : List String} {selection : List DcqlClaimQuery}
      (hset : set ∈ credential.claim_sets.getD [])
      (h : List.Forall₂ credential.Defines set selection) : Selects credential selection

/-- Every claim set names claims of the query. -/
def DcqlCredentialQuery.WellFormed (credential : DcqlCredentialQuery) : Prop :=
  ∀ set ∈ credential.claim_sets.getD [], ∀ claimId ∈ set, ∃ claim, credential.Defines claimId claim

/-! ## The checks decide it -/

section Decided

variable {query : DcqlQuery} {credential : DcqlCredentialQuery}

theorem unsatisfied_iff {received : List String} {set : DcqlCredentialSetQuery} :
    unsatisfied received set = false ↔
      (set.required ≠ some false → set.SatisfiedBy {id | id ∈ received}) := by
  unfold unsatisfied DcqlCredentialSetQuery.SatisfiedBy
  by_cases h : set.required = some false
  · simp [h]
  · simp [h]

theorem unsatisfiedSets_eq_nil {received : List String} {sets : List DcqlCredentialSetQuery} :
    unsatisfiedSets received sets = [] ↔ ∀ set ∈ sets, unsatisfied received set = false := by
  unfold unsatisfiedSets
  rw [List.map_eq_nil_iff, List.filter_eq_nil_iff]
  constructor
  · intro h set hset
    obtain ⟨i, hi, rfl⟩ := List.mem_iff_getElem.mp hset
    have hmem := h (_, i) (List.mk_mem_zipIdx_iff_getElem?.mpr (List.getElem?_eq_getElem hi))
    simpa using hmem
  · intro h set hset
    have hmem := List.mem_of_getElem? (List.mk_mem_zipIdx_iff_getElem?.mp hset)
    simp [h set.1 hmem]

/-- **`findMissingCredentials` finds none** if and only if the required credentials are there. -/
theorem findMissingCredentials_iff {received : List String} :
    findMissingCredentials received query = none ↔ query.Complete {id | id ∈ received} := by
  unfold findMissingCredentials
  split
  · -- without credential sets every credential is required
    rename_i hsets
    dsimp only
    have hall : ((query.credentials.map (·.id)).filter fun id => !received.contains id) = [] ↔
        ∀ c ∈ query.credentials, c.id ∈ received := by
      simp [List.filter_eq_nil_iff]
    constructor
    · intro h
      refine ⟨fun set hset => ?_, fun _ => hall.mp ?_⟩
      · rw [hsets] at hset
        exact absurd hset (List.not_mem_nil)
      · by_contra hne
        rw [if_neg (by simpa using hne)] at h
        cases h
    · intro h
      rw [if_pos (List.isEmpty_iff.mpr (hall.mpr (h.queries hsets)))]
  · rename_i hsets
    dsimp only
    constructor
    · intro h
      refine ⟨fun set hset => unsatisfied_iff.mp (unsatisfiedSets_eq_nil.mp ?_ set hset),
        fun hnil => ?_⟩
      · by_contra hne
        rw [if_neg (by simpa using hne)] at h
        cases h
      · exact absurd hnil hsets
    · intro h
      rw [if_pos]
      exact List.isEmpty_iff.mpr (unsatisfiedSets_eq_nil.mpr fun set hset =>
        unsatisfied_iff.mpr (h.sets set hset))

theorem discloses_iff {disclosedValues : DcqlClaimQuery → List Json} {claim : DcqlClaimQuery} :
    Discloses disclosedValues claim ↔
      (disclosedValues claim).isEmpty = false ∧ (claim.values.any fun requested =>
        !(disclosedValues claim).any fun value => requested.any fun r => r.matches value) =
          false := by
  constructor
  · rintro ⟨hdisclosed, hrequested⟩
    refine ⟨by simpa using hdisclosed, ?_⟩
    cases hvalues : claim.values with
    | none => rfl
    | some values =>
      obtain ⟨value, hvalue, r, hr, hmatches⟩ := hrequested values hvalues
      rw [Option.any_some, Bool.not_eq_false', List.any_eq_true]
      exact ⟨value, hvalue, List.any_eq_true.mpr ⟨r, hr, hmatches⟩⟩
  · rintro ⟨hdisclosed, hrequested⟩
    refine ⟨by simpa using hdisclosed, fun values hvalues => ?_⟩
    rw [hvalues, Option.any_some, Bool.not_eq_false', List.any_eq_true] at hrequested
    obtain ⟨value, hvalue, hany⟩ := hrequested
    obtain ⟨r, hr, hmatches⟩ := List.any_eq_true.mp hany
    exact ⟨value, hvalue, r, hr, hmatches⟩

/-- **A selection is satisfied** if and only if each of its claims is disclosed. -/
theorem satisfied_iff {disclosedValues : DcqlClaimQuery → List Json}
    {claims : List DcqlClaimQuery} :
    isClaimSelectionSatisfied (evaluate disclosedValues claims) = true ↔
      ∀ claim ∈ claims, Discloses disclosedValues claim := by
  induction claims with
  | nil => simp [evaluate, isClaimSelectionSatisfied]
  | cons claim claims ih =>
    rw [List.forall_mem_cons, ← ih, evaluate, discloses_iff]
    split
    · rename_i hempty
      simp [hempty, isClaimSelectionSatisfied]
    · rename_i hempty
      split
      · rename_i hmismatch
        simp [hmismatch, isClaimSelectionSatisfied]
      · rename_i hmatch
        simp [hempty, hmatch]

theorem defines_iff {claimId : String} {claim : DcqlClaimQuery} :
    ((credential.claims.getD []).reverse.find? fun c => nonEmpty c.id && c.id == some claimId) =
      some claim ↔ credential.Defines claimId claim := by
  have hnamed (c : DcqlClaimQuery) : (nonEmpty c.id && c.id == some claimId) = true ↔
      nonEmpty c.id = true ∧ c.id = some claimId := by rw [Bool.and_eq_true, beq_iff_eq]
  rw [List.find?_eq_some_iff_append]
  unfold DcqlCredentialQuery.Defines
  constructor
  · rintro ⟨hclaim, before, after, heq, hbefore⟩
    obtain ⟨hname, hid⟩ := (hnamed claim).mp hclaim
    refine ⟨hname, hid, after.reverse, before.reverse, ?_, fun other hother hboth => ?_⟩
    · rw [← List.reverse_reverse (credential.claims.getD []), heq]
      simp
    · have hnot := hbefore other (List.mem_reverse.mp hother)
      rw [(hnamed other).mpr hboth] at hnot
      cases hnot
  · rintro ⟨hname, hid, before, after, heq, hafter⟩
    refine ⟨(hnamed claim).mpr ⟨hname, hid⟩, after.reverse, before.reverse, ?_,
      fun other hother => ?_⟩
    · rw [heq]
      simp
    · rw [Bool.not_eq_true', ← Bool.not_eq_true, hnamed]
      exact hafter other (List.mem_reverse.mp hother)

theorem claimOf_iff {claimId : String} {claim : DcqlClaimQuery} {e : String} :
    (match (credential.claims.getD []).reverse.find? fun c =>
        nonEmpty c.id && c.id == some claimId with
      | some claim => Except.ok claim
      | none => .error e) = .ok claim ↔ credential.Defines claimId claim := by
  rw [← defines_iff]
  cases (credential.claims.getD []).reverse.find? fun c =>
    nonEmpty c.id && c.id == some claimId with
  | none => exact ⟨fun h => (nomatch h), fun h => (nomatch h)⟩
  | some found => simp

theorem claimsOf_iff {set : List String} {selection : List DcqlClaimQuery} {e : String → String} :
    (set.mapM fun claimId => match (credential.claims.getD []).reverse.find? fun c =>
        nonEmpty c.id && c.id == some claimId with
      | some claim => Except.ok claim
      | none => .error (e claimId)) = .ok selection ↔
        List.Forall₂ credential.Defines set selection := by
  have hone : (fun claimId claim => (match (credential.claims.getD []).reverse.find? fun c =>
        nonEmpty c.id && c.id == some claimId with
      | some claim => Except.ok claim
      | none => .error (e claimId)) = .ok claim) = credential.Defines := by
    funext claimId claim
    exact propext claimOf_iff
  rw [mapM_forall₂, hone]

/-- **The selections of a query** are those it may be answered by. -/
theorem mem_selections {selections : List (List DcqlClaimQuery)}
    (h : claimSelections credential = .ok selections) (selection : List DcqlClaimQuery) :
    selection ∈ selections ↔ credential.Selects selection := by
  unfold claimSelections at h
  split at h
  · rename_i hsets
    cases h
    rw [List.mem_singleton]
    constructor
    · rintro rfl
      exact .all hsets
    · rintro (_ | ⟨hset, -⟩)
      · rfl
      · rw [hsets] at hset
        exact absurd hset List.not_mem_nil
  · rename_i hsets
    rw [mem_mapM h]
    constructor
    · rintro ⟨set, hset, hselection⟩
      exact .oneOf hset (claimsOf_iff.mp hselection)
    · rintro (hnil | ⟨hset, hselection⟩)
      · exact absurd hnil hsets
      · exact ⟨_, hset, claimsOf_iff.mpr hselection⟩

/-- **The selections of a query are there** if and only if its claim sets name its claims. -/
theorem claimSelections_ok :
    (∃ selections, claimSelections credential = .ok selections) ↔ credential.WellFormed := by
  unfold claimSelections DcqlCredentialQuery.WellFormed
  split
  · rename_i hsets
    rw [hsets]
    exact ⟨fun _ _ hset => absurd hset List.not_mem_nil, fun _ => ⟨_, rfl⟩⟩
  · rw [mapM_succeeds]
    refine forall₂_congr fun set _ => ?_
    rw [mapM_succeeds]
    exact forall₂_congr fun claimId _ => exists_congr fun claim => claimOf_iff

end Decided

end Eudiplo
