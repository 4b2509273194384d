import Mathlib.Tactic
import Eudiplo.Federation.TrustChain

/-!
# The federation traversal is sound, bounded and complete

What a visit can end in, the requests it makes, and why neither the cycle check nor the table
of explored depths hides an anchor.
-/

namespace Eudiplo

namespace Federation

variable {E : Type} {resolver : String → Except E FederationEntityConfiguration}
  {limits : FederationTraversalLimits} {anchors : List String}
  {current hint : String} {depth : ℕ} {path hints : List String} {s s' s₁ s₂ : Traversal}
  {outcome : Except E FederationTrustChainResult}
  {failure : FederationTrustChainResult} {fetchError : Option E}
  {branch : String → Traversal → Visit E}

def IsTrusted (outcome : Except E FederationTrustChainResult) : Prop :=
  ∃ result, outcome = .ok result ∧ result.trusted = true

theorem not_trusted_error (error : E) : ¬IsTrusted (.error error) := by
  rintro ⟨result, h, -⟩
  cases h

theorem not_trusted_ok (h : failure.trusted = false) : ¬IsTrusted (E := E) (.ok failure) := by
  rintro ⟨result, hresult, htrusted⟩
  cases Except.ok.inj hresult
  exact Bool.false_ne_true (h.symm.trans htrusted)

theorem rejected_untrusted {reason : String} : (rejected reason).trusted = false := rfl

/-- A hop: the hint is among the followed hints of an entity that resolves and whose subject,
if given, matches. -/
def Hop (resolver : String → Except E FederationEntityConfiguration)
    (limits : FederationTraversalLimits) (current hint : String) : Prop :=
  ∃ configuration, resolver current = .ok configuration ∧
    configuration.otherSubject current = false ∧ hint ∈ configuration.hints limits

/-! ## The loop over the hints -/

/-- The visits the loop makes, none of them trusted, and the memory they leave. -/
inductive Passes (branch : String → Traversal → Visit E) :
    List String → Traversal → Traversal → Prop where
  | nil {s : Traversal} : Passes branch [] s s
  | cons {hint : String} {hints : List String} {s s' : Traversal} :
      ¬IsTrusted (branch hint s).1 → Passes branch hints (branch hint s).2 s' →
      Passes branch (hint :: hints) s s'

/-- **The loop** either passes over every hint, or answers what the first trusted branch
answers. -/
theorem tryHints_spec (hfailure : failure.trusted = false) :
    (¬IsTrusted (tryHints branch hints failure fetchError s).1 ∧
      Passes branch hints s (tryHints branch hints failure fetchError s).2) ∨
    (IsTrusted (tryHints branch hints failure fetchError s).1 ∧
      ∃ hint ∈ hints, ∃ s₁, tryHints branch hints failure fetchError s = branch hint s₁) := by
  induction hints generalizing failure fetchError s with
  | nil =>
    left
    cases fetchError with
    | some e => exact ⟨not_trusted_error e, .nil⟩
    | none => exact ⟨not_trusted_ok hfailure, .nil⟩
  | cons hint hints ih =>
    rw [tryHints]
    cases hbranch : branch hint s with
    | mk outcome s' =>
      have houtcome : (branch hint s).1 = outcome := by rw [hbranch]
      have hs' : (branch hint s).2 = s' := by rw [hbranch]
      -- an untrusted branch leaves the rest of the loop to decide
      have hrest : ∀ failure' fetchError', failure'.trusted = false → ¬IsTrusted outcome →
          (¬IsTrusted (tryHints branch hints failure' fetchError' s').1 ∧
            Passes branch (hint :: hints) s (tryHints branch hints failure' fetchError' s').2) ∨
          (IsTrusted (tryHints branch hints failure' fetchError' s').1 ∧
            ∃ h ∈ hint :: hints, ∃ s₁,
              tryHints branch hints failure' fetchError' s' = branch h s₁) := by
        intro failure' fetchError' hfailure' houtcome'
        rcases ih hfailure' with ⟨huntrusted, hpasses⟩ | ⟨htrusted, h, hh, s₁, heq⟩
        · exact .inl ⟨huntrusted, .cons (houtcome ▸ houtcome') (hs' ▸ hpasses)⟩
        · exact .inr ⟨htrusted, h, List.mem_cons_of_mem _ hh, s₁, heq⟩
      cases outcome with
      | error e => exact hrest failure (some e) hfailure (not_trusted_error e)
      | ok result =>
        by_cases htrusted : result.trusted = true
        · simp only [htrusted, if_true]
          exact .inr ⟨⟨result, rfl, htrusted⟩, hint, List.mem_cons_self, s, hbranch.symm⟩
        · simp only [htrusted, Bool.false_eq_true, if_false]
          have hresult : result.trusted = false := by simpa using htrusted
          exact hrest result fetchError hresult (not_trusted_ok hresult)

theorem tryHints_preserves {R : Traversal → Traversal → Prop} (hrefl : ∀ s, R s s)
    (htrans : ∀ {s₁ s₂ s₃}, R s₁ s₂ → R s₂ s₃ → R s₁ s₃)
    (hbranch : ∀ hint s, R s (branch hint s).2) :
    R s (tryHints branch hints failure fetchError s).2 := by
  induction hints generalizing failure fetchError s with
  | nil => cases fetchError <;> exact hrefl s
  | cons hint hints ih =>
    rw [tryHints]
    have hfirst := hbranch hint s
    split <;> rename_i heq <;> rw [heq] at hfirst
    · split
      · exact hfirst
      · exact htrans hfirst ih
    · exact htrans hfirst ih

/-! ## One visit -/

/-- Whether a visit asks for the configuration of its entity. -/
def Explores (limits : FederationTraversalLimits) (anchors : List String) (current : String)
    (depth : ℕ) (path : List String) (s : Traversal) : Prop :=
  depth ≤ limits.maxDepth ∧ current ∉ anchors ∧ current ∉ path ∧
    ¬SeenBy s.exploredDepth depth current ∧ s.resolutions < limits.maxResolutions

def hintBranch (resolver : String → Except E FederationEntityConfiguration)
    (limits : FederationTraversalLimits) (anchors : List String) (current : String) (depth : ℕ)
    (path : List String) (hint : String) (s : Traversal) : Visit E :=
  visit resolver limits anchors hint (depth + 1) (current :: path) s

def Traversal.asked (s : Traversal) (current : String) (depth : ℕ) : Traversal :=
  (s.explore current depth).resolve current

theorem any_explored_iff :
    ((s.exploredDepth current).any fun explored => decide (explored ≤ depth)) = true ↔
      SeenBy s.exploredDepth depth current := by
  rw [Option.any_eq_true]
  constructor
  · rintro ⟨e, he, hle⟩
    exact ⟨e, of_decide_eq_true hle, he⟩
  · rintro ⟨e, hle, he⟩
    exact ⟨e, he, decide_eq_true hle⟩

theorem visit_hints {configuration : FederationEntityConfiguration}
    (h : Explores limits anchors current depth path s)
    (hresolve : resolver current = .ok configuration)
    (hsub : configuration.otherSubject current = false)
    (hdirect : ¬(depth < limits.maxDepth ∧
      ∃ hint ∈ configuration.hints limits, hint ∈ anchors)) :
    visit resolver limits anchors current depth path s =
      tryHints (hintBranch resolver limits anchors current depth path)
        (configuration.hints limits) rejected none (s.asked current depth) := by
  obtain ⟨hdepth, hanchor, hpath, hseen, hlimit⟩ := h
  rw [visit, if_neg (not_lt.mpr hdepth), if_neg hanchor, if_neg hpath,
    if_neg (fun h => hseen (any_explored_iff.mp h)), if_neg (not_le.mpr hlimit)]
  simp only [hresolve]
  rw [if_neg (by simp [hsub]), if_neg hdirect]
  rfl

/-- **What a visit can do**: it stops at an anchor, it stops for another reason, or it asks for
the configuration of its entity and goes on from there. -/
theorem visit_cases (v : Visit E) (hv : v = visit resolver limits anchors current depth path s) :
    (depth ≤ limits.maxDepth ∧ current ∈ anchors ∧ v = (.ok trusted, s)) ∨
    (¬IsTrusted v.1 ∧ v.2 = s ∧
      (limits.maxDepth < depth ∨ current ∉ anchors ∧
        (current ∈ path ∨ SeenBy s.exploredDepth depth current))) ∨
    (¬IsTrusted v.1 ∧ v.2 = s.explore current depth ∧
      limits.maxResolutions ≤ s.resolutions) ∨
    (Explores limits anchors current depth path s ∧
      ((¬IsTrusted v.1 ∧ v.2 = s.asked current depth ∧ ∀ hint, ¬Hop resolver limits current hint) ∨
      ∃ configuration, resolver current = .ok configuration ∧
        configuration.otherSubject current = false ∧
        ((depth < limits.maxDepth ∧ (∃ hint ∈ configuration.hints limits, hint ∈ anchors) ∧
          v = (.ok trusted, s.asked current depth)) ∨
        (¬(depth < limits.maxDepth ∧ ∃ hint ∈ configuration.hints limits, hint ∈ anchors) ∧
          v = tryHints (hintBranch resolver limits anchors current depth path)
            (configuration.hints limits) rejected none (s.asked current depth))))) := by
  have hrejected : ∀ reason : String, ¬IsTrusted (E := E) (.ok (rejected reason)) :=
    fun _ => not_trusted_ok rejected_untrusted
  rw [visit] at hv
  by_cases hdeep : depth > limits.maxDepth
  · rw [if_pos hdeep] at hv
    exact .inr (.inl ⟨hv ▸ hrejected _, hv ▸ rfl, .inl hdeep⟩)
  rw [if_neg hdeep] at hv
  by_cases hanchor : current ∈ anchors
  · rw [if_pos hanchor] at hv
    exact .inl ⟨not_lt.mp hdeep, hanchor, hv⟩
  rw [if_neg hanchor] at hv
  by_cases hpath : current ∈ path
  · rw [if_pos hpath] at hv
    exact .inr (.inl ⟨hv ▸ hrejected _, hv ▸ rfl, .inr ⟨hanchor, .inl hpath⟩⟩)
  rw [if_neg hpath] at hv
  by_cases hseen : SeenBy s.exploredDepth depth current
  · rw [if_pos (any_explored_iff.mpr hseen)] at hv
    exact .inr (.inl ⟨hv ▸ hrejected _, hv ▸ rfl, .inr ⟨hanchor, .inr hseen⟩⟩)
  rw [if_neg (fun h => hseen (any_explored_iff.mp h))] at hv
  by_cases hlimit : s.resolutions ≥ limits.maxResolutions
  · rw [if_pos hlimit] at hv
    exact .inr (.inr (.inl ⟨hv ▸ hrejected _, hv ▸ rfl, hlimit⟩))
  rw [if_neg hlimit] at hv
  refine .inr (.inr (.inr
    ⟨⟨not_lt.mp hdeep, hanchor, hpath, hseen, not_le.mp hlimit⟩, ?_⟩))
  cases hresolve : resolver current with
  | error e =>
    simp only [hresolve] at hv
    refine .inl ⟨hv ▸ not_trusted_error e, hv ▸ rfl, ?_⟩
    rintro hint ⟨_, h, _⟩
    rw [hresolve] at h
    cases h
  | ok configuration =>
    simp only [hresolve] at hv
    by_cases hsub : configuration.otherSubject current = true
    · rw [if_pos hsub] at hv
      refine .inl ⟨hv ▸ hrejected _, hv ▸ rfl, ?_⟩
      rintro hint ⟨c, h, hc, _⟩
      rw [hresolve] at h
      cases Except.ok.inj h
      exact Bool.false_ne_true (hc.symm.trans hsub)
    · rw [if_neg hsub] at hv
      refine .inr ⟨configuration, rfl, by simpa using hsub, ?_⟩
      by_cases hdirect :
          depth < limits.maxDepth ∧ ∃ hint ∈ configuration.hints limits, hint ∈ anchors
      · rw [if_pos hdirect] at hv
        exact .inl ⟨hdirect.1, hdirect.2, hv⟩
      · rw [if_neg hdirect] at hv
        exact .inr ⟨hdirect, hv⟩

/-- **A rule for whole visits**, by induction on the hops that remain: what a visit establishes
when its hint branches establish it, every visit establishes. -/
theorem visit_rule
    {P : String → ℕ → List String → Traversal → Visit E → Prop}
    (hstep : ∀ current depth path s,
      (depth ≤ limits.maxDepth → ∀ hint s, P hint (depth + 1) (current :: path) s
        (hintBranch resolver limits anchors current depth path hint s)) →
      P current depth path s (visit resolver limits anchors current depth path s)) :
    P current depth path s (visit resolver limits anchors current depth path s) := by
  induction hleft : limits.maxDepth + 1 - depth generalizing current depth path s with
  | zero =>
    refine hstep current depth path s fun hdepth => ?_
    omega
  | succ left ih =>
    refine hstep current depth path s fun hdepth hint s => ?_
    exact ih (by omega)

/-! ## Bounds -/

/-- Every request is counted, and the count stays within the limit. -/
def Counted (limits : FederationTraversalLimits) (s : Traversal) : Prop :=
  s.requests.length = s.resolutions ∧ s.resolutions ≤ limits.maxResolutions

/-- The count only grows, and stays right. -/
def Counts (limits : FederationTraversalLimits) (s s' : Traversal) : Prop :=
  s.resolutions ≤ s'.resolutions ∧ (Counted limits s → Counted limits s')

theorem Counts.refl (s : Traversal) : Counts limits s s := ⟨le_rfl, id⟩

theorem Counts.trans (h₁ : Counts limits s s₁) (h₂ : Counts limits s₁ s₂) :
    Counts limits s s₂ :=
  ⟨h₁.1.trans h₂.1, h₂.2 ∘ h₁.2⟩

theorem counts_asked (hlimit : s.resolutions < limits.maxResolutions) :
    Counts limits s (s.asked current depth) := by
  refine ⟨Nat.le_succ _, ?_⟩
  rintro ⟨hlength, -⟩
  refine ⟨?_, hlimit⟩
  show (s.requests ++ [current]).length = s.resolutions + 1
  rw [List.length_append, hlength, List.length_singleton]

theorem visit_counts :
    Counts limits s (visit resolver limits anchors current depth path s).2 := by
  refine visit_rule (P := fun _ _ _ s v => Counts limits s v.2) ?_
  intro current depth path s ih
  rcases visit_cases _ rfl with ⟨-, -, hv⟩ | ⟨-, hv, -⟩ | ⟨-, hv, -⟩ |
    ⟨hexplores, ⟨-, hv, -⟩ | ⟨c, -, -, ⟨-, -, hv⟩ | ⟨-, hv⟩⟩⟩
  · rw [hv]
    exact .refl s
  · rw [hv]
    exact .refl s
  · rw [hv]
    exact ⟨le_rfl, id⟩
  · rw [hv]
    exact counts_asked hexplores.2.2.2.2
  · rw [hv]
    exact counts_asked hexplores.2.2.2.2
  · rw [hv]
    exact (counts_asked hexplores.2.2.2.2).trans
      (tryHints_preserves Counts.refl Counts.trans (ih hexplores.1))

/-! ## Soundness -/

/-- **A trusted answer rests on a chain** to an anchor within the hops that remain. -/
theorem visit_sound (h : IsTrusted (visit resolver limits anchors current depth path s).1) :
    depth ≤ limits.maxDepth ∧
      WithinHops (Hop resolver limits) {a | a ∈ anchors} (limits.maxDepth - depth) current := by
  revert h
  refine visit_rule (P := fun current depth _ _ v => IsTrusted v.1 → depth ≤ limits.maxDepth ∧
    WithinHops (Hop resolver limits) {a | a ∈ anchors} (limits.maxDepth - depth) current) ?_
  intro current depth path s ih htrusted
  rcases visit_cases _ rfl with ⟨hdepth, hanchor, -⟩ | ⟨hv, -⟩ | ⟨hv, -⟩ |
    ⟨hexplores, ⟨hv, -⟩ | ⟨c, hc, hsub, ⟨hlt, ⟨hint, hhint, hanchor⟩, -⟩ | ⟨-, hv⟩⟩⟩
  · exact ⟨hdepth, .goal hanchor⟩
  · exact absurd htrusted hv
  · exact absurd htrusted hv
  · exact absurd htrusted hv
  · refine ⟨hlt.le, ?_⟩
    rw [show limits.maxDepth - depth = limits.maxDepth - depth - 1 + 1 by omega]
    exact .hop ⟨c, hc, hsub, hhint⟩ (.goal hanchor)
  · rw [hv] at htrusted
    rcases tryHints_spec rejected_untrusted with ⟨huntrusted, -⟩ | ⟨-, hint, hhint, s₁, heq⟩
    · exact absurd htrusted huntrusted
    · rw [heq] at htrusted
      obtain ⟨hlt, hchain⟩ := ih hexplores.1 hint s₁ htrusted
      refine ⟨hexplores.1, ?_⟩
      rw [show limits.maxDepth - depth = limits.maxDepth - (depth + 1) + 1 by omega]
      exact .hop ⟨c, hc, hsub, hhint⟩ hchain

/-! ## Completeness -/

/-- The table an evaluation keeps: only the entities on the current path, which are still
being explored, may have hints that have not been seen. -/
def Closed (resolver : String → Except E FederationEntityConfiguration)
    (limits : FederationTraversalLimits) (anchors path : List String) (s : Traversal) : Prop :=
  ∀ x d, s.exploredDepth x = some d → x ∉ path →
    ClosedAt (Hop resolver limits) {a | a ∈ anchors} limits.maxDepth s.exploredDepth x d

/-- What an untrusted visit leaves: no entity is deeper than before, those on the path are as
deep as before, the table is closed, and the entity itself has been seen. -/
structure Settles (resolver : String → Except E FederationEntityConfiguration)
    (limits : FederationTraversalLimits) (anchors : List String) (current : String)
    (depth : ℕ) (path : List String) (s s' : Traversal) : Prop where
  later : ∀ x d, s.exploredDepth x = some d → SeenBy s'.exploredDepth d x
  onPath : ∀ x ∈ path, s'.exploredDepth x = s.exploredDepth x
  closed : Closed resolver limits anchors path s'
  seen : depth ≤ limits.maxDepth → current ∉ anchors ∧ SeenBy s'.exploredDepth depth current

structure SettlesAll (resolver : String → Except E FederationEntityConfiguration)
    (limits : FederationTraversalLimits) (anchors : List String) (hints : List String)
    (depth : ℕ) (path : List String) (s s' : Traversal) : Prop where
  later : ∀ x d, s.exploredDepth x = some d → SeenBy s'.exploredDepth d x
  onPath : ∀ x ∈ path, s'.exploredDepth x = s.exploredDepth x
  closed : Closed resolver limits anchors path s'
  seen : depth ≤ limits.maxDepth →
    ∀ hint ∈ hints, hint ∉ anchors ∧ SeenBy s'.exploredDepth depth hint

/-- The entities on the path have been seen on the way. -/
def PathSeen (path : List String) (depth : ℕ) (s : Traversal) : Prop :=
  ∀ x ∈ path, SeenBy s.exploredDepth depth x

theorem seenBy_self {seen : String → Option ℕ} {x : String} {d : ℕ} (h : seen x = some d) :
    SeenBy seen d x :=
  ⟨d, le_rfl, h⟩

theorem passes_settles {limit : ℕ}
    (hbranch : ∀ hint s, PathSeen path depth s → Closed resolver limits anchors path s →
      ¬IsTrusted (branch hint s).1 → (branch hint s).2.resolutions < limit →
      Settles resolver limits anchors hint depth path s (branch hint s).2)
    (hgrows : ∀ hint s, s.resolutions ≤ (branch hint s).2.resolutions)
    (hpath : PathSeen path depth s) (hclosed : Closed resolver limits anchors path s)
    (h : Passes branch hints s s') (hlimit : s'.resolutions < limit) :
    SettlesAll resolver limits anchors hints depth path s s' := by
  have hpasses_grows : ∀ {hints s s'}, Passes branch hints s s' →
      s.resolutions ≤ s'.resolutions := by
    intro hints s s' h
    induction h with
    | nil => exact le_rfl
    | cons _ _ ih => exact (hgrows _ _).trans ih
  induction h with
  | nil =>
    exact ⟨fun x d hx => seenBy_self hx, fun x _ => rfl, hclosed, fun _ _ h => by cases h⟩
  | @cons hint hints s s' huntrusted hrest ih =>
    have hfirst := hbranch hint s hpath hclosed huntrusted
      ((hpasses_grows hrest).trans_lt hlimit)
    have htail := ih (fun x hx => (hpath x hx).later hfirst.later) hfirst.closed hlimit
    refine ⟨fun x d hx => (hfirst.later x d hx).later htail.later,
      fun x hx => (htail.onPath x hx).trans (hfirst.onPath x hx), htail.closed, ?_⟩
    intro hdepth h hh
    rcases List.mem_cons.mp hh with rfl | hh
    · exact ⟨(hfirst.seen hdepth).1, (hfirst.seen hdepth).2.later htail.later⟩
    · exact htail.seen hdepth h hh

theorem explore_self : (s.explore current depth).exploredDepth current = some depth :=
  Function.update_self ..

theorem explore_of_ne {x : String} (h : x ≠ current) :
    (s.explore current depth).exploredDepth x = s.exploredDepth x :=
  Function.update_of_ne h ..

theorem explore_later (h : ¬SeenBy s.exploredDepth depth current) (x : String) (d : ℕ)
    (hx : s.exploredDepth x = some d) : SeenBy (s.explore current depth).exploredDepth d x := by
  by_cases heq : x = current
  · subst heq
    have hlt : depth ≤ d := by
      by_contra hd
      exact h ⟨d, by omega, hx⟩
    exact ⟨depth, hlt, explore_self⟩
  · exact ⟨d, le_rfl, (explore_of_ne heq).trans hx⟩

theorem explore_closed (h : ¬SeenBy s.exploredDepth depth current)
    (hclosed : Closed resolver limits anchors path s) :
    Closed resolver limits anchors (current :: path) (s.explore current depth) := by
  intro x d hx hnot
  obtain ⟨hne, hpath⟩ := not_or.mp (List.mem_cons.not.mp hnot)
  rw [explore_of_ne hne] at hx
  exact (hclosed x d hx hpath).later (explore_later h)

theorem explore_pathSeen (h : ¬SeenBy s.exploredDepth depth current)
    (hpath : PathSeen path depth s) :
    PathSeen (current :: path) (depth + 1) (s.explore current depth) := by
  intro x hx
  rcases List.mem_cons.mp hx with rfl | hx
  · exact ⟨depth, Nat.le_succ _, explore_self⟩
  · exact ((hpath x hx).later (explore_later h)).mono (Nat.le_succ _)

/-- **Leaving an entity**: once its hints are settled, it is settled itself. -/
theorem settles_of_hints (hexplores : Explores limits anchors current depth path s)
    (hhop : ∀ hint, Hop resolver limits current hint → hint ∈ hints)
    (h : SettlesAll resolver limits anchors hints (depth + 1) (current :: path)
      (s.asked current depth) s') :
    Settles resolver limits anchors current depth path s s' := by
  obtain ⟨-, hanchor, hpath, hseen, -⟩ := hexplores
  have hcurrent : s'.exploredDepth current = some depth :=
    (h.onPath current List.mem_cons_self).trans explore_self
  refine ⟨fun x d hx => (explore_later hseen x d hx).later h.later, ?_, ?_,
    fun _ => ⟨hanchor, seenBy_self hcurrent⟩⟩
  · intro x hx
    have hne : x ≠ current := fun heq => hpath (heq ▸ hx)
    exact (h.onPath x (List.mem_cons_of_mem _ hx)).trans (explore_of_ne hne)
  · intro x d hx hnot
    by_cases heq : x = current
    · subst heq
      obtain rfl : d = depth := Option.some.inj (hx.symm.trans hcurrent)
      exact fun hd y hy => h.seen hd y (hhop y hy)
    · exact h.closed x d hx (List.not_mem_cons_of_ne_of_not_mem heq hnot)

/-- **An untrusted visit settles its entity**, provided the limit on resolutions has not been
reached. A hint on the current path has been seen on the way down, and the entity it names is
still to be closed when its own visit ends; that is why the cycle check loses nothing. -/
theorem visit_settles (hpath : PathSeen path depth s)
    (hclosed : Closed resolver limits anchors path s)
    (huntrusted : ¬IsTrusted (visit resolver limits anchors current depth path s).1)
    (hlimit : (visit resolver limits anchors current depth path s).2.resolutions <
      limits.maxResolutions) :
    Settles resolver limits anchors current depth path s
      (visit resolver limits anchors current depth path s).2 := by
  revert hpath hclosed huntrusted hlimit
  refine visit_rule (P := fun current depth path s v => PathSeen path depth s →
    Closed resolver limits anchors path s → ¬IsTrusted v.1 →
    v.2.resolutions < limits.maxResolutions →
    Settles resolver limits anchors current depth path s v.2) ?_
  intro current depth path s ih hpath hclosed huntrusted hlimit
  have hstays : (depth ≤ limits.maxDepth → current ∉ anchors ∧
      SeenBy s.exploredDepth depth current) →
      Settles resolver limits anchors current depth path s s :=
    fun hseen => ⟨fun x d hx => seenBy_self hx, fun x _ => rfl, hclosed, hseen⟩
  have hgrows : ∀ hint s, s.resolutions ≤
      (hintBranch resolver limits anchors current depth path hint s).2.resolutions :=
    fun _ _ => visit_counts.1
  rcases visit_cases _ rfl with ⟨-, -, hv⟩ | ⟨-, hv, hwhy⟩ | ⟨-, hv, hmax⟩ |
    ⟨hexplores, ⟨-, hv, hhop⟩ | ⟨c, hc, hsub, ⟨-, -, hv⟩ | ⟨hdirect, hv⟩⟩⟩
  · rw [hv] at huntrusted
    exact absurd ⟨_, rfl, rfl⟩ huntrusted
  · rw [hv]
    refine hstays fun hdepth => ?_
    rcases hwhy with hdeep | ⟨hanchor, hon | hseen⟩
    · omega
    · exact ⟨hanchor, hpath current hon⟩
    · exact ⟨hanchor, hseen⟩
  · rw [hv] at hlimit
    exact absurd hlimit (not_lt.mpr hmax)
  · rw [hv]
    have hnone : SettlesAll resolver limits anchors [] (depth + 1) (current :: path)
        (s.asked current depth) (s.asked current depth) :=
      ⟨fun x d hx => seenBy_self hx, fun x _ => rfl,
        explore_closed hexplores.2.2.2.1 hclosed, fun _ _ h => by cases h⟩
    exact settles_of_hints hexplores (fun hint h => absurd h (hhop hint)) hnone
  · rw [hv] at huntrusted
    exact absurd ⟨_, rfl, rfl⟩ huntrusted
  · rw [hv] at huntrusted hlimit ⊢
    rcases tryHints_spec rejected_untrusted with ⟨-, hpasses⟩ | ⟨htrusted, -⟩
    · refine settles_of_hints hexplores ?_ (passes_settles
        (fun hint s hp hcl hu hl => ih hexplores.1 hint s hp hcl hu hl) hgrows
        (explore_pathSeen hexplores.2.2.2.1 hpath) (explore_closed hexplores.2.2.2.1 hclosed)
        hpasses hlimit)
      rintro hint ⟨c', hc', -, hhint⟩
      obtain rfl : c = c' := Except.ok.inj (hc.symm.trans hc')
      exact hhint
    · exact absurd htrusted huntrusted

/-! ## The branches of an evaluation -/

structure Call where
  current : String
  depth : ℕ
  path : List String
  memory : Traversal

def Call.run (resolver : String → Except E FederationEntityConfiguration)
    (limits : FederationTraversalLimits) (anchors : List String) (call : Call) : Visit E :=
  visit resolver limits anchors call.current call.depth call.path call.memory

inductive Reaches (branch : String → Traversal → Visit E) :
    List String → Traversal → String → Traversal → Prop where
  | here {hint : String} {hints : List String} {s : Traversal} :
      Reaches branch (hint :: hints) s hint s
  | later {first hint : String} {hints : List String} {s s' : Traversal} :
      ¬IsTrusted (branch first s).1 → Reaches branch hints (branch first s).2 hint s' →
      Reaches branch (first :: hints) s hint s'

inductive Branch (resolver : String → Except E FederationEntityConfiguration)
    (limits : FederationTraversalLimits) (anchors : List String) (root : Call) : Call → Prop where
  | root : Branch resolver limits anchors root root
  | hint {call : Call} {configuration : FederationEntityConfiguration} {hint : String}
      {s : Traversal} :
      Branch resolver limits anchors root call →
      Explores limits anchors call.current call.depth call.path call.memory →
      resolver call.current = .ok configuration →
      configuration.otherSubject call.current = false →
      ¬(call.depth < limits.maxDepth ∧
        ∃ hint ∈ configuration.hints limits, hint ∈ anchors) →
      Reaches (hintBranch resolver limits anchors call.current call.depth call.path)
        (configuration.hints limits) (call.memory.asked call.current call.depth) hint s →
      Branch resolver limits anchors root ⟨hint, call.depth + 1, call.current :: call.path, s⟩

theorem reaches_untrusted (h : Passes branch hints s s') (hreach : Reaches branch hints s hint s₁) :
    ¬IsTrusted (branch hint s₁).1 := by
  induction h with
  | nil => cases hreach
  | cons huntrusted _ ih =>
    cases hreach with
    | here => exact huntrusted
    | later _ hreach => exact ih hreach

/-- **No branch of an untrusted visit is trusted.** -/
theorem branch_untrusted {root call : Call}
    (hroot : ¬IsTrusted (root.run resolver limits anchors).1)
    (h : Branch resolver limits anchors root call) :
    ¬IsTrusted (call.run resolver limits anchors).1 := by
  induction h with
  | root => exact hroot
  | @hint call configuration hint s _ hexplores hresolve hsub hdirect hreach ih =>
    have hv : call.run resolver limits anchors = tryHints
        (hintBranch resolver limits anchors call.current call.depth call.path)
        (configuration.hints limits) rejected none
        (call.memory.asked call.current call.depth) :=
      visit_hints hexplores hresolve hsub hdirect
    rw [hv] at ih
    rcases tryHints_spec rejected_untrusted with ⟨-, hpasses⟩ | ⟨htrusted, -⟩
    · exact reaches_untrusted hpasses hreach
    · exact absurd htrusted ih

/-! ## The evaluation -/

/-- The entity chains to an anchor: at most `maxDepth` hops lead from it to one. -/
def ChainsToAnchor (resolver : String → Except E FederationEntityConfiguration)
    (limits : FederationTraversalLimits) (input : EvaluateFederationTrustChainInput) : Prop :=
  WithinHops (Hop resolver limits) {a | a ∈ input.trustAnchors.map normalizeEntityId}
    limits.maxDepth (normalizeEntityId input.entityId)

def EvaluateFederationTrustChainInput.root (input : EvaluateFederationTrustChainInput) : Call :=
  ⟨normalizeEntityId input.entityId, 0, [], Traversal.start⟩

/-- **The traversal is sound, bounded and complete.** It asks the resolver for at most
`maxResolutions` entities; it answers trusted only if the entity chains to an anchor; it
answers trusted if the entity does and the limit on resolutions has not been reached, whatever
other branches end in; and where it throws, no branch it explored was trusted. -/
theorem traversal_exact (resolver : String → Except E FederationEntityConfiguration)
    (limits : FederationTraversalLimits) (input : EvaluateFederationTrustChainInput) :
    ((execute resolver limits input).2.requests.length ≤ limits.maxResolutions) ∧
    (IsTrusted (execute resolver limits input).1 → ChainsToAnchor resolver limits input) ∧
    (ChainsToAnchor resolver limits input →
      (execute resolver limits input).2.requests.length < limits.maxResolutions →
      IsTrusted (execute resolver limits input).1) ∧
    (∀ error, (execute resolver limits input).1 = .error error → ∀ call,
      Branch resolver limits (input.trustAnchors.map normalizeEntityId) input.root call →
      ¬IsTrusted (call.run resolver limits (input.trustAnchors.map normalizeEntityId)).1) := by
  have hcounted : Counted limits (execute resolver limits input).2 :=
    visit_counts.2 ⟨rfl, Nat.zero_le _⟩
  refine ⟨hcounted.1.trans_le hcounted.2, fun h => (visit_sound h).2, ?_, ?_⟩
  · intro hchain hlimit
    by_contra huntrusted
    rw [hcounted.1] at hlimit
    have hsettles := visit_settles (fun x hx => by cases hx) (fun x d hx => by cases hx)
      huntrusted hlimit
    obtain ⟨hanchor, hseen⟩ := hsettles.seen (Nat.zero_le _)
    exact not_withinHops_of_closed (fun x d hx => hsettles.closed x d hx List.not_mem_nil)
      hseen hanchor (Nat.zero_add _).le hchain
  · intro error herror call hcall
    refine branch_untrusted ?_ hcall
    show ¬IsTrusted (execute resolver limits input).1
    rw [herror]
    exact not_trusted_error error

end Federation

end Eudiplo
