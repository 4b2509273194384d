import Eudiplo.Concurrency.Order

/-!
# Two runs side by side

Two runs are *twins* when they make the same moves, and the calls that each move answers are alike.
What may differ is what `alike` does not look at: requests, answers and the parts of a call it
leaves out.  `Twins.keeps` carries a relation of two stores along twin runs; it is the induction
behind every statement that some data does not matter.
-/

namespace Concurrency

variable {Op : Type} {Res : Op → Type} {σ ω ρ ε α : Type}

namespace System

/-- **Twin runs**: move by move the same, with calls that are alike. -/
def Twins (M₁ M₂ : System Res σ ω ρ ε α) (alike : Op → Op → Prop) :
    Config Res σ ρ ε α → Config Res σ ρ ε α → List (Move ω ρ) → List (Move ω ρ) → Prop
  | _, _, [], [] => True
  | c₁, c₂, .arrive r₁ :: ms₁, .arrive r₂ :: ms₂ =>
    Twins M₁ M₂ alike (M₁.step c₁ (.arrive r₁)) (M₂.step c₂ (.arrive r₂)) ms₁ ms₂
  | c₁, c₂, .drift e₁ :: ms₁, .drift e₂ :: ms₂ =>
    e₁ = e₂ ∧ Twins M₁ M₂ alike (M₁.step c₁ (.drift e₁)) (M₂.step c₂ (.drift e₂)) ms₁ ms₂
  | c₁, c₂, .resume t₁ :: ms₁, .resume t₂ :: ms₂ =>
    t₁ = t₂ ∧ Option.Rel alike (waiting c₁ t₁) (waiting c₂ t₂) ∧
      Twins M₁ M₂ alike (M₁.step c₁ (.resume t₁)) (M₂.step c₂ (.resume t₂)) ms₁ ms₂
  | _, _, _, _ => False

def twinned [DecidableEq ω] (M₁ M₂ : System Res σ ω ρ ε α) (check : Op → Op → Bool) :
    Config Res σ ρ ε α → Config Res σ ρ ε α → List (Move ω ρ) → List (Move ω ρ) → Bool
  | _, _, [], [] => true
  | c₁, c₂, .arrive r₁ :: ms₁, .arrive r₂ :: ms₂ =>
    twinned M₁ M₂ check (M₁.step c₁ (.arrive r₁)) (M₂.step c₂ (.arrive r₂)) ms₁ ms₂
  | c₁, c₂, .drift e₁ :: ms₁, .drift e₂ :: ms₂ =>
    decide (e₁ = e₂) &&
      twinned M₁ M₂ check (M₁.step c₁ (.drift e₁)) (M₂.step c₂ (.drift e₂)) ms₁ ms₂
  | c₁, c₂, .resume t₁ :: ms₁, .resume t₂ :: ms₂ =>
    t₁ == t₂ &&
      (match waiting c₁ t₁, waiting c₂ t₂ with
        | some op₁, some op₂ => check op₁ op₂
        | none, none => true
        | _, _ => false) &&
      twinned M₁ M₂ check (M₁.step c₁ (.resume t₁)) (M₂.step c₂ (.resume t₂)) ms₁ ms₂
  | _, _, _, _ => false

variable {M M₁ M₂ : System Res σ ω ρ ε α}

theorem step_idle {c : Config Res σ ρ ε α} {t : Nat} (h : waiting c t = none) :
    M.step c (.resume t) = c := by
  rcases step_resume_cases (M := M) c t with hidle | ⟨r, op, k, hget, -, -⟩
  · exact hidle
  · rw [waiting_of_call hget] at h
    cases h

theorem Twins.of_twinned [DecidableEq ω] {alike : Op → Op → Prop} {check : Op → Op → Bool}
    (hcheck : ∀ op₁ op₂, check op₁ op₂ = true → alike op₁ op₂) {c₁ c₂ : Config Res σ ρ ε α}
    {ms₁ ms₂ : List (Move ω ρ)} (h : twinned M₁ M₂ check c₁ c₂ ms₁ ms₂ = true) :
    Twins M₁ M₂ alike c₁ c₂ ms₁ ms₂ := by
  fun_induction twinned M₁ M₂ check c₁ c₂ ms₁ ms₂ with
  | case1 => trivial
  | case2 c₁ c₂ r₁ ms₁ r₂ ms₂ ih => exact ih h
  | case3 c₁ c₂ e₁ ms₁ e₂ ms₂ ih =>
    rw [Bool.and_eq_true, decide_eq_true_iff] at h
    exact ⟨h.1, ih h.2⟩
  | case4 c₁ c₂ t₁ ms₁ t₂ ms₂ ih =>
    rw [Bool.and_eq_true, Bool.and_eq_true, beq_iff_eq] at h
    refine ⟨h.1.1, ?_, ih h.2⟩
    cases h₁ : waiting c₁ t₁ <;> cases h₂ : waiting c₂ t₂ <;> rw [h₁, h₂] at h
    · exact .none
    · exact absurd h.1.2 Bool.false_ne_true
    · exact absurd h.1.2 Bool.false_ne_true
    · exact .some (hcheck _ _ h.1.2)
  | case5 => cases h

/-- **What alike calls and the surroundings keep** of two stores, twin runs keep. -/
theorem Twins.keeps {alike : Op → Op → Prop} {ok : Op → Prop} {R : σ → σ → Prop}
    (hcall : ∀ {op₁ op₂ s₁ s₂}, alike op₁ op₂ → ok op₁ → ok op₂ → R s₁ s₂ →
      R (M₁.answer op₁ s₁).2 (M₂.answer op₂ s₂).2)
    (hdrift : ∀ {e s₁ s₂}, R s₁ s₂ → R (M₁.drift e s₁) (M₂.drift e s₂))
    {c₁ c₂ : Config Res σ ρ ε α} {ms₁ ms₂ : List (Move ω ρ)}
    (h : Twins M₁ M₂ alike c₁ c₂ ms₁ ms₂) (h₁ : M₁.Guarded (fun _ _ op => ok op) c₁ ms₁)
    (h₂ : M₂.Guarded (fun _ _ op => ok op) c₂ ms₂) (hR : R c₁.store c₂.store) :
    R (M₁.run c₁ ms₁).store (M₂.run c₂ ms₂).store := by
  fun_induction Twins M₁ M₂ alike c₁ c₂ ms₁ ms₂ with
  | case1 => exact hR
  | case2 c₁ c₂ r₁ ms₁ r₂ ms₂ ih => exact ih h h₁.2 h₂.2 hR
  | case3 c₁ c₂ e₁ ms₁ e₂ ms₂ ih =>
    obtain ⟨rfl, h⟩ := h
    exact ih h h₁.2 h₂.2 (hdrift hR)
  | case4 c₁ c₂ t₁ ms₁ t₂ ms₂ ih =>
    obtain ⟨rfl, hwait, h⟩ := h
    refine ih h h₁.2 h₂.2 ?_
    generalize hw₁ : waiting c₁ t₁ = o₁ at hwait
    generalize hw₂ : waiting c₂ t₁ = o₂ at hwait
    cases hwait with
    | none => rwa [step_idle hw₁, step_idle hw₂]
    | @some op₁ op₂ halike =>
      obtain ⟨r₁, k₁, hget₁⟩ := waiting_eq_some hw₁
      obtain ⟨r₂, k₂, hget₂⟩ := waiting_eq_some hw₂
      have hstore {M : System Res σ ω ρ ε α} {c : Config Res σ ρ ε α} {op : Op}
          (hw : waiting c t₁ = some op) : (M.step c (.resume t₁)).store = (M.answer op c.store).2 :=
        congrArg Global.store (step_waiting (M := M) hw)
      rw [hstore hw₁, hstore hw₂]
      exact hcall halike (h₁.1 _ _ _ _ rfl hget₁) (h₂.1 _ _ _ _ rfl hget₂) hR
  | case5 => exact h.elim

/-! ## A handler that runs alone -/

/-- The next call of thread `t`, or a move of the surroundings. -/
def alone (t : Nat) : Option ω → Move ω ρ
  | none => .resume t
  | some e => .drift e

theorem guarded_alone (c : Config Res σ ρ ε α) (t : Nat) (pauses : List (Option ω)) :
    M.Guarded (fun _ tid _ => tid = t) c (pauses.map (alone t)) := by
  induction pauses generalizing c with
  | nil => trivial
  | cons pause pauses ih =>
    refine ⟨fun tid r op k hm _ => ?_, ih _⟩
    cases pause with
    | none => cases hm; rfl
    | some e => cases hm

end System

end Concurrency
