import Eudiplo.Concurrency.System

/-!
# What an answer is evidence of

A handler that has returned has made its calls, and the history shows them.  `Yields tid Q p g`
says that whatever other threads do in between, a value `p` returns satisfies `Q` of the history
at that time.
-/

namespace Concurrency

variable {Op : Type} {Res : Op → Type} {σ ω ρ ε α β γ : Type}

/-- Thread `tid` made call `op` and was answered `a`. -/
def Global.Made (g : Global Res σ ρ) (tid : Nat) (op : Op) (a : Res op) : Prop :=
  (⟨tid, op, a⟩ : Event Res) ∈ g.trace

theorem Global.Made.extends {g g' : Global Res σ ρ} {tid : Nat} {op : Op} {a : Res op}
    (h : g.Made tid op a) (he : g.Extends g') : g'.Made tid op a := he.event h

namespace System

variable (M : System Res σ ω ρ ε α)

/-- **A value the handler returns satisfies `Q`**, whatever is answered in between. -/
def Yields (tid : Nat) (Q : Global Res σ ρ → β → Prop) :
    Prog Res ε β → Global Res σ ρ → Prop
  | .ret a, g => ∀ g', g.Extends g' → Q g' a
  | .fail _, _ => True
  | .call op k, g => ∀ g', g.Extends g' →
      Yields tid Q (k (M.answer op g'.store).1) (M.after g' tid op)

variable {M} {tid : Nat} {g : Global Res σ ρ}
variable {Q : Global Res σ ρ → β → Prop} {R : Global Res σ ρ → γ → Prop}

theorem after_made (g : Global Res σ ρ) (tid : Nat) (op : Op) :
    (M.after g tid op).Made tid op (M.answer op g.store).1 := List.mem_cons_self

/-! ## Rules -/

theorem Yields.mono {p : Prog Res ε β} {g' : Global Res σ ρ} (h : M.Yields tid Q p g)
    (he : g.Extends g') : M.Yields tid Q p g' := by
  cases p with
  | ret a => exact fun g'' h'' => h g'' (he.trans h'')
  | fail e => trivial
  | call op k => exact fun g'' h'' => h g'' (he.trans h'')

@[simp] theorem yields_fail (e : ε) : M.Yields tid Q (.fail e : Prog Res ε β) g := trivial

theorem Yields.ret {a : β} (h : ∀ g', g.Extends g' → Q g' a) :
    M.Yields tid Q (.ret a : Prog Res ε β) g := h

theorem yields_invoke (op : Op) :
    M.Yields tid (fun g' a => g'.Made tid op a) (Prog.invoke op : Prog Res ε (Res op)) g :=
  fun g' _ _ he' => (after_made g' tid op).extends he'

/-- **Sequencing.** -/
theorem Yields.bind {p : Prog Res ε γ} {f : γ → Prog Res ε β} (hp : M.Yields tid R p g)
    (hf : ∀ a g', g.Extends g' → R g' a → M.Yields tid Q (f a) g') :
    M.Yields tid Q (p.bind f) g := by
  induction p generalizing g with
  | ret a => exact hf a g (.refl g) (hp g (.refl g))
  | fail e => trivial
  | call op k ih =>
    intro g' he
    refine ih _ (hp g' he) fun a g'' he' => hf a g'' ?_
    exact (he.trans (extends_after _ _ _)).trans he'

theorem Yields.imp {p : Prog Res ε β} {Q' : Global Res σ ρ → β → Prop}
    (hp : M.Yields tid Q p g) (h : ∀ a g', g.Extends g' → Q g' a → Q' g' a) :
    M.Yields tid Q' p g := by
  induction p generalizing g with
  | ret a => exact fun g' he => h a g' he (hp g' he)
  | fail e => trivial
  | call op k ih =>
    intro g' he
    refine ih _ (hp g' he) fun a g'' he' => h a g'' ?_
    exact (he.trans (extends_after _ _ _)).trans he'

theorem yields_true (p : Prog Res ε β) : M.Yields tid (fun _ _ => True) p g := by
  induction p generalizing g with
  | ret a => exact fun _ _ => trivial
  | fail e => trivial
  | call op k ih => exact fun _ _ => ih _

theorem Yields.skip {p : Prog Res ε γ} {f : γ → Prog Res ε β}
    (hf : ∀ a g', g.Extends g' → M.Yields tid Q (f a) g') : M.Yields tid Q (p.bind f) g :=
  (yields_true p).bind fun a g' he _ => hf a g' he

theorem Yields.ensure {check : Bool} {e : ε} {f : Unit → Prog Res ε β}
    (h : check = true → M.Yields tid Q (f ()) g) :
    M.Yields tid Q ((Prog.ensure check e).bind f) g := by
  cases check with
  | true => exact h rfl
  | false => trivial

theorem Yields.getOrFail {o : Option γ} {e : ε} {f : γ → Prog Res ε β}
    (h : ∀ a, o = some a → M.Yields tid Q (f a) g) :
    M.Yields tid Q ((Prog.getOrFail e o).bind f) g := by
  cases o with
  | some a => exact h a rfl
  | none => trivial

theorem Yields.ofExcept {x : Except ε γ} {f : γ → Prog Res ε β}
    (h : ∀ a, x = .ok a → M.Yields tid Q (f a) g) :
    M.Yields tid Q ((Prog.ofExcept x).bind f) g := by
  cases x with
  | ok a => exact h a rfl
  | error e => trivial

theorem Yields.attempt {p : Prog Res ε β} (hp : M.Yields tid Q p g) :
    M.Yields tid (fun g' x => ∀ a, x = .ok a → Q g' a) p.attempt g := by
  induction p generalizing g with
  | ret a =>
    intro g' he x hx
    cases hx
    exact hp g' he
  | fail e => exact fun _ _ _ hx => nomatch hx
  | call op k ih => exact fun g' he => ih _ (hp g' he)

/-! ## Runs -/

/-- Every thread yields what its request promises. -/
def Promises (Q : Nat → ρ → Global Res σ ρ → α → Prop) (c : Config Res σ ρ ε α) : Prop :=
  ∀ (tid : Nat) (t : Thread Res ρ ε α), c.threads[tid]? = some t →
    M.Yields tid (Q tid t.request) t.body c.global

variable {Q : Nat → ρ → Global Res σ ρ → α → Prop}

theorem Promises.step (h : ∀ tid r g, M.Yields tid (Q tid r) (M.program r) g)
    {c : Config Res σ ρ ε α} (hc : M.Promises Q c) (m : Move ω ρ) :
    M.Promises Q (M.step c m) := by
  intro tid t ht
  have hext := extends_step (M := M) c m
  cases m with
  | arrive r =>
    rcases thread_of_arrive ht with hold | ⟨-, rfl⟩
    · exact (hc tid t hold).mono hext
    · exact h tid r _
  | drift e => exact (hc tid t ht).mono hext
  | resume tid' =>
    rcases step_resume_cases (M := M) c tid' with hidle | ⟨r, op, k, hget, hglob, hthr⟩
    · rw [hidle] at ht ⊢
      exact hc tid t ht
    · rw [hthr] at ht
      rcases thread_of_set ht with ⟨rfl, rfl⟩ | ⟨-, hold⟩
      · -- the resumed thread is one call further
        rw [hglob]
        exact hc tid _ hget c.global (.refl _)
      · exact (hc tid t hold).mono hext

/-- **Every event is an answer of the system**, in every run. -/
theorem run_answered {s : σ} {ms : List (Move ω ρ)} {e : Event Res}
    (he : e ∈ (M.run (.start s) ms).trace) : ∃ s', e.res = (M.answer e.op s').1 := by
  have hrun : ∀ (c : Config Res σ ρ ε α) (ms : List (Move ω ρ)),
      (∀ e ∈ c.trace, ∃ s', e.res = (M.answer e.op s').1) →
      ∀ e ∈ (M.run c ms).trace, ∃ s', e.res = (M.answer e.op s').1 := by
    intro c ms hc
    induction ms generalizing c with
    | nil => exact hc
    | cons m ms ih =>
      refine ih _ fun e he => ?_
      cases m with
      | arrive r => exact hc e he
      | drift n => exact hc e he
      | resume tid =>
        rcases step_resume_cases (M := M) c tid with hidle | ⟨r, op, k, -, hglob, -⟩
        · exact hc e (hidle ▸ he)
        · have htrace : (M.step c (.resume tid)).trace = (M.after c.global tid op).trace :=
            congrArg Global.trace hglob
          rw [htrace] at he
          rcases List.mem_cons.mp he with rfl | hold
          · exact ⟨c.store, rfl⟩
          · exact hc e hold
  exact hrun _ ms (fun _ hnone => (List.not_mem_nil hnone).elim) e he

/-- **What a returned response is evidence of**, in every run. -/
theorem run_yields (h : ∀ tid r g, M.Yields tid (Q tid r) (M.program r) g) {s : σ}
    {ms : List (Move ω ρ)} {tid : Nat} {r : ρ} {a : α}
    (ha : (M.run (.start s) ms).Answers tid r a) : Q tid r (M.run (.start s) ms).global a := by
  have hrun : ∀ (c : Config Res σ ρ ε α) (ms : List (Move ω ρ)), M.Promises Q c →
      M.Promises Q (M.run c ms) := by
    intro c ms hc
    induction ms generalizing c with
    | nil => exact hc
    | cons m ms ih => exact ih _ (hc.step h m)
  have hstart : M.Promises Q (Config.start s : Config Res σ ρ ε α) :=
    fun tid t ht => by simp [Config.start] at ht
  exact hrun _ ms hstart tid _ ha _ (.refl _)

end System

end Concurrency
