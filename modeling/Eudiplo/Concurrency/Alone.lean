import Eudiplo.Concurrency.Order

/-!
# What a program answers when it runs alone

`AnswersAlone answer p s a`: from the store `s` and with no step of another thread between
its calls, the program `p` answers `a`.  A program has at most one such answer
(`AnswersAlone.unique`), and it is the one a thread of a system gives that nobody
interrupts (`AnswersAlone.uninterrupted`).
-/

namespace Concurrency

variable {Op : Type} {Res : Op → Type} {σ ω ρ ε α β : Type}
  {answer : (op : Op) → σ → Res op × σ}

/-- Running alone from `s`, the program `p` answers `a`. -/
def AnswersAlone (answer : (op : Op) → σ → Res op × σ) : Prog Res ε α → σ → α → Prop
  | .ret b, _, a => b = a
  | .fail _, _, _ => False
  | .call op k, s, a => AnswersAlone answer (k (answer op s).1) (answer op s).2 a

variable {p : Prog Res ε α} {s : σ} {a b : α}

@[simp] theorem answersAlone_ret :
    AnswersAlone answer (.ret b : Prog Res ε α) s a ↔ b = a := Iff.rfl

@[simp] theorem answersAlone_fail {e : ε} :
    ¬AnswersAlone answer (.fail e : Prog Res ε α) s a := not_false

@[simp] theorem answersAlone_call {op : Op} {k : Res op → Prog Res ε α} :
    AnswersAlone answer (.call op k) s a ↔
      AnswersAlone answer (k (answer op s).1) (answer op s).2 a := Iff.rfl

/-- **A program that runs alone has one answer.** -/
theorem AnswersAlone.unique (h : AnswersAlone answer p s a) (h' : AnswersAlone answer p s b) :
    a = b := by
  induction p generalizing s with
  | ret x => exact h.symm.trans h'
  | fail e => exact h.elim
  | call op k ih => exact ih _ h h'

theorem AnswersAlone.bind {f : α → Prog Res ε β} {y : β} (h : AnswersAlone answer p s a)
    (hrest : ∀ s, AnswersAlone answer (f a) s y) : AnswersAlone answer (p.bind f) s y := by
  induction p generalizing s with
  | ret x =>
    obtain rfl : x = a := h
    exact hrest s
  | fail e => exact h.elim
  | call op k ih => exact ih _ h

theorem AnswersAlone.attempt (h : AnswersAlone answer p s a) :
    AnswersAlone answer p.attempt s (.ok a) := by
  induction p generalizing s with
  | ret x => exact congrArg Except.ok h
  | fail e => exact h.elim
  | call op k ih => exact ih _ h

theorem AnswersAlone.uninterrupted {M : System Res σ ω ρ ε α}
    (h : AnswersAlone M.answer p s a) : ∃ n, (M.uninterrupted n p s).1 = .ret a := by
  induction p generalizing s with
  | ret x => exact ⟨0, congrArg Prog.ret h⟩
  | fail e => exact h.elim
  | call op k ih =>
    obtain ⟨n, hn⟩ := ih _ h
    exact ⟨n + 1, hn⟩

end Concurrency
