import Eudiplo.Concurrency.Order

/-!
# How a handler ends

`Discipline.Safe` says nothing of a handler that throws.  A `Monitor` notes something of every
answered call of a thread; `Monitor.Ends ok Q E p s` says that `p`, entered with note `s`, returns
only as `Q` allows and throws only as `E` allows, as long as every answer is `ok`.
-/

namespace Concurrency

variable {Op : Type} {Res : Op → Type} {σ ω ρ ε α β γ μ : Type}

/-- **What is noted about the calls of one thread.** -/
structure Monitor {Op : Type} (Res : Op → Type) (μ : Type) where
  start : μ
  advance : μ → (op : Op) → Res op → μ

namespace Monitor

variable (m : Monitor Res μ)

/-- What a history, newest event first, notes about thread `t`. -/
def state (t : Nat) : List (Event Res) → μ
  | [] => m.start
  | e :: older =>
    if e.tid = t then m.advance (state t older) e.op e.res else state t older

/-- **How a handler may end**, entered with note `s`, when every answer is `ok`. -/
def Ends (ok : μ → (op : Op) → Res op → Prop) (Q : μ → α → Prop) (E : μ → ε → Prop) :
    Prog Res ε α → μ → Prop
  | .ret a, s => Q s a
  | .fail e, s => E s e
  | .call op k, s => ∀ r, ok s op r → Ends ok Q E (k r) (m.advance s op r)

variable {m} {ok : μ → (op : Op) → Res op → Prop} {s : μ}
variable {Q : μ → α → Prop} {E : μ → ε → Prop} {R : μ → β → Prop}

/-! ## Rules -/

/-- **Sequencing.** -/
theorem Ends.bind {p : Prog Res ε β} {f : β → Prog Res ε α} (hp : m.Ends ok R E p s)
    (hf : ∀ b s', R s' b → m.Ends ok Q E (f b) s') : m.Ends ok Q E (p.bind f) s := by
  induction p generalizing s with
  | ret b => exact hf b s hp
  | fail e => exact hp
  | call op k ih => exact fun r hr => ih r (hp r hr)

theorem Ends.imp {Q' : μ → α → Prop} {E' : μ → ε → Prop} {p : Prog Res ε α}
    (hp : m.Ends ok Q E p s) (hQ : ∀ s' a, Q s' a → Q' s' a) (hE : ∀ s' e, E s' e → E' s' e) :
    m.Ends ok Q' E' p s := by
  induction p generalizing s with
  | ret a => exact hQ s a hp
  | fail e => exact hE s e hp
  | call op k ih => exact fun r hr => ih r (hp r hr)

theorem Ends.mono {ok' : μ → (op : Op) → Res op → Prop} {p : Prog Res ε α}
    (hp : m.Ends ok Q E p s) (hok : ∀ s' op r, ok' s' op r → ok s' op r) :
    m.Ends ok' Q E p s := by
  induction p generalizing s with
  | ret a => exact hp
  | fail e => exact hp
  | call op k ih => exact fun r hr => ih r (hp r (hok s op r hr))

theorem Ends.attempt {E' : μ → ε → Prop} {p : Prog Res ε α} (hp : m.Ends ok Q E p s) :
    m.Ends ok (fun s' x => (∀ a, x = .ok a → Q s' a) ∧ ∀ e, x = .error e → E s' e) E'
      p.attempt s := by
  induction p generalizing s with
  | ret a => exact ⟨fun b hb => by cases hb; exact hp, fun _ he => (nomatch he)⟩
  | fail e => exact ⟨fun _ hb => (nomatch hb), fun e' he => by cases he; exact hp⟩
  | call op k ih => exact fun r hr => ih r (hp r hr)

theorem Ends.ensure {check : Bool} {e : ε} {f : Unit → Prog Res ε α}
    (hfail : check = false → E s e) (h : check = true → m.Ends ok Q E (f ()) s) :
    m.Ends ok Q E ((Prog.ensure check e).bind f) s := by
  cases check with
  | true => exact h rfl
  | false => exact hfail rfl

theorem Ends.getOrFail {o : Option γ} {e : ε} {f : γ → Prog Res ε α}
    (hfail : o = none → E s e) (h : ∀ a, o = some a → m.Ends ok Q E (f a) s) :
    m.Ends ok Q E ((Prog.getOrFail e o).bind f) s := by
  cases o with
  | some a => exact h a rfl
  | none => exact hfail rfl

theorem Ends.require {o : Option α} {e : ε} (hfail : o = none → E s e)
    (h : ∀ a, o = some a → Q s a) : m.Ends ok Q E (Prog.getOrFail e o) s := by
  cases o with
  | some a => exact h a rfl
  | none => exact hfail rfl

theorem Ends.ofExcept {x : Except ε γ} {f : γ → Prog Res ε α}
    (hfail : ∀ e, x = .error e → E s e) (h : ∀ a, x = .ok a → m.Ends ok Q E (f a) s) :
    m.Ends ok Q E ((Prog.ofExcept x).bind f) s := by
  cases x with
  | ok a => exact h a rfl
  | error e => exact hfail e rfl

theorem ends_true (p : Prog Res ε α) : m.Ends ok (fun _ _ => True) (fun _ _ => True) p s := by
  induction p generalizing s with
  | ret a => trivial
  | fail e => trivial
  | call op k ih => exact fun r _ => ih r

/-! ## Runs -/

theorem state_cons_self (t : Nat) (op : Op) (r : Res op) (older : List (Event Res)) :
    m.state t (⟨t, op, r⟩ :: older) = m.advance (m.state t older) op r := if_pos rfl

theorem state_cons_other {t : Nat} {e : Event Res} (h : e.tid ≠ t) (older : List (Event Res)) :
    m.state t (e :: older) = m.state t older := if_neg h

theorem state_of_silent {t : Nat} {trace : List (Event Res)} (h : ∀ e ∈ trace, e.tid ≠ t) :
    m.state t trace = m.start := by
  induction trace with
  | nil => rfl
  | cons e older ih =>
    rw [state_cons_other (h e List.mem_cons_self)]
    exact ih fun e' he' => h e' (List.mem_cons_of_mem e he')

/-- **What the notes come to say**, an event of the thread makes them say. -/
theorem appears (m : Monitor Res μ) {P : μ → Prop} {t : Nat} {newer older : List (Event Res)}
    (hbefore : ¬P (m.state t older)) (hafter : P (m.state t (newer ++ older))) :
    ∃ later e earlier, newer = later ++ e :: earlier ∧ e.tid = t ∧
      ¬P (m.state t (earlier ++ older)) ∧
      P (m.advance (m.state t (earlier ++ older)) e.op e.res) := by
  induction newer with
  | nil => exact absurd hafter hbefore
  | cons e newer ih =>
    by_cases hold : P (m.state t (newer ++ older))
    · obtain ⟨later, e', earlier, rfl, hrest⟩ := ih hold
      exact ⟨e :: later, e', earlier, rfl, hrest⟩
    · have ht : e.tid = t := by
        by_contra ht
        exact hold (by rwa [List.cons_append, state_cons_other ht] at hafter)
      subst ht
      exact ⟨[], e, newer, rfl, rfl, hold, by rwa [List.cons_append, state_cons_self] at hafter⟩

variable {M : System Res σ ω ρ ε α}

/-- **Every thread still ends as its request may.** -/
structure Ending (m : Monitor Res μ) (ok : ρ → μ → (op : Op) → Res op → Prop)
    (Q : ρ → μ → α → Prop) (E : ρ → μ → ε → Prop) (c : Config Res σ ρ ε α) : Prop where
  numbered : c.global.Numbered
  threads : ∀ t th, c.threads[t]? = some th →
    m.Ends (ok th.request) (Q th.request) (E th.request) th.body (m.state t c.trace)

theorem Ending.step {ok : ρ → μ → (op : Op) → Res op → Prop} {Q : ρ → μ → α → Prop}
    {E : ρ → μ → ε → Prop} {c : Config Res σ ρ ε α} {mv : Move ω ρ}
    (h : ∀ r, m.Ends (ok r) (Q r) (E r) (M.program r) m.start) (hc : m.Ending ok Q E c)
    (hok : ∀ tid r op k, mv = .resume tid → c.threads[tid]? = some ⟨r, .call op k⟩ →
      ok r (m.state tid c.trace) op (M.answer op c.store).1) :
    m.Ending ok Q E (M.step c mv) := by
  cases mv with
  | arrive r =>
    refine ⟨?_, fun t th ht => ?_⟩
    · rw [System.step_arrive_global]
      exact hc.numbered.arrive r
    · rcases System.thread_of_arrive ht with hold | ⟨rfl, rfl⟩
      · exact hc.threads t th hold
      · -- the new thread has no events
        have hsilent : m.state c.threads.length c.trace = m.start := by
          refine state_of_silent fun e he heq => ?_
          have hlt := hc.numbered e he
          rw [heq, Config.global_requests, List.length_map] at hlt
          omega
        show m.Ends _ _ _ _ (m.state _ c.trace)
        rw [hsilent]
        exact h r
  | drift e => exact ⟨hc.numbered, hc.threads⟩
  | resume tid =>
    rcases System.step_resume_cases (M := M) c tid with hidle | ⟨r, op, k, hget, hglob, hthr⟩
    · rwa [hidle]
    · have htrace : (M.step c (.resume tid)).trace =
          ⟨tid, op, (M.answer op c.store).1⟩ :: c.trace := congrArg Global.trace hglob
      refine ⟨hglob ▸ hc.numbered.after (Config.global_request hget), fun t th ht => ?_⟩
      rw [htrace]
      rw [hthr] at ht
      rcases System.thread_of_set ht with ⟨rfl, rfl⟩ | ⟨hne, hold⟩
      · rw [state_cons_self]
        exact hc.threads t _ hget _ (hok t r op k rfl hget)
      · rw [state_cons_other hne.symm]
        exact hc.threads t th hold

/-- **Along every run whose answers are `ok`**, every thread ends as its request may. -/
theorem ends_run {ok : ρ → μ → (op : Op) → Res op → Prop} {Q : ρ → μ → α → Prop}
    {E : ρ → μ → ε → Prop} {c : Config Res σ ρ ε α} {ms : List (Move ω ρ)}
    (h : ∀ r, m.Ends (ok r) (Q r) (E r) (M.program r) m.start) (hc : m.Ending ok Q E c)
    (hg : M.Guarded (fun g tid op => ∀ r, g.requests[tid]? = some r →
      ok r (m.state tid g.trace) op (M.answer op g.store).1) c ms) :
    m.Ending ok Q E (M.run c ms) := by
  induction ms generalizing c with
  | nil => exact hc
  | cons mv ms ih =>
    refine ih (hc.step h fun tid r op k hm hget => ?_) hg.2
    exact hg.1 tid r op k hm hget r (Config.global_request hget)

/-- **Along every run** in which every call of a thread is answered so that it is `ok`. -/
theorem ends_run_of_answers {ok : ρ → μ → (op : Op) → Res op → Prop} {Q : ρ → μ → α → Prop}
    {E : ρ → μ → ε → Prop} {c : Config Res σ ρ ε α} {ms : List (Move ω ρ)}
    (h : ∀ r, m.Ends (ok r) (Q r) (E r) (M.program r) m.start) (hc : m.Ending ok Q E c)
    (hok : ∀ ms₁ tid ms₂ r op k, ms = ms₁ ++ .resume tid :: ms₂ →
      (M.run c ms₁).threads[tid]? = some ⟨r, .call op k⟩ →
        ok r (m.state tid (M.run c ms₁).trace) op (M.answer op (M.run c ms₁).store).1) :
    m.Ending ok Q E (M.run c ms) := by
  induction ms generalizing c with
  | nil => exact hc
  | cons mv ms ih =>
    refine ih (hc.step h fun tid r op k hm hget => hok [] tid ms r op k (by rw [hm]; rfl) hget)
      fun ms₁ tid ms₂ r op k hms hget => ?_
    exact hok (mv :: ms₁) tid ms₂ r op k (by rw [hms]; rfl) hget

theorem ending_start {ok : ρ → μ → (op : Op) → Res op → Prop} {Q : ρ → μ → α → Prop}
    {E : ρ → μ → ε → Prop} (s : σ) : m.Ending ok Q E (Config.start s : Config Res σ ρ ε α) :=
  ⟨Global.numbered_start s, fun t th ht => by simp [Config.start] at ht⟩

end Monitor

end Concurrency
