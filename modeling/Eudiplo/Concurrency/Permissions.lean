import Eudiplo.Concurrency.Monitor

/-!
# What a handler may call

`Monitor.Permits may Q E p s` says that every call of `p`, entered with note `s`, is one that the
notes of its thread allow at that time, and that `p` returns as `Q` and throws as `E` allows.  The
notes follow what the thread itself was answered, so `Permits` is a fact about the text of one
handler; `Monitor.permitted_run` makes it a condition that every schedule meets.
-/

namespace Concurrency

variable {Op : Type} {Res : Op → Type} {σ ω ρ ε α β γ μ : Type}

namespace Monitor

variable (m : Monitor Res μ)

/-- **What a handler may call**, entered with note `s`, and how it may end. -/
def Permits (may : μ → Op → Prop) (Q : μ → α → Prop) (E : μ → ε → Prop) :
    Prog Res ε α → μ → Prop
  | .ret a, s => Q s a
  | .fail e, s => E s e
  | .call op k, s => may s op ∧ ∀ r, Permits may Q E (k r) (m.advance s op r)

variable {m} {may : μ → Op → Prop} {s : μ}
variable {Q : μ → α → Prop} {E : μ → ε → Prop} {R : μ → β → Prop}

/-! ## Rules -/

/-- **Sequencing.** -/
theorem Permits.bind {p : Prog Res ε β} {f : β → Prog Res ε α} (hp : m.Permits may R E p s)
    (hf : ∀ b s', R s' b → m.Permits may Q E (f b) s') : m.Permits may Q E (p.bind f) s := by
  induction p generalizing s with
  | ret b => exact hf b s hp
  | fail e => exact hp
  | call op k ih => exact ⟨hp.1, fun r => ih r (hp.2 r)⟩

theorem Permits.imp {Q' : μ → α → Prop} {E' : μ → ε → Prop} {p : Prog Res ε α}
    (hp : m.Permits may Q E p s) (hQ : ∀ s' a, Q s' a → Q' s' a)
    (hE : ∀ s' e, E s' e → E' s' e) : m.Permits may Q' E' p s := by
  induction p generalizing s with
  | ret a => exact hQ s a hp
  | fail e => exact hE s e hp
  | call op k ih => exact ⟨hp.1, fun r => ih r (hp.2 r)⟩

theorem Permits.attempt {E' : μ → ε → Prop} {p : Prog Res ε α} (hp : m.Permits may Q E p s) :
    m.Permits may (fun s' x => (∀ a, x = .ok a → Q s' a) ∧ ∀ e, x = .error e → E s' e) E'
      p.attempt s := by
  induction p generalizing s with
  | ret a => exact ⟨fun b hb => by cases hb; exact hp, fun _ he => (nomatch he)⟩
  | fail e => exact ⟨fun _ hb => (nomatch hb), fun e' he => by cases he; exact hp⟩
  | call op k ih => exact ⟨hp.1, fun r => ih r (hp.2 r)⟩

theorem Permits.ofExcept {x : Except ε α} (hQ : ∀ a, x = .ok a → Q s a)
    (hE : ∀ e, x = .error e → E s e) : m.Permits may Q E (Prog.ofExcept x) s := by
  cases x with
  | ok a => exact hQ a rfl
  | error e => exact hE e rfl

theorem Permits.ensure {check : Bool} {e : ε} {Q : μ → Unit → Prop} (hQ : check = true → Q s ())
    (hE : check = false → E s e) : m.Permits may Q E (Prog.ensure check e) s := by
  cases check with
  | true => exact hQ rfl
  | false => exact hE rfl

theorem Permits.getOrFail {o : Option α} {e : ε} (hQ : ∀ a, o = some a → Q s a) (hE : E s e) :
    m.Permits may Q E (Prog.getOrFail e o) s := by
  cases o with
  | some a => exact hQ a rfl
  | none => exact hE

/-! ## Runs -/

variable {M : System Res σ ω ρ ε α}

/-- **Every thread is still permitted what it has left to do.** -/
structure Permitted (m : Monitor Res μ) (may : μ → Op → Prop) (Q : ρ → μ → α → Prop)
    (E : ρ → μ → ε → Prop) (c : Config Res σ ρ ε α) : Prop where
  numbered : c.global.Numbered
  threads : ∀ t th, c.threads[t]? = some th →
    m.Permits may (Q th.request) (E th.request) th.body (m.state t c.trace)

theorem Permitted.step {Q : ρ → μ → α → Prop} {E : ρ → μ → ε → Prop} {c : Config Res σ ρ ε α}
    (h : ∀ r, m.Permits may (Q r) (E r) (M.program r) m.start) (hc : m.Permitted may Q E c)
    (mv : Move ω ρ) : m.Permitted may Q E (M.step c mv) := by
  cases mv with
  | arrive r =>
    refine ⟨?_, fun t th ht => ?_⟩
    · rw [System.step_arrive_global]
      exact hc.numbered.arrive r
    · rcases System.thread_of_arrive ht with hold | ⟨rfl, rfl⟩
      · exact hc.threads t th hold
      · -- the new thread has no events
        have hsilent : m.state c.threads.length c.trace = m.start := by
          refine state_of_silent fun e he heq => ?_
          have hlt := hc.numbered e he
          rw [heq, Config.global_requests, List.length_map] at hlt
          omega
        show m.Permits _ _ _ _ (m.state _ c.trace)
        rw [hsilent]
        exact h r
  | drift e => exact ⟨hc.numbered, hc.threads⟩
  | resume tid =>
    rcases System.step_resume_cases (M := M) c tid with hidle | ⟨r, op, k, hget, hglob, hthr⟩
    · rwa [hidle]
    · have htrace : (M.step c (.resume tid)).trace =
          ⟨tid, op, (M.answer op c.store).1⟩ :: c.trace := congrArg Global.trace hglob
      refine ⟨hglob ▸ hc.numbered.after (Config.global_request hget), fun t th ht => ?_⟩
      rw [htrace]
      rw [hthr] at ht
      rcases System.thread_of_set ht with ⟨rfl, rfl⟩ | ⟨hne, hold⟩
      · rw [state_cons_self]
        exact (hc.threads t _ hget).2 _
      · rw [state_cons_other hne.symm]
        exact hc.threads t th hold

theorem permitted_start (may : μ → Op → Prop) (Q : ρ → μ → α → Prop) (E : ρ → μ → ε → Prop)
    (s : σ) : m.Permitted may Q E (Config.start s : Config Res σ ρ ε α) :=
  ⟨Global.numbered_start s, fun t th ht => by simp [Config.start] at ht⟩

/-- **Along every run**, every call is one that the notes of its thread allow. -/
theorem permitted_run {Q : ρ → μ → α → Prop} {E : ρ → μ → ε → Prop} {c : Config Res σ ρ ε α}
    (h : ∀ r, m.Permits may (Q r) (E r) (M.program r) m.start) (hc : m.Permitted may Q E c)
    (ms : List (Move ω ρ)) :
    M.Guarded (fun g tid op => may (m.state tid g.trace) op) c ms ∧
      m.Permitted may Q E (M.run c ms) := by
  induction ms generalizing c with
  | nil => exact ⟨trivial, hc⟩
  | cons mv ms ih =>
    obtain ⟨hguarded, hpermitted⟩ := ih (hc.step h mv)
    exact ⟨⟨fun tid r op k _ hget => (hc.threads tid _ hget).1, hguarded⟩, hpermitted⟩

end Monitor

end Concurrency
