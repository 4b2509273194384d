import Eudiplo.Concurrency.Evidence
import Eudiplo.Concurrency.Order

/-!
# A thread and its own events

A handler is a function of what its calls were answered with: what is left of a thread is
what its own events leave of its handler.  `Prog.Ran p es q` says that `p` has taken the calls
of `es`, oldest first, and is now `q`; `System.ran` is that statement of every thread of every
run.
-/

namespace Concurrency

variable {Op : Type} {Res : Op → Type} {σ ω ρ ε α β : Type}

namespace Prog

/-- **`p` took the calls of `es` and is now `q`.** -/
inductive Ran : Prog Res ε α → List (Event Res) → Prog Res ε α → Prop
  | rest (p : Prog Res ε α) : Ran p [] p
  | call {op : Op} {k : Res op → Prog Res ε α} {es : List (Event Res)} {q : Prog Res ε α}
      (t : Nat) (a : Res op) : Ran (k a) es q → Ran (.call op k) (⟨t, op, a⟩ :: es) q

variable {p q : Prog Res ε α} {es : List (Event Res)} {op : Op}

theorem Ran.snoc {k : Res op → Prog Res ε α} (h : Ran p es (.call op k)) (t : Nat) (a : Res op) :
    Ran p (es ++ [⟨t, op, a⟩]) (k a) := by
  generalize hq : Prog.call op k = q at h
  induction h with
  | rest p =>
    subst hq
    exact .call t a (.rest _)
  | call t' a' _ ih => exact .call t' a' (ih hq)

/-! ## Inversion -/

theorem Ran.of_ret {a : α} (h : Ran (.ret a) es q) : es = [] ∧ q = .ret a := by
  cases h
  exact ⟨rfl, rfl⟩

theorem Ran.of_fail {e : ε} (h : Ran (.fail e) es q) : es = [] ∧ q = .fail e := by
  cases h
  exact ⟨rfl, rfl⟩

theorem Ran.of_call {k : Res op → Prog Res ε α} (h : Ran (.call op k) es q) :
    es = [] ∧ q = .call op k ∨
      ∃ t a rest, es = ⟨t, op, a⟩ :: rest ∧ Ran (k a) rest q := by
  cases h with
  | rest => exact .inl ⟨rfl, rfl⟩
  | call t a hrest => exact .inr ⟨t, a, _, rfl, hrest⟩

theorem Ran.only {P : Op → Prop} (h : Ran p es q) (hp : p.Only P) : ∀ e ∈ es, P e.op := by
  induction h with
  | rest p => exact fun _ he => (List.not_mem_nil he).elim
  | call t a _ ih =>
    intro e he
    rcases List.mem_cons.mp he with rfl | he
    · exact hp.1
    · exact ih (hp.2 a) e he

theorem Ran.of_ensure {check : Bool} {e : ε} {f : Unit → Prog Res ε α}
    (h : Ran ((ensure check e).bind f) es q) :
    check = true ∧ Ran (f ()) es q ∨ es = [] ∧ q = .fail e := by
  cases check with
  | true => exact .inl ⟨rfl, h⟩
  | false => exact .inr h.of_fail

theorem Ran.of_checked {x : Except ε β} {f : β → Prog Res ε α}
    (h : Ran ((Prog.ofExcept x).bind f) es q) :
    (∃ b, x = .ok b ∧ Ran (f b) es q) ∨ ∃ e, x = .error e ∧ es = [] ∧ q = .fail e := by
  cases x with
  | ok b => exact .inl ⟨b, rfl, h⟩
  | error e => exact .inr ⟨e, rfl, h.of_fail⟩

theorem Ran.of_map {p : Prog Res ε β} {f : β → α} (h : Ran (p.bind fun b => .ret (f b)) es q) :
    ∃ p', Ran p es p' ∧ q = p'.bind fun b => .ret (f b) := by
  induction p generalizing es with
  | ret b =>
    obtain ⟨rfl, rfl⟩ := h.of_ret
    exact ⟨.ret b, .rest _, rfl⟩
  | fail e =>
    obtain ⟨rfl, rfl⟩ := h.of_fail
    exact ⟨.fail e, .rest _, rfl⟩
  | call op k ih =>
    rcases h.of_call with ⟨rfl, rfl⟩ | ⟨t, a, rest, rfl, hrest⟩
    · exact ⟨.call op k, .rest _, rfl⟩
    · obtain ⟨p', hp', rfl⟩ := ih a hrest
      exact ⟨p', .call t a hp', rfl⟩

/-- **A handler that waits for a call which its first part does not make** is past it. -/
theorem Ran.past {P : Op → Prop} {p : Prog Res ε β} {f : β → Prog Res ε α}
    {k : Res op → Prog Res ε α} (h : Ran (p.bind f) es (.call op k)) (hp : p.Only P)
    (hop : ¬P op) :
    ∃ b es₁ es₂, es = es₁ ++ es₂ ∧ Ran p es₁ (.ret b) ∧ Ran (f b) es₂ (.call op k) := by
  induction p generalizing es with
  | ret b => exact ⟨b, [], es, rfl, .rest _, h⟩
  | fail e => cases h.of_fail.2
  | call op' k' ih =>
    rcases h.of_call with ⟨-, hq⟩ | ⟨t, r, rest, rfl, hrest⟩
    · cases hq
      exact absurd hp.1 hop
    · obtain ⟨b, es₁, es₂, rfl, h₁, h₂⟩ := ih r hrest (hp.2 r)
      exact ⟨b, ⟨t, op', r⟩ :: es₁, es₂, rfl, .call t r h₁, h₂⟩

/-! ## Handlers that have returned -/

/-- **A handler that has returned** went through the first part of a `bind`, and then the
second. -/
theorem Ran.returned {p : Prog Res ε β} {f : β → Prog Res ε α} {a : α}
    (h : Ran (p.bind f) es (.ret a)) :
    ∃ b es₁ es₂, es = es₁ ++ es₂ ∧ Ran p es₁ (.ret b) ∧ Ran (f b) es₂ (.ret a) := by
  induction p generalizing es with
  | ret b => exact ⟨b, [], es, rfl, .rest _, h⟩
  | fail e => cases h.of_fail.2
  | call op k ih =>
    rcases h.of_call with ⟨-, hq⟩ | ⟨t, r, rest, rfl, hrest⟩
    · cases hq
    · obtain ⟨b, es₁, es₂, rfl, h₁, h₂⟩ := ih r hrest
      exact ⟨b, ⟨t, op, r⟩ :: es₁, es₂, rfl, .call t r h₁, h₂⟩

/-- **What is done for every element**: each turn has returned, with calls of its own. -/
theorem Ran.of_each {f : β → Prog Res ε Unit} {bs : List β} (h : Ran (each f bs) es (.ret ()))
    {b : β} (hb : b ∈ bs) : ∃ es', es' ⊆ es ∧ Ran (f b) es' (.ret ()) := by
  induction bs generalizing es with
  | nil => cases hb
  | cons b' bs ih =>
    obtain ⟨_, es₁, es₂, rfl, hhead, htail⟩ := h.returned
    rcases List.mem_cons.mp hb with rfl | hb
    · exact ⟨es₁, List.subset_append_left _ _, hhead⟩
    · obtain ⟨es', hsub, hran⟩ := ih htail hb
      exact ⟨es', List.Subset.trans hsub (List.subset_append_right _ _), hran⟩

theorem Ran.of_invoke {a : Res op} (h : Ran (invoke op : Prog Res ε (Res op)) es (.ret a)) :
    ∃ t, es = [⟨t, op, a⟩] := by
  rcases h.of_call with ⟨-, hq⟩ | ⟨t, r, rest, rfl, hrest⟩
  · cases hq
  · obtain ⟨rfl, hret⟩ := hrest.of_ret
    cases hret
    exact ⟨t, rfl⟩

theorem Ran.of_getOrFail {e : ε} {o : Option α} {a : α} (h : Ran (getOrFail e o) es (.ret a)) :
    es = [] ∧ o = some a := by
  cases o with
  | none => cases h.of_fail.2
  | some a' =>
    obtain ⟨rfl, hret⟩ := h.of_ret
    cases hret
    exact ⟨rfl, rfl⟩

theorem Ran.of_ofExcept {x : Except ε α} {a : α} (h : Ran (ofExcept x) es (.ret a)) :
    es = [] ∧ x = .ok a := by
  cases x with
  | error e => cases h.of_fail.2
  | ok a' =>
    obtain ⟨rfl, hret⟩ := h.of_ret
    cases hret
    exact ⟨rfl, rfl⟩

end Prog

/-! ## The threads of a run -/

/-- **The events of thread `t`**, oldest first. -/
def eventsOf (t : Nat) (trace : List (Event Res)) : List (Event Res) :=
  (trace.filter (·.tid == t)).reverse

theorem mem_eventsOf {t : Nat} {trace : List (Event Res)} {e : Event Res} :
    e ∈ eventsOf t trace ↔ e ∈ trace ∧ e.tid = t := by
  simp [eventsOf]

theorem made_iff_eventsOf {c : Config Res σ ρ ε α} {t : Nat} {op : Op} {a : Res op} :
    c.global.Made t op a ↔ (⟨t, op, a⟩ : Event Res) ∈ eventsOf t c.trace := by
  rw [mem_eventsOf]
  exact ⟨fun h => ⟨h, rfl⟩, And.left⟩

theorem eventsOf_cons_self {t : Nat} {trace : List (Event Res)} {e : Event Res} (h : e.tid = t) :
    eventsOf t (e :: trace) = eventsOf t trace ++ [e] := by
  simp [eventsOf, h]

theorem eventsOf_cons_ne {t : Nat} {trace : List (Event Res)} {e : Event Res} (h : e.tid ≠ t) :
    eventsOf t (e :: trace) = eventsOf t trace := by
  simp [eventsOf, h]

theorem eventsOf_split {t : Nat} {trace : List (Event Res)} {e : Event Res}
    {es es' : List (Event Res)} (h : eventsOf t trace = es ++ e :: es') :
    ∃ newer older, trace = newer ++ e :: older ∧ eventsOf t older = es := by
  have hfilter : trace.filter (·.tid == t) = es'.reverse ++ e :: es.reverse := by
    have hrev := congrArg List.reverse h
    rw [eventsOf, List.reverse_reverse] at hrev
    rw [hrev]
    simp
  obtain ⟨newer, rest, rfl, -, hrest⟩ := List.filter_eq_append_iff.mp hfilter
  obtain ⟨skipped, older, rfl, -, -, holder⟩ := List.filter_eq_cons_iff.mp hrest
  refine ⟨newer ++ skipped, older, by simp, ?_⟩
  rw [eventsOf, holder, List.reverse_reverse]

namespace System

variable {M : System Res σ ω ρ ε α}

/-- Every event has a thread, and every thread is what its events leave of its handler. -/
structure Replays (M : System Res σ ω ρ ε α) (c : Config Res σ ρ ε α) : Prop where
  numbered : ∀ e ∈ c.trace, e.tid < c.threads.length
  ran : ∀ t th, c.threads[t]? = some th →
    (M.program th.request).Ran (eventsOf t c.trace) th.body

theorem Replays.arrive {c : Config Res σ ρ ε α} (hc : Replays M c) (r : ρ) :
    Replays M (M.step c (.arrive r)) := by
  refine ⟨fun e he => ?_, fun t th hth => ?_⟩
  · have hlt : e.tid < c.threads.length := hc.numbered e he
    show e.tid < (c.threads ++ [_]).length
    rw [List.length_append]
    omega
  · rcases thread_of_arrive hth with hold | ⟨rfl, rfl⟩
    · exact hc.ran t th hold
    · have hnone : eventsOf c.threads.length c.trace = [] := by
        refine List.eq_nil_iff_forall_not_mem.mpr fun e he => ?_
        obtain ⟨hmem, htid⟩ := mem_eventsOf.mp he
        have := hc.numbered e hmem
        omega
      show (M.program r).Ran (eventsOf _ c.trace) _
      rw [hnone]
      exact Prog.Ran.rest (M.program r)

theorem Replays.call {c : Config Res σ ρ ε α} (hc : Replays M c) {tid : Nat} {r : ρ} {op : Op}
    {k : Res op → Prog Res ε α} (hget : c.threads[tid]? = some ⟨r, .call op k⟩) :
    Replays M (M.step c (.resume tid)) := by
  rw [step_resume_call hget]
  refine ⟨fun e he => ?_, fun t th hth => ?_⟩
  · show e.tid < (c.threads.set _ _).length
    rw [List.length_set]
    rcases List.mem_cons.mp he with rfl | he
    · exact (List.getElem?_eq_some_iff.mp hget).1
    · exact hc.numbered e he
  · rcases thread_of_set hth with ⟨rfl, rfl⟩ | ⟨hne, hold⟩
    · show (M.program r).Ran (eventsOf t (⟨t, op, _⟩ :: c.trace)) _
      rw [eventsOf_cons_self (t := t) (e := ⟨t, op, _⟩) rfl]
      exact (hc.ran t _ hget).snoc t _
    · show (M.program _).Ran (eventsOf t (⟨tid, op, _⟩ :: c.trace)) _
      rw [eventsOf_cons_ne hne.symm]
      exact hc.ran t th hold

theorem Replays.step {c : Config Res σ ρ ε α} (hc : Replays M c) (m : Move ω ρ) :
    Replays M (M.step c m) := by
  cases m with
  | drift e => exact ⟨hc.numbered, hc.ran⟩
  | arrive r => exact hc.arrive r
  | resume tid =>
    cases hget : c.threads[tid]? with
    | none =>
      have hidle : M.step c (.resume tid) = c := by simp [System.step, hget]
      rwa [hidle]
    | some th =>
      obtain ⟨r, body⟩ := th
      cases body with
      | ret a =>
        have hidle : M.step c (.resume tid) = c := by simp [System.step, hget]
        rwa [hidle]
      | fail e =>
        have hidle : M.step c (.resume tid) = c := by simp [System.step, hget]
        rwa [hidle]
      | call op k => exact hc.call hget

/-- **Every thread of a run** is what its events leave of its handler. -/
theorem replays_run (s : σ) (ms : List (Move ω ρ)) : Replays M (M.run (.start s) ms) := by
  have hrun {c : Config Res σ ρ ε α} (hc : Replays M c) : Replays M (M.run c ms) := by
    induction ms generalizing c with
    | nil => exact hc
    | cons m ms ih => exact ih (hc.step m)
  exact hrun ⟨fun e he => (List.not_mem_nil he).elim, fun t th hth => by cases hth⟩

theorem Replays.answered {c : Config Res σ ρ ε α} (hc : Replays M c) {t : Nat} {r : ρ} {a : α}
    (h : c.Answers t r a) : (M.program r).Ran (eventsOf t c.trace) (.ret a) := hc.ran t _ h

end System

end Concurrency
