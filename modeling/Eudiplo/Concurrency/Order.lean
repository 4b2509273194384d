import Eudiplo.Concurrency.System
import Mathlib.Data.List.Induction

/-!
# Whose events, and in which order

A handler that makes one call before another is, in the history of the run, a thread whose oldest
event is the first call.  `Global.First` names that event, which never changes once it is there.
-/

namespace Concurrency

variable {Op : Type} {Res : Op → Type} {σ ω ρ ε α : Type}
variable {M : System Res σ ω ρ ε α} {g g' g'' : Global Res σ ρ} {t tid : Nat} {op : Op}

namespace Global

/-- Thread `t` has taken no call yet. -/
def Silent (g : Global Res σ ρ) (t : Nat) : Prop := ∀ e ∈ g.trace, e.tid ≠ t

/-- **Every event belongs to a request that has arrived.** -/
def Numbered (g : Global Res σ ρ) : Prop := ∀ e ∈ g.trace, e.tid < g.requests.length

/-- Thread `t` took no call between `g` and `g'`. -/
def Quiet (t : Nat) (g g' : Global Res σ ρ) : Prop := ∀ e ∈ g'.trace, e.tid = t → e ∈ g.trace

/-- No event of thread `t` is one of `P`. -/
def Avoids (g : Global Res σ ρ) (t : Nat) (P : Event Res → Prop) : Prop :=
  ∀ e ∈ g.trace, e.tid = t → ¬P e

/-- The newest event of thread `t`. -/
def last (g : Global Res σ ρ) (t : Nat) : Option (Event Res) := g.trace.find? fun e => e.tid == t

/-- **The first event of its thread.** -/
def First (g : Global Res σ ρ) (e : Event Res) : Prop :=
  ∃ newer older, g.trace = newer ++ e :: older ∧ ∀ e' ∈ older, e'.tid ≠ e.tid

/-! ## Numbering -/

theorem numbered_start (s : σ) : (⟨s, [], []⟩ : Global Res σ ρ).Numbered :=
  fun _ hnone => (List.not_mem_nil hnone).elim

theorem Numbered.after (h : g.Numbered) {r : ρ} (hr : g.requests[tid]? = some r) :
    (M.after g tid op).Numbered := by
  intro e he
  have hlen : tid < g.requests.length := (List.getElem?_eq_some_iff.mp hr).1
  rcases List.mem_cons.mp he with rfl | hold
  · exact hlen
  · exact h e hold

theorem Numbered.arrive (h : g.Numbered) (r : ρ) : (g.arrive r).Numbered := by
  intro e he
  have hlen := h e he
  have hgrow : (g.arrive r).requests.length = g.requests.length + 1 := by
    simp [Global.arrive]
  omega

theorem Numbered.pass (h : g.Numbered) (e : ω) : (M.pass g e).Numbered := h

theorem Numbered.silent (h : g.Numbered) (r : ρ) : (g.arrive r).Silent g.requests.length := by
  intro e he heq
  have hlen := h e he
  omega

/-! ## What the others leave alone -/

theorem Quiet.refl (t : Nat) (g : Global Res σ ρ) : g.Quiet t g := fun _ he _ => he

theorem Quiet.trans (h : g.Quiet t g') (h' : g'.Quiet t g'') : g.Quiet t g'' :=
  fun e he ht => h e (h' e he ht) ht

theorem quiet_after (hne : t ≠ tid) : g.Quiet t (M.after g tid op) := by
  intro e he ht
  rcases List.mem_cons.mp he with rfl | hold
  · exact absurd ht.symm hne
  · exact hold

theorem quiet_arrive (t : Nat) (g : Global Res σ ρ) (r : ρ) : g.Quiet t (g.arrive r) :=
  fun _ he _ => he

theorem quiet_pass (t : Nat) (g : Global Res σ ρ) (e : ω) : g.Quiet t (M.pass g e) :=
  fun _ he _ => he

theorem Silent.later (h : g.Silent t) (hq : g.Quiet t g') : g'.Silent t :=
  fun e he ht => h e (hq e he ht) ht

theorem Silent.avoids (h : g.Silent t) (P : Event Res → Prop) : g.Avoids t P :=
  fun e he ht => absurd ht (h e he)

theorem Avoids.later {P : Event Res → Prop} (h : g.Avoids t P) (hq : g.Quiet t g') :
    g'.Avoids t P := fun e he ht => h e (hq e he ht) ht

theorem Avoids.after {P : Event Res → Prop} (h : g.Avoids t P)
    (hop : ¬P ⟨t, op, (M.answer op g.store).1⟩) : (M.after g t op).Avoids t P := by
  intro e he ht
  rcases List.mem_cons.mp he with rfl | hold
  · exact hop
  · exact h e hold ht

/-! ## Newest events -/

theorem last_mem {e : Event Res} (h : g.last t = some e) : e ∈ g.trace ∧ e.tid = t :=
  ⟨List.mem_of_find?_eq_some h, by simpa using List.find?_some h⟩

theorem last_after_self (g : Global Res σ ρ) (tid : Nat) (op : Op) :
    (M.after g tid op).last tid = some ⟨tid, op, (M.answer op g.store).1⟩ := by
  simp [last]

theorem last_after_other (hne : t ≠ tid) : (M.after g tid op).last t = g.last t := by
  simp [last, Ne.symm hne]

/-! ## First events -/

theorem First.mem {e : Event Res} (h : g.First e) : e ∈ g.trace := by
  obtain ⟨newer, older, htrace, -⟩ := h
  rw [htrace]
  simp

theorem First.extends {e : Event Res} (h : g.First e) (hext : g.Extends g') : g'.First e := by
  obtain ⟨newer, older, htrace, hfirst⟩ := h
  obtain ⟨more, hmore⟩ := hext.trace
  exact ⟨more ++ newer, older, by rw [← hmore, htrace, List.append_assoc], hfirst⟩

theorem Silent.first_after (h : g.Silent tid) :
    (M.after g tid op).First ⟨tid, op, (M.answer op g.store).1⟩ :=
  ⟨[], g.trace, rfl, h⟩

theorem first_of_find {e : Event Res}
    (h : g.trace.reverse.find? (fun e' => e'.tid == e.tid) = some e) : g.First e := by
  obtain ⟨-, older, newer, hsplit, hothers⟩ := List.find?_eq_some_iff_append.mp h
  refine ⟨newer.reverse, older.reverse, ?_, fun e' he' => ?_⟩
  · rw [← List.reverse_reverse g.trace, hsplit]
    simp
  · simpa using hothers e' (List.mem_reverse.mp he')

/-- **A thread has one first event.** -/
theorem First.unique {e e' : Event Res} (h : g.First e) (h' : g.First e')
    (ht : e.tid = e'.tid) : e = e' := by
  obtain ⟨newer, older, htrace, hfirst⟩ := h
  obtain ⟨newer', older', htrace', hfirst'⟩ := h'
  rw [htrace] at htrace'
  rcases List.append_eq_append_iff.mp htrace' with ⟨l, rfl, hl⟩ | ⟨l, rfl, hl⟩
  · cases l with
    | nil => exact (List.cons.inj hl).1
    | cons a l =>
      -- `e'` would lie among the events older than `e`
      have hmem : e' ∈ older := by
        rw [(List.cons.inj hl).2]
        simp
      exact absurd ht.symm (hfirst e' hmem)
  · cases l with
    | nil => exact (List.cons.inj hl).1.symm
    | cons a l =>
      have hmem : e ∈ older' := by
        rw [(List.cons.inj hl).2]
        simp
      exact absurd ht (hfirst' e hmem)

end Global

/-! ## Where in its schedule an event lies -/

namespace System

/-- **Every event of a run was answered at some position of its schedule.** -/
theorem run_event {c : Config Res σ ρ ε α} {ms : List (Move ω ρ)} {e : Event Res}
    (he : e ∈ (M.run c ms).trace) (hnew : e ∉ c.trace) :
    ∃ ms₁ ms₂ r k, ms = ms₁ ++ .resume e.tid :: ms₂ ∧
      (M.run c ms₁).threads[e.tid]? = some ⟨r, .call e.op k⟩ ∧
      e.res = (M.answer e.op (M.run c ms₁).store).1 := by
  induction ms generalizing c with
  | nil => exact absurd he hnew
  | cons m ms ih =>
    by_cases hstep : e ∈ (M.step c m).trace
    · cases m with
      | arrive r => exact absurd hstep hnew
      | drift n => exact absurd hstep hnew
      | resume tid =>
        rcases step_resume_cases (M := M) c tid with hidle | ⟨r, op, k, hget, hglob, -⟩
        · rw [hidle] at hstep
          exact absurd hstep hnew
        · have htrace : (M.step c (.resume tid)).trace = (M.after c.global tid op).trace :=
            congrArg Global.trace hglob
          rw [htrace] at hstep
          rcases List.mem_cons.mp hstep with rfl | hold
          · exact ⟨[], ms, r, k, rfl, hget, rfl⟩
          · exact absurd hold hnew
    · obtain ⟨ms₁, ms₂, r, k, rfl, hget, hres⟩ := ih he hstep
      exact ⟨m :: ms₁, ms₂, r, k, rfl, hget, hres⟩

/-- **Every event of a run is in the footprint of its request.** -/
theorem Footed.event {P : ρ → Op → Prop} (h : ∀ r, (M.program r).Only (P r))
    {c : Config Res σ ρ ε α} (hc : Footed P c) {ms : List (Move ω ρ)} {e : Event Res}
    (he : e ∈ (M.run c ms).trace) (hnew : e ∉ c.trace) :
    ∃ r, (M.run c ms).global.requests[e.tid]? = some r ∧ P r e.op := by
  obtain ⟨ms₁, ms₂, r, k, rfl, hget, -⟩ := run_event he hnew
  refine ⟨r, ?_, (hc.run h ms₁ e.tid _ hget).1⟩
  rw [run_append]
  exact (extends_run _ _).request (Config.global_request hget)

/-- **The position of an event**: what is older than it had happened when it was answered. -/
theorem run_position {s : σ} {ms : List (Move ω ρ)} {e : Event Res} {newer older : List (Event Res)}
    (h : (M.run (.start s) ms).trace = newer ++ e :: older) :
    ∃ ms₁ ms₂ r k, ms = ms₁ ++ .resume e.tid :: ms₂ ∧ (M.run (.start s) ms₁).trace = older ∧
      (M.run (.start s) ms₁).threads[e.tid]? = some ⟨r, .call e.op k⟩ ∧
      e.res = (M.answer e.op (M.run (.start s) ms₁).store).1 := by
  induction ms using List.reverseRecOn generalizing newer with
  | nil =>
    have hnil : newer ++ e :: older = [] := h.symm
    simp at hnil
  | append_singleton ms m ih =>
    -- unless the last move answered it, it has happened before
    have hbefore (newer' : List (Event Res))
        (h' : (M.run (.start s) ms).trace = newer' ++ e :: older) :
        ∃ ms₁ ms₂ r k, ms ++ [m] = ms₁ ++ .resume e.tid :: ms₂ ∧
          (M.run (.start s) ms₁).trace = older ∧
          (M.run (.start s) ms₁).threads[e.tid]? = some ⟨r, .call e.op k⟩ ∧
          e.res = (M.answer e.op (M.run (.start s) ms₁).store).1 := by
      obtain ⟨ms₁, ms₂, r, k, rfl, hrest⟩ := ih h'
      exact ⟨ms₁, ms₂ ++ [m], r, k, by simp, hrest⟩
    rw [run_append] at h
    cases m with
    | arrive r => exact hbefore newer h
    | drift n => exact hbefore newer h
    | resume tid =>
      rcases step_resume_cases (M := M) (M.run (.start s) ms) tid with
        hidle | ⟨r, op, k, hget, hglob, -⟩
      · exact hbefore newer (by rwa [← hidle])
      · have htrace := (congrArg Global.trace hglob).symm.trans h
        cases newer with
        | nil =>
          obtain ⟨rfl, rfl⟩ := List.cons.inj htrace
          exact ⟨ms, [], r, k, rfl, rfl, hget, rfl⟩
        | cons e' newer => exact hbefore newer (List.cons.inj htrace).2

theorem waiting_eq_some {c : Config Res σ ρ ε α} (h : waiting c tid = some op) :
    ∃ r k, c.threads[tid]? = some ⟨r, .call op k⟩ := by
  unfold waiting at h
  split at h
  · rename_i r op' k hget
    cases h
    exact ⟨r, k, hget⟩
  · cases h

theorem waiting_of_call {c : Config Res σ ρ ε α} {r : ρ} {k : Res op → Prog Res ε α}
    (h : c.threads[tid]? = some ⟨r, .call op k⟩) : waiting c tid = some op := by
  simp [waiting, h]

theorem step_waiting {c : Config Res σ ρ ε α} (h : waiting c tid = some op) :
    (M.step c (.resume tid)).global = M.after c.global tid op := by
  obtain ⟨r, k, hget⟩ := waiting_eq_some h
  rcases step_resume_cases (M := M) c tid with hidle | ⟨r', op', k', hget', hglob, -⟩
  · have hlen := congrArg (fun c => c.trace.length) hidle
    simp [step, hget] at hlen
  · rw [hget] at hget'
    cases hget'
    exact hglob

theorem waiting_event {c : Config Res σ ρ ε α} (h : waiting c tid = some op)
    (ms : List (Move ω ρ)) :
    (⟨tid, op, (M.answer op c.store).1⟩ : Event Res) ∈ (M.run c (.resume tid :: ms)).trace := by
  obtain ⟨r, k, hget⟩ := waiting_eq_some h
  have hstep : (⟨tid, op, (M.answer op c.store).1⟩ : Event Res) ∈
      (M.step c (.resume tid)).trace := by
    simp [step, hget]
  exact (extends_run (M := M) (M.step c (.resume tid)) ms).event hstep

/-- **What every guarded call, every arrival and every move of the surroundings keeps**, a
guarded schedule keeps. -/
theorem Guarded.keeps {ok : Global Res σ ρ → Nat → Op → Prop} {K : Global Res σ ρ → Prop}
    {c : Config Res σ ρ ε α} {ms : List (Move ω ρ)} (h : M.Guarded ok c ms) (hK : K c.global)
    (hcall : ∀ {g tid op}, ok g tid op → K g → K (M.after g tid op))
    (harrive : ∀ {g} r, K g → K (g.arrive r)) (hpass : ∀ {g} e, K g → K (M.pass g e)) :
    K (M.run c ms).global := by
  induction ms generalizing c with
  | nil => exact hK
  | cons m ms ih =>
    refine ih h.2 ?_
    cases m with
    | arrive r =>
      rw [step_arrive_global]
      exact harrive r hK
    | drift e => exact hpass e hK
    | resume tid =>
      rcases step_resume_cases (M := M) c tid with hidle | ⟨r, op, k, hget, hglob, -⟩
      · rwa [hidle]
      · rw [hglob]
        exact hcall (h.1 tid r op k rfl hget) hK

theorem Guarded.at {ok : Global Res σ ρ → Nat → Op → Prop} {c : Config Res σ ρ ε α}
    {ms₁ ms₂ : List (Move ω ρ)} {r : ρ} {k : Res op → Prog Res ε α}
    (h : M.Guarded ok c (ms₁ ++ .resume tid :: ms₂))
    (hget : (M.run c ms₁).threads[tid]? = some ⟨r, .call op k⟩) :
    ok (M.run c ms₁).global tid op :=
  (guarded_append.mp h).2.1 tid r op k rfl hget

/-! ## Conditions on whole states -/

/-- Thread `t` waits for a call. -/
def Running (c : Config Res σ ρ ε α) (t : Nat) : Prop :=
  ∃ r op k, c.threads[t]? = some ⟨r, .call op k⟩

variable (M)

/-- Every call along the schedule meets `ok` in the state it is answered in, threads
included. -/
def Along (ok : Config Res σ ρ ε α → Nat → Op → Prop) (c : Config Res σ ρ ε α) :
    List (Move ω ρ) → Prop
  | [] => True
  | m :: ms =>
    (∀ tid op, m = .resume tid → waiting c tid = some op → ok c tid op) ∧
      Along ok (M.step c m) ms

def alongChecks (check : Config Res σ ρ ε α → Nat → Op → Bool) (c : Config Res σ ρ ε α) :
    List (Move ω ρ) → Bool
  | [] => true
  | .resume tid :: ms =>
    (waiting c tid).all (check c tid) && alongChecks check (M.step c (.resume tid)) ms
  | m :: ms => alongChecks check (M.step c m) ms

variable {M}

theorem along_append {ok : Config Res σ ρ ε α → Nat → Op → Prop} {c : Config Res σ ρ ε α}
    {ms ms' : List (Move ω ρ)} :
    M.Along ok c (ms ++ ms') ↔ M.Along ok c ms ∧ M.Along ok (M.run c ms) ms' := by
  induction ms generalizing c with
  | nil => simp [Along]
  | cons m ms ih => simp [Along, ih, and_assoc]

theorem Along.and {ok ok' : Config Res σ ρ ε α → Nat → Op → Prop} {c : Config Res σ ρ ε α}
    {ms : List (Move ω ρ)} (h : M.Along ok c ms) (h' : M.Along ok' c ms) :
    M.Along (fun c tid op => ok c tid op ∧ ok' c tid op) c ms := by
  induction ms generalizing c with
  | nil => trivial
  | cons m ms ih =>
    exact ⟨fun _ _ hm hw => ⟨h.1 _ _ hm hw, h'.1 _ _ hm hw⟩, ih h.2 h'.2⟩

theorem Guarded.along {ok : Global Res σ ρ → Nat → Op → Prop} {c : Config Res σ ρ ε α}
    {ms : List (Move ω ρ)} (h : M.Guarded ok c ms) :
    M.Along (fun c tid op => ok c.global tid op) c ms := by
  induction ms generalizing c with
  | nil => trivial
  | cons m ms ih =>
    refine ⟨fun tid op hm hwait => ?_, ih h.2⟩
    obtain ⟨r, k, hget⟩ := waiting_eq_some hwait
    exact h.1 tid r op k hm hget

theorem along_of_checks {ok : Config Res σ ρ ε α → Nat → Op → Prop}
    {check : Config Res σ ρ ε α → Nat → Op → Bool}
    (h : ∀ c tid op, check c tid op = true → ok c tid op) {c : Config Res σ ρ ε α}
    {ms : List (Move ω ρ)} (hc : M.alongChecks check c ms = true) : M.Along ok c ms := by
  induction ms generalizing c with
  | nil => trivial
  | cons m ms ih =>
    cases m with
    | arrive r => exact ⟨fun _ _ hm => (nomatch hm), ih hc⟩
    | drift e => exact ⟨fun _ _ hm => (nomatch hm), ih hc⟩
    | resume tid =>
      rw [alongChecks, Bool.and_eq_true] at hc
      refine ⟨fun tid' op hm hwait => ?_, ih hc.2⟩
      cases hm
      exact h _ _ _ (by simpa [hwait] using hc.1)

/-- **What every such call, every arrival and every move of the surroundings keeps.** -/
theorem Along.keeps {ok : Config Res σ ρ ε α → Nat → Op → Prop} {K : Config Res σ ρ ε α → Prop}
    {c : Config Res σ ρ ε α} {ms : List (Move ω ρ)} (h : M.Along ok c ms) (hK : K c)
    (hcall : ∀ {c tid op}, waiting c tid = some op → ok c tid op → K c →
      K (M.step c (.resume tid)))
    (harrive : ∀ {c} r, K c → K (M.step c (.arrive r)))
    (hpass : ∀ {c} e, K c → K (M.step c (.drift e))) : K (M.run c ms) := by
  induction ms generalizing c with
  | nil => exact hK
  | cons m ms ih =>
    refine ih h.2 ?_
    cases m with
    | arrive r => exact harrive r hK
    | drift e => exact hpass e hK
    | resume tid =>
      rcases step_resume_cases (M := M) c tid with hidle | ⟨r, op, k, hget, -, -⟩
      · rwa [hidle]
      · have hwait : waiting c tid = some op := by simp [waiting, hget]
        exact hcall hwait (h.1 tid op rfl hwait) hK

theorem run_ended {c : Config Res σ ρ ε α} {t : Nat} {th : Thread Res ρ ε α}
    (h : c.threads[t]? = some th) (hend : ∀ op k, th.body ≠ .call op k) (ms : List (Move ω ρ)) :
    (M.run c ms).threads[t]? = some th := by
  induction ms generalizing c with
  | nil => exact h
  | cons m ms ih =>
    refine ih ?_
    cases m with
    | arrive r =>
      show (c.threads ++ [_])[t]? = some th
      rw [List.getElem?_append_left (List.getElem?_eq_some_iff.mp h).1, h]
    | drift e => exact h
    | resume tid =>
      rcases step_resume_cases (M := M) c tid with hidle | ⟨r, op, k, hget, -, hthr⟩
      · rwa [hidle]
      · have hne : tid ≠ t := by
          rintro rfl
          rw [h] at hget
          cases hget
          exact hend op k rfl
        rw [hthr, List.getElem?_set_ne hne, h]

theorem isSome_thread {c : Config Res σ ρ ε α} {t : Nat} {r : ρ}
    (h : c.global.requests[t]? = some r) : (c.threads[t]?).isSome = true := by
  rw [Config.global_requests, List.getElem?_map] at h
  obtain ⟨th, hth, -⟩ := Option.map_eq_some_iff.mp h
  rw [hth]
  rfl

/-- **A thread that still runs has run all along.** -/
theorem Running.along {c : Config Res σ ρ ε α} {t : Nat} {ms : List (Move ω ρ)}
    (h : Running (M.run c ms) t) (hthere : (c.threads[t]?).isSome = true) :
    M.Along (fun c _ _ => Running c t) c ms := by
  have hrunning {c : Config Res σ ρ ε α} {ms : List (Move ω ρ)} (h : Running (M.run c ms) t)
      (hthere : (c.threads[t]?).isSome = true) : Running c t := by
    obtain ⟨⟨r, body⟩, hth⟩ := Option.isSome_iff_exists.mp hthere
    obtain ⟨r', op, k, hget⟩ := h
    cases body with
    | call op' k' => exact ⟨r, op', k', hth⟩
    | ret a =>
      rw [run_ended hth (fun _ _ heq => (nomatch heq)) ms] at hget
      cases hget
    | fail e =>
      rw [run_ended hth (fun _ _ heq => (nomatch heq)) ms] at hget
      cases hget
  induction ms generalizing c with
  | nil => trivial
  | cons m ms ih =>
    refine ⟨fun _ _ _ _ => hrunning h hthere, ih h ?_⟩
    obtain ⟨th, hth⟩ := Option.isSome_iff_exists.mp hthere
    exact isSome_thread ((extends_step (M := M) c m).request (Config.global_request hth))

/-! ## Without interruption -/

variable (M)

/-- What is left of a handler after `n` calls nobody interrupts, and the store then. -/
def uninterrupted : Nat → Prog Res ε α → σ → Prog Res ε α × σ
  | 0, p, s => (p, s)
  | n + 1, .call op k, s => uninterrupted n (k (M.answer op s).1) (M.answer op s).2
  | _ + 1, p, s => (p, s)

variable {M}

theorem step_resume_call {c : Config Res σ ρ ε α} {r : ρ} {k : Res op → Prog Res ε α}
    (h : c.threads[tid]? = some ⟨r, .call op k⟩) :
    M.step c (.resume tid) = {
      store := (M.answer op c.store).2
      trace := ⟨tid, op, (M.answer op c.store).1⟩ :: c.trace
      threads := c.threads.set tid ⟨r, k (M.answer op c.store).1⟩ } := by
  simp [step, h]

/-- **A thread that is resumed over and over** is not interrupted. -/
theorem run_uninterrupted {c : Config Res σ ρ ε α} {r : ρ} {p : Prog Res ε α}
    (h : c.threads[t]? = some ⟨r, p⟩) (n : Nat) :
    (M.run c (List.replicate n (.resume t))).threads[t]? =
      some ⟨r, (M.uninterrupted n p c.store).1⟩ := by
  induction n generalizing c p with
  | zero => exact h
  | succ n ih =>
    rw [List.replicate_succ, run_cons]
    cases p with
    | call op k =>
      rw [step_resume_call h]
      obtain ⟨hlt, -⟩ := List.getElem?_eq_some_iff.mp h
      exact ih (List.getElem?_set_self hlt)
    | ret a =>
      have hidle : M.step c (.resume t) = c := by simp [step, h]
      have hrest := run_ended (M := M) h (fun _ _ heq => by cases heq)
        (List.replicate n (.resume t))
      rw [hidle, hrest]
      rfl
    | fail e =>
      have hidle : M.step c (.resume t) = c := by simp [step, h]
      have hrest := run_ended (M := M) h (fun _ _ heq => by cases heq)
        (List.replicate n (.resume t))
      rw [hidle, hrest]
      rfl

/-- **A request served at once.** -/
theorem answers_at_once {c : Config Res σ ρ ε α} {r : ρ} {n : Nat} {a : α}
    (h : (M.uninterrupted n (M.program r) c.store).1 = .ret a) :
    (M.run c (.arrive r :: List.replicate n (.resume c.threads.length))).Answers
      c.threads.length r a := by
  have hnew : (M.step c (.arrive r)).threads[c.threads.length]? = some ⟨r, M.program r⟩ :=
    List.getElem?_concat_length
  have hrun := run_uninterrupted (M := M) hnew n
  exact hrun.trans (congrArg (fun p => some (Thread.mk r p)) h)

end System

end Concurrency
