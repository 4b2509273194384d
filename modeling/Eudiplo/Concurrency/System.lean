import Eudiplo.Concurrency.Program

/-!
# Any number of handlers over one store

A `System` answers the calls of its handlers from one shared store, one call at a time.  Its runs
are *schedules*: lists of moves, where a move lets a new request arrive, lets one waiting handler
take its next call, or lets the surroundings change the store (time passing).

A handler that is never resumed again models a request that is still in flight,
and equally one that crashed: nothing below assumes that a request ends.

The state carries the *history* of the run beside the store: the requests in the
order they arrived (the position is the thread's number) and every answered call,
newest first.  Histories only grow (`Global.Extends`).
-/

namespace Concurrency

/-- The shared store of type `σ`: how it answers a call, what the surroundings may do
to it, and the handler of every request. -/
structure System {Op : Type} (Res : Op → Type) (σ ω ρ ε α : Type) where
  answer : (op : Op) → σ → Res op × σ
  drift : ω → σ → σ
  program : ρ → Prog Res ε α

structure Event {Op : Type} (Res : Op → Type) where
  tid : Nat
  op : Op
  res : Res op

structure Global {Op : Type} (Res : Op → Type) (σ ρ : Type) where
  store : σ
  requests : List ρ
  trace : List (Event Res)

structure Thread {Op : Type} (Res : Op → Type) (ρ ε α : Type) where
  request : ρ
  body : Prog Res ε α

structure Config {Op : Type} (Res : Op → Type) (σ ρ ε α : Type) where
  store : σ
  trace : List (Event Res)
  threads : List (Thread Res ρ ε α)

inductive Move (ω ρ : Type) where
  | arrive (r : ρ)
  | resume (tid : Nat)
  | drift (e : ω)

variable {Op : Type} {Res : Op → Type} {σ ω ρ ε α : Type}

/-! ## Histories -/

namespace Global

/-- The history of `g'` continues that of `g`. -/
structure Extends (g g' : Global Res σ ρ) : Prop where
  requests : g.requests <+: g'.requests
  trace : g.trace <:+ g'.trace

theorem Extends.refl (g : Global Res σ ρ) : g.Extends g := ⟨⟨[], by simp⟩, ⟨[], rfl⟩⟩

theorem Extends.trans {g₁ g₂ g₃ : Global Res σ ρ} (h : g₁.Extends g₂) (h' : g₂.Extends g₃) :
    g₁.Extends g₃ :=
  ⟨h.requests.trans h'.requests, h.trace.trans h'.trace⟩

theorem Extends.event {g g' : Global Res σ ρ} (h : g.Extends g') {e : Event Res}
    (he : e ∈ g.trace) : e ∈ g'.trace := h.trace.mem he

theorem Extends.request {g g' : Global Res σ ρ} (h : g.Extends g') {tid : Nat} {r : ρ}
    (hr : g.requests[tid]? = some r) : g'.requests[tid]? = some r := by
  obtain ⟨rest, hrest⟩ := h.requests
  rw [← hrest, List.getElem?_append_left (List.getElem?_eq_some_iff.mp hr).1]
  exact hr

theorem two_le_countP {g : Global Res σ ρ} {p : Event Res → Bool} {e e' : Event Res}
    (hne : e ≠ e') (he : e ∈ g.trace) (he' : e' ∈ g.trace) (h : p e = true)
    (h' : p e' = true) : 2 ≤ g.trace.countP p := by
  obtain ⟨newer, older, hsplit⟩ := List.append_of_mem he
  have hrest : 0 < newer.countP p + older.countP p := by
    rw [hsplit] at he'
    rcases List.mem_append.mp he' with hnew | hold
    · exact Nat.add_pos_left (List.countP_pos_iff.mpr ⟨e', hnew, h'⟩) _
    · rcases List.mem_cons.mp hold with heq | hold
      · exact absurd heq.symm hne
      · exact Nat.add_pos_right _ (List.countP_pos_iff.mpr ⟨e', hold, h'⟩)
  rw [hsplit, List.countP_append, List.countP_cons_of_pos h]
  omega


def arrive (g : Global Res σ ρ) (r : ρ) : Global Res σ ρ :=
  { g with requests := g.requests ++ [r] }

@[simp] theorem arrive_store (g : Global Res σ ρ) (r : ρ) : (g.arrive r).store = g.store := rfl

@[simp] theorem arrive_trace (g : Global Res σ ρ) (r : ρ) : (g.arrive r).trace = g.trace := rfl

theorem extends_arrive (g : Global Res σ ρ) (r : ρ) : g.Extends (g.arrive r) :=
  ⟨⟨[r], rfl⟩, ⟨[], rfl⟩⟩

theorem arrive_request (g : Global Res σ ρ) (r : ρ) :
    (g.arrive r).requests[g.requests.length]? = some r := by
  simp [arrive]

end Global

/-! ## Steps and runs -/

namespace System

variable (M : System Res σ ω ρ ε α)

/-- The shared state after thread `tid`'s call `op` was answered. -/
def after (g : Global Res σ ρ) (tid : Nat) (op : Op) : Global Res σ ρ :=
  { g with
    store := (M.answer op g.store).2
    trace := ⟨tid, op, (M.answer op g.store).1⟩ :: g.trace }

def pass (g : Global Res σ ρ) (e : ω) : Global Res σ ρ :=
  { g with store := M.drift e g.store }

variable {M}

@[simp] theorem after_store (g : Global Res σ ρ) (tid : Nat) (op : Op) :
    (M.after g tid op).store = (M.answer op g.store).2 := rfl

@[simp] theorem after_requests (g : Global Res σ ρ) (tid : Nat) (op : Op) :
    (M.after g tid op).requests = g.requests := rfl

@[simp] theorem after_trace (g : Global Res σ ρ) (tid : Nat) (op : Op) :
    (M.after g tid op).trace = ⟨tid, op, (M.answer op g.store).1⟩ :: g.trace := rfl

@[simp] theorem pass_store (g : Global Res σ ρ) (e : ω) :
    (M.pass g e).store = M.drift e g.store := rfl

@[simp] theorem pass_requests (g : Global Res σ ρ) (e : ω) :
    (M.pass g e).requests = g.requests := rfl

@[simp] theorem pass_trace (g : Global Res σ ρ) (e : ω) :
    (M.pass g e).trace = g.trace := rfl

theorem extends_after (g : Global Res σ ρ) (tid : Nat) (op : Op) :
    g.Extends (M.after g tid op) := ⟨⟨[], by simp⟩, ⟨[_], rfl⟩⟩

theorem extends_pass (g : Global Res σ ρ) (e : ω) : g.Extends (M.pass g e) :=
  ⟨⟨[], by simp⟩, ⟨[], rfl⟩⟩

end System

namespace Config

def global (c : Config Res σ ρ ε α) : Global Res σ ρ :=
  ⟨c.store, c.threads.map Thread.request, c.trace⟩

@[simp] theorem global_store (c : Config Res σ ρ ε α) : c.global.store = c.store := rfl

@[simp] theorem global_trace (c : Config Res σ ρ ε α) : c.global.trace = c.trace := rfl

@[simp] theorem global_requests (c : Config Res σ ρ ε α) :
    c.global.requests = c.threads.map Thread.request := rfl

def start (s : σ) : Config Res σ ρ ε α := ⟨s, [], []⟩

/-- Thread `tid` serves request `r` and has answered it with `a`. -/
def Answers (c : Config Res σ ρ ε α) (tid : Nat) (r : ρ) (a : α) : Prop :=
  c.threads[tid]? = some ⟨r, .ret a⟩

theorem answers_of_response {c : Config Res σ ρ ε α} {tid : Nat} {r : ρ} {a : α}
    (hr : c.global.requests[tid]? = some r)
    (ha : (c.threads[tid]?.bind fun t => t.body.response?) = some a) : c.Answers tid r a := by
  obtain ⟨⟨r', body⟩, hget, hbody⟩ := Option.bind_eq_some_iff.mp ha
  have hreq : r' = r := by simpa [hget] using hr
  have hret : body = .ret a := Prog.response?_eq_some.mp hbody
  rw [Answers, hget, hreq, hret]

theorem global_request {c : Config Res σ ρ ε α} {tid : Nat} {t : Thread Res ρ ε α}
    (h : c.threads[tid]? = some t) : c.global.requests[tid]? = some t.request := by
  simp [h]

end Config

namespace System

variable (M : System Res σ ω ρ ε α)

/-- **One move.** A thread that has returned or thrown, and a number no request
has, are not resumed. -/
def step (c : Config Res σ ρ ε α) : Move ω ρ → Config Res σ ρ ε α
  | .arrive r => { c with threads := c.threads ++ [⟨r, M.program r⟩] }
  | .drift e => { c with store := M.drift e c.store }
  | .resume tid =>
    match c.threads[tid]? with
    | some ⟨r, .call op k⟩ =>
      { store := (M.answer op c.store).2
        trace := ⟨tid, op, (M.answer op c.store).1⟩ :: c.trace
        threads := c.threads.set tid ⟨r, k (M.answer op c.store).1⟩ }
    | _ => c

def run (c : Config Res σ ρ ε α) (ms : List (Move ω ρ)) : Config Res σ ρ ε α :=
  ms.foldl M.step c

variable {M}

@[simp] theorem run_nil (c : Config Res σ ρ ε α) : M.run c [] = c := rfl

@[simp] theorem run_cons (c : Config Res σ ρ ε α) (m : Move ω ρ) (ms : List (Move ω ρ)) :
    M.run c (m :: ms) = M.run (M.step c m) ms := rfl

theorem run_append (c : Config Res σ ρ ε α) (ms ms' : List (Move ω ρ)) :
    M.run c (ms ++ ms') = M.run (M.run c ms) ms' := List.foldl_append

/-- **What a resumed thread does**: nothing, or exactly one answered call. -/
theorem step_resume_cases (c : Config Res σ ρ ε α) (tid : Nat) :
    M.step c (.resume tid) = c ∨
      ∃ r op k, c.threads[tid]? = some ⟨r, .call op k⟩ ∧
        (M.step c (.resume tid)).global = M.after c.global tid op ∧
        (M.step c (.resume tid)).threads =
          c.threads.set tid ⟨r, k (M.answer op c.store).1⟩ := by
  rcases h : c.threads[tid]? with _ | ⟨r, a | e | ⟨op, k⟩⟩
  · exact .inl (by simp [step, h])
  · exact .inl (by simp [step, h])
  · exact .inl (by simp [step, h])
  · refine .inr ⟨r, op, k, rfl, ?_, by simp [step, h]⟩
    have hreq : (c.threads.map Thread.request)[tid]? = some r := by simp [h]
    obtain ⟨hlt, hget⟩ := List.getElem?_eq_some_iff.mp hreq
    have hset : (c.threads.map Thread.request).set tid r = c.threads.map Thread.request := by
      conv_lhs => rw [← hget]
      exact List.set_getElem_self hlt
    simp [step, h, Config.global, after, List.map_set, hset]

/-- A thread after an arrival was there before, or is the new one under the next number. -/
theorem thread_of_arrive {c : Config Res σ ρ ε α} {r : ρ} {tid : Nat} {t : Thread Res ρ ε α}
    (ht : (M.step c (.arrive r)).threads[tid]? = some t) :
    c.threads[tid]? = some t ∨ tid = c.threads.length ∧ t = ⟨r, M.program r⟩ := by
  have hthreads : (M.step c (.arrive r)).threads = c.threads ++ [⟨r, M.program r⟩] := rfl
  rw [hthreads, List.getElem?_append] at ht
  split at ht
  · exact .inl ht
  · rename_i hge
    obtain ⟨hlt, rfl⟩ := List.getElem?_eq_some_iff.mp ht
    rw [List.length_singleton] at hlt
    exact .inr ⟨by omega, List.getElem_singleton hlt⟩

theorem thread_of_set {threads : List (Thread Res ρ ε α)} {tid tid' : Nat}
    {t t' : Thread Res ρ ε α} (ht : (threads.set tid' t')[tid]? = some t) :
    tid = tid' ∧ t = t' ∨ tid ≠ tid' ∧ threads[tid]? = some t := by
  rw [List.getElem?_set] at ht
  split at ht
  · rename_i heq
    split at ht
    · exact .inl ⟨heq.symm, (Option.some.inj ht).symm⟩
    · cases ht
  · rename_i hne
    exact .inr ⟨Ne.symm hne, ht⟩

@[simp] theorem step_arrive_global (c : Config Res σ ρ ε α) (r : ρ) :
    (M.step c (.arrive r)).global = c.global.arrive r := by
  simp [step, Config.global, Global.arrive]

@[simp] theorem step_drift_global (c : Config Res σ ρ ε α) (e : ω) :
    (M.step c (.drift e)).global = M.pass c.global e := rfl

theorem extends_step (c : Config Res σ ρ ε α) (m : Move ω ρ) :
    c.global.Extends (M.step c m).global := by
  cases m with
  | arrive r => rw [step_arrive_global]; exact Global.extends_arrive _ r
  | drift e => exact extends_pass _ e
  | resume tid =>
    rcases step_resume_cases (M := M) c tid with h | ⟨r, op, k, -, h, -⟩
    · rw [h]; exact .refl _
    · rw [h]; exact extends_after _ tid op

/-- **Histories only grow** along a schedule. -/
theorem extends_run (c : Config Res σ ρ ε α) (ms : List (Move ω ρ)) :
    c.global.Extends (M.run c ms).global := by
  induction ms generalizing c with
  | nil => exact .refl _
  | cons m ms ih => exact (extends_step c m).trans (ih _)

def arrived : Move ω ρ → Option ρ
  | .arrive r => some r
  | _ => none

/-- **The requests of a run** are those of its schedule, in their order. -/
theorem run_requests (c : Config Res σ ρ ε α) (ms : List (Move ω ρ)) :
    (M.run c ms).global.requests = c.global.requests ++ ms.filterMap arrived := by
  induction ms generalizing c with
  | nil => simp
  | cons m ms ih =>
    have hstep : (M.step c m).global.requests = c.global.requests ++ (arrived m).toList := by
      cases m with
      | arrive r =>
        rw [step_arrive_global]
        rfl
      | drift e => simp [arrived]
      | resume tid =>
        rcases step_resume_cases (M := M) c tid with hidle | ⟨r, op, k, -, hglob, -⟩
        · rw [hidle]
          simp [arrived]
        · rw [hglob]
          simp [arrived]
    rw [run_cons, ih, hstep, List.append_assoc]
    cases m <;> rfl

/-! ## Footprints along a run -/

/-- Every handler still only makes calls its request allows. -/
def Footed (P : ρ → Op → Prop) (c : Config Res σ ρ ε α) : Prop :=
  ∀ (tid : Nat) (t : Thread Res ρ ε α), c.threads[tid]? = some t → t.body.Only (P t.request)

theorem footed_start (P : ρ → Op → Prop) (s : σ) :
    Footed P (Config.start s : Config Res σ ρ ε α) :=
  fun tid t ht => by simp [Config.start] at ht

theorem Footed.step {P : ρ → Op → Prop} (h : ∀ r, (M.program r).Only (P r))
    {c : Config Res σ ρ ε α} (hc : Footed P c) (m : Move ω ρ) : Footed P (M.step c m) := by
  intro tid t ht
  cases m with
  | arrive r =>
    rcases thread_of_arrive ht with hold | ⟨-, rfl⟩
    · exact hc tid t hold
    · exact h r
  | drift e => exact hc tid t ht
  | resume tid' =>
    rcases step_resume_cases (M := M) c tid' with hstep | ⟨r, op, k, hget, -, hthr⟩
    · exact hc tid t (hstep ▸ ht)
    · rw [hthr] at ht
      rcases thread_of_set ht with ⟨-, rfl⟩ | ⟨-, hold⟩
      · exact (hc tid' _ hget).2 _
      · exact hc tid t hold

/-- **Every handler of a run stays within its footprint.** -/
theorem Footed.run {P : ρ → Op → Prop} (h : ∀ r, (M.program r).Only (P r))
    {c : Config Res σ ρ ε α} (hc : Footed P c) (ms : List (Move ω ρ)) :
    Footed P (M.run c ms) := by
  induction ms generalizing c with
  | nil => exact hc
  | cons m ms ih => exact ih (hc.step h m)

/-! ## Schedules under a condition -/

variable (M)

/-- Every call answered along the schedule meets `ok` in the state it is answered in. -/
def Guarded (ok : Global Res σ ρ → Nat → Op → Prop) (c : Config Res σ ρ ε α) :
    List (Move ω ρ) → Prop
  | [] => True
  | m :: ms =>
    (∀ tid r op k, m = .resume tid → c.threads[tid]? = some ⟨r, .call op k⟩ →
      ok c.global tid op) ∧ Guarded ok (M.step c m) ms

/-- The call thread `tid` waits for, if it waits for one. -/
def waiting (c : Config Res σ ρ ε α) (tid : Nat) : Option Op :=
  match c.threads[tid]? with
  | some ⟨_, .call op _⟩ => some op
  | _ => none

def checks (check : Global Res σ ρ → Nat → Op → Bool) (c : Config Res σ ρ ε α) :
    List (Move ω ρ) → Bool
  | [] => true
  | .resume tid :: ms =>
    (waiting c tid).all (check c.global tid) && checks check (M.step c (.resume tid)) ms
  | m :: ms => checks check (M.step c m) ms

/-- Every request that arrives along the schedule meets `ok`. -/
def Arrivals (ok : ρ → Prop) (ms : List (Move ω ρ)) : Prop := ∀ r, Move.arrive r ∈ ms → ok r

variable {M}

theorem Arrivals.tail {ok : ρ → Prop} {m : Move ω ρ} {ms : List (Move ω ρ)}
    (h : Arrivals ok (m :: ms)) : Arrivals ok ms := fun r hr => h r (by simp [hr])

theorem Arrivals.request {ok : ρ → Prop} {s : σ} {ms : List (Move ω ρ)} (h : Arrivals ok ms)
    {tid : Nat} {t : Thread Res ρ ε α}
    (ht : (M.run (.start s) ms).threads[tid]? = some t) : ok t.request := by
  have hreq := Config.global_request ht
  rw [run_requests] at hreq
  obtain ⟨m, hm, harrived⟩ := List.mem_filterMap.mp (List.mem_of_getElem? hreq)
  cases m with
  | arrive r =>
    cases harrived
    exact h _ hm
  | resume tid => cases harrived
  | drift e => cases harrived

theorem arrivals_of_all {check : ρ → Bool} {ms : List (Move ω ρ)}
    (h : (ms.all fun | .arrive r => check r | _ => true) = true) :
    Arrivals (fun r => check r = true) ms := fun _ hr => List.all_eq_true.mp h _ hr

theorem guarded_append {ok : Global Res σ ρ → Nat → Op → Prop} {c : Config Res σ ρ ε α}
    {ms ms' : List (Move ω ρ)} :
    M.Guarded ok c (ms ++ ms') ↔ M.Guarded ok c ms ∧ M.Guarded ok (M.run c ms) ms' := by
  induction ms generalizing c with
  | nil => simp [Guarded]
  | cons m ms ih => simp [Guarded, ih, and_assoc]

theorem Guarded.mono {ok ok' : Global Res σ ρ → Nat → Op → Prop}
    (h : ∀ g tid op, ok g tid op → ok' g tid op) {c : Config Res σ ρ ε α}
    {ms : List (Move ω ρ)} (hc : M.Guarded ok c ms) : M.Guarded ok' c ms := by
  induction ms generalizing c with
  | nil => trivial
  | cons m ms ih => exact ⟨fun _ _ _ _ hm hget => h _ _ _ (hc.1 _ _ _ _ hm hget), ih hc.2⟩

theorem Guarded.and {ok ok' : Global Res σ ρ → Nat → Op → Prop} {c : Config Res σ ρ ε α}
    {ms : List (Move ω ρ)} (h : M.Guarded ok c ms) (h' : M.Guarded ok' c ms) :
    M.Guarded (fun g tid op => ok g tid op ∧ ok' g tid op) c ms := by
  induction ms generalizing c with
  | nil => trivial
  | cons m ms ih =>
    exact ⟨fun _ _ _ _ hm hget => ⟨h.1 _ _ _ _ hm hget, h'.1 _ _ _ _ hm hget⟩, ih h.2 h'.2⟩

theorem Footed.guarded {P : ρ → Op → Prop} (h : ∀ r, (M.program r).Only (P r))
    {c : Config Res σ ρ ε α} (hc : Footed P c) (ms : List (Move ω ρ)) :
    M.Guarded (fun g tid op => ∃ r, g.requests[tid]? = some r ∧ P r op) c ms := by
  induction ms generalizing c with
  | nil => trivial
  | cons m ms ih =>
    refine ⟨fun tid r op k _ hget => ?_, ih (hc.step h m)⟩
    exact ⟨r, Config.global_request hget, (hc tid _ hget).1⟩

theorem guarded_of_checks {ok : Global Res σ ρ → Nat → Op → Prop}
    {check : Global Res σ ρ → Nat → Op → Bool}
    (h : ∀ g tid op, check g tid op = true → ok g tid op) {c : Config Res σ ρ ε α}
    {ms : List (Move ω ρ)} (hc : M.checks check c ms = true) : M.Guarded ok c ms := by
  induction ms generalizing c with
  | nil => trivial
  | cons m ms ih =>
    cases m with
    | arrive r => exact ⟨fun _ _ _ _ hm => (nomatch hm), ih hc⟩
    | drift e => exact ⟨fun _ _ _ _ hm => (nomatch hm), ih hc⟩
    | resume tid =>
      rw [checks, Bool.and_eq_true] at hc
      refine ⟨fun tid' r op k hm hget => ?_, ih hc.2⟩
      cases hm
      have hwait : waiting c tid = some op := by simp [waiting, hget]
      exact h _ _ _ (by simpa [hwait] using hc.1)

theorem guarded_of_forall {ok : Global Res σ ρ → Nat → Op → Prop}
    (h : ∀ g tid op, ok g tid op) (c : Config Res σ ρ ε α) (ms : List (Move ω ρ)) :
    M.Guarded ok c ms := by
  induction ms generalizing c with
  | nil => trivial
  | cons m ms ih => exact ⟨fun _ _ _ _ _ _ => h _ _ _, ih _⟩

end System

end Concurrency
