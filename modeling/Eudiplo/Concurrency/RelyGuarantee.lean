import Eudiplo.Concurrency.Evidence

/-!
# Rely–guarantee reasoning for handlers

A proof about every schedule must not enumerate schedules.  A `Discipline` splits
it into facts about one call and facts about one handler:

- `inv` — what holds of the shared state between any two calls;
- `may` — what a thread must have established before a call (its *guarantee*),
  possibly helped by `admits`, a condition the schedule itself is assumed to meet;
- `rely` — what thread `t` keeps knowing while the *others* take calls;
- `step`, `arrive`, `pass` — one call that `may` happen, one arrival and one move
  of the surroundings keep `inv` and respect the others' `rely`.

A handler is `Safe` when, answered in any state the others can bring about, every
call it reaches `may` happen and every value it returns satisfies the
postcondition.  `Safe` is proved along the text of the handler (`Safe.bind`,
`Safe.call`), one lemma a function, and `Discipline.run_holds` turns it into a
statement about every run.
-/

namespace Concurrency

variable {Op : Type} {Res : Op → Type} {σ ω ρ ε α β γ : Type}
variable {M : System Res σ ω ρ ε α}

/-- **A discipline** on the calls of a system. -/
structure Discipline (M : System Res σ ω ρ ε α) where
  inv : Global Res σ ρ → Prop
  rely : Nat → Global Res σ ρ → Global Res σ ρ → Prop
  admits : Global Res σ ρ → Nat → Op → Prop
  may : Global Res σ ρ → Nat → Op → Prop
  allowed : ρ → Prop
  post : Nat → ρ → Global Res σ ρ → α → Prop
  rely_refl : ∀ tid g, rely tid g g
  rely_trans : ∀ {tid g₁ g₂ g₃}, rely tid g₁ g₂ → rely tid g₂ g₃ → rely tid g₁ g₃
  step : ∀ {g tid r op}, inv g → g.requests[tid]? = some r → admits g tid op → may g tid op →
    inv (M.after g tid op) ∧ ∀ t, t ≠ tid → rely t g (M.after g tid op)
  arrive : ∀ {g r}, inv g → allowed r →
    inv (g.arrive r) ∧ ∀ t, t < g.requests.length → rely t g (g.arrive r)
  pass : ∀ {g} e, inv g → inv (M.pass g e) ∧ ∀ t, rely t g (M.pass g e)

namespace Discipline

variable (D : Discipline M)

/-- `g'` is a state the other threads can have brought about since `g`. -/
structure Later (tid : Nat) (g g' : Global Res σ ρ) : Prop where
  hist : g.Extends g'
  rely : D.rely tid g g'
  inv : D.inv g'

variable {D}

theorem Later.refl {tid : Nat} {g : Global Res σ ρ} (h : D.inv g) : D.Later tid g g :=
  ⟨.refl g, D.rely_refl tid g, h⟩

theorem Later.trans {tid : Nat} {g₁ g₂ g₃ : Global Res σ ρ} (h : D.Later tid g₁ g₂)
    (h' : D.Later tid g₂ g₃) : D.Later tid g₁ g₃ :=
  ⟨h.hist.trans h'.hist, D.rely_trans h.rely h'.rely, h'.inv⟩

/-- Thread `tid` serves `r`, and the invariant holds. -/
structure At (D : Discipline M) (tid : Nat) (r : ρ) (g : Global Res σ ρ) : Prop where
  inv : D.inv g
  request : g.requests[tid]? = some r

theorem At.later {tid : Nat} {r : ρ} {g g' : Global Res σ ρ} (h : D.At tid r g)
    (hl : D.Later tid g g') : D.At tid r g' := ⟨hl.inv, hl.hist.request h.request⟩

theorem At.after {tid : Nat} {r : ρ} {g : Global Res σ ρ} {op : Op} (h : D.At tid r g)
    (hadm : D.admits g tid op) (hmay : D.may g tid op) : D.At tid r (M.after g tid op) :=
  ⟨(D.step h.inv h.request hadm hmay).1, h.request⟩

variable (D)

/-- **Safety of one handler** run by thread `tid` from `g`: whatever the others do
before each of its calls, the call `may` happen, and a returned value satisfies
`Q`. -/
def Safe (tid : Nat) (Q : Global Res σ ρ → β → Prop) :
    Prog Res ε β → Global Res σ ρ → Prop
  | .ret a, g => ∀ g', D.Later tid g g' → Q g' a
  | .fail _, _ => True
  | .call op k, g => ∀ g', D.Later tid g g' → D.admits g' tid op →
      D.may g' tid op ∧
        Safe tid Q (k (M.answer op g'.store).1) (M.after g' tid op)

variable {D} {tid : Nat} {r : ρ} {g : Global Res σ ρ}
variable {Q : Global Res σ ρ → β → Prop} {R : Global Res σ ρ → γ → Prop}

/-! ## Rules -/

theorem Safe.mono {p : Prog Res ε β} {g' : Global Res σ ρ} (h : D.Safe tid Q p g)
    (hl : D.Later tid g g') : D.Safe tid Q p g' := by
  cases p with
  | ret a => exact fun g'' h'' => h g'' (hl.trans h'')
  | fail e => trivial
  | call op k => exact fun g'' h'' => h g'' (hl.trans h'')

theorem Safe.ret {a : β} (h : ∀ g', D.Later tid g g' → Q g' a) :
    D.Safe tid Q (.ret a : Prog Res ε β) g := h

@[simp] theorem safe_fail (e : ε) : D.Safe tid Q (.fail e : Prog Res ε β) g := trivial

theorem Safe.call {op : Op} {k : Res op → Prog Res ε β}
    (h : ∀ g', D.Later tid g g' → D.admits g' tid op → D.may g' tid op ∧
      D.Safe tid Q (k (M.answer op g'.store).1) (M.after g' tid op)) :
    D.Safe tid Q (.call op k) g := h

theorem Safe.invoke {op : Op} {Q : Global Res σ ρ → Res op → Prop}
    (h : ∀ g', D.Later tid g g' → D.admits g' tid op → D.may g' tid op ∧
      ∀ g'', D.Later tid (M.after g' tid op) g'' → Q g'' (M.answer op g'.store).1) :
    D.Safe tid Q (Prog.invoke op : Prog Res ε (Res op)) g := h

/-- **Sequencing.** The first part's postcondition is all the second part starts
from; the history it left behind is kept. -/
theorem Safe.bind {p : Prog Res ε γ} {f : γ → Prog Res ε β} (hg : D.At tid r g)
    (hp : D.Safe tid R p g)
    (hf : ∀ a g', g.Extends g' → D.At tid r g' → R g' a → D.Safe tid Q (f a) g') :
    D.Safe tid Q (p.bind f) g := by
  induction p generalizing g with
  | ret a => exact hf a g (.refl g) hg (hp g (.refl hg.inv))
  | fail e => trivial
  | call op k ih =>
    intro g' hl hadm
    obtain ⟨hmay, hk⟩ := hp g' hl hadm
    refine ⟨hmay, ih _ ((hg.later hl).after hadm hmay) hk fun a g'' hx => ?_⟩
    exact hf a g'' ((hl.hist.trans (System.extends_after _ _ _)).trans hx)

theorem Safe.imp {p : Prog Res ε β} {Q' : Global Res σ ρ → β → Prop} (hg : D.At tid r g)
    (hp : D.Safe tid Q p g)
    (h : ∀ a g', g.Extends g' → D.At tid r g' → Q g' a → Q' g' a) : D.Safe tid Q' p g := by
  induction p generalizing g with
  | ret a => exact fun g' hl => h a g' hl.hist (hg.later hl) (hp g' hl)
  | fail e => trivial
  | call op k ih =>
    intro g' hl hadm
    obtain ⟨hmay, hk⟩ := hp g' hl hadm
    refine ⟨hmay, ih _ ((hg.later hl).after hadm hmay) hk fun a g'' hx => ?_⟩
    exact h a g'' ((hl.hist.trans (System.extends_after _ _ _)).trans hx)

theorem Safe.ensure {check : Bool} {e : ε} {f : Unit → Prog Res ε β}
    (h : check = true → D.Safe tid Q (f ()) g) :
    D.Safe tid Q ((Prog.ensure check e).bind f) g := by
  cases check with
  | true => exact h rfl
  | false => trivial

theorem Safe.check {check : Bool} {e : ε} {Q : Global Res σ ρ → Unit → Prop}
    (h : check = true → ∀ g', D.Later tid g g' → Q g' ()) :
    D.Safe tid Q (Prog.ensure check e : Prog Res ε Unit) g := by
  cases check with
  | true => exact h rfl
  | false => trivial

theorem Safe.getOrFail {o : Option γ} {e : ε} {f : γ → Prog Res ε β}
    (h : ∀ a, o = some a → D.Safe tid Q (f a) g) :
    D.Safe tid Q ((Prog.getOrFail e o).bind f) g := by
  cases o with
  | some a => exact h a rfl
  | none => trivial

theorem Safe.require {o : Option β} {e : ε}
    (h : ∀ a, o = some a → ∀ g', D.Later tid g g' → Q g' a) :
    D.Safe tid Q (Prog.getOrFail e o : Prog Res ε β) g := by
  cases o with
  | some a => exact h a rfl
  | none => trivial

theorem Safe.ofExcept {x : Except ε γ} {f : γ → Prog Res ε β}
    (h : ∀ a, x = .ok a → D.Safe tid Q (f a) g) :
    D.Safe tid Q ((Prog.ofExcept x).bind f) g := by
  cases x with
  | ok a => exact h a rfl
  | error e => trivial

theorem Safe.attempt {p : Prog Res ε β} (hp : D.Safe tid Q p g) :
    D.Safe tid (fun g' x => ∀ a, x = .ok a → Q g' a) p.attempt g := by
  induction p generalizing g with
  | ret a =>
    intro g' hl x hx
    cases hx
    exact hp g' hl
  | fail e => exact fun _ _ _ hx => nomatch hx
  | call op k ih =>
    intro g' hl hadm
    obtain ⟨hmay, hk⟩ := hp g' hl hadm
    exact ⟨hmay, ih _ hk⟩

theorem Safe.of_yields {P : Op → Prop} {p : Prog Res ε β} (hg : D.At tid r g) (hp : p.Only P)
    (h : ∀ g' op, g.Extends g' → D.At tid r g' → P op → D.admits g' tid op →
      D.may g' tid op) (hy : M.Yields tid Q p g) : D.Safe tid Q p g := by
  induction p generalizing g with
  | ret a => exact fun g' hl => hy g' hl.hist
  | fail e => trivial
  | call op k ih =>
    intro g' hl hadm
    have hmay := h g' op hl.hist (hg.later hl) hp.1 hadm
    refine ⟨hmay, ih _ ((hg.later hl).after hadm hmay) (hp.2 _) (fun g'' op' hx => ?_)
      (hy g' hl.hist)⟩
    exact h g'' op' ((hl.hist.trans (System.extends_after _ _ _)).trans hx)

theorem Safe.keep {P : Op → Prop} {K : Global Res σ ρ → Prop} {p : Prog Res ε β}
    (hg : D.At tid r g) (hp : p.Only P)
    (h : ∀ g' op, g.Extends g' → D.At tid r g' → P op → D.admits g' tid op → D.may g' tid op)
    (hK : K g) (hlater : ∀ {g g'}, D.Later tid g g' → K g → K g')
    (hstep : ∀ {g' op}, P op → K g' → K (M.after g' tid op)) (hy : M.Yields tid Q p g) :
    D.Safe tid (fun g' a => K g' ∧ Q g' a) p g := by
  induction p generalizing g with
  | ret a => exact fun g' hl => ⟨hlater hl hK, hy g' hl.hist⟩
  | fail e => trivial
  | call op k ih =>
    intro g' hl hadm
    have hmay := h g' op hl.hist (hg.later hl) hp.1 hadm
    refine ⟨hmay, ih _ ((hg.later hl).after hadm hmay) (hp.2 _) (fun g'' op' hx => ?_)
      (hstep hp.1 (hlater hl hK)) (hy g' hl.hist)⟩
    exact h g'' op' ((hl.hist.trans (System.extends_after _ _ _)).trans hx)

theorem Safe.of_only {P : Op → Prop} {p : Prog Res ε β} (hg : D.At tid r g) (hp : p.Only P)
    (h : ∀ g' op, g.Extends g' → D.At tid r g' → P op → D.admits g' tid op →
      D.may g' tid op) : D.Safe tid (fun _ _ => True) p g :=
  .of_yields hg hp h (System.yields_true p)

theorem Safe.each {K : Global Res σ ρ → Prop} {f : γ → Prog Res ε Unit} {bs : List γ}
    (hg : D.At tid r g) (hK : K g) (hlater : ∀ {g g'}, D.Later tid g g' → K g → K g')
    (hf : ∀ b ∈ bs, ∀ g', D.At tid r g' → K g' → D.Safe tid (fun g'' _ => K g'') (f b) g') :
    D.Safe tid (fun g' _ => K g') (Prog.each f bs) g := by
  induction bs generalizing g with
  | nil => exact fun g' hl => hlater hl hK
  | cons b bs ih =>
    refine (hf b List.mem_cons_self g hg hK).bind hg fun _ g' _ hg' hK' => ?_
    exact ih hg' hK' fun b' hb' => hf b' (List.mem_cons_of_mem b hb')

/-! ## Soundness -/

variable (D)

/-- Every request the discipline allows is served by a safe handler, whenever it arrives. -/
def Verified : Prop :=
  ∀ (g : Global Res σ ρ) (r : ρ), D.inv g → D.allowed r → D.At g.requests.length r (g.arrive r) →
    D.Safe g.requests.length (D.post g.requests.length r) (M.program r) (g.arrive r)

/-- The invariant holds and every thread is safe from here on. -/
structure Holds (c : Config Res σ ρ ε α) : Prop where
  inv : D.inv c.global
  safe : ∀ tid t, c.threads[tid]? = some t → D.Safe tid (D.post tid t.request) t.body c.global

variable {D}

theorem holds_start {s : σ} (h : D.inv ⟨s, [], []⟩) : D.Holds (Config.start s) :=
  ⟨h, fun tid t ht => by simp [Config.start] at ht⟩

theorem Holds.step {c : Config Res σ ρ ε α} (hv : D.Verified) (hc : D.Holds c) {m : Move ω ρ}
    (harr : ∀ r, m = .arrive r → D.allowed r)
    (hadm : ∀ tid r op k, m = .resume tid → c.threads[tid]? = some ⟨r, .call op k⟩ →
      D.admits c.global tid op) : D.Holds (M.step c m) := by
  cases m with
  | arrive r =>
    obtain ⟨hinv, hrely⟩ := D.arrive hc.inv (harr r rfl)
    refine ⟨by rwa [System.step_arrive_global], fun tid t ht => ?_⟩
    rw [System.step_arrive_global]
    rcases System.thread_of_arrive ht with hold | ⟨rfl, rfl⟩
    · have hlt := (List.getElem?_eq_some_iff.mp hold).1
      exact (hc.safe tid t hold).mono
        ⟨Global.extends_arrive _ r, hrely tid (by simpa using hlt), hinv⟩
    · -- the new thread has the next free number
      simpa using hv c.global r hc.inv (harr r rfl) ⟨hinv, Global.arrive_request _ r⟩
  | drift e =>
    obtain ⟨hinv, hrely⟩ := D.pass e hc.inv
    refine ⟨hinv, fun tid t ht => ?_⟩
    exact (hc.safe tid t ht).mono ⟨System.extends_pass _ e, hrely tid, hinv⟩
  | resume tid =>
    rcases System.step_resume_cases (M := M) c tid with h | ⟨r, op, k, hget, hglob, hthr⟩
    · rwa [h]
    · have hok := hadm tid r op k rfl hget
      obtain ⟨hmay, hk⟩ := hc.safe tid _ hget c.global (.refl hc.inv) hok
      obtain ⟨hinv, hrely⟩ := D.step hc.inv (Config.global_request hget) hok hmay
      refine ⟨hglob ▸ hinv, fun tid' t ht' => ?_⟩
      rw [hglob]
      rw [hthr] at ht'
      rcases System.thread_of_set ht' with ⟨rfl, rfl⟩ | ⟨hne, hold⟩
      · -- the resumed thread itself
        exact hk
      · exact (hc.safe tid' t hold).mono
          ⟨System.extends_after _ tid op, hrely tid' hne, hinv⟩

/-- **Soundness.** Along every schedule of allowed requests whose calls meet the
discipline's condition, the invariant holds and every thread stays safe. -/
theorem run_holds {c : Config Res σ ρ ε α} (hv : D.Verified) (hc : D.Holds c)
    {ms : List (Move ω ρ)} (harr : System.Arrivals D.allowed ms)
    (hg : M.Guarded D.admits c ms) : D.Holds (M.run c ms) := by
  induction ms generalizing c with
  | nil => exact hc
  | cons m ms ih =>
    exact ih (hc.step hv (fun r hr => harr r (by simp [hr])) hg.1) harr.tail hg.2

/-- **Every call of such a run is one the discipline allows**, so a further discipline may
take this one for granted. -/
theorem run_guarded {c : Config Res σ ρ ε α} (hv : D.Verified) (hc : D.Holds c)
    {ms : List (Move ω ρ)} (harr : System.Arrivals D.allowed ms)
    (hg : M.Guarded D.admits c ms) :
    M.Guarded (fun g tid op => D.inv g ∧ D.may g tid op) c ms := by
  induction ms generalizing c with
  | nil => trivial
  | cons m ms ih =>
    refine ⟨fun tid r op k hm hget => ⟨hc.inv, ?_⟩, ?_⟩
    · exact (hc.safe tid _ hget c.global (.refl hc.inv) (hg.1 tid r op k hm hget)).1
    · exact ih (hc.step hv (fun r hr => harr r (by simp [hr])) hg.1) harr.tail hg.2

theorem Holds.answer {c : Config Res σ ρ ε α} (hc : D.Holds c) {tid : Nat} {r : ρ} {a : α}
    (h : c.Answers tid r a) : D.post tid r c.global a :=
  hc.safe tid _ h c.global (.refl hc.inv)

end Discipline

end Concurrency
