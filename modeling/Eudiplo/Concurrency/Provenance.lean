import Eudiplo.Concurrency.Evidence
import Mathlib.Data.List.Pairwise

/-!
# Values that are minted once

Some calls are answered with a value nobody has been answered with before: a random string, a
token, a serial number.  A `Mint` names these events and their values, and which values are `past`
in a store, that is, no longer to come.
-/

namespace Concurrency

variable {Op : Type} {Res : Op → Type} {σ ω ρ ε α V : Type}
variable {M : System Res σ ω ρ ε α}

/-- **A mint**: an event's value is new when it is minted, and past from then on. -/
structure Mint (M : System Res σ ω ρ ε α) (V : Type) where
  value : Event Res → Option V
  past : σ → V → Prop
  new : ∀ {tid op s v}, value ⟨tid, op, (M.answer op s).1⟩ = some v → ¬past s v
  minted : ∀ {tid op s v}, value ⟨tid, op, (M.answer op s).1⟩ = some v →
    past (M.answer op s).2 v
  answer : ∀ {op s v}, past s v → past (M.answer op s).2 v
  drift : ∀ {e s v}, past s v → past (M.drift e s) v

namespace Mint

variable (m : Mint M V) {g g' : Global Res σ ρ} {t t' : Nat} {v : V}

/-- Thread `t` was answered with the minted value `v`. -/
def Minted (g : Global Res σ ρ) (t : Nat) (v : V) : Prop :=
  ∃ e ∈ g.trace, e.tid = t ∧ m.value e = some v

/-- **Minted values are past and pairwise different.** -/
structure Once (g : Global Res σ ρ) : Prop where
  past : ∀ e ∈ g.trace, ∀ v, m.value e = some v → m.past g.store v
  distinct : g.trace.Pairwise fun e e' => ∀ v, m.value e = some v → m.value e' ≠ some v

variable {m}

theorem Minted.extends (h : m.Minted g t v) (he : g.Extends g') : m.Minted g' t v := by
  obtain ⟨e, hmem, htid, hvalue⟩ := h
  exact ⟨e, he.event hmem, htid, hvalue⟩

theorem minted_after {tid : Nat} {op : Op}
    (h : m.value ⟨tid, op, (M.answer op g.store).1⟩ = some v) :
    m.Minted (M.after g tid op) tid v := ⟨_, List.mem_cons_self, rfl, h⟩

namespace Once

theorem start (s : σ) : m.Once (⟨s, [], []⟩ : Global Res σ ρ) := ⟨by simp, .nil⟩

theorem event_unique (h : m.Once g) {e e' : Event Res} (he : e ∈ g.trace) (he' : e' ∈ g.trace)
    (hv : m.value e = some v) (hv' : m.value e' = some v) : e = e' := by
  by_contra hne
  have hsymm : Std.Symm fun e e' : Event Res =>
      ∀ v, m.value e = some v → m.value e' ≠ some v :=
    ⟨fun e e' hee v he' he => hee v he he'⟩
  exact h.distinct.forall he he' hne v hv hv'

/-- **A minted value has one thread.** -/
theorem unique (h : m.Once g) (ht : m.Minted g t v) (ht' : m.Minted g t' v) : t = t' := by
  obtain ⟨e, he, rfl, hv⟩ := ht
  obtain ⟨e', he', rfl, hv'⟩ := ht'
  rw [h.event_unique he he' hv hv']

theorem past_of_minted (h : m.Once g) (ht : m.Minted g t v) : m.past g.store v := by
  obtain ⟨e, he, -, hv⟩ := ht
  exact h.past e he v hv

theorem not_minted (h : m.Once g) {tid : Nat} {op : Op}
    (hv : m.value ⟨tid, op, (M.answer op g.store).1⟩ = some v) : ¬m.Minted g t v :=
  fun ht => m.new hv (h.past_of_minted ht)

theorem after (h : m.Once g) (tid : Nat) (op : Op) : m.Once (M.after g tid op) := by
  refine ⟨fun e he v hv => ?_, ?_⟩
  · rcases List.mem_cons.mp he with rfl | he
    · exact m.minted hv
    · exact m.answer (h.past e he v hv)
  · refine List.pairwise_cons.mpr ⟨fun e he v hv hv' => ?_, h.distinct⟩
    exact m.new hv (h.past e he v hv')

theorem arrive (h : m.Once g) (r : ρ) : m.Once (g.arrive r) := ⟨h.past, h.distinct⟩

theorem pass (h : m.Once g) (e : ω) : m.Once (M.pass g e) :=
  ⟨fun e' he v hv => m.drift (h.past e' he v hv), h.distinct⟩

end Once

end Mint

end Concurrency
