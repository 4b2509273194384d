import Eudiplo.Backend.Effects
import Eudiplo.Concurrency.Provenance

/-!
# Drawn values are drawn once

Every random value is drawn by one call of one thread, so a value identifies the
thread that drew it: a code or a request_uri that turns up in a row can be traced to
the one request that drew it.
-/

namespace Eudiplo

open Concurrency

variable {w : World}

def drewValue : Answered → Option String
  | ⟨_, .env .fresh, v⟩ => some v
  | _ => none

/-- Thread `tid` drew `v`. -/
def Drew (g : State) (tid : Nat) (v : String) : Prop :=
  (⟨tid, .env .fresh, v⟩ : Answered) ∈ g.trace

theorem drew_of_any {g : State} {tid : Nat} {v : String}
    (h : (g.trace.any fun e => e.tid == tid && drewValue e == some v) = true) : Drew g tid v := by
  obtain ⟨⟨t, op, a⟩, he, hcheck⟩ := List.any_eq_true.mp h
  simp only [Bool.and_eq_true, beq_iff_eq] at hcheck
  obtain ⟨rfl, hdrew⟩ := hcheck
  rcases op with c | c | c | (_ | _ | q)
  case env.fresh =>
    cases hdrew
    exact he
  all_goals cases hdrew

theorem drewValue_answer {tid : Nat} {op : Call} {st : Store} {v : String}
    (h : drewValue ⟨tid, op, (answer w op st).1⟩ = some v) :
    op = .env .fresh ∧ v = w.random st.draws := by
  rcases op with c | c | c | (_ | _ | q)
  case env.fresh =>
    cases h
    exact ⟨rfl, rfl⟩
  all_goals cases h

/-- **Random values are minted once**: a past value is none of those still to come. -/
def draws (w : World) : Mint (backend w) String where
  value := drewValue
  past st v := ∀ i, st.draws ≤ i → v ≠ w.random i
  new := fun h hpast => by
    obtain ⟨-, rfl⟩ := drewValue_answer h
    exact hpast _ (Nat.le_refl _) rfl
  minted := fun {_ _ st _} h i hi heq => by
    obtain ⟨rfl, rfl⟩ := drewValue_answer h
    have hidx := w.random_injective heq
    have hnext : st.draws + 1 ≤ i := hi
    omega
  answer := fun h i hi => h i (Nat.le_trans (answer_draws _ _) hi)
  drift := fun h => h

/-- **Drawn values are past and pairwise different.** -/
abbrev DrawnOnce (w : World) (g : State) : Prop := (draws w).Once g

theorem Drew.extends {g g' : State} {tid : Nat} {v : String} (h : Drew g tid v)
    (he : g.Extends g') : Drew g' tid v := he.event h

theorem Drew.minted {g : State} {tid : Nat} {v : String} (h : Drew g tid v) :
    (draws w).Minted g tid v := ⟨_, h, rfl, rfl⟩

/-- **A drawn value has one drawer.** -/
theorem drew_unique {g : State} (h : DrawnOnce w g) {t t' : Nat} {v : String} (ht : Drew g t v)
    (ht' : Drew g t' v) : t = t' := h.unique ht.minted ht'.minted

theorem not_drew_next {g : State} (h : DrawnOnce w g) (t : Nat) :
    ¬Drew g t (w.random g.store.draws) :=
  fun ht => h.past_of_minted ht.minted _ (Nat.le_refl _) rfl

end Eudiplo
