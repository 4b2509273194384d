import Eudiplo.Concurrency.System

/-!
# Rows under optimistic locking

A row that carries a version, which every change of it increases, is determined by
its version: a thread that has read the row and finds its version still stored finds the
row it read.  That holds for one life of the row.  A row that is deleted and created again
starts over with the versions, so the statement is about keys created at most once
(`Versioned.Once`).
-/

namespace Concurrency

variable {Op : Type} {Res : Op → Type} {σ ω ρ ε α κ V : Type}
variable {M : System Res σ ω ρ ε α}

/-- **Versioned rows** of type `V` under keys of type `κ`. -/
structure Versioned (M : System Res σ ω ρ ε α) (κ V : Type) where
  get : σ → κ → Option V
  version : V → Nat
  /-- The event returned this row, stored under this key. -/
  reads : Event Res → κ → V → Prop
  /-- The event created the row. -/
  creates : κ → Event Res → Bool
  read_stored : ∀ {tid op s k v}, reads ⟨tid, op, (M.answer op s).1⟩ k v → get s k = some v
  advance : ∀ {tid op s k v v'}, creates k ⟨tid, op, (M.answer op s).1⟩ = false →
    get s k = some v → get (M.answer op s).2 k = some v' → v' = v ∨ version v < version v'
  created : ∀ (tid : Nat) {op s k v'}, get s k = none → get (M.answer op s).2 k = some v' →
    creates k ⟨tid, op, (M.answer op s).1⟩ = true
  drift : ∀ {e s k}, get (M.drift e s) k = get s k

namespace Versioned

variable (v : Versioned M κ V) {g g' : Global Res σ ρ} {k : κ} {r r' : V} {t tid : Nat} {op : Op}

/-- Thread `t` read the row `r` under `k`. -/
def Read (g : Global Res σ ρ) (t : Nat) (k : κ) (r : V) : Prop :=
  ∃ e ∈ g.trace, e.tid = t ∧ v.reads e k r

/-- The key was created at most once. -/
def Once (g : Global Res σ ρ) (k : κ) : Prop := g.trace.countP (v.creates k) ≤ 1

/-- **The invariant** between any two calls: of a key created once, a stored row is the
newest version, and the only row of its version anyone has read. -/
structure Inv (g : Global Res σ ρ) : Prop where
  present : ∀ k r, v.get g.store k = some r → 0 < g.trace.countP (v.creates k)
  was : ∀ t k r, v.Read g t k r → 0 < g.trace.countP (v.creates k)
  newest : ∀ t k r r', v.Once g k → v.Read g t k r → v.get g.store k = some r' →
    r' = r ∨ v.version r < v.version r'

variable {v}

theorem Read.extends (h : v.Read g t k r) (hext : g.Extends g') : v.Read g' t k r := by
  obtain ⟨e, he, ht, hread⟩ := h
  exact ⟨e, hext.event he, ht, hread⟩

theorem read_after (h : v.reads ⟨tid, op, (M.answer op g.store).1⟩ k r) :
    v.Read (M.after g tid op) tid k r := ⟨_, List.mem_cons_self, rfl, h⟩

theorem Once.mono (h : v.Once g' k) (hext : g.Extends g') : v.Once g k :=
  Nat.le_trans (hext.trace.sublist.countP_le) h

/-- **A compare-and-set finds the row that was read.** -/
theorem Inv.current (hinv : v.Inv g) (honce : v.Once g k) (hread : v.Read g t k r)
    (hget : v.get g.store k = some r') (hversion : v.version r' = v.version r) : r' = r := by
  rcases hinv.newest t k r r' honce hread hget with hsame | hlt
  · exact hsame
  · omega

theorem Inv.start {s : σ} (hempty : ∀ k, v.get s k = none) :
    v.Inv (⟨s, [], []⟩ : Global Res σ ρ) where
  present k r hget := by
    rw [hempty k] at hget
    cases hget
  was t k r hread := by
    obtain ⟨e, he, -⟩ := hread
    exact (List.not_mem_nil he).elim
  newest t k r r' _ hread _ := by
    obtain ⟨e, he, -⟩ := hread
    exact (List.not_mem_nil he).elim

theorem not_creates (honce : v.Once (M.after g tid op) k)
    (hsome : 0 < g.trace.countP (v.creates k)) :
    v.creates k ⟨tid, op, (M.answer op g.store).1⟩ = false := by
  unfold Once at honce
  rw [System.after_trace, List.countP_cons] at honce
  by_contra hcreates
  rw [Bool.not_eq_false] at hcreates
  rw [if_pos hcreates] at honce
  omega

/-- **One call keeps the invariant.** -/
theorem Inv.after (hinv : v.Inv g) (tid : Nat) (op : Op) : v.Inv (M.after g tid op) := by
  have hext := System.extends_after (M := M) g tid op
  have hpos {k} (h : 0 < g.trace.countP (v.creates k)) :
      0 < (M.after g tid op).trace.countP (v.creates k) :=
    Nat.lt_of_lt_of_le h hext.trace.sublist.countP_le
  -- a read row was stored where it was read
  have hsplit {t k r} (hread : v.Read (M.after g tid op) t k r) :
      v.get g.store k = some r ∨ v.Read g t k r := by
    obtain ⟨e, he, ht, hreads⟩ := hread
    rcases List.mem_cons.mp he with rfl | hold
    · exact .inl (v.read_stored hreads)
    · exact .inr ⟨e, hold, ht, hreads⟩
  refine ⟨fun k r' hget => ?_, fun t k r hread => ?_, fun t k r r' honce hread hget => ?_⟩
  · cases hbefore : v.get g.store k with
    | none =>
      have hcreates := v.created tid hbefore hget
      rw [System.after_trace, List.countP_cons, if_pos hcreates]
      exact Nat.succ_pos _
    | some r => exact hpos (hinv.present k r hbefore)
  · rcases hsplit hread with hstored | hold
    · exact hpos (hinv.present k r hstored)
    · exact hpos (hinv.was t k r hold)
  · have hwas : 0 < g.trace.countP (v.creates k) := by
      rcases hsplit hread with hstored | hold
      · exact hinv.present k r hstored
      · exact hinv.was t k r hold
    have hnot := not_creates honce hwas
    cases hbefore : v.get g.store k with
    | none =>
      rw [v.created tid hbefore hget] at hnot
      cases hnot
    | some r₀ =>
      have hmove := v.advance hnot hbefore hget
      rcases hsplit hread with hstored | hold
      · obtain rfl := Option.some.inj (hstored.symm.trans hbefore)
        exact hmove
      · rcases hinv.newest t k r r₀ (honce.mono hext) hold hbefore with rfl | hlt
        · exact hmove
        · rcases hmove with rfl | hlt'
          · exact .inr hlt
          · exact .inr (Nat.lt_trans hlt hlt')

theorem Inv.arrive (hinv : v.Inv g) (q : ρ) : v.Inv (g.arrive q) :=
  ⟨hinv.present, hinv.was, hinv.newest⟩

theorem Inv.pass (hinv : v.Inv g) (e : ω) : v.Inv (M.pass g e) where
  present k r hget := hinv.present k r (v.drift ▸ hget)
  was := hinv.was
  newest t k r r' honce hread hget := hinv.newest t k r r' honce hread (v.drift ▸ hget)

end Versioned

end Concurrency
