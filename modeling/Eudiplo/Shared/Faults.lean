import Mathlib.Tactic

/-!
# Calls that may fail

A program over a state whose calls may be refused, or take effect while their answer is lost.  It
throws with the state it has reached.  `Run.Keeps` says what it leaves as it is, whatever fails.
-/

namespace Faults

inductive Outcome where
  | done
  | lost
  | refused
  deriving DecidableEq

/-- A program that throws (`none`) or answers, and the state it leaves. -/
def Run (σ α : Type) : Type := σ → Option α × σ

namespace Run

variable {σ α β : Type}

def pure (a : α) : Run σ α := fun s => (some a, s)

def bind (x : Run σ α) (f : α → Run σ β) : Run σ β := fun s =>
  match x s with
  | (some a, s) => f a s
  | (none, s) => (none, s)

instance : Monad (Run σ) where
  pure := Run.pure
  bind := Run.bind

def call (outcome : Outcome) (effect : σ → α × σ) : Run σ α := fun s =>
  match outcome with
  | .done => (some (effect s).1, (effect s).2)
  | .lost => (none, (effect s).2)
  | .refused => (none, s)

/-- A program that throws where there is no answer. -/
def orFail (o : σ → Option α) : Run σ α := fun s => (o s, s)

/-- `try { x } catch { handler; throw }`. -/
def rethrowAfter (x : Run σ α) (handler : Run σ Unit) : Run σ α := fun s =>
  match x s with
  | (some a, s) => (some a, s)
  | (none, s) => (none, (handler s).2)

/-- `try { x } catch {}`. -/
def ignoring (x : Run σ Unit) : Run σ Unit := fun s => (some (), (x s).2)

/-- **What a program leaves as it is**, in every run. -/
def Keeps (R : σ → σ → Prop) (x : Run σ α) : Prop := ∀ s, R s (x s).2

variable {R : σ → σ → Prop}

theorem Keeps.pure (hrefl : ∀ s, R s s) (a : α) : Keeps R (Pure.pure a : Run σ α) := hrefl

theorem Keeps.orFail (hrefl : ∀ s, R s s) (o : σ → Option α) : Keeps R (Run.orFail o) := hrefl

theorem Keeps.call (hrefl : ∀ s, R s s) {effect : σ → α × σ} (h : ∀ s, R s (effect s).2)
    (outcome : Outcome) : Keeps R (Run.call outcome effect) := by
  intro s
  cases outcome with
  | done => exact h s
  | lost => exact h s
  | refused => exact hrefl s

theorem Keeps.bind (htrans : ∀ {s t u}, R s t → R t u → R s u) {x : Run σ α} {f : α → Run σ β}
    (hx : Keeps R x) (hf : ∀ a, Keeps R (f a)) : Keeps R (x >>= f) := by
  intro s
  have hs := hx s
  change R s (Run.bind x f s).2
  unfold Run.bind
  split
  · rename_i a t heq
    rw [heq] at hs
    exact htrans hs (hf a t)
  · rename_i t heq
    rw [heq] at hs
    exact hs

/-! ## Runs of parts -/

theorem bind_some {x : Run σ α} {f : α → Run σ β} {s t : σ} {a : α} (h : x s = (some a, t)) :
    (x >>= f) s = f a t := by
  change Run.bind x f s = f a t
  unfold Run.bind
  rw [h]

theorem bind_none {x : Run σ α} {f : α → Run σ β} {s t : σ} (h : x s = (none, t)) :
    (x >>= f) s = (none, t) := by
  change Run.bind x f s = (none, t)
  unfold Run.bind
  rw [h]

end Run

end Faults
