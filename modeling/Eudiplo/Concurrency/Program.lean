import Mathlib.Data.List.Basic

/-!
# Programs that talk to a store one call at a time

A server handler is sequential code that interleaves with other handlers only at
the points where it awaits something: a repository call, a clock reading, a draw
of randomness, a call to code outside the server.  `Prog Res ε α` is such a
handler as data:

- `ret a` — the handler returned `a`;
- `fail e` — the handler threw `e`;
- `call op k` — the handler awaits `op` and continues with `k` on its result.

`Prog` is a monad, so handlers are written in `do`-notation and keep the shape of
the code they model.  The interface is a family `Res : Op → Type` giving the
result type of every call; nothing here fixes what the calls do.

The second half is the static reasoning that needs no semantics: `Only P p` says
that every call `p` can ever make satisfies `P`, whatever the calls answer.
-/

namespace Concurrency

variable {Op : Type} {Res : Op → Type} {ε α β γ : Type}

inductive Prog {Op : Type} (Res : Op → Type) (ε α : Type) : Type where
  /-- The handler returned. -/
  | ret (a : α)
  /-- The handler threw. -/
  | fail (e : ε)
  /-- The handler awaits `op`. -/
  | call (op : Op) (k : Res op → Prog Res ε α)

namespace Prog

def bind : Prog Res ε α → (α → Prog Res ε β) → Prog Res ε β
  | ret a, f => f a
  | fail e, _ => fail e
  | call op k, f => call op fun r => (k r).bind f

instance : Monad (Prog Res ε) where
  pure := ret
  bind := bind

def invoke (op : Op) : Prog Res ε (Res op) := call op ret

/-- Throw `e` unless the check passed. -/
def ensure (check : Bool) (e : ε) : Prog Res ε Unit :=
  if check then ret () else fail e

def getOrFail (e : ε) : Option α → Prog Res ε α
  | some a => ret a
  | none => fail e

def ofExcept : Except ε α → Prog Res ε α
  | .ok a => ret a
  | .error e => fail e

/-- Run a handler only if `check` holds. -/
def onlyIf (check : Bool) (otherwise : α) (p : Prog Res ε α) : Prog Res ε α :=
  if check then p else ret otherwise

/-- Run a handler and hand its error back as a value (`try … catch`). -/
def attempt : Prog Res ε α → Prog Res ε (Except ε α)
  | ret a => ret (.ok a)
  | fail e => ret (.error e)
  | call op k => call op fun r => (k r).attempt

def each (f : β → Prog Res ε Unit) : List β → Prog Res ε Unit
  | [] => ret ()
  | b :: bs => (f b).bind fun _ => each f bs

def response? : Prog Res ε α → Option α
  | ret a => some a
  | _ => none

/-! ## Monad laws and the simp set -/

@[simp] theorem pure_eq (a : α) : (pure a : Prog Res ε α) = ret a := rfl

@[simp] theorem bind_eq (p : Prog Res ε α) (f : α → Prog Res ε β) :
    (p >>= f) = p.bind f := rfl

@[simp] theorem ret_bind (a : α) (f : α → Prog Res ε β) :
    (ret a : Prog Res ε α).bind f = f a := rfl

@[simp] theorem fail_bind (e : ε) (f : α → Prog Res ε β) :
    (fail e : Prog Res ε α).bind f = fail e := rfl

@[simp] theorem call_bind (op : Op) (k : Res op → Prog Res ε α) (f : α → Prog Res ε β) :
    (call op k).bind f = call op fun r => (k r).bind f := rfl

@[simp] theorem bind_ret (p : Prog Res ε α) : p.bind ret = p := by
  induction p with
  | ret a => rfl
  | fail e => rfl
  | call op k ih => simp [ih]

theorem bind_assoc (p : Prog Res ε α) (f : α → Prog Res ε β) (g : β → Prog Res ε γ) :
    (p.bind f).bind g = p.bind fun a => (f a).bind g := by
  induction p with
  | ret a => rfl
  | fail e => rfl
  | call op k ih => simp [ih]

instance : LawfulMonad (Prog Res ε) :=
  LawfulMonad.mk' _ (fun p => bind_ret p) (fun _ _ => rfl) bind_assoc

@[simp] theorem response?_eq_some {p : Prog Res ε α} {a : α} :
    p.response? = some a ↔ p = ret a := by
  cases p <;> simp [response?]

/-! ## Static footprints -/

/-- **Every call the handler can make satisfies `P`**, whatever it is answered. -/
def Only (P : Op → Prop) : Prog Res ε α → Prop
  | ret _ => True
  | fail _ => True
  | call op k => P op ∧ ∀ r, (k r).Only P

variable {P P' : Op → Prop}

@[simp] theorem only_ret (a : α) : (ret a : Prog Res ε α).Only P := trivial

@[simp] theorem only_fail (e : ε) : (fail e : Prog Res ε α).Only P := trivial

@[simp] theorem only_invoke {op : Op} :
    (invoke op : Prog Res ε (Res op)).Only P ↔ P op := by
  simp [invoke, Only]

@[simp] theorem only_ensure (check : Bool) (e : ε) :
    (ensure check e : Prog Res ε Unit).Only P := by
  cases check <;> trivial

@[simp] theorem only_getOrFail (e : ε) (o : Option α) :
    (getOrFail e o : Prog Res ε α).Only P := by
  cases o <;> trivial

@[simp] theorem only_ofExcept (x : Except ε α) :
    (ofExcept x : Prog Res ε α).Only P := by
  cases x <;> trivial

theorem Only.mono (h : ∀ op, P op → P' op) {p : Prog Res ε α} (hp : p.Only P) :
    p.Only P' := by
  induction p with
  | ret a => trivial
  | fail e => trivial
  | call op k ih => exact ⟨h op hp.1, fun r => ih r (hp.2 r)⟩

theorem only_true (p : Prog Res ε α) : p.Only fun _ => True := by
  induction p with
  | ret a => trivial
  | fail e => trivial
  | call op k ih => exact ⟨trivial, ih⟩

theorem Only.bind {p : Prog Res ε α} {f : α → Prog Res ε β} (hp : p.Only P)
    (hf : ∀ a, (f a).Only P) : (p.bind f).Only P := by
  induction p with
  | ret a => exact hf a
  | fail e => trivial
  | call op k ih => exact ⟨hp.1, fun r => ih r (hp.2 r)⟩

theorem Only.ensure {check : Bool} {e : ε} {f : Unit → Prog Res ε β}
    (h : check = true → (f ()).Only P) : ((Prog.ensure check e).bind f).Only P := by
  cases check with
  | true => exact h rfl
  | false => trivial

theorem Only.await {op : Op} {f : Res op → Prog Res ε β} (h : P op) (hf : ∀ r, (f r).Only P) :
    ((Prog.invoke op : Prog Res ε (Res op)).bind f).Only P := ⟨h, hf⟩

theorem Only.require {o : Option α} {e : ε} {f : α → Prog Res ε β}
    (h : ∀ a, o = some a → (f a).Only P) : ((Prog.getOrFail e o).bind f).Only P := by
  cases o with
  | none => trivial
  | some a => exact h a rfl

theorem Only.onlyIf {check : Bool} {a : α} {p : Prog Res ε α} (hp : p.Only P) :
    (Prog.onlyIf check a p).Only P := by
  cases check with
  | true => exact hp
  | false => trivial

theorem Only.attempt {p : Prog Res ε α} (hp : p.Only P) : p.attempt.Only P := by
  induction p with
  | ret a => trivial
  | fail e => trivial
  | call op k ih => exact ⟨hp.1, fun r => ih r (hp.2 r)⟩

theorem Only.each {f : β → Prog Res ε Unit} {bs : List β}
    (hf : ∀ b ∈ bs, (f b).Only P) : (Prog.each f bs).Only P := by
  induction bs with
  | nil => trivial
  | cons b bs ih =>
    exact (hf b (by simp)).bind fun _ => ih fun b' hb' => hf b' (by simp [hb'])

end Prog

end Concurrency
