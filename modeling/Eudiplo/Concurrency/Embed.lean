import Eudiplo.Concurrency.Program

/-!
# Handlers inside a larger system

A handler over some calls is a handler over more of them.
-/

namespace Concurrency

variable {Op Op' : Type} {Res : Op → Type} {Res' : Op' → Type} {ε α : Type}

namespace Prog

/-- **A handler whose calls are calls of a larger system.** -/
def embed (ι : Op → Op') (back : ∀ op, Res' (ι op) → Res op) : Prog Res ε α → Prog Res' ε α
  | ret a => ret a
  | fail e => fail e
  | call op k => call (ι op) fun r => (k (back op r)).embed ι back

end Prog

end Concurrency
