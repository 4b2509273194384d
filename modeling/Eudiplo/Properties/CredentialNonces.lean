import Eudiplo.Concurrency.RelyGuarantee
import Eudiplo.Credential.Effects

/-!
# Are the nonces of credential requests single use, and fresh?

Both paths of the credential endpoint consume a nonce by deleting its row, and a delete
that finds no row rejects the request, so no nonce serves two accepted requests: that
holds in every run.  The immediate path also compares the row's expiry with the clock;
the deferred path does not, so it accepts a nonce that has expired but has not been
cleaned up (`not_nonces_fresh`).

`nonces_fresh` holds for every run in which the nonces of deferred requests are still valid where
they are consumed.
-/

namespace Eudiplo

open Concurrency Prog Discipline Storage

/-! ## The claim -/

/-- The `c_nonce`s of a request. -/
def CNonce (w : CredentialWorld) (q : ParsedCredentialRequest) (n : String) : Prop :=
  ∃ proof ∈ q.proofs, w.decodeNonce proof = some (some n)

/-- Thread `t` accepted the credential request `q`, at once or deferred. -/
def AcceptsRequest (c : CredentialConfig) (t : Nat) (q : ParsedCredentialRequest) : Prop :=
  ∃ a, c.Answers t (.credential q) a

/-- Thread `t` read the clock. -/
def ReadsClock (g : CredentialState) (t : Nat) (time : Time) : Prop :=
  (⟨t, .now, time⟩ : CredentialEvent) ∈ g.trace

/-- The moment thread `t` checks its request: the reading it took, or, as long as it took
none, the present. -/
def CheckedNow (g : CredentialState) (t : Nat) (time : Time) : Prop :=
  ReadsClock g t time ∨ (∀ time', ¬ReadsClock g t time') ∧ time = g.store.clock

/-- **Nonces are single use and fresh**: accepted requests share no nonce, and the nonce of an
accepted request was consumed by it while it was stored and not expired. -/
structure NoncesFresh (w : CredentialWorld) (st : CredentialStore) (ms : CredentialSchedule) :
    Prop where
  singleUse : ∀ t t' q q', AcceptsRequest ((credentialEndpoints w).run (.start st) ms) t q →
    AcceptsRequest ((credentialEndpoints w).run (.start st) ms) t' q' → t ≠ t' →
    ∀ n, CNonce w q n → ¬CNonce w q' n
  fresh : ∀ t q, AcceptsRequest ((credentialEndpoints w).run (.start st) ms) t q →
    ∀ n, CNonce w q n → ∃ ms₁ ms₂ row time, ms = ms₁ ++ .resume t :: ms₂ ∧
      System.waiting ((credentialEndpoints w).run (.start st) ms₁) t =
        some (.nonces (.delete q.tenantId n)) ∧
      ((credentialEndpoints w).run (.start st) ms₁).store.nonces.get (q.tenantId, n) =
        some row ∧
      CheckedNow ((credentialEndpoints w).run (.start st) ms₁).global t time ∧
      time ≤ row.expiresAt

/-- **The condition**: a thread that consumes a nonce without having read the clock, as the
deferred path does, finds it unexpired. -/
def ConsumesValid (g : CredentialState) (tid : Nat) (op : CredentialCall) : Prop :=
  ∀ tenantId n row, op = .nonces (.delete tenantId n) →
    g.store.nonces.get (tenantId, n) = some row → (∀ time, ¬ReadsClock g tid time) →
    g.store.clock ≤ row.expiresAt

namespace CredentialNonces

variable {w : CredentialWorld} {g g' : CredentialState} {tid t : Nat} {op : CredentialCall}

/-! ## What the events say -/

/-- Thread `t` saved the nonce `row`. -/
def Saves (g : CredentialState) (t : Nat) (row : CredentialNonce) : Prop :=
  (⟨t, .nonces (.save row), ()⟩ : CredentialEvent) ∈ g.trace

/-- Thread `t` found the nonce `row`. -/
def FindsNonce (g : CredentialState) (t : Nat) (tenantId n : String) (row : CredentialNonce) :
    Prop :=
  (⟨t, .nonces (.find tenantId n), some row⟩ : CredentialEvent) ∈ g.trace

/-- Thread `t` consumed the nonce. -/
def ConsumesNonce (g : CredentialState) (t : Nat) (key : String × String) : Prop :=
  (⟨t, .nonces (.delete key.1 key.2), (true : Bool)⟩ : CredentialEvent) ∈ g.trace

/-! ## The invariant -/

/-- **The invariant** between any two calls. -/
structure NonceInv (w : CredentialWorld) (g : CredentialState) : Prop where
  numbered : g.Numbered
  drawn : (uuids w).Once g
  stored : ∀ key row, g.store.nonces.get key = some row → ∃ t, Saves g t row
  found : ∀ t tenantId n row, FindsNonce g t tenantId n row →
    row.key = (tenantId, n) ∧ ∃ t', Saves g t' row
  drew : ∀ t row, Saves g t row → DrewUuid g t row.nonce
  savedOnce : ∀ t row row', Saves g t row → Saves g t row' → row = row'
  gone : ∀ t key, ConsumesNonce g t key →
    g.store.nonces.get key = none ∧ ∃ t' row, Saves g t' row ∧ row.key = key
  once : ∀ t t' key, ConsumesNonce g t key → ConsumesNonce g t' key → t = t'

/-- **What a thread may call**: it saves only the nonce it drew, and only once; and where it
consumes a nonce after it read the clock, it has looked the nonce up. -/
def NonceMay (g : CredentialState) (tid : Nat) : CredentialCall → Prop
  | .nonces (.save row) => DrewUuid g tid row.nonce ∧ ∀ row', ¬Saves g tid row'
  | .nonces (.delete tenantId n) =>
    (∀ time, ¬ReadsClock g tid time) ∨
      ((∃ row, FindsNonce g tid tenantId n row) ∧ ∃ time, ReadsClock g tid time)
  | _ => True

theorem saved_unique (hinv : NonceInv w g) {t' : Nat} {row row' : CredentialNonce}
    (h : Saves g t row) (h' : Saves g t' row') (hn : row.nonce = row'.nonce) : row = row' := by
  have hdrew := hinv.drew t row h
  have hdrew' := hinv.drew t' row' h'
  rw [← hn] at hdrew'
  obtain rfl := drewUuid_unique hinv.drawn hdrew hdrew'
  exact hinv.savedOnce t row row' h h'

/-! ## One call -/

theorem saves_after {row : CredentialNonce}
    (h : Saves ((credentialEndpoints w).after g tid op) t row) :
    (t = tid ∧ op = .nonces (.save row)) ∨ Saves g t row := by
  rcases List.mem_cons.mp h with heq | hold
  · injection heq with ht hop _
    exact .inl ⟨ht, hop.symm⟩
  · exact .inr hold

theorem finds_after {tenantId n : String} {row : CredentialNonce}
    (h : FindsNonce ((credentialEndpoints w).after g tid op) t tenantId n row) :
    g.store.nonces.get (tenantId, n) = some row ∨ FindsNonce g t tenantId n row := by
  rcases List.mem_cons.mp h with heq | hold
  · injection heq with _ hop hres
    subst hop
    exact .inl (eq_of_heq hres).symm
  · exact .inr hold

theorem consumes_after {key : String × String}
    (h : ConsumesNonce ((credentialEndpoints w).after g tid op) t key) :
    (t = tid ∧ op = .nonces (.delete key.1 key.2) ∧ ∃ row, g.store.nonces.get key = some row) ∨
      ConsumesNonce g t key := by
  rcases List.mem_cons.mp h with heq | hold
  · injection heq with ht hop hres
    subst hop
    have hsome : (true : Bool) = (g.store.nonces.get key).isSome := eq_of_heq hres
    exact .inl ⟨ht, rfl, Option.isSome_iff_exists.mp hsome.symm⟩
  · exact .inr hold

/-- **A stored nonce was stored before, or has just been saved.** -/
theorem nonce_row {key : String × String} {row : CredentialNonce}
    (h : ((credentialEndpoints w).after g tid op).store.nonces.get key = some row) :
    g.store.nonces.get key = some row ∨
      ∃ r, op = .nonces (.save r) ∧ r.key = key ∧
        (g.store.nonces.get key = none → row = r) := by
  by_cases hop : ∃ c, op = .nonces c
  · obtain ⟨c, rfl⟩ := hop
    cases c with
    | save r =>
      have hget := (Table.get_upsert g.store.nonces r _ _ key).symm.trans h
      split at hget
      · rename_i hkey
        refine .inr ⟨r, rfl, hkey, fun hnone => ?_⟩
        rw [hnone] at hget
        exact (Option.some.inj hget).symm
      · exact .inl hget
    | find tenantId n => exact .inl h
    | delete tenantId n =>
      have hget : (g.store.nonces.deleteWhere _).get key = some row := h
      rw [Table.get_deleteWhere, Option.filter_eq_some_iff] at hget
      exact .inl hget.1
    | deleteExpired before =>
      have hget : (g.store.nonces.deleteWhere _).get key = some row := h
      rw [Table.get_deleteWhere, Option.filter_eq_some_iff] at hget
      exact .inl hget.1
  · rw [System.after_store] at h
    have hframe := credential_nonces_frame (w := w) (s := g.store) fun c hc => hop ⟨c, hc⟩
    have hget : (op.answer w g.store).2.nonces.get key = some row := h
    rw [hframe] at hget
    exact .inl hget

theorem free_of_may (hinv : NonceInv w g) {r row : CredentialNonce}
    (hmay : NonceMay g tid (.nonces (.save r))) (hsaved : Saves g t row) : row.nonce ≠ r.nonce := by
  intro heq
  have hdrew := hinv.drew t row hsaved
  rw [heq] at hdrew
  obtain rfl := drewUuid_unique hinv.drawn hdrew hmay.1
  exact hmay.2 row hsaved

theorem stored_after (hinv : NonceInv w g) (hmay : NonceMay g tid op) {key : String × String}
    {row : CredentialNonce}
    (hrow : ((credentialEndpoints w).after g tid op).store.nonces.get key = some row) :
    ∃ t, Saves ((credentialEndpoints w).after g tid op) t row := by
  have hext := System.extends_after (M := credentialEndpoints w) g tid op
  rcases nonce_row hrow with hold | ⟨r', rfl, hkey, hnew⟩
  · obtain ⟨t, hsaved⟩ := hinv.stored key row hold
    exact ⟨t, hext.event hsaved⟩
  · -- the key was free, so the row is the one just saved
    have hfree : g.store.nonces.get key = none := by
      by_contra hne
      obtain ⟨row', hrow'⟩ := Option.ne_none_iff_exists'.mp hne
      obtain ⟨t, hsaved⟩ := hinv.stored key row' hrow'
      have hkey' := Table.get_key hrow'
      exact free_of_may hinv hmay hsaved (congrArg Prod.snd (hkey'.trans hkey.symm))
    rw [hnew hfree]
    exact ⟨tid, List.mem_cons_self⟩

theorem savedOnce_after (hinv : NonceInv w g) (hmay : NonceMay g tid op)
    {row row' : CredentialNonce} (hsave : Saves ((credentialEndpoints w).after g tid op) t row)
    (hsave' : Saves ((credentialEndpoints w).after g tid op) t row') : row = row' := by
  rcases saves_after hsave with ⟨rfl, rfl⟩ | hold <;>
    rcases saves_after hsave' with ⟨ht, heq⟩ | hold'
  · injection heq with heq
    injection heq
  · exact absurd hold' (hmay.2 row')
  · subst ht
    subst heq
    exact absurd hold (hmay.2 row)
  · exact hinv.savedOnce t row row' hold hold'

/-- A nonce that was consumed is not stored again: nobody draws it a second time. -/
theorem stays_gone (hinv : NonceInv w g) (hmay : NonceMay g tid op) {key : String × String}
    (h : ConsumesNonce g t key) :
    ((credentialEndpoints w).after g tid op).store.nonces.get key = none := by
  obtain ⟨hnone, t', row, hsaved, rfl⟩ := hinv.gone t key h
  by_contra hne
  obtain ⟨row', hrow'⟩ := Option.ne_none_iff_exists'.mp hne
  rcases nonce_row hrow' with hold | ⟨r', rfl, hkey, -⟩
  · rw [hnone] at hold
    cases hold
  · exact free_of_may hinv hmay hsaved (congrArg Prod.snd hkey).symm

theorem gone_after (hinv : NonceInv w g) (hmay : NonceMay g tid op) {key : String × String}
    (hcons : ConsumesNonce ((credentialEndpoints w).after g tid op) t key) :
    ((credentialEndpoints w).after g tid op).store.nonces.get key = none ∧
      ∃ t' row, Saves ((credentialEndpoints w).after g tid op) t' row ∧ row.key = key := by
  have hext := System.extends_after (M := credentialEndpoints w) g tid op
  rcases consumes_after hcons with ⟨rfl, rfl, row, hrow⟩ | hold
  · obtain ⟨t', hsaved⟩ := hinv.stored key row hrow
    refine ⟨?_, t', row, hext.event hsaved, Table.get_key hrow⟩
    show (g.store.nonces.deleteWhere _).get key = none
    rw [Table.get_deleteWhere, hrow, Option.filter_some, if_neg]
    simp [Table.get_key hrow]
  · obtain ⟨-, t', row, hsaved, hkey⟩ := hinv.gone t key hold
    exact ⟨stays_gone hinv hmay hold, t', row, hext.event hsaved, hkey⟩

theorem consumedOnce_after (hinv : NonceInv w g) {t' : Nat} {key : String × String}
    (hcons : ConsumesNonce ((credentialEndpoints w).after g tid op) t key)
    (hcons' : ConsumesNonce ((credentialEndpoints w).after g tid op) t' key) : t = t' := by
  rcases consumes_after hcons with ⟨rfl, -, row, hrow⟩ | hold <;>
    rcases consumes_after hcons' with ⟨rfl, -, row', hrow'⟩ | hold'
  · rfl
  · rw [(hinv.gone t' key hold').1] at hrow
    cases hrow
  · rw [(hinv.gone t key hold).1] at hrow'
    cases hrow'
  · exact hinv.once t t' key hold hold'

/-- **One call keeps the invariant.** -/
theorem inv_after {r : CredentialEndpointRequest} (hinv : NonceInv w g)
    (hr : g.requests[tid]? = some r) (hmay : NonceMay g tid op) :
    NonceInv w ((credentialEndpoints w).after g tid op) := by
  have hext := System.extends_after (M := credentialEndpoints w) g tid op
  refine {
    numbered := hinv.numbered.after hr
    drawn := hinv.drawn.after tid op
    stored := fun key row hrow => stored_after hinv hmay hrow
    found := fun t tenantId n row hfind => ?_
    drew := fun t row hsave => ?_
    savedOnce := fun t row row' hsave hsave' => savedOnce_after hinv hmay hsave hsave'
    gone := fun t key hcons => gone_after hinv hmay hcons
    once := fun t t' key hcons hcons' => consumedOnce_after hinv hcons hcons' }
  · rcases finds_after hfind with hstored | hold
    · obtain ⟨t', hsaved⟩ := hinv.stored _ _ hstored
      exact ⟨Table.get_key hstored, t', hext.event hsaved⟩
    · obtain ⟨hkey, t', hsaved⟩ := hinv.found t tenantId n row hold
      exact ⟨hkey, t', hext.event hsaved⟩
  · rcases saves_after hsave with ⟨rfl, rfl⟩ | hold
    · exact hmay.1.extends hext
    · exact (hinv.drew t row hold).extends hext

/-! ## The discipline -/

/-- The nonces of an accepted request are consumed; on the immediate path they were also
found unexpired at the thread's one reading of the clock. -/
structure Evidence (w : CredentialWorld) (t : Nat) (q : ParsedCredentialRequest)
    (g : CredentialState) : Prop where
  consumed : ∀ n, CNonce w q n → ConsumesNonce g t (q.tenantId, n)
  valid : (∀ tenantId n row, ¬FindsNonce g t tenantId n row) ∨
    ∃ now, ReadsClock g t now ∧ (∀ time, ReadsClock g t time → time = now) ∧
      ∀ n, CNonce w q n → ∃ row, FindsNonce g t q.tenantId n row ∧ now ≤ row.expiresAt

def NoncePost (w : CredentialWorld) (t : Nat) : CredentialEndpointRequest → CredentialState →
    CredentialAnswer → Prop
  | .credential q, g, _ => Evidence w t q g
  | _, _, _ => True

/-- **The discipline of the nonces.** -/
def nonces (w : CredentialWorld) : Discipline (credentialEndpoints w) where
  inv := NonceInv w
  rely t g g' := g.Quiet t g'
  admits _ _ _ := True
  may := NonceMay
  allowed _ := True
  post := NoncePost w
  rely_refl t g := .refl t g
  rely_trans h h' := h.trans h'
  step hinv hr _ hmay := ⟨inv_after hinv hr hmay, fun _ hne => Global.quiet_after hne⟩
  arrive {g r} hinv _ :=
    ⟨⟨hinv.numbered.arrive r, hinv.drawn.arrive r, hinv.stored, hinv.found, hinv.drew,
      hinv.savedOnce, hinv.gone, hinv.once⟩, fun t _ => Global.quiet_arrive t g r⟩
  pass {g} n hinv :=
    ⟨⟨hinv.numbered.pass n, hinv.drawn.pass n, hinv.stored, hinv.found, hinv.drew,
      hinv.savedOnce, hinv.gone, hinv.once⟩, fun t => Global.quiet_pass t g n⟩

/-! ## The handlers -/

def Calm : CredentialCall → Prop
  | .nonces (.save _) | .nonces (.delete ..) => False
  | _ => True

theorem may_of_calm (h : Calm op) : NonceMay g tid op := by
  rcases op with c | c | _ | _ | q
  · cases c with
    | save row => exact h.elim
    | delete tenantId n => exact h.elim
    | find tenantId n => trivial
    | deleteExpired before => trivial
  all_goals trivial

/-- The only reading of the clock thread `t` took is `now`. -/
structure ReadOnce (t : Nat) (now : Time) (g : CredentialState) : Prop where
  read : ReadsClock g t now
  only : ∀ time, ReadsClock g t time → time = now

theorem ReadOnce.quiet {now : Time} (h : ReadOnce t now g) (hext : g.Extends g')
    (hq : g.Quiet t g') : ReadOnce t now g' :=
  ⟨hext.event h.read, fun time htime => h.only time (hq _ htime rfl)⟩

theorem ReadOnce.after {now : Time} (h : ReadOnce t now g) (hop : op ≠ .now) :
    ReadOnce t now ((credentialEndpoints w).after g t op) := by
  refine ⟨(System.extends_after _ _ _).event h.read, fun time htime => ?_⟩
  rcases List.mem_cons.mp htime with heq | hold
  · injection heq with _ hnow _
    exact absurd hnow.symm hop
  · exact h.only time hold

/-- Thread `t` consumed the nonce `n`, which it had found unexpired at `now`. -/
def Consumed (t : Nat) (tenantId : String) (now : Time) (n : String) (g : CredentialState) :
    Prop :=
  ConsumesNonce g t (tenantId, n) ∧ ∃ row, FindsNonce g t tenantId n row ∧ now ≤ row.expiresAt

theorem Consumed.extends {tenantId n : String} {now : Time} (h : Consumed t tenantId now n g)
    (hext : g.Extends g') : Consumed t tenantId now n g' := by
  obtain ⟨hcons, row, hfind, hle⟩ := h
  exact ⟨hext.event hcons, row, hext.event hfind, hle⟩

section Handlers

variable {r : CredentialEndpointRequest} {now : Time} {tenantId : String}

/-- **Consuming one nonce** on the immediate path. -/
theorem safe_consumeNonce (n : String) (hread : ReadOnce t now g) :
    (nonces w).Safe t (fun g' _ => ReadOnce t now g' ∧ Consumed t tenantId now n g')
      (consumeNonce tenantId now n) g := by
  refine Safe.call fun g₁ hl₁ _ => ⟨trivial, ?_⟩
  have hread₁ : ReadOnce t now
      ((credentialEndpoints w).after g₁ t (.nonces (.find tenantId n))) :=
    (hread.quiet hl₁.hist hl₁.rely).after fun h => nomatch h
  -- what the look-up was answered is in the history
  have hfind : (⟨t, .nonces (.find tenantId n),
      ((credentialEndpoints w).answer (.nonces (.find tenantId n)) g₁.store).1⟩ :
      CredentialEvent) ∈
        ((credentialEndpoints w).after g₁ t (.nonces (.find tenantId n))).trace :=
    List.mem_cons_self
  revert hfind
  generalize ((credentialEndpoints w).answer (.nonces (.find tenantId n)) g₁.store).1 = found
  intro hfind
  cases found with
  | none => trivial
  | some stored =>
    have hmay {g₂ : CredentialState} (hl₂ : (nonces w).Later t
        ((credentialEndpoints w).after g₁ t (.nonces (.find tenantId n))) g₂) :
        NonceMay g₂ t (.nonces (.delete tenantId n)) :=
      .inr ⟨⟨stored, hl₂.hist.event hfind⟩, now, hl₂.hist.event hread₁.read⟩
    by_cases hvalid : stored.expiresAt < now
    · simp only [ret_bind, if_pos hvalid]
      exact Safe.call fun g₂ hl₂ _ => ⟨hmay hl₂, trivial⟩
    · simp only [ret_bind, if_neg hvalid]
      refine Safe.call fun g₂ hl₂ _ => ⟨hmay hl₂, ?_⟩
      have hread₂ : ReadOnce t now
          ((credentialEndpoints w).after g₂ t (.nonces (.delete tenantId n))) :=
        (hread₁.quiet hl₂.hist hl₂.rely).after fun h => nomatch h
      refine Safe.check fun hdeleted g₃ hl₃ => ?_
      refine ⟨hread₂.quiet hl₃.hist hl₃.rely, ?_, stored, ?_, Nat.le_of_not_lt hvalid⟩
      · have hevent : ConsumesNonce
            ((credentialEndpoints w).after g₂ t (.nonces (.delete tenantId n))) t
            (tenantId, n) := by
          rw [ConsumesNonce, ← hdeleted]
          exact List.mem_cons_self
        exact hl₃.hist.event hevent
      · exact hl₃.hist.event ((System.extends_after _ _ _).event (hl₂.hist.event hfind))

theorem safe_consumeNonces {ns : List String} (hg : (nonces w).At t r g)
    (hread : ReadOnce t now g) :
    (nonces w).Safe t (fun g' _ => ReadOnce t now g' ∧ ∀ n ∈ ns, Consumed t tenantId now n g')
      (each (consumeNonce tenantId now) ns) g := by
  induction ns generalizing g with
  | nil =>
    intro g' hl
    exact ⟨hread.quiet hl.hist hl.rely, fun n hn => (List.not_mem_nil hn).elim⟩
  | cons n ns ih =>
    refine (safe_consumeNonce n hread).bind hg fun _ g₁ _ hg₁ hdone => ?_
    refine (ih hg₁ hdone.1).imp hg₁ fun _ g₂ hext _ hrest => ⟨hrest.1, fun n' hn' => ?_⟩
    rcases List.mem_cons.mp hn' with rfl | hn'
    · exact hdone.2.extends hext
    · exact hrest.2 n' hn'

theorem mem_uniqueNonces {proofType : ProofType} {proofs ns : List String}
    (h : uniqueNonces w proofType proofs = .ok ns) {proof n : String} (hproof : proof ∈ proofs)
    (hn : w.decodeNonce proof = some (some n)) : n ∈ ns := by
  have hmap : ∀ {proofs ns : List String}, proofs.mapM (proofNonce w proofType) = .ok ns →
      proof ∈ proofs → n ∈ ns := by
    intro proofs
    induction proofs with
    | nil => exact fun _ hnone => (List.not_mem_nil hnone).elim
    | cons p ps ih =>
      intro ns hns hmem
      rw [List.mapM_cons] at hns
      cases hp : proofNonce w proofType p with
      | error e =>
        rw [hp] at hns
        cases hns
      | ok a =>
        cases hps : ps.mapM (proofNonce w proofType) with
        | error e =>
          rw [hp, hps] at hns
          cases hns
        | ok as =>
          rw [hp, hps] at hns
          obtain rfl : a :: as = ns := Except.ok.inj hns
          rcases List.mem_cons.mp hmem with rfl | htail
          · -- a truthy nonce is taken as it is
            rw [proofNonce, hn] at hp
            by_cases htruthy : truthy (some n) = true
            · simp only [htruthy, if_true] at hp
              obtain rfl : n = a := Except.ok.inj hp
              exact List.mem_cons_self
            · simp only [htruthy] at hp
              cases hp
          · exact List.mem_cons_of_mem a (ih hps htail)
  unfold uniqueNonces at h
  cases hns : proofs.mapM (proofNonce w proofType) with
  | error e =>
    rw [hns] at h
    cases h
  | ok as =>
    rw [hns] at h
    obtain rfl : as.eraseDups = ns := Except.ok.inj h
    exact List.mem_eraseDups.mpr (hmap hns hproof)

/-- **The immediate path.** -/
theorem safe_validateAndConsume {q : ParsedCredentialRequest} (hg : (nonces w).At t r g)
    (hsilent : ∀ time, ¬ReadsClock g t time) :
    (nonces w).Safe t (fun g' _ => ∃ now, ReadOnce t now g' ∧
        ∀ n, CNonce w q n → Consumed t q.tenantId now n g')
      (validateAndConsume w q.proofs q.proofType q.tenantId) g := by
  refine Safe.call fun g₁ hl₁ hadm => ⟨trivial, ?_⟩
  have hg₁ := (hg.later hl₁).after hadm (show NonceMay g₁ t .now from trivial)
  have hread : ReadOnce t g₁.store.clock ((credentialEndpoints w).after g₁ t .now) := by
    refine ⟨List.mem_cons_self, fun time htime => ?_⟩
    rcases List.mem_cons.mp htime with heq | hold
    · injection heq
    · exact absurd (hl₁.rely _ hold rfl) (hsilent time)
  refine Safe.ofExcept fun ns hns => ?_
  refine (safe_consumeNonces hg₁ hread).imp hg₁ fun _ g₂ _ _ hdone => ?_
  refine ⟨g₁.store.clock, hdone.1, fun n hn => ?_⟩
  obtain ⟨proof, hproof, hdecode⟩ := hn
  exact hdone.2 n (mem_uniqueNonces hns hproof hdecode)

/-- A thread that has looked no nonce up. -/
def LooksNoneUp (t : Nat) (g : CredentialState) : Prop :=
  ∀ tenantId n row, ¬FindsNonce g t tenantId n row

def Blind : CredentialCall → Prop
  | .nonces _ => False
  | _ => True

theorem looksNoneUp_after (h : LooksNoneUp t g)
    (hop : ∀ tenantId n, op ≠ .nonces (.find tenantId n)) :
    LooksNoneUp t ((credentialEndpoints w).after g t op) := by
  intro tenantId n row hfind
  rcases List.mem_cons.mp hfind with heq | hold
  · injection heq with _ hfound _
    exact hop tenantId n hfound.symm
  · exact h tenantId n row hold

theorem only_storeTransaction (q : ParsedCredentialRequest) (proof : String)
    (authorized : AuthorizedCredentialRequest) (interval : Nat) :
    Only Blind (do
      let verified ← askCredential (.verifyProof q.tenantId proof q.proofType)
      let holderKeys ← ofExcept verified
      ofExcept (singleHolderKey q.proofType holderKeys)
      let attested ← askCredential
        (.keyAttestation q.tenantId proof authorized.credentialConfigurationId)
      ofExcept attested
      let transactionId ← uuid
      let now ← credentialNow
      let () ← transactions (.create {
        transactionId, tenantId := q.tenantId, sessionId := authorized.sessionId
        credentialConfigurationId := authorized.credentialConfigurationId
        issuanceSetId := authorized.issuanceSetId, holderCnf := holderKeys.headD .null
        status := .pending, interval
        expiresAt := now.plusSeconds (deferredTransactionTtlHours * 60 * 60) })
      return .deferred transactionId interval : CredentialProg CredentialAnswer) :=
  Only.await trivial fun _ => Only.bind (only_ofExcept _) fun _ =>
    Only.bind (only_ofExcept _) fun _ => Only.await trivial fun _ =>
    Only.bind (only_ofExcept _) fun _ => Only.await trivial fun _ =>
    Only.await trivial fun _ => Only.await trivial fun _ =>
    trivial

/-- **The deferred path** consumes its nonce without a look at its row. -/
theorem safe_createDeferredTransaction {q : ParsedCredentialRequest}
    {authorized : AuthorizedCredentialRequest} {interval : Nat} (hg : (nonces w).At t r g)
    (hsilent : ∀ time, ¬ReadsClock g t time) (hblind : LooksNoneUp t g) :
    (nonces w).Safe t (fun g' _ => Evidence w t q g')
      (createDeferredTransaction w q authorized interval) g := by
  refine Safe.ofExcept fun proof hproof => Safe.getOrFail fun nonce hnonce =>
    Safe.ensure fun htruthy => Safe.call fun g₁ hl₁ hadm => ?_
  have hmay : NonceMay g₁ t (.nonces (.delete q.tenantId (nonce.getD ""))) :=
    .inl fun time htime => hsilent time (hl₁.rely _ htime rfl)
  refine ⟨hmay, Safe.ensure fun hdeleted => ?_⟩
  have hg₁ := (hg.later hl₁).after hadm hmay
  have hblind₁ : LooksNoneUp t ((credentialEndpoints w).after g₁ t
      (.nonces (.delete q.tenantId (nonce.getD "")))) :=
    looksNoneUp_after (fun a b c h => hblind a b c (hl₁.rely _ h rfl)) fun _ _ h => nomatch h
  have hconsumed : ConsumesNonce ((credentialEndpoints w).after g₁ t
      (.nonces (.delete q.tenantId (nonce.getD "")))) t (q.tenantId, nonce.getD "") := by
    rw [ConsumesNonce, ← hdeleted]
    exact List.mem_cons_self
  refine (Safe.keep hg₁ (only_storeTransaction q proof authorized interval)
    (fun g' op _ _ hop _ => may_of_calm ?_) hblind₁
    (fun hl h a b c hfind => h a b c (hl.rely _ hfind rfl))
    (fun hop h => looksNoneUp_after h fun _ _ heq => ?_) (System.yields_true _)).imp hg₁ ?_
  · cases op <;> trivial
  · subst heq
    exact hop
  · rintro - g₂ hext - ⟨hblind₂, -⟩
    refine ⟨fun n hn => ?_, .inl hblind₂⟩
    -- the request has one proof, and its nonce is the one consumed
    obtain ⟨proof', hmem, hdecode⟩ := hn
    have hone : q.proofs = [proof] := by
      unfold singleProof at hproof
      split at hproof
      · rename_i p hproofs
        split at hproof
        · rw [hproofs, Except.ok.inj hproof]
        · cases hproof
      · cases hproof
    rw [hone, List.mem_singleton] at hmem
    subst hmem
    obtain rfl : nonce = some n := Option.some.inj (hnonce.symm.trans hdecode)
    exact hext.event hconsumed

/-- **`getCredential` leaves the evidence of what it accepts.** -/
theorem safe_getCredentialResponse {q : ParsedCredentialRequest} (hg : (nonces w).At t r g)
    (hsilent : g.Silent t) :
    (nonces w).Safe t (fun g' _ => Evidence w t q g') (getCredentialResponse w q) g := by
  refine Safe.call fun g₁ hl₁ hadm => ⟨trivial, ?_⟩
  have hg₁ := (hg.later hl₁).after hadm (show NonceMay g₁ t (.ask (.authorize q)) from trivial)
  have hquiet : ∀ op res, op ≠ .ask (.authorize q) → (⟨t, op, res⟩ : CredentialEvent) ∉
      ((credentialEndpoints w).after g₁ t (.ask (.authorize q))).trace := by
    intro op res hop he
    rcases List.mem_cons.mp he with heq | hold
    · injection heq with _ hsame _
      exact hop hsame
    · exact (hsilent.later hl₁.rely) _ hold rfl
  refine Safe.ofExcept fun authorized _ => ?_
  cases authorized.deferred with
  | some interval =>
    exact safe_createDeferredTransaction hg₁ (fun time => hquiet _ _ fun h => nomatch h)
      fun _ _ _ => hquiet _ _ fun h => nomatch h
  | none =>
    refine (safe_validateAndConsume hg₁ fun time => hquiet _ _ fun h => nomatch h).bind hg₁
      fun _ g₂ _ hg₂ hdone => ?_
    refine Safe.call fun g₃ hl₃ _ => ⟨trivial, Safe.ofExcept
      fun credentials _ => Safe.ret fun g₄ hl₄ => ?_⟩
    obtain ⟨now, hread, hconsumed⟩ := hdone
    have hext₃ := hl₃.hist.trans (System.extends_after (M := credentialEndpoints w) g₃ t
      (.ask (.issueCredentials q authorized)))
    have hread₃ : ReadOnce t now ((credentialEndpoints w).after g₃ t
        (.ask (.issueCredentials q authorized))) :=
      (hread.quiet hl₃.hist hl₃.rely).after fun h => nomatch h
    have hread₄ : ReadOnce t now g₄ := hread₃.quiet hl₄.hist hl₄.rely
    refine ⟨fun n hn => ?_, .inr ⟨now, hread₄.read, hread₄.only, fun n hn => ?_⟩⟩
    · exact ((hconsumed n hn).extends (hext₃.trans hl₄.hist)).1
    · exact ((hconsumed n hn).extends (hext₃.trans hl₄.hist)).2

/-- **The nonce endpoint** saves the value it drew, once. -/
theorem safe_issueNonce (hsilent : g.Silent t) :
    (nonces w).Safe t (fun _ _ => True) (issueNonce tenantId) g := by
  refine Safe.call fun g₁ hl₁ _ => ⟨trivial, ?_⟩
  have hdrew : DrewUuid ((credentialEndpoints w).after g₁ t .uuid) t (w.uuid g₁.store.draws) :=
    List.mem_cons_self
  refine Safe.call fun g₂ hl₂ _ => ⟨trivial, Safe.call fun g₃ hl₃ _ =>
    ⟨⟨?_, fun row hsaved => ?_⟩, Safe.ret fun _ _ => trivial⟩⟩
  · exact hl₃.hist.event ((System.extends_after _ _ _).event (hl₂.hist.event hdrew))
  · -- so far the thread has drawn a value and read the clock
    rcases List.mem_cons.mp (hl₃.rely _ hsaved rfl) with heq | hold
    · injection heq with _ hop _
      cases hop
    · rcases List.mem_cons.mp (hl₂.rely _ hold rfl) with heq | hold
      · injection heq with _ hop _
        cases hop
      · exact (hsilent.later hl₁.rely) _ hold rfl

theorem calm_getDeferredCredential (q : DeferredCredentialRequest) :
    (getDeferredCredential q).Only Calm := by
  have hpolled (token : Json) : (polledTransaction q token).Only Calm := by
    refine Only.await trivial fun found => ?_
    cases found with
    | none => trivial
    | some transaction =>
      exact Only.await trivial fun _ =>
        Only.ensure fun _ => trivial
  refine Only.await trivial fun _ => Only.bind (only_ofExcept _) fun token =>
    Only.bind (hpolled token) fun transaction => Only.await trivial fun _ =>
    Only.bind (only_ofExcept _) fun _ => Only.await trivial fun now => ?_
  cases resolveDeferredCredentialRetrieval transaction now with
  | ready credential =>
    exact Only.await trivial fun _ => Only.ensure fun _ => trivial
  | expire => exact Only.await trivial fun _ => trivial
  | _ => trivial

theorem calm_updatedTransaction (tenantId transactionId : String) :
    (updatedTransaction tenantId transactionId).Only Calm := by
  refine Only.await trivial fun found => ?_
  cases found <;> trivial

theorem calm_completeDeferredCredential (q : CompleteDeferredCredentialInput) :
    (completeDeferredCredential q).Only Calm := by
  refine Only.await trivial fun found => ?_
  cases found with
  | none => trivial
  | some transaction =>
    exact Only.await trivial fun _ => Only.bind (only_ofExcept _) fun _ =>
      Only.await trivial fun _ => Only.bind (only_ofExcept _) fun _ =>
      Only.await trivial fun _ => calm_updatedTransaction _ _

theorem calm_failDeferredCredential (tenantId transactionId : String)
    (errorMessage : Option String) :
    (failDeferredCredential tenantId transactionId errorMessage).Only Calm := by
  refine Only.await trivial fun found => ?_
  cases found with
  | none => trivial
  | some transaction =>
    exact Only.await trivial fun _ => calm_updatedTransaction _ _

end Handlers

/-- **Every request follows the discipline.** -/
theorem nonces_verified (w : CredentialWorld) : (nonces w).Verified := by
  intro g r hinv _ hg
  have hsilent := hinv.numbered.silent r
  have hcalm {p : CredentialProg CredentialAnswer} (hp : p.Only Calm) :
      (nonces w).Safe g.requests.length (fun _ _ => True) p (g.arrive r) :=
    Safe.of_only hg hp fun _ _ _ _ hop _ => may_of_calm hop
  cases r with
  | nonce tenantId =>
    exact (safe_issueNonce hsilent).bind hg fun _ _ _ _ _ => Safe.ret fun _ _ => trivial
  | credential q => exact safe_getCredentialResponse hg hsilent
  | deferredCredential q => exact hcalm (calm_getDeferredCredential q)
  | complete q => exact hcalm (calm_completeDeferredCredential q)
  | fail tenantId transactionId message => exact hcalm (calm_failDeferredCredential _ _ _)
  | cleanupNonces =>
    exact hcalm (Only.bind (Only.await trivial fun _ => only_invoke.mpr trivial)
      fun _ => trivial)
  | cleanupTransactions =>
    exact hcalm (Only.bind (Only.await trivial fun _ => only_invoke.mpr trivial)
      fun _ => trivial)

theorem inv_start {st : CredentialStore} (hempty : st.nonces = Table.empty) :
    NonceInv w (⟨st, [], []⟩ : CredentialState) where
  numbered := Global.numbered_start st
  drawn := .start st
  stored key row hrow := by
    rw [hempty] at hrow
    cases hrow
  found _ _ _ _ h := (List.not_mem_nil h).elim
  drew _ _ h := (List.not_mem_nil h).elim
  savedOnce _ _ _ h := (List.not_mem_nil h).elim
  gone _ _ h := (List.not_mem_nil h).elim
  once _ _ _ h := (List.not_mem_nil h).elim

end CredentialNonces

open CredentialNonces in
/-- **Nonces are single use and fresh** in every run in which the nonces of deferred requests
are valid where they are consumed. -/
theorem nonces_fresh (w : CredentialWorld) (st : CredentialStore) (ms : CredentialSchedule)
    (hempty : st.nonces = Table.empty)
    (hfits : (credentialEndpoints w).Guarded ConsumesValid (.start st) ms) :
    NoncesFresh w st ms := by
  have hadmits : (credentialEndpoints w).Guarded (nonces w).admits (.start st) ms :=
    System.guarded_of_forall (fun _ _ _ => trivial) _ _
  have hstart := Discipline.holds_start (D := nonces w) (inv_start hempty)
  have hholds := Discipline.run_holds (nonces_verified w) hstart (fun _ _ => trivial) hadmits
  have hguarded := Discipline.run_guarded (nonces_verified w) hstart (fun _ _ => trivial) hadmits
  refine ⟨fun t t' q q' h h' hne n hn hn' => ?_, fun t q h n hn => ?_⟩
  · obtain ⟨a, ha⟩ := h
    obtain ⟨a', ha'⟩ := h'
    have hcons : Evidence w t q _ := hholds.answer ha
    have hcons' : Evidence w t' q' _ := hholds.answer ha'
    -- both nonces were saved, and a nonce is saved for one tenant
    obtain ⟨-, t₁, row, hsaved, hkey⟩ := hholds.inv.gone t _ (hcons.consumed n hn)
    obtain ⟨-, t₂, row', hsaved', hkey'⟩ := hholds.inv.gone t' _ (hcons'.consumed n hn')
    have hnonce : row.nonce = row'.nonce :=
      (congrArg Prod.snd hkey).trans (congrArg Prod.snd hkey').symm
    obtain rfl := saved_unique hholds.inv hsaved hsaved' hnonce
    have hconsumed := hcons'.consumed n hn'
    rw [← hkey', hkey] at hconsumed
    exact hne (hholds.inv.once t t' _ (hcons.consumed n hn) hconsumed)
  · obtain ⟨a, ha⟩ := h
    have hev : Evidence w t q _ := hholds.answer ha
    obtain ⟨ms₁, ms₂, r, k, rfl, hget, hres⟩ :=
      System.run_event (hev.consumed n hn) List.not_mem_nil
    have hsome : (true : Bool) =
        (((credentialEndpoints w).run (.start st) ms₁).store.nonces.get (q.tenantId, n)).isSome :=
      hres
    obtain ⟨row, hrow⟩ := Option.isSome_iff_exists.mp hsome.symm
    obtain ⟨hinv, hmay⟩ := hguarded.at hget
    have hext := System.extends_run (M := credentialEndpoints w)
      ((credentialEndpoints w).run (.start st) ms₁) (.resume t :: ms₂)
    rw [← System.run_append] at hext
    have hwait : System.waiting ((credentialEndpoints w).run (.start st) ms₁) t =
        some (.nonces (.delete q.tenantId n)) := by
      have hget' : ((credentialEndpoints w).run (.start st) ms₁).threads[t]? = _ := hget
      simp [System.waiting, hget']
    rcases hmay with hsilent | ⟨⟨row', hfind⟩, time, htime⟩
    · exact ⟨ms₁, ms₂, row, _, rfl, hwait, hrow, .inr ⟨hsilent, rfl⟩,
        hfits.at hget q.tenantId n row rfl hrow hsilent⟩
    · rcases hev.valid with hblind | ⟨now, -, honly, hvalid⟩
      · exact absurd (hext.event hfind) (hblind _ _ _)
      · -- the row the thread looked up is the one it deletes
        obtain ⟨row₀, hfind₀, hle⟩ := hvalid n hn
        obtain rfl := honly time (hext.event htime)
        obtain ⟨hkey₀, t₀, hsaved₀⟩ := hholds.inv.found _ _ _ _ hfind₀
        obtain ⟨t₁, hsaved₁⟩ := hinv.stored _ _ hrow
        have hsame : row₀.nonce = row.nonce := by
          have hkey := Table.get_key hrow
          exact (congrArg Prod.snd hkey₀).trans (congrArg Prod.snd hkey).symm
        obtain rfl := saved_unique hholds.inv hsaved₀ (hext.event hsaved₁) hsame
        exact ⟨ms₁, ms₂, row₀, time, rfl, hwait, hrow, .inl htime, hle⟩

/-! ## Two runs -/

namespace CredentialNonces

open CredentialDeployment

def request (body : String) : ParsedCredentialRequest :=
  { tenantId := "tenant", accessToken := "token", proofType := .jwt, proofs := ["u"], body }

/-- A nonce is issued, and used at once and again, deferred. -/
def reused : CredentialSchedule :=
  serve 0 (.nonce "tenant") 3 ++ serve 1 (.credential (request "")) 5 ++
    serve 2 (.credential (request "deferred")) 7

/-- A nonce is issued, and used for a deferred credential a millisecond after its expiry. -/
def expired : CredentialSchedule :=
  serve 0 (.nonce "tenant") 3 ++ .drift 600001 :: serve 1 (.credential (request "deferred")) 7

def consumesValid (g : CredentialState) (_ : Nat) : CredentialCall → Bool
  | .nonces (.delete tenantId n) =>
    (g.store.nonces.get (tenantId, n)).all fun row => decide (g.store.clock ≤ row.expiresAt)
  | _ => true

theorem consumesValid_sound (g : CredentialState) (tid : Nat) (op : CredentialCall)
    (h : consumesValid g tid op = true) : ConsumesValid g tid op := by
  rintro tenantId n row rfl hrow -
  simpa [consumesValid, hrow] using h

end CredentialNonces

/-- A reused nonce is rejected, as the theorem says. -/
theorem nonces_fresh_of_reused :
    NoncesFresh CredentialDeployment.world CredentialDeployment.fresh CredentialNonces.reused :=
  nonces_fresh _ _ _ rfl
    (System.guarded_of_checks CredentialNonces.consumesValid_sound (by decide +kernel))

namespace CredentialNonces

open CredentialDeployment

/-- After `i` moves: if thread 1 waits to consume a nonce, it has not read the clock, and
every stored nonce has expired. -/
def consumesExpired (i : Nat) : Bool :=
  let c := (credentialEndpoints world).run (.start CredentialDeployment.fresh) (expired.take i)
  match System.waiting c 1 with
  | some (.nonces (.delete _ _)) =>
    (c.trace.all fun | ⟨1, .now, _⟩ => false | _ => true) &&
      c.store.nonces.rows.all fun row => decide (row.expiresAt < c.store.clock)
  | _ => true

end CredentialNonces

/-- **A deferred request is accepted with an expired nonce**: the deferred path deletes the
row without a look at its expiry. -/
theorem not_nonces_fresh :
    ¬NoncesFresh CredentialDeployment.world CredentialDeployment.fresh
      CredentialNonces.expired := by
  intro h
  have haccepts : AcceptsRequest ((credentialEndpoints CredentialDeployment.world).run
      (.start CredentialDeployment.fresh) CredentialNonces.expired) 1
      (CredentialNonces.request "deferred") := ⟨_, rfl⟩
  obtain ⟨ms₁, ms₂, row, time, hsplit, hwait, hrow, hchecked, hle⟩ :=
    h.fresh 1 _ haccepts "u" ⟨"u", List.mem_cons_self, rfl⟩
  have hall : (List.range 13).all CredentialNonces.consumesExpired = true := by decide +kernel
  have hlen : ms₁.length < 13 := by
    have hmoves : CredentialNonces.expired.length = 13 := rfl
    rw [hsplit, List.length_append, List.length_cons] at hmoves
    omega
  have hexpired := List.all_eq_true.mp hall ms₁.length (List.mem_range.mpr hlen)
  have htake : CredentialNonces.expired.take ms₁.length = ms₁ := by
    rw [hsplit]
    exact List.take_left
  simp only [CredentialNonces.consumesExpired, htake, hwait, Bool.and_eq_true] at hexpired
  obtain ⟨hsilent, hrows⟩ := hexpired
  have hlt := List.all_eq_true.mp hrows row (Table.get_eq_some.mp hrow).1
  rcases hchecked with hread | ⟨-, rfl⟩
  · exact absurd (List.all_eq_true.mp hsilent _ hread) Bool.false_ne_true
  · exact absurd (of_decide_eq_true hlt) (Nat.not_lt.mpr hle)

end Eudiplo
