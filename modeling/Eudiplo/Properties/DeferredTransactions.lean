import Eudiplo.Concurrency.RelyGuarantee
import Eudiplo.Credential.Effects

/-!
# Does a deferred transaction hand out one credential?

Of the four status writes only `markRetrieved` looks at the status it leaves.  So two
overlapping completions both issue, and a completion that overlaps a retrieval or a failure brings
the transaction back (`not_single_delivery`).

`single_delivery` holds for the runs in which every status write is a legal move of the stored
status and completions of one transaction do not overlap.
-/

namespace Eudiplo

open Concurrency Prog Discipline Storage

/-! ## The claim -/

/-- `retrieved`, `failed` and `expired` are meant to be final. -/
def DeferredTransactionStatus.isFinal : DeferredTransactionStatus → Bool
  | .retrieved | .failed | .expired => true
  | .pending | .ready => false

/-- The status of the transaction with id `k`. -/
def transactionStatus (c : CredentialConfig) (k : String) : Option DeferredTransactionStatus :=
  (c.store.transactions.get k).map (·.status)

/-- Thread `t` polled transaction `k` and was handed a credential. -/
def HandsOver (c : CredentialConfig) (t : Nat) (k : String) : Prop :=
  ∃ q credential, c.Answers t (.deferredCredential q) (.credential credential) ∧
    q.transaction_id = k

/-- Thread `t` completes transaction `k` and has issued a credential for it. -/
def IssuesDeferred (g : CredentialState) (t : Nat) (k : String) : Prop :=
  (∃ q, g.requests[t]? = some (.complete q) ∧ q.transactionId = k) ∧
    ∃ configuration holderCnf session claims issuanceSetId credential,
      (⟨t, .ask (.issueDeferred configuration holderCnf session claims issuanceSetId),
        .ok credential⟩ : CredentialEvent) ∈ g.trace

/-- **A transaction hands out at most one credential.** -/
structure SingleDelivery (w : CredentialWorld) (st : CredentialStore) (ms : CredentialSchedule) :
    Prop where
  /-- At most one poll returns a credential. -/
  delivered : ∀ t t' k, HandsOver ((credentialEndpoints w).run (.start st) ms) t k →
    HandsOver ((credentialEndpoints w).run (.start st) ms) t' k → t = t'
  /-- A final status stays while the transaction exists. -/
  final : ∀ ms₁ ms₂ k status status', ms = ms₁ ++ ms₂ →
    transactionStatus ((credentialEndpoints w).run (.start st) ms₁) k = some status →
    status.isFinal = true →
    transactionStatus ((credentialEndpoints w).run (.start st) ms) k = some status' →
    status' = status
  /-- A transaction that was failed delivers nothing. -/
  failed : ∀ ms₁ ms₂ k, ms = ms₁ ++ ms₂ →
    transactionStatus ((credentialEndpoints w).run (.start st) ms₁) k = some .failed →
    ∀ t, ¬HandsOver ((credentialEndpoints w).run (.start st) ms) t k
  /-- At most one completion issues a credential. -/
  issued : ∀ t t' k,
    IssuesDeferred ((credentialEndpoints w).run (.start st) ms).global t k →
    IssuesDeferred ((credentialEndpoints w).run (.start st) ms).global t' k → t = t'

def TransactionCall.writes (c : TransactionCall) (r : DeferredTransaction) :
    Option DeferredTransactionStatus :=
  match c with
  | .markReady tenantId id _ => if r.selects tenantId id then some .ready else none
  | .markFailed tenantId id _ => if r.selects tenantId id then some .failed else none
  | .markExpired tenantId id => if r.selects tenantId id then some .expired else none
  | .markRetrieved tenantId id =>
    if r.selects tenantId id && r.status == .ready then some .retrieved else none
  | _ => none

def DeferredTransactionStatus.canBecome : DeferredTransactionStatus →
    DeferredTransactionStatus → Bool
  | .pending, .ready | .pending, .failed | .pending, .expired => true
  | .ready, .retrieved | .ready, .failed | .ready, .expired => true
  | .failed, .failed | .expired, .expired => true
  | _, _ => false

/-- Thread `t` looked transaction `k` up, and it was pending. -/
def FindsPending (g : CredentialState) (t : Nat) (k : String) : Prop :=
  ∃ tenantId row, (⟨t, .transactions (.findPending tenantId k), some row⟩ : CredentialEvent) ∈
    g.trace

/-- Thread `t` was refused the session or the credential of its completion. -/
def Refused (g : CredentialState) (t : Nat) : Prop :=
  (∃ tenantId sessionId e,
    (⟨t, .ask (.getSession tenantId sessionId), .error e⟩ : CredentialEvent) ∈ g.trace) ∨
  ∃ configuration holderCnf session claims issuanceSetId e,
    (⟨t, .ask (.issueDeferred configuration holderCnf session claims issuanceSetId),
      .error e⟩ : CredentialEvent) ∈ g.trace

/-- **The condition**: a status is only written where it may follow the stored one, and a
completion finds a transaction pending only when every other completion that found it
pending has ended without a credential. -/
structure OrderlyTransactions (g : CredentialState) (tid : Nat) (op : CredentialCall) : Prop where
  writes : ∀ c k row status, op = .transactions c → g.store.transactions.get k = some row →
    c.writes row = some status → row.status.canBecome status = true
  completions : ∀ tenantId k row, op = .transactions (.findPending tenantId k) →
    g.store.transactions.find (fun r => r.selects tenantId k && r.status == .pending) = some row →
    ∀ t, t ≠ tid → FindsPending g t k → Refused g t

namespace DeferredTransactions

variable {w : CredentialWorld} {g g' : CredentialState} {tid t : Nat} {op : CredentialCall}

/-! ## What the events say -/

/-- Thread `t` created the transaction `k`. -/
def Creates (g : CredentialState) (t : Nat) (k : String) : Prop :=
  ∃ transaction, (⟨t, .transactions (.create transaction), ()⟩ : CredentialEvent) ∈ g.trace ∧
    transaction.transactionId = k

/-- Thread `t` marked the transaction `k` retrieved. -/
def Retrieves (g : CredentialState) (t : Nat) (k : String) : Prop :=
  ∃ tenantId, (⟨t, .transactions (.markRetrieved tenantId k), (true : Bool)⟩ : CredentialEvent) ∈
    g.trace

/-- Thread `t` asked for a credential, with this outcome. -/
def AsksIssuer (g : CredentialState) (t : Nat) (outcome : Except CredentialError String) : Prop :=
  ∃ configuration holderCnf session claims issuanceSetId,
    (⟨t, .ask (.issueDeferred configuration holderCnf session claims issuanceSetId), outcome⟩ :
      CredentialEvent) ∈ g.trace

theorem finds_extends {k : String} (h : FindsPending g t k) (hext : g.Extends g') :
    FindsPending g' t k := by
  obtain ⟨tenantId, row, he⟩ := h
  exact ⟨tenantId, row, hext.event he⟩

theorem refused_extends (h : Refused g t) (hext : g.Extends g') : Refused g' t := by
  rcases h with ⟨a, b, e, he⟩ | ⟨a, b, c, d, i, e, he⟩
  · exact .inl ⟨a, b, e, hext.event he⟩
  · exact .inr ⟨a, b, c, d, i, e, hext.event he⟩

theorem Creates.extends {k : String} (h : Creates g t k) (hext : g.Extends g') :
    Creates g' t k := by
  obtain ⟨transaction, he, hk⟩ := h
  exact ⟨transaction, hext.event he, hk⟩

/-! ## One call on one row -/

/-- **What a call makes of a row**: it was created, or its status is the one written, or
the one it had. -/
theorem transaction_row {k : String} {row' : DeferredTransaction}
    (h : ((credentialEndpoints w).after g tid op).store.transactions.get k = some row') :
    (∃ transaction, op = .transactions (.create transaction) ∧ transaction.transactionId = k) ∨
      ∃ row, g.store.transactions.get k = some row ∧
        (row'.status = row.status ∨
          ∃ c, op = .transactions c ∧ c.writes row = some row'.status) := by
  by_cases hop : ∃ c, op = .transactions c
  · obtain ⟨c, rfl⟩ := hop
    -- an update of the rows that match `p`
    have hupdate (p : DeferredTransaction → Bool) (f : DeferredTransaction → DeferredTransaction)
        (hf : ∀ r, (f r).transactionId = r.transactionId) (status : DeferredTransactionStatus)
        (hstatus : ∀ r, (f r).status = status)
        (hwrites : ∀ r, p r = true → c.writes r = some status)
        (hget : (g.store.transactions.updateWhere p f hf).get k = some row') :
        ∃ row, g.store.transactions.get k = some row ∧ (row'.status = row.status ∨
          ∃ c', CredentialCall.transactions c = .transactions c' ∧
            c'.writes row = some row'.status) := by
      rw [Table.get_updateWhere, Option.map_eq_some_iff] at hget
      obtain ⟨row, hrow, rfl⟩ := hget
      refine ⟨row, hrow, ?_⟩
      by_cases hp : p row = true
      · right
        rw [if_pos hp, hstatus]
        exact ⟨c, rfl, hwrites row hp⟩
      · left
        rw [if_neg hp]
    cases c with
    | create transaction =>
      have hget := (Table.get_upsert g.store.transactions transaction _ _ k).symm.trans h
      split at hget
      · rename_i hkey
        exact .inl ⟨transaction, rfl, hkey⟩
      · exact .inr ⟨row', hget, .inl rfl⟩
    | findPending tenantId id => exact .inr ⟨row', h, .inl rfl⟩
    | find tenantId id => exact .inr ⟨row', h, .inl rfl⟩
    | markReady tenantId id credential =>
      exact .inr (hupdate (fun r => r.selects tenantId id)
        (fun r => { r with status := .ready, credential := some credential }) (fun _ => rfl) .ready
        (fun _ => rfl) (fun r hr => if_pos hr) h)
    | markFailed tenantId id message =>
      exact .inr (hupdate (fun r => r.selects tenantId id)
        (fun r => { r with status := .failed, errorMessage := some message }) (fun _ => rfl) .failed
        (fun _ => rfl) (fun r hr => if_pos hr) h)
    | markRetrieved tenantId id =>
      exact .inr (hupdate (fun r => r.selects tenantId id && r.status == .ready)
        (fun r => { r with status := .retrieved }) (fun _ => rfl) .retrieved
        (fun _ => rfl) (fun r hr => if_pos hr) h)
    | markExpired tenantId id =>
      exact .inr (hupdate (fun r => r.selects tenantId id)
        (fun r => { r with status := .expired }) (fun _ => rfl) .expired
        (fun _ => rfl) (fun r hr => if_pos hr) h)
    | deleteExpired now =>
      have hget : (g.store.transactions.deleteWhere _).get k = some row' := h
      rw [Table.get_deleteWhere, Option.filter_eq_some_iff] at hget
      exact .inr ⟨row', hget.1, .inl rfl⟩
  · have hframe := credential_transactions_frame (w := w) (s := g.store) fun c hc => hop ⟨c, hc⟩
    have hget : (op.answer w g.store).2.transactions.get k = some row' := h
    rw [hframe] at hget
    exact .inr ⟨row', hget, .inl rfl⟩

theorem final_canBecome {status status' : DeferredTransactionStatus}
    (hfinal : status.isFinal = true) (h : status.canBecome status' = true) : status' = status := by
  cases status with
  | pending => cases hfinal
  | ready => cases hfinal
  | retrieved => cases status' <;> cases h
  | expired => cases status' <;> first | rfl | cases h
  | failed => cases status' <;> first | rfl | cases h

/-- **A final status is kept** by every call that does not create the transaction anew. -/
theorem final_after {k : String} {row row' : DeferredTransaction}
    (hadm : OrderlyTransactions g tid op) (hrow : g.store.transactions.get k = some row)
    (hfinal : row.status.isFinal = true)
    (hnew : ∀ transaction, op = .transactions (.create transaction) →
      transaction.transactionId ≠ k)
    (hrow' : ((credentialEndpoints w).after g tid op).store.transactions.get k = some row') :
    row'.status = row.status := by
  rcases transaction_row hrow' with ⟨transaction, hop, hk⟩ | ⟨row₀, hrow₀, hsame | ⟨c, rfl, hc⟩⟩
  · exact absurd hk (hnew transaction hop)
  · obtain rfl := Option.some.inj (hrow.symm.trans hrow₀)
    exact hsame
  · obtain rfl := Option.some.inj (hrow.symm.trans hrow₀)
    exact final_canBecome hfinal (hadm.writes c k row row'.status rfl hrow hc)

/-! ## The invariant -/

/-- **The invariant** between any two calls. -/
structure DeferredInv (w : CredentialWorld) (g : CredentialState) : Prop where
  numbered : g.Numbered
  drawn : (uuids w).Once g
  stored : ∀ k row, g.store.transactions.get k = some row → ∃ t, Creates g t k
  drew : ∀ t k, Creates g t k → DrewUuid g t k
  /-- A delivery leaves the transaction retrieved, so there is one. -/
  retrieved : ∀ t k, Retrieves g t k → (∃ t', Creates g t' k) ∧
    ∀ row, g.store.transactions.get k = some row → row.status = .retrieved
  once : ∀ t t' k, Retrieves g t k → Retrieves g t' k → t = t'
  /-- Of two completions that found the transaction pending, one was refused. -/
  overlap : ∀ t t' k, t ≠ t' → FindsPending g t k → FindsPending g t' k →
    Refused g t ∨ Refused g t'
  issues : ∀ t credential, AsksIssuer g t (.ok credential) → ¬Refused g t ∧
    ∀ q, g.requests[t]? = some (.complete q) → FindsPending g t q.transactionId

/-- **What a thread may call.** -/
def DeferredMay (g : CredentialState) (tid : Nat) : CredentialCall → Prop
  | .transactions (.create transaction) =>
    DrewUuid g tid transaction.transactionId ∧ ∀ k, ¬Creates g tid k
  | .ask (.getSession ..) => ∀ outcome, ¬AsksIssuer g tid outcome
  | .ask (.issueDeferred ..) => (∀ outcome, ¬AsksIssuer g tid outcome) ∧ ¬Refused g tid ∧
    ∀ q, g.requests[tid]? = some (.complete q) → FindsPending g tid q.transactionId
  | _ => True

theorem not_created_again (hinv : DeferredInv w g) {transaction : DeferredTransaction}
    (hmay : DeferredMay g tid (.transactions (.create transaction))) :
    ¬Creates g t transaction.transactionId := by
  intro hcreates
  obtain rfl := drewUuid_unique hinv.drawn (hinv.drew _ _ hcreates) hmay.1
  exact hmay.2 _ hcreates

theorem creates_after {k : String}
    (h : Creates ((credentialEndpoints w).after g tid op) t k) :
    (t = tid ∧ ∃ transaction, op = .transactions (.create transaction) ∧
      transaction.transactionId = k) ∨ Creates g t k := by
  obtain ⟨transaction, he, hk⟩ := h
  rcases List.mem_cons.mp he with heq | hold
  · injection heq with ht hop _
    exact .inl ⟨ht, transaction, hop.symm, hk⟩
  · exact .inr ⟨transaction, hold, hk⟩

theorem retrieves_after {k : String}
    (h : Retrieves ((credentialEndpoints w).after g tid op) t k) :
    (t = tid ∧ ∃ tenantId row, op = .transactions (.markRetrieved tenantId k) ∧
      g.store.transactions.get k = some row ∧ row.selects tenantId k = true ∧
      row.status = .ready) ∨ Retrieves g t k := by
  obtain ⟨tenantId, he⟩ := h
  rcases List.mem_cons.mp he with heq | hold
  · injection heq with ht hop hres
    subst hop
    have hcount : (true : Bool) = decide (0 < g.store.transactions.count fun r =>
        r.selects tenantId k && r.status == .ready) := eq_of_heq hres
    have hpos := of_decide_eq_true hcount.symm
    rw [Table.count_pos_of_key (k := k) fun r hr => ?_] at hpos
    · obtain ⟨row, hrow, hready⟩ := hpos
      rw [Bool.and_eq_true, beq_iff_eq] at hready
      exact .inl ⟨ht, tenantId, row, rfl, hrow, hready.1, hready.2⟩
    · simp only [DeferredTransaction.selects, Bool.and_eq_true, beq_iff_eq] at hr
      exact hr.1.2
  · exact .inr ⟨tenantId, hold⟩

theorem finds_after {k : String}
    (h : FindsPending ((credentialEndpoints w).after g tid op) t k) :
    (t = tid ∧ ∃ tenantId row, op = .transactions (.findPending tenantId k) ∧
      g.store.transactions.find (fun r => r.selects tenantId k && r.status == .pending) =
        some row) ∨ FindsPending g t k := by
  obtain ⟨tenantId, row, he⟩ := h
  rcases List.mem_cons.mp he with heq | hold
  · injection heq with ht hop hres
    subst hop
    exact .inl ⟨ht, tenantId, row, rfl, (eq_of_heq hres).symm⟩
  · exact .inr ⟨tenantId, row, hold⟩

theorem asks_after {outcome : Except CredentialError String}
    (h : AsksIssuer ((credentialEndpoints w).after g tid op) t outcome) :
    (t = tid ∧ ∃ configuration holderCnf session claims issuanceSetId,
      op = .ask (.issueDeferred configuration holderCnf session claims issuanceSetId) ∧
      w.answer (.issueDeferred configuration holderCnf session claims issuanceSetId)
        g.store.asked = outcome) ∨ AsksIssuer g t outcome := by
  obtain ⟨a, b, c, d, i, he⟩ := h
  rcases List.mem_cons.mp he with heq | hold
  · injection heq with ht hop hres
    subst hop
    exact .inl ⟨ht, a, b, c, d, i, rfl, (eq_of_heq hres).symm⟩
  · exact .inr ⟨a, b, c, d, i, hold⟩

theorem refused_after (h : Refused ((credentialEndpoints w).after g tid op) t) :
    (t = tid ∧ ((∃ tenantId sessionId, op = .ask (.getSession tenantId sessionId)) ∨
      ∃ configuration holderCnf session claims issuanceSetId e,
        op = .ask (.issueDeferred configuration holderCnf session claims issuanceSetId) ∧
        w.answer (.issueDeferred configuration holderCnf session claims issuanceSetId)
          g.store.asked = .error e)) ∨ Refused g t := by
  rcases h with ⟨a, b, e, he⟩ | ⟨a, b, c, d, i, e, he⟩
  · rcases List.mem_cons.mp he with heq | hold
    · injection heq with ht hop _
      exact .inl ⟨ht, .inl ⟨a, b, hop.symm⟩⟩
    · exact .inr (.inl ⟨a, b, e, hold⟩)
  · rcases List.mem_cons.mp he with heq | hold
    · injection heq with ht hop hres
      subst hop
      exact .inl ⟨ht, .inr ⟨a, b, c, d, i, e, rfl, (eq_of_heq hres).symm⟩⟩
    · exact .inr (.inr ⟨a, b, c, d, i, e, hold⟩)

theorem final_kept (hinv : DeferredInv w g) (hadm : OrderlyTransactions g tid op)
    (hmay : DeferredMay g tid op) {k : String} {status : DeferredTransactionStatus}
    (hfinal : status.isFinal = true) (hcreated : Creates g t k)
    (hrow : ∀ row, g.store.transactions.get k = some row → row.status = status)
    {row' : DeferredTransaction}
    (hrow' : ((credentialEndpoints w).after g tid op).store.transactions.get k = some row') :
    row'.status = status := by
  have hnew (transaction) (hop : op = .transactions (.create transaction)) :
      transaction.transactionId ≠ k := by
    subst hop
    rintro rfl
    exact not_created_again hinv hmay hcreated
  rcases transaction_row hrow' with ⟨transaction, hop, hk⟩ | ⟨row, hget, -⟩
  · exact absurd hk (hnew transaction hop)
  · have hstatus := hrow row hget
    rw [← hstatus] at hfinal ⊢
    exact final_after hadm hget hfinal hnew hrow'

theorem retrieved_after (hinv : DeferredInv w g) (hadm : OrderlyTransactions g tid op)
    (hmay : DeferredMay g tid op) {k : String}
    (hretrieves : Retrieves ((credentialEndpoints w).after g tid op) t k) :
    (∃ t', Creates ((credentialEndpoints w).after g tid op) t' k) ∧
      ∀ row, ((credentialEndpoints w).after g tid op).store.transactions.get k = some row →
        row.status = .retrieved := by
  have hext := System.extends_after (M := credentialEndpoints w) g tid op
  rcases retrieves_after hretrieves with ⟨rfl, tenantId, row, rfl, hrow, hsel, hready⟩ | hold
  · obtain ⟨t', hcreates⟩ := hinv.stored k row hrow
    refine ⟨⟨t', hcreates.extends hext⟩, fun row' hrow' => ?_⟩
    have hget : (g.store.transactions.updateWhere
        (fun r => r.selects tenantId k && r.status == .ready)
        (fun r => { r with status := .retrieved }) fun _ => rfl).get k = some row' := hrow'
    rw [Table.get_updateWhere, hrow, Option.map_some, if_pos (by simp [hsel, hready])]
      at hget
    exact (Option.some.inj hget) ▸ rfl
  · obtain ⟨⟨t', hcreates⟩, hstatus⟩ := hinv.retrieved t k hold
    exact ⟨⟨t', hcreates.extends hext⟩, fun row' hrow' =>
      final_kept hinv hadm hmay rfl hcreates hstatus hrow'⟩

theorem retrievedOnce_after (hinv : DeferredInv w g) {t' : Nat} {k : String}
    (hretrieves : Retrieves ((credentialEndpoints w).after g tid op) t k)
    (hretrieves' : Retrieves ((credentialEndpoints w).after g tid op) t' k) : t = t' := by
  rcases retrieves_after hretrieves with ⟨rfl, -, row, -, hrow, -, hready⟩ | hold <;>
    rcases retrieves_after hretrieves' with ⟨rfl, -, row', -, hrow', -, hready'⟩ | hold'
  · rfl
  · rw [(hinv.retrieved t' k hold').2 row hrow] at hready
    cases hready
  · rw [(hinv.retrieved t k hold).2 row' hrow'] at hready'
    cases hready'
  · exact hinv.once t t' k hold hold'

theorem overlap_after (hinv : DeferredInv w g) (hadm : OrderlyTransactions g tid op) {t' : Nat}
    {k : String} (hne : t ≠ t')
    (hfinds : FindsPending ((credentialEndpoints w).after g tid op) t k)
    (hfinds' : FindsPending ((credentialEndpoints w).after g tid op) t' k) :
    Refused ((credentialEndpoints w).after g tid op) t ∨
      Refused ((credentialEndpoints w).after g tid op) t' := by
  have hext := System.extends_after (M := credentialEndpoints w) g tid op
  rcases finds_after hfinds with ⟨rfl, tenantId, row, rfl, hfind⟩ | hold <;>
    rcases finds_after hfinds' with ⟨rfl, tenantId', row', hop, hfind'⟩ | hold'
  · exact absurd rfl hne
  · exact .inr (refused_extends
      (hadm.completions tenantId k row rfl hfind t' hne.symm hold') hext)
  · exact .inl (refused_extends (hadm.completions tenantId' k row' hop hfind' t hne hold) hext)
  · exact (hinv.overlap t t' k hne hold hold').imp (refused_extends · hext)
      (refused_extends · hext)

theorem issues_after (hinv : DeferredInv w g) (hmay : DeferredMay g tid op) {credential : String}
    (hasks : AsksIssuer ((credentialEndpoints w).after g tid op) t (.ok credential)) :
    ¬Refused ((credentialEndpoints w).after g tid op) t ∧
      ∀ q, g.requests[t]? = some (.complete q) →
        FindsPending ((credentialEndpoints w).after g tid op) t q.transactionId := by
  have hext := System.extends_after (M := credentialEndpoints w) g tid op
  rcases asks_after hasks with ⟨rfl, a, b, c, d, i, rfl, hanswer⟩ | hold
  · refine ⟨fun hrefused => ?_, fun q hq => finds_extends (hmay.2.2 q hq) hext⟩
    rcases refused_after hrefused with
      ⟨-, ⟨_, _, hop⟩ | ⟨_, _, _, _, _, e, hop, herror⟩⟩ | hbefore
    · cases hop
    · -- the same question would have had two answers
      cases hop
      rw [hanswer] at herror
      cases herror
    · exact hmay.2.1 hbefore
  · obtain ⟨hnot, hfound⟩ := hinv.issues t credential hold
    refine ⟨fun hrefused => ?_, fun q hq => finds_extends (hfound q hq) hext⟩
    rcases refused_after hrefused with ⟨rfl, ⟨_, _, rfl⟩ | ⟨_, _, _, _, _, e, rfl, -⟩⟩ | hbefore
    · exact hmay _ hold
    · exact hmay.1 _ hold
    · exact hnot hbefore

/-- **One call keeps the invariant.** -/
theorem inv_after {r : CredentialEndpointRequest} (hinv : DeferredInv w g)
    (hr : g.requests[tid]? = some r) (hadm : OrderlyTransactions g tid op)
    (hmay : DeferredMay g tid op) : DeferredInv w ((credentialEndpoints w).after g tid op) := by
  have hext := System.extends_after (M := credentialEndpoints w) g tid op
  refine {
    numbered := hinv.numbered.after hr
    drawn := hinv.drawn.after tid op
    stored := fun k row' hrow' => ?_
    drew := fun t k hcreates => ?_
    retrieved := fun t k hretrieves => retrieved_after hinv hadm hmay hretrieves
    once := fun t t' k hretrieves hretrieves' => retrievedOnce_after hinv hretrieves hretrieves'
    overlap := fun t t' k hne hfinds hfinds' => overlap_after hinv hadm hne hfinds hfinds'
    issues := fun t credential hasks => issues_after hinv hmay hasks }
  · rcases transaction_row hrow' with ⟨transaction, rfl, hk⟩ | ⟨row, hrow, -⟩
    · exact ⟨tid, transaction, List.mem_cons_self, hk⟩
    · obtain ⟨t, hcreates⟩ := hinv.stored k row hrow
      exact ⟨t, hcreates.extends hext⟩
  · rcases creates_after hcreates with ⟨rfl, transaction, rfl, rfl⟩ | hold
    · exact hmay.1.extends hext
    · exact (hinv.drew t k hold).extends hext

/-! ## The discipline -/

def DeferredPost (t : Nat) : CredentialEndpointRequest → CredentialState → CredentialAnswer → Prop
  | .deferredCredential q, g, .credential _ => Retrieves g t q.transaction_id
  | _, _, _ => True

/-- **The discipline of the deferred transactions.** -/
def deferred (w : CredentialWorld) : Discipline (credentialEndpoints w) where
  inv := DeferredInv w
  rely t g g' := g.Quiet t g'
  admits := OrderlyTransactions
  may := DeferredMay
  allowed _ := True
  post := DeferredPost
  rely_refl t g := .refl t g
  rely_trans h h' := h.trans h'
  step hinv hr hadm hmay := ⟨inv_after hinv hr hadm hmay, fun _ hne => Global.quiet_after hne⟩
  arrive {g r} hinv _ := by
    refine ⟨{ hinv with
      numbered := hinv.numbered.arrive r
      drawn := hinv.drawn.arrive r
      issues := fun t credential hasks => ?_ }, fun t _ => Global.quiet_arrive t g r⟩
    -- the request of a thread that has asked was there before
    obtain ⟨hnot, hfound⟩ := hinv.issues t credential hasks
    obtain ⟨_, _, _, _, _, he⟩ := hasks
    have hlen := hinv.numbered _ he
    refine ⟨hnot, fun q hq => hfound q ?_⟩
    have hreq : (g.requests ++ [r])[t]? = some (.complete q) := hq
    rwa [List.getElem?_append_left hlen] at hreq
  pass {g} n hinv :=
    ⟨{ hinv with numbered := hinv.numbered.pass n, drawn := hinv.drawn.pass n },
      fun t => Global.quiet_pass t g n⟩

/-! ## The handlers -/

def Calm : CredentialCall → Prop
  | .transactions (.create _) | .ask (.getSession ..) | .ask (.issueDeferred ..) => False
  | _ => True

theorem may_of_calm (h : Calm op) : DeferredMay g tid op := by
  rcases op with c | c | _ | _ | q
  · trivial
  · cases c with
    | create transaction => exact h.elim
    | _ => trivial
  · trivial
  · trivial
  · cases q with
    | getSession tenantId sessionId => exact h.elim
    | issueDeferred configuration holderCnf session claims issuanceSetId => exact h.elim
    | _ => trivial

def isCreation : CredentialEvent → Prop
  | ⟨_, .transactions (.create _), _⟩ => True
  | _ => False

def isCompletion : CredentialEvent → Prop
  | ⟨_, .ask (.getSession ..), .error _⟩ | ⟨_, .ask (.issueDeferred ..), _⟩ => True
  | _ => False

theorem not_creates (h : g.Avoids t isCreation) (k : String) : ¬Creates g t k :=
  fun ⟨_, he, _⟩ => h _ he rfl trivial

theorem not_asks (h : g.Avoids t isCompletion) (outcome : Except CredentialError String) :
    ¬AsksIssuer g t outcome := fun ⟨_, _, _, _, _, he⟩ => h _ he rfl trivial

theorem not_refused (h : g.Avoids t isCompletion) : ¬Refused g t := by
  rintro (⟨_, _, _, he⟩ | ⟨_, _, _, _, _, _, he⟩)
  · exact h _ he rfl trivial
  · exact h _ he rfl trivial

section Handlers

variable {r : CredentialEndpointRequest}

theorem avoids_call (op : CredentialCall) {P : CredentialEvent → Prop} (h : g.Avoids t P)
    (hl : (deferred w).Later t g g') (hop : ¬P ⟨t, op, (op.answer w g'.store).1⟩) :
    ((credentialEndpoints w).after g' t op).Avoids t P := (h.later hl.rely).after hop

/-- **A deferred request** creates one transaction, under the id it drew. -/
theorem safe_createDeferredTransaction {q : ParsedCredentialRequest}
    {authorized : AuthorizedCredentialRequest} {interval : Nat}
    (hnew : g.Avoids t isCreation) :
    (deferred w).Safe t (fun _ _ => True) (createDeferredTransaction w q authorized interval)
      g := by
  refine Safe.ofExcept fun proof _ => Safe.getOrFail fun nonce _ =>
    Safe.ensure fun _ => Safe.call fun g₁ hl₁ _ => ⟨trivial, ?_⟩
  have hnew₁ := avoids_call (.nonces (.delete q.tenantId (nonce.getD ""))) hnew hl₁ id
  refine Safe.ensure fun _ => Safe.call fun g₂ hl₂ _ => ⟨trivial, ?_⟩
  have hnew₂ := avoids_call (.ask (.verifyProof q.tenantId proof q.proofType)) hnew₁ hl₂ id
  refine Safe.ofExcept fun holderKeys _ => Safe.ofExcept fun _ _ =>
    Safe.call fun g₃ hl₃ _ => ⟨trivial, ?_⟩
  have hnew₃ := avoids_call
    (.ask (.keyAttestation q.tenantId proof authorized.credentialConfigurationId))
    hnew₂ hl₃ id
  refine Safe.ofExcept fun _ _ => Safe.call fun g₄ hl₄ _ => ⟨trivial, ?_⟩
  have hnew₄ := avoids_call (.uuid) hnew₃ hl₄ id
  have hdrew : DrewUuid ((credentialEndpoints w).after g₄ t .uuid) t (w.uuid g₄.store.draws) :=
    List.mem_cons_self
  refine Safe.call fun g₅ hl₅ _ => ⟨trivial, ?_⟩
  have hnew₅ := avoids_call (.now) hnew₄ hl₅ id
  have hdrew₅ := (hdrew.extends hl₅.hist).extends
    (System.extends_after (M := credentialEndpoints w) g₅ t .now)
  refine Safe.call fun g₆ hl₆ _ => ⟨⟨hdrew₅.extends hl₆.hist, ?_⟩,
    Safe.ret fun _ _ => trivial⟩
  exact not_creates (hnew₅.later hl₆.rely)

theorem safe_getCredentialResponse {q : ParsedCredentialRequest} (hg : (deferred w).At t r g)
    (hsilent : g.Silent t) :
    (deferred w).Safe t (fun _ _ => True) (getCredentialResponse w q) g := by
  refine Safe.call fun g₁ hl₁ hadm => ⟨trivial, ?_⟩
  have hnew := avoids_call (.ask (.authorize q)) (hsilent.avoids isCreation) hl₁ id
  have hg₁ := (hg.later hl₁).after hadm (show DeferredMay g₁ t (.ask (.authorize q)) from trivial)
  refine Safe.ofExcept fun authorized _ => ?_
  cases authorized.deferred with
  | some interval => exact safe_createDeferredTransaction hnew
  | none =>
    have hconsume (tenantId : String) (now : Time) (n : String) :
        (consumeNonce tenantId now n).Only Calm := by
      refine Only.await trivial fun found => ?_
      cases found with
      | none => trivial
      | some stored =>
        by_cases hvalid : stored.expiresAt < now
        · simp only [if_pos hvalid]
          exact Only.await trivial fun _ => trivial
        · simp only [if_neg hvalid]
          exact Only.await trivial fun _ => only_ensure _ _
    refine Safe.of_only hg₁ (Only.bind ?_ fun _ => ?_)
      fun _ _ _ _ hop _ => may_of_calm hop
    · exact Only.await trivial fun now => Only.bind (only_ofExcept _) fun ns =>
        Only.each fun n _ => hconsume _ _ n
    · exact Only.await trivial fun _ => Only.bind (only_ofExcept _) fun _ =>
        trivial

/-- **A completion** asks for a session and then for a credential, each once, and stops
where it is refused one. -/
theorem safe_completeDeferredCredential {q : CompleteDeferredCredentialInput}
    (hg : (deferred w).At t (.complete q) g) (hsilent : g.Silent t) :
    (deferred w).Safe t (fun _ _ => True) (completeDeferredCredential q) g := by
  refine Safe.call fun g₁ hl₁ hadm₁ => ⟨trivial, ?_⟩
  have hg₁ := (hg.later hl₁).after hadm₁ trivial
  have hidle₁ := avoids_call (.transactions (.findPending q.tenantId q.transactionId))
    (hsilent.avoids isCompletion) hl₁ id
  -- what the look-up was answered is in the history
  have hfind : (⟨t, .transactions (.findPending q.tenantId q.transactionId),
      ((credentialEndpoints w).answer (.transactions (.findPending q.tenantId q.transactionId))
        g₁.store).1⟩ : CredentialEvent) ∈ ((credentialEndpoints w).after g₁ t
          (.transactions (.findPending q.tenantId q.transactionId))).trace := List.mem_cons_self
  revert hfind
  generalize ((credentialEndpoints w).answer
    (.transactions (.findPending q.tenantId q.transactionId)) g₁.store).1 = found
  intro hfind
  cases found with
  | none => exact Safe.ret fun _ _ => trivial
  | some transaction =>
    refine Safe.call fun g₂ hl₂ hadm₂ => ⟨not_asks (hidle₁.later hl₂.rely), ?_⟩
    have hg₂ := (hg₁.later hl₂).after hadm₂ (not_asks (hidle₁.later hl₂.rely))
    refine Safe.ofExcept fun session hsession => ?_
    have hidle₂ := avoids_call
      (.ask (.getSession transaction.tenantId transaction.sessionId)) hidle₁ hl₂ (by
        have hanswer : ((CredentialCall.ask (.getSession transaction.tenantId
          transaction.sessionId)).answer w g₂.store).1 = .ok session := hsession
        rw [hanswer]
        exact id)
    refine Safe.call fun g₃ hl₃ hadm₃ => ?_
    have hmay : DeferredMay g₃ t (.ask (.issueDeferred transaction.credentialConfigurationId
        transaction.holderCnf session q.claims transaction.issuanceSetId)) := by
      refine ⟨not_asks (hidle₂.later hl₃.rely), not_refused (hidle₂.later hl₃.rely),
        fun q' hq' => ?_⟩
      -- the thread serves one request
      obtain rfl : q = q' := by
        have hsame := (hg₂.later hl₃).request.symm.trans hq'
        injection hsame with hsame
        injection hsame
      have hext₂ := System.extends_after (M := credentialEndpoints w) g₂ t
        (.ask (.getSession transaction.tenantId transaction.sessionId))
      exact ⟨q.tenantId, transaction, hl₃.hist.event (hext₂.event (hl₂.hist.event hfind))⟩
    refine ⟨hmay, ?_⟩
    have hg₃ := (hg₂.later hl₃).after hadm₃ hmay
    refine Safe.of_only hg₃ (P := Calm) ?_ fun _ _ _ _ hop _ => may_of_calm hop
    refine Only.bind (only_ret _) fun _ => Only.bind (only_ofExcept _) fun credential =>
      Only.await trivial fun _ => Only.await trivial
      fun found => ?_
    cases found <;> trivial

theorem calm_getDeferredCredential (q : DeferredCredentialRequest) :
    (getDeferredCredential q).Only Calm := by
  have hpolled (token : Json) : (polledTransaction q token).Only Calm := by
    refine Only.await trivial fun found => ?_
    cases found with
    | none => trivial
    | some transaction =>
      exact Only.await trivial fun _ =>
        Only.ensure fun _ => trivial
  refine Only.await trivial fun _ => Only.bind (only_ofExcept _) fun token =>
    Only.bind (hpolled token) fun transaction => Only.await trivial fun _ =>
    Only.bind (only_ofExcept _) fun _ => Only.await trivial fun now => ?_
  cases resolveDeferredCredentialRetrieval transaction now with
  | ready credential =>
    exact Only.await trivial fun _ => Only.ensure fun _ => trivial
  | expire => exact Only.await trivial fun _ => trivial
  | _ => trivial

/-- **A poll that hands out a credential has marked the transaction retrieved.** -/
theorem yields_getDeferredCredential (q : DeferredCredentialRequest) (g : CredentialState) :
    (credentialEndpoints w).Yields t (DeferredPost t (.deferredCredential q))
      (getDeferredCredential q) g := by
  refine System.Yields.skip fun _ _ _ => System.Yields.ofExcept fun token _ =>
    System.Yields.skip fun transaction _ _ => System.Yields.skip fun _ _ _ =>
    System.Yields.ofExcept fun _ _ => System.Yields.skip fun now g₁ _ => ?_
  cases resolveDeferredCredentialRetrieval transaction now with
  | ready credential =>
    refine (System.yields_invoke _).bind fun retrieved g₂ _ hmade =>
      System.Yields.ensure fun hretrieved => System.Yields.ret fun g₃ hext => ?_
    subst hretrieved
    exact ⟨q.tenantId, hmade.extends hext⟩
  | expire => exact System.Yields.skip fun _ _ _ => trivial
  | _ => trivial

theorem calm_failDeferredCredential (tenantId transactionId : String)
    (errorMessage : Option String) :
    (failDeferredCredential tenantId transactionId errorMessage).Only Calm := by
  refine Only.await trivial fun found => ?_
  cases found with
  | none => trivial
  | some transaction =>
    refine Only.await trivial fun _ => Only.await trivial
      fun found => ?_
    cases found <;> trivial

end Handlers

/-- **Every request follows the discipline.** -/
theorem deferred_verified (w : CredentialWorld) : (deferred w).Verified := by
  intro g r hinv _ hg
  have hsilent := hinv.numbered.silent r
  have hcalm {p : CredentialProg CredentialAnswer} (hp : p.Only Calm) :
      (deferred w).Safe g.requests.length (fun _ _ => True) p (g.arrive r) :=
    Safe.of_only hg hp fun _ _ _ _ hop _ => may_of_calm hop
  cases r with
  | nonce tenantId =>
    refine hcalm (Only.bind (Only.await trivial fun _ => ?_) fun _ => trivial)
    exact Only.await trivial fun _ => Only.await trivial
      fun _ => trivial
  | credential q => exact safe_getCredentialResponse hg hsilent
  | deferredCredential q =>
    exact Safe.of_yields hg (calm_getDeferredCredential q)
      (fun _ _ _ _ hop _ => may_of_calm hop) (yields_getDeferredCredential q _)
  | complete q => exact safe_completeDeferredCredential hg hsilent
  | fail tenantId transactionId message => exact hcalm (calm_failDeferredCredential _ _ _)
  | cleanupNonces =>
    exact hcalm (Only.bind (Only.await trivial fun _ => only_invoke.mpr trivial)
      fun _ => trivial)
  | cleanupTransactions =>
    exact hcalm (Only.bind (Only.await trivial fun _ => only_invoke.mpr trivial)
      fun _ => trivial)

theorem inv_start {st : CredentialStore} (hempty : st.transactions = Table.empty) :
    DeferredInv w (⟨st, [], []⟩ : CredentialState) where
  numbered := Global.numbered_start st
  drawn := .start st
  stored key row hrow := by
    rw [hempty] at hrow
    cases hrow
  drew _ _ h := by
    obtain ⟨_, he, _⟩ := h
    exact (List.not_mem_nil he).elim
  retrieved _ _ h := by
    obtain ⟨_, he⟩ := h
    exact (List.not_mem_nil he).elim
  once _ _ _ h := by
    obtain ⟨_, he⟩ := h
    exact (List.not_mem_nil he).elim
  overlap _ _ _ _ h := by
    obtain ⟨_, _, he⟩ := h
    exact (List.not_mem_nil he).elim
  issues _ _ h := by
    obtain ⟨_, _, _, _, _, he⟩ := h
    exact (List.not_mem_nil he).elim

/-- **A created transaction with a final status** keeps it, and, if it is not retrieved,
delivers nothing. -/
structure Settled (k : String) (status : DeferredTransactionStatus) (g : CredentialState) :
    Prop where
  created : ∃ t, Creates g t k
  kept : ∀ row, g.store.transactions.get k = some row → row.status = status
  undelivered : status ≠ .retrieved → ∀ t, ¬Retrieves g t k

theorem Settled.after {k : String} {status : DeferredTransactionStatus} (h : Settled k status g)
    (hfinal : status.isFinal = true) (hinv : DeferredInv w g)
    (hadm : OrderlyTransactions g tid op) (hmay : DeferredMay g tid op) :
    Settled k status ((credentialEndpoints w).after g tid op) := by
  obtain ⟨t, hcreates⟩ := h.created
  refine ⟨⟨t, hcreates.extends (System.extends_after _ _ _)⟩, fun row hrow => ?_,
    fun hne t' hretrieves => ?_⟩
  · exact final_kept hinv hadm hmay hfinal hcreates h.kept hrow
  · rcases retrieves_after hretrieves with ⟨-, -, row, -, hrow, -, hready⟩ | hold
    · rw [h.kept row hrow] at hready
      subst hready
      cases hfinal
    · exact h.undelivered hne t' hold

end DeferredTransactions

open DeferredTransactions in
/-- **A transaction hands out one credential** in every run in which statuses only move on and
completions do not overlap. -/
theorem single_delivery (w : CredentialWorld) (st : CredentialStore) (ms : CredentialSchedule)
    (hempty : st.transactions = Table.empty)
    (horderly : (credentialEndpoints w).Guarded OrderlyTransactions (.start st) ms) :
    SingleDelivery w st ms := by
  have hstart := Discipline.holds_start (D := deferred w) (inv_start hempty)
  have hholds := Discipline.run_holds (deferred_verified w) hstart (fun _ _ => trivial) horderly
  have hguarded := horderly.and
    (Discipline.run_guarded (deferred_verified w) hstart (fun _ _ => trivial) horderly)
  have hretrieves {t k} (h : HandsOver ((credentialEndpoints w).run (.start st) ms) t k) :
      Retrieves ((credentialEndpoints w).run (.start st) ms).global t k := by
    obtain ⟨q, credential, ha, rfl⟩ := h
    exact hholds.answer ha
  -- from a final status on, the transaction is settled
  have hsettled {ms₁ ms₂ k status} (hsplit : ms = ms₁ ++ ms₂)
      (hfinal : status.isFinal = true)
      (hrow : transactionStatus ((credentialEndpoints w).run (.start st) ms₁) k = some status) :
      Settled k status ((credentialEndpoints w).run (.start st) ms).global := by
    subst hsplit
    have hsplit := System.guarded_append.mp hguarded
    have hprefix := System.guarded_append.mp horderly
    have hholds₁ := Discipline.run_holds (deferred_verified w) hstart (fun _ _ => trivial) hprefix.1
    obtain ⟨row, hget, hstatus⟩ := Option.map_eq_some_iff.mp hrow
    have hsettled₁ : Settled k status ((credentialEndpoints w).run (.start st) ms₁).global := by
      refine ⟨hholds₁.inv.stored k row hget, fun row' hrow' => ?_, fun hne t hretrieved => ?_⟩
      · rw [← hstatus, Option.some.inj (hget.symm.trans hrow')]
      · rw [(hholds₁.inv.retrieved t k hretrieved).2 row hget] at hstatus
        exact hne hstatus.symm
    rw [System.run_append]
    refine hsplit.2.keeps hsettled₁ (fun hok h => h.after hfinal hok.2.1 hok.1 hok.2.2)
      (fun r h => ⟨h.created, h.kept, h.undelivered⟩)
      (fun e h => ⟨h.created, h.kept, h.undelivered⟩)
  refine ⟨fun t t' k h h' => ?_, fun ms₁ ms₂ k status status' hms hrow hfinal hrow' => ?_,
    fun ms₁ ms₂ k hms hrow t h => ?_, fun t t' k h h' => ?_⟩
  · exact hholds.inv.once t t' k (hretrieves h) (hretrieves h')
  · obtain ⟨row, hget, rfl⟩ := Option.map_eq_some_iff.mp hrow'
    exact (hsettled hms hfinal hrow).kept row hget
  · exact (hsettled hms rfl hrow).undelivered (by decide) t (hretrieves h)
  · obtain ⟨⟨q, hq, rfl⟩, _, _, _, _, _, credential, he⟩ := h
    obtain ⟨⟨q', hq', hsame⟩, _, _, _, _, _, credential', he'⟩ := h'
    have hissued := hholds.inv.issues t credential ⟨_, _, _, _, _, he⟩
    have hissued' := hholds.inv.issues t' credential' ⟨_, _, _, _, _, he'⟩
    by_contra hne
    rcases hholds.inv.overlap t t' q.transactionId hne (hissued.2 q hq)
      (hsame ▸ hissued'.2 q' hq') with hrefused | hrefused
    · exact hissued.1 hrefused
    · exact hissued'.1 hrefused

/-! ## Two runs -/

namespace DeferredTransactions

open CredentialDeployment

def deferredRequest : CredentialEndpointRequest :=
  .credential { tenantId := "tenant", accessToken := "token", proofType := .jwt, proofs := ["u"]
                body := "deferred" }

def poll : CredentialEndpointRequest :=
  .deferredCredential { tenantId := "tenant", accessToken := "token", transaction_id := "uu" }

def complete : CredentialEndpointRequest :=
  .complete { tenantId := "tenant", transactionId := "uu", claims := .null }

def created : CredentialSchedule :=
  serve 0 (.nonce "tenant") 3 ++ serve 1 deferredRequest 7

def polledTwice : CredentialSchedule :=
  created ++ serve 2 complete 5 ++ serve 3 poll 6 ++ serve 4 poll 6 ++
    serve 5 (.fail "tenant" "other" none) 1

/-- Two completions overlap: the second finishes after the first credential was
retrieved. -/
def completedTwice : CredentialSchedule :=
  created ++ [.arrive complete, .arrive complete, .resume 2, .resume 3] ++
    List.replicate 4 (.resume 2) ++ serve 4 poll 6 ++ List.replicate 4 (.resume 3) ++
    serve 5 poll 6

/-- A call that writes only what may follow, and, where it looks up a pending transaction,
is the first to do so. -/
def orderly (g : CredentialState) (tid : Nat) : CredentialCall → Bool
  | .transactions c =>
    (g.store.transactions.rows.all fun row => (c.writes row).all row.status.canBecome) &&
      match c with
      | .findPending _ k => g.trace.all fun
        | ⟨t, .transactions (.findPending _ k'), some _⟩ => k' != k || t == tid
        | _ => true
      | _ => true
  | _ => true

theorem orderly_sound (g : CredentialState) (tid : Nat) (op : CredentialCall)
    (h : orderly g tid op = true) : OrderlyTransactions g tid op := by
  constructor
  · rintro c k row status rfl hrow hwrites
    have hall := (Bool.and_eq_true_iff.mp h).1
    have hmoves := List.all_eq_true.mp hall row (Table.get_eq_some.mp hrow).1
    rwa [hwrites] at hmoves
  · rintro tenantId k row rfl - t hne ⟨tenantId', row', he⟩
    have hfirst := List.all_eq_true.mp (Bool.and_eq_true_iff.mp h).2 _ he
    simp [hne] at hfirst

end DeferredTransactions

/-- A completed transaction is retrieved once, as the theorem says. -/
theorem single_delivery_of_polledTwice :
    SingleDelivery CredentialDeployment.world CredentialDeployment.fresh
      DeferredTransactions.polledTwice :=
  single_delivery _ _ _ rfl
    (System.guarded_of_checks DeferredTransactions.orderly_sound (by decide +kernel))

/-- **A transaction that two completions overlap on is delivered twice**: the second marks it
ready after the first credential was retrieved. -/
theorem not_single_delivery :
    ¬SingleDelivery CredentialDeployment.world CredentialDeployment.fresh
      DeferredTransactions.completedTwice := by
  intro h
  have hsame := h.delivered 4 5 "uu" ⟨_, "credential", rfl, rfl⟩ ⟨_, "credential", rfl, rfl⟩
  omega

end Eudiplo
