import Eudiplo.Backend.Deployment
import Eudiplo.Backend.History
import Eudiplo.Backend.TokenEvidence
import Eudiplo.Concurrency.RelyGuarantee

/-!
# The lockout of a transaction code

A pre-authorized token request checks the lock on the snapshot it found at its start,
has the library compare the `tx_code`, and counts a wrong one with an atomic
increment.  No increment is ever lost.  The bound on the guesses is another matter:
the check reads a counter that may be out of date, so requests that overlap can each
spend the attempt the other one has spent already.

What holds is that the bound is kept by every run in which a request evaluates, and
redeems, only on a counter that is up to date (`ReadsCurrent`).
-/

namespace Eudiplo

open Concurrency Prog Discipline Storage

variable {w : World} {k code : String} {n max : Nat}

/-! ## The property -/

def Request.redeemsOffer (w : World) : Request → Bool
  | .token q =>
    match parseTokenRequest w q with
    | .ok parsed => parsed.grant.isPreAuthorized
    | .error _ => true
  | _ => false

/-- The wrong values evaluated for `code` so far. -/
def evaluatedWrong (code : String) (trace : List Answered) : Nat :=
  trace.countP (evaluatesWrong code)

/-- The failed attempts counted for session `k` so far. -/
def recordedAttempts (k : String) (trace : List Answered) : Nat :=
  trace.countP (recordsAttempt k)

/-- `code` is the pre-authorized code of session `k` alone, whose offer has a `tx_code`. -/
structure OfferedTxCode (st : Store) (k code : String) (s : Session) : Prop where
  row : st.sessions.get k = some s
  holds : s.authorization_code = some code
  txCode : truthy s.txCode = true
  unique : ∀ k' s', st.sessions.get k' = some s' → s'.authorization_code = some code → k' = k

/-- **The lockout bound**, in a state of the backend, where `n` attempts had been counted
before and `max` are configured: the wrong values evaluated for the code are within what
was left, every token response for the code comes from a redemption before which fewer
than `max` attempts were counted, and the counter has counted every attempt. -/
structure TxCodeLockout (w : World) (k code : String) (n max : Nat) (c : Backend) : Prop where
  evaluated : evaluatedWrong code c.trace ≤ max - n
  issued : ∀ tid q r, c.Answers tid (.token q) (.token r) → ∀ parsed,
    parseTokenRequest w q = .ok parsed → parsed.code = some code →
    ∃ later e earlier, c.trace = later ++ e :: earlier ∧ e.tid = tid ∧ redeems k e = true ∧
      n + recordedAttempts k earlier < max
  counted : ∃ s, c.store.sessions.get k = some s ∧
    s.txCodeFailedAttempts = n + recordedAttempts k c.trace

/-- The failed attempts thread `tid` read with the session it found by `code`. -/
def readAttempts (code : String) (g : State) (tid : Nat) : List Nat :=
  g.trace.filterMap fun
    | ⟨t, .session (.findByAuthorizationCode _ c), some s⟩ =>
      if t == tid && c == code then some s.txCodeFailedAttempts else none
    | _ => none

/-- The condition on one call: a `tx_code` is evaluated only by a request whose counter
covers every wrong value evaluated so far, and the code is redeemed only by a request
whose counter is still the stored one. -/
def ReadsCurrent (k code : String) (n : Nat) (g : State) (tid : Nat) : Call → Prop
  | .env (.ask (.verifyPreAuthorizedCode q)) =>
    q.expectedPreAuthorizedCode = some code →
      ∀ m ∈ readAttempts code g tid, m = n + evaluatedWrong code g.trace
  | .session (.updateUnconsumedForTenant _ id _) =>
    id = k → ∀ m ∈ readAttempts code g tid, ∀ s, g.store.sessions.get k = some s →
      s.txCodeFailedAttempts = m
  | _ => True

theorem mem_readAttempts {g : State} {tid : Nat} {tenantId : String} {s : Session}
    (h : g.Made tid (.session (.findByAuthorizationCode tenantId code)) (some s)) :
    s.txCodeFailedAttempts ∈ readAttempts code g tid :=
  List.mem_filterMap.mpr ⟨_, h, by simp⟩

theorem readAttempts_extends {g g' : State} {tid m : Nat} (h : m ∈ readAttempts code g tid)
    (he : g.Extends g') : m ∈ readAttempts code g' tid := by
  obtain ⟨e, hmem, hread⟩ := List.mem_filterMap.mp h
  exact List.mem_filterMap.mpr ⟨e, he.event hmem, hread⟩

/-! ## The discipline -/

/-- The thread read a counter below the limit. -/
def ReadBelow (code : String) (max : Nat) (g : State) (tid : Nat) : Prop :=
  ∃ m ∈ readAttempts code g tid, m < max

/-- **The calls of a pre-authorized token request**: apart from queries, an evaluation and a
redemption below the limit, and the count of a failed attempt. -/
inductive LockMay (k code : String) (max : Nat) (g : State) (tid : Nat) : Call → Prop where
  | query {c : Call} (h : c.isQuery = true) : LockMay k code max g tid c
  | evaluate {q : VerifyPreAuthorizedCode}
      (h : q.expectedPreAuthorizedCode = some code → ReadBelow code max g tid) :
    LockMay k code max g tid (.env (.ask (.verifyPreAuthorizedCode q)))
  | record {tenantId id : String} :
    LockMay k code max g tid (.session (.incrementFailedTxCodeAttempts tenantId id))
  | redeem {tenantId id : String} {u : SessionUpdate} (hcode : u.authorization_code = none)
      (hoffer : u.credentialPayload = none) (h : id = k → ReadBelow code max g tid) :
    LockMay k code max g tid (.session (.updateUnconsumedForTenant tenantId id u))

/-- **The invariant.** -/
structure LockoutInv (k code : String) (n max : Nat) (g : State) : Prop where
  row : ∃ s, g.store.sessions.get k = some s ∧ s.authorization_code = some code ∧
    truthy s.txCode = true ∧ s.txCodeFailedAttempts = n + recordedAttempts k g.trace
  unique : ∀ k' s', g.store.sessions.get k' = some s' → s'.authorization_code = some code →
    k' = k
  found : ∀ tid tenantId c s,
    g.Made tid (.session (.findByAuthorizationCode tenantId c)) (some s) →
    s.authorization_code = some c ∧ (s.id = k ↔ c = code) ∧
      (s.id = k → truthy s.txCode = true)
  evaluated : evaluatedWrong code g.trace ≤ max - n
  redeemed : ∀ later e earlier, g.trace = later ++ e :: earlier → redeems k e = true →
    n + recordedAttempts k earlier < max

variable {g : State} {tid : Nat} {op : Call}

theorem apply_txCode_of_none {s : Session} {u : SessionUpdate} (h : u.credentialPayload = none) :
    (s.apply u).txCode = s.txCode := by
  show (u.credentialPayload.or s.credentialPayload).bind _ = _
  rw [h]
  rfl

theorem lockout_codes (hmay : LockMay k code max g tid op) {k' : String} {s' : Session}
    (hs' : ((backend w).after g tid op).store.sessions.get k' = some s') :
    ∃ s, g.store.sessions.get k' = some s ∧ s'.authorization_code = s.authorization_code := by
  rcases session_after hs' with ⟨s, hs, rfl | ⟨c, rfl, hc⟩⟩ | ⟨tenantId, u, rfl, -, -⟩
  · exact ⟨s', hs, rfl⟩
  · refine ⟨s, hs, ?_⟩
    cases hc with
    | same => rfl
    | counted h => rfl
    | anonymized => rfl
    | merged h => cases hmay with | query h => cases h
    | updated h =>
      cases hmay with
      | query hq => exact absurd h (SessionCall.not_applies_of_isQuery hq)
      | record => exact h.elim
      | redeem hcode =>
        obtain ⟨rfl, -⟩ := h
        show (_ : Option String).or s.authorization_code = _
        rw [hcode]
        rfl
  · cases hmay with | query h => cases h

/-- **No attempt is lost**: the counter of the session and the count of its recorded
attempts move together. -/
theorem lockout_row (hinv : LockoutInv k code n max g) (hmay : LockMay k code max g tid op) :
    ∃ s, ((backend w).after g tid op).store.sessions.get k = some s ∧
      s.authorization_code = some code ∧ truthy s.txCode = true ∧
      s.txCodeFailedAttempts = n + recordedAttempts k ((backend w).after g tid op).trace := by
  obtain ⟨s, hs, hcode, htx, hcount⟩ := hinv.row
  -- a call that is not an increment records nothing
  have quiet (h : recordsAttempt k ⟨tid, op, ((backend w).answer op g.store).1⟩ = false) :
      recordedAttempts k ((backend w).after g tid op).trace = recordedAttempts k g.trace := by
    show List.countP _ (_ :: g.trace) = _
    rw [List.countP_cons_of_neg (by rw [h]; exact Bool.false_ne_true)]
    rfl
  cases hmay with
  | query h =>
    have hkept : ((backend w).after g tid op).store.sessions.get k = some s := by
      rcases op with c | c | c | c
      · show (c.effect g.store.clock g.store.sessions).get k = some s
        rw [SessionCall.get_effect, hs]
        exact SessionCall.row_of_isQuery h _ _ _
      · exact hs
      · exact hs
      · rw [System.after_store, backend_answer, sessions_frame rfl]
        exact hs
    refine ⟨s, hkept, hcode, htx, ?_⟩
    rw [quiet, hcount]
    by_contra hrec
    obtain ⟨tenantId, rfl⟩ := recordsAttempt_event (Bool.not_eq_false _ ▸ hrec)
    cases h
  | evaluate h => exact ⟨s, hs, hcode, htx, by rw [quiet rfl, hcount]⟩
  | @record tenantId id =>
    have hrow : ((backend w).after g tid (.session (.incrementFailedTxCodeAttempts tenantId
        id))).store.sessions.get k =
        some (if ofTenant tenantId id s then s.countFailedTxCode else s) := by
      show (SessionCall.effect _ _ _).get k = _
      rw [SessionCall.get_effect, hs]
      rfl
    by_cases hmatch : ofTenant tenantId id s = true
    · rw [if_pos hmatch] at hrow
      refine ⟨_, hrow, hcode, htx, ?_⟩
      have hid : id = k := (ofTenant_iff.mp hmatch).2 ▸ Table.get_key hs
      subst hid
      show s.txCodeFailedAttempts + 1 = n + List.countP _ (_ :: g.trace)
      rw [List.countP_cons_of_pos, hcount]
      · rfl
      · simp only [recordsAttempt, beq_self_eq_true, Bool.true_and]
        exact (incrementFailedTxCodeAttempts_reply g.store.clock).mpr ⟨s, hs, hmatch⟩
    · rw [if_neg hmatch] at hrow
      refine ⟨s, hrow, hcode, htx, ?_⟩
      rw [quiet, hcount]
      -- the increment found no row
      by_contra hrec
      simp only [Bool.not_eq_false, recordsAttempt, Bool.and_eq_true, beq_iff_eq] at hrec
      obtain ⟨rfl, hsome⟩ := hrec
      obtain ⟨s', hs', hmatch'⟩ := (incrementFailedTxCodeAttempts_reply g.store.clock).mp hsome
      rw [Option.some.inj (hs'.symm.trans hs)] at hmatch'
      exact hmatch hmatch'
  | @redeem tenantId id u hcode' hoffer h =>
    have hrow : ((backend w).after g tid (.session (.updateUnconsumedForTenant tenantId id
        u))).store.sessions.get k =
        some (if ofTenant tenantId id s && unconsumed g.store.clock s then s.apply u else s) := by
      show (SessionCall.effect _ _ _).get k = _
      rw [SessionCall.get_effect, hs]
      rfl
    split at hrow
    · refine ⟨_, hrow, ?_, ?_, ?_⟩
      · show u.authorization_code.or s.authorization_code = _
        rw [hcode']
        exact hcode
      · rw [apply_txCode_of_none hoffer]
        exact htx
      · rw [quiet rfl]
        exact hcount
    · exact ⟨s, hrow, hcode, htx, by rw [quiet rfl, hcount]⟩

theorem lockout_found (hinv : LockoutInv k code n max g) {t : Nat} {tenantId c : String}
    {s : Session} (h : ((backend w).after g tid op).Made t
      (.session (.findByAuthorizationCode tenantId c)) (some s)) :
    s.authorization_code = some c ∧ (s.id = k ↔ c = code) ∧
      (s.id = k → truthy s.txCode = true) := by
  rcases List.mem_cons.mp h with heq | hold
  · injection heq with _ hop hres
    subst hop
    have hfind : (SessionCall.findByAuthorizationCode tenantId c).reply g.store.clock
        g.store.sessions = some s := (eq_of_heq hres).symm
    obtain ⟨hget, hmatch⟩ := Table.find_some hfind
    simp only [Bool.and_eq_true, beq_iff_eq] at hmatch
    obtain ⟨s₀, hs₀, hcode, htx, -⟩ := hinv.row
    have same (hid : s.id = k) : s = s₀ := by
      rw [hid] at hget
      exact Option.some.inj (hget.symm.trans hs₀)
    refine ⟨hmatch.2, ⟨fun hid => ?_, fun hc => ?_⟩, fun hid => same hid ▸ htx⟩
    · rw [same hid, hcode] at hmatch
      exact (Option.some.inj hmatch.2).symm
    · exact hinv.unique s.id s hget (hc ▸ hmatch.2)
  · exact hinv.found t tenantId c s hold

/-- **An evaluation on an up to date counter stays within the bound.** -/
theorem lockout_evaluated (hinv : LockoutInv k code n max g)
    (hcurrent : ReadsCurrent k code n g tid op) (hmay : LockMay k code max g tid op) :
    evaluatedWrong code ((backend w).after g tid op).trace ≤ max - n := by
  show List.countP _ (_ :: g.trace) ≤ _
  have hold : List.countP (evaluatesWrong code) g.trace ≤ max - n := hinv.evaluated
  by_cases hwrong : evaluatesWrong code ⟨tid, op, ((backend w).answer op g.store).1⟩ = true
  · obtain ⟨q, rfl, hcode⟩ := evaluatesWrong_event hwrong
    rw [List.countP_cons_of_pos hwrong]
    cases hmay with
    | query h => cases h
    | evaluate h =>
      obtain ⟨m, hm, hlt⟩ := h hcode
      have hread : m = n + List.countP (evaluatesWrong code) g.trace := hcurrent hcode m hm
      omega
  · rw [List.countP_cons_of_neg hwrong]
    exact hold

/-- **A redemption on an up to date counter is below the limit.** -/
theorem lockout_redeemed (hinv : LockoutInv k code n max g)
    (hcurrent : ReadsCurrent k code n g tid op) (hmay : LockMay k code max g tid op)
    {later earlier : List Answered} {e : Answered}
    (htrace : ((backend w).after g tid op).trace = later ++ e :: earlier)
    (he : redeems k e = true) : n + recordedAttempts k earlier < max := by
  cases later with
  | nil =>
    -- the redemption is this call
    obtain ⟨hevent, rfl⟩ := List.cons.inj htrace
    obtain ⟨t, tenantId, u, rfl, -, -⟩ := redeems_event he
    injection hevent with _ hop _
    subst hop
    obtain ⟨s, hs, -, -, hcount⟩ := hinv.row
    cases hmay with
    | query h => cases h
    | redeem _ _ h =>
      obtain ⟨m, hm, hlt⟩ := h rfl
      have hread : s.txCodeFailedAttempts = m := hcurrent rfl m hm s hs
      omega
  | cons e' later =>
    exact hinv.redeemed later e earlier (List.cons.inj htrace).2 he

def lockout (w : World) (k code : String) (n max : Nat) : Discipline (backend w) where
  inv := LockoutInv k code n max
  rely := fun _ _ _ => True
  admits := ReadsCurrent k code n
  may := LockMay k code max
  allowed := fun r => r.redeemsOffer w = true
  post := fun _ _ _ _ => True
  rely_refl := fun _ _ => trivial
  rely_trans := fun _ _ => trivial
  step := fun hinv _ hcurrent hmay =>
    ⟨{ row := lockout_row hinv hmay
       unique := fun k' s' hs' hcode => by
         obtain ⟨s, hs, hsame⟩ := lockout_codes hmay hs'
         exact hinv.unique k' s hs (hsame ▸ hcode)
       found := fun _ _ _ _ => lockout_found hinv
       evaluated := lockout_evaluated hinv hcurrent hmay
       redeemed := fun _ _ _ => lockout_redeemed hinv hcurrent hmay },
      fun _ _ => trivial⟩
  arrive := fun hinv _ =>
    ⟨⟨hinv.row, hinv.unique, hinv.found, hinv.evaluated, hinv.redeemed⟩, fun _ _ => trivial⟩
  pass := fun _ hinv =>
    ⟨⟨hinv.row, hinv.unique, hinv.found, hinv.evaluated, hinv.redeemed⟩, fun _ => trivial⟩

/-! ## The handler -/

variable {r : Request}

theorem lockout_reads {α : Type} {p : Api α} {Q : State → α → Prop}
    (hg : (lockout w k code n max).At tid r g) (hp : Reads p)
    (hy : (backend w).Yields tid Q p g) : (lockout w k code n max).Safe tid Q p g :=
  Safe.of_yields hg hp (fun _ _ _ _ hop _ => .query hop) hy

theorem yields_answer (q : Question) :
    (backend w).Yields tid (fun _ a => ∃ i, w.answer i q = .ok a) (ask q) g := by
  intro g' _
  show (backend w).Yields tid _ (Prog.ofExcept (w.answer g'.store.consults q)) _
  cases h : w.answer g'.store.consults q with
  | ok a => exact fun _ _ => ⟨_, h⟩
  | error e => trivial

theorem yields_maxAttempts
    (hconfig : ∀ i tenantId config, w.answer i (.issuanceConfiguration tenantId) = .ok config →
      config.maxAttempts = max) (tenantId : String) (grant : Grant) :
    (backend w).Yields tid (fun _ config => config.maxAttempts = max)
      (tokenConfiguration tenantId grant) g := by
  refine (yields_answer _).bind fun config g' _ ⟨i, hanswer⟩ => .ensure fun _ => .skip ?_
  exact fun _ _ _ _ _ => hconfig i tenantId config hanswer

/-- Session `k` was found by its own code, and it has a `tx_code`. -/
def FoundOffer (k code : String) (g : State) (tid : Nat) (s : Session) : Prop :=
  s.id = k → truthy s.txCode = true ∧ s.authorization_code = some code ∧
    s.txCodeFailedAttempts ∈ readAttempts code g tid

theorem FoundOffer.extends {g' : State} {s : Session} (h : FoundOffer k code g tid s)
    (he : g.Extends g') : FoundOffer k code g' tid s := by
  intro hid
  obtain ⟨htx, hcode, hread⟩ := h hid
  exact ⟨htx, hcode, readAttempts_extends hread he⟩

theorem LockoutInv.foundOffer (hinv : LockoutInv k code n max g) {q : AccessTokenRequest}
    {parsed : ParsedAccessTokenRequest} {s : Session} (h : FoundSession g tid q parsed s)
    (hrefresh : parsed.grant.isRefresh = false) :
    FoundOffer k code g tid s ∧ (s.authorization_code = some code → s.id = k) := by
  obtain ⟨c, -, -, hmade⟩ := h.code hrefresh
  obtain ⟨hcode, hiff, htx⟩ := hinv.found tid q.tenantId c s hmade
  constructor
  · intro hid
    obtain rfl := hiff.mp hid
    exact ⟨htx hid, hcode, mem_readAttempts hmade⟩
  · intro hown
    exact hiff.mpr (Option.some.inj (hcode.symm.trans hown))

/-- **The verification is safe**: behind the lock it evaluates a `tx_code` only on a counter
below the limit. -/
theorem safe_verifyPreAuthorizedCode {q : AccessTokenRequest}
    {parsed : ParsedAccessTokenRequest} {txCode : Option String} {s : Session}
    {config : IssuanceConfiguration} (hg : (lockout w k code n max).At tid r g)
    (hmax : config.maxAttempts = max) (hfound : FoundOffer k code g tid s)
    (hown : s.authorization_code = some code → s.id = k) :
    (lockout w k code n max).Safe tid (fun g' _ => s.id = k → ReadBelow code max g' tid)
      (verifyPreAuthorizedCode q parsed txCode s config) g := by
  unfold verifyPreAuthorizedCode
  refine Safe.ensure fun hlock => ?_
  have hbelow {g' : State} (he : g.Extends g') : s.id = k → ReadBelow code max g' tid := by
    intro hid
    obtain ⟨htx, -, hread⟩ := hfound hid
    have hlt : s.txCodeFailedAttempts < config.maxAttempts := by
      simpa [htx, isTxCodeLocked] using hlock
    exact ⟨_, readAttempts_extends hread he, hmax ▸ hlt⟩
  refine (lockout_reads hg (reads_ask _ rfl) (System.yields_true _)).bind hg
    fun ttl g₁ he₁ hg₁ _ => ?_
  have hevaluate : (lockout w k code n max).Safe tid (fun _ _ => True)
      (ask (.verifyPreAuthorizedCode (preAuthorizedCodeQuery q parsed s config ttl))) g₁ := by
    refine (Safe.of_only hg₁ (only_ask rfl) ?_ : (lockout w k code n max).Safe tid _
      (ask _) g₁)
    rintro g' op he - rfl -
    exact .evaluate fun hcode => hbelow (he₁.trans he) (hown hcode)
  refine hevaluate.bind hg₁ fun result g₂ he₂ hg₂ _ => ?_
  cases result with
  | ok dpop => exact fun g₃ hl => hbelow ((he₁.trans he₂).trans hl.hist)
  | error e =>
    -- a failed verification counts at most one attempt, and throws
    show (lockout w k code n max).Safe tid _
      (preAuthorizedCodeError e q.tenantId s config.maxAttempts txCode) g₂
    unfold preAuthorizedCodeError
    simp only
    split
    · have hrecord : (recordFailedTxCodeAttempt q.tenantId s.id config.maxAttempts).Only
          fun op => ∃ tenantId id, op = .session (.incrementFailedTxCodeAttempts tenantId id) :=
        Only.bind (only_sessions.mpr ⟨_, _, rfl⟩) fun _ => Only.bind (only_getOrFail _ _)
          fun _ => trivial
      refine (Safe.of_only hg₂ hrecord ?_).bind hg₂ fun attempts g₃ _ _ _ => ?_
      · rintro g' op - - ⟨tenantId, id, rfl⟩ -
        exact .record
      · split <;> trivial
    · trivial

/-- **A prepared token for the code read a counter below the limit.** -/
theorem safe_prepareToken {q : AccessTokenRequest}
    (hconfig : ∀ i tenantId config, w.answer i (.issuanceConfiguration tenantId) = .ok config →
      config.maxAttempts = max)
    (hallowed : (Request.token q).redeemsOffer w = true)
    (hg : (lockout w k code n max).At tid r g) :
    (lockout w k code n max).Safe tid
      (fun g' p => p.session.id = k → ReadBelow code max g' tid) (prepareToken w q) g := by
  unfold prepareToken
  refine Safe.ofExcept fun parsed hparsed => ?_
  have hpre : parsed.grant.isPreAuthorized = true := by
    simpa [Request.redeemsOffer, hparsed] using hallowed
  refine (lockout_reads hg (reads_findSession _ _) (yields_findSession q parsed)).bind hg
    fun s g₁ _ hg₁ hsession => ?_
  obtain ⟨hfound, hown⟩ := hg₁.inv.foundOffer hsession (Grant.isRefresh_of_isPreAuthorized hpre)
  refine (lockout_reads hg₁ (reads_assertCodeRedeemable _ _) (System.yields_true _)).bind hg₁
    fun _ g₂ he₂ hg₂ _ => ?_
  refine (lockout_reads hg₂ (reads_tokenConfiguration _ _) (yields_maxAttempts hconfig _ _)).bind
    hg₂ fun config g₃ he₃ hg₃ hmax => ?_
  refine (lockout_reads hg₃ (reads_verifyClientAttestation _ _ _ _ _)
    (System.yields_true _)).bind hg₃ fun _ g₄ he₄ hg₄ _ => ?_
  refine Safe.ofExcept fun _ _ => Safe.ofExcept fun _ _ =>
    Safe.ofExcept fun _ _ => Safe.ofExcept fun _ _ => ?_
  have hverify : (lockout w k code n max).Safe tid
      (fun g' _ => s.id = k → ReadBelow code max g' tid) (verifyGrant q parsed s config) g₄ := by
    unfold verifyGrant
    cases hgrant : parsed.grant with
    | preAuthorizedCode c txCode =>
      exact safe_verifyPreAuthorizedCode hg₄ hmax
        (hfound.extends ((he₂.trans he₃).trans he₄)) hown
    | _ =>
      rw [hgrant] at hpre
      cases hpre
  refine hverify.bind hg₄ fun dpopJkt g₅ _ hg₅ hbelow => ?_
  refine (lockout_reads hg₅ (reads_createTokenResponse _ _ _ _ _ _)
    (System.yields_true _)).bind hg₅ fun response g₆ he₆ _ _ => ?_
  refine Safe.ret fun g' hl hid => ?_
  obtain ⟨m, hm, hlt⟩ := hbelow hid
  exact ⟨m, readAttempts_extends hm (he₆.trans hl.hist), hlt⟩

/-- **Every pre-authorized token request keeps to the discipline.** -/
theorem lockout_verified
    (hconfig : ∀ i tenantId config, w.answer i (.issuanceConfiguration tenantId) = .ok config →
      config.maxAttempts = max) : (lockout w k code n max).Verified := by
  intro g r _ hallowed hg
  cases r with
  | token q =>
    have hexchange : (lockout w k code n max).Safe g.requests.length (fun _ _ => True)
        (exchangeAccessToken w q) (g.arrive (.token q)) := by
      refine (safe_prepareToken hconfig hallowed hg).bind hg fun p g₁ _ hg₁ hbelow => ?_
      unfold commitToken
      split
      · exact fun _ _ => trivial
      · refine (lockout_reads hg₁ (reads_issuedRefreshExpiry _ _) (System.yields_true _)).bind hg₁
          fun expiry g₂ he₂ hg₂ _ => ?_
        have hredeem : (lockout w k code n max).Safe g.requests.length (fun _ _ => True)
            (updateIfUnconsumed p.session.tenantId p.session.id (redeemUpdate p expiry)) g₂ := by
          refine Safe.invoke fun g' hl _ => ⟨.redeem rfl rfl fun hid => ?_,
            fun _ _ => trivial⟩
          obtain ⟨m, hm, hlt⟩ := hbelow hid
          exact ⟨m, readAttempts_extends hm (he₂.trans hl.hist), hlt⟩
        refine hredeem.bind hg₂ fun won g₃ _ _ _ => Safe.ensure fun _ => ?_
        exact fun _ _ => trivial
    exact hexchange.bind hg fun _ _ _ _ _ => Safe.ret fun _ _ => trivial
  | _ => cases hallowed

/-! ## Every run -/

/-- **The lockout bound**, in every run of pre-authorized token requests in which the
counters the requests read are up to date when they evaluate and when they redeem. -/
theorem tx_code_lockout (w : World) (st : Store) (k code : String) (max : Nat) (s : Session)
    (ms : Schedule)
    (hconfig : ∀ i tenantId config, w.answer i (.issuanceConfiguration tenantId) = .ok config →
      config.maxAttempts = max)
    (hoffer : OfferedTxCode st k code s)
    (hredeems : System.Arrivals (fun r => r.redeemsOffer w = true) ms)
    (hcurrent : (backend w).Guarded (ReadsCurrent k code s.txCodeFailedAttempts) (.start st) ms) :
    TxCodeLockout w k code s.txCodeFailedAttempts max ((backend w).run (.start st) ms) := by
  have hstart : (lockout w k code s.txCodeFailedAttempts max).Holds
      (Config.start st : Backend) := by
    refine Discipline.holds_start
      { row := ⟨s, hoffer.row, hoffer.holds, hoffer.txCode, rfl⟩
        unique := hoffer.unique
        found := fun _ _ _ _ h => nomatch h
        evaluated := Nat.zero_le _
        redeemed := fun later e earlier h => ?_ }
    have hlength : 0 = (later ++ e :: earlier).length := congrArg List.length h
    simp at hlength
  have hholds := Discipline.run_holds (lockout_verified hconfig) hstart hredeems hcurrent
  refine ⟨hholds.inv.evaluated, fun tid q r hr parsed hparsed hcode => ?_, ?_⟩
  · obtain ⟨p, hp⟩ := token_issued hr
    obtain rfl : p.parsed = parsed := Except.ok.inj (hp.passed.parsed.symm.trans hparsed)
    have hrequest : (Request.token q).redeemsOffer w = true := hredeems.request hr
    have hpre : p.parsed.grant.isPreAuthorized = true := by
      simpa [Request.redeemsOffer, hparsed] using hrequest
    obtain ⟨c, hc, -, hmade⟩ := hp.passed.found.code (Grant.isRefresh_of_isPreAuthorized hpre)
    have hid : p.session.id = k :=
      (hholds.inv.found tid q.tenantId c p.session hmade).2.1.mpr
        (Option.some.inj (hc.symm.trans hcode))
    obtain ⟨expiry, hredeemed⟩ := hp.redeemed (Grant.isRefresh_of_isPreAuthorized hpre)
    obtain ⟨later, earlier, htrace⟩ := List.append_of_mem hredeemed
    have hevent : redeems k ⟨tid, .session (.updateUnconsumedForTenant p.session.tenantId
        p.session.id (redeemUpdate p expiry)), true⟩ = true := by
      simp [redeems, redeemUpdate, hid]
    exact ⟨later, _, earlier, htrace, rfl, hevent, hholds.inv.redeemed _ _ _ htrace hevent⟩
  · obtain ⟨row, hrow, -, -, hcount⟩ := hholds.inv.row
    exact ⟨row, hrow, hcount⟩

/-! ## One guess after the other, and two at once -/

namespace TxCodeLockout

open Deployment

/-- A session `unary 1` with the pre-authorized code `unary 2` and the `tx_code` 1234. -/
def session : Session where
  id := unary 1
  tenantId := "tenant"
  createdAt := 1000000
  authorization_code := some (unary 2)
  credentialPayload := some
    { flow := .pre_authorized_code
      tx_code := some "1234"
      credentialConfigurationIds := ["configuration"] }

def offered : Store := { freshStore with draws := 3, sessions := Table.single session }

def guesses : Schedule :=
  serve 0 (tokenRequest (preAuthorizedGrant 2 (some "0000")) []) 14 ++
  serve 1 (tokenRequest (preAuthorizedGrant 2 (some "1234")) []) 14

def overlapping : Schedule :=
  [.arrive (tokenRequest (preAuthorizedGrant 2 (some "0000")) []),
    .arrive (tokenRequest (preAuthorizedGrant 2 (some "1111")) [])] ++
  (List.replicate 14 [.resume 0, .resume 1]).flatten

theorem offeredTxCode : OfferedTxCode offered (unary 1) (unary 2) session where
  row := (Table.get_single session (unary 1)).trans (if_pos rfl)
  holds := rfl
  txCode := rfl
  unique := by
    intro k' s' hs' _
    have hget : (Table.single session : SessionTable).get k' = some s' := hs'
    rw [Table.get_single] at hget
    split at hget
    · rename_i hkey
      exact hkey.symm
    · cases hget

/-- `ReadsCurrent`, evaluated. -/
def readsCurrent (k code : String) (n : Nat) (g : State) (tid : Nat) : Call → Bool
  | .env (.ask (.verifyPreAuthorizedCode q)) =>
    q.expectedPreAuthorizedCode != some code ||
      (readAttempts code g tid).all (· == n + evaluatedWrong code g.trace)
  | .session (.updateUnconsumedForTenant _ id _) =>
    id != k || (readAttempts code g tid).all fun m =>
      (g.store.sessions.get k).all (·.txCodeFailedAttempts == m)
  | _ => true

theorem readsCurrent_sound (g : State) (tid : Nat) (op : Call)
    (h : readsCurrent k code n g tid op = true) : ReadsCurrent k code n g tid op := by
  unfold readsCurrent at h
  split at h
  · intro hcode m hm
    simp only [hcode, bne_self_eq_false, Bool.false_or, List.all_eq_true, beq_iff_eq] at h
    exact h m hm
  · intro hid m hm s hs
    simp only [hid, bne_self_eq_false, Bool.false_or, List.all_eq_true, hs] at h
    simpa using h m hm
  · unfold ReadsCurrent
    split
    · simp_all
    · simp_all
    · trivial

end TxCodeLockout

/-- A wrong guess and a right one are within the bound. -/
theorem tx_code_lockout_of_guesses :
    TxCodeLockout (deployment {}) (Deployment.unary 1) (Deployment.unary 2) 0 5
      ((backend (deployment {})).run (.start TxCodeLockout.offered) TxCodeLockout.guesses) := by
  refine tx_code_lockout _ _ _ _ 5 TxCodeLockout.session _ ?_ TxCodeLockout.offeredTxCode
    (System.arrivals_of_all (by decide +kernel))
    (System.guarded_of_checks TxCodeLockout.readsCurrent_sound (by decide +kernel))
  intro i tenantId config h
  cases h
  rfl

/-- **In some run more wrong values are evaluated than are configured**: two requests pass
the lock on the same counter before either of them counts its attempt. -/
theorem not_tx_code_lockout :
    ¬∀ (w : World) (st : Store) (k code : String) (max : Nat) (s : Session) (ms : Schedule),
      (∀ i tenantId config, w.answer i (.issuanceConfiguration tenantId) = .ok config →
        config.maxAttempts = max) →
      OfferedTxCode st k code s →
      System.Arrivals (fun r : Request => r.redeemsOffer w = true) ms →
        TxCodeLockout w k code s.txCodeFailedAttempts max ((backend w).run (.start st) ms) := by
  intro h
  have hconfig : ∀ i tenantId config,
      (deployment { config := { txCodeMaxAttempts := some 1 } }).answer i
        (.issuanceConfiguration tenantId) = .ok config → config.maxAttempts = 1 := by
    intro i tenantId config h
    cases h
    rfl
  have hbound := (h _ _ _ _ 1 _ TxCodeLockout.overlapping hconfig TxCodeLockout.offeredTxCode
    (System.arrivals_of_all (by decide +kernel))).evaluated
  revert hbound
  decide +kernel

end Eudiplo
