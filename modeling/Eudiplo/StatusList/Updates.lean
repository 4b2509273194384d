import Eudiplo.Concurrency.Monitor
import Eudiplo.StatusList.Discipline

/-!
# How a status update ends

`setEntries` writes its entries one by one.  `updateMonitor` notes what an update has selected and
committed, and how often in a row a write of it has met another version.  As long as every answer
is granted, once the update has committed a write or from its beginning, it ends with every entry
written (`StatusLists.ends_setEntries`): the bounded retries do not run out.
-/

namespace Eudiplo

open Concurrency Prog

/-! ## Notes -/

structure UpdateWrite where
  key : ListKey
  elements : List StatusElement
  selected : List StatusMapping

/-- What is noted about a status update: the entries it selected, its committed writes, and
how often in a row a write of it has met another version. -/
structure UpdateProgress where
  entries : List StatusMapping := []
  writes : List UpdateWrite := []
  refused : Nat := 0
  stale : Nat := 0

def UpdateProgress.note (s : UpdateProgress) (op : StatusCall) (r : op.Result) : UpdateProgress :=
  match op, r with
  | .mappings (.findBySession ..), found => { s with entries := found ++ s.entries }
  | .mappings (.findByIssuanceSet ..), found => { s with entries := found ++ s.entries }
  | .lists (.updateElements key _ elements), .committed =>
    { s with writes := ⟨key, elements, s.entries⟩ :: s.writes, refused := 0, stale := 0 }
  | .lists (.updateElements ..), _ => { s with refused := s.refused + 1 }
  | .lists (.updateTokens ..), updated => { s with stale := if updated then 0 else s.stale + 1 }
  | _, _ => s

def updateMonitor : Monitor StatusCall.Result UpdateProgress := ⟨{}, UpdateProgress.note⟩

/-- An answer that refuses a status update nothing: the list is there, the entries selected in
it may still take the status, at most two writes in a row meet another version, the tokens can
be signed. -/
def Granted (tenantId : String) (status : Nat) (s : UpdateProgress) :
    (op : StatusCall) → op.Result → Prop
  | .lists (.findOneBy key), found => ∃ list, found = some list ∧
    statusValueFits (some status) list.bits = true ∧
    ∀ m ∈ s.entries, (tenantId, m.statusListId) = key →
      statusTransitionAllowed (statusAt list.elements m.index) status = true
  | .lists (.findByIds ..), lists => assertValueFitsLists status lists = .ok () ∧
    ∀ m ∈ s.entries, statusTransitionAllowed (storedStatus lists m) status = true
  | .lists (.updateElements ..), outcome =>
    outcome = .committed ∨ outcome = .versionChanged ∧ s.refused < 2
  | .lists (.updateTokens ..), updated => updated = true ∨ s.stale < 2
  | .ask (.findCert ..), answer => ∃ key, answer = .ok (some key)
  | .ask _, answer => ∃ payload, answer = .ok payload
  | _, _ => True

structure SetsEntry (tenantId : String) (value : Nat) (m : StatusMapping) (write : UpdateWrite) :
    Prop where
  key : write.key = (tenantId, m.statusListId)
  selected : m ∈ write.selected
  status : statusAt write.elements m.index = value

/-- Every entry was committed with the status. -/
def AllWritten (tenantId : String) (value : Nat) (entries : List StatusMapping)
    (s : UpdateProgress) : Prop :=
  ∀ m ∈ entries, ∃ write ∈ s.writes, SetsEntry tenantId value m write

/-- The update is refused nothing any more: from the beginning, or since it has written. -/
def UpdateProgress.Settled (s : UpdateProgress) (fromStart : Bool) : Prop :=
  fromStart = true ∨ s.writes ≠ []

namespace StatusLists

variable {w : StatusWorld} {tenantId : String} {value : Nat} {s : UpdateProgress}
  {fromStart : Bool}

/-- The answers an update may get. -/
abbrev okUpdate (fromStart : Bool) (tenantId : String) (value : Nat) (s : UpdateProgress)
    (op : StatusCall) (r : op.Result) : Prop :=
  s.Settled fromStart → Granted tenantId value s op r

abbrev UpdateEnds {α : Type} (fromStart : Bool) (tenantId : String) (value : Nat)
    (Q : UpdateProgress → α → Prop) (E : UpdateProgress → StatusError → Prop) (p : StatusProg α)
    (s : UpdateProgress) : Prop :=
  updateMonitor.Ends (okUpdate fromStart tenantId value) Q E p s

/-! ## The tokens -/

/-- The same notes but for the stale tokens, of which there are not three in a row. -/
structure Kept (s s' : UpdateProgress) : Prop where
  entries : s'.entries = s.entries
  writes : s'.writes = s.writes
  refused : s'.refused = s.refused
  stale : s'.stale ≤ 2

theorem Kept.refl (h : s.stale ≤ 2) : Kept s s := ⟨rfl, rfl, rfl, h⟩

theorem Kept.trans {s₁ s₂ : UpdateProgress} (h : Kept s s₁) (h' : Kept s₁ s₂) : Kept s s₂ :=
  ⟨h'.entries.trans h.entries, h'.writes.trans h.writes, h'.refused.trans h.refused, h'.stale⟩

theorem ends_askStatus {q : StatusQuestion} (hw : s.Settled fromStart)
    {E : UpdateProgress → StatusError → Prop} :
    UpdateEnds fromStart tenantId value (fun s' (_ : q.Payload) => s' = s) E (askStatus q) s := by
  intro answer hgranted
  have hgranted := hgranted hw
  cases q with
  | findCert tenant keyChainId =>
    obtain ⟨key, rfl⟩ := hgranted
    rfl
  | _ =>
    obtain ⟨payload, rfl⟩ := hgranted
    rfl

theorem ends_requireCert {tenant : String} {keyChainId : Option String} {missing : StatusError}
    (hw : s.Settled fromStart) {E : UpdateProgress → StatusError → Prop} :
    UpdateEnds fromStart tenantId value (fun s' (_ : String) => s' = s) E
      (requireCert tenant keyChainId missing) s := by
  intro answer hgranted
  obtain ⟨key, rfl⟩ := hgranted hw
  rfl

theorem ends_getListById {tenant listId : String} (hw : s.Settled fromStart)
    {E : UpdateProgress → StatusError → Prop} :
    UpdateEnds fromStart tenantId value (fun s' (_ : StatusListEntity) => s' = s) E
      (getListById tenant listId) s := by
  intro found hgranted
  obtain ⟨list, rfl, -⟩ := hgranted hw
  rfl

/-- Of the errors of the token parts only the unencodable list is left. -/
def Unencodable (s s' : UpdateProgress) (e : StatusError) : Prop :=
  Kept s s' ∧ ∃ message, e = .valuesOutOfRange message

theorem ends_createListJWT {list : StatusListEntity} (hw : s.Settled fromStart)
    (hs : s.stale ≤ 2) :
    UpdateEnds fromStart tenantId value
      (fun s' cached => Kept s s' ∧ (cached = false → s'.stale = s.stale + 1)) (Unencodable s)
      (createListJWT w list) s := by
  refine Monitor.Ends.ensure (fun _ => ⟨.refl hs, _, rfl⟩) fun _ => ?_
  refine (ends_askStatus hw).bind fun config s₁ hs₁ => ?_
  subst hs₁
  intro time _
  refine (ends_requireCert hw).bind fun keyId s₂ hs₂ => ?_
  subst hs₂
  refine (ends_askStatus hw).bind fun _ s₃ hs₃ => ?_
  subst hs₃
  refine (ends_askStatus hw).bind fun _ s₄ hs₄ => ?_
  subst hs₄
  intro updated hgranted
  have hgranted : updated = true ∨ s₄.stale < 2 := hgranted hw
  cases updated with
  | true => exact ⟨⟨rfl, rfl, rfl, Nat.zero_le 2⟩, fun h => nomatch h⟩
  | false =>
    have hlt : s₄.stale < 2 := hgranted.resolve_left Bool.false_ne_true
    exact ⟨⟨rfl, rfl, rfl, hlt⟩, fun _ => rfl⟩

/-- **Tokens are regenerated** before the attempts run out. -/
theorem ends_regenerateAttempts {tenant listId : String} (attempts : Nat)
    (hw : s.Settled fromStart) (hs : s.stale ≤ 2) (hleft : 3 ≤ s.stale + attempts) :
    UpdateEnds fromStart tenantId value (fun s' _ => Kept s s') (Unencodable s)
      (regenerateAttempts w tenant listId attempts) s := by
  induction attempts generalizing s with
  | zero => omega
  | succ attempts ih =>
    refine (ends_getListById hw).bind fun entry s₁ hs₁ => ?_
    subst hs₁
    refine (ends_createListJWT hw hs).bind fun cached s₂ ⟨hkept, hstale⟩ => ?_
    have hw₂ : s₂.Settled fromStart := by rwa [UpdateProgress.Settled, hkept.writes]
    cases cached with
    | true =>
      refine (ends_getListById hw₂).imp (fun s₃ _ hs₃ => ?_) fun _ _ h => h
      subst hs₃
      exact hkept
    | false =>
      have hnext := hstale rfl
      refine (ih hw₂ hkept.stale (by omega)).imp (fun s₃ _ h => hkept.trans h) ?_
      rintro s₃ e ⟨h, hmessage⟩
      exact ⟨hkept.trans h, hmessage⟩

/-- **The tokens** are no reason to fail after a write. -/
theorem ends_regenerateListTokensAfterUpdate {tenant listId : String}
    (hw : s.Settled fromStart) (hs : s.stale ≤ 2) {E : UpdateProgress → StatusError → Prop} :
    UpdateEnds fromStart tenantId value (fun s' _ => Kept s s') E
      (regenerateListTokensAfterUpdate w tenant listId) s := by
  refine (ends_regenerateAttempts maxRetries hw hs (by simp [maxRetries])).attempt.bind
    fun x s₁ hx => ?_
  cases x with
  | ok list => exact hx.1 list rfl
  | error e =>
    obtain ⟨hkept, message, rfl⟩ := hx.2 e rfl
    exact hkept

/-! ## One entry -/

/-- The entry was committed, and what was written before is still noted. -/
structure Wrote (tenantId : String) (value : Nat) (m : StatusMapping) (s s' : UpdateProgress) :
    Prop where
  entries : s'.entries = s.entries
  write : ∃ write ∈ s'.writes, SetsEntry tenantId value m write
  kept : ∀ write ∈ s.writes, write ∈ s'.writes
  refused : s'.refused = 0

theorem Wrote.settled {m : StatusMapping} {s' : UpdateProgress}
    (h : Wrote tenantId value m s s') : s'.Settled fromStart := by
  obtain ⟨write, hmem, -⟩ := h.write
  exact .inr (List.ne_nil_of_mem hmem)

/-- An attempt failed: that was allowed, or it met another version. -/
structure Attempted (fromStart : Bool) (s s' : UpdateProgress) (e : StatusError) : Prop where
  entries : s'.entries = s.entries
  writes : s'.writes = s.writes
  retryable : s.Settled fromStart → isRetryableConcurrencyError e = true ∧
    s'.refused = s.refused + 1 ∧ s'.refused ≤ 2

theorem attempted_of_unsettled {e : StatusError} (h : ¬s.Settled fromStart) :
    Attempted fromStart s s e := ⟨rfl, rfl, fun hw => absurd hw h⟩

/-- **One transaction** commits the entry or fails without a trace. -/
theorem ends_setEntryTransaction {m : StatusMapping} (hm : m ∈ s.entries) :
    UpdateEnds fromStart tenantId value (fun s' _ => Wrote tenantId value m s s' ∧ s'.stale = 0)
      (Attempted fromStart s) (setEntryTransaction m.statusListId m.index value tenantId) s := by
  intro found hgranted
  by_cases hw : s.Settled fromStart
  · obtain ⟨list, rfl, hfits, hallowed⟩ := hgranted hw
    refine Monitor.Ends.getOrFail (fun h => nomatch h) fun entry hentry => ?_
    cases hentry
    refine Monitor.Ends.ofExcept (fun e he => ?_) fun _ _ => ?_
    · simp [assertValueFitsLists, hfits] at he
    refine Monitor.Ends.ofExcept (fun e he => ?_) fun _ _ => ?_
    · rw [assertStatusTransitionAllowed, if_pos (hallowed m hm rfl)] at he
      cases he
    intro outcome hgranted
    rcases hgranted hw with rfl | ⟨rfl, hlt⟩
    · exact ⟨⟨rfl, ⟨_, List.mem_cons_self, rfl, hm, statusAt_assignStatus_self _ _ _⟩,
        fun write hwrite => List.mem_cons_of_mem _ hwrite, rfl⟩, rfl⟩
    · exact ⟨rfl, rfl, fun _ => ⟨rfl, rfl, hlt⟩⟩
  · -- as long as it may fail, every answer is possible
    refine Monitor.Ends.getOrFail (fun _ => attempted_of_unsettled hw) fun entry _ =>
      Monitor.Ends.ofExcept (fun _ _ => attempted_of_unsettled hw) fun _ _ =>
      Monitor.Ends.ofExcept (fun _ _ => attempted_of_unsettled hw) fun _ _ => ?_
    intro outcome _
    cases outcome with
    | committed =>
      exact ⟨⟨rfl, ⟨_, List.mem_cons_self, rfl, hm, statusAt_assignStatus_self _ _ _⟩,
        fun write hwrite => List.mem_cons_of_mem _ hwrite, rfl⟩, rfl⟩
    | versionChanged => exact ⟨rfl, rfl, fun h => absurd h hw⟩
    | failed e => exact ⟨rfl, rfl, fun h => absurd h hw⟩

/-- **One attempt** commits the entry, whose tokens are then no reason to fail, or fails
without a trace. -/
theorem ends_setEntryWithRetry {m : StatusMapping} (hm : m ∈ s.entries) :
    UpdateEnds fromStart tenantId value (fun s' _ => Wrote tenantId value m s s')
      (Attempted fromStart s) (setEntryWithRetry w m.statusListId m.index value tenantId) s := by
  refine (ends_setEntryTransaction hm).bind fun _ s₁ ⟨hwrote, hstale⟩ => ?_
  refine (ends_askStatus hwrote.settled).bind fun config s₂ hs₂ => ?_
  subst hs₂
  rw [onlyIf]
  split
  · refine (ends_regenerateListTokensAfterUpdate hwrote.settled (by omega)).imp
      (fun s₃ _ hkept => ?_) fun _ _ h => h
    refine ⟨hkept.entries.trans hwrote.entries, ?_, ?_, hkept.refused.trans hwrote.refused⟩
    · rw [hkept.writes]
      exact hwrote.write
    · rw [hkept.writes]
      exact hwrote.kept
  · exact hwrote

/-- **An entry is committed**, unless it may fail. -/
theorem ends_setEntryAttempts {m : StatusMapping} {message : String} (attempts : Nat)
    (hm : m ∈ s.entries)
    (hleft : s.Settled fromStart → s.refused ≤ 2 ∧ 3 ≤ s.refused + attempts) :
    UpdateEnds fromStart tenantId value (fun s' _ => Wrote tenantId value m s s')
      (fun s' _ => ¬s'.Settled fromStart)
      (retryOnConcurrency (setEntryWithRetry w m.statusListId m.index value tenantId) message
        attempts) s := by
  induction attempts generalizing s with
  | zero =>
    intro hw
    have hbound := hleft hw
    omega
  | succ attempts ih =>
    refine (ends_setEntryWithRetry hm).attempt.bind fun x s₁ hx => ?_
    cases x with
    | ok u => exact hx.1 u rfl
    | error e =>
      have hfailed := hx.2 e rfl
      have hsettled : s₁.Settled fromStart ↔ s.Settled fromStart := by
        rw [UpdateProgress.Settled, hfailed.writes, UpdateProgress.Settled]
      show UpdateEnds fromStart tenantId value _ _ (if isRetryableConcurrencyError e then _
        else _ : StatusProg Unit) s₁
      split
      · refine (ih (hfailed.entries.symm ▸ hm) fun hw => ?_).imp (fun s₂ _ h => ?_) fun _ _ h => h
        · obtain ⟨-, hrefused, hle⟩ := hfailed.retryable (hsettled.mp hw)
          have hbound := hleft (hsettled.mp hw)
          omega
        · refine ⟨h.entries.trans hfailed.entries, h.write, fun write hwrite => ?_, h.refused⟩
          exact h.kept write (hfailed.writes.symm ▸ hwrite)
      · rename_i hnot
        exact fun hw => hnot (hfailed.retryable (hsettled.mp hw)).1

/-! ## All entries -/

/-- **The loop** commits every entry, unless it may fail. -/
theorem ends_each {entries : List StatusMapping} (hentries : ∀ m ∈ entries, m ∈ s.entries)
    (hrefused : s.Settled fromStart → s.refused = 0) :
    UpdateEnds fromStart tenantId value
      (fun s' _ => s'.entries = s.entries ∧ AllWritten tenantId value entries s' ∧
        ∀ write ∈ s.writes, write ∈ s'.writes)
      (fun s' _ => ¬s'.Settled fromStart)
      (each (fun entry => setEntry w entry.statusListId entry.index value tenantId) entries)
      s := by
  induction entries generalizing s with
  | nil => exact ⟨rfl, fun m hm => (List.not_mem_nil hm).elim, fun _ h => h⟩
  | cons m entries ih =>
    have hfirst : UpdateEnds fromStart tenantId value (fun s' _ => Wrote tenantId value m s s')
        (fun s' _ => ¬s'.Settled fromStart)
        (setEntry w m.statusListId m.index value tenantId) s :=
      ends_setEntryAttempts maxRetries (hentries m List.mem_cons_self) fun hw => by
        simp [hrefused hw, maxRetries]
    refine hfirst.bind fun _ s₁ hwrote => ?_
    have hrest := ih (s := s₁)
      (fun m' hm' => hwrote.entries.symm ▸ hentries m' (List.mem_cons_of_mem m hm'))
      fun _ => hwrote.refused
    refine hrest.imp (fun s₂ _ ⟨hsame, hall, hkept⟩ => ?_) fun _ _ h => h
    refine ⟨hsame.trans hwrote.entries, fun m' hm' => ?_,
      fun write hwrite => hkept write (hwrote.kept write hwrite)⟩
    rcases List.mem_cons.mp hm' with rfl | htail
    · obtain ⟨write, hmem, hsets⟩ := hwrote.write
      exact ⟨write, hkept _ hmem, hsets⟩
    · exact hall m' htail

theorem ends_checks {lists : List StatusListEntity} {entries : List StatusMapping}
    (hallowed : s.Settled fromStart →
      ∀ m ∈ entries, statusTransitionAllowed (storedStatus lists m) value = true) :
    UpdateEnds fromStart tenantId value (fun s' (_ : Unit) => s' = s)
      (fun s' _ => ¬s'.Settled fromStart)
      (each (fun entry => ofExcept (assertStatusTransitionAllowed (storedStatus lists entry)
        value)) entries) s := by
  induction entries with
  | nil => rfl
  | cons entry entries ih =>
    refine Monitor.Ends.ofExcept (fun e he hw => ?_) fun _ _ =>
      ih fun hw m hm => hallowed hw m (List.mem_cons_of_mem entry hm)
    rw [assertStatusTransitionAllowed, if_pos (hallowed hw entry List.mem_cons_self)] at he
    cases he

/-- **`setEntries`** of the entries that were selected. -/
theorem ends_setEntries (hrefused : s.refused = 0) :
    UpdateEnds fromStart tenantId value
      (fun s' _ => s'.entries = s.entries ∧ AllWritten tenantId value s.entries s')
      (fun s' _ => ¬s'.Settled fromStart) (setEntries w tenantId s.entries value) s := by
  rw [setEntries, onlyIf]
  split
  · intro lists hgranted
    refine Monitor.Ends.ofExcept (fun e he hw => ?_) fun _ _ => ?_
    · rw [(hgranted hw).1] at he
      cases he
    have hloop : UpdateEnds fromStart tenantId value
        (fun s' _ => s'.entries = s.entries ∧ AllWritten tenantId value s.entries s')
        (fun s' _ => ¬s'.Settled fromStart)
        (checkAndSetEntries w tenantId lists s.entries value) s := by
      refine (ends_checks fun hw => (hgranted hw).2).bind fun _ s₁ hs₁ => ?_
      subst hs₁
      exact (ends_each (fun _ h => h) fun _ => hrefused).imp
        (fun s₂ _ h => ⟨h.1, h.2.1⟩) fun _ _ h => h
    refine hloop.attempt.bind fun x s₁ hx => ?_
    cases x with
    | ok u => exact hx.1 u rfl
    | error e => exact hx.2 e rfl
  · rename_i hempty
    have hnil : s.entries = [] := by simpa using hempty
    refine ⟨rfl, fun m hm => ?_⟩
    rw [hnil] at hm
    exact (List.not_mem_nil hm).elim

/-- `Granted`, evaluated. -/
def grants (tenantId : String) (status : Nat) (s : UpdateProgress) :
    (op : StatusCall) → op.Result → Bool
  | .lists (.findOneBy key), found => found.any fun list =>
    statusValueFits (some status) list.bits && s.entries.all fun m =>
      !decide ((tenantId, m.statusListId) = key) ||
        statusTransitionAllowed (statusAt list.elements m.index) status
  | .lists (.findByIds ..), lists => decide (assertValueFitsLists status lists = .ok ()) &&
    s.entries.all fun m => statusTransitionAllowed (storedStatus lists m) status
  | .lists (.updateElements ..), outcome =>
    outcome == .committed || outcome == .versionChanged && decide (s.refused < 2)
  | .lists (.updateTokens ..), updated => updated || decide (s.stale < 2)
  | .ask (.findCert ..), answer => (answer matches .ok (some _))
  | .ask _, answer => (answer matches .ok _)
  | _, _ => true

theorem grants_sound {status : Nat} {op : StatusCall} {r : op.Result}
    (h : grants tenantId status s op r = true) : Granted tenantId status s op r := by
  unfold Granted
  split
  · obtain ⟨list, rfl, hlist⟩ := (Option.any_eq_true _ _).mp h
    obtain ⟨hfits, hentries⟩ := Bool.and_eq_true_iff.mp hlist
    refine ⟨list, rfl, hfits, fun m hm hkey => ?_⟩
    simpa [hkey] using List.all_eq_true.mp hentries m hm
  · obtain ⟨hfits, hallowed⟩ := Bool.and_eq_true_iff.mp h
    exact ⟨of_decide_eq_true hfits, List.all_eq_true.mp hallowed⟩
  · simpa [grants] using h
  · simpa [grants] using h
  · simp only [grants] at h
    split at h
    · rename_i key
      exact ⟨key, rfl⟩
    · cases h
  · simp only [grants] at h
    split at h
    · exact ⟨_, rfl⟩
    · cases h
  · trivial

/-! ## Notes and events -/

variable {g : StatusState} {t : Nat} {k : ListKey} {m : StatusMapping} {trace : List StatusEvent}

theorem entries_note (s : UpdateProgress) (op : StatusCall) (r : op.Result)
    (h : m ∈ s.entries) : m ∈ (s.note op r).entries := by
  unfold UpdateProgress.note
  split
  · exact List.mem_append_right _ h
  · exact List.mem_append_right _ h
  all_goals exact h

theorem mem_entries_note {e : StatusEvent} (h : FindsMapping m e) :
    m ∈ (s.note e.op e.res).entries := by
  obtain ⟨tid, op, res⟩ := e
  cases op with
  | mappings c =>
    cases c with
    | findBySession tenantId sessionId configuration => exact List.mem_append_left _ h
    | findByIssuanceSet tenantId configuration set => exact List.mem_append_left _ h
    | countBy key => cases h
  | _ => cases h

theorem writes_note (s : UpdateProgress) (op : StatusCall) (r : op.Result)
    (h : s.writes ≠ []) : (s.note op r).writes ≠ [] := by
  unfold UpdateProgress.note
  split
  case h_3 => exact List.cons_ne_nil _ _
  all_goals exact h

theorem mem_entries (h : Selects g t m) : m ∈ (updateMonitor.state t g.trace).entries := by
  obtain ⟨e, he, rfl, hfinds⟩ := h
  generalize g.trace = trace at he ⊢
  induction trace with
  | nil => exact (List.not_mem_nil he).elim
  | cons e' older ih =>
    rcases List.mem_cons.mp he with rfl | hold
    · rw [Monitor.state_cons_self]
      exact mem_entries_note hfinds
    · by_cases ht : e'.tid = e.tid
      · rw [← ht, Monitor.state_cons_self, ht]
        exact entries_note _ _ _ (ih hold)
      · rw [Monitor.state_cons_other ht]
        exact ih hold

theorem selects_of_entries (h : m ∈ (updateMonitor.state t g.trace).entries) : Selects g t m := by
  unfold Selects
  generalize g.trace = trace at h ⊢
  induction trace with
  | nil => exact (List.not_mem_nil h).elim
  | cons e older ih =>
    obtain ⟨tid, op, res⟩ := e
    -- what was noted before the newest event was selected before it
    have hbefore (hm : m ∈ (updateMonitor.state t older).entries) :
        ∃ e ∈ (⟨tid, op, res⟩ :: older : List StatusEvent), e.tid = t ∧ FindsMapping m e := by
      obtain ⟨e, he, hfinds⟩ := ih hm
      exact ⟨e, List.mem_cons_of_mem _ he, hfinds⟩
    by_cases ht : tid = t
    · subst ht
      rw [Monitor.state_cons_self] at h
      change m ∈ (UpdateProgress.note _ op res).entries at h
      unfold UpdateProgress.note at h
      split at h
      · rcases List.mem_append.mp h with hfound | hold
        · exact ⟨_, List.mem_cons_self, rfl, hfound⟩
        · exact hbefore hold
      · rcases List.mem_append.mp h with hfound | hold
        · exact ⟨_, List.mem_cons_self, rfl, hfound⟩
        · exact hbefore hold
      all_goals exact hbefore h
    · rw [Monitor.state_cons_other ht] at h
      exact hbefore h

theorem written_of_event {version : Nat} {elements : List StatusElement}
    (he : (⟨t, .lists (.updateElements k version elements), TransactionOutcome.committed⟩ :
      StatusEvent) ∈ trace) : (updateMonitor.state t trace).writes ≠ [] := by
  induction trace with
  | nil => exact (List.not_mem_nil he).elim
  | cons e older ih =>
    rcases List.mem_cons.mp he with rfl | hold
    · rw [Monitor.state_cons_self]
      exact List.cons_ne_nil _ _
    · by_cases ht : e.tid = t
      · subst ht
        rw [Monitor.state_cons_self]
        exact writes_note _ _ _ (ih hold)
      · rw [Monitor.state_cons_other ht]
        exact ih hold

/-- **A noted write was committed**, after the selections it is noted with. -/
theorem event_of_write {write : UpdateWrite} (h : write ∈ (updateMonitor.state t trace).writes) :
    ∃ newer older version, trace = newer ++ ⟨t, .lists (.updateElements write.key version
      write.elements), TransactionOutcome.committed⟩ :: older ∧
        write.selected = (updateMonitor.state t older).entries := by
  induction trace with
  | nil => exact (List.not_mem_nil h).elim
  | cons e older ih =>
    obtain ⟨tid, op, res⟩ := e
    have hbefore (hw : write ∈ (updateMonitor.state t older).writes) :
        ∃ newer older' version, (⟨tid, op, res⟩ :: older : List StatusEvent) =
          newer ++ ⟨t, .lists (.updateElements write.key version write.elements),
            TransactionOutcome.committed⟩ :: older' ∧
          write.selected = (updateMonitor.state t older').entries := by
      obtain ⟨newer, older', version, rfl, hselected⟩ := ih hw
      exact ⟨⟨tid, op, res⟩ :: newer, older', version, rfl, hselected⟩
    by_cases ht : tid = t
    · subst ht
      rw [Monitor.state_cons_self] at h
      change write ∈ (UpdateProgress.note _ op res).writes at h
      unfold UpdateProgress.note at h
      split at h
      case h_3 =>
        rcases List.mem_cons.mp h with rfl | hold
        · exact ⟨[], older, _, rfl, rfl⟩
        · exact hbefore hold
      all_goals exact hbefore h
    · rw [Monitor.state_cons_other ht] at h
      exact hbefore h

end StatusLists

end Eudiplo
