import Eudiplo.StatusList.Updates

/-!
# What a status update publishes

With immediate updates, a status update caches new tokens of every list it has written.
`publishMonitor` notes which lists an update has written and not published yet; when it returns,
every entry is written and no list is left to publish (`StatusLists.publishes_updateStatus`).
-/

namespace Eudiplo

open Concurrency Prog

/-! ## Notes -/

/-- What is noted about a status update: the entries it selected, its committed writes, and
the lists it has written since it last cached tokens of them. -/
structure PublishProgress where
  selected : List StatusMapping := []
  writes : List (ListKey × List StatusElement) := []
  pending : List ListKey := []

def PublishProgress.note (s : PublishProgress) (op : StatusCall) (r : op.Result) :
    PublishProgress :=
  match op, r with
  | .mappings (.findBySession ..), found => { s with selected := found ++ s.selected }
  | .mappings (.findByIssuanceSet ..), found => { s with selected := found ++ s.selected }
  | .lists (.updateElements key _ elements), .committed =>
    { s with writes := (key, elements) :: s.writes, pending := key :: s.pending }
  | .lists (.updateTokens key ..), updated =>
    { s with pending := if updated then s.pending.filter (· != key) else s.pending }
  | _, _ => s

def publishMonitor : Monitor StatusCall.Result PublishProgress := ⟨{}, PublishProgress.note⟩

/-- What an update of the tenant relies on: a list that is found has its key and values that
can be encoded, updates are immediate, and the errors of the parts around are not those of
the encoder. -/
def MayPublish (tenantId : String) : (op : StatusCall) → op.Result → Prop
  | .lists (.findOneBy key), found => ∀ list, found = some list →
    list.key = key ∧ findOutOfRangeStatusIndexes list.elements list.bits = []
  | .ask (.effectiveConfig tenant), answer =>
    (∀ message, answer ≠ .error (.valuesOutOfRange message)) ∧
      (tenant = tenantId → ∀ config, answer = .ok config → config.immediateUpdate = true)
  | .ask _, answer => ∀ message, answer ≠ .error (.valuesOutOfRange message)
  | _, _ => True

namespace StatusLists

variable {w : StatusWorld} {tenantId : String} {value : Nat} {s s' : PublishProgress}

/-- How a part of a status update ends. -/
abbrev PublishEnds {α : Type} (tenantId : String) (Q : PublishProgress → α → Prop)
    (E : PublishProgress → StatusError → Prop) (p : StatusProg α) (s : PublishProgress) : Prop :=
  publishMonitor.Ends (fun _ op r => MayPublish tenantId op r) Q E p s

/-! ## The tokens -/

/-- The same notes, but for lists that have been published. -/
structure Shrinks (s s' : PublishProgress) : Prop where
  selected : s'.selected = s.selected
  writes : s'.writes = s.writes
  pending : ∀ key ∈ s'.pending, key ∈ s.pending

theorem Shrinks.refl (s : PublishProgress) : Shrinks s s := ⟨rfl, rfl, fun _ h => h⟩

theorem Shrinks.trans {s'' : PublishProgress} (h : Shrinks s s') (h' : Shrinks s' s'') :
    Shrinks s s'' :=
  ⟨h'.selected.trans h.selected, h'.writes.trans h.writes,
    fun key hkey => h.pending key (h'.pending key hkey)⟩

/-- An error that is not the encoder's, after which less is left to publish. -/
def OtherError (s s' : PublishProgress) (e : StatusError) : Prop :=
  Shrinks s s' ∧ ∀ message, e ≠ .valuesOutOfRange message

theorem mayPublish_error {q : StatusQuestion} {answer : Except StatusError q.Payload}
    (h : MayPublish tenantId (.ask q) answer) (message : String) :
    answer ≠ .error (.valuesOutOfRange message) := by
  cases q with
  | effectiveConfig tenant => exact h.1 message
  | _ => exact h message

theorem publishes_askStatus (q : StatusQuestion) :
    PublishEnds tenantId (fun s' (_ : q.Payload) => s' = s) (OtherError s) (askStatus q) s := by
  intro answer hmay
  have herror := mayPublish_error hmay
  cases answer with
  | error e => exact ⟨.refl s, fun message he => herror message (by rw [he])⟩
  | ok payload => rfl

theorem publishes_config :
    PublishEnds tenantId (fun s' (config : StatusListConfig) =>
      s' = s ∧ config.immediateUpdate = true) (OtherError s)
      (askStatus (.effectiveConfig tenantId)) s := by
  intro answer hmay
  cases answer with
  | error e => exact ⟨.refl s, fun message he => hmay.1 message (by rw [he])⟩
  | ok config => exact ⟨rfl, hmay.2 rfl config rfl⟩

theorem publishes_requireCert {tenant : String} {keyChainId : Option String}
    {missing : StatusError} (hmissing : ∀ message, missing ≠ .valuesOutOfRange message) :
    PublishEnds tenantId (fun s' (_ : String) => s' = s) (OtherError s)
      (requireCert tenant keyChainId missing) s := by
  refine (publishes_askStatus _).bind fun cert s₁ hs₁ => ?_
  subst hs₁
  exact Monitor.Ends.require (fun _ => ⟨.refl _, hmissing⟩) fun _ _ => rfl

theorem publishes_getSigningCert (list : StatusListEntity) :
    PublishEnds tenantId (fun s' (_ : String) => s' = s) (OtherError s) (getSigningCert list) s :=
  publishes_requireCert nofun

theorem publishes_getListById {listId : String} {tenant : String} :
    PublishEnds tenantId (fun s' (list : StatusListEntity) => s' = s ∧ list.key = (tenant, listId) ∧
      findOutOfRangeStatusIndexes list.elements list.bits = []) (OtherError s)
      (getListById tenant listId) s := by
  intro found hmay
  exact Monitor.Ends.require (fun _ => ⟨.refl s, nofun⟩) fun list hlist => ⟨rfl, hmay list hlist⟩

theorem publishes_createListJWT {list : StatusListEntity}
    (hfits : findOutOfRangeStatusIndexes list.elements list.bits = []) :
    PublishEnds tenantId
      (fun s' cached => Shrinks s s' ∧ (cached = true → list.key ∉ s'.pending)) (OtherError s)
      (createListJWT w list) s := by
  refine Monitor.Ends.ensure (fun h => ?_) fun _ => ?_
  · simp [hfits] at h
  refine (publishes_askStatus _).bind fun config s₁ hs₁ => ?_
  subst hs₁
  intro time _
  refine (publishes_getSigningCert list).bind fun keyId s₂ hs₂ => ?_
  subst hs₂
  refine (publishes_askStatus _).bind fun _ s₃ hs₃ => ?_
  subst hs₃
  refine (publishes_askStatus _).bind fun _ s₄ hs₄ => ?_
  subst hs₄
  intro updated _
  cases updated with
  | true =>
    exact ⟨⟨rfl, rfl, fun key hkey => (List.mem_filter.mp hkey).1⟩,
      fun _ hkey => by simpa using (List.mem_filter.mp hkey).2⟩
  | false => exact ⟨⟨rfl, rfl, fun _ h => h⟩, nofun⟩

/-- **Tokens are regenerated**, or an error other than the encoder's is thrown. -/
theorem publishes_regenerateAttempts {tenant listId : String} (attempts : Nat) :
    PublishEnds tenantId (fun s' _ => Shrinks s s' ∧ (tenant, listId) ∉ s'.pending) (OtherError s)
      (regenerateAttempts w tenant listId attempts) s := by
  induction attempts generalizing s with
  | zero => exact ⟨.refl s, nofun⟩
  | succ attempts ih =>
    refine publishes_getListById.bind fun entry s₁ ⟨hs₁, hkey, hfits⟩ => ?_
    subst hs₁
    refine (publishes_createListJWT hfits).bind fun cached s₂ ⟨hshrinks, hcached⟩ => ?_
    cases cached with
    | true =>
      refine publishes_getListById.imp (fun s₃ _ ⟨hs₃, _⟩ => ?_)
        fun s₃ e ⟨h, he⟩ => ⟨hshrinks.trans h, he⟩
      subst hs₃
      exact ⟨hshrinks, hkey ▸ hcached rfl⟩
    | false =>
      exact ih.imp (fun s₃ _ ⟨h, hpending⟩ => ⟨hshrinks.trans h, hpending⟩)
        fun s₃ e ⟨h, he⟩ => ⟨hshrinks.trans h, he⟩

/-- **After an update** the list is published, or an error is thrown. -/
theorem publishes_regenerateListTokensAfterUpdate {tenant listId : String} :
    PublishEnds tenantId (fun s' _ => Shrinks s s' ∧ (tenant, listId) ∉ s'.pending)
      (fun s' _ => Shrinks s s') (regenerateListTokensAfterUpdate w tenant listId) s := by
  have hregenerate : PublishEnds tenantId
      (fun s' _ => Shrinks s s' ∧ (tenant, listId) ∉ s'.pending) (OtherError s)
      (regenerateListTokens w tenant listId) s := publishes_regenerateAttempts maxRetries
  refine hregenerate.attempt.bind fun x s₁ hx => ?_
  cases x with
  | ok list => exact hx.1 list rfl
  | error e =>
    obtain ⟨hshrinks, hother⟩ := hx.2 e rfl
    cases e with
    | valuesOutOfRange message => exact (hother message rfl).elim
    | _ => exact hshrinks

/-! ## One entry -/

theorem lt_length_assignStatus (elements : List StatusElement) (index value : Nat) :
    index < (assignStatus elements index value).length := by
  simp only [assignStatus, List.length_set, List.length_append, List.length_replicate]
  omega

/-- What was noted before is still noted, and nothing but this list is left to publish. -/
structure Advances (key : ListKey) (s s' : PublishProgress) : Prop where
  selected : s'.selected = s.selected
  kept : ∀ write ∈ s.writes, write ∈ s'.writes
  pending : ∀ k ∈ s'.pending, k = key ∨ k ∈ s.pending

/-- The entry is written, and its list published. -/
structure Publishes (tenantId : String) (value : Nat) (m : StatusMapping)
    (s s' : PublishProgress) : Prop where
  selected : s'.selected = s.selected
  kept : ∀ write ∈ s.writes, write ∈ s'.writes
  pending : ∀ k ∈ s'.pending, k ∈ s.pending ∧ k ≠ (tenantId, m.statusListId)
  written : ∃ write ∈ s'.writes, write.1 = (tenantId, m.statusListId) ∧
    m.index < write.2.length ∧ statusAt write.2 m.index = value

/-- **One transaction** writes the entry, or nothing. -/
theorem publishes_setEntryTransaction {m : StatusMapping} :
    PublishEnds tenantId (fun s' _ => ∃ elements,
        (m.index < elements.length ∧ statusAt elements m.index = value) ∧ s' = { s with
        writes := ((tenantId, m.statusListId), elements) :: s.writes
        pending := (tenantId, m.statusListId) :: s.pending })
      (fun s' _ => s' = s) (setEntryTransaction m.statusListId m.index value tenantId) s := by
  intro found _
  refine Monitor.Ends.getOrFail (fun _ => rfl) fun entry _ =>
    Monitor.Ends.ofExcept (fun _ _ => rfl) fun _ _ => Monitor.Ends.ofExcept (fun _ _ => rfl)
    fun _ _ => ?_
  intro outcome _
  cases outcome with
  | committed =>
    exact ⟨_, ⟨lt_length_assignStatus _ _ _, statusAt_assignStatus_self _ _ _⟩, rfl⟩
  | versionChanged => rfl
  | failed e => rfl

/-- **One attempt** writes and publishes the entry, or fails. -/
theorem publishes_setEntryWithRetry {m : StatusMapping} :
    PublishEnds tenantId (fun s' _ => Publishes tenantId value m s s')
      (fun s' _ => Advances (tenantId, m.statusListId) s s')
      (setEntryWithRetry w m.statusListId m.index value tenantId) s := by
  refine (publishes_setEntryTransaction.imp (fun _ _ h => h) fun s' _ h => ?_).bind
    fun _ s₁ hstored => ?_
  · subst h
    exact ⟨rfl, fun _ h => h, fun _ h => .inr h⟩
  obtain ⟨elements, hstatus, hs₁⟩ := hstored
  have hadvances {s₂ : PublishProgress} (h : Shrinks s₁ s₂) :
      Advances (tenantId, m.statusListId) s s₂ := by
    subst hs₁
    exact ⟨h.selected, fun write hwrite => h.writes ▸ List.mem_cons_of_mem _ hwrite,
      fun k hk => List.mem_cons.mp (h.pending k hk)⟩
  refine (publishes_config.imp (fun _ _ h => h) fun s₂ _ h => hadvances h.1).bind
    fun config s₂ hconfig => ?_
  obtain ⟨rfl, himmediate⟩ := hconfig
  rw [onlyIf, if_pos himmediate]
  refine publishes_regenerateListTokensAfterUpdate.imp (fun s₃ _ h => ?_)
    fun s₃ _ h => hadvances h
  obtain ⟨hshrinks, hpublished⟩ := h
  obtain ⟨hselected, hkept, hpending⟩ := hadvances hshrinks
  refine ⟨hselected, hkept, fun k hk => ?_, ((tenantId, m.statusListId), elements), ?_, rfl,
    hstatus⟩
  · have hne : k ≠ (tenantId, m.statusListId) := by
      rintro rfl
      exact hpublished hk
    exact ⟨(hpending k hk).resolve_left hne, hne⟩
  · rw [hshrinks.writes, hs₁]
    exact List.mem_cons_self

/-- **The retries** write and publish the entry, or fail. -/
theorem publishes_setEntryAttempts {m : StatusMapping} {message : String} (attempts : Nat)
    {s₀ : PublishProgress} (hs : Advances (tenantId, m.statusListId) s₀ s) :
    PublishEnds tenantId (fun s' _ => Publishes tenantId value m s₀ s') (fun _ _ => True)
      (retryOnConcurrency (setEntryWithRetry w m.statusListId m.index value tenantId) message
        attempts) s := by
  induction attempts generalizing s with
  | zero => trivial
  | succ attempts ih =>
    refine publishes_setEntryWithRetry.attempt.bind fun x s₁ hx => ?_
    cases x with
    | ok u =>
      obtain ⟨hselected, hkept, hpending, hwritten⟩ := hx.1 u rfl
      refine ⟨hselected.trans hs.selected, fun write h => hkept write (hs.kept write h),
        fun k hk => ?_, hwritten⟩
      obtain ⟨hmem, hne⟩ := hpending k hk
      exact ⟨(hs.pending k hmem).resolve_left hne, hne⟩
    | error e =>
      obtain ⟨hselected, hkept, hpending⟩ := hx.2 e rfl
      have hmore : Advances (tenantId, m.statusListId) s₀ s₁ :=
        ⟨hselected.trans hs.selected, fun write h => hkept write (hs.kept write h),
          fun k hk => (hpending k hk).elim .inl (hs.pending k)⟩
      show PublishEnds tenantId _ _ (if isRetryableConcurrencyError e then _
        else _ : StatusProg Unit) s₁
      split
      · exact ih hmore
      · trivial

/-! ## All entries -/

/-- Every entry is written, and no list is left to publish that was not left before. -/
structure PublishesAll (tenantId : String) (value : Nat) (entries : List StatusMapping)
    (s s' : PublishProgress) : Prop where
  selected : s'.selected = s.selected
  kept : ∀ write ∈ s.writes, write ∈ s'.writes
  pending : ∀ k ∈ s'.pending, k ∈ s.pending
  written : ∀ m ∈ entries, ∃ write ∈ s'.writes, write.1 = (tenantId, m.statusListId) ∧
    m.index < write.2.length ∧ statusAt write.2 m.index = value

/-- **The loop** writes and publishes every entry, or fails. -/
theorem publishes_each {entries : List StatusMapping} :
    PublishEnds tenantId (fun s' _ => PublishesAll tenantId value entries s s')
      (fun _ _ => True)
      (each (fun entry => setEntry w entry.statusListId entry.index value tenantId) entries)
      s := by
  induction entries generalizing s with
  | nil => exact ⟨rfl, fun _ h => h, fun _ h => h, fun m hm => (List.not_mem_nil hm).elim⟩
  | cons m entries ih =>
    have hfirst : PublishEnds tenantId (fun s' _ => Publishes tenantId value m s s')
        (fun _ _ => True) (setEntry w m.statusListId m.index value tenantId) s :=
      publishes_setEntryAttempts maxRetries ⟨rfl, fun _ h => h, fun _ h => .inr h⟩
    refine hfirst.bind fun _ s₁ hone => ?_
    refine ih.imp (fun s₂ _ hrest => ?_) fun _ _ h => h
    refine ⟨hrest.selected.trans hone.selected, fun write h => hrest.kept write (hone.kept write h),
      fun k hk => (hone.pending k (hrest.pending k hk)).1, fun m' hm' => ?_⟩
    rcases List.mem_cons.mp hm' with rfl | htail
    · obtain ⟨write, hwrite, hkey⟩ := hone.written
      exact ⟨write, hrest.kept write hwrite, hkey⟩
    · exact hrest.written m' htail

theorem publishes_checks {lists : List StatusListEntity} {entries : List StatusMapping} :
    PublishEnds tenantId (fun s' (_ : Unit) => s' = s) (fun _ _ => True)
      (each (fun entry => ofExcept (assertStatusTransitionAllowed (storedStatus lists entry)
        value)) entries) s := by
  induction entries with
  | nil => rfl
  | cons entry entries ih => exact Monitor.Ends.ofExcept (fun _ _ => trivial) fun _ _ => ih

/-- **`setEntries`** writes and publishes every entry, or fails. -/
theorem publishes_setEntries {entries : List StatusMapping} :
    PublishEnds tenantId (fun s' _ => PublishesAll tenantId value entries s s')
      (fun _ _ => True) (setEntries w tenantId entries value) s := by
  rw [setEntries, onlyIf]
  split
  · intro lists _
    refine Monitor.Ends.ofExcept (fun _ _ => trivial) fun _ _ => ?_
    have hloop : PublishEnds tenantId (fun s' _ => PublishesAll tenantId value entries s s')
        (fun _ _ => True) (checkAndSetEntries w tenantId lists entries value) s := by
      refine publishes_checks.bind fun _ s₁ hs₁ => ?_
      subst hs₁
      exact publishes_each
    refine hloop.attempt.bind fun x s₁ hx => ?_
    cases x with
    | ok u => exact hx.1 u rfl
    | error e => trivial
  · rename_i hempty
    have hnil : entries = [] := by simpa using hempty
    subst hnil
    exact ⟨rfl, fun _ h => h, fun _ h => h, fun m hm => (List.not_mem_nil hm).elim⟩

/-- **A status update that returns** has written every entry it selected, and published every
list it has written. -/
theorem publishes_updateStatus (w : StatusWorld) (tenantId : String) (update : StatusUpdate) :
    PublishEnds tenantId (fun s' _ => s'.pending = [] ∧
        ∀ m ∈ s'.selected, ∃ write ∈ s'.writes, write.1 = (tenantId, m.statusListId) ∧
          m.index < write.2.length ∧ statusAt write.2 m.index = update.status)
      (fun _ _ => True) (updateStatus w tenantId update) publishMonitor.start := by
  intro entries _
  refine Monitor.Ends.ensure (fun _ => trivial) fun _ => ?_
  refine publishes_setEntries.imp (fun s' _ hall => ?_) fun _ _ h => h
  refine ⟨List.eq_nil_iff_forall_not_mem.mpr fun k hk => ?_, fun m hm => ?_⟩
  · exact List.not_mem_nil (hall.pending k hk)
  · rw [hall.selected] at hm
    exact hall.written m (by simpa [publishMonitor, PublishProgress.note] using hm)

end StatusLists

end Eudiplo
