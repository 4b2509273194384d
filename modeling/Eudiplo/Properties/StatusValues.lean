import Eudiplo.Properties.StatusUpdates
import Eudiplo.StatusList.Publishing

/-!
# The values a status list stores, and when they are published

Every element of a stored list fits the bits of the list, so no token is made from a value
the encoder would cut (`values_fit`).  With immediate updates, a status update that has
returned has cached tokens made after its writes, and later tokens are made from later rows:
until another update overwrites an entry, every token that is served for its list shows the
new value.
-/

namespace Eudiplo

open Concurrency Prog Storage

/-! ## The claim -/

/-- Every element of the list fits its bits. -/
def ValuesFit (list : StatusListEntity) : Prop :=
  ∀ i < list.elements.length, statusValueFits list.elements[i]?.join list.bits = true

def WritesStatus (k : ListKey) (i status : Nat) : StatusEvent → Prop
  | ⟨_, .lists (.updateElements key _ elements), outcome⟩ =>
    outcome = .committed ∧ key = k ∧ i < elements.length ∧ statusAt elements i = status
  | _ => False

def OverwritesStatus (k : ListKey) (i status : Nat) : StatusEvent → Prop
  | ⟨_, .lists (.updateElements key _ elements), outcome⟩ =>
    outcome = .committed ∧ key = k ∧ statusAt elements i ≠ status
  | _ => False

/-- A write of thread `t`, made by the time of `ended`, that nothing has overwritten. -/
def NotOverwritten (t : Nat) (k : ListKey) (i status : Nat) (ended trace : List StatusEvent) :
    Prop :=
  ∃ newer e older, trace = newer ++ e :: older ∧ e :: older <:+ ended ∧ e.tid = t ∧
    WritesStatus k i status e ∧ ∀ e' ∈ newer, ¬OverwritesStatus k i status e'

def StatusRequest.ServesList (k : ListKey) (r : StatusRequest) : Prop :=
  r = .getListJwt k.1 k.2 ∨ r = .getListCwt k.1 k.2

def ImmediateUpdates (w : StatusWorld) (tenantId : String) : Prop :=
  ∀ n config, w.answer (.effectiveConfig tenantId) n = .ok config → config.immediateUpdate = true

/-- **What a status update that succeeded has done**, with immediate updates: it has written
every entry it selected, and until another update overwrites an entry, every token that is
asked for afterwards decodes to the status at its index. -/
def Published (w : StatusWorld) (decode : BitsPerStatus → String → Nat → Nat) (st : StatusStore)
    (ms : StatusSchedule) : Prop :=
  ∀ ms₁ ms₂ t tenantId update, ms = ms₁ ++ ms₂ → ImmediateUpdates w tenantId →
    ((statusListService w).run (.start st) ms₁).Answers t (.updateStatus tenantId update) .done →
    ∀ m, Selects ((statusListService w).run (.start st) ms₁).global t m →
      (∃ e ∈ ((statusListService w).run (.start st) ms₁).trace, e.tid = t ∧
        WritesStatus (tenantId, m.statusListId) m.index update.status e) ∧
      ∀ u r token, ((statusListService w).run (.start st) ms).Answers u r (.token (some token)) →
        r.ServesList (tenantId, m.statusListId) →
        ((statusListService w).run (.start st) ms₁).threads.length ≤ u →
        NotOverwritten t (tenantId, m.statusListId) m.index update.status
          ((statusListService w).run (.start st) ms₁).trace
          ((statusListService w).run (.start st) ms).trace →
        decode token.bits token.lst m.index = update.status

/-- **Every status value fits its list**, and is shown. -/
structure ShownValues (w : StatusWorld) (decode : BitsPerStatus → String → Nat → Nat)
    (st : StatusStore) (ms : StatusSchedule) : Prop where
  fits : ∀ k list, storedList ((statusListService w).run (.start st) ms) k = some list →
    ValuesFit list
  /-- The encoder truncates no value of a stored list. -/
  encoded : ∀ k list i, storedList ((statusListService w).run (.start st) ms) k = some list →
    i < list.elements.length →
      decode list.bits (w.compressStatusList list.bits list.elements) i = statusAt list.elements i
  published : Published w decode st ms

/-- `StatusListValuesOutOfRange` is an error of the service alone. -/
def OwnsEncoderError (w : StatusWorld) : Prop :=
  ∀ q n message, w.answer q n ≠ .error (.valuesOutOfRange message)

namespace StatusValues

open StatusLists StatusIndexes StatusTokens

variable {w : StatusWorld} {decode : BitsPerStatus → String → Nat → Nat}
variable {g g' : StatusState} {t tid : Nat} {op : StatusCall} {k : ListKey}
variable {list list' : StatusListEntity} {e : StatusEvent} {i status : Nat}

/-! ## Values that fit -/

theorem valuesFit_iff :
    ValuesFit list ↔ findOutOfRangeStatusIndexes list.elements list.bits = [] := by
  rw [findOutOfRangeStatusIndexes, List.filter_eq_nil_iff]
  simp [ValuesFit]

theorem valuesFit_new (h : NewList list) : ValuesFit list := by
  intro i hi
  rw [h.elements, newElements, List.getElem?_replicate, if_pos hi]
  cases list.bits <;> rfl

theorem valuesFit_assign {index value : Nat} (h : ValuesFit list)
    (hindex : index < list.elements.length)
    (hvalue : statusValueFits (some value) list.bits = true) :
    ∀ i < (assignStatus list.elements index value).length,
      statusValueFits (assignStatus list.elements index value)[i]?.join list.bits = true := by
  intro i hi
  have hwithin : list.elements ++ List.replicate (index + 1 - list.elements.length) none =
      list.elements := by
    rw [Nat.sub_eq_zero_of_le hindex, List.replicate_zero, List.append_nil]
  rw [length_assignStatus value hindex] at hi
  rw [assignStatus, hwithin]
  by_cases hsame : index = i
  · subst hsame
    rwa [List.getElem?_set_self hindex]
  · rw [List.getElem?_set_ne hsame]
    exact h i hi

/-- **One call keeps every value in range.** -/
theorem valuesFit_after (hinv : StatusInv w g) (hmay : StatusMay w g tid op)
    (honce : (listRows w).Once ((statusListService w).after g tid op) k) (hindexes : Indexes g k)
    (h : ∀ list, g.store.lists.get k = some list → ValuesFit list)
    (hlist' : ((statusListService w).after g tid op).store.lists.get k = some list') :
    ValuesFit list' := by
  have honce' := honce.mono (System.extends_after _ _ _)
  rcases stored_after hinv hmay honce hlist' with ⟨-, hnew⟩ | ⟨list, hlist, rfl | hstep⟩
  · exact valuesFit_new hnew
  · exact h list' hlist
  · have hfits := h list hlist
    have hkey := Table.get_key hlist
    cases hstep with
    | tokens | binding | allocation => exact hfits
    | element index value hop hallowed htargets hsets =>
      obtain ⟨n, hn, hparts⟩ := hindexes.stored list hlist
      obtain ⟨n', hn', hlt⟩ := hindexes.handed index htargets.allocated
      obtain rfl := CreatedWith.unique honce' hn hn'
      have hindex : index < list.elements.length := hparts.capacity.symm ▸ hlt
      have hop : op = .lists (.updateElements k list.version
        (assignStatus list.elements index value)) := hop
      subst hop
      obtain ⟨r, index', value', hread, hversion, helements, -, hvalue, htargets', -⟩ := hmay
      obtain rfl := hinv.rows.current honce' hread hlist hversion.symm
      obtain ⟨n'', hn'', hlt'⟩ := hindexes.handed index' htargets'.allocated
      obtain rfl := CreatedWith.unique honce' hn hn''
      show ∀ i < (assignStatus list.elements index value).length, _
      rw [helements]
      exact valuesFit_assign hfits (hparts.capacity.symm ▸ hlt') hvalue

/-- **Every value of every run fits.** -/
theorem valuesFit_run {st : StatusStore} (hlists : st.lists = Table.empty)
    (hmappings : st.mappings = Table.empty) (ms : StatusSchedule)
    (honce : (listRows w).Once ((statusListService w).run (.start st) ms).global k)
    (hlist : storedList ((statusListService w).run (.start st) ms) k = some list) :
    ValuesFit list := by
  have hboth := (run_may hlists hmappings ms).keeps
    (K := fun g => (listRows w).Once g k → Indexes g k ∧
      ∀ list, g.store.lists.get k = some list → ValuesFit list) (fun _ => ?_)
    (fun {g tid op} hok hbefore honce => ?_)
    (fun r h honce => ⟨(h honce).1.same rfl rfl, (h honce).2⟩)
    (fun e h honce => ⟨(h honce).1.same rfl rfl, (h honce).2⟩) honce
  · exact hboth.2 list hlist
  · refine ⟨indexes_run hlists hmappings [] ‹_›, fun list hlist => ?_⟩
    have hlist : st.lists.get k = some list := hlist
    rw [hlists] at hlist
    cases hlist
  · obtain ⟨hindexes, hfit⟩ := hbefore (honce.mono (System.extends_after _ _ _))
    exact ⟨indexes_after hok.1 hok.2 honce hindexes,
      fun list hlist => valuesFit_after hok.1 hok.2 honce hindexes hfit hlist⟩

/-! ## Since the status was written -/

def SetSince (k : ListKey) (i status : Nat) : List StatusEvent → Prop
  | [] => False
  | e :: older =>
    WritesStatus k i status e ∨ SetSince k i status older ∧ ¬OverwritesStatus k i status e

def CachesTokens (k : ListKey) : StatusEvent → Prop
  | ⟨_, .lists (.updateTokens key ..), updated⟩ => updated = true ∧ key = k
  | _ => False

/-- The status was written, and tokens of the list were cached later; it has not been
overwritten since. -/
def PublishedSince (k : ListKey) (i status : Nat) : List StatusEvent → Prop
  | [] => False
  | e :: older =>
    CachesTokens k e ∧ SetSince k i status older ∨
      PublishedSince k i status older ∧ ¬OverwritesStatus k i status e

theorem not_overwrites_of_caches (h : CachesTokens k e) : ¬OverwritesStatus k i status e := by
  obtain ⟨tid, op, res⟩ := e
  cases op with
  | lists c =>
    cases c with
    | updateTokens key version jwt cwt expiresAt => exact id
    | _ => cases h
  | _ => cases h

theorem setSince_of_published {trace : List StatusEvent} (h : PublishedSince k i status trace) :
    SetSince k i status trace := by
  induction trace with
  | nil => exact h
  | cons e older ih =>
    rcases h with ⟨hcaches, hset⟩ | ⟨hpublished, hkept⟩
    · exact .inr ⟨hset, not_overwrites_of_caches hcaches⟩
    · exact .inr ⟨ih hpublished, hkept⟩

theorem setSince_append {newer older : List StatusEvent} (h : SetSince k i status older)
    (hkept : ∀ e ∈ newer, ¬OverwritesStatus k i status e) :
    SetSince k i status (newer ++ older) := by
  induction newer with
  | nil => exact h
  | cons e newer ih =>
    exact .inr ⟨ih fun e' he' => hkept e' (List.mem_cons_of_mem e he'),
      hkept e List.mem_cons_self⟩

theorem publishedSince_append {newer older : List StatusEvent}
    (h : PublishedSince k i status older)
    (hkept : ∀ e ∈ newer, ¬OverwritesStatus k i status e) :
    PublishedSince k i status (newer ++ older) := by
  induction newer with
  | nil => exact h
  | cons e newer ih =>
    exact .inr ⟨ih fun e' he' => hkept e' (List.mem_cons_of_mem e he'),
      hkept e List.mem_cons_self⟩

theorem created_of_writes (hinv : StatusInv w g)
    (h : WritesStatus k i status ⟨tid, op, (op.answer w g.store).1⟩) :
    0 < g.trace.countP (createsList k) := by
  cases op with
  | lists c =>
    cases c with
    | updateElements key version elements =>
      obtain ⟨hcommitted, rfl, -⟩ := h
      obtain ⟨hthere, -⟩ := committed_row hcommitted
      obtain ⟨list, hlist⟩ := Option.isSome_iff_exists.mp hthere
      exact hinv.rows.present key list hlist
    | _ => cases h
  | _ => cases h

theorem stored_of_writes
    (h : WritesStatus k i status ⟨tid, op, (op.answer w g.store).1⟩)
    (hlist : ((statusListService w).after g tid op).store.lists.get k = some list) :
    i < list.elements.length ∧ statusAt list.elements i = status := by
  cases op with
  | lists c =>
    cases c with
    | updateElements key version elements =>
      obtain ⟨hcommitted, rfl, hstatus⟩ := h
      rw [(committed_row hcommitted).2 list hlist]
      exact hstatus
    | _ => cases h
  | _ => cases h

theorem kept_of_rewrites (hkey : list.key = k)
    (h : Rewrites list list' ⟨tid, op, (op.answer w g.store).1⟩)
    (hkept : ¬OverwritesStatus k i status ⟨tid, op, (op.answer w g.store).1⟩)
    (hstatus : statusAt list.elements i = status) : statusAt list'.elements i = status := by
  cases op with
  | lists c =>
    cases c with
    | updateElements key version elements =>
      obtain ⟨hcommitted, hk, -, rfl⟩ := h
      by_contra hother
      exact hkept ⟨hcommitted, hk.symm.trans hkey, hother⟩
    | updateTokens key version jwt cwt expiresAt =>
      obtain ⟨-, -, -, rfl⟩ := h
      exact hstatus
    | updateBinding key version changes =>
      obtain ⟨-, -, -, rfl⟩ := h
      exact hstatus
    | allocate key version stack mapping =>
      obtain ⟨-, -, -, rfl⟩ := h
      exact hstatus
    | _ => cases h
  | _ => cases h

theorem encodes_of_caches (hinv : StatusInv w g) (hmay : StatusMay w g tid op)
    (honce : (listRows w).Once g k)
    (h : CachesTokens k ⟨tid, op, (op.answer w g.store).1⟩)
    (hlist' : ((statusListService w).after g tid op).store.lists.get k = some list') :
    ∃ list, g.store.lists.get k = some list ∧
      findOutOfRangeStatusIndexes list.elements list.bits = [] ∧
      ∀ token, list'.Caches token → token.Encodes w list := by
  cases op with
  | lists c =>
    cases c with
    | updateTokens key version jwt cwt expiresAt =>
      obtain ⟨hupdated, rfl⟩ := h
      obtain ⟨list, hlist, rfl⟩ := hasVersion_eq_true.mp hupdated
      obtain ⟨r, hread, hversion, hfits, hjwt, hcwt⟩ := hmay
      obtain rfl := hinv.rows.current honce hread hlist hversion.symm
      have hstored := hlist'.symm.trans (@get_updateVersioned_self _ _ _ (fun r => { r with
        jwt := some jwt, cwt := some cwt, expiresAt := some expiresAt }) (fun _ => rfl) hlist)
      cases hstored
      refine ⟨_, hlist, hfits, fun token hcaches => ?_⟩
      rcases hcaches with hnew | hnew
      · cases hnew
        exact hjwt
      · cases hnew
        exact hcwt
    | _ => cases h
  | _ => cases h

/-- **The invariant** of one entry: since its status was written it is stored, and since it
was published every cached token, and every one that was read, shows it. -/
structure ShowsStatus (decode : BitsPerStatus → String → Nat → Nat) (g : StatusState)
    (k : ListKey) (i status : Nat) : Prop where
  created : SetSince k i status g.trace → 0 < g.trace.countP (createsList k)
  stored : SetSince k i status g.trace → ∀ list, g.store.lists.get k = some list →
    i < list.elements.length ∧ statusAt list.elements i = status
  cached : PublishedSince k i status g.trace → ∀ list token,
    g.store.lists.get k = some list → list.Caches token → decode token.bits token.lst i = status
  read : ∀ newer e older, g.trace = newer ++ e :: older → PublishedSince k i status older →
    ∀ list token, ReadsList list e → list.key = k → list.Caches token →
      decode token.bits token.lst i = status

theorem decode_of_encodes (hlossless : Lossless w decode) {token : StatusListToken}
    (hfits : findOutOfRangeStatusIndexes list.elements list.bits = [])
    (hencodes : token.Encodes w list)
    (hstored : i < list.elements.length ∧ statusAt list.elements i = status) :
    decode token.bits token.lst i = status := by
  rw [hencodes.1, hencodes.2, hlossless _ _ _ hfits hstored.1, hstored.2]

/-- **One call keeps the invariant.** -/
theorem showsStatus_after (hlossless : Lossless w decode) (hinv : StatusInv w g)
    (hmay : StatusMay w g tid op)
    (honce : (listRows w).Once ((statusListService w).after g tid op) k) (hindexes : Indexes g k)
    (h : ShowsStatus decode g k i status) :
    ShowsStatus decode ((statusListService w).after g tid op) k i status := by
  have hext := System.extends_after (M := statusListService w) g tid op
  have honce' := honce.mono hext
  -- a list whose status was set is there, and not created again
  have hrow (hset : SetSince k i status g.trace) {list' : StatusListEntity}
      (hlist' : ((statusListService w).after g tid op).store.lists.get k = some list') :
      ∃ list, g.store.lists.get k = some list ∧
        (list' = list ∨ Rewrites list list' ⟨tid, op, (op.answer w g.store).1⟩) := by
    rcases list_row tid hlist' with hcreates | hkept
    · cases (Versioned.not_creates honce (h.created hset)).symm.trans hcreates
    · exact hkept
  refine ⟨fun hset => ?_, fun hset list' hlist' => ?_,
    fun hpublished list' token hlist' hcaches => ?_,
    fun newer e older htrace hpublished list token hreads hkey hcaches => ?_⟩
  · refine Nat.lt_of_lt_of_le ?_ hext.trace.sublist.countP_le
    rcases hset with hwrites | ⟨hset, -⟩
    · exact created_of_writes hinv hwrites
    · exact h.created hset
  · rcases hset with hwrites | ⟨hset, hkept⟩
    · exact stored_of_writes hwrites hlist'
    · obtain ⟨list, hlist, rfl | hrewrites⟩ := hrow hset hlist'
      · exact h.stored hset list' hlist
      · obtain ⟨hi, hstatus⟩ := h.stored hset list hlist
        have hstep := list_step hinv hmay honce' hlist hrewrites
        exact ⟨(step_length honce' hindexes hlist hstep).symm ▸ hi,
          kept_of_rewrites (Table.get_key hlist) hrewrites hkept hstatus⟩
  · rcases hpublished with ⟨hnow, hset⟩ | ⟨hpublished, -⟩
    · obtain ⟨list, hlist, hfits, hencodes⟩ := encodes_of_caches hinv hmay honce' hnow hlist'
      exact decode_of_encodes hlossless hfits (hencodes token hcaches) (h.stored hset list hlist)
    · have hset := setSince_of_published hpublished
      obtain ⟨list, hlist, rfl | hrewrites⟩ := hrow hset hlist'
      · exact h.cached hpublished list' token hlist hcaches
      · rcases step_caches (list_step hinv hmay honce' hlist hrewrites) with
          hkept | ⟨hfits, -, hnew⟩
        · exact h.cached hpublished list token hlist (hkept token hcaches)
        · exact decode_of_encodes hlossless hfits (hnew token hcaches).1
            (h.stored hset list hlist)
  · rw [System.after_trace] at htrace
    rcases List.cons_eq_append_iff.mp htrace with ⟨-, heq⟩ | ⟨newer', -, holder⟩
    · -- the row that was read was stored
      cases heq
      exact h.cached hpublished list token (hkey ▸ readsList_stored hreads) hcaches
    · exact h.read newer' e older holder hpublished list token hreads hkey hcaches

/-- **The invariant holds along every run** that creates the list at most once. -/
theorem showsStatus_run (hlossless : Lossless w decode) {st : StatusStore}
    (hlists : st.lists = Table.empty) (hmappings : st.mappings = Table.empty)
    (ms : StatusSchedule)
    (honce : (listRows w).Once ((statusListService w).run (.start st) ms).global k) :
    ShowsStatus decode ((statusListService w).run (.start st) ms).global k i status := by
  have hboth := (run_may hlists hmappings ms).keeps
    (K := fun g => (listRows w).Once g k → Indexes g k ∧ ShowsStatus decode g k i status)
    (fun _ => ?_) (fun {g tid op} hok hbefore honce => ?_)
    (fun r h honce => ⟨(h honce).1.same rfl rfl, (h honce).2.created, (h honce).2.stored,
      (h honce).2.cached, (h honce).2.read⟩)
    (fun e h honce => ⟨(h honce).1.same rfl rfl, (h honce).2.created, (h honce).2.stored,
      (h honce).2.cached, (h honce).2.read⟩) honce
  · exact hboth.2
  · refine ⟨indexes_run hlists hmappings [] ‹_›, False.elim, False.elim, False.elim,
      fun newer e older htrace => ?_⟩
    have hnil : ([] : List StatusEvent) = newer ++ e :: older := htrace
    simp at hnil
  · obtain ⟨hindexes, hshows⟩ := hbefore (honce.mono (System.extends_after _ _ _))
    exact ⟨indexes_after hok.1 hok.2 honce hindexes,
      showsStatus_after hlossless hok.1 hok.2 honce hindexes hshows⟩

/-! ## What an update has noted -/

theorem mem_selected {m : StatusMapping} {trace : List StatusEvent}
    (he : e ∈ trace) (ht : e.tid = t) (hfinds : FindsMapping m e) :
    m ∈ (publishMonitor.state t trace).selected := by
  obtain ⟨tid', found, rows⟩ := e
  subst ht
  induction trace with
  | nil => exact (List.not_mem_nil he).elim
  | cons e' older ih =>
    obtain ⟨tid, op, res⟩ := e'
    by_cases ht : tid = tid'
    · subst ht
      rw [Monitor.state_cons_self]
      show m ∈ (PublishProgress.note _ op res).selected
      rcases List.mem_cons.mp he with heq | hold
      · cases heq
        cases found with
        | mappings c =>
          cases c with
          | countBy key => cases hfinds
          | _ => exact List.mem_append_left _ hfinds
        | _ => cases hfinds
      · have hbefore := ih hold
        unfold PublishProgress.note
        split
        · exact List.mem_append_right _ hbefore
        · exact List.mem_append_right _ hbefore
        all_goals exact hbefore
    · rw [Monitor.state_cons_other ht]
      exact ih ((List.mem_cons.mp he).resolve_left fun heq => ht (congrArg Event.tid heq).symm)

/-- **A noted write was committed.** -/
theorem event_of_write {trace : List StatusEvent} {write : ListKey × List StatusElement}
    (h : write ∈ (publishMonitor.state t trace).writes)
    (hstatus : i < write.2.length ∧ statusAt write.2 i = status) :
    ∃ e ∈ trace, e.tid = t ∧ WritesStatus write.1 i status e := by
  have hnoted : write ∈ (publishMonitor.state t (trace ++ [])).writes := by rwa [List.append_nil]
  obtain ⟨later, e, earlier, htrace, ht, hnew, hnoted⟩ :=
    publishMonitor.appears (P := fun s => write ∈ s.writes) List.not_mem_nil hnoted
  refine ⟨e, htrace ▸ List.mem_append_right _ List.mem_cons_self, ht, ?_⟩
  obtain ⟨tid, op, res⟩ := e
  change write ∈ (PublishProgress.note _ op res).writes at hnoted
  unfold PublishProgress.note at hnoted
  split at hnoted
  case h_3 =>
    rcases List.mem_cons.mp hnoted with rfl | hold
    · exact ⟨rfl, rfl, hstatus⟩
    · exact absurd hold hnew
  all_goals exact absurd hnoted hnew

theorem pending_of_write {newer older : List StatusEvent} (ht : e.tid = t)
    (h : WritesStatus k i status e) :
    k ∈ (publishMonitor.state t (newer ++ e :: older)).pending ∨
      ∃ c ∈ newer, CachesTokens k c := by
  induction newer with
  | nil =>
    obtain ⟨tid, op, res⟩ := e
    subst ht
    refine .inl ?_
    rw [List.nil_append, Monitor.state_cons_self]
    cases op with
    | lists c =>
      cases c with
      | updateElements key version elements =>
        obtain ⟨rfl, rfl, -⟩ := h
        exact List.mem_cons_self
      | _ => cases h
    | _ => cases h
  | cons c newer ih =>
    rcases ih with hpending | ⟨c', hmem, hcaches⟩
    · obtain ⟨tid, op, res⟩ := c
      by_cases hcaches : CachesTokens k ⟨tid, op, res⟩
      · exact .inr ⟨_, List.mem_cons_self, hcaches⟩
      · refine .inl ?_
        by_cases ht : tid = t
        · subst ht
          rw [List.cons_append, Monitor.state_cons_self]
          show k ∈ (PublishProgress.note _ op res).pending
          unfold PublishProgress.note
          split
          case h_3 => exact List.mem_cons_of_mem _ hpending
          case h_4 key version jwt cwt expiresAt updated =>
            -- only tokens of another list were cached
            show k ∈ if updated = true then _ else _
            split
            · rename_i hupdated
              refine List.mem_filter.mpr ⟨hpending, bne_iff_ne.mpr fun hkey => ?_⟩
              exact hcaches ⟨hupdated, hkey.symm⟩
            · exact hpending
          all_goals exact hpending
        · rw [List.cons_append, Monitor.state_cons_other ht]
          exact hpending
    · exact .inr ⟨c', List.mem_cons_of_mem _ hmem, hcaches⟩

/-- **What an update has written is published** when nothing is left to publish. -/
theorem publishedSince_of_update {newer older : List StatusEvent} (ht : e.tid = t)
    (h : WritesStatus k i status e)
    (hpending : (publishMonitor.state t (newer ++ e :: older)).pending = [])
    (hkept : ∀ e' ∈ newer, ¬OverwritesStatus k i status e') :
    PublishedSince k i status (newer ++ e :: older) := by
  have hwritten : k ∈ (publishMonitor.state t (newer ++ e :: older)).pending ∨ _ :=
    pending_of_write ht h
  rcases hwritten with hleft | ⟨c, hmem, hcaches⟩
  · rw [hpending] at hleft
    cases hleft
  · obtain ⟨later, earlier, rfl⟩ := List.append_of_mem hmem
    rw [List.append_assoc]
    refine publishedSince_append (.inl ⟨hcaches, ?_⟩) fun e' he' =>
      hkept e' (List.mem_append_left _ he')
    exact setSince_append (.inl h) fun e' he' =>
      hkept e' (List.mem_append_right _ (List.mem_cons_of_mem _ he'))

/-! ## What a token request returns -/

/-- Thread `t` found this row of the list. -/
def FoundList (t : Nat) (k : ListKey) (g : StatusState) (list : StatusListEntity) : Prop :=
  g.Made t (.lists (.findOneBy k)) (some list)

/-- A token that a request for tokens returns was cached in a row that it found. -/
def TokenPost (t : Nat) (r : StatusRequest) (g : StatusState) (a : StatusAnswer) : Prop :=
  ∀ k token, a = .token (some token) → r.ServesList k →
    ∃ list, FoundList t k g list ∧ list.Caches token

theorem yields_getListById {tenantId listId : String} :
    (statusListService w).Yields t (FoundList t (tenantId, listId))
      (getListById tenantId listId) g := by
  refine (System.yields_invoke _).bind fun found g₁ _ hfound => ?_
  cases found with
  | some list => exact System.Yields.ret fun g₂ hext => hfound.extends hext
  | none => trivial

theorem yields_regenerateAttempts {tenantId listId : String} (attempts : Nat) :
    (statusListService w).Yields t (FoundList t (tenantId, listId))
      (regenerateAttempts w tenantId listId attempts) g := by
  induction attempts generalizing g with
  | zero => trivial
  | succ attempts ih =>
    refine System.Yields.skip fun entry g₁ _ => System.Yields.skip fun cached g₂ _ => ?_
    split
    · exact yields_getListById
    · exact ih

theorem yields_token {tenantId listId : String} (expired : StatusListEntity → Time → Bool)
    (pick : StatusListEntity → Option StatusListToken) :
    (statusListService w).Yields t
      (fun g' token => ∃ list, FoundList t (tenantId, listId) g' list ∧ token = pick list)
      ((getListById tenantId listId).bind fun list => (invoke StatusCall.now).bind fun now =>
        if expired list now then (regenerateListTokens w tenantId listId).bind fun list =>
          .ret (pick list) else .ret (pick list)) g := by
  refine yields_getListById.bind fun list g₁ _ hlist => System.Yields.skip fun now g₂ hext => ?_
  split
  · refine (yields_regenerateAttempts _).bind fun list g₃ _ hlist => ?_
    exact System.Yields.ret fun g₄ hext => ⟨list, hlist.extends hext, rfl⟩
  · exact System.Yields.ret fun g₃ hext' => ⟨list, hlist.extends (hext.trans hext'), rfl⟩

/-- **A token that is returned** was read. -/
theorem yields_program (w : StatusWorld) (t : Nat) (r : StatusRequest) (g : StatusState) :
    (statusListService w).Yields t (TokenPost t r) ((statusListService w).program r) g := by
  cases r with
  | getListJwt tenantId listId =>
    refine (yields_token (fun list now => list.jwt.isNone || list.expiresAt.all (· ≤ now))
      StatusListEntity.jwt).bind fun token g₁ _ ⟨list, hlist, htoken⟩ => ?_
    refine System.Yields.ret fun g₂ hext k token' hanswer hserves => ?_
    rcases hserves with hk | hk
    · cases hk
      exact ⟨list, hlist.extends hext, .inl (htoken ▸ StatusAnswer.token.inj hanswer)⟩
    · cases hk
  | getListCwt tenantId listId =>
    refine (yields_token (fun list now => list.jwt.isNone || list.cwt.isNone ||
      list.expiresAt.all (· ≤ now)) StatusListEntity.cwt).bind
        fun token g₁ _ ⟨list, hlist, htoken⟩ => ?_
    refine System.Yields.ret fun g₂ hext k token' hanswer hserves => ?_
    rcases hserves with hk | hk
    · cases hk
    · cases hk
      exact ⟨list, hlist.extends hext, .inr (htoken ▸ StatusAnswer.token.inj hanswer)⟩
  | _ =>
    -- no other request is for tokens
    refine (System.yields_true _).imp fun a g' _ _ k token _ hserves => ?_
    rcases hserves with hk | hk
    · cases hk
    · cases hk

/-! ## Runs -/

section Runs

variable {st : StatusStore} {ms : StatusSchedule}

/-- What an update of a tenant with immediate updates is answered. -/
def UpdateMay (w : StatusWorld) (r : StatusRequest) (_ : PublishProgress) (op : StatusCall)
    (res : op.Result) : Prop :=
  match r with
  | .updateStatus tenantId _ => ImmediateUpdates w tenantId → MayPublish tenantId op res
  | _ => True

/-- What such an update has done when it returns. -/
def UpdatePublished (w : StatusWorld) (r : StatusRequest) (s : PublishProgress)
    (_ : StatusAnswer) : Prop :=
  match r with
  | .updateStatus tenantId update => ImmediateUpdates w tenantId → s.pending = [] ∧
      ∀ m ∈ s.selected, ∃ write ∈ s.writes, write.1 = (tenantId, m.statusListId) ∧
        m.index < write.2.length ∧ statusAt write.2 m.index = update.status
  | _ => True

theorem publishes_program (w : StatusWorld) (r : StatusRequest) :
    publishMonitor.Ends (UpdateMay w r) (UpdatePublished w r) (fun _ _ => True)
      ((statusListService w).program r) publishMonitor.start := by
  cases r with
  | updateStatus tenantId update =>
    by_cases himmediate : ImmediateUpdates w tenantId
    · refine Monitor.Ends.bind ((publishes_updateStatus w tenantId update).mono
        fun s op res hmay => hmay himmediate) fun _ s hs => fun _ => hs
    · exact (Monitor.ends_true _).imp (fun _ _ _ h => absurd h himmediate) fun _ _ h => h
  | _ => exact Monitor.ends_true _

/-- **Every update ends so**, in every run that creates its lists once. -/
theorem publishes_run (howns : OwnsEncoderError w) (hlists : st.lists = Table.empty)
    (hmappings : st.mappings = Table.empty)
    (honce : ∀ k, (listRows w).Once ((statusListService w).run (.start st) ms).global k) :
    publishMonitor.Ending (UpdateMay w) (UpdatePublished w) (fun _ _ _ => True)
      ((statusListService w).run (.start st) ms) := by
  refine Monitor.ends_run_of_answers (publishes_program w) (Monitor.ending_start st)
    fun ms₁ tid ms₂ r op body hms hget => ?_
  subst hms
  cases r with
  | updateStatus tenantId update =>
    intro himmediate
    cases op with
    | lists c =>
      cases c with
      | findOneBy key =>
        intro list hlist
        have honce₁ := (honce key).mono (by
          rw [System.run_append]
          exact System.extends_run _ _)
        exact ⟨Table.get_key hlist,
          valuesFit_iff.mp (valuesFit_run hlists hmappings ms₁ honce₁ hlist)⟩
      | _ => trivial
    | ask q =>
      cases q with
      | effectiveConfig tenant =>
        exact ⟨howns _ _, fun htenant config hconfig => himmediate _ config (htenant ▸ hconfig)⟩
      | _ => exact howns _ _
    | _ => trivial
  | _ => trivial

theorem suffix_of_later {n : Nat} {ended newer older : List StatusEvent}
    (hended : ∀ e' ∈ ended, e'.tid < n) (hlater : n ≤ e.tid)
    (h : ended <:+ newer ++ e :: older) : ended <:+ older := by
  have hnot : e ∉ ended := fun he => absurd (hended e he) (Nat.not_lt.mpr hlater)
  rcases List.suffix_or_suffix_of_suffix h (List.suffix_append newer (e :: older)) with
    hbefore | hafter
  · rcases List.suffix_cons_iff.mp hbefore with rfl | hold
    · exact absurd List.mem_cons_self hnot
    · exact hold
  · exact absurd (hafter.subset List.mem_cons_self) hnot

theorem publishedSince_of_notOverwritten {ended older : List StatusEvent}
    {newer : List StatusEvent}
    (hpending : (publishMonitor.state t ended).pending = []) (hafter : ended <:+ older)
    (h : NotOverwritten t k i status ended (newer ++ older)) :
    PublishedSince k i status older := by
  obtain ⟨newer', e, older', htrace, ⟨between, rfl⟩, ht, hwrites, hkept⟩ := h
  obtain ⟨later, rfl⟩ := hafter
  have hnewer : newer ++ later ++ between = newer' := by
    refine List.append_cancel_right (show _ ++ e :: older' = _ from ?_)
    rw [← htrace]
    simp
  subst hnewer
  refine publishedSince_append (publishedSince_of_update ht hwrites hpending fun e' he' => ?_)
    fun e' he' => ?_
  · exact hkept e' (List.mem_append_right _ he')
  · exact hkept e' (List.mem_append_left _ (List.mem_append_right _ he'))

end Runs

end StatusValues

open StatusValues StatusTokens in
/-- **Every status value fits its list, and an update is shown**, in every run of a store that
starts without lists and creates every list once. -/
theorem shown_values (w : StatusWorld) (decode : BitsPerStatus → String → Nat → Nat)
    (st : StatusStore) (ms : StatusSchedule) (hlossless : Lossless w decode)
    (howns : OwnsEncoderError w) (hlists : st.lists = Table.empty)
    (hmappings : st.mappings = Table.empty)
    (honce : ∀ k, ((statusListService w).run (.start st) ms).trace.countP (createsList k) ≤ 1) :
    ShownValues w decode st ms := by
  have honce : ∀ k, (listRows w).Once ((statusListService w).run (.start st) ms).global k := honce
  have hfits (k : ListKey) (list : StatusListEntity)
      (hlist : storedList ((statusListService w).run (.start st) ms) k = some list) :
      ValuesFit list := valuesFit_run hlists hmappings ms (honce k) hlist
  refine ⟨hfits, fun k list i hlist hi => ?_, ?_⟩
  · exact hlossless _ _ _ (valuesFit_iff.mp (hfits k list hlist)) hi
  intro ms₁ ms₂ t tenantId update hms himmediate hanswers m hselects
  subst hms
  have hext := System.extends_run (M := statusListService w)
    ((statusListService w).run (.start st) ms₁) ms₂
  rw [← System.run_append] at hext
  have hending := publishes_run howns hlists hmappings fun k => (honce k).mono hext
  have hdone : UpdatePublished w (.updateStatus tenantId update) _ .done :=
    hending.threads t _ hanswers
  obtain ⟨hpending, hwrites⟩ := hdone himmediate
  obtain ⟨e, he, ht, hfinds⟩ := hselects
  obtain ⟨write, hwrite, hkey, hstatus⟩ := hwrites m (mem_selected he ht hfinds)
  refine ⟨?_, fun u r token hserved hserves hlater hkept => ?_⟩
  · obtain ⟨e', he', ht', hwritten⟩ := event_of_write hwrite hstatus
    exact ⟨e', he', ht', hkey ▸ hwritten⟩
  · -- the row of the token was read after the update had returned
    obtain ⟨list, hfound, hcaches⟩ :=
      System.run_yields (yields_program w) hserved _ token rfl hserves
    obtain ⟨s, hread⟩ := System.run_answered hfound
    obtain ⟨newer, older, htrace⟩ := List.append_of_mem hfound
    have htrace : ((statusListService w).run (.start st) (ms₁ ++ ms₂)).trace = _ := htrace
    have hended := hext.trace
    rw [Config.global_trace, Config.global_trace, htrace] at hended
    have hsince := suffix_of_later hending.numbered (by simpa using hlater) hended
    rw [htrace, List.append_cons] at hkept
    have hpublished := publishedSince_of_notOverwritten hpending hsince hkept
    exact (showsStatus_run hlossless hlists hmappings _ (honce _)).read newer _ older htrace
      hpublished list token rfl (Table.get_key hread.symm) hcaches

open StatusDeployment StatusUpdates in
/-- A credential of a list is revoked and its token asked for, as the theorem says. -/
theorem shown_values_of_revocation :
    ShownValues world StatusTokens.decompress StatusDeployment.fresh
      (issuedTwice ++ serve 3 (setStatus 1) 24 ++ serve 4 (.getListJwt "tenant" "u") 2) :=
  shown_values _ _ _ _ StatusTokens.lossless_decompress (fun q _ _ => by cases q <;> nofun) rfl rfl
    (once_of_createsSome (by decide +kernel))

end Eudiplo
