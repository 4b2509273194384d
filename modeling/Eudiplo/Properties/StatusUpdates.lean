import Eudiplo.Properties.StatusTokens
import Eudiplo.StatusList.Updates

/-!
# Is a status update over several credentials all or nothing?

`setEntries` checks every entry before it writes the first one, and then writes them one by
one, each in a transaction of its own.  An update that fails in the middle of the loop keeps
what it has written: an entry that somebody revoked since the check, a list that is gone, a
third version conflict in a row, or tokens that cannot be signed after the write committed
(`not_all_or_nothing`).

`all_or_nothing` holds for the runs in which nothing is refused to an update that has
committed a write, and nobody sets an entry that a running update has written to another
status.
-/

namespace Eudiplo

open Concurrency Prog Storage

/-! ## The claim -/

/-- **A status update is all or nothing.** -/
structure AllOrNothing (w : StatusWorld) (st : StatusStore) (ms : StatusSchedule) : Prop where
  /-- An update that reported an error changed no element of any list. -/
  nothing : ∀ t tenantId value error,
    ((statusListService w).run (.start st) ms).threads[t]? =
      some ⟨.updateStatus tenantId value, .fail error⟩ →
    ∀ ms₁ ms₂ k list list', ms = ms₁ ++ .resume t :: ms₂ →
      storedList ((statusListService w).run (.start st) ms₁) k = some list →
      storedList ((statusListService w).run (.start st) (ms₁ ++ [.resume t])) k = some list' →
      list'.elements = list.elements
  /-- When an update succeeds, every entry it selected holds the status. -/
  all : ∀ ms₁ t ms₂ tenantId value, ms = ms₁ ++ .resume t :: ms₂ →
    ¬((statusListService w).run (.start st) ms₁).Answers t (.updateStatus tenantId value) .done →
    ((statusListService w).run (.start st) (ms₁ ++ [.resume t])).Answers t
      (.updateStatus tenantId value) .done →
    ∀ m list,
      Selects ((statusListService w).run (.start st) (ms₁ ++ [.resume t])).global t m →
      storedList ((statusListService w).run (.start st) (ms₁ ++ [.resume t]))
        (tenantId, m.statusListId) = some list →
      statusAt list.elements m.index = value.status

/-! ## The condition -/

/-- **The first condition**: an update that has committed a write is refused nothing. -/
def UpdateGranted (r : StatusRequest) (s : UpdateProgress) (op : StatusCall) (res : op.Result) :
    Prop :=
  match r with
  | .updateStatus tenantId value => s.writes ≠ [] → Granted tenantId value.status s op res
  | _ => True

/-- Thread `t` has committed this status for an entry. -/
def HasSet (g : StatusState) (t : Nat) (k : ListKey) (index status : Nat) : Prop :=
  ∃ version elements, (⟨t, .lists (.updateElements k version elements),
    TransactionOutcome.committed⟩ : StatusEvent) ∈ g.trace ∧ statusAt elements index = status

/-- **The second condition**: a write leaves the entries alone that another update has written
and that still runs. -/
def LeavesAlone (c : StatusConfiguration) (tid : Nat) (op : StatusCall) : Prop :=
  ∀ k version elements, op = .lists (.updateElements k version elements) →
    ∀ t tenantId value body m, t ≠ tid →
      c.threads[t]? = some ⟨.updateStatus tenantId value, body⟩ → System.Running c t →
      Selects c.global t m → (tenantId, m.statusListId) = k →
      HasSet c.global t k m.index value.status → statusAt elements m.index = value.status

theorem HasSet.extends {g g' : StatusState} {t : Nat} {k : ListKey} {index status : Nat}
    (h : HasSet g t k index status) (hext : g.Extends g') : HasSet g' t k index status := by
  obtain ⟨version, elements, he, hstatus⟩ := h
  exact ⟨version, elements, hext.event he, hstatus⟩

namespace StatusUpdates

open StatusLists

/-- What a status update that returns has written. -/
def UpdateDone (r : StatusRequest) (s : UpdateProgress) (_ : StatusAnswer) : Prop :=
  match r with
  | .updateStatus tenantId value => AllWritten tenantId value.status s.entries s
  | _ => True

/-- What a status update that fails has written. -/
def UpdateFailed (r : StatusRequest) (s : UpdateProgress) (_ : StatusError) : Prop :=
  match r with
  | .updateStatus .. => s.writes = []
  | _ => True

/-- **Every request ends so**, as long as it is granted what the condition asks. -/
theorem ends_program (w : StatusWorld) (r : StatusRequest) :
    updateMonitor.Ends (UpdateGranted r) (UpdateDone r) (UpdateFailed r)
      ((statusListService w).program r) updateMonitor.start := by
  cases r with
  | updateStatus tenantId value =>
    have hupdate : UpdateEnds false tenantId value.status
        (fun s' _ => AllWritten tenantId value.status s'.entries s')
        (fun s' _ => ¬s'.Settled false) (updateStatus w tenantId value) updateMonitor.start := by
      intro entries _
      refine Monitor.Ends.ensure (fun _ hw => ?_) fun _ => ?_
      · exact hw.elim Bool.false_ne_true fun hwrites => hwrites rfl
      have hset : UpdateEnds false tenantId value.status
          (fun s' _ => s'.entries = entries ++ [] ∧
            AllWritten tenantId value.status (entries ++ []) s')
          (fun s' _ => ¬s'.Settled false) (setEntries w tenantId (entries ++ []) value.status)
          (updateMonitor.advance updateMonitor.start (.mappings (.findBySession tenantId
            value.sessionId value.credentialConfigurationId)) entries) :=
        ends_setEntries (s := updateMonitor.advance updateMonitor.start (.mappings (.findBySession
          tenantId value.sessionId value.credentialConfigurationId)) entries) rfl
      rw [List.append_nil] at hset
      exact hset.imp (fun s' _ ⟨hsame, hall⟩ => hsame ▸ hall) fun _ _ h => h
    have hgranted (s : UpdateProgress) (op : StatusCall) (r : op.Result)
        (h : UpdateGranted (.updateStatus tenantId value) s op r) :
        okUpdate false tenantId value.status s op r :=
      fun hw => h (hw.resolve_left Bool.false_ne_true)
    refine ((hupdate.mono hgranted).imp (fun _ _ h => h) fun s' _ hw => ?_).bind fun _ _ h => h
    by_contra hwrites
    exact hw (.inr hwrites)
  | _ => exact Monitor.ends_true _

variable {w : StatusWorld} {g : StatusState} {c : StatusConfiguration} {t tid : Nat}
variable {op : StatusCall} {k : ListKey} {m : StatusMapping} {list list' : StatusListEntity}

/-! ## What a write changes -/

theorem event_of_change (h : Rewrites list list' ⟨tid, op, (op.answer w g.store).1⟩)
    (hchange : list'.elements ≠ list.elements) :
    ∃ key version elements, (⟨tid, .lists (.updateElements key version elements),
      TransactionOutcome.committed⟩ : StatusEvent) ∈
        ((statusListService w).after g tid op).trace := by
  cases op with
  | lists call =>
    cases call with
    | updateElements key version elements =>
      obtain ⟨hcommitted, -⟩ := h
      refine ⟨key, version, elements, ?_⟩
      rw [System.after_trace]
      refine List.mem_cons.mpr (.inl ?_)
      congr 1
      exact hcommitted.symm
    | updateTokens key version jwt cwt expiresAt =>
      obtain ⟨-, -, -, rfl⟩ := h
      exact absurd rfl hchange
    | updateBinding key version changes =>
      obtain ⟨-, -, -, rfl⟩ := h
      exact absurd rfl hchange
    | allocate key version stack mapping =>
      obtain ⟨-, -, -, rfl⟩ := h
      exact absurd rfl hchange
    | _ => cases h
  | _ => cases h

/-! ## A status that stays -/

/-- **The entry that a running update has set** still has the status. -/
structure StillSet (g : StatusState) (t : Nat) (tenantId : String) (value : StatusUpdate)
    (m : StatusMapping) : Prop where
  request : g.requests[t]? = some (.updateStatus tenantId value)
  created : 0 < g.trace.countP (createsList (tenantId, m.statusListId))
  selected : Selects g t m
  set : HasSet g t (tenantId, m.statusListId) m.index value.status
  stored : ∀ list, g.store.lists.get (tenantId, m.statusListId) = some list →
    statusAt list.elements m.index = value.status

open StatusTokens in
/-- **One call leaves the entry alone.** -/
theorem stillSet_step {value : StatusUpdate} (hwait : System.waiting c tid = some op)
    (hinv : StatusInv w c.global) (hmay : StatusMay w c.global tid op)
    (honce : (listRows w).Once ((statusListService w).step c (.resume tid)).global
      (tenantId, m.statusListId))
    (halone : LeavesAlone c tid op) (hrunning : System.Running c t)
    (h : StillSet c.global t tenantId value m) :
    StillSet ((statusListService w).step c (.resume tid)).global t tenantId value m := by
  have hext := System.extends_step (M := statusListService w) c (.resume tid)
  have hglob := System.step_waiting (M := statusListService w) hwait
  refine ⟨hext.request h.request, ?_, h.selected.extends hext, h.set.extends hext, ?_⟩
  · exact Nat.lt_of_lt_of_le h.created hext.trace.sublist.countP_le
  · intro list' hlist'
    rw [hglob] at hlist' honce
    have hcreated := h.created
    rcases stored_after hinv hmay honce hlist' with ⟨hzero, -⟩ | ⟨list, hlist, rfl | hstep⟩
    · omega
    · exact h.stored list' hlist
    · have hstatus := h.stored list hlist
      cases hstep with
      | tokens | binding | allocation => exact hstatus
      | element index status hop hallowed htargets hsets =>
        by_cases ht : t = tid
        · subst ht
          by_cases hindex : index = m.index
          · subst hindex
            rw [hsets _ h.request tenantId value rfl]
            exact statusAt_assignStatus_self _ _ _
          · exact (statusAt_assignStatus_ne _ _ hindex).trans hstatus
        · obtain ⟨r', op', k', hbody⟩ := hrunning
          have hreq := (Config.global_request hbody).symm.trans h.request
          cases hreq
          exact halone _ _ _ hop t tenantId value _ m ht hbody ⟨_, _, _, hbody⟩ h.selected rfl h.set

/-! ## Runs -/

section Runs

variable {st : StatusStore} {ms : StatusSchedule}

/-- Every update along the run is refused nothing once it has written. -/
abbrev RunGranted (w : StatusWorld) (st : StatusStore) (ms : StatusSchedule) : Prop :=
  (statusListService w).Guarded (fun g tid op => ∀ r, g.requests[tid]? = some r →
    UpdateGranted r (updateMonitor.state tid g.trace) op (op.answer w g.store).1) (.start st) ms

/-- **How every request of such a run has ended.** -/
theorem ending_run (hgranted : RunGranted w st ms) :
    updateMonitor.Ending UpdateGranted UpdateDone UpdateFailed
      ((statusListService w).run (.start st) ms) :=
  Monitor.ends_run (ends_program w) (Monitor.ending_start st) hgranted

/-- **An update that failed** has changed nothing. -/
theorem unchanged_of_failed (hlists : st.lists = Table.empty)
    (hmappings : st.mappings = Table.empty)
    (honce : ∀ k, (listRows w).Once ((statusListService w).run (.start st) ms).global k)
    (hgranted : RunGranted w st ms) {tenantId : String} {value : StatusUpdate}
    {error : StatusError} (hfailed : ((statusListService w).run (.start st) ms).threads[t]? =
      some ⟨.updateStatus tenantId value, .fail error⟩) {ms₁ ms₂ : StatusSchedule}
    (hms : ms = ms₁ ++ .resume t :: ms₂)
    (hlist : storedList ((statusListService w).run (.start st) ms₁) k = some list)
    (hlist' : storedList ((statusListService w).run (.start st) (ms₁ ++ [.resume t])) k =
      some list') : list'.elements = list.elements := by
  have hunwritten : (updateMonitor.state t
      ((statusListService w).run (.start st) ms).trace).writes = [] :=
    (ending_run hgranted).threads t _ hfailed
  -- a change would be a write of the request, and a failed one has none left
  by_contra hchange
  subst hms
  rw [System.run_append, System.run_cons] at hunwritten honce
  rw [System.run_append] at hlist'
  rcases System.step_resume_cases (M := statusListService w)
    ((statusListService w).run (.start st) ms₁) t with hidle | ⟨r, op, body, hget, hglob, -⟩
  · rw [System.run_cons, System.run_nil, hidle, hlist] at hlist'
    cases hlist'
    exact hchange rfl
  · have hrest := System.extends_run (M := statusListService w)
      ((statusListService w).step ((statusListService w).run (.start st) ms₁) (.resume t)) ms₂
    have hafter : (op.answer w ((statusListService w).run (.start st) ms₁).store).2.lists.get k =
        some list' :=
      (congrArg (fun g : StatusState => Table.get g.store.lists k) hglob).symm.trans hlist'
    have hrows := (StatusLists.run_holds (w := w) hlists hmappings ms₁).inv.rows
    have honce' : (listRows w).Once ((statusListService w).after
        ((statusListService w).run (.start st) ms₁).global t op) k := by
      rw [← hglob]
      exact (honce k).mono hrest
    rcases list_row t hafter with hcreates | ⟨list₁, hlist₁, hkept⟩
    · have hnot := Versioned.not_creates honce' (hrows.present k list hlist)
      cases hnot.symm.trans hcreates
    · obtain rfl := Option.some.inj (hlist.symm.trans hlist₁)
      rcases hkept with rfl | hrewrites
      · exact hchange rfl
      · obtain ⟨key, version, elements, he⟩ := event_of_change
          (g := ((statusListService w).run (.start st) ms₁).global) hrewrites hchange
        rw [← hglob] at he
        exact written_of_event (hrest.event he) hunwritten

/-- **What a running update has set** keeps the status as long as the update runs. -/
theorem stillSet_run (hlists : st.lists = Table.empty)
    (hmappings : st.mappings = Table.empty) {ms₁ ms₂ : StatusSchedule}
    {tenantId : String} {value : StatusUpdate}
    (honce : (listRows w).Once ((statusListService w).run (.start st) (ms₁ ++ ms₂)).global
      (tenantId, m.statusListId))
    (hquiet : (statusListService w).Along LeavesAlone
      ((statusListService w).run (.start st) ms₁) ms₂)
    (hrunning : (statusListService w).Along (fun c _ _ => System.Running c t)
      ((statusListService w).run (.start st) ms₁) ms₂)
    (h : StillSet ((statusListService w).run (.start st) ms₁).global t tenantId value m) :
    StillSet ((statusListService w).run (.start st) (ms₁ ++ ms₂)).global t tenantId value m := by
  rw [System.run_append] at honce ⊢
  have hmay := (System.guarded_append.mp
    (StatusLists.run_may (w := w) hlists hmappings (ms₁ ++ ms₂))).2.along
  have hboth := ((hmay.and hquiet).and hrunning).keeps
    (K := fun c => (listRows w).Once c.global (tenantId, m.statusListId) →
      StillSet c.global t tenantId value m) (fun _ => h)
    (fun {c tid op} hwait hok hbefore honce => ?_)
    (fun {c} r hbefore honce => ?_) (fun {c} e hbefore honce => ?_) honce
  · exact hboth
  · have hext := System.extends_step (M := statusListService w) c (.resume tid)
    exact stillSet_step hwait hok.1.1.1 hok.1.1.2 honce hok.1.2 hok.2
      (hbefore (honce.mono hext))
  · rw [System.step_arrive_global] at honce ⊢
    have hset := hbefore honce
    exact ⟨(Global.extends_arrive c.global r).request hset.request, hset.created, hset.selected,
      hset.set, hset.stored⟩
  · have hset := hbefore honce
    exact ⟨hset.request, hset.created, hset.selected, hset.set, hset.stored⟩

/-- **A write that an update has just committed** is set. -/
theorem stillSet_of_write (hlists : st.lists = Table.empty)
    (hmappings : st.mappings = Table.empty) {r : StatusRequest}
    {tenantId : String} {value : StatusUpdate} {version : Nat} {elements : List StatusElement}
    {body : TransactionOutcome → StatusProg StatusAnswer}
    (hget : ((statusListService w).run (.start st) ms).threads[t]? = some ⟨r, .call
      (.lists (.updateElements (tenantId, m.statusListId) version elements)) body⟩)
    (hcommitted : ((StatusCall.lists (.updateElements (tenantId, m.statusListId) version
      elements)).answer w ((statusListService w).run (.start st) ms).store).1 =
        TransactionOutcome.committed)
    (hreq : r = .updateStatus tenantId value)
    (hselects : Selects ((statusListService w).run (.start st) ms).global t m)
    (hstatus : statusAt elements m.index = value.status) :
    StillSet ((statusListService w).run (.start st) (ms ++ [.resume t])).global t tenantId value
      m := by
  have hwait : System.waiting ((statusListService w).run (.start st) ms) t =
      some (.lists (.updateElements (tenantId, m.statusListId) version elements)) := by
    simp [System.waiting, hget]
  have hrows := (StatusLists.run_holds (w := w) hlists hmappings ms).inv.rows
  obtain ⟨hfound, hstored⟩ := committed_row
    (s := ((statusListService w).run (.start st) ms).store) hcommitted
  obtain ⟨list, hlist⟩ := Option.isSome_iff_exists.mp hfound
  have hext := System.extends_step (M := statusListService w)
    ((statusListService w).run (.start st) ms) (.resume t)
  have hpresent := hrows.present _ list hlist
  rw [System.run_append, System.run_cons, System.run_nil]
  refine ⟨hext.request ?_, Nat.lt_of_lt_of_le hpresent hext.trace.sublist.countP_le,
    hselects.extends hext, ⟨version, elements, ?_, hstatus⟩, fun list' hlist' => ?_⟩
  · rw [← hreq]
    exact Config.global_request hget
  · rw [System.step_waiting (M := statusListService w) hwait, System.after_trace]
    refine List.mem_cons.mpr (.inl ?_)
    congr 1
    exact hcommitted.symm
  · rw [System.step_waiting (M := statusListService w) hwait] at hlist'
    rw [hstored list' hlist', hstatus]

theorem running_of_done {r : StatusRequest} {a : StatusAnswer} {ms : StatusSchedule}
    (hnot : ¬((statusListService w).run (.start st) ms).Answers t r a)
    (hdone : ((statusListService w).run (.start st) (ms ++ [.resume t])).Answers t r a) :
    System.Running ((statusListService w).run (.start st) ms) t := by
  rw [System.run_append] at hdone
  rcases System.step_resume_cases (M := statusListService w)
    ((statusListService w).run (.start st) ms) t with hidle | ⟨r', op, body, hget, -, -⟩
  · rw [System.run_cons, System.run_nil, hidle] at hdone
    exact absurd hdone hnot
  · exact ⟨r', op, body, hget⟩

/-- **When an update succeeds**, every entry it selected has the status. -/
theorem set_of_done (hlists : st.lists = Table.empty)
    (hmappings : st.mappings = Table.empty) {tenantId : String} {value : StatusUpdate}
    (honce : (listRows w).Once ((statusListService w).run (.start st) (ms ++ [.resume t])).global
      (tenantId, m.statusListId))
    (hgranted : RunGranted w st (ms ++ [.resume t]))
    (hquiet : (statusListService w).Along LeavesAlone (.start st) (ms ++ [.resume t]))
    (hrunning : ¬((statusListService w).run (.start st) ms).Answers t
      (.updateStatus tenantId value) .done)
    (hdone : ((statusListService w).run (.start st) (ms ++ [.resume t])).Answers t
      (.updateStatus tenantId value) .done)
    (hselects : Selects ((statusListService w).run (.start st) (ms ++ [.resume t])).global t m)
    (hlist : storedList ((statusListService w).run (.start st) (ms ++ [.resume t]))
      (tenantId, m.statusListId) = some list) :
    statusAt list.elements m.index = value.status := by
  have hwritten : AllWritten tenantId value.status _ _ := (ending_run hgranted).threads t _ hdone
  obtain ⟨write, hmem, hkey, hselected, hstatus⟩ := hwritten m (mem_entries hselects)
  obtain ⟨newer, older, version, htrace, hentries⟩ := event_of_write hmem
  obtain ⟨before, since, r, body, hms, holder, hget, hres⟩ := System.run_position htrace
  rw [hkey] at hget hres
  have hreq : r = .updateStatus tenantId value := by
    have hlater := System.extends_run (M := statusListService w)
      ((statusListService w).run (.start st) before) (.resume t :: since)
    rw [← System.run_append, ← hms] at hlater
    exact Option.some.inj ((hlater.request (Config.global_request hget)).symm.trans
      (Config.global_request hdone))
  have hset := stillSet_of_write hlists hmappings hget hres.symm hreq
    (selects_of_entries (by rw [Config.global_trace, holder, ← hentries]; exact hselected)) hstatus
  -- the update has run from its write to its last call
  have hrun : (statusListService w).Along (fun c _ _ => System.Running c t)
      ((statusListService w).run (.start st) (before ++ [.resume t])) since := by
    rcases List.eq_nil_or_concat since with rfl | ⟨since, last, rfl⟩
    · trivial
    · have heq : ms ++ [.resume t] = ((before ++ [.resume t]) ++ since) ++ [last] := by simp [hms]
      obtain ⟨hstart, hmove⟩ := List.append_inj' heq rfl
      have hlast := running_of_done hrunning hdone
      rw [hstart, System.run_append] at hlast
      rw [List.concat_eq_append, System.along_append]
      refine ⟨hlast.along (System.isSome_thread hset.request), ?_⟩
      exact ⟨fun _ _ _ _ => hlast, trivial⟩
  have hsplit : ms ++ [.resume t] = (before ++ [.resume t]) ++ since := by simp [hms]
  rw [hsplit] at honce hquiet hlist
  exact (stillSet_run hlists hmappings honce (System.along_append.mp hquiet).2 hrun hset).stored
    list hlist

end Runs

end StatusUpdates

open StatusUpdates in
/-- **A status update is all or nothing** in every run of a store that starts without lists,
where a running update that has committed a write is refused nothing, and nobody sets what it
has written to another status. -/
theorem all_or_nothing (w : StatusWorld) (st : StatusStore) (ms : StatusSchedule)
    (hlists : st.lists = Table.empty) (hmappings : st.mappings = Table.empty)
    (honce : ∀ k, ((statusListService w).run (.start st) ms).trace.countP (createsList k) ≤ 1)
    (hgranted : (statusListService w).Guarded (fun g tid op => ∀ r, g.requests[tid]? = some r →
      UpdateGranted r (updateMonitor.state tid g.trace) op (op.answer w g.store).1)
      (.start st) ms)
    (hquiet : (statusListService w).Along LeavesAlone (.start st) ms) :
    AllOrNothing w st ms where
  nothing _ _ _ _ hfailed _ _ _ _ _ hms hlist hlist' :=
    unchanged_of_failed hlists hmappings honce hgranted hfailed hms hlist hlist'
  all ms₁ t ms₂ tenantId value hms hrunning hdone m list hselects hlist := by
    have hsplit : ms = (ms₁ ++ [.resume t]) ++ ms₂ := by simp [hms]
    subst hsplit
    have honce' : (listRows w).Once ((statusListService w).run (.start st)
        (ms₁ ++ [.resume t])).global (tenantId, m.statusListId) := by
      have hall : (listRows w).Once ((statusListService w).run (.start st)
          ((ms₁ ++ [.resume t]) ++ ms₂)).global (tenantId, m.statusListId) := honce _
      rw [System.run_append] at hall
      exact hall.mono (System.extends_run _ _)
    exact set_of_done hlists hmappings honce' (System.guarded_append.mp hgranted).1
      (System.along_append.mp hquiet).1 hrunning hdone hselects hlist

/-! ## Two runs -/

namespace StatusUpdates

open StatusDeployment StatusLists

def grantsRequest (g : StatusState) (tid : Nat) (op : StatusCall) : Bool :=
  match g.requests[tid]? with
  | some (.updateStatus tenantId value) =>
    grants tenantId value.status (updateMonitor.state tid g.trace) op (op.answer world g.store).1
  | _ => true

theorem grantsRequest_sound (g : StatusState) (tid : Nat) (op : StatusCall)
    (h : grantsRequest g tid op = true) (r : StatusRequest) (hr : g.requests[tid]? = some r) :
    UpdateGranted r (updateMonitor.state tid g.trace) op (op.answer world g.store).1 := by
  cases r with
  | updateStatus tenantId value =>
    simp only [grantsRequest, hr] at h
    exact fun _ => grants_sound h
  | _ => trivial

def alone (c : StatusConfiguration) (tid : Nat) (_ : StatusCall) : Bool :=
  (List.range c.threads.length).all fun t => t == tid || (System.waiting c t).isNone

theorem alone_sound (c : StatusConfiguration) (tid : Nat) (op : StatusCall)
    (h : alone c tid op = true) : LeavesAlone c tid op := by
  rintro k version elements - t tenantId value body m hne hget ⟨r, op', k', hrunning⟩
  have hlt := (List.getElem?_eq_some_iff.mp hget).1
  have hcheck := List.all_eq_true.mp h t (List.mem_range.mpr hlt)
  simp [hne, System.waiting, hrunning] at hcheck

def createsSome : StatusEvent → Bool
  | ⟨_, .lists (.save _), _⟩ | ⟨_, .lists (.insert _), _⟩ => true
  | _ => false

theorem once_of_createsSome {trace : List StatusEvent} (h : trace.countP createsSome ≤ 1)
    (k : ListKey) : trace.countP (createsList k) ≤ 1 := by
  refine Nat.le_trans (List.countP_mono_left fun e _ he => ?_) h
  unfold createsList at he
  split at he
  · rfl
  · rfl
  · cases he

/-- A list of two entries is created, and a session holds both. -/
def issuedTwice : StatusSchedule :=
  serve 0 (.createNewList "tenant" {}) 13 ++ serve 1 issue 3 ++ serve 2 issue 3

/-- Thread 3 has read both entries, and is about to write the first one. -/
def checkedBoth : StatusSchedule := issuedTwice ++ serve 3 (setStatus 1) 3

/-- Thread 3 writes the first entry.  Each time it has read the list for the second one,
thread 4 writes it. -/
def outrun : StatusSchedule :=
  List.replicate 11 (.resume 3) ++ serve 4 (setStatus 1) 4 ++ [.resume 3, .resume 3] ++
    List.replicate 8 (.resume 4) ++ [.resume 3, .resume 3] ++ List.replicate 3 (.resume 4) ++
    [.resume 3]

end StatusUpdates

open StatusDeployment StatusUpdates in
/-- Two credentials of a session are revoked, as the theorem says. -/
theorem all_or_nothing_of_alone :
    AllOrNothing world StatusDeployment.fresh (issuedTwice ++ serve 3 (setStatus 1) 24) :=
  all_or_nothing _ _ _ rfl rfl (once_of_createsSome (by decide +kernel))
    (System.guarded_of_checks grantsRequest_sound (by decide +kernel))
    (System.along_of_checks alone_sound (by decide +kernel))

set_option maxRecDepth 4000 in
open StatusDeployment StatusUpdates in
/-- **Half an update**: an update has revoked the first credential of a session, and fails
since another update revokes both at the same time. -/
theorem not_all_or_nothing :
    ¬AllOrNothing world StatusDeployment.fresh (checkedBoth ++ outrun) := by
  intro h
  have hsame := h.nothing 3 "tenant"
    { sessionId := "session", credentialConfigurationId := none, status := 1 }
    (.serviceUnavailable "Could not update status entry after maximum retries") rfl
    checkedBoth outrun.tail ("tenant", "u") _ _ rfl rfl rfl
  cases hsame

end Eudiplo
