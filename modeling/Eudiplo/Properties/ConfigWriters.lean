import Eudiplo.Concurrency.Permissions
import Eudiplo.Portability.ImportJournal

/-!
# One configuration writer per tenant

However imports, requests, acknowledgements and crashes interleave on any number of replicas, a
tenant has one writer, and a run that was interrupted begins nothing more:
`one_configuration_writer`.
-/

namespace Eudiplo

open Concurrency Prog Storage

namespace ImportJournal

/-! ## The claim -/

abbrev JournalState := Global JournalCall.Reply JournalStore JournalRequest

abbrev JournalConfig :=
  Config JournalCall.Reply JournalStore JournalRequest JournalError (Option ConfigImportRun)

abbrev JournalSchedule := List (Move Surroundings JournalRequest)

/-- **The run holds the lock of a tenant.** -/
def ConfigImportRun.Holds (run : ConfigImportRun) (tenantId : String) : Prop :=
  run.activeTenant = some tenantId

/-- **Locks are exclusive**, and a run holds the one of its tenant while it is running. -/
structure Exclusive (s : JournalStore) : Prop where
  unique : ∀ id id' run run' tenantId, s.runs.get id = some run → s.runs.get id' = some run' →
    run.Holds tenantId → run'.Holds tenantId → run = run'
  running : ∀ id run, s.runs.get id = some run →
    (run.status = .running ↔ ∃ tenantId, run.Holds tenantId) ∧
      ∀ tenantId, run.Holds tenantId → tenantId = run.tenantId

/-- **An operation is in flight**: the journal has recorded it as running. -/
def InFlight (mode : RunMode) (operations : List ConfigApplyOperation) (index : Nat) : Prop :=
  mode = .detach ∨ ∃ operation, operations[index]? = some operation ∧ operation.status = .running

/-- Does an event begin an operation of the run? -/
def begins (id : String) (e : Event JournalCall.Reply) : Bool :=
  match e.op with
  | .perform id' _ => id' == id
  | _ => false

/-- **What is left of an interrupted run**: at most the operation that was in flight, and no
completion. -/
structure Ended (run : ConfigImportRun) (c c' : JournalConfig) : Prop where
  stored : c'.store.runs.get run.id = some run
  events : ∃ later, c'.trace = later ++ c.trace ∧ later.countP (begins run.id) ≤ 1 ∧
    ∀ e ∈ later, ∀ index, e.op = .perform run.id index → InFlight run.mode run.operations index
  unreported : ∀ tid request answer, request.runId? = some run.id →
    ¬c'.Answers tid request answer

/-! ## Notes -/

/-- **What is known of the run of a thread**: the operations that the journal holds, whether the
next operation may begin, and whether the run was completed. -/
structure RunNote where
  id : String
  mode : RunMode
  operations : List ConfigApplyOperation
  licensed : Bool := true
  completed : Bool := false

/-- An update that was answered with one row has happened; of any other nothing is known. -/
def RunNote.update (note : RunNote) (patch : Patch) : Except JournalError Nat → RunNote
  | .ok 1 =>
    { note with
      operations := patch.operations.getD note.operations
      licensed := patch.status.isNone
      completed := note.completed || patch.status == some .completed }
  | _ => { note with licensed := false }

def runNotes : Monitor JournalCall.Reply (Option RunNote) where
  start := none
  advance
    | note, .insert run, reply =>
      if reply.isOk then some ⟨run.id, run.mode, run.operations, true, false⟩ else note
    | note, .update _ patch, reply => note.map (·.update patch reply)
    | note, .perform _ _, _ => note.map ({ · with licensed := false })
    | note, _, _ => note

/-- An update of the run of the thread: of its operations, or of its end. -/
def WritesOwn (note : Option RunNote) (criteria : Criteria) (patch : Patch) : Prop :=
  ∃ n, note = some n ∧ n.id = criteria.id ∧ patch.operations.isSome = true ∧
    (patch.status = none ∧ patch.release = false ∨
      ∃ status, patch.status = some status ∧ status ≠ .running ∧ patch.release = true)

def Interrupts (note : Option RunNote) (patch : Patch) : Prop :=
  note = none ∧ patch.status = some .interrupted ∧ patch.release = true ∧ patch.operations = none

/-- **What a thread may call.** -/
def may (note : Option RunNote) : JournalCall → Prop
  | .insert run => note = none ∧ run.status = .running ∧ run.activeTenant = some run.tenantId
  | .update criteria patch => criteria.status = .running ∧
      (WritesOwn note criteria patch ∨ Interrupts note patch)
  | .perform id index => ∃ n, note = some n ∧ n.id = id ∧ n.licensed = true ∧
      InFlight n.mode n.operations index
  | _ => True

/-! ## Handlers -/

/-- The thread has inserted the run. -/
def Owns (id : String) (mode : RunMode) (note : Option RunNote) : Prop :=
  ∃ n, note = some n ∧ n.id = id ∧ n.mode = mode

/-- The journal holds these operations, and nothing has begun since. -/
def Licensed (id : String) (mode : RunMode) (operations : List ConfigApplyOperation)
    (note : Option RunNote) : Prop :=
  ∃ n, note = some n ∧ n.id = id ∧ n.mode = mode ∧ n.licensed = true ∧ n.operations = operations

def Completed (id : String) (note : Option RunNote) : Prop :=
  ∃ n, note = some n ∧ n.id = id ∧ n.completed = true

variable {note : Option RunNote} {id : String} {mode : RunMode} {run : ConfigImportRun}
  {operations : List ConfigApplyOperation} {outcome : Except JournalError Unit}

theorem Licensed.owns (h : Licensed id mode operations note) : Owns id mode note := by
  obtain ⟨n, hn, hid, hmode, -, -⟩ := h
  exact ⟨n, hn, hid, hmode⟩

theorem Owns.update (h : Owns id mode note) (patch : Patch) (reply : Except JournalError Nat) :
    Owns id mode (note.map (·.update patch reply)) := by
  obtain ⟨n, rfl, hid, hmode⟩ := h
  refine ⟨n.update patch reply, rfl, ?_, ?_⟩ <;> unfold RunNote.update <;> split <;> assumption

theorem permits_updateOne {criteria : Criteria} {patch : Patch} {error : JournalError}
    {Q : Option RunNote → Unit → Prop} {E : Option RunNote → JournalError → Prop}
    (hmay : may note (.update criteria patch))
    (hQ : Q (note.map (·.update patch (.ok 1))) ())
    (hE : ∀ reply e, E (note.map (·.update patch reply)) e) :
    runNotes.Permits may Q E (updateOne criteria patch error) note := by
  refine ⟨hmay, fun reply => ?_⟩
  cases reply with
  | error e => exact hE (.error e) e
  | ok affected =>
    refine Monitor.Permits.ensure (fun hone => ?_) fun _ => hE (.ok affected) error
    obtain rfl := beq_iff_eq.mp hone
    exact hQ

variable (run) in
/-- **A checkpoint** licenses the next operation. -/
theorem permits_checkpoint (h : Owns run.id run.mode note) :
    runNotes.Permits may (fun note' _ => Licensed run.id run.mode run.operations note')
      (fun note' _ => Owns run.id run.mode note') (checkpoint run) note := by
  obtain ⟨n, rfl, hid, hmode⟩ := h
  refine permits_updateOne ⟨rfl, .inl ⟨n, rfl, hid, rfl, .inl ⟨rfl, rfl⟩⟩⟩
    ⟨_, rfl, hid, hmode, rfl, rfl⟩ fun reply e => Owns.update ⟨n, rfl, hid, hmode⟩ _ _

theorem permits_finish {status : RunStatus} (h : Owns run.id run.mode note)
    (hstatus : status ≠ .running) :
    runNotes.Permits may (fun note' _ => status = .completed → Completed run.id note')
      (fun _ _ => True) (finish run status) note := by
  obtain ⟨n, rfl, hid, hmode⟩ := h
  refine permits_updateOne ⟨rfl, .inl ⟨n, rfl, hid, rfl, .inr ⟨status, rfl, hstatus, rfl⟩⟩⟩
    ?_ fun _ _ => trivial
  rintro rfl
  exact ⟨_, rfl, hid, Bool.or_true _⟩

/-- **An operation** begins only when it is in flight. -/
theorem permits_perform {index : Nat} (h : Licensed id mode operations note)
    (hflight : InFlight mode operations index) :
    runNotes.Permits may (fun note' _ => Owns id mode note') (fun note' _ => Owns id mode note')
      (perform id index outcome) note := by
  obtain ⟨n, rfl, hid, rfl, hlicensed, rfl⟩ := h
  refine ⟨⟨n, rfl, hid, hlicensed, hflight⟩, fun _ => ?_⟩
  exact Monitor.Permits.ofExcept (fun _ _ => ⟨_, rfl, hid, rfl⟩) fun _ _ => ⟨_, rfl, hid, rfl⟩

abbrev EndsOwning (id : String) (mode : RunMode) (note : Option RunNote)
    (ended : ConfigImportRun × Except JournalError Unit) : Prop :=
  Owns id mode note ∧ ended.1.id = id ∧ ended.1.mode = mode

theorem permits_step {p : JournalApi Unit}
    {next : JournalApi (ConfigImportRun × Except JournalError Unit)}
    {R : Option RunNote → Unit → Prop} (hid : run.id = id) (hmode : run.mode = mode)
    (hp : runNotes.Permits may R (fun note' _ => Owns id mode note') p note)
    (hnext : ∀ note', R note' () →
      runNotes.Permits may (EndsOwning id mode) (fun _ _ => True) next note') :
    runNotes.Permits may (EndsOwning id mode) (fun _ _ => True) (step run p next) note := by
  refine hp.attempt.bind fun result note' hresult => ?_
  cases result with
  | ok u => exact hnext note' (hresult.1 u rfl)
  | error e => exact ⟨hresult.2 e rfl, hid, hmode⟩

theorem inFlight_setStatus {index : Nat} (h : index < run.operations.length) :
    InFlight run.mode (run.setStatus index .running).operations index :=
  .inr ⟨_, by rw [ConfigImportRun.setStatus, List.getElem?_modify_eq, List.getElem?_eq_getElem h]
              rfl, rfl⟩

theorem permits_applyOperation {outcome : Nat → Except JournalError Unit} {index : Nat}
    (h : Owns run.id run.mode note) (hindex : index < run.operations.length) :
    runNotes.Permits may (fun note' _ => Owns run.id run.mode note')
      (fun note' _ => Owns run.id run.mode note') (applyOperation outcome run index) note := by
  refine (permits_checkpoint (run.setStatus index .running) h).bind fun _ note₁ h₁ => ?_
  refine (permits_perform h₁ (inFlight_setStatus hindex)).bind fun _ note₂ h₂ => ?_
  exact (permits_checkpoint (run.setStatus index .completed) h₂).imp
    (fun _ _ h₃ => h₃.owns) fun _ _ h₃ => h₃

/-- **The loop of an import.** -/
theorem permits_applyOperations {outcome : Nat → Except JournalError Unit} (indexes : List Nat)
    (h : Owns run.id run.mode note) (hindexes : ∀ index ∈ indexes, index < run.operations.length) :
    runNotes.Permits may (EndsOwning run.id run.mode) (fun _ _ => True)
      (applyOperations outcome indexes run) note := by
  induction indexes generalizing run note with
  | nil => exact ⟨h, rfl, rfl⟩
  | cons index indexes ih =>
    have hindex := hindexes index List.mem_cons_self
    refine (permits_applyOperation h hindex).attempt.bind fun result note' hresult => ?_
    cases result with
    | error e => exact ⟨hresult.2 e rfl, rfl, rfl⟩
    | ok u =>
      refine @ih _ (run.setStatus index .completed) (hresult.1 u rfl) fun index' hmem => ?_
      rw [ConfigImportRun.length_setStatus]
      exact hindexes index' (List.mem_cons_of_mem _ hmem)

theorem permits_applyLocked (bundle : BundleImport) (h : Owns run.id run.mode note) :
    runNotes.Permits may (EndsOwning run.id run.mode) (fun _ _ => True)
      (applyLocked bundle run) note := by
  unfold applyLocked
  split
  · exact ⟨h, rfl, rfl⟩
  · rename_i plan hplan
    split
    · exact ⟨h, rfl, rfl⟩
    · dsimp only
      split
      · exact ⟨h, rfl, rfl⟩
      · refine permits_step rfl rfl (permits_checkpoint { run with
          planFingerprint := plan.planFingerprint
          operations := plan.operations } h) fun note' h' => ?_
        exact permits_applyOperations _ h'.owns fun index hmem => List.mem_range.mp hmem

theorem permits_intercept (mutation : ApiMutation) (h : Owns run.id run.mode note) :
    runNotes.Permits may (EndsOwning run.id run.mode) (fun _ _ => True)
      (intercept mutation run) note := by
  have hmutable : runNotes.Permits may (fun note' _ => Owns run.id run.mode note')
      (fun note' _ => Owns run.id run.mode note')
      (onlyIf mutation.matched.isSome () (ofExcept mutation.mutability)) note := by
    cases mutation.matched.isSome with
    | true => exact Monitor.Permits.ofExcept (fun _ _ => h) fun _ _ => h
    | false => exact h
  refine permits_step rfl rfl hmutable fun note₁ h₁ => ?_
  refine permits_step rfl rfl (permits_checkpoint _ h₁) fun note₂ h₂ => ?_
  refine permits_step rfl rfl (permits_perform h₂ (.inr ⟨_, rfl, rfl⟩)) fun note₃ h₃ => ?_
  split
  · exact ⟨h₃, rfl, rfl⟩
  · refine permits_step rfl rfl (permits_checkpoint _ h₃) fun note₄ h₄ => ?_
    exact permits_step rfl rfl (permits_perform h₄ (.inr ⟨_, rfl, rfl⟩)) fun note₅ h₅ =>
      ⟨h₅, rfl, rfl⟩

theorem permits_detach (hmode : run.mode = .detach)
    (h : Licensed run.id run.mode run.operations note) :
    runNotes.Permits may (EndsOwning run.id run.mode) (fun _ _ => True)
      (detach outcome run) note :=
  permits_step rfl rfl (permits_perform h (.inl hmode)) fun _ h' => ⟨h', rfl, rfl⟩

variable (run) in
/-- **A writer** executes its run. -/
theorem permits_execute (writer : Writer) (hmode : run.mode = writer.mode)
    (h : Licensed run.id run.mode run.operations note) :
    runNotes.Permits may (EndsOwning run.id run.mode) (fun _ _ => True)
      (writer.execute run) note := by
  cases writer with
  | apply bundle => exact permits_applyLocked bundle h.owns
  | mutate mutation => exact permits_intercept mutation h.owns
  | detach outcome => exact permits_detach hmode h

variable (run) in
theorem permits_executeRun {execute : Execution}
    (h : runNotes.Permits may (EndsOwning run.id run.mode) (fun _ _ => True)
      (execute run) note) :
    runNotes.Permits may (fun note' _ => Completed run.id note') (fun _ _ => True)
      (executeRun execute run) note := by
  refine h.bind fun ended note' hended => ?_
  obtain ⟨run', result⟩ := ended
  obtain ⟨howns, hid, hmode⟩ := hended
  dsimp only at hid hmode
  rw [← hid, ← hmode] at howns
  rw [← hid]
  have hstatus : (if result.isOk then RunStatus.completed else .failed) ≠ .running := by
    split <;> nofun
  have hfinalize : runNotes.Permits may
      (fun note₁ _ => result.isOk = true → Completed run'.id note₁) (fun _ _ => True)
      (finalize run' (if result.isOk then .completed else .failed)) note' := by
    refine (permits_finish howns hstatus).attempt.bind fun finished note₁ hfinished => ?_
    cases finished with
    | ok u => exact fun hok => hfinished.1 u rfl (if_pos hok)
    | error e => trivial
  refine hfinalize.bind fun _ note₁ hcompleted => ?_
  exact Monitor.Permits.ofExcept (fun _ hresult => hcompleted (by rw [hresult]; rfl))
    fun _ _ => trivial

/-- **A writer that returns** has completed its run. -/
theorem permits_run (replica : Nat) (tenantId : String) (writer : Writer) :
    runNotes.Permits may (fun note' _ => Completed id note') (fun _ _ => True)
      (ImportJournal.run replica id tenantId writer.mode writer.execute) none := by
  refine ⟨⟨rfl, rfl, rfl⟩, fun reply => ?_⟩
  cases reply with
  | error error =>
    refine ⟨trivial, fun reply => ?_⟩
    cases reply with
    | error e => trivial
    | ok active => cases active <;> trivial
  | ok u =>
    have hexecute : runNotes.Permits may (EndsOwning id writer.mode) (fun _ _ => True)
        (writer.execute (newRun id tenantId writer.mode))
        (some ⟨id, writer.mode, [], true, false⟩) :=
      permits_execute (newRun id tenantId writer.mode) writer rfl
        ⟨_, rfl, rfl, rfl, rfl, rfl⟩
    refine ⟨trivial, fun _ => ?_⟩
    refine (permits_executeRun (newRun id tenantId writer.mode) hexecute).attempt.bind
      fun result note' hresult => ?_
    refine ⟨trivial, fun _ => ?_⟩
    exact Monitor.Permits.ofExcept hresult.1 fun _ _ => trivial

theorem permits_get (tenantId : String) :
    runNotes.Permits may (fun note' _ => note' = note) (fun _ _ => True)
      (ImportJournal.get tenantId id) note := by
  refine ⟨trivial, fun reply => ?_⟩
  cases reply with
  | error e => trivial
  | ok found => exact Monitor.Permits.getOrFail (fun _ _ => rfl) trivial

/-- **An acknowledgement** has no run of its own. -/
theorem permits_acknowledgeInterruption (replica : Nat) (tenantId : String) :
    runNotes.Permits may (fun _ _ => True) (fun _ _ => True)
      (acknowledgeInterruption replica tenantId id) none := by
  refine (permits_get tenantId).bind fun run note hnote => ?_
  subst hnote
  split
  · refine ⟨trivial, fun executing => ?_⟩
    refine (Monitor.Permits.ensure (Q := fun note' _ => note' = none) (fun _ => rfl)
      fun _ => trivial).bind fun _ note hnote => ?_
    subst hnote
    refine (permits_updateOne (Q := fun _ _ => True) (E := fun _ _ => True)
      ⟨rfl, .inr ⟨rfl, rfl, rfl, rfl⟩⟩ trivial fun _ _ => trivial).bind fun _ note _ => ?_
    exact (permits_get tenantId).imp (fun _ _ _ => trivial) fun _ _ _ => trivial
  · trivial

/-- **Every request** keeps to its run. -/
theorem permits_program (request : JournalRequest) :
    runNotes.Permits may (fun note' _ => ∀ id, request.runId? = some id → Completed id note')
      (fun _ _ => True) request.program none := by
  cases request with
  | write replica id tenantId writer =>
    refine (permits_run replica tenantId writer).bind fun _ note' hcompleted id' hid => ?_
    obtain rfl := Option.some.inj hid
    exact hcompleted
  | acknowledge replica tenantId id =>
    exact (permits_acknowledgeInterruption replica tenantId).bind fun _ _ _ _ hid => nomatch hid

/-! ## Calls -/

variable {g : JournalState} {tid : Nat} {s : JournalStore}

theorem deliver_ok {α : Type} {reply : Except JournalError α} {a : α}
    {runs : UniqueTable ConfigImportRun.id ConfigImportRun.activeTenant}
    (h : (deliver s reply runs).1 = .ok a) :
    reply = .ok a ∧ (deliver s reply runs).2.runs = runs := by
  unfold deliver at h ⊢
  cases hconnection : s.connection with
  | up =>
    rw [hconnection] at h
    exact ⟨h, rfl⟩
  | lossy =>
    rw [hconnection] at h
    cases h
  | down =>
    rw [hconnection] at h
    cases h

theorem deliver_runs {α : Type} (s : JournalStore) (reply : Except JournalError α)
    (runs : UniqueTable ConfigImportRun.id ConfigImportRun.activeTenant) :
    (deliver s reply runs).2.runs = runs ∨ (deliver s reply runs).2.runs = s.runs := by
  unfold deliver
  cases s.connection with
  | up => exact .inl rfl
  | lossy => exact .inl rfl
  | down => exact .inr rfl

theorem deliver_query {α : Type} (s : JournalStore) (reply : Except JournalError α) :
    (deliver s reply s.runs).2.runs = s.runs := (deliver_runs s reply s.runs).elim id id

theorem selects_iff {criteria : Criteria} (h : criteria.selects run = true) :
    run.id = criteria.id ∧ run.status = criteria.status := by
  simp only [Criteria.selects, Bool.and_eq_true, beq_iff_eq] at h
  exact ⟨h.1.1.1.1, h.1.1.2⟩

theorem get_updated (runs : UniqueTable ConfigImportRun.id ConfigImportRun.activeTenant)
    (criteria : Criteria) (patch : Patch) (id : String) :
    (updated runs criteria patch).get id =
      (runs.get id).map fun run => if criteria.selects run then patch.apply run else run :=
  Table.get_updateWhere runs.toTable criteria.selects patch.apply (fun _ => rfl) id

/-- **What an update does to a run**: nothing, unless it is the selected one, and is running. -/
theorem row_update {criteria : Criteria} (patch : Patch) (hstatus : criteria.status = .running)
    (hrun : s.runs.get id = some run) :
    ∃ run', (JournalCall.answer (.update criteria patch) s).2.runs.get id = some run' ∧
      (run' = run ∨ id = criteria.id ∧ run.status = .running ∧ run' = patch.apply run) := by
  rcases deliver_runs s (.ok (s.runs.count criteria.selects)) (updated s.runs criteria patch) with
    hruns | hruns
  · refine ⟨if criteria.selects run then patch.apply run else run, ?_, ?_⟩
    · exact (congrArg (fun runs => runs.get id) hruns).trans
        ((get_updated ..).trans (by rw [hrun]))
    · split
      · rename_i hselects
        obtain ⟨hid, hrunning⟩ := selects_iff hselects
        exact .inr ⟨(Table.get_key hrun).symm.trans hid, hrunning.trans hstatus, rfl⟩
      · exact .inl rfl
  · exact ⟨run, (congrArg (fun runs => runs.get id) hruns).trans hrun, .inl rfl⟩

theorem row_update_none (criteria : Criteria) (patch : Patch) (hrun : s.runs.get id = none) :
    (JournalCall.answer (.update criteria patch) s).2.runs.get id = none := by
  rcases deliver_runs s (.ok (s.runs.count criteria.selects)) (updated s.runs criteria patch) with
    hruns | hruns
  · exact (congrArg (fun runs => runs.get id) hruns).trans
      ((get_updated ..).trans (by rw [hrun]))
  · exact (congrArg (fun runs => runs.get id) hruns).trans hrun

/-- **An update that affects one run** has changed it while it was running. -/
theorem row_updated {criteria : Criteria} {patch : Patch} (hstatus : criteria.status = .running)
    (h : (JournalCall.answer (.update criteria patch) s).1 = .ok 1) :
    ∃ run, s.runs.get criteria.id = some run ∧ run.status = .running ∧
      (JournalCall.answer (.update criteria patch) s).2.runs.get criteria.id =
        some (patch.apply run) := by
  obtain ⟨hcount, hruns⟩ := deliver_ok h
  have hpos : 0 < s.runs.count criteria.selects := by
    rw [Except.ok.inj hcount]
    exact Nat.one_pos
  obtain ⟨run, hrun, hselects⟩ :=
    (Table.count_pos_of_key fun run hselects => (selects_iff hselects).1).mp hpos
  refine ⟨run, hrun, (selects_iff hselects).2.trans hstatus, ?_⟩
  refine (congrArg (fun runs => runs.get criteria.id) hruns).trans ((get_updated ..).trans ?_)
  rw [hrun, Option.map_some, if_pos hselects]

/-- **What an insertion does**: it adds the run under a free id, or nothing, and then it is not
answered as successful. -/
theorem row_insert (s : JournalStore) (run : ConfigImportRun) :
    (s.runs.get run.id = none ∧ ∀ id, (JournalCall.answer (.insert run) s).2.runs.get id =
      if run.id = id then some run else s.runs.get id) ∨
    (JournalCall.answer (.insert run) s).2.runs = s.runs ∧
      (JournalCall.answer (.insert run) s).1.isOk = false := by
  unfold JournalCall.answer
  dsimp only
  split
  · rename_i runs hinsert
    obtain ⟨hfree, hget⟩ := UniqueTable.get_insert hinsert
    by_cases hruns : (deliver s (.ok ()) runs).2.runs = runs
    · rw [hruns]
      exact .inl ⟨hfree, hget⟩
    · refine .inr ⟨(deliver_runs s (.ok ()) runs).resolve_left hruns, ?_⟩
      cases hreply : (deliver s (.ok ()) runs).1 with
      | error e => rfl
      | ok u => exact absurd (deliver_ok hreply).2 hruns
  · refine .inr ⟨deliver_query .., ?_⟩
    cases hreply : (deliver s (.error .constraint : Except JournalError Unit) s.runs).1 with
    | error e => rfl
    | ok u => cases (deliver_ok hreply).1

/-! ## Runs and notes -/

/-- **What the journal and the notes agree on.** -/
structure Noted (g : JournalState) : Prop where
  /-- A run has the lock of its tenant while it is running. -/
  locked : ∀ id run, g.store.runs.get id = some run →
    run.activeTenant = if run.status = .running then some run.tenantId else none
  row : ∀ t n, runNotes.state t g.trace = some n → ∃ run, g.store.runs.get n.id = some run ∧
    run.mode = n.mode ∧ (n.licensed = true → run.operations = n.operations) ∧
    (n.completed = true → run.status = .completed)
  owner : ∀ t t' n n', runNotes.state t g.trace = some n → runNotes.state t' g.trace = some n' →
    n.id = n'.id → t = t'

theorem state_after_self (g : JournalState) (tid : Nat) (op : JournalCall) :
    runNotes.state tid (journal.after g tid op).trace =
      runNotes.advance (runNotes.state tid g.trace) op (op.answer g.store).1 :=
  Monitor.state_cons_self ..

theorem state_after_other {t : Nat} (h : t ≠ tid) (op : JournalCall) :
    runNotes.state t (journal.after g tid op).trace = runNotes.state t g.trace :=
  Monitor.state_cons_other h.symm _

theorem Noted.of_same {op : JournalCall} (h : Noted g)
    (hruns : (op.answer g.store).2.runs = g.store.runs)
    (hnote : runNotes.advance (runNotes.state tid g.trace) op (op.answer g.store).1 =
        runNotes.state tid g.trace ∨
      runNotes.advance (runNotes.state tid g.trace) op (op.answer g.store).1 =
        (runNotes.state tid g.trace).map ({ · with licensed := false })) :
    Noted (journal.after g tid op) := by
  have hstore : (journal.after g tid op).store.runs = g.store.runs := hruns
  -- each note is an old one, perhaps without its licence
  have hold : ∀ t n, runNotes.state t (journal.after g tid op).trace = some n →
      ∃ n₀, runNotes.state t g.trace = some n₀ ∧ (n = n₀ ∨ n = { n₀ with licensed := false }) := by
    intro t n hn
    by_cases ht : t = tid
    · subst ht
      rw [state_after_self] at hn
      rcases hnote with hsame | hless
      · exact ⟨n, hsame.symm.trans hn, .inl rfl⟩
      · obtain ⟨n₀, hn₀, rfl⟩ := Option.map_eq_some_iff.mp (hless.symm.trans hn)
        exact ⟨n₀, hn₀, .inr rfl⟩
    · rw [state_after_other ht] at hn
      exact ⟨n, hn, .inl rfl⟩
  refine ⟨fun id run hrun => h.locked id run (hstore ▸ hrun), fun t n hn => ?_,
    fun t t' n n' hn hn' hid => ?_⟩
  · obtain ⟨n₀, hn₀, rfl | rfl⟩ := hold t n hn
    · rw [hstore]
      exact h.row t n hn₀
    · obtain ⟨run, hrun, hmode, -, hcompleted⟩ := h.row t n₀ hn₀
      rw [hstore]
      exact ⟨run, hrun, hmode, nofun, hcompleted⟩
  · obtain ⟨n₀, hn₀, hor⟩ := hold t n hn
    obtain ⟨n₀', hn₀', hor'⟩ := hold t' n' hn'
    refine h.owner t t' n₀ n₀' hn₀ hn₀' ?_
    rcases hor with rfl | rfl <;> rcases hor' with rfl | rfl <;> exact hid

theorem Noted.insert (h : Noted g) (hmay : may (runNotes.state tid g.trace) (.insert run)) :
    Noted (journal.after g tid (.insert run)) := by
  obtain ⟨hnone, hrunning, hactive⟩ := hmay
  rcases row_insert g.store run with ⟨hfree, hget⟩ | ⟨hruns, hfailed⟩
  · have hstore : ∀ id, (journal.after g tid (.insert run)).store.runs.get id =
        if run.id = id then some run else g.store.runs.get id := hget
    -- a note is an old one of another run, or is the new one
    have hold : ∀ t n, runNotes.state t (journal.after g tid (.insert run)).trace = some n →
        runNotes.state t g.trace = some n ∧ n.id ≠ run.id ∨
          t = tid ∧ n = ⟨run.id, run.mode, run.operations, true, false⟩ := by
      intro t n hn
      by_cases ht : t = tid
      · subst ht
        rw [state_after_self, hnone] at hn
        dsimp only [runNotes] at hn
        split at hn
        · exact .inr ⟨rfl, (Option.some.inj hn).symm⟩
        · cases hn
      · rw [state_after_other ht] at hn
        obtain ⟨run', hrun', -⟩ := h.row t n hn
        refine .inl ⟨hn, fun hid => ?_⟩
        rw [hid, hfree] at hrun'
        cases hrun'
    refine ⟨fun id run' hrun' => ?_, fun t n hn => ?_, fun t t' n n' hn hn' hid => ?_⟩
    · rw [hstore] at hrun'
      split at hrun'
      · obtain rfl := Option.some.inj hrun'
        rw [if_pos hrunning]
        exact hactive
      · exact h.locked id run' hrun'
    · rw [hstore]
      rcases hold t n hn with ⟨hn₀, hne⟩ | ⟨rfl, rfl⟩
      · rw [if_neg hne.symm]
        exact h.row t n hn₀
      · exact ⟨run, if_pos rfl, rfl, fun _ => rfl, fun h => by cases h⟩
    · rcases hold t n hn with ⟨hn₀, hne⟩ | ⟨rfl, rfl⟩ <;>
        rcases hold t' n' hn' with ⟨hn₀', hne'⟩ | ⟨rfl, rfl⟩
      · exact h.owner t t' n n' hn₀ hn₀' hid
      · exact absurd hid hne
      · exact absurd hid.symm hne'
      · rfl
  · refine h.of_same hruns (.inl ?_)
    have hreply : (JournalCall.answer (.insert run) g.store).1.isOk ≠ true := by
      rw [hfailed]
      decide
    exact if_neg hreply

theorem row_before {criteria : Criteria} {patch : Patch} {run' : ConfigImportRun}
    (hstatus : criteria.status = .running)
    (hrun' : (JournalCall.answer (.update criteria patch) s).2.runs.get id = some run') :
    ∃ run, s.runs.get id = some run ∧
      (run' = run ∨ id = criteria.id ∧ run.status = .running ∧ run' = patch.apply run) := by
  cases hrun : s.runs.get id with
  | none =>
    rw [row_update_none criteria patch hrun] at hrun'
    cases hrun'
  | some run =>
    obtain ⟨run'', hrun'', hor⟩ := row_update patch hstatus hrun
    obtain rfl := Option.some.inj (hrun''.symm.trans hrun')
    exact ⟨run, rfl, hor⟩

theorem locked_update {criteria : Criteria} {patch : Patch} (h : Noted g) {note : Option RunNote}
    (hmay : may note (.update criteria patch)) (run' : ConfigImportRun)
    (hrun' : (journal.after g tid (.update criteria patch)).store.runs.get id = some run') :
    run'.activeTenant = if run'.status = .running then some run'.tenantId else none := by
  obtain ⟨hstatus, hwrites⟩ := hmay
  have hpatch : patch.status = none ∧ patch.release = false ∨
      ∃ status, patch.status = some status ∧ status ≠ .running ∧ patch.release = true := by
    rcases hwrites with ⟨n, -, -, -, hpatch⟩ | ⟨-, hpatch, hrelease, -⟩
    · exact hpatch
    · exact .inr ⟨_, hpatch, nofun, hrelease⟩
  obtain ⟨run, hrun, rfl | ⟨-, hrunning, rfl⟩⟩ := row_before hstatus hrun'
  · exact h.locked id run' hrun
  · have hactive := h.locked id run hrun
    rw [if_pos hrunning] at hactive
    unfold Patch.apply
    rcases hpatch with ⟨hnone, hrelease⟩ | ⟨status, hsome, hne, hrelease⟩
    · rw [hnone, hrelease, Option.getD_none, if_pos hrunning]
      exact hactive
    · rw [hsome, hrelease, Option.getD_some, if_neg hne]
      rfl

theorem row_of_unlicensed {criteria : Criteria} (patch : Patch) {n : RunNote}
    (hstatus : criteria.status = .running)
    (hrow : ∃ run, s.runs.get n.id = some run ∧ run.mode = n.mode ∧
      (n.completed = true → run.status = .completed)) :
    ∃ run, (JournalCall.answer (.update criteria patch) s).2.runs.get n.id = some run ∧
      run.mode = n.mode ∧ (n.completed = true → run.status = .completed) := by
  obtain ⟨run, hrun, hmode, hcompleted⟩ := hrow
  obtain ⟨run', hrun', rfl | ⟨-, hrunning, rfl⟩⟩ := row_update patch hstatus hrun
  · exact ⟨run', hrun', hmode, hcompleted⟩
  · refine ⟨_, hrun', hmode, fun h => ?_⟩
    cases hrunning.symm.trans (hcompleted h)

theorem row_own {criteria : Criteria} {patch : Patch} {n : RunNote}
    (hstatus : criteria.status = .running) (hid : n.id = criteria.id)
    (hoperations : patch.operations.isSome = true)
    (hrow : ∃ run, s.runs.get n.id = some run ∧ run.mode = n.mode ∧
      (n.licensed = true → run.operations = n.operations) ∧
      (n.completed = true → run.status = .completed)) :
    let n' := n.update patch (JournalCall.answer (.update criteria patch) s).1
    ∃ run, (JournalCall.answer (.update criteria patch) s).2.runs.get n'.id = some run ∧
      run.mode = n'.mode ∧ (n'.licensed = true → run.operations = n'.operations) ∧
      (n'.completed = true → run.status = .completed) := by
  obtain ⟨run, hrun, hmode, -, hcompleted⟩ := hrow
  intro n'
  by_cases hreply : (JournalCall.answer (.update criteria patch) s).1 = .ok 1
  · obtain ⟨run', hrun', hrunning, hafter⟩ := row_updated hstatus hreply
    rw [hid] at hrun
    obtain rfl := Option.some.inj (hrun'.symm.trans hrun)
    obtain ⟨operations, hoperations⟩ := Option.isSome_iff_exists.mp hoperations
    have hn' : n' = { n with
        operations := patch.operations.getD n.operations
        licensed := patch.status.isNone
        completed := n.completed || patch.status == some .completed } := by
      show n.update patch _ = _
      rw [hreply]
      rfl
    rw [hn']
    rw [← hid] at hafter
    refine ⟨patch.apply run', hafter, hmode, fun _ => ?_, fun hdone => ?_⟩
    · show patch.operations.getD _ = patch.operations.getD _
      rw [hoperations]
      rfl
    · rcases Bool.or_eq_true_iff.mp hdone with hdone | hdone
      · cases hrunning.symm.trans (hcompleted hdone)
      · show patch.status.getD _ = _
        rw [beq_iff_eq.mp hdone]
        rfl
  · have hn' : n' = { n with licensed := false } := by
      show n.update patch _ = _
      unfold RunNote.update
      split
      · rename_i hone
        exact absurd hone hreply
      · rfl
    rw [hn']
    obtain ⟨run', hrun', hmode', hcompleted'⟩ := row_of_unlicensed patch hstatus
      ⟨run, hrun, hmode, hcompleted⟩
    exact ⟨run', hrun', hmode', nofun, hcompleted'⟩

theorem Noted.update {criteria : Criteria} {patch : Patch} (h : Noted g)
    (hmay : may (runNotes.state tid g.trace) (.update criteria patch)) :
    Noted (journal.after g tid (.update criteria patch)) := by
  obtain ⟨hstatus, hwrites⟩ := hmay
  -- the notes are about the same runs as before
  have hold : ∀ t n, runNotes.state t (journal.after g tid (.update criteria patch)).trace =
      some n → ∃ n₀, runNotes.state t g.trace = some n₀ ∧ n.id = n₀.id ∧
        (t ≠ tid ∧ n = n₀ ∨ t = tid ∧
          n = n₀.update patch (JournalCall.answer (.update criteria patch) g.store).1) := by
    intro t n hn
    by_cases ht : t = tid
    · subst ht
      rw [state_after_self] at hn
      obtain ⟨n₀, hn₀, rfl⟩ := Option.map_eq_some_iff.mp hn
      refine ⟨n₀, hn₀, ?_, .inr ⟨rfl, rfl⟩⟩
      unfold RunNote.update
      split <;> rfl
    · rw [state_after_other ht] at hn
      exact ⟨n, hn, rfl, .inl ⟨ht, rfl⟩⟩
  refine ⟨fun id run' => locked_update h ⟨hstatus, hwrites⟩ run', fun t n hn => ?_,
    fun t t' n n' hn hn' hid => ?_⟩
  · obtain ⟨n₀, hn₀, hid, ⟨ht, rfl⟩ | ⟨rfl, rfl⟩⟩ := hold t n hn
    · obtain ⟨run, hrun, hmode, hlicensed, hcompleted⟩ := h.row t n hn₀
      obtain ⟨run', hrun', rfl | ⟨hown, hrunning, rfl⟩⟩ := row_update patch hstatus hrun
      · exact ⟨run', hrun', hmode, hlicensed, hcompleted⟩
      · -- the run of another thread is only interrupted
        rcases hwrites with ⟨n', hn', hid', -, -⟩ | ⟨-, hpatch, -, hoperations⟩
        · exact absurd (h.owner t tid n n' hn₀ hn' (hown.trans hid'.symm)) ht
        · refine ⟨_, hrun', hmode, fun hl => ?_, fun hdone => ?_⟩
          · show patch.operations.getD _ = _
            rw [hoperations]
            exact hlicensed hl
          · cases hrunning.symm.trans (hcompleted hdone)
    · rcases hwrites with ⟨n', hn', hid', hoperations, -⟩ | ⟨hnone, -⟩
      · obtain rfl := Option.some.inj (hn'.symm.trans hn₀)
        exact row_own hstatus hid' hoperations (h.row t n' hn₀)
      · cases hnone.symm.trans hn₀
  · obtain ⟨n₀, hn₀, hid₀, -⟩ := hold t n hn
    obtain ⟨n₀', hn₀', hid₀', -⟩ := hold t' n' hn'
    exact h.owner t t' n₀ n₀' hn₀ hn₀' (hid₀.symm.trans (hid.trans hid₀'))

/-- **Every permitted call** keeps to the notes. -/
theorem Noted.after (h : Noted g) {op : JournalCall}
    (hmay : may (runNotes.state tid g.trace) op) : Noted (journal.after g tid op) := by
  cases op with
  | insert run => exact h.insert hmay
  | update criteria patch => exact h.update hmay
  | findActive tenantId => exact h.of_same (deliver_query ..) (.inl rfl)
  | findOne tenantId id => exact h.of_same (deliver_query ..) (.inl rfl)
  | perform id index => exact h.of_same rfl (.inr rfl)
  | addExecuting replica id => exact h.of_same rfl (.inl rfl)
  | deleteExecuting replica id => exact h.of_same rfl (.inl rfl)
  | hasExecuting replica id => exact h.of_same rfl (.inl rfl)

theorem Noted.pass (h : Noted g) (e : Surroundings) : Noted (journal.pass g e) := by
  cases e with
  | crash replica => exact ⟨h.locked, h.row, h.owner⟩
  | connect connection => exact ⟨h.locked, h.row, h.owner⟩

theorem noted_start : Noted (Config.start JournalStore.empty : JournalConfig).global :=
  ⟨nofun, nofun, nofun⟩

/-! ## Interrupted runs -/

/-- **A run that is not running is not changed any more.** -/
theorem row_settled {op : JournalCall} {note : Option RunNote} (hmay : may note op)
    (hrun : s.runs.get id = some run) (hsettled : run.status ≠ .running) :
    (op.answer s).2.runs.get id = some run := by
  have hsame (hruns : (op.answer s).2.runs = s.runs) : (op.answer s).2.runs.get id = some run := by
    rw [hruns]
    exact hrun
  cases op with
  | insert new =>
    rcases row_insert s new with ⟨hfree, hget⟩ | ⟨hruns, -⟩
    · rw [hget, if_neg]
      · exact hrun
      · rintro rfl
        cases hfree.symm.trans hrun
    · exact hsame hruns
  | update criteria patch =>
    obtain ⟨run', hrun', rfl | ⟨-, hrunning, -⟩⟩ := row_update patch hmay.1 hrun
    · exact hrun'
    · exact absurd hrunning hsettled
  | findActive tenantId => exact hsame (deliver_query ..)
  | findOne tenantId id => exact hsame (deliver_query ..)
  | perform id index => exact hrun
  | addExecuting replica id => exact hrun
  | deleteExecuting replica id => exact hrun
  | hasExecuting replica id => exact hrun

/-- **No licence is given** for a run that is not running. -/
theorem no_new_licence {op : JournalCall} {n' : RunNote}
    (hmay : may (runNotes.state tid g.trace) op) (hrun : g.store.runs.get id = some run)
    (hsettled : run.status ≠ .running)
    (hn' : runNotes.state tid (journal.after g tid op).trace = some n') (hid : n'.id = id)
    (hlicensed : n'.licensed = true) : runNotes.state tid g.trace = some n' ∧
      ∀ index, op ≠ .perform id index := by
  rw [state_after_self] at hn'
  cases op with
  | insert new =>
    rcases row_insert g.store new with ⟨hfree, -⟩ | ⟨-, hfailed⟩
    · rw [hmay.1] at hn'
      dsimp only [runNotes] at hn'
      split at hn'
      · obtain rfl := Option.some.inj hn'
        dsimp only at hid
        rw [hid, hrun] at hfree
        cases hfree
      · cases hn'
    · dsimp only [runNotes] at hn'
      rw [hfailed] at hn'
      exact ⟨hn', nofun⟩
  | update criteria patch =>
    obtain ⟨n, hn, rfl⟩ := Option.map_eq_some_iff.mp hn'
    obtain ⟨hstatus, ⟨n', hn', hid', -⟩ | ⟨hnone, -⟩⟩ := hmay
    · obtain rfl := Option.some.inj (hn'.symm.trans hn)
      unfold RunNote.update at hid hlicensed
      split at hlicensed
      · rename_i hreply
        obtain ⟨run', hrun', hrunning, -⟩ := row_updated hstatus hreply
        rw [hreply] at hid
        have hsame : n'.id = id := hid
        rw [← hid', hsame, hrun] at hrun'
        exact absurd (Option.some.inj hrun' ▸ hrunning) hsettled
      · cases hlicensed
    · cases hnone.symm.trans hn
  | perform id' index =>
    obtain ⟨n, hn, rfl⟩ := Option.map_eq_some_iff.mp hn'
    cases hlicensed
  | findActive tenantId => exact ⟨hn', nofun⟩
  | findOne tenantId id => exact ⟨hn', nofun⟩
  | addExecuting replica id => exact ⟨hn', nofun⟩
  | deleteExecuting replica id => exact ⟨hn', nofun⟩
  | hasExecuting replica id => exact ⟨hn', nofun⟩

/-- **What holds from the interruption of a run on**, in the state `c`. -/
structure Ending (run : ConfigImportRun) (c : JournalConfig) (g : JournalState) : Prop where
  noted : Noted g
  stored : g.store.runs.get run.id = some run
  events : ∃ later, g.trace = later ++ c.trace ∧ later.countP (begins run.id) ≤ 1 ∧
    (∀ e ∈ later, ∀ index, e.op = .perform run.id index →
      InFlight run.mode run.operations index) ∧
    (0 < later.countP (begins run.id) → ∀ t n, runNotes.state t g.trace = some n →
      n.id = run.id → n.licensed = false)

theorem begins_iff {e : Event JournalCall.Reply} :
    begins id e = true ↔ ∃ index, e.op = .perform id index := by
  unfold begins
  cases e.op with
  | perform id' index =>
    rw [beq_iff_eq]
    constructor
    · rintro rfl
      exact ⟨index, rfl⟩
    · rintro ⟨index', h⟩
      cases h
      rfl
  | _ => exact ⟨nofun, fun ⟨_, h⟩ => nomatch h⟩

/-- **The operation in flight** is the last one of an interrupted run. -/
theorem Ending.after {c : JournalConfig} (hsettled : run.status ≠ .running) (h : Ending run c g)
    {op : JournalCall} (hmay : may (runNotes.state tid g.trace) op) :
    Ending run c (journal.after g tid op) := by
  refine ⟨h.noted.after hmay, row_settled hmay h.stored hsettled, ?_⟩
  obtain ⟨later, htrace, hcount, hflight, hlicence⟩ := h.events
  -- whoever has a licence for the run after the call had it before
  have hkept : ∀ t n, runNotes.state t (journal.after g tid op).trace = some n → n.id = run.id →
      n.licensed = true → runNotes.state t g.trace = some n ∧
        (t = tid → ∀ index, op ≠ .perform run.id index) := by
    intro t n hn hid hlicensed
    by_cases ht : t = tid
    · subst ht
      obtain ⟨hn₀, hop⟩ := no_new_licence hmay h.stored hsettled hn hid hlicensed
      exact ⟨hn₀, fun _ => hop⟩
    · rw [state_after_other ht] at hn
      exact ⟨hn, fun heq => absurd heq ht⟩
  refine ⟨⟨tid, op, (op.answer g.store).1⟩ :: later, congrArg _ htrace, ?_⟩
  by_cases hbegins : begins run.id ⟨tid, op, (op.answer g.store).1⟩ = true
  · obtain ⟨index, hop⟩ := begins_iff.mp hbegins
    dsimp only at hop
    subst hop
    obtain ⟨n, hn, hid, hlicensed, hinflight⟩ := hmay
    obtain ⟨run', hrun', hmode, hoperations, -⟩ := h.noted.row tid n hn
    rw [hid, h.stored] at hrun'
    obtain rfl := Option.some.inj hrun'
    have hnone : later.countP (begins run.id) = 0 := by
      by_contra hpos
      have hunlicensed := hlicence (Nat.pos_of_ne_zero hpos) tid n hn hid
      rw [hlicensed] at hunlicensed
      cases hunlicensed
    rw [List.countP_cons_of_pos hbegins, hnone]
    refine ⟨Nat.le_refl 1, fun e he index' hop => ?_, fun _ t n' hn' hid' => ?_⟩
    · rcases List.mem_cons.mp he with rfl | he
      · cases hop
        rw [hmode, hoperations hlicensed]
        exact hinflight
      · exact hflight e he index' hop
    · by_contra hnot
      obtain ⟨hn₀', hother⟩ := hkept t n' hn' hid' (by simpa using hnot)
      exact hother (h.noted.owner t tid n' n hn₀' hn (hid'.trans hid.symm)) index rfl
  · rw [List.countP_cons_of_neg hbegins]
    refine ⟨hcount, fun e he index hop => ?_, fun hpos t n hn hid => ?_⟩
    · rcases List.mem_cons.mp he with rfl | he
      · exact absurd (begins_iff.mpr ⟨index, hop⟩) hbegins
      · exact hflight e he index hop
    · by_contra hnot
      exact hnot (hlicence hpos t n (hkept t n hn hid (by simpa using hnot)).1 hid)

/-! ## Every schedule -/

theorem permitted (ms : JournalSchedule) :
    journal.Guarded (fun g tid op => may (runNotes.state tid g.trace) op)
        (.start JournalStore.empty) ms ∧
      runNotes.Permitted may (fun request note' _ => ∀ id, request.runId? = some id →
        Completed id note') (fun _ _ _ => True) (journal.run (.start JournalStore.empty) ms) :=
  Monitor.permitted_run permits_program (Monitor.permitted_start ..) ms

theorem noted_run (ms : JournalSchedule) :
    Noted (journal.run (.start JournalStore.empty) ms).global :=
  (permitted ms).1.keeps noted_start (fun hmay h => h.after hmay)
    (fun _ h => ⟨h.locked, h.row, h.owner⟩) fun e h => h.pass e

/-- **The locks of every reachable state** are exclusive. -/
theorem Noted.exclusive (h : Noted g) : Exclusive g.store := by
  refine ⟨fun id id' run run' tenantId hrun hrun' => UniqueTable.holder_unique _ hrun hrun',
    fun id run hrun => ?_⟩
  have hlocked := h.locked id run hrun
  unfold ConfigImportRun.Holds
  rw [hlocked]
  split
  · rename_i hrunning
    exact ⟨⟨fun _ => ⟨_, rfl⟩, fun _ => hrunning⟩, fun _ hheld => (Option.some.inj hheld).symm⟩
  · rename_i hrunning
    exact ⟨⟨fun hrunning' => absurd hrunning' hrunning, fun ⟨_, hheld⟩ => nomatch hheld⟩, nofun⟩

end ImportJournal

open ImportJournal

/-- **One configuration writer per tenant**: in every state that requests, acknowledgements,
crashes and lost connections can bring about, the locks are exclusive, and of a run that was
interrupted at most the operation in flight is left. -/
theorem one_configuration_writer (ms later : JournalSchedule) :
    let c : JournalConfig := journal.run (.start JournalStore.empty) ms
    let c' := journal.run c later
    Exclusive c.store ∧ ∀ id run, c.store.runs.get id = some run →
      run.status = .interrupted → Ended run c c' := by
  intro c c'
  have hc' : c' = journal.run (.start JournalStore.empty) (ms ++ later) :=
    (System.run_append ..).symm
  refine ⟨(noted_run ms).exclusive, fun id run hrun hstatus => ?_⟩
  have hsettled : run.status ≠ .running := by
    rw [hstatus]
    decide
  obtain rfl := Table.get_key hrun
  have hstart : Ending run c c.global :=
    ⟨noted_run ms, hrun, [], rfl, Nat.zero_le 1, fun _ he => (List.not_mem_nil he).elim,
      fun hpos => (Nat.lt_irrefl 0 hpos).elim⟩
  have hending : Ending run c c'.global := by
    have hguarded := (System.guarded_append.mp (permitted (ms ++ later)).1).2
    refine hguarded.keeps hstart (fun hmay h => h.after hsettled hmay) (fun _ h => ?_) fun e h => ?_
    · exact ⟨⟨h.noted.locked, h.noted.row, h.noted.owner⟩, h.stored, h.events⟩
    · refine ⟨h.noted.pass e, ?_, h.events⟩
      cases e <;> exact h.stored
  obtain ⟨events, htrace, hcount, hflight, -⟩ := hending.events
  refine ⟨hending.stored, ⟨events, htrace, hcount, hflight⟩, ?_⟩
  intro tid request answer hid hanswer
  have hpermitted := (permitted (ms ++ later)).2
  rw [← hc'] at hpermitted
  obtain ⟨n, hn, hnid, hcompleted⟩ := hpermitted.threads tid _ hanswer run.id hid
  obtain ⟨run', hrun', -, -, hdone⟩ := hending.noted.row tid n hn
  rw [hnid, hending.stored] at hrun'
  obtain rfl := Option.some.inj hrun'
  cases hstatus.symm.trans (hdone hcompleted)

end Eudiplo
