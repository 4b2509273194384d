import Eudiplo.Concurrency.System
import Eudiplo.Portability.Bundle
import Eudiplo.Storage.UniqueColumn

/-!
# The journal of configuration writes

`ConfigImportJournalService` and what runs under it: the import of a bundle, a request that changes
a resource, and detaching a resource.  A run holds the lock of its tenant in a unique column; each
operation is recorded before it begins.

What the operations do is outside the journal: a request carries how they end.
-/

namespace Eudiplo

open Concurrency Prog Storage Portability

namespace ImportJournal

/-! ## Runs -/

inductive Stage where
  | asset
  | resource
  | ownership
  | resourceAndOwnership
  | delete
  | deleteOwnership
  deriving DecidableEq

inductive OperationStatus where
  | pending
  | running
  | completed
  | failed
  deriving DecidableEq

structure ConfigApplyOperation where
  stage : Stage
  ref : Option ResourceRef := none
  path : Option String := none
  status : OperationStatus := .pending
  deriving DecidableEq

inductive RunStatus where
  | running
  | completed
  | failed
  | interrupted
  deriving DecidableEq

/-- `mode` of a run. -/
inductive RunMode where
  | bundle (mode : ConfigImportMode)
  | reattach
  | api
  | detach
  deriving DecidableEq

/-- `ConfigImportRunEntity`. -/
structure ConfigImportRun where
  id : String
  tenantId : String
  mode : RunMode
  planFingerprint : Option String := none
  status : RunStatus := .running
  activeTenant : Option String
  operations : List ConfigApplyOperation := []
  revision : Nat := 1
  deriving DecidableEq

def ConfigImportRun.setStatus (run : ConfigImportRun) (index : Nat) (status : OperationStatus) :
    ConfigImportRun :=
  { run with operations := run.operations.modify index fun operation => { operation with status } }

@[simp] theorem ConfigImportRun.setStatus_id (run : ConfigImportRun) (index : Nat)
    (status : OperationStatus) : (run.setStatus index status).id = run.id := rfl

@[simp] theorem ConfigImportRun.setStatus_mode (run : ConfigImportRun) (index : Nat)
    (status : OperationStatus) : (run.setStatus index status).mode = run.mode := rfl

@[simp] theorem ConfigImportRun.length_setStatus (run : ConfigImportRun) (index : Nat)
    (status : OperationStatus) :
    (run.setStatus index status).operations.length = run.operations.length :=
  List.length_modify ..

/-! ## The repository -/

/-- Which runs an update is for; a revision that is not given is not compared. -/
structure Criteria where
  id : String
  tenantId : String
  status : RunStatus
  activeTenant : String
  revision : Option Nat := none
  deriving DecidableEq

/-- What an update sets; `release` sets `activeTenant` to null. -/
structure Patch where
  status : Option RunStatus := none
  release : Bool := false
  operations : Option (List ConfigApplyOperation) := none
  planFingerprint : Option (Option String) := none
  deriving DecidableEq

def Criteria.selects (criteria : Criteria) (run : ConfigImportRun) : Bool :=
  run.id == criteria.id && run.tenantId == criteria.tenantId && run.status == criteria.status &&
    run.activeTenant == some criteria.activeTenant &&
    criteria.revision.all fun revision => run.revision == revision

def Patch.apply (patch : Patch) (run : ConfigImportRun) : ConfigImportRun :=
  { run with
    status := patch.status.getD run.status
    activeTenant := if patch.release then none else run.activeTenant
    operations := patch.operations.getD run.operations
    planFingerprint := patch.planFingerprint.getD run.planFingerprint
    revision := run.revision + 1 }

inductive JournalError where
  | database
  | constraint
  | writerActive (operationId : String)
  | lockLost
  | interrupted
  | journalWriteFailed (operationId : String) (operations : List ConfigApplyOperation)
  | notFound
  | stillExecuting
  | progressed
  | planStale (operationId : String)
  | applyBlocked (operationId : String)
  | applyFailed (operationId : String) (operations : List ConfigApplyOperation)
  | thrown (message : String)
  deriving DecidableEq

inductive JournalCall where
  | insert (run : ConfigImportRun)
  | findActive (tenantId : String)
  | findOne (tenantId id : String)
  | update (criteria : Criteria) (patch : Patch)
  | addExecuting (replica : Nat) (id : String)
  | deleteExecuting (replica : Nat) (id : String)
  | hasExecuting (replica : Nat) (id : String)
  /-- An operation of a run begins. -/
  | perform (id : String) (index : Nat)

/-- `affected` of an update is the number of rows it has changed. -/
abbrev JournalCall.Reply : JournalCall → Type
  | .insert _ => Except JournalError Unit
  | .findActive _ | .findOne _ _ => Except JournalError (Option ConfigImportRun)
  | .update _ _ => Except JournalError Nat
  | .hasExecuting _ _ => Bool
  | .addExecuting _ _ | .deleteExecuting _ _ | .perform _ _ => Unit

/-- The connection to the database: calls may not arrive, and answers may be lost. -/
inductive Connection where
  | up
  | down
  | lossy
  deriving DecidableEq

/-- **What all replicas share**, and the sets of runs that they execute. -/
structure JournalStore where
  runs : UniqueTable ConfigImportRun.id ConfigImportRun.activeTenant
  executing : Nat → List String
  connection : Connection

def updated (runs : UniqueTable ConfigImportRun.id ConfigImportRun.activeTenant)
    (criteria : Criteria) (patch : Patch) :
    UniqueTable ConfigImportRun.id ConfigImportRun.activeTenant :=
  runs.updateWhere criteria.selects patch.apply (fun _ => rfl) (by
    intro run tenant h
    unfold Patch.apply at h
    dsimp only at h
    split at h
    · cases h
    · exact h)

def deliver {α : Type} (s : JournalStore) (reply : Except JournalError α)
    (runs : UniqueTable ConfigImportRun.id ConfigImportRun.activeTenant) :
    Except JournalError α × JournalStore :=
  match s.connection with
  | .up => (reply, { s with runs })
  | .lossy => (.error .database, { s with runs })
  | .down => (.error .database, s)

def JournalCall.answer : (op : JournalCall) → JournalStore → op.Reply × JournalStore
  | .insert run, s =>
    match s.runs.insert run with
    | some runs => deliver s (.ok ()) runs
    | none => deliver s (.error .constraint) s.runs
  | .findActive tenantId, s =>
    deliver s (.ok (s.runs.find fun run => run.activeTenant == some tenantId)) s.runs
  | .findOne tenantId id, s =>
    deliver s (.ok (s.runs.find fun run => run.tenantId == tenantId && run.id == id)) s.runs
  | .update criteria patch, s =>
    deliver s (.ok (s.runs.count criteria.selects)) (updated s.runs criteria patch)
  | .addExecuting replica id, s =>
    ((), { s with executing := Function.update s.executing replica (id :: s.executing replica) })
  | .deleteExecuting replica id, s =>
    ((), { s with executing :=
      Function.update s.executing replica ((s.executing replica).filter (· != id)) })
  | .hasExecuting replica id, s => ((s.executing replica).contains id, s)
  | .perform _ _, s => ((), s)

/-! ## `ConfigImportJournalService` -/

abbrev JournalApi := Prog JournalCall.Reply JournalError

def owning (run : ConfigImportRun) : Criteria where
  id := run.id
  tenantId := run.tenantId
  status := .running
  activeTenant := run.tenantId

def updateOne (criteria : Criteria) (patch : Patch) (error : JournalError) : JournalApi Unit := do
  let affected ← (invoke (JournalCall.update criteria patch)).bind ofExcept
  ensure (affected == 1) error

def checkpoint (run : ConfigImportRun) : JournalApi Unit :=
  updateOne (owning run)
    { operations := some run.operations
      planFingerprint := some run.planFingerprint } .lockLost

def finish (run : ConfigImportRun) (status : RunStatus) : JournalApi Unit :=
  updateOne (owning run)
    { status := some status
      release := true
      operations := some run.operations } .interrupted

abbrev Execution := ConfigImportRun → JournalApi (ConfigImportRun × Except JournalError Unit)

/-- `finish`, or else a `persistenceFailure`. -/
def finalize (run : ConfigImportRun) (status : RunStatus) : JournalApi Unit := do
  match ← (finish run status).attempt with
  | .ok () => return ()
  | .error _ => fail (.journalWriteFailed run.id run.operations)

def executeRun (execute : Execution) (run : ConfigImportRun) : JournalApi Unit := do
  let (run, result) ← execute run
  finalize run (if result.isOk then .completed else .failed)
  ofExcept result

/-- A run that is not inserted: another holds the lock, or the database has failed. -/
def refuse (tenantId : String) (error : JournalError) : JournalApi Unit := do
  let active ← (invoke (JournalCall.findActive tenantId)).bind ofExcept
  match active with
  | some active => fail (.writerActive active.id)
  | none => fail error

/-- `try … finally` around the execution. -/
def executing (replica : Nat) (execute : Execution) (run : ConfigImportRun) : JournalApi Unit := do
  invoke (JournalCall.addExecuting replica run.id)
  let result ← (executeRun execute run).attempt
  invoke (JournalCall.deleteExecuting replica run.id)
  ofExcept result

def newRun (id tenantId : String) (mode : RunMode) : ConfigImportRun where
  id
  tenantId
  mode
  activeTenant := some tenantId

/-- **`run`**, with the id that it draws. -/
def run (replica : Nat) (id tenantId : String) (mode : RunMode) (execute : Execution) :
    JournalApi Unit := do
  match ← invoke (JournalCall.insert (newRun id tenantId mode)) with
  | .ok () => executing replica execute (newRun id tenantId mode)
  | .error error => refuse tenantId error

def get (tenantId id : String) : JournalApi ConfigImportRun := do
  let found ← (invoke (JournalCall.findOne tenantId id)).bind ofExcept
  getOrFail .notFound found

def interrupt (replica : Nat) (run : ConfigImportRun) (tenantId id : String) :
    JournalApi ConfigImportRun := do
  let executing ← invoke (JournalCall.hasExecuting replica id)
  ensure (!executing) .stillExecuting
  updateOne
    { tenantId
      id
      status := .running
      activeTenant := tenantId
      revision := some run.revision }
    { status := some .interrupted
      release := true } .progressed
  get tenantId id

def acknowledgeInterruption (replica : Nat) (tenantId id : String) :
    JournalApi ConfigImportRun := do
  let run ← get tenantId id
  if run.status = .running then interrupt replica run tenantId id else return run

/-! ## What runs under the journal -/

/-- One operation begins, and ends as `outcome` says. -/
def perform (id : String) (index : Nat) (outcome : Except JournalError Unit) :
    JournalApi Unit := do
  invoke (JournalCall.perform id index)
  ofExcept outcome

def step (run : ConfigImportRun) (p : JournalApi Unit)
    (next : JournalApi (ConfigImportRun × Except JournalError Unit)) :
    JournalApi (ConfigImportRun × Except JournalError Unit) := do
  match ← p.attempt with
  | .ok () => next
  | .error error => return (run, .error error)

/-- The plan of a bundle, with the operations that `add` collects. -/
structure BundlePlan where
  planFingerprint : Option String
  applicable : Bool
  operations : List ConfigApplyOperation

structure BundleImport where
  mode : ConfigImportMode
  reattach : Bool
  plan : Except JournalError BundlePlan
  expectedFingerprint : Option String
  outcome : Nat → Except JournalError Unit

/-- The body of the `try` of one operation. -/
def applyOperation (outcome : Nat → Except JournalError Unit) (run : ConfigImportRun)
    (index : Nat) : JournalApi Unit := do
  checkpoint (run.setStatus index .running)
  perform run.id index (outcome index)
  checkpoint (run.setStatus index .completed)

def applyOperations (outcome : Nat → Except JournalError Unit) : List Nat → Execution
  | [], run => return (run, .ok ())
  | index :: indexes, run => do
    match ← (applyOperation outcome run index).attempt with
    | .ok () => applyOperations outcome indexes (run.setStatus index .completed)
    | .error _ =>
      let failed := run.setStatus index .failed
      return (failed, .error (.applyFailed run.id failed.operations))

def applyLocked (bundle : BundleImport) : Execution := fun run =>
  match bundle.plan with
  | .error error => return (run, .error error)
  | .ok plan =>
    if truthy bundle.expectedFingerprint && plan.planFingerprint != bundle.expectedFingerprint then
      return (run, .error (.planStale run.id))
    else
      let planned := { run with planFingerprint := plan.planFingerprint }
      if !plan.applicable then return (planned, .error (.applyBlocked run.id))
      else
        let collected := { planned with operations := plan.operations }
        step collected (checkpoint collected)
          (applyOperations bundle.outcome (List.range plan.operations.length) collected)

/-- A request that changes a resource or uploads an asset: what `assertMutable` says, and how its
handler and the write to its ownership end. -/
structure ApiMutation where
  matched : Option ResourceRef
  assetUpload : Bool
  delete : Bool
  mutability : Except JournalError Unit
  outcome : Nat → Except JournalError Unit

/-- The execution of `ConfigGenerationInterceptor`. -/
def intercept (mutation : ApiMutation) : Execution := fun run =>
  let started := { run with operations :=
    [{ stage := if mutation.assetUpload then .asset else .resource
       ref := mutation.matched
       status := .running }] }
  let handled := started.setStatus 0 .completed
  let recording := { handled with operations := handled.operations ++
    [{ stage := if mutation.delete then .deleteOwnership else .ownership
       ref := mutation.matched
       status := .running }] }
  step run (onlyIf mutation.matched.isSome () (ofExcept mutation.mutability)) <|
    step started (checkpoint started) <|
    step started (perform run.id 0 (mutation.outcome 0)) <|
    if mutation.matched.isNone then return (handled, .ok ())
    else
      step recording (checkpoint recording) <|
      step recording (perform run.id 1 (mutation.outcome 1)) <|
      return (recording.setStatus 1 .completed, .ok ())

/-- The execution of `detach`, which records no operation. -/
def detach (outcome : Except JournalError Unit) : Execution := fun run =>
  step run (perform run.id 0 outcome) (return (run, .ok ()))

/-! ## The journal under any number of requests -/

inductive Writer where
  | apply (bundle : BundleImport)
  | mutate (mutation : ApiMutation)
  | detach (outcome : Except JournalError Unit)

def Writer.mode : Writer → RunMode
  | .apply bundle => if bundle.reattach then .reattach else .bundle bundle.mode
  | .mutate _ => .api
  | .detach _ => .detach

def Writer.execute : Writer → Execution
  | .apply bundle => applyLocked bundle
  | .mutate mutation => intercept mutation
  | .detach outcome => ImportJournal.detach outcome

inductive JournalRequest where
  | write (replica : Nat) (id tenantId : String) (writer : Writer)
  | acknowledge (replica : Nat) (tenantId id : String)

def JournalRequest.runId? : JournalRequest → Option String
  | .write _ id _ _ => some id
  | .acknowledge _ _ _ => none

def JournalRequest.program : JournalRequest → JournalApi (Option ConfigImportRun)
  | .write replica id tenantId writer => do
    run replica id tenantId writer.mode writer.execute
    return none
  | .acknowledge replica tenantId id => do
    let run ← acknowledgeInterruption replica tenantId id
    return some run

/-- A replica crashes and comes back with no run, or the connection changes. -/
inductive Surroundings where
  | crash (replica : Nat)
  | connect (connection : Connection)

def Surroundings.apply : Surroundings → JournalStore → JournalStore
  | .crash replica, s => { s with executing := Function.update s.executing replica [] }
  | .connect connection, s => { s with connection }

/-- **The journal under any number of requests.**  A request that is no longer resumed has crashed
with its replica. -/
def journal : System JournalCall.Reply JournalStore Surroundings JournalRequest JournalError
    (Option ConfigImportRun) where
  answer := JournalCall.answer
  drift := Surroundings.apply
  program := JournalRequest.program

def JournalStore.empty : JournalStore where
  runs := .empty
  executing _ := []
  connection := .up

end ImportJournal

end Eudiplo
