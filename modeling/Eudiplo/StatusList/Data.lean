import Eudiplo.Concurrency.System
import Eudiplo.Shared.Values
import Eudiplo.Storage.Table
import Mathlib

/-!
# Status lists, their mappings and the active-credential slots

The three tables behind the status list service with the calls it makes on them, and the
questions it puts to the outside: the tenant's configuration, key chains, signatures.

A transaction of the service reads rows and then makes one write that the version of the list
decides; its reads are calls of their own and its writes are one call, which either takes effect
as a whole or changes nothing.
-/

namespace Eudiplo

/-! ## Status values -/

inductive BitsPerStatus where
  | one
  | two
  | four
  | eight
  deriving DecidableEq

def BitsPerStatus.bits : BitsPerStatus → Nat
  | .one => 1
  | .two => 2
  | .four => 4
  | .eight => 8

/-- `STATUS_REVOKED`: Token Status List `0x01 INVALID`. -/
def STATUS_REVOKED : Nat := 1

/-- An element of a stored list; a hole in the array is stored as `null`. -/
abbrev StatusElement := Option Nat

def statusValueFits (value : StatusElement) (bits : BitsPerStatus) : Bool :=
  value.any fun v => decide (v ≤ 2 ^ bits.bits - 1)

/-- `statusTransitionAllowed`: revocation is final. -/
def statusTransitionAllowed (current next : Nat) : Bool :=
  current != STATUS_REVOKED || next == STATUS_REVOKED

/-- `elements[index] ?? 0`. -/
def statusAt (elements : List StatusElement) (index : Nat) : Nat := (elements[index]?.join).getD 0

/-- `elements[index] = value`: beyond the end the array grows, with holes. -/
def assignStatus (elements : List StatusElement) (index value : Nat) : List StatusElement :=
  (elements ++ List.replicate (index + 1 - elements.length) none).set index (some value)

theorem length_assignStatus {elements : List StatusElement} {index : Nat} (value : Nat)
    (h : index < elements.length) :
    (assignStatus elements index value).length = elements.length := by
  simp only [assignStatus, List.length_set, List.length_append, List.length_replicate]
  omega

theorem statusAt_assignStatus_self (elements : List StatusElement) (index value : Nat) :
    statusAt (assignStatus elements index value) index = value := by
  have hlt : index < (elements ++ List.replicate (index + 1 - elements.length)
      (none : StatusElement)).length := by
    simp only [List.length_append, List.length_replicate]
    omega
  rw [statusAt, assignStatus, List.getElem?_set_self hlt]
  rfl

theorem statusAt_assignStatus_ne (elements : List StatusElement) {index i : Nat} (value : Nat)
    (h : index ≠ i) : statusAt (assignStatus elements index value) i = statusAt elements i := by
  rw [statusAt, assignStatus, List.getElem?_set_ne h, List.getElem?_append, statusAt]
  split
  · rfl
  · rename_i hge
    rw [List.getElem?_eq_none (Nat.le_of_not_lt hge), List.getElem?_replicate]
    split <;> rfl

def findOutOfRangeStatusIndexes (elements : List StatusElement) (bits : BitsPerStatus) :
    List Nat :=
  (List.range elements.length).filter fun i => !statusValueFits elements[i]?.join bits

def BITS_PER_STATUS : List BitsPerStatus := [.one, .two, .four, .eight]

def MAX_LISTED_INDEXES : Nat := 20

def bitsLabel (bits : BitsPerStatus) : String :=
  if bits = .one then "1 bit" else toString bits.bits ++ " bits"

def formatIndexes (indexes : List Nat) : String :=
  let listed := ", ".intercalate ((indexes.take MAX_LISTED_INDEXES).map toString)
  if MAX_LISTED_INDEXES < indexes.length then
    listed ++ " and " ++ toString (indexes.length - MAX_LISTED_INDEXES) ++ " more"
  else listed

/-- The message of `StatusListValuesOutOfRange`. -/
def describeValuesOutOfRange (listId : String) (bits : BitsPerStatus) (indexes : List Nat) :
    String :=
  "Status list " ++ listId ++ " stores values that do not fit its " ++ bitsLabel bits ++
    " per entry at " ++ (if indexes.length = 1 then "index" else "indexes") ++ " " ++
    formatIndexes indexes ++ ". Encoding them would change the status of neighbouring " ++
    "entries, so no status list token is published until these entries are set to a value " ++
    "the list can hold, for example 1 (revoked)."

/-- `describeValueOutOfRange`, for the lists that are too narrow. -/
def describeValueOutOfRange (value : Nat) (lists : List (String × BitsPerStatus)) : String :=
  let label := "Status " ++ toString value ++
    match value with
    | 0 => " (valid)"
    | 1 => " (revoked)"
    | 2 => " (suspended)"
    | _ => ""
  match BITS_PER_STATUS.find? (statusValueFits (some value)) with
  | none =>
    label ++ " cannot be stored in a status list; status values are integers from 0 to 255."
  | some requiredBits =>
    label ++ " requires a status list with at least " ++ bitsLabel requiredBits ++
      " per entry; " ++
      ", ".intercalate (lists.map fun list => "list " ++ list.1 ++ " uses " ++ bitsLabel list.2) ++
      "."

/-- The message of `RevokedStatusIsFinal`. -/
def describeRevokedStatus (next : Nat) : String :=
  "A revoked credential cannot be " ++ (if next = 0 then "reinstated" else "suspended") ++
    ": revocation is final."

/-! ## Rows -/

structure StatusListToken where
  iss : Option String
  sub : String
  iat : Nat
  exp : Nat
  ttl : Nat
  bits : BitsPerStatus
  lst : String
  aggregation_uri : Option String
  keyId : String
  deriving DecidableEq

structure StatusListEntity where
  id : String
  tenantId : String
  credentialConfigurationId : Option String
  keyChainId : Option String
  elements : List StatusElement
  stack : List Nat
  bits : BitsPerStatus
  jwt : Option StatusListToken := none
  cwt : Option StatusListToken := none
  expiresAt : Option Time := none
  version : Nat := 1
  deriving DecidableEq

abbrev ListKey := String × String

def StatusListEntity.key (list : StatusListEntity) : ListKey := (list.tenantId, list.id)

structure StatusMapping where
  tenantId : String
  sessionId : String
  statusListId : String
  list : String
  index : Nat
  credentialConfigurationId : String
  issuanceSetId : Option String
  deriving DecidableEq

def StatusMapping.listKey (m : StatusMapping) : ListKey := (m.tenantId, m.statusListId)

/-- `UQ_status_mapping_tenant_list_index`. -/
def StatusMapping.key (m : StatusMapping) : ListKey × Nat := (m.listKey, m.index)

/-- The subject of a slot, `UQ_active_credential_slot_subject`. -/
structure SlotKey where
  tenantId : String
  credentialConfigurationId : String
  subjectScopedKey : String
  deriving DecidableEq

structure ActiveCredentialSlot where
  key : SlotKey
  issuanceSetId : Option String
  version : Nat := 1
  deriving DecidableEq

/-! ## Errors -/

inductive StatusError where
  /-- `ConflictException` -/
  | conflict (message : String)
  /-- `NotFoundException` -/
  | notFound (message : String)
  /-- `BadRequestException` -/
  | badRequest (message : String)
  /-- `ServiceUnavailableException` -/
  | serviceUnavailable (message : String)
  /-- `StatusListValuesOutOfRange` -/
  | valuesOutOfRange (message : String)
  /-- `RevokedStatusIsFinal` -/
  | revokedStatusIsFinal (message : String)
  /-- A database error with its code, or another error of the parts around. -/
  | other (code : Option String) (message : String)
  deriving DecidableEq

def StatusError.message : StatusError → String
  | .conflict m | .notFound m | .badRequest m | .serviceUnavailable m | .valuesOutOfRange m
  | .revokedStatusIsFinal m | .other _ m => m

/-- The codes of `isRetryableConcurrencyError`. -/
def retryableCodes : List String :=
  ["23505", "40001", "40P01", "SQLITE_BUSY", "SQLITE_BUSY_SNAPSHOT", "SQLITE_LOCKED"]

def isRetryableConcurrencyError (error : StatusError) : Bool :=
  (match error with
  | .conflict _ => true
  | .other (some code) _ => retryableCodes.contains code
  | _ => false) ||
    includes error.message.toLower "version" ||
    includes error.message.toLower "unique constraint" ||
    includes error.message.toLower "database is locked"

def uniqueViolation : StatusError := .other (some "23505") "duplicate key value"

/-! ## Calls -/

/-- The bindings `updateList` may change; a new key chain drops the cached tokens. -/
structure ListBinding where
  credentialConfigurationId : Option (Option String) := none
  keyChainId : Option (Option String) := none
  deriving DecidableEq

/-- `Repository<StatusListEntity>`; the updates are conditional on the version. -/
inductive ListCall where
  | findOneBy (key : ListKey)
  | findByConfiguration (tenantId : String) (credentialConfigurationId : Option String)
  | findByIds (tenantId : String) (ids : List String)
  | save (list : StatusListEntity)
  | insert (list : StatusListEntity)
  | updateTokens (key : ListKey) (version : Nat) (jwt cwt : StatusListToken) (expiresAt : Time)
  | updateElements (key : ListKey) (version : Nat) (elements : List StatusElement)
  | updateBinding (key : ListKey) (version : Nat) (changes : ListBinding)
  /-- The writes of the allocation transaction: the stack, and the mapping. -/
  | allocate (key : ListKey) (version : Nat) (stack : List Nat) (mapping : StatusMapping)
  /-- The mappings of the list go with it. -/
  | delete (key : ListKey)
  deriving DecidableEq

/-- How the writes of a transaction end; one that fails is rolled back. -/
inductive TransactionOutcome where
  | committed
  | versionChanged
  | failed (error : StatusError)
  deriving DecidableEq

/-- `Repository<StatusMapping>`. -/
inductive MappingCall where
  | findBySession (tenantId sessionId : String) (credentialConfigurationId : Option String)
  | findByIssuanceSet (tenantId credentialConfigurationId issuanceSetId : String)
  | countBy (key : ListKey)
  deriving DecidableEq

/-- `Repository<ActiveCredentialSlot>`. -/
inductive SlotCall where
  | findOne (key : SlotKey)
  | insert (slot : ActiveCredentialSlot)
  | update (key : SlotKey) (version : Nat) (issuanceSetId : String)
  deriving DecidableEq

/-- `StatusListConfig`, as far as tokens and updates depend on it. -/
structure StatusListConfig where
  ttl : Nat
  immediateUpdate : Bool
  enableAggregation : Bool

inductive StatusQuestion where
  | effectiveCapacity (tenantId : String)
  | effectiveBits (tenantId : String)
  | effectiveConfig (tenantId : String)
  /-- The key chain with this id, or else the tenant's default; the answer is its key. -/
  | findCert (tenantId : String) (keyChainId : Option String)
  | signJwt (token : StatusListToken)
  | signCwt (token : StatusListToken)
  | deriveSubjectKey (tenantId credentialConfigurationId iss sub : String)
  deriving DecidableEq

abbrev StatusQuestion.Payload : StatusQuestion → Type
  | .effectiveCapacity _ => Nat
  | .effectiveBits _ => BitsPerStatus
  | .effectiveConfig _ => StatusListConfig
  | .findCert .. => Option String
  | .signJwt _ | .signCwt _ => Unit
  | .deriveSubjectKey .. => String

inductive StatusCall where
  | lists (c : ListCall)
  | mappings (c : MappingCall)
  | slots (c : SlotCall)
  /-- `Date.now()` -/
  | now
  /-- `v4()` -/
  | uuid
  /-- The values `randomInt` gives one shuffle, by the bound. -/
  | dice
  | ask (q : StatusQuestion)

abbrev ListCall.Result : ListCall → Type
  | .findOneBy _ => Option StatusListEntity
  | .findByConfiguration .. | .findByIds .. => List StatusListEntity
  | .save _ => StatusListEntity
  | .insert _ | .updateTokens .. | .updateBinding .. => Bool
  | .updateElements .. | .allocate .. => TransactionOutcome
  | .delete _ => Unit

abbrev MappingCall.Result : MappingCall → Type
  | .findBySession .. | .findByIssuanceSet .. => List StatusMapping
  | .countBy _ => Nat

abbrev SlotCall.Result : SlotCall → Type
  | .findOne _ => Option ActiveCredentialSlot
  | .insert _ | .update .. => Bool

abbrev StatusCall.Result : StatusCall → Type
  | .lists c => c.Result
  | .mappings c => c.Result
  | .slots c => c.Result
  | .now => Time
  | .uuid => String
  | .dice => Nat → Nat
  | .ask q => Except StatusError q.Payload

/-! ## The store -/

/-- The code around the service: the values `v4` and `randomInt` draw, how a list of
statuses is compressed, the transactions the database refuses, and the answers to questions,
which may differ from one question to the next. -/
structure StatusWorld where
  publicUrl : String
  uuid : Nat → String
  dice : Nat → Nat → Nat
  compressStatusList : BitsPerStatus → List StatusElement → String
  /-- The database errors that end a transaction. -/
  fault : Nat → Option StatusError
  answer : (q : StatusQuestion) → Nat → Except StatusError q.Payload

abbrev ListTable := Storage.Table StatusListEntity.key

abbrev MappingTable := Storage.Table StatusMapping.key

abbrev SlotTable := Storage.Table ActiveCredentialSlot.key

/-- The three tables, the clock, and how often values were drawn, transactions ended and
questions asked. -/
structure StatusStore where
  clock : Time
  lists : ListTable
  mappings : MappingTable
  slots : SlotTable
  draws : Nat := 0
  shuffles : Nat := 0
  transactions : Nat := 0
  asked : Nat := 0

/-- The row an `update({ id, tenantId, version })` selects. -/
def StatusListEntity.selects (key : ListKey) (version : Nat) (list : StatusListEntity) : Bool :=
  list.key == key && list.version == version

/-- The row with this key after `save(list)`, which names neither tokens nor version. -/
def StatusListEntity.mergeInto (list row : StatusListEntity) : StatusListEntity :=
  { list with
    id := row.id, tenantId := row.tenantId, jwt := row.jwt, cwt := row.cwt
    expiresAt := row.expiresAt, version := row.version + 1 }

/-- The row after `updateList` changed its bindings. -/
def StatusListEntity.bind (changes : ListBinding) (list : StatusListEntity) : StatusListEntity :=
  { list with
    credentialConfigurationId :=
      changes.credentialConfigurationId.getD list.credentialConfigurationId
    keyChainId := changes.keyChainId.getD list.keyChainId
    jwt := if changes.keyChainId.isSome then none else list.jwt
    cwt := if changes.keyChainId.isSome then none else list.cwt
    expiresAt := if changes.keyChainId.isSome then none else list.expiresAt }

def StatusListEntity.withVersion (list : StatusListEntity) (version : Nat) : StatusListEntity :=
  { list with version }

@[simp] theorem withVersion_key (list : StatusListEntity) (version : Nat) :
    (list.withVersion version).key = list.key := rfl

def updateVersioned (t : ListTable) (key : ListKey) (version : Nat)
    (f : StatusListEntity → StatusListEntity) (hf : ∀ r, (f r).key = r.key) : ListTable :=
  t.updateWhere (·.selects key version) (fun r => (f r).withVersion (r.version + 1))
    fun r => (withVersion_key _ _).trans (hf r)

/-- Does the list with this key have this version? -/
def hasVersion (t : ListTable) (key : ListKey) (version : Nat) : Bool :=
  (t.get key).any fun r => r.version == version

/-- The end of a transaction that writes `lists` and `mappings` if the version it read is the
`current` one; the database may refuse it. -/
def StatusStore.transaction (w : StatusWorld) (s : StatusStore) (current : Bool)
    (lists : ListTable) (mappings : MappingTable) : TransactionOutcome × StatusStore :=
  if !current then (.versionChanged, s)
  else match w.fault s.transactions with
  | some error => (.failed error, { s with transactions := s.transactions + 1 })
  | none => (.committed, { s with lists, mappings, transactions := s.transactions + 1 })

def ListCall.answer (w : StatusWorld) (s : StatusStore) : (c : ListCall) → c.Result × StatusStore
  | .findOneBy key => (s.lists.get key, s)
  | .findByConfiguration tenantId configuration =>
    (s.lists.select fun r => r.tenantId == tenantId && r.credentialConfigurationId == configuration,
      s)
  | .findByIds tenantId ids =>
    (s.lists.select fun r => r.tenantId == tenantId && ids.contains r.id, s)
  | .save list =>
    (list, { s with lists := s.lists.upsert list (list.mergeInto ·) fun _ => rfl })
  | .insert list =>
    if (s.lists.get list.key).isSome then (false, s)
    else (true, { s with lists := s.lists.upsert list id fun _ => rfl })
  | .updateTokens key version jwt cwt expiresAt =>
    (hasVersion s.lists key version,
      { s with
        lists := updateVersioned s.lists key version
          (fun r => { r with jwt := some jwt, cwt := some cwt, expiresAt := some expiresAt })
          fun _ => rfl })
  | .updateElements key version elements =>
    s.transaction w (hasVersion s.lists key version)
      (updateVersioned s.lists key version (fun r => { r with elements }) fun _ => rfl) s.mappings
  | .updateBinding key version changes =>
    (hasVersion s.lists key version,
      { s with lists := updateVersioned s.lists key version (·.bind changes) fun _ => rfl })
  | .allocate key version stack mapping =>
    if hasVersion s.lists key version && (s.mappings.get mapping.key).isSome then
      (.failed uniqueViolation, s)
    else s.transaction w (hasVersion s.lists key version)
      (updateVersioned s.lists key version (fun r => { r with stack }) fun _ => rfl)
      (s.mappings.upsert mapping id fun _ => rfl)
  | .delete key =>
    ((), { s with
      lists := s.lists.deleteWhere fun r => r.key == key
      mappings := s.mappings.deleteWhere fun m => m.listKey == key })

def MappingCall.answer (t : MappingTable) : (c : MappingCall) → c.Result
  | .findBySession tenantId sessionId configuration =>
    t.select fun m => m.tenantId == tenantId && m.sessionId == sessionId &&
      configuration.all (m.credentialConfigurationId == ·)
  | .findByIssuanceSet tenantId configuration issuanceSetId =>
    t.select fun m => m.tenantId == tenantId && m.credentialConfigurationId == configuration &&
      m.issuanceSetId == some issuanceSetId
  | .countBy key => t.count fun m => m.listKey == key

def SlotCall.answer (t : SlotTable) : (c : SlotCall) → c.Result × SlotTable
  | .findOne key => (t.get key, t)
  | .insert slot =>
    if (t.get slot.key).isSome then (false, t) else (true, t.upsert slot id fun _ => rfl)
  | .update key version issuanceSetId =>
    ((t.get key).any fun r => r.version == version,
      t.updateWhere (fun r => r.key == key && r.version == version)
        (fun r => { r with issuanceSetId := some issuanceSetId, version := r.version + 1 })
        fun _ => rfl)

/-- **What the store answers to a call.** -/
def StatusCall.answer (w : StatusWorld) : (c : StatusCall) → StatusStore → c.Result × StatusStore
  | .lists c, s => c.answer w s
  | .mappings c, s => (c.answer s.mappings, s)
  | .slots c, s => ((c.answer s.slots).1, { s with slots := (c.answer s.slots).2 })
  | .now, s => (s.clock, s)
  | .uuid, s => (w.uuid s.draws, { s with draws := s.draws + 1 })
  | .dice, s => (w.dice s.shuffles, { s with shuffles := s.shuffles + 1 })
  | .ask q, s => (w.answer q s.asked, { s with asked := s.asked + 1 })

end Eudiplo
