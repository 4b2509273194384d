import Eudiplo.StatusList.Data

/-!
# The status list service

`StatusListService`: creating, importing, updating and deleting lists, their tokens, the
allocation of entries with the active-credential limit, and status updates.

Waiting between attempts is left out: a schedule decides when a handler takes its next call.
-/

namespace Eudiplo

open Concurrency Prog

abbrev StatusProg := Prog StatusCall.Result StatusError

/-- Await a call of `statusListRepository`. -/
def statusLists (c : ListCall) : StatusProg c.Result := invoke (StatusCall.lists c)

/-- Await a call of `statusMappingRepository`. -/
def statusMappings (c : MappingCall) : StatusProg c.Result := invoke (StatusCall.mappings c)

/-- Await a call of `activeCredentialSlotRepository`. -/
def activeSlots (c : SlotCall) : StatusProg c.Result := invoke (StatusCall.slots c)

def askStatus (q : StatusQuestion) : StatusProg q.Payload :=
  (invoke (StatusCall.ask q)).bind ofExcept

def maxRetries : Nat := 3

/-- `retryOnConcurrency`, with `attempts` attempts left. -/
def retryOnConcurrency {α : Type} (operation : StatusProg α) (unavailableMessage : String) :
    Nat → StatusProg α
  | 0 => fail (.serviceUnavailable unavailableMessage)
  | attempts + 1 => do
    match ← attempt operation with
    | .ok a => return a
    | .error e =>
      if isRetryableConcurrencyError e then
        retryOnConcurrency operation unavailableMessage attempts
      else fail e

/-! ## Lists and their tokens -/

def swapAt (xs : List Nat) (i j : Nat) : List Nat :=
  match xs[i]?, xs[j]? with
  | some a, some b => (xs.set i b).set j a
  | _, _ => xs

/-- The rounds of `shuffleArray` from index `i` down, where `dice` gives `randomInt`. -/
def shuffleFrom (dice : Nat → Nat) : Nat → List Nat → List Nat
  | 0, xs => xs
  | i + 1, xs => shuffleFrom dice i (swapAt xs (i + 1) (dice (i + 1) % (i + 2)))

def shuffleArray (dice : Nat → Nat) (xs : List Nat) : List Nat :=
  shuffleFrom dice (xs.length - 1) xs

theorem swapAt_perm (xs : List Nat) (i j : Nat) : (swapAt xs i j).Perm xs := by
  unfold swapAt
  split
  · rename_i a b ha hb
    obtain ⟨hi, rfl⟩ := List.getElem?_eq_some_iff.mp ha
    obtain ⟨hj, rfl⟩ := List.getElem?_eq_some_iff.mp hb
    exact List.set_set_perm hi hj
  · exact .refl _

theorem shuffleFrom_perm (dice : Nat → Nat) (i : Nat) (xs : List Nat) :
    (shuffleFrom dice i xs).Perm xs := by
  induction i generalizing xs with
  | zero => exact .refl _
  | succ i ih => exact (ih _).trans (swapAt_perm _ _ _)

theorem shuffleArray_perm (dice : Nat → Nat) (xs : List Nat) :
    (shuffleArray dice xs).Perm xs := shuffleFrom_perm dice _ xs

def buildStatusListUri (w : StatusWorld) (tenantId listId : String) : String :=
  w.publicUrl ++ "/issuers/" ++ tenantId ++ "/status-management/status-list/" ++ listId

def buildAggregationUri (w : StatusWorld) (tenantId : String) : String :=
  w.publicUrl ++ "/issuers/" ++ tenantId ++ "/status-management/status-list-aggregation"

def keyChainMissing (tenantId : String) (keyChainId : Option String) : String :=
  "Key chain " ++ keyChainId.getD "null" ++ " not found for tenant " ++ tenantId

def requireCert (tenantId : String) (keyChainId : Option String) (missing : StatusError) :
    StatusProg String := do
  let cert ← askStatus (.findCert tenantId keyChainId)
  getOrFail missing cert

/-- `getSigningCert`: the pinned key chain, or else the tenant's default. -/
def getSigningCert (list : StatusListEntity) : StatusProg String :=
  requireCert list.tenantId (if truthy list.keyChainId then list.keyChainId else none)
    (.notFound (keyChainMissing list.tenantId list.keyChainId))

def getListById (tenantId listId : String) : StatusProg StatusListEntity := do
  let list ← statusLists (.findOneBy (tenantId, listId))
  getOrFail (.notFound ("Status list " ++ listId ++ " not found")) list

/-- The token `createListJWT` signs for a list at a time in seconds. -/
def listToken (w : StatusWorld) (list : StatusListEntity) (config : StatusListConfig) (now : Nat)
    (keyId : String) : StatusListToken where
  iss := some w.publicUrl
  sub := buildStatusListUri w list.tenantId list.id
  iat := now
  exp := now + config.ttl
  ttl := config.ttl
  bits := list.bits
  lst := w.compressStatusList list.bits list.elements
  aggregation_uri :=
    if config.enableAggregation then some (buildAggregationUri w list.tenantId) else none
  keyId

/-- **`createListJWT`**: sign both tokens for the list that was read, and cache them if the
list is still at its version. -/
def createListJWT (w : StatusWorld) (list : StatusListEntity) : StatusProg Bool := do
  let outOfRange := findOutOfRangeStatusIndexes list.elements list.bits
  ensure outOfRange.isEmpty
    (.valuesOutOfRange (describeValuesOutOfRange list.id list.bits outOfRange))
  let config ← askStatus (.effectiveConfig list.tenantId)
  let time ← invoke StatusCall.now
  let now := time / 1000
  let keyId ← getSigningCert list
  let jwt := listToken w list config now keyId
  let () ← askStatus (.signJwt jwt)
  let cwt := { jwt with iss := none }
  let () ← askStatus (.signCwt cwt)
  statusLists (.updateTokens list.key list.version jwt cwt (jwt.exp * 1000))

/-- `regenerateListTokens`, with `attempts` attempts left. -/
def regenerateAttempts (w : StatusWorld) (tenantId listId : String) :
    Nat → StatusProg StatusListEntity
  | 0 => fail (.serviceUnavailable
      ("Could not generate current tokens for status list " ++ listId))
  | attempts + 1 => do
    let entry ← getListById tenantId listId
    let cached ← createListJWT w entry
    if cached then getListById tenantId listId else regenerateAttempts w tenantId listId attempts

def regenerateListTokens (w : StatusWorld) (tenantId listId : String) :
    StatusProg StatusListEntity := regenerateAttempts w tenantId listId maxRetries

def getListJwt (w : StatusWorld) (tenantId listId : String) :
    StatusProg (Option StatusListToken) := do
  let list ← getListById tenantId listId
  let now ← invoke StatusCall.now
  if list.jwt.isNone || list.expiresAt.all (· ≤ now) then do
    let list ← regenerateListTokens w tenantId listId
    return list.jwt
  else return list.jwt

def getListCwt (w : StatusWorld) (tenantId listId : String) :
    StatusProg (Option StatusListToken) := do
  let list ← getListById tenantId listId
  let now ← invoke StatusCall.now
  if list.jwt.isNone || list.cwt.isNone || list.expiresAt.all (· ≤ now) then do
    let list ← regenerateListTokens w tenantId listId
    return list.cwt
  else return list.cwt

def MAX_STATUS_LIST_CAPACITY : Nat := 1000000

/-- The options of `createNewList`. -/
structure NewListOptions where
  credentialConfigurationId : Option String := none
  keyChainId : Option String := none
  bits : Option BitsPerStatus := none
  capacity : Option Nat := none

/-- `x ?? await …`. -/
def orAsk {α : Type} (x : Option α) (p : StatusProg α) : StatusProg α :=
  match x with
  | some a => ret a
  | none => p

/-- `new Array(size).fill(0).map(() => 0)`. -/
def newElements (size : Nat) : List StatusElement := List.replicate size (some 0)

def newStack (size : Nat) : StatusProg (List Nat) := do
  let dice ← invoke StatusCall.dice
  return shuffleArray dice (List.range size)

def validateKeyChain (tenantId : String) (given : Bool) (keyChainId : Option String)
    (missing : StatusError) : StatusProg Unit :=
  onlyIf given () ((requireCert tenantId keyChainId missing).bind fun _ => ret ())

def createNewList (w : StatusWorld) (tenantId : String) (options : NewListOptions) :
    StatusProg StatusListEntity := do
  let size ← orAsk options.capacity (askStatus (.effectiveCapacity tenantId))
  ensure (decide (1 ≤ size) && decide (size ≤ MAX_STATUS_LIST_CAPACITY))
    (.badRequest ("Status list capacity must be an integer between 1 and " ++
      toString MAX_STATUS_LIST_CAPACITY))
  let stack ← newStack size
  let bits ← orAsk options.bits (askStatus (.effectiveBits tenantId))
  validateKeyChain tenantId (truthy options.keyChainId) options.keyChainId
    (.notFound (keyChainMissing tenantId options.keyChainId))
  let id ← invoke StatusCall.uuid
  let entry ← statusLists (.save {
    id, tenantId, credentialConfigurationId := options.credentialConfigurationId
    keyChainId := options.keyChainId, elements := newElements size, stack, bits })
  regenerateListTokens w entry.tenantId entry.id

/-! ## Updating, importing and deleting a list -/

/-- The versioned write of `updateList`. -/
def updateBinding (list : StatusListEntity) (updates : ListBinding) : StatusProg Unit := do
  let updated ← statusLists (.updateBinding list.key list.version updates)
  ensure updated (.conflict "Status list changed concurrently; retry the update")

def updateList (w : StatusWorld) (tenantId listId : String) (updates : ListBinding) :
    StatusProg StatusListEntity := do
  let list ← getListById tenantId listId
  validateKeyChain tenantId updates.keyChainId.join.isSome updates.keyChainId.join
    (.notFound (keyChainMissing tenantId updates.keyChainId.join))
  onlyIf (updates.credentialConfigurationId.isSome || updates.keyChainId.isSome) ()
    (updateBinding list updates)
  if updates.keyChainId.isSome then regenerateListTokens w tenantId listId
  else getListById tenantId listId

/-- `StatusListImportDto`. -/
structure StatusListImport where
  id : String
  credentialConfigurationId : Option (Option String) := none
  keyChainId : Option String := none
  capacity : Option Nat := none
  bits : Option BitsPerStatus := none

def processStatusListConfig (w : StatusWorld) (tenantId : String) (config : StatusListImport) :
    StatusProg Unit := do
  match ← statusLists (.findOneBy (tenantId, config.id)) with
  | some existing => do
    ensure (config.capacity.all (· == existing.elements.length) &&
        config.bits.all (· == existing.bits))
      (.badRequest ("An existing status list cannot change capacity or bits; " ++
        "create a new list ID instead"))
    let _ ← updateList w tenantId config.id {
      credentialConfigurationId := config.credentialConfigurationId
      keyChainId := config.keyChainId.map some }
  | none => do
    let size ← orAsk config.capacity (askStatus (.effectiveCapacity tenantId))
    let bits ← orAsk config.bits (askStatus (.effectiveBits tenantId))
    let stack ← newStack size
    validateKeyChain tenantId (truthy config.keyChainId) config.keyChainId
      (.other none (keyChainMissing tenantId config.keyChainId))
    let inserted ← statusLists (.insert {
      id := config.id, tenantId
      credentialConfigurationId := config.credentialConfigurationId.join
      keyChainId := config.keyChainId, elements := newElements size, stack, bits })
    ensure inserted uniqueViolation
    let _ ← regenerateListTokens w tenantId config.id

/-- **`deleteList`**: refused while mappings refer to the list. -/
def deleteList (tenantId listId : String) : StatusProg Unit := do
  let _ ← getListById tenantId listId
  let mappingsCount ← statusMappings (.countBy (tenantId, listId))
  ensure (mappingsCount == 0)
    (.conflict ("Cannot delete status list " ++ listId ++ ": " ++ toString mappingsCount ++
      " credentials are using it"))
  statusLists (.delete (tenantId, listId))

/-! ## Status updates -/

def assertValueFitsLists (value : Nat) (lists : List StatusListEntity) :
    Except StatusError Unit :=
  let tooNarrow := lists.filter fun list => !statusValueFits (some value) list.bits
  if tooNarrow.isEmpty then .ok ()
  else .error (.badRequest
    (describeValueOutOfRange value (tooNarrow.map fun list => (list.id, list.bits))))

def assertStatusTransitionAllowed (current next : Nat) : Except StatusError Unit :=
  if statusTransitionAllowed current next then .ok ()
  else .error (.revokedStatusIsFinal (describeRevokedStatus next))

theorem assertValueFitsLists_ok {value : Nat} {lists : List StatusListEntity} {u : Unit}
    (h : assertValueFitsLists value lists = .ok u) {list : StatusListEntity} (hl : list ∈ lists) :
    statusValueFits (some value) list.bits = true := by
  simp only [assertValueFitsLists] at h
  split at h
  · rename_i hnone
    rw [List.isEmpty_iff, List.filter_eq_nil_iff] at hnone
    simpa using hnone list hl
  · cases h

theorem assertStatusTransitionAllowed_ok {current next : Nat} {u : Unit}
    (h : assertStatusTransitionAllowed current next = .ok u) :
    statusTransitionAllowed current next = true := by
  unfold assertStatusTransitionAllowed at h
  split at h
  · rename_i hallowed
    exact hallowed
  · cases h

def transactionEnd (versionChanged : String) : TransactionOutcome → Except StatusError Unit
  | .committed => .ok ()
  | .versionChanged => .error (.conflict versionChanged)
  | .failed e => .error e

theorem transactionEnd_ok {message : String} {outcome : TransactionOutcome} {u : Unit}
    (h : transactionEnd message outcome = .ok u) : outcome = .committed := by
  cases outcome with
  | committed => rfl
  | versionChanged => cases h
  | failed e => cases h

def setEntryTransaction (listId : String) (index value : Nat) (tenantId : String) :
    StatusProg Unit := do
  let found ← statusLists (.findOneBy (tenantId, listId))
  let entry ← getOrFail
    (.notFound ("Status list " ++ listId ++ " not found for tenant " ++ tenantId)) found
  ofExcept (assertValueFitsLists value [entry])
  ofExcept (assertStatusTransitionAllowed (statusAt entry.elements index) value)
  let outcome ← statusLists (.updateElements (tenantId, listId) entry.version
    (assignStatus entry.elements index value))
  ofExcept (transactionEnd "Status list version changed concurrently" outcome)

/-- `regenerateListTokensAfterUpdate`: a list that cannot be encoded is not an error here. -/
def regenerateListTokensAfterUpdate (w : StatusWorld) (tenantId listId : String) :
    StatusProg Unit := do
  match ← attempt (regenerateListTokens w tenantId listId) with
  | .ok _ => return ()
  | .error (.valuesOutOfRange _) => return ()
  | .error e => fail e

/-- `setEntryWithRetry`: one attempt at an entry, and then the tokens. -/
def setEntryWithRetry (w : StatusWorld) (listId : String) (index value : Nat)
    (tenantId : String) : StatusProg Unit := do
  setEntryTransaction listId index value tenantId
  let config ← askStatus (.effectiveConfig tenantId)
  onlyIf config.immediateUpdate () (regenerateListTokensAfterUpdate w tenantId listId)

def setEntry (w : StatusWorld) (listId : String) (index value : Nat) (tenantId : String) :
    StatusProg Unit :=
  retryOnConcurrency (setEntryWithRetry w listId index value tenantId)
    "Could not update status entry after maximum retries" maxRetries

def storedStatus (lists : List StatusListEntity) (entry : StatusMapping) : Nat :=
  ((lists.find? fun list => list.id == entry.statusListId).map
    fun list => statusAt list.elements entry.index).getD 0

/-- The error `setEntries` throws for one of its parts. -/
def setEntriesError : StatusError → StatusError
  | .revokedStatusIsFinal message => .conflict message
  | e => e

/-- The checks and the writes of `setEntries`, inside its `try`. -/
def checkAndSetEntries (w : StatusWorld) (tenantId : String) (lists : List StatusListEntity)
    (entries : List StatusMapping) (value : Nat) : StatusProg Unit := do
  each (fun entry => ofExcept (assertStatusTransitionAllowed (storedStatus lists entry) value))
    entries
  each (fun entry => setEntry w entry.statusListId entry.index value tenantId) entries

def setEntries (w : StatusWorld) (tenantId : String) (entries : List StatusMapping)
    (value : Nat) : StatusProg Unit :=
  onlyIf (!entries.isEmpty) () do
    let lists ← statusLists
      (.findByIds tenantId (entries.map (·.statusListId)).eraseDups)
    ofExcept (assertValueFitsLists value lists)
    match ← attempt (checkAndSetEntries w tenantId lists entries value) with
    | .ok () => return ()
    | .error e => fail (setEntriesError e)

/-- `StatusUpdateDto`. -/
structure StatusUpdate where
  sessionId : String
  credentialConfigurationId : Option String
  status : Nat

def updateStatus (w : StatusWorld) (tenantId : String) (value : StatusUpdate) :
    StatusProg Unit := do
  let entries ← statusMappings
    (.findBySession tenantId value.sessionId value.credentialConfigurationId)
  ensure (!entries.isEmpty)
    (.conflict ("No status mapping found for session " ++ value.sessionId ++
      " and credential configuration " ++ value.credentialConfigurationId.getD "undefined"))
  setEntries w tenantId entries value.status

/-! ## The active-credential limit -/

/-- `replaceActiveIssuance` up to the revocation, with `attempts` attempts left: the set the
slot was taken from. -/
def takeSlot (key : SlotKey) (issuanceSetId : String) : Nat → StatusProg (Option String)
  | 0 => ret none
  | attempts + 1 => do
    match ← activeSlots (.findOne key) with
    | none => do
      let inserted ← activeSlots (.insert { key, issuanceSetId := some issuanceSetId })
      if inserted then ret none else takeSlot key issuanceSetId attempts
    | some existing =>
      if existing.issuanceSetId == some issuanceSetId then ret none
      else do
        let advanced ← activeSlots (.update key existing.version issuanceSetId)
        if advanced then ret existing.issuanceSetId else takeSlot key issuanceSetId attempts

def revokeIssuanceSet (w : StatusWorld) (tenantId credentialConfigurationId
    issuanceSetId : String) : StatusProg Unit := do
  let entries ← statusMappings
    (.findByIssuanceSet tenantId credentialConfigurationId issuanceSetId)
  setEntries w tenantId entries STATUS_REVOKED

def replaceActiveIssuance (w : StatusWorld) (key : SlotKey) (issuanceSetId : String) :
    StatusProg Unit := do
  let previousIssuanceSetId ← takeSlot key issuanceSetId maxRetries
  onlyIf (truthy previousIssuanceSetId) ()
    (revokeIssuanceSet w key.tenantId key.credentialConfigurationId
      (previousIssuanceSetId.getD ""))

/-! ## Allocation -/

/-- `EntryAllocationOptions`, for the one entry that is ever asked for. -/
structure EntryAllocationOptions where
  tenantId : String
  sessionId : String
  credentialConfigurationId : String
  issuanceSetId : Option String

structure AllocatedStatusEntry where
  statusListId : String
  index : Nat
  uri : String
  deriving DecidableEq

def findFirstAvailable (lists : List StatusListEntity) : Option StatusListEntity :=
  lists.find? fun list => decide (1 ≤ list.stack.length)

/-- `findAvailableListForAllocation`: lists of the configuration before shared ones. -/
def findAvailableListForAllocation (options : EntryAllocationOptions) :
    StatusProg (Option StatusListEntity) := do
  let dedicatedLists ← statusLists
    (.findByConfiguration options.tenantId (some options.credentialConfigurationId))
  match findFirstAvailable dedicatedLists with
  | some list => return some list
  | none => do
    let sharedLists ← statusLists (.findByConfiguration options.tenantId none)
    return findFirstAvailable sharedLists

def allocatedMapping (w : StatusWorld) (list : StatusListEntity)
    (options : EntryAllocationOptions) (index : Nat) : StatusMapping where
  tenantId := options.tenantId
  sessionId := options.sessionId
  statusListId := list.id
  list := buildStatusListUri w options.tenantId list.id
  index
  credentialConfigurationId := options.credentialConfigurationId
  issuanceSetId := options.issuanceSetId

def allocateFromList (w : StatusWorld) (list : StatusListEntity)
    (options : EntryAllocationOptions) : StatusProg AllocatedStatusEntry := do
  let index ← getOrFail (.conflict "Stack underflow during allocation") list.stack.getLast?
  let outcome ← statusLists (.allocate (options.tenantId, list.id) list.version
    list.stack.dropLast (allocatedMapping w list options index))
  ofExcept (transactionEnd "Status list was modified concurrently" outcome)
  return { statusListId := list.id, index, uri := buildStatusListUri w options.tenantId list.id }

def allocationError (e : StatusError) : StatusError :=
  if isRetryableConcurrencyError e then
    .conflict "Status list index allocation conflict - please retry"
  else e

/-- `allocateEntriesTransaction`; no entry means that a list has to be created. -/
def allocateEntriesTransaction (w : StatusWorld) (options : EntryAllocationOptions) :
    StatusProg (Option AllocatedStatusEntry) := do
  let allocated ← attempt do
    match ← findAvailableListForAllocation options with
    | none => return none
    | some list => do
      let entry ← allocateFromList w list options
      return some entry
  match allocated with
  | .ok entry => return entry
  | .error e => fail (allocationError e)

def createListAndAllocateEntries (w : StatusWorld) (options : EntryAllocationOptions) :
    StatusProg AllocatedStatusEntry := do
  let newList ← createNewList w options.tenantId {}
  ensure (decide (1 ≤ newList.stack.length))
    (.conflict "Status list capacity is smaller than the requested allocation")
  let entry ← allocateEntriesTransaction w options
  getOrFail (.conflict "No status list available after creating a new list") entry

def allocateEntries (w : StatusWorld) (options : EntryAllocationOptions) :
    StatusProg AllocatedStatusEntry := do
  match ← allocateEntriesTransaction w options with
  | some entry => return entry
  | none => createListAndAllocateEntries w options

def allocateAndClaimEntry (w : StatusWorld) (options : EntryAllocationOptions)
    (subjectScopedKey : Option String) : StatusProg AllocatedStatusEntry := do
  let entry ← allocateEntries w options
  onlyIf (truthy subjectScopedKey && truthy options.issuanceSetId) ()
    (replaceActiveIssuance w
      { tenantId := options.tenantId
        credentialConfigurationId := options.credentialConfigurationId
        subjectScopedKey := subjectScopedKey.getD "" }
      (options.issuanceSetId.getD ""))
  return entry

/-- What `createEntry` reads of a session. -/
structure StatusSession where
  id : String
  tenantId : String
  externalIssuer : Option String
  externalSubject : Option String

structure StatusEntryPolicy where
  activeCredentials : Bool
  statusManagement : Bool

def resolveSubjectScopedKey (session : StatusSession) (credentialConfigurationId : String)
    (policy : Option StatusEntryPolicy) : StatusProg (Option String) :=
  if policy.any fun p => p.activeCredentials && p.statusManagement then
    if truthy session.externalIssuer && truthy session.externalSubject then do
      let key ← askStatus (.deriveSubjectKey session.tenantId credentialConfigurationId
        (session.externalIssuer.getD "") (session.externalSubject.getD ""))
      return some key
    else ret none
  else ret none

def createEntry (w : StatusWorld) (session : StatusSession) (credentialConfigurationId : String)
    (policy : Option StatusEntryPolicy) (issuanceSetId : Option String) :
    StatusProg AllocatedStatusEntry := do
  let subjectScopedKey ← resolveSubjectScopedKey session credentialConfigurationId policy
  let activeIssuanceSetId := if truthy subjectScopedKey then issuanceSetId else none
  ensure (!(truthy subjectScopedKey && !truthy activeIssuanceSetId))
    (.conflict "Active credential issuance requires an access token grouping identifier")
  retryOnConcurrency
    (allocateAndClaimEntry w {
      tenantId := session.tenantId, sessionId := session.id, credentialConfigurationId
      issuanceSetId := activeIssuanceSetId } subjectScopedKey)
    "Could not allocate status entry after maximum retries" maxRetries

/-! ## The system -/

inductive StatusRequest where
  | createEntry (session : StatusSession) (credentialConfigurationId : String)
      (policy : Option StatusEntryPolicy) (issuanceSetId : Option String)
  | createNewList (tenantId : String) (options : NewListOptions)
  | updateList (tenantId listId : String) (updates : ListBinding)
  | importList (tenantId : String) (config : StatusListImport)
  | deleteList (tenantId listId : String)
  | updateStatus (tenantId : String) (value : StatusUpdate)
  | getListJwt (tenantId listId : String)
  | getListCwt (tenantId listId : String)

inductive StatusAnswer where
  | entry (entry : AllocatedStatusEntry)
  | list (list : StatusListEntity)
  | token (token : Option StatusListToken)
  | done

def StatusRequest.program (w : StatusWorld) : StatusRequest → StatusProg StatusAnswer
  | .createEntry session configuration policy issuanceSetId =>
    (Eudiplo.createEntry w session configuration policy issuanceSetId).bind (ret ∘ .entry)
  | .createNewList tenantId options =>
    (Eudiplo.createNewList w tenantId options).bind (ret ∘ .list)
  | .updateList tenantId listId updates =>
    (Eudiplo.updateList w tenantId listId updates).bind (ret ∘ .list)
  | .importList tenantId config =>
    (processStatusListConfig w tenantId config).bind fun _ => ret .done
  | .deleteList tenantId listId => (Eudiplo.deleteList tenantId listId).bind fun _ => ret .done
  | .updateStatus tenantId value =>
    (Eudiplo.updateStatus w tenantId value).bind fun _ => ret .done
  | .getListJwt tenantId listId =>
    (Eudiplo.getListJwt w tenantId listId).bind (ret ∘ .token)
  | .getListCwt tenantId listId =>
    (Eudiplo.getListCwt w tenantId listId).bind (ret ∘ .token)

/-- **The status list service under any number of requests.** -/
def statusListService (w : StatusWorld) :
    System StatusCall.Result StatusStore Nat StatusRequest StatusError StatusAnswer where
  answer := StatusCall.answer w
  drift milliseconds s := { s with clock := s.clock + milliseconds }
  program := StatusRequest.program w

end Eudiplo
