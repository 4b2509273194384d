import Eudiplo.Concurrency.Alone
import Eudiplo.Properties.StatusIndexes

/-!
# Are there free entries?

`StatusListService.hasStillFreeEntries` and the search it makes.  Of the lists of the
credential configuration it looks at the oldest one alone, where the allocation takes the
first one with a free entry.
-/

namespace Eudiplo

open Concurrency Prog Storage

/-- `list.stack.length > 0`. -/
def hasFreeEntry (list : StatusListEntity) : Bool := decide (0 < list.stack.length)

/-- The shared lists, of which `findAvailableList` takes the first with a free entry. -/
def findSharedList (tenantId : String) : StatusProg (Option StatusListEntity) := do
  let sharedLists ← statusLists (.findByConfiguration tenantId none)
  return sharedLists.find? hasFreeEntry

/-- `findAvailableList`: the `findOne` of the dedicated lists answers the oldest one. -/
def findAvailableList (tenantId : String) (credentialConfigurationId : Option String) :
    StatusProg (Option StatusListEntity) :=
  if truthy credentialConfigurationId then do
    let dedicatedLists ← statusLists (.findByConfiguration tenantId credentialConfigurationId)
    match dedicatedLists.head? with
    | some dedicatedList =>
      if hasFreeEntry dedicatedList then ret (some dedicatedList) else findSharedList tenantId
    | none => findSharedList tenantId
  else findSharedList tenantId

def hasStillFreeEntries (tenantId : String) (credentialConfigurationId : Option String) :
    StatusProg Bool := do
  let list ← findAvailableList tenantId credentialConfigurationId
  return list.isSome

end Eudiplo

/-!
# What `hasStillFreeEntries` says of an allocation

`hasStillFreeEntries` looks at the oldest list of the credential configuration and at the
shared ones; an allocation looks at every list of the configuration.  The two agree unless
the free entries are all in later lists of the configuration (`predicts_iff`).
-/

namespace Eudiplo

open Concurrency Storage

/-! ## The claim -/

def StatusStore.listsFor (s : StatusStore) (tenantId : String)
    (credentialConfigurationId : Option String) : List StatusListEntity :=
  s.lists.select fun r =>
    r.tenantId == tenantId && r.credentialConfigurationId == credentialConfigurationId

/-- `hasStillFreeEntries` answers true. -/
def PredictsFree (w : StatusWorld) (s : StatusStore) (o : EntryAllocationOptions) : Prop :=
  AnswersAlone (StatusCall.answer w)
    (hasStillFreeEntries o.tenantId (some o.credentialConfigurationId)) s true

/-- The allocation takes an entry of a stored list, and no list has to be created. -/
def AllocatesFromStored (w : StatusWorld) (s : StatusStore) (o : EntryAllocationOptions) : Prop :=
  ∃ entry, AnswersAlone (StatusCall.answer w) (allocateEntriesTransaction w o) s (some entry)

/-- The free indexes of the stored lists carry no mapping. -/
def FreeUnmapped (s : StatusStore) : Prop :=
  ∀ list ∈ s.lists.rows, ∀ i ∈ list.stack, s.mappings.get (list.key, i) = none

/-- **The condition**: a shared list has a free entry, or the oldest list of the configuration
has one, or no list of the configuration has one. -/
def OldestDecides (s : StatusStore) (o : EntryAllocationOptions) : Prop :=
  (∃ list ∈ s.listsFor o.tenantId none, hasFreeEntry list = true) ∨
  (o.credentialConfigurationId ≠ "" ∧
    ∃ list, (s.listsFor o.tenantId (some o.credentialConfigurationId)).head? = some list ∧
      hasFreeEntry list = true) ∨
  ∀ list ∈ s.listsFor o.tenantId (some o.credentialConfigurationId), hasFreeEntry list = false

namespace FreeEntries

variable {w : StatusWorld} {s : StatusStore} {o : EntryAllocationOptions}
  {list : StatusListEntity}

/-! ## The prediction -/

theorem find?_isSome_iff {lists : List StatusListEntity} :
    (lists.find? hasFreeEntry).isSome = true ↔ ∃ list ∈ lists, hasFreeEntry list = true :=
  List.find?_isSome

/-- **What `hasStillFreeEntries` looks at.** -/
theorem predictsFree_iff : PredictsFree w s o ↔
    (∃ list ∈ s.listsFor o.tenantId none, hasFreeEntry list = true) ∨
    (o.credentialConfigurationId ≠ "" ∧
      ∃ list, (s.listsFor o.tenantId (some o.credentialConfigurationId)).head? = some list ∧
        hasFreeEntry list = true) := by
  have hshared : AnswersAlone (StatusCall.answer w)
      ((findSharedList o.tenantId).bind fun list => .ret list.isSome) s true ↔
        ∃ list ∈ s.listsFor o.tenantId none, hasFreeEntry list = true :=
    find?_isSome_iff
  unfold PredictsFree hasStillFreeEntries findAvailableList
  by_cases hconfig : o.credentialConfigurationId = ""
  · have hfalsy : truthy (some o.credentialConfigurationId) = false := by simp [truthy, hconfig]
    rw [if_neg (by simp [hfalsy])]
    simpa [hconfig] using hshared
  · have htruthy : truthy (some o.credentialConfigurationId) = true := by simp [truthy, hconfig]
    rw [if_pos htruthy]
    show AnswersAlone (StatusCall.answer w) (Prog.bind (match
      (s.listsFor o.tenantId (some o.credentialConfigurationId)).head? with
      | some dedicatedList =>
        if hasFreeEntry dedicatedList then .ret (some dedicatedList)
        else findSharedList o.tenantId
      | none => findSharedList o.tenantId) fun list => .ret list.isSome) s true ↔ _
    rcases hhead : (s.listsFor o.tenantId (some o.credentialConfigurationId)).head? with _ | oldest
    · simpa using hshared
    · cases hfree : hasFreeEntry oldest with
      | true => simp [hconfig, hfree]
      | false => simpa [hfree] using hshared

/-! ## The allocation -/

theorem allocateFromList_answers (hfault : w.fault s.transactions = none)
    (hunmapped : FreeUnmapped s) (hstored : list ∈ s.lists.rows)
    (htenant : list.tenantId = o.tenantId) (hfree : hasFreeEntry list = true) :
    ∃ entry, AnswersAlone (StatusCall.answer w) (allocateFromList w list o) s entry := by
  have hne : list.stack ≠ [] := List.ne_nil_of_length_pos (of_decide_eq_true hfree)
  have hlast : list.stack.getLast? = some (list.stack.getLast hne) :=
    List.getLast?_eq_some_getLast hne
  have hkey : (o.tenantId, list.id) = list.key := by rw [← htenant]; rfl
  have hcurrent : hasVersion s.lists list.key list.version = true := by
    simp [hasVersion, Table.get_of_mem hstored]
  have hnew : s.mappings.get (allocatedMapping w list o (list.stack.getLast hne)).key = none := by
    have hget := hunmapped list hstored _ (List.getLast_mem hne)
    rwa [← hkey] at hget
  have hcommits : ListCall.answer w s (.allocate (o.tenantId, list.id) list.version
      list.stack.dropLast (allocatedMapping w list o (list.stack.getLast hne))) =
      (.committed, ((ListCall.answer w s (.allocate (o.tenantId, list.id) list.version
        list.stack.dropLast (allocatedMapping w list o (list.stack.getLast hne)))).2)) := by
    simp only [ListCall.answer, hkey, hcurrent, hnew, StatusStore.transaction, hfault]
    rfl
  refine ⟨{ statusListId := list.id, index := list.stack.getLast hne
            uri := buildStatusListUri w o.tenantId list.id }, ?_⟩
  simp only [allocateFromList, hlast]
  show AnswersAlone _ (Prog.bind (Prog.ofExcept (transactionEnd _ (ListCall.answer w s
    (.allocate (o.tenantId, list.id) _ _ _)).1)) _) _ _
  rw [hcommits]
  rfl

/-- The first list `findAvailableListForAllocation` finds in a store. -/
def availableList (s : StatusStore) (o : EntryAllocationOptions) : Option StatusListEntity :=
  match findFirstAvailable (s.listsFor o.tenantId (some o.credentialConfigurationId)) with
  | some list => some list
  | none => findFirstAvailable (s.listsFor o.tenantId none)

theorem availableList_stored (h : availableList s o = some list) :
    list ∈ s.lists.rows ∧ list.tenantId = o.tenantId ∧ hasFreeEntry list = true := by
  have hfound {configuration : Option String}
      (hfirst : findFirstAvailable (s.listsFor o.tenantId configuration) = some list) :
      list ∈ s.lists.rows ∧ list.tenantId = o.tenantId ∧ hasFreeEntry list = true := by
    obtain ⟨hrow, hselected⟩ := Table.mem_select.mp (List.mem_of_find?_eq_some hfirst)
    have htenant : list.tenantId = o.tenantId ∧ list.credentialConfigurationId = configuration := by
      simpa using hselected
    exact ⟨(Table.get_eq_some.mp hrow).1, htenant.1, by
      simpa [hasFreeEntry, Nat.succ_le_iff] using List.find?_some hfirst⟩
  unfold availableList at h
  split at h
  · rename_i dedicated hdedicated
    cases h
    exact hfound hdedicated
  · exact hfound h

theorem availableList_isSome : (availableList s o).isSome = true ↔
    (∃ list ∈ s.listsFor o.tenantId (some o.credentialConfigurationId),
      hasFreeEntry list = true) ∨
    ∃ list ∈ s.listsFor o.tenantId none, hasFreeEntry list = true := by
  have hfirst (lists : List StatusListEntity) :
      (findFirstAvailable lists).isSome = true ↔ ∃ list ∈ lists, hasFreeEntry list = true :=
    List.find?_isSome
  rw [← hfirst, ← hfirst, availableList]
  split
  · rename_i dedicated hdedicated
    simp [hdedicated]
  · rename_i hnone
    simp [hnone]

theorem transaction_answers {entry : Option AllocatedStatusEntry} :
    AnswersAlone (StatusCall.answer w) (allocateEntriesTransaction w o) s entry ↔
      AnswersAlone (StatusCall.answer w) (Prog.bind (Prog.attempt
        (match availableList s o with
        | none => .ret none
        | some list => (allocateFromList w list o).bind fun entry => .ret (some entry)))
        (fun allocated => match allocated with
        | .ok entry => .ret entry
        | .error e => .fail (allocationError e))) s entry := by
  unfold availableList
  show AnswersAlone (StatusCall.answer w) (Prog.bind (Prog.attempt (Prog.bind (match
    findFirstAvailable (s.listsFor o.tenantId (some o.credentialConfigurationId)) with
    | some list => .ret (some list)
    | none => _) _)) _) s entry ↔ _
  cases findFirstAvailable (s.listsFor o.tenantId (some o.credentialConfigurationId)) with
  | some list => exact Iff.rfl
  | none => exact Iff.rfl

/-- **What an allocation looks at.** -/
theorem allocatesFromStored_iff (hfault : w.fault s.transactions = none)
    (hunmapped : FreeUnmapped s) : AllocatesFromStored w s o ↔
      (∃ list ∈ s.listsFor o.tenantId (some o.credentialConfigurationId),
        hasFreeEntry list = true) ∨
      ∃ list ∈ s.listsFor o.tenantId none, hasFreeEntry list = true := by
  rw [← availableList_isSome]
  constructor
  · rintro ⟨entry, hanswer⟩
    rw [transaction_answers] at hanswer
    cases havailable : availableList s o with
    | none =>
      rw [havailable] at hanswer
      cases hanswer
    | some list => rfl
  · intro havailable
    obtain ⟨list, hlist⟩ := Option.isSome_iff_exists.mp havailable
    obtain ⟨hstored, htenant, hfree⟩ := availableList_stored hlist
    obtain ⟨entry, hentry⟩ := allocateFromList_answers hfault hunmapped hstored htenant hfree
    refine ⟨entry, transaction_answers.mpr ?_⟩
    rw [hlist]
    have hsome : AnswersAlone (StatusCall.answer w)
        ((allocateFromList w list o).bind fun entry => .ret (some entry)) s (some entry) :=
      hentry.bind fun _ => rfl
    exact hsome.attempt.bind fun _ => rfl

end FreeEntries

/-! ## The result -/

open FreeEntries in
/-- **`hasStillFreeEntries` predicts an allocation** exactly if the oldest list of the
configuration decides. -/
theorem predicts_iff (w : StatusWorld) (s : StatusStore) (o : EntryAllocationOptions)
    (hfault : w.fault s.transactions = none) (hunmapped : FreeUnmapped s) :
    (PredictsFree w s o ↔ AllocatesFromStored w s o) ↔ OldestDecides s o := by
  rw [predictsFree_iff, allocatesFromStored_iff hfault hunmapped, OldestDecides]
  have hhead (list : StatusListEntity)
      (h : (s.listsFor o.tenantId (some o.credentialConfigurationId)).head? = some list) :
      list ∈ s.listsFor o.tenantId (some o.credentialConfigurationId) :=
    List.mem_of_mem_head? h
  constructor
  · intro hagree
    by_cases hshared : ∃ list ∈ s.listsFor o.tenantId none, hasFreeEntry list = true
    · exact .inl hshared
    · by_cases hdedicated : ∃ list ∈ s.listsFor o.tenantId (some o.credentialConfigurationId),
          hasFreeEntry list = true
      · exact .inr (.inl ((hagree.mpr (.inl hdedicated)).resolve_left hshared))
      · exact .inr (.inr fun list hlist =>
          Bool.eq_false_iff.mpr fun hfree => hdedicated ⟨list, hlist, hfree⟩)
  · rintro (hshared | holdest | hnone)
    · exact ⟨fun _ => .inr hshared, fun _ => .inl hshared⟩
    · obtain ⟨hconfig, list, hlist, hfree⟩ := holdest
      exact ⟨fun _ => .inl ⟨list, hhead list hlist, hfree⟩,
        fun _ => .inr ⟨hconfig, list, hlist, hfree⟩⟩
    · constructor
      · rintro (hshared | ⟨-, list, hlist, hfree⟩)
        · exact .inr hshared
        · rw [hnone list (hhead list hlist)] at hfree
          cases hfree
      · rintro (⟨list, hlist, hfree⟩ | hshared)
        · rw [hnone list hlist] at hfree
          cases hfree
        · exact .inl hshared

namespace FreeEntries

def ownList (id : String) (stack : List Nat) : StatusListEntity where
  id
  tenantId := "tenant"
  credentialConfigurationId := some "config"
  keyChainId := none
  elements := [some 0]
  stack
  bits := .one

def taken (listId : String) : StatusMapping where
  tenantId := "tenant"
  sessionId := "session"
  statusListId := listId
  list := "https://issuer/issuers/tenant/status-management/status-list/" ++ listId
  index := 0
  credentialConfigurationId := "config"
  issuanceSetId := none

def olderFull : StatusStore where
  clock := 0
  lists := { rows := [ownList "older" [], ownList "newer" [0]], nodup := by decide }
  mappings := .single (taken "older")
  slots := .empty

def oneEntry : EntryAllocationOptions where
  tenantId := "tenant"
  sessionId := "session"
  credentialConfigurationId := "config"
  issuanceSetId := none

theorem freeUnmapped_olderFull : FreeUnmapped olderFull := by
  intro list hlist i hi
  rcases List.mem_pair.mp hlist with rfl | rfl
  · cases hi
  · obtain rfl := List.mem_singleton.mp hi
    decide

end FreeEntries

open FreeEntries in
/-- The newer list has a free entry and the next allocation takes it, but the answer is that
there is none. -/
theorem predicts_no_entry : ¬PredictsFree StatusDeployment.world olderFull oneEntry ∧
    AllocatesFromStored StatusDeployment.world olderFull oneEntry := by
  constructor
  · rw [predictsFree_iff]
    decide
  · rw [allocatesFromStored_iff rfl freeUnmapped_olderFull]
    exact .inl ⟨ownList "newer" [0], by decide, rfl⟩

open FreeEntries in
/-- Of these lists the oldest one does not decide. -/
theorem predicts_iff_olderFull :
    (PredictsFree StatusDeployment.world olderFull oneEntry ↔
      AllocatesFromStored StatusDeployment.world olderFull oneEntry) ↔
        OldestDecides olderFull oneEntry :=
  predicts_iff _ _ _ rfl freeUnmapped_olderFull

end Eudiplo
