import Eudiplo.Concurrency.Order
import Eudiplo.Concurrency.Versioned
import Eudiplo.StatusList.Operations

/-!
# What a call of the status list service changes

A list row changes by a versioned update, whose event says which (`Rewrites`), and a mapping
appears with the event that allocated its index.  So the rows of the lists are versioned
rows (`listRows`), and a mapping row speaks of an event of the run.
-/

namespace Eudiplo

open Concurrency Storage

abbrev StatusState := Global StatusCall.Result StatusStore StatusRequest

abbrev StatusEvent := Event StatusCall.Result

abbrev StatusConfiguration :=
  Config StatusCall.Result StatusStore StatusRequest StatusError StatusAnswer

abbrev StatusSchedule := List (Move Nat StatusRequest)

variable {w : StatusWorld} {g g' : StatusState} {s : StatusStore} {tid t : Nat}
  {op : StatusCall} {k : ListKey}

/-! ## Events -/

def ReadsList (r : StatusListEntity) : StatusEvent → Prop
  | ⟨_, .lists (.findOneBy _), found⟩ => found = some r
  | ⟨_, .lists (.findByConfiguration ..), rows⟩ => r ∈ rows
  | ⟨_, .lists (.findByIds ..), rows⟩ => r ∈ rows
  | _ => False

def createsList (k : ListKey) : StatusEvent → Bool
  | ⟨_, .lists (.save list), _⟩ => list.key == k
  | ⟨_, .lists (.insert list), inserted⟩ => inserted && list.key == k
  | _ => false

def allocatesEntry (entry : ListKey × Nat) : StatusEvent → Bool
  | ⟨_, .lists (.allocate _ _ _ mapping), outcome⟩ =>
    outcome == .committed && mapping.key == entry
  | _ => false

def FindsMapping (m : StatusMapping) : StatusEvent → Prop
  | ⟨_, .mappings (.findBySession ..), found⟩ => m ∈ found
  | ⟨_, .mappings (.findByIssuanceSet ..), found⟩ => m ∈ found
  | _ => False

/-- The event made `r'` of the row `r`. -/
def Rewrites (r r' : StatusListEntity) : StatusEvent → Prop
  | ⟨_, .lists (.updateTokens key version jwt cwt expiresAt), updated⟩ =>
    updated = true ∧ r.key = key ∧ r.version = version ∧ r' = { r with
      jwt := some jwt, cwt := some cwt, expiresAt := some expiresAt, version := version + 1 }
  | ⟨_, .lists (.updateElements key version elements), outcome⟩ =>
    outcome = .committed ∧ r.key = key ∧ r.version = version ∧
      r' = { r with elements, version := version + 1 }
  | ⟨_, .lists (.updateBinding key version changes), updated⟩ =>
    updated = true ∧ r.key = key ∧ r.version = version ∧
      r' = { r.bind changes with version := version + 1 }
  | ⟨_, .lists (.allocate key version stack _), outcome⟩ =>
    outcome = .committed ∧ r.key = key ∧ r.version = version ∧
      r' = { r with stack, version := version + 1 }
  | _ => False

/-! ## Frames -/

theorem status_lists_frame (h : ∀ c, op ≠ .lists c) : (op.answer w s).2.lists = s.lists := by
  cases op with
  | lists c => exact absurd rfl (h c)
  | _ => rfl

theorem status_mappings_frame (h : ∀ c, op ≠ .lists c) :
    (op.answer w s).2.mappings = s.mappings := by
  cases op with
  | lists c => exact absurd rfl (h c)
  | _ => rfl

theorem hasVersion_eq_true {lists : ListTable} {version : Nat} :
    hasVersion lists k version = true ↔ ∃ r, lists.get k = some r ∧ r.version = version := by
  simp [hasVersion, Option.any_eq_true]

theorem get_updateVersioned {lists : ListTable} {key : ListKey} {version : Nat}
    {f : StatusListEntity → StatusListEntity} (hf : ∀ r, (f r).key = r.key)
    {r' : StatusListEntity} (h : (updateVersioned lists key version f hf).get k = some r') :
    ∃ r, lists.get k = some r ∧ (r' = r ∨
      hasVersion lists key version = true ∧ r.key = key ∧ r.version = version ∧
        r' = (f r).withVersion (version + 1)) := by
  rw [updateVersioned, Table.get_updateWhere, Option.map_eq_some_iff] at h
  obtain ⟨r, hr, rfl⟩ := h
  refine ⟨r, hr, ?_⟩
  by_cases hp : r.selects key version = true
  · right
    rw [if_pos hp]
    simp only [StatusListEntity.selects, Bool.and_eq_true, beq_iff_eq] at hp
    obtain ⟨hkey, rfl⟩ := hp
    have hk := Table.get_key hr
    refine ⟨hasVersion_eq_true.mpr ⟨r, ?_, rfl⟩, hkey, rfl, rfl⟩
    rwa [← hkey, hk]
  · left
    rw [if_neg hp]

theorem get_updateVersioned_self {lists : ListTable} {r : StatusListEntity}
    {f : StatusListEntity → StatusListEntity} {hf : ∀ r, (f r).key = r.key}
    (h : lists.get k = some r) : (updateVersioned lists k r.version f hf).get k =
      some ((f r).withVersion (r.version + 1)) := by
  have hselects : r.selects k r.version = true := by
    simp [StatusListEntity.selects, Table.get_key h]
  rw [updateVersioned, Table.get_updateWhere, h, Option.map_some, if_pos hselects]

theorem transaction_cases (w : StatusWorld) (s : StatusStore) (current : Bool)
    (lists : ListTable) (mappings : MappingTable) :
    ((s.transaction w current lists mappings).1 ≠ .committed ∧
      (s.transaction w current lists mappings).2.lists = s.lists ∧
      (s.transaction w current lists mappings).2.mappings = s.mappings) ∨
    (current = true ∧ (s.transaction w current lists mappings).1 = .committed ∧
      (s.transaction w current lists mappings).2.lists = lists ∧
      (s.transaction w current lists mappings).2.mappings = mappings) := by
  unfold StatusStore.transaction
  cases current with
  | false => exact .inl ⟨by simp, rfl, rfl⟩
  | true =>
    cases w.fault s.transactions with
    | none => exact .inr ⟨rfl, rfl, rfl, rfl⟩
    | some error => exact .inl ⟨by simp, rfl, rfl⟩

theorem allocate_cases (w : StatusWorld) (s : StatusStore) (key : ListKey) (version : Nat)
    (stack : List Nat) (mapping : StatusMapping) :
    ((ListCall.answer w s (.allocate key version stack mapping)).1 ≠ .committed ∧
      (ListCall.answer w s (.allocate key version stack mapping)).2.lists = s.lists ∧
      (ListCall.answer w s (.allocate key version stack mapping)).2.mappings = s.mappings) ∨
    (hasVersion s.lists key version = true ∧ s.mappings.get mapping.key = none ∧
      (ListCall.answer w s (.allocate key version stack mapping)).1 = .committed ∧
      (ListCall.answer w s (.allocate key version stack mapping)).2.lists =
        updateVersioned s.lists key version (fun r => { r with stack }) (fun _ => rfl) ∧
      (ListCall.answer w s (.allocate key version stack mapping)).2.mappings =
        s.mappings.upsert mapping id fun _ => rfl) := by
  rw [ListCall.answer]
  split
  · exact .inl ⟨by simp, rfl, rfl⟩
  · rename_i hunique
    rcases transaction_cases w s (hasVersion s.lists key version)
      (updateVersioned s.lists key version (fun r => { r with stack }) fun _ => rfl)
      (s.mappings.upsert mapping id fun _ => rfl) with hfailed | ⟨hcurrent, hdone⟩
    · exact .inl hfailed
    · refine .inr ⟨hcurrent, ?_, hdone⟩
      simpa [hcurrent] using hunique

/-! ## One call on one list -/

/-- **What a call makes of a list row**: it created it, or left it alone, or its event says
how it rewrote it. -/
theorem list_row (tid : Nat) {r' : StatusListEntity} (h : (op.answer w s).2.lists.get k = some r') :
    createsList k ⟨tid, op, (op.answer w s).1⟩ = true ∨
      ∃ r, s.lists.get k = some r ∧
        (r' = r ∨ Rewrites r r' ⟨tid, op, (op.answer w s).1⟩) := by
  by_cases hop : ∃ c, op = .lists c
  · obtain ⟨c, rfl⟩ := hop
    cases c with
    | findOneBy key => exact .inr ⟨r', h, .inl rfl⟩
    | findByConfiguration tenantId configuration => exact .inr ⟨r', h, .inl rfl⟩
    | findByIds tenantId ids => exact .inr ⟨r', h, .inl rfl⟩
    | save list =>
      by_cases hk : list.key = k
      · exact .inl (beq_iff_eq.mpr hk)
      · have hget := (Table.get_upsert s.lists list _ _ k).symm.trans h
        rw [if_neg hk] at hget
        exact .inr ⟨r', hget, .inl rfl⟩
    | insert list =>
      by_cases hold : (s.lists.get list.key).isSome = true
      · -- the primary key is taken
        have hanswer : (StatusCall.lists (.insert list)).answer w s = (false, s) := by
          show ListCall.answer w s (.insert list) = _
          rw [ListCall.answer, if_pos hold]
        rw [hanswer] at h
        exact .inr ⟨r', h, .inl rfl⟩
      · have hanswer : (StatusCall.lists (.insert list)).answer w s =
            (true, { s with lists := s.lists.upsert list id fun _ => rfl }) := by
          show ListCall.answer w s (.insert list) = _
          rw [ListCall.answer, if_neg hold]
        rw [hanswer] at h ⊢
        by_cases hk : list.key = k
        · exact .inl (by simp [createsList, hk])
        · have hget := (Table.get_upsert s.lists list _ _ k).symm.trans h
          rw [if_neg hk] at hget
          exact .inr ⟨r', hget, .inl rfl⟩
    | updateTokens key version jwt cwt expiresAt =>
      obtain ⟨r, hr, hsame | ⟨hupdated, hkey, hversion, hnew⟩⟩ :=
        get_updateVersioned (by exact fun _ => rfl) h
      · exact .inr ⟨r, hr, .inl hsame⟩
      · exact .inr ⟨r, hr, .inr ⟨hupdated, hkey, hversion, hnew⟩⟩
    | updateBinding key version changes =>
      obtain ⟨r, hr, hsame | ⟨hupdated, hkey, hversion, hnew⟩⟩ :=
        get_updateVersioned (by exact fun _ => rfl) h
      · exact .inr ⟨r, hr, .inl hsame⟩
      · exact .inr ⟨r, hr, .inr ⟨hupdated, hkey, hversion, hnew⟩⟩
    | updateElements key version elements =>
      -- rolled back, or committed
      rcases transaction_cases w s (hasVersion s.lists key version)
        (updateVersioned s.lists key version (fun r => { r with elements }) fun _ => rfl)
        s.mappings with ⟨-, hlists, -⟩ | ⟨-, hcommitted, hlists, -⟩
      · exact .inr ⟨r', (congrArg (·.get k) hlists).symm.trans h, .inl rfl⟩
      · obtain ⟨r, hr, hsame | ⟨-, hkey, hversion, hnew⟩⟩ :=
          get_updateVersioned (by exact fun _ => rfl) ((congrArg (·.get k) hlists).symm.trans h)
        · exact .inr ⟨r, hr, .inl hsame⟩
        · exact .inr ⟨r, hr, .inr ⟨hcommitted, hkey, hversion, hnew⟩⟩
    | allocate key version stack mapping =>
      rcases allocate_cases w s key version stack mapping with
        ⟨-, hlists, -⟩ | ⟨-, -, hcommitted, hlists, -⟩
      · exact .inr ⟨r', (congrArg (·.get k) hlists).symm.trans h, .inl rfl⟩
      · obtain ⟨r, hr, hsame | ⟨-, hkey, hversion, hnew⟩⟩ :=
          get_updateVersioned (by exact fun _ => rfl) ((congrArg (·.get k) hlists).symm.trans h)
        · exact .inr ⟨r, hr, .inl hsame⟩
        · exact .inr ⟨r, hr, .inr ⟨hcommitted, hkey, hversion, hnew⟩⟩
    | delete key =>
      have hget : (s.lists.deleteWhere fun r => r.key == key).get k = some r' := h
      rw [Table.get_deleteWhere, Option.filter_eq_some_iff] at hget
      exact .inr ⟨r', hget.1, .inl rfl⟩
  · have hframe := status_lists_frame (w := w) (s := s) fun c hc => hop ⟨c, hc⟩
    rw [hframe] at h
    exact .inr ⟨r', h, .inl rfl⟩

theorem created_row (h : createsList k ⟨tid, op, (op.answer w s).1⟩ = true)
    (hnone : s.lists.get k = none) :
    ∃ list, (op = .lists (.save list) ∨ op = .lists (.insert list)) ∧ list.key = k ∧
      (op.answer w s).2.lists.get k = some list := by
  cases op with
  | lists c =>
    cases c with
    | save list =>
      have hk : list.key = k := beq_iff_eq.mp h
      refine ⟨list, .inl rfl, hk, (Table.get_upsert s.lists list _ _ k).trans ?_⟩
      rw [if_pos hk, hnone]
      rfl
    | insert list =>
      obtain ⟨-, hk⟩ := Bool.and_eq_true_iff.mp h
      rw [beq_iff_eq] at hk
      refine ⟨list, .inr rfl, hk, ?_⟩
      show Table.get (ListCall.answer w s (.insert list)).2.lists k = some list
      rw [ListCall.answer, if_neg (by simp [hk, hnone])]
      show Table.get (Table.upsert _ _ _ _) k = some list
      rw [Table.get_upsert, if_pos hk, hnone]
      rfl
    | _ => cases h
  | _ => cases h

theorem list_kept {r : StatusListEntity} (h : s.lists.get k = some r)
    (hop : op ≠ .lists (.delete k)) : ((op.answer w s).2.lists.get k).isSome = true := by
  -- an update keeps the keys
  have hupdate (key : ListKey) (version : Nat) (f : StatusListEntity → StatusListEntity)
      (hf : ∀ r, (f r).key = r.key) :
      ((updateVersioned s.lists key version f hf).get k).isSome = true := by
    rw [updateVersioned, Table.get_updateWhere, h]
    rfl
  have hupsert (list : StatusListEntity) (merge : StatusListEntity → StatusListEntity)
      (hm : ∀ r, (merge r).key = r.key) : ((s.lists.upsert list merge hm).get k).isSome = true := by
    rw [Table.get_upsert, h]
    split <;> rfl
  have hsame {s' : StatusStore} (hs : s'.lists = s.lists) : (s'.lists.get k).isSome = true := by
    rw [hs, h]
    rfl
  by_cases hlists : ∃ c, op = .lists c
  · obtain ⟨c, rfl⟩ := hlists
    cases c with
    | findOneBy key => exact hsame rfl
    | findByConfiguration tenantId configuration => exact hsame rfl
    | findByIds tenantId ids => exact hsame rfl
    | save list => exact hupsert list _ _
    | insert list =>
      show (Table.get (ListCall.answer w s (.insert list)).2.lists k).isSome = true
      rw [ListCall.answer]
      split
      · exact hsame rfl
      · exact hupsert list _ _
    | updateTokens key version jwt cwt expiresAt =>
      exact hupdate key version (fun r =>
        { r with jwt := some jwt, cwt := some cwt, expiresAt := some expiresAt }) fun _ => rfl
    | updateBinding key version changes =>
      exact hupdate key version (·.bind changes) fun _ => rfl
    | updateElements key version elements =>
      rcases transaction_cases w s (hasVersion s.lists key version)
        (updateVersioned s.lists key version (fun r => { r with elements }) fun _ => rfl)
        s.mappings with ⟨-, hl, -⟩ | ⟨-, -, hl, -⟩
      · exact hsame hl
      · exact (congrArg (fun l => (Table.get l k).isSome) hl).trans
          (hupdate key version _ _)
    | allocate key version stack mapping =>
      rcases allocate_cases w s key version stack mapping with ⟨-, hl, -⟩ | ⟨-, -, -, hl, -⟩
      · exact hsame hl
      · exact (congrArg (fun l => (Table.get l k).isSome) hl).trans
          (hupdate key version _ _)
    | delete key =>
      have hne : key ≠ k := fun hk => hop (by rw [hk])
      show ((s.lists.deleteWhere fun r => r.key == key).get k).isSome = true
      rw [Table.get_deleteWhere, h, Option.filter_some, if_pos]
      · rfl
      · simpa [Table.get_key h] using hne.symm
  · exact hsame (status_lists_frame fun c hc => hlists ⟨c, hc⟩)

theorem committed_row {version : Nat} {elements : List StatusElement}
    (hcommitted : ((StatusCall.lists (.updateElements k version elements)).answer w s).1 =
      TransactionOutcome.committed) :
    (s.lists.get k).isSome = true ∧ ∀ list',
      ((StatusCall.lists (.updateElements k version elements)).answer w s).2.lists.get k =
        some list' → list'.elements = elements := by
  rcases transaction_cases w s (hasVersion s.lists k version)
    (updateVersioned s.lists k version (fun r => { r with elements }) fun _ => rfl)
    s.mappings with ⟨hne, -⟩ | ⟨hversion, -, hlists, -⟩
  · exact absurd hcommitted hne
  · obtain ⟨list, hlist, rfl⟩ := hasVersion_eq_true.mp hversion
    have hstored := (congrArg (·.get k) hlists).trans (get_updateVersioned_self hlist)
    refine ⟨by rw [hlist]; rfl, fun list' h => ?_⟩
    cases hstored.symm.trans h
    rfl

/-! ## One call on the mappings -/

theorem allocates_answer {entry : ListKey × Nat}
    (h : allocatesEntry entry ⟨tid, op, (op.answer w s).1⟩ = true) :
    ∃ key stack mapping r, op = .lists (.allocate key r.version stack mapping) ∧
      mapping.key = entry ∧ s.lists.get key = some r ∧
      (op.answer w s).2.lists.get key = some { r with stack, version := r.version + 1 } ∧
      (op.answer w s).2.mappings.get entry = some mapping := by
  cases op with
  | lists c =>
    cases c with
    | allocate key version stack mapping =>
      have h := Bool.and_eq_true_iff.mp h
      obtain ⟨hcommitted, hentry⟩ := h
      rw [beq_iff_eq] at hcommitted hentry
      subst hentry
      rcases allocate_cases w s key version stack mapping with
        ⟨hne, -⟩ | ⟨hversion, hfree, -, hlists, hmappings⟩
      · exact absurd hcommitted hne
      · obtain ⟨r, hr, rfl⟩ := hasVersion_eq_true.mp hversion
        refine ⟨key, stack, mapping, r, rfl, rfl, hr, ?_, ?_⟩
        · exact (congrArg (fun l => Table.get l key) hlists).trans
            (get_updateVersioned_self hr)
        · refine (congrArg (fun m => Table.get m mapping.key) hmappings).trans ?_
          rw [Table.get_upsert, if_pos rfl, hfree]
          rfl
    | _ => cases h
  | _ => cases h

/-- **A mapping row comes from an allocation.** -/
theorem mapping_row (tid : Nat) {entry : ListKey × Nat} {m : StatusMapping}
    (h : (op.answer w s).2.mappings.get entry = some m) :
    s.mappings.get entry = some m ∨ allocatesEntry entry ⟨tid, op, (op.answer w s).1⟩ = true := by
  by_cases hlists : ∃ c, op = .lists c
  · obtain ⟨c, rfl⟩ := hlists
    cases c with
    | allocate key version stack mapping =>
      rcases allocate_cases w s key version stack mapping with
        ⟨-, -, hm⟩ | ⟨-, hfree, hcommitted, -, hm⟩
      · exact .inl ((congrArg (fun t => Table.get t entry) hm).symm.trans h)
      · have hget := (congrArg (fun t => Table.get t entry) hm).symm.trans h
        rw [Table.get_upsert] at hget
        split at hget
        · rename_i hentry
          refine .inr (Bool.and_eq_true_iff.mpr ⟨beq_iff_eq.mpr hcommitted, beq_iff_eq.mpr hentry⟩)
        · exact .inl hget
    | delete key =>
      have hget : (s.mappings.deleteWhere fun m => m.listKey == key).get entry = some m := h
      rw [Table.get_deleteWhere, Option.filter_eq_some_iff] at hget
      exact .inl hget.1
    | insert list =>
      refine .inl (Eq.trans (congrArg (fun t => Table.get t entry) ?_) h)
      show s.mappings = (ListCall.answer w s (.insert list)).2.mappings
      rw [ListCall.answer]
      split <;> rfl
    | updateElements key version elements =>
      refine .inl (Eq.trans (congrArg (fun t => Table.get t entry) ?_) h)
      rcases transaction_cases w s (hasVersion s.lists key version)
        (updateVersioned s.lists key version (fun r => { r with elements }) fun _ => rfl)
        s.mappings with ⟨-, -, hm⟩ | ⟨-, -, -, hm⟩
      · exact hm.symm
      · exact hm.symm
    | _ => exact .inl h
  · have hframe := status_mappings_frame (w := w) (s := s) fun c hc => hlists ⟨c, hc⟩
    rw [hframe] at h
    exact .inl h

theorem findsMapping_stored {m : StatusMapping} (h : FindsMapping m ⟨tid, op, (op.answer w s).1⟩) :
    s.mappings.get m.key = some m := by
  cases op with
  | mappings c =>
    cases c with
    | findBySession tenantId sessionId configuration => exact (Table.mem_select.mp h).1
    | findByIssuanceSet tenantId configuration set => exact (Table.mem_select.mp h).1
    | countBy key => cases h
  | _ => cases h

theorem mapping_kept {entry : ListKey × Nat} {m : StatusMapping}
    (h : s.mappings.get entry = some m) (hop : op ≠ .lists (.delete m.listKey)) :
    (op.answer w s).2.mappings.get entry = some m := by
  by_cases hlists : ∃ c, op = .lists c
  · obtain ⟨c, rfl⟩ := hlists
    cases c with
    | allocate key version stack mapping =>
      rcases allocate_cases w s key version stack mapping with
        ⟨-, -, hm⟩ | ⟨-, hfree, -, -, hm⟩
      · exact (congrArg (fun t => Table.get t entry) hm).trans h
      · refine (congrArg (fun t => Table.get t entry) hm).trans ?_
        rw [Table.get_upsert, if_neg]
        · exact h
        · rintro rfl
          rw [h] at hfree
          cases hfree
    | delete key =>
      have hne : m.listKey ≠ key := fun hk => hop (by rw [hk])
      show (s.mappings.deleteWhere fun m => m.listKey == key).get entry = some m
      rw [Table.get_deleteWhere, h, Option.filter_some, if_pos]
      simpa using hne
    | insert list =>
      show Table.get (ListCall.answer w s (.insert list)).2.mappings entry = some m
      rw [ListCall.answer]
      split <;> exact h
    | updateElements key version elements =>
      rcases transaction_cases w s (hasVersion s.lists key version)
        (updateVersioned s.lists key version (fun r => { r with elements }) fun _ => rfl)
        s.mappings with ⟨-, -, hm⟩ | ⟨-, -, -, hm⟩
      · exact (congrArg (fun t => Table.get t entry) hm).trans h
      · exact (congrArg (fun t => Table.get t entry) hm).trans h
    | _ => exact h
  · rw [status_mappings_frame fun c hc => hlists ⟨c, hc⟩]
    exact h

/-! ## Lists are versioned rows -/

theorem readsList_stored {r : StatusListEntity}
    (h : ReadsList r ⟨tid, op, (op.answer w s).1⟩) : s.lists.get r.key = some r := by
  cases op with
  | lists c =>
    cases c with
    | findOneBy key =>
      have hget : s.lists.get key = some r := h
      rwa [Table.get_key hget]
    | findByConfiguration tenantId configuration => exact (Table.mem_select.mp h).1
    | findByIds tenantId ids => exact (Table.mem_select.mp h).1
    | _ => cases h
  | _ => cases h

theorem rewrites_version {r r' : StatusListEntity} {e : StatusEvent} (h : Rewrites r r' e) :
    r.version < r'.version := by
  obtain ⟨tid, op, res⟩ := e
  cases op with
  | lists c =>
    cases c with
    | updateTokens | updateElements | updateBinding | allocate =>
      obtain ⟨-, -, rfl, rfl⟩ := h
      exact Nat.lt_succ_self _
    | _ => cases h
  | _ => cases h

/-- **The lists are versioned rows**: whoever finds the version it read finds the row it
read. -/
def listRows (w : StatusWorld) : Versioned (statusListService w) ListKey StatusListEntity where
  get s k := s.lists.get k
  version := StatusListEntity.version
  reads e k r := r.key = k ∧ ReadsList r e
  creates := createsList
  read_stored := fun ⟨hk, h⟩ => hk ▸ readsList_stored h
  advance := fun {tid op s k r r'} hnot hr hr' => by
    rcases list_row tid hr' with hcreates | ⟨r₀, hr₀, hsame | hrewrites⟩
    · cases hnot.symm.trans hcreates
    · exact .inl (hsame.trans (Option.some.inj (hr₀.symm.trans hr)))
    · obtain rfl := Option.some.inj (hr₀.symm.trans hr)
      exact .inr (rewrites_version hrewrites)
  created := fun tid {op s k r'} hnone hr' => by
    rcases list_row tid hr' with hcreates | ⟨r₀, hr₀, -⟩
    · exact hcreates
    · rw [hnone] at hr₀
      cases hr₀
  drift := rfl

end Eudiplo
