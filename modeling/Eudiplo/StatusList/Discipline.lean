import Eudiplo.Concurrency.RelyGuarantee
import Eudiplo.StatusList.Effects

/-!
# What the service knows when it writes

Every write of a list names the version of a row the handler has read and is made from that
row: an allocation takes the last index of its stack, a status update changes one element
whose index was allocated, a token encodes its elements.  A list is deleted by a handler
whose last call found no mapping of it.  `statusRows` says so, call by call
(`StatusMay`); the properties of the service follow from it without another look at the
handlers.
-/

namespace Eudiplo

open Concurrency Prog Discipline Storage

/-- Thread `t` read the list row `r` under `k`. -/
abbrev ReadRow (w : StatusWorld) (g : StatusState) (t : Nat) (k : ListKey)
    (r : StatusListEntity) : Prop := (listRows w).Read g t k r

/-- This entry of a list was given to a credential. -/
def Allocated (g : StatusState) (entry : ListKey × Nat) : Prop :=
  ∃ e ∈ g.trace, allocatesEntry entry e = true

/-- Thread `t` allocated the mapping `m`. -/
def AllocatedBy (g : StatusState) (t : Nat) (m : StatusMapping) : Prop :=
  ∃ version stack, (⟨t, .lists (.allocate m.listKey version stack m),
    TransactionOutcome.committed⟩ : StatusEvent) ∈ g.trace

/-- Thread `t` selected the mapping `m`. -/
def Selects (g : StatusState) (t : Nat) (m : StatusMapping) : Prop :=
  ∃ e ∈ g.trace, e.tid = t ∧ FindsMapping m e

/-- Thread `t` selected the mapping of this entry, which was allocated. -/
structure Targets (g : StatusState) (t : Nat) (entry : ListKey × Nat) : Prop where
  allocated : Allocated g entry
  selected : ∃ m, Selects g t m ∧ m.key = entry

/-- Thread `t`'s last call found this row of a slot. -/
def FoundSlot (g : StatusState) (t : Nat) (row : ActiveCredentialSlot) : Prop :=
  g.last t = some (⟨t, .slots (.findOne row.key), some row⟩ : StatusEvent)

/-- Thread `t` found this row of a slot, and in its next call made the slot name another set. -/
def TookSlot (g : StatusState) (t : Nat) (row : ActiveCredentialSlot) (issuanceSetId : String) :
    Prop :=
  ∃ newer older, g.trace = newer ++ ⟨t, .slots (.update row.key row.version issuanceSetId),
    (true : Bool)⟩ :: older ∧ older.find? (fun e => e.tid == t) =
      some (⟨t, .slots (.findOne row.key), some row⟩ : StatusEvent)

/-- A new list: every entry is valid, free, and not in any token. -/
structure NewList (list : StatusListEntity) : Prop where
  elements : list.elements = newElements list.elements.length
  stack : list.stack.Perm (List.range list.elements.length)
  jwt : list.jwt = none
  cwt : list.cwt = none

def StatusListToken.Encodes (w : StatusWorld) (token : StatusListToken) (r : StatusListEntity) :
    Prop := token.bits = r.bits ∧ token.lst = w.compressStatusList r.bits r.elements

/-- Thread `t`'s last call found no mapping of the list. -/
def FoundUnused (g : StatusState) (t : Nat) (k : ListKey) : Prop :=
  g.last t = some (⟨t, .mappings (.countBy k), (0 : Nat)⟩ : StatusEvent)

/-- The status a request sets, if it is a status update. -/
def StatusRequest.Sets (r : StatusRequest) (status : Nat) : Prop :=
  ∀ tenantId value, r = .updateStatus tenantId value → status = value.status

/-- **What a thread may call.** -/
def StatusMay (w : StatusWorld) (g : StatusState) (tid : Nat) : StatusCall → Prop
  | .lists (.save list) => NewList list
  | .lists (.insert list) => NewList list
  | .lists (.updateTokens key version jwt cwt _) =>
    ∃ r, ReadRow w g tid key r ∧ r.version = version ∧
      findOutOfRangeStatusIndexes r.elements r.bits = [] ∧ jwt.Encodes w r ∧ cwt.Encodes w r
  | .lists (.updateElements key version elements) =>
    ∃ r index value, ReadRow w g tid key r ∧ r.version = version ∧
      elements = assignStatus r.elements index value ∧
      statusTransitionAllowed (statusAt r.elements index) value = true ∧
      statusValueFits (some value) r.bits = true ∧ Targets g tid (key, index) ∧
      ∀ q, g.requests[tid]? = some q → q.Sets value
  | .lists (.allocate key version stack mapping) =>
    ∃ r, ReadRow w g tid key r ∧ r.version = version ∧ r.stack = stack ++ [mapping.index] ∧
      mapping.listKey = key
  | .lists (.delete key) => FoundUnused g tid key
  | .slots (.insert slot) => truthy slot.issuanceSetId = true
  | .slots (.update key version issuanceSetId) => truthy (some issuanceSetId) = true ∧
    ∃ row, FoundSlot g tid row ∧ row.key = key ∧ row.version = version ∧
      row.issuanceSetId ≠ some issuanceSetId
  | .mappings (.findByIssuanceSet tenantId configuration issuanceSetId) =>
    ∃ row taker, TookSlot g tid row taker ∧ row.issuanceSetId = some issuanceSetId ∧
      row.key.tenantId = tenantId ∧ row.key.credentialConfigurationId = configuration
  | _ => True

/-- **The invariant** between any two calls. -/
structure StatusInv (w : StatusWorld) (g : StatusState) : Prop where
  rows : (listRows w).Inv g
  mapped : ∀ entry m, g.store.mappings.get entry = some m → Allocated g entry

/-- What a returned response says. -/
def StatusPost (tid : Nat) (r : StatusRequest) (g : StatusState) (a : StatusAnswer) : Prop :=
  match r, a with
  | .createEntry session _ _ _, .entry entry =>
    ∃ m, AllocatedBy g tid m ∧ m.tenantId = session.tenantId ∧ m.sessionId = session.id ∧
      m.statusListId = entry.statusListId ∧ m.index = entry.index ∧ m.list = entry.uri
  | _, _ => True

variable {w : StatusWorld} {g g' : StatusState} {tid t : Nat} {op : StatusCall}
variable {k : ListKey} {r : StatusRequest} {row : StatusListEntity}

theorem ReadRow.key (h : ReadRow w g t k row) : row.key = k := by
  obtain ⟨_, _, _, hk, _⟩ := h
  exact hk

theorem Allocated.extends {entry : ListKey × Nat} (h : Allocated g entry)
    (hext : g.Extends g') : Allocated g' entry := by
  obtain ⟨e, he, hallocates⟩ := h
  exact ⟨e, hext.event he, hallocates⟩

theorem AllocatedBy.extends {m : StatusMapping} (h : AllocatedBy g t m)
    (hext : g.Extends g') : AllocatedBy g' t m := by
  obtain ⟨version, stack, he⟩ := h
  exact ⟨version, stack, hext.event he⟩

theorem Selects.extends {m : StatusMapping} (h : Selects g t m) (hext : g.Extends g') :
    Selects g' t m := by
  obtain ⟨e, he, ht, hfinds⟩ := h
  exact ⟨e, hext.event he, ht, hfinds⟩

theorem Targets.extends {entry : ListKey × Nat} (h : Targets g t entry) (hext : g.Extends g') :
    Targets g' t entry := by
  obtain ⟨m, hm, hkey⟩ := h.selected
  exact ⟨h.allocated.extends hext, m, hm.extends hext, hkey⟩

theorem TookSlot.extends {row : ActiveCredentialSlot} {issuanceSetId : String}
    (h : TookSlot g t row issuanceSetId) (hext : g.Extends g') :
    TookSlot g' t row issuanceSetId := by
  obtain ⟨newer, older, htrace, hfound⟩ := h
  obtain ⟨more, hmore⟩ := hext.trace
  exact ⟨more ++ newer, older, by rw [← hmore, htrace, List.append_assoc], hfound⟩

theorem FoundSlot.took {row : ActiveCredentialSlot} {issuanceSetId : String}
    (h : FoundSlot g t row)
    (htrue : ((StatusCall.slots (.update row.key row.version issuanceSetId)).answer w
      g.store).1 = true) :
    TookSlot ((statusListService w).after g t (.slots (.update row.key row.version
      issuanceSetId))) t row issuanceSetId := by
  refine ⟨[], g.trace, ?_, h⟩
  rw [System.after_trace]
  congr 2

namespace StatusLists

theorem allocatedBy_after {m : StatusMapping}
    (h : AllocatedBy ((statusListService w).after g tid op) t m) :
    (allocatesEntry m.key ⟨tid, op, (op.answer w g.store).1⟩ = true ∧
      ∃ version stack, op = .lists (.allocate m.listKey version stack m)) ∨
      AllocatedBy g t m := by
  obtain ⟨version, stack, he⟩ := h
  rcases List.mem_cons.mp he with heq | hold
  · injection heq with _ hop hres
    subst hop
    refine .inl ⟨Bool.and_eq_true_iff.mpr ⟨?_, beq_self_eq_true _⟩, version, stack, rfl⟩
    exact beq_iff_eq.mpr (eq_of_heq hres).symm
  · exact .inr ⟨version, stack, hold⟩

/-! ## The discipline -/

/-- **One call keeps the invariant.** -/
theorem inv_after (hinv : StatusInv w g) (tid : Nat) (op : StatusCall) :
    StatusInv w ((statusListService w).after g tid op) where
  rows := hinv.rows.after tid op
  mapped entry m hm := by
    rcases mapping_row tid hm with hold | hnew
    · exact (hinv.mapped entry m hold).extends (System.extends_after _ _ _)
    · exact ⟨_, List.mem_cons_self, hnew⟩

/-- **The discipline of the service.** -/
def statusRows (w : StatusWorld) : Discipline (statusListService w) where
  inv := StatusInv w
  rely t g g' := g'.last t = g.last t
  admits _ _ _ := True
  may := StatusMay w
  allowed _ := True
  post := StatusPost
  rely_refl _ _ := rfl
  rely_trans h h' := h'.trans h
  step hinv _ _ _ := ⟨inv_after hinv _ _, fun _ hne => Global.last_after_other hne⟩
  arrive hinv _ := ⟨⟨hinv.rows.arrive _, hinv.mapped⟩, fun _ _ => rfl⟩
  pass e hinv := ⟨⟨hinv.rows.pass e, hinv.mapped⟩, fun _ => rfl⟩

def Harmless : StatusCall → Prop
  | .lists (.save _) | .lists (.insert _) | .lists (.updateTokens ..)
  | .lists (.updateElements ..) | .lists (.allocate ..) | .lists (.delete _)
  | .slots (.insert _) | .slots (.update ..) | .mappings (.findByIssuanceSet ..) => False
  | _ => True

theorem may_of_harmless (h : Harmless op) : StatusMay w g tid op := by
  unfold StatusMay
  split <;> first | cases h | trivial

/-! ## Steps that always may happen -/

section Handlers

variable {α β : Type} {Q : StatusState → β → Prop}

theorem safe_harmless {p : StatusProg α} (hg : (statusRows w).At t r g) (hp : p.Only Harmless) :
    (statusRows w).Safe t (fun _ _ => True) p g :=
  Safe.of_only hg hp fun _ _ _ _ hop _ => may_of_harmless hop

theorem safe_skip {p : StatusProg α} {f : α → StatusProg β} (hg : (statusRows w).At t r g)
    (hp : p.Only Harmless)
    (hf : ∀ a g', g.Extends g' → (statusRows w).At t r g' → (statusRows w).Safe t Q (f a) g') :
    (statusRows w).Safe t Q (p.bind f) g :=
  (safe_harmless hg hp).bind hg fun a g' hext hg' _ => hf a g' hext hg'

theorem safe_void {p : StatusProg β} (hg : (statusRows w).At t r g)
    (h : (statusRows w).Safe t Q p g) : (statusRows w).Safe t (fun _ _ => True) p g :=
  h.imp hg fun _ _ _ _ _ => trivial

theorem only_askStatus (q : StatusQuestion) : (askStatus q).Only Harmless :=
  Only.await trivial fun _ => only_ofExcept _

theorem only_orAsk {x : Option α} {p : StatusProg α} (hp : p.Only Harmless) :
    (orAsk x p).Only Harmless := by
  cases x with
  | some a => trivial
  | none => exact hp

theorem only_requireCert (tenantId : String) (keyChainId : Option String) (missing : StatusError) :
    (requireCert tenantId keyChainId missing).Only Harmless :=
  Only.bind (only_askStatus _) fun _ => only_getOrFail _ _

theorem only_validateKeyChain (tenantId : String) (given : Bool) (keyChainId : Option String)
    (missing : StatusError) : (validateKeyChain tenantId given keyChainId missing).Only Harmless :=
  Only.onlyIf (Only.bind (only_requireCert _ _ _) fun _ => trivial)

theorem only_getListById (tenantId listId : String) :
    (getListById tenantId listId).Only Harmless :=
  Only.await trivial fun _ => only_getOrFail _ _

theorem only_updateBinding (list : StatusListEntity) (updates : ListBinding) :
    (updateBinding list updates).Only Harmless :=
  Only.await trivial fun _ => only_ensure _ _

/-- **A slot is taken from the row that was found in it.** -/
theorem safe_takeSlot {key : SlotKey} {issuanceSetId : String} (attempts : Nat)
    (hg : (statusRows w).At t r g) (htruthy : truthy (some issuanceSetId) = true) :
    (statusRows w).Safe t (fun g' previous => ∀ p, previous = some p →
      ∃ row, TookSlot g' t row issuanceSetId ∧ row.issuanceSetId = some p ∧ row.key = key)
      (takeSlot key issuanceSetId attempts) g := by
  -- an attempt that is lost starts over from a fresh read
  induction attempts generalizing g with
  | zero => exact fun _ _ _ hp => nomatch hp
  | succ attempts ih =>
    refine Safe.call fun g₁ hl₁ hadm₁ => ⟨trivial, ?_⟩
    have hg₁ := (hg.later hl₁).after hadm₁ (show StatusMay w g₁ t (.slots (.findOne key)) from
      trivial)
    have hlast := Global.last_after_self (M := statusListService w) g₁ t (.slots (.findOne key))
    cases hfound : ((statusListService w).answer (.slots (.findOne key)) g₁.store).1 with
    | none =>
      refine Safe.call fun g₂ hl₂ hadm₂ => ⟨htruthy, ?_⟩
      have hg₂ := (hg₁.later hl₂).after hadm₂ (show StatusMay w g₂ t (.slots (.insert
        { key, issuanceSetId := some issuanceSetId })) from htruthy)
      cases ((statusListService w).answer (.slots (.insert
        { key, issuanceSetId := some issuanceSetId })) g₂.store).1 with
      | true => exact fun _ _ _ hp => nomatch hp
      | false => exact ih hg₂
    | some existing =>
      have hkey : existing.key = key := Table.get_key hfound
      subst hkey
      show (statusRows w).Safe t _ (if existing.issuanceSetId == some issuanceSetId then _ else _ :
        StatusProg (Option String)) _
      split
      · exact fun _ _ _ hp => nomatch hp
      · rename_i hother
        refine Safe.call fun g₂ hl₂ hadm₂ => ?_
        -- what the thread found last is still this row, whatever the others did
        have hslot : FoundSlot g₂ t existing := by
          rw [FoundSlot, ← hfound]
          exact hl₂.rely.trans hlast
        have hmay : StatusMay w g₂ t (.slots (.update existing.key existing.version
            issuanceSetId)) := ⟨htruthy, existing, hslot, rfl, rfl, by simpa using hother⟩
        refine ⟨hmay, ?_⟩
        have hg₂ := (hg₁.later hl₂).after hadm₂ hmay
        cases hupdate : ((statusListService w).answer (.slots (.update existing.key
          existing.version issuanceSetId)) g₂.store).1 with
        | true => exact fun g₃ hl₃ p hp =>
            ⟨existing, (hslot.took hupdate).extends hl₃.hist, hp, rfl⟩
        | false => exact ih hg₂

theorem safe_retryOnConcurrency {operation : StatusProg β} {message : String} (attempts : Nat)
    (hg : (statusRows w).At t r g)
    (hQ : ∀ {a g g'}, g.Extends g' → Q g a → Q g' a)
    (h : ∀ g', g.Extends g' → (statusRows w).At t r g' → (statusRows w).Safe t Q operation g') :
    (statusRows w).Safe t Q (retryOnConcurrency operation message attempts) g := by
  induction attempts generalizing g with
  | zero => trivial
  | succ attempts ih =>
    refine (Safe.attempt (h g (.refl g) hg)).bind hg fun x g₁ hext hg₁ hx => ?_
    cases x with
    | ok a => exact Safe.ret fun g₂ hl => hQ hl.hist (hx a rfl)
    | error e =>
      show (statusRows w).Safe t Q (if isRetryableConcurrencyError e then _ else _) g₁
      split
      · exact ih hg₁ fun g' hext' hg' => h g' (hext.trans hext') hg'
      · trivial

/-! ## Reading and encoding -/

theorem safe_getListById {tenantId listId : String} :
    (statusRows w).Safe t (fun g' list => ReadRow w g' t (tenantId, listId) list)
      (getListById tenantId listId) g := by
  refine Safe.call fun g₁ _ _ =>
    ⟨trivial, Safe.require fun list hlist g₂ hl => ?_⟩
  have hkey : list.key = (tenantId, listId) := Table.get_key hlist
  have hread : (listRows w).reads ⟨t, .lists (.findOneBy (tenantId, listId)),
      ((statusListService w).answer (.lists (.findOneBy (tenantId, listId))) g₁.store).1⟩
      (tenantId, listId) list := ⟨hkey, hlist⟩
  exact (Versioned.read_after hread).extends hl.hist

/-- **Tokens are signed for a row that was read**, and saved against its version. -/
theorem safe_createListJWT {list : StatusListEntity} (hg : (statusRows w).At t r g)
    (hread : ReadRow w g t list.key list) :
    (statusRows w).Safe t (fun _ _ => True) (createListJWT w list) g := by
  refine Safe.ensure fun hrange => ?_
  refine safe_skip hg (only_askStatus _) fun config g₁ hx₁ hg₁ => ?_
  refine safe_skip hg₁ (only_invoke.mpr trivial) fun time g₂ hx₂ hg₂ => ?_
  refine safe_skip hg₂ (only_requireCert _ _ _) fun keyId g₃ hx₃ hg₃ => ?_
  refine safe_skip hg₃ (only_askStatus _) fun _ g₄ hx₄ hg₄ => ?_
  refine safe_skip hg₄ (only_askStatus _) fun _ g₅ hx₅ hg₅ => ?_
  refine Safe.invoke fun g₆ hl _ => ⟨⟨list, ?_, rfl, ?_, ⟨rfl, rfl⟩, ⟨rfl, rfl⟩⟩,
    fun _ _ => trivial⟩
  · exact hread.extends (hx₁.trans (hx₂.trans (hx₃.trans (hx₄.trans (hx₅.trans hl.hist)))))
  · exact List.isEmpty_iff.mp hrange

theorem safe_regenerateAttempts {tenantId listId : String} (attempts : Nat)
    (hg : (statusRows w).At t r g) :
    (statusRows w).Safe t (fun _ _ => True) (regenerateAttempts w tenantId listId attempts) g := by
  induction attempts generalizing g with
  | zero => trivial
  | succ attempts ih =>
    refine safe_getListById.bind hg fun entry g₁ _ hg₁ hread => ?_
    have hread' : ReadRow w g₁ t entry.key entry := by
      rwa [ReadRow.key hread]
    refine (safe_createListJWT hg₁ hread').bind hg₁ fun cached g₂ _ hg₂ _ => ?_
    cases cached with
    | true => exact safe_harmless hg₂ (only_getListById _ _)
    | false => exact ih hg₂

theorem safe_getListJwt {tenantId listId : String} (hg : (statusRows w).At t r g) :
    (statusRows w).Safe t (fun _ _ => True) (getListJwt w tenantId listId) g := by
  refine safe_skip hg (only_getListById _ _) fun list g₁ _ hg₁ =>
    safe_skip hg₁ (only_invoke.mpr trivial) fun now g₂ _ hg₂ => ?_
  show (statusRows w).Safe t _ (if _ then _ else _ : StatusProg (Option StatusListToken)) g₂
  split
  · exact (safe_regenerateAttempts _ hg₂).bind hg₂ fun _ _ _ _ _ _ _ => trivial
  · exact fun _ _ => trivial

theorem safe_getListCwt {tenantId listId : String} (hg : (statusRows w).At t r g) :
    (statusRows w).Safe t (fun _ _ => True) (getListCwt w tenantId listId) g := by
  refine safe_skip hg (only_getListById _ _) fun list g₁ _ hg₁ =>
    safe_skip hg₁ (only_invoke.mpr trivial) fun now g₂ _ hg₂ => ?_
  show (statusRows w).Safe t _ (if _ then _ else _ : StatusProg (Option StatusListToken)) g₂
  split
  · exact (safe_regenerateAttempts _ hg₂).bind hg₂ fun _ _ _ _ _ _ _ => trivial
  · exact fun _ _ => trivial

/-! ## Creating, updating and deleting lists -/

theorem safe_newStack {size : Nat} (hg : (statusRows w).At t r g) :
    (statusRows w).Safe t (fun _ stack => stack.Perm (List.range size)) (newStack size) g :=
  safe_skip hg (only_invoke.mpr (show Harmless .dice from trivial)) fun dice _ _ _ _ _ =>
    shuffleArray_perm dice (List.range size)

theorem newList_mk {id tenantId : String} {configuration keyChainId : Option String} {size : Nat}
    {stack : List Nat} {bits : BitsPerStatus} (h : stack.Perm (List.range size)) :
    NewList { id, tenantId, credentialConfigurationId := configuration, keyChainId
              elements := newElements size, stack, bits } where
  elements := by simp [newElements]
  stack := by simpa [newElements] using h
  jwt := rfl
  cwt := rfl

theorem safe_createNewList {tenantId : String} {options : NewListOptions}
    (hg : (statusRows w).At t r g) :
    (statusRows w).Safe t (fun _ _ => True) (createNewList w tenantId options) g := by
  refine safe_skip hg (only_orAsk (only_askStatus _)) fun size g₁ _ hg₁ =>
    Safe.ensure fun _ => ?_
  refine (safe_newStack hg₁).bind hg₁ fun stack g₂ _ hg₂ hstack => ?_
  refine safe_skip hg₂ (only_orAsk (only_askStatus _)) fun bits g₃ _ hg₃ => ?_
  refine safe_skip hg₃ (only_validateKeyChain _ _ _ _) fun _ g₄ _ hg₄ => ?_
  refine safe_skip hg₄ (only_invoke.mpr trivial) fun id g₅ _ hg₅ => ?_
  refine Safe.call fun g₆ hl hadm => ⟨newList_mk hstack, ?_⟩
  exact safe_regenerateAttempts _ ((hg₅.later hl).after hadm (newList_mk hstack))

theorem safe_updateList {tenantId listId : String} {updates : ListBinding}
    (hg : (statusRows w).At t r g) :
    (statusRows w).Safe t (fun _ _ => True) (updateList w tenantId listId updates) g := by
  refine safe_skip hg (only_getListById _ _) fun list g₁ _ hg₁ => ?_
  refine safe_skip hg₁ (only_validateKeyChain _ _ _ _) fun _ g₂ _ hg₂ => ?_
  refine safe_skip hg₂ (Only.onlyIf (only_updateBinding _ _)) fun _ g₃ _ hg₃ => ?_
  show (statusRows w).Safe t _ (if _ then _ else _ : StatusProg StatusListEntity) g₃
  split
  · exact safe_regenerateAttempts _ hg₃
  · exact safe_harmless hg₃ (only_getListById _ _)

theorem safe_processStatusListConfig {tenantId : String} {config : StatusListImport}
    (hg : (statusRows w).At t r g) :
    (statusRows w).Safe t (fun _ _ => True) (processStatusListConfig w tenantId config) g := by
  refine safe_skip hg (only_invoke.mpr trivial) fun found g₁ _ hg₁ => ?_
  cases found with
  | some existing =>
    refine Safe.ensure fun _ => ?_
    exact (safe_updateList hg₁).bind hg₁ fun _ _ _ _ _ _ _ => trivial
  | none =>
    refine safe_skip hg₁ (only_orAsk (only_askStatus _)) fun size g₂ _ hg₂ => ?_
    refine safe_skip hg₂ (only_orAsk (only_askStatus _)) fun bits g₃ _ hg₃ => ?_
    refine (safe_newStack hg₃).bind hg₃ fun stack g₄ _ hg₄ hstack => ?_
    refine safe_skip hg₄ (only_validateKeyChain _ _ _ _) fun _ g₅ _ hg₅ => ?_
    refine Safe.call fun g₆ hl hadm => ⟨newList_mk hstack, ?_⟩
    have hg₇ := (hg₅.later hl).after hadm (newList_mk hstack)
    refine Safe.ensure fun _ => ?_
    exact (safe_regenerateAttempts _ hg₇).bind hg₇ fun _ _ _ _ _ _ _ => trivial

/-- **A list is deleted right after no mapping of it was found.** -/
theorem safe_deleteList {tenantId listId : String} (hg : (statusRows w).At t r g) :
    (statusRows w).Safe t (fun _ _ => True) (deleteList tenantId listId) g := by
  refine safe_skip hg (only_getListById _ _) fun list g₁ _ hg₁ => ?_
  refine Safe.call fun g₂ hl₂ hadm => ⟨trivial, Safe.ensure fun hzero => ?_⟩
  refine Safe.invoke fun g₃ hl₃ _ => ⟨?_, fun _ _ => trivial⟩
  have hlast : g₃.last t = _ := hl₃.rely
  show g₃.last t = _
  rw [hlast, Global.last_after_self, beq_iff_eq.mp hzero]

/-! ## Status updates -/

/-- **An element is written for an index that was allocated**, into a row that was read. -/
theorem safe_setEntryTransaction {listId tenantId : String} {index value : Nat}
    (hg : (statusRows w).At t r g) (hsets : r.Sets value)
    (htargets : Targets g t ((tenantId, listId), index)) :
    (statusRows w).Safe t (fun _ _ => True) (setEntryTransaction listId index value tenantId)
      g := by
  refine Safe.call fun g₁ hl₁ hadm₁ => ⟨trivial, Safe.getOrFail
    fun entry hentry => Safe.ofExcept fun _ hfits => Safe.ofExcept
    fun _ htransition => ?_⟩
  have hmay : StatusMay w g₁ t (.lists (.findOneBy (tenantId, listId))) := trivial
  have hg₂ := (hg.later hl₁).after hadm₁ hmay
  have hread : (listRows w).reads ⟨t, .lists (.findOneBy (tenantId, listId)),
      ((statusListService w).answer (.lists (.findOneBy (tenantId, listId))) g₁.store).1⟩
      (tenantId, listId) entry := ⟨Table.get_key hentry, hentry⟩
  refine Safe.bind (R := fun _ _ => True) hg₂ (Safe.invoke fun g₃ hl₃ _ =>
    ⟨⟨entry, index, value, ?_, rfl, rfl, ?_, ?_, ?_, fun q hq => ?_⟩, fun _ _ => trivial⟩)
    fun outcome g₄ _ hg₄ _ => ?_
  · exact (Versioned.read_after hread).extends hl₃.hist
  · exact assertStatusTransitionAllowed_ok htransition
  · exact assertValueFitsLists_ok hfits List.mem_cons_self
  · exact htargets.extends
      (hl₁.hist.trans ((System.extends_after _ _ _).trans hl₃.hist))
  · rwa [← Option.some.inj ((hl₃.hist.request hg₂.request).symm.trans hq)]
  · exact safe_harmless hg₄ (only_ofExcept _)

theorem safe_setEntryWithRetry {listId tenantId : String} {index value : Nat}
    (hg : (statusRows w).At t r g) (hsets : r.Sets value)
    (htargets : Targets g t ((tenantId, listId), index)) :
    (statusRows w).Safe t (fun _ _ => True) (setEntryWithRetry w listId index value tenantId)
      g := by
  refine (safe_setEntryTransaction hg hsets htargets).bind hg fun _ g₁ _ hg₁ _ => ?_
  refine safe_skip hg₁ (only_askStatus _) fun config g₂ _ hg₂ => ?_
  cases hconfig : config.immediateUpdate with
  | false =>
    rw [onlyIf]
    exact fun _ _ => trivial
  | true =>
    refine (Safe.attempt (safe_regenerateAttempts _ hg₂)).bind hg₂
      fun x g₃ _ _ _ => ?_
    cases x with
    | ok list => exact fun _ _ => trivial
    | error e => cases e <;> first | trivial | exact fun _ _ => trivial

theorem safe_setEntry {listId tenantId : String} {index value : Nat}
    (hg : (statusRows w).At t r g) (hsets : r.Sets value)
    (htargets : Targets g t ((tenantId, listId), index)) :
    (statusRows w).Safe t (fun _ _ => True) (setEntry w listId index value tenantId) g :=
  safe_retryOnConcurrency _ hg (fun _ _ => trivial) fun _ hext hg' =>
    safe_setEntryWithRetry hg' hsets (htargets.extends hext)

/-- Every entry belongs to the tenant, was selected and allocated. -/
def EntriesTargeted (g : StatusState) (t : Nat) (tenantId : String)
    (entries : List StatusMapping) : Prop :=
  ∀ m ∈ entries, Targets g t ((tenantId, m.statusListId), m.index)

theorem safe_setEntries {tenantId : String} {entries : List StatusMapping} {value : Nat}
    (hg : (statusRows w).At t r g) (hsets : r.Sets value)
    (hentries : EntriesTargeted g t tenantId entries) :
    (statusRows w).Safe t (fun _ _ => True) (setEntries w tenantId entries value) g := by
  rw [setEntries, onlyIf]
  split
  · refine safe_skip hg (only_invoke.mpr trivial) fun lists g₁ hx₁ hg₁ =>
      Safe.ofExcept fun _ _ => ?_
    refine (Safe.attempt (Q := fun _ _ => True) ?_).bind hg₁ fun x g₂ _ _ _ => ?_
    · refine safe_skip hg₁ (Only.each fun _ _ => only_ofExcept _) fun _ g₂ hx₂ hg₂ => ?_
      -- the selection is in the history from here on
      refine safe_void hg₂ (Safe.each (K := fun g' => g.Extends g') hg₂ (hx₁.trans hx₂)
        (fun hl hx => hx.trans hl.hist) fun m hm g' hg' hx => ?_)
      exact (safe_setEntry hg' hsets ((hentries m hm).extends hx)).imp hg'
        fun _ _ hext _ _ => hx.trans hext
    · cases x with
      | ok u => exact fun _ _ => trivial
      | error e => trivial
  · exact fun _ _ => trivial

/-- **Mappings that were found** are targets from then on. -/
theorem targeted_of_found {tenantId : String} {entries : List StatusMapping}
    (hinv : StatusInv w g) (hfinds : ∀ m ∈ entries, FindsMapping m ⟨t, op, (op.answer w g.store).1⟩)
    (htenant : ∀ m ∈ entries, m.tenantId = tenantId) :
    EntriesTargeted ((statusListService w).after g t op) t tenantId entries := by
  intro m hm
  have hkey : m.key = ((tenantId, m.statusListId), m.index) := by
    rw [StatusMapping.key, StatusMapping.listKey, htenant m hm]
  rw [← hkey]
  refine ⟨?_, m, ⟨_, List.mem_cons_self, rfl, hfinds m hm⟩, rfl⟩
  exact (hinv.mapped m.key m (findsMapping_stored (hfinds m hm))).extends
    (System.extends_after _ _ _)

theorem safe_updateStatus {tenantId : String} {value : StatusUpdate}
    (hg : (statusRows w).At t r g) (hsets : r.Sets value.status) :
    (statusRows w).Safe t (fun _ _ => True) (updateStatus w tenantId value) g := by
  refine Safe.call fun g₁ hl hadm => ⟨trivial, Safe.ensure fun _ => ?_⟩
  refine safe_setEntries ((hg.later hl).after hadm trivial) hsets
    (targeted_of_found hl.inv (fun m hm => hm) fun m hm => ?_)
  have hselected := (Table.mem_select.mp hm).2
  simp only [Bool.and_eq_true, beq_iff_eq] at hselected
  exact hselected.1.1

theorem safe_replaceActiveIssuance {key : SlotKey} {issuanceSetId : String}
    (hg : (statusRows w).At t r g) (hsets : r.Sets STATUS_REVOKED)
    (htruthy : truthy (some issuanceSetId) = true) :
    (statusRows w).Safe t (fun _ _ => True) (replaceActiveIssuance w key issuanceSetId) g := by
  refine (safe_takeSlot _ hg htruthy).bind hg fun previous g₁ _ hg₁ htook => ?_
  rw [onlyIf]
  split
  · rename_i hprevious
    obtain ⟨p, hp, -⟩ := truthy_iff.mp hprevious
    subst hp
    obtain ⟨row, htook, hset, hkey⟩ := htook p rfl
    refine Safe.call fun g₂ hl hadm => ?_
    have hmay : StatusMay w g₂ t (.mappings (.findByIssuanceSet key.tenantId
        key.credentialConfigurationId p)) :=
      ⟨row, issuanceSetId, htook.extends hl.hist, hset, by rw [hkey], by rw [hkey]⟩
    refine ⟨hmay, safe_setEntries ((hg₁.later hl).after hadm hmay) hsets
      (targeted_of_found hl.inv (fun m hm => hm) fun m hm => ?_)⟩
    have hselected := (Table.mem_select.mp hm).2
    simp only [Bool.and_eq_true, beq_iff_eq] at hselected
    exact hselected.1.1
  · exact fun _ _ => trivial

/-! ## Allocation -/

def Records (options : EntryAllocationOptions) (entry : AllocatedStatusEntry)
    (m : StatusMapping) : Prop :=
  m.tenantId = options.tenantId ∧ m.sessionId = options.sessionId ∧
    m.statusListId = entry.statusListId ∧ m.index = entry.index ∧ m.list = entry.uri

/-- Thread `t` allocated the entry. -/
def AllocatedFor (t : Nat) (options : EntryAllocationOptions) (g : StatusState)
    (entry : AllocatedStatusEntry) : Prop := ∃ m, AllocatedBy g t m ∧ Records options entry m

theorem AllocatedFor.extends {options : EntryAllocationOptions} {entry : AllocatedStatusEntry}
    (h : AllocatedFor t options g entry) (hext : g.Extends g') :
    AllocatedFor t options g' entry := by
  obtain ⟨m, hm, hrecords⟩ := h
  exact ⟨m, hm.extends hext, hrecords⟩

theorem safe_findAvailableList {options : EntryAllocationOptions} :
    (statusRows w).Safe t (fun g' found => ∀ list, found = some list →
      ReadRow w g' t (options.tenantId, list.id) list)
      (findAvailableListForAllocation options) g := by
  -- a list among the answers was read
  have hfirst {g₁ : StatusState} {configuration : Option String} {list : StatusListEntity}
      (hfound : findFirstAvailable (g₁.store.lists.select fun r =>
        r.tenantId == options.tenantId && r.credentialConfigurationId == configuration) =
          some list) :
      ReadRow w ((statusListService w).after g₁ t
        (.lists (.findByConfiguration options.tenantId configuration))) t
        (options.tenantId, list.id) list := by
    have hmem := List.mem_of_find?_eq_some hfound
    have htenant := (Bool.and_eq_true_iff.mp (Table.mem_select.mp hmem).2).1
    refine ⟨_, List.mem_cons_self, rfl, ?_, hmem⟩
    rw [StatusListEntity.key, beq_iff_eq.mp htenant]
  refine Safe.call fun g₁ _ _ => ⟨trivial, ?_⟩
  rw [ret_bind]
  split
  · rename_i list hdedicated
    intro g₃ hl₃ list' hlist
    cases hlist
    exact (hfirst hdedicated).extends hl₃.hist
  · refine Safe.call fun g₃ _ _ => ⟨trivial, ?_⟩
    intro g₄ hl₄ list hlist
    exact (hfirst hlist).extends hl₄.hist

/-- **An allocation takes the last index of the stack** of a row that was read. -/
theorem safe_allocateFromList {list : StatusListEntity} {options : EntryAllocationOptions}
    (hread : ReadRow w g t (options.tenantId, list.id) list) :
    (statusRows w).Safe t (AllocatedFor t options) (allocateFromList w list options) g := by
  refine Safe.getOrFail fun index hindex => ?_
  refine Safe.call fun g₁ hl hadm => ?_
  have hmay : StatusMay w g₁ t (.lists (.allocate (options.tenantId, list.id) list.version
      list.stack.dropLast (allocatedMapping w list options index))) := by
    refine ⟨list, hread.extends hl.hist, rfl, ?_, rfl⟩
    exact (List.dropLast_append_getLast? index hindex).symm
  refine ⟨hmay, Safe.ofExcept fun _ hdone => ?_⟩
  have hcommitted := transactionEnd_ok hdone
  intro g₂ hl₂
  refine ⟨allocatedMapping w list options index,
    ⟨list.version, list.stack.dropLast, hl₂.hist.event ?_⟩, rfl, rfl, rfl, rfl, rfl⟩
  rw [System.after_trace]
  refine List.mem_cons.mpr (.inl ?_)
  congr 1
  exact hcommitted.symm

theorem safe_allocateEntriesTransaction {options : EntryAllocationOptions}
    (hg : (statusRows w).At t r g) :
    (statusRows w).Safe t (fun g' found => ∀ entry, found = some entry →
      AllocatedFor t options g' entry) (allocateEntriesTransaction w options) g := by
  refine (Safe.attempt (Q := fun g' found => ∀ entry, found = some entry →
    AllocatedFor t options g' entry) ?_).bind hg fun x g₁ _ _ hx => ?_
  · refine safe_findAvailableList.bind hg fun found g₁ _ hg₁ hread => ?_
    cases found with
    | none => exact fun _ _ _ hnone => nomatch hnone
    | some list =>
      refine (safe_allocateFromList (hread list rfl)).bind hg₁ fun entry g₂ _ _ hentry => ?_
      intro g₃ hl entry' heq
      cases heq
      exact hentry.extends hl.hist
  · cases x with
    | ok found => exact fun g₂ hl entry hentry => (hx found rfl entry hentry).extends hl.hist
    | error e => trivial

theorem safe_allocateEntries {options : EntryAllocationOptions} (hg : (statusRows w).At t r g) :
    (statusRows w).Safe t (AllocatedFor t options) (allocateEntries w options) g := by
  refine (safe_allocateEntriesTransaction hg).bind hg fun found g₁ _ hg₁ hfound => ?_
  cases found with
  | some entry => exact fun g₂ hl => (hfound entry rfl).extends hl.hist
  | none =>
    refine (safe_createNewList hg₁).bind hg₁ fun list g₂ _ hg₂ _ =>
      Safe.ensure fun _ => ?_
    refine (safe_allocateEntriesTransaction hg₂).bind hg₂ fun found g₃ _ hg₃ hfound => ?_
    exact Safe.require fun entry hentry g₄ hl =>
      (hfound entry hentry).extends hl.hist

theorem safe_allocateAndClaimEntry {options : EntryAllocationOptions}
    {subjectScopedKey : Option String} (hg : (statusRows w).At t r g)
    (hsets : r.Sets STATUS_REVOKED) :
    (statusRows w).Safe t (AllocatedFor t options)
      (allocateAndClaimEntry w options subjectScopedKey) g := by
  refine (safe_allocateEntries hg).bind hg fun entry g₁ _ hg₁ hentry => ?_
  have hclaim (p : StatusProg Unit) (b : Bool)
      (hp : b = true → (statusRows w).Safe t (fun _ _ => True) p g₁) :
      (statusRows w).Safe t (AllocatedFor t options)
        ((onlyIf b () p).bind fun _ => ret entry) g₁ := by
    cases b with
    | false => exact fun g₂ hl => hentry.extends hl.hist
    | true =>
      exact (hp rfl).bind hg₁ fun _ g₂ hext _ _ g₃ hl => hentry.extends (hext.trans hl.hist)
  refine hclaim _ _ fun hlimited => safe_replaceActiveIssuance hg₁ hsets ?_
  have hset := (Bool.and_eq_true_iff.mp hlimited).2
  obtain ⟨set, hsome, -⟩ := truthy_iff.mp hset
  rwa [hsome] at hset ⊢

theorem safe_createEntry {session : StatusSession} {configuration : String}
    {policy : Option StatusEntryPolicy} {issuanceSetId : Option String}
    (hg : (statusRows w).At t r g) (hsets : r.Sets STATUS_REVOKED) :
    (statusRows w).Safe t (fun g' entry => ∃ m, AllocatedBy g' t m ∧
      m.tenantId = session.tenantId ∧ m.sessionId = session.id ∧
      m.statusListId = entry.statusListId ∧ m.index = entry.index ∧ m.list = entry.uri)
      (createEntry w session configuration policy issuanceSetId) g := by
  have hkey : (resolveSubjectScopedKey session configuration policy).Only Harmless := by
    unfold resolveSubjectScopedKey
    split
    · split
      · exact Only.bind (only_askStatus _) fun _ => trivial
      · trivial
    · trivial
  refine safe_skip hg hkey fun subjectScopedKey g₁ _ hg₁ => Safe.ensure fun _ => ?_
  exact safe_retryOnConcurrency _ hg₁ (fun hext ⟨m, hm, h⟩ => ⟨m, hm.extends hext, h⟩)
    fun g₂ _ hg₂ => safe_allocateAndClaimEntry hg₂ hsets

end Handlers

/-- **Every request follows the discipline.** -/
theorem statusRows_verified (w : StatusWorld) : (statusRows w).Verified := by
  intro g r _ _ hg
  cases r with
  | createEntry session configuration policy issuanceSetId =>
    exact (safe_createEntry hg fun _ _ h => nomatch h).bind hg fun entry g₁ _ _ hentry g₂ hl => by
      obtain ⟨m, hm, hrecords⟩ := hentry
      exact ⟨m, hm.extends hl.hist, hrecords⟩
  | createNewList tenantId options =>
    exact (safe_createNewList hg).bind hg fun _ _ _ _ _ _ _ => trivial
  | updateList tenantId listId updates =>
    exact (safe_updateList hg).bind hg fun _ _ _ _ _ _ _ => trivial
  | importList tenantId config =>
    exact (safe_processStatusListConfig hg).bind hg fun _ _ _ _ _ _ _ => trivial
  | deleteList tenantId listId =>
    exact (safe_deleteList hg).bind hg fun _ _ _ _ _ _ _ => trivial
  | updateStatus tenantId value =>
    exact (safe_updateStatus hg fun _ _ h => by cases h; rfl).bind hg fun _ _ _ _ _ _ _ => trivial
  | getListJwt tenantId listId =>
    exact (safe_getListJwt hg).bind hg fun _ _ _ _ _ _ _ => trivial
  | getListCwt tenantId listId =>
    exact (safe_getListCwt hg).bind hg fun _ _ _ _ _ _ _ => trivial

/-! ## What a write makes of the stored row -/

/-- **The ways a stored list becomes another row**, of a list that is created once. -/
inductive ListStep (w : StatusWorld) (g : StatusState) (k : ListKey) (e : StatusEvent)
    (list : StatusListEntity) : StatusListEntity → Prop where
  /-- Tokens that encode the row are cached. -/
  | tokens (t : Nat) (jwt cwt : StatusListToken) (expiresAt : Time)
      (he : e = ⟨t, .lists (.updateTokens k list.version jwt cwt expiresAt), (true : Bool)⟩)
      (hfits : findOutOfRangeStatusIndexes list.elements list.bits = [])
      (hjwt : jwt.Encodes w list) (hcwt : cwt.Encodes w list) :
      ListStep w g k e list { list with
        jwt := some jwt, cwt := some cwt, expiresAt := some expiresAt, version := list.version + 1 }
  /-- One allocated element changes, as it may. -/
  | element (index value : Nat)
      (hop : e.op = .lists (.updateElements k list.version
        (assignStatus list.elements index value)))
      (hallowed : statusTransitionAllowed (statusAt list.elements index) value = true)
      (htargets : Targets g e.tid (k, index))
      (hsets : ∀ q, g.requests[e.tid]? = some q → q.Sets value) :
      ListStep w g k e list { list with
        elements := assignStatus list.elements index value, version := list.version + 1 }
  /-- The bindings change. -/
  | binding (changes : ListBinding) :
      ListStep w g k e list ((list.bind changes).withVersion (list.version + 1))
  /-- The last index of the stack is allocated. -/
  | allocation (stack : List Nat) (index : Nat) (hstack : list.stack = stack ++ [index])
      (hallocates : allocatesEntry (k, index) e = true) :
      ListStep w g k e list { list with stack, version := list.version + 1 }

/-- **A write is made from the row that is stored.** -/
theorem list_step {list list' : StatusListEntity} (hinv : StatusInv w g)
    (hmay : StatusMay w g tid op) (honce : (listRows w).Once g k)
    (hget : g.store.lists.get k = some list)
    (h : Rewrites list list' ⟨tid, op, (op.answer w g.store).1⟩) :
    ListStep w g k ⟨tid, op, (op.answer w g.store).1⟩ list list' := by
  have hkey := Table.get_key hget
  cases op with
  | lists c =>
    cases c with
    | updateTokens key version jwt cwt expiresAt =>
      obtain ⟨hupdated, hk, rfl, rfl⟩ := h
      obtain ⟨r, hread, hversion, hfits, hjwt, hcwt⟩ := hmay
      obtain rfl : key = k := hk.symm.trans hkey
      obtain rfl := hinv.rows.current honce hread hget hversion.symm
      refine .tokens tid jwt cwt expiresAt ?_ hfits hjwt hcwt
      exact congrArg (fun updated : Bool => (⟨tid, .lists (.updateTokens key list.version jwt cwt
        expiresAt), updated⟩ : StatusEvent)) hupdated
    | updateBinding key version changes =>
      obtain ⟨-, -, rfl, rfl⟩ := h
      exact .binding changes
    | updateElements key version elements =>
      obtain ⟨-, hk, rfl, rfl⟩ := h
      obtain ⟨r, index, value, hread, hversion, rfl, hallowed, -, htargets, hsets⟩ := hmay
      obtain rfl : key = k := hk.symm.trans hkey
      obtain rfl := hinv.rows.current honce hread hget hversion.symm
      exact .element index value rfl hallowed htargets hsets
    | allocate key version stack mapping =>
      obtain ⟨hcommitted, hk, rfl, rfl⟩ := h
      obtain ⟨r, hread, hversion, hstack, hlist⟩ := hmay
      obtain rfl : key = k := hk.symm.trans hkey
      obtain rfl := hinv.rows.current honce hread hget hversion.symm
      have hentry : mapping.key = (key, mapping.index) := by
        rw [StatusMapping.key, hlist]
      exact .allocation stack mapping.index hstack
        (Bool.and_eq_true_iff.mpr ⟨beq_iff_eq.mpr hcommitted, beq_iff_eq.mpr hentry⟩)
    | _ => cases h
  | _ => cases h

theorem inv_start {st : StatusStore} (hlists : st.lists = Table.empty)
    (hmappings : st.mappings = Table.empty) :
    StatusInv w (⟨st, [], []⟩ : StatusState) where
  rows := Versioned.Inv.start fun k => congrArg (·.get k) hlists
  mapped entry m hm := by
    rw [hmappings] at hm
    cases hm

/-- **Along every run** the invariant holds and every handler follows the discipline. -/
theorem run_holds {st : StatusStore} (hlists : st.lists = Table.empty)
    (hmappings : st.mappings = Table.empty) (ms : StatusSchedule) :
    (statusRows w).Holds ((statusListService w).run (.start st) ms) :=
  Discipline.run_holds (statusRows_verified w)
    (Discipline.holds_start (inv_start hlists hmappings)) (fun _ _ => trivial)
    (System.guarded_of_forall (fun _ _ _ => trivial) _ ms)

/-- **Every call of a run is one the discipline allows.** -/
theorem run_may {st : StatusStore} (hlists : st.lists = Table.empty)
    (hmappings : st.mappings = Table.empty) (ms : StatusSchedule) :
    (statusListService w).Guarded (fun g tid op => StatusInv w g ∧ StatusMay w g tid op)
      (.start st) ms :=
  Discipline.run_guarded (D := statusRows w) (statusRows_verified w)
    (Discipline.holds_start (inv_start hlists hmappings)) (fun _ _ => trivial)
    (System.guarded_of_forall (fun _ _ _ => trivial) _ _)

end StatusLists

end Eudiplo
