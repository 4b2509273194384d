import Eudiplo.Portability.Frames

/-!
# Do detached resources stay detached?

A detached resource keeps the source that it was detached from, and imports in whose scope that
source is skip it.  An import by any other source takes the resource over, and with it the memory of
the former source: `detached_resources_stay` is about the runs without such an import.
-/

namespace Eudiplo

open Storage

namespace Portability

/-! ## Runs -/

/-- **What happens to the configuration of a tenant.**  An import finds the validators and importers
as they answer then, and may be interrupted after some of its operations. -/
inductive ConfigEvent where
  | importBundle (w : PortabilityWorld) (source : String) (mode : ConfigImportMode)
      (documents : List ConfigDocument) (upTo : Nat)
  | reattach (w : PortabilityWorld) (source : String) (document : ConfigDocument) (upTo : Nat)
  | apiWrite (ref : ResourceRef) (spec : Json) (create : Bool)
  | apiDelete (ref : ResourceRef)
  | detach (ref : ResourceRef)

def importUpTo (w : PortabilityWorld) (s : TenantState) (mode : ConfigImportMode)
    (source : String) (reattach : Bool) (documents : List ConfigDocument) (upTo : Nat) :
    TenantState :=
  let p := plan w s mode source reattach documents
  if !p.applicable then s
  else (runOperations w source reattach s ((operations source p).take upTo)).1

/-- **One event.** -/
def configStep (s : TenantState) : ConfigEvent → TenantState
  | .importBundle w source mode documents upTo => importUpTo w s mode source false documents upTo
  | .reattach w source document upTo => importUpTo w s .upsert source true [document] upTo
  | .apiWrite ref spec create =>
    match assertMutable s ref with
    | .ok () => recordApiMutation (s.putSpec ref spec) ref create
    | .error _ => s
  | .apiDelete ref =>
    match assertMutable s ref with
    | .ok () => (deleteResource s ref).removeMetadata ref
    | .error _ => s
  | .detach ref => (Portability.detach s ref).toOption.getD s

/-- **Which source a resource was detached from**, after an event that leads to this state: until it
is reattached, or does not exist any more. -/
def detachedFrom (former : ResourceRef → Option String) (s s' : TenantState) (event : ConfigEvent)
    (ref : ResourceRef) : Option String :=
  if !s'.stores ref then none
  else
    match event with
    | .detach ref' =>
      if ref' = ref ∧ (metadataOf s ref).ownership = .fileManaged then (metadataOf s ref).source
      else former ref
    | .reattach _ _ document _ =>
      if document.ref = ref ∧ (metadataOf s' ref).ownership = .fileManaged then none
      else former ref
    | _ => former ref

/-! ## The claim -/

/-- The source itself, a folder above it, or one in its scope. -/
def Related (former source : String) : Prop :=
  sourceInScope (some former) source = true ∨ sourceInScope (some source) former = true

/-- **What an event respects**: an import leaves what was detached from a related source, and no
generation goes back but by a reattachment. -/
structure Respects (former : ResourceRef → Option String) (s : TenantState) (event : ConfigEvent) :
    Prop where
  detached : ∀ w source mode documents upTo, event = .importBundle w source mode documents upTo →
    ∀ ref formerSource, former ref = some formerSource → Related formerSource source →
      (configStep s event).resources.get ref = s.resources.get ref
  generation : ∀ ref m m', s.ownership.get ref = some m →
    (configStep s event).ownership.get ref = some m' →
      (∀ w source document upTo, event = .reattach w source document upTo →
        document.ref ≠ ref) → m.generation ≤ m'.generation

/-- **The condition on an event**: an import by a source that the former one is not in the scope of
does nothing about a detached resource, and no import deletes the key chain of a detached trust
list. -/
structure LeavesDetached (former : ResourceRef → Option String) (s : TenantState)
    (event : ConfigEvent) : Prop where
  documents : ∀ w source mode documents upTo, event = .importBundle w source mode documents upTo →
    ∀ document ∈ documents, ∀ formerSource, former document.ref = some formerSource →
      sourceInScope (some formerSource) source = false →
        itemOperations source (planDocument w s mode source false document) = []
  keyChains : ∀ w source mode documents upTo, event = .importBundle w source mode documents upTo →
    ∀ ref row keyChain, (former ref).isSome = true → s.resources.get ref = some row →
      keyChainOf row = some keyChain →
        ⟨.KeyChain, keyChain⟩ ∉ planDeletions s mode source documents

def Throughout (P : (ResourceRef → Option String) → TenantState → ConfigEvent → Prop) :
    (ResourceRef → Option String) → TenantState → List ConfigEvent → Prop
  | _, _, [] => True
  | former, s, event :: events =>
    P former s event ∧
      Throughout P (detachedFrom former s (configStep s event) event) (configStep s event) events

/-! ## One event -/

/-- **What is known of detached resources**: they exist, and their row says so. -/
def Remembered (former : ResourceRef → Option String) (s : TenantState) : Prop :=
  ∀ ref source, former ref = some source → s.stores ref = true ∧
    ∃ m, s.ownership.get ref = some m ∧ m.ownership = .detached ∧ m.source = some source

variable {w : PortabilityWorld} {former : ResourceRef → Option String} {s : TenantState}
  {source : String} {mode : ConfigImportMode} {documents : List ConfigDocument} {reattach : Bool}
  {upTo : Nat} {ref : ResourceRef}

theorem itemOperations_of_detached {document : ConfigDocument} {formerSource : String}
    (h : Remembered former s) (hformer : former document.ref = some formerSource)
    (hscope : sourceInScope (some formerSource) source = true) :
    itemOperations source (planDocument w s mode source false document) = [] := by
  obtain ⟨hstores, m, hm, hdetached, hsource⟩ := h document.ref formerSource hformer
  have hmeta : metadataOf s document.ref = m := metadataOf_of_get hm
  have hskip : skipsDetached s source false document = true := by
    unfold skipsDetached
    rw [hstores, hmeta, hdetached, hsource, hscope]
    rfl
  refine itemOperations_of_skip ?_
  unfold planDocument
  dsimp only
  rw [hskip, Bool.true_or, Bool.or_true, if_pos rfl]
  split
  · exact .inr rfl
  · exact .inl rfl

/-- **An import** leaves a detached resource and its owner alone. -/
theorem importUpTo_untouched {formerSource : String} (h : Remembered former s)
    (hleaves : LeavesDetached former s (.importBundle w source mode documents upTo))
    (hformer : former ref = some formerSource) :
    Untouched s (importUpTo w s mode source false documents upTo) ref := by
  obtain ⟨-, m, hm, hdetached, hsource⟩ := h ref formerSource hformer
  unfold importUpTo
  dsimp only
  split
  · exact .refl s ref
  · -- in the scope of the former source the plan skips the document, elsewhere the condition helps
    have hitem : ∀ document ∈ documents, document.ref = ref →
        itemOperations source (planDocument w s mode source false document) = [] := by
      rintro document hdocument rfl
      cases hscope : sourceInScope (some formerSource) source with
      | true => exact itemOperations_of_detached h hformer hscope
      | false =>
        exact hleaves.documents w source mode documents upTo rfl document hdocument formerSource
          hformer hscope
    -- only what is managed is deleted
    have hdeleted : ref ∉ planDeletions s mode source documents := by
      intro hmem
      obtain ⟨-, ⟨m', hm', hmanaged, -⟩, -⟩ := mem_planDeletions.mp hmem
      obtain rfl := Option.some.inj (hm.symm.trans hm')
      rw [hdetached] at hmanaged
      cases hmanaged
    refine runOperations_untouched (fun operation hoperation => ?_) fun operation hoperation => ?_
    · exact target_ne_of_items hitem hdeleted operation (List.mem_of_mem_take hoperation)
    · rintro ⟨keyChain, row, rfl, hkind, hrow, hchain⟩
      have hmem := List.mem_of_mem_take hoperation
      rcases mem_operations.mp hmem with ⟨item, -, hin⟩ | ⟨ref', href', hin⟩
      · exact (itemOperations_target hin).2.1 keyChain rfl
      · rcases hin with heq | heq
        · obtain rfl := Operation.delete.inj heq
          have hkeyChain : keyChain = ⟨.KeyChain, keyChain.id⟩ := by
            rw [← hkind]
          rw [hkeyChain] at href'
          exact hleaves.keyChains w source mode documents upTo rfl ref row keyChain.id
            (by rw [hformer]; rfl) hrow hchain href'
        · cases heq

/-! ## Generations -/

/-- **An operation** that does not remove the row of a resource lets its generation grow. -/
theorem runOperation_generation {s' : TenantState} {operation : Operation} {m : ConfigMetadata}
    (h : runOperation w source false s operation = .ok s') (hm : s.ownership.get ref = some m)
    (hkeep : operation ≠ .deleteOwnership ref) :
    ∃ m', s'.ownership.get ref = some m' ∧ m.generation ≤ m'.generation := by
  have happlied {s s' : TenantState} {ref' : ResourceRef} {generation : Nat}
      (hm : s.ownership.get ref = some m)
      (h : markApplied s ref' generation source false = .ok s') :
      ∃ m', s'.ownership.get ref = some m' ∧ m.generation ≤ m'.generation := by
    obtain ⟨hle, rfl⟩ := markApplied_ok h
    rw [TenantState.get_putMetadata]
    by_cases heq : ref' = ref
    · subst heq
      rw [if_pos rfl]
      exact ⟨_, rfl, metadataOf_of_get hm ▸ hle.resolve_left nofun⟩
    · rw [if_neg heq]
      exact ⟨m, hm, Nat.le_refl _⟩
  cases operation with
  | resource document =>
    obtain ⟨spec, -, rfl⟩ := runOperation_resource_ok h
    exact ⟨m, hm, Nat.le_refl _⟩
  | ownership ref' generation => exact happlied hm h
  | resourceAndOwnership document =>
    obtain ⟨spec, -, hmark⟩ := runOperation_resourceAndOwnership_ok h
    have hsame : (s.putSpec document.ref spec).ownership.get ref = some m := hm
    exact happlied hsame hmark
  | delete ref' =>
    obtain ⟨-, -, rfl⟩ := runOperation_delete_ok h
    exact ⟨m, hm, Nat.le_refl _⟩
  | deleteOwnership ref' =>
    obtain rfl := Except.ok.inj h
    have hne : ref ≠ ref' := fun heq => hkeep (heq ▸ rfl)
    refine ⟨m, ?_, Nat.le_refl _⟩
    rw [TenantState.get_removeMetadata, if_neg hne]
    exact hm

theorem runOperations_generation {ops : List Operation} {m : ConfigMetadata}
    (hm : s.ownership.get ref = some m) (hkeep : .deleteOwnership ref ∉ ops) :
    ∃ m', (runOperations w source false s ops).1.ownership.get ref = some m' ∧
      m.generation ≤ m'.generation := by
  induction ops generalizing s m with
  | nil => exact ⟨m, hm, Nat.le_refl _⟩
  | cons operation ops ih =>
    rw [List.mem_cons, not_or] at hkeep
    unfold runOperations
    split
    · rename_i s' hok
      obtain ⟨m', hm', hle⟩ := runOperation_generation hok hm (Ne.symm hkeep.1)
      obtain ⟨m'', hm'', hle'⟩ := ih hm' hkeep.2
      exact ⟨m'', hm'', Nat.le_trans hle hle'⟩
    · exact ⟨m, hm, Nat.le_refl _⟩

/-- **Operations** that do not own a resource keep its row or remove it. -/
theorem runOperations_row {ops : List Operation} {m' : ConfigMetadata}
    (hno : ∀ operation ∈ ops, operation.target = ref →
      (∃ ref', operation = .delete ref') ∨ ∃ ref', operation = .deleteOwnership ref')
    (hm' : (runOperations w source reattach s ops).1.ownership.get ref = some m') :
    s.ownership.get ref = some m' := by
  induction ops generalizing s with
  | nil => exact hm'
  | cons operation ops ih =>
    unfold runOperations at hm'
    split at hm'
    · rename_i s' hok
      have hrest := ih (fun o ho => hno o (List.mem_cons_of_mem _ ho)) hm'
      by_cases htarget : operation.target = ref
      · rcases hno operation List.mem_cons_self htarget with ⟨ref', rfl⟩ | ⟨ref', rfl⟩
        · obtain ⟨-, -, rfl⟩ := runOperation_delete_ok hok
          exact hrest
        · obtain rfl := Except.ok.inj hok
          rw [TenantState.get_removeMetadata] at hrest
          split at hrest
          · cases hrest
          · exact hrest
      · -- what is deleted along has no row here
        cases operation with
        | delete ref' =>
          obtain ⟨-, -, rfl⟩ := runOperation_delete_ok hok
          exact hrest
        | _ =>
          rw [← (runOperation_untouched hok htarget (by rintro ⟨_, _, hno, -⟩; cases hno)).owner]
          exact hrest
    · exact hm'

/-- **An import** lets no generation go back. -/
theorem importUpTo_generation {m m' : ConfigMetadata} (hm : s.ownership.get ref = some m)
    (hm' : (importUpTo w s mode source false documents upTo).ownership.get ref = some m') :
    m.generation ≤ m'.generation := by
  unfold importUpTo at hm'
  dsimp only at hm'
  split at hm'
  · obtain rfl := Option.some.inj (hm.symm.trans hm')
    exact Nat.le_refl _
  · -- what the bundle has is not deleted, and what it does not have is not written
    by_cases hin : ∃ document ∈ documents, document.ref = ref
    · obtain ⟨document, hdocument, rfl⟩ := hin
      have hkeep : .deleteOwnership document.ref ∉
          (operations source (plan w s mode source false documents)).take upTo := by
        intro hmem
        rcases mem_operations.mp (List.mem_of_mem_take hmem) with ⟨item, -, hop⟩ | ⟨ref, href, hop⟩
        · exact (itemOperations_target hop).2.2 _ rfl
        · rcases hop with hop | hop
          · cases hop
          · obtain rfl := Operation.deleteOwnership.inj hop
            exact (mem_planDeletions.mp href).2.2.2 document hdocument rfl
      obtain ⟨m'', hm'', hle⟩ := runOperations_generation hm hkeep
      obtain rfl := Option.some.inj (hm''.symm.trans hm')
      exact hle
    · have hrow := runOperations_row (fun operation hmem htarget => ?_) hm'
      · obtain rfl := Option.some.inj (hm.symm.trans hrow)
        exact Nat.le_refl _
      · rcases mem_operations.mp (List.mem_of_mem_take hmem) with
          ⟨item, hitem, hop⟩ | ⟨ref', -, hop⟩
        · obtain ⟨document, hdocument, rfl⟩ := List.mem_map.mp hitem
          exact absurd ⟨document, hdocument, (itemOperations_target hop).1.symm.trans htarget⟩ hin
        · rcases hop with rfl | rfl
          · exact .inl ⟨ref', rfl⟩
          · exact .inr ⟨ref', rfl⟩

theorem markApplied_row (ref : ResourceRef) {s' : TenantState} {ref' : ResourceRef}
    {generation : Nat} {allowed : Bool}
    (h : markApplied s ref' generation source allowed = .ok s') :
    s'.ownership.get ref = s.ownership.get ref ∨
      ∃ m, s'.ownership.get ref = some m ∧ m.ownership = .fileManaged := by
  obtain ⟨-, rfl⟩ := markApplied_ok h
  rw [TenantState.get_putMetadata]
  by_cases heq : ref' = ref
  · subst heq
    rw [if_pos rfl]
    exact .inr ⟨_, rfl, rfl⟩
  · rw [if_neg heq]
    exact .inl rfl

theorem stores_putSpec {ref' : ResourceRef} (spec : Json) (h : s.stores ref = true) :
    (s.putSpec ref' spec).stores ref = true := by
  unfold TenantState.stores at h ⊢
  rw [TenantState.spec?_putSpec]
  split
  · rfl
  · exact h

/-- **An operation that deletes nothing** keeps a resource, and its row unless it is managed. -/
theorem runOperation_kept {s' : TenantState} {operation : Operation}
    (h : runOperation w source reattach s operation = .ok s')
    (hno : (∀ ref', operation ≠ .delete ref') ∧ ∀ ref', operation ≠ .deleteOwnership ref')
    (hstores : s.stores ref = true) :
    s'.stores ref = true ∧ (s'.ownership.get ref = s.ownership.get ref ∨
      ∃ m, s'.ownership.get ref = some m ∧ m.ownership = .fileManaged) := by
  cases operation with
  | resource document =>
    obtain ⟨spec, -, rfl⟩ := runOperation_resource_ok h
    exact ⟨stores_putSpec spec hstores, .inl rfl⟩
  | ownership ref' generation =>
    have hrow := markApplied_row ref h
    obtain ⟨-, rfl⟩ := markApplied_ok h
    exact ⟨hstores, hrow⟩
  | resourceAndOwnership document =>
    obtain ⟨spec, -, hmark⟩ := runOperation_resourceAndOwnership_ok h
    have hrow := markApplied_row ref hmark
    obtain ⟨-, rfl⟩ := markApplied_ok hmark
    exact ⟨stores_putSpec spec hstores, hrow⟩
  | delete ref' => exact absurd rfl (hno.1 ref')
  | deleteOwnership ref' => exact absurd rfl (hno.2 ref')

theorem runOperations_kept {ops : List Operation}
    (hno : ∀ operation ∈ ops, (∀ ref', operation ≠ .delete ref') ∧
      ∀ ref', operation ≠ .deleteOwnership ref') (hstores : s.stores ref = true) :
    (runOperations w source reattach s ops).1.stores ref = true ∧
      ((runOperations w source reattach s ops).1.ownership.get ref = s.ownership.get ref ∨
        ∃ m, (runOperations w source reattach s ops).1.ownership.get ref = some m ∧
          m.ownership = .fileManaged) := by
  induction ops generalizing s with
  | nil => exact ⟨hstores, .inl rfl⟩
  | cons operation ops ih =>
    unfold runOperations
    split
    · rename_i s' hok
      obtain ⟨hstores', hrow'⟩ := runOperation_kept hok (hno operation List.mem_cons_self) hstores
      obtain ⟨hstores'', hrow''⟩ := ih (fun o ho => hno o (List.mem_cons_of_mem _ ho)) hstores'
      refine ⟨hstores'', ?_⟩
      rcases hrow'' with hsame | hmanaged
      · rw [hsame]
        exact hrow'
      · exact .inr hmanaged
    · exact ⟨hstores, .inl rfl⟩

theorem reattach_operations {document : ConfigDocument} {operation : Operation}
    (h : operation ∈ (operations source (plan w s .upsert source true [document])).take upTo) :
    operation.target = document.ref ∧ (∀ ref', operation ≠ .delete ref') ∧
      ∀ ref', operation ≠ .deleteOwnership ref' := by
  rcases mem_operations.mp (List.mem_of_mem_take h) with ⟨item, hitem, hin⟩ | ⟨ref', href', -⟩
  · obtain rfl := List.mem_singleton.mp hitem
    exact itemOperations_target hin
  · have hnone : ref' ∈ planDeletions s .upsert source [document] := href'
    cases hnone

theorem reattach_untouched {document : ConfigDocument} (hne : document.ref ≠ ref) :
    Untouched s (importUpTo w s .upsert source true [document] upTo) ref := by
  unfold importUpTo
  dsimp only
  split
  · exact .refl s ref
  · refine runOperations_untouched (fun operation hoperation => ?_) fun operation hoperation => ?_
    · rw [(reattach_operations hoperation).1]
      exact hne
    · rintro ⟨keyChain, row, rfl, -⟩
      exact (reattach_operations hoperation).2.1 keyChain rfl

theorem reattach_kept {document : ConfigDocument} (hstores : s.stores ref = true) :
    (importUpTo w s .upsert source true [document] upTo).stores ref = true ∧
      ((importUpTo w s .upsert source true [document] upTo).ownership.get ref =
          s.ownership.get ref ∨
        ∃ m, (importUpTo w s .upsert source true [document] upTo).ownership.get ref = some m ∧
          m.ownership = .fileManaged) := by
  unfold importUpTo
  dsimp only
  split
  · exact ⟨hstores, .inl rfl⟩
  · exact runOperations_kept (fun _ hoperation => (reattach_operations hoperation).2) hstores

/-! ## One event -/

/-- **A mutation** counts the generation of its resource up, and leaves it detached. -/
theorem recordApiMutation_self (create : Bool) {m : ConfigMetadata}
    (hm : s.ownership.get ref = some m) :
    ∃ m', (recordApiMutation s ref create).ownership.get ref = some m' ∧
      m.generation ≤ m'.generation ∧
      (m.ownership = .detached → m'.ownership = .detached ∧ m'.source = m.source) := by
  unfold recordApiMutation
  dsimp only
  rw [TenantState.get_putMetadata, if_pos rfl, hm]
  refine ⟨_, rfl, ?_, fun hdetached => ?_⟩
  · simp
  · simp [hdetached]

theorem recordApiMutation_of_ne {create : Bool} {ref' : ResourceRef} (hne : ref' ≠ ref) :
    (recordApiMutation s ref' create).ownership.get ref = s.ownership.get ref := by
  unfold recordApiMutation
  dsimp only
  rw [TenantState.get_putMetadata, if_neg hne]

theorem detach_row (ref' : ResourceRef) {m : ConfigMetadata} (hm : s.ownership.get ref = some m) :
    ∃ m', ((Portability.detach s ref').toOption.getD s).ownership.get ref = some m' ∧
      m'.generation = m.generation ∧ m'.source = m.source ∧
      (m.ownership = .detached → m'.ownership = .detached) ∧
      (ref' = ref ∧ m.ownership = .fileManaged → m'.ownership = .detached) := by
  have hmeta : metadataOf s ref = m := metadataOf_of_get hm
  unfold Portability.detach
  dsimp only
  split
  · rename_i hcase
    refine ⟨m, hm, rfl, rfl, id, ?_⟩
    rintro ⟨rfl, hmanaged⟩
    rw [hmeta, hmanaged] at hcase
    cases hcase
  · rename_i hcase
    refine ⟨m, hm, rfl, rfl, id, ?_⟩
    rintro ⟨rfl, hmanaged⟩
    rw [hmeta, hmanaged] at hcase
    cases hcase
  · by_cases heq : ref' = ref
    · subst heq
      rw [hmeta]
      refine ⟨{ m with ownership := .detached, ref := ref' }, ?_, rfl, rfl, fun _ => rfl,
        fun _ => rfl⟩
      show (s.putMetadata _).ownership.get ref' = _
      rw [TenantState.get_putMetadata, if_pos rfl]
    · refine ⟨m, ?_, rfl, rfl, id, fun h => absurd h.1 heq⟩
      show (s.putMetadata _).ownership.get ref = some m
      rw [TenantState.get_putMetadata, if_neg heq]
      exact hm

/-- **One event** lets no generation go back. -/
theorem configStep_generation (event : ConfigEvent) {m m' : ConfigMetadata}
    (hm : s.ownership.get ref = some m)
    (hm' : (configStep s event).ownership.get ref = some m')
    (hother : ∀ w source document upTo, event = .reattach w source document upTo →
      document.ref ≠ ref) : m.generation ≤ m'.generation := by
  have hsame (h : s.ownership.get ref = some m') : m.generation ≤ m'.generation := by
    obtain rfl := Option.some.inj (hm.symm.trans h)
    exact Nat.le_refl _
  cases event with
  | importBundle w source mode documents upTo => exact importUpTo_generation hm hm'
  | reattach w source document upTo =>
    have hother' := hother w source document upTo rfl
    have huntouched : Untouched s (importUpTo w s .upsert source true [document] upTo) ref :=
      reattach_untouched hother'
    exact hsame (huntouched.owner.symm.trans hm')
  | apiWrite ref' spec create =>
    simp only [configStep] at hm'
    split at hm'
    · by_cases heq : ref' = ref
      · subst heq
        have hrow : (s.putSpec ref' spec).ownership.get ref' = some m := hm
        obtain ⟨m'', hm'', hle, -⟩ := recordApiMutation_self create hrow
        obtain rfl := Option.some.inj (hm''.symm.trans hm')
        exact hle
      · rw [recordApiMutation_of_ne heq] at hm'
        exact hsame hm'
    · exact hsame hm'
  | apiDelete ref' =>
    simp only [configStep] at hm'
    split at hm'
    · rw [TenantState.get_removeMetadata] at hm'
      split at hm'
      · cases hm'
      · exact hsame hm'
    · exact hsame hm'
  | detach ref' =>
    obtain ⟨m'', hm'', hgeneration, -⟩ := detach_row ref' hm
    obtain rfl := Option.some.inj (hm''.symm.trans hm')
    exact Nat.le_of_eq hgeneration.symm

/-- **One event** respects what is detached. -/
theorem configStep_respects {event : ConfigEvent} (h : Remembered former s)
    (hleaves : LeavesDetached former s event) : Respects former s event := by
  constructor
  · rintro w source mode documents upTo rfl ref formerSource hformer -
    exact (importUpTo_untouched h hleaves hformer).resource
  · intro ref m m' hm hm' hother
    exact configStep_generation event hm hm' hother

/-- **One event** keeps what is known of detached resources. -/
theorem remembered_step {event : ConfigEvent} (h : Remembered former s)
    (hleaves : LeavesDetached former s event) :
    Remembered (detachedFrom former s (configStep s event) event) (configStep s event) := by
  intro ref formerSource hformer
  unfold detachedFrom at hformer
  split at hformer
  · cases hformer
  rename_i hstores
  have hstores : (configStep s event).stores ref = true := by simpa using hstores
  refine ⟨hstores, ?_⟩
  cases event with
  | importBundle w source mode documents upTo =>
    obtain ⟨-, m, hm, hrow⟩ := h ref formerSource hformer
    exact ⟨m, (importUpTo_untouched h hleaves hformer).owner.trans hm, hrow⟩
  | reattach w source document upTo =>
    dsimp only at hformer
    split at hformer
    · cases hformer
    · rename_i hnot
      obtain ⟨hstored, m, hm, hrow⟩ := h ref formerSource hformer
      by_cases heq : document.ref = ref
      · have hkept : (importUpTo w s .upsert source true [document] upTo).stores ref = true ∧ _ :=
          reattach_kept hstored
        rcases hkept.2 with hsame | ⟨m', hm', hmanaged⟩
        · exact ⟨m, hsame.trans hm, hrow⟩
        · -- the resource is managed again, so it is not detached from anything
          refine absurd ⟨heq, ?_⟩ hnot
          have hrow' :
              (configStep s (.reattach w source document upTo)).ownership.get ref = some m' := hm'
          rw [metadataOf_of_get hrow']
          exact hmanaged
      · have huntouched : Untouched s (importUpTo w s .upsert source true [document] upTo) ref :=
          reattach_untouched heq
        exact ⟨m, huntouched.owner.trans hm, hrow⟩
  | apiWrite ref' spec create =>
    obtain ⟨-, m, hm, hdetached, hsource⟩ := h ref formerSource hformer
    simp only [configStep]
    split
    · by_cases heq : ref' = ref
      · subst heq
        have hrow : (s.putSpec ref' spec).ownership.get ref' = some m := hm
        obtain ⟨m', hm', -, hkept⟩ := recordApiMutation_self create hrow
        obtain ⟨hdetached', hsource'⟩ := hkept hdetached
        exact ⟨m', hm', hdetached', hsource'.trans hsource⟩
      · rw [recordApiMutation_of_ne heq]
        exact ⟨m, hm, hdetached, hsource⟩
    · exact ⟨m, hm, hdetached, hsource⟩
  | apiDelete ref' =>
    obtain ⟨-, m, hm, hrow⟩ := h ref formerSource hformer
    simp only [configStep] at hstores ⊢
    split
    · rename_i hmutable
      rw [hmutable] at hstores
      rw [TenantState.get_removeMetadata]
      by_cases heq : ref = ref'
      · -- it does not exist any more
        subst heq
        exfalso
        unfold TenantState.stores TenantState.spec? at hstores
        change (((deleteResource s ref).resources.get ref).map _).isSome = true at hstores
        rw [resources_deleteResource_self] at hstores
        cases hstores
      · rw [if_neg heq]
        exact ⟨m, hm, hrow⟩
    · exact ⟨m, hm, hrow⟩
  | detach ref' =>
    dsimp only at hformer
    split at hformer
    · rename_i hdetach
      obtain ⟨rfl, hmanaged⟩ := hdetach
      cases hget : s.ownership.get ref' with
      | none =>
        -- what has no row is unmanaged
        unfold metadataOf at hmanaged
        rw [hget] at hmanaged
        cases hmanaged
      | some m =>
        rw [metadataOf_of_get hget] at hmanaged hformer
        obtain ⟨m', hm', -, hsource, -, hdetached⟩ := detach_row ref' hget
        exact ⟨m', hm', hdetached ⟨rfl, hmanaged⟩, hsource.trans hformer⟩
    · obtain ⟨-, m, hm, hdetached, hsource⟩ := h ref formerSource hformer
      obtain ⟨m', hm', -, hsource', hkept, -⟩ := detach_row ref' hm
      exact ⟨m', hm', hkept hdetached, hsource'.trans hsource⟩

/-! ## The claim, over every run -/

theorem respects_of_remembered {events : List ConfigEvent} (hremembered : Remembered former s)
    (h : Throughout LeavesDetached former s events) :
    Throughout Respects former s events := by
  induction events generalizing former s with
  | nil => trivial
  | cons event events ih =>
    obtain ⟨hleaves, hrest⟩ := h
    exact ⟨configStep_respects hremembered hleaves, ih (remembered_step hremembered hleaves) hrest⟩

/-- **The detached resources stay, and the generations do not go back**, in every run whose imports
leave the resources that were detached from a source out of their scope. -/
theorem detached_resources_stay (s : TenantState) (events : List ConfigEvent)
    (h : Throughout LeavesDetached (fun _ => none) s events) :
    Throughout Respects (fun _ => none) s events :=
  respects_of_remembered nofun h

/-! ## A run that loses the former source -/

private def nothingStored : TenantState := ⟨.empty, .empty⟩

private def hookVersion (url : String) : ConfigDocument :=
  { ref := ⟨.WebhookEndpoint, "hook"⟩, spec := .obj [("url", .str url)] }

private def detachedRun : List ConfigEvent :=
  [.importBundle storingWorld "folder:/c/t" .upsert [hookVersion "first"] 2,
    .detach ⟨.WebhookEndpoint, "hook"⟩,
    .importBundle storingWorld "folder:/c/t" .upsert [hookVersion "second"] 2]

private def takenOverRun : List ConfigEvent :=
  [.importBundle storingWorld "folder:/c/t" .upsert [hookVersion "first"] 2,
    .detach ⟨.WebhookEndpoint, "hook"⟩,
    .importBundle storingWorld "bundle:t" .upsert [hookVersion "uploaded"] 2,
    .importBundle storingWorld "folder:/c/t" .upsert [hookVersion "second"] 2]

private theorem leaves_none (s : TenantState) (event : ConfigEvent) :
    LeavesDetached (fun _ => none) s event := by
  constructor
  · intro _ source mode documents upTo _ document _ formerSource hformer
    cases hformer
  · intro _ source mode documents upTo _ ref row keyChain hformer
    cases hformer

private theorem leaves_of_detach {former : ResourceRef → Option String} {s : TenantState}
    {ref : ResourceRef} : LeavesDetached former s (.detach ref) := by
  constructor
  · intro _ source mode documents upTo heq
    cases heq
  · intro _ source mode documents upTo heq
    cases heq

theorem detached_resources_stay_run :
    Throughout LeavesDetached (fun _ => none) nothingStored detachedRun ∧
      Throughout Respects (fun _ => none) nothingStored detachedRun := by
  have h : Throughout LeavesDetached (fun _ => none) nothingStored detachedRun := by
    refine ⟨leaves_none _ _, leaves_of_detach, ⟨?_, ?_⟩, trivial⟩
    · rintro _ source mode documents upTo heq document hdocument formerSource hformer hscope
      cases heq
      obtain rfl := List.mem_singleton.mp hdocument
      have hfolder : some formerSource = some "folder:/c/t" :=
        hformer.symm.trans (by decide +kernel)
      obtain rfl := Option.some.inj hfolder
      have hin : sourceInScope (some "folder:/c/t") "folder:/c/t" = true := by decide +kernel
      rw [hin] at hscope
      cases hscope
    · rintro _ source mode documents upTo heq ref row keyChain - - - hdeleted
      cases heq
      cases hdeleted
  exact ⟨h, detached_resources_stay nothingStored detachedRun h⟩

/-- The folder overwrites the resource that was detached from it. -/
theorem not_detached_resources_stay :
    ¬∀ (s : TenantState) (events : List ConfigEvent),
      Throughout Respects (fun _ => none) s events := by
  intro h
  obtain ⟨-, -, -, hlast, -⟩ := h nothingStored takenOverRun
  have hfolder := hlast.detached storingWorld "folder:/c/t" .upsert [hookVersion "second"] 2 rfl
    ⟨.WebhookEndpoint, "hook"⟩ "folder:/c/t" (by decide +kernel) (.inl (by decide +kernel))
  have hurl := congrArg (fun row : Option StoredResource =>
    (row >>= fun row => row.spec.field? "url") >>= Json.str?) hfolder
  revert hurl
  decide +kernel

end Portability

end Eudiplo
