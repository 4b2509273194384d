import Eudiplo.Portability.Frames

/-!
# What a successful import leaves

The state after an import that no operation of failed, in terms of the state before it: the items
first, each by itself, then the deletions.
-/

namespace Eudiplo

open Storage

namespace Portability

variable {w : PortabilityWorld} {s s' : TenantState} {source : String} {reattach : Bool}
  {mode : ConfigImportMode} {documents : List ConfigDocument} {ref : ResourceRef}

/-! ## In terms of the state before -/

/-- Does the import store the document of the item? -/
def writesItem (source : String) (item : PlanItem) : Bool :=
  (item.action == .create || item.action == .update) &&
    !(item.document.ref.kind == .KmsConfig && startupFolder source)

def specOfItem (w : PortabilityWorld) (source : String) (s : TenantState) (item : PlanItem) :
    Option Json :=
  if writesItem source item then w.store (s.spec? item.document.ref) item.document
  else s.spec? item.document.ref

/-- **The spec of a resource**, before the deletions. -/
def specBeforeDeletions (w : PortabilityWorld) (s : TenantState) (mode : ConfigImportMode)
    (source : String) (reattach : Bool) (documents : List ConfigDocument) (ref : ResourceRef) :
    Option Json :=
  match documents.find? fun document => document.ref == ref with
  | some document => specOfItem w source s (planDocument w s mode source reattach document)
  | none => s.spec? ref

/-- Is the resource deleted, or a trust list of a deleted key chain? -/
def removedBy (deletions : List ResourceRef) (row : StoredResource) : Bool :=
  deletions.any fun deleted =>
    row.ref == deleted || (deleted.kind == .KeyChain && keyChainOf row == some deleted.id)

/-! ## One operation after the other -/

theorem runOperations_append (first second : List Operation) :
    runOperations w source reattach s (first ++ second) =
      match runOperations w source reattach s first with
      | (s', none) => runOperations w source reattach s' second
      | stopped => stopped := by
  induction first generalizing s with
  | nil => rfl
  | cons operation first ih =>
    rw [List.cons_append]
    simp only [runOperations]
    cases runOperation w source reattach s operation with
    | ok s' => exact ih
    | error message => rfl

theorem runOperations_append_ok {first second : List Operation}
    (h : (runOperations w source reattach s (first ++ second)).2 = none) :
    ∃ s', runOperations w source reattach s first = (s', none) ∧
      runOperations w source reattach s (first ++ second) =
        runOperations w source reattach s' second := by
  rw [runOperations_append] at h
  rw [runOperations_append]
  rcases hfirst : runOperations w source reattach s first with ⟨s', _ | message⟩
  · exact ⟨s', rfl, rfl⟩
  · rw [hfirst] at h
    cases h

theorem runOperations_cons_ok {operation : Operation} {ops : List Operation}
    (h : (runOperations w source reattach s (operation :: ops)).2 = none) :
    ∃ s', runOperation w source reattach s operation = .ok s' ∧
      runOperations w source reattach s (operation :: ops) =
        runOperations w source reattach s' ops := by
  simp only [runOperations] at h ⊢
  cases hrun : runOperation w source reattach s operation with
  | ok s' => exact ⟨s', rfl, rfl⟩
  | error message =>
    rw [hrun] at h
    cases h

/-! ## The items -/

theorem spec?_markApplied {generation : Nat} {ref' : ResourceRef}
    (h : markApplied s ref' generation source reattach = .ok s') : s'.spec? ref = s.spec? ref := by
  obtain ⟨-, rfl⟩ := markApplied_ok h
  rfl

/-- **The operations of an item**, by what they are for. -/
theorem itemOperations_cases (source : String) (item : PlanItem) :
    (writesItem source item = false ∧ itemOperations source item = []) ∨
    (writesItem source item = false ∧ itemOperations source item =
      [.ownership item.document.ref item.document.generationOf]) ∨
    (writesItem source item = true ∧ itemOperations source item =
      [.resourceAndOwnership item.document]) ∨
    (writesItem source item = true ∧ itemOperations source item =
      [.resource item.document, .ownership item.document.ref item.document.generationOf]) := by
  unfold itemOperations writesItem
  dsimp only
  cases hwrite : (item.action == PlanAction.create || item.action == .update) with
  | false =>
    cases (item.action == .unchanged && item.metadataChanged) with
    | false => exact .inl ⟨rfl, rfl⟩
    | true => exact .inr (.inl ⟨rfl, rfl⟩)
  | true =>
    by_cases htenant : item.document.ref.kind = .Tenant
    · rw [htenant]
      exact .inr (.inr (.inl ⟨rfl, rfl⟩))
    · have hnot : (item.document.ref.kind == ConfigResourceKind.Tenant) = false := by
        simpa using htenant
      rw [hnot]
      cases (item.document.ref.kind == ConfigResourceKind.KmsConfig && startupFolder source) with
      | false => exact .inr (.inr (.inr ⟨rfl, rfl⟩))
      | true => exact .inr (.inl ⟨rfl, rfl⟩)

theorem runItem_stored {item : PlanItem} (hwrites : writesItem source item = true)
    (h : (runOperations w source reattach s (itemOperations source item)).2 = none) :
    (specOfItem w source s item).isSome = true := by
  have hstored {spec : Json}
      (hstore : w.store (s.spec? item.document.ref) item.document = some spec) :
      (specOfItem w source s item).isSome = true := by
    unfold specOfItem
    rw [if_pos hwrites, hstore]
    rfl
  rcases itemOperations_cases source item with ⟨hnot, -⟩ | ⟨hnot, -⟩ | ⟨-, hops⟩ | ⟨-, hops⟩
  · rw [hnot] at hwrites
    cases hwrites
  · rw [hnot] at hwrites
    cases hwrites
  · rw [hops] at h
    obtain ⟨s', hrun, -⟩ := runOperations_cons_ok h
    obtain ⟨spec, hstore, -⟩ := runOperation_resourceAndOwnership_ok hrun
    exact hstored hstore
  · rw [hops] at h
    obtain ⟨s', hrun, -⟩ := runOperations_cons_ok h
    obtain ⟨spec, hstore, -⟩ := runOperation_resource_ok hrun
    exact hstored hstore

/-- **The operations of one item** that all succeed. -/
theorem runItem_spec (ref : ResourceRef) {item : PlanItem}
    (h : (runOperations w source reattach s (itemOperations source item)).2 = none) :
    (runOperations w source reattach s (itemOperations source item)).1.spec? ref =
      if item.document.ref = ref then specOfItem w source s item else s.spec? ref := by
  have hstored {spec : Json}
      (hstore : w.store (s.spec? item.document.ref) item.document = some spec)
      (hwrites : writesItem source item = true) :
      (s.putSpec item.document.ref spec).spec? ref =
        if item.document.ref = ref then specOfItem w source s item else s.spec? ref := by
    unfold specOfItem
    rw [TenantState.spec?_putSpec, if_pos hwrites, hstore]
  have hkept (hwrites : writesItem source item = false) :
      s.spec? ref =
        if item.document.ref = ref then specOfItem w source s item else s.spec? ref := by
    unfold specOfItem
    rw [hwrites, if_neg Bool.false_ne_true]
    split
    · rename_i heq
      rw [heq]
    · rfl
  -- no operation, the ownership alone, a tenant with its ownership, or both in turn
  rcases itemOperations_cases source item with ⟨hwrites, hops⟩ | ⟨hwrites, hops⟩ |
    ⟨hwrites, hops⟩ | ⟨hwrites, hops⟩
  · rw [hops]
    exact hkept hwrites
  · rw [hops] at h ⊢
    obtain ⟨s', hrun, heq⟩ := runOperations_cons_ok h
    rw [heq]
    exact (spec?_markApplied hrun).trans (hkept hwrites)
  · rw [hops] at h ⊢
    obtain ⟨s', hrun, heq⟩ := runOperations_cons_ok h
    rw [heq]
    obtain ⟨spec, hstore, hmark⟩ := runOperation_resourceAndOwnership_ok hrun
    exact (spec?_markApplied hmark).trans (hstored hstore hwrites)
  · rw [hops] at h ⊢
    obtain ⟨s', hrun, heq⟩ := runOperations_cons_ok h
    rw [heq] at h ⊢
    obtain ⟨s'', hrun', heq'⟩ := runOperations_cons_ok h
    rw [heq']
    obtain ⟨spec, hstore, rfl⟩ := runOperation_resource_ok hrun
    exact (spec?_markApplied hrun').trans (hstored hstore hwrites)

def appliedRow (source : String) (document : ConfigDocument) : ConfigMetadata :=
  { ref := document.ref, ownership := .fileManaged, generation := document.generationOf,
    source := some source }

/-- Is the stored generation not newer than that of the document, or does nobody mind? -/
def AcceptsGeneration (s : TenantState) (reattach : Bool) (document : ConfigDocument) : Prop :=
  reattach = true ∨ (metadataOf s document.ref).generation ≤ document.generationOf

/-- **The owner after the operations of one item** that all succeed. -/
theorem runItem_owner {item : PlanItem} (hops : itemOperations source item ≠ [])
    (h : (runOperations w source reattach s (itemOperations source item)).2 = none) :
    AcceptsGeneration s reattach item.document ∧
      (runOperations w source reattach s (itemOperations source item)).1.ownership.get
        item.document.ref = some (appliedRow source item.document) := by
  have hmark {now s' : TenantState} (howner : now.ownership = s.ownership)
      (h : markApplied now item.document.ref item.document.generationOf source reattach = .ok s') :
      AcceptsGeneration s reattach item.document ∧
        s'.ownership.get item.document.ref = some (appliedRow source item.document) := by
    obtain ⟨haccepts, rfl⟩ := markApplied_ok h
    rw [metadataOf_congr (congrArg (fun t => t.get item.document.ref) howner)] at haccepts
    refine ⟨haccepts, ?_⟩
    rw [TenantState.get_putMetadata, if_pos rfl]
    rfl
  rcases itemOperations_cases source item with ⟨-, heq⟩ | ⟨-, heq⟩ | ⟨-, heq⟩ | ⟨-, heq⟩
  · exact absurd heq hops
  · rw [heq] at h ⊢
    obtain ⟨s', hrun, hrest⟩ := runOperations_cons_ok h
    rw [hrest]
    exact hmark rfl hrun
  · rw [heq] at h ⊢
    obtain ⟨s', hrun, hrest⟩ := runOperations_cons_ok h
    rw [hrest]
    obtain ⟨spec, -, hput⟩ := runOperation_resourceAndOwnership_ok hrun
    exact hmark (s.ownership_putSpec item.document.ref spec) hput
  · rw [heq] at h ⊢
    obtain ⟨s', hrun, hrest⟩ := runOperations_cons_ok h
    rw [hrest] at h ⊢
    obtain ⟨s'', hrun', hrest'⟩ := runOperations_cons_ok h
    rw [hrest']
    obtain ⟨spec, -, rfl⟩ := runOperation_resource_ok hrun
    exact hmark (s.ownership_putSpec item.document.ref spec) hrun'

theorem runItem_untouched {item : PlanItem} (hne : item.document.ref ≠ ref) :
    Untouched s (runOperations w source reattach s (itemOperations source item)).1 ref := by
  refine runOperations_untouched (fun operation hoperation => ?_) fun operation hoperation => ?_
  · rw [(itemOperations_target hoperation).1]
    exact hne
  · rintro ⟨keyChain, row, rfl, -⟩
    exact (itemOperations_target hoperation).2.1 keyChain rfl

/-- **The owners after the operations of items** of different resources that all succeed. -/
theorem runItems_owner {items : List PlanItem} (hnodup : (items.map (·.document.ref)).Nodup)
    (h : (runOperations w source reattach s (items.flatMap (itemOperations source))).2 = none) :
    (∀ item ∈ items, itemOperations source item ≠ [] →
      AcceptsGeneration s reattach item.document ∧
        (runOperations w source reattach s
          (items.flatMap (itemOperations source))).1.ownership.get item.document.ref =
            some (appliedRow source item.document)) ∧
    ∀ ref, (∀ item ∈ items, itemOperations source item ≠ [] → item.document.ref ≠ ref) →
      (runOperations w source reattach s
        (items.flatMap (itemOperations source))).1.ownership.get ref = s.ownership.get ref := by
  induction items generalizing s with
  | nil => exact ⟨nofun, fun _ _ => rfl⟩
  | cons first items ih =>
    rw [List.map_cons, List.nodup_cons] at hnodup
    rw [List.flatMap_cons] at h ⊢
    obtain ⟨s', hfirst, heq⟩ := runOperations_append_ok h
    have hfirstOk : (runOperations w source reattach s (itemOperations source first)).2 = none := by
      rw [hfirst]
    -- the later items are of other resources, so the first leaves their rows
    have hframe {ref : ResourceRef} (hne : first.document.ref ≠ ref) :
        s'.ownership.get ref = s.ownership.get ref := by
      have huntouched : Untouched s
          (runOperations w source reattach s (itemOperations source first)).1 ref :=
        runItem_untouched hne
      rw [hfirst] at huntouched
      exact huntouched.owner
    have hne {item : PlanItem} (hmem : item ∈ items) : first.document.ref ≠ item.document.ref :=
      fun hsame => hnodup.1 (hsame ▸ List.mem_map_of_mem hmem)
    rw [heq] at h ⊢
    obtain ⟨hitems, hothers⟩ := ih hnodup.2 h
    refine ⟨fun item hmem hops => ?_, fun ref hnone => ?_⟩
    · rcases List.mem_cons.mp hmem with rfl | hmem
      · obtain ⟨haccepts, hrow⟩ := runItem_owner hops hfirstOk
        rw [hfirst] at hrow
        refine ⟨haccepts, ?_⟩
        rw [hothers _ fun other hother _ => (hne hother).symm]
        exact hrow
      · obtain ⟨haccepts, hrow⟩ := hitems item hmem hops
        refine ⟨?_, hrow⟩
        unfold AcceptsGeneration metadataOf at haccepts ⊢
        rw [hframe (hne hmem)] at haccepts
        exact haccepts
    · rw [hothers ref fun other hother => hnone other (List.mem_cons_of_mem _ hother)]
      by_cases hops : itemOperations source first = []
      · rw [hops] at hfirst
        obtain rfl : s = s' := congrArg Prod.fst hfirst
        rfl
      · exact hframe (hnone first List.mem_cons_self hops)

/-- **The operations of items** of different resources that all succeed. -/
theorem runItems_spec {items : List PlanItem} (hnodup : (items.map (·.document.ref)).Nodup)
    (h : (runOperations w source reattach s (items.flatMap (itemOperations source))).2 = none) :
    (∀ item ∈ items,
      (runOperations w source reattach s (items.flatMap (itemOperations source))).1.spec?
        item.document.ref = specOfItem w source s item ∧
      (writesItem source item = true → (specOfItem w source s item).isSome = true)) ∧
    ∀ ref, (∀ item ∈ items, item.document.ref ≠ ref) →
      (runOperations w source reattach s (items.flatMap (itemOperations source))).1.spec? ref =
        s.spec? ref := by
  induction items generalizing s with
  | nil => exact ⟨nofun, fun _ _ => rfl⟩
  | cons first items ih =>
    rw [List.map_cons, List.nodup_cons] at hnodup
    rw [List.flatMap_cons] at h ⊢
    obtain ⟨s', hfirst, heq⟩ := runOperations_append_ok h
    have hspec (ref : ResourceRef) :
        s'.spec? ref = if first.document.ref = ref then specOfItem w source s first
          else s.spec? ref := by
      have hitem := runItem_spec ref (by rw [hfirst] :
        (runOperations w source reattach s (itemOperations source first)).2 = none)
      rw [hfirst] at hitem
      exact hitem
    rw [heq] at h ⊢
    obtain ⟨hitems, hothers⟩ := ih hnodup.2 h
    have hne {item : PlanItem} (hmem : item ∈ items) : first.document.ref ≠ item.document.ref :=
      fun hsame => hnodup.1 (hsame ▸ List.mem_map_of_mem hmem)
    refine ⟨fun item hmem => ?_, fun ref hnone => ?_⟩
    · rcases List.mem_cons.mp hmem with rfl | hmem
      · rw [hothers _ fun other hother => (hne hother).symm, hspec, if_pos rfl]
        exact ⟨rfl, fun hwrites => runItem_stored hwrites (by rw [hfirst])⟩
      · -- an importer reads no spec but that of its own resource
        have hsame : specOfItem w source s' item = specOfItem w source s item := by
          unfold specOfItem
          rw [hspec, if_neg (hne hmem)]
        rw [← hsame]
        exact hitems item hmem
    · rw [hothers ref fun other hother => hnone other (List.mem_cons_of_mem _ hother), hspec,
        if_neg (hnone first List.mem_cons_self)]

/-! ## The deletions -/

/-- **The deletions** that all succeed. -/
theorem runDeletions {deletions : List ResourceRef}
    (h : (runOperations w source reattach s
      (deletions.flatMap fun ref => [.delete ref, .deleteOwnership ref])).2 = none) :
    (runOperations w source reattach s
        (deletions.flatMap fun ref => [.delete ref, .deleteOwnership ref])).1.resources.get ref =
      (s.resources.get ref).filter fun row => !removedBy deletions row := by
  induction deletions generalizing s with
  | nil =>
    show s.resources.get ref = _
    cases s.resources.get ref <;> rfl
  | cons deleted deletions ih =>
    rw [List.flatMap_cons, List.cons_append, List.cons_append, List.nil_append] at h ⊢
    obtain ⟨s', hrun, heq⟩ := runOperations_cons_ok h
    rw [heq] at h ⊢
    obtain ⟨s'', hrun', heq'⟩ := runOperations_cons_ok h
    rw [heq'] at h ⊢
    obtain rfl := Except.ok.inj hrun'
    rw [ih h]
    obtain ⟨-, -, rfl⟩ := runOperation_delete_ok hrun
    -- the ownership is a table of its own
    show ((deleteResource s deleted).resources.get ref).filter _ = _
    rw [resources_deleteResource, Option.filter_filter]
    refine congrArg (fun p => Option.filter p _) (funext fun row => ?_)
    unfold removedBy
    rw [List.any_cons]
    exact (Bool.not_or _ _).symm

/-- **The owners after the deletions** that all succeed. -/
theorem runDeletions_owner {deletions : List ResourceRef}
    (h : (runOperations w source reattach s
      (deletions.flatMap fun ref => [.delete ref, .deleteOwnership ref])).2 = none) :
    (runOperations w source reattach s
        (deletions.flatMap fun ref => [.delete ref, .deleteOwnership ref])).1.ownership.get ref =
      if ref ∈ deletions then none else s.ownership.get ref := by
  induction deletions generalizing s with
  | nil =>
    rw [if_neg List.not_mem_nil]
    rfl
  | cons deleted deletions ih =>
    rw [List.flatMap_cons, List.cons_append, List.cons_append, List.nil_append] at h ⊢
    obtain ⟨s', hrun, heq⟩ := runOperations_cons_ok h
    rw [heq] at h ⊢
    obtain ⟨s'', hrun', heq'⟩ := runOperations_cons_ok h
    rw [heq'] at h ⊢
    obtain rfl := Except.ok.inj hrun'
    have howner : s'.ownership = s.ownership := by
      obtain ⟨-, -, rfl⟩ := runOperation_delete_ok hrun
      rfl
    rw [ih h, TenantState.get_removeMetadata, howner]
    by_cases hmem : ref ∈ deletions
    · rw [if_pos hmem, if_pos (List.mem_cons_of_mem _ hmem)]
    · rw [if_neg hmem]
      by_cases heq : ref = deleted
      · rw [if_pos heq, if_pos (heq ▸ List.mem_cons_self)]
      · rw [if_neg heq, if_neg (by simp [heq, hmem])]

/-! ## The import -/

variable (w s mode source reattach documents)

def orderedItems (p : ImportPlan) : List PlanItem :=
  p.items.mergeSort fun left right =>
    importPhase left.document.ref.kind ≤ importPhase right.document.ref.kind

def orderedDeletions (p : ImportPlan) : List ResourceRef :=
  p.deletions.mergeSort fun left right => importPhase right.kind ≤ importPhase left.kind

variable {w s mode source reattach documents}

theorem operations_eq (p : ImportPlan) : operations source p =
    (orderedItems p).flatMap (itemOperations source) ++
      (orderedDeletions p).flatMap fun ref => [.delete ref, .deleteOwnership ref] := rfl

theorem removedBy_congr {deletions deletions' : List ResourceRef} {row : StoredResource}
    (h : ∀ ref, ref ∈ deletions ↔ ref ∈ deletions') :
    removedBy deletions row = removedBy deletions' row := by
  unfold removedBy
  rw [Bool.eq_iff_iff, List.any_eq_true, List.any_eq_true]
  simp only [h]

theorem nodup_of_applicable
    (h : (plan w s mode source reattach documents).applicable = true) :
    (documents.map (·.ref)).Nodup := by
  unfold plan at h
  simp only [Bool.and_eq_true, decide_eq_true_eq] at h
  exact h.1.1

/-- **A successful import**: the plan was applicable, and its operations all succeed. -/
theorem applyBundle_ok (h : (applyBundle w s mode source reattach documents).2 = none) :
    (plan w s mode source reattach documents).applicable = true ∧
      (runOperations w source reattach s
        (operations source (plan w s mode source reattach documents))).2 = none ∧
      (applyBundle w s mode source reattach documents).1 =
        (runOperations w source reattach s
          (operations source (plan w s mode source reattach documents))).1 := by
  unfold applyBundle at h ⊢
  dsimp only at h ⊢
  cases happlicable : (plan w s mode source reattach documents).applicable with
  | false =>
    rw [happlicable] at h
    cases h
  | true =>
    rw [happlicable] at h
    exact ⟨rfl, h, rfl⟩

theorem orderedItems_nodup (h : (documents.map (·.ref)).Nodup) :
    ((orderedItems (plan w s mode source reattach documents)).map (·.document.ref)).Nodup := by
  have hitems : ((plan w s mode source reattach documents).items.map (·.document.ref)).Nodup := by
    show ((documents.map (planDocument w s mode source reattach)).map _).Nodup
    rw [List.map_map]
    exact h
  exact ((List.mergeSort_perm _ _).map _).nodup_iff.mpr hitems

theorem mem_orderedItems {item : PlanItem} :
    item ∈ orderedItems (plan w s mode source reattach documents) ↔
      ∃ document ∈ documents, planDocument w s mode source reattach document = item := by
  unfold orderedItems
  rw [List.mem_mergeSort]
  exact List.mem_map

/-- **The items of a successful import**, then its deletions. -/
theorem applyBundle_phases (h : (applyBundle w s mode source reattach documents).2 = none) :
    ∃ s' : TenantState,
      (∀ ref, s'.spec? ref = specBeforeDeletions w s mode source reattach documents ref) ∧
      (∀ document ∈ documents,
        writesItem source (planDocument w s mode source reattach document) = true →
          (specOfItem w source s (planDocument w s mode source reattach document)).isSome = true) ∧
      ∀ ref, (applyBundle w s mode source reattach documents).1.resources.get ref =
        (s'.resources.get ref).filter fun row =>
          !removedBy (planDeletions s mode source documents) row := by
  obtain ⟨happlicable, hok, hresult⟩ := applyBundle_ok h
  rw [operations_eq] at hok hresult
  obtain ⟨s', hitems, hrest⟩ := runOperations_append_ok hok
  rw [hrest] at hok hresult
  obtain ⟨hwritten, hothers⟩ := runItems_spec
    (orderedItems_nodup (nodup_of_applicable happlicable)) (by rw [hitems] :
      (runOperations w source reattach s _).2 = none)
  rw [hitems] at hwritten hothers
  refine ⟨s', fun ref => ?_, fun document hdocument => ?_, fun ref => ?_⟩
  · unfold specBeforeDeletions
    cases hfind : documents.find? fun document => document.ref == ref with
    | some document =>
      have href : document.ref = ref := by simpa using List.find?_some hfind
      have hmem := List.mem_of_find?_eq_some hfind
      have hitem := hwritten _ (mem_orderedItems.mpr ⟨document, hmem, rfl⟩)
      rw [← href]
      exact hitem.1
    | none =>
      refine hothers ref fun item hitem href => ?_
      obtain ⟨document, hdocument, rfl⟩ := mem_orderedItems.mp hitem
      have href' : document.ref = ref := href
      have hne := List.find?_eq_none.mp hfind document hdocument
      exact hne (by simpa using href')
  · exact (hwritten _ (mem_orderedItems.mpr ⟨document, hdocument, rfl⟩)).2
  · rw [hresult, runDeletions hok]
    refine congrArg (fun p => Option.filter p _) (funext fun row => ?_)
    exact congrArg (!·) (removedBy_congr fun ref => List.mem_mergeSort)

/-- **What a successful import leaves**: what is there before the deletions and is not deleted. -/
theorem applyBundle_spec? (h : (applyBundle w s mode source reattach documents).2 = none) :
    (applyBundle w s mode source reattach documents).1.spec? ref =
      (specBeforeDeletions w s mode source reattach documents ref).filter fun spec =>
        !removedBy (planDeletions s mode source documents) ⟨ref, spec⟩ := by
  obtain ⟨s', hspec, -, hresult⟩ := applyBundle_phases h
  rw [← hspec ref]
  unfold TenantState.spec?
  rw [hresult ref]
  cases hget : s'.resources.get ref with
  | none => rfl
  | some row =>
    obtain ⟨ref', spec⟩ := row
    obtain rfl : ref' = ref := Table.get_key hget
    rw [Option.map_some, Option.filter_some, Option.filter_some]
    split <;> rfl

/-! ## What is there -/

theorem not_blocked_of_applicable {document : ConfigDocument}
    (h : (plan w s mode source reattach documents).applicable = true)
    (hdocument : document ∈ documents) :
    (planDocument w s mode source reattach document).action ≠ .blocked := by
  intro hblocked
  unfold plan at h
  simp only [Bool.and_eq_true, List.all_eq_true, List.mem_map] at h
  have hnot := h.1.2 _ ⟨document, hdocument, rfl⟩
  rw [hblocked] at hnot
  cases hnot

theorem stores_of_action {document : ConfigDocument}
    (hcreate : (planDocument w s mode source reattach document).action ≠ .create)
    (hblocked : (planDocument w s mode source reattach document).action ≠ .blocked) :
    s.stores document.ref = true := by
  by_contra hnot
  have hmissing : s.stores document.ref = false := by simpa using hnot
  have hnone : s.spec? document.ref = none := by
    unfold TenantState.stores at hmissing
    simpa using hmissing
  have hdetached : skipsDetached s source reattach document = false := by
    unfold skipsDetached
    rw [hmissing]
    rfl
  have hstale : isStaleGeneration s source reattach document = false := by
    unfold isStaleGeneration
    rw [hmissing, Bool.and_false]
    rfl
  unfold planDocument at hcreate hblocked
  dsimp only at hcreate hblocked
  rw [hdetached, hstale, hmissing, hnone] at hcreate hblocked
  cases hown : w.blocked s.spec? document with
  | true =>
    rw [hown] at hblocked
    exact hblocked rfl
  | false =>
    rw [hown] at hcreate
    refine hcreate ?_
    simp

theorem isSome_specBeforeDeletions (h : (applyBundle w s mode source reattach documents).2 = none)
    (href : s.stores ref = true ∨
      ref.kind ≠ .KmsConfig ∧ ∃ document ∈ documents, document.ref = ref) :
    (specBeforeDeletions w s mode source reattach documents ref).isSome = true := by
  obtain ⟨-, -, hwritten, -⟩ := applyBundle_phases h
  obtain ⟨happlicable, -⟩ := applyBundle_ok h
  unfold specBeforeDeletions
  cases hfind : documents.find? fun document => document.ref == ref with
  | none =>
    rcases href with hstores | ⟨-, document, hdocument, heq⟩
    · exact hstores
    · exact absurd (by simpa using heq) (List.find?_eq_none.mp hfind document hdocument)
  | some document =>
    have hdocument : document ∈ documents := List.mem_of_find?_eq_some hfind
    have heq : document.ref = ref := by simpa using List.find?_some hfind
    cases hwrites : writesItem source (planDocument w s mode source reattach document) with
    | true => exact hwritten document hdocument hwrites
    | false =>
      have hstores : s.stores ref = true := by
        rcases href with hstores | ⟨hkms, -⟩
        · exact hstores
        · have hnotkms : (document.ref.kind == ConfigResourceKind.KmsConfig) = false := by
            simpa [heq] using hkms
          have hcreate :
              (planDocument w s mode source reattach document).action ≠ .create := by
            intro hcreate
            unfold writesItem at hwrites
            rw [hcreate, show (planDocument w s mode source reattach document).document = document
              from rfl, hnotkms] at hwrites
            cases hwrites
          rw [← heq]
          exact stores_of_action hcreate (not_blocked_of_applicable happlicable hdocument)
      show (specOfItem w source s (planDocument w s mode source reattach document)).isSome = true
      unfold specOfItem
      rw [hwrites, if_neg Bool.false_ne_true]
      rw [← heq] at hstores
      exact hstores

end Portability

end Eudiplo
