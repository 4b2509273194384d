import Eudiplo.Portability.Bundle

/-!
# What an import touches

An operation of an import touches the resource that it names; the deletion of a key chain also the
trust lists that refer to it.
-/

namespace Eudiplo

open Storage

namespace Portability

variable {w : PortabilityWorld} {s s' : TenantState} {source : String} {reattach : Bool}
  {ref : ResourceRef}

def Operation.target : Operation → ResourceRef
  | .resource document => document.ref
  | .ownership ref _ => ref
  | .resourceAndOwnership document => document.ref
  | .delete ref => ref
  | .deleteOwnership ref => ref

/-- Is this a trust list of the key chain that the operation deletes? -/
def Cascades (s : TenantState) (operation : Operation) (ref : ResourceRef) : Prop :=
  ∃ keyChain row, operation = .delete keyChain ∧ keyChain.kind = .KeyChain ∧
    s.resources.get ref = some row ∧ keyChainOf row = some keyChain.id

/-- The resource and its owner are as they were. -/
structure Untouched (s s' : TenantState) (ref : ResourceRef) : Prop where
  resource : s'.resources.get ref = s.resources.get ref
  owner : s'.ownership.get ref = s.ownership.get ref

theorem Untouched.refl (s : TenantState) (ref : ResourceRef) : Untouched s s ref := ⟨rfl, rfl⟩

theorem Untouched.trans {s'' : TenantState} (h : Untouched s s' ref) (h' : Untouched s' s'' ref) :
    Untouched s s'' ref :=
  ⟨h'.resource.trans h.resource, h'.owner.trans h.owner⟩

theorem resources_putSpec_of_ne {ref' : ResourceRef} {spec : Json} (h : ref' ≠ ref) :
    (s.putSpec ref' spec).resources.get ref = s.resources.get ref := by
  unfold TenantState.putSpec
  dsimp only
  rw [Table.get_upsert, if_neg h]

theorem markApplied_ok {generation : Nat} {allowed : Bool}
    (h : markApplied s ref generation source allowed = .ok s') :
    (allowed = true ∨ (metadataOf s ref).generation ≤ generation) ∧
      s' = s.putMetadata ⟨ref, .fileManaged, generation, some source⟩ := by
  unfold markApplied at h
  split at h
  · cases h
  · rename_i hstale
    refine ⟨?_, (Except.ok.inj h).symm⟩
    cases allowed with
    | true => exact .inl rfl
    | false =>
      right
      simpa using hstale

theorem resources_deleteResource (ref' : ResourceRef) :
    (deleteResource s ref').resources.get ref = (s.resources.get ref).filter fun row =>
      !(row.ref == ref' || (ref'.kind == .KeyChain && keyChainOf row == some ref'.id)) :=
  Table.get_deleteWhere _ _ _

theorem resources_deleteResource_self : (deleteResource s ref).resources.get ref = none := by
  rw [resources_deleteResource]
  refine Option.filter_eq_none_iff.mpr fun row hget => ?_
  simp [Table.get_key hget]

/-! ## Operations that succeed -/

theorem runOperation_resource_ok {document : ConfigDocument}
    (h : runOperation w source reattach s (.resource document) = .ok s') :
    ∃ spec, w.store (s.spec? document.ref) document = some spec ∧
      s' = s.putSpec document.ref spec := by
  simp only [runOperation] at h
  split at h
  · rename_i spec hstore
    exact ⟨spec, hstore, (Except.ok.inj h).symm⟩
  · cases h

theorem runOperation_resourceAndOwnership_ok {document : ConfigDocument}
    (h : runOperation w source reattach s (.resourceAndOwnership document) = .ok s') :
    ∃ spec, w.store (s.spec? document.ref) document = some spec ∧
      markApplied (s.putSpec document.ref spec) document.ref document.generationOf source
        reattach = .ok s' := by
  simp only [runOperation] at h
  split at h
  · rename_i spec hstore
    exact ⟨spec, hstore, h⟩
  · cases h

theorem runOperation_delete_ok {deleted : ResourceRef}
    (h : runOperation w source reattach s (.delete deleted) = .ok s') :
    deleted.kind ≠ .Tenant ∧ w.refusesDeletion s deleted = false ∧
      s' = deleteResource s deleted := by
  simp only [runOperation] at h
  split at h
  · cases h
  · rename_i hkind
    split at h
    · cases h
    · rename_i hrefuses
      exact ⟨hkind, Bool.eq_false_iff.mpr hrefuses, (Except.ok.inj h).symm⟩

/-! ## Frames -/

/-- **One operation** leaves what it neither names nor takes along. -/
theorem runOperation_untouched {operation : Operation}
    (h : runOperation w source reattach s operation = .ok s') (hne : operation.target ≠ ref)
    (hcascade : ¬Cascades s operation ref) : Untouched s s' ref := by
  cases operation with
  | resource document =>
    obtain ⟨spec, -, rfl⟩ := runOperation_resource_ok h
    exact ⟨resources_putSpec_of_ne hne, rfl⟩
  | ownership ref' generation =>
    obtain ⟨-, rfl⟩ := markApplied_ok h
    have hother : ref' ≠ ref := hne
    exact ⟨rfl, by rw [TenantState.get_putMetadata, if_neg hother]⟩
  | resourceAndOwnership document =>
    obtain ⟨spec, -, hmark⟩ := runOperation_resourceAndOwnership_ok h
    obtain ⟨-, rfl⟩ := markApplied_ok hmark
    have hother : document.ref ≠ ref := hne
    refine ⟨resources_putSpec_of_ne hother, ?_⟩
    rw [TenantState.get_putMetadata, if_neg hother]
    rfl
  | delete ref' =>
    obtain ⟨-, -, rfl⟩ := runOperation_delete_ok h
    refine ⟨?_, rfl⟩
    rw [resources_deleteResource]
    cases hrow : s.resources.get ref with
    | none => rfl
    | some row =>
      refine Option.filter_some_pos ?_
      have hrowne : row.ref ≠ ref' := fun heq => hne (heq.symm.trans (Table.get_key hrow))
      have hchain : ¬(ref'.kind = .KeyChain ∧ keyChainOf row = some ref'.id) :=
        fun ⟨hkind, hchain⟩ => hcascade ⟨ref', row, rfl, hkind, hrow, hchain⟩
      rw [not_and_or] at hchain
      simpa [hrowne] using hchain
  | deleteOwnership ref' =>
    obtain rfl := Except.ok.inj h
    have hother : ref ≠ ref' := Ne.symm hne
    exact ⟨rfl, by rw [TenantState.get_removeMetadata, if_neg hother]⟩

/-- **The operations of an import** leave what none of them names or takes along. -/
theorem runOperations_untouched {ops : List Operation}
    (hne : ∀ operation ∈ ops, operation.target ≠ ref)
    (hcascade : ∀ operation ∈ ops, ¬Cascades s operation ref) :
    Untouched s (runOperations w source reattach s ops).1 ref := by
  induction ops generalizing s with
  | nil => exact .refl s ref
  | cons operation ops ih =>
    unfold runOperations
    split
    · rename_i s' hok
      have hstep := runOperation_untouched hok (hne operation List.mem_cons_self)
        (hcascade operation List.mem_cons_self)
      refine hstep.trans (ih (fun o ho => hne o (List.mem_cons_of_mem _ ho)) fun o ho => ?_)
      rintro ⟨keyChain, row, rfl, hkind, hrow, hchain⟩
      exact hcascade _ (List.mem_cons_of_mem _ ho)
        ⟨keyChain, row, rfl, hkind, hstep.resource.symm.trans hrow, hchain⟩
    · exact .refl s ref

/-! ## The operations of a plan -/

variable {mode : ConfigImportMode} {documents : List ConfigDocument} {operation : Operation}

theorem mem_operations {p : ImportPlan} : operation ∈ operations source p ↔
    (∃ item ∈ p.items, operation ∈ itemOperations source item) ∨
      ∃ ref ∈ p.deletions, operation = .delete ref ∨ operation = .deleteOwnership ref := by
  unfold operations
  rw [List.mem_append, List.mem_flatMap, List.mem_flatMap]
  simp only [List.mem_mergeSort, List.mem_cons, List.not_mem_nil, or_false]

theorem itemOperations_target {item : PlanItem} (h : operation ∈ itemOperations source item) :
    operation.target = item.document.ref ∧ (∀ ref, operation ≠ .delete ref) ∧
      ∀ ref, operation ≠ .deleteOwnership ref := by
  unfold itemOperations at h
  dsimp only at h
  split at h
  · cases h
  · split at h
    · obtain rfl := List.mem_singleton.mp h
      exact ⟨rfl, nofun, nofun⟩
    · split at h
      · rcases List.mem_pair.mp h with rfl | rfl
        · exact ⟨rfl, nofun, nofun⟩
        · exact ⟨rfl, nofun, nofun⟩
      · obtain rfl := List.mem_singleton.mp h
        exact ⟨rfl, nofun, nofun⟩

theorem itemOperations_of_skip {item : PlanItem}
    (h : item.action = .skip ∨ item.action = .blocked) :
    itemOperations source item = [] := by
  unfold itemOperations
  rcases h with h | h <;> rw [h] <;> rfl

theorem mem_planDeletions : ref ∈ planDeletions s mode source documents ↔ mode = .replace ∧
    (∃ m, s.ownership.get ref = some m ∧ m.ownership = .fileManaged ∧
      sourceInScope m.source source = true) ∧ ref.kind ≠ .Tenant ∧
      ∀ document ∈ documents, document.ref ≠ ref := by
  unfold planDeletions
  by_cases hmode : mode = .replace
  · rw [if_pos hmode, List.mem_map]
    constructor
    · rintro ⟨m, hm, rfl⟩
      obtain ⟨hget, hp⟩ := Table.mem_select.mp hm
      simp only [Bool.and_eq_true, beq_iff_eq, bne_iff_ne, Bool.not_eq_true', List.any_eq_false,
        ne_eq] at hp
      exact ⟨hmode, ⟨m, hget, hp.1.1.1, hp.1.1.2⟩, hp.1.2, hp.2⟩
    · rintro ⟨-, ⟨m, hget, hmanaged, hscope⟩, hkind, hnone⟩
      have href : m.ref = ref := Table.get_key hget
      refine ⟨m, Table.mem_select.mpr ⟨by rw [href]; exact hget, ?_⟩, href⟩
      simp only [Bool.and_eq_true, beq_iff_eq, bne_iff_ne, Bool.not_eq_true', List.any_eq_false,
        ne_eq]
      exact ⟨⟨⟨hmanaged, hscope⟩, by rw [href]; exact hkind⟩, by rw [href]; exact hnone⟩
  · rw [if_neg hmode]
    constructor
    · nofun
    · rintro ⟨hreplace, -⟩
      exact absurd hreplace hmode

theorem target_ne_of_items (hitem : ∀ document ∈ documents, document.ref = ref →
      itemOperations source (planDocument w s mode source reattach document) = [])
    (hdeleted : ref ∉ planDeletions s mode source documents) :
    ∀ operation ∈ operations source (plan w s mode source reattach documents),
      operation.target ≠ ref := by
  intro operation hoperation htarget
  rcases mem_operations.mp hoperation with ⟨item, hitem', hin⟩ | ⟨ref', href', hin⟩
  · obtain ⟨document, hdocument, rfl⟩ := List.mem_map.mp hitem'
    have hnone := hitem document hdocument ((itemOperations_target hin).1.symm.trans htarget)
    rw [hnone] at hin
    cases hin
  · rcases hin with rfl | rfl
    · obtain rfl : ref' = ref := htarget
      exact hdeleted href'
    · obtain rfl : ref' = ref := htarget
      exact hdeleted href'

end Portability

end Eudiplo
