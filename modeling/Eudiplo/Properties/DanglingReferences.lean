import Eudiplo.Portability.Outcome

/-!
# Do references resolve after an import?

The references of the documents are checked against what is there after the deletions.  Those of the
resources that stay are not: one that nobody manages, or another source, may refer to what a
replacing import deletes, and a deleted key chain takes its trust lists with it.
-/

namespace Eudiplo

open Storage

namespace Portability

/-! ## The claim -/

/-- Every reference of a stored resource resolves. -/
def Resolves (s : TenantState) : Prop :=
  ∀ ref spec, s.spec? ref = some spec → ∀ target ∈ references spec, s.stores target = true

variable (w : PortabilityWorld) (s : TenantState) (mode : ConfigImportMode) (source : String)
  (reattach : Bool) (documents : List ConfigDocument)

/-- What the bundle or the stored spec of a resource refers to. -/
def KnownReference (ref target : ResourceRef) : Prop :=
  (∃ document ∈ documents, document.ref = ref ∧ target ∈ references document.spec) ∨
    ∃ spec, s.spec? ref = some spec ∧ target ∈ references spec

/-- **The condition on the import**: no resource that stays refers to one that goes, and an importer
that adds a reference of its own adds one to a resource that is there. -/
structure LeavesReferences : Prop where
  deleted : ∀ ref spec target spec',
    specBeforeDeletions w s mode source reattach documents ref = some spec →
      removedBy (planDeletions s mode source documents) ⟨ref, spec⟩ = false →
        target ∈ references spec →
          specBeforeDeletions w s mode source reattach documents target = some spec' →
            removedBy (planDeletions s mode source documents) ⟨target, spec'⟩ = false
  added : ∀ ref spec target,
    specBeforeDeletions w s mode source reattach documents ref = some spec →
      removedBy (planDeletions s mode source documents) ⟨ref, spec⟩ = false →
        target ∈ references spec → ¬KnownReference s documents ref target →
          (specBeforeDeletions w s mode source reattach documents target).isSome = true

/-! ## References -/

variable {w s mode source reattach documents} {ref target : ResourceRef}

theorem kind_of_mem_referenceTo {kind : ConfigResourceKind} {item : Json}
    (h : target ∈ referenceTo kind item) : target.kind = kind := by
  unfold referenceTo at h
  split at h
  · split at h
    · cases h
    · rw [List.mem_singleton.mp h]
  · cases h

theorem referenceTarget_ne {key : String} {kind : ConfigResourceKind}
    (h : referenceTarget key = some kind) : kind ≠ .KmsConfig := by
  rintro rfl
  unfold referenceTarget at h
  dsimp only at h
  split at h
  · cases h
  · split at h <;> cases h

theorem arrayReferenceTarget_ne {key : String} {kind : ConfigResourceKind}
    (h : arrayReferenceTarget key = some kind) : kind ≠ .KmsConfig := by
  rintro rfl
  unfold arrayReferenceTarget at h
  split at h <;> cases h

theorem kind_of_mem_fieldReferences {key : String} {item : Json}
    (h : target ∈ fieldReferences key item) : target.kind ≠ .KmsConfig := by
  unfold fieldReferences at h
  rcases List.mem_append.mp h with h | h
  · cases hkind : referenceTarget key with
    | none =>
      rw [hkind] at h
      cases h
    | some kind =>
      rw [hkind] at h
      exact kind_of_mem_referenceTo h ▸ referenceTarget_ne hkind
  · cases hkind : arrayReferenceTarget key with
    | none =>
      rw [hkind] at h
      cases h
    | some kind =>
      rw [hkind] at h
      obtain ⟨_, -, hin⟩ := List.mem_flatMap.mp h
      exact kind_of_mem_referenceTo hin ▸ arrayReferenceTarget_ne hkind

mutual

theorem kind_of_mem_references : ∀ {spec : Json}, target ∈ references spec →
    target.kind ≠ .KmsConfig
  | .arr items, h => kind_of_mem_itemReferences (by simpa only [references] using h)
  | .obj members, h => kind_of_mem_memberReferences (by simpa only [references] using h)
  | .null, h => by cases h
  | .bool _, h => by cases h
  | .num _ _, h => by cases h
  | .str _, h => by cases h

theorem kind_of_mem_itemReferences : ∀ {items : List Json}, target ∈ itemReferences items →
    target.kind ≠ .KmsConfig
  | [], h => by cases h
  | item :: items, h => by
    simp only [itemReferences] at h
    rcases List.mem_append.mp h with h | h
    · exact kind_of_mem_references h
    · exact kind_of_mem_itemReferences h

theorem kind_of_mem_memberReferences : ∀ {members : List (String × Json)},
    target ∈ memberReferences members → target.kind ≠ .KmsConfig
  | [], h => by cases h
  | (key, item) :: members, h => by
    simp only [memberReferences] at h
    rcases List.mem_append.mp h with h | h
    · rcases List.mem_append.mp h with h | h
      · exact kind_of_mem_fieldReferences h
      · exact kind_of_mem_references h
    · exact kind_of_mem_memberReferences h

end

/-! ## What a known reference resolves to -/

theorem available_of_applicable
    (h : (plan w s mode source reattach documents).applicable = true)
    {document : ConfigDocument} (hdocument : document ∈ documents)
    (htarget : target ∈ references document.spec) :
    s.stores target = true ∨ ∃ document ∈ documents, document.ref = target := by
  unfold plan isAvailable at h
  simp only [Bool.and_eq_true, List.all_eq_true, Bool.or_eq_true, List.any_eq_true,
    beq_iff_eq] at h
  exact (h.2 document hdocument target htarget).1

/-- **A known reference** is to a resource that is there before the deletions. -/
theorem isSome_of_known (hbefore : Resolves s)
    (hok : (applyBundle w s mode source reattach documents).2 = none)
    (hknown : KnownReference s documents ref target) :
    (specBeforeDeletions w s mode source reattach documents target).isSome = true := by
  refine isSome_specBeforeDeletions hok ?_
  rcases hknown with ⟨document, hdocument, -, htarget⟩ | ⟨spec, hspec, htarget⟩
  · rcases available_of_applicable (applyBundle_ok hok).1 hdocument htarget with hstores | hin
    · exact .inl hstores
    · exact .inr ⟨kind_of_mem_references htarget, hin⟩
  · exact .inl (hbefore ref spec hspec target htarget)

/-! ## The claim, for every import -/

variable (w s mode source reattach documents)

/-- **After a successful import** every reference resolves, exactly when no resource that stays
refers to one that goes. -/
theorem resolves_after_import (hbefore : Resolves s)
    (hok : (applyBundle w s mode source reattach documents).2 = none) :
    Resolves (applyBundle w s mode source reattach documents).1 ↔
      LeavesReferences w s mode source reattach documents := by
  have hafter (ref : ResourceRef) (spec : Json) :
      (applyBundle w s mode source reattach documents).1.spec? ref = some spec ↔
        specBeforeDeletions w s mode source reattach documents ref = some spec ∧
          removedBy (planDeletions s mode source documents) ⟨ref, spec⟩ = false := by
    rw [applyBundle_spec? hok, Option.filter_eq_some_iff]
    simp
  have hstores (target : ResourceRef) :
      (applyBundle w s mode source reattach documents).1.stores target = true ↔
        ∃ spec, specBeforeDeletions w s mode source reattach documents target = some spec ∧
          removedBy (planDeletions s mode source documents) ⟨target, spec⟩ = false := by
    unfold TenantState.stores
    rw [Option.isSome_iff_exists]
    exact exists_congr fun spec => hafter target spec
  constructor
  · intro h
    constructor
    · intro ref spec target spec' hspec hstays htarget hspec'
      obtain ⟨spec'', hspec'', hkept⟩ :=
        (hstores target).mp (h ref spec ((hafter ref spec).mpr ⟨hspec, hstays⟩) target htarget)
      obtain rfl := Option.some.inj (hspec'.symm.trans hspec'')
      exact hkept
    · intro ref spec target hspec hstays htarget _
      obtain ⟨spec', hspec', -⟩ :=
        (hstores target).mp (h ref spec ((hafter ref spec).mpr ⟨hspec, hstays⟩) target htarget)
      rw [hspec']
      rfl
  · intro h ref spec hspec target htarget
    obtain ⟨hbeforeDeletions, hstays⟩ := (hafter ref spec).mp hspec
    have hthere :
        (specBeforeDeletions w s mode source reattach documents target).isSome = true := by
      by_cases hknown : KnownReference s documents ref target
      · exact isSome_of_known hbefore hok hknown
      · exact h.added ref spec target hbeforeDeletions hstays htarget hknown
    obtain ⟨spec', hspec'⟩ := Option.isSome_iff_exists.mp hthere
    exact (hstores target).mpr
      ⟨spec', hspec', h.deleted ref spec target spec' hbeforeDeletions hstays htarget hspec'⟩

/-! ## A presentation that nobody manages -/

private def hookRef : ResourceRef := ⟨.WebhookEndpoint, "hook"⟩

private def presentationRef : ResourceRef := ⟨.PresentationConfig, "login"⟩

private def presentationDocument : ConfigDocument :=
  { ref := presentationRef, spec := .obj [("webhookEndpointId", .str "hook")] }

private def emptyTenant : TenantState := ⟨.empty, .empty⟩

/-- The endpoint is of the bundle, the presentation was made by hand. -/
private def mixedTenant : TenantState :=
  let hook : TenantState := (emptyTenant.putSpec hookRef (.obj [])).putMetadata
    { ref := hookRef, ownership := .fileManaged, generation := 1, source := some "bundle:t" }
  hook.putSpec presentationRef presentationDocument.spec

private theorem mixedTenant_resolves : Resolves mixedTenant := by
  intro ref spec hspec target htarget
  unfold mixedTenant at hspec
  rw [TenantState.spec?_putSpec, TenantState.spec?_putMetadata, TenantState.spec?_putSpec] at hspec
  split at hspec
  · obtain rfl := Option.some.inj hspec
    have hrefs : references presentationDocument.spec = [hookRef] := by decide +kernel
    rw [hrefs] at htarget
    obtain rfl := List.mem_singleton.mp htarget
    decide +kernel
  · split at hspec
    · obtain rfl := Option.some.inj hspec
      cases htarget
    · cases hspec

theorem resolves_after_import_presentation :
    Resolves (applyBundle storingWorld mixedTenant .upsert "bundle:t" false
        [presentationDocument]).1 ↔
      LeavesReferences storingWorld mixedTenant .upsert "bundle:t" false
        [presentationDocument] :=
  resolves_after_import storingWorld mixedTenant .upsert "bundle:t" false [presentationDocument]
    mixedTenant_resolves (by decide +kernel)

/-- A replacing import of the bundle without the endpoint deletes it. -/
theorem not_resolves_after_import :
    ¬∀ (w : PortabilityWorld) (s : TenantState) (mode : ConfigImportMode) (source : String)
      (reattach : Bool) (documents : List ConfigDocument), Resolves s →
      (applyBundle w s mode source reattach documents).2 = none →
        Resolves (applyBundle w s mode source reattach documents).1 := by
  intro h
  have hafter := h storingWorld mixedTenant .replace "bundle:t" false [] mixedTenant_resolves
    (by decide +kernel)
  have hkept : ((applyBundle storingWorld mixedTenant .replace "bundle:t" false []).1.spec?
      presentationRef).map references = some [hookRef] := by decide +kernel
  obtain ⟨spec, hspec, hrefs⟩ := Option.map_eq_some_iff.mp hkept
  have hstores := hafter presentationRef spec hspec hookRef (hrefs ▸ List.mem_singleton_self _)
  revert hstores
  decide +kernel

end Portability

end Eudiplo
