import Mathlib.Data.Rat.Floor
import Eudiplo.Properties.BundleRoundTrip
import Eudiplo.Properties.Envelopes

/-!
# Migrating documents

`migrateDocument` on values with identities.  A step makes its result of what it is given and of new
objects; a validator reads the value of a document.  `handed` is every value that one of them was
given.
-/

namespace Eudiplo

open Portability

namespace ConfigFormat

/-! ## Issues -/

inductive Severity where
  | warning
  | requiredInput
  | error
  deriving DecidableEq

/-- `ConfigMigrationIssue`. -/
structure MigrationIssue where
  severity : Severity
  code : String
  path : String
  message : String
  resource : Option (ConfigResourceKind × String)

/-- Is there an issue that is not a warning? -/
def blocked (issues : List MigrationIssue) : Bool :=
  issues.any fun issue => issue.severity != .warning

/-! ## Steps -/

structure MigrationResult where
  spec : RefJson
  metadata : Option RefJson
  issues : List MigrationIssue

/-- `result.metadata ?? document.metadata`. -/
def MigrationResult.metadataOr (result : MigrationResult) (metadata : RefJson) : RefJson :=
  match result.metadata with
  | none | some .null => metadata
  | some own => own

def MigrationResult.ids (result : MigrationResult) : List Nat :=
  result.spec.ids ++ (result.metadata.map RefJson.ids).getD []

/-- `ConfigMigration`.  What a step returns has objects that it was given, or new ones. -/
structure ConfigMigration where
  id : String
  kind : ConfigResourceKind
  fromVersion : Rat
  toVersion : Rat
  migrate : Nat → RefJson → RefJson → Checked (MigrationResult × Nat)
  reaches : ∀ {next spec metadata result next'}, migrate next spec metadata = .ok (result, next') →
    next ≤ next' ∧ ∀ id ∈ result.ids, id ∈ spec.ids ∨ id ∈ metadata.ids ∨ next ≤ id

def keepSpec (id : String) (kind : ConfigResourceKind) (fromVersion toVersion : Rat) :
    ConfigMigration where
  id := id
  kind := kind
  fromVersion := fromVersion
  toVersion := toVersion
  migrate next spec _ := .ok (⟨spec, none, []⟩, next)
  reaches := by
    intro next spec metadata result next' h
    obtain ⟨rfl, rfl⟩ := Prod.mk.inj (Except.ok.inj h)
    refine ⟨Nat.le_refl _, fun id hid => .inl ?_⟩
    simpa [MigrationResult.ids] using hid

/-- `{ ...members, [name]: v }`, where there is such a member. -/
def spreadMember (name : String) (v : RefJson) (members : List (String × RefJson)) :
    List (String × RefJson) :=
  members.map fun member => if member.1 = name then (name, v) else member

theorem mem_idsMembers {members : List (String × RefJson)} {id : Nat} :
    id ∈ RefJson.idsMembers members ↔ ∃ member ∈ members, id ∈ member.2.ids := by
  induction members with
  | nil => exact iff_of_false (fun h => (nomatch h)) fun ⟨_, h, _⟩ => (nomatch h)
  | cons member members ih =>
    obtain ⟨name, v⟩ := member
    rw [List.exists_mem_cons_iff, ← ih]
    exact List.mem_append

theorem ids_spreadMember {name : String} {v : RefJson} {members : List (String × RefJson)}
    {id : Nat} (h : id ∈ RefJson.idsMembers (spreadMember name v members)) :
    id ∈ v.ids ∨ id ∈ RefJson.idsMembers members := by
  obtain ⟨member, hmember, hid⟩ := mem_idsMembers.mp h
  obtain ⟨old, hold, rfl⟩ := List.mem_map.mp hmember
  split at hid
  · exact .inl hid
  · exact .inr (mem_idsMembers.mpr ⟨old, hold, hid⟩)

theorem ids_field? {name : String} {v member : RefJson} {id : Nat} (h : v.field? name = some member)
    (hid : id ∈ member.ids) : id ∈ v.ids := by
  cases v with
  | obj _ members =>
    obtain ⟨found, hfound, rfl⟩ := Option.map_eq_some_iff.mp h
    exact List.mem_cons_of_mem _ (mem_idsMembers.mpr ⟨found, List.mem_of_find?_eq_some hfound, hid⟩)
  | null => cases h
  | bool b => cases h
  | num m e => cases h
  | str s => cases h
  | arr id items => cases h

/-- The spec without `registration_cert.body.provided_attestations`. -/
def withoutProvidedAttestations (next : Nat) (spec : RefJson) : Option RefJson :=
  match spec, spec.field? "registration_cert" with
  | .obj _ members, some (.obj certId cert) =>
    match (RefJson.obj certId cert).field? "body" with
    | some (.obj _ body) =>
      if body.any (·.1 == "provided_attestations") then
        let body := RefJson.obj next (body.filter (·.1 != "provided_attestations"))
        let registrationCert := RefJson.obj (next + 1) (spreadMember "body" body cert)
        some (.obj (next + 2) (spreadMember "registration_cert" registrationCert members))
      else none
    | _ => none
  | _, _ => none

theorem ids_withoutProvidedAttestations {next : Nat} {spec spec' : RefJson}
    (h : withoutProvidedAttestations next spec = some spec') {id : Nat} (hid : id ∈ spec'.ids) :
    id ∈ spec.ids ∨ next ≤ id := by
  unfold withoutProvidedAttestations at h
  split at h
  · rename_i specId members certId cert hcert
    split at h
    · rename_i bodyId body hbody
      split at h
      · obtain rfl := Option.some.inj h
        obtain rfl | hid := List.mem_cons.mp hid
        · exact .inr (Nat.le_add_right next 2)
        obtain hid | hid := ids_spreadMember hid
        · obtain rfl | hid := List.mem_cons.mp hid
          · exact .inr (Nat.le_add_right next 1)
          obtain hid | hid := ids_spreadMember hid
          · obtain rfl | hid := List.mem_cons.mp hid
            · exact .inr (Nat.le_refl _)
            obtain ⟨member, hmember, hid⟩ := mem_idsMembers.mp hid
            have hbody' : id ∈ (RefJson.obj bodyId body).ids := List.mem_cons_of_mem _
              (mem_idsMembers.mpr ⟨member, List.mem_of_mem_filter hmember, hid⟩)
            exact .inl (ids_field? hcert (ids_field? hbody hbody'))
          · exact .inl (ids_field? hcert (List.mem_cons_of_mem _ hid))
        · exact .inl (List.mem_cons_of_mem _ hid)
      · cases h
    · cases h
  · cases h

def presentationConfigV1ToV2 : ConfigMigration where
  id := "presentation-config-v2-provides-attestations"
  kind := .PresentationConfig
  fromVersion := 1
  toVersion := 2
  migrate next spec _ :=
    match withoutProvidedAttestations next spec with
    | none => .ok (⟨spec, none, []⟩, next)
    | some spec' =>
      .ok (⟨spec', none, [⟨.warning, "PROVIDED_ATTESTATIONS_REMOVED",
        "/spec/registration_cert/body/provided_attestations",
        "provided_attestations is not part of the registrar API and was removed. Set " ++
          "provides_attestations to the credential type identifiers (SD-JWT VC vct or mdoc " ++
          "doctype) the issuer provides.", none⟩]⟩, next + 3)
  reaches := by
    intro next spec metadata result next' h
    split at h
    · obtain ⟨rfl, rfl⟩ := Prod.mk.inj (Except.ok.inj h)
      refine ⟨Nat.le_refl _, fun id hid => .inl ?_⟩
      simpa [MigrationResult.ids] using hid
    · rename_i spec' hspec'
      obtain ⟨rfl, rfl⟩ := Prod.mk.inj (Except.ok.inj h)
      refine ⟨Nat.le_add_right _ _, fun id hid => ?_⟩
      have hid' : id ∈ spec'.ids := by simpa [MigrationResult.ids] using hid
      obtain hold | hnew := ids_withoutProvidedAttestations hspec' hid'
      · exact .inl hold
      · exact .inr (.inr hnew)

/-- `CONFIG_MIGRATIONS`. -/
def configMigrations : List ConfigMigration :=
  [keepSpec "issuance-config-v2-offer-lifetime" .IssuanceConfig 1 2,
    keepSpec "issuance-config-v3-trust-list-verifier-pem" .IssuanceConfig 2 3,
    presentationConfigV1ToV2,
    keepSpec "presentation-config-v3-typed-claim-values" .PresentationConfig 2 3]

/-! ## Migration -/

structure DocumentValue where
  kind : ConfigResourceKind
  version : Nat
  metadata : Json
  spec : Json

def RefDocument.value (document : RefDocument) : DocumentValue :=
  ⟨document.kind, document.version, document.metadata.erase, document.spec.erase⟩

def RefDocument.toRef (id : Nat) (document : RefDocument) : RefJson :=
  .obj id [("$schema", .str (schemaUrl document.kind document.version)),
    ("kind", .str document.kind.name), ("metadata", document.metadata), ("spec", document.spec)]

abbrev ConfigValidator := DocumentValue → Checked (List MigrationIssue)

/-- What `migrateDocument` has and returns, and what it has handed to the steps and the validator.
-/
structure MigrationRun where
  document : RefDocument
  migrations : List String
  issues : List MigrationIssue
  next : Nat
  handed : List RefJson

def isSafeInteger (number : Rat) : Bool :=
  number.den == 1 && number.num.natAbs ≤ maxSafeInteger

section Migration

variable (validate : ConfigValidator) (migrations : List ConfigMigration)

def adopt (step : ConfigMigration) (version : Nat) (result : MigrationResult)
    (run : MigrationRun) : Checked MigrationRun :=
  let run := { run with issues := run.issues ++ result.issues }
  if blocked run.issues then .ok run
  else do
    let candidate : RefDocument :=
      ⟨run.document.kind, version + 1, result.metadataOr run.document.metadata, result.spec⟩
    let found ← validate candidate.value
    let run := { run with
      issues := run.issues ++ found
      handed := run.handed ++ [candidate.metadata, candidate.spec] }
    if blocked run.issues then return run
    else return { run with document := candidate, migrations := run.migrations ++ [step.id] }

def migrateVersion (kind : ConfigResourceKind) (version : Nat) (run : MigrationRun) :
    Checked MigrationRun :=
  match migrations.filter fun step => step.kind = kind ∧ step.fromVersion = (version : Rat) with
  | [step] =>
    if step.toVersion = ((version + 1 : Nat) : Rat) then do
      let spec := run.document.spec.clone run.next
      let metadata := run.document.metadata.clone spec.2
      let returned ← step.migrate metadata.2 spec.1 metadata.1
      adopt validate step version returned.1 { run with
        next := returned.2
        handed := run.handed ++ [spec.1, metadata.1] }
    else .error ("No unique migration registered for " ++ kind.name ++ " v" ++ toString version ++
      " to v" ++ toString (version + 1))
  | _ => .error ("No unique migration registered for " ++ kind.name ++ " v" ++ toString version ++
      " to v" ++ toString (version + 1))

def migrateVersions (kind : ConfigResourceKind) :
    Nat → Nat → MigrationRun → Checked MigrationRun
  | 0, _, run => .ok run
  | remaining + 1, version, run => do
    let run ← migrateVersion validate migrations kind version run
    if blocked run.issues then return run
    else migrateVersions kind remaining (version + 1) run

/-- `targetVersion ?? CONFIG_FORMATS[kind].version`. -/
def migrationTarget (kind : ConfigResourceKind) (targetVersion : Option Rat) : Rat :=
  targetVersion.getD ((configFormat kind).2 : Nat)

/-- `migrateDocument` from the normalized document on. -/
def migrateNormalized (targetVersion : Option Rat) (document : RefDocument) (next : Nat) :
    Checked MigrationRun :=
  let target := migrationTarget document.kind targetVersion
  if !isSafeInteger target || target < (document.version : Rat) then
    .error "Config downgrades are not supported"
  else do
    let issues ← validate document.value
    let run : MigrationRun := ⟨document, [], issues, next, [document.metadata, document.spec]⟩
    let remaining := target.num.toNat - document.version
    if blocked issues then return run
    else migrateVersions validate migrations document.kind remaining document.version run

def migrateDocument (targetVersion : Option Rat) (next : Nat) (input : RefJson) :
    Checked MigrationRun := do
  let normalized ← normalizeRefs next input
  migrateNormalized validate migrations targetVersion normalized.1 normalized.2

end Migration

end ConfigFormat

end Eudiplo

/-!
# What a migration returns

A migration advances a document step by step (`Advance`): each step is the only one that is
registered for the version, and each document is validated.  What the steps and the validator are
given is never an object of the input. -/

namespace Eudiplo

open Portability Results

namespace ConfigFormat

section Migration

variable {validate : ConfigValidator} {migrations : List ConfigMigration}

theorem blocked_append (a b : List MigrationIssue) :
    blocked (a ++ b) = (blocked a || blocked b) :=
  List.any_append

/-! ## One step -/

/-- A step takes a document to a candidate: it is the only step of the kind from the version, it
goes to the next version, and neither the step nor the validator has an issue that blocks. -/
structure Advance (validate : ConfigValidator) (migrations : List ConfigMigration)
    (document : RefDocument) (step : ConfigMigration) (candidate : RefDocument) : Prop where
  unique : (migrations.filter fun other =>
    other.kind = document.kind ∧ other.fromVersion = (document.version : Rat)) = [step]
  toNext : step.toVersion = ((document.version + 1 : Nat) : Rat)
  kind : candidate.kind = document.kind
  version : candidate.version = document.version + 1
  made : ∃ next spec metadata result next', spec.erase = document.spec.erase ∧
    metadata.erase = document.metadata.erase ∧
    step.migrate next spec metadata = .ok (result, next') ∧ blocked result.issues = false ∧
    candidate.spec = result.spec ∧ candidate.metadata = result.metadataOr document.metadata
  validated : ∃ issues, validate candidate.value = .ok issues ∧ blocked issues = false

/-- **Steps one after the other.** -/
inductive Advances (validate : ConfigValidator) (migrations : List ConfigMigration) :
    RefDocument → List ConfigMigration → RefDocument → Prop
  | refl (document : RefDocument) : Advances validate migrations document [] document
  | step {document candidate last : RefDocument} {step : ConfigMigration}
      {steps : List ConfigMigration} : Advance validate migrations document step candidate →
      Advances validate migrations candidate steps last →
      Advances validate migrations document (step :: steps) last

theorem Advances.version {document last : RefDocument} {steps : List ConfigMigration}
    (h : Advances validate migrations document steps last) :
    last.kind = document.kind ∧ last.version = document.version + steps.length := by
  induction h with
  | refl document => exact ⟨rfl, rfl⟩
  | step hadvance _ ih =>
    refine ⟨ih.1.trans hadvance.kind, ?_⟩
    rw [ih.2, hadvance.version, List.length_cons]
    omega

/-- A document that can be given to the validator again. -/
def Validates (validate : ConfigValidator) (document : RefDocument) : Prop :=
  document.metadata.erase ≠ .null ∧ ∃ issues, validate document.value = .ok issues

theorem metadataOr_ne_null {result : MigrationResult} {metadata : RefJson}
    (h : metadata.erase ≠ .null) : (result.metadataOr metadata).erase ≠ .null := by
  unfold MigrationResult.metadataOr
  split
  · exact h
  · exact h
  · rename_i own hnull _
    intro hown
    cases own with
    | null => exact hnull rfl
    | bool b => cases hown
    | num m e => cases hown
    | str s => cases hown
    | arr id items => cases hown
    | obj id members => cases hown

theorem Advances.validates {document last : RefDocument} {steps : List ConfigMigration}
    (h : Advances validate migrations document steps last) (hfirst : Validates validate document) :
    Validates validate last := by
  induction h with
  | refl document => exact hfirst
  | step hadvance _ ih =>
    obtain ⟨_, _, _, result, _, _, _, _, _, _, hmetadata⟩ := hadvance.made
    obtain ⟨issues, hissues, _⟩ := hadvance.validated
    exact ih ⟨hmetadata ▸ metadataOr_ne_null hfirst.1, issues, hissues⟩

/-- Every identity of a run is above those of the input. -/
structure Above (base : Nat) (run : MigrationRun) : Prop where
  next : base ≤ run.next
  metadata : ∀ id ∈ run.document.metadata.ids, base ≤ id
  spec : ∀ id ∈ run.document.spec.ids, base ≤ id
  handed : ∀ v ∈ run.handed, ∀ id ∈ v.ids, base ≤ id

theorem Above.handed_append {base : Nat} {handed : List RefJson} {v w : RefJson}
    (h : ∀ v ∈ handed, ∀ id ∈ v.ids, base ≤ id) (hv : ∀ id ∈ v.ids, base ≤ id)
    (hw : ∀ id ∈ w.ids, base ≤ id) : ∀ u ∈ handed ++ [v, w], ∀ id ∈ u.ids, base ≤ id := by
  intro u hu
  obtain hu | hu := List.mem_append.mp hu
  · exact h u hu
  · obtain hu | hu := List.mem_cons.mp hu
    · exact hu ▸ hv
    · exact List.mem_singleton.mp hu ▸ hw

theorem ids_metadataOr {result : MigrationResult} {metadata : RefJson} {id : Nat}
    (h : id ∈ (result.metadataOr metadata).ids) : id ∈ metadata.ids ∨ id ∈ result.ids := by
  unfold MigrationResult.metadataOr at h
  split at h
  · exact .inl h
  · exact .inl h
  · rename_i own _ hown
    refine .inr (List.mem_append_right _ ?_)
    rw [hown]
    exact h

/-- What a round does: it advances the document, or it has an issue that blocks and leaves it. -/
def Round (validate : ConfigValidator) (migrations : List ConfigMigration)
    (run run' : MigrationRun) : Prop :=
  (blocked run'.issues = true ∧ run'.document = run.document ∧
      run'.migrations = run.migrations) ∨
    (blocked run'.issues = false ∧ ∃ step,
      Advance validate migrations run.document step run'.document ∧
      run'.migrations = run.migrations ++ [step.id])

theorem adopt_cases {base version : Nat} {step : ConfigMigration} {result : MigrationResult}
    {run run' : MigrationRun} (habove : Above base run) (hresult : ∀ id ∈ result.ids, base ≤ id)
    (h : adopt validate step version result run = .ok run') : Above base run' ∧
      ((blocked run'.issues = true ∧ run'.document = run.document ∧
          run'.migrations = run.migrations) ∨
        (blocked run'.issues = false ∧ blocked result.issues = false ∧
          run'.document = ⟨run.document.kind, version + 1, result.metadataOr run.document.metadata,
            result.spec⟩ ∧
          (∃ issues, validate run'.document.value = .ok issues ∧ blocked issues = false) ∧
          run'.migrations = run.migrations ++ [step.id])) := by
  have hspec : ∀ id ∈ result.spec.ids, base ≤ id := fun id hid =>
    hresult id (List.mem_append_left _ hid)
  have hmetadata : ∀ id ∈ (result.metadataOr run.document.metadata).ids, base ≤ id :=
    fun id hid => (ids_metadataOr hid).elim (habove.metadata id) (hresult id)
  unfold adopt at h
  dsimp only at h
  split at h
  · -- The step has an issue that blocks.
    rename_i hblocked
    obtain rfl := Except.ok.inj h
    exact ⟨⟨habove.next, habove.metadata, habove.spec, habove.handed⟩, .inl ⟨hblocked, rfl, rfl⟩⟩
  · rename_i hstepClear
    obtain ⟨found, hfound, h⟩ := bind_eq_ok.mp h
    have hhanded := Above.handed_append habove.handed hmetadata hspec
    split at h
    · -- The candidate has one: the document stays.
      rename_i hblocked
      obtain rfl := Except.ok.inj h
      exact ⟨⟨habove.next, habove.metadata, habove.spec, hhanded⟩, .inl ⟨hblocked, rfl, rfl⟩⟩
    · rename_i hcandidateClear
      obtain rfl := Except.ok.inj h
      have hissues := Bool.eq_false_iff.mpr hstepClear
      have hissues' := Bool.eq_false_iff.mpr hcandidateClear
      refine ⟨⟨habove.next, hmetadata, hspec, hhanded⟩,
        .inr ⟨hissues', ?_, rfl, ⟨found, hfound, ?_⟩, rfl⟩⟩
      · rw [blocked_append, Bool.or_eq_false_iff] at hissues
        exact hissues.2
      · rw [blocked_append, Bool.or_eq_false_iff] at hissues'
        exact hissues'.2

/-- **One round of the loop.** -/
theorem migrateVersion_round {base : Nat} {run run' : MigrationRun} (habove : Above base run)
    (h : migrateVersion validate migrations run.document.kind run.document.version run = .ok run') :
    Round validate migrations run run' ∧ Above base run' := by
  unfold migrateVersion at h
  split at h
  · rename_i step hunique
    split at h
    · rename_i hto
      obtain ⟨⟨result, next'⟩, hstep, h⟩ := bind_eq_ok.mp h
      obtain ⟨hspec, hspecLe, hspecIds⟩ := RefJson.clone_spec run.document.spec run.next
      obtain ⟨hmetadata, hmetadataLe, hmetadataIds⟩ := RefJson.clone_spec run.document.metadata
        (run.document.spec.clone run.next).2
      have hcloned := Nat.le_trans habove.next hspecLe
      have hspecAbove := fun id hid => Nat.le_trans habove.next (hspecIds id hid)
      have hmetadataAbove := fun id hid => Nat.le_trans hcloned (hmetadataIds id hid)
      have hnext := Nat.le_trans hcloned hmetadataLe
      obtain ⟨hgrows, hreaches⟩ := step.reaches hstep
      have hresult : ∀ id ∈ result.ids, base ≤ id := by
        intro id hid
        obtain hid | hid | hid := hreaches id hid
        · exact hspecAbove id hid
        · exact hmetadataAbove id hid
        · exact Nat.le_trans hnext hid
      have hhanded := Above.handed_append habove.handed hspecAbove hmetadataAbove
      have hstepped : Above base { run with
          next := next'
          handed := run.handed ++ [(run.document.spec.clone run.next).1,
            (run.document.metadata.clone (run.document.spec.clone run.next).2).1] } :=
        ⟨Nat.le_trans hnext hgrows, habove.metadata, habove.spec, hhanded⟩
      obtain ⟨habove', hstopped | ⟨hclear, hresultClear, hdocument, hvalidated, hmigrations⟩⟩ :=
        adopt_cases hstepped hresult h
      · exact ⟨.inl hstopped, habove'⟩
      · refine ⟨.inr ⟨hclear, step, ⟨hunique, hto, ?_, ?_, ?_, hvalidated⟩, hmigrations⟩, habove'⟩
        · rw [hdocument]
        · rw [hdocument]
        · refine ⟨_, _, _, result, next', hspec, hmetadata, hstep, hresultClear, ?_, ?_⟩
          · rw [hdocument]
          · rw [hdocument]
    · cases h
  · cases h

/-- **The loop.** -/
theorem migrateVersions_run {base remaining : Nat} {run run' : MigrationRun}
    (habove : Above base run)
    (h : migrateVersions validate migrations run.document.kind remaining run.document.version run =
      .ok run') :
    (∃ steps, Advances validate migrations run.document steps run'.document ∧
      run'.migrations = run.migrations ++ steps.map (·.id) ∧
      (blocked run'.issues = false → steps.length = remaining)) ∧ Above base run' := by
  induction remaining generalizing run with
  | zero =>
    obtain rfl := Except.ok.inj h
    exact ⟨⟨[], .refl _, (List.append_nil _).symm, fun _ => rfl⟩, habove⟩
  | succ remaining ih =>
    obtain ⟨middle, hmiddle, h⟩ := bind_eq_ok.mp h
    obtain ⟨hround, habove'⟩ := migrateVersion_round habove hmiddle
    obtain ⟨hblocked, hdocument, hmigrations⟩ | ⟨hclear', step, hadvance, hmigrations⟩ := hround
    · rw [if_pos hblocked] at h
      obtain rfl := Except.ok.inj h
      refine ⟨⟨[], hdocument ▸ .refl _, ?_, fun hfalse => ?_⟩, habove'⟩
      · rw [hmigrations, List.map_nil, List.append_nil]
      · exact absurd (hblocked.symm.trans hfalse) Bool.true_eq_false.mp
    · rw [if_neg (Bool.eq_false_iff.mp hclear'), ← hadvance.kind, ← hadvance.version] at h
      obtain ⟨⟨steps, hadvances, hids, hlength⟩, habove''⟩ := ih habove' h
      refine ⟨⟨step :: steps, .step hadvance hadvances, ?_, fun hfalse => ?_⟩, habove''⟩
      · rw [hids, hmigrations, List.append_assoc]
        rfl
      · rw [List.length_cons, hlength hfalse]

/-! ## Targets -/

theorem toNat_target {target : Rat} {version : Nat} (hsafe : isSafeInteger target = true)
    (hle : (version : Rat) ≤ target) :
    ((target.num.toNat : Nat) : Rat) = target ∧ version ≤ target.num.toNat := by
  unfold isSafeInteger at hsafe
  rw [Bool.and_eq_true, beq_iff_eq] at hsafe
  have hnum : ((target.num : Int) : Rat) = target := Rat.coe_int_num_of_den_eq_one hsafe.1
  have hcast : (version : Int) ≤ target.num := by
    rw [← hnum] at hle
    exact_mod_cast hle
  have hnonneg : 0 ≤ target.num := Int.le_trans (Int.natCast_nonneg version) hcast
  have htoNat : ((target.num.toNat : Nat) : Int) = target.num := Int.toNat_of_nonneg hnonneg
  refine ⟨?_, by omega⟩
  calc ((target.num.toNat : Nat) : Rat) = (((target.num.toNat : Nat) : Int) : Rat) := by norm_cast
    _ = target := by rw [htoNat, hnum]

/-! ## The whole migration -/

/-- **What a migration returns**, from the document that the input is normalized to. -/
structure Outcome (validate : ConfigValidator) (migrations : List ConfigMigration)
    (targetVersion : Option Rat) (v : RefJson) (source : RefDocument) (run : MigrationRun) :
    Prop where
  advances : ∃ steps, Advances validate migrations source steps run.document ∧
    run.migrations = steps.map (·.id)
  version : run.document.version = source.version + run.migrations.length
  checked : run.migrations ≠ [] → ∃ issues, validate source.value = .ok issues ∧
    blocked issues = false
  complete : blocked run.issues = false →
    (run.document.version : Rat) = migrationTarget source.kind targetVersion
  hidden : ∀ value ∈ run.handed, ∀ id ∈ value.ids, id ∉ v.ids
  again : (run.document.version : Rat) = migrationTarget source.kind targetVersion →
    ∀ id next, (∃ document, normalizeDocument (run.document.toRef id).erase = .ok document) →
      ∃ run', migrateDocument validate migrations targetVersion next (run.document.toRef id) =
        .ok run' ∧ run'.migrations = [] ∧ run'.document.value = run.document.value

theorem schemaUrl_inj {kind : ConfigResourceKind} {version version' : Nat}
    (h : schemaUrl kind version = schemaUrl kind version') : version = version' := by
  have hlist := congrArg String.toList h
  unfold schemaUrl at hlist
  simp only [String.toList_append, List.append_cancel_right_eq, List.append_cancel_left_eq,
    Nat.toString_eq_ofList_toDigits, String.toList_ofList] at hlist
  calc version = Nat.ofDigitChars 10 (Nat.toDigits 10 version) 0 :=
        (Nat.ofDigitChars_toDigits (by decide) (by decide)).symm
    _ = version' := by rw [hlist, Nat.ofDigitChars_toDigits (by decide) (by decide)]

theorem value_of_normalizeDocument {document : RefDocument} {id : Nat}
    {normalized : ConfigDocument} (hmetadata : document.metadata.erase ≠ .null)
    (h : normalizeDocument (document.toRef id).erase = .ok normalized) :
    document.value = ⟨normalized.kind, normalized.version, .obj normalized.metadata,
      .obj normalized.spec⟩ := by
  obtain ⟨members, hmembers, henvelope, hobject⟩ := normalizeDocument_ok.mp h
  obtain rfl := Json.obj.inj hmembers
  have hkind : document.kind = normalized.kind := by
    obtain hnone | hsome := henvelope.agrees
    · cases hnone
    · exact kind_name_injective (Json.str.inj (Option.some.inj hsome))
  have hversion : document.version = normalized.version := by
    have hschema : schemaUrl document.kind document.version =
        schemaUrl normalized.kind normalized.version :=
      Json.str.inj (Option.some.inj henvelope.schema)
    rw [hkind] at hschema
    exact schemaUrl_inj hschema
  have hspec : document.spec.erase = .obj normalized.spec := Option.some.inj henvelope.object
  have hobject' : document.metadata.erase = .obj normalized.metadata := by
    rw [← hobject]
    show _ = metadataOf (.obj [_, _, ("metadata", document.metadata.erase), _])
    rw [metadataOf]
    split
    · rename_i hnone
      cases hnone
    · rename_i hnull
      exact absurd (Option.some.inj hnull) hmetadata
    · rename_i own _ hown
      exact Option.some.inj hown
  unfold RefDocument.value
  rw [hkind, hversion, hspec, hobject']

/-- **A migration advances through valid versions only**, and another one changes nothing if the
document can be normalized. -/
theorem migrateDocument_outcome {targetVersion : Option Rat} {next : Nat} {v : RefJson}
    {run : MigrationRun} (hnext : ∀ id ∈ v.ids, id < next)
    (h : migrateDocument validate migrations targetVersion next v = .ok run) :
    ∃ source next', normalizeRefs next v = .ok (source, next') ∧
      Outcome validate migrations targetVersion v source run := by
  obtain ⟨⟨source, next'⟩, hsource, h⟩ := bind_eq_ok.mp h
  refine ⟨source, next', hsource, ?_⟩
  obtain ⟨normalized, hnormalized, -⟩ := bind_eq_ok.mp hsource
  obtain ⟨refs, after, hrefs, hle, hkind, hversion, hmetadata, hspec, hids⟩ :=
    normalizeRefs_fresh next hnormalized
  obtain ⟨rfl, rfl⟩ := Prod.mk.inj (Except.ok.inj (hsource.symm.trans hrefs))
  unfold migrateNormalized at h
  dsimp only at h
  split at h
  · cases h
  rename_i htarget
  rw [Bool.or_eq_true, not_or, Bool.not_eq_true', Bool.not_eq_false, decide_eq_true_eq, not_lt]
    at htarget
  obtain ⟨htoNat, hsourceLe⟩ := toNat_target htarget.1 htarget.2
  obtain ⟨issues, hissues, h⟩ := bind_eq_ok.mp h
  have hnil : ∀ v ∈ ([] : List RefJson), ∀ id ∈ v.ids, next ≤ id := fun _ hmem => nomatch hmem
  have habove : Above next ⟨source, [], issues, next', [source.metadata, source.spec]⟩ :=
    ⟨hle, fun id hid => hids id (List.mem_append_left _ hid),
      fun id hid => hids id (List.mem_append_right _ hid),
      Above.handed_append hnil
        (fun id hid => hids id (List.mem_append_left _ hid))
        (fun id hid => hids id (List.mem_append_right _ hid))⟩
  have hfirst : Validates validate source := ⟨by rw [hmetadata]; exact (nomatch ·), issues, hissues⟩
  -- What the run has done.
  have hrun : (∃ steps, Advances validate migrations source steps run.document ∧
      run.migrations = steps.map (·.id) ∧
      (steps ≠ [] → blocked issues = false) ∧ (blocked run.issues = false →
        steps.length = (migrationTarget source.kind targetVersion).num.toNat - source.version)) ∧
      Above next run := by
    split at h
    · rename_i hblocked
      obtain rfl := Except.ok.inj h
      exact ⟨⟨[], .refl _, rfl, fun hne => absurd rfl hne, fun hfalse =>
        absurd (hblocked.symm.trans hfalse) Bool.true_eq_false.mp⟩, habove⟩
    · rename_i hclear
      obtain ⟨⟨steps, hadvances, hmigrations, hlength⟩, habove'⟩ := migrateVersions_run habove h
      exact ⟨⟨steps, hadvances, hmigrations, fun _ => Bool.eq_false_iff.mpr hclear, hlength⟩,
        habove'⟩
  obtain ⟨⟨steps, hadvances, hmigrations, hchecked, hcomplete⟩, habove'⟩ := hrun
  have hlast := hadvances.version
  have hcount : run.migrations.length = steps.length := by rw [hmigrations, List.length_map]
  refine ⟨⟨steps, hadvances, hmigrations⟩, hcount ▸ hlast.2, ?_, ?_, ?_, ?_⟩
  · intro hne
    refine ⟨issues, hissues, hchecked fun hnil => hne ?_⟩
    rw [hmigrations, hnil, List.map_nil]
  · intro hclear
    rw [hlast.2, hcomplete hclear, Nat.add_sub_cancel' hsourceLe, htoNat]
  · intro value hvalue id hid hmem
    exact Nat.lt_irrefl id (Nat.lt_of_lt_of_le (hnext id hmem) (habove'.handed value hvalue id hid))
  · rintro hfull id after ⟨document, hdocument⟩
    obtain ⟨hnotNull, found, hfound⟩ := hadvances.validates hfirst
    have hvalue := value_of_normalizeDocument hnotNull hdocument
    obtain ⟨refs, after', hrefs', _, hkind', hversion', hmetadata', hspec', _⟩ :=
      normalizeRefs_fresh after hdocument
    have hsame : refs.value = run.document.value := by
      rw [hvalue]
      unfold RefDocument.value
      rw [hkind', hversion', hmetadata', hspec']
    have hsameKind : refs.kind = source.kind :=
      (congrArg DocumentValue.kind hsame).trans hlast.1
    have hsameVersion : refs.version = run.document.version :=
      congrArg DocumentValue.version hsame
    have hnone : (migrationTarget source.kind targetVersion).num.toNat - refs.version = 0 := by
      have hcast : ((migrationTarget source.kind targetVersion).num.toNat : Rat) =
          (run.document.version : Rat) := htoNat.trans hfull.symm
      rw [hsameVersion, Nat.cast_injective hcast, Nat.sub_self]
    refine ⟨⟨refs, [], found, after', [refs.metadata, refs.spec]⟩,
      bind_eq_ok.mpr ⟨_, hrefs', ?_⟩, rfl, hsame⟩
    unfold migrateNormalized
    dsimp only
    rw [hsameKind, hnone, hsameVersion, hfull, htarget.1, if_neg (by simp), hsame, hfound]
    show (if blocked found = true then _ else _) = _
    split
    · rfl
    · rfl

/-- A document of a kind whose id is fixed, with no metadata and an empty spec. -/
def bareDocument (kind : ConfigResourceKind) : RefJson :=
  .obj 0 [("$schema", .str (schemaUrl kind 1)), ("spec", .obj 1 [])]

theorem normalizeRefs_bare {kind : ConfigResourceKind} (h : (singletonId kind).isSome) :
    normalizeRefs 2 (bareDocument kind) = .ok (⟨kind, 1, .obj 4 [], .obj 3 []⟩, 5) := by
  have hsupported : 1 ≤ (configFormat kind).2 := by cases kind <;> decide
  refine bind_eq_ok.mpr ⟨⟨kind, 1, [], []⟩, normalizeDocument_ok.mpr ⟨_, rfl, ⟨rfl, Nat.le_refl 1,
    hsupported, ?_, rfl, .inl h, .inl rfl, .inl trivial⟩, rfl⟩, rfl⟩
  simp [RefJson.eraseMembers]

theorem ids_bare (kind : ConfigResourceKind) : ∀ id ∈ (bareDocument kind).ids, id < 2 := by
  intro id hid
  have hmem : id ∈ [0, 1] := hid
  simp only [List.mem_cons, List.not_mem_nil, or_false] at hmem
  omega

/-- An issuance configuration goes from version 1 to version 3. -/
theorem migrateDocument_outcome_issuance :
    ∃ run, migrateDocument (fun _ => .ok []) configMigrations none 2
        (bareDocument .IssuanceConfig) = .ok run ∧ run.document.version = 3 ∧
      ∃ source next', normalizeRefs 2 (bareDocument .IssuanceConfig) = .ok (source, next') ∧
        Outcome (fun _ => .ok []) configMigrations none (bareDocument .IssuanceConfig) source
          run := by
  have h : migrateDocument (fun _ => .ok []) configMigrations none 2
      (bareDocument .IssuanceConfig) = .ok ⟨⟨.IssuanceConfig, 3, .obj 4 [], .obj 7 []⟩,
        ["issuance-config-v2-offer-lifetime", "issuance-config-v3-trust-list-verifier-pem"], [], 9,
        [.obj 4 [], .obj 3 [], .obj 5 [], .obj 6 [], .obj 4 [], .obj 5 [], .obj 7 [], .obj 8 [],
          .obj 4 [], .obj 7 []]⟩ :=
    bind_eq_ok.mpr ⟨_, normalizeRefs_bare rfl, rfl⟩
  exact ⟨_, h, rfl, migrateDocument_outcome (ids_bare _) h⟩

/-- A document that was migrated to a version above the supported one is not migrated again. -/
theorem not_migrateDocument_again :
    ¬∀ (validate : ConfigValidator) (migrations : List ConfigMigration) (targetVersion : Option Rat)
      (next : Nat) (v : RefJson) (run : MigrationRun), (∀ id ∈ v.ids, id < next) →
      migrateDocument validate migrations targetVersion next v = .ok run →
      (run.document.version : Rat) = migrationTarget run.document.kind targetVersion →
      ∀ id next, ∃ run', migrateDocument validate migrations targetVersion next
        (run.document.toRef id) = .ok run' ∧ run'.migrations = [] ∧
          run'.document.value = run.document.value := by
  intro h
  have hrun : migrateDocument (fun _ => .ok []) [keepSpec "tenant-config-v2" .Tenant 1 2] (some 2) 2
      (bareDocument .Tenant) = .ok ⟨⟨.Tenant, 2, .obj 4 [], .obj 5 []⟩, ["tenant-config-v2"], [], 7,
        [.obj 4 [], .obj 3 [], .obj 5 [], .obj 6 [], .obj 4 [], .obj 5 []]⟩ :=
    bind_eq_ok.mpr ⟨_, normalizeRefs_bare rfl, rfl⟩
  obtain ⟨run', hagain, -, -⟩ := h _ _ _ _ _ _ (ids_bare .Tenant) hrun
    (by norm_num [migrationTarget]) 7 8
  obtain ⟨_, hrefs, -⟩ := bind_eq_ok.mp hagain
  obtain ⟨normalized, hnormalized, -⟩ := bind_eq_ok.mp hrefs
  have hnull : (RefJson.obj 4 []).erase ≠ .null := fun hnull => Json.noConfusion hnull
  have hvalue := value_of_normalizeDocument hnull hnormalized
  obtain ⟨hkind, hversion, -, -⟩ := DocumentValue.mk.inj hvalue
  have hle := (wellFormed_of_normalizeDocument hnormalized).supported
  rw [← hkind, ← hversion] at hle
  exact absurd hle (by decide)

end Migration

end ConfigFormat

end Eudiplo
