import Eudiplo.ConfigFormat.BundleCodec
import Mathlib.Data.List.Perm.Basic

/-!
# Do bundle archives round-trip?

The archive of an accepted bundle is decoded to the same bundle, unless a path names the prototype
of the record of entries, or an asset has another content type than its entry in the manifest:
`bundles_round_trip`.
-/

namespace Eudiplo

open Results Portability

namespace ConfigFormat

/-! ## The claim -/

variable (w : CodecWorld) (bundle : ConfigBundle)

/-- A value that was read from JSON. -/
def IsJson (v : Json) : Prop := ∃ text, w.parse text = some v

/-- **The archive stays within the limits** of the decoder. -/
structure WithinLimits : Prop where
  entries : ∀ record, packBundle w bundle = .ok record → record.entries.length ≤ maxEntries
  expanded : ∀ record, packBundle w bundle = .ok record →
    expandedSize record.entries ≤ maxExpandedSize
  archive : ∀ archive, encode w bundle = .ok archive → w.byteLength archive ≤ maxArchiveSize

def assetContent (asset : Json) : Option String × Option Json × Option Bytes :=
  (textField "path" asset, asset.field? "contentType", assetBytes asset)

/-- **The bundle round-trips**, up to the order of its documents and assets. -/
def RoundTrips : Prop :=
  ∃ archive decoded, encode w bundle = .ok archive ∧ decode w archive = .ok decoded ∧
    decoded.manifest = bundle.manifest ∧ decoded.documents.Perm bundle.documents ∧
    (decoded.assets.map assetContent).Perm (bundle.assets.map assetContent)

/-- **No path is the prototype's, and content types agree** with the manifest. -/
structure Regular (bundle : ConfigBundle) : Prop where
  paths : ∀ entry ∈ resourcesOf bundle.manifest ++ assetsOf bundle.manifest,
    textField "path" entry ≠ some "__proto__"
  contentTypes : ∀ asset ∈ bundle.assets, ∀ entry ∈ assetsOf bundle.manifest,
    textField "path" entry = textField "path" asset →
      entry.field? "contentType" = asset.field? "contentType"

variable {w} {bundle}

/-! ## Loops -/

/-- **A loop over items with distinct keys.** -/
theorem checkEach_ok {κ : Type} [DecidableEq κ] {key : Json → Checked κ} {duplicate : κ → String}
    {check : Json → Checked Unit} {items : List Json} {seen : List κ} :
    checkEach key duplicate check items seen = .ok () ↔
      ∃ keys, List.Forall₂ (fun item k => key item = .ok k ∧ check item = .ok ()) items keys ∧
        keys.Nodup ∧ ∀ k ∈ keys, k ∉ seen := by
  induction items generalizing seen with
  | nil =>
    refine ⟨fun _ => ⟨[], .nil, .nil, fun _ hk => (List.not_mem_nil hk).elim⟩, fun _ => rfl⟩
  | cons item items ih =>
    unfold checkEach
    rw [bind_eq_ok]
    constructor
    · rintro ⟨k, hk, h⟩
      split at h
      · cases h
      · rename_i hnew
        obtain ⟨u, hcheck, h⟩ := bind_eq_ok.mp h
        obtain ⟨keys, hkeys, hnodup, hseen⟩ := ih.mp h
        refine ⟨k :: keys, .cons ⟨hk, hcheck⟩ hkeys, List.nodup_cons.mpr ⟨?_, hnodup⟩, ?_⟩
        · exact fun hmem => hseen k hmem List.mem_cons_self
        · exact List.forall_mem_cons.mpr
            ⟨hnew, fun k' hk' hold => hseen k' hk' (List.mem_cons_of_mem k hold)⟩
    · rintro ⟨keys, hkeys, hnodup, hseen⟩
      cases hkeys with
      | @cons _ k _ keys hitem hkeys =>
        obtain ⟨hk, hcheck⟩ := hitem
        obtain ⟨hnew, hnodup⟩ := List.nodup_cons.mp hnodup
        refine ⟨k, hk, ?_⟩
        rw [if_neg (hseen k List.mem_cons_self), hcheck]
        refine ih.mpr ⟨keys, hkeys, hnodup, fun k' hk' hold => ?_⟩
        rcases List.mem_cons.mp hold with rfl | hold
        · exact hnew hk'
        · exact hseen k' (List.mem_cons_of_mem k hk') hold

theorem exists_key {α κ : Type} {R : α → κ → Prop} {items : List α} {keys : List κ}
    (h : List.Forall₂ R items keys) {item : α} (hitem : item ∈ items) : ∃ k ∈ keys, R item k := by
  induction h with
  | nil => cases hitem
  | cons hone _ ih =>
    rcases List.mem_cons.mp hitem with rfl | hmem
    · exact ⟨_, List.mem_cons_self, hone⟩
    · obtain ⟨k, hk, hR⟩ := ih hmem
      exact ⟨k, List.mem_cons_of_mem _ hk, hR⟩

theorem forall₂_mem {α κ : Type} {R : α → κ → Prop} {items : List α} {keys : List κ}
    (h : List.Forall₂ R items keys) :
    List.Forall₂ (fun item k => item ∈ items ∧ k ∈ keys ∧ R item k) items keys := by
  induction h with
  | nil => exact .nil
  | cons hone _ ih =>
    refine .cons ⟨List.mem_cons_self, List.mem_cons_self, hone⟩ (ih.imp ?_)
    rintro item k ⟨hitem, hk, hR⟩
    exact ⟨List.mem_cons_of_mem _ hitem, List.mem_cons_of_mem _ hk, hR⟩

theorem exists_item {α κ : Type} {R : α → κ → Prop} {items : List α} {keys : List κ}
    (h : List.Forall₂ R items keys) {k : κ} (hk : k ∈ keys) : ∃ item ∈ items, R item k :=
  exists_key h.flip hk

theorem map_eq_map {α κ γ : Type} {f : α → γ} {g : κ → γ} {items : List α} {keys : List κ}
    (h : List.Forall₂ (fun item k => f item = g k) items keys) : items.map f = keys.map g := by
  induction h with
  | nil => rfl
  | cons hone _ ih => rw [List.map_cons, List.map_cons, hone, ih]

/-- **Distinct keys have distinct items.** -/
theorem item_unique {α κ : Type} {key : α → Checked κ} {items : List α} {keys : List κ}
    (h : List.Forall₂ (fun item k => key item = .ok k) items keys) (hnodup : keys.Nodup)
    {item item' : α} (hitem : item ∈ items) (hitem' : item' ∈ items)
    (heq : key item = key item') : item = item' := by
  induction h with
  | nil => cases hitem
  | @cons a k items keys hone htail ih =>
    obtain ⟨hnew, hnodup⟩ := List.nodup_cons.mp hnodup
    -- the key of the first item is not one of the others
    have hother : ∀ b ∈ items, key b ≠ .ok k := by
      intro b hb hkey
      obtain ⟨k', hk', hkey'⟩ := exists_key htail hb
      exact hnew (Except.ok.inj (hkey.symm.trans hkey') ▸ hk')
    rcases List.mem_cons.mp hitem with rfl | hmem <;>
      rcases List.mem_cons.mp hitem' with rfl | hmem'
    · rfl
    · exact absurd (heq.symm.trans hone) (hother _ hmem')
    · exact absurd (heq.trans hone) (hother _ hmem)
    · exact ih hnodup hmem hmem'

/-! ## Accepted bundles -/

theorem entryPath_ok {entry : Json} {path : String} :
    entryPath entry = .ok path ↔ textField "path" entry = some path ∧ isSafePath path = true := by
  unfold entryPath assertSafeBundlePath textField
  cases entry.field? "path" with
  | none => exact ⟨nofun, fun h => nomatch h.1⟩
  | some v =>
    cases v with
    | str text =>
      dsimp only
      split
      · rename_i hsafe
        constructor
        · rintro h
          cases h
          exact ⟨rfl, hsafe⟩
        · rintro ⟨h, -⟩
          cases h
          rfl
      · rename_i hunsafe
        refine ⟨nofun, ?_⟩
        rintro ⟨h, hsafe⟩
        cases h
        exact absurd hsafe hunsafe
    | _ => exact ⟨nofun, fun h => nomatch h.1⟩

/-- **An accepted manifest**: its resources have distinct identities, its entries distinct paths. -/
structure ManifestKeys (manifest : Json) (refs : List ResourceRef) (paths : List String) :
    Prop where
  identified : List.Forall₂ (fun resource ref => resourceKey resource = .ok ref)
    (resourcesOf manifest) refs
  distinctRefs : refs.Nodup
  located : List.Forall₂ (fun entry path => entryPath entry = .ok path)
    (resourcesOf manifest ++ assetsOf manifest) paths
  distinctPaths : paths.Nodup
  unreserved : "manifest.json" ∉ paths

theorem keys_of_assertBundleManifest {manifest : Json}
    (h : assertBundleManifest manifest = .ok ()) :
    ∃ refs paths, ManifestKeys manifest refs paths := by
  unfold assertBundleManifest at h
  split at h
  · obtain ⟨u, hresources, h⟩ := bind_eq_ok.mp h
    obtain ⟨refs, hrefs, hdistinct, -⟩ := checkEach_ok.mp hresources
    obtain ⟨paths, hpaths, hdistinct', hreserved⟩ := checkEach_ok.mp h
    exact ⟨refs, paths, hrefs.imp fun _ _ h => h.1, hdistinct, hpaths.imp fun _ _ h => h.1,
      hdistinct', fun hmem => hreserved _ hmem List.mem_cons_self⟩
  · cases h

/-- **An accepted bundle**: its documents and its assets are those of the manifest. -/
structure BundleKeys (w : CodecWorld) (bundle : ConfigBundle) (documents : List ResourceRef)
    (assets : List String) : Prop where
  documentCount : bundle.documents.length = (resourcesOf bundle.manifest).length
  assetCount : bundle.assets.length = (assetsOf bundle.manifest).length
  documented : List.Forall₂ (fun file ref => documentKey file = .ok ref ∧
    checkDocument w (resourcesOf bundle.manifest) file = .ok ()) bundle.documents documents
  distinctDocuments : documents.Nodup
  provided : List.Forall₂ (fun asset path => assetKey asset = .ok path ∧
    checkAsset w (assetsOf bundle.manifest) asset = .ok ()) bundle.assets assets
  distinctAssets : assets.Nodup

theorem assertConfigBundle_ok :
    assertConfigBundle w bundle = .ok () ↔ assertBundleManifest bundle.manifest = .ok () ∧
      ∃ documents assets, BundleKeys w bundle documents assets := by
  unfold assertConfigBundle
  rw [bind_eq_ok]
  constructor
  · rintro ⟨u, hmanifest, h⟩
    split at h
    · cases h
    · rename_i hcounts
      obtain ⟨u', hdocuments, h⟩ := bind_eq_ok.mp h
      obtain ⟨documents, hdocs, hdistinct, -⟩ := checkEach_ok.mp hdocuments
      obtain ⟨assets, hassets, hdistinct', -⟩ := checkEach_ok.mp h
      rw [not_or, not_not, not_not] at hcounts
      exact ⟨hmanifest, documents, assets, hcounts.1, hcounts.2, hdocs, hdistinct, hassets,
        hdistinct'⟩
  · rintro ⟨hmanifest, documents, assets, h⟩
    refine ⟨(), hmanifest, ?_⟩
    rw [if_neg (by rw [not_or, not_not, not_not]; exact ⟨h.documentCount, h.assetCount⟩)]
    refine bind_eq_ok.mpr ⟨(), checkEach_ok.mpr ⟨documents, h.documented, h.distinctDocuments,
      fun _ _ => List.not_mem_nil⟩, checkEach_ok.mpr ⟨assets, h.provided, h.distinctAssets,
      fun _ _ => List.not_mem_nil⟩⟩

/-! ## Documents and resources -/

variable {refs documentRefs : List ResourceRef} {paths assetPaths : List String}

theorem documentKey_ok {file : Json} {ref : ResourceRef} :
    documentKey file = .ok ref ↔ ∃ document, normalizeDocument file = .ok document ∧
      document.kind = ref.kind ∧ resourceId file = .ok ref.id := by
  unfold documentKey
  rw [bind_eq_ok]
  constructor
  · rintro ⟨document, hdocument, h⟩
    obtain ⟨id, hid, h⟩ := bind_eq_ok.mp h
    obtain rfl := Except.ok.inj h
    exact ⟨document, hdocument, rfl, hid⟩
  · rintro ⟨document, hdocument, hkind, hid⟩
    refine ⟨document, hdocument, bind_eq_ok.mpr ⟨ref.id, hid, ?_⟩⟩
    rw [hkind]
    rfl

theorem resourceKey_ok {resource : Json} {ref : ResourceRef}
    (h : resourceKey resource = .ok ref) : isResource ref resource = true ∧
      ∃ version, resolveConfigIdentity resource = .ok ⟨ref.kind, version⟩ := by
  unfold resourceKey at h
  split at h
  · cases h
  · cases h
  · rename_i id _ hid
    obtain ⟨identity, hidentity, h⟩ := bind_eq_ok.mp h
    split at h
    · rename_i hkind
      obtain rfl := Except.ok.inj h
      refine ⟨?_, identity.version, hidentity⟩
      rw [isResource, hkind, hid, beq_self_eq_true, beq_self_eq_true]
      rfl
    · cases h

theorem kind_name_injective {kind kind' : ConfigResourceKind} (h : kind.name = kind'.name) :
    kind = kind' := by
  revert h
  cases kind <;> cases kind' <;> decide

theorem isResource_iff {resource : Json} {ref ref' : ResourceRef}
    (h : resourceKey resource = .ok ref) : isResource ref' resource = true ↔ ref' = ref := by
  obtain ⟨hself, -⟩ := resourceKey_ok h
  constructor
  · intro hother
    unfold isResource at hself hother
    rw [Bool.and_eq_true, beq_iff_eq, beq_iff_eq] at hself hother
    have hkind := kind_name_injective (Option.some.inj (hother.1.symm.trans hself.1))
    have hid := Option.some.inj (hother.2.symm.trans hself.2)
    cases ref
    cases ref'
    dsimp only at hkind hid
    rw [hkind, hid]
  · rintro rfl
    exact hself

/-- **The document of a resource.** -/
structure DocumentOf (w : CodecWorld) (resource file : Json) : Prop where
  key : ∃ ref, resourceKey resource = .ok ref ∧ documentKey file = .ok ref
  version : ∃ identity identity', resolveConfigIdentity resource = .ok identity ∧
    resolveConfigIdentity file = .ok identity' ∧ identity.version = identity'.version
  checksum : textField "sha256" resource = some (w.sha256 (w.strToU8 (w.stringify file)))

theorem documentOf_of_check {manifest file resource : Json} {ref : ResourceRef}
    (hkeys : ManifestKeys manifest refs paths) (hfile : documentKey file = .ok ref)
    (hcheck : checkDocument w (resourcesOf manifest) file = .ok ())
    (hresource : resource ∈ resourcesOf manifest) (hkey : resourceKey resource = .ok ref) :
    DocumentOf w resource file := by
  obtain ⟨ref', hfile', hcheck⟩ := bind_eq_ok.mp hcheck
  obtain rfl := Except.ok.inj (hfile.symm.trans hfile')
  obtain ⟨document, hdocument, hcheck⟩ := bind_eq_ok.mp hcheck
  cases hfind : (resourcesOf manifest).find? (isResource ref) with
  | none =>
    have hnot := List.find?_eq_none.mp hfind resource hresource
    exact absurd ((isResource_iff hkey).mpr rfl) hnot
  | some entry =>
    rw [hfind] at hcheck
    -- only one resource has the key
    obtain ⟨ref', -, hentry⟩ := exists_key hkeys.identified (List.mem_of_find?_eq_some hfind)
    obtain rfl := (isResource_iff hentry).mp (List.find?_some hfind)
    obtain rfl := item_unique hkeys.identified hkeys.distinctRefs
      (List.mem_of_find?_eq_some hfind) hresource (hentry.trans hkey.symm)
    obtain ⟨identity, hidentity, hcheck⟩ := bind_eq_ok.mp hcheck
    split at hcheck
    · cases hcheck
    · rename_i hversion
      rw [not_not] at hversion
      split at hcheck
      · rename_i hsha
        exact ⟨⟨ref, hkey, hfile⟩, ⟨identity, _, hidentity,
          identity_of_normalizeDocument hdocument, hversion⟩, hsha⟩
      · cases hcheck

/-- **Every document is of one resource, and every resource has one**: there are as many, and the
keys are distinct. -/
theorem keys_perm (hkeys : ManifestKeys bundle.manifest refs paths)
    (h : BundleKeys w bundle documentRefs assetPaths) : documentRefs.Perm refs := by
  have hsubset : documentRefs ⊆ refs := by
    intro ref href
    obtain ⟨file, -, hfile, hcheck⟩ := exists_item h.documented href
    obtain ⟨ref', hfile', hcheck⟩ := bind_eq_ok.mp hcheck
    obtain rfl := Except.ok.inj (hfile.symm.trans hfile')
    obtain ⟨document, -, hcheck⟩ := bind_eq_ok.mp hcheck
    cases hfind : (resourcesOf bundle.manifest).find? (isResource ref) with
    | none =>
      rw [hfind] at hcheck
      cases hcheck
    | some entry =>
      obtain ⟨ref', href', hentry⟩ := exists_key hkeys.identified (List.mem_of_find?_eq_some hfind)
      obtain rfl := (isResource_iff hentry).mp (List.find?_some hfind)
      exact href'
  have hlength : refs.length ≤ documentRefs.length := by
    rw [← h.documented.length_eq, ← hkeys.identified.length_eq]
    exact Nat.le_of_eq h.documentCount.symm
  exact (List.subperm_of_subset h.distinctDocuments hsubset).perm_of_length_le hlength

theorem exists_document (hkeys : ManifestKeys bundle.manifest refs paths)
    (h : BundleKeys w bundle documentRefs assetPaths) {resource : Json}
    (hresource : resource ∈ resourcesOf bundle.manifest) :
    ∃ file ∈ bundle.documents, DocumentOf w resource file := by
  obtain ⟨ref, href, hkey⟩ := exists_key hkeys.identified hresource
  obtain ⟨file, hfile, hdocument, hcheck⟩ :=
    exists_item h.documented ((keys_perm hkeys h).mem_iff.mpr href)
  exact ⟨file, hfile, documentOf_of_check hkeys hdocument hcheck hresource hkey⟩

/-! ## Packing -/

theorem findDocument_eq {matching : Json → Checked Bool} {p : Json → Bool} {files : List Json}
    (h : ∀ file ∈ files, matching file = .ok (p file)) :
    findDocument matching files = .ok (files.find? p) := by
  induction files with
  | nil => rfl
  | cons file files ih =>
    obtain ⟨hfile, hfiles⟩ := List.forall_mem_cons.mp h
    unfold findDocument
    rw [hfile, List.find?_cons, ih hfiles]
    cases p file <;> rfl

theorem documentMatches_eq {resource file : Json} {ref ref' : ResourceRef}
    (hresource : resourceKey resource = .ok ref) (hfile : documentKey file = .ok ref')
    (hdocument : ref' = ref → DocumentOf w resource file) :
    documentMatches resource file = .ok ((documentKey file).toOption == some ref) := by
  obtain ⟨document, hnormal, hkind, hid⟩ := documentKey_ok.mp hfile
  obtain ⟨hself, version, hidentity⟩ := resourceKey_ok hresource
  rw [isResource, Bool.and_eq_true, beq_iff_eq, beq_iff_eq] at hself
  have hkey : (documentKey file).toOption = some ref' := by
    rw [hfile]
    rfl
  refine bind_eq_ok.mpr ⟨document, hnormal, ?_⟩
  rw [hkey, hself.1]
  by_cases href : ref' = ref
  · obtain ⟨identity, identity', hres, hfil, hversion⟩ := (hdocument href).version
    subst href
    rw [if_neg (by rw [hkind]; exact not_not.mpr rfl)]
    refine bind_eq_ok.mpr ⟨identity', hfil, bind_eq_ok.mpr ⟨identity, hres, ?_⟩⟩
    rw [if_neg (not_not.mpr hversion.symm)]
    refine bind_eq_ok.mpr ⟨ref'.id, hid, ?_⟩
    rw [hself.2, beq_self_eq_true, beq_self_eq_true]
    rfl
  · have hfalse : (some ref' == some ref) = false :=
      beq_eq_false_iff_ne.mpr fun h => href (Option.some.inj h)
    rw [hfalse]
    split
    · rfl
    · rename_i hsame
      rw [not_not] at hsame
      have hkinds : ref.kind = ref'.kind :=
        (kind_name_injective (Option.some.inj hsame)).trans hkind
      refine bind_eq_ok.mpr ⟨_, identity_of_normalizeDocument hnormal,
        bind_eq_ok.mpr ⟨_, hidentity, ?_⟩⟩
      split
      · rfl
      · refine bind_eq_ok.mpr ⟨ref'.id, hid, ?_⟩
        rw [hself.2]
        refine congrArg Except.ok (beq_eq_false_iff_ne.mpr fun h => href ?_)
        have hids := Option.some.inj h
        cases ref
        cases ref'
        dsimp only at hkinds hids
        rw [hkinds, hids]

/-- **What is packed for a resource**: its document. -/
theorem packResource_eq (hkeys : ManifestKeys bundle.manifest refs paths)
    (h : BundleKeys w bundle documentRefs assetPaths) {resource file : Json} {path : String}
    (hresource : resource ∈ resourcesOf bundle.manifest) (hfile : file ∈ bundle.documents)
    (hdocument : DocumentOf w resource file) (hpath : entryPath resource = .ok path) :
    packResource w bundle.documents resource = .ok (path, w.strToU8 (w.stringify file)) := by
  obtain ⟨ref, hkey, hfilekey⟩ := hdocument.key
  have hmatches : ∀ file' ∈ bundle.documents, documentMatches resource file' =
      .ok ((documentKey file').toOption == some ref) := by
    intro file' hfile'
    obtain ⟨ref', -, hkey', hcheck⟩ := exists_key h.documented hfile'
    refine documentMatches_eq (w := w) hkey hkey' fun href => ?_
    subst href
    exact documentOf_of_check hkeys hkey' hcheck hresource hkey
  have hfound : bundle.documents.find? (fun file' => (documentKey file').toOption == some ref) =
      some file := by
    have hself : ((documentKey file).toOption == some ref) = true := by
      rw [hfilekey]
      exact beq_self_eq_true (some ref)
    cases hfind : bundle.documents.find? fun file' => (documentKey file').toOption == some ref with
    | none => exact absurd hself (List.find?_eq_none.mp hfind file hfile)
    | some file' =>
      obtain ⟨ref', -, hkey', -⟩ :=
        exists_key h.documented (List.mem_of_find?_eq_some hfind)
      have hsome := List.find?_some hfind
      rw [hkey'] at hsome
      obtain rfl := Option.some.inj (beq_iff_eq.mp hsome)
      rw [item_unique (h.documented.imp fun _ _ h => h.1) h.distinctDocuments
        (List.mem_of_find?_eq_some hfind) hfile (hkey'.trans hfilekey.symm)]
  refine bind_eq_ok.mpr ⟨path, hpath, bind_eq_ok.mpr ⟨_, findDocument_eq hmatches, ?_⟩⟩
  rw [hfound]
  exact if_pos hdocument.checksum

/-! ## Assets -/

/-- **The asset of a manifest entry**, with its bytes. -/
structure AssetOf (w : CodecWorld) (entry asset : Json) (path : String) (bytes : Bytes) : Prop where
  entryPath : textField "path" entry = some path
  assetPath : textField "path" asset = some path
  contents : assetBytes asset = some bytes
  entryChecksum : textField "sha256" entry = some (w.sha256 bytes)
  checksum : textField "sha256" asset = some (w.sha256 bytes)

theorem assetKey_ok {asset : Json} {path : String} :
    assetKey asset = .ok path ↔ textField "path" asset = some path ∧
      ∃ bytes, assetBytes asset = some bytes := by
  unfold assetKey
  cases assetBytes asset with
  | none => exact ⟨nofun, fun ⟨_, _, h⟩ => nomatch h⟩
  | some bytes =>
    cases textField "path" asset with
    | none => exact ⟨nofun, fun ⟨h, _⟩ => nomatch h⟩
    | some path' => exact ⟨fun h => ⟨congrArg some (Except.ok.inj h), bytes, rfl⟩,
        fun h => congrArg Except.ok (Option.some.inj h.1)⟩

theorem checkAsset_ok {entries : List Json} {asset : Json} :
    checkAsset w entries asset = .ok () ↔
      ∃ entry, entries.find? (fun entry => textField "path" entry == textField "path" asset) =
          some entry ∧
        textField "sha256" entry = textField "sha256" asset ∧
          textField "sha256" asset = (assetBytes asset).map w.sha256 := by
  unfold checkAsset
  cases entries.find? fun entry => textField "path" entry == textField "path" asset with
  | none => exact ⟨nofun, fun ⟨_, h, _⟩ => nomatch h⟩
  | some entry =>
    dsimp only
    split
    · rename_i hsha
      exact ⟨fun _ => ⟨entry, rfl, hsha⟩, fun _ => rfl⟩
    · rename_i hsha
      refine ⟨nofun, ?_⟩
      rintro ⟨entry', hentry, h⟩
      obtain rfl := Option.some.inj hentry
      exact absurd h hsha

theorem exists_entry (h : BundleKeys w bundle documentRefs assetPaths) {asset : Json}
    (hasset : asset ∈ bundle.assets) : ∃ entry ∈ assetsOf bundle.manifest, ∃ path bytes,
      AssetOf w entry asset path bytes := by
  obtain ⟨path, -, hkey, hcheck⟩ := exists_key h.provided hasset
  obtain ⟨hpath, bytes, hbytes⟩ := assetKey_ok.mp hkey
  obtain ⟨entry, hfind, hsame, hsha⟩ := checkAsset_ok.mp hcheck
  rw [hbytes, Option.map_some] at hsha
  have hentry := List.find?_some hfind
  rw [beq_iff_eq] at hentry
  exact ⟨entry, List.mem_of_find?_eq_some hfind, path, bytes, hentry.trans hpath, hpath, hbytes,
    hsame.trans hsha, hsha⟩

theorem paths_nodup {manifest : Json} (hkeys : ManifestKeys manifest refs paths) :
    ((resourcesOf manifest ++ assetsOf manifest).map (textField "path")).Nodup ∧
      ∀ entry ∈ resourcesOf manifest ++ assetsOf manifest,
        textField "path" entry ≠ some "manifest.json" := by
  have hpaths : (resourcesOf manifest ++ assetsOf manifest).map (textField "path") =
      paths.map some := map_eq_map (hkeys.located.imp fun _ _ h => (entryPath_ok.mp h).1)
  refine ⟨?_, fun entry hentry hreserved => ?_⟩
  · rw [hpaths]
    exact hkeys.distinctPaths.map fun _ _ h => Option.some.inj h
  · obtain ⟨path, hpath, hkey⟩ := exists_key hkeys.located hentry
    obtain rfl := Option.some.inj ((entryPath_ok.mp hkey).1.symm.trans hreserved)
    exact hkeys.unreserved hpath

/-- **The assets have the paths of the manifest**: there are as many, and all are distinct. -/
theorem asset_paths_perm (h : BundleKeys w bundle documentRefs assetPaths) :
    (bundle.assets.map (textField "path")).Perm
      ((assetsOf bundle.manifest).map (textField "path")) := by
  have hpaths : bundle.assets.map (textField "path") = assetPaths.map some :=
    map_eq_map (h.provided.imp fun _ _ h => (assetKey_ok.mp h.1).1)
  have hnodup : (bundle.assets.map (textField "path")).Nodup := by
    rw [hpaths]
    exact h.distinctAssets.map fun _ _ h => Option.some.inj h
  have hsubset : bundle.assets.map (textField "path") ⊆
      (assetsOf bundle.manifest).map (textField "path") := by
    intro path hpath
    obtain ⟨asset, hasset, rfl⟩ := List.mem_map.mp hpath
    obtain ⟨entry, hentry, path, bytes, hof⟩ := exists_entry h hasset
    exact List.mem_map.mpr ⟨entry, hentry, hof.entryPath.trans hof.assetPath.symm⟩
  refine (List.subperm_of_subset hnodup hsubset).perm_of_length_le ?_
  rw [List.length_map, List.length_map]
  exact Nat.le_of_eq h.assetCount.symm

theorem exists_asset (hkeys : ManifestKeys bundle.manifest refs paths)
    (h : BundleKeys w bundle documentRefs assetPaths) {entry : Json}
    (hentry : entry ∈ assetsOf bundle.manifest) : ∃ asset ∈ bundle.assets, ∃ path bytes,
      AssetOf w entry asset path bytes := by
  have hmem := (asset_paths_perm h).mem_iff.mpr (List.mem_map_of_mem hentry)
  obtain ⟨asset, hasset, hpath⟩ := List.mem_map.mp hmem
  obtain ⟨entry', hentry', path, bytes, hof⟩ := exists_entry h hasset
  have hnodup := (List.nodup_append.mp (List.map_append ▸ (paths_nodup hkeys).1)).2.1
  have hsame : entry' = entry := List.inj_on_of_nodup_map hnodup hentry' hentry
    (hof.entryPath.trans (hof.assetPath.symm.trans hpath))
  exact ⟨asset, hasset, path, bytes, hsame ▸ hof⟩

/-! ## Entries of an archive -/

theorem foldl_set {own : List (String × Bytes)} {entries : List (String × Bytes)}
    (hproto : ∀ entry ∈ entries, entry.1 ≠ "__proto__")
    (hnodup : ((own ++ entries).map (·.1)).Nodup) :
    entries.foldl ZipRecord.set { own } = { own := own ++ entries } := by
  induction entries generalizing own with
  | nil => rw [List.append_nil]; rfl
  | cons entry entries ih =>
    obtain ⟨hentry, hentries⟩ := List.forall_mem_cons.mp hproto
    have hnew : own.filter (fun other => other.1 != entry.1) = own := by
      refine List.filter_eq_self.mpr fun other hother => ?_
      rw [List.map_append, List.nodup_append] at hnodup
      exact bne_iff_ne.mpr (hnodup.2.2 _ (List.mem_map_of_mem hother) _
        (List.mem_map_of_mem List.mem_cons_self))
    have hset : ZipRecord.set { own } entry = { own := own ++ [entry] } := by
      unfold ZipRecord.set
      rw [if_neg hentry, hnew]
    rw [List.foldl_cons, hset, ih hentries (by rwa [List.append_assoc]), List.append_assoc]
    rfl

theorem readEntry_eq {entries : List (String × Bytes)} (hnodup : (entries.map (·.1)).Nodup)
    {path missing : String} {bytes : Bytes} (hentry : (path, bytes) ∈ entries)
    (hproto : path ≠ "__proto__") : readEntry entries path missing = .ok bytes := by
  unfold readEntry
  rw [if_neg hproto]
  cases hfind : entries.find? fun entry => entry.1 == path with
  | none => exact absurd (beq_self_eq_true path) (List.find?_eq_none.mp hfind _ hentry)
  | some entry =>
    have hpath := List.find?_some hfind
    rw [beq_iff_eq] at hpath
    have hsame : entry = (path, bytes) :=
      List.inj_on_of_nodup_map hnodup (List.mem_of_find?_eq_some hfind) hentry hpath
    rw [hsame]

theorem inspectEntries_eq {entries : List (String × Bytes)} {total : Nat} {seen : List String}
    (hsafe : ∀ entry ∈ entries, isSafePath entry.1 = true)
    (hnodup : (entries.map (·.1)).Nodup) (hseen : ∀ entry ∈ entries, entry.1 ∉ seen)
    (hlimit : total + expandedSize entries ≤ maxExpandedSize) :
    inspectEntries (entries.map fun entry => ⟨entry.1, entry.2.length, false⟩) total seen =
      .ok () := by
  induction entries generalizing total seen with
  | nil => rfl
  | cons entry entries ih =>
    obtain ⟨hpath, hpaths⟩ := List.forall_mem_cons.mp hsafe
    obtain ⟨hnew, hnews⟩ := List.forall_mem_cons.mp hseen
    obtain ⟨hfirst, hrest⟩ := List.nodup_cons.mp hnodup
    have hsize : expandedSize (entry :: entries) = entry.2.length + expandedSize entries := rfl
    rw [List.map_cons, inspectEntries]
    show (if maxExpandedSize < total + entry.2.length then _
      else if (!isSafePath entry.1) = true then _ else if entry.1 ∈ seen then _ else _) = _
    rw [if_neg (by omega), hpath, if_neg (by decide), if_neg hnew]
    refine ih hpaths hrest (fun other hother hmem => ?_) ?_
    · rcases List.mem_cons.mp hmem with hsame | hmem
      · exact hfirst (List.mem_map.mpr ⟨other, hother, hsame⟩)
      · exact hnews other hother hmem
    · show total + entry.2.length + expandedSize entries ≤ maxExpandedSize
      omega

/-! ## Members -/

theorem field?_setMember (name other : String) (v : Json) (members : List (String × Json)) :
    (Json.obj (setMember name v members)).field? other =
      if other = name then some v else (Json.obj members).field? other := by
  unfold Json.field?
  dsimp only
  induction members with
  | nil =>
    rw [setMember, List.find?_cons]
    by_cases h : other = name
    · subst h
      simp
    · have hne : (name == other) = false := beq_eq_false_iff_ne.mpr (Ne.symm h)
      simp [h, hne]
  | cons member members ih =>
    unfold setMember
    split
    · rename_i hname
      subst hname
      rw [List.find?_cons, List.find?_cons]
      by_cases h : other = member.1
      · subst h
        simp
      · have hne : (member.1 == other) = false := beq_eq_false_iff_ne.mpr (Ne.symm h)
        simp [h, hne]
    · rename_i hname
      rw [List.find?_cons, List.find?_cons]
      by_cases hmember : member.1 = other
      · subst hmember
        simp [hname]
      · have hne : (member.1 == other) = false := beq_eq_false_iff_ne.mpr hmember
        rw [hne]
        exact ih

theorem field?_setField {name other : String} (h : other ≠ name) (value v : Json) :
    (setField name value v).field? other = v.field? other := by
  cases v with
  | obj members =>
    rw [setField, field?_setMember, if_neg h]
  | _ => rfl

theorem setField_same {name : String} {value v : Json} (h : v.field? name = some value) :
    setField name value v = v := by
  cases v with
  | obj members =>
    refine congrArg Json.obj ?_
    unfold Json.field? at h
    dsimp only at h
    induction members with
    | nil => cases h
    | cons member members ih =>
      unfold setMember
      rw [List.find?_cons] at h
      split
      · rename_i hname
        rw [beq_iff_eq.mpr hname, Option.map_some] at h
        rw [← Option.some.inj h, ← hname]
      · rename_i hname
        rw [beq_eq_false_iff_ne.mpr hname] at h
        rw [ih h]
  | _ => rfl

theorem textField_setField {name other : String} (h : other ≠ name) (value v : Json) :
    textField other (setField name value v) = textField other v :=
  congrArg (Option.bind · Json.str?) (field?_setField h value v)

theorem textField_eq_some {name text : String} {v : Json} (h : textField name v = some text) :
    v.field? name = some (.str text) := by
  obtain ⟨value, hvalue, htext⟩ := Option.bind_eq_some_iff.mp h
  cases value with
  | str text' => rw [hvalue, Option.some.inj htext]
  | _ => cases htext

/-! ## Decoding what was packed -/

/-- **An entry of the archive is the document of a resource.** -/
structure PackedDocument (w : CodecWorld) (documents : List Json) (resource : Json)
    (entry : String × Bytes) (file : Json) : Prop where
  path : entryPath resource = .ok entry.1
  document : file ∈ documents ∧ DocumentOf w resource file
  bytes : entry.2 = w.strToU8 (w.stringify file)

/-- **An entry of the archive is the asset of a manifest entry.** -/
structure PackedAsset (w : CodecWorld) (listed asset : Json) (entry : String × Bytes) : Prop where
  path : entryPath listed = .ok entry.1
  asset : AssetOf w listed asset entry.1 entry.2

variable {entries : List (String × Bytes)}

theorem readChecked_eq {missing mismatch : String → String} {listed : Json}
    {entry : String × Bytes} (hnodup : (entries.map (·.1)).Nodup) (hentry : entry ∈ entries)
    (hproto : entry.1 ≠ "__proto__") (hpath : entryPath listed = .ok entry.1)
    (hsha : textField "sha256" listed = some (w.sha256 entry.2)) :
    readChecked w entries missing mismatch listed = .ok entry := by
  refine bind_eq_ok.mpr ⟨entry.1, hpath, bind_eq_ok.mpr ⟨entry.2,
    readEntry_eq hnodup hentry hproto, ?_⟩⟩
  rw [if_pos hsha]
  rfl

theorem readDocument_eq {documents : List Json} {resource file : Json} {entry : String × Bytes}
    (h : PackedDocument w documents resource entry file) (hnodup : (entries.map (·.1)).Nodup)
    (hentry : entry ∈ entries) (hproto : entry.1 ≠ "__proto__") (hjson : IsJson w file) :
    readDocument w entries resource = .ok file := by
  obtain ⟨text, htext⟩ := hjson
  have hsha : textField "sha256" resource = some (w.sha256 entry.2) := by
    rw [h.bytes]
    exact h.document.2.checksum
  refine bind_eq_ok.mpr ⟨entry, readChecked_eq hnodup hentry hproto h.path hsha, ?_⟩
  show parseJson w entry.2 entry.1 = _
  unfold parseJson
  rw [h.bytes, w.reads_stringify text file htext]

def readAs (listed : Json) (bytes : Bytes) : Json :=
  setField "data" (.str (String.ofList (Base64.encode bytes))) listed

theorem readAsset_eq {listed asset : Json} {entry : String × Bytes}
    (h : PackedAsset w listed asset entry) (hnodup : (entries.map (·.1)).Nodup)
    (hentry : entry ∈ entries) (hproto : entry.1 ≠ "__proto__") :
    readAsset w entries listed = .ok (readAs listed entry.2) :=
  bind_eq_ok.mpr ⟨entry, readChecked_eq hnodup hentry hproto h.path h.asset.entryChecksum, rfl⟩

theorem assetBytes_readAs {listed : Json} {path : String} (h : textField "path" listed = some path)
    (bytes : Bytes) : assetBytes (readAs listed bytes) = some bytes := by
  cases listed with
  | obj members =>
    have hdata : textField "data" (readAs (.obj members) bytes) =
        some (String.ofList (Base64.encode bytes)) := by
      unfold textField readAs
      rw [setField, field?_setMember, if_pos rfl]
      rfl
    unfold assetBytes
    rw [hdata, Option.bind_some, String.toList_ofList, Base64.decode_encode]
  | _ => cases h

theorem assetContent_readAs {listed : Json} {path : String}
    (h : textField "path" listed = some path) (bytes : Bytes) :
    assetContent (readAs listed bytes) = (some path, listed.field? "contentType", some bytes) := by
  unfold assetContent
  rw [assetBytes_readAs h, ← h]
  unfold readAs
  rw [textField_setField (by decide), field?_setField (by decide)]

theorem compactChecksums_eq {manifest : Json} {documents : List Json}
    (hlist : (listField "resources" manifest).isSome = true)
    (h : List.Forall₂ (fun resource file => DocumentOf w resource file) (resourcesOf manifest)
      documents) : compactChecksums w manifest documents = manifest := by
  have hzip : ∀ resources files, List.Forall₂ (fun resource file => DocumentOf w resource file)
      resources files → List.zipWith (fun resource file =>
        setField "sha256" (.str (w.sha256 (w.strToU8 (w.stringify file)))) resource)
          resources files = resources := by
    intro resources files hall
    induction hall with
    | nil => rfl
    | cons hone _ ih =>
      rw [List.zipWith_cons_cons, ih, setField_same (textField_eq_some hone.checksum)]
  unfold compactChecksums
  rw [hzip _ _ h]
  refine setField_same ?_
  obtain ⟨resources, hresources⟩ := Option.isSome_iff_exists.mp hlist
  unfold resourcesOf
  rw [hresources, Option.getD_some]
  obtain ⟨v, hv, harr⟩ := Option.bind_eq_some_iff.mp hresources
  cases v with
  | arr items => rw [hv, Option.some.inj harr]
  | _ => cases harr

/-! ## What is packed -/

theorem exists_forall₂ {α β : Type} {R : α → β → Prop} {l : List α}
    (h : ∀ x ∈ l, ∃ y, R x y) : ∃ ys, List.Forall₂ R l ys := by
  induction l with
  | nil => exact ⟨[], .nil⟩
  | cons x xs ih =>
    obtain ⟨⟨y, hy⟩, hxs⟩ := List.forall_mem_cons.mp h
    obtain ⟨ys, hys⟩ := ih hxs
    exact ⟨y :: ys, .cons hy hys⟩

/-- **The entries of a bundle**: a document for each resource, and the assets. -/
structure Packed (w : CodecWorld) (bundle : ConfigBundle)
    (documents : List ((String × Bytes) × Json)) (assets : List (String × Bytes)) : Prop where
  documents : List.Forall₂ (fun resource packed =>
    PackedDocument w bundle.documents resource packed.1 packed.2) (resourcesOf bundle.manifest)
      documents
  assets : List.Forall₂ (fun asset entry => ∃ listed ∈ assetsOf bundle.manifest,
    PackedAsset w listed asset entry) bundle.assets assets

def packedEntries (w : CodecWorld) (bundle : ConfigBundle)
    (documents : List ((String × Bytes) × Json)) (assets : List (String × Bytes)) :
    List (String × Bytes) :=
  ("manifest.json", w.strToU8 (w.stringifyIndented bundle.manifest)) ::
    (documents.map (·.1) ++ assets)

variable {documents : List ((String × Bytes) × Json)} {assets : List (String × Bytes)}

theorem exists_packed (hkeys : ManifestKeys bundle.manifest refs paths)
    (h : BundleKeys w bundle documentRefs assetPaths) :
    ∃ documents assets, Packed w bundle documents assets := by
  have hlocated {entry : Json}
      (hentry : entry ∈ resourcesOf bundle.manifest ++ assetsOf bundle.manifest) :
      ∃ path, entryPath entry = .ok path := by
    obtain ⟨path, -, hpath⟩ := exists_key hkeys.located hentry
    exact ⟨path, hpath⟩
  obtain ⟨documents, hdocuments⟩ := exists_forall₂ (l := resourcesOf bundle.manifest)
    (R := fun resource (packed : (String × Bytes) × Json) =>
      PackedDocument w bundle.documents resource packed.1 packed.2) fun resource hresource => by
        obtain ⟨file, hfile, hof⟩ := exists_document hkeys h hresource
        obtain ⟨path, hpath⟩ := hlocated (List.mem_append_left _ hresource)
        exact ⟨((path, w.strToU8 (w.stringify file)), file), hpath, ⟨hfile, hof⟩, rfl⟩
  obtain ⟨assets, hassets⟩ := exists_forall₂ (l := bundle.assets)
    (R := fun asset (entry : String × Bytes) => ∃ listed ∈ assetsOf bundle.manifest,
      PackedAsset w listed asset entry) fun asset hasset => by
        obtain ⟨listed, hlisted, path, bytes, hof⟩ := exists_entry h hasset
        obtain ⟨path', hpath⟩ := hlocated (List.mem_append_right _ hlisted)
        obtain rfl := Option.some.inj ((entryPath_ok.mp hpath).1.symm.trans hof.entryPath)
        exact ⟨(path', bytes), listed, hlisted, hpath, hof⟩
  exact ⟨documents, assets, hdocuments, hassets⟩

theorem Packed.located (hkeys : ManifestKeys bundle.manifest refs paths)
    (h : BundleKeys w bundle documentRefs assetPaths) (hpacked : Packed w bundle documents assets) :
    ((packedEntries w bundle documents assets).map (·.1)).Nodup ∧
      ∀ entry ∈ documents.map (·.1) ++ assets, isSafePath entry.1 = true ∧
        ∃ listed ∈ resourcesOf bundle.manifest ++ assetsOf bundle.manifest,
          textField "path" listed = some entry.1 := by
  have hlisted : ∀ entry ∈ documents.map (·.1) ++ assets, isSafePath entry.1 = true ∧
      ∃ listed ∈ resourcesOf bundle.manifest ++ assetsOf bundle.manifest,
        textField "path" listed = some entry.1 := by
    intro entry hentry
    rcases List.mem_append.mp hentry with hdocument | hasset
    · obtain ⟨packed, hpack, rfl⟩ := List.mem_map.mp hdocument
      obtain ⟨resource, hresource, hof⟩ := exists_item hpacked.documents hpack
      obtain ⟨hpath, hsafe⟩ := entryPath_ok.mp hof.path
      exact ⟨hsafe, resource, List.mem_append_left _ hresource, hpath⟩
    · obtain ⟨asset, -, listed, hlisted, hof⟩ := exists_item hpacked.assets hasset
      obtain ⟨hpath, hsafe⟩ := entryPath_ok.mp hof.path
      exact ⟨hsafe, listed, List.mem_append_right _ hlisted, hpath⟩
  have hdocumentPaths : (resourcesOf bundle.manifest).map (textField "path") =
      (documents.map (·.1.1)).map some :=
    map_eq_map (List.forall₂_map_right_iff.mpr
      (hpacked.documents.imp fun _ _ hof => (entryPath_ok.mp hof.path).1))
  have hassetPaths : bundle.assets.map (textField "path") = (assets.map (·.1)).map some :=
    map_eq_map (List.forall₂_map_right_iff.mpr
      (hpacked.assets.imp fun _ _ ⟨_, _, hof⟩ => hof.asset.assetPath))
  have hperm : (((documents.map (·.1) ++ assets).map (·.1)).map some).Perm
      ((resourcesOf bundle.manifest ++ assetsOf bundle.manifest).map (textField "path")) := by
    have hfirst : (documents.map (·.1)).map (·.1) = documents.map (·.1.1) := List.map_map
    rw [List.map_append, List.map_append, List.map_append, hdocumentPaths, ← hassetPaths, hfirst]
    exact (asset_paths_perm h).append_left _
  refine ⟨?_, hlisted⟩
  rw [packedEntries, List.map_cons, List.nodup_cons]
  refine ⟨fun hmem => ?_, (hperm.nodup_iff.mpr (paths_nodup hkeys).1).of_map⟩
  obtain ⟨entry, hentry, hname⟩ := List.mem_map.mp hmem
  obtain ⟨-, listed, hlist, hpath⟩ := hlisted entry hentry
  exact (paths_nodup hkeys).2 listed hlist (by rw [hpath, hname])

/-- **What `encode` zips**, when no path is the prototype's. -/
theorem packBundle_eq (haccepted : assertConfigBundle w bundle = .ok ())
    (hkeys : ManifestKeys bundle.manifest refs paths)
    (h : BundleKeys w bundle documentRefs assetPaths) (hpacked : Packed w bundle documents assets)
    (hproto : ∀ entry ∈ documents.map (·.1) ++ assets, entry.1 ≠ "__proto__") :
    packBundle w bundle = .ok { own := packedEntries w bundle documents assets } := by
  have hresources : (resourcesOf bundle.manifest).mapM (packResource w bundle.documents) =
      .ok (documents.map (·.1)) := by
    refine mapM_forall₂.mpr (List.forall₂_map_right_iff.mpr
      ((forall₂_mem hpacked.documents).imp ?_))
    rintro resource packed ⟨hresource, -, hof⟩
    rw [packResource_eq hkeys h hresource hof.document.1 hof.document.2 hof.path, ← hof.bytes]
  have hassets : bundle.assets.mapM (packAsset w) = .ok assets := by
    refine mapM_forall₂.mpr (hpacked.assets.imp ?_)
    rintro asset entry ⟨listed, -, hof⟩
    have hpath : entryPath asset = .ok entry.1 :=
      entryPath_ok.mpr ⟨hof.asset.assetPath, (entryPath_ok.mp hof.path).2⟩
    refine bind_eq_ok.mpr ⟨entry.1, hpath, ?_⟩
    rw [hof.asset.contents, Option.getD_some]
    exact if_pos hof.asset.checksum
  refine bind_eq_ok.mpr ⟨(), haccepted, bind_eq_ok.mpr ⟨_, hresources, bind_eq_ok.mpr
    ⟨_, hassets, ?_⟩⟩⟩
  exact congrArg Except.ok (foldl_set hproto (hpacked.located hkeys h).1)

/-! ## What is decoded -/

theorem forall₂_meet {α β γ : Type} {R : α → β → Prop} {S : α → γ → Prop} {xs : List α}
    {ys : List β} {zs : List γ} (h : List.Forall₂ R xs ys) (h' : List.Forall₂ S xs zs) :
    List.Forall₂ (fun y z => ∃ x ∈ xs, R x y ∧ S x z) ys zs := by
  induction h generalizing zs with
  | nil =>
    cases h'
    exact .nil
  | cons hone _ ih =>
    cases h' with
    | cons hone' htail' =>
      refine .cons ⟨_, List.mem_cons_self, hone, hone'⟩ ((ih htail').imp ?_)
      rintro y z ⟨x, hx, hR⟩
      exact ⟨x, List.mem_cons_of_mem _ hx, hR⟩

theorem nodup_of_keys {α κ : Type} {key : α → Checked κ} {items : List α} {keys : List κ}
    (h : List.Forall₂ (fun item k => key item = .ok k) items keys) (hnodup : keys.Nodup) :
    items.Nodup := by
  induction h with
  | nil => exact .nil
  | cons hone htail ih =>
    obtain ⟨hnew, hrest⟩ := List.nodup_cons.mp hnodup
    refine List.nodup_cons.mpr ⟨fun hmem => ?_, ih hrest⟩
    obtain ⟨k, hk, hkey⟩ := exists_key htail hmem
    exact hnew (Except.ok.inj (hone.symm.trans hkey) ▸ hk)

/-- **The documents that are read** are those of the bundle, in the order of the manifest. -/
theorem Packed.documents_perm (hkeys : ManifestKeys bundle.manifest refs paths)
    (h : BundleKeys w bundle documentRefs assetPaths) (hpacked : Packed w bundle documents assets) :
    List.Forall₂ (fun file ref => documentKey file = .ok ref ∧
      checkDocument w (resourcesOf bundle.manifest) file = .ok ()) (documents.map (·.2)) refs ∧
      (documents.map (·.2)).Perm bundle.documents := by
  have hmem : ∀ file ∈ documents.map (·.2), file ∈ bundle.documents := by
    intro file hfile
    obtain ⟨packed, hpack, rfl⟩ := List.mem_map.mp hfile
    obtain ⟨resource, -, hof⟩ := exists_item hpacked.documents hpack
    exact hof.document.1
  have hall : List.Forall₂ (fun file ref => documentKey file = .ok ref ∧
      checkDocument w (resourcesOf bundle.manifest) file = .ok ()) (documents.map (·.2)) refs := by
    refine List.forall₂_map_left_iff.mpr ((forall₂_meet hpacked.documents hkeys.identified).imp ?_)
    rintro packed ref ⟨resource, -, hof, hkey⟩
    obtain ⟨ref', hkey', hfile⟩ := hof.document.2.key
    obtain rfl := Except.ok.inj (hkey'.symm.trans hkey)
    obtain ⟨ref'', -, -, hcheck⟩ := exists_key h.documented hof.document.1
    exact ⟨hfile, hcheck⟩
  refine ⟨hall, ?_⟩
  have hnodup := nodup_of_keys (hall.imp fun _ _ h => h.1) hkeys.distinctRefs
  refine (List.subperm_of_subset hnodup hmem).perm_of_length_le ?_
  rw [List.length_map, ← hpacked.documents.length_eq]
  exact Nat.le_of_eq h.documentCount

theorem Packed.exists_read (hkeys : ManifestKeys bundle.manifest refs paths)
    (h : BundleKeys w bundle documentRefs assetPaths) (hpacked : Packed w bundle documents assets) :
    ∃ read, List.Forall₂ (fun entry asset' => ∃ packed ∈ assets, ∃ asset ∈ bundle.assets,
      PackedAsset w entry asset packed ∧ asset' = readAs entry packed.2)
        (assetsOf bundle.manifest) read := by
  refine exists_forall₂ fun entry hentry => ?_
  obtain ⟨asset, hasset, path, bytes, hof⟩ := exists_asset hkeys h hentry
  obtain ⟨packed, hpack, entry', hentry', hof'⟩ := exists_key hpacked.assets hasset
  have hnodup := (List.nodup_append.mp (List.map_append ▸ (paths_nodup hkeys).1)).2.1
  have hpaths : textField "path" entry' = textField "path" entry :=
    hof'.asset.entryPath.trans (hof'.asset.assetPath.symm.trans
      (hof.assetPath.trans hof.entryPath.symm))
  obtain rfl := List.inj_on_of_nodup_map hnodup hentry' hentry hpaths
  exact ⟨_, packed, hpack, asset, hasset, hof', rfl⟩

theorem accepts_readAs (hkeys : ManifestKeys bundle.manifest refs paths) {entry asset : Json}
    {packed : String × Bytes} (hentry : entry ∈ assetsOf bundle.manifest)
    (hof : PackedAsset w entry asset packed) :
    assetKey (readAs entry packed.2) = .ok packed.1 ∧
      checkAsset w (assetsOf bundle.manifest) (readAs entry packed.2) = .ok () := by
  have hbytes := assetBytes_readAs hof.asset.entryPath packed.2
  have hpath : textField "path" (readAs entry packed.2) = textField "path" entry :=
    textField_setField (by decide) ..
  have hsha : textField "sha256" (readAs entry packed.2) = textField "sha256" entry :=
    textField_setField (by decide) ..
  refine ⟨assetKey_ok.mpr ⟨hpath.trans hof.asset.entryPath, _, hbytes⟩, ?_⟩
  refine checkAsset_ok.mpr ⟨entry, ?_, hsha.symm, ?_⟩
  · rw [hpath]
    cases hfind : (assetsOf bundle.manifest).find? fun e =>
        textField "path" e == textField "path" entry with
    | none => exact absurd (beq_self_eq_true _) (List.find?_eq_none.mp hfind entry hentry)
    | some entry' =>
      have hsame := List.find?_some hfind
      rw [beq_iff_eq] at hsame
      have hnodup := (List.nodup_append.mp (List.map_append ▸ (paths_nodup hkeys).1)).2.1
      rw [List.inj_on_of_nodup_map hnodup (List.mem_of_find?_eq_some hfind) hentry hsame]
  · rw [hsha, hof.asset.entryChecksum, hbytes]
    rfl

/-- **The bundle that is read is accepted.** -/
theorem accepts_read (hmanifest : assertBundleManifest bundle.manifest = .ok ())
    (hkeys : ManifestKeys bundle.manifest refs paths)
    (h : BundleKeys w bundle documentRefs assetPaths) (hpacked : Packed w bundle documents assets)
    {read : List Json} (hread : List.Forall₂ (fun entry asset' => ∃ packed ∈ assets,
      ∃ asset ∈ bundle.assets, PackedAsset w entry asset packed ∧ asset' = readAs entry packed.2)
        (assetsOf bundle.manifest) read) :
    assertConfigBundle w ⟨bundle.manifest, documents.map (·.2), read⟩ = .ok () := by
  have hnodup := (List.nodup_append.mp (List.map_append ▸ (paths_nodup hkeys).1)).2.1
  obtain ⟨listed, hlisted⟩ := exists_forall₂ (l := assetsOf bundle.manifest)
    (R := fun entry path => textField "path" entry = some path) fun entry hentry => by
      obtain ⟨asset, -, path, bytes, hof⟩ := exists_asset hkeys h hentry
      exact ⟨path, hof.entryPath⟩
  rw [map_eq_map (g := some) hlisted] at hnodup
  refine assertConfigBundle_ok.mpr ⟨hmanifest, refs, listed, ?_, hread.length_eq.symm,
    (hpacked.documents_perm hkeys h).1, hkeys.distinctRefs, ?_, hnodup.of_map⟩
  · rw [List.length_map]
    exact hpacked.documents.length_eq.symm
  · refine (forall₂_meet hread hlisted).imp ?_
    rintro asset' path ⟨entry, hentry, ⟨packed, -, asset, -, hof, rfl⟩, hpath⟩
    obtain ⟨hkey, hcheck⟩ := accepts_readAs hkeys hentry hof
    obtain rfl := Option.some.inj (hof.asset.entryPath.symm.trans hpath)
    exact ⟨hkey, hcheck⟩

theorem contents_perm (hregular : Regular bundle) (hkeys : ManifestKeys bundle.manifest refs paths)
    (h : BundleKeys w bundle documentRefs assetPaths) {read : List Json}
    (hread : List.Forall₂ (fun entry asset' => ∃ packed ∈ assets,
      ∃ asset ∈ bundle.assets, PackedAsset w entry asset packed ∧ asset' = readAs entry packed.2)
        (assetsOf bundle.manifest) read) :
    (read.map assetContent).Perm (bundle.assets.map assetContent) := by
  have hnodup := (List.nodup_append.mp (List.map_append ▸ (paths_nodup hkeys).1)).2.1
  have hpaths : (assetsOf bundle.manifest).map (textField "path") =
      read.map (textField "path") := by
    refine map_eq_map (hread.imp ?_)
    rintro entry asset' ⟨packed, -, asset, -, hof, rfl⟩
    exact (textField_setField (by decide) ..).symm
  have hdistinct : (read.map assetContent).Nodup := by
    rw [hpaths] at hnodup
    refine List.Nodup.of_map (·.1) ?_
    rw [List.map_map]
    exact hnodup
  have hsubset : read.map assetContent ⊆ bundle.assets.map assetContent := by
    intro content hcontent
    obtain ⟨asset', hasset', rfl⟩ := List.mem_map.mp hcontent
    obtain ⟨entry, hentry, packed, -, asset, hasset, hof, rfl⟩ := exists_item hread hasset'
    refine List.mem_map.mpr ⟨asset, hasset, ?_⟩
    rw [assetContent_readAs hof.asset.entryPath, hregular.contentTypes asset hasset entry hentry
      (hof.asset.entryPath.trans hof.asset.assetPath.symm), assetContent, hof.asset.assetPath,
      hof.asset.contents]
  refine (List.subperm_of_subset hdistinct hsubset).perm_of_length_le ?_
  rw [List.length_map, List.length_map, ← hread.length_eq]
  exact Nat.le_of_eq h.assetCount

theorem expandedSize_perm {entries' : List (String × Bytes)} (h : entries.Perm entries') :
    expandedSize entries = expandedSize entries' := (h.map _).sum_nat

theorem isSafePath_manifest : isSafePath "manifest.json" = true := by
  decide +kernel

/-- **The entries of a bundle are read as the bundle**, in any order. -/
theorem readBundle_eq (hmanifest : assertBundleManifest bundle.manifest = .ok ())
    (hkeys : ManifestKeys bundle.manifest refs paths)
    (h : BundleKeys w bundle documentRefs assetPaths) (hpacked : Packed w bundle documents assets)
    (hperm : entries.Perm (packedEntries w bundle documents assets))
    (hsize : expandedSize entries ≤ maxExpandedSize)
    (hproto : ∀ entry ∈ documents.map (·.1) ++ assets, entry.1 ≠ "__proto__")
    (hjson : IsJson w bundle.manifest) (hjsons : ∀ file ∈ bundle.documents, IsJson w file)
    {read : List Json} (hread : List.Forall₂ (fun entry asset' => ∃ packed ∈ assets,
      ∃ asset ∈ bundle.assets, PackedAsset w entry asset packed ∧ asset' = readAs entry packed.2)
        (assetsOf bundle.manifest) read) :
    readBundle w entries = .ok ⟨bundle.manifest, documents.map (·.2), read⟩ := by
  obtain ⟨hnodup, hlisted⟩ := hpacked.located hkeys h
  have hnodup' : (entries.map (·.1)).Nodup := (hperm.map _).nodup_iff.mpr hnodup
  have hmem {entry : String × Bytes} (hentry : entry ∈ documents.map (·.1) ++ assets) :
      entry ∈ entries := hperm.mem_iff.mpr (List.mem_cons_of_mem _ hentry)
  -- all paths are safe
  obtain ⟨safe, hsafe⟩ : ∃ safe, entries.mapM (fun entry =>
      assertSafeBundlePath (some (.str entry.1))) = .ok safe := by
    refine mapM_succeeds.mpr fun entry hentry => ⟨entry.1, if_pos ?_⟩
    rcases List.mem_cons.mp (hperm.mem_iff.mp hentry) with rfl | hentry
    · exact isSafePath_manifest
    · exact (hlisted entry hentry).1
  have hmanifestBytes : readEntry entries "manifest.json" "Configuration ZIP has no manifest.json" =
      .ok (w.strToU8 (w.stringifyIndented bundle.manifest)) :=
    readEntry_eq hnodup' (hperm.mem_iff.mpr List.mem_cons_self) (by decide)
  have hparsed : parseJson w (w.strToU8 (w.stringifyIndented bundle.manifest)) "manifest.json" =
      .ok bundle.manifest := by
    obtain ⟨text, htext⟩ := hjson
    unfold parseJson
    rw [w.reads_indented text _ htext]
  have hdocuments : (resourcesOf bundle.manifest).mapM (readDocument w entries) =
      .ok (documents.map (·.2)) := by
    refine mapM_forall₂.mpr (List.forall₂_map_right_iff.mpr
      ((forall₂_mem hpacked.documents).imp ?_))
    rintro resource packed ⟨-, hpack, hof⟩
    have hentry : packed.1 ∈ documents.map (·.1) ++ assets :=
      List.mem_append_left _ (List.mem_map_of_mem hpack)
    exact readDocument_eq hof hnodup' (hmem hentry) (hproto _ hentry)
      (hjsons _ hof.document.1)
  have hassets : (assetsOf bundle.manifest).mapM (readAsset w entries) = .ok read := by
    refine mapM_forall₂.mpr (hread.imp ?_)
    rintro entry asset' ⟨packed, hpack, asset, -, hof, rfl⟩
    have hentry : packed ∈ documents.map (·.1) ++ assets := List.mem_append_right _ hpack
    exact readAsset_eq hof hnodup' (hmem hentry) (hproto packed hentry)
  have hlist : (listField "resources" bundle.manifest).isSome = true := by
    unfold assertBundleManifest at hmanifest
    split at hmanifest
    · rename_i hshape
      exact hshape.2.2.1
    · cases hmanifest
  have hcompact : compactChecksums w bundle.manifest (documents.map (·.2)) = bundle.manifest :=
    compactChecksums_eq hlist (List.forall₂_map_right_iff.mpr
      (hpacked.documents.imp fun _ _ hof => hof.document.2))
  have hdeclared : checkListed bundle.manifest entries = .ok () := by
    unfold checkListed
    split
    · rename_i entry hfind
      have hentry := hperm.mem_iff.mp (List.mem_of_find?_eq_some hfind)
      have hunlisted := List.find?_some hfind
      rw [Bool.and_eq_true, bne_iff_ne, Bool.not_eq_true'] at hunlisted
      rcases List.mem_cons.mp hentry with rfl | hentry
      · exact absurd rfl hunlisted.1
      · obtain ⟨-, listed, hlist, hpath⟩ := hlisted entry hentry
        have hnot := List.any_eq_false.mp hunlisted.2 listed hlist
        exact absurd (beq_iff_eq.mpr hpath) hnot
    · rfl
  refine bind_eq_ok.mpr ⟨safe, hsafe, ?_⟩
  rw [if_neg (Nat.not_lt.mpr hsize)]
  refine bind_eq_ok.mpr ⟨_, hmanifestBytes, bind_eq_ok.mpr ⟨_, hparsed, bind_eq_ok.mpr
    ⟨(), hmanifest, bind_eq_ok.mpr ⟨_, hdocuments, bind_eq_ok.mpr ⟨_, hassets, ?_⟩⟩⟩⟩⟩
  rw [hcompact]
  exact bind_eq_ok.mpr ⟨(), accepts_read hmanifest hkeys h hpacked hread,
    bind_eq_ok.mpr ⟨(), hdeclared, rfl⟩⟩

/-- **An archive of a regular bundle is decoded to the bundle.** -/
theorem roundTrips_of_regular (haccepted : assertConfigBundle w bundle = .ok ())
    (hlimits : WithinLimits w bundle) (hjson : IsJson w bundle.manifest)
    (hjsons : ∀ file ∈ bundle.documents, IsJson w file) (hregular : Regular bundle) :
    RoundTrips w bundle := by
  obtain ⟨hmanifest, documentRefs, assetPaths, h⟩ := assertConfigBundle_ok.mp haccepted
  obtain ⟨refs, paths, hkeys⟩ := keys_of_assertBundleManifest hmanifest
  obtain ⟨documents, assets, hpacked⟩ := exists_packed hkeys h
  obtain ⟨read, hread⟩ := hpacked.exists_read hkeys h
  obtain ⟨hnodup, hlisted⟩ := hpacked.located hkeys h
  have hproto : ∀ entry ∈ documents.map (·.1) ++ assets, entry.1 ≠ "__proto__" := by
    intro entry hentry hname
    obtain ⟨-, listed, hlist, hpath⟩ := hlisted entry hentry
    exact hregular.paths listed hlist (by rw [hpath, hname])
  have hrecord := packBundle_eq haccepted hkeys h hpacked hproto
  have hentries : ({ own := packedEntries w bundle documents assets } : ZipRecord).entries =
      packedEntries w bundle documents assets := List.append_nil _
  have hencode : encode w bundle = .ok (w.zipSync (packedEntries w bundle documents assets)) :=
    bind_eq_ok.mpr ⟨_, hrecord, by rw [hentries]; rfl⟩
  have hcount := hlimits.entries _ hrecord
  have hexpanded := hlimits.expanded _ hrecord
  rw [hentries] at hcount hexpanded
  obtain ⟨entries, hunzip, hperm⟩ := w.unzips _ hnodup
  have hinspect : inspectCentralDirectory w (w.zipSync (packedEntries w bundle documents assets)) =
      .ok () := by
    refine bind_eq_ok.mpr ⟨_, w.lists _ hnodup hcount hexpanded, ?_⟩
    rw [List.length_map, if_neg (Nat.not_lt.mpr hcount)]
    refine inspectEntries_eq ?_ hnodup (fun _ _ => List.not_mem_nil) (by rwa [Nat.zero_add])
    intro entry hentry
    rcases List.mem_cons.mp hentry with rfl | hentry
    · exact isSafePath_manifest
    · exact (hlisted entry hentry).1
  have hdecode : decode w (w.zipSync (packedEntries w bundle documents assets)) =
      .ok ⟨bundle.manifest, documents.map (·.2), read⟩ := by
    unfold decode
    rw [if_neg (Nat.not_lt.mpr (hlimits.archive _ hencode)), hinspect, hunzip]
    exact readBundle_eq hmanifest hkeys h hpacked hperm
      (by rwa [expandedSize_perm hperm]) hproto hjson hjsons hread
  exact ⟨_, _, hencode, hdecode, rfl, (hpacked.documents_perm hkeys h).2,
    contents_perm hregular hkeys h hread⟩

/-! ## What a decoded bundle shows -/

theorem path_of_readChecked {missing mismatch : String → String} {listed : Json}
    {entry : String × Bytes} (h : readChecked w entries missing mismatch listed = .ok entry) :
    textField "path" listed ≠ some "__proto__" := by
  obtain ⟨path, hpath, h⟩ := bind_eq_ok.mp h
  obtain ⟨bytes, hbytes, -⟩ := bind_eq_ok.mp h
  rw [(entryPath_ok.mp hpath).1]
  intro hproto
  obtain rfl := Option.some.inj hproto
  cases hbytes

theorem path_of_compactChecksums {manifest : Json} {files : List Json} {resource : Json}
    (h : resource ∈ resourcesOf (compactChecksums w manifest files)) :
    ∃ resource' ∈ resourcesOf manifest,
      textField "path" resource = textField "path" resource' := by
  cases manifest with
  | obj members =>
    have hresources : resourcesOf (compactChecksums w (.obj members) files) =
        List.zipWith (fun resource file =>
          setField "sha256" (.str (w.sha256 (w.strToU8 (w.stringify file)))) resource)
            (resourcesOf (.obj members)) files := by
      unfold compactChecksums
      rw [resourcesOf, listField, setField, field?_setMember, if_pos rfl]
      rfl
    rw [hresources, ← List.map_uncurry_zip_eq_zipWith] at h
    obtain ⟨⟨resource', file⟩, hpair, rfl⟩ := List.mem_map.mp h
    exact ⟨resource', (List.of_mem_zip hpair).1, textField_setField (by decide) ..⟩
  | _ => exact ⟨resource, h, rfl⟩

theorem assetsOf_compactChecksums (manifest : Json) (files : List Json) :
    assetsOf (compactChecksums w manifest files) = assetsOf manifest := by
  unfold assetsOf listField compactChecksums
  rw [field?_setField (by decide)]

/-- **A decoded bundle**: its documents and assets were read from entries of its manifest. -/
theorem of_readBundle (h : readBundle w entries = .ok bundle) :
    (∀ entry ∈ resourcesOf bundle.manifest ++ assetsOf bundle.manifest,
      textField "path" entry ≠ some "__proto__") ∧
    ∀ asset ∈ bundle.assets, ∃ entry ∈ assetsOf bundle.manifest, ∃ bytes,
      asset = readAs entry bytes := by
  obtain ⟨safe, -, h⟩ := bind_eq_ok.mp h
  split at h
  · cases h
  · obtain ⟨bytes, -, h⟩ := bind_eq_ok.mp h
    obtain ⟨manifest, -, h⟩ := bind_eq_ok.mp h
    obtain ⟨_, -, h⟩ := bind_eq_ok.mp h
    obtain ⟨files, hfiles, h⟩ := bind_eq_ok.mp h
    obtain ⟨read, hread, h⟩ := bind_eq_ok.mp h
    obtain ⟨_, -, h⟩ := bind_eq_ok.mp h
    obtain ⟨_, -, h⟩ := bind_eq_ok.mp h
    obtain rfl := Except.ok.inj h
    rw [assetsOf_compactChecksums]
    refine ⟨fun entry hentry => ?_, fun asset hasset => ?_⟩
    · rcases List.mem_append.mp hentry with hresource | hasset
      · obtain ⟨resource, hresource, hpath⟩ := path_of_compactChecksums hresource
        obtain ⟨file, -, hfile⟩ := exists_key (mapM_forall₂.mp hfiles) hresource
        obtain ⟨packed, hpacked, -⟩ := bind_eq_ok.mp hfile
        rw [hpath]
        exact path_of_readChecked hpacked
      · obtain ⟨asset, -, hasset⟩ := exists_key (mapM_forall₂.mp hread) hasset
        obtain ⟨packed, hpacked, -⟩ := bind_eq_ok.mp hasset
        exact path_of_readChecked hpacked
    · obtain ⟨entry, hentry, hasset⟩ := exists_item (mapM_forall₂.mp hread) hasset
      obtain ⟨packed, -, hasset⟩ := bind_eq_ok.mp hasset
      exact ⟨entry, hentry, packed.2, (Except.ok.inj hasset).symm⟩

/-- **A bundle that round-trips is regular.** -/
theorem regular_of_roundTrips (haccepted : assertConfigBundle w bundle = .ok ())
    (h : RoundTrips w bundle) : Regular bundle := by
  obtain ⟨hmanifest, -⟩ := assertConfigBundle_ok.mp haccepted
  obtain ⟨refs, paths, hkeys⟩ := keys_of_assertBundleManifest hmanifest
  obtain ⟨archive, decoded, -, hdecode, hsame, -, hcontents⟩ := h
  obtain ⟨entries, hread⟩ : ∃ entries, readBundle w entries = .ok decoded := by
    unfold decode at hdecode
    split at hdecode
    · cases hdecode
    · obtain ⟨_, -, hdecode⟩ := bind_eq_ok.mp hdecode
      split at hdecode
      · exact ⟨_, hdecode⟩
      · cases hdecode
  obtain ⟨hpaths, hassets⟩ := of_readBundle hread
  rw [hsame] at hpaths hassets
  refine ⟨hpaths, fun asset hasset entry hentry hpath => ?_⟩
  -- the content of the asset is that of one that was read
  have hmem := hcontents.mem_iff.mpr (List.mem_map_of_mem hasset)
  obtain ⟨asset', hasset', hcontent⟩ := List.mem_map.mp hmem
  obtain ⟨listed, hlisted, bytes', rfl⟩ := hassets asset' hasset'
  have hlistedPath : textField "path" listed = textField "path" asset :=
    (textField_setField (by decide) ..).symm.trans (congrArg (·.1) hcontent)
  have htype : listed.field? "contentType" = asset.field? "contentType" :=
    (field?_setField (by decide) ..).symm.trans (congrArg (·.2.1) hcontent)
  have hnodup := (List.nodup_append.mp (List.map_append ▸ (paths_nodup hkeys).1)).2.1
  obtain rfl := List.inj_on_of_nodup_map hnodup hlisted hentry (hlistedPath.trans hpath.symm)
  exact htype

end ConfigFormat

open ConfigFormat

/-- **Bundle archives round-trip**, exactly when no path is `__proto__` and the content types of the
assets are those of the manifest. -/
theorem bundles_round_trip (w : CodecWorld) (bundle : ConfigBundle)
    (haccepted : assertConfigBundle w bundle = .ok ()) (hlimits : WithinLimits w bundle)
    (hjson : IsJson w bundle.manifest) (hjsons : ∀ file ∈ bundle.documents, IsJson w file) :
    RoundTrips w bundle ↔ Regular bundle :=
  ⟨regular_of_roundTrips haccepted, roundTrips_of_regular haccepted hlimits hjson hjsons⟩

namespace ConfigFormat

/-! ## A bundle with a logo -/

def asciiBytes (text : String) : Bytes := text.toList.map fun c => UInt8.ofNat c.toNat

def asciiText (bytes : Bytes) : String := String.ofList (bytes.map fun b => Char.ofNat b.toNat)

def emptyChecksum : String := "e3b0c44298fc1c149afbf4c8996fb92427ae41e4649b934ca495991b7852b855"

def logoManifest (path : String) : Json :=
  .obj [("format", .str "eudiplo.config-bundle"), ("formatVersion", .num 2 0),
    ("tenant", .str "demo"), ("resources", .arr []),
    ("assets", .arr [.obj [("path", .str path), ("contentType", .str "image/svg+xml"),
      ("sha256", .str emptyChecksum)]])]

def logoText (path : String) : String :=
  "\x7b\"format\":\"eudiplo.config-bundle\",\"formatVersion\":2,\"tenant\":\"demo\"," ++
    "\"resources\":[],\"assets\":[\x7b\"path\":\"" ++ path ++
    "\",\"contentType\":\"image/svg+xml\",\"sha256\":\"" ++ emptyChecksum ++ "\"\x7d]\x7d"

def logoWorld (path : String) (hascii : asciiText (asciiBytes (logoText path)) = logoText path) :
    CodecWorld where
  Archive := List (String × Bytes)
  byteLength := expandedSize
  sha256 _ := emptyChecksum
  strToU8 := asciiBytes
  strFromU8 := asciiText
  parse text := if text = logoText path then some (logoManifest path) else none
  stringify _ := logoText path
  stringifyIndented _ := logoText path
  zipSync := id
  unzipSync := .ok
  centralDirectory entries := .ok (entries.map fun entry => ⟨entry.1, entry.2.length, false⟩)
  reads_stringify text v h := by
    split at h
    · rw [hascii, if_pos rfl, h]
    · cases h
  reads_indented text v h := by
    split at h
    · rw [hascii, if_pos rfl, h]
    · cases h
  unzips entries _ := ⟨entries, rfl, .refl _⟩
  lists _ _ _ _ := rfl

def logoBundle (path contentType : String) : ConfigBundle where
  manifest := logoManifest path
  documents := []
  assets := [.obj [("path", .str path), ("contentType", .str contentType),
    ("sha256", .str emptyChecksum), ("data", .str "")]]

/-- An ASCII text of at most so many characters. -/
structure PlainText (text : String) (n : Nat) : Prop where
  ascii : ∀ c ∈ text.toList, c.toNat < 128
  length : text.toList.length ≤ n

namespace PlainText

variable {a b : String} {m n : Nat}

theorem of_chars {chars : List Char} (ha : a = String.ofList chars)
    (hascii : (chars.all fun c => decide (c.toNat < 128)) = true) :
    PlainText a chars.length := by
  subst ha
  constructor
  · rw [String.toList_ofList]
    simpa using hascii
  · exact Nat.le_of_eq (congrArg List.length String.toList_ofList)

theorem mono (h : PlainText a m) (hle : m ≤ n) : PlainText a n :=
  ⟨h.ascii, Nat.le_trans h.length hle⟩

theorem append (ha : PlainText a m) (hb : PlainText b n) : PlainText (a ++ b) (m + n) := by
  constructor
  · intro c hc
    rw [String.toList_append] at hc
    exact (List.mem_append.mp hc).elim (ha.ascii c) (hb.ascii c)
  · rw [String.toList_append, List.length_append]
    exact Nat.add_le_add ha.length hb.length

theorem bytes (h : PlainText a n) : asciiText (asciiBytes a) = a := by
  have hread : ∀ c ∈ a.toList, Char.ofNat (UInt8.ofNat c.toNat).toNat = c := fun c hc => by
    have hlt := h.ascii c hc
    rw [UInt8.toNat_ofNat', Nat.mod_eq_of_lt (by omega), Char.ofNat_toNat]
  rw [asciiText, asciiBytes, List.map_map]
  exact (congrArg String.ofList ((List.map_congr_left hread).trans (List.map_id' _))).trans
    String.ofList_toList

end PlainText

theorem plain_logoText {path : String} {n : Nat} (h : PlainText path n) :
    PlainText (logoText path) (240 + n) := by
  refine PlainText.mono (.append (.append (.append (.append (.append (.of_chars rfl ?_)
    (.of_chars rfl ?_)) h) (.of_chars rfl ?_)) (.of_chars rfl ?_)) (.of_chars rfl ?_)) ?_
  iterate 5 exact rfl
  simp
  omega

theorem plain_svg : PlainText "images/logo.svg" 15 :=
  .of_chars rfl rfl

theorem plain_proto : PlainText "__proto__" 9 :=
  .of_chars rfl rfl

theorem logoText_ascii : asciiText (asciiBytes (logoText "images/logo.svg")) =
    logoText "images/logo.svg" :=
  (plain_logoText plain_svg).bytes

theorem protoText_ascii : asciiText (asciiBytes (logoText "__proto__")) =
    logoText "__proto__" :=
  (plain_logoText plain_proto).bytes

theorem isJson_logoManifest (path : String)
    (hascii : asciiText (asciiBytes (logoText path)) = logoText path) :
    IsJson (logoWorld path hascii) (logoManifest path) :=
  ⟨logoText path, if_pos rfl⟩

theorem withinLimits_of {record : ZipRecord} (hrecord : packBundle w bundle = .ok record)
    (hcount : record.entries.length ≤ maxEntries)
    (hsize : expandedSize record.entries ≤ maxExpandedSize)
    (harchive : w.byteLength (w.zipSync record.entries) ≤ maxArchiveSize) :
    WithinLimits w bundle := by
  refine ⟨fun record' h => ?_, fun record' h => ?_, fun archive h => ?_⟩
  · rwa [← Except.ok.inj (hrecord.symm.trans h)]
  · rwa [← Except.ok.inj (hrecord.symm.trans h)]
  · obtain ⟨record', hrecord', h⟩ := bind_eq_ok.mp h
    obtain rfl := Except.ok.inj (hrecord.symm.trans hrecord')
    rwa [← Except.ok.inj h]

def assetRecord (entry : String × Bytes) (path : String) : ZipRecord :=
  ZipRecord.set { own := [entry] } (path, [])

theorem assetRecord_bounds (entry : String × Bytes) (path : String) :
    (assetRecord entry path).entries.length ≤ 2 ∧
      expandedSize (assetRecord entry path).entries ≤ entry.2.length := by
  by_cases hproto : path = "__proto__"
  · simp [assetRecord, ZipRecord.set, ZipRecord.entries, expandedSize, hproto]
  · by_cases hname : entry.1 = path
    · simp [assetRecord, ZipRecord.set, ZipRecord.entries, expandedSize, hproto, hname]
    · simp [assetRecord, ZipRecord.set, ZipRecord.entries, expandedSize, hproto, hname]

theorem withinLimits_asset {entry : String × Bytes} {path : String}
    (hrecord : packBundle w bundle = .ok (assetRecord entry path))
    (hzip : ∀ entries, w.byteLength (w.zipSync entries) = expandedSize entries)
    (hshort : entry.2.length ≤ 1000) : WithinLimits w bundle := by
  obtain ⟨hcount, hexpanded⟩ := assetRecord_bounds entry path
  refine withinLimits_of hrecord (Nat.le_trans hcount (by decide)) ?_ ?_
  · rw [maxExpandedSize]
    omega
  · rw [hzip, maxArchiveSize]
    omega

theorem logoEntry_short {path : String} {n : Nat} (hpath : PlainText path n) (hn : n ≤ 760)
    {hascii : asciiText (asciiBytes (logoText path)) = logoText path} (manifest : Json) :
    ((logoWorld path hascii).strToU8
      ((logoWorld path hascii).stringifyIndented manifest)).length ≤ 1000 := by
  change (asciiBytes (logoText path)).length ≤ 1000
  rw [asciiBytes, List.length_map]
  exact Nat.le_trans (plain_logoText hpath).length (by omega)

theorem withinLimits_logo {path : String} {n : Nat} (hpath : PlainText path n) (hn : n ≤ 760)
    {hascii : asciiText (asciiBytes (logoText path)) = logoText path}
    (hrecord : packBundle (logoWorld path hascii) bundle = .ok (assetRecord ("manifest.json",
      (logoWorld path hascii).strToU8 ((logoWorld path hascii).stringifyIndented bundle.manifest))
      path)) :
    WithinLimits (logoWorld path hascii) bundle :=
  withinLimits_asset hrecord (fun _ => rfl) (logoEntry_short hpath hn _)

abbrev svgWorld : CodecWorld := logoWorld "images/logo.svg" logoText_ascii

abbrev protoWorld : CodecWorld := logoWorld "__proto__" protoText_ascii

end ConfigFormat

/-- A logo with the content type of the manifest. -/
theorem bundles_round_trip_logo :
    RoundTrips svgWorld (logoBundle "images/logo.svg" "image/svg+xml") := by
  have hlimits : WithinLimits svgWorld (logoBundle "images/logo.svg" "image/svg+xml") :=
    withinLimits_logo plain_svg (by decide) rfl
  refine (bundles_round_trip _ _ rfl hlimits (isJson_logoManifest _ logoText_ascii)
    fun _ hfile => (List.not_mem_nil hfile).elim).mpr ⟨?_, ?_⟩
  · intro entry hentry
    obtain rfl := List.mem_singleton.mp hentry
    decide
  · intro asset hasset entry hentry _
    obtain rfl := List.mem_singleton.mp hasset
    obtain rfl := List.mem_singleton.mp hentry
    rfl

/-- **A logo with another content type** than the manifest's, and **one at `__proto__`**, are
accepted and do not round-trip. -/
theorem not_bundles_round_trip :
    (assertConfigBundle svgWorld (logoBundle "images/logo.svg" "image/png") = .ok () ∧
      WithinLimits svgWorld (logoBundle "images/logo.svg" "image/png") ∧
      ¬RoundTrips svgWorld (logoBundle "images/logo.svg" "image/png")) ∧
    assertConfigBundle protoWorld (logoBundle "__proto__" "image/svg+xml") = .ok () ∧
      WithinLimits protoWorld (logoBundle "__proto__" "image/svg+xml") ∧
      ¬RoundTrips protoWorld (logoBundle "__proto__" "image/svg+xml") := by
  refine ⟨⟨rfl, ?_, fun h => ?_⟩, rfl, ?_, fun h => ?_⟩
  · exact withinLimits_logo plain_svg (by decide) rfl
  · have htypes := (regular_of_roundTrips rfl h).contentTypes _ List.mem_cons_self _
      List.mem_cons_self rfl
    have hnames : "image/svg+xml" = "image/png" := Json.str.inj (Option.some.inj htypes)
    exact absurd hnames (by decide)
  · exact withinLimits_logo plain_proto (by decide) rfl
  · exact (regular_of_roundTrips rfl h).paths _ List.mem_cons_self rfl

end Eudiplo
