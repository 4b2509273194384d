import Eudiplo.Concurrency.Order
import Eudiplo.Concurrency.RelyGuarantee
import Eudiplo.Presentation.Configurations

/-!
# Does the certificate refresh undo configuration changes?

The background refresh reads a configuration, asks the registrar, and then saves the whole row
it read.  A change in between is overwritten, and a configuration deleted in between comes
back: `not_refresh_harmless` is an update that the refresh scheduled by the creation undoes.

`refresh_harmless` holds for every run in which a refresh, and a request that caches its
certificate, still find the fields they read, and an update finds its row.
-/

namespace Eudiplo

open Concurrency Prog Discipline Storage

/-! ## The claim -/

abbrev CertificateState := Global CertificateCall.Result CertificateStore ConfigRequest

abbrev CertificateEvent := Event CertificateCall.Result

abbrev CertificateSchedule := List (Move Nat ConfigRequest)

/-- **What the clients committed** under a key: the creations, updates and deletions of the
history, newest first, without the refreshes. -/
def committed (k : ConfigKey) : List CertificateEvent → Option ConfigFields
  | [] => none
  | ⟨_, .configs (.save .refresh ..), _⟩ :: older => committed k older
  | ⟨_, .configs (.save _ key changes _), _⟩ :: older =>
    if key = k then some (((committed k older).getD ConfigFields.defaults).with changes)
    else committed k older
  | ⟨_, .configs (.delete key), _⟩ :: older => if key = k then none else committed k older
  | _ :: older => committed k older

def deleted (k : ConfigKey) : List CertificateEvent → Bool
  | [] => false
  | ⟨_, .configs (.save .store key _ _), _⟩ :: older => if key = k then false else deleted k older
  | ⟨_, .configs (.delete key), _⟩ :: older => if key = k then true else deleted k older
  | _ :: older => deleted k older

/-- The certificate was resolved for this query and specification. -/
def IssuedFor (w : CertificateWorld) (g : CertificateState) (tenantId : String)
    (jwt : String) (dcql spec : Json) : Prop :=
  ∃ t query access resolved, resolved.jwt = jwt ∧
    (query = w.resolveTenantUrl tenantId dcql ∨ query = w.requestQuery tenantId dcql) ∧
    g.Made t (.resolve spec query tenantId access) (.ok resolved)

/-- Thread `t` read this row. -/
def ReadsConfig (g : CertificateState) (t : Nat) (row : PresentationConfigEntity) : Prop :=
  g.Made t (.configs (.findOneBy row.key)) (some row)

/-- **The refresh is harmless** in a run from an empty table: a stored configuration holds what
was committed, a deleted one is gone, and a certificate is served only for the query and the
specification it was issued for. -/
structure RefreshHarmless (w : CertificateWorld) (clock : Time) (ms : CertificateSchedule) :
    Prop where
  fields : ∀ k, (((presentationConfigs w).run (.start ⟨clock, .empty, 0⟩) ms).store.configs.get
    k).map (·.fields) =
      committed k ((presentationConfigs w).run (.start ⟨clock, .empty, 0⟩) ms).trace
  deleted : ∀ k, deleted k ((presentationConfigs w).run (.start ⟨clock, .empty, 0⟩) ms).trace =
    true → ((presentationConfigs w).run (.start ⟨clock, .empty, 0⟩) ms).store.configs.get k = none
  served : ∀ t key jwt, ((presentationConfigs w).run (.start ⟨clock, .empty, 0⟩) ms).Answers t
    (.certificate key) (.certificate (some jwt)) → ∃ row,
      ReadsConfig ((presentationConfigs w).run (.start ⟨clock, .empty, 0⟩) ms).global t row ∧
      row.key = key ∧
      IssuedFor w ((presentationConfigs w).run (.start ⟨clock, .empty, 0⟩) ms).global row.tenantId
        jwt (row.fields .dcql_query) (row.fields .registration_cert)

/-- **The condition**: a refresh that saves still finds the fields it read, an update still finds
its row, and who caches a certificate finds no other query or specification with the
fingerprints of the ones it read. -/
def FindsUnchanged (w : CertificateWorld) (g : CertificateState) (tid : Nat) :
    CertificateCall → Prop
  | .configs (.save .refresh key _ _) => ∀ row, ReadsConfig g tid row → row.key = key →
    ∃ stored, g.store.configs.get key = some stored ∧ stored.fields = row.fields
  | .configs (.updateCache key _) => ∀ row, ReadsConfig g tid row → row.key = key →
    ∀ stored, g.store.configs.get key = some stored →
      w.computeDcqlFingerprint (stored.fields .dcql_query) =
        w.computeDcqlFingerprint (row.fields .dcql_query) →
      w.computeSpecFingerprint (stored.fields .registration_cert) =
        w.computeSpecFingerprint (row.fields .registration_cert) →
      stored.fields .dcql_query = row.fields .dcql_query ∧
        stored.fields .registration_cert = row.fields .registration_cert
  | .configs (.save .update key _ _) => (g.store.configs.get key).isSome = true
  | _ => True

namespace CertificateRefresh

variable {w : CertificateWorld} {g g' : CertificateState} {tid t : Nat} {op : CertificateCall}

/-! ## The invariant -/

theorem IssuedFor.extends {tenantId jwt : String} {dcql spec : Json}
    (h : IssuedFor w g tenantId jwt dcql spec) (hext : g.Extends g') :
    IssuedFor w g' tenantId jwt dcql spec := by
  obtain ⟨t, query, access, resolved, hjwt, hquery, hmade⟩ := h
  exact ⟨t, query, access, resolved, hjwt, hquery, hmade.extends hext⟩

def Fingerprints (w : CertificateWorld) (fields : ConfigFields) (c : RegistrationCertCache) :
    Prop :=
  c.dcqlFingerprint = w.computeDcqlFingerprint (fields .dcql_query) ∧
    c.specFingerprint = w.computeSpecFingerprint (fields .registration_cert)

def CacheFits (w : CertificateWorld) (g : CertificateState) (row : PresentationConfigEntity) :
    Prop :=
  ∀ c, row.registrationCertCache = some c → Fingerprints w row.fields c →
    IssuedFor w g row.tenantId c.jwt (row.fields .dcql_query) (row.fields .registration_cert)

theorem CacheFits.extends {row : PresentationConfigEntity} (h : CacheFits w g row)
    (hext : g.Extends g') : CacheFits w g' row :=
    fun c hc hfp => IssuedFor.extends (h c hc hfp) hext

/-- **The invariant** between any two calls. -/
structure RefreshInv (w : CertificateWorld) (g : CertificateState) : Prop where
  fields : ∀ k, (g.store.configs.get k).map (·.fields) = committed k g.trace
  deleted : ∀ k, deleted k g.trace = true → g.store.configs.get k = none
  stored : ∀ k row, g.store.configs.get k = some row → CacheFits w g row
  read : ∀ t row, ReadsConfig g t row → CacheFits w g row

/-- **What a thread may save**: a creation without a certificate; a refresh, the row it read
with a certificate for it; an update, a certificate for the query and specification it saves;
and a request, a certificate for the row it read. -/
def RefreshMay (w : CertificateWorld) (g : CertificateState) (tid : Nat) : CertificateCall → Prop
  | .configs (.save .store _ _ cache) => cache = none
  | .configs (.save .update key changes cache) => ∃ fields : ConfigFields, changes = fields.all ∧
    ∀ c, cache = some c → Fingerprints w fields c →
      IssuedFor w g key.2 c.jwt (fields .dcql_query) (fields .registration_cert)
  | .configs (.save .refresh key changes cache) => ∃ row, ReadsConfig g tid row ∧ row.key = key ∧
    changes = row.fields.all ∧ ∀ c, cache = some c → Fingerprints w row.fields c →
      IssuedFor w g key.2 c.jwt (row.fields .dcql_query) (row.fields .registration_cert)
  | .configs (.updateCache key c) => ∃ row, ReadsConfig g tid row ∧ row.key = key ∧
    Fingerprints w row.fields c ∧
    IssuedFor w g key.2 c.jwt (row.fields .dcql_query) (row.fields .registration_cert)
  | _ => True

/-! ## One call -/

theorem get_save (s : CertificateStore) (kind : ConfigSave) (key k : ConfigKey)
    (changes : ConfigChanges) (cache : Option RegistrationCertCache) :
    (CertificateCall.answer w (.configs (.save kind key changes cache)) s).2.configs.get k =
      if key = k then some ((s.configs.get k).elim (insertedConfig key changes cache)
        fun r => { r with fields := r.fields.with changes, registrationCertCache := cache })
      else s.configs.get k :=
  Table.get_upsert s.configs (insertedConfig key changes cache)
    (fun r => { r with fields := r.fields.with changes, registrationCertCache := cache })
    (fun _ => rfl) k

theorem get_updateCache (s : CertificateStore) (key k : ConfigKey) (c : RegistrationCertCache) :
    (CertificateCall.answer w (.configs (.updateCache key c)) s).2.configs.get k =
      (s.configs.get k).map fun r =>
        if r.key == key then { r with registrationCertCache := some c } else r :=
  Table.get_updateWhere s.configs (·.key == key)
    (fun r => { r with registrationCertCache := some c }) (fun _ => rfl) k

theorem get_delete (s : CertificateStore) (key k : ConfigKey) :
    (CertificateCall.answer w (.configs (.delete key)) s).2.configs.get k =
      if key = k then none else s.configs.get k := by
  refine (Table.get_deleteWhere s.configs _ k).trans ?_
  cases hrow : s.configs.get k with
  | none => simp
  | some row =>
    have hk := Table.get_key hrow
    by_cases h : key = k
    · simp [h, hk]
    · have hne : row.key ≠ key := fun he => h (he.symm.trans hk)
      simp [h, hne]

theorem fields_save (s : CertificateStore) (kind : ConfigSave) (key : ConfigKey)
    (changes : ConfigChanges) (cache : Option RegistrationCertCache) :
    ((CertificateCall.answer w (.configs (.save kind key changes cache)) s).2.configs.get
      key).map (·.fields) =
      some ((((s.configs.get key).map (·.fields)).getD ConfigFields.defaults).with changes) := by
  rw [get_save, if_pos rfl]
  cases s.configs.get key <;> rfl

/-- **What is stored is what was committed**, after every call. -/
theorem fields_after (hinv : RefreshInv w g) (hmay : RefreshMay w g tid op)
    (hadm : FindsUnchanged w g tid op) (k : ConfigKey) :
    (((presentationConfigs w).after g tid op).store.configs.get k).map (·.fields) =
      committed k ((presentationConfigs w).after g tid op).trace := by
  have hold := hinv.fields k
  cases op with
  | configs c =>
    cases c with
    | findOneBy key => exact hold
    | updateCache key c =>
      refine Eq.trans ?_ hold
      have hget := get_updateCache (w := w) g.store key k c
      refine (congrArg (Option.map (·.fields)) hget).trans ?_
      rw [Option.map_map]
      congr 1
      funext r
      simp only [Function.comp_apply]
      split <;> rfl
    | delete key =>
      have hget := get_delete (w := w) g.store key k
      refine (congrArg (Option.map (·.fields)) hget).trans ?_
      show _ = if key = k then none else committed k g.trace
      split
      · rfl
      · exact hold
    | save kind key changes cache =>
      have hget := get_save (w := w) g.store kind key k changes cache
      by_cases hk : key = k
      · subst hk
        refine (fields_save (w := w) g.store kind key changes cache).trans ?_
        cases kind with
        | store =>
          show _ = if key = key then some _ else _
          rw [if_pos rfl, hold]
        | update =>
          show _ = if key = key then some _ else _
          rw [if_pos rfl, hold]
        | refresh =>
          -- the refresh writes back the fields it finds
          obtain ⟨row, hread, hkey, rfl, -⟩ := hmay
          obtain ⟨stored, hstored, hsame⟩ := hadm row hread hkey
          show _ = committed key g.trace
          rw [← hold, hstored, Option.map_some, with_all, hsame]
      · refine (congrArg (Option.map (·.fields)) hget).trans ?_
        rw [if_neg hk]
        refine hold.trans ?_
        cases kind with
        | store => exact (if_neg hk).symm
        | update => exact (if_neg hk).symm
        | refresh => rfl
  | _ => exact hold

/-- **A deleted configuration stays deleted**, after every call. -/
theorem deleted_after (hinv : RefreshInv w g) (hmay : RefreshMay w g tid op)
    (hadm : FindsUnchanged w g tid op) (k : ConfigKey)
    (h : deleted k ((presentationConfigs w).after g tid op).trace = true) :
    ((presentationConfigs w).after g tid op).store.configs.get k = none := by
  cases op with
  | configs c =>
    cases c with
    | findOneBy key => exact hinv.deleted k h
    | updateCache key c =>
      have hnone := hinv.deleted k h
      exact (get_updateCache (w := w) g.store key k c).trans (by rw [hnone]; rfl)
    | delete key =>
      refine (get_delete (w := w) g.store key k).trans ?_
      have h : (if key = k then true else deleted k g.trace) = true := h
      split at h
      · rename_i hk
        exact if_pos hk
      · rename_i hk
        rw [if_neg hk]
        exact hinv.deleted k h
    | save kind key changes cache =>
      refine (get_save (w := w) g.store kind key k changes cache).trans ?_
      cases kind with
      | store =>
        have h : (if key = k then false else deleted k g.trace) = true := h
        split at h
        · cases h
        · rename_i hk
          rw [if_neg hk]
          exact hinv.deleted k h
      | update =>
        -- an update finds its row first, so it is of another key
        have hnone := hinv.deleted k h
        have hsome : (g.store.configs.get key).isSome = true := hadm
        rw [if_neg, hnone]
        rintro rfl
        rw [hnone] at hsome
        cases hsome
      | refresh =>
        have hnone := hinv.deleted k h
        obtain ⟨row, hread, hkey, -⟩ := hmay
        obtain ⟨stored, hstored, -⟩ := hadm row hread hkey
        rw [if_neg, hnone]
        rintro rfl
        rw [hnone] at hstored
        cases hstored
  | _ => exact hinv.deleted k h

theorem key_eq {key : ConfigKey} {row : PresentationConfigEntity}
    (h : g.store.configs.get key = some row) : row.tenantId = key.2 :=
  congrArg Prod.snd (Table.get_key h)

/-- **A cached certificate is for its row**, after every call. -/
theorem stored_after (hinv : RefreshInv w g) (hmay : RefreshMay w g tid op)
    (hadm : FindsUnchanged w g tid op) {k : ConfigKey} {row : PresentationConfigEntity}
    (h : ((presentationConfigs w).after g tid op).store.configs.get k = some row) :
    CacheFits w ((presentationConfigs w).after g tid op) row := by
  have hext := System.extends_after (M := presentationConfigs w) g tid op
  have hkeep {row : PresentationConfigEntity} (hrow : g.store.configs.get k = some row) :
      CacheFits w ((presentationConfigs w).after g tid op) row :=
    (hinv.stored k row hrow).extends hext
  cases op with
  | configs c =>
    cases c with
    | findOneBy key => exact hkeep h
    | delete key =>
      have hget := (get_delete (w := w) g.store key k).symm.trans h
      split at hget
      · cases hget
      · exact hkeep hget
    | updateCache key c =>
      have hget := (get_updateCache (w := w) g.store key k c).symm.trans h
      obtain ⟨stored, hstored, rfl⟩ := Option.map_eq_some_iff.mp hget
      split
      · rename_i hk
        have hk : stored.key = key := by simpa using hk
        obtain ⟨read, hread, hkey, hfp, hissued⟩ := hmay
        have hstored' : g.store.configs.get key = some stored := by
          rw [← hk, Table.get_key hstored]
          exact hstored
        rintro c' hc' ⟨hdcql, hspec⟩
        cases hc'
        obtain ⟨hdcql, hspec⟩ := hadm read hread hkey stored hstored' (hdcql.symm.trans hfp.1)
          (hspec.symm.trans hfp.2)
        refine IssuedFor.extends ?_ hext
        show IssuedFor w g stored.tenantId c.jwt (stored.fields _) (stored.fields _)
        rw [hdcql, hspec, key_eq hstored']
        exact hissued
      · exact hkeep hstored
    | save kind key changes cache =>
      have hget := (get_save (w := w) g.store kind key k changes cache).symm.trans h
      split at hget
      · rename_i hk
        subst hk
        cases hget
        -- the saved certificate is for the saved columns, whatever row they land in
        have hnew (fields : ConfigFields) (hchanges : changes = fields.all)
            (hissued : ∀ c, cache = some c → Fingerprints w fields c →
              IssuedFor w g key.2 c.jwt (fields .dcql_query) (fields .registration_cert)) :
            CacheFits w ((presentationConfigs w).after g tid (.configs (.save kind key changes
              cache))) ((g.store.configs.get key).elim (insertedConfig key changes cache)
              fun r => { r with fields := r.fields.with changes, registrationCertCache := cache })
              := by
          subst hchanges
          cases hrow : g.store.configs.get key with
          | none => exact fun c hc hfp => IssuedFor.extends (hissued c hc hfp) hext
          | some r =>
            intro c hc hfp
            refine IssuedFor.extends ?_ hext
            show IssuedFor w g r.tenantId c.jwt _ _
            rw [key_eq hrow]
            exact hissued c hc hfp
        cases kind with
        | store =>
          obtain rfl : cache = none := hmay
          cases g.store.configs.get key with
          | none =>
            intro c hc
            cases hc
          | some r =>
            intro c hc
            cases hc
        | update =>
          obtain ⟨fields, hchanges, hissued⟩ := hmay
          exact hnew fields hchanges hissued
        | refresh =>
          obtain ⟨read, -, -, hchanges, hissued⟩ := hmay
          exact hnew read.fields hchanges hissued
      · exact hkeep hget
  | _ => exact hkeep h

/-- **One call keeps the invariant.** -/
theorem inv_after (hinv : RefreshInv w g) (hmay : RefreshMay w g tid op)
    (hadm : FindsUnchanged w g tid op) : RefreshInv w ((presentationConfigs w).after g tid op) where
  fields := fields_after hinv hmay hadm
  deleted := deleted_after hinv hmay hadm
  stored _ _ h := stored_after hinv hmay hadm h
  read t row h := by
    have hext := System.extends_after (M := presentationConfigs w) g tid op
    rcases List.mem_cons.mp h with heq | hold
    · injection heq with _ hop hres
      subst hop
      exact (hinv.stored row.key row (eq_of_heq hres).symm).extends hext
    · exact (hinv.read t row hold).extends hext

/-! ## The discipline -/

def ServedFor (w : CertificateWorld) (g : CertificateState) (t : Nat) (key : ConfigKey)
    (jwt : String) : Prop :=
  ∃ row, ReadsConfig g t row ∧ row.key = key ∧
    IssuedFor w g row.tenantId jwt (row.fields .dcql_query) (row.fields .registration_cert)

def RefreshPost (w : CertificateWorld) (t : Nat) : ConfigRequest → CertificateState →
    ConfigAnswer → Prop
  | .certificate key, g, .certificate (some jwt) => ServedFor w g t key jwt
  | _, _, _ => True

/-- **The discipline of the configurations.** -/
def refreshes (w : CertificateWorld) : Discipline (presentationConfigs w) where
  inv := RefreshInv w
  rely _ _ _ := True
  admits := FindsUnchanged w
  may := RefreshMay w
  allowed _ := True
  post := RefreshPost w
  rely_refl _ _ := trivial
  rely_trans _ _ := trivial
  step hinv _ hadm hmay := ⟨inv_after hinv hmay hadm, fun _ _ => trivial⟩
  arrive hinv _ :=
    ⟨⟨hinv.fields, hinv.deleted, hinv.stored, hinv.read⟩, fun _ _ => trivial⟩
  pass _ hinv := ⟨⟨hinv.fields, hinv.deleted, hinv.stored, hinv.read⟩, fun _ => trivial⟩

variable {r : ConfigRequest}

theorem safe_invoke
    (hmay : ∀ g', g.Extends g' → RefreshMay w g' tid op) :
    (refreshes w).Safe tid (fun g' a => g'.Made tid op a)
      (invoke op : ConfigProg op.Result) g := by
  refine Safe.invoke fun g' hl _ => ⟨hmay g' hl.hist, fun g'' hl' => ?_⟩
  exact (System.after_made g' tid op).extends hl'.hist

theorem reads_of_made {key : ConfigKey} {row : PresentationConfigEntity}
    (h : g.Made tid (.configs (.findOneBy key)) (some row)) (hkey : row.key = key) :
    ReadsConfig g tid row := by
  subst hkey
  exact h

theorem valid_fingerprints {fields : ConfigFields} {c : RegistrationCertCache} {now : Nat}
    (h : isCacheValid (some c) (w.computeDcqlFingerprint (fields .dcql_query))
      (w.computeSpecFingerprint (fields .registration_cert)) now = true) :
    Fingerprints w fields c := by
  simp only [isCacheValid, Option.any_some, Bool.and_eq_true, beq_iff_eq] at h
  exact h.1

theorem find_safe (key : ConfigKey) :
    (refreshes w).Safe tid (fun g' found => ∀ row, found = some row →
      row.key = key ∧ ReadsConfig g' tid row) (configs (.findOneBy key)) g := by
  refine Safe.invoke fun g' _ _ => ⟨trivial, fun g'' hl' row hrow => ?_⟩
  have hkey := Table.get_key (t := g'.store.configs) (k := key) hrow
  refine ⟨hkey, reads_of_made ?_ hkey⟩
  have hmade := (System.after_made (M := presentationConfigs w) g' tid
    (.configs (.findOneBy key))).extends hl'.hist
  exact hrow ▸ hmade

theorem getPresentationConfig_safe (hg : (refreshes w).At tid r g) (key : ConfigKey) :
    (refreshes w).Safe tid (fun g' row => row.key = key ∧ ReadsConfig g' tid row)
      (getPresentationConfig key) g := by
  refine (find_safe key).bind hg fun found g' hext hg' hfound => ?_
  refine Safe.require fun row hrow g'' hl => ?_
  obtain ⟨hkey, hread⟩ := hfound row hrow
  exact ⟨hkey, hread.extends hl.hist⟩

theorem tenant_of_key {row : PresentationConfigEntity} {key : ConfigKey} (h : row.key = key) :
    row.tenantId = key.2 := congrArg Prod.snd h

theorem update_safe (hg : (refreshes w).At tid r g) (key : ConfigKey) (body : ConfigChanges) :
    (refreshes w).Safe tid (fun _ _ => True) (updatePresentationConfig key body) g := by
  refine (getPresentationConfig_safe hg key).bind hg fun existing g' _ hg' hread => ?_
  obtain ⟨hkey, hread⟩ := hread
  refine Safe.imp hg' (safe_invoke fun g'' hext => ?_) fun _ _ _ _ _ => trivial
  refine ⟨existing.fields.with body, rfl, fun c hc => ?_⟩
  unfold mergedCache at hc
  split at hc
  · cases hc
  · split at hc
    · cases hc
    · -- nothing the certificate was issued for has changed
      rename_i hrelevant
      simp only [cacheRelevantChanged, Bool.or_eq_true, not_or, Bool.not_eq_true,
        Option.isSome_eq_false_iff, Option.isNone_iff_eq_none] at hrelevant
      have hfits := (hg'.inv.read tid existing hread).extends hext c hc
      rw [tenant_of_key hkey] at hfits
      simpa [ConfigFields.with, Fingerprints, hrelevant.1, hrelevant.2] using hfits

theorem resolveForCache_safe (hg : (refreshes w).At tid r g) (row : PresentationConfigEntity) :
    (refreshes w).Safe tid (fun g' cache => ∀ c, cache = some c → IssuedFor w g' row.tenantId
      c.jwt (row.fields .dcql_query) (row.fields .registration_cert))
      (resolveForCache w row) g := by
  refine (safe_invoke (by intros; trivial)).bind hg fun answer g' _ _ hmade => ?_
  rcases answer with (message | message | message) | resolved
  · exact fun _ _ _ hc => nomatch hc
  · trivial
  · exact fun _ _ _ hc => nomatch hc
  · rintro g'' hl c hc
    cases hc
    exact ⟨tid, _, _, resolved, rfl, .inl rfl, hmade.extends hl.hist⟩

theorem refreshCache_safe (hg : (refreshes w).At tid r g) {row : PresentationConfigEntity}
    (hread : ReadsConfig g tid row) :
    (refreshes w).Safe tid (fun g' cache => ∀ c, cache = some c → IssuedFor w g' row.tenantId
      c.jwt (row.fields .dcql_query) (row.fields .registration_cert)) (refreshCache w row) g := by
  refine (safe_invoke (by intros; trivial)).bind hg fun time g' hext hg' _ => ?_
  show (refreshes w).Safe tid _ (if _ then _ else _ : ConfigProg _) g'
  split
  · rename_i hvalid
    intro g'' hl c hc
    rw [hc] at hvalid
    exact (hg.inv.read tid row hread).extends (hext.trans hl.hist) c hc (valid_fingerprints hvalid)
  · exact resolveForCache_safe hg' row

theorem refreshAsync_safe (hg : (refreshes w).At tid r g) (key : ConfigKey) :
    (refreshes w).Safe tid (fun _ _ => True) (refreshAsync w key) g := by
  refine (find_safe key).bind hg fun found g' _ hg' hfound => ?_
  cases found with
  | none => exact fun _ _ => trivial
  | some latest =>
    obtain ⟨hkey, hread⟩ := hfound latest rfl
    show (refreshes w).Safe tid _ (onlyIf _ () _) g'
    unfold onlyIf
    split
    · refine (refreshCache_safe hg' hread).bind hg' fun cache g'' hext hg'' hissued => ?_
      refine Safe.imp hg'' (safe_invoke fun g₃ hext' => ?_) fun _ _ _ _ _ => trivial
      refine ⟨latest, (hread.extends hext).extends hext', hkey, rfl, fun c hc _ => ?_⟩
      rw [← tenant_of_key hkey]
      exact IssuedFor.extends (hissued c hc) hext'
    · exact fun _ _ => trivial

theorem cachedOrIssued_safe (hg : (refreshes w).At tid r g) {key : ConfigKey}
    {config : PresentationConfigEntity} (hkey : config.key = key)
    (hread : ReadsConfig g tid config) :
    (refreshes w).Safe tid (fun g' jwt => ∀ j, jwt = some j → ServedFor w g' tid key j)
      (cachedOrIssued w key config) g := by
  refine (safe_invoke (by intros; trivial)).bind hg fun time g₁ hext₁ hg₁ _ => ?_
  show (refreshes w).Safe tid _ (if _ then _ else _ : ConfigProg _) g₁
  split
  · rename_i hvalid
    intro g₂ hl j hj
    obtain ⟨c, hc, rfl⟩ := Option.map_eq_some_iff.mp hj
    rw [hc] at hvalid
    have hext := hext₁.trans hl.hist
    exact ⟨config, hread.extends hext, hkey,
      (hg.inv.read tid config hread).extends hext c hc (valid_fingerprints hvalid)⟩
  · refine (safe_invoke (by intros; trivial)).bind hg₁ fun answer g₂ hext₂ hg₂ hmade => ?_
    refine Safe.ofExcept fun resolved hok => ?_
    subst hok
    have hread₂ := (hread.extends hext₁).extends hext₂
    have hissued : IssuedFor w g₂ config.tenantId resolved.jwt (config.fields .dcql_query)
        (config.fields .registration_cert) :=
      ⟨tid, _, _, resolved, rfl, .inr rfl, hmade⟩
    refine (safe_invoke fun g₃ hext₃ => ?_).bind hg₂ fun _ g₃ hext₃ _ _ => ?_
    · refine ⟨config, hread₂.extends hext₃, hkey, ⟨rfl, rfl⟩, ?_⟩
      rw [← tenant_of_key hkey]
      exact IssuedFor.extends hissued hext₃
    · rintro g₄ hl j hj
      cases hj
      have hext := hext₃.trans hl.hist
      exact ⟨config, hread₂.extends hext, hkey, IssuedFor.extends hissued hext⟩

theorem registrationCertificate_safe (hg : (refreshes w).At tid r g) (key : ConfigKey) :
    (refreshes w).Safe tid (fun g' jwt => ∀ j, jwt = some j → ServedFor w g' tid key j)
      (registrationCertificate w key) g := by
  refine (getPresentationConfig_safe hg key).bind hg fun config g₁ _ hg₁ hread => ?_
  obtain ⟨hkey, hread⟩ := hread
  unfold onlyIf
  split
  · refine (safe_invoke (by intros; trivial)).bind hg₁ fun enabled g₂ hext hg₂ _ => ?_
    split
    · exact cachedOrIssued_safe hg₂ hkey (hread.extends hext)
    · exact fun _ _ _ hj => nomatch hj
  · exact fun _ _ _ hj => nomatch hj

/-- **Every handler is safe.** -/
theorem refreshes_safe (w : CertificateWorld) : (refreshes w).Verified := by
  intro g r _ _ hg
  cases r with
  | store key body =>
    exact (safe_invoke (by intros; rfl)).bind hg fun _ _ _ _ _ => fun _ _ => trivial
  | update key body =>
    exact (update_safe hg key body).bind hg fun _ _ _ _ _ => fun _ _ => trivial
  | delete key =>
    refine Safe.bind hg (R := fun _ _ => True) ?_ fun _ _ _ _ _ => fun _ _ => trivial
    refine (getPresentationConfig_safe hg key).bind hg fun _ g' _ hg' _ => ?_
    exact Safe.imp hg' (safe_invoke (by intros; trivial)) fun _ _ _ _ _ => trivial
  | refresh key =>
    exact (refreshAsync_safe hg key).attempt.bind hg fun _ _ _ _ _ => fun _ _ => trivial
  | certificate key =>
    refine (registrationCertificate_safe hg key).bind hg fun jwt g' _ _ hserved => ?_
    intro g'' hl
    cases jwt with
    | none => trivial
    | some jwt =>
      obtain ⟨row, hread, hkey, hissued⟩ := hserved jwt rfl
      exact ⟨row, hread.extends hl.hist, hkey, IssuedFor.extends hissued hl.hist⟩

end CertificateRefresh

open CertificateRefresh

/-- **The background refresh undoes no configuration change** in every run in which those who
write a certificate back find the fields they read, and updates find their row. -/
theorem refresh_harmless (w : CertificateWorld) (clock : Time) (ms : CertificateSchedule)
    (hunchanged : (presentationConfigs w).Guarded (FindsUnchanged w)
      (.start ⟨clock, .empty, 0⟩) ms) :
    RefreshHarmless w clock ms := by
  have hstart : RefreshInv w ⟨⟨clock, .empty, 0⟩, [], []⟩ := {
    fields := fun _ => rfl
    deleted := fun _ _ => rfl
    stored := fun _ _ h => nomatch h
    read := fun _ _ h => (List.not_mem_nil h).elim }
  have hholds := Discipline.run_holds (refreshes_safe w)
    (Discipline.holds_start (D := refreshes w) hstart) (fun _ _ => trivial) hunchanged
  refine ⟨hholds.inv.fields, hholds.inv.deleted, fun t key jwt hans => ?_⟩
  exact hholds.answer hans

namespace CertificateRefresh

def world : CertificateWorld where
  computeDcqlFingerprint _ := "dcql"
  computeSpecFingerprint _ := "spec"
  resolveTenantUrl _ dcql := dcql
  requestQuery _ dcql := dcql
  isEnabled _ _ := true
  resolve n _ _ := .ok ⟨String.ofList (List.replicate (n + 1) 'c'), none⟩

def key : ConfigKey := ("age", "tenant")

def body : ConfigChanges
  | .description => some (.str "first")
  | .dcql_query => some (.str "query")
  | .registration_cert => some (.str "cert")
  | _ => none

def newDescription : ConfigChanges
  | .description => some (.str "second")
  | _ => none

/-- A request arrives as thread `t` and takes `n` calls. -/
def serve (t : Nat) (r : ConfigRequest) (n : Nat) : CertificateSchedule :=
  .arrive r :: List.replicate n (.resume t)

def inOrder : CertificateSchedule :=
  serve 0 (.store key body) 1 ++ serve 1 (.refresh key) 4 ++
  serve 2 (.update key newDescription) 2 ++
    serve 3 (.certificate key) 3

/-- A creation whose refresh has asked the registrar when the description changes. -/
def overwriting : CertificateSchedule :=
  serve 0 (.store key body) 1 ++ serve 1 (.refresh key) 3 ++
    serve 2 (.update key newDescription) 2 ++ [.resume 1]

def sameAtom : Json → Json → Bool
  | .null, .null => true
  | .bool a, .bool b => a == b
  | .num m e, .num m' e' => m == m' && e == e'
  | .str a, .str b => a == b
  | _, _ => false

theorem eq_of_sameAtom {a b : Json} (h : sameAtom a b = true) : a = b := by
  cases a <;> cases b <;> simp_all [sameAtom]

def columns : List ConfigColumn :=
  [.description, .lifeTime, .skewSeconds, .statusCheckMode, .dcql_query, .transaction_data,
    .registration_cert, .webhookEndpointId, .clientIdScheme, .attached, .redirectUri,
    .accessKeyChainId, .readerAuth]

def sameFields (fields old : ConfigFields) : Bool :=
  columns.all fun c => sameAtom (fields c) (old c)

theorem eq_of_sameFields {fields old : ConfigFields} (h : sameFields fields old = true) :
    fields = old := by
  funext c
  have hc : c ∈ columns := by cases c <;> decide
  exact eq_of_sameAtom (List.all_eq_true.mp h c hc)

/-- What thread `tid` read under the key is still stored. -/
def stillStored (g : CertificateState) (tid : Nat) (key : ConfigKey) : CertificateEvent → Bool
  | ⟨t, .configs (.findOneBy _), some row⟩ => t != tid || row.key != key ||
    (g.store.configs.get key).any fun stored => sameFields stored.fields row.fields
  | _ => true

theorem stored_of_stillStored {key : ConfigKey}
    (h : (g.trace.all fun e => stillStored g tid key e) = true) {row : PresentationConfigEntity}
    (hread : ReadsConfig g tid row) (hkey : row.key = key) :
    ∃ stored, g.store.configs.get key = some stored ∧ stored.fields = row.fields := by
  have hrow := List.all_eq_true.mp h _ hread
  simp only [stillStored, hkey, bne_self_eq_false, Bool.false_or, Option.any_eq_true] at hrow
  obtain ⟨stored, hstored, hsame⟩ := hrow
  exact ⟨stored, hstored, eq_of_sameFields hsame⟩

def findsUnchanged (g : CertificateState) (tid : Nat) : CertificateCall → Bool
  | .configs (.save .refresh key _ _) => g.trace.all fun e => stillStored g tid key e
  | .configs (.updateCache key _) => g.trace.all fun e => stillStored g tid key e
  | .configs (.save .update key _ _) => (g.store.configs.get key).isSome
  | _ => true

theorem findsUnchanged_sound (g : CertificateState) (tid : Nat) (op : CertificateCall)
    (h : findsUnchanged g tid op = true) : FindsUnchanged w g tid op := by
  match op, h with
  | .configs (.save .refresh _ _ _), h => exact fun row hread => stored_of_stillStored h hread
  | .configs (.updateCache _ _), h =>
    intro row hread hkey stored hstored _ _
    obtain ⟨stored', hstored', hfields⟩ := stored_of_stillStored h hread hkey
    obtain rfl : stored' = stored := Option.some.inj (hstored'.symm.trans hstored)
    exact ⟨congrFun hfields _, congrFun hfields _⟩
  | .configs (.save .update _ _ _), h => exact h
  | .configs (.save .store _ _ _), _ => trivial
  | .configs (.findOneBy _), _ => trivial
  | .configs (.delete _), _ => trivial
  | .now, _ => trivial
  | .isEnabledForTenant _, _ => trivial
  | .resolve .., _ => trivial

def description (fields : Option ConfigFields) : Option String :=
  fields.bind fun f => match f .description with
    | .str s => some s
    | _ => none

end CertificateRefresh

theorem refresh_harmless_inOrder : RefreshHarmless CertificateRefresh.world 0
    CertificateRefresh.inOrder :=
  refresh_harmless CertificateRefresh.world 0 CertificateRefresh.inOrder
    (System.guarded_of_checks CertificateRefresh.findsUnchanged_sound (by decide +kernel))

/-- **The claim fails**: the refresh that the creation scheduled writes the description of the
creation over the one of a later update. -/
theorem not_refresh_harmless : ¬RefreshHarmless CertificateRefresh.world 0
    CertificateRefresh.overwriting := by
  intro h
  have hfields := congrArg CertificateRefresh.description (h.fields CertificateRefresh.key)
  exact absurd hfields (by decide +kernel)

end Eudiplo
