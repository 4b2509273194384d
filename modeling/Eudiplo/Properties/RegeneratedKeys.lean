import Eudiplo.KeyChain.Regenerate

/-!
# What a failed regeneration leaves

Until the new material is saved under the id of the chain, the chain is as it was
(`keeps_createWithId`).  From then on its row and the temporary one name the same key: if an error
follows while the temporary row is still there, the compensation has the provider delete it.
-/

namespace Eudiplo

open Faults (Outcome Run)

namespace KeyChainRegenerate

variable {w : KeyWorld} {faults : Step → Outcome} {s t : KeyStore} {id : String}

/-- The chain has a key that exists, and the certificate of that key. -/
def Healthy (w : KeyWorld) (s : KeyStore) (id : String) : Prop :=
  ∃ row, s.rows id = some row ∧ signingKey w s row = some row.activeCertificate

/-! ## What creation leaves as it is -/

/-- The row of the chain is unchanged, and every key that was held is. -/
structure Kept (id : String) (s t : KeyStore) : Prop where
  row : t.rows id = s.rows id
  held : ∀ provider name key, s.held provider name = some key → t.held provider name = some key

theorem Kept.refl (s : KeyStore) : Kept id s s := ⟨rfl, fun _ _ _ h => h⟩

theorem Kept.trans {u : KeyStore} (h : Kept id s t) (h' : Kept id t u) : Kept id s u :=
  ⟨h'.row.trans h.row, fun provider name key hkey => h'.held _ _ _ (h.held provider name key hkey)⟩

theorem kept_addKey (s : KeyStore) (provider : String) (key : Jwk) :
    Kept id s (s.addKey provider key) := by
  refine ⟨rfl, fun provider' name k hk => ?_⟩
  unfold KeyStore.held KeyStore.addKey at *
  by_cases hprovider : provider' = provider
  · obtain ⟨entry, hentry, rfl⟩ := Option.map_eq_some_iff.mp hk
    simp only [if_pos hprovider, List.find?_append, hentry, Option.some_or, Option.map_some]
  · simpa only [if_neg hprovider] using hk

theorem kept_setRow (s : KeyStore) {other : String} (hother : id ≠ other)
    (row : Option KeyChainRow) : Kept id s (s.setRow other row) :=
  ⟨if_neg hother, fun _ _ _ h => h⟩

theorem Healthy.kept (h : Healthy w s id) (hkept : Kept id s t) : Healthy w t id := by
  obtain ⟨row, hrow, hkey⟩ := h
  refine ⟨row, hkept.row.trans hrow, ?_⟩
  obtain ⟨adapter, hadapter, hkey⟩ := Option.bind_eq_some_iff.mp hkey
  refine Option.bind_eq_some_iff.mpr ⟨adapter, hadapter, ?_⟩
  cases hstorage : adapter.storage with
  | db =>
    rw [hstorage] at hkey
    exact hkey
  | external canDelete =>
    rw [hstorage] at hkey
    exact hkept.held _ _ _ hkey

theorem keeps_generateKey (step : Step) (adapter : KmsAdapter) (key : Jwk) :
    Run.Keeps (Kept id) (generateKey faults step adapter key) := by
  refine Run.Keeps.call Kept.refl (fun s => ?_) _
  cases adapter.storage with
  | db => exact .refl s
  | external canDelete => exact kept_addKey s _ key

theorem keeps_certify (step : Step) (key : Jwk) :
    Run.Keeps (Kept id) (certify faults step key) :=
  Run.Keeps.call Kept.refl Kept.refl _

theorem keeps_bind {α β : Type} {x : Run KeyStore α} {f : α → Run KeyStore β}
    (hx : Run.Keeps (Kept id) x) (hf : ∀ a, Run.Keeps (Kept id) (f a)) :
    Run.Keeps (Kept id) (x >>= f) :=
  Run.Keeps.bind (R := Kept id) (fun h h' => Kept.trans h h') hx hf

theorem keeps_createStandaloneKey (adapter : KmsAdapter) :
    Run.Keeps (Kept id) (createStandaloneKey w faults adapter) :=
  keeps_bind (keeps_generateKey _ _ _) fun _ =>
    keeps_bind (keeps_certify _ _) fun _ => Run.Keeps.pure Kept.refl _

theorem keeps_createMaterial (dto : KeyChainCreateDto) (adapter : KmsAdapter) :
    Run.Keeps (Kept id) (createMaterial w faults dto adapter) := by
  unfold createMaterial
  split
  · exact keeps_bind (keeps_generateKey _ _ _) fun _ =>
      keeps_bind (keeps_certify _ _) fun _ =>
        keeps_bind (keeps_createStandaloneKey _) fun _ => Run.Keeps.pure Kept.refl _
  · exact keeps_createStandaloneKey _

/-- **Creation** under the temporary id leaves the chain as it is. -/
theorem keeps_createWithId (hid : id ≠ w.temporaryId) (dto : KeyChainCreateDto) :
    Run.Keeps (Kept id) (createWithId w faults dto) :=
  keeps_bind (Run.Keeps.call Kept.refl Kept.refl _) fun _ =>
    keeps_bind (Run.Keeps.orFail Kept.refl _) fun _ =>
      keeps_bind (keeps_createMaterial dto _) fun _ =>
        Run.Keeps.call Kept.refl (fun s => kept_setRow s hid _) _

/-! ## When creation succeeds -/

def creationSteps (dto : KeyChainCreateDto) : List Step :=
  [.findTenant] ++ (if dto.internalChain then [.generateRoot, .certifyRoot] else []) ++
    [.generateActive, .certifyActive, .saveTemporary]

/-- No call of the creation fails, and its provider is registered. -/
def Creates (w : KeyWorld) (faults : Step → Outcome) (dto : KeyChainCreateDto) : Prop :=
  (∀ step ∈ creationSteps dto, faults step = .done) ∧ (w.registry dto.kmsProvider).isSome

theorem call_some {α : Type} {outcome : Outcome} {effect : KeyStore → α × KeyStore} {a : α}
    (h : Run.call outcome effect s = (some a, t)) : outcome = .done ∧ effect s = (a, t) := by
  cases outcome with
  | done =>
    obtain ⟨hanswer, hstate⟩ := Prod.mk.inj h
    exact ⟨rfl, Prod.ext (Option.some.inj hanswer) hstate⟩
  | lost => cases congrArg Prod.fst h
  | refused => cases congrArg Prod.fst h

theorem bind_eq_some {α β : Type} {x : Run KeyStore α} {f : α → Run KeyStore β} {b : β}
    (h : (x >>= f) s = (some b, t)) : ∃ a u, x s = (some a, u) ∧ f a u = (some b, t) := by
  cases hx : x s with
  | mk answer u =>
    cases answer with
    | none =>
      rw [Run.bind_none hx] at h
      cases congrArg Prod.fst h
    | some a =>
      rw [Run.bind_some hx] at h
      exact ⟨a, u, rfl, h⟩

structure NewRow (w : KeyWorld) (adapter : KmsAdapter) (row : KeyChainRow) : Prop where
  provider : row.kmsProvider = adapter.providerId
  certificate : row.activeCertificate = w.activeKey.publicKey
  jwk : row.activeJwk = w.activeKey
  name : ∀ canDelete, adapter.storage = .external canDelete →
    row.externalKeyId = some w.activeKey.kid

theorem NewRow.keyName {adapter : KmsAdapter} {row : KeyChainRow} (h : NewRow w adapter row)
    {canDelete : Bool} (hstorage : adapter.storage = .external canDelete) :
    keyName row = w.activeKey.kid := by
  unfold KeyChainRegenerate.keyName
  rw [h.name canDelete hstorage]
  rfl

theorem call_done {α : Type} {outcome : Outcome} (h : outcome = .done)
    (effect : KeyStore → α × KeyStore) :
    Run.call outcome effect s = (some (effect s).1, (effect s).2) := by
  rw [h]
  rfl

theorem orFail_some {α : Type} {o : KeyStore → Option α} {a : α}
    (h : Run.orFail o s = (some a, t)) : o s = some a ∧ s = t := Prod.mk.inj h

theorem orFail_done {α : Type} {o : KeyStore → Option α} {a : α} (h : o s = some a) :
    Run.orFail o s = (some a, s) := Prod.ext h rfl

theorem generateKey_some {step : Step} {adapter : KmsAdapter} {key : Jwk}
    {mat : Jwk × Option String} (h : generateKey faults step adapter key s = (some mat, t)) :
    faults step = .done ∧ mat.1 = key ∧
      (∀ canDelete, adapter.storage = .external canDelete →
        mat.2 = some key.kid ∧ t = s.addKey adapter.providerId key) := by
  obtain ⟨hdone, heffect⟩ := call_some h
  cases hstorage : adapter.storage with
  | db =>
    rw [hstorage] at heffect
    obtain ⟨rfl, rfl⟩ := Prod.mk.inj heffect
    exact ⟨hdone, rfl, fun _ h => nomatch h⟩
  | external canDelete =>
    rw [hstorage] at heffect
    obtain ⟨rfl, rfl⟩ := Prod.mk.inj heffect
    exact ⟨hdone, rfl, fun _ _ => ⟨rfl, rfl⟩⟩

theorem held_addKey {provider : String} {key : Jwk} (h : s.held provider key.kid = none) :
    (s.addKey provider key).held provider key.kid = some key.publicKey := by
  unfold KeyStore.held KeyStore.addKey at *
  rw [Option.map_eq_none_iff] at h
  simp [List.find?_append, h]

theorem held_addKey_other {provider name : String} {key : Jwk} (h : key.kid ≠ name) :
    (s.addKey provider key).held provider name = s.held provider name := by
  unfold KeyStore.held KeyStore.addKey
  simp [List.find?_append, h]

theorem createStandaloneKey_some {adapter : KmsAdapter} {row : KeyChainRow}
    (hfresh : s.held adapter.providerId w.activeKey.kid = none)
    (h : createStandaloneKey w faults adapter s = (some row, t)) :
    faults .generateActive = .done ∧ faults .certifyActive = .done ∧ NewRow w adapter row ∧
      (adapter.storage ≠ .db →
        t.held adapter.providerId w.activeKey.kid = some w.activeKey.publicKey) := by
  obtain ⟨mat, u, hgenerate, h⟩ := bind_eq_some h
  obtain ⟨certificate, u', hcertify, h⟩ := bind_eq_some h
  obtain ⟨hdone, hkey, hexternal⟩ := generateKey_some hgenerate
  obtain ⟨hdone', heffect⟩ := call_some hcertify
  obtain ⟨rfl, rfl⟩ := Prod.mk.inj heffect
  obtain ⟨hrow, rfl⟩ := Prod.mk.inj h
  obtain rfl := Option.some.inj hrow
  refine ⟨hdone, hdone', ⟨rfl, by rw [hkey], hkey, fun canDelete hstorage =>
    (hexternal canDelete hstorage).1⟩, fun hstorage => ?_⟩
  cases hstorage' : adapter.storage with
  | db => exact absurd hstorage' hstorage
  | external canDelete =>
    rw [(hexternal canDelete hstorage').2]
    exact held_addKey hfresh

structure Fresh (w : KeyWorld) (s : KeyStore) (id : String) : Prop where
  temporaryId : id ≠ w.temporaryId
  activeKey : ∀ provider, s.held provider w.activeKey.kid = none
  names : w.rootKey.kid ≠ w.activeKey.kid

theorem createMaterial_some {adapter : KmsAdapter} {dto : KeyChainCreateDto} {row : KeyChainRow}
    (hfresh : Fresh w s id) (h : createMaterial w faults dto adapter s = (some row, t)) :
    (∀ step ∈ (if dto.internalChain then [Step.generateRoot, .certifyRoot] else []) ++
        [.generateActive, .certifyActive], faults step = .done) ∧ NewRow w adapter row ∧
      (adapter.storage ≠ .db →
        t.held adapter.providerId w.activeKey.kid = some w.activeKey.publicKey) := by
  unfold createMaterial at h
  split at h
  · rename_i hinternal
    obtain ⟨mat, u, hgenerate, hcertifying⟩ := bind_eq_some h
    obtain ⟨certificate, u', hcertify, hrest⟩ := bind_eq_some hcertifying
    obtain ⟨active, u'', hactive, hreturn⟩ := bind_eq_some hrest
    obtain ⟨hdone, -, hexternal⟩ := generateKey_some hgenerate
    obtain ⟨hdone', heffect⟩ := call_some hcertify
    obtain ⟨rfl, rfl⟩ := Prod.mk.inj heffect
    obtain ⟨hrow, rfl⟩ := Prod.mk.inj hreturn
    obtain rfl := Option.some.inj hrow
    have hfresh' : u.held adapter.providerId w.activeKey.kid = none := by
      have hcalled := (call_some hgenerate).2
      cases hstorage : adapter.storage with
      | db =>
        rw [hstorage] at hcalled
        rw [← (Prod.mk.inj hcalled).2]
        exact hfresh.activeKey _
      | external canDelete =>
        rw [(hexternal canDelete hstorage).2, held_addKey_other hfresh.names]
        exact hfresh.activeKey _
    obtain ⟨hdone₁, hdone₂, hnew, hheld⟩ := createStandaloneKey_some hfresh' hactive
    refine ⟨?_, ⟨hnew.provider, hnew.certificate, hnew.jwk, hnew.name⟩, hheld⟩
    simp only [if_pos hinternal, List.cons_append, List.nil_append, List.forall_mem_cons,
      List.not_mem_nil, false_implies, implies_true, and_true]
    exact ⟨hdone, hdone', hdone₁, hdone₂⟩
  · rename_i hinternal
    obtain ⟨hdone₁, hdone₂, hnew, hheld⟩ := createStandaloneKey_some (hfresh.activeKey _) h
    refine ⟨?_, hnew, hheld⟩
    simp only [if_neg hinternal, List.nil_append, List.forall_mem_cons, List.not_mem_nil,
      false_implies, implies_true, and_true]
    exact ⟨hdone₁, hdone₂⟩

/-- The temporary row has a key of its own, with its certificate. -/
structure Created (w : KeyWorld) (dto : KeyChainCreateDto) (t : KeyStore) (adapter : KmsAdapter)
    (row : KeyChainRow) : Prop where
  registered : w.registry dto.kmsProvider = some adapter
  found : t.rows w.temporaryId = some row
  new : NewRow w adapter row
  held : adapter.storage ≠ .db →
    t.held adapter.providerId w.activeKey.kid = some w.activeKey.publicKey

/-- **A creation that answers** had no failing call. -/
theorem createWithId_some {dto : KeyChainCreateDto} (hfresh : Fresh w s id)
    (h : createWithId w faults dto s = (some (), t)) :
    Creates w faults dto ∧ ∃ adapter row, Created w dto t adapter row := by
  obtain ⟨_, u, htenant, hrest⟩ := bind_eq_some h
  obtain ⟨adapter, u', hresolve, hcreate⟩ := bind_eq_some hrest
  obtain ⟨row, u'', hmaterial, hsaving⟩ := bind_eq_some hcreate
  obtain ⟨hdone, heffect⟩ := call_some htenant
  obtain rfl := (Prod.mk.inj heffect).2
  obtain ⟨hadapter, rfl⟩ := orFail_some hresolve
  obtain ⟨hdones, hnew, hheld⟩ := createMaterial_some hfresh hmaterial
  obtain ⟨hsave, heffect'⟩ := call_some hsaving
  obtain rfl := (Prod.mk.inj heffect').2
  refine ⟨⟨fun step hstep => ?_, by rw [hadapter]; rfl⟩, adapter, row, hadapter, if_pos rfl, hnew,
    hheld⟩
  simp only [creationSteps, List.mem_append, List.mem_cons, List.not_mem_nil, or_false] at hstep
  obtain ((rfl | hstep) | rfl | rfl | rfl) := hstep
  · exact hdone
  · exact hdones step (List.mem_append_left _ hstep)
  · exact hdones _ (List.mem_append_right _ (by decide))
  · exact hdones _ (List.mem_append_right _ (by decide))
  · exact hsave

/-- A program that answers from every state. -/
def Answers {α : Type} (x : Run KeyStore α) : Prop := ∀ s, ∃ a t, x s = (some a, t)

theorem answers_call {α : Type} {outcome : Outcome} (h : outcome = .done)
    (effect : KeyStore → α × KeyStore) : Answers (Run.call outcome effect) :=
  fun _ => ⟨_, _, call_done h effect⟩

theorem answers_bind {α β : Type} {x : Run KeyStore α} {f : α → Run KeyStore β}
    (hx : Answers x) (hf : ∀ a, Answers (f a)) : Answers (x >>= f) := by
  intro s
  obtain ⟨a, t, hxs⟩ := hx s
  obtain ⟨b, u, hft⟩ := hf a t
  exact ⟨b, u, (Run.bind_some hxs).trans hft⟩

theorem answers_pure {α : Type} (a : α) : Answers (pure a : Run KeyStore α) :=
  fun s => ⟨a, s, rfl⟩

theorem answers_createWithId {dto : KeyChainCreateDto} (h : Creates w faults dto) :
    Answers (createWithId w faults dto) := by
  obtain ⟨hdone, hregistry⟩ := h
  obtain ⟨adapter, hadapter⟩ := Option.isSome_iff_exists.mp hregistry
  have hstandalone : ∀ adapter, Answers (createStandaloneKey w faults adapter) := fun _ =>
    answers_bind (answers_call (hdone _ (by simp [creationSteps])) _) fun _ =>
      answers_bind (answers_call (hdone _ (by simp [creationSteps])) _) fun _ => answers_pure _
  have hmaterial : ∀ adapter, Answers (createMaterial w faults dto adapter) := by
    intro adapter
    unfold createMaterial
    split
    · rename_i hinternal
      refine answers_bind (answers_call (hdone _ ?_) _) fun _ =>
        answers_bind (answers_call (hdone _ ?_) _) fun _ =>
          answers_bind (hstandalone _) fun _ => answers_pure _
      · simp [creationSteps, hinternal]
      · simp [creationSteps, hinternal]
    · exact hstandalone _
  exact answers_bind (answers_call (hdone _ (by simp [creationSteps])) _) fun _ =>
    answers_bind (fun s => ⟨adapter, s, Prod.ext hadapter rfl⟩) fun _ =>
      answers_bind (hmaterial _) fun _ => answers_call (hdone _ (by simp [creationSteps])) _

/-! ## The swap and its compensation -/

/-- **The key is deleted**: the row is saved under the id, an error follows while the temporary row
is still there, and the compensation reaches a provider that deletes. -/
structure DeletesKey (w : KeyWorld) (faults : Step → Outcome) (dto : KeyChainCreateDto) :
    Prop where
  creates : Creates w faults dto
  findPrevious : faults .findPrevious = .done
  findGenerated : faults .findGenerated = .done
  swapped : faults .save = .lost ∨ faults .save = .done ∧ faults .deleteTemporary = .refused
  findTemporary : faults .findTemporary = .done
  deletes : (w.registry dto.kmsProvider).map KmsAdapter.storage = some (.external true)
  deleteKey : faults .deleteTemporaryKey ≠ .refused

variable {dto : KeyChainCreateDto} {adapter : KmsAdapter} {row : KeyChainRow}

/-- The compensation deletes the key of the temporary row. -/
def CompensationDeletes (faults : Step → Outcome) (adapter : KmsAdapter) : Prop :=
  adapter.storage = .external true ∧ faults .findTemporary = .done ∧
    faults .deleteTemporaryKey ≠ .refused

theorem held_removeKey_self (s : KeyStore) (provider name : String) :
    (s.removeKey provider name).held provider name = none := by
  refine Option.map_eq_none_iff.mpr (List.find?_eq_none.mpr fun key hkey => ?_)
  simp only [KeyStore.removeKey, if_true] at hkey
  simpa using (List.mem_filter.mp hkey).2

theorem held_removeKey_other (s : KeyStore) (provider provider' : String) {name name' : String}
    (hname : name' ≠ name) :
    (s.removeKey provider name).held provider' name' = s.held provider' name' := by
  unfold KeyStore.held KeyStore.removeKey
  by_cases hprovider : provider' = provider
  · simp only [if_pos hprovider, List.find?_filter]
    refine congrArg (fun p => ((s.keys provider').find? p).map Prod.snd) (funext fun key => ?_)
    by_cases hkey : key.1 = name'
    · simp [hkey, hname]
    · simp [hkey]
  · simp only [if_neg hprovider]

/-- **What a deletion leaves**: a provider that deletes and is reached has removed the key. -/
theorem deleteKey_cases (step : Step) (adapter : KmsAdapter) (name : String) (s : KeyStore) :
    (adapter.storage = .external true ∧ faults step ≠ .refused ∧
      (deleteKey faults step adapter name s).2 = s.removeKey adapter.providerId name) ∨
    ¬(adapter.storage = .external true ∧ faults step ≠ .refused) ∧
      (deleteKey faults step adapter name s).2 = s := by
  unfold deleteKey
  cases hstorage : adapter.storage with
  | db =>
    refine .inr ⟨fun h => (nomatch h.1), ?_⟩
    cases faults step <;> rfl
  | external canDelete =>
    cases canDelete with
    | false =>
      refine .inr ⟨fun h => (nomatch h.1), ?_⟩
      cases faults step <;> rfl
    | true =>
      cases faults step with
      | done => exact .inl ⟨rfl, by decide, rfl⟩
      | lost => exact .inl ⟨rfl, by decide, rfl⟩
      | refused => exact .inr ⟨fun h => h.2 rfl, rfl⟩

theorem deleteTemporary_unread (h : faults .findTemporary ≠ .done) :
    deleteTemporary w faults s = (none, s) := by
  unfold deleteTemporary
  refine Run.bind_none ?_
  cases hfind : faults .findTemporary with
  | done => exact absurd hfind h
  | lost => rfl
  | refused => rfl

theorem deleteTemporary_spec (hid : id ≠ w.temporaryId) (hcreated : Created w dto s adapter row) :
    (deleteTemporary w faults s).2.rows id = s.rows id ∧
      (CompensationDeletes faults adapter →
        (deleteTemporary w faults s).2.held adapter.providerId w.activeKey.kid = none) ∧
      (∀ provider name, ¬CompensationDeletes faults adapter ∨ name ≠ w.activeKey.kid →
        (deleteTemporary w faults s).2.held provider name = s.held provider name) := by
  have hprovider : w.registry row.kmsProvider = some adapter := by
    rw [hcreated.new.provider, w.registered _ _ hcreated.registered]
    exact hcreated.registered
  -- the state that the provider leaves
  have hmaterial : deleteExternalKeyMaterial w faults .deleteTemporaryKey row s =
      (some (), (deleteKey faults .deleteTemporaryKey adapter (keyName row) s).2) := by
    unfold deleteExternalKeyMaterial Run.ignoring
    rw [Run.bind_some (orFail_done (o := fun _ => w.registry row.kmsProvider) hprovider)]
  have hlast : ∀ u : KeyStore, (Run.call (faults .deleteTemporaryRow) (fun s : KeyStore =>
      ((), s.setRow w.temporaryId none)) u).2.rows id = u.rows id ∧
      ∀ provider name, (Run.call (faults .deleteTemporaryRow) (fun s : KeyStore =>
        ((), s.setRow w.temporaryId none)) u).2.held provider name = u.held provider name := by
    intro u
    cases faults .deleteTemporaryRow with
    | done => exact ⟨if_neg hid, fun _ _ => rfl⟩
    | lost => exact ⟨if_neg hid, fun _ _ => rfl⟩
    | refused => exact ⟨rfl, fun _ _ => rfl⟩
  by_cases hfind : faults .findTemporary = .done
  · have hrun : deleteTemporary w faults s = Run.call (faults .deleteTemporaryRow)
        (fun s : KeyStore => ((), s.setRow w.temporaryId none))
        (deleteKey faults .deleteTemporaryKey adapter (keyName row) s).2 := by
      unfold deleteTemporary
      rw [Run.bind_some (call_done hfind _),
        Run.bind_some (orFail_done (o := fun _ => s.rows w.temporaryId) hcreated.found),
        Run.bind_some hmaterial]
    rw [hrun]
    obtain ⟨hrows, hheld⟩ := hlast (deleteKey faults .deleteTemporaryKey adapter (keyName row) s).2
    obtain ⟨hstorage, hdelete, hstate⟩ | ⟨hnot, hstate⟩ :=
      deleteKey_cases .deleteTemporaryKey adapter (keyName row) s
    · rw [hstate] at hrows hheld ⊢
      rw [hcreated.new.keyName hstorage] at hrows hheld ⊢
      refine ⟨hrows, fun _ => (hheld _ _).trans (held_removeKey_self s _ _),
        fun provider name h => ?_⟩
      have hname : name ≠ w.activeKey.kid :=
        h.resolve_left fun h => h ⟨hstorage, hfind, hdelete⟩
      exact (hheld _ _).trans (held_removeKey_other s _ _ hname)
    · rw [hstate] at hrows hheld ⊢
      exact ⟨hrows, fun h => absurd ⟨h.1, h.2.2⟩ hnot, fun provider name _ => hheld provider name⟩
  · rw [deleteTemporary_unread hfind]
    exact ⟨rfl, fun h => absurd h.2.1 hfind, fun _ _ _ => rfl⟩

theorem healthy_of_swapped (hcreated : Created w dto s adapter row)
    (hrow : t.rows id = some row) (hheld : ∀ provider name, t.held provider name =
      s.held provider name) : Healthy w t id := by
  have hprovider : w.registry row.kmsProvider = some adapter := by
    rw [hcreated.new.provider, w.registered _ _ hcreated.registered]
    exact hcreated.registered
  refine ⟨row, hrow, Option.bind_eq_some_iff.mpr ⟨adapter, hprovider, ?_⟩⟩
  rw [hcreated.new.certificate]
  cases hstorage : adapter.storage with
  | db => exact congrArg (fun jwk => some (Jwk.publicKey jwk)) hcreated.new.jwk
  | external canDelete =>
    change t.held adapter.providerId (keyName row) = _
    rw [hcreated.new.keyName hstorage, hheld]
    exact hcreated.held (by rw [hstorage]; nofun)

theorem not_healthy_of_deleted (hcreated : Created w dto s adapter row)
    (hstorage : adapter.storage = .external true) (hrow : t.rows id = some row)
    (hgone : t.held adapter.providerId w.activeKey.kid = none) : ¬Healthy w t id := by
  rintro ⟨row', hrow', hkey⟩
  obtain rfl := Option.some.inj (hrow.symm.trans hrow')
  obtain ⟨adapter', hadapter', hkey⟩ := Option.bind_eq_some_iff.mp hkey
  rw [hcreated.new.provider, w.registered _ _ hcreated.registered, hcreated.registered]
    at hadapter'
  obtain rfl := Option.some.inj hadapter'
  rw [hstorage] at hkey
  change t.held adapter.providerId (keyName row) = _ at hkey
  rw [hcreated.new.keyName hstorage, hgone] at hkey
  cases hkey

theorem healthy_after_swap (hid : id ≠ w.temporaryId) (hcreated : Created w dto t adapter row)
    (hrow : t.rows id = some row) :
    Healthy w (deleteTemporary w faults t).2 id ↔ ¬CompensationDeletes faults adapter := by
  obtain ⟨hrows, hdeletes, hkeeps⟩ := deleteTemporary_spec hid hcreated
  constructor
  · intro hhealthy hcompensation
    exact not_healthy_of_deleted hcreated hcompensation.1 (hrows.trans hrow)
      (hdeletes hcompensation) hhealthy
  · intro hcompensation
    exact healthy_of_swapped hcreated (hrows.trans hrow) fun provider name =>
      hkeeps provider name (.inl hcompensation)

theorem Healthy.kept_other (h : Healthy w s id) (hfresh : Fresh w s id) (hkept : Kept id s t)
    {u : KeyStore} (hrow : u.rows id = t.rows id)
    (hheld : ∀ provider name, name ≠ w.activeKey.kid →
      u.held provider name = t.held provider name) : Healthy w u id := by
  refine h.kept ⟨hrow.trans hkept.row, fun provider name key hkey => ?_⟩
  have hname : name ≠ w.activeKey.kid := by
    rintro rfl
    rw [hfresh.activeKey] at hkey
    cases hkey
  exact (hheld provider name hname).trans (hkept.held _ _ _ hkey)

theorem deleteTemporary_none (h : s.rows w.temporaryId = none) :
    (deleteTemporary w faults s).2 = s := by
  have hfail : Run.orFail (fun _ => s.rows w.temporaryId) s = (none, s) := Prod.ext h rfl
  unfold deleteTemporary
  cases hfind : faults .findTemporary with
  | done => rw [Run.bind_some (call_done rfl _), Run.bind_none hfail]
  | lost => rfl
  | refused => rfl

theorem Created.setRow (h : Created w dto s adapter row) (hid : id ≠ w.temporaryId)
    (other : Option KeyChainRow) : Created w dto (s.setRow id other) adapter row :=
  ⟨h.registered, (if_neg hid.symm).trans h.found, h.new, h.held⟩

theorem replacePrevious_spec {previous : Option KeyChainRow} (hhealthy : Healthy w s id)
    (hfresh : Fresh w s id) (hkept : Kept id s t) (hcreated : Created w dto t adapter row)
    (herror : (replacePrevious w faults id previous t).1 = none) :
    Healthy w (replacePrevious w faults id previous t).2 id ↔
      ¬(faults .findGenerated = .done ∧
        (faults .save = .lost ∨ faults .save = .done ∧ faults .deleteTemporary = .refused) ∧
        CompensationDeletes faults adapter) := by
  have hrun : ∀ x, Run.rethrowAfter (swapRows w faults id row) (deleteTemporary w faults) t = x →
      faults .findGenerated = .done → replacePrevious w faults id previous t =
        Run.bind (fun _ => x) (fun _ =>
          previous.elim (pure ()) (deleteExternalKeyMaterial w faults .deletePreviousKey)) t := by
    rintro x rfl hdone
    unfold replacePrevious
    rw [Run.bind_some (call_done hdone _),
      Run.bind_some (orFail_done (o := fun _ => t.rows w.temporaryId) hcreated.found)]
    rfl
  have hfound : faults .findGenerated ≠ .done →
      replacePrevious w faults id previous t = (none, t) := by
    intro hfailed
    unfold replacePrevious
    refine Run.bind_none ?_
    cases h : faults .findGenerated with
    | done => exact absurd h hfailed
    | lost => rfl
    | refused => rfl
  by_cases hdone : faults .findGenerated = .done
  swap
  · rw [hfound hdone]
    exact iff_of_true (hhealthy.kept hkept) fun h => hdone h.1
  -- what becomes of the swap
  cases hsave : faults .save with
  | refused =>
    have hswap : Run.rethrowAfter (swapRows w faults id row) (deleteTemporary w faults) t =
        (none, (deleteTemporary w faults t).2) := by
      unfold Run.rethrowAfter swapRows
      rw [hsave]
      rfl
    rw [hrun _ hswap hdone]
    have hdeleted : (deleteTemporary w faults t).2.rows id = t.rows id ∧ _ :=
      deleteTemporary_spec hfresh.temporaryId hcreated
    obtain ⟨hrows, -, hheld⟩ := hdeleted
    refine iff_of_true (hhealthy.kept_other hfresh hkept hrows fun provider name hname =>
      hheld provider name (.inr hname)) ?_
    rintro ⟨-, h | h, -⟩
    · cases h
    · cases h.1
  | lost =>
    have hswap : Run.rethrowAfter (swapRows w faults id row) (deleteTemporary w faults) t =
        (none, (deleteTemporary w faults (t.setRow id (some row))).2) := by
      unfold Run.rethrowAfter swapRows
      rw [hsave]
      rfl
    rw [hrun _ hswap hdone]
    refine (healthy_after_swap hfresh.temporaryId (hcreated.setRow hfresh.temporaryId _)
      (if_pos rfl)).trans (not_congr ?_)
    exact ⟨fun h => ⟨hdone, .inl rfl, h⟩, fun h => h.2.2⟩
  | done =>
    cases hdelete : faults .deleteTemporary with
    | refused =>
      have hswap : Run.rethrowAfter (swapRows w faults id row) (deleteTemporary w faults) t =
          (none, (deleteTemporary w faults (t.setRow id (some row))).2) := by
        unfold Run.rethrowAfter swapRows
        rw [Run.bind_some (call_done hsave _), hdelete]
        rfl
      rw [hrun _ hswap hdone]
      refine (healthy_after_swap hfresh.temporaryId (hcreated.setRow hfresh.temporaryId _)
        (if_pos rfl)).trans (not_congr ?_)
      exact ⟨fun h => ⟨hdone, .inr ⟨rfl, rfl⟩, h⟩, fun h => h.2.2⟩
    | lost =>
      have hgone : ((t.setRow id (some row)).setRow w.temporaryId none).rows w.temporaryId =
          none := if_pos rfl
      have hswap : Run.rethrowAfter (swapRows w faults id row) (deleteTemporary w faults) t =
          (none, (t.setRow id (some row)).setRow w.temporaryId none) := by
        unfold Run.rethrowAfter swapRows
        rw [Run.bind_some (call_done hsave _), hdelete]
        exact congrArg (Prod.mk none) (deleteTemporary_none hgone)
      rw [hrun _ hswap hdone]
      refine iff_of_true (healthy_of_swapped hcreated ?_ fun _ _ => rfl) ?_
      · exact (if_neg hfresh.temporaryId).trans (if_pos rfl)
      · rintro ⟨-, h | h, -⟩
        · cases h
        · cases h.2
    | done =>
      have hswap : Run.rethrowAfter (swapRows w faults id row) (deleteTemporary w faults) t =
          (some (), (t.setRow id (some row)).setRow w.temporaryId none) := by
        unfold Run.rethrowAfter swapRows
        rw [Run.bind_some (call_done hsave _), hdelete]
        rfl
      rw [hrun _ hswap hdone] at herror
      cases previous with
      | none => cases herror
      | some previous => cases herror

end KeyChainRegenerate

open KeyChainRegenerate

/-- **A chain whose regeneration fails** has a key that exists, and the certificate of that key,
exactly if the compensation does not delete the key it was given. -/
theorem regenerate_keeps_key (w : KeyWorld) (faults : Step → Outcome) (s : KeyStore) (id : String)
    (dto : KeyChainCreateDto) (hhealthy : Healthy w s id) (hfresh : Fresh w s id)
    (herror : (regenerate w faults id dto s).1 = none) :
    Healthy w (regenerate w faults id dto s).2 id ↔ ¬DeletesKey w faults dto := by
  by_cases hprevious : faults .findPrevious = .done
  swap
  · have hrun : regenerate w faults id dto s = (none, s) := by
      unfold regenerate
      refine Run.bind_none ?_
      cases h : faults .findPrevious with
      | done => exact absurd h hprevious
      | lost => rfl
      | refused => rfl
    rw [hrun]
    exact iff_of_true hhealthy fun h => hprevious h.findPrevious
  have hrun : regenerate w faults id dto s =
      (createWithId w faults dto >>= fun _ => replacePrevious w faults id (s.rows id)) s :=
    Run.bind_some (call_done hprevious _)
  have hkept : Kept id s (createWithId w faults dto s).2 :=
    keeps_createWithId hfresh.temporaryId dto s
  cases hcreate : createWithId w faults dto s with
  | mk answer t =>
    rw [hcreate] at hkept
    cases answer with
    | none =>
      rw [hrun, Run.bind_none hcreate]
      refine iff_of_true (hhealthy.kept hkept) fun h => ?_
      obtain ⟨_, _, hanswer⟩ := answers_createWithId h.creates s
      cases congrArg Prod.fst (hcreate.symm.trans hanswer)
    | some _ =>
      obtain ⟨hcreates, adapter, row, hcreated⟩ := createWithId_some hfresh hcreate
      rw [hrun, Run.bind_some hcreate] at herror ⊢
      refine (replacePrevious_spec hhealthy hfresh hkept hcreated herror).trans (not_congr ?_)
      constructor
      · rintro ⟨hfound, hswapped, hstorage, hfind, hdelete⟩
        exact ⟨hcreates, hprevious, hfound, hswapped, hfind,
          by rw [hcreated.registered, Option.map_some, hstorage], hdelete⟩
      · intro h
        have hstorage := h.deletes
        rw [hcreated.registered, Option.map_some] at hstorage
        exact ⟨h.findGenerated, h.swapped, Option.some.inj hstorage, h.findTemporary, h.deleteKey⟩

namespace KeyChainRegenerate

def vaultStore : KeyStore where
  rows id := if id = "chain" then some {
    kmsProvider := "vault"
    activeJwk := ⟨"old", 1⟩
    activeCertificate := 1
    externalKeyId := some "old" } else none
  keys provider := if provider = "vault" then [("old", 1)] else []

def vaultWorld : KeyWorld where
  registry provider := if provider = "vault" then some ⟨"vault", .external true⟩ else none
  registered provider adapter h := by
    split at h
    · rename_i hprovider
      rw [← Option.some.inj h, hprovider]
    · cases h
  temporaryId := "temporary"
  rootKey := ⟨"root", 2⟩
  activeKey := ⟨"new", 3⟩

def standalone : KeyChainCreateDto := ⟨false, "vault"⟩

def failing (step : Step) (outcome : Outcome) (other : Step) : Outcome :=
  if other = step then outcome else .done

theorem vault_healthy : Healthy vaultWorld vaultStore "chain" := ⟨_, rfl, rfl⟩

theorem vault_fresh : Fresh vaultWorld vaultStore "chain" := by
  refine ⟨by decide, fun provider => ?_, by decide⟩
  refine Option.map_eq_none_iff.mpr (List.find?_eq_none.mpr fun key hkey => ?_)
  change key ∈ (if provider = "vault" then [("old", 1)] else []) at hkey
  split at hkey
  · obtain rfl := List.mem_singleton.mp hkey
    decide
  · exact (List.not_mem_nil hkey).elim

end KeyChainRegenerate

/-- A new row that cannot be saved leaves the chain. -/
theorem regenerate_keeps_key_unsaved : Healthy vaultWorld
    (regenerate vaultWorld (failing .save .refused) "chain" standalone vaultStore).2 "chain" := by
  refine (regenerate_keeps_key vaultWorld (failing .save .refused) vaultStore "chain" standalone
    vault_healthy vault_fresh rfl).mpr fun h => ?_
  obtain h | h := h.swapped
  · exact absurd h (by decide)
  · exact absurd h.1 (by decide)

/-- **A temporary row that cannot be deleted** costs the chain its key. -/
theorem not_regenerate_keeps_key :
    Healthy vaultWorld vaultStore "chain" ∧
      (regenerate vaultWorld (failing .deleteTemporary .refused) "chain" standalone
        vaultStore).1 = none ∧
      ¬Healthy vaultWorld (regenerate vaultWorld (failing .deleteTemporary .refused) "chain"
        standalone vaultStore).2 "chain" := by
  refine ⟨vault_healthy, rfl, ?_⟩
  rintro ⟨row, hrow, hkey⟩
  obtain rfl := Option.some.inj hrow
  exact nomatch hkey

end Eudiplo
