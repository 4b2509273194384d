import Eudiplo.Concurrency.Order
import Eudiplo.Concurrency.RelyGuarantee
import Eudiplo.Keys.Footprint

/-!
# Does a served trust list verify under its pinned certificate?

The JWT of a list is signed when the list is published, and stored; the certificate a
verifier pins is the leaf of the list's key chain whenever it is asked for.  Rotating the
key chain replaces the leaf and leaves the JWT: until the list is published again it
verifies under no pin (`not_lists_verify`).

`lists_verify` holds for every run in which a key chain that a stored list names keeps the
key of its leaf certificate, and a list is stored while the leaf is for the key it was signed
with.
-/

namespace Eudiplo

open Concurrency Prog Discipline Storage

/-! ## The claim -/

structure SigningColumns where
  tenantId : String
  kmsProvider : String
  activeJwk : Jwk
  externalKeyId : Option String

def KeyChainEntity.signing (kc : KeyChainEntity) : SigningColumns where
  tenantId := kc.tenantId
  kmsProvider := kc.kmsProvider
  activeJwk := kc.activeJwk
  externalKeyId := kc.externalKeyId

def KeyChainEntity.leafDer (kc : KeyChainEntity) : Option String :=
  kc.activeCertificate.head?.map formatPem

/-- **Signatures and certificates**: a list signed with the active key of a key chain verifies
under exactly the certificates for that key. -/
structure LoTEVerification (w : KeyWorld) where
  activeKey : SigningColumns → String
  certificateKey : String → Option String
  verifies : (jwt der : String) → Bool
  signed : ∀ {n m : Nat} {kc : KeyChainEntity} {adapter : KmsAdapter} {lote : LoTE}
      {keyId : String} {certificates : List String} {jwt : String},
    w.answer n (.resolveProvider (some kc.kmsProvider) kc.tenantId) = .ok adapter →
    w.answer m (.signLoTE lote keyId adapter (kc.ref adapter) certificates) = .ok jwt →
      ∀ der, verifies jwt der = true ↔ certificateKey der = some (activeKey kc.signing)

variable {w : KeyWorld}

/-- Asked for at once, list `id` of the tenant is answered with this JWT. -/
def ServesJwt (c : KeyConfig) (tenantId id jwt : String) : Prop :=
  ((keyServices w).run c (.arrive (.trustList (.getJwt tenantId id)) ::
    List.replicate 1 (.resume c.threads.length))).Answers c.threads.length
      (.trustList (.getJwt tenantId id)) (.text jwt)

/-- Asked for at once, the certificate to pin for list `id` of the tenant is this one. -/
def ServesX509Der (c : KeyConfig) (tenantId id der : String) : Prop :=
  ((keyServices w).run c (.arrive (.trustList (.getVerifierX509Der tenantId id)) ::
    List.replicate 2 (.resume c.threads.length))).Answers c.threads.length
      (.trustList (.getVerifierX509Der tenantId id)) (.text der)

/-- **Every list verifies under its pinned certificate**, as they are served. -/
def ListsVerify (v : LoTEVerification w) (c : KeyConfig) : Prop :=
  ∀ tenantId id, (c.store.lists.get (tenantId, id)).isSome = true →
    ∃ jwt der, ServesJwt (w := w) c tenantId id jwt ∧ ServesX509Der (w := w) c tenantId id der ∧
      v.verifies jwt der = true

/-- The row of key chain `k` in an answer to thread `tid`. -/
def chainRead (tid : Nat) (k : TenantKey) : Event KeyCall.Reply → Option KeyChainEntity
  | ⟨t, .keyChains (.findOne key), some kc⟩ => if t = tid ∧ key = k then some kc else none
  | _ => none

/-- The row of key chain `k` that thread `tid` read last. -/
def lastRead (g : KeyState) (tid : Nat) (k : TenantKey) : Option KeyChainEntity :=
  g.trace.findSome? (chainRead tid k)

def LoTEVerification.leafKey (v : LoTEVerification w) (kc : KeyChainEntity) : Option String :=
  kc.leafDer.bind v.certificateKey

/-- The leaf certificate of key chain `k` is for the active key of the row that was read. -/
def LeafFor (v : LoTEVerification w) (g : KeyState) (k : TenantKey)
    (read : Option KeyChainEntity) : Prop :=
  ∀ signer, read = some signer → ∃ kc, g.store.keyChains.get k = some kc ∧
    v.leafKey kc = some (v.activeKey signer.signing)

/-- A change of key chain `k` keeps the key of its leaf certificate, if a stored list names it. -/
def KeepsLeaf (v : LoTEVerification w) (g : KeyState) (k : TenantKey)
    (set : KeyChainEntity → KeyChainEntity) : Prop :=
  ∀ t ∈ g.store.lists.rows, t.keyChain = k → ∀ kc, g.store.keyChains.get k = some kc →
    v.leafKey (keepingKey set kc) = v.leafKey kc

/-- **The condition**: a list is stored while the leaf certificate of its key chain is for the
key it was signed with, and a key chain that a stored list names keeps the key of its leaf. -/
def KeepsPins (v : LoTEVerification w) (g : KeyState) (tid : Nat) : KeyCall → Prop
  | .lists (.save row) => LeafFor v g row.keyChain (lastRead g tid row.keyChain)
  | .lists (.publishNextVersion previous changes) => ∀ t,
    g.store.lists.get previous.key = some t → unchangedSince previous t = true →
      LeafFor v g (t.publish changes).keyChain
        (lastRead g tid (previous.publish changes).keyChain)
  | .keyChains (.save row merge) => KeepsLeaf v g row.key merge
  | .keyChains (.update key set) => KeepsLeaf v g key set
  | _ => True

namespace PinnedCertificates

variable {v : LoTEVerification w} {g g' : KeyState} {tid t : Nat} {op : KeyCall} {k : TenantKey}

/-! ## What is served -/

def pinnedDer (st : KeyStore) (t : TrustList) : Option String :=
  (st.keyChains.get t.keyChain).bind KeyChainEntity.leafDer

theorem servesJwt {c : KeyConfig} {tenantId id : String} {row : TrustList}
    (hrow : c.store.lists.get (tenantId, id) = some row) :
    ServesJwt (w := w) c tenantId id row.jwt := by
  refine System.answers_at_once ?_
  simp [keyServices, KeyRequest.program, TrustListRequest.program, answerWith,
    TrustListService.getJwt, TrustListService.findOne, trustLists, invoke,
    System.uninterrupted, KeyCall.answer, TrustListCall.answer, getOrFail, hrow]

theorem servesX509Der {c : KeyConfig} {tenantId id der : String} {row : TrustList}
    (hrow : c.store.lists.get (tenantId, id) = some row)
    (hder : pinnedDer c.store row = some der) : ServesX509Der (w := w) c tenantId id der := by
  obtain ⟨kc, hkc, hleaf⟩ := Option.bind_eq_some_iff.mp hder
  obtain ⟨leaf, hhead, rfl⟩ := Option.map_eq_some_iff.mp hleaf
  have htenant : row.tenantId = tenantId := congrArg Prod.fst (Table.get_key hrow)
  have hchain : c.store.keyChains.get (tenantId, row.keyChainId) = some kc := htenant ▸ hkc
  refine System.answers_at_once ?_
  simp [keyServices, KeyRequest.program, TrustListRequest.program, answerWith,
    TrustListService.getVerifierX509Der, TrustListService.findOne, trustLists, invoke,
    CertService.getCertificateById, KeyChainService.getEntity, keyChains,
    CertService.certificateInfo, System.uninterrupted, KeyCall.answer, TrustListCall.answer,
    KeyChainCall.answer, getOrFail, hrow, hchain, hhead]

theorem text_unique {c : KeyConfig} {tid : Nat} {r : KeyRequest} {s s' : String}
    (h : c.Answers tid r (.text s)) (h' : c.Answers tid r (.text s')) : s = s' := by
  have heq := h.symm.trans h'
  injection heq with hthread
  injection hthread with _ hbody
  injection hbody with htext
  injection htext

/-! ## The invariant -/

/-- The JWT verifies under exactly the certificates for a key. -/
def SignedFor (v : LoTEVerification w) (jwt key : String) : Prop :=
  ∀ der, v.verifies jwt der = true ↔ v.certificateKey der = some key

/-- The list is signed with the key its key chain has a leaf certificate for. -/
def Pinned (v : LoTEVerification w) (st : KeyStore) (row : TrustList) : Prop :=
  ∃ key kc, SignedFor v row.jwt key ∧ st.keyChains.get row.keyChain = some kc ∧
    v.leafKey kc = some key

/-- **The invariant** between any two calls. -/
def PinnedInv (v : LoTEVerification w) (g : KeyState) : Prop :=
  ∀ k row, g.store.lists.get k = some row → Pinned v g.store row

theorem listsVerify_of_inv {c : KeyConfig} (h : PinnedInv v c.global) : ListsVerify v c := by
  intro tenantId id hsome
  obtain ⟨row, hrow⟩ := Option.isSome_iff_exists.mp hsome
  obtain ⟨key, kc, hsigned, hkc, hleaf⟩ := h _ row hrow
  obtain ⟨der, hder, hkey⟩ := Option.bind_eq_some_iff.mp hleaf
  have hpinned : pinnedDer c.store row = some der := by
    rw [pinnedDer]
    exact (congrArg (·.bind KeyChainEntity.leafDer) hkc).trans hder
  exact ⟨_, der, servesJwt hrow, servesX509Der hrow hpinned, (hsigned der).mpr hkey⟩

def SignedBy (v : LoTEVerification w) (g : KeyState) (tid : Nat) (k : TenantKey) (jwt : String) :
    Prop :=
  ∃ signer, lastRead g tid k = some signer ∧ SignedFor v jwt (v.activeKey signer.signing)

/-- **What a thread may store**: a list signed with the key chain it names, as read last. -/
def PinnedMay (v : LoTEVerification w) (g : KeyState) (tid : Nat) : KeyCall → Prop
  | .lists (.save row) => SignedBy v g tid row.keyChain row.jwt
  | .lists (.publishNextVersion previous changes) =>
    SignedBy v g tid (previous.publish changes).keyChain changes.jwt
  | _ => True

/-! ## One call -/

theorem pinned_of_leaf {st : KeyStore} {row : TrustList} {read : Option KeyChainEntity}
    {signer : KeyChainEntity} (hread : read = some signer)
    (hsigned : SignedFor v row.jwt (v.activeKey signer.signing))
    (hleaf : LeafFor v g row.keyChain read) (hchains : st.keyChains = g.store.keyChains) :
    Pinned v st row := by
  obtain ⟨kc, hkc, hkey⟩ := hleaf signer hread
  exact ⟨_, kc, hsigned, hchains ▸ hkc, hkey⟩

theorem pinned_change (hinv : PinnedInv v g) {st : KeyStore} {key : TenantKey}
    {set : KeyChainEntity → KeyChainEntity} (hkeeps : KeepsLeaf v g key set)
    (hlists : st.lists = g.store.lists)
    (hchains : ∀ k kc, g.store.keyChains.get k = some kc →
      st.keyChains.get k = some (if key = k then keepingKey set kc else kc))
    {k : TenantKey} {row : TrustList} (hrow : st.lists.get k = some row) : Pinned v st row := by
  have hold : g.store.lists.get k = some row := hlists ▸ hrow
  obtain ⟨signer, kc, hsigned, hkc, hleaf⟩ := hinv k row hold
  refine ⟨signer, _, hsigned, hchains _ _ hkc, ?_⟩
  split
  · rename_i heq
    rw [hkeeps row (Table.get_eq_some.mp hold).1 heq.symm kc (heq ▸ hkc)]
    exact hleaf
  · exact hleaf

theorem pinned_delete (hinv : PinnedInv v g) (p : TrustList → Bool)
    (chains : Table KeyChainEntity.key)
    (hchains : ∀ row, p row = false → ∀ kc, g.store.keyChains.get row.keyChain = some kc →
      chains.get row.keyChain = some kc) {k : TenantKey} {row : TrustList}
    (hrow : (g.store.lists.deleteWhere p).get k = some row) {st : KeyStore}
    (hst : st.keyChains = chains) : Pinned v st row := by
  have hget := (Table.get_deleteWhere g.store.lists p k).symm.trans hrow
  obtain ⟨hold, hkept⟩ := Option.filter_eq_some_iff.mp hget
  obtain ⟨signer, kc, hsigned, hkc, hleaf⟩ := hinv k row hold
  exact ⟨signer, kc, hsigned, hst ▸ hchains row (by simpa using hkept) kc hkc, hleaf⟩

theorem pinned_saveList {saved : TrustList} (hinv : PinnedInv v g)
    (hok : KeepsPins v g tid (.lists (.save saved)))
    (hmay : PinnedMay v g tid (.lists (.save saved))) :
    PinnedInv v ((keyServices w).after g tid (.lists (.save saved))) := by
  intro k row hrow
  obtain ⟨signer, hread, hsigned⟩ := hmay
  have hget := (Table.get_upsert g.store.lists saved (mergeTrustList saved) (fun _ => rfl)
    k).symm.trans hrow
  split at hget
  · rename_i hk
    cases hold : g.store.lists.get k with
    | none =>
      rw [hold] at hget
      cases hget
      exact pinned_of_leaf hread hsigned hok rfl
    | some old =>
      rw [hold] at hget
      cases hget
      -- the merged row names the key chain of the saved one
      have htenant : old.tenantId = saved.tenantId :=
        congrArg Prod.fst ((Table.get_key hold).trans hk.symm)
      have hchain : (mergeTrustList saved old).keyChain = saved.keyChain := by
        simp [mergeTrustList, TrustList.keyChain, htenant]
      have hleaf : LeafFor v g (mergeTrustList saved old).keyChain
          (lastRead g tid saved.keyChain) := by
        rw [hchain]
        exact hok
      exact pinned_of_leaf (g := g) hread hsigned hleaf rfl
  · exact hinv k row hget

theorem pinned_publish {previous : TrustList} {changes : TrustListVersionChanges}
    (hinv : PinnedInv v g) (hok : KeepsPins v g tid (.lists (.publishNextVersion previous changes)))
    (hmay : PinnedMay v g tid (.lists (.publishNextVersion previous changes))) :
    PinnedInv v ((keyServices w).after g tid (.lists (.publishNextVersion previous changes))) := by
  intro k row hrow
  obtain ⟨signer, hread, hsigned⟩ := hmay
  by_cases hcount : 0 < g.store.lists.count (unchangedSince previous)
  · have hanswer : (keyServices w).answer (.lists (.publishNextVersion previous changes))
        g.store = (true, { g.store with
          lists := g.store.lists.updateWhere (unchangedSince previous) (·.publish changes)
            fun _ => rfl
          versions := previous.version :: g.store.versions }) := if_pos hcount
    rw [System.after_store, hanswer] at hrow ⊢
    have hget := (Table.get_updateWhere g.store.lists (unchangedSince previous)
      (·.publish changes) (fun _ => rfl) k).symm.trans hrow
    obtain ⟨old, hold, hnew⟩ := Option.map_eq_some_iff.mp hget
    split at hnew
    · -- the row is the one that was read, so the leaf is of its key chain
      rename_i hsince
      cases hnew
      have hkey : old.key = previous.key := by
        simpa using (Bool.and_eq_true_iff.mp hsince).1
      have hstored : g.store.lists.get previous.key = some old := by
        rw [← hkey, Table.get_key hold]
        exact hold
      exact pinned_of_leaf (g := g) hread hsigned (hok old hstored hsince) rfl
    · cases hnew
      exact hinv k _ hold
  · have hanswer : (keyServices w).answer (.lists (.publishNextVersion previous changes))
        g.store = (false, g.store) := if_neg hcount
    rw [System.after_store, hanswer] at hrow ⊢
    exact hinv k row hrow

/-- **One call keeps the invariant.** -/
theorem inv_after (hinv : PinnedInv v g) (hok : KeepsPins v g tid op)
    (hmay : PinnedMay v g tid op) :
    PinnedInv v ((keyServices w).after g tid op) := by
  intro k row hrow
  cases op with
  | keyChains c =>
    cases c with
    | save saved merge =>
      refine pinned_change hinv hok ?_ (fun k' kc hkc => ?_) hrow
      · rfl
      refine (Table.get_upsert g.store.keyChains { saved with createdAt := g.store.clock }
        (keepingKey merge) (fun _ => rfl) k').trans ?_
      rw [hkc]
      show (if saved.key = k' then _ else _) = _
      split <;> rfl
    | update key set =>
      refine pinned_change hinv hok ?_ (fun k' kc hkc => ?_) hrow
      · rfl
      refine (Table.get_updateWhere g.store.keyChains (·.key == key) (keepingKey set)
        (fun _ => rfl) k').trans ?_
      rw [hkc, Option.map_some, Table.get_key hkc]
      by_cases h : k' = key
      · simp [h]
      · simp [h, Ne.symm h]
    | delete key =>
      refine pinned_delete hinv (·.keyChain == key) (g.store.keyChains.deleteWhere (·.key == key))
        (fun row' hother kc hkc => ?_) hrow rfl
      refine (Table.get_deleteWhere g.store.keyChains (·.key == key) row'.keyChain).trans ?_
      have hne : row'.keyChain ≠ key := by simpa using hother
      rw [hkc, Option.filter_some, Table.get_key hkc]
      simp [hne]
    | findOne key => exact hinv k row hrow
    | findByUsageType tenantId usageType keyId => exact hinv k row hrow
    | findRotating => exact hinv k row hrow
  | lists c =>
    cases c with
    | save saved => exact pinned_saveList hinv hok hmay k row hrow
    | publishNextVersion previous changes => exact pinned_publish hinv hok hmay k row hrow
    | delete key =>
      exact pinned_delete hinv (·.key == key) g.store.keyChains (fun _ _ _ h => h) hrow rfl
    | findOne key => exact hinv k row hrow
    | find => exact hinv k row hrow
  | session c => exact hinv k row hrow
  | now => exact hinv k row hrow
  | uuid => exact hinv k row hrow
  | ask q => exact hinv k row hrow

/-! ## The discipline -/

theorem lastRead_after (hne : t ≠ tid) :
    lastRead ((keyServices w).after g tid op) t k = lastRead g t k := by
  have hnone : chainRead t k ⟨tid, op, ((keyServices w).answer op g.store).1⟩ = none := by
    unfold chainRead
    split
    · rename_i t' key kc heq
      injection heq with htid
      subst htid
      exact if_neg fun h => hne h.1.symm
    · rfl
  rw [lastRead, System.after_trace, List.findSome?_cons, hnone]
  rfl

/-- **The discipline of the pinned certificates**: what a thread read last is its own. -/
def pins (v : LoTEVerification w) : Discipline (keyServices w) where
  inv := PinnedInv v
  rely t g g' := ∀ k, lastRead g' t k = lastRead g t k
  admits := KeepsPins v
  may := PinnedMay v
  allowed _ := True
  post _ _ _ _ := True
  rely_refl _ _ _ := rfl
  rely_trans h h' k := (h' k).trans (h k)
  step hinv _ hok hmay := ⟨inv_after hinv hok hmay, fun _ hne _ => lastRead_after hne⟩
  arrive hinv _ := ⟨hinv, fun _ _ _ => rfl⟩
  pass _ hinv := ⟨hinv, fun _ _ => rfl⟩

variable {r : KeyRequest}

theorem may_of_looks (h : KeyCall.Looks op) : PinnedMay v g tid op := by
  cases op with
  | lists c => cases c <;> trivial
  | _ => trivial

theorem safe_looks {α : Type} {p : KeyApi α} (hg : (pins v).At tid r g)
    (hp : p.Only KeyCall.Looks) : (pins v).Safe tid (fun _ _ => True) p g :=
  .of_only hg hp fun _ _ _ _ h _ => may_of_looks h

/-! ## Signing -/

theorem safe_getEntity (tenantId id : String) :
    (pins v).Safe tid (fun g' kc => kc.id = id ∧ lastRead g' tid (tenantId, id) = some kc)
      (KeyChainService.getEntity tenantId id) g := by
  intro g' _ _
  refine ⟨trivial, Safe.require fun kc hkc g'' hl => ?_⟩
  have hget : g'.store.keyChains.get (tenantId, id) = some kc := hkc
  refine ⟨congrArg Prod.snd (Table.get_key hget), (hl.rely _).trans ?_⟩
  have hanswer : ((keyServices w).answer (.keyChains (.findOne (tenantId, id))) g'.store).1 =
      some kc := hget
  rw [lastRead, System.after_trace, hanswer, List.findSome?_cons, chainRead, if_pos ⟨rfl, rfl⟩]

theorem safe_askKeys {kc : KeyChainEntity} (hg : (pins v).At tid r g)
    (hread : lastRead g tid k = some kc) (q : KeyQuestion) :
    (pins v).Safe tid (fun g' a => lastRead g' tid k = some kc ∧ ∃ n, w.answer n q = .ok a)
      (askKeys q) g := by
  refine Safe.keep (P := fun op => op = .ask q)
    (K := fun g' => lastRead g' tid k = some kc) hg ?_ (fun _ _ _ _ hop _ => hop ▸ trivial) hread
    (fun hl hold => (hl.rely k).trans hold) (fun hop hold => ?_) (yields_askKeys q)
  · exact Only.await rfl fun _ => only_ofExcept _
  · subst hop
    exact hold

/-- **A JWT is signed with the active key of the key chain that was read last.** -/
theorem safe_generateJwt (hg : (pins v).At tid r g) (tenantId keyChainId : String) (lote : LoTE) :
    (pins v).Safe tid (fun g' jwt => SignedBy v g' tid (tenantId, keyChainId) jwt)
      (TrustListService.generateJwt tenantId keyChainId lote) g := by
  have hcert : (pins v).Safe tid (fun _ cert => cert.id = keyChainId)
      (CertService.getCertificateById tenantId keyChainId) g :=
    (safe_getEntity tenantId keyChainId).bind hg fun _ _ _ _ h => fun _ _ => h.1
  refine hcert.bind hg fun cert g₁ _ hg₁ hid => ?_
  refine (safe_getEntity tenantId cert.id).bind hg₁ fun keyChain g₂ _ hg₂ hread => ?_
  refine (safe_askKeys hg₂ hread.2 _).bind hg₂ fun adapter g₃ _ hg₃ hadapter => ?_
  obtain ⟨hread₃, n, hresolved⟩ := hadapter
  refine (safe_askKeys hg₃ hread₃ _).imp hg₃ fun jwt g₄ _ _ hjwt => ?_
  obtain ⟨hread₄, m, hsigned⟩ := hjwt
  exact ⟨keyChain, hid ▸ hread₄, v.signed hresolved hsigned⟩

/-! ## Trust lists -/

theorem safe_createTrustList (hg : (pins v).At tid r g) (config : TrustListCreateDto)
    (tenantId tenantName : String) : (pins v).Safe tid (fun _ _ => True)
      (TrustListService.createTrustList config tenantId tenantName) g := by
  refine (safe_looks hg (looks_validateEntities _)).bind hg fun _ g₁ _ hg₁ _ => ?_
  refine (safe_looks hg₁ (looks_signingCert _ _ _)).bind hg₁ fun cert g₂ _ hg₂ _ => ?_
  refine (safe_looks hg₂ (looks_newListId _)).bind hg₂ fun id g₃ _ hg₃ _ => ?_
  refine (safe_looks hg₃ (looks_createEntities _ _)).bind hg₃ fun entries g₄ _ hg₄ _ => ?_
  refine (safe_looks hg₄ (p := keyNow) ⟨trivial, fun _ => trivial⟩).bind hg₄
    fun issuedAt g₅ _ hg₅ _ => ?_
  refine (safe_generateJwt hg₅ _ _ _).bind hg₅ fun jwt g₆ _ hg₆ hjwt => ?_
  -- nothing is read between the signing and the save
  obtain ⟨signer, hread, hsigned⟩ := hjwt
  intro g₇ hl _
  exact ⟨⟨signer, (hl.rely _).trans hread, hsigned⟩, fun _ _ => trivial⟩

theorem safe_publish {previous : TrustList}
    {changes : TrustListVersionChanges}
    (hsigned : SignedBy v g tid (previous.publish changes).keyChain changes.jwt) :
    (pins v).Safe tid (fun _ _ => True) (trustLists (.publishNextVersion previous changes)) g := by
  obtain ⟨signer, hread, hkey⟩ := hsigned
  exact Safe.invoke fun g' hl _ =>
    ⟨⟨signer, (hl.rely _).trans hread, hkey⟩, fun _ _ => trivial⟩

theorem safe_replaceTrustList (hg : (pins v).At tid r g) (config : TrustListCreateDto)
    (tenantId tenantName : String) (existing : TrustList) : (pins v).Safe tid (fun _ _ => True)
      (TrustListService.replaceTrustList config tenantId tenantName existing) g := by
  refine (safe_looks hg (looks_validateEntities _)).bind hg fun _ g₁ _ hg₁ _ => ?_
  refine (safe_looks hg₁ (looks_signingCert _ _ _)).bind hg₁ fun cert g₂ _ hg₂ _ => ?_
  refine (safe_looks hg₂ (looks_createEntities _ _)).bind hg₂ fun entries g₃ _ hg₃ _ => ?_
  refine (safe_looks hg₃ (p := keyNow) ⟨trivial, fun _ => trivial⟩).bind hg₃
    fun issuedAt g₄ _ hg₄ _ => ?_
  refine (safe_generateJwt hg₄ _ _ _).bind hg₄ fun jwt g₅ _ hg₅ hjwt => ?_
  refine Safe.bind (R := fun _ _ => True) hg₅ ?_ fun published g₆ _ hg₆ _ => ?_
  · exact safe_publish hjwt
  exact Safe.ensure fun _ => safe_looks hg₆ (looks_findOne _ _)

theorem safe_update (hg : (pins v).At tid r g) (tenantId id : String)
    (values : TrustListCreateDto) :
    (pins v).Safe tid (fun _ _ => True) (TrustListService.update tenantId id values) g := by
  refine (safe_looks hg (looks_findOne tenantId id)).bind hg fun existing g₁ _ hg₁ _ => ?_
  refine (safe_looks hg₁ (looks_askKeys _)).bind hg₁ fun tenantName g₂ _ hg₂ _ => ?_
  exact safe_replaceTrustList hg₂ values tenantId tenantName existing

theorem safe_renewDueTrustLists (hg : (pins v).At tid r g) :
    (pins v).Safe tid (fun _ _ => True) TrustListService.renewDueTrustLists g := by
  refine (safe_looks hg (p := keyNow) ⟨trivial, fun _ => trivial⟩).bind hg
    fun now g₁ _ hg₁ _ => ?_
  refine (safe_looks hg₁ (p := trustLists .find) ⟨trivial, fun _ => trivial⟩).bind hg₁
    fun lists g₂ _ hg₂ _ => ?_
  refine Safe.each (K := fun _ => True) hg₂ trivial (fun _ _ => trivial)
    fun trustList _ g₃ hg₃ _ => ?_
  unfold TrustListService.renewIfDue
  split
  · exact fun _ _ => trivial
  · split
    · have hrenew (lote : LoTE) : (pins v).Safe tid (fun _ _ => True)
          (TrustListService.renew trustList lote now) g₃ :=
        (safe_generateJwt hg₃ _ _ _).bind hg₃ fun _ _ _ _ hjwt => safe_publish hjwt
      exact (hrenew _).attempt.bind hg₃ fun _ _ _ _ _ => fun _ _ => trivial
    · exact fun _ _ => trivial

theorem safe_importTrustList (hg : (pins v).At tid r g) (updateExisting : Bool)
    (tenantId id : String) (config : TrustListCreateDto) : (pins v).Safe tid (fun _ _ => True)
      (TrustListService.importTrustList updateExisting tenantId id config) g := by
  refine (safe_looks hg (p := trustLists (.findOne (tenantId, id)))
    ⟨trivial, fun _ => trivial⟩).bind hg fun found g₁ _ hg₁ _ => ?_
  have hdelete : (pins v).Safe tid (fun _ _ => True)
      (onlyIf found.isSome () (trustLists (.delete (tenantId, id)))) g₁ := by
    cases found with
    | none => exact fun _ _ => trivial
    | some t => exact fun _ _ _ => ⟨trivial, fun _ _ => trivial⟩
  split
  · exact fun _ _ => trivial
  · refine hdelete.bind hg₁ fun _ g₂ _ hg₂ _ => ?_
    refine (safe_looks hg₂ (looks_askKeys _)).bind hg₂ fun _ g₃ _ hg₃ _ => ?_
    exact (safe_createTrustList hg₃ _ _ _).bind hg₃ fun _ _ _ _ _ => fun _ _ => trivial

theorem safe_applyTrustList (hg : (pins v).At tid r g) (tenantId id : String)
    (spec : TrustListCreateDto) : (pins v).Safe tid (fun _ _ => True)
      (TrustListService.applyTrustList tenantId id spec) g := by
  refine (safe_looks hg (looks_askKeys _)).bind hg fun _ g₁ _ hg₁ _ => ?_
  refine (safe_looks hg₁ (p := trustLists (.findOne (tenantId, id)))
    ⟨trivial, fun _ => trivial⟩).bind hg₁ fun found g₂ _ hg₂ _ => ?_
  split
  · exact (safe_update hg₂ _ _ _).bind hg₂ fun _ _ _ _ _ => fun _ _ => trivial
  · exact (safe_createTrustList hg₂ _ _ _).bind hg₂ fun _ _ _ _ _ => fun _ _ => trivial

theorem may_ofKeyChains (h : KeyCall.OfKeyChains op) : PinnedMay v g tid op := by
  cases op with
  | lists c => exact h.elim
  | _ => trivial

theorem may_ofSessions (h : KeyCall.OfSessions op) : PinnedMay v g tid op := by
  cases op with
  | lists c => exact may_of_looks h
  | _ => trivial

/-- **Every handler is safe.** -/
theorem pins_verified (v : LoTEVerification w) : (pins v).Verified := by
  intro g r _ _ hg
  have hdone {α : Type} {f : α → KeyAnswer} {p : KeyApi α}
      (h : (pins v).Safe g.requests.length (fun _ _ => True) p (g.arrive r)) :
      (pins v).Safe g.requests.length (fun _ _ => True) (answerWith f p) (g.arrive r) :=
    h.bind hg fun _ _ _ _ _ => fun _ _ => trivial
  cases r with
  | trustList r =>
    cases r with
    | create tenantId tenantName config => exact hdone (safe_createTrustList hg config _ _)
    | update tenantId id values => exact hdone (safe_update hg tenantId id values)
    | renewDue => exact hdone (safe_renewDueTrustLists hg)
    | importFile updateExisting tenantId id config =>
      exact hdone (safe_importTrustList hg updateExisting tenantId id config)
    | apply tenantId id spec => exact hdone (safe_applyTrustList hg tenantId id spec)
    | remove tenantId id => exact hdone fun _ _ _ => ⟨trivial, fun _ _ => trivial⟩
    | getJwt tenantId id =>
      exact hdone ((safe_looks hg (looks_findOne tenantId id)).bind hg fun _ _ _ _ _ =>
        fun _ _ => trivial)
    | getVerifierX509Der tenantId id =>
      refine hdone (safe_looks hg ?_)
      exact (looks_findOne tenantId id).bind fun _ => (looks_getCertificateById _ _).bind fun _ =>
        Only.require fun _ _ => trivial
  | keyChain r =>
    exact .of_only hg r.program_only fun _ _ _ _ h _ => may_ofKeyChains h
  | createOffer q =>
    exact hdone (.of_only hg (ofSessions_createOffer w q) fun _ _ _ _ h _ => may_ofSessions h)
  | processResponse sessionId encrypted =>
    exact hdone (.of_only hg (ofSessions_processResponse w sessionId encrypted)
      fun _ _ _ _ h _ => may_ofSessions h)

end PinnedCertificates

open PinnedCertificates

/-- **Every list verifies under its pinned certificate** in every state of every run that
starts without trust lists and keeps the pins. -/
theorem lists_verify (v : LoTEVerification w) (st : KeyStore) (hlists : st.lists = .empty)
    (ms : KeySchedule) (hkeeps : (keyServices w).Guarded (KeepsPins v) (.start st) ms) :
    ListsVerify v ((keyServices w).run (.start st) ms) := by
  have hstart : PinnedInv v ⟨st, [], []⟩ := by
    intro k row hrow
    rw [hlists] at hrow
    cases hrow
  have hholds := Discipline.run_holds (pins_verified v)
    (Discipline.holds_start (D := pins v) hstart) (fun _ _ => trivial) hkeeps
  exact listsVerify_of_inv hholds.inv

namespace PinnedCertificates

open KeyDeployment

/-- The certificates of the deployment are the keys they are for, its JWTs name their key. -/
def verification : LoTEVerification world where
  activeKey signing := signing.activeJwk.x
  certificateKey := some
  verifies := verifies
  signed {n m kc adapter lote keyId certificates jwt} hadapter hjwt der := by
    obtain rfl : adapter = ⟨"db", true⟩ := by simpa [world] using hadapter.symm
    simp only [world] at hjwt
    split at hjwt
    · rename_i hsigned
      obtain ⟨-, hkey⟩ := Bool.and_eq_true_iff.mp hsigned
      cases hjwt
      have hissued : (if lote.listAndSchemeInformation.listIssueDateTime != 0 then ['l']
          else []).filter (· == 'k') = [] := by split <;> rfl
      have hletters : (jwtOf lote (signerName (kc.ref ⟨"db", true⟩))).toList.filter (· == 'k') =
          (signerName (kc.ref ⟨"db", true⟩)).toList := by
        rw [jwtOf, String.toList_ofList, List.filter_append, List.filter_append, hissued,
          List.filter_eq_self.mpr fun c hc => List.all_eq_true.mp hkey c hc]
        simp
      rw [verifies, hletters, beq_iff_eq, Option.some_inj]
      exact String.toList_inj
    · cases hjwt

/-- A list is created, its certificate is written again, and it is updated and renewed. -/
def keptPins : KeySchedule :=
  serve 0 (.trustList (.create "tenant" "Tenant" listRequest)) 20 ++
    serve 1 (.keyChain (.update "tenant" "lists" { activeCertificate := some [keyName 1] })) 20 ++
    serve 2 (.trustList (.update "tenant" "list" listRequest)) 20 ++
    .drift late :: serve 3 (.trustList .renewDue) 20

def rotated : KeySchedule :=
  serve 0 (.trustList (.create "tenant" "Tenant" listRequest)) 20 ++
    serve 1 (.keyChain (.rotate "tenant" "lists")) 20

def leafFor (g : KeyState) (k : TenantKey) (read : Option KeyChainEntity) : Bool :=
  read.all fun signer =>
    (g.store.keyChains.get k).any fun kc => kc.leafDer == some signer.activeJwk.x

def keepsLeaf (g : KeyState) (k : TenantKey) (set : KeyChainEntity → KeyChainEntity) : Bool :=
  g.store.lists.rows.all fun t => t.keyChain != k ||
    (g.store.keyChains.get k).all fun kc => (keepingKey set kc).leafDer == kc.leafDer

def keepsPins (g : KeyState) (tid : Nat) : KeyCall → Bool
  | .lists (.save row) => leafFor g row.keyChain (lastRead g tid row.keyChain)
  | .lists (.publishNextVersion previous changes) =>
    (g.store.lists.get previous.key).all fun t =>
      leafFor g (t.publish changes).keyChain (lastRead g tid (previous.publish changes).keyChain)
  | .keyChains (.save row merge) => keepsLeaf g row.key merge
  | .keyChains (.update key set) => keepsLeaf g key set
  | _ => true

theorem leafFor_sound {read : Option KeyChainEntity} (h : leafFor g k read = true) :
    LeafFor verification g k read := by
  intro signer hread
  rw [hread, leafFor, Option.all_some] at h
  cases hget : g.store.keyChains.get k with
  | none =>
    rw [hget] at h
    cases h
  | some kc =>
    rw [hget] at h
    have hleaf : kc.leafDer = some signer.activeJwk.x := by simpa using h
    refine ⟨kc, rfl, ?_⟩
    rw [LoTEVerification.leafKey, hleaf]
    rfl

theorem keepsLeaf_sound {set : KeyChainEntity → KeyChainEntity} (h : keepsLeaf g k set = true) :
    KeepsLeaf verification g k set := by
  intro row hrow hk kc hkc
  have hkept := List.all_eq_true.mp h row hrow
  rw [hk, bne_self_eq_false, Bool.false_or, hkc] at hkept
  have hleaf : (keepingKey set kc).leafDer = kc.leafDer := by simpa using hkept
  rw [LoTEVerification.leafKey, LoTEVerification.leafKey, hleaf]

theorem keepsPins_sound (g : KeyState) (tid : Nat) (op : KeyCall)
    (h : keepsPins g tid op = true) : KeepsPins verification g tid op := by
  match op, h with
  | .lists (.save row), h => exact leafFor_sound h
  | .lists (.publishNextVersion previous changes), h =>
    intro row hrow _
    rw [keepsPins, hrow] at h
    exact leafFor_sound h
  | .keyChains (.save row merge), h => exact keepsLeaf_sound h
  | .keyChains (.update key set), h => exact keepsLeaf_sound h
  | .lists (.findOne _), _ => trivial
  | .lists .find, _ => trivial
  | .lists (.delete _), _ => trivial
  | .keyChains (.findOne _), _ => trivial
  | .keyChains (.findByUsageType ..), _ => trivial
  | .keyChains .findRotating, _ => trivial
  | .keyChains (.delete _), _ => trivial
  | .session _, _ => trivial
  | .now, _ => trivial
  | .uuid, _ => trivial
  | .ask _, _ => trivial

end PinnedCertificates

open KeyDeployment

theorem lists_verify_of_keptPins :
    ListsVerify verification ((keyServices world).run (.start tenantStore) keptPins) :=
  lists_verify verification tenantStore rfl keptPins
    (System.guarded_of_checks keepsPins_sound (by decide +kernel))

/-- **The claim fails**: after a rotation the stored JWT does not verify under the new leaf. -/
theorem not_lists_verify :
    ¬ListsVerify verification ((keyServices world).run (.start tenantStore) rotated) := by
  intro h
  have hserved : (((keyServices world).run (.start tenantStore) rotated).store.lists.get
      listKey).bind (fun row => (pinnedDer
        ((keyServices world).run (.start tenantStore) rotated).store row).map
          (verifies row.jwt)) = some false := by decide +kernel
  obtain ⟨row, hrow, hpinned⟩ := Option.bind_eq_some_iff.mp hserved
  obtain ⟨der', hder', hfalse⟩ := Option.map_eq_some_iff.mp hpinned
  obtain ⟨jwt, der, hjwt, hder, hverifies⟩ := h "tenant" "list" (Option.isSome_of_eq_some hrow)
  obtain rfl := text_unique hjwt (servesJwt hrow)
  obtain rfl := text_unique hder (servesX509Der hrow hder')
  exact Bool.noConfusion (hfalse.symm.trans hverifies)

end Eudiplo
