import Eudiplo.Concurrency.Order
import Eudiplo.Concurrency.RelyGuarantee
import Eudiplo.Keys.Footprint

/-!
# Do the versions of a trust list form one history?

An update and a renewal publish the next version with one compare-and-set, and keep the
replaced one.  A creation is a plain save: under an id that is taken it puts number one over
the published list and nothing of it is kept, and an import that overwrites deletes the list
with its history first (`not_one_history`).

`one_history` holds for every run in which a creation saves under an id nothing was published
under, and no list with a history is deleted.
-/

namespace Eudiplo

open Concurrency Prog Discipline Storage

/-! ## The claim -/

abbrev KeyEvent := Event KeyCall.Reply

/-- **The versions published** under a key, newest first. -/
def published (k : TenantKey) : List KeyEvent → List TrustList
  | [] => []
  | ⟨_, .lists (.save row), _⟩ :: older =>
    if row.key = k then row :: published k older else published k older
  | ⟨_, .lists (.publishNextVersion previous changes), true⟩ :: older =>
    if previous.key = k then previous.publish changes :: published k older
    else published k older
  | _ :: older => published k older

/-- `signLoTE` signs the list it is given: the payload of the JWT is the list. -/
structure LoTESignatures (w : KeyWorld) where
  payload : String → Option LoTE
  signed : ∀ {n lote keyId adapter signer certificates jwt},
    w.answer n (.signLoTE lote keyId adapter signer certificates) = .ok jwt →
      payload jwt = some lote

variable {w : KeyWorld}

/-- **Number, content and JWT of a list agree.** -/
def LoTESignatures.Agrees (s : LoTESignatures w) (t : TrustList) : Prop :=
  ∃ lote, t.data = some (.document lote) ∧
    lote.listAndSchemeInformation.loTESequenceNumber = t.sequenceNumber ∧
    s.payload t.jwt = some lote

/-- `n, …, 2, 1`. -/
def countdown : Nat → List Nat
  | 0 => []
  | n + 1 => (n + 1) :: countdown n

/-- A renewal publishes the entities of the version it replaces. -/
def Renews (previous : TrustList) (changes : TrustListVersionChanges) : Prop :=
  changes.entityConfig = none ∧ ∃ lote renewed, storedLoTE previous.data = some lote ∧
    changes.data = .document renewed ∧
    renewed.trustedEntitiesList = lote.trustedEntitiesList

/-- **The versions form one history** in a state of a run: the published numbers are
`1, 2, …`, what is stored is the newest version, the replaced ones are the version history,
each once, a version replaces the one it was made from, renewals keep the entities, and what
was published agrees with itself. -/
structure OneHistory (s : LoTESignatures w) (c : KeyConfig) : Prop where
  numbered : ∀ k, (published k c.trace).map (·.sequenceNumber) =
    countdown (published k c.trace).length
  current : ∀ k t, c.store.lists.get k = some t → (published k c.trace).head? = some t
  history : ∀ k, c.store.versions.filter (·.key == k) =
    (published k c.trace).tail.map TrustList.version
  replaced : ∀ newer older t previous changes,
    c.trace = newer ++ ⟨t, .lists (.publishNextVersion previous changes), true⟩ :: older →
      (published previous.key older).head? = some previous
  renewed : ∀ t previous changes,
    c.global.Made t (.lists (.publishNextVersion previous changes)) true →
      c.global.requests[t]? = some (.trustList .renewDue) → Renews previous changes
  agrees : ∀ k t, t ∈ published k c.trace → s.Agrees t

/-- **The condition**: a creation saves under an id nothing was published under, and a list
that has a version history is not deleted, also not with its key chain. -/
def KeepsHistory (g : KeyState) (_ : Nat) : KeyCall → Prop
  | .lists (.save row) => published row.key g.trace = []
  | .lists (.delete key) => ∀ v ∈ g.store.versions, v.key ≠ key
  | .keyChains (.delete key) => ∀ t ∈ g.store.lists.rows, t.keyChain = key →
    ∀ v ∈ g.store.versions, v.key ≠ t.key
  | _ => True

namespace TrustListVersions

variable {s : LoTESignatures w} {g g' : KeyState} {tid : Nat} {op : KeyCall}

/-! ## Numbers -/

theorem nodup_countdown (n : Nat) : (countdown n).Nodup := by
  have hle (n m : Nat) (h : m ∈ countdown n) : m ≤ n := by
    induction n with
    | zero => cases h
    | succ n ih =>
      rcases List.mem_cons.mp h with rfl | h
      · exact Nat.le_refl _
      · exact Nat.le_succ_of_le (ih h)
  induction n with
  | zero => exact List.nodup_nil
  | succ n ih =>
    refine List.nodup_cons.mpr ⟨fun h => ?_, ih⟩
    have := hle n _ h
    omega

theorem version_unique {l : List TrustList} (hnum : l.map (·.sequenceNumber) = countdown l.length)
    {t t' : TrustList} (ht : t ∈ l) (ht' : t' ∈ l)
    (hsame : t.sequenceNumber = t'.sequenceNumber) : t = t' := by
  have hnodup : (l.map (·.sequenceNumber)).Nodup := hnum ▸ nodup_countdown _
  exact List.inj_on_of_nodup_map hnodup ht ht' hsame

theorem number_of_head {l : List TrustList}
    (hnum : l.map (·.sequenceNumber) = countdown l.length) {t : TrustList}
    (ht : l.head? = some t) : t.sequenceNumber = l.length := by
  cases l with
  | nil => cases ht
  | cons t' l =>
    cases ht
    simpa [countdown] using (List.cons.inj hnum).1

/-! ## What is read and published -/

/-- Thread `t` read this row. -/
def ReadsList (g : KeyState) (t : Nat) (row : TrustList) : Prop :=
  g.Made t (.lists (.findOne row.key)) (some row) ∨
    ∃ rows, g.Made t (.lists .find) rows ∧ row ∈ rows

theorem ReadsList.extends {t : Nat} {row : TrustList} (h : ReadsList g t row)
    (hext : g.Extends g') : ReadsList g' t row := by
  rcases h with h | ⟨rows, h, hmem⟩
  · exact .inl (h.extends hext)
  · exact .inr ⟨rows, h.extends hext, hmem⟩

/-- The next version of a list: the next number, in its content and in the JWT. -/
def Next (s : LoTESignatures w) (previous : TrustList) (changes : TrustListVersionChanges) : Prop :=
  changes.sequenceNumber = orOne previous.sequenceNumber + 1 ∧
    ∃ lote, changes.data = .document lote ∧
      lote.listAndSchemeInformation.loTESequenceNumber = changes.sequenceNumber ∧
      s.payload changes.jwt = some lote

/-- **What a thread may write**: a first version, or the next one of a list it read. -/
def VersionMay (s : LoTESignatures w) (g : KeyState) (tid : Nat) : KeyCall → Prop
  | .lists (.save row) => row.sequenceNumber = 1 ∧ s.Agrees row
  | .lists (.publishNextVersion previous changes) => ReadsList g tid previous ∧
    Next s previous changes ∧
    (g.requests[tid]? = some (.trustList .renewDue) → Renews previous changes)
  | _ => True

/-- **The invariant** between any two calls. -/
structure VersionInv (s : LoTESignatures w) (g : KeyState) : Prop where
  numbered : ∀ k, (published k g.trace).map (·.sequenceNumber) =
    countdown (published k g.trace).length
  current : ∀ k t, g.store.lists.get k = some t → (published k g.trace).head? = some t
  history : ∀ k, g.store.versions.filter (·.key == k) =
    (published k g.trace).tail.map TrustList.version
  replaced : ∀ newer older t previous changes,
    g.trace = newer ++ ⟨t, .lists (.publishNextVersion previous changes), true⟩ :: older →
      (published previous.key older).head? = some previous
  renewed : ∀ t previous changes, g.Made t (.lists (.publishNextVersion previous changes)) true →
    g.requests[t]? = some (.trustList .renewDue) → Renews previous changes
  agrees : ∀ k t, t ∈ published k g.trace → s.Agrees t
  read : ∀ t row, ReadsList g t row → row ∈ published row.key g.trace

/-! ## One call -/

/-- A call that publishes nothing and keeps the version history. -/
structure Keeps (g : KeyState) (tid : Nat) (op : KeyCall) : Prop where
  published : ∀ k, published k ((keyServices w).after g tid op).trace = published k g.trace
  current : ∀ k t, ((keyServices w).after g tid op).store.lists.get k = some t →
    g.store.lists.get k = some t
  versions : ((keyServices w).after g tid op).store.versions = g.store.versions
  quiet : ∀ previous changes, op ≠ .lists (.publishNextVersion previous changes) ∨
    HEq ((keyServices w).answer op g.store).1 false

theorem keeps_deleteLists (st : KeyStore) (p : TrustList → Bool)
    (h : ∀ t ∈ st.lists.rows, p t = true → ∀ v ∈ st.versions, v.key ≠ t.key) :
    (∀ k t, (st.deleteLists p).lists.get k = some t → st.lists.get k = some t) ∧
      (st.deleteLists p).versions = st.versions := by
  constructor
  · intro k t ht
    have hget := (Table.get_deleteWhere st.lists p k).symm.trans ht
    exact (Option.filter_eq_some_iff.mp hget).1
  · refine List.filter_eq_self.mpr fun v hv => ?_
    cases hget : st.lists.get v.key with
    | none => rfl
    | some t =>
      obtain ⟨hmem, hkey⟩ := Table.get_eq_some.mp hget
      cases hp : p t with
      | false => simp [hp]
      | true => exact absurd hkey.symm (h t hmem hp v hv)

/-- **What a call does to the versions**: it saves a list, publishes the next version of the
stored one, or keeps them. -/
theorem step_cases (hok : KeepsHistory g tid op) :
    (∃ row, op = .lists (.save row)) ∨
    (∃ previous changes, op = .lists (.publishNextVersion previous changes) ∧
      0 < g.store.lists.count (unchangedSince previous)) ∨ Keeps (w := w) g tid op := by
  cases op with
  | keyChains c =>
    refine .inr (.inr ?_)
    cases c with
    | delete key =>
      obtain ⟨hcurrent, hversions⟩ := keeps_deleteLists g.store (·.keyChain == key)
        fun t ht hp => hok t ht (by simpa using hp)
      exact ⟨fun _ => rfl, hcurrent, hversions, fun _ _ => .inl nofun⟩
    | _ => exact ⟨fun _ => rfl, fun _ _ h => h, rfl, fun _ _ => .inl nofun⟩
  | lists c =>
    cases c with
    | save row => exact .inl ⟨row, rfl⟩
    | publishNextVersion previous changes =>
      by_cases hcount : 0 < g.store.lists.count (unchangedSince previous)
      · exact .inr (.inl ⟨previous, changes, rfl, hcount⟩)
      · have hanswer : (keyServices w).answer (.lists (.publishNextVersion previous changes))
            g.store = (false, g.store) := if_neg hcount
        refine .inr (.inr ⟨fun k => ?_, fun k t h => ?_, ?_, fun _ _ => .inr ?_⟩)
        · rw [System.after_trace, hanswer]
          rfl
        · rwa [System.after_store, hanswer] at h
        · rw [System.after_store, hanswer]
        · rw [hanswer]
    | delete key =>
      obtain ⟨hcurrent, hversions⟩ := keeps_deleteLists g.store (·.key == key)
        fun t _ hp v hv => by
          have hkey : t.key = key := by simpa using hp
          exact hkey ▸ hok v hv
      exact .inr (.inr ⟨fun _ => rfl, hcurrent, hversions, fun _ _ => .inl nofun⟩)
    | findOne key => exact .inr (.inr ⟨fun _ => rfl, fun _ _ h => h, rfl, fun _ _ => .inl nofun⟩)
    | find => exact .inr (.inr ⟨fun _ => rfl, fun _ _ h => h, rfl, fun _ _ => .inl nofun⟩)
  | session c => exact .inr (.inr ⟨fun _ => rfl, fun _ _ h => h, rfl, fun _ _ => .inl nofun⟩)
  | now => exact .inr (.inr ⟨fun _ => rfl, fun _ _ h => h, rfl, fun _ _ => .inl nofun⟩)
  | uuid => exact .inr (.inr ⟨fun _ => rfl, fun _ _ h => h, rfl, fun _ _ => .inl nofun⟩)
  | ask q => exact .inr (.inr ⟨fun _ => rfl, fun _ _ h => h, rfl, fun _ _ => .inl nofun⟩)

/-- **A compare-and-set that succeeds finds the version it was made from.** -/
theorem stored_previous (hinv : VersionInv s g) {previous : TrustList}
    (hread : ReadsList g tid previous)
    (hcount : 0 < g.store.lists.count (unchangedSince previous)) :
    g.store.lists.get previous.key = some previous ∧
      (published previous.key g.trace).head? = some previous := by
  obtain ⟨stored, hmem, hsince⟩ := List.countP_pos_iff.mp hcount
  obtain ⟨hkey, hnumber⟩ : stored.key = previous.key ∧
      stored.sequenceNumber = previous.sequenceNumber := by simpa [unchangedSince] using hsince
  have hget : g.store.lists.get previous.key = some stored := by
    rw [← hkey]
    exact Table.get_of_mem hmem
  have hhead := hinv.current _ _ hget
  obtain rfl : stored = previous :=
    version_unique (hinv.numbered _) (List.mem_of_mem_head? hhead) (hinv.read _ _ hread) hnumber
  exact ⟨hget, hhead⟩

theorem Keeps.not_published (h : Keeps (w := w) g tid op) {t : Nat} {previous : TrustList}
    {changes : TrustListVersionChanges}
    (heq : (⟨tid, op, ((keyServices w).answer op g.store).1⟩ : KeyEvent) =
      ⟨t, .lists (.publishNextVersion previous changes), true⟩) : False := by
  injection heq with _ hop hres
  rcases h.quiet previous changes with hne | hfalse
  · exact hne hop
  · subst hop
    cases (eq_of_heq (hfalse.symm.trans hres) : false = true)

theorem reads_after {t : Nat} {row : TrustList}
    (h : ReadsList ((keyServices w).after g tid op) t row) :
    ReadsList g t row ∨ g.store.lists.get row.key = some row := by
  rcases h with h | ⟨rows, h, hmem⟩
  · rcases List.mem_cons.mp h with heq | hold
    · injection heq with _ hop hres
      subst hop
      exact .inr (eq_of_heq hres).symm
    · exact .inl (.inl hold)
  · rcases List.mem_cons.mp h with heq | hold
    · injection heq with _ hop hres
      subst hop
      cases eq_of_heq hres
      exact .inr (Table.get_of_mem hmem)
    · exact .inl (.inr ⟨rows, hold, hmem⟩)

theorem read_published (hinv : VersionInv s g)
    (hgrow : ∀ k row, row ∈ published k g.trace →
      row ∈ published k ((keyServices w).after g tid op).trace) {t : Nat} {row : TrustList}
    (h : ReadsList ((keyServices w).after g tid op) t row) :
    row ∈ published row.key ((keyServices w).after g tid op).trace := by
  rcases reads_after h with hread | hstored
  · exact hgrow _ _ (hinv.read t row hread)
  · exact hgrow _ _ (List.mem_of_mem_head? (hinv.current _ _ hstored))

/-- **A call that keeps the versions** keeps the invariant. -/
theorem inv_keeps (hinv : VersionInv s g) (h : Keeps (w := w) g tid op) :
    VersionInv s ((keyServices w).after g tid op) where
  numbered k := by
    rw [h.published k]
    exact hinv.numbered k
  current k t ht := by
    rw [h.published k]
    exact hinv.current k t (h.current k t ht)
  history k := by
    rw [h.published k, h.versions]
    exact hinv.history k
  replaced newer older t previous changes htrace := by
    cases newer with
    | nil => exact (h.not_published (List.cons.inj htrace).1).elim
    | cons e newer => exact hinv.replaced newer older t previous changes (List.cons.inj htrace).2
  renewed t previous changes hmade hreq := by
    rcases List.mem_cons.mp hmade with heq | hold
    · exact (h.not_published heq.symm).elim
    · exact hinv.renewed t previous changes hold hreq
  agrees k t ht := hinv.agrees k t (h.published k ▸ ht)
  read t row hrow := read_published hinv (fun k row hrow => (h.published k).symm ▸ hrow) hrow

structure Adds (g : KeyState) (tid : Nat) (op : KeyCall) (row : TrustList) : Prop where
  stored : ∀ k, ((keyServices w).after g tid op).store.lists.get k =
    if row.key = k then some row else g.store.lists.get k
  publishes : ∀ k, published k ((keyServices w).after g tid op).trace =
    if row.key = k then row :: published k g.trace else published k g.trace

theorem Adds.numbered {row : TrustList} (h : Adds (w := w) g tid op row) (hinv : VersionInv s g)
    (hnumber : row.sequenceNumber = (published row.key g.trace).length + 1) (k : TenantKey) :
    (published k ((keyServices w).after g tid op).trace).map (·.sequenceNumber) =
      countdown (published k ((keyServices w).after g tid op).trace).length := by
  rw [h.publishes]
  split
  · rename_i hk
    subst hk
    rw [List.map_cons, hinv.numbered, List.length_cons, hnumber]
    rfl
  · exact hinv.numbered k

theorem Adds.current {row t : TrustList} {k : TenantKey} (h : Adds (w := w) g tid op row)
    (hinv : VersionInv s g) (ht : ((keyServices w).after g tid op).store.lists.get k = some t) :
    (published k ((keyServices w).after g tid op).trace).head? = some t := by
  rw [h.stored] at ht
  rw [h.publishes]
  split at ht
  · rename_i hk
    rw [if_pos hk]
    exact ht
  · rename_i hk
    rw [if_neg hk]
    exact hinv.current k t ht

theorem Adds.agrees {row : TrustList} (h : Adds (w := w) g tid op row) (hinv : VersionInv s g)
    (hagrees : s.Agrees row) {k : TenantKey} {t : TrustList}
    (ht : t ∈ published k ((keyServices w).after g tid op).trace) : s.Agrees t := by
  rw [h.publishes] at ht
  split at ht
  · rcases List.mem_cons.mp ht with rfl | hold
    · exact hagrees
    · exact hinv.agrees k t hold
  · exact hinv.agrees k t ht

theorem Adds.read {row row' : TrustList} {t : Nat} (h : Adds (w := w) g tid op row)
    (hinv : VersionInv s g) (hread : ReadsList ((keyServices w).after g tid op) t row') :
    row' ∈ published row'.key ((keyServices w).after g tid op).trace := by
  refine read_published hinv (fun k row' hrow' => ?_) hread
  rw [h.publishes]
  split
  · exact List.mem_cons_of_mem _ hrow'
  · exact hrow'

theorem adds_save (hinv : VersionInv s g) {row : TrustList}
    (hok : published row.key g.trace = []) :
    Adds (w := w) g tid (.lists (.save row)) row := by
  -- what is stored is the last version that was published, and here there is none
  have hnone : g.store.lists.get row.key = none := by
    cases hget : g.store.lists.get row.key with
    | none => rfl
    | some t =>
      have hhead := hinv.current _ _ hget
      rw [hok] at hhead
      cases hhead
  refine ⟨fun k => ?_, fun k => rfl⟩
  refine (Table.get_upsert g.store.lists row (mergeTrustList row)
    (fun _ => rfl) k).trans ?_
  by_cases hk : row.key = k
  · subst hk
    rw [hnone]
    rfl
  · rw [if_neg hk, if_neg hk]

/-- **A first version** keeps the invariant. -/
theorem inv_save (hinv : VersionInv s g) {row : TrustList}
    (hok : published row.key g.trace = []) (hnumber : row.sequenceNumber = 1)
    (hagrees : s.Agrees row) :
    VersionInv s ((keyServices w).after g tid (.lists (.save row))) := by
  have hadds : Adds (w := w) g tid (.lists (.save row)) row := adds_save hinv hok
  refine ⟨hadds.numbered hinv (by rw [hok, hnumber]; rfl), fun k t => hadds.current hinv,
    fun k => ?_, fun newer older t previous changes htrace => ?_,
    fun t previous changes hmade => ?_, fun k t => hadds.agrees hinv hagrees,
    fun t row' => hadds.read hinv⟩
  · refine (hinv.history k).trans ?_
    rw [hadds.publishes]
    split
    · rename_i hk
      rw [← hk, hok]
      rfl
    · rfl
  · cases newer with
    | nil => injection (List.cons.inj htrace).1 with _ hop; cases hop
    | cons e newer => exact hinv.replaced newer older t previous changes (List.cons.inj htrace).2
  · rcases List.mem_cons.mp hmade with heq | hold
    · injection heq with _ hop
      cases hop
    · exact hinv.renewed t previous changes hold

theorem answer_publish {previous : TrustList} {changes : TrustListVersionChanges}
    (hcount : 0 < g.store.lists.count (unchangedSince previous)) :
    (keyServices w).answer (.lists (.publishNextVersion previous changes)) g.store =
      (true, { g.store with
        lists := g.store.lists.updateWhere (unchangedSince previous) (·.publish changes)
          fun _ => rfl
        versions := previous.version :: g.store.versions }) := if_pos hcount

theorem adds_publish {previous : TrustList} {changes : TrustListVersionChanges}
    (hstored : g.store.lists.get previous.key = some previous)
    (hcount : 0 < g.store.lists.count (unchangedSince previous)) :
    Adds (w := w) g tid (.lists (.publishNextVersion previous changes))
      (previous.publish changes) := by
  refine ⟨fun k => ?_, fun k => ?_⟩
  · rw [System.after_store, answer_publish hcount]
    refine (Table.get_updateWhere g.store.lists (unchangedSince previous)
      (·.publish changes) (fun _ => rfl) k).trans ?_
    show _ = if previous.key = k then _ else _
    by_cases hk : previous.key = k
    · subst hk
      rw [hstored, if_pos rfl, Option.map_some, if_pos (by simp [unchangedSince])]
    · rw [if_neg hk]
      cases hrow : g.store.lists.get k with
      | none => rfl
      | some row =>
        have hkey : row.key ≠ previous.key := fun he => hk (he ▸ Table.get_key hrow)
        rw [Option.map_some, if_neg (by simp [unchangedSince, hkey])]
  · rw [System.after_trace, answer_publish hcount]
    rfl

/-- **The next version** keeps the invariant. -/
theorem inv_publish (hinv : VersionInv s g) {previous : TrustList}
    {changes : TrustListVersionChanges}
    (hmay : VersionMay s g tid (.lists (.publishNextVersion previous changes)))
    (hcount : 0 < g.store.lists.count (unchangedSince previous)) :
    VersionInv s ((keyServices w).after g tid (.lists (.publishNextVersion previous changes))) := by
  obtain ⟨hread, ⟨hnumber, lote, hdata, hlote, hjwt⟩, hrenews⟩ := hmay
  -- the row has not changed since it was read, so it is still the newest version
  obtain ⟨hstored, hhead⟩ := stored_previous hinv hread hcount
  obtain ⟨rest, hrest⟩ : ∃ rest, published previous.key g.trace = previous :: rest :=
    List.head?_eq_some_iff.mp hhead
  have hadds : Adds (w := w) g tid (.lists (.publishNextVersion previous changes))
      (previous.publish changes) := adds_publish hstored hcount
  have hnext : changes.sequenceNumber = (published previous.key g.trace).length + 1 := by
    have hlen := number_of_head (hinv.numbered _) hhead
    -- versions count from one, so the default of a missing number is not used
    have hpos : previous.sequenceNumber ≠ 0 := by
      rw [hlen, hrest, List.length_cons]
      exact Nat.succ_ne_zero _
    rw [hnumber, orOne, if_neg (by simpa using hpos), hlen]
  refine ⟨hadds.numbered hinv hnext, fun k t => hadds.current hinv, fun k => ?_,
    fun newer older t previous' changes' htrace => ?_,
    fun t previous' changes' hmade hreq => ?_,
    fun k t => hadds.agrees hinv ⟨lote, congrArg some hdata, hlote, hjwt⟩,
    fun t row => hadds.read hinv⟩
  · rw [hadds.publishes, System.after_store, answer_publish hcount]
    have hold := hinv.history k
    show (previous.version :: g.store.versions).filter _ =
      (if previous.key = k then _ else _ : List TrustList).tail.map _
    by_cases hk : previous.key = k
    · subst hk
      rw [if_pos rfl, List.tail_cons, hrest, List.map_cons,
        List.filter_cons_of_pos (by simp), hold, hrest]
      rfl
    · rw [if_neg hk, List.filter_cons_of_neg (by simpa using hk), hold]
  · cases newer with
    | nil =>
      obtain ⟨heq, htail⟩ := List.cons.inj htrace
      injection heq with _ hop
      cases hop
      exact htail ▸ hhead
    | cons e newer => exact hinv.replaced newer older t _ _ (List.cons.inj htrace).2
  · rcases List.mem_cons.mp hmade with heq | hold
    · injection heq with htid hop
      subst htid
      cases hop
      exact hrenews hreq
    · exact hinv.renewed t _ _ hold hreq

/-- **One call keeps the invariant.** -/
theorem inv_after (hinv : VersionInv s g) (hok : KeepsHistory g tid op)
    (hmay : VersionMay s g tid op) : VersionInv s ((keyServices w).after g tid op) := by
  rcases step_cases hok with ⟨row, rfl⟩ | ⟨previous, changes, rfl, hcount⟩ | hkeeps
  · exact inv_save hinv hok hmay.1 hmay.2
  · exact inv_publish hinv hmay hcount
  · exact inv_keeps hinv hkeeps

/-! ## The discipline -/

/-- **The discipline of the versions.** -/
def versions (s : LoTESignatures w) : Discipline (keyServices w) where
  inv g := VersionInv s g ∧ g.Numbered
  rely _ _ _ := True
  admits := KeepsHistory
  may := VersionMay s
  allowed _ := True
  post _ _ _ _ := True
  rely_refl _ _ := trivial
  rely_trans _ _ := trivial
  step hinv hr hok hmay := ⟨⟨inv_after hinv.1 hok hmay, hinv.2.after hr⟩, fun _ _ => trivial⟩
  arrive {g r} hinv _ := by
    refine ⟨⟨⟨hinv.1.numbered, hinv.1.current, hinv.1.history, hinv.1.replaced,
      fun t previous changes hmade hreq => ?_, hinv.1.agrees, hinv.1.read⟩, hinv.2.arrive r⟩,
      fun _ _ => trivial⟩
    -- the publishing thread is not the new one
    have hlt : t < g.requests.length := hinv.2 _ hmade
    refine hinv.1.renewed t previous changes hmade ?_
    rwa [Global.arrive, List.getElem?_append_left hlt] at hreq
  pass _ hinv := ⟨⟨⟨hinv.1.numbered, hinv.1.current, hinv.1.history, hinv.1.replaced,
    hinv.1.renewed, hinv.1.agrees, hinv.1.read⟩, hinv.2⟩, fun _ => trivial⟩

variable {r : KeyRequest}

theorem may_of_looks (h : KeyCall.Looks op) : VersionMay s g tid op := by
  cases op with
  | lists c => cases c <;> trivial
  | _ => trivial

theorem safe_looks {α : Type} {p : KeyApi α} (hg : (versions s).At tid r g)
    (hp : p.Only KeyCall.Looks) : (versions s).Safe tid (fun _ _ => True) p g :=
  .of_only hg hp fun _ _ _ _ h _ => may_of_looks h

theorem safe_generateJwt (hg : (versions s).At tid r g) (tenantId keyChainId : String)
    (lote : LoTE) : (versions s).Safe tid (fun _ jwt => s.payload jwt = some lote)
      (TrustListService.generateJwt tenantId keyChainId lote) g := by
  refine .of_yields hg (looks_generateJwt tenantId keyChainId lote)
    (fun _ _ _ _ h _ => may_of_looks h) ?_
  refine System.Yields.skip fun cert _ _ => System.Yields.skip fun keyChain _ _ =>
    System.Yields.skip fun adapter g' _ => ?_
  have hsigned : (keyServices w).Yields tid (fun _ jwt => ∃ n, w.answer n
      (.signLoTE lote cert.id adapter (keyChain.ref adapter) cert.crt) = .ok jwt)
      (askKeys (.signLoTE lote cert.id adapter (keyChain.ref adapter) cert.crt)) g' :=
    yields_askKeys _
  exact hsigned.imp fun _ _ _ ⟨_, hanswer⟩ => s.signed hanswer

theorem safe_findOne (tenantId id : String) :
    (versions s).Safe tid (fun g' t => ReadsList g' tid t)
      (TrustListService.findOne tenantId id) g := by
  intro g' _ _
  refine ⟨trivial, Safe.require fun t ht g'' hl' => .inl ?_⟩
  have hget : g'.store.lists.get (tenantId, id) = some t := ht
  have hmade := (System.after_made (M := keyServices w) g' tid
    (.lists (.findOne (tenantId, id)))).extends hl'.hist
  have hkey := Table.get_key hget
  rw [hkey]
  exact ht ▸ hmade

theorem safe_save {row : TrustList} (hnumber : row.sequenceNumber = 1) (hagrees : s.Agrees row) :
    (versions s).Safe tid (fun _ _ => True) (trustLists (.save row)) g :=
  Safe.invoke fun _ _ _ => ⟨⟨hnumber, hagrees⟩, fun _ _ => trivial⟩

theorem safe_publish (hg : (versions s).At tid r g) {previous : TrustList}
    {changes : TrustListVersionChanges} (hread : ReadsList g tid previous)
    (hnext : Next s previous changes)
    (hrenews : r = .trustList .renewDue → Renews previous changes) :
    (versions s).Safe tid (fun _ _ => True)
      (trustLists (.publishNextVersion previous changes)) g := by
  refine Safe.invoke fun g' hl _ => ⟨⟨hread.extends hl.hist, hnext, fun hreq => ?_⟩,
    fun _ _ => trivial⟩
  exact hrenews (Option.some.inj ((hg.later hl).request.symm.trans hreq))

/-- **A new list.** -/
theorem safe_createTrustList (hg : (versions s).At tid r g) (config : TrustListCreateDto)
    (tenantId tenantName : String) : (versions s).Safe tid (fun _ _ => True)
      (TrustListService.createTrustList config tenantId tenantName) g := by
  refine (safe_looks hg (looks_validateEntities _)).bind hg fun _ g₁ _ hg₁ _ => ?_
  refine (safe_looks hg₁ (looks_signingCert ..)).bind hg₁ fun cert g₂ _ hg₂ _ => ?_
  refine (safe_looks hg₂ (looks_newListId _)).bind hg₂ fun id g₃ _ hg₃ _ => ?_
  refine (safe_looks hg₃ (looks_createEntities ..)).bind hg₃ fun entries g₄ _ hg₄ _ => ?_
  refine (safe_looks hg₄ (p := keyNow) ⟨trivial, fun _ => trivial⟩).bind hg₄
    fun issuedAt g₅ _ hg₅ _ => ?_
  refine (safe_generateJwt hg₅ _ _ _).bind hg₅ fun jwt g₆ _ hg₆ hjwt => ?_
  exact (safe_save rfl ⟨_, rfl, rfl, hjwt⟩).bind hg₆ fun _ _ _ _ _ => fun _ _ => trivial

/-- **The next version of a list that was read.** -/
theorem safe_replaceTrustList (hg : (versions s).At tid r g) (hr : r ≠ .trustList .renewDue)
    (config : TrustListCreateDto) (tenantId tenantName : String) {existing : TrustList}
    (hread : ReadsList g tid existing) : (versions s).Safe tid (fun _ _ => True)
      (TrustListService.replaceTrustList config tenantId tenantName existing) g := by
  refine (safe_looks hg (looks_validateEntities _)).bind hg fun _ g₁ h₁ hg₁ _ => ?_
  refine (safe_looks hg₁ (looks_signingCert ..)).bind hg₁ fun cert g₂ h₂ hg₂ _ => ?_
  refine (safe_looks hg₂ (looks_createEntities ..)).bind hg₂ fun entries g₃ h₃ hg₃ _ => ?_
  refine (safe_looks hg₃ (p := keyNow) ⟨trivial, fun _ => trivial⟩).bind hg₃
    fun issuedAt g₄ h₄ hg₄ _ => ?_
  refine (safe_generateJwt hg₄ _ _ _).bind hg₄ fun jwt g₅ h₅ hg₅ hjwt => ?_
  have hread₅ := hread.extends ((((h₁.trans h₂).trans h₃).trans h₄).trans h₅)
  refine (safe_publish hg₅ hread₅ ⟨rfl, _, rfl, rfl, hjwt⟩ fun heq => absurd heq hr).bind hg₅
    fun published g₆ _ hg₆ _ => ?_
  exact Safe.ensure fun _ => safe_looks hg₆ (looks_findOne ..)

theorem safe_update (hg : (versions s).At tid r g) (hr : r ≠ .trustList .renewDue)
    (tenantId id : String) (values : TrustListCreateDto) :
    (versions s).Safe tid (fun _ _ => True) (TrustListService.update tenantId id values) g := by
  refine (safe_findOne tenantId id).bind hg fun existing g₁ _ hg₁ hread => ?_
  refine (safe_looks hg₁ (looks_askKeys _)).bind hg₁ fun tenantName g₂ h₂ hg₂ _ => ?_
  exact safe_replaceTrustList hg₂ hr values tenantId tenantName (hread.extends h₂)

/-- **The renewal of a list that was read.** -/
theorem safe_renew (hg : (versions s).At tid r g) {trustList : TrustList} {lote : LoTE} (now : Time)
    (hread : ReadsList g tid trustList) (hlote : storedLoTE trustList.data = some lote) :
    (versions s).Safe tid (fun _ _ => True) (TrustListService.renew trustList lote now) g := by
  refine (safe_generateJwt hg _ _ _).bind hg fun jwt g₁ h₁ hg₁ hjwt => ?_
  exact safe_publish hg₁ (hread.extends h₁) ⟨rfl, _, rfl, rfl, hjwt⟩ fun _ =>
    ⟨rfl, lote, _, hlote, rfl, rfl⟩

/-- **The renewal job**: every list it renews is one it read. -/
theorem safe_renewDueTrustLists (hg : (versions s).At tid r g) :
    (versions s).Safe tid (fun _ _ => True) TrustListService.renewDueTrustLists g := by
  refine (safe_looks hg (p := keyNow) ⟨trivial, fun _ => trivial⟩).bind hg
    fun now g₁ _ hg₁ _ => ?_
  have hfind : (versions s).Safe tid (fun g' rows => ∀ t ∈ rows, ReadsList g' tid t)
      (trustLists .find) g₁ :=
    Safe.invoke fun g' _ _ => ⟨trivial, fun g'' hl' t ht =>
      .inr ⟨_, (System.after_made g' tid _).extends hl'.hist, ht⟩⟩
  refine hfind.bind hg₁ fun rows g₂ _ hg₂ hread => ?_
  refine Safe.imp hg₂ (Q := fun g' _ => ∀ t ∈ rows, ReadsList g' tid t) ?_
    fun _ _ _ _ _ => trivial
  refine Safe.each hg₂ hread (fun hl hK t ht => (hK t ht).extends hl.hist) ?_
  intro t ht g₃ hg₃ hread₃
  unfold TrustListService.renewIfDue
  have hkeep {g g' : KeyState} (hext : g.Extends g') (hK : ∀ t ∈ rows, ReadsList g tid t) :
      ∀ t ∈ rows, ReadsList g' tid t := fun t ht => (hK t ht).extends hext
  split
  · exact fun g' hl => hkeep hl.hist hread₃
  · rename_i lote hlote
    split
    · refine (safe_renew hg₃ now (hread₃ t ht) hlote).attempt.bind hg₃ fun _ g₄ h₄ _ _ => ?_
      exact fun g' hl => hkeep (h₄.trans hl.hist) hread₃
    · exact fun g' hl => hkeep hl.hist hread₃

theorem safe_importTrustList (hg : (versions s).At tid r g) (updateExisting : Bool)
    (tenantId id : String) (config : TrustListCreateDto) :
    (versions s).Safe tid (fun _ _ => True)
      (TrustListService.importTrustList updateExisting tenantId id config) g := by
  have hdelete {g : KeyState} (hg : (versions s).At tid r g) (found : Bool) :
      (versions s).Safe tid (fun _ _ => True)
        (onlyIf found () (trustLists (.delete (tenantId, id)))) g := by
    cases found with
    | false => exact fun _ _ => trivial
    | true => exact fun _ _ _ => ⟨trivial, fun _ _ => trivial⟩
  refine (safe_looks hg (p := trustLists (.findOne (tenantId, id)))
    ⟨trivial, fun _ => trivial⟩).bind hg fun found g₁ _ hg₁ _ => ?_
  split
  · exact fun _ _ => trivial
  · refine (hdelete hg₁ _).bind hg₁ fun _ g₂ _ hg₂ _ => ?_
    refine (safe_looks hg₂ (looks_askKeys _)).bind hg₂ fun _ g₃ _ hg₃ _ => ?_
    exact (safe_createTrustList hg₃ _ _ _).bind hg₃ fun _ _ _ _ _ => fun _ _ => trivial

theorem safe_applyTrustList (hg : (versions s).At tid r g) (hr : r ≠ .trustList .renewDue)
    (tenantId id : String) (spec : TrustListCreateDto) :
    (versions s).Safe tid (fun _ _ => True)
      (TrustListService.applyTrustList tenantId id spec) g := by
  refine (safe_looks hg (looks_askKeys _)).bind hg fun _ g₁ _ hg₁ _ => ?_
  refine (safe_looks hg₁ (p := trustLists (.findOne (tenantId, id)))
    ⟨trivial, fun _ => trivial⟩).bind hg₁ fun found g₂ _ hg₂ _ => ?_
  split
  · exact (safe_update hg₂ hr _ _ _).bind hg₂ fun _ _ _ _ _ => fun _ _ => trivial
  · exact (safe_createTrustList hg₂ _ _ _).bind hg₂ fun _ _ _ _ _ => fun _ _ => trivial

theorem safe_of_only {α : Type} {P : KeyCall → Prop} {p : KeyApi α}
    (hg : (versions s).At tid r g) (hp : p.Only P)
    (h : ∀ {g' op}, P op → VersionMay s g' tid op) :
    (versions s).Safe tid (fun _ _ => True) p g :=
  .of_only hg hp fun _ _ _ _ hop _ => h hop

theorem may_ofKeyChains (h : KeyCall.OfKeyChains op) : VersionMay s g tid op := by
  cases op with
  | lists c => exact h.elim
  | _ => trivial

theorem may_ofSessions (h : KeyCall.OfSessions op) : VersionMay s g tid op := by
  cases op with
  | lists c => exact may_of_looks h
  | _ => trivial

/-- **Every handler is safe.** -/
theorem versions_verified (s : LoTESignatures w) : (versions s).Verified := by
  intro g r _ _ hg
  have hdone {α : Type} {f : α → KeyAnswer} {p : KeyApi α}
      (h : (versions s).Safe g.requests.length (fun _ _ => True) p (g.arrive r)) :
      (versions s).Safe g.requests.length (fun _ _ => True) (answerWith f p) (g.arrive r) :=
    h.bind hg fun _ _ _ _ _ => fun _ _ => trivial
  cases r with
  | trustList r =>
    cases r with
    | create tenantId tenantName config => exact hdone (safe_createTrustList hg config _ _)
    | update tenantId id values => exact hdone (safe_update hg nofun tenantId id values)
    | renewDue => exact hdone (safe_renewDueTrustLists hg)
    | importFile updateExisting tenantId id config =>
      exact hdone (safe_importTrustList hg updateExisting tenantId id config)
    | apply tenantId id spec => exact hdone (safe_applyTrustList hg nofun tenantId id spec)
    | remove tenantId id => exact hdone fun _ _ _ => ⟨trivial, fun _ _ => trivial⟩
    | getJwt tenantId id =>
      exact hdone ((safe_looks hg (looks_findOne tenantId id)).bind hg fun _ _ _ _ _ =>
        fun _ _ => trivial)
    | getVerifierX509Der tenantId id =>
      refine hdone (safe_looks hg ?_)
      exact (looks_findOne tenantId id).bind fun _ => (looks_getCertificateById _ _).bind fun _ =>
        Only.require fun _ _ => trivial
  | keyChain r => exact safe_of_only hg r.program_only may_ofKeyChains
  | createOffer q =>
    exact hdone (safe_of_only hg (ofSessions_createOffer w q) may_ofSessions)
  | processResponse sessionId encrypted =>
    exact hdone (safe_of_only hg (ofSessions_processResponse w sessionId encrypted) may_ofSessions)

end TrustListVersions

open TrustListVersions

/-- **The versions of a trust list form one history** in every state of every run that starts
without trust lists, in which creations save under new ids and no list with a history is
deleted. -/
theorem one_history (s : LoTESignatures w) (st : KeyStore) (hlists : st.lists = .empty)
    (hversions : st.versions = []) (ms : KeySchedule)
    (hkeeps : (keyServices w).Guarded KeepsHistory (.start st) ms) :
    OneHistory s ((keyServices w).run (.start st) ms) := by
  have hstart : VersionInv s ⟨st, [], []⟩ := {
    numbered := fun _ => rfl
    current := fun k t h => by rw [hlists] at h; cases h
    history := fun k => by rw [hversions]; rfl
    replaced := fun newer _ _ _ _ h => by cases newer <;> cases h
    renewed := fun _ _ _ h => (List.not_mem_nil h).elim
    agrees := fun _ _ h => (List.not_mem_nil h).elim
    read := fun _ _ h => by
      rcases h with h | ⟨_, h, _⟩
      · exact (List.not_mem_nil h).elim
      · exact (List.not_mem_nil h).elim }
  have hholds := Discipline.run_holds (versions_verified s)
    (Discipline.holds_start (D := versions s) ⟨hstart, Global.numbered_start st⟩)
    (fun _ _ => trivial) hkeeps
  obtain ⟨hinv, -⟩ := hholds.inv
  exact ⟨hinv.numbered, hinv.current, hinv.history, hinv.replaced, hinv.renewed, hinv.agrees⟩

namespace TrustListVersions

open KeyDeployment

def signatures : LoTESignatures world where
  payload := payload
  signed {n lote keyId adapter signer certificates jwt} h := by
    simp only [world] at h
    split at h
    · rename_i hsigned
      obtain ⟨hlist, hkey⟩ := Bool.and_eq_true_iff.mp hsigned
      cases h
      have hlote : lote = listOf lote.listAndSchemeInformation.loTESequenceNumber
        (lote.listAndSchemeInformation.listIssueDateTime != 0) := by simpa [isListOf] using hlist
      have hcount : (signerName signer).toList.count 'n' = 0 := by
        refine List.count_eq_zero.mpr fun hmem => ?_
        exact absurd (List.all_eq_true.mp hkey _ hmem) (by decide)
      have hlate : 'l' ∉ (signerName signer).toList := fun hmem =>
        absurd (List.all_eq_true.mp hkey _ hmem) (by decide)
      rw [payload, jwtOf]
      refine (congrArg some ?_).trans (congrArg some hlote.symm)
      cases lote.listAndSchemeInformation.listIssueDateTime != 0 with
      | true => simp [hcount]
      | false => simp [hcount, hlate]
    · cases h

def renewed : KeySchedule :=
  serve 0 (.trustList (.create "tenant" "Tenant" listRequest)) 20 ++
    serve 1 (.trustList (.update "tenant" "list" listRequest)) 20 ++
    serve 2 (.keyChain (.rotate "tenant" "lists")) 20 ++
    .drift late :: serve 3 (.trustList .renewDue) 20

def createdTwice : KeySchedule :=
  serve 0 (.trustList (.create "tenant" "Tenant" listRequest)) 20 ++
    serve 1 (.trustList (.create "tenant" "Tenant" listRequest)) 20

def keepsHistory (g : KeyState) (_ : Nat) : KeyCall → Bool
  | .lists (.save row) => (published row.key g.trace).isEmpty
  | .lists (.delete key) => g.store.versions.all (·.key != key)
  | .keyChains (.delete key) => g.store.lists.rows.all fun t =>
    t.keyChain != key || g.store.versions.all (·.key != t.key)
  | _ => true

theorem keepsHistory_sound (g : KeyState) (tid : Nat) (op : KeyCall)
    (h : keepsHistory g tid op = true) : KeepsHistory g tid op := by
  match op, h with
  | .lists (.save row), h => exact List.isEmpty_iff.mp h
  | .lists (.delete key), h =>
    exact fun v hv => by simpa using List.all_eq_true.mp h v hv
  | .keyChains (.delete key), h =>
    intro t ht hkey v hv
    have hlist := List.all_eq_true.mp h t ht
    rw [hkey, bne_self_eq_false, Bool.false_or] at hlist
    simpa using List.all_eq_true.mp hlist v hv
  | .lists (.findOne _), _ => trivial
  | .lists .find, _ => trivial
  | .lists (.publishNextVersion ..), _ => trivial
  | .keyChains (.findOne _), _ => trivial
  | .keyChains (.findByUsageType ..), _ => trivial
  | .keyChains .findRotating, _ => trivial
  | .keyChains (.save ..), _ => trivial
  | .keyChains (.update ..), _ => trivial
  | .session _, _ => trivial
  | .now, _ => trivial
  | .uuid, _ => trivial
  | .ask _, _ => trivial

end TrustListVersions

open KeyDeployment

theorem one_history_of_renewed :
    OneHistory signatures ((keyServices world).run (.start tenantStore) renewed) :=
  one_history signatures tenantStore rfl rfl renewed
    (System.guarded_of_checks keepsHistory_sound (by decide +kernel))

/-- **The claim fails**: a creation under the id of a published list publishes number one a
second time, and nothing of the replaced list is kept. -/
theorem not_one_history :
    ¬OneHistory signatures ((keyServices world).run (.start tenantStore) createdTwice) := by
  intro h
  have hnumbers : (published listKey
      ((keyServices world).run (.start tenantStore) createdTwice).trace).map (·.sequenceNumber) =
      [1, 1] := by decide +kernel
  have hnumbered := h.numbered listKey
  have hlength := congrArg List.length hnumbers
  rw [List.length_map] at hlength
  rw [hnumbers, hlength] at hnumbered
  exact absurd hnumbered (by decide)

end Eudiplo
