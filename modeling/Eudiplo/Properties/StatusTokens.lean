import Eudiplo.Properties.StatusIndexes

/-!
# Revocation and the published status tokens

Once the stored status of an index is `INVALID` it stays so, the tokens a list caches encode
elements that were stored at the version they were saved against, and so a list that has
published an index as `INVALID` publishes nothing else of it (`final_revocations`).

A slow regeneration cannot publish an old snapshot over a newer one: the snapshot it signed
is saved against its version, so it is saved only while it is the stored row
(`StatusLists.list_step`).
-/

namespace Eudiplo

open Concurrency Storage

/-! ## The claim -/

def StatusListEntity.Caches (list : StatusListEntity) (token : StatusListToken) : Prop :=
  list.jwt = some token ∨ list.cwt = some token

/-- `decode` reads every status of an encoded list back. -/
def Lossless (w : StatusWorld) (decode : BitsPerStatus → String → Nat → Nat) : Prop :=
  ∀ bits elements i, findOutOfRangeStatusIndexes elements bits = [] → i < elements.length →
    decode bits (w.compressStatusList bits elements) i = statusAt elements i

/-- The list with key `k`. -/
def storedList (c : StatusConfiguration) (k : ListKey) : Option StatusListEntity :=
  c.store.lists.get k

/-- **Revocation is final, in the list and in what it publishes.** -/
structure FinalRevocations (w : StatusWorld) (decode : BitsPerStatus → String → Nat → Nat)
    (st : StatusStore) (ms : StatusSchedule) (k : ListKey) : Prop where
  /-- A stored `INVALID` stays. -/
  final : ∀ ms₁ ms₂ i list list', ms = ms₁ ++ ms₂ →
    storedList ((statusListService w).run (.start st) ms₁) k = some list →
    statusAt list.elements i = STATUS_REVOKED →
    storedList ((statusListService w).run (.start st) ms) k = some list' →
    statusAt list'.elements i = STATUS_REVOKED
  /-- An `INVALID` that was published stays published. -/
  monotone : ∀ ms₁ ms₂ i list list' token token', ms = ms₁ ++ ms₂ →
    storedList ((statusListService w).run (.start st) ms₁) k = some list →
    list.Caches token → i < list.elements.length →
    decode token.bits token.lst i = STATUS_REVOKED →
    storedList ((statusListService w).run (.start st) ms) k = some list' →
    list'.Caches token' → decode token'.bits token'.lst i = STATUS_REVOKED
  /-- A published token was saved against the version whose elements it encodes. -/
  faithful : ∀ list token,
    storedList ((statusListService w).run (.start st) ms) k = some list → list.Caches token →
    ∃ ms₁ tid ms₂ jwt cwt expiresAt list₁, ms = ms₁ ++ .resume tid :: ms₂ ∧
      System.waiting ((statusListService w).run (.start st) ms₁) tid =
        some (.lists (.updateTokens k list₁.version jwt cwt expiresAt)) ∧
      (token = jwt ∨ token = cwt) ∧
      storedList ((statusListService w).run (.start st) ms₁) k = some list₁ ∧
      token.Encodes w list₁

namespace StatusTokens

open StatusLists StatusIndexes

variable {w : StatusWorld} {decode : BitsPerStatus → String → Nat → Nat}
variable {g g' : StatusState} {tid : Nat} {op : StatusCall} {k : ListKey}
variable {list list' : StatusListEntity} {e : StatusEvent} {i : Nat}

/-! ## One write -/

/-- **A write keeps what is revoked.** -/
theorem step_revoked (h : ListStep w g k e list list')
    (hrevoked : statusAt list.elements i = STATUS_REVOKED) :
    statusAt list'.elements i = STATUS_REVOKED := by
  cases h with
  | tokens t jwt cwt expiresAt he hfits hjwt hcwt => exact hrevoked
  | binding changes => exact hrevoked
  | allocation stack index hstack hallocates => exact hrevoked
  | element index value hop hallowed htargets hsets =>
    show statusAt (assignStatus list.elements index value) i = STATUS_REVOKED
    by_cases hi : index = i
    · subst hi
      rw [statusAt_assignStatus_self]
      simpa [statusTransitionAllowed, hrevoked] using hallowed
    · rw [statusAt_assignStatus_ne _ _ hi, hrevoked]

/-- The event saved this token of the list, against a version. -/
def SavesToken (k : ListKey) (version : Nat) (token : StatusListToken) (e : StatusEvent) : Prop :=
  ∃ t jwt cwt expiresAt,
    e = ⟨t, .lists (.updateTokens k version jwt cwt expiresAt), (true : Bool)⟩ ∧
      (token = jwt ∨ token = cwt)

/-- **What a write does to the cached tokens**: it keeps or drops them, or caches tokens of
the row. -/
theorem step_caches (h : ListStep w g k e list list') :
    (∀ token, list'.Caches token → list.Caches token) ∨
      findOutOfRangeStatusIndexes list.elements list.bits = [] ∧ list'.elements = list.elements ∧
        ∀ token, list'.Caches token → token.Encodes w list ∧ SavesToken k list.version token e := by
  cases h with
  | tokens t jwt cwt expiresAt he hfits hjwt hcwt =>
    refine .inr ⟨hfits, rfl, fun token hcaches => ?_⟩
    rcases hcaches with hnew | hnew
    · cases hnew
      exact ⟨hjwt, t, _, cwt, expiresAt, he, .inl rfl⟩
    · cases hnew
      exact ⟨hcwt, t, jwt, _, expiresAt, he, .inr rfl⟩
  | element index value hop hallowed htargets hsets => exact .inl fun _ hcaches => hcaches
  | allocation stack index hstack hallocates => exact .inl fun _ hcaches => hcaches
  | binding changes =>
    refine .inl fun token hcaches => ?_
    by_cases hnew : changes.keyChainId.isSome = true
    · simp [StatusListEntity.Caches, StatusListEntity.bind, StatusListEntity.withVersion, hnew]
        at hcaches
    · simpa [StatusListEntity.Caches, StatusListEntity.bind, StatusListEntity.withVersion, hnew]
        using hcaches

theorem step_bits (h : ListStep w g k e list list') : list'.bits = list.bits := by
  cases h <;> rfl

theorem step_length (honce : (listRows w).Once g k) (hindexes : Indexes g k)
    (hget : g.store.lists.get k = some list) (h : ListStep w g k e list list') :
    list'.elements.length = list.elements.length := by
  cases h with
  | element index value hop hallowed htargets hsets =>
    obtain ⟨n, hn, hparts⟩ := hindexes.stored list hget
    obtain ⟨n', hn', hlt⟩ := hindexes.handed index htargets.allocated
    obtain rfl := CreatedWith.unique honce hn hn'
    exact length_assignStatus value (hparts.capacity.symm ▸ hlt)
  | _ => rfl

/-! ## The tokens of a stored list -/

/-- **A list and what its tokens were made from**: elements of its length whose revoked
entries it still has. -/
structure Snapshot (w : StatusWorld) (list : StatusListEntity) (elements : List StatusElement) :
    Prop where
  fits : findOutOfRangeStatusIndexes elements list.bits = []
  length : elements.length = list.elements.length
  kept : ∀ i, statusAt elements i = STATUS_REVOKED → statusAt list.elements i = STATUS_REVOKED
  encoded : ∀ token, list.Caches token →
    token.bits = list.bits ∧ token.lst = w.compressStatusList list.bits elements

/-- **The invariant**: the tokens of a stored list come from one snapshot, and from an event
of the run. -/
structure TokensFrom (w : StatusWorld) (g : StatusState) (k : ListKey) : Prop where
  snapshot : ∀ list token, g.store.lists.get k = some list → list.Caches token →
    ∃ elements, Snapshot w list elements
  saved : ∀ list token, g.store.lists.get k = some list → list.Caches token →
    ∃ e ∈ g.trace, ∃ version, SavesToken k version token e

theorem uncached_of_new {token : StatusListToken} (h : NewList list) : ¬list.Caches token := by
  rintro (hjwt | hcwt)
  · rw [h.jwt] at hjwt
    cases hjwt
  · rw [h.cwt] at hcwt
    cases hcwt

/-- **A stored list after a call** on a list that is created once: it is new, or it was there,
unchanged or after a write. -/
theorem stored_after (hinv : StatusInv w g) (hmay : StatusMay w g tid op)
    (honce : (listRows w).Once ((statusListService w).after g tid op) k)
    (h : ((statusListService w).after g tid op).store.lists.get k = some list') :
    (g.trace.countP (createsList k) = 0 ∧ NewList list') ∨
      ∃ list, g.store.lists.get k = some list ∧
        (list' = list ∨ ListStep w g k ⟨tid, op, (op.answer w g.store).1⟩ list list') := by
  have honce' := honce.mono (System.extends_after _ _ _)
  by_cases hcreates : createsList k ⟨tid, op, (op.answer w g.store).1⟩ = true
  · have hfirst : ¬0 < g.trace.countP (createsList k) := fun hpos => by
      cases (Versioned.not_creates honce hpos).symm.trans hcreates
    have habsent : g.store.lists.get k = none := by
      rw [Option.eq_none_iff_forall_ne_some]
      exact fun r hr => hfirst (hinv.rows.present k r hr)
    obtain ⟨list₀, hop, -, hstored⟩ := created_row hcreates habsent
    obtain rfl := Option.some.inj (hstored.symm.trans h)
    have hnew : NewList list₀ := by
      rcases hop with rfl | rfl
      · exact hmay
      · exact hmay
    exact .inl ⟨Nat.eq_zero_of_not_pos hfirst, hnew⟩
  · rcases list_row tid h with hnew | ⟨list, hlist, hsame | hrewrites⟩
    · exact absurd hnew hcreates
    · exact .inr ⟨list, hlist, .inl hsame⟩
    · exact .inr ⟨list, hlist, .inr (list_step hinv hmay honce' hlist hrewrites)⟩

/-- **One call keeps the invariant.** -/
theorem tokensFrom_after (hinv : StatusInv w g) (hmay : StatusMay w g tid op)
    (honce : (listRows w).Once ((statusListService w).after g tid op) k) (hindexes : Indexes g k)
    (h : TokensFrom w g k) : TokensFrom w ((statusListService w).after g tid op) k := by
  have hext := System.extends_after (M := statusListService w) g tid op
  have honce' := honce.mono hext
  constructor
  · intro list' token hlist' hcaches
    rcases stored_after hinv hmay honce hlist' with ⟨-, hnew⟩ | ⟨list, hlist, rfl | hstep⟩
    · exact absurd hcaches (uncached_of_new hnew)
    · exact h.snapshot list' token hlist hcaches
    · rcases step_caches hstep with hkept | ⟨hfits, hsame, hnew⟩
      · obtain ⟨elements, hsnapshot⟩ := h.snapshot list token hlist (hkept token hcaches)
        refine ⟨elements, (step_bits hstep).symm ▸ hsnapshot.fits, ?_, fun i hi => ?_,
          fun token' hcaches' => ?_⟩
        · rw [hsnapshot.length, step_length honce' hindexes hlist hstep]
        · exact step_revoked hstep (hsnapshot.kept i hi)
        · rw [step_bits hstep]
          exact hsnapshot.encoded token' (hkept token' hcaches')
      · refine ⟨list.elements, (step_bits hstep).symm ▸ hfits, by rw [hsame], fun i hi => ?_,
          fun token' hcaches' => ?_⟩
        · rw [hsame]
          exact hi
        · rw [step_bits hstep]
          exact (hnew token' hcaches').1
  · intro list' token hlist' hcaches
    rcases stored_after hinv hmay honce hlist' with ⟨-, hnew⟩ | ⟨list, hlist, rfl | hstep⟩
    · exact absurd hcaches (uncached_of_new hnew)
    · obtain ⟨e, he, hsaves⟩ := h.saved list' token hlist hcaches
      exact ⟨e, hext.event he, hsaves⟩
    · rcases step_caches hstep with hkept | ⟨-, -, hnew⟩
      · obtain ⟨e, he, hsaves⟩ := h.saved list token hlist (hkept token hcaches)
        exact ⟨e, hext.event he, hsaves⟩
      · exact ⟨_, List.mem_cons_self, list.version, (hnew token hcaches).2⟩

/-- **The invariant holds along every run** that creates the list at most once. -/
theorem tokensFrom_run {st : StatusStore} (hlists : st.lists = Table.empty)
    (hmappings : st.mappings = Table.empty) (ms : StatusSchedule)
    (honce : (listRows w).Once ((statusListService w).run (.start st) ms).global k) :
    TokensFrom w ((statusListService w).run (.start st) ms).global k := by
  have hboth := (run_may hlists hmappings ms).keeps
    (K := fun g => (listRows w).Once g k → Indexes g k ∧ TokensFrom w g k) (fun _ => ?_)
    (fun {g tid op} hok hbefore honce => ?_)
    (fun r h honce => ⟨(h honce).1.same rfl rfl, (h honce).2.snapshot, (h honce).2.saved⟩)
    (fun e h honce => ⟨(h honce).1.same rfl rfl, (h honce).2.snapshot, (h honce).2.saved⟩) honce
  · exact hboth.2
  · refine ⟨indexes_run hlists hmappings [] ‹_›, fun list token hlist => ?_,
      fun list token hlist => ?_⟩
    · have hlist : st.lists.get k = some list := hlist
      rw [hlists] at hlist
      cases hlist
    · have hlist : st.lists.get k = some list := hlist
      rw [hlists] at hlist
      cases hlist
  · obtain ⟨hindexes, htokens⟩ := hbefore (honce.mono (System.extends_after _ _ _))
    exact ⟨indexes_after hok.1 hok.2 honce hindexes,
      tokensFrom_after hok.1 hok.2 honce hindexes htokens⟩

/-! ## What stays -/

/-- **An index that is revoked**, and shown as revoked by every token of the list. -/
structure Revoked (w : StatusWorld) (decode : BitsPerStatus → String → Nat → Nat) (i n : Nat)
    (shown : Prop) (g : StatusState) (k : ListKey) : Prop where
  created : 0 < g.trace.countP (createsList k)
  stored : ∀ list, g.store.lists.get k = some list →
    list.elements.length = n ∧ statusAt list.elements i = STATUS_REVOKED
  published : shown → ∀ list token, g.store.lists.get k = some list → list.Caches token →
    decode token.bits token.lst i = STATUS_REVOKED

theorem revoked_after {n : Nat} {shown : Prop} (hlossless : shown → Lossless w decode)
    (hi : shown → i < n) (hinv : StatusInv w g) (hmay : StatusMay w g tid op)
    (honce : (listRows w).Once ((statusListService w).after g tid op) k) (hindexes : Indexes g k)
    (h : Revoked w decode i n shown g k) :
    Revoked w decode i n shown ((statusListService w).after g tid op) k := by
  have hext := System.extends_after (M := statusListService w) g tid op
  have honce' := honce.mono hext
  have hcreated := h.created
  refine ⟨Nat.lt_of_lt_of_le hcreated hext.trace.sublist.countP_le, fun list' hlist' => ?_,
    fun hshown list' token hlist' hcaches => ?_⟩
  · rcases stored_after hinv hmay honce hlist' with ⟨hzero, -⟩ | ⟨list, hlist, rfl | hstep⟩
    · omega
    · exact h.stored list' hlist
    · obtain ⟨hlength, hrevoked⟩ := h.stored list hlist
      exact ⟨(step_length honce' hindexes hlist hstep).trans hlength, step_revoked hstep hrevoked⟩
  · rcases stored_after hinv hmay honce hlist' with ⟨hzero, -⟩ | ⟨list, hlist, rfl | hstep⟩
    · omega
    · exact h.published hshown list' token hlist hcaches
    · rcases step_caches hstep with hkept | ⟨hfits, -, hnew⟩
      · exact h.published hshown list token hlist (hkept token hcaches)
      · obtain ⟨hlength, hrevoked⟩ := h.stored list hlist
        obtain ⟨hbits, hlst⟩ := (hnew token hcaches).1
        rw [hbits, hlst, hlossless hshown _ _ _ hfits (hlength.symm ▸ hi hshown), hrevoked]

/-- **What is revoked stays revoked** from any point of a run on. -/
theorem revoked_run {n : Nat} {shown : Prop} {st : StatusStore} {ms₁ ms₂ : StatusSchedule}
    (hlossless : shown → Lossless w decode) (hi : shown → i < n)
    (hlists : st.lists = Table.empty) (hmappings : st.mappings = Table.empty)
    (honce : (listRows w).Once ((statusListService w).run (.start st) (ms₁ ++ ms₂)).global k)
    (h : Revoked w decode i n shown ((statusListService w).run (.start st) ms₁).global k) :
    Revoked w decode i n shown ((statusListService w).run (.start st) (ms₁ ++ ms₂)).global k := by
  rw [System.run_append] at honce ⊢
  have hguarded := (System.guarded_append.mp (run_may (w := w) hlists hmappings (ms₁ ++ ms₂))).2
  have hboth := hguarded.keeps
    (K := fun g => (listRows w).Once g k → Indexes g k ∧ Revoked w decode i n shown g k)
    (fun honce₁ => ⟨indexes_run hlists hmappings ms₁ honce₁, h⟩)
    (fun {g tid op} hok hbefore honce => ?_)
    (fun r hg honce => ⟨(hg honce).1.same rfl rfl, (hg honce).2.created, (hg honce).2.stored,
      (hg honce).2.published⟩)
    (fun e hg honce => ⟨(hg honce).1.same rfl rfl, (hg honce).2.created, (hg honce).2.stored,
      (hg honce).2.published⟩) honce
  · exact hboth.2
  · obtain ⟨hindexes, hrevoked⟩ := hbefore (honce.mono (System.extends_after _ _ _))
    exact ⟨indexes_after hok.1 hok.2 honce hindexes,
      revoked_after hlossless hi hok.1 hok.2 honce hindexes hrevoked⟩

end StatusTokens

open StatusTokens StatusIndexes in
/-- **Revocation is final**, in the stored list and in the tokens it publishes, for every list
that a run creates once. -/
theorem final_revocations (w : StatusWorld) (decode : BitsPerStatus → String → Nat → Nat)
    (st : StatusStore) (ms : StatusSchedule) (k : ListKey) (hlossless : Lossless w decode)
    (hlists : st.lists = Table.empty) (hmappings : st.mappings = Table.empty)
    (honce : ((statusListService w).run (.start st) ms).trace.countP (createsList k) ≤ 1) :
    FinalRevocations w decode st ms k := by
  have honce : (listRows w).Once ((statusListService w).run (.start st) ms).global k := honce
  constructor
  · intro ms₁ ms₂ i list list' hms hlist hrevoked hlist'
    subst hms
    have hrows := (StatusLists.run_holds (w := w) hlists hmappings ms₁).inv.rows
    have hstart : Revoked w decode i list.elements.length False
        ((statusListService w).run (.start st) ms₁).global k := by
      refine ⟨hrows.present k list hlist, fun list₁ hlist₁ => ?_, False.elim⟩
      obtain rfl := Option.some.inj (hlist.symm.trans hlist₁)
      exact ⟨rfl, hrevoked⟩
    exact ((revoked_run False.elim False.elim hlists hmappings honce hstart).stored list' hlist').2
  · intro ms₁ ms₂ i list list' token token' hms hlist hcaches hi hdecode hlist' hcaches'
    subst hms
    have hrows := (StatusLists.run_holds (w := w) hlists hmappings ms₁).inv.rows
    have honce₁ : (listRows w).Once ((statusListService w).run (.start st) ms₁).global k := by
      rw [System.run_append] at honce
      exact honce.mono (System.extends_run _ _)
    obtain ⟨elements, hsnapshot⟩ :=
      (tokensFrom_run hlists hmappings ms₁ honce₁).snapshot list token hlist hcaches
    -- every token of the list shows the snapshot, which is revoked at the index
    have hshown {token₁ : StatusListToken} (h : list.Caches token₁) :
        decode token₁.bits token₁.lst i = statusAt elements i := by
      obtain ⟨hbits, hlst⟩ := hsnapshot.encoded token₁ h
      rw [hbits, hlst]
      exact hlossless _ _ _ hsnapshot.fits (hsnapshot.length.symm ▸ hi)
    have hsnap : statusAt elements i = STATUS_REVOKED := (hshown hcaches).symm.trans hdecode
    have hstart : Revoked w decode i list.elements.length True
        ((statusListService w).run (.start st) ms₁).global k := by
      refine ⟨hrows.present k list hlist, fun list₁ hlist₁ => ?_, fun _ list₁ token₁ hlist₁ h => ?_⟩
      · obtain rfl := Option.some.inj (hlist.symm.trans hlist₁)
        exact ⟨rfl, hsnapshot.kept i hsnap⟩
      · obtain rfl := Option.some.inj (hlist.symm.trans hlist₁)
        exact (hshown h).trans hsnap
    exact (revoked_run (fun _ => hlossless) (fun _ => hi) hlists hmappings honce
      hstart).published trivial list' token' hlist' hcaches'
  · intro list token hlist hcaches
    obtain ⟨e, he, version, t, jwt, cwt, expiresAt, rfl, htoken⟩ :=
      (tokensFrom_run hlists hmappings ms honce).saved list token hlist hcaches
    obtain ⟨ms₁, ms₂, r, body, rfl, hget, hres⟩ :=
      System.run_event (M := statusListService w) he List.not_mem_nil
    -- the row of the version was stored when the tokens were saved
    obtain ⟨list₁, hlist₁, rfl⟩ := hasVersion_eq_true.mp hres.symm
    have hok := (StatusLists.run_may (w := w) hlists hmappings (ms₁ ++ .resume t :: ms₂)).at hget
    have honce₁ : (listRows w).Once ((statusListService w).run (.start st) ms₁).global k := by
      rw [System.run_append] at honce
      exact honce.mono (System.extends_run _ _)
    obtain ⟨r₁, hread, hversion, -, hjwt, hcwt⟩ := hok.2
    obtain rfl := hok.1.rows.current honce₁ hread hlist₁ hversion.symm
    refine ⟨ms₁, t, ms₂, jwt, cwt, expiresAt, list₁, rfl, ?_, htoken, hlist₁, ?_⟩
    · simp [System.waiting, hget]
    · rcases htoken with rfl | rfl
      · exact hjwt
      · exact hcwt

/-! ## A run -/

namespace StatusTokens

def decompress (_ : BitsPerStatus) (lst : String) (i : Nat) : Nat :=
  if lst = "eNpjAAAAAQAB" then 0
  else if lst = "eNpjBAAAAgAC" then 1
  else (lst.toList[i + 1]?.map Char.toNat).getD 0

theorem toNat_ofNat_of_le {v : Nat} (h : v ≤ 255) : (Char.ofNat v).toNat = v := by
  have hvalid : v.isValidChar := .inl (by omega)
  rw [Char.ofNat, dif_pos hvalid]
  rfl

theorem mem_of_fits {bits : BitsPerStatus} {elements : List StatusElement} {i : Nat}
    (hfits : findOutOfRangeStatusIndexes elements bits = []) (hi : i < elements.length) :
    ∃ v, elements[i]? = some (some v) ∧ v ≤ 255 := by
  have hall := List.filter_eq_nil_iff.mp hfits i (List.mem_range.mpr hi)
  rw [Bool.not_eq_true', Bool.not_eq_false, statusValueFits, Option.any_eq_true] at hall
  obtain ⟨v, hv, hle⟩ := hall
  refine ⟨v, Option.join_eq_some_iff.mp hv, ?_⟩
  have hle := of_decide_eq_true hle
  cases bits <;> simp [BitsPerStatus.bits] at hle <;> omega

theorem lossless_decompress : Lossless StatusDeployment.world decompress := by
  intro bits elements i hfits hi
  show decompress bits (StatusDeployment.compressOne elements) i = _
  obtain ⟨v, hv, hle⟩ := mem_of_fits hfits hi
  unfold StatusDeployment.compressOne
  split
  · obtain rfl : i = 0 := by simpa using hi
    rfl
  · obtain rfl : i = 0 := by simpa using hi
    rfl
  · have hne (s : String) (hs : s.toList.head? = some 'e') :
        String.ofList ('r' :: elements.map fun e => Char.ofNat (e.getD 0)) ≠ s := by
      rintro rfl
      simp at hs
    rw [decompress, if_neg (hne _ rfl), if_neg (hne _ rfl), statusAt]
    simp [hv, toNat_ofNat_of_le hle]
end StatusTokens

open StatusDeployment in
/-- A list of one entry is published, revoked and published again, as the theorem says. -/
theorem final_revocations_of_oneEntry :
    FinalRevocations world StatusTokens.decompress StatusDeployment.fresh
      (serve 0 (.createNewList "tenant" { capacity := some 1 }) 12 ++ serve 1 issue 3 ++
        serve 2 (setStatus 1) 13 ++ serve 3 (.getListJwt "tenant" "u") 2) ("tenant", "u") :=
  final_revocations _ _ _ _ _ StatusTokens.lossless_decompress rfl rfl (by decide +kernel)

end Eudiplo
