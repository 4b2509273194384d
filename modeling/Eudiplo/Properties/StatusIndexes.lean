import Eudiplo.StatusList.Deployment
import Eudiplo.StatusList.Discipline

/-!
# The indexes of a status list

Of a list that is created once, the stack and the allocated entries partition the indexes
below its capacity (`index_partition`), so no index is given to two credentials
(`IndexPartition.once`).

An allocation writes against the version of the row it read, so the index it takes is the
last one of the stack stored at that moment; no other write touches the stack, and an
element is only written for an index that was allocated, which keeps the array at its
capacity.
-/

namespace Eudiplo

open Concurrency Storage

/-! ## The claim -/

def createdList : StatusEvent → Option StatusListEntity
  | ⟨_, .lists (.save list), _⟩ => some list
  | ⟨_, .lists (.insert list), inserted⟩ => if inserted then some list else none
  | _ => none

/-- The list `k` was created with `n` entries. -/
def CreatedWith (g : StatusState) (k : ListKey) (n : Nat) : Prop :=
  ∃ e ∈ g.trace, ∃ list, createdList e = some list ∧ list.key = k ∧ list.elements.length = n

/-- **The indexes of a stored list**, below its capacity `n`. -/
structure Partitioned (g : StatusState) (k : ListKey) (n : Nat) (list : StatusListEntity) :
    Prop where
  capacity : list.elements.length = n
  distinct : list.stack.Nodup
  below : ∀ i ∈ list.stack, i < n
  /-- No index is in the stack and assigned to a credential. -/
  unmapped : ∀ i ∈ list.stack, g.store.mappings.get (k, i) = none
  /-- Every index is in the stack or was handed out. -/
  exhausted : ∀ i < n, i ∈ list.stack ∨ Allocated g (k, i)

/-- **The stack and the allocated entries partition a list.** -/
structure IndexPartition (g : StatusState) (k : ListKey) : Prop where
  stored : ∀ list, g.store.lists.get k = some list →
    ∃ n, CreatedWith g k n ∧ Partitioned g k n list
  /-- No index is allocated twice. -/
  once : ∀ i, g.trace.countP (allocatesEntry (k, i)) ≤ 1

variable {w : StatusWorld} {g g' : StatusState} {tid : Nat} {op : StatusCall} {k : ListKey}

/-! ## Creation -/

theorem createsList_of_created {e : StatusEvent} {list : StatusListEntity}
    (h : createdList e = some list) : createsList list.key e = true := by
  obtain ⟨t, op, res⟩ := e
  cases op with
  | lists c =>
    cases c with
    | save list' =>
      cases h
      exact beq_self_eq_true _
    | insert list' =>
      cases hres : res with
      | false =>
        subst hres
        cases h
      | true =>
        subst hres
        cases h
        show (true && list.key == list.key) = true
        simp
    | _ => cases h
  | _ => cases h

theorem CreatedWith.extends {n : Nat} (h : CreatedWith g k n) (hext : g.Extends g') :
    CreatedWith g' k n := by
  obtain ⟨e, he, hlist⟩ := h
  exact ⟨e, hext.event he, hlist⟩

theorem CreatedWith.creates {n : Nat} (h : CreatedWith g k n) :
    0 < g.trace.countP (createsList k) := by
  obtain ⟨e, he, list, hlist, rfl, -⟩ := h
  exact List.countP_pos_iff.mpr ⟨e, he, createsList_of_created hlist⟩

theorem CreatedWith.unique {n n' : Nat} (honce : (listRows w).Once g k) (h : CreatedWith g k n)
    (h' : CreatedWith g k n') : n = n' := by
  obtain ⟨e, he, list, hlist, rfl, rfl⟩ := h
  obtain ⟨e', he', list', hlist', hkey, rfl⟩ := h'
  by_cases hsame : e = e'
  · subst hsame
    rw [Option.some.inj (hlist.symm.trans hlist')]
  · have htwo := Global.two_le_countP hsame he he' (createsList_of_created hlist)
      (hkey ▸ createsList_of_created hlist')
    have hle : g.trace.countP (createsList list.key) ≤ 1 := honce
    omega

namespace StatusIndexes

/-! ## The invariant -/

/-- A stored list, beside what the claim says of it: a free index was never handed out. -/
structure Parts (g : StatusState) (k : ListKey) (n : Nat) (list : StatusListEntity) : Prop where
  capacity : list.elements.length = n
  distinct : list.stack.Nodup
  below : ∀ i ∈ list.stack, i < n
  free : ∀ i ∈ list.stack, ¬Allocated g (k, i)
  exhausted : ∀ i < n, i ∈ list.stack ∨ Allocated g (k, i)

/-- **The invariant** of a list between any two calls. -/
structure Indexes (g : StatusState) (k : ListKey) : Prop where
  stored : ∀ list, g.store.lists.get k = some list → ∃ n, CreatedWith g k n ∧ Parts g k n list
  handed : ∀ i, Allocated g (k, i) → ∃ n, CreatedWith g k n ∧ i < n
  once : ∀ i, g.trace.countP (allocatesEntry (k, i)) ≤ 1

theorem Indexes.same (h : Indexes g k) (hlists : g'.store.lists = g.store.lists)
    (htrace : g'.trace = g.trace) : Indexes g' k := by
  have hallocated (entry : ListKey × Nat) : Allocated g' entry ↔ Allocated g entry := by
    rw [Allocated, Allocated, htrace]
  have hcreated (n : Nat) : CreatedWith g' k n ↔ CreatedWith g k n := by
    rw [CreatedWith, CreatedWith, htrace]
  refine ⟨fun list hlist => ?_, fun i hi => ?_, fun i => htrace ▸ h.once i⟩
  · rw [hlists] at hlist
    obtain ⟨n, hn, hparts⟩ := h.stored list hlist
    exact ⟨n, (hcreated n).mpr hn, hparts.capacity, hparts.distinct, hparts.below,
      fun i hi hgiven => hparts.free i hi ((hallocated _).mp hgiven),
      fun i hi => (hparts.exhausted i hi).imp_right (hallocated _).mpr⟩
  · obtain ⟨n, hn, hlt⟩ := h.handed i ((hallocated _).mp hi)
    exact ⟨n, (hcreated n).mpr hn, hlt⟩

theorem allocated_after {entry : ListKey × Nat}
    (h : Allocated ((statusListService w).after g tid op) entry) :
    allocatesEntry entry ⟨tid, op, (op.answer w g.store).1⟩ = true ∨ Allocated g entry := by
  obtain ⟨e, he, hallocates⟩ := h
  rcases List.mem_cons.mp he with rfl | hold
  · exact .inl hallocates
  · exact .inr ⟨e, hold, hallocates⟩

/-- **An allocation takes a free index** off the stack of the stored list. -/
theorem allocation_step {i : Nat} (hinv : StatusInv w g) (hmay : StatusMay w g tid op)
    (honce : (listRows w).Once g k)
    (h : allocatesEntry (k, i) ⟨tid, op, (op.answer w g.store).1⟩ = true) :
    ∃ stack r, g.store.lists.get k = some r ∧ r.stack = stack ++ [i] ∧
      ((statusListService w).after g tid op).store.lists.get k =
        some { r with stack, version := r.version + 1 } ∧
      ∀ i', allocatesEntry (k, i') ⟨tid, op, (op.answer w g.store).1⟩ = true → i' = i := by
  obtain ⟨key, stack, mapping, r, rfl, hkey, hr, hr', -⟩ := allocates_answer h
  obtain ⟨r₀, hread, hversion, hstack, hlist⟩ := hmay
  have hk : key = k := by
    rw [← hlist]
    exact congrArg Prod.fst hkey
  subst hk
  -- the row that was read is the one that is stored
  obtain rfl := hinv.rows.current honce hread hr hversion.symm
  have hi : mapping.index = i := congrArg Prod.snd hkey
  refine ⟨stack, r, hr, hi ▸ hstack, hr', fun i' hi' => ?_⟩
  have hkey' := beq_iff_eq.mp (Bool.and_eq_true_iff.mp hi').2
  exact (congrArg Prod.snd hkey').symm.trans hi

theorem step_parts {n : Nat} {list list' : StatusListEntity} (honce : (listRows w).Once g k)
    (hindexes : Indexes g k) (hn : CreatedWith g k n) (hcapacity : list.elements.length = n)
    (hnone : ∀ i, allocatesEntry (k, i) ⟨tid, op, (op.answer w g.store).1⟩ = false)
    (h : StatusLists.ListStep w g k ⟨tid, op, (op.answer w g.store).1⟩ list list') :
    list'.stack = list.stack ∧ list'.elements.length = n := by
  cases h with
  | tokens t jwt cwt expiresAt he hfits hjwt hcwt => exact ⟨rfl, hcapacity⟩
  | binding changes => exact ⟨rfl, hcapacity⟩
  | element index value hop hallowed htargets hsets =>
    obtain ⟨n', hn', hlt⟩ := hindexes.handed index htargets.allocated
    obtain rfl := CreatedWith.unique honce hn hn'
    exact ⟨rfl, (length_assignStatus value (hcapacity.symm ▸ hlt)).trans hcapacity⟩
  | allocation stack index hstack hallocates => cases (hnone index).symm.trans hallocates

/-- **A call that hands out an index** keeps the invariant. -/
theorem indexes_allocated {i : Nat} (hinv : StatusInv w g) (hmay : StatusMay w g tid op)
    (honce : (listRows w).Once g k) (h : Indexes g k)
    (hi : allocatesEntry (k, i) ⟨tid, op, (op.answer w g.store).1⟩ = true) :
    Indexes ((statusListService w).after g tid op) k := by
  have hext := System.extends_after (M := statusListService w) g tid op
  obtain ⟨stack, r, hr, hstack, hr', honly⟩ := allocation_step hinv hmay honce hi
  obtain ⟨n, hn, hparts⟩ := h.stored r hr
  have hmem : i ∈ r.stack := by simp [hstack]
  have hnodup := hparts.distinct
  rw [hstack, List.nodup_append] at hnodup
  have hsub {j : Nat} (hj : j ∈ stack) : j ∈ r.stack := by simp [hstack, hj]
  have hnew : Allocated ((statusListService w).after g tid op) (k, i) :=
    ⟨_, List.mem_cons_self, hi⟩
  refine ⟨fun list hlist => ⟨n, hn.extends hext, ?_⟩, fun j hj => ?_, fun j => ?_⟩
  · obtain rfl := Option.some.inj (hr'.symm.trans hlist)
    refine ⟨hparts.capacity, hnodup.1, fun j hj => hparts.below j (hsub hj),
      fun j hj hallocated => ?_, fun j hj => ?_⟩
    · rcases allocated_after hallocated with hj' | hold
      · exact hnodup.2.2 j hj i (by simp) (honly j hj')
      · exact hparts.free j (hsub hj) hold
    · rcases hparts.exhausted j hj with hin | hold
      · rw [hstack] at hin
        rcases List.mem_append.mp hin with hrest | hlast
        · exact .inl hrest
        · rw [List.mem_singleton.mp hlast]
          exact .inr hnew
      · exact .inr (hold.extends hext)
  · rcases allocated_after hj with hj' | hold
    · rw [honly j hj']
      exact ⟨n, hn.extends hext, hparts.below i hmem⟩
    · obtain ⟨n', hn', hlt⟩ := h.handed j hold
      exact ⟨n', hn'.extends hext, hlt⟩
  · rw [System.after_trace, List.countP_cons]
    show _ +
      (if allocatesEntry (k, j) ⟨tid, op, (op.answer w g.store).1⟩ = true then 1 else 0) ≤ 1
    by_cases hj : allocatesEntry (k, j) ⟨tid, op, (op.answer w g.store).1⟩ = true
    · -- a free index has not been counted
      have hzero : g.trace.countP (allocatesEntry (k, j)) = 0 := by
        rw [honly j hj, List.countP_eq_zero]
        exact fun e he hallocated => hparts.free i hmem ⟨e, he, hallocated⟩
      rw [hzero]
      split <;> omega
    · rw [if_neg hj]
      exact h.once j

/-- **A created list** was not there, and nothing of it was handed out. -/
theorem parts_created {list : StatusListEntity} (hinv : StatusInv w g)
    (hmay : StatusMay w g tid op)
    (honce : (listRows w).Once ((statusListService w).after g tid op) k) (h : Indexes g k)
    (hback : ∀ i, Allocated ((statusListService w).after g tid op) (k, i) → Allocated g (k, i))
    (hcreates : createsList k ⟨tid, op, (op.answer w g.store).1⟩ = true)
    (hlist : ((statusListService w).after g tid op).store.lists.get k = some list) :
    ∃ n, CreatedWith ((statusListService w).after g tid op) k n ∧
      Parts ((statusListService w).after g tid op) k n list := by
  have hfirst : ¬0 < g.trace.countP (createsList k) := fun hpos => by
    cases (Versioned.not_creates honce hpos).symm.trans hcreates
  have habsent : g.store.lists.get k = none := by
    rw [Option.eq_none_iff_forall_ne_some]
    exact fun r hr => hfirst (hinv.rows.present k r hr)
  obtain ⟨list₀, hop, hkey, hstored⟩ := created_row hcreates habsent
  obtain rfl := Option.some.inj (hstored.symm.trans hlist)
  have hnew : NewList list₀ := by
    rcases hop with rfl | rfl
    · exact hmay
    · exact hmay
  have hcreated : createdList ⟨tid, op, (op.answer w g.store).1⟩ = some list₀ := by
    rcases hop with rfl | rfl
    · rfl
    · exact if_pos (Bool.and_eq_true_iff.mp hcreates).1
  refine ⟨list₀.elements.length, ⟨_, List.mem_cons_self, list₀, hcreated, hkey, rfl⟩, rfl,
    hnew.stack.nodup_iff.mpr List.nodup_range, fun i hi => ?_, fun i _ hi => ?_,
    fun i hi => .inl ?_⟩
  · exact List.mem_range.mp (hnew.stack.mem_iff.mp hi)
  · obtain ⟨n, hn, -⟩ := h.handed i (hback i hi)
    exact hfirst hn.creates
  · exact hnew.stack.mem_iff.mpr (List.mem_range.mpr hi)

/-- **A call that hands out no index** keeps the invariant. -/
theorem indexes_kept (hinv : StatusInv w g) (hmay : StatusMay w g tid op)
    (honce : (listRows w).Once ((statusListService w).after g tid op) k) (h : Indexes g k)
    (hnone : ∀ i, allocatesEntry (k, i) ⟨tid, op, (op.answer w g.store).1⟩ = false) :
    Indexes ((statusListService w).after g tid op) k := by
  have hext := System.extends_after (M := statusListService w) g tid op
  have hback (i : Nat) (hi : Allocated ((statusListService w).after g tid op) (k, i)) :
      Allocated g (k, i) := by
    rcases allocated_after hi with hnew | hold
    · cases (hnone i).symm.trans hnew
    · exact hold
  refine ⟨fun list hlist => ?_, fun i hi => ?_, fun i => ?_⟩
  · by_cases hcreates : createsList k ⟨tid, op, (op.answer w g.store).1⟩ = true
    · exact parts_created hinv hmay honce h hback hcreates hlist
    · rcases list_row tid hlist with hnew | ⟨r, hr, hrow⟩
      · exact absurd hnew hcreates
      · obtain ⟨n, hn, hparts⟩ := h.stored r hr
        obtain ⟨hstack, hlength⟩ : list.stack = r.stack ∧ list.elements.length = n := by
          rcases hrow with rfl | hrewrites
          · exact ⟨rfl, hparts.capacity⟩
          · exact step_parts (honce.mono hext) h hn hparts.capacity hnone
              (StatusLists.list_step hinv hmay (honce.mono hext) hr hrewrites)
        refine ⟨n, hn.extends hext, hlength, hstack ▸ hparts.distinct,
          fun i hi => hparts.below i (hstack ▸ hi),
          fun i hi hallocated => hparts.free i (hstack ▸ hi) (hback i hallocated), fun i hi => ?_⟩
        rcases hparts.exhausted i hi with hin | hold
        · exact .inl (hstack ▸ hin)
        · exact .inr (hold.extends hext)
  · obtain ⟨n, hn, hlt⟩ := h.handed i (hback i hi)
    exact ⟨n, hn.extends hext, hlt⟩
  · rw [System.after_trace, List.countP_cons]
    show _ +
      (if allocatesEntry (k, i) ⟨tid, op, (op.answer w g.store).1⟩ = true then 1 else 0) ≤ 1
    rw [hnone i]
    exact h.once i

/-- **One call keeps the invariant** of a list that is created at most once. -/
theorem indexes_after (hinv : StatusInv w g) (hmay : StatusMay w g tid op)
    (honce : (listRows w).Once ((statusListService w).after g tid op) k) (h : Indexes g k) :
    Indexes ((statusListService w).after g tid op) k := by
  have hext := System.extends_after (M := statusListService w) g tid op
  by_cases hallocates : ∃ i, allocatesEntry (k, i) ⟨tid, op, (op.answer w g.store).1⟩ = true
  · obtain ⟨i, hi⟩ := hallocates
    exact indexes_allocated hinv hmay (honce.mono hext) h hi
  · refine indexes_kept hinv hmay honce h fun i => ?_
    rw [← Bool.not_eq_true]
    exact fun hi => hallocates ⟨i, hi⟩

/-- **The invariant holds along every run** that creates the list at most once. -/
theorem indexes_run {st : StatusStore} (hlists : st.lists = Table.empty)
    (hmappings : st.mappings = Table.empty) (ms : StatusSchedule)
    (honce : (listRows w).Once ((statusListService w).run (.start st) ms).global k) :
    Indexes ((statusListService w).run (.start st) ms).global k := by
  refine (StatusLists.run_may hlists hmappings ms).keeps
    (K := fun g => (listRows w).Once g k → Indexes g k) (fun _ => ?_)
    (fun {g tid op} hok hbefore honce => ?_) (fun r h honce => (h honce).same rfl rfl)
    (fun e h honce => (h honce).same rfl rfl) honce
  · refine ⟨fun list hlist => ?_, fun i hi => ?_, fun i => Nat.zero_le _⟩
    · have hlist : st.lists.get k = some list := hlist
      rw [hlists] at hlist
      cases hlist
    · obtain ⟨e, he, -⟩ := hi
      exact (List.not_mem_nil he).elim
  · exact indexes_after hok.1 hok.2 honce (hbefore (honce.mono (System.extends_after _ _ _)))

end StatusIndexes

open StatusIndexes in
/-- **The stack and the allocated entries partition every list** that a run creates once. -/
theorem index_partition (w : StatusWorld) (st : StatusStore) (ms : StatusSchedule) (k : ListKey)
    (hlists : st.lists = Table.empty) (hmappings : st.mappings = Table.empty)
    (honce : ((statusListService w).run (.start st) ms).trace.countP (createsList k) ≤ 1) :
    IndexPartition ((statusListService w).run (.start st) ms).global k := by
  have hinv := (StatusLists.run_holds (w := w) hlists hmappings ms).inv
  obtain ⟨hstored, -, hcount⟩ := indexes_run hlists hmappings ms honce
  refine ⟨fun list hlist => ?_, hcount⟩
  obtain ⟨n, hn, hparts⟩ := hstored list hlist
  refine ⟨n, hn, hparts.capacity, hparts.distinct, hparts.below, fun i hi => ?_,
    hparts.exhausted⟩
  rw [Option.eq_none_iff_forall_ne_some]
  exact fun m hm => hparts.free i hi (hinv.mapped (k, i) m hm)

open StatusDeployment in
/-- Both entries of a list are allocated and revoked, as the theorem says. -/
theorem index_partition_of_twoEntries :
    IndexPartition ((statusListService world).run (.start StatusDeployment.fresh)
      (serve 0 (.createNewList "tenant" {}) 13 ++ serve 1 issue 3 ++ serve 2 issue 3 ++
        serve 3 (setStatus 1) 24)).global ("tenant", "u") :=
  index_partition _ _ _ _ rfl rfl (by decide +kernel)

end Eudiplo
