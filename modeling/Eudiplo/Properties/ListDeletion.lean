import Eudiplo.StatusList.Deployment
import Eudiplo.StatusList.Discipline

/-!
# Is a status list in use ever deleted?

`deleteList` counts the mappings of the list and then deletes it, and the mappings with it.
An allocation that commits between the two loses its mapping after it was reported
(`not_lists_in_use`): the credential refers to a list that is gone.

`lists_in_use` holds for the runs in which no allocation commits on a list while a deletion
stands between its count and its delete.
-/

namespace Eudiplo

open Concurrency Storage

/-! ## The claim -/

/-- **A list in use is not deleted.** -/
structure ListsInUse (w : StatusWorld) (st : StatusStore) (ms : StatusSchedule) : Prop where
  /-- What was reported to a caller is stored: the mapping and its list. -/
  reported : ∀ t session configuration policy issuanceSetId entry,
    ((statusListService w).run (.start st) ms).Answers t
      (.createEntry session configuration policy issuanceSetId) (.entry entry) →
    ∃ m list, ((statusListService w).run (.start st) ms).store.mappings.get
        ((session.tenantId, entry.statusListId), entry.index) = some m ∧
      m.sessionId = session.id ∧ m.list = entry.uri ∧
      ((statusListService w).run (.start st) ms).store.lists.get
        (session.tenantId, entry.statusListId) = some list
  /-- Where a list is deleted, no mapping refers to it. -/
  unused : ∀ ms₁ t ms₂ k, ms = ms₁ ++ .resume t :: ms₂ →
    System.waiting ((statusListService w).run (.start st) ms₁) t =
      some (.lists (.delete k)) →
    ∀ entry m, ((statusListService w).run (.start st) ms₁).store.mappings.get entry = some m →
      m.listKey ≠ k

/-- **The condition**: no allocation commits on a list whose mappings some deletion has just
counted. -/
def AllocatesUndisturbed (w : StatusWorld) (g : StatusState) (tid : Nat) (op : StatusCall) :
    Prop :=
  ∀ entry, allocatesEntry entry ⟨tid, op, (op.answer w g.store).1⟩ = true →
    ∀ t, ¬FoundUnused g t entry.1

namespace ListDeletion

variable {w : StatusWorld} {g : StatusState} {tid t : Nat} {op : StatusCall} {k : ListKey}

/-! ## The invariant -/

/-- **The invariant** between any two calls. -/
structure InUse (g : StatusState) : Prop where
  /-- A list about to be deleted has no mapping. -/
  counted : ∀ t k, FoundUnused g t k → ∀ entry m, g.store.mappings.get entry = some m →
    m.listKey ≠ k
  /-- What was allocated is stored. -/
  kept : ∀ t m, AllocatedBy g t m → g.store.mappings.get m.key = some m ∧
    ∃ list, g.store.lists.get m.listKey = some list

theorem foundUnused_after (h : FoundUnused ((statusListService w).after g tid op) t k) :
    (op = .mappings (.countBy k) ∧ g.store.mappings.count (fun m => m.listKey == k) = 0) ∨
      FoundUnused g t k := by
  by_cases ht : t = tid
  · subst ht
    have hlast := Option.some.inj ((Global.last_after_self g t op).symm.trans h)
    injection hlast with _ hop hres
    subst hop
    exact .inl ⟨rfl, eq_of_heq hres⟩
  · exact .inr ((Global.last_after_other ht).symm.trans h)

/-- **One call keeps the invariant** when it meets the condition. -/
theorem inUse_after (hmay : StatusMay w g tid op) (hok : AllocatesUndisturbed w g tid op)
    (h : InUse g) : InUse ((statusListService w).after g tid op) := by
  constructor
  · intro t k hfound entry m hm hk
    rcases foundUnused_after hfound with ⟨rfl, hcount⟩ | hold
    · -- nothing was counted, and a count stores nothing
      have hpos : 0 < g.store.mappings.count (fun m => m.listKey == k) :=
        Table.count_pos.mpr ⟨entry, m, hm, beq_iff_eq.mpr hk⟩
      omega
    · rcases mapping_row tid hm with hstored | hnew
      · exact h.counted t k hold entry m hstored hk
      · have hkey : m.key = entry := Table.get_key hm
        have hentry : entry.1 = k := by
          rw [← hkey]
          exact hk
        exact hok entry hnew t (hentry ▸ hold)
  · intro t m hallocated
    rcases StatusLists.allocatedBy_after hallocated with ⟨hnew, version, stack, rfl⟩ | hold
    · obtain ⟨key, stack', mapping, r, hop, -, -, hlist, hmapping⟩ := allocates_answer hnew
      injection hop with hop
      injection hop with hkey _ _ hm
      subst hkey hm
      exact ⟨hmapping, _, hlist⟩
    · obtain ⟨hmapping, list, hlist⟩ := h.kept t m hold
      -- only a list without mappings is deleted
      have hop : op ≠ .lists (.delete m.listKey) := by
        rintro rfl
        exact h.counted tid m.listKey hmay m.key m hmapping rfl
      exact ⟨mapping_kept hmapping hop, Option.isSome_iff_exists.mp (list_kept hlist hop)⟩

/-- **The invariant holds along every run** that meets the condition. -/
theorem inUse_run {st : StatusStore} {ms : StatusSchedule}
    (hlists : st.lists = Table.empty) (hmappings : st.mappings = Table.empty)
    (hok : (statusListService w).Guarded (AllocatesUndisturbed w) (.start st) ms) :
    InUse ((statusListService w).run (.start st) ms).global := by
  refine ((StatusLists.run_may hlists hmappings ms).and hok).keeps ?_
    (fun h hinUse => inUse_after h.1.2 h.2 hinUse) (fun _ h => ⟨h.counted, h.kept⟩)
    (fun _ h => ⟨h.counted, h.kept⟩)
  refine ⟨fun t k hfound => ?_, fun t m hallocated => ?_⟩
  · cases hfound
  · obtain ⟨version, stack, he⟩ := hallocated
    exact (List.not_mem_nil he).elim

end ListDeletion

open ListDeletion in
/-- **No list in use is deleted** in a run in which no allocation commits on a list between the
count and the delete of a deletion. -/
theorem lists_in_use (w : StatusWorld) (st : StatusStore) (ms : StatusSchedule)
    (hlists : st.lists = Table.empty) (hmappings : st.mappings = Table.empty)
    (hok : (statusListService w).Guarded (AllocatesUndisturbed w) (.start st) ms) :
    ListsInUse w st ms := by
  constructor
  · intro t session configuration policy issuanceSetId entry hanswer
    have hholds := StatusLists.run_holds (w := w) hlists hmappings ms
    obtain ⟨m, hallocated, htenant, hsession, hid, hindex, huri⟩ := hholds.answer hanswer
    obtain ⟨hmapping, list, hlist⟩ := (inUse_run hlists hmappings hok).kept t m hallocated
    have hkey : m.listKey = (session.tenantId, entry.statusListId) := by
      rw [StatusMapping.listKey, htenant, hid]
    rw [hkey] at hlist
    rw [StatusMapping.key, hkey, hindex] at hmapping
    exact ⟨m, list, hmapping, hsession, huri, hlist⟩
  · intro ms₁ t ms₂ k hms hwait
    subst hms
    obtain ⟨r, body, hget⟩ := System.waiting_eq_some hwait
    have hmay := ((StatusLists.run_may (w := w) hlists hmappings
      (ms₁ ++ .resume t :: ms₂)).at hget).2
    exact (inUse_run hlists hmappings (System.guarded_append.mp hok).1).counted t k hmay

/-! ## Two runs -/

namespace ListDeletion

open StatusDeployment

def created : StatusSchedule := serve 0 (.createNewList "tenant" { capacity := some 1 }) 12

def usedFirst : StatusSchedule :=
  created ++ serve 1 issue 3 ++ serve 2 (.deleteList "tenant" "u") 2

/-- Its entry is allocated after its mappings were counted, and before it is deleted. -/
def countedFirst : StatusSchedule :=
  created ++ serve 1 issue 2 ++ serve 2 (.deleteList "tenant" "u") 2 ++ [.resume 1, .resume 2]

def undisturbed (g : StatusState) (_ : Nat) : StatusCall → Bool
  | .lists (.allocate _ _ _ mapping) => g.trace.all fun
    | ⟨_, .mappings (.countBy k), n⟩ => !(k == mapping.listKey && n == (0 : Nat))
    | _ => true
  | _ => true

theorem undisturbed_sound (g : StatusState) (tid : Nat) (op : StatusCall)
    (h : undisturbed g tid op = true) : AllocatesUndisturbed world g tid op := by
  intro entry hallocates t hfound
  obtain ⟨key, stack, mapping, r, rfl, rfl, -⟩ := allocates_answer hallocates
  have hcount := List.all_eq_true.mp h _ (Global.last_mem hfound).1
  simp [StatusMapping.key] at hcount

end ListDeletion

/-- A list whose entry was allocated is not deleted, as the theorem says. -/
theorem lists_in_use_of_usedFirst :
    ListsInUse StatusDeployment.world StatusDeployment.fresh ListDeletion.usedFirst :=
  lists_in_use _ _ _ rfl rfl
    (System.guarded_of_checks ListDeletion.undisturbed_sound (by decide +kernel))

/-- **An entry allocated between the count and the delete is lost**: its credential was issued,
and its list is gone. -/
theorem not_lists_in_use :
    ¬ListsInUse StatusDeployment.world StatusDeployment.fresh ListDeletion.countedFirst := by
  intro h
  obtain ⟨m, list, -, -, -, hlist⟩ := h.reported 1 StatusDeployment.session "config" none none
    { statusListId := "u", index := 0
      uri := buildStatusListUri StatusDeployment.world "tenant" "u" } rfl
  cases hlist

end Eudiplo
