import Eudiplo.Properties.StatusValues

/-!
# No status update is lost

The elements of a stored list are the replay of its committed updates on a new list: every
commit of the history changes one entry of the list as all commits before it have left it, and
nothing else changes an element.
-/

namespace Eudiplo

open Concurrency Prog Storage

def CommitsElements (k : ListKey) (elements : List StatusElement) : StatusEvent → Prop
  | ⟨_, .lists (.updateElements key _ written), outcome⟩ =>
    outcome = .committed ∧ key = k ∧ written = elements
  | _ => False

/-- **The elements that the updates of a history make** of a new list of this size, one after
another.  An update sets one entry, as the transitions allow, to what its request asks for. -/
inductive Replay (g : StatusState) (k : ListKey) (size : Nat) :
    List StatusEvent → List StatusElement → Prop where
  | new : Replay g k size [] (newElements size)
  | update {older : List StatusEvent} {elements : List StatusElement} {e : StatusEvent}
      (index value : Nat) (h : Replay g k size older elements)
      (hcommits : CommitsElements k (assignStatus elements index value) e)
      (hindex : index < size)
      (hallowed : statusTransitionAllowed (statusAt elements index) value = true)
      (hrequest : ∃ q, g.requests[e.tid]? = some q ∧ q.Sets value) :
      Replay g k size (e :: older) (assignStatus elements index value)
  | other {older : List StatusEvent} {elements : List StatusElement} {e : StatusEvent}
      (h : Replay g k size older elements) (hnone : ∀ written, ¬CommitsElements k written e) :
      Replay g k size (e :: older) elements

theorem Replay.extends {g g' : StatusState} {k : ListKey} {size : Nat} {trace : List StatusEvent}
    {elements : List StatusElement} (h : Replay g k size trace elements)
    (hext : g.Extends g') : Replay g' k size trace elements := by
  induction h with
  | new => exact .new
  | update index value _ hcommits hindex hallowed hrequest ih =>
    obtain ⟨q, hq, hsets⟩ := hrequest
    exact .update index value ih hcommits hindex hallowed ⟨q, hext.request hq, hsets⟩
  | other _ hnone ih => exact .other ih hnone

namespace StatusHistory

open StatusLists StatusIndexes StatusTokens

variable {w : StatusWorld} {g : StatusState} {tid : Nat} {op : StatusCall} {k : ListKey}
variable {list list' : StatusListEntity} {e : StatusEvent} {size : Nat}
variable {trace : List StatusEvent}

theorem replay_of_none (h : ∀ e ∈ trace, ∀ written, ¬CommitsElements k written e) :
    Replay g k size trace (newElements size) := by
  induction trace with
  | nil => exact .new
  | cons e older ih =>
    exact .other (ih fun e' he' => h e' (List.mem_cons_of_mem e he')) (h e List.mem_cons_self)

theorem commits_cases {written : List StatusElement}
    (h : CommitsElements k written ⟨tid, op, (op.answer w g.store).1⟩) :
    ∃ version, op = .lists (.updateElements k version written) ∧
      ((StatusCall.lists (.updateElements k version written)).answer w g.store).1 =
        TransactionOutcome.committed := by
  cases op with
  | lists c =>
    cases c with
    | updateElements key version elements =>
      obtain ⟨hcommitted, rfl, rfl⟩ := h
      exact ⟨version, rfl, hcommitted⟩
    | _ => cases h
  | _ => cases h

/-- **A commit changes one entry of the stored list.** -/
theorem commit_stored (hinv : StatusInv w g) (hmay : StatusMay w g tid op)
    (honce : (listRows w).Once g k) (hindexes : Indexes g k) {written : List StatusElement}
    (h : CommitsElements k written ⟨tid, op, (op.answer w g.store).1⟩) :
    ∃ list index value, g.store.lists.get k = some list ∧ index < list.elements.length ∧
      written = assignStatus list.elements index value ∧
      statusTransitionAllowed (statusAt list.elements index) value = true ∧
      ∀ q, g.requests[tid]? = some q → q.Sets value := by
  obtain ⟨version, rfl, hcommitted⟩ := commits_cases h
  obtain ⟨r, index, value, hread, hversion, rfl, hallowed, -, htargets, hsets⟩ := hmay
  -- the version that was read is still stored, so the row that was read is
  rcases transaction_cases w g.store (hasVersion g.store.lists k version)
    (updateVersioned g.store.lists k version
      (fun row => { row with elements := assignStatus r.elements index value }) fun _ => rfl)
    g.store.mappings with ⟨hne, -⟩ | ⟨hcurrent, -⟩
  · exact absurd hcommitted hne
  obtain ⟨list, hlist, hsame⟩ := hasVersion_eq_true.mp hcurrent
  obtain rfl := hinv.rows.current honce hread hlist (hsame.trans hversion.symm)
  obtain ⟨n, hn, hparts⟩ := hindexes.stored _ hlist
  obtain ⟨n', hn', hlt⟩ := hindexes.handed index htargets.allocated
  obtain rfl := CreatedWith.unique honce hn hn'
  exact ⟨_, index, value, hlist, hparts.capacity.symm ▸ hlt, rfl, hallowed, hsets⟩

theorem elements_of_rewrites (hkey : list.key = k) (h : Rewrites list list' e)
    (hnone : ∀ written, ¬CommitsElements k written e) : list'.elements = list.elements := by
  obtain ⟨t, c, res⟩ := e
  cases c with
  | lists c =>
    cases c with
    | updateElements key version elements =>
      obtain ⟨hcommitted, hk, -⟩ := h
      exact absurd ⟨hcommitted, hk.symm.trans hkey, rfl⟩ (hnone elements)
    | updateTokens | updateBinding | allocate =>
      obtain ⟨-, -, -, rfl⟩ := h
      rfl
    | _ => cases h
  | _ => cases h

/-- **The invariant** of a list: its elements are the replay of the history, and nothing is
committed before it is created. -/
structure Replayed (g : StatusState) (k : ListKey) : Prop where
  stored : ∀ list, g.store.lists.get k = some list →
    Replay g k list.elements.length g.trace list.elements
  created : ∀ e ∈ g.trace, ∀ written, CommitsElements k written e →
    0 < g.trace.countP (createsList k)

/-- **One call keeps the invariant.** -/
theorem replayed_after (hinv : StatusInv w g) (hmay : StatusMay w g tid op)
    (hrequest : ∃ q, g.requests[tid]? = some q)
    (honce : (listRows w).Once ((statusListService w).after g tid op) k) (hindexes : Indexes g k)
    (h : Replayed g k) : Replayed ((statusListService w).after g tid op) k := by
  have hext := System.extends_after (M := statusListService w) g tid op
  have honce' := honce.mono hext
  refine ⟨fun list' hlist' => ?_, fun e he written hcommits => ?_⟩
  · rw [System.after_trace]
    by_cases hnone : ∀ written, ¬CommitsElements k written ⟨tid, op, (op.answer w g.store).1⟩
    · refine .other ?_ hnone
      rcases stored_after hinv hmay honce hlist' with ⟨hzero, hnew⟩ | ⟨list, hlist, -⟩
      · rw [hnew.elements, newElements, List.length_replicate]
        refine replay_of_none fun e he written hcommits => ?_
        exact (h.created e he written hcommits).ne' hzero
      · rcases list_row tid hlist' with hcreates | ⟨list₀, hlist₀, hsame⟩
        · cases (Versioned.not_creates honce (hinv.rows.present k list hlist)).symm.trans hcreates
        have helements : list'.elements = list₀.elements := by
          rcases hsame with rfl | hrewrites
          · rfl
          · exact elements_of_rewrites (Table.get_key hlist₀) hrewrites hnone
        rw [helements]
        exact (h.stored list₀ hlist₀).extends hext
    · -- the update is made from what is stored, whatever happened since it was read
      obtain ⟨written, hcommits⟩ := not_forall_not.mp hnone
      obtain ⟨list, index, value, hlist, hindex, rfl, hallowed, hsets⟩ :=
        commit_stored hinv hmay honce' hindexes hcommits
      have helements : list'.elements = assignStatus list.elements index value := by
        obtain ⟨version, rfl, hcommitted⟩ := commits_cases hcommits
        exact (committed_row hcommitted).2 list' hlist'
      rw [helements, length_assignStatus value hindex]
      obtain ⟨q, hq⟩ := hrequest
      exact .update index value ((h.stored list hlist).extends hext) hcommits hindex hallowed
        ⟨q, hq, hsets q hq⟩
  · refine Nat.lt_of_lt_of_le ?_ hext.trace.sublist.countP_le
    rcases List.mem_cons.mp he with rfl | hold
    · obtain ⟨list, index, value, hlist, -⟩ := commit_stored hinv hmay honce' hindexes hcommits
      exact hinv.rows.present k list hlist
    · exact h.created e hold written hcommits

end StatusHistory

end Eudiplo
