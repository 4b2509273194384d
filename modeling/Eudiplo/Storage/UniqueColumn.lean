import Eudiplo.Storage.Table

/-!
# Tables with a unique column

A column whose values are unique where they are not null is a lock: at most one row has a value of
it, and whoever inserts the row with the value has it until an update clears the column.
-/

namespace Storage

variable {ρ κ ν : Type} {key : ρ → κ} {column : ρ → Option ν}

/-- **A table with a unique column**: no two rows share a value of it. -/
structure UniqueTable {ρ κ ν : Type} (key : ρ → κ) (column : ρ → Option ν) extends
    Table key where
  unique : ∀ r ∈ rows, ∀ r' ∈ rows, ∀ v, column r = some v → column r' = some v → r = r'

namespace UniqueTable

def empty : UniqueTable key column := ⟨.empty, nofun⟩

/-- Change the rows matching `p`: their keys stay, and the column stays or is cleared. -/
def updateWhere (t : UniqueTable key column) (p : ρ → Bool) (f : ρ → ρ)
    (hf : ∀ r, key (f r) = key r) (hcolumn : ∀ r v, column (f r) = some v → column r = some v) :
    UniqueTable key column where
  toTable := t.toTable.updateWhere p f hf
  unique := by
    have hback : ∀ r v, column (if p r then f r else r) = some v → column r = some v := by
      intro r v h
      split at h
      · exact hcolumn r v h
      · exact h
    intro r hr r' hr' v hv hv'
    obtain ⟨s, hs, rfl⟩ := List.mem_map.mp hr
    obtain ⟨s', hs', rfl⟩ := List.mem_map.mp hr'
    rw [t.unique s hs s' hs' v (hback s v hv) (hback s' v hv')]

variable [DecidableEq κ]

/-- **A value has one holder.** -/
theorem holder_unique (t : UniqueTable key column) {k k' : κ} {r r' : ρ} {v : ν}
    (h : t.get k = some r) (h' : t.get k' = some r') (hv : column r = some v)
    (hv' : column r' = some v) : r = r' :=
  t.unique r (Table.get_eq_some.mp h).1 r' (Table.get_eq_some.mp h').1 v hv hv'

variable [DecidableEq ν]

/-- Is the key of the row taken, or its value of the column? -/
def violates (t : UniqueTable key column) (r : ρ) : Bool :=
  t.rows.any fun r' => key r' == key r || ((column r).isSome && column r' == column r)

theorem not_violates {t : UniqueTable key column} {r : ρ} (h : ¬t.violates r = true) :
    ∀ r' ∈ t.rows, key r' ≠ key r ∧ ∀ v, column r = some v → column r' ≠ some v := by
  intro r' hr'
  have hone := fun hany => h (List.any_eq_true.mpr ⟨r', hr', hany⟩)
  refine ⟨fun hkey => hone (by simp [hkey]), fun v hv hv' => hone (by simp [hv, hv'])⟩

def insert (t : UniqueTable key column) (r : ρ) : Option (UniqueTable key column) :=
  if h : t.violates r = true then none
  else some
    { rows := t.rows ++ [r]
      nodup := by
        rw [List.map_append, List.nodup_append]
        refine ⟨t.nodup, by simp, ?_⟩
        intro k hk k' hk' heq
        obtain ⟨r', hr', rfl⟩ := List.mem_map.mp hk
        obtain rfl := List.mem_singleton.mp hk'
        exact (not_violates h r' hr').1 heq
      unique := by
        intro s hs s' hs' v hv hv'
        rcases List.mem_append.mp hs with hold | hnew <;>
          rcases List.mem_append.mp hs' with hold' | hnew'
        · exact t.unique s hold s' hold' v hv hv'
        · obtain rfl := List.mem_singleton.mp hnew'
          exact absurd hv ((not_violates h s hold).2 v hv')
        · obtain rfl := List.mem_singleton.mp hnew
          exact absurd hv' ((not_violates h s' hold').2 v hv)
        · rw [List.mem_singleton.mp hnew, List.mem_singleton.mp hnew'] }

/-! ## What the operations do to `get` -/

/-- **An inserted row** had a free key, and is the row under it. -/
theorem get_insert {t t' : UniqueTable key column} {r : ρ} (h : t.insert r = some t') :
    t.get (key r) = none ∧
      ∀ k, t'.get k = if key r = k then some r else t.get k := by
  unfold insert at h
  split at h
  · cases h
  · rename_i hfree
    obtain rfl := Option.some.inj h
    have hnone : t.get (key r) = none := by
      refine List.find?_eq_none.mpr fun r' hr' hkey => ?_
      exact (not_violates hfree r' hr').1 (by simpa using hkey)
    refine ⟨hnone, fun k => ?_⟩
    show (t.rows ++ [r]).find? _ = _
    rw [List.find?_append]
    split
    · rename_i hk
      subst hk
      have hrows : t.rows.find? (fun r' => key r' == key r) = none := hnone
      rw [hrows, List.find?_singleton]
      simp
    · rename_i hk
      rw [List.find?_singleton, if_neg (by simpa using hk), Option.or_none]
      rfl

end UniqueTable

end Storage
