import Mathlib.Data.List.Nodup

/-!
# Tables with a primary key

`Table key` is a list of rows no two of which share their key, so a row is
determined by its key and every table operation can be described by what it does
to `get`: the row under a given key.  The operations are those an object–relational
mapper offers: find one row, select rows, update the rows matching a condition,
insert or merge a row (`upsert`), delete the rows matching a condition.
-/

namespace Storage

variable {ρ κ : Type} {key : ρ → κ}

/-- **A table**: rows with distinct keys. -/
structure Table {ρ κ : Type} (key : ρ → κ) where
  rows : List ρ
  nodup : (rows.map key).Nodup

namespace Table

def empty : Table key := ⟨[], by simp⟩

def single (r : ρ) : Table key := ⟨[r], by simp⟩

/-- Some row matching `p`, if there is one. -/
def find (t : Table key) (p : ρ → Bool) : Option ρ := t.rows.find? p

/-- All rows matching `p`. -/
def select (t : Table key) (p : ρ → Bool) : List ρ := t.rows.filter p

/-- How many rows match `p`. -/
def count (t : Table key) (p : ρ → Bool) : Nat := t.rows.countP p

/-- Change the rows matching `p`; their keys stay. -/
def updateWhere (t : Table key) (p : ρ → Bool) (f : ρ → ρ) (hf : ∀ r, key (f r) = key r) :
    Table key where
  rows := t.rows.map fun r => if p r then f r else r
  nodup := by
    have hkey : key ∘ (fun r => if p r then f r else r) = key := by
      funext r
      by_cases h : p r <;> simp [h, hf]
    rw [List.map_map, hkey]
    exact t.nodup

/-- Remove the rows matching `p`. -/
def deleteWhere (t : Table key) (p : ρ → Bool) : Table key where
  rows := t.rows.filter fun r => !p r
  nodup := t.nodup.sublist (List.filter_sublist.map key)

variable [DecidableEq κ]

/-- The row with key `k`. -/
def get (t : Table key) (k : κ) : Option ρ := t.find fun r => key r == k

/-- Insert `r`; if its key is taken, merge into the row that has it. -/
def upsert (t : Table key) (r : ρ) (merge : ρ → ρ) (hm : ∀ r, key (merge r) = key r) :
    Table key :=
  if h : (t.get (key r)).isSome then t.updateWhere (fun r' => key r' == key r) merge hm
  else
    { rows := t.rows ++ [r]
      nodup := by
        rw [List.map_append, List.nodup_append]
        refine ⟨t.nodup, by simp, ?_⟩
        intro k hk k' hk' heq
        obtain ⟨r', hr', rfl⟩ := List.mem_map.mp hk
        simp only [List.map_cons, List.map_nil, List.mem_singleton] at hk'
        subst hk'
        refine h (List.find?_isSome.mpr ⟨r', hr', ?_⟩)
        simpa using heq }

/-! ## Rows and keys -/

theorem get_eq_some {t : Table key} {k : κ} {r : ρ} :
    t.get k = some r ↔ r ∈ t.rows ∧ key r = k := by
  constructor
  · intro h
    exact ⟨List.mem_of_find?_eq_some h, by simpa using List.find?_some h⟩
  · rintro ⟨hmem, rfl⟩
    obtain ⟨rows, nodup⟩ := t
    show rows.find? _ = some r
    induction rows with
    | nil => cases hmem
    | cons r' rows ih =>
      rw [List.map_cons, List.nodup_cons] at nodup
      rcases List.mem_cons.mp hmem with rfl | htail
      · simp
      · have hne : key r' ≠ key r := fun he =>
          nodup.1 (he ▸ List.mem_map_of_mem htail)
        rw [List.find?_cons_of_neg (by simpa using hne)]
        exact ih nodup.2 htail

theorem get_key {t : Table key} {k : κ} {r : ρ} (h : t.get k = some r) : key r = k :=
  (get_eq_some.mp h).2

theorem get_of_mem {t : Table key} {r : ρ} (h : r ∈ t.rows) : t.get (key r) = some r :=
  get_eq_some.mpr ⟨h, rfl⟩

/-! ## What the operations do to `get` -/

@[simp] theorem get_empty (k : κ) : (empty : Table key).get k = none := rfl

theorem get_single (r : ρ) (k : κ) :
    (single r : Table key).get k = if key r = k then some r else none := by
  by_cases h : key r = k <;> simp [single, get, find, h]

theorem get_updateWhere (t : Table key) (p : ρ → Bool) (f : ρ → ρ)
    (hf : ∀ r, key (f r) = key r) (k : κ) :
    (t.updateWhere p f hf).get k = (t.get k).map fun r => if p r then f r else r := by
  have hkey : ∀ r, key (if p r then f r else r) = key r := fun r => by
    by_cases h : p r <;> simp [h, hf]
  show (t.rows.map _).find? _ = (t.rows.find? _).map _
  rw [List.find?_map]
  congr 2
  funext r
  simp [hkey]

theorem get_upsert (t : Table key) (r : ρ) (merge : ρ → ρ) (hm : ∀ r, key (merge r) = key r)
    (k : κ) : (t.upsert r merge hm).get k =
      if key r = k then some ((t.get k).elim r merge) else t.get k := by
  unfold upsert
  split
  · rename_i h
    rw [get_updateWhere]
    by_cases hk : key r = k
    · subst hk
      obtain ⟨r', hr'⟩ := Option.isSome_iff_exists.mp h
      simp [hr', get_key hr']
    · rcases hget : t.get k with _ | r'
      · simp [hk]
      · have : key r' ≠ key r := fun he => hk (he ▸ get_key hget)
        simp [hk, this]
  · rename_i h
    have hnone : t.get (key r) = none := by simpa using h
    show (t.rows ++ [r]).find? _ = _
    rw [List.find?_append]
    by_cases hk : key r = k
    · subst hk
      have hrows : t.rows.find? (fun r' => key r' == key r) = none := hnone
      simp [hrows, hnone]
    · have htail : [r].find? (fun r' => key r' == k) = none := by simp [hk]
      rw [htail, Option.or_none, if_neg hk]
      rfl

theorem get_deleteWhere (t : Table key) (p : ρ → Bool) (k : κ) :
    (t.deleteWhere p).get k = (t.get k).filter fun r => !p r := by
  ext r
  rw [Option.filter_eq_some_iff, get_eq_some, get_eq_some]
  show r ∈ t.rows.filter _ ∧ _ ↔ _
  rw [List.mem_filter]
  tauto

/-! ## What the queries say about `get` -/

theorem find_some {t : Table key} {p : ρ → Bool} {r : ρ} (h : t.find p = some r) :
    t.get (key r) = some r ∧ p r = true :=
  ⟨get_of_mem (List.mem_of_find?_eq_some h), List.find?_some h⟩

theorem find_isSome_of_key {t : Table key} {k : κ} {p : ρ → Bool} (hp : ∀ r, p r → key r = k) :
    (t.find p).isSome = true ↔ ∃ r, t.get k = some r ∧ p r = true := by
  constructor
  · intro h
    obtain ⟨r, hr⟩ := Option.isSome_iff_exists.mp h
    obtain ⟨hget, hpr⟩ := find_some hr
    exact ⟨r, hp r hpr ▸ hget, hpr⟩
  · rintro ⟨r, hr, hpr⟩
    rw [find, List.find?_isSome]
    exact ⟨r, (get_eq_some.mp hr).1, hpr⟩

theorem mem_select {t : Table key} {p : ρ → Bool} {r : ρ} :
    r ∈ t.select p ↔ t.get (key r) = some r ∧ p r = true := by
  rw [select, List.mem_filter, get_eq_some]
  simp

theorem count_pos {t : Table key} {p : ρ → Bool} :
    0 < t.count p ↔ ∃ k r, t.get k = some r ∧ p r = true := by
  rw [count, List.countP_pos_iff]
  constructor
  · rintro ⟨r, hr, hp⟩
    exact ⟨key r, r, get_of_mem hr, hp⟩
  · rintro ⟨k, r, hr, hp⟩
    exact ⟨r, (get_eq_some.mp hr).1, hp⟩

theorem count_pos_of_key {t : Table key} {k : κ} {p : ρ → Bool} (hp : ∀ r, p r → key r = k) :
    0 < t.count p ↔ ∃ r, t.get k = some r ∧ p r = true := by
  rw [count_pos]
  constructor
  · rintro ⟨k', r, hr, h⟩
    have hk : k' = k := (get_key hr).symm.trans (hp r h)
    exact ⟨r, hk ▸ hr, h⟩
  · rintro ⟨r, hr, h⟩
    exact ⟨k, r, hr, h⟩

end Table

end Storage
