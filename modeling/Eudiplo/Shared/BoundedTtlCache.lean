import Eudiplo.Shared.InsertionMap
import Mathlib

/-!
# A cache with a time to live, bounded in entries and bytes

`BoundedTtlCache`: a `Map` from keys to entries that expire, from the least to the most
recently used one, and the sum of their sizes.  A method that reads the clock takes what it
read, once for each reading.
-/

namespace Eudiplo

structure BoundedTtlCacheLimits where
  maxEntries : Nat
  maxBytes : Nat

namespace BoundedTtlCache

structure Entry (T V : Type) where
  value : V
  bytes : Nat
  expiresAt : T

def totalSize {T V : Type} (entries : List (String × Entry T V)) : Nat :=
  (entries.map fun x => x.2.bytes).sum

end BoundedTtlCache

open BoundedTtlCache InsertionMap

/-- **`BoundedTtlCache`**: the entries in the order in which the `Map` iterates them. -/
structure BoundedTtlCache (T V : Type) where
  limits : BoundedTtlCacheLimits
  entries : List (String × Entry T V)
  totalBytes : Int

namespace BoundedTtlCache

section Methods

variable {T V : Type}

def new (limits : BoundedTtlCacheLimits) : BoundedTtlCache T V := ⟨limits, [], 0⟩

def delete (c : BoundedTtlCache T V) (key : String) : BoundedTtlCache T V :=
  match c.entries.lookup key with
  | some entry => { c with
      entries := InsertionMap.delete c.entries key
      totalBytes := c.totalBytes - entry.bytes }
  | none => c

def clear (c : BoundedTtlCache T V) : BoundedTtlCache T V :=
  { c with entries := [], totalBytes := 0 }

/-- Whether `set` finds room for so many bytes. -/
def fits (c : BoundedTtlCache T V) (bytes : Nat) : Bool :=
  decide (c.entries.length < c.limits.maxEntries) &&
    decide (c.totalBytes + bytes ≤ c.limits.maxBytes)

/-- The loop of `set`, over the entries that are left to visit. -/
def evict (bytes : Nat) : List (String × Entry T V) → BoundedTtlCache T V → BoundedTtlCache T V
  | [], c => c
  | (oldestKey, _) :: rest, c =>
    if c.fits bytes then c else evict bytes rest (c.delete oldestKey)

variable [LinearOrder T]

def deleteExpired (c : BoundedTtlCache T V) (now : T) : BoundedTtlCache T V :=
  c.entries.foldl (fun c x => if x.2.expiresAt ≤ now then c.delete x.1 else c) c

def get (c : BoundedTtlCache T V) (key : String) (now : T) : BoundedTtlCache T V × Option V :=
  match c.entries.lookup key with
  | none => (c, none)
  | some entry =>
    if entry.expiresAt ≤ now then (c.delete key, none)
    else
      ({ c with entries := InsertionMap.set (InsertionMap.delete c.entries key) key entry },
        some entry.value)

/-- **`set`**, which reads the clock in `deleteExpired` and once more. -/
def set (c : BoundedTtlCache T V) (key : String) (value : V) (bytes : Nat)
    (expiresAt now now' : T) : BoundedTtlCache T V × Bool :=
  let c := (c.delete key).deleteExpired now
  if expiresAt ≤ now' ∨ c.limits.maxBytes < bytes then (c, false)
  else
    let c := evict bytes c.entries c
    ({ c with
      entries := InsertionMap.set c.entries key ⟨value, bytes, expiresAt⟩
      totalBytes := c.totalBytes + bytes }, true)

end Methods

/-! ## Sizes -/

section Sizes

variable {T V : Type} {entries entries' : List (String × Entry T V)} {key : String}
variable {entry : Entry T V}

theorem totalSize_append :
    totalSize (entries ++ entries') = totalSize entries + totalSize entries' := by
  rw [totalSize, List.map_append, List.sum_append]
  rfl

theorem totalSize_sublist (h : entries'.Sublist entries) :
    totalSize entries' ≤ totalSize entries := by
  induction h with
  | slnil => exact Nat.le_refl _
  | cons x _ ih => exact Nat.le_trans ih (Nat.le_add_left _ x.2.bytes)
  | cons_cons x _ ih => exact Nat.add_le_add_left ih x.2.bytes

theorem totalSize_perm (h : entries'.Perm entries) : totalSize entries' = totalSize entries :=
  (h.map _).sum_eq

theorem totalSize_delete (h : Distinct entries) (hlookup : entries.lookup key = some entry) :
    totalSize (InsertionMap.delete entries key) + entry.bytes = totalSize entries := by
  rw [← totalSize_perm (touch_perm h hlookup), totalSize_append]
  rfl

end Sizes

/-! ## What a method does to a cache whose bytes are accounted for -/

section Accounts

variable {T V : Type} {c : BoundedTtlCache T V} {key k : String} {e : Entry T V} {bytes : Nat}

/-- No key stands twice, and the bytes are those of the entries. -/
structure Accounted (c : BoundedTtlCache T V) : Prop where
  keys : Distinct c.entries
  bytes : c.totalBytes = totalSize c.entries

def Room (limits : BoundedTtlCacheLimits) (entries : List (String × Entry T V)) (bytes : Nat) :
    Prop :=
  entries.length < limits.maxEntries ∧ totalSize entries + bytes ≤ limits.maxBytes

theorem fits_iff (h : c.Accounted) : c.fits bytes = true ↔ Room c.limits c.entries bytes := by
  have hbytes := h.bytes
  rw [fits, Bool.and_eq_true, decide_eq_true_iff, decide_eq_true_iff, Room]
  refine and_congr_right fun _ => ?_
  omega

@[simp] theorem delete_limits : (c.delete key).limits = c.limits := by
  unfold delete
  split <;> rfl

@[simp] theorem delete_entries : (c.delete key).entries = InsertionMap.delete c.entries key := by
  unfold delete
  split
  · rfl
  · exact (delete_of_absent ‹_›).symm

theorem Accounted.delete (h : c.Accounted) : (c.delete key).Accounted := by
  constructor
  · rw [delete_entries]
    exact h.keys.sublist delete_sublist
  · unfold BoundedTtlCache.delete
    split
    · have hsize := totalSize_delete h.keys ‹_›
      have hbytes := h.bytes
      dsimp only
      omega
    · exact h.bytes

/-- **The loop evicts from the front**, as long as there is no room. -/
theorem evict_spec (h : c.Accounted) (bytes : Nat) : ∃ gone kept, c.entries = gone ++ kept ∧
    (evict bytes c.entries c).Accounted ∧ (evict bytes c.entries c).entries = kept ∧
    (evict bytes c.entries c).limits = c.limits ∧ (kept = [] ∨ Room c.limits kept bytes) ∧
    ∀ before x after, gone = before ++ x :: after → ¬Room c.limits (x :: after ++ kept) bytes := by
  generalize hentries : c.entries = entries
  induction entries generalizing c with
  | nil =>
    exact ⟨[], [], rfl, h, hentries, rfl, .inl rfl, fun before x after hnil => by simp at hnil⟩
  | cons x rest ih =>
    obtain ⟨k, e⟩ := x
    rw [evict]
    split
    · rename_i hfits
      refine ⟨[], (k, e) :: rest, rfl, h, hentries, rfl, .inr ?_,
        fun before x after hnil => by simp at hnil⟩
      rw [← hentries]
      exact (fits_iff h).mp hfits
    · rename_i hfull
      have hrest : (c.delete k).entries = rest := by
        rw [delete_entries, hentries]
        exact delete_cons_self (hentries ▸ h.keys)
      obtain ⟨gone, kept, hsplit, haccounted, hkept, hlimits, hroom, hgone⟩ := ih h.delete hrest
      rw [delete_limits] at hlimits hroom hgone
      refine ⟨(k, e) :: gone, kept, by rw [hsplit]; rfl, haccounted, hkept, hlimits, hroom, ?_⟩
      intro before x after heq
      rcases List.cons_eq_append_iff.mp heq with ⟨-, hhead⟩ | ⟨before', -, htail⟩
      · -- the first entry was evicted since nothing more fitted
        cases hhead
        rw [List.cons_append, ← hsplit, ← hentries]
        exact fun hroom => hfull ((fits_iff h).mpr hroom)
      · exact hgone before' x after htail

variable [LinearOrder T] {now : T}

theorem deleteExpired_foldl (h : c.Accounted) {seen rest : List (String × Entry T V)}
    (hentries : c.entries = seen ++ rest) :
    let c' := rest.foldl (fun c x => if x.2.expiresAt ≤ now then c.delete x.1 else c) c
    c'.Accounted ∧ c'.limits = c.limits ∧
      c'.entries = seen ++ rest.filter fun x => decide (now < x.2.expiresAt) := by
  induction rest generalizing c seen with
  | nil => exact ⟨h, rfl, hentries⟩
  | cons x rest ih =>
    rw [List.foldl_cons]
    split
    · rename_i hexpired
      have hgone : (c.delete x.1).entries = seen ++ rest := by
        have hdistinct : Distinct (seen ++ x :: rest) := hentries ▸ h.keys
        rw [delete_entries, hentries, InsertionMap.delete, List.filter_append]
        have hmid := List.nodup_middle.mp (by simpa [Distinct] using hdistinct)
        congr 1
        · refine List.filter_eq_self.mpr fun y hy => bne_iff_ne.mpr fun heq => ?_
          exact (List.nodup_cons.mp hmid).1 (heq ▸ List.mem_append_left _ (List.mem_map_of_mem hy))
        · exact delete_cons_self (hdistinct.sublist (List.sublist_append_right _ _))
      obtain ⟨haccounted, hlimits, hrest⟩ := ih h.delete hgone
      refine ⟨haccounted, hlimits.trans delete_limits, hrest.trans ?_⟩
      rw [List.filter_cons_of_neg (by simpa using hexpired)]
    · rename_i hfresh
      have hseen : c.entries = (seen ++ [x]) ++ rest := by rw [hentries, List.append_assoc]; rfl
      obtain ⟨haccounted, hlimits, hrest⟩ := ih h hseen
      refine ⟨haccounted, hlimits, hrest.trans ?_⟩
      rw [List.filter_cons_of_pos (by simpa using hfresh), List.append_assoc]
      rfl

/-- **`deleteExpired`** keeps the entries that have not expired. -/
theorem deleteExpired_spec (h : c.Accounted) (now : T) : (c.deleteExpired now).Accounted ∧
    (c.deleteExpired now).limits = c.limits ∧
    (c.deleteExpired now).entries = c.entries.filter fun x => decide (now < x.2.expiresAt) :=
  deleteExpired_foldl h (show c.entries = [] ++ c.entries from rfl)

def live (c : BoundedTtlCache T V) (key : String) (now : T) : List (String × Entry T V) :=
  c.entries.filter fun x => x.1 != key && decide (now < x.2.expiresAt)

theorem dropped_spec (h : c.Accounted) (key : String) (now : T) :
    ((c.delete key).deleteExpired now).Accounted ∧
    ((c.delete key).deleteExpired now).limits = c.limits ∧
    ((c.delete key).deleteExpired now).entries = c.live key now := by
  obtain ⟨haccounted, hlimits, hentries⟩ := deleteExpired_spec h.delete now
  refine ⟨haccounted, hlimits.trans delete_limits, hentries.trans ?_⟩
  rw [delete_entries, InsertionMap.delete, List.filter_filter]
  exact List.filter_congr fun x _ => Bool.and_comm _ _

/-- A `set` that caches nothing. -/
structure Refused (c c' : BoundedTtlCache T V) (key : String) (now : T) : Prop where
  accounted : c'.Accounted
  limits : c'.limits = c.limits
  entries : c'.entries = c.live key now

/-- A `set` that caches the entry, after it has evicted the entries of `gone`. -/
structure Cached (c c' : BoundedTtlCache T V) (key : String) (entry : Entry T V) (now : T)
    (gone kept : List (String × Entry T V)) : Prop where
  accounted : c'.Accounted
  limits : c'.limits = c.limits
  fresh : entry.bytes ≤ c.limits.maxBytes
  split : c.live key now = gone ++ kept
  entries : c'.entries = kept ++ [(key, entry)]
  room : kept = [] ∨ Room c.limits kept entry.bytes
  full : ∀ before x after, gone = before ++ x :: after →
    ¬Room c.limits (x :: after ++ kept) entry.bytes

theorem lookup_live_self : (c.live key now).lookup key = none :=
  lookup_eq_none.mpr fun _ hx =>
    bne_iff_ne.mp (Bool.and_eq_true_iff.mp (List.mem_filter.mp hx).2).1

/-- **What `set` does.** -/
theorem set_spec (h : c.Accounted) (key : String) (value : V) (bytes : Nat)
    (expiresAt now now' : T) :
    (c.set key value bytes expiresAt now now').2 = false ∧
      Refused c (c.set key value bytes expiresAt now now').1 key now ∨
    (c.set key value bytes expiresAt now now').2 = true ∧
      ∃ gone kept, Cached c (c.set key value bytes expiresAt now now').1 key
        ⟨value, bytes, expiresAt⟩ now gone kept := by
  obtain ⟨haccounted, hlimits, hlive⟩ := dropped_spec h key now
  rw [set]
  dsimp only
  split
  · exact .inl ⟨rfl, haccounted, hlimits, hlive⟩
  · rename_i haccepted
    rw [not_or, Nat.not_lt, hlimits] at haccepted
    obtain ⟨gone, kept, hsplit, hevicted, hkept, hevictedLimits, hroom, hfull⟩ :=
      evict_spec haccounted bytes
    rw [hlimits] at hevictedLimits hroom hfull
    have habsent : kept.lookup key = none := by
      refine lookup_eq_none.mpr fun x hx => ?_
      have hmem : x ∈ c.live key now := hlive ▸ hsplit ▸ List.mem_append_right _ hx
      exact lookup_eq_none.mp lookup_live_self x hmem
    have hentries : InsertionMap.set (evict bytes ((c.delete key).deleteExpired now).entries
        ((c.delete key).deleteExpired now)).entries key ⟨value, bytes, expiresAt⟩ =
          kept ++ [(key, ⟨value, bytes, expiresAt⟩)] := by
      rw [hkept]
      exact set_of_absent habsent
    refine .inr ⟨rfl, gone, kept, ⟨?_, ?_⟩, hevictedLimits, haccepted.2, hlive ▸ hsplit, hentries,
      hroom, hfull⟩
    · show Distinct (InsertionMap.set _ key _)
      rw [hentries]
      exact Distinct.append (hkept ▸ hevicted.keys) habsent
    · show _ + (bytes : Int) = (totalSize (InsertionMap.set _ key _) : Int)
      rw [hentries, totalSize_append, hevicted.bytes, hkept]
      simp [totalSize]

/-- A `get` that finds an entry that has not expired. -/
structure Touched (c c' : BoundedTtlCache T V) (key : String) (entry : Entry T V) : Prop where
  accounted : c'.Accounted
  limits : c'.limits = c.limits
  entries : c'.entries = InsertionMap.delete c.entries key ++ [(key, entry)]

/-- **What `get` does.** -/
theorem get_spec (h : c.Accounted) (key : String) (now : T) :
    c.entries.lookup key = none ∧ c.get key now = (c, none) ∨
    ∃ entry, c.entries.lookup key = some entry ∧
      (entry.expiresAt ≤ now ∧ c.get key now = (c.delete key, none) ∨
        now < entry.expiresAt ∧ (c.get key now).2 = some entry.value ∧
          Touched c (c.get key now).1 key entry) := by
  rw [get]
  split
  · exact .inl ⟨‹_›, rfl⟩
  · rename_i entry hlookup
    refine .inr ⟨entry, hlookup, ?_⟩
    split
    · exact .inl ⟨‹_›, rfl⟩
    · have hfresh : now < entry.expiresAt := not_le.mp ‹_›
      refine .inr ⟨hfresh, rfl, ⟨?_, ?_⟩, rfl, set_delete⟩
      · show Distinct (InsertionMap.set _ key entry)
        rw [set_delete]
        exact Distinct.append (h.keys.sublist delete_sublist) lookup_delete_self
      · show c.totalBytes = (totalSize (InsertionMap.set _ key entry) : Int)
        rw [set_delete, totalSize_perm (touch_perm h.keys hlookup)]
        exact h.bytes

end Accounts

end BoundedTtlCache

end Eudiplo
