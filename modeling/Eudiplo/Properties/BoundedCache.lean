import Eudiplo.Shared.BoundedTtlCache
import Mathlib.Data.Nat.Basic

/-!
# A bounded cache keeps its bounds and its promises

Over every history of calls under a clock that does not go back: the bounds hold, `get` returns
what the last `set` of the key has cached as long as it is not expired, deleted or evicted, and
`set` evicts only the least recently used entries, and only while the new one does not fit
(`bounded_cache`).
-/

namespace Eudiplo

namespace BoundedTtlCache

open InsertionMap

variable {T V : Type} [LinearOrder T]

/-! ## The claim -/

inductive Call (T V : Type) where
  | get (key : String) (now : T)
  | set (key : String) (value : V) (bytes : Nat) (expiresAt now now' : T)
  | delete (key : String)
  | deleteExpired (now : T)
  | clear

def Call.reads : Call T V → List T
  | .get _ now => [now]
  | .set _ _ _ _ now now' => [now', now]
  | .deleteExpired now => [now]
  | _ => []

def step (c : BoundedTtlCache T V) : Call T V → BoundedTtlCache T V
  | .get key now => (c.get key now).1
  | .set key value bytes expiresAt now now' => (c.set key value bytes expiresAt now now').1
  | .delete key => c.delete key
  | .deleteExpired now => c.deleteExpired now
  | .clear => c.clear

def after (limits : BoundedTtlCacheLimits) : List (Call T V) → BoundedTtlCache T V
  | [] => new limits
  | call :: older => (after limits older).step call

def readings (history : List (Call T V)) : List T := history.flatMap Call.reads

/-- The `set` evicts the entry of another key, which has not expired. -/
def Evicts (c : BoundedTtlCache T V) (key : String) (value : V) (bytes : Nat)
    (expiresAt now now' : T) (k : String) (entry : Entry T V) : Prop :=
  k ≠ key ∧ c.entries.lookup k = some entry ∧ now < entry.expiresAt ∧
    (c.set key value bytes expiresAt now now').1.entries.lookup k = none

/-- **The entry of a key** in a history: what its last `set` cached, if it was accepted and the
key was not deleted and not evicted since. -/
inductive Holds (limits : BoundedTtlCacheLimits) (key : String) :
    List (Call T V) → Entry T V → Prop where
  | accepted {older : List (Call T V)} {value : V} {bytes : Nat} {expiresAt now now' : T} :
    ((after limits older).set key value bytes expiresAt now now').2 = true →
      Holds limits key (.set key value bytes expiresAt now now' :: older)
        ⟨value, bytes, expiresAt⟩
  | beside {older : List (Call T V)} {entry : Entry T V} {k : String} {value : V} {bytes : Nat}
      {expiresAt now now' : T} :
    Holds limits key older entry → k ≠ key →
      ¬Evicts (after limits older) k value bytes expiresAt now now' key entry →
        Holds limits key (.set k value bytes expiresAt now now' :: older) entry
  | get {older : List (Call T V)} {entry : Entry T V} {k : String} {now : T} :
    Holds limits key older entry → Holds limits key (.get k now :: older) entry
  | delete {older : List (Call T V)} {entry : Entry T V} {k : String} :
    Holds limits key older entry → k ≠ key → Holds limits key (.delete k :: older) entry
  | deleteExpired {older : List (Call T V)} {entry : Entry T V} {now : T} :
    Holds limits key older entry → Holds limits key (.deleteExpired now :: older) entry

def uses (c : BoundedTtlCache T V) (key : String) : Call T V → Bool
  | .get k now => k == key && (c.get k now).2.isSome
  | .set k value bytes expiresAt now now' =>
    k == key && (c.set k value bytes expiresAt now now').2
  | _ => false

def lastUse (limits : BoundedTtlCacheLimits) : List (Call T V) → String → Nat
  | [], _ => 0
  | call :: older, key =>
    if uses (after limits older) key call then older.length + 1 else lastUse limits older key

/-- **The bounds and the promises** of a cache, after a history. -/
structure KeepsPromises (limits : BoundedTtlCacheLimits) (history : List (Call T V)) : Prop where
  size : (after limits history).entries.length ≤ limits.maxEntries
  bytes : (after limits history).totalBytes = totalSize (after limits history).entries
  budget : (after limits history).totalBytes ≤ limits.maxBytes
  /-- `get` returns the entry of the key, and nothing else. -/
  get : ∀ key now, (∀ earlier ∈ readings history, earlier ≤ now) → ∀ value,
    ((after limits history).get key now).2 = some value ↔
      ∃ entry, Holds limits key history entry ∧ now < entry.expiresAt ∧ entry.value = value
  /-- What a `set` evicts is the least recently used of the entries that have not expired and
  that were not evicted before it, and beside these the new one does not fit. -/
  evicts : ∀ newer older key value bytes expiresAt now now' k entry,
    history = newer ++ .set key value bytes expiresAt now now' :: older →
    Evicts (after limits older) key value bytes expiresAt now now' k entry →
    ∃ gone rest,
      ((after limits older).entries.filter fun x => x.1 != key && decide (now < x.2.expiresAt)) =
        gone ++ (k, entry) :: rest ∧
      (∀ x ∈ gone, Evicts (after limits older) key value bytes expiresAt now now' x.1 x.2) ∧
      (∀ x ∈ rest, lastUse limits older k < lastUse limits older x.1) ∧
      ¬Room limits ((k, entry) :: rest) bytes

/-! ## Bounds -/

variable {limits : BoundedTtlCacheLimits} {c c' : BoundedTtlCache T V} {key k : String}
variable {entry e : Entry T V} {history older : List (Call T V)}

/-- **The invariant** of a cache between any two calls. -/
structure Sound (limits : BoundedTtlCacheLimits) (c : BoundedTtlCache T V) : Prop where
  accounted : c.Accounted
  count : c.entries.length ≤ limits.maxEntries
  budget : totalSize c.entries ≤ limits.maxBytes
  limits : c.limits = limits

omit [LinearOrder T] in
theorem Sound.sublist (h : Sound limits c) (haccounted : c'.Accounted)
    (hlimits : c'.limits = c.limits) (hsub : c'.entries.Sublist c.entries) : Sound limits c' :=
  ⟨haccounted, Nat.le_trans hsub.length_le h.count,
    Nat.le_trans (totalSize_sublist hsub) h.budget, hlimits.trans h.limits⟩

theorem live_sublist {now : T} : (c.live key now).Sublist c.entries := List.filter_sublist

/-- **One call keeps the bounds.** -/
theorem sound_step (hentries : 1 ≤ limits.maxEntries) (h : Sound limits c) (call : Call T V) :
    Sound limits (c.step call) := by
  cases call with
  | get key now =>
    rcases get_spec h.accounted key now with
      ⟨-, hget⟩ | ⟨entry, hlookup, ⟨-, hget⟩ | ⟨-, -, htouched⟩⟩
    · rwa [step, hget]
    · rw [step, hget]
      exact h.sublist h.accounted.delete delete_limits (delete_entries ▸ delete_sublist)
    · have hperm := touch_perm h.accounted.keys hlookup
      rw [← htouched.entries] at hperm
      exact ⟨htouched.accounted, hperm.length_eq ▸ h.count, totalSize_perm hperm ▸ h.budget,
        htouched.limits.trans h.limits⟩
  | set key value bytes expiresAt now now' =>
    rcases set_spec h.accounted key value bytes expiresAt now now' with
      ⟨-, hrefused⟩ | ⟨-, gone, kept, hcached⟩
    · exact h.sublist hrefused.accounted hrefused.limits (hrefused.entries ▸ live_sublist)
    · have hfresh := hcached.fresh
      have hroom : kept.length + 1 ≤ limits.maxEntries ∧
          totalSize kept + bytes ≤ limits.maxBytes := by
        rw [h.limits] at hfresh
        rcases hcached.room with rfl | hroom
        · exact ⟨hentries, (Nat.zero_add bytes).symm ▸ hfresh⟩
        · rw [h.limits] at hroom
          exact hroom
      refine ⟨hcached.accounted, ?_, ?_, hcached.limits.trans h.limits⟩
      · rw [step, hcached.entries, List.length_append]
        exact hroom.1
      · rw [step, hcached.entries, totalSize_append]
        exact hroom.2
  | delete key =>
    exact h.sublist h.accounted.delete delete_limits (delete_entries ▸ delete_sublist)
  | deleteExpired now =>
    obtain ⟨haccounted, hlimits, hfresh⟩ := deleteExpired_spec h.accounted now
    exact h.sublist haccounted hlimits (hfresh ▸ List.filter_sublist)
  | clear =>
    exact h.sublist ⟨List.nodup_nil, rfl⟩ rfl (List.nil_sublist _)

theorem sound_after (hentries : 1 ≤ limits.maxEntries) (history : List (Call T V)) :
    Sound limits (after limits history) := by
  induction history with
  | nil => exact ⟨⟨List.nodup_nil, rfl⟩, Nat.zero_le _, Nat.zero_le _, rfl⟩
  | cons call older ih => exact sound_step hentries ih call

/-! ## What is held -/

/-- **The invariant** of a history: what is cached is held, and what is held is cached unless it
has expired by a reading of the clock. -/
structure Agrees (limits : BoundedTtlCacheLimits) (history : List (Call T V)) : Prop where
  held : ∀ key entry, (after limits history).entries.lookup key = some entry →
    Holds limits key history entry
  cached : ∀ key entry, Holds limits key history entry →
    (after limits history).entries.lookup key = some entry ∨
      ∃ now ∈ readings history, entry.expiresAt ≤ now

theorem lookup_live_other {now : T} (hdistinct : Distinct c.entries) (hk : k ≠ key) :
    (c.live key now).lookup k = some e ↔ c.entries.lookup k = some e ∧ now < e.expiresAt := by
  constructor
  · intro h
    have hlive := (List.mem_filter.mp (mem_of_lookup h)).2
    exact ⟨lookup_sublist hdistinct live_sublist h,
      of_decide_eq_true (Bool.and_eq_true_iff.mp hlive).2⟩
  · rintro ⟨h, hfresh⟩
    refine lookup_of_mem (hdistinct.sublist live_sublist)
      (List.mem_filter.mpr ⟨mem_of_lookup h, ?_⟩)
    exact Bool.and_eq_true_iff.mpr ⟨bne_iff_ne.mpr hk, decide_eq_true hfresh⟩

omit [LinearOrder T] in
theorem reading_cons {call : Call T V} {now : T} (h : now ∈ readings history) :
    now ∈ readings (call :: history) := List.mem_append_right _ h

theorem cached_later {call : Call T V}
    (h : (after limits history).entries.lookup key = some e ∨
      ∃ now ∈ readings history, e.expiresAt ≤ now)
    (hkept : (after limits history).entries.lookup key = some e →
      (after limits (call :: history)).entries.lookup key = some e ∨
        ∃ now ∈ call.reads, e.expiresAt ≤ now) :
    (after limits (call :: history)).entries.lookup key = some e ∨
      ∃ now ∈ readings (call :: history), e.expiresAt ≤ now := by
  rcases h with hcached | ⟨now, hnow, hexpired⟩
  · rcases hkept hcached with hstill | ⟨now, hnow, hexpired⟩
    · exact .inl hstill
    · exact .inr ⟨now, List.mem_append_left _ hnow, hexpired⟩
  · exact .inr ⟨now, reading_cons hnow, hexpired⟩

theorem lookup_get {now : T} (h : c.Accounted) :
    (c.get k now).1.entries.lookup key = some e ↔
      c.entries.lookup key = some e ∧ (key = k → now < e.expiresAt) := by
  rcases get_spec h k now with
    ⟨hnone, hget⟩ | ⟨entry, hlookup, ⟨hexpired, hget⟩ | ⟨hfresh, -, htouched⟩⟩
  · rw [hget]
    refine ⟨fun hcached => ⟨hcached, ?_⟩, And.left⟩
    rintro rfl
    rw [hnone] at hcached
    cases hcached
  · rw [hget, delete_entries]
    by_cases hkey : key = k
    · subst hkey
      rw [lookup_delete_self, hlookup]
      refine ⟨fun hcached => (by cases hcached), ?_⟩
      rintro ⟨hentry, hlater⟩
      cases hentry
      exact absurd (hlater rfl) (not_lt.mpr hexpired)
    · rw [lookup_delete_other hkey]
      exact ⟨fun hcached => ⟨hcached, fun heq => absurd heq hkey⟩, And.left⟩
  · rw [htouched.entries]
    by_cases hkey : key = k
    · subst hkey
      rw [lookup_append_self lookup_delete_self, hlookup]
      refine ⟨fun hentry => ⟨hentry, fun _ => ?_⟩, And.left⟩
      cases hentry
      exact hfresh
    · rw [lookup_append_other hkey, lookup_delete_other hkey]
      exact ⟨fun hcached => ⟨hcached, fun heq => absurd heq hkey⟩, And.left⟩

section Sets

variable {value : V} {bytes : Nat} {expiresAt now now' : T}

theorem lookup_set_self (h : c.Accounted) :
    (c.set k value bytes expiresAt now now').1.entries.lookup k = some e ↔
      (c.set k value bytes expiresAt now now').2 = true ∧ e = ⟨value, bytes, expiresAt⟩ := by
  rcases set_spec h k value bytes expiresAt now now' with
    ⟨hanswer, hrefused⟩ | ⟨hanswer, gone, kept, hcaches⟩
  · rw [hrefused.entries, lookup_live_self, hanswer]
    exact ⟨fun hcached => (nomatch hcached), fun ⟨haccepted, _⟩ => (nomatch haccepted)⟩
  · have habsent : kept.lookup k = none := lookup_eq_none.mpr fun x hx =>
      lookup_eq_none.mp lookup_live_self x (hcaches.split ▸ List.mem_append_right _ hx)
    rw [hcaches.entries, lookup_append_self habsent, hanswer]
    exact ⟨fun hentry => ⟨rfl, (Option.some.inj hentry).symm⟩, fun ⟨_, hentry⟩ => by rw [hentry]⟩

theorem lookup_set_other (h : c.Accounted) (hne : key ≠ k)
    (hcached : (c.set k value bytes expiresAt now now').1.entries.lookup key = some e) :
    c.entries.lookup key = some e ∧ now < e.expiresAt := by
  rw [← lookup_live_other h.keys hne]
  rcases set_spec h k value bytes expiresAt now now' with ⟨-, hrefused⟩ | ⟨-, gone, kept, hcaches⟩
  · rwa [hrefused.entries] at hcached
  · rw [hcaches.entries, lookup_append_other hne] at hcached
    exact lookup_sublist (h.keys.sublist live_sublist)
      (hcaches.split ▸ List.sublist_append_right _ _) hcached

end Sets

/-- **One call keeps the agreement.** -/
theorem agrees_cons (hsound : Sound limits (after limits history)) (h : Agrees limits history)
    (call : Call T V) : Agrees limits (call :: history) := by
  have hdistinct := hsound.accounted.keys
  cases call with
  | get k now =>
    constructor
    · intro key e hcached
      exact .get (h.held key e ((lookup_get hsound.accounted).mp hcached).1)
    · rintro key e (_ | _ | hheld | _ | _)
      refine cached_later (h.cached key e hheld) fun hcached => ?_
      by_cases hfresh : now < e.expiresAt
      · exact .inl ((lookup_get hsound.accounted).mpr ⟨hcached, fun _ => hfresh⟩)
      · exact .inr ⟨now, List.mem_singleton_self now, not_lt.mp hfresh⟩
  | set k value bytes expiresAt now now' =>
    constructor
    · intro key e hcached
      by_cases hkey : key = k
      · subst hkey
        obtain ⟨haccepted, rfl⟩ := (lookup_set_self hsound.accounted).mp hcached
        exact .accepted haccepted
      · refine .beside (h.held key e (lookup_set_other hsound.accounted hkey hcached).1)
          (Ne.symm hkey) fun hevicts => ?_
        cases hevicts.2.2.2.symm.trans hcached
    · rintro key e (haccepted | ⟨hheld, hne, hnot⟩ | _ | _ | _)
      · exact .inl ((lookup_set_self hsound.accounted).mpr ⟨haccepted, rfl⟩)
      · refine cached_later (h.cached key e hheld) fun hcached => ?_
        by_cases hfresh : now < e.expiresAt
        · -- the entry is still there, since it was not evicted
          refine .inl ?_
          cases hlater : (after limits (.set k value bytes expiresAt now now' ::
            history)).entries.lookup key with
          | none => exact absurd ⟨hne.symm, hcached, hfresh, hlater⟩ hnot
          | some e' =>
            have hbefore := (lookup_set_other hsound.accounted hne.symm hlater).1
            exact hbefore.symm.trans hcached
        · exact .inr ⟨now, List.mem_cons_of_mem _ (List.mem_singleton_self now),
            not_lt.mp hfresh⟩
  | delete k =>
    have hentries : ((after limits history).step (.delete k)).entries =
        InsertionMap.delete (after limits history).entries k := delete_entries
    constructor
    · intro key e hcached
      have hne : key ≠ k := by
        rintro rfl
        rw [after, hentries, lookup_delete_self] at hcached
        cases hcached
      rw [after, hentries, lookup_delete_other hne] at hcached
      exact .delete (h.held key e hcached) hne.symm
    · rintro key e (_ | _ | _ | ⟨hheld, hne⟩ | _)
      refine cached_later (h.cached key e hheld) fun hcached => .inl ?_
      rw [after, hentries, lookup_delete_other hne.symm]
      exact hcached
  | deleteExpired now =>
    obtain ⟨-, -, hentries⟩ := deleteExpired_spec hsound.accounted now
    constructor
    · intro key e hcached
      rw [after, step, hentries] at hcached
      exact .deleteExpired (h.held key e (lookup_sublist hdistinct List.filter_sublist hcached))
    · rintro key e (_ | _ | _ | _ | hheld)
      refine cached_later (h.cached key e hheld) fun hcached => ?_
      by_cases hfresh : now < e.expiresAt
      · rw [after, step, hentries]
        refine .inl (lookup_of_mem (hdistinct.sublist List.filter_sublist) ?_)
        exact List.mem_filter.mpr ⟨mem_of_lookup hcached, decide_eq_true hfresh⟩
      · exact .inr ⟨now, List.mem_singleton_self now, not_lt.mp hfresh⟩
  | clear =>
    refine ⟨fun key e hcached => ?_, fun key e hheld => ?_⟩
    · cases hcached
    · cases hheld

theorem agrees (hentries : 1 ≤ limits.maxEntries) (history : List (Call T V)) :
    Agrees limits history := by
  induction history with
  | nil => exact ⟨fun key e hcached => (nomatch hcached), fun key e hheld => (nomatch hheld)⟩
  | cons call older ih => exact agrees_cons (sound_after hentries older) ih call

/-! ## Recency -/

/-- The entries are in the order in which their keys were used last. -/
def Recent (limits : BoundedTtlCacheLimits) (history : List (Call T V))
    (entries : List (String × Entry T V)) : Prop :=
  entries.Pairwise fun x y => lastUse limits history x.1 < lastUse limits history y.1

theorem lastUse_le (history : List (Call T V)) (key : String) :
    lastUse limits history key ≤ history.length := by
  induction history with
  | nil => exact Nat.le_refl 0
  | cons call older ih =>
    rw [lastUse]
    split
    · exact Nat.le_refl _
    · exact Nat.le_succ_of_le ih

theorem recent_unused {call : Call T V} {entries entries' : List (String × Entry T V)}
    (h : Recent limits history entries) (hsub : entries'.Sublist entries)
    (hunused : ∀ k, uses (after limits history) k call = false) :
    Recent limits (call :: history) entries' := by
  refine (List.Pairwise.sublist hsub h).imp fun {x y} hlt => ?_
  rwa [lastUse, lastUse, if_neg (by simp [hunused]), if_neg (by simp [hunused])]

theorem recent_used {call : Call T V} {entries entries' : List (String × Entry T V)}
    (h : Recent limits history entries) (hsub : entries'.Sublist entries)
    (habsent : entries'.lookup key = none)
    (hused : ∀ k, uses (after limits history) k call = (key == k)) :
    Recent limits (call :: history) (entries' ++ [(key, e)]) := by
  have hother : ∀ x ∈ entries', lastUse limits (call :: history) x.1 =
      lastUse limits history x.1 := fun x hx => by
    have hne : x.1 ≠ key := lookup_eq_none.mp habsent x hx
    rw [lastUse, if_neg (by simp [hused, hne.symm])]
  have hself : lastUse limits (call :: history) key = history.length + 1 := by
    rw [lastUse, if_pos (by simp [hused])]
  refine List.pairwise_append.mpr ⟨?_, List.pairwise_singleton _ _, fun x hx y hy => ?_⟩
  · refine (List.Pairwise.sublist hsub h).imp_of_mem fun {x y} hx hy hlt => ?_
    rwa [hother x hx, hother y hy]
  · rw [List.mem_singleton.mp hy, hother x hx, hself]
    exact Nat.lt_succ_of_le (lastUse_le _ _)

/-- **The entries are in the order of their last uses**, after every history. -/
theorem recent_after (hentries : 1 ≤ limits.maxEntries) (history : List (Call T V)) :
    Recent limits history (after limits history).entries := by
  induction history with
  | nil => exact List.Pairwise.nil
  | cons call older ih =>
    have hsound := sound_after hentries older
    cases call with
    | get key now =>
      rcases get_spec hsound.accounted key now with
        ⟨-, hget⟩ | ⟨entry, -, ⟨-, hget⟩ | ⟨-, hanswer, htouched⟩⟩
      · rw [after, step, hget]
        exact recent_unused ih (List.Sublist.refl _) fun k => by simp [uses, hget]
      · rw [after, step, hget, delete_entries]
        exact recent_unused ih delete_sublist fun k => by simp [uses, hget]
      · rw [after, step, htouched.entries]
        exact recent_used ih delete_sublist lookup_delete_self
          fun k => by simp [uses, hanswer]
    | set key value bytes expiresAt now now' =>
      rcases set_spec hsound.accounted key value bytes expiresAt now now' with
          ⟨hanswer, hrefused⟩ | ⟨hanswer, gone, kept, hcaches⟩
      · rw [after, step, hrefused.entries]
        exact recent_unused ih live_sublist fun k => by simp [uses, hanswer]
      · have hkept : kept.Sublist ((after limits older).live key now) :=
          hcaches.split ▸ List.sublist_append_right _ _
        have habsent : kept.lookup key = none := lookup_eq_none.mpr fun x hx =>
          lookup_eq_none.mp lookup_live_self x (hkept.subset hx)
        rw [after, step, hcaches.entries]
        exact recent_used ih (hkept.trans live_sublist) habsent
          fun k => by simp [uses, hanswer]
    | delete key =>
      rw [after, step, delete_entries]
      exact recent_unused ih delete_sublist fun _ => rfl
    | deleteExpired now =>
      rw [after, step, (deleteExpired_spec hsound.accounted now).2.2]
      exact recent_unused ih List.filter_sublist fun _ => rfl
    | clear => exact List.Pairwise.nil

/-! ## Evictions -/

/-- **What a `set` evicts** comes first among the entries that have not expired. -/
theorem evicted_first {value : V} {bytes : Nat} {expiresAt now now' : T}
    (hsound : Sound limits (after limits older))
    (hrecent : Recent limits older (after limits older).entries)
    (h : Evicts (after limits older) key value bytes expiresAt now now' k entry) :
    ∃ gone rest, (after limits older).live key now = gone ++ (k, entry) :: rest ∧
      (∀ x ∈ gone, Evicts (after limits older) key value bytes expiresAt now now' x.1 x.2) ∧
      (∀ x ∈ rest, lastUse limits older k < lastUse limits older x.1) ∧
      ¬Room limits ((k, entry) :: rest) bytes := by
  obtain ⟨hne, hlookup, hfresh, hgone⟩ := h
  have hdistinct := hsound.accounted.keys
  have hlive : ((after limits older).live key now).lookup k = some entry :=
    (lookup_live_other hdistinct hne).mpr ⟨hlookup, hfresh⟩
  rcases set_spec hsound.accounted key value bytes expiresAt now now' with
    ⟨-, hrefused⟩ | ⟨-, gone, kept, hcaches⟩
  · rw [hrefused.entries, hlive] at hgone
    cases hgone
  · have hsplit := hcaches.split
    have hlost (x : String × Entry T V) (hx : x ∈ gone) :
        Evicts (after limits older) key value bytes expiresAt now now' x.1 x.2 := by
      have hmem : x ∈ (after limits older).live key now := hsplit ▸ List.mem_append_left _ hx
      have hkey := lookup_eq_none.mp lookup_live_self x hmem
      obtain ⟨hbefore, hlater⟩ := (lookup_live_other hdistinct hkey).mp
        (lookup_of_mem (hdistinct.sublist live_sublist) hmem)
      refine ⟨hkey, hbefore, hlater, ?_⟩
      rw [hcaches.entries, lookup_append_other hkey]
      -- no key of the evicted ones is kept
      refine lookup_eq_none.mpr fun y hy heq => ?_
      have hnodup : Distinct (gone ++ kept) := hsplit ▸ hdistinct.sublist live_sublist
      rw [Distinct, List.map_append, List.nodup_append] at hnodup
      exact hnodup.2.2 _ (List.mem_map_of_mem hx) _ (List.mem_map_of_mem hy) heq.symm
    have hmem : (k, entry) ∈ gone := by
      rcases List.mem_append.mp (hsplit ▸ mem_of_lookup hlive) with hleft | hright
      · exact hleft
      · rw [hcaches.entries, lookup_append_other hne] at hgone
        exact absurd rfl (lookup_eq_none.mp hgone _ hright)
    obtain ⟨before, later, rfl⟩ := List.append_of_mem hmem
    have hlist : (after limits older).live key now = before ++ (k, entry) :: (later ++ kept) := by
      rw [hsplit, List.append_assoc, List.cons_append]
    have horder : Recent limits older ((after limits older).live key now) :=
      List.Pairwise.sublist live_sublist hrecent
    rw [hlist] at horder
    refine ⟨before, later ++ kept, hlist, fun x hx => hlost x (List.mem_append_left _ hx),
      fun x hx => ?_, ?_⟩
    · exact (List.pairwise_cons.mp (List.pairwise_append.mp horder).2.1).1 x hx
    · rw [← hsound.limits]
      exact hcaches.full before (k, entry) later rfl

end BoundedTtlCache

open BoundedTtlCache InsertionMap in
/-- **A bounded cache keeps its bounds and its promises**, after every history of calls. -/
theorem bounded_cache {T V : Type} [LinearOrder T] (limits : BoundedTtlCacheLimits)
    (hentries : 1 ≤ limits.maxEntries) (history : List (Call T V)) :
    KeepsPromises limits history := by
  have hsound := sound_after hentries history
  refine ⟨hsound.count, hsound.accounted.bytes, ?_, fun key now hlater value => ?_,
    fun newer older key value bytes expiresAt now now' k entry hhistory hevicts => ?_⟩
  · rw [hsound.accounted.bytes]
    exact Int.ofNat_le.mpr hsound.budget
  · have hagrees := agrees hentries history
    have hcached {entry : Entry T V} (hheld : Holds limits key history entry)
        (hfresh : now < entry.expiresAt) :
        (after limits history).entries.lookup key = some entry := by
      rcases hagrees.cached key entry hheld with hcached | ⟨earlier, hread, hexpired⟩
      · exact hcached
      · exact absurd (hexpired.trans (hlater earlier hread)) (not_le.mpr hfresh)
    rcases get_spec hsound.accounted key now with
      ⟨hnone, hget⟩ | ⟨entry, hlookup, ⟨hexpired, hget⟩ | ⟨hfresh, hanswer, -⟩⟩
    · rw [hget]
      refine ⟨fun hanswer => (by cases hanswer), ?_⟩
      rintro ⟨entry, hheld, hfresh, -⟩
      cases hnone.symm.trans (hcached hheld hfresh)
    · rw [hget]
      refine ⟨fun hanswer => (by cases hanswer), ?_⟩
      rintro ⟨entry', hheld, hfresh, -⟩
      cases hlookup.symm.trans (hcached hheld hfresh)
      exact absurd hexpired (not_le.mpr hfresh)
    · rw [hanswer]
      constructor
      · intro hvalue
        exact ⟨entry, hagrees.held key entry hlookup, hfresh, Option.some.inj hvalue⟩
      · rintro ⟨entry', hheld, hfresh', rfl⟩
        cases hlookup.symm.trans (hcached hheld hfresh')
        rfl
  · exact evicted_first (sound_after hentries older) (recent_after hentries older) hevicts

open BoundedTtlCache in
/-- A cache of two entries evicts the least recently used one, as the theorem says. -/
theorem bounded_cache_full :
    KeepsPromises ⟨2, 10⟩ [.set "c" 3 4 9 2 2, .get "a" 1, .set "b" 2 4 9 1 1,
      .set "a" (1 : Nat) 4 (9 : Nat) 0 0] :=
  bounded_cache ⟨2, 10⟩ (by decide) _

end Eudiplo
