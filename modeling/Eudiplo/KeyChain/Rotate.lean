import Eudiplo.Shared.Values
import Mathlib.Tactic

/-!
# Rotating a key chain

`KeyChainService.rotate` and the scheduled check of `KeyRotationService`, on any number of replicas.
A rotation reads the row of the chain, generates a key with its certificate, and writes the columns
of the rotation; what other replicas do may fall between.  Keys are numbered by their generation.
-/

namespace Eudiplo

namespace KeyChainRotate

structure KeyCertificate where
  subject : Nat
  issuer : Nat
  notAfter : Time
  deriving DecidableEq

/-- `KeyChainEntity`: the columns of keys and of the rotation. -/
structure KeyChainEntity where
  activeJwk : Nat
  activeCertificate : KeyCertificate
  rootJwk : Option Nat := none
  rootCertificate : Option KeyCertificate := none
  previousJwk : Option Nat := none
  previousCertificate : Option KeyCertificate := none
  previousKeyExpiry : Option Time := none
  rotationEnabled : Bool := false
  rotationIntervalDays : Option Nat := none
  certValidityDays : Option Nat := none
  createdAt : Time := 0
  lastRotatedAt : Option Time := none

def daysMs (days : Nat) : Nat := days * 24 * 60 * 60 * 1000

def gracePeriodDays : Nat := 30

def KeyChainEntity.getPublicKeys (row : KeyChainEntity) : List Nat :=
  row.activeJwk :: row.previousJwk.toList

/-- `certValidityDays || 365`. -/
def validityDays (row : KeyChainEntity) : Nat :=
  match row.certValidityDays with
  | none | some 0 => 365
  | some days => days

/-- The filter of `findKeyChainNeedingRotation`. -/
def needsRotation (now : Time) (row : KeyChainEntity) : Bool :=
  row.rotationEnabled &&
    match row.rotationIntervalDays with
    | none | some 0 => false
    | some days => decide ((row.lastRotatedAt.getD row.createdAt) + daysMs days ≤ now)

def newCertificate (row : KeyChainEntity) (now : Time) (key : Nat) : KeyCertificate where
  subject := key
  issuer := match row.rootJwk, row.rootCertificate with
    | some root, some _ => root
    | _, _ => key
  notAfter := now + daysMs (validityDays row)

/-- The `update` of a rotation that read this row at this time. -/
def rotated (stored read : KeyChainEntity) (startedAt : Time) (key : Nat) : KeyChainEntity :=
  { stored with
    activeJwk := key
    activeCertificate := newCertificate read startedAt key
    previousJwk := some read.activeJwk
    previousCertificate := some read.activeCertificate
    previousKeyExpiry := some (startedAt + daysMs gracePeriodDays)
    lastRotatedAt := some startedAt }

structure RetiredKey where
  key : Nat
  certificate : KeyCertificate
  expiry : Time
  deriving DecidableEq

/-- The row, the rotations that have read it, and what happened: the keys that signed and those that
were retired, the last first. -/
structure ChainState where
  now : Time
  row : KeyChainEntity
  /-- The next key that is generated. -/
  nextKey : Nat
  /-- The replicas whose scheduled check found the chain. -/
  found : Nat → Bool
  /-- What each replica's rotation has read, and when. -/
  rotating : Nat → Option (KeyChainEntity × Time)
  signed : List Nat
  retired : List RetiredKey

inductive RotationAction where
  | tick (ms : Nat)
  | sign
  /-- `checkForRotation` lists the chains. -/
  | check (replica : Nat)
  /-- `rotate` reads the row, by hand or for the check. -/
  | start (replica : Nat) (scheduled : Bool)
  /-- A call of `rotate` fails. -/
  | fail (replica : Nat)
  /-- `rotate` writes. -/
  | finish (replica : Nat)

def ChainState.setRotating (s : ChainState) (replica : Nat)
    (value : Option (KeyChainEntity × Time)) : ChainState :=
  { s with rotating := fun other => if other = replica then value else s.rotating other }

def ChainState.rotate (s : ChainState) (replica : Nat) (read : KeyChainEntity)
    (startedAt : Time) : ChainState :=
  { s.setRotating replica none with
    row := rotated s.row read startedAt s.nextKey
    nextKey := s.nextKey + 1
    retired :=
      ⟨read.activeJwk, read.activeCertificate, startedAt + daysMs gracePeriodDays⟩ :: s.retired }

/-- **What a step does**, if it can be taken. -/
def step (s : ChainState) : RotationAction → Option ChainState
  | .tick ms => some { s with now := s.now + ms }
  | .sign => some { s with signed := s.row.activeJwk :: s.signed }
  | .check replica => some { s with
      found := fun other => if other = replica then needsRotation s.now s.row else s.found other }
  | .start replica scheduled =>
    if scheduled && !s.found replica then none
    else some (s.setRotating replica (some (s.row, s.now)))
  | .fail replica => some (s.setRotating replica none)
  | .finish replica => (s.rotating replica).map fun read => s.rotate replica read.1 read.2

def run (s : ChainState) : List RotationAction → Option ChainState
  | [] => some s
  | action :: actions => (step s action).bind fun t => run t actions

def created (now : Time) (row : KeyChainEntity) : ChainState where
  now := now
  row := row
  nextKey := row.activeJwk + 1
  found _ := false
  rotating _ := none
  signed := []
  retired := []

end KeyChainRotate

end Eudiplo

/-!
# Keys in their grace period

There is one place for a previous key.  A rotation that finishes while the last one's key is in its
grace period drops that key, and one that read the row before another wrote it drops the key that
the other generated.  While neither happens, every state is `Consistent`.
-/

namespace Eudiplo

namespace KeyChainRotate

/-- **One rotation history**: a key that signed is published until the grace period that its
rotation fixed has passed, none is lost, and the columns are those of the last rotation. -/
structure Consistent (s : ChainState) : Prop where
  published : ∀ retired ∈ s.retired, retired.key ∈ s.signed → s.now < retired.expiry →
    retired.key ∈ s.row.getPublicKeys
  kept : ∀ key ∈ s.signed, key = s.row.activeJwk ∨ ∃ retired ∈ s.retired, retired.key = key
  certificate : s.row.activeCertificate.subject = s.row.activeJwk
  previousKey : s.row.previousJwk = s.retired.head?.map (·.key)
  previousCertificate : s.row.previousCertificate = s.retired.head?.map (·.certificate)
  previousExpiry : s.row.previousKeyExpiry = s.retired.head?.map (·.expiry)

/-- **A step that drops no key**: a rotation finishes on the key that it has read, and when the
previous key's grace period has passed. -/
def Careful (s : ChainState) : RotationAction → Prop
  | .finish replica => ∀ read, s.rotating replica = some read →
      read.1.activeJwk = s.row.activeJwk ∧
        ∀ expiry, s.row.previousKeyExpiry = some expiry → expiry ≤ s.now
  | _ => True

def CarefulRun (s : ChainState) : List RotationAction → Prop
  | [] => True
  | action :: actions => Careful s action ∧ ∀ t, step s action = some t → CarefulRun t actions

/-- The invariant of a run: a key whose grace period has not passed is the last one. -/
structure Guarded (s : ChainState) : Prop where
  consistent : Consistent s
  last : ∀ retired ∈ s.retired, s.now < retired.expiry → s.retired.head? = some retired

variable {s t : ChainState}

theorem Consistent.published_head (h : Consistent s) {retired : RetiredKey}
    (hhead : s.retired.head? = some retired) : retired.key ∈ s.row.getPublicKeys := by
  unfold KeyChainEntity.getPublicKeys
  rw [h.previousKey, hhead]
  exact List.mem_cons_of_mem _ List.mem_cons_self

theorem Guarded.congr (h : Guarded s) (hnow : t.now = s.now) (hrow : t.row = s.row)
    (hsigned : t.signed = s.signed) (hretired : t.retired = s.retired) : Guarded t := by
  obtain ⟨⟨hpublished, hkept, hcertificate, hkey, hcert, hexpiry⟩, hlast⟩ := h
  rw [← hnow, ← hretired] at hlast
  rw [← hnow, ← hrow, ← hsigned, ← hretired] at hpublished
  rw [← hrow, ← hsigned, ← hretired] at hkept
  rw [← hrow] at hcertificate
  rw [← hrow, ← hretired] at hkey hcert hexpiry
  exact ⟨⟨hpublished, hkept, hcertificate, hkey, hcert, hexpiry⟩, hlast⟩

theorem Guarded.tick (h : Guarded s) (ms : Nat) : Guarded { s with now := s.now + ms } := by
  obtain ⟨hconsistent, hlast⟩ := h
  have hearlier : ∀ {expiry : Time}, s.now + ms < expiry → s.now < expiry := fun hlt =>
    Nat.lt_of_le_of_lt (Nat.le_add_right _ _) hlt
  refine ⟨⟨fun retired hmem hsigned hlt => ?_, hconsistent.kept, hconsistent.certificate,
    hconsistent.previousKey, hconsistent.previousCertificate, hconsistent.previousExpiry⟩,
    fun retired hmem hlt => hlast retired hmem (hearlier hlt)⟩
  exact hconsistent.published retired hmem hsigned (hearlier hlt)

theorem Guarded.sign (h : Guarded s) :
    Guarded { s with signed := s.row.activeJwk :: s.signed } := by
  obtain ⟨hconsistent, hlast⟩ := h
  refine ⟨⟨fun retired hmem _ hlt => hconsistent.published_head (hlast retired hmem hlt),
    fun key hkey => ?_, hconsistent.certificate, hconsistent.previousKey,
    hconsistent.previousCertificate, hconsistent.previousExpiry⟩, hlast⟩
  obtain rfl | hkey := List.mem_cons.mp hkey
  · exact .inl rfl
  · exact hconsistent.kept key hkey

/-- **The end of a rotation** on the key it has read, after the grace period of the previous one. -/
theorem Guarded.finish (h : Guarded s) {replica : Nat} {read : KeyChainEntity} {startedAt : Time}
    (hkey : read.activeJwk = s.row.activeJwk)
    (hexpired : ∀ expiry, s.row.previousKeyExpiry = some expiry → expiry ≤ s.now) :
    Guarded (s.rotate replica read startedAt) := by
  obtain ⟨hconsistent, hlast⟩ := h
  have hpast : ∀ retired ∈ s.retired, ¬s.now < retired.expiry := by
    intro retired hmem hlt
    have hexpiry := hconsistent.previousExpiry
    rw [hlast retired hmem hlt] at hexpiry
    exact absurd (hexpired _ hexpiry) (Nat.not_le.mpr hlt)
  -- only the key that is retired now is in its grace period
  have hhead : ∀ retired ∈ (s.rotate replica read startedAt).retired, s.now < retired.expiry →
      (s.rotate replica read startedAt).retired.head? = some retired := by
    intro retired hmem hlt
    obtain rfl | hmem := List.mem_cons.mp hmem
    · rfl
    · exact absurd hlt (hpast retired hmem)
  refine ⟨⟨fun retired hmem _ hlt => ?_, fun key hsigned => ?_, rfl, rfl, rfl, rfl⟩, hhead⟩
  · have hretired := Option.some.inj (hhead retired hmem hlt)
    rw [← hretired]
    exact List.mem_cons_of_mem _ List.mem_cons_self
  · -- the active key is retired, and the others stay so
    obtain rfl | ⟨retired, hmem, rfl⟩ := hconsistent.kept key hsigned
    · exact .inr ⟨_, List.mem_cons_self, hkey⟩
    · exact .inr ⟨retired, List.mem_cons_of_mem _ hmem, rfl⟩

/-- **What a careful step preserves.** -/
theorem Guarded.step (h : Guarded s) {action : RotationAction} (hcareful : Careful s action)
    (hstep : step s action = some t) : Guarded t := by
  cases action with
  | tick ms =>
    obtain rfl := Option.some.inj hstep
    exact h.tick ms
  | sign =>
    obtain rfl := Option.some.inj hstep
    exact h.sign
  | check replica =>
    obtain rfl := Option.some.inj hstep
    exact h.congr rfl rfl rfl rfl
  | start replica scheduled =>
    rw [KeyChainRotate.step] at hstep
    split at hstep
    · cases hstep
    · obtain rfl := Option.some.inj hstep
      exact h.congr rfl rfl rfl rfl
  | fail replica =>
    obtain rfl := Option.some.inj hstep
    exact h.congr rfl rfl rfl rfl
  | finish replica =>
    obtain ⟨read, hread, rfl⟩ := Option.map_eq_some_iff.mp hstep
    obtain ⟨hkey, hexpired⟩ := hcareful read hread
    exact h.finish hkey hexpired

/-- **What a careful run preserves.** -/
theorem Guarded.run {actions : List RotationAction} (h : Guarded s)
    (hcareful : CarefulRun s actions) (hrun : run s actions = some t) : Guarded t := by
  induction actions generalizing s with
  | nil =>
    obtain rfl := Option.some.inj hrun
    exact h
  | cons action actions ih =>
    obtain ⟨u, hstep, hrun⟩ := Option.bind_eq_some_iff.mp hrun
    exact ih (h.step hcareful.1 hstep) (hcareful.2 u hstep) hrun

/-- A chain as it is created has no previous key, and the certificate of its key. -/
structure NewChain (row : KeyChainEntity) : Prop where
  certificate : row.activeCertificate.subject = row.activeJwk
  previousKey : row.previousJwk = none
  previousCertificate : row.previousCertificate = none
  previousExpiry : row.previousKeyExpiry = none

theorem guarded_created {row : KeyChainEntity} (h : NewChain row) (now : Time) :
    Guarded (created now row) :=
  ⟨⟨nofun, nofun, h.certificate, h.previousKey, h.previousCertificate, h.previousExpiry⟩, nofun⟩

end KeyChainRotate

open KeyChainRotate

/-- **Retired keys stay published** until their grace period ends, and the columns of the chain are
those of one history, in every run in which each rotation finishes on the key that it has read and
after the grace period of the previous key. -/
theorem retired_keys_published {row : KeyChainEntity} (hnew : NewChain row) (now : Time)
    {actions : List RotationAction} {s : ChainState}
    (hcareful : CarefulRun (created now row) actions)
    (hrun : run (created now row) actions = some s) : Consistent s :=
  ((guarded_created hnew now).run hcareful hrun).consistent

namespace KeyChainRotate

def plainChain : KeyChainEntity where
  activeJwk := 0
  activeCertificate := ⟨0, 0, daysMs 365⟩
  rotationEnabled := true
  rotationIntervalDays := some 7

theorem plainChain_new : NewChain plainChain := ⟨rfl, rfl, rfl, rfl⟩

end KeyChainRotate

/-- A rotation by hand after the first signature. -/
theorem retired_keys_published_once : ∃ s, run (created 0 plainChain)
    [.sign, .start 0 false, .finish 0, .sign] = some s ∧ Consistent s := by
  suffices hcareful : CarefulRun (created 0 plainChain)
      [.sign, .start 0 false, .finish 0, .sign] from
    ⟨_, rfl, retired_keys_published plainChain_new 0 hcareful rfl⟩
  refine ⟨trivial, fun t ht => ?_⟩
  obtain rfl := Option.some.inj ht
  refine ⟨trivial, fun t ht => ?_⟩
  obtain rfl := Option.some.inj ht
  refine ⟨fun read hread => ?_, fun t ht => ?_⟩
  · obtain rfl := Option.some.inj hread
    exact ⟨rfl, nofun⟩
  · exact ⟨trivial, fun _ _ => trivial⟩

/-- **Weekly rotations drop a key in its grace period**, and **two that read the same row drop the
key that the first generated**. -/
theorem not_retired_keys_published :
    (∃ s, run (created 0 plainChain) [.sign, .tick (daysMs 7), .check 0, .start 0 true, .finish 0,
        .tick (daysMs 7), .check 0, .start 0 true, .finish 0] = some s ∧ ¬Consistent s) ∧
      ∃ s, run (created 0 plainChain) [.start 0 false, .start 1 false, .finish 0, .sign,
        .finish 1] = some s ∧ ¬Consistent s := by
  refine ⟨⟨_, rfl, fun h => ?_⟩, ⟨_, rfl, fun h => ?_⟩⟩
  · have hpublished := h.published ⟨0, ⟨0, 0, daysMs 365⟩, daysMs 37⟩ (by decide) (by decide)
      (by decide)
    exact absurd hpublished (by decide)
  · obtain hactive | ⟨retired, hmem, hkey⟩ := h.kept 1 (by decide)
    · exact absurd hactive (by decide)
    · have hzero : ∀ retired ∈ ([⟨0, ⟨0, 0, daysMs 365⟩, daysMs 30⟩,
          ⟨0, ⟨0, 0, daysMs 365⟩, daysMs 30⟩] : List RetiredKey), retired.key ≠ 1 := by decide
      exact hzero retired hmem hkey

end Eudiplo
