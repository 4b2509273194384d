import Eudiplo.Concurrency.Order
import Eudiplo.OAuth.Library
import Eudiplo.Storage.Table
import Eudiplo.Concurrency.RelyGuarantee
import Mathlib.Data.List.Pairwise

/-!
# DPoP proofs and their replay registry

`dpop.util.ts` and `TypeOrmDpopProofReplayRegistry`.  Every endpoint that takes a DPoP proof hands
it to the OAuth library with the same options: the freshness window of the proof's `iat`, and a
callback that records the proof's `jti` for its key until the window closes.

What the library does with a proof beside that is a `DpopLibrary`: the checks of `typ`,
`alg`, signature, `htm` and `htu` have no state, so it is a function of the request.
-/

namespace Eudiplo

open Concurrency Prog Discipline Storage

/-! ## The table `dpop_proof_jti` -/

structure DpopProofJti where
  jkt : String
  jti : String
  expiresAt : Time
  deriving DecidableEq

def DpopProofJti.key (p : DpopProofJti) : String × String := (p.jkt, p.jti)

structure RegistryStore where
  clock : Time
  proofs : Storage.Table DpopProofJti.key

inductive RegistryCall where
  /-- `new Date()` -/
  | now
  /-- `delete({ jkt, jti, expiresAt: LessThanOrEqual(before) })` -/
  | deleteExpiredProof (jkt jti : String) (before : Time)
  /-- `insert`: `false` is a violation of the primary key. -/
  | insert (proof : DpopProofJti)
  /-- `delete({ expiresAt: LessThan(before) })` -/
  | deleteExpired (before : Time)
  deriving DecidableEq

abbrev RegistryCall.Result : RegistryCall → Type
  | .now => Time
  | .insert _ => Bool
  | .deleteExpiredProof .. | .deleteExpired _ => Unit

def RegistryCall.answer : (c : RegistryCall) → RegistryStore → c.Result × RegistryStore
  | .now, s => (s.clock, s)
  | .deleteExpiredProof jkt jti before, s =>
    ((), { s with proofs := s.proofs.deleteWhere fun p =>
      p.key == (jkt, jti) && decide (p.expiresAt ≤ before) })
  | .insert proof, s =>
    if (s.proofs.get proof.key).isSome then (false, s)
    else (true, { s with proofs := s.proofs.upsert proof id fun _ => rfl })
  | .deleteExpired before, s =>
    ((), { s with proofs := s.proofs.deleteWhere fun p => decide (p.expiresAt < before) })

/-! ## The freshness window -/

namespace DpopProofFreshness

def maxProofAgeSeconds : Nat := 300

def allowedClockSkewSeconds : Nat := 60

end DpopProofFreshness

open DpopProofFreshness

/-- `dpopProofExpiresAt`: the last moment a proof passes the freshness check. -/
def dpopProofExpiresAt (iat : Option Nat) (now : Time) : Time :=
  (match iat with
    | some s => s * 1000
    | none => now) + (maxProofAgeSeconds + allowedClockSkewSeconds) * 1000

/-- The library's freshness check: `iat` lies in the allowed window. -/
def inFreshnessWindow (iat : Option Nat) (now : Time) : Bool :=
  match iat with
  | some s =>
    decide (s * 1000 ≤ now + allowedClockSkewSeconds * 1000) &&
      decide (now ≤ dpopProofExpiresAt iat now)
  | none => false

/-! ## Proofs -/

/-- `DpopProof`: a proof as an endpoint hands it over. -/
structure DpopProof where
  jwt : Option String
  request : RequestLike
  dpop_signing_alg_values_supported : Option (List String) := none
  expectedJwkThumbprint : Option String := none
  required : Bool := false

structure VerifiedDpopProof where
  jwkThumbprint : String
  jti : String
  iat : Option Nat
  deriving DecidableEq

/-- The OAuth library on a proof: the header's `jwk` members, and the checks without
state.  An error carries the library's description, if it has one. -/
structure DpopLibrary where
  decodeProtectedHeader : String → Option (Option (List String))
  verify : String → RequestLike → List String → Except (Option String) VerifiedDpopProof
  notFresh : Option String
  notUnique : Option String

inductive DpopError where
  /-- `OAuthError("invalid_dpop_proof", description)` -/
  | invalidDpopProof (description : String)
  /-- An error of the library, with its description. -/
  | library (description : Option String)
  deriving DecidableEq

abbrev DpopProg := Prog RegistryCall.Result DpopError

def register (jwkThumbprint jti : String) (expiresAt : Time) : DpopProg Bool := do
  let now ← invoke RegistryCall.now
  let () ← invoke (RegistryCall.deleteExpiredProof jwkThumbprint jti now)
  invoke (RegistryCall.insert { jkt := jwkThumbprint, jti, expiresAt })

/-- `verifyAuthorizationRequest` and the other verifications of the library, as far as the
proof goes: freshness first, then the callback `assertJtiUniqueness`. -/
def verifyWithLibrary (lib : DpopLibrary) (jwt : String) (request : RequestLike)
    (allowedSigningAlgs : List String) : DpopProg VerifiedDpopProof := do
  let now ← invoke RegistryCall.now
  let proof ← ofExcept ((lib.verify jwt request allowedSigningAlgs).mapError .library)
  ensure (inFreshnessWindow proof.iat now) (.library lib.notFresh)
  let unique ← register proof.jwkThumbprint proof.jti (dpopProofExpiresAt proof.iat now)
  ensure unique (.library lib.notUnique)
  return proof

def privateJwkMembers : List String := ["d", "p", "q", "dp", "dq", "qi", "oth", "k"]

/-- The body of the `try` block. -/
def verifyProofJwt (lib : DpopLibrary) (proof : DpopProof) (jwt : String) :
    DpopProg VerifiedDpopProof := do
  let jwk ← getOrFail (.library none) (lib.decodeProtectedHeader jwt)
  ensure (!(jwk.any fun members => privateJwkMembers.any members.contains))
    (.invalidDpopProof "The DPoP proof jwk must not contain a private key")
  -- without advertised algorithms no proof is accepted
  verifyWithLibrary lib jwt proof.request (proof.dpop_signing_alg_values_supported.getD [])

/-- **`verifyDpopProof`**: the thumbprint of the proof's key, if there is a proof. -/
def verifyDpopProof (lib : DpopLibrary) (proof : DpopProof) : DpopProg (Option String) :=
  if truthy proof.jwt then do
    match ← (verifyProofJwt lib proof (proof.jwt.getD "")).attempt with
    | .error (.invalidDpopProof description) => fail (.invalidDpopProof description)
    | .error (.library description) =>
      fail (.invalidDpopProof (description.getD "Invalid DPoP proof"))
    | .ok verified => do
      ensure (verified.jwkThumbprint != "" &&
          (!truthy proof.expectedJwkThumbprint ||
            proof.expectedJwkThumbprint == some verified.jwkThumbprint))
        (.invalidDpopProof
          "The DPoP proof is not signed with the key bound to this authorization")
      return some verified.jwkThumbprint
  else do
    ensure (!proof.required) (.invalidDpopProof "Missing required DPoP proof")
    return none

/-- `DpopProofJtiCleanupJob.cleanup`. -/
def cleanupProofs : DpopProg Unit := do
  let now ← invoke RegistryCall.now
  invoke (RegistryCall.deleteExpired now)

/-! ## The system -/

/-- What arrives: a proof at the hosted authorization servers, a proof at an endpoint that
leaves the whole verification to the library, and the scheduled cleanup. -/
inductive DpopRequest where
  | verifyDpopProof (proof : DpopProof)
  | libraryRequest (jwt : String) (request : RequestLike) (allowedSigningAlgs : List String)
  | cleanup

def DpopRequest.program (lib : DpopLibrary) : DpopRequest → DpopProg (Option String)
  | .verifyDpopProof proof => Eudiplo.verifyDpopProof lib proof
  | .libraryRequest jwt request algs => do
    let proof ← verifyWithLibrary lib jwt request algs
    return some proof.jwkThumbprint
  | .cleanup => do
    cleanupProofs
    return none

def DpopRequest.proof (lib : DpopLibrary) : DpopRequest → Except (Option String) VerifiedDpopProof
  | .verifyDpopProof proof =>
    lib.verify (proof.jwt.getD "") proof.request
      (proof.dpop_signing_alg_values_supported.getD [])
  | .libraryRequest jwt request algs => lib.verify jwt request algs
  | .cleanup => .error none

/-- **The registry under any number of requests**; the clock only moves on. -/
def dpopRegistry (lib : DpopLibrary) :
    System RegistryCall.Result RegistryStore Nat DpopRequest DpopError (Option String) where
  answer := RegistryCall.answer
  drift milliseconds s := { s with clock := s.clock + milliseconds }
  program := DpopRequest.program lib

end Eudiplo

/-!
# Is a DPoP proof accepted once?

The registry keeps the entry of a proof until the proof's validity ends, and the insert
of a second entry fails on the primary key.  So a second request with the proof gets
through only where the entry is already gone, that is, where it reaches the registry at
or after the expiry although its freshness was checked before (`not_proofs_once`: the
boundary instant is enough, no delay is needed).

`proofs_once` is the positive side.  Its invariant says of every entry ever recorded that
it is still stored or has expired (`ReplayInv.kept`), and of two entries for one proof that
the earlier one had expired when the freshness of the later one was checked
(`ReplayInv.apart`).
-/

namespace Eudiplo

open Concurrency Prog Discipline Storage

abbrev RegistryState := Global RegistryCall.Result RegistryStore DpopRequest

abbrev RegistryEvent := Event RegistryCall.Result

abbrev RegistryConfig :=
  Config RegistryCall.Result RegistryStore DpopRequest DpopError (Option String)

/-! ## The claim -/

/-- Thread `t` checked the freshness of its proof at `time`: its first call reads the clock. -/
def CheckedAt (g : RegistryState) (t : Nat) (time : Time) : Prop := g.First ⟨t, .now, time⟩

/-- Thread `t` accepted the proof `v`, whose freshness it checked at `time`. -/
structure Accepts (lib : DpopLibrary) (c : RegistryConfig) (t : Nat) (v : VerifiedDpopProof)
    (time : Time) : Prop where
  answered : ∃ q thumbprint, c.Answers t q (some thumbprint) ∧ q.proof lib = .ok v
  checked : CheckedAt c.global t time

/-- **No proof is accepted twice within its validity**: of two requests accepted with one
key and `jti`, one was checked after the validity of the other's proof. -/
def ProofsOnce (lib : DpopLibrary) (c : RegistryConfig) : Prop :=
  ∀ t t' v v' time time', Accepts lib c t v time → Accepts lib c t' v' time' → t ≠ t' →
    v.jwkThumbprint = v'.jwkThumbprint → v.jti = v'.jti →
    dpopProofExpiresAt v.iat time < time' ∨ dpopProofExpiresAt v'.iat time' < time

/-- The call recorded `p`. -/
def Records (e : RegistryEvent) (p : DpopProofJti) : Prop :=
  ∃ t, e = ⟨t, .insert p, (true : Bool)⟩

/-- **The condition**: a request whose freshness check was not after the expiry of an entry
recorded for the same key and `jti` also reaches its insert before that expiry. -/
def InsertsInTime (g : RegistryState) (tid : Nat) (op : RegistryCall) : Prop :=
  ∀ p, op = .insert p → ∀ e ∈ g.trace, ∀ p', Records e p' → p'.key = p.key →
    ∀ time, CheckedAt g tid time → time ≤ p'.expiresAt → g.store.clock < p'.expiresAt

namespace DpopReplay

variable {lib : DpopLibrary} {g g' : RegistryState} {tid : Nat} {op : RegistryCall}

/-! ## The invariant -/

/-- The entry is still stored, or its validity has ended. -/
def Kept (s : RegistryStore) (p : DpopProofJti) : Prop :=
  s.proofs.get p.key = some p ∨ p.expiresAt ≤ s.clock

/-- The earlier of two entries for one proof expired before the later one was checked. -/
def Apart (g : RegistryState) (later earlier : RegistryEvent) : Prop :=
  ∀ p p', Records later p → Records earlier p' → p'.key = p.key →
    ∃ time, CheckedAt g later.tid time ∧ p'.expiresAt < time

/-- **The invariant** between any two calls. -/
structure ReplayInv (g : RegistryState) : Prop where
  numbered : g.Numbered
  kept : ∀ e ∈ g.trace, ∀ p, Records e p → Kept g.store p
  apart : g.trace.Pairwise (Apart g)

/-- **What a thread may call**: a deletion up to a moment that has come, and an insert after
a freshness check. -/
def RegistryMay (g : RegistryState) (tid : Nat) : RegistryCall → Prop
  | .now => True
  | .deleteExpiredProof _ _ before => before ≤ g.store.clock
  | .deleteExpired before => before ≤ g.store.clock
  | .insert _ => ∃ time, CheckedAt g tid time

/-- What a thread keeps knowing: the clock does not run back, and its calls are its own. -/
structure RegistryRely (t : Nat) (g g' : RegistryState) : Prop where
  clock : g.store.clock ≤ g'.store.clock
  quiet : g.Quiet t g'

/-- What an accepted proof has left behind. -/
def Recorded (lib : DpopLibrary) (t : Nat) (q : DpopRequest) (g : RegistryState)
    (a : Option String) : Prop :=
  ∀ v, a.isSome = true → q.proof lib = .ok v → ∃ time, CheckedAt g t time ∧
    ∃ e ∈ g.trace, e.tid = t ∧
      Records e ⟨v.jwkThumbprint, v.jti, dpopProofExpiresAt v.iat time⟩

/-! ## One call -/

theorem answer_clock (op : RegistryCall) (s : RegistryStore) :
    (op.answer s).2.clock = s.clock := by
  cases op with
  | now => rfl
  | deleteExpiredProof jkt jti before => rfl
  | deleteExpired before => rfl
  | insert p =>
    show (ite _ _ _ : Bool × RegistryStore).2.clock = s.clock
    split <;> rfl

theorem answer_insert {s : RegistryStore} {p : DpopProofJti}
    (h : ((RegistryCall.insert p).answer s).1 = true) : s.proofs.get p.key = none := by
  rw [← Option.not_isSome_iff_eq_none]
  intro hsome
  have hfalse : (RegistryCall.insert p).answer s = (false, s) := if_pos hsome
  rw [hfalse] at h
  cases h

/-- **One call keeps what is known of an entry**: it is removed only once it has expired. -/
theorem Kept.answer {s : RegistryStore} {p : DpopProofJti} (h : Kept s p)
    (hmay : ∀ jkt jti before, op = .deleteExpiredProof jkt jti before → before ≤ s.clock)
    (hmay' : ∀ before, op = .deleteExpired before → before ≤ s.clock) :
    Kept (op.answer s).2 p := by
  have hclock := answer_clock op s
  rcases h with hget | hexp
  · cases op with
    | now => exact .inl hget
    | deleteExpiredProof jkt jti before =>
      -- a removal goes by a time that has passed
      by_cases hdue : p.key = (jkt, jti) ∧ p.expiresAt ≤ before
      · right
        have hbefore := hmay jkt jti before rfl
        rw [hclock]
        exact Nat.le_trans hdue.2 hbefore
      · left
        show (s.proofs.deleteWhere _).get p.key = some p
        rw [Table.get_deleteWhere, hget, Option.filter_some, if_pos]
        simpa [-not_and] using not_and_or.mp hdue
    | deleteExpired before =>
      by_cases hdue : p.expiresAt < before
      · right
        have hbefore := hmay' before rfl
        rw [hclock]
        exact Nat.le_trans (Nat.le_of_lt hdue) hbefore
      · left
        show (s.proofs.deleteWhere _).get p.key = some p
        rw [Table.get_deleteWhere, hget, Option.filter_some, if_pos]
        simpa using hdue
    | insert p' =>
      left
      show (ite _ _ _ : Bool × RegistryStore).2.proofs.get p.key = some p
      split
      · exact hget
      · -- the key of the entry is taken
        rename_i hfree
        show (s.proofs.upsert p' id _).get p.key = some p
        have hne : p'.key ≠ p.key := by
          intro heq
          rw [heq, hget] at hfree
          exact hfree rfl
        rw [Table.get_upsert, if_neg hne, hget]
  · right
    rw [hclock]
    exact hexp

theorem kept_insert {s : RegistryStore} {p : DpopProofJti}
    (h : ((RegistryCall.insert p).answer s).1 = true) :
    Kept ((RegistryCall.insert p).answer s).2 p := by
  have hfree := answer_insert h
  left
  show (ite _ _ _ : Bool × RegistryStore).2.proofs.get p.key = some p
  rw [if_neg (by simp [hfree])]
  show (s.proofs.upsert p id _).get p.key = some p
  rw [Table.get_upsert, if_pos rfl, hfree]
  rfl

theorem Apart.extends {e e' : RegistryEvent} (h : Apart g e e') (hext : g.Extends g') :
    Apart g' e e' := by
  intro p p' hp hp' hkey
  obtain ⟨time, hchecked, hlt⟩ := h p p' hp hp' hkey
  exact ⟨time, hchecked.extends hext, hlt⟩

theorem checkedAt_unique {t : Nat} {time time' : Time} (h : CheckedAt g t time)
    (h' : CheckedAt g t time') : time = time' := by
  have heq := Global.First.unique h h' rfl
  injection heq

theorem records_after {s : RegistryStore} {p : DpopProofJti}
    (h : Records ⟨tid, op, (op.answer s).1⟩ p) :
    op = .insert p ∧ ((RegistryCall.insert p).answer s).1 = true := by
  obtain ⟨t, heq⟩ := h
  injection heq with _ hop hres
  subst hop
  exact ⟨rfl, eq_of_heq hres⟩

/-- **One call keeps the invariant.** -/
theorem inv_after {r : DpopRequest} (hinv : ReplayInv g) (hr : g.requests[tid]? = some r)
    (hadm : InsertsInTime g tid op) (hmay : RegistryMay g tid op) :
    ReplayInv ((dpopRegistry lib).after g tid op) := by
  have hext := System.extends_after (M := dpopRegistry lib) g tid op
  have hkept (p : DpopProofJti) (h : Kept g.store p) : Kept (op.answer g.store).2 p := by
    refine h.answer (fun jkt jti before hop => ?_) (fun before hop => ?_)
    · subst hop
      exact hmay
    · subst hop
      exact hmay
  refine ⟨hinv.numbered.after hr, fun e he p hp => ?_, ?_⟩
  · rcases List.mem_cons.mp he with rfl | hold
    · obtain ⟨rfl, hnew⟩ := records_after hp
      exact kept_insert hnew
    · exact hkept p (hinv.kept e hold p hp)
  · refine List.pairwise_cons.mpr ⟨fun e he p p' hp hp' hkey => ?_,
      hinv.apart.imp fun h => h.extends hext⟩
    -- the new entry: the row of an earlier one is gone, so that one has expired
    obtain ⟨rfl, hnew⟩ := records_after hp
    obtain ⟨time, hchecked⟩ := hmay
    have hfree := answer_insert hnew
    refine ⟨time, hchecked.extends hext, ?_⟩
    rcases hinv.kept e he p' hp' with hget | hexp
    · rw [hkey, hfree] at hget
      cases hget
    · by_contra hlate
      have hclock := hadm p rfl e he p' hp' hkey time hchecked (Nat.le_of_not_lt hlate)
      exact absurd hexp (Nat.not_le.mpr hclock)

/-- **The discipline of the registry.** -/
def replay (lib : DpopLibrary) : Discipline (dpopRegistry lib) where
  inv := ReplayInv
  rely := RegistryRely
  admits := InsertsInTime
  may := RegistryMay
  allowed _ := True
  post := Recorded lib
  rely_refl t g := ⟨Nat.le_refl _, .refl t g⟩
  rely_trans h h' := ⟨Nat.le_trans h.clock h'.clock, h.quiet.trans h'.quiet⟩
  step hinv hr hadm hmay :=
    ⟨inv_after hinv hr hadm hmay,
      fun _ hne => ⟨Nat.le_of_eq (answer_clock _ _).symm, Global.quiet_after hne⟩⟩
  arrive {g r} hinv _ :=
    ⟨⟨hinv.numbered.arrive r, hinv.kept, hinv.apart.imp fun h => h.extends (g.extends_arrive r)⟩,
      fun t _ => ⟨Nat.le_refl _, Global.quiet_arrive t g r⟩⟩
  pass {g} n hinv :=
    ⟨⟨hinv.numbered.pass n,
      fun e he p hp => (hinv.kept e he p hp).imp id fun hexp =>
        Nat.le_trans hexp (Nat.le_add_right _ _),
      hinv.apart.imp fun h => h.extends (System.extends_pass g n)⟩,
      fun t => ⟨Nat.le_add_right _ _, Global.quiet_pass t g n⟩⟩

/-! ## The handlers -/

section Handlers

variable {t : Nat} {q : DpopRequest}

theorem safe_register {jkt jti : String} {expiresAt time : Time}
    (hchecked : CheckedAt g t time) :
    (replay lib).Safe t (fun g' unique => unique = true → CheckedAt g' t time ∧
      ∃ e ∈ g'.trace, e.tid = t ∧ Records e ⟨jkt, jti, expiresAt⟩)
      (register jkt jti expiresAt) g := by
  refine Safe.call fun g₁ hl₁ _ => ⟨trivial, Safe.call
    fun g₂ hl₂ _ => ⟨hl₂.rely.clock, Safe.invoke fun g₃ hl₃ _ => ?_⟩⟩
  have hext := (hl₁.hist.trans (System.extends_after _ _ _)).trans
    ((hl₂.hist.trans (System.extends_after _ _ _)).trans hl₃.hist)
  refine ⟨⟨time, hchecked.extends hext⟩, fun g₄ hl₄ hunique => ?_⟩
  refine ⟨hchecked.extends ((hext.trans (System.extends_after _ _ _)).trans hl₄.hist), _,
    hl₄.hist.event List.mem_cons_self, rfl, t, ?_⟩
  rw [← hunique]

/-- **The freshness check is the first call**, and a returned proof is recorded. -/
theorem safe_verifyWithLibrary {jwt : String} {request : RequestLike} {algs : List String}
    (hg : (replay lib).At t q g) (hsilent : g.Silent t) :
    (replay lib).Safe t (fun g' v => lib.verify jwt request algs = .ok v ∧
      ∃ time, CheckedAt g' t time ∧ ∃ e ∈ g'.trace, e.tid = t ∧
        Records e ⟨v.jwkThumbprint, v.jti, dpopProofExpiresAt v.iat time⟩)
      (verifyWithLibrary lib jwt request algs) g := by
  refine Safe.call fun g₁ hl₁ hadm => ⟨trivial, ?_⟩
  have hchecked : CheckedAt ((dpopRegistry lib).after g₁ t .now) t g₁.store.clock :=
    (hsilent.later hl₁.rely.quiet).first_after
  have hg₁ := (hg.later hl₁).after hadm (show RegistryMay g₁ t .now from trivial)
  refine Safe.ofExcept fun v hv => Safe.ensure fun _ => ?_
  refine (safe_register hchecked).bind hg₁ fun unique g₂ _ hg₂ hunique => ?_
  refine Safe.ensure fun htrue => Safe.ret fun g₃ hl₃ => ?_
  obtain ⟨hchecked₂, e, he, ht, hrec⟩ := hunique htrue
  refine ⟨?_, _, hchecked₂.extends hl₃.hist, e, hl₃.hist.event he, ht, hrec⟩
  cases hverify : lib.verify jwt request algs with
  | ok v' =>
    rw [hverify] at hv
    obtain rfl : v' = v := Except.ok.inj hv
    rfl
  | error d =>
    rw [hverify] at hv
    cases hv

theorem safe_verifyProofJwt {proof : DpopProof} (hg : (replay lib).At t q g)
    (hsilent : g.Silent t) :
    (replay lib).Safe t (fun g' v =>
        (DpopRequest.verifyDpopProof proof).proof lib = .ok v ∧
        ∃ time, CheckedAt g' t time ∧ ∃ e ∈ g'.trace, e.tid = t ∧
          Records e ⟨v.jwkThumbprint, v.jti, dpopProofExpiresAt v.iat time⟩)
      (verifyProofJwt lib proof (proof.jwt.getD "")) g :=
  Safe.getOrFail fun _ _ => Safe.ensure fun _ =>
    safe_verifyWithLibrary hg hsilent

theorem safe_verifyDpopProof (proof : DpopProof) (hg : (replay lib).At t q g)
    (hsilent : g.Silent t) :
    (replay lib).Safe t (Recorded lib t (.verifyDpopProof proof))
      (verifyDpopProof lib proof) g := by
  unfold verifyDpopProof
  split
  · refine (safe_verifyProofJwt hg hsilent).attempt.bind hg fun result g₁ _ hg₁ hresult => ?_
    cases result with
    | ok v =>
      refine Safe.ensure fun _ => Safe.ret fun g₂ hl₂ v' _ hv' => ?_
      obtain ⟨hv, time, hchecked, e, he, ht, hrec⟩ := hresult v rfl
      obtain rfl : v = v' := Except.ok.inj (hv.symm.trans hv')
      exact ⟨time, hchecked.extends hl₂.hist, e, hl₂.hist.event he, ht, hrec⟩
    | error e => cases e <;> trivial
  · exact Safe.ensure fun _ => Safe.ret fun g₁ _ v hnone => nomatch hnone

theorem safe_cleanup : (replay lib).Safe t (Recorded lib t .cleanup)
    (DpopRequest.cleanup.program lib) g := by
  refine Safe.call fun g₁ _ _ => ⟨trivial, Safe.call fun g₂ hl₂ _ =>
    ⟨hl₂.rely.clock, Safe.ret fun g₃ _ v hnone => nomatch hnone⟩⟩

end Handlers

/-- **Every request follows the discipline.** -/
theorem replay_verified (lib : DpopLibrary) : (replay lib).Verified := by
  intro g q hinv _ hg
  have hsilent := hinv.numbered.silent q
  cases q with
  | verifyDpopProof proof => exact safe_verifyDpopProof proof hg hsilent
  | libraryRequest jwt request algs =>
    refine (safe_verifyWithLibrary hg hsilent).bind hg fun v g₁ _ _ hv => ?_
    refine Safe.ret fun g₂ hl₂ v' _ hv' => ?_
    obtain ⟨hverify, time, hchecked, e, he, ht, hrec⟩ := hv
    obtain rfl : v = v' := Except.ok.inj (hverify.symm.trans hv')
    exact ⟨time, hchecked.extends hl₂.hist, e, hl₂.hist.event he, ht, hrec⟩
  | cleanup => exact safe_cleanup

theorem apart_or {e e' : RegistryEvent} (hinv : ReplayInv g) (he : e ∈ g.trace)
    (he' : e' ∈ g.trace) (hne : e ≠ e') : Apart g e e' ∨ Apart g e' e := by
  have hsymm : Std.Symm fun e e' : RegistryEvent => Apart g e e' ∨ Apart g e' e :=
    ⟨fun _ _ h => h.symm⟩
  have hpairs : g.trace.Pairwise fun e e' => Apart g e e' ∨ Apart g e' e :=
    hinv.apart.imp fun h => .inl h
  exact hpairs.forall he he' hne

end DpopReplay

open DpopReplay

/-- **Proofs are accepted once** in every run in which no entry of the proof expires between
the freshness check of a request and its insert. -/
theorem proofs_once (lib : DpopLibrary) (st : RegistryStore)
    (ms : List (Move Nat DpopRequest))
    (hfits : (dpopRegistry lib).Guarded InsertsInTime (.start st) ms) :
    ProofsOnce lib ((dpopRegistry lib).run (.start st) ms) := by
  have hstart : ReplayInv (⟨st, [], []⟩ : RegistryState) := {
    numbered := Global.numbered_start st
    kept := fun e he => (List.not_mem_nil he).elim
    apart := .nil }
  have hholds := Discipline.run_holds (replay_verified lib) (Discipline.holds_start hstart)
    (fun _ _ => trivial) hfits
  intro t t' v v' time time' h h' hne hkey hjti
  obtain ⟨q, thumbprint, hanswer, hproof⟩ := h.answered
  obtain ⟨q', thumbprint', hanswer', hproof'⟩ := h'.answered
  obtain ⟨time₁, hchecked, e, he, htid, hrec⟩ := hholds.answer hanswer v rfl hproof
  obtain ⟨time₁', hchecked', e', he', htid', hrec'⟩ := hholds.answer hanswer' v' rfl hproof'
  obtain rfl : time₁ = time := checkedAt_unique hchecked h.checked
  obtain rfl : time₁' = time' := checkedAt_unique hchecked' h'.checked
  have hdistinct : e ≠ e' := by
    rintro rfl
    exact hne (htid.symm.trans htid')
  have hsame : (⟨v'.jwkThumbprint, v'.jti, dpopProofExpiresAt v'.iat time₁'⟩ :
      DpopProofJti).key = (v.jwkThumbprint, v.jti) := by
    rw [hkey, hjti]
    rfl
  rcases apart_or hholds.inv he he' hdistinct with hapart | hapart
  · obtain ⟨time₂, hchecked₂, hlt⟩ := hapart _ _ hrec hrec' hsame
    rw [htid] at hchecked₂
    obtain rfl : time₂ = time₁ := checkedAt_unique hchecked₂ hchecked
    exact .inr hlt
  · obtain ⟨time₂, hchecked₂, hlt⟩ := hapart _ _ hrec' hrec hsame.symm
    rw [htid'] at hchecked₂
    obtain rfl : time₂ = time₁' := checkedAt_unique hchecked₂ hchecked'
    exact .inl hlt

/-! ## Two runs -/

namespace DpopReplay

/-- A library that accepts every proof; the text of a proof is its `jti`. -/
def library : DpopLibrary where
  decodeProtectedHeader _ := some (some [])
  verify jwt _ _ := .ok { jwkThumbprint := "key", jti := jwt, iat := some 0 }
  notFresh := none
  notUnique := none

/-- A request with the proof `"proof"`, served to its end by thread `t`. -/
def present (t : Nat) : List (Move Nat DpopRequest) :=
  .arrive (.libraryRequest "proof" { url := "/token" } ["ES256"]) ::
    List.replicate 4 (.resume t)

/-- Nothing recorded yet, one second after the proof was issued. -/
def fresh : RegistryStore := { clock := 1000, proofs := .empty }

def replayed : List (Move Nat DpopRequest) := present 0 ++ .drift 1000 :: present 1

/-- The proof is presented again in the last moment of its validity. -/
def replayedAtExpiry : List (Move Nat DpopRequest) := present 0 ++ .drift 359000 :: present 1

/-- Every entry recorded for the inserted key is still valid. -/
def insertFits (g : RegistryState) (_ : Nat) : RegistryCall → Bool
  | .insert p => g.trace.all fun
    | ⟨_, .insert p', _⟩ => p'.key != p.key || decide (g.store.clock < p'.expiresAt)
    | _ => true
  | _ => true

theorem insertFits_sound (g : RegistryState) (tid : Nat) (op : RegistryCall)
    (h : insertFits g tid op = true) : InsertsInTime g tid op := by
  rintro p rfl e he p' ⟨t, rfl⟩ hkey time - -
  have hfits := List.all_eq_true.mp h _ he
  simpa [hkey] using hfits

end DpopReplay

/-- A replay a second later is rejected, as the theorem says. -/
theorem proofs_once_of_replayed :
    ProofsOnce DpopReplay.library
      ((dpopRegistry DpopReplay.library).run (.start DpopReplay.fresh) DpopReplay.replayed) :=
  proofs_once _ _ _ (System.guarded_of_checks DpopReplay.insertFits_sound (by decide +kernel))

/-- **A replay in the last moment of the validity is accepted**: `iat` plus 360 seconds
passes the freshness check, and the registration deletes the entry that expires then. -/
theorem not_proofs_once :
    ¬ProofsOnce DpopReplay.library
      ((dpopRegistry DpopReplay.library).run (.start DpopReplay.fresh)
        DpopReplay.replayedAtExpiry) := by
  intro h
  have hlater := h 0 1 ⟨"key", "proof", some 0⟩ ⟨"key", "proof", some 0⟩ 1000 360000
    ⟨⟨_, "key", rfl, rfl⟩, Global.first_of_find rfl⟩
    ⟨⟨_, "key", rfl, rfl⟩, Global.first_of_find rfl⟩ (by decide) rfl rfl
  exact absurd hlater (by decide)

end Eudiplo
