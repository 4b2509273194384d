import Eudiplo.Shared.Values
import Mathlib.Tactic

/-!
# Credentials from key proofs

`IssueCredentialsFromProofs` with `IssueCredentialsForKeys` and the key attestation requirements.
The verifier and the issuer are ports; what a request does with them is recorded, and every
signature and every status entry of a request is made by the issuer's `issue`.
-/

namespace Eudiplo

namespace CredentialsFromProofs

inductive IssuanceProofType where
  | jwt
  | attestation
  deriving DecidableEq

structure KeyAttestationRequirements where
  key_storage : Option (List String) := none
  user_authentication : Option (List String) := none

structure VerifiedKeyAttestation where
  attestedKeys : List Json
  keyStorage : Option (List String) := none
  userAuthentication : Option (List String) := none

structure VerifiedCredentialProof where
  holderKeys : List Json
  keyAttestation : Option VerifiedKeyAttestation := none

inductive Failure where
  | invalidCredentialProof (message : String)
  | other (message : String)
  deriving DecidableEq

def KEY_MEMBERS (kty : String) : Option (List String) :=
  if kty == "EC" then some ["crv", "x", "y"]
  else if kty == "OKP" then some ["crv", "x"]
  else if kty == "RSA" then some ["e", "n"]
  else none

def member (key : Json) (name : String) : Option String := (key.field? name).bind Json.str?

def isSameKey (a b : Json) : Bool :=
  match (member a "kty").bind KEY_MEMBERS with
  | none => false
  | some members => member a "kty" == member b "kty" &&
      members.all fun name => (member a name).isSome && member a name == member b name

def assertAcceptedValue (claim : String) (accepted attested : Option (List String)) :
    Except Failure Unit :=
  match accepted with
  | none => .ok ()
  | some [] => .ok ()
  | some values =>
    if (attested.getD []).any fun value => values.contains value then .ok ()
    else .error (.invalidCredentialProof ("The key attestation does not state an accepted " ++
      claim ++ " value (accepted: " ++ ", ".intercalate values ++ ")"))

def assertAttested (requirements : KeyAttestationRequirements)
    (attestation : VerifiedKeyAttestation) (holderKeys : List Json) : Except Failure Unit :=
  if holderKeys.isEmpty ||
      !(holderKeys.all fun key => attestation.attestedKeys.any fun attested =>
        isSameKey key attested) then
    .error (.invalidCredentialProof
      "The proof contains a key that is not listed in attested_keys of the key attestation")
  else do
    assertAcceptedValue "key_storage" requirements.key_storage attestation.keyStorage
    assertAcceptedValue "user_authentication" requirements.user_authentication
      attestation.userAuthentication

def assertKeyAttestationRequirements (requirements : Option KeyAttestationRequirements)
    (proof : VerifiedCredentialProof) : Except Failure Unit :=
  match requirements with
  | none => .ok ()
  | some requirements =>
    match proof.keyAttestation with
    | none => .error (.invalidCredentialProof ("The credential configuration requires a key " ++
        "attestation: use the attestation proof type or add a key_attestation header to the " ++
        "jwt proof"))
    | some attestation => assertAttested requirements attestation proof.holderKeys

structure Command where
  proofs : List String
  proofType : IssuanceProofType
  batchSize : Option Int := none
  keyAttestationsRequired : Option KeyAttestationRequirements := none

/-- The ports. A proof is verified as the proof at its place, and a key is issued for by the call
of that number, so that each call may be answered differently. -/
structure Ports where
  prepare : Except Failure Unit
  verify : ℕ → String → IssuanceProofType → Except Failure VerifiedCredentialProof
  issue : ℕ → Json → Except Failure String

inductive Event where
  | verify (proof : String)
  | issue (holderKey : Json)
  | onIssued (credentialSize : ℕ)

structure Run (α : Type) where
  result : Except Failure α
  events : List Event

namespace Run

variable {α β : Type}

protected def bind (run : Run α) (next : α → Run β) : Run β :=
  match run.result with
  | .ok a => { result := (next a).result, events := run.events ++ (next a).events }
  | .error failure => { result := .error failure, events := run.events }

instance : Monad Run where
  pure a := { result := .ok a, events := [] }
  bind := Run.bind

def ofExcept (result : Except Failure α) : Run α := { result, events := [] }

def call (event : Event) (result : Except Failure α) : Run α := { result, events := [event] }

end Run

def checkProof (command : Command) (verified : VerifiedCredentialProof) :
    Except Failure (List Json) :=
  if command.proofType = .attestation ∧ verified.holderKeys.isEmpty then
    .error (.invalidCredentialProof "Attestation proof does not contain any attested keys")
  else if command.proofType = .attestation ∧
      (verified.holderKeys.length : Int) > max (command.batchSize.getD 1) 1 then
    .error (.invalidCredentialProof
      "Attestation proof contains more attested keys than the supported batch size")
  else do
    assertKeyAttestationRequirements command.keyAttestationsRequired verified
    return verified.holderKeys

variable (ports : Ports) (command : Command)

def holderKeysOf (i : ℕ) (proof : String) : Except Failure (List Json) :=
  ports.verify i proof command.proofType >>= checkProof command

def verifyProofs : ℕ → List String → Run (List (List Json))
  | _, [] => pure []
  | i, proof :: proofs => do
    let holderKeys ← Run.call (.verify proof) (holderKeysOf ports command i proof)
    let holderKeysPerProof ← verifyProofs (i + 1) proofs
    return holderKeys :: holderKeysPerProof

/-- `IssueCredentialsForKeys.execute`, after so many calls of the issuer. -/
def issueForKeys : ℕ → List Json → Run (List String)
  | _, [] => pure []
  | n, holderKey :: holderKeys => do
    let credential ← Run.call (.issue holderKey) (ports.issue n holderKey)
    let credentials ← issueForKeys (n + 1) holderKeys
    return credential :: credentials

/-- `command.onIssued(credential.length)` for each credential. -/
def reportIssued (credentials : List String) : Run Unit :=
  { result := .ok (), events := credentials.map fun credential => .onIssued credential.length }

def issueForProofs : ℕ → List (List Json) → Run (List String)
  | _, [] => pure []
  | n, holderKeys :: holderKeysPerProof => do
    let credentials ← issueForKeys ports n holderKeys
    reportIssued credentials
    let result ← issueForProofs (n + holderKeys.length) holderKeysPerProof
    return credentials ++ result

def execute : Run (List String) := do
  Run.ofExcept ports.prepare
  let holderKeysPerProof ← verifyProofs ports command 0 command.proofs
  issueForProofs ports 0 holderKeysPerProof

end CredentialsFromProofs

end Eudiplo

/-!
# A batch is verified before it is issued

What the two loops of `IssueCredentialsFromProofs` record and return: the first makes no call of
the issuer, and the second one call for each holder key, in order.
-/

namespace Eudiplo

namespace CredentialsFromProofs

variable {α β : Type} {ports : Ports} {command : Command} {i n : ℕ} {proof : String}
  {proofs : List String} {holderKeys : List Json} {holderKeysPerProof : List (List Json)}
  {credentials : List String} {failure : Failure}

def issued (run : Run α) : List Json :=
  run.events.filterMap fun event =>
    match event with
    | .issue holderKey => some holderKey
    | _ => none

namespace Run

theorem bind_ok {run : Run α} {next : α → Run β} {a : α} (h : run.result = .ok a) :
    (run >>= next).result = (next a).result ∧
      issued (run >>= next) = issued run ++ issued (next a) := by
  show (Run.bind run next).result = _ ∧ issued (Run.bind run next) = _
  unfold Run.bind
  rw [h]
  exact ⟨rfl, List.filterMap_append ..⟩

theorem bind_error {run : Run α} {next : α → Run β} (h : run.result = .error failure) :
    (run >>= next).result = .error failure ∧ issued (run >>= next) = issued run := by
  show (Run.bind run next).result = _ ∧ issued (Run.bind run next) = _
  unfold Run.bind
  rw [h]
  exact ⟨rfl, rfl⟩

end Run

/-! ## The first loop -/

theorem issued_verifyProofs (i : ℕ) (proofs : List String) :
    issued (verifyProofs ports command i proofs) = [] := by
  induction proofs generalizing i with
  | nil => rfl
  | cons proof proofs ih =>
    rw [verifyProofs]
    cases hkeys : holderKeysOf ports command i proof with
    | error failure =>
      exact (Run.bind_error rfl).2
    | ok keys =>
      rw [(Run.bind_ok rfl).2]
      cases hrest : (verifyProofs ports command (i + 1) proofs).result with
      | error failure => exact ((Run.bind_error hrest).2).trans (ih (i + 1))
      | ok rest =>
        rw [(Run.bind_ok hrest).2, ih (i + 1)]
        rfl

/-- **What the first loop returns**: the holder keys of every proof, all of them valid. -/
theorem verifyProofs_iff :
    (verifyProofs ports command i proofs).result = .ok holderKeysPerProof ↔
      holderKeysPerProof.length = proofs.length ∧ ∀ j proof keys, proofs[j]? = some proof →
        holderKeysPerProof[j]? = some keys →
          holderKeysOf ports command (i + j) proof = .ok keys := by
  induction proofs generalizing i holderKeysPerProof with
  | nil =>
    constructor
    · intro h
      obtain rfl := Except.ok.inj h
      exact ⟨rfl, fun _ _ _ h => (nomatch h)⟩
    · rintro ⟨hlength, -⟩
      obtain rfl := List.length_eq_zero_iff.mp hlength
      rfl
  | cons proof proofs ih =>
    rw [verifyProofs]
    constructor
    · intro h
      cases hkeys : holderKeysOf ports command i proof with
      | error failure =>
        rw [hkeys, (Run.bind_error rfl).1] at h
        cases h
      | ok keys =>
        rw [hkeys, (Run.bind_ok rfl).1] at h
        cases hrest : (verifyProofs ports command (i + 1) proofs).result with
        | error failure =>
          rw [(Run.bind_error hrest).1] at h
          cases h
        | ok rest =>
          rw [(Run.bind_ok hrest).1] at h
          obtain rfl := Except.ok.inj h
          obtain ⟨hlength, hall⟩ := ih.mp hrest
          refine ⟨congrArg Nat.succ hlength, fun j p ks hp hk => ?_⟩
          cases j with
          | zero =>
            obtain rfl := Option.some.inj hp
            obtain rfl := Option.some.inj hk
            exact hkeys
          | succ j =>
            have hj := hall j p ks hp hk
            rwa [Nat.add_assoc, Nat.add_comm 1 j] at hj
    · rintro ⟨hlength, hall⟩
      cases holderKeysPerProof with
      | nil => cases hlength
      | cons keys rest =>
        have hfirst : holderKeysOf ports command i proof = .ok keys := hall 0 proof keys rfl rfl
        have hrest : (verifyProofs ports command (i + 1) proofs).result = .ok rest := by
          refine ih.mpr ⟨Nat.succ.inj hlength, fun j p ks hp hk => ?_⟩
          rw [Nat.add_assoc, Nat.add_comm 1 j]
          exact hall (j + 1) p ks hp hk
        rw [hfirst, (Run.bind_ok rfl).1, (Run.bind_ok hrest).1]
        rfl

theorem verifyProofs_succeeds
    (h : ∀ j proof, proofs[j]? = some proof →
      ∃ keys, holderKeysOf ports command (i + j) proof = .ok keys) :
    ∃ holderKeysPerProof,
      (verifyProofs ports command i proofs).result = .ok holderKeysPerProof := by
  induction proofs generalizing i with
  | nil => exact ⟨[], rfl⟩
  | cons proof proofs ih =>
    obtain ⟨keys, hkeys⟩ : ∃ keys, holderKeysOf ports command i proof = .ok keys := h 0 proof rfl
    obtain ⟨rest, hrest⟩ : ∃ rest,
        (verifyProofs ports command (i + 1) proofs).result = .ok rest := by
      refine ih fun j p hp => ?_
      rw [Nat.add_assoc, Nat.add_comm 1 j]
      exact h (j + 1) p hp
    rw [verifyProofs, hkeys, (Run.bind_ok rfl).1, (Run.bind_ok hrest).1]
    exact ⟨_, rfl⟩

/-! ## The second loop -/

/-- **What the issuer is asked for keys**: one call for each, numbered from `n`. -/
theorem issueForKeys_ok (h : (issueForKeys ports n holderKeys).result = .ok credentials) :
    issued (issueForKeys ports n holderKeys) = holderKeys ∧
      List.Forall₂ (fun call credential => ports.issue call.2 call.1 = .ok credential)
        (holderKeys.zipIdx n) credentials := by
  induction holderKeys generalizing n credentials with
  | nil =>
    obtain rfl := Except.ok.inj h
    exact ⟨rfl, .nil⟩
  | cons key keys ih =>
    rw [issueForKeys] at h ⊢
    cases hcall : ports.issue n key with
    | error failure =>
      rw [hcall, (Run.bind_error rfl).1] at h
      cases h
    | ok credential =>
      rw [hcall, (Run.bind_ok rfl).1] at h
      rw [(Run.bind_ok rfl).2]
      cases hrest : (issueForKeys ports (n + 1) keys).result with
      | error failure =>
        rw [(Run.bind_error hrest).1] at h
        cases h
      | ok rest =>
        rw [(Run.bind_ok hrest).1] at h
        obtain rfl := Except.ok.inj h
        obtain ⟨hissued, hall⟩ := ih hrest
        rw [(Run.bind_ok hrest).2, hissued]
        exact ⟨by simp [issued, Run.call, pure], List.zipIdx_cons .. ▸ .cons hcall hall⟩

theorem issueForKeys_succeeds (h : ∀ n key, ∃ credential, ports.issue n key = .ok credential)
    (n : ℕ) (holderKeys : List Json) :
    ∃ credentials, (issueForKeys ports n holderKeys).result = .ok credentials := by
  induction holderKeys generalizing n with
  | nil => exact ⟨[], rfl⟩
  | cons key keys ih =>
    obtain ⟨credential, hcall⟩ := h n key
    obtain ⟨rest, hrest⟩ := ih (n + 1)
    rw [issueForKeys, hcall, (Run.bind_ok rfl).1, (Run.bind_ok hrest).1]
    exact ⟨_, rfl⟩

theorem issued_report : issued (reportIssued credentials) = [] := by
  unfold issued reportIssued
  rw [List.filterMap_eq_nil_iff]
  intro event hevent
  obtain ⟨credential, -, rfl⟩ := List.mem_map.mp hevent
  rfl

theorem issueForProofs_ok
    (h : (issueForProofs ports n holderKeysPerProof).result = .ok credentials) :
    issued (issueForProofs ports n holderKeysPerProof) = holderKeysPerProof.flatten ∧
      List.Forall₂ (fun call credential => ports.issue call.2 call.1 = .ok credential)
        (holderKeysPerProof.flatten.zipIdx n) credentials := by
  induction holderKeysPerProof generalizing n credentials with
  | nil =>
    obtain rfl := Except.ok.inj h
    exact ⟨rfl, .nil⟩
  | cons keys rest ih =>
    rw [issueForProofs] at h ⊢
    cases hkeys : (issueForKeys ports n keys).result with
    | error failure =>
      rw [(Run.bind_error hkeys).1] at h
      cases h
    | ok first =>
      rw [(Run.bind_ok hkeys).1, (Run.bind_ok rfl).1] at h
      rw [(Run.bind_ok hkeys).2, (Run.bind_ok rfl).2, issued_report, List.nil_append]
      cases hrest : (issueForProofs ports (n + keys.length) rest).result with
      | error failure =>
        rw [(Run.bind_error hrest).1] at h
        cases h
      | ok others =>
        rw [(Run.bind_ok hrest).1] at h
        obtain rfl := Except.ok.inj h
        obtain ⟨hissued, hall⟩ := issueForKeys_ok hkeys
        obtain ⟨hissued', hall'⟩ := ih hrest
        rw [(Run.bind_ok hrest).2, hissued, hissued', List.flatten_cons, List.zipIdx_append]
        exact ⟨by simp [issued, pure], List.rel_append hall (by rwa [Nat.add_comm] at hall' ⊢)⟩

theorem issueForProofs_succeeds (h : ∀ n key, ∃ credential, ports.issue n key = .ok credential)
    (n : ℕ) (holderKeysPerProof : List (List Json)) :
    ∃ credentials, (issueForProofs ports n holderKeysPerProof).result = .ok credentials := by
  induction holderKeysPerProof generalizing n with
  | nil => exact ⟨[], rfl⟩
  | cons keys rest ih =>
    obtain ⟨first, hfirst⟩ := issueForKeys_succeeds h n keys
    obtain ⟨others, hothers⟩ := ih (n + keys.length)
    rw [issueForProofs, (Run.bind_ok hfirst).1, (Run.bind_ok rfl).1, (Run.bind_ok hothers).1]
    exact ⟨_, rfl⟩

/-! ## The batch -/

/-- The proof at a place of the request is invalid. -/
def InvalidAt (ports : Ports) (command : Command) (i : ℕ) : Prop :=
  ∃ proof failure, command.proofs[i]? = some proof ∧
    holderKeysOf ports command i proof = .error failure

/-- The holder keys of all proofs, in the order of the proofs. -/
def HolderKeys (ports : Ports) (command : Command) (keys : List Json) : Prop :=
  ∃ holderKeysPerProof : List (List Json), holderKeysPerProof.length = command.proofs.length ∧
    (∀ i proof ks, command.proofs[i]? = some proof → holderKeysPerProof[i]? = some ks →
      holderKeysOf ports command i proof = .ok ks) ∧
    keys = holderKeysPerProof.flatten

theorem execute_cases (ports : Ports) (command : Command) :
    (issued (execute ports command) = [] ∧
      ∃ failure, (execute ports command).result = .error failure) ∨
    ∃ holderKeysPerProof,
      (verifyProofs ports command 0 command.proofs).result = .ok holderKeysPerProof ∧
      (execute ports command).result = (issueForProofs ports 0 holderKeysPerProof).result ∧
      issued (execute ports command) = issued (issueForProofs ports 0 holderKeysPerProof) := by
  unfold execute
  cases hprepare : ports.prepare with
  | error failure => exact .inl ⟨(Run.bind_error rfl).2, failure, (Run.bind_error rfl).1⟩
  | ok _ =>
    rw [(Run.bind_ok rfl).1, (Run.bind_ok rfl).2]
    cases hverify : (verifyProofs ports command 0 command.proofs).result with
    | error failure =>
      refine .inl ⟨?_, failure, (Run.bind_error hverify).1⟩
      rw [(Run.bind_error hverify).2, issued_verifyProofs]
      rfl
    | ok holderKeysPerProof =>
      refine .inr ⟨holderKeysPerProof, rfl, (Run.bind_ok hverify).1, ?_⟩
      rw [(Run.bind_ok hverify).2, issued_verifyProofs]
      rfl

end CredentialsFromProofs

end Eudiplo
