import Eudiplo.Concurrency.Order
import Eudiplo.Concurrency.Provenance
import Eudiplo.Credential.Operations

/-!
# What a call of the credential endpoints changes

A call changes the table it belongs to and no other; a value drawn by `v4` is drawn once,
so a nonce or a transaction id identifies the request that created it.
-/

namespace Eudiplo

open Concurrency

abbrev CredentialState := Global CredentialCall.Result CredentialStore CredentialEndpointRequest

abbrev CredentialEvent := Event CredentialCall.Result

abbrev CredentialConfig :=
  Config CredentialCall.Result CredentialStore CredentialEndpointRequest CredentialError
    CredentialAnswer

abbrev CredentialSchedule := List (Move Nat CredentialEndpointRequest)

variable {w : CredentialWorld} {op : CredentialCall} {s : CredentialStore}

/-! ## Frames -/

theorem credential_nonces_frame (h : ∀ c, op ≠ .nonces c) :
    (op.answer w s).2.nonces = s.nonces := by
  cases op with
  | nonces c => exact absurd rfl (h c)
  | transactions c => rfl
  | now => rfl
  | uuid => rfl
  | ask q => rfl

theorem credential_transactions_frame (h : ∀ c, op ≠ .transactions c) :
    (op.answer w s).2.transactions = s.transactions := by
  cases op with
  | nonces c => rfl
  | transactions c => exact absurd rfl (h c)
  | now => rfl
  | uuid => rfl
  | ask q => rfl

theorem credential_draws (w : CredentialWorld) (op : CredentialCall) (s : CredentialStore) :
    s.draws ≤ (op.answer w s).2.draws := by
  cases op with
  | uuid => exact Nat.le_succ _
  | nonces c => exact Nat.le_refl _
  | transactions c => exact Nat.le_refl _
  | now => exact Nat.le_refl _
  | ask q => exact Nat.le_refl _

/-! ## Drawn values -/

/-- Thread `t` drew `v`. -/
def DrewUuid (g : CredentialState) (t : Nat) (v : String) : Prop :=
  (⟨t, .uuid, v⟩ : CredentialEvent) ∈ g.trace

def drawnUuid : CredentialEvent → Option String
  | ⟨_, .uuid, v⟩ => some v
  | _ => none

theorem drawnUuid_answer {tid : Nat} {v : String}
    (h : drawnUuid ⟨tid, op, (op.answer w s).1⟩ = some v) : op = .uuid ∧ v = w.uuid s.draws := by
  cases op with
  | uuid =>
    cases h
    exact ⟨rfl, rfl⟩
  | nonces c => cases h
  | transactions c => cases h
  | now => cases h
  | ask q => cases h

/-- **Uuids are minted once.** -/
def uuids (w : CredentialWorld) : Mint (credentialEndpoints w) String where
  value := drawnUuid
  past st v := ∀ i, st.draws ≤ i → v ≠ w.uuid i
  new h hpast := by
    obtain ⟨-, rfl⟩ := drawnUuid_answer h
    exact hpast _ (Nat.le_refl _) rfl
  minted := fun {_ _ st _} h i hi heq => by
    obtain ⟨rfl, rfl⟩ := drawnUuid_answer h
    have hidx := w.uuid_injective heq
    have hnext : st.draws + 1 ≤ i := hi
    omega
  answer := fun h i hi => h i (Nat.le_trans (credential_draws w _ _) hi)
  drift := fun h => h

theorem DrewUuid.extends {g g' : CredentialState} {t : Nat} {v : String} (h : DrewUuid g t v)
    (hext : g.Extends g') : DrewUuid g' t v := hext.event h

/-- **A drawn value has one drawer.** -/
theorem drewUuid_unique {g : CredentialState} (h : (uuids w).Once g) {t t' : Nat} {v : String}
    (ht : DrewUuid g t v) (ht' : DrewUuid g t' v) : t = t' :=
  h.unique ⟨_, ht, rfl, rfl⟩ ⟨_, ht', rfl, rfl⟩

end Eudiplo

/-!
# A deployment of the credential endpoints that runs

Concrete answers of the parts around, a store to start from, and schedules put together
from requests, for the runs that show what the theorems are about.
-/

namespace Eudiplo

open Concurrency

namespace CredentialDeployment

/-- A world whose proofs are their nonces; requests with body `"deferred"` are
deferred. -/
def world : CredentialWorld where
  decodeNonce proof := some (some proof)
  uuid n := String.ofList (List.replicate (n + 1) 'u')
  uuid_injective n m h := by
    have hlen := congrArg String.length h
    simpa using hlen
  answer q _ := match q with
    | .authorize q => .ok {
        sessionId := "session", credentialConfigurationId := "config", issuanceSetId := none
        deferred := if q.body == "deferred" then some none else none, claims := .null }
    | .verifyProof .. => .ok [.null]
    | .keyAttestation .. => .ok ()
    | .issueCredentials .. => .ok ["credential"]
    | .verifyAccessToken .. => .ok .null
    | .belongsToSession .. => true
    | .resolveAuthorizedConfiguration .. => .ok ()
    | .getSession .. => .ok "session"
    | .issueDeferred .. => .ok "credential"

def fresh : CredentialStore := { clock := 0, nonces := .empty, transactions := .empty }

/-- A request arrives as thread `t` and takes `n` calls. -/
def serve (t : Nat) (r : CredentialEndpointRequest) (n : Nat) : CredentialSchedule :=
  .arrive r :: List.replicate n (.resume t)

end CredentialDeployment

end Eudiplo
