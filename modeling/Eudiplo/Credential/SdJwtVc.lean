import Eudiplo.Credential.Derive
import Eudiplo.Properties.MdocClaims

/-!
# The payload of an SD-JWT VC

`IssueCredential.execute` and `SdjwtvcIssuerService.issue` up to the call that signs: the claims of
a request are validated, and what the issuer asserts, the claims and the status are spread into one
object in this order.  A member whose value is `undefined` is not signed, so it is left out.
-/

namespace Eudiplo

namespace SdJwtVc

open Derive
open Mdoc (Members membersOf spread)

/-- The `vct` of a configuration. -/
inductive Vct where
  | text (vct : String)
  | structured (vct : Members)

inductive SdJwtTrustFormat where
  | x5c
  | federation
  deriving DecidableEq

structure CredentialConfiguration where
  id : String
  fields : List ClaimFieldDefinition
  lifeTime : Option Nat
  keyBinding : Bool
  vct : Option Vct
  statusManagement : Bool
  sdJwtTrustFormat : Option SdJwtTrustFormat

structure StatusEntry where
  index : Nat
  uri : String

structure Issuance where
  configuration : CredentialConfiguration
  holderCnf : Json
  tenantId : String
  federationEntityId : Option String
  publicUrl : String
  nowMs : Nat
  /-- The entry that `createEntry` returns, when it is called. -/
  statusEntry : StatusEntry

/-- `CREDENTIAL_TIME_GRANULARITY_SECONDS`. -/
def granularity : Nat := 3600

def roundedCredentialValidity (lifeTimeSeconds nowMs : Nat) : Nat × Nat :=
  let now := nowMs / 1000
  (now / granularity * granularity,
    (now + lifeTimeSeconds + (granularity - 1)) / granularity * granularity)

def number (n : Nat) : Json := .num n 0

def expiry (issuance : Issuance) : Option Nat :=
  match issuance.configuration.lifeTime with
  | none => none
  | some 0 => none
  | some lifeTime => some (roundedCredentialValidity lifeTime issuance.nowMs).2

def vctOf (issuance : Issuance) : String :=
  match issuance.configuration.vct with
  | some (.text vct) => vct
  | _ => s!"{issuance.publicUrl}/issuers/{issuance.tenantId}/credentials-metadata/vct/" ++
      issuance.configuration.id

def useFederation (issuance : Issuance) : Bool :=
  issuance.configuration.sdJwtTrustFormat.getD .x5c == .federation &&
    truthy issuance.federationEntityId

def issuerOf (issuance : Issuance) : String :=
  if useFederation issuance then issuance.federationEntityId.getD ""
  else s!"{issuance.publicUrl}/issuers/{issuance.tenantId}"

/-- `{ iss, iat, exp, vct, cnf }`. -/
def issuerMembers (issuance : Issuance) : Members :=
  [("iss", .str (issuerOf issuance)),
    ("iat", number (roundedCredentialValidity (issuance.configuration.lifeTime.getD 0)
      issuance.nowMs).1)] ++
  (expiry issuance).toList.map (fun exp => ("exp", number exp)) ++
  [("vct", .str (vctOf issuance))] ++
  (if issuance.configuration.keyBinding then [("cnf", .obj [("jwk", issuance.holderCnf)])] else [])

def statusMembers (issuance : Issuance) : Members :=
  if issuance.configuration.statusManagement then
    [("status", .obj [("status_list", .obj [("idx", number issuance.statusEntry.index),
      ("uri", .str issuance.statusEntry.uri)])])]
  else []

/-- The payload that `issue` signs: `{ iss, iat, exp, vct, cnf, ...claims, ...status }`. -/
def issuedPayload (issuance : Issuance) (claims : Members) : Members :=
  spread (spread (issuerMembers issuance) claims) (statusMembers issuance)

/-- **`assertClaimsMatchConfiguration`**: the claims with the defaults of the schema filled in. -/
def assertClaimsMatchConfiguration (validate : Members → Members → Option Members)
    (configuration : CredentialConfiguration) (claims : Members) : Option Members := do
  let schema ← buildJsonSchema configuration.fields
  let properties ← propertiesOf schema
  if properties.isEmpty then return claims else validate schema claims

def resolvedClaims (configuration : CredentialConfiguration)
    (preloadedClaims : Option Members) : Members :=
  preloadedClaims.getD (membersOf (buildClaims configuration.fields))

/-- **`IssueCredential.execute`**: the payload that is signed. -/
def execute (validate : Members → Members → Option Members) (issuance : Issuance)
    (preloadedClaims : Option Members) : Option Members :=
  (assertClaimsMatchConfiguration validate issuance.configuration
    (resolvedClaims issuance.configuration preloadedClaims)).map (issuedPayload issuance)

end SdJwtVc

end Eudiplo

/-!
# The members that an issuer asserts

The payload spreads the claims over the members that the issuer has computed, and the status over
both.  So an asserted member is the issuer's unless the claims have one of the same name and another
value; `status` is safe where the configuration has status management (`lookup_payload`).
-/

namespace Eudiplo

namespace SdJwtVc

open Derive
open Mdoc (Members lookup_spread)

variable {issuance : Issuance} {claims claims' : Members} {name : String}

def asserted : List String := ["iss", "vct", "iat", "exp", "cnf", "status"]

def issuerValue (issuance : Issuance) (name : String) : Option Json :=
  (statusMembers issuance).lookup name |>.or ((issuerMembers issuance).lookup name)

def Carries (issuance : Issuance) (payload : Members) : Prop :=
  ∀ name ∈ asserted, payload.lookup name = issuerValue issuance name

/-- **The claims leave what is asserted alone**: a claim of such a name has the issuer's value, or
it is the status of a configuration with status management. -/
def Spares (issuance : Issuance) (claims : Members) : Prop :=
  ∀ name ∈ asserted, ∀ value, claims.lookup name = some value →
    issuerValue issuance name = some value ∨
      name = "status" ∧ issuance.configuration.statusManagement = true

theorem lookup_payload : (issuedPayload issuance claims).lookup name =
    ((statusMembers issuance).lookup name).or
      ((claims.lookup name).or ((issuerMembers issuance).lookup name)) := by
  rw [issuedPayload, lookup_spread, lookup_spread]

theorem lookup_statusMembers :
    ((statusMembers issuance).lookup name).isSome = true ↔
      name = "status" ∧ issuance.configuration.statusManagement = true := by
  unfold statusMembers
  cases issuance.configuration.statusManagement with
  | false => simp
  | true =>
    by_cases h : name = "status"
    · subst h
      simp
    · have hne : (name == "status") = false := beq_eq_false_iff_ne.mpr h
      simp [h, List.lookup_cons, hne]

theorem lookup_payload_iff :
    (issuedPayload issuance claims).lookup name = issuerValue issuance name ↔
      ∀ value, claims.lookup name = some value →
        issuerValue issuance name = some value ∨
          name = "status" ∧ issuance.configuration.statusManagement = true := by
  rw [lookup_payload, ← lookup_statusMembers, issuerValue]
  cases (statusMembers issuance).lookup name with
  | some status => simp
  | none =>
    cases claims.lookup name with
    | none => simp
    | some value => simp [eq_comm]

/-- **The payload of the claims** carries what is asserted if and only if they leave it alone. -/
theorem carries_iff : Carries issuance (issuedPayload issuance claims) ↔ Spares issuance claims :=
  forall₂_congr fun _ _ => lookup_payload_iff

theorem Carries.agree {payload payload' : Members} (h : Carries issuance payload)
    (h' : Carries issuance payload') :
    ∀ name ∈ asserted, payload.lookup name = payload'.lookup name :=
  fun name hname => (h name hname).trans (h' name hname).symm

theorem execute_accepted {validate : Members → Members → Option Members}
    {preloaded : Option Members}
    (h : assertClaimsMatchConfiguration validate issuance.configuration
      (resolvedClaims issuance.configuration preloaded) = some claims) :
    execute validate issuance preloaded = some (issuedPayload issuance claims) := by
  rw [execute, h]
  rfl

/-! ## A webhook that renames the issuer -/

/-- A configuration without fields, with key binding and no status management. -/
def badge : CredentialConfiguration where
  id := "badge"
  fields := []
  lifeTime := some 86400
  keyBinding := true
  vct := some (.text "urn:badge")
  statusManagement := false
  sdJwtTrustFormat := none

def badgeIssuance : Issuance where
  configuration := badge
  holderCnf := .obj [("kty", .str "EC")]
  tenantId := "demo"
  federationEntityId := none
  publicUrl := "https://issuer.example"
  nowMs := 1700000000000
  statusEntry := { index := 0, uri := "" }

def acceptingValidator (_ claims : Members) : Option Members := some claims

def renamingClaims : Members := [("iss", .str "https://other.example"), ("name", .str "Ada")]

end SdJwtVc

open SdJwtVc
open Mdoc (Members)

/-- **Claim sources and asserted members**: for two requests whose claims are accepted, both
payloads carry what the issuer asserts, and so agree on it, if and only if the accepted claims of
both leave it alone. -/
theorem asserted_members_carried (validate : Members → Members → Option Members)
    (issuance : Issuance) (preloaded preloaded' : Option Members) (claims claims' : Members)
    (haccepted : assertClaimsMatchConfiguration validate issuance.configuration
      (resolvedClaims issuance.configuration preloaded) = some claims)
    (haccepted' : assertClaimsMatchConfiguration validate issuance.configuration
      (resolvedClaims issuance.configuration preloaded') = some claims') :
    (∃ payload payload', execute validate issuance preloaded = some payload ∧
      execute validate issuance preloaded' = some payload' ∧
      Carries issuance payload ∧ Carries issuance payload' ∧
      ∀ name ∈ asserted, payload.lookup name = payload'.lookup name) ↔
    Spares issuance claims ∧ Spares issuance claims' := by
  rw [← carries_iff, ← carries_iff]
  constructor
  · rintro ⟨payload, payload', hsigned, hsigned', hcarries, hcarries', -⟩
    have hpayload := Option.some.inj (hsigned.symm.trans (execute_accepted haccepted))
    have hpayload' := Option.some.inj (hsigned'.symm.trans (execute_accepted haccepted'))
    exact ⟨hpayload ▸ hcarries, hpayload' ▸ hcarries'⟩
  · rintro ⟨hcarries, hcarries'⟩
    exact ⟨_, _, execute_accepted haccepted, execute_accepted haccepted', hcarries, hcarries',
      hcarries.agree hcarries'⟩

/-- Claims of other names are issued beside what is asserted. -/
theorem asserted_members_badge :
    ∃ payload payload',
      execute acceptingValidator badgeIssuance (some [("name", .str "Ada")]) = some payload ∧
      execute acceptingValidator badgeIssuance (some []) = some payload' ∧
      Carries badgeIssuance payload ∧ Carries badgeIssuance payload' ∧
      ∀ name ∈ asserted, payload.lookup name = payload'.lookup name := by
  refine (asserted_members_carried acceptingValidator badgeIssuance _ _ _ _ rfl rfl).mpr ⟨?_, ?_⟩
  · intro name hname value (hvalue : ([("name", .str "Ada")] : Members).lookup name = some value)
    have hnone : ([("name", .str "Ada")] : Members).lookup name = none := by
      refine List.lookup_eq_none_iff.mpr fun member hmember => ?_
      rw [List.mem_singleton.mp hmember]
      have hother : asserted.all (fun name => !(name == "name")) = true := by decide
      simpa using List.all_eq_true.mp hother name hname
    rw [hnone] at hvalue
    exact (nomatch hvalue)
  · exact fun name _ value h => (nomatch h)

/-- A claim source names another issuer: the payload carries its value. -/
theorem renamed_issuer_signed :
    ∃ payload, execute acceptingValidator badgeIssuance (some renamingClaims) = some payload ∧
      payload.lookup "iss" = some (.str "https://other.example") ∧
      ¬ Carries badgeIssuance payload := by
  refine ⟨_, rfl, rfl, fun h => ?_⟩
  have hissuer := Json.str.inj (Option.some.inj (h "iss" (by decide)))
  exact absurd hissuer (by decide)

end Eudiplo
