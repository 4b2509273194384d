import Eudiplo.Shared.Values
import Mathlib

/-!
# The DCQL query of a presentation

Which credentials and claims, with which values, a response must contain: the pure functions of
`dcql-claim-policy`.  Claim paths are strings, as the configuration stores them.
-/

namespace Eudiplo

/-! ## Queries -/

inductive DcqlClaimValue where
  | str (s : String)
  | num (mantissa : Int) (exponent : Nat)
  | bool (b : Bool)
  deriving DecidableEq

structure DcqlClaimQuery where
  id : Option String := none
  path : List String
  values : Option (List DcqlClaimValue) := none
  deriving DecidableEq

/-- The `meta` of a credential query: the type of the credential. -/
structure CredentialMeta where
  vct_values : Option (List String) := none
  doctype_value : Option String := none
  deriving DecidableEq

/-- `TrustListRef`: a managed list by its id, or an external one by its address. -/
structure TrustListRef where
  trustListId : Option String := none
  url : Option String := none
  verifierX509Der : Option String := none
  verifierKey : Option String := none
  deriving DecidableEq

/-- A `trusted_authorities` entry. -/
inductive DcqlTrustedAuthority where
  | etsi_tl (values : List TrustListRef)
  | openid_federation (values : List String)
  deriving DecidableEq

structure DcqlCredentialQuery where
  id : String
  format : String
  multiple : Bool := false
  typed : CredentialMeta := {}
  claims : Option (List DcqlClaimQuery) := none
  claim_sets : Option (List (List String)) := none
  trusted_authorities : Option (List DcqlTrustedAuthority) := none
  deriving DecidableEq

structure DcqlCredentialSetQuery where
  options : List (List String)
  required : Option Bool := none
  deriving DecidableEq

structure DcqlQuery where
  credentials : List DcqlCredentialQuery
  credential_sets : Option (List DcqlCredentialSetQuery) := none
  deriving DecidableEq

def DcqlQuery.find? (q : DcqlQuery) (credentialId : String) : Option DcqlCredentialQuery :=
  q.credentials.find? fun c => c.id == credentialId

/-! ## Errors -/

/-- `IncompletePresentation`: the violation that is reported. -/
structure IncompletePresentation where
  code : Option String := none
  message : String
  missingCredentials : List String := []
  missingClaims : List (String × List String) := []
  mismatchedClaims : List (String × List String) := []
  unsatisfiedCredentialSets : List Nat := []
  deriving DecidableEq

def missingClaimsViolation (credentialId : String) (missingClaims : List String) :
    IncompletePresentation where
  message := "Missing required claims for credential '" ++ credentialId ++ "': " ++
    ", ".intercalate missingClaims
  missingClaims := [(credentialId, missingClaims)]

def claimValueMismatchViolation (credentialId : String) (mismatchedClaims : List String) :
    IncompletePresentation where
  code := some "claim_value_mismatch"
  message := "Disclosed claim values do not match the requested values for credential '" ++
    credentialId ++ "': " ++ ", ".intercalate mismatchedClaims
  mismatchedClaims := [(credentialId, mismatchedClaims)]

/-- `path.join(".")`. -/
def dottedPath (path : List String) : String := ".".intercalate path

def claimSetNotSatisfied (credential : DcqlCredentialQuery) : IncompletePresentation where
  message := "Credential \"" ++ credential.id ++ "\" does not satisfy any claim_set"
  missingClaims := [(credential.id, (credential.claims.getD []).map fun c => dottedPath c.path)]

/-! ## Credentials -/

/-- Is a required credential set satisfied by no option? -/
def unsatisfied (received : List String) (set : DcqlCredentialSetQuery) : Bool :=
  set.required != some false && !set.options.any fun option => option.all received.contains

def unsatisfiedSets (received : List String) (sets : List DcqlCredentialSetQuery) : List Nat :=
  (sets.zipIdx.filter fun set => unsatisfied received set.1).map (·.2)

def findMissingCredentials (received : List String) (query : DcqlQuery) :
    Option IncompletePresentation :=
  match query.credential_sets.getD [] with
  | [] =>
    let missing := (query.credentials.map (·.id)).filter fun id => !received.contains id
    if missing.isEmpty then none
    else some {
      message := "Missing required credentials: " ++ ", ".intercalate missing
      missingCredentials := missing }
  | sets =>
    let missing := unsatisfiedSets received sets
    if missing.isEmpty then none
    else some {
      message := "Credential sets not satisfied: " ++
        ", ".intercalate (missing.map fun i => "set[" ++ toString i ++ "]")
      unsatisfiedCredentialSets := missing }

/-! ## Claims -/

/-- `claimSelections`: one selection per claim set, or all claims; `none` for an id that is not
defined. -/
def claimSelections (credential : DcqlCredentialQuery) :
    Except String (List (List DcqlClaimQuery)) :=
  match credential.claim_sets.getD [] with
  | [] => .ok [credential.claims.getD []]
  | sets => sets.mapM fun set => set.mapM fun claimId =>
    -- the last claim with an id wins, as in a map
    match ((credential.claims.getD []).reverse.find? fun c =>
        nonEmpty c.id && c.id == some claimId) with
    | some claim => .ok claim
    | none => .error ("claim_sets references unknown claim id '" ++ claimId ++
        "' for credential '" ++ credential.id ++ "'")

def arrayIndex (segment : String) : Option Nat :=
  if !segment.toList.isEmpty && segment.toList.all Char.isDigit then
    let index := Nat.ofDigitChars 10 segment.toList 0
    if index < 2 ^ 53 then some index else none
  else none

def selectPathSegment (segment : String) : Json → List Json
  | .arr items => ((arrayIndex segment).bind fun index => items[index]?).toList
  | .obj members => (Json.field? segment (.obj members)).toList
  | _ => []

def selectClaimValues (value : Json) (path : List String) : List Json :=
  path.foldl (fun selected segment => selected.flatMap (selectPathSegment segment)) [value]

/-- `value === disclosed`. -/
def DcqlClaimValue.matches : DcqlClaimValue → Json → Bool
  | .str s, .str t => s == t
  | .num m e, .num m' e' => m * 10 ^ e' == m' * 10 ^ e
  | .bool b, .bool c => b == c
  | _, _ => false

structure ClaimSelectionResult where
  missing : List String := []
  mismatched : List String := []
  deriving DecidableEq

def evaluate (disclosedValues : DcqlClaimQuery → List Json) :
    List DcqlClaimQuery → ClaimSelectionResult
  | [] => {}
  | claim :: claims =>
    let rest := evaluate disclosedValues claims
    let disclosed := disclosedValues claim
    if disclosed.isEmpty then { rest with missing := dottedPath claim.path :: rest.missing }
    else if claim.values.any fun requested =>
        !disclosed.any fun value => requested.any fun r => r.matches value then
      { rest with mismatched := dottedPath claim.path :: rest.mismatched }
    else rest

def evaluateClaimSelection (payload : Json) : List DcqlClaimQuery → ClaimSelectionResult :=
  evaluate fun claim => selectClaimValues payload claim.path

def mdocClaimName : List String → String
  | _ :: name :: _ => name
  | path => path.headD ""

def evaluateMdocClaimSelection (claims : List (String × Json)) :
    List DcqlClaimQuery → ClaimSelectionResult :=
  evaluate fun claim => (Json.field? (mdocClaimName claim.path) (.obj claims)).toList

def isClaimSelectionSatisfied (result : ClaimSelectionResult) : Bool :=
  result.missing.isEmpty && result.mismatched.isEmpty

end Eudiplo
