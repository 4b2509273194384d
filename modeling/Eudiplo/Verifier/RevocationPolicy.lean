import Eudiplo.Network.Address
import Mathlib

/-!
# The revocation policy

`resolveRevocationPolicy` and `isStatusListUnavailableError`, the fetches of
`StatusListVerifierService`, and the status checks of `SdjwtvcverifierService.verify` and
`MdocverifierService.verify`.  The libraries are parameters: they pass a failed fetch on, and fail
with messages of their own.
-/

namespace Eudiplo

namespace RevocationPolicy

/-! ## Policies -/

/-- `VerifyPolicy["revocation"]`, as it is configured. -/
structure ConfiguredPolicy where
  enabled : Option Bool
  failClosed : Option Bool

structure Policy where
  enabled : Bool
  failClosed : Bool
  deriving DecidableEq

def resolveRevocationPolicy (configured : Option ConfiguredPolicy) : Policy where
  enabled := (configured.bind (·.enabled)).getD true
  failClosed := (configured.bind (·.failClosed)).getD true

/-! ## Messages -/

/-- `toLowerCase`, as far as words of ASCII letters depend on it: the Kelvin sign becomes a `k`, and
a dotted `I` an `i` with a dot above. -/
def lowerCase (text : List Char) : List Char :=
  text.flatMap fun c =>
    if c = '\u212a' then ['k'] else if c = '\u0130' then ['i', '\u0307'] else [c.toLower]

def includes (text : List Char) (word : String) : Bool :=
  decide (word.toList <:+: text)

def statusListWords : List String := ["status list", "statuslist", "revocation"]

def availabilityWords : List String :=
  ["timed out", "timeout", "failed to fetch", "unavailable", "network", "econn", "enotfound",
    "eai_again", "canceled", "cancelled"]

def isStatusListUnavailableError (message : String) : Bool :=
  let message := lowerCase message.toList
  statusListWords.any (includes message) && availabilityWords.any (includes message)

/-! ## Fetches -/

/-- An error, and whether it is a `RevocationListUnavailableError`. -/
structure JsError where
  message : String
  unavailable : Bool

structure Response where
  contentType : Option String
  text : String
  bytes : List UInt8

def STATUS_LIST_CWT : String := "application/statuslist+cwt"

/-- **What the status list service asks**: its caches of raw tokens, `trustFetch.get` for a URI and
what is accepted, and why a token cannot be decoded. -/
structure StatusServer where
  cachedJwts : String → Option String
  cachedCwts : String → Option (List UInt8)
  get : (uri accept : String) → Except String Response
  decodeJwt : String → Option String
  decodeCwt : List UInt8 → Option String

section Fetches

variable (server : StatusServer)

/-- `fetchStatusListToken`: a text, or the bytes of a CWT. -/
def fetchStatusListToken (uri accept : String) : Except JsError (String ⊕ List UInt8) :=
  match server.get uri accept with
  | .error message =>
    .error ⟨"Failed to fetch status list from " ++ uri ++ ": " ++ message, true⟩
  | .ok response =>
    if includes (lowerCase (response.contentType.getD "").toList) STATUS_LIST_CWT then
      .ok (.inr response.bytes)
    else .ok (.inl response.text)

def getStatusListJwt (uri : String) : Except JsError String :=
  match server.cachedJwts uri with
  | some cached => .ok cached
  | none => do
    match ← fetchStatusListToken server uri "application/statuslist+jwt" with
    | .inr _ =>
      throw ⟨"Status list at " ++ uri ++ " returned CWT while JWT was requested", false⟩
    | .inl token =>
      match server.decodeJwt token with
      | some message => throw ⟨message, false⟩
      | none => return token

def getStatusListCwt (uri : String) : Except JsError (List UInt8) :=
  match server.cachedCwts uri with
  | some cached => .ok cached
  | none => do
    match ← fetchStatusListToken server uri STATUS_LIST_CWT with
    | .inl _ => throw ⟨"Status list at " ++ uri ++ " was not served as " ++ STATUS_LIST_CWT, false⟩
    | .inr token =>
      match server.decodeCwt token with
      | some message => throw ⟨message, false⟩
      | none => return token

inductive ListKind where
  | statusList
  | identifierList
  deriving DecidableEq

def mdocFetch (kind : ListKind) (uri : String) : Except JsError (List UInt8) :=
  match kind with
  | .statusList => getStatusListCwt server uri
  | .identifierList =>
    match server.get uri "application/identifierlist+cwt" with
    | .error message =>
      .error ⟨"Failed to fetch identifier list from " ++ uri ++ ": " ++ message, true⟩
    | .ok response => .ok response.bytes

end Fetches

/-! ## Libraries -/

/-- **A library**: what it asks of a credential besides its status, whether a fetched list is
verified, and the status of the credential in it. -/
structure Library (Token : Type) where
  Credential : Type
  verifyBase : Credential → Except String Unit
  verifiesList : Credential → Token → Bool
  statusOf : Credential → Token → Option Nat
  complaint : Credential → Token → String

/-- A fetched list is verified, and shows the entry as valid. -/
def Library.ShowsValid {Token : Type} (library : Library Token) (credential : library.Credential)
    (token : Token) : Prop :=
  library.verifiesList credential token = true ∧ library.statusOf credential token = some 0

instance {Token : Type} (library : Library Token) (credential : library.Credential)
    (token : Token) : Decidable (library.ShowsValid credential token) :=
  inferInstanceAs (Decidable (_ ∧ _))

/-- `verify` of a library, with the list that it has to fetch. -/
def Library.verify {Token : Type} (library : Library Token) (credential : library.Credential)
    (fetch : Option (Except JsError Token)) : Except JsError Unit :=
  match library.verifyBase credential with
  | .error message => .error ⟨message, false⟩
  | .ok () =>
    match fetch with
    | none => .ok ()
    | some (.error error) => .error error
    | some (.ok token) =>
      if library.ShowsValid credential token then .ok ()
      else .error ⟨library.complaint credential token, false⟩

structure Accepted where
  statusChecked : Bool
  deriving DecidableEq

/-! ## SD-JWT VCs -/

/-- The status claim of an SD-JWT VC: its library reads a status list only. -/
inductive StatusClaim where
  | absent
  | unsupported
  | statusList (uri : String)

structure SdJwtLibrary extends Library String where
  statusClaim : Credential → StatusClaim

section SdJwt

variable (server : StatusServer) (library : SdJwtLibrary)

def verifyWithStatusMode (enableStatusCheck : Bool) (credential : library.Credential) :
    Except JsError Accepted := do
  library.verify credential
    (match enableStatusCheck, library.statusClaim credential with
    | true, .statusList uri => some (getStatusListJwt server uri)
    | _, _ => none)
  return ⟨enableStatusCheck⟩

def checkStatusMechanism (failClosed : Bool) (claim : StatusClaim) : Except JsError Unit :=
  match claim with
  | .unsupported =>
    if failClosed then
      .error ⟨"The credential's status claim contains no supported status mechanism, so its " ++
        "status could not be checked", false⟩
    else .ok ()
  | _ => .ok ()

/-- The first part of `verify`: with the status check, without it, or one after the other. -/
def verifyInMode (policy : Policy) (credential : library.Credential) : Except JsError Accepted :=
  if !policy.enabled then verifyWithStatusMode server library false credential
  else if policy.failClosed then verifyWithStatusMode server library true credential
  else
    match verifyWithStatusMode server library true credential with
    | .ok accepted => .ok accepted
    | .error error =>
      if !isStatusListUnavailableError error.message then .error error
      else verifyWithStatusMode server library false credential

/-- **`SdjwtvcverifierService.verify`**, up to the transaction data. -/
def verifySdJwt (policy : Policy) (credential : library.Credential) : Except JsError Accepted := do
  let accepted ← verifyInMode server library policy credential
  if policy.enabled then
    checkStatusMechanism policy.failClosed (library.statusClaim credential)
  return accepted

end SdJwt

/-! ## Mdocs -/

structure MdocLibrary extends Library (List UInt8) where
  listRef : Credential → Option (ListKind × String)

section Mdoc

variable (server : StatusServer) (library : MdocLibrary)

def verifyDeviceResponse (disableStatusValidation : Bool) (credential : library.Credential) :
    Except JsError Accepted := do
  library.verify credential
    (match disableStatusValidation, library.listRef credential with
    | false, some (kind, uri) => some (mdocFetch server kind uri)
    | _, _ => none)
  return ⟨!disableStatusValidation⟩

/-- **The status check of `MdocverifierService.verify`**: the class of a failed fetch is recorded.
-/
def verifyMdoc (policy : Policy) (credential : library.Credential) : Except JsError Accepted :=
  match verifyDeviceResponse server library (!policy.enabled) credential with
  | .ok accepted => .ok accepted
  | .error error =>
    if !policy.enabled || policy.failClosed || !error.unavailable then .error error
    else verifyDeviceResponse server library true credential

end Mdoc

end RevocationPolicy

end Eudiplo
