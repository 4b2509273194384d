import Eudiplo.Revocation.DistributionPoints
import Eudiplo.Shared.Values
import Mathlib.Logic.Function.Basic

/-!
# Checking a certificate against its CRL

`CrlValidationService`: the CRLs of a certificate's distribution points are fetched and kept
by URL, and the result of a check is kept by the certificate's fingerprint for thirty
seconds.  Certificates and CRLs are those of the X.509 library (`X509Library`), and what the
servers answer comes with the call.
-/

namespace Eudiplo

/-! ## The library -/

structure RevokedEntry where
  serialNumber : String
  revocationDate : Time
  reason : Option Nat := none

/-- `@peculiar/x509`, as far as the service uses it. -/
structure X509Library (Cert Crl : Type) where
  /-- `new X509Certificate(pem)` -/
  parseCertificate : String → Except String Cert
  /-- The fingerprint in hexadecimal. -/
  thumbprint : Cert → String
  /-- A SHA-256 fingerprint is that of one certificate. -/
  thumbprint_injective : Function.Injective thumbprint
  subject : Cert → String
  issuer : Cert → String
  serialNumber : Cert → String
  /-- The `rawData` of extension 2.5.29.31. -/
  cdpExtension : Cert → Option (List UInt8)
  isSelfSigned : Cert → Bool
  /-- `cert.verify({ publicKey: candidate, signatureOnly: true })` -/
  verifies : Cert → Cert → Bool
  keyUsages : Cert → Option Nat
  crlIssuer : Crl → String
  nextUpdate : Crl → Option Time
  /-- `crl.verify({ publicKey: issuer.publicKey })` -/
  crlVerifies : Crl → Cert → Bool
  entries : Crl → List RevokedEntry
  /-- `X509CrlReason[reason]` -/
  crlReason : Nat → Option String

/-! ## Calls and caches -/

structure CachedCrl (Crl : Type) where
  crl : Crl
  fetchedAt : Time
  nextUpdate : Option Time

structure CrlValidationResult where
  isValid : Bool
  revokedAt : Option Time := none
  reason : Option String := none
  error : Option String := none
  fromCache : Option Bool := none
  deriving DecidableEq

/-- An entry of `certValidationCache`. -/
structure CachedResult where
  result : CrlValidationResult
  timestamp : Time

structure CrlState (Crl : Type) where
  crlCache : String → Option (CachedCrl Crl) := fun _ => none
  certValidationCache : String → Option CachedResult := fun _ => none

/-- One distribution point in the course of a check: when the cache is looked into, what the
server answers if it is asked, and when that has been checked. -/
structure CrlVisit (Crl : Type) where
  lookedUpAt : Time
  response : Except String Crl
  checkedAt : Time

/-- A call of `checkCertificateRevocation` with what it reads of the clock and of the
servers; `visit i` is for the distribution point `i`. -/
structure CrlCall (Crl : Type) where
  certPem : String
  chainPems : List String
  askedAt : Time
  visit : Nat → CrlVisit Crl
  storedAt : Time

def certValidationCacheTtlMs : Nat := 30 * 1000

def defaultCacheTtlMs : Nat := 60 * 60 * 1000

def cRLSign : Nat := 64

/-! ## The service -/

variable {Cert Crl : Type} (x : X509Library Cert Crl)

def CachedCrl.isCacheValid (now : Time) (cached : CachedCrl Crl) : Bool :=
  match cached.nextUpdate with
  | some nextUpdate => decide (now < nextUpdate)
  | none => decide (now - cached.fetchedAt < defaultCacheTtlMs)

def extractCrlDistributionPoints (cert : Cert) : List String :=
  (x.cdpExtension cert).elim [] fun rawData =>
    (DistributionPoints.extractUrlsFromRawCdp rawData).map String.ofList

def findIssuer (cert : Cert) (chainPems : List String) : Option Cert :=
  chainPems.findSome? fun pem =>
    match x.parseCertificate pem with
    | .ok candidate =>
      if x.subject candidate == x.issuer cert && x.verifies cert candidate then some candidate
      else none
    | .error _ => none

def verifyCrl (crl : Crl) (cert issuer : Cert) : Except String Unit :=
  if x.crlIssuer crl != x.issuer cert then
    .error ("CRL issuer \"" ++ x.crlIssuer crl ++ "\" does not match certificate issuer \"" ++
      x.issuer cert ++ "\"")
  else if (x.keyUsages issuer).any fun usages => usages &&& cRLSign == 0 then
    .error ("Issuer certificate " ++ x.subject issuer ++ " lacks the cRLSign key usage")
  else if !x.crlVerifies crl issuer then
    .error ("CRL signature does not verify with the key of " ++ x.subject issuer)
  else .ok ()

def validCached (cache : String → Option (CachedCrl Crl)) (url : String) (now : Time) :
    Option (CachedCrl Crl) :=
  (cache url).filter (·.isCacheValid now)

/-- `getVerifiedCrl`: the CRL, and whether it is from the cache. -/
def getVerifiedCrl (cache : String → Option (CachedCrl Crl)) (url : String) (cert issuer : Cert)
    (visit : CrlVisit Crl) : Except String (Crl × Bool) × (String → Option (CachedCrl Crl)) :=
  match validCached cache url visit.lookedUpAt with
  | some cached =>
    ((verifyCrl x cached.crl cert issuer).map fun _ => (cached.crl, true), cache)
  | none =>
    match visit.response with
    | .error message => (.error ("Failed to fetch CRL from " ++ url ++ ": " ++ message), cache)
    | .ok crl =>
      match verifyCrl x crl cert issuer with
      | .error message => (.error message, cache)
      | .ok () =>
        (.ok (crl, false), Function.update cache url
          (some { crl, fetchedAt := visit.checkedAt, nextUpdate := x.nextUpdate crl }))

/-- `crl.findRevoked(cert)`. -/
def findRevoked (crl : Crl) (cert : Cert) : Option RevokedEntry :=
  (x.entries crl).find? fun entry => entry.serialNumber == x.serialNumber cert

/-- The result `checkAgainstCrl` gives for a verified CRL. -/
def checkAgainstCrl (cert : Cert) (crl : Crl) (fromCache : Bool) : CrlValidationResult :=
  match findRevoked x crl cert with
  | none => { isValid := true, fromCache := some fromCache }
  | some revoked => {
      isValid := false
      revokedAt := some revoked.revocationDate
      reason := revoked.reason.map fun reason =>
        (x.crlReason reason).getD ("unknown(" ++ toString reason ++ ")")
      fromCache := some fromCache }

/-- The loop over the distribution points, from the one with number `i` on: the first result,
and the CRLs that are cached then. -/
def checkCrlUrls (cert issuer : Cert) (visit : Nat → CrlVisit Crl) :
    List String → Nat → (String → Option (CachedCrl Crl)) →
      Option CrlValidationResult × (String → Option (CachedCrl Crl))
  | [], _, cache => (none, cache)
  | url :: urls, i, cache =>
    match getVerifiedCrl x cache url cert issuer (visit i) with
    | (.ok (crl, fromCache), cache') => (some (checkAgainstCrl x cert crl fromCache), cache')
    | (.error _, cache') => checkCrlUrls cert issuer visit urls (i + 1) cache'

/-- The result of an earlier check of this certificate that is not older than the cache
allows. -/
def cachedResult (st : CrlState Crl) (cert : Cert) (now : Time) : Option CachedResult :=
  (st.certValidationCache (x.thumbprint cert)).filter fun cached =>
    decide (now - cached.timestamp < certValidationCacheTtlMs)

def CrlState.store (st : CrlState Crl) (key : String) (result : CrlValidationResult)
    (timestamp : Time) : CrlState Crl :=
  { st with
    certValidationCache := Function.update st.certValidationCache key (some { result, timestamp }) }

def checkWithIssuer (st : CrlState Crl) (cert : Cert) (call : CrlCall Crl) :
    CrlValidationResult × (String → Option (CachedCrl Crl)) :=
  match findIssuer x cert call.chainPems with
  | none =>
    ({ isValid := false
       error := some ("Issuer certificate not in the chain; cannot verify the CRL of " ++
         x.subject cert) }, st.crlCache)
  | some issuer =>
    let crlUrls := extractCrlDistributionPoints x cert
    let checked := checkCrlUrls x cert issuer call.visit crlUrls 0 st.crlCache
    (checked.1.getD {
        isValid := false
        error := some ("Failed to validate against any CRL: " ++ ", ".intercalate crlUrls) },
      checked.2)

def checkCertificateRevocation (st : CrlState Crl) (call : CrlCall Crl) :
    CrlValidationResult × CrlState Crl :=
  match x.parseCertificate call.certPem with
  | .error message =>
    ({ isValid := false, error := some ("CRL validation failed: " ++ message) }, st)
  | .ok cert =>
    match cachedResult x st cert call.askedAt with
    | some cached => ({ cached.result with fromCache := some true }, st)
    | none =>
      if (extractCrlDistributionPoints x cert).isEmpty then
        ({ isValid := true, error := some "No CRL Distribution Points in certificate" }, st)
      else if x.isSelfSigned cert then
        ({ isValid := true, error := some "Self-signed certificate; no CA to revoke it" }, st)
      else
        let checked := checkWithIssuer x st cert call
        (checked.1, { st with crlCache := checked.2 }.store (x.thumbprint cert) checked.1
          call.storedAt)

def crlRun (calls : List (CrlCall Crl)) : CrlState Crl :=
  calls.foldl (fun st call => (checkCertificateRevocation x st call).2) {}

def crlAnswer (calls : List (CrlCall Crl)) (call : CrlCall Crl) : CrlValidationResult :=
  (checkCertificateRevocation x (crlRun x calls) call).1

end Eudiplo
