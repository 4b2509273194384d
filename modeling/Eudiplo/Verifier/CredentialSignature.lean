import Eudiplo.Verifier.Acceptance

/-!
# The issuer of an SD-JWT VC

`SdjwtvcverifierService.verifyCredential`, the callback with which the SD-JWT library verifies the
JWT of the issuer: its signature under the key of its header, and the chain of that key.
-/

namespace Eudiplo

namespace CredentialSignature

/-! ## Keys of a header -/

structure Header where
  x5c : Option (List String) := none
  deriving DecidableEq

/-- **What is asked of a JWT.**  A header that does not parse includes one whose `x5c` is no array
of strings; a verifier resolves to a boolean, or throws. -/
structure HeaderKeys where
  /-- The first part of the data, decoded and parsed. -/
  parseHeader : (data : String) → Except String Header
  /-- `new X509Certificate(Buffer.from(cert, "base64"))`. -/
  nodeCertificate : (cert : String) → Except String String
  /-- `cert.publicKey.export({ format: "jwk" })`. -/
  exportKey : (cert : String) → Except String String
  /-- `getCryptoFromJwk(publicKey).getVerifier(publicKey)`. -/
  getVerifier : (publicKey : String) → Except String (String → String → Except String Bool)

def resolvePublicKey (w : HeaderKeys) (header : Header) : Except String String :=
  match header.x5c with
  | some x5c => do
    let certs ← x5c.mapM w.nodeCertificate
    match certs with
    | [] => .error "Cannot read properties of undefined (reading 'publicKey')"
    | cert :: _ => w.exportKey cert
  | none => .error "No x5c header found in the JWT"

/-! ## Verification -/

def mapChainErrorToFailureType : String → String
  | "x5c_required" => "x5c_missing"
  | "chain_build_failed" => "no_trust_chain_to_root"
  | "no_trusted_entity_match" => "trust_chain_not_trusted"
  | "trust_list_unavailable" => "trust_list_unavailable"
  | "certificate_expired" => "certificate_expired"
  | _ => "verification_error"

def checkCredential (w : TrustWorld) (header : Header) (answer : Except String Bool)
    (options : VerifierOptions) : Except CredentialFailure Unit :=
  match answer with
  | .error _ | .ok false =>
    .error ⟨"signature_invalid", some "SD-JWT-VC issuer signature is invalid", ""⟩
  | .ok true =>
    match validateChain w (header.x5c.getD []) options with
    | .error code => .error ⟨mapChainErrorToFailureType code, some code, ""⟩
    | .ok () => .ok ()

def credentialVerifier (k : HeaderKeys) (data : String) :
    Except String (Header × (String → String → Except String Bool)) := do
  let header ← k.parseHeader data
  let publicKey ← resolvePublicKey k header
  let verifier ← k.getVerifier publicKey
  return (header, verifier)

def verifyCredential (w : TrustWorld) (k : HeaderKeys) (data signature : String)
    (options : VerifierOptions) : Except CredentialFailure Unit :=
  match credentialVerifier k data with
  | .error message => .error ⟨"verification_error", some message, ""⟩
  | .ok (header, verifier) => checkCredential w header (verifier data signature) options

/-- **A verifier whose SD-JWT library uses the callback**: it returns a result only when the
callback has verified the JWT of the issuer. -/
structure IssuerWorld extends ResponseWorld, HeaderKeys where
  /-- The data and the signature of the JWT that the issuer signed. -/
  issuerJwt : (credential : String) → String × String
  sdJwt_verifies : ∀ credential options status result,
    sdJwt credential options status = .ok result →
      verifyCredential toTrustWorld toHeaderKeys (issuerJwt credential).1 (issuerJwt credential).2
        options.options = .ok ()

def issuerChain (w : IssuerWorld) (format credential : String) : Option (List String) :=
  if format = "dc+sd-jwt" then
    match w.parseHeader (w.issuerJwt credential).1 with
    | .ok header => some (header.x5c.getD [])
    | .error _ => none
  else
    match w.decodeDeviceResponse credential with
    | .ok (some document) => some document.x5chain
    | _ => none

theorem validated_of_verifyCredential {w : TrustWorld} {k : HeaderKeys} {data signature : String}
    {options : VerifierOptions} (h : verifyCredential w k data signature options = .ok ()) :
    ∃ header, k.parseHeader data = .ok header ∧
      validateChain w (header.x5c.getD []) options = .ok () := by
  unfold verifyCredential at h
  split at h
  · cases h
  · rename_i header verifier hverifier
    obtain ⟨header', hheader, hverifier⟩ := Results.bind_eq_ok.mp hverifier
    obtain ⟨publicKey, -, hverifier⟩ := Results.bind_eq_ok.mp hverifier
    obtain ⟨verifier', -, hverifier⟩ := Results.bind_eq_ok.mp hverifier
    cases hverifier
    unfold checkCredential at h
    split at h
    · cases h
    · cases h
    · split at h
      · cases h
      · rename_i hchain
        exact ⟨header, hheader, hchain⟩

end CredentialSignature

end Eudiplo
