import Eudiplo.Verifier.Chain

/-!
# The certificate of a wallet provider

`WalletAttestationService.validateWalletSolutionCertificate`: the chain of a wallet or key
attestation checked against the wallet-provider lists of a tenant, over the same trust stores and
paths as the chain of an issuer.
-/

namespace Eudiplo

open Results

namespace ChainValidation

def WalletSolution : String := "http://uri.etsi.org/19602/SvcType/WalletSolution"

def walletSolutionServiceTypes : List String :=
  [WalletSolution, "http://uri.etsi.org/19602/SvcType/WalletSolution/Issuance",
    "http://uri.etsi.org/19602/SvcType/WalletSolution/Revocation"]

/-- One reference of `normalizeTrustListRefs`: a managed list, no list, or a list with its key. -/
def normalizeTrustListRef (ref : TrustListRef) : Except String (List TrustListRef) :=
  match ref.trustListId with
  | some trustListId =>
    if (trimText trustListId).isEmpty then .error "Managed trust-list ID must not be empty"
    else .ok [{ trustListId := some (trimText trustListId), url := some "" }]
  | none =>
    let url := trimText (ref.url.getD "")
    if url.isEmpty then .ok []
    else if ref.verifierKey.isNone && (trimText (ref.verifierX509Der.getD "")).isEmpty then
      .error ("Trust list reference '" ++ url ++
        "' must define verifierKey, verifierKeyPem or verifierX509Der")
    else .ok [{ url := some url
                verifierKey := ref.verifierKey
                verifierX509Der := ref.verifierX509Der.map trimText }]

def normalizeTrustListRefs (refs : List TrustListRef) : Except String (List TrustListRef) :=
  List.flatten <$> refs.mapM normalizeTrustListRef

def walletSource (refs : List TrustListRef) (tenantId : String) : LoteSource where
  tenantId := some tenantId
  lotes := refs
  acceptedServiceTypes := some walletSolutionServiceTypes

variable (w : ChainWorld)

def matchWalletProvider (presented : List Certificate) (leaf : Certificate)
    (store : BuiltTrustStore) : Except String MatchedTrustedEntity :=
  match w.build (presented ++ trustAnchors w store) leaf with
  | .error message => .error ("Certificate chain validation failed: " ++ message)
  | .ok path =>
    match pathMatchesTrustedEntities w leaf (path.getLast?.getD leaf) .leaf WalletSolution
        store.entities with
    | .error message => .error ("Certificate chain validation failed: " ++ message)
    | .ok none =>
      .error "Wallet provider certificate is not trusted - no matching entity in trust list"
    | .ok (some matchedEntity) => .ok matchedEntity

/-- **`validateWalletSolutionCertificate`**, of the `x5c` header of an attestation. -/
def validateWalletSolutionCertificate (cache : List (CachedStore w)) (x5c : List String)
    (trustListInputs : List TrustListRef) (tenantId : String) :
    Except String (MatchedTrustedEntity × CachedStore w) := do
  let trustListRefs ← normalizeTrustListRefs trustListInputs
  if trustListRefs.isEmpty then
    .error "No wallet provider trust lists configured for wallet attestation verification"
  else if x5c.isEmpty then
    .error "Wallet attestation JWT does not contain X.509 certificate chain (x5c header)"
  else do
    let trustStore ← getTrustStore w cache (walletSource trustListRefs tenantId)
    if trustStore.store.entities.isEmpty then
      .error "No trusted wallet providers found in configured trust lists"
    else
      match x5c.mapM w.parseCertificate with
      | none | some [] => .error "Cannot parse certificate"
      | some (leaf :: chain) => do
        let matchedEntity ← matchWalletProvider w (leaf :: chain) leaf trustStore.store
        return (matchedEntity, trustStore)

end ChainValidation

end Eudiplo
