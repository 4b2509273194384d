import Eudiplo.Keys.Iso18013
import Eudiplo.Keys.TrustLists

/-!
# The key services under any number of requests

Requests for key chains, managed trust lists and ISO 18013-7 offers, over one store.  The
renewal of trust lists and the rotation of keys are requests like the others: they may
arrive at any time, on any number of replicas.
-/

namespace Eudiplo

open Concurrency

inductive TrustListRequest where
  | create (tenantId tenantName : String) (config : TrustListCreateDto)
  | update (tenantId id : String) (values : TrustListCreateDto)
  | renewDue
  | importFile (updateExisting : Bool) (tenantId id : String) (config : TrustListCreateDto)
  | apply (tenantId id : String) (spec : TrustListCreateDto)
  | remove (tenantId id : String)
  | getJwt (tenantId id : String)
  | getVerifierX509Der (tenantId id : String)

inductive KeyChainRequest where
  | create (tenantId : String) (dto : KeyChainCreateDto)
  | regenerate (tenantId id : String) (dto : KeyChainCreateDto)
  | update (tenantId id : String) (dto : KeyChainUpdateDto)
  | rotate (tenantId id : String)
  | checkForRotation
  | delete (tenantId id : String)
  | importKeyChain (tenantId : String) (dto : KeyChainImportDto)
  | onTenantInit (tenantId : String)

inductive KeyRequest where
  | trustList (r : TrustListRequest)
  | keyChain (r : KeyChainRequest)
  | createOffer (q : OfferCall)
  | processResponse (sessionId encrypted : String)

inductive KeyAnswer where
  | done
  | text (s : String)
  | list (t : TrustList)
  | offer (o : Iso18013Offer)
  | response (redirectUri : Option String)
  deriving DecidableEq

def answerWith {α : Type} (f : α → KeyAnswer) (p : KeyApi α) : KeyApi KeyAnswer := do
  let a ← p
  return f a

def TrustListRequest.program : TrustListRequest → KeyApi KeyAnswer
  | .create tenantId tenantName config =>
    answerWith .list (TrustListService.create config tenantId tenantName)
  | .update tenantId id values => answerWith .list (TrustListService.update tenantId id values)
  | .renewDue => answerWith (fun _ => .done) TrustListService.renewDueTrustLists
  | .importFile updateExisting tenantId id config =>
    answerWith (fun _ => .done) (TrustListService.importTrustList updateExisting tenantId id config)
  | .apply tenantId id spec =>
    answerWith (fun _ => .done) (TrustListService.applyTrustList tenantId id spec)
  | .remove tenantId id => answerWith (fun _ => .done) (TrustListService.remove tenantId id)
  | .getJwt tenantId id => answerWith .text (TrustListService.getJwt tenantId id)
  | .getVerifierX509Der tenantId id =>
    answerWith .text (TrustListService.getVerifierX509Der tenantId id)

def KeyChainRequest.program : KeyChainRequest → KeyApi KeyAnswer
  | .create tenantId dto => answerWith .text (KeyChainService.create tenantId dto)
  | .regenerate tenantId id dto =>
    answerWith (fun _ => .done) (KeyChainService.regenerate tenantId id dto)
  | .update tenantId id dto => answerWith (fun _ => .done) (KeyChainService.update tenantId id dto)
  | .rotate tenantId id => answerWith (fun _ => .done) (KeyChainService.rotate tenantId id)
  | .checkForRotation => answerWith (fun _ => .done) KeyChainService.checkForRotation
  | .delete tenantId id => answerWith (fun _ => .done) (KeyChainService.delete tenantId id)
  | .importKeyChain tenantId dto =>
    answerWith .text (KeyChainService.importKeyChain tenantId dto)
  | .onTenantInit tenantId => answerWith .text (EncryptionService.onTenantInit tenantId)

def KeyRequest.program (w : KeyWorld) : KeyRequest → KeyApi KeyAnswer
  | .trustList r => r.program
  | .keyChain r => r.program
  | .createOffer q => answerWith .offer (Iso18013Service.createOffer w q)
  | .processResponse sessionId encrypted =>
    answerWith .response (Iso18013Service.processResponse w sessionId encrypted)

/-- **The key services under any number of requests.** -/
def keyServices (w : KeyWorld) :
    System KeyCall.Reply KeyStore Nat KeyRequest ApiError KeyAnswer where
  answer := KeyCall.answer w
  drift milliseconds s := { s with clock := s.clock + milliseconds }
  program := KeyRequest.program w

abbrev KeyState := Global KeyCall.Reply KeyStore KeyRequest

abbrev KeySchedule := List (Move Nat KeyRequest)

abbrev KeyConfig := Config KeyCall.Reply KeyStore KeyRequest ApiError KeyAnswer

end Eudiplo

/-!
# A deployment of the key services that runs

A world whose keys are told apart by how many letters they have, whose certificates are the
keys they are for, and whose signatures and ciphertexts name what they were made with; and
schedules put together from requests.
-/

namespace Eudiplo

open Concurrency

namespace KeyDeployment

/-- The `n`th key. -/
def keyName (n : Nat) : String := String.ofList (List.replicate n 'k')

def keyPair (name : String) : Jwk := { x := name, y := name, d := some name }

def entity : TrustListEntity :=
  { certificates := .external "pem" "pem", info := { name := "Entity" } }

def late : Time := trustListValidityMs

def listOf (number : Nat) (issuedLate : Bool) : LoTE :=
  TrustListService.createList "Tenant"
    [TrustListService.createEntityFromData "pem" "pem" entity.info entity.providerType] number false
    (if issuedLate then late else 0)

def isListOf (lote : LoTE) : Bool :=
  lote == listOf lote.listAndSchemeInformation.loTESequenceNumber
    (lote.listAndSchemeInformation.listIssueDateTime != 0)

def signerName (signer : KmsKeyRef) : String := signer.publicJwk.x

def jwtOf (lote : LoTE) (key : String) : String :=
  String.ofList ((if lote.listAndSchemeInformation.listIssueDateTime != 0 then ['l'] else []) ++
    List.replicate lote.listAndSchemeInformation.loTESequenceNumber 'n' ++ key.toList)

def payload (jwt : String) : Option LoTE :=
  some (listOf (jwt.toList.count 'n') (jwt.toList.contains 'l'))

/-- Does the JWT name the key of the certificate? -/
def verifies (jwt der : String) : Bool := der.toList == jwt.toList.filter (· == 'k')

def plain (text : String) : String := String.ofList (text.toList.filter (· != '|'))

def sealed (x info plaintext : String) : String := plain (x ++ info) ++ "|" ++ plaintext

theorem uuids_injective :
    Function.Injective fun n => String.ofList (List.replicate (n + 1) 'u') := by
  intro n m h
  have hlen := congrArg String.length h
  simpa using hlen

/-- **The world of the deployment.** -/
def world : KeyWorld where
  answer n q := match q with
    | .tenant _ => .ok "Tenant"
    | .resolveProvider .. => .ok ⟨"db", true⟩
    | .generateKey .. =>
      .ok {
        privateJwk := some (keyPair (keyName (n + 2)))
        publicJwk := (keyPair (keyName (n + 2))).getPublicJwk }
    | .importKey _ _ jwk => .ok { privateJwk := some jwk, publicJwk := jwk.getPublicJwk }
    | .generateKeyPair => .ok (keyPair (keyName (n + 2)))
    | .deleteKey .. => .ok ()
    | .selfSignedCert _ _ ref _ _ _ => .ok ref.publicJwk.x
    | .caSignedCert _ _ caCertPem subjectPublicJwk _ _ _ => .ok [subjectPublicJwk.x, caCertPem]
    | .validateImported .. => .ok ()
    | .validateCertificate _ => .ok ()
    | .parseCertificate _ => .ok ()
    | .signLoTE lote _ _ signer _ =>
      if isListOf lote && (signerName signer).toList.all (· == 'k') then
        .ok (jwtOf lote (signerName signer))
      else .error (.http 500 "The key is not available" none)
    | .randomBytes => .ok "nonce"
    | .presentationConfig _ tenantId => .ok {
        query := {
          tenantId
          dcql_query := { credentials := [{
            id := "licence", format := "mso_mdoc"
            typed := { doctype_value := some "org.iso.18013.5.1.mDL" } }] } } }
    | .webhookEndpoint .. => .ok none
    | .readerAuth .. => .ok "signed"
    | .verifyDeviceResponse .. => .ok (.ok [])
    | .publishResult .. => .ok none
  uuid n := String.ofList (List.replicate (n + 1) 'u')
  uuid_injective := uuids_injective
  pick _ rows := rows.head?
  pick_mem h := List.mem_of_mem_head? h
  buildEncryptionInfo x y nonce := x ++ "|" ++ y ++ "|" ++ nonce
  hpkeInfo encryptionInfo origin := encryptionInfo ++ origin
  encodeDeviceRequest request _ := request.docType
  parseEncryptedResponse encrypted :=
    .ok (String.ofList (encrypted.toList.takeWhile (· != '|')),
      String.ofList (encrypted.toList.dropWhile (· != '|')).tail)
  hpkeOpen enc cipherText jwk info :=
    if enc == plain (jwk.x ++ info) && jwk.d == some jwk.x then .ok cipherText
    else .error "authentication failed"

def keyChain (usageType : KeyUsageType) (id : String) : KeyChainEntity where
  id
  tenantId := "tenant"
  usageType
  activeJwk := keyPair (keyName 1)
  activeCertificate := [keyName 1]

def tenantStore : KeyStore where
  clock := 0
  keyChains := ⟨[keyChain .trustList "lists", keyChain .encrypt "encryption"], by decide⟩
  lists := .empty
  sessions := .empty

/-- A request arrives as thread `t` and takes `n` calls. -/
def serve (t : Nat) (r : KeyRequest) (n : Nat) : KeySchedule :=
  .arrive r :: List.replicate n (.resume t)

def listRequest : TrustListCreateDto := { id := some "list", entities := [entity] }

def listKey : TenantKey := ("tenant", "list")

end KeyDeployment

end Eudiplo
