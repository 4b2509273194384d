import Eudiplo.Concurrency.Evidence
import Eudiplo.Keys.System

/-!
# Who writes what

The handlers of the key services read key chains and trust lists, and ask questions
(`Looks`); beyond that those for key chains write key chains only, those for trust lists
write trust lists only, and those of ISO 18013-7 use the sessions only.
-/

namespace Eudiplo

open Concurrency Prog

def KeyCall.Looks : KeyCall → Prop
  | .keyChains (.findOne _) | .keyChains (.findByUsageType ..) | .keyChains .findRotating => True
  | .lists (.findOne _) | .lists .find => True
  | .now | .uuid | .ask _ => True
  | _ => False

def KeyCall.OfKeyChains : KeyCall → Prop
  | .keyChains _ | .now | .uuid | .ask _ => True
  | _ => False

def KeyCall.OfTrustLists : KeyCall → Prop
  | .lists _ => True
  | op => op.Looks

def KeyCall.OfSessions : KeyCall → Prop
  | .session _ => True
  | op => op.Looks

def KeyCall.OfResponses : KeyCall → Prop
  | .session (.updateUnconsumedForTenant _ _ update) =>
    update.vp_nonce = none ∧ update.browserOrigin = none
  | .session (.findIso18013Session _) => True
  | op => op.Looks

open KeyCall

theorem Looks.ofTrustLists (op : KeyCall) (h : Looks op) : OfTrustLists op := by
  cases op with
  | lists c => trivial
  | _ => exact h

theorem Looks.ofSessions (op : KeyCall) (h : Looks op) : OfSessions op := by
  cases op with
  | session c => trivial
  | _ => exact h

theorem Looks.ofResponses (op : KeyCall) (h : Looks op) : OfResponses op := by
  cases op with
  | session c => exact h.elim
  | _ => exact h

theorem OfResponses.ofSessions (op : KeyCall) (h : OfResponses op) : OfSessions op := by
  cases op with
  | session c => trivial
  | _ => exact h

/-! ## Questions -/

theorem looks_askKeys (q : KeyQuestion) : (askKeys q).Only Looks :=
  Only.await trivial fun _ => only_ofExcept _

theorem ofKeyChains_askKeys (q : KeyQuestion) : (askKeys q).Only OfKeyChains :=
  Only.await trivial fun _ => only_ofExcept _

theorem yields_askKeys {w : KeyWorld} {tid : Nat} {g : KeyState} (q : KeyQuestion) :
    (keyServices w).Yields tid (fun _ a => ∃ n, w.answer n q = .ok a) (askKeys q) g := by
  intro g' _
  have hchecked : (keyServices w).Yields tid (fun _ a => ∃ n, w.answer n q = .ok a)
      (ofExcept (w.answer g'.store.consults q)) ((keyServices w).after g' tid (.ask q)) := by
    cases hanswer : w.answer g'.store.consults q with
    | error e => trivial
    | ok a => exact fun _ _ => ⟨_, hanswer⟩
  exact hchecked

theorem only_answerWith {P : KeyCall → Prop} {α : Type} {f : α → KeyAnswer} {p : KeyApi α}
    (h : p.Only P) : (answerWith f p).Only P := h.bind fun _ => trivial

/-! ## Look-ups -/

theorem looks_getEntity (tenantId id : String) :
    (KeyChainService.getEntity tenantId id).Only Looks :=
  Only.await trivial fun _ => only_getOrFail _ _

theorem looks_findByUsageType (tenantId : String) (usageType : KeyUsageType)
    (keyId : Option String) :
    (KeyChainService.findByUsageType tenantId usageType keyId).Only Looks :=
  Only.await trivial fun _ => only_getOrFail _ _

theorem looks_getCertificateById (tenantId certId : String) :
    (CertService.getCertificateById tenantId certId).Only Looks :=
  (looks_getEntity tenantId certId).bind fun _ => trivial

theorem looks_find (tenantId : String) (type : KeyUsageType) :
    (CertService.find tenantId type).Only Looks :=
  (looks_findByUsageType tenantId type none).bind fun _ =>
    (looks_askKeys _).bind fun _ => trivial

theorem looks_findOne (tenantId id : String) : (TrustListService.findOne tenantId id).Only Looks :=
  Only.await trivial fun _ => only_getOrFail _ _

/-! ## Key chains -/

section KeyChains

open KeyChainService

variable (tenantId id : String)

theorem ofKeyChains_getEntity : (getEntity tenantId id).Only OfKeyChains :=
  Only.await trivial fun _ => only_getOrFail _ _

theorem ofKeyChains_createKeyChain (type : KeyChainType) (usageType : KeyUsageType)
    (adapter : KmsAdapter) (subjectCN : String) (notBefore notAfter : Time) :
    (createKeyChain type tenantId id usageType adapter subjectCN notBefore notAfter).Only
      OfKeyChains := by
  cases type with
  | internalChain =>
    exact (ofKeyChains_askKeys _).bind fun _ => (ofKeyChains_askKeys _).bind fun _ =>
      (ofKeyChains_askKeys _).bind fun _ => (ofKeyChains_askKeys _).bind fun _ => trivial
  | standalone =>
    exact (ofKeyChains_askKeys _).bind fun _ => (ofKeyChains_askKeys _).bind fun _ => trivial

theorem ofKeyChains_createWithId (dto : KeyChainCreateDto) :
    (createWithId tenantId id dto).Only OfKeyChains :=
  (ofKeyChains_askKeys _).bind fun _ => Only.await trivial fun _ =>
    (ofKeyChains_askKeys _).bind fun _ => (ofKeyChains_createKeyChain ..).bind fun _ =>
      ⟨trivial, fun _ => trivial⟩

theorem ofKeyChains_deleteExternalKeyMaterial (keyChain : KeyChainEntity) :
    (deleteExternalKeyMaterial keyChain).Only OfKeyChains := by
  refine Only.bind (Only.attempt ?_) fun _ => trivial
  exact (ofKeyChains_askKeys _).bind fun _ => ofKeyChains_askKeys _

theorem ofKeyChains_regenerate (dto : KeyChainCreateDto) :
    (regenerate tenantId id dto).Only OfKeyChains := by
  refine Only.await trivial fun previous => Only.await trivial fun _ => ?_
  refine (ofKeyChains_createWithId ..).bind fun _ => (ofKeyChains_getEntity ..).bind fun _ => ?_
  refine Only.await trivial fun _ => Only.await trivial fun _ => ?_
  cases previous with
  | some previous => exact ofKeyChains_deleteExternalKeyMaterial previous
  | none => trivial

theorem ofKeyChains_rotatedCertificate (keyChain : KeyChainEntity) (adapter : KmsAdapter)
    (newKey : KmsKeyRef) (subjectCN : String) (notBefore notAfter : Time) :
    (rotatedCertificate keyChain adapter newKey subjectCN notBefore notAfter).Only
      OfKeyChains := by
  unfold rotatedCertificate
  split
  · exact ofKeyChains_askKeys _
  · exact (ofKeyChains_askKeys _).bind fun _ => only_ret _

theorem ofKeyChains_rotate : (rotate tenantId id).Only OfKeyChains := by
  refine (ofKeyChains_getEntity ..).bind fun _ => (ofKeyChains_askKeys _).bind fun _ => ?_
  refine Only.await trivial fun _ => (ofKeyChains_askKeys _).bind fun _ => ?_
  refine Only.await trivial fun _ => (ofKeyChains_askKeys _).bind fun _ => ?_
  exact (ofKeyChains_rotatedCertificate ..).bind fun _ => ⟨trivial, fun _ => trivial⟩

theorem ofKeyChains_checkForRotation : checkForRotation.Only OfKeyChains :=
  Only.await trivial fun _ => Only.await trivial fun _ => Only.each fun _ _ =>
    (ofKeyChains_rotate _ _).attempt.bind fun _ => trivial

theorem ofKeyChains_importedCertificate (adapter : KmsAdapter) (key : KmsKeyRef)
    (subjectCN : String) (crt : List String) :
    (importedCertificate adapter key subjectCN crt).Only OfKeyChains := by
  cases crt with
  | cons leaf rest => exact (ofKeyChains_askKeys _).bind fun _ => trivial
  | nil => exact Only.await trivial fun _ => (ofKeyChains_askKeys _).bind fun _ => trivial

theorem ofKeyChains_importActive (subjectCN : String) (adapter : KmsAdapter) (privateKey : Jwk)
    (dto : KeyChainImportDto) :
    (importActive tenantId id subjectCN adapter privateKey dto).Only OfKeyChains :=
  (ofKeyChains_askKeys _).bind fun _ => (ofKeyChains_importedCertificate ..).bind fun _ =>
    ⟨trivial, fun _ => trivial⟩

theorem ofKeyChains_importedRoot (adapter : KmsAdapter) (root : KmsKeyRef) (subjectCN : String)
    (now : Time) (crt : List String) :
    (importedRoot adapter root subjectCN now crt).Only OfKeyChains := by
  unfold importedRoot
  split
  · trivial
  · exact ofKeyChains_askKeys _

theorem ofKeyChains_importKeyChainWithRotation (subjectCN : String) (adapter : KmsAdapter)
    (rootKey : Jwk) (policy : RotationPolicy) (dto : KeyChainImportDto) :
    (importKeyChainWithRotation tenantId id subjectCN adapter rootKey policy dto).Only
      OfKeyChains := by
  refine Only.await trivial fun _ => (ofKeyChains_askKeys _).bind fun _ => ?_
  refine (ofKeyChains_importedRoot ..).bind fun _ => (ofKeyChains_askKeys _).bind fun _ => ?_
  refine Only.await trivial fun _ => (ofKeyChains_askKeys _).bind fun _ => ?_
  exact (ofKeyChains_askKeys _).bind fun _ => ⟨trivial, fun _ => trivial⟩

theorem ofKeyChains_importKeyChain (dto : KeyChainImportDto) :
    (importKeyChain tenantId dto).Only OfKeyChains := by
  have hid : (importId dto).Only OfKeyChains := by
    unfold importId
    split
    · trivial
    · exact ⟨trivial, fun _ => trivial⟩
  have hkid (id : String) (replacing : Bool) : (importKid id replacing dto).Only OfKeyChains := by
    cases replacing with
    | true => exact Only.await trivial fun _ => trivial
    | false => trivial
  refine hid.bind fun id => (ofKeyChains_askKeys _).bind fun _ => Only.await trivial fun _ => ?_
  refine (ofKeyChains_askKeys _).bind fun _ => (hkid _ _).bind fun _ => ?_
  dsimp only
  split
  · exact (ofKeyChains_importKeyChainWithRotation ..).bind fun _ => trivial
  · exact (ofKeyChains_importActive ..).bind fun _ => trivial

theorem ofKeyChains_createStandalone (description : Option String) (usageType : KeyUsageType)
    (privateKey : Jwk) :
    (createStandalone tenantId description usageType privateKey).Only OfKeyChains :=
  Only.await trivial fun _ => Only.await trivial fun _ => trivial

end KeyChains

/-- **The key chain services write key chains only.** -/
theorem KeyChainRequest.program_only (r : KeyChainRequest) : r.program.Only OfKeyChains := by
  cases r with
  | create tenantId dto =>
    exact only_answerWith <| Only.await trivial fun _ =>
      (ofKeyChains_createWithId ..).bind fun _ => trivial
  | regenerate tenantId id dto => exact only_answerWith (ofKeyChains_regenerate ..)
  | update tenantId id dto =>
    exact only_answerWith <| (ofKeyChains_getEntity ..).bind fun _ => ⟨trivial, fun _ => trivial⟩
  | rotate tenantId id => exact only_answerWith (ofKeyChains_rotate ..)
  | checkForRotation => exact only_answerWith ofKeyChains_checkForRotation
  | delete tenantId id =>
    exact only_answerWith <| (ofKeyChains_getEntity ..).bind fun _ =>
      (ofKeyChains_deleteExternalKeyMaterial _).bind fun _ => ⟨trivial, fun _ => trivial⟩
  | importKeyChain tenantId dto => exact only_answerWith (ofKeyChains_importKeyChain ..)
  | onTenantInit tenantId =>
    exact only_answerWith <| (ofKeyChains_askKeys _).bind fun _ => ofKeyChains_createStandalone ..

/-! ## Building a trust list -/

section TrustLists

open TrustListService

theorem looks_validateEntities (entities : List TrustListEntity) :
    (each validateEntity entities).Only Looks := by
  have hpem (pem fieldName : String) : (validatePem pem fieldName).Only Looks :=
    Only.ensure fun _ => (looks_askKeys _).attempt.bind fun _ => only_ensure _ _
  refine Only.each fun entity _ => ?_
  unfold validateEntity
  split
  · exact (hpem _ _).bind fun _ => hpem _ _
  · trivial

theorem looks_signingCert (tenantId : String) (config : TrustListCreateDto)
    (existing : Option TrustList) : (signingCert tenantId config existing).Only Looks := by
  unfold signingCert
  split
  · exact (looks_getCertificateById ..).bind fun _ => Only.ensure fun _ => trivial
  · split
    · exact looks_getCertificateById ..
    · exact looks_find ..

theorem looks_createEntity (tenantId : String) (entity : TrustListEntity) :
    (createEntity tenantId entity).Only Looks := by
  have hformat (cert : CertificateInfo) : (formatCertEntity cert).Only Looks :=
    Only.require fun _ _ => trivial
  unfold createEntity
  split
  · exact (looks_getCertificateById ..).bind fun _ => (looks_getCertificateById ..).bind fun _ =>
      (hformat _).bind fun _ => (hformat _).bind fun _ => trivial
  · trivial

theorem looks_createEntities (tenantId : String) (entities : List TrustListEntity) :
    (createEntities tenantId entities).Only Looks := by
  induction entities with
  | nil => trivial
  | cons entity entities ih =>
    exact (looks_createEntity tenantId entity).bind fun _ => ih.bind fun _ => trivial

theorem looks_newListId (config : TrustListCreateDto) : (newListId config).Only Looks := by
  unfold newListId
  split
  · trivial
  · exact ⟨trivial, fun _ => trivial⟩

theorem looks_generateJwt (tenantId keyChainId : String) (lote : LoTE) :
    (generateJwt tenantId keyChainId lote).Only Looks :=
  (looks_getCertificateById ..).bind fun _ => (looks_getEntity ..).bind fun _ =>
    (looks_askKeys _).bind fun _ => looks_askKeys _

theorem ofTrustLists_of_looks {α : Type} {p : KeyApi α} (h : p.Only Looks) : p.Only OfTrustLists :=
  h.mono Looks.ofTrustLists

theorem ofTrustLists_createTrustList (config : TrustListCreateDto) (tenantId tenantName : String) :
    (createTrustList config tenantId tenantName).Only OfTrustLists := by
  refine (ofTrustLists_of_looks (looks_validateEntities _)).bind fun _ => ?_
  refine (ofTrustLists_of_looks (looks_signingCert ..)).bind fun _ => ?_
  refine (ofTrustLists_of_looks (looks_newListId _)).bind fun _ => ?_
  refine (ofTrustLists_of_looks (looks_createEntities ..)).bind fun _ =>
    Only.await trivial fun _ => ?_
  refine (ofTrustLists_of_looks (looks_generateJwt ..)).bind fun _ => ?_
  exact ⟨trivial, fun _ => trivial⟩

theorem ofTrustLists_replaceTrustList (config : TrustListCreateDto) (tenantId tenantName : String)
    (existing : TrustList) :
    (replaceTrustList config tenantId tenantName existing).Only OfTrustLists := by
  refine (ofTrustLists_of_looks (looks_validateEntities _)).bind fun _ => ?_
  refine (ofTrustLists_of_looks (looks_signingCert ..)).bind fun _ => ?_
  refine (ofTrustLists_of_looks (looks_createEntities ..)).bind fun _ =>
    Only.await trivial fun _ => ?_
  refine (ofTrustLists_of_looks (looks_generateJwt ..)).bind fun _ => Only.await trivial fun _ => ?_
  exact Only.ensure fun _ => ofTrustLists_of_looks (looks_findOne ..)

theorem ofTrustLists_update (tenantId id : String) (values : TrustListCreateDto) :
    (update tenantId id values).Only OfTrustLists :=
  (ofTrustLists_of_looks (looks_findOne ..)).bind fun _ =>
    (ofTrustLists_of_looks (looks_askKeys _)).bind fun _ => ofTrustLists_replaceTrustList ..

theorem ofTrustLists_renewDueTrustLists : renewDueTrustLists.Only OfTrustLists := by
  refine Only.await trivial fun now => Only.await trivial fun _ => Only.each fun trustList _ => ?_
  unfold renewIfDue
  split
  · trivial
  · split
    · have hrenew (lote : LoTE) : (renew trustList lote now).Only OfTrustLists :=
        (ofTrustLists_of_looks (looks_generateJwt ..)).bind fun _ => ⟨trivial, fun _ => trivial⟩
      exact (hrenew _).attempt.bind fun _ => trivial
    · trivial

theorem ofTrustLists_importTrustList (updateExisting : Bool) (tenantId id : String)
    (config : TrustListCreateDto) :
    (importTrustList updateExisting tenantId id config).Only OfTrustLists := by
  refine Only.await trivial fun found => ?_
  split
  · trivial
  · have hdelete : (trustLists (.delete (tenantId, id))).Only OfTrustLists :=
      ⟨trivial, fun _ => trivial⟩
    refine hdelete.onlyIf.bind fun _ => ?_
    exact (ofTrustLists_of_looks (looks_askKeys _)).bind fun _ =>
      (ofTrustLists_createTrustList ..).bind fun _ => trivial

theorem ofTrustLists_applyTrustList (tenantId id : String) (spec : TrustListCreateDto) :
    (applyTrustList tenantId id spec).Only OfTrustLists := by
  refine (ofTrustLists_of_looks (looks_askKeys _)).bind fun _ => Only.await trivial fun found => ?_
  split
  · exact (ofTrustLists_update ..).bind fun _ => trivial
  · exact (ofTrustLists_createTrustList ..).bind fun _ => trivial

end TrustLists

/-- **The trust list service writes trust lists only.** -/
theorem TrustListRequest.program_only (r : TrustListRequest) : r.program.Only OfTrustLists := by
  cases r with
  | create tenantId tenantName config => exact only_answerWith (ofTrustLists_createTrustList ..)
  | update tenantId id values => exact only_answerWith (ofTrustLists_update ..)
  | renewDue => exact only_answerWith ofTrustLists_renewDueTrustLists
  | importFile updateExisting tenantId id config =>
    exact only_answerWith (ofTrustLists_importTrustList ..)
  | apply tenantId id spec => exact only_answerWith (ofTrustLists_applyTrustList ..)
  | remove tenantId id => exact only_answerWith ⟨trivial, fun _ => trivial⟩
  | getJwt tenantId id =>
    exact only_answerWith <| (ofTrustLists_of_looks (looks_findOne ..)).bind fun _ => trivial
  | getVerifierX509Der tenantId id =>
    exact only_answerWith <| (ofTrustLists_of_looks (looks_findOne ..)).bind fun _ =>
      (ofTrustLists_of_looks (looks_getCertificateById ..)).bind fun _ =>
        Only.require fun _ _ => trivial

/-! ## ISO 18013-7 -/

section Iso18013

open Iso18013Service

theorem ofSessions_askKeys (q : KeyQuestion) : (askKeys q).Only OfSessions :=
  (looks_askKeys q).mono Looks.ofSessions

theorem looks_getEncryptionPrivateJwk (tenantId : String) :
    (EncryptionService.getEncryptionPrivateJwk tenantId).Only Looks :=
  (looks_findByUsageType ..).bind fun _ => trivial

theorem looks_getEncryptionPublicKey (tenantId : String) :
    (EncryptionService.getEncryptionPublicKey tenantId).Only Looks :=
  (looks_findByUsageType ..).bind fun _ => trivial

theorem looks_resolveWebhookFromEndpoint (webhookEndpointId : Option String) (tenantId : String) :
    (resolveWebhookFromEndpoint webhookEndpointId tenantId).Only Looks := by
  unfold resolveWebhookFromEndpoint
  split
  · exact looks_askKeys _
  · trivial

theorem looks_resolveSessionWebhook (session : Session) :
    (Iso18013Service.resolveSessionWebhook session).Only Looks := by
  unfold Iso18013Service.resolveSessionWebhook
  split
  · trivial
  · exact looks_resolveWebhookFromEndpoint ..

theorem looks_publishResult (webhook : Option String) (session : Session)
    (status : SessionStatus) :
    (Iso18013Service.publishResult webhook session status).Only Looks := by
  cases webhook with
  | none => trivial
  | some _ => exact (looks_askKeys _).attempt.bind fun _ => trivial

theorem looks_readerAuth (q : OfferCall) (config : OfferConfig) (request : DeviceRequest)
    (encryptionInfo : String) : (readerAuth q config request encryptionInfo).Only Looks := by
  unfold readerAuth
  split
  · exact (looks_askKeys _).bind fun _ => trivial
  · trivial

theorem ofSessions_createOffer (w : KeyWorld) (q : OfferCall) :
    (createOffer w q).Only OfSessions := by
  refine (ofSessions_askKeys _).bind fun _ => ?_
  refine ((looks_getEncryptionPublicKey _).mono Looks.ofSessions).bind fun _ => ?_
  refine (ofSessions_askKeys _).bind fun _ => Only.await trivial fun _ => ?_
  refine (only_ofExcept _).bind fun _ => ?_
  refine ((looks_readerAuth ..).mono Looks.ofSessions).bind fun _ => Only.await trivial fun _ => ?_
  exact ((looks_resolveWebhookFromEndpoint ..).mono Looks.ofSessions).bind fun _ =>
    Only.await trivial fun _ => trivial

theorem ofResponses_failSession (session : Session) (reason : String)
    (failure : PresentationFailure) : (failSession session reason failure).Only OfResponses := by
  refine Only.await ⟨rfl, rfl⟩ fun updated => ?_
  cases updated with
  | true =>
    exact ((looks_resolveSessionWebhook _).mono Looks.ofResponses).attempt.bind fun _ =>
      ((looks_publishResult ..).mono Looks.ofResponses).bind fun _ => trivial
  | false => trivial

theorem ofResponses_completeResponse (session : Session) (deviceResponse : String) :
    (completeResponse session deviceResponse).Only OfResponses := by
  refine ((looks_askKeys _).mono Looks.ofResponses).bind fun verified => ?_
  cases verified with
  | error failure => exact (ofResponses_failSession ..).bind fun _ => trivial
  | ok credentials =>
    refine Only.await trivial fun _ => Only.await trivial fun _ => Only.await ⟨rfl, rfl⟩ fun _ => ?_
    refine Only.ensure fun _ =>
      ((looks_resolveSessionWebhook _).mono Looks.ofResponses).bind fun _ => ?_
    exact ((looks_publishResult ..).mono Looks.ofResponses).bind fun _ => trivial

theorem ofResponses_processResponse (w : KeyWorld) (sessionId encrypted : String) :
    (Iso18013Service.processResponse w sessionId encrypted).Only OfResponses := by
  refine Only.await trivial fun found => ?_
  cases found with
  | none => trivial
  | some session =>
    refine Only.ensure fun _ => Only.await trivial fun _ => (only_ofExcept _).bind fun _ => ?_
    refine ((looks_getEncryptionPrivateJwk _).mono Looks.ofResponses).bind fun privJwk => ?_
    split
    · trivial
    · split
      · exact (ofResponses_failSession ..).bind fun _ => trivial
      · exact ofResponses_completeResponse ..

theorem ofSessions_processResponse (w : KeyWorld) (sessionId encrypted : String) :
    (Iso18013Service.processResponse w sessionId encrypted).Only OfSessions :=
  (ofResponses_processResponse w sessionId encrypted).mono OfResponses.ofSessions

end Iso18013

end Eudiplo
