import Eudiplo.Portability.Redaction

/-!
# Do exports depend on secrets?

Secrets of the registrar, of attribute providers, webhook endpoints and the KMS are redacted, those
of clients are not exported at all.  Nothing redacts the client secret of the upstream of a chained
authorization server, and `toPublicJwk` leaves `oth`, the further primes of an RSA key: two stores
that differ only in secrets are exported alike exactly when they agree on these.
-/

namespace Eudiplo

open Storage

namespace Portability

/-! ## Stores that differ only in secrets -/

def SameExcept (names : List String) : Json → Json → Prop
  | .obj members, .obj members' =>
    List.Forall₂ (fun a b => a.1 = b.1 ∧ (names.contains a.1 = true ∨ a.2 = b.2)) members members'
  | value, value' => value = value'

def secretJwkMembers : List String := ["d", "p", "q", "dp", "dq", "qi", "k", "oth"]

def secretUpstreamMembers : List String := ["clientSecret"]

/-- Both have a secret, or neither. -/
def SameClient (client client' : ClientEntity) : Prop :=
  { client with secret := none } = { client' with secret := none } ∧
    truthy client.secret = truthy client'.secret

structure SameKeyChain (keyChain keyChain' : KeyChainEntity) : Prop where
  others : { keyChain with rootJwk := .null, activeJwk := .null } =
    { keyChain' with rootJwk := .null, activeJwk := .null }
  rootJwk : SameExcept secretJwkMembers keyChain.rootJwk keyChain'.rootJwk
  activeJwk : SameExcept secretJwkMembers keyChain.activeJwk keyChain'.activeJwk

structure SameServer (server server' : AuthorizationServer) : Prop where
  members : server.members = server'.members
  vp : server.vp = server'.vp
  upstream : Option.Rel (SameExcept secretUpstreamMembers) server.upstream server'.upstream

structure SameIssuance (issuance issuance' : Json × Option (List AuthorizationServer)) : Prop where
  entity : issuance.1 = issuance'.1
  servers : Option.Rel (List.Forall₂ SameServer) issuance.2 issuance'.2

/-- Entities of the same identifiers whose values differ only at these paths. -/
def SameEntities (paths : List String) (entities entities' : List (String × Json)) : Prop :=
  List.Forall₂ (fun a b => a.1 = b.1 ∧ DiffersOnlyAt paths [] a.2 b.2) entities entities'

/-- **Two stores that differ only in secret values.** -/
structure SameButSecrets (store store' : StoredConfiguration) : Prop where
  tenant : store.tenant = store'.tenant
  clients : List.Forall₂ SameClient store.clients store'.clients
  kms : Option.Rel (DiffersOnlyAt kmsSecretPaths []) store.kms store'.kms
  keyChains : List.Forall₂ SameKeyChain store.keyChains store'.keyChains
  registrar : Option.Rel (DiffersOnlyAt ["clientSecret", "password"] []) store.registrar
    store'.registrar
  issuance : Option.Rel SameIssuance store.issuance store'.issuance
  credentialConfigs : store.credentialConfigs = store'.credentialConfigs
  presentationConfigs : store.presentationConfigs = store'.presentationConfigs
  attributeProviders : SameEntities ["auth.config.value"] store.attributeProviders
    store'.attributeProviders
  webhookEndpoints : SameEntities ["auth.config.value"] store.webhookEndpoints
    store'.webhookEndpoints
  trustLists : store.trustLists = store'.trustLists
  statusLists : store.statusLists = store'.statusLists
  metadata : store.metadata = store'.metadata

/-! ## What is left of the secrets -/

def onlyMembers (names : List String) : Json → Json
  | .obj members => .obj (members.filter fun member => names.contains member.1)
  | value => value

variable (w : ExportWorld)

def upstreamSecret (server : AuthorizationServer) : Option Json :=
  server.upstream.map fun upstream => exportedValue w (onlyMembers secretUpstreamMembers upstream)

def otherPrimes (jwk : Json) : Option Json :=
  (toPublicJwk jwk).map fun jwk => exportedValue w (onlyMembers ["oth"] jwk)

def exportedPrimes (keyChain : KeyChainEntity) : Option Json × Option Json :=
  (otherPrimes w (if keyChain.hasInternalCa then keyChain.rootJwk else keyChain.activeJwk),
    if truthy keyChain.externalKeyId && keyChain.hasInternalCa then
      otherPrimes w keyChain.activeJwk
    else none)

def exportedUpstreamSecrets (store : StoredConfiguration) : Option (Option (List (Option Json))) :=
  store.issuance.map fun issuance => issuance.2.map fun servers =>
    (withoutRemovedChainedVp servers).map (upstreamSecret w)

/-- **The condition**: the two stores agree on the secrets that nothing takes out. -/
structure SecretsAgree (store store' : StoredConfiguration) : Prop where
  upstreams : exportedUpstreamSecrets w store = exportedUpstreamSecrets w store'
  primes : store.keyChains.map (exportedPrimes w) = store'.keyChains.map (exportedPrimes w)

/-! ## Objects -/

variable {w}

/-- **Objects that are the same but for some members** are exported alike exactly where these
are. -/
theorem exportedValue_iff_onlyMembers {names : List String} {value value' : Json}
    (h : SameExcept names value value') : exportedValue w value = exportedValue w value' ↔
      exportedValue w (onlyMembers names value) = exportedValue w (onlyMembers names value') := by
  cases value with
  | obj members =>
    cases value' with
    | obj members' =>
      simp only [SameExcept] at h
      have hkeys : SameKeys members members' := h.imp fun _ _ hab => hab.1
      simp only [onlyMembers]
      rw [exportedValue_obj_iff hkeys, exportedValue_obj_iff (hkeys.filter names.contains)]
      -- the members that are left out are the same
      clear hkeys
      induction h with
      | nil => exact ⟨fun _ => .nil, fun _ => .nil⟩
      | @cons a b members members' hab _ ih =>
        rw [List.filter_cons, List.filter_cons, ← hab.1, List.forall₂_cons]
        split
        · rw [List.forall₂_cons]
          exact and_congr_right fun _ => ih
        · rename_i hnot
          have hsame : ExportedAlike w a b := .inr (by rw [hab.2.resolve_left hnot])
          exact ⟨fun h => ih.mp h.2, fun h => ⟨hsame, ih.mpr h⟩⟩
    | _ =>
      simp only [SameExcept] at h
      cases h
  | _ =>
    simp only [SameExcept] at h
    rw [h]
    exact ⟨fun _ => rfl, fun _ => rfl⟩

/-! ## Key chains -/

theorem toPublicJwk_same {jwk jwk' : Json} (h : SameExcept secretJwkMembers jwk jwk') :
    Option.Rel (SameExcept ["oth"]) (toPublicJwk jwk) (toPublicJwk jwk') := by
  cases jwk with
  | obj members =>
    cases jwk' with
    | obj members' =>
      simp only [SameExcept] at h
      refine .some ?_
      simp only [SameExcept]
      induction h with
      | nil => exact .nil
      | @cons a b members members' hab _ ih =>
        rw [List.filter_cons, List.filter_cons, ← hab.1]
        split
        · rename_i hpublic
          refine .cons ⟨hab.1, ?_⟩ ih
          rcases hab.2 with hsecret | heq
          · left
            have hcases : privateJwkMembers.contains a.1 = true ∨ ["oth"].contains a.1 = true := by
              simp only [secretJwkMembers, privateJwkMembers, List.contains_eq_mem, List.mem_cons,
                List.not_mem_nil, or_false, decide_eq_true_eq] at hsecret ⊢
              tauto
            exact hcases.resolve_left (by simpa using hpublic)
          · exact .inr heq
        · exact ih
    | _ =>
      simp only [SameExcept] at h
      cases h
  | _ =>
    simp only [SameExcept] at h
    rw [← h]
    exact .none

/-- **A public key** is exported alike exactly where its further primes are. -/
theorem publicJwk_iff {jwk jwk' : Json} (h : SameExcept secretJwkMembers jwk jwk') :
    (toPublicJwk jwk).map (exportedValue w) = (toPublicJwk jwk').map (exportedValue w) ↔
      otherPrimes w jwk = otherPrimes w jwk' := by
  unfold otherPrimes
  have hrel := toPublicJwk_same h
  generalize toPublicJwk jwk = publicJwk at hrel ⊢
  generalize toPublicJwk jwk' = publicJwk' at hrel ⊢
  cases hrel with
  | some hsame =>
    simp only [Option.map_some, Option.some.injEq]
    exact exportedValue_iff_onlyMembers hsame
  | none => exact ⟨fun _ => rfl, fun _ => rfl⟩

theorem isSome_toPublicJwk {jwk jwk' : Json} (h : SameExcept secretJwkMembers jwk jwk') :
    (toPublicJwk jwk).isSome = (toPublicJwk jwk').isSome := by
  have hrel := toPublicJwk_same h
  generalize toPublicJwk jwk = publicJwk at hrel ⊢
  generalize toPublicJwk jwk' = publicJwk' at hrel ⊢
  cases hrel with
  | some _ => rfl
  | none => rfl

theorem isSome_orUndefined {names : List String} {value value' : Json}
    (h : SameExcept names value value') :
    (orUndefined value).isSome = (orUndefined value').isSome := by
  cases value with
  | obj members =>
    cases value' with
    | obj members' => rfl
    | _ =>
      simp only [SameExcept] at h
      cases h
  | _ =>
    simp only [SameExcept] at h
    rw [h]

theorem SameKeyChain.hasInternalCa_eq {keyChain keyChain' : KeyChainEntity}
    (h : SameKeyChain keyChain keyChain') : keyChain.hasInternalCa = keyChain'.hasInternalCa := by
  have hothers := congrArg KeyChainEntity.rootCertificate h.others
  have hcertificate : keyChain.rootCertificate = keyChain'.rootCertificate := hothers
  unfold KeyChainEntity.hasInternalCa
  rw [isSome_orUndefined h.rootJwk, hcertificate]

theorem SameKeyChain.fields {keyChain keyChain' : KeyChainEntity}
    (h : SameKeyChain keyChain keyChain') :
    keyChain'.externalKeyId = keyChain.externalKeyId ∧
      keyChain'.rootExternalKeyId = keyChain.rootExternalKeyId ∧
      keyChain'.kmsProvider = keyChain.kmsProvider ∧ keyChain'.id = keyChain.id := by
  have hothers := h.others
  rw [KeyChainEntity.mk.injEq] at hothers
  obtain ⟨hid, -, -, hprovider, hexternal, hroot, -⟩ := hothers
  exact ⟨hexternal.symm, hroot.symm, hprovider.symm, hid.symm⟩

/-- **The key source** is exported alike exactly where the further primes of its keys are. -/
theorem keySourceSpec_iff {keyChain keyChain' : KeyChainEntity}
    (h : SameKeyChain keyChain keyChain') :
    exportedValue w (keySourceSpec keyChain) = exportedValue w (keySourceSpec keyChain') ↔
      exportedPrimes w keyChain = exportedPrimes w keyChain' := by
  obtain ⟨hexternal, hroot, hprovider, -⟩ := h.fields
  unfold keySourceSpec exportedPrimes
  rw [← h.hasInternalCa_eq, hexternal, hroot, hprovider]
  have hjwk : SameExcept secretJwkMembers
      (if keyChain.hasInternalCa then keyChain.rootJwk else keyChain.activeJwk)
      (if keyChain.hasInternalCa then keyChain'.rootJwk else keyChain'.activeJwk) := by
    split
    · exact h.rootJwk
    · exact h.activeJwk
  have hpublic := isSome_toPublicJwk hjwk
  have hactive := isSome_toPublicJwk h.activeJwk
  rw [Prod.mk.injEq, ← publicJwk_iff hjwk]
  dsimp only
  have hpublicKey : "publicJwk" ∉ omittedFields := by decide
  have hactiveKey : "activePublicJwk" ∉ omittedFields := by decide
  by_cases htruthy : truthy keyChain.externalKeyId = true
  · rw [if_pos htruthy, if_pos htruthy, htruthy, Bool.true_and]
    cases hca : keyChain.hasInternalCa with
    | true =>
      rw [hca] at hpublic
      simp only [if_true] at hpublic ⊢
      rw [exportedValue_record_iff (by simp [hpublic, hactive]), ← publicJwk_iff h.activeJwk]
      simp [hpublicKey, hactiveKey]
    | false =>
      rw [hca] at hpublic
      simp only [Bool.false_eq_true, if_false] at hpublic ⊢
      rw [exportedValue_record_iff (by simp [hpublic])]
      simp [hpublicKey]
  · rw [if_neg htruthy, if_neg htruthy]
    have hnot : truthy keyChain.externalKeyId = false := by simpa using htruthy
    rw [hnot, exportedValue_record_iff (by simp [hpublic])]
    simp [hpublicKey]

/-- **A key chain** is exported alike exactly where the further primes of its keys are. -/
theorem keyChainSpec_iff {keyChain keyChain' : KeyChainEntity}
    (h : SameKeyChain keyChain keyChain') :
    exportedValue w (keyChainSpec keyChain) = exportedValue w (keyChainSpec keyChain') ↔
      exportedPrimes w keyChain = exportedPrimes w keyChain' := by
  rw [← keySourceSpec_iff h]
  have hca := h.hasInternalCa_eq
  have hothers := h.others
  rw [KeyChainEntity.mk.injEq] at hothers
  obtain ⟨hid, hdescription, husage, hprovider, -, -, -, hroot, -, hcertificate, henabled,
    hinterval, hvalidity⟩ := hothers
  have hkey : "keySource" ∉ omittedFields := by decide
  unfold keyChainSpec
  rw [← hid, ← hdescription, ← husage, ← hprovider, ← hca, ← hroot, ← hcertificate, ← henabled,
    ← hinterval, ← hvalidity, exportedValue_record_iff (by simp)]
  simp [hkey]

/-! ## Authorization servers -/

theorem upstreamSecret_iff {server server' : AuthorizationServer} (h : SameServer server server') :
    server.upstream.map (exportedValue w) = server'.upstream.map (exportedValue w) ↔
      upstreamSecret w server = upstreamSecret w server' := by
  unfold upstreamSecret
  have hrel := h.upstream
  generalize server.upstream = upstream at hrel ⊢
  generalize server'.upstream = upstream' at hrel ⊢
  cases hrel with
  | some hsame =>
    simp only [Option.map_some, Option.some.injEq]
    exact exportedValue_iff_onlyMembers hsame
  | none => exact ⟨fun _ => rfl, fun _ => rfl⟩

theorem isSome_upstream {server server' : AuthorizationServer} (h : SameServer server server') :
    server.upstream.isSome = server'.upstream.isSome := by
  have hrel := h.upstream
  generalize server.upstream = upstream at hrel ⊢
  generalize server'.upstream = upstream' at hrel ⊢
  cases hrel with
  | some _ => rfl
  | none => rfl

theorem json_eq_record (server : AuthorizationServer) : server.json =
    record (server.members.map (fun member => (member.1, some member.2)) ++
      [("upstream", server.upstream), ("vp", server.vp)]) := by
  unfold AuthorizationServer.json record
  rw [List.filterMap_append, List.filterMap_map]
  exact congrArg (fun members => Json.obj (members ++ _)) (List.filterMap_some).symm

theorem forall₂_append_same {α : Type} {R : α → α → Prop} (hR : ∀ a, R a a) {l x y : List α} :
    List.Forall₂ R (l ++ x) (l ++ y) ↔ List.Forall₂ R x y := by
  constructor
  · intro h
    have hdropped := List.forall₂_drop l.length h
    rwa [List.drop_left, List.drop_left] at hdropped
  · exact fun h => List.rel_append (List.forall₂_same.mpr fun a _ => hR a) h

theorem forall₂_congr {α : Type} {P R S : α → α → Prop} {l l' : List α}
    (h : List.Forall₂ P l l') (hiff : ∀ a b, P a b → (R a b ↔ S a b)) :
    List.Forall₂ R l l' ↔ List.Forall₂ S l l' := by
  induction h with
  | nil => exact ⟨fun _ => .nil, fun _ => .nil⟩
  | cons hab _ ih => rw [List.forall₂_cons, List.forall₂_cons, ih, hiff _ _ hab]

/-- **A record** in which one member differs is exported alike exactly where it is. -/
theorem exportedValue_member_iff {first rest : List (String × Option Json)} {key : String}
    {value value' : Option Json} (hkey : key ∉ omittedFields)
    (hdefined : value.isSome = value'.isSome) :
    exportedValue w (record (first ++ (key, value) :: rest)) =
        exportedValue w (record (first ++ (key, value') :: rest)) ↔
      value.map (exportedValue w) = value'.map (exportedValue w) := by
  have hshape : List.Forall₂ (fun a b : String × Option Json =>
      a.1 = b.1 ∧ a.2.isSome = b.2.isSome) (first ++ (key, value) :: rest)
        (first ++ (key, value') :: rest) := by
    refine (forall₂_append_same fun _ => ⟨rfl, rfl⟩).mpr (.cons ⟨rfl, hdefined⟩ ?_)
    exact List.forall₂_same.mpr fun _ _ => ⟨rfl, rfl⟩
  rw [exportedValue_record_iff hshape, forall₂_append_same fun _ => .inr rfl, List.forall₂_cons]
  constructor
  · intro h
    exact h.1.resolve_left (by simpa using hkey)
  · exact fun h => ⟨.inr h, List.forall₂_same.mpr fun _ _ => .inr rfl⟩

/-- **A server** is exported alike exactly where the client secret of its upstream is. -/
theorem server_iff {server server' : AuthorizationServer} (h : SameServer server server') :
    exportedValue w server.json = exportedValue w server'.json ↔
      upstreamSecret w server = upstreamSecret w server' := by
  rw [json_eq_record, json_eq_record, ← h.members, ← h.vp, ← upstreamSecret_iff h]
  exact exportedValue_member_iff (by decide) (isSome_upstream h)

theorem withoutRemovedChainedVp_same {servers servers' : List AuthorizationServer}
    (h : List.Forall₂ SameServer servers servers') :
    List.Forall₂ SameServer (withoutRemovedChainedVp servers)
      (withoutRemovedChainedVp servers') := by
  unfold withoutRemovedChainedVp
  induction h with
  | nil => exact .nil
  | @cons server server' servers servers' hserver _ ih =>
    have hremoved : usesRemovedChainedVp server = usesRemovedChainedVp server' := by
      unfold usesRemovedChainedVp
      rw [hserver.members, hserver.vp]
    rw [List.filterMap_cons, List.filterMap_cons, ← hremoved, ← isSome_upstream hserver]
    cases usesRemovedChainedVp server with
    | false => exact .cons hserver ih
    | true =>
      -- a server with an upstream stays, without the removed option
      cases server.upstream.isSome with
      | true => exact .cons ⟨hserver.members, rfl, hserver.upstream⟩ ih
      | false => exact ih

theorem servers_iff {servers servers' : List AuthorizationServer}
    (h : List.Forall₂ SameServer servers servers') :
    exportedValue w (.arr (servers.map AuthorizationServer.json)) =
        exportedValue w (.arr (servers'.map AuthorizationServer.json)) ↔
      servers.map (upstreamSecret w) = servers'.map (upstreamSecret w) := by
  rw [exportedValue_arr_iff, List.forall₂_map_left_iff, List.forall₂_map_right_iff,
    map_eq_iff_forall₂]
  exact forall₂_congr h fun _ _ hserver => server_iff hserver

def serverSecrets (w : ExportWorld) (servers : Option (List AuthorizationServer)) :
    Option (List (Option Json)) :=
  servers.map fun servers => (withoutRemovedChainedVp servers).map (upstreamSecret w)

/-- **The issuance configuration** is exported alike exactly where the client secrets are. -/
theorem issuanceSpec_iff {issuance issuance' : Json × Option (List AuthorizationServer)}
    (h : SameIssuance issuance issuance') :
    exportedValue w (issuanceSpec issuance.1 issuance.2) =
        exportedValue w (issuanceSpec issuance'.1 issuance'.2) ↔
      serverSecrets w issuance.2 = serverSecrets w issuance'.2 := by
  obtain ⟨entity, servers⟩ := issuance
  obtain ⟨entity', servers'⟩ := issuance'
  obtain ⟨hentity, hservers⟩ := h
  obtain rfl : entity = entity' := hentity
  have hshape (servers : Option (List AuthorizationServer)) : issuanceSpec entity servers = record
      ((columns entity ["batchSize", "dPopRequired", "walletAttestationRequired"] ++
        [("walletProviderTrustLists", orUndefined (column entity "walletProviderTrustLists")),
          ("signingKeyId", orUndefined (column entity "signingKeyId"))]) ++
        ("authorizationServers", some ((servers.map fun servers =>
          Json.arr ((withoutRemovedChainedVp servers).map AuthorizationServer.json)).getD .null)) ::
        (columns entity ["federation", "registrationCertificate", "display",
          "notificationEndpointEnabled", "credentialResponseEncryption",
          "credentialRequestEncryption", "txCodeMaxAttempts"] ++
          [("offerLifetimeSeconds", orUndefined (column entity "offerLifetimeSeconds"))])) := rfl
  dsimp only at hservers ⊢
  -- only the servers differ
  rw [hshape, hshape]
  refine (exportedValue_member_iff (by decide) ?_).trans ?_
  · rfl
  unfold serverSecrets
  cases hservers with
  | some hsame =>
    simp only [Option.map_some, Option.getD_some, Option.some.injEq]
    exact servers_iff (withoutRemovedChainedVp_same hsame)
  | none => exact ⟨fun _ => rfl, fun _ => rfl⟩

/-! ## Redacted entities -/

theorem column_differs {patterns : List String} {entity entity' : Json}
    (h : DiffersOnlyAt patterns [] entity entity') (name : String) :
    matchesAny patterns (extendPath [] name) = true ∨
      DiffersOnlyAt patterns (extendPath [] name) (column entity name) (column entity' name) := by
  cases entity with
  | obj members =>
    cases entity' with
    | obj members' =>
      simp only [DiffersOnlyAt] at h
      unfold column Json.field?
      dsimp only
      induction members generalizing members' with
      | nil =>
        cases members' with
        | nil => exact .inr (DiffersOnlyAt.refl _ _ _)
        | cons => simp only [MembersDiffer] at h
      | cons member members ih =>
        obtain ⟨key, item⟩ := member
        cases members' with
        | nil => simp only [MembersDiffer] at h
        | cons member' members' =>
          obtain ⟨key', item'⟩ := member'
          simp only [MembersDiffer] at h
          obtain ⟨rfl, hitem, hmembers⟩ := h
          rw [List.find?_cons, List.find?_cons]
          -- the first member of the name is the column
          cases hname : key == name with
          | true =>
            rw [← beq_iff_eq.mp hname]
            exact hitem
          | false => exact ih members' hmembers
    | _ =>
      simp only [DiffersOnlyAt] at h
      cases h
  | arr items =>
    cases entity' with
    | arr items' => exact .inr (DiffersOnlyAt.refl _ _ .null)
    | _ =>
      simp only [DiffersOnlyAt] at h
      cases h
  | _ =>
    simp only [DiffersOnlyAt] at h
    rw [← h]
    exact .inr (DiffersOnlyAt.refl _ _ _)

/-- **A record of columns** differs where the columns do. -/
theorem columns_differ {patterns : List String} {entity entity' : Json}
    (h : DiffersOnlyAt patterns [] entity entity') (names : List String) :
    DiffersOnlyAt patterns [] (record (columns entity names)) (record (columns entity' names)) := by
  unfold record columns
  simp only [DiffersOnlyAt]
  induction names with
  | nil => simp [MembersDiffer]
  | cons name names ih =>
    simp only [List.map_cons, List.filterMap_cons, Option.map_some, MembersDiffer]
    exact ⟨trivial, column_differs h name, ih⟩

/-- **A redacted entry** is exported the same where it differs only at sensitive paths. -/
theorem exportSpec_redacted {ref : ResourceRef} {before before' : List Requirement}
    {spec spec' : Json} (h : DiffersOnlyAt (sensitivePaths ref.kind) [] spec spec') :
    exportSpec w { ref, before, spec } =
      exportSpec w { ref, before := before', spec := spec' } := by
  unfold exportSpec
  dsimp only
  rw [if_pos rfl, if_pos rfl, redact_canonicalize_eq h]

/-! ## Entries -/

variable {store store' : StoredConfiguration}

theorem clientEntry_eq {oidc : Bool} {client client' : ClientEntity}
    (h : SameClient client client') : clientEntry oidc client = clientEntry oidc client' := by
  obtain ⟨hothers, hsecret⟩ := h
  rw [ClientEntity.mk.injEq] at hothers
  obtain ⟨hid, hdescription, hroles, hpresentations, hissuances, -⟩ := hothers
  unfold clientEntry
  rw [hid, hdescription, hroles, hpresentations, hissuances, hsecret]

theorem forall₂_toList {α β : Type} {P : α → α → Prop} {R : β → β → Prop} {f : α → β}
    {o o' : Option α} (h : Option.Rel P o o') (hR : ∀ a a', P a a' → R (f a) (f a')) :
    List.Forall₂ R (o.toList.map f) (o'.toList.map f) := by
  cases h with
  | some hsame => exact .cons (hR _ _ hsame) .nil
  | none => exact .nil

theorem forall₂_map {α β : Type} {P : α → α → Prop} {R : β → β → Prop} {f : α → β}
    {l l' : List α} (h : List.Forall₂ P l l') (hR : ∀ a a', P a a' → R (f a) (f a')) :
    List.Forall₂ R (l.map f) (l'.map f) :=
  List.forall₂_map_left_iff.mpr (List.forall₂_map_right_iff.mpr (h.imp hR))

/-- **The entries of both stores**, kind by kind. -/
theorem entries_related {R : Entry → Entry → Prop} (h : SameButSecrets store store')
    (hrefl : ∀ entry, R entry entry)
    (hredacted : ∀ (ref : ResourceRef) (spec spec' : Json),
      DiffersOnlyAt (sensitivePaths ref.kind) [] spec spec' →
        R { ref, spec } { ref, spec := spec' })
    (hkeyChains : List.Forall₂ R (store.keyChains.map keyChainEntry)
      (store'.keyChains.map keyChainEntry))
    (hissuance : List.Forall₂ R (store.issuance.toList.map issuanceEntry)
      (store'.issuance.toList.map issuanceEntry)) :
    List.Forall₂ R (entries w store) (entries w store') := by
  have hsame (l : List Entry) : List.Forall₂ R l l := List.forall₂_same.mpr fun e _ => hrefl e
  have hentities (kind : ConfigResourceKind) {l l' : List (String × Json)}
      (hl : SameEntities (sensitivePaths kind) l l') :
      List.Forall₂ R (entriesOf kind endpointSpec l) (entriesOf kind endpointSpec l') := by
    unfold entriesOf
    refine forall₂_map hl fun a a' ha => ?_
    rw [← ha.1]
    exact hredacted ⟨kind, a.1⟩ _ _ (columns_differ ha.2 _)
  have hclients : List.Forall₂ R (store.clients.map (clientEntry w.oidc))
      (store'.clients.map (clientEntry w.oidc)) :=
    forall₂_map h.clients fun _ _ hclient => clientEntry_eq hclient ▸ hrefl _
  unfold entries
  rw [h.tenant, h.credentialConfigs, h.presentationConfigs, h.trustLists, h.statusLists]
  refine List.rel_append (List.rel_append (List.rel_append (List.rel_append (List.rel_append
    (List.rel_append (List.rel_append (List.rel_append (List.rel_append (List.rel_append
      (List.rel_append (hsame _) hclients) ?_) hkeyChains) ?_) hissuance) (hsame _)) (hsame _))
        (hentities .AttributeProvider h.attributeProviders))
          (hentities .WebhookEndpoint h.webhookEndpoints)) (hsame _)) (hsame _)
  · exact forall₂_toList h.kms fun v v' hkms => hredacted ⟨.KmsConfig, "kms"⟩ v v' hkms
  · exact forall₂_toList h.registrar fun v v' hregistrar =>
      hredacted ⟨.RegistrarConfig, "registrar"⟩ _ _ (columns_differ hregistrar _)

/-! ## The bundle -/

theorem exportSpec_keyChain (keyChain : KeyChainEntity) :
    exportSpec w (keyChainEntry keyChain) = (exportedValue w (keyChainSpec keyChain), []) := rfl

theorem exportSpec_issuance (issuance : Json × Option (List AuthorizationServer)) :
    exportSpec w (issuanceEntry issuance) =
      (exportedValue w (issuanceSpec issuance.1 issuance.2), []) := by
  have hnone : sensitivePaths .IssuanceConfig = [] := rfl
  unfold exportSpec issuanceEntry
  dsimp only
  rw [if_pos rfl, hnone, redact_nil]
  rfl

theorem keyChainEntry_same {keyChain keyChain' : KeyChainEntity}
    (h : SameKeyChain keyChain keyChain') :
    (keyChainEntry keyChain).ref = (keyChainEntry keyChain').ref ∧
      (keyChainEntry keyChain).before = (keyChainEntry keyChain').before := by
  obtain ⟨hexternal, -, -, hid⟩ := h.fields
  unfold keyChainEntry
  dsimp only
  rw [hexternal, hid]
  exact ⟨rfl, rfl⟩

theorem entries_refs (h : SameButSecrets store store') :
    List.Forall₂ (fun e e' => e.ref = e'.ref) (entries w store) (entries w store') := by
  refine entries_related h (fun _ => rfl) (fun _ _ _ _ => rfl) ?_ ?_
  · exact forall₂_map h.keyChains fun _ _ hkeyChain => (keyChainEntry_same hkeyChain).1
  · exact forall₂_toList h.issuance fun _ _ _ => rfl

/-- **The entries are exported alike** where the secrets agree that nothing takes out. -/
theorem entries_exported (h : SameButSecrets store store') (hagree : SecretsAgree w store store')
    (metadata : ResourceRef → ConfigMetadata) :
    List.Forall₂ (fun e e' => exportEntry w metadata e = exportEntry w metadata e')
      (entries w store) (entries w store') := by
  have hentry {e e' : Entry} (href : e.ref = e'.ref) (hbefore : e.before = e'.before)
      (hspec : exportSpec w e = exportSpec w e') :
      exportEntry w metadata e = exportEntry w metadata e' := by
    unfold exportEntry
    rw [href, hbefore, hspec]
  refine entries_related h (fun _ => rfl)
    (fun _ _ _ hdiffers => hentry rfl rfl (exportSpec_redacted hdiffers)) ?_ ?_
  · rw [List.forall₂_map_left_iff, List.forall₂_map_right_iff]
    have hprimes := map_eq_iff_forall₂.mp hagree.primes
    have hboth := h.keyChains
    clear hagree
    revert hprimes hboth
    generalize store.keyChains = keyChains
    generalize store'.keyChains = keyChains'
    intro hprimes hboth
    induction hboth with
    | nil => exact .nil
    | cons hkeyChain _ ih =>
      rw [List.forall₂_cons] at hprimes
      obtain ⟨href, hbefore⟩ := keyChainEntry_same hkeyChain
      refine .cons (hentry href hbefore ?_) (ih hprimes.2)
      rw [exportSpec_keyChain, exportSpec_keyChain, (keyChainSpec_iff hkeyChain).mpr hprimes.1]
  · have hupstreams := hagree.upstreams
    have hboth := h.issuance
    unfold exportedUpstreamSecrets at hupstreams
    revert hupstreams hboth
    generalize store.issuance = issuance
    generalize store'.issuance = issuance'
    intro hupstreams hboth
    cases hboth with
    | none => exact .nil
    | some hissuance =>
      refine .cons (hentry rfl rfl ?_) .nil
      rw [exportSpec_issuance, exportSpec_issuance,
        (issuanceSpec_iff hissuance).mpr (Option.some.inj hupstreams)]

theorem forall₂_split {α : Type} {R : α → α → Prop} {a a' b b' : List α}
    (h : List.Forall₂ R (a ++ b) (a' ++ b')) (hlength : b.length = b'.length) :
    List.Forall₂ R a a' ∧ List.Forall₂ R b b' := by
  have hall := h.length_eq
  rw [List.length_append, List.length_append] at hall
  have ha : a.length = a'.length := by omega
  have htake := List.forall₂_take a.length h
  have hdrop := List.forall₂_drop a.length h
  rw [List.take_left, List.take_left' ha.symm] at htake
  rw [List.drop_left, List.drop_left' ha.symm] at hdrop
  exact ⟨htake, hdrop⟩

theorem documents_related (h : SameButSecrets store store')
    (hbundle : exportBundle w store = exportBundle w store') :
    List.Forall₂ (fun e e' => (exportEntry w store.metadata e).1.spec =
      (exportEntry w store.metadata e').1.spec) (entries w store) (entries w store') := by
  have hdocuments := congrArg ExportedBundle.documents hbundle
  unfold exportBundle at hdocuments
  dsimp only at hdocuments
  rw [← h.metadata] at hdocuments
  -- the documents are sorted by kind and name, and these are no secrets
  have hkeys : List.Forall₂ (fun left right : ExportedDocument =>
        left.ref.kind.name ++ "/" ++ left.ref.id = right.ref.kind.name ++ "/" ++ right.ref.id)
      (((entries w store).map (exportEntry w store.metadata)).map (·.1))
      (((entries w store').map (exportEntry w store.metadata)).map (·.1)) := by
    rw [List.map_map, List.map_map]
    refine forall₂_map (entries_refs h) fun e e' href => ?_
    show e.ref.kind.name ++ "/" ++ e.ref.id = e'.ref.kind.name ++ "/" ++ e'.ref.id
    rw [href]
  have hsame := mergeSort_inj hkeys hdocuments
  rw [List.map_map, List.map_map] at hsame
  exact (map_eq_iff_forall₂.mp hsame).imp fun _ _ heq => congrArg ExportedDocument.spec heq

theorem length_toList {α : Type} {P : α → α → Prop} {o o' : Option α} (h : Option.Rel P o o') :
    o.toList.length = o'.toList.length := by
  cases h <;> rfl

theorem documents_of_leaks {R : Entry → Entry → Prop} (h : SameButSecrets store store')
    (hall : List.Forall₂ R (entries w store) (entries w store')) :
    List.Forall₂ R (store.keyChains.map keyChainEntry) (store'.keyChains.map keyChainEntry) ∧
      List.Forall₂ R (store.issuance.toList.map issuanceEntry)
        (store'.issuance.toList.map issuanceEntry) := by
  have hentities {kind : ConfigResourceKind} {spec : Json → Json} {l l' : List (String × Json)}
      (hlength : l.length = l'.length) :
      (entriesOf kind spec l).length = (entriesOf kind spec l').length := by
    unfold entriesOf
    rw [List.length_map, List.length_map, hlength]
  -- from the last kind to the first, by the numbers of the entities
  unfold entries at hall
  replace hall := (forall₂_split hall (hentities (congrArg List.length h.statusLists))).1
  replace hall := (forall₂_split hall (hentities (congrArg List.length h.trustLists))).1
  replace hall := (forall₂_split hall (hentities h.webhookEndpoints.length_eq)).1
  replace hall := (forall₂_split hall (hentities h.attributeProviders.length_eq)).1
  replace hall := (forall₂_split hall (hentities (congrArg List.length h.presentationConfigs))).1
  replace hall := (forall₂_split hall (hentities (congrArg List.length h.credentialConfigs))).1
  obtain ⟨hall, hissuance⟩ := forall₂_split hall (by
    rw [List.length_map, List.length_map, length_toList h.issuance])
  replace hall := (forall₂_split hall (by
    rw [List.length_map, List.length_map, length_toList h.registrar])).1
  exact ⟨(forall₂_split hall (by rw [List.length_map, List.length_map, h.keyChains.length_eq])).2,
    hissuance⟩

theorem upstreams_of_documents {metadata : ResourceRef → ConfigMetadata}
    (h : Option.Rel SameIssuance store.issuance store'.issuance)
    (hdocuments : List.Forall₂ (fun e e' => (exportEntry w metadata e).1.spec =
      (exportEntry w metadata e').1.spec) (store.issuance.toList.map issuanceEntry)
        (store'.issuance.toList.map issuanceEntry)) :
    exportedUpstreamSecrets w store = exportedUpstreamSecrets w store' := by
  unfold exportedUpstreamSecrets
  generalize store.issuance = issuance at h hdocuments ⊢
  generalize store'.issuance = issuance' at h hdocuments ⊢
  cases h with
  | none => rfl
  | @some issuance issuance' hissuance =>
    have hspec := (List.forall₂_cons.mp hdocuments).1
    change (exportSpec w (issuanceEntry issuance)).1 =
      (exportSpec w (issuanceEntry issuance')).1 at hspec
    rw [exportSpec_issuance, exportSpec_issuance] at hspec
    exact congrArg some ((issuanceSpec_iff hissuance).mp hspec)

theorem primes_of_documents {metadata : ResourceRef → ConfigMetadata}
    (h : List.Forall₂ SameKeyChain store.keyChains store'.keyChains)
    (hdocuments : List.Forall₂ (fun e e' => (exportEntry w metadata e).1.spec =
      (exportEntry w metadata e').1.spec) (store.keyChains.map keyChainEntry)
        (store'.keyChains.map keyChainEntry)) :
    store.keyChains.map (exportedPrimes w) = store'.keyChains.map (exportedPrimes w) := by
  rw [List.forall₂_map_left_iff, List.forall₂_map_right_iff] at hdocuments
  rw [map_eq_iff_forall₂]
  refine (forall₂_congr h fun keyChain keyChain' hkeyChain => ?_).mp hdocuments
  exact keyChainSpec_iff hkeyChain

/-- **Two exports** of stores that differ only in secrets are the same exactly where these agree on
the secrets that nothing takes out. -/
theorem exports_agree_iff (w : ExportWorld) (store store' : StoredConfiguration)
    (h : SameButSecrets store store') :
    exportBundle w store = exportBundle w store' ↔ SecretsAgree w store store' := by
  constructor
  · intro hbundle
    have hall := documents_related h hbundle
    obtain ⟨hkeyChains, hissuance⟩ := documents_of_leaks h hall
    exact ⟨upstreams_of_documents h.issuance hissuance, primes_of_documents h.keyChains hkeyChains⟩
  · intro hagree
    have hsame := map_eq_iff_forall₂.mpr (entries_exported h hagree store.metadata)
    unfold exportBundle
    rw [← h.metadata, hsame]

/-! ## A chained authorization server -/

/-- Keys in the order of their characters, no stored files, no OIDC provider. -/
private def plainExport : ExportWorld where
  localeLE left right := decide (left ≤ right)
  fileName text := text
  oidc := false

private def chainedStore (clientSecret : String) : StoredConfiguration where
  tenant := .obj [("name", .str "tenant")]
  issuance := some (.obj [("batchSize", .num 1 0)], some
    [{ members := [("type", .str "chained"), ("id", .str "login")]
       upstream := some (.obj [("issuer", .str "https://login.example"),
         ("clientId", .str "eudiplo"), ("clientSecret", .str clientSecret)]) }])
  metadata ref := { ref, ownership := .unmanaged, generation := 1 }

private theorem chainedStore_same (clientSecret clientSecret' : String) :
    SameButSecrets (chainedStore clientSecret) (chainedStore clientSecret') where
  tenant := rfl
  clients := .nil
  kms := .none
  keyChains := .nil
  registrar := .none
  issuance := by
    refine .some ⟨rfl, .some (.cons ⟨rfl, rfl, .some ?_⟩ .nil)⟩
    exact .cons ⟨rfl, .inr rfl⟩ (.cons ⟨rfl, .inr rfl⟩ (.cons ⟨rfl, .inl rfl⟩ .nil))
  credentialConfigs := rfl
  presentationConfigs := rfl
  attributeProviders := .nil
  webhookEndpoints := .nil
  trustLists := rfl
  statusLists := rfl
  metadata := rfl

theorem exports_agree_iff_chained :
    exportBundle plainExport (chainedStore "first") =
        exportBundle plainExport (chainedStore "second") ↔
      SecretsAgree plainExport (chainedStore "first") (chainedStore "second") :=
  exports_agree_iff plainExport (chainedStore "first") (chainedStore "second")
    (chainedStore_same "first" "second")

private def firstSecret (secrets : Option (Option (List (Option Json)))) : Option String :=
  secrets.bind fun servers => servers.bind fun servers => servers.head?.bind fun secret =>
    secret.bind fun members => members.field? "clientSecret" >>= Json.str?

/-- The client secret of the upstream is exported as it is. -/
theorem not_exports_agree :
    ¬∀ (w : ExportWorld) (store store' : StoredConfiguration), SameButSecrets store store' →
      exportBundle w store = exportBundle w store' := by
  intro h
  have hsame := chainedStore_same "first" "second"
  have hall := documents_related hsame (h plainExport _ _ hsame)
  have hsecrets := upstreams_of_documents hsame.issuance (documents_of_leaks hsame hall).2
  have hfirst := congrArg firstSecret hsecrets
  revert hfirst
  decide +kernel

end Portability

end Eudiplo
