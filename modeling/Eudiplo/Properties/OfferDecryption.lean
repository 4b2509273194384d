import Eudiplo.Backend.Effects
import Eudiplo.Concurrency.Provenance
import Eudiplo.Concurrency.RelyGuarantee
import Eudiplo.Concurrency.Replay
import Eudiplo.Keys.Footprint

/-!
# Can a sealed response be opened?

An ISO 18013-7 offer advertises the tenant's encryption key and keeps a nonce; the response
is opened with the key the tenant has when it arrives.  Rotating that key in between leaves
the offer's wallet with a response nobody opens, and the session fails
(`not_offers_answerable`).

`offers_answerable` holds for every run in which the handler of a response finds the key that the
offer advertised.
-/

namespace Eudiplo

open Concurrency Prog Discipline Storage

/-! ## The claim -/

/-- **Sealing**: opening with the private key of the advertised public key, and the transcript
of the encryption info that was sent, undoes what the wallet did. -/
structure WalletSealing (w : KeyWorld) where
  keyPair : Jwk → Prop
  sealFor : (encryptionInfo origin plaintext : String) → String
  opened : ∀ {jwk : Jwk} (nonce origin plaintext : String), keyPair jwk →
    ∃ enc cipherText, w.parseEncryptedResponse
        (sealFor (w.buildEncryptionInfo jwk.x jwk.y nonce) origin plaintext) =
          .ok (enc, cipherText) ∧
      w.hpkeOpen enc cipherText jwk
        (w.hpkeInfo (w.buildEncryptionInfo jwk.x jwk.y nonce) origin) = .ok plaintext

variable {w : KeyWorld}

def encryptionKey (tenantId : String) : KeyCall :=
  .keyChains (.findByUsageType tenantId .encrypt none)

def responseVerification (session : Session) (plaintext : String) : KeyCall :=
  .ask (.verifyDeviceResponse session plaintext)

/-- Thread `u` serves the response a wallet sealed to an offer that was answered. -/
structure SealedTo (s : WalletSealing w) (c : KeyConfig) (q : OfferCall) (o : Iso18013Offer)
    (u : Nat) (plaintext : String) : Prop where
  offered : ∃ t, c.Answers t (.createOffer q) (.offer o)
  request : c.global.requests[u]? = some
    (.processResponse o.session (s.sealFor o.encryption_info q.origin plaintext))

/-- **Offers stay answerable**: a sealed response to a session that is read unconsumed and
usable is opened, so that the handler, once it has looked the key up, has the plaintext
verified; and no sealed response writes to the session before. -/
structure OffersAnswerable (s : WalletSealing w) (c : KeyConfig) : Prop where
  opened : ∀ q o u plaintext, SealedTo s c q o u plaintext → ∀ session now rest,
    eventsOf u c.trace = ⟨u, .session (.findIso18013Session o.session), some session⟩ ::
        ⟨u, .now, now⟩ :: rest →
      session.consumed = false → assertUsable session now = .ok () →
        System.waiting c u = some (encryptionKey session.tenantId) ∨
        System.waiting c u = some (responseVerification session plaintext) ∨
        ∃ verified, c.global.Made u (responseVerification session plaintext) verified
  kept : ∀ q o u plaintext, SealedTo s c q o u plaintext → ∀ tenantId id update updated,
    c.global.Made u (.session (.updateUnconsumedForTenant tenantId id update)) updated →
      ∃ session verified, c.global.Made u (responseVerification session plaintext) verified

/-- **The condition**: the handler of a response finds the key that the handler of its offer
found, with its private part. -/
def FindsAdvertised (s : WalletSealing w) (g : KeyState) (u : Nat) : KeyCall → Prop
  | .keyChains (.findByUsageType tenantId .encrypt none) => ∀ sessionId encrypted,
    g.requests[u]? = some (.processResponse sessionId encrypted) →
      ∀ t q advertised, g.requests[t]? = some (.createOffer q) → g.Made t .uuid sessionId →
        g.Made t (encryptionKey q.tenantId) (some advertised) →
          ∃ kc, w.pick g.store.consults
              (g.store.keyChains.select (ofUsageType tenantId .encrypt none)) = some kc ∧
            s.keyPair kc.activeJwk ∧ kc.activeJwk.x = advertised.activeJwk.x ∧
            kc.activeJwk.y = advertised.activeJwk.y
  | _ => True

namespace OfferDecryption

variable {s : WalletSealing w} {g g' : KeyState} {tid t u : Nat} {op : KeyCall}

/-! ## Uuids -/

def drawn : Event KeyCall.Reply → Option String
  | ⟨_, .uuid, v⟩ => some v
  | _ => none

theorem drawn_answer {st : KeyStore} {v : String}
    (h : drawn ⟨tid, op, ((keyServices w).answer op st).1⟩ = some v) :
    op = .uuid ∧ v = w.uuid st.draws := by
  cases op with
  | uuid =>
    cases h
    exact ⟨rfl, rfl⟩
  | _ => cases h

theorem draws_answer (op : KeyCall) (st : KeyStore) :
    st.draws ≤ ((keyServices w).answer op st).2.draws := by
  cases op with
  | uuid => exact Nat.le_succ _
  | keyChains c => cases c <;> exact Nat.le_refl _
  | lists c =>
    cases c with
    | publishNextVersion previous changes =>
      simp only [keyServices, KeyCall.answer, TrustListCall.answer]
      split <;> exact Nat.le_refl _
    | _ => exact Nat.le_refl _
  | _ => exact Nat.le_refl _

/-- **Uuids are minted once.** -/
def keyUuids (w : KeyWorld) : Mint (keyServices w) String where
  value := drawn
  past st v := ∀ i, st.draws ≤ i → v ≠ w.uuid i
  new h hpast := by
    obtain ⟨-, rfl⟩ := drawn_answer h
    exact hpast _ (Nat.le_refl _) rfl
  minted := fun {_ _ st _} h i hi heq => by
    obtain ⟨rfl, rfl⟩ := drawn_answer h
    have hidx := w.uuid_injective heq
    have hnext : st.draws + 1 ≤ i := hi
    omega
  answer := fun h i hi => h i (Nat.le_trans (draws_answer _ _) hi)
  drift := fun h => h

/-- **A drawn uuid has one drawer.** -/
theorem uuid_unique (h : (keyUuids w).Once g) {v : String} (ht : g.Made t .uuid v)
    (hu : g.Made u .uuid v) : t = u := h.unique ⟨_, ht, rfl, rfl⟩ ⟨_, hu, rfl, rfl⟩

/-! ## The session of an offer -/

/-- The session was created by thread `t` for the offer `q`, with this nonce, after this key
chain was found. -/
structure Offered (g : KeyState) (session : Session) (t : Nat) (q : OfferCall) (nonce : String)
    (advertised : KeyChainEntity) : Prop where
  request : g.requests[t]? = some (.createOffer q)
  drewId : g.Made t .uuid session.id
  drewNonce : g.Made t (.ask .randomBytes) (.ok nonce)
  found : g.Made t (encryptionKey q.tenantId) (some advertised)
  tenant : session.tenantId = q.tenantId
  vp_nonce : session.vp_nonce = some nonce
  origin : session.browserOrigin = some q.origin

def OfOffer (g : KeyState) (session : Session) : Prop :=
  ∃ t q nonce advertised, Offered g session t q nonce advertised

theorem OfOffer.extends {session : Session} (h : OfOffer g session) (hext : g.Extends g') :
    OfOffer g' session := by
  obtain ⟨t, q, nonce, advertised, h⟩ := h
  exact ⟨t, q, nonce, advertised, hext.request h.request, h.drewId.extends hext,
    h.drewNonce.extends hext, h.found.extends hext, h.tenant, h.vp_nonce, h.origin⟩

/-- **The invariant** between any two calls: sessions that are stored or read are of offers. -/
structure OfferInv (w : KeyWorld) (g : KeyState) : Prop where
  once : (keyUuids w).Once g
  stored : ∀ id session, g.store.sessions.get id = some session → OfOffer g session
  read : ∀ u id session, g.Made u (.session (.findIso18013Session id)) (some session) →
    session.id = id ∧ OfOffer g session

structure Creates (g : KeyState) (tid : Nat) (id tenantId : String) (update : SessionUpdate)
    (q : OfferCall) (nonce : String) (advertised : KeyChainEntity) : Prop where
  request : g.requests[tid]? = some (.createOffer q)
  drewId : g.Made tid .uuid id
  drewNonce : g.Made tid (.ask .randomBytes) (.ok nonce)
  found : g.Made tid (encryptionKey q.tenantId) (some advertised)
  tenant : tenantId = q.tenantId
  vp_nonce : update.vp_nonce = some nonce
  origin : update.browserOrigin = some q.origin

/-- **What a thread may write** to the sessions. -/
def OfferMay (g : KeyState) (tid : Nat) : KeyCall → Prop
  | .session (.create id tenantId update) =>
    ∃ q nonce advertised, Creates g tid id tenantId update q nonce advertised
  | .session (.updateUnconsumedForTenant _ _ update) =>
    update.vp_nonce = none ∧ update.browserOrigin = none
  | .session (.findIso18013Session _) => True
  | .session _ => False
  | _ => True

/-! ## One call -/

theorem stored_after (hinv : OfferInv w g) (hmay : OfferMay g tid op) {id : String}
    {session : Session}
    (h : ((keyServices w).after g tid op).store.sessions.get id = some session) :
    OfOffer ((keyServices w).after g tid op) session := by
  have hext := System.extends_after (M := keyServices w) g tid op
  cases op with
  | session c =>
    have hrow : c.row g.store.clock id (g.store.sessions.get id) = some session :=
      (SessionCall.get_effect _ _ c id).symm.trans h
    cases c with
    | create sessionId tenantId update =>
      obtain ⟨q, nonce, advertised, hc⟩ := hmay
      rw [SessionCall.row] at hrow
      split at hrow
      · rename_i hid
        subst hid
        -- the new session, also where a row was stored under its id
        have hnew : session.id = sessionId ∧ session.tenantId = tenantId ∧
            session.vp_nonce = some nonce ∧ session.browserOrigin = some q.origin := by
          cases hold : g.store.sessions.get sessionId with
          | none =>
            rw [hold] at hrow
            cases hrow
            simp [newSession, Session.apply, hc.vp_nonce, hc.origin]
          | some old =>
            rw [hold] at hrow
            cases hrow
            simp [mergeSession, Session.apply, hc.vp_nonce, hc.origin, Table.get_key hold]
        obtain ⟨rfl, rfl, hnonce, horigin⟩ := hnew
        exact ⟨tid, q, nonce, advertised, hext.request hc.request, hc.drewId.extends hext,
          hc.drewNonce.extends hext, hc.found.extends hext, hc.tenant, hnonce, horigin⟩
      · exact (hinv.stored id session hrow).extends hext
    | updateUnconsumedForTenant tenantId sessionId update =>
      obtain ⟨old, hold, rfl⟩ := Option.map_eq_some_iff.mp hrow
      obtain ⟨t, q, nonce, advertised, ho⟩ := (hinv.stored id old hold).extends hext
      refine ⟨t, q, nonce, advertised, ?_⟩
      split
      · exact ⟨ho.request, ho.drewId, ho.drewNonce, ho.found, ho.tenant,
          by simp [Session.apply, hmay.1, ho.vp_nonce],
          by simp [Session.apply, hmay.2, ho.origin]⟩
      · exact ho
    | findIso18013Session sessionId => exact (hinv.stored id session hrow).extends hext
    | _ => exact hmay.elim
  | keyChains c =>
    cases c with
    | _ => exact (hinv.stored id session h).extends hext
  | lists c =>
    have hsame : ((keyServices w).answer (.lists c) g.store).2.sessions = g.store.sessions := by
      cases c with
      | publishNextVersion previous changes =>
        simp only [keyServices, KeyCall.answer, TrustListCall.answer]
        split <;> rfl
      | _ => rfl
    rw [System.after_store, hsame] at h
    exact (hinv.stored id session h).extends hext
  | now => exact (hinv.stored id session h).extends hext
  | uuid => exact (hinv.stored id session h).extends hext
  | ask q => exact (hinv.stored id session h).extends hext

theorem read_after (hinv : OfferInv w g) {id : String} {session : Session}
    (h : ((keyServices w).after g tid op).Made u (.session (.findIso18013Session id))
      (some session)) :
    session.id = id ∧ OfOffer ((keyServices w).after g tid op) session := by
  have hext := System.extends_after (M := keyServices w) g tid op
  rcases List.mem_cons.mp h with heq | hold
  · injection heq with _ hop hres
    subst hop
    have hfind : g.store.sessions.find (fun row => row.id == id &&
        row.dcApiProtocol == some "iso-18013-7") = some session := (eq_of_heq hres).symm
    obtain ⟨hmem, hid⟩ := Table.find_some hfind
    have hkey : session.id = id := by simpa using (Bool.and_eq_true_iff.mp hid).1
    exact ⟨hkey, (hinv.stored _ session hmem).extends hext⟩
  · obtain ⟨hkey, ho⟩ := hinv.read u id session hold
    exact ⟨hkey, ho.extends hext⟩

/-- **The discipline of the offers.** -/
def offers (w : KeyWorld) : Discipline (keyServices w) where
  inv := OfferInv w
  rely _ _ _ := True
  admits _ _ _ := True
  may := OfferMay
  allowed _ := True
  post _ _ _ _ := True
  rely_refl _ _ := trivial
  rely_trans _ _ := trivial
  step hinv _ _ hmay := ⟨⟨hinv.once.after _ _, fun _ _ h => stored_after hinv hmay h,
    fun _ _ _ h => read_after hinv h⟩, fun _ _ => trivial⟩
  arrive {_ r} hinv _ := ⟨⟨hinv.once.arrive r,
    fun id session h => (hinv.stored id session h).extends (Global.extends_arrive _ r),
    fun u id session h => ⟨(hinv.read u id session h).1,
      (hinv.read u id session h).2.extends (Global.extends_arrive _ r)⟩⟩, fun _ _ => trivial⟩
  pass e hinv := ⟨⟨hinv.once.pass e,
    fun id session h => (hinv.stored id session h).extends (System.extends_pass _ e),
    fun u id session h => ⟨(hinv.read u id session h).1,
      (hinv.read u id session h).2.extends (System.extends_pass _ e)⟩⟩, fun _ => trivial⟩

/-! ## The handlers -/

variable {r : KeyRequest}

theorem may_of_looks (h : KeyCall.Looks op) : OfferMay g tid op := by
  cases op with
  | session c => exact h.elim
  | _ => trivial

theorem safe_looks {α : Type} {p : KeyApi α} (hg : (offers w).At tid r g)
    (hp : p.Only KeyCall.Looks) : (offers w).Safe tid (fun _ _ => True) p g :=
  .of_only hg hp fun _ _ _ _ h _ => may_of_looks h

theorem safe_askKeys (q : KeyQuestion) :
    (offers w).Safe tid (fun g' a => g'.Made tid (.ask q) (.ok a)) (askKeys q) g := by
  intro g' _ _
  refine ⟨trivial, ?_⟩
  have hmade := System.after_made (M := keyServices w) g' tid (.ask q)
  revert hmade
  cases ((keyServices w).answer (.ask q) g'.store).1 with
  | error e => exact fun _ => trivial
  | ok a => exact fun hmade g'' hl => hmade.extends hl.hist

theorem safe_getEncryptionPublicKey (hg : (offers w).At tid r g) (tenantId : String) :
    (offers w).Safe tid (fun g' _ => ∃ kc, g'.Made tid (encryptionKey tenantId) (some kc))
      (EncryptionService.getEncryptionPublicKey tenantId) g := by
  have hfound : (offers w).Safe tid (fun g' kc => g'.Made tid (encryptionKey tenantId) (some kc))
      (KeyChainService.findByUsageType tenantId .encrypt none) g := by
    intro g' _ _
    refine ⟨trivial, Safe.require fun kc hkc g'' hl => ?_⟩
    have hmade := System.after_made (M := keyServices w) g' tid (encryptionKey tenantId)
    exact (hkc ▸ hmade).extends hl.hist
  exact hfound.bind hg fun kc g' _ _ hmade => fun g'' hl => ⟨kc, hmade.extends hl.hist⟩

/-- **An offer creates its own session.** -/
theorem safe_createOffer {q : OfferCall} (hg : (offers w).At tid (.createOffer q) g) :
    (offers w).Safe tid (fun _ _ => True) (Iso18013Service.createOffer w q) g := by
  refine (safe_looks hg (looks_askKeys _)).bind hg fun config g₁ _ hg₁ _ => ?_
  refine (safe_getEncryptionPublicKey hg₁ q.tenantId).bind hg₁ fun pubJwk g₂ _ hg₂ hfound => ?_
  obtain ⟨advertised, hfound⟩ := hfound
  refine (safe_askKeys .randomBytes).bind hg₂ fun nonce g₃ h₃ hg₃ hnonce => ?_
  have huuid : (offers w).Safe tid (fun g' v => g'.Made tid .uuid v) keyUuid g₃ :=
    Safe.invoke fun g' _ _ => ⟨trivial, fun g'' hl =>
      (System.after_made (M := keyServices w) g' tid .uuid).extends hl.hist⟩
  refine huuid.bind hg₃ fun sessionId g₄ h₄ hg₄ hid => ?_
  refine Safe.ofExcept fun request _ => ?_
  refine (safe_looks hg₄ (looks_readerAuth _ _ _ _)).bind hg₄ fun signed g₅ h₅ hg₅ _ => ?_
  refine (safe_looks hg₅ (p := keyNow) ⟨trivial, fun _ => trivial⟩).bind hg₅
    fun now g₆ h₆ hg₆ _ => ?_
  refine (safe_looks hg₆ (looks_resolveWebhookFromEndpoint _ _)).bind hg₆
    fun webhook g₇ h₇ hg₇ _ => ?_
  have h₄₇ := (h₅.trans h₆).trans h₇
  intro g' hl _
  refine ⟨⟨q, nonce, advertised, ⟨(hg₇.later hl).request, (hid.extends h₄₇).extends hl.hist,
    (hnonce.extends (h₄.trans h₄₇)).extends hl.hist,
    (hfound.extends ((h₃.trans h₄).trans h₄₇)).extends hl.hist, rfl, rfl, rfl⟩⟩, ?_⟩
  exact fun _ _ => trivial

theorem may_ofResponses (h : KeyCall.OfResponses op) : OfferMay g tid op := by
  cases op with
  | session c =>
    cases c with
    | updateUnconsumedForTenant tenantId id update => exact h
    | findIso18013Session id => trivial
    | _ => exact h.elim
  | _ => trivial

theorem may_ofTrustLists (h : KeyCall.OfTrustLists op) : OfferMay g tid op := by
  cases op with
  | session c => exact h.elim
  | _ => trivial

theorem may_ofKeyChains (h : KeyCall.OfKeyChains op) : OfferMay g tid op := by
  cases op with
  | session c => exact h.elim
  | _ => trivial

/-- **Every handler is safe.** -/
theorem offers_verified (w : KeyWorld) : (offers w).Verified := by
  intro g r _ _ hg
  cases r with
  | trustList r => exact .of_only hg r.program_only fun _ _ _ _ h _ => may_ofTrustLists h
  | keyChain r => exact .of_only hg r.program_only fun _ _ _ _ h _ => may_ofKeyChains h
  | createOffer q => exact (safe_createOffer hg).bind hg fun _ _ _ _ _ => fun _ _ => trivial
  | processResponse sessionId encrypted =>
    exact .of_only hg (only_answerWith (ofResponses_processResponse w sessionId encrypted))
      fun _ _ _ _ h _ => may_ofResponses h

/-! ## The events of an offer -/

variable {es : List (Event KeyCall.Reply)}

theorem ran_askKeys {q : KeyQuestion} {a : q.Payload} (h : (askKeys q).Ran es (.ret a)) :
    ∃ t, es = [⟨t, .ask q, .ok a⟩] := by
  obtain ⟨answer, es₁, es₂, rfl, h₁, h₂⟩ := h.returned
  obtain ⟨t, rfl⟩ := h₁.of_invoke
  obtain ⟨rfl, rfl⟩ := h₂.of_ofExcept
  exact ⟨t, rfl⟩

def AsksElse : KeyCall → Prop
  | .ask .randomBytes => False
  | .ask _ => True
  | _ => False

theorem asksElse_resolveWebhookFromEndpoint (webhookEndpointId : Option String)
    (tenantId : String) :
    (Iso18013Service.resolveWebhookFromEndpoint webhookEndpointId tenantId).Only AsksElse := by
  unfold Iso18013Service.resolveWebhookFromEndpoint
  split
  · exact Only.await trivial fun _ => only_ofExcept _
  · trivial

theorem asksElse_readerAuth (q : OfferCall) (config : OfferConfig) (request : DeviceRequest)
    (encryptionInfo : String) :
    (Iso18013Service.readerAuth q config request encryptionInfo).Only AsksElse := by
  unfold Iso18013Service.readerAuth
  split
  · exact Only.bind (Only.await trivial fun _ => only_ofExcept _) fun _ => trivial
  · trivial

/-- **What an answered offer did**: it drew its session id, and advertised the key it found with
the nonce it drew, and it looked for no other key and drew no other nonce. -/
theorem offer_events {q : OfferCall} {o : Iso18013Offer}
    (h : (KeyRequest.program w (.createOffer q)).Ran es (.ret (.offer o))) :
    ∃ nonce advertised, o.encryption_info =
        w.buildEncryptionInfo advertised.activeJwk.x advertised.activeJwk.y nonce ∧
      (∃ t, ⟨t, .uuid, o.session⟩ ∈ es) ∧
      (∀ t found, ⟨t, encryptionKey q.tenantId, found⟩ ∈ es → found = some advertised) ∧
      ∀ t drawn, ⟨t, .ask .randomBytes, drawn⟩ ∈ es → drawn = .ok nonce := by
  -- the calls of the program in their order
  obtain ⟨o', es₀, none₀, rfl, h₀, hret⟩ := Ran.returned h
  obtain ⟨rfl, hret⟩ := hret.of_ret
  cases hret
  obtain ⟨config, es₁, rest₁, rfl, hconfig, h₁⟩ := Ran.returned h₀
  obtain ⟨t₁, rfl⟩ := ran_askKeys hconfig
  obtain ⟨pubJwk, es₂, rest₂, rfl, hkey, h₂⟩ := Ran.returned h₁
  obtain ⟨advertised, es₂, none₂, rfl, hfound, hpub⟩ := Ran.returned hkey
  obtain ⟨rfl, hpub⟩ := hpub.of_ret
  obtain ⟨found, es₂, none₂, rfl, hlooked, hsome⟩ := Ran.returned hfound
  obtain ⟨rfl, rfl⟩ := hsome.of_getOrFail
  obtain ⟨t₂, rfl⟩ := hlooked.of_invoke
  obtain ⟨nonce, es₃, rest₃, rfl, hnonce, h₃⟩ := Ran.returned h₂
  obtain ⟨t₃, rfl⟩ := ran_askKeys hnonce
  obtain ⟨sessionId, es₄, rest₄, rfl, hid, h₄⟩ := Ran.returned h₃
  obtain ⟨t₄, rfl⟩ := hid.of_invoke
  obtain ⟨request, es₅, rest₅, rfl, hrequest, h₅⟩ := Ran.returned h₄
  obtain ⟨rfl, -⟩ := hrequest.of_ofExcept
  obtain ⟨signed, es₆, rest₆, rfl, hsigned, h₆⟩ := Ran.returned h₅
  obtain ⟨now, es₇, rest₇, rfl, hnow, h₇⟩ := Ran.returned h₆
  obtain ⟨t₇, rfl⟩ := hnow.of_invoke
  obtain ⟨webhook, es₈, rest₈, rfl, hwebhook, h₈⟩ := Ran.returned h₇
  obtain ⟨created, es₉, none₉, rfl, hcreate, hoffer⟩ := Ran.returned h₈
  obtain ⟨t₉, rfl⟩ := hcreate.of_invoke
  obtain ⟨rfl, hoffer⟩ := hoffer.of_ret
  cases hoffer
  cases hpub
  have hreader := hsigned.only (asksElse_readerAuth _ _ _ _)
  have hhook := hwebhook.only (asksElse_resolveWebhookFromEndpoint _ _)
  -- one of them looks for the key, and one draws the nonce
  refine ⟨nonce, advertised, rfl, ⟨t₄, by simp⟩, fun t found hmem => ?_, fun t drawn hmem => ?_⟩
  · simp only [List.mem_append, List.mem_singleton, List.not_mem_nil, or_false, false_or] at hmem
    rcases hmem with heq | heq | heq | heq | he | heq | he | heq
    · cases congrArg Event.op heq
    · injection heq
    · cases congrArg Event.op heq
    · cases congrArg Event.op heq
    · exact (hreader _ he).elim
    · cases congrArg Event.op heq
    · exact (hhook _ he).elim
    · cases congrArg Event.op heq
  · simp only [List.mem_append, List.mem_singleton, List.not_mem_nil, or_false, false_or] at hmem
    rcases hmem with heq | heq | heq | heq | he | heq | he | heq
    · cases congrArg Event.op heq
    · cases congrArg Event.op heq
    · injection heq
    · cases congrArg Event.op heq
    · exact (hreader _ he).elim
    · cases congrArg Event.op heq
    · exact (hhook _ he).elim
    · cases congrArg Event.op heq

/-! ## The events of a response -/

/-- **What a response does first**: it finds the session, and where that is unconsumed, takes
the time; only then, where the session is usable, it looks the key up. -/
theorem response_cases {sessionId encrypted : String} {p : KeyApi (Option String)}
    (h : (Iso18013Service.processResponse w sessionId encrypted).Ran es p) :
    es = [] ∨ (∃ t found, es = [⟨t, .session (.findIso18013Session sessionId), found⟩]) ∨
    ∃ t t' session now rest, es =
        ⟨t, .session (.findIso18013Session sessionId), some session⟩ :: ⟨t', .now, now⟩ :: rest ∧
      (rest = [] ∧ assertUsable session now ≠ .ok () ∨
        rest = [] ∧ (∃ k, p = .call (encryptionKey session.tenantId) k) ∨
        ∃ t'' found rest', rest = ⟨t'', encryptionKey session.tenantId, found⟩ :: rest' ∧
          ∀ kc enc cipherText plaintext, found = some kc →
            w.parseEncryptedResponse encrypted = .ok (enc, cipherText) →
            Iso18013Service.openResponse w session kc.activeJwk enc cipherText = .ok plaintext →
              (Iso18013Service.completeResponse session plaintext).Ran rest' p) := by
  rcases Ran.of_call h with ⟨rfl, -⟩ | ⟨t, found, rest, rfl, h₁⟩
  · exact .inl rfl
  cases found with
  | none =>
    obtain ⟨rfl, -⟩ := Ran.of_fail h₁
    exact .inr (.inl ⟨t, none, rfl⟩)
  | some session =>
    rcases Ran.of_ensure h₁ with ⟨-, h₂⟩ | ⟨rfl, -⟩
    · rcases Ran.of_call h₂ with ⟨rfl, -⟩ | ⟨t', now, rest, rfl, h₃⟩
      · exact .inr (.inl ⟨t, some session, rfl⟩)
      refine .inr (.inr ⟨t, t', session, now, rest, rfl, ?_⟩)
      rcases Ran.of_checked h₃ with ⟨-, husable, h₄⟩ | ⟨e, husable, rfl, -⟩
      · refine .inr ?_
        rcases Ran.of_call h₄ with ⟨rfl, rfl⟩ | ⟨t'', found, rest, rfl, h₅⟩
        · exact .inl ⟨rfl, _, rfl⟩
        · refine .inr ⟨t'', found, rest, rfl,
            fun kc enc cipherText plaintext hfound hparse hopen => ?_⟩
          subst hfound
          simpa [getOrFail, hparse, hopen] using h₅
      · exact .inl ⟨rfl, by simp [husable]⟩
    · exact .inr (.inl ⟨t, some session, rfl⟩)

/-! ## Runs -/

theorem offerInv_run {st : KeyStore} (hsessions : st.sessions = .empty) (ms : KeySchedule) :
    OfferInv w ((keyServices w).run (.start st) ms).global := by
  have hstart : OfferInv w ⟨st, [], []⟩ := {
    once := .start st
    stored := fun id session h => by
      rw [hsessions] at h
      cases h
    read := fun _ _ _ h => (List.not_mem_nil h).elim }
  exact (Discipline.run_holds (offers_verified w) (Discipline.holds_start (D := offers w) hstart)
    (fun _ _ => trivial) (System.guarded_of_forall (fun _ _ _ => trivial) _ _)).inv

/-- **The key that is looked up opens the response**, in a run that meets the condition. -/
theorem opens {st : KeyStore} (hsessions : st.sessions = .empty) {ms : KeySchedule}
    (hfinds : (keyServices w).Guarded (FindsAdvertised s) (.start st) ms) {q : OfferCall}
    {o : Iso18013Offer} {plaintext : String}
    (hsealed : SealedTo s ((keyServices w).run (.start st) ms) q o u plaintext) {session : Session}
    {now : Time} {found : Option KeyChainEntity} {rest : List (Event KeyCall.Reply)}
    (hevents : eventsOf u ((keyServices w).run (.start st) ms).trace =
      ⟨u, .session (.findIso18013Session o.session), some session⟩ :: ⟨u, .now, now⟩ ::
        ⟨u, encryptionKey session.tenantId, found⟩ :: rest) :
    ∃ kc enc cipherText, found = some kc ∧
      w.parseEncryptedResponse (s.sealFor o.encryption_info q.origin plaintext) =
        .ok (enc, cipherText) ∧
      Iso18013Service.openResponse w session kc.activeJwk enc cipherText = .ok plaintext := by
  obtain ⟨⟨t, hoffer⟩, hrequest⟩ := hsealed
  have hinv := offerInv_run (w := w) hsessions ms
  obtain ⟨nonce, advertised, hinfo, ⟨t', huuid⟩, honlyKey, honlyNonce⟩ :=
    offer_events ((System.replays_run st ms).answered hoffer)
  obtain ⟨hdrew, rfl⟩ := mem_eventsOf.mp huuid
  -- the state in which the key was looked up
  have hsplit : eventsOf u ((keyServices w).run (.start st) ms).trace =
      [⟨u, KeyCall.session (.findIso18013Session o.session), some session⟩,
        ⟨u, KeyCall.now, now⟩] ++ ⟨u, encryptionKey session.tenantId, found⟩ :: rest := hevents
  obtain ⟨newer, older, htrace, holder⟩ := eventsOf_split hsplit
  obtain ⟨ms₁, ms₂, r, k, rfl, htrace₁, hget, hanswer⟩ := System.run_position htrace
  have hext : ((keyServices w).run (.start st) ms₁).global.Extends
      ((keyServices w).run (.start st) (ms₁ ++ .resume u :: ms₂)).global := by
    rw [System.run_append]
    exact System.extends_run _ _
  have hserved : ((keyServices w).run (.start st) ms₁).global.requests[u]? = some
      (.processResponse o.session (s.sealFor o.encryption_info q.origin plaintext)) := by
    have hr := Config.global_request hget
    rw [hr, ← hrequest, hext.request hr]
  have hread : ((keyServices w).run (.start st) ms₁).global.Made u
      (.session (.findIso18013Session o.session)) (some session) := by
    have hmem : (⟨u, .session (.findIso18013Session o.session), some session⟩ :
        Event KeyCall.Reply) ∈ eventsOf u older := by
      rw [holder]
      exact List.mem_cons_self
    show _ ∈ ((keyServices w).run (.start st) ms₁).trace
    rw [htrace₁]
    exact (mem_eventsOf.mp hmem).1
  obtain ⟨hid, t₁, q₁, nonce₁, advertised₁, ho⟩ :=
    (offerInv_run (w := w) hsessions ms₁).read u _ session hread
  obtain ⟨kc, hpick, hpair, hx, hy⟩ := (hfinds.at hget) _ _ hserved t₁ q₁ advertised₁ ho.request
    (hid ▸ ho.drewId) ho.found
  -- the session is the one of the offer
  obtain rfl : t₁ = t' := uuid_unique hinv.once ((hid ▸ ho.drewId).extends hext) hdrew
  obtain rfl : q₁ = q := by
    have hq := (hext.request ho.request).symm.trans (Config.global_request hoffer)
    cases hq
    rfl
  obtain rfl : advertised₁ = advertised := Option.some.inj
    (honlyKey t₁ _ (mem_eventsOf.mpr ⟨ho.found.extends hext, rfl⟩))
  obtain rfl : nonce₁ = nonce := Except.ok.inj
    (honlyNonce t₁ _ (mem_eventsOf.mpr ⟨ho.drewNonce.extends hext, rfl⟩))
  obtain ⟨enc, cipherText, hparse, hopen⟩ := s.opened nonce₁ q₁.origin plaintext hpair
  rw [hx, hy, ← hinfo] at hparse
  refine ⟨kc, enc, cipherText, hanswer.trans hpick, hparse, ?_⟩
  rw [Iso18013Service.openResponse, ho.vp_nonce, ho.origin]
  exact hopen

theorem sealed_ran {c : KeyConfig} (hc : System.Replays (keyServices w) c) {q : OfferCall}
    {o : Iso18013Offer} {plaintext : String} (hsealed : SealedTo s c q o u plaintext) :
    ∃ r p, c.threads[u]? = some ⟨r, p.bind fun redirect => .ret (.response redirect)⟩ ∧
      (Iso18013Service.processResponse w o.session
        (s.sealFor o.encryption_info q.origin plaintext)).Ran (eventsOf u c.trace) p := by
  have hrequest := hsealed.request
  rw [Config.global_requests, List.getElem?_map] at hrequest
  obtain ⟨⟨r, body⟩, hthread, hr⟩ := Option.map_eq_some_iff.mp hrequest
  obtain rfl : r = _ := hr
  obtain ⟨p, hran, rfl⟩ := Ran.of_map (hc.ran u _ hthread)
  exact ⟨_, p, hthread, hran⟩

/-- **How far the handler of a sealed response is**: past the look-up of the key, it has the
plaintext verified. -/
theorem sealed_cases {st : KeyStore} (hsessions : st.sessions = .empty) {ms : KeySchedule}
    (hfinds : (keyServices w).Guarded (FindsAdvertised s) (.start st) ms) {q : OfferCall}
    {o : Iso18013Offer} {plaintext : String}
    (hsealed : SealedTo s ((keyServices w).run (.start st) ms) q o u plaintext) :
    let c := (keyServices w).run (.start st) ms
    eventsOf u c.trace = [] ∨
    (∃ found, eventsOf u c.trace = [⟨u, .session (.findIso18013Session o.session), found⟩]) ∨
    ∃ session now rest, eventsOf u c.trace =
        ⟨u, .session (.findIso18013Session o.session), some session⟩ :: ⟨u, .now, now⟩ :: rest ∧
      (rest = [] ∧ assertUsable session now ≠ .ok () ∨
        rest = [] ∧ System.waiting c u = some (encryptionKey session.tenantId) ∨
        ∃ found opened, rest = ⟨u, encryptionKey session.tenantId, found⟩ :: opened ∧
          (opened = [] ∧ System.waiting c u = some (responseVerification session plaintext) ∨
            ∃ verified more, opened =
              ⟨u, responseVerification session plaintext, verified⟩ :: more)) := by
  intro c
  obtain ⟨r, p, hthread, hran⟩ := sealed_ran (System.replays_run st ms) hsealed
  have hown : ∀ e ∈ eventsOf u c.trace, e.tid = u := fun e he => (mem_eventsOf.mp he).2
  rcases response_cases hran with
    hnil | ⟨t₁, found, hone⟩ | ⟨t₁, t₂, session, now, rest, heq, hrest⟩
  · exact .inl hnil
  · rw [hone] at hown
    obtain rfl : t₁ = u := hown _ List.mem_cons_self
    exact .inr (.inl ⟨found, hone⟩)
  rw [heq] at hown
  obtain rfl : t₁ = u := hown _ List.mem_cons_self
  obtain rfl : t₂ = t₁ := hown _ (List.mem_cons_of_mem _ List.mem_cons_self)
  refine .inr (.inr ⟨session, now, rest, heq, ?_⟩)
  rcases hrest with h | ⟨hnil, k, rfl⟩ | ⟨t₃, found, opened, rfl, hrest⟩
  · exact .inl h
  · exact .inr (.inl ⟨hnil, System.waiting_of_call hthread⟩)
  obtain rfl : t₃ = t₂ := hown _
    (List.mem_cons_of_mem _ (List.mem_cons_of_mem _ List.mem_cons_self))
  obtain ⟨kc, enc, cipherText, hfound, hparse, hopen⟩ := opens hsessions hfinds hsealed heq
  refine .inr (.inr ⟨found, opened, rfl, ?_⟩)
  rcases Ran.of_call (hrest kc enc cipherText plaintext hfound hparse hopen) with
    ⟨hnil, rfl⟩ | ⟨t₄, verified, more, rfl, -⟩
  · exact .inl ⟨hnil, System.waiting_of_call hthread⟩
  · obtain rfl : t₄ = t₃ := hown _ (List.mem_cons_of_mem _ (List.mem_cons_of_mem _
      (List.mem_cons_of_mem _ List.mem_cons_self)))
    exact .inr ⟨verified, more, rfl⟩

end OfferDecryption

open OfferDecryption

/-- **Offers stay answerable** in every run, from a store without sessions, in which the handler
of a response finds the key its offer advertised. -/
theorem offers_answerable (s : WalletSealing w) (st : KeyStore) (hsessions : st.sessions = .empty)
    (ms : KeySchedule) (hfinds : (keyServices w).Guarded (FindsAdvertised s) (.start st) ms) :
    OffersAnswerable s ((keyServices w).run (.start st) ms) where
  opened q o u plaintext hsealed session now rest hevents hconsumed husable := by
    rcases sealed_cases hsessions hfinds hsealed with
      hnil | ⟨found, hone⟩ | ⟨session', now', rest', heq, hrest⟩
    · cases hevents.symm.trans hnil
    · cases hevents.symm.trans hone
    cases hevents.symm.trans heq
    rcases hrest with ⟨-, hnot⟩ | ⟨-, hwait⟩ | ⟨found, opened, rfl, ⟨-, hwait⟩ | ⟨verified, _, rfl⟩⟩
    · exact absurd husable hnot
    · exact .inl hwait
    · exact .inr (.inl hwait)
    · refine .inr (.inr ⟨verified, made_iff_eventsOf.mpr ?_⟩)
      rw [heq]
      simp
  kept q o u plaintext hsealed tenantId id update updated hmade := by
    have hown := made_iff_eventsOf.mp hmade
    rcases sealed_cases hsessions hfinds hsealed with
      hnil | ⟨found, hone⟩ | ⟨session, now, rest, heq, hrest⟩
    · rw [hnil] at hown
      cases hown
    · rw [hone] at hown
      cases congrArg Event.op (List.mem_singleton.mp hown)
    have hlater : (⟨u, .session (.updateUnconsumedForTenant tenantId id update), updated⟩ :
        Event KeyCall.Reply) ∈ rest := by
      rw [heq] at hown
      rcases List.mem_cons.mp hown with h | hown
      · cases congrArg Event.op h
      rcases List.mem_cons.mp hown with h | hown
      · cases congrArg Event.op h
      exact hown
    rcases hrest with ⟨rfl, -⟩ | ⟨rfl, -⟩ | ⟨found, opened, rfl, ⟨rfl, -⟩ | ⟨verified, more, rfl⟩⟩
    · cases hlater
    · cases hlater
    · cases congrArg Event.op (List.mem_singleton.mp hlater)
    · refine ⟨session, verified, made_iff_eventsOf.mpr ?_⟩
      rw [heq]
      simp

namespace OfferDecryption

open KeyDeployment

theorem parse_sealed (x info plaintext : String) :
    world.parseEncryptedResponse (sealed x info plaintext) =
      .ok (plain (x ++ info), plaintext) := by
  have hplain : ∀ c ∈ (plain (x ++ info)).toList, (c != '|') = true := by
    intro c hc
    rw [plain, String.toList_ofList] at hc
    exact (List.mem_filter.mp hc).2
  have hsealed : (sealed x info plaintext).toList =
      (plain (x ++ info)).toList ++ '|' :: plaintext.toList := by
    simp [sealed]
  show Except.ok (_, _) = _
  rw [hsealed, List.takeWhile_append_of_pos hplain, List.dropWhile_append_of_pos hplain]
  simp

def sealing : WalletSealing world where
  keyPair jwk := jwk.d = some jwk.x ∧ ∀ c ∈ jwk.x.toList, (c != '|') = true
  sealFor encryptionInfo origin plaintext :=
    sealed (String.ofList (encryptionInfo.toList.takeWhile (· != '|'))) (encryptionInfo ++ origin)
      plaintext
  opened {jwk} nonce origin plaintext h := by
    obtain ⟨hd, hx⟩ := h
    have hkey : String.ofList ((world.buildEncryptionInfo jwk.x jwk.y nonce).toList.takeWhile
        (· != '|')) = jwk.x := by
      simp only [world, String.toList_append, List.append_assoc]
      rw [List.takeWhile_append_of_pos hx]
      simp
    refine ⟨_, _, parse_sealed _ _ _, ?_⟩
    rw [hkey]
    simp [world, hd]

def offerCall : OfferCall :=
  { requestId := "request", tenantId := "tenant", origin := "https://verifier.example" }

def offer : Iso18013Offer :=
  { session := "u", device_request := "org.iso.18013.5.1.mDL", encryption_info := "k|k|nonce" }

def respond (keyChainId : String) : KeySchedule :=
  serve 0 (.createOffer offerCall) 12 ++ serve 1 (.keyChain (.rotate "tenant" keyChainId)) 12 ++
    serve 2 (.processResponse offer.session
      (sealing.sealFor offer.encryption_info offerCall.origin "response")) 12

def foundKey : Event KeyCall.Reply → Option KeyChainEntity
  | ⟨_, .keyChains (.findByUsageType _ _ none), found⟩ => found
  | _ => none

/-- Is the request a response? -/
def isResponse : Option KeyRequest → Bool
  | some (.processResponse ..) => true
  | _ => false

def findsAdvertised (g : KeyState) (u : Nat) : KeyCall → Bool
  | .keyChains (.findByUsageType tenantId .encrypt none) =>
    !isResponse g.requests[u]? || (world.pick g.store.consults
      (g.store.keyChains.select (ofUsageType tenantId .encrypt none))).any fun kc =>
        kc.activeJwk.d == some kc.activeJwk.x && kc.activeJwk.x.toList.all (· != '|') &&
          g.trace.all fun e => (foundKey e).all fun advertised =>
            kc.activeJwk.x == advertised.activeJwk.x && kc.activeJwk.y == advertised.activeJwk.y
  | _ => true

theorem findsAdvertised_sound (g : KeyState) (u : Nat) (op : KeyCall)
    (h : findsAdvertised g u op = true) : FindsAdvertised sealing g u op := by
  unfold FindsAdvertised
  split
  · rename_i tenantId
    intro sessionId encrypted hreq t q advertised _ _ hfound
    rw [findsAdvertised, hreq] at h
    cases hpick : world.pick g.store.consults
      (g.store.keyChains.select (ofUsageType tenantId .encrypt none)) with
    | none =>
      rw [hpick] at h
      cases h
    | some kc =>
      rw [hpick] at h
      simp only [isResponse, Option.any_some, Bool.not_true, Bool.false_or, Bool.and_eq_true] at h
      obtain ⟨⟨hd, hx⟩, hall⟩ := h
      have hkey := List.all_eq_true.mp hall _ hfound
      simp only [foundKey, encryptionKey, Option.all_some, Bool.and_eq_true, beq_iff_eq] at hkey
      exact ⟨kc, rfl, ⟨eq_of_beq hd, List.all_eq_true.mp hx⟩, hkey⟩
  · trivial

/-- Does the thread verify a response? -/
def verifiesResponse (u : Nat) : Event KeyCall.Reply → Bool
  | ⟨t, .ask (.verifyDeviceResponse ..), _⟩ => t == u
  | _ => false

/-- Does the thread write to a session? -/
def writesSession (u : Nat) : Event KeyCall.Reply → Bool
  | ⟨t, .session (.updateUnconsumedForTenant ..), _⟩ => t == u
  | _ => false

theorem sealedTo_respond (keyChainId : String)
    (h : (((keyServices world).run (.start tenantStore) (respond keyChainId)).threads[0]?.bind
      fun t => t.body.response?) = some (.offer offer)) :
    SealedTo sealing ((keyServices world).run (.start tenantStore) (respond keyChainId)) offerCall
      offer 2 "response" where
  offered := by
    refine ⟨0, Config.answers_of_response ?_ h⟩
    rw [System.run_requests]
    rfl
  request := by
    rw [System.run_requests]
    rfl

end OfferDecryption

open KeyDeployment

theorem offers_answerable_of_respond :
    OffersAnswerable sealing ((keyServices world).run (.start tenantStore) (respond "lists")) :=
  offers_answerable sealing tenantStore rfl (respond "lists")
    (System.guarded_of_checks findsAdvertised_sound (by decide +kernel))

/-- **The claim fails**: once the encryption key was rotated, the response sealed to the offer
ends the session unopened. -/
theorem not_offers_answerable :
    ¬OffersAnswerable sealing
      ((keyServices world).run (.start tenantStore) (respond "encryption")) := by
  intro h
  have hsealed := sealedTo_respond "encryption" (by decide +kernel)
  have hwrites : ((keyServices world).run (.start tenantStore) (respond "encryption")).trace.any
      (writesSession 2) = true := by decide +kernel
  have hopens : ((keyServices world).run (.start tenantStore) (respond "encryption")).trace.any
      (verifiesResponse 2) = false := by decide +kernel
  obtain ⟨e, he, hwrite⟩ := List.any_eq_true.mp hwrites
  unfold writesSession at hwrite
  split at hwrite
  · rename_i t tenantId id update updated
    obtain rfl : t = 2 := by simpa using hwrite
    obtain ⟨session, verified, hmade⟩ := h.kept _ _ _ _ hsealed tenantId id update updated he
    have hverify : ((keyServices world).run (.start tenantStore) (respond "encryption")).trace.any
        (verifiesResponse 2) = true := List.any_eq_true.mpr ⟨_, hmade, rfl⟩
    exact Bool.noConfusion (hopens.symm.trans hverify)
  · cases hwrite

end Eudiplo
