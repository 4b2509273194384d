import Eudiplo.Backend.Deployment
import Eudiplo.Backend.Footprint
import Eudiplo.Backend.TokenEvidence
import Eudiplo.Concurrency.RelyGuarantee
import Mathlib

/-!
# Does the stored request object agree with the stored nonce and key?

A retrieval that finds no request object makes one: it stores a nonce, then a response key, has
the object signed, and stores that.  Nothing keeps a second retrieval from doing the same in
between, and then the last writer of each column need not be the same:
`not_request_objects_agree`.

`request_objects_agree` holds for every run of retrievals in which nobody stores a nonce, a key or
an object of a session while another retrieval is still making one.
-/

namespace Eudiplo

open Concurrency Prog Discipline Storage

/-! ## The claim -/

/-- **Signer and key generator**: what is inside a signed request object, and the public part of a
private key. -/
structure RequestSigner (w : World) where
  /-- The nonce and the encryption key of a request object. -/
  payload : String → Option (String × String)
  publicOf : String → String
  signed : ∀ n config session nonce publicJwk jwt,
    w.answer n (.signAuthorizationRequest config session nonce publicJwk) = .ok jwt →
      payload jwt = some (nonce, publicJwk)
  paired : ∀ n key, w.answer n .encryptionKeyPair = .ok key →
    publicOf key.privateJwk = key.publicJwk

variable {w : World}

/-- The stored request object of a session has the stored nonce and the public part of the stored
key. -/
def ObjectAgrees (signer : RequestSigner w) (s : Session) : Prop :=
  ∀ jwt, s.requestObject = some jwt → ∃ nonce key,
    signer.payload jwt = some (nonce, signer.publicOf key) ∧ s.vp_nonce = some nonce ∧
      s.responseEncryptionPrivateJwk = some key

/-- **Stored objects agree with nonce and key, and the wallets received the stored ones.** -/
structure RequestObjectsAgree (signer : RequestSigner w) (c : Backend) : Prop where
  stored : ∀ k s, c.store.sessions.get k = some s → ObjectAgrees signer s
  received : ∀ t nonce noRedirect jwt,
    c.Answers t (.retrievePresentation nonce noRedirect) (.requestObject jwt) → ∃ found s,
      c.global.Made t (.session (.findForWalletRequest nonce)) (some found) ∧
        c.store.sessions.get found.id = some s ∧ s.requestObject = some jwt

def Request.isRetrieval : Request → Bool
  | .retrievePresentation .. => true
  | _ => false

/-! ## The condition -/

def SessionUpdate.makesObject (u : SessionUpdate) : Bool :=
  u.vp_nonce.isSome || u.responseEncryptionPrivateJwk.isSome || u.requestObject.isSome

/-- Thread `t` found session `k` without a request object, and has stored none yet. -/
structure Generates (g : State) (t : Nat) (k : String) : Prop where
  found : ∃ nonce s, g.Made t (.session (.findForWalletRequest nonce)) (some s) ∧ s.id = k ∧
    s.requestObject = none
  pending : ∀ tenantId u n, g.Made t (.session (.updateForTenant tenantId k u)) n →
    u.requestObject = none

/-- **The condition**: who stores a part of a request object is the only one who makes one for the
session. -/
def GeneratesAlone (g : State) (tid : Nat) : Call → Prop
  | .session (.updateForTenant _ k u) => u.makesObject = true → ∀ t, t ≠ tid → ¬Generates g t k
  | _ => True

namespace RequestObjects

variable {signer : RequestSigner w} {g g' : State} {tid t : Nat} {k : String} {op : Call}

/-! ## What a retrieval writes -/

inductive Makes (signer : RequestSigner w) (g : State) (k : String) : SessionUpdate → Prop where
  | nonce (nonce : String) : Makes signer g k { vp_nonce := some nonce }
  | key (key : String) : Makes signer g k { responseEncryptionPrivateJwk := some (some key) }
  | object (jwt : String) (h : ∀ s, g.store.sessions.get k = some s → ∃ nonce key,
      signer.payload jwt = some (nonce, signer.publicOf key) ∧ s.vp_nonce = some nonce ∧
        s.responseEncryptionPrivateJwk = some key) :
    Makes signer g k { requestObject := some jwt }

theorem Makes.makesObject {u : SessionUpdate} (h : Makes signer g k u) : u.makesObject = true := by
  cases h <;> rfl

inductive Harmless : Call → Prop where
  | query {c : Call} (h : c.isQuery = true) : Harmless c
  | redirect {tenantId k : String} :
    Harmless (.session (.updateForTenant tenantId k { redirectUri := some none }))
  | fetched {tenantId k : String} {from_ : List SessionStatus} :
    Harmless (.session (.changeStateFrom tenantId k from_ (stateUpdate .fetched)))

/-- **What a thread may do**: harmless calls, and making the object of a session it found without
one. -/
inductive RetrievalMay (signer : RequestSigner w) (g : State) (tid : Nat) : Call → Prop where
  | harmless {c : Call} (h : Harmless c) : RetrievalMay signer g tid c
  | makes {tenantId k : String} {u : SessionUpdate} (hgen : Generates g tid k)
      (h : Makes signer g k u) :
    RetrievalMay signer g tid (.session (.updateForTenant tenantId k u))

/-! ## Rows -/

/-- The row is there, with the same tenant, request object, nonce and key. -/
def SameRequest (s : Session) (row : Option Session) : Prop :=
  ∃ s', row = some s' ∧ s'.tenantId = s.tenantId ∧ s'.requestObject = s.requestObject ∧
    s'.vp_nonce = s.vp_nonce ∧ s'.responseEncryptionPrivateJwk = s.responseEncryptionPrivateJwk

theorem SameRequest.refl {s : Session} : SameRequest s (some s) := ⟨s, rfl, rfl, rfl, rfl, rfl⟩

theorem SameRequest.trans {s s' : Session} {row row' : Option Session}
    (h : SameRequest s row) (hrow : row = some s') (h' : SameRequest s' row') :
    SameRequest s row' := by
  obtain ⟨s₁, rfl, ht, ho, hn, hk⟩ := h
  cases hrow
  obtain ⟨s₂, rfl, ht', ho', hn', hk'⟩ := h'
  exact ⟨s₂, rfl, ht'.trans ht, ho'.trans ho, hn'.trans hn, hk'.trans hk⟩

theorem row_harmless (h : Harmless op) {s : Session}
    (hs : g.store.sessions.get k = some s) :
    SameRequest s (((backend w).after g tid op).store.sessions.get k) := by
  have hframe : ∀ c : SessionCall, op = .session c →
      ((backend w).after g tid op).store.sessions.get k = c.row g.store.clock k (some s) := by
    rintro c rfl
    rw [← hs]
    exact SessionCall.get_effect _ _ _ _
  cases h with
  | query h =>
    cases op with
    | session c =>
      rw [hframe c rfl, SessionCall.row_of_isQuery h]
      exact .refl
    | interactive c => exact ⟨s, hs, rfl, rfl, rfl, rfl⟩
    | chained c => exact ⟨s, hs, rfl, rfl, rfl, rfl⟩
    | env c =>
      have hsame : ((backend w).after g tid (.env c)).store.sessions = g.store.sessions :=
        sessions_frame rfl _
      rw [hsame, hs]
      exact .refl
  | redirect =>
    rw [hframe _ rfl]
    change SameRequest s (some (if _ then _ else _))
    split <;> exact ⟨_, rfl, rfl, rfl, rfl, rfl⟩
  | fetched =>
    rw [hframe _ rfl]
    change SameRequest s (some (if _ then _ else _))
    split <;> exact ⟨_, rfl, rfl, rfl, rfl, rfl⟩

theorem row_makes {tenantId : String} {u : SessionUpdate} {s : Session}
    (hs : g.store.sessions.get k = some s) (k' : String) :
    ((backend w).after g tid (.session (.updateForTenant tenantId k' u))).store.sessions.get k =
      some (if ofTenant tenantId k' s then s.apply u else s) := by
  refine (SessionCall.get_effect _ _ _ _).trans ?_
  rw [hs]
  rfl

/-- **What a call does to a row**: nothing to the request, or a step of making its object. -/
theorem row_may (h : RetrievalMay signer g tid op) {s : Session}
    (hs : g.store.sessions.get k = some s) :
    SameRequest s (((backend w).after g tid op).store.sessions.get k) ∨
      ∃ tenantId u, op = .session (.updateForTenant tenantId k u) ∧ Generates g tid k ∧
        Makes signer g k u ∧
        ((backend w).after g tid op).store.sessions.get k = some (s.apply u) := by
  cases h with
  | harmless h => exact .inl (row_harmless h hs)
  | @makes tenantId k' u hgen h =>
    have hrow : ((backend w).after g tid
        (.session (.updateForTenant tenantId k' u))).store.sessions.get k =
          some (if ofTenant tenantId k' s then s.apply u else s) := row_makes hs k'
    by_cases hmatch : ofTenant tenantId k' s = true
    · rw [if_pos hmatch] at hrow
      have hid : k' = k := by
        have hkey : s.id = k := Table.get_key hs
        have hsame : s.id = k' := beq_iff_eq.mp (Bool.and_eq_true_iff.mp hmatch).2
        exact hsame.symm.trans hkey
      subst hid
      exact .inr ⟨tenantId, u, rfl, hgen, h, hrow⟩
    · rw [if_neg hmatch] at hrow
      rw [hrow]
      exact .inl .refl

theorem row_before (h : RetrievalMay signer g tid op) {s' : Session}
    (hs' : ((backend w).after g tid op).store.sessions.get k = some s') :
    ∃ s, g.store.sessions.get k = some s := by
  rcases session_after hs' with ⟨s, hs, -⟩ | ⟨tenantId, u, rfl, -, -⟩
  · exact ⟨s, hs⟩
  · cases h with
    | harmless h =>
      cases h with
      | query h => cases h

/-! ## Who generates -/

theorem generates_after (h : Generates ((backend w).after g tid op) t k) :
    Generates g t k ∨ t = tid ∧ ∃ nonce s, op = .session (.findForWalletRequest nonce) ∧
      g.store.sessions.get k = some s ∧ s.requestObject = none := by
  obtain ⟨⟨nonce, s, hmade, hid, hnone⟩, hpending⟩ := h
  have hpending' : ∀ tenantId u n, g.Made t (.session (.updateForTenant tenantId k u)) n →
      u.requestObject = none :=
    fun tenantId u n hu => hpending tenantId u n (hu.extends (System.extends_after _ _ _))
  rcases List.mem_cons.mp hmade with heq | hold
  · injection heq with ht hop hres
    subst hop
    have hreply : (SessionCall.findForWalletRequest nonce).reply g.store.clock g.store.sessions =
        some s := (eq_of_heq hres).symm
    refine .inr ⟨ht, nonce, s, rfl, ?_, hnone⟩
    rw [← hid]
    exact found_row hreply
  · exact .inl ⟨⟨nonce, s, hold, hid, hnone⟩, hpending'⟩

/-! ## The discipline -/

/-- **The invariant**: calls are those of threads that have arrived, stored objects agree, and
nobody makes one for a session that has one. -/
structure ObjectsInv (signer : RequestSigner w) (g : State) : Prop where
  arrived : ∀ e ∈ g.trace, e.tid < g.requests.length
  agrees : ∀ k s, g.store.sessions.get k = some s → ObjectAgrees signer s
  settled : ∀ k s, g.store.sessions.get k = some s → s.requestObject.isSome = true →
    ∀ t, ¬Generates g t k

/-- **What others keep**: rows stay, with their request if they have an object or the thread makes
one. -/
structure ObjectsRely (t : Nat) (g g' : State) : Prop where
  made : ∀ op a, g'.Made t op a ↔ g.Made t op a
  rows : ∀ k s, g.store.sessions.get k = some s →
    ∃ s', g'.store.sessions.get k = some s' ∧ s'.tenantId = s.tenantId ∧
      (s.requestObject.isSome = true ∨ Generates g t k → SameRequest s (some s'))

theorem generates_of_made (h : Generates g t k) (hmade : ∀ op a, g'.Made t op a ↔ g.Made t op a) :
    Generates g' t k := by
  obtain ⟨⟨nonce, s, hfound, hid, hnone⟩, hpending⟩ := h
  refine ⟨⟨nonce, s, (hmade _ _).mpr hfound, hid, hnone⟩, fun tenantId u n hu => ?_⟩
  exact hpending tenantId u n ((hmade _ _).mp hu)

theorem ObjectsRely.refl (t : Nat) (g : State) : ObjectsRely t g g :=
  ⟨fun _ _ => .rfl, fun _ s hs => ⟨s, hs, rfl, fun _ => .refl⟩⟩

theorem ObjectsRely.trans {g₁ g₂ g₃ : State} (h : ObjectsRely t g₁ g₂) (h' : ObjectsRely t g₂ g₃) :
    ObjectsRely t g₁ g₃ := by
  refine ⟨fun op a => (h'.made op a).trans (h.made op a), fun k s hs => ?_⟩
  obtain ⟨s', hs', htenant, hkeep⟩ := h.rows k s hs
  obtain ⟨s'', hs'', htenant', hkeep'⟩ := h'.rows k s' hs'
  refine ⟨s'', hs'', htenant'.trans htenant, fun hwhy => ?_⟩
  have hsame := hkeep hwhy
  refine hsame.trans rfl (hkeep' ?_)
  obtain ⟨_, heq, -, hobject, -⟩ := hsame
  cases heq
  exact hwhy.imp (fun hsome => hobject ▸ hsome) fun hgen => generates_of_made hgen h.made

theorem made_of_ne (hne : t ≠ tid) (op' : Call) (a : Reply op') :
    ((backend w).after g tid op).Made t op' a ↔ g.Made t op' a := by
  constructor
  · intro h
    rcases List.mem_cons.mp h with heq | hold
    · injection heq with ht
      exact absurd ht hne
    · exact hold
  · exact fun h => h.extends (System.extends_after _ _ _)

theorem agrees_of_same {s s' : Session} (h : SameRequest s (some s'))
    (hs : ObjectAgrees signer s) : ObjectAgrees signer s' := by
  obtain ⟨_, heq, -, hobject, hnonce, hkey⟩ := h
  cases heq
  unfold ObjectAgrees
  rw [hobject, hnonce, hkey]
  exact hs

/-- **One call keeps the invariant.** -/
theorem objects_after (hinv : ObjectsInv signer g) (htid : tid < g.requests.length)
    (halone : GeneratesAlone g tid op) (hmay : RetrievalMay signer g tid op) :
    ObjectsInv signer ((backend w).after g tid op) := by
  constructor
  · intro e he
    rcases List.mem_cons.mp he with rfl | hold
    · exact htid
    · exact hinv.arrived e hold
  · intro k s' hs'
    obtain ⟨s, hs⟩ := row_before hmay hs'
    rcases row_may hmay hs with hsame | ⟨tenantId, u, rfl, hgen, hmakes, hrow⟩
    · rw [hs'] at hsame
      exact agrees_of_same hsame (hinv.agrees k s hs)
    · obtain rfl := Option.some.inj (hs'.symm.trans hrow)
      -- who writes found the session without an object, and there is none yet
      have hnone : s.requestObject = none :=
        Option.not_isSome_iff_eq_none.mp fun hsome => hinv.settled k s hs hsome tid hgen
      intro jwt hjwt
      cases hmakes with
      | nonce nonce => cases hnone.symm.trans hjwt
      | key key => cases hnone.symm.trans hjwt
      | object jwt' h =>
        obtain rfl : jwt' = jwt := Option.some.inj hjwt
        exact h s hs
  · intro k s' hs' hsome t hgen'
    obtain ⟨s, hs⟩ := row_before hmay hs'
    rcases row_may hmay hs with hsame | ⟨tenantId, u, rfl, hgen, hmakes, hrow⟩
    · rw [hs'] at hsame
      obtain ⟨_, heq, -, hobject, -⟩ := hsame
      cases heq
      rw [hobject] at hsome
      rcases generates_after hgen' with hold | ⟨-, nonce, s₀, -, hs₀, hnone⟩
      · exact hinv.settled k s hs hsome t hold
      · obtain rfl := Option.some.inj (hs.symm.trans hs₀)
        rw [hnone] at hsome
        cases hsome
    · obtain rfl := Option.some.inj (hs'.symm.trans hrow)
      have hnone : s.requestObject = none :=
        Option.not_isSome_iff_eq_none.mp fun hsome => hinv.settled k s hs hsome tid hgen
      by_cases ht : t = tid
      · -- the object has just been stored
        subst ht
        have hu := hgen'.pending tenantId u _ (System.after_made _ _ _)
        have hobject : (s.apply u).requestObject = u.requestObject.or s.requestObject := rfl
        rw [hobject, hu, hnone] at hsome
        cases hsome
      · refine halone hmakes.makesObject t ht (generates_of_made hgen' fun op' a => ?_)
        exact (made_of_ne ht op' a).symm

/-- **One call respects what others rely on.** -/
theorem rely_after (hinv : ObjectsInv signer g) (halone : GeneratesAlone g tid op)
    (hmay : RetrievalMay signer g tid op) (hne : t ≠ tid) :
    ObjectsRely t g ((backend w).after g tid op) := by
  refine ⟨made_of_ne hne, fun k s hs => ?_⟩
  rcases row_may hmay hs with hsame | ⟨tenantId, u, rfl, hgen, hmakes, hrow⟩
  · obtain ⟨s', hs', htenant, hrest⟩ := hsame
    exact ⟨s', hs', htenant, fun _ => ⟨s', rfl, htenant, hrest⟩⟩
  · refine ⟨s.apply u, hrow, rfl, fun hwhy => ?_⟩
    rcases hwhy with hsome | hgen'
    · exact absurd hgen (hinv.settled k s hs hsome tid)
    · exact absurd hgen' (halone hmakes.makesObject t hne)

/-- A wallet received the stored object. -/
def Received (g : State) (t : Nat) (nonce jwt : String) : Prop :=
  ∃ found s, g.Made t (.session (.findForWalletRequest nonce)) (some found) ∧
    g.store.sessions.get found.id = some s ∧ s.requestObject = some jwt

/-- **The discipline of request objects.** -/
def objects (signer : RequestSigner w) : Discipline (backend w) where
  inv := ObjectsInv signer
  rely := ObjectsRely
  admits := GeneratesAlone
  may := RetrievalMay signer
  allowed := fun r => r.isRetrieval = true
  post := fun t r g a => ∀ nonce noRedirect jwt, r = .retrievePresentation nonce noRedirect →
    a = .requestObject jwt → Received g t nonce jwt
  rely_refl := ObjectsRely.refl
  rely_trans := ObjectsRely.trans
  step := fun hinv hrequest halone hmay =>
    ⟨objects_after hinv (List.getElem?_eq_some_iff.mp hrequest).1 halone hmay,
      fun _ hne => rely_after hinv halone hmay hne⟩
  arrive := fun hinv _ => ⟨⟨fun e he => by
    have hlt := hinv.arrived e he
    simp only [Global.arrive, List.length_append, List.length_singleton]
    exact Nat.lt_succ_of_lt hlt, hinv.agrees, fun k s hs hsome t hgen =>
    hinv.settled k s hs hsome t (generates_of_made hgen fun _ _ => .rfl)⟩,
    fun t _ => ⟨fun _ _ => .rfl, fun _ s hs => ⟨s, hs, rfl, fun _ => .refl⟩⟩⟩
  pass := fun _ hinv => ⟨⟨hinv.arrived, hinv.agrees, fun k s hs hsome t hgen =>
    hinv.settled k s hs hsome t (generates_of_made hgen fun _ _ => .rfl)⟩,
    fun t => ⟨fun _ _ => .rfl, fun _ s hs => ⟨s, hs, rfl, fun _ => .refl⟩⟩⟩

/-! ## A retrieval -/

/-- **What a retrieval that makes an object holds on to**: the row, and what it has stored. -/
structure Holding (g : State) (tid : Nat) (k tenantId : String) (nonce key : Option String) :
    Prop where
  generates : Generates g tid k
  row : ∃ s, g.store.sessions.get k = some s ∧ s.tenantId = tenantId ∧
    (∀ n, nonce = some n → s.vp_nonce = some n) ∧
    ∀ x, key = some x → s.responseEncryptionPrivateJwk = some x

/-- The session has this object. -/
def Serves (g : State) (k jwt : String) : Prop :=
  ∃ s, g.store.sessions.get k = some s ∧ s.requestObject = some jwt

variable {r : Request} {tenantId jwt : String} {nonce key : Option String}

theorem Holding.of_same (h : Holding g tid k tenantId nonce key) (hgen : Generates g' tid k)
    (hrow : ∀ s, g.store.sessions.get k = some s → SameRequest s (g'.store.sessions.get k)) :
    Holding g' tid k tenantId nonce key := by
  obtain ⟨s, hs, htenant, hnonce, hkey⟩ := h.row
  obtain ⟨s', hs', htenant', -, hnonce', hkey'⟩ := hrow s hs
  exact ⟨hgen, s', hs', htenant'.trans htenant, fun n hn => hnonce'.trans (hnonce n hn),
    fun x hx => hkey'.trans (hkey x hx)⟩

theorem Holding.later (h : Holding g tid k tenantId nonce key)
    (hl : (objects signer).Later tid g g') : Holding g' tid k tenantId nonce key := by
  refine h.of_same (generates_of_made h.generates hl.rely.made) fun s hs => ?_
  obtain ⟨s', hs', -, hkeep⟩ := hl.rely.rows k s hs
  rw [hs']
  exact hkeep (.inr h.generates)

theorem generates_kept (h : Generates g tid k)
    (hop : ∀ tenantId u, op = .session (.updateForTenant tenantId k u) → u.requestObject = none) :
    Generates ((backend w).after g tid op) tid k := by
  obtain ⟨⟨nonce, s, hfound, hid, hnone⟩, hpending⟩ := h
  refine ⟨⟨nonce, s, hfound.extends (System.extends_after _ _ _), hid, hnone⟩,
    fun tenantId u n hu => ?_⟩
  rcases List.mem_cons.mp hu with heq | hold
  · injection heq with _ hcall
    exact hop tenantId u hcall.symm
  · exact hpending tenantId u n hold

theorem Holding.harmless (hop : Harmless op) (h : Holding g tid k tenantId nonce key) :
    Holding ((backend w).after g tid op) tid k tenantId nonce key := by
  refine h.of_same (generates_kept h.generates fun tenantId u heq => ?_) fun s hs =>
    row_harmless hop hs
  cases hop with
  | query h =>
    subst heq
    cases h
  | redirect =>
    cases heq
    rfl
  | fetched => cases heq

theorem Serves.later (h : Serves g k jwt) (hl : (objects signer).Later tid g g') :
    Serves g' k jwt := by
  obtain ⟨s, hs, hjwt⟩ := h
  obtain ⟨s', hs', -, hkeep⟩ := hl.rely.rows k s hs
  obtain ⟨_, heq, -, hobject, -⟩ := hkeep (.inl (hjwt ▸ rfl))
  cases heq
  exact ⟨s', hs', hobject.trans hjwt⟩

theorem Serves.harmless (hop : Harmless op) (h : Serves g k jwt) :
    Serves ((backend w).after g tid op) k jwt := by
  obtain ⟨s, hs, hjwt⟩ := h
  obtain ⟨s', hs', -, hobject, -⟩ :
      SameRequest s (((backend w).after g tid op).store.sessions.get k) := row_harmless hop hs
  exact ⟨s', hs', hobject.trans hjwt⟩

theorem Received.later {nonce : String} (h : Received g tid nonce jwt)
    (hl : (objects signer).Later tid g g') : Received g' tid nonce jwt := by
  obtain ⟨found, s, hmade, hs, hjwt⟩ := h
  obtain ⟨s', hs', hjwt'⟩ := Serves.later ⟨s, hs, hjwt⟩ hl
  exact ⟨found, s', hmade.extends hl.hist, hs', hjwt'⟩

theorem safe_holding {α : Type} {p : Api α} {Q : State → α → Prop}
    (hg : (objects signer).At tid r g) (hp : p.Only Harmless)
    (hK : Holding g tid k tenantId nonce key) (hy : (backend w).Yields tid Q p g) :
    (objects signer).Safe tid (fun g' a => Holding g' tid k tenantId nonce key ∧ Q g' a) p g :=
  Safe.keep hg hp (fun _ _ _ _ hop _ => .harmless hop) hK (fun hl h => h.later hl)
    (fun hop h => h.harmless hop) hy

theorem safe_serves {α : Type} {p : Api α} (hg : (objects signer).At tid r g)
    (hp : p.Only Harmless) (hK : Serves g k jwt) :
    (objects signer).Safe tid (fun g' _ => Serves g' k jwt) p g :=
  (Safe.keep hg hp (fun _ _ _ _ hop _ => .harmless hop) hK (fun hl h => h.later hl)
    (fun hop h => h.harmless hop) (System.yields_true p)).imp hg fun _ _ _ _ h => h.1

theorem harmless_reads {α : Type} {p : Api α} (h : Reads p) : p.Only Harmless :=
  h.mono fun _ => Harmless.query

theorem harmless_redirect (noRedirect : Bool) (tenantId k : String) :
    (onlyIf noRedirect 0 (updateForTenant tenantId k { redirectUri := some none })).Only Harmless :=
  Only.onlyIf (only_sessions.mpr .redirect)

theorem safe_getForInternalFlow (hg : (objects signer).At tid r g)
    (hK : Holding g tid k tenantId nonce key) :
    (objects signer).Safe tid (fun g' s => Holding g' tid k tenantId nonce key ∧
      s.id = k ∧ s.tenantId = tenantId) (getForInternalFlow k) g := by
  unfold getForInternalFlow lookup
  refine Safe.ensure fun _ => ?_
  have hfind : (objects signer).Safe tid (fun g' found => Holding g' tid k tenantId nonce key ∧
      ∀ s, found = some s → s.id = k ∧ s.tenantId = tenantId)
      (sessions (.findByIdForInternalFlow k)) g := by
    refine Safe.invoke fun g' hl _ => ⟨.harmless (.query rfl), fun g'' hl' => ?_⟩
    have hK' := hK.later hl
    refine ⟨(hK'.harmless (.query rfl)).later hl', fun s hs => ?_⟩
    obtain ⟨s', hs', htenant, -⟩ := hK'.row
    obtain rfl := Option.some.inj (hs'.symm.trans hs)
    exact ⟨Table.get_key hs', htenant⟩
  refine hfind.bind hg fun found g' _ hg' hfound => Safe.require fun s hs g'' hl => ?_
  exact ⟨hfound.1.later hl, hfound.2 s hs⟩

theorem row_written {u : SessionUpdate} {s : Session} (hs : g.store.sessions.get k = some s)
    (htenant : s.tenantId = tenantId) :
    ((backend w).after g tid (.session (.updateForTenant tenantId k u))).store.sessions.get k =
      some (s.apply u) := by
  have hmatch : ofTenant tenantId k s = true :=
    Bool.and_eq_true_iff.mpr ⟨beq_iff_eq.mpr htenant, beq_iff_eq.mpr (Table.get_key hs)⟩
  rw [row_makes hs k, if_pos hmatch]

theorem safe_store {u : SessionUpdate} {nonce' key' : Option String}
    (hK : Holding g tid k tenantId nonce key) (hobject : u.requestObject = none)
    (hmakes : ∀ g', Makes signer g' k u)
    (hnonce : ∀ s : Session, (∀ n, nonce = some n → s.vp_nonce = some n) →
      ∀ n, nonce' = some n → (s.apply u).vp_nonce = some n)
    (hkey : ∀ s : Session, (∀ x, key = some x → s.responseEncryptionPrivateJwk = some x) →
      ∀ x, key' = some x → (s.apply u).responseEncryptionPrivateJwk = some x) :
    (objects signer).Safe tid (fun g' _ => Holding g' tid k tenantId nonce' key')
      (updateForTenant tenantId k u) g := by
  refine Safe.invoke fun g' hl _ => ?_
  have hK' := hK.later hl
  refine ⟨.makes hK'.generates (hmakes g'), fun g'' hl' => Holding.later ?_ hl'⟩
  obtain ⟨s, hs, htenant, hn, hx⟩ := hK'.row
  refine ⟨generates_kept hK'.generates fun tenantId' u' heq => ?_,
    s.apply u, row_written hs htenant, htenant, hnonce s hn, hkey s hx⟩
  cases heq
  exact hobject

theorem safe_asked (hg : (objects signer).At tid r g)
    (hK : Holding g tid k tenantId nonce key) (q : Question)
    (hq : (Call.env (.ask q)).isQuery = true) :
    (objects signer).Safe tid (fun g' a => Holding g' tid k tenantId nonce key ∧
      ∃ n, w.answer n q = .ok a) (ask q) g := by
  have hcall : (objects signer).Safe tid (fun g' a => Holding g' tid k tenantId nonce key ∧
      ∃ n, w.answer n q = a) (Prog.invoke (Call.env (.ask q))) g :=
    Safe.invoke fun g' hl _ => ⟨.harmless (.query hq), fun g'' hl' =>
      ⟨((hK.later hl).harmless (.query hq)).later hl', g'.store.consults, rfl⟩⟩
  refine hcall.bind hg fun a g' _ hg' ha => ?_
  cases a with
  | ok a => exact fun g'' hl => ⟨ha.1.later hl, ha.2⟩
  | error e => trivial

/-- **An object is made** with the nonce and the key that are stored. -/
theorem safe_createAuthorizationRequest (hg : (objects signer).At tid r g)
    (hK : Holding g tid k tenantId none none) (noRedirect : Bool) :
    (objects signer).Safe tid (fun g' jwt => ∃ nonce key,
      signer.payload jwt = some (nonce, signer.publicOf key) ∧
        Holding g' tid k tenantId (some nonce) (some key))
      (createAuthorizationRequest k noRedirect) g := by
  unfold createAuthorizationRequest
  refine (safe_getForInternalFlow hg hK).bind hg fun session g₁ _ hg₁ h₁ => ?_
  obtain ⟨hK₁, rfl, rfl⟩ := h₁
  refine (safe_holding hg₁ (harmless_redirect noRedirect _ _) hK₁ (System.yields_true _)).bind hg₁
    fun _ g₂ _ hg₂ h₂ => ?_
  refine (safe_holding hg₂ (harmless_reads (reads_ask _ rfl)) h₂.1 (System.yields_true _)).bind hg₂
    fun config g₃ _ hg₃ h₃ => ?_
  refine (safe_holding hg₃ (harmless_reads reads_fresh) h₃.1 (System.yields_true _)).bind hg₃
    fun nonce g₄ _ hg₄ h₄ => ?_
  have hstoreNonce : (objects signer).Safe tid
      (fun g' _ => Holding g' tid session.id session.tenantId (some nonce) none)
      (updateForTenant session.tenantId session.id { vp_nonce := some nonce }) g₄ :=
    safe_store h₄.1 rfl (fun _ => .nonce nonce) (fun _ _ n hn => hn) fun _ _ _ hx => nomatch hx
  refine hstoreNonce.bind hg₄ fun _ g₅ _ hg₅ h₅ => ?_
  refine (safe_asked hg₅ h₅ .encryptionKeyPair rfl).bind hg₅ fun key g₆ _ hg₆ h₆ => ?_
  have hstoreKey : (objects signer).Safe tid
      (fun g' _ => Holding g' tid session.id session.tenantId (some nonce) (some key.privateJwk))
      (updateForTenant session.tenantId session.id
        { responseEncryptionPrivateJwk := some (some key.privateJwk) }) g₆ :=
    safe_store h₆.1 rfl (fun _ => .key _) (fun _ hn n h => hn n h) fun _ _ x hx => hx
  refine hstoreKey.bind hg₆ fun _ g₇ _ hg₇ h₇ => ?_
  refine (safe_asked hg₇ h₇ (.signAuthorizationRequest config session nonce key.publicJwk) rfl).imp
    hg₇ fun jwt g₈ _ _ h₈ => ?_
  obtain ⟨m, hkey⟩ := h₆.2
  obtain ⟨n, hjwt⟩ := h₈.2
  refine ⟨nonce, key.privateJwk, ?_, h₈.1⟩
  rw [signer.paired m key hkey]
  exact signer.signed n _ _ _ _ _ hjwt

/-- What the wallet's look-up found. -/
def LookedUp (g : State) (tid : Nat) (nonce : String) (s : Session) : Prop :=
  g.Made tid (.session (.findForWalletRequest nonce)) (some s) ∧
    match s.requestObject with
    | some jwt => Serves g s.id jwt
    | none => Holding g tid s.id s.tenantId none none

theorem LookedUp.later {nonce : String} {s : Session} (h : LookedUp g tid nonce s)
    (hl : (objects signer).Later tid g g') : LookedUp g' tid nonce s := by
  refine ⟨h.1.extends hl.hist, ?_⟩
  have hrest := h.2
  cases hobject : s.requestObject with
  | some jwt =>
    rw [hobject] at hrest
    exact hrest.later hl
  | none =>
    rw [hobject] at hrest
    exact hrest.later hl

theorem LookedUp.harmless {nonce : String} {s : Session} (hop : Harmless op)
    (h : LookedUp g tid nonce s) : LookedUp ((backend w).after g tid op) tid nonce s := by
  refine ⟨h.1.extends (System.extends_after _ _ _), ?_⟩
  have hrest := h.2
  cases hobject : s.requestObject with
  | some jwt =>
    rw [hobject] at hrest
    exact hrest.harmless hop
  | none =>
    rw [hobject] at hrest
    exact hrest.harmless hop

/-- **The first call of a retrieval** finds a session with its object, or without one. -/
theorem lookedUp_after (hnew : ∀ op a, ¬g.Made tid op a) {nonce : String} {s : Session}
    (hs : (SessionCall.findForWalletRequest nonce).reply g.store.clock g.store.sessions = some s) :
    LookedUp ((backend w).after g tid (.session (.findForWalletRequest nonce))) tid nonce s := by
  have hrow : g.store.sessions.get s.id = some s := found_row hs
  have hmade : ((backend w).after g tid (.session (.findForWalletRequest nonce))).Made tid
      (.session (.findForWalletRequest nonce)) (some s) := by
    rw [← hs]
    exact System.after_made _ _ _
  refine ⟨hmade, ?_⟩
  cases hobject : s.requestObject with
  | some jwt => exact ⟨s, hrow, hobject⟩
  | none =>
    refine ⟨⟨⟨nonce, s, hmade, rfl, hobject⟩, fun tenantId u n hu => ?_⟩, s, hrow, rfl,
      fun _ h => (nomatch h), fun _ h => (nomatch h)⟩
    rcases List.mem_cons.mp hu with heq | hold
    · injection heq with _ hcall
      cases hcall
    · exact absurd hold (hnew _ _)

theorem safe_getForWalletRequest (hg : (objects signer).At tid r g)
    (hnew : ∀ op a, ¬g.Made tid op a) (nonce : String) :
    (objects signer).Safe tid (fun g' s => LookedUp g' tid nonce s)
      (getForWalletRequest nonce) g := by
  unfold getForWalletRequest lookup
  refine Safe.ensure fun _ => ?_
  have hfind : (objects signer).Safe tid
      (fun g' found => ∀ s, found = some s → LookedUp g' tid nonce s)
      (sessions (.findForWalletRequest nonce)) g := by
    refine Safe.invoke fun g' hl _ => ⟨.harmless (.query rfl), fun g'' hl' s hs => ?_⟩
    refine (lookedUp_after (fun op a hmade => ?_) hs).later hl'
    exact hnew op a ((hl.rely.made op a).mp hmade)
  refine hfind.bind hg fun found g' _ hg' hfound => Safe.require fun s hs g'' hl => ?_
  exact (hfound s hs).later hl

/-- **The object that is served** is the stored one. -/
theorem safe_serveRequestObject (hg : (objects signer).At tid r g) {nonce : String} {s : Session}
    (h : LookedUp g tid nonce s) (noRedirect : Bool) :
    (objects signer).Safe tid (fun g' jwt => Serves g' s.id jwt)
      (serveRequestObject s noRedirect) g := by
  unfold serveRequestObject
  have hrest := h.2
  cases hobject : s.requestObject with
  | some jwt =>
    rw [hobject] at hrest
    refine (safe_serves hg (harmless_redirect noRedirect _ _) hrest).bind hg
      fun _ g' _ _ hserves => ?_
    exact Safe.ret fun g'' hl => hserves.later hl
  | none =>
    rw [hobject] at hrest
    refine (safe_createAuthorizationRequest hg hrest noRedirect).bind hg fun jwt g₁ _ hg₁ h₁ => ?_
    obtain ⟨n, key, hpayload, hK⟩ := h₁
    have hstore : (objects signer).Safe tid (fun g' _ => Serves g' s.id jwt)
        (updateForTenant s.tenantId s.id { requestObject := some jwt }) g₁ := by
      refine Safe.invoke fun g' hl _ => ?_
      have hK' := hK.later hl
      obtain ⟨row, hrow, htenant, hn, hx⟩ := hK'.row
      refine ⟨.makes hK'.generates (.object jwt fun row' hrow' => ?_), fun g'' hl' =>
        Serves.later ?_ hl'⟩
      · obtain rfl := Option.some.inj (hrow.symm.trans hrow')
        exact ⟨n, key, hpayload, hn n rfl, hx key rfl⟩
      · exact ⟨_, row_written hrow htenant, rfl⟩
    refine hstore.bind hg₁ fun _ g₂ _ _ hserves => ?_
    exact Safe.ret fun g'' hl => hserves.later hl

/-- **Every retrieval keeps to the discipline.** -/
theorem objects_verified (signer : RequestSigner w) : (objects signer).Verified := by
  intro g r hinv hallowed hg
  cases r with
  | retrievePresentation nonce noRedirect =>
    have hnew : ∀ op a, ¬(g.arrive (.retrievePresentation nonce noRedirect)).Made g.requests.length
        op a := fun op a hmade => (Nat.lt_irrefl _ (hinv.arrived _ hmade)).elim
    have hretrieve : (objects signer).Safe g.requests.length
        (fun g' jwt => Received g' g.requests.length nonce jwt)
        (retrievePresentationRequest nonce noRedirect)
        (g.arrive (.retrievePresentation nonce noRedirect)) := by
      unfold retrievePresentationRequest
      refine (safe_getForWalletRequest hg hnew nonce).bind hg fun s g₁ _ hg₁ h₁ => ?_
      have hnow : (objects signer).Safe g.requests.length
          (fun g' _ => LookedUp g' g.requests.length nonce s) now g₁ := by
        refine Safe.invoke fun g' hl _ => ⟨.harmless (.query rfl), fun g'' hl' => ?_⟩
        exact ((h₁.later hl).harmless (.query rfl)).later hl'
      refine hnow.bind hg₁ fun t g₂ _ hg₂ h₂ => Safe.ofExcept fun _ _ => ?_
      refine (safe_serveRequestObject hg₂ h₂ noRedirect).bind hg₂ fun jwt g₃ he₃ hg₃ hserves => ?_
      refine (safe_serves hg₃ ?_ hserves).bind hg₃ fun _ g₄ he₄ _ hserves' => ?_
      · exact only_sessions.mpr .fetched
      · refine Safe.ret fun g₅ hl => ?_
        obtain ⟨row, hrow, hjwt⟩ := hserves'.later hl
        exact ⟨s, row, ((h₂.1.extends he₃).extends he₄).extends hl.hist, hrow, hjwt⟩
    refine hretrieve.bind hg fun jwt g' _ _ hreceived => Safe.ret fun g'' hl => ?_
    rintro _ _ _ hr ha
    cases hr
    cases ha
    exact hreceived.later hl
  | _ => cases hallowed

end RequestObjects

open RequestObjects

/-- **Request objects agree** with the stored nonce and key in every run of retrievals in which
nobody stores a part of an object while another retrieval makes one. -/
theorem request_objects_agree (signer : RequestSigner w) (st : Store) (ms : Schedule)
    (hstart : ∀ k s, st.sessions.get k = some s → ObjectAgrees signer s)
    (hretrievals : System.Arrivals (fun r => r.isRetrieval = true) ms)
    (halone : (backend w).Guarded GeneratesAlone (.start st) ms) :
    RequestObjectsAgree signer ((backend w).run (.start st) ms) := by
  have hinv : ObjectsInv signer (⟨st, [], []⟩ : State) := by
    refine ⟨fun e he => (List.not_mem_nil he).elim, hstart, fun k s _ _ t hgen => ?_⟩
    obtain ⟨nonce, s', hmade, -⟩ := hgen.found
    exact List.not_mem_nil hmade
  have hholds := Discipline.run_holds (objects_verified signer) (Discipline.holds_start hinv)
    hretrievals halone
  refine ⟨hholds.inv.agrees, fun t nonce noRedirect jwt hanswers => ?_⟩
  exact hholds.answer hanswers nonce noRedirect jwt rfl rfl

namespace RequestObjects

open Deployment

/-! ## A run of two wallets -/

def encodeObject (nonce publicJwk : String) : String :=
  String.ofList (nonce.toList.flatMap (fun c => ['+', c]) ++ '.' :: publicJwk.toList)

def decodeObject (read : List Char) : List Char → Option (String × String)
  | '+' :: c :: rest => decodeObject (read ++ [c]) rest
  | '.' :: rest => some (String.ofList read, String.ofList rest)
  | _ => none

theorem decodeObject_encoded (read nonce publicJwk : List Char) :
    decodeObject read (nonce.flatMap (fun c => ['+', c]) ++ '.' :: publicJwk) =
      some (String.ofList (read ++ nonce), String.ofList publicJwk) := by
  induction nonce generalizing read with
  | nil => simp [decodeObject]
  | cons c nonce ih =>
    show decodeObject read ('+' :: c :: (nonce.flatMap (fun c => ['+', c]) ++ '.' :: publicJwk)) = _
    rw [decodeObject, ih]
    simp

def readable : World :=
  { deployment {} with
    answer := fun n q => match q with
      | .encryptionKeyPair => .ok ⟨unary n, unary n⟩
      | .signAuthorizationRequest _ _ nonce publicJwk => .ok (encodeObject nonce publicJwk)
      | q => Deployment.answer {} n q }

def readableSigner : RequestSigner readable where
  payload jwt := decodeObject [] jwt.toList
  publicOf := id
  signed := by
    intro n config session nonce publicJwk jwt h
    obtain rfl : encodeObject nonce publicJwk = jwt := Except.ok.inj h
    simpa [encodeObject] using decodeObject_encoded [] nonce.toList publicJwk.toList
  paired := by
    intro n key h
    obtain rfl := Except.ok.inj h
    rfl

/-- A request for an interactive step: no request object has been made yet. -/
def requested : Store :=
  { freshStore with
    sessions := Table.single
      { id := "session"
        tenantId := "tenant"
        createdAt := 0
        requestId := some "pid"
        walletNonce := some "nonce" } }

/-- Did the event find session `k` without a request object? -/
def foundWithout (k : String) : Answered → Bool
  | ⟨_, .session (.findForWalletRequest _), some s⟩ => s.id == k && s.requestObject.isNone
  | _ => false

def generatesAlone (g : State) (tid : Nat) : Call → Bool
  | .session (.updateForTenant _ k u) =>
    !u.makesObject || g.trace.all fun e => e.tid == tid || !foundWithout k e
  | _ => true

theorem generatesAlone_sound (g : State) (tid : Nat) (op : Call)
    (h : generatesAlone g tid op = true) : GeneratesAlone g tid op := by
  unfold generatesAlone at h
  split at h
  · rename_i tenantId k u
    intro hmakes t hne hgen
    obtain ⟨nonce, s, hmade, hid, hnone⟩ := hgen.found
    rw [hmakes, Bool.not_true, Bool.false_or, List.all_eq_true] at h
    have hall := h _ hmade
    simp [foundWithout, hid, hnone, hne] at hall
  · rename_i hother
    unfold GeneratesAlone
    split
    · exact absurd rfl (hother _ _ _)
    · trivial

def Response.isRequestObject : Response → Bool
  | .requestObject _ => true
  | _ => false

def inTurn : Schedule :=
  serve 0 (.retrievePresentation "nonce" false) 11 ++
  serve 1 (.retrievePresentation "nonce" false) 3

/-- Both find no object, and the second makes its own before the first has stored one. -/
def overlapping : Schedule :=
  serve 0 (.retrievePresentation "nonce" false) 8 ++
  serve 1 (.retrievePresentation "nonce" false) 11 ++
    List.replicate 3 (.resume 0)

end RequestObjects

/-- Two retrievals in turn. -/
theorem request_objects_agree_inTurn :
    RequestObjectsAgree readableSigner ((backend readable).run (.start requested) inTurn) := by
  refine request_objects_agree readableSigner requested inTurn (fun k s hs jwt hjwt => ?_)
    (System.arrivals_of_all (by decide))
    (System.guarded_of_checks generatesAlone_sound (by decide +kernel))
  unfold requested at hs
  rw [Table.get_single] at hs
  split at hs
  · cases hs
    cases hjwt
  · cases hs

/-- **Both wallets have their answer, and the stored object has the nonce of the first** beside the
second's. -/
theorem not_request_objects_agree :
    (∀ t < 2, ∃ jwt, ((backend readable).run (.start requested) overlapping).Answers t
      (.retrievePresentation "nonce" false) (.requestObject jwt)) ∧
    ¬RequestObjectsAgree readableSigner
      ((backend readable).run (.start requested) overlapping) := by
  constructor
  · intro t ht
    have hrequests : ((backend readable).run (.start requested) overlapping).global.requests =
        List.replicate 2 (.retrievePresentation "nonce" false) := by
      rw [System.run_requests]
      rfl
    have hrequest : ((backend readable).run (.start requested) overlapping).global.requests[t]? =
        some (.retrievePresentation "nonce" false) := by
      rw [hrequests, List.getElem?_replicate, if_pos ht]
    have hanswered : ∀ t < 2,
        (Deployment.answered ((backend readable).run (.start requested) overlapping) t).any
        Response.isRequestObject = true := by decide +kernel
    obtain ⟨a, ha, hanswers⟩ := Deployment.answers_of_any t Response.isRequestObject hrequest
      (hanswered t ht)
    cases a with
    | requestObject jwt => exact ⟨jwt, hanswers⟩
    | _ => cases ha
  · intro h
    have hview : (((backend readable).run (.start requested) overlapping).store.sessions.get
        "session").map (fun s => (s.requestObject.isSome,
          (s.requestObject.bind readableSigner.payload).map (·.1) == s.vp_nonce)) =
          some (true, false) := by decide +kernel
    obtain ⟨s, hs, hdiffers⟩ := Option.map_eq_some_iff.mp hview
    rw [Prod.mk.injEq] at hdiffers
    obtain ⟨hsome, hdiffers⟩ := hdiffers
    obtain ⟨jwt, hjwt⟩ := Option.isSome_iff_exists.mp hsome
    obtain ⟨nonce, key, hpayload, hnonce, -⟩ := h.stored "session" s hs jwt hjwt
    rw [hjwt, hnonce] at hdiffers
    simp [hpayload] at hdiffers

end Eudiplo
