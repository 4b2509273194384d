import Eudiplo.Backend.CodeProvenance
import Eudiplo.Backend.Deployment

/-!
# The pre-authorized code of an offer

`assertCodeIssuedForGrant` decides by the flow of the session's offer which grant may redeem the
session's code, and a pre-authorized code is redeemed without PKCE, client or redirect_uri.  That
is sound as long as the code of a session whose offer is pre-authorized is the one
`CreateCredentialOffer` drew for it (`offered`), so as long as no authorization endpoint writes a
code into such a session.
-/

namespace Eudiplo

open Concurrency Prog Discipline Storage

variable {w : World}

/-! ## The property -/

/-- Requests that hand out codes bound to a client: the authorization endpoint and
interactive authorization. -/
def Request.authorizes : Request → Bool
  | .authorize _ | .interactiveFollowUp .. => true
  | _ => false

/-- **Session `k` was created for a pre-authorized offer with this code**: by the request
that created the offer, which drew the code itself. -/
def OfferedCode (g : State) (k code : String) : Prop :=
  ∃ tid tenantId request server expiresAt s,
    g.requests[tid]? = some (.createOffer tenantId request) ∧
    request.flow = .pre_authorized_code ∧ Drew g tid code ∧
    g.Made tid (.session (.create k tenantId
      (offerSession request (some code) server expiresAt))) s

/-- **A pre-authorized grant redeems only the code of the offer**: the code of every token
response to such a grant was put into its session when the offer was created, and no
request of an authorization endpoint has ever drawn that value. -/
def RedeemsOfferedCodes (w : World) (c : Backend) : Prop :=
  ∀ tid q r, c.Answers tid (.token q) (.token r) → ∀ parsed,
    parseTokenRequest w q = .ok parsed → parsed.grant.isPreAuthorized = true →
    ∃ code s u, parsed.code = some code ∧
      c.global.Made tid (.session (.findByAuthorizationCode q.tenantId code)) (some s) ∧
      c.global.Made tid (.session (.updateUnconsumedForTenant s.tenantId s.id u)) true ∧
      OfferedCode c.global s.id code ∧
      ∀ t req, c.global.requests[t]? = some req → req.authorizes = true →
        ¬Drew c.global t code

/-- The condition on one call: an authorization endpoint does not write a code into the
session of a pre-authorized offer. -/
def CodeFits (g : State) (_ : Nat) : Call → Prop
  | .session (.updateForTenant tenantId id u) =>
    u.authorization_code.isSome = true → ∀ s, g.store.sessions.get id = some s →
      s.tenantId = tenantId → s.flow ≠ some .pre_authorized_code
  | _ => True

theorem OfferedCode.extends {g g' : State} {k code : String} (h : OfferedCode g k code)
    (he : g.Extends g') : OfferedCode g' k code := by
  obtain ⟨tid, tenantId, request, server, expiresAt, s, hreq, hflow, hdrew, hmade⟩ := h
  exact ⟨tid, tenantId, request, server, expiresAt, s, he.request hreq, hflow,
    hdrew.extends he, hmade.extends he⟩

/-! ## The discipline -/

/-- A row is created with an offer only by the request that creates the offer, and with a
code of its own only if the offer is pre-authorized. -/
def OfferCreate (g : State) (tid : Nat) (tenantId : String) (u : SessionUpdate) : Prop :=
  (u.credentialPayload = none ∧ u.authorization_code = none) ∨
    ∃ request code server expiresAt,
      g.requests[tid]? = some (.createOffer tenantId request) ∧
      u = offerSession request code server expiresAt ∧
      (request.flow = .pre_authorized_code → ∃ c, code = some c ∧ Drew g tid c) ∧
      (request.flow = .authorization_code → code = none)

/-- Only `CreateCredentialOffer` writes offers; codes are written by it and by the
authorization endpoints. -/
def OfferMay (g : State) (tid : Nat) : Call → Prop
  | .session (.create _ tenantId u) => OfferCreate g tid tenantId u
  | .session (.updateForTenant _ _ u) => u.credentialPayload = none
  | .session (.updateUnconsumedForTenant _ _ u) | .session (.changeState _ _ u)
  | .session (.changeStateFrom _ _ _ u) =>
    u.credentialPayload = none ∧ u.authorization_code = none
  | _ => True

/-- **The invariant**: the code of a pre-authorized offer is the offered one, in the table
and in every snapshot a token request has found. -/
structure OfferInv (w : World) (g : State) : Prop where
  drawn : DrawnOnce w g
  rows : ∀ k s code, g.store.sessions.get k = some s →
    s.flow = some .pre_authorized_code → s.authorization_code = some code →
    OfferedCode g k code
  found : ∀ tid tenantId code s,
    g.Made tid (.session (.findByAuthorizationCode tenantId code)) (some s) →
    s.flow = some .pre_authorized_code → OfferedCode g s.id code

theorem apply_flow_of_none {s : Session} {u : SessionUpdate} (h : u.credentialPayload = none) :
    (s.apply u).flow = s.flow := by
  show (u.credentialPayload.or s.credentialPayload).map _ = _
  rw [h]
  rfl

theorem apply_code_of_none {s : Session} {u : SessionUpdate} (h : u.authorization_code = none) :
    (s.apply u).authorization_code = s.authorization_code := by
  show u.authorization_code.or s.authorization_code = _
  rw [h]
  rfl

/-- **A created or merged row keeps the invariant.** -/
theorem offered_create {g : State} {tid : Nat} {k tenantId code : String} {u : SessionUpdate}
    (old : Session) (hmay : OfferCreate g tid tenantId u)
    (hold : old.flow = some .pre_authorized_code → old.authorization_code = some code →
      OfferedCode g k code)
    (hflow : (old.apply u).flow = some .pre_authorized_code)
    (hcode : (old.apply u).authorization_code = some code) :
    OfferedCode ((backend w).after g tid (.session (.create k tenantId u))) k code := by
  have hext := System.extends_after (M := backend w) g tid (.session (.create k tenantId u))
  rcases hmay with ⟨hpayload, hnone⟩ | ⟨request, code', server, expiresAt, hreq, rfl, hpre, hauth⟩
  · rw [apply_flow_of_none hpayload] at hflow
    rw [apply_code_of_none hnone] at hcode
    exact (hold hflow hcode).extends hext
  · have hrequest : request.flow = .pre_authorized_code := Option.some.inj hflow
    obtain ⟨c, rfl, hdrew⟩ := hpre hrequest
    have hc : c = code := Option.some.inj hcode
    subst hc
    exact ⟨tid, tenantId, request, server, expiresAt, _, hext.request hreq, hrequest,
      hdrew.extends hext, System.after_made _ _ _⟩

/-- **One call keeps the invariant.** -/
theorem offer_after {g : State} {tid : Nat} {op : Call} (hinv : OfferInv w g)
    (hfits : CodeFits g tid op) (hmay : OfferMay g tid op) :
    OfferInv w ((backend w).after g tid op) := by
  have hext := System.extends_after (M := backend w) g tid op
  refine ⟨hinv.drawn.after tid op, fun k s' code hs' hflow hcode => ?_,
    fun t tenantId code s hmade hflow => ?_⟩
  · rcases session_after hs' with ⟨s, hs, rfl | ⟨c, rfl, hc⟩⟩ | ⟨tenantId, u, rfl, -, rfl⟩
    · exact (hinv.rows k s' code hs hflow hcode).extends hext
    · have hid : s.id = k := Table.get_key hs
      cases hc with
      | same => exact (hinv.rows k s' code hs hflow hcode).extends hext
      | counted h => exact (hinv.rows k s code hs hflow hcode).extends hext
      | anonymized => cases hflow
      | @merged id tenantId u h =>
        subst hid
        subst h
        exact offered_create s hmay (fun hf hc => hinv.rows s.id s code hs hf hc) hflow hcode
      | @updated _ u h =>
        -- without an offer in it, an update leaves the flow; a code meets the condition
        have keep (hu : u.credentialPayload = none) (hu' : u.authorization_code = none) :
            OfferedCode ((backend w).after g tid (.session c)) k code := by
          rw [apply_flow_of_none hu] at hflow
          rw [apply_code_of_none hu'] at hcode
          exact (hinv.rows k s code hs hflow hcode).extends hext
        cases c with
        | updateForTenant tenantId id u' =>
          obtain ⟨rfl, htenant, rfl⟩ := h
          have hnone : u'.credentialPayload = none := hmay
          cases hwrite : u'.authorization_code with
          | none => exact keep hnone hwrite
          | some c =>
            rw [apply_flow_of_none hnone] at hflow
            exact absurd hflow (hfits (by rw [hwrite]; rfl) s (hid ▸ hs) htenant)
        | updateUnconsumedForTenant tenantId id u' =>
          obtain ⟨rfl, -⟩ := h
          exact keep hmay.1 hmay.2
        | consumeRequestUri tenantId id e t =>
          obtain ⟨rfl, -⟩ := h
          exact keep rfl rfl
        | changeState tenantId id u' =>
          obtain ⟨rfl, -⟩ := h
          exact keep hmay.1 hmay.2
        | changeStateFrom tenantId id from_ u' =>
          obtain ⟨rfl, -⟩ := h
          exact keep hmay.1 hmay.2
        | _ => exact h.elim
    · exact offered_create { id := k, tenantId, createdAt := g.store.clock } hmay
        (fun hf => nomatch hf) hflow hcode
  · rcases List.mem_cons.mp hmade with heq | hold
    · -- the snapshot is a row of the table
      injection heq with _ hop hres
      subst hop
      have hfind : (SessionCall.findByAuthorizationCode tenantId code).reply g.store.clock
          g.store.sessions = some s := (eq_of_heq hres).symm
      obtain ⟨hget, hmatch⟩ := Table.find_some hfind
      simp only [Bool.and_eq_true, beq_iff_eq] at hmatch
      exact (hinv.rows s.id s code hget hflow hmatch.2).extends hext
    · exact (hinv.found t tenantId code s hold hflow).extends hext

def offers (w : World) : Discipline (backend w) where
  inv := OfferInv w
  rely := fun _ _ _ => True
  admits := CodeFits
  may := OfferMay
  allowed := fun _ => True
  post := fun _ _ _ _ => True
  rely_refl := fun _ _ => trivial
  rely_trans := fun _ _ => trivial
  step := fun hinv _ hfits hmay => ⟨offer_after hinv hfits hmay, fun _ _ => trivial⟩
  arrive := fun {g r} hinv _ =>
    ⟨⟨hinv.drawn.arrive r,
      fun k s code hs hf hc => (hinv.rows k s code hs hf hc).extends (Global.extends_arrive g r),
      fun t tenant code s hm hf =>
        (hinv.found t tenant code s hm hf).extends (Global.extends_arrive g r)⟩,
      fun _ _ => trivial⟩
  pass := fun {g} n hinv =>
    ⟨⟨hinv.drawn.pass n,
      fun k s code hs hf hc => (hinv.rows k s code hs hf hc).extends (System.extends_pass g n),
      fun t tenant code s hm hf =>
        (hinv.found t tenant code s hm hf).extends (System.extends_pass g n)⟩,
      fun _ => trivial⟩

/-! ## The handlers -/

theorem offer_may_query {g : State} {tid : Nat} {c : Call} (h : c.isQuery = true) :
    OfferMay g tid c := by
  rcases c with c | _ | _ | _
  · cases c <;> trivial
  all_goals trivial

theorem offer_may_writes {g : State} {tid : Nat} {r : Request} {c : Call}
    (hr : ∀ tenantId request, r ≠ .createOffer tenantId request) (h : Writes r c) :
    OfferMay g tid c := by
  cases h with
  | routine h =>
    cases h with
    | query h => exact offer_may_query h
    | bookkeeping _ h => exact h.credentialPayload
    | opening _ h => exact .inl ⟨h.credentialPayload, h.authorization_code⟩
    | present _ h => exact ⟨h.credentialPayload, h.authorization_code⟩
    | fetched _ => exact ⟨rfl, rfl⟩
    | interactive _ => trivial
    | hosted _ => trivial
  | offer => exact absurd rfl (hr _ _)
  | push => exact (rfl : (parValues _ _ _ _).credentialPayload = none)
  | pushNew => exact .inl ⟨rfl, rfl⟩
  | issueCode => exact (rfl : (issuedCodeUpdate _ _).credentialPayload = none)
  | bindCode => exact (rfl : (boundCodeUpdate _ _ _).credentialPayload = none)
  | redeem => exact ⟨rfl, rfl⟩
  | cancelled => exact ⟨rfl, rfl⟩
  | notified => exact ⟨rfl, rfl⟩
  | overdue => exact ⟨rfl, rfl⟩
  | _ => trivial

theorem offers_reads {α : Type} {tid : Nat} {r : Request} {g : State} {p : Api α}
    {Q : State → α → Prop} (hg : (offers w).At tid r g) (hp : Reads p)
    (hy : (backend w).Yields tid Q p g) : (offers w).Safe tid Q p g :=
  Safe.of_yields hg hp (fun _ _ _ _ hop _ => offer_may_query hop) hy

/-- **Creating an offer is safe**: the code it puts into its session is the one it drew. -/
theorem safe_createCredentialOffer {tid : Nat} {g : State} {tenantId : String}
    {request : OfferRequest} (hg : (offers w).At tid (.createOffer tenantId request) g) :
    (offers w).Safe tid (fun _ _ => True) (createCredentialOffer tenantId request) g := by
  unfold createCredentialOffer
  refine (offers_reads hg reads_fresh (System.yields_true _)).bind hg fun id g₁ _ hg₁ _ => ?_
  refine (offers_reads hg₁ (reads_ask _ rfl) (System.yields_true _)).bind hg₁
    fun selected g₂ _ hg₂ _ => ?_
  refine (offers_reads hg₂ (reads_newAuthorizationCode _) (yields_newAuthorizationCode _)).bind
    hg₂ fun code g₃ _ hg₃ hcode => Safe.ofExcept fun grants _ => ?_
  refine (offers_reads hg₃ (reads_validateOfferClaims _ _) (System.yields_true _)).bind hg₃
    fun _ g₄ he₄ hg₄ _ => ?_
  refine (offers_reads hg₄ (reads_offerExpiry _ _) (System.yields_true _)).bind hg₄
    fun expiresAt g₅ he₅ hg₅ _ => ?_
  have hcreate : (offers w).Safe tid (fun _ _ => True) (createSession id tenantId
      (offerSession request code selected.2 expiresAt)) g₅ := by
    refine Safe.invoke fun g' hl _ => ⟨?_, fun _ _ => trivial⟩
    have hext : g₃.Extends g' := (he₄.trans he₅).trans hl.hist
    refine .inr ⟨request, code, selected.2, expiresAt, (hg₅.later hl).request, rfl, ?_, hcode.2⟩
    intro hpre
    obtain ⟨c, hc, hdrew⟩ := hcode.1 hpre
    exact ⟨c, hc, hdrew.extends hext⟩
  refine hcreate.bind hg₅ fun session g₆ _ hg₆ _ => ?_
  refine (offers_reads hg₆ (reads_ask _ rfl) (System.yields_true _)).bind hg₆
    fun encoded g₇ _ hg₇ _ => ?_
  have hencode : (updateForTenant tenantId id
      { offer := some encoded.1, offerUrl := some encoded.2 }).Only
      fun op => ∀ g, OfferMay g tid op := only_sessions.mpr fun _ => rfl
  exact (Safe.of_only hg₇ hencode fun g' op _ _ hop _ => hop g').bind hg₇
    fun _ _ _ _ _ => Safe.ret fun _ _ => trivial

/-- **Every request keeps to the discipline.** -/
theorem offers_verified : (offers w).Verified := by
  intro g r _ _ hg
  by_cases hoffer : ∃ tenantId request, r = .createOffer tenantId request
  · obtain ⟨tenantId, request, rfl⟩ := hoffer
    exact (safe_createCredentialOffer hg).bind hg fun _ _ _ _ _ =>
      Safe.ret fun _ _ => trivial
  · refine Safe.of_only hg (program_writes w r) fun g' op _ _ hop _ => ?_
    exact offer_may_writes (fun tenantId request heq => hoffer ⟨tenantId, request, heq⟩) hop

/-! ## Every run -/

/-- **A pre-authorized grant redeems only the code of the offer**, in every run in which
no authorization endpoint writes a code into the session of a pre-authorized offer. -/
theorem redeems_offered_codes (w : World) (st : Store) (ms : Schedule)
    (hempty : st.sessions = Table.empty)
    (hfits : (backend w).Guarded CodeFits (.start st) ms) :
    RedeemsOfferedCodes w ((backend w).run (.start st) ms) := by
  have hstart : (offers w).Holds (Config.start st : Backend) := by
    refine Discipline.holds_start ⟨.start st, fun k s code hs => ?_, fun t tenant code s hm => ?_⟩
    · rw [hempty] at hs
      cases hs
    · cases hm
  have hholds := Discipline.run_holds offers_verified hstart (fun _ _ => trivial) hfits
  intro tid q r hr parsed hparsed hpre
  obtain ⟨p, hp⟩ := token_issued hr
  have heq : p.parsed = parsed := Except.ok.inj (hp.passed.parsed.symm.trans hparsed)
  subst heq
  have hcode := Grant.isRefresh_of_isPreAuthorized hpre
  obtain ⟨code, hcode', -, hfound⟩ := hp.passed.found.code hcode
  obtain ⟨expiry, hredeemed⟩ := hp.redeemed hcode
  have hflow : p.session.flow = some .pre_authorized_code := by
    have hissued := (hp.passed.redeemable hcode).2.1
    rw [codeIssuedForGrant, hpre] at hissued
    simpa using hissued
  have hoffered := hholds.inv.found tid _ _ _ hfound hflow
  refine ⟨code, p.session, _, hcode', hfound, hredeemed, hoffered, fun t req hreq hauth hdrew => ?_⟩
  obtain ⟨t₀, tenantId, request, server, expiresAt, s, hreq₀, -, hdrew₀, -⟩ := hoffered
  have htid : t = t₀ := drew_unique hholds.inv.drawn hdrew hdrew₀
  subst htid
  rw [hreq₀] at hreq
  cases hreq
  cases hauth

/-! ## Redeeming an offer, and redeeming an authorization code in its place -/

namespace PreAuthorizedCodes

open Deployment

/-- A pre-authorized offer is redeemed; a code of another, authorization code offer is
issued meanwhile. -/
def honest : Schedule :=
  offer 0 .pre_authorized_code none ++ offer 1 .authorization_code none ++
  push 2 (unary 3) "verifier" ++ authorize 3 4 ++
  serve 4 (tokenRequest (preAuthorizedGrant 2 none) []) 14

/-- The pushed request names the session of the pre-authorized offer; the code the
authorization endpoint issues for it is redeemed as a pre-authorized code. -/
def downgrade : Schedule :=
  offer 0 .pre_authorized_code none ++ push 1 (unary 1) "verifier" ++ authorize 2 3 ++
  serve 3 (tokenRequest (preAuthorizedGrant 4 none) []) 14

/-- `CodeFits`, evaluated. -/
def codeFits (g : State) (_ : Nat) : Call → Bool
  | .session (.updateForTenant _ id u) =>
    u.authorization_code.isNone ||
      (g.store.sessions.get id).all (·.flow != some .pre_authorized_code)
  | _ => true

theorem codeFits_sound (g : State) (tid : Nat) (op : Call) (h : codeFits g tid op = true) :
    CodeFits g tid op := by
  rcases op with (_ | ⟨tenantId, id, u⟩ | _ | _ | _ | _ | _ | _ | _ | _ | _ | _ | _ | _ | _ | _ |
    _ | _) | _ | _ | _
  case session.updateForTenant =>
    intro hcode s hs _
    have hwrite : u.authorization_code.isNone = false := by
      rw [← Option.not_isSome, hcode]
      rfl
    simpa [codeFits, hs, hwrite] using h
  all_goals trivial

end PreAuthorizedCodes

/-- The honest run redeems the code of the offer. -/
theorem redeems_offered_codes_of_honest :
    RedeemsOfferedCodes (deployment {})
      ((backend (deployment {})).run (.start freshStore) PreAuthorizedCodes.honest) :=
  redeems_offered_codes _ _ _ rfl
    (System.guarded_of_checks PreAuthorizedCodes.codeFits_sound (by decide +kernel))

/-- **In some run a pre-authorized grant redeems a code of the authorization endpoint**:
a pushed request that names the session of a pre-authorized offer has its code written
over the offer's. -/
theorem not_redeems_offered_codes :
    ¬∀ (w : World) (st : Store) (ms : Schedule), st.sessions = Table.empty →
      RedeemsOfferedCodes w ((backend w).run (.start st) ms) := by
  intro h
  have hredeems := h (deployment {}) freshStore PreAuthorizedCodes.downgrade rfl
  have hrequests := System.run_requests (M := backend (deployment {})) (.start freshStore)
    PreAuthorizedCodes.downgrade
  obtain ⟨a, htoken, hanswers⟩ := Deployment.answers_of_any 3 Response.isToken
    (by rw [hrequests]; rfl) (by decide +kernel)
  cases a with
  | token r =>
    obtain ⟨code, s, u, hcode, -, -, -, hnever⟩ := hredeems 3 _ r hanswers _ rfl rfl
    cases hcode
    -- thread 2 is the authorization endpoint, and it drew the code
    exact hnever 2 _ (by rw [hrequests]; rfl) rfl (drew_of_any (by decide +kernel))
  | _ => cases htoken

end Eudiplo
