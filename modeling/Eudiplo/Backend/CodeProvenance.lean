import Eudiplo.Backend.Footprint
import Eudiplo.Backend.Freshness
import Eudiplo.Backend.TokenEvidence
import Eudiplo.Concurrency.RelyGuarantee

/-!
# Where codes come from

Three endpoints write codes into sessions: offers, the authorization endpoint and the interactive
endpoint.  Each writes a code it has drawn itself, so the code in a row names the thread that put
it there; and the authorization endpoint writes its code into the session it has found under its
request_uri.
-/

namespace Eudiplo

open Concurrency Prog Discipline

variable {w : World} {tid : Nat} {g : State} {r : Request}

/-- Thread `tid` found session `id` under the request_uri of the authorization request it
serves, if it serves one. -/
def FoundByUri (g : State) (tid : Nat) (id : String) : Prop :=
  ∀ q, g.requests[tid]? = some (.authorize q) →
    ∃ uri s, q.request_uri = some uri ∧
      g.Made tid (.session (.findByRequestUri q.tenantId uri)) (some s) ∧ s.id = id

/-- **A code is written by the thread that drew it.** -/
def CodeMay (g : State) (tid : Nat) : Call → Prop
  | .session (.create _ _ u) => ∀ c, u.authorization_code = some c → Drew g tid c
  | .session (.updateForTenant _ id u) =>
    ∀ c, u.authorization_code = some c → Drew g tid c ∧ FoundByUri g tid id
  | .session (.updateUnconsumedForTenant _ _ u) | .session (.changeState _ _ u)
  | .session (.changeStateFrom _ _ _ u) => u.authorization_code = none
  | _ => True

def codes (w : World) : Discipline (backend w) where
  inv := DrawnOnce w
  rely := fun _ _ _ => True
  admits := fun _ _ _ => True
  may := CodeMay
  allowed := fun _ => True
  post := fun _ _ _ _ => True
  rely_refl := fun _ _ => trivial
  rely_trans := fun _ _ => trivial
  step := fun hinv _ _ _ => ⟨hinv.after _ _, fun _ _ => trivial⟩
  arrive := fun hinv _ => ⟨hinv.arrive _, fun _ _ => trivial⟩
  pass := fun n hinv => ⟨hinv.pass n, fun _ => trivial⟩

theorem code_may_query {c : Call} (h : c.isQuery = true) : CodeMay g tid c := by
  rcases c with c | _ | _ | _
  · cases c <;> trivial
  all_goals trivial

theorem code_may_of_none {tenantId id : String} {u : SessionUpdate}
    (h : u.authorization_code = none) :
    CodeMay g tid (.session (.updateForTenant tenantId id u)) := by
  intro c hc
  rw [h] at hc
  cases hc

theorem code_may_routine {c : Call} (h : Routine r c) : CodeMay g tid c := by
  cases h with
  | query h => exact code_may_query h
  | bookkeeping _ h => exact code_may_of_none h.authorization_code
  | opening _ h =>
    intro c hc
    rw [h.authorization_code] at hc
    cases hc
  | present _ h => exact h.authorization_code
  | fetched _ => exact (stateUpdate_keepsGrants _).authorization_code
  | interactive _ => trivial
  | hosted _ => trivial

def Request.issuesCodes : Request → Bool
  | .createOffer .. | .authorize _ | .interactiveFollowUp .. => true
  | _ => false

theorem code_may_writes {c : Call} (hr : r.issuesCodes = false) (h : Writes r c) :
    CodeMay g tid c := by
  cases h with
  | routine h => exact code_may_routine h
  | offer => cases hr
  | issueCode => cases hr
  | bindCode => cases hr
  | push => exact code_may_of_none rfl
  | pushNew => exact fun c hc => nomatch hc
  | redeem => exact (rfl : (redeemUpdate _ _).authorization_code = none)
  | cancelled => exact (stateUpdate_keepsGrants _).authorization_code
  | notified => exact (stateUpdate_keepsGrants _).authorization_code
  | overdue => exact (stateUpdate_keepsGrants _).authorization_code
  | _ => trivial

theorem codes_routine {α : Type} {p : Api α} {Q : State → α → Prop}
    (hg : (codes w).At tid r g) (hp : p.Only (Routine r))
    (hy : (backend w).Yields tid Q p g) : (codes w).Safe tid Q p g :=
  Safe.of_yields hg hp (fun _ _ _ _ hop _ => code_may_routine hop) hy

theorem yields_newAuthorizationCode (flow : OfferFlow) :
    (backend w).Yields tid (fun g' code =>
      (flow = .pre_authorized_code → ∃ c, code = some c ∧ Drew g' tid c) ∧
        (flow = .authorization_code → code = none)) (newAuthorizationCode flow) g := by
  cases flow with
  | authorization_code => exact fun _ _ => ⟨fun h => (nomatch h), fun _ => rfl⟩
  | pre_authorized_code =>
    refine yields_fresh.bind fun c g' _ hdrew => ?_
    intro g'' he
    exact ⟨fun _ => ⟨c, rfl, Drew.extends hdrew he⟩, fun h => nomatch h⟩

theorem codes_createCredentialOffer {tenantId : String} {request : OfferRequest}
    (hg : (codes w).At tid (.createOffer tenantId request) g) :
    (codes w).Safe tid (fun _ _ => True) (createCredentialOffer tenantId request) g := by
  unfold createCredentialOffer
  refine (codes_routine hg (reads_fresh.routine _) (System.yields_true _)).bind hg
    fun id g₁ _ hg₁ _ => ?_
  refine (codes_routine hg₁ ((reads_ask _ rfl).routine _) (System.yields_true _)).bind hg₁
    fun selected g₂ _ hg₂ _ => ?_
  refine (codes_routine hg₂ ((reads_newAuthorizationCode _).routine _)
    (yields_newAuthorizationCode _)).bind hg₂ fun code g₃ _ hg₃ hcode => ?_
  refine Safe.ofExcept fun grants _ => ?_
  refine (codes_routine hg₃ ((reads_validateOfferClaims _ _).routine _)
    (System.yields_true _)).bind hg₃ fun _ g₄ he₄ hg₄ _ => ?_
  refine (codes_routine hg₄ ((reads_offerExpiry _ _).routine _) (System.yields_true _)).bind hg₄
    fun expiresAt g₅ he₅ hg₅ _ => ?_
  have hcreate : (codes w).Safe tid (fun _ _ => True) (createSession id tenantId
      (offerSession request code selected.2 expiresAt)) g₅ := by
    refine Safe.invoke fun g' hl _ => ⟨fun c hc => ?_, fun _ _ => trivial⟩
    have hext : g₃.Extends g' := (he₄.trans he₅).trans hl.hist
    have hdrawn : code = some c := hc
    cases hflow : request.flow with
    | authorization_code =>
      rw [hcode.2 hflow] at hdrawn
      cases hdrawn
    | pre_authorized_code =>
      obtain ⟨c', hc', hdrew⟩ := hcode.1 hflow
      cases hc'.symm.trans hdrawn
      exact hdrew.extends hext
  refine hcreate.bind hg₅ fun session g₆ _ hg₆ _ => ?_
  refine (codes_routine hg₆ ((reads_ask _ rfl).routine _) (System.yields_true _)).bind hg₆
    fun encoded g₇ _ hg₇ _ => ?_
  have hencode : (updateForTenant tenantId id
      { offer := some encoded.1, offerUrl := some encoded.2 }).Only
      (Routine (.createOffer tenantId request)) :=
    only_sessions.mpr (.bookkeeping rfl (.of_eq rfl) rfl (.inl rfl))
  exact (codes_routine hg₇ hencode (System.yields_true _)).bind hg₇
    fun _ _ _ _ _ => Safe.ret fun _ _ => trivial

theorem yields_getByRequestUri (tenantId uri : String) (e : ApiError) :
    (backend w).Yields tid (fun g' s =>
      g'.Made tid (.session (.findByRequestUri tenantId uri)) (some s))
      (orThrow (getByRequestUri tenantId uri) e) g := by
  refine yields_orThrow (fun _ _ _ he h => h.extends he) ?_
  refine (yields_lookup (fun k g' s => g'.Made tid (.session (.findByRequestUri tenantId k)) s)
    (fun _ _ _ _ he h => h.extends he) fun _ _ => yields_sessions _).imp ?_
  rintro s g' - ⟨k, hk, -, hmade⟩
  cases hk
  exact hmade

theorem codes_authorizePushedRequest {q : AuthorizeRequest}
    (hg : (codes w).At tid (.authorize q) g) :
    (codes w).Safe tid (fun _ _ => True) (authorizePushedRequest w q) g := by
  unfold authorizePushedRequest
  refine Safe.ensure fun huri => ?_
  obtain ⟨uri, hsome, -⟩ := truthy_iff.mp huri
  rw [hsome]
  refine (codes_routine hg ((reads_getByRequestUri _ _).routine _)
    (yields_getByRequestUri _ _ _)).bind hg
    fun s g₁ _ hg₁ hfound => Safe.ofExcept fun redirectUri _ => ?_
  have htarget {g' : State} (he : g₁.Extends g') (hg' : (codes w).At tid (.authorize q) g') :
      FoundByUri g' tid s.id := by
    intro q' hq'
    cases hg'.request.symm.trans hq'
    exact ⟨uri, s, hsome, hfound.extends he, rfl⟩
  -- the code goes into the session that was found, whatever happens in between
  have hissue {g' : State} (he : g₁.Extends g') (hg' : (codes w).At tid (.authorize q) g') :
      (codes w).Safe tid (fun _ _ => True) (issueCode q.tenantId s) g' := by
    unfold issueCode
    refine (codes_routine hg' (reads_fresh.routine _) yields_fresh).bind hg'
      fun code g₂ he₂ hg₂ hdrew => ?_
    refine (codes_routine hg₂ (reads_now.routine _) (System.yields_true _)).bind hg₂
      fun t g₃ he₃ hg₃ _ => ?_
    have hwrite : (codes w).Safe tid (fun _ _ => True) (updateForTenant q.tenantId s.id
        (issuedCodeUpdate code t)) g₃ := by
      refine Safe.invoke fun g₄ hl _ => ⟨fun c hc => ?_, fun _ _ => trivial⟩
      cases hc
      exact ⟨Drew.extends hdrew (he₃.trans hl.hist),
        htarget (((he.trans he₂).trans he₃).trans hl.hist) (hg₃.later hl)⟩
    exact hwrite.bind hg₃ fun _ _ _ _ _ => Safe.ret fun _ _ => trivial
  have hredeem {g' : State} (hg' : (codes w).At tid (.authorize q) g') :
      (codes w).Safe tid (fun _ _ => True) (redeemRequestUri q.tenantId s) g' := by
    unfold redeemRequestUri
    refine (codes_routine hg' (reads_now.routine _) (System.yields_true _)).bind hg'
      fun t g₂ _ hg₂ _ => ?_
    split
    · exact Safe.invoke fun _ _ _ => ⟨trivial, fun _ _ => trivial⟩
    · exact fun _ _ => trivial
  split
  · exact fun _ _ => trivial
  · refine (codes_routine hg₁ (reads_now.routine _) (System.yields_true _)).bind hg₁
      fun t g₂ he₂ hg₂ _ => ?_
    split
    · exact fun _ _ => trivial
    · trivial
    · refine (hredeem hg₂).bind hg₂ fun redeemed g₃ he₃ hg₃ _ => ?_
      split
      · exact (hissue (he₂.trans he₃) hg₃).bind hg₃ fun _ _ _ _ _ =>
          Safe.ret fun _ _ => trivial
      · exact fun _ _ => trivial

theorem codes_issueAuthorizationCode {tenantId : String} {q : InteractiveFollowUpRequest}
    {s : InteractiveAuthSession} (hg : (codes w).At tid (.interactiveFollowUp tenantId q) g) :
    (codes w).Safe tid (fun _ _ => True) (issueAuthorizationCode s) g := by
  unfold issueAuthorizationCode
  refine (codes_routine hg (reads_fresh.routine _) yields_fresh).bind hg
    fun code g₁ _ hg₁ hdrew => ?_
  have hmark : (interactiveSessions (.update s.id
      { authorizationCode := some code, status := some .code_issued })).Only
      (Routine (.interactiveFollowUp tenantId q)) :=
    only_interactiveSessions.mpr (.interactive rfl)
  refine (codes_routine hg₁ hmark (System.yields_true _)).bind hg₁ fun _ g₂ he₂ hg₂ _ => ?_
  have hbind : (codes w).Safe tid (fun _ _ => True) (bindCodeToOffer s code) g₂ := by
    unfold bindCodeToOffer
    refine (codes_routine hg₂ (reads_now.routine _) (System.yields_true _)).bind hg₂
      fun t g₃ he₃ hg₃ _ => ?_
    refine Safe.invoke fun g₄ hl _ => ⟨fun c hc => ?_, fun _ _ => trivial⟩
    cases hc
    refine ⟨Drew.extends hdrew ((he₂.trans he₃).trans hl.hist), fun q' hq' => ?_⟩
    cases (hg₃.later hl).request.symm.trans hq'
  have honly : (codes w).Safe tid (fun _ _ => True)
      (onlyIf (truthy s.issuerState) 0 (bindCodeToOffer s code)) g₂ := by
    cases truthy s.issuerState with
    | true => exact hbind
    | false => exact fun _ _ => trivial
  exact honly.bind hg₂ fun _ _ _ _ _ => Safe.ret fun _ _ => trivial

theorem codes_completeStep {tenantId : String} {q : InteractiveFollowUpRequest}
    {s : InteractiveAuthSession} {type : InteractionType} {data : Option String}
    (hg : (codes w).At tid (.interactiveFollowUp tenantId q) g) :
    (codes w).Safe tid (fun _ _ => True) (completeStep w s type data tenantId) g := by
  have hupdate (u : InteractiveAuthSessionUpdate) :
      (interactiveSessions (.update s.id u)).Only (Routine (.interactiveFollowUp tenantId q)) :=
    only_interactiveSessions.mpr (.interactive rfl)
  unfold completeStep
  refine (codes_routine hg (reads_now.routine _) (System.yields_true _)).bind hg
    fun completedAt g₁ _ hg₁ _ => ?_
  unfold advanceOrComplete
  split
  · refine (codes_routine hg₁ (hupdate _) (System.yields_true _)).bind hg₁ fun _ g₂ _ hg₂ _ => ?_
    exact codes_routine hg₂ (routine_executeIaeAction rfl rfl rfl _ _ _ _ _)
      (System.yields_true _)
  · refine (codes_routine hg₁ (hupdate _) (System.yields_true _)).bind hg₁ fun _ g₂ _ hg₂ _ => ?_
    exact codes_issueAuthorizationCode hg₂

theorem codes_handleFollowUpRequest {tenantId : String} {q : InteractiveFollowUpRequest}
    (hg : (codes w).At tid (.interactiveFollowUp tenantId q) g) :
    (codes w).Safe tid (fun _ _ => True) (handleFollowUpRequest w tenantId q) g := by
  unfold handleFollowUpRequest
  refine (codes_routine hg (routine_validateAuthSession rfl _ _) (System.yields_true _)).bind hg
    fun validated g₁ _ hg₁ _ => ?_
  cases validated with
  | error response => exact fun _ _ => trivial
  | ok s =>
    simp only
    split
    · exact fun _ _ => trivial
    · split
      · split
        · exact fun _ _ => trivial
        · refine (codes_routine hg₁ (routine_handleOpenid4vpResponse w tenantId q _ s)
            (System.yields_true _)).bind hg₁ fun result g₂ _ hg₂ _ => ?_
          cases result with
          | error response => exact fun _ _ => trivial
          | ok _ => exact codes_completeStep hg₂
      · split
        · split
          · exact fun _ _ => trivial
          · split
            · exact fun _ _ => trivial
            · exact codes_completeStep hg₁
        · exact fun _ _ => trivial

/-- **Every request keeps to the discipline.** -/
theorem codes_verified : (codes w).Verified := by
  intro g r _ _ hg
  by_cases hr : r.issuesCodes = true
  · cases r with
    | createOffer tenantId request =>
      exact (codes_createCredentialOffer hg).bind hg fun _ _ _ _ _ =>
        Safe.ret fun _ _ => trivial
    | authorize q =>
      exact (codes_authorizePushedRequest hg).bind hg fun _ _ _ _ _ =>
        Safe.ret fun _ _ => trivial
    | interactiveFollowUp tenantId q =>
      have hanswer : (codes w).Safe g.requests.length (fun _ _ => True)
          (interactiveProgram (handleFollowUpRequest w tenantId q))
          (g.arrive (.interactiveFollowUp tenantId q)) := by
        refine (codes_handleFollowUpRequest hg).attempt.bind hg fun result _ _ _ _ => ?_
        cases result <;> exact fun _ _ => trivial
      exact hanswer.bind hg fun _ _ _ _ _ => Safe.ret fun _ _ => trivial
    | _ => cases hr
  · rw [Bool.not_eq_true] at hr
    exact Safe.of_only hg (program_writes w r) fun _ _ _ _ hop _ =>
      code_may_writes hr hop

theorem drawn_once (w : World) (st : Store) (ms : Schedule) :
    DrawnOnce w ((backend w).run (.start st) ms).global :=
  (Discipline.run_holds codes_verified (Discipline.holds_start (Mint.Once.start st))
    (fun _ _ => trivial) (System.guarded_of_forall (fun _ _ _ => trivial) _ _)).inv

/-- **Provenance of codes**: along every schedule values are drawn once, every call is one
its request can make, and a code is written by the thread that drew it. -/
theorem codes_guarded (w : World) (st : Store) (ms : Schedule) :
    (backend w).Guarded (fun g tid op => DrawnOnce w g ∧ CodeMay g tid op ∧
      ∃ r, g.requests[tid]? = some r ∧ Writes r op) (.start st) ms := by
  have hcodes := Discipline.run_guarded (codes_verified (w := w))
    (Discipline.holds_start (Mint.Once.start st)) (fun _ _ => trivial)
    (System.guarded_of_forall (fun _ _ _ => trivial) _ ms)
  have hfoot := System.Footed.guarded (M := backend w) (program_writes w)
    (System.footed_start Writes st) ms
  exact (hcodes.and hfoot).mono fun _ _ _ h => ⟨h.1.1, h.1.2, h.2⟩

end Eudiplo
