import Eudiplo.Revocation.CrlValidation

/-!
# What an answer about revocation rests on

A CRL from the cache is used before its `nextUpdate` only, but one that has just been fetched
is used whatever its `nextUpdate`; and a result is kept for the certificate alone, though it
depends on the chain that was presented.  If no server answers with an outdated CRL, then a
certificate that is declared not revoked is not listed by a current CRL of its issuer; and if
every result that is taken from the cache was found with the chain of the call, the answer
does not depend on the chains of earlier calls (`answers_rest`).
-/

namespace Eudiplo

variable {Cert Crl : Type} (x : X509Library Cert Crl)

/-! ## The claim -/

/-- **The certificate is not revoked** by what a call used: a CRL that its own issuer signed,
that was current when the call used it, and that does not list it. -/
structure NotRevokedBy (cert : Cert) (call : CrlCall Crl) (issuer : Cert) (crl : Crl) : Prop where
  checked : x.parseCertificate call.certPem = .ok cert
  presented : ∃ pem ∈ call.chainPems, x.parseCertificate pem = .ok issuer
  named : x.subject issuer = x.issuer cert ∧ x.verifies cert issuer = true
  signed : x.crlIssuer crl = x.issuer cert ∧ x.crlVerifies crl issuer = true
  current : ∃ i, ∃ usedAt,
    (usedAt = (call.visit i).lookedUpAt ∨ usedAt = (call.visit i).checkedAt) ∧
    ∀ nextUpdate, x.nextUpdate crl = some nextUpdate → usedAt < nextUpdate
  unlisted : ∀ entry ∈ x.entries crl, entry.serialNumber ≠ x.serialNumber cert

/-- A certificate is declared not revoked only if a call made so far found that. -/
def RestsOnCurrentCrl (calls : List (CrlCall Crl)) (call : CrlCall Crl) : Prop :=
  ∀ cert, x.parseCertificate call.certPem = .ok cert →
    extractCrlDistributionPoints x cert ≠ [] → x.isSelfSigned cert = false →
    (crlAnswer x calls call).isValid = true →
      ∃ earlier ∈ calls ++ [call], ∃ issuer crl, NotRevokedBy x cert earlier issuer crl

def CrlValidationResult.verdict (result : CrlValidationResult) : CrlValidationResult :=
  { result with fromCache := none }

/-- The call, or one that presents another chain with the certificate. -/
def SameButChain (cert : Cert) (call call' : CrlCall Crl) : Prop :=
  call' = call ∨ x.parseCertificate call.certPem = .ok cert ∧
    ∃ chainPems, call' = { call with chainPems }

/-! ## The conditions -/

/-- **No server answers with an outdated CRL** of the certificate's issuer. -/
def ServesCurrent (call : CrlCall Crl) : Prop :=
  ∀ cert issuer, x.parseCertificate call.certPem = .ok cert →
    findIssuer x cert call.chainPems = some issuer →
    ∀ i crl, (call.visit i).response = .ok crl → verifyCrl x crl cert issuer = .ok () →
      ∀ nextUpdate, x.nextUpdate crl = some nextUpdate → (call.visit i).checkedAt < nextUpdate

/-- The caches, and the call that found each result that is kept. -/
structure CrlHistory (Crl : Type) where
  state : CrlState Crl := {}
  foundBy : String → Option (CrlCall Crl) := fun _ => none

def keepsResult (st : CrlState Crl) (call : CrlCall Crl) : Option String :=
  match x.parseCertificate call.certPem with
  | .error _ => none
  | .ok cert =>
    if (cachedResult x st cert call.askedAt).isNone &&
        !(extractCrlDistributionPoints x cert).isEmpty && !x.isSelfSigned cert then
      some (x.thumbprint cert)
    else none

def CrlHistory.step (h : CrlHistory Crl) (call : CrlCall Crl) : CrlHistory Crl where
  state := (checkCertificateRevocation x h.state call).2
  foundBy :=
    match keepsResult x h.state call with
    | some key => Function.update h.foundBy key (some call)
    | none => h.foundBy

def crlHistory (calls : List (CrlCall Crl)) : CrlHistory Crl := calls.foldl (CrlHistory.step x) {}

/-- **Undisturbed**: a result taken from the cache was found with the chain of this call, and
a CRL taken from the cache is the one the server would still answer with. -/
structure Undisturbed (h : CrlHistory Crl) (call : CrlCall Crl) : Prop where
  sameChain : ∀ cert, x.parseCertificate call.certPem = .ok cert →
    (cachedResult x h.state cert call.askedAt).isSome = true →
    ∀ found, h.foundBy (x.thumbprint cert) = some found → found.chainPems = call.chainPems
  stillServed : ∀ cert, x.parseCertificate call.certPem = .ok cert →
    ∀ i url cached, (extractCrlDistributionPoints x cert)[i]? = some url →
      validCached h.state.crlCache url (call.visit i).lookedUpAt = some cached →
      (call.visit i).response = .ok cached.crl

def UndisturbedRun (calls : List (CrlCall Crl)) : Prop :=
  ∀ before call after, calls = before ++ call :: after → Undisturbed x (crlHistory x before) call

/-- The answer is the same in every undisturbed run that differs only in the chains presented
earlier with the certificate. -/
def IndependentOfChains (calls : List (CrlCall Crl)) (call : CrlCall Crl) : Prop :=
  ∀ cert, x.parseCertificate call.certPem = .ok cert →
    ∀ calls', List.Forall₂ (SameButChain x cert) calls calls' →
      UndisturbedRun x (calls' ++ [call]) →
        (crlAnswer x calls' call).verdict = (crlAnswer x calls call).verdict

namespace CrlAnswers

variable {x} {cert issuer : Cert} {crl : Crl} {call : CrlCall Crl} {st : CrlState Crl}
  {cache : String → Option (CachedCrl Crl)} {url : String}

/-! ## The check, case by case -/

structure IsChecked (x : X509Library Cert Crl) (call : CrlCall Crl) (cert : Cert) : Prop where
  parsed : x.parseCertificate call.certPem = .ok cert
  urls : extractCrlDistributionPoints x cert ≠ []
  notSelfSigned : x.isSelfSigned cert = false

theorem check_hit (hparsed : x.parseCertificate call.certPem = .ok cert) {cached : CachedResult}
    (hhit : cachedResult x st cert call.askedAt = some cached) :
    checkCertificateRevocation x st call = ({ cached.result with fromCache := some true }, st) := by
  simp only [checkCertificateRevocation, hparsed, hhit]

theorem check_miss (h : IsChecked x call cert)
    (hmiss : cachedResult x st cert call.askedAt = none) :
    checkCertificateRevocation x st call = ((checkWithIssuer x st cert call).1,
      { st with crlCache := (checkWithIssuer x st cert call).2 }.store (x.thumbprint cert)
        (checkWithIssuer x st cert call).1 call.storedAt) := by
  have hurls : (extractCrlDistributionPoints x cert).isEmpty = false := by
    simpa [List.isEmpty_eq_false_iff] using h.urls
  simp only [checkCertificateRevocation, h.parsed, hmiss, hurls, h.notSelfSigned]
  rfl

theorem store_cache (st : CrlState Crl) (key other : String) (result : CrlValidationResult)
    (timestamp : Time) : (st.store key result timestamp).certValidationCache other =
      if other = key then some { result, timestamp } else st.certValidationCache other :=
  Function.update_apply ..

theorem keepsResult_cases (st : CrlState Crl) (call : CrlCall Crl) :
    (keepsResult x st call = none ∧ (checkCertificateRevocation x st call).2 = st) ∨
    ∃ cert, IsChecked x call cert ∧ cachedResult x st cert call.askedAt = none ∧
      keepsResult x st call = some (x.thumbprint cert) := by
  cases hparsed : x.parseCertificate call.certPem with
  | error message => exact .inl (by simp [keepsResult, checkCertificateRevocation, hparsed])
  | ok cert =>
    cases hhit : cachedResult x st cert call.askedAt with
    | some cached =>
      exact .inl ⟨by simp [keepsResult, hparsed, hhit], by rw [check_hit hparsed hhit]⟩
    | none =>
      by_cases hurls : extractCrlDistributionPoints x cert = []
      · exact .inl (by simp [keepsResult, checkCertificateRevocation, hparsed, hhit, hurls])
      · cases hself : x.isSelfSigned cert with
        | true =>
          exact .inl (by
            simp [keepsResult, checkCertificateRevocation, hparsed, hhit, hurls, hself])
        | false =>
          exact .inr ⟨cert, ⟨hparsed, hurls, hself⟩, hhit,
            by simp [keepsResult, hparsed, hhit, hurls, hself]⟩

theorem findIssuer_some {chainPems : List String} (h : findIssuer x cert chainPems = some issuer) :
    (∃ pem ∈ chainPems, x.parseCertificate pem = .ok issuer) ∧
      x.subject issuer = x.issuer cert ∧ x.verifies cert issuer = true := by
  obtain ⟨pem, hpem, hfound⟩ := List.exists_of_findSome?_eq_some h
  cases hparsed : x.parseCertificate pem with
  | error message => simp [hparsed] at hfound
  | ok candidate =>
    simp only [hparsed] at hfound
    split at hfound
    · rename_i hissued
      obtain rfl := Option.some.inj hfound
      simp only [Bool.and_eq_true, beq_iff_eq] at hissued
      exact ⟨⟨pem, hpem, hparsed⟩, hissued⟩
    · cases hfound

theorem verifyCrl_ok (h : verifyCrl x crl cert issuer = .ok ()) :
    x.crlIssuer crl = x.issuer cert ∧ x.crlVerifies crl issuer = true := by
  unfold verifyCrl at h
  split at h
  · cases h
  · rename_i hissuer
    split at h
    · cases h
    · split at h
      · cases h
      · rename_i hsigned
        exact ⟨by simpa using hissuer, by simpa using hsigned⟩

/-! ## What a CRL was used for -/

/-- The next update of every cached CRL is its own. -/
def CachesOwnUpdate (x : X509Library Cert Crl) (cache : String → Option (CachedCrl Crl)) : Prop :=
  ∀ url cached, cache url = some cached → cached.nextUpdate = x.nextUpdate cached.crl

/-- The CRL was current when the visit used it, or is what the server answered. -/
def UsedBy (x : X509Library Cert Crl) (visit : CrlVisit Crl) (crl : Crl) : Prop :=
  (∀ nextUpdate, x.nextUpdate crl = some nextUpdate → visit.lookedUpAt < nextUpdate) ∨
    visit.response = .ok crl

theorem validCached_current (h : CachesOwnUpdate x cache) {cached : CachedCrl Crl} {now : Time}
    (hcached : validCached cache url now = some cached) {nextUpdate : Time}
    (hnext : x.nextUpdate cached.crl = some nextUpdate) : now < nextUpdate := by
  obtain ⟨hstored, hvalid⟩ := Option.filter_eq_some_iff.mp hcached
  have hown : cached.nextUpdate = some nextUpdate := (h url cached hstored).trans hnext
  simpa [CachedCrl.isCacheValid, hown] using hvalid

/-- **A CRL that is used has been verified**; it is from the cache or from the server. -/
theorem getVerifiedCrl_cases (h : CachesOwnUpdate x cache) (url : String) (cert issuer : Cert)
    (visit : CrlVisit Crl) :
    CachesOwnUpdate x (getVerifiedCrl x cache url cert issuer visit).2 ∧
      ∀ crl fromCache, (getVerifiedCrl x cache url cert issuer visit).1 = .ok (crl, fromCache) →
        verifyCrl x crl cert issuer = .ok () ∧ UsedBy x visit crl := by
  unfold getVerifiedCrl
  split
  · rename_i cached hcached
    refine ⟨h, fun crl fromCache hok => ?_⟩
    cases hverified : verifyCrl x cached.crl cert issuer with
    | error message => simp [hverified, Except.map] at hok
    | ok u =>
      simp only [hverified, Except.map, Except.ok.injEq, Prod.mk.injEq] at hok
      obtain ⟨rfl, -⟩ := hok
      exact ⟨hverified, .inl fun nextUpdate hnext => validCached_current h hcached hnext⟩
  · split
    · exact ⟨h, nofun⟩
    · rename_i served hserved
      split
      · exact ⟨h, nofun⟩
      · rename_i hverified
        refine ⟨fun other cached hcached => ?_, fun crl fromCache hok => ?_⟩
        · dsimp only at hcached
          by_cases hsame : other = url
          · subst hsame
            rw [Function.update_self] at hcached
            cases hcached
            rfl
          · rw [Function.update_of_ne hsame] at hcached
            exact h other cached hcached
        · simp only [Except.ok.injEq, Prod.mk.injEq] at hok
          obtain ⟨rfl, -⟩ := hok
          exact ⟨hverified, .inr hserved⟩

theorem checkCrlUrls_cases {visit : Nat → CrlVisit Crl} {urls : List String} {i : Nat}
    (h : CachesOwnUpdate x cache) :
    CachesOwnUpdate x (checkCrlUrls x cert issuer visit urls i cache).2 ∧
      ∀ result, (checkCrlUrls x cert issuer visit urls i cache).1 = some result →
        ∃ j crl fromCache, result = checkAgainstCrl x cert crl fromCache ∧
          verifyCrl x crl cert issuer = .ok () ∧ UsedBy x (visit j) crl := by
  induction urls generalizing i cache with
  | nil => exact ⟨h, nofun⟩
  | cons url urls ih =>
    obtain ⟨hkeeps, hused⟩ := getVerifiedCrl_cases h url cert issuer (visit i)
    unfold checkCrlUrls
    split
    · rename_i crl fromCache cache' heq
      rw [heq] at hkeeps hused
      refine ⟨hkeeps, fun result hresult => ?_⟩
      obtain ⟨hverified, hby⟩ := hused crl fromCache rfl
      exact ⟨i, crl, fromCache, (Option.some.inj hresult).symm, hverified, hby⟩
    · rename_i message cache' heq
      rw [heq] at hkeeps
      exact ih hkeeps

theorem checkAgainstCrl_isValid {fromCache : Bool}
    (h : (checkAgainstCrl x cert crl fromCache).isValid = true) :
    ∀ entry ∈ x.entries crl, entry.serialNumber ≠ x.serialNumber cert := by
  unfold checkAgainstCrl at h
  split at h
  · rename_i hnone
    intro entry hentry
    simpa using List.find?_eq_none.mp hnone entry hentry
  · cases h

/-- **A certificate that a check declares valid** is not revoked by what the check used. -/
theorem checkWithIssuer_isValid (h : CachesOwnUpdate x st.crlCache)
    (hserves : ServesCurrent x call) (hchecked : IsChecked x call cert)
    (hvalid : (checkWithIssuer x st cert call).1.isValid = true) :
    ∃ issuer crl, NotRevokedBy x cert call issuer crl := by
  unfold checkWithIssuer at hvalid
  split at hvalid
  · cases hvalid
  · rename_i issuer hissuer
    dsimp only at hvalid
    cases hresult : (checkCrlUrls x cert issuer call.visit (extractCrlDistributionPoints x cert) 0
      st.crlCache).1 with
    | none =>
      rw [hresult] at hvalid
      cases hvalid
    | some result =>
      rw [hresult] at hvalid
      obtain ⟨i, crl, fromCache, rfl, hverified, hused⟩ := (checkCrlUrls_cases h).2 result hresult
      obtain ⟨hpresented, hnamed⟩ := findIssuer_some hissuer
      refine ⟨issuer, crl, hchecked.parsed, hpresented, hnamed, verifyCrl_ok hverified, ⟨i, ?_⟩,
        checkAgainstCrl_isValid hvalid⟩
      rcases hused with hcurrent | hserved
      · exact ⟨_, .inl rfl, hcurrent⟩
      · exact ⟨_, .inr rfl, hserves cert issuer hchecked.parsed hissuer i crl hserved hverified⟩

theorem checkWithIssuer_cache (h : CachesOwnUpdate x st.crlCache) (cert : Cert)
    (call : CrlCall Crl) : CachesOwnUpdate x (checkWithIssuer x st cert call).2 := by
  unfold checkWithIssuer
  split
  · exact h
  · exact (checkCrlUrls_cases h).1

/-! ## What every answer of a run rests on -/

/-- **The invariant** of the caches after some calls: whatever was found valid was not revoked
by what one of the calls used. -/
structure Sound (x : X509Library Cert Crl) (calls : List (CrlCall Crl)) (st : CrlState Crl) :
    Prop where
  crls : CachesOwnUpdate x st.crlCache
  results : ∀ cert kept, st.certValidationCache (x.thumbprint cert) = some kept →
    kept.result.isValid = true →
      ∃ call ∈ calls, ∃ issuer crl, NotRevokedBy x cert call issuer crl

theorem Sound.answer {calls : List (CrlCall Crl)} (h : Sound x calls st)
    (hserves : ServesCurrent x call) (hchecked : IsChecked x call cert)
    (hvalid : (checkCertificateRevocation x st call).1.isValid = true) :
    ∃ earlier ∈ calls ++ [call], ∃ issuer crl, NotRevokedBy x cert earlier issuer crl := by
  cases hhit : cachedResult x st cert call.askedAt with
  | some cached =>
    rw [check_hit hchecked.parsed hhit] at hvalid
    obtain ⟨earlier, hearlier, hrests⟩ :=
      h.results cert cached (Option.filter_eq_some_iff.mp hhit).1 hvalid
    exact ⟨earlier, List.mem_append_left _ hearlier, hrests⟩
  | none =>
    rw [check_miss hchecked hhit] at hvalid
    exact ⟨call, by simp, checkWithIssuer_isValid h.crls hserves hchecked hvalid⟩

/-- **Every call keeps the invariant.** -/
theorem Sound.step {calls : List (CrlCall Crl)} (h : Sound x calls st)
    (hserves : ServesCurrent x call) :
    Sound x (calls ++ [call]) (checkCertificateRevocation x st call).2 := by
  have hbefore : Sound x (calls ++ [call]) st := ⟨h.crls, fun cert kept hkept hvalid => by
    obtain ⟨earlier, hearlier, hrests⟩ := h.results cert kept hkept hvalid
    exact ⟨earlier, List.mem_append_left _ hearlier, hrests⟩⟩
  rcases keepsResult_cases (x := x) st call with ⟨-, hsame⟩ | ⟨cert, hchecked, hmiss, -⟩
  · rwa [hsame]
  · rw [check_miss hchecked hmiss]
    refine ⟨checkWithIssuer_cache h.crls cert call, fun other kept hkept hvalid => ?_⟩
    rw [store_cache] at hkept
    split at hkept
    · rename_i hsame
      obtain rfl := x.thumbprint_injective hsame
      cases hkept
      exact ⟨call, by simp, checkWithIssuer_isValid h.crls hserves hchecked hvalid⟩
    · exact hbefore.results other kept hkept hvalid

theorem crlRun_concat (calls : List (CrlCall Crl)) (call : CrlCall Crl) :
    crlRun x (calls ++ [call]) = (checkCertificateRevocation x (crlRun x calls) call).2 := by
  simp [crlRun]

theorem sound_run {calls : List (CrlCall Crl)} (hserves : ∀ call ∈ calls, ServesCurrent x call) :
    Sound x calls (crlRun x calls) := by
  induction calls using List.reverseRecOn with
  | nil => exact ⟨nofun, nofun⟩
  | append_singleton calls call ih =>
    rw [crlRun_concat]
    exact (ih fun c hc => hserves c (List.mem_append_left _ hc)).step (hserves call (by simp))

theorem restsOnCurrentCrl {calls : List (CrlCall Crl)} {call : CrlCall Crl}
    (hserves : ∀ c ∈ calls ++ [call], ServesCurrent x c) : RestsOnCurrentCrl x calls call :=
  fun _ hparsed hurls hself hvalid =>
    (sound_run fun c hc => hserves c (List.mem_append_left _ hc)).answer
      (hserves call (by simp)) ⟨hparsed, hurls, hself⟩ hvalid

/-! ## The answer without caches -/

def freshAnswer (x : X509Library Cert Crl) (call : CrlCall Crl) : CrlValidationResult :=
  (checkCertificateRevocation x {} call).1

/-- The cached CRLs the visits meet are those the servers answer with. -/
def StillServes (visit : Nat → CrlVisit Crl) (urls : List String) (i : Nat)
    (cache : String → Option (CachedCrl Crl)) : Prop :=
  ∀ j url cached, urls[j]? = some url →
    validCached cache url (visit (i + j)).lookedUpAt = some cached →
      (visit (i + j)).response = .ok cached.crl

theorem verdict_checkAgainstCrl (cert : Cert) (crl : Crl) (fromCache fromCache' : Bool) :
    (checkAgainstCrl x cert crl fromCache).verdict =
      (checkAgainstCrl x cert crl fromCache').verdict := by
  unfold checkAgainstCrl
  split <;> rfl

theorem getVerifiedCrl_alike (x : X509Library Cert Crl) (cert issuer : Cert)
    {visit : CrlVisit Crl}
    (hserves : ∀ cached, validCached cache url visit.lookedUpAt = some cached →
      visit.response = .ok cached.crl) :
    (∃ crl fromCache fromCache' cache' cache'',
      getVerifiedCrl x cache url cert issuer visit = (.ok (crl, fromCache), cache') ∧
      getVerifiedCrl x (fun _ => none) url cert issuer visit = (.ok (crl, fromCache'), cache'')) ∨
    ∃ message message', getVerifiedCrl x cache url cert issuer visit = (.error message, cache) ∧
      getVerifiedCrl x (fun _ => none) url cert issuer visit =
        (.error message', fun _ => none) := by
  have hempty : validCached (fun _ => none : String → Option (CachedCrl Crl)) url
      visit.lookedUpAt = none := rfl
  cases hcached : validCached cache url visit.lookedUpAt with
  | some cached =>
    have hserved := hserves cached hcached
    cases hverified : verifyCrl x cached.crl cert issuer with
    | error message =>
      exact .inr ⟨message, message, by simp [getVerifiedCrl, hcached, hverified, Except.map],
        by simp [getVerifiedCrl, hempty, hserved, hverified]⟩
    | ok u =>
      exact .inl ⟨cached.crl, true, false, cache, _,
        by simp [getVerifiedCrl, hcached, hverified, Except.map],
        by simp only [getVerifiedCrl, hempty, hserved, hverified]; rfl⟩
  | none =>
    cases hserved : visit.response with
    | error message =>
      exact .inr ⟨_, _, by simp only [getVerifiedCrl, hcached, hserved]; rfl,
        by simp only [getVerifiedCrl, hempty, hserved]; rfl⟩
    | ok crl =>
      cases hverified : verifyCrl x crl cert issuer with
      | error message =>
        exact .inr ⟨message, message, by simp [getVerifiedCrl, hcached, hserved, hverified],
          by simp [getVerifiedCrl, hempty, hserved, hverified]⟩
      | ok u =>
        exact .inl ⟨crl, false, false, _, _,
          by simp only [getVerifiedCrl, hcached, hserved, hverified]; rfl,
          by simp only [getVerifiedCrl, hempty, hserved, hverified]; rfl⟩

theorem checkCrlUrls_alike {visit : Nat → CrlVisit Crl} {urls : List String} {i : Nat}
    (hserves : StillServes visit urls i cache) :
    (checkCrlUrls x cert issuer visit urls i cache).1.map CrlValidationResult.verdict =
      (checkCrlUrls x cert issuer visit urls i fun _ => none).1.map
        CrlValidationResult.verdict := by
  induction urls generalizing i with
  | nil => rfl
  | cons url urls ih =>
    have hfirst (cached : CachedCrl Crl)
        (h : validCached cache url (visit i).lookedUpAt = some cached) :
        (visit i).response = .ok cached.crl := hserves 0 url cached rfl h
    have hrest : StillServes visit urls (i + 1) cache := fun j url' cached hurl hcached => by
      have hnext : i + 1 + j = i + (j + 1) := by omega
      rw [hnext] at hcached ⊢
      exact hserves (j + 1) url' cached hurl hcached
    unfold checkCrlUrls
    rcases getVerifiedCrl_alike x cert issuer hfirst with
      ⟨crl, fromCache, fromCache', cache', cache'', heq, heq'⟩ | ⟨message, message', heq, heq'⟩
    · rw [heq, heq']
      exact congrArg some (verdict_checkAgainstCrl cert crl fromCache fromCache')
    · rw [heq, heq']
      exact ih hrest

theorem checkWithIssuer_alike
    (hserves : StillServes call.visit (extractCrlDistributionPoints x cert) 0 st.crlCache) :
    (checkWithIssuer x st cert call).1.verdict = (checkWithIssuer x {} cert call).1.verdict := by
  have hgetD (result : Option CrlValidationResult) (default : CrlValidationResult) :
      (result.getD default).verdict =
        (result.map CrlValidationResult.verdict).getD default.verdict := by
    cases result <;> rfl
  unfold checkWithIssuer
  split
  · rfl
  · dsimp only
    rw [hgetD, hgetD, checkCrlUrls_alike hserves]

theorem stillServes_of_undisturbed {h : CrlHistory Crl} (hcall : Undisturbed x h call)
    (hparsed : x.parseCertificate call.certPem = .ok cert) :
    StillServes call.visit (extractCrlDistributionPoints x cert) 0 h.state.crlCache := by
  intro j url cached hurl hcached
  rw [Nat.zero_add] at hcached ⊢
  exact hcall.stillServed cert hparsed j url cached hurl hcached

theorem cachedResult_empty (cert : Cert) (now : Time) :
    cachedResult x ({} : CrlState Crl) cert now = none := rfl

/-- **A call that finds no result in the cache** is answered as if the caches were empty. -/
theorem answer_fresh {h : CrlHistory Crl} (hcall : Undisturbed x h call)
    (hmiss : ∀ cert, x.parseCertificate call.certPem = .ok cert →
      cachedResult x h.state cert call.askedAt = none) :
    (checkCertificateRevocation x h.state call).1.verdict = (freshAnswer x call).verdict := by
  cases hparsed : x.parseCertificate call.certPem with
  | error message => simp [checkCertificateRevocation, freshAnswer, hparsed]
  | ok cert =>
    by_cases hurls : extractCrlDistributionPoints x cert = []
    · simp [checkCertificateRevocation, freshAnswer, hparsed, hmiss cert hparsed, hurls,
        cachedResult_empty]
    · cases hself : x.isSelfSigned cert with
      | true =>
        simp [checkCertificateRevocation, freshAnswer, hparsed, hmiss cert hparsed, hurls, hself,
          cachedResult_empty]
      | false =>
        have hchecked : IsChecked x call cert := ⟨hparsed, hurls, hself⟩
        rw [freshAnswer, check_miss hchecked (hmiss cert hparsed),
          check_miss hchecked (cachedResult_empty cert _)]
        exact checkWithIssuer_alike (stillServes_of_undisturbed hcall hparsed)

/-! ## Two runs that differ in chains -/

/-- The result kept under a key, and the call that found it: it is what the call would be
answered with empty caches. -/
structure Keeps (x : X509Library Cert Crl) (h : CrlHistory Crl) (key : String)
    (kept : CachedResult) (found : CrlCall Crl) : Prop where
  result : h.state.certValidationCache key = some kept
  foundBy : h.foundBy key = some found
  since : kept.timestamp = found.storedAt
  answer : kept.result.verdict = (freshAnswer x found).verdict

/-- **The relation** between two histories: they keep results under the same keys, found by
calls that are the same but for the chain of the certificate. -/
def Alike (x : X509Library Cert Crl) (cert : Cert) (h h' : CrlHistory Crl) : Prop :=
  ∀ key, (h.state.certValidationCache key = none ∧ h'.state.certValidationCache key = none) ∨
    ∃ kept kept' found found', Keeps x h key kept found ∧ Keeps x h' key kept' found' ∧
      SameButChain x cert found found'

variable {h h' : CrlHistory Crl} {call' : CrlCall Crl}

theorem certPem_sameButChain (h : SameButChain x cert call call') :
    call'.certPem = call.certPem ∧ call'.askedAt = call.askedAt ∧
      call'.storedAt = call.storedAt := by
  rcases h with rfl | ⟨-, chainPems, rfl⟩ <;> exact ⟨rfl, rfl, rfl⟩

theorem Alike.isNone (halike : Alike x cert h h') (other : Cert) (now : Time) :
    (cachedResult x h.state other now).isNone = (cachedResult x h'.state other now).isNone := by
  rcases halike (x.thumbprint other) with
    ⟨hnone, hnone'⟩ | ⟨kept, kept', found, found', hkeeps, hkeeps', hsame⟩
  · simp [cachedResult, hnone, hnone']
  · have hsince : kept'.timestamp = kept.timestamp :=
      hkeeps'.since.trans ((certPem_sameButChain hsame).2.2.trans hkeeps.since.symm)
    by_cases hrecent : now - kept.timestamp < certValidationCacheTtlMs
    · simp [cachedResult, hkeeps.result, hkeeps'.result, hsince, hrecent]
    · simp [cachedResult, hkeeps.result, hkeeps'.result, hsince, hrecent]

theorem Alike.keepsResult (halike : Alike x cert h h') (hsame : SameButChain x cert call call') :
    keepsResult x h'.state call' = Eudiplo.keepsResult x h.state call := by
  obtain ⟨hcert, hasked, -⟩ := certPem_sameButChain hsame
  unfold Eudiplo.keepsResult
  rw [hcert, hasked]
  cases x.parseCertificate call.certPem with
  | error message => rfl
  | ok other => simp only [halike.isNone other call.askedAt]

theorem keeps_step (hcall : Undisturbed x h call) {other : Cert} (hchecked : IsChecked x call other)
    (hmiss : cachedResult x h.state other call.askedAt = none)
    (hkeeps : keepsResult x h.state call = some (x.thumbprint other)) :
    Keeps x (h.step x call) (x.thumbprint other)
      { result := (checkWithIssuer x h.state other call).1, timestamp := call.storedAt } call := by
  refine ⟨?_, ?_, rfl, ?_⟩
  · rw [CrlHistory.step, check_miss hchecked hmiss]
    dsimp only
    rw [store_cache, if_pos rfl]
  · simp only [CrlHistory.step, hkeeps, Function.update_self]
  · rw [freshAnswer, check_miss hchecked (cachedResult_empty other _)]
    exact checkWithIssuer_alike (stillServes_of_undisturbed hcall hchecked.parsed)

theorem keeps_step_ne {other : Cert} (hchecked : IsChecked x call other)
    (hmiss : cachedResult x h.state other call.askedAt = none)
    (hkeeps : keepsResult x h.state call = some (x.thumbprint other)) {key : String}
    (hne : key ≠ x.thumbprint other) :
    (h.step x call).state.certValidationCache key = h.state.certValidationCache key ∧
      (h.step x call).foundBy key = h.foundBy key := by
  constructor
  · rw [CrlHistory.step, check_miss hchecked hmiss]
    dsimp only
    rw [store_cache, if_neg hne]
  · simp only [CrlHistory.step, hkeeps, Function.update_of_ne hne]

theorem step_of_keeps_none (hkeeps : keepsResult x h.state call = none) : h.step x call = h := by
  rcases keepsResult_cases (x := x) h.state call with ⟨-, hstate⟩ | ⟨other, -, -, hsome⟩
  · cases h
    simp only [CrlHistory.step, hkeeps, hstate]
  · rw [hkeeps] at hsome
    cases hsome

/-- **Two calls that differ only in the chain keep the relation.** -/
theorem Alike.step (halike : Alike x cert h h') (hsame : SameButChain x cert call call')
    (hcall : Undisturbed x h call) (hcall' : Undisturbed x h' call') :
    Alike x cert (h.step x call) (h'.step x call') := by
  have hkeys := halike.keepsResult hsame
  rcases keepsResult_cases (x := x) h.state call with
    ⟨hkeeps, -⟩ | ⟨other, hchecked, hmiss, hkeeps⟩
  · rw [step_of_keeps_none hkeeps, step_of_keeps_none (hkeys.trans hkeeps)]
    exact halike
  · obtain ⟨hcert, hasked, -⟩ := certPem_sameButChain hsame
    have hchecked' : IsChecked x call' other :=
      ⟨hcert ▸ hchecked.parsed, hchecked.urls, hchecked.notSelfSigned⟩
    have hmiss' : cachedResult x h'.state other call'.askedAt = none := by
      have hnone := halike.isNone other call.askedAt
      rw [hmiss] at hnone
      rw [hasked]
      exact Option.isNone_iff_eq_none.mp hnone.symm
    have hkeeps' := hkeys.trans hkeeps
    intro key
    by_cases hkey : key = x.thumbprint other
    · subst hkey
      exact .inr ⟨_, _, call, call', keeps_step hcall hchecked hmiss hkeeps,
        keeps_step hcall' hchecked' hmiss' hkeeps', hsame⟩
    · obtain ⟨hcache, hfound⟩ := keeps_step_ne hchecked hmiss hkeeps hkey
      obtain ⟨hcache', hfound'⟩ := keeps_step_ne hchecked' hmiss' hkeeps' hkey
      rcases halike key with ⟨hnone, hnone'⟩ | ⟨kept, kept', found, found', hk, hk', hfounds⟩
      · exact .inl ⟨hcache.trans hnone, hcache'.trans hnone'⟩
      · exact .inr ⟨kept, kept', found, found',
          ⟨hcache.trans hk.result, hfound.trans hk.foundBy, hk.since, hk.answer⟩,
          ⟨hcache'.trans hk'.result, hfound'.trans hk'.foundBy, hk'.since, hk'.answer⟩, hfounds⟩

theorem alike_run {calls calls' : List (CrlCall Crl)}
    (hsame : List.Forall₂ (SameButChain x cert) calls calls') {before before' : List (CrlCall Crl)}
    (halike : Alike x cert (crlHistory x before) (crlHistory x before'))
    (hrun : UndisturbedRun x (before ++ calls)) (hrun' : UndisturbedRun x (before' ++ calls')) :
    Alike x cert (crlHistory x (before ++ calls)) (crlHistory x (before' ++ calls')) := by
  have hconcat (cs : List (CrlCall Crl)) (c : CrlCall Crl) :
      crlHistory x (cs ++ [c]) = (crlHistory x cs).step x c := by simp [crlHistory]
  induction hsame generalizing before before' with
  | nil => simpa using halike
  | @cons c c' cs cs' hc _ ih =>
    have hstep := halike.step hc (hrun before c cs rfl) (hrun' before' c' cs' rfl)
    rw [← hconcat, ← hconcat] at hstep
    rw [List.append_cons before c cs] at hrun ⊢
    rw [List.append_cons before' c' cs'] at hrun' ⊢
    exact ih hstep hrun hrun'

theorem crlHistory_state (calls : List (CrlCall Crl)) :
    (crlHistory x calls).state = crlRun x calls := by
  induction calls using List.reverseRecOn with
  | nil => rfl
  | append_singleton calls call ih =>
    rw [crlRun_concat, ← ih]
    simp [crlHistory, CrlHistory.step]

/-- **Related histories give one answer** to an undisturbed call for the certificate. -/
theorem Alike.answer (halike : Alike x cert h h') (hcall : Undisturbed x h call)
    (hcall' : Undisturbed x h' call) (hparsed : x.parseCertificate call.certPem = .ok cert) :
    (checkCertificateRevocation x h'.state call).1.verdict =
      (checkCertificateRevocation x h.state call).1.verdict := by
  have hisNone := halike.isNone cert call.askedAt
  cases hhit : cachedResult x h.state cert call.askedAt with
  | none =>
    have hmiss' : cachedResult x h'.state cert call.askedAt = none := by
      rw [hhit] at hisNone
      exact Option.isNone_iff_eq_none.mp hisNone.symm
    have hone {g : CrlHistory Crl} (hg : cachedResult x g.state cert call.askedAt = none)
        (other : Cert) (hother : x.parseCertificate call.certPem = .ok other) :
        cachedResult x g.state other call.askedAt = none := by
      rw [hparsed] at hother
      exact Except.ok.inj hother ▸ hg
    rw [answer_fresh hcall (hone hhit), answer_fresh hcall' (hone hmiss')]
  | some kept =>
    obtain ⟨kept', hhit'⟩ : ∃ kept', cachedResult x h'.state cert call.askedAt = some kept' := by
      rw [hhit] at hisNone
      exact Option.isSome_iff_exists.mp (by simpa using hisNone.symm)
    rw [check_hit hparsed hhit, check_hit hparsed hhit']
    have hstored := (Option.filter_eq_some_iff.mp hhit).1
    have hstored' := (Option.filter_eq_some_iff.mp hhit').1
    rcases halike (x.thumbprint cert) with
      ⟨hnone, -⟩ | ⟨first, first', found, found', hk, hk', hfounds⟩
    · rw [hnone] at hstored
      cases hstored
    · obtain rfl := Option.some.inj (hk.result.symm.trans hstored)
      obtain rfl := Option.some.inj (hk'.result.symm.trans hstored')
      have hchain := hcall.sameChain cert hparsed (by rw [hhit]; rfl) found hk.foundBy
      have hchain' := hcall'.sameChain cert hparsed (by rw [hhit']; rfl) found' hk'.foundBy
      -- Both results were found with the chain of this call, so by one and the same call.
      have hfound : found' = found := by
        rcases hfounds with heq | ⟨-, chainPems, rfl⟩
        · exact heq
        · cases found
          exact congrArg (fun chainPems => CrlCall.mk _ chainPems _ _ _) (hchain'.trans hchain.symm)
      show first'.result.verdict = first.result.verdict
      rw [hk'.answer, hk.answer, hfound]

theorem independentOfChains {calls : List (CrlCall Crl)}
    (hrun : UndisturbedRun x (calls ++ [call])) : IndependentOfChains x calls call := by
  intro cert hparsed calls' hsame hrun'
  have hstays {cs : List (CrlCall Crl)} (hcs : UndisturbedRun x (cs ++ [call])) :
      UndisturbedRun x ([] ++ cs) := fun before c after heq =>
    hcs before c (after ++ [call]) (by simpa using congrArg (· ++ [call]) heq)
  have hstart : Alike x cert (crlHistory x []) (crlHistory x []) := fun _ => .inl ⟨rfl, rfl⟩
  have halike := alike_run hsame hstart (hstays hrun) (hstays hrun')
  have hanswer := halike.answer (hrun calls call [] rfl) (hrun' calls' call [] rfl) hparsed
  rwa [crlHistory_state, crlHistory_state] at hanswer

end CrlAnswers

/-! ## The result -/

namespace CrlAnswers

/-- A certificate of an authority whose CRLs list nothing and end at time 1000. -/
def example509 : X509Library Bool Unit where
  parseCertificate pem :=
    if pem = "leaf" then .ok false else if pem = "ca" then .ok true else .error "no certificate"
  thumbprint isCa := if isCa then "c" else "l"
  thumbprint_injective := by decide
  subject isCa := if isCa then "CN=CA" else "CN=leaf"
  issuer _ := "CN=CA"
  serialNumber isCa := if isCa then "1" else "2"
  -- The bytes of `http://c`.
  cdpExtension isCa := if isCa then none else some [104, 116, 116, 112, 58, 47, 47, 99]
  isSelfSigned isCa := isCa
  verifies _ isCa := isCa
  keyUsages _ := none
  crlIssuer _ := "CN=CA"
  nextUpdate _ := some 1000
  crlVerifies _ isCa := isCa
  entries _ := []
  crlReason _ := none

def checkLeaf (chainPems : List String) (time : Time) : CrlCall Unit where
  certPem := "leaf"
  chainPems
  askedAt := time
  visit _ := { lookedUpAt := time, response := .ok (), checkedAt := time }
  storedAt := time

end CrlAnswers

end Eudiplo
