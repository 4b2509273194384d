import Eudiplo.Verifier.WalletAttestation
import Mathlib.Data.Rat.Defs
import Mathlib.Algebra.Order.Field.Rat
import Eudiplo.Properties.ChainValidation
import Mathlib.Tactic.Linarith

/-!
# The status of a wallet attestation

`StatusListVerifierService` with its cache of raw tokens and its cache of parsed lists, and
`WalletAttestationService.validateAttestationStatus`, which verifies the one and reads the other.
Between the two reads other callers use the caches; a list carries the token it was decoded from.
-/

namespace Eudiplo

open ChainValidation

namespace AttestationStatus

/-! ## Data -/

/-- What a status-list server answers: a JWT, or a CWT by its content type. -/
inductive Token where
  | jwt (text : String)
  | cwt (bytes : String)
  deriving DecidableEq

structure Lifetime where
  /-- Seconds. -/
  ttl : Option ℚ := none
  /-- Seconds since the epoch. -/
  exp : Option ℚ := none

/-- **What a status check asks.** -/
structure StatusWorld extends ChainWorld where
  /-- The `x5c` header of a JWT that decodes. -/
  x5cOf : (jwt : String) → Option (List String)
  /-- Does the signature of a JWT verify under the key of this certificate? -/
  verifies : (jwt certificate : String) → Bool
  /-- The statuses in a status list token. -/
  statusesOf : Token → Option (List Nat)
  /-- `ttl` and `exp` of a payload that decodes. -/
  lifetimeOf : Token → Option Lifetime

structure CachedList where
  token : Token
  statuses : List Nat
  expiresAt : ℚ

structure CachedJwt where
  jwt : String
  expiresAt : ℚ

structure State where
  now : Time
  cache : String → Option CachedList
  cachedJwts : String → Option CachedJwt

/-! ## Caches -/

def DEFAULT_CACHE_TTL_MS : ℚ := 5 * 60 * 1000

def MAX_CACHE_TTL_MS : ℚ := 60 * 60 * 1000

/-- `cacheExpiresAt`; a number that is zero counts as none. -/
def cacheExpiresAt (now : Time) (lifetime : Lifetime) : ℚ :=
  let ttlMs := ((lifetime.ttl.filter (· ≠ 0)).map fun ttl => min (ttl * 1000) MAX_CACHE_TTL_MS).getD
    DEFAULT_CACHE_TTL_MS
  ((lifetime.exp.filter (· ≠ 0)).map fun exp => min (now + ttlMs) (exp * 1000)).getD (now + ttlMs)

/-- `BoundedTtlCache.get` of the parsed lists. -/
def State.getList (s : State) (uri : String) : Option CachedList :=
  (s.cache uri).filter fun entry => s.now < entry.expiresAt

/-- `BoundedTtlCache.get` of the raw tokens. -/
def State.getJwt (s : State) (uri : String) : Option CachedJwt :=
  (s.cachedJwts uri).filter fun entry => s.now < entry.expiresAt

/-- `BoundedTtlCache.set`; what an entry displaces is evicted by a step of its own. -/
def State.setList (s : State) (uri : String) (entry : CachedList) : State :=
  { s with cache := fun uri' =>
      if uri' = uri then (if s.now < entry.expiresAt then some entry else none)
      else s.cache uri' }

def State.setJwt (s : State) (uri : String) (entry : CachedJwt) : State :=
  { s with cachedJwts := fun uri' =>
      if uri' = uri then (if s.now < entry.expiresAt then some entry else none)
      else s.cachedJwts uri' }

/-! ## Reads -/

variable (w : StatusWorld)

/-- **`getStatusList`**, with the server's answer to a fetch. -/
def getStatusList (s : State) (uri : String) (answer : Except String Token) :
    Except String (CachedList × State) :=
  match s.getList uri with
  | some cached => .ok (cached, s)
  | none =>
    match answer with
    | .error message => .error ("Failed to fetch status list from " ++ uri ++ ": " ++ message)
    | .ok token =>
      match w.statusesOf token, w.lifetimeOf token with
      | some statuses, some lifetime =>
        let entry : CachedList := ⟨token, statuses, cacheExpiresAt s.now lifetime⟩
        .ok (entry, s.setList uri entry)
      | _, _ => .error "Invalid status list token"

/-- **`getStatusListJwt`**, with the server's answer to a fetch. -/
def getStatusListJwt (s : State) (uri : String) (answer : Except String Token) :
    Except String (String × State) :=
  match s.getJwt uri with
  | some cached => .ok (cached.jwt, s)
  | none =>
    match answer with
    | .error message => .error ("Failed to fetch status list from " ++ uri ++ ": " ++ message)
    | .ok (.cwt _) =>
      .error ("Status list at " ++ uri ++ " returned CWT while JWT was requested")
    | .ok (.jwt text) =>
      match w.lifetimeOf (.jwt text) with
      | none => .error "Invalid JWT"
      | some lifetime => .ok (text, s.setJwt uri ⟨text, cacheExpiresAt s.now lifetime⟩)

/-- What others do with the service: read through a cache, drop an entry, let time pass. -/
inductive Event where
  | readList (uri : String) (answer : Except String Token)
  | readJwt (uri : String) (answer : Except String Token)
  | dropList (uri : String)
  | dropJwt (uri : String)
  | pass (time : Time)

def after {α : Type} (s : State) (result : Except String (α × State)) : State :=
  match result with
  | .ok (_, s') => s'
  | .error _ => s

def step (s : State) : Event → State
  | .readList uri answer => after s (getStatusList w s uri answer)
  | .readJwt uri answer => after s (getStatusListJwt w s uri answer)
  | .dropList uri => { s with cache := fun uri' => if uri' = uri then none else s.cache uri' }
  | .dropJwt uri =>
    { s with cachedJwts := fun uri' => if uri' = uri then none else s.cachedJwts uri' }
  | .pass time => { s with now := s.now + time }

def run (s : State) (events : List Event) : State := events.foldl (step w) s

/-! ## The status of an attestation -/

inductive WuaKind where
  | wia
  | ka
  deriving DecidableEq

structure WuaStatusEntry where
  idx : Nat
  uri : String
  deriving DecidableEq

/-- `CONTAINER`. -/
def WuaKind.container : WuaKind → String
  | .wia => "client_status"
  | .ka => "key_storage_status"

def natOf? : Json → Option Nat
  | .num mantissa exponent =>
    if 0 ≤ mantissa ∧ mantissa % 10 ^ exponent = 0 then some (mantissa / 10 ^ exponent).toNat
    else none
  | _ => none

def asEntry (value : Option Json) : Option WuaStatusEntry := do
  let list ← value >>= Json.field? "status_list"
  let idx ← list.field? "idx" >>= natOf?
  let uri ← list.field? "uri" >>= Json.str?
  if uri.isEmpty then none else some ⟨idx, uri⟩

/-- `wuaStatusEntryFromPayload`. -/
def wuaStatusEntry (payload : Json) (kind : WuaKind) : Option WuaStatusEntry :=
  (asEntry (payload.field? kind.container >>= Json.field? "status")).or
    (asEntry (payload.field? "status"))

/-- Is this the revocation certificate, or does the path end at it? -/
def matchesRevocation (revocationCert leaf : Certificate) (path : List Certificate) : Bool :=
  if revocationCert.ca then
    w.thumbprint revocationCert == w.thumbprint (path.getLast?.getD leaf)
  else w.thumbprint revocationCert == w.thumbprint leaf

/-- **`verifyStatusListSignature`** of the matched entity and the store it was matched in. -/
def verifyStatusListSignature (jwt : String) (m : MatchedTrustedEntity) (store : BuiltTrustStore) :
    Bool :=
  match w.x5cOf jwt with
  | none | some [] => false
  | some (first :: rest) =>
    if !w.verifies jwt first then false
    else
      match m.revocationCert with
      | none => true
      | some revocationCert =>
        match (first :: rest).mapM w.parseCertificate with
        | none | some [] => false
        | some (leaf :: presented) =>
          match w.build (leaf :: presented ++ trustAnchors w.toChainWorld store) leaf with
          | .error _ => false
          | .ok path => matchesRevocation w revocationCert leaf path

/-- How a status check ends; a valid entry is one of the list of this token. -/
inductive StatusOutcome where
  | noReference
  | refused (error : String)
  | unavailable (error : String)
  | valid (token : Token)
  deriving DecidableEq

def getStatusDescription (status : Nat) : String :=
  match status with
  | 0 => "Valid"
  | 1 => "Invalid/Revoked"
  | 2 => "Suspended"
  | status => "Unknown status (" ++ toString status ++ ")"

/-- `checkStatus`, and what becomes of it. -/
def checkStatus (s : State) (entry : WuaStatusEntry) (answer : Except String Token) :
    StatusOutcome :=
  match getStatusList w s entry.uri answer with
  | .error message => .unavailable message
  | .ok (list, _) =>
    match list.statuses[entry.idx]? with
    | none => .unavailable "Index out of bounds"
    | some 0 => .valid list.token
    | some status => .refused ("Attestation is not valid: " ++ getStatusDescription status)

/-- **`validateAttestationStatus`**: the server's answers to its two reads, and what others do
between them. -/
def validateAttestationStatus (s : State) (payload : Json) (kind : WuaKind)
    (m : MatchedTrustedEntity) (store : BuiltTrustStore) (answer : Except String Token)
    (between : List Event) (answer' : Except String Token) : StatusOutcome :=
  match wuaStatusEntry payload kind with
  | none => .noReference
  | some entry =>
    match getStatusListJwt w s entry.uri answer with
    | .error message => .unavailable message
    | .ok (jwt, s') =>
      if verifyStatusListSignature w jwt m store then
        checkStatus w (run w s' between) entry answer'
      else .refused "not signed by trusted revocation certificate"

end AttestationStatus

end Eudiplo

/-!
# Is the attestation status read from the verified token?

The signature is verified on the raw token, and the value is read from a parsed list with a cache
and a fetch of its own.  `status_from_verified_token` holds of the runs in which every list that is
parsed for the URI comes from a token that would have been accepted, and is not expired when it
arrives.
-/

namespace Eudiplo

open ChainValidation AttestationStatus

namespace AttestationStatus

variable (w : StatusWorld) (m : MatchedTrustedEntity) (store : BuiltTrustStore)

/-! ## The claim -/

/-- **A token that is verified** under the revocation certificate of the matched entity. -/
def VerifiedToken (token : Token) : Prop :=
  ∃ jwt, token = .jwt jwt ∧ m.revocationCert.isSome = true ∧
    verifyStatusListSignature w jwt m store = true

/-- The token's `exp` has not passed. -/
def Unexpired (now : Time) (token : Token) : Prop :=
  ∀ lifetime exp, w.lifetimeOf token = some lifetime → lifetime.exp = some exp → now < exp * 1000

/-- When the status is read: after others have used the service since the token was. -/
def checkedAt (s : State) (uri : String) (answer : Except String Token) (between : List Event) :
    State :=
  run w (after s (getStatusListJwt w s uri answer)) between

/-- **An answer that may be parsed**: it is verified, and is not expired when it arrives. -/
def MayParse (now : Time) (answer : Except String Token) : Prop :=
  ∀ token, answer = .ok token → VerifiedToken w m store token ∧ Unexpired w now token

def ParsesVerified (uri : String) : State → List Event → Prop
  | _, [] => True
  | s, event :: events =>
    (∀ answer, event = .readList uri answer → s.getList uri = none →
        MayParse w m store s.now answer) ∧
      ParsesVerified uri (step w s event) events

def State.empty (now : Time) : State where
  now := now
  cache := fun _ => none
  cachedJwts := fun _ => none

/-- **Only lists of verified tokens are parsed** for the URI: by others before the check and during
it, and by the check itself. -/
structure OnlyVerifiedLists (uri : String) (start : Time) (before : List Event)
    (answer : Except String Token) (between : List Event) (answer' : Except String Token) :
    Prop where
  byOthers : ParsesVerified w m store uri (State.empty start) before
  meanwhile : ParsesVerified w m store uri
    (after (run w (State.empty start) before)
      (getStatusListJwt w (run w (State.empty start) before) uri answer)) between
  byCheck : (checkedAt w (run w (State.empty start) before) uri answer between).getList uri = none →
    MayParse w m store (checkedAt w (run w (State.empty start) before) uri answer between).now
      answer'

/-! ## What a list was decoded from -/

/-- The parsed list of the URI comes from a verified token, and expires with it. -/
def ListVerified (uri : String) (s : State) : Prop :=
  ∀ list, s.cache uri = some list → VerifiedToken w m store list.token ∧
    ∀ lifetime exp, w.lifetimeOf list.token = some lifetime → lifetime.exp = some exp →
      list.expiresAt ≤ exp * 1000

variable {w m store} {s : State} {uri : String}

theorem cacheExpiresAt_le {now : Time} {lifetime : Lifetime} {exp : ℚ}
    (hexp : lifetime.exp = some exp) (hne : exp ≠ 0) :
    cacheExpiresAt now lifetime ≤ exp * 1000 := by
  unfold cacheExpiresAt
  dsimp only
  rw [hexp, Option.filter_some_pos (by simpa using hne)]
  exact min_le_right _ _

/-- **What is read of the parsed lists** is a list of the cache, or one that is parsed now. -/
theorem getStatusList_ok {answer : Except String Token} {list : CachedList} {s' : State}
    (h : getStatusList w s uri answer = .ok (list, s')) :
    (s.getList uri = some list ∧ s' = s) ∨
      (s.getList uri = none ∧ answer = .ok list.token ∧ s' = s.setList uri list ∧
        ∃ lifetime, w.lifetimeOf list.token = some lifetime ∧
          list.expiresAt = cacheExpiresAt s.now lifetime) := by
  unfold getStatusList at h
  split at h
  · rename_i cached hcached
    cases h
    exact .inl ⟨hcached, rfl⟩
  · rename_i hnone
    split at h
    · cases h
    · rename_i token
      split at h
      · rename_i statuses lifetime hstatuses hlifetime
        cases h
        exact .inr ⟨hnone, rfl, rfl, lifetime, hlifetime, rfl⟩
      · cases h

theorem ListVerified.parsed {answer : Except String Token} {list : CachedList} {lifetime : Lifetime}
    (hmay : MayParse w m store s.now answer) (hanswer : answer = .ok list.token)
    (hlifetime : w.lifetimeOf list.token = some lifetime)
    (hexpires : list.expiresAt = cacheExpiresAt s.now lifetime) :
    VerifiedToken w m store list.token ∧
      ∀ lifetime exp, w.lifetimeOf list.token = some lifetime → lifetime.exp = some exp →
        list.expiresAt ≤ exp * 1000 := by
  obtain ⟨hverified, hunexpired⟩ := hmay list.token hanswer
  refine ⟨hverified, fun lifetime' exp hlifetime' hexp => ?_⟩
  obtain rfl := Option.some.inj (hlifetime.symm.trans hlifetime')
  -- a token whose `exp` is zero has expired
  have hne : exp ≠ 0 := by
    rintro rfl
    have hlt := hunexpired lifetime 0 hlifetime hexp
    have hnow : (0 : ℚ) ≤ s.now := Nat.cast_nonneg _
    linarith
  rw [hexpires]
  exact cacheExpiresAt_le hexp hne

theorem cache_after_getStatusListJwt (uri : String) (answer : Except String Token) :
    (after s (getStatusListJwt w s uri answer)).cache = s.cache := by
  unfold getStatusListJwt
  split
  · rfl
  · split
    · rfl
    · rfl
    · split <;> rfl

/-- **One event** keeps the parsed list verified. -/
theorem ListVerified.step (h : ListVerified w m store uri s) {event : Event}
    (hevent : ∀ answer, event = .readList uri answer → s.getList uri = none →
      MayParse w m store s.now answer) :
    ListVerified w m store uri (step w s event) := by
  cases event with
  | readList uri' answer =>
    show ListVerified w m store uri (after s (getStatusList w s uri' answer))
    cases hread : getStatusList w s uri' answer with
    | error message => exact h
    | ok result =>
      obtain ⟨list, s'⟩ := result
      rcases getStatusList_ok hread with ⟨-, rfl⟩ | ⟨hnone, hanswer, rfl, lifetime, hlifetime, hexp⟩
      · exact h
      · intro list' hlist'
        by_cases huri : uri = uri'
        · subst huri
          have hset : (if s.now < list.expiresAt then some list else none) = some list' := by
            simpa [after, State.setList] using hlist'
          split at hset
          · obtain rfl := Option.some.inj hset
            exact ListVerified.parsed (hevent answer rfl hnone) hanswer hlifetime hexp
          · cases hset
        · have hsame : s.cache uri = some list' := by
            simpa [after, State.setList, huri] using hlist'
          exact h list' hsame
  | readJwt uri' answer =>
    intro list hlist
    refine h list (Eq.trans ?_ hlist)
    exact (congrFun (cache_after_getStatusListJwt uri' answer) uri).symm
  | dropList uri' =>
    intro list hlist
    by_cases huri : uri = uri'
    · simp [AttestationStatus.step, huri] at hlist
    · exact h list (by simpa [AttestationStatus.step, huri] using hlist)
  | dropJwt uri' => exact h
  | pass time => exact h

/-- **A run** whose parsed lists come from verified tokens keeps the parsed list verified. -/
theorem ListVerified.run {events : List Event} (h : ListVerified w m store uri s)
    (hevents : ParsesVerified w m store uri s events) :
    ListVerified w m store uri (run w s events) := by
  induction events generalizing s with
  | nil => exact h
  | cons event events ih =>
    obtain ⟨hevent, hrest⟩ := hevents
    exact ih (h.step hevent) hrest

/-- **A list that is read** of a verified cache comes from a verified token that has not expired. -/
theorem ListVerified.read {answer : Except String Token} {list : CachedList} {s' : State}
    (h : ListVerified w m store uri s)
    (hmay : s.getList uri = none → MayParse w m store s.now answer)
    (hread : getStatusList w s uri answer = .ok (list, s')) :
    VerifiedToken w m store list.token ∧ Unexpired w s.now list.token := by
  rcases getStatusList_ok hread with ⟨hcached, -⟩ | ⟨hnone, hanswer, -⟩
  · obtain ⟨hentry, hlive⟩ := Option.filter_eq_some_iff.mp hcached
    obtain ⟨hverified, hexpires⟩ := h list hentry
    refine ⟨hverified, fun lifetime exp hlifetime hexp => ?_⟩
    have hlt : (s.now : ℚ) < list.expiresAt := by simpa using hlive
    exact lt_of_lt_of_le hlt (hexpires lifetime exp hlifetime hexp)
  · exact hmay hnone list.token hanswer

theorem checkStatus_valid {entry : WuaStatusEntry} {answer : Except String Token} {token : Token}
    (h : checkStatus w s entry answer = .valid token) :
    ∃ list s', getStatusList w s entry.uri answer = .ok (list, s') ∧ list.token = token := by
  unfold checkStatus at h
  split at h
  · cases h
  · rename_i list s' hread
    split at h
    · cases h
    · cases h
      exact ⟨list, s', hread, rfl⟩
    · cases h

end AttestationStatus

/-- **The status of an attestation is read from a verified token** in every run of the service in
which the lists of its URI are parsed from such tokens. -/
theorem status_from_verified_token (w : AttestationStatus.StatusWorld) (m : MatchedTrustedEntity)
    (store : BuiltTrustStore) (payload : Json) (kind : WuaKind) (entry : WuaStatusEntry)
    (start : Time) (before between : List Event) (answer answer' : Except String Token)
    (token : Token) (hentry : wuaStatusEntry payload kind = some entry)
    (honly : OnlyVerifiedLists w m store entry.uri start before answer between answer')
    (h : validateAttestationStatus w (run w (State.empty start) before) payload kind m store answer
      between answer' = .valid token) :
    VerifiedToken w m store token ∧
      Unexpired w (checkedAt w (run w (State.empty start) before) entry.uri answer between).now
        token := by
  have hstart : ListVerified w m store entry.uri (State.empty start) := nofun
  have hs := hstart.run honly.byOthers
  have hjwt : ListVerified w m store entry.uri
      (after (run w (State.empty start) before)
        (getStatusListJwt w (run w (State.empty start) before) entry.uri answer)) := by
    intro list hlist
    rw [cache_after_getStatusListJwt] at hlist
    exact hs list hlist
  have hchecked := hjwt.run honly.meanwhile
  unfold validateAttestationStatus at h
  rw [hentry] at h
  dsimp only at h
  split at h
  · cases h
  · rename_i jwt s' hok
    split at h
    · obtain ⟨list, s'', hlist, rfl⟩ := checkStatus_valid h
      have hsame : AttestationStatus.run w s' between =
          checkedAt w (run w (State.empty start) before) entry.uri answer between := by
        unfold checkedAt
        rw [hok]
        rfl
      rw [hsame] at hlist
      exact hchecked.read honly.byCheck hlist
    · cases h

namespace AttestationStatus

/-! ## A server that answers differently -/

/-- Tokens of which all but one are signed by the provider; `good` and `forged` say that the
attestation is valid, `revoked` that it is not. -/
def providerWorld : StatusWorld :=
  { trusting true with
    x5cOf := fun _ => some ["issuer"]
    verifies := fun jwt _ => jwt != "forged"
    statusesOf := fun token => some (if token = .jwt "revoked" then [1] else [0])
    lifetimeOf := fun _ => some {} }

def provider : MatchedTrustedEntity where
  entity := { services := [⟨WalletSolution, "issuer"⟩] }
  issuanceCert := issuerCert
  matchMode := .leafPinned
  revocationCert := some issuerCert

def providerStore : BuiltTrustStore where
  fetchedAt := 50
  nextUpdate := none
  entities := [provider.entity]

def attestation : Json :=
  .obj [("client_status", .obj [("status", .obj [("status_list",
    .obj [("idx", .num 0 0), ("uri", .str "https://status.example")])])])]

theorem verified_good : VerifiedToken providerWorld provider providerStore (.jwt "good") :=
  ⟨"good", rfl, rfl, by rfl⟩

end AttestationStatus

/-- A server that answers twice with the same signed token. -/
theorem status_from_verified_token_good :
    VerifiedToken providerWorld provider providerStore (.jwt "good") ∧
      Unexpired providerWorld (checkedAt providerWorld (State.empty 50) "https://status.example"
        (.ok (.jwt "good")) []).now (.jwt "good") :=
  status_from_verified_token providerWorld provider providerStore attestation .wia
    ⟨0, "https://status.example"⟩ 50 [] [] (.ok (.jwt "good")) (.ok (.jwt "good")) (.jwt "good")
    (by rfl)
    ⟨trivial, trivial, fun _ token htoken => by
      cases htoken
      refine ⟨verified_good, fun lifetime exp hlifetime hexp => ?_⟩
      obtain rfl := Option.some.inj hlifetime
      cases hexp⟩
    (by rfl)

/-- **A revoked attestation passes** when the server answers the second read with a list that the
provider did not sign. -/
theorem not_status_from_verified_token :
    validateAttestationStatus providerWorld (State.empty 50) attestation .wia provider
        providerStore (.ok (.jwt "revoked")) [] (.ok (.jwt "forged")) = .valid (.jwt "forged") ∧
      ¬VerifiedToken providerWorld provider providerStore (.jwt "forged") := by
  refine ⟨by rfl, ?_⟩
  rintro ⟨jwt, hjwt, -, hverified⟩
  cases hjwt
  exact absurd hverified (by decide)

end Eudiplo
