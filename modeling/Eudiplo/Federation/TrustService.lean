import Mathlib.Algebra.Order.Field.Rat
import Eudiplo.Federation.TrustChain
import Mathlib.Tactic

/-!
# Cached federation evaluations

`FederationTrustService.evaluateEntityTrust` with its cache and its table of evaluations in
flight. A question and the end of an evaluation are the steps; in between other questions are
asked. Times are in milliseconds.
-/

namespace Eudiplo

namespace Federation

inductive FederationTrustMode where
  | federationOnly
  | loteOnly
  | hybrid
  deriving DecidableEq

structure FederationTrustAnchorRef where
  entityId : String
  entityConfigurationUri : String
  deriving DecidableEq

structure FederationTrustSource where
  mode : Option FederationTrustMode
  trustAnchors : List FederationTrustAnchorRef
  cacheTtlSeconds : Option ℚ
  deriving DecidableEq

def FEDERATION_TRUST_STALE_TTL_MS : ℚ := 60 * 60 * 1000

def FEDERATION_TRUST_NEGATIVE_TTL_MS : ℚ := 10 * 1000

namespace FederationTrustSource

def getMode (source : FederationTrustSource) : FederationTrustMode :=
  source.mode.getD .hybrid

def isEnabled (source : FederationTrustSource) : Bool := !source.trustAnchors.isEmpty

def shouldUseFederation (source : FederationTrustSource) : Bool :=
  source.getMode == .federationOnly || source.getMode == .hybrid

/-- `Math.max(5, source?.cacheTtlSeconds ?? 300) * 1000`. -/
def ttlMs (source : FederationTrustSource) : ℚ :=
  max 5 (source.cacheTtlSeconds.getD 300) * 1000

def anchorIds (source : FederationTrustSource) : List String :=
  source.trustAnchors.map fun anchor => normalizeEntityId anchor.entityId

end FederationTrustSource

/-- `cacheKey`: the entity and the anchors, which `JSON.stringify` writes apart. -/
structure CacheKey where
  normalizedEntityId : String
  trustAnchors : List FederationTrustAnchorRef
  deriving DecidableEq

structure CachedEvaluation where
  value : FederationTrustChainResult
  fetchedAt : ℚ
  expiresAt : ℚ
  deriving DecidableEq

structure Question where
  source : FederationTrustSource
  entityId : String
  deriving DecidableEq

def Question.cacheKey (question : Question) : CacheKey :=
  { normalizedEntityId := normalizeEntityId question.entityId
    trustAnchors := question.source.trustAnchors }

/-- An evaluation that waits for the trust chain: the variables its closure holds, and the
questions that wait for its promise, its own first. -/
structure Evaluation where
  question : Question
  now : ℚ
  cached : Option CachedEvaluation
  waiting : List Question
  deriving DecidableEq

structure FederationTrustService where
  trustCache : CacheKey → Option CachedEvaluation
  inFlightEvaluations : CacheKey → Option ℕ
  evaluations : ℕ → Option Evaluation
  started : ℕ

def FederationTrustService.initial : FederationTrustService :=
  { trustCache := fun _ => none
    inFlightEvaluations := fun _ => none
    evaluations := fun _ => none
    started := 0 }

inductive Observation where
  | evaluated (cacheKey : CacheKey) (value : FederationTrustChainResult)
  | answered (question : Question) (value : FederationTrustChainResult) (fetchFailed : Bool)
  deriving DecidableEq

namespace FederationTrustService

variable (service : FederationTrustService)

def setCache (cacheKey : CacheKey) (source : FederationTrustSource)
    (value : FederationTrustChainResult) (now : ℚ) : FederationTrustService :=
  { service with
    trustCache := Function.update service.trustCache cacheKey
      (some { value, fetchedAt := now, expiresAt := now + source.ttlMs }) }

def setNegativeCache (cacheKey : CacheKey) (value : FederationTrustChainResult) (now : ℚ) :
    FederationTrustService :=
  { service with
    trustCache := Function.update service.trustCache cacheKey
      (some { value, fetchedAt := now, expiresAt := now + FEDERATION_TRUST_NEGATIVE_TTL_MS }) }

def clearTrustCache : FederationTrustService :=
  { service with trustCache := fun _ => none, inFlightEvaluations := fun _ => none }

def join (n : ℕ) (evaluation : Evaluation) (question : Question) : FederationTrustService :=
  { service with
    evaluations := Function.update service.evaluations n
      (some { evaluation with waiting := evaluation.waiting ++ [question] }) }

def begin (question : Question) (now : ℚ) : FederationTrustService :=
  { service with
    inFlightEvaluations :=
      Function.update service.inFlightEvaluations question.cacheKey (some service.started)
    evaluations := Function.update service.evaluations service.started
      (some { question, now, cached := service.trustCache question.cacheKey
              waiting := [question] })
    started := service.started + 1 }

def settle (n : ℕ) (cacheKey : CacheKey) : FederationTrustService :=
  { service with
    inFlightEvaluations := Function.update service.inFlightEvaluations cacheKey none
    evaluations := Function.update service.evaluations n none }

/-- The part of `evaluateEntityTrust` after the cache: the evaluation in flight, the anchor
itself, or a new evaluation. -/
def evaluate (question : Question) (now : ℚ) : FederationTrustService × List Observation :=
  match (service.inFlightEvaluations question.cacheKey).bind fun n =>
      (service.evaluations n).map fun evaluation => (n, evaluation) with
  | some (n, evaluation) => (service.join n evaluation question, [])
  | none =>
    if normalizeEntityId question.entityId ∈ question.source.anchorIds then
      let value : FederationTrustChainResult :=
        { trusted := true, reason := "entity is a configured federation trust anchor" }
      (service.setCache question.cacheKey question.source value now,
        [.evaluated question.cacheKey value, .answered question value false])
    else (service.begin question now, [])

/-- `evaluateEntityTrust`, up to the answer or to the fetch it waits for. -/
def evaluateEntityTrust (question : Question) (now : ℚ) :
    FederationTrustService × List Observation :=
  if question.source.shouldUseFederation = false then
    (service, [.answered question
      { trusted := true, reason := "federation disabled by mode" } false])
  else if question.source.isEnabled = false then
    (service, [.answered question
      { trusted := false, reason := "federation mode requires trust anchors, none configured" }
      false])
  else
    match service.trustCache question.cacheKey with
    | some cached =>
      if cached.expiresAt > now then (service, [.answered question cached.value false])
      else service.evaluate question now
    | none => service.evaluate question now

def Evaluation.stale (evaluation : Evaluation) : Option CachedEvaluation :=
  evaluation.cached.filter fun cached =>
    decide (evaluation.now - cached.fetchedAt ≤ FEDERATION_TRUST_STALE_TTL_MS)

variable {E : Type}

def complete (n : ℕ) (evaluation : Evaluation) (outcome : Except E FederationTrustChainResult)
    (now : ℚ) : FederationTrustService × List Observation :=
  match outcome with
  | .ok value =>
    ((service.setCache evaluation.question.cacheKey evaluation.question.source value now).settle n
        evaluation.question.cacheKey,
      .evaluated evaluation.question.cacheKey value ::
        evaluation.waiting.map fun question => .answered question value false)
  | .error _ =>
    match Evaluation.stale evaluation with
    | some cached =>
      (service.settle n evaluation.question.cacheKey,
        evaluation.waiting.map fun question => .answered question cached.value true)
    | none =>
      let value : FederationTrustChainResult :=
        { trusted := false, reason := "could not fetch federation entity configuration" }
      ((service.setNegativeCache evaluation.question.cacheKey value now).settle n
          evaluation.question.cacheKey,
        evaluation.waiting.map fun question => .answered question value true)

inductive Event (E : Type) where
  | ask (question : Question)
  | chain (n : ℕ) (outcome : Except E FederationTrustChainResult)
  | clear

def step (now : ℚ) : Event E → FederationTrustService × List Observation
  | .ask question => service.evaluateEntityTrust question now
  | .chain n outcome =>
    match service.evaluations n with
    | some evaluation => service.complete n evaluation outcome now
    | none => (service, [])
  | .clear => (service.clearTrustCache, [])

end FederationTrustService

end Federation

end Eudiplo

/-!
# How fresh is a cached federation answer?

An entry of the cache lives as long as the source that stored it says, and every source with
the same anchors is answered from it. A trusted answer is as fresh as the asking source wants it
in every run in which no source meets an entry older than its own lifetime, and in which the
window for stale entries is not left while a fetch is failing.
-/

namespace Eudiplo

namespace Federation

open FederationTrustService

variable {E : Type}

abbrev Trace := List (ℚ × Observation)

/-- How old an evaluation may be that an answer to the source rests on. -/
def ageLimit (source : FederationTrustSource) (fetchFailed : Bool) : ℚ :=
  if fetchFailed then max source.ttlMs FEDERATION_TRUST_STALE_TTL_MS else source.ttlMs

/-- An evaluation of the entity succeeded with a trusted result at a time between the two. -/
def TrustedBetween (trace : Trace) (key : CacheKey) (since until' : ℚ) : Prop :=
  ∃ t value, (t, Observation.evaluated key value) ∈ trace ∧ value.trusted = true ∧
    since ≤ t ∧ t ≤ until'

/-- **Every trusted answer is fresh for the source that asked.** A source whose mode excludes
federation is told so without an evaluation. -/
def AnswersFresh (trace : Trace) : Prop :=
  ∀ t question value fetchFailed,
    (t, Observation.answered question value fetchFailed) ∈ trace → value.trusted = true →
    question.source.shouldUseFederation = true →
    TrustedBetween trace question.cacheKey (t - ageLimit question.source fetchFailed) t

/-- A step whose cached entries suit those who are answered from them: a source that asks does
not meet a trusted entry older than its own lifetime, and an entry that a failed fetch falls
back to is still within the window when the fetch fails. -/
def Timely (service : FederationTrustService) (now : ℚ) : Event E → Prop
  | .ask question => ∀ cached, service.trustCache question.cacheKey = some cached →
      now < cached.expiresAt → cached.value.trusted = true →
      now - question.source.ttlMs ≤ cached.fetchedAt
  | .chain n (.error _) => ∀ evaluation, service.evaluations n = some evaluation →
      ∀ cached, Evaluation.stale evaluation = some cached → cached.value.trusted = true →
      ∀ question ∈ evaluation.waiting,
        now - max question.source.ttlMs FEDERATION_TRUST_STALE_TTL_MS ≤ cached.fetchedAt
  | .chain _ (.ok _) => True
  | .clear => True

/-- The runs of the service in which every step meets a condition, under a clock that never
goes back. -/
inductive Run (condition : FederationTrustService → ℚ → Event E → Prop) :
    FederationTrustService → ℚ → Trace → Prop where
  | start (now : ℚ) : Run condition .initial now []
  | step {service : FederationTrustService} {last now : ℚ} {trace : Trace} {event : Event E} :
      Run condition service last trace → last ≤ now → condition service now event →
      Run condition (service.step now event).1 now
        (trace ++ (service.step now event).2.map fun observation => (now, observation))

/-! ## What the cache rests on -/

/-- A trusted entry was stored when an evaluation succeeded. -/
def Rests (trace : Trace) (key : CacheKey) (cached : CachedEvaluation) : Prop :=
  cached.value.trusted = true →
    ∃ value, (cached.fetchedAt, Observation.evaluated key value) ∈ trace ∧ value.trusted = true

theorem Rests.mono {trace trace' : Trace} {key : CacheKey} {cached : CachedEvaluation}
    (h : Rests trace key cached) (hsub : trace ⊆ trace') : Rests trace' key cached := by
  intro htrusted
  obtain ⟨value, hmem, hvalue⟩ := h htrusted
  exact ⟨value, hsub hmem, hvalue⟩

structure Sound (service : FederationTrustService) (last : ℚ) (trace : Trace) : Prop where
  cache : ∀ key cached, service.trustCache key = some cached → Rests trace key cached
  fallback : ∀ n evaluation, service.evaluations n = some evaluation →
    ∀ cached, evaluation.cached = some cached → Rests trace evaluation.question.cacheKey cached
  waiting : ∀ n evaluation, service.evaluations n = some evaluation →
    ∀ question ∈ evaluation.waiting, question.cacheKey = evaluation.question.cacheKey
  inFlight : ∀ key n, service.inFlightEvaluations key = some n →
    n < service.started ∧
      ∀ evaluation, service.evaluations n = some evaluation → evaluation.question.cacheKey = key
  past : ∀ t observation, (t, observation) ∈ trace → t ≤ last

variable {service : FederationTrustService} {last now : ℚ} {trace trace' : Trace}
  {question : Question} {value : FederationTrustChainResult} {n : ℕ} {evaluation : Evaluation}
  {cached : CachedEvaluation} {key : CacheKey} {source : FederationTrustSource}

theorem update_eq_some {α β : Type} [DecidableEq α] {f : α → Option β} {a a' : α}
    {b : Option β} {c : β} (h : Function.update f a b a' = some c) :
    (a' = a ∧ b = some c) ∨ (a' ≠ a ∧ f a' = some c) := by
  rw [Function.update_apply] at h
  split at h
  · exact .inl ⟨‹_›, h⟩
  · exact .inr ⟨‹_›, h⟩

theorem sound_initial : Sound .initial now [] :=
  ⟨fun _ _ h => (nomatch h), fun _ _ h => (nomatch h), fun _ _ h => (nomatch h),
    fun _ _ h => (nomatch h), fun _ _ h => (nomatch h)⟩

theorem Sound.later (h : Sound service last trace) (hsub : trace ⊆ trace')
    (hpast : ∀ t observation, (t, observation) ∈ trace' → t ≤ now) : Sound service now trace' :=
  { h with
    cache := fun key cached hc => (h.cache key cached hc).mono hsub
    fallback := fun n evaluation hn cached hc => (h.fallback n evaluation hn cached hc).mono hsub
    past := hpast }

theorem Sound.setCache (h : Sound service last trace)
    (hvalue : value.trusted = true → (now, Observation.evaluated key value) ∈ trace) :
    Sound (service.setCache key source value now) last trace := by
  refine { h with cache := ?_ }
  intro key' cached hc
  rcases update_eq_some hc with ⟨rfl, hset⟩ | ⟨-, hold⟩
  · obtain rfl := Option.some.inj hset
    exact fun htrusted => ⟨value, hvalue htrusted, htrusted⟩
  · exact h.cache key' cached hold

theorem Sound.setNegativeCache (h : Sound service last trace) (hvalue : value.trusted = false) :
    Sound (service.setNegativeCache key value now) last trace := by
  refine { h with cache := ?_ }
  intro key' cached hc
  rcases update_eq_some hc with ⟨rfl, hset⟩ | ⟨-, hold⟩
  · obtain rfl := Option.some.inj hset
    exact fun htrusted => absurd htrusted (by simp [hvalue])
  · exact h.cache key' cached hold

theorem Sound.clear (h : Sound service last trace) : Sound service.clearTrustCache last trace :=
  { h with
    cache := fun _ _ hc => (nomatch hc)
    inFlight := fun _ _ hc => (nomatch hc) }

theorem Sound.settle (h : Sound service last trace) : Sound (service.settle n key) last trace := by
  have hevaluations : ∀ m evaluation, (service.settle n key).evaluations m = some evaluation →
      service.evaluations m = some evaluation := by
    intro m evaluation hm
    rcases update_eq_some hm with ⟨-, hnone⟩ | ⟨-, hold⟩
    · cases hnone
    · exact hold
  refine ⟨h.cache, fun m e hm => h.fallback m e (hevaluations m e hm),
    fun m e hm => h.waiting m e (hevaluations m e hm), ?_, h.past⟩
  intro key' m hm
  rcases update_eq_some hm with ⟨-, hnone⟩ | ⟨-, hold⟩
  · cases hnone
  · obtain ⟨hlt, hkey⟩ := h.inFlight key' m hold
    exact ⟨hlt, fun e he => hkey e (hevaluations m e he)⟩

theorem Sound.join (h : Sound service last trace) (hn : service.evaluations n = some evaluation)
    (hkey : evaluation.question.cacheKey = question.cacheKey) :
    Sound (service.join n evaluation question) last trace := by
  -- the evaluation keeps its question and its fallback
  have hevaluations : ∀ m e, (service.join n evaluation question).evaluations m = some e →
      service.evaluations m = some e ∨
        m = n ∧ e = { evaluation with waiting := evaluation.waiting ++ [question] } := by
    intro m e hm
    rcases update_eq_some hm with ⟨rfl, hset⟩ | ⟨-, hold⟩
    · exact .inr ⟨rfl, (Option.some.inj hset).symm⟩
    · exact .inl hold
  refine ⟨h.cache, ?_, ?_, ?_, h.past⟩
  · intro m e hm c hc
    rcases hevaluations m e hm with hm | ⟨rfl, rfl⟩
    · exact h.fallback m e hm c hc
    · exact h.fallback m evaluation hn c hc
  · intro m e hm q hq
    rcases hevaluations m e hm with hm | ⟨rfl, rfl⟩
    · exact h.waiting m e hm q hq
    · rcases List.mem_append.mp hq with hq | hq
      · exact h.waiting m evaluation hn q hq
      · rw [List.mem_singleton.mp hq]
        exact hkey.symm
  · intro key' m hm
    obtain ⟨hlt, hinFlight⟩ := h.inFlight key' m hm
    refine ⟨hlt, fun e he => ?_⟩
    rcases hevaluations m e he with he | ⟨rfl, rfl⟩
    · exact hinFlight e he
    · exact hinFlight evaluation hn

theorem Sound.begin (h : Sound service last trace) :
    Sound (service.begin question now) last trace := by
  have hevaluations : ∀ m e, (service.begin question now).evaluations m = some e →
      service.evaluations m = some e ∨ m = service.started ∧
        e = { question, now, cached := service.trustCache question.cacheKey
              waiting := [question] } := by
    intro m e hm
    rcases update_eq_some hm with ⟨rfl, hset⟩ | ⟨-, hold⟩
    · exact .inr ⟨rfl, (Option.some.inj hset).symm⟩
    · exact .inl hold
  refine ⟨h.cache, ?_, ?_, ?_, h.past⟩
  · intro m e hm c hc
    rcases hevaluations m e hm with hm | ⟨-, rfl⟩
    · exact h.fallback m e hm c hc
    · exact h.cache _ c hc
  · intro m e hm q hq
    rcases hevaluations m e hm with hm | ⟨-, rfl⟩
    · exact h.waiting m e hm q hq
    · rw [List.mem_singleton.mp hq]
  · intro key' m hm
    rcases update_eq_some hm with ⟨rfl, hset⟩ | ⟨-, hold⟩
    · obtain rfl := Option.some.inj hset
      refine ⟨Nat.lt_succ_self _, fun e he => ?_⟩
      rcases update_eq_some he with ⟨-, he⟩ | ⟨hne, -⟩
      · obtain rfl := Option.some.inj he
        rfl
      · exact absurd rfl hne
    · obtain ⟨hlt, hkey⟩ := h.inFlight key' m hold
      refine ⟨Nat.lt_succ_of_lt hlt, fun e he => ?_⟩
      rcases hevaluations m e he with he | ⟨rfl, -⟩
      · exact hkey e he
      · exact absurd hlt (lt_irrefl _)

/-! ## Steps -/

def stamped (now : ℚ) (observations : List Observation) : Trace :=
  observations.map fun observation => (now, observation)

theorem mem_stamped {t : ℚ} {observation : Observation} {observations : List Observation} :
    (t, observation) ∈ stamped now observations ↔ t = now ∧ observation ∈ observations := by
  rw [stamped, List.mem_map]
  constructor
  · rintro ⟨o, ho, heq⟩
    obtain ⟨rfl, rfl⟩ := Prod.mk.inj heq
    exact ⟨rfl, ho⟩
  · rintro ⟨rfl, ho⟩
    exact ⟨observation, ho, rfl⟩

/-- The answers of a step are fresh, given what has been observed. -/
def FreshAnswers (trace : Trace) (now : ℚ) (observations : List Observation) : Prop :=
  ∀ question value fetchFailed,
    Observation.answered question value fetchFailed ∈ observations → value.trusted = true →
    question.source.shouldUseFederation = true →
    TrustedBetween trace question.cacheKey (now - ageLimit question.source fetchFailed) now

theorem ttlMs_nonneg : 0 ≤ source.ttlMs := by
  have h : (5 : ℚ) ≤ max 5 (source.cacheTtlSeconds.getD 300) := le_max_left ..
  unfold FederationTrustSource.ttlMs
  linarith

theorem ageLimit_nonneg {fetchFailed : Bool} : 0 ≤ ageLimit source fetchFailed := by
  cases fetchFailed with
  | false => exact ttlMs_nonneg
  | true => exact ttlMs_nonneg.trans (le_max_left ..)

theorem fresh_now {fetchFailed : Bool}
    (h : (now, Observation.evaluated key value) ∈ trace) (htrusted : value.trusted = true) :
    TrustedBetween trace key (now - ageLimit source fetchFailed) now :=
  ⟨now, value, h, htrusted, sub_le_self _ ageLimit_nonneg, le_rfl⟩

theorem Sound.observe (h : Sound service last trace) (hle : last ≤ now)
    (observations : List Observation) :
    Sound service now (trace ++ stamped now observations) := by
  refine h.later (List.subset_append_left ..) fun t observation hmem => ?_
  rcases List.mem_append.mp hmem with hmem | hmem
  · exact (h.past t observation hmem).trans hle
  · exact (mem_stamped.mp hmem).1.le

structure StepFresh (trace : Trace) (now : ℚ) (r : FederationTrustService × List Observation) :
    Prop where
  sound : Sound r.1 now (trace ++ stamped now r.2)
  fresh : FreshAnswers (trace ++ stamped now r.2) now r.2

theorem evaluated_mem {observations : List Observation}
    (h : Observation.evaluated key value ∈ observations) :
    (now, Observation.evaluated key value) ∈ trace ++ stamped now observations :=
  List.mem_append_right _ (mem_stamped.mpr ⟨rfl, h⟩)

theorem evaluate_fresh (h : Sound service last trace) (hle : last ≤ now) :
    StepFresh trace now (service.evaluate question now) := by
  unfold FederationTrustService.evaluate
  split
  next m e hfound =>
    obtain ⟨n', hn', hmap⟩ := Option.bind_eq_some_iff.mp hfound
    obtain ⟨e', he', heq⟩ := Option.map_eq_some_iff.mp hmap
    obtain ⟨rfl, rfl⟩ := Prod.mk.inj heq
    have hkey := (h.inFlight _ _ hn').2 _ he'
    exact ⟨(h.join he' hkey).observe hle [], fun _ _ _ hmem => by cases hmem⟩
  next =>
    split
    · refine ⟨(h.observe hle _).setCache fun _ => evaluated_mem List.mem_cons_self, ?_⟩
      intro q v fetchFailed hmem htrusted _
      rcases List.mem_cons.mp hmem with hmem | hmem
      · cases hmem
      · obtain ⟨rfl, rfl, rfl⟩ := Observation.answered.inj (List.mem_singleton.mp hmem)
        exact fresh_now (evaluated_mem List.mem_cons_self) htrusted
    · exact ⟨h.begin.observe hle [], fun _ _ _ hmem => by cases hmem⟩

theorem answer_fresh (h : Sound service last trace) (hle : last ≤ now)
    (hanswer : value.trusted = true → question.source.shouldUseFederation = true →
      TrustedBetween trace question.cacheKey (now - ageLimit question.source false) now) :
    StepFresh trace now (service, [.answered question value false]) := by
  refine ⟨h.observe hle _, ?_⟩
  intro q v fetchFailed hmem htrusted huses
  obtain ⟨rfl, rfl, rfl⟩ := Observation.answered.inj (List.mem_singleton.mp hmem)
  obtain ⟨t, v', ht, hrest⟩ := hanswer htrusted huses
  exact ⟨t, v', List.mem_append_left _ ht, hrest⟩

theorem rests_fresh {fetchFailed : Bool} (h : Sound service last trace) (hle : last ≤ now)
    (hrests : Rests trace key cached) (htrusted : cached.value.trusted = true)
    (hage : now - ageLimit source fetchFailed ≤ cached.fetchedAt) :
    TrustedBetween trace key (now - ageLimit source fetchFailed) now := by
  obtain ⟨v, hmem, hv⟩ := hrests htrusted
  exact ⟨cached.fetchedAt, v, hmem, hv, hage, (h.past _ _ hmem).trans hle⟩

/-- **A question** keeps the service sound, and is answered freshly if it is answered at once. -/
theorem ask_fresh (h : Sound service last trace) (hle : last ≤ now)
    (htimely : Timely (E := E) service now (.ask question)) :
    StepFresh trace now (service.evaluateEntityTrust question now) := by
  unfold FederationTrustService.evaluateEntityTrust
  split
  next hmode =>
    exact answer_fresh h hle fun _ huses => absurd huses (by simp [hmode])
  next =>
    split
    next => exact answer_fresh h hle fun htrusted _ => by cases htrusted
    next =>
      split
      next c hc =>
        split
        next hlive =>
          exact answer_fresh h hle fun htrusted _ => rests_fresh h hle (h.cache _ c hc) htrusted
            (htimely c hc hlive htrusted)
        next => exact evaluate_fresh h hle
      next => exact evaluate_fresh h hle

/-- **The end of an evaluation** keeps the service sound and answers all who wait freshly. -/
theorem complete_fresh {outcome : Except E FederationTrustChainResult}
    (h : Sound service last trace) (hle : last ≤ now)
    (hn : service.evaluations n = some evaluation)
    (htimely : Timely service now (.chain n outcome)) :
    StepFresh trace now (service.complete n evaluation outcome now) := by
  cases outcome with
  | ok v =>
    refine ⟨((h.observe hle _).setCache fun _ => evaluated_mem List.mem_cons_self).settle, ?_⟩
    intro q v' fetchFailed hmem htrusted _
    rcases List.mem_cons.mp hmem with hmem | hmem
    · cases hmem
    · obtain ⟨q', hq', heq⟩ := List.mem_map.mp hmem
      obtain ⟨rfl, rfl, rfl⟩ := Observation.answered.inj heq
      rw [h.waiting n evaluation hn q' hq']
      exact fresh_now (evaluated_mem List.mem_cons_self) htrusted
  | error e =>
    unfold FederationTrustService.complete
    dsimp only
    split
    next c hstale =>
      refine ⟨(h.observe hle _).settle, ?_⟩
      intro q v fetchFailed hmem htrusted _
      obtain ⟨q', hq', heq⟩ := List.mem_map.mp hmem
      obtain ⟨rfl, rfl, rfl⟩ := Observation.answered.inj heq
      have hcached : evaluation.cached = some c := (Option.filter_eq_some_iff.mp hstale).1
      have hage : now - ageLimit q'.source true ≤ c.fetchedAt :=
        htimely evaluation hn c hstale htrusted q' hq'
      obtain ⟨t, v', ht, hrest⟩ :=
        rests_fresh h hle (h.fallback n evaluation hn c hcached) htrusted hage
      rw [h.waiting n evaluation hn q' hq']
      exact ⟨t, v', List.mem_append_left _ ht, hrest⟩
    next =>
      refine ⟨((h.observe hle _).setNegativeCache rfl).settle, ?_⟩
      intro q v fetchFailed hmem htrusted _
      obtain ⟨q', hq', heq⟩ := List.mem_map.mp hmem
      obtain ⟨rfl, rfl, rfl⟩ := Observation.answered.inj heq
      cases htrusted

theorem step_fresh {event : Event E} (h : Sound service last trace) (hle : last ≤ now)
    (htimely : Timely service now event) : StepFresh trace now (service.step now event) := by
  cases event with
  | ask question => exact ask_fresh h hle htimely
  | clear => exact ⟨h.clear.observe hle [], fun _ _ _ hmem => by cases hmem⟩
  | chain n outcome =>
    unfold FederationTrustService.step
    dsimp only
    split
    next evaluation hn => exact complete_fresh h hle hn htimely
    next => exact ⟨h.observe hle [], fun _ _ _ hmem => by cases hmem⟩

/-! ## Runs -/

theorem AnswersFresh.append {observations : List Observation} (h : AnswersFresh trace)
    (hnew : FreshAnswers (trace ++ stamped now observations) now observations) :
    AnswersFresh (trace ++ stamped now observations) := by
  intro t question value fetchFailed hmem htrusted huses
  rcases List.mem_append.mp hmem with hmem | hmem
  · obtain ⟨t', v, ht', hrest⟩ := h t question value fetchFailed hmem htrusted huses
    exact ⟨t', v, List.mem_append_left _ ht', hrest⟩
  · obtain ⟨rfl, hanswered⟩ := mem_stamped.mp hmem
    exact hnew question value fetchFailed hanswered htrusted huses

theorem run_sound (h : Run (E := E) Timely service now trace) :
    Sound service now trace ∧ AnswersFresh trace := by
  induction h with
  | start now => exact ⟨sound_initial, fun _ _ _ _ hmem => by cases hmem⟩
  | step _ hle htimely ih =>
    have hstep := step_fresh ih.1 hle htimely
    exact ⟨hstep.sound, ih.2.append hstep.fresh⟩

/-- **Trusted answers are fresh for the source that asked**, in every run in which no source is
answered from a trusted entry older than its own lifetime, and no failed fetch falls back to an
entry that has left the window by then. -/
theorem answers_fresh (h : Run (E := E) Timely service now trace) : AnswersFresh trace :=
  (run_sound h).2

/-- A question about an entity below one anchor, by a source with this cache lifetime. -/
def leafQuestion (cacheTtlSeconds : ℚ) : Question :=
  { source :=
      { mode := some .federationOnly
        trustAnchors := [⟨"https://anchor.example", "https://anchor.example/federation"⟩]
        cacheTtlSeconds := some cacheTtlSeconds }
    entityId := "https://leaf.example" }

def leafAsked (first : ℚ) : FederationTrustService × List Observation :=
  FederationTrustService.initial.step (E := String) 0 (.ask (leafQuestion first))

def leafEvaluated (first : ℚ) : FederationTrustService × List Observation :=
  (leafAsked first).1.step (E := String) 0 (.chain 0 (.ok trusted))

def leafAgain (first second later : ℚ) : FederationTrustService × List Observation :=
  (leafEvaluated first).1.step (E := String) later (.ask (leafQuestion second))

def leafTrace (first second later : ℚ) : Trace :=
  stamped 0 (leafAsked first).2 ++ stamped 0 (leafEvaluated first).2 ++
    stamped later (leafAgain first second later).2

theorem leaf_run {condition : FederationTrustService → ℚ → Event String → Prop}
    {first second later : ℚ} (hlater : 0 ≤ later)
    (hask : condition .initial 0 (.ask (leafQuestion first)))
    (hchain : condition (leafAsked first).1 0 (.chain 0 (.ok trusted)))
    (hagain : condition (leafEvaluated first).1 later (.ask (leafQuestion second))) :
    Run condition (leafAgain first second later).1 later (leafTrace first second later) :=
  (((Run.start 0).step le_rfl hask).step le_rfl hchain).step hlater hagain

/-- Two questions of sources with one lifetime. -/
theorem answers_fresh_leaf : AnswersFresh (leafTrace 300 300 1000) := by
  refine answers_fresh (leaf_run (by norm_num) (fun _ h => (nomatch h)) trivial ?_)
  intro cached hcached _ _
  have hentry : (leafEvaluated 300).1.trustCache (leafQuestion 300).cacheKey =
      some ⟨trusted, 0, 300000⟩ := by decide +kernel
  obtain rfl := Option.some.inj (hentry.symm.trans hcached)
  decide +kernel

/-- **A source with a short lifetime is answered from an entry of a long one**: an entry stored
for an hour answers, after a thousand seconds, a source that wants five seconds. -/
theorem answers_stale : ¬∀ service now trace,
    Run (E := String) (fun _ _ _ => True) service now trace → AnswersFresh trace := by
  intro h
  have hrun : AnswersFresh (leafTrace 3600 5 1000000) :=
    h _ _ _ (leaf_run (by norm_num) trivial trivial trivial)
  have htrace : leafTrace 3600 5 1000000 =
      [(0, .evaluated (leafQuestion 3600).cacheKey trusted),
        (0, .answered (leafQuestion 3600) trusted false),
        (1000000, .answered (leafQuestion 5) trusted false)] := by decide +kernel
  rw [htrace] at hrun
  obtain ⟨t, value, hmem, -, hage, -⟩ := hrun 1000000 (leafQuestion 5) trusted false
    (by simp) rfl (by decide)
  have ht : t = 0 ∧ (leafQuestion 5).cacheKey = (leafQuestion 3600).cacheKey ∧
      value = trusted := by simpa using hmem
  have hlimit : ageLimit (leafQuestion 5).source false = 5000 := by decide +kernel
  rw [ht.1, hlimit] at hage
  norm_num at hage

end Federation

end Eudiplo
