import Mathlib.Logic.Function.Basic
import Eudiplo.Shared.Hops

/-!
# Federation trust chains

The depth-first search of `EvaluateFederationTrustChain` through the `authority_hints` of
entity configurations, with its cycle check, its table of explored depths and its limits.
-/

namespace Eudiplo

namespace Federation

structure FederationEntityConfiguration where
  sub : Option String
  authorityHints : Option (List String)
  deriving DecidableEq

structure FederationTrustChainResult where
  trusted : Bool
  reason : String
  deriving DecidableEq

structure FederationTraversalLimits where
  maxDepth : ℕ
  maxHintsPerEntity : ℕ
  maxResolutions : ℕ
  deriving DecidableEq

def DEFAULT_FEDERATION_TRAVERSAL_LIMITS : FederationTraversalLimits :=
  { maxDepth := 8, maxHintsPerEntity := 10, maxResolutions := 32 }

/-- `entityId.replace(/\/$/, "")`: one slash at the end goes. -/
def normalizeEntityId (entityId : String) : String :=
  if entityId.toList.getLast? = some '/' then String.ofList entityId.toList.dropLast
  else entityId

def trusted : FederationTrustChainResult :=
  { trusted := true, reason := "entity authority_hints chain to configured trust anchor" }

def rejected (reason : String := "entity did not chain to configured trust anchor") :
    FederationTrustChainResult :=
  { trusted := false, reason }

/-- What an evaluation remembers between visits: the depth at which an entity was last
explored, and the requests made of the resolver (`resolutions` counts them). -/
structure Traversal where
  exploredDepth : String → Option ℕ
  resolutions : ℕ
  requests : List String

def Traversal.start : Traversal :=
  { exploredDepth := fun _ => none, resolutions := 0, requests := [] }

/-- `exploredDepth.set(current, depth)`. -/
def Traversal.explore (s : Traversal) (current : String) (depth : ℕ) : Traversal :=
  { s with exploredDepth := Function.update s.exploredDepth current (some depth) }

def Traversal.resolve (s : Traversal) (current : String) : Traversal :=
  { s with resolutions := s.resolutions + 1, requests := s.requests ++ [current] }

variable {E : Type}

/-- What a visit ends in, an answer or the error it throws, and what is remembered then. -/
abbrev Visit (E : Type) := Except E FederationTrustChainResult × Traversal

/-- `configuration.sub && normalizeEntityId(configuration.sub) !== current`. -/
def FederationEntityConfiguration.otherSubject (configuration : FederationEntityConfiguration)
    (current : String) : Bool :=
  match configuration.sub with
  | none => false
  | some sub => sub != "" && normalizeEntityId sub != current

def FederationEntityConfiguration.hints (configuration : FederationEntityConfiguration)
    (limits : FederationTraversalLimits) : List String :=
  ((configuration.authorityHints.getD []).take limits.maxHintsPerEntity).map normalizeEntityId

/-- The loop over the hints of an entity, with the last rejection and the last error of the
branches so far. -/
def tryHints (visit : String → Traversal → Visit E) : List String →
    FederationTrustChainResult → Option E → Traversal → Visit E
  | [], _, some fetchError, s => (.error fetchError, s)
  | [], failure, none, s => (.ok failure, s)
  | hint :: hints, failure, fetchError, s =>
    match visit hint s with
    | (.ok result, s') =>
      if result.trusted then (.ok result, s') else tryHints visit hints result fetchError s'
    | (.error error, s') => tryHints visit hints failure (some error) s'

section

variable (resolver : String → Except E FederationEntityConfiguration)
  (limits : FederationTraversalLimits) (anchors : List String)

/-- The inner function `visit`. -/
def visit (current : String) (depth : ℕ) (path : List String) (s : Traversal) : Visit E :=
  if depth > limits.maxDepth then
    (.ok (rejected "federation authority_hints chain exceeded maximum depth"), s)
  else if current ∈ anchors then (.ok trusted, s)
  else if current ∈ path then
    (.ok (rejected "federation authority_hints chain contains a cycle"), s)
  else if ((s.exploredDepth current).any fun explored => decide (explored ≤ depth)) then
    (.ok rejected, s)
  else if s.resolutions ≥ limits.maxResolutions then
    (.ok (rejected "federation authority_hints traversal exceeded resolution limit"),
      s.explore current depth)
  else
    match resolver current with
    | .error error => (.error error, (s.explore current depth).resolve current)
    | .ok configuration =>
      if configuration.otherSubject current then
        (.ok (rejected "federation entity subject does not match entity id"),
          (s.explore current depth).resolve current)
      -- A direct anchor must not be hidden by an earlier unrelated hint.
      else if depth < limits.maxDepth ∧ ∃ hint ∈ configuration.hints limits, hint ∈ anchors then
        (.ok trusted, (s.explore current depth).resolve current)
      else
        tryHints (fun hint s => visit hint (depth + 1) (current :: path) s)
          (configuration.hints limits) rejected none ((s.explore current depth).resolve current)
termination_by limits.maxDepth + 1 - depth

end

structure EvaluateFederationTrustChainInput where
  entityId : String
  trustAnchors : List String

def execute (resolver : String → Except E FederationEntityConfiguration)
    (limits : FederationTraversalLimits) (input : EvaluateFederationTrustChainInput) : Visit E :=
  visit resolver limits (input.trustAnchors.map normalizeEntityId)
    (normalizeEntityId input.entityId) 0 [] Traversal.start

end Federation

end Eudiplo
