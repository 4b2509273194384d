import Eudiplo.StatusList.Effects

/-!
# A deployment of the status list service that runs

Concrete answers of the parts around, a store to start from, and schedules put together
from requests, for the runs that show what the theorems are about.
-/

namespace Eudiplo

open Concurrency

namespace StatusDeployment

/-- A list of one entry of one bit is compressed as the library does, and any other list
written out. -/
def compressOne : List StatusElement → String
  | [some 0] => "eNpjAAAAAQAB"
  | [some 1] => "eNpjBAAAAgAC"
  | elements => String.ofList ('r' :: elements.map fun e => Char.ofNat (e.getD 0))

/-- A world of lists with two entries, whose configurations ask for immediate updates. -/
def world : StatusWorld where
  publicUrl := "https://issuer"
  uuid n := String.ofList (List.replicate (n + 1) 'u')
  dice _ _ := 0
  compressStatusList _ := compressOne
  fault _ := none
  answer q _ := match q with
    | .effectiveCapacity _ => .ok 2
    | .effectiveBits _ => .ok .one
    | .effectiveConfig _ => .ok { ttl := 60, immediateUpdate := true, enableAggregation := false }
    | .findCert .. => .ok (some "key")
    | .signJwt _ => .ok ()
    | .signCwt _ => .ok ()
    | .deriveSubjectKey _ _ _ sub => .ok sub

def fresh : StatusStore := { clock := 0, lists := .empty, mappings := .empty, slots := .empty }

def session : StatusSession where
  id := "session"
  tenantId := "tenant"
  externalIssuer := some "issuer"
  externalSubject := some "subject"

/-- The session is issued a credential without a limit on active ones. -/
def issue : StatusRequest := .createEntry session "config" none none

def setStatus (status : Nat) : StatusRequest :=
  .updateStatus "tenant" { sessionId := "session", credentialConfigurationId := none, status }

/-- A request arrives as thread `t` and takes `n` calls. -/
def serve (t : Nat) (r : StatusRequest) (n : Nat) : StatusSchedule :=
  .arrive r :: List.replicate n (.resume t)

end StatusDeployment

end Eudiplo
