import Eudiplo.Auth.Operations

/-!
# A deployment of the management endpoints that runs

A world, tokens, rows and schedules for the runs that show what the theorems are about.
-/

namespace Eudiplo

open Concurrency

namespace AuthDeployment

/-- A world without configuration files, whose plans write every document. -/
def world (oidc : Bool) : AuthWorld where
  oidc
  authClientId := "root"
  authClientSecret := "root-secret"
  importMode := .upsert
  strictAbort := false
  random n := String.ofList (List.replicate (n + 1) 'r')
  hash _ secret := "hash of " ++ secret
  kcId n := String.ofList (List.replicate (n + 1) 'k')
  answer q _ := match q with
    | .clientFiles _ => .ok []
    | .storedGeneration .. => .ok 0
    | .planBundle _ documents _ =>
      .ok { writes := documents.map ClientDocument.resourceId, deletes := [] }
    | .markApplied .. | .removeOwnership .. | .saveTenant _ => .ok ()

def manager (tenantId : String) : TokenPayload :=
  { tenantId := some tenantId, roles := [.clients, .users] }

def client (clientId tenantId : String) (roles : List Role) : ClientEntity where
  clientId
  secret := some "hash of secret"
  tenantId := some tenantId
  description := none
  roles
  allowedPresentationConfigs := none
  allowedIssuanceConfigs := none

def store (c : ClientEntity) : AuthStore where
  clients := .single c
  kcClients := .empty
  kcUsers := .empty
  kcRoles := []

/-- A request arrives as thread `t` and takes `n` calls. -/
def serve (t : Nat) (r : ManagementRequest) (n : Nat) : List (Move Unit ManagementRequest) :=
  .arrive r :: List.replicate n (.resume t)

end AuthDeployment

end Eudiplo
