import Eudiplo.Backend.Calls
import Eudiplo.Credential.Data

/-!
# Comparing calls

The calls of the session, interactive and transaction repositories carry JSON values; these are
compared part by part, and so the calls can be.
-/

namespace Eudiplo

mutual

def Json.decEq : (a b : Json) → Decidable (a = b)
  | .null, b =>
    match b with
    | .null => isTrue rfl
    | .bool _ | .num .. | .str _ | .arr _ | .obj _ => isFalse nofun
  | .bool a, b =>
    match b with
    | .bool b => decidable_of_iff (a = b) (by simp)
    | .null | .num .. | .str _ | .arr _ | .obj _ => isFalse nofun
  | .num m e, b =>
    match b with
    | .num m' e' => decidable_of_iff (m = m' ∧ e = e') (by simp)
    | .null | .bool _ | .str _ | .arr _ | .obj _ => isFalse nofun
  | .str a, b =>
    match b with
    | .str b => decidable_of_iff (a = b) (by simp)
    | .null | .bool _ | .num .. | .arr _ | .obj _ => isFalse nofun
  | .arr as, b =>
    match b with
    | .arr bs =>
      match Json.decEqItems as bs with
      | isTrue h => isTrue (h ▸ rfl)
      | isFalse h => isFalse fun he => h (Json.arr.inj he)
    | .null | .bool _ | .num .. | .str _ | .obj _ => isFalse nofun
  | .obj as, b =>
    match b with
    | .obj bs =>
      match Json.decEqMembers as bs with
      | isTrue h => isTrue (h ▸ rfl)
      | isFalse h => isFalse fun he => h (Json.obj.inj he)
    | .null | .bool _ | .num .. | .str _ | .arr _ => isFalse nofun

def Json.decEqItems : (as bs : List Json) → Decidable (as = bs)
  | [], [] => isTrue rfl
  | [], _ :: _ => isFalse nofun
  | _ :: _, [] => isFalse nofun
  | a :: as, b :: bs =>
    match Json.decEq a b, Json.decEqItems as bs with
    | isTrue h, isTrue h' => isTrue (h ▸ h' ▸ rfl)
    | isFalse h, _ => isFalse fun he => h (List.cons.inj he).1
    | _, isFalse h => isFalse fun he => h (List.cons.inj he).2

def Json.decEqMembers : (as bs : List (String × Json)) → Decidable (as = bs)
  | [], [] => isTrue rfl
  | [], _ :: _ => isFalse nofun
  | _ :: _, [] => isFalse nofun
  | (n, a) :: as, (m, b) :: bs =>
    if hn : n = m then
      match Json.decEq a b, Json.decEqMembers as bs with
      | isTrue h, isTrue h' => isTrue (hn ▸ h ▸ h' ▸ rfl)
      | isFalse h, _ => isFalse fun he => h (Prod.mk.inj (List.cons.inj he).1).2
      | _, isFalse h => isFalse fun he => h (List.cons.inj he).2
    else isFalse fun he => hn (Prod.mk.inj (List.cons.inj he).1).1

end

instance : DecidableEq Json := Json.decEq

deriving instance DecidableEq for AuthorizeQueries
deriving instance DecidableEq for ClaimSource
deriving instance DecidableEq for OfferRequest
deriving instance DecidableEq for SessionUpdate
deriving instance DecidableEq for SessionCall
deriving instance DecidableEq for InteractiveAuthSession
deriving instance DecidableEq for InteractiveAuthSessionUpdate
deriving instance DecidableEq for InteractiveCall
deriving instance DecidableEq for DeferredTransaction
deriving instance DecidableEq for TransactionCall

end Eudiplo
