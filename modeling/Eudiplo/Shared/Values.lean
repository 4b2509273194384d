import Mathlib.Data.List.Basic

/-!
# TypeScript values the backend computes with

- Optional properties are `Option`s; an optional string is *truthy* when it is
  present and not empty (`truthy`), which is what `!x`, `x && …` and `!!x` test.
- Points in time are milliseconds since the epoch (`Date.getTime()`), so `Time` is
  `Nat`, and a number of seconds is added as `t + s * 1000`.
- `Json` is parsed JSON, for the request members the backend stores as they came.
-/

namespace Eudiplo

abbrev Time := Nat

/-- Time after `seconds` more seconds. -/
def Time.plusSeconds (t : Time) (seconds : Nat) : Time := t + seconds * 1000

/-- The condition `if (x)` on an optional string. -/
def truthy : Option String → Bool
  | some s => s != ""
  | none => false

@[simp] theorem truthy_none : truthy none = false := rfl

@[simp] theorem truthy_some (s : String) : truthy (some s) = (s != "") := rfl

theorem truthy_iff {o : Option String} : truthy o = true ↔ ∃ s, o = some s ∧ s ≠ "" := by
  cases o with
  | none => simp
  | some s => simp [truthy]

/-- `a || b` on optional strings. -/
def orElse (a b : Option String) : Option String := if truthy a then a else b

/-- `s.includes(sub)`. -/
def includes (s sub : String) : Bool := s.toList.tails.any (sub.toList.isPrefixOf ·)

/-- `s.trim().length > 0` on a possibly absent string. -/
def nonEmpty : Option String → Bool
  | some s => s.toList.any fun c => !c.isWhitespace
  | none => false

/-- Parsed JSON; a number is `mantissa * 10 ^ (-exponent)`. -/
inductive Json where
  | null
  | bool (b : Bool)
  | num (mantissa : Int) (exponent : Nat)
  | str (s : String)
  | arr (items : List Json)
  | obj (members : List (String × Json))

namespace Json

/-- `v.name`: the member of an object, absent for every other value. -/
def field? (name : String) : Json → Option Json
  | obj members => (members.find? fun m => m.1 == name).map (·.2)
  | _ => none

/-- `typeof v === "string"`. -/
def str? : Json → Option String
  | str s => some s
  | _ => none

/-- `v === null`. -/
def isNull : Json → Bool
  | null => true
  | _ => false

/-- `Array.isArray(v)`. -/
def arr? : Json → Option (List Json)
  | arr items => some items
  | _ => none

end Json

end Eudiplo
