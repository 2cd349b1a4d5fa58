/-
# Wire.Json -- JSON values as the code reads them

The values `nlohmann::json` holds, with the one accessor the handlers use,
`value(key, default)`: the default stands in for a missing member only; a member
of another type throws, as does asking a value that is not an object.
-/
import Mathlib.Algebra.Group.Int.Defs
import Mathlib.Algebra.Group.Nat.Defs
import Mathlib.Data.List.Basic

namespace GameServer.Wire

set_option autoImplicit false

/-- A JSON value.  A number is an integer, or a decimal `mantissa · 10 ^ exponent`. -/
inductive Json where
  | null
  | bool (value : Bool)
  | number (value : Int)
  | decimal (mantissa exponent : Int)
  | str (text : String)
  | arr (items : List Json)
  | obj (fields : List (String × Json))
deriving Repr, Inhabited

inductive JsonError where
  /-- `type_error`: a value of another type than the one asked for. -/
  | type
  /-- `invalid_iterator`: a key asked of something that is not an object. -/
  | iterator
deriving DecidableEq, Repr

namespace Json

def lookup (fields : List (String × Json)) (key : String) : Option Json :=
  (fields.find? fun field => field.1 = key).map (·.2)

/-- `value(key, default)` for a `std::string` default. -/
def valueStr (j : Json) (key default : String) : Except JsonError String :=
  match j with
  | obj fields =>
      match lookup fields key with
      | none => .ok default
      | some (str text) => .ok text
      | some _ => .error .type
  | _ => .error .type

/-- `static_cast<int>` of a 64-bit integer. -/
def toInt (n : Int) : Int := Int.bmod n (2 ^ 32)

/-- `value(key, default)` for an `int` default: any number or boolean converts.  A decimal
is truncated; one outside `int`, whose `static_cast` C++ leaves undefined, is reduced here
like an integer. -/
def valueInt (j : Json) (key : String) (default : Int) : Except JsonError Int :=
  match j with
  | obj fields =>
      match lookup fields key with
      | none => .ok default
      | some (number n) => .ok (toInt n)
      | some (decimal mantissa exponent) =>
          .ok (toInt (if 0 ≤ exponent then mantissa * 10 ^ exponent.toNat
            else mantissa.tdiv (10 ^ (-exponent).toNat)))
      | some (bool b) => .ok (if b then 1 else 0)
      | some _ => .error .type
  | _ => .error .type

/-- `req[key] = value` on an object's members. -/
def assign (fields : List (String × Json)) (key : String) (value : Json) : List (String × Json) :=
  if (lookup fields key).isSome then
    fields.map fun field => if field.1 = key then (key, value) else field
  else fields ++ [(key, value)]

end Json

end GameServer.Wire
