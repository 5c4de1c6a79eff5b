import EnvInline.Number.Binary64

/-!
# JSON values

A number is a whole number as long as it fits into 64 bits, and a floating point number otherwise.
The members of an object are kept in the order of their keys.
-/

namespace EnvInline

/-- A number of JSON. -/
inductive Json.Number where
  | whole (value : Int)
  | floating (value : Binary64)
deriving DecidableEq, Repr, Inhabited

/-- The nearest floating point number. -/
def Json.Number.toBinary64 : Json.Number → Binary64
  | .whole value =>
    let magnitude := Binary64.ofDecimal value.natAbs 0
    if value < 0 then magnitude.neg else magnitude
  | .floating value => value

/-- A value of JSON. -/
inductive Json where
  | null
  | bool (value : Bool)
  | number (value : Json.Number)
  | string (value : String)
  | array (items : List Json)
  | object (members : List (String × Json))
deriving Repr, Inhabited

namespace Json

/-- Puts a member at its place, over an older one with the same key. -/
def placeMember (key : String) (value : Json) : List (String × Json) → List (String × Json)
  | [] => [(key, value)]
  | (k, v) :: r =>
    if key < k then (key, value) :: (k, v) :: r
    else if key = k then (key, value) :: r
    else (k, v) :: placeMember key value r

/-- The object with some members; of two members with one key the later counts. -/
def ofMembers (members : List (String × Json)) : Json :=
  .object (members.foldl (fun ms m => placeMember m.1 m.2 ms) [])

/-- The member of an object with a key. -/
def member? (key : String) : Json → Option Json
  | .object members => (members.find? (·.1 == key)).map (·.2)
  | _ => none

end Json

end EnvInline
