import EnvInline.Json.Cursor

/-!
# Reading JSON values

`Json.read` gives the value that a text stands for. Values may be nested up to a depth of 127.
-/

namespace EnvInline.Json

namespace Read

/-- Reads the elements of a list. -/
def elements (value : Read Json) : Nat → Bool → List Json → Read (List Json)
  | 0, _, before => return before.reverse
  | fuel + 1, isFirst, before => do
    if !(← hasElement isFirst) then return before.reverse
    let v ← value
    elements value fuel false (v :: before)

/-- Reads the members of an object. -/
def members (value : Read Json) : Nat → Bool → List (String × Json) → Read (List (String × Json))
  | 0, _, before => return before.reverse
  | fuel + 1, isFirst, before => do
    if !(← hasMember isFirst) then return before.reverse
    let key ← string
    colon
    let v ← value
    members value fuel false ((key, v) :: before)

/-- Reads a value that is nested at most so deep. -/
def value : Nat → Read Json
  | 0 => failNext .tooDeep
  | depth + 1 => do
    match ← blanks with
    | none => failNext .endInValue
    | some 'n' =>
      word ['n', 'u', 'l', 'l']
      return .null
    | some 't' =>
      word ['t', 'r', 'u', 'e']
      return .bool true
    | some 'f' =>
      word ['f', 'a', 'l', 's', 'e']
      return .bool false
    | some '-' =>
      bump
      return .number (← number true)
    | some '"' =>
      bump
      return .string (← string)
    | some '[' =>
      bump
      let size := (← get).rest.length + 1
      let items ← enclosed (elements (value depth) size true []) endList
      return .array items
    | some '\x7b' =>
      bump
      let size := (← get).rest.length + 1
      let ms ← enclosed (members (value depth) size true []) endObject
      return ofMembers ms
    | some c => if c.isDigit then return .number (← number false) else failNext .expectedValue

end Read

/-- The value that a text stands for. -/
def read (text : String) : Except Fault Json :=
  let all : Read Json := do
    let v ← Read.value 128
    Read.finish
    return v
  match all (.start text) with
  | .ok v _ => .ok v
  | .error f _ => .error f

end EnvInline.Json
