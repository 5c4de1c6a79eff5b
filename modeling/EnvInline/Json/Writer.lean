import EnvInline.Json.Value
import EnvInline.Mapping

/-!
# Writing JSON

Values are written without blanks; a mapping is written with one entry per line.
-/

namespace EnvInline.Json

/-- A character within a string. -/
def writeChar (c : Char) : List Char :=
  if c = '"' then ['\\', '"']
  else if c = '\\' then ['\\', '\\']
  else if c = '\x08' then ['\\', 'b']
  else if c = '\x0c' then ['\\', 'f']
  else if c = '\n' then ['\\', 'n']
  else if c = '\r' then ['\\', 'r']
  else if c = '\t' then ['\\', 't']
  else if c.toNat < 0x20 then
    ['\\', 'u', '0', '0', Nat.digitChar (c.toNat / 16), Nat.digitChar (c.toNat % 16)]
  else [c]

/-- A string with its quotes. -/
def writeString (s : String) : String :=
  String.ofList ('"' :: s.toList.flatMap writeChar ++ ['"'])

/-- A number. -/
def Number.write : Number → String
  | whole n => toString n
  | floating x => x.exponentText

mutual
/-- A value without blanks. -/
def write : Json → String
  | .null => "null"
  | .bool value => if value then "true" else "false"
  | .number value => value.write
  | .string value => writeString value
  | .array items => "[" ++ ",".intercalate (writeItems items) ++ "]"
  | .object members => "\x7b" ++ ",".intercalate (writeMembers members) ++ "\x7d"

/-- The items of an array. -/
def writeItems : List Json → List String
  | [] => []
  | item :: items => write item :: writeItems items

/-- The members of an object. -/
def writeMembers : List (String × Json) → List String
  | [] => []
  | (key, value) :: members => (writeString key ++ ":" ++ write value) :: writeMembers members
end

/-- A mapping, one entry per line. -/
def writeMapping (m : Mapping) : String :=
  if m.isEmpty then "\x7b\x7d"
  else "\x7b\n" ++ ",\n".intercalate (m.toList.map fun (k, v) =>
    "  " ++ writeString k ++ ": " ++ writeString v) ++ "\n\x7d"

end EnvInline.Json
