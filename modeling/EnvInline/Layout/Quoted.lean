import EnvInline.Syntax.Token.Word

/-!
# Quoted strings

A string without a spelling of its own is written in double quotes, or in single quotes if that
saves escapes. Control characters and what ends a line are escaped; a tab stands as it is. So does a
backslash that opens an escape of half a surrogate pair, since that is how such a half is held in a
string; any other backslash is doubled.
-/

namespace EnvInline.Layout

open EnvInline.Syntax

/-- The quote that occurs less often; the double one if both occur equally often. -/
def quoteFor (s : List Char) : Char :=
  if s.count '"' > s.count '\'' then '\'' else '"'

/-- A hexadecimal digit in lower case. -/
def hexDigit (n : Nat) : Char := Nat.digitChar n

/-- A hexadecimal digit in either case. -/
def isHexDigit (c : Char) : Bool := (digitValue? 16 c).isSome

/-- The number is half of a surrogate pair. -/
def isHalf (n : Nat) : Bool := 0xD800 ≤ n && n ≤ 0xDFFF

/-- The text opens with four digits that spell half of a surrogate pair. -/
def opensHalf (text : List Char) : Bool :=
  let ds := text.take 4
  ds.length == 4 && ds.all isHexDigit && isHalf (digitsValue 16 ds)

/-- Behind a backslash, the text opens an escape of half a surrogate pair. Whether a brace that is
opened is closed again does not matter. -/
def spellsHalf : List Char → Bool
  | 'u' :: '\x7b' :: text => opensHalf text
  | 'u' :: text => opensHalf text
  | _ => false

/-- A character in a string between quotes, before the rest of the string. -/
def escapeChar (quote : Char) (c : Char) (rest : List Char) : List Char :=
  if c = '\x00' then
    if rest.head?.any (·.isDigit) then ['\\', 'x', '0', '0'] else ['\\', '0']
  else if c = '\x08' then ['\\', 'b']
  else if c = '\x0c' then ['\\', 'f']
  else if c = '\n' then ['\\', 'n']
  else if c = '\r' then ['\\', 'r']
  else if c = '\x0b' then ['\\', 'v']
  else if c = '\t' then ['\t']
  else if c = '\\' then if spellsHalf rest then ['\\'] else ['\\', '\\']
  else if c = quote then ['\\', quote]
  else if c.toNat < 32 then ['\\', 'x', hexDigit (c.toNat / 16), hexDigit (c.toNat % 16)]
  else if c = '\u2028' then ['\\', 'u', '2', '0', '2', '8']
  else if c = '\u2029' then ['\\', 'u', '2', '0', '2', '9']
  else if c = '\ufeff' then ['\\', 'u', 'F', 'E', 'F', 'F']
  else [c]

/-- The characters between the quotes. -/
def escapeAll (quote : Char) : List Char → List Char
  | [] => []
  | c :: r => escapeChar quote c r ++ escapeAll quote r

/-- A string with its quotes. -/
def quoted (s : String) : String :=
  let quote := quoteFor s.toList
  String.ofList (quote :: escapeAll quote s.toList ++ [quote])

end EnvInline.Layout
