import EnvInline.Syntax.Token.Character

/-!
# Words and escapes

Names and reserved words, and the escapes `\uXXXX` and `\u{X}` that may stand in them and in
strings.
-/

namespace EnvInline.Syntax

/-- The value of a digit. -/
def digitValue? (radix : Nat) (c : Char) : Option Nat :=
  let v : Option Nat :=
    if '0' ≤ c && c ≤ '9' then some (c.toNat - '0'.toNat)
    else if 'a' ≤ c && c ≤ 'z' then some (c.toNat - 'a'.toNat + 10)
    else if 'A' ≤ c && c ≤ 'Z' then some (c.toNat - 'A'.toNat + 10)
    else none
  v.filter (· < radix)

/-- The number that digits spell. -/
def digitsValue (radix : Nat) (ds : List Char) : Nat :=
  ds.foldl (fun n c => n * radix + (digitValue? radix c).getD 0) 0

/-- Reads hexadecimal digits: exactly `count`, or any number of them for 0. Nothing is read when
there are too few. -/
def hexDigits? (count : Nat) : P (Option (List Char)) := do
  let digits := (← get).rest.takeWhile fun c => (digitValue? 16 c).isSome
  let digits := if count = 0 then digits else digits.take count
  if digits.isEmpty || digits.length < count then return none
  skipChars digits.length
  return some digits

/-- The character of a code point. -/
def charOf? (n : Nat) : Option Char :=
  if h : n.isValidChar then some (Char.ofNatAux n h) else none

/-- Reads the rest of `\u…` after the `u`. An escape of half a surrogate pair stands for its own
spelling. The fault is raised at `start`. -/
def unicodeEscape (start : Nat) : P (List Char) := do
  let braced ← eatChar '{'
  let wanted := if braced then "1-6 hex characters" else "4 hex characters"
  match ← hexDigits? (if braced then 0 else 4) with
  | none => failAt start (.badEscape wanted)
  | some digits =>
    let n := digitsValue 16 digits
    if n > 0x10FFFF then
      failAt start (.badEscape
        (if braced then "1-6 hex characters in the range 0 to 10FFFF." else wanted))
    if braced then
      if !(← eatChar '}') then failAt start .invalidUnicodeEscape
    match charOf? n with
    | some c => return [c]
    | none =>
      return if braced then "\\u\x7b".toList ++ digits ++ ['}'] else "\\u".toList ++ digits

/-- Reads a word; the flag tells whether it holds escapes. -/
def wordText : P (List Char × Bool) := do
  let mut parts : List (List Char) := []
  let mut escaped := false
  for _ in ← turns do
    parts := (← takeChars Text.isIdentifierPart) :: parts
    if !(← nextIs '\\') then break
    let start ← place
    skipChar
    escaped := true
    if !(← eatChar 'u') then failAt start .expectedUnicodeEscape
    let cs ← unicodeEscape start
    match cs with
    | c :: _ => if !Text.isIdentifierPart c then report start .invalidNameCharacter
    | [] => pure ()
    parts := cs :: parts
  return (parts.reverse.flatten, escaped)

/-- The reserved word may not be a name here. -/
def isReservedHere (word : String) : P Bool := do
  let c ← context
  return match word with
    | "let" => c.strict
    | "await" => c.inAsync || c.inStaticBlock || c.isModule
    | "yield" => c.inGenerator || c.strict
    | "enum" => true
    | "implements" | "package" | "protected" | "interface" | "private" | "public" => c.strict
    | _ => keywords.contains word

/-- Reads a name or a reserved word. A word that opens with an escape is a name; a reserved word
may not hold one later on. -/
def wordToken : P Token := do
  let start ← place
  let opensWithEscape ← nextIs '\\'
  let (cs, escaped) ← wordText
  let word := String.ofList cs
  if opensWithEscape then return .name word
  if escaped then
    if ← isReservedHere word then failAt start (.escapeInReservedWord word)
  return Token.ofWord word

end EnvInline.Syntax
