import EnvInline.Syntax.Token.Word

/-!
# Strings, templates and regular expressions
-/

namespace EnvInline.Syntax

/-- Up to two more octal digits of an escape, whose value stays below 256. -/
def octalEscape (first : Nat) : P (List Char) := do
  let digit? : P (Option Nat) := return (← char?).bind (digitValue? 8)
  let mut value := first
  for _ in [(), ()] do
    match ← digit? with
    | some d =>
      if value * 8 + d < 256 then
        value := value * 8 + d
        skipChar
      else break
    | none => break
  return (charOf? value).toList

/-- Reads an escape, the backslash first; a line end gives no character. -/
def escapedChars (inTemplate : Bool) : P (List Char) := do
  let start ← place
  skipChar
  match ← char? with
  | none => failAt start .invalidEscape
  | some c =>
    skipChar
    match c with
    | 'n' => return ['\n']
    | 'r' => return ['\r']
    | 't' => return ['\t']
    | 'b' => return ['\x08']
    | 'v' => return ['\x0b']
    | 'f' => return ['\x0c']
    | '\r' =>
      let _ ← eatChar '\n'
      return []
    | '\n' | '\u2028' | '\u2029' => return []
    | 'x' =>
      match ← hexDigits? 2 with
      | some ds => return (charOf? (digitsValue 16 ds)).toList
      | none => failAt start (.badEscape "2 hex characters")
    | 'u' => unicodeEscape start
    | _ =>
      match digitValue? 8 c with
      | none => return [c]
      | some d =>
        if d = 0 && !((← char?).any fun c => (digitValue? 8 c).isSome) then return ['\x00']
        if inTemplate then failAt start .legacyOctal
        reportStrict start .legacyOctal
        octalEscape d

/-- Reads a string between quotes. A string without its closing quote ends with its line. -/
def stringToken (quote : Char) : P Token := do
  let start ← place
  skipChar
  let mut parts : List (List Char) := []
  for _ in ← turns do
    parts := (← takeChars fun c => c != quote && c != '\\' && c != '\n' && c != '\r') :: parts
    if ← nextIs '\\' then parts := (← escapedChars false) :: parts
    else break
  if !(← eatChar quote) then report start .unterminatedString
  return .string (String.ofList parts.reverse.flatten) (← textSince start)

/-- Reads a piece of a template: its text, `${`, or the closing mark. -/
def templateToken : P Token := do
  let start ← place
  let mut problem : Option Fault := none
  if (← get).last.any fun | .templateText .. => true | _ => false then
    if ← nextIs '`' then
      skipChar
      return .punct "`"
    if ← nextAre "$\x7b" then
      skipChars 2
      return .punct "$\x7b"
  for _ in ← turns do
    let _ ← takeChars fun c => c != '`' && c != '$' && c != '\\'
    match ← char? with
    | none => failAt (← get).templateStart .unterminatedTemplate
    | some '\\' =>
      let at_ ← place
      let found ← tryCatch (do let _ ← escapedChars true; return none) (fun f => return some f)
      if (← place) == at_ then skipChar
      problem := found <|> problem
    | some '`' => return .templateText (← textSince start) problem
    | some _ =>
      if ← nextAre "$\x7b" then return .templateText (← textSince start) problem
      skipChar
  failAt start .unterminatedTemplate

/-- The body of a regular expression and what follows it; `inClass` tells whether a bracket is
open. -/
def regexBody? (inClass escaped : Bool) : List Char → Option (List Char)
  | [] => none
  | c :: r =>
    if isLineEnd c then none
    else if escaped then (regexBody? inClass false r).map (c :: ·)
    else if c == '/' && !inClass then some []
    else
      let inClass := if c == '[' then true else if c == ']' then false else inClass
      (regexBody? inClass (c == '\\') r).map (c :: ·)

/-- Reads a regular expression that opens at `start`. -/
def regexToken (start : Nat) : P Token := do
  seek start
  skipChar
  match regexBody? false false (← get).rest with
  | none => failAt start .unterminatedRegex
  | some body =>
    skipChars (body.length + 1)
    let flags ← takeChars Text.isIdentifierPart
    return .regex (String.ofList body) (String.ofList flags)

end EnvInline.Syntax
