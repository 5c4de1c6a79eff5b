import EnvInline.Syntax.Token.Space

/-!
# Tokens of elements

Names, strings and text inside and between the tags of elements. Strings and text are kept as they
are written.
-/

namespace EnvInline.Syntax

/-- Reads a name in a tag; it may hold hyphens. -/
def tagWordToken : P Token := do
  return .tagWord (String.ofList (← takeChars fun c => Text.isIdentifierPart c || c == '-'))

/-- Reads the value of an attribute. It may hold line ends, and nothing is escaped in it. -/
def attributeString (quote : Char) : P Token := do
  let start ← place
  skipChar
  let value ← takeChars (· != quote)
  if !(← eatChar quote) then report start .unterminatedString
  return .string (String.ofList value) (← textSince start)

/-- Reads the text up to a brace or an angle bracket. -/
def markupText : P Token := do
  let start ← place
  for _ in ← turns do
    let _ ← takeChars fun c => c != '<' && c != '{' && c != '>' && c != '}'
    match ← char? with
    | some '>' =>
      report (← place) (.unexpectedTokenDidYouMean ["`\x7b'>'\x7d`", "`&gt;`"])
      skipChar
    | some '}' =>
      report (← place) (.unexpectedTokenDidYouMean ["`\x7b'\x7d'\x7d`", "`&rbrace;`"])
      skipChar
    | some _ => return .markupText (← textSince start)
    | none => failAt start .unterminatedMarkup
  failAt start .unterminatedMarkup

end EnvInline.Syntax
