import EnvInline.Syntax.Grammar.Annotation

/-!
# Literals

Literals keep their spelling. The text of a template is a part of its own between the expressions.
-/

namespace EnvInline.Syntax

/-- What a token is as a literal. -/
def Token.literal? : Token → Option Kind
  | .keyword "null" => some .nullLiteral
  | .keyword "true" => some (.booleanLiteral true)
  | .keyword "false" => some (.booleanLiteral false)
  | .string value raw => some (.stringLiteral value (some raw))
  | .number value raw => some (.numberLiteral value (some raw))
  | .bigint _ raw => some (.bigintLiteral raw)
  | .regex pattern flags => some (.regexLiteral pattern flags)
  | _ => none

/-- Reads a literal. -/
def literal : P Tree := do
  let start ← currentStart
  match (← current).literal? with
  | some kind =>
    bump
    nodeFrom start kind []
  | none => refuse .expressionExpected

/-- Reads a string. -/
def stringLiteral? : P (Option Tree) := do
  match ← current? with
  | some (.string ..) => return some (← literal)
  | _ => return none

/-- Reads the text of a template up to the next expression. Escapes that are no escapes may stand
in tagged templates only. -/
def templateText (isTagged : Bool) : P Tree := do
  let start ← currentStart
  match ← current with
  | .templateText raw problem =>
    bump
    match problem with
    | some f => if !isTagged then throw f
    | none => pure ()
    nodeFrom start (.templateText raw) []
  | _ => refuseToken "template token"

/-- Reads a template up to its closing mark, with `part` between `${` and `}`. -/
def templateParts (isTagged : Bool) (part : P Tree) : P (List Tree) := do
  expect "`"
  let mut parts := [← templateText isTagged]
  for _ in ← turns do
    if ← at? "`" then break
    expect "$\x7b"
    parts := (← part) :: parts
    expect "\x7d"
    parts := (← templateText isTagged) :: parts
  expect "`"
  return parts.reverse

end EnvInline.Syntax
