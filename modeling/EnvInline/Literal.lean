import EnvInline.Json.Value
import EnvInline.Syntax.Tree

/-!
# Literals

The expressions that values are written as. A text becomes a string, a missing one `void 0`; a JSON
value becomes the expression that denotes it, where a negative number is a minus sign before a
positive one.
-/

namespace EnvInline.Literal

open EnvInline.Syntax

/-- A string. -/
def string (span : Span) (value : String) : Tree := .node (.stringLiteral value none) span []

/-- A number that is not negative. -/
def number (span : Span) (value : Binary64) : Tree := .node (.numberLiteral value none) span []

/-- The shortest expression for `undefined`, which no declaration can shadow. -/
def undefined (span : Span) : Tree := .node (.unary "void") span [number span .zero]

/-- The expression of a value that may be missing. -/
def ofValue? (span : Span) : Option String → Tree
  | some value => string span value
  | none => undefined span

/-- The expression of a number. A zero of either sign has no minus sign. -/
def ofNumber (span : Span) (value : Binary64) : Tree :=
  if value.isNegative && !value.isZero then
    .node (.unary "-") span [number span value.neg]
  else number span value

mutual
/-- The expression of a JSON value. -/
def ofJson (span : Span) : Json → Tree
  | .null => .node .nullLiteral span []
  | .bool value => .node (.booleanLiteral value) span []
  | .number value => ofNumber span value.toBinary64
  | .string value => string span value
  | .array items => .node .array span (ofItems span items)
  | .object members => .node .object span (ofMembers span members)

/-- The expressions of the items of an array. -/
def ofItems (span : Span) : List Json → List Tree
  | [] => []
  | item :: items => ofJson span item :: ofItems span items

/-- The members of an object. -/
def ofMembers (span : Span) : List (String × Json) → List Tree
  | [] => []
  | (key, value) :: members =>
    .node .property span [string span key, ofJson span value] :: ofMembers span members
end

end EnvInline.Literal
