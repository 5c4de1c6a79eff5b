/-!
# Faults of JSON texts

What can be wrong with a JSON text, where, and how it is said. A line is counted from one; the
column is the number of bytes of the line that have been read.
-/

namespace EnvInline.Json

/-- Why a JSON text is refused. -/
inductive Cause where
  | endInList
  | endInObject
  | endInString
  | endInValue
  | expectedColon
  | expectedListEnd
  | expectedObjectEnd
  | expectedWord
  | expectedValue
  | invalidEscape
  | invalidNumber
  | numberOutOfRange
  | controlCharacter
  | keyNotString
  | loneSurrogate
  | trailingComma
  | trailingCharacters
  | unfinishedSurrogate
  | tooDeep
  | wrongType (found expected : String)
  | unknownField (name : String) (known : List String)
  | duplicateField (name : String)
deriving DecidableEq, Repr

/-- How the cause is said. -/
def Cause.message : Cause → String
  | endInList => "EOF while parsing a list"
  | endInObject => "EOF while parsing an object"
  | endInString => "EOF while parsing a string"
  | endInValue => "EOF while parsing a value"
  | expectedColon => "expected \x60:\x60"
  | expectedListEnd => "expected \x60,\x60 or \x60]\x60"
  | expectedObjectEnd => "expected \x60,\x60 or \x60\x7d\x60"
  | expectedWord => "expected ident"
  | expectedValue => "expected value"
  | invalidEscape => "invalid escape"
  | invalidNumber => "invalid number"
  | numberOutOfRange => "number out of range"
  | controlCharacter => "control character (\\u0000-\\u001F) found while parsing a string"
  | keyNotString => "key must be a string"
  | loneSurrogate => "lone leading surrogate in hex escape"
  | trailingComma => "trailing comma"
  | trailingCharacters => "trailing characters"
  | unfinishedSurrogate => "unexpected end of hex escape"
  | tooDeep => "recursion limit exceeded"
  | wrongType found expected => "invalid type: " ++ found ++ ", expected " ++ expected
  | unknownField name known =>
    "unknown field \x60" ++ name ++ "\x60, expected one of " ++
      ", ".intercalate (known.map fun k => "\x60" ++ k ++ "\x60")
  | duplicateField name => "duplicate field \x60" ++ name ++ "\x60"

/-- A place in a JSON text. -/
structure Position where
  line : Nat
  column : Nat
deriving DecidableEq, Repr, Inhabited

/-- The place behind a character. -/
def Position.after (p : Position) (c : Char) : Position :=
  if c = '\n' then ⟨p.line + 1, 0⟩ else ⟨p.line, p.column + c.utf8Size⟩

/-- The place behind so many bytes of a text, which may be inside of a character. -/
def Position.afterBytes (p : Position) : Nat → List Char → Position
  | 0, _ => p
  | _, [] => p
  | n, c :: r =>
    if n < c.utf8Size then ⟨p.line, p.column + n⟩ else (p.after c).afterBytes (n - c.utf8Size) r

/-- A cause with its place; the place may not be known yet. -/
structure Fault where
  cause : Cause
  position : Option Position
deriving DecidableEq, Repr

/-- How the fault is said. -/
def Fault.message (f : Fault) : String :=
  match f.position with
  | none => f.cause.message
  | some p =>
    f.cause.message ++ " at line " ++ toString p.line ++ " column " ++ toString p.column

end EnvInline.Json
