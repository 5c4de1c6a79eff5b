import EnvInline.Text.Blank

/-!
# Assignments

The form of one assignment, `NAME=text` or `NAME: text`, with an optional `export` before it.
-/

namespace EnvInline.Definition.Assignment

open EnvInline.Text

/-- The characters of names: ASCII letters and digits, `_`, `.` and `-`. -/
def isNameChar (c : Char) : Bool :=
  c.isAlphanum || c == '_' || c == '.' || c == '-'

/-- The text after a separator: `=` after spaces or tabs, or `:` when the line ends there or a
space or tab follows. -/
def afterSeparator? (rest : List Char) : Option (List Char) :=
  match rest.dropWhile isSpaceOrTab with
  | '=' :: value => some value
  | _ =>
    match rest with
    | [':'] => some []
    | ':' :: c :: value => if isSpaceOrTab c then some (c :: value) else none
    | _ => none

/-- The name at the start of `line` and the text after its separator. -/
def split? (line : List Char) : Option (List Char × List Char) :=
  let name := line.takeWhile isNameChar
  if name.isEmpty then none
  else (afterSeparator? (line.dropWhile isNameChar)).map (name, ·)

/-- What follows the word `export` and at least one space or tab. -/
def afterExport? (line : List Char) : Option (List Char) :=
  match line with
  | 'e' :: 'x' :: 'p' :: 'o' :: 'r' :: 't' :: c :: r =>
    if isSpaceOrTab c then some (trimStart r) else none
  | _ => none

/-- The assignment on a line; a reading after `export` comes first. -/
def read? (line : List Char) : Option (List Char × List Char) :=
  match (afterExport? line).bind split? with
  | some p => some p
  | none => split? line

/-- An unquoted value ends at `#` and has no blanks at its ends. -/
def unquoted (text : List Char) : List Char :=
  trim (text.takeWhile (· ≠ '#'))

end EnvInline.Definition.Assignment
