import EnvInline.Mapping

/-!
# Writing definition files

A value is written between quotes, so that it is read back as it is: single quotes or backticks
where the value holds no such character, double quotes with `\n` and `\r` for its line breaks
otherwise. A carriage return is kept by double quotes only.
-/

namespace EnvInline.Definition

/-- The value with its line breaks written as `\n` and `\r`. -/
def writeBreaks : List Char → List Char
  | [] => []
  | '\n' :: r => '\\' :: 'n' :: writeBreaks r
  | '\r' :: r => '\\' :: 'r' :: writeBreaks r
  | c :: r => c :: writeBreaks r

/-- The value between the quotes that suit it. -/
def quote (value : List Char) : List Char :=
  if '\r' ∉ value ∧ '\'' ∉ value then '\'' :: value ++ ['\'']
  else if '\r' ∉ value ∧ '`' ∉ value then '`' :: value ++ ['`']
  else '"' :: writeBreaks value ++ ['"']

/-- The line of one entry, with its line break. -/
def writeEntry (name value : String) : List Char :=
  name.toList ++ '=' :: quote value.toList ++ ['\n']

/-- A definition file with one line for each entry, in the order of the names. -/
def write (m : Mapping) : String :=
  String.ofList (m.toList.flatMap fun p => writeEntry p.1 p.2)

end EnvInline.Definition
