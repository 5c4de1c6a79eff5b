import EnvInline.Mapping
import EnvInline.Text.Lines
import EnvInline.Definition.Quoted
import EnvInline.Definition.Assignment

/-!
# Reading definition files

A definition file is read line by line. Each line is blank, malformed, an assignment, or a
continuation of the quoted value above it (`Role`); the entries and the numbers of the malformed
lines are read off the roles. Values are literal text: nothing is looked up anywhere.
-/

namespace EnvInline.Definition

open EnvInline.Text

/-- What one line of a definition file is. -/
inductive Role where
  /-- nothing but blanks, or a comment -/
  | blank
  /-- neither blank nor an assignment -/
  | malformed
  /-- the first line of an assignment -/
  | assignment (name value : String)
  /-- a further line of the quoted value that an assignment above opened -/
  | continuation
deriving DecidableEq, Repr

/-- The value that `text` holds after a separator, and the number of following lines it takes. -/
def readValue (text : List Char) (following : List (List Char)) : List Char × Nat :=
  match trimStart text with
  | [] => ([], 0)
  | c :: r =>
    if Quoted.isQuote c then
      (Quoted.read c r following).getD (Assignment.unquoted (c :: r), 0)
    else (Assignment.unquoted (c :: r), 0)

/-- The role of a line that starts afresh, and the number of following lines its value takes. -/
def readLine (line : List Char) (following : List (List Char)) : Role × Nat :=
  let line := trimStart line
  if line.isEmpty || line.head? == some '#' then (.blank, 0)
  else match Assignment.read? line with
    | none => (.malformed, 0)
    | some (name, text) =>
      let (value, used) := readValue text following
      (.assignment (String.ofList name) (String.ofList value), used)

/-- The role of each line; the first `owed` lines belong to a value above. -/
def roles : Nat → List (List Char) → List Role
  | _, [] => []
  | owed + 1, _ :: ls => .continuation :: roles owed ls
  | 0, l :: ls => (readLine l ls).1 :: roles (readLine l ls).2 ls

/-- The assignments among some lines. -/
def assignments (rs : List Role) : List (String × String) :=
  rs.filterMap fun
    | .assignment name value => some (name, value)
    | _ => none

/-- The numbers of the malformed lines, when the first line has the number `n`. -/
def malformedLines (n : Nat) : List Role → List Nat
  | [] => []
  | .malformed :: rs => n :: malformedLines (n + 1) rs
  | _ :: rs => malformedLines (n + 1) rs

/-- A definition file as read: its entries, of which the last for a name counts, and the numbers
of the lines that were skipped, counted from one. -/
structure Definitions where
  entries : Mapping
  skipped : List Nat
deriving DecidableEq, Repr

/-- Reads the lines of a definition file. -/
def readLines (lines : List (List Char)) : Definitions :=
  let rs := roles 0 lines
  ⟨.ofList (assignments rs), malformedLines 1 rs⟩

/-- Reads the text of a definition file. -/
def read (text : String) : Definitions :=
  readLines (splitLines (normalizeBreaks text.toList))

end EnvInline.Definition
