import EnvInline.Layout.Print
import EnvInline.Substitution
import EnvInline.Syntax.Parse
import EnvInline.Syntax.Scope
import EnvInline.Text.Width

/-!
# Source files

A source file is read, its imports are replaced, and the result is written. The ending of its name
says which dialect it is written in. What goes wrong is said with the file, the line and the column.
-/

namespace EnvInline

open EnvInline.Syntax

/-- A file with its name and its text. -/
structure SourceFile where
  name : String
  text : String
deriving DecidableEq, Repr

/-- The dialect of a file: types after `ts`, `mts` and `cts`, types and elements after `tsx`,
elements otherwise. -/
def Syntax.Dialect.ofFileName (name : String) : Dialect :=
  match (Path.mk name).extension? with
  | some "ts" | some "mts" | some "cts" => ⟨true, false⟩
  | some "tsx" => ⟨true, true⟩
  | _ => ⟨false, true⟩

/-- A line and a column, both counted from one. Columns are those of a display, and a character
that two units of UTF-16 stand for takes one more. -/
structure Location where
  line : Nat
  column : Nat
deriving DecidableEq, Repr

/-- How far a character moves the column. -/
def Location.advance (c : Char) : Nat :=
  Text.displayWidth c + if 0x10000 ≤ c.toNat then 1 else 0

/-- The location of a byte of a text, behind the characters before it. -/
def Location.go (l : Location) : Nat → List Char → Location
  | _, [] => l
  | 0, _ => l
  | n, c :: r =>
    let l : Location :=
      if c = '\n' then ⟨l.line + 1, 1⟩ else ⟨l.line, l.column + advance c⟩
    l.go (n - c.utf8Size) r

/-- The location of a byte of a text. -/
def Location.ofPlace (text : String) (place : Nat) : Location :=
  Location.go ⟨1, 1⟩ place text.toList

/-- What can be wrong with a file. -/
inductive SourceError where
  | unreadable (error : SyntaxError)
  | refused (error : ImportError)
deriving DecidableEq, Repr

/-- How the error is said. -/
def SourceError.message : SourceError → String
  | unreadable error => "syntax error: " ++ error.message
  | refused error => error.message

/-- An error with the file it is about and its location there. -/
structure SourceFault where
  file : String
  location : Location
  error : SourceError
deriving DecidableEq, Repr

/-- How the fault is said. -/
def SourceFault.message (f : SourceFault) : String :=
  f.file ++ ":" ++ toString f.location.line ++ ":" ++ toString f.location.column ++ ": " ++
    f.error.message

/-- What a file becomes, and what was changed. -/
structure Output where
  code : String
  report : Report
deriving DecidableEq, Repr

namespace SourceFile

/-- The tree of a file with the scopes of its names, and its comments. A file with any fault is
refused, even if it could be read to its end. -/
def read (file : SourceFile) : Except SourceFault (Tree × List PlacedComment) :=
  let fail (f : Fault) : Except SourceFault (Tree × List PlacedComment) :=
    .error ⟨file.name, .ofPlace file.text f.place, .unreadable f.cause⟩
  match parse (.ofFileName file.name) true file.text with
  | .error f => fail f
  | .ok parsed =>
    match parsed.fault? with
    | some f => fail f
    | none => .ok (parsed.tree.resolve, parsed.comments)

/-- The file with its imports replaced. -/
def transform (options : Options) (values : Mapping) (file : SourceFile) :
    Except SourceFault Output :=
  match file.read with
  | .error f => .error f
  | .ok (tree, comments) =>
    match Substitution.run options values tree with
    | .error f => .error ⟨file.name, .ofPlace file.text f.span.lo, .refused f.error⟩
    | .ok (result, report) => .ok ⟨result.print file.text comments, report⟩

end SourceFile

/-- The imports of a program replaced. Without scopes, all variables of one name are the same; a
script has no imports. -/
def Program.transform (options : Options) (values : Mapping) (isScript withScopes : Bool)
    (tree : Tree) : Except ImportFault Report :=
  if isScript then .ok .none
  else
    let tree := if withScopes then tree.resolve else tree
    (Substitution.run options values tree).map (·.2)

end EnvInline
