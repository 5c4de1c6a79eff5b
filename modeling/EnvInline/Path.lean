/-!
# Paths

A path is kept as it is written. Its components leave out empty segments and `.`, except for a `.`
in front of a relative path; two spellings with the same components name the same file from the
same directory.
-/

namespace EnvInline

/-- A path as it is written. -/
structure Path where
  text : String
deriving DecidableEq, Repr, Inhabited

namespace Path

/-- What a segment of a path stands for. -/
inductive Component where
  | root
  | current
  | parent
  | normal (name : String)
deriving DecidableEq, Repr

/-- A text cut at each slash. -/
def segments : List Char → List (List Char)
  | [] => [[]]
  | c :: r =>
    if c = '/' then [] :: segments r
    else match segments r with
      | [] => [[c]]
      | s :: ss => (c :: s) :: ss

/-- The path starts at the root. -/
def isAbsolute (p : Path) : Bool := p.text.toList.head? == some '/'

/-- What a segment stands for, if it is not the first of a relative path. -/
def component? (segment : List Char) : Option Component :=
  if segment = [] ∨ segment = ['.'] then none
  else if segment = ['.', '.'] then some .parent
  else some (.normal (String.ofList segment))

/-- The components of a path. -/
def components (p : Path) : List Component :=
  match segments p.text.toList with
  | [] => []
  | first :: rest =>
    if p.isAbsolute then .root :: rest.filterMap component?
    else if first = ['.'] then .current :: rest.filterMap component?
    else (first :: rest).filterMap component?

/-- Two spellings have the same components. -/
def same (p q : Path) : Bool := p.components == q.components

/-- The last component, if it is a name. -/
def fileName? (p : Path) : Option String :=
  match p.components.getLast? with
  | some (.normal name) => some name
  | _ => none

/-- The part of the file name after its last dot, unless that dot is the first character. -/
def extension? (p : Path) : Option String :=
  match p.fileName? with
  | none => none
  | some name =>
    let reversed := name.toList.reverse
    let after := reversed.takeWhile (· != '.')
    let before := (reversed.dropWhile (· != '.')).drop 1
    if before.isEmpty then none else some (String.ofList after.reverse)

/-- The text of a component. -/
def Component.text : Component → String
  | root => "/"
  | current => "."
  | parent => ".."
  | normal name => name

/-- A path with another one after it; an absolute one stands for itself. -/
def join (p q : Path) : Path :=
  if q.isAbsolute then q
  else if p.text.isEmpty || p.text.toList.getLast? == some '/' then ⟨p.text ++ q.text⟩
  else ⟨p.text ++ "/" ++ q.text⟩

/-- Segments without those at the end that stand for nothing. -/
def trimSegments (isAbsolute : Bool) : List (List Char) → List (List Char)
  | [] => []
  | s :: ss =>
    match trimSegments isAbsolute ss with
    | [] => if s = [] ∨ (isAbsolute ∧ s = ['.']) then [] else [s]
    | r => s :: r

/-- Segments without those at the end that stand for nothing, where a first `.` counts. -/
def trimEnd (p : Path) : List (List Char) :=
  match segments p.text.toList with
  | [] => []
  | first :: rest =>
    match trimSegments true rest with
    | [] => if first = [] then [] else [first]
    | r => first :: r

/-- Segments with slashes between them. -/
def joinSegments : List (List Char) → List Char
  | [] => []
  | [s] => s
  | s :: ss => s ++ '/' :: joinSegments ss

/-- The path without its last component. -/
def parent? (p : Path) : Option Path :=
  match p.components.getLast? with
  | none => none
  | some .root => none
  | some _ =>
    let before : Path := ⟨String.ofList (joinSegments p.trimEnd.dropLast)⟩
    let trimmed := joinSegments before.trimEnd
    if p.isAbsolute && trimmed.isEmpty then some ⟨"/"⟩ else some ⟨String.ofList trimmed⟩

/-- A path and those it is in, from the inside out, at most so many. -/
def ancestorsUpTo : Nat → Path → List Path
  | 0, p => [p]
  | n + 1, p =>
    match p.parent? with
    | none => [p]
    | some q => p :: ancestorsUpTo n q

/-- A path and those it is in, from the inside out. -/
def ancestors (p : Path) : List Path := ancestorsUpTo p.components.length p

/-- The path from the root, seen from a directory. Empty segments and `.` are left out and `..` is
kept; two slashes in front and a slash at the end are kept too. An empty path has none. -/
def absolute? (cwd p : Path) : Option Path :=
  if p.text.isEmpty then none
  else
    let cs := p.components
    let names := (cs.filter fun c => c != .root && c != .current).map Component.text
    let start : Path :=
      if p.isAbsolute then
        if p.text.startsWith "//" && !p.text.startsWith "///" then ⟨"//"⟩ else ⟨"/"⟩
      else cwd
    let all := names.foldl (fun q name => q.join ⟨name⟩) start
    if p.text.endsWith "/" then some (all.join ⟨""⟩) else some all

end Path

end EnvInline
