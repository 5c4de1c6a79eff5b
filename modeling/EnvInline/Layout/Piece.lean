import EnvInline.Syntax.Comment

/-!
# Pieces

What is written for a tree is a list of pieces: texts, line ends, changes of the indentation, and
the places where comments may stand. `Piece.render` writes the pieces one after the other. A comment
is written at the first piece that asks for its place, and only once; one that no piece asks for is
not written.
-/

namespace EnvInline.Layout

open EnvInline.Syntax

/-- One step of writing. -/
inductive Piece where
  | text (s : String)
  /-- ends the line, unless nothing is on it yet -/
  | line
  | indent
  | dedent
  /-- the comments that lead a place -/
  | leading (place : Nat)
  /-- the comments that trail a place -/
  | trailing (place : Nat)
  /-- ends the line if comments lead a place -/
  | lineIfLeading (place : Nat)
deriving DecidableEq, Repr, Inhabited

/-- What has been written so far, the depth of the indentation, whether nothing is on the line yet,
and the comments that are still to be written. The latest text is first. -/
structure Page where
  written : List String
  depth : Nat
  isFresh : Bool
  comments : List PlacedComment

namespace Page

/-- The page before anything is written. -/
def blank (comments : List PlacedComment) : Page := ⟨[], 0, true, comments⟩

/-- Four blanks for each level. -/
def margin : Nat → List String → List String
  | 0, w => w
  | n + 1, w => margin n ("    " :: w)

/-- Writes a text, after the indentation if it is the first of its line. -/
def write (p : Page) (s : String) : Page :=
  if s.isEmpty then p
  else { p with
    written := s :: (if p.isFresh then margin p.depth p.written else p.written)
    isFresh := false }

/-- Ends the line, unless nothing is on it. -/
def endLine (p : Page) : Page :=
  if p.isFresh then p else { p with written := "\n" :: p.written, isFresh := true }

/-- Writes a comment. A line ends after `// text`, and a blank follows `/* text */`. -/
def comment (p : Page) (before : String) (c : Comment) : Page :=
  if c.isBlock then
    ((((p.write before).write "/*").write c.text).write "*/").write " "
  else (((p.write before).write "//").write c.text).endLine

/-- Writes the comments that are chosen, each after a text, and takes them from the page. -/
def takeComments (p : Page) (before : String) (chosen : PlacedComment → Bool) : Page :=
  let (now, later) := p.comments.partition chosen
  now.foldl (fun p c => p.comment before c.comment) { p with comments := later }

/-- Does one step. -/
def step (p : Page) : Piece → Page
  | .text s => p.write s
  | .line => p.endLine
  | .indent => { p with depth := p.depth + 1 }
  | .dedent => { p with depth := p.depth - 1 }
  | .leading place => p.takeComments "" fun c => c.leads && c.place == place
  | .trailing place => p.takeComments " " fun c => !c.leads && c.place == place
  | .lineIfLeading place =>
    if p.comments.any fun c => c.leads && c.place == place then p.endLine else p

/-- The text of the page. -/
def text (p : Page) : String := String.join p.written.reverse

end Page

/-- The text that is written for some pieces. -/
def Piece.render (comments : List PlacedComment) (pieces : List Piece) : String :=
  (pieces.foldl Page.step (.blank comments)).text

end EnvInline.Layout
