import EnvInline.Layout.Piece

/-!
# Parts

A tree is laid out from its leaves up. A `Part` is a node whose children have been laid out: what
it is, the pieces that stand for it, and its children. How a part is written may depend on where it
stands, so the node around it chooses between its own pieces alone and those with the comments that
trail it, and looks at its children where it needs them apart.
-/

namespace EnvInline.Layout

open EnvInline.Syntax

/-- A node that has been laid out. -/
inductive Part where
  | mk (kind : Kind) (span : Span) (own : List Piece) (parts : List Part)

namespace Part

/-- What the node is. -/
def kind : Part → Kind
  | mk k _ _ _ => k

/-- The place of the node. -/
def span : Part → Span
  | mk _ s _ _ => s

/-- The pieces that stand for the node alone. -/
def own : Part → List Piece
  | mk _ _ o _ => o

/-- The children of the node. -/
def parts : Part → List Part
  | mk _ _ _ ps => ps

/-- A part that is missing. -/
def none : Part := mk .absent ⟨0, 0⟩ [] []

instance : Inhabited Part := ⟨none⟩

/-- The part is missing. -/
def isAbsent (p : Part) : Bool := p.kind == .absent

/-- The part is there. -/
def isPresent (p : Part) : Bool := !p.isAbsent

/-- The child at a place, `none` beyond the last. -/
def child (p : Part) (i : Nat) : Part := p.parts.getD i none

/-- The parts of the sequence that is the child at a place. -/
def items (p : Part) (i : Nat) : List Part := (p.child i).parts

/-- The pieces of the node with the comments that trail it, as an expression or a pattern is
written. -/
def whole (p : Part) : List Piece :=
  if p.isAbsent then [] else p.own ++ [.trailing p.span.hi]

/-- The pieces of the node between two others, if it is there. -/
def between (p : Part) (before after : List Piece) : List Piece :=
  if p.isAbsent then [] else before ++ p.own ++ after

end Part

/-- A word with a blank after it, if it is to be written. -/
def wordIf (condition : Bool) (word : String) : List Piece :=
  if condition then [.text word, .text " "] else []

/-- A sign, if it is to be written. -/
def signIf (condition : Bool) (sign : String) : List Piece :=
  if condition then [.text sign] else []

/-- A type after a colon, if there is one. -/
def typed (type : Part) : List Piece := type.between [.text ":", .text " "] []

/-- A value after `=`, if there is one. -/
def initialized (value : Part) : List Piece :=
  if value.isAbsent then [] else [.text " ", .text "=", .text " "] ++ value.whole

/-- Pieces one after the other with others between. -/
def sepBy (between : List Piece) : List (List Piece) → List Piece
  | [] => []
  | [p] => p
  | p :: ps => p ++ between ++ sepBy between ps

/-- Parts with commas between them, on one line. -/
def commaList (items : List (List Piece)) : List Piece :=
  sepBy [.text ",", .text " "] items

/-- Parts one per line between a pair of brackets, indented; the closing bracket is on a line of
its own. -/
def lines (separator : List Piece) (items : List (List Piece)) (last : List Piece) :
    List Piece :=
  if items.isEmpty then [.line]
  else [.line, .indent] ++ sepBy (separator ++ [.line]) items ++ last ++ [.dedent, .line]

/-- The same with the comments that lead the closing bracket; nothing at all stands between the
brackets if there are neither parts nor comments. -/
def linesOrNothing (span : Span) (separator : List Piece) (items : List (List Piece))
    (last : List Piece) : List Piece :=
  let closing := span.hi - 1
  if items.isEmpty then [.lineIfLeading closing, .leading closing]
  else lines separator items last ++ [.leading closing]

end EnvInline.Layout
