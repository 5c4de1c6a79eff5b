import EnvInline.Layout.Markup
import EnvInline.Layout.Type

/-!
# Printing

`Tree.print` lays out a tree from its leaves up and writes the pieces of its root, with the
comments at the places they belong to.
-/

namespace EnvInline.Layout

open EnvInline.Syntax

/-- The pieces of a node, after the comments that lead it. -/
def piecesOf (source : Source) (k : Kind) (span : Span) (ps : List Part) : List Piece :=
  (valuePieces? source k span ps <|> patternPieces? source k span ps <|>
    statementPieces? k span ps <|> classPieces? k ps <|> modulePieces? k span ps <|>
    typePieces? source k span ps <|> typeMemberPieces? k ps <|>
    typeDeclarationPieces? k span ps <|> markupPieces? k ps).getD []

/-- The comments that lead a node are written before it. Markup has none of its own. -/
def leadingPieces (k : Kind) (span : Span) : List Piece :=
  match k with
  | .absent | .list | .function _ | .classBody _ | .templateText _ | .emptyExpression
  | .markupText _ => []
  | _ => [.leading span.lo]

mutual
/-- A tree laid out. -/
def layOut (source : Source) : Tree → Part
  | .node k span cs =>
    let ps := layOutMany source cs
    .mk k span (leadingPieces k span ++ piecesOf source k span ps) ps

/-- Trees laid out. -/
def layOutMany (source : Source) : List Tree → List Part
  | [] => []
  | t :: ts => layOut source t :: layOutMany source ts
end

end EnvInline.Layout

namespace EnvInline.Syntax

/-- The text of a tree that was read from a text with some comments. -/
def Tree.print (t : Tree) (text : String) (comments : List PlacedComment) : String :=
  Layout.Piece.render comments (Layout.layOut ⟨text.toList⟩ t).own

end EnvInline.Syntax
