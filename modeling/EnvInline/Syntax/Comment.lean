import EnvInline.Syntax.Tree

/-!
# Comments

A comment belongs to a place in the text: it leads what starts there, or it trails what ends there.
-/

namespace EnvInline.Syntax

/-- A comment: `// text`, or `/* text */` if it is a block. -/
structure Comment where
  isBlock : Bool
  text : String
deriving DecidableEq, Repr, Inhabited

/-- A comment with the place it belongs to. -/
structure PlacedComment where
  leads : Bool
  place : Nat
  comment : Comment
deriving DecidableEq, Repr, Inhabited

end EnvInline.Syntax
