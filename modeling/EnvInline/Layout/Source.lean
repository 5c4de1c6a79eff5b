import EnvInline.Syntax.Tree
import EnvInline.Text.Blank

/-!
# What the layout asks of the text

Few decisions of the layout depend on the text that a tree was read from: a list of elements keeps
the comma after its last element.
-/

namespace EnvInline.Layout

open EnvInline.Syntax

/-- The text that a tree was read from. -/
structure Source where
  chars : List Char

namespace Source

/-- The characters without the first ones, which have so many bytes. -/
def dropBytes : Nat → List Char → List Char
  | _, [] => []
  | 0, s => s
  | n, c :: r => dropBytes (n - c.utf8Size) r

/-- The first characters, which have so many bytes. -/
def takeBytes : Nat → List Char → List Char
  | _, [] => []
  | 0, _ => []
  | n, c :: r => c :: takeBytes (n - c.utf8Size) r

/-- The text of a place. -/
def at_ (source : Source) (span : Span) : List Char :=
  takeBytes (span.hi - span.lo) (dropBytes span.lo source.chars)

/-- A comma stands before the closing bracket of a list. -/
def hasLastComma (source : Source) (span : Span) : Bool :=
  let text := source.at_ span
  3 ≤ span.hi - span.lo &&
    (text.dropLast.reverse.dropWhile Text.isBlank).head? == some ','

end Source

end EnvInline.Layout
