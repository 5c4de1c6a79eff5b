import EnvInline.Layout.Expression

/-!
# Layout of patterns

Patterns are written on one line, those of objects with blanks inside the braces.
-/

namespace EnvInline.Layout

open EnvInline.Syntax

/-- Parts on one line between braces. -/
def braced (items : List (List Piece)) (last : List Piece) : List Piece :=
  let inside := if items.isEmpty then [] else commaList items ++ last
  [.text "\x7b", .text " "] ++ inside ++ (if items.isEmpty then [] else [.text " "]) ++
    [.text "\x7d"]

/-- The words of a parameter that is also a property. -/
def parameterWords (mods : Modifiers) : List Piece :=
  (mods.access.map (wordIf true)).getD [] ++ wordIf mods.isOverride "override" ++
    wordIf mods.isReadonly "readonly"

/-- The pieces of a pattern, after the comments that lead it. -/
def patternPieces? (source : Source) (k : Kind) (span : Span) (ps : List Part) :
    Option (List Piece) :=
  let lastComma : List Piece :=
    if source.hasLastComma span then [.text ",", .text " "] else []
  match k, ps with
  | .arrayPattern isOptional, [es, type] =>
    let items := es.parts.map Part.whole
    some ([.text "["] ++ commaList items ++ (if items.isEmpty then [] else lastComma) ++
      [.text "]"] ++ signIf isOptional "?" ++ typed type)
  | .objectPattern isOptional, [ms, type] =>
    some (braced (ms.parts.map Part.own) lastComma ++ signIf isOptional "?" ++ typed type)
  | .restPattern, [p, type] => some ([.text "..."] ++ p.whole ++ typed type)
  | .defaultPattern, [p, value] => some (p.whole ++ initialized value)
  | .patternProperty, [key, p] => some (key.own ++ [.text ":", .text " "] ++ p.whole)
  | .patternShorthand, [name, value] => some (name.own ++ initialized value)
  | .parameterProperty mods, [p] => some (parameterWords mods ++ p.own)
  | _, _ => none

end EnvInline.Layout
