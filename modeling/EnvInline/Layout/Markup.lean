import EnvInline.Layout.Expression

/-!
# Layout of markup

Elements are written as they stand in the text: the text between two tags keeps its lines.
-/

namespace EnvInline.Layout

open EnvInline.Syntax

/-- The pieces of markup. -/
def markupPieces? (k : Kind) (ps : List Part) : Option (List Piece) :=
  match k, ps with
  | .element, [opening, children, closing] =>
    some (opening.own ++ children.parts.flatMap Part.own ++ closing.own)
  | .fragment, children =>
    some ([.text "<", .text ">"] ++ children.flatMap Part.own ++ [.text "</", .text ">"])
  | .openingTag selfClosing, [name, args, attributes] =>
    some ([.text "<"] ++ name.own ++ args.own ++
      (attributes.parts.flatMap fun a => [.text " "] ++ a.own) ++ signIf selfClosing "/" ++
      [.text ">"])
  | .closingTag, [name] => some ([.text "</"] ++ name.own ++ [.text ">"])
  | .tagAttribute, [name, value] => some (name.own ++ value.between [.text "="] [])
  | .spreadAttribute, [e] => some ([.text "\x7b", .text "..."] ++ e.whole ++ [.text "\x7d"])
  | .container, [e] =>
    let inside := if e.kind == .emptyExpression then e.own else e.whole
    some ([.text "\x7b"] ++ inside ++ [.text "\x7d"])
  | .emptyExpression, _ => some []
  | .spreadChild, [e] => some ([.text "\x7b", .text "..."] ++ e.whole ++ [.text "\x7d"])
  | .markupText raw, _ => some [.text raw]
  | .tagMember, [object, name] => some (object.own ++ [.text "."] ++ name.own)
  | .tagNamespace, [space, name] => some (space.own ++ [.text ":"] ++ name.own)
  | _, _ => none

end EnvInline.Layout
