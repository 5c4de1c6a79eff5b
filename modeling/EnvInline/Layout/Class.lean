import EnvInline.Layout.Statement

/-!
# Layout of classes

The members of a class are written one per line, each with its modifiers in a fixed order.
-/

namespace EnvInline.Layout

open EnvInline.Syntax

/-- The word that says who may use a member. -/
def accessWords (mods : Modifiers) : List Piece := (mods.access.map (wordIf true)).getD []

/-- The words in front of a property. -/
def propertyWords (mods : Modifiers) : List Piece :=
  wordIf mods.isDeclare "declare" ++ accessWords mods ++ wordIf mods.isStatic "static" ++
    wordIf mods.isAbstract "abstract" ++ wordIf mods.isOverride "override" ++
    wordIf mods.isReadonly "readonly"

/-- The words in front of a method. -/
def memberWords (mods : Modifiers) : List Piece :=
  accessWords mods ++ wordIf mods.isStatic "static" ++ wordIf mods.isAbstract "abstract" ++
    wordIf mods.isOverride "override"

/-- The pieces of a method of a class. The comments that lead its name stand before all words. -/
def methodPieces (word : Option String) (mods : Modifiers) (key function : Part) : List Piece :=
  let words :=
    match word with
    | some w => wordIf true w
    | none => methodWords (modeOf function)
  [.leading key.span.lo] ++ memberWords mods ++ words ++ key.own ++ signIf mods.isOptional "?" ++
    functionTail function

/-- What a class extends and implements, and its members. -/
def classTail (body : Part) : List Piece :=
  let superclass := body.child 1
  let interfaces := body.items 3
  (if superclass.isAbsent then []
    else [.text " ", .text "extends", .text " "] ++ superclass.whole ++ (body.child 2).own) ++
  (if interfaces.isEmpty then []
    else [.text " ", .text "implements", .text " "] ++ commaList (interfaces.map Part.own)) ++
  [.text " ", .text "\x7b"] ++ lines [] ((body.items 4).map Part.own) [] ++ [.text "\x7d"]

/-- The pieces of a class. Type parameters are written after a name only. -/
def classPieces (isDeclare : Bool) (name body : Part) : List Piece :=
  let isAbstract :=
    match body.kind with
    | .classBody isAbstract => isAbstract
    | _ => false
  wordIf isDeclare "declare" ++ wordIf isAbstract "abstract" ++ [.text "class"] ++
    name.between [.text " "] (body.child 0).own ++ classTail body

/-- The pieces of a class or a member of one, after the comments that lead it. -/
def classPieces? (k : Kind) (ps : List Part) : Option (List Piece) :=
  match k, ps with
  | .classExpression, [name, body] => some (classPieces false name body)
  | .classDeclaration isDeclare, [name, body] => some (classPieces isDeclare name body)
  | .constructor mods, [_, params, body] =>
    some (accessWords mods ++ [.text "constructor"] ++ parameterPieces params.parts ++
      if body.isAbsent then [.text ";"] else body.own)
  | .classMethod word mods, [key, function] => some (methodPieces word mods key function)
  | .classProperty mods, [key, type, value] =>
    some (propertyWords mods ++ key.own ++ signIf mods.isOptional "?" ++
      signIf mods.isDefinite "!" ++ typed type ++ initialized value ++ [.text ";"])
  | .accessorProperty mods, [key, type, value] =>
    some (memberWords mods ++ [.text "accessor", .text " "] ++ key.own ++
      signIf (mods.isDefinite && type.isPresent) "!" ++ typed type ++ initialized value ++
      [.text ";"])
  | .staticBlock, [block] => some ([.text "static"] ++ block.own)
  | .emptyMember, _ => some [.text ";"]
  | _, _ => none

end EnvInline.Layout
