import EnvInline.Layout.Module

/-!
# Layout of types

Types, the declarations of types, and their members.
-/

namespace EnvInline.Layout

open EnvInline.Syntax

/-- Members between braces, one per line. -/
def memberLines (separator : List Piece) (ps : List (List Piece)) : List Piece :=
  [.text "\x7b"] ++ lines separator ps [] ++ [.text "\x7d"]

/-- Parameters of a type in parentheses. -/
def signature (params : Part) : List Piece :=
  [.text "("] ++ commaList (params.parts.map Part.own) ++ [.text ")"]

/-- The sign and the word of a modifier of a mapped type. -/
def mappedWord (sign : MappedSign) (word : String) : List Piece :=
  match sign with
  | .absent => []
  | .bare => [.text word]
  | .plus => [.text "+", .text word]
  | .minus => [.text "-", .text word]

/-- The key of a member, in brackets if it is an expression. -/
def keyPieces (isComputed : Bool) (key : Part) : List Piece :=
  if isComputed then [.text "["] ++ key.whole ++ [.text "]"] else key.own

/-- Texts and types of a template in turn. -/
def templateTypeParts : List Part → List Piece
  | [] => []
  | p :: ps =>
    match p.kind with
    | .templateText _ => p.own ++ templateTypeParts ps
    | _ => [.text "$\x7b"] ++ p.own ++ [.text "\x7d"] ++ templateTypeParts ps

/-- The pieces of a type parameter or a list of types. -/
def typeListPieces? (k : Kind) (ps : List Part) : Option (List Piece) :=
  match k, ps with
  | .colonType, [type] => some type.own
  | .typeParameters, ps | .typeArguments, ps =>
    some ([.text "<"] ++ commaList (ps.map Part.own) ++ [.text ">"])
  | .typeParameter isConst isIn isOut, [name, constraint, default] =>
    some (wordIf isConst "const" ++ wordIf isIn "in" ++ wordIf isOut "out" ++ name.own ++
      constraint.between [.text " ", .text "extends", .text " "] [] ++
      default.between [.text " ", .text "=", .text " "] [])
  | .unionType, ts => some (sepBy [.text " ", .text "|", .text " "] (ts.map Part.own))
  | .intersectionType, ts =>
    some (sepBy [.text " ", .text "&", .text " "] (ts.map Part.own))
  | .tupleElement, [label, type] => some (label.between [] [.text ":", .text " "] ++ type.own)
  | .templateType, ps => some ([.text "\x60"] ++ templateTypeParts ps ++ [.text "\x60"])
  | _, _ => none

/-- The pieces of a type. -/
def typePieces? (source : Source) (k : Kind) (span : Span) (ps : List Part) :
    Option (List Piece) :=
  match k, ps with
  | .keywordType word, _ => some [.text word]
  | .thisType, _ => some [.text "this"]
  | .typeReference, [name, args] => some (name.own ++ args.own)
  | .qualifiedName, [left, right] => some (left.own ++ [.text "."] ++ right.own)
  | .heritage, [e, args] => some (e.whole ++ args.own)
  | .typeQuery, [name, args] => some ([.text "typeof", .text " "] ++ name.own ++ args.own)
  | .importType, [argument, qualifier, args] =>
    some ([.text "import", .text "("] ++ argument.own ++ [.text ")"] ++
      qualifier.between [.text "."] [] ++ args.own)
  | .typeLiteral, ms => some (memberLines [] (ms.map fun m => m.own ++ [.text ";"]))
  | .arrayType, [type] => some (type.own ++ [.text "[", .text "]"])
  | .tupleType, ts =>
    let last : List Piece :=
      if source.hasLastComma span && !ts.isEmpty then [.text ",", .text " "] else []
    some ([.text "["] ++ commaList (ts.map Part.own) ++ last ++ [.text "]"])
  | .optionalType, [type] => some (type.own ++ [.text "?"])
  | .restType, [type] => some ([.text "..."] ++ type.own)
  | .conditionalType, [check, parent, yes, no] =>
    some (check.own ++ [.text " ", .text "extends", .text " "] ++ parent.own ++
      [.text " ", .text "?", .text " "] ++ yes.own ++ [.text " ", .text ":", .text " "] ++ no.own)
  | .inferType, [parameter] => some ([.text "infer", .text " "] ++ parameter.own)
  | .parenType, [type] => some ([.text "("] ++ type.own ++ [.text ")"])
  | .typeOperator word, [type] => some ([.text word, .text " "] ++ type.own)
  | .indexedAccess, [object, index] => some (object.own ++ [.text "["] ++ index.own ++ [.text "]"])
  | .mappedType readonly optional, [parameter, name, type] =>
    let word := mappedWord readonly "readonly"
    some ([.text "\x7b", .line, .indent] ++ word ++ (if word.isEmpty then [] else [.text " "]) ++
      [.text "["] ++ (parameter.child 0).own ++ [.text " ", .text "in", .text " "] ++
      (parameter.child 1).own ++ name.between [.text " ", .text "as", .text " "] [] ++
      [.text "]"] ++ mappedWord optional "?" ++ type.between [.text ":", .text " "] [] ++
      [.text ";", .line, .dedent, .text "\x7d"])
  | .literalType, [literal] => some literal.own
  | .typePredicate asserts, [name, type] =>
    some (wordIf asserts "asserts" ++ name.own ++ type.between [.text " ", .text "is", .text " "] [])
  | .functionType, [typeParams, params, result] =>
    some (typeParams.own ++ signature params ++ [.text " ", .text "=>", .text " "] ++ result.own)
  | .constructorType isAbstract, [typeParams, params, result] =>
    some (wordIf isAbstract "abstract" ++ [.text "new"] ++ typeParams.between [.text " "] [] ++
      signature params ++ [.text " ", .text "=>", .text " "] ++ result.own)
  | _, _ => typeListPieces? k ps

/-- The pieces of a member of a type. -/
def typeMemberPieces? (k : Kind) (ps : List Part) : Option (List Piece) :=
  match k, ps with
  | .callSignature, [typeParams, params, result] =>
    some (typeParams.own ++ signature params ++ typed result)
  | .constructSignature, [typeParams, params, result] =>
    some ([.text "new"] ++ typeParams.between [.text " "] [] ++ signature params ++ typed result)
  | .propertySignature isReadonly isComputed isOptional, [key, type] =>
    some (wordIf isReadonly "readonly" ++ keyPieces isComputed key ++ signIf isOptional "?" ++
      typed type)
  | .methodSignature isComputed isOptional, [key, typeParams, params, result] =>
    some (keyPieces isComputed key ++ signIf isOptional "?" ++ typeParams.own ++
      signature params ++ typed result)
  | .getterSignature isComputed, [key, result] =>
    some ([.text "get", .text " "] ++ keyPieces isComputed key ++ [.text "(", .text ")"] ++
      typed result)
  | .setterSignature isComputed, [key, parameter] =>
    some ([.text "set", .text " "] ++ keyPieces isComputed key ++ [.text "("] ++ parameter.own ++
      [.text ")"])
  | .indexSignature isStatic isReadonly, [params, type] =>
    some (wordIf isStatic "static" ++ wordIf isReadonly "readonly" ++ [.text "["] ++
      commaList (params.parts.map Part.own) ++ [.text "]"] ++ typed type)
  | _, _ => none

/-- The name of a module in nested form, with its body. -/
def namespaceTail (p : Part) : List Piece := p.own

/-- The pieces of a declaration that only types need. -/
def typeDeclarationPieces? (k : Kind) (span : Span) (ps : List Part) : Option (List Piece) :=
  match k, ps with
  | .interfaceDeclaration isDeclare, [name, typeParams, parents, members] =>
    some (wordIf isDeclare "declare" ++ [.text "interface", .text " "] ++ name.own ++
      typeParams.own ++
      (if parents.parts.isEmpty then []
        else [.text " ", .text "extends", .text " "] ++ commaList (parents.parts.map Part.own)) ++
      [.text " "] ++ memberLines [] (members.parts.map fun m => m.own ++ [.text ";"]))
  | .typeAlias isDeclare, [name, typeParams, type] =>
    some (wordIf isDeclare "declare" ++ [.text "type", .text " "] ++ name.own ++ typeParams.own ++
      [.text " ", .text "=", .text " "] ++ type.own ++ [.text ";"])
  | .enumDeclaration isDeclare isConst, [name, members] =>
    some (wordIf isDeclare "declare" ++ wordIf isConst "const" ++ [.text "enum", .text " "] ++
      name.own ++ [.text " "] ++ memberLines [.text ","] (members.parts.map Part.own))
  | .enumMember, [key, value] => some (key.own ++ initialized value)
  | .namespaceDeclaration isDeclare isGlobal _, [name, body] =>
    let isText := match name.kind with | .stringLiteral .. => true | _ => false
    some (wordIf isDeclare "declare" ++
      (if isGlobal then [] else [.text (if isText then "module" else "namespace"), .text " "]) ++
      name.own ++ body.between [.text " "] [])
  | .namespaceTail, [name, body] => some (name.own ++ body.between [.text " "] [])
  | .namespaceBody, items =>
    some ([.text "\x7b"] ++ linesOrNothing span [] (items.map itemPieces) [] ++ [.text "\x7d"])
  | _, _ => none

end EnvInline.Layout
