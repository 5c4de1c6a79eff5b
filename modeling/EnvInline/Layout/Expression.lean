import EnvInline.Layout.Part
import EnvInline.Layout.Quoted
import EnvInline.Layout.Source
import EnvInline.Text.Lines

/-!
# Layout of expressions

Names, literals, operators, calls, functions, arrays and objects. The pieces of a node start with
the comments that lead it; `valuePieces?` gives what follows them.
-/

namespace EnvInline.Layout

open EnvInline.Syntax

/-- An expression between brackets. -/
def bracketed (p : Part) : List Piece := [.text "["] ++ p.whole ++ [.text "]"]

/-- Expressions with commas between them, in parentheses. -/
def arguments (ps : List Part) : List Piece :=
  [.text "("] ++ commaList (ps.map Part.whole) ++ [.text ")"]

/-- The text of a template: CR LF and CR become LF. -/
def templateText (raw : String) : String := .ofList (Text.normalizeBreaks raw.toList)

/-- Texts and expressions of a template in turn. -/
def templateParts : List Part → List Piece
  | [] => []
  | p :: ps =>
    match p.kind with
    | .templateText _ => p.own ++ templateParts ps
    | _ => [.text "$\x7b"] ++ p.whole ++ [.text "\x7d"] ++ templateParts ps

/-- The spelling of a number could take a following dot as its own. -/
def takesDot (p : Part) : Bool :=
  match p.kind with
  | .numberLiteral value raw =>
    match raw with
    | some raw =>
      let digits := raw.toList.filter (· != '_')
      digits.all (·.isDigit) && !(digits.length ≥ 2 && digits.head? == some '0')
    | none => !(value.text.toList.contains '.')
  | _ => false

/-- A callee; a word has no comments after it. -/
def calleePieces (p : Part) : List Piece :=
  match p.kind with
  | .superWord | .importWord => p.own
  | _ => p.whole

/-- A member of an object. -/
def memberPieces (object name : Part) : List Piece :=
  let lo := name.span.lo
  let dot (back : Nat) : List Piece := [.leading (lo - back), .text "."]
  calleePieces object ++ (if takesDot object then dot 2 else []) ++ dot 1 ++ name.own

/-- The sign of an operator must be kept apart from its operand. -/
def needsBlank (op : String) (operand : Part) : Bool :=
  match operand.kind with
  | .unary inner => inner == op && (op == "+" || op == "-")
  | .update inner before => before && inner == op ++ op
  | _ => false

/-- An operator before its operand. -/
def unaryPieces (op : String) (operand : Part) : List Piece :=
  let isWord := op == "typeof" || op == "void" || op == "delete"
  [.text op] ++ (if isWord || needsBlank op operand then [.text " "] else []) ++ operand.whole

/-- Parameters in parentheses. -/
def parameterPieces (params : List Part) : List Piece := arguments params

/-- Type parameters, parameters, return type and body of a function. -/
def functionTail (function : Part) : List Piece :=
  let body := function.child 3
  (function.child 0).own ++ parameterPieces (function.items 1) ++ typed (function.child 2) ++
    (if body.isAbsent then [.text ";"] else [.text " "] ++ body.own)

/-- The words in front of a function of some mode. -/
def functionWords (mode : FunctionMode) : List Piece :=
  wordIf mode.isAsync "async" ++ [.text "function"] ++ signIf mode.isGenerator "*"

/-- The mode of a function. -/
def modeOf (function : Part) : FunctionMode :=
  match function.kind with
  | .function mode => mode
  | _ => ⟨false, false⟩

/-- The words in front of the name of a method. -/
def methodWords (mode : FunctionMode) : List Piece :=
  wordIf mode.isAsync "async" ++ signIf mode.isGenerator "*"

/-- A function with its name, which may be missing. -/
def functionPieces (name function : Part) : List Piece :=
  functionWords (modeOf function) ++ name.between [.text " "] [] ++ functionTail function

/-- A function with an arrow. -/
def arrowPieces (mode : FunctionMode) (typeParams : Part) (params : List Part)
    (result body : Part) : List Piece :=
  wordIf mode.isAsync "async" ++ typeParams.own ++ parameterPieces params ++
    (if result.isAbsent then [] else typed result ++ [.text " "]) ++ [.text "=>"] ++
    (if body.kind == .block then body.own else [.indent] ++ body.whole ++ [.dedent])

/-- A number with its spelling, or in decimal. -/
def numberText (value : Binary64) (raw : Option String) : String := raw.getD value.text

/-- A string with its spelling, or quoted. -/
def stringText (value : String) (raw : Option String) : String := raw.getD (quoted value)

/-- The pieces of a name or a literal. -/
def leafPieces? (k : Kind) (ps : List Part) : Option (List Piece) :=
  match k, ps with
  | .reference id, _ | .target id, _ | .tagName id, _ => some [.text id.name]
  | .shorthand id, _ => some [.text id.name]
  | .binding id isOptional, type :: _ =>
    some ([.text id.name] ++ signIf isOptional "?" ++ typed type)
  | .name w, _ => some [.text w]
  | .privateName w, _ => some [.text "#", .text w]
  | .nullLiteral, _ => some [.text "null"]
  | .booleanLiteral b, _ => some [.text (if b then "true" else "false")]
  | .numberLiteral value raw, _ => some [.text (numberText value raw)]
  | .bigintLiteral raw, _ => some [.text raw]
  | .stringLiteral value raw, _ => some [.text (stringText value raw)]
  | .regexLiteral pattern flags, _ => some [.text "/", .text pattern, .text "/", .text flags]
  | .templateText raw, _ => some [.text (templateText raw)]
  | .thisWord, _ => some [.text "this"]
  | .superWord, _ => some [.text "super"]
  | .importWord, _ => some [.text "import"]
  | .newTarget, _ => some [.text "new.target"]
  | .importMeta, _ => some [.text "import.meta"]
  | _, _ => none

/-- The pieces of a member of an object. -/
def objectMemberPieces? (k : Kind) (ps : List Part) : Option (List Piece) :=
  match k, ps with
  | .spread, [e] => some ([.text "..."] ++ e.whole)
  | .property, [key, value] => some (key.own ++ [.text ":", .text " "] ++ value.whole)
  | .coverDefault id, [value] => some ([.text id.name, .text " ", .text "=", .text " "] ++ value.whole)
  | .getter, [key, _, body] =>
    some ([.text "get", .text " "] ++ key.own ++ [.text " ", .text "(", .text ")", .text " "] ++
      body.own)
  | .setter, [key, parameter, body] =>
    some ([.text "set", .text " "] ++ key.own ++ [.text " ", .text "("] ++ parameter.whole ++
      [.text ")"] ++ body.own)
  | .method, [key, function] =>
    some (methodWords (modeOf function) ++ key.own ++ [.text " "] ++ functionTail function)
  | .computedKey, [e] => some (bracketed e)
  | _, _ => none

/-- The pieces of an expression that is built from others. -/
def operatorPieces? (k : Kind) (ps : List Part) : Option (List Piece) :=
  match k, ps with
  | .unary op, [e] => some (unaryPieces op e)
  | .update op before, [e] =>
    some (if before then [.text op] ++ e.whole else e.whole ++ [.text op])
  | .binary op, [a, b] =>
    some (a.whole ++ [.text " ", .text op, .text " "] ++ b.whole)
  | .assignment op, [target, value] =>
    some (target.whole ++ [.text " ", .text op, .text " "] ++ value.whole)
  | .conditional, [test, yes, no] =>
    some (test.whole ++ [.text " ", .text "?", .text " "] ++ yes.whole ++
      [.text " ", .text ":", .text " "] ++ no.whole)
  | .member, [object, name] => some (memberPieces object name)
  | .index, [object, e] => some (calleePieces object ++ bracketed e)
  | .chainMember isOptional, [object, name] =>
    some (object.whole ++ [.text (if isOptional then "?." else ".")] ++ name.own)
  | .chainIndex isOptional, [object, e] =>
    some (object.whole ++ signIf isOptional "?." ++ bracketed e)
  | .chainCall isOptional, [callee, _, args] =>
    some (callee.whole ++ signIf isOptional "?." ++ arguments args.parts)
  | .call, [callee, typeArgs, args] =>
    some (calleePieces callee ++ typeArgs.own ++ arguments args.parts)
  | .newCall, [callee, typeArgs, args] =>
    some ([.text "new", .text " "] ++ callee.whole ++ typeArgs.own ++
      (if args.isAbsent then [] else arguments args.parts))
  | .sequence, es => some (commaList (es.map Part.whole))
  | .paren, [e] => some ([.text "("] ++ e.whole ++ [.text ")"])
  | .yieldExpression delegate, [e] =>
    some ([.text "yield"] ++ signIf delegate "*" ++
      (if e.isAbsent then [] else [.text " "] ++ e.whole))
  | .awaitExpression, [e] => some ([.text "await", .text " "] ++ e.whole)
  | _, _ => none

/-- The pieces of an expression with types in it. -/
def typedExpressionPieces? (k : Kind) (ps : List Part) : Option (List Piece) :=
  match k, ps with
  | .asType, [e, type] => some (e.whole ++ [.text " ", .text "as", .text " "] ++ type.own)
  | .asConst, [e] => some (e.whole ++ [.text " ", .text "as", .text " ", .text "const"])
  | .constAssertion, [e] => some (e.whole ++ [.text " ", .text "as", .text " ", .text "const"])
  | .satisfies, [e, type] => some (e.whole ++ [.text " ", .text "satisfies", .text " "] ++ type.own)
  | .nonNull, [e] => some (e.whole ++ [.text "!"])
  | .typeAssertion, [type, e] => some ([.text "<"] ++ type.own ++ [.text ">"] ++ e.whole)
  | .instantiation, [e, args] => some (e.whole ++ args.own)
  | _, _ => none

/-- The pieces of a template, an array, an object or a function. -/
def compoundPieces? (source : Source) (k : Kind) (span : Span) (ps : List Part) :
    Option (List Piece) :=
  let lastComma : List Piece :=
    if source.hasLastComma span then [.text ",", .text " "] else []
  match k, ps with
  | .template, ps => some ([.text "\x60"] ++ templateParts ps ++ [.text "\x60"])
  | .taggedTemplate, [tag, typeArgs, template] =>
    some (tag.whole ++ typeArgs.own ++ template.own)
  | .array, es =>
    some ([.text "["] ++ linesOrNothing span [.text ","] (es.map Part.whole) lastComma ++ [.text "]"])
  | .object, ms =>
    some ([.text "\x7b"] ++ linesOrNothing span [.text ","] (ms.map Part.own) [] ++ [.text "\x7d"])
  | .functionExpression, [name, function] => some (functionPieces name function)
  | .arrow mode, [typeParams, params, result, body] =>
    some (arrowPieces mode typeParams params.parts result body)
  | _, _ => none

/-- The pieces of an expression, after the comments that lead it. -/
def valuePieces? (source : Source) (k : Kind) (span : Span) (ps : List Part) :
    Option (List Piece) :=
  leafPieces? k ps <|> objectMemberPieces? k ps <|> operatorPieces? k ps <|>
    typedExpressionPieces? k ps <|> compoundPieces? source k span ps

end EnvInline.Layout
