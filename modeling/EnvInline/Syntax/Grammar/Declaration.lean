import EnvInline.Syntax.Grammar.Class
import EnvInline.Syntax.Grammar.Variable

/-!
# Declarations of types

Interfaces, type aliases, enumerations and namespaces, and `declare` in front of declarations. They
start with words that are names elsewhere.
-/

namespace EnvInline.Syntax

/-- Reads the name of an enumerated member. -/
def enumKey : P Tree := do
  let start ← currentStart
  match ← current with
  | .string .. => literal
  | .number _ raw =>
    bump
    report start .enumNumericName
    nodeFrom start (.stringLiteral raw (some ("\"" ++ raw ++ "\""))) []
  | .punct "[" =>
    bump
    let _ ← rule .expression
    report start .enumComputedName
    expect "]"
    nodeFrom start (.name "") []
  | _ => return nameNode (← anyName)

/-- Reads a member of an enumeration. -/
def enumMember : P Tree := do
  let start ← currentStart
  let key ← enumKey
  if ← eat "=" then
    let value ← rule .assignment
    return ← nodeFrom start .enumMember [key, value]
  if !(← at? ",") && !(← at? "\x7d") then
    -- what stands here is taken for a comma
    let here ← currentSpan
    modify fun s => { s with current := s.current.map fun l => { l with token := .punct "," } }
    report here.lo .semicolonExpected
  nodeFrom start .enumMember [key, .none]

/-- Reads an enumeration after the word `enum`. -/
def enumDeclaration (start : Nat) (isConst : Bool) : P Tree := do
  let name ← anyName
  expect "\x7b"
  let members ← separated (at? "\x7d") enumMember
  expect "\x7d"
  nodeFrom start (.enumDeclaration false isConst) [bindingNode name, .many members]

/-- Names that no interface may have. -/
def reservedInterfaceNames : List String :=
  ["string", "null", "number", "object", "any", "unknown", "boolean", "bigint", "symbol", "void",
    "never", "intrinsic"]

/-- Reads an interface after the word `interface`. -/
def interfaceDeclaration (start : Nat) : P Tree := do
  let name ← anyName
  if reservedInterfaceNames.contains name.1 then report name.2.lo .interfaceName
  let typeParams ← typeParameters? true false
  let bases ← if ← eat "extends" then heritages else pure []
  if ← at? "extends" then
    report (← currentSpan).lo .extendsSeen
    for _ in ← turns do
      if (← atEnd) || (← at? "\x7b") then break
      bump
  let members ← inType (rule .typeMembers)
  nodeFrom start (.interfaceDeclaration false)
    [nameNode name, typeParams, .many bases, members]

/-- Reads a type alias after the word `type`. -/
def typeAlias (start : Nat) : P Tree := do
  let name ← anyName
  let typeParams ← typeParameters? true false
  let t ← typeAfter "="
  expectStatementEnd
  nodeFrom start (.typeAlias false) [nameNode name, typeParams, t]

/-- Reads the body of a namespace: a module of its own. -/
def namespaceBody : P Tree := do
  let start ← currentStart
  expect "\x7b"
  let mut items := []
  for _ in ← turns do
    if ← atEnd then
      let got ← currentSpelling
      report (← currentSpan).lo (.expectedToken "\x7d" got)
      break
    if ← at? "\x7d" then break
    items := (← rule .moduleItem) :: items
  if !(← atEnd) then bump
  nodeFrom start .namespaceBody items.reverse

/-- Reads a namespace from its name on: the name and the body. -/
def namespaceParts : P (Tree × Tree) := do
  let name ← anyName
  let body ←
    if ← eat "." then
      let start ← currentStart
      rule (.namespaceTail start)
    else namespaceBody
  return (bindingNode name, body)

/-- Reads `b.c { … }` of `namespace a.b.c { … }`. -/
def namespaceTail (start : Nat) : P Tree := do
  let (name, body) ← namespaceParts
  nodeFrom start .namespaceTail [name, body]

/-- Reads a namespace after its word. -/
def namespaceDeclaration (start : Nat) (usesModuleWord : Bool) : P Tree := do
  let (name, body) ← namespaceParts
  nodeFrom start (.namespaceDeclaration false false usesModuleWord) [name, body]

/-- Reads the declaration of another module, named by a string, or of the global scope. -/
def ambientModule (start : Nat) : P Tree := do
  let isGlobal ← at? "global"
  let name ←
    if isGlobal then pure (nameNode (← anyName))
    else
      match ← current with
      | .string .. => literal
      | _ => refuseToken "global or a string literal"
  let body ←
    if ← at? "\x7b" then namespaceBody
    else
      expectStatementEnd
      pure .none
  nodeFrom start (.namespaceDeclaration false isGlobal true) [name, body]

/-- Reads a declaration that starts with one of the words that are names elsewhere. When `skip`, the
word is the current token; otherwise it has been read as a name. -/
def wordDeclaration? (start : Nat) (word : String) (skip : Bool) : P (Option Tree) := do
  let skipWord : P Unit := if skip then bump else pure ()
  let goesOn : P Bool := if skip then pure true else atFreeName
  match word with
  | "abstract" =>
    if ← pure skip <||> (at? "class" <&&> notM afterBreak) then
      skipWord
      return some (← classDeclaration start true true)
    return none
  | "enum" =>
    if !(← goesOn) then return none
    skipWord
    return some (← enumDeclaration start false)
  | "interface" =>
    if !(← goesOn) then return none
    skipWord
    return some (← interfaceDeclaration start)
  | "module" =>
    if ← afterBreak then return none
    skipWord
    if (← current) matches .string .. then return some (← ambientModule start)
    if ← pure skip <||> atFreeName then return some (← namespaceDeclaration start true)
    return none
  | "namespace" =>
    if !(← goesOn) then return none
    skipWord
    return some (← namespaceDeclaration start false)
  | "type" =>
    if ← pure (!skip) <&&> (afterBreak <||> notM atFreeName) then return none
    skipWord
    return some (← typeAlias start)
  | _ => return none

/-- The declaration with `declare` in front of it. -/
def markDeclared (start : Nat) (t : Tree) : Tree :=
  let kind : Kind :=
    match t.kind with
    | .functionDeclaration _ => .functionDeclaration true
    | .classDeclaration _ => .classDeclaration true
    | .variableDeclaration w _ => .variableDeclaration w true
    | .enumDeclaration _ c => .enumDeclaration true c
    | .interfaceDeclaration _ => .interfaceDeclaration true
    | .typeAlias _ => .typeAlias true
    | .namespaceDeclaration _ g m => .namespaceDeclaration true g m
    | k => k
  .node kind ⟨start, t.span.hi⟩ t.children

/-- Reads a declaration after `declare`, which stands at a place. -/
def declared? (start : Nat) : P (Option Tree) := do
  if !(← hasTypes) then return none
  let t ← withContext ({ · with inAmbient := true }) do
    if ← at? "function" then return some (← functionDeclaration (← currentStart) true)
    if ← at? "class" then return some (← classDeclaration start true false)
    if ← at? "const" <&&> aheadIs "enum" then
      bump
      bump
      return some (← enumDeclaration start true)
    if (← at? "const") || (← at? "var") || (← at? "let") then return some (← variableDeclaration false)
    if ← at? "global" then return some (← ambientModule start)
    match (← current?).bind Token.word? with
    | some w => wordDeclaration? start w true
    | none => return none
  return t.map (markDeclared start)

/-- Reads a declaration whose first word has been read as a name. -/
def declarationAfterName? (name : String) (span : Span) : P (Option Tree) := do
  match name with
  | "declare" => declared? span.lo
  | "global" =>
    if !(← at? "\x7b") then return none
    let body ← namespaceBody
    return some
      (← nodeFrom span.lo (.namespaceDeclaration false true true) [nameNode (name, span), body])
  | w => wordDeclaration? span.lo w false

end EnvInline.Syntax
