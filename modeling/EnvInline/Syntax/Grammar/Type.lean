import EnvInline.Syntax.Grammar.Parameter

/-!
# Types

From the tightest: names, literals and brackets, then `[]` after a type, prefix words, `&`, `|`,
functions, and last conditional types.
-/

namespace EnvInline.Syntax

/-- Runs a computation as if nothing were open around it. -/
def withoutFrames {α : Type} (p : P α) : P α := do
  let saved := (← get).frames
  changeFrames fun fs => fs.getLast?.toList
  let a ← p
  changeFrames fun _ => saved
  return a

/-- Runs a computation where angle brackets enclose types. -/
def withTypeAngles {α : Type} (p : P α) : P α :=
  withContext ({ · with anglesAreOperators := false }) p

/-- How the current token is shown where a type was wanted. -/
def currentForType : P String := do
  return match ← current? with
    | some t => "Some(" ++ t.spelling ++ ")"
    | none => "None"

/-- Reads elements with commas between them up to an end, which is not consumed. -/
def separated (atListEnd : P Bool) (element : P Tree) : P (List Tree) := do
  let mut items := []
  for _ in ← turns do
    if ← atListEnd then break
    items := (← element) :: items
    if ← eat "," then continue
    if ← atListEnd then break
    expect ","
  return items.reverse

/-- Reads a type after a token, if the token stands here. -/
def typeAfter? (word : String) : P Tree := inType do
  if ← eat word then rule .type else return .none

/-- Reads a type after a token that must stand here. -/
def typeAfter (word : String) : P Tree := inType do
  if !(← eat word) then
    let got ← currentForType
    refuseAt (← currentSpan).lo (.unexpectedToken got word)
  rule .type

/-- Reads `<` and types up to `>`. -/
def typeArguments : P Tree := do
  let start ← currentStart
  let types ← inType <| withoutFrames do
    if ← at? "<<" then
      modify fun s => { s with
        current := s.current.map fun l => ⟨.punct "<", ⟨l.span.lo + 1, l.span.hi⟩, false⟩ }
    else expect "<"
    separated (at? ">") (rule .type)
  setMayStart false
  expect ">"
  nodeFrom start .typeArguments types

/-- Reads type arguments if they start here. -/
def typeArguments? : P Tree := do
  if ← at? "<" then withTypeAngles (rule .typeArguments) else return .none

/-- Reads type arguments if they start here on the same line. -/
def typeArgumentsOnLine? : P Tree := do
  if (← afterBreak) then return .none
  if (← at? "<") || (← at? "<<") then withTypeAngles (rule .typeArguments) else return .none

/-- The modifiers read before a type parameter. -/
structure ParameterModifiers where
  isConst : Bool
  isIn : Bool
  isOut : Bool

/-- Takes a modifier in front of a type parameter into account. -/
def parameterModifier (forClass forFunction : Bool) (ms : ParameterModifiers) (w : String) :
    P ParameterModifiers := do
  let place := (← previousSpan).lo
  match w with
  | "const" =>
    if !forFunction then report place (.constModifierMisplaced w)
    return { ms with isConst := true }
  | "in" =>
    if !forClass then report place (.varianceMisplaced w)
    else if ms.isIn then report place (.duplicateModifier w)
    else if ms.isOut then report place (.modifierOrder "in" "out")
    return { ms with isIn := true }
  | "out" =>
    if !forClass then report place (.varianceMisplaced w)
    else if ms.isOut then report place (.duplicateModifier w)
    return { ms with isOut := true }
  | w =>
    report place (.modifierOnTypeParameter w)
    return ms

/-- Reads a type parameter. -/
def typeParameter (forClass forFunction : Bool) : P Tree := do
  let start ← currentStart
  let words :=
    ["public", "private", "protected", "readonly", "abstract", "const", "override", "in", "out"]
  let mut ms : ParameterModifiers := ⟨false, false, false⟩
  for _ in ← turns do
    match ← modifier? words false with
    | some w => ms ← parameterModifier forClass forFunction ms w
    | none => break
  let name ← inType anyName
  let bound ← typeAfter? "extends"
  let default ← typeAfter? "="
  nodeFrom start (.typeParameter ms.isConst ms.isIn ms.isOut) [nameNode name, bound, default]

/-- Reads `<` and type parameters up to `>`. -/
def typeParameters (forClass forFunction : Bool) : P Tree :=
  inType <| withoutFrames do
    let start ← currentStart
    if !(← at? "<") && !(← atToken .tagStart) then refuseToken "< (jsx tag start)"
    bump
    let parameters ← separated (at? ">") (typeParameter forClass forFunction)
    expect ">"
    if parameters.isEmpty then report start .emptyTypeParameters
    nodeFrom start .typeParameters parameters

/-- Reads type parameters if they start here. -/
def typeParameters? (forClass forFunction : Bool) : P Tree := do
  if ← hasTypes <&&> at? "<" then rule (.typeParameters forClass forFunction)
  else return .none

/-- Reads a return type after its colon or arrow; it may be a claim about a parameter. -/
def returnType (mark : String) : P Tree := inType do
  let start ← currentStart
  if !(← eat mark) then
    let got ← currentForType
    refuseAt (← currentSpan).lo (.expectedToken mark got)
  let claimStart ← currentStart
  let asserts ← at? "asserts" <&&> freeNameAhead
  if asserts then bump
  let claims ← atFreeName <&&> aheadIs "is" <&&> notM breakAhead
  if !asserts && !claims then
    let t ← rule .type
    return ← nodeFrom start .colonType [t]
  let name ← anyName
  let type ←
    if claims then
      bump
      let t ← rule .type
      pure t
    else pure .none
  let claim ← nodeFrom claimStart (.typePredicate asserts) [nameNode name, type]
  nodeFrom start .colonType [claim]

/-- Reads a return type if a colon stands here. -/
def returnType? : P Tree := do
  if ← hasTypes <&&> at? ":" then returnType ":" else return .none

/-- Reads a name with dots in it; `anyWord` tells whether reserved words may follow the dots. -/
def entityName (anyWord : Bool) : P Tree := do
  let start ← currentStart
  let mut entity := nameNode (← anyName)
  for _ in ← turns do
    let place := (← currentSpan).lo
    if !(← eat ".") then break
    if !(← at? "#") && !(← atWord) then
      report place .identifierExpected
      break
    let part ← if anyWord then anyName else freeName false false
    entity ← nodeFrom start .qualifiedName [entity, nameNode part]
  return entity

/-- Reads a type that is a name, with its arguments. -/
def typeReference : P Tree := do
  let start ← currentStart
  let hasModifier ← strayModifier
  let name ← entityName true
  let arguments ← typeArgumentsOnLine?
  if hasModifier then report start .parameterPropertyMisplaced
  nodeFrom start .typeReference [name, arguments]

/-- Reads `import("source").name<arguments>`. -/
def importType : P Tree := do
  let start ← currentStart
  bump
  expect "("
  let source ←
    match ← stringLiteral? with
    | some s => pure s
    | none =>
      let _ ← current
      let span ← currentSpan
      bump
      report span.lo .stringExpected
      pure (.node (.stringLiteral "" none) span [])
  expect ")"
  let qualifier ← if ← eat "." then entityName false else pure .none
  let arguments ← typeArguments?
  nodeFrom start .importType [source, qualifier, arguments]

/-- Reads `typeof name<arguments>`. -/
def typeQuery : P Tree := do
  let start ← currentStart
  bump
  let name ← if ← at? "import" then importType else entityName true
  let arguments ← if ← afterBreak then pure .none else typeArguments?
  nodeFrom start .typeQuery [name, arguments]

/-- Reads `this is T` after `this`, which started at a place. -/
def thisPredicate (start : Nat) (asserts : Bool) (this : Tree) : P Tree := do
  bump
  let annotation ← rule .type
  nodeFrom start (.typePredicate asserts) [this, annotation]

/-- Reads the type `this`, or a claim about it. -/
def thisType (start : Nat) (asserts : Bool) : P Tree := do
  let here ← currentStart
  bump
  let this ← nodeFrom here .thisType []
  if !(← afterBreak) && (← at? "is") then thisPredicate start asserts this
  else if asserts then nodeFrom start (.typePredicate true) [this, .none]
  else return this

/-- The braces at hand hold a mapped type. -/
def atMappedType : P Bool := lookahead do
  bump
  if ← eat "+" <||> eat "-" then return ← at? "readonly"
  let _ ← eat "readonly"
  if !(← eat "[") then return false
  if !(← atFreeName) then return false
  bump
  at? "in"

/-- Reads a sign and a word in a mapped type. -/
def mappedSign (word : String) : P MappedSign := do
  if ← eat "+" then
    expect word
    return .plus
  if ← eat "-" then
    expect word
    return .minus
  return if ← eat word then .bare else .absent

/-- Reads `{ [name in keys]: type }`. -/
def mappedType : P Tree := do
  let start ← currentStart
  expect "\x7b"
  let readonly ← mappedSign "readonly"
  expect "["
  let parameterStart ← currentStart
  let name ← anyName
  let keys ← typeAfter "in"
  let parameter ←
    nodeFrom parameterStart (.typeParameter false false false) [nameNode name, keys, .none]
  let renamed ← if ← eat "as" then rule .type else pure .none
  expect "]"
  let optional ← mappedSign "?"
  let type ← typeAfter? ":"
  expectStatementEnd
  expect "\x7d"
  nodeFrom start (.mappedType readonly optional) [parameter, renamed, type]

/-- Reads the label of an element of a tuple, if it has one. -/
def tupleLabel? : P (Option Tree) := attempt do
  let start ← currentStart
  let isRest ← eat "..."
  let (name, span) ← anyName
  let isOptional ← eat "?"
  let label : Tree := .node (.binding (.unresolved name) isOptional) span [.none]
  expect ":"
  if isRest then return some (← nodeFrom start .restPattern [label, .none])
  return some label

/-- Reads an element of a tuple. -/
def tupleElement : P Tree := do
  let start ← currentStart
  let label := (← tupleLabel?).getD .none
  if ← eat "..." then
    let t ← rule .type
    let rest ← nodeFrom start .restType [t]
    return ← nodeFrom start .tupleElement [label, rest]
  let t ← rule .type
  if ← eat "?" then
    let optional ← nodeFrom start .optionalType [t]
    nodeFrom start .tupleElement [label, optional]
  else nodeFrom start .tupleElement [label, t]

/-- Reads a tuple; no element that must be there follows one that may be missing. -/
def tupleType : P Tree := do
  let start ← currentStart
  expect "["
  let elements ← separated (at? "]") tupleElement
  expect "]"
  let mut seenOptional := false
  for e in elements do
    match (e.child 1).kind with
    | .restType => pure ()
    | .optionalType => seenOptional := true
    | _ => if seenOptional then refuseAt start .requiredAfterOptional
  nodeFrom start .tupleType elements

/-- Reads a negative number. -/
def negativeLiteral : P Tree := do
  let start ← currentStart
  bump
  match ← current? with
  | some (.number value raw) =>
    bump
    let span ← spanFrom start
    nodeFrom start .literalType [.node (.numberLiteral value (some ("-" ++ raw))) span []]
  | some (.bigint _ raw) =>
    bump
    let span ← spanFrom start
    nodeFrom start .literalType [.node (.bigintLiteral ("-" ++ raw)) span []]
  | _ => refuseToken "numeric literal or bigint literal"

/-- Reads a literal as a type. -/
def literalType : P Tree := do
  let start ← currentStart
  let value ← literal
  nodeFrom start .literalType [value]

/-- Reads a template as a type. -/
def templateType : P Tree := do
  let start ← currentStart
  let parts ← templateParts false (rule .type)
  let value ← nodeFrom start .templateType parts
  nodeFrom start .literalType [value]

/-- The words that are types of their own. -/
def typeWords : List String :=
  ["void", "null", "any", "boolean", "bigint", "never", "number", "object", "string", "symbol",
    "unknown", "undefined", "intrinsic"]

/-- Reads a type that starts with a word. -/
def wordType : P Tree := do
  let start ← currentStart
  if ← at? "asserts" <&&> aheadIs "this" then
    bump
    return ← thisType start true
  let word := ((← current?).bind Token.word?).getD ""
  let beforeDot ← aheadIs "."
  if typeWords.contains word && !beforeDot then
    bump
    return ← nodeFrom start (.keywordType word) []
  typeReference

/-- Reads a type in parentheses. -/
def parenType : P Tree := do
  let start ← currentStart
  expect "("
  let t ← rule .type
  expect ")"
  nodeFrom start .parenType [t]

/-- Reads a type in braces. -/
def bracedType : P Tree := do
  if ← atMappedType then return ← mappedType
  let start ← currentStart
  let members ← rule .typeMembers
  nodeFrom start .typeLiteral members.children

/-- Reads a type without anything around it. -/
def simpleType : P Tree := do
  let start ← currentStart
  match ← current with
  | .name _ => wordType
  | .string .. | .number .. | .bigint .. => literalType
  | .keyword w =>
    match w with
    | "void" | "yield" | "null" | "await" | "break" => wordType
    | "true" | "false" => literalType
    | "import" => importType
    | "this" => thisType start false
    | "typeof" => typeQuery
    | _ => refuseToken wantedType
  | .punct p =>
    match p with
    | "`" => templateType
    | "-" => negativeLiteral
    | "\x7b" => bracedType
    | "[" => tupleType
    | "(" => parenType
    | _ => refuseToken wantedType
  | _ => refuseToken wantedType
where
  /-- How an error names what may start a type. -/
  wantedType : String :=
    "an identifier, void, yield, null, await, break, a string literal, a numeric literal, true, " ++
      "false, `, -, import, this, typeof, \x7b, [, ("

/-- Reads a type with the brackets after it. -/
def arrayType : P Tree := do
  let start ← currentStart
  let mut t ← simpleType
  for _ in ← turns do
    if ← afterBreak <||> notM (eat "[") then break
    if ← eat "]" then t ← nodeFrom start .arrayType [t]
    else
      let index ← rule .type
      expect "]"
      t ← nodeFrom start .indexedAccess [t, index]
  return t

/-- Reads `infer name` with what the name must fit. -/
def inferType : P Tree := do
  let start ← currentStart
  bump
  let nameStart ← currentStart
  let name ← anyName
  let bound ← attempt do
    expect "extends"
    let t ← rule .unconditionalType
    if ← inContext (·.noConditionalTypes) <||> notM (at? "?") then return some t
    return none
  let parameter ←
    nodeFrom nameStart (.typeParameter false false false) [nameNode name, bound.getD .none, .none]
  nodeFrom start .inferType [parameter]

/-- Reads a type with the words in front of it. -/
def operatorType : P Tree := do
  let start ← currentStart
  let word := ((← current?).bind Token.word?).getD ""
  if word == "keyof" || word == "unique" || word == "readonly" then
    bump
    let t ← rule .operatorType
    nodeFrom start (.typeOperator word) [t]
  else if word == "infer" then inferType
  else arrayType

/-- Reads types with an operator between them, and maybe in front of them. -/
def joinedType (kind : Kind) (op : String) (part : P Tree) : P Tree := do
  let start ← currentStart
  let _ ← eat op
  let first ← part
  if !(← at? op) then return first
  let mut types := [first]
  for _ in ← turns do
    if !(← eat op) then break
    types := (← part) :: types
  nodeFrom start kind types.reverse

/-- Reads types with `&` and `|` between them. -/
def unionType : P Tree :=
  joinedType .unionType "|" (joinedType .intersectionType "&" (rule .operatorType))

/-- After an opening parenthesis, a parameter starts here; it is read over. -/
def skipParameterStart : P Bool := do
  let _ ← strayModifier
  if (← atWord) || (← at? "this") then
    bump
    return true
  if (← at? "\x7b") || (← at? "[") then
    let read ← attempt (some <$> rule (.bindingPattern false))
    return read.isSome
  return false

/-- The parentheses at hand hold parameters. -/
def atParameters : P Bool := lookahead do
  bump
  if (← at? ")") || (← at? "...") then return true
  if ← skipParameterStart then
    if ← atAny [":", ",", "?", "="] then return true
    if (← eat ")") && (← at? "=>") then return true
  return false

/-- Reads the type of a function or constructor. -/
def functionType (isConstructor : Bool) : P Tree := do
  let start ← currentStart
  let isAbstract ← if isConstructor then eat "abstract" else pure false
  if isConstructor then expect "new"
  let parameters ← typeParameters? false true
  expect "("
  let params ← signatureParameters
  let result ← returnType "=>"
  let kind := if isConstructor then .constructorType isAbstract else .functionType
  nodeFrom start kind [parameters, .many params, result]

/-- Reads a type that is no conditional type. -/
def unconditionalType : P Tree := do
  if ← at? "<" <||> (at? "(" <&&> atParameters) then return ← functionType false
  if ← at? "new" <||> (at? "abstract" <&&> aheadIs "new") then return ← functionType true
  rule .unionType

/-- Reads a type. -/
def type : P Tree := do
  let start ← currentStart
  let check ← rule .unconditionalType
  if ← inContext (·.noConditionalTypes) <||> afterBreak then return check
  if !(← eat "extends") then return check
  let bound ← withContext ({ · with noConditionalTypes := true }) (rule .unconditionalType)
  expect "?"
  let yes ← withContext ({ · with noConditionalTypes := false }) (rule .type)
  expect ":"
  let no ← withContext ({ · with noConditionalTypes := false }) (rule .type)
  nodeFrom start .conditionalType [check, bound, yes, no]

/-! ### Members of types -/

/-- Ends a member of a type. -/
def endMember : P Unit := do
  if !(← eat ",") then expectStatementEnd

/-- Reads a signature from its type parameters on: these, the parameters and the return type. -/
def signature : P (List Tree) := do
  let parameters ← typeParameters? false true
  expect "("
  let params ← signatureParameters
  let result ← returnType?
  return [parameters, .many params, result]

/-- Reads a signature without a name. -/
def unnamedSignature (kind : Kind) : P Tree := do
  let start ← currentStart
  if kind == .constructSignature then expect "new"
  let parts ← signature
  endMember
  nodeFrom start kind parts

/-- The brackets at hand hold the parameter of an index signature. -/
def atIndexSignature : P Bool := lookahead do
  bump
  if !(← atFreeName) then return false
  bump
  atAny [":", ","]

/-- Reads an index signature if one starts here. -/
def indexSignature? (start : Nat) (isReadonly isStatic : Bool) : P (Option Tree) := do
  if ← notM (at? "[" <&&> atIndexSignature) then return none
  expect "["
  let nameStart ← currentStart
  let name ← anyName
  let typeStart ← currentStart
  if ← eat "," then report name.2.lo .indexSignatureParameters else expect ":"
  let t ← inType (rule .type)
  let type ← nodeFrom typeStart .colonType [t]
  let parameter ← nodeFrom nameStart (.binding (.unresolved name.1) false) [type]
  expect "]"
  let result ← colonType?
  endMember
  return some (← nodeFrom start (.indexSignature isStatic isReadonly) [.many [parameter], result])

/-- Reads the key of a member of a type, and whether it is computed. -/
def memberKey : P (Bool × Tree) := do
  if ← eat "[" then
    let key ← rule .assignment
    expect "]"
    return (true, key)
  withContext ({ · with inPropertyName := true }) do
    match ← current with
    | .number .. | .string .. => return (false, ← rule (.memberOrNew false))
    | .punct "#" =>
      let key ← privateName
      report key.span.lo .privateNameInInterface
      return (false, key)
    | _ => return (false, referenceNode (← anyName))

/-- Reads a getter or a setter of a type, if one starts here. -/
def accessorSignature? (start : Nat) (isReadonly : Bool) : P (Option Tree) := attempt do
  if isReadonly then refuse .readonlyAccessor
  let isGetter ← eat "get"
  if !isGetter then expect "set"
  let (isComputed, key) ← memberKey
  expect "("
  if isGetter then
    expect ")"
    let type ← colonType?
    endMember
    return some (← nodeFrom start (.getterSignature isComputed) [key, type])
  let params ← signatureParameters
  match params with
  | [] => refuse .setterParameters
  | p :: _ =>
    endMember
    return some (← nodeFrom start (.setterSignature isComputed) [key, p])

/-- Reads a property or a method of a type. -/
def namedSignature (start : Nat) (isReadonly : Bool) : P Tree := do
  let (isComputed, key) ← memberKey
  let isOptional ← eat "?"
  if (← at? "(") || (← at? "<") then
    if isReadonly then refuse .readonlyMethod
    let parts ← signature
    endMember
    nodeFrom start (.methodSignature isComputed isOptional) (key :: parts)
  else
    let type ← colonType?
    endMember
    nodeFrom start (.propertySignature isReadonly isComputed isOptional) [key, type]

/-- Reads a member of a type. -/
def typeMember : P Tree := do
  if (← at? "(") || (← at? "<") then return ← unnamedSignature .callSignature
  if ← at? "new" then
    if ← lookahead (do bump; at? "(" <||> at? "<") then
      return ← unnamedSignature .constructSignature
  let start ← currentStart
  let isReadonly := (← modifier? ["readonly"] false).isSome
  if let some t ← indexSignature? start isReadonly false then return t
  if let some t ← accessorSignature? start isReadonly then return t
  namedSignature start isReadonly

/-- Reads the members of a type with the braces around them. -/
def typeMembers : P Tree := do
  let start ← currentStart
  expect "\x7b"
  let mut members := []
  for _ in ← turns do
    if ← at? "\x7d" then break
    members := (← typeMember) :: members
  expect "\x7d"
  nodeFrom start .list members.reverse

end EnvInline.Syntax
