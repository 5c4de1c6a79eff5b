import EnvInline.Syntax.Grammar.Function

/-!
# Parentheses and arrows

What stands in parentheses is read once, and is an expression or the parameters of an arrow
function depending on what follows.
-/

namespace EnvInline.Syntax

/-- Runs a computation where `in` is an operator. -/
def withIn {α : Type} (p : P α) : P α := withContext ({ · with allowIn := true }) p

/-- Reads an expression or a spread. -/
def expressionOrSpread : P Tree := do
  let start ← currentStart
  if ← eat "..." then
    let e ← withIn (rule .assignment)
    nodeFrom start .spread [e]
  else rule .assignment

/-- The part of parentheses can only be a parameter. -/
def isParameter (t : Tree) : Bool :=
  match t.kind with
  | .binding .. | .arrayPattern _ | .objectPattern _ | .restPattern | .defaultPattern
  | .absent => true
  | _ => false

/-- Reports parameters that strict code forbids. -/
def checkStrictParameters (parameters : List Tree) : P Unit := do
  for p in parameters do
    match p.kind with
    | .binding id _ =>
      if isEvalOrArguments id.name then reportStrict p.span.lo .evalOrArgumentsBound
    | _ => pure ()

/-- Makes a parameter out of the last part of parentheses. -/
def lastParameter (comma : Option Nat) (item : Tree) : P Tree := do
  match item with
  | .node .spread s (e :: _) =>
    match e.kind with
    | .assignment _ => report s.lo .restWithDefault
    | _ => pure ()
    if let some place := comma then report place .commaAfterRest
    return .node .restPattern s [← patternOf .binding e, .none]
  | item =>
    if isParameter item then
      if item.kind == .restPattern then
        if let some place := comma then report place .commaAfterRest
      return item
    patternOf .binding item

/-- Makes parameters out of the parts of parentheses. -/
def parametersOf (items : List Tree) (comma : Option Nat) : P (List Tree) := do
  let mut parameters := []
  for item in items.dropLast do
    if item.kind == .spread then report (item.child 0).span.lo .restNotLast
    else if isParameter item then parameters := item :: parameters
    else parameters := (← patternOf .binding item) :: parameters
  if let some item := items.getLast? then
    parameters := (← lastParameter comma item) :: parameters
  checkStrictParameters parameters.reverse
  return parameters.reverse

/-- Reads the body of an arrow function and makes its node. -/
def arrowFrom (start : Nat) (isAsync : Bool) (typeParams : Tree) (parameters : List Tree)
    (result : Tree) : P Tree := do
  let mode : FunctionMode := ⟨isAsync, false⟩
  let body ← functionBody mode true (areSimple parameters)
  nodeFrom start (.arrow mode) [typeParams, .many parameters, result, body]

/-- Reads `<T>(x) => body` after `async`, if it stands here. -/
def genericAsyncArrow? (start : Nat) : P (Option Tree) := do
  if !(← at? "<") && !(← atToken .tagStart) then return none
  let head ← attempt do
    let typeParams ← rule (.typeParameters false false)
    expect "("
    let parameters ← functionParameters
    expect ")"
    let result ← returnType?
    expect "=>"
    return some (typeParams, parameters, result)
  match head with
  | none => return none
  | some (typeParams, parameters, result) =>
    withContext ({ · with inAsync := true, inGenerator := false }) do
      return some (← arrowFrom start true typeParams parameters result)

/-- Reads a binary expression. -/
def binary : P Tree := do
  let c ← context
  let before ← get
  let left ← fun env s =>
    match rule .unary env s with
    | .ok t s => .ok t s
    | .error f s => recoverOperand c before f env s
  if left.kind matches .arrow _ then return left
  rule (.operators left 0)
where
  /-- An operator in place of an operand is reported, and reading goes on after it; any other
  fault stays. -/
  recoverOperand (c : Context) (before : State) (f : Fault) : P Tree := do
    modify fun s =>
      { s with
        context := before.context
        labels := before.labels
        arrowStart := before.arrowStart
        spreadCommas := before.spreadCommas }
    let isOperator :=
      match ← current with
      | .keyword w => (w == "in" && c.allowIn) || w == "instanceof"
      | .punct w => Token.isBinaryPunct w
      | _ => false
    if !isOperator then throw f
    report (← currentSpan).lo .expressionExpected
    return .node .absent ⟨f.place, f.place⟩ []

/-- Makes an assignment whose target has been read, up to its operator. -/
def finishAssignment (start : Nat) (left : Tree) : P Tree := do
  match ← current? with
  | some (.punct op) =>
    if !assignmentOperators.contains op then return left
    let target ←
      if op == "=" then patternOf .assigned left
      else
        let c ← context
        if !isSimpleTarget c.strict left then
          report left.span.lo (if ← hasTypes then .notAssignable else .notSimpleTarget)
        match left.kind with
        | .reference id => pure (.node (.target id) left.span [])
        | _ => pure left
    bump
    let right ← rule .assignment
    nodeFrom start (.assignment op) [target, right]
  | _ => return left

/-- Reads a part of parentheses in a text with types that starts with a name: `x?: T` is no
conditional expression. -/
def typedItem (start : Nat) : P Tree := do
  if ← eat "..." then
    let e ← withIn binary
    nodeFrom start .spread [e]
  else
    let e ← binary
    match ← current? with
    | some (.punct op) =>
      if assignmentOperators.contains op then finishAssignment start e else return e
    | _ => return e

/-- Reads the question mark after a part of parentheses: it marks a parameter that may be left out,
or it makes the part the condition of a conditional expression. -/
def itemMark (start : Nat) (item : Tree) : P (Tree × Bool) := do
  if ← notM hasTypes <||> notM (at? "?") then return (item, false)
  let next ← ahead?
  if next.any fun t => t.spells "," || t.spells ":" || t.spells ")" || t.spells "=" then
    bump
    if item.kind == .spread then report (← previousSpan).lo .restOptional
    let inner := if item.kind == .spread then item.child 0 else item
    match inner.kind with
    | .reference _ => return (item, true)
    | _ => refuseAt item.span.lo .bindingPatternOptional
  if item.kind == .spread then return (item, false)
  expect "?"
  let rules (c : Context) : Context := { c with inConditional := true, allowIn := true }
  let yes ← withContext rules (rule .assignment)
  expect ":"
  let no ← withContext rules (rule .assignment)
  return (.node .conditional ⟨start, no.span.hi⟩ [item, yes, no], false)

/-- Reads a part of parentheses on as a parameter with a type. -/
def typedParameter (start : Nat) (item : Tree) (isOptional : Bool) : P Tree := do
  let isSpread := item.kind == .spread
  let mut pattern ← patternOf .binding (if isSpread then item.child 0 else item)
  if isOptional then pattern := pattern.markOptional
  if isSpread then pattern ← nodeFrom start .restPattern [pattern, .none]
  match pattern.kind with
  | .binding .. | .arrayPattern _ | .objectPattern _ | .restPattern =>
    let type ← colonType?
    pattern := pattern.withType type
    if type.isPresent then pattern := pattern.withSpan ⟨start, ← previousEnd⟩
  | _ => pure ()
  if ← eat "=" then
    let value ← rule .assignment
    pattern := .node .defaultPattern ⟨start, value.span.hi⟩ [pattern, value]
  return pattern

/-- Reads a part of parentheses. -/
def parenItem : P Tree := do
  let modifierStart ← currentStart
  modify fun s => { s with arrowStart := some modifierStart }
  let hasModifier ← strayModifier
  let start ← currentStart
  let isName ← hasTypes <&&> (atFreeName <||> (at? "..." <&&> freeNameAhead))
  let first ← if isName then typedItem start else withIn expressionOrSpread
  let (item, isOptional) ← itemMark start first
  let isTyped ← pure isOptional <||> (hasTypes <&&> at? ":")
  let item ← if isTyped then typedParameter start item isOptional else pure item
  if hasModifier then report modifierStart .parameterPropertyMisplaced
  return item

/-- Reads what stands in parentheses, and the place of a comma after it. -/
def parenItems : P (List Tree × Option Nat) := do
  expect "("
  let mut items := []
  let mut comma : Option Nat := none
  for _ in ← turns do
    if (← atEnd) || (← at? ")") then break
    items := (← parenItem) :: items
    if !(← at? ")") then
      expect ","
      if ← at? ")" then comma := some (← previousSpan).lo
  expect ")"
  return (items.reverse, comma)

/-- Reads an arrow function whose parameters have been read, in a conditional expression: the colon
at hand may be the one of the conditional. -/
def conditionalArrow? (start : Nat) (isAsync : Bool) (items : List Tree) (comma : Option Nat) :
    P (Option Tree) := do
  let c ← context
  if ← notM hasTypes <||> pure (!c.inConditional) <||> notM (at? ":") then return none
  attempt do
    let result ← returnType ":"
    expect "=>"
    let parameters ← parametersOf items comma
    let arrow ← arrowFrom start isAsync .none parameters result
    if ← pure c.expectColon <&&> notM (at? ":") then return none
    return some arrow

/-- Reads the return type of an arrow function, if the colon at hand opens one. -/
def arrowResult? : P (Option Tree) := do
  if ← inContext (·.expectColon) <||> notM hasTypes <||> notM (at? ":") then return none
  attempt do
    let result ← returnType ":"
    if !(← at? "=>") then return none
    return some result

/-- Reads an arrow function from its arrow on. -/
def arrowAfter (start : Nat) (canBeArrow isAsync : Bool) (items : List Tree) (comma : Option Nat)
    (result : Tree) : P Tree := do
  if ← afterBreak then refuseAt start .lineBreakBeforeArrow
  if !canBeArrow then refuseAt start .arrowNotAllowed
  expect "=>"
  let parameters ← parametersOf items comma
  let arrow ← arrowFrom start isAsync .none parameters result
  if (arrow.child 3).kind == .block then
    if let some (.punct p) ← current? then
      if Token.isBinaryPunct p then
        report (← currentSpan).lo .semicolonExpected
        let e ← rule (.operators arrow 0)
        if !(← atStatementEnd) then report (← currentSpan).lo .semicolonExpected
        return e
  return arrow

/-- Reports members of objects that only patterns may have. -/
def checkCoverDefaults (items : List Tree) : P Unit := do
  for item in items do
    if item.kind == .object then
      for m in item.children do
        if m.kind matches .coverDefault _ then report m.span.lo .assignmentProperty

/-- Makes a parenthesized expression of the parts of parentheses. -/
def parenOf (start : Nat) (items : List Tree) : P Tree := do
  if let some item := items.find? isParameter then refuseAt item.span.lo .notAnExpression
  if let some item := items.find? (·.kind == .spread) then
    refuseAt (item.child 0).span.lo .spreadInParen
  match items with
  | [] => refuseAt start .emptyParen
  | [e] => nodeFrom start .paren [e]
  | first :: _ =>
    let hi := ((items.getLast?.map Tree.span).getD first.span).hi
    nodeFrom start .paren [.node .sequence ⟨first.span.lo, hi⟩ items]

/-- Makes a call of a function named `async`. -/
def asyncCallOf (start : Nat) (items : List Tree) : P Tree := do
  if let some item := items.find? isParameter then refuseAt item.span.lo .notAnExpression
  let callee := referenceNode ("async", ⟨start, start + 5⟩)
  nodeFrom start .call [callee, .none, .many items]

/-- Reads parentheses as an expression or an arrow function; `async` may stand before them, at
`start`. -/
def parenthesizedOrArrow (canBeArrow isAsync : Bool) (start : Nat) : P Tree := do
  let (items, comma) ← withContext ({ · with expectColon := false, allowIn := true }) parenItems
  if let some t ← conditionalArrow? start isAsync items comma then return t
  let result ← arrowResult?
  if ← pure (items.any isParameter) <||> pure result.isSome <||> at? "=>" then
    return ← arrowAfter start canBeArrow isAsync items comma (result.getD .none)
  checkCoverDefaults items
  if isAsync then asyncCallOf start items else parenOf start items

end EnvInline.Syntax
