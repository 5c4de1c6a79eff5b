import EnvInline.Syntax.Grammar.Primary

/-!
# Members and calls

What may follow an expression directly: members, indices, arguments, templates and, in a text with
types, `!` and type arguments. Optional chains keep their mark as long as they go on.
-/

namespace EnvInline.Syntax

/-- Reads arguments in parentheses. -/
def callArguments (isImport : Bool) : P (List Tree) :=
  withContext ({ · with expectColon := false }) do
    let start ← currentStart
    expect "("
    let mut items := []
    for _ in ← turns do
      if (← atEnd) || (← at? ")") then break
      if !items.isEmpty then
        expect ","
        if ← at? ")" then
          if isImport then refuseAt start .trailingCommaInImport
          break
      items := (← withIn expressionOrSpread) :: items
    expect ")"
    return items.reverse

/-- The expression is an optional chain that goes on, also behind `!`. -/
def isChain : Tree → Bool
  | .node k _ cs =>
    match k, cs with
    | .chainMember _, _ | .chainIndex _, _ | .chainCall _, _ => true
    | .nonNull, e :: _ => isChain e
    | _, _ => false

/-- An expression may start at the current token. -/
def atExpressionStart : P Bool := do
  match ← current? with
  | some (.name _) => atFreeName
  | some (.keyword w) =>
    if w == "import" then
      return ← aheadIs "(" <||> aheadIs "<" <||> aheadIs "."
    if ["this", "super", "null", "true", "false", "function", "class", "new", "delete", "typeof",
      "void", "await", "yield"].contains w then return true
    atFreeName
  | some (.number ..) | some (.bigint ..) | some (.string ..) | some (.regex ..) => return true
  | some (.punct p) =>
    return ["`", "(", "[", "\x7b", "/", "/=", "+", "-", "~", "!", "++", "--", "<", "#"].contains p
  | _ => return false

/-- Reads type arguments that no call follows, if what follows shows that they are such. -/
def instantiation? : P Tree := do
  if ← notM hasTypes <||> notM (at? "<") then return .none
  let read ← attempt do
    let arguments ← withTypeAngles (rule .typeArguments)
    if ← atAny ["<", ">", "+", "-", "(", "`"] then return none
    if ← afterBreak then return some arguments
    let isOperator :=
      match ← current? with
      | some (.punct p) => Token.isBinaryPunct p
      | _ => false
    if ← pure isOperator <||> notM atExpressionStart then return some arguments
    return none
  return read.getD .none

/-- Puts type arguments after an expression, if there are any. -/
def instantiate (start : Nat) (e arguments : Tree) : P Tree := do
  if arguments.isAbsent then return e
  nodeFrom start .instantiation [e, arguments]

/-- Reads a template after its tag. -/
def taggedTemplate (start : Nat) (tag arguments : Tree) : P Tree := do
  let t ← rule (.template true)
  if tag.kind matches .chainMember _ | .chainIndex _ | .chainCall _ then
    report start .taggedTemplateInChain
  nodeFrom start .taggedTemplate [tag, arguments, t]

/-- Members of `super` may not be read here. -/
def checkSuper (isOptional noCall : Bool) : P Unit := do
  if !(← context).allowSuper then refuse .invalidSuper
  if isOptional then refuse (if noCall then .invalidSuperCall else .invalidSuper)

/-- Reads `[expression]` after an object. -/
def indexAfter (start : Nat) (object : Tree) (isOptional noCall : Bool) : P Tree := do
  let index ← withIn (rule .expression)
  expect "]"
  let node ←
    if isOptional || isChain object then nodeFrom start (.chainIndex isOptional) [object, index]
    else nodeFrom start .index [object, index]
  let arguments ← instantiation?
  if object.kind == .superWord then checkSuper isOptional noCall
  instantiate start node arguments

/-- Reads a call. -/
def callAfter (start : Nat) (callee arguments : Tree) (isOptional : Bool) : P Tree := do
  let isImport := callee.kind == .importWord
  let args ← callArguments isImport
  if isImport && args.isEmpty then report start .importWithoutArgument
  if isOptional || isChain callee then
    if isImport || callee.kind == .superWord then refuse .superCallOptional
    nodeFrom start (.chainCall isOptional) [callee, arguments, .many args]
  else nodeFrom start .call [callee, arguments, .many args]

/-- Reads the name after a dot. -/
def memberName : P Tree := do
  if ← at? "#" then privateName else return nameNode (← anyName)

/-- Reads `.name` after an object, from the name on. -/
def memberAfter (start : Nat) (object : Tree) (isOptional noCall : Bool) : P Tree := do
  let name ← memberName
  let isChained := isOptional || isChain object
  let node ←
    if isChained then nodeFrom start (.chainMember isOptional) [object, name]
    else nodeFrom start .member [object, name]
  let arguments ← instantiation?
  match object.kind with
  | .importWord =>
    match name.kind with
    | .name "meta" =>
      if !(← context).isModule then report start .importMetaInScript
      return .node .importMeta node.span []
    | _ => refuseToken "meta"
  | .superWord =>
    checkSuper isOptional noCall
    if name.kind matches .privateName _ then refuse .invalidSuperCall
    return node
  | _ => instantiate start node arguments

/-- Reads type arguments and the call or template that they are for, if it is one. -/
def typedCall? (start : Nat) (callee : Tree) (noCall : Bool) : P (Option Tree) :=
  withTypeAngles <| attempt do
    let isAsyncName := callee.kind == .reference (.unresolved "async")
    let mayBeArrow := !noCall && isAsyncName && (← get).arrowStart == some start
    if ← pure mayBeArrow <&&> notM afterBreak then
      if let some arrow ← genericAsyncArrow? start then return some arrow
    let arguments ← rule .typeArguments
    if ← pure (!noCall) <&&> at? "(" then return some (← callAfter start callee arguments false)
    if ← at? "`" then return some (← taggedTemplate start callee arguments)
    return none

/-- Reads the mark `?` of `?.`. -/
def chainMark : P Bool := do
  if ← at? "?" <&&> aheadIs "." then
    bump
    return true
  return false

/-- Ends the things that may follow an expression. -/
def finishSubscripts (start : Nat) (e arguments : Tree) (noCall : Bool) : P (Tree × Bool) := do
  match e.kind with
  | .superWord => refuse (if noCall then .invalidSuperCall else .invalidSuper)
  | .importWord => refuse .invalidImport
  | _ =>
    let e ← instantiate start e arguments
    if ← at? "`" then return (← taggedTemplate start e .none, true)
    return (e, false)

/-- Reads one thing that may follow an expression; the flag tells whether more may follow. -/
def subscript (start : Nat) (e : Tree) (noCall noIndex : Bool) : P (Tree × Bool) := do
  let isPlain := e.kind != .superWord && e.kind != .importWord
  if ← hasTypes then
    if !(← afterBreak) && (← at? "!") then
      setMayStart false
      bump
      if !isPlain then
        refuse (.nonNullNotAllowed (if e.kind == .superWord then "super" else "import"))
      return (← nodeFrom start .nonNull [e], true)
    if ← pure isPlain <&&> at? "<" then
      if let some t ← typedCall? start e noCall then return (t, true)
  let arguments ← instantiation?
  if ← pure (e.kind == .importWord) <&&> notM (at? ".") <&&> notM (at? "(") then refuseToken "`.` or `(`"
  let isOptional ← chainMark
  if !noIndex then
    if ← pure isOptional <&&> at? "." <&&> aheadIs "[" then
      bump
    if ← eat "[" then return (← indexAfter start e isOptional noCall, true)
  if ← pure isOptional <&&> at? "." then
    if ← aheadIs "(" <||> (hasTypes <&&> aheadIs "<") then
      bump
      let arguments ← typeArguments?
      return (← callAfter start e arguments true, true)
  if ← pure (!noCall) <&&> at? "(" then return (← callAfter start e .none isOptional, true)
  if ← eat "." then return (← memberAfter start e isOptional noCall, true)
  finishSubscripts start e arguments noCall

/-- Reads all that follows an expression. -/
def subscripts (e : Tree) (noCall noIndex : Bool) : P Tree := do
  let start := e.span.lo
  let mut result := e
  for _ in ← turns do
    let (next, goesOn) ← subscript start result noCall noIndex
    result := next
    if !goesOn then break
  return result

/-- Reads `import.meta` or `import(…)` after `import`. -/
def importExpression (start : Nat) (noCall : Bool) : P Tree := do
  if ← eat "." then
    let (name, _) ← anyName
    if name != "meta" then refuseToken "meta"
    if !(← context).isModule then report start .importMetaInScript
    subscripts (← nodeFrom start .importMeta []) noCall false
  else subscripts (← nodeFrom start .importWord []) noCall false

/-- Reads `new.target` after its dot. -/
def newTarget (start : Nat) : P Tree := do
  if !(← eat "target") then refuseToken "target"
  let c ← context
  if !c.insideFunction && !c.inParameters && !c.inClass then report start .invalidNewTarget
  subscripts (← nodeFrom start .newTarget []) true false

/-- Reads type arguments before the arguments of `new`. -/
def newTypeArguments : P Tree := do
  if !(← hasTypes) then return .none
  if !(← at? "<") && !(← at? "<<") then return .none
  let read ← attempt do
    let arguments ← withTypeAngles (rule .typeArguments)
    if ← at? "(" then return some arguments
    return none
  return read.getD .none

/-- Reads an expression after `new`. -/
def newAfter (start : Nat) (isNew : Bool) : P Tree := do
  if ← eat "." then return ← newTarget start
  let callee ← rule (.memberOrNew isNew)
  if callee.kind matches .arrow _ then return callee
  if isNew then
    let inner := if callee.kind == .member || callee.kind == .index then callee.child 0 else callee
    if inner.kind matches .chainMember _ | .chainIndex _ | .chainCall _ then
      refuseAt inner.span.lo .chainInNew
  let arguments ← newTypeArguments
  if ← pure (!isNew) <||> at? "(" then
    let args ← callArguments false
    subscripts (← nodeFrom start .newCall [callee, arguments, .many args]) true false
  else nodeFrom start .newCall [callee, arguments, .none]

/-- Reads an expression with members, or one with `new`. -/
def memberOrNew (isNew : Bool) : P Tree := withContext ({ · with anglesAreOperators := true }) do
  let start ← currentStart
  if ← eat "new" then return ← newAfter start isNew
  if ← eat "super" then
    return ← subscripts (← nodeFrom start .superWord []) true false
  if ← eat "import" then return ← importExpression start true
  let e ← primary
  if e.kind matches .arrow _ then return e
  let arguments ← instantiation?
  subscripts (← instantiate start e arguments) true false

/-- Reads type arguments in front of arguments. -/
def callTypeArguments : P Tree := newTypeArguments

/-- Reads an expression without operators around it. -/
def leftHandSide : P Tree := do
  let start ← currentStart
  if ← hasMarkup then
    match ← current with
    | .markupText raw =>
      bump
      return ← nodeFrom start (.markupText raw) []
    | .tagStart => return ← rule (.element start)
    | .punct "<" => if !(← aheadIs "!") then return ← rule (.element start)
    | _ => pure ()
  if ← eat "super" then return ← subscripts (← nodeFrom start .superWord []) false false
  if ← eat "import" then return ← importExpression start false
  let callee ← rule (.memberOrNew true)
  if callee.kind matches .arrow _ then return callee
  let arguments ← callTypeArguments
  let isBareNew := callee.kind == .newCall && (callee.child 2).isAbsent
  if isBareNew then
    if arguments.isPresent then expect "("
    return callee
  if ← at? "(" then
    return ← subscripts (← callAfter start callee arguments false) false false
  if arguments.isPresent then expect "("
  return callee

end EnvInline.Syntax
