import EnvInline.Syntax.Grammar.Declaration

/-!
# Statements

Declarations with `using` and `await using`, which a text with types could hold, are not read: the
words are names here, so that such a declaration is refused or falls apart into statements.
-/

namespace EnvInline.Syntax

/-- Reads an expression where `in` is an operator. -/
def fullExpression : P Tree := withIn (rule .expression)

/-- Reads an expression in parentheses, as the head of a statement. -/
def headExpression : P Tree := do
  expect "("
  let e ← fullExpression
  expect ")"
  return e

/-- Reads a statement that is no declaration. -/
def innerStatement : P Tree := rule (.statement false)

/-- Reads the body of a loop. -/
def loopBody : P Tree :=
  withContext ({ · with allowBreak := true, allowContinue := true }) innerStatement

/-- Reads `break` or `continue`. -/
def jump (start : Nat) (isBreak : Bool) : P Tree := do
  bump
  let label? ←
    if ← eatStatementEnd then pure none
    else
      let name ← referenceName
      expectStatementEnd
      pure (some name)
  let c ← context
  let labels := (← get).labels
  let isKnown := label?.all fun l => labels.contains l.1
  if isBreak then
    if !isKnown then report start .unknownBreakLabel
    else if !c.allowBreak then report start .illegalBreak
  else
    if !c.allowContinue then report start .illegalContinue
    else if !isKnown then report start .unknownContinueLabel
  let label := (label?.map nameNode).getD .none
  nodeFrom start (if isBreak then .breakStatement else .continueStatement) [label]

/-- Reads the condition and the first branch of `if`. -/
def ifHead : P (Nat × Tree × Tree) := do
  let start ← currentStart
  bump
  let test ← headExpression
  let body ← innerStatement
  return (start, test, body)

/-- Reads `if` with its branches. -/
def ifStatement : P Tree := do
  let (start, test, body) ← ifHead
  let mut chain : List Tree := []
  let mut last : Tree := .none
  for _ in ← turns do
    if !(← eat "else") then break
    if !(← at? "if") then
      last ← innerStatement
      break
    let (start, test, body) ← ifHead
    chain := (← nodeFrom start .ifStatement [test, body]) :: chain
  let rest := chain.foldl (fun rest t => .node .ifStatement t.span (t.children ++ [rest])) last
  nodeFrom start .ifStatement [test, body, rest]

/-- Reads `return`. -/
def returnStatement (start : Nat) : P Tree := do
  bump
  let argument ← if ← atStatementEnd then pure .none else fullExpression
  expectStatementEnd
  if !(← context).inFunction then report start .returnNotAllowed
  nodeFrom start .returnStatement [argument]

/-- Reads the statements of one case of a `switch`. -/
def caseStatements : P (List Tree) := do
  let mut statements := []
  for _ in ← turns do
    if (← atEnd) || (← atAny ["case", "default", "\x7d"]) then break
    statements := (← rule (.statement true)) :: statements
  return statements.reverse

/-- Reads `switch`. -/
def switchStatement (start : Nat) : P Tree := do
  bump
  let subject ← headExpression
  expect "\x7b"
  let mut cases := []
  let mut hasDefault := false
  let saved ← context
  setContext ({ · with allowBreak := true })
  for _ in ← turns do
    let isCase ← at? "case"
    if ← pure (!isCase) <&&> notM (at? "default") then break
    let caseStart ← currentStart
    bump
    if !isCase && hasDefault then refuse .multipleDefaults
    let test ← if isCase then fullExpression else pure .none
    if !isCase then hasDefault := true
    expect ":"
    let statements ← caseStatements
    cases := (← nodeFrom caseStart .switchCase [test, .many statements]) :: cases
  setContext fun _ => saved
  expect "\x7d"
  nodeFrom start .switchStatement [subject, .many cases.reverse]

/-- Reads `throw`. -/
def throwStatement (start : Nat) : P Tree := do
  bump
  if ← afterBreak then refuse .lineBreakInThrow
  let e ← fullExpression
  expectStatementEnd
  nodeFrom start .throwStatement [e]

/-- Reads the parameter of `catch`, if it has one. -/
def catchParameter : P Tree := do
  if !(← eat "(") then return .none
  let pattern ← rule (.bindingPattern false)
  let typeStart ← currentStart
  let mut result := pattern
  if ← hasTypes <&&> eat ":" then
    let t ← inType (rule .type)
    result := pattern.withType (← nodeFrom typeStart .colonType [t])
  expect ")"
  return result

/-- Reads `catch` with its block, if it stands here. -/
def catchClause? : P Tree := do
  let start ← currentStart
  if !(← eat "catch") then return .none
  let parameter ← catchParameter
  let block ← rule (.block false)
  nodeFrom start .catchClause [parameter, block]

/-- Reads the block after `finally`, if it stands here. -/
def finalizer? : P Tree := do
  if ← eat "finally" then rule (.block false) else return .none

/-- Reads `try`. -/
def tryStatement (start : Nat) : P Tree := do
  bump
  let block ← rule (.block false)
  let place ← currentStart
  let clause ← catchClause?
  let finalizer ← finalizer?
  if clause.isAbsent && finalizer.isAbsent then report place .semicolonExpected
  nodeFrom start .tryStatement [block, clause, finalizer]

/-- Reads `catch` or `finally` without a `try`. -/
def strayHandler : P Tree := do
  let span ← currentSpan
  report span.lo .semicolonExpected
  let _ ← attempt (some <$> catchClause?)
  let _ ← attempt (some <$> finalizer?)
  return .node .expressionStatement span [.node .absent span []]

/-- Reads `with`. -/
def withStatement (start : Nat) : P Tree := do
  if ← hasTypes then report start .withUnsupported
  reportStrict start .withInStrict
  bump
  let object ← headExpression
  let body ← withContext ({ · with inFunction := true }) innerStatement
  nodeFrom start .withStatement [object, body]

/-- Reads `while`. -/
def whileStatement (start : Nat) : P Tree := do
  bump
  let test ← headExpression
  let body ← loopBody
  nodeFrom start .whileLoop [test, body]

/-- Reads `do`. -/
def doStatement (start : Nat) : P Tree := do
  bump
  let body ← loopBody
  expect "while"
  let test ← headExpression
  let _ ← eatStatementEnd
  nodeFrom start .doLoop [body, test]

/-! ### Loops with a head -/

/-- Reads the object that a loop goes over. -/
def eachHead (head : Tree) : P (Kind × List Tree) := do
  let isOf ← at? "of"
  bump
  if isOf then
    let e ← withIn (rule .assignment)
    return (.forOfLoop false, [head, e])
  let e ← fullExpression
  return (.forInLoop, [head, e])

/-- Reads the condition and the step of a loop. -/
def plainHead (first : Tree) : P (Kind × List Tree) := do
  let test ←
    if ← eat ";" then pure .none
    else
      let e ← fullExpression
      expect ";"
      pure e
  let step ← if ← at? ")" then pure .none else fullExpression
  return (.forLoop, [first, test, step])

/-- Checks the variables in the head of a loop over an object. -/
def checkLoopVariables (decl : Tree) (isIn : Bool) : P Unit := do
  match decl.children with
  | [d] =>
    let pattern := d.child 0
    if (d.child 1).isPresent && (← context).strict then
      report pattern.span.lo .initializerInHead
    if ← hasTypes then
      if pattern.kind matches .binding .. then
        if (pattern.child 0).isPresent then report pattern.span.lo .typeInForOf
      else if isIn then report pattern.span.lo .patternInForIn
  | ds =>
    for d in ds.drop 1 do
      report (d.child 0).span.lo .tooManyBindingsInHead

/-- Reads what stands in the parentheses of `for`. -/
def forHead : P (Kind × List Tree) := do
  if ← at? "const" <||> at? "var" <||> atLetDeclaration then
    let decl ← variableDeclaration true
    let isIn ← at? "in"
    if ← pure isIn <||> at? "of" then
      checkLoopVariables decl isIn
      return ← eachHead decl
    expect ";"
    return ← plainHead decl
  if ← eat ";" then return ← plainHead .none
  let first ← withContext ({ · with allowIn := false }) (rule .expression)
  let isIn ← at? "in"
  if ← pure isIn <||> at? "of" then
    let pattern ← patternOf .assigned first
    if isIn && (← hasTypes) && (pattern.kind matches .arrayPattern _ | .objectPattern _) then
      report pattern.span.lo .patternInForIn
    return ← eachHead pattern
  expect ";"
  plainHead first

/-- Reads `for`. -/
def forStatement (start : Nat) : P Tree := do
  bump
  let awaitAt ← currentStart
  let isAwait ← eat "await"
  expect "("
  let (kind, parts) ← withContext ({ · with forHead := !isAwait }) forHead
  expect ")"
  let body ← withContext ({ · with forHead := false }) loopBody
  match kind with
  | .forOfLoop _ => nodeFrom start (.forOfLoop isAwait) (parts ++ [body])
  | kind =>
    if isAwait then refuseAt awaitAt .awaitOnlyForOf
    nodeFrom start kind (parts ++ [body])

/-! ### Other statements -/

/-- Reads the statement after a label. -/
def labeledStatement (name : String) (span : Span) : P Tree := do
  let isKnown := (← get).labels.contains name
  modify fun s => { s with labels := name :: s.labels }
  let body ← withContext ({ · with allowBreak := true }) do
    if ← at? "function" then
      let f ← functionDeclaration (← currentStart) true
      reportStrict f.span.lo .labelledFunctionInStrict
      match (f.child 1).kind with
      | .function m => if m.isAsync || m.isGenerator then report f.span.lo .labelledGeneratorOrAsync
      | _ => pure ()
      return f
    innerStatement
  if isKnown then report span.lo (.labelRedeclared name)
  modify fun s => { s with labels := s.labels.erase name }
  nodeFrom span.lo .labeled [nameNode (name, span), body]

/-- Ends a statement that is an expression. An operator in place of its end is reported, and the
expression goes on. -/
def endExpression (start : Nat) (e : Tree) : P Tree := do
  if ← eatStatementEnd then return ← nodeFrom start .expressionStatement [e]
  match ← current? with
  | some (.punct p) =>
    if Token.isBinaryPunct p then
      report (← currentSpan).lo .semicolonExpected
      let e ← rule (.operators e 0)
      return ← nodeFrom start .expressionStatement [e]
    refuse .statementEndExpected
  | _ => refuse .statementEndExpected

/-- Reads on after an expression that is only a name: it may be a label or the first word of a
declaration. -/
def nameStatement (start : Nat) (name : String) (e : Tree) : P Tree := do
  if ← eat ":" then return ← labeledStatement name e.span
  if ← pure (name == "interface") <&&> afterBreak then
    reportStrict e.span.lo (.strictReservedName name)
    let _ ← eatStatementEnd
    return ← nodeFrom start .expressionStatement [e]
  if ← hasTypes then
    if let some t ← declarationAfterName? name e.span then return t
    if name == "enum" || name == "interface" then
      reportStrict e.span.lo (.strictReservedName name)
  endExpression start e

/-- Reads a statement that starts with an expression. -/
def expressionStatement (start : Nat) : P Tree := do
  if ← at? "async" <&&> aheadIs "function" <&&> notM breakAhead then
    return ← functionDeclaration start true
  let e ← fullExpression
  match e.kind with
  | .reference id => nameStatement start id.name e
  | _ => endExpression start e

/-- Reads `await` at the start of a statement. -/
def awaitStatement (start : Nat) : P Tree := do
  let e ← awaitExpression
  let e ← withIn (rule (.operators e 0))
  let _ ← eatStatementEnd
  nodeFrom start .expressionStatement [e]

/-- Reads a declaration of a type by its word, if a name follows on the same line. -/
def typeDeclaration? (start : Nat) (word : String) : P (Option Tree) := do
  if ← notM hasTypes <||> notM wordAhead <||> breakAhead then return none
  match word with
  | "interface" =>
    bump
    return some (← interfaceDeclaration start)
  | "type" =>
    bump
    return some (← typeAlias start)
  | "enum" =>
    bump
    return some (← enumDeclaration start false)
  | _ => return none

/-- Reads `import(…)` or `import.meta` as a statement. -/
def importStatement (start : Nat) : P Tree := do
  if ← at? "import" <&&> (aheadIs "(" <||> aheadIs ".") then
    let e ← rule .expression
    let _ ← eatStatementEnd
    return ← nodeFrom start .expressionStatement [e]
  refuse .importExportInScript

/-- Reads a statement that starts with a reserved word, if it is one. -/
def wordStatement? (start : Nat) (word : String) (declarations : Bool) : P (Option Tree) := do
  match word with
  | "break" => some <$> jump start true
  | "continue" => some <$> jump start false
  | "debugger" =>
    bump
    expectStatementEnd
    some <$> nodeFrom start .debuggerStatement []
  | "do" => some <$> doStatement start
  | "for" => some <$> forStatement start
  | "function" =>
    if !declarations then report start .declarationNotAllowed
    some <$> functionDeclaration start true
  | "class" =>
    if !declarations then report start .declarationNotAllowed
    some <$> classDeclaration start true false
  | "if" => some <$> ifStatement
  | "return" => some <$> returnStatement start
  | "switch" => some <$> switchStatement start
  | "throw" => some <$> throwStatement start
  | "catch" | "finally" => some <$> strayHandler
  | "try" => some <$> tryStatement start
  | "with" => some <$> withStatement start
  | "while" => some <$> whileStatement start
  | "var" => some <$> variableDeclaration false
  | "const" => if declarations then some <$> variableDeclaration false else return none
  | "let" => if ← pure declarations <&&> atLetDeclaration then some <$> variableDeclaration false else return none
  | "await" => if declarations then some <$> awaitStatement start else return none
  | w => typeDeclaration? start w

/-- Reads a statement that is no import or export. -/
def plainStatement (start : Nat) (declarations : Bool) : P Tree := do
  if ← hasTypes <&&> at? "const" <&&> aheadIs "enum" then
    bump
    bump
    return ← enumDeclaration start true
  match ← current with
  | .keyword w | .name w =>
    if let some t ← wordStatement? start w declarations then return t
    expressionStatement start
  | .punct "\x7b" => rule (.block false)
  | .punct ";" =>
    bump
    nodeFrom start .emptyStatement []
  | _ => expressionStatement start

/-- Reads a statement; `declarations` tells whether it may be a declaration. -/
def statement (declarations : Bool) : P Tree := do
  let start ← currentStart
  if (← at? "import") || (← at? "export") then return ← importStatement start
  withContext ({ · with expectColon := false }) (plainStatement start declarations)

/-- Reads statements up to a closing brace; the first may be a directive. -/
def statementsIn (allowDirectives : Bool) : P (List Tree) := do
  let saved ← context
  let mut statements := []
  for _ in ← turns do
    if ← atEnd then
      let got ← currentSpelling
      report (← currentSpan).lo (.expectedToken "\x7d" got)
      break
    if ← at? "\x7d" then break
    let t ← rule (.statement true)
    if allowDirectives && statements.isEmpty && isUseStrict t then
      setContext fun _ => { saved with strict := true }
    statements := t :: statements
  if !(← atEnd) then bump
  setContext fun _ => saved
  return statements.reverse

/-- Reads a block. -/
def block (allowDirectives : Bool) : P Tree := do
  let start ← currentStart
  expect "\x7b"
  let statements ← statementsIn allowDirectives
  nodeFrom start .block statements

end EnvInline.Syntax
