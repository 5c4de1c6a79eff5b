import EnvInline.Syntax.Grammar.Type

/-!
# Functions

A function from its type parameters on, which declarations, expressions, methods and accessors have
in common. The body forgets the labels and loops around it.
-/

namespace EnvInline.Syntax

/-- The statement is `"use strict"`. -/
def isUseStrict (t : Tree) : Bool :=
  match t with
  | .node .expressionStatement _ (.node (.stringLiteral _ (some raw)) _ _ :: _) =>
    raw == "\"use strict\"" || raw == "'use strict'"
  | _ => false

/-- The statement is a string. -/
def isDirective (t : Tree) : Bool :=
  match t with
  | .node .expressionStatement _ (.node (.stringLiteral ..) _ _ :: _) => true
  | _ => false

/-- The first `"use strict"` among the directives that open a block. -/
def strictDirective? (block : Tree) : Option Tree :=
  (block.children.takeWhile isDirective).find? isUseStrict

/-- Runs a computation without the labels and notes around it. -/
def withFreshNotes {α : Type} (p : P α) : P α := do
  let saved ← get
  set { saved with labels := [], arrowStart := none, spreadCommas := [] }
  let a ← p
  modify fun s =>
    { s with
      labels := saved.labels
      arrowStart := saved.arrowStart
      spreadCommas := saved.spreadCommas }
  return a

/-- Reads a block as the body of a function. -/
def bodyBlock (isSimple allowDirectives : Bool) : P Tree := do
  let block ← rule (.block allowDirectives)
  if !(← hasTypes) && !isSimple then
    if let some t := strictDirective? block then report t.span.lo .illegalDirective
  return block

/-- Reads the body of a function that is no arrow function; in a text with types it may be
missing. -/
def plainBody (isSimple : Bool) : P Tree := do
  if ← hasTypes <&&> notM (at? "\x7b") <&&> eatStatementEnd then return .none
  withContext ({ · with allowIn := true }) (bodyBlock isSimple true)

/-- Reads the body of an arrow function: a block or an expression. -/
def arrowBody (isSimple : Bool) : P Tree := do
  if ← at? "\x7b" then bodyBlock isSimple false else rule .assignment

/-- Reads the body of a function. -/
def functionBody (mode : FunctionMode) (isArrow isSimple : Bool) : P Tree := do
  if ← inContext (·.inAmbient) <&&> hasTypes <&&> at? "\x7b" then
    report (← currentSpan).lo .implementationInAmbient
  let rules (c : Context) : Context :=
    { c with
      inAsync := mode.isAsync
      inGenerator := mode.isGenerator
      insideFunction := if isArrow then c.insideFunction else true
      inFunction := true
      inStaticBlock := false
      allowBreak := false
      allowContinue := false
      expectColon := false }
  withContext rules <| withFreshNotes <|
    if isArrow then arrowBody isSimple else plainBody isSimple

/-- Reads a function from its type parameters on. -/
def functionFrom (start : Nat) (mode : FunctionMode) (parameters : P (List Tree)) : P Tree :=
  withContext ({ · with inAsync := mode.isAsync, inGenerator := mode.isGenerator }) do
    let typeParams ← typeParameters? false true
    expect "("
    let params ← withContext ({ · with inParameters := true, inFunction := false }) parameters
    expect ")"
    let result ← returnType?
    let body ← functionBody mode false (areSimple params)
    if (← hasTypes) && body.isAbsent then
      for p in params do
        if p.kind == .defaultPattern then report p.span.lo .parameterInitializer
    nodeFrom start (.function mode) [typeParams, .many params, result, body]

/-- The parameter is the type of `this`. -/
def isThisParameter (p : Tree) : Bool :=
  match p.kind with
  | .binding id _ => id.name == "this"
  | _ => false

/-- Reads the parameters of a getter, which has none. -/
def getterParameters (key : Nat) : P (List Tree) := do
  let params ← functionParameters
  if params.any fun p => !isThisParameter p then report key .getterParameters
  return params

/-- Reads the parameters of a setter, which has one. -/
def setterParameters (key : Nat) : P (List Tree) := do
  let params ← functionParameters
  if (params.filter fun p => !isThisParameter p).length != 1 then report key .setterParameters
  if let p :: _ := params then
    if p.kind == .restPattern then report p.span.lo .setterRest
  return params

/-- The node of a name that is declared, or of no name. -/
def optionalBinding (name : Option Named) : Tree := (name.map bindingNode).getD .none

/-- Reads a function that starts at a place, at the word `function`. -/
def functionWithName (start : Nat) (isAsync isExpression nameRequired : Bool) : P (Tree × Tree) := do
  bump
  let isGenerator ← eat "*"
  let mode : FunctionMode := ⟨isAsync, isGenerator⟩
  let readName : P (Option Named) := do
    if nameRequired then return some (← boundName false) else boundName?
  let name ←
    if isExpression then
      withContext ({ · with
        inAsync := isAsync, inGenerator := isGenerator, allowSuper := false,
        inClassField := false }) readName
    else withContext ({ · with allowSuper := false, inClassField := false }) readName
  let f ← withContext ({ · with allowSuper := false, inClassField := false, expectColon := false })
    (functionFrom start mode functionParameters)
  return (optionalBinding name, f)

/-- Reads `async` in front of `function`, if it stands here. -/
def asyncWord? (start : Nat) : P (Nat × Bool) := do
  if ← at? "async" then
    bump
    return (start, true)
  return (start, false)

/-- Reads a function as an expression. -/
def functionExpression : P Tree := do
  let (start, isAsync) ← asyncWord? (← currentStart)
  let (name, f) ← functionWithName start isAsync true false
  nodeFrom start .functionExpression [name, f]

/-- Reads a function as a declaration. -/
def functionDeclaration (start : Nat) (nameRequired : Bool) : P Tree := do
  let (_, isAsync) ← asyncWord? start
  let (name, f) ← functionWithName start isAsync false nameRequired
  nodeFrom start (.functionDeclaration false) [name, f]

end EnvInline.Syntax
