import EnvInline.Syntax.Grammar.Operator

/-!
# Variable declarations

`var`, `let` and `const`, as statements and in the heads of loops.
-/

namespace EnvInline.Syntax

/-- The token shows that a `let` before it declares variables. -/
def Token.followsLet : Token → Bool
  | .name _ => true
  | .keyword w => w == "let" || w == "yield" || w == "await"
  | .punct p => p == "\x7b" || p == "["
  | _ => false

/-- A declaration with `let` starts here. -/
def atLetDeclaration : P Bool := do
  if !(← at? "let") then return false
  return (← ahead?).any Token.followsLet

/-- Reads the initial value of a variable. -/
def initializer (start : Nat) (word : String) (pattern : Tree) : P Tree := do
  if ← eat "=" then return ← rule .assignment
  let c ← context
  if c.inAmbient then return .none
  if word == "const" && c.strict then
    let place := start
    report place .constWithoutInit
    return .none
  if pattern.kind matches .binding .. then return .none
  refuseAt start .patternWithoutInit

/-- Reads one variable with its initial value. -/
def declarator (word : String) (inHead : Bool) : P Tree := do
  let start ← currentStart
  let mut pattern ← rule (.bindingPattern (word == "let" || word == "const"))
  let mut isDefinite := false
  if ← hasTypes then
    if pattern.kind matches .binding .. then isDefinite ← eat "!"
    let type ← colonType?
    if type.isPresent then pattern := pattern.withType type
  let value ←
    if ← pure inHead <&&> (at? "in" <||> at? "of") then pure .none
    else initializer start word pattern
  nodeFrom start (.declarator isDefinite) [pattern, value]

/-- In the head of a loop the variable is missing. -/
def isMissingInHead : P Bool := do
  if ← notM hasTypes <||> notM (at? "in" <||> at? "of") then return false
  lookahead do
    bump
    let read ← attempt (some <$> rule .assignment)
    pure read.isSome <&&> at? ")"

/-- Reads over what follows a declaration on the same line by mistake. -/
def skipToStatementEnd : P Unit := do
  report (← currentSpan).lo .semicolonExpected
  let before ← get
  (fun env s =>
    match rule .expression env s with
    | .ok _ s => .ok () s
    | .error _ s => .ok () { s with
        context := before.context
        labels := before.labels
        arrowStart := before.arrowStart
        spreadCommas := before.spreadCommas } : P Unit)
  for _ in ← turns do
    if ← eatStatementEnd then break
    bump
    if (← current?) matches some (.fault _) then break

/-- Reads the variables of a declaration. -/
def declarators (word : String) (wordSpan : Span) (inHead : Bool) : P (List Tree) := do
  let mut items := []
  for _ in ← turns do
    if !items.isEmpty then
      if !(← eat ",") then break
    if (← at? ";") || (← atEnd) then
      let previous ← previousSpan
      report (if previous == wordSpan then previous.hi else previous.lo) .trailingCommaNotAllowed
      break
    let allowIn := word != "var" || !inHead
    items := (← withContext ({ · with allowIn := allowIn }) (declarator word inHead)) :: items
  return items.reverse

/-- Reads a declaration of variables. -/
def variableDeclaration (inHead : Bool) : P Tree := do
  let start ← currentStart
  let word := ((← current?).bind Token.word?).getD ""
  bump
  let wordSpan ← previousSpan
  if ← pure inHead <&&> isMissingInHead then
    report wordSpan.hi .declarationListEmpty
    return .node (.variableDeclaration word false) wordSpan []
  let items ← declarators word wordSpan inHead
  if ← pure (!inHead) <&&> notM eatStatementEnd then skipToStatementEnd
  nodeFrom start (.variableDeclaration word false) items

end EnvInline.Syntax
