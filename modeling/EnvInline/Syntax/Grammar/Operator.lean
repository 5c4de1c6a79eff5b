import EnvInline.Syntax.Grammar.Member

/-!
# Operators

From the tightest: prefix operators, binary operators by their precedence, conditional expressions,
assignments, and the comma.
-/

namespace EnvInline.Syntax

/-- Reads `await` with its operand; where it can have none it is a name. -/
def awaitExpression : P Tree := do
  let start ← currentStart
  bump
  if ← at? "*" then refuse .awaitStar
  let c ← context
  if ← pure (!c.inAsync) <&&> (atAny [")", "]", ","] <||> atStatementEnd) then
    if c.isModule then report start .awaitAsName
    return referenceNode ("await", ← spanFrom start)
  if !c.isModule && !c.inFunction then report start .topLevelAwaitInScript
  if c.inFunction && !c.inAsync then report start .awaitOutsideAsync
  if c.inParameters && !c.inFunction then report start .awaitInParameter
  let e ← rule .unary
  nodeFrom start .awaitExpression [e]

/-- Reads a type assertion after its `<`. -/
def typeAssertion (start : Nat) : P Tree := do
  if ← eat "const" then
    expect ">"
    let e ← rule .unary
    return ← nodeFrom start .constAssertion [e]
  let t ← inType (rule .type)
  expect ">"
  let e ← rule .unary
  nodeFrom start .typeAssertion [t, e]

/-- Checks the operand of `delete`. -/
def checkDelete (e : Tree) : P Unit := do
  if e.kind matches .reference _ then reportStrict e.span.lo .deletedName
  if ← hasTypes then
    let inner := stripParens e
    match inner.kind with
    | .member | .index | .chainMember _ | .chainIndex _ => pure ()
    | _ => report inner.span.lo .deletedNonMember
where
  /-- The expression without the parentheses around it. -/
  stripParens : Tree → Tree
    | .node .paren s (e :: es) => if es.isEmpty then stripParens e else .node .paren s (e :: es)
    | t => t

/-- Reads the operand of a prefix operator. A fault in it is reported, and reading goes on. -/
def unaryOperand (start : Nat) : P Tree := do
  let before ← get
  fun env s =>
    match rule .unary env s with
    | .ok t s => .ok t s
    | .error f s => recover before f env s
where
  /-- Goes on without the operand. -/
  recover (before : State) (f : Fault) : P Tree := do
    modify fun s =>
      { s with
        context := before.context
        labels := before.labels
        arrowStart := before.arrowStart
        spreadCommas := before.spreadCommas }
    report f.place f.cause
    return .node .absent ⟨start, start⟩ []

/-- Reads a prefix operator with its operand. -/
def prefixed (start : Nat) (op : String) : P Tree := do
  bump
  let e ← unaryOperand start
  if op == "delete" then checkDelete e
  return .node (.unary op) ⟨start, max e.span.hi (start + op.utf8ByteSize)⟩ [e]

/-- Reads an expression with prefix operators, or with `++` or `--` after it. -/
def unary : P Tree := do
  let start ← currentStart
  if ← hasTypes <&&> notM hasMarkup <&&> eat "<" then return ← typeAssertion start
  let word : String :=
    match ← current? with
    | some (.punct p) => p
    | some (.keyword w) => w
    | _ => ""
  if word == "++" || word == "--" then
    bump
    let e ← rule .unary
    checkTarget e
    return .node (.update word true) ⟨start, e.span.hi⟩ [e]
  if ["delete", "void", "typeof", "+", "-", "~", "!"].contains word then
    return ← prefixed start word
  if word == "await" then return ← awaitExpression
  let e ← rule .leftHandSide
  if e.kind matches .arrow _ then return e
  if ← afterBreak then return e
  match ← current? with
  | some (.punct p) =>
    if p != "++" && p != "--" then return e
    checkTarget e
    bump
    nodeFrom e.span.lo (.update p false) [e]
  | _ => return e

/-- Reports `??` beside `&&` or `||`. -/
def checkCoalesce (op : String) (left right : Tree) : P Unit := do
  let isLogical (t : Tree) : Bool := t.kind == .binary "&&" || t.kind == .binary "||"
  if op == "??" then
    if isLogical left then report left.span.lo .mixedCoalesce
    if isLogical right then report right.span.lo .mixedCoalesce
  if op == "&&" || op == "||" then
    if left.kind == .binary "??" then report left.span.lo .mixedCoalesce

/-- Reads `as T`, `as const` or `satisfies T` after an expression, if it stands here. -/
def castAfter? (left : Tree) (level : Nat) : P (Option Tree) := do
  if ← notM hasTypes <||> pure (7 ≤ level) <||> afterBreak then return none
  let start := left.span.lo
  if ← at? "as" then
    if ← aheadIs "const" then
      bump
      bump
      return some (← nodeFrom start .asConst [left])
    let t ← inType do
      bump
      rule .type
    return some (← nodeFrom start .asType [left, t])
  if ← at? "satisfies" then
    let t ← inType do
      bump
      rule .type
    return some (← nodeFrom start .satisfies [left, t])
  return none

/-- The binary operator at hand with its precedence. -/
def operator? : P (Option (String × Nat)) := do
  let word? : Option String :=
    match ← current? with
    | some (.punct p) => some p
    | some (.keyword w) => if w == "in" || w == "instanceof" then some w else none
    | _ => none
  match word? with
  | none => return none
  | some w =>
    if w == "in" && !(← context).allowIn then return none
    return (precedence? w).map fun n => (w, n)

/-- Reads the operators that bind more tightly than `level`, after a left operand. -/
def operators (left : Tree) (level : Nat) : P Tree := do
  let mut left := left
  for _ in ← turns do
    if let some t ← castAfter? left level then
      left := t
      continue
    match ← operator? with
    | none => break
    | some (op, n) =>
      if n ≤ level then break
      bump
      if op == "**" && (left.kind matches .unary _ | .awaitExpression) then
        refuse .unaryBeforePower
      let operand ← rule .unary
      let right ← rule (.operators operand (if op == "**" then n - 1 else n))
      checkCoalesce op left right
      left := .node (.binary op) ⟨left.span.lo, right.span.hi⟩ [left, right]
  return left

/-- Reads a conditional expression. -/
def conditional : P Tree := do
  let start ← currentStart
  let test ← binary
  if test.kind matches .arrow _ then return test
  if !(← eat "?") then return test
  let yes ←
    withContext ({ · with inConditional := true, expectColon := true, allowIn := true })
      (rule .assignment)
  expect ":"
  let no ←
    withContext ({ · with inConditional := true, expectColon := false }) (rule .assignment)
  return .node .conditional ⟨start, no.span.hi⟩ [test, yes, no]

/-- Reads `yield` with what it gives. -/
def yieldExpression : P Tree := do
  let start ← currentStart
  bump
  let c ← context
  if c.inParameters && !c.inFunction then refuseAt (← previousSpan).lo .yieldInParameter
  let goesOn ←
    if ← atStatementEnd then pure false
    else
      match ← current? with
      | some (.fault _) => pure true
      | some t =>
        pure (t.startsExpression || t.spells "*" || t.spells "/" || t.spells "/=")
      | none => pure false
  if !goesOn then return ← nodeFrom start (.yieldExpression false) [.none]
  let delegate ← eat "*"
  let e ← rule .assignment
  nodeFrom start (.yieldExpression delegate) [e]

/-- Reads an assignment, or an expression that binds more tightly. -/
def plainAssignment : P Tree := do
  if ← inContext (·.inGenerator) <&&> at? "yield" then return ← yieldExpression
  let start ← currentStart
  let mayBeArrow :=
    match ← current with
    | .name _ | .punct "(" | .keyword "yield" => true
    | _ => false
  modify fun s => { s with arrowStart := if mayBeArrow then some start else none }
  let e ← conditional
  match e.kind with
  | .arrow _ | .conditional | .binary _ | .unary _ | .update .. => return e
  | _ => finishAssignment start e

/-- Forgets the frames of a tag that turned out to be none. -/
def dropTagFrames : P Unit :=
  changeFrames fun fs => if fs.head? == some .openingTag then fs.drop 2 else fs

/-- Reads an arrow function that starts with type parameters, if one stands here. -/
def genericArrow? : P (Option Tree) := do
  if !(← hasTypes) then return none
  if !(← at? "<") && !(← atToken .tagStart) then return none
  let named :=
    match ← ahead? with
    | some (.name _) | some (.keyword _) | some (.tagWord _) => true
    | _ => false
  if !named then return none
  withContext ({ · with expectColon := false }) <| attempt do
    if ← atToken .tagStart then dropTagFrames
    let typeParams ← rule (.typeParameters false true)
    let arrow ← plainAssignment
    match arrow with
    | .node (.arrow mode) s (_ :: parts) =>
      return some (.node (.arrow mode) ⟨typeParams.span.lo, s.hi⟩ (typeParams :: parts))
    | _ => return none

/-- Reads an expression without a comma. -/
def assignment : P Tree := do
  if ← hasTypes <&&> hasMarkup <&&> atToken .tagStart then
    if let some t ← attempt (some <$> plainAssignment) then return t
    changeFrames fun fs => fs.drop 2
  if let some t ← genericArrow? then return t
  plainAssignment

/-- Reads an expression. -/
def expression : P Tree := do
  let first ← rule .assignment
  if !(← at? ",") then return first
  let mut parts := [first]
  for _ in ← turns do
    if !(← eat ",") then break
    parts := (← rule .assignment) :: parts
  nodeFrom first.span.lo .sequence parts.reverse

end EnvInline.Syntax
