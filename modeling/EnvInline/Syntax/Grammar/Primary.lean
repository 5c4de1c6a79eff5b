import EnvInline.Syntax.Grammar.Arrow

/-!
# Primary expressions

Words, literals, brackets and what else an expression may start with.
-/

namespace EnvInline.Syntax

/-- Reads an array. A comma after its last element is noted, since a pattern may forbid it. -/
def arrayExpression : P Tree :=
  withContext ({ · with inConditional := false, expectColon := false }) do
    let start ← currentStart
    bump
    let mut elements := []
    for _ in ← turns do
      if ← at? "]" then break
      if ← eat "," then
        elements := .none :: elements
        continue
      elements := (← withIn expressionOrSpread) :: elements
      if !(← at? "]") then
        expect ","
        if ← at? "]" then
          let place := (← previousSpan).lo
          modify fun s => { s with spreadCommas := (start, place) :: s.spreadCommas }
    expect "]"
    nodeFrom start .array elements.reverse

/-- Reads a template with expressions in it. -/
def template (isTagged : Bool) : P Tree := withContext ({ · with expectColon := false }) do
  let start ← currentStart
  let parts ← templateParts isTagged (withIn (rule .expression))
  nodeFrom start .template parts

/-- The flags that a regular expression may have. -/
def regexFlags : List Char := ['d', 'g', 'i', 'm', 's', 'u', 'v', 'y']

/-- Checks the flags of a regular expression. -/
def checkFlags (start : Nat) (flags : String) : P Unit := do
  let fs := flags.toList
  if fs.any fun f => !regexFlags.contains f then report start .unknownRegexFlags
  if let some f := fs.find? fun f => fs.count f > 1 then report start (.duplicateRegexFlag f)

/-- Reads a regular expression whose opening mark is the current token. -/
def regex? (start : Nat) : P (Option Tree) := do
  bump
  modify fun s => { s with regexAt := some start }
  match ← current? with
  | some (.regex _ flags) =>
    modify fun s => { s with regexAt := none }
    let t ← literal
    checkFlags start flags
    return some (t.withSpan (← spanFrom start))
  | _ => return none

/-- Reads what `async` may open: a function or an arrow function. -/
def asyncStart? (canBeArrow : Bool) : P (Option Tree) := do
  let start ← currentStart
  if ← aheadIs "function" <&&> notM breakAhead then return some (← functionExpression)
  if ← pure canBeArrow <&&> hasTypes <&&> aheadIs "<" then
    let arrow ← attempt do
      bump
      genericAsyncArrow? start
    if arrow.isSome then return arrow
  if ← pure canBeArrow <&&> aheadIs "(" <&&> notM breakAhead then
    bump
    return some (← parenthesizedOrArrow canBeArrow true start)
  return none

/-- Reads on after the name `async` with another name after it: the parameter of an arrow function,
or `of` in the head of a loop, or `as`. -/
def asyncName (start : Nat) (name : Named) : P Tree := do
  if ← inContext (·.forHead) <&&> at? "of" <&&> notM (aheadIs "=>") then
    report (← previousSpan).lo .asyncInForOf
    return referenceNode name
  let (parameter, span) ← boundName false
  if ← hasTypes <&&> pure (parameter == "as") <&&> notM (at? "=>") then
    let t ← inType (rule .type)
    return ← nodeFrom start .asType [referenceNode name, t]
  expect "=>"
  arrowFrom start true .none [bindingNode (parameter, span)] .none

/-- Reads a name as an expression, or an arrow function that starts with it. -/
def nameOrArrow (start : Nat) (canBeArrow : Bool) : P Tree := do
  let name ← referenceName
  if ← pure canBeArrow <&&> pure (name.1 == "async") <&&> atFreeName then return ← asyncName start name
  if ← pure canBeArrow <&&> notM afterBreak <&&> eat "=>" then
    return ← arrowFrom start false .none [bindingNode name] .none
  return referenceNode name

/-- Reads a primary expression that is no punctuation. -/
def primaryWord (start : Nat) (canBeArrow : Bool) : P Tree := do
  if ← at? "class" then return ← rule .classExpression
  if (← atToken (.keyword "let")) || (← atFreeName) || ((← hasTypes) && (← at? "await")) then
    return ← nameOrArrow start canBeArrow
  if ← at? "#" then return ← privateName
  refuse .expressionExpected

/-- Reads a primary expression. -/
def primary : P Tree := do
  let start ← currentStart
  let canBeArrow := (← get).arrowStart == some start
  match ← current? with
  | some (.keyword "this") =>
    bump
    nodeFrom start .thisWord []
  | some (.keyword "function") => functionExpression
  | some (.keyword "null") | some (.keyword "true") | some (.keyword "false")
  | some (.string ..) | some (.number ..) | some (.bigint ..) => literal
  | some (.name "async") =>
    if let some t ← asyncStart? canBeArrow then return t
    primaryWord start canBeArrow
  | some (.punct p) =>
    match p with
    | "[" => arrayExpression
    | "\x7b" => rule .object
    | "/" | "/=" =>
      if let some t ← regex? start then return t
      primaryWord start canBeArrow
    | "`" => template false
    | "(" => parenthesizedOrArrow canBeArrow false start
    | _ => primaryWord start canBeArrow
  | _ => primaryWord start canBeArrow

end EnvInline.Syntax
