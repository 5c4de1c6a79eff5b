import EnvInline.Syntax.Grammar.Function

/-!
# Objects

Keys and the members of object expressions.
-/

namespace EnvInline.Syntax

/-- Reads the expression of a computed key. -/
def computedKey : P Tree := do
  let start ← currentStart
  bump
  let inner ← currentStart
  let part := withContext ({ · with allowIn := true }) (rule .assignment)
  let first ← part
  let mut parts := [first]
  if ← hasTypes <&&> at? "," then
    for _ in ← turns do
      if !(← eat ",") then break
      parts := (← part) :: parts
    report inner .commaInComputedKey
  let key ← if parts.length == 1 then pure first else nodeFrom inner .sequence parts.reverse
  expect "]"
  nodeFrom start .computedKey [key]

/-- Reads a key: a word, a string, a number or an expression in brackets. -/
def propertyKey : P Tree := withContext ({ · with inPropertyName := true }) do
  match ← current with
  | .string .. | .number .. | .bigint .. => literal
  | .keyword _ | .name _ => return nameNode (← anyName)
  | .punct "[" => computedKey
  | _ => refuseToken "identifier, string literal, numeric literal or [ for the computed key"

/-- The rules for a method of an object. -/
def inObjectMethod {α : Type} (p : P α) : P α :=
  withContext ({ · with allowSuper := true, inClassField := false }) p

/-- Reads a method of an object after its key. -/
def objectMethod (start : Nat) (mode : FunctionMode) (key : Tree) : P Tree := do
  let f ← inObjectMethod (functionFrom start mode functionParameters)
  nodeFrom start .method [key, f]

/-- Reads a getter after `get`. -/
def objectGetter (start : Nat) : P Tree := do
  let key ← propertyKey
  let f ← inObjectMethod (functionFrom start ⟨false, false⟩ (getterParameters key.span.lo))
  nodeFrom start .getter [key, f.child 2, f.child 3]

/-- Reads a setter after `set`. -/
def objectSetter (start : Nat) : P Tree := do
  let key ← propertyKey
  let f ← inObjectMethod (functionFrom start ⟨false, false⟩ (setterParameters key.span.lo))
  let parameter ←
    match f.parts 1 with
    | p :: _ => pure p
    | [] =>
      report key.span.lo .setterParameters
      pure .none
  nodeFrom start .setter [key, parameter, f.child 3]

/-- Reads a member that is only a name, maybe with a default. -/
def shorthandMember (start : Nat) (name : String) (span : Span) : P Tree := do
  if ← isReservedText name then report span.lo .reservedShorthand
  if ← eat "=" then
    let value ← withContext ({ · with allowIn := true }) (rule .assignment)
    return ← nodeFrom start (.coverDefault (.unresolved name)) [value]
  return .node (.shorthand (.unresolved name)) span []

/-- Something that can follow a key stands here. -/
def atAfterKey (key : Tree) : P Bool := do
  if ← atAny ["(", "[", ":", ",", "?", "=", "*", "<"] then return true
  match ← current? with
  | some (.name _) | some (.keyword _) | some (.string ..) | some (.number ..)
  | some (.bigint ..) => return true
  | some (.punct "\x7d") =>
    match key.kind with
    | .name _ => return true
    | _ => return false
  | _ => return false

/-- Reads a member of an object after a name that is followed by no colon or parenthesis. -/
def namedMember (start : Nat) (modifier : Option Nat) (name : String) (span : Span) : P Tree := do
  if ← eat "?" then report (← previousSpan).lo .optionalMember
  if ← atAny ["=", ",", "\x7d"] then return ← shorthandMember start name span
  if name == "get" || name == "set" || name == "async" then
    if let some place := modifier then report place .modifiersNotHere
  match name with
  | "get" => objectGetter start
  | "set" => objectSetter start
  | "async" =>
    let isGenerator ← eat "*"
    let key ← propertyKey
    objectMethod start ⟨true, isGenerator⟩ key
  | _ =>
    if ← hasTypes then
      refuseToken
        "... , *,  (, [, :, , ?, =, an identifier, public, protected, private, readonly, <."
    else refuseToken "... , *,  (, [, :, , ?, = or an identifier"

/-- Reads a member of an object. -/
def objectMember : P Tree := do
  let start ← currentStart
  if ← eat "..." then
    let e ← withContext ({ · with allowIn := true }) (rule .assignment)
    return ← nodeFrom start .spread [e]
  if ← eat "*" then
    let key ← propertyKey
    return ← objectMethod start ⟨false, true⟩ key
  let hasModifier ← strayModifier
  let place := (← previousSpan).lo
  let modifier := if hasModifier then some place else none
  let key ← propertyKey
  if ← hasTypes <&&> notM (atAfterKey key) then
    report (← currentSpan).lo .semicolonExpected
    return ← nodeFrom start .property [key, .none]
  if ← eat ":" then
    let value ← withContext ({ · with allowIn := true }) (rule .assignment)
    return ← nodeFrom start .property [key, value]
  if (← at? "(") || ((← hasTypes) && (← at? "<")) then
    return ← objectMethod start ⟨false, false⟩ key
  match key.kind with
  | .name w => namedMember start modifier w key.span
  | _ => refuseToken "identifier"

/-- Reads an object. A comma after its last member is noted, since a pattern may forbid it. -/
def objectExpression : P Tree := withContext ({ · with expectColon := false }) do
  let start ← currentStart
  let (members, comma) ← bracedMembers objectMember
  if let some place := comma then
    modify fun s => { s with spreadCommas := (start, place) :: s.spreadCommas }
  nodeFrom start .object members

end EnvInline.Syntax
