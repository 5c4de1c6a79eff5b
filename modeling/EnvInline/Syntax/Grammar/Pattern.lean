import EnvInline.Syntax.Grammar.Annotation

/-!
# Patterns

A pattern is read as such where names are declared (`bindingPattern`). Elsewhere it looks like an
expression at first, and is made from the tree of that expression (`patternOf`) when an assignment
operator or an arrow shows what it is.
-/

namespace EnvInline.Syntax

/-- Reads the mark of a pattern that may be left out, where nothing is run. -/
def ambientOptional : P Bool := do
  if (← context).inAmbient then eat "?" else return false

/-- Reads an array pattern. -/
def arrayPattern : P Tree := do
  let start ← currentStart
  bump
  let mut elements := []
  let mut restAt : Option Nat := none
  for _ in ← turns do
    if (← atEnd) || (← at? "]") then break
    if ← eat "," then
      elements := .none :: elements
      continue
    if let some place := restAt then report place .restNotLast
    let itemStart ← currentStart
    let isRest ← eat "..."
    if isRest then
      let p ← rule (.bindingPattern false)
      restAt := some itemStart
      elements := (← nodeFrom itemStart .restPattern [p, .none]) :: elements
    else
      elements := (← rule .bindingElement) :: elements
    if !(← at? "]") then
      expect ","
      if ← pure isRest <&&> at? "]" then report (← previousSpan).lo .commaAfterRest
  expect "]"
  let isOptional ← ambientOptional
  nodeFrom start (.arrayPattern isOptional) [.many elements.reverse, .none]

/-- Reads a member of an object pattern. -/
def patternMember : P Tree := do
  let start ← currentStart
  if ← eat "..." then
    let p ← rule (.bindingPattern false)
    return ← nodeFrom start .restPattern [p, .none]
  let key ← rule .propertyKey
  if ← eat ":" then
    let value ← rule .bindingElement
    return ← nodeFrom start .patternProperty [key, value]
  match key.kind with
  | .name w =>
    let bound := bindingNode (w, key.span)
    if ← eat "=" then
      let value ← withContext ({ · with allowIn := true }) (rule .assignment)
      nodeFrom start .patternShorthand [bound, value]
    else
      if ← isReservedText w then report key.span.lo .reservedShorthand
      nodeFrom start .patternShorthand [bound, .none]
  | _ => refuseToken "an identifier"

/-- Checks the rest elements among the members of an object pattern. -/
def checkRest (members : List Tree) (comma : Option Nat) : P Unit := do
  match members with
  | [] => return ()
  | [m] =>
    if m.kind == .restPattern then
      match (m.child 0).kind with
      | .binding .. => if let some place := comma then report place .commaAfterRest
      | _ => refuseAt m.span.lo .dotsWithoutName
  | m :: ms =>
    if m.kind == .restPattern then report m.span.lo .restNotLast
    checkRest ms comma

/-- Reads what stands between braces, members with commas between them, and the place of a comma
after the last. -/
def bracedMembers (member : P Tree) : P (List Tree × Option Nat) := do
  bump
  let mut members := []
  let mut comma : Option Nat := none
  for _ in ← turns do
    if ← eat "\x7d" then break
    members := (← member) :: members
    if !(← at? "\x7d") then
      expect ","
      if ← at? "\x7d" then comma := some (← previousSpan).lo
  return (members.reverse, comma)

/-- Reads an object pattern. -/
def objectPattern : P Tree := do
  let start ← currentStart
  let (members, comma) ← bracedMembers patternMember
  let span ← spanFrom start
  checkRest members comma
  let isOptional ← ambientOptional
  return .node (.objectPattern isOptional) span [.many members, .none]

/-- Reads a pattern that declares names, without a default. -/
def bindingPattern (letForbidden : Bool) : P Tree := do
  match ← current with
  | .keyword _ | .name _ => return bindingNode (← boundName letForbidden)
  | .punct "[" => arrayPattern
  | .punct "\x7b" => withContext ({ · with expectColon := false }) objectPattern
  | _ => refuseToken "yield, an identifier, [ or \x7b"

/-- Reads a pattern that declares names, with its default. -/
def bindingElement : P Tree := do
  let start ← currentStart
  let left ← rule (.bindingPattern false)
  if ← eat "=" then
    let right ← withContext ({ · with allowIn := true }) (rule .assignment)
    if (← context).inAmbient then report start .parameterInitializer
    nodeFrom start .defaultPattern [left, right]
  else return left

/-- What a pattern made from an expression is for. -/
inductive PatternUse where
  /-- declares names -/
  | binding
  /-- is assigned to -/
  | assigned
  /-- stands inside a pattern that is assigned to -/
  | assignedPart
deriving DecidableEq, Repr, Inhabited

/-- What the parts of a pattern are for. -/
def PatternUse.part : PatternUse → PatternUse
  | binding => binding
  | _ => assignedPart

/-- The variable may be assigned: not `eval` and `arguments` in strict code. -/
def isAssignableName (strict : Bool) (w : String) : Bool := !(strict && isEvalOrArguments w)

mutual
/-- The expression names one place that can be assigned. -/
def isSimpleTarget (strict : Bool) : Tree → Bool
  | .node (.reference id) _ _ => isAssignableName strict id.name
  | .node .member _ (o :: _) => isOpenObject strict o
  | .node .index _ (o :: _) => isOpenObject strict o
  | .node .paren _ (e :: _) => isSimpleTarget strict e
  | .node .nonNull _ (e :: _) => isSimpleTarget strict e
  | .node .asType _ (e :: _) => isSimpleTarget strict e
  | .node .satisfies _ (e :: _) => isSimpleTarget strict e
  | .node .typeAssertion _ (_ :: e :: _) => isSimpleTarget strict e
  | .node .instantiation _ (e :: _) => isSimpleTarget strict e
  | _ => false

/-- The members of the object can be assigned. -/
def isOpenObject (strict : Bool) : Tree → Bool
  | .node .member _ (o :: _) => isOpenObject strict o
  | .node .index _ (o :: _) => isOpenObject strict o
  | .node (.chainMember _) _ _ => false
  | .node (.chainIndex _) _ _ => false
  | .node (.chainCall _) _ _ => false
  | _ => true
end

/-- Assigning to the expression is reported even in a text with types. -/
def isDeniedTarget : Tree → Bool
  | .node k _ cs =>
    match k, cs with
    | .nullLiteral, _ | .booleanLiteral _, _ | .numberLiteral .., _ | .bigintLiteral _, _
    | .stringLiteral .., _ | .regexLiteral .., _ | .binary _, _ => false
    | .paren, e :: _ => isDeniedTarget e
    | _, _ => true

/-- Reports an assignment to an expression that cannot be assigned. -/
def checkTarget (e : Tree) : P Unit := do
  let strict := (← context).strict
  if ← hasTypes then
    let special :=
      match e.kind with
      | .reference id => isEvalOrArguments id.name
      | _ => false
    if special then reportStrict e.span.lo .argumentsInStrict
    else if !isSimpleTarget strict e && isDeniedTarget e then report e.span.lo .notAssignable
  else if !isSimpleTarget strict e then report e.span.lo .notAssignable

/-- A variable as the leaf of a pattern. -/
def leafPattern (use : PatternUse) (id : Ident) (span : Span) : Tree :=
  if use == .binding then .node (.binding id false) span [.none] else .node (.target id) span []

/-- Reports that the expression is no pattern. -/
def noPattern (span : Span) : P Tree := do
  report span.lo .notAPattern
  return .node .absent span []

/-- The expression can stand as a whole inside a pattern that is assigned to. -/
def isWholeTarget (e : Tree) : Bool :=
  match e.kind with
  | .array | .object | .assignment _ | .absent => false
  | _ => true

/-- Makes the member of an object pattern out of a member of an object. -/
def patternMemberOf (convert : PatternUse → Tree → P Tree) (use : PatternUse) (object : Span)
    (isLast : Bool) (m : Tree) : P Tree := do
  match m with
  | .node (.shorthand id) s _ =>
    return .node .patternShorthand s [leafPattern use id s, .none]
  | .node .property s [key, value] =>
    return .node .patternProperty s [key, ← convert use.part value]
  | .node (.coverDefault id) s (value :: _) =>
    return .node .patternShorthand s [leafPattern use id ⟨s.lo, s.lo + id.name.utf8ByteSize⟩, value]
  | .node .spread s (e :: _) =>
    if !isLast then report s.lo .restNotLast
    else if let some (_, comma) := (← get).spreadCommas.find? (·.1 == object.lo) then
      report comma .commaAfterRest
    let p ←
      match use.part, e.kind with
      | .binding, .reference id => pure (leafPattern use id e.span)
      | .binding, _ =>
        report s.lo .dotsWithoutName
        pure (.node .absent s [])
      | part, _ => convert part e
    if p.kind == .defaultPattern then report s.lo .restWithDefault
    return .node .restPattern s [p, .none]
  | m => refuseAt m.span.lo .notAPattern

/-- Makes the last element of an array pattern out of an element of an array. -/
def lastElementOf (convert : PatternUse → Tree → P Tree) (use : PatternUse) (array : Span)
    (e : Tree) : P Tree := do
  match e with
  | .node .spread s (inner :: _) =>
    match inner.kind with
    | .assignment _ => report s.lo .restWithDefault
    | _ => pure ()
    if let some (_, comma) := (← get).spreadCommas.find? (·.1 == array.lo) then
      report comma .commaAfterRest
    return .node .restPattern s [← convert use.part inner, .none]
  | e => convert use.part e

/-- Makes an array pattern out of the elements of an array. Holes at its end are dropped; a rest
element must come last. -/
def arrayPatternOf (convert : PatternUse → Tree → P Tree) (use : PatternUse) (span : Span)
    (elements : List Tree) : P Tree := do
  let trimmed := (elements.reverse.dropWhile Tree.isAbsent).reverse
  let hasHoles := trimmed.length < elements.length
  let (firsts, last) := if hasHoles then (trimmed, []) else (trimmed.dropLast, trimmed.getLast?.toList)
  let mut parts := []
  for e in firsts do
    if e.isAbsent then parts := .none :: parts
    else if e.kind == .spread then report (e.child 0).span.lo .restNotLast
    else parts := (← convert use.part e) :: parts
  for e in last do
    parts := (← lastElementOf convert use span e) :: parts
  return .node (.arrayPattern false) span [.many parts.reverse, .none]

mutual
/-- A pattern that was assigned to as one that declares names. -/
def declareLeaves : Tree → Tree
  | .node k s cs =>
    match k, cs with
    | .target id, _ => .node (.binding id false) s [.none]
    | .list, cs => .node .list s (declareLeavesMany cs)
    | .arrayPattern o, [es, t] => .node (.arrayPattern o) s [declareLeaves es, t]
    | .objectPattern o, [ms, t] => .node (.objectPattern o) s [declareLeaves ms, t]
    | .restPattern, [p, t] => .node .restPattern s [declareLeaves p, t]
    | .defaultPattern, [p, v] => .node .defaultPattern s [declareLeaves p, v]
    | .patternProperty, [key, p] => .node .patternProperty s [key, declareLeaves p]
    | .patternShorthand, [p, v] => .node .patternShorthand s [declareLeaves p, v]
    | k, cs => .node k s cs

/-- Some patterns that were assigned to as patterns that declare names. -/
def declareLeavesMany : List Tree → List Tree
  | [] => []
  | t :: ts => declareLeaves t :: declareLeavesMany ts
end

/-- Makes a pattern out of an expression that has at most `n` levels. -/
def patternOfDepth : Nat → PatternUse → Tree → P Tree
  | 0, _, e => noPattern e.span
  | n + 1, use, e => do
    if use != .binding && isWholeTarget e then
      if use == .assigned then checkTarget e
      else if !isSimpleTarget (← context).strict e then report e.span.lo .notSimpleTarget
      match e.kind with
      | .reference id => return .node (.target id) e.span []
      | _ => return e
    match e with
    | .node (.assignment "=") s [left, right] =>
      let isPattern :=
        match left.kind with
        | .target _ | .binding .. | .arrayPattern _ | .objectPattern _ => true
        | _ => false
      let left ←
        if !isPattern then patternOfDepth n use left
        else if use == .binding then pure (declareLeaves left)
        else pure left
      return .node .defaultPattern s [left, right]
    | .node .object s members =>
      let count := members.length
      let mut parts := []
      for (m, i) in members.zipIdx do
        parts := (← patternMemberOf (patternOfDepth n) use s (i + 1 == count) m) :: parts
      return .node (.objectPattern false) s [.many parts.reverse, .none]
    | .node .array s elements => arrayPatternOf (patternOfDepth n) use s elements
    | .node (.reference id) s _ => return leafPattern use id s
    | .node .absent _ _ => return e
    | .node _ s _ => noPattern s

/-- Makes a pattern out of an expression. -/
def patternOf (use : PatternUse) (e : Tree) : P Tree := patternOfDepth e.depth use e

end EnvInline.Syntax
