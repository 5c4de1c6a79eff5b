import EnvInline.Syntax.Cursor

/-!
# Names

Where a word may stand as a name, and which words may not: some are reserved always, some in strict
code, some in functions of a kind.
-/

namespace EnvInline.Syntax

/-- A name as a text, with its place. -/
abbrev Named := String × Span

/-- A node that is only a name. -/
def nameNode (n : Named) : Tree := .node (.name n.1) n.2 []

/-- A node for a variable that is read. -/
def referenceNode (n : Named) : Tree := .node (.reference (.unresolved n.1)) n.2 []

/-- A node for a variable that is declared, without a type. -/
def bindingNode (n : Named) : Tree :=
  .node (.binding (.unresolved n.1) false) n.2 [.none]

/-- Words that are reserved in strict code alone. -/
def strictReserved : List String :=
  ["implements", "interface", "package", "private", "protected", "public"]

/-- The text may not be a name here. -/
def isReservedText (w : String) : P Bool := isReservedHere w

/-- The current token is a word that may be a name. -/
def atFreeName : P Bool := do
  match ← current? with
  | some (.keyword w) | some (.name w) => return !(← isReservedHere w)
  | _ => return false

/-- The token is a word. -/
def Token.isWord (t : Token) : Bool := t.word?.isSome

/-- The current token is a word, reserved or not. -/
def atWord : P Bool := return (← current?).any Token.isWord

/-- The token after the current one is a word. -/
def wordAhead : P Bool := return (← ahead?).any Token.isWord

/-- The token after the current one is a word that may be a name. -/
def freeNameAhead : P Bool := do
  match ← ahead? with
  | some (.keyword w) | some (.name w) => return !(← isReservedHere w)
  | _ => return false

/-- `eval` and `arguments` may not be bound in strict code. -/
def isEvalOrArguments (w : String) : Bool := w == "eval" || w == "arguments"

/-- Reads a word as a name where any word will do. -/
def anyName : P Named := do
  let inType := (← context).inType
  match ← current with
  | .keyword w | .name w =>
    bump
    return (w, ← previousSpan)
  | .tagWord w =>
    if inType then
      bump
      return (w, ← previousSpan)
    refuse .expectedIdent
  | _ => refuse .expectedIdent

/-- Reads `#name` from its mark on. -/
def privateName : P Tree := do
  let start ← currentStart
  expect "#"
  let markEnd ← previousEnd
  if (← currentStart) > markEnd then refuseAt start .spaceAfterHash
  let (w, _) ← anyName
  nodeFrom start (.privateName w) []

/-- Reads a name; `yieldToo` and `awaitToo` tell whether these words will do. -/
def freeName (yieldToo awaitToo : Bool) : P Named := do
  let start ← currentStart
  let t ← current
  match t.word? with
  | none => refuse .expectedIdent
  | some w =>
    bump
    let place := (← previousSpan).lo
    if w == "enum" then report place (.strictReservedName w)
    else if w == "let" || w == "yield" || w == "static" || strictReserved.contains w then
      reportStrict place (.strictReservedName w)
    let c ← context
    match t with
    | .name _ =>
      if w == "arguments" && c.inClassField then report place .argumentsInField
      return (w, ← spanFrom start)
    | _ =>
      if w == "await" && c.inAmbient then return (w, ← spanFrom start)
      if w == "await" && c.inStaticBlock then refuseAt place .expectedIdent
      if w == "await" && (c.isModule || c.inAsync) then refuseAt place .awaitAsName
      if w == "this" && (← hasTypes) then return (w, ← spanFrom start)
      if w == "let" || (w == "yield" && yieldToo) || (w == "await" && awaitToo) then
        return (w, ← spanFrom start)
      refuseAt place .expectedIdent

/-- Reads a name that refers to something. -/
def referenceName : P Named := do
  let c ← context
  freeName (!c.inGenerator) (!c.inAsync)

/-- Reads a name that is bound. -/
def boundName (letForbidden : Bool) : P Named := do
  if ← pure letForbidden <&&> atToken (.keyword "let") then
    refuseToken "let is reserved in const, let, class declaration"
  let (w, span) ← freeName true true
  if isEvalOrArguments w then reportStrict span.lo .evalOrArgumentsBound
  let c ← context
  if (c.inAsync || c.inStaticBlock) && w == "await" then report span.lo .expectedIdent
  if c.inGenerator && w == "yield" then report span.lo .expectedIdent
  return (w, span)

/-- Reads a bound name if there is one. -/
def boundName? : P (Option Named) := do
  if (← atFreeName) || ((← atToken (.keyword "this")) && (← hasTypes)) then
    return some (← boundName false)
  return none

/-- Reads a name under which a module exports something: a word or a string. -/
def exportName : P Tree := do
  match ← current? with
  | some (.string value raw) =>
    bump
    return .node (.stringLiteral value (some raw)) (← previousSpan) []
  | some (.keyword _) | some (.name _) => return nameNode (← anyName)
  | _ => refuseToken "identifier or string"

/-- Reads a modifier of declarations of types, one of those given, if what follows it shows that it
is no name. -/
def modifier? (words : List String) (beforeBlock : Bool) : P (Option String) := do
  if !(← hasTypes) then return none
  match (← current).word? with
  | none => return none
  | some w =>
    if !words.contains w then return none
    if ← pure beforeBlock <&&> pure (w == "static") <&&> aheadIs "\x7b" then return none
    attempt do
      bump
      if ← afterBreak then return none
      let follows :=
        match ← current? with
        | some (.punct p) => p == "[" || p == "\x7b" || p == "*" || p == "..." || p == "#"
        | some (.keyword _) | some (.name _) | some (.string ..) | some (.number ..)
        | some (.bigint ..) => true
        | _ => false
      return if follows then some w else none

/-- Reads `public`, `protected` or `private`, if it is a modifier. -/
def accessModifier? : P (Option String) := modifier? ["public", "protected", "private"] false

/-- Reads a modifier in front of a parameter or member where none may stand. -/
def strayModifier : P Bool := do
  let words := ["public", "protected", "private", "readonly"]
  match ← current? with
  | some (.name w) =>
    if (← hasTypes) && words.contains w then
      if ← wordAhead <||> aheadIs "\x7b" <||> aheadIs "[" then
        let _ ← modifier? words false
        return true
    return false
  | _ => return false

end EnvInline.Syntax
