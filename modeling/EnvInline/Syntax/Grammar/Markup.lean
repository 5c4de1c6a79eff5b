import EnvInline.Syntax.Grammar.Type

/-!
# Markup

Elements and fragments with their attributes and children.
-/

namespace EnvInline.Syntax

/-- Reads a name in a tag. -/
def tagWord : P Named := do
  match ← current with
  | .tagWord w =>
    bump
    return (w, ← previousSpan)
  | _ =>
    if (← context).forcedMarkup then referenceName
    else refuseToken "jsx identifier"

/-- Reads a name in a tag that may have a prefix with a colon. -/
def prefixedName (node : Named → Tree) : P Tree := do
  let start ← currentStart
  let name ← tagWord
  if !(← eat ":") then return node name
  let part ← tagWord
  nodeFrom start .tagNamespace [nameNode name, nameNode part]

/-- Reads the name of an element. -/
def elementName : P Tree := do
  let start ← currentStart
  let mut name ← prefixedName fun n => .node (.tagName (.unresolved n.1)) n.2 []
  for _ in ← turns do
    if !(← eat ".") then break
    let part ← tagWord
    name ← nodeFrom start .tagMember [name, nameNode part]
  return name

/-- The name of an element as a text, to tell whether two tags belong together. -/
def tagText : Tree → String
  | .node k _ cs =>
    match k, cs with
    | .tagName id, _ => id.name
    | .name w, _ => w
    | .tagMember, [o, n] => tagText o ++ "." ++ tagText n
    | .tagNamespace, [p, n] => tagText p ++ ":" ++ tagText n
    | _, _ => ""

/-- Reads an expression in braces; there may be none. -/
def expressionContainer : P Tree := do
  let start ← currentStart
  bump
  let inner ←
    if ← at? "\x7d" then
      let here ← currentStart
      pure (.node .emptyExpression ⟨here, here⟩ [])
    else
      let _ ← eat "..."
      rule .expression
  expect "\x7d"
  nodeFrom start .container [inner]

/-- Reads the value of an attribute. -/
def attributeValue : P Tree := do
  let start ← currentStart
  match ← current with
  | .punct "\x7b" =>
    let t ← expressionContainer
    if (t.child 0).kind == .emptyExpression then refuseAt start .emptyAttribute
    return t
  | .string .. => literal
  | .tagStart => rule (.element start)
  | _ => refuseAt (← currentSpan).lo .invalidAttributeValue

/-- Reads an attribute. -/
def tagAttribute : P Tree := do
  let start ← currentStart
  if ← eat "\x7b" then
    expect "..."
    let e ← rule .assignment
    expect "\x7d"
    return ← nodeFrom start .spreadAttribute [e]
  let name ← prefixedName nameNode
  let value ←
    if ← eat "=" then withContext ({ · with expectColon := false }) attributeValue
    else pure .none
  nodeFrom start .tagAttribute [name, value]

/-- Reads the rest of an opening tag; a tag without a name is `none`. -/
def openingTag (start : Nat) : P (Option Tree) := do
  if ← eatToken .tagEnd then return none
  let name ← withTypeAngles elementName
  let arguments ←
    if ← hasTypes <&&> at? "<" then
      pure ((← attempt (some <$> rule .typeArguments)).getD .none)
    else pure .none
  let mut attributes := []
  for _ in ← turns do
    match ← current? with
    | none | some (.fault _) | some .tagEnd | some (.punct "/") => break
    | _ => attributes := (← tagAttribute) :: attributes
  let selfClosing ← eat "/"
  if ← notM (eatToken .tagEnd) <&&> notM (inContext (·.forcedMarkup) <&&> eat ">") then
    refuseToken "> (jsx closing tag)"
  return some (← nodeFrom start (.openingTag selfClosing) [name, arguments, .many attributes.reverse])

/-- Reads the rest of a closing tag; a tag without a name is `none`. -/
def closingTag (start : Nat) : P (Option Tree) := do
  if ← eatToken .tagEnd then return none
  let name ← elementName
  if !(← eatToken .tagEnd) then
    let got ← currentSpelling
    refuse (.expectedToken Token.tagEnd.spelling got)
  return some (← nodeFrom start .closingTag [name])

/-- Reads an expression in braces, or one that is spread, as a child. -/
def bracedChild : P Tree := do
  if !(← aheadIs "...") then return ← expressionContainer
  let start ← currentStart
  bump
  bump
  let e ← rule .expression
  expect "\x7d"
  nodeFrom start .spreadChild [e]

/-- Reads children up to the end of the closing tag. -/
def elementContents : P (List Tree × Nat × Option Tree) := do
  let mut children := []
  for _ in ← turns do
    let start ← currentStart
    match ← current with
    | .tagStart =>
      if ← aheadIs "/" then
        bump
        let _ ← current
        bump
        let closing ← closingTag start
        return (children.reverse, start, closing)
      children := (← rule (.element start)) :: children
    | .markupText raw =>
      bump
      children := (← nodeFrom start (.markupText raw) []) :: children
    | .punct "\x7b" => children := (← bracedChild) :: children
    | _ => refuseToken "< (jsx tag start), jsx text or \x7b"
  refuse .unterminatedMarkup

/-- Makes an element of its tags and children; the tags must belong together. -/
def closeElement (start : Nat) (opening : Option Tree)
    (contents : List Tree × Nat × Option Tree) : P Tree := do
  let (children, closingStart, closing) := contents
  match opening, closing with
  | none, none => nodeFrom start .fragment children
  | none, some _ => refuseAt closingStart .closingFragmentExpected
  | some o, none => refuseAt closingStart (.closingTagExpected (tagText (o.child 0)))
  | some o, some c =>
    if tagText (o.child 0) != tagText (c.child 0) then
      refuseAt closingStart (.closingTagExpected (tagText (o.child 0)))
    nodeFrom start .element [o, .many children, c]

/-- Reads an element whose opening bracket is the current token. -/
def element (start : Nat) : P Tree := do
  let isForced ← at? "<"
  bump
  withContext ({ · with forcedMarkup := isForced, anglesAreOperators := false }) do
    let opening ← openingTag start
    let closesItself : Bool :=
      match opening with
      | some o => o.kind == .openingTag true
      | none => false
    if closesItself then nodeFrom start .element [opening.getD .none, .many [], .none]
    else closeElement start opening (← elementContents)

end EnvInline.Syntax
