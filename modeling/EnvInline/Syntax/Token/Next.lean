import EnvInline.Syntax.Token.Markup
import EnvInline.Syntax.Token.Number
import EnvInline.Syntax.Token.Operator
import EnvInline.Syntax.Token.Quoted

/-!
# The next token

`nextLexeme` reads over space and comments and gives the next token with its place, or nothing at
the end of the text. Text that is no token becomes a token of its own kind.
-/

namespace EnvInline.Syntax

/-- Reads a punctuator or an operator, or reads over an old comment: then there is no token. -/
def operatorToken : P (Option Token) := do
  let s ← get
  let c := s.context
  let singleAngles := (← hasTypes) && c.inType && !c.anglesAreOperators
  let start ← place
  match operatorAt s.afterBreak singleAngles s.rest with
  | .token word =>
    skipChars word.length
    return some (.punct word)
  | .comment cause =>
    if cause != .legacyComment || c.isModule then report start cause
    skipLineComment 3
    skipSpace
    return none
  | .unknown ch =>
    skipChar
    failAt start (.unexpectedCharacter ch)

/-- Reads a token outside of markup and templates; nothing when the text ends. -/
def plainToken : P (Option Token) := do
  for _ in ← turns do
    match ← char? with
    | none => return none
    | some c =>
      if Text.isIdentifierStart c || c == '\\' then return some (← wordToken)
      else if '0' ≤ c && c ≤ '9' then return some (← numberToken)
      else if c == '"' || c == '\'' then return some (← stringToken c)
      else if c == '.' then
        if (← secondChar?).any fun d => '0' ≤ d && d ≤ '9' then return some (← numberToken)
      if let some t ← operatorToken then return some t
  return none

/-- Reads a token inside a tag, if it is one that only tags have. -/
def tagToken? (frame : Option Frame) : P (Option Token) := do
  if frame != some .openingTag && frame != some .closingTag then return none
  match ← char? with
  | none => return none
  | some c =>
    if Text.isIdentifierStart c then return some (← tagWordToken)
    else if c == '>' then
      skipChar
      return some .tagEnd
    else if (c == '"' || c == '\'') && frame == some .openingTag then
      return some (← attributeString c)
    else return none

/-- Reads a token between the tags of an element. -/
def elementToken : P (Option Token) := do
  match ← char? with
  | some '<' =>
    if (← get).mayStart then
      skipChar
      return some .tagStart
    plainToken
  | some '{' => plainToken
  | _ => return some (← markupText)

/-- Reads a token of a text with markup. -/
def markupToken : P (Option Token) := do
  let frame := (← get).frames.head?
  if frame == some .element then return ← elementToken
  if let some t ← tagToken? frame then return some t
  if (← nextIs '<') && (← get).mayStart && (← secondChar?) != some '!' then
    skipChar
    return some .tagStart
  if frame == some .template then return some (← templateToken)
  plainToken

/-- The line `#!…` at the start of a text. -/
def shebang? : P (Option Token) := do
  if !(← nextAre "#!") then return none
  skipChars 2
  return some (.shebang (String.ofList (← takeChars fun c => !isLineEnd c)))

/-- Reads a token where it starts. -/
def tokenHere : P (Option Token) := do
  let s ← get
  if let some start := s.regexAt then return some (← regexToken start)
  if s.isFirst then
    if let some t ← shebang? then return some t
  modify fun s => { s with afterBreak := s.isFirst, isFirst := false }
  if !(s.frames.head?.any Frame.keepsSpace) then skipSpace
  let start ← place
  modify fun s => { s with start := start }
  if (← char?).isNone then return none
  let c ← context
  if (← hasMarkup) && !c.inPropertyName && !c.inType then markupToken
  else if s.frames.head? == some .template then return some (← templateToken)
  else plainToken

/-- Hands the comments over when the text has ended: those that still wait trail the last token,
or lead the text if it has no token. -/
def deliverComments : P Unit :=
  modify fun s =>
    let waiting := s.waiting.reverse.map fun c => ⟨s.lastEnd == 0, s.lastEnd, c⟩
    { s with
      waiting := []
      placed := []
      delivered := s.delivered ++ s.placed.reverse ++ waiting }

/-- The next token with its place. -/
def nextLexeme : P (Option Lexeme) := do
  modify fun s => { s with start := s.pos }
  let token ← tryCatch tokenHere fun f => return some (.fault f)
  match token with
  | none =>
    deliverComments
    return none
  | some token =>
    let markup ← hasMarkup
    modify fun s =>
      let start := (s.regexAt.getD s.start)
      let leading := s.waiting.map fun c => ⟨true, start, c⟩
      let (frames, mayStart) := Frame.step markup s.frames s.last s.afterBreak s.mayStart token
      { s with
        waiting := []
        placed := leading ++ s.placed
        frames := frames
        mayStart := mayStart
        last := some token
        templateStart :=
          if token == .punct "`" && s.frames.head? != some .template then start
          else s.templateStart
        lastEnd := s.pos }
    let s ← get
    return some ⟨token, ⟨s.regexAt.getD s.start, s.pos⟩, s.afterBreak⟩

end EnvInline.Syntax
