import EnvInline.Syntax.Token.Next

/-!
# The cursor over tokens

The grammar looks at the current token, sometimes at the one after it, and consumes tokens in
order. Tokens are read when they are first looked at, under the rules that hold then.
-/

namespace EnvInline.Syntax

/-- The current token with its place; nothing at the end of the text. -/
def currentLexeme? : P (Option Lexeme) := do
  let s ← get
  if s.current.isSome then return s.current
  match s.ahead with
  | some l =>
    set { s with current := some l, ahead := none }
    return some l
  | none =>
    let l ← nextLexeme
    modify fun s => { s with current := l }
    return l

/-- The current token. -/
def current? : P (Option Token) := return (← currentLexeme?).map (·.token)

/-- The token after the current one, with its place. -/
def aheadLexeme? : P (Option Lexeme) := do
  let _ ← currentLexeme?
  let s ← get
  if s.ahead.isSome then return s.ahead
  let l ← nextLexeme
  modify fun s => { s with ahead := l }
  return l

/-- The token after the current one. -/
def ahead? : P (Option Token) := return (← aheadLexeme?).map (·.token)

/-- Where the current token starts; at the end of the text, where the last token ends. -/
def currentStart : P Nat := do
  match ← currentLexeme? with
  | some l => return l.span.lo
  | none => return (← get).previous.hi

/-- The place of the current token; at the end of the text, that of the last one. -/
def currentSpan : P Span := do
  match (← get).current with
  | some l => return l.span
  | none => return (← get).previous

/-- The place of the token consumed last. -/
def previousSpan : P Span := return (← get).previous

/-- Where the token consumed last ends. -/
def previousEnd : P Nat := return (← get).previous.hi

/-- The stretch from a place to the end of the token consumed last. -/
def spanFrom (start : Nat) : P Span := return ⟨start, ← previousEnd⟩

/-- A node that started at a place and ends with the token consumed last. -/
def nodeFrom (start : Nat) (kind : Kind) (children : List Tree) : P Tree :=
  return .node kind (← spanFrom start) children

/-- Consumes the current token. -/
def bump : P Unit := do
  match ← currentLexeme? with
  | some l => modify fun s => { s with current := none, previous := l.span }
  | none => pure ()

/-- The end of the whole text. -/
def textEnd : P Nat := return byteLength (← read).text

/-- The current token, which must be there and be one. -/
def current : P Token := do
  match ← current? with
  | some (.fault f) =>
    bump
    throw f
  | some t => return t
  | none => failAt (← textEnd) .unexpectedEnd

/-- Fails at a place; a stretch that is no token, if it is the current one, is reported on the
way. -/
def refuseAt {α : Type} (place : Nat) (cause : SyntaxError) : P α := do
  if let some (.fault f) ← current? then
    bump
    report f.place f.cause
  failAt place cause

/-- Fails at the current token if it has been looked at, and at the one before it otherwise. -/
def refuse {α : Type} (cause : SyntaxError) : P α := do
  refuseAt (← currentSpan).lo cause

/-- The spelling of the current token. -/
def currentSpelling : P String := do
  return ((← current?).map Token.spelling).getD "<eof>"

/-- Fails because something else was wanted than the current token. -/
def refuseToken {α : Type} (wanted : String) : P α := do
  let got ← currentSpelling
  refuse (.unexpectedToken got wanted)

/-- The token is the punctuator or the word. -/
def Token.spells (t : Token) (text : String) : Bool :=
  match t with
  | .punct w => w == text
  | .keyword w => w == text
  | .name w => w == text
  | _ => false

/-- The current token is the punctuator or word. -/
def at? (text : String) : P Bool := return (← current?).any (·.spells text)

/-- The current token is one of some punctuators and words. -/
def atAny (texts : List String) : P Bool :=
  return (← current?).any fun t => texts.any t.spells

/-- The token after the current one is the punctuator or word. -/
def aheadIs (text : String) : P Bool := return (← ahead?).any (·.spells text)

/-- The current token is the one given. -/
def atToken (t : Token) : P Bool := return (← current?) == some t

/-- Consumes the current token if it is the punctuator or word. -/
def eat (text : String) : P Bool := do
  if ← at? text then
    bump
    return true
  return false

/-- Consumes the current token if it is the one given. -/
def eatToken (t : Token) : P Bool := do
  if ← atToken t then
    bump
    return true
  return false

/-- Consumes the punctuator or word, which must be there. -/
def expect (text : String) : P Unit := do
  if !(← eat text) then
    let got ← currentSpelling
    refuse (.expectedToken text got)

/-- A line break stands before the current token. -/
def afterBreak : P Bool := do
  match ← currentLexeme? with
  | some l => return l.afterBreak
  | none => return true

/-- A line break stands between the current token and the one after it. -/
def breakAhead : P Bool := do
  match ← aheadLexeme? with
  | some l => return l.afterBreak
  | none => return true

/-- The current token is the last of the text. -/
def atEnd : P Bool := return (← currentLexeme?).isNone

/-- A statement may end before the current token. -/
def atStatementEnd : P Bool := do
  match ← current? with
  | none => return true
  | some t => return t.spells ";" || t.spells "\x7d" || (← afterBreak)

/-- Ends a statement: a semicolon is consumed, or not needed. -/
def eatStatementEnd : P Bool := do
  if ← eat ";" then return true
  return (← at? "\x7d") || (← afterBreak)

/-- Ends a statement, which must end here. -/
def expectStatementEnd : P Unit := do
  if !(← eatStatementEnd) then
    let got ← currentSpelling
    refuse (.expectedToken ";" got)

/-- Changes the stack of frames. -/
def changeFrames (f : List Frame → List Frame) : P Unit :=
  modify fun s => { s with frames := f s.frames }

/-- Says whether an expression may start at the next token. -/
def setMayStart (b : Bool) : P Unit := modify fun s => { s with mayStart := b }

end EnvInline.Syntax
