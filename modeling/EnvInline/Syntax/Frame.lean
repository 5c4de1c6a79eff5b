import EnvInline.Syntax.Token

/-!
# Frames

What a token means can hang on what encloses it: `<` opens an element only where an expression may
start, and text between tags or in a template is read in its own way. A stack of frames records
what is open; `Frame.step` brings it forward by one token.
-/

namespace EnvInline.Syntax

/-- Something open around the next token. -/
inductive Frame where
  /-- braces around statements -/
  | block
  /-- braces around an object, or around an expression in a tag -/
  | braces
  /-- `${` or the braces between tags, around an expression -/
  | hole
  /-- the parentheses of a statement's head -/
  | head (isFor : Bool)
  /-- other parentheses -/
  | parens
  /-- a template -/
  | template
  /-- a function in an expression -/
  | function
  /-- a class in an expression -/
  | class_
  /-- an opening tag -/
  | openingTag
  /-- a closing tag -/
  | closingTag
  /-- an element -/
  | element
deriving DecidableEq, Repr, Inhabited

namespace Frame

/-- Spaces inside the frame are text. -/
def keepsSpace : Frame → Bool
  | template | element => true
  | _ => false

/-- What the frame closes off is a value. -/
def isValue : Frame → Bool
  | braces | hole | parens | template | function | class_ | element => true
  | _ => false

/-- The frames and whether an expression may start next. -/
abbrev Stack := List Frame × Bool

/-- A brace after `prev` opens a block of statements. -/
def opensBlock (frames : List Frame) (prev : Option Token) (afterBreak mayStart : Bool) : Bool :=
  match prev, frames.head? with
  | some (.punct ":"), some block => true
  | some (.punct ":"), some braces => false
  | some (.keyword "return"), _ | some (.keyword "yield"), _ => afterBreak
  | none, _ | some (.keyword "else"), _ | some (.punct ";"), _ | some (.punct ")"), _ => true
  | some (.punct "\x7b"), some braces => frames.getD 1 block == openingTag
  | some (.punct "\x7b"), top => top == some block
  | some (.punct "<"), _ | some (.punct ">"), _ | some (.punct "=>"), _ => true
  | _, _ => !mayStart

/-- A closing brace or parenthesis. -/
def close (frames : List Frame) : Stack :=
  match frames with
  | [] => ([], true)
  | [f] => ([f], true)
  | out :: rest =>
    if out == block && (rest.head? == some function || rest.head? == some class_) then
      (rest.tail, false)
    else if out == hole then (rest, rest.head? != some template)
    else (rest, !out.isValue)

/-- An opening parenthesis. -/
def parenthesis (prev : Option Token) : Frame :=
  match prev with
  | some (.keyword "if") | some (.keyword "with") | some (.keyword "while") => head false
  | some (.keyword "for") => head true
  | _ => parens

/-- The end of a tag. -/
def closeTag (frames : List Frame) (prev : Option Token) : Stack :=
  match frames with
  | [] => ([], true)
  | out :: rest =>
    if (out == openingTag && prev == some (.punct "/")) || out == closingTag then
      (rest.tail, rest.tail.head? == some element)
    else (rest, true)

/-- The stack after a token, from the token before it, whether a line break stands between the two
and whether the text may hold markup. -/
def step (markup : Bool) (frames : List Frame) (prev : Option Token) (afterBreak mayStart : Bool)
    (next : Token) : Stack :=
  match next with
  | .punct ")" | .punct "\x7d" => close frames
  | .keyword w =>
    if prev == some (.punct ".") then (frames, false)
    else if w == "function" || w == "class" then
      if mayStart && !opensBlock frames prev afterBreak mayStart then
        ((if w == "function" then function else class_) :: frames, false)
      else (frames, false)
    else (frames, next.isBeforeExpression)
  | .punct ":" =>
    if frames.head? == some function || frames.head? == some class_ then (frames.tail, true)
    else (frames, true)
  | .name w =>
    if w == "of" && frames.head? == some (head true) then
      (frames, !(prev.any Token.isBeforeExpression))
    else
      (frames, afterBreak && (prev == some (.keyword "let") || prev == some (.keyword "const")
        || prev == some (.keyword "var")))
  | .punct "\x7b" =>
    if markup && frames.head? == some openingTag then (braces :: frames, true)
    else if markup && frames.head? == some element then (hole :: frames, true)
    else if opensBlock frames prev afterBreak mayStart then (block :: frames, true)
    else (braces :: frames, true)
  | .punct "/" =>
    if markup && prev == some .tagStart then (closingTag :: frames.drop 2, false)
    else (frames, true)
  | .punct "$\x7b" => (hole :: frames, true)
  | .punct "(" => (parenthesis prev :: frames, true)
  | .punct "++" | .punct "--" => (frames, mayStart)
  | .punct "`" =>
    if frames.head? == some template then (frames.tail, false) else (template :: frames, false)
  | .tagStart => (openingTag :: element :: frames, false)
  | .tagEnd => closeTag frames prev
  | _ => (frames, next.isBeforeExpression)

end Frame

end EnvInline.Syntax
