import EnvInline.Syntax.Token.Character

/-!
# Space and comments

What stands between tokens. A comment leads the next token when a line break stands before it or
the token before it takes no comment of its sort; otherwise it trails the token before it.
-/

namespace EnvInline.Syntax

/-- Reads over blanks and line ends. -/
def skipBlanks : P Unit := do
  let taken ← takeChars fun c => isSpace c || isLineEnd c
  if taken.any isLineEnd then
    modify fun s => { s with afterBreak := true }

/-- Puts a comment at its place. -/
def placeComment (leadsNext : Bool) (comment : Comment) : P Unit :=
  modify fun s =>
    if leadsNext then { s with waiting := comment :: s.waiting }
    else { s with placed := ⟨false, s.lastEnd, comment⟩ :: s.placed }

/-- Reads a line comment whose mark takes `mark` characters. -/
def skipLineComment (mark : Nat) : P Unit := do
  skipChars mark
  let s ← get
  let leadsNext := s.afterBreak || !(s.last.all Token.takesTrailingLineComment)
  let text ← takeChars fun c => !isLineEnd c
  placeComment leadsNext ⟨false, String.ofList text⟩

/-- The text of a block comment and what follows it; `star` tells whether the character before is
a star. -/
def blockComment? (star : Bool) : List Char → Option (List Char × List Char)
  | [] => none
  | c :: r =>
    if star && c == '/' then some ([], r)
    else (blockComment? (c == '*') r).map fun (text, rest) => (c :: text, rest)

/-- Reads a block comment. -/
def skipBlockComment : P Unit := do
  let start ← place
  skipChars 2
  let s ← get
  let leadsNext := s.afterBreak || !(s.last.any Token.takesTrailingComment)
  match blockComment? false s.rest with
  | some (text, _) =>
    -- `text` still holds the closing star
    skipChars (text.length + 1)
    if text.any isLineEnd then
      modify fun s => { s with afterBreak := true }
    skipBlanks
    let leadsNext := leadsNext && !(← nextIs ';')
    placeComment leadsNext ⟨true, String.ofList text.dropLast⟩
  | none =>
    let _ ← takeChars fun _ => true
    report start .unterminatedComment

/-- Reads over blanks, line ends and comments. -/
def skipSpace : P Unit := do
  for _ in ← turns do
    skipBlanks
    if ← nextAre "//" then skipLineComment 2
    else if ← nextAre "/*" then skipBlockComment
    else return ()

end EnvInline.Syntax
