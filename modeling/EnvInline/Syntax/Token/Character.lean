import EnvInline.Syntax.State
import EnvInline.Text.Identifier

/-!
# Characters of a text

Reading one character at a time, and the classes of characters that separate tokens.
-/

namespace EnvInline.Syntax

/-- A character that ends a line. -/
def isLineEnd (c : Char) : Bool :=
  c == '\n' || c == '\r' || c == '\u2028' || c == '\u2029'

/-- A blank between tokens that ends no line. -/
def isSpace (c : Char) : Bool :=
  let n := c.toNat
  c == ' ' || c == '\t' || n == 0x0B || n == 0x0C || n == 0xA0 || n == 0x1680
    || (0x2000 ≤ n && n ≤ 0x200A) || n == 0x202F || n == 0x205F || n == 0x3000 || n == 0xFEFF

/-- How many bytes some characters take. -/
def byteLength (cs : List Char) : Nat :=
  cs.foldl (fun n c => n + c.utf8Size) 0

/-- The text from a place on. -/
def textFrom : Nat → List Char → List Char
  | 0, cs => cs
  | _, [] => []
  | n + 1, c :: cs => textFrom (n + 1 - c.utf8Size) cs

/-- The text of a stretch. -/
def textBetween (lo hi : Nat) (text : List Char) : List Char :=
  go (textFrom lo text) (hi - lo)
where
  /-- The characters that fit into `n` bytes. -/
  go : List Char → Nat → List Char
    | [], _ => []
    | c :: cs, n => if n = 0 then [] else c :: go cs (n - c.utf8Size)

/-- The next character. -/
def char? : P (Option Char) := return (← get).rest.head?

/-- The character after the next. -/
def secondChar? : P (Option Char) := return (← get).rest[1]?

/-- The place of the next character. -/
def place : P Nat := return (← get).pos

/-- Reads over one character. -/
def skipChar : P Unit :=
  modify fun s =>
    match s.rest with
    | [] => s
    | c :: r => { s with rest := r, pos := s.pos + c.utf8Size }

/-- Reads over some characters. -/
def skipChars : Nat → P Unit
  | 0 => pure ()
  | n + 1 => do skipChar; skipChars n

/-- The next character is `c`. -/
def nextIs (c : Char) : P Bool := return (← char?) == some c

/-- The text goes on with the word. -/
def nextAre (word : String) : P Bool := return word.toList.isPrefixOf (← get).rest

/-- Reads over the next character if it is `c`. -/
def eatChar (c : Char) : P Bool := do
  if ← nextIs c then
    skipChar
    return true
  return false

/-- Reads the characters of a class. -/
def takeChars (p : Char → Bool) : P (List Char) := fun _ s =>
  let taken := s.rest.takeWhile p
  .ok taken { s with rest := s.rest.dropWhile p, pos := s.pos + byteLength taken }

/-- The text from a place up to the next character. -/
def textSince (start : Nat) : P String := do
  return String.ofList (textBetween start (← place) (← read).text)

/-- Goes back, or on, to a place. -/
def seek (target : Nat) : P Unit := do
  let text := (← read).text
  modify fun s => { s with rest := textFrom target text, pos := target }

end EnvInline.Syntax
