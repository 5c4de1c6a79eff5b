import EnvInline.Text.Blank

/-!
# Quoted values

A value that opens with a quote runs to a closing quote, over line ends if it must. A quote after
an odd run of backslashes is escaped and closes only when no later one can: of the quotes up to
the first unescaped one, the last that ends its line but for blanks and a comment closes the value.

Main definitions: `Quoted.read` takes lines in one at a time until an unescaped quote shows up;
`Quoted.readWhole` says the same of the whole rest of the file at once.
-/

namespace EnvInline.Definition.Quoted

open EnvInline.Text

/-- The characters that open a quoted value. -/
def isQuote (c : Char) : Bool :=
  c == '"' || c == '\'' || c == '`'

/-- The place of the first `q` that no backslash escapes; `escaped` tells whether a backslash
stands before the text. -/
def firstUnescaped (q : Char) : Bool → List Char → Option Nat
  | _, [] => none
  | escaped, c :: r =>
    if c = '\\' ∧ ¬ escaped then (firstUnescaped q true r).map (· + 1)
    else if c = q ∧ ¬ escaped then some 0
    else (firstUnescaped q false r).map (· + 1)

/-- After a closing quote a line may hold blanks and a comment, no more. -/
def endsLine (after : List Char) : Bool :=
  match trim (after.takeWhile (· ≠ '\n')) with
  | [] => true
  | c :: _ => c == '#'

/-- The places in `text`, starting to count at `i`, where a `q` stands that ends its line. -/
def closers (q : Char) (i : Nat) : List Char → List Nat
  | [] => []
  | c :: r =>
    if c = q ∧ endsLine r then i :: closers q (i + 1) r else closers q (i + 1) r

/-- The last place up to the first unescaped `q` at which `q` can close the value. -/
def closing? (q : Char) (text : List Char) : Option Nat :=
  let limit := (firstUnescaped q false text).getD text.length
  ((closers q 0 text).filter (· ≤ limit)).getLast?

/-- The sequences `\n` and `\r`, which stand for line breaks between double quotes. -/
def expandBreaks : List Char → List Char
  | [] => []
  | '\\' :: 'n' :: r => '\n' :: expandBreaks r
  | '\\' :: 'r' :: r => '\r' :: expandBreaks r
  | c :: r => c :: expandBreaks r

/-- What a quote encloses, and how many of the following lines it took. -/
def enclosed (q : Char) (text : List Char) (stop : Nat) : List Char × Nat :=
  let raw := text.take stop
  (if q = '"' then expandBreaks raw else raw, raw.count '\n')

/-- The text of the value so far, with following lines added until a quote closes it. -/
def gather (q : Char) (text : List Char) : List (List Char) → List Char
  | [] => text
  | l :: ls =>
    match firstUnescaped q false text with
    | some _ => text
    | none => gather q (text ++ '\n' :: l) ls

/-- The value after an opening `q`, where `text` is the rest of its line, and the number of
following lines it takes; nothing when no quote closes it. -/
def read (q : Char) (text : List Char) (following : List (List Char)) :
    Option (List Char × Nat) :=
  let all := gather q text following
  (closing? q all).map (enclosed q all)

/-- The value read from the whole rest of the file at once. -/
def readWhole (q : Char) (text : List Char) (following : List (List Char)) :
    Option (List Char × Nat) :=
  let all := following.foldl (fun t l => t ++ '\n' :: l) text
  (closing? q all).map (enclosed q all)

end EnvInline.Definition.Quoted
