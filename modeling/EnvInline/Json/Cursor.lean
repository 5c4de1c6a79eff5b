import EnvInline.Json.Fault
import EnvInline.Json.Value
import EnvInline.Text.Printable

/-!
# Reading JSON texts

The steps that readers of JSON texts are made of: blanks, words, numbers, strings, and what stands
between the parts of a list or an object.
-/

namespace EnvInline.Json

/-- What is left of a text, and where it starts. -/
structure Cursor where
  rest : List Char
  position : Position
deriving Repr, Inhabited

/-- The start of a text. -/
def Cursor.start (text : String) : Cursor := ⟨text.toList, ⟨1, 0⟩⟩

/-- A step of reading. A fault leaves the cursor where reading stopped. -/
abbrev Read := EStateM Fault Cursor

namespace Read

/-- The next character, which is not taken. -/
def peek : Read (Option Char) := return (← get).rest.head?

/-- Takes a character. -/
def bump : Read Unit :=
  modify fun c =>
    match c.rest with
    | [] => c
    | x :: r => ⟨r, c.position.after x⟩

/-- Takes the next character and gives it. -/
def next : Read (Option Char) := do
  let x ← peek
  bump
  return x

/-- Fails where reading stopped. -/
def fail (cause : Cause) : Read α := do
  throw ⟨cause, some (← get).position⟩

/-- Fails behind the first of the bytes that come next. -/
def failAfter (bytes : Nat) (cause : Cause) : Read α := do
  let c ← get
  throw ⟨cause, some (c.position.afterBytes bytes c.rest)⟩

/-- Fails at the next character. -/
def failNext (cause : Cause) : Read α := failAfter 1 cause

/-- The character may stand between parts. -/
def isBlank (c : Char) : Bool := c == ' ' || c == '\n' || c == '\t' || c == '\r'

/-- What is left after blanks. -/
def skipBlanks : List Char → Position → Cursor
  | [], p => ⟨[], p⟩
  | c :: r, p => if isBlank c then skipBlanks r (p.after c) else ⟨c :: r, p⟩

/-- Takes blanks, and gives the next character. -/
def blanks : Read (Option Char) := do
  modify fun c => skipBlanks c.rest c.position
  peek

/-- Takes the letters of a word. -/
def word : List Char → Read Unit
  | [] => return
  | w :: ws => do
    match ← peek with
    | none => fail .endInValue
    | some c => if c = w then bump else failNext .expectedWord
    word ws

/-! ### Numbers -/

/-- Takes digits onto a number, as long as it fits into 64 bits; gives the number, how many digits
were taken, and whether a further one would not fit. -/
def digits : List Char → Position → Nat → Nat → (Nat × Nat × Bool) × Cursor
  | [], p, n, count => ((n, count, false), ⟨[], p⟩)
  | c :: r, p, n, count =>
    if c.isDigit then
      let m := n * 10 + (c.toNat - '0'.toNat)
      if m ≥ Nat.pow 2 64 then ((n, count, true), ⟨c :: r, p⟩)
      else digits r (p.after c) m (count + 1)
    else ((n, count, false), ⟨c :: r, p⟩)

/-- Takes digits onto a number. -/
def takeDigits (n : Nat) : Read (Nat × Nat × Bool) := do
  let c ← get
  let (answer, c) := digits c.rest c.position n 0
  set c
  return answer

/-- Takes all digits, and gives how many there were. -/
def skipDigits : Read Nat := do
  let c ← get
  let ds := c.rest.takeWhile Char.isDigit
  set (⟨c.rest.drop ds.length, ds.foldl Position.after c.position⟩ : Cursor)
  return ds.length

/-- A number scaled by a power of ten. Each step is rounded: the number itself, and the product or
quotient. -/
def scale (value : Binary64) : Nat → Int → Option Binary64
  | 0, _ => some value
  | fuel + 1, exponent =>
    if exponent.natAbs ≤ 308 then
      let power := Binary64.ofDecimal 1 exponent.natAbs
      if exponent ≥ 0 then
        let product := value.mul power
        if product == .infinity then none else some product
      else some (value.div power)
    else if value.isZero then some value
    else if exponent ≥ 0 then none
    else scale (value.div (.ofDecimal 1 308)) fuel (exponent + 308)

/-- The number with some digits and an exponent. -/
def floating (isNegative : Bool) (significand : Nat) (exponent : Int) : Read Number := do
  match scale (.ofDecimal significand 0) 4 exponent with
  | none => fail .numberOutOfRange
  | some value => return .floating (if isNegative then value.neg else value)

/-- Reads an exponent from its letter on. -/
def exponent (isNegative : Bool) (significand : Nat) (start : Int) : Read Number := do
  bump
  let down ← peek
  if down == some '+' || down == some '-' then bump
  match ← peek with
  | none => fail .endInValue
  | some c => if !c.isDigit then failNext .invalidNumber
  let cursor ← get
  let ds := cursor.rest.takeWhile Char.isDigit
  let _ ← skipDigits
  let e := ds.foldl (fun n c => n * 10 + (c.toNat - '0'.toNat)) 0
  if e ≥ Nat.pow 2 31 then
    if significand != 0 && down != some '-' then fail .numberOutOfRange
    return .floating (if isNegative then Binary64.zero.neg else .zero)
  floating isNegative significand (if down == some '-' then start - e else start + e)

/-- Reads a fraction from its dot on. -/
def fraction (isNegative : Bool) (significand : Nat) (start : Int) : Read Number := do
  bump
  let (n, count, isFull) ← takeDigits significand
  if isFull then
    let _ ← skipDigits
  else if count = 0 then
    match ← peek with
    | none => failNext .endInValue
    | some _ => failNext .invalidNumber
  let scaleNow : Int := start - count
  match ← peek with
  | some 'e' | some 'E' => exponent isNegative n scaleNow
  | _ => floating isNegative n scaleNow

/-- Reads what follows the digits of a whole number. -/
def afterWhole (isNegative : Bool) (n : Nat) (isFull : Bool) : Read Number := do
  let skipped ← if isFull then skipDigits else pure 0
  match ← peek with
  | some '.' => fraction isNegative n skipped
  | some 'e' | some 'E' => exponent isNegative n skipped
  | _ =>
    if isFull then floating isNegative n skipped
    else if !isNegative then return .whole n
    else if n = 0 || n > Nat.pow 2 63 then return .floating (Binary64.ofDecimal n 0).neg
    else return .whole (-n)

/-- Reads a number after its sign. -/
def number (isNegative : Bool) : Read Number := do
  match ← peek with
  | none => fail .endInValue
  | some '0' =>
    bump
    if (← peek).any Char.isDigit then failNext .invalidNumber
    afterWhole isNegative 0 false
  | some c =>
    if !c.isDigit then failNext .invalidNumber
    let (n, _, isFull) ← takeDigits 0
    afterWhole isNegative n isFull

/-! ### Strings -/

/-- The value of a hexadecimal digit. -/
def hexValue? (c : Char) : Option Nat :=
  if c.isDigit then some (c.toNat - '0'.toNat)
  else if 'a' ≤ c ∧ c ≤ 'f' then some (c.toNat - 'a'.toNat + 10)
  else if 'A' ≤ c ∧ c ≤ 'F' then some (c.toNat - 'A'.toNat + 10)
  else none

/-- Reads four hexadecimal digits. -/
def hexEscape : Read Nat := do
  let c ← get
  if (String.ofList c.rest).utf8ByteSize < 4 then
    throw ⟨.endInString, some (c.position.afterBytes 4 c.rest)⟩
  match (c.rest.take 4).mapM hexValue? with
  | none => failAfter 4 .invalidEscape
  | some ds =>
    bump
    bump
    bump
    bump
    return ds.foldl (fun n d => n * 16 + d) 0

/-- Reads what must follow the first half of a surrogate pair. -/
def secondHalf (first : Nat) : Read Char := do
  for wanted in ['\\', 'u'] do
    match ← peek with
    | none => fail .endInString
    | some c => if c = wanted then bump else failNext .unfinishedSurrogate
  let second ← hexEscape
  if second < 0xDC00 || second > 0xDFFF then fail .loneSurrogate
  return Char.ofNat ((first - 0xD800) * 1024 + (second - 0xDC00) + 0x10000)

/-- Reads an escape after its backslash. -/
def escape : Read Char := do
  match ← peek with
  | none => fail .endInString
  | some c =>
    let simple (x : Char) : Read Char := do
      bump
      return x
    match c with
    | '"' => simple '"'
    | '\\' => simple '\\'
    | '/' => simple '/'
    | 'b' => simple '\x08'
    | 'f' => simple '\x0c'
    | 'n' => simple '\n'
    | 'r' => simple '\r'
    | 't' => simple '\t'
    | 'u' =>
      bump
      let n ← hexEscape
      if 0xDC00 ≤ n && n ≤ 0xDFFF then fail .loneSurrogate
      else if 0xD800 ≤ n && n ≤ 0xDBFF then secondHalf n
      else return Char.ofNat n
    | _ => failNext .invalidEscape

/-- Reads the characters of a string up to its closing quote. -/
def stringRest : Nat → List Char → Read String
  | 0, _ => fail .endInString
  | fuel + 1, before => do
    match ← peek with
    | none => fail .endInString
    | some '"' =>
      bump
      return String.ofList before.reverse
    | some '\\' =>
      bump
      let c ← escape
      stringRest fuel (c :: before)
    | some c =>
      bump
      if c.toNat < 0x20 then fail .controlCharacter
      stringRest fuel (c :: before)

/-- Reads a string after its opening quote. -/
def string : Read String := do
  stringRest ((← get).rest.length + 1) []

/-! ### Lists and objects -/

/-- Whether another element follows in a list. -/
def hasElement (isFirst : Bool) : Read Bool := do
  match ← blanks with
  | none => failNext .endInList
  | some ']' => return false
  | some c =>
    if isFirst then return true
    if c != ',' then failNext .expectedListEnd
    bump
    match ← blanks with
    | none => failNext .endInValue
    | some ']' => failNext .trailingComma
    | some _ => return true

/-- Takes the end of a list. -/
def endList : Read Unit := do
  match ← blanks with
  | none => failNext .endInList
  | some ']' => bump
  | some ',' =>
    bump
    match ← blanks with
    | some ']' => failNext .trailingComma
    | _ => failNext .trailingCharacters
  | some _ => failNext .trailingCharacters

/-- Whether another member follows in an object; its opening quote is taken. -/
def hasMember (isFirst : Bool) : Read Bool := do
  match ← blanks with
  | none => failNext .endInObject
  | some '\x7d' => return false
  | some c =>
    if isFirst then
      if c != '"' then failNext .keyNotString
    else
      if c != ',' then failNext .expectedObjectEnd
      bump
      match ← blanks with
      | none => failNext .endInValue
      | some '"' => pure ()
      | some '\x7d' => failNext .trailingComma
      | some _ => failNext .keyNotString
    bump
    return true

/-- Takes the end of an object. -/
def endObject : Read Unit := do
  match ← blanks with
  | none => failNext .endInObject
  | some '\x7d' => bump
  | some ',' => failNext .trailingComma
  | some _ => failNext .trailingCharacters

/-- Takes the colon after a key. -/
def colon : Read Unit := do
  match ← blanks with
  | none => failNext .endInObject
  | some ':' => bump
  | some _ => failNext .expectedColon

/-- Takes the blanks at the end of a text, and nothing else may follow. -/
def finish : Read Unit := do
  if (← blanks).isSome then failNext .trailingCharacters

/-- Runs a step, takes the closing bracket, and gives the fault of the step, if it had one, or else
that of the bracket. A fault without a place gets the place where reading stopped then. -/
def enclosed (inside : Read α) (close : Read Unit) : Read α := fun c =>
  let locate (f : Fault) (c : Cursor) : Fault := ⟨f.cause, some (f.position.getD c.position)⟩
  match inside c with
  | .ok a c =>
    match close c with
    | .ok () c => .ok a c
    | .error f c => .error (locate f c) c
  | .error f c =>
    match close c with
    | .ok () c => .error (locate f c) c
    | .error _ c => .error (locate f c) c

/-- How a number of the wrong type is named. -/
def numberFound : Number → String
  | .whole n => "integer \x60" ++ toString n ++ "\x60"
  | .floating x => "floating point \x60" ++ x.exponentText ++ "\x60"

/-- Fails at a value that has not the type that is expected. -/
def wrongType (expected : String) : Read α := do
  let found (what : String) : Read α := fail (.wrongType what expected)
  match ← peek with
  | some 'n' =>
    word ['n', 'u', 'l', 'l']
    found "null"
  | some 't' =>
    word ['t', 'r', 'u', 'e']
    found "boolean \x60true\x60"
  | some 'f' =>
    word ['f', 'a', 'l', 's', 'e']
    found "boolean \x60false\x60"
  | some '-' =>
    bump
    found (numberFound (← number true))
  | some '"' =>
    bump
    found ("string " ++ Text.debugQuoted (← string))
  | some '[' => found "sequence"
  | some '\x7b' => found "map"
  | some c =>
    if c.isDigit then found (numberFound (← number false))
    else failNext .expectedValue
  | none => failNext .expectedValue

end Read

end EnvInline.Json
