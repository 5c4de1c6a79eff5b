import EnvInline.Syntax.Token.Word

/-!
# Numbers

Decimal numbers with a fraction and an exponent, numbers of radix 2, 8 and 16, whole numbers of
any size that end in `n`, and the old octal numbers that open with a zero. Digits may be separated
by underscores.
-/

namespace EnvInline.Syntax

/-- Reads digits of a radix with their separators; the separators are left out of the result. -/
def digitRun (radix : Nat) (separators : Bool) : P (List Char) := do
  let start ← place
  let run := (← get).rest.takeWhile fun c =>
    (digitValue? radix c).isSome || (separators && c == '_')
  let isDigit (c : Option Char) : Bool := c.any fun c => (digitValue? radix c).isSome
  let mut previous : Option Char := none
  for _ in run do
    let c ← char?
    if c == some '_' then
      let next ← secondChar?
      if !isDigit next || previous == some '_' then report start .misplacedSeparator
    previous := c
    skipChar
  return run.filter (· != '_')

/-- A name may not follow a number at once. -/
def endNumber : P Unit := do
  match ← char? with
  | some c => if Text.isIdentifierStart c then failAt (← place) .nameAfterNumber
  | none => pure ()

/-- Reads a number of radix 2, 8 or 16 after its mark. -/
def radixNumber (radix : Nat) : P Token := do
  let start ← place
  skipChars 2
  let digitsStart ← place
  let digits ← digitRun radix true
  if digits.isEmpty then failAt digitsStart (.expectedDigit radix)
  let value := digitsValue radix digits
  if ← eatChar 'n' then
    return .bigint (toString value) (← textSince start)
  endNumber
  return .number (Binary64.ofDecimal value 0) (← textSince start)

/-- An octal number written with a zero in front. -/
def legacyOctal (start : Nat) (digits : List Char) : P Token := do
  endNumber
  if ← hasTypes then report start .legacyOctalUnavailable
  reportStrict start .legacyOctal
  return .number (Binary64.ofDecimal (digitsValue 8 digits) 0) (← textSince start)

/-- Reads the digits of an exponent. -/
def exponentDigits : P Int := do
  let sign ← char?
  if sign.isNone then failAt (← place) .expectedExponent
  if sign == some '+' || sign == some '-' then skipChar
  let start ← place
  let digits ← digitRun 10 true
  if digits.isEmpty then failAt start (.expectedDigit 10)
  let value : Int := digitsValue 10 digits
  return if sign == some '-' then -value else value

/-- Reads the fraction and the exponent that may follow the digits of a decimal number. -/
def decimalTail (start : Nat) (whole : List Char) : P Token := do
  let mut digits := whole
  let mut exponent : Int := 0
  if ← eatChar '.' then
    let fraction ← digitRun 10 true
    digits := whole ++ fraction
    exponent := -fraction.length
  match ← char? with
  | some 'e' | some 'E' =>
    skipChar
    exponent := exponent + (← exponentDigits)
  | _ => pure ()
  endNumber
  return .number (Binary64.ofDecimal (digitsValue 10 digits) exponent) (← textSince start)

/-- Reads a decimal number, or an old octal one. -/
def decimalNumber : P Token := do
  let start ← place
  let opensWithZero ← nextIs '0'
  if ← nextIs '.' then return ← decimalTail start []
  let digits ← digitRun 10 true
  if ← eatChar 'n' then
    return .bigint (toString (digitsValue 10 digits)) (← textSince start)
  if opensWithZero && digits.length > 1 then
    if digits.all fun c => c < '8' then return ← legacyOctal start digits
    reportStrict start .legacyDecimal
  decimalTail start digits

/-- Reads a number that opens with a digit, or with a point before a digit. -/
def numberToken : P Token := do
  if ← nextIs '0' then
    match ← secondChar? with
    | some 'x' | some 'X' => return ← radixNumber 16
    | some 'o' | some 'O' => return ← radixNumber 8
    | some 'b' | some 'B' => return ← radixNumber 2
    | _ => pure ()
  decimalNumber

end EnvInline.Syntax
