/-!
# Binary floating point numbers of 64 bits

A number is given by its bits. A decimal is rounded to the nearest number, halves to the even one
(`Binary64.ofDecimal`), and a number is written with the fewest digits that read back
(`Binary64.shortest`), in positional notation.
-/

namespace EnvInline

/-- A floating point number: one sign bit, eleven exponent bits, 52 fraction bits. -/
structure Binary64 where
  bits : UInt64
deriving DecidableEq, Repr, Inhabited

namespace Binary64

/-- Positive zero. -/
def zero : Binary64 := ⟨0⟩

/-- Positive infinity. -/
def infinity : Binary64 := ⟨0x7FF0000000000000⟩

/-- The sign bit. -/
def isNegative (x : Binary64) : Bool := x.bits.toNat / Nat.pow 2 63 == 1

/-- The number with the sign bit turned around. -/
def neg (x : Binary64) : Binary64 := ⟨x.bits ^^^ 0x8000000000000000⟩

/-- The exponent bits. -/
def exponentBits (x : Binary64) : Nat := x.bits.toNat / Nat.pow 2 52 % Nat.pow 2 11

/-- The fraction bits. -/
def fractionBits (x : Binary64) : Nat := x.bits.toNat % Nat.pow 2 52

/-- The number is a zero of either sign. -/
def isZero (x : Binary64) : Bool := x.exponentBits == 0 && x.fractionBits == 0

/-- A finite magnitude is `significand * 2 ^ (scale - 1074)`. -/
def significand (x : Binary64) : Nat :=
  if x.exponentBits = 0 then x.fractionBits else Nat.pow 2 52 + x.fractionBits

/-- See `significand`. -/
def scale (x : Binary64) : Nat := x.exponentBits - 1

/-- The number `m * 2 ^ (s - 1074)` for `m < 2 ^ 53`, where `m ≥ 2 ^ 52` or `s = 0`; infinity when
it is too large. -/
def ofScaled (m s : Nat) : Binary64 :=
  if m < Nat.pow 2 52 then ⟨UInt64.ofNat m⟩
  else if s + 1 ≥ 2047 then infinity
  else ⟨UInt64.ofNat ((s + 1) * Nat.pow 2 52 + (m - Nat.pow 2 52))⟩

/-- The quotient rounded to the nearest whole number, halves to the even one. -/
def roundDiv (num den : Nat) : Nat :=
  let q := num / den
  let r := num % den
  if 2 * r < den then q else if 2 * r > den then q + 1 else q + q % 2

/-- The number nearest to `num / den`, for `den > 0`. -/
def ofRatio (num den : Nat) : Binary64 :=
  if num = 0 then zero
  else
    -- the scale at which the quotient has 53 bits, or 0 if that is below the range
    let guess : Int := (num.log2 : Int) - den.log2 - 53 + 1074
    let at_ (s : Nat) : Nat × Nat :=
      if s ≤ 1074 then (num * Nat.pow 2 (1074 - s), den) else (num, den * Nat.pow 2 (s - 1074))
    let s₀ := guess.toNat
    let s := if (at_ s₀).1 / (at_ s₀).2 < Nat.pow 2 53 then s₀ else s₀ + 1
    let m := roundDiv (at_ s).1 (at_ s).2
    if m < Nat.pow 2 53 then ofScaled m s else ofScaled (Nat.pow 2 52) (s + 1)

/-- The number nearest to `digits * 10 ^ exponent`. -/
def ofDecimal (digits : Nat) (exponent : Int) : Binary64 :=
  if digits = 0 then zero
  else if exponent > 400 then infinity
  else if exponent < -(800 + digits.log2 : Int) then zero
  else if exponent ≥ 0 then ofRatio (digits * Nat.pow 10 exponent.toNat) 1
  else ofRatio digits (Nat.pow 10 (-exponent).toNat)

/-- The decimal `digits * 10 ^ exponent` with the fewest digits that reads back as a positive
finite number, and the nearest of those. The search goes from coarse to fine grids. -/
def shortestFrom (num low high den : Nat) (even : Bool) : Nat → Int → Nat × Int
  | 0, e => (num / den, e)
  | fuel + 1, e =>
    -- a point `c * 10 ^ e` of the grid, over the denominator `den * up`
    let step := if e ≥ 0 then Nat.pow 10 e.toNat * den else den
    let up := if e ≥ 0 then 1 else Nat.pow 10 (-e).toNat
    let inside (c : Nat) : Bool :=
      let x := c * step
      if even then low * up ≤ x && x ≤ high * up else low * up < x && x < high * up
    let c := num * up / step
    let below := c != 0 && inside c
    let above := inside (c + 1)
    if below && above then
      if 2 * (num * up) ≤ (2 * c + 1) * step then (c, e) else (c + 1, e)
    else if below then (c, e)
    else if above then (c + 1, e)
    else shortestFrom num low high den even fuel (e - 1)

/-- The shortest decimal of a positive finite number. -/
def shortest (x : Binary64) : Nat × Int :=
  let m := x.significand
  let s := x.scale
  let up := Nat.pow 2 (s - 1074)
  let den := 4 * Nat.pow 2 (1074 - s)
  let low := if x.fractionBits = 0 ∧ x.exponentBits > 1 then 4 * m - 1 else 4 * m - 2
  shortestFrom (4 * m * up) (low * up) ((4 * m + 2) * up) den (m % 2 == 0) 700 309

/-- `digits * 10 ^ exponent` written without an exponent. -/
def positional (digits : Nat) (exponent : Int) : String :=
  let ds := (toString digits).toList
  if exponent ≥ 0 then String.ofList (ds ++ List.replicate exponent.toNat '0')
  else
    let k := (-exponent).toNat
    if k < ds.length then
      String.ofList (ds.take (ds.length - k) ++ '.' :: ds.drop (ds.length - k))
    else String.ofList ('0' :: '.' :: List.replicate (k - ds.length) '0' ++ ds)

/-- The text of a number: the shortest decimal in positional notation. -/
def text (x : Binary64) : String :=
  let magnitude :=
    if x.exponentBits = 2047 then (if x.fractionBits = 0 then "inf" else "NaN")
    else if x.isZero then "0"
    else positional x.shortest.1 x.shortest.2
  if x.isNegative && magnitude != "NaN" then "-" ++ magnitude else magnitude

/-- The shortest decimal, with an exponent where the positional form is long: below `1e-5` and from
`1e16` on. A whole number has `.0` after it. -/
def exponentText (x : Binary64) : String :=
  let magnitude :=
    if x.exponentBits = 2047 then (if x.fractionBits = 0 then "inf" else "NaN")
    else if x.isZero then "0.0"
    else
      let (digits, exponent) := x.shortest
      let ds := (toString digits).toList
      -- the place of the decimal point, counted from the first digit
      let point : Int := ds.length + exponent
      if exponent ≥ 0 && point ≤ 16 then positional digits exponent ++ ".0"
      else if -5 < point && point ≤ 16 then positional digits exponent
      else
        let tail := ds.drop 1
        String.ofList (ds.take 1 ++ if tail.isEmpty then [] else '.' :: tail) ++ "e" ++
          toString (point - 1)
  if x.isNegative && magnitude != "NaN" then "-" ++ magnitude else magnitude

/-- The magnitude of a finite number as a quotient. -/
def ratio (x : Binary64) : Nat × Nat :=
  let s := x.scale
  (x.significand * Nat.pow 2 (s - 1074), Nat.pow 2 (1074 - s))

/-- The product of the magnitudes of two finite numbers, rounded. -/
def mul (x y : Binary64) : Binary64 :=
  ofRatio (x.ratio.1 * y.ratio.1) (x.ratio.2 * y.ratio.2)

/-- The quotient of the magnitudes of two finite numbers, of which the second is no zero,
rounded. -/
def div (x y : Binary64) : Binary64 :=
  ofRatio (x.ratio.1 * y.ratio.2) (x.ratio.2 * y.ratio.1)

end Binary64

end EnvInline
