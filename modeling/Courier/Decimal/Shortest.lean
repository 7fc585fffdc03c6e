/-!
# The shortest decimal of a float

A float stands for every real number that rounds to it.  Its shortest decimal
is the one with the fewest digits among those numbers; of several with as few,
the one nearest to the float.  Of two equally near a format takes the even one
or the larger one.

Everything is computed exactly on natural numbers.  For one digit, two digits
and so on up to seventeen, the two neighbours of the float on the decimal grid
of that many digits are tested; if a point of a grid rounds to the float, one
of the two neighbours does.  Seventeen digits always suffice.
-/

namespace Courier

set_option autoImplicit false

/-- A decimal number `coefficient · 10 ^ exponent`. -/
structure Decimal where
  coefficient : Nat
  exponent : Int
deriving DecidableEq

/-- Which of two decimals is taken that lie around a float at equal distances. -/
inductive TieRule where
  /-- The one whose last digit is even. -/
  | toEven
  /-- The larger one. -/
  | upward
deriving DecidableEq

/-- Whether the lower one of the two is taken, whose coefficient is given. -/
def TieRule.takesLower (rule : TieRule) (coefficient : Nat) : Bool :=
  match rule with
  | toEven => coefficient % 2 = 0
  | upward => false

namespace Decimal

/-- The nearest float; infinite if the decimal is too large for one. -/
def toFloat (point : Decimal) : Float :=
  if point.coefficient = 0 then 0.0
  else Float.ofScientific point.coefficient (point.exponent < 0) point.exponent.natAbs

/-- How many decimal digits a number has. -/
def digitCount (number : Nat) : Nat := (Nat.toDigits 10 number).length

/-- A positive float `significand · 2 ^ exponent`.  `stepBelow` says that the floats below are
twice as dense as those above, as they are below a power of two. -/
structure Binary where
  significand : Nat
  exponent : Int
  stepBelow : Bool

namespace Binary

/-- The float as a fraction whose numerator counts quarters of the distance to the next float. -/
def fraction (float : Binary) : Nat × Nat :=
  let scale := float.exponent - 2
  if 0 ≤ scale then (4 * float.significand * Nat.pow 2 scale.toNat, 1)
  else (4 * float.significand, Nat.pow 2 (-scale).toNat)

/-- A quarter of the distance to the next float above, in the numerator of `fraction`. -/
def unit (float : Binary) : Nat :=
  let scale := float.exponent - 2
  if 0 ≤ scale then Nat.pow 2 scale.toNat else 1

/-- Whether the number `numerator / denominator` rounds to the float.  The ends of the interval
belong to the float with an even significand. -/
def rounds (float : Binary) (numerator denominator : Nat) : Bool :=
  let (value, scale) := float.fraction
  let low := (value - (if float.stepBelow then 1 else 2) * float.unit) * denominator
  let high := (value + 2 * float.unit) * denominator
  let number := numerator * scale
  if float.significand % 2 = 0 then low ≤ number && number ≤ high
  else low < number && number < high

/-- The power of ten at or below the float, by its exponent. -/
def magnitude (float : Binary) : Int :=
  let (numerator, denominator) := float.fraction
  if denominator ≤ numerator then (digitCount (numerator / denominator) : Int) - 1
  else -(digitCount ((denominator + numerator - 1) / numerator - 1) : Int)

/-- A point of a decimal grid as a fraction. -/
def gridFraction (point : Decimal) : Nat × Nat :=
  if 0 ≤ point.exponent then (point.coefficient * Nat.pow 10 point.exponent.toNat, 1)
  else (point.coefficient, Nat.pow 10 (-point.exponent).toNat)

/-- Whether a decimal rounds to the float. -/
def roundsFrom (float : Binary) (point : Decimal) : Bool :=
  let (numerator, denominator) := gridFraction point
  float.rounds numerator denominator

/-- The float in units of `10 ^ exponent`, as a fraction. -/
def scaled (float : Binary) (exponent : Int) : Nat × Nat :=
  let (numerator, denominator) := float.fraction
  if 0 ≤ exponent then (numerator, denominator * Nat.pow 10 exponent.toNat)
  else (numerator * Nat.pow 10 (-exponent).toNat, denominator)

/-- The better of the two neighbours of the float on the grid of `10 ^ exponent`, if one of them
rounds to the float. -/
def onGrid? (float : Binary) (tie : TieRule) (exponent : Int) : Option Decimal :=
  let (numerator, denominator) := float.scaled exponent
  let below := numerator / denominator
  let low : Decimal := ⟨below, exponent⟩
  let high : Decimal := ⟨below + 1, exponent⟩
  let twice := 2 * (numerator % denominator)
  match float.roundsFrom low, float.roundsFrom high with
  | true, true =>
    if twice < denominator ∨ (twice = denominator ∧ tie.takesLower below) then some low else some high
  | true, false => some low
  | false, true => some high
  | false, false => none

/-- The first hit among the grids of `digits` digits and more. -/
def search (float : Binary) (tie : TieRule) (magnitude : Int) :
    (grids : Nat) → (digits : Nat) → Option Decimal
  | 0, _ => none
  | grids + 1, digits =>
    match float.onGrid? tie (magnitude - digits + 1) with
    | some point => some point
    | none => search float tie magnitude grids (digits + 1)

end Binary

/-- A decimal without zeros at the end of its coefficient. -/
def trim (point : Decimal) : Decimal :=
  let digits := (Nat.toDigits 10 point.coefficient).reverse
  let zeros := (digits.takeWhile (· = '0')).length
  if point.coefficient = 0 then ⟨0, 0⟩
  else ⟨point.coefficient / Nat.pow 10 zeros, point.exponent + zeros⟩

/-- The shortest decimal that rounds to a positive float. -/
def shortest (tie : TieRule) (float : Binary) : Decimal :=
  match float.search tie float.magnitude 17 1 with
  | some point => point.trim
  | none => ⟨0, 0⟩

/-- The parts of the magnitude of a finite float that is not zero. -/
def Binary.ofFloat (float : Float) : Binary :=
  let bits := float.toBits.toNat
  let field : Nat := bits / 0x10000000000000 % 0x800
  let fraction : Nat := bits % 0x10000000000000
  if field = 0 then ⟨fraction, -1074, false⟩
  else ⟨0x10000000000000 + fraction, (field : Int) - 1075, fraction = 0 && field != 1⟩

/-! ## Spelling a decimal -/

/-- The digits of the coefficient. -/
def digits (point : Decimal) : List Char := Nat.toDigits 10 point.coefficient

/-- The power of ten of the first digit. -/
def leading (point : Decimal) : Int := point.exponent + point.digits.length - 1

/-- The digits around a point, with zeros where the digits do not reach it.  A whole number ends in
`whole`. -/
def positional (whole : String) (point : Decimal) : String :=
  let digits := point.digits
  if 0 ≤ point.exponent then
    String.ofList (digits ++ List.replicate point.exponent.toNat '0') ++ whole
  else
    let places := (-point.exponent).toNat
    if places < digits.length then
      String.ofList (digits.take (digits.length - places) ++ ['.'] ++
        digits.drop (digits.length - places))
    else
      "0." ++ String.ofList (List.replicate (places - digits.length) '0' ++ digits)

/-- The first digit, a point and the others if there are others, and the power of ten with its
sign. -/
def scientific (point : Decimal) : String :=
  let mantissa := match point.digits with
    | first :: second :: rest => first :: '.' :: second :: rest
    | single => single
  let sign := if point.leading < 0 then "-" else "+"
  String.ofList mantissa ++ "e" ++ sign ++ toString point.leading.natAbs

end Decimal

end Courier
