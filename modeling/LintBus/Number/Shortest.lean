import LintBus.Number.Double

/-!
# The shortest decimal text of a double

A double is written with the fewest decimal digits that read back to it, and of those with the
digits nearest to it. The digits are found in exact arithmetic: the numbers that round to the
double form an interval, and for each digit count the two neighbours of the double on that decimal
grid are tried.
-/

namespace LintBus

/-- Decimal digits `digits * 10 ^ exponent`. -/
structure Decimal where
  /-- The digits, read as a natural number. -/
  digits : Nat
  /-- Power of ten of the last digit. -/
  exponent : Int
deriving DecidableEq, Repr

namespace Decimal

/-- A power of ten. -/
def tenPower (exponent : Nat) : Nat := Nat.pow 10 exponent

/-- A positive ratio that stands for a number and the interval around it. -/
structure Interval where
  /-- Numerator of the number itself. -/
  value : Nat
  /-- Numerator of the least number that rounds to it. -/
  low : Nat
  /-- Numerator of the greatest number that rounds to it. -/
  high : Nat
  /-- Common denominator. -/
  denominator : Nat
  /-- The ends round to the number too. -/
  closed : Bool

/-- The numbers that round to the magnitude of a double. -/
def Interval.ofDouble (number : Double) : Interval :=
  let below :=
    if number.significand = Double.twoPower 52 ∧ Double.leastExponent < number.exponent then 1
    else 2
  let exponent := number.exponent - 2
  let scale := Double.twoPower exponent.toNat
  { value := 4 * number.significand * scale
    low := (4 * number.significand - below) * scale
    high := (4 * number.significand + 2) * scale
    denominator := Double.twoPower (-exponent).toNat
    closed := number.significand % 2 == 0 }

/-- Compare `digits * 10 ^ exponent` with the ratio `numerator / denominator`. -/
def compareRatio (decimal : Decimal) (numerator denominator : Nat) : Ordering :=
  compare (decimal.digits * tenPower decimal.exponent.toNat * denominator)
    (numerator * tenPower (-decimal.exponent).toNat)

/-- The decimal rounds to the number in the middle of the interval. -/
def within (interval : Interval) (decimal : Decimal) : Bool :=
  let low := decimal.compareRatio interval.low interval.denominator
  let high := decimal.compareRatio interval.high interval.denominator
  (low == .gt || interval.closed && low == .eq) && (high == .lt || interval.closed && high == .eq)

/-- The greatest multiple of `10 ^ exponent` up to the number. -/
def floorAt (interval : Interval) (exponent : Int) : Decimal :=
  ⟨interval.value * tenPower (-exponent).toNat / (interval.denominator * tenPower exponent.toNat),
    exponent⟩

/-- The number is nearer to the grid point above `floor` than to `floor`, or as near and the
point above is even. -/
def nearerAbove (interval : Interval) (floor : Decimal) : Bool :=
  match
    compareRatio ⟨2 * floor.digits + 1, floor.exponent⟩ (2 * interval.value) interval.denominator
  with
  | .lt => true
  | .eq => floor.digits % 2 == 1
  | .gt => false

/-- The nearest multiple of `10 ^ exponent` that rounds to the number, if one of its two
neighbours does. -/
def onGrid? (interval : Interval) (exponent : Int) : Option Decimal :=
  let floor := floorAt interval exponent
  let above : Decimal := ⟨floor.digits + 1, exponent⟩
  let floorFits := within interval floor
  let aboveFits := within interval above
  if floorFits && aboveFits then some (if nearerAbove interval floor then above else floor)
  else if floorFits then some floor
  else if aboveFits then some above
  else none

/-- The number of decimal places before the point: the least power of ten above the number, sought
upwards from `guess`. -/
def magnitude (interval : Interval) : Nat → Int → Int
  | 0, guess => guess
  | steps + 1, guess =>
      if compareRatio ⟨1, guess⟩ interval.value interval.denominator == .gt then guess
      else magnitude interval steps (guess + 1)

/-- Try ever finer grids, starting at `exponent`. -/
def search (interval : Interval) : Nat → Int → Decimal
  | 0, exponent => floorAt interval exponent
  | steps + 1, exponent =>
      match onGrid? interval exponent with
      | some decimal => decimal
      | none => search interval steps (exponent - 1)

/-- Drop zeros at the end of the digits. -/
def trim : Nat → Decimal → Decimal
  | 0, decimal => decimal
  | steps + 1, decimal =>
      if decimal.digits ≠ 0 ∧ decimal.digits % 10 = 0 then
        trim steps ⟨decimal.digits / 10, decimal.exponent + 1⟩
      else decimal

/-- The shortest decimal that reads back to the magnitude of a nonzero double. -/
def ofDouble (number : Double) : Decimal :=
  let interval := Interval.ofDouble number
  let binaryPlaces : Int := (interval.value.log2 : Int) - interval.denominator.log2
  let places := magnitude interval 6 ((binaryPlaces - 1) * 30103 / 100000 - 1)
  trim 20 (search interval 17 (places - 1))

/-- Positional notation reaches up to this many places before the point. -/
def positionalPlaces : Int := 16

/-- Positional notation reaches down to fewer than this many zeros after the point. -/
def positionalZeros : Int := 5

/-- Write a decimal: positional near one, always with a point, and otherwise one digit, the
remaining digits as a fraction if there are any, and a signed exponent. -/
def text (decimal : Decimal) : String :=
  let digits := Nat.toDigits 10 decimal.digits
  let places : Int := digits.length + decimal.exponent
  String.ofList <|
    if digits.length ≤ places ∧ places ≤ positionalPlaces then
      digits ++ List.replicate decimal.exponent.toNat '0' ++ ['.', '0']
    else if 0 < places ∧ places ≤ positionalPlaces then
      digits.take places.toNat ++ '.' :: digits.drop places.toNat
    else if -positionalZeros < places ∧ places ≤ 0 then
      ['0', '.'] ++ List.replicate (-places).toNat '0' ++ digits
    else
      let fraction := if digits.length ≤ 1 then [] else '.' :: digits.drop 1
      let exponent := places - 1
      digits.take 1 ++ fraction ++
        (if exponent < 0 then ['e', '-'] else ['e', '+']) ++ Nat.toDigits 10 exponent.natAbs

end Decimal

/-- The shortest text that reads back to the double. -/
def Double.text (number : Double) : String :=
  let magnitude := if number.isZero then "0.0" else (Decimal.ofDouble number).text
  if number.negative then "-" ++ magnitude else magnitude

end LintBus
