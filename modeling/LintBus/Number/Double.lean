/-!
# Double-precision numbers

A finite double is a sign and a magnitude `significand * 2 ^ exponent` with at most 53 binary
digits. Arithmetic rounds the exact result once, to the nearest double and to the even significand
on a tie; a result beyond the largest double is no double.
-/

namespace LintBus

/-- A finite double, as its sign and magnitude `significand * 2 ^ exponent`. -/
structure Double where
  /-- The sign bit; zero has both signs. -/
  negative : Bool
  /-- Fewer than 53 binary digits only at the least exponent. -/
  significand : Nat
  /-- Exponent of two, between `leastExponent` and `greatestExponent`. -/
  exponent : Int
deriving DecidableEq, Repr

namespace Double

/-- Exponent of the subnormal doubles. -/
def leastExponent : Int := -1074

/-- Exponent of the largest doubles. -/
def greatestExponent : Int := 971

/-- A power of two. -/
def twoPower (exponent : Nat) : Nat := Nat.pow 2 exponent

/-- Divide, rounding to the nearest natural number and to the even one on a tie. -/
def divideToEven (numerator denominator : Nat) : Nat :=
  let quotient := numerator / denominator
  let twice := 2 * (numerator % denominator)
  if twice < denominator then quotient
  else if denominator < twice then quotient + 1
  else quotient + quotient % 2

/-- Divide `numerator / denominator * 2 ^ (-exponent)`, rounding to even. -/
def scaledQuotient (numerator denominator : Nat) (exponent : Int) : Nat :=
  if 0 ≤ exponent then divideToEven numerator (denominator * twoPower exponent.toNat)
  else divideToEven (numerator * twoPower (-exponent).toNat) denominator

/-- The exponent at which a positive ratio has 53 binary digits, or the least one. -/
def exponentOf (numerator denominator : Nat) : Int :=
  let guess : Int := (numerator.log2 : Int) - denominator.log2 - 53
  let wide :=
    if 0 ≤ guess then denominator * twoPower (53 + guess.toNat) ≤ numerator
    else denominator * twoPower 53 ≤ numerator * twoPower (-guess).toNat
  max leastExponent (if wide then guess + 1 else guess)

/-- The double nearest to a ratio, unless the ratio is too large. -/
def ofRatio? (negative : Bool) (numerator denominator : Nat) : Option Double :=
  if numerator = 0 then some ⟨negative, 0, leastExponent⟩
  else
    let exponent := exponentOf numerator denominator
    let significand := scaledQuotient numerator denominator exponent
    let rounded : Double :=
      if significand = twoPower 53 then ⟨negative, twoPower 52, exponent + 1⟩
      else ⟨negative, significand, exponent⟩
    if rounded.exponent ≤ greatestExponent then some rounded else none

/-- The double nearest to `numerator / denominator * 2 ^ exponent`. -/
def ofScaledRatio? (negative : Bool) (numerator denominator : Nat) (exponent : Int) :
    Option Double :=
  if 0 ≤ exponent then ofRatio? negative (numerator * twoPower exponent.toNat) denominator
  else ofRatio? negative numerator (denominator * twoPower (-exponent).toNat)

/-- The double nearest to a natural number. -/
def ofNat? (number : Nat) : Option Double :=
  ofRatio? false number 1

/-- The number is zero, of either sign. -/
def isZero (number : Double) : Bool := number.significand == 0

/-- The same magnitude with the given sign. -/
def withSign (number : Double) (negative : Bool) : Double :=
  { number with negative := negative }

/-- Product of the magnitudes, rounded once. -/
def mul? (left right : Double) : Option Double :=
  ofScaledRatio? false (left.significand * right.significand) 1 (left.exponent + right.exponent)

/-- Quotient of the magnitudes, rounded once; dividing by zero gives no double. -/
def div? (left right : Double) : Option Double :=
  if right.isZero then none
  else ofScaledRatio? false left.significand right.significand (left.exponent - right.exponent)

end Double
end LintBus
