/-!
# Doubles

A finite double is a sign, a significand of at most 53 bits and a power of two. Rationals are
rounded to the nearest double in exact arithmetic, a tie going to the even significand, and a
product or a quotient of doubles is the exact one, rounded once.
-/

namespace ApiConsole.Json

/-- The finite double `± significand * 2 ^ exponent`. -/
structure Double where
  negative : Bool
  significand : Nat
  exponent : Int
  deriving DecidableEq, Repr

/-- The nearest whole number to a quotient, a tie going to the even one. -/
def roundHalfEven (num den : Nat) : Nat :=
  let low := num / den
  let twice := 2 * (num % den)
  if twice < den then low
  else if den < twice then low + 1
  else if low % 2 = 0 then low else low + 1

namespace Double

/-- The least exponent, at which the significand may have fewer than 53 bits. -/
def leastExponent : Int := -1074

def greatestExponent : Int := 971

def zero (negative : Bool) : Double :=
  ⟨negative, 0, leastExponent⟩

def isZero (x : Double) : Bool :=
  x.significand == 0

/-- The exponent of the greatest power of two that a positive quotient reaches. -/
def binaryExponent (num den : Nat) : Int :=
  let guess : Int := (num.log2 : Int) - (den.log2 : Int)
  if den * Nat.pow 2 guess.toNat ≤ num * Nat.pow 2 (-guess).toNat then guess else guess - 1

/-- The double nearest to `± num / den`, or none when that is beyond the greatest double. -/
def ofQuotient? (negative : Bool) (num den : Nat) : Option Double :=
  if num = 0 then some (zero negative)
  else
    let exponent := max (binaryExponent num den - 52) leastExponent
    let significand :=
      roundHalfEven (num * Nat.pow 2 (-exponent).toNat) (den * Nat.pow 2 exponent.toNat)
    let rounded : Double :=
      if significand = Nat.pow 2 53 then ⟨negative, Nat.pow 2 52, exponent + 1⟩
      else ⟨negative, significand, exponent⟩
    if rounded.exponent ≤ greatestExponent then some rounded else none

def magnitude (x : Double) : Nat × Nat :=
  (x.significand * Nat.pow 2 x.exponent.toNat, Nat.pow 2 (-x.exponent).toNat)

def mul? (x y : Double) : Option Double :=
  ofQuotient? (x.negative != y.negative) (x.magnitude.1 * y.magnitude.1)
    (x.magnitude.2 * y.magnitude.2)

/-- The double nearest to the quotient by a divisor other than zero, or none on overflow. -/
def div? (x y : Double) : Option Double :=
  ofQuotient? (x.negative != y.negative) (x.magnitude.1 * y.magnitude.2)
    (x.magnitude.2 * y.magnitude.1)

def ofNat? (n : Nat) : Option Double :=
  ofQuotient? false n 1

def neg (x : Double) : Double :=
  { x with negative := !x.negative }

end Double

end ApiConsole.Json
