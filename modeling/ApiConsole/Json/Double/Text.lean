import ApiConsole.Json.Double.Basic

/-!
# The text of a double

A double is written with the fewest decimal digits that round back to it, and of those with the
digits nearest to it. The search tries one digit, then two, and so on: a decimal of that many
digits rounds back only if one of the two decimals next to the double does.

A double is written positionally while its decimal point stands near its digits, always with a
digit on either side of the point, and with a signed exponent otherwise.
-/

namespace ApiConsole.Json

/-! ### Shortest decimals -/

/-- The positive decimal `0.d₁d₂… * 10 ^ point`, whose digits are those of `digits`. -/
structure Decimal where
  digits : Nat
  point : Int
  deriving DecidableEq, Repr

namespace Decimal

def digitsOf (n : Nat) : List Char :=
  Nat.toDigits 10 n

/-- Takes zeros off the end of a number, at most as many as the fuel says. -/
def stripZeros : Nat → Nat → Nat
  | 0, n => n
  | fuel + 1, n => if n ≠ 0 ∧ n % 10 = 0 then stripZeros fuel (n / 10) else n

end Decimal

namespace Double

/-- How many decimal places are enough for every double to have a digit before the point. -/
def decimalPlaces : Nat := 400

def decimalPoint (x : Double) : Int :=
  let (num, den) := x.magnitude
  ((Decimal.digitsOf (num * Nat.pow 10 decimalPlaces / den)).length : Int) - decimalPlaces

/--
Whether `candidate * 10 ^ scale` rounds to the positive double. The reals that do lie between the
midpoints to the two neighbours, and the midpoints count when the significand is even. The lower
neighbour of a power of two is half as far away as the upper one.
-/
def roundsBack (x : Double) (candidate : Nat) (scale : Int) : Bool :=
  let below := if x.significand = Nat.pow 2 52 ∧ leastExponent < x.exponent then 1 else 2
  let unit := Nat.pow 2 x.exponent.toNat * Nat.pow 10 (-scale).toNat
  let side := 4 * candidate * (Nat.pow 2 (-x.exponent).toNat * Nat.pow 10 scale.toNat)
  let low := (4 * x.significand - below) * unit
  let high := (4 * x.significand + 2) * unit
  if x.significand % 2 = 0 then decide (low ≤ side ∧ side ≤ high)
  else decide (low < side ∧ side < high)

/-- Of the two decimals next to the double on a grid, the one that rounds back; the nearer if
both do. -/
def onGrid? (x : Double) (scale : Int) : Option Nat :=
  let num := x.significand * Nat.pow 2 x.exponent.toNat * Nat.pow 10 (-scale).toNat
  let den := Nat.pow 2 (-x.exponent).toNat * Nat.pow 10 scale.toNat
  let low := num / den
  let nearest := roundHalfEven num den
  match x.roundsBack low scale, x.roundsBack (low + 1) scale with
  | true, true => some nearest
  | true, false => some low
  | false, true => some (low + 1)
  | false, false => none

/-- Tries the grid of `count` digits, and `fuel` finer ones when it holds no decimal. -/
def shortestFrom (x : Double) (point : Int) : Nat → Nat → Decimal
  | 0, count => ⟨(x.onGrid? (point - count)).getD 0, point⟩
  | fuel + 1, count =>
      match x.onGrid? (point - count) with
      | some candidate =>
          let carried := if Nat.pow 10 count ≤ candidate then point + 1 else point
          ⟨Decimal.stripZeros count candidate, carried⟩
      | none => shortestFrom x point fuel (count + 1)

/-- The shortest decimal that rounds back to a positive double; seventeen digits always do. -/
def shortest (x : Double) : Decimal :=
  shortestFrom x x.decimalPoint 17 1

end Double

/-! ### The text of a double -/

/-- Where the decimal point may stand in a positional text, and how the exponent is marked. -/
structure DoubleFormat where
  /-- The least place of the point, counted from before the first digit. -/
  leastPoint : Int
  /-- The greatest place of the point. -/
  greatestPoint : Int
  /-- The mark before the sign of the exponent. -/
  mark : Char

/-- Positional from `0.00001` up to below `10 ^ 16`, and `e` before a signed exponent elsewhere. -/
def doubleFormat : DoubleFormat :=
  ⟨-4, 16, 'e'⟩

namespace Decimal

/-- The digits with the point among them, or with zeros up to it. -/
def positional (d : Decimal) : List Char :=
  let ds := digitsOf d.digits
  if d.point ≤ 0 then ['0', '.'] ++ List.replicate (-d.point).toNat '0' ++ ds
  else
    let whole := d.point.toNat
    if ds.length ≤ whole then ds ++ List.replicate (whole - ds.length) '0' ++ ['.', '0']
    else ds.take whole ++ ['.'] ++ ds.drop whole

/-- One digit, the others behind a point, and the exponent with its sign. -/
def scientific (mark : Char) (d : Decimal) : List Char :=
  let ds := digitsOf d.digits
  let fraction := if ds.length ≤ 1 then [] else '.' :: ds.drop 1
  let exponent := d.point - 1
  let sign := if exponent < 0 then '-' else '+'
  ds.take 1 ++ fraction ++ [mark, sign] ++ digitsOf exponent.natAbs

end Decimal

namespace Double

/-- The text of a double in a format; a zero keeps its sign. -/
def text (format : DoubleFormat) (x : Double) : List Char :=
  let sign := if x.negative then ['-'] else []
  if x.isZero then sign ++ ['0', '.', '0']
  else
    let d := x.shortest
    if format.leastPoint ≤ d.point ∧ d.point ≤ format.greatestPoint then sign ++ d.positional
    else sign ++ d.scientific format.mark

end Double

end ApiConsole.Json
