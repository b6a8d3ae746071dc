import ApiConsole.Json.Fault
import ApiConsole.Json.Value
import ApiConsole.Text.Basic

/-!
# Reading numbers

The digits of a number are gathered into a significand of 64 bits. Digits that no longer fit count
as powers of ten before the point and are dropped behind it. A number without point and exponent
whose digits all fit is an integer if it is in range; any other is the double that the significand
gives when it is rounded and then multiplied, or divided, by a rounded power of ten.
-/

namespace ApiConsole.Json

open Text (digitValue digitsValue)

/-- Appends digits to a significand while it stays below `2 ^ 64`; gives the digits left over. -/
def gather : Nat → List Char → Nat × List Char
  | significand, [] => (significand, [])
  | significand, d :: rest =>
      let longer := 10 * significand + digitValue d
      if longer < Nat.pow 2 64 then gather longer rest else (significand, d :: rest)

def exponentLimit : Nat := Nat.pow 2 31 - 1

/-- How many digits it takes to pass the greatest exponent, if they do. -/
def passesLimit? : Nat → List Char → Option Nat
  | _, [] => none
  | value, d :: rest =>
      let longer := 10 * value + digitValue d
      if exponentLimit < longer then some 1 else (passesLimit? longer rest).map (· + 1)

def greatestPower : Nat := 308

namespace Double

/-- Divides by a power of ten, in steps of the greatest power, until nothing is left. -/
def divByPower? (x : Double) (power : Nat) : Option Double :=
  if greatestPower < power then
    if x.isZero then some x
    else do
      let step ← ofNat? (Nat.pow 10 greatestPower)
      let y ← x.div? step
      divByPower? y (power - greatestPower)
  else do
    let divisor ← ofNat? (Nat.pow 10 power)
    x.div? divisor
termination_by power
decreasing_by
  simp only [greatestPower] at *
  omega

/-- Multiplies by a power of ten, or none when the product is not finite. -/
def mulByPower? (x : Double) (power : Nat) : Option Double :=
  if greatestPower < power then
    if x.isZero then some x else none
  else do
    let factor ← ofNat? (Nat.pow 10 power)
    x.mul? factor

/-- The double of a significand and a power of ten, or none when it is not finite. -/
def ofDecimal? (significand : Nat) (exponent : Int) : Option Double := do
  let x ← ofNat? significand
  if exponent < 0 then x.divByPower? exponent.natAbs else x.mulByPower? exponent.natAbs

end Double

/-- A number whose text ends at a cursor, unless its double is not finite. -/
def finishDouble (negative : Bool) (significand : Nat) (exponent : Int) (after : Cursor) :
    Except Fault (Number × Cursor) :=
  match Double.ofDecimal? significand exponent with
  | some x => .ok (.double (if negative then x.neg else x), after)
  | none => .error ⟨.numberOutOfRange, after.mark⟩

def readExponent (negative : Bool) (significand : Nat) (exponent : Int) (cursor : Cursor) :
    Except Fault (Number × Cursor) :=
  let (below, cursor) :=
    match cursor.rest with
    | '-' :: _ => (true, cursor.next)
    | '+' :: _ => (false, cursor.next)
    | _ => (false, cursor)
  let digits := cursor.rest.takeWhile Char.isDigit
  if digits.isEmpty then
    match cursor.rest with
    | [] => .error ⟨.valueEnds, cursor.mark⟩
    | _ :: _ => .error ⟨.invalidNumber, cursor.ahead⟩
  else
    let after := cursor.skip digits
    match passesLimit? 0 digits with
    | some count =>
        if significand ≠ 0 ∧ ¬ below then
          .error ⟨.numberOutOfRange, (cursor.skip (digits.take count)).mark⟩
        else .ok (.double (.zero negative), after)
    | none =>
        let written : Int := digitsValue digits
        finishDouble negative significand (if below then exponent - written else exponent + written)
          after

/-- Goes on behind the digits of a number that is not an integer. -/
def readScale (negative : Bool) (significand : Nat) (exponent : Int) (cursor : Cursor) :
    Except Fault (Number × Cursor) :=
  match cursor.rest with
  | 'e' :: _ => readExponent negative significand exponent cursor.next
  | 'E' :: _ => readExponent negative significand exponent cursor.next
  | _ => finishDouble negative significand exponent cursor

/-- The integer of a significand, or the double when it is out of range; minus zero is a double. -/
def wholeNumber (negative : Bool) (significand : Nat) (after : Cursor) :
    Except Fault (Number × Cursor) :=
  let value : Int := if negative then -(significand : Int) else significand
  if negative ∧ significand = 0 then .ok (.double (.zero true), after)
  else if fits : Fits value then .ok (.integer value fits, after)
  else finishDouble negative significand 0 after

/-- Reads the digits of a number behind its sign, and the rest of it. -/
def readDigits (negative : Bool) (cursor : Cursor) : Except Fault (Number × Cursor) :=
  match cursor.rest with
  | [] => .error ⟨.valueEnds, cursor.mark⟩
  | first :: rest =>
      if ¬ first.isDigit then .error ⟨.invalidNumber, cursor.ahead⟩
      else if first = '0' ∧ rest.head?.any Char.isDigit then
        .error ⟨.invalidNumber, cursor.next.ahead⟩
      else
        let whole := cursor.rest.takeWhile Char.isDigit
        let (significand, surplus) := gather 0 whole
        let behind := cursor.skip whole
        match behind.rest with
        | '.' :: _ =>
            let point := behind.next
            let fraction := point.rest.takeWhile Char.isDigit
            if fraction.isEmpty then
              match point.rest with
              | [] => .error ⟨.valueEnds, point.mark⟩
              | _ :: _ => .error ⟨.invalidNumber, point.ahead⟩
            else
              let (longer, dropped) := gather significand fraction
              let places : Int := (fraction.length : Int) - dropped.length
              readScale negative longer (surplus.length - places) (point.skip fraction)
        | 'e' :: _ => readScale negative significand surplus.length behind
        | 'E' :: _ => readScale negative significand surplus.length behind
        | _ =>
            if surplus.isEmpty then wholeNumber negative significand behind
            else finishDouble negative significand surplus.length behind

def readNumber (cursor : Cursor) : Except Fault (Number × Cursor) :=
  match cursor.rest with
  | '-' :: _ => readDigits true cursor.next
  | _ => readDigits false cursor

end ApiConsole.Json
