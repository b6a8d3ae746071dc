import ApiConsole.Text.Basic

/-!
# IPv4 addresses

An address has up to four parts, written in decimal, in octal behind a zero, or in hexadecimal
behind `0x`. All but the last are bytes; the last one fills the bytes that are left. A host is meant
as an address if its last part is a number.
-/

namespace ApiConsole.Url

structure Ipv4 where
  number : UInt32
  deriving DecidableEq, Repr

namespace Ipv4

/-- The number of digits in a base of at most sixteen, unless one of them is none. -/
def digitsIn? (base : Nat) (cs : List Char) : Option Nat := do
  let digits ← cs.mapM Text.hexValue?
  if digits.all (· < base) then some (Text.numberOf base digits) else none

def partNumber? : List Char → Option Nat
  | [] => none
  | ['0'] => some 0
  | '0' :: c :: rest =>
      if c = 'x' ∨ c = 'X' then digitsIn? 16 rest else digitsIn? 8 (c :: rest)
  | cs => digitsIn? 10 cs

/-- The parts of a host, less the empty one behind a dot at its end. -/
def parts (host : List Char) : List (List Char) :=
  let parts := Text.splitOn (· == '.') host
  if 1 < parts.length ∧ parts.getLast? = some [] then parts.dropLast else parts

/-- Whether the last part of a host is a number, or looks like one. -/
def isMeant (host : List Char) : Bool :=
  match (parts host).getLast? with
  | none => false
  | some part => (!part.isEmpty && part.all Char.isDigit) || (partNumber? part).isSome

def ofNumbers? (numbers : List Nat) : Option Ipv4 :=
  match numbers.getLast? with
  | none => none
  | some last =>
      let bytes := numbers.dropLast
      if bytes.length < 4 ∧ bytes.all (· < 256) ∧ last < Nat.pow 256 (4 - bytes.length) then
        some ⟨.ofNat (Text.numberOf 256 bytes * Nat.pow 256 (4 - bytes.length) + last)⟩
      else none

def ofText? (host : List Char) : Option Ipv4 := do
  ofNumbers? (← (parts host).mapM partNumber?)

def bytes (address : Ipv4) : List Nat :=
  let n := address.number.toNat
  [n / 16777216, n / 65536 % 256, n / 256 % 256, n % 256]

def text (address : Ipv4) : List Char :=
  Text.joinWith ['.'] (address.bytes.map (Nat.toDigits 10))

end Ipv4

end ApiConsole.Url
