/-!
# Punycode

A label beyond ASCII is written with its ASCII characters first and the others behind them, each as
the distance from the one before in the order of code points and positions. A distance is a number
of base 36 in which every digit but the last reaches a threshold; the thresholds adapt to the
distances seen so far.
-/

namespace ApiConsole.Url.Punycode

def initialBias : Nat := 72

def initialPoint : Nat := 128

/-- The threshold of a digit, whose place counts in steps of the base. -/
def threshold (place bias : Nat) : Nat :=
  if place ≤ bias then 1 else min 26 (place - bias)

theorem threshold_pos (place bias : Nat) : 1 ≤ threshold place bias := by
  unfold threshold
  split <;> omega

theorem threshold_le (place bias : Nat) : threshold place bias ≤ 26 := by
  unfold threshold
  split <;> omega

/-- Divides a distance until it is small, and counts the places that this takes. -/
def shrink (delta places : Nat) : Nat × Nat :=
  if 455 < delta then shrink (delta / 35) (places + 36) else (delta, places)
termination_by delta
decreasing_by exact Nat.div_lt_self (by omega) (by omega)

/-- The bias behind a distance, which made a label of `length` characters. -/
def adapt (delta length : Nat) (first : Bool) : Nat :=
  let scaled := if first then delta / 700 else delta / 2
  let (small, places) := shrink (scaled + scaled / length) 0
  places + 36 * small / (small + 38)

/-- The digit of a value: letters and then decimal digits. -/
def digit (value : Nat) : Char :=
  if value < 26 then Char.ofNat (97 + value) else Char.ofNat (22 + value)

def digitValue? (c : Char) : Option Nat :=
  if c.isLower then some (c.toNat - 97)
  else if c.isUpper then some (c.toNat - 65)
  else if c.isDigit then some (c.toNat - 22)
  else none

def digitsOf (bias place delta : Nat) : List Char :=
  let t := threshold place bias
  if delta < t then [digit delta]
  else digit (t + (delta - t) % (36 - t)) :: digitsOf bias (place + 36) ((delta - t) / (36 - t))
termination_by delta
decreasing_by
  have pos := threshold_pos place bias
  have le := threshold_le place bias
  calc (delta - threshold place bias) / (36 - threshold place bias)
      ≤ delta - threshold place bias := Nat.div_le_self _ _
    _ < delta := by omega

/-- What the writer of a label knows between two characters. -/
structure Writing where
  output : List Char
  delta : Nat
  bias : Nat
  /-- How many characters are written. -/
  count : Nat

/-- Passes a character of the label while those of one code point are written. -/
def pass (basic point : Nat) (state : Writing) (c : Char) : Writing :=
  if c.toNat < point then { state with delta := state.delta + 1 }
  else if c.toNat = point then
    ⟨state.output ++ digitsOf state.bias 36 state.delta, 0,
      adapt state.delta (state.count + 1) (state.count == basic), state.count + 1⟩
  else state

/-- Writes the characters of ascending code points, none of which is below `next`. -/
def writeFrom (label : List Char) (basic : Nat) : List Nat → Nat → Writing → List Char
  | [], _, state => state.output
  | point :: rest, next, state =>
      let ahead := { state with delta := state.delta + (point - next) * (state.count + 1) }
      let behind := label.foldl (pass basic point) ahead
      writeFrom label basic rest (point + 1) { behind with delta := behind.delta + 1 }

/-- The code points beyond ASCII of a label, in ascending order and each once. -/
def pointsOf (label : List Char) : List Nat :=
  ((label.map Char.toNat).filter (initialPoint ≤ ·)).eraseDups.mergeSort (· ≤ ·)

def encode (label : List Char) : List Char :=
  let basic := label.filter (·.toNat < initialPoint)
  let start := if basic.isEmpty then [] else basic ++ ['-']
  writeFrom label basic.length (pointsOf label) initialPoint
    ⟨start, 0, initialBias, basic.length⟩

/-- What the reader of a label knows between two digits. -/
structure Reading where
  output : List Char
  point : Nat
  /-- Where the next character goes, as far as the digits of its distance are read. -/
  index : Nat
  bias : Nat
  /-- The index at the start of the distance. -/
  start : Nat
  weight : Nat
  place : Nat

def character? (point : Nat) : Option Char :=
  if point.isValidChar then some (Char.ofNat point) else none

/-- Takes in a digit; the last one of a distance puts a character in its place. -/
def Reading.take? (state : Reading) (c : Char) : Option Reading := do
  let value ← digitValue? c
  let index := state.index + value * state.weight
  let t := threshold state.place state.bias
  if value < t then
    let length := state.output.length + 1
    let point := state.point + index / length
    let character ← character? point
    let place := index % length
    let bias := adapt (index - state.start) length (state.start == 0)
    return ⟨state.output.take place ++ character :: state.output.drop place, point, place + 1, bias,
      place + 1, 1, 36⟩
  else return { state with index, weight := state.weight * (36 - t), place := state.place + 36 }

def cutAtHyphen (cs : List Char) : List Char × List Char :=
  let behind := (cs.reverse.takeWhile (· != '-')).reverse
  (cs.take (cs.length - behind.length - 1), behind)

def decode? (cs : List Char) : Option (List Char) := do
  let (basic, digits) :=
    if cs.head? = some '-' ∧ !cs.tail.contains '-' then ([], cs) else cutAtHyphen cs
  if basic.any (initialPoint ≤ ·.toNat) then none
  let state ← digits.foldlM Reading.take? ⟨basic, initialPoint, 0, initialBias, 0, 1, 36⟩
  if state.place = 36 then some state.output else none

end ApiConsole.Url.Punycode
